import Vigil.BufferPoints
import Vigil.Runs

/-!
# Bounded buffers

Every point of every call respects the caps with at most one `recv()` or one
frame on top (`buffers_bounded`).  The run may not read again after an
`on_readable` call has failed the connection, until it is rebound: each such
call could add another chunk.  Both reactors drop the connection in that step.
-/

namespace Vigil

open ByteOrder

namespace Connection

variable {σ : Type}

/-! ## Calls -/

theorem finishRead_capped {c : Connection σ} (h : WriteCapped c) (ending : RecvEnd) (now : Int) :
    WriteCapped (c.finishRead ending now) := by
  rcases finishRead_cases c ending now with heq | heq | ⟨errno, heq⟩
  · rw [heq]
    exact h
  · rw [heq]
    exact writeCapped_failed rfl h.most
  · rw [heq]
    exact writeCapped_failed rfl h.most

theorem onReadable_points (cfg : Config) {c : Connection σ} (h : WriteCapped c)
    (hread : c.readAccum.length ≤ kMaxReadAccumBytes) (recvs : List RecvOutcome) (now : Int) :
    (∀ p ∈ c.readPoints cfg recvs now, Point p (c.onReadable cfg recvs now)) ∧
      Point (c.onReadable cfg recvs now) (c.onReadable cfg recvs now) ∧
      WriteCapped (c.onReadable cfg recvs now) := by
  obtain ⟨hrecv, hlast⟩ := recvLoop_points now recvs hread
  -- a connection that is over its write cap has failed and stays so
  have hrecvPoint : ∀ p ∈ recvPoints recvs c,
      ((recvLoop now recvs c).2 = none → (c.onReadable cfg recvs now).state = .kFailed) →
        Point p (c.onReadable cfg recvs now) := by
    intro p hp hnone
    obtain ⟨hle, hwrite, hover⟩ := hrecv p hp
    refine ⟨hle, by rw [hwrite]; exact h.most, ?_⟩
    intro hpast
    rcases hpast with hpast | hpast
    · exact hnone (hover hpast)
    · apply onReadable_stays_failed
      by_contra hlive
      have hcap := h.live hlive
      rw [hwrite] at hpast
      omega
  rcases recvLoop_eq now recvs c with ⟨hle, heq⟩ | ⟨buf, hlen, hpre, heq⟩
  · -- everything was taken in and is drained
    have hreceived : WriteCapped (c.withRead (c.readAccum ++ recvBytes recvs)) :=
      ⟨h.most, h.live, h.idle⟩
    obtain ⟨hdrain, hcapped⟩ := drainLoop_points cfg now
      (c.withRead (c.readAccum ++ recvBytes recvs)).readAccum.length 0 hreceived (hle hread)
    have hresult : c.onReadable cfg recvs now =
        ((c.withRead (c.readAccum ++ recvBytes recvs)).drainReadBuffer cfg now).finishRead
          (recvEnd recvs) now := by
      rw [onReadable, heq]
    have hfinished := finishRead_capped hcapped (recvEnd recvs) now
    have hfailed : (drainLoop cfg now (c.withRead (c.readAccum ++ recvBytes recvs)).readAccum.length
        0 (c.withRead (c.readAccum ++ recvBytes recvs))).state = .kFailed →
        (c.onReadable cfg recvs now).state = .kFailed := by
      intro hf
      rw [hresult, drainReadBuffer, finishRead_failed _ _ now hf, hf]
    refine ⟨fun p hp => ?_, ?_, ?_⟩
    · rw [readPoints, heq] at hp
      rcases List.mem_append.mp hp with hp | hp
      · exact hrecvPoint p hp fun hnone => by simp [heq] at hnone
      · exact (hdrain p hp).later hfailed
    · rw [hresult, drainReadBuffer]
      apply hfinished.point
      rw [readAccum_of_core (finishRead_core _ _ now)]
      have hleft : (feedBuffer cfg now (c.readAccum ++ recvBytes recvs)
          (c.withRead (c.readAccum ++ recvBytes recvs))).2.length < kHeartbeatMessageSize :=
        Framing.drain_leftover (by decide) _ _
      have hdrained := drainReadBuffer_eq cfg (c.withRead (c.readAccum ++ recvBytes recvs)) now
      rw [drainReadBuffer] at hdrained
      rw [hdrained]
      exact hleft.le.trans (by decide)
    · rw [hresult, drainReadBuffer]
      exact hfinished
  · -- the cap was passed
    have hresult : c.onReadable cfg recvs now =
        (c.withRead buf).handleProtocolViolation .readAccumExceeded now := by
      rw [onReadable, heq]
    have hfailed : (c.onReadable cfg recvs now).state = .kFailed := by
      rw [hresult]
      rfl
    have hcapped : WriteCapped (c.onReadable cfg recvs now) := by
      apply writeCapped_failed hfailed
      rw [hresult]
      exact h.most
    refine ⟨fun p hp => ?_, ⟨?_, hcapped.most, fun _ => hfailed⟩, hcapped⟩
    · rw [readPoints, heq, List.append_nil] at hp
      exact hrecvPoint p hp fun _ => hfailed
    · rw [hresult]
      rw [heq] at hlast
      exact hlast

theorem onWritable_points {c : Connection σ} (h : WriteCapped c)
    (hread : c.readAccum.length ≤ kMaxReadAccumBytes + 4096)
    (hover : kMaxReadAccumBytes < c.readAccum.length → c.state = .kFailed) (soError : Nat)
    (now : Int) :
    (∀ p ∈ c.writePoints soError now, Point p (c.onWritable soError now)) ∧
      WriteCapped (c.onWritable soError now) := by
  unfold writePoints onWritable
  by_cases hconnecting : c.state = .kConnecting
  · have hlive : c.writePending.length ≤ kMaxWritePendingBytes := h.live (by simp [hconnecting])
    have hfits : c.readAccum.length ≤ kMaxReadAccumBytes := by
      by_contra hpast
      have hfailed := hover (Nat.not_le.mp hpast)
      simp [hconnecting] at hfailed
    rw [if_pos hconnecting, if_pos hconnecting]
    split
    · exact ⟨fun p hp => absurd hp List.not_mem_nil, writeCapped_failed rfl h.most⟩
    · dsimp only
      split
      · next hrole =>
          refine ⟨fun p hp => ?_, ?_⟩
          · have hpoint := queuePoints_point (c := c.transitionTo .kHandshaking now) hlive hfits hp
              fun _ hfailed => hfailed
            exact hpoint
          · refine queueMessage_capped (c.transitionTo .kHandshaking now) _ hlive fun hresponder => ?_
            have hr : c.role = .kResponder := hresponder
            simp [hrole] at hr
      · refine ⟨fun p hp => absurd hp List.not_mem_nil, h.most, fun _ => hlive, ?_⟩
        intro hresponder _
        exact h.idle hresponder (Or.inl hconnecting)
  · rw [if_neg hconnecting, if_neg hconnecting]
    have hpending := flushWriteBuffer_pending c
    have hstate := flushWriteBuffer_state c
    have hfailed : c.state = .kFailed → c.flushWriteBuffer.state = .kFailed := by
      intro hf
      rw [hstate, hf, ite_self]
    refine ⟨fun p hp => ?_, hpending.trans h.most, ?_, ?_⟩
    · obtain ⟨hle, hbuf⟩ := flushPoints_le _ c p hp
      refine ⟨by rw [hbuf]; exact hread, hle.trans h.most, fun hpast => hfailed ?_⟩
      rw [hbuf] at hpast
      rcases hpast with hpast | hpast
      · exact hover hpast
      · by_contra hlive
        have hcap := h.live hlive
        omega
    · intro hlive
      exact hpending.trans (h.live fun hf => hlive (hfailed hf))
    · intro hresponder hopen
      have hrole : c.role = .kResponder := by
        rw [← hresponder]
        exact (role_of_identity (identity_of_core (flushWriteBuffer_core c))).symm
      have hbefore : c.state = .kConnecting ∨ c.state = .kHandshaking := by
        rw [hstate] at hopen
        split at hopen
        · simp at hopen
        · exact hopen
      have hempty := h.idle hrole hbefore
      rw [hempty] at hpending
      exact List.eq_nil_of_length_eq_zero (Nat.le_zero.mp hpending)

theorem sendPing_points {c : Connection σ} (h : WriteCapped c)
    (hread : c.state ≠ .kFailed → c.readAccum.length ≤ kMaxReadAccumBytes) (now : Int) :
    (∀ p ∈ c.pingPoints now, Point p (c.sendPing now)) ∧ WriteCapped (c.sendPing now) := by
  by_cases hguard : c.role = .kInitiator ∧ (c.state = .kHealthy ∨ c.state = .kDegraded)
  · have hlive : c.state ≠ .kFailed := by
      rcases hguard.2 with hs | hs
      · simp [hs]
      · simp [hs]
    have hno : ¬ (c.role ≠ .kInitiator ∨ (c.state ≠ .kHealthy ∧ c.state ≠ .kDegraded)) := by
      rintro (hr | hs)
      · exact hr hguard.1
      · rcases hguard.2 with h | h
        · exact hs.1 h
        · exact hs.2 h
    rw [sendPing_eq c now hguard.1 hguard.2, pingPoints, if_neg hno]
    refine ⟨fun p hp => ?_, ?_⟩
    · exact queuePoints_point (c := c.bumpSequence) (h.live hlive) (hread hlive) hp
        fun _ hfailed => hfailed
    · have hcapped := queueMessage_capped c.bumpSequence (c.pingMessage now) (h.live hlive)
        fun hresponder => by
          have hr : c.role = .kResponder := hresponder
          simp [hguard.1] at hr
      exact ⟨hcapped.most, hcapped.live, hcapped.idle⟩
  · have hyes : c.role ≠ .kInitiator ∨ (c.state ≠ .kHealthy ∧ c.state ≠ .kDegraded) := by
      rcases not_and_or.mp hguard with hr | hs
      · exact Or.inl hr
      · exact Or.inr (not_or.mp hs)
    rw [sendPing_idle c now hguard, pingPoints, if_pos hyes]
    exact ⟨fun p hp => absurd hp List.not_mem_nil, h⟩

theorem sendPong_points {c : Connection σ} (h : WriteCapped c)
    (hread : c.state ≠ .kFailed → c.readAccum.length ≤ kMaxReadAccumBytes)
    (sequence timestampNs : BitVec 64) :
    (∀ p ∈ c.pongPoints sequence timestampNs, Point p (c.sendPong sequence timestampNs)) ∧
      WriteCapped (c.sendPong sequence timestampNs) := by
  by_cases hguard : c.role ≠ .kResponder ∨ c.state ≠ .kHealthy
  · rw [pongPoints, sendPong, if_pos hguard, if_pos hguard]
    exact ⟨fun p hp => absurd hp List.not_mem_nil, h⟩
  · have hopen := hguard
    push Not at hopen
    have hlive : c.state ≠ .kFailed := by simp [hopen.2]
    refine ⟨fun p hp => pongPoints_point h (hread hlive) _ _ hp, ?_⟩
    rw [sendPong, if_neg hguard]
    exact queueMessage_capped c _ (h.live hlive) fun _ => by simp [hopen.2]

theorem checkTimeout_capped (cfg : Config) {c : Connection σ} (h : WriteCapped c) (now : Int) :
    WriteCapped (c.checkTimeout cfg now).2 := by
  have hresult := checkTimeout_result cfg c now
  generalize c.checkTimeout cfg now = result at hresult ⊢
  cases hresult with
  | idle => exact h
  | attempting => exact h
  | attemptExpired => exact writeCapped_failed rfl h.most
  | alive => exact h
  | silent => exact writeCapped_failed rfl h.most
  | lastMiss => exact writeCapped_failed rfl h.most
  | miss hs =>
      refine ⟨h.most, fun _ => ?_, fun _ hopen => ?_⟩
      · rcases hs with hs | hs
        · exact h.live (by simp [hs])
        · exact h.live (by simp [hs])
      · rcases hopen with hopen | hopen
        · cases hopen
        · cases hopen

/-- What is known of the buffers between calls. -/
structure Buffered (c : Connection σ) : Prop where
  write : WriteCapped c
  leftover : Leftover c
  read : c.readAccum.length ≤ kMaxReadAccumBytes + 4096

theorem Buffered.read_live {c : Connection σ} (h : Buffered c) (hlive : c.state ≠ .kFailed) :
    c.readAccum.length ≤ kMaxReadAccumBytes :=
  (h.leftover hlive).le.trans (by decide)

theorem Buffered.read_over {c : Connection σ} (h : Buffered c)
    (hover : kMaxReadAccumBytes < c.readAccum.length) : c.state = .kFailed := by
  by_contra hlive
  exact absurd (h.read_live hlive) (Nat.not_le.mpr hover)

/-- **One call.**  Unless it reads into a buffer that is already over its cap,
the buffers stay within bounds, and a buffer that passes its cap fails the
connection. -/
theorem Buffered.call {c : Connection σ} (h : Buffered c) (call : Call σ)
    (hgate : call.isRead = true → c.readAccum.length ≤ kMaxReadAccumBytes) :
    (∀ p ∈ c.points call, Point p (c.call call)) ∧ Buffered (c.call call) := by
  have hleft := call_leftover c call h.leftover
  suffices hsuff : (∀ p ∈ (c.points call).dropLast, Point p (c.call call)) ∧
      Point (c.call call) (c.call call) ∧ WriteCapped (c.call call) by
    obtain ⟨hinside, hlast, hcapped⟩ := hsuff
    refine ⟨fun p hp => ?_, hcapped, hleft, hlast.read⟩
    have hpoints : c.points call = (c.points call).dropLast ++ [c.call call] := by
      simp [points]
    rw [hpoints] at hp
    rcases List.mem_append.mp hp with hp | hp
    · exact hinside p hp
    · rw [List.mem_singleton.mp hp]
      exact hlast
  have hdrop : ∀ inside : List (Connection σ), (inside ++ [c.call call]).dropLast = inside :=
    fun inside => by simp
  -- a call that does not read leaves the receive buffer alone
  have hkept : call.isRead = false → call.isRebind = false → WriteCapped (c.call call) →
      Point (c.call call) (c.call call) := by
    intro hnoread hnorebind hcapped
    have hbuf := readAccum_of_core (call_core c call hnoread hnorebind)
    refine ⟨by rw [hbuf]; exact h.read, hcapped.most, fun hover => ?_⟩
    rw [hbuf] at hover
    rcases hover with hover | hover
    · exact call_stays_failed c call (h.read_over hover) hnorebind
    · by_contra hlive
      have hcap := hcapped.live hlive
      omega
  have hin : WriteCapped (c.withEnv call.env) := ⟨h.write.most, h.write.live, h.write.idle⟩
  obtain ⟨cfg, env, op⟩ := call
  simp only [points, hdrop]
  cases op with
  | onReadable recvs now => exact onReadable_points cfg hin (hgate rfl) recvs now
  | onWritable soError now =>
      obtain ⟨hinside, hcapped⟩ := onWritable_points hin h.read h.read_over soError now
      exact ⟨hinside, hkept rfl rfl hcapped, hcapped⟩
  | onHangupOrError errno now =>
      have hcapped : WriteCapped (c.call ⟨cfg, env, .onHangupOrError errno now⟩) :=
        writeCapped_failed rfl h.write.most
      exact ⟨fun p hp => absurd hp List.not_mem_nil, hkept rfl rfl hcapped, hcapped⟩
  | sendPing now =>
      obtain ⟨hinside, hcapped⟩ := sendPing_points hin h.read_live now
      exact ⟨hinside, hkept rfl rfl hcapped, hcapped⟩
  | sendPong sequence timestampNs =>
      obtain ⟨hinside, hcapped⟩ := sendPong_points hin h.read_live sequence timestampNs
      exact ⟨hinside, hkept rfl rfl hcapped, hcapped⟩
  | checkTimeout now =>
      have hcapped : WriteCapped (c.call ⟨cfg, env, .checkTimeout now⟩) :=
        checkTimeout_capped cfg hin now
      exact ⟨fun p hp => absurd hp List.not_mem_nil, hkept rfl rfl hcapped, hcapped⟩
  | resetLivenessBaseline now =>
      have hcapped : WriteCapped (c.call ⟨cfg, env, .resetLivenessBaseline now⟩) :=
        ⟨h.write.most, h.write.live, h.write.idle⟩
      exact ⟨fun p hp => absurd hp List.not_mem_nil, hkept rfl rfl hcapped, hcapped⟩
  | rebind newFd now =>
      have hcapped : WriteCapped (c.call ⟨cfg, env, .rebind newFd now⟩) :=
        ⟨Nat.zero_le _, fun _ => Nat.zero_le _, fun _ _ => rfl⟩
      exact ⟨fun p hp => absurd hp List.not_mem_nil, hcapped.point (Nat.zero_le _), hcapped⟩

/-! ## Runs -/

end Connection

/-- Is this the change to `kFailed`? -/
def Report.entersFailed : Report → Bool
  | .transition _ .kFailed => true
  | _ => false

/-- A connection in a run; `readFailed` says that an `on_readable` call has
failed it since it was last rebound. -/
structure Gated (σ : Type) where
  connection : Connection σ
  readFailed : Bool := false

namespace Gated

open Connection

variable {σ : Type}

/-- Did the call that took `c` to `after` fail it? -/
def failedBy (c after : Connection σ) : Bool :=
  after.state = .kFailed ∧
    (after.trace.reports.drop c.trace.reports.length).any Report.entersFailed

def call (g : Gated σ) (call : Call σ) : Gated σ where
  connection := g.connection.call call
  readFailed := !call.isRebind &&
    (g.readFailed || call.isRead && failedBy g.connection (g.connection.call call))

/-- `on_readable` is not called once it has failed the connection. -/
def ReadAllowed (g : Gated σ) (call : Call σ) : Prop :=
  call.isRead = true → g.readFailed = false

instance (g : Gated σ) (call : Call σ) : Decidable (ReadAllowed g call) :=
  inferInstanceAs (Decidable (_ → _))

/-- The buffers during one call: within bounds at every point, a buffer that
passes its cap fails the connection by the end, and reading leaves less than
one frame unless it fails the connection. -/
structure CallBounded (g : Gated σ) (call : Call σ) : Prop where
  points : ∀ p ∈ g.connection.points call,
    p.readAccum.length ≤ kMaxReadAccumBytes + 4096 ∧
      p.writePending.length ≤ kMaxWritePendingBytes + 28
  exceeded : ∀ p ∈ g.connection.points call,
    kMaxReadAccumBytes < p.readAccum.length ∨ kMaxWritePendingBytes < p.writePending.length →
      (g.call call).connection.state = .kFailed
  leftover : call.isRead = true → (g.call call).connection.state ≠ .kFailed →
    (g.call call).connection.readAccum.length < 28

/-- As long as reading is allowed, the receive buffer holds less than a frame. -/
structure Bounded (g : Gated σ) : Prop where
  buffered : Buffered g.connection
  read : g.readFailed = false → g.connection.readAccum.length < kHeartbeatMessageSize

/-- A read that leaves a frame or more has passed the cap, and so failed the
connection. -/
theorem onReadable_failedBy (cfg : Config) (c : Connection σ) (recvs : List RecvOutcome) (now : Int)
    (hlong : kHeartbeatMessageSize ≤ (c.onReadable cfg recvs now).readAccum.length) :
    failedBy c (c.onReadable cfg recvs now) = true := by
  rcases onReadable_eq cfg c recvs now with ⟨all, _, heq⟩ | ⟨buf, _, _, heq⟩
  · rw [heq, readAccum_of_core (finishRead_core _ _ now)] at hlong
    have hleft : (feedBuffer cfg now all c).2.length < kHeartbeatMessageSize :=
      Framing.drain_leftover (by decide) all c
    exact absurd hlong (Nat.not_le.mpr hleft)
  · rw [heq]
    simp [failedBy, handleProtocolViolation, transitionTo, report, withRead, Report.entersFailed]

theorem Bounded.call {g : Gated σ} (h : Bounded g) (call : Call σ) (hread : ReadAllowed g call) :
    CallBounded g call ∧ Bounded (g.call call) := by
  have hgate : call.isRead = true → g.connection.readAccum.length ≤ kMaxReadAccumBytes :=
    fun hisRead => (h.read (hread hisRead)).le.trans (by decide)
  obtain ⟨hpoints, hbuffered⟩ := h.buffered.call call hgate
  refine ⟨⟨fun p hp => ⟨(hpoints p hp).read, (hpoints p hp).write⟩, fun p hp => (hpoints p hp).exceeded,
    fun _ => hbuffered.leftover⟩, hbuffered, ?_⟩
  intro hopen
  show (g.connection.call call).readAccum.length < kHeartbeatMessageSize
  by_cases hisRead : call.isRead = true
  · obtain ⟨cfg, env, op⟩ := call
    cases op with
    | onReadable recvs now =>
        by_contra hlong
        have hfailed := onReadable_failedBy cfg (g.connection.withEnv env) recvs now
          (Nat.not_lt.mp hlong)
        have hopen' : (!false && (g.readFailed || true && failedBy (g.connection.withEnv env)
            ((g.connection.withEnv env).onReadable cfg recvs now))) = false := hopen
        simp [hfailed] at hopen'
    | _ => simp [Call.isRead] at hisRead
  · by_cases hisRebind : call.isRebind = true
    · obtain ⟨cfg, env, op⟩ := call
      cases op with
      | rebind newFd now => exact (by decide : 0 < kHeartbeatMessageSize)
      | _ => simp [Call.isRebind] at hisRebind
    · simp only [Bool.not_eq_true] at hisRead hisRebind
      rw [readAccum_of_core (call_core g.connection call hisRead hisRebind)]
      apply h.read
      simpa [Gated.call, hisRead, hisRebind] using hopen

theorem bounded_fresh {c : Connection σ} (hfresh : Fresh c) : Bounded { connection := c } := by
  obtain ⟨fd, role, feedId, host, port, interceptor, env, now, rfl⟩ := hfresh.created
  have hcapped : WriteCapped (create fd role feedId host port interceptor env now) :=
    ⟨Nat.zero_le _, fun _ => Nat.zero_le _, fun _ _ => rfl⟩
  exact ⟨⟨hcapped, fun _ => (by decide : 0 < kHeartbeatMessageSize), Nat.zero_le _⟩,
    fun _ => (by decide : 0 < kHeartbeatMessageSize)⟩

/-- **Bounded buffers.**  In every run of a new connection, whatever the peer
sends and whatever `send()` answers, if `on_readable` is not called again after
it has failed the connection: at every point of every call the receive buffer
holds at most one `recv()` more than its cap and the write queue at most one
frame more than its own; a connection that passed a cap has failed by the end of
the call; and an `on_readable` that does not fail it leaves less than a frame. -/
theorem buffers_bounded (c : Connection σ) (calls : List (Call σ)) (hfresh : Fresh c)
    (hreads : Runs.Along call ReadAllowed { connection := c } calls) :
    Runs.Along call CallBounded { connection := c } calls :=
  Runs.along_of_invariant (fun _ call h hread => (h.call call hread).2)
    (fun _ call h hread => (h.call call hread).1) (bounded_fresh hfresh) hreads

/-- A client sends a frame of zeros, which fails the connection; it is rebound
and then reads a HELLO whose ACK is sent only in part. -/
def corruptThenHello : List (Call Unit) :=
  [⟨{}, ⟨[], fun _ => 0, ()⟩, .onReadable [.data ⟨List.replicate 28 0, by decide⟩] 1⟩,
    ⟨{}, ⟨[], fun _ => 0, ()⟩, .rebind 9 2⟩,
    ⟨{}, ⟨[.sent 9], fun _ => 0, ()⟩, .onReadable [.data (frameChunk
      { type := MessageType.kConnectHello.toByte, feedId := 7 })] 3⟩]

theorem buffers_bounded_corruptThenHello :
    Runs.Along call CallBounded
      { connection := create 8 .kResponder 7 "127.0.0.1" 4000 none ⟨[], fun _ => 0, ()⟩ 0 }
      corruptThenHello := by
  apply buffers_bounded
  · exact ⟨8, .kResponder, 7, "127.0.0.1", 4000, none, ⟨[], fun _ => 0, ()⟩, 0, rfl⟩
  · decide +kernel

end Gated

end Vigil
