import Vigil.Calls

/-!
# The buffers inside a call

`read_accum_` and `write_pending_` are capped in the middle of loops, and an
over-full buffer is not cleared when it fails the connection.  The `points` of
a call are the states after each statement that changes a buffer, and the state
it returns.  `Point` is what is to hold of each of them; this module proves it
for the loops and the messages, given that the write queue is capped
(`WriteCapped`) when they begin.
-/

namespace Vigil

open ByteOrder

namespace Connection

variable {σ : Type}

/-! ## The states inside a call -/

/-- Inside `flush_write_buffer`: after each `send()` that took bytes. -/
def flushPoints : List SendOutcome → Connection σ → List (Connection σ)
  | [], _ => []
  | outcome :: rest, c =>
      if c.writePending = [] then [] else
      match outcome with
      | .sent n =>
          if 0 < n then
            if n < min 512 c.writePending.length then [c.acceptBytes n]
            else c.acceptBytes n :: flushPoints rest (c.acceptBytes n)
          else []
      | .eagain => []
      | .eintr => flushPoints rest c
      | .error _ => []

/-- `queue_write` after its insert. -/
def enqueued (c : Connection σ) (msg : HeartbeatMessage) : Connection σ :=
  { c.noteQueued msg with writePending := c.writePending ++ (encodeHeartbeat msg).bytes }

/-- Inside `queue_write`. -/
def queuePoints (c : Connection σ) (msg : HeartbeatMessage) : List (Connection σ) :=
  c.enqueued msg ::
    if (c.enqueued msg).writePending.length > kMaxWritePendingBytes then []
    else if c.writePending = [] then flushPoints c.env.sends (c.enqueued msg)
    else []

/-- Inside `send_pong`. -/
def pongPoints (c : Connection σ) (sequence timestampNs : BitVec 64) : List (Connection σ) :=
  if c.role ≠ .kResponder ∨ c.state ≠ .kHealthy then []
  else c.queuePoints (c.message .kPong sequence timestampNs)

/-- Inside `handle_message`: only a HELLO and a PING are answered. -/
def messagePoints (c : Connection σ) (msg : HeartbeatMessage) (now : Int) : List (Connection σ) :=
  match MessageType.ofByte msg.type with
  | some .kConnectHello =>
      if c.role ≠ .kResponder ∨ c.state ≠ .kHandshaking then []
      else if msg.feedId ≠ c.feedId then []
      else c.queuePoints (c.message .kConnectAck 0 (BitVec.ofInt 64 now))
  | some .kPing =>
      if c.role ≠ .kResponder ∨ c.state ≠ .kHealthy then []
      else if (c.askInterceptor msg now).1 then
        (c.askInterceptor msg now).2.pongPoints msg.sequence msg.timestampNs
      else []
  | _ => []

/-- Inside `drain_read_buffer`: while each message is handled, and after the
buffer is cleared or erased at the end. -/
def drainPoints (cfg : Config) (now : Int) : Nat → Nat → Connection σ → List (Connection σ)
  | 0, offset, c => [{ c with readAccum := c.readAccum.drop offset }]
  | turns + 1, offset, c =>
      if h : kHeartbeatMessageSize ≤ c.readAccum.length - offset then
        let decoded := decodeHeartbeat (frameAt c.readAccum offset h) {}
        if decoded.1 then
          let handled := c.dispatch cfg decoded.2 now
          (c.noteHandled decoded.2).messagePoints decoded.2 now ++
            if handled.state = .kFailed then [{ handled with readAccum := [] }]
            else drainPoints cfg now turns (offset + kHeartbeatMessageSize) handled
        else [{ c.handleProtocolViolation .corruptMessage now with readAccum := [] }]
      else [{ c with readAccum := c.readAccum.drop offset }]

/-- Inside the `recv()` loop: after each insert. -/
def recvPoints : List RecvOutcome → Connection σ → List (Connection σ)
  | .data chunk :: rest, c =>
      c.withRead (c.readAccum ++ chunk.val) ::
        if (c.readAccum ++ chunk.val).length > kMaxReadAccumBytes then []
        else recvPoints rest (c.withRead (c.readAccum ++ chunk.val))
  | .eintr :: rest, c => recvPoints rest c
  | _, _ => []

/-- Inside `on_readable`. -/
def readPoints (cfg : Config) (c : Connection σ) (recvs : List RecvOutcome) (now : Int) :
    List (Connection σ) :=
  recvPoints recvs c ++
    match recvLoop now recvs c with
    | (_, none) => []
    | (received, some _) => received.drainPoints cfg now received.readAccum.length 0

/-- Inside `on_writable`. -/
def writePoints (c : Connection σ) (soError : Nat) (now : Int) : List (Connection σ) :=
  if c.state = .kConnecting then
    if soError ≠ 0 then []
    else if c.role = .kInitiator then
      (c.transitionTo .kHandshaking now).queuePoints
        (c.message .kConnectHello 0 (BitVec.ofInt 64 now))
    else []
  else flushPoints c.env.sends c

/-- Inside `send_ping`. -/
def pingPoints (c : Connection σ) (now : Int) : List (Connection σ) :=
  if c.role ≠ .kInitiator ∨ (c.state ≠ .kHealthy ∧ c.state ≠ .kDegraded) then []
  else c.bumpSequence.queuePoints (c.pingMessage now)

/-- The states of a call after each statement that changes a buffer, and the
state it returns. -/
def points (c : Connection σ) (call : Call σ) : List (Connection σ) :=
  let entered := c.withEnv call.env
  let inside :=
    match call.op with
    | .onReadable recvs now => entered.readPoints call.cfg recvs now
    | .onWritable soError now => entered.writePoints soError now
    | .sendPing now => entered.pingPoints now
    | .sendPong sequence timestampNs => entered.pongPoints sequence timestampNs
    | _ => []
  inside ++ [c.call call]

/-! ## The write queue -/

/-- The write queue is at most one frame over its cap, and over it only if the
connection has failed; a responder has queued nothing before its handshake. -/
structure WriteCapped (c : Connection σ) : Prop where
  most : c.writePending.length ≤ kMaxWritePendingBytes + kHeartbeatMessageSize
  live : c.state ≠ .kFailed → c.writePending.length ≤ kMaxWritePendingBytes
  idle : c.role = .kResponder → c.state = .kConnecting ∨ c.state = .kHandshaking →
    c.writePending = []

/-- A point `p` of a call that ends in `after`. -/
structure Point (p after : Connection σ) : Prop where
  read : p.readAccum.length ≤ kMaxReadAccumBytes + 4096
  write : p.writePending.length ≤ kMaxWritePendingBytes + kHeartbeatMessageSize
  exceeded : kMaxReadAccumBytes < p.readAccum.length ∨
    kMaxWritePendingBytes < p.writePending.length → after.state = .kFailed

theorem Point.later {p mid after : Connection σ} (h : Point p mid)
    (hafter : mid.state = .kFailed → after.state = .kFailed) : Point p after :=
  ⟨h.read, h.write, fun hover => hafter (h.exceeded hover)⟩

theorem WriteCapped.point {c : Connection σ} (h : WriteCapped c)
    (hread : c.readAccum.length ≤ kMaxReadAccumBytes) : Point c c where
  read := hread.trans (Nat.le_add_right _ _)
  write := h.most
  exceeded := by
    intro hover
    by_contra hlive
    have hle := h.live hlive
    omega

/-- A connection that has failed only has to keep the upper bound. -/
theorem writeCapped_failed {c : Connection σ} (hfailed : c.state = .kFailed)
    (hmost : c.writePending.length ≤ kMaxWritePendingBytes + kHeartbeatMessageSize) :
    WriteCapped c where
  most := hmost
  live := fun hlive => absurd hfailed hlive
  idle := fun _ hopen => by simp [hfailed] at hopen

theorem flushPoints_le (outcomes : List SendOutcome) (c p : Connection σ)
    (hp : p ∈ flushPoints outcomes c) :
    p.writePending.length ≤ c.writePending.length ∧ p.readAccum = c.readAccum := by
  induction outcomes generalizing c with
  | nil => simp [flushPoints] at hp
  | cons outcome rest ih =>
      have haccept : ∀ n, (c.acceptBytes n).writePending.length ≤ c.writePending.length := by
        intro n
        simp [acceptBytes]
      by_cases hempty : c.writePending = []
      · simp [flushPoints, hempty] at hp
      · cases outcome with
        | sent n =>
            simp only [flushPoints, hempty, if_false] at hp
            split at hp
            · split at hp
              · rw [List.mem_singleton.mp hp]
                exact ⟨haccept n, rfl⟩
              · rcases List.mem_cons.mp hp with rfl | hrest
                · exact ⟨haccept n, rfl⟩
                · obtain ⟨hle, hread⟩ := ih (c.acceptBytes n) hrest
                  exact ⟨hle.trans (haccept n), hread⟩
            · cases hp
        | eagain => simp [flushPoints, hempty] at hp
        | eintr =>
            simp only [flushPoints, hempty, if_false] at hp
            exact ih c hp
        | error errno => simp [flushPoints, hempty] at hp

theorem enqueued_length (c : Connection σ) (msg : HeartbeatMessage) :
    (c.enqueued msg).writePending.length = c.writePending.length + kHeartbeatMessageSize := by
  rw [enqueued, List.length_append, (encodeHeartbeat msg).length_eq]

/-- A frame is queued: at most it is added, and if it does not fit, the
connection fails. -/
theorem queuePoints_le (c p : Connection σ) (msg : HeartbeatMessage)
    (hp : p ∈ c.queuePoints msg) :
    p.writePending.length ≤ c.writePending.length + kHeartbeatMessageSize ∧
      p.readAccum = c.readAccum ∧
      (kMaxWritePendingBytes < p.writePending.length → (c.queueMessage msg).state = .kFailed) := by
  have hlen := enqueued_length c msg
  have hfits : ∀ q : Connection σ, q.writePending.length ≤ (c.enqueued msg).writePending.length →
      kMaxWritePendingBytes < q.writePending.length → (c.queueMessage msg).state = .kFailed := by
    intro q hq hover
    have hcap : c.writePending.length + kHeartbeatMessageSize > kMaxWritePendingBytes := by omega
    rw [queueMessage_state, sendFails, if_pos hcap]
    rfl
  unfold queuePoints at hp
  rcases List.mem_cons.mp hp with rfl | hrest
  · exact ⟨hlen.le, rfl, hfits _ (Nat.le_refl _)⟩
  · split at hrest
    · cases hrest
    · split at hrest
      · obtain ⟨hle, hread⟩ := flushPoints_le _ _ p hrest
        exact ⟨hle.trans hlen.le, hread, hfits p hle⟩
      · cases hrest

/-- What is pending after a write was pending before or is the new frame. -/
theorem WriteSpec.pending_le {c : Connection σ} {msgs : List HeartbeatMessage} {fails : Bool}
    {w : WriteEffect} (h : WriteSpec c msgs fails w) :
    w.pending.length ≤ c.writePending.length + kHeartbeatMessageSize * msgs.length := by
  have hbytes := congrArg List.length h.bytes_eq
  have hgrows := h.accepted_grows.length_le
  have hframes : (msgs.flatMap fun m => (encodeHeartbeat m).bytes).length =
      msgs.length * kHeartbeatMessageSize := by
    rw [List.length_flatMap, List.map_congr_left fun m _ => (encodeHeartbeat m).length_eq,
      List.map_const', List.sum_replicate_nat]
  simp only [List.length_append, hframes] at hbytes
  rw [Nat.mul_comm kHeartbeatMessageSize]
  omega

theorem flushWriteBuffer_pending (c : Connection σ) :
    c.flushWriteBuffer.writePending.length ≤ c.writePending.length := by
  obtain ⟨w, hw, hspec⟩ := flushLoop_eq c.env.sends c
  rw [flushWriteBuffer, hw]
  exact hspec.pending_le

theorem queueMessage_pending (c : Connection σ) (msg : HeartbeatMessage) :
    (c.queueMessage msg).writePending.length ≤ c.writePending.length + kHeartbeatMessageSize := by
  obtain ⟨w, hw, hspec⟩ := queueMessage_eq c msg
  rw [hw]
  exact hspec.pending_le

/-- A frame is queued on a connection that is not over its cap and, if it is a
responder, has done its handshake. -/
theorem queueMessage_capped (c : Connection σ) (msg : HeartbeatMessage)
    (hcap : c.writePending.length ≤ kMaxWritePendingBytes)
    (hopen : c.role = .kResponder → c.state ≠ .kConnecting ∧ c.state ≠ .kHandshaking) :
    WriteCapped (c.queueMessage msg) := by
  have hpending := queueMessage_pending c msg
  have hstate := queueMessage_state c msg
  refine ⟨by omega, ?_, ?_⟩
  · intro hlive
    by_cases hover : c.writePending.length + kHeartbeatMessageSize > kMaxWritePendingBytes
    · rw [hstate, sendFails, if_pos hover] at hlive
      exact absurd rfl hlive
    · omega
  · intro hrole hstates
    have hrole' : c.role = .kResponder := by
      rw [← hrole]
      exact (role_of_identity (identity_of_core (queueMessage_core c msg))).symm
    rw [hstate] at hstates
    split at hstates
    · simp at hstates
    · simp [hopen hrole'] at hstates

/-- A frame is queued in the course of a longer call. -/
theorem queuePoints_point {c p after : Connection σ} {msg : HeartbeatMessage}
    (hcap : c.writePending.length ≤ kMaxWritePendingBytes)
    (hread : c.readAccum.length ≤ kMaxReadAccumBytes) (hp : p ∈ c.queuePoints msg)
    (hafter : kMaxWritePendingBytes < c.writePending.length + kHeartbeatMessageSize →
      (c.queueMessage msg).state = .kFailed → after.state = .kFailed) : Point p after := by
  obtain ⟨hle, hbuf, hover⟩ := queuePoints_le c p msg hp
  refine ⟨?_, by omega, ?_⟩
  · rw [hbuf]
    exact hread.trans (Nat.le_add_right _ _)
  · intro hpast
    rw [hbuf] at hpast
    exact hafter (by omega) (hover (by omega))

/-! ## Messages -/

theorem pongPoints_point {c : Connection σ} (h : WriteCapped c)
    (hread : c.readAccum.length ≤ kMaxReadAccumBytes) (sequence timestampNs : BitVec 64)
    {p : Connection σ} (hp : p ∈ c.pongPoints sequence timestampNs) :
    Point p (c.sendPong sequence timestampNs) := by
  unfold pongPoints at hp
  unfold sendPong
  split at hp
  · cases hp
  · next hguard =>
      rw [if_neg hguard]
      have hcap : c.writePending.length ≤ kMaxWritePendingBytes := by
        apply h.live
        intro hfailed
        simp [hfailed] at hguard
      exact queuePoints_point hcap hread hp fun _ hfailed => hfailed

theorem messagePoints_point (cfg : Config) {c : Connection σ} (h : WriteCapped c)
    (hread : c.readAccum.length ≤ kMaxReadAccumBytes) (msg : HeartbeatMessage) (now : Int)
    {p : Connection σ} (hp : p ∈ c.messagePoints msg now) :
    Point p (c.handleMessage cfg msg now) := by
  unfold messagePoints at hp
  unfold handleMessage
  cases htype : MessageType.ofByte msg.type with
  | none => simp [htype] at hp
  | some type =>
      cases type with
      | kConnectHello =>
          simp only [htype] at hp
          split at hp
          · cases hp
          · next hguard =>
              push Not at hguard
              split at hp
              · cases hp
              · -- nothing is queued before the ACK, so it fits
                have hempty : c.writePending = [] := h.idle hguard.1 (Or.inr hguard.2)
                have hlen : c.writePending.length = 0 := by rw [hempty]; rfl
                refine queuePoints_point (by omega) hread hp fun hover => ?_
                rw [hlen] at hover
                exact absurd hover (by decide)
      | kConnectAck => simp [htype] at hp
      | kPing =>
          simp only [htype] at hp
          show Point p (c.handlePing msg now)
          unfold handlePing
          split at hp
          · cases hp
          · next hguard =>
              rw [if_neg hguard]
              split at hp
              · next hask =>
                  have hsame : WriteCapped (c.askInterceptor msg now).2 ∧
                      (c.askInterceptor msg now).2.readAccum = c.readAccum := by
                    unfold askInterceptor
                    split
                    · exact ⟨⟨h.most, h.live, h.idle⟩, rfl⟩
                    · exact ⟨⟨h.most, h.live, h.idle⟩, rfl⟩
                  rw [if_pos hask]
                  exact pongPoints_point hsame.1 (by rw [hsame.2]; exact hread) _ _ hp
              · cases hp
      | kPong => simp [htype] at hp
      | kDisconnect => simp [htype] at hp

theorem handleMessage_capped (cfg : Config) {c : Connection σ} (h : WriteCapped c)
    (msg : HeartbeatMessage) (now : Int) : WriteCapped (c.handleMessage cfg msg now) := by
  have hresult := handleMessage_result cfg c msg now
  generalize c.handleMessage cfg msg now = result at hresult ⊢
  cases hresult with
  | violation reason hreason hun => exact writeCapped_failed rfl h.most
  | hello ht hr hs hf =>
      have hempty : c.writePending = [] := h.idle hr (Or.inr hs)
      have hpending := queueMessage_pending c (c.message .kConnectAck 0 (BitVec.ofInt 64 now))
      have hlen : c.writePending.length = 0 := by rw [hempty]; rfl
      rw [hlen] at hpending
      have hone : 0 + kHeartbeatMessageSize ≤ kMaxWritePendingBytes := by decide
      refine ⟨?_, fun _ => ?_, fun _ hopen => ?_⟩
      · exact hpending.trans (hone.trans (Nat.le_add_right _ _))
      · exact hpending.trans hone
      · rcases hopen with hopen | hopen
        · cases hopen
        · cases hopen
  | ack ht hr hs hf =>
      refine ⟨h.most, fun _ => h.live (by simp [hs]), fun hresponder => ?_⟩
      have hrole : c.role = .kResponder := hresponder
      simp [hr] at hrole
  | pingAnswered captured ht hr hs =>
      have hlive : c.writePending.length ≤ kMaxWritePendingBytes := h.live (by simp [hs])
      refine queueMessage_capped (c.heard now captured) _ hlive fun _ => ?_
      have hstate : (c.heard now captured).state = .kHealthy := hs
      simp [hstate]
  | pingHeld captured ht hr hs => exact ⟨h.most, h.live, h.idle⟩
  | duplicate ht hr hs hseen => exact h
  | untimely ht hr hs hseen hrtt => exact ⟨h.most, h.live, h.idle⟩
  | counted ht hr hs hseen hrtt => exact ⟨h.most, h.live, h.idle⟩
  | recovered ht hr hs hseen hrtt =>
      refine ⟨h.most, fun _ => h.live (by simp [hs]), fun hresponder => ?_⟩
      have hrole : c.role = .kResponder := hresponder
      simp [hr] at hrole
  | closed ht => exact writeCapped_failed rfl h.most
  | unknown ht => exact h

/-! ## Draining and receiving -/

/-- The end of a drain: only the receive buffer is replaced. -/
theorem WriteCapped.withRead_points {c : Connection σ} (h : WriteCapped c) {buf : List Byte}
    (hread : buf.length ≤ kMaxReadAccumBytes) :
    (∀ p ∈ [c.withRead buf], Point p (c.withRead buf)) ∧ WriteCapped (c.withRead buf) := by
  have hcapped : WriteCapped (c.withRead buf) := ⟨h.most, h.live, h.idle⟩
  refine ⟨fun p hp => ?_, hcapped⟩
  rw [List.mem_singleton.mp hp]
  exact hcapped.point hread

theorem drop_le_cap {buf : List Byte} (h : buf.length ≤ kMaxReadAccumBytes) (offset : Nat) :
    (buf.drop offset).length ≤ kMaxReadAccumBytes := by
  rw [List.length_drop]
  exact (Nat.sub_le _ _).trans h

/-- The buffers while complete frames are taken out of a receive buffer that is
not over its cap. -/
theorem drainLoop_points (cfg : Config) (now : Int) (turns offset : Nat) {c : Connection σ}
    (h : WriteCapped c) (hread : c.readAccum.length ≤ kMaxReadAccumBytes) :
    (∀ p ∈ drainPoints cfg now turns offset c, Point p (drainLoop cfg now turns offset c)) ∧
      WriteCapped (drainLoop cfg now turns offset c) := by
  have hnil : ([] : List Byte).length ≤ kMaxReadAccumBytes := Nat.zero_le _
  induction turns generalizing offset c with
  | zero => exact h.withRead_points (drop_le_cap hread offset)
  | succ turns ih =>
      by_cases hframe : kHeartbeatMessageSize ≤ c.readAccum.length - offset
      · simp only [drainPoints, drainLoop, dif_pos hframe]
        generalize decodeHeartbeat (frameAt c.readAccum offset hframe) {} = decoded
        split
        · have hnoted : WriteCapped (c.noteHandled decoded.2) := ⟨h.most, h.live, h.idle⟩
          have hmessage : ∀ p ∈ (c.noteHandled decoded.2).messagePoints decoded.2 now,
              Point p (c.dispatch cfg decoded.2 now) :=
            fun p hp => messagePoints_point cfg hnoted hread decoded.2 now hp
          have hhandled : WriteCapped (c.dispatch cfg decoded.2 now) :=
            handleMessage_capped cfg hnoted decoded.2 now
          split
          · next hfailed =>
              obtain ⟨hcleared, hcapped⟩ := hhandled.withRead_points hnil
              refine ⟨fun p hp => ?_, hcapped⟩
              rcases List.mem_append.mp hp with hp | hp
              · exact (hmessage p hp).later fun hf => hf
              · exact hcleared p hp
          · next hlive =>
              have hbuf : (c.dispatch cfg decoded.2 now).readAccum.length ≤ kMaxReadAccumBytes := by
                rw [dispatch_readAccum]
                exact hread
              obtain ⟨hrest, hcapped⟩ := ih (offset + kHeartbeatMessageSize) hhandled hbuf
              refine ⟨fun p hp => ?_, hcapped⟩
              rcases List.mem_append.mp hp with hp | hp
              · exact (hmessage p hp).later fun hf => absurd hf hlive
              · exact hrest p hp
        · have hviolated : WriteCapped (c.handleProtocolViolation .corruptMessage now) :=
            writeCapped_failed rfl h.most
          exact hviolated.withRead_points hnil
      · simp only [drainPoints, drainLoop, dif_neg hframe]
        exact h.withRead_points (drop_le_cap hread offset)

/-- The receive loop on a buffer that is not over its cap. -/
theorem recvLoop_points (now : Int) (recvs : List RecvOutcome) {c : Connection σ}
    (hread : c.readAccum.length ≤ kMaxReadAccumBytes) :
    (∀ p ∈ recvPoints recvs c, p.readAccum.length ≤ kMaxReadAccumBytes + 4096 ∧
        p.writePending = c.writePending ∧
        (kMaxReadAccumBytes < p.readAccum.length → (recvLoop now recvs c).2 = none)) ∧
      (recvLoop now recvs c).1.readAccum.length ≤ kMaxReadAccumBytes + 4096 := by
  have hend : c.readAccum.length ≤ kMaxReadAccumBytes + 4096 :=
    hread.trans (Nat.le_add_right _ _)
  induction recvs generalizing c with
  | nil => exact ⟨fun p hp => absurd hp List.not_mem_nil, hend⟩
  | cons outcome rest ih =>
      cases outcome with
      | data chunk =>
          have hchunk : (c.readAccum ++ chunk.val).length ≤ kMaxReadAccumBytes + 4096 := by
            rw [List.length_append]
            exact Nat.add_le_add hread chunk.property.2
          by_cases hcap : (c.readAccum ++ chunk.val).length > kMaxReadAccumBytes
          · simp only [recvPoints, recvLoop, if_pos hcap]
            refine ⟨fun p hp => ?_, hchunk⟩
            rw [List.mem_singleton.mp hp]
            exact ⟨hchunk, rfl, fun _ => trivial⟩
          · have hfits : (c.withRead (c.readAccum ++ chunk.val)).readAccum.length ≤
                kMaxReadAccumBytes := Nat.not_lt.mp hcap
            obtain ⟨hrest, hlast⟩ := ih hfits hchunk
            simp only [recvPoints, recvLoop, if_neg hcap]
            refine ⟨fun p hp => ?_, hlast⟩
            rcases List.mem_cons.mp hp with rfl | hp
            · exact ⟨hchunk, rfl, fun hover => absurd hover hcap⟩
            · exact hrest p hp
      | eof => exact ⟨fun p hp => absurd hp List.not_mem_nil, hend⟩
      | eagain => exact ⟨fun p hp => absurd hp List.not_mem_nil, hend⟩
      | eintr => exact ih hread hend
      | error errno => exact ⟨fun p hp => absurd hp List.not_mem_nil, hend⟩

end Connection

end Vigil
