import Vigil.Alerts
import Vigil.RetryBudget

/-!
# Is the retry budget per outage?

A feed that has recovered should meet its next outage with a full budget and
start its backoff afresh.  `reconnect_attempts` is reset by `force_reconnect`
alone: recovery happens inside `Connection`, when the CONNECT_ACK of a retry is
handled, and the monitor does not look.  So the counter creeps over the
outages of a feed that recovers every time (`recovered_feed_given_up`).

`budget_per_outage` is about the runs in which no retry is acknowledged.  There
the counter is exactly the number of retries scheduled since the connection was
last healthy.
-/

namespace Vigil

open ByteOrder

/-! ## Attempts that are not acknowledged -/

/-- The edges that do not lead into a session. -/
def Attempting (_ after : ConnectionState) : Prop :=
  ¬ after.Established

theorem attempting_failed {s : ConnectionState} : Attempting s .kFailed := by
  simp [Attempting, ConnectionState.Established]

theorem Follows.attempting {s t : ConnectionState} {reports : List Report}
    (h : Follows Attempting s reports t) (hs : ¬ s.Established) :
    reports.any Report.entersHealthy = false ∧ ¬ t.Established := by
  induction reports generalizing s with
  | nil =>
      have hst : s = t := h
      rw [← hst]
      exact ⟨rfl, hs⟩
  | cons r rest ih =>
      cases r with
      | transition before after =>
          obtain ⟨_, hedge, hrest⟩ := h
          obtain ⟨hnone, ht⟩ := ih hrest hedge
          have hfirst : Report.entersHealthy (.transition before after) = false := by
            cases after with
            | kHealthy => exact absurd (Or.inl rfl) hedge
            | _ => rfl
          exact ⟨by rw [List.any_cons, hfirst, hnone]; rfl, ht⟩
      | socketError errno => exact ih h hs
      | peerClosed => exact ih h hs
      | protocolViolation reason => exact ih h hs

namespace Connection

variable {σ : Type} {c : Connection σ}

/-- The message completes the initiator's handshake. -/
def Acknowledges (c : Connection σ) (msg : HeartbeatMessage) : Prop :=
  c.state = .kHandshaking ∧ MessageType.ofByte msg.type = some .kConnectAck ∧
    msg.feedId = c.feedId

/-- The buffer starts with a frame that completes the handshake. -/
def AckFirst (c : Connection σ) (buf : List Byte) : Prop :=
  ∃ wire : HeartbeatWireBuffer, wire.bytes <+: buf ∧ (decodeHeartbeat wire {}).1 = true ∧
    Acknowledges c (decodeHeartbeat wire {}).2

/-- To an initiator without a session every frame but its CONNECT_ACK is
fatal. -/
theorem attempting_feedFrame (cfg : Config) (now : Int) (wire : HeartbeatWireBuffer)
    (hrole : c.role = .kInitiator) (hnew : ¬ c.state.Established)
    (hack : (decodeHeartbeat wire {}).1 = true → ¬ Acknowledges c (decodeHeartbeat wire {}).2) :
    Walk Attempting c (feedFrame cfg now c wire.bytes) ∧
      (feedFrame cfg now c wire.bytes).state = .kFailed := by
  rw [feedFrame_bytes]
  split
  · next hdec =>
      have hnot := hack hdec
      have hknown := decode_type_known wire {} hdec
      generalize (decodeHeartbeat wire {}).2 = msg at hnot hknown ⊢
      have hin : Walk Attempting c (c.noteHandled msg) := Walk.of_eq rfl rfl
      have hresult := handleMessage_result cfg (c.noteHandled msg) msg now
      have hrole' : (c.noteHandled msg).role = .kInitiator := hrole
      unfold dispatch
      generalize (c.noteHandled msg).handleMessage cfg msg now = result at hresult ⊢
      cases hresult with
      | violation reason =>
          exact ⟨hin.trans (walk_handleProtocolViolation _ reason now attempting_failed), rfl⟩
      | closed => exact ⟨hin.trans (walk_handlePeerClosed _ now attempting_failed), rfl⟩
      | ack ht _ hs hf => exact absurd ⟨hs, ht, hf⟩ hnot
      | hello _ hr => simp [hrole'] at hr
      | pingAnswered _ _ hr => simp [hrole'] at hr
      | pingHeld _ _ hr => simp [hrole'] at hr
      | duplicate _ _ hs => exact absurd hs hnew
      | untimely _ _ hs => exact absurd hs hnew
      | counted _ _ hs => exact absurd (Or.inl hs) hnew
      | recovered _ _ hs => exact absurd (Or.inr hs) hnew
      | unknown ht => simp [isKnownMessageType, ht] at hknown
  · exact ⟨walk_handleProtocolViolation _ _ now attempting_failed, rfl⟩

theorem attempting_feedBuffer (cfg : Config) (now : Int) (buf : List Byte)
    (hrole : c.role = .kInitiator) (hnew : ¬ c.state.Established) (hack : ¬ AckFirst c buf) :
    Walk Attempting c (feedBuffer cfg now buf c).1 := by
  by_cases hlen : kHeartbeatMessageSize ≤ buf.length
  · have hfirst := attempting_feedFrame cfg now
      ⟨buf.take kHeartbeatMessageSize, List.length_take_of_le hlen⟩ hrole hnew
      (fun hdec hmsg => hack ⟨_, List.take_prefix _ _, hdec, hmsg⟩)
    have hdead : (feedFrame cfg now c (buf.take kHeartbeatMessageSize)).failed = true :=
      (failed_eq_true _).mpr hfirst.2
    rw [feedBuffer, Framing.drain_frame (by decide) c hlen, if_pos hdead]
    exact hfirst.1
  · rw [feedBuffer, Framing.drain_short c (by omega)]
    exact Walk.of_eq rfl rfl

theorem attempting_onReadable (cfg : Config) (recvs : List RecvOutcome) (now : Int)
    (hrole : c.role = .kInitiator) (hnew : ¬ c.state.Established)
    (hshort : c.readAccum.length < kHeartbeatMessageSize)
    (hack : (c.readAccum ++ recvBytes recvs).length ≤ kMaxReadAccumBytes →
      ¬ AckFirst c (c.readAccum ++ recvBytes recvs)) :
    Walk Attempting c (c.onReadable cfg recvs now) := by
  rcases onReadable_eq cfg c recvs now with ⟨all, ⟨rfl, hcap⟩, h⟩ | ⟨buf, _, _, h⟩
  · have hroom := hcap (by simp only [kHeartbeatMessageSize, kMaxReadAccumBytes] at *; omega)
    rw [h]
    exact ((attempting_feedBuffer cfg now _ hrole hnew (hack hroom)).trans (Walk.of_eq rfl rfl)).trans
      (walk_finishRead _ _ now attempting_failed)
  · rw [h]
    exact Walk.trans (Walk.of_eq rfl rfl) (walk_handleProtocolViolation _ _ now attempting_failed)

theorem attempting_onWritable (c : Connection σ) (soError : Nat) (now : Int) :
    Walk Attempting c (c.onWritable soError now) := by
  unfold onWritable
  split
  · split
    · exact walk_handleSocketError c now soError attempting_failed
    · have hconnected : Walk Attempting c (c.transitionTo .kHandshaking now) :=
        walk_transitionTo c now (by simp [Attempting, ConnectionState.Established])
      dsimp only
      split
      · exact hconnected.trans (walk_queueMessage _ _ attempting_failed)
      · exact hconnected
  · exact walk_flushWriteBuffer c attempting_failed

theorem attempting_checkTimeout (cfg : Config) (now : Int) (hnew : ¬ c.state.Established) :
    Walk Attempting c (c.checkTimeout cfg now).2 := by
  have h := checkTimeout_result cfg c now
  generalize c.checkTimeout cfg now = result at h ⊢
  cases h with
  | idle => exact Walk.of_eq rfl rfl
  | attempting => exact Walk.of_eq rfl rfl
  | attemptExpired => exact walk_transitionTo c now attempting_failed
  | alive h => exact absurd h hnew
  | silent h => exact absurd h hnew
  | lastMiss h => exact absurd h hnew
  | miss h => exact absurd h hnew

theorem attempting_rebind (c : Connection σ) (fd now : Int) :
    Walk Attempting c (c.rebind fd now) := by
  refine Walk.trans (Walk.of_eq rfl rfl) (walk_transitionTo _ now ?_)
  cases hr : c.role with
  | kInitiator => simp [Attempting, ConnectionState.Established, startState]
  | kResponder => simp [Attempting, ConnectionState.Established, startState]

/-- Where `on_writable` leaves an initiator without a session. -/
theorem onWritable_state (c : Connection σ) (soError : Nat) (now : Int)
    (hrole : c.role = .kInitiator) :
    (c.onWritable soError now).state =
      if c.state = .kConnecting then
        if soError ≠ 0 ∨ sendFails c.env.sends c.writePending.length = true then .kFailed
        else .kHandshaking
      else if flushFails c.env.sends c.writePending.length = true then .kFailed else c.state := by
  unfold onWritable
  split
  · by_cases herr : soError ≠ 0
    · rw [if_pos herr, if_pos (Or.inl herr)]
      rfl
    · rw [if_neg herr]
      dsimp only
      rw [queueMessage_state]
      have hor : (soError ≠ 0 ∨ sendFails c.env.sends c.writePending.length = true) ↔
          sendFails c.env.sends c.writePending.length = true := or_iff_right herr
      simp only [hor]
      rfl
  · exact flushWriteBuffer_state c

end Connection

/-! ## One slot -/

namespace Slot

variable {slot slot' : Slot}

/-- The event completes the handshake of the slot's connection: nothing fails
before it is read, and the first frame read is its CONNECT_ACK. -/
structure HandshakeCompletes (slot : Slot) (events : EpollEvents) (io : SlotIo) : Prop where
  readable : events.epollIn = true ∧ events.epollHup = false ∧ events.epollErr = false
  handshaking : slot.connection.state = .kHandshaking ∧ (events.epollOut = true →
      Connection.flushFails io.sends slot.connection.writePending.length = false) ∨
    slot.connection.state = .kConnecting ∧ events.epollOut = true ∧ io.soError = 0 ∧
      Connection.sendFails io.sends slot.connection.writePending.length = false
  withinCap : (slot.connection.readAccum ++ Connection.recvBytes io.recvs).length ≤
    kMaxReadAccumBytes
  ackFirst : ∃ wire : HeartbeatWireBuffer,
    wire.bytes <+: slot.connection.readAccum ++ Connection.recvBytes io.recvs ∧
    (decodeHeartbeat wire {}).1 = true ∧
    MessageType.ofByte (decodeHeartbeat wire {}).2.type = some .kConnectAck ∧
    (decodeHeartbeat wire {}).2.feedId = slot.connection.feedId

/-- After the EPOLLOUT part of an event that does not complete the handshake,
reading cannot complete it either. -/
theorem Sound.not_ackFirst (h : slot.Sound) (cfg : Config) (events : EpollEvents) (now : Int)
    (io : SlotIo) (hack : ¬ slot.HandshakeCompletes events io) (hin : events.epollIn = true)
    (hquiet : events.epollHup = false ∧ events.epollErr = false)
    (hcap : (slot.connection.readAccum ++ Connection.recvBytes io.recvs).length ≤
      kMaxReadAccumBytes)
    (hfirst : Connection.AckFirst (slot.writeIfWritable cfg events now io).connection
      (slot.connection.readAccum ++ Connection.recvBytes io.recvs)) : False := by
  obtain ⟨wire, hpre, hdec, hstate, htype, hfeed⟩ := hfirst
  have hfeed' : (decodeHeartbeat wire {}).2.feedId = slot.connection.feedId := by
    rw [hfeed]
    exact congrArg (fun place => place.2.2.2.1) (writeIfWritable_place slot cfg events now io)
  refine hack ⟨⟨hin, hquiet⟩, ?_, hcap, wire, hpre, hdec, htype, hfeed'⟩
  unfold Slot.writeIfWritable at hstate
  split at hstate
  · next hout =>
      have hcall := Connection.onWritable_state (slot.connection.withEnv io.env) io.soError now h.role
      have hafter : ((slot.connection.withEnv io.env).onWritable io.soError now).state =
          .kHandshaking := hstate
      rw [hafter] at hcall
      split at hcall
      · next hconnecting =>
          split at hcall
          · cases hcall
          · next hok =>
              push Not at hok
              exact Or.inr ⟨hconnecting, hout, hok.1, Bool.eq_false_iff.mpr hok.2⟩
      · split at hcall
        · cases hcall
        · next hok => exact Or.inl ⟨hcall.symm, fun _ => Bool.eq_false_iff.mpr hok⟩
  · next hout => exact Or.inl ⟨hstate, fun hout' => absurd hout' hout⟩

theorem writeIfWritable_readAccum (slot : Slot) (cfg : Config) (events : EpollEvents) (now : Int)
    (io : SlotIo) : (slot.writeIfWritable cfg events now io).connection.readAccum =
      slot.connection.readAccum := by
  unfold writeIfWritable
  split
  · exact Connection.readAccum_of_core
      (Connection.call_core slot.connection ⟨cfg, io.env, .onWritable io.soError now⟩ rfl rfl)
  · rfl

theorem Sound.onEvent_attempting (h : slot.Sound) (cfg : Config) (events : EpollEvents)
    (now : Int) (io : SlotIo) (hnew : ¬ slot.connection.state.Established)
    (hack : ¬ slot.HandshakeCompletes events io) :
    Connection.Walk Attempting slot.connection (slot.onEvent cfg events now io).connection := by
  have hw : Connection.Walk Attempting slot.connection
      (slot.writeIfWritable cfg events now io).connection := by
    unfold Slot.writeIfWritable
    split
    · exact Connection.Walk.trans (Connection.Walk.of_eq rfl rfl)
        (Connection.attempting_onWritable (slot.connection.withEnv io.env) io.soError now)
    · exact Connection.Walk.of_eq rfl rfl
  have hsound := h.writeIfWritable cfg events now io
  have hread := writeIfWritable_readAccum slot cfg events now io
  have hnot := h.not_ackFirst cfg events now io hack
  unfold Slot.onEvent
  split
  · exact Connection.Walk.trans (Connection.Walk.of_eq rfl rfl)
      (Connection.walk_handleSocketError _ now _ attempting_failed)
  · next hquiet =>
      simp only [Bool.or_eq_true, not_or, Bool.not_eq_true] at hquiet
      dsimp only
      generalize slot.writeIfWritable cfg events now io = written at hw hsound hread hnot ⊢
      split
      · next hreads =>
          obtain ⟨new, _, hfollows⟩ := id hw
          generalize (if events.epollOut = true then written.connection.env else io.env) = env
          refine hw.trans (Connection.Walk.trans (Connection.Walk.of_eq rfl rfl)
            (Connection.attempting_onReadable cfg io.recvs now hsound.role
              (hfollows.attempting hnew).2 (hsound.leftover hreads.1) ?_))
          show (written.connection.readAccum ++ _).length ≤ _ →
            ¬ Connection.AckFirst written.connection (written.connection.readAccum ++ _)
          rw [hread]
          exact fun hcap hfirst => hnot hreads.2 hquiet hcap hfirst
      · exact hw

theorem ticked_attempting (slot : Slot) (cfg : Config) (now : Int) (io : SlotIo)
    (hnew : ¬ slot.connection.state.Established) :
    Connection.Walk Attempting slot.connection (slot.ticked cfg now io).connection := by
  have hchecked : Connection.Walk Attempting slot.connection
      (slot.checked cfg now io).connection := by
    have hcheck : Connection.Walk Attempting slot.connection
        (slot.check cfg now io).2.connection :=
      Connection.Walk.trans (Connection.Walk.of_eq rfl rfl)
        (Connection.attempting_checkTimeout (c := slot.connection.withEnv io.env) cfg now hnew)
    unfold checked
    split
    · rw [fail_connection]
      exact hcheck
    · exact hcheck
  unfold ticked
  cases hs : slot.connection.state with
  | kHealthy => exact absurd (Or.inl hs) hnew
  | kDegraded => exact absurd (Or.inr hs) hnew
  | kConnecting => exact hchecked
  | kHandshaking => exact hchecked
  | kFailed =>
      dsimp only
      split
      · unfold reconnected
        split
        · next fd _ =>
            exact Connection.Walk.trans (Connection.Walk.of_eq rfl rfl)
              (Connection.attempting_rebind (slot.connection.withEnv io.env) fd now)
        · rw [scheduleReconnect_connection]
          exact Connection.Walk.of_eq rfl rfl
      · exact Connection.Walk.of_eq rfl rfl
  | kDisconnected => exact Connection.Walk.of_eq rfl rfl
  | kReconnecting => exact Connection.Walk.of_eq rfl rfl

end Slot

/-! ## Counting per outage -/

/-- With a maximum of `n` attempts: the counter is what was scheduled since the
connection was last healthy, and a slot is given up only when that is `n`. -/
structure PerOutage (n : Int) (slot : Slot) (page : RetryPage) : Prop where
  counted : slot.reconnectAttempts = page.retries
  established : slot.connection.state.Established → slot.reconnectAttempts = 0
  gaveUp : slot.giveUp = true → n ≤ slot.reconnectAttempts

section moves

variable {cfg : Config} {s : MonitorStep} {i : Nat} {slot slot' : Slot} {page : RetryPage}

/-- A scheduled retry is counted, whatever else the page says. -/
theorem post_retries (hforce : s.forces slot = false)
    (hzero : slot.wasHealthy slot' = true → page.retries = 0) :
    (page.post s slot slot').retries =
      page.retries + if slot.retryScheduled slot' then 1 else 0 := by
  simp only [RetryPage.post, hforce, Bool.false_or]
  cases hw : slot.wasHealthy slot' with
  | false => rfl
  | true => simp [hzero hw]

/-- `schedule_reconnect` called on fields `r` counts a retry exactly if it
schedules one. -/
theorem schedule_counts {r : Retry} {backoff : Int × JitterFactor} (hn : 0 ≤ cfg.maxReconnectAttempts)
    (hattempts : r.attempts = slot.reconnectAttempts) (hgive : r.giveUp = slot.giveUp)
    (hschedules : r.schedules = slot.history.schedules)
    (h : slot'.retry = r.schedule cfg backoff)
    (hgave : slot.giveUp = true → cfg.maxReconnectAttempts ≤ slot.reconnectAttempts) :
    slot'.reconnectAttempts = slot.reconnectAttempts +
        (if slot.retryScheduled slot' then 1 else 0) ∧
      (slot'.giveUp = true → cfg.maxReconnectAttempts ≤ slot'.reconnectAttempts) ∧
      (slot.retryScheduled slot' = true → slot'.reconnectReadyAtNs =
        backoff.1 + reconnectDelayNs cfg slot.reconnectAttempts backoff.2) := by
  have hmore : slot.history.schedules < slot'.history.schedules := by
    have hcount : slot'.history.schedules = r.schedules + 1 := by
      have hs : slot'.history.schedules = (r.schedule cfg backoff).schedules :=
        congrArg Retry.schedules h
      rw [hs, Retry.schedule]
      split <;> rfl
    omega
  rcases schedule_fields h with ⟨_, hspent, hgive', hattempts', _⟩ | ⟨hroom, hgive', hattempts', hready⟩
  · have hnot : slot.retryScheduled slot' = false := by simp [Slot.retryScheduled, hgive']
    refine ⟨by simp [hnot, hattempts', hattempts], fun _ => by omega, ?_⟩
    rw [hnot]
    nofun
  · have hkept : slot'.giveUp = false := by
      rw [hgive', hgive]
      apply Bool.eq_false_iff.mpr
      intro hg
      have hspent := hgave hg
      have hleft := hroom hn
      omega
    have hyes : slot.retryScheduled slot' = true := by simp [Slot.retryScheduled, hkept, hmore]
    refine ⟨by simp [hyes, hattempts', hattempts], ?_, fun _ => by rw [hready, hattempts]⟩
    rw [hkept]
    nofun

/-- What a move does to the count, and the delay it uses. -/
theorem RetryMove.counts (hmove : RetryMove cfg s i slot slot') (hn : 0 ≤ cfg.maxReconnectAttempts)
    (hgave : slot.giveUp = true → cfg.maxReconnectAttempts ≤ slot.reconnectAttempts) :
    slot'.reconnectAttempts = slot.reconnectAttempts +
        (if slot.retryScheduled slot' then 1 else 0) ∧
      (slot'.giveUp = true → cfg.maxReconnectAttempts ≤ slot'.reconnectAttempts) ∧
      (slot.retryScheduled slot' = true → slot'.reconnectReadyAtNs = (s.backoff i slot).1 +
        reconnectDelayNs cfg slot.reconnectAttempts (s.backoff i slot).2) := by
  have hquiet (hattempts : slot'.reconnectAttempts = slot.reconnectAttempts)
      (hgive : slot'.giveUp = slot.giveUp)
      (hschedules : slot'.history.schedules = slot.history.schedules) :
      slot'.reconnectAttempts = slot.reconnectAttempts +
          (if slot.retryScheduled slot' then 1 else 0) ∧
        (slot'.giveUp = true → cfg.maxReconnectAttempts ≤ slot'.reconnectAttempts) ∧
        (slot.retryScheduled slot' = true → slot'.reconnectReadyAtNs = (s.backoff i slot).1 +
          reconnectDelayNs cfg slot.reconnectAttempts (s.backoff i slot).2) := by
    have hnot : slot.retryScheduled slot' = false := by simp [Slot.retryScheduled, hschedules]
    refine ⟨by simp [hnot, hattempts], ?_, ?_⟩
    · rw [hgive, hattempts]
      exact hgave
    · rw [hnot]
      nofun
  cases hmove with
  | idle hretry =>
      exact hquiet (congrArg Retry.attempts hretry) (congrArg Retry.giveUp hretry)
        (congrArg Retry.schedules hretry)
  | failed hretry => exact schedule_counts hn rfl rfl rfl hretry hgave
  | refused hretry => exact schedule_counts hn rfl rfl rfl hretry hgave
  | connected hretry =>
      exact hquiet (congrArg Retry.attempts hretry) (congrArg Retry.giveUp hretry)
        (congrArg Retry.schedules hretry)

/-- A retry is scheduled only for a failed connection. -/
theorem RetryMove.scheduled_failed (hmove : RetryMove cfg s i slot slot')
    (h : slot.retryScheduled slot' = true) : slot'.connection.state = .kFailed := by
  have hmore : slot.history.schedules < slot'.history.schedules := (of_decide_eq_true h).1
  cases hmove with
  | idle hretry =>
      have hsame : slot'.history.schedules = slot.history.schedules :=
        congrArg Retry.schedules hretry
      omega
  | failed _ _ _ hfailed => exact hfailed
  | refused _ _ _ _ hfailed => exact hfailed
  | connected hretry =>
      have hsame : slot'.history.schedules = slot.history.schedules :=
        congrArg Retry.schedules hretry
      omega

/-- A step that leads into no session shows none to the book. -/
theorem Connection.Walk.not_healthy
    (h : Connection.Walk Attempting slot.connection slot'.connection)
    (hnew : ¬ slot.connection.state.Established) :
    slot.wasHealthy slot' = false ∧ ¬ slot'.connection.state.Established := by
  obtain ⟨new, hreports, hfollows⟩ := h
  obtain ⟨hnone, hstate⟩ := hfollows.attempting hnew
  refine ⟨?_, hstate⟩
  have hstart : slot.connection.state ≠ .kHealthy := fun hs => hnew (Or.inl hs)
  rw [Slot.wasHealthy, hreports, List.drop_left, hnone]
  simp [hstart]

end moves

/-! ## Every run -/

namespace FeedMonitor

variable {m : FeedMonitor} {s : MonitorStep} {i : Nat} {slot slot' : Slot}

/-- In this step the handshake of a retry is acknowledged. -/
def RetryAcked (m : FeedMonitor) : MonitorStep → Prop
  | .connectionEvent fd events _ io =>
      ∃ i slot, m.indexOfFd.lookup fd = some i ∧ m.slots[i]? = some slot ∧
        slot.reconnectAttempts ≠ 0 ∧ slot.HandshakeCompletes events io
  | _ => False

theorem slotStep_attempting (h : slot.Sound) (hx : m.slots[i]? = some slot)
    (hstep : SlotStep m s i slot slot') (hack : ¬ m.RetryAcked s)
    (hretry : slot.reconnectAttempts ≠ 0) (hnew : ¬ slot.connection.state.Established) :
    Connection.Walk Attempting slot.connection slot'.connection := by
  cases hstep with
  | kept => exact Connection.Walk.of_eq rfl rfl
  | disconnected feedId now io =>
      rw [Slot.disconnected, Slot.fail_connection]
      exact Connection.Walk.trans (Connection.Walk.of_eq rfl rfl)
        (Connection.walk_handleSocketError _ now _ attempting_failed)
  | forcedReconnect => exact Connection.Walk.of_eq rfl rfl
  | rebased => exact Connection.Walk.of_eq rfl rfl
  | handled fd events now io _ _ hlookup =>
      have hnot : ¬ slot.HandshakeCompletes events io := fun hdone =>
        hack ⟨i, slot, hlookup, hx, hretry, hdone⟩
      have hevent := h.onEvent_attempting m.config events now io hnew hnot
      unfold Slot.handled
      split
      · rw [Slot.fail_connection]
        exact hevent
      · exact hevent
  | ticked now io => exact Slot.ticked_attempting slot m.config now (io i) hnew

end FeedMonitor

namespace Audited

open FeedMonitor

/-- What holds between the steps of a run in which no retry is acknowledged. -/
structure ByOutage (n : Int) (a : Audited) : Prop where
  listed : a.monitor.Listed
  max : a.monitor.config.maxReconnectAttempts = n
  slots : ∀ slot ∈ a.monitor.slots, PerOutage n slot (a.book slot.history.object)

/-- The first retry scheduled for a slot since it was added or forced or its
connection was healthy waits for the delay of attempt number 0. -/
def FirstDelayFresh (a : Audited) (s : MonitorStep) : Prop :=
  ∀ i slot, a.monitor.slots[i]? = some slot → ∀ slot' ∈ (a.step s).monitor.slots,
    slot'.history.object = slot.history.object → slot.retryScheduled slot' = true →
    ((a.step s).book slot'.history.object).retries = 1 →
      slot'.reconnectReadyAtNs = (s.backoff i slot).1 +
        reconnectDelayNs a.monitor.config 0 (s.backoff i slot).2

variable {n : Int} {a : Audited} {s : MonitorStep} {i : Nat} {slot slot' : Slot}

/-- Under the proviso, a slot that was healthy in this step has an empty count. -/
theorem ByOutage.healthy_count (h : ByOutage n a) (hx : a.monitor.slots[i]? = some slot)
    (hstep : SlotStep a.monitor s i slot slot') (hack : ¬ a.monitor.RetryAcked s) :
    slot.reconnectAttempts = 0 ∨
      slot.wasHealthy slot' = false ∧ ¬ slot'.connection.state.Established := by
  by_cases hzero : slot.reconnectAttempts = 0
  · exact Or.inl hzero
  · right
    have hnew : ¬ slot.connection.state.Established := fun hs =>
      hzero ((h.slots slot (List.mem_of_getElem? hx)).established hs)
    exact (slotStep_attempting (h.listed.sound.at hx) hx hstep hack hzero hnew).not_healthy hnew

/-- The count after a step, and the delay it used. -/
theorem ByOutage.turn (h : ByOutage n a) (hn : 0 ≤ n) (hx : a.monitor.slots[i]? = some slot)
    (hstep : SlotStep a.monitor s i slot slot') (hforce : s.forces slot = false)
    (hmove : RetryMove a.monitor.config s i slot slot') (hack : ¬ a.monitor.RetryAcked s) :
    PerOutage n slot' ((a.book slot.history.object).post s slot slot') ∧
      (slot.retryScheduled slot' = true →
        ((a.book slot.history.object).post s slot slot').retries = 1 →
        slot'.reconnectReadyAtNs = (s.backoff i slot).1 +
          reconnectDelayNs a.monitor.config 0 (s.backoff i slot).2) := by
  obtain ⟨hcounted, hestablished, hgave⟩ := h.slots slot (List.mem_of_getElem? hx)
  have hhealthy := h.healthy_count hx hstep hack
  rw [← h.max] at hn hgave ⊢
  obtain ⟨hattempts, hgave', hdelay⟩ := hmove.counts hn hgave
  have hretries : ((a.book slot.history.object).post s slot slot').retries =
      (a.book slot.history.object).retries + if slot.retryScheduled slot' then 1 else 0 := by
    apply post_retries hforce
    intro hw
    rcases hhealthy with hzero | ⟨hnot, _⟩
    · omega
    · rw [hw] at hnot
      cases hnot
  refine ⟨⟨?_, ?_, hgave'⟩, ?_⟩
  · rw [hattempts, hretries, hcounted]
    split <;> simp
  · intro hs'
    rcases hhealthy with hzero | ⟨_, hnot⟩
    · have hquiet : ¬ slot.retryScheduled slot' = true := by
        intro hsched
        have hfailed := hmove.scheduled_failed hsched
        rw [hfailed] at hs'
        simp [ConnectionState.Established] at hs'
      rw [hattempts, hzero, if_neg hquiet]
      rfl
    · exact absurd hs' hnot
  · intro hsched hone
    rw [hretries, if_pos hsched] at hone
    have hzero : slot.reconnectAttempts = 0 := by omega
    rw [hdelay hsched, hzero]

theorem step_byOutage (h : ByOutage n a) (hn : 0 ≤ n) (hack : ¬ a.monitor.RetryAcked s) :
    ByOutage n (a.step s) := by
  refine ⟨step_listed h.listed s, (step_max h.listed s).trans h.max, ?_⟩
  intro slot' hmem
  rcases step_turn h.listed s hmem with ⟨i, slot, hturn⟩ | ⟨hadded, hpage⟩
  · rw [hturn.page]
    rcases hturn.move with ⟨hforce, rfl⟩ | ⟨hforce, hstep, hmove⟩
    · have hquiet : slot.retryScheduled slot.renewed = false := by
        simp [Slot.retryScheduled, Slot.renewed]
      have hnone : ((a.book slot.history.object).post s slot slot.renewed).retries = 0 := by
        simp [RetryPage.post, hforce, hquiet]
      refine ⟨?_, fun _ => rfl, fun hgive => absurd hgive Bool.false_ne_true⟩
      rw [hnone]
      rfl
    · exact (h.turn hn hturn.at_i hstep hforce hmove hack).1
  · obtain ⟨endpoint, fd, now, _, _, rfl⟩ := hadded
    rw [hpage]
    exact ⟨rfl, fun _ => rfl, fun hgive => absurd hgive Bool.false_ne_true⟩

theorem step_firstDelay (h : ByOutage n a) (hn : 0 ≤ n) (hack : ¬ a.monitor.RetryAcked s) :
    FirstDelayFresh a s := by
  intro i slot hx slot' hmem hobject hsched hone
  have hslot : slot ∈ a.monitor.slots := List.mem_of_getElem? hx
  rcases step_turn h.listed s hmem with ⟨j, origin, hturn⟩ | ⟨hadded, _⟩
  · have horigin : origin = slot :=
      h.listed.object_inj hslot (List.mem_of_getElem? hturn.at_i) (hturn.object.symm.trans hobject)
    subst horigin
    obtain rfl : j = i :=
      h.listed.feedIndex.position_unique hturn.at_i hx rfl rfl
    rcases hturn.move with ⟨_, rfl⟩ | ⟨hforce, hstep, hmove⟩
    · simp [Slot.retryScheduled, Slot.renewed] at hsched
    · rw [hturn.page] at hone
      exact (h.turn hn hx hstep hforce hmove hack).2 hsched hone
  · obtain ⟨endpoint, fd, now, _, _, rfl⟩ := hadded
    have hlt := h.listed.objects_lt slot hslot
    have heq : a.monitor.nextObject = slot.history.object := hobject
    omega

/-- The retry budget is per outage: a slot that was given up has had the full
number of retries since it was added or forced or its connection was healthy. -/
def BudgetSpent (a : Audited) : Prop :=
  ∀ slot ∈ a.monitor.slots, slot.giveUp = true →
    a.monitor.config.maxReconnectAttempts ≤ (a.book slot.history.object).retries

/-- **The retry budget is per outage** in every run in which no retry is
acknowledged, that is, in which `reconnect_attempts` is 0 whenever a handshake
completes. -/
theorem budget_per_outage (config : Config) (timerFd wakeFd : Int) (steps : List MonitorStep)
    (hn : 0 ≤ config.maxReconnectAttempts)
    (hack : Runs.Along step (fun a s => ¬ a.monitor.RetryAcked s) (start config timerFd wakeFd)
      steps) :
    Runs.Along step FirstDelayFresh (start config timerFd wakeFd) steps ∧
      (steps.foldl step (start config timerFd wakeFd)).BudgetSpent := by
  have hstart : ByOutage config.maxReconnectAttempts (start config timerFd wakeFd) :=
    ⟨listed_create config timerFd wakeFd, rfl, fun _ h => absurd h List.not_mem_nil⟩
  have hstep : ∀ (a : Audited) (s : MonitorStep), ByOutage config.maxReconnectAttempts a →
      ¬ a.monitor.RetryAcked s → ByOutage config.maxReconnectAttempts (a.step s) :=
    fun a s h hs => step_byOutage h hn hs
  have hend := Runs.invariant hstep hstart hack
  refine ⟨Runs.along_of_invariant hstep (fun a s h hs => step_firstDelay h hn hs) hstart hack, ?_⟩
  intro slot hslot hgive
  have hslot' := hend.slots slot hslot
  rw [hend.max, ← hslot'.counted]
  exact hslot'.gaveUp hgive

/-- One retry per outage. -/
def oneRetry : Config := { maxReconnectAttempts := 1 }

/-- The backoff is over and the tick reconnects feed 7 on fd 6. -/
def retryBegins : MonitorStep :=
  .timerTick 600000000 fun _ => { socket := some 6 }

/-- The retry is acknowledged. -/
def retryRecovers : List MonitorStep :=
  [.connectionEvent 6 { epollOut := true } 600000001 { sends := [.sent 28] },
    .connectionEvent 6 { epollIn := true } 600000002 { recvs := [.data (frameChunk
      { type := MessageType.kConnectAck.toByte, feedId := 7 })] }]

/-- The peer hangs up on fd 6. -/
def retryHangsUp : MonitorStep :=
  .connectionEvent 6 { epollHup := true } 600000003 { failedAt := 600000003 }

/-- Feed 7 fails, is retried and fails again. -/
def failsTwice : List MonitorStep :=
  feedConnects ++ [feedHangsUp, retryBegins, retryHangsUp]

/-- Feed 7 fails, recovers on its retry and fails again. -/
def recoversOnce : List MonitorStep :=
  feedConnects ++ [feedHangsUp, retryBegins] ++ retryRecovers ++ [retryHangsUp]

/-- What the operators see of the slots, and the retries on their pages. -/
def verdicts (a : Audited) : List (Bool × Nat) :=
  a.monitor.slots.map fun slot => (slot.giveUp, (a.book slot.history.object).retries)

theorem not_retryAcked_of_unread {m : FeedMonitor} {fd : Int} {events : EpollEvents} {now : Int}
    {io : SlotIo} (h : events.epollIn = false) :
    ¬ m.RetryAcked (.connectionEvent fd events now io) := by
  rintro ⟨i, slot, _, _, _, hdone⟩
  have hin := hdone.readable.1
  rw [h] at hin
  cases hin

/-- A feed that fails, is retried and fails again is given up after its one
retry. -/
theorem budget_per_outage_spent :
    (failsTwice.foldl step (start oneRetry 3 4)).BudgetSpent ∧
      (failsTwice.foldl step (start oneRetry 3 4)).verdicts = [(true, 1)] := by
  refine ⟨(budget_per_outage oneRetry 3 4 failsTwice (by decide) ?_).2, by decide +kernel⟩
  refine ⟨id, not_retryAcked_of_unread rfl, ?_, not_retryAcked_of_unread rfl, id,
    not_retryAcked_of_unread rfl, trivial⟩
  -- the handshake that completes is that of the first connection, not of a retry
  rintro ⟨i, slot, _, hx, hretry, _⟩
  have hall : ∀ slot ∈ ((feedConnects.take 2).foldl step (start oneRetry 3 4)).monitor.slots,
      slot.reconnectAttempts = 0 := by decide +kernel
  exact hretry (hall slot (List.mem_of_getElem? hx))

/-- A feed that recovers on its retry and then fails is given up on the spot,
without a single retry since it was healthy. -/
theorem recovered_feed_given_up :
    ¬ ∀ (config : Config) (timerFd wakeFd : Int) (steps : List MonitorStep),
      0 ≤ config.maxReconnectAttempts →
        Runs.Along step FirstDelayFresh (start config timerFd wakeFd) steps ∧
          (steps.foldl step (start config timerFd wakeFd)).BudgetSpent := by
  intro hall
  have hspent := (hall oneRetry 3 4 recoversOnce (by decide)).2
  have hend : (recoversOnce.foldl step (start oneRetry 3 4)).verdicts = [(true, 0)] := by
    decide +kernel
  have hmax : (recoversOnce.foldl step
      (start oneRetry 3 4)).monitor.config.maxReconnectAttempts = 1 := by decide +kernel
  generalize recoversOnce.foldl step (start oneRetry 3 4) = final at hspent hend hmax
  have hmem : (true, 0) ∈ final.verdicts := by
    rw [hend]
    exact List.mem_singleton.mpr rfl
  obtain ⟨slot, hslot, heq⟩ := List.mem_map.mp hmem
  have hnone : (final.book slot.history.object).retries = 0 := congrArg Prod.snd heq
  have hle := hspent slot hslot (congrArg Prod.fst heq)
  rw [hnone, hmax] at hle
  exact absurd hle (by decide)

end Audited

end Vigil
