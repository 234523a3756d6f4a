import Vigil.Calls

/-!
# The timestamps of an initiator

Whatever an initiator queues carries a time one of its methods was handed.
`Honest handed c` states this against a list of such times, together with the
fact that PINGs are only queued once the handshake is done.  Every call keeps
it when the call's own time is appended to the list.

A PONG that echoes a queued PING is then never from the future, as long as the
times do not run backwards (`Honest.timely`), and it is counted if it is new
and in time (`pong_counted`).
-/

namespace Vigil

/-- The values of `int64_t`. -/
def IsInt64 (t : Int) : Prop :=
  -2 ^ 63 ≤ t ∧ t < 2 ^ 63

instance (t : Int) : Decidable (IsInt64 t) :=
  inferInstanceAs (Decidable (_ ∧ _))

/-- Past the handshake, or failed. -/
def Past (s : ConnectionState) : Prop :=
  s = .kHealthy ∨ s = .kDegraded ∨ s = .kFailed

namespace Connection

variable {σ : Type} {handed : List Int} {c c' : Connection σ}

/-- The queued messages carry times from `handed`, and PINGs among them only
follow a handshake. -/
structure Honest (handed : List Int) (c : Connection σ) : Prop where
  role : c.role = .kInitiator
  stamps : ∀ m ∈ c.trace.queued, ∃ t ∈ handed, m.timestampNs = BitVec.ofInt 64 t
  pinged : (∃ m ∈ c.trace.queued, m.type = MessageType.kPing.toByte) → Past c.state

theorem Honest.mono (h : Honest handed c) (more : List Int) : Honest (handed ++ more) c where
  role := h.role
  stamps := by
    intro m hm
    obtain ⟨t, ht, heq⟩ := h.stamps m hm
    exact ⟨t, List.mem_append_left more ht, heq⟩
  pinged := h.pinged

/-- Nothing was queued, and what was past the handshake still is. -/
theorem Honest.quiet (h : Honest handed c) (hrole : c'.role = c.role)
    (hq : c'.trace.queued = c.trace.queued) (hs : Past c.state → Past c'.state) :
    Honest handed c' where
  role := hrole.trans h.role
  stamps := by
    rw [hq]
    exact h.stamps
  pinged := by
    rw [hq]
    exact fun hm => hs (h.pinged hm)

theorem past_failed : Past .kFailed := Or.inr (Or.inr rfl)

/-! ## Reading -/

theorem Honest.handleMessage (h : Honest handed c) (cfg : Config) (msg : HeartbeatMessage)
    (now : Int) : Honest handed (c.handleMessage cfg msg now) := by
  have hresult := handleMessage_result cfg c msg now
  generalize c.handleMessage cfg msg now = result at hresult ⊢
  cases hresult with
  | violation => exact h.quiet rfl rfl fun _ => past_failed
  | hello ht hr => exact absurd (h.role.symm.trans hr) nofun
  | ack => exact h.quiet rfl rfl fun _ => Or.inl rfl
  | pingAnswered captured ht hr => exact absurd (h.role.symm.trans hr) nofun
  | pingHeld captured ht hr => exact absurd (h.role.symm.trans hr) nofun
  | duplicate => exact h
  | untimely => exact h.quiet rfl rfl id
  | counted => exact h.quiet rfl rfl id
  | recovered => exact h.quiet rfl rfl fun _ => Or.inl rfl
  | closed => exact h.quiet rfl rfl fun _ => past_failed
  | unknown => exact h

theorem Honest.dispatch (h : Honest handed c) (cfg : Config) (msg : HeartbeatMessage)
    (now : Int) : Honest handed (c.dispatch cfg msg now) :=
  Honest.handleMessage (c := c.noteHandled msg) (h.quiet rfl rfl id) cfg msg now

theorem Honest.feedFrame (h : Honest handed c) (cfg : Config) (now : Int)
    (frame : List ByteOrder.Byte) : Honest handed (feedFrame cfg now c frame) := by
  unfold Connection.feedFrame
  split
  · dsimp only
    split
    · exact h.dispatch cfg _ now
    · exact h.quiet rfl rfl fun _ => past_failed
  · exact h

theorem Honest.onReadable (h : Honest handed c) (cfg : Config) (recvs : List RecvOutcome)
    (now : Int) : Honest handed (c.onReadable cfg recvs now) :=
  onReadable_keeps (I := Honest handed) (fun _ msg hd => hd.dispatch cfg msg now)
    (fun _ _ hd => hd.quiet rfl rfl fun _ => past_failed) (fun _ _ hd => hd.quiet rfl rfl id) h
    recvs

/-! ## Writing -/

/-- A message stamped with `now` was queued. -/
theorem Honest.queueMessage (h : Honest handed c) (msg : HeartbeatMessage) {now : Int}
    (hstamp : msg.timestampNs = BitVec.ofInt 64 now)
    (hping : msg.type = MessageType.kPing.toByte → Past c.state) :
    Honest (handed ++ [now]) (c.queueMessage msg) := by
  have hstate := queueMessage_state c msg
  obtain ⟨w, hw, hspec⟩ := queueMessage_eq c msg
  have hpast : Past c.state → Past (c.queueMessage msg).state := by
    intro hp
    rw [hstate]
    split
    · exact past_failed
    · exact hp
  have hq : (c.queueMessage msg).trace.queued = c.trace.queued ++ [msg] := by
    rw [hw]
    exact hspec.queued_eq
  refine ⟨?_, ?_, ?_⟩
  · rw [hw]
    exact h.role
  · rw [hq]
    intro m hm
    rcases List.mem_append.mp hm with hm | hm
    · exact (h.mono [now]).stamps m hm
    · rw [List.mem_singleton.mp hm]
      exact ⟨now, by simp, hstamp⟩
  · rw [hq]
    rintro ⟨m, hm, htype⟩
    rcases List.mem_append.mp hm with hm | hm
    · exact hpast (h.pinged ⟨m, hm, htype⟩)
    · rw [List.mem_singleton.mp hm] at htype
      exact hpast (hping htype)

theorem Honest.flushWriteBuffer (h : Honest handed c) : Honest handed c.flushWriteBuffer := by
  have hstate := flushWriteBuffer_state c
  obtain ⟨w, hw, hspec⟩ := flushLoop_eq c.env.sends c
  refine h.quiet ?_ ?_ ?_
  · rw [Connection.flushWriteBuffer, hw]
    rfl
  · rw [Connection.flushWriteBuffer, hw]
    exact hspec.queued_eq.trans (List.append_nil _)
  · intro hp
    rw [hstate]
    split
    · exact past_failed
    · exact hp

theorem Honest.onWritable (h : Honest handed c) (soError : Nat) (now : Int) :
    Honest (handed ++ [now]) (c.onWritable soError now) := by
  unfold Connection.onWritable
  split
  · next hc =>
      split
      · exact (h.mono [now]).quiet rfl rfl fun _ => past_failed
      · have hopening : ¬ Past c.state := by simp [Past, hc]
        have hconnected : Honest handed (c.transitionTo .kHandshaking now) :=
          h.quiet rfl rfl fun hp => absurd hp hopening
        dsimp only
        rw [if_pos h.role]
        refine hconnected.queueMessage _ rfl fun htype => ?_
        have hne : MessageType.kConnectHello.toByte ≠ MessageType.kPing.toByte := by decide
        exact absurd htype hne
  · exact h.flushWriteBuffer.mono [now]

theorem Honest.sendPing (h : Honest handed c) (now : Int) :
    Honest (handed ++ [now]) (c.sendPing now) := by
  by_cases hg : c.role = .kInitiator ∧ (c.state = .kHealthy ∨ c.state = .kDegraded)
  · rw [sendPing_eq c now hg.1 hg.2]
    have hbump : Honest handed c.bumpSequence := h.quiet rfl rfl id
    have hpast : Past c.state := by
      rcases hg.2 with hs | hs <;> simp [Past, hs]
    exact (hbump.queueMessage (c.pingMessage now) rfl fun _ => hpast).quiet rfl rfl id
  · rw [sendPing_idle c now hg]
    exact h.mono [now]

theorem Honest.checkTimeout (h : Honest handed c) (cfg : Config) (now : Int) :
    Honest handed (c.checkTimeout cfg now).2 := by
  have hresult := checkTimeout_result cfg c now
  generalize c.checkTimeout cfg now = result at hresult ⊢
  cases hresult with
  | idle => exact h
  | attempting => exact h
  | alive => exact h
  | attemptExpired => exact h.quiet rfl rfl fun _ => past_failed
  | silent => exact h.quiet rfl rfl fun _ => past_failed
  | lastMiss => exact h.quiet rfl rfl fun _ => past_failed
  | miss => exact h.quiet rfl rfl fun _ => Or.inr (Or.inl rfl)

/-- **Every call keeps an initiator honest** about the times it was handed. -/
theorem Honest.call (h : Honest handed c) (call : Call σ) :
    Honest (handed ++ call.op.now.toList) (c.call call) := by
  obtain ⟨cfg, env, op⟩ := call
  have hin : Honest handed (c.withEnv env) := h.quiet rfl rfl id
  cases op with
  | onReadable recvs now => exact (hin.onReadable cfg recvs now).mono [now]
  | onWritable soError now => exact hin.onWritable soError now
  | onHangupOrError errno now =>
      have hfailed : Honest handed ((c.withEnv env).handleSocketError now errno) :=
        hin.quiet rfl rfl fun _ => past_failed
      exact hfailed.mono [now]
  | sendPing now => exact hin.sendPing now
  | sendPong sequence timestampNs =>
      show Honest (handed ++ []) ((c.withEnv env).sendPong sequence timestampNs)
      rw [sendPong, if_pos (by simp [hin.role])]
      exact hin.mono []
  | checkTimeout now => exact (hin.checkTimeout cfg now).mono [now]
  | resetLivenessBaseline now =>
      have hrebased : Honest handed ((c.withEnv env).resetLivenessBaseline now) :=
        hin.quiet rfl rfl id
      exact hrebased.mono [now]
  | rebind newFd now =>
      refine ⟨h.role, ?_, ?_⟩
      · exact fun m hm => absurd hm List.not_mem_nil
      · rintro ⟨m, hm, _⟩
        exact absurd hm List.not_mem_nil

/-! ## Honest PONGs -/

/-- The PONG a peer sends for a PING. -/
structure Echoes (msg ping : HeartbeatMessage) : Prop where
  type_eq : msg.type = MessageType.kPong.toByte
  sequence_eq : msg.sequence = ping.sequence
  timestamp_eq : msg.timestampNs = ping.timestampNs

instance (msg ping : HeartbeatMessage) : Decidable (Echoes msg ping) :=
  decidable_of_iff (msg.type = MessageType.kPong.toByte ∧ msg.sequence = ping.sequence ∧
    msg.timestampNs = ping.timestampNs)
    ⟨fun h => ⟨h.1, h.2.1, h.2.2⟩, fun h => ⟨h.type_eq, h.sequence_eq, h.timestamp_eq⟩⟩

/-- **An honest PONG is not from the future.** -/
theorem Honest.timely (h : Honest handed c) {now : Int} (hrange : ∀ t ∈ handed, IsInt64 t)
    (hpast : ∀ t ∈ handed, t ≤ now) {msg ping : HeartbeatMessage}
    (hping : ping ∈ c.trace.queued) (hecho : Echoes msg ping) : 0 ≤ rttNs msg now := by
  obtain ⟨t, ht, hstamp⟩ := h.stamps ping hping
  obtain ⟨hlow, hhigh⟩ := hrange t ht
  have hle := hpast t ht
  have hval : (BitVec.ofInt 64 t).toInt = t :=
    BitVec.toInt_ofInt_eq_self (by decide) hlow hhigh
  rw [rttNs, hecho.timestamp_eq, hstamp, hval]
  omega

/-- The PONG was counted as proof of life. -/
structure Counts (cfg : Config) (c : Connection σ) (msg : HeartbeatMessage) (now : Int) :
    Prop where
  acked : (c.dispatch cfg msg now).stats.heartbeatsAcked = c.stats.heartbeatsAcked + 1
  liveness : (c.dispatch cfg msg now).lastLivenessNs = now
  missed : (c.dispatch cfg msg now).consecutiveMissed = 0
  state : (c.dispatch cfg msg now).state = .kHealthy

/-- **A new PONG in time is counted.** -/
theorem pong_counted (cfg : Config) (c : Connection σ) (msg : HeartbeatMessage) (now : Int)
    (ht : msg.type = MessageType.kPong.toByte) (hr : c.role = .kInitiator)
    (hs : c.state = .kHealthy ∨ c.state = .kDegraded)
    (hnew : c.hasAckedSequence msg.sequence = false)
    (hrtt : 0 ≤ rttNs msg now ∧ rttNs msg now < cfg.timeoutNs) : Counts cfg c msg now := by
  have htype : MessageType.ofByte msg.type = some .kPong := by
    rw [ht, MessageType.ofByte_toByte]
  have hnew' : (c.noteHandled msg).hasAckedSequence msg.sequence = false := hnew
  have hguard : ¬ ((c.noteHandled msg).role ≠ .kInitiator ∨
      ((c.noteHandled msg).state ≠ .kHealthy ∧ (c.noteHandled msg).state ≠ .kDegraded)) := by
    show ¬ (c.role ≠ .kInitiator ∨ (c.state ≠ .kHealthy ∧ c.state ≠ .kDegraded))
    tauto
  have heq : c.dispatch cfg msg now = (c.noteHandled msg).handlePong cfg msg now := by
    rw [dispatch, Connection.handleMessage, htype]
  have hbranch : (c.noteHandled msg).handlePong cfg msg now =
      if c.state = .kDegraded then
        (((c.noteHandled msg).rememberAckedSequence msg.sequence).countPong msg now).transitionTo
          .kHealthy now
      else ((c.noteHandled msg).rememberAckedSequence msg.sequence).countPong msg now := by
    rw [handlePong, if_neg hguard, if_neg (by simp [hnew'])]
    dsimp only
    rw [if_neg (by omega)]
    rfl
  rw [hbranch] at heq
  constructor <;> rw [heq]
  · split <;> rfl
  · split <;> rfl
  · split <;> rfl
  · split
    · rfl
    · next hd => exact hs.resolve_right hd

end Connection

end Vigil
