import Vigil.Calls

/-!
# Message integrity from end to end

Two connections joined by a FIFO byte pipe: what the sender's socket accepted
is what the receiver's `recv()` yields, in order, cut anywhere.

On the sending side, `Sends` collects what any call does to the write stream:
it queues whole valid frames and conserves bytes.  On the receiving side,
`feedBuffer_stream` is the rule for draining a stream of encoded messages.
`integrity` combines the two: the receiver handles a prefix of what was queued,
whatever the chunks on either side.
-/

namespace Vigil

open ByteOrder

/-- The frames of a list of messages, one after the other. -/
def wireBytes (msgs : List HeartbeatMessage) : List Byte :=
  msgs.flatMap fun m => (encodeHeartbeat m).bytes

theorem wireBytes_eq_flatten (msgs : List HeartbeatMessage) :
    wireBytes msgs = (msgs.map fun m => (encodeHeartbeat m).bytes).flatten :=
  List.flatMap_def

theorem wireBytes_append (msgs msgs' : List HeartbeatMessage) :
    wireBytes (msgs ++ msgs') = wireBytes msgs ++ wireBytes msgs' :=
  List.flatMap_append

namespace Connection

variable {σ τ : Type}

theorem message_valid (c : Connection σ) (type : MessageType) (sequence timestampNs : BitVec 64) :
    (c.message type sequence timestampNs).Valid :=
  ⟨rfl, rfl, isKnownMessageType_toByte type⟩

/-! ## The sending side -/

/-- From `c` to `c'` the messages `msgs` were queued and no byte was lost. -/
structure Queues (c c' : Connection σ) (msgs : List HeartbeatMessage) : Prop where
  queued_eq : c'.trace.queued = c.trace.queued ++ msgs
  bytes_eq : c'.trace.accepted ++ c'.writePending =
    c.trace.accepted ++ c.writePending ++ wireBytes msgs
  accepted_grows : c.trace.accepted <+: c'.trace.accepted

/-- From `c` to `c'` some valid messages were queued. -/
def Sends (c c' : Connection σ) : Prop :=
  ∃ msgs, Queues c c' msgs ∧ ∀ m ∈ msgs, m.Valid

theorem Queues.trans {a b c : Connection σ} {first second : List HeartbeatMessage}
    (h1 : Queues a b first) (h2 : Queues b c second) : Queues a c (first ++ second) where
  queued_eq := by rw [h2.queued_eq, h1.queued_eq, List.append_assoc]
  bytes_eq := by rw [h2.bytes_eq, h1.bytes_eq, wireBytes_append, ← List.append_assoc]
  accepted_grows := h1.accepted_grows.trans h2.accepted_grows

theorem Sends.trans {a b c : Connection σ} (h1 : Sends a b) (h2 : Sends b c) : Sends a c := by
  obtain ⟨first, hq1, hv1⟩ := h1
  obtain ⟨second, hq2, hv2⟩ := h2
  refine ⟨first ++ second, hq1.trans hq2, fun m hm => ?_⟩
  rcases List.mem_append.mp hm with hm | hm
  · exact hv1 m hm
  · exact hv2 m hm

/-- The write stream was not touched. -/
theorem Sends.of_eq {c c' : Connection σ} (hq : c'.trace.queued = c.trace.queued)
    (ha : c'.trace.accepted = c.trace.accepted) (hp : c'.writePending = c.writePending) :
    Sends c c' :=
  ⟨[], ⟨by simpa using hq, by simp [ha, hp, wireBytes], by simp [ha]⟩,
    by simp⟩

theorem WriteSpec.queues {c : Connection σ} {msgs : List HeartbeatMessage} {fails : Bool}
    {w : WriteEffect} (h : WriteSpec c msgs fails w) : Queues c (c.wrote w) msgs :=
  ⟨h.queued_eq, h.bytes_eq, h.accepted_grows⟩

theorem queues_queueMessage (c : Connection σ) (msg : HeartbeatMessage) :
    Queues c (c.queueMessage msg) [msg] := by
  obtain ⟨w, hw, hspec⟩ := queueMessage_eq c msg
  rw [hw]
  exact hspec.queues

theorem queues_flushWriteBuffer (c : Connection σ) : Queues c c.flushWriteBuffer [] := by
  obtain ⟨w, hw, hspec⟩ := flushLoop_eq c.env.sends c
  rw [flushWriteBuffer, hw]
  exact hspec.queues

theorem sends_queueMessage (c d : Connection σ) (type : MessageType)
    (sequence timestampNs : BitVec 64) :
    Sends c (c.queueMessage (d.message type sequence timestampNs)) :=
  ⟨_, queues_queueMessage c _, by
    simpa using d.message_valid type sequence timestampNs⟩

theorem sends_handleMessage (cfg : Config) (c : Connection σ) (msg : HeartbeatMessage)
    (now : Int) : Sends c (c.handleMessage cfg msg now) := by
  have h := handleMessage_result cfg c msg now
  generalize c.handleMessage cfg msg now = result at h ⊢
  cases h with
  | hello => exact (sends_queueMessage c c .kConnectAck 0 _).trans (Sends.of_eq rfl rfl rfl)
  | pingAnswered captured =>
      exact (Sends.of_eq rfl rfl rfl : Sends c (c.heard now captured)).trans
        (sends_queueMessage _ c .kPong _ _)
  | _ => exact Sends.of_eq rfl rfl rfl

theorem sends_onReadable (cfg : Config) (c : Connection σ) (recvs : List RecvOutcome) (now : Int) :
    Sends c (c.onReadable cfg recvs now) := by
  refine onReadable_keeps (I := Sends c) ?_ ?_ ?_ (Sends.of_eq rfl rfl rfl) recvs
  · intro d msg hd
    have hnoted : Sends d (d.noteHandled msg) := Sends.of_eq rfl rfl rfl
    exact hd.trans (hnoted.trans (sends_handleMessage cfg _ msg now))
  · exact fun d r hd => hd.trans (Sends.of_eq rfl rfl rfl)
  · exact fun d buf hd => hd.trans (Sends.of_eq rfl rfl rfl)

theorem sends_onWritable (c : Connection σ) (soError : Nat) (now : Int) :
    Sends c (c.onWritable soError now) := by
  unfold onWritable
  split
  · split
    · exact Sends.of_eq rfl rfl rfl
    · dsimp only
      split
      · exact (Sends.of_eq rfl rfl rfl : Sends c (c.transitionTo .kHandshaking now)).trans
          (sends_queueMessage _ c .kConnectHello 0 _)
      · exact Sends.of_eq rfl rfl rfl
  · exact ⟨[], queues_flushWriteBuffer c, by simp⟩

theorem sends_sendPing (c : Connection σ) (now : Int) : Sends c (c.sendPing now) := by
  by_cases h : c.role = .kInitiator ∧ (c.state = .kHealthy ∨ c.state = .kDegraded)
  · rw [sendPing_eq c now h.1 h.2]
    have hbump : Sends c c.bumpSequence := Sends.of_eq rfl rfl rfl
    exact hbump.trans ((sends_queueMessage c.bumpSequence c .kPing _ _).trans
      (Sends.of_eq rfl rfl rfl))
  · rw [sendPing_idle c now h]
    exact Sends.of_eq rfl rfl rfl

theorem sends_sendPong (c : Connection σ) (sequence timestampNs : BitVec 64) :
    Sends c (c.sendPong sequence timestampNs) := by
  unfold sendPong
  split
  · exact Sends.of_eq rfl rfl rfl
  · exact sends_queueMessage c c .kPong sequence timestampNs

theorem sends_checkTimeout (cfg : Config) (c : Connection σ) (now : Int) :
    Sends c (c.checkTimeout cfg now).2 := by
  have h := checkTimeout_result cfg c now
  generalize c.checkTimeout cfg now = result at h ⊢
  cases h <;> exact Sends.of_eq rfl rfl rfl

/-- **No call but `rebind` breaks the write stream.** -/
theorem sends_call (c : Connection σ) (call : Call σ) (h : call.isRebind = false) :
    Sends c (c.call call) := by
  obtain ⟨cfg, env, op⟩ := call
  have hin : Sends c (c.withEnv env) := Sends.of_eq rfl rfl rfl
  cases op with
  | onReadable recvs now => exact hin.trans (sends_onReadable cfg _ recvs now)
  | onWritable soError now => exact hin.trans (sends_onWritable _ soError now)
  | onHangupOrError errno now => exact Sends.of_eq rfl rfl rfl
  | sendPing now => exact hin.trans (sends_sendPing _ now)
  | sendPong sequence timestampNs => exact hin.trans (sends_sendPong _ sequence timestampNs)
  | checkTimeout now => exact hin.trans (sends_checkTimeout cfg _ now)
  | resetLivenessBaseline now => exact Sends.of_eq rfl rfl rfl
  | rebind newFd now => simp [Call.isRebind] at h

/-! ## Accusations -/

/-- The reasons of the protocol violations a connection reported. -/
def accusations (c : Connection σ) : List ViolationReason :=
  c.trace.reports.filterMap fun r =>
    match r with
    | .protocolViolation reason => some reason
    | _ => none

/-- The two buffer caps, which are no fault of the peer's messages. -/
def IsCap (reason : ViolationReason) : Prop :=
  reason = .readAccumExceeded ∨ reason = .writePendingExceeded

/-- From `c` to `c'` only violations meeting `P` were reported. -/
def Accuses (P : ViolationReason → Prop) (c c' : Connection σ) : Prop :=
  ∃ new, c'.accusations = c.accusations ++ new ∧ ∀ r ∈ new, P r

variable {P : ViolationReason → Prop}

theorem Accuses.trans {a b c : Connection σ} (h1 : Accuses P a b) (h2 : Accuses P b c) :
    Accuses P a c := by
  obtain ⟨first, he1, hp1⟩ := h1
  obtain ⟨second, he2, hp2⟩ := h2
  refine ⟨first ++ second, by rw [he2, he1, List.append_assoc], fun r hr => ?_⟩
  rcases List.mem_append.mp hr with hr | hr
  · exact hp1 r hr
  · exact hp2 r hr

theorem Accuses.of_eq {c c' : Connection σ} (h : c'.accusations = c.accusations) :
    Accuses P c c' :=
  ⟨[], by simpa using h, by simp⟩

theorem accuses_transitionTo (c : Connection σ) (s : ConnectionState) (now : Int) :
    Accuses P c (c.transitionTo s now) :=
  Accuses.of_eq (by simp [accusations, transitionTo, report, List.filterMap_append])

theorem accuses_handleSocketError (c : Connection σ) (now : Int) (errno : Nat) :
    Accuses P c (c.handleSocketError now errno) :=
  Accuses.of_eq (by simp [accusations, handleSocketError, transitionTo, report])

theorem accuses_handlePeerClosed (c : Connection σ) (now : Int) :
    Accuses P c (c.handlePeerClosed now) :=
  Accuses.of_eq (by simp [accusations, handlePeerClosed, transitionTo, report])

theorem accuses_handleProtocolViolation (c : Connection σ) (reason : ViolationReason) (now : Int)
    (h : P reason) : Accuses P c (c.handleProtocolViolation reason now) :=
  ⟨[reason], by simp [accusations, handleProtocolViolation, transitionTo, report], by simpa using h⟩

theorem WriteSpec.accuses {c : Connection σ} {msgs : List HeartbeatMessage} {fails : Bool}
    {w : WriteEffect} (h : WriteSpec c msgs fails w) (hcap : P .writePendingExceeded) :
    Accuses P c (c.wrote w) := by
  cases fails with
  | false => exact Accuses.of_eq (by simp [accusations, wrote, (h.quiet rfl).2.2])
  | true =>
      obtain ⟨_, new, hfail, hreports⟩ := h.failed rfl
      cases hfail with
      | socket errno => exact Accuses.of_eq (by simp [accusations, wrote, hreports])
      | cap =>
          exact ⟨[.writePendingExceeded], by simp [accusations, wrote, hreports], by simpa using hcap⟩

theorem accuses_queueMessage (c : Connection σ) (msg : HeartbeatMessage)
    (hcap : P .writePendingExceeded) : Accuses P c (c.queueMessage msg) := by
  obtain ⟨w, hw, hspec⟩ := queueMessage_eq c msg
  rw [hw]
  exact hspec.accuses hcap

theorem accuses_flushWriteBuffer (c : Connection σ) (hcap : P .writePendingExceeded) :
    Accuses P c c.flushWriteBuffer := by
  obtain ⟨w, hw, hspec⟩ := flushLoop_eq c.env.sends c
  rw [flushWriteBuffer, hw]
  exact hspec.accuses hcap

/-- A message is accused only if it is unexpected, and never of being corrupt. -/
theorem accuses_handleMessage (cfg : Config) (c : Connection σ) (msg : HeartbeatMessage)
    (now : Int) (hcap : P .writePendingExceeded)
    (h : c.Unexpected msg → ∀ reason, reason ≠ .corruptMessage → P reason) :
    Accuses P c (c.handleMessage cfg msg now) := by
  have hresult := handleMessage_result cfg c msg now
  generalize c.handleMessage cfg msg now = result at hresult ⊢
  cases hresult with
  | violation reason hreason hun =>
      exact accuses_handleProtocolViolation c reason now (h hun reason hreason)
  | hello =>
      exact (accuses_queueMessage c (c.message .kConnectAck 0 _) hcap).trans
        (accuses_transitionTo (c.queueMessage _) .kHealthy now)
  | ack => exact accuses_transitionTo c .kHealthy now
  | pingAnswered captured => exact accuses_queueMessage (c.heard now captured) _ hcap
  | recovered => exact accuses_transitionTo c .kHealthy now
  | closed => exact accuses_handlePeerClosed c now
  | _ => exact Accuses.of_eq rfl

theorem accuses_finishRead (c : Connection σ) (ending : RecvEnd) (now : Int) :
    Accuses P c (c.finishRead ending now) := by
  unfold finishRead
  split
  · exact Accuses.of_eq rfl
  · cases ending with
    | drained => exact Accuses.of_eq rfl
    | peerClosed => exact accuses_handlePeerClosed c now
    | socketError errno => exact accuses_handleSocketError c now errno

theorem accuses_onWritable (c : Connection σ) (soError : Nat) (now : Int)
    (hcap : P .writePendingExceeded) : Accuses P c (c.onWritable soError now) := by
  unfold onWritable
  split
  · split
    · exact accuses_handleSocketError c now soError
    · dsimp only
      split
      · exact (accuses_transitionTo c .kHandshaking now).trans (accuses_queueMessage _ _ hcap)
      · exact accuses_transitionTo c .kHandshaking now
  · exact accuses_flushWriteBuffer c hcap

theorem accuses_sendPing (c : Connection σ) (now : Int) (hcap : P .writePendingExceeded) :
    Accuses P c (c.sendPing now) := by
  by_cases h : c.role = .kInitiator ∧ (c.state = .kHealthy ∨ c.state = .kDegraded)
  · rw [sendPing_eq c now h.1 h.2]
    exact accuses_queueMessage c.bumpSequence _ hcap
  · rw [sendPing_idle c now h]
    exact Accuses.of_eq rfl

theorem accuses_checkTimeout (cfg : Config) (c : Connection σ) (now : Int) :
    Accuses P c (c.checkTimeout cfg now).2 := by
  have h := checkTimeout_result cfg c now
  generalize c.checkTimeout cfg now = result at h ⊢
  cases h with
  | attemptExpired => exact accuses_transitionTo c .kFailed now
  | silent => exact accuses_transitionTo c .kFailed now
  | lastMiss => exact accuses_transitionTo (c.countMiss cfg) .kFailed now
  | miss => exact accuses_transitionTo (c.countMiss cfg) .kDegraded now
  | _ => exact Accuses.of_eq rfl

/-- Without reading, only the write cap is ever reported. -/
theorem accuses_call (c : Connection σ) (call : Call σ) (hread : call.isRead = false)
    (hcap : P .writePendingExceeded) : Accuses P c (c.call call) := by
  obtain ⟨cfg, env, op⟩ := call
  cases op with
  | onReadable recvs now => simp [Call.isRead] at hread
  | onWritable soError now => exact accuses_onWritable (c.withEnv env) soError now hcap
  | onHangupOrError errno now => exact accuses_handleSocketError (c.withEnv env) now errno
  | sendPing now => exact accuses_sendPing (c.withEnv env) now hcap
  | sendPong sequence timestampNs =>
      show Accuses P c ((c.withEnv env).sendPong sequence timestampNs)
      unfold sendPong
      split
      · exact Accuses.of_eq rfl
      · exact accuses_queueMessage (c.withEnv env) _ hcap
  | checkTimeout now => exact accuses_checkTimeout cfg (c.withEnv env) now
  | resetLivenessBaseline now => exact Accuses.of_eq rfl
  | rebind newFd now => exact accuses_transitionTo c (startState c.role) now

/-! ## The receiving side -/

theorem feedFrame_encoded (cfg : Config) (now : Int) (c : Connection σ) (msg : HeartbeatMessage)
    (hv : msg.Valid) :
    feedFrame cfg now c (encodeHeartbeat msg).bytes = c.dispatch cfg msg.stamped now := by
  rw [feedFrame_bytes, decode_encode msg hv]
  rfl

/-- **Draining a stream of messages.**  `K` relates the messages still to come
to the connection; if dispatching the next one keeps it, so does draining
whatever part of their frames has arrived. -/
theorem feedBuffer_stream {K : List HeartbeatMessage → Connection σ → Prop} (cfg : Config)
    (now : Int)
    (hstep : ∀ m rest c, c.state ≠ .kFailed → K (m :: rest) c →
      K rest (c.dispatch cfg m.stamped now))
    (buf missing : List Byte) {msgs : List HeartbeatMessage} (c : Connection σ)
    (hvalid : ∀ m ∈ msgs, m.Valid) (hstream : buf ++ missing = wireBytes msgs)
    (hlive : c.state ≠ .kFailed) (hK : K msgs c) :
    ∃ rest, K rest (feedBuffer cfg now buf c).1 ∧
      ((feedBuffer cfg now buf c).1.state ≠ .kFailed →
        (feedBuffer cfg now buf c).2 ++ missing = wireBytes rest) := by
  obtain ⟨frames, ⟨rest, rfl, _, hrest⟩, hleft⟩ := Framing.drain_stream
    (feedFrame cfg now) failed (n := kHeartbeatMessageSize)
    (I := fun frames d => ∃ ms : List HeartbeatMessage,
      frames = ms.map (fun m => (encodeHeartbeat m).bytes) ∧ (∀ m ∈ ms, m.Valid) ∧ K ms d)
    (by decide)
    (by
      rintro f frames d hd ⟨ms, hms, hv, hKd⟩
      cases ms with
      | nil => simp at hms
      | cons m ms =>
          obtain ⟨rfl, rfl⟩ : f = (encodeHeartbeat m).bytes ∧
              frames = ms.map fun m => (encodeHeartbeat m).bytes := by simpa using hms
          refine ⟨ms, rfl, fun x hx => hv x (List.mem_cons_of_mem _ hx), ?_⟩
          rw [feedFrame_encoded cfg now d m (hv m List.mem_cons_self)]
          exact hstep m ms d ((failed_eq_false d).mp hd) hKd)
    c
    (by
      intro f hf
      obtain ⟨m, _, rfl⟩ := List.mem_map.mp hf
      exact (encodeHeartbeat m).length_eq)
    (by rw [hstream, wireBytes_eq_flatten])
    ((failed_eq_false c).mpr hlive) ⟨msgs, rfl, hvalid, hK⟩
  refine ⟨rest, hrest, fun hnot => ?_⟩
  rw [wireBytes_eq_flatten]
  exact hleft ((failed_eq_false _).mpr hnot)

/-! ## The pipe -/

/-- Nothing has gone through the socket yet. -/
structure NewSocket (c : Connection σ) : Prop where
  queued_eq : c.trace.queued = []
  accepted_eq : c.trace.accepted = []
  handled_eq : c.trace.handled = []
  readAccum_eq : c.readAccum = []
  writePending_eq : c.writePending = []

theorem Fresh.newSocket {c : Connection σ} (h : Fresh c) : NewSocket c := by
  obtain ⟨fd, role, feedId, host, port, interceptor, env, now, rfl⟩ := h.created
  exact ⟨rfl, rfl, rfl, rfl, rfl⟩

theorem rebind_newSocket (c : Connection σ) (newFd now : Int) : NewSocket (c.rebind newFd now) :=
  ⟨rfl, rfl, rfl, rfl, rfl⟩

/-- The pipe invariant: `delivered` bytes of what the sender's socket accepted
have been received; the receiver handled the messages `done`, and what it has
not handled yet is in its buffer, in the pipe or in the sender's queue. -/
structure Linked (sender : Connection σ) (receiver : Connection τ) (delivered : Nat) : Prop where
  valid : ∀ m ∈ sender.trace.queued, m.Valid
  conserved : sender.trace.accepted ++ sender.writePending = wireBytes sender.trace.queued
  delivered_le : delivered ≤ sender.trace.accepted.length
  leftover : Leftover receiver
  stream : ∃ done rest, sender.trace.queued = done ++ rest ∧
    receiver.trace.handled = done.map HeartbeatMessage.stamped ∧
    (receiver.state ≠ .kFailed →
      receiver.readAccum ++ (sender.trace.accepted ++ sender.writePending).drop delivered =
        wireBytes rest)

theorem linked_newSocket {sender : Connection σ} {receiver : Connection τ}
    (hs : NewSocket sender) (hr : NewSocket receiver) : Linked sender receiver 0 where
  valid := by simp [hs.queued_eq]
  conserved := by simp [hs.accepted_eq, hs.writePending_eq, hs.queued_eq, wireBytes]
  delivered_le := Nat.zero_le _
  leftover := fun _ => by rw [hr.readAccum_eq]; decide
  stream := ⟨[], [], by simp [hs.queued_eq], by simp [hr.handled_eq], fun _ => by
    simp [hr.readAccum_eq, hs.accepted_eq, hs.writePending_eq, wireBytes]⟩

/-- Whatever the sender does short of `rebind`. -/
theorem Linked.sender_call {sender : Connection σ} {receiver : Connection τ} {delivered : Nat}
    (h : Linked sender receiver delivered) (call : Call σ) (hcall : call.isRebind = false) :
    Linked (sender.call call) receiver delivered := by
  obtain ⟨msgs, hq, hv⟩ := sends_call sender call hcall
  obtain ⟨done, rest, hqueued, hhandled, hstream⟩ := h.stream
  have htotal : delivered ≤ (sender.trace.accepted ++ sender.writePending).length := by
    rw [List.length_append]
    exact Nat.le_add_right_of_le h.delivered_le
  refine ⟨?_, ?_, ?_, h.leftover, done, rest ++ msgs, ?_, hhandled, ?_⟩
  · intro m hm
    rw [hq.queued_eq] at hm
    rcases List.mem_append.mp hm with hm | hm
    · exact h.valid m hm
    · exact hv m hm
  · rw [hq.bytes_eq, hq.queued_eq, wireBytes_append, h.conserved]
  · exact h.delivered_le.trans hq.accepted_grows.length_le
  · rw [hq.queued_eq, hqueued, List.append_assoc]
  · intro hlive
    rw [hq.bytes_eq, wireBytes_append, List.drop_append_of_le_length htotal, ← List.append_assoc,
      hstream hlive]

/-- Whatever the receiver does short of reading and `rebind`. -/
theorem Linked.receiver_call {sender : Connection σ} {receiver : Connection τ} {delivered : Nat}
    (h : Linked sender receiver delivered) (call : Call τ) (hread : call.isRead = false)
    (hcall : call.isRebind = false) : Linked sender (receiver.call call) delivered := by
  obtain ⟨done, rest, hqueued, hhandled, hstream⟩ := h.stream
  have hcore := call_core receiver call hread hcall
  refine ⟨h.valid, h.conserved, h.delivered_le, call_leftover receiver call h.leftover, done, rest,
    hqueued, ?_, ?_⟩
  · rw [handled_of_core hcore, hhandled]
  · intro hlive
    rw [readAccum_of_core hcore]
    exact hstream fun hfailed => hlive (call_stays_failed receiver call hfailed hcall)

theorem finishRead_live {c : Connection σ} {ending : RecvEnd} {now : Int}
    (h : (c.finishRead ending now).state ≠ .kFailed) : c.state ≠ .kFailed := by
  intro hfailed
  rw [finishRead_failed c ending now hfailed] at h
  exact h hfailed

/-- The receiver reads the next `bytes` of the pipe.  `J` is any further
property of the receiver that dispatching the next queued message keeps. -/
theorem Linked.receiver_read {sender : Connection σ} (receiver : Connection τ) {delivered : Nat}
    {J : Connection τ → Prop} (h : Linked sender receiver delivered) (cfg : Config)
    (recvs : List RecvOutcome) (now : Int) (hlive : receiver.state ≠ .kFailed)
    (hpre : recvBytes recvs <+: sender.trace.accepted.drop delivered)
    (hstep : ∀ m c, m ∈ sender.trace.queued → c.state ≠ .kFailed →
      c.trace.handled ++ [m.stamped] <+: sender.trace.queued.map HeartbeatMessage.stamped →
      J c → J (c.dispatch cfg m.stamped now))
    (hread : ∀ c buf, J c → J (c.withRead buf))
    (hfinish : ∀ c ending, J c → J (c.finishRead ending now))
    (hover : ∀ c, J c → J (c.handleProtocolViolation .readAccumExceeded now))
    (hJ : J receiver) :
    Linked sender (receiver.onReadable cfg recvs now) (delivered + (recvBytes recvs).length) ∧
      J (receiver.onReadable cfg recvs now) := by
  obtain ⟨done, rest, hqueued, hhandled, hstream⟩ := h.stream
  obtain ⟨later, hlater⟩ := hpre
  have hle : delivered + (recvBytes recvs).length ≤ sender.trace.accepted.length := by
    have := congrArg List.length hlater
    rw [List.length_append, List.length_drop] at this
    have := h.delivered_le
    omega
  have hsplit : (sender.trace.accepted ++ sender.writePending).drop delivered =
      recvBytes recvs ++ (sender.trace.accepted ++ sender.writePending).drop
        (delivered + (recvBytes recvs).length) := by
    rw [List.drop_append_of_le_length h.delivered_le, List.drop_append_of_le_length hle,
      ← List.drop_drop, ← hlater, List.drop_left, List.append_assoc]
  have hleft : Leftover (receiver.onReadable cfg recvs now) :=
    fun hnot => onReadable_leftover cfg receiver recvs now hnot
  rcases onReadable_eq cfg receiver recvs now with ⟨all, ⟨rfl, _⟩, heq⟩ | ⟨buf, _, _, heq⟩
  · obtain ⟨rest', ⟨done', hdone', hhandled', hJ'⟩, hrest'⟩ := feedBuffer_stream
      (K := fun ms c => ∃ done, sender.trace.queued = done ++ ms ∧
        c.trace.handled = done.map HeartbeatMessage.stamped ∧ J c) cfg now
      (by
        rintro m ms c hc ⟨done, hq, hh, hj⟩
        refine ⟨done ++ [m], by simp [hq], by simp [dispatch_handled, hh], ?_⟩
        refine hstep m c (by simp [hq]) hc ?_ hj
        rw [hh, hq]
        simp)
      (receiver.readAccum ++ recvBytes recvs)
      ((sender.trace.accepted ++ sender.writePending).drop (delivered + (recvBytes recvs).length))
      receiver
      (fun m hm => h.valid m (by rw [hqueued]; exact List.mem_append_right _ hm))
      (by rw [List.append_assoc, ← hsplit, hstream hlive]) hlive
      ⟨done, hqueued, hhandled, hJ⟩
    refine ⟨⟨h.valid, h.conserved, hle, hleft, done', rest', hdone', ?_, ?_⟩, ?_⟩
    · rw [heq, handled_of_core (finishRead_core _ _ now)]
      exact hhandled'
    · intro hnot
      rw [heq] at hnot ⊢
      have hmid := finishRead_live hnot
      rw [readAccum_of_core (finishRead_core _ _ now)]
      exact hrest' hmid
    · rw [heq]
      exact hfinish _ _ (hread _ _ hJ')
  · refine ⟨⟨h.valid, h.conserved, hle, hleft, done, rest, hqueued, ?_, ?_⟩, ?_⟩
    · rw [heq]
      exact hhandled
    · intro hnot
      rw [heq] at hnot
      exact absurd rfl hnot
    · rw [heq]
      exact hover _ (hread _ _ hJ)

end Connection

open Connection

/-- The bytes a call takes from its socket. -/
def Call.received {σ : Type} (call : Call σ) : List Byte :=
  match call.op with
  | .onReadable recvs _ => recvBytes recvs
  | _ => []

/-- A sender and a receiver, with the number of accepted bytes received. -/
structure Pipe (σ τ : Type) where
  sender : Connection σ
  receiver : Connection τ
  delivered : Nat

/-- A call on one of the two ends. -/
inductive PipeStep (σ τ : Type) where
  | sender (call : Call σ)
  | receiver (call : Call τ)

namespace Pipe

variable {σ τ : Type}

def step (p : Pipe σ τ) : PipeStep σ τ → Pipe σ τ
  | .sender call => { p with sender := p.sender.call call }
  | .receiver call =>
      { p with
        receiver := p.receiver.call call
        delivered := p.delivered + call.received.length }

/-- The pipe is reliable and in order, and nobody reads a failed connection or
changes sockets. -/
def Admits (p : Pipe σ τ) : PipeStep σ τ → Prop
  | .sender call => call.isRebind = false
  | .receiver call => call.isRebind = false ∧
      (call.isRead = true → p.receiver.state ≠ .kFailed) ∧
      call.received <+: p.sender.trace.accepted.drop p.delivered

/-- The reports of corrupt messages made by the receiver. -/
def corruptions (p : Pipe σ τ) : Nat :=
  p.receiver.accusations.count .corruptMessage

theorem count_of_accuses {c c' : Connection σ}
    (h : Accuses (fun r => r ≠ .corruptMessage) c c') :
    c'.accusations.count .corruptMessage = c.accusations.count .corruptMessage := by
  obtain ⟨new, heq, hnew⟩ := h
  rw [heq, List.count_append, List.count_eq_zero.mpr fun hmem => hnew _ hmem rfl, Nat.add_zero]

theorem step_linked (p : Pipe σ τ) (s : PipeStep σ τ) (n : Nat)
    (h : Linked p.sender p.receiver p.delivered ∧ p.corruptions = n) (hs : p.Admits s) :
    Linked (p.step s).sender (p.step s).receiver (p.step s).delivered ∧
      (p.step s).corruptions = n := by
  cases s with
  | sender call => exact ⟨h.1.sender_call call hs, h.2⟩
  | receiver call =>
      by_cases hread : call.isRead = true
      · obtain ⟨cfg, env, op⟩ := call
        cases op with
        | onReadable recvs now =>
            have hcap : ViolationReason.readAccumExceeded ≠ .corruptMessage := nofun
            exact Linked.receiver_read
              (p.receiver.withEnv env)
              (J := fun c => c.accusations.count .corruptMessage = n)
              ⟨h.1.valid, h.1.conserved, h.1.delivered_le, h.1.leftover, h.1.stream⟩
              cfg recvs now (hs.2.1 rfl) hs.2.2
              (fun m c _ _ _ hc => by
                rw [← hc]
                exact count_of_accuses (accuses_handleMessage cfg (c.noteHandled m.stamped)
                  m.stamped now nofun (fun _ _ hreason => hreason)))
              (fun c buf hc => hc)
              (fun c ending hc => by
                rw [← hc]
                exact count_of_accuses (accuses_finishRead c ending now))
              (fun c hc => by
                rw [← hc]
                exact count_of_accuses (accuses_handleProtocolViolation c _ now hcap))
              h.2
        | _ => simp [Call.isRead] at hread
      · simp only [Bool.not_eq_true] at hread
        have hnone : call.received = [] := by
          obtain ⟨cfg, env, op⟩ := call
          cases op with
          | onReadable recvs now => simp [Call.isRead] at hread
          | _ => rfl
        refine ⟨?_, ?_⟩
        · show Linked p.sender (p.receiver.call call) (p.delivered + call.received.length)
          rw [hnone]
          exact h.1.receiver_call call hread hs.1
        · rw [← h.2]
          exact count_of_accuses (accuses_call p.receiver call hread nofun)

/-- A live receiver has handled every frame that arrived whole. -/
theorem handled_length {p : Pipe σ τ} (h : Linked p.sender p.receiver p.delivered)
    (hlive : p.receiver.state ≠ .kFailed) :
    p.receiver.trace.handled.length = p.delivered / kHeartbeatMessageSize := by
  obtain ⟨done, rest, hqueued, hhandled, hstream⟩ := h.stream
  have hwire : ∀ msgs, (wireBytes msgs).length = kHeartbeatMessageSize * msgs.length := by
    intro msgs
    induction msgs with
    | nil => rfl
    | cons m msgs ih =>
        have hcons : wireBytes (m :: msgs) = (encodeHeartbeat m).bytes ++ wireBytes msgs := rfl
        rw [hcons, List.length_append, ih, (encodeHeartbeat m).length_eq, List.length_cons,
          Nat.mul_succ, Nat.add_comm]
  have hall := congrArg List.length h.conserved
  have hrest := congrArg List.length (hstream hlive)
  have hshort := h.leftover hlive
  have hle := h.delivered_le
  rw [hwire, hqueued] at hall
  rw [hwire, List.length_append, List.length_drop] at hrest
  simp only [List.length_append, kHeartbeatMessageSize] at hall hrest hshort ⊢
  rw [hhandled, List.length_map]
  omega

/-- **End-to-end integrity.**  Between two new sockets, whatever the ends do
and however the bytes are cut: what the sender's socket accepted and what is
still pending are the queued frames in order; the receiver handles a prefix of
the queued messages, as many as have arrived whole while it is live; and no
frame fails to decode. -/
theorem integrity (p : Pipe σ τ) (steps : List (PipeStep σ τ)) (hs : NewSocket p.sender)
    (hr : NewSocket p.receiver) (hd : p.delivered = 0) (hrun : Runs.Along step Admits p steps) :
    let q := steps.foldl step p
    q.sender.trace.accepted ++ q.sender.writePending = wireBytes q.sender.trace.queued ∧
      q.receiver.trace.handled <+: q.sender.trace.queued.map HeartbeatMessage.stamped ∧
      (q.receiver.state ≠ .kFailed →
        q.receiver.trace.handled.length = q.delivered / kHeartbeatMessageSize) ∧
      q.corruptions = p.corruptions := by
  intro q
  have hstart : Linked p.sender p.receiver p.delivered := by
    rw [hd]
    exact linked_newSocket hs hr
  have hend := Runs.invariant (fun r s hr hadm => step_linked r s p.corruptions hr hadm)
    (⟨hstart, rfl⟩ : Linked p.sender p.receiver p.delivered ∧ p.corruptions = p.corruptions) hrun
  obtain ⟨done, rest, hqueued, hhandled, _⟩ := hend.1.stream
  refine ⟨hend.1.conserved, ?_, handled_length hend.1, hend.2⟩
  rw [hhandled, hqueued, List.map_append]
  exact List.prefix_append _ _

/-- A monitor's connection to feed 7 and the simulator's end of it. -/
def newPipe : Pipe Unit Unit where
  sender := create 5 .kInitiator 7 "127.0.0.1" 9000 none ⟨[], fun _ => 0, ()⟩ 0
  receiver := create 9 .kResponder 7 "127.0.0.1" 40000 none ⟨[], fun _ => 0, ()⟩ 0
  delivered := 0

/-- The CONNECT_HELLO goes out in two short writes and is received in two
chunks, cut elsewhere. -/
def splitHello : List (PipeStep Unit Unit) :=
  let wire := (encodeHeartbeat
    { type := MessageType.kConnectHello.toByte, feedId := 7, timestampNs := 1 }).bytes
  [.sender ⟨{}, ⟨[.sent 10], fun _ => 1, ()⟩, .onWritable 0 1⟩,
    .receiver ⟨{}, ⟨[], fun _ => 2, ()⟩, .onReadable [.data ⟨wire.take 3, by decide +kernel⟩] 2⟩,
    .sender ⟨{}, ⟨[.eintr, .sent 18], fun _ => 3, ()⟩, .onWritable 0 3⟩,
    .receiver ⟨{}, ⟨[.sent 28], fun _ => 4, ()⟩,
      .onReadable [.data ⟨wire.drop 3, by decide +kernel⟩] 4⟩]

theorem splitHello_admitted : Runs.Along step Admits newPipe splitHello := by
  refine ⟨rfl, ⟨rfl, fun _ => by decide +kernel, by decide +kernel⟩, rfl,
    ⟨rfl, fun _ => by decide +kernel, by decide +kernel⟩, trivial⟩

/-- Reassembled from three and twenty-five bytes, the HELLO is handled once. -/
theorem integrity_splitHello :
    (splitHello.foldl step newPipe).receiver.trace.handled.length = 1 ∧
      (splitHello.foldl step newPipe).receiver.trace.handled <+:
        (splitHello.foldl step newPipe).sender.trace.queued.map HeartbeatMessage.stamped :=
  ⟨by decide +kernel, (integrity newPipe splitHello (Fresh.newSocket ⟨_, _, _, _, _, _, _, _, rfl⟩)
    (Fresh.newSocket ⟨_, _, _, _, _, _, _, _, rfl⟩) rfl splitHello_admitted).2.1⟩

end Pipe

end Vigil
