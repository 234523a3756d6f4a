import Vigil.ReadPath
import Vigil.Runs

/-!
# Calls into a connection

A `Call` is one call of a public method together with everything the outside
world contributes to it: the configuration in force, the answers of the kernel
and the state behind the interceptor.  A run of a connection is a list of
calls; nothing is assumed about their order.

The lemmas say what no call but `rebind` touches (`identity`), what besides it
only reading touches (`core`), and that a connection that has not failed holds
less than one frame between calls.
-/

namespace Vigil

open ByteOrder

/-- The public methods that change a connection. -/
inductive ConnOp where
  | onReadable (recvs : List RecvOutcome) (now : Int)
  | onWritable (soError : Nat) (now : Int)
  | onHangupOrError (errno : Nat) (now : Int)
  | sendPing (now : Int)
  | sendPong (sequence timestampNs : BitVec 64)
  | checkTimeout (now : Int)
  | resetLivenessBaseline (now : Int)
  | rebind (newFd now : Int)

/-- The `now_ns` a method is handed. -/
def ConnOp.now : ConnOp → Option Int
  | .onReadable _ now => some now
  | .onWritable _ now => some now
  | .onHangupOrError _ now => some now
  | .sendPing now => some now
  | .sendPong _ _ => none
  | .checkTimeout now => some now
  | .resetLivenessBaseline now => some now
  | .rebind _ now => some now

/-- A method call and what the outside world contributes to it. -/
structure Call (σ : Type) where
  cfg : Config
  env : Env σ
  op : ConnOp

/-- Is this the call that moves the connection to a new socket? -/
def Call.isRebind {σ : Type} (call : Call σ) : Bool :=
  match call.op with
  | .rebind _ _ => true
  | _ => false

/-- Is this the call that reads the socket? -/
def Call.isRead {σ : Type} (call : Call σ) : Bool :=
  match call.op with
  | .onReadable _ _ => true
  | _ => false

/-- Is this a call that can only write, connect or fail? -/
def Call.isWrite {σ : Type} (call : Call σ) : Bool :=
  match call.op with
  | .onWritable _ _ | .onHangupOrError _ _ | .sendPing _ | .sendPong _ _ => true
  | _ => false

/-- The session is established. -/
def ConnectionState.Established (s : ConnectionState) : Prop :=
  s = .kHealthy ∨ s = .kDegraded

instance (s : ConnectionState) : Decidable s.Established :=
  inferInstanceAs (Decidable (_ ∨ _))

namespace Connection

variable {σ : Type}

/-- Carry out one call. -/
def call (c : Connection σ) (call : Call σ) : Connection σ :=
  let entered := c.withEnv call.env
  match call.op with
  | .onReadable recvs now => entered.onReadable call.cfg recvs now
  | .onWritable soError now => entered.onWritable soError now
  | .onHangupOrError errno now => entered.onHangupOrError errno now
  | .sendPing now => entered.sendPing now
  | .sendPong sequence timestampNs => entered.sendPong sequence timestampNs
  | .checkTimeout now => (entered.checkTimeout call.cfg now).2
  | .resetLivenessBaseline now => entered.resetLivenessBaseline now
  | .rebind newFd now => entered.rebind newFd now

/-- A connection as its constructor leaves it. -/
structure Fresh (c : Connection σ) : Prop where
  created : ∃ fd role feedId host port interceptor env now,
    c = create fd role feedId host port interceptor env now

/-! ## What calls leave alone -/

/-- The fields that identify a connection. -/
def identity (c : Connection σ) :
    Int × Role × BitVec 32 × String × BitVec 16 × Option (PingInterceptor σ) :=
  (c.fd, c.role, c.feedId, c.host, c.port, c.pingInterceptor)

/-- The fields that only reading and `rebind` change. -/
def core (c : Connection σ) :
    (Int × Role × BitVec 32 × String × BitVec 16 × Option (PingInterceptor σ)) ×
      List Byte × List HeartbeatMessage :=
  (c.identity, c.readAccum, c.trace.handled)

theorem identity_of_core {c c' : Connection σ} (h : c'.core = c.core) :
    c'.identity = c.identity :=
  congrArg Prod.fst h

theorem readAccum_of_core {c c' : Connection σ} (h : c'.core = c.core) :
    c'.readAccum = c.readAccum :=
  congrArg (fun x => x.2.1) h

theorem handled_of_core {c c' : Connection σ} (h : c'.core = c.core) :
    c'.trace.handled = c.trace.handled :=
  congrArg (fun x => x.2.2) h

theorem role_of_identity {c c' : Connection σ} (h : c'.identity = c.identity) :
    c'.role = c.role :=
  congrArg (fun x => x.2.1) h

theorem transitionTo_core (c : Connection σ) (s : ConnectionState) (now : Int) :
    (c.transitionTo s now).core = c.core := by
  simp only [transitionTo, report, core, identity]

theorem handleSocketError_core (c : Connection σ) (now : Int) (errno : Nat) :
    (c.handleSocketError now errno).core = c.core :=
  transitionTo_core (c.report (.socketError errno)) .kFailed now

theorem handlePeerClosed_core (c : Connection σ) (now : Int) :
    (c.handlePeerClosed now).core = c.core :=
  transitionTo_core (c.report .peerClosed) .kFailed now

theorem handleProtocolViolation_core (c : Connection σ) (reason : ViolationReason) (now : Int) :
    (c.handleProtocolViolation reason now).core = c.core :=
  transitionTo_core (c.report (.protocolViolation reason)) .kFailed now

theorem queueMessage_core (c : Connection σ) (msg : HeartbeatMessage) :
    (c.queueMessage msg).core = c.core := by
  obtain ⟨w, hw, _⟩ := queueMessage_eq c msg
  rw [hw]
  rfl

theorem flushWriteBuffer_core (c : Connection σ) : c.flushWriteBuffer.core = c.core := by
  obtain ⟨w, hw, _⟩ := flushLoop_eq c.env.sends c
  rw [flushWriteBuffer, hw]
  rfl

theorem sendPong_core (c : Connection σ) (sequence timestampNs : BitVec 64) :
    (c.sendPong sequence timestampNs).core = c.core := by
  unfold sendPong
  split
  · rfl
  · exact queueMessage_core c _

theorem finishRead_core (c : Connection σ) (ending : RecvEnd) (now : Int) :
    (c.finishRead ending now).core = c.core := by
  unfold finishRead
  split
  · rfl
  · split <;> rfl

theorem onWritable_core (c : Connection σ) (soError : Nat) (now : Int) :
    (c.onWritable soError now).core = c.core := by
  unfold onWritable
  split
  · split
    · rfl
    · dsimp only
      split
      · exact queueMessage_core _ _
      · rfl
  · exact flushWriteBuffer_core c

/-- `next_sequence_++`. -/
def bumpSequence (c : Connection σ) : Connection σ :=
  { c with nextSequence := c.nextSequence + 1 }

/-- `stats_.record_ping_sent()`. -/
def countPing (c : Connection σ) : Connection σ :=
  { c with stats := c.stats.recordPingSent }

/-- The PING sent at `now`. -/
def pingMessage (c : Connection σ) (now : Int) : HeartbeatMessage :=
  c.message .kPing c.nextSequence (BitVec.ofInt 64 now)

theorem sendPing_eq (c : Connection σ) (now : Int) (hr : c.role = .kInitiator)
    (hs : c.state = .kHealthy ∨ c.state = .kDegraded) :
    c.sendPing now = (c.bumpSequence.queueMessage (c.pingMessage now)).countPing := by
  rw [sendPing, if_neg (by simp only [hr]; tauto)]
  rfl

theorem sendPing_idle (c : Connection σ) (now : Int)
    (h : ¬ (c.role = .kInitiator ∧ (c.state = .kHealthy ∨ c.state = .kDegraded))) :
    c.sendPing now = c := by
  rw [sendPing, if_pos (by tauto)]

theorem sendPing_core (c : Connection σ) (now : Int) : (c.sendPing now).core = c.core := by
  by_cases h : c.role = .kInitiator ∧ (c.state = .kHealthy ∨ c.state = .kDegraded)
  · rw [sendPing_eq c now h.1 h.2]
    exact queueMessage_core c.bumpSequence _
  · rw [sendPing_idle c now h]

/-- Everything a `check_timeout` call can do, with the guard of each case. -/
inductive TimeoutResult (cfg : Config) (now : Int) (c : Connection σ) :
    Bool × Connection σ → Prop
  | idle (h : c.state ≠ .kConnecting ∧ c.state ≠ .kHandshaking ∧ c.state ≠ .kHealthy ∧
      c.state ≠ .kDegraded) : TimeoutResult cfg now c (false, c)
  | attempting (h : c.state = .kConnecting ∨ c.state = .kHandshaking)
      (ht : now - c.stateEnteredNs < cfg.timeoutNs) : TimeoutResult cfg now c (false, c)
  | attemptExpired (h : c.state = .kConnecting ∨ c.state = .kHandshaking)
      (ht : cfg.timeoutNs ≤ now - c.stateEnteredNs) :
      TimeoutResult cfg now c (true, c.transitionTo .kFailed now)
  | alive (h : c.state = .kHealthy ∨ c.state = .kDegraded)
      (ht : now - c.lastLivenessNs < cfg.timeoutNs) : TimeoutResult cfg now c (false, c)
  | silent (h : c.state = .kHealthy ∨ c.state = .kDegraded) (hr : c.role = .kResponder)
      (ht : cfg.timeoutNs ≤ now - c.lastLivenessNs) :
      TimeoutResult cfg now c (true, c.transitionTo .kFailed now)
  | lastMiss (h : c.state = .kHealthy ∨ c.state = .kDegraded) (hr : c.role = .kInitiator)
      (ht : cfg.timeoutNs ≤ now - c.lastLivenessNs)
      (hn : cfg.maxMissedHeartbeats ≤ c.consecutiveMissed + 1) :
      TimeoutResult cfg now c (true, (c.countMiss cfg).transitionTo .kFailed now)
  | miss (h : c.state = .kHealthy ∨ c.state = .kDegraded) (hr : c.role = .kInitiator)
      (ht : cfg.timeoutNs ≤ now - c.lastLivenessNs)
      (hn : c.consecutiveMissed + 1 < cfg.maxMissedHeartbeats) :
      TimeoutResult cfg now c (false, (c.countMiss cfg).transitionTo .kDegraded now)

theorem checkTimeout_result (cfg : Config) (c : Connection σ) (now : Int) :
    TimeoutResult cfg now c (c.checkTimeout cfg now) := by
  have attempt (h : c.state = .kConnecting ∨ c.state = .kHandshaking) :
      TimeoutResult cfg now c (if now - c.stateEnteredNs ≥ cfg.timeoutNs then
        (true, c.transitionTo .kFailed now) else (false, c)) := by
    split
    · exact .attemptExpired h ‹_›
    · exact .attempting h (by omega)
  have established (h : c.state = .kHealthy ∨ c.state = .kDegraded) :
      TimeoutResult cfg now c (if c.role = .kInitiator then
        if now - c.lastLivenessNs ≥ cfg.timeoutNs then
          if (c.countMiss cfg).consecutiveMissed ≥ cfg.maxMissedHeartbeats then
            (true, (c.countMiss cfg).transitionTo .kFailed now)
          else (false, (c.countMiss cfg).transitionTo .kDegraded now)
        else (false, c)
      else if now - c.lastLivenessNs ≥ cfg.timeoutNs then (true, c.transitionTo .kFailed now)
      else (false, c)) := by
    by_cases hr : c.role = .kInitiator
    · rw [if_pos hr]
      split
      · split
        · exact .lastMiss h hr ‹_› ‹_›
        · exact .miss h hr ‹_› (Int.not_le.mp ‹_›)
      · exact .alive h (by omega)
    · have hr' : c.role = .kResponder := by
        cases hc : c.role with
        | kInitiator => exact absurd hc hr
        | kResponder => rfl
      rw [if_neg hr]
      split
      · exact .silent h hr' ‹_›
      · exact .alive h (by omega)
  unfold checkTimeout
  cases hs : c.state with
  | kConnecting => exact attempt (Or.inl hs)
  | kHandshaking => exact attempt (Or.inr hs)
  | kHealthy => exact established (Or.inl hs)
  | kDegraded => exact established (Or.inr hs)
  | kDisconnected => exact .idle (by simp [hs])
  | kFailed => exact .idle (by simp [hs])
  | kReconnecting => exact .idle (by simp [hs])

/-- `check_timeout` returns `true` exactly if it fails a live connection. -/
theorem checkTimeout_verdict (cfg : Config) (c : Connection σ) (now : Int) :
    (c.checkTimeout cfg now).1 = true ↔
      c.state ≠ .kFailed ∧ (c.checkTimeout cfg now).2.state = .kFailed := by
  have hresult := checkTimeout_result cfg c now
  generalize c.checkTimeout cfg now = result at hresult ⊢
  -- the three verdicts `true` are on live connections
  have hfails : ∀ {s t : ConnectionState}, c.state = s ∨ c.state = t → s ≠ .kFailed →
      t ≠ .kFailed → c.state ≠ .kFailed := by
    intro s t h hs ht
    rcases h with h | h
    · rw [h]
      exact hs
    · rw [h]
      exact ht
  cases hresult with
  | idle h => simp
  | attempting h => exact ⟨nofun, fun hf => absurd hf.2 hf.1⟩
  | alive h => exact ⟨nofun, fun hf => absurd hf.2 hf.1⟩
  | attemptExpired h => exact ⟨fun _ => ⟨hfails h nofun nofun, rfl⟩, fun _ => rfl⟩
  | silent h => exact ⟨fun _ => ⟨hfails h nofun nofun, rfl⟩, fun _ => rfl⟩
  | lastMiss h => exact ⟨fun _ => ⟨hfails h nofun nofun, rfl⟩, fun _ => rfl⟩
  | miss h => simp [transitionTo, report]

/-- The end of both handshake handlers. -/
def completeHandshake (c : Connection σ) (now : Int) : Connection σ :=
  { c with
    lastLivenessNs := now
    stats := { c.stats with connectedSinceNs := now } }.transitionTo .kHealthy now

/-- A PING was heard at `now` and the interceptor left `captured` behind. -/
def heard (c : Connection σ) (now : Int) (captured : σ) : Connection σ :=
  { c with lastLivenessNs := now, env := { c.env with captured := captured } }

/-- A PONG was accepted as proof of life. -/
def countPong (c : Connection σ) (msg : HeartbeatMessage) (now : Int) : Connection σ :=
  { c with
    lastLivenessNs := now
    consecutiveMissed := 0
    stats := c.stats.recordPongReceived (rttNs msg now) }

/-- The message does not fit the role, the state or the feed. -/
def Unexpected (c : Connection σ) (msg : HeartbeatMessage) : Prop :=
  match MessageType.ofByte msg.type with
  | some .kConnectHello =>
      c.role ≠ .kResponder ∨ c.state ≠ .kHandshaking ∨ msg.feedId ≠ c.feedId
  | some .kConnectAck =>
      c.role ≠ .kInitiator ∨ c.state ≠ .kHandshaking ∨ msg.feedId ≠ c.feedId
  | some .kPing => c.role ≠ .kResponder ∨ c.state ≠ .kHealthy
  | some .kPong => c.role ≠ .kInitiator ∨ (c.state ≠ .kHealthy ∧ c.state ≠ .kDegraded)
  | _ => False

/-- Everything `handle_message` can do, with the guard of each case. -/
inductive MessageResult (cfg : Config) (now : Int) (c : Connection σ) (msg : HeartbeatMessage) :
    Connection σ → Prop
  | violation (reason : ViolationReason) (hreason : reason ≠ .corruptMessage)
      (h : c.Unexpected msg) :
      MessageResult cfg now c msg (c.handleProtocolViolation reason now)
  | hello (ht : MessageType.ofByte msg.type = some .kConnectHello) (hr : c.role = .kResponder)
      (hs : c.state = .kHandshaking) (hf : msg.feedId = c.feedId) :
      MessageResult cfg now c msg
        ((c.queueMessage (c.message .kConnectAck 0 (BitVec.ofInt 64 now))).completeHandshake now)
  | ack (ht : MessageType.ofByte msg.type = some .kConnectAck) (hr : c.role = .kInitiator)
      (hs : c.state = .kHandshaking) (hf : msg.feedId = c.feedId) :
      MessageResult cfg now c msg (c.completeHandshake now)
  | pingAnswered (captured : σ) (ht : MessageType.ofByte msg.type = some .kPing)
      (hr : c.role = .kResponder) (hs : c.state = .kHealthy) :
      MessageResult cfg now c msg
        ((c.heard now captured).queueMessage (c.message .kPong msg.sequence msg.timestampNs))
  | pingHeld (captured : σ) (ht : MessageType.ofByte msg.type = some .kPing)
      (hr : c.role = .kResponder) (hs : c.state = .kHealthy) :
      MessageResult cfg now c msg (c.heard now captured)
  | duplicate (ht : MessageType.ofByte msg.type = some .kPong) (hr : c.role = .kInitiator)
      (hs : c.state = .kHealthy ∨ c.state = .kDegraded)
      (hseen : c.hasAckedSequence msg.sequence = true) : MessageResult cfg now c msg c
  | untimely (ht : MessageType.ofByte msg.type = some .kPong) (hr : c.role = .kInitiator)
      (hs : c.state = .kHealthy ∨ c.state = .kDegraded)
      (hseen : c.hasAckedSequence msg.sequence = false)
      (hrtt : cfg.timeoutNs ≤ rttNs msg now ∨ rttNs msg now < 0) :
      MessageResult cfg now c msg (c.rememberAckedSequence msg.sequence)
  | counted (ht : MessageType.ofByte msg.type = some .kPong) (hr : c.role = .kInitiator)
      (hs : c.state = .kHealthy) (hseen : c.hasAckedSequence msg.sequence = false)
      (hrtt : 0 ≤ rttNs msg now ∧ rttNs msg now < cfg.timeoutNs) :
      MessageResult cfg now c msg ((c.rememberAckedSequence msg.sequence).countPong msg now)
  | recovered (ht : MessageType.ofByte msg.type = some .kPong) (hr : c.role = .kInitiator)
      (hs : c.state = .kDegraded) (hseen : c.hasAckedSequence msg.sequence = false)
      (hrtt : 0 ≤ rttNs msg now ∧ rttNs msg now < cfg.timeoutNs) :
      MessageResult cfg now c msg
        (((c.rememberAckedSequence msg.sequence).countPong msg now).transitionTo .kHealthy now)
  | closed (ht : MessageType.ofByte msg.type = some .kDisconnect) :
      MessageResult cfg now c msg (c.handlePeerClosed now)
  | unknown (ht : MessageType.ofByte msg.type = none) : MessageResult cfg now c msg c

theorem handlePong_result (cfg : Config) (c : Connection σ) (msg : HeartbeatMessage) (now : Int)
    (ht : MessageType.ofByte msg.type = some .kPong) :
    MessageResult cfg now c msg (c.handlePong cfg msg now) := by
  unfold handlePong
  split
  · next h => exact .violation _ nofun (by simpa [Unexpected, ht] using h)
  · next h =>
      push Not at h
      have hs : c.state = .kHealthy ∨ c.state = .kDegraded := by tauto
      split
      · next hseen => exact .duplicate ht h.1 hs hseen
      · next hseen =>
          simp only [Bool.not_eq_true] at hseen
          dsimp only
          split
          · next hrtt => exact .untimely ht h.1 hs hseen hrtt
          · next hrtt =>
              have hrtt' : 0 ≤ rttNs msg now ∧ rttNs msg now < cfg.timeoutNs := by omega
              split
              · next hd => exact .recovered ht h.1 hd hseen hrtt'
              · next hd => exact .counted ht h.1 (hs.resolve_right hd) hseen hrtt'

theorem handlePing_result (cfg : Config) (c : Connection σ) (msg : HeartbeatMessage) (now : Int)
    (ht : MessageType.ofByte msg.type = some .kPing) :
    MessageResult cfg now c msg (c.handlePing msg now) := by
  obtain ⟨answer, captured, hask⟩ : ∃ answer captured,
      c.askInterceptor msg now = (answer, c.heard now captured) := by
    unfold askInterceptor
    split
    · exact ⟨true, c.env.captured, rfl⟩
    · exact ⟨_, _, rfl⟩
  unfold handlePing
  rw [hask]
  split
  · next h => exact .violation _ nofun (by simpa [Unexpected, ht] using h)
  · next h =>
      push Not at h
      cases answer with
      | false => exact .pingHeld captured ht h.1 h.2
      | true =>
          have hsend : (c.heard now captured).sendPong msg.sequence msg.timestampNs =
              (c.heard now captured).queueMessage
                (c.message .kPong msg.sequence msg.timestampNs) := by
            rw [sendPong, if_neg (by simp [heard, h.1, h.2])]
            rfl
          rw [if_pos rfl, hsend]
          exact .pingAnswered captured ht h.1 h.2

theorem handleMessage_result (cfg : Config) (c : Connection σ) (msg : HeartbeatMessage)
    (now : Int) : MessageResult cfg now c msg (c.handleMessage cfg msg now) := by
  unfold handleMessage
  cases ht : MessageType.ofByte msg.type with
  | none => exact .unknown ht
  | some type =>
      cases type with
      | kConnectHello =>
          show MessageResult cfg now c msg (c.handleConnectHello msg now)
          unfold handleConnectHello
          split
          · next h => exact .violation _ nofun (by simp only [Unexpected, ht]; tauto)
          · next h =>
              push Not at h
              split
              · next hf => exact .violation _ nofun (by simp only [Unexpected, ht]; tauto)
              · next hf => exact .hello ht h.1 h.2 (by simpa using hf)
      | kConnectAck =>
          show MessageResult cfg now c msg (c.handleConnectAck msg now)
          unfold handleConnectAck
          split
          · next h => exact .violation _ nofun (by simp only [Unexpected, ht]; tauto)
          · next h =>
              push Not at h
              split
              · next hf => exact .violation _ nofun (by simp only [Unexpected, ht]; tauto)
              · next hf => exact .ack ht h.1 h.2 (by simpa using hf)
      | kPing => exact handlePing_result cfg c msg now ht
      | kPong => exact handlePong_result cfg c msg now ht
      | kDisconnect => exact .closed ht

theorem handleMessage_core (cfg : Config) (c : Connection σ) (msg : HeartbeatMessage)
    (now : Int) : (c.handleMessage cfg msg now).core = c.core := by
  have h := handleMessage_result cfg c msg now
  generalize c.handleMessage cfg msg now = result at h ⊢
  cases h with
  | violation reason => exact handleProtocolViolation_core c reason now
  | hello => exact queueMessage_core c _
  | pingAnswered captured => exact queueMessage_core (c.heard now captured) _
  | closed => exact handlePeerClosed_core c now
  | _ => rfl

theorem checkTimeout_core (cfg : Config) (c : Connection σ) (now : Int) :
    (c.checkTimeout cfg now).2.core = c.core := by
  have h := checkTimeout_result cfg c now
  generalize c.checkTimeout cfg now = result at h ⊢
  cases h with
  | idle => rfl
  | attempting => rfl
  | alive => rfl
  | attemptExpired => exact transitionTo_core c .kFailed now
  | silent => exact transitionTo_core c .kFailed now
  | lastMiss => exact transitionTo_core (c.countMiss cfg) .kFailed now
  | miss => exact transitionTo_core (c.countMiss cfg) .kDegraded now

theorem call_core (c : Connection σ) (call : Call σ) (hread : call.isRead = false)
    (hrebind : call.isRebind = false) : (c.call call).core = c.core := by
  obtain ⟨cfg, env, op⟩ := call
  cases op with
  | onReadable recvs now => simp [Call.isRead] at hread
  | onWritable soError now => exact onWritable_core (c.withEnv env) soError now
  | onHangupOrError errno now => rfl
  | sendPing now => exact sendPing_core (c.withEnv env) now
  | sendPong sequence timestampNs => exact sendPong_core (c.withEnv env) sequence timestampNs
  | checkTimeout now => exact checkTimeout_core cfg (c.withEnv env) now
  | resetLivenessBaseline now => rfl
  | rebind newFd now => simp [Call.isRebind] at hrebind

theorem dispatch_identity (cfg : Config) (c : Connection σ) (msg : HeartbeatMessage) (now : Int) :
    (c.dispatch cfg msg now).identity = c.identity :=
  identity_of_core (c := c.noteHandled msg) (handleMessage_core cfg (c.noteHandled msg) msg now)

theorem dispatch_handled (cfg : Config) (c : Connection σ) (msg : HeartbeatMessage) (now : Int) :
    (c.dispatch cfg msg now).trace.handled = c.trace.handled ++ [msg] :=
  handled_of_core (handleMessage_core cfg (c.noteHandled msg) msg now)

theorem feedFrame_identity (cfg : Config) (now : Int) (c : Connection σ) (frame : List Byte) :
    (feedFrame cfg now c frame).identity = c.identity := by
  unfold feedFrame
  split
  · dsimp only
    split
    · exact dispatch_identity cfg c _ now
    · rfl
  · rfl

theorem onReadable_identity (cfg : Config) (c : Connection σ) (recvs : List RecvOutcome)
    (now : Int) : (c.onReadable cfg recvs now).identity = c.identity := by
  refine onReadable_keeps (I := fun d => d.identity = c.identity) ?_ ?_ ?_ rfl recvs
  · intro d msg hd
    rw [dispatch_identity, hd]
  · exact fun d r hd => hd
  · exact fun d buf hd => hd

/-- **No call but `rebind` changes a connection's identity.** -/
theorem call_identity (c : Connection σ) (call : Call σ) (h : call.isRebind = false) :
    (c.call call).identity = c.identity := by
  by_cases hread : call.isRead = true
  · obtain ⟨cfg, env, op⟩ := call
    cases op with
    | onReadable recvs now => exact onReadable_identity cfg (c.withEnv env) recvs now
    | _ => simp [Call.isRead] at hread
  · exact identity_of_core (call_core c call (by simpa using hread) h)

/-! ## The receive buffer between calls -/

/-- An `on_readable` call that does not fail the connection leaves less than
one frame behind. -/
theorem onReadable_leftover (cfg : Config) (c : Connection σ) (recvs : List RecvOutcome)
    (now : Int) (h : (c.onReadable cfg recvs now).state ≠ .kFailed) :
    (c.onReadable cfg recvs now).readAccum.length < kHeartbeatMessageSize := by
  rcases onReadable_eq cfg c recvs now with ⟨all, _, heq⟩ | ⟨buf, _, _, heq⟩
  · rw [heq, readAccum_of_core (finishRead_core _ _ now)]
    exact Framing.drain_leftover (by decide) all c
  · rw [heq] at h
    exact absurd rfl h

/-! ## `kFailed` -/

theorem handleMessage_stays_failed (cfg : Config) (c : Connection σ) (msg : HeartbeatMessage)
    (now : Int) (hfailed : c.state = .kFailed) :
    (c.handleMessage cfg msg now).state = .kFailed := by
  have h := handleMessage_result cfg c msg now
  generalize c.handleMessage cfg msg now = result at h ⊢
  cases h with
  | violation reason hreason h => rfl
  | hello ht hr hs hf => simp [hfailed] at hs
  | ack ht hr hs hf => simp [hfailed] at hs
  | pingAnswered captured ht hr hs => simp [hfailed] at hs
  | pingHeld captured ht hr hs => simp [hfailed] at hs
  | duplicate ht hr hs hseen => exact hfailed
  | untimely ht hr hs hseen hrtt => exact hfailed
  | counted ht hr hs hseen hrtt => simp [hfailed] at hs
  | recovered ht hr hs hseen hrtt => simp [hfailed] at hs
  | closed ht => rfl
  | unknown ht => exact hfailed

theorem onReadable_stays_failed (cfg : Config) (c : Connection σ) (recvs : List RecvOutcome)
    (now : Int) (hfailed : c.state = .kFailed) : (c.onReadable cfg recvs now).state = .kFailed := by
  refine onReadable_keeps (I := fun d => d.state = .kFailed) ?_ ?_ ?_ hfailed recvs
  · exact fun d msg hd => handleMessage_stays_failed cfg (d.noteHandled msg) msg now hd
  · exact fun d r _ => rfl
  · exact fun d buf hd => hd

theorem dispatchAll_stays_failed (cfg : Config) (now : Int) (msgs : List HeartbeatMessage)
    (c : Connection σ) (hfailed : c.state = .kFailed) :
    (c.dispatchAll cfg now msgs).state = .kFailed := by
  induction msgs generalizing c with
  | nil => exact hfailed
  | cons msg msgs ih => exact ih _ (handleMessage_stays_failed cfg (c.noteHandled msg) msg now hfailed)

/-- **The frames of valid messages** are handled one by one, if none of them
fails the connection. -/
theorem feedBuffer_encoded (cfg : Config) (now : Int) (msgs : List HeartbeatMessage)
    (hvalid : ∀ msg ∈ msgs, msg.Valid) (c : Connection σ)
    (hlive : (c.dispatchAll cfg now (msgs.map (·.stamped))).state ≠ .kFailed) :
    feedBuffer cfg now (msgs.flatMap fun msg => (encodeHeartbeat msg).bytes) c =
      (c.dispatchAll cfg now (msgs.map (·.stamped)), []) := by
  induction msgs generalizing c with
  | nil => exact Framing.drain_short c (by decide)
  | cons msg msgs ih =>
      have hlen := (encodeHeartbeat msg).length_eq
      have hfirst : feedFrame cfg now c (encodeHeartbeat msg).bytes =
          c.dispatch cfg msg.stamped now := by
        rw [feedFrame_bytes, decode_encode msg (hvalid msg List.mem_cons_self), if_pos rfl]
      have hmid : (c.dispatch cfg msg.stamped now).failed = false := by
        rw [failed_eq_false]
        intro hf
        apply hlive
        exact dispatchAll_stays_failed cfg now (msgs.map (·.stamped)) _ hf
      rw [List.flatMap_cons, feedBuffer, Framing.drain_frame (by decide) c (by simp [hlen]),
        List.take_left' hlen, List.drop_left' hlen, hfirst, if_neg (by simp [hmid])]
      exact ih (fun m hm => hvalid m (List.mem_cons_of_mem msg hm)) _ hlive

/-- They may come in one `recv()`. -/
theorem onReadable_encoded (cfg : Config) (now : Int) (msgs : List HeartbeatMessage)
    (hvalid : ∀ msg ∈ msgs, msg.Valid) (c : Connection σ) (chunk : RecvChunk)
    (hchunk : chunk.val = msgs.flatMap fun msg => (encodeHeartbeat msg).bytes)
    (hempty : c.readAccum = [])
    (hlive : (c.dispatchAll cfg now (msgs.map (·.stamped))).state ≠ .kFailed) :
    c.onReadable cfg [.data chunk] now =
      (c.dispatchAll cfg now (msgs.map (·.stamped))).withRead [] := by
  have hbytes : c.readAccum ++ recvBytes [.data chunk] =
      msgs.flatMap fun msg => (encodeHeartbeat msg).bytes := by
    rw [hempty, ← hchunk, List.nil_append]
    exact List.append_nil chunk.val
  have hcap : (c.readAccum ++ recvBytes [.data chunk]).length ≤ kMaxReadAccumBytes := by
    rw [hbytes, ← hchunk]
    exact Nat.le_trans chunk.property.2 (by decide)
  rw [onReadable_within cfg c _ now hcap, hbytes, feedBuffer_encoded cfg now msgs hvalid c hlive]
  exact if_neg hlive

/-- Nothing but `rebind` leaves `kFailed`. -/
theorem call_stays_failed (c : Connection σ) (call : Call σ) (hfailed : c.state = .kFailed)
    (hrebind : call.isRebind = false) : (c.call call).state = .kFailed := by
  obtain ⟨cfg, env, op⟩ := call
  have hin : (c.withEnv env).state = .kFailed := hfailed
  cases op with
  | onReadable recvs now => exact onReadable_stays_failed cfg (c.withEnv env) recvs now hfailed
  | onWritable soError now =>
      show ((c.withEnv env).onWritable soError now).state = _
      rw [onWritable, if_neg (by simp [hin]), flushWriteBuffer_state, hin, ite_self]
  | onHangupOrError errno now => rfl
  | sendPing now =>
      show ((c.withEnv env).sendPing now).state = _
      rw [sendPing, if_pos (by simp [hin]), hin]
  | sendPong sequence timestampNs =>
      show ((c.withEnv env).sendPong sequence timestampNs).state = _
      rw [sendPong, if_pos (by simp [hin]), hin]
  | checkTimeout now =>
      show ((c.withEnv env).checkTimeout cfg now).2.state = _
      rw [checkTimeout, hin]
      exact hin
  | resetLivenessBaseline now => exact hfailed
  | rebind newFd now => simp [Call.isRebind] at hrebind

/-- A connection that has not failed holds less than one frame. -/
def Leftover (c : Connection σ) : Prop :=
  c.state ≠ .kFailed → c.readAccum.length < kHeartbeatMessageSize

theorem call_leftover (c : Connection σ) (call : Call σ) (h : Leftover c) :
    Leftover (c.call call) := by
  intro hlive
  by_cases hread : call.isRead = true
  · obtain ⟨cfg, env, op⟩ := call
    cases op with
    | onReadable recvs now => exact onReadable_leftover cfg (c.withEnv env) recvs now hlive
    | _ => simp [Call.isRead] at hread
  · by_cases hrebind : call.isRebind = true
    · obtain ⟨cfg, env, op⟩ := call
      cases op with
      | rebind newFd now =>
          show 0 < kHeartbeatMessageSize
          decide
      | _ => simp [Call.isRebind] at hrebind
    · simp only [Bool.not_eq_true] at hread hrebind
      rw [readAccum_of_core (call_core c call hread hrebind)]
      exact h fun hfailed => hlive (call_stays_failed c call hfailed hrebind)

end Connection

end Vigil
