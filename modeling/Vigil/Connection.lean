import Vigil.Heartbeat
import Vigil.Stats

/-!
# One TCP peer

`connection.h` / `connection.cpp`.  A `Connection` is used by the monitor
(initiator) and by the simulator (responder).  The functions below follow the
source one by one; each takes the connection and returns it updated.

What the program does not decide is explicit.  `Env` holds what the kernel
and the closure behind the ping interceptor will answer during a call:
the outcomes of the next `send()` calls (`EAGAIN` once they are used up), the
readings of the clock, and the state the interceptor captured.  The outcomes
of `recv()` and `SO_ERROR` are arguments of the calls that ask for them.
`Trace` records what crossed the boundary and plays no part in any decision.
-/

namespace Vigil

open ByteOrder

inductive Role where
  | kInitiator
  | kResponder
  deriving DecidableEq, Repr

inductive ConnectionState where
  | kDisconnected
  | kConnecting
  | kHandshaking
  | kHealthy
  | kDegraded
  | kFailed
  | kReconnecting
  deriving DecidableEq, Repr

/-- What one `send()` call answers. -/
inductive SendOutcome where
  | sent (n : Nat)
  | eagain
  | eintr
  | error (errno : Nat)
  deriving DecidableEq, Repr

/-- The bytes of one successful `recv()` into the 4096-byte buffer. -/
abbrev RecvChunk := {bs : List Byte // 0 < bs.length ∧ bs.length ≤ 4096}

theorem frame_fits (msg : HeartbeatMessage) :
    0 < (encodeHeartbeat msg).bytes.length ∧ (encodeHeartbeat msg).bytes.length ≤ 4096 := by
  rw [HeartbeatWireBuffer.length_eq]
  decide

/-- One frame, received in one piece. -/
def frameChunk (msg : HeartbeatMessage) : RecvChunk :=
  ⟨(encodeHeartbeat msg).bytes, frame_fits msg⟩

/-- What one `recv()` call answers. -/
inductive RecvOutcome where
  | data (chunk : RecvChunk)
  | eof
  | eagain
  | eintr
  | error (errno : Nat)
  deriving DecidableEq

/-- Why the receive loop of one call ended. -/
inductive RecvEnd where
  | drained
  | peerClosed
  | socketError (errno : Nat)
  deriving DecidableEq, Repr

/-- The reasons handed to `handle_protocol_violation`. -/
inductive ViolationReason where
  | readAccumExceeded
  | corruptMessage
  | unexpectedConnectHello
  | connectHelloMismatch
  | unexpectedConnectAck
  | connectAckMismatch
  | unexpectedPing
  | unexpectedPong
  | writePendingExceeded
  deriving DecidableEq, Repr

/-- The text each reason is logged with. -/
def ViolationReason.text : ViolationReason → String
  | .readAccumExceeded => "read_accum_ exceeded max size"
  | .corruptMessage => "corrupt or desynced heartbeat message"
  | .unexpectedConnectHello => "unexpected CONNECT_HELLO"
  | .connectHelloMismatch => "CONNECT_HELLO feed_id mismatch"
  | .unexpectedConnectAck => "unexpected CONNECT_ACK"
  | .connectAckMismatch => "CONNECT_ACK feed_id mismatch"
  | .unexpectedPing => "unexpected PING"
  | .unexpectedPong => "unexpected PONG"
  | .writePendingExceeded => "write_pending_ exceeded max size (peer not draining)"

/-- What a connection reports: its state changes and the three failure logs. -/
inductive Report where
  | transition (before after : ConnectionState)
  | socketError (errno : Nat)
  | peerClosed
  | protocolViolation (reason : ViolationReason)
  deriving DecidableEq, Repr

/-- A ping interceptor over captured state `σ`: called with the sequence and
timestamp of a PING, it says whether the automatic reply is sent. -/
abbrev PingInterceptor (σ : Type) := BitVec 64 → BitVec 64 → σ → Bool × σ

/-- The answers of the outside world during one call. -/
structure Env (σ : Type) where
  sends : List SendOutcome
  clock : Nat → Int
  captured : σ

/-- History of a connection.  `queued`, `accepted` and `handled` start afresh
with every socket; `reports` covers the whole life of the object. -/
structure Trace where
  queued : List HeartbeatMessage := []
  accepted : List Byte := []
  handled : List HeartbeatMessage := []
  reports : List Report := []

def kAckedSequenceWindow : Nat := 32

def kMaxReadAccumBytes : Nat := 64 * 1024

def kMaxWritePendingBytes : Nat := 64 * 1024

structure Connection (σ : Type) where
  fd : Int
  role : Role
  feedId : BitVec 32
  host : String
  port : BitVec 16
  state : ConnectionState
  stateEnteredNs : Int
  nextSequence : BitVec 64
  consecutiveMissed : Int
  lastLivenessNs : Int
  ackedSequences : RingBuffer (BitVec 64) kAckedSequenceWindow
  readAccum : List Byte
  writePending : List Byte
  stats : ConnectionStats
  pingInterceptor : Option (PingInterceptor σ)
  env : Env σ
  trace : Trace

namespace Connection

variable {σ : Type}

/-- The state a new or rebound connection starts in. -/
def startState : Role → ConnectionState
  | .kInitiator => .kConnecting
  | .kResponder => .kHandshaking

/-- The constructor; `now` is its own reading of the clock. -/
def create (fd : Int) (role : Role) (feedId : BitVec 32) (host : String) (port : BitVec 16)
    (interceptor : Option (PingInterceptor σ)) (env : Env σ) (now : Int) : Connection σ where
  fd := fd
  role := role
  feedId := feedId
  host := host
  port := port
  state := startState role
  stateEnteredNs := now
  nextSequence := 0
  consecutiveMissed := 0
  lastLivenessNs := 0
  ackedSequences := RingBuffer.fresh 0 (by decide)
  readAccum := []
  writePending := []
  stats := {}
  pingInterceptor := interceptor
  env := env
  trace := {}

/-- Enter a call with the given answers of the outside world. -/
def withEnv (c : Connection σ) (env : Env σ) : Connection σ :=
  { c with env := env }

def report (c : Connection σ) (r : Report) : Connection σ :=
  { c with trace := { c.trace with reports := c.trace.reports ++ [r] } }

def transitionTo (c : Connection σ) (newState : ConnectionState) (now : Int) : Connection σ :=
  { c.report (.transition c.state newState) with state := newState, stateEnteredNs := now }

def wantsWrite (c : Connection σ) : Bool :=
  c.state = .kConnecting ∨ c.writePending ≠ []

/-! ## Failure handlers -/

def handleSocketError (c : Connection σ) (now : Int) (errno : Nat) : Connection σ :=
  (c.report (.socketError errno)).transitionTo .kFailed now

def handlePeerClosed (c : Connection σ) (now : Int) : Connection σ :=
  (c.report .peerClosed).transitionTo .kFailed now

def handleProtocolViolation (c : Connection σ) (reason : ViolationReason) (now : Int) :
    Connection σ :=
  (c.report (.protocolViolation reason)).transitionTo .kFailed now

/-- Consume one reading of `now_monotonic_ns()`. -/
def tickClock (c : Connection σ) : Connection σ :=
  { c with env := { c.env with clock := fun n => c.env.clock (n + 1) } }

/-! ## Write path -/

def withSends (c : Connection σ) (sends : List SendOutcome) : Connection σ :=
  { c with env := { c.env with sends := sends } }

/-- `send()` took the first `n` bytes of the queue. -/
def acceptBytes (c : Connection σ) (n : Nat) : Connection σ :=
  { c with
    writePending := c.writePending.drop n
    trace := { c.trace with accepted := c.trace.accepted ++ c.writePending.take n } }

/-- The loop of `flush_write_buffer` over the outcomes of its `send()` calls. -/
def flushLoop : List SendOutcome → Connection σ → Connection σ
  | [], c => c.withSends []
  | outcome :: rest, c =>
      if c.writePending = [] then c.withSends (outcome :: rest) else
      match outcome with
      | .sent n =>
          if 0 < n then
            -- a short write ends the loop: wait for EPOLLOUT
            if n < min 512 c.writePending.length then (c.acceptBytes n).withSends rest
            else flushLoop rest (c.acceptBytes n)
          else ((c.withSends rest).tickClock).handleSocketError (c.env.clock 0) 0
      | .eagain => c.withSends rest
      | .eintr => flushLoop rest c
      | .error errno => ((c.withSends rest).tickClock).handleSocketError (c.env.clock 0) errno

def flushWriteBuffer (c : Connection σ) : Connection σ :=
  flushLoop c.env.sends c

def queueWrite (c : Connection σ) (wire : HeartbeatWireBuffer) : Connection σ :=
  let queued := { c with writePending := c.writePending ++ wire.bytes }
  if queued.writePending.length > kMaxWritePendingBytes then
    queued.tickClock.handleProtocolViolation .writePendingExceeded (c.env.clock 0)
  else if c.writePending = [] then queued.flushWriteBuffer
  else queued

def noteQueued (c : Connection σ) (msg : HeartbeatMessage) : Connection σ :=
  { c with trace := { c.trace with queued := c.trace.queued ++ [msg] } }

/-- Encode a message and hand it to `queue_write`, noting it in the trace. -/
def queueMessage (c : Connection σ) (msg : HeartbeatMessage) : Connection σ :=
  (c.noteQueued msg).queueWrite (encodeHeartbeat msg)

/-- A message of this connection's feed, all other fields default. -/
def message (c : Connection σ) (type : MessageType) (sequence timestampNs : BitVec 64) :
    HeartbeatMessage :=
  { type := type.toByte, feedId := c.feedId, sequence := sequence, timestampNs := timestampNs }

/-! ## Message handlers -/

def handleConnectHello (c : Connection σ) (msg : HeartbeatMessage) (now : Int) : Connection σ :=
  if c.role ≠ .kResponder ∨ c.state ≠ .kHandshaking then
    c.handleProtocolViolation .unexpectedConnectHello now
  else if msg.feedId ≠ c.feedId then
    c.handleProtocolViolation .connectHelloMismatch now
  else
    let acked := c.queueMessage (c.message .kConnectAck 0 (BitVec.ofInt 64 now))
    { acked with
      lastLivenessNs := now
      stats := { acked.stats with connectedSinceNs := now } }.transitionTo .kHealthy now

def handleConnectAck (c : Connection σ) (msg : HeartbeatMessage) (now : Int) : Connection σ :=
  if c.role ≠ .kInitiator ∨ c.state ≠ .kHandshaking then
    c.handleProtocolViolation .unexpectedConnectAck now
  else if msg.feedId ≠ c.feedId then
    c.handleProtocolViolation .connectAckMismatch now
  else
    { c with
      lastLivenessNs := now
      stats := { c.stats with connectedSinceNs := now } }.transitionTo .kHealthy now

def sendPong (c : Connection σ) (sequence timestampNs : BitVec 64) : Connection σ :=
  if c.role ≠ .kResponder ∨ c.state ≠ .kHealthy then c
  else c.queueMessage (c.message .kPong sequence timestampNs)

/-- A PING is proof of life; the interceptor, if set, then says whether the
automatic reply goes out. -/
def askInterceptor (c : Connection σ) (msg : HeartbeatMessage) (now : Int) :
    Bool × Connection σ :=
  match c.pingInterceptor with
  | none => (true, { c with lastLivenessNs := now })
  | some intercept =>
      let answer := intercept msg.sequence msg.timestampNs c.env.captured
      (answer.1, { c with lastLivenessNs := now, env := { c.env with captured := answer.2 } })

def handlePing (c : Connection σ) (msg : HeartbeatMessage) (now : Int) : Connection σ :=
  if c.role ≠ .kResponder ∨ c.state ≠ .kHealthy then
    c.handleProtocolViolation .unexpectedPing now
  else if (c.askInterceptor msg now).1 then
    (c.askInterceptor msg now).2.sendPong msg.sequence msg.timestampNs
  else (c.askInterceptor msg now).2

def hasAckedSequence (c : Connection σ) (sequence : BitVec 64) : Bool :=
  c.ackedSequences.contains sequence

def rememberAckedSequence (c : Connection σ) (sequence : BitVec 64) : Connection σ :=
  { c with ackedSequences := c.ackedSequences.push sequence }

/-- Round-trip time of a PONG handled at `now`. -/
def rttNs (msg : HeartbeatMessage) (now : Int) : Int :=
  now - msg.timestampNs.toInt

def handlePong (cfg : Config) (c : Connection σ) (msg : HeartbeatMessage) (now : Int) :
    Connection σ :=
  if c.role ≠ .kInitiator ∨ (c.state ≠ .kHealthy ∧ c.state ≠ .kDegraded) then
    c.handleProtocolViolation .unexpectedPong now
  else if c.hasAckedSequence msg.sequence then c
  else
    let remembered := c.rememberAckedSequence msg.sequence
    if rttNs msg now ≥ cfg.timeoutNs ∨ rttNs msg now < 0 then remembered
    else
      let counted :=
        { remembered with
          lastLivenessNs := now
          consecutiveMissed := 0
          stats := remembered.stats.recordPongReceived (rttNs msg now) }
      if c.state = .kDegraded then counted.transitionTo .kHealthy now else counted

def handleMessage (cfg : Config) (c : Connection σ) (msg : HeartbeatMessage) (now : Int) :
    Connection σ :=
  match MessageType.ofByte msg.type with
  | some .kConnectHello => c.handleConnectHello msg now
  | some .kConnectAck => c.handleConnectAck msg now
  | some .kPing => c.handlePing msg now
  | some .kPong => c.handlePong cfg msg now
  | some .kDisconnect => c.handlePeerClosed now
  | none => c

/-! ## Read path -/

/-- The `kHeartbeatMessageSize` bytes of a buffer from `offset` on. -/
def frameAt (buf : List Byte) (offset : Nat) (h : kHeartbeatMessageSize ≤ buf.length - offset) :
    HeartbeatWireBuffer where
  bytes := (buf.drop offset).take kHeartbeatMessageSize
  length_eq := by simp; omega

def noteHandled (c : Connection σ) (msg : HeartbeatMessage) : Connection σ :=
  { c with trace := { c.trace with handled := c.trace.handled ++ [msg] } }

/-- Hand one decoded message to `handle_message`, noting it in the trace. -/
def dispatch (cfg : Config) (c : Connection σ) (msg : HeartbeatMessage) (now : Int) :
    Connection σ :=
  (c.noteHandled msg).handleMessage cfg msg now

/-- The loop of `drain_read_buffer`.  Every turn consumes a frame, so the
length of the buffer bounds the number of turns. -/
def drainLoop (cfg : Config) (now : Int) : Nat → Nat → Connection σ → Connection σ
  | 0, offset, c => { c with readAccum := c.readAccum.drop offset }
  | turns + 1, offset, c =>
      if h : kHeartbeatMessageSize ≤ c.readAccum.length - offset then
        let decoded := decodeHeartbeat (frameAt c.readAccum offset h) {}
        if decoded.1 then
          let handled := c.dispatch cfg decoded.2 now
          if handled.state = .kFailed then { handled with readAccum := [] }
          else drainLoop cfg now turns (offset + kHeartbeatMessageSize) handled
        else { c.handleProtocolViolation .corruptMessage now with readAccum := [] }
      else { c with readAccum := c.readAccum.drop offset }

def drainReadBuffer (cfg : Config) (c : Connection σ) (now : Int) : Connection σ :=
  drainLoop cfg now c.readAccum.length 0 c

/-- The `recv()` loop of `on_readable`; no end means that the read cap was
passed and the call returns at once. -/
def recvLoop (now : Int) : List RecvOutcome → Connection σ → Connection σ × Option RecvEnd
  | [], c => (c, some .drained)
  | .data chunk :: rest, c =>
      let appended := { c with readAccum := c.readAccum ++ chunk.val }
      if appended.readAccum.length > kMaxReadAccumBytes then
        (appended.handleProtocolViolation .readAccumExceeded now, none)
      else recvLoop now rest appended
  | .eof :: _, c => (c, some .peerClosed)
  | .eagain :: _, c => (c, some .drained)
  | .eintr :: rest, c => recvLoop now rest c
  | .error errno :: _, c => (c, some (.socketError errno))

/-- What `on_readable` does with the end of the stream once the buffer is
drained. -/
def finishRead (c : Connection σ) (ending : RecvEnd) (now : Int) : Connection σ :=
  if c.state = .kFailed then c else
  match ending with
  | .drained => c
  | .peerClosed => c.handlePeerClosed now
  | .socketError errno => c.handleSocketError now errno

def onReadable (cfg : Config) (c : Connection σ) (recvs : List RecvOutcome) (now : Int) :
    Connection σ :=
  match recvLoop now recvs c with
  | (received, none) => received
  | (received, some ending) => (received.drainReadBuffer cfg now).finishRead ending now

/-! ## Other entry points -/

/-- `soError` is the pending error of the socket, 0 for none. -/
def onWritable (c : Connection σ) (soError : Nat) (now : Int) : Connection σ :=
  if c.state = .kConnecting then
    if soError ≠ 0 then c.handleSocketError now soError
    else
      let connected := c.transitionTo .kHandshaking now
      if c.role = .kInitiator then
        connected.queueMessage (c.message .kConnectHello 0 (BitVec.ofInt 64 now))
      else connected
  else c.flushWriteBuffer

def onHangupOrError (c : Connection σ) (errno : Nat) (now : Int) : Connection σ :=
  c.handleSocketError now errno

def sendPing (c : Connection σ) (now : Int) : Connection σ :=
  if c.role ≠ .kInitiator ∨ (c.state ≠ .kHealthy ∧ c.state ≠ .kDegraded) then c
  else
    let sent := { c with nextSequence := c.nextSequence + 1 }.queueMessage
      (c.message .kPing c.nextSequence (BitVec.ofInt 64 now))
    { sent with stats := sent.stats.recordPingSent }

/-- Count one missed heartbeat.  The window advances by one timeout rather
than restarting at `now`, so a long stall counts as several misses. -/
def countMiss (cfg : Config) (c : Connection σ) : Connection σ :=
  { c with
    consecutiveMissed := c.consecutiveMissed + 1
    lastLivenessNs := c.lastLivenessNs + cfg.timeoutNs
    stats := c.stats.recordMissed }

/-- The returned flag says that this call entered `kFailed`. -/
def checkTimeout (cfg : Config) (c : Connection σ) (now : Int) : Bool × Connection σ :=
  match c.state with
  | .kConnecting | .kHandshaking =>
      if now - c.stateEnteredNs ≥ cfg.timeoutNs then (true, c.transitionTo .kFailed now)
      else (false, c)
  | .kHealthy | .kDegraded =>
      if c.role = .kInitiator then
        if now - c.lastLivenessNs ≥ cfg.timeoutNs then
          if (c.countMiss cfg).consecutiveMissed ≥ cfg.maxMissedHeartbeats then
            (true, (c.countMiss cfg).transitionTo .kFailed now)
          else (false, (c.countMiss cfg).transitionTo .kDegraded now)
        else (false, c)
      else if now - c.lastLivenessNs ≥ cfg.timeoutNs then (true, c.transitionTo .kFailed now)
      else (false, c)
  | _ => (false, c)

def resetLivenessBaseline (c : Connection σ) (now : Int) : Connection σ :=
  { c with lastLivenessNs := now }

def rebind (c : Connection σ) (newFd : Int) (now : Int) : Connection σ :=
  { c with
    fd := newFd
    readAccum := []
    writePending := []
    nextSequence := 0
    ackedSequences := c.ackedSequences.reset
    consecutiveMissed := 0
    lastLivenessNs := now
    stats := { c.stats with connectedSinceNs := 0 }.recordReconnect
    -- a new socket: nothing was queued on, accepted by or handled from it yet
    trace := { c.trace with queued := [], accepted := [], handled := [] } }.transitionTo
      (startState c.role) now

end Connection

end Vigil
