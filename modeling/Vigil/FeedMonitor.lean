import Vigil.Calls
import Vigil.Epoll
import Mathlib.Algebra.Order.Field.Rat
import Mathlib.Tactic.NormNum

/-!
# The monitor's reactor

`feed_monitor.h` / `feed_monitor.cpp`: a single-threaded epoll reactor over a
flat vector of slots, each with one initiator connection, and two index maps
into it.  The maps are `AList`s.

`SlotIo` holds what the outside world answers while one slot is worked on.
Each slot also carries its `history`, which no decision reads: a number for
its `Connection` object, the times handed to that object's methods, and how
often an alert was emitted and a reconnect scheduled for it.
-/

namespace Vigil

/-! ## Slots -/

/-- The jitter factor of one backoff, `1 ± 25%`. -/
abbrev JitterFactor := {q : ℚ // 3 / 4 ≤ q ∧ q ≤ 5 / 4}

theorem jitterFactor_one : (3 / 4 : ℚ) ≤ 1 ∧ (1 : ℚ) ≤ 5 / 4 := by
  constructor <;> norm_num

/-- The answers of the outside world while one slot is worked on: the outcomes
of `send()` and `recv()`, the clock as the write path reads it, `SO_ERROR`, the
result of `create_and_connect_socket`, the clock as `on_connection_failed`
reads it, and the jitter. -/
structure SlotIo where
  sends : List SendOutcome := []
  clock : Nat → Int := fun _ => 0
  recvs : List RecvOutcome := []
  soError : Nat := 0
  socket : Option Nat := none
  failedAt : Int := 0
  jitter : JitterFactor := ⟨1, jitterFactor_one⟩

def SlotIo.env (io : SlotIo) : Env Unit :=
  ⟨io.sends, io.clock, ()⟩

/-- What happened to a slot; no part of the program's state. -/
structure SlotHistory where
  object : Nat
  handed : List Int := []
  alerts : Nat := 0
  schedules : Nat := 0

structure Slot where
  connection : Connection Unit
  name : String
  reconnectAttempts : Int := 0
  reconnectReadyAtNs : Int := -1
  giveUp : Bool := false
  nextPingDueNs : Int := 0
  history : SlotHistory

namespace Slot

/-- Call a method of the slot's connection. -/
def invoke (slot : Slot) (cfg : Config) (env : Env Unit) (op : ConnOp) : Slot :=
  { slot with
    connection := slot.connection.call ⟨cfg, env, op⟩
    history := { slot.history with handed := slot.history.handed ++ op.now.toList } }

/-- The EPOLLOUT part of `handle_connection_event`. -/
def writeIfWritable (slot : Slot) (cfg : Config) (events : EpollEvents) (now : Int)
    (io : SlotIo) : Slot :=
  if events.epollOut then slot.invoke cfg io.env (.onWritable io.soError now) else slot

/-- The part of `handle_connection_event` that calls the connection.  EPOLLOUT
comes first: it completes `connect()`. -/
def onEvent (slot : Slot) (cfg : Config) (events : EpollEvents) (now : Int) (io : SlotIo) :
    Slot :=
  if events.epollHup || events.epollErr then
    slot.invoke cfg io.env
      (.onHangupOrError (if io.soError ≠ 0 then io.soError else kEConnReset) now)
  else
    let written := slot.writeIfWritable cfg events now io
    -- the sends that `on_writable` left over
    let env := if events.epollOut then written.connection.env else io.env
    if written.connection.state ≠ .kFailed ∧ events.epollIn then
      written.invoke cfg env (.onReadable io.recvs now)
    else written

/-- The PING part of a tick. -/
def pingIfDue (slot : Slot) (cfg : Config) (now : Int) (io : SlotIo) : Slot :=
  if now ≥ slot.nextPingDueNs then
    { slot.invoke cfg io.env (.sendPing now) with nextPingDueNs := now + cfg.intervalNs }
  else slot

/-- `check_timeout`, with its verdict. -/
def check (slot : Slot) (cfg : Config) (now : Int) (io : SlotIo) : Bool × Slot :=
  (((slot.connection.withEnv io.env).checkTimeout cfg now).1,
    slot.invoke cfg io.env (.checkTimeout now))

end Slot

/-! ## Backoff -/

/-- The doubling loop of `reconnect_delay_ns`. -/
def doubleDelay (maxDelay : Int) : Nat → Int → Int
  | 0, delay => delay
  | turns + 1, delay =>
      if delay < maxDelay then doubleDelay maxDelay turns (delay * 2) else delay

def reconnectDelayNs (cfg : Config) (attempt : Int) (factor : JitterFactor) : Int :=
  let base := toNs cfg.reconnectBaseDelay
  let maxDelay := toNs cfg.reconnectMaxDelay
  let cappedAttempt := min attempt 30
  let delay := min (doubleDelay maxDelay cappedAttempt.toNat base) maxDelay
  truncateToInt (delay * factor.val)

/-- Once the retry budget is used up, give up; otherwise wait out the backoff. -/
def Slot.scheduleReconnect (slot : Slot) (cfg : Config) (now : Int) (jitter : JitterFactor) :
    Slot :=
  let noted :=
    { slot with history := { slot.history with schedules := slot.history.schedules + 1 } }
  if cfg.maxReconnectAttempts ≥ 0 ∧ slot.reconnectAttempts ≥ cfg.maxReconnectAttempts then
    { noted with giveUp := true }
  else
    { noted with
      reconnectReadyAtNs := now + reconnectDelayNs cfg slot.reconnectAttempts jitter
      reconnectAttempts := slot.reconnectAttempts + 1 }

/-- The alert is a line of text about the slot; only that it was emitted is kept. -/
def Slot.emitFailureAlert (slot : Slot) : Slot :=
  { slot with history := { slot.history with alerts := slot.history.alerts + 1 } }

/-! ## The reactor -/

structure FeedMonitor where
  config : Config
  timerFd : Int
  wakeFd : Int
  commandFd : Int := -1
  slots : List Slot := []
  indexOfFd : AList fun _ : Int => Nat := ∅
  indexOfFeedId : AList fun _ : BitVec 32 => Nat := ∅
  epollSet : EpollSet := ∅
  /-- The number of the next `Connection` object. -/
  nextObject : Nat := 0

namespace FeedMonitor

/-- The constructor, given the fds it created. -/
def create (config : Config) (timerFd wakeFd : Int) : FeedMonitor where
  config := config
  timerFd := timerFd
  wakeFd := wakeFd
  epollSet := (EpollSet.add ∅ timerFd ⟨true, false, false⟩).add wakeFd ⟨true, false, false⟩

def modifySlot (m : FeedMonitor) (index : Nat) (f : Slot → Slot) : FeedMonitor :=
  { m with slots := m.slots.modify index f }

/-- The interest a connection is registered with. -/
def interest (m : FeedMonitor) (c : Connection Unit) : EpollInterest :=
  epollInterestFlags true c.wantsWrite m.config.edgeTriggered

/-- `socket` is what `create_and_connect_socket` returns; `now` is the clock as
the connection's constructor reads it. -/
def addFeed (m : FeedMonitor) (endpoint : FeedEndpoint) (socket : Option Nat) (now : Int) :
    Bool × FeedMonitor :=
  if endpoint.feedId ∈ m.indexOfFeedId then (false, m)
  else
    match socket with
    | none => (false, m)
    | some fd =>
        let connection := Connection.create fd .kInitiator endpoint.feedId endpoint.host
          endpoint.port none ⟨[], fun _ => now, ()⟩ now
        (true, { m with
          slots := m.slots ++
            [{ connection, name := endpoint.name, history := { object := m.nextObject } }]
          indexOfFd := m.indexOfFd.insert fd m.slots.length
          indexOfFeedId := m.indexOfFeedId.insert endpoint.feedId m.slots.length
          epollSet := m.epollSet.add fd (m.interest connection)
          nextObject := m.nextObject + 1 })

/-- `slots_[index] = std::move(slots_[last])` and the repointing of both maps.
A `kFailed` connection's fd is open but deliberately not mapped. -/
def moveLastTo (m : FeedMonitor) (index : Nat) (moved : Slot) : FeedMonitor :=
  { m with
    slots := m.slots.set index moved
    indexOfFd :=
      if moved.connection.fd ≥ 0 ∧ moved.connection.state ≠ .kFailed then
        m.indexOfFd.insert moved.connection.fd index
      else m.indexOfFd
    indexOfFeedId := m.indexOfFeedId.insert moved.connection.feedId index }

/-- Stop watching an fd: `EPOLL_CTL_DEL` and `index_of_fd_.erase`. -/
def forgetFd (m : FeedMonitor) (fd : Int) : FeedMonitor :=
  if fd ≥ 0 then
    { m with epollSet := m.epollSet.del fd, indexOfFd := m.indexOfFd.erase fd }
  else m

/-- Swap-and-pop; the destroyed connection closes its fd. -/
def removeSlotAt (m : FeedMonitor) (index : Nat) : FeedMonitor :=
  match m.slots[index]? with
  | none => m
  | some slot =>
      let forgotten := m.forgetFd slot.connection.fd
      let unlisted :=
        { forgotten with indexOfFeedId := forgotten.indexOfFeedId.erase slot.connection.feedId }
      let moved :=
        match m.slots.getLast? with
        | none => unlisted
        | some last =>
            if index ≠ m.slots.length - 1 then unlisted.moveLastTo index last else unlisted
      { moved with slots := moved.slots.dropLast }

def removeFeed (m : FeedMonitor) (feedId : BitVec 32) : FeedMonitor :=
  match m.indexOfFeedId.lookup feedId with
  | none => m
  | some index => m.removeSlotAt index

def scheduleReconnect (m : FeedMonitor) (index : Nat) (now : Int) (jitter : JitterFactor) :
    FeedMonitor :=
  m.modifySlot index (·.scheduleReconnect m.config now jitter)

def emitFailureAlert (m : FeedMonitor) (index : Nat) : FeedMonitor :=
  m.modifySlot index (·.emitFailureAlert)

def onConnectionFailed (m : FeedMonitor) (index : Nat) (io : SlotIo) : FeedMonitor :=
  match m.slots[index]? with
  | none => m
  | some slot =>
      ((m.forgetFd slot.connection.fd).emitFailureAlert index).scheduleReconnect index io.failedAt
        io.jitter

def forceDisconnect (m : FeedMonitor) (feedId : BitVec 32) (now : Int) (io : SlotIo) :
    FeedMonitor :=
  match m.indexOfFeedId.lookup feedId with
  | none => m
  | some index =>
      match m.slots[index]? with
      | none => m
      | some slot =>
          if slot.connection.state ≠ .kFailed then
            (m.modifySlot index fun slot =>
              slot.invoke m.config io.env (.onHangupOrError kEConnAborted now)).onConnectionFailed
                index io
          else m

/-- A manual reconnect also renews the retry budget. -/
def forceReconnect (m : FeedMonitor) (feedId : BitVec 32) : FeedMonitor :=
  match m.indexOfFeedId.lookup feedId with
  | none => m
  | some index =>
      m.modifySlot index fun slot =>
        if slot.connection.state = .kFailed then
          { slot with giveUp := false, reconnectAttempts := 0, reconnectReadyAtNs := 0 }
        else slot

def setHeartbeatInterval (m : FeedMonitor) (interval : Int) : FeedMonitor :=
  { m with config := { m.config with heartbeatInterval := interval } }

/-- Every connection gets a fresh baseline under the new timeout. -/
def setHeartbeatTimeout (m : FeedMonitor) (timeout now : Int) : FeedMonitor :=
  let config := { m.config with heartbeatTimeout := timeout }
  { m with
    config := config
    slots := m.slots.map fun slot =>
      slot.invoke config slot.connection.env (.resetLivenessBaseline now) }

def setCommandInput (m : FeedMonitor) (fd : Int) : FeedMonitor :=
  { m with
    commandFd := fd
    epollSet := m.epollSet.add fd (epollInterestFlags true false m.config.edgeTriggered) }

def syncEpollInterest (m : FeedMonitor) (index : Nat) : FeedMonitor :=
  match m.slots[index]? with
  | none => m
  | some slot =>
      { m with epollSet := m.epollSet.mod slot.connection.fd (m.interest slot.connection) }

def handleConnectionEvent (m : FeedMonitor) (index : Nat) (events : EpollEvents) (now : Int)
    (io : SlotIo) : FeedMonitor :=
  let called := m.modifySlot index fun slot => slot.onEvent m.config events now io
  match called.slots[index]? with
  | none => called
  | some slot =>
      if slot.connection.state = .kFailed then called.onConnectionFailed index io
      else called.syncEpollInterest index

/-- `rebind` closes the old fd, which takes it out of the epoll set. -/
def initiateConnect (m : FeedMonitor) (index : Nat) (now : Int) (io : SlotIo) : FeedMonitor :=
  let begun := m.modifySlot index fun slot => { slot with reconnectReadyAtNs := -1 }
  match begun.slots[index]?, io.socket with
  | some slot, some fd =>
      let rebound := slot.invoke m.config io.env (.rebind fd now)
      { begun with
        slots := begun.slots.set index rebound
        indexOfFd := begun.indexOfFd.insert fd index
        epollSet := (begun.epollSet.del slot.connection.fd).add fd (m.interest rebound.connection) }
  | _, _ => begun.scheduleReconnect index now io.jitter

/-- `check_timeout` on one slot, and what follows if it fails it. -/
def checkSlot (m : FeedMonitor) (index : Nat) (now : Int) (io : SlotIo) : FeedMonitor :=
  match m.slots[index]? with
  | none => m
  | some slot =>
      let checked := m.modifySlot index fun slot => (slot.check m.config now io).2
      if (slot.check m.config now io).1 then checked.onConnectionFailed index io else checked

/-- One turn of the loop of `on_timer_tick`. -/
def tickSlot (now : Int) (io : Nat → SlotIo) (m : FeedMonitor) (index : Nat) : FeedMonitor :=
  match m.slots[index]? with
  | none => m
  | some slot =>
      match slot.connection.state with
      | .kHealthy | .kDegraded =>
          let pinged :=
            if now ≥ slot.nextPingDueNs then
              (m.modifySlot index fun slot =>
                slot.pingIfDue m.config now (io index)).syncEpollInterest index
            else m
          pinged.checkSlot index now (io index)
      | .kConnecting | .kHandshaking => m.checkSlot index now (io index)
      | .kFailed =>
          if !slot.giveUp ∧ slot.reconnectReadyAtNs ≥ 0 ∧ now ≥ slot.reconnectReadyAtNs then
            m.initiateConnect index now (io index)
          else m
      | _ => m

/-- `now` is the tick's own reading of the clock; `io` answers slot by slot. -/
def onTimerTick (m : FeedMonitor) (now : Int) (io : Nat → SlotIo) : FeedMonitor :=
  (List.range m.slots.length).foldl (tickSlot now io) m

end FeedMonitor

/-! ## Steps and batches -/

/-- A public operation, as the command callback or the owner calls it. -/
inductive MonitorCommand where
  | addFeed (endpoint : FeedEndpoint) (socket : Option Nat) (now : Int)
  | removeFeed (feedId : BitVec 32)
  | forceDisconnect (feedId : BitVec 32) (now : Int) (io : SlotIo)
  | forceReconnect (feedId : BitVec 32)
  | setHeartbeatInterval (interval : Int)
  | setHeartbeatTimeout (timeout now : Int)
  | setCommandInput (fd : Int)

/-- One reactor step. -/
inductive MonitorStep where
  | command (command : MonitorCommand)
  | connectionEvent (fd : Int) (events : EpollEvents) (now : Int) (io : SlotIo)
  | timerTick (now : Int) (io : Nat → SlotIo)

/-- One event of a batch, with what the outside world contributes to its
handling: the tick's clock reading and answers, the operations the command
callback performs and whether the command stream ended, and the answers to a
connection's calls. -/
structure MonitorEvent where
  fd : Int
  events : EpollEvents := {}
  tickNow : Int := 0
  tickIo : Nat → SlotIo := fun _ => {}
  commands : List MonitorCommand := []
  commandEof : Bool := false
  io : SlotIo := {}

namespace FeedMonitor

def command (m : FeedMonitor) : MonitorCommand → FeedMonitor
  | .addFeed endpoint socket now => (m.addFeed endpoint socket now).2
  | .removeFeed feedId => m.removeFeed feedId
  | .forceDisconnect feedId now io => m.forceDisconnect feedId now io
  | .forceReconnect feedId => m.forceReconnect feedId
  | .setHeartbeatInterval interval => m.setHeartbeatInterval interval
  | .setHeartbeatTimeout timeout now => m.setHeartbeatTimeout timeout now
  | .setCommandInput fd => m.setCommandInput fd

def step (m : FeedMonitor) : MonitorStep → FeedMonitor
  | .command command => m.command command
  | .connectionEvent fd events now io =>
      match m.indexOfFd.lookup fd with
      -- stale event for an fd already removed earlier in this batch
      | none => m
      | some index => m.handleConnectionEvent index events now io
  | .timerTick now io => m.onTimerTick now io

/-- The tail of `on_command_fd_readable`: at EOF the command fd is dropped. -/
def onCommandFdReadable (m : FeedMonitor) (commands : List MonitorCommand) (eof : Bool) :
    FeedMonitor :=
  let done := commands.foldl command m
  if eof then { done with epollSet := done.epollSet.del done.commandFd, commandFd := -1 } else done

/-- The body of the event loop of `run`; `now` is read once per batch. -/
def dispatchEvent (now : Int) (m : FeedMonitor) (event : MonitorEvent) : FeedMonitor :=
  if event.fd = m.wakeFd then m
  else if event.fd = m.timerFd then m.onTimerTick event.tickNow event.tickIo
  else if event.fd = m.commandFd then m.onCommandFdReadable event.commands event.commandEof
  else m.step (.connectionEvent event.fd event.events now event.io)

/-- One wakeup of `run`. -/
def runBatch (m : FeedMonitor) (now : Int) (batch : List MonitorEvent) : FeedMonitor :=
  batch.foldl (dispatchEvent now) m

end FeedMonitor

end Vigil
