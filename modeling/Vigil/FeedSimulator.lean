import Vigil.Calls
import Vigil.Epoll
import Mathlib.Algebra.Order.Field.Rat
import Mathlib.Tactic.NormNum

/-!
# The simulator's reactor

`feed_simulator.h` / `feed_simulator.cpp`: an epoll reactor around a listening
socket, with one responder connection per accepted client, found by its fd.
Fault injection hooks into the connections through their ping interceptor: the
closure captures the simulator and the client's fd, so what it reads and writes
of the simulator travels in the connection's environment (`Desk`).

Each client also has the number of its `Connection` object, and each pending
reply the number of the object whose PING it answers; no decision reads them.
-/

namespace Vigil

/-! ## Faults and pending replies -/

structure FaultConfig where
  dropProbability : ℚ := 0
  /-- In milliseconds. -/
  extraLatency : Int := 0
  jitter : Bool := false

structure PendingReply where
  fireAtNs : Int
  fd : Int
  sequence : BitVec 64
  timestampNs : BitVec 64
  owner : Nat
  deriving DecidableEq

/-- A draw of `coin`. -/
abbrev Coin := {q : ℚ // 0 ≤ q ∧ q < 1}

theorem coin_zero : (0 : ℚ) ≤ 0 ∧ (0 : ℚ) < 1 := by
  constructor <;> norm_num

/-- A draw of `factor`. -/
abbrev LatencyFactor := {q : ℚ // 1 / 2 ≤ q ∧ q ≤ 3 / 2}

theorem latencyFactor_one : (1 / 2 : ℚ) ≤ 1 ∧ (1 : ℚ) ≤ 3 / 2 := by
  constructor <;> norm_num

/-- What `on_ping_intercept` reads and writes: the simulator's faults and pending
replies, the next draws of its generator and the next readings of the clock. -/
structure Desk where
  faults : FaultConfig
  pendingReplies : List PendingReply
  coins : Nat → Coin
  factors : Nat → LatencyFactor
  clock : Nat → Int

/-- Draw a coin if there is a drop probability, and compare. -/
def Desk.drops (desk : Desk) : Bool × Desk :=
  if desk.faults.dropProbability > 0 then
    ((desk.coins 0).val < desk.faults.dropProbability,
      { desk with coins := fun n => desk.coins (n + 1) })
  else (false, desk)

/-- The delay of one reply. -/
def Desk.delay (desk : Desk) : Int × Desk :=
  let delayNs := toNs desk.faults.extraLatency
  if desk.faults.jitter then
    (truncateToInt (delayNs * (desk.factors 0).val),
      { desk with factors := fun n => desk.factors (n + 1) })
  else (delayNs, desk)

/-- The interceptor of the client `owner` on `fd`. -/
def onPingIntercept (fd : Int) (owner : Nat) : PingInterceptor Desk :=
  fun sequence timestampNs desk =>
    let (dropped, flipped) := desk.drops
    if dropped then (false, flipped)
    else if flipped.faults.extraLatency > 0 then
      let (delayNs, drawn) := flipped.delay
      let reply := ⟨drawn.clock 0 + delayNs, fd, sequence, timestampNs, owner⟩
      (false, { drawn with
        pendingReplies := drawn.pendingReplies ++ [reply]
        clock := fun n => drawn.clock (n + 1) })
    else (true, flipped)

/-! ## Clients -/

structure Client where
  connection : Connection Desk
  object : Nat

/-- The answers of the outside world while one client is worked on. -/
structure ClientIo where
  sends : List SendOutcome := []
  clock : Nat → Int := fun _ => 0
  recvs : List RecvOutcome := []
  soError : Nat := 0
  coins : Nat → Coin := fun _ => ⟨0, coin_zero⟩
  factors : Nat → LatencyFactor := fun _ => ⟨1, latencyFactor_one⟩
  pingClock : Nat → Int := fun _ => 0

namespace Client

/-- Call a method of the client's connection. -/
def invoke (client : Client) (cfg : Config) (env : Env Desk) (op : ConnOp) : Client :=
  { client with connection := client.connection.call ⟨cfg, env, op⟩ }

/-- Hand the connection the answers for the calls to come. -/
def enter (client : Client) (env : Env Desk) : Client :=
  { client with connection := client.connection.withEnv env }

/-- The EPOLLIN part of `handle_client_event`. -/
def readIfReadable (client : Client) (cfg : Config) (events : EpollEvents) (now : Int)
    (io : ClientIo) : Client :=
  if events.epollIn then client.invoke cfg client.connection.env (.onReadable io.recvs now)
  else client

/-- The part of `handle_client_event` that calls the connection.  EPOLLIN comes
first here; each call goes on with what the previous one left of the answers. -/
def onEvent (client : Client) (cfg : Config) (events : EpollEvents) (now : Int) (io : ClientIo) :
    Client :=
  if events.epollHup || events.epollErr then
    client.invoke cfg client.connection.env
      (.onHangupOrError (if io.soError ≠ 0 then io.soError else kEConnReset) now)
  else
    let read := client.readIfReadable cfg events now io
    if read.connection.state ≠ .kFailed ∧ events.epollOut then
      read.invoke cfg read.connection.env (.onWritable io.soError now)
    else read

end Client

/-! ## The reactor -/

structure FeedSimulator where
  feedId : BitVec 32
  config : Config
  faults : FaultConfig
  listenFd : Int
  wakeFd : Int
  timerFd : Int
  commandFd : Int := -1
  clients : AList fun _ : Int => Client := ∅
  pendingReplies : List PendingReply := []
  epollSet : EpollSet := ∅
  /-- The number of the next `Connection` object. -/
  nextObject : Nat := 0

/-- One successful `accept4()`: the new socket and its peer, the clock as the
connection's constructor reads it, and whether `EPOLL_CTL_ADD` succeeds. -/
structure Accepted where
  fd : Nat
  host : String := ""
  port : BitVec 16 := 0
  now : Int := 0
  registered : Bool := true

namespace FeedSimulator

/-- The constructor, given the fds it created. -/
def create (feedId : BitVec 32) (config : Config) (faults : FaultConfig)
    (listenFd wakeFd timerFd : Int) : FeedSimulator where
  feedId := feedId
  config := config
  faults := faults
  listenFd := listenFd
  wakeFd := wakeFd
  timerFd := timerFd
  epollSet := ((EpollSet.add ∅ listenFd (epollInterestFlags true false config.edgeTriggered)).add
    wakeFd ⟨true, false, false⟩).add timerFd ⟨true, false, false⟩

/-- The environment in which a client's methods run. -/
def env (s : FeedSimulator) (io : ClientIo) : Env Desk :=
  ⟨io.sends, io.clock, ⟨s.faults, s.pendingReplies, io.coins, io.factors, io.pingClock⟩⟩

/-- The client that `try_emplace` constructs. -/
def newClient (s : FeedSimulator) (a : Accepted) : Client where
  connection := Connection.create a.fd .kResponder s.feedId a.host a.port none
    (s.env { clock := fun _ => a.now }) a.now
  object := s.nextObject

/-- `set_ping_interceptor`. -/
def intercept (client : Client) (fd : Int) : Client :=
  { client with connection := { client.connection with
      pingInterceptor := some (onPingIntercept fd client.object) } }

/-- One turn of the accept loop; `try_emplace` leaves an existing entry alone. -/
def acceptClient (s : FeedSimulator) (a : Accepted) : FeedSimulator :=
  let fd : Int := a.fd
  let client := (s.clients.lookup fd).getD (s.newClient a)
  let tracked := { s with
    clients := s.clients.insert fd (intercept client fd)
    nextObject := s.nextObject + 1 }
  if a.registered then
    { tracked with
      epollSet := s.epollSet.add fd (epollInterestFlags true false s.config.edgeTriggered) }
  else { tracked with clients := tracked.clients.erase fd }

/-- The accept loop over the connections that are waiting. -/
def acceptNewConnections (s : FeedSimulator) (accepted : List Accepted) : FeedSimulator :=
  accepted.foldl acceptClient s

def syncEpollInterest (s : FeedSimulator) (fd : Int) (conn : Connection Desk) : FeedSimulator :=
  { s with
    epollSet := s.epollSet.mod fd
      (epollInterestFlags true conn.wantsWrite s.config.edgeTriggered) }

/-- Deregister, purge the replies pending for the fd, and close it. -/
def removeClient (s : FeedSimulator) (fd : Int) : FeedSimulator :=
  { s with
    epollSet := s.epollSet.del fd
    pendingReplies := s.pendingReplies.filter fun p => p.fd ≠ fd
    clients := s.clients.erase fd }

/-- Put a client back after its methods ran, with what they left of the desk. -/
def store (s : FeedSimulator) (fd : Int) (client : Client) : FeedSimulator :=
  { s with
    clients := s.clients.insert fd client
    pendingReplies := client.connection.env.captured.pendingReplies }

def handleClientEvent (s : FeedSimulator) (fd : Int) (events : EpollEvents) (now : Int)
    (io : ClientIo) : FeedSimulator :=
  match s.clients.lookup fd with
  -- stale event for an fd already removed earlier in this batch
  | none => s
  | some client =>
      let called := (client.enter (s.env io)).onEvent s.config events now io
      if called.connection.state = .kFailed then (s.store fd called).removeClient fd
      else (s.store fd called).syncEpollInterest fd called.connection

/-- `check_timeout` on one client, collecting the fd if it fails. -/
def checkClient (now : Int) (acc : FeedSimulator × List Int) (fd : Int) :
    FeedSimulator × List Int :=
  match acc.1.clients.lookup fd with
  | none => acc
  | some client =>
      let env := acc.1.env {}
      let checked := client.invoke acc.1.config env (.checkTimeout now)
      ({ acc.1 with clients := acc.1.clients.insert fd checked },
        if ((client.connection.withEnv env).checkTimeout acc.1.config now).1 then acc.2 ++ [fd]
        else acc.2)

/-- Check every client, then remove those that failed. -/
def reapClients (s : FeedSimulator) (now : Int) : FeedSimulator :=
  let (checked, failedFds) := s.clients.keys.foldl (checkClient now) (s, [])
  failedFds.foldl removeClient checked

/-- One turn of the loop over the pending replies; `io` answers for the reply at
this position. -/
def fireReply (now : Int) (io : Nat → ClientIo) (acc : FeedSimulator × List PendingReply)
    (p : PendingReply × Nat) : FeedSimulator × List PendingReply :=
  if now < p.1.fireAtNs then (acc.1, acc.2 ++ [p.1])
  else
    match acc.1.clients.lookup p.1.fd with
    -- the client disconnected before its deferred reply fired
    | none => acc
    | some client =>
        let called := client.invoke acc.1.config (acc.1.env (io p.2))
          (.sendPong p.1.sequence p.1.timestampNs)
        let sent := { acc.1 with clients := acc.1.clients.insert p.1.fd called }
        (sent.syncEpollInterest p.1.fd called.connection, acc.2)

def onTimerTick (s : FeedSimulator) (now : Int) (io : Nat → ClientIo) : FeedSimulator :=
  let reaped := s.reapClients now
  let (fired, stillPending) := reaped.pendingReplies.zipIdx.foldl (fireReply now io) (reaped, [])
  { fired with pendingReplies := stillPending }

/-- The generator picks a position among the clients. -/
def killRandomConnection (s : FeedSimulator) (pick : Nat) : FeedSimulator :=
  match s.clients.keys[pick]? with
  | none => s
  | some fd => s.removeClient fd

def setFaultConfig (s : FeedSimulator) (faults : FaultConfig) : FeedSimulator :=
  { s with faults := faults }

def setCommandInput (s : FeedSimulator) (fd : Int) : FeedSimulator :=
  { s with
    commandFd := fd
    epollSet := s.epollSet.add fd (epollInterestFlags true false s.config.edgeTriggered) }

end FeedSimulator

/-! ## Steps and batches -/

/-- A public operation, as the command callback or the owner calls it. -/
inductive SimulatorCommand where
  | killRandomConnection (pick : Nat)
  | setFaultConfig (faults : FaultConfig)
  | setCommandInput (fd : Int)

/-- One event of a batch, with what the outside world contributes to its
handling. -/
structure SimulatorEvent where
  fd : Int
  events : EpollEvents := {}
  tickNow : Int := 0
  tickIo : Nat → ClientIo := fun _ => {}
  accepted : List Accepted := []
  commands : List SimulatorCommand := []
  commandEof : Bool := false
  io : ClientIo := {}

namespace FeedSimulator

def command (s : FeedSimulator) : SimulatorCommand → FeedSimulator
  | .killRandomConnection pick => s.killRandomConnection pick
  | .setFaultConfig faults => s.setFaultConfig faults
  | .setCommandInput fd => s.setCommandInput fd

/-- The tail of `on_command_fd_readable`: at EOF the command fd is dropped. -/
def onCommandFdReadable (s : FeedSimulator) (commands : List SimulatorCommand) (eof : Bool) :
    FeedSimulator :=
  let done := commands.foldl command s
  if eof then { done with epollSet := done.epollSet.del done.commandFd, commandFd := -1 } else done

/-- The body of the event loop of `run`; `now` is read once per batch. -/
def dispatchEvent (now : Int) (s : FeedSimulator) (event : SimulatorEvent) : FeedSimulator :=
  if event.fd = s.wakeFd then s
  else if event.fd = s.timerFd then s.onTimerTick event.tickNow event.tickIo
  else if event.fd = s.listenFd then s.acceptNewConnections event.accepted
  else if event.fd = s.commandFd then s.onCommandFdReadable event.commands event.commandEof
  else s.handleClientEvent event.fd event.events now event.io

/-- One wakeup of `run`. -/
def runBatch (s : FeedSimulator) (now : Int) (batch : List SimulatorEvent) : FeedSimulator :=
  batch.foldl (dispatchEvent now) s

end FeedSimulator

end Vigil
