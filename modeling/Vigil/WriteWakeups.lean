import Vigil.SimulatorWatch

/-!
# No lost write wake-up

Both reactors keep the interest of every live connection up to date
(`FeedMonitor.run_watched`, `FeedSimulator.run_watched`); here is what that
means for EPOLLOUT.
-/

namespace Vigil

/-- The connection, unless it has failed, is registered, and for EPOLLOUT
exactly while it wants to write. -/
def Connection.WriteWatched {σ : Type} (set : EpollSet) (c : Connection σ) : Prop :=
  c.state ≠ .kFailed → ∃ interest, set.lookup c.fd = some interest ∧
    (interest.epollOut = true ↔ c.wantsWrite = true) ∧
    (c.wantsWrite = true ↔ c.state = .kConnecting ∨ c.writePending ≠ [])

theorem Connection.writeWatched_of_lookup {σ : Type} {set : EpollSet} {c : Connection σ}
    {edgeTriggered : Bool} (h : c.state ≠ .kFailed →
      set.lookup c.fd = some (epollInterestFlags true c.wantsWrite edgeTriggered)) :
    c.WriteWatched set := by
  intro hlive
  refine ⟨_, h hlive, Iff.rfl, ?_⟩
  simp [wantsWrite]

/-- **No lost write wake-up.**  After every turn of either reactor, every
connection that has not failed is registered in the epoll set, and for EPOLLOUT
if and only if it wants to write, that is, if it is connecting or has bytes
pending.  New sockets have numbers that no open fd has, and the command fd was
not registered before; nothing is assumed of the peers, the sockets or the order
of events. -/
theorem no_lost_write_wakeup
    (config : Config) (timerFd wakeFd : Int) (turns : List MonitorTurn)
    (hadm : Runs.Along FeedMonitor.turn FeedMonitor.TurnAdmitted
      (FeedMonitor.create config timerFd wakeFd) turns)
    (feedId : BitVec 32) (simConfig : Config) (faults : FaultConfig)
    (listenFd simWakeFd simTimerFd : Int) (simTurns : List SimulatorTurn)
    (hsim : Runs.Along FeedSimulator.turn FeedSimulator.TurnAdmitted
      (FeedSimulator.create feedId simConfig faults listenFd simWakeFd simTimerFd) simTurns) :
    (∀ slot ∈ (turns.foldl FeedMonitor.turn (FeedMonitor.create config timerFd wakeFd)).slots,
      slot.connection.WriteWatched
        (turns.foldl FeedMonitor.turn (FeedMonitor.create config timerFd wakeFd)).epollSet) ∧
    ∀ fd client, (simTurns.foldl FeedSimulator.turn (FeedSimulator.create feedId simConfig faults
        listenFd simWakeFd simTimerFd)).clients.lookup fd = some client →
      client.connection.WriteWatched (simTurns.foldl FeedSimulator.turn (FeedSimulator.create feedId
        simConfig faults listenFd simWakeFd simTimerFd)).epollSet := by
  have hmonitor := FeedMonitor.run_watched config timerFd wakeFd turns hadm
  have hsimulator := FeedSimulator.run_watched feedId simConfig faults listenFd simWakeFd
    simTimerFd simTurns hsim
  constructor
  · intro slot hslot
    exact Connection.writeWatched_of_lookup (hmonitor.registered slot hslot)
  · intro fd client hlookup
    apply Connection.writeWatched_of_lookup
    rw [hsimulator.keyed fd client hlookup]
    exact hsimulator.registered fd client hlookup

namespace FeedMonitor

/-- Feed 7 is added on fd 5; when it connects, only part of its HELLO is sent. -/
def helloHeldUp : List MonitorTurn :=
  [.operation (.addFeed { feedId := 7 } (some 5) 0),
    .event 1 { fd := 5, events := { epollOut := true }, io := { sends := [.sent 9] } }]

end FeedMonitor

namespace FeedSimulator

/-- A client is accepted on fd 8 and sends its HELLO; only part of the ACK is
sent. -/
def ackHeldUp : List SimulatorTurn :=
  [.operation (.setCommandInput 0), .event 1 (accepts 1),
    .event 2 { fd := 8, events := { epollIn := true }, io := {
      sends := [.sent 9]
      recvs := [.data (frameChunk { type := MessageType.kConnectHello.toByte, feedId := 7 })] } }]

end FeedSimulator

/-- Both connections are registered for EPOLLOUT. -/
theorem no_lost_write_wakeup_heldUp :
    (∀ slot ∈ (FeedMonitor.helloHeldUp.foldl FeedMonitor.turn (FeedMonitor.create {} 3 4)).slots,
      slot.connection.WriteWatched
        (FeedMonitor.helloHeldUp.foldl FeedMonitor.turn (FeedMonitor.create {} 3 4)).epollSet) ∧
    ∀ fd client, (FeedSimulator.ackHeldUp.foldl FeedSimulator.turn
        (FeedSimulator.create 7 {} {} 3 4 5)).clients.lookup fd = some client →
      client.connection.WriteWatched (FeedSimulator.ackHeldUp.foldl FeedSimulator.turn
        (FeedSimulator.create 7 {} {} 3 4 5)).epollSet := by
  apply no_lost_write_wakeup {} 3 4 _ _ 7 {} {} 3 4 5
  · decide +kernel
  · decide +kernel

end Vigil
