import Vigil.Descriptors
import Vigil.SimulatorWatch

/-!
# The simulator's sockets

The counterpart of `Descriptors.lean` for `feed_simulator.cpp`: `accept4()`
opens a socket, the connection emplaced for it owns it, and every erasure from
`clients_` closes it.  A second entry under a number would close the wrong
socket or none; `client_sockets_owned` says that this never happens, so that
every open socket is that of one tracked client.
-/

namespace Vigil

open Handles

/-- The simulator and the kernel's table of descriptors. -/
structure SimulatorFds where
  simulator : FeedSimulator
  table : Table

namespace SimulatorFds

/-- Destroying a client destroys its connection, whose handle closes the fd. -/
def destroyClient (client : Client) (table : Table) : Table :=
  UniqueFd.destroy ⟨client.connection.fd⟩ table

/-- One turn of the accept loop: if the socket cannot be registered, the entry
under its number is erased again. -/
def acceptClient (d : SimulatorFds) (a : Accepted) : SimulatorFds :=
  let opened := d.table.opens a.fd
  { simulator := d.simulator.acceptClient a
    table :=
      if a.registered then opened
      else
        destroyClient ((d.simulator.clients.lookup (a.fd : Int)).getD (d.simulator.newClient a))
          opened }

/-- `remove_client` ends with `clients_.erase(fd)`. -/
def removeClient (d : SimulatorFds) (fd : Int) : SimulatorFds :=
  { simulator := d.simulator.removeClient fd
    table := (d.simulator.clients.lookup fd).elim d.table fun client =>
      destroyClient client d.table }

def handleClientEvent (d : SimulatorFds) (fd : Int) (events : EpollEvents) (now : Int)
    (io : ClientIo) : SimulatorFds :=
  match d.simulator.clients.lookup fd with
  | none => d
  | some client =>
      let s := d.simulator
      let called := (client.enter (s.env io)).onEvent s.config events now io
      if called.connection.state = .kFailed then
        removeClient { d with simulator := s.store fd called } fd
      else { d with simulator := (s.store fd called).syncEpollInterest fd called.connection }

def reapClients (d : SimulatorFds) (now : Int) : SimulatorFds :=
  let (checked, failedFds) :=
    d.simulator.clients.keys.foldl (FeedSimulator.checkClient now) (d.simulator, [])
  failedFds.foldl removeClient { d with simulator := checked }

/-- The deferred replies open and close nothing. -/
def onTimerTick (d : SimulatorFds) (now : Int) (io : Nat → ClientIo) : SimulatorFds :=
  { simulator := d.simulator.onTimerTick now io
    table := (d.reapClients now).table }

def command (d : SimulatorFds) : SimulatorCommand → SimulatorFds
  | .killRandomConnection pick =>
      match d.simulator.clients.keys[pick]? with
      | none => d
      | some fd => d.removeClient fd
  | other => { d with simulator := d.simulator.command other }

def onCommandFdReadable (d : SimulatorFds) (commands : List SimulatorCommand) (eof : Bool) :
    SimulatorFds :=
  { simulator := d.simulator.onCommandFdReadable commands eof
    table := (commands.foldl command d).table }

def dispatchEvent (now : Int) (d : SimulatorFds) (event : SimulatorEvent) : SimulatorFds :=
  if event.fd = d.simulator.wakeFd then d
  else if event.fd = d.simulator.timerFd then d.onTimerTick event.tickNow event.tickIo
  else if event.fd = d.simulator.listenFd then event.accepted.foldl acceptClient d
  else if event.fd = d.simulator.commandFd then
    d.onCommandFdReadable event.commands event.commandEof
  else d.handleClientEvent event.fd event.events now event.io

def turn (d : SimulatorFds) : SimulatorTurn → SimulatorFds
  | .operation c => d.command c
  | .event now e => dispatchEvent now d e

/-- `~FeedSimulator` destroys `clients_`. -/
def destroy (d : SimulatorFds) : Table :=
  d.simulator.clients.entries.foldl (fun table entry => destroyClient entry.2 table) d.table

/-! ## The simulator beside the table is the simulator -/

theorem removeClients_simulator (fds : List Int) (d : SimulatorFds) :
    (fds.foldl removeClient d).simulator = fds.foldl FeedSimulator.removeClient d.simulator := by
  induction fds generalizing d with
  | nil => rfl
  | cons fd fds ih =>
      rw [List.foldl_cons, ih]
      rfl

theorem reapClients_simulator (d : SimulatorFds) (now : Int) :
    (d.reapClients now).simulator = d.simulator.reapClients now := by
  unfold reapClients FeedSimulator.reapClients
  exact removeClients_simulator _ _

theorem command_simulator (d : SimulatorFds) (c : SimulatorCommand) :
    (d.command c).simulator = d.simulator.command c := by
  cases c with
  | killRandomConnection pick =>
      simp only [command, FeedSimulator.command, FeedSimulator.killRandomConnection]
      cases d.simulator.clients.keys[pick]? <;> rfl
  | setFaultConfig faults => rfl
  | setCommandInput fd => rfl

theorem commands_simulator (commands : List SimulatorCommand) (d : SimulatorFds) :
    (commands.foldl command d).simulator = commands.foldl FeedSimulator.command d.simulator := by
  induction commands generalizing d with
  | nil => rfl
  | cons c commands ih => rw [List.foldl_cons, ih, command_simulator, List.foldl_cons]

theorem acceptClients_simulator (accepted : List Accepted) (d : SimulatorFds) :
    (accepted.foldl acceptClient d).simulator = d.simulator.acceptNewConnections accepted := by
  induction accepted generalizing d with
  | nil => rfl
  | cons a accepted ih =>
      rw [List.foldl_cons, ih]
      rfl

theorem handleClientEvent_simulator (d : SimulatorFds) (fd : Int) (events : EpollEvents)
    (now : Int) (io : ClientIo) : (d.handleClientEvent fd events now io).simulator =
      d.simulator.handleClientEvent fd events now io := by
  unfold handleClientEvent FeedSimulator.handleClientEvent
  cases d.simulator.clients.lookup fd with
  | none => rfl
  | some client =>
      dsimp only
      split <;> rfl

/-- **Refinement.** -/
theorem turn_simulator (d : SimulatorFds) (t : SimulatorTurn) :
    (d.turn t).simulator = d.simulator.turn t := by
  cases t with
  | operation c => exact command_simulator d c
  | event now e =>
      show (dispatchEvent now d e).simulator = FeedSimulator.dispatchEvent now d.simulator e
      unfold dispatchEvent FeedSimulator.dispatchEvent
      split
      · rfl
      · split
        · rfl
        · split
          · exact acceptClients_simulator e.accepted d
          · split
            · rfl
            · exact handleClientEvent_simulator d e.fd e.events now e.io

/-! ## The invariant -/

/-- The tracked clients own their sockets, and beside `base` nothing else is
open. -/
structure ClientsOwn (base : List Int) (d : SimulatorFds) : Prop where
  keyed : d.simulator.Keyed
  nonneg : ∀ fd ∈ d.simulator.clients.keys, 0 ≤ fd
  accounts : Accounts d.table (d.simulator.clients.keys ++ base)

variable {base : List Int} {d : SimulatorFds}

/-- The same clients, under the same numbers. -/
structure Keeps (s s' : FeedSimulator) : Prop where
  retains : FeedSimulator.Retains s s'
  keys : s'.clients.keys.Perm s.clients.keys

theorem Keeps.of_eq {s s' : FeedSimulator} (h : s'.clients = s.clients) : Keeps s s' :=
  ⟨.of_eq h, by rw [h]⟩

theorem Keeps.trans {s s' s'' : FeedSimulator} (h : Keeps s s') (h' : Keeps s' s'') : Keeps s s'' :=
  ⟨h.retains.trans h'.retains, h'.keys.trans h.keys⟩

theorem Keeps.update {s s' : FeedSimulator} {fd : Int} {client client' : Client}
    (hlookup : s.clients.lookup fd = some client) (hplace : client'.place = client.place)
    (h : s'.clients = s.clients.insert fd client') : Keeps s s' := by
  refine ⟨.update hlookup hplace h, ?_⟩
  have hmem : fd ∈ s.clients.keys := by
    rw [← AList.mem_keys, ← AList.lookup_isSome, hlookup]
    rfl
  rw [h, AList.keys_insert]
  exact (List.perm_cons_erase hmem).symm

theorem ClientsOwn.kept (h : ClientsOwn base d) {s' : FeedSimulator}
    (hkeeps : Keeps d.simulator s') : ClientsOwn base { d with simulator := s' } where
  keyed := h.keyed.retains hkeeps.retains
  nonneg := fun fd hmem => h.nonneg fd (hkeeps.keys.mem_iff.mp hmem)
  accounts := h.accounts.of_perm (hkeeps.keys.symm.append_right base)

theorem destroyClient_table {client : Client} (h : 0 ≤ client.connection.fd) (table : Table) :
    destroyClient client table = table.close client.connection.fd :=
  MonitorFds.destroy_table h table

theorem ClientsOwn.removeClient (h : ClientsOwn base d) (fd : Int) :
    ClientsOwn base (d.removeClient fd) := by
  have hkeyed := h.keyed.retains (FeedSimulator.removeClient_retains d.simulator fd)
  have hkeys : (d.removeClient fd).simulator.clients.keys = d.simulator.clients.keys.erase fd :=
    AList.keys_erase fd d.simulator.clients
  have hnonneg : ∀ other ∈ (d.removeClient fd).simulator.clients.keys, 0 ≤ other := by
    intro other hmem
    rw [hkeys] at hmem
    exact h.nonneg other (List.mem_of_mem_erase hmem)
  refine ⟨hkeyed, hnonneg, ?_⟩
  rw [hkeys]
  unfold SimulatorFds.removeClient
  cases hlookup : d.simulator.clients.lookup fd with
  | none =>
      have hmem : fd ∉ d.simulator.clients.keys := by
        rw [← AList.mem_keys]
        exact AList.lookup_eq_none.mp hlookup
      rw [List.erase_of_not_mem hmem]
      exact h.accounts
  | some client =>
      have hmem : fd ∈ d.simulator.clients.keys := by
        rw [← AList.mem_keys, ← AList.lookup_isSome, hlookup]
        rfl
      have hfd : client.connection.fd = fd := h.keyed fd client hlookup
      dsimp only [Option.elim]
      rw [destroyClient_table (hfd.symm ▸ h.nonneg fd hmem), hfd]
      exact Accounts.close
        (h.accounts.of_perm ((List.perm_cons_erase hmem).append_right base))

theorem ClientsOwn.removeClients (h : ClientsOwn base d) (fds : List Int) :
    ClientsOwn base (fds.foldl SimulatorFds.removeClient d) :=
  List.foldlRecOn fds SimulatorFds.removeClient h fun _ hd fd _ => hd.removeClient fd

/-! ## One turn -/

theorem checkClient_keeps (now : Int) (acc : FeedSimulator × List Int) (fd : Int) :
    Keeps acc.1 (FeedSimulator.checkClient now acc fd).1 := by
  unfold FeedSimulator.checkClient
  split
  · exact .of_eq rfl
  · next client hlookup =>
      exact .update hlookup (Client.invoke_place client _ _ (.checkTimeout now) rfl) rfl

theorem ClientsOwn.reapClients (h : ClientsOwn base d) (now : Int) :
    ClientsOwn base (d.reapClients now) := by
  have hchecked : Keeps d.simulator
      (d.simulator.clients.keys.foldl (FeedSimulator.checkClient now) (d.simulator, [])).1 :=
    List.foldlRecOn (motive := fun acc => Keeps d.simulator acc.1) d.simulator.clients.keys
      (FeedSimulator.checkClient now) (.of_eq rfl)
      fun acc hacc fd _ => hacc.trans (checkClient_keeps now acc fd)
  unfold SimulatorFds.reapClients
  exact (h.kept hchecked).removeClients _

theorem fireReply_keeps (now : Int) (io : Nat → ClientIo)
    (acc : FeedSimulator × List PendingReply) (p : PendingReply × Nat) :
    Keeps acc.1 (FeedSimulator.fireReply now io acc p).1 := by
  unfold FeedSimulator.fireReply
  split
  · exact .of_eq rfl
  · split
    · exact .of_eq rfl
    · next client hlookup =>
        exact .update hlookup
          (Client.invoke_place client _ _ (.sendPong p.1.sequence p.1.timestampNs) rfl) rfl

theorem onTimerTick_keeps (s : FeedSimulator) (now : Int) (io : Nat → ClientIo) :
    Keeps (s.reapClients now) (s.onTimerTick now io) := by
  have hfired : Keeps (s.reapClients now) ((s.reapClients now).pendingReplies.zipIdx.foldl
      (FeedSimulator.fireReply now io) (s.reapClients now, [])).1 :=
    List.foldlRecOn (motive := fun acc => Keeps (s.reapClients now) acc.1) _
      (FeedSimulator.fireReply now io) (.of_eq rfl)
      fun acc hacc p _ => hacc.trans (fireReply_keeps now io acc p)
  exact hfired.trans (.of_eq rfl)

theorem ClientsOwn.onTimerTick (h : ClientsOwn base d) (now : Int) (io : Nat → ClientIo) :
    ClientsOwn base (d.onTimerTick now io) := by
  have hkeeps := onTimerTick_keeps d.simulator now io
  rw [← reapClients_simulator] at hkeeps
  exact (h.reapClients now).kept hkeeps

theorem ClientsOwn.handleClientEvent (h : ClientsOwn base d) (fd : Int) (events : EpollEvents)
    (now : Int) (io : ClientIo) : ClientsOwn base (d.handleClientEvent fd events now io) := by
  unfold SimulatorFds.handleClientEvent
  split
  · exact h
  · next client hlookup =>
      have hplace : ((client.enter (d.simulator.env io)).onEvent d.simulator.config events now
          io).place = client.place := Client.onEvent_place (client.enter _) _ events now io
      dsimp only
      generalize (client.enter (d.simulator.env io)).onEvent d.simulator.config events now io =
        called at hplace ⊢
      have hstore : Keeps d.simulator (d.simulator.store fd called) :=
        .update hlookup hplace rfl
      split
      · exact (h.kept hstore).removeClient fd
      · exact h.kept (hstore.trans (.of_eq rfl))

theorem ClientsOwn.command (h : ClientsOwn base d) (c : SimulatorCommand) :
    ClientsOwn base (d.command c) := by
  cases c with
  | killRandomConnection pick =>
      unfold SimulatorFds.command
      dsimp only
      split
      · exact h
      · exact h.removeClient _
  | setFaultConfig faults => exact h.kept (.of_eq rfl)
  | setCommandInput fd => exact h.kept (.of_eq rfl)

/-- A new number is that of no client, so the connection is emplaced. -/
theorem ClientsOwn.untracked (h : ClientsOwn base d) {fd : Int} (hnew : fd ∉ d.table.opened) :
    d.simulator.clients.lookup fd = none := by
  rw [AList.lookup_eq_none, AList.mem_keys]
  intro hmem
  exact hnew (h.accounts.perm.mem_iff.mpr (List.mem_append_left base hmem))

theorem ClientsOwn.acceptClient (h : ClientsOwn base d) (a : Accepted)
    (hnew : (a.fd : Int) ∉ d.table.opened) : ClientsOwn base (d.acceptClient a) := by
  have hkeyed := FeedSimulator.acceptClient_keyed h.keyed a
  have hnone := h.untracked hnew
  have hfree : (a.fd : Int) ∉ d.simulator.clients.keys := by
    rw [← AList.mem_keys]
    exact AList.lookup_eq_none.mp hnone
  have hkeys : (d.simulator.acceptClient a).clients.keys =
      if a.registered then (a.fd : Int) :: d.simulator.clients.keys
      else d.simulator.clients.keys := by
    unfold FeedSimulator.acceptClient
    dsimp only
    split
    · rw [AList.keys_insert, List.erase_of_not_mem hfree]
    · rw [AList.keys_erase, AList.keys_insert, List.erase_of_not_mem hfree, List.erase_cons_head]
  refine ⟨hkeyed, ?_, ?_⟩
  · intro fd hmem
    have hmem' : fd ∈ (d.simulator.acceptClient a).clients.keys := hmem
    rw [hkeys] at hmem'
    split at hmem'
    · rcases List.mem_cons.mp hmem' with rfl | hold
      · exact Int.natCast_nonneg a.fd
      · exact h.nonneg fd hold
    · exact h.nonneg fd hmem'
  · show Accounts _ ((d.simulator.acceptClient a).clients.keys ++ base)
    rw [hkeys]
    unfold SimulatorFds.acceptClient
    dsimp only
    split
    · exact h.accounts.opens hnew
    · rw [hnone, Option.getD_none]
      have hfd : (d.simulator.newClient a).connection.fd = a.fd := rfl
      rw [destroyClient_table (hfd ▸ Int.natCast_nonneg a.fd), hfd]
      exact h.accounts.opens_close hnew

/-- The kernel's rule: `accept4()` returns numbers that are not open. -/
def KernelRule (d : SimulatorFds) : SimulatorTurn → Prop
  | .operation _ => True
  | .event _ e => e.fd = d.simulator.listenFd → e.fd ≠ d.simulator.wakeFd →
      e.fd ≠ d.simulator.timerFd →
      Runs.Along acceptClient (fun mid a => (a.fd : Int) ∉ mid.table.opened) d e.accepted

instance (d : SimulatorFds) (t : SimulatorTurn) : Decidable (KernelRule d t) :=
  match t with
  | .operation _ => isTrue trivial
  | .event _ e => inferInstanceAs (Decidable (e.fd = d.simulator.listenFd →
      e.fd ≠ d.simulator.wakeFd → e.fd ≠ d.simulator.timerFd →
      Runs.Along acceptClient (fun mid a => (a.fd : Int) ∉ mid.table.opened) d e.accepted))

/-- **One turn.** -/
theorem turn_owned (base : List Int) (d : SimulatorFds) (t : SimulatorTurn)
    (h : ClientsOwn base d) (hkernel : KernelRule d t) : ClientsOwn base (d.turn t) := by
  cases t with
  | operation c => exact h.command c
  | event now e =>
      rw [turn]
      unfold dispatchEvent
      split
      · exact h
      · next hwake =>
          split
          · exact h.onTimerTick e.tickNow e.tickIo
          · next htimer =>
              split
              · next hlisten =>
                  exact Runs.invariant (fun mid a hmid hnew => hmid.acceptClient a hnew) h
                    (hkernel hlisten hwake htimer)
              · split
                · have hdone : ClientsOwn base (e.commands.foldl SimulatorFds.command d) :=
                    List.foldlRecOn e.commands SimulatorFds.command h fun _ hd c _ => hd.command c
                  have hclients : (d.simulator.onCommandFdReadable e.commands
                      e.commandEof).clients =
                      (e.commands.foldl SimulatorFds.command d).simulator.clients := by
                    rw [commands_simulator]
                    unfold FeedSimulator.onCommandFdReadable
                    dsimp only
                    split <;> rfl
                  exact hdone.kept (.of_eq hclients)
                · exact h.handleClientEvent e.fd e.events now e.io

/-! ## Every run -/

def start (feedId : BitVec 32) (config : Config) (faults : FaultConfig)
    (listenFd wakeFd timerFd : Int) (base : List Int) : SimulatorFds where
  simulator := .create feedId config faults listenFd wakeFd timerFd
  table := { opened := base }

theorem start_owned (feedId : BitVec 32) (config : Config) (faults : FaultConfig)
    (listenFd wakeFd timerFd : Int) (hbase : base.Nodup) :
    ClientsOwn base (start feedId config faults listenFd wakeFd timerFd base) where
  keyed := fun _ _ h => nomatch h
  nonneg := fun _ h => absurd h List.not_mem_nil
  accounts := ⟨List.Perm.refl base, hbase, rfl⟩

theorem ClientsOwn.destroyed (h : ClientsOwn base d) : Accounts d.destroy base := by
  have hclose : d.destroy = d.simulator.clients.keys.foldl Table.close d.table := by
    have hkeys : d.simulator.clients.keys = d.simulator.clients.entries.map Sigma.fst := rfl
    rw [destroy, hkeys, List.foldl_map]
    refine List.foldl_ext _ _ _ fun table entry hmem => ?_
    have hlookup : d.simulator.clients.lookup entry.1 = some entry.2 :=
      AList.mem_lookup_iff.mpr hmem
    have hfd := h.keyed entry.1 entry.2 hlookup
    have hnonneg := h.nonneg entry.1 (List.mem_map_of_mem hmem)
    rw [destroyClient_table (hfd.symm ▸ hnonneg), hfd]
  rw [hclose]
  exact Accounts.close_all h.accounts

theorem run_simulator (d : SimulatorFds) (turns : List SimulatorTurn) :
    (turns.foldl turn d).simulator = turns.foldl FeedSimulator.turn d.simulator := by
  induction turns generalizing d with
  | nil => rfl
  | cons t turns ih => rw [List.foldl_cons, ih, turn_simulator, List.foldl_cons]

/-- **No client socket leaks.**  However clients come, fail, time out, are
killed or cannot be registered: no close ever names a descriptor that is not
open, every open one is one of `base` or the number of exactly one tracked
client, and destroying the simulator leaves just `base`. -/
theorem client_sockets_owned (feedId : BitVec 32) (config : Config) (faults : FaultConfig)
    (listenFd wakeFd timerFd : Int) (base : List Int) (turns : List SimulatorTurn)
    (hbase : base.Nodup)
    (hkernel : Runs.Along turn KernelRule
      (start feedId config faults listenFd wakeFd timerFd base) turns) :
    let d := turns.foldl turn (start feedId config faults listenFd wakeFd timerFd base)
    d.simulator =
        turns.foldl FeedSimulator.turn (.create feedId config faults listenFd wakeFd timerFd) ∧
      d.table.badCloses = 0 ∧ d.table.opened.Nodup ∧
      d.table.opened.Perm (d.simulator.clients.keys ++ base) ∧
      (∀ fd client, d.simulator.clients.lookup fd = some client → client.connection.fd = fd) ∧
      d.destroy.badCloses = 0 ∧ d.destroy.opened.Perm base := by
  intro d
  have hend : ClientsOwn base d := Runs.invariant (fun d t h hok => turn_owned base d t h hok)
    (start_owned feedId config faults listenFd wakeFd timerFd hbase) hkernel
  exact ⟨run_simulator _ turns, hend.accounts.clean, hend.accounts.nodup, hend.accounts.perm,
    hend.keyed, hend.destroyed.clean, hend.destroyed.perm⟩

/-- One client is accepted and killed; of the two that follow, the first gets
its number again and the second cannot be registered. -/
def clientsComeAndGo : List SimulatorTurn :=
  [.event 1 { fd := 3, accepted := [{ fd := 7 }] },
    .operation (.killRandomConnection 0),
    .event 2 { fd := 3, accepted := [{ fd := 7 }, { fd := 8, registered := false }] }]

theorem client_sockets_owned_come_and_go :
    (clientsComeAndGo.foldl turn (start 1 {} {} 3 4 5 [0, 1, 2, 3, 4, 5, 6])).simulator.clients.keys
        = [7] ∧
      (clientsComeAndGo.foldl turn (start 1 {} {} 3 4 5 [0, 1, 2, 3, 4, 5, 6])).table.badCloses =
        0 :=
  ⟨by decide +kernel,
    (client_sockets_owned 1 {} {} 3 4 5 [0, 1, 2, 3, 4, 5, 6] clientsComeAndGo (by decide)
      (by decide +kernel)).2.1⟩

end SimulatorFds

end Vigil
