import Vigil.Handles
import Vigil.FdIndex

/-!
# The monitor's sockets

`unique_fd.h` and the places of `feed_monitor.cpp` that create, move and close
sockets.  Every slot's connection owns its fd through a `UniqueFd`; here these
handles are followed beside the monitor, through the moves that swap-and-pop
makes and the `reset` of a reconnect, together with the kernel's table of open
descriptors.

`sockets_owned` says that no run leaks a socket or closes one twice, and that
the destructor closes what is left.  That `socket()` never returns an open
number is all that is assumed; it also gives what the fd map relies on
(`sockets_new`).
-/

namespace Vigil

open Handles

/-! ## `unique_fd.h` -/

structure UniqueFd where
  fd : Int := -1
  deriving DecidableEq

namespace UniqueFd

def release (h : UniqueFd) : Int × UniqueFd :=
  (h.fd, ⟨-1⟩)

def reset (h : UniqueFd) (newFd : Int) (table : Table) : UniqueFd × Table :=
  (⟨newFd⟩, if h.fd ≥ 0 ∧ h.fd ≠ newFd then table.close h.fd else table)

/-- The destructor. -/
def destroy (h : UniqueFd) (table : Table) : Table :=
  (h.reset (-1) table).2

/-- Move assignment to `h`; also what is left of `other`. -/
def moveAssign (h other : UniqueFd) (table : Table) : UniqueFd × UniqueFd × Table :=
  let (fd, released) := other.release
  let (assigned, closed) := h.reset fd table
  (assigned, released, closed)

end UniqueFd

/-! ## `create_and_connect_socket` -/

/-- What `socket()` returns and whether `inet_pton()` takes the host.  The
result of `connect()` is ignored. -/
structure SocketAnswers where
  socket : Option Nat := none
  hostValid : Bool := true

/-- What the function returns on these answers. -/
def SocketAnswers.returned (answers : SocketAnswers) : Option Nat :=
  if answers.hostValid then answers.socket else none

def createAndConnectSocket (answers : SocketAnswers) (table : Table) : Option Nat × Table :=
  match answers.socket with
  | none => (none, table)
  | some fd =>
      let created := table.opens fd
      if answers.hostValid then (some fd, created) else (none, created.close fd)

/-! ## The monitor with its handles -/

/-- The monitor, the `fd_` of each slot's connection, and the kernel's table. -/
structure MonitorFds where
  monitor : FeedMonitor
  fds : List UniqueFd := []
  table : Table

namespace MonitorFds

/-- The slot is built around the new fd and moved into the vector; then the
emptied temporary is destroyed. -/
def addFeed (d : MonitorFds) (endpoint : FeedEndpoint) (answers : SocketAnswers) (now : Int) :
    MonitorFds :=
  if endpoint.feedId ∈ d.monitor.indexOfFeedId then d
  else
    let (socket, table) := createAndConnectSocket answers d.table
    let monitor := (d.monitor.addFeed endpoint socket now).2
    match socket with
    | none => { d with monitor := monitor, table := table }
    | some fd =>
        let (moved, temporary) := UniqueFd.release ⟨fd⟩
        { monitor := monitor
          fds := d.fds ++ [⟨moved⟩]
          table := temporary.destroy table }

/-- `slots_[index] = std::move(slots_[last])`, then `pop_back()`. -/
def removeFdAt (d : MonitorFds) (index : Nat) : List UniqueFd × Table :=
  match d.fds[index]?, d.fds.getLast? with
  | some target, some last =>
      if index ≠ d.fds.length - 1 then
        let (assigned, popped, table) := target.moveAssign last d.table
        ((d.fds.set index assigned).dropLast, popped.destroy table)
      else (d.fds.dropLast, last.destroy d.table)
  | _, _ => (d.fds, d.table)

def removeFeed (d : MonitorFds) (feedId : BitVec 32) : MonitorFds :=
  match d.monitor.indexOfFeedId.lookup feedId with
  | none => d
  | some index =>
      { monitor := d.monitor.removeSlotAt index
        fds := (d.removeFdAt index).1
        table := (d.removeFdAt index).2 }

/-- What `create_and_connect_socket` returns in this turn of the tick. -/
def turnIo (io : Nat → SlotIo) (answers : Nat → SocketAnswers) (index : Nat) : SlotIo :=
  { io index with socket := (answers index).returned }

/-- `initiate_connect`: `rebind` resets the handle to the new fd. -/
def reconnectFd (d : MonitorFds) (index : Nat) (answers : SocketAnswers) :
    List UniqueFd × Table :=
  match createAndConnectSocket answers d.table, d.fds[index]? with
  | (some fd, table), some handle =>
      (d.fds.set index (handle.reset fd table).1, (handle.reset fd table).2)
  | (_, table), _ => (d.fds, table)

/-- One turn of the loop of `on_timer_tick`. -/
def tickFd (now : Int) (io : Nat → SlotIo) (answers : Nat → SocketAnswers) (d : MonitorFds)
    (index : Nat) : MonitorFds :=
  let monitor := FeedMonitor.tickSlot now (turnIo io answers) d.monitor index
  match d.monitor.slots[index]? with
  | none => { d with monitor := monitor }
  | some slot =>
      if slot.connection.state = .kFailed ∧ slot.reconnectDue now then
        { monitor := monitor
          fds := (d.reconnectFd index (answers index)).1
          table := (d.reconnectFd index (answers index)).2 }
      else { d with monitor := monitor }

def onTimerTick (d : MonitorFds) (now : Int) (io : Nat → SlotIo)
    (answers : Nat → SocketAnswers) : MonitorFds :=
  (List.range d.monitor.slots.length).foldl (tickFd now io answers) d

/-- `~FeedMonitor` destroys the slots, and each closes its fd. -/
def destroy (d : MonitorFds) : Table :=
  d.fds.foldl (fun table handle => handle.destroy table) d.table

/-- One reactor step; the answers are those of the tick's turns, and the first
of them is that of `add_feed`. -/
def step (d : MonitorFds) (s : MonitorStep × (Nat → SocketAnswers)) : MonitorFds :=
  match s.1 with
  | .command (.addFeed endpoint _ now) => d.addFeed endpoint (s.2 0) now
  | .command (.removeFeed feedId) => d.removeFeed feedId
  | .timerTick now io => d.onTimerTick now io s.2
  | other => { d with monitor := d.monitor.step other }

/-- The step as the monitor takes it. -/
def resolved (s : MonitorStep × (Nat → SocketAnswers)) : MonitorStep :=
  match s.1 with
  | .command (.addFeed endpoint _ now) => .command (.addFeed endpoint (s.2 0).returned now)
  | .timerTick now io => .timerTick now (turnIo io s.2)
  | other => other

/-! ## What is assumed of the kernel -/

/-- If `socket()` is called, it returns a number that is not open. -/
def SocketNew (d : MonitorFds) (answers : SocketAnswers) : Prop :=
  ∀ fd ∈ answers.socket, (fd : Int) ∉ d.table.opened

instance (d : MonitorFds) (answers : SocketAnswers) : Decidable (SocketNew d answers) :=
  inferInstanceAs (Decidable (∀ fd ∈ answers.socket, (fd : Int) ∉ d.table.opened))

def TurnNew (now : Int) (answers : Nat → SocketAnswers) (d : MonitorFds) (index : Nat) : Prop :=
  ∀ slot ∈ d.monitor.slots[index]?, slot.connection.state = .kFailed →
    slot.reconnectDue now = true → SocketNew d (answers index)

instance (now : Int) (answers : Nat → SocketAnswers) (d : MonitorFds) (index : Nat) :
    Decidable (TurnNew now answers d index) :=
  inferInstanceAs (Decidable (∀ slot ∈ d.monitor.slots[index]?, slot.connection.state = .kFailed →
    slot.reconnectDue now = true → SocketNew d (answers index)))

/-- The kernel's rule, in every call the step makes. -/
def KernelRule (d : MonitorFds) (s : MonitorStep × (Nat → SocketAnswers)) : Prop :=
  match s.1 with
  | .command (.addFeed endpoint _ _) =>
      endpoint.feedId ∉ d.monitor.indexOfFeedId → SocketNew d (s.2 0)
  | .timerTick now io =>
      Runs.Along (tickFd now io s.2) (TurnNew now s.2) d (List.range d.monitor.slots.length)
  | _ => True

instance (d : MonitorFds) (s : MonitorStep × (Nat → SocketAnswers)) :
    Decidable (KernelRule d s) :=
  match s with
  | (.command (.addFeed endpoint _ _), answers) =>
      inferInstanceAs (Decidable (endpoint.feedId ∉ d.monitor.indexOfFeedId →
        SocketNew d (answers 0)))
  | (.timerTick now io, answers) => inferInstanceAs (Decidable (Runs.Along (tickFd now io answers)
      (TurnNew now answers) d (List.range d.monitor.slots.length)))
  | (.command (.removeFeed _), _) => isTrue trivial
  | (.command (.forceDisconnect _ _ _), _) => isTrue trivial
  | (.command (.forceReconnect _), _) => isTrue trivial
  | (.command (.setHeartbeatInterval _), _) => isTrue trivial
  | (.command (.setHeartbeatTimeout _ _), _) => isTrue trivial
  | (.command (.setCommandInput _), _) => isTrue trivial
  | (.connectionEvent _ _ _ _, _) => isTrue trivial

/-! ## The invariant -/

/-- The slots own their sockets: every handle holds the fd of its connection,
and beside the descriptors in `base` nothing else is open. -/
structure Owned (base : List Int) (d : MonitorFds) : Prop where
  listed : d.monitor.Listed
  handles : d.fds.map UniqueFd.fd = d.monitor.slots.map (·.connection.fd)
  accounts : Accounts d.table (d.fds.map UniqueFd.fd ++ base)

variable {base : List Int} {d : MonitorFds}

theorem createAndConnectSocket_none {answers : SocketAnswers} {held : List Int}
    (h : Accounts d.table held) (hnew : SocketNew d answers) (hnone : answers.returned = none) :
    (createAndConnectSocket answers d.table).1 = none ∧
      Accounts (createAndConnectSocket answers d.table).2 held := by
  unfold SocketAnswers.returned at hnone
  unfold createAndConnectSocket
  cases hs : answers.socket with
  | none => exact ⟨rfl, h⟩
  | some fd =>
      rw [hs] at hnone
      by_cases hhost : answers.hostValid = true
      · rw [if_pos hhost] at hnone
        cases hnone
      · simp only [if_neg hhost]
        exact ⟨trivial, h.opens_close (hnew fd hs)⟩

theorem createAndConnectSocket_some {answers : SocketAnswers} {fd : Nat}
    (hsome : answers.returned = some fd) :
    createAndConnectSocket answers d.table = (some fd, d.table.opens fd) ∧
      answers.socket = some fd := by
  unfold SocketAnswers.returned at hsome
  by_cases hhost : answers.hostValid = true
  · rw [if_pos hhost] at hsome
    refine ⟨?_, hsome⟩
    unfold createAndConnectSocket
    rw [hsome]
    exact if_pos hhost
  · rw [if_neg hhost] at hsome
    cases hsome

theorem Owned.fd_nonneg (h : Owned base d) {handle : UniqueFd} (hmem : handle ∈ d.fds) :
    0 ≤ handle.fd := by
  have hmem' : handle.fd ∈ d.monitor.slots.map (·.connection.fd) := by
    rw [← h.handles]
    exact List.mem_map_of_mem hmem
  obtain ⟨slot, hslot, heq⟩ := List.mem_map.mp hmem'
  rw [← heq]
  exact (h.listed.sound slot hslot).fd

/-- A handle that holds an fd closes it when it lets go. -/
theorem reset_table {handle : UniqueFd} (hfd : 0 ≤ handle.fd) {newFd : Int}
    (hne : handle.fd ≠ newFd) (table : Table) :
    (handle.reset newFd table).2 = table.close handle.fd :=
  if_pos ⟨hfd, hne⟩

theorem destroy_table {handle : UniqueFd} (hfd : 0 ≤ handle.fd) (table : Table) :
    handle.destroy table = table.close handle.fd :=
  reset_table hfd (by omega) table

/-! ## One step -/

/-- **Swap-and-pop, on the handles.**  Whichever handle is moved into the gap,
exactly the removed fd is closed. -/
theorem removeFdAt_eq (h : Owned base d) {i : Nat} {target : UniqueFd}
    (hx : d.fds[i]? = some target) :
    d.removeFdAt i = (FlatIndex.swapRemove d.fds i, d.table.close target.fd) := by
  obtain ⟨hlt, _⟩ := List.getElem?_eq_some_iff.mp hx
  have hne : d.fds ≠ [] := by
    intro hnil
    simp [hnil] at hlt
  obtain ⟨last, hlast⟩ : ∃ last, d.fds.getLast? = some last :=
    ⟨_, List.getLast?_eq_some_getLast hne⟩
  have hend : d.fds[d.fds.length - 1]? = some last := by
    rw [← List.getLast?_eq_getElem?, hlast]
  have hfd : 0 ≤ target.fd := h.fd_nonneg (List.mem_of_getElem? hx)
  simp only [removeFdAt, hx, hlast, FlatIndex.swapRemove]
  by_cases hi : i = d.fds.length - 1
  · subst hi
    rw [hx] at hend
    cases hend
    rw [if_neg (by simp), destroy_table hfd]
    obtain ⟨_, hset⟩ := List.getElem?_eq_some_iff.mp hx
    have hself : d.fds.set (d.fds.length - 1) target = d.fds := by
      conv_lhs => rw [← hset]
      exact List.set_getElem_self hlt
    rw [hself]
  · rw [if_pos hi]
    have hnodup : (d.fds.map UniqueFd.fd).Nodup := h.accounts.held_nodup.of_append_left
    have hother : target.fd ≠ last.fd := by
      intro heq
      have hi' : (d.fds.map UniqueFd.fd)[i]? = some target.fd := by rw [List.getElem?_map, hx]; rfl
      have hend' : (d.fds.map UniqueFd.fd)[d.fds.length - 1]? = some target.fd := by
        rw [List.getElem?_map, hend, heq]
        rfl
      exact hi ((List.getElem?_inj (by simpa using hlt) hnodup).mp (hi'.trans hend'.symm))
    exact Prod.ext rfl (reset_table hfd hother d.table)

theorem map_swapRemove {α β : Type} (f : α → β) (xs : List α) (i : Nat) :
    (FlatIndex.swapRemove xs i).map f = FlatIndex.swapRemove (xs.map f) i := by
  rw [FlatIndex.swapRemove, FlatIndex.swapRemove, List.getLast?_map]
  cases xs.getLast? with
  | none => rfl
  | some last => simp only [Option.map_some, List.map_dropLast, List.map_set]

/-- The held fds, one of them in front. -/
theorem held_perm {fds : List UniqueFd} {i : Nat} {handle : UniqueFd} (hx : fds[i]? = some handle) :
    (fds.map UniqueFd.fd).Perm (handle.fd :: (fds.eraseIdx i).map UniqueFd.fd) := by
  obtain ⟨hlt, rfl⟩ := List.getElem?_eq_some_iff.mp hx
  exact ((List.getElem_cons_eraseIdx_perm hlt).map UniqueFd.fd).symm

theorem Owned.addFeed (h : Owned base d) (endpoint : FeedEndpoint) (answers : SocketAnswers)
    (now : Int) (hnew : endpoint.feedId ∉ d.monitor.indexOfFeedId → SocketNew d answers) :
    Owned base (d.addFeed endpoint answers now) := by
  unfold MonitorFds.addFeed
  split
  · exact h
  · next hunlisted =>
      have hlisted : (d.monitor.addFeed endpoint answers.returned now).2.Listed :=
        FeedMonitor.step_listed h.listed (.command (.addFeed endpoint answers.returned now))
      cases hreturned : answers.returned with
      | none =>
          obtain ⟨hnone, haccounts⟩ :=
            createAndConnectSocket_none h.accounts (hnew hunlisted) hreturned
          generalize createAndConnectSocket answers d.table = created at hnone haccounts
          obtain ⟨socket, table⟩ := created
          obtain rfl : socket = none := hnone
          have hsame : (d.monitor.addFeed endpoint none now).2 = d.monitor := by
            rw [FeedMonitor.addFeed, if_neg hunlisted]
          dsimp only
          rw [hsame]
          exact ⟨h.listed, h.handles, haccounts⟩
      | some fd =>
          obtain ⟨hcreated, hsocket⟩ := createAndConnectSocket_some (d := d) hreturned
          rw [hcreated]
          rw [hreturned] at hlisted
          have hslots : (d.monitor.addFeed endpoint (some fd) now).2.slots =
              d.monitor.slots ++ [d.monitor.newSlot endpoint fd now] := by
            rw [FeedMonitor.addFeed, if_neg hunlisted]
            rfl
          refine ⟨hlisted, ?_, ?_⟩
          · show (d.fds ++ [(⟨fd⟩ : UniqueFd)]).map UniqueFd.fd = _
            rw [hslots, List.map_append, List.map_append, h.handles]
            rfl
          · show Accounts (d.table.opens fd) ((d.fds ++ [(⟨fd⟩ : UniqueFd)]).map UniqueFd.fd ++ base)
            refine (h.accounts.opens (hnew hunlisted fd hsocket)).of_perm ?_
            rw [List.map_append, List.append_assoc]
            exact List.perm_middle.symm

theorem Owned.removeFeed (h : Owned base d) (feedId : BitVec 32) :
    Owned base (d.removeFeed feedId) := by
  have hlisted := FeedMonitor.step_listed h.listed (.command (.removeFeed feedId))
  rw [FeedMonitor.step, FeedMonitor.command, FeedMonitor.removeFeed] at hlisted
  unfold MonitorFds.removeFeed
  cases hlookup : d.monitor.indexOfFeedId.lookup feedId with
  | none => exact h
  | some index =>
      rw [hlookup] at hlisted
      obtain ⟨slot, hx, _⟩ := (h.listed.feedIndex feedId index).mp hlookup
      obtain ⟨hlt, _⟩ := List.getElem?_eq_some_iff.mp hx
      have hlen : d.fds.length = d.monitor.slots.length := by
        simpa using congrArg List.length h.handles
      have htarget : d.fds[index]? = some d.fds[index] := List.getElem?_eq_getElem (by omega)
      have hslots : (d.monitor.removeSlotAt index).slots =
          FlatIndex.swapRemove d.monitor.slots index := by
        rw [FeedMonitor.removeSlotAt_eq h.listed.sound hx]
      dsimp only
      rw [removeFdAt_eq h htarget]
      refine ⟨hlisted, ?_, ?_⟩
      · rw [hslots, map_swapRemove, map_swapRemove, h.handles]
      · have hheld := h.accounts.of_perm ((held_perm htarget).append_right base)
        have hleft : (FlatIndex.swapRemove d.fds index).Perm (d.fds.eraseIdx index) :=
          FlatIndex.swapRemove_perm (by omega)
        exact (Accounts.close hheld).of_perm ((hleft.map UniqueFd.fd).symm.append_right base)

/-- The fd of a slot after a turn of the tick. -/
theorem ticked_fd (slot : Slot) (cfg : Config) (now : Int) (io : SlotIo) :
    (slot.ticked cfg now io).connection.fd =
      if slot.connection.state = .kFailed ∧ slot.reconnectDue now = true then
        io.socket.elim slot.connection.fd (fun fd => (fd : Int))
      else slot.connection.fd := by
  have hchecked : ∀ s : Slot, (s.checked cfg now io).connection.fd = s.connection.fd :=
    fun s => congrArg Prod.fst (Slot.checked_place s cfg now io)
  have hpinged : (slot.pingIfDue cfg now io).connection.fd = slot.connection.fd :=
    congrArg Prod.fst (Slot.pingIfDue_place slot cfg now io)
  unfold Slot.ticked
  cases hs : slot.connection.state with
  | kFailed =>
      dsimp only
      by_cases hdue : slot.reconnectDue now = true
      · rw [if_pos hdue, if_pos ⟨rfl, hdue⟩]
        unfold Slot.reconnected
        cases io.socket with
        | some fd => rfl
        | none => exact congrArg Connection.fd (Slot.scheduleReconnect_connection _ cfg now io.jitter)
      · rw [if_neg hdue, if_neg (fun hboth => hdue hboth.2)]
  | kHealthy => simp [hchecked, hpinged]
  | kDegraded => simp [hchecked, hpinged]
  | kConnecting => simp [hchecked]
  | kHandshaking => simp [hchecked]
  | kDisconnected => simp
  | kReconnecting => simp

/-- `initiate_connect` on the handles: the old fd goes if there is a new one. -/
theorem Owned.reconnectFd (h : Owned base d) {i : Nat} {handle : UniqueFd}
    (hx : d.fds[i]? = some handle) {answers : SocketAnswers} (hnew : SocketNew d answers) :
    (d.reconnectFd i answers).1.map UniqueFd.fd =
        (d.fds.map UniqueFd.fd).set i (answers.returned.elim handle.fd (fun fd => (fd : Int))) ∧
      Accounts (d.reconnectFd i answers).2
        ((d.reconnectFd i answers).1.map UniqueFd.fd ++ base) := by
  obtain ⟨hlt, hget⟩ := List.getElem?_eq_some_iff.mp hx
  have hself : (d.fds.map UniqueFd.fd).set i handle.fd = d.fds.map UniqueFd.fd := by
    rw [← hget, ← List.map_set, List.set_getElem_self]
  cases hreturned : answers.returned with
  | none =>
      obtain ⟨hnone, haccounts⟩ := createAndConnectSocket_none h.accounts hnew hreturned
      unfold MonitorFds.reconnectFd
      generalize createAndConnectSocket answers d.table = created at hnone haccounts
      obtain ⟨socket, table⟩ := created
      obtain rfl : socket = none := hnone
      exact ⟨hself.symm, haccounts⟩
  | some fd =>
      obtain ⟨hcreated, hsocket⟩ := createAndConnectSocket_some (d := d) hreturned
      have hheld := h.accounts.of_perm ((held_perm hx).append_right base)
      have hfresh : (fd : Int) ∉ d.table.opened := hnew fd hsocket
      have hne : handle.fd ≠ (fd : Int) := by
        intro heq
        apply hfresh
        rw [← heq]
        exact hheld.perm.mem_iff.mpr List.mem_cons_self
      have htable : (handle.reset fd (d.table.opens fd)).2 = (d.table.opens fd).close handle.fd :=
        reset_table (h.fd_nonneg (List.mem_of_getElem? hx)) hne _
      unfold MonitorFds.reconnectFd
      simp only [hcreated, hx]
      rw [htable]
      refine ⟨List.map_set, (hheld.trade hfresh).of_perm ?_⟩
      have hset := (List.set_perm_cons_eraseIdx hlt (handle.reset fd (d.table.opens fd)).1).map
        UniqueFd.fd
      exact (hset.append_right base).symm

theorem Owned.tickFd (h : Owned base d) (now : Int) (io : Nat → SlotIo)
    (answers : Nat → SocketAnswers) (i : Nat) (hlisted : (FeedMonitor.tickSlot now
      (turnIo io answers) d.monitor i).Listed) (hnew : TurnNew now answers d i) :
    Owned base (tickFd now io answers d i) := by
  unfold MonitorFds.tickFd
  cases hx : d.monitor.slots[i]? with
  | none =>
      have hsame : FeedMonitor.tickSlot now (turnIo io answers) d.monitor i = d.monitor := by
        rw [FeedMonitor.tickSlot, hx]
      dsimp only
      rw [hsame]
      exact h
  | some slot =>
      obtain ⟨hlt, hget⟩ := List.getElem?_eq_some_iff.mp hx
      have hsound := h.listed.sound.at hx
      have hslots := (FeedMonitor.tickSlot_edit now (turnIo io answers) hx hsound.fd
        hsound.role).slots_eq
      have hfd := ticked_fd slot d.monitor.config now (turnIo io answers i)
      dsimp only
      split
      · next hdue =>
          rw [if_pos hdue] at hfd
          have hlen : d.fds.length = d.monitor.slots.length := by
            simpa using congrArg List.length h.handles
          have hhandle : d.fds[i]? = some d.fds[i] := List.getElem?_eq_getElem (by omega)
          have hsame : d.fds[i].fd = slot.connection.fd := by
            have hboth := congrArg (fun l => l[i]?) h.handles
            simpa [hhandle, hx] using hboth
          obtain ⟨hfds, haccounts⟩ := h.reconnectFd hhandle (hnew slot hx hdue.1 hdue.2)
          refine ⟨hlisted, ?_, haccounts⟩
          show (d.reconnectFd i (answers i)).1.map UniqueFd.fd = _
          rw [hfds, hslots, List.map_set, hfd, h.handles, hsame]
          rfl
      · next hidle =>
          rw [if_neg hidle] at hfd
          refine ⟨hlisted, ?_, h.accounts⟩
          rw [hslots, FeedMonitor.map_set_same hx hfd]
          exact h.handles

theorem tickSlot_listed {m : FeedMonitor} (h : m.Listed) (now : Int) (io : Nat → SlotIo) (i : Nat) :
    (FeedMonitor.tickSlot now io m i).Listed := by
  cases hx : m.slots[i]? with
  | none =>
      have hsame : FeedMonitor.tickSlot now io m i = m := by rw [FeedMonitor.tickSlot, hx]
      rw [hsame]
      exact h
  | some slot =>
      have hslot := h.sound.at hx
      have hedit := FeedMonitor.tickSlot_edit now io hx hslot.fd hslot.role
      refine h.inPlace ?_ (hedit.inPlace hx (Slot.ticked_sameness slot m.config now (io i)))
      intro slot' hmem
      rw [hedit.slots_eq] at hmem
      rcases List.mem_or_eq_of_mem_set hmem with hm | rfl
      · exact h.sound slot' hm
      · exact hslot.ticked m.config now (io i)

theorem tickFd_monitor (now : Int) (io : Nat → SlotIo) (answers : Nat → SocketAnswers)
    (d : MonitorFds) (i : Nat) : (tickFd now io answers d i).monitor =
      FeedMonitor.tickSlot now (turnIo io answers) d.monitor i := by
  unfold tickFd
  dsimp only
  split
  · rfl
  · split <;> rfl

theorem onTimerTick_monitor (d : MonitorFds) (now : Int) (io : Nat → SlotIo)
    (answers : Nat → SocketAnswers) :
    (d.onTimerTick now io answers).monitor = d.monitor.onTimerTick now (turnIo io answers) := by
  have hturns : ∀ (is : List Nat) (d : MonitorFds), (is.foldl (tickFd now io answers) d).monitor =
      is.foldl (FeedMonitor.tickSlot now (turnIo io answers)) d.monitor := by
    intro is
    induction is with
    | nil => exact fun _ => rfl
    | cons i is ih =>
        intro d
        rw [List.foldl_cons, ih, tickFd_monitor]
        rfl
  exact hturns _ d

theorem Owned.onTimerTick (h : Owned base d) (now : Int) (io : Nat → SlotIo)
    (answers : Nat → SocketAnswers) (hnew : Runs.Along (MonitorFds.tickFd now io answers)
      (TurnNew now answers) d (List.range d.monitor.slots.length)) :
    Owned base (d.onTimerTick now io answers) :=
  Runs.invariant (I := Owned base)
    (fun _ i hmid hturn => hmid.tickFd now io answers i (tickSlot_listed hmid.listed now _ i) hturn)
    h hnew

/-- The operations that touch no handle leave every slot its fd. -/
theorem quiet_fds {m : FeedMonitor} (h : m.Listed) {s : MonitorStep}
    (hadd : ∀ endpoint socket now, s ≠ .command (.addFeed endpoint socket now))
    (hremove : ∀ feedId, s ≠ .command (.removeFeed feedId))
    (htick : ∀ now io, s ≠ .timerTick now io) :
    (m.step s).slots.map (·.connection.fd) = m.slots.map (·.connection.fd) := by
  cases s with
  | timerTick now io => exact absurd rfl (htick now io)
  | connectionEvent fd events now io =>
      simp only [FeedMonitor.step]
      split
      · rfl
      · next index _ =>
          cases hx : m.slots[index]? with
          | none => rw [FeedMonitor.handleConnectionEvent_none events now io hx]
          | some slot =>
              have hedit := FeedMonitor.handleConnectionEvent_edit events now io hx
                (h.sound.at hx).fd
              rw [hedit.slots_eq]
              exact FeedMonitor.map_set_same hx
                (congrArg Prod.fst (Slot.handled_place slot m.config events now io))
  | command c =>
      have hresult := FeedMonitor.command_result h.sound c
      show (m.command c).slots.map _ = _
      generalize m.command c = result at hresult ⊢
      cases hresult with
      | idle => rfl
      | added endpoint fd now => exact absurd rfl (hadd endpoint (some fd) now)
      | removed feedId => exact absurd rfl (hremove feedId)
      | disconnected feedId now io i slot hlookup hx =>
          exact FeedMonitor.map_set_same hx
            (congrArg Prod.fst (Slot.disconnected_place slot m.config now io))
      | renewed feedId i slot hlookup hx => exact FeedMonitor.map_set_same hx rfl
      | intervalSet interval => rfl
      | timeoutSet timeout now =>
          rw [FeedMonitor.setHeartbeatTimeout, List.map_map]
          rfl
      | inputSet fd => rfl

theorem Owned.quiet (h : Owned base d) {s : MonitorStep}
    (hadd : ∀ endpoint socket now, s ≠ .command (.addFeed endpoint socket now))
    (hremove : ∀ feedId, s ≠ .command (.removeFeed feedId))
    (htick : ∀ now io, s ≠ .timerTick now io) :
    Owned base { d with monitor := d.monitor.step s } :=
  ⟨FeedMonitor.step_listed h.listed s, h.handles.trans (quiet_fds h.listed hadd hremove htick).symm,
    h.accounts⟩

/-- **One step.** -/
theorem step_owned (base : List Int) (d : MonitorFds) (s : MonitorStep × (Nat → SocketAnswers))
    (h : Owned base d) (hkernel : KernelRule d s) : Owned base (d.step s) := by
  obtain ⟨s, answers⟩ := s
  cases s with
  | timerTick now io => exact h.onTimerTick now io answers hkernel
  | connectionEvent fd events now io => exact h.quiet (by nofun) (by nofun) (by nofun)
  | command c =>
      cases c with
      | addFeed endpoint socket now => exact h.addFeed endpoint (answers 0) now hkernel
      | removeFeed feedId => exact h.removeFeed feedId
      | _ => exact h.quiet (by nofun) (by nofun) (by nofun)

theorem createAndConnectSocket_fst (answers : SocketAnswers) (table : Table) :
    (createAndConnectSocket answers table).1 = answers.returned := by
  unfold createAndConnectSocket SocketAnswers.returned
  cases answers.socket with
  | none => exact (ite_self none).symm
  | some fd =>
      dsimp only
      split <;> rfl

/-- **Refinement.**  The monitor beside the handles is the monitor. -/
theorem step_monitor (d : MonitorFds) (s : MonitorStep × (Nat → SocketAnswers)) :
    (d.step s).monitor = d.monitor.step (resolved s) := by
  obtain ⟨s, answers⟩ := s
  cases s with
  | timerTick now io => exact onTimerTick_monitor d now io answers
  | connectionEvent fd events now io => rfl
  | command c =>
      cases c with
      | addFeed endpoint socket now =>
          show (d.addFeed endpoint (answers 0) now).monitor =
            (d.monitor.addFeed endpoint (answers 0).returned now).2
          have hreturned := createAndConnectSocket_fst (answers 0) d.table
          unfold MonitorFds.addFeed
          split
          · next hlisted =>
              unfold FeedMonitor.addFeed
              rw [if_pos hlisted]
          · rw [← hreturned]
            generalize createAndConnectSocket (answers 0) d.table = created
            obtain ⟨socket, table⟩ := created
            cases socket <;> rfl
      | removeFeed feedId =>
          show (d.removeFeed feedId).monitor = d.monitor.removeFeed feedId
          rw [MonitorFds.removeFeed, FeedMonitor.removeFeed]
          cases d.monitor.indexOfFeedId.lookup feedId <;> rfl
      | _ => rfl

/-! ## Every run -/

/-- A new monitor; `base` are the descriptors that the process has open. -/
def start (config : Config) (timerFd wakeFd : Int) (base : List Int) : MonitorFds where
  monitor := .create config timerFd wakeFd
  table := { opened := base }

theorem start_owned (config : Config) (timerFd wakeFd : Int) (hbase : base.Nodup) :
    Owned base (start config timerFd wakeFd base) where
  listed := FeedMonitor.listed_create config timerFd wakeFd
  handles := rfl
  accounts := ⟨List.Perm.refl base, hbase, rfl⟩

theorem run_monitor (d : MonitorFds) (steps : List (MonitorStep × (Nat → SocketAnswers))) :
    (steps.foldl step d).monitor = (steps.map resolved).foldl FeedMonitor.step d.monitor := by
  induction steps generalizing d with
  | nil => rfl
  | cons s steps ih =>
      rw [List.foldl_cons, ih, step_monitor, List.map_cons]
      rfl

/-- The destructor closes exactly what the slots hold. -/
theorem Owned.destroyed (h : Owned base d) : Accounts d.destroy base := by
  have hclose : d.destroy = (d.fds.map UniqueFd.fd).foldl Table.close d.table := by
    rw [destroy, List.foldl_map]
    exact List.foldl_ext _ _ _ fun table handle hmem => destroy_table (h.fd_nonneg hmem) table
  rw [hclose]
  exact Accounts.close_all h.accounts

/-- **No socket leaks.**  However feeds are added, removed, disconnected and
reconnected: no close ever names a descriptor that is not open, every open one
is one of `base` or the fd of exactly one slot, and destroying the monitor
leaves just `base`. -/
theorem sockets_owned (config : Config) (timerFd wakeFd : Int) (base : List Int)
    (steps : List (MonitorStep × (Nat → SocketAnswers))) (hbase : base.Nodup)
    (hkernel : Runs.Along step KernelRule (start config timerFd wakeFd base) steps) :
    let d := steps.foldl step (start config timerFd wakeFd base)
    d.monitor = (steps.map resolved).foldl FeedMonitor.step (.create config timerFd wakeFd) ∧
      d.table.badCloses = 0 ∧ d.table.opened.Nodup ∧
      d.table.opened.Perm (d.monitor.slots.map (·.connection.fd) ++ base) ∧
      d.destroy.badCloses = 0 ∧ d.destroy.opened.Perm base := by
  intro d
  have hend : Owned base d := Runs.invariant (fun d s h hok => step_owned base d s h hok)
    (start_owned config timerFd wakeFd hbase) hkernel
  have hperm := hend.accounts.perm
  rw [hend.handles] at hperm
  exact ⟨run_monitor _ steps, hend.accounts.clean, hend.accounts.nodup, hperm,
    hend.destroyed.clean, hend.destroyed.perm⟩

/-- Feed 7 is added and removed while feed 8, whose host name is no address,
is refused; feed 9 fails and gets a new socket, on the number of the old one of
feed 7. -/
def socketsComeAndGo : List (MonitorStep × (Nat → SocketAnswers)) :=
  [(.command (.addFeed { feedId := 7, name := "alpha", host := "127.0.0.1", port := 9000 } none 0),
      fun _ => { socket := some 5 }),
    (.command (.addFeed { feedId := 8, name := "beta", host := "localhost", port := 9001 } none 0),
      fun _ => { socket := some 6, hostValid := false }),
    (.command (.addFeed { feedId := 9, name := "gamma", host := "127.0.0.1", port := 9002 } none 0),
      fun _ => { socket := some 6 }),
    (.command (.removeFeed 7), fun _ => {}),
    (.command (.forceDisconnect 9 1 {}), fun _ => {}),
    (.timerTick 10000000000 fun _ => {}, fun _ => { socket := some 5 })]

/-- In the end feed 9 holds 5, and 6 is closed. -/
theorem sockets_owned_come_and_go :
    ((socketsComeAndGo.foldl step (start {} 3 4 [0, 1, 2, 3, 4])).monitor.slots.map
      (·.connection.fd) = [5]) ∧
    (socketsComeAndGo.foldl step (start {} 3 4 [0, 1, 2, 3, 4])).table.badCloses = 0 :=
  ⟨by decide +kernel,
    (sockets_owned {} 3 4 [0, 1, 2, 3, 4] socketsComeAndGo (by decide) (by decide +kernel)).2.1⟩

/-! ## What the fd map relies on -/

/-- The reactor's own descriptors are among those the process keeps open. -/
structure Internal (base : List Int) (m : FeedMonitor) : Prop where
  timer : m.timerFd ∈ base
  wake : m.wakeFd ∈ base
  command : m.commandFd = -1 ∨ m.commandFd ∈ base

/-- The command fd is one that the process keeps open. -/
def CommandFdKept (base : List Int) (s : MonitorStep) : Prop :=
  ∀ fd, s = .command (.setCommandInput fd) → fd ∈ base

theorem Internal.surroundings {m m' : FeedMonitor} (h : Internal base m)
    (heq : m'.surroundings = m.surroundings) : Internal base m' := by
  have htimer : m'.timerFd = m.timerFd := congrArg (fun s => s.2.1) heq
  have hwake : m'.wakeFd = m.wakeFd := congrArg (fun s => s.2.2.1) heq
  have hcommand : m'.commandFd = m.commandFd := congrArg (fun s => s.2.2.2.1) heq
  exact ⟨htimer ▸ h.timer, hwake ▸ h.wake, hcommand ▸ h.command⟩

theorem Internal.step {m : FeedMonitor} (h : Internal base m) (hsound : m.Sound) (s : MonitorStep)
    (hkept : CommandFdKept base s) : Internal base (m.step s) := by
  cases s with
  | timerTick now io =>
      exact h.surroundings (FeedMonitor.tick_turns hsound now io m.slots.length).1
  | connectionEvent fd events now io =>
      simp only [FeedMonitor.step]
      split
      · exact h
      · next index _ =>
          cases hx : m.slots[index]? with
          | none =>
              rw [FeedMonitor.handleConnectionEvent_none events now io hx]
              exact h
          | some slot =>
              exact h.surroundings (FeedMonitor.handleConnectionEvent_edit events now io hx
                (hsound.at hx).fd).surroundings_eq
  | command c =>
      have hresult := FeedMonitor.command_result hsound c
      show Internal base (m.command c)
      generalize m.command c = result at hresult ⊢
      cases hresult with
      | removed feedId i slot hlookup hx =>
          rw [FeedMonitor.removeSlotAt_eq hsound hx]
          exact ⟨h.timer, h.wake, h.command⟩
      | inputSet fd => exact ⟨h.timer, h.wake, Or.inr (hkept fd rfl)⟩
      | _ => exact ⟨h.timer, h.wake, h.command⟩

/-- What `socket()` returns is no descriptor that the monitor knows. -/
theorem Owned.newSocket (h : Owned base d) (hinternal : Internal base d.monitor)
    {answers : SocketAnswers} {fd : Nat} (hnew : SocketNew d answers)
    (hreturned : answers.returned = some fd) : FeedMonitor.NewSocket d.monitor fd := by
  have hfresh := hnew fd (createAndConnectSocket_some (d := d) hreturned).2
  have hbase : ∀ other ∈ base, (fd : Int) ≠ other := by
    rintro other hother rfl
    exact hfresh (h.accounts.perm.mem_iff.mpr (List.mem_append_right _ hother))
  refine ⟨hbase _ hinternal.timer, hbase _ hinternal.wake, ?_, ?_⟩
  · rcases hinternal.command with hnone | hopen
    · omega
    · exact hbase _ hopen
  · intro slot hslot heq
    apply hfresh
    rw [h.accounts.perm.mem_iff, h.handles, ← heq]
    exact List.mem_append_left _ (List.mem_map_of_mem hslot)

theorem turns_new (now : Int) (io : Nat → SlotIo) (answers : Nat → SocketAnswers) (is : List Nat)
    (h : Owned base d) (hinternal : Internal base d.monitor)
    (hturns : Runs.Along (tickFd now io answers) (TurnNew now answers) d is) :
    Runs.Along (FeedMonitor.tickSlot now (turnIo io answers))
      (FeedMonitor.TurnSocketNew now (turnIo io answers)) d.monitor is := by
  induction is generalizing d with
  | nil => trivial
  | cons i is ih =>
      have hlisted := tickSlot_listed h.listed now (turnIo io answers) i
      have hmonitor := tickFd_monitor now io answers d i
      have hsame : (FeedMonitor.tickSlot now (turnIo io answers) d.monitor i).surroundings =
          d.monitor.surroundings := by
        cases hx : d.monitor.slots[i]? with
        | none => rw [FeedMonitor.tickSlot, hx]
        | some slot =>
            exact (FeedMonitor.tickSlot_edit now (turnIo io answers) hx (h.listed.sound.at hx).fd
              (h.listed.sound.at hx).role).surroundings_eq
      refine ⟨?_, ?_⟩
      · intro slot fd hx hfailed hdue hsocket
        exact h.newSocket hinternal (hturns.1 slot hx hfailed hdue) hsocket
      · rw [← hmonitor]
        refine ih (h.tickFd now io answers i hlisted hturns.1) ?_ hturns.2
        rw [hmonitor]
        exact hinternal.surroundings hsame

/-- **New sockets.**  From the kernel's rule alone, every socket that a run
creates has a number that no other descriptor of the monitor has. -/
theorem sockets_new (config : Config) (timerFd wakeFd : Int) (base : List Int)
    (steps : List (MonitorStep × (Nat → SocketAnswers))) (hbase : base.Nodup)
    (htimer : timerFd ∈ base) (hwake : wakeFd ∈ base)
    (hcommands : ∀ s ∈ steps, CommandFdKept base (resolved s))
    (hkernel : Runs.Along step KernelRule (start config timerFd wakeFd base) steps) :
    Runs.Along FeedMonitor.step FeedMonitor.SocketsNew (.create config timerFd wakeFd)
      (steps.map resolved) := by
  have hgeneral : ∀ (steps : List (MonitorStep × (Nat → SocketAnswers))) (d : MonitorFds),
      Owned base d → Internal base d.monitor →
      (∀ s ∈ steps, CommandFdKept base (resolved s)) → Runs.Along step KernelRule d steps →
      Runs.Along FeedMonitor.step FeedMonitor.SocketsNew d.monitor (steps.map resolved) := by
    intro steps
    induction steps with
    | nil => exact fun _ _ _ _ _ => trivial
    | cons s steps ih =>
        intro d hd hinternal hkept hrun
        have hnext := ih (d.step s) (step_owned base d s hd hrun.1)
          (by
            rw [step_monitor]
            exact hinternal.step hd.listed.sound _ (hkept s List.mem_cons_self))
          (fun s' hs' => hkept s' (List.mem_cons_of_mem s hs')) hrun.2
        rw [step_monitor] at hnext
        refine ⟨?_, hnext⟩
        obtain ⟨s, answers⟩ := s
        have hrule := hrun.1
        cases s with
        | timerTick now io => exact turns_new now io answers _ hd hinternal hrule
        | connectionEvent fd events now io => trivial
        | command c =>
            cases c with
            | addFeed endpoint socket now =>
                show FeedMonitor.SocketsNew d.monitor
                  (.command (.addFeed endpoint (answers 0).returned now))
                cases hreturned : (answers 0).returned with
                | none => trivial
                | some fd => exact fun hnew => hd.newSocket hinternal (hrule hnew) hreturned
            | _ => trivial
  exact hgeneral steps _ (start_owned config timerFd wakeFd hbase) ⟨htimer, hwake, Or.inl rfl⟩
    hcommands hkernel

theorem sockets_new_come_and_go : Runs.Along FeedMonitor.step FeedMonitor.SocketsNew
    (.create {} 3 4) (socketsComeAndGo.map resolved) := by
  refine sockets_new {} 3 4 [0, 1, 2, 3, 4] socketsComeAndGo (by decide) (by decide) (by decide) ?_
    (by decide +kernel)
  -- no step sets a command fd
  intro s hs fd hset
  simp only [socketsComeAndGo, List.mem_cons, List.not_mem_nil, or_false] at hs
  rcases hs with rfl | rfl | rfl | rfl | rfl | rfl <;> cases hset

end MonitorFds

end Vigil
