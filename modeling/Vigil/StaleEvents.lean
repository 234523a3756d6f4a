import Vigil.FdIndex
import Vigil.MonitorBatches
import Vigil.Ownership
import Vigil.SimulatorSteps

/-!
# Events that outlive their connection

Both reactors find the connection of an event by its fd.  While a batch is
dispatched, a connection can be closed and its number given to a new socket
(by `accept`, `add_feed` or a reconnect); an event of the batch that was
reported for the old connection is then handled by the new one
(`stale_event_misrouted`).  The check for stale events only covers numbers
that nobody has.

`no_stale_event` is about the runs in which no event carries a number that was
given to a new socket earlier in its batch.
-/

namespace Vigil

open Ownership

/-! ## The monitor -/

namespace Slot

/-- The number that a turn of the tick puts the slot's connection on. -/
def newFd (slot : Slot) (now : Int) (io : SlotIo) : Option Int :=
  if slot.connection.state = .kFailed ∧ slot.reconnectDue now = true then
    io.socket.map fun fd => (fd : Int)
  else none

theorem newFd_eq_some {slot : Slot} {now : Int} {io : SlotIo} {fd : Int}
    (h : slot.newFd now io = some fd) :
    slot.connection.state = .kFailed ∧ slot.reconnectDue now = true ∧
      ∃ n : Nat, io.socket = some n ∧ fd = n := by
  unfold newFd at h
  split at h
  · next hdue =>
      refine ⟨hdue.1, hdue.2, ?_⟩
      cases hsocket : io.socket with
      | none =>
          rw [hsocket] at h
          cases h
      | some n =>
          rw [hsocket] at h
          exact ⟨n, rfl, (Option.some.inj h).symm⟩
  · cases h

theorem ticked_fd (slot : Slot) (cfg : Config) (now : Int) (io : SlotIo) :
    (slot.ticked cfg now io).connection.fd = slot.connection.fd ∨
      slot.newFd now io = some (slot.ticked cfg now io).connection.fd := by
  have hchecked : ∀ slot : Slot, (slot.checked cfg now io).connection.fd = slot.connection.fd :=
    fun slot => congrArg Prod.fst (checked_place slot cfg now io)
  have hping : (slot.pingIfDue cfg now io).connection.fd = slot.connection.fd :=
    congrArg Prod.fst (pingIfDue_place slot cfg now io)
  unfold ticked
  cases hs : slot.connection.state with
  | kHealthy => exact Or.inl ((hchecked _).trans hping)
  | kDegraded => exact Or.inl ((hchecked _).trans hping)
  | kConnecting => exact Or.inl (hchecked slot)
  | kHandshaking => exact Or.inl (hchecked slot)
  | kFailed =>
      dsimp only
      split
      · next hdue =>
          unfold reconnected
          cases hsocket : io.socket with
          | none =>
              apply Or.inl
              rw [scheduleReconnect_connection]
          | some fd =>
              apply Or.inr
              rw [newFd, if_pos ⟨hs, hdue⟩, hsocket]
              rfl
      · exact Or.inl rfl
  | kDisconnected => exact Or.inl rfl
  | kReconnecting => exact Or.inl rfl

end Slot

namespace FeedMonitor

variable {m : FeedMonitor}

/-- The connection of this object is on `fd`. -/
def Owns (m : FeedMonitor) (fd : Int) (object : Nat) : Prop :=
  ∃ slot ∈ m.slots, slot.connection.fd = fd ∧ slot.history.object = object

/-- The numbers that a step gives to new sockets. -/
def issues (m : FeedMonitor) : MonitorStep → List Int
  | .command (.addFeed endpoint (some fd) _) =>
      if endpoint.feedId ∈ m.indexOfFeedId then [] else [(fd : Int)]
  | .timerTick now io => m.slots.zipIdx.filterMap fun p => p.1.newFd now (io p.2)
  | _ => []

/-- Those that an event of a batch gives to new sockets. -/
def eventIssues (now : Int) (m : FeedMonitor) (e : MonitorEvent) : List Int :=
  issuedAlong step issues m (eventSteps now m e)

theorem step_tracks (h : m.Sound) (s : MonitorStep) : Tracks Owns m (m.issues s) (m.step s) := by
  intro fd object howns
  obtain ⟨slot', hmem, hfd, hobject⟩ := howns
  rcases step_origin h s hmem with ⟨i, slot, hx, hstep⟩ | ⟨endpoint, new, t, rfl, hfeed, rfl⟩
  · have hsame : slot'.history.object = slot.history.object :=
      congrArg Prod.fst (slotStep_sameness hstep)
    have hkept : slot'.connection.fd = slot.connection.fd → fd ∈ m.issues s ∨ m.Owns fd object := by
      intro heq
      exact Or.inr ⟨slot, List.mem_of_getElem? hx, heq.symm.trans hfd, hsame.symm.trans hobject⟩
    cases hstep with
    | kept => exact hkept rfl
    | disconnected feedId now io =>
        exact hkept (congrArg Prod.fst (Slot.disconnected_place slot m.config now io))
    | forcedReconnect => exact hkept rfl
    | rebased timeout now => exact hkept rfl
    | handled _ events now io =>
        exact hkept (congrArg Prod.fst (Slot.handled_place slot m.config events now io))
    | ticked now io =>
        rcases Slot.ticked_fd slot m.config now (io i) with heq | hnew
        · exact hkept heq
        · rw [hfd] at hnew
          exact Or.inl (List.mem_filterMap.mpr
            ⟨(slot, i), List.mem_zipIdx_iff_getElem?.mpr hx, hnew⟩)
  · apply Or.inl
    simp only [issues, if_neg hfeed, List.mem_singleton]
    exact hfd.symm

/-- What is asked of the steps that an event amounts to: new sockets have new
numbers, and no due PING fails its connection. -/
def EventAdmitted (now : Int) (m : FeedMonitor) (e : MonitorEvent) : Prop :=
  Runs.Along step (fun m s => SocketsNew m s ∧ PingsSendable m s) m (eventSteps now m e)

instance (now : Int) (m : FeedMonitor) (e : MonitorEvent) : Decidable (EventAdmitted now m e) :=
  inferInstanceAs (Decidable (Runs.Along ..))

theorem WellFormed.epoll (h : m.WellFormed) (set : EpollSet) (fd : Int) :
    WellFormed { m with epollSet := set, commandFd := fd } :=
  ⟨⟨h.sound, h.feedIndex, h.objects_nodup, h.objects_lt⟩, ⟨h.fdIndex, h.fds_nodup⟩⟩

theorem dispatchEvent_wellFormed (now : Int) (m : FeedMonitor) (e : MonitorEvent)
    (h : m.WellFormed) (hadm : EventAdmitted now m e) : (dispatchEvent now m e).WellFormed := by
  have hsteps : ((eventSteps now m e).foldl step m).WellFormed :=
    Runs.invariant (I := WellFormed) (fun _ s h hok => step_wellFormed h s hok.1 hok.2) h hadm
  obtain ⟨set, fd, heq⟩ := dispatchEvent_eq now m e
  rw [heq]
  exact hsteps.epoll set fd

theorem dispatchEvent_tracks (now : Int) (m : FeedMonitor) (e : MonitorEvent) (h : m.WellFormed)
    (hadm : EventAdmitted now m e) :
    Tracks Owns m (eventIssues now m e) (dispatchEvent now m e) := by
  have hsteps : Tracks Owns m (eventIssues now m e) ((eventSteps now m e).foldl step m) :=
    tracks_run (fun _ s h hok => step_wellFormed h s hok.1 hok.2)
      (fun _ s h _ => step_tracks h.sound s) h hadm
  obtain ⟨set, fd, heq⟩ := dispatchEvent_eq now m e
  rw [heq]
  exact hsteps

theorem owns_iff {fd : Int} {object : Nat} : m.Owns fd object ↔
    (fd, object) ∈ m.slots.map fun slot => (slot.connection.fd, slot.history.object) := by
  simp [Owns]

theorem WellFormed.routed_owns (h : m.WellFormed) {e : MonitorEvent} {slot : Slot}
    (hrouted : m.routed e = some slot) : m.Owns e.fd slot.history.object := by
  obtain ⟨i, hlookup, hx⟩ := routed_eq_some hrouted
  obtain ⟨found, hfound, hkey⟩ := (h.fdIndex e.fd i).mp hlookup
  rw [hx] at hfound
  obtain rfl := Option.some.inj hfound
  exact ⟨slot, List.mem_of_getElem? hx, (liveFd_eq_some hkey).1, rfl⟩

theorem WellFormed.owner_unique (h : m.WellFormed) {fd : Int} {object object' : Nat}
    (ho : m.Owns fd object) (ho' : m.Owns fd object') : object' = object := by
  obtain ⟨slot, hslot, hfd, rfl⟩ := ho
  obtain ⟨slot', hslot', hfd', rfl⟩ := ho'
  have hsame : slot' = slot :=
    List.inj_on_of_nodup_map h.fds_nodup hslot' hslot (hfd'.trans hfd.symm)
  rw [hsame]

/-- Whoever handles an event of the batch, if the fd had an owner when
`epoll_wait` returned, it is that owner. -/
def EventsDelivered (m : FeedMonitor) (b : Batch MonitorEvent) : Prop :=
  Runs.Along (dispatchEvent b.now) (fun mid e => ∀ object slot, m.Owns e.fd object →
    mid.routed e = some slot → slot.history.object = object) m b.events

/-- Every event of the batch is admitted. -/
def BatchAdmitted (m : FeedMonitor) (b : Batch MonitorEvent) : Prop :=
  Runs.Along (dispatchEvent b.now) (EventAdmitted b.now) m b.events

instance (m : FeedMonitor) (b : Batch MonitorEvent) : Decidable (BatchAdmitted m b) :=
  inferInstanceAs (Decidable (Runs.Along ..))

/-- No event of the batch carries a number that the batch has given to a new
socket before. -/
def NumbersKept (m : FeedMonitor) (b : Batch MonitorEvent) : Prop :=
  NoReissue (dispatchEvent b.now) (eventIssues b.now) (·.fd) [] m b.events

instance (m : FeedMonitor) (b : Batch MonitorEvent) : Decidable (NumbersKept m b) :=
  inferInstanceAs (Decidable (NoReissue ..))

theorem eventsDelivered (h : m.WellFormed) (b : Batch MonitorEvent) (hadm : BatchAdmitted m b)
    (hkept : NumbersKept m b) : EventsDelivered m b := by
  have howned := along_owned_from_start (dispatchEvent_wellFormed b.now)
    (dispatchEvent_tracks b.now) h hadm Tracks.refl hkept
  have hinv : Runs.Along (dispatchEvent b.now) (fun mid _ => mid.WellFormed) m b.events :=
    Runs.along_of_invariant (dispatchEvent_wellFormed b.now) (fun _ _ hmid _ => hmid) h hadm
  refine Runs.along_mono ?_ (Runs.along_and hinv howned)
  intro mid e hmid object slot hstart hrouted
  exact h.owner_unique hstart (hmid.2 _ (hmid.1.routed_owns hrouted))

theorem wakeUp_wellFormed (m : FeedMonitor) (b : Batch MonitorEvent) (h : m.WellFormed)
    (hadm : BatchAdmitted m b) : (m.wakeUp b).WellFormed :=
  Runs.invariant (dispatchEvent_wellFormed b.now) h hadm

theorem setup_wellFormed (config : Config) (timerFd wakeFd : Int) (setup : List MonitorCommand)
    (hnew : Runs.Along step SocketsNew (create config timerFd wakeFd) (setup.map .command)) :
    (setup.foldl command (create config timerFd wakeFd)).WellFormed := by
  have hping : Runs.Along step PingsSendable (create config timerFd wakeFd)
      (setup.map .command) := by
    refine Runs.along_of_mem _ fun s hs m => ?_
    obtain ⟨c, _, rfl⟩ := List.mem_map.mp hs
    trivial
  have hrun := run_wellFormed config timerFd wakeFd (setup.map .command) hnew hping
  rwa [List.foldl_map] at hrun

end FeedMonitor

/-! ## The simulator -/

namespace FeedSimulator

variable {s s' : FeedSimulator}

/-- The connection of this object is on `fd`. -/
def Owns (s : FeedSimulator) (fd : Int) (object : Nat) : Prop :=
  ∃ key client, s.clients.lookup key = some client ∧ client.connection.fd = fd ∧
    client.object = object

/-- The client whose connection handles an event, if any does. -/
def routed (s : FeedSimulator) (e : SimulatorEvent) : Option Client :=
  if e.fd = s.wakeFd ∨ e.fd = s.timerFd ∨ e.fd = s.listenFd ∨ e.fd = s.commandFd then none
  else s.clients.lookup e.fd

/-- The numbers that an event of a batch gives to new sockets: those of the
clients it accepts and registers. -/
def eventIssues (s : FeedSimulator) (e : SimulatorEvent) : List Int :=
  if e.fd = s.wakeFd ∨ e.fd = s.timerFd then []
  else if e.fd = s.listenFd then (e.accepted.filter (·.registered)).map fun a => (a.fd : Int)
  else []

/-- Every client is found under the fd of its connection. -/
def Keyed (s : FeedSimulator) : Prop :=
  ∀ fd client, s.clients.lookup fd = some client → client.connection.fd = fd

theorem Keyed.retains (h : s.Keyed) (hr : Retains s s') : s'.Keyed := by
  intro fd client' hlookup
  obtain ⟨client, hbefore, hplace⟩ := hr fd client' hlookup
  exact (congrArg Prod.fst hplace).trans (h fd client hbefore)

theorem Keyed.owns_iff (h : s.Keyed) {fd : Int} {object : Nat} :
    s.Owns fd object ↔ ∃ client, s.clients.lookup fd = some client ∧ client.object = object := by
  constructor
  · intro howns
    obtain ⟨key, client, hlookup, hfd, hobject⟩ := howns
    rw [← hfd, h key client hlookup]
    exact ⟨client, hlookup, hobject⟩
  · intro hfound
    obtain ⟨client, hlookup, hobject⟩ := hfound
    exact ⟨fd, client, hlookup, h fd client hlookup, hobject⟩

theorem Retains.tracks (hr : Retains s s') (issued : List Int) : Tracks Owns s issued s' := by
  intro fd object howns
  obtain ⟨key, client', hlookup, hfd, hobject⟩ := howns
  obtain ⟨client, hbefore, hplace⟩ := hr key client' hlookup
  have hfd' : client'.connection.fd = client.connection.fd := congrArg Prod.fst hplace
  have hobject' : client'.object = client.object := congrArg Prod.snd hplace
  exact Or.inr ⟨key, client, hbefore, hfd'.symm.trans hfd, hobject'.symm.trans hobject⟩

theorem acceptClient_keyed (h : s.Keyed) (a : Accepted) : (s.acceptClient a).Keyed := by
  intro fd client' hlookup
  by_cases hnew : fd = a.fd ∧ a.registered
  · obtain ⟨rfl, hreg⟩ := hnew
    unfold acceptClient at hlookup
    dsimp only at hlookup
    rw [if_pos hreg, AList.lookup_insert] at hlookup
    obtain rfl := Option.some.inj hlookup
    cases hbefore : s.clients.lookup (a.fd : Int) with
    | none => rfl
    | some client => exact h _ client hbefore
  · exact h fd client' (acceptClient_lookup s a (not_and_or.mp hnew) hlookup)

theorem acceptClient_tracks (h : s.Keyed) (a : Accepted) :
    Tracks Owns s (([a].filter (·.registered)).map fun a => (a.fd : Int)) (s.acceptClient a) := by
  intro fd object howns
  obtain ⟨client', hlookup, hobject⟩ := (acceptClient_keyed h a).owns_iff.mp howns
  by_cases hnew : fd = a.fd ∧ a.registered
  · obtain ⟨rfl, hreg⟩ := hnew
    exact Or.inl (by simp [hreg])
  · have hbefore := acceptClient_lookup s a (not_and_or.mp hnew) hlookup
    exact Or.inr (h.owns_iff.mpr ⟨client', hbefore, hobject⟩)

theorem acceptNewConnections_keyed (h : s.Keyed) (accepted : List Accepted) :
    (s.acceptNewConnections accepted).Keyed :=
  List.foldlRecOn accepted acceptClient h fun _ h a _ => acceptClient_keyed h a

theorem acceptNewConnections_tracks (h : s.Keyed) (accepted : List Accepted) :
    Tracks Owns s ((accepted.filter (·.registered)).map fun a => (a.fd : Int))
      (s.acceptNewConnections accepted) := by
  induction accepted generalizing s with
  | nil => exact Tracks.refl
  | cons a rest ih =>
      have htracks := (acceptClient_tracks h a).trans (ih (acceptClient_keyed h a))
      rwa [← List.map_append, ← List.filter_append] at htracks

/-- An event accepts clients or retains those there are. -/
theorem dispatchEvent_cases (now : Int) (s : FeedSimulator) (e : SimulatorEvent) :
    Retains s (dispatchEvent now s e) ∨
      dispatchEvent now s e = s.acceptNewConnections e.accepted ∧
        s.eventIssues e = (e.accepted.filter (·.registered)).map fun a => (a.fd : Int) := by
  have hresult := dispatchEvent_result now s e
  generalize dispatchEvent now s e = result at hresult ⊢
  cases hresult with
  | woken => exact Or.inl (Retains.of_eq rfl)
  | ticked => exact Or.inl (onTimerTick_retains s e.tickNow e.tickIo)
  | accepted hwake htimer hlisten =>
      refine Or.inr ⟨rfl, ?_⟩
      rw [eventIssues, if_neg (not_or.mpr ⟨hwake, htimer⟩), if_pos hlisten]
  | commanded => exact Or.inl (onCommandFdReadable_retains s e.commands e.commandEof)
  | handled => exact Or.inl (handleClientEvent_retains s e.fd e.events now e.io)

theorem dispatchEvent_keyed (now : Int) (s : FeedSimulator) (e : SimulatorEvent) (h : s.Keyed) :
    (dispatchEvent now s e).Keyed := by
  rcases dispatchEvent_cases now s e with hretains | ⟨heq, _⟩
  · exact h.retains hretains
  · rw [heq]
    exact acceptNewConnections_keyed h e.accepted

theorem dispatchEvent_tracks (now : Int) (s : FeedSimulator) (e : SimulatorEvent) (h : s.Keyed) :
    Tracks Owns s (s.eventIssues e) (dispatchEvent now s e) := by
  rcases dispatchEvent_cases now s e with hretains | ⟨heq, hissues⟩
  · exact hretains.tracks _
  · rw [heq, hissues]
    exact acceptNewConnections_tracks h e.accepted

/-- A number that `accept4()` can return: no open fd has it. -/
structure NewSocket (s : FeedSimulator) (fd : Int) : Prop where
  listen : fd ≠ s.listenFd
  wake : fd ≠ s.wakeFd
  timer : fd ≠ s.timerFd
  command : fd ≠ s.commandFd
  clients : ∀ entry ∈ s.clients.entries, entry.2.connection.fd ≠ fd

instance (s : FeedSimulator) (fd : Int) : Decidable (NewSocket s fd) :=
  decidable_of_iff (fd ≠ s.listenFd ∧ fd ≠ s.wakeFd ∧ fd ≠ s.timerFd ∧ fd ≠ s.commandFd ∧
    ∀ entry ∈ s.clients.entries, entry.2.connection.fd ≠ fd)
    ⟨fun h => ⟨h.1, h.2.1, h.2.2.1, h.2.2.2.1, h.2.2.2.2⟩,
      fun h => ⟨h.listen, h.wake, h.timer, h.command, h.clients⟩⟩

/-- Every client that the batch accepts gets a new number. -/
def BatchAdmitted (s : FeedSimulator) (b : Batch SimulatorEvent) : Prop :=
  Runs.Along (dispatchEvent b.now) (fun s e => e.fd = s.listenFd →
    Runs.Along acceptClient (fun s a => NewSocket s a.fd) s e.accepted) s b.events

instance (s : FeedSimulator) (b : Batch SimulatorEvent) : Decidable (BatchAdmitted s b) :=
  inferInstanceAs (Decidable (Runs.Along ..))

/-- Whoever handles an event of the batch, if the fd had an owner when
`epoll_wait` returned, it is that owner. -/
def EventsDelivered (s : FeedSimulator) (b : Batch SimulatorEvent) : Prop :=
  Runs.Along (dispatchEvent b.now) (fun mid e => ∀ object client, s.Owns e.fd object →
    mid.routed e = some client → client.object = object) s b.events

/-- No event of the batch carries a number that the batch has given to a new
socket before. -/
def NumbersKept (s : FeedSimulator) (b : Batch SimulatorEvent) : Prop :=
  NoReissue (dispatchEvent b.now) eventIssues (·.fd) [] s b.events

instance (s : FeedSimulator) (b : Batch SimulatorEvent) : Decidable (NumbersKept s b) :=
  inferInstanceAs (Decidable (NoReissue ..))

theorem Keyed.routed_owns (h : s.Keyed) {e : SimulatorEvent} {client : Client}
    (hrouted : s.routed e = some client) : s.Owns e.fd client.object := by
  unfold routed at hrouted
  split at hrouted
  · cases hrouted
  · exact h.owns_iff.mpr ⟨client, hrouted, rfl⟩

theorem Keyed.owner_unique (h : s.Keyed) {fd : Int} {object object' : Nat}
    (ho : s.Owns fd object) (ho' : s.Owns fd object') : object' = object := by
  obtain ⟨client, hlookup, rfl⟩ := h.owns_iff.mp ho
  obtain ⟨client', hlookup', rfl⟩ := h.owns_iff.mp ho'
  rw [hlookup] at hlookup'
  obtain rfl := Option.some.inj hlookup'
  rfl

theorem eventsDelivered (h : s.Keyed) (b : Batch SimulatorEvent) (hkept : NumbersKept s b) :
    EventsDelivered s b := by
  have hall : Runs.Along (dispatchEvent b.now) (fun _ _ => True) s b.events :=
    Runs.along_of_mem s fun _ _ _ => trivial
  have hstep : ∀ s e, Keyed s → True → (dispatchEvent b.now s e).Keyed :=
    fun s e h _ => dispatchEvent_keyed b.now s e h
  have howned := along_owned_from_start hstep
    (fun s e h _ => dispatchEvent_tracks b.now s e h) h hall Tracks.refl hkept
  have hinv : Runs.Along (dispatchEvent b.now) (fun mid _ => mid.Keyed) s b.events :=
    Runs.along_of_invariant hstep (fun _ _ hmid _ => hmid) h hall
  refine Runs.along_mono ?_ (Runs.along_and hinv howned)
  intro mid e hmid object client hstart hrouted
  exact h.owner_unique hstart (hmid.2 _ (hmid.1.routed_owns hrouted))

/-- One wakeup of `run`. -/
def wakeUp (s : FeedSimulator) (b : Batch SimulatorEvent) : FeedSimulator :=
  s.runBatch b.now b.events

theorem wakeUp_keyed (s : FeedSimulator) (b : Batch SimulatorEvent) (h : s.Keyed) :
    (s.wakeUp b).Keyed :=
  List.foldlRecOn b.events (dispatchEvent b.now) h fun mid h e _ => dispatchEvent_keyed b.now mid e h

theorem setup_keyed (feedId : BitVec 32) (config : Config) (faults : FaultConfig)
    (listenFd wakeFd timerFd : Int) (setup : List SimulatorCommand) :
    (setup.foldl command (create feedId config faults listenFd wakeFd timerFd)).Keyed := by
  have hcreate : (create feedId config faults listenFd wakeFd timerFd).Keyed :=
    fun _ _ hlookup => absurd hlookup nofun
  exact hcreate.retains (commands_retain _ setup)

end FeedSimulator

/-! ## Both reactors -/

/-- **No stale event reaches another connection.**  In either reactor, over
every run of batches: if no event carries a number that its batch gave to a new
socket before, then an event whose fd had an owner when `epoll_wait` returned
is handled by that very connection or dropped.  For the monitor, no due PING
may fail its connection inside a tick, which would leave the fd map inexact. -/
theorem no_stale_event
    (config : Config) (timerFd wakeFd : Int) (setup : List MonitorCommand)
    (batches : List (Batch MonitorEvent))
    (hnew : Runs.Along FeedMonitor.step FeedMonitor.SocketsNew
      (FeedMonitor.create config timerFd wakeFd) (setup.map .command))
    (hadm : Runs.Along FeedMonitor.wakeUp FeedMonitor.BatchAdmitted
      (setup.foldl FeedMonitor.command (FeedMonitor.create config timerFd wakeFd)) batches)
    (hkept : Runs.Along FeedMonitor.wakeUp FeedMonitor.NumbersKept
      (setup.foldl FeedMonitor.command (FeedMonitor.create config timerFd wakeFd)) batches)
    (feedId : BitVec 32) (simConfig : Config) (faults : FaultConfig)
    (listenFd simWakeFd simTimerFd : Int) (simSetup : List SimulatorCommand)
    (simBatches : List (Batch SimulatorEvent))
    (hsim : Runs.Along FeedSimulator.wakeUp FeedSimulator.NumbersKept
      (simSetup.foldl FeedSimulator.command
        (FeedSimulator.create feedId simConfig faults listenFd simWakeFd simTimerFd)) simBatches) :
    Runs.Along FeedMonitor.wakeUp FeedMonitor.EventsDelivered
        (setup.foldl FeedMonitor.command (FeedMonitor.create config timerFd wakeFd)) batches ∧
      Runs.Along FeedSimulator.wakeUp FeedSimulator.EventsDelivered
        (simSetup.foldl FeedSimulator.command
          (FeedSimulator.create feedId simConfig faults listenFd simWakeFd simTimerFd))
        simBatches := by
  constructor
  · refine Runs.along_of_invariant ?_ ?_
      (FeedMonitor.setup_wellFormed config timerFd wakeFd setup hnew) (Runs.along_and hadm hkept)
    · exact fun m b h hb => FeedMonitor.wakeUp_wellFormed m b h hb.1
    · exact fun m b h hb => FeedMonitor.eventsDelivered h b hb.1 hb.2
  · refine Runs.along_of_invariant ?_ ?_ (FeedSimulator.setup_keyed feedId simConfig faults
      listenFd simWakeFd simTimerFd simSetup) hsim
    · exact fun s b h _ => FeedSimulator.wakeUp_keyed s b h
    · exact fun s b h hb => FeedSimulator.eventsDelivered h b hb

namespace FeedMonitor

/-- Feeds 7 and 8 are added on fds 5 and 6; commands come in on fd 0. -/
def twoFeeds : List MonitorCommand :=
  [.addFeed { feedId := 7, host := "127.0.0.1", port := 9000 } (some 5) 0,
    .addFeed { feedId := 8, host := "127.0.0.1", port := 9001 } (some 6) 0, .setCommandInput 0]

/-- Feed 8 has lost its connection. -/
def feedLost : Batch MonitorEvent :=
  ⟨1, [{ fd := 6, events := { epollHup := true } }]⟩

/-- The user disconnects feed 7 and has both feeds reconnect. -/
def reconnectBoth : MonitorEvent :=
  { fd := 0, commands := [.forceReconnect 8, .forceDisconnect 7 11 {}, .forceReconnect 7] }

/-- The tick gives feed 7 a new socket on fd 9, which closes fd 5, and then
feed 8 one on fd 5. -/
def fdsMove : MonitorEvent :=
  { fd := 3, tickNow := 20, tickIo := fun i => { socket := some (if i = 0 then 9 else 5) } }

/-- There was data for feed 7. -/
def feedReadable : MonitorEvent :=
  { fd := 5, events := { epollIn := true } }

end FeedMonitor

namespace FeedSimulator

/-- A client is accepted on fd 8; the listening socket is fd 3. -/
def accepts (now : Int) : SimulatorEvent :=
  { fd := 3, accepted := [{ fd := 8, now := now }] }

/-- The timer fires after nine seconds, when a silent client has timed out. -/
def reaps : SimulatorEvent :=
  { fd := 5, tickNow := 9000000000 }

/-- There was data from the client. -/
def clientReadable : SimulatorEvent :=
  { fd := 8, events := { epollIn := true } }

end FeedSimulator

/-- With the connection's event first in each batch, it reaches its connection. -/
theorem no_stale_event_inTime :
    Runs.Along FeedMonitor.wakeUp FeedMonitor.EventsDelivered
        (FeedMonitor.twoFeeds.foldl FeedMonitor.command (FeedMonitor.create {} 3 4))
        [FeedMonitor.feedLost,
          ⟨10, [FeedMonitor.feedReadable, FeedMonitor.reconnectBoth, FeedMonitor.fdsMove]⟩] ∧
      Runs.Along FeedSimulator.wakeUp FeedSimulator.EventsDelivered
        (FeedSimulator.create 7 {} {} 3 4 5)
        [⟨0, [FeedSimulator.accepts 0]⟩, ⟨9000000000, [FeedSimulator.clientReadable,
          FeedSimulator.reaps, FeedSimulator.accepts 9000000000]⟩] := by
  apply no_stale_event {} 3 4 FeedMonitor.twoFeeds _ _ _ _ 7 {} {} 3 4 5 [] _ _
  · decide +kernel
  · decide +kernel
  · decide +kernel
  · decide +kernel

/-- The data on fd 5 was for feed 7 and is read by feed 8; the data on fd 8 was
from a client that timed out and is read from its successor. -/
theorem stale_event_misrouted :
    (¬ ∀ (config : Config) (timerFd wakeFd : Int) (setup : List MonitorCommand)
        (batches : List (Batch MonitorEvent)),
      Runs.Along FeedMonitor.step FeedMonitor.SocketsNew
        (FeedMonitor.create config timerFd wakeFd) (setup.map .command) →
      Runs.Along FeedMonitor.wakeUp (fun m b => FeedMonitor.BatchAdmitted m b ∧
          m.epollSet.Reports (b.events.map (·.fd)))
        (setup.foldl FeedMonitor.command (FeedMonitor.create config timerFd wakeFd)) batches →
      Runs.Along FeedMonitor.wakeUp FeedMonitor.EventsDelivered
        (setup.foldl FeedMonitor.command (FeedMonitor.create config timerFd wakeFd)) batches) ∧
    ¬ ∀ (feedId : BitVec 32) (config : Config) (faults : FaultConfig) (listenFd wakeFd timerFd : Int)
        (setup : List SimulatorCommand) (batches : List (Batch SimulatorEvent)),
      Runs.Along FeedSimulator.wakeUp (fun s b => FeedSimulator.BatchAdmitted s b ∧
          s.epollSet.Reports (b.events.map (·.fd)))
        (setup.foldl FeedSimulator.command
          (FeedSimulator.create feedId config faults listenFd wakeFd timerFd)) batches →
      Runs.Along FeedSimulator.wakeUp FeedSimulator.EventsDelivered
        (setup.foldl FeedSimulator.command
          (FeedSimulator.create feedId config faults listenFd wakeFd timerFd)) batches := by
  constructor
  · intro hall
    have hrun := hall {} 3 4 FeedMonitor.twoFeeds [FeedMonitor.feedLost,
      ⟨10, [FeedMonitor.reconnectBoth, FeedMonitor.fdsMove, FeedMonitor.feedReadable]⟩]
      (by decide +kernel) (by decide +kernel)
    have hevent := hrun.2.1.2.2.1
    generalize hm : (FeedMonitor.twoFeeds.foldl FeedMonitor.command
      (FeedMonitor.create {} 3 4)).wakeUp FeedMonitor.feedLost = m at hevent
    have howns : m.Owns 5 0 := by
      rw [← hm, FeedMonitor.owns_iff]
      decide +kernel
    have hrouted : ((FeedMonitor.dispatchEvent 10 (FeedMonitor.dispatchEvent 10 m
        FeedMonitor.reconnectBoth) FeedMonitor.fdsMove).routed FeedMonitor.feedReadable).map
        (·.history.object) = some 1 := by
      rw [← hm]
      decide +kernel
    obtain ⟨slot, hslot, hobject⟩ := Option.map_eq_some_iff.mp hrouted
    exact absurd (hobject.symm.trans (hevent 0 slot howns hslot)) nofun
  · intro hall
    have hrun := hall 7 {} {} 3 4 5 [] [⟨0, [FeedSimulator.accepts 0]⟩,
      ⟨9000000000, [FeedSimulator.reaps, FeedSimulator.accepts 9000000000,
        FeedSimulator.clientReadable]⟩] (by decide +kernel)
    have hevent := hrun.2.1.2.2.1
    generalize hs : FeedSimulator.wakeUp (List.foldl FeedSimulator.command
      (FeedSimulator.create 7 {} {} 3 4 5) []) ⟨0, [FeedSimulator.accepts 0]⟩ = s at hevent
    have hplace : (s.clients.lookup 8).map (·.place) = some (8, 0) := by
      rw [← hs]
      decide +kernel
    have hrouted : ((FeedSimulator.dispatchEvent 9000000000 (FeedSimulator.dispatchEvent 9000000000
        s FeedSimulator.reaps) (FeedSimulator.accepts 9000000000)).routed
        FeedSimulator.clientReadable).map (·.object) = some 1 := by
      rw [← hs]
      decide +kernel
    obtain ⟨old, hold, hfirst⟩ := Option.map_eq_some_iff.mp hplace
    obtain ⟨client, hclient, hobject⟩ := Option.map_eq_some_iff.mp hrouted
    have howns : s.Owns 8 0 :=
      ⟨8, old, hold, congrArg Prod.fst hfirst, congrArg Prod.snd hfirst⟩
    exact absurd (hobject.symm.trans (hevent 0 client howns hclient)) nofun

end Vigil
