import Vigil.EventLoop
import Vigil.OperatorConsole
import Vigil.ReadWakeups

/-!
# Shutting down

`stop()` of the monitor and of the simulator sets a flag and writes to an
eventfd that is in the reactor's own epoll set, so it may be called from another
thread, from a signal handler, or from a callback of the reactor itself.

The eventfd and the timer are registered by the constructor.  Nothing that
happens later may touch their registration, whatever descriptors come and go:
that is `Heard`.  With it, `stop_ends_run` says that a stop is never slept
through, and how little a stopped `run` still does.
-/

namespace Vigil

/-- How the constructors register the timer and the eventfd. -/
def levelTriggered : EpollInterest :=
  epollInterestFlags true false false

/-- `event_batch_.size()`. -/
def batchSize (config : Config) : Nat :=
  (max config.epollMaxEvents 1).toNat

/-! ## The monitor -/

/-- What the monitor handles at a time, and whether the callback that this runs
calls `stop()`. -/
structure MonitorInput where
  turn : MonitorTurn
  quits : Bool := false

namespace FeedMonitor

variable {m m' m'' : FeedMonitor} {i : Nat} {slot slot' : Slot}

/-- The registration of the reactor's own channels is as it was. -/
structure Undisturbed (m m' : FeedMonitor) : Prop where
  own : (m'.timerFd, m'.wakeFd) = (m.timerFd, m.wakeFd)
  timer : m'.epollSet.lookup m.timerFd = m.epollSet.lookup m.timerFd
  wake : m'.epollSet.lookup m.wakeFd = m.epollSet.lookup m.wakeFd

theorem Undisturbed.refl (m : FeedMonitor) : Undisturbed m m :=
  ⟨rfl, rfl, rfl⟩

theorem Undisturbed.trans (h : Undisturbed m m') (h' : Undisturbed m' m'') :
    Undisturbed m m'' := by
  obtain ⟨htimer, hwake⟩ := Prod.mk.inj h.own
  refine ⟨h'.own.trans h.own, ?_, ?_⟩
  · rw [← h.timer, ← htimer]
    exact h'.timer
  · rw [← h.wake, ← hwake]
    exact h'.wake

/-- The epoll set changes at one fd only. -/
theorem Undisturbed.of_elsewhere {fd : Int} (hown : (m'.timerFd, m'.wakeFd) = (m.timerFd, m.wakeFd))
    (htimer : fd ≠ m.timerFd) (hwake : fd ≠ m.wakeFd)
    (hset : ∀ other, other ≠ fd → m'.epollSet.lookup other = m.epollSet.lookup other) :
    Undisturbed m m' :=
  ⟨hown, hset _ htimer.symm, hset _ hwake.symm⟩

theorem edit_undisturbed {tidy : Prop} (h : m.Routes) (hx : m.slots[i]? = some slot)
    (hedit : Edit tidy m i slot slot' m') (hset : m.Refreshed slot slot' m'.epollSet)
    (hfd : slot'.connection.fd = slot.connection.fd ∨ NewSocket m slot'.connection.fd) :
    Undisturbed m m' := by
  have hsur := hedit.surroundings_eq
  have hmem := List.mem_of_getElem? hx
  refine ⟨?_, ?_, ?_⟩
  · exact congrArg (fun s => (s.2.1, s.2.2.1)) hsur
  · refine hset.elsewhere _ (h.timer slot hmem).symm ?_
    rcases hfd with hsame | hnew
    · rw [hsame]
      exact (h.timer slot hmem).symm
    · exact hnew.timer.symm
  · refine hset.elsewhere _ (h.wake slot hmem).symm ?_
    rcases hfd with hsame | hnew
    · rw [hsame]
      exact (h.wake slot hmem).symm
    · exact hnew.wake.symm

theorem tickSlot_undisturbed (h : m.Routes) (hwatched : m.Watched) (now : Int) (io : Nat → SlotIo)
    (i : Nat) (hsound : ∀ slot, m.slots[i]? = some slot → slot.Sound)
    (hnew : TurnSocketNew now io m i) : Undisturbed m (tickSlot now io m i) := by
  cases hx : m.slots[i]? with
  | none =>
      have hsame : tickSlot now io m i = m := by rw [tickSlot, hx]
      rw [hsame]
      exact Undisturbed.refl m
  | some slot =>
      have hslot := hsound slot hx
      have hreg := hwatched.registered slot (List.mem_of_getElem? hx)
      refine edit_undisturbed h hx (tickSlot_edit now io hx hslot.fd hslot.role)
        (tickSlot_refreshed now io hx hslot.fd hreg) ?_
      rcases Slot.ticked_fd slot m.config now (io i) with hsame | hsocket
      · exact Or.inl hsame
      · obtain ⟨hf, hdue, fd, hfd, heq⟩ := Slot.newFd_eq_some hsocket
        rw [heq]
        exact Or.inr (hnew slot fd hx hf hdue hfd)

/-- What the reactor keeps between two inputs. -/
structure Heard (m : FeedMonitor) : Prop where
  attentive : m.Attentive
  timer_open : 0 ≤ m.timerFd
  wake_open : 0 ≤ m.wakeFd
  timer : m.epollSet.lookup m.timerFd = some levelTriggered
  wake : m.epollSet.lookup m.wakeFd = some levelTriggered
  command_timer : m.commandFd ≠ m.timerFd
  command_wake : m.commandFd ≠ m.wakeFd

theorem heard_create (config : Config) {timerFd wakeFd : Int} (htimer : 0 ≤ timerFd)
    (hwake : 0 ≤ wakeFd) : (create config timerFd wakeFd).Heard where
  attentive := attentive_create config timerFd wakeFd
  timer_open := htimer
  wake_open := hwake
  timer := by
    by_cases heq : timerFd = wakeFd
    · rw [heq]
      exact EpollSet.lookup_add _ _
    · exact (EpollSet.lookup_add_ne _ _ heq).trans (EpollSet.lookup_add _ _)
  wake := EpollSet.lookup_add _ _
  command_timer := fun heq => by
    have hneg : (-1 : Int) = timerFd := heq
    omega
  command_wake := fun heq => by
    have hneg : (-1 : Int) = wakeFd := heq
    omega

theorem Heard.undisturbed (h : m.Heard) (hattentive : m'.Attentive) (hkept : Undisturbed m m')
    (htimer : m'.commandFd ≠ m.timerFd) (hwake : m'.commandFd ≠ m.wakeFd) : m'.Heard := by
  obtain ⟨heqt, heqw⟩ := Prod.mk.inj hkept.own
  refine ⟨hattentive, ?_, ?_, ?_, ?_, ?_, ?_⟩
  · rw [heqt]
    exact h.timer_open
  · rw [heqw]
    exact h.wake_open
  · rw [heqt, hkept.timer]
    exact h.timer
  · rw [heqw, hkept.wake]
    exact h.wake
  · rw [heqt]
    exact htimer
  · rw [heqw]
    exact hwake

theorem command_undisturbed (h : m.Heard) (c : MonitorCommand) (hnew : SocketsNew m (.command c))
    (hadd : CommandFdAdded m (.command c)) :
    Undisturbed m (m.command c) ∧
      ((m.command c).commandFd ≠ m.timerFd ∧ (m.command c).commandFd ≠ m.wakeFd) := by
  have hroutes := h.attentive.routes
  have hwatched := h.attentive.watched
  have hsound := h.attentive.listed.sound
  have hcommand : m.commandFd ≠ m.timerFd ∧ m.commandFd ≠ m.wakeFd :=
    ⟨h.command_timer, h.command_wake⟩
  have hresult := command_result hsound c
  generalize m.command c = result at hresult ⊢
  cases hresult with
  | idle => exact ⟨Undisturbed.refl m, hcommand⟩
  | added endpoint fd now hfeed =>
      have hsocket : NewSocket m fd := hnew hfeed
      exact ⟨Undisturbed.of_elsewhere rfl hsocket.timer hsocket.wake
        fun _ hne => EpollSet.lookup_add_ne _ _ hne, hcommand⟩
  | removed feedId i slot hlookup hx =>
      have hmem := List.mem_of_getElem? hx
      rw [removeSlotAt_eq hsound hx]
      exact ⟨Undisturbed.of_elsewhere rfl (hroutes.timer slot hmem) (hroutes.wake slot hmem)
        fun _ hne => EpollSet.lookup_del_ne _ hne, hcommand⟩
  | disconnected feedId now io i slot hlookup hx hlive =>
      have hmem := List.mem_of_getElem? hx
      exact ⟨Undisturbed.of_elsewhere rfl (hroutes.timer slot hmem) (hroutes.wake slot hmem)
        fun _ hne => EpollSet.lookup_del_ne _ hne, hcommand⟩
  | renewed feedId i slot hlookup hx hfailed => exact ⟨⟨rfl, rfl, rfl⟩, hcommand⟩
  | intervalSet interval => exact ⟨⟨rfl, rfl, rfl⟩, hcommand⟩
  | timeoutSet timeout now => exact ⟨⟨rfl, rfl, rfl⟩, hcommand⟩
  | inputSet fd =>
      have hfresh : fd ∉ m.epollSet := hadd
      have hne : ∀ own, m.epollSet.lookup own = some levelTriggered → fd ≠ own := by
        rintro own hown rfl
        exact hfresh (AList.lookup_isSome.mp (by rw [hown]; rfl))
      exact ⟨Undisturbed.of_elsewhere rfl (hne _ h.timer) (hne _ h.wake)
        fun _ hother => EpollSet.lookup_add_ne _ _ hother, hne _ h.timer, hne _ h.wake⟩

theorem step_heard (m : FeedMonitor) (s : MonitorStep) (h : m.Heard)
    (hok : SocketsNew m s ∧ CommandFdAdded m s) : (m.step s).Heard := by
  have hattentive := step_attentive m s h.attentive hok
  have hsound := h.attentive.listed.sound
  cases s with
  | command c =>
      obtain ⟨hkept, htimer, hwake⟩ := command_undisturbed h c hok.1 hok.2
      exact h.undisturbed hattentive hkept htimer hwake
  | timerTick now io =>
      suffices hall : (m.onTimerTick now io).Watched ∧ (m.onTimerTick now io).Routes ∧
          Undisturbed m (m.onTimerTick now io) ∧ (m.onTimerTick now io).commandFd = m.commandFd by
        obtain ⟨_, _, hkept, hcommand⟩ := hall
        refine h.undisturbed hattentive hkept ?_ ?_
        · exact hcommand ▸ h.command_timer
        · exact hcommand ▸ h.command_wake
      refine onTimerTick_invariant (I := fun mid => mid.Watched ∧ mid.Routes ∧ Undisturbed m mid ∧
        mid.commandFd = m.commandFd) hsound now io hok.1 ?_
        ⟨h.attentive.watched, h.attentive.routes, Undisturbed.refl m, rfl⟩
      rintro mid k hslot hsocket ⟨hwatched, hroutes, hkept, hcommand⟩
      have hsound' : ∀ slot, mid.slots[k]? = some slot → slot.Sound :=
        fun slot hx => hsound.at (hslot.symm.trans hx)
      refine ⟨tickSlot_watched hwatched now io k hsound' hsocket,
        tickSlot_routes hroutes hwatched now io k hsound' hsocket,
        hkept.trans (tickSlot_undisturbed hroutes hwatched now io k hsound' hsocket), ?_⟩
      cases hx : mid.slots[k]? with
      | none => rw [tickSlot, hx]; exact hcommand
      | some slot =>
          have hedit := tickSlot_edit now io hx (hsound' slot hx).fd (hsound' slot hx).role
          exact (congrArg (fun s => s.2.2.2.1) hedit.surroundings_eq).trans hcommand
  | connectionEvent fd events now io =>
      suffices hkept : Undisturbed m (m.step (.connectionEvent fd events now io)) ∧
          (m.step (.connectionEvent fd events now io)).commandFd = m.commandFd by
        obtain ⟨hkept, hcommand⟩ := hkept
        refine h.undisturbed hattentive hkept ?_ ?_
        · exact hcommand ▸ h.command_timer
        · exact hcommand ▸ h.command_wake
      simp only [step]
      split
      · exact ⟨Undisturbed.refl m, rfl⟩
      · next index _ =>
          cases hx : m.slots[index]? with
          | none =>
              rw [handleConnectionEvent_none events now io hx]
              exact ⟨Undisturbed.refl m, rfl⟩
          | some slot =>
              have hfd := (hsound.at hx).fd
              have hedit := handleConnectionEvent_edit events now io hx hfd
              refine ⟨edit_undisturbed h.attentive.routes hx hedit
                (handleConnectionEvent_refreshed events now io hx hfd
                  (h.attentive.watched.registered slot (List.mem_of_getElem? hx)))
                (Or.inl (congrArg Prod.fst (Slot.handled_place slot m.config events now io))), ?_⟩
              exact congrArg (fun s => s.2.2.2.1) hedit.surroundings_eq

theorem turn_heard (m : FeedMonitor) (t : MonitorTurn) (h : m.Heard) (hadm : TurnAdmitted m t) :
    (m.turn t).Heard := by
  have hattentive := turn_attentive m t h.attentive hadm
  have hsteps : ((m.turnSteps t).foldl step m).Heard := Runs.invariant step_heard h hadm
  cases t with
  | operation c => exact hsteps
  | event now e =>
      rw [turn] at hattentive ⊢
      rcases dispatchEvent_steps now m e with heq | heq
      · rw [heq]
        exact hsteps
      · -- the command fd is dropped, and it is neither of the two
        rw [heq] at hattentive ⊢
        have hneg : (-1 : Int) < 0 := by decide
        exact hsteps.undisturbed hattentive (Undisturbed.of_elsewhere rfl hsteps.command_timer
          hsteps.command_wake fun _ hne => EpollSet.lookup_del_ne _ hne)
          (hneg.trans_le hsteps.timer_open).ne (hneg.trans_le hsteps.wake_open).ne

/-- A callback of the owner runs: at a tick, or for the lines of the command
fd. -/
def CallsBack (m : FeedMonitor) (fd : Int) : Prop :=
  fd ≠ m.wakeFd ∧ (fd = m.timerFd ∨ fd = m.commandFd)

instance (m : FeedMonitor) (fd : Int) : Decidable (m.CallsBack fd) :=
  inferInstanceAs (Decidable (_ ∧ _))

/-- `run` and `stop()`. -/
def loop : EventLoop.Loop FeedMonitor MonitorInput where
  dispatch m i := m.turn i.turn
  wakes m i :=
    match i.turn with
    | .operation _ => false
    | .event _ e => e.fd = m.wakeFd
  stops m i :=
    match i.turn with
    | .operation _ => false
    | .event _ e => i.quits && decide (m.CallsBack e.fd)
  hears m := m.epollSet.lookup m.wakeFd = some levelTriggered

/-- Constructed, and then moved. -/
def loopRun (config : Config) (timerFd wakeFd : Int) (moves : List (EventLoop.Move MonitorInput)) :
    EventLoop.State FeedMonitor MonitorInput :=
  moves.foldl loop.step { server := create config timerFd wakeFd }

end FeedMonitor

/-! ## The simulator -/

structure SimulatorInput where
  turn : SimulatorTurn
  quits : Bool := false

namespace FeedSimulator

variable {s s' : FeedSimulator} {own : Int}

/-- No client is on the fd, and it is registered as the constructor did. -/
structure Reserved (s : FeedSimulator) (own : Int) : Prop where
  unclaimed : s.clients.lookup own = none
  registered : s.epollSet.lookup own = some levelTriggered
  command : s.commandFd ≠ own

/-- A client's fd is not reserved. -/
theorem Reserved.ne (h : s.Reserved own) {fd : Int} {client : Client}
    (hlookup : s.clients.lookup fd = some client) : own ≠ fd := by
  rintro rfl
  rw [h.unclaimed] at hlookup
  cases hlookup

theorem Reserved.of_eq (h : s.Reserved own) (hclients : s'.clients.lookup own = s.clients.lookup own)
    (hset : s'.epollSet.lookup own = s.epollSet.lookup own) (hcommand : s'.commandFd = s.commandFd) :
    s'.Reserved own :=
  ⟨hclients.trans h.unclaimed, hset.trans h.registered, hcommand ▸ h.command⟩

theorem removeClient_reserved (h : s.Reserved own) {fd : Int} (hne : own ≠ fd) :
    (s.removeClient fd).Reserved own :=
  h.of_eq (AList.lookup_erase_ne hne) (EpollSet.lookup_del_ne _ hne) rfl

theorem store_reserved (h : s.Reserved own) {fd : Int} (hne : own ≠ fd) (client : Client) :
    (s.store fd client).Reserved own :=
  h.of_eq (AList.lookup_insert_ne hne) rfl rfl

theorem syncEpollInterest_reserved (h : s.Reserved own) {fd : Int} (hne : own ≠ fd)
    (conn : Connection Desk) : (s.syncEpollInterest fd conn).Reserved own :=
  h.of_eq rfl (EpollSet.lookup_mod_ne _ _ hne) rfl

theorem handleClientEvent_reserved (h : s.Reserved own) (fd : Int) (events : EpollEvents)
    (now : Int) (io : ClientIo) : (s.handleClientEvent fd events now io).Reserved own := by
  unfold handleClientEvent
  split
  · exact h
  · next client hlookup =>
      have hne := h.ne hlookup
      have hstored := store_reserved h hne
        ((client.enter (s.env io)).onEvent s.config events now io)
      dsimp only
      split
      · exact removeClient_reserved hstored hne
      · exact syncEpollInterest_reserved hstored hne _

theorem checkClient_reserved (now : Int) (acc : FeedSimulator × List Int)
    (h : acc.1.Reserved own ∧ own ∉ acc.2) (fd : Int) :
    (checkClient now acc fd).1.Reserved own ∧ own ∉ (checkClient now acc fd).2 := by
  unfold checkClient
  split
  · exact h
  · next client hlookup =>
      have hne := h.1.ne hlookup
      refine ⟨h.1.of_eq (AList.lookup_insert_ne hne) rfl rfl, ?_⟩
      dsimp only
      split
      · exact fun hin => (List.mem_append.mp hin).elim h.2 fun hlast => hne (by simpa using hlast)
      · exact h.2

theorem reapClients_reserved (h : s.Reserved own) (now : Int) :
    (s.reapClients now).Reserved own := by
  have hchecked : (s.clients.keys.foldl (checkClient now) (s, [])).1.Reserved own ∧
      own ∉ (s.clients.keys.foldl (checkClient now) (s, [])).2 :=
    List.foldlRecOn (motive := fun acc => acc.1.Reserved own ∧ own ∉ acc.2) s.clients.keys
      (checkClient now) ⟨h, List.not_mem_nil⟩ fun acc hacc fd _ => checkClient_reserved now acc hacc fd
  unfold reapClients
  generalize s.clients.keys.foldl (checkClient now) (s, []) = checked at hchecked ⊢
  refine List.foldlRecOn (motive := fun acc => Reserved acc own) checked.2 removeClient hchecked.1 ?_
  rintro acc hacc fd hfd
  exact removeClient_reserved hacc (ne_of_mem_of_not_mem hfd hchecked.2).symm

theorem fireReply_reserved (now : Int) (io : Nat → ClientIo)
    (acc : FeedSimulator × List PendingReply) (h : acc.1.Reserved own) (p : PendingReply × Nat) :
    (fireReply now io acc p).1.Reserved own := by
  unfold fireReply
  split
  · exact h
  · split
    · exact h
    · next client hlookup =>
        have hne := h.ne hlookup
        have hsent : ∀ called : Client,
            Reserved { acc.1 with clients := acc.1.clients.insert p.1.fd called } own :=
          fun _ => h.of_eq (AList.lookup_insert_ne hne) rfl rfl
        exact syncEpollInterest_reserved (hsent _) hne _

theorem onTimerTick_reserved (h : s.Reserved own) (now : Int) (io : Nat → ClientIo) :
    (s.onTimerTick now io).Reserved own := by
  have hfired : ((s.reapClients now).pendingReplies.zipIdx.foldl (fireReply now io)
      (s.reapClients now, [])).1.Reserved own :=
    List.foldlRecOn (motive := fun acc => acc.1.Reserved own) _ (fireReply now io)
      (reapClients_reserved h now) fun acc hacc p _ => fireReply_reserved now io acc hacc p
  exact hfired.of_eq rfl rfl rfl

theorem acceptClient_reserved (h : s.Reserved own) (a : Accepted) (hne : own ≠ a.fd) :
    (s.acceptClient a).Reserved own := by
  unfold acceptClient
  dsimp only
  split
  · exact h.of_eq (AList.lookup_insert_ne hne) (EpollSet.lookup_add_ne _ _ hne) rfl
  · exact h.of_eq ((AList.lookup_erase_ne hne).trans (AList.lookup_insert_ne hne)) rfl rfl

theorem command_reserved (s : FeedSimulator) (c : SimulatorCommand) (h : s.Reserved own)
    (hadd : CommandFdAdded s c) : (s.command c).Reserved own := by
  cases c with
  | killRandomConnection pick =>
      simp only [command, killRandomConnection]
      split
      · exact h
      · next fd hpick =>
          have hkey : fd ∈ s.clients.keys := List.mem_of_getElem? hpick
          obtain ⟨client, hlookup⟩ := Option.isSome_iff_exists.mp (AList.lookup_isSome.mpr hkey)
          exact removeClient_reserved h (h.ne hlookup)
  | setFaultConfig faults => exact h.of_eq rfl rfl rfl
  | setCommandInput fd =>
      have hfresh : fd ∉ s.epollSet := hadd
      have hne : own ≠ fd := by
        rintro rfl
        exact hfresh (AList.lookup_isSome.mp (by rw [h.registered]; rfl))
      exact ⟨h.unclaimed, (EpollSet.lookup_add_ne _ _ hne).trans h.registered, hne.symm⟩

/-- What the reactor keeps between two inputs. -/
structure Heard (s : FeedSimulator) : Prop where
  attentive : s.Attentive
  timer_open : 0 ≤ s.timerFd
  wake_open : 0 ≤ s.wakeFd
  timer : s.Reserved s.timerFd
  wake : s.Reserved s.wakeFd

theorem heard_create (feedId : BitVec 32) (config : Config) (faults : FaultConfig) (listenFd : Int)
    {wakeFd timerFd : Int} (hwake : 0 ≤ wakeFd) (htimer : 0 ≤ timerFd) :
    (create feedId config faults listenFd wakeFd timerFd).Heard where
  attentive := ⟨watched_create feedId config faults listenFd wakeFd timerFd, ⟨rfl, rfl, rfl⟩⟩
  timer_open := htimer
  wake_open := hwake
  timer := ⟨rfl, EpollSet.lookup_add _ _, fun heq => by
    have hneg : (-1 : Int) = timerFd := heq
    omega⟩
  wake := ⟨rfl, by
    by_cases heq : wakeFd = timerFd
    · rw [heq]
      exact EpollSet.lookup_add _ _
    · exact (EpollSet.lookup_add_ne _ _ heq).trans (EpollSet.lookup_add _ _), fun heq => by
    have hneg : (-1 : Int) = wakeFd := heq
    omega⟩

theorem acceptNewConnections_own (s : FeedSimulator) (accepted : List Accepted) :
    (s.acceptNewConnections accepted).ownFds = s.ownFds :=
  List.foldlRecOn (motive := fun acc => ownFds acc = s.ownFds) accepted acceptClient rfl
    fun acc hacc a _ => (acceptClient_ownFds acc a).trans hacc

theorem turn_own (s : FeedSimulator) (t : SimulatorTurn) : (s.turn t).ownFds = s.ownFds := by
  cases t with
  | operation c => exact (command_dwindles s c).own
  | event now e =>
      have hresult := dispatchEvent_result now s e
      rw [turn]
      generalize dispatchEvent now s e = result at hresult ⊢
      cases hresult with
      | woken => rfl
      | ticked => exact (onTimerTick_dwindles s e.tickNow e.tickIo).own
      | accepted => exact acceptNewConnections_own s e.accepted
      | commanded => exact (onCommandFdReadable_dwindles s e.commands e.commandEof).own
      | handled => exact (handleClientEvent_dwindles s e.fd e.events now e.io).own

theorem turn_reserved (s : FeedSimulator) (t : SimulatorTurn) (h : s.Reserved own)
    (hown : own = s.timerFd ∨ own = s.wakeFd) (hopen : 0 ≤ own) (hadm : TurnAdmitted s t) :
    (s.turn t).Reserved own := by
  cases t with
  | operation c => exact command_reserved s c h hadm
  | event now e =>
      have hresult := dispatchEvent_result now s e
      rw [turn]
      generalize dispatchEvent now s e = result at hresult ⊢
      cases hresult with
      | woken => exact h
      | ticked => exact onTimerTick_reserved h e.tickNow e.tickIo
      | accepted _ _ hlisten =>
          have hsteps : Reserved (s.acceptNewConnections e.accepted) own ∧
              (s.acceptNewConnections e.accepted).ownFds = s.ownFds := by
            refine Runs.invariant (I := fun acc => Reserved acc own ∧ ownFds acc = s.ownFds) ?_
              ⟨h, rfl⟩ (hadm.1 hlisten)
            rintro acc a ⟨hacc, heq⟩ hnew
            refine ⟨acceptClient_reserved hacc a ?_, (acceptClient_ownFds acc a).trans heq⟩
            have hwake : acc.wakeFd = s.wakeFd := congrArg Prod.fst heq
            have htimer : acc.timerFd = s.timerFd := congrArg (fun o => o.2.1) heq
            rcases hown with rfl | rfl
            · rw [← htimer]
              exact hnew.timer.symm
            · rw [← hwake]
              exact hnew.wake.symm
          exact hsteps.1
      | commanded _ _ _ hcommand =>
          have hdone : (e.commands.foldl command s).Reserved own :=
            Runs.invariant command_reserved h (hadm.2 hcommand)
          unfold onCommandFdReadable
          dsimp only
          split
          · have hneg : (-1 : Int) < 0 := by decide
            exact ⟨hdone.unclaimed,
              (EpollSet.lookup_del_ne _ hdone.command.symm).trans hdone.registered,
              (hneg.trans_le hopen).ne⟩
          · exact hdone
      | handled => exact handleClientEvent_reserved h e.fd e.events now e.io

theorem turn_heard (s : FeedSimulator) (t : SimulatorTurn) (h : s.Heard)
    (hadm : TurnAdmitted s t) : (s.turn t).Heard := by
  have hown := turn_own s t
  have hwake : (s.turn t).wakeFd = s.wakeFd := congrArg Prod.fst hown
  have htimer : (s.turn t).timerFd = s.timerFd := congrArg (fun o => o.2.1) hown
  refine ⟨turn_attentive s t h.attentive hadm, ?_, ?_, ?_, ?_⟩
  · rw [htimer]
    exact h.timer_open
  · rw [hwake]
    exact h.wake_open
  · rw [htimer]
    exact turn_reserved s t h.timer (Or.inl rfl) h.timer_open hadm
  · rw [hwake]
    exact turn_reserved s t h.wake (Or.inr rfl) h.wake_open hadm

/-- `run` and `stop()`; the simulator has no tick callback. -/
def loop : EventLoop.Loop FeedSimulator SimulatorInput where
  dispatch s i := s.turn i.turn
  wakes s i :=
    match i.turn with
    | .operation _ => false
    | .event _ e => e.fd = s.wakeFd
  stops s i :=
    match i.turn with
    | .operation _ => false
    | .event _ e => i.quits && (e.fd ≠ s.wakeFd ∧ e.fd ≠ s.timerFd ∧ e.fd ≠ s.listenFd ∧
        e.fd = s.commandFd)
  hears s := s.epollSet.lookup s.wakeFd = some levelTriggered

/-- Constructed, and then moved. -/
def loopRun (feedId : BitVec 32) (config : Config) (faults : FaultConfig)
    (listenFd wakeFd timerFd : Int) (moves : List (EventLoop.Move SimulatorInput)) :
    EventLoop.State FeedSimulator SimulatorInput :=
  moves.foldl loop.step { server := create feedId config faults listenFd wakeFd timerFd }

end FeedSimulator

/-! ## Both reactors -/

/-- The event of the command fd for commands typed there. -/
def MonitorInput.console (now : Int) (fd : Int) (commands : List OperatorCommand) :
    MonitorInput where
  turn := .event now { fd := fd, commands := commands.filterMap (·.operation now {}) }
  quits := commands.contains .quit

namespace FeedMonitor

/-- `quit` is typed between two other commands, and the timer fires in the same
batch. -/
def quitTyped : List (EventLoop.Move MonitorInput) :=
  [.operate ⟨.operation (.addFeed { feedId := 7 } (some 5) 0), false⟩,
    .operate ⟨.operation (.setCommandInput 0), false⟩, .enter, .check,
    .wait [MonitorInput.console 1 0 [.disconnect 7, .quit, .setInterval 500],
      ⟨.event 1 { fd := 3, tickNow := 1 }, false⟩],
    .handle]

/-- A signal arrives before the batch is done. -/
def signalArrives : List (EventLoop.Move MonitorInput) :=
  [.store, .handle, .write, .check]

end FeedMonitor

namespace FeedSimulator

/-- Between the look at the flag and the wait. -/
def stoppedLate : List (EventLoop.Move SimulatorInput) :=
  [.enter, .check, .store]

def wokenUp : List (EventLoop.Move SimulatorInput) :=
  [.write, .wait [⟨.event 1 { fd := 4 }, false⟩], .handle, .check]

end FeedSimulator

end Vigil
