import Vigil.Retries
import Vigil.StaleEvents

/-!
# What the monitor registers with epoll

A connection never touches epoll itself: whichever function of the reactor lets
it queue or drain bytes has to bring its registered interest up to date
afterwards.  `Watched` says that this was done for every connection that has
not failed.  It survives every reactor step, also those that leave the fd map
inexact: an event that is routed to the wrong slot still ends with that slot
synchronised under its own fd.
-/

namespace Vigil

namespace Connection

variable {σ : Type}

theorem checkTimeout_wantsWrite (cfg : Config) (c : Connection σ) (now : Int)
    (hlive : (c.checkTimeout cfg now).2.state ≠ .kFailed) :
    (c.checkTimeout cfg now).2.wantsWrite = c.wantsWrite := by
  have h := checkTimeout_result cfg c now
  generalize c.checkTimeout cfg now = result at h hlive ⊢
  cases h with
  | idle h => rfl
  | attempting h => rfl
  | attemptExpired h => exact absurd rfl hlive
  | alive h => rfl
  | silent h => exact absurd rfl hlive
  | lastMiss h => exact absurd rfl hlive
  | miss h =>
      -- neither a healthy nor a degraded connection is connecting
      have hstate : c.state ≠ .kConnecting := by
        rcases h with h | h
        · simp [h]
        · simp [h]
      simp [wantsWrite, transitionTo, report, countMiss, hstate]

end Connection

namespace FeedMonitor

variable {m m' : FeedMonitor} {i : Nat} {slot slot' : Slot}

/-- The fd is registered for what the connection wants. -/
def Registered (m : FeedMonitor) (set : EpollSet) (slot : Slot) : Prop :=
  slot.connection.state ≠ .kFailed →
    set.lookup slot.connection.fd = some (m.interest slot.connection)

/-- Every connection that has not failed is registered for what it wants, and
on an fd of its own. -/
structure Watched (m : FeedMonitor) : Prop where
  fds_nodup : (m.slots.map (·.connection.fd)).Nodup
  registered : ∀ slot ∈ m.slots, m.Registered m.epollSet slot
  command : ∀ slot ∈ m.slots, slot.connection.state ≠ .kFailed →
    slot.connection.fd ≠ m.commandFd

theorem watched_create (config : Config) (timerFd wakeFd : Int) :
    (create config timerFd wakeFd).Watched where
  fds_nodup := List.nodup_nil
  registered := fun _ h => absurd h List.not_mem_nil
  command := fun _ h => absurd h List.not_mem_nil

/-- The epoll set follows the slot from `slot` to `slot'`: the new state is
registered, and no other fd is touched. -/
structure Refreshed (m : FeedMonitor) (slot slot' : Slot) (set : EpollSet) : Prop where
  registered : m.Registered set slot'
  elsewhere : ∀ fd, fd ≠ slot.connection.fd → fd ≠ slot'.connection.fd →
    set.lookup fd = m.epollSet.lookup fd

/-- **One slot changes.** -/
theorem Watched.set (h : m.Watched) (hx : m.slots[i]? = some slot)
    (hslots : m'.slots = m.slots.set i slot') (hsur : m'.surroundings = m.surroundings)
    (hset : m.Refreshed slot slot' m'.epollSet)
    (hfd : slot'.connection.fd = slot.connection.fd ∧
        (slot'.connection.state ≠ .kFailed → slot.connection.state ≠ .kFailed) ∨
      NewSocket m slot'.connection.fd) : m'.Watched := by
  have hconfig : m'.config = m.config := congrArg Prod.fst hsur
  have hcommand : m'.commandFd = m.commandFd := congrArg (fun s => s.2.2.2.1) hsur
  have hmem : slot ∈ m.slots := List.mem_of_getElem? hx
  -- a slot in another position is on another fd
  have hother : ∀ s ∈ m'.slots, s = slot' ∨ s ∈ m.slots ∧
      s.connection.fd ≠ slot.connection.fd ∧ s.connection.fd ≠ slot'.connection.fd := by
    intro s hs
    rw [hslots] at hs
    obtain ⟨j, hj⟩ := List.mem_iff_getElem?.mp hs
    by_cases hji : j = i
    · subst hji
      obtain ⟨hlt, _⟩ := List.getElem?_eq_some_iff.mp hx
      rw [List.getElem?_set_self hlt] at hj
      exact Or.inl (Option.some.inj hj).symm
    · rw [List.getElem?_set_ne (Ne.symm hji)] at hj
      have hne : s.connection.fd ≠ slot.connection.fd :=
        fun heq => hji (fd_position_unique h.fds_nodup hx hj heq)
      refine Or.inr ⟨List.mem_of_getElem? hj, hne, ?_⟩
      rcases hfd with ⟨hsame, _⟩ | hnew
      · rw [hsame]
        exact hne
      · exact hnew.slots s (List.mem_of_getElem? hj)
  refine ⟨?_, ?_, ?_⟩
  · rw [hslots]
    rcases hfd with ⟨hsame, _⟩ | hnew
    · rw [map_set_same hx hsame]
      exact h.fds_nodup
    · rw [List.map_set]
      refine h.fds_nodup.set ?_
      intro hin
      obtain ⟨s, hs, heq⟩ := List.mem_map.mp hin
      exact hnew.slots s hs heq
  · intro s hs hlive
    have hinterest : m'.interest s.connection = m.interest s.connection := by
      rw [interest, interest, hconfig]
    rw [hinterest]
    rcases hother s hs with rfl | ⟨hold, hne, hne'⟩
    · exact hset.registered hlive
    · rw [hset.elsewhere _ hne hne']
      exact h.registered s hold hlive
  · intro s hs hlive
    rw [hcommand]
    rcases hother s hs with rfl | ⟨hold, _, _⟩
    · rcases hfd with ⟨hsame, hwas⟩ | hnew
      · rw [hsame]
        exact h.command slot hmem (hwas hlive)
      · exact hnew.command
    · exact h.command s hold hlive

/-! ## The operations on one slot -/

theorem onConnectionFailed_epollSet (io : SlotIo) (hx : m.slots[i]? = some slot)
    (hfd : 0 ≤ slot.connection.fd) :
    (m.onConnectionFailed i io).epollSet = m.epollSet.del slot.connection.fd := by
  rw [onConnectionFailed_eq io hx hfd]
  rfl

/-- The connection has failed, and its fd is dropped. -/
theorem refreshed_del (hfailed : slot'.connection.state = .kFailed) :
    m.Refreshed slot slot' (m.epollSet.del slot.connection.fd) where
  registered := fun hlive => absurd hfailed hlive
  elsewhere := fun _ hne _ => EpollSet.lookup_del_ne _ hne

/-- `sync_epoll_interest`. -/
theorem refreshed_mod (h : m.Registered m.epollSet slot)
    (hfd : slot'.connection.fd = slot.connection.fd)
    (hlive : slot'.connection.state ≠ .kFailed → slot.connection.state ≠ .kFailed) :
    m.Refreshed slot slot' (m.epollSet.mod slot'.connection.fd (m.interest slot'.connection)) where
  registered := by
    intro hlive'
    have hold := h (hlive hlive')
    rw [← hfd] at hold
    exact EpollSet.lookup_mod _ _ hold
  elsewhere := fun _ _ hne => EpollSet.lookup_mod_ne _ _ hne

/-- What the connection wants is still what it is registered for. -/
theorem refreshed_same (h : m.Registered m.epollSet slot)
    (hfd : slot'.connection.fd = slot.connection.fd)
    (hlive : slot'.connection.state ≠ .kFailed → slot.connection.state ≠ .kFailed ∧
      slot'.connection.wantsWrite = slot.connection.wantsWrite) :
    m.Refreshed slot slot' m.epollSet where
  registered := by
    intro hlive'
    obtain ⟨hlive, hwants⟩ := hlive hlive'
    rw [hfd, h hlive, interest, interest, hwants]
  elsewhere := fun _ _ _ => rfl

theorem handleConnectionEvent_refreshed (events : EpollEvents) (now : Int) (io : SlotIo)
    (hx : m.slots[i]? = some slot) (hfd : 0 ≤ slot.connection.fd)
    (h : m.Registered m.epollSet slot) :
    m.Refreshed slot (slot.handled m.config events now io)
      (m.handleConnectionEvent i events now io).epollSet := by
  obtain ⟨hlt, _⟩ := List.getElem?_eq_some_iff.mp hx
  have hplace : (slot.onEvent m.config events now io).connection.fd = slot.connection.fd :=
    congrArg Prod.fst (Slot.onEvent_place slot m.config events now io)
  unfold handleConnectionEvent Slot.handled
  simp only [modifySlot_eq _ hx, List.getElem?_set_self hlt]
  by_cases hf : (slot.onEvent m.config events now io).connection.state = .kFailed
  · rw [if_pos hf, if_pos hf,
      onConnectionFailed_epollSet io (List.getElem?_set_self hlt) (hplace.symm ▸ hfd), hplace]
    apply refreshed_del
    rw [Slot.fail_connection, hf]
  · rw [if_neg hf, if_neg hf]
    simp only [syncEpollInterest, List.getElem?_set_self hlt]
    refine refreshed_mod h hplace fun _ hs => hf ?_
    exact Slot.onEvent_stays_failed m.config events now io hs

theorem checkSlot_refreshed (now : Int) (io : SlotIo) (hx : m.slots[i]? = some slot)
    (hfd : 0 ≤ slot.connection.fd) (h : m.Registered m.epollSet slot) :
    m.Refreshed slot (slot.checked m.config now io) (m.checkSlot i now io).epollSet := by
  obtain ⟨hlt, _⟩ := List.getElem?_eq_some_iff.mp hx
  have hplace : (slot.check m.config now io).2.connection.fd = slot.connection.fd :=
    congrArg Prod.fst (Slot.check_place slot m.config now io)
  simp only [checkSlot, hx, Slot.checked, modifySlot_eq _ hx]
  by_cases hv : (slot.check m.config now io).1 = true
  · rw [if_pos hv, if_pos hv,
      onConnectionFailed_epollSet io (List.getElem?_set_self hlt) (hplace.symm ▸ hfd), hplace]
    apply refreshed_del
    rw [Slot.fail_connection, ((Slot.check_verdict slot m.config now io).mp hv).2]
  · rw [if_neg hv, if_neg hv]
    refine refreshed_same h hplace fun hlive => ⟨fun hs => hlive ?_, ?_⟩
    · exact Connection.call_stays_failed _ ⟨m.config, io.env, .checkTimeout now⟩ hs rfl
    · exact Connection.checkTimeout_wantsWrite m.config (slot.connection.withEnv io.env) now hlive

/-- The PING part of a turn of the tick, and the check after it. -/
theorem pinged_refreshed (now : Int) (io : SlotIo) (hx : m.slots[i]? = some slot)
    (hfd : 0 ≤ slot.connection.fd) (h : m.Registered m.epollSet slot) :
    m.Refreshed slot ((slot.pingIfDue m.config now io).checked m.config now io)
      ((if now ≥ slot.nextPingDueNs then
        (m.modifySlot i fun slot => slot.pingIfDue m.config now io).syncEpollInterest i
      else m).checkSlot i now io).epollSet := by
  obtain ⟨hlt, _⟩ := List.getElem?_eq_some_iff.mp hx
  have hplace : (slot.pingIfDue m.config now io).connection.fd = slot.connection.fd :=
    congrArg Prod.fst (Slot.pingIfDue_place slot m.config now io)
  by_cases hdue : now ≥ slot.nextPingDueNs
  · have hping : m.Refreshed slot (slot.pingIfDue m.config now io)
        (m.epollSet.mod (slot.pingIfDue m.config now io).connection.fd
          (m.interest (slot.pingIfDue m.config now io).connection)) := by
      refine refreshed_mod h hplace fun hlive hs => hlive ?_
      rw [Slot.pingIfDue, if_pos hdue]
      exact Connection.call_stays_failed _ ⟨m.config, io.env, .sendPing now⟩ hs rfl
    rw [if_pos hdue, modifySlot_eq _ hx]
    simp only [syncEpollInterest, List.getElem?_set_self hlt]
    have hcheck := checkSlot_refreshed (m := { m with
        slots := m.slots.set i (slot.pingIfDue m.config now io)
        epollSet := m.epollSet.mod (slot.pingIfDue m.config now io).connection.fd
          (m.interest (slot.pingIfDue m.config now io).connection) })
      now io (List.getElem?_set_self hlt) (hplace.symm ▸ hfd) hping.registered
    refine ⟨hcheck.registered, fun fd hne hne' => ?_⟩
    have hping' := hping.elsewhere fd hne (hplace.symm ▸ hne)
    exact (hcheck.elsewhere fd (hplace.symm ▸ hne) hne').trans hping'
  · rw [if_neg hdue, Slot.pingIfDue, if_neg hdue]
    exact checkSlot_refreshed now io hx hfd h

theorem initiateConnect_refreshed (now : Int) (io : SlotIo) (hx : m.slots[i]? = some slot)
    (hfailed : slot.connection.state = .kFailed) :
    m.Refreshed slot (slot.reconnected m.config now io) (m.initiateConnect i now io).epollSet := by
  obtain ⟨hlt, _⟩ := List.getElem?_eq_some_iff.mp hx
  simp only [initiateConnect, Slot.reconnected, modifySlot_eq _ hx, List.getElem?_set_self hlt]
  cases io.socket with
  | none =>
      refine ⟨fun hlive => absurd ?_ hlive, fun _ _ _ => rfl⟩
      rw [Slot.scheduleReconnect_connection]
      exact hfailed
  | some fd =>
      refine ⟨fun _ => EpollSet.lookup_add _ _, fun other hne hne' => ?_⟩
      have hadd := EpollSet.lookup_add_ne (m.epollSet.del slot.connection.fd)
        (m.interest ({ slot with reconnectReadyAtNs := -1 }.invoke m.config io.env
          (.rebind fd now)).connection) hne'
      exact hadd.trans (EpollSet.lookup_del_ne _ hne)

/-- One turn of the tick. -/
theorem tickSlot_refreshed (now : Int) (io : Nat → SlotIo) (hx : m.slots[i]? = some slot)
    (hfd : 0 ≤ slot.connection.fd) (h : m.Registered m.epollSet slot) :
    m.Refreshed slot (slot.ticked m.config now (io i)) (tickSlot now io m i).epollSet := by
  have hsame : m.Refreshed slot slot m.epollSet := refreshed_same h rfl fun hlive => ⟨hlive, rfl⟩
  simp only [tickSlot, hx, Slot.ticked]
  cases hs : slot.connection.state with
  | kHealthy => exact pinged_refreshed now (io i) hx hfd h
  | kDegraded => exact pinged_refreshed now (io i) hx hfd h
  | kConnecting => exact checkSlot_refreshed now (io i) hx hfd h
  | kHandshaking => exact checkSlot_refreshed now (io i) hx hfd h
  | kFailed =>
      dsimp only
      simp only [Slot.reconnectDue, decide_eq_true_eq]
      split
      · exact initiateConnect_refreshed now (io i) hx hs
      · exact hsame
  | kDisconnected => exact hsame
  | kReconnecting => exact hsame

/-! ## Steps -/

/-- An edit that keeps the fd and does not bring the connection back. -/
theorem Watched.edit {tidy : Prop} (h : m.Watched) (hx : m.slots[i]? = some slot)
    (hedit : Edit tidy m i slot slot' m') (hset : m.Refreshed slot slot' m'.epollSet)
    (hfd : slot'.connection.fd = slot.connection.fd)
    (hlive : slot'.connection.state ≠ .kFailed → slot.connection.state ≠ .kFailed) : m'.Watched :=
  h.set hx hedit.slots_eq hedit.surroundings_eq hset (Or.inl ⟨hfd, hlive⟩)

theorem tickSlot_watched (h : m.Watched) (now : Int) (io : Nat → SlotIo) (i : Nat)
    (hsound : ∀ slot, m.slots[i]? = some slot → slot.Sound) (hnew : TurnSocketNew now io m i) :
    (tickSlot now io m i).Watched := by
  cases hx : m.slots[i]? with
  | none =>
      have hsame : tickSlot now io m i = m := by rw [tickSlot, hx]
      rw [hsame]
      exact h
  | some slot =>
      have hslot := hsound slot hx
      have hedit := tickSlot_edit now io hx hslot.fd hslot.role
      refine h.set hx hedit.slots_eq hedit.surroundings_eq
        (tickSlot_refreshed now io hx hslot.fd (h.registered slot (List.mem_of_getElem? hx))) ?_
      rcases Slot.ticked_fd slot m.config now (io i) with heq | hsocket
      · by_cases hback : slot.connection.state = .kFailed ∧
            (slot.ticked m.config now (io i)).connection.state ≠ .kFailed
        · obtain ⟨hdue, fd, hsocket, hfd⟩ := ticked_socket hback.1 hback.2
          rw [hfd]
          exact Or.inr (hnew slot fd hx hback.1 hdue hsocket)
        · exact Or.inl ⟨heq, fun hlive hf => hback ⟨hf, hlive⟩⟩
      · obtain ⟨hf, hdue, fd, hfd, heq⟩ := Slot.newFd_eq_some hsocket
        rw [heq]
        exact Or.inr (hnew slot fd hx hf hdue hfd)

theorem withFeed_watched (h : m.Watched) (endpoint : FeedEndpoint) (fd : Nat) (now : Int)
    (hnew : NewSocket m fd) : (m.withFeed endpoint fd now).Watched := by
  refine ⟨?_, ?_, ?_⟩
  · rw [withFeed, List.map_append]
    refine h.fds_nodup.append (List.nodup_singleton _) ?_
    intro a ha hb
    obtain ⟨s, hs, rfl⟩ := List.mem_map.mp ha
    exact hnew.slots s hs (List.mem_singleton.mp hb)
  · intro s hs hlive
    rcases List.mem_append.mp hs with hold | hadded
    · exact (EpollSet.lookup_add_ne _ _ (hnew.slots s hold)).trans (h.registered s hold hlive)
    · rw [List.mem_singleton.mp hadded]
      exact EpollSet.lookup_add _ _
  · intro s hs hlive
    rcases List.mem_append.mp hs with hold | hadded
    · exact h.command s hold hlive
    · rw [List.mem_singleton.mp hadded]
      exact hnew.command

theorem removeSlotAt_watched (hsound : m.Sound) (h : m.Watched) (hx : m.slots[i]? = some slot) :
    (m.removeSlotAt i).Watched := by
  obtain ⟨hlt, _⟩ := List.getElem?_eq_some_iff.mp hx
  rw [removeSlotAt_eq hsound hx]
  refine ⟨FlatIndex.nodup_map_swapRemove hlt h.fds_nodup, ?_, ?_⟩
  · intro s hs hlive
    obtain ⟨j, hji, hj⟩ := FlatIndex.mem_swapRemove hlt hs
    have hne : s.connection.fd ≠ slot.connection.fd :=
      fun heq => hji (fd_position_unique h.fds_nodup hx hj heq)
    exact (EpollSet.lookup_del_ne _ hne).trans (h.registered s (List.mem_of_getElem? hj) hlive)
  · intro s hs hlive
    obtain ⟨j, _, hj⟩ := FlatIndex.mem_swapRemove hlt hs
    exact h.command s (List.mem_of_getElem? hj) hlive

/-- `EPOLL_CTL_ADD` of the command fd succeeds: it is not registered yet. -/
def CommandFdAdded (m : FeedMonitor) : MonitorStep → Prop
  | .command (.setCommandInput fd) => fd ∉ m.epollSet
  | _ => True

theorem setCommandInput_watched (h : m.Watched) (fd : Int) (hadd : fd ∉ m.epollSet) :
    (m.setCommandInput fd).Watched := by
  have hne : ∀ slot ∈ m.slots, slot.connection.state ≠ .kFailed → slot.connection.fd ≠ fd := by
    intro slot hslot hlive heq
    apply hadd
    rw [← heq, ← AList.lookup_isSome, h.registered slot hslot hlive]
    rfl
  refine ⟨h.fds_nodup, ?_, hne⟩
  intro slot hslot hlive
  exact (EpollSet.lookup_add_ne _ _ (hne slot hslot hlive)).trans (h.registered slot hslot hlive)

theorem command_watched (hlisted : m.Listed) (h : m.Watched) (c : MonitorCommand)
    (hnew : SocketsNew m (.command c)) (hadd : CommandFdAdded m (.command c)) :
    (m.command c).Watched := by
  have hresult := command_result hlisted.sound c
  generalize m.command c = result at hresult ⊢
  cases hresult with
  | idle => exact h
  | added endpoint fd now hfeed => exact withFeed_watched h endpoint fd now (hnew hfeed)
  | removed feedId i slot hlookup hx => exact removeSlotAt_watched hlisted.sound h hx
  | disconnected feedId now io i slot hlookup hx hlive =>
      exact h.edit hx (disconnected_edit m i slot now io)
        (refreshed_del (Slot.disconnected_state slot m.config now io))
        (congrArg Prod.fst (Slot.disconnected_place slot m.config now io)) fun _ => hlive
  | renewed feedId i slot hlookup hx hfailed =>
      refine h.set hx rfl rfl ?_ (Or.inl ⟨rfl, id⟩)
      exact refreshed_same (h.registered slot (List.mem_of_getElem? hx)) rfl
        fun hlive => ⟨hlive, rfl⟩
  | intervalSet interval => exact ⟨h.fds_nodup, h.registered, h.command⟩
  | timeoutSet timeout now =>
      refine ⟨?_, ?_, ?_⟩
      · rw [setHeartbeatTimeout, List.map_map]
        exact h.fds_nodup
      · intro slot' hslot'
        obtain ⟨slot, hslot, rfl⟩ := List.mem_map.mp hslot'
        exact h.registered slot hslot
      · intro slot' hslot'
        obtain ⟨slot, hslot, rfl⟩ := List.mem_map.mp hslot'
        exact h.command slot hslot
  | inputSet fd => exact setCommandInput_watched h fd hadd

theorem step_watched (hlisted : m.Listed) (h : m.Watched) (s : MonitorStep)
    (hnew : SocketsNew m s) (hadd : CommandFdAdded m s) : (m.step s).Watched := by
  cases s with
  | command c => exact command_watched hlisted h c hnew hadd
  | timerTick now io =>
      refine onTimerTick_invariant hlisted.sound now io hnew ?_ h
      intro mid k hslot hsocket hmid
      refine tickSlot_watched hmid now io k ?_ hsocket
      intro slot hx
      exact hlisted.sound.at (hslot.symm.trans hx)
  | connectionEvent fd events now io =>
      simp only [step]
      split
      · exact h
      · next index _ =>
          cases hx : m.slots[index]? with
          | none =>
              rw [handleConnectionEvent_none events now io hx]
              exact h
          | some slot =>
              have hfd := (hlisted.sound.at hx).fd
              refine h.edit hx (handleConnectionEvent_edit events now io hx hfd)
                (handleConnectionEvent_refreshed events now io hx hfd
                  (h.registered slot (List.mem_of_getElem? hx)))
                (congrArg Prod.fst (Slot.handled_place slot m.config events now io)) ?_
              intro hlive hs
              rw [Slot.handled_state] at hlive
              exact hlive (Slot.onEvent_stays_failed m.config events now io hs)

/-! ## Runs -/

end FeedMonitor

/-- What happens between two looks at the monitor: its owner calls an
operation, or `run` handles one event. -/
inductive MonitorTurn where
  | operation (command : MonitorCommand)
  | event (now : Int) (event : MonitorEvent)

namespace FeedMonitor

variable {m : FeedMonitor}

def turn (m : FeedMonitor) : MonitorTurn → FeedMonitor
  | .operation c => m.command c
  | .event now e => dispatchEvent now m e

/-- The steps it amounts to. -/
def turnSteps (m : FeedMonitor) : MonitorTurn → List MonitorStep
  | .operation c => [.command c]
  | .event now e => eventSteps now m e

/-- New sockets have new numbers, and the command fd can be registered. -/
def TurnAdmitted (m : FeedMonitor) (t : MonitorTurn) : Prop :=
  Runs.Along step (fun m s => SocketsNew m s ∧ CommandFdAdded m s) m (m.turnSteps t)

instance (m : FeedMonitor) (s : MonitorStep) : Decidable (CommandFdAdded m s) :=
  match s with
  | .command (.setCommandInput fd) => inferInstanceAs (Decidable (fd ∉ m.epollSet))
  | .command (.addFeed _ _ _) => isTrue trivial
  | .command (.removeFeed _) => isTrue trivial
  | .command (.forceDisconnect _ _ _) => isTrue trivial
  | .command (.forceReconnect _) => isTrue trivial
  | .command (.setHeartbeatInterval _) => isTrue trivial
  | .command (.setHeartbeatTimeout _ _) => isTrue trivial
  | .timerTick _ _ => isTrue trivial
  | .connectionEvent _ _ _ _ => isTrue trivial

instance (m : FeedMonitor) (t : MonitorTurn) : Decidable (TurnAdmitted m t) :=
  inferInstanceAs (Decidable (Runs.Along ..))

/-- The command fd is dropped at EOF. -/
theorem Watched.dropCommandFd (hsound : m.Sound) (h : m.Watched) :
    Watched { m with epollSet := m.epollSet.del m.commandFd, commandFd := -1 } where
  fds_nodup := h.fds_nodup
  registered := by
    intro slot hslot hlive
    exact (EpollSet.lookup_del_ne _ (h.command slot hslot hlive)).trans
      (h.registered slot hslot hlive)
  command := by
    intro slot hslot _ heq
    have hfd := (hsound slot hslot).fd
    have hneg : slot.connection.fd = -1 := heq
    omega

theorem turn_watched (m : FeedMonitor) (t : MonitorTurn) (h : m.Listed ∧ m.Watched)
    (hadm : TurnAdmitted m t) : (m.turn t).Listed ∧ (m.turn t).Watched := by
  have hsteps : ((m.turnSteps t).foldl step m).Listed ∧ ((m.turnSteps t).foldl step m).Watched :=
    Runs.invariant (I := fun m => m.Listed ∧ m.Watched)
      (fun _ s h hok => ⟨step_listed h.1 s, step_watched h.1 h.2 s hok.1 hok.2⟩) h hadm
  cases t with
  | operation c => exact hsteps
  | event now e =>
      show (dispatchEvent now m e).Listed ∧ (dispatchEvent now m e).Watched
      rcases dispatchEvent_steps now m e with heq | heq
      · rw [heq]
        exact hsteps
      · obtain ⟨hlisted, hwatched⟩ := hsteps
        rw [heq]
        exact ⟨⟨hlisted.sound, hlisted.feedIndex, hlisted.objects_nodup, hlisted.objects_lt⟩,
          hwatched.dropCommandFd hlisted.sound⟩

theorem run_watched (config : Config) (timerFd wakeFd : Int) (turns : List MonitorTurn)
    (hadm : Runs.Along turn TurnAdmitted (create config timerFd wakeFd) turns) :
    (turns.foldl turn (create config timerFd wakeFd)).Watched :=
  (Runs.invariant turn_watched
    ⟨listed_create config timerFd wakeFd, watched_create config timerFd wakeFd⟩ hadm).2

end FeedMonitor

end Vigil
