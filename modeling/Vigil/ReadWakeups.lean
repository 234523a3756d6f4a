import Vigil.EdgeTriggered
import Vigil.WriteWakeups

/-!
# No lost read wake-up

With `edge_triggered` set, epoll reports a socket once for every arrival of
bytes, so `on_readable` has to receive until EAGAIN, and the reactor has to hand
every report to the connection it is for.  Here both reactors are put into an
`EdgeTriggered.World`: bytes arrive on any socket at any time, `recv()` answers
from what is unread, and `epoll_wait` reports what is marked.
-/

namespace Vigil

open ByteOrder

/-! ## One connection -/

/-- What the `recv()` answers of one call leave of the unread bytes, if the
kernel can have answered so: data is the front of what is unread, and EAGAIN
and the end of the stream come when nothing is. -/
def leftUnread : List Byte → List RecvOutcome → Option (List Byte)
  | unread, .data chunk :: rest =>
      if chunk.val <+: unread then leftUnread (unread.drop chunk.val.length) rest else none
  | unread, .eintr :: rest => leftUnread unread rest
  | unread, .error _ :: _ => some unread
  | unread, _ => if unread = [] then some [] else none

theorem leftUnread_drained {unread rest : List Byte} {recvs : List RecvOutcome}
    (h : leftUnread unread recvs = some rest) (hend : Connection.recvEnd recvs = .drained) :
    rest = [] := by
  induction recvs generalizing unread with
  | nil =>
      simp only [leftUnread, Option.ite_none_right_eq_some, Option.some.injEq] at h
      exact h.2.symm
  | cons outcome recvs ih =>
      cases outcome with
      | data chunk =>
          simp only [leftUnread, Option.ite_none_right_eq_some] at h
          exact ih h.2 hend
      | eintr => exact ih h hend
      | eagain =>
          simp only [leftUnread, Option.ite_none_right_eq_some, Option.some.injEq] at h
          exact h.2.symm
      | eof => cases hend
      | error errno => cases hend

/-- **Receiving until EAGAIN.**  `on_readable` leaves nothing unread unless it
fails the connection. -/
theorem Connection.onReadable_drains {σ : Type} {unread rest : List Byte}
    {recvs : List RecvOutcome} (hleft : leftUnread unread recvs = some rest) (cfg : Config)
    (c : Connection σ) (now : Int) (hlive : (c.onReadable cfg recvs now).state ≠ .kFailed) :
    rest = [] := by
  rcases onReadable_eq cfg c recvs now with ⟨all, _, heq⟩ | ⟨buf, _, _, heq⟩
  · refine leftUnread_drained hleft ?_
    rw [heq] at hlive
    cases hend : recvEnd recvs with
    | drained => rfl
    | peerClosed =>
        refine absurd ?_ hlive
        rw [hend, finishRead]
        split
        · assumption
        · rfl
    | socketError errno =>
        refine absurd ?_ hlive
        rw [hend, finishRead]
        split
        · assumption
        · rfl
  · rw [heq] at hlive
    exact absurd rfl hlive

/-! ## The monitor -/

namespace Slot

/-- Does handling the event read from the slot's socket? -/
def receives (slot : Slot) (cfg : Config) (events : EpollEvents) (now : Int) (io : SlotIo) : Bool :=
  !(events.epollHup || events.epollErr) && events.epollIn &&
    (slot.writeIfWritable cfg events now io).connection.state ≠ .kFailed

theorem handled_receives {slot : Slot} {cfg : Config} {events : EpollEvents} {now : Int}
    {io : SlotIo} (hin : events.epollIn = true)
    (hlive : (slot.handled cfg events now io).connection.state ≠ .kFailed) :
    slot.receives cfg events now io = true := by
  rw [handled_state] at hlive
  unfold onEvent at hlive
  split at hlive
  · exact absurd rfl hlive
  · next hup =>
      by_cases hwritten : (slot.writeIfWritable cfg events now io).connection.state = .kFailed
      · dsimp only at hlive
        rw [if_neg (fun h => h.1 hwritten)] at hlive
        exact absurd hwritten hlive
      · simpa [receives, hin, hwritten] using hup

theorem handled_drains {slot : Slot} {cfg : Config} {events : EpollEvents} {now : Int}
    {io : SlotIo} {unread rest : List Byte} (hreceives : slot.receives cfg events now io = true)
    (hleft : leftUnread unread io.recvs = some rest)
    (hlive : (slot.handled cfg events now io).connection.state ≠ .kFailed) : rest = [] := by
  simp only [receives, Bool.and_eq_true, Bool.not_eq_true', decide_eq_true_eq] at hreceives
  obtain ⟨⟨hup, hin⟩, hwritten⟩ := hreceives
  rw [handled_state, onEvent, if_neg (by simp [hup])] at hlive
  dsimp only at hlive
  rw [if_pos ⟨hwritten, hin⟩] at hlive
  exact Connection.onReadable_drains hleft cfg _ now hlive

end Slot

namespace FeedMonitor

open FlatIndex

variable {m m' : FeedMonitor} {i : Nat} {slot slot' : Slot}

/-- A connection that has not failed is on this fd. -/
def Live (m : FeedMonitor) (fd : Int) : Prop :=
  ∃ slot ∈ m.slots, slot.connection.state ≠ .kFailed ∧ slot.connection.fd = fd

/-- Events for a connection that has not failed find it.  The map may have
other entries: a PING that fails its connection inside a tick leaves one. -/
structure Routes (m : FeedMonitor) : Prop where
  found : Finds liveFd m.indexOfFd m.slots
  wake : ∀ slot ∈ m.slots, slot.connection.fd ≠ m.wakeFd
  timer : ∀ slot ∈ m.slots, slot.connection.fd ≠ m.timerFd

theorem routes_create (config : Config) (timerFd wakeFd : Int) :
    (create config timerFd wakeFd).Routes where
  found := finds_nil
  wake := fun _ h => absurd h List.not_mem_nil
  timer := fun _ h => absurd h List.not_mem_nil

/-- No other slot is indexed under this fd. -/
theorem Watched.other_fd (h : m.Watched) (hx : m.slots[i]? = some slot) (j : Nat) (z : Slot)
    (hji : j ≠ i) (hz : m.slots[j]? = some z) : liveFd z ≠ some slot.connection.fd := fun heq =>
  hji (fd_position_unique h.fds_nodup hx hz (liveFd_eq_some heq).1)

theorem NewSocket.unindexed {fd : Int} (h : NewSocket m fd) : ∀ z ∈ m.slots, liveFd z ≠ some fd :=
  fun z hz heq => h.slots z hz (liveFd_eq_some heq).1

/-- **One slot changes.** -/
theorem Routes.edit {tidy : Prop} (h : m.Routes) (hwatched : m.Watched)
    (hx : m.slots[i]? = some slot) (hedit : Edit tidy m i slot slot' m')
    (huntidy : ¬ tidy → slot'.connection.state ≠ .kFailed → slot.connection.state ≠ .kFailed)
    (hfd : slot'.connection.fd = slot.connection.fd ∨ NewSocket m slot'.connection.fd) :
    m'.Routes := by
  have hsur := hedit.surroundings_eq
  have hslots := hedit.slots_eq
  have hapart : ∀ fd, (∀ s ∈ m.slots, s.connection.fd ≠ fd) →
      (NewSocket m slot'.connection.fd → slot'.connection.fd ≠ fd) →
      ∀ s ∈ m'.slots, s.connection.fd ≠ fd := by
    intro fd hall hnew s hs
    rw [hslots] at hs
    rcases List.mem_or_eq_of_mem_set hs with hold | rfl
    · exact hall s hold
    · rcases hfd with hsame | hsocket
      · rw [hsame]
        exact hall slot (List.mem_of_getElem? hx)
      · exact hnew hsocket
  refine ⟨?_, ?_, ?_⟩
  · cases hedit with
    | keep set hsame hlive =>
        refine h.found.set_keep hx ?_
        intro fd hkey
        obtain ⟨hfd', hlive'⟩ := liveFd_eq_some hkey
        have hwas : slot.connection.state ≠ .kFailed := by
          by_cases htidy : tidy
          · exact fun hf => hlive' ((hlive htidy).mpr hf)
          · exact huntidy htidy hlive'
        rw [liveFd_live hwas, ← hsame, hfd']
    | drop set hsame hfailed =>
        have hset : Finds liveFd m.indexOfFd (m.slots.set i slot') :=
          h.found.set_keep hx fun fd hkey => by
            rw [liveFd_failed hfailed] at hkey
            cases hkey
        refine hset.erase ?_
        intro z hz
        obtain ⟨j, hj⟩ := List.mem_iff_getElem?.mp hz
        by_cases hji : j = i
        · subst hji
          obtain ⟨hlt, _⟩ := List.getElem?_eq_some_iff.mp hx
          rw [List.getElem?_set_self hlt] at hj
          rw [← Option.some.inj hj, liveFd_failed hfailed]
          nofun
        · rw [List.getElem?_set_ne (Ne.symm hji)] at hj
          exact hwatched.other_fd hx j z hji hj
    | gain set hfailed hlive =>
        refine h.found.set_insert hx (liveFd_live hlive) ?_
        intro j z hji hz
        rcases hfd with hsame | hsocket
        · rw [hsame]
          exact hwatched.other_fd hx j z hji hz
        · exact hsocket.unindexed z (List.mem_of_getElem? hz)
  · have hwake : m'.wakeFd = m.wakeFd := congrArg (fun s => s.2.2.1) hsur
    rw [hwake]
    exact hapart m.wakeFd h.wake fun hnew => hnew.wake
  · have htimer : m'.timerFd = m.timerFd := congrArg (fun s => s.2.1) hsur
    rw [htimer]
    exact hapart m.timerFd h.timer fun hnew => hnew.timer

theorem tickSlot_routes (h : m.Routes) (hwatched : m.Watched) (now : Int) (io : Nat → SlotIo)
    (i : Nat) (hsound : ∀ slot, m.slots[i]? = some slot → slot.Sound)
    (hnew : TurnSocketNew now io m i) : (tickSlot now io m i).Routes := by
  cases hx : m.slots[i]? with
  | none =>
      have hsame : tickSlot now io m i = m := by rw [tickSlot, hx]
      rw [hsame]
      exact h
  | some slot =>
      have hslot := hsound slot hx
      refine h.edit hwatched hx (tickSlot_edit now io hx hslot.fd hslot.role) ?_ ?_
      · intro hlost _ hfailed
        obtain ⟨hstate, _⟩ := not_not.mp hlost
        rw [hfailed] at hstate
        exact absurd hstate (by decide)
      · rcases Slot.ticked_fd slot m.config now (io i) with hsame | hsocket
        · exact Or.inl hsame
        · obtain ⟨hf, hdue, fd, hfd, heq⟩ := Slot.newFd_eq_some hsocket
          rw [heq]
          exact Or.inr (hnew slot fd hx hf hdue hfd)

theorem removeSlotAt_routes (hsound : m.Sound) (h : m.Routes) (hwatched : m.Watched)
    (hx : m.slots[i]? = some slot) : (m.removeSlotAt i).Routes := by
  obtain ⟨hlt, _⟩ := List.getElem?_eq_some_iff.mp hx
  rw [removeSlotAt_eq hsound hx]
  have hkept : ∀ fd, (∀ s ∈ m.slots, s.connection.fd ≠ fd) →
      ∀ s ∈ swapRemove m.slots i, s.connection.fd ≠ fd := by
    intro fd hall s hs
    obtain ⟨j, _, hj⟩ := mem_swapRemove hlt hs
    exact hall s (List.mem_of_getElem? hj)
  refine ⟨?_, hkept _ h.wake, hkept _ h.timer⟩
  refine h.found.swapRemove hx (hwatched.other_fd hx) ?_
  intro j l y z fd hy hz hky hkz
  exact fd_position_unique hwatched.fds_nodup hz hy
    ((liveFd_eq_some hky).1.trans (liveFd_eq_some hkz).1.symm)

theorem withFeed_routes (h : m.Routes) (endpoint : FeedEndpoint) (fd : Nat) (now : Int)
    (hnew : NewSocket m fd) : (m.withFeed endpoint fd now).Routes := by
  have hadded : ∀ other : Int, (∀ s ∈ m.slots, s.connection.fd ≠ other) → (fd : Int) ≠ other →
      ∀ s ∈ (m.withFeed endpoint fd now).slots, s.connection.fd ≠ other := by
    intro other hall hne s hs
    rcases List.mem_append.mp hs with hold | hlast
    · exact hall s hold
    · rw [List.mem_singleton.mp hlast]
      exact hne
  refine ⟨?_, hadded _ h.wake hnew.wake, hadded _ h.timer hnew.timer⟩
  exact h.found.append rfl hnew.unindexed

theorem command_routes (hlisted : m.Listed) (hwatched : m.Watched) (h : m.Routes)
    (c : MonitorCommand) (hnew : SocketsNew m (.command c)) : (m.command c).Routes := by
  have hresult := command_result hlisted.sound c
  generalize m.command c = result at hresult ⊢
  cases hresult with
  | idle => exact h
  | added endpoint fd now hfeed => exact withFeed_routes h endpoint fd now (hnew hfeed)
  | removed feedId i slot hlookup hx => exact removeSlotAt_routes hlisted.sound h hwatched hx
  | disconnected feedId now io i slot hlookup hx hlive =>
      exact h.edit hwatched hx (disconnected_edit m i slot now io) (fun _ _ => hlive)
        (Or.inl (congrArg Prod.fst (Slot.disconnected_place slot m.config now io)))
  | renewed feedId i slot hlookup hx hfailed =>
      exact h.edit hwatched hx (renewed_edit m i slot) (fun _ hlive => hlive) (Or.inl rfl)
  | intervalSet interval => exact ⟨h.found, h.wake, h.timer⟩
  | timeoutSet timeout now =>
      have hmapped : ∀ fd, (∀ s ∈ m.slots, s.connection.fd ≠ fd) →
          ∀ s ∈ (m.setHeartbeatTimeout timeout now).slots, s.connection.fd ≠ fd := by
        intro fd hall s' hs'
        obtain ⟨s, hs, rfl⟩ := List.mem_map.mp hs'
        exact hall s hs
      refine ⟨?_, hmapped _ h.wake, hmapped _ h.timer⟩
      intro j s' fd hj hkey
      rw [setHeartbeatTimeout, List.getElem?_map] at hj
      obtain ⟨s, hs, rfl⟩ := Option.map_eq_some_iff.mp hj
      exact h.found j s fd hs hkey
  | inputSet fd => exact ⟨h.found, h.wake, h.timer⟩

/-- What the reactor keeps between two inputs. -/
structure Attentive (m : FeedMonitor) : Prop where
  listed : m.Listed
  watched : m.Watched
  routes : m.Routes

theorem attentive_create (config : Config) (timerFd wakeFd : Int) :
    (create config timerFd wakeFd).Attentive :=
  ⟨listed_create config timerFd wakeFd, watched_create config timerFd wakeFd,
    routes_create config timerFd wakeFd⟩

theorem step_attentive (m : FeedMonitor) (s : MonitorStep) (h : m.Attentive)
    (hok : SocketsNew m s ∧ CommandFdAdded m s) : (m.step s).Attentive := by
  obtain ⟨hnew, hadd⟩ := hok
  refine ⟨step_listed h.listed s, step_watched h.listed h.watched s hnew hadd, ?_⟩
  have hsound := h.listed.sound
  cases s with
  | command c => exact command_routes h.listed h.watched h.routes c hnew
  | timerTick now io =>
      suffices hboth : (m.onTimerTick now io).Watched ∧ (m.onTimerTick now io).Routes from hboth.2
      refine onTimerTick_invariant (I := fun m => m.Watched ∧ m.Routes) hsound now io hnew ?_
        ⟨h.watched, h.routes⟩
      rintro mid k hslot hsocket ⟨hwatched, hroutes⟩
      have hsound' : ∀ slot, mid.slots[k]? = some slot → slot.Sound :=
        fun slot hx => hsound.at (hslot.symm.trans hx)
      exact ⟨tickSlot_watched hwatched now io k hsound' hsocket,
        tickSlot_routes hroutes hwatched now io k hsound' hsocket⟩
  | connectionEvent fd events now io =>
      simp only [step]
      split
      · exact h.routes
      · next index _ =>
          cases hx : m.slots[index]? with
          | none =>
              rw [handleConnectionEvent_none events now io hx]
              exact h.routes
          | some slot =>
              refine h.routes.edit h.watched hx
                (handleConnectionEvent_edit events now io hx (hsound.at hx).fd) ?_
                (Or.inl (congrArg Prod.fst (Slot.handled_place slot m.config events now io)))
              intro hfailed hlive
              rw [Slot.handled_state] at hlive
              exact absurd (Slot.onEvent_stays_failed m.config events now io (not_not.mp hfailed))
                hlive

theorem turn_attentive (m : FeedMonitor) (t : MonitorTurn) (h : m.Attentive)
    (hadm : TurnAdmitted m t) : (m.turn t).Attentive := by
  have hsteps : ((m.turnSteps t).foldl step m).Attentive :=
    Runs.invariant step_attentive h hadm
  obtain ⟨hlisted, hwatched⟩ := turn_watched m t ⟨h.listed, h.watched⟩ hadm
  refine ⟨hlisted, hwatched, ?_⟩
  cases t with
  | operation c => exact hsteps.routes
  | event now e =>
      obtain ⟨set, fd, heq⟩ := dispatchEvent_eq now m e
      rw [turn, heq]
      exact ⟨hsteps.routes.found, hsteps.routes.wake, hsteps.routes.timer⟩

/-! ### Who is live -/

theorem step_opens (h : m.Sound) (s : MonitorStep) {fd : Int} (hlive : (m.step s).Live fd) :
    fd ∈ m.issues s ∨ m.Live fd := by
  obtain ⟨slot', hmem, hstate, hfd⟩ := hlive
  rcases step_origin h s hmem with ⟨i, slot, hx, hstep⟩ | ⟨endpoint, new, t, rfl, hfeed, rfl⟩
  · have hslot := List.mem_of_getElem? hx
    cases hstep with
    | kept => exact Or.inr ⟨slot', hslot, hstate, hfd⟩
    | disconnected feedId now io hlookup hwas =>
        exact absurd (Slot.disconnected_state slot m.config now io) hstate
    | forcedReconnect => exact Or.inr ⟨slot, hslot, hstate, hfd⟩
    | rebased timeout now => exact Or.inr ⟨slot, hslot, hstate, hfd⟩
    | handled _ events now io =>
        rw [Slot.handled_state] at hstate
        refine Or.inr ⟨slot, hslot, ?_, ?_⟩
        · exact fun hf => hstate (Slot.onEvent_stays_failed m.config events now io hf)
        · exact (congrArg Prod.fst (Slot.handled_place slot m.config events now io)).symm.trans hfd
    | ticked now io =>
        have hissued : slot.newFd now (io i) = some fd → fd ∈ m.issues (.timerTick now io) :=
          fun hnew => List.mem_filterMap.mpr
            ⟨(slot, i), List.mem_zipIdx_iff_getElem?.mpr hx, hnew⟩
        by_cases hf : slot.connection.state = .kFailed
        · obtain ⟨hdue, new, hsocket, heq⟩ := ticked_socket hf hstate
          apply Or.inl
          apply hissued
          rw [Slot.newFd, if_pos ⟨hf, hdue⟩, hsocket, ← hfd, heq]
          rfl
        · rcases Slot.ticked_fd slot m.config now (io i) with hsame | hnew
          · exact Or.inr ⟨slot, hslot, hf, hsame.symm.trans hfd⟩
          · rw [hfd] at hnew
            exact Or.inl (hissued hnew)
  · apply Or.inl
    simp only [issues, if_neg hfeed, List.mem_singleton]
    exact hfd.symm

/-- The numbers that a turn gives to new sockets. -/
def turnIssues (m : FeedMonitor) (t : MonitorTurn) : List Int :=
  Ownership.issuedAlong step issues m (m.turnSteps t)

theorem turn_opens (h : m.Attentive) {t : MonitorTurn} (hadm : TurnAdmitted m t) {fd : Int}
    (hlive : (m.turn t).Live fd) : fd ∈ m.turnIssues t ∨ m.Live fd := by
  have hsteps : Ownership.Tracks (fun m fd (_ : Unit) => Live m fd) m (m.turnIssues t)
      ((m.turnSteps t).foldl step m) :=
    Ownership.tracks_run step_attentive
      (fun m s hm _ fd _ hlive => step_opens hm.listed.sound s hlive) h hadm
  refine hsteps fd () ?_
  cases t with
  | operation c => exact hlive
  | event now e =>
      obtain ⟨set, cmd, heq⟩ := dispatchEvent_eq now m e
      rw [turn, heq] at hlive
      exact hlive

/-! ### What is read -/

/-- The socket that a turn receives from. -/
def turnReads (m : FeedMonitor) : MonitorTurn → Option Int
  | .operation _ => none
  | .event now e => ((m.routed e).filter fun slot => slot.receives m.config e.events now e.io).map
      (·.connection.fd)

/-- The monitor among its sockets. -/
def reactor : EdgeTriggered.Reactor FeedMonitor MonitorTurn Int Byte where
  dispatch := turn
  channel
    | .operation _ => none
    | .event _ e => some e.fd
  readable
    | .operation _ => false
    | .event _ e => e.events.epollIn
  reads := turnReads
  leaves
    | .operation _, unread => some unread
    | .event _ e, unread => leftUnread unread e.io.recvs
  issues := turnIssues
  watched m fd := (m.epollSet.lookup fd).any (·.epollIn)
  live := Live

/-- An event for a live connection is routed to it. -/
theorem Attentive.routed (h : m.Attentive) {e : MonitorEvent} (hlive : m.Live e.fd) :
    ∃ i slot, m.indexOfFd.lookup e.fd = some i ∧ m.slots[i]? = some slot ∧
      slot.connection.fd = e.fd ∧ slot.connection.state ≠ .kFailed ∧ m.routed e = some slot := by
  obtain ⟨slot, hslot, hstate, hfd⟩ := hlive
  obtain ⟨i, hx⟩ := List.mem_iff_getElem?.mp hslot
  have hlookup : m.indexOfFd.lookup e.fd = some i :=
    h.routes.found i slot e.fd hx ((liveFd_live hstate).trans (congrArg some hfd))
  refine ⟨i, slot, hlookup, hx, hfd, hstate, ?_⟩
  have hown : ¬ (e.fd = m.wakeFd ∨ e.fd = m.timerFd ∨ e.fd = m.commandFd) := by
    rintro (hwake | htimer | hcommand)
    · exact h.routes.wake slot hslot (hfd.trans hwake)
    · exact h.routes.timer slot hslot (hfd.trans htimer)
    · exact h.watched.command slot hslot hstate (hfd.trans hcommand)
  rw [FeedMonitor.routed, if_neg hown, hlookup]
  exact hx

/-- What an event makes of the slot it is routed to. -/
theorem turn_routed (h : m.Attentive) {now : Int} {e : MonitorEvent}
    (hrouted : m.routed e = some slot) :
    slot ∈ m.slots ∧ ∀ slot' ∈ (m.turn (.event now e)).slots,
      slot'.connection.fd = slot.connection.fd →
        slot' = slot.handled m.config e.events now e.io := by
  obtain ⟨i, hlookup, hx⟩ := routed_eq_some hrouted
  have hmem := List.mem_of_getElem? hx
  refine ⟨hmem, ?_⟩
  intro slot' hslot' hfd
  have hturn : m.turn (.event now e) = m.handleConnectionEvent i e.events now e.io := by
    have hown : ¬ (e.fd = m.wakeFd ∨ e.fd = m.timerFd ∨ e.fd = m.commandFd) := by
      intro hown
      rw [FeedMonitor.routed, if_pos hown] at hrouted
      cases hrouted
    rw [not_or, not_or] at hown
    rw [turn, dispatchEvent, if_neg hown.1, if_neg hown.2.1, if_neg hown.2.2]
    simp only [step, hlookup]
  rw [hturn, (handleConnectionEvent_edit e.events now e.io hx (h.listed.sound.at hx).fd).slots_eq]
    at hslot'
  obtain ⟨j, hj⟩ := List.mem_iff_getElem?.mp hslot'
  by_cases hji : j = i
  · subst hji
    obtain ⟨hlt, _⟩ := List.getElem?_eq_some_iff.mp hx
    rw [List.getElem?_set_self hlt] at hj
    exact (Option.some.inj hj).symm
  · rw [List.getElem?_set_ne (Ne.symm hji)] at hj
    exact absurd (fd_position_unique h.watched.fds_nodup hx hj hfd) hji

/-- **The monitor drains its sockets.** -/
theorem reactor_drains : reactor.Drains Attentive TurnAdmitted where
  keeps := turn_attentive
  watches := by
    rintro m fd h ⟨slot, hslot, hstate, rfl⟩
    show (m.epollSet.lookup slot.connection.fd).any (·.epollIn) = true
    rw [h.watched.registered slot hslot hstate]
    rfl
  tracks := fun m t fd h hadm hlive => turn_opens h hadm hlive
  attends := by
    intro m t fd h hadm hchannel hreadable hlive hlive'
    cases t with
    | operation c => cases hchannel
    | event now e =>
        obtain rfl := Option.some.inj hchannel
        obtain ⟨i, slot, _, hx, hfd, _, hrouted⟩ := h.routed hlive
        obtain ⟨slot', hslot', hstate', hfd'⟩ := hlive'
        have heq := (turn_routed h hrouted).2 slot' hslot' (hfd'.trans hfd.symm)
        rw [heq] at hstate'
        refine Or.inr ?_
        show ((m.routed e).filter _).map _ = some e.fd
        rw [hrouted, Option.filter_some, if_pos (Slot.handled_receives hreadable hstate'),
          Option.map_some, hfd]
  drains := by
    intro m t fd unread rest h hadm hreads hleft hlive'
    cases t with
    | operation c => cases hreads
    | event now e =>
        obtain ⟨slot, hfiltered, rfl⟩ := Option.map_eq_some_iff.mp hreads
        obtain ⟨hrouted, hreceives⟩ := Option.filter_eq_some_iff.mp hfiltered
        obtain ⟨slot', hslot', hstate', hfd'⟩ := hlive'
        have heq := (turn_routed h hrouted).2 slot' hslot' hfd'
        rw [heq] at hstate'
        exact Or.inr (Slot.handled_drains hreceives hleft hstate')

end FeedMonitor

/-! ## The simulator -/

namespace Client

/-- Does handling the event read from the client's socket? -/
def receives (events : EpollEvents) : Bool :=
  !(events.epollHup || events.epollErr) && events.epollIn

theorem onEvent_receives {client : Client} {cfg : Config} {events : EpollEvents} {now : Int}
    {io : ClientIo} (hin : events.epollIn = true)
    (hlive : (client.onEvent cfg events now io).connection.state ≠ .kFailed) :
    receives events = true := by
  unfold onEvent at hlive
  split at hlive
  · exact absurd rfl hlive
  · next hup => simpa [receives, hin] using hup

theorem onEvent_drains {client : Client} {cfg : Config} {events : EpollEvents} {now : Int}
    {io : ClientIo} {unread rest : List Byte} (hreceives : receives events = true)
    (hleft : leftUnread unread io.recvs = some rest)
    (hlive : (client.onEvent cfg events now io).connection.state ≠ .kFailed) : rest = [] := by
  simp only [receives, Bool.and_eq_true, Bool.not_eq_true'] at hreceives
  rw [onEvent, if_neg (by simp [hreceives.1])] at hlive
  -- EPOLLOUT comes second here, and leaves a connection alone that the read failed
  have hread : (client.readIfReadable cfg events now io).connection.state ≠ .kFailed := by
    intro hf
    dsimp only at hlive
    rw [if_neg (fun h => h.1 hf)] at hlive
    exact hlive hf
  rw [readIfReadable, if_pos hreceives.2] at hread
  exact Connection.onReadable_drains hleft cfg _ now hread

end Client

namespace FeedSimulator

variable {s s' s'' : FeedSimulator} {fd : Int} {client client' : Client}

/-- A client that has not failed is on this fd. -/
def Live (s : FeedSimulator) (fd : Int) : Prop :=
  ∃ client, s.clients.lookup fd = some client ∧ client.connection.state ≠ .kFailed

/-- The simulator's own fds. -/
def ownFds (s : FeedSimulator) : Int × Int × Int :=
  (s.wakeFd, s.timerFd, s.listenFd)

/-- No client is on one of them. -/
structure Apart (s : FeedSimulator) : Prop where
  wake : s.clients.lookup s.wakeFd = none
  timer : s.clients.lookup s.timerFd = none
  listen : s.clients.lookup s.listenFd = none

/-- Every client was there before, and lives only if it did. -/
structure Dwindles (s s' : FeedSimulator) : Prop where
  own : s'.ownFds = s.ownFds
  clients : ∀ fd client', s'.clients.lookup fd = some client' →
    ∃ client, s.clients.lookup fd = some client ∧
      (client'.connection.state ≠ .kFailed → client.connection.state ≠ .kFailed)

theorem Dwindles.of_eq (hown : s'.ownFds = s.ownFds) (h : s'.clients = s.clients) :
    Dwindles s s' :=
  ⟨hown, fun _ client' hlookup => ⟨client', h ▸ hlookup, id⟩⟩

theorem Dwindles.trans (h : Dwindles s s') (h' : Dwindles s' s'') : Dwindles s s'' := by
  refine ⟨h'.own.trans h.own, ?_⟩
  intro fd client'' hlookup
  obtain ⟨client', hlookup', hback'⟩ := h'.clients fd client'' hlookup
  obtain ⟨client, hbefore, hback⟩ := h.clients fd client' hlookup'
  exact ⟨client, hbefore, fun hlive => hback (hback' hlive)⟩

/-- A client is put back where it was found. -/
theorem Dwindles.update (hown : s'.ownFds = s.ownFds)
    (hlookup : s.clients.lookup fd = some client)
    (hback : client.connection.state = .kFailed → client'.connection.state = .kFailed)
    (h : s'.clients = s.clients.insert fd client') : Dwindles s s' := by
  refine ⟨hown, ?_⟩
  intro other found hfound
  rw [h] at hfound
  by_cases heq : other = fd
  · subst heq
    rw [AList.lookup_insert] at hfound
    obtain rfl := Option.some.inj hfound
    exact ⟨client, hlookup, fun hlive hf => hlive (hback hf)⟩
  · rw [AList.lookup_insert_ne heq] at hfound
    exact ⟨found, hfound, id⟩

theorem removeClient_dwindles (s : FeedSimulator) (fd : Int) : Dwindles s (s.removeClient fd) := by
  refine ⟨rfl, ?_⟩
  intro other found hfound
  by_cases heq : other = fd
  · subst heq
    rw [removeClient, AList.lookup_erase] at hfound
    cases hfound
  · rw [removeClient, AList.lookup_erase_ne heq] at hfound
    exact ⟨found, hfound, id⟩

theorem handleClientEvent_dwindles (s : FeedSimulator) (fd : Int) (events : EpollEvents)
    (now : Int) (io : ClientIo) : Dwindles s (s.handleClientEvent fd events now io) := by
  unfold handleClientEvent
  split
  · exact Dwindles.of_eq rfl rfl
  · next client hlookup =>
      have hback := Client.onEvent_stays_failed (client.enter (s.env io)) s.config events now io
      dsimp only
      generalize (client.enter (s.env io)).onEvent s.config events now io = called at hback ⊢
      have hstore : Dwindles s (s.store fd called) := Dwindles.update rfl hlookup hback rfl
      split
      · exact hstore.trans (removeClient_dwindles _ fd)
      · exact hstore.trans (Dwindles.of_eq rfl rfl)

theorem checkClient_dwindles (now : Int) (acc : FeedSimulator × List Int) (fd : Int) :
    Dwindles acc.1 (checkClient now acc fd).1 := by
  unfold checkClient
  split
  · exact Dwindles.of_eq rfl rfl
  · next client hlookup =>
      exact Dwindles.update rfl hlookup
        (fun hf => Connection.call_stays_failed client.connection _ hf rfl) rfl

theorem reapClients_dwindles (s : FeedSimulator) (now : Int) : Dwindles s (s.reapClients now) := by
  have hchecked : Dwindles s (s.clients.keys.foldl (checkClient now) (s, [])).1 :=
    List.foldlRecOn (motive := fun acc => Dwindles s acc.1) s.clients.keys (checkClient now)
      (Dwindles.of_eq rfl rfl) fun acc h fd _ => h.trans (checkClient_dwindles now acc fd)
  unfold reapClients
  generalize s.clients.keys.foldl (checkClient now) (s, []) = checked at hchecked ⊢
  exact List.foldlRecOn checked.2 removeClient hchecked
    fun acc h fd _ => h.trans (removeClient_dwindles acc fd)

theorem fireReply_dwindles (now : Int) (io : Nat → ClientIo)
    (acc : FeedSimulator × List PendingReply) (p : PendingReply × Nat) :
    Dwindles acc.1 (fireReply now io acc p).1 := by
  unfold fireReply
  split
  · exact Dwindles.of_eq rfl rfl
  · split
    · exact Dwindles.of_eq rfl rfl
    · next client hlookup =>
        exact Dwindles.update rfl hlookup
          (fun hf => Connection.call_stays_failed client.connection _ hf rfl) rfl

theorem onTimerTick_dwindles (s : FeedSimulator) (now : Int) (io : Nat → ClientIo) :
    Dwindles s (s.onTimerTick now io) := by
  have hfired : Dwindles s ((s.reapClients now).pendingReplies.zipIdx.foldl (fireReply now io)
      (s.reapClients now, [])).1 :=
    List.foldlRecOn (motive := fun acc => Dwindles s acc.1) _ (fireReply now io)
      (reapClients_dwindles s now) fun acc h p _ => h.trans (fireReply_dwindles now io acc p)
  exact hfired.trans (Dwindles.of_eq rfl rfl)

theorem command_dwindles (s : FeedSimulator) (c : SimulatorCommand) : Dwindles s (s.command c) := by
  cases c with
  | killRandomConnection pick =>
      simp only [command, killRandomConnection]
      split
      · exact Dwindles.of_eq rfl rfl
      · exact removeClient_dwindles s _
  | setFaultConfig faults => exact Dwindles.of_eq rfl rfl
  | setCommandInput fd => exact Dwindles.of_eq rfl rfl

theorem onCommandFdReadable_dwindles (s : FeedSimulator) (commands : List SimulatorCommand)
    (eof : Bool) : Dwindles s (s.onCommandFdReadable commands eof) := by
  have hdone : Dwindles s (commands.foldl command s) :=
    List.foldlRecOn commands command (Dwindles.of_eq rfl rfl)
      fun acc h c _ => h.trans (command_dwindles acc c)
  unfold onCommandFdReadable
  dsimp only
  split
  · exact hdone.trans (Dwindles.of_eq rfl rfl)
  · exact hdone

theorem Dwindles.apart (h : Dwindles s s') (hapart : s.Apart) : s'.Apart := by
  have hnobody : ∀ fd, s.clients.lookup fd = none → s'.clients.lookup fd = none := by
    intro fd hnone
    cases hlookup : s'.clients.lookup fd with
    | none => rfl
    | some client' =>
        obtain ⟨client, hbefore, _⟩ := h.clients fd client' hlookup
        rw [hnone] at hbefore
        cases hbefore
  have hwake : s'.wakeFd = s.wakeFd := congrArg Prod.fst h.own
  have htimer : s'.timerFd = s.timerFd := congrArg (fun o => o.2.1) h.own
  have hlisten : s'.listenFd = s.listenFd := congrArg (fun o => o.2.2) h.own
  refine ⟨?_, ?_, ?_⟩
  · rw [hwake]
    exact hnobody _ hapart.wake
  · rw [htimer]
    exact hnobody _ hapart.timer
  · rw [hlisten]
    exact hnobody _ hapart.listen

theorem Dwindles.live (h : Dwindles s s') (hlive : s'.Live fd) : s.Live fd := by
  obtain ⟨client', hlookup, hstate⟩ := hlive
  obtain ⟨client, hbefore, hback⟩ := h.clients fd client' hlookup
  exact ⟨client, hbefore, hback hstate⟩

/-! ### Accepting -/

theorem acceptClient_ownFds (s : FeedSimulator) (a : Accepted) :
    (s.acceptClient a).ownFds = s.ownFds := by
  unfold acceptClient
  dsimp only
  split <;> rfl

theorem acceptClient_apart (hwatched : s.Watched) (h : s.Apart) (a : Accepted)
    (hnew : NewSocket s a.fd) : (s.acceptClient a).Apart := by
  have hown := acceptClient_ownFds s a
  have hnobody : ∀ fd, s.clients.lookup fd = none → (a.fd : Int) ≠ fd →
      (s.acceptClient a).clients.lookup fd = none := by
    intro fd hnone hne
    cases hlookup : (s.acceptClient a).clients.lookup fd with
    | none => rfl
    | some client =>
        rcases acceptClient_found hwatched.keyed a hnew hlookup with ⟨heq, _⟩ | ⟨_, hold⟩
        · exact absurd heq.symm hne
        · rw [hnone] at hold
          cases hold
  have hwake : (s.acceptClient a).wakeFd = s.wakeFd := congrArg Prod.fst hown
  have htimer : (s.acceptClient a).timerFd = s.timerFd := congrArg (fun o => o.2.1) hown
  have hlisten : (s.acceptClient a).listenFd = s.listenFd := congrArg (fun o => o.2.2) hown
  refine ⟨?_, ?_, ?_⟩
  · rw [hwake]
    exact hnobody _ h.wake hnew.wake
  · rw [htimer]
    exact hnobody _ h.timer hnew.timer
  · rw [hlisten]
    exact hnobody _ h.listen hnew.listen

/-- What the reactor keeps between two inputs. -/
structure Attentive (s : FeedSimulator) : Prop where
  watched : s.Watched
  apart : s.Apart

theorem acceptClient_attentive (s : FeedSimulator) (a : Accepted) (h : s.Attentive)
    (hnew : NewSocket s a.fd) : (s.acceptClient a).Attentive :=
  ⟨acceptClient_watched h.watched a hnew, acceptClient_apart h.watched h.apart a hnew⟩

theorem acceptClient_opens (h : s.Watched) (a : Accepted) (hnew : NewSocket s a.fd)
    (hlive : (s.acceptClient a).Live fd) :
    fd ∈ ([a].filter (·.registered)).map (fun a => (a.fd : Int)) ∨ s.Live fd := by
  obtain ⟨client, hlookup, hstate⟩ := hlive
  rcases acceptClient_found h.keyed a hnew hlookup with ⟨rfl, hreg, _⟩ | ⟨_, hold⟩
  · exact Or.inl (by simp [hreg])
  · exact Or.inr ⟨client, hold, hstate⟩

theorem issuedAlong_accepted (s : FeedSimulator) (accepted : List Accepted) :
    Ownership.issuedAlong acceptClient
        (fun _ a => ([a].filter (·.registered)).map fun a => (a.fd : Int)) s accepted =
      (accepted.filter (·.registered)).map fun a => (a.fd : Int) := by
  induction accepted generalizing s with
  | nil => rfl
  | cons a rest ih => rw [Ownership.issuedAlong, ih, ← List.map_append, ← List.filter_append]; rfl

/-! ### Turns -/

/-- The numbers that a turn gives to new sockets. -/
def turnIssues (s : FeedSimulator) : SimulatorTurn → List Int
  | .operation _ => []
  | .event _ e => s.eventIssues e

theorem turn_attentive (s : FeedSimulator) (t : SimulatorTurn) (h : s.Attentive)
    (hadm : TurnAdmitted s t) : (s.turn t).Attentive := by
  refine ⟨turn_watched s t h.watched hadm, ?_⟩
  cases t with
  | operation c => exact (command_dwindles s c).apart h.apart
  | event now e =>
      have hresult := dispatchEvent_result now s e
      rw [turn]
      generalize dispatchEvent now s e = result at hresult ⊢
      cases hresult with
      | woken => exact h.apart
      | ticked => exact (onTimerTick_dwindles s e.tickNow e.tickIo).apart h.apart
      | accepted _ _ hlisten =>
          exact (Runs.invariant acceptClient_attentive h (hadm.1 hlisten)).apart
      | commanded =>
          exact (onCommandFdReadable_dwindles s e.commands e.commandEof).apart h.apart
      | handled => exact (handleClientEvent_dwindles s e.fd e.events now e.io).apart h.apart

theorem turn_opens (h : s.Attentive) {t : SimulatorTurn} (hadm : TurnAdmitted s t)
    (hlive : (s.turn t).Live fd) : fd ∈ s.turnIssues t ∨ s.Live fd := by
  cases t with
  | operation c => exact Or.inr ((command_dwindles s c).live hlive)
  | event now e =>
      have hresult := dispatchEvent_result now s e
      rw [turn] at hlive
      generalize dispatchEvent now s e = result at hresult hlive
      cases hresult with
      | woken => exact Or.inr hlive
      | ticked => exact Or.inr ((onTimerTick_dwindles s e.tickNow e.tickIo).live hlive)
      | accepted hwake htimer hlisten =>
          have htracks : Ownership.Tracks (fun s fd (_ : Unit) => Live s fd) s
              (Ownership.issuedAlong acceptClient
                (fun _ a => ([a].filter (·.registered)).map fun a => (a.fd : Int)) s e.accepted)
              (s.acceptNewConnections e.accepted) :=
            Ownership.tracks_run acceptClient_attentive
              (fun s a hs hnew fd _ hlive => acceptClient_opens hs.watched a hnew hlive) h
              (hadm.1 hlisten)
          refine (htracks fd () hlive).imp_left ?_
          intro hissued
          rw [turnIssues, eventIssues, if_neg (not_or.mpr ⟨hwake, htimer⟩), if_pos hlisten]
          rwa [issuedAlong_accepted] at hissued
      | commanded =>
          exact Or.inr ((onCommandFdReadable_dwindles s e.commands e.commandEof).live hlive)
      | handled => exact Or.inr ((handleClientEvent_dwindles s e.fd e.events now e.io).live hlive)

/-- The socket that a turn receives from. -/
def turnReads (s : FeedSimulator) : SimulatorTurn → Option Int
  | .operation _ => none
  | .event _ e => ((s.routed e).filter fun _ => Client.receives e.events).map fun _ => e.fd

/-- The simulator among its sockets. -/
def reactor : EdgeTriggered.Reactor FeedSimulator SimulatorTurn Int Byte where
  dispatch := turn
  channel
    | .operation _ => none
    | .event _ e => some e.fd
  readable
    | .operation _ => false
    | .event _ e => e.events.epollIn
  reads := turnReads
  leaves
    | .operation _, unread => some unread
    | .event _ e, unread => leftUnread unread e.io.recvs
  issues := turnIssues
  watched s fd := (s.epollSet.lookup fd).any (·.epollIn)
  live := Live

/-- An event for a live client is routed to it. -/
theorem Attentive.routed (h : s.Attentive) {e : SimulatorEvent}
    (hlookup : s.clients.lookup e.fd = some client) (hstate : client.connection.state ≠ .kFailed) :
    s.routed e = some client := by
  have hnobody : ∀ fd, s.clients.lookup fd = none → e.fd ≠ fd := by
    rintro fd hnone rfl
    rw [hnone] at hlookup
    cases hlookup
  have hown : ¬ (e.fd = s.wakeFd ∨ e.fd = s.timerFd ∨ e.fd = s.listenFd ∨ e.fd = s.commandFd) := by
    rintro (hwake | htimer | hlisten | hcommand)
    · exact hnobody _ h.apart.wake hwake
    · exact hnobody _ h.apart.timer htimer
    · exact hnobody _ h.apart.listen hlisten
    · exact h.watched.command e.fd client hlookup hstate hcommand
  rw [FeedSimulator.routed, if_neg hown]
  exact hlookup

/-- What an event makes of the client it is routed to. -/
theorem turn_routed {now : Int} {e : SimulatorEvent} (hrouted : s.routed e = some client)
    (hlive : (s.turn (.event now e)).Live e.fd) :
    ((client.enter (s.env e.io)).onEvent s.config e.events now e.io).connection.state ≠
      .kFailed := by
  unfold FeedSimulator.routed at hrouted
  split at hrouted
  · cases hrouted
  · next hown =>
      simp only [not_or] at hown
      obtain ⟨hwake, htimer, hlisten, hcommand⟩ := hown
      intro hf
      obtain ⟨client', hlookup', _⟩ := hlive
      rw [turn, dispatchEvent, if_neg hwake, if_neg htimer, if_neg hlisten, if_neg hcommand,
        handleClientEvent, hrouted] at hlookup'
      dsimp only at hlookup'
      rw [if_pos hf, removeClient, AList.lookup_erase] at hlookup'
      cases hlookup'

/-- **The simulator drains its sockets.** -/
theorem reactor_drains : reactor.Drains Attentive TurnAdmitted where
  keeps := turn_attentive
  watches := by
    rintro s fd h ⟨client, hlookup, hstate⟩
    show (s.epollSet.lookup fd).any (·.epollIn) = true
    rw [h.watched.registered fd client hlookup hstate]
    rfl
  tracks := fun s t fd h hadm hlive => turn_opens h hadm hlive
  attends := by
    intro s t fd h hadm hchannel hreadable hlive hlive'
    cases t with
    | operation c => cases hchannel
    | event now e =>
        obtain rfl := Option.some.inj hchannel
        obtain ⟨client, hlookup, hstate⟩ := hlive
        have hrouted := h.routed hlookup hstate
        refine Or.inr ?_
        show ((s.routed e).filter _).map _ = some e.fd
        rw [hrouted, Option.filter_some,
          if_pos (Client.onEvent_receives hreadable (turn_routed hrouted hlive'))]
        rfl
  drains := by
    intro s t fd unread rest h hadm hreads hleft hlive'
    cases t with
    | operation c => cases hreads
    | event now e =>
        obtain ⟨client, hfiltered, rfl⟩ := Option.map_eq_some_iff.mp hreads
        obtain ⟨hrouted, hreceives⟩ := Option.filter_eq_some_iff.mp hfiltered
        exact Or.inr (Client.onEvent_drains hreceives hleft (turn_routed hrouted hlive'))

end FeedSimulator

/-! ## Both reactors -/

theorem oneByte_fits : 0 < [(0 : Byte)].length ∧ [(0 : Byte)].length ≤ 4096 := by decide

/-- One byte, received. -/
def oneByte : RecvChunk :=
  ⟨[0], oneByte_fits⟩

/-- **No lost read wake-up.**  In either reactor, whatever bytes arrive and
whenever they do, also while a batch is being dispatched: a socket of a live
connection that has unread bytes is marked for the next `epoll_wait`, or an
event of the current batch that says so is still to be handled.  So once a batch
is done and nothing is marked, every byte has been received.  New sockets have
numbers that no open fd has, and `recv()` answers from what is unread. -/
theorem no_lost_read_wakeup (config : Config) (timerFd wakeFd : Int)
    (moves : List (EdgeTriggered.Move MonitorTurn Int Byte))
    (hadm : Runs.Along FeedMonitor.reactor.step
      (FeedMonitor.reactor.Admits FeedMonitor.TurnAdmitted)
      { server := FeedMonitor.create config timerFd wakeFd } moves)
    (feedId : BitVec 32) (simConfig : Config) (faults : FaultConfig)
    (listenFd simWakeFd simTimerFd : Int)
    (simMoves : List (EdgeTriggered.Move SimulatorTurn Int Byte))
    (hsim : Runs.Along FeedSimulator.reactor.step
      (FeedSimulator.reactor.Admits FeedSimulator.TurnAdmitted)
      { server := FeedSimulator.create feedId simConfig faults listenFd simWakeFd simTimerFd }
      simMoves) :
    FeedMonitor.reactor.Covered (moves.foldl FeedMonitor.reactor.step
        { server := FeedMonitor.create config timerFd wakeFd }) ∧
      FeedSimulator.reactor.Covered (simMoves.foldl FeedSimulator.reactor.step
        { server := FeedSimulator.create feedId simConfig faults listenFd simWakeFd
            simTimerFd }) := by
  constructor
  · refine FeedMonitor.reactor_drains.covered_run ?_ ?_ hadm
    · exact FeedMonitor.attentive_create config timerFd wakeFd
    · exact fun fd _ hunread => absurd rfl hunread
  · refine FeedSimulator.reactor_drains.covered_run ?_ ?_ hsim
    · exact ⟨FeedSimulator.watched_create feedId simConfig faults listenFd simWakeFd simTimerFd,
        ⟨rfl, rfl, rfl⟩⟩
    · exact fun fd _ hunread => absurd rfl hunread

namespace FeedMonitor

/-- Feed 7 connects on fd 5.  Its ACK is reported; another byte arrives before
the event is handled and is received with it, and one more arrives later. -/
def byteBehindAck : List (EdgeTriggered.Move MonitorTurn Int Byte) :=
  [.operate (.operation (.addFeed { feedId := 7 } (some 5) 0)) fun _ => [],
    .mark 5, .wait [.event 1 { fd := 5, events := { epollOut := true }, io := {
      sends := [.sent 28] } }],
    .handle fun _ => [],
    .arrive 5 (frameChunk { type := MessageType.kConnectAck.toByte, feedId := 7 }).val,
    .wait [.event 2 { fd := 5, events := { epollIn := true }, io := {
      recvs := [.data (frameChunk { type := MessageType.kConnectAck.toByte, feedId := 7 }),
        .eintr, .data oneByte, .eagain] } }],
    .arrive 5 oneByte.val, .handle fun _ => [], .arrive 5 oneByte.val]

end FeedMonitor

namespace FeedSimulator

/-- A client is accepted on fd 8, where its HELLO has arrived already. -/
def helloAccepted : List (EdgeTriggered.Move SimulatorTurn Int Byte) :=
  [.mark 3, .wait [.event 1 (accepts 1)],
    .handle fun _ => (frameChunk { type := MessageType.kConnectHello.toByte, feedId := 7 }).val,
    .wait [.event 2 { fd := 8, events := { epollIn := true }, io := {
      sends := [.sent 28]
      recvs := [.data (frameChunk { type := MessageType.kConnectHello.toByte, feedId := 7 })] } }],
    .handle fun _ => [], .arrive 8 oneByte.val]

end FeedSimulator

/-- The last byte of each run is marked. -/
theorem no_lost_read_wakeup_byteBehindAck :
    FeedMonitor.reactor.Covered (FeedMonitor.byteBehindAck.foldl FeedMonitor.reactor.step
        { server := FeedMonitor.create {} 3 4 }) ∧
      FeedSimulator.reactor.Covered (FeedSimulator.helloAccepted.foldl FeedSimulator.reactor.step
        { server := FeedSimulator.create 7 {} {} 3 4 5 }) := by
  apply no_lost_read_wakeup {} 3 4 _ _ 7 {} {} 3 4 5
  · decide +kernel
  · decide +kernel

end Vigil
