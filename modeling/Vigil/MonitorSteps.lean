import Vigil.MonitorSlots
import Vigil.Lifecycle

/-!
# Where the slots of a step come from

Every slot after a reactor step was either added by it or comes from one slot
before it, in one of the ways `SlotStep` lists (`step_origin`).  What is to
hold of every slot in every run is therefore checked case by case on
`SlotStep`.  The first such property is `Slot.Sound`: the slot's connection is
an initiator on an open socket, in one of the states of its machine.
-/

namespace Vigil

/-- The part of a configuration that no operation sets. -/
def Config.lasting (cfg : Config) : Config :=
  { cfg with heartbeatInterval := 0, heartbeatTimeout := 0 }

/-! ## Slots stay sound -/

/-- The connection is an initiator with an fd, in a state of its machine. -/
structure Slot.Sound (slot : Slot) : Prop where
  role : slot.connection.role = .kInitiator
  fd : 0 ≤ slot.connection.fd
  occupies : Occupies .kInitiator slot.connection.state
  leftover : Connection.Leftover slot.connection

namespace Slot

theorem Sound.of_connection {slot slot' : Slot} (h : slot.Sound)
    (heq : slot'.connection = slot.connection) : slot'.Sound := by
  constructor <;> rw [heq]
  · exact h.role
  · exact h.fd
  · exact h.occupies
  · exact h.leftover

/-- An initiator acknowledges nobody. -/
theorem Sound.ackSendable {slot : Slot} (h : slot.Sound) (call : Call Unit) :
    Connection.AckSendable slot.connection call := by
  obtain ⟨cfg, env, op⟩ := call
  cases op with
  | onReadable recvs now =>
      rintro _ ⟨_, _, _, hfails⟩
      have hrole : slot.connection.role = .kResponder := hfails.1
      rw [h.role] at hrole
      cases hrole
  | _ => trivial

/-- The calls of a sound slot follow the initiator's machine. -/
theorem Sound.walk {slot : Slot} (h : slot.Sound) (call : Call Unit)
    (hrebind : call.isRebind = false) :
    Connection.Walk (Edge .kInitiator) slot.connection (slot.connection.call call) := by
  have hwalk := Connection.call_walk slot.connection call (by rw [h.role]; exact h.occupies)
    h.leftover (h.ackSendable call)
  rwa [hrebind, if_neg (by simp), h.role] at hwalk

theorem Sound.invoke {slot : Slot} (h : slot.Sound) (cfg : Config) (env : Env Unit) (op : ConnOp)
    (hop : ∀ fd now, op = .rebind fd now → 0 ≤ fd) : (slot.invoke cfg env op).Sound where
  role := (Connection.call_role slot.connection ⟨cfg, env, op⟩).trans h.role
  fd := by
    by_cases hrebind : Call.isRebind (σ := Unit) ⟨cfg, env, op⟩ = true
    · cases op with
      | rebind fd now => exact hop fd now rfl
      | _ => simp [Call.isRebind] at hrebind
    · have hplace := invoke_place slot cfg env op (by simpa using hrebind)
      have hfd : (slot.invoke cfg env op).connection.fd = slot.connection.fd :=
        congrArg Prod.fst hplace
      rw [hfd]
      exact h.fd
  occupies := by
    have hlawful := Connection.call_lawful slot.connection ⟨cfg, env, op⟩
      (by rw [h.role]; exact h.occupies) h.leftover (h.ackSendable _)
    have hocc := hlawful.2
    rwa [h.role] at hocc
  leftover := Connection.call_leftover slot.connection ⟨cfg, env, op⟩ h.leftover

theorem Sound.fail {slot : Slot} (h : slot.Sound) (cfg : Config) (io : SlotIo) :
    (slot.fail cfg io).Sound :=
  h.of_connection (fail_connection slot cfg io)

theorem Sound.writeIfWritable {slot : Slot} (h : slot.Sound) (cfg : Config)
    (events : EpollEvents) (now : Int) (io : SlotIo) :
    (slot.writeIfWritable cfg events now io).Sound := by
  unfold Slot.writeIfWritable
  split
  · exact h.invoke cfg io.env _ nofun
  · exact h

theorem Sound.onEvent {slot : Slot} (h : slot.Sound) (cfg : Config) (events : EpollEvents)
    (now : Int) (io : SlotIo) : (slot.onEvent cfg events now io).Sound := by
  have hw := h.writeIfWritable cfg events now io
  unfold Slot.onEvent
  split
  · exact h.invoke cfg io.env _ nofun
  · dsimp only
    generalize slot.writeIfWritable cfg events now io = written at hw ⊢
    split
    · exact hw.invoke cfg _ _ nofun
    · exact hw

theorem Sound.handled {slot : Slot} (h : slot.Sound) (cfg : Config) (events : EpollEvents)
    (now : Int) (io : SlotIo) : (slot.handled cfg events now io).Sound := by
  unfold Slot.handled
  split
  · exact (h.onEvent cfg events now io).fail cfg io
  · exact h.onEvent cfg events now io

theorem Sound.disconnected {slot : Slot} (h : slot.Sound) (cfg : Config) (now : Int)
    (io : SlotIo) : (slot.disconnected cfg now io).Sound :=
  (h.invoke cfg io.env (.onHangupOrError kEConnAborted now) nofun).fail cfg io

theorem Sound.pingIfDue {slot : Slot} (h : slot.Sound) (cfg : Config) (now : Int) (io : SlotIo) :
    (slot.pingIfDue cfg now io).Sound := by
  unfold Slot.pingIfDue
  split
  · exact (h.invoke cfg io.env (.sendPing now) nofun).of_connection rfl
  · exact h

theorem Sound.checked {slot : Slot} (h : slot.Sound) (cfg : Config) (now : Int) (io : SlotIo) :
    (slot.checked cfg now io).Sound := by
  have hc : (slot.check cfg now io).2.Sound := h.invoke cfg io.env (.checkTimeout now) nofun
  unfold Slot.checked
  split
  · exact hc.fail cfg io
  · exact hc

theorem Sound.ticked {slot : Slot} (h : slot.Sound) (cfg : Config) (now : Int) (io : SlotIo) :
    (slot.ticked cfg now io).Sound := by
  unfold Slot.ticked
  cases slot.connection.state with
  | kHealthy => exact (h.pingIfDue cfg now io).checked cfg now io
  | kDegraded => exact (h.pingIfDue cfg now io).checked cfg now io
  | kConnecting => exact h.checked cfg now io
  | kHandshaking => exact h.checked cfg now io
  | kFailed =>
      dsimp only
      split
      · have hbegun : Sound { slot with reconnectReadyAtNs := -1 } := h.of_connection rfl
        unfold reconnected
        cases io.socket with
        | some fd =>
            refine hbegun.invoke cfg io.env (.rebind fd now) ?_
            rintro _ _ ⟨rfl, rfl⟩
            exact Int.natCast_nonneg fd
        | none => exact hbegun.of_connection (scheduleReconnect_connection _ _ _ _)
      · exact h
  | kDisconnected => exact h
  | kReconnecting => exact h

end Slot

/-! ## A tick works on the slots one by one -/

namespace FeedMonitor

variable {m : FeedMonitor} {i : Nat} {slot : Slot}

/-- All slots are sound. -/
def Sound (m : FeedMonitor) : Prop :=
  ∀ slot ∈ m.slots, slot.Sound

theorem sound_create (config : Config) (timerFd wakeFd : Int) :
    (create config timerFd wakeFd).Sound :=
  fun _ h => absurd h List.not_mem_nil

theorem Sound.at (h : m.Sound) (hx : m.slots[i]? = some slot) : slot.Sound :=
  h slot (List.mem_of_getElem? hx)

/-- The first `k` turns of a tick. -/
theorem tick_turns (h : m.Sound) (now : Int) (io : Nat → SlotIo) (k : Nat) :
    ((List.range k).foldl (tickSlot now io) m).surroundings = m.surroundings ∧
      ∀ j, ((List.range k).foldl (tickSlot now io) m).slots[j]? =
        if j < k then m.slots[j]?.map (·.ticked m.config now (io j)) else m.slots[j]? := by
  induction k with
  | zero => simp
  | succ k ih =>
      obtain ⟨hsur, hslots⟩ := ih
      rw [List.range_succ, List.foldl_append, List.foldl_cons, List.foldl_nil]
      generalize (List.range k).foldl (tickSlot now io) m = mid at hsur hslots ⊢
      have hcfg : mid.config = m.config := congrArg Prod.fst hsur
      have hk : mid.slots[k]? = m.slots[k]? := by rw [hslots, if_neg (by omega)]
      cases hx : m.slots[k]? with
      | none =>
          have hsame : tickSlot now io mid k = mid := by
            rw [tickSlot, hk, hx]
          rw [hsame]
          refine ⟨hsur, fun j => ?_⟩
          rw [hslots]
          by_cases hjk : j = k
          · subst hjk
            simp [hx]
          · have hiff : j < k + 1 ↔ j < k := by omega
            simp only [hiff]
      | some slot =>
          have hedit := tickSlot_edit now io (hk.trans hx) (h.at hx).fd (h.at hx).role
          obtain ⟨hlt, _⟩ := List.getElem?_eq_some_iff.mp (hk.trans hx)
          refine ⟨hedit.surroundings_eq.trans hsur, fun j => ?_⟩
          rw [hedit.slots_eq, hcfg]
          by_cases hjk : j = k
          · subst hjk
            rw [List.getElem?_set_self hlt, if_pos (by omega), hx]
            rfl
          · have hiff : j < k + 1 ↔ j < k := by omega
            rw [List.getElem?_set_ne (Ne.symm hjk), hslots]
            simp only [hiff]

/-- **A tick.**  Every slot is ticked, in place. -/
theorem onTimerTick_getElem? (h : m.Sound) (now : Int) (io : Nat → SlotIo) (j : Nat) :
    (m.onTimerTick now io).slots[j]? = m.slots[j]?.map (·.ticked m.config now (io j)) := by
  have hslots := (tick_turns h now io m.slots.length).2 j
  rw [onTimerTick, hslots]
  split
  · rfl
  · rw [List.getElem?_eq_none (by omega)]
    rfl

/-! ## The other operations -/

/-- The slot `add_feed` appends. -/
def newSlot (m : FeedMonitor) (endpoint : FeedEndpoint) (fd : Nat) (now : Int) : Slot where
  connection := Connection.create fd .kInitiator endpoint.feedId endpoint.host endpoint.port none
    ⟨[], fun _ => now, ()⟩ now
  name := endpoint.name
  history := { object := m.nextObject }

/-- The monitor with that slot. -/
def withFeed (m : FeedMonitor) (endpoint : FeedEndpoint) (fd : Nat) (now : Int) : FeedMonitor :=
  { m with
    slots := m.slots ++ [m.newSlot endpoint fd now]
    indexOfFd := m.indexOfFd.insert (fd : Int) m.slots.length
    indexOfFeedId := m.indexOfFeedId.insert endpoint.feedId m.slots.length
    epollSet := m.epollSet.add fd (m.interest (m.newSlot endpoint fd now).connection)
    nextObject := m.nextObject + 1 }

theorem addFeed_eq (m : FeedMonitor) (endpoint : FeedEndpoint) (socket : Option Nat) (now : Int) :
    (m.addFeed endpoint socket now).2 = m ∨
      ∃ fd : Nat, socket = some fd ∧ endpoint.feedId ∉ m.indexOfFeedId ∧
        (m.addFeed endpoint socket now).2 = m.withFeed endpoint fd now := by
  unfold addFeed
  split
  · exact Or.inl rfl
  · next hnew =>
      cases socket with
      | none => exact Or.inl rfl
      | some fd => exact Or.inr ⟨fd, rfl, hnew, rfl⟩

/-- The key under which `index_of_fd_` should hold a slot. -/
def liveFd (slot : Slot) : Option Int :=
  if slot.connection.state = .kFailed then none else some slot.connection.fd

/-- The key under which `index_of_feed_id_` holds a slot. -/
def feedKey (slot : Slot) : Option (BitVec 32) :=
  some slot.connection.feedId

/-- **Swap-and-pop**, on the slots and on both maps. -/
theorem removeSlotAt_eq (h : m.Sound) (hx : m.slots[i]? = some slot) :
    m.removeSlotAt i = { m with
      slots := FlatIndex.swapRemove m.slots i
      indexOfFd := FlatIndex.swapErase liveFd m.indexOfFd m.slots i slot.connection.fd
      indexOfFeedId := FlatIndex.swapErase feedKey m.indexOfFeedId m.slots i
        slot.connection.feedId
      epollSet := m.epollSet.del slot.connection.fd } := by
  obtain ⟨hlt, _⟩ := List.getElem?_eq_some_iff.mp hx
  have hne : m.slots ≠ [] := by
    intro hnil
    simp [hnil] at hlt
  obtain ⟨last, hlast⟩ : ∃ last, m.slots.getLast? = some last :=
    ⟨_, List.getLast?_eq_some_getLast hne⟩
  have hsound : last.Sound := h last (List.mem_of_getLast? hlast)
  have hend : m.slots[m.slots.length - 1]? = some last := by
    rw [← List.getLast?_eq_getElem?, hlast]
  simp only [removeSlotAt, hx, hlast, forgetFd, if_pos (h.at hx).fd, FlatIndex.swapRemove,
    FlatIndex.swapErase, feedKey, liveFd]
  by_cases hi : i = m.slots.length - 1
  · subst hi
    simp only [ne_eq, not_true_eq_false, if_false, slots_set_self hend]
  · simp only [ne_eq, hi, not_false_eq_true, if_true, moveLastTo]
    by_cases hf : last.connection.state = .kFailed
    · simp [hf]
    · simp [hf, hsound.fd]

/-- There is no such slot. -/
theorem handleConnectionEvent_none (events : EpollEvents) (now : Int) (io : SlotIo)
    (hx : m.slots[i]? = none) : m.handleConnectionEvent i events now io = m := by
  simp [handleConnectionEvent, modifySlot, List.modify_eq_set_getElem?, hx]

/-- Everything that an operation can do, with the guard of each case. -/
inductive Commanded (m : FeedMonitor) : MonitorCommand → FeedMonitor → Prop
  | idle (c : MonitorCommand) : Commanded m c m
  | added (endpoint : FeedEndpoint) (fd : Nat) (now : Int)
      (hnew : endpoint.feedId ∉ m.indexOfFeedId) :
      Commanded m (.addFeed endpoint (some fd) now) (m.withFeed endpoint fd now)
  | removed (feedId : BitVec 32) (i : Nat) (slot : Slot)
      (hlookup : m.indexOfFeedId.lookup feedId = some i) (hx : m.slots[i]? = some slot) :
      Commanded m (.removeFeed feedId) (m.removeSlotAt i)
  | disconnected (feedId : BitVec 32) (now : Int) (io : SlotIo) (i : Nat) (slot : Slot)
      (hlookup : m.indexOfFeedId.lookup feedId = some i) (hx : m.slots[i]? = some slot)
      (hlive : slot.connection.state ≠ .kFailed) :
      Commanded m (.forceDisconnect feedId now io) (m.edit i (slot.disconnected m.config now io)
        (m.indexOfFd.erase slot.connection.fd) (m.epollSet.del slot.connection.fd))
  | renewed (feedId : BitVec 32) (i : Nat) (slot : Slot)
      (hlookup : m.indexOfFeedId.lookup feedId = some i) (hx : m.slots[i]? = some slot)
      (hfailed : slot.connection.state = .kFailed) :
      Commanded m (.forceReconnect feedId) (m.edit i
        { slot with giveUp := false, reconnectAttempts := 0, reconnectReadyAtNs := 0 }
        m.indexOfFd m.epollSet)
  | intervalSet (interval : Int) :
      Commanded m (.setHeartbeatInterval interval) (m.setHeartbeatInterval interval)
  | timeoutSet (timeout now : Int) :
      Commanded m (.setHeartbeatTimeout timeout now) (m.setHeartbeatTimeout timeout now)
  | inputSet (fd : Int) : Commanded m (.setCommandInput fd) (m.setCommandInput fd)

theorem command_result (h : m.Sound) (c : MonitorCommand) : Commanded m c (m.command c) := by
  cases c with
  | addFeed endpoint socket now =>
      rw [command]
      rcases addFeed_eq m endpoint socket now with heq | ⟨fd, rfl, hnew, heq⟩
      · rw [heq]
        exact .idle _
      · rw [heq]
        exact .added endpoint fd now hnew
  | removeFeed feedId =>
      rw [command, removeFeed]
      split
      · exact .idle _
      · next i hlookup =>
          cases hx : m.slots[i]? with
          | none =>
              rw [removeSlotAt, hx]
              exact .idle _
          | some slot => exact .removed feedId i slot hlookup hx
  | forceDisconnect feedId now io =>
      rw [command, forceDisconnect]
      split
      · exact .idle _
      · next i hlookup =>
          split
          · exact .idle _
          · next slot hx =>
              split
              · next hlive =>
                  obtain ⟨hlt, _⟩ := List.getElem?_eq_some_iff.mp hx
                  let hung := slot.invoke m.config io.env (.onHangupOrError kEConnAborted now)
                  have hx' : ({ m with slots := m.slots.set i hung } : FeedMonitor).slots[i]? =
                      some hung := List.getElem?_set_self hlt
                  rw [modifySlot_eq _ hx, onConnectionFailed_eq io hx' (h.at hx).fd]
                  simp only [edit, List.set_set]
                  exact .disconnected feedId now io i slot hlookup hx hlive
              · exact .idle _
  | forceReconnect feedId =>
      rw [command, forceReconnect]
      split
      · exact .idle _
      · next i hlookup =>
          cases hx : m.slots[i]? with
          | none =>
              rw [modifySlot, List.modify_eq_set_getElem?, hx]
              exact .idle _
          | some slot =>
              rw [modifySlot_eq _ hx]
              split
              · next hfailed => exact .renewed feedId i slot hlookup hx hfailed
              · rw [slots_set_self hx]
                exact .idle _
  | setHeartbeatInterval interval => exact .intervalSet interval
  | setHeartbeatTimeout timeout now => exact .timeoutSet timeout now
  | setCommandInput fd => exact .inputSet fd

/-- `force_disconnect` as an edit of the slot. -/
theorem disconnected_edit (m : FeedMonitor) (i : Nat) (slot : Slot) (now : Int) (io : SlotIo) :
    Edit True m i slot (slot.disconnected m.config now io)
      (m.edit i (slot.disconnected m.config now io) (m.indexOfFd.erase slot.connection.fd)
        (m.epollSet.del slot.connection.fd)) :=
  .drop _ (congrArg Prod.fst (Slot.disconnected_place slot m.config now io))
    (Slot.disconnected_state slot m.config now io)

/-- `force_reconnect` as one. -/
theorem renewed_edit (m : FeedMonitor) (i : Nat) (slot : Slot) :
    Edit True m i slot
      { slot with giveUp := false, reconnectAttempts := 0, reconnectReadyAtNs := 0 }
      (m.edit i { slot with giveUp := false, reconnectAttempts := 0, reconnectReadyAtNs := 0 }
        m.indexOfFd m.epollSet) :=
  .keep m.epollSet rfl fun _ => Iff.rfl

/-! ## The origin of a slot -/

/-- What step `s` can make of the slot at position `i`. -/
inductive SlotStep (m : FeedMonitor) : MonitorStep → Nat → Slot → Slot → Prop
  | kept (s : MonitorStep) (i : Nat) (slot : Slot)
      (hs : ∀ now io, s ≠ .timerTick now io) : SlotStep m s i slot slot
  | disconnected (feedId : BitVec 32) (now : Int) (io : SlotIo) (i : Nat) (slot : Slot)
      (hlookup : m.indexOfFeedId.lookup feedId = some i)
      (hlive : slot.connection.state ≠ .kFailed) :
      SlotStep m (.command (.forceDisconnect feedId now io)) i slot
        (slot.disconnected m.config now io)
  | forcedReconnect (feedId : BitVec 32) (i : Nat) (slot : Slot)
      (hlookup : m.indexOfFeedId.lookup feedId = some i)
      (hfailed : slot.connection.state = .kFailed) :
      SlotStep m (.command (.forceReconnect feedId)) i slot
        { slot with giveUp := false, reconnectAttempts := 0, reconnectReadyAtNs := 0 }
  | rebased (timeout now : Int) (i : Nat) (slot : Slot) :
      SlotStep m (.command (.setHeartbeatTimeout timeout now)) i slot
        (slot.invoke { m.config with heartbeatTimeout := timeout } slot.connection.env
          (.resetLivenessBaseline now))
  | handled (fd : Int) (events : EpollEvents) (now : Int) (io : SlotIo) (i : Nat) (slot : Slot)
      (hlookup : m.indexOfFd.lookup fd = some i) :
      SlotStep m (.connectionEvent fd events now io) i slot
        (slot.handled m.config events now io)
  | ticked (now : Int) (io : Nat → SlotIo) (i : Nat) (slot : Slot) :
      SlotStep m (.timerTick now io) i slot (slot.ticked m.config now (io i))

/-- The slot was added by the step. -/
def Added (m : FeedMonitor) (s : MonitorStep) (slot : Slot) : Prop :=
  ∃ endpoint fd now, s = .command (.addFeed endpoint (some fd) now) ∧
    endpoint.feedId ∉ m.indexOfFeedId ∧ slot = m.newSlot endpoint fd now

theorem command_origin (h : m.Sound) (c : MonitorCommand) {slot' : Slot}
    (hmem : slot' ∈ (m.command c).slots) :
    (∃ i slot, m.slots[i]? = some slot ∧ SlotStep m (.command c) i slot slot') ∨
      Added m (.command c) slot' := by
  have kept : slot' ∈ m.slots →
      ∃ i slot, m.slots[i]? = some slot ∧ SlotStep m (.command c) i slot slot' := by
    intro hm
    obtain ⟨j, hj⟩ := List.mem_iff_getElem?.mp hm
    exact ⟨j, slot', hj, .kept _ _ _ nofun⟩
  have hresult := command_result h c
  generalize m.command c = result at hresult hmem
  cases hresult with
  | idle => exact Or.inl (kept hmem)
  | added endpoint fd now hnew =>
      rcases List.mem_append.mp hmem with hm | hm
      · exact Or.inl (kept hm)
      · exact Or.inr ⟨endpoint, fd, now, rfl, hnew, List.mem_singleton.mp hm⟩
  | removed feedId i slot hlookup hx =>
      left
      obtain ⟨hlt, _⟩ := List.getElem?_eq_some_iff.mp hx
      rw [removeSlotAt_eq h hx] at hmem
      obtain ⟨j, _, hj⟩ := FlatIndex.mem_swapRemove hlt hmem
      exact ⟨j, slot', hj, .kept _ _ _ nofun⟩
  | disconnected feedId now io i slot hlookup hx hlive =>
      left
      rcases List.mem_or_eq_of_mem_set hmem with hm | rfl
      · exact kept hm
      · exact ⟨i, slot, hx, .disconnected _ _ _ _ _ hlookup hlive⟩
  | renewed feedId i slot hlookup hx hfailed =>
      left
      rcases List.mem_or_eq_of_mem_set hmem with hm | rfl
      · exact kept hm
      · exact ⟨i, slot, hx, .forcedReconnect _ _ _ hlookup hfailed⟩
  | intervalSet interval => exact Or.inl (kept hmem)
  | timeoutSet timeout now =>
      left
      obtain ⟨slot, hslot, rfl⟩ := List.mem_map.mp hmem
      obtain ⟨j, hj⟩ := List.mem_iff_getElem?.mp hslot
      exact ⟨j, slot, hj, .rebased _ _ _ _⟩
  | inputSet fd => exact Or.inl (kept hmem)

/-- **Origin.**  Every slot after a step comes from one slot before it, or
was added. -/
theorem step_origin (h : m.Sound) (s : MonitorStep) {slot' : Slot}
    (hmem : slot' ∈ (m.step s).slots) :
    (∃ i slot, m.slots[i]? = some slot ∧ SlotStep m s i slot slot') ∨ Added m s slot' := by
  cases s with
  | command c => exact command_origin h c hmem
  | connectionEvent fd events now io =>
      left
      have kept : slot' ∈ m.slots → ∃ i slot, m.slots[i]? = some slot ∧
          SlotStep m (.connectionEvent fd events now io) i slot slot' := by
        intro hm
        obtain ⟨j, hj⟩ := List.mem_iff_getElem?.mp hm
        exact ⟨j, slot', hj, .kept _ _ _ nofun⟩
      simp only [step] at hmem
      split at hmem
      · exact kept hmem
      · next index hlookup =>
          cases hx : m.slots[index]? with
          | none =>
              rw [handleConnectionEvent_none events now io hx] at hmem
              exact kept hmem
          | some slot =>
              rw [(handleConnectionEvent_edit events now io hx (h.at hx).fd).slots_eq] at hmem
              rcases List.mem_or_eq_of_mem_set hmem with hm | rfl
              · exact kept hm
              · exact ⟨index, slot, hx, .handled _ _ _ _ _ _ hlookup⟩
  | timerTick now io =>
      left
      obtain ⟨j, hj⟩ := List.mem_iff_getElem?.mp hmem
      have hj' : (m.onTimerTick now io).slots[j]? = some slot' := hj
      rw [onTimerTick_getElem? h] at hj'
      obtain ⟨slot, hx, rfl⟩ := Option.map_eq_some_iff.mp hj'
      exact ⟨j, slot, hx, .ticked _ _ _ _⟩

theorem step_sound (h : m.Sound) (s : MonitorStep) : (m.step s).Sound := by
  intro slot' hmem
  rcases step_origin h s hmem with ⟨i, slot, hx, hstep⟩ | ⟨endpoint, fd, now, _, _, rfl⟩
  · have hslot := h.at hx
    cases hstep with
    | kept => exact hslot
    | disconnected feedId now io => exact hslot.disconnected m.config now io
    | forcedReconnect => exact hslot.of_connection rfl
    | rebased timeout now => exact hslot.invoke _ _ (.resetLivenessBaseline now) nofun
    | handled fd events now io => exact hslot.handled m.config events now io
    | ticked now io => exact hslot.ticked m.config now (io i)
  · exact ⟨rfl, Int.natCast_nonneg fd, Or.inl rfl, fun _ => by show 0 < 28; decide⟩

theorem slotStep_sameness {s : MonitorStep} {slot' : Slot} (hstep : SlotStep m s i slot slot') :
    slot'.sameness = slot.sameness := by
  cases hstep with
  | kept => rfl
  | disconnected feedId now io =>
      exact congrArg Prod.snd (Slot.disconnected_place slot m.config now io)
  | forcedReconnect => rfl
  | rebased => rfl
  | handled fd events now io =>
      exact congrArg Prod.snd (Slot.handled_place slot m.config events now io)
  | ticked now io => exact Slot.ticked_sameness slot m.config now (io i)

/-! ## The list of slots -/

/-- The slots are the same objects in the same order. -/
structure InPlace (m m' : FeedMonitor) : Prop where
  slots : m'.slots.map Slot.sameness = m.slots.map Slot.sameness
  feeds : m'.indexOfFeedId = m.indexOfFeedId
  next : m'.nextObject = m.nextObject

theorem map_set_same {β : Type} {f : Slot → β} {slots : List Slot} {slot' : Slot}
    (hx : slots[i]? = some slot) (heq : f slot' = f slot) :
    (slots.set i slot').map f = slots.map f := by
  obtain ⟨hlt, rfl⟩ := List.getElem?_eq_some_iff.mp hx
  rw [List.map_set, heq]
  apply List.ext_getElem?
  intro j
  by_cases hji : j = i
  · subst hji
    simp [hlt]
  · rw [List.getElem?_set_ne (Ne.symm hji)]

theorem Edit.inPlace {tidy : Prop} {slot' : Slot} {m' : FeedMonitor}
    (h : Edit tidy m i slot slot' m') (hx : m.slots[i]? = some slot)
    (hsame : slot'.sameness = slot.sameness) : InPlace m m' := by
  refine ⟨?_, ?_, ?_⟩
  · rw [h.slots_eq, map_set_same hx hsame]
  · exact congrArg (fun s => s.2.2.2.2.1) h.surroundings_eq
  · exact congrArg (fun s => s.2.2.2.2.2) h.surroundings_eq

theorem onTimerTick_inPlace (h : m.Sound) (now : Int) (io : Nat → SlotIo) :
    InPlace m (m.onTimerTick now io) := by
  have hsur := (tick_turns h now io m.slots.length).1
  refine ⟨?_, congrArg (fun s => s.2.2.2.2.1) hsur, congrArg (fun s => s.2.2.2.2.2) hsur⟩
  apply List.ext_getElem?
  intro j
  rw [List.getElem?_map, List.getElem?_map, onTimerTick_getElem? h]
  cases m.slots[j]? with
  | none => rfl
  | some slot => exact congrArg some (Slot.ticked_sameness slot m.config now (io j))

/-- **The shape of a step.**  It works in place, appends one slot, or removes
one. -/
theorem step_shape (h : m.Sound) (s : MonitorStep) :
    InPlace m (m.step s) ∨
      (∃ endpoint, ∃ fd : Nat, ∃ now, s = .command (.addFeed endpoint (some fd) now) ∧
        endpoint.feedId ∉ m.indexOfFeedId ∧ m.step s = m.withFeed endpoint fd now) ∨
      (∃ feedId i slot, s = .command (.removeFeed feedId) ∧ m.slots[i]? = some slot ∧
        m.step s = m.removeSlotAt i) := by
  have hself : InPlace m m := ⟨rfl, rfl, rfl⟩
  cases s with
  | timerTick now io => exact Or.inl (onTimerTick_inPlace h now io)
  | connectionEvent fd events now io =>
      left
      simp only [step]
      split
      · exact hself
      · next index _ =>
          cases hx : m.slots[index]? with
          | none =>
              rw [handleConnectionEvent_none events now io hx]
              exact hself
          | some slot =>
              exact (handleConnectionEvent_edit events now io hx (h.at hx).fd).inPlace hx
                (congrArg Prod.snd (Slot.handled_place slot m.config events now io))
  | command c =>
      have hresult := command_result h c
      generalize hend : m.command c = result at hresult
      have hstep : m.step (.command c) = result := hend
      rw [hstep]
      cases hresult with
      | idle => exact Or.inl hself
      | added endpoint fd now hnew => exact Or.inr (Or.inl ⟨endpoint, fd, now, rfl, hnew, rfl⟩)
      | removed feedId i slot hlookup hx => exact Or.inr (Or.inr ⟨feedId, i, slot, rfl, hx, rfl⟩)
      | disconnected feedId now io i slot hlookup hx =>
          exact Or.inl ((disconnected_edit m i slot now io).inPlace hx
            (congrArg Prod.snd (Slot.disconnected_place slot m.config now io)))
      | renewed feedId i slot hlookup hx => exact Or.inl ((renewed_edit m i slot).inPlace hx rfl)
      | intervalSet interval => exact Or.inl ⟨rfl, rfl, rfl⟩
      | timeoutSet timeout now =>
          refine Or.inl ⟨?_, rfl, rfl⟩
          rw [setHeartbeatTimeout, List.map_map]
          rfl
      | inputSet fd => exact Or.inl ⟨rfl, rfl, rfl⟩

/-! ## The configuration -/

theorem Edit.config_eq {tidy : Prop} {slot' : Slot} {m' : FeedMonitor}
    (h : Edit tidy m i slot slot' m') : m'.config = m.config :=
  congrArg Prod.fst h.surroundings_eq

/-- What a step makes of the configuration. -/
def configure (cfg : Config) : MonitorStep → Config
  | .command (.setHeartbeatInterval interval) => { cfg with heartbeatInterval := interval }
  | .command (.setHeartbeatTimeout timeout _) => { cfg with heartbeatTimeout := timeout }
  | _ => cfg

theorem step_config (h : m.Sound) (s : MonitorStep) :
    (m.step s).config = configure m.config s := by
  cases s with
  | timerTick now io => exact congrArg Prod.fst (tick_turns h now io m.slots.length).1
  | connectionEvent fd events now io =>
      simp only [step]
      split
      · rfl
      · next index _ =>
          cases hx : m.slots[index]? with
          | none =>
              rw [handleConnectionEvent_none events now io hx]
              rfl
          | some slot => exact (handleConnectionEvent_edit events now io hx (h.at hx).fd).config_eq
  | command c =>
      -- the operations that set no time
      have hquiet : configure m.config (.command c) = m.config →
          (m.command c).config = m.config := by
        intro hcfg
        have hresult := command_result h c
        generalize m.command c = result at hresult ⊢
        cases hresult with
        | removed feedId i slot hlookup hx => rw [removeSlotAt_eq h hx]
        | intervalSet interval => exact hcfg
        | timeoutSet timeout now => exact hcfg
        | _ => rfl
      cases c with
      | setHeartbeatInterval interval => rfl
      | setHeartbeatTimeout timeout now => rfl
      | _ => exact hquiet rfl

/-- Only the two heartbeat times can be set. -/
theorem step_lasting (h : m.Sound) (s : MonitorStep) :
    (m.step s).config.lasting = m.config.lasting := by
  rw [step_config h]
  unfold configure
  split <;> rfl

/-- The feeds are listed under their ids, and the slots hold different objects. -/
structure Listed (m : FeedMonitor) : Prop where
  sound : m.Sound
  feedIndex : FlatIndex.Indexes feedKey m.indexOfFeedId m.slots
  objects_nodup : (m.slots.map (·.history.object)).Nodup
  objects_lt : ∀ slot ∈ m.slots, slot.history.object < m.nextObject

theorem listed_create (config : Config) (timerFd wakeFd : Int) :
    (create config timerFd wakeFd).Listed where
  sound := sound_create config timerFd wakeFd
  feedIndex := FlatIndex.indexes_nil
  objects_nodup := List.nodup_nil
  objects_lt := fun _ h => absurd h List.not_mem_nil

theorem Listed.inPlace {m' : FeedMonitor} (h : m.Listed) (hsound : m'.Sound)
    (hp : InPlace m m') : m'.Listed := by
  have hobjects : m'.slots.map (·.history.object) = m.slots.map (·.history.object) := by
    have hfst := congrArg (List.map Prod.fst) hp.slots
    rw [List.map_map, List.map_map] at hfst
    exact hfst
  refine ⟨hsound, ?_, ?_, ?_⟩
  · rw [hp.feeds]
    exact h.feedIndex.of_map_eq (g := fun s => some s.2.2.1) (fun _ => rfl) hp.slots
  · rw [hobjects]
    exact h.objects_nodup
  · intro slot hslot
    rw [hp.next]
    have hmem : slot.history.object ∈ m.slots.map (·.history.object) := by
      rw [← hobjects]
      exact List.mem_map_of_mem hslot
    obtain ⟨slot0, h0, heq⟩ := List.mem_map.mp hmem
    rw [← heq]
    exact h.objects_lt slot0 h0

theorem step_listed (h : m.Listed) (s : MonitorStep) : (m.step s).Listed := by
  have hsound := step_sound h.sound s
  rcases step_shape h.sound s with
    hp | ⟨endpoint, fd, now, _, hnew, heq⟩ | ⟨feedId, i, slot, _, hx, heq⟩
  · exact h.inPlace hsound hp
  · rw [heq] at hsound ⊢
    refine ⟨hsound, h.feedIndex.push rfl hnew, ?_, ?_⟩
    · rw [withFeed, List.map_append]
      refine h.objects_nodup.append (List.nodup_singleton _) ?_
      intro a ha hb
      obtain ⟨s, hs, rfl⟩ := List.mem_map.mp ha
      have hlt := h.objects_lt s hs
      have heq : s.history.object = m.nextObject := List.mem_singleton.mp hb
      omega
    · intro s hs
      show _ < m.nextObject + 1
      rcases List.mem_append.mp hs with hm | hm
      · exact Nat.lt_succ_of_lt (h.objects_lt s hm)
      · rw [List.mem_singleton.mp hm]
        exact Nat.lt_succ_self _
  · obtain ⟨hlt, _⟩ := List.getElem?_eq_some_iff.mp hx
    rw [heq, removeSlotAt_eq h.sound hx] at hsound ⊢
    refine ⟨hsound, ?_, FlatIndex.nodup_map_swapRemove hlt h.objects_nodup, ?_⟩
    · refine h.feedIndex.swapRemove hx (Or.inr rfl) ?_
      intro j z hji hz heq
      exact hji (h.feedIndex.position_unique hz hx heq rfl)
    · intro s hs
      obtain ⟨j, _, hj⟩ := FlatIndex.mem_swapRemove hlt hs
      exact h.objects_lt s (List.mem_of_getElem? hj)

/-- No assumption on the kernel is needed for this. -/
theorem run_listed (h : m.Listed) (steps : List MonitorStep) : (steps.foldl step m).Listed := by
  induction steps generalizing m with
  | nil => exact h
  | cons s rest ih => exact ih (step_listed h s)

end FeedMonitor

end Vigil
