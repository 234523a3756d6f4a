import Vigil.Components
import Vigil.FdIndex
import Vigil.SlotStore

/-!
# Every feed on its own

The feeds of a monitor share one vector of slots, two index maps and one
reactor.  `FeedInput` says what a step can tell one feed, and `FeedInput.apply`
is the machine of a single feed.  `feed_runs_alone` says that the reactor is
nothing but these machines side by side: how many other feeds there are, in
which positions they lie, in which order they fail, reconnect, come and go is
never seen by a feed.  `feeds_isolated` compares two monitors: a feed that is
told the same in both is the same in both.
-/

namespace Vigil

open FlatIndex

/-! ## The machine of one feed -/

/-- What can be told to one feed.  Everything that the reactor reads for it
comes along: the configuration, the clock and the answers of its socket. -/
inductive FeedInput where
  | added (endpoint : FeedEndpoint) (fd : Nat) (now : Int)
  | removed
  | disconnected (cfg : Config) (now : Int) (io : SlotIo)
  | renewed
  | rebased (cfg : Config) (now : Int)
  | handled (cfg : Config) (events : EpollEvents) (now : Int) (io : SlotIo)
  | ticked (cfg : Config) (now : Int) (io : SlotIo)

/-- The slot without the number that its object has in a monitor. -/
def Slot.unnumbered (slot : Slot) : Slot :=
  { slot with history := { slot.history with object := 0 } }

/-- A slot on a new socket. -/
def Slot.fresh (endpoint : FeedEndpoint) (fd : Nat) (now : Int) : Slot where
  connection := Connection.create fd .kInitiator endpoint.feedId endpoint.host endpoint.port none
    ⟨[], fun _ => now, ()⟩ now
  name := endpoint.name
  history := { object := 0 }

namespace FeedInput

/-- What becomes of the slot of a feed that exists. -/
def onSlot (slot : Slot) : FeedInput → Option Slot
  | .added _ _ _ => some slot
  | .removed => none
  | .disconnected cfg now io =>
      some (if slot.connection.state ≠ .kFailed then slot.disconnected cfg now io else slot)
  | .renewed =>
      some (if slot.connection.state = .kFailed then
        { slot with giveUp := false, reconnectAttempts := 0, reconnectReadyAtNs := 0 } else slot)
  | .rebased cfg now =>
      some (slot.invoke cfg slot.connection.env (.resetLivenessBaseline now))
  | .handled cfg events now io => some (slot.handled cfg events now io)
  | .ticked cfg now io => some (slot.ticked cfg now io)

/-- The machine of one feed; `none` while there is no such feed. -/
def apply : Option Slot → FeedInput → Option Slot
  | none, .added endpoint fd now => some (Slot.fresh endpoint fd now)
  | none, _ => none
  | some slot, input => input.onSlot slot

end FeedInput

/-! ## The number of an object matters to nothing -/

namespace Slot

@[simp] theorem unnumbered_connection (slot : Slot) :
    slot.unnumbered.connection = slot.connection := rfl

theorem scheduleReconnect_unnumbered (slot : Slot) (cfg : Config) (now : Int)
    (jitter : JitterFactor) :
    (slot.scheduleReconnect cfg now jitter).unnumbered =
      slot.unnumbered.scheduleReconnect cfg now jitter := by
  unfold scheduleReconnect
  dsimp only
  rw [apply_ite unnumbered]
  rfl

theorem fail_unnumbered (slot : Slot) (cfg : Config) (io : SlotIo) :
    (slot.fail cfg io).unnumbered = slot.unnumbered.fail cfg io :=
  scheduleReconnect_unnumbered slot.emitFailureAlert cfg io.failedAt io.jitter

theorem disconnected_unnumbered (slot : Slot) (cfg : Config) (now : Int) (io : SlotIo) :
    (slot.disconnected cfg now io).unnumbered = slot.unnumbered.disconnected cfg now io :=
  fail_unnumbered _ cfg io

theorem writeIfWritable_unnumbered (slot : Slot) (cfg : Config) (events : EpollEvents) (now : Int)
    (io : SlotIo) : (slot.writeIfWritable cfg events now io).unnumbered =
      slot.unnumbered.writeIfWritable cfg events now io := by
  unfold writeIfWritable
  split <;> rfl

theorem onEvent_unnumbered (slot : Slot) (cfg : Config) (events : EpollEvents) (now : Int)
    (io : SlotIo) :
    (slot.onEvent cfg events now io).unnumbered = slot.unnumbered.onEvent cfg events now io := by
  unfold onEvent
  rw [← writeIfWritable_unnumbered]
  split
  · rfl
  · dsimp only
    generalize slot.writeIfWritable cfg events now io = written
    rw [apply_ite unnumbered]
    rfl

theorem handled_unnumbered (slot : Slot) (cfg : Config) (events : EpollEvents) (now : Int)
    (io : SlotIo) :
    (slot.handled cfg events now io).unnumbered = slot.unnumbered.handled cfg events now io := by
  unfold handled
  rw [← onEvent_unnumbered, unnumbered_connection]
  split
  · exact fail_unnumbered _ cfg io
  · rfl

theorem pingIfDue_unnumbered (slot : Slot) (cfg : Config) (now : Int) (io : SlotIo) :
    (slot.pingIfDue cfg now io).unnumbered = slot.unnumbered.pingIfDue cfg now io := by
  unfold pingIfDue
  rw [apply_ite unnumbered]
  rfl

theorem checked_unnumbered (slot : Slot) (cfg : Config) (now : Int) (io : SlotIo) :
    (slot.checked cfg now io).unnumbered = slot.unnumbered.checked cfg now io := by
  have hcheck : (slot.unnumbered.check cfg now io).1 = (slot.check cfg now io).1 := rfl
  unfold checked
  rw [hcheck]
  split
  · exact fail_unnumbered _ cfg io
  · rfl

theorem reconnected_unnumbered (slot : Slot) (cfg : Config) (now : Int) (io : SlotIo) :
    (slot.reconnected cfg now io).unnumbered = slot.unnumbered.reconnected cfg now io := by
  unfold reconnected
  cases io.socket with
  | some fd => rfl
  | none => exact scheduleReconnect_unnumbered _ cfg now io.jitter

theorem ticked_unnumbered (slot : Slot) (cfg : Config) (now : Int) (io : SlotIo) :
    (slot.ticked cfg now io).unnumbered = slot.unnumbered.ticked cfg now io := by
  have hdue : slot.unnumbered.reconnectDue now = slot.reconnectDue now := rfl
  unfold ticked
  rw [unnumbered_connection, hdue, ← reconnected_unnumbered, ← checked_unnumbered,
    ← pingIfDue_unnumbered, ← checked_unnumbered]
  cases slot.connection.state with
  | kFailed =>
      dsimp only
      split <;> rfl
  | _ => rfl

end Slot

theorem FeedInput.onSlot_unnumbered (slot : Slot) (input : FeedInput) :
    (input.onSlot slot).map Slot.unnumbered = input.onSlot slot.unnumbered := by
  cases input with
  | disconnected cfg now io =>
      simp only [onSlot, Option.map_some, Slot.unnumbered_connection, apply_ite Slot.unnumbered,
        Slot.disconnected_unnumbered]
      rfl
  | renewed =>
      simp only [onSlot, Option.map_some, Slot.unnumbered_connection, apply_ite Slot.unnumbered]
      rfl
  | handled cfg events now io => exact congrArg some (Slot.handled_unnumbered slot cfg events now io)
  | ticked cfg now io => exact congrArg some (Slot.ticked_unnumbered slot cfg now io)
  | _ => rfl

/-! ## What a feed is told -/

namespace FeedMonitor

variable {m : FeedMonitor} {feedId : BitVec 32}

/-- The feed, as its own machine has it. -/
def feed (m : FeedMonitor) (feedId : BitVec 32) : Option Slot :=
  (m.store feedId).map Slot.unnumbered

/-- What an operation tells the feed. -/
def commandHeard (m : FeedMonitor) (feedId : BitVec 32) : MonitorCommand → List FeedInput
  | .addFeed endpoint (some fd) now =>
      if endpoint.feedId = feedId then [.added endpoint fd now] else []
  | .addFeed _ none _ => []
  | .removeFeed id => if id = feedId then [.removed] else []
  | .forceDisconnect id now io => if id = feedId then [.disconnected m.config now io] else []
  | .forceReconnect id => if id = feedId then [.renewed] else []
  | .setHeartbeatInterval _ => []
  | .setHeartbeatTimeout timeout now =>
      [.rebased { m.config with heartbeatTimeout := timeout } now]
  | .setCommandInput _ => []

/-- What a step tells the feed.  An event reaches it if it is on the socket of
its live connection; the answers of a tick are those at its position. -/
def heard (feedId : BitVec 32) (m : FeedMonitor) : MonitorStep → List FeedInput
  | .command c => m.commandHeard feedId c
  | .connectionEvent fd events now io =>
      if (m.store feedId).bind liveFd = some fd then [.handled m.config events now io] else []
  | .timerTick now io =>
      match m.indexOfFeedId.lookup feedId with
      | some i => [.ticked m.config now (io i)]
      | none => []

theorem mem_told {input told : FeedInput} {p : Prop} [Decidable p]
    (h : input ∈ if p then [told] else []) : input = told := by
  split at h
  · exact List.mem_singleton.mp h
  · cases h

/-! ## One step -/

/-- One slot changes in place. -/
theorem store_set (h : m.Listed) {m' : FeedMonitor} {i : Nat} {slot slot' : Slot}
    (hx : m.slots[i]? = some slot) (hslots : m'.slots = m.slots.set i slot')
    (hindex : m'.indexOfFeedId = m.indexOfFeedId) :
    m'.store = Function.update m.store slot.connection.feedId (some slot') := by
  obtain ⟨hlt, _⟩ := List.getElem?_eq_some_iff.mp hx
  funext key
  show (m'.indexOfFeedId.lookup key).bind (fun j => m'.slots[j]?) = _
  rw [hslots, hindex]
  by_cases hkey : key = slot.connection.feedId
  · have hlookup : m.indexOfFeedId.lookup key = some i :=
      (h.feedIndex key i).mpr ⟨slot, hx, congrArg some hkey.symm⟩
    rw [hlookup, hkey, Function.update_self, Option.bind_some, List.getElem?_set_self hlt]
  · rw [Function.update_of_ne hkey]
    show _ = (m.indexOfFeedId.lookup key).bind fun j => m.slots[j]?
    cases hlookup : m.indexOfFeedId.lookup key with
    | none => rfl
    | some j =>
        obtain ⟨z, hz, hzkey⟩ := (h.feedIndex key j).mp hlookup
        have hij : i ≠ j := by
          rintro rfl
          rw [hx] at hz
          cases hz
          exact hkey (Option.some.inj hzkey).symm
        rw [Option.bind_some, Option.bind_some, List.getElem?_set_ne hij]

/-- A slot of the vector is the one stored under its feed id. -/
theorem Listed.store_at (h : m.Listed) {i : Nat} {slot : Slot} (hx : m.slots[i]? = some slot) :
    m.store slot.connection.feedId = some slot :=
  h.feedIndex.find_eq_some.mpr ⟨List.mem_of_getElem? hx, rfl⟩

/-- The slot of the feed an edited slot belongs to, and that of every other feed. -/
theorem feed_set (h : m.Listed) {m' : FeedMonitor} {i : Nat} {slot slot' : Slot}
    (hx : m.slots[i]? = some slot) (hslots : m'.slots = m.slots.set i slot')
    (hindex : m'.indexOfFeedId = m.indexOfFeedId) (feedId : BitVec 32) :
    m'.feed feedId =
      if slot.connection.feedId = feedId then some slot'.unnumbered else m.feed feedId := by
  rw [feed, store_set h hx hslots hindex]
  by_cases hid : slot.connection.feedId = feedId
  · rw [if_pos hid, ← hid, Function.update_self]
    rfl
  · rw [if_neg hid, Function.update_of_ne (Ne.symm hid)]
    rfl

theorem feed_eq_some (h : m.store feedId = some slot) : m.feed feedId = some slot.unnumbered := by
  rw [feed, h]
  rfl

/-- An event that tells the feed what became of it. -/
theorem apply_feed {slot : Slot} (h : m.store feedId = some slot) (input : FeedInput) :
    FeedInput.apply (m.feed feedId) input = (input.onSlot slot).map Slot.unnumbered := by
  rw [feed_eq_some h, FeedInput.onSlot_unnumbered]
  rfl

theorem addFeed_feed (h : m.Listed) (endpoint : FeedEndpoint) (socket : Option Nat) (now : Int) :
    (m.addFeed endpoint socket now).2.feed feedId =
      (m.commandHeard feedId (.addFeed endpoint socket now)).foldl FeedInput.apply
        (m.feed feedId) := by
  have hresult := addFeed_result h endpoint socket now
  cases socket with
  | none =>
      rcases hresult with ⟨_, hsame, _⟩ | ⟨_, _, _, hsocket, _⟩
      · rw [hsame]
        rfl
      · cases hsocket
  | some fd =>
      simp only [commandHeard]
      rcases hresult with ⟨_, hsame, hwhy⟩ | ⟨_, hnew, _, hsocket, hslots⟩
      · rw [hsame]
        split
        · next hid =>
            -- the feed exists already
            obtain ⟨slot, hslot⟩ : ∃ slot, m.store feedId = some slot := by
              rcases hwhy with hsome | hnone
              · exact Option.ne_none_iff_exists'.mp (hid ▸ hsome)
              · cases hnone
            rw [List.foldl_cons, List.foldl_nil, apply_feed hslot, feed_eq_some hslot]
            rfl
        · rfl
      · cases hsocket
        rw [feed, addFeed_store h endpoint fd now hslots]
        split
        · next hid =>
            subst hid
            rw [Function.update_self, feed, hnew]
            rfl
        · next hid =>
            rw [Function.update_of_ne (Ne.symm hid)]
            rfl

theorem forceDisconnect_eq (h : m.Sound) {i : Nat} {slot : Slot} (now : Int) (io : SlotIo)
    (hlookup : m.indexOfFeedId.lookup feedId = some i) (hx : m.slots[i]? = some slot) :
    m.forceDisconnect feedId now io =
      if slot.connection.state ≠ .kFailed then
        m.edit i (slot.disconnected m.config now io) (m.indexOfFd.erase slot.connection.fd)
          (m.epollSet.del slot.connection.fd)
      else m := by
  obtain ⟨hlt, _⟩ := List.getElem?_eq_some_iff.mp hx
  let hung := slot.invoke m.config io.env (.onHangupOrError kEConnAborted now)
  have hx' : ({ m with slots := m.slots.set i hung } : FeedMonitor).slots[i]? = some hung :=
    List.getElem?_set_self hlt
  simp only [forceDisconnect, hlookup, hx]
  rw [modifySlot_eq _ hx, onConnectionFailed_eq io hx' (h.at hx).fd]
  simp only [edit, List.set_set]
  rfl

theorem forceReconnect_eq {i : Nat} {slot : Slot}
    (hlookup : m.indexOfFeedId.lookup feedId = some i) (hx : m.slots[i]? = some slot) :
    m.forceReconnect feedId = { m with
      slots := m.slots.set i (if slot.connection.state = .kFailed then
        { slot with giveUp := false, reconnectAttempts := 0, reconnectReadyAtNs := 0 }
      else slot) } := by
  simp only [forceReconnect, hlookup]
  rw [modifySlot_eq _ hx]

/-- An operation on one feed: what it makes of the feed it names. -/
theorem named_feed (h : m.Listed) {m' : FeedMonitor} {id : BitVec 32} {input : FeedInput}
    (habsent : m.store id = none → m' = m ∧ ∀ o, o = none → FeedInput.apply o input = none)
    (hpresent : ∀ i slot, m.indexOfFeedId.lookup id = some i → m.slots[i]? = some slot →
      ∃ slot', input.onSlot slot = some slot' ∧ m'.slots = m.slots.set i slot' ∧
        m'.indexOfFeedId = m.indexOfFeedId) (feedId : BitVec 32) :
    m'.feed feedId =
      (if id = feedId then [input] else []).foldl FeedInput.apply (m.feed feedId) := by
  cases hstore : m.store id with
  | none =>
      obtain ⟨hsame, hidle⟩ := habsent hstore
      rw [hsame]
      split
      · next hid =>
          have hnone : m.feed feedId = none := by
            rw [feed, ← hid, hstore]
            rfl
          rw [List.foldl_cons, List.foldl_nil, hidle _ hnone, hnone]
      · rfl
  | some slot =>
      obtain ⟨i, hlookup, hx⟩ := Option.bind_eq_some_iff.mp hstore
      obtain ⟨slot', honSlot, hslots, hindex⟩ := hpresent i slot hlookup hx
      have hid : slot.connection.feedId = id :=
        Option.some.inj (h.feedIndex.find_eq_some.mp hstore).2
      rw [feed_set h hx hslots hindex, hid]
      split
      · next heq =>
          rw [List.foldl_cons, List.foldl_nil, apply_feed (heq ▸ hstore), honSlot]
          rfl
      · rfl

/-- An operation on all slots, as one feed sees it. -/
theorem feed_everywhere {m' : FeedMonitor} {f : Nat → Slot → Slot} (told : Nat → FeedInput)
    (hindex : m'.indexOfFeedId = m.indexOfFeedId)
    (hslots : ∀ j, m'.slots[j]? = m.slots[j]?.map (f j))
    (htold : ∀ j slot, (told j).onSlot slot = some (f j slot)) {i : Nat}
    (hlookup : m.indexOfFeedId.lookup feedId = some i) (hsome : m.store feedId ≠ none) :
    m'.feed feedId = FeedInput.apply (m.feed feedId) (told i) := by
  obtain ⟨slot, hstore⟩ := Option.ne_none_iff_exists'.mp hsome
  have hx : m.slots[i]? = some slot := by
    rwa [store, find, hlookup] at hstore
  rw [apply_feed hstore, htold]
  show ((m'.indexOfFeedId.lookup feedId).bind fun j => m'.slots[j]?).map _ = _
  rw [hindex, hlookup, Option.bind_some, hslots, hx]
  rfl

theorem feed_nowhere {m' : FeedMonitor} (hindex : m'.indexOfFeedId = m.indexOfFeedId)
    (hlookup : m.indexOfFeedId.lookup feedId = none) :
    m'.feed feedId = none := by
  show ((m'.indexOfFeedId.lookup feedId).bind fun j => m'.slots[j]?).map _ = _
  rw [hindex, hlookup]
  rfl

/-- A listed feed has a slot. -/
theorem Listed.store_of_lookup (h : m.Listed) {i : Nat}
    (hlookup : m.indexOfFeedId.lookup feedId = some i) : m.store feedId ≠ none := by
  obtain ⟨slot, hx, _⟩ := (h.feedIndex feedId i).mp hlookup
  rw [store, find, hlookup, Option.bind_some, hx]
  exact Option.some_ne_none slot

theorem command_feed (h : m.Listed) (c : MonitorCommand) :
    (m.command c).feed feedId =
      (m.commandHeard feedId c).foldl FeedInput.apply (m.feed feedId) := by
  cases c with
  | addFeed endpoint socket now => exact addFeed_feed h endpoint socket now
  | removeFeed id =>
      rw [command, feed, removeFeed_store h, commandHeard]
      split
      · next hid =>
          rw [hid, Function.update_self, List.foldl_cons, List.foldl_nil]
          cases m.feed feedId with
          | none => rfl
          | some slot => rfl
      · next hid =>
          rw [Function.update_of_ne (Ne.symm hid)]
          rfl
  | forceDisconnect id now io =>
      refine named_feed h (fun hnone => ⟨?_, fun o ho => by rw [ho]; rfl⟩) ?_ feedId
      · rw [command, forceDisconnect]
        cases hlookup : m.indexOfFeedId.lookup id with
        | none => rfl
        | some i =>
            have hx : m.slots[i]? = none := by
              rwa [store, find, hlookup] at hnone
            simp only [hx]
      · intro i slot hlookup hx
        rw [command, forceDisconnect_eq h.sound now io hlookup hx]
        refine ⟨_, rfl, ?_⟩
        split
        · exact ⟨rfl, rfl⟩
        · exact ⟨(slots_set_self hx).symm, rfl⟩
  | forceReconnect id =>
      refine named_feed h (fun hnone => ⟨?_, fun o ho => by rw [ho]; rfl⟩) ?_ feedId
      · rw [command, forceReconnect]
        cases hlookup : m.indexOfFeedId.lookup id with
        | none => rfl
        | some i =>
            have hx : m.slots[i]? = none := by
              rwa [store, find, hlookup] at hnone
            simp only [modifySlot, List.modify_eq_set_getElem?, hx]
            rfl
      · intro i slot hlookup hx
        rw [command, forceReconnect_eq hlookup hx]
        exact ⟨_, rfl, rfl, rfl⟩
  | setHeartbeatInterval interval => rfl
  | setHeartbeatTimeout timeout now =>
      rw [commandHeard, List.foldl_cons, List.foldl_nil]
      cases hlookup : m.indexOfFeedId.lookup feedId with
      | none =>
          have hbefore : m.feed feedId = none := feed_nowhere rfl hlookup
          rw [hbefore]
          exact feed_nowhere rfl hlookup
      | some i =>
          refine feed_everywhere (fun _ =>
            .rebased { m.config with heartbeatTimeout := timeout } now) rfl ?_ (fun _ _ => rfl)
            hlookup (h.store_of_lookup hlookup)
          intro j
          rw [command, setHeartbeatTimeout, List.getElem?_map]
  | setCommandInput fd => rfl

theorem connectionEvent_feed (h : m.WellFormed) (fd : Int) (events : EpollEvents) (now : Int)
    (io : SlotIo) :
    (m.step (.connectionEvent fd events now io)).feed feedId =
      (m.heard feedId (.connectionEvent fd events now io)).foldl FeedInput.apply
        (m.feed feedId) := by
  simp only [step, heard]
  cases hlookup : m.indexOfFd.lookup fd with
  | none =>
      have hnobody : ¬ (m.store feedId).bind liveFd = some fd := by
        intro hlive
        obtain ⟨slot, hstore, hfd⟩ := Option.bind_eq_some_iff.mp hlive
        have hmem := (h.feedIndex.find_eq_some.mp hstore).1
        exact h.fdIndex.notMem_iff.mp (AList.lookup_eq_none.mp hlookup) slot hmem hfd
      rw [if_neg hnobody]
      rfl
  | some index =>
      obtain ⟨slot, hx, hfd⟩ := (h.fdIndex fd index).mp hlookup
      have hedit := handleConnectionEvent_edit events now io hx (h.sound.at hx).fd
      have hindex : (m.handleConnectionEvent index events now io).indexOfFeedId =
          m.indexOfFeedId := congrArg (fun s => s.2.2.2.2.1) hedit.surroundings_eq
      have hstore := h.toListed.store_at hx
      have hmine : slot.connection.feedId = feedId ↔
          (m.store feedId).bind liveFd = some fd := by
        constructor
        · intro hid
          rw [← hid, hstore, Option.bind_some, hfd]
        · intro hlive
          obtain ⟨other, hother, hotherFd⟩ := Option.bind_eq_some_iff.mp hlive
          obtain ⟨hmem, hotherId⟩ := h.feedIndex.find_eq_some.mp hother
          obtain ⟨j, hj⟩ := List.mem_iff_getElem?.mp hmem
          have hji := h.fdIndex.position_unique hj hx hotherFd hfd
          rw [hji, hx] at hj
          cases hj
          exact Option.some.inj hotherId
      rw [feed_set h.toListed hx hedit.slots_eq hindex]
      by_cases hid : slot.connection.feedId = feedId
      · rw [if_pos hid, if_pos (hmine.mp hid), List.foldl_cons, List.foldl_nil,
          apply_feed (hid ▸ hstore)]
        rfl
      · rw [if_neg hid, if_neg (fun hlive => hid (hmine.mpr hlive))]
        rfl

theorem timerTick_feed (h : m.Listed) (now : Int) (io : Nat → SlotIo) :
    (m.onTimerTick now io).feed feedId =
      (m.heard feedId (.timerTick now io)).foldl FeedInput.apply (m.feed feedId) := by
  have hindex : (m.onTimerTick now io).indexOfFeedId = m.indexOfFeedId :=
    (onTimerTick_inPlace h.sound now io).feeds
  rw [heard]
  cases hlookup : m.indexOfFeedId.lookup feedId with
  | none =>
      dsimp only
      rw [feed_nowhere hindex hlookup, feed_nowhere rfl hlookup]
      rfl
  | some i =>
      exact feed_everywhere (fun j => .ticked m.config now (io j)) hindex
        (onTimerTick_getElem? h.sound now io) (fun _ _ => rfl) hlookup
        (h.store_of_lookup hlookup)

/-- **A step, as one feed sees it.** -/
theorem step_feed (h : m.WellFormed) (s : MonitorStep) :
    (m.step s).feed feedId = (m.heard feedId s).foldl FeedInput.apply (m.feed feedId) := by
  cases s with
  | command c => exact command_feed h.toListed c
  | connectionEvent fd events now io => exact connectionEvent_feed h fd events now io
  | timerTick now io => exact timerTick_feed h.toListed now io

/-! ## Every run -/

/-- What is assumed of a step for the fd map to stay exact. -/
def StepOk (m : FeedMonitor) (s : MonitorStep) : Prop :=
  SocketsNew m s ∧ PingsSendable m s

instance (m : FeedMonitor) (s : MonitorStep) : Decidable (StepOk m s) :=
  inferInstanceAs (Decidable (_ ∧ _))

/-- A feed of a well-formed monitor follows the machine of one feed. -/
theorem feed_follows (feedId : BitVec 32) :
    Components.Follows step StepOk WellFormed (heard feedId) (feed · feedId) FeedInput.apply where
  kept := fun _ s h hok => step_wellFormed h s hok.1 hok.2
  follows := fun _ s h _ => step_feed h s

/-- What a run tells the feed. -/
def heardIn (config : Config) (timerFd wakeFd : Int) (steps : List MonitorStep)
    (feedId : BitVec 32) : List FeedInput :=
  Components.heardAlong step (heard feedId) (create config timerFd wakeFd) steps

/-- Two feeds are added; the first is removed, so that the second moves into
its place, and then the second connects. -/
def secondMoves : List MonitorStep :=
  [.command (.addFeed { feedId := 7, name := "alpha", host := "127.0.0.1", port := 9000 } (some 5) 0),
    .command (.addFeed { feedId := 8, name := "beta", host := "127.0.0.1", port := 9001 } (some 6) 0),
    .command (.removeFeed 7),
    .connectionEvent 6 { epollOut := true } 1 { sends := [.sent 28] },
    .timerTick 2 fun _ => {}]

/-- **Isolation.**  Two monitors that tell a feed the same have the same slot
for it, though all their other feeds differ. -/
theorem feeds_isolated (config config' : Config) (timerFd wakeFd timerFd' wakeFd' : Int)
    (steps steps' : List MonitorStep) (feedId : BitVec 32)
    (hok : Runs.Along step StepOk (create config timerFd wakeFd) steps)
    (hok' : Runs.Along step StepOk (create config' timerFd' wakeFd') steps')
    (hheard : heardIn config timerFd wakeFd steps feedId =
      heardIn config' timerFd' wakeFd' steps' feedId) :
    (steps.foldl step (create config timerFd wakeFd)).feed feedId =
      (steps'.foldl step (create config' timerFd' wakeFd')).feed feedId :=
  (feed_follows feedId).independent (feed_follows feedId)
    (wellFormed_create config timerFd wakeFd) (wellFormed_create config' timerFd' wakeFd') hok hok'
    rfl hheard

end FeedMonitor

end Vigil
