import Vigil.MonitorSteps
import Mathlib.Logic.Function.Basic

/-!
# The slots as a finite map

To its operators the monitor is a finite map from feed ids to slots.  `store`
reads it off the flat vector and `index_of_feed_id_`; `add_feed` and
`remove_feed` are insertion and deletion in it, whatever happened before.
-/

namespace Vigil

open FlatIndex

namespace FeedMonitor

variable {m : FeedMonitor}

/-- The slot of a feed. -/
def store (m : FeedMonitor) : BitVec 32 → Option Slot :=
  find m.indexOfFeedId m.slots

/-- One entry of `index_of_feed_id_` per slot, pointing at it. -/
structure StoreExact (m : FeedMonitor) : Prop where
  ids_nodup : (m.slots.map (·.connection.feedId)).Nodup
  keys : m.indexOfFeedId.keys.Perm (m.slots.map (·.connection.feedId))
  lookup : ∀ (i : Nat) (slot : Slot), m.slots[i]? = some slot →
    m.indexOfFeedId.lookup slot.connection.feedId = some i

theorem Listed.storeExact (h : m.Listed) : m.StoreExact := by
  have hkeys : m.indexOfFeedId.keys.Perm (m.slots.map (·.connection.feedId)) := by
    have hall : m.slots.filterMap feedKey = m.slots.map (·.connection.feedId) :=
      List.filterMap_eq_map' ▸ rfl
    rw [← hall]
    exact h.feedIndex.keys_perm
  refine ⟨hkeys.nodup_iff.mp m.indexOfFeedId.keys_nodup, hkeys, ?_⟩
  intro i slot hx
  exact (h.feedIndex _ i).mpr ⟨slot, hx, rfl⟩

/-! ## Removal -/

/-- `remove_feed` takes out the slot of the feed and no other. -/
theorem removeFeed_perm (h : m.Listed) (feedId : BitVec 32) :
    (m.removeFeed feedId).slots.Perm
      (m.slots.filter fun slot => slot.connection.feedId ≠ feedId) := by
  unfold removeFeed
  split
  · next hnone =>
      have hall := h.feedIndex.notMem_iff.mp (AList.lookup_eq_none.mp hnone)
      rw [List.filter_eq_self.mpr]
      intro slot hslot
      exact decide_eq_true fun heq => hall slot hslot (congrArg some heq)
  · next index hlookup =>
      obtain ⟨slot, hx, hkey⟩ := (h.feedIndex feedId index).mp hlookup
      obtain ⟨hlt, _⟩ := List.getElem?_eq_some_iff.mp hx
      obtain rfl : slot.connection.feedId = feedId := Option.some.inj hkey
      have hslots : (m.removeSlotAt index).slots = swapRemove m.slots index := by
        rw [removeSlotAt_eq h.sound hx]
      rw [hslots, ← eraseIdx_eq_filter h.storeExact.ids_nodup hx]
      exact swapRemove_perm hlt

theorem removeFeed_store (h : m.Listed) (feedId : BitVec 32) :
    (m.removeFeed feedId).store = Function.update m.store feedId none := by
  have hafter : (m.removeFeed feedId).Listed := step_listed h (.command (.removeFeed feedId))
  have hmem := fun slot => (removeFeed_perm h feedId).mem_iff (a := slot)
  funext key
  by_cases hkey : key = feedId
  · subst hkey
    rw [Function.update_self, store, hafter.feedIndex.find_eq_none]
    intro slot hslot heq
    have hne := of_decide_eq_true (List.mem_filter.mp ((hmem slot).mp hslot)).2
    exact hne (Option.some.inj heq)
  · rw [Function.update_of_ne hkey]
    refine h.feedIndex.find_congr hafter.feedIndex ?_
    intro slot heq
    have hne : slot.connection.feedId ≠ feedId := fun hid =>
      hkey ((Option.some.inj heq).symm.trans hid)
    rw [hmem, List.mem_filter]
    exact ⟨fun hslot => hslot.1, fun hslot => ⟨hslot, decide_eq_true hne⟩⟩

/-! ## Insertion -/

theorem addFeed_store (h : m.Listed) (endpoint : FeedEndpoint) (fd : Nat) (now : Int)
    (hslots : (m.addFeed endpoint (some fd) now).2.slots =
      m.slots ++ [m.newSlot endpoint fd now]) :
    (m.addFeed endpoint (some fd) now).2.store =
      Function.update m.store endpoint.feedId (some (m.newSlot endpoint fd now)) := by
  have hafter : (m.addFeed endpoint (some fd) now).2.Listed :=
    step_listed h (.command (.addFeed endpoint (some fd) now))
  funext key
  by_cases hkey : key = endpoint.feedId
  · subst hkey
    rw [Function.update_self, store, hafter.feedIndex.find_eq_some, hslots]
    exact ⟨List.mem_append_right _ List.mem_cons_self, rfl⟩
  · rw [Function.update_of_ne hkey]
    refine h.feedIndex.find_congr hafter.feedIndex ?_
    intro slot heq
    rw [hslots, List.mem_append, List.mem_singleton]
    constructor
    · rintro (hslot | rfl)
      · exact hslot
      · exact absurd (Option.some.inj heq).symm hkey
    · exact Or.inl

/-- What `add_feed` answers, and what it then leaves. -/
theorem addFeed_result (h : m.Listed) (endpoint : FeedEndpoint) (socket : Option Nat) (now : Int) :
    ((m.addFeed endpoint socket now).1 = false ∧ (m.addFeed endpoint socket now).2 = m ∧
      (m.store endpoint.feedId ≠ none ∨ socket = none)) ∨
    ((m.addFeed endpoint socket now).1 = true ∧ m.store endpoint.feedId = none ∧
      ∃ fd, socket = some fd ∧
        (m.addFeed endpoint socket now).2.slots = m.slots ++ [m.newSlot endpoint fd now]) := by
  have hlisted : m.store endpoint.feedId = none ↔ endpoint.feedId ∉ m.indexOfFeedId := by
    rw [store, h.feedIndex.find_eq_none, h.feedIndex.notMem_iff]
  unfold addFeed
  split
  · next hdup => exact Or.inl ⟨rfl, rfl, Or.inl fun hnone => hlisted.mp hnone hdup⟩
  · next hnew =>
      cases socket with
      | none => exact Or.inl ⟨rfl, rfl, Or.inr rfl⟩
      | some fd => exact Or.inr ⟨rfl, hlisted.mpr hnew, fd, rfl, rfl⟩

/-! ## Every run -/

/-- **The slot store is a finite map.**  After every run the feed ids are
distinct and `index_of_feed_id_` is exact; `remove_feed` then deletes the slot
of its feed and only moves the others; `add_feed` appends one fresh slot, or
changes nothing if it returns `false`. -/
theorem slot_store_is_map (config : Config) (timerFd wakeFd : Int) (steps : List MonitorStep)
    (feedId : BitVec 32) (endpoint : FeedEndpoint) (socket : Option Nat) (now : Int) :
    let m := steps.foldl step (create config timerFd wakeFd)
    m.StoreExact ∧
    (m.removeFeed feedId).slots.Perm
      (m.slots.filter fun slot => slot.connection.feedId ≠ feedId) ∧
    (m.removeFeed feedId).store = Function.update m.store feedId none ∧
    ((m.addFeed endpoint socket now).1 = true ↔
      m.store endpoint.feedId = none ∧ socket ≠ none) ∧
    ((m.addFeed endpoint socket now).1 = true → ∃ fd, socket = some fd ∧
      (m.addFeed endpoint socket now).2.slots = m.slots ++ [m.newSlot endpoint fd now] ∧
      (m.addFeed endpoint socket now).2.store =
        Function.update m.store endpoint.feedId (some (m.newSlot endpoint fd now))) ∧
    ((m.addFeed endpoint socket now).1 = false →
      (m.addFeed endpoint socket now).2.slots = m.slots ∧
      (m.addFeed endpoint socket now).2.indexOfFd = m.indexOfFd ∧
      (m.addFeed endpoint socket now).2.indexOfFeedId = m.indexOfFeedId) := by
  intro m
  have hm : m.Listed := run_listed (listed_create config timerFd wakeFd) steps
  refine ⟨hm.storeExact, removeFeed_perm hm feedId, removeFeed_store hm feedId, ?_⟩
  rcases addFeed_result hm endpoint socket now with
    ⟨hfalse, hsame, hwhy⟩ | ⟨htrue, hnew, fd, rfl, hslots⟩
  · refine ⟨?_, ?_, ?_⟩
    · rw [hfalse]
      refine ⟨nofun, ?_⟩
      rintro ⟨hnone, hsocket⟩
      rcases hwhy with hwhy | hwhy
      · exact absurd hnone hwhy
      · exact absurd hwhy hsocket
    · rw [hfalse]
      nofun
    · intro _
      rw [hsame]
      exact ⟨rfl, rfl, rfl⟩
  · refine ⟨⟨fun _ => ⟨hnew, nofun⟩, fun _ => htrue⟩, ?_, ?_⟩
    · intro _
      exact ⟨fd, rfl, hslots, addFeed_store hm endpoint fd now hslots⟩
    · rw [htrue]
      nofun

end FeedMonitor

end Vigil
