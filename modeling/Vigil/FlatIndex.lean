import Mathlib.Data.List.AList
import Mathlib.Data.List.Nodup

/-!
# Index maps into a flat vector

A vector holds its entries without gaps; a map takes keys to positions in it.
The key of an entry is partial: an entry without a key is not indexed.
`Indexes key index xs` says that the map is exact, and the lemmas say how each
way of editing the vector has to edit the map: append, change in place, and
removal by moving the last entry into the gap.
-/

namespace FlatIndex

variable {α κ : Type*} {key : α → Option κ} {xs : List α} {i : Nat} {x : α} {k : κ}

/-- Remove position `i` by moving the last entry there. -/
def swapRemove (xs : List α) (i : Nat) : List α :=
  match xs.getLast? with
  | none => xs
  | some last => (xs.set i last).dropLast

theorem getElem?_swapRemove (hi : i < xs.length) (j : Nat) :
    (swapRemove xs i)[j]? =
      if j + 1 < xs.length then if j = i then xs.getLast? else xs[j]? else none := by
  have hne : xs ≠ [] := by
    rintro rfl
    simp at hi
  rw [swapRemove, List.getLast?_eq_some_getLast hne]
  dsimp only
  rw [List.dropLast_eq_take, List.getElem?_take, List.length_set]
  by_cases hj : j + 1 < xs.length
  · rw [if_pos (by omega), if_pos hj]
    by_cases hji : j = i
    · rw [if_pos hji, hji, List.getElem?_set_self hi]
    · rw [if_neg hji, List.getElem?_set_ne (by omega)]
  · rw [if_neg (by omega), if_neg hj]

/-- Every entry left was there before, and is not the removed one if that one
occurs once. -/
theorem mem_swapRemove (hi : i < xs.length) (h : x ∈ swapRemove xs i) :
    ∃ j, j ≠ i ∧ xs[j]? = some x := by
  obtain ⟨j, hj⟩ := List.mem_iff_getElem?.mp h
  rw [getElem?_swapRemove hi] at hj
  split at hj
  · next hlt =>
      split at hj
      · next hji =>
          refine ⟨xs.length - 1, by omega, ?_⟩
          rwa [List.getLast?_eq_getElem?] at hj
      · next hji => exact ⟨j, hji, hj⟩
  · cases hj

/-- What is injective on the positions stays so after a removal. -/
theorem nodup_map_swapRemove {β : Type*} {f : α → β} (hi : i < xs.length)
    (h : (xs.map f).Nodup) : ((swapRemove xs i).map f).Nodup := by
  rw [List.nodup_iff_injective_getElem] at h
  have hinj : ∀ a b : Nat, ∀ y z, xs[a]? = some y → xs[b]? = some z → f y = f z → a = b := by
    intro a b y z ha hb hyz
    obtain ⟨hla, rfl⟩ := List.getElem?_eq_some_iff.mp ha
    obtain ⟨hlb, rfl⟩ := List.getElem?_eq_some_iff.mp hb
    have := @h ⟨a, by simpa using hla⟩ ⟨b, by simpa using hlb⟩ (by simpa using hyz)
    simpa using this
  -- position `j` of the shorter list comes from position `from j` of the longer one
  have horigin : ∀ j y, (swapRemove xs i)[j]? = some y →
      j + 1 < xs.length ∧ xs[if j = i then xs.length - 1 else j]? = some y := by
    intro j y hj
    rw [getElem?_swapRemove hi] at hj
    split at hj
    · next hlt =>
        refine ⟨hlt, ?_⟩
        split at hj
        · next hji => rwa [if_pos hji, ← List.getLast?_eq_getElem?]
        · next hji => rwa [if_neg hji]
    · cases hj
  rw [List.nodup_iff_injective_getElem]
  rintro ⟨a, ha⟩ ⟨b, hb⟩ hab
  simp only [List.length_map] at ha hb
  simp only [List.getElem_map] at hab
  obtain ⟨hla, hga⟩ := horigin a _ (List.getElem?_eq_getElem ha)
  obtain ⟨hlb, hgb⟩ := horigin b _ (List.getElem?_eq_getElem hb)
  have hpos := hinj _ _ _ _ hga hgb hab
  apply Fin.ext
  show a = b
  split at hpos <;> split at hpos <;> omega

/-- Up to order, a removal takes out the one position. -/
theorem swapRemove_perm (hi : i < xs.length) : (swapRemove xs i).Perm (xs.eraseIdx i) := by
  have hne : xs ≠ [] := by
    rintro rfl
    simp at hi
  obtain ⟨front, last, rfl⟩ : ∃ front last, xs = front ++ [last] :=
    ⟨_, _, (List.dropLast_append_getLast hne).symm⟩
  rw [swapRemove, List.getLast?_concat]
  dsimp only
  rw [List.length_append, List.length_singleton] at hi
  by_cases hend : i = front.length
  · subst hend
    rw [List.set_append_right _ _ (Nat.le_refl _), List.eraseIdx_append_of_length_le (Nat.le_refl _)]
    simp
  · have hlt : i < front.length := by omega
    rw [List.set_append_left _ _ hlt, List.dropLast_concat, List.eraseIdx_append_of_lt_length hlt,
      List.set_eq_take_append_cons_drop, if_pos hlt, List.eraseIdx_eq_take_drop_succ,
      List.append_assoc]
    exact List.Perm.append_left _ (List.perm_append_singleton last _).symm

/-- Where a property names the entries, removing a position removes what it
names there. -/
theorem eraseIdx_eq_filter {β : Type*} [DecidableEq β] {f : α → β} (h : (xs.map f).Nodup)
    (hx : xs[i]? = some x) : xs.eraseIdx i = xs.filter fun y => f y ≠ f x := by
  induction xs generalizing i with
  | nil => cases hx
  | cons y ys ih =>
      rw [List.map_cons, List.nodup_cons] at h
      cases i with
      | zero =>
          obtain rfl : y = x := Option.some.inj hx
          have hall : ∀ z ∈ ys, f z ≠ f y := fun z hz heq => h.1 (heq ▸ List.mem_map_of_mem hz)
          rw [List.eraseIdx_cons_zero, List.filter_cons_of_neg (by simp), List.filter_eq_self.mpr]
          intro z hz
          exact decide_eq_true (hall z hz)
      | succ i =>
          have hx' : ys[i]? = some x := by simpa using hx
          have hyx : f y ≠ f x := fun heq =>
            h.1 (heq ▸ List.mem_map_of_mem (List.mem_of_getElem? hx'))
          rw [List.eraseIdx_cons_succ, ih h.2 hx', List.filter_cons_of_pos (by simpa using hyx)]

variable [DecidableEq κ] {index : AList fun _ : κ => Nat}

/-- The map takes exactly the keys of the entries to their positions. -/
def Indexes (key : α → Option κ) (index : AList fun _ : κ => Nat) (xs : List α) : Prop :=
  ∀ k i, index.lookup k = some i ↔ ∃ x, xs[i]? = some x ∧ key x = some k

theorem indexes_nil : Indexes key ∅ [] := by
  intro k i
  simp

theorem Indexes.position_unique (h : Indexes key index xs) {i j : Nat} {x y : α}
    (hx : xs[i]? = some x) (hy : xs[j]? = some y) (hkx : key x = some k) (hky : key y = some k) :
    i = j := by
  have hi := (h k i).mpr ⟨x, hx, hkx⟩
  have hj := (h k j).mpr ⟨y, hy, hky⟩
  rw [hi] at hj
  exact Option.some.inj hj

theorem Indexes.notMem_iff (h : Indexes key index xs) :
    k ∉ index ↔ ∀ x ∈ xs, key x ≠ some k := by
  rw [← AList.lookup_eq_none]
  constructor
  · intro hnone x hx hk
    obtain ⟨i, hi⟩ := List.mem_iff_getElem?.mp hx
    have := (h k i).mpr ⟨x, hi, hk⟩
    rw [hnone] at this
    cases this
  · intro hall
    cases hl : index.lookup k with
    | none => rfl
    | some i =>
        obtain ⟨x, hx, hk⟩ := (h k i).mp hl
        exact absurd hk (hall x (List.mem_of_getElem? hx))

/-- **Exactness.**  The map has one entry per entry of the vector with a key. -/
theorem Indexes.keys_perm (h : Indexes key index xs) : index.keys.Perm (xs.filterMap key) := by
  have hnodup : (xs.filterMap key).Nodup := by
    rw [List.Nodup, List.pairwise_filterMap, List.pairwise_iff_getElem]
    intro i j hi hj hij k hki k' hkj hkk'
    subst hkk'
    have := h.position_unique (List.getElem?_eq_getElem hi) (List.getElem?_eq_getElem hj) hki hkj
    omega
  rw [List.perm_ext_iff_of_nodup index.keys_nodup hnodup]
  intro k
  rw [List.mem_filterMap, ← AList.mem_keys, ← AList.lookup_isSome, Option.isSome_iff_exists]
  constructor
  · rintro ⟨i, hi⟩
    obtain ⟨x, hx, hk⟩ := (h k i).mp hi
    exact ⟨x, List.mem_of_getElem? hx, hk⟩
  · rintro ⟨x, hx, hk⟩
    obtain ⟨i, hi⟩ := List.mem_iff_getElem?.mp hx
    exact ⟨i, (h k i).mpr ⟨x, hi, hk⟩⟩

/-- Changing entries in place, but not what their keys are made of. -/
theorem Indexes.of_map_eq {β : Type*} {ys : List α} {f : α → β} {g : β → Option κ}
    (h : Indexes key index xs) (hkey : ∀ x, key x = g (f x)) (hmap : ys.map f = xs.map f) :
    Indexes key index ys := by
  have hpoint : ∀ j : Nat, ys[j]?.map f = xs[j]?.map f := by
    intro j
    rw [← List.getElem?_map, hmap, List.getElem?_map]
  have hback : ∀ {as bs : List α}, (∀ j : Nat, as[j]?.map f = bs[j]?.map f) →
      ∀ k (i : Nat), (∃ x, as[i]? = some x ∧ key x = some k) →
        ∃ x, bs[i]? = some x ∧ key x = some k := by
    rintro as bs hab k i ⟨x, hx, hk⟩
    have hx' := hab i
    rw [hx] at hx'
    obtain ⟨y, hy, hfy⟩ := Option.map_eq_some_iff.mp hx'.symm
    exact ⟨y, hy, by rw [hkey, hfy, ← hkey, hk]⟩
  intro k i
  rw [h k i]
  exact ⟨hback (fun j => (hpoint j).symm) k i, hback hpoint k i⟩

/-- Append an entry with a new key. -/
theorem Indexes.push (h : Indexes key index xs) (hk : key x = some k) (hnew : k ∉ index) :
    Indexes key (index.insert k xs.length) (xs ++ [x]) := by
  intro k' j
  by_cases hkk : k' = k
  · subst hkk
    rw [AList.lookup_insert]
    constructor
    · intro hj
      obtain rfl := Option.some.inj hj
      exact ⟨x, by simp, hk⟩
    · rintro ⟨y, hy, hky⟩
      rcases Nat.lt_trichotomy j xs.length with hlt | heq | hgt
      · rw [List.getElem?_append_left hlt] at hy
        exact absurd hky (h.notMem_iff.mp hnew y (List.mem_of_getElem? hy))
      · rw [heq]
      · rw [List.getElem?_eq_none (by simp; omega)] at hy
        cases hy
  · rw [AList.lookup_insert_ne hkk, h k' j]
    constructor
    · rintro ⟨y, hy, hky⟩
      obtain ⟨hlt, _⟩ := List.getElem?_eq_some_iff.mp hy
      exact ⟨y, by rwa [List.getElem?_append_left hlt], hky⟩
    · rintro ⟨y, hy, hky⟩
      rcases Nat.lt_trichotomy j xs.length with hlt | heq | hgt
      · rw [List.getElem?_append_left hlt] at hy
        exact ⟨y, hy, hky⟩
      · rw [heq, List.getElem?_concat_length] at hy
        obtain rfl := Option.some.inj hy
        rw [hk] at hky
        exact absurd (Option.some.inj hky).symm hkk
      · rw [List.getElem?_eq_none (by simp; omega)] at hy
        cases hy

/-- Change an entry without changing its key. -/
theorem Indexes.set_same {y : α} (h : Indexes key index xs) (hx : xs[i]? = some x)
    (hkey : key y = key x) : Indexes key index (xs.set i y) := by
  obtain ⟨hlt, _⟩ := List.getElem?_eq_some_iff.mp hx
  intro k j
  rw [h k j]
  by_cases hji : j = i
  · subst hji
    rw [hx, List.getElem?_set_self hlt]
    simp [hkey]
  · rw [List.getElem?_set_ne (Ne.symm hji)]

/-- An entry loses its key, if it has it still. -/
theorem Indexes.set_erase {y : α} (h : Indexes key index xs) (hx : xs[i]? = some x)
    (hkey : key x = none ∨ key x = some k) (hnone : key y = none)
    (hother : ∀ j z, j ≠ i → xs[j]? = some z → key z ≠ some k) :
    Indexes key (index.erase k) (xs.set i y) := by
  obtain ⟨hlt, _⟩ := List.getElem?_eq_some_iff.mp hx
  intro k' j
  by_cases hkk : k' = k
  · subst hkk
    rw [AList.lookup_erase]
    refine ⟨nofun, ?_⟩
    rintro ⟨z, hz, hkz⟩
    by_cases hji : j = i
    · subst hji
      rw [List.getElem?_set_self hlt] at hz
      obtain rfl := Option.some.inj hz
      rw [hnone] at hkz
      cases hkz
    · rw [List.getElem?_set_ne (Ne.symm hji)] at hz
      exact absurd hkz (hother j z hji hz)
  · rw [AList.lookup_erase_ne hkk, h k' j]
    by_cases hji : j = i
    · subst hji
      rw [hx, List.getElem?_set_self hlt]
      have hxk : key x ≠ some k' := by
        rcases hkey with hkey | hkey
        · simp [hkey]
        · rw [hkey]
          exact fun he => hkk (Option.some.inj he).symm
      simp [hnone, hxk]
    · rw [List.getElem?_set_ne (Ne.symm hji)]

/-- An entry without a key gains a new one. -/
theorem Indexes.set_insert {y : α} (h : Indexes key index xs) (hx : xs[i]? = some x)
    (hnone : key x = none) (hkey : key y = some k) (hnew : k ∉ index) :
    Indexes key (index.insert k i) (xs.set i y) := by
  obtain ⟨hlt, _⟩ := List.getElem?_eq_some_iff.mp hx
  intro k' j
  by_cases hkk : k' = k
  · subst hkk
    rw [AList.lookup_insert]
    constructor
    · intro hj
      obtain rfl := Option.some.inj hj
      exact ⟨y, by rw [List.getElem?_set_self hlt], hkey⟩
    · rintro ⟨z, hz, hkz⟩
      by_cases hji : j = i
      · rw [hji]
      · rw [List.getElem?_set_ne (Ne.symm hji)] at hz
        exact absurd hkz (h.notMem_iff.mp hnew z (List.mem_of_getElem? hz))
  · rw [AList.lookup_insert_ne hkk, h k' j]
    by_cases hji : j = i
    · subst hji
      rw [hx, List.getElem?_set_self hlt]
      have hyk : key y ≠ some k' := by
        rw [hkey]
        exact fun he => hkk (Option.some.inj he).symm
      simp [hnone, hyk]
    · rw [List.getElem?_set_ne (Ne.symm hji)]

/-- The map after position `i`, whose key is `k` if it has one, is removed. -/
def swapErase (key : α → Option κ) (index : AList fun _ : κ => Nat) (xs : List α) (i : Nat)
    (k : κ) : AList fun _ : κ => Nat :=
  match xs.getLast? with
  | none => index.erase k
  | some last =>
      if i ≠ xs.length - 1 then
        match key last with
        | none => index.erase k
        | some moved => (index.erase k).insert moved i
      else index.erase k

/-- With its key gone from the index, an entry is not found any more and every
other one still is. -/
theorem Indexes.lookup_erase_iff (h : Indexes key index xs) (hx : xs[i]? = some x)
    (hkey : key x = none ∨ key x = some k)
    (hother : ∀ j z, j ≠ i → xs[j]? = some z → key z ≠ some k) (k' : κ) (j : Nat) :
    (index.erase k).lookup k' = some j ↔ j ≠ i ∧ ∃ z, xs[j]? = some z ∧ key z = some k' := by
  by_cases hkk : k' = k
  · subst hkk
    rw [AList.lookup_erase]
    refine ⟨nofun, ?_⟩
    rintro ⟨hji, z, hz, hkz⟩
    exact absurd hkz (hother j z hji hz)
  · rw [AList.lookup_erase_ne hkk, h k' j]
    refine ⟨?_, fun hj => hj.2⟩
    rintro ⟨z, hz, hkz⟩
    refine ⟨?_, z, hz, hkz⟩
    intro hji
    rw [hji, hx] at hz
    obtain rfl := Option.some.inj hz
    rcases hkey with hkey | hkey
    · rw [hkey] at hkz
      cases hkz
    · rw [hkey] at hkz
      exact hkk (Option.some.inj hkz).symm

/-- After the move the last entry is found at `i`, every other one where it
was. -/
theorem moved_iff {last : α} (hlt : i < xs.length) (hi : i ≠ xs.length - 1) (k' : κ) (j : Nat) :
    (∃ z, (if j + 1 < xs.length then if j = i then some last else xs[j]? else none) = some z ∧
        key z = some k') ↔
      (j = i ∧ key last = some k') ∨
        (j ≠ i ∧ j ≠ xs.length - 1 ∧ ∃ z, xs[j]? = some z ∧ key z = some k') := by
  by_cases hji : j = i
  · rw [hji, if_pos (by omega), if_pos rfl]
    simp
  · rw [if_neg hji]
    by_cases hj : j + 1 < xs.length
    · have hjl : j ≠ xs.length - 1 := by omega
      rw [if_pos hj]
      simp [hji, hjl]
    · rw [if_neg hj]
      constructor
      · rintro ⟨z, hz, _⟩
        cases hz
      · rintro (⟨hji', _⟩ | ⟨_, hjl, z, hz, _⟩)
        · exact absurd hji' hji
        · obtain ⟨hb, _⟩ := List.getElem?_eq_some_iff.mp hz
          omega

/-- Remove an entry and move the last one into the gap. -/
theorem Indexes.swapRemove (h : Indexes key index xs) (hx : xs[i]? = some x)
    (hkey : key x = none ∨ key x = some k)
    (hother : ∀ j z, j ≠ i → xs[j]? = some z → key z ≠ some k) :
    Indexes key (swapErase key index xs i k) (swapRemove xs i) := by
  obtain ⟨hlt, _⟩ := List.getElem?_eq_some_iff.mp hx
  have hne : xs ≠ [] := List.ne_nil_of_length_pos (by omega)
  obtain ⟨last, hlast⟩ : ∃ last, xs.getLast? = some last :=
    ⟨_, List.getLast?_eq_some_getLast hne⟩
  have hend : xs[xs.length - 1]? = some last := by rw [← List.getLast?_eq_getElem?, hlast]
  -- an entry with another key than the last one's is not the last one
  have hearlier : ∀ j z k', xs[j]? = some z → key z = some k' → key last ≠ some k' →
      j ≠ xs.length - 1 := by
    intro j z k' hz hkz hkl hj
    rw [hj, hend] at hz
    obtain rfl := Option.some.inj hz
    exact hkl hkz
  intro k' j
  rw [getElem?_swapRemove hlt, hlast]
  simp only [swapErase, hlast]
  by_cases hi : i = xs.length - 1
  · rw [if_neg (not_not.mpr hi), h.lookup_erase_iff hx hkey hother]
    by_cases hj : j + 1 < xs.length
    · rw [if_pos hj, if_neg (by omega)]
      exact ⟨fun hz => hz.2, fun hz => ⟨by omega, hz⟩⟩
    · rw [if_neg hj]
      constructor
      · rintro ⟨hji, z, hz, _⟩
        obtain ⟨hjl, _⟩ := List.getElem?_eq_some_iff.mp hz
        omega
      · rintro ⟨z, hz, _⟩
        cases hz
  · rw [if_pos hi, moved_iff hlt hi]
    cases hkl : key last with
    | none =>
        rw [h.lookup_erase_iff hx hkey hother]
        constructor
        · rintro ⟨hji, z, hz, hkz⟩
          exact Or.inr ⟨hji, hearlier j z k' hz hkz (by rw [hkl]; nofun), z, hz, hkz⟩
        · rintro (⟨_, hk⟩ | ⟨hji, _, hz⟩)
          · cases hk
          · exact ⟨hji, hz⟩
    | some moved =>
        dsimp only
        by_cases hkk : k' = moved
        · subst hkk
          rw [AList.lookup_insert]
          constructor
          · intro hj
            exact Or.inl ⟨(Option.some.inj hj).symm, rfl⟩
          · rintro (⟨hji, _⟩ | ⟨hji, hjl, z, hz, hkz⟩)
            · rw [hji]
            · exact absurd (h.position_unique hz hend hkz hkl) hjl
        · have hkl' : key last ≠ some k' := by
            rw [hkl]
            exact fun heq => hkk (Option.some.inj heq).symm
          rw [AList.lookup_insert_ne hkk, h.lookup_erase_iff hx hkey hother]
          constructor
          · rintro ⟨hji, z, hz, hkz⟩
            exact Or.inr ⟨hji, hearlier j z k' hz hkz hkl', z, hz, hkz⟩
          · rintro (⟨_, hk⟩ | ⟨hji, _, hz⟩)
            · exact absurd (Option.some.inj hk).symm hkk
            · exact ⟨hji, hz⟩

/-! ## The finite map it implements -/

/-- Look an entry up by its key. -/
def find (index : AList fun _ : κ => Nat) (xs : List α) (k : κ) : Option α :=
  (index.lookup k).bind fun i => xs[i]?

theorem Indexes.find_eq_some (h : Indexes key index xs) :
    find index xs k = some x ↔ x ∈ xs ∧ key x = some k := by
  rw [find, Option.bind_eq_some_iff]
  constructor
  · rintro ⟨i, hi, hx⟩
    obtain ⟨y, hy, hk⟩ := (h k i).mp hi
    rw [hx] at hy
    obtain rfl := Option.some.inj hy
    exact ⟨List.mem_of_getElem? hx, hk⟩
  · rintro ⟨hmem, hk⟩
    obtain ⟨i, hi⟩ := List.mem_iff_getElem?.mp hmem
    exact ⟨i, (h k i).mpr ⟨x, hi, hk⟩, hi⟩

theorem Indexes.find_eq_none (h : Indexes key index xs) :
    find index xs k = none ↔ ∀ x ∈ xs, key x ≠ some k := by
  rw [Option.eq_none_iff_forall_ne_some]
  constructor
  · intro hnone x hx hk
    exact hnone x (h.find_eq_some.mpr ⟨hx, hk⟩)
  · intro hall x hx
    obtain ⟨hmem, hk⟩ := h.find_eq_some.mp hx
    exact hall x hmem hk

/-- Two exact maps find the same if the vectors hold the same entries. -/
theorem Indexes.find_congr {ys : List α} {index' : AList fun _ : κ => Nat}
    (h : Indexes key index xs) (h' : Indexes key index' ys)
    (hmem : ∀ x, key x = some k → (x ∈ ys ↔ x ∈ xs)) : find index' ys k = find index xs k := by
  apply Option.ext
  intro x
  rw [h.find_eq_some, h'.find_eq_some]
  exact ⟨fun ⟨hm, hk⟩ => ⟨(hmem x hk).mp hm, hk⟩, fun ⟨hm, hk⟩ => ⟨(hmem x hk).mpr hm, hk⟩⟩

/-! ## Maps with leftovers -/

/-- The map takes the key of every entry to its position.  It may have other
keys besides. -/
def Finds (key : α → Option κ) (index : AList fun _ : κ => Nat) (xs : List α) : Prop :=
  ∀ i x k, xs[i]? = some x → key x = some k → index.lookup k = some i

theorem finds_nil : Finds key index [] := by
  intro i x k hx
  simp at hx

theorem Finds.append (h : Finds key index xs) {y : α} (hy : key y = some k)
    (hother : ∀ z ∈ xs, key z ≠ some k) :
    Finds key (index.insert k xs.length) (xs ++ [y]) := by
  intro j z k' hz hkz
  rcases Nat.lt_or_ge j xs.length with hlt | hge
  · rw [List.getElem?_append_left hlt] at hz
    have hne : k' ≠ k := fun heq => hother z (List.mem_of_getElem? hz) (heq ▸ hkz)
    rw [AList.lookup_insert_ne hne]
    exact h j z k' hz hkz
  · rw [List.getElem?_append_right hge, List.getElem?_singleton] at hz
    split at hz
    · next hj =>
        obtain rfl := Option.some.inj hz
        obtain rfl := Option.some.inj (hy.symm.trans hkz)
        rw [AList.lookup_insert]
        congr 1
        omega
    · cases hz

/-- An entry keeps its key or loses it. -/
theorem Finds.set_keep (h : Finds key index xs) (hx : xs[i]? = some x) {y : α}
    (hy : ∀ k', key y = some k' → key x = some k') : Finds key index (xs.set i y) := by
  intro j z k' hz hkz
  by_cases hji : j = i
  · subst hji
    obtain ⟨hlt, _⟩ := List.getElem?_eq_some_iff.mp hx
    rw [List.getElem?_set_self hlt] at hz
    obtain rfl := Option.some.inj hz
    exact h j x k' hx (hy k' hkz)
  · rw [List.getElem?_set_ne (Ne.symm hji)] at hz
    exact h j z k' hz hkz

/-- The only key that an erasure loses is nobody's. -/
theorem Finds.erase (h : Finds key index xs) (hother : ∀ z ∈ xs, key z ≠ some k) :
    Finds key (index.erase k) xs := by
  intro j z k' hz hkz
  have hne : k' ≠ k := fun heq => hother z (List.mem_of_getElem? hz) (heq ▸ hkz)
  rw [AList.lookup_erase_ne hne]
  exact h j z k' hz hkz

/-- An entry gets a key that nobody else has. -/
theorem Finds.set_insert (h : Finds key index xs) (hx : xs[i]? = some x) {y : α}
    (hy : key y = some k) (hother : ∀ j z, j ≠ i → xs[j]? = some z → key z ≠ some k) :
    Finds key (index.insert k i) (xs.set i y) := by
  intro j z k' hz hkz
  by_cases hji : j = i
  · subst hji
    obtain ⟨hlt, _⟩ := List.getElem?_eq_some_iff.mp hx
    rw [List.getElem?_set_self hlt] at hz
    obtain rfl := Option.some.inj hz
    obtain rfl := Option.some.inj (hy.symm.trans hkz)
    exact AList.lookup_insert index
  · rw [List.getElem?_set_ne (Ne.symm hji)] at hz
    have hne : k' ≠ k := fun heq => hother j z hji hz (heq ▸ hkz)
    rw [AList.lookup_insert_ne hne]
    exact h j z k' hz hkz

/-- Remove an entry and move the last one into the gap. -/
theorem Finds.swapRemove (h : Finds key index xs) (hx : xs[i]? = some x)
    (hother : ∀ j z, j ≠ i → xs[j]? = some z → key z ≠ some k)
    (hdistinct : ∀ (j l : Nat) (y z : α) k', xs[j]? = some y → xs[l]? = some z → key y = some k' →
      key z = some k' → j = l) :
    Finds key (swapErase key index xs i k) (swapRemove xs i) := by
  obtain ⟨hlt, _⟩ := List.getElem?_eq_some_iff.mp hx
  have hne : xs ≠ [] := List.ne_nil_of_length_pos (by omega)
  obtain ⟨last, hlast⟩ : ∃ last, xs.getLast? = some last :=
    ⟨_, List.getLast?_eq_some_getLast hne⟩
  have hend : xs[xs.length - 1]? = some last := by rw [← List.getLast?_eq_getElem?, hlast]
  have herase : ∀ j z k', j ≠ i → xs[j]? = some z → key z = some k' →
      (index.erase k).lookup k' = some j := by
    intro j z k' hji hz hkz
    have hk : k' ≠ k := fun heq => hother j z hji hz (heq ▸ hkz)
    rw [AList.lookup_erase_ne hk]
    exact h j z k' hz hkz
  intro j z k' hz hkz
  rw [getElem?_swapRemove hlt, hlast] at hz
  simp only [swapErase, hlast]
  split at hz
  · next hj =>
      split at hz
      · -- the last entry, in its new place
        next hji =>
          obtain rfl := Option.some.inj hz
          rw [if_pos (by omega), hkz, hji]
          exact AList.lookup_insert _
      · next hji =>
          split
          · cases hkl : key last with
            | none => exact herase j z k' hji hz hkz
            | some moved =>
                dsimp only
                have hk : k' ≠ moved := by
                  rintro rfl
                  have hjl := hdistinct j _ z last k' hz hend hkz hkl
                  omega
                rw [AList.lookup_insert_ne hk]
                exact herase j z k' hji hz hkz
          · exact herase j z k' hji hz hkz
  · cases hz

end FlatIndex
