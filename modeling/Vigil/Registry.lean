import Mathlib.Data.List.Nodup
import Mathlib.Tactic.Common

/-!
# First come, first served

A table takes an entry unless its key is already taken.  Entering a list this
way keeps the first entry of every key, in the order of the list
(`foldl_enter`), so the keys of the result differ and an entry is in it exactly
if no earlier one has its key (`mem_firsts`).
-/

namespace Registry

variable {α κ : Type*} [DecidableEq κ] (key : α → κ)

/-- Enter `a` unless its key is taken. -/
def enter (table : List α) (a : α) : List α :=
  if key a ∈ table.map key then table else table ++ [a]

/-- The first entry of every key. -/
def firsts : List α → List α
  | [] => []
  | a :: l => a :: (firsts l).filter (key · ≠ key a)

variable {key} {a : α} {l : List α}

/-- **The table after a list of entries**: what it held, and the first new entry
of every key it did not hold. -/
theorem foldl_enter (table l : List α) :
    l.foldl (enter key) table = table ++ (firsts key l).filter (key · ∉ table.map key) := by
  induction l generalizing table with
  | nil => simp [firsts]
  | cons a l ih =>
      rw [List.foldl_cons, ih, enter, firsts]
      by_cases htaken : key a ∈ table.map key
      · have hsame : ∀ b, (decide (key b ∉ table.map key) && decide (key b ≠ key a)) =
            decide (key b ∉ table.map key) := by
          intro b
          by_cases hb : key b ∈ table.map key
          · simp [hb]
          · have hne : key b ≠ key a := by
              intro heq
              rw [heq] at hb
              exact hb htaken
            simp [hb, hne]
        rw [if_pos htaken, List.filter_cons_of_neg (by simpa using htaken), List.filter_filter]
        simp only [hsame]
      · rw [if_neg htaken, List.filter_cons_of_pos (by simpa using htaken), List.filter_filter,
          List.append_assoc, List.singleton_append]
        simp only [List.map_append, List.map_cons, List.map_nil, List.mem_append,
          List.mem_singleton, not_or, Bool.decide_and, ne_eq]

theorem foldl_enter_nil (l : List α) : l.foldl (enter key) [] = firsts key l := by
  simp [foldl_enter]

/-- No key occurs twice. -/
theorem nodup_firsts (l : List α) : ((firsts key l).map key).Nodup := by
  induction l with
  | nil => exact List.nodup_nil
  | cons a l ih =>
      rw [firsts, List.map_cons, List.nodup_cons]
      refine ⟨?_, ih.sublist (List.filter_sublist.map key)⟩
      simp

/-- An entry is kept exactly if it occurs before every other of its key. -/
theorem mem_firsts :
    a ∈ firsts key l ↔ ∃ before after, l = before ++ a :: after ∧ key a ∉ before.map key := by
  induction l with
  | nil => simp [firsts]
  | cons b l ih =>
      rw [firsts, List.mem_cons, List.mem_filter, ih]
      constructor
      · rintro (rfl | ⟨⟨before, after, rfl, hnew⟩, hne⟩)
        · exact ⟨[], l, rfl, by simp⟩
        · refine ⟨b :: before, after, rfl, ?_⟩
          simp only [decide_eq_true_eq] at hne
          simp only [List.map_cons, List.mem_cons, not_or]
          exact ⟨hne, hnew⟩
      · rintro ⟨before, after, heq, hnew⟩
        cases before with
        | nil =>
            rw [List.nil_append, List.cons.injEq] at heq
            exact Or.inl heq.1.symm
        | cons c before =>
            rw [List.cons_append, List.cons.injEq] at heq
            obtain ⟨rfl, rfl⟩ := heq
            simp only [List.map_cons, List.mem_cons, not_or] at hnew
            exact Or.inr ⟨⟨before, after, rfl, hnew.2⟩, by simpa using hnew.1⟩

end Registry
