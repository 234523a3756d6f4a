import Mathlib.Data.List.Basic
import Mathlib.Tactic.Common

/-!
# Lines of a stream

A stream is cut at a separator: everything before the last separator is made
of complete lines, what follows it is the unterminated rest.  `lines_append`
and `rest_append` say that a reader may cut what it has so far and keep only
the rest; `lines_length` counts, and `exists_long_piece` finds the line a
separator-free part of the stream lies in.
-/

namespace Lines

variable {α : Type*} [DecidableEq α] (sep : α)

/-- The complete lines of a stream, without their separators. -/
def lines (s : List α) : List (List α) :=
  (s.splitOn sep).dropLast

/-- What follows the last separator. -/
def rest (s : List α) : List α :=
  (s.splitOn sep).getLastD []

variable {sep} {l s t u : List α}

theorem splitOn_line (h : sep ∉ l) (s : List α) :
    (l ++ sep :: s).splitOn sep = l :: s.splitOn sep := by
  rw [List.splitOn_append_cons_self, List.splitOn_eq_singleton h, List.singleton_append]

@[simp] theorem lines_free (h : sep ∉ l) : lines sep l = [] := by
  rw [lines, List.splitOn_eq_singleton h]
  rfl

@[simp] theorem rest_free (h : sep ∉ l) : rest sep l = l := by
  rw [rest, List.splitOn_eq_singleton h]
  rfl

theorem lines_line (h : sep ∉ l) (s : List α) :
    lines sep (l ++ sep :: s) = l :: lines sep s := by
  rw [lines, splitOn_line h, List.dropLast_cons_of_ne_nil (List.splitOn_ne_nil sep s), lines]

/-- Lines that were put together. -/
theorem lines_flatMap {ls : List (List α)} (h : ∀ l ∈ ls, sep ∉ l) :
    lines sep (ls.flatMap fun l => l ++ [sep]) = ls := by
  induction ls with
  | nil => exact lines_free List.not_mem_nil
  | cons l ls ih =>
      obtain ⟨hline, hrest⟩ := List.forall_mem_cons.mp h
      rw [List.flatMap_cons, List.append_assoc, List.singleton_append, lines_line hline, ih hrest]

theorem rest_line (h : sep ∉ l) (s : List α) : rest sep (l ++ sep :: s) = rest sep s := by
  obtain ⟨first, others, heq⟩ := List.exists_cons_of_ne_nil (List.splitOn_ne_nil sep s)
  rw [rest, splitOn_line h, rest, heq]
  rfl

theorem rest_flatMap {ls : List (List α)} (h : ∀ l ∈ ls, sep ∉ l) :
    rest sep (ls.flatMap fun l => l ++ [sep]) = [] := by
  induction ls with
  | nil => exact rest_free List.not_mem_nil
  | cons l ls ih =>
      obtain ⟨hline, hrest⟩ := List.forall_mem_cons.mp h
      rw [List.flatMap_cons, List.append_assoc, List.singleton_append, rest_line hline, ih hrest]

/-- Induction along the lines of a stream. -/
theorem line_rec (sep : α) {motive : List α → Prop} (free : ∀ t, sep ∉ t → motive t)
    (line : ∀ l s, sep ∉ l → motive s → motive (l ++ sep :: s)) (s : List α) : motive s := by
  induction hlen : s.length using Nat.strongRecOn generalizing s with
  | ind len ih =>
      by_cases h : sep ∈ s
      · obtain ⟨l, s', rfl, hl⟩ := List.eq_append_cons_of_mem h
        exact line l s' hl (ih s'.length (by simp at hlen; omega) s' rfl)
      · exact free s h

theorem notMem_rest (s : List α) : sep ∉ rest sep s := by
  induction s using line_rec sep with
  | free t ht => rwa [rest_free ht]
  | line l s hl ih => rwa [rest_line hl]

theorem rest_suffix (s : List α) : rest sep s <:+ s := by
  induction s using line_rec sep with
  | free t ht => simp [rest_free ht]
  | line l s hl ih =>
      rw [rest_line hl]
      exact ih.trans ((List.suffix_cons sep s).trans (List.suffix_append l _))

/-- **Cutting early.**  The lines of a longer stream are those already complete
and those of the rest with what follows it. -/
theorem lines_append (s u : List α) :
    lines sep (s ++ u) = lines sep s ++ lines sep (rest sep s ++ u) := by
  induction s using line_rec sep with
  | free t ht => rw [lines_free ht, rest_free ht, List.nil_append]
  | line l s hl ih =>
      rw [List.append_assoc, List.cons_append, lines_line hl, ih, lines_line hl, rest_line hl,
        List.cons_append]

theorem rest_append (s u : List α) : rest sep (s ++ u) = rest sep (rest sep s ++ u) := by
  induction s using line_rec sep with
  | free t ht => rw [rest_free ht]
  | line l s hl ih => rw [List.append_assoc, List.cons_append, rest_line hl, ih, rest_line hl]

/-- There is one complete line per separator. -/
theorem lines_length (s : List α) : (lines sep s).length = s.count sep := by
  induction s using line_rec sep with
  | free t ht => rw [lines_free ht, List.count_eq_zero.mpr ht, List.length_nil]
  | line l s hl ih =>
      rw [lines_line hl, List.length_cons, ih, List.count_append, List.count_eq_zero.mpr hl,
        List.count_cons_self, Nat.zero_add]

/-- A separator-free end of the stream lies in its rest. -/
theorem suffix_rest (h : t <:+ s) (ht : sep ∉ t) : t <:+ rest sep s := by
  obtain ⟨front, rfl⟩ := h
  rw [rest_append, rest_free]
  · exact List.suffix_append _ t
  · rw [List.mem_append]
    rintro (hmem | hmem)
    · exact notMem_rest front hmem
    · exact ht hmem

/-- A stream that starts without a separator has a piece that long. -/
theorem exists_long_first (ht : sep ∉ t) (u : List α) :
    ∃ piece ∈ (t ++ u).splitOn sep, t.length ≤ piece.length := by
  by_cases h : sep ∈ u
  · obtain ⟨l, u', rfl, hl⟩ := List.eq_append_cons_of_mem h
    have hfree : sep ∉ t ++ l := by
      rw [List.mem_append]
      exact fun hmem => hmem.elim ht hl
    rw [← List.append_assoc, splitOn_line hfree]
    exact ⟨t ++ l, List.mem_cons_self, by simp⟩
  · have hfree : sep ∉ t ++ u := by
      rw [List.mem_append]
      exact fun hmem => hmem.elim ht h
    rw [List.splitOn_eq_singleton hfree]
    exact ⟨t ++ u, List.mem_cons_self, by simp⟩

/-- The pieces of a stream are its lines and its rest. -/
theorem splitOn_eq (s : List α) : s.splitOn sep = lines sep s ++ [rest sep s] := by
  have hne := List.splitOn_ne_nil sep s
  rw [lines, rest, List.getLastD_eq_getLast?, List.getLast?_eq_some_getLast hne, Option.getD_some,
    List.dropLast_concat_getLast hne]

/-- **A separator-free part of the stream lies in one piece of it.** -/
theorem exists_long_piece (h : t <:+: s) (ht : sep ∉ t) :
    ∃ piece ∈ s.splitOn sep, t.length ≤ piece.length := by
  obtain ⟨front, back, rfl⟩ := h
  have hfree : sep ∉ rest sep front ++ t := by
    rw [List.mem_append]
    exact fun hmem => hmem.elim (notMem_rest front) ht
  obtain ⟨piece, hmem, hlen⟩ := exists_long_first hfree back
  refine ⟨piece, ?_, ?_⟩
  · rw [List.append_assoc, splitOn_eq, lines_append, rest_append, List.append_assoc,
      List.mem_append, ← splitOn_eq]
    right
    rwa [← List.append_assoc]
  · rw [List.length_append] at hlen
    omega

/-- A stream of separators has only empty lines. -/
theorem splitOn_replicate (n : Nat) :
    (List.replicate n sep).splitOn sep = List.replicate (n + 1) [] := by
  induction n with
  | zero => exact List.splitOn_eq_singleton List.not_mem_nil
  | succ n ih =>
      have hline : ([] ++ sep :: List.replicate n sep).splitOn sep =
          [] :: (List.replicate n sep).splitOn sep := splitOn_line List.not_mem_nil _
      rw [List.nil_append, ih] at hline
      exact hline

end Lines
