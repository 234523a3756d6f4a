import Mathlib.Data.List.Basic

/-!
# Rows of padded cells

Every cell of a row is filled up with blanks to the width of its column, and one
blank is appended in any case.  So cells never run together: whoever splits the
row at the blanks gets the cells back (`words_row`), however long they are.
And as long as they fit, the columns of all rows are aligned (`drop_row`).
-/

namespace Columns

variable {α : Type*} (blank : α → Bool)

/-- What is between the blanks. -/
def words (s : List α) : List (List α) :=
  (s.splitOnP blank).filter fun w => !w.isEmpty

/-- A cell that is one word. -/
structure Solid (w : List α) : Prop where
  ne_nil : w ≠ []
  solid : ∀ c ∈ w, blank c = false

/-- Fill up with `b` to `width`, and one more. -/
def pad (b : α) (width : Nat) (w : List α) : List α :=
  w ++ List.replicate (width - w.length) b ++ [b]

/-- Cells, each with the width of its column. -/
def row (b : α) (cells : List (Nat × List α)) : List α :=
  cells.flatMap fun cell => pad b cell.1 cell.2

/-- Where the columns of these widths end. -/
def offset : List Nat → Nat
  | [] => 0
  | width :: widths => width + 1 + offset widths

variable {blank} {b : α} {w : List α}

theorem words_blank (hb : blank b = true) (s : List α) : words blank (b :: s) = words blank s := by
  rw [words, List.splitOnP_cons_eq_if_modifyHead, if_pos hb]
  rfl

theorem words_blanks (hb : blank b = true) (n : Nat) (s : List α) :
    words blank (List.replicate n b ++ s) = words blank s := by
  induction n with
  | zero => rfl
  | succ n ih => rw [List.replicate_succ, List.cons_append, words_blank hb, ih]

theorem words_word (hw : Solid blank w) (hb : blank b = true) (s : List α) :
    words blank (w ++ b :: s) = w :: words blank s := by
  rw [words, List.splitOnP_append_cons_of_forall_mem hw.solid b hb]
  cases w with
  | nil => exact absurd rfl hw.ne_nil
  | cons c w => rfl

theorem words_pad (hw : Solid blank w) (hb : blank b = true) (width : Nat) (s : List α) :
    words blank (pad b width w ++ s) = w :: words blank s := by
  -- the first blank ends the word, and the others are skipped
  have hsplit : pad b width w ++ s =
      w ++ b :: (List.replicate (width - w.length) b ++ s) := by
    rw [pad, List.append_assoc, List.append_assoc, ← List.append_assoc (List.replicate _ b),
      ← List.replicate_succ', List.replicate_succ]
    rfl
  rw [hsplit, words_word hw hb, words_blanks hb]

/-- **The cells can be read back.** -/
theorem words_row (hb : blank b = true) {cells : List (Nat × List α)}
    (h : ∀ cell ∈ cells, Solid blank cell.2) :
    words blank (row b cells) = cells.map Prod.snd := by
  induction cells with
  | nil => rfl
  | cons cell cells ih =>
      obtain ⟨hcell, hrest⟩ := List.forall_mem_cons.mp h
      rw [row, List.flatMap_cons, words_pad hcell hb, List.map_cons]
      exact congrArg _ (ih hrest)

theorem pad_length (b : α) {width : Nat} (h : w.length ≤ width) :
    (pad b width w).length = width + 1 := by
  rw [pad, List.length_append, List.length_append, List.length_replicate, List.length_singleton]
  omega

/-- **The columns are aligned**, as far as the cells before them fit. -/
theorem drop_row (b : α) {before : List (Nat × List α)}
    (h : ∀ cell ∈ before, cell.2.length ≤ cell.1) (after : List (Nat × List α)) :
    (row b (before ++ after)).drop (offset (before.map Prod.fst)) = row b after := by
  induction before with
  | nil => rfl
  | cons cell before ih =>
      obtain ⟨hcell, hrest⟩ := List.forall_mem_cons.mp h
      have hoffset : offset ((cell :: before).map Prod.fst) =
          (pad b cell.1 cell.2).length + offset (before.map Prod.fst) := by
        rw [pad_length b hcell]
        rfl
      rw [hoffset, row, List.cons_append, List.flatMap_cons, ← List.drop_drop, List.drop_left]
      exact ih hrest

end Columns
