import Mathlib.Data.List.Rotate
import Mathlib.Data.Nat.ModEq

/-!
# Overwrite-oldest rings

A ring of capacity `n` keeps an array, the number of valid entries and the
cursor of the next entry to overwrite.  Both indices carry their bounds, so
an out-of-range cursor cannot be built.

`Records r xs` says that `r` is what pushing `xs` (oldest first) leaves,
starting from a reset ring with any old array contents.  The main result is
`Records.entries_rotate`: for histories of any length the valid entries, read
from the cursor on, are exactly the last `n` of the pushes in order.
-/

/-- An overwrite-oldest ring buffer. -/
structure RingBuffer (α : Type) (n : Nat) where
  data : Vector α n
  count : Nat
  next : Nat
  count_le : count ≤ n
  next_lt : next < n
  deriving DecidableEq

namespace RingBuffer

variable {α : Type} {n : Nat}

/-- A ring with no valid entry over an array filled with `x`. -/
def fresh (x : α) (h : 0 < n) : RingBuffer α n :=
  ⟨Vector.replicate n x, 0, 0, Nat.zero_le n, h⟩

/-- Store a value at the cursor and advance both indices. -/
def push (r : RingBuffer α n) (x : α) : RingBuffer α n where
  data := r.data.set r.next x r.next_lt
  count := if r.count < n then r.count + 1 else r.count
  next := (r.next + 1) % n
  count_le := by
    have := r.count_le
    split <;> omega
  next_lt := Nat.mod_lt _ (Nat.zero_lt_of_lt r.next_lt)

/-- Forget all entries; the array keeps its old contents. -/
def reset (r : RingBuffer α n) : RingBuffer α n :=
  { r with count := 0, next := 0, count_le := Nat.zero_le n,
           next_lt := Nat.zero_lt_of_lt r.next_lt }

/-- The valid prefix of the array. -/
def entries (r : RingBuffer α n) : List α :=
  r.data.toList.take r.count

/-- Is `x` one of the valid entries? -/
def contains [BEq α] (r : RingBuffer α n) (x : α) : Bool :=
  r.entries.contains x

/-- `r` is the result of pushing `xs`, oldest first, on a reset ring. -/
structure Records (r : RingBuffer α n) (xs : List α) : Prop where
  count_eq : r.count = min xs.length n
  next_eq : r.next = xs.length % n
  data_eq : ∀ j, (hj : j < xs.length) → xs.length ≤ j + n →
    r.data.toList[j % n]? = some xs[j]

theorem records_reset (r : RingBuffer α n) : Records r.reset [] where
  count_eq := by simp [reset]
  next_eq := by simp [reset]
  data_eq := by
    intro j hj
    simp at hj

theorem records_fresh (x : α) (h : 0 < n) : Records (fresh x h) [] :=
  ⟨by simp [fresh], by simp [fresh], by intro j hj; simp at hj⟩

/-- One push extends the recorded history by one. -/
theorem Records.push {r : RingBuffer α n} {xs : List α} (h : Records r xs) (x : α) :
    Records (r.push x) (xs ++ [x]) where
  count_eq := by
    have hc := h.count_eq
    simp only [RingBuffer.push, List.length_append, List.length_singleton]
    split <;> omega
  next_eq := by
    simp only [RingBuffer.push, h.next_eq, List.length_append, List.length_singleton]
    rw [Nat.mod_add_mod]
  data_eq := by
    intro j hj hold
    simp only [List.length_append, List.length_singleton] at hj hold
    have hn : 0 < n := Nat.zero_lt_of_lt r.next_lt
    have hset : (r.push x).data.toList = r.data.toList.set (xs.length % n) x := by
      rw [← h.next_eq]
      rfl
    rw [hset]
    by_cases hjl : j = xs.length
    · subst hjl
      have hlt : xs.length % n < n := Nat.mod_lt _ hn
      simp [hlt]
    · have hjx : j < xs.length := by omega
      -- the overwritten position belongs to an entry at least `n` pushes old
      have hne : xs.length % n ≠ j % n := by
        intro heq
        have hdvd : n ∣ xs.length - j := (Nat.modEq_iff_dvd' (by omega)).mp heq.symm
        have hle := Nat.le_of_dvd (by omega) hdvd
        omega
      rw [List.getElem?_set_ne hne, h.data_eq j hjx (by omega)]
      simp [List.getElem_append_left hjx]

theorem Records.append {r : RingBuffer α n} {xs : List α} (h : Records r xs) (ys : List α) :
    Records (ys.foldl RingBuffer.push r) (xs ++ ys) := by
  induction ys generalizing r xs with
  | nil => simpa using h
  | cons y ys ih => simpa [List.append_assoc] using ih (h.push y)

theorem Records.entries_length {r : RingBuffer α n} {xs : List α} (h : Records r xs) :
    r.entries.length = min xs.length n := by
  have hc := h.count_eq
  simp only [entries, List.length_take, Vector.length_toList]
  omega

/-- **Window.**  Turned so that the oldest comes first, the valid entries are
the last `n` pushes in order. -/
theorem Records.entries_rotate {r : RingBuffer α n} {xs : List α} (h : Records r xs) :
    r.entries.rotate (xs.length - n) = xs.drop (xs.length - n) := by
  have hlength := h.entries_length
  refine List.ext_getElem (by simp; omega) fun k hk hk' => ?_
  rw [List.length_drop] at hk'
  rw [List.getElem_rotate, List.getElem_drop]
  have hdata := h.data_eq (xs.length - n + k) (by omega) (by omega)
  -- before the first wrap the ring is not turned at all
  have hindex : (k + (xs.length - n)) % r.entries.length = (xs.length - n + k) % n := by
    by_cases hshort : xs.length ≤ n
    · rw [Nat.mod_eq_of_lt (by omega), Nat.mod_eq_of_lt (by omega), Nat.add_comm]
    · rw [hlength, Nat.min_eq_right (by omega), Nat.add_comm]
  obtain ⟨_, hval⟩ := List.getElem?_eq_some_iff.mp hdata
  simp only [hindex]
  simpa only [entries, List.getElem_take] using hval

/-- The valid entries are the last `n` pushes, each as often as it was pushed. -/
theorem Records.entries_perm {r : RingBuffer α n} {xs : List α} (h : Records r xs) :
    r.entries.Perm (xs.drop (xs.length - n)) := by
  rw [← h.entries_rotate]
  exact (List.rotate_perm _ _).symm

theorem Records.mem_entries {r : RingBuffer α n} {xs : List α} (h : Records r xs) (x : α) :
    x ∈ r.entries ↔ x ∈ xs.drop (xs.length - n) :=
  h.entries_perm.mem_iff

/-- The old contents of the array are never seen. -/
theorem Records.contains_iff [BEq α] [LawfulBEq α] {r : RingBuffer α n} {xs : List α}
    (h : Records r xs) (x : α) : r.contains x = true ↔ x ∈ xs.drop (xs.length - n) := by
  rw [contains, List.contains_iff_mem, h.mem_entries]

theorem Records.contains_eq [BEq α] [LawfulBEq α] {r r' : RingBuffer α n} {xs : List α}
    (h : Records r xs) (h' : Records r' xs) (x : α) : r.contains x = r'.contains x := by
  rw [Bool.eq_iff_iff, h.contains_iff, h'.contains_iff]

end RingBuffer
