import Mathlib.Data.List.Perm.Basic
import Mathlib.Data.List.Nodup
import Mathlib.Tactic.Common

/-!
# Descriptor tables

A process opens and closes numbers in a table.  Closing a number that is not
open is an error, and a dangerous one: by then the number may belong to someone
else.  `Accounts t held` says that the open numbers are exactly the held ones,
each held once, and that no close went wrong; the lemmas say how a holder keeps
its account when it opens and closes.
-/

namespace Handles

/-- The open numbers, and how many calls of `close` named one that was not. -/
structure Table where
  opened : List Int := []
  badCloses : Nat := 0

namespace Table

/-- A call that returns a new number. -/
def opens (t : Table) (fd : Int) : Table :=
  { t with opened := fd :: t.opened }

def close (t : Table) (fd : Int) : Table :=
  if fd ∈ t.opened then { t with opened := t.opened.erase fd }
  else { t with badCloses := t.badCloses + 1 }

end Table

/-- The open numbers are the held ones, each once, and no close went wrong. -/
structure Accounts (t : Table) (held : List Int) : Prop where
  perm : t.opened.Perm held
  nodup : t.opened.Nodup
  clean : t.badCloses = 0

variable {t : Table} {held held' : List Int} {fd : Int}

theorem Accounts.of_perm (h : Accounts t held) (hperm : held.Perm held') : Accounts t held' :=
  ⟨h.perm.trans hperm, h.nodup, h.clean⟩

theorem Accounts.held_nodup (h : Accounts t held) : held.Nodup :=
  h.perm.nodup_iff.mp h.nodup

theorem Accounts.opens (h : Accounts t held) (hnew : fd ∉ t.opened) :
    Accounts (t.opens fd) (fd :: held) :=
  ⟨h.perm.cons fd, List.nodup_cons.mpr ⟨hnew, h.nodup⟩, h.clean⟩

theorem Accounts.close (h : Accounts t (fd :: held)) : Accounts (t.close fd) held := by
  have hopen : fd ∈ t.opened := h.perm.mem_iff.mpr List.mem_cons_self
  rw [Table.close, if_pos hopen]
  refine ⟨?_, h.nodup.erase fd, h.clean⟩
  have herased := h.perm.erase fd
  rwa [List.erase_cons_head] at herased

/-- Open, then close again. -/
theorem Accounts.opens_close (h : Accounts t held) (hnew : fd ∉ t.opened) :
    Accounts ((t.opens fd).close fd) held :=
  (h.opens hnew).close

/-- Trade one held number for a new one. -/
theorem Accounts.trade {old : Int} (h : Accounts t (old :: held)) (hnew : fd ∉ t.opened) :
    Accounts ((t.opens fd).close old) (fd :: held) :=
  ((h.opens hnew).of_perm (List.Perm.swap old fd held)).close

/-- Close everything that was held on top of `base`. -/
theorem Accounts.close_all {base fds : List Int} (h : Accounts t (fds ++ base)) :
    Accounts (fds.foldl Table.close t) base := by
  induction fds generalizing t with
  | nil => exact h
  | cons fd fds ih => exact ih (Accounts.close h)

end Handles
