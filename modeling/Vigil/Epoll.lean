import Mathlib.Data.List.AList
import Mathlib.Data.Rat.Floor

/-!
# What the reactors share

`epoll_utils.h` and the few constants and conversions that the monitor and the
simulator both use.  The epoll set maps each registered fd to its interest;
closing an fd removes it there, as the kernel does.
-/

namespace Vigil

/-- The bits of `epoll_event::events` the reactors look at. -/
structure EpollEvents where
  epollIn : Bool := false
  epollOut : Bool := false
  epollHup : Bool := false
  epollErr : Bool := false
  deriving DecidableEq, Repr

/-- What an fd is registered for. -/
structure EpollInterest where
  epollIn : Bool
  epollOut : Bool
  epollEt : Bool
  deriving DecidableEq, Repr

def epollInterestFlags (readable writable edgeTriggered : Bool) : EpollInterest :=
  ⟨readable, writable, edgeTriggered⟩

/-- The epoll set: the registered fds and their interest. -/
abbrev EpollSet := AList fun _ : Int => EpollInterest

namespace EpollSet

/-- `EPOLL_CTL_ADD`. -/
def add (set : EpollSet) (fd : Int) (interest : EpollInterest) : EpollSet :=
  set.insert fd interest

/-- `EPOLL_CTL_MOD`; it fails, without effect, on an fd that is not registered. -/
def mod (set : EpollSet) (fd : Int) (interest : EpollInterest) : EpollSet :=
  if fd ∈ set then set.insert fd interest else set

/-- `EPOLL_CTL_DEL`, or the fd was closed. -/
def del (set : EpollSet) (fd : Int) : EpollSet :=
  set.erase fd

section Lookup

variable (set : EpollSet) {fd other : Int} (interest : EpollInterest)

@[simp] theorem lookup_add : (set.add fd interest).lookup fd = some interest :=
  AList.lookup_insert set

theorem lookup_add_ne (h : other ≠ fd) : (set.add fd interest).lookup other = set.lookup other :=
  AList.lookup_insert_ne h

theorem lookup_del_ne (h : other ≠ fd) : (set.del fd).lookup other = set.lookup other :=
  AList.lookup_erase_ne h

theorem lookup_mod_ne (h : other ≠ fd) : (set.mod fd interest).lookup other = set.lookup other := by
  unfold mod
  split
  · exact AList.lookup_insert_ne h
  · rfl

theorem lookup_mod {old : EpollInterest} (h : set.lookup fd = some old) :
    (set.mod fd interest).lookup fd = some interest := by
  have hmem : fd ∈ set := AList.lookup_isSome.mp (by rw [h]; rfl)
  rw [mod, if_pos hmem]
  exact AList.lookup_insert set

end Lookup

/-- What `epoll_wait` can return: at most one event per registered fd. -/
def Reports (set : EpollSet) (fds : List Int) : Prop :=
  fds.Nodup ∧ ∀ fd ∈ fds, fd ∈ set

instance (set : EpollSet) (fds : List Int) : Decidable (set.Reports fds) :=
  inferInstanceAs (Decidable (_ ∧ _))

end EpollSet

/-- One return of `epoll_wait`: the clock as `run` then reads it, and the
events. -/
structure Batch (Event : Type) where
  now : Int
  events : List Event

def kEConnReset : Nat := 104

def kEConnAborted : Nat := 103

/-- `static_cast<int64_t>` of a fractional value: truncation towards zero. -/
def truncateToInt (q : ℚ) : Int :=
  q.num.tdiv q.den

theorem truncateToInt_eq_floor {q : ℚ} (h : 0 ≤ q) : truncateToInt q = ⌊q⌋ := by
  rw [truncateToInt, Rat.floor_def', Int.tdiv_eq_ediv_of_nonneg (Rat.num_nonneg.mpr h)]

end Vigil
