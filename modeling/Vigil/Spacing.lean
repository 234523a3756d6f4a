import Mathlib.Algebra.Order.Ring.Int
import Mathlib.Data.List.Basic

/-!
# Events that keep their distance

Whoever does something now and then, and each time decides how long to wait at
least before the next time, does not do it often: in a window of time there is
room for as many events as gaps, and one.
-/

namespace Spacing

/-- When something was done, and the gap that it asked for. -/
structure Beat where
  time : Int
  gap : Int
  deriving DecidableEq

/-- Every gap was kept. -/
def Spaced (beats : List Beat) : Prop :=
  beats.Pairwise fun b b' => b.time + b.gap ≤ b'.time

theorem spaced_concat {beats : List Beat} {b : Beat} (h : Spaced beats)
    (hlast : ∀ c ∈ beats, c.time + c.gap ≤ b.time) : Spaced (beats ++ [b]) := by
  refine List.pairwise_append.mpr ⟨h, List.pairwise_singleton _ b, ?_⟩
  intro c hc b' hb'
  rw [List.mem_singleton.mp hb']
  exact hlast c hc

/-- Events between two times, with one gap for each. -/
theorem length_mul_le {beats : List Beat} (gap start finish : Int) (h : Spaced beats)
    (hgap : ∀ b ∈ beats, gap ≤ b.gap) (hin : ∀ b ∈ beats, start ≤ b.time ∧ b.time ≤ finish)
    (hle : start ≤ finish + gap) : beats.length * gap ≤ finish - start + gap := by
  induction beats generalizing start with
  | nil =>
      rw [List.length_nil, Nat.cast_zero, Int.zero_mul]
      omega
  | cons b rest ih =>
      obtain ⟨hfirst, hrest⟩ := List.pairwise_cons.mp h
      obtain ⟨hstart, hfinish⟩ := hin b List.mem_cons_self
      have hlater : ∀ c ∈ rest, b.time + gap ≤ c.time ∧ c.time ≤ finish := by
        intro c hc
        have hkept := hfirst c hc
        have hwide := hgap b List.mem_cons_self
        exact ⟨by omega, (hin c (List.mem_cons_of_mem b hc)).2⟩
      have hbeyond := ih (b.time + gap) hrest (fun c hc => hgap c (List.mem_cons_of_mem b hc))
        hlater (by omega)
      rw [List.length_cons, Nat.cast_add, Nat.cast_one, Int.add_mul, Int.one_mul]
      omega

/-- **At most one more than there are gaps**, in any window. -/
theorem count_mul_le {beats : List Beat} {gap : Int} (h : Spaced beats)
    (hgap : ∀ b ∈ beats, gap ≤ b.gap) (hpos : 0 ≤ gap) (start : Int) {width : Int}
    (hwidth : 0 ≤ width) :
    (beats.countP fun b => start ≤ b.time ∧ b.time ≤ start + width) * gap ≤ width + gap := by
  let inside := beats.filter fun b => start ≤ b.time ∧ b.time ≤ start + width
  have hspaced : Spaced inside := h.sublist List.filter_sublist
  have hfits := length_mul_le gap start (start + width) hspaced
    (fun b hb => hgap b (List.mem_of_mem_filter hb))
    (fun b hb => of_decide_eq_true (List.mem_filter.mp hb).2) (by omega)
  rw [List.countP_eq_length_filter]
  exact hfits.trans (by omega)

end Spacing
