import Vigil.Ownership
import Mathlib.Data.List.Perm.Basic

/-!
# Entries that are added once and leave once

A machine holds a list of entries.  Each step adds some, and some of those it
then holds leave.  If every step is accounted for, so is every run: what was
held at the start or added is what has left and what is still held, each entry
as often as it was added.
-/

namespace Ledger

open Ownership
open scoped List

variable {S A E : Type*} {step : S → A → S} {added left : S → A → List E}

/-- A list falls into what satisfies `p`, what satisfies only `q`, and the
rest. -/
theorem split_perm (p q : E → Prop) [DecidablePred p] [DecidablePred q] (entries : List E) :
    entries ~ (entries.filter fun e => p e ∧ q e) ++ (entries.filter fun e => ¬ p e) ++
      entries.filter fun e => p e ∧ ¬ q e := by
  induction entries with
  | nil => exact List.Perm.refl _
  | cons e rest ih =>
      by_cases hp : p e
      · by_cases hq : q e
        · simpa [hp, hq] using ih
        · simpa [hp, hq] using (ih.cons e).trans List.perm_middle.symm
      · have hmiddle := (ih.cons e).trans (List.Perm.append_right _ List.perm_middle.symm)
        simpa [hp] using hmiddle

/-- **Every entry is accounted for.** -/
theorem balance (held : S → List E) {I : S → Prop} {ok : S → A → Prop}
    (hinv : ∀ s a, I s → ok s a → I (step s a))
    (hstep : ∀ s a, I s → ok s a → held s ++ added s a ~ left s a ++ held (step s a))
    {s : S} {as : List A} (hs : I s) (has : Runs.Along step ok s as) :
    held s ++ issuedAlong step added s as ~
      issuedAlong step left s as ++ held (as.foldl step s) := by
  induction as generalizing s with
  | nil => simp [issuedAlong]
  | cons a as ih =>
      have hrest := ih (hinv s a hs has.1) has.2
      calc held s ++ (added s a ++ issuedAlong step added (step s a) as)
          = (held s ++ added s a) ++ issuedAlong step added (step s a) as :=
            (List.append_assoc _ _ _).symm
        _ ~ (left s a ++ held (step s a)) ++ issuedAlong step added (step s a) as :=
            (hstep s a hs has.1).append_right _
        _ = left s a ++ (held (step s a) ++ issuedAlong step added (step s a) as) :=
            List.append_assoc _ _ _
        _ ~ left s a ++ (issuedAlong step left (step s a) as ++
              held (as.foldl step (step s a))) := hrest.append_left _
        _ = (left s a ++ issuedAlong step left (step s a) as) ++
              held (as.foldl step (step s a)) := (List.append_assoc _ _ _).symm

end Ledger
