import Vigil.Runs

/-!
# Numbers that are issued again

A server finds the owner of an event by a number that the event carries, such
as a file descriptor.  If a number is given up and issued again while an event
with it is still waiting, the event finds the wrong owner.

Here a run takes `step : S → A → S`; `owns s k o` says who owns the number `k`
in a state, and `issues s a` lists the numbers that a step issues.  Ownership
only changes hands by issuing, so a number that the run has not issued belongs
to its owner from the start of the run, or to nobody.
-/

namespace Ownership

variable {S A K O : Type*} {step : S → A → S} {issues : S → A → List K} {number : A → K}
  {owns : S → K → O → Prop} {start s : S} {issued : List K}

/-- What a run issues, in order. -/
def issuedAlong (step : S → A → S) (issues : S → A → List K) : S → List A → List K
  | _, [] => []
  | s, a :: as => issues s a ++ issuedAlong step issues (step s a) as

/-- No input of the run carries a number that was issued before it; `issued`
were before the run. -/
def NoReissue (step : S → A → S) (issues : S → A → List K) (number : A → K) :
    List K → S → List A → Prop
  | _, _, [] => True
  | issued, s, a :: as =>
      number a ∉ issued ∧ NoReissue step issues number (issued ++ issues s a) (step s a) as

instance decidableNoReissue [DecidableEq K] (step : S → A → S) (issues : S → A → List K)
    (number : A → K) : (issued : List K) → (s : S) → (as : List A) →
    Decidable (NoReissue step issues number issued s as)
  | _, _, [] => isTrue trivial
  | issued, s, a :: as =>
      have := decidableNoReissue step issues number (issued ++ issues s a) (step s a) as
      inferInstanceAs (Decidable (number a ∉ issued ∧
        NoReissue step issues number (issued ++ issues s a) (step s a) as))

/-- Apart from the issued numbers, everything still belongs to whom it belonged
at the start. -/
def Tracks (owns : S → K → O → Prop) (start : S) (issued : List K) (s : S) : Prop :=
  ∀ k o, owns s k o → k ∈ issued ∨ owns start k o

theorem Tracks.refl : Tracks owns start [] start :=
  fun _ _ h => Or.inr h

theorem Tracks.trans {mid : S} {more : List K} (h : Tracks owns start issued mid)
    (h' : Tracks owns mid more s) : Tracks owns start (issued ++ more) s := by
  intro k o hk
  rcases h' k o hk with hmore | hmid
  · exact Or.inl (List.mem_append_right _ hmore)
  · rcases h k o hmid with hissued | hstart
    · exact Or.inl (List.mem_append_left _ hissued)
    · exact Or.inr hstart

/-- Steps that only issue what they list, taken one after the other. -/
theorem tracks_run {I : S → Prop} {ok : S → A → Prop}
    (hinv : ∀ s a, I s → ok s a → I (step s a))
    (hstep : ∀ s a, I s → ok s a → Tracks owns s (issues s a) (step s a)) {as : List A}
    (hs : I s) (hok : Runs.Along step ok s as) :
    Tracks owns s (issuedAlong step issues s as) (as.foldl step s) := by
  induction as generalizing s with
  | nil => exact Tracks.refl
  | cons a as ih => exact (hstep s a hs hok.1).trans (ih (hinv s a hs hok.1) hok.2)

/-- **No input finds a later owner.**  If no input carries a number issued
earlier in the run, then whoever owns the number of an input by the time of its
step owned it at the start. -/
theorem along_owned_from_start {I : S → Prop} {ok : S → A → Prop}
    (hinv : ∀ s a, I s → ok s a → I (step s a))
    (hstep : ∀ s a, I s → ok s a → Tracks owns s (issues s a) (step s a)) {as : List A}
    (hs : I s) (hok : Runs.Along step ok s as) (htracks : Tracks owns start issued s)
    (hfresh : NoReissue step issues number issued s as) :
    Runs.Along step (fun s a => ∀ o, owns s (number a) o → owns start (number a) o) s as := by
  induction as generalizing s issued with
  | nil => trivial
  | cons a as ih =>
      refine ⟨fun o ho => (htracks _ o ho).resolve_left hfresh.1, ?_⟩
      exact ih (hinv s a hs hok.1) hok.2 (htracks.trans (hstep s a hs hok.1)) hfresh.2

end Ownership
