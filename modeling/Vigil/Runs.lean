import Mathlib.Logic.Basic

/-!
# Runs of a transition function

A run of `step : S → A → S` from `s` on the inputs `as` ends in
`as.foldl step s`.  `Along step ok s as` says that every step of the run
meets `ok` in the state it starts from; it is closed under prefixes, so a
statement about the end of such runs is one about every state reached.
-/

namespace Runs

variable {S A : Type*} {step : S → A → S} {ok : S → A → Prop}

/-- Every step of the run from `s` meets `ok` in the state before it. -/
def Along (step : S → A → S) (ok : S → A → Prop) : S → List A → Prop
  | _, [] => True
  | s, a :: as => ok s a ∧ Along step ok (step s a) as

instance decidableAlong (step : S → A → S) (ok : S → A → Prop) [∀ s a, Decidable (ok s a)] :
    (s : S) → (as : List A) → Decidable (Along step ok s as)
  | _, [] => isTrue trivial
  | s, a :: as =>
      have := decidableAlong step ok (step s a) as
      inferInstanceAs (Decidable (ok s a ∧ Along step ok (step s a) as))

theorem along_append {s : S} {as bs : List A} :
    Along step ok s (as ++ bs) ↔
      Along step ok s as ∧ Along step ok (as.foldl step s) bs := by
  induction as generalizing s with
  | nil => simp [Along]
  | cons a as ih => simp [Along, ih, and_assoc]

/-- Two conditions met along a run are met together. -/
theorem along_and {ok' : S → A → Prop} {s : S} {as : List A} (h : Along step ok s as)
    (h' : Along step ok' s as) : Along step (fun s a => ok s a ∧ ok' s a) s as := by
  induction as generalizing s with
  | nil => trivial
  | cons a as ih => exact ⟨⟨h.1, h'.1⟩, ih h.2 h'.2⟩

theorem along_mono {ok' : S → A → Prop} (h : ∀ s a, ok s a → ok' s a) {s : S} {as : List A}
    (hok : Along step ok s as) : Along step ok' s as := by
  induction as generalizing s with
  | nil => trivial
  | cons a as ih => exact ⟨h s a hok.1, ih hok.2⟩

/-- Two conditions that agree wherever `ok` is met. -/
theorem along_congr {p q : S → A → Prop} (h : ∀ s a, ok s a → (p s a ↔ q s a)) {s : S}
    {as : List A} (hok : Along step ok s as) : Along step p s as ↔ Along step q s as := by
  induction as generalizing s with
  | nil => exact Iff.rfl
  | cons a as ih => exact and_congr (h s a hok.1) (ih hok.2)

/-- A condition on the inputs alone. -/
theorem along_of_mem (s : S) {as : List A} (h : ∀ a ∈ as, ∀ s, ok s a) : Along step ok s as := by
  induction as generalizing s with
  | nil => trivial
  | cons a as ih =>
      exact ⟨h a List.mem_cons_self s, ih _ fun b hb => h b (List.mem_cons_of_mem a hb)⟩

/-- **Invariant rule.**  What every admitted step preserves holds at the end
of every admitted run. -/
theorem invariant {I : S → Prop} (hstep : ∀ s a, I s → ok s a → I (step s a))
    {s : S} {as : List A} (hs : I s) (has : Along step ok s as) : I (as.foldl step s) := by
  induction as generalizing s with
  | nil => exact hs
  | cons a as ih => exact ih (hstep s a hs has.1) has.2

/-- A property of single steps that an invariant implies holds of every step
of a run. -/
theorem along_of_invariant {I : S → Prop} {good : S → A → Prop}
    (hstep : ∀ s a, I s → ok s a → I (step s a)) (hgood : ∀ s a, I s → ok s a → good s a)
    {s : S} {as : List A} (hs : I s) (has : Along step ok s as) : Along step good s as := by
  induction as generalizing s with
  | nil => trivial
  | cons a as ih => exact ⟨hgood s a hs has.1, ih (hstep s a hs has.1) has.2⟩

/-- The same for an invariant of every step. -/
theorem along_of_kept {I : S → Prop} {good : S → A → Prop} (hstep : ∀ s a, I s → I (step s a))
    (hgood : ∀ s a, I s → good s a) {s : S} (hs : I s) (as : List A) : Along step good s as := by
  induction as generalizing s with
  | nil => trivial
  | cons a as ih => exact ⟨hgood s a hs, ih (hstep s a hs)⟩

/-- **Exact rule.**  Under an invariant of the admitted inputs, let a step keep
`I` exactly when it meets `ok`: then a run on such inputs keeps `I` throughout
exactly when it meets `ok` throughout. -/
theorem along_iff_of_admitted {J I : S → Prop} {adm : A → Prop}
    (hinv : ∀ s a, adm a → J s → J (step s a))
    (hstep : ∀ s a, adm a → J s → I s → (I (step s a) ↔ ok s a)) {s : S} {as : List A}
    (hadm : ∀ a ∈ as, adm a) (hj : J s) (hs : I s) :
    Along step (fun s a => I (step s a)) s as ↔ Along step ok s as := by
  induction as generalizing s with
  | nil => exact Iff.rfl
  | cons a as ih =>
      have ha := hadm a List.mem_cons_self
      have hrest := fun b hb => hadm b (List.mem_cons_of_mem a hb)
      have hfirst := hstep s a ha hj hs
      constructor
      · rintro ⟨hkept, hlater⟩
        exact ⟨hfirst.1 hkept, (ih hrest (hinv s a ha hj) hkept).1 hlater⟩
      · rintro ⟨hok, hlater⟩
        exact ⟨hfirst.2 hok, (ih hrest (hinv s a ha hj) (hfirst.2 hok)).2 hlater⟩

theorem along_iff_of_invariant {J I : S → Prop} (hinv : ∀ s a, J s → J (step s a))
    (hstep : ∀ s a, J s → I s → (I (step s a) ↔ ok s a)) {s : S} {as : List A} (hj : J s)
    (hs : I s) : Along step (fun s a => I (step s a)) s as ↔ Along step ok s as :=
  along_iff_of_admitted (fun s a _ => hinv s a) (fun s a _ => hstep s a)
    (fun _ _ => trivial) hj hs

theorem along_iff {I : S → Prop} (hstep : ∀ s a, I s → (I (step s a) ↔ ok s a)) {s : S}
    {as : List A} (hs : I s) : Along step (fun s a => I (step s a)) s as ↔ Along step ok s as :=
  along_iff_of_invariant (J := fun _ => True) (fun _ _ _ => trivial)
    (fun s a _ h => hstep s a h) trivial hs

/-- What no step restores holds at the end of a run only if it holds throughout. -/
theorem end_iff_along {I : S → Prop} (hback : ∀ s a, I (step s a) → I s) {s : S} {as : List A}
    (hs : I s) : I (as.foldl step s) ↔ Along step (fun s a => I (step s a)) s as := by
  have hstart : ∀ {as : List A} {s : S}, I (as.foldl step s) → I s := by
    intro as
    induction as with
    | nil => exact id
    | cons a as ih => exact fun h => hback _ a (ih h)
  induction as generalizing s with
  | nil => exact iff_of_true hs trivial
  | cons a as ih =>
      constructor
      · intro h
        have hrest : I (as.foldl step (step s a)) := h
        exact ⟨hstart hrest, (ih (hstart hrest)).1 hrest⟩
      · intro h
        exact (ih h.1).2 h.2

/-- The step taken after a prefix of an admitted run is admitted. -/
theorem along_at {s : S} {before after : List A} {a : A}
    (has : Along step ok s (before ++ a :: after)) : ok (before.foldl step s) a :=
  (along_append.mp has).2.1

/-- **Lockstep.**  Two machines on the same inputs stay related if every input
keeps them related. -/
theorem lockstep {T : Type*} {step' : T → A → T} {R : S → T → Prop}
    (hstep : ∀ s t a, R s t → R (step s a) (step' t a)) {s : S} {t : T} (h : R s t)
    (as : List A) : R (as.foldl step s) (as.foldl step' t) := by
  induction as generalizing s t with
  | nil => exact h
  | cons a as ih => exact ih (hstep s t a h)

/-- **Last write.**  A value that some inputs overwrite and the others leave
alone is in the end what the last of the former wrote. -/
theorem last_write {V : Type*} (view : S → V) {write : A → Option V}
    (hstep : ∀ s a, view (step s a) = (write a).getD (view s)) (s : S) (as : List A) :
    view (as.foldl step s) = (as.filterMap write).getLast?.getD (view s) := by
  induction as generalizing s with
  | nil => rfl
  | cons a as ih =>
      rw [List.foldl_cons, ih, hstep]
      cases hwrite : write a with
      | none => rw [List.filterMap_cons_none hwrite, Option.getD_none]
      | some v =>
          rw [List.filterMap_cons_some hwrite, List.getLast?_cons, Option.getD_some,
            Option.getD_some]

end Runs
