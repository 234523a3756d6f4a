import Vigil.Runs

/-!
# Components of a system

A system may be made of components that know nothing of each other: `view`
reads one component off the state, and `heard s a` lists what a step `a` of the
whole system tells it.  If every step changes the view exactly as the component
changes on what it hears, then so does every run (`projection`), and two
systems, of whatever other components, agree on a component that hears the same
in both (`independent`).
-/

namespace Components

variable {S S' A A' I V : Type*}

/-- What a run tells the component, in order. -/
def heardAlong (step : S → A → S) (heard : S → A → List I) : S → List A → List I
  | _, [] => []
  | s, a :: as => heard s a ++ heardAlong step heard (step s a) as

/-- The component follows its own machine in every admitted step. -/
structure Follows (step : S → A → S) (ok : S → A → Prop) (J : S → Prop)
    (heard : S → A → List I) (view : S → V) (machine : V → I → V) : Prop where
  kept : ∀ s a, J s → ok s a → J (step s a)
  follows : ∀ s a, J s → ok s a → view (step s a) = (heard s a).foldl machine (view s)

variable {step : S → A → S} {ok : S → A → Prop} {J : S → Prop} {heard : S → A → List I}
  {view : S → V} {machine : V → I → V}

/-- **Projection.**  At the end of every admitted run the component is where
its own machine gets on what it heard. -/
theorem Follows.projection (h : Follows step ok J heard view machine) {s : S} {as : List A}
    (hs : J s) (has : Runs.Along step ok s as) :
    view (as.foldl step s) = (heardAlong step heard s as).foldl machine (view s) := by
  induction as generalizing s with
  | nil => rfl
  | cons a as ih =>
      rw [List.foldl_cons, ih (h.kept s a hs has.1) has.2, h.follows s a hs has.1, heardAlong,
        List.foldl_append]

/-- **Independence.**  A component that starts alike and hears the same in two
systems ends alike. -/
theorem Follows.independent {step' : S' → A' → S'} {ok' : S' → A' → Prop} {J' : S' → Prop}
    {heard' : S' → A' → List I} {view' : S' → V}
    (h : Follows step ok J heard view machine) (h' : Follows step' ok' J' heard' view' machine)
    {s : S} {s' : S'} {as : List A} {as' : List A'} (hs : J s) (hs' : J' s')
    (has : Runs.Along step ok s as) (has' : Runs.Along step' ok' s' as')
    (hstart : view s = view' s')
    (hheard : heardAlong step heard s as = heardAlong step' heard' s' as') :
    view (as.foldl step s) = view' (as'.foldl step' s') := by
  rw [h.projection hs has, h'.projection hs' has', hstart, hheard]

end Components
