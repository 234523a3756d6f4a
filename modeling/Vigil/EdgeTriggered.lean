import Mathlib.Data.List.Basic
import Mathlib.Logic.Function.Basic
import Vigil.Runs

/-!
# Edge-triggered readiness

A server reads from channels.  With edge-triggered notification the kernel
reports a channel once for every arrival of bytes, not for as long as bytes are
there: a server that handles a report and leaves bytes behind may never hear of
them.

A `World` is a server with the kernel around it: what is unread on every
channel, which channels the kernel has yet to report (`marked`), and which
reports the server has yet to handle (`reported`).  Bytes arrive at any time,
also while a batch of reports is being handled.  `Drains` is what is asked of
the server's single steps; from it `Covered` follows for every run: no live
channel has unread bytes that nobody is going to look at.
-/

namespace EdgeTriggered

variable {S A F B : Type*}

/-- A server that handles one input `a : A` at a time. -/
structure Reactor (S A F B : Type*) where
  dispatch : S → A → S
  /-- The channel that an input reports, if it is a report. -/
  channel : A → Option F
  /-- Does the report say that there is something to read? -/
  readable : A → Bool
  /-- The channel that handling the input reads from. -/
  reads : S → A → Option F
  /-- What the kernel's answers leave of the unread bytes, if it can have
  answered so. -/
  leaves : A → List B → Option (List B)
  /-- The channels that the input opens. -/
  issues : S → A → List F
  /-- Is the channel registered for reading? -/
  watched : S → F → Bool
  live : S → F → Prop

/-- The server and the kernel's side of its channels. -/
structure World (S A F B : Type*) where
  server : S
  unread : F → List B := fun _ => []
  marked : F → Bool := fun _ => false
  reported : List A := []

inductive Move (A F B : Type*) where
  | arrive (channel : F) (bytes : List B)
  /-- The kernel marks a channel for a reason of its own. -/
  | mark (channel : F)
  /-- The wait for reports returns. -/
  | wait (reports : List A)
  /-- The server handles the first report of the batch; a new channel starts
  with the bytes of `fresh`. -/
  | handle (fresh : F → List B)
  /-- The server is given an input that nobody reported. -/
  | operate (input : A) (fresh : F → List B)

namespace Reactor

variable (r : Reactor S A F B)

/-- Every live channel with unread bytes is marked or reported as readable. -/
def Covered (w : World S A F B) : Prop :=
  ∀ f, r.live w.server f → w.unread f ≠ [] →
    w.marked f = true ∨ ∃ a ∈ w.reported, r.channel a = some f ∧ r.readable a = true

/-- What is asked of the server. -/
structure Drains (I : S → Prop) (ok : S → A → Prop) : Prop where
  keeps : ∀ s a, I s → ok s a → I (r.dispatch s a)
  watches : ∀ s f, I s → r.live s f → r.watched s f = true
  tracks : ∀ s a f, I s → ok s a → r.live (r.dispatch s a) f → f ∈ r.issues s a ∨ r.live s f
  attends : ∀ s a f, I s → ok s a → r.channel a = some f → r.readable a = true → r.live s f →
    r.live (r.dispatch s a) f → f ∈ r.issues s a ∨ r.reads s a = some f
  drains : ∀ s a f bytes rest, I s → ok s a → r.reads s a = some f →
    r.leaves a bytes = some rest → r.live (r.dispatch s a) f → f ∈ r.issues s a ∨ rest = []

variable [DecidableEq F]

/-- The server handles an input. -/
def take (w : World S A F B) (a : A) (fresh : F → List B) : World S A F B where
  server := r.dispatch w.server a
  unread := fun f =>
    if f ∈ r.issues w.server a then fresh f
    else if r.reads w.server a = some f then (r.leaves a (w.unread f)).getD []
    else w.unread f
  -- registering a channel marks it if there is something to read
  marked := fun f => r.watched (r.dispatch w.server a) f &&
    if f ∈ r.issues w.server a then !(fresh f).isEmpty else w.marked f
  reported := w.reported

def step (w : World S A F B) : Move A F B → World S A F B
  | .arrive f bytes =>
      { w with
        unread := Function.update w.unread f (w.unread f ++ bytes)
        marked := Function.update w.marked f
          (w.marked f || r.watched w.server f && !bytes.isEmpty) }
  | .mark f => { w with marked := Function.update w.marked f true }
  | .wait reports =>
      { w with
        marked := fun f => w.marked f && !reports.any fun a => r.channel a = some f
        reported := reports }
  | .handle fresh =>
      match w.reported with
      | [] => w
      | a :: rest => { r.take w a fresh with reported := rest }
  | .operate a fresh => r.take w a fresh

/-- The input is admitted and the kernel answers its reads. -/
def Takes (ok : S → A → Prop) (w : World S A F B) (a : A) : Prop :=
  ok w.server a ∧ ∀ f ∈ r.reads w.server a, (r.leaves a (w.unread f)).isSome = true

/-- The wait returns when the last batch is done, and a report says what there
is to read. -/
def Admits (ok : S → A → Prop) (w : World S A F B) : Move A F B → Prop
  | .wait reports => w.reported = [] ∧
      ∀ a ∈ reports, ∀ f ∈ r.channel a, w.unread f ≠ [] → r.readable a = true
  | .handle _ => ∀ a ∈ w.reported.head?, r.Takes ok w a
  | .operate a _ => r.Takes ok w a
  | _ => True

instance (ok : S → A → Prop) [∀ s a, Decidable (ok s a)] (w : World S A F B) (a : A) :
    Decidable (r.Takes ok w a) :=
  inferInstanceAs (Decidable (_ ∧ ∀ f ∈ r.reads w.server a, _))

instance (ok : S → A → Prop) [∀ s a, Decidable (ok s a)] (w : World S A F B)
    (move : Move A F B) : Decidable (r.Admits ok w move) :=
  match move with
  | .wait reports => inferInstanceAs (Decidable (_ ∧ ∀ a ∈ reports, ∀ f ∈ r.channel a, _))
  | .handle _ => inferInstanceAs (Decidable (∀ a ∈ w.reported.head?, _))
  | .operate a _ => inferInstanceAs (Decidable (r.Takes ok w a))
  | .arrive _ _ => isTrue trivial
  | .mark _ => isTrue trivial

variable {r} {I : S → Prop} {ok : S → A → Prop} {w : World S A F B}

/-- Handling an input leaves nothing behind that is not covered, apart from
the reports that were waiting. -/
theorem Drains.covered_take (h : r.Drains I ok) (hi : I w.server) {a : A} {fresh : F → List B}
    {rest : List A} (htake : r.Takes ok w a)
    (hrest : ∀ b ∈ w.reported, b ∈ rest ∨ b = a) (hw : r.Covered w) :
    r.Covered { r.take w a fresh with reported := rest } := by
  intro f hlive hunread
  have hwatched : r.watched (r.dispatch w.server a) f = true :=
    h.watches _ f (h.keeps _ a hi htake.1) hlive
  by_cases hnew : f ∈ r.issues w.server a
  · left
    simpa [take, hwatched, hnew] using hunread
  have hbefore : r.live w.server f := (h.tracks _ a f hi htake.1 hlive).resolve_left hnew
  by_cases hread : r.reads w.server a = some f
  · -- the read ended at the last byte
    obtain ⟨left, hleft⟩ := Option.isSome_iff_exists.mp (htake.2 f hread)
    have hnone := (h.drains _ a f _ left hi htake.1 hread hleft hlive).resolve_left hnew
    refine absurd ?_ hunread
    simp [take, hnew, hread, hleft, hnone]
  · have hsame : w.unread f ≠ [] := by simpa [take, hnew, hread] using hunread
    rcases hw f hbefore hsame with hmark | ⟨b, hb, hchannel, hreadable⟩
    · left
      simpa [take, hwatched, hnew] using hmark
    · right
      refine ⟨b, (hrest b hb).resolve_right ?_, hchannel, hreadable⟩
      rintro rfl
      exact hread ((h.attends _ _ f hi htake.1 hchannel hreadable hbefore hlive).resolve_left hnew)

/-- **One move of the world.** -/
theorem Drains.covered_step (h : r.Drains I ok) (w : World S A F B) (move : Move A F B)
    (hw : I w.server ∧ r.Covered w) (hadm : r.Admits ok w move) :
    I (r.step w move).server ∧ r.Covered (r.step w move) := by
  obtain ⟨hi, hcovered⟩ := hw
  cases move with
  | arrive g bytes =>
      refine ⟨hi, ?_⟩
      intro f hlive hunread
      have hwatched := h.watches _ f hi hlive
      by_cases hfg : f = g
      · subst hfg
        by_cases hempty : w.unread f = []
        · have hbytes : bytes ≠ [] := by simpa [step, hempty] using hunread
          left
          simp [step, show r.watched w.server f = true from hwatched, hbytes]
        · rcases hcovered f hlive hempty with hmark | hreport
          · left
            simp [step, hmark]
          · exact Or.inr hreport
      · have hsame : w.unread f ≠ [] := by simpa [step, hfg] using hunread
        rcases hcovered f hlive hsame with hmark | hreport
        · left
          simpa [step, hfg] using hmark
        · exact Or.inr hreport
  | mark g =>
      refine ⟨hi, ?_⟩
      intro f hlive hunread
      rcases hcovered f hlive hunread with hmark | hreport
      · left
        by_cases hfg : f = g
        · simp [step, hfg]
        · simpa [step, hfg] using hmark
      · exact Or.inr hreport
  | wait reports =>
      refine ⟨hi, ?_⟩
      intro f hlive hunread
      have hmark : w.marked f = true := by
        rcases hcovered f hlive hunread with hmark | ⟨b, hb, _⟩
        · exact hmark
        · rw [hadm.1] at hb
          exact absurd hb List.not_mem_nil
      by_cases hreported : ∃ a ∈ reports, r.channel a = some f
      · obtain ⟨a, ha, hchannel⟩ := hreported
        exact Or.inr ⟨a, ha, hchannel, hadm.2 a ha f hchannel hunread⟩
      · left
        simpa [step, hmark] using hreported
  | handle fresh =>
      cases hreported : w.reported with
      | nil =>
          rw [step, hreported]
          exact ⟨hi, hcovered⟩
      | cons a rest =>
          have htake : r.Takes ok w a := hadm a (by simp [hreported])
          rw [step, hreported]
          refine ⟨h.keeps _ a hi htake.1, h.covered_take hi htake ?_ hcovered⟩
          intro b hb
          rw [hreported] at hb
          exact (List.mem_cons.mp hb).symm
  | operate a fresh =>
      exact ⟨h.keeps _ a hi hadm.1,
        h.covered_take hi hadm (fun b hb => Or.inl hb) hcovered⟩

/-- **Nothing is left unseen.**  A server that drains what it is told to read
covers its live channels in every run that starts covered. -/
theorem Drains.covered_run (h : r.Drains I ok) (hi : I w.server) (hw : r.Covered w)
    {moves : List (Move A F B)} (hadm : Runs.Along r.step (r.Admits ok) w moves) :
    r.Covered (moves.foldl r.step w) :=
  (Runs.invariant (I := fun w => I w.server ∧ r.Covered w) h.covered_step ⟨hi, hw⟩ hadm).2

end Reactor

end EdgeTriggered
