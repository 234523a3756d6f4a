import Mathlib.Data.List.Basic
import Vigil.Runs

/-!
# Event loops that are told to stop

A loop waits for a batch of inputs, handles them one after the other, and looks
at a flag before it waits again.  It is stopped from outside in two moves that
anything may come between: set the flag, then write to a channel that the loop
also waits for.  Handling an input may stop it too.

`not_blocked` is what the second move is for: a stop that comes between the look
at the flag and the wait does not leave the loop asleep.  `left_run` and
`last_run` bound what a stopped loop still does, and `ends_run` puts them
together.
-/

namespace EventLoop

variable {S A : Type*}

/-- A server and what its loop sees of it. -/
structure Loop (S A : Type*) where
  dispatch : S → A → S
  /-- The input reports the wake channel, which handling it empties. -/
  wakes : S → A → Bool
  /-- Handling the input stops the loop. -/
  stops : S → A → Bool
  /-- The wait returns while there is something in the wake channel. -/
  hears : S → Prop

inductive Position (A : Type*) where
  | outside
  | waiting
  /-- What is left of the batch; when nothing is, the flag is looked at. -/
  | handling (rest : List A)

structure State (S A : Type*) where
  server : S
  position : Position A := .outside
  stopRequested : Bool := false
  /-- What has been written to the wake channel and not been read. -/
  wakeups : Nat := 0
  /-- Callers that have set the flag and not written yet. -/
  storing : Nat := 0
  /-- What the loop has handled, in order. -/
  handled : List A := []

inductive Move (A : Type*) where
  /-- The owner gives the server an input while the loop does not run. -/
  | operate (input : A)
  | enter
  | check
  /-- The wait is interrupted, and the flag looked at again. -/
  | interrupted
  /-- The wait fails, and the loop is left. -/
  | broken
  | wait (batch : List A)
  | handle
  | store
  | write

/-- The moves of the loop itself. -/
def Move.own : Move A → Bool
  | .check | .interrupted | .broken | .wait _ | .handle => true
  | .operate _ | .enter | .store | .write => false

/-- The loop is not entered again. -/
def Move.stays : Move A → Bool
  | .enter => false
  | _ => true

/-- How many moves a stopped loop has left, if a batch has at most `size`
inputs. -/
def Position.left (size : Nat) : Position A → Nat
  | .outside => 0
  | .waiting => size + 2
  | .handling rest => rest.length + 1

/-- A move that is possible, with batches of at most `size` inputs. -/
def State.Admits (ok : S → A → Prop) (size : Nat) (s : State S A) : Move A → Prop
  | .operate a => s.position = .outside ∧ ok s.server a
  | .enter => s.position = .outside
  | .check => s.position = .handling []
  | .interrupted => s.position = .waiting
  | .broken => s.position = .waiting
  | .wait batch => s.position = .waiting ∧ batch.length ≤ size
  | .handle =>
      match s.position with
      | .handling (a :: _) => ok s.server a
      | _ => False
  | .store => True
  | .write => 0 < s.storing

instance (p : Position A) : Decidable (p = .outside) :=
  match p with
  | .outside => isTrue rfl
  | .waiting => isFalse nofun
  | .handling _ => isFalse nofun

instance (p : Position A) : Decidable (p = .waiting) :=
  match p with
  | .outside => isFalse nofun
  | .waiting => isTrue rfl
  | .handling _ => isFalse nofun

instance (p : Position A) : Decidable (p = .handling []) :=
  match p with
  | .outside => isFalse nofun
  | .waiting => isFalse nofun
  | .handling [] => isTrue rfl
  | .handling (_ :: _) => isFalse nofun

instance (ok : S → A → Prop) [∀ s a, Decidable (ok s a)] (size : Nat) (s : State S A)
    (move : Move A) : Decidable (s.Admits ok size move) :=
  match move, s with
  | .operate a, s => inferInstanceAs (Decidable (s.position = .outside ∧ ok s.server a))
  | .enter, s => inferInstanceAs (Decidable (s.position = .outside))
  | .check, s => inferInstanceAs (Decidable (s.position = .handling []))
  | .interrupted, s => inferInstanceAs (Decidable (s.position = .waiting))
  | .broken, s => inferInstanceAs (Decidable (s.position = .waiting))
  | .wait batch, s => inferInstanceAs (Decidable (s.position = .waiting ∧ batch.length ≤ size))
  | .handle, { server, position := .handling (a :: _), .. } =>
      inferInstanceAs (Decidable (ok server a))
  | .handle, { position := .handling [], .. } => isFalse id
  | .handle, { position := .outside, .. } => isFalse id
  | .handle, { position := .waiting, .. } => isFalse id
  | .store, _ => isTrue trivial
  | .write, s => inferInstanceAs (Decidable (0 < s.storing))

namespace Loop

variable (l : Loop S A)

/-- The server handles an input. -/
def take (s : State S A) (a : A) : State S A :=
  { s with
    server := l.dispatch s.server a
    stopRequested := s.stopRequested || l.stops s.server a
    wakeups := (if l.wakes s.server a then 0 else s.wakeups) +
      if l.stops s.server a then 1 else 0 }

def step (s : State S A) : Move A → State S A
  | .operate a => l.take s a
  | .enter => { s with position := .handling [], stopRequested := false }
  | .check => { s with position := if s.stopRequested then .outside else .waiting }
  | .interrupted => { s with position := .handling [] }
  | .broken => { s with position := .outside }
  | .wait batch => { s with position := .handling batch }
  | .handle =>
      match s.position with
      | .handling (a :: rest) =>
          { l.take s a with position := .handling rest, handled := s.handled ++ [a] }
      | _ => s
  | .store => { s with stopRequested := true, storing := s.storing + 1 }
  | .write => { s with storing := s.storing - 1, wakeups := s.wakeups + 1 }

/-- Asleep, with nothing that would end the wait. -/
def Blocked (s : State S A) : Prop :=
  s.position = .waiting ∧ ¬ (0 < s.wakeups ∧ l.hears s.server)

/-- A stopped loop that waits is being woken. -/
structure Sound (I : S → Prop) (s : State S A) : Prop where
  server : I s.server
  woken : s.position = .waiting → s.stopRequested = true → 0 < s.wakeups ∨ 0 < s.storing

variable {l} {I : S → Prop} {ok : S → A → Prop} {size : Nat} {s : State S A}

/-- **One move of the loop or of who stops it.** -/
theorem sound_step (hkeeps : ∀ s a, I s → ok s a → I (l.dispatch s a)) (s : State S A)
    (move : Move A) (h : Sound I s) (hadm : s.Admits ok size move) :
    Sound I (l.step s move) := by
  cases move with
  | operate a =>
      refine ⟨hkeeps _ a h.server hadm.2, ?_⟩
      intro hwaiting
      rw [step, take, hadm.1] at hwaiting
      cases hwaiting
  | enter => exact ⟨h.server, fun hwaiting => nomatch hwaiting⟩
  | check =>
      refine ⟨h.server, ?_⟩
      intro hwaiting hstop
      have hstopped : s.stopRequested = true := hstop
      rw [step, if_pos hstopped] at hwaiting
      cases hwaiting
  | interrupted => exact ⟨h.server, fun hwaiting => nomatch hwaiting⟩
  | broken => exact ⟨h.server, fun hwaiting => nomatch hwaiting⟩
  | wait batch => exact ⟨h.server, fun hwaiting => nomatch hwaiting⟩
  | handle =>
      rw [State.Admits] at hadm
      rw [step]
      split at hadm
      · exact ⟨hkeeps _ _ h.server hadm, fun hwaiting => nomatch hwaiting⟩
      · exact hadm.elim
  | store => exact ⟨h.server, fun _ _ => Or.inr (Nat.succ_pos _)⟩
  | write => exact ⟨h.server, fun _ _ => Or.inl (Nat.succ_pos _)⟩

/-- **No stop is slept through.**  When everybody who stopped the loop is done
with it, the wait returns. -/
theorem not_blocked (hkeeps : ∀ s a, I s → ok s a → I (l.dispatch s a))
    (hhears : ∀ s, I s → l.hears s) {start : S} (hstart : I start) {moves : List (Move A)}
    (hadm : Runs.Along l.step (State.Admits ok size) { server := start } moves)
    (hstop : (moves.foldl l.step { server := start }).stopRequested = true)
    (hdone : (moves.foldl l.step { server := start }).storing = 0) :
    ¬ l.Blocked (moves.foldl l.step { server := start }) := by
  have hsound : Sound I (moves.foldl l.step { server := start }) :=
    Runs.invariant (sound_step hkeeps) ⟨hstart, fun hwaiting => nomatch hwaiting⟩ hadm
  rintro ⟨hwaiting, hasleep⟩
  rcases hsound.woken hwaiting hstop with hwoken | hstoring
  · exact hasleep ⟨hwoken, hhears _ hsound.server⟩
  · omega

/-! ## After the stop -/

/-- One move of a stopped loop brings it closer to its end; the flag stays. -/
theorem left_step (s : State S A) (move : Move A) (hstop : s.stopRequested = true)
    (hstays : move.stays = true) (hadm : s.Admits ok size move) :
    (l.step s move).stopRequested = true ∧
      move.own.toNat + (l.step s move).position.left size ≤ s.position.left size := by
  cases move with
  | operate a => exact ⟨by simp [step, take, hstop], by simp [step, take, Move.own]⟩
  | enter => cases hstays
  | check =>
      have hchecking : s.position = .handling [] := hadm
      refine ⟨hstop, ?_⟩
      simp [step, hstop, hchecking, Position.left, Move.own]
  | interrupted =>
      have hwaiting : s.position = .waiting := hadm
      refine ⟨hstop, ?_⟩
      simp only [step, hwaiting, Position.left, Move.own, List.length_nil, Bool.toNat_true]
      omega
  | broken =>
      have hwaiting : s.position = .waiting := hadm
      refine ⟨hstop, ?_⟩
      simp only [step, hwaiting, Position.left, Move.own, Bool.toNat_true]
      omega
  | wait batch =>
      obtain ⟨hwaiting, hsize⟩ := hadm
      refine ⟨hstop, ?_⟩
      simp only [step, hwaiting, Position.left, Move.own, Bool.toNat_true]
      omega
  | handle =>
      rw [State.Admits] at hadm
      split at hadm
      · next a rest heq =>
          simp only [step, heq, take, hstop, Position.left, Move.own, List.length_cons,
            Bool.toNat_true, Bool.true_or, true_and]
          omega
      · exact hadm.elim
  | store => exact ⟨rfl, by simp [step, Move.own]⟩
  | write => exact ⟨hstop, by simp [step, Move.own]⟩

/-- A stopped loop has few moves left. -/
theorem left_run {moves : List (Move A)} (hstop : s.stopRequested = true)
    (hstays : ∀ move ∈ moves, move.stays = true)
    (hadm : Runs.Along l.step (State.Admits ok size) s moves) :
    (moves.foldl l.step s).stopRequested = true ∧
      moves.countP Move.own + (moves.foldl l.step s).position.left size ≤
        s.position.left size := by
  induction moves generalizing s with
  | nil => exact ⟨hstop, by simp⟩
  | cons move moves ih =>
      obtain ⟨hstill, hless⟩ := left_step s move hstop (hstays move List.mem_cons_self) hadm.1
      obtain ⟨hend, hcount⟩ := ih hstill (fun m hm => hstays m (List.mem_cons_of_mem move hm)) hadm.2
      refine ⟨hend, ?_⟩
      rw [List.foldl_cons, List.countP_cons]
      cases howned : move.own with
      | true =>
          rw [howned, Bool.toNat_true] at hless
          rw [if_pos rfl]
          omega
      | false =>
          rw [howned, Bool.toNat_false] at hless
          rw [if_neg Bool.false_ne_true]
          omega

/-- The inputs that a stopped loop may still handle: what is left of the batch
in hand, or of the one that ends the wait. -/
def Last (size : Nat) (s : State S A) (batch : List A) : Prop :=
  match s.position with
  | .outside => batch = []
  | .waiting => batch.length ≤ size
  | .handling rest => batch = rest

/-- A stopped loop handles a first part of one batch and no more. -/
theorem last_run {moves : List (Move A)} (hstop : s.stopRequested = true)
    (hstays : ∀ move ∈ moves, move.stays = true)
    (hadm : Runs.Along l.step (State.Admits ok size) s moves) :
    ∃ batch, Last size s batch ∧ ∃ new, new <+: batch ∧
      (moves.foldl l.step s).handled = s.handled ++ new := by
  induction moves generalizing s with
  | nil =>
      have hlast : ∃ batch, Last size s batch := by
        unfold Last
        cases s.position with
        | outside => exact ⟨[], rfl⟩
        | waiting => exact ⟨[], Nat.zero_le size⟩
        | handling rest => exact ⟨rest, rfl⟩
      obtain ⟨batch, hbatch⟩ := hlast
      exact ⟨batch, hbatch, [], List.nil_prefix, (List.append_nil _).symm⟩
  | cons move moves ih =>
      have hmove := hstays move List.mem_cons_self
      obtain ⟨hstill, _⟩ := left_step s move hstop hmove hadm.1
      obtain ⟨batch, hbatch, new, hprefix, hhandled⟩ :=
        ih hstill (fun m hm => hstays m (List.mem_cons_of_mem move hm)) hadm.2
      rw [List.foldl_cons]
      have hfirst := hadm.1
      unfold Last at hbatch ⊢
      cases move with
      | operate a => exact ⟨batch, hbatch, new, hprefix, hhandled⟩
      | enter => cases hmove
      | check =>
          have hchecking : s.position = .handling [] := hfirst
          simp only [step, hstop, if_true] at hbatch
          rw [hchecking]
          exact ⟨batch, hbatch, new, hprefix, hhandled⟩
      | interrupted =>
          have hwaiting : s.position = .waiting := hfirst
          have hnone : batch = [] := hbatch
          rw [hwaiting]
          exact ⟨batch, by simp [hnone], new, hprefix, hhandled⟩
      | broken =>
          have hwaiting : s.position = .waiting := hfirst
          have hnone : batch = [] := hbatch
          rw [hwaiting]
          exact ⟨batch, by simp [hnone], new, hprefix, hhandled⟩
      | wait reported =>
          obtain ⟨hwaiting, hsize⟩ := hfirst
          have hsame : batch = reported := hbatch
          rw [hwaiting]
          exact ⟨batch, by rw [hsame]; exact hsize, new, hprefix, hhandled⟩
      | handle =>
          rw [State.Admits] at hfirst
          split at hfirst
          · next a rest heq =>
              simp only [step, heq] at hbatch hhandled ⊢
              refine ⟨a :: rest, rfl, a :: new, ?_, ?_⟩
              · rw [← hbatch]
                exact (List.prefix_cons_inj a).mpr hprefix
              · rw [hhandled, List.append_assoc]
                rfl
          · exact hfirst.elim
      | store => exact ⟨batch, hbatch, new, hprefix, hhandled⟩
      | write => exact ⟨batch, hbatch, new, hprefix, hhandled⟩

/-- What is left of a stopped loop between `s` and `s'`: it does not sleep, makes
few moves, and handles a first part of its last batch. -/
structure Ends (l : Loop S A) (size : Nat) (s s' : State S A) (moves : List (Move A)) : Prop where
  awake : s'.storing = 0 → ¬ l.Blocked s'
  few : moves.countP Move.own + s'.position.left size ≤ s.position.left size
  last : ∃ batch, Last size s batch ∧ ∃ new, new <+: batch ∧ s'.handled = s.handled ++ new

/-- **A stop ends the loop.** -/
theorem ends_run (hkeeps : ∀ s a, I s → ok s a → I (l.dispatch s a))
    (hhears : ∀ s, I s → l.hears s) {start : S} (hstart : I start) {before after : List (Move A)}
    (hadm : Runs.Along l.step (State.Admits ok size) { server := start } (before ++ after))
    (hstop : (before.foldl l.step { server := start }).stopRequested = true)
    (hstays : ∀ move ∈ after, move.stays = true) :
    l.Ends size (before.foldl l.step { server := start })
      ((before ++ after).foldl l.step { server := start }) after := by
  have hafter := (Runs.along_append.mp hadm).2
  obtain ⟨hstill, hfew⟩ := left_run hstop hstays hafter
  refine ⟨fun hdone => not_blocked hkeeps hhears hstart hadm ?_ hdone, ?_, ?_⟩
  · rw [List.foldl_append]
    exact hstill
  · rw [List.foldl_append]
    exact hfew
  · rw [List.foldl_append]
    exact last_run hstop hstays hafter

end Loop

end EventLoop
