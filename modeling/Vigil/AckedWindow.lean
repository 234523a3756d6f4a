import Vigil.Evidence

/-!
# The window of acked sequences

`acked_sequences_` is an array with a count and a cursor; `rebind` resets the
two and leaves the array alone, and `has_acked_sequence` scans a prefix.  An
`AckLog` keeps beside the connection the `remember_acked_sequence` calls made
since construction or the last `rebind`, whether by a PONG of a public call or
on their own.  At any time exactly the last 32 of them are found
(`acked_window`).
-/

namespace Vigil

/-- A public call, or a call of `remember_acked_sequence` by itself. -/
inductive AckStep (σ : Type) where
  | call (call : Call σ)
  | remember (sequence : BitVec 64)

/-- A connection and the sequences remembered since the last `rebind`, oldest
first. -/
structure AckLog (σ : Type) where
  connection : Connection σ
  remembered : List (BitVec 64) := []

namespace AckLog

variable {σ : Type}

open Connection

def step (l : AckLog σ) : AckStep σ → AckLog σ
  | .call call =>
      { connection := l.connection.call call
        remembered :=
          if call.isRebind then [] else l.remembered ++ l.connection.rememberedIn call }
  | .remember sequence =>
      { connection := l.connection.rememberAckedSequence sequence
        remembered := l.remembered ++ [sequence] }

/-- The ring records the log. -/
def Recorded (l : AckLog σ) : Prop :=
  l.connection.ackedSequences.Records l.remembered

theorem Recorded.step {l : AckLog σ} (h : l.Recorded) (s : AckStep σ) : (l.step s).Recorded := by
  cases s with
  | remember sequence => exact h.push sequence
  | call call =>
      by_cases hrebind : call.isRebind = true
      · obtain ⟨cfg, env, op⟩ := call
        cases op with
        | rebind newFd now => exact RingBuffer.records_reset _
        | _ => cases hrebind
      · have hkept : call.isRebind = false := by simpa using hrebind
        show RingBuffer.Records (l.connection.call call).ackedSequences
          (if call.isRebind then [] else l.remembered ++ l.connection.rememberedIn call)
        rw [if_neg hrebind, call_ackedSequences _ _ hkept]
        exact h.append _

/-- A connection as it is constructed, or as `rebind` leaves it, whatever it
was before. -/
def Starts (c : Connection σ) : Prop :=
  Fresh c ∨ ∃ d newFd now, c = rebind d newFd now

theorem recorded_start {c : Connection σ} (h : Starts c) : Recorded ⟨c, []⟩ := by
  rcases h with ⟨fd, role, feedId, host, port, interceptor, env, now, rfl⟩ | ⟨d, newFd, now, rfl⟩
  · exact RingBuffer.records_fresh 0 (by decide)
  · exact RingBuffer.records_reset _

theorem recorded_run {l : AckLog σ} (h : l.Recorded) (steps : List (AckStep σ)) :
    (steps.foldl step l).Recorded :=
  List.foldlRecOn steps _ h fun _ hl s _ => hl.step s

theorem Recorded.seen_iff {l : AckLog σ} (h : l.Recorded) (sequence : BitVec 64) :
    l.connection.hasAckedSequence sequence = true ↔
      sequence ∈ l.remembered.drop (l.remembered.length - kAckedSequenceWindow) :=
  h.contains_iff sequence

theorem foldl_remember (c : Connection σ) (log sequences : List (BitVec 64)) :
    (sequences.map AckStep.remember).foldl step ⟨c, log⟩ =
      ⟨sequences.foldl rememberAckedSequence c, log ++ sequences⟩ := by
  induction sequences generalizing c log with
  | nil => rw [List.append_nil, List.foldl_nil, List.map_nil, List.foldl_nil]
  | cons sequence sequences ih =>
      rw [List.map_cons, List.foldl_cons]
      exact (ih _ _).trans (by rw [List.append_assoc]; rfl)

/-- **The window of acked sequences.**  In every run from construction or a
`rebind`, a sequence is found exactly if it is among the last 32 remembered
since the last `rebind`; this includes any calls of `remember_acked_sequence`
on their own.  Right after a `rebind` nothing is found. -/
theorem acked_window (c : Connection σ) (hstart : Starts c) (sequence : BitVec 64) :
    (∀ steps : List (AckStep σ),
      (steps.foldl step ⟨c, []⟩).connection.hasAckedSequence sequence = true ↔
        sequence ∈ (steps.foldl step ⟨c, []⟩).remembered.drop
          ((steps.foldl step ⟨c, []⟩).remembered.length - kAckedSequenceWindow)) ∧
    (∀ sequences : List (BitVec 64),
      (sequences.foldl rememberAckedSequence c).hasAckedSequence sequence = true ↔
        sequence ∈ sequences.drop (sequences.length - kAckedSequenceWindow)) ∧
    ∀ (d : Connection σ) (newFd now : Int),
      (d.rebind newFd now).hasAckedSequence sequence = false := by
  have hrun := recorded_run (recorded_start hstart)
  refine ⟨fun steps => (hrun steps).seen_iff sequence, ?_, ?_⟩
  · intro sequences
    have hseen := (hrun (sequences.map .remember)).seen_iff sequence
    rw [foldl_remember] at hseen
    exact hseen
  · intro d newFd now
    have hnone := (recorded_start (Or.inr ⟨d, newFd, now, rfl⟩)).seen_iff sequence
    simpa using hnone

/-- Forty sequences are remembered before the `rebind` and two after it. -/
theorem acked_window_rebound :
    let c : Connection Unit :=
      create 5 .kInitiator 7 "localhost" 9007 none ⟨[], fun _ => 0, ()⟩ 0
    let used := ((List.range 40).map (BitVec.ofNat 64)).foldl rememberAckedSequence c
    ([1, 2].foldl rememberAckedSequence (used.rebind 6 50)).hasAckedSequence 0 = true ↔
      (0 : BitVec 64) ∈ [1, 2].drop ([1, 2].length - kAckedSequenceWindow) :=
  (acked_window _ (Or.inr ⟨_, 6, 50, rfl⟩) 0).2.1 [1, 2]

end AckLog

end Vigil
