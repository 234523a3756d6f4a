import Mathlib.Tactic.Common
import Vigil.Runs

/-!
# Fixed-size frames cut from a growing buffer

A receiver keeps the bytes it has not yet understood.  Each time more arrive it
cuts frames of `n` elements off the front and feeds them to a state machine
until fewer than `n` are left; a machine that dies discards the rest.

`drain_append` and `drain_append_dead` say that cutting early and cutting late
agree, so the result does not depend on how the stream was chunked.
`drain_stream` says that on a concatenation of frames the machine is fed
exactly those frames, whatever part of the last one is still missing.
-/

namespace Framing

variable {α S : Type*} (n : Nat) (feed : S → List α → S) (dead : S → Bool)

/-- Cut and feed at most `turns` frames. -/
def consume : Nat → List α → S → S × List α
  | 0, buf, s => (s, buf)
  | turns + 1, buf, s =>
      if n ≤ buf.length then
        if dead (feed s (buf.take n)) then (feed s (buf.take n), [])
        else consume turns (buf.drop n) (feed s (buf.take n))
      else (s, buf)

/-- Cut and feed every complete frame. -/
def drain (buf : List α) (s : S) : S × List α :=
  consume n feed dead buf.length buf s

variable {n feed dead}

/-- Turns beyond the length of the buffer do nothing. -/
theorem consume_eq_drain (hn : 0 < n) {turns : Nat} {buf : List α} (s : S)
    (h : buf.length ≤ turns) : consume n feed dead turns buf s = drain n feed dead buf s := by
  have general : ∀ k k' (buf : List α) (s : S), buf.length ≤ k → buf.length ≤ k' →
      consume n feed dead k buf s = consume n feed dead k' buf s := by
    intro k
    induction k with
    | zero =>
        intro k' buf s hk _
        have hlen : ¬ n ≤ buf.length := by omega
        cases k' with
        | zero => rfl
        | succ k' => simp [consume, hlen]
    | succ k ih =>
        intro k' buf s hk hk'
        by_cases hlen : n ≤ buf.length
        · cases k' with
          | zero => omega
          | succ k' =>
              simp only [consume, hlen, if_true]
              rw [ih k' _ _ (by simp; omega) (by simp; omega)]
        · cases k' with
          | zero => simp [consume, hlen]
          | succ k' => simp [consume, hlen]
  exact general turns buf.length buf s h (Nat.le_refl _)

/-- A short buffer is left alone. -/
theorem drain_short {buf : List α} (s : S) (h : buf.length < n) :
    drain n feed dead buf s = (s, buf) := by
  have hlen : ¬ n ≤ buf.length := by omega
  unfold drain
  cases buf.length with
  | zero => rfl
  | succ k => simp [consume, hlen]

/-- A complete frame is cut off and fed. -/
theorem drain_frame (hn : 0 < n) {buf : List α} (s : S) (h : n ≤ buf.length) :
    drain n feed dead buf s =
      if dead (feed s (buf.take n)) then (feed s (buf.take n), [])
      else drain n feed dead (buf.drop n) (feed s (buf.take n)) := by
  obtain ⟨k, hk⟩ : ∃ k, buf.length = k + 1 := ⟨buf.length - 1, by omega⟩
  have hrest : (buf.drop n).length ≤ k := by simp; omega
  rw [drain, hk, consume, if_pos h]
  split
  · rfl
  · exact consume_eq_drain hn _ hrest

/-- Induction along the frames cut from a buffer. -/
theorem drain_rec (feed : S → List α → S) (dead : S → Bool) {motive : List α → S → Prop}
    (hn : 0 < n)
    (short : ∀ buf s, buf.length < n → motive buf s)
    (last : ∀ buf s, n ≤ buf.length → dead (feed s (buf.take n)) = true → motive buf s)
    (next : ∀ buf s, n ≤ buf.length → dead (feed s (buf.take n)) = false →
      motive (buf.drop n) (feed s (buf.take n)) → motive buf s)
    (buf : List α) (s : S) : motive buf s := by
  induction hlen : buf.length using Nat.strongRecOn generalizing buf s with
  | ind len ih =>
      by_cases h : n ≤ buf.length
      · cases hdead : dead (feed s (buf.take n)) with
        | true => exact last buf s h hdead
        | false =>
            exact next buf s h hdead (ih (buf.drop n).length (by simp; omega) _ _ rfl)
      · exact short buf s (by omega)

/-- Less than a frame is left over. -/
theorem drain_leftover (hn : 0 < n) (buf : List α) (s : S) :
    (drain n feed dead buf s).2.length < n := by
  induction buf, s using drain_rec feed dead hn with
  | short buf s h => rwa [drain_short s h]
  | last buf s h hdead => simpa [drain_frame hn s h, hdead] using hn
  | next buf s h hdead ih => simpa [drain_frame hn s h, hdead] using ih

/-- What feeding a frame to a live machine preserves, draining preserves. -/
theorem drain_invariant (feed : S → List α → S) (dead : S → Bool) {I : S → Prop} (hn : 0 < n)
    (hfeed : ∀ s frame, frame.length = n → dead s = false → I s → I (feed s frame))
    (buf : List α) (s : S) (hlive : dead s = false) (hs : I s) :
    I (drain n feed dead buf s).1 := by
  induction buf, s using drain_rec feed dead hn with
  | short buf s h => rwa [drain_short s h]
  | last buf s h hdead =>
      rw [drain_frame hn s h, if_pos hdead]
      exact hfeed s _ (List.length_take_of_le h) hlive hs
  | next buf s h hdead ih =>
      rw [drain_frame hn s h, if_neg (by simp [hdead])]
      exact ih hdead (hfeed s _ (List.length_take_of_le h) hlive hs)

/-- **Lockstep.**  Two machines that are fed the same buffer stay related if
every frame keeps them related and related machines die together. -/
theorem drain_lockstep {T : Type*} {feed' : T → List α → T} {dead' : T → Bool} {R : S → T → Prop}
    (hn : 0 < n) (hfeed : ∀ s t frame, R s t → R (feed s frame) (feed' t frame))
    (hdead : ∀ s t, R s t → dead s = dead' t) (buf : List α) {s : S} {t : T} (h : R s t) :
    R (drain n feed dead buf s).1 (drain n feed' dead' buf t).1 ∧
      (drain n feed dead buf s).2 = (drain n feed' dead' buf t).2 := by
  induction buf, s using drain_rec feed dead hn generalizing t with
  | short buf s hshort =>
      rw [drain_short s hshort, drain_short t hshort]
      exact ⟨h, rfl⟩
  | last buf s hlen hlast =>
      have hfed := hfeed s t (buf.take n) h
      have hlast' := (hdead _ _ hfed).symm.trans hlast
      rw [drain_frame hn s hlen, drain_frame hn t hlen, if_pos hlast, if_pos hlast']
      exact ⟨hfed, rfl⟩
  | next buf s hlen hnext ih =>
      have hfed := hfeed s t (buf.take n) h
      have hnext' := (hdead _ _ hfed).symm.trans hnext
      rw [drain_frame hn s hlen, drain_frame hn t hlen, if_neg (by simp [hnext]),
        if_neg (by simp [hnext'])]
      exact ih hfed

/-- **Chunking, live part.**  If the machine survives a first part of the
stream, draining the whole is draining the rest after it. -/
theorem drain_append (hn : 0 < n) (first second : List α) (s : S)
    (hlive : dead (drain n feed dead first s).1 = false) :
    drain n feed dead (first ++ second) s =
      drain n feed dead ((drain n feed dead first s).2 ++ second)
        (drain n feed dead first s).1 := by
  induction first, s using drain_rec feed dead hn with
  | short buf s h => rw [drain_short s h]
  | last buf s h hdead =>
      rw [drain_frame hn s h, if_pos hdead] at hlive
      simp [hdead] at hlive
  | next buf s h hdead ih =>
      have hnot : ¬ dead (feed s (buf.take n)) = true := by simp [hdead]
      rw [drain_frame hn s h, if_neg hnot] at hlive ⊢
      rw [drain_frame hn s (by simp; omega), List.take_append_of_le_length h,
        List.drop_append_of_le_length h, if_neg hnot]
      exact ih hlive

/-- **Chunking, dead part.**  A machine that died on a first part of the
stream ignores the rest. -/
theorem drain_append_dead (hn : 0 < n) (first second : List α) (s : S)
    (hs : dead s = false) (hdied : dead (drain n feed dead first s).1 = true) :
    drain n feed dead (first ++ second) s = drain n feed dead first s := by
  induction first, s using drain_rec feed dead hn with
  | short buf s h =>
      rw [drain_short s h] at hdied
      simp [hs] at hdied
  | last buf s h hdead =>
      rw [drain_frame hn s h, drain_frame hn s (by simp; omega), List.take_append_of_le_length h,
        if_pos hdead, if_pos hdead]
  | next buf s h hdead ih =>
      have hnot : ¬ dead (feed s (buf.take n)) = true := by simp [hdead]
      rw [drain_frame hn s h, if_neg hnot] at hdied ⊢
      rw [drain_frame hn s (by simp; omega), List.take_append_of_le_length h,
        List.drop_append_of_le_length h, if_neg hnot]
      exact ih hdead hdied

/-- **Which frames are fed.**  The machine is fed consecutive frames from the
front of the buffer, each while it is live, and either dies on the last of
them or is fed every complete frame. -/
theorem drain_frames (feed : S → List α → S) (dead : S → Bool) (hn : 0 < n) (buf : List α)
    (s : S) (hs : dead s = false) :
    ∃ fed : List (List α), (∀ f ∈ fed, f.length = n) ∧ fed.flatten <+: buf ∧
      (drain n feed dead buf s).1 = fed.foldl feed s ∧
      (∀ early later, fed = early ++ later → later ≠ [] → dead (early.foldl feed s) = false) ∧
      (dead (drain n feed dead buf s).1 = false → buf.length < fed.flatten.length + n) := by
  induction buf, s using drain_rec feed dead hn with
  | short buf s h =>
      rw [drain_short s h]
      refine ⟨[], by simp, by simp, rfl, fun early later he hne => ?_, fun _ => by simpa using h⟩
      exact absurd (List.append_eq_nil_iff.mp he.symm).2 hne
  | last buf s h hdead =>
      rw [drain_frame hn s h, if_pos hdead]
      refine ⟨[buf.take n], by simp; omega, by simpa using List.take_prefix n buf, rfl, ?_,
        fun hnot => by simp [hdead] at hnot⟩
      intro early later he hne
      cases early with
      | nil => exact hs
      | cons f early =>
          have htail : [] = early ++ later := (List.cons.inj he).2
          exact absurd (List.append_eq_nil_iff.mp htail.symm).2 hne
  | next buf s h hdead ih =>
      obtain ⟨fed, hlen, hpre, hfold, hearly, hall⟩ := ih hdead
      rw [drain_frame hn s h, if_neg (by simp [hdead])]
      refine ⟨buf.take n :: fed, ?_, ?_, hfold, ?_, ?_⟩
      · intro f hf
        rcases List.mem_cons.mp hf with rfl | hf
        · exact List.length_take_of_le h
        · exact hlen f hf
      · obtain ⟨rest, hrest⟩ := hpre
        refine ⟨rest, ?_⟩
        rw [List.flatten_cons, List.append_assoc, hrest, List.take_append_drop]
      · intro early later he hne
        cases early with
        | nil => exact hs
        | cons f early =>
            obtain ⟨rfl, htail⟩ := List.cons.inj he
            exact hearly early later htail hne
      · intro hlive
        have := hall hlive
        simp only [List.flatten_cons, List.length_append, List.length_drop,
          List.length_take] at this ⊢
        omega

/-- The first frame of a stream is what the first cut takes. -/
theorem cut_stream {buf missing : List α} {frames : List (List α)}
    (hframes : ∀ f ∈ frames, f.length = n) (hstream : buf ++ missing = frames.flatten)
    (hn : 0 < n) (h : n ≤ buf.length) :
    ∃ rest, frames = buf.take n :: rest ∧ buf.drop n ++ missing = rest.flatten := by
  cases frames with
  | nil =>
      have hempty : buf = [] := by simpa using (List.append_eq_nil_iff.mp hstream).1
      simp [hempty] at h
      omega
  | cons f rest =>
      have hf : f.length = n := hframes f List.mem_cons_self
      rw [List.flatten_cons] at hstream
      have htake : buf.take n = f := by
        have := congrArg (List.take n) hstream
        rwa [List.take_append_of_le_length h, List.take_left' hf] at this
      have hdrop : buf.drop n ++ missing = rest.flatten := by
        have := congrArg (List.drop n) hstream
        rwa [List.drop_append_of_le_length h, List.drop_left' hf] at this
      exact ⟨rest, by rw [htake], hdrop⟩

/-- **Streams of frames.**  If the buffer is what has arrived so far of a
concatenation of frames, the machine is fed a prefix of them, in order, each
while it is live; one that survives keeps exactly what the rest still lacks.
`I` relates the frames not yet fed to the machine. -/
theorem drain_stream (feed : S → List α → S) (dead : S → Bool)
    {I : List (List α) → S → Prop} (hn : 0 < n)
    (hfeed : ∀ f rest s, dead s = false → I (f :: rest) s → I rest (feed s f))
    {buf missing : List α} {frames : List (List α)} (s : S)
    (hframes : ∀ f ∈ frames, f.length = n) (hstream : buf ++ missing = frames.flatten)
    (hlive : dead s = false) (hs : I frames s) :
    ∃ rest, I rest (drain n feed dead buf s).1 ∧
      (dead (drain n feed dead buf s).1 = false →
        (drain n feed dead buf s).2 ++ missing = rest.flatten) := by
  induction buf, s using drain_rec feed dead hn generalizing frames with
  | short buf s h =>
      rw [drain_short s h]
      exact ⟨frames, hs, fun _ => hstream⟩
  | last buf s h hdead =>
      obtain ⟨rest, rfl, _⟩ := cut_stream hframes hstream hn h
      rw [drain_frame hn s h, if_pos hdead]
      exact ⟨rest, hfeed _ _ s hlive hs, fun hnot => by simp [hdead] at hnot⟩
  | next buf s h hdead ih =>
      obtain ⟨rest, rfl, hrest⟩ := cut_stream hframes hstream hn h
      rw [drain_frame hn s h, if_neg (by simp [hdead])]
      exact ih (fun f hf => hframes f (List.mem_cons_of_mem _ hf)) hrest hdead
        (hfeed _ _ s hlive hs)

/-- Every frame that draining feeds meets `ok` in the state it finds. -/
inductive DrainAlong (n : Nat) (feed : S → List α → S) (dead : S → Bool)
    (ok : S → List α → Prop) : List α → S → Prop
  | short {buf : List α} {s : S} (h : buf.length < n) : DrainAlong n feed dead ok buf s
  | last {buf : List α} {s : S} (h : n ≤ buf.length) (hok : ok s (buf.take n))
      (hdead : dead (feed s (buf.take n)) = true) : DrainAlong n feed dead ok buf s
  | next {buf : List α} {s : S} (h : n ≤ buf.length) (hok : ok s (buf.take n))
      (hlive : dead (feed s (buf.take n)) = false)
      (hrest : DrainAlong n feed dead ok (buf.drop n) (feed s (buf.take n))) :
      DrainAlong n feed dead ok buf s

/-- **Exact rule.**  Let a frame keep `I` exactly when it meets `ok`, and let
`I` fail in dead machines only: then a buffer keeps `I` exactly when all its
frames meet `ok`. -/
theorem drain_iff_along {ok : S → List α → Prop} {J I : S → Prop} (hn : 0 < n)
    (hinv : ∀ s frame, frame.length = n → J s → J (feed s frame))
    (hstep : ∀ s frame, frame.length = n → J s → I s → (I (feed s frame) ↔ ok s frame))
    (hlive : ∀ s, dead s = false → I s) (buf : List α) (s : S) (hj : J s) (hs : I s) :
    I (drain n feed dead buf s).1 ↔ DrainAlong n feed dead ok buf s := by
  induction buf, s using drain_rec feed dead hn with
  | short buf s h =>
      rw [drain_short s h]
      exact iff_of_true hs (.short h)
  | last buf s h hdead =>
      rw [drain_frame hn s h, if_pos hdead, hstep s _ (List.length_take_of_le h) hj hs]
      constructor
      · exact fun hok => .last h hok hdead
      · intro halong
        cases halong with
        | short hshort => omega
        | last _ hok _ => exact hok
        | next _ hok _ _ => exact hok
  | next buf s h hnext ih =>
      have hframe : (buf.take n).length = n := List.length_take_of_le h
      have hkept := hlive _ hnext
      rw [drain_frame hn s h, if_neg (by simp [hnext]), ih (hinv s _ hframe hj) hkept]
      constructor
      · exact fun hrest => .next h ((hstep s _ hframe hj hs).mp hkept) hnext hrest
      · intro halong
        cases halong with
        | short hshort => omega
        | last _ _ hdead => exact absurd (hdead.symm.trans hnext) (by decide)
        | next _ _ _ hrest => exact hrest

/-- **Which buffers are survived.**  A machine survives a buffer exactly if the
buffer is a concatenation of frames, each of which it survives, and less than a
frame after them. -/
theorem drain_live_iff (feed : S → List α → S) (dead : S → Bool) (hn : 0 < n) (buf : List α)
    (s : S) (hs : dead s = false) :
    dead (drain n feed dead buf s).1 = false ↔
      ∃ frames rest, buf = frames.flatten ++ rest ∧ (∀ f ∈ frames, f.length = n) ∧
        rest.length < n ∧ Runs.Along feed (fun s f => dead (feed s f) = false) s frames := by
  -- a buffer of one frame or more is not all rest
  have hnonempty : ∀ {buf : List α} {frames : List (List α)} {rest : List α}, n ≤ buf.length →
      buf = frames.flatten ++ rest → (∀ f ∈ frames, f.length = n) → rest.length < n →
      ∃ later, frames = buf.take n :: later ∧ buf.drop n = later.flatten ++ rest := by
    intro buf frames rest hlen hbuf hframes hrest
    cases frames with
    | nil =>
        rw [hbuf] at hlen
        simp only [List.flatten_nil, List.nil_append] at hlen
        omega
    | cons f later =>
        have hf : f.length = n := hframes f List.mem_cons_self
        rw [List.flatten_cons, List.append_assoc] at hbuf
        exact ⟨later, by rw [hbuf, List.take_left' hf], by rw [hbuf, List.drop_left' hf]⟩
  induction buf, s using drain_rec feed dead hn with
  | short buf s h =>
      rw [drain_short s h]
      exact iff_of_true hs ⟨[], buf, rfl, nofun, h, trivial⟩
  | last buf s h hdead =>
      rw [drain_frame hn s h, if_pos hdead]
      refine iff_of_false (by simp [hdead]) ?_
      rintro ⟨frames, rest, hbuf, hframes, hrest, halong⟩
      obtain ⟨later, rfl, _⟩ := hnonempty h hbuf hframes hrest
      exact absurd (hdead.symm.trans halong.1) nofun
  | next buf s h hdead ih =>
      rw [drain_frame hn s h, if_neg (by simp [hdead])]
      refine (ih hdead).trans ⟨?_, ?_⟩
      · rintro ⟨frames, rest, hbuf, hframes, hrest, halong⟩
        refine ⟨buf.take n :: frames, rest, ?_, ?_, hrest, hdead, halong⟩
        · rw [List.flatten_cons, List.append_assoc, ← hbuf, List.take_append_drop]
        · exact List.forall_mem_cons.mpr ⟨List.length_take_of_le h, hframes⟩
      · rintro ⟨frames, rest, hbuf, hframes, hrest, halong⟩
        obtain ⟨later, rfl, hlater⟩ := hnonempty h hbuf hframes hrest
        exact ⟨later, rest, hlater, fun f hf => hframes f (List.mem_cons_of_mem _ hf), hrest,
          halong.2⟩

end Framing
