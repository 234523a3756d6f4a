import Vigil.Lines
import Vigil.Heartbeat

/-!
# Operator commands

Both reactors read operator commands as lines of text from an fd, with the
same code: read until there is no more, cut the buffer at the newlines, hand
over each line, and at EOF also what is left.  The cap on the buffer is checked
while reading, before any line is cut off, so it limits what may arrive in one
readable event and not only the length of a line.

`lines_intact_iff` says which streams survive: exactly those of which every
event brings no more than fits beside the unterminated rest of the earlier
ones.  Otherwise complete lines are discarded (`short_lines_discarded`).
-/

namespace Vigil

open ByteOrder

/-- The bytes of one successful `read()` into the 1024-byte buffer. -/
abbrev ReadChunk := {bs : List Byte // 0 < bs.length ∧ bs.length ≤ 1024}

/-- What one `read()` call answers. -/
inductive ReadOutcome where
  | data (chunk : ReadChunk)
  | eof
  | eagain
  | eintr
  | error (errno : Nat)
  deriving DecidableEq

def kMaxCommandLineBufferBytes : Nat := 64 * 1024

def newline : Byte := 10

def carriageReturn : Byte := 13

/-- The command input of a reactor: whether `command_fd_` is still watched, the
bytes not yet handed over, the lines handed to `on_command_line_` and the
warnings written. -/
structure CommandInput where
  watched : Bool := true
  commandLineBuffer : List Byte := []
  handed : List (List Byte) := []
  warnings : List String := []

/-- The warning of a reactor that discards its buffer. -/
def discardWarning (reactor : String) : String :=
  "[" ++ reactor ++ "] command line exceeded " ++ toString kMaxCommandLineBufferBytes ++
    " bytes without a newline -- discarding buffered input\n"

/-- Remove one trailing carriage return. -/
def chomp (line : List Byte) : List Byte :=
  if line.getLast? = some carriageReturn then line.dropLast else line

namespace CommandInput

/-- The `read()` loop; the flag says that EOF was seen. -/
def readLoop (reactor : String) : List ReadOutcome → CommandInput → CommandInput × Bool
  | [], input => (input, false)
  | .data chunk :: more, input =>
      let appended := { input with commandLineBuffer := input.commandLineBuffer ++ chunk.val }
      if appended.commandLineBuffer.length > kMaxCommandLineBufferBytes then
        readLoop reactor more { appended with
          warnings := appended.warnings ++ [discardWarning reactor]
          commandLineBuffer := [] }
      else readLoop reactor more appended
  | .eof :: _, input => (input, true)
  | .eagain :: _, input => (input, false)
  | .eintr :: more, input => readLoop reactor more input
  | .error _ :: _, input => (input, false)

/-- The loop that cuts off lines.  Every turn takes a newline, so the length of
the buffer bounds the number of turns. -/
def lineLoop : Nat → CommandInput → CommandInput
  | 0, input => input
  | turns + 1, input =>
      if newline ∈ input.commandLineBuffer then
        let pos := input.commandLineBuffer.idxOf newline
        lineLoop turns { input with
          commandLineBuffer := input.commandLineBuffer.drop (pos + 1)
          handed := input.handed ++ [chomp (input.commandLineBuffer.take pos)] }
      else input

/-- What is left at EOF is a command too; the fd is then no longer watched. -/
def finish (input : CommandInput) : CommandInput :=
  { input with
    handed := if input.commandLineBuffer = [] then input.handed
      else input.handed ++ [input.commandLineBuffer]
    commandLineBuffer := []
    watched := false }

/-- `on_command_fd_readable`; an fd that is no longer watched gets no events. -/
def onCommandFdReadable (reactor : String) (input : CommandInput) (reads : List ReadOutcome) :
    CommandInput :=
  if !input.watched then input else
  let (received, eof) := input.readLoop reactor reads
  let cut := received.lineLoop received.commandLineBuffer.length
  if eof then cut.finish else cut

end CommandInput

/-- `FeedMonitor::on_command_fd_readable`. -/
def monitorCommandFdReadable : CommandInput → List ReadOutcome → CommandInput :=
  CommandInput.onCommandFdReadable "feed_monitor"

/-- `FeedSimulator::on_command_fd_readable`. -/
def simulatorCommandFdReadable : CommandInput → List ReadOutcome → CommandInput :=
  CommandInput.onCommandFdReadable "feed_simulator"

/-! ## What the loops do -/

/-- All bytes a list of `read()` outcomes yields before the loop ends. -/
def readBytes : List ReadOutcome → List Byte
  | .data chunk :: more => chunk.val ++ readBytes more
  | .eintr :: more => readBytes more
  | _ => []

/-- Does the loop over these outcomes end with EOF? -/
def readsEof : List ReadOutcome → Bool
  | .data _ :: more => readsEof more
  | .eintr :: more => readsEof more
  | .eof :: _ => true
  | _ => false

namespace CommandInput

variable {reactor : String}

/-- The loop takes in all bytes if they fit, and otherwise discards the
beginning of what it has, more than the cap. -/
theorem readLoop_eq (reactor : String) (reads : List ReadOutcome) (input : CommandInput)
    (hcap : input.commandLineBuffer.length ≤ kMaxCommandLineBufferBytes) :
    ((input.commandLineBuffer ++ readBytes reads).length ≤ kMaxCommandLineBufferBytes ∧
      input.readLoop reactor reads =
        ({ input with commandLineBuffer := input.commandLineBuffer ++ readBytes reads },
          readsEof reads)) ∨
    ∃ lost kept warnings, input.commandLineBuffer ++ readBytes reads = lost ++ kept ∧
      kMaxCommandLineBufferBytes < lost.length ∧ kept.length ≤ kMaxCommandLineBufferBytes ∧
      input.readLoop reactor reads =
        ({ input with commandLineBuffer := kept, warnings := warnings }, readsEof reads) := by
  induction reads generalizing input with
  | nil => exact Or.inl ⟨by simpa [readBytes] using hcap, by simp [readLoop, readBytes, readsEof]⟩
  | cons outcome more ih =>
      cases outcome with
      | data chunk =>
          by_cases hover : (input.commandLineBuffer ++ chunk.val).length > kMaxCommandLineBufferBytes
          · right
            simp only [readLoop, if_pos hover, readBytes, readsEof]
            have hnext := ih { input with
              commandLineBuffer := []
              warnings := input.warnings ++ [discardWarning reactor] } (Nat.zero_le _)
            rcases hnext with ⟨hfits, heq⟩ | ⟨lost, kept, warnings, hsplit, _, hfits, heq⟩
            · exact ⟨input.commandLineBuffer ++ chunk.val, readBytes more, _,
                (List.append_assoc ..).symm, hover, hfits, heq⟩
            · refine ⟨input.commandLineBuffer ++ chunk.val ++ lost, kept, warnings, ?_, ?_, hfits,
                heq⟩
              · have hmore : readBytes more = lost ++ kept := hsplit
                rw [hmore]
                simp only [List.append_assoc]
              · simp only [List.length_append] at hover ⊢
                omega
          · simp only [readLoop, if_neg hover, readBytes, readsEof, ← List.append_assoc]
            exact ih { input with commandLineBuffer := input.commandLineBuffer ++ chunk.val }
              (Nat.not_lt.mp hover)
      | eof => exact Or.inl ⟨by simpa [readBytes] using hcap, by simp [readLoop, readBytes, readsEof]⟩
      | eagain =>
          exact Or.inl ⟨by simpa [readBytes] using hcap, by simp [readLoop, readBytes, readsEof]⟩
      | eintr => simpa [readLoop, readBytes, readsEof] using ih input hcap
      | error errno =>
          exact Or.inl ⟨by simpa [readBytes] using hcap, by simp [readLoop, readBytes, readsEof]⟩

/-- The loop hands over the complete lines of the buffer and keeps the rest. -/
theorem lineLoop_eq (turns : Nat) (input : CommandInput)
    (hturns : input.commandLineBuffer.length ≤ turns) :
    input.lineLoop turns = { input with
      commandLineBuffer := Lines.rest newline input.commandLineBuffer
      handed := input.handed ++ (Lines.lines newline input.commandLineBuffer).map chomp } := by
  induction turns generalizing input with
  | zero =>
      have hempty : input.commandLineBuffer = [] := List.eq_nil_of_length_eq_zero (by omega)
      have hfree : newline ∉ input.commandLineBuffer := by simp [hempty]
      simp [lineLoop, Lines.rest_free hfree, Lines.lines_free hfree]
  | succ turns ih =>
      by_cases h : newline ∈ input.commandLineBuffer
      · obtain ⟨line, more, hsplit, hline⟩ := List.eq_append_cons_of_mem h
        have hpos : input.commandLineBuffer.idxOf newline = line.length := by
          rw [hsplit, List.idxOf_append_of_notMem hline, List.idxOf_cons_self, Nat.add_zero]
        have htake : input.commandLineBuffer.take line.length = line := by
          rw [hsplit, List.take_left]
        have hdrop : input.commandLineBuffer.drop (line.length + 1) = more := by
          rw [hsplit, ← List.drop_drop, List.drop_left, List.drop_one, List.tail_cons]
        have hlen : more.length ≤ turns := by
          rw [hsplit, List.length_append, List.length_cons] at hturns
          omega
        simp only [lineLoop, if_pos h, hpos, htake, hdrop]
        rw [ih _ hlen, hsplit, Lines.rest_line hline, Lines.lines_line hline]
        simp only [List.map_cons, List.append_assoc, List.singleton_append]
      · simp [lineLoop, if_neg h, Lines.rest_free h, Lines.lines_free h]

/-- After EOF nothing is read any more. -/
theorem unwatched_run {input : CommandInput} (h : input.watched = false)
    (events : List (List ReadOutcome)) :
    events.foldl (onCommandFdReadable reactor) input = input := by
  induction events with
  | nil => rfl
  | cons reads more ih =>
      have hsame : onCommandFdReadable reactor input reads = input := by
        simp [onCommandFdReadable, h]
      rw [List.foldl_cons, hsame, ih]

/-- One readable event on a buffer that ends up as `kept` before it is cut. -/
theorem onCommandFdReadable_eq {input : CommandInput} {reads : List ReadOutcome}
    {kept : List Byte} {warnings : List String} (hwatched : input.watched = true)
    (h : input.readLoop reactor reads =
      ({ input with commandLineBuffer := kept, warnings := warnings }, readsEof reads)) :
    onCommandFdReadable reactor input reads =
      if readsEof reads then
        { watched := false
          commandLineBuffer := []
          handed := input.handed ++ (Lines.lines newline kept).map chomp ++
            if Lines.rest newline kept = [] then [] else [Lines.rest newline kept]
          warnings := warnings }
      else
        { watched := true
          commandLineBuffer := Lines.rest newline kept
          handed := input.handed ++ (Lines.lines newline kept).map chomp
          warnings := warnings } := by
  have hopen : ¬ (!input.watched) = true := by simp [hwatched]
  have hcut := lineLoop_eq kept.length
    { input with commandLineBuffer := kept, warnings := warnings } (Nat.le_refl _)
  simp only [onCommandFdReadable, if_neg hopen, h]
  rw [hcut]
  split
  · simp only [finish]
    split <;> simp
  · rw [hwatched]

end CommandInput

/-! ## Streams -/

/-- What the events of a run bring in, up to EOF. -/
def receivedBytes : List (List ReadOutcome) → List Byte
  | [] => []
  | reads :: more => readBytes reads ++ if readsEof reads then [] else receivedBytes more

/-- The lines a stream consists of, as `on_command_line_` should see them: the
terminated ones with at most one carriage return removed, and at EOF the
unterminated rest if there is one. -/
def commandLines (stream : List Byte) (ended : Bool) : List (List Byte) :=
  (Lines.lines newline stream).map chomp ++
    if ended = true ∧ Lines.rest newline stream ≠ [] then [Lines.rest newline stream] else []

/-- Every event brings no more than fits into the buffer beside the
unterminated rest of the stream before it. -/
def FitsBuffer (before : List Byte) : List (List ReadOutcome) → Prop
  | [] => True
  | reads :: more =>
      (Lines.rest newline before).length + (readBytes reads).length ≤
          kMaxCommandLineBufferBytes ∧
        (readsEof reads = false → FitsBuffer (before ++ readBytes reads) more)

/-- No line of the stream, terminated or not, is longer than the cap. -/
def LinesWithinCap (stream : List Byte) : Prop :=
  ∀ line ∈ stream.splitOn newline, line.length ≤ kMaxCommandLineBufferBytes

namespace CommandInput

variable (reactor : String)

/-- The input is where it should be after reading `stream`. -/
structure UpToDate (input : CommandInput) (stream : List Byte) : Prop where
  watched : input.watched = true
  buffer : input.commandLineBuffer = Lines.rest newline stream
  handed : input.handed = (Lines.lines newline stream).map chomp

/-- A line of `stream` was not handed over, and the buffer does not make up for
it. -/
structure Behind (input : CommandInput) (stream : List Byte) : Prop where
  watched : input.watched = true
  suffix : input.commandLineBuffer <:+ stream
  free : newline ∉ input.commandLineBuffer
  short : input.commandLineBuffer.length ≤ kMaxCommandLineBufferBytes
  fewer : input.handed.length < stream.count newline

/-- An event that fits keeps the input up to date. -/
theorem UpToDate.event {input : CommandInput} {stream : List Byte} {reads : List ReadOutcome}
    (h : input.UpToDate stream)
    (hfits : (Lines.rest newline stream).length + (readBytes reads).length ≤
      kMaxCommandLineBufferBytes) :
    (readsEof reads = false →
      (onCommandFdReadable reactor input reads).UpToDate (stream ++ readBytes reads)) ∧
    (readsEof reads = true → (onCommandFdReadable reactor input reads).watched = false ∧
      (onCommandFdReadable reactor input reads).handed =
        commandLines (stream ++ readBytes reads) true) := by
  have hlen : (input.commandLineBuffer ++ readBytes reads).length ≤ kMaxCommandLineBufferBytes := by
    rw [h.buffer, List.length_append]
    exact hfits
  have hloop : input.readLoop reactor reads =
      ({ input with commandLineBuffer := input.commandLineBuffer ++ readBytes reads },
        readsEof reads) := by
    rcases readLoop_eq reactor reads input (by rw [List.length_append] at hlen; omega) with
      ⟨_, heq⟩ | ⟨lost, kept, _, hsplit, hover, _, _⟩
    · exact heq
    · rw [hsplit, List.length_append] at hlen
      omega
  have hevent := onCommandFdReadable_eq h.watched hloop
  have hlines : input.handed ++ (Lines.lines newline
      (input.commandLineBuffer ++ readBytes reads)).map chomp =
      (Lines.lines newline (stream ++ readBytes reads)).map chomp := by
    rw [h.handed, h.buffer, Lines.lines_append stream, List.map_append]
  have hrest : Lines.rest newline (input.commandLineBuffer ++ readBytes reads) =
      Lines.rest newline (stream ++ readBytes reads) := by
    rw [h.buffer, ← Lines.rest_append]
  rw [hlines, hrest] at hevent
  constructor
  · intro heof
    rw [hevent, heof]
    exact ⟨rfl, rfl, rfl⟩
  · intro heof
    rw [hevent, heof]
    refine ⟨rfl, ?_⟩
    by_cases hempty : Lines.rest newline (stream ++ readBytes reads) = []
    · simp [commandLines, hempty]
    · simp [commandLines, hempty]

/-- An event leaves an input that is behind still behind. -/
theorem Behind.event {input : CommandInput} {stream : List Byte} {reads : List ReadOutcome}
    {lost kept : List Byte} {warnings : List String} (hwatched : input.watched = true)
    (hsuffix : input.commandLineBuffer <:+ stream)
    (hsplit : input.commandLineBuffer ++ readBytes reads = lost ++ kept)
    (hshort : kept.length ≤ kMaxCommandLineBufferBytes)
    (hloop : input.readLoop reactor reads =
      ({ input with commandLineBuffer := kept, warnings := warnings }, readsEof reads))
    (hfewer : input.handed.length + kept.count newline <
      (stream ++ readBytes reads).count newline) :
    (readsEof reads = false →
      (onCommandFdReadable reactor input reads).Behind (stream ++ readBytes reads)) ∧
    (readsEof reads = true → (onCommandFdReadable reactor input reads).watched = false ∧
      (onCommandFdReadable reactor input reads).handed.length <
        (commandLines (stream ++ readBytes reads) true).length) := by
  have hevent := onCommandFdReadable_eq hwatched hloop
  have hkept : kept <:+ stream ++ readBytes reads := by
    obtain ⟨front, rfl⟩ := hsuffix
    rw [List.append_assoc, hsplit]
    exact (List.suffix_append lost kept).trans (List.suffix_append front _)
  have hrest : Lines.rest newline kept <:+ stream ++ readBytes reads :=
    (Lines.rest_suffix kept).trans hkept
  constructor
  · intro heof
    rw [hevent, heof]
    refine ⟨rfl, hrest, Lines.notMem_rest kept,
      Nat.le_trans (Lines.rest_suffix kept).length_le hshort, ?_⟩
    simpa [Lines.lines_length] using hfewer
  · intro heof
    rw [hevent, heof]
    refine ⟨rfl, ?_⟩
    have hin := Lines.suffix_rest hrest (Lines.notMem_rest kept)
    by_cases hempty : Lines.rest newline (stream ++ readBytes reads) = []
    · rw [hempty] at hin
      have hnone : Lines.rest newline kept = [] := List.suffix_nil.mp hin
      simpa [commandLines, hempty, hnone, Lines.lines_length] using hfewer
    · have hlen : (if Lines.rest newline kept = [] then []
          else [Lines.rest newline kept]).length ≤ 1 := by
        split <;> simp
      simp only [if_true, commandLines, hempty, not_false_eq_true, and_self, List.length_append,
        List.length_map, Lines.lines_length, List.length_singleton, ne_eq]
      omega

/-- An input that is behind never catches up. -/
theorem Behind.run {input : CommandInput} {stream : List Byte} (h : input.Behind stream)
    (events : List (List ReadOutcome)) :
    (events.foldl (onCommandFdReadable reactor) input).handed.length <
      (commandLines (stream ++ receivedBytes events) (events.any readsEof)).length := by
  induction events generalizing input stream with
  | nil =>
      have hfewer := h.fewer
      simpa [receivedBytes, commandLines, Lines.lines_length] using hfewer
  | cons reads more ih =>
      -- whatever the event discards, it hands over no more lines than it brings
      obtain ⟨lost, kept, warnings, hsplit, hshort, hloop⟩ : ∃ lost kept warnings,
          input.commandLineBuffer ++ readBytes reads = lost ++ kept ∧
          kept.length ≤ kMaxCommandLineBufferBytes ∧ input.readLoop reactor reads =
            ({ input with commandLineBuffer := kept, warnings := warnings }, readsEof reads) := by
        rcases readLoop_eq reactor reads input h.short with
          ⟨hfits, heq⟩ | ⟨lost, kept, warnings, hsplit, _, hfits, heq⟩
        · exact ⟨[], _, _, rfl, hfits, heq⟩
        · exact ⟨lost, kept, warnings, hsplit, hfits, heq⟩
      have hfewer : input.handed.length + kept.count newline <
          (stream ++ readBytes reads).count newline := by
        have hcount := congrArg (List.count newline) hsplit
        have hbuffer := List.count_eq_zero.mpr h.free
        have hbefore := h.fewer
        rw [List.count_append, List.count_append, hbuffer] at hcount
        rw [List.count_append]
        omega
      obtain ⟨hlive, hend⟩ := Behind.event reactor h.watched h.suffix hsplit hshort hloop hfewer
      rw [List.foldl_cons, receivedBytes, List.any_cons]
      cases heof : readsEof reads with
      | false =>
          have hrest := ih (hlive heof)
          rwa [List.append_assoc] at hrest
      | true =>
          obtain ⟨hclosed, hlt⟩ := hend heof
          rw [unwatched_run hclosed]
          simpa using hlt

/-- An event that does not fit leaves the input behind: what is lost is longer
than any line, so it contains a newline. -/
theorem UpToDate.overflow {input : CommandInput} {stream later : List Byte}
    {reads : List ReadOutcome} (h : input.UpToDate stream)
    (hcap : LinesWithinCap (stream ++ (readBytes reads ++ later)))
    (hfits : ¬ (Lines.rest newline stream).length + (readBytes reads).length ≤
      kMaxCommandLineBufferBytes) :
    (readsEof reads = false →
      (onCommandFdReadable reactor input reads).Behind (stream ++ readBytes reads)) ∧
    (readsEof reads = true → (onCommandFdReadable reactor input reads).watched = false ∧
      (onCommandFdReadable reactor input reads).handed.length <
        (commandLines (stream ++ readBytes reads) true).length) := by
  have hsuffix : input.commandLineBuffer <:+ stream := h.buffer ▸ Lines.rest_suffix stream
  have hfree : newline ∉ input.commandLineBuffer := h.buffer ▸ Lines.notMem_rest stream
  have hshort : input.commandLineBuffer.length ≤ kMaxCommandLineBufferBytes := by
    have hmem := hsuffix.isInfix.trans (List.prefix_append stream (readBytes reads ++ later)).isInfix
    obtain ⟨line, hline, hle⟩ := Lines.exists_long_piece hmem hfree
    exact Nat.le_trans hle (hcap line hline)
  rcases readLoop_eq reactor reads input hshort with
    ⟨hroom, _⟩ | ⟨lost, kept, warnings, hsplit, hover, hkept, hloop⟩
  · rw [h.buffer, List.length_append] at hroom
    exact absurd hroom hfits
  · have hnewline : newline ∈ lost := by
      by_contra hnone
      obtain ⟨front, hfront⟩ := id hsuffix
      have hmem : lost <:+: stream ++ (readBytes reads ++ later) := by
        refine ⟨front, kept ++ later, ?_⟩
        calc front ++ lost ++ (kept ++ later)
            = front ++ (lost ++ kept) ++ later := by simp only [List.append_assoc]
          _ = front ++ (input.commandLineBuffer ++ readBytes reads) ++ later := by rw [hsplit]
          _ = stream ++ (readBytes reads ++ later) := by
              rw [← hfront]
              simp only [List.append_assoc]
      obtain ⟨line, hline, hle⟩ := Lines.exists_long_piece hmem hnone
      have hline' := hcap line hline
      omega
    refine Behind.event reactor h.watched hsuffix hsplit hkept hloop ?_
    have hcount := congrArg (List.count newline) hsplit
    have hlost := List.count_pos_iff.mpr hnewline
    have hdone : input.handed.length = stream.count newline := by
      rw [h.handed, List.length_map, Lines.lines_length]
    rw [List.count_append, List.count_append, List.count_eq_zero.mpr hfree] at hcount
    rw [List.count_append]
    omega

/-- The events that fit leave the input up to date; the first that does not
leaves it behind. -/
theorem UpToDate.run {input : CommandInput} {stream : List Byte} (h : input.UpToDate stream)
    (events : List (List ReadOutcome))
    (hcap : LinesWithinCap (stream ++ receivedBytes events)) :
    (FitsBuffer stream events → (events.foldl (onCommandFdReadable reactor) input).handed =
      commandLines (stream ++ receivedBytes events) (events.any readsEof)) ∧
    (¬ FitsBuffer stream events →
      (events.foldl (onCommandFdReadable reactor) input).handed.length <
        (commandLines (stream ++ receivedBytes events) (events.any readsEof)).length) := by
  induction events generalizing input stream with
  | nil =>
      refine ⟨fun _ => ?_, fun hnot => absurd trivial hnot⟩
      rw [List.foldl_nil, h.handed]
      simp [receivedBytes, commandLines]
  | cons reads more ih =>
      rw [receivedBytes] at hcap
      rw [List.foldl_cons, receivedBytes, List.any_cons]
      by_cases hfits : (Lines.rest newline stream).length + (readBytes reads).length ≤
          kMaxCommandLineBufferBytes
      · obtain ⟨hlive, hend⟩ := h.event reactor hfits
        cases heof : readsEof reads with
        | false =>
            have hfollow : FitsBuffer stream (reads :: more) ↔
                FitsBuffer (stream ++ readBytes reads) more :=
              ⟨fun hf => hf.2 heof, fun hf => ⟨hfits, fun _ => hf⟩⟩
            rw [heof, ← List.append_assoc] at hcap
            have hrest := ih (hlive heof) hcap
            rw [List.append_assoc] at hrest
            rw [hfollow]
            exact hrest
        | true =>
            obtain ⟨hclosed, hhanded⟩ := hend heof
            rw [unwatched_run hclosed, hhanded]
            refine ⟨fun _ => by simp, fun hnot => absurd ⟨hfits, ?_⟩ hnot⟩
            rw [heof]
            nofun
      · refine ⟨fun hf => absurd hf.1 hfits, fun _ => ?_⟩
        obtain ⟨hlive, hend⟩ := h.overflow reactor hcap hfits
        cases heof : readsEof reads with
        | false =>
            have hrest := (hlive heof).run reactor more
            rwa [List.append_assoc] at hrest
        | true =>
            obtain ⟨hclosed, hlt⟩ := hend heof
            rw [unwatched_run hclosed]
            simpa using hlt

/-- Before anything is read. -/
theorem upToDate_start : UpToDate {} [] where
  watched := rfl
  buffer := (Lines.rest_free List.not_mem_nil).symm
  handed := by rw [Lines.lines_free List.not_mem_nil]; rfl

end CommandInput

/-! ## Both reactors -/

/-- The lines handed over are those of the stream if and only if every event
fits. -/
theorem run_intact_iff (reactor : String) (events : List (List ReadOutcome))
    (hcap : LinesWithinCap (receivedBytes events)) :
    (events.foldl (CommandInput.onCommandFdReadable reactor) {}).handed =
        commandLines (receivedBytes events) (events.any readsEof) ↔ FitsBuffer [] events := by
  obtain ⟨hintact, hlost⟩ := CommandInput.upToDate_start.run reactor events hcap
  refine ⟨fun heq => ?_, hintact⟩
  by_contra hnot
  have hlt := hlost hnot
  rw [heq] at hlt
  exact Nat.lt_irrefl _ hlt

/-- **When commands survive.**  For every stream without overlong lines and
every way it arrives, the monitor, and likewise the simulator, hands over
exactly its lines if and only if every readable event brings no more bytes than
fit into the buffer beside the unterminated rest of the earlier ones. -/
theorem lines_intact_iff (events : List (List ReadOutcome))
    (hcap : LinesWithinCap (receivedBytes events)) :
    ((events.foldl monitorCommandFdReadable {}).handed =
        commandLines (receivedBytes events) (events.any readsEof) ↔ FitsBuffer [] events) ∧
    ((events.foldl simulatorCommandFdReadable {}).handed =
        commandLines (receivedBytes events) (events.any readsEof) ↔ FitsBuffer [] events) :=
  ⟨run_intact_iff "feed_monitor" events hcap, run_intact_iff "feed_simulator" events hcap⟩

/-- The commands `a` and `bc`, the second without its newline, in two events
that cut it in half. -/
def twoEvents : List (List ReadOutcome) :=
  [[.data ⟨[97, carriageReturn, newline, 98], by decide⟩, .eagain],
    [.data ⟨[99], by decide⟩, .eof]]

/-- They arrive whole. -/
theorem lines_intact_iff_twoEvents :
    (twoEvents.foldl monitorCommandFdReadable {}).handed = [[97], [98, 99]] ∧
      (twoEvents.foldl simulatorCommandFdReadable {}).handed = [[97], [98, 99]] := by
  have hcap : LinesWithinCap (receivedBytes twoEvents) := by
    unfold LinesWithinCap
    decide +kernel
  have hfits : FitsBuffer [] twoEvents :=
    ⟨by decide +kernel, fun _ => ⟨by decide +kernel, nofun⟩⟩
  have hlines : commandLines (receivedBytes twoEvents) (twoEvents.any readsEof) =
      [[97], [98, 99]] := by decide +kernel
  rw [← hlines]
  exact ⟨(lines_intact_iff twoEvents hcap).1.mpr hfits, (lines_intact_iff twoEvents hcap).2.mpr hfits⟩

/-- A full read of empty lines. -/
def emptyLines : ReadChunk where
  val := List.replicate 1024 newline
  property := by rw [List.length_replicate]; exact ⟨by decide, Nat.le_refl _⟩

/-- `k` of them in one readable event. -/
def burst (k : Nat) : List ReadOutcome :=
  List.replicate k (.data emptyLines)

theorem readBytes_burst (k : Nat) : readBytes (burst k) = List.replicate (k * 1024) newline := by
  have hreads : readBytes (burst k) = (List.replicate k emptyLines.val).flatten := by
    induction k with
    | zero => rfl
    | succ k ih =>
        rw [List.replicate_succ, List.flatten_cons, ← ih]
        rfl
  rw [hreads, emptyLines, List.flatten_replicate_replicate]

theorem receivedBytes_burst (k : Nat) :
    receivedBytes [burst k] = List.replicate (k * 1024) newline := by
  rw [receivedBytes, receivedBytes, ite_self, List.append_nil, readBytes_burst]

/-- More empty lines in one event than fit into the buffer: no line is too
long, and yet lines are discarded. -/
theorem short_lines_discarded :
    ¬ ∀ events : List (List ReadOutcome), LinesWithinCap (receivedBytes events) →
      (events.foldl monitorCommandFdReadable {}).handed =
          commandLines (receivedBytes events) (events.any readsEof) ∧
        (events.foldl simulatorCommandFdReadable {}).handed =
          commandLines (receivedBytes events) (events.any readsEof) := by
  intro hall
  have hcap : LinesWithinCap (receivedBytes [burst 65]) := by
    intro line hline
    rw [receivedBytes_burst, Lines.splitOn_replicate] at hline
    rw [List.eq_of_mem_replicate hline]
    exact Nat.zero_le _
  have hfits := (run_intact_iff "feed_monitor" [burst 65] hcap).mp (hall [burst 65] hcap).1
  have hlen : (Lines.rest newline []).length + (readBytes (burst 65)).length ≤
      kMaxCommandLineBufferBytes := hfits.1
  rw [readBytes_burst, List.length_replicate, kMaxCommandLineBufferBytes] at hlen
  omega

end Vigil
