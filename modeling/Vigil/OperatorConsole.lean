import Mathlib.Data.List.TakeWhile
import Vigil.CommandLines
import Vigil.ConfigParser
import Vigil.MonitorBatches

/-!
# The operator's console

`handle_command_line` of `main.cpp`: what a line typed on stdin does to the
monitor.  A line is read as a stream: a word, and for most commands a number
behind it; what follows is not looked at.  Numbers are read as `operator>>`
reads them, so they may have a sign, also where the type has none.

`handleCommandLine_eq_some` gives the language of the console, and
`console_obeys` follows what is typed all the way: however the bytes are cut up
on the way in, the lines that spell a command perform it, in order, and the
others do nothing.
-/

namespace Vigil

open ByteOrder

/-! ## Extraction -/

/-- `in >> word`: the word, empty if there is none, and what follows it. -/
def extractWord (s : Text) : Text × Text :=
  let t := s.dropWhile isSpace
  (t.takeWhile fun c => !isSpace c, t.dropWhile fun c => !isSpace c)

/-- The sign and the digits of `in >> number`; extraction fails without
digits. -/
def extractDigits (s : Text) : Option (Bool × Nat) :=
  let t := s.dropWhile isSpace
  let unsigned := if t.head? = some '-' ∨ t.head? = some '+' then t.drop 1 else t
  let digits := unsigned.takeWhile Char.isDigit
  if digits = [] then none else some (t.head? = some '-', ofDecimal digits)

/-- `uint32_t feed_id; in >> feed_id`.  A minus sign negates the number. -/
def extractUInt32 (s : Text) : Option (BitVec 32) :=
  match extractDigits s with
  | none => none
  | some (negative, v) =>
      if v < 2 ^ 32 then some (if negative then -BitVec.ofNat 32 v else BitVec.ofNat 32 v)
      else none

/-- `int ms; in >> ms`. -/
def extractInt (s : Text) : Option Int :=
  match extractDigits s with
  | none => none
  | some (negative, v) =>
      let value : Int := if negative then -v else v
      if -2 ^ 31 ≤ value ∧ value < 2 ^ 31 then some value else none

/-! ## Commands -/

inductive OperatorCommand where
  | quit
  | disconnect (feedId : BitVec 32)
  | reconnect (feedId : BitVec 32)
  | setInterval (ms : Int)
  | setTimeout (ms : Int)
  deriving DecidableEq, Repr

def unknownCommand (cmd : Text) : String :=
  "[feed_monitor] unknown command '" ++ String.ofList cmd ++ "' (try: disconnect <id> | " ++
    "reconnect <id> | set-interval <ms> | set-timeout <ms> | quit)\n"

/-- The command of a line, or what is written to stderr. -/
def handleCommandLine (line : Text) : Option OperatorCommand × String :=
  let (cmd, rest) := extractWord line
  if cmd = [] then (none, "")
  else if cmd = "quit".toList ∨ cmd = "exit".toList then (some .quit, "")
  else if cmd = "disconnect".toList then
    match extractUInt32 rest with
    | some feedId => (some (.disconnect feedId), "")
    | none => (none, "usage: disconnect <feed_id>\n")
  else if cmd = "reconnect".toList then
    match extractUInt32 rest with
    | some feedId => (some (.reconnect feedId), "")
    | none => (none, "usage: reconnect <feed_id>\n")
  else if cmd = "set-interval".toList then
    match extractInt rest with
    | some ms => (some (.setInterval ms), "")
    | none => (none, "usage: set-interval <ms>\n")
  else if cmd = "set-timeout".toList then
    match extractInt rest with
    | some ms => (some (.setTimeout ms), "")
    | none => (none, "usage: set-timeout <ms>\n")
  else (none, unknownCommand cmd)

/-- The operation of the monitor that it calls; `quit` calls `stop()`. -/
def OperatorCommand.operation (now : Int) (io : SlotIo) : OperatorCommand → Option MonitorCommand
  | .quit => none
  | .disconnect feedId => some (.forceDisconnect feedId now io)
  | .reconnect feedId => some (.forceReconnect feedId)
  | .setInterval ms => some (.setHeartbeatInterval ms)
  | .setTimeout ms => some (.setHeartbeatTimeout ms now)

/-! ## The language -/

/-- The line is this word, blanks before it aside, and `rest`. -/
structure Leads (line word rest : Text) : Prop where
  spelled : ∃ blank, line = blank ++ word ++ rest ∧ ∀ c ∈ blank, isSpace c = true
  word_ne : word ≠ []
  solid : ∀ c ∈ word, isSpace c = false
  apart : ∀ c ∈ rest.head?, isSpace c = true

/-- The text starts, blanks aside, with a numeral: a sign or none, and digits
up to the first character that is none. -/
def Numeral (s : Text) (negative : Bool) (v : Nat) : Prop :=
  ∃ blank sign digits tail : Text, s = blank ++ sign ++ digits ++ tail ∧
    (∀ c ∈ blank, isSpace c = true) ∧
    (sign = [] ∧ negative = false ∨ sign = ['+'] ∧ negative = false ∨
      sign = ['-'] ∧ negative = true) ∧
    digits ≠ [] ∧ (∀ c ∈ digits, c.isDigit = true) ∧ (∀ c ∈ tail.head?, c.isDigit = false) ∧
    v = ofDecimal digits

/-- A feed id, also as the number it is modulo 2 to the 32. -/
def SpellsId (s : Text) (feedId : BitVec 32) : Prop :=
  ∃ negative v, Numeral s negative v ∧ v < 2 ^ 32 ∧
    feedId = if negative then -BitVec.ofNat 32 v else BitVec.ofNat 32 v

/-- A number of milliseconds; nothing asks it to be positive. -/
def SpellsMs (s : Text) (ms : Int) : Prop :=
  ∃ negative v, Numeral s negative v ∧ ms = (if negative then -v else v : Int) ∧
    -2 ^ 31 ≤ ms ∧ ms < 2 ^ 31

/-- The line is a way to write the command. -/
def Spells (line : Text) : OperatorCommand → Prop
  | .quit => ∃ word rest, Leads line word rest ∧ (word = "quit".toList ∨ word = "exit".toList)
  | .disconnect feedId => ∃ rest, Leads line "disconnect".toList rest ∧ SpellsId rest feedId
  | .reconnect feedId => ∃ rest, Leads line "reconnect".toList rest ∧ SpellsId rest feedId
  | .setInterval ms => ∃ rest, Leads line "set-interval".toList rest ∧ SpellsMs rest ms
  | .setTimeout ms => ∃ rest, Leads line "set-timeout".toList rest ∧ SpellsMs rest ms

theorem dropWhile_append_of_all {p : Char → Bool} {front back : Text}
    (hfront : ∀ c ∈ front, p c = true) (hback : ∀ c ∈ back.head?, p c = false) :
    (front ++ back).dropWhile p = back := by
  rw [List.dropWhile_append_of_pos hfront]
  cases back with
  | nil => rfl
  | cons c back => rw [List.dropWhile_cons_of_neg (by simpa using hback c rfl)]

theorem takeWhile_append_of_all {p : Char → Bool} {front back : Text}
    (hfront : ∀ c ∈ front, p c = true) (hback : ∀ c ∈ back.head?, p c = false) :
    (front ++ back).takeWhile p = front := by
  rw [List.takeWhile_append_of_pos hfront]
  cases back with
  | nil => simp
  | cons c back => rw [List.takeWhile_cons_of_neg (by simpa using hback c rfl), List.append_nil]

theorem dropWhile_stops (p : Char → Bool) (s : Text) :
    ∀ c ∈ (s.dropWhile p).head?, p c = false := by
  intro c hc
  have hstop := List.head?_dropWhile_not p s
  rwa [Option.mem_def.mp hc] at hstop

theorem extractWord_eq_iff {line word rest : Text} (hword : word ≠ []) :
    extractWord line = (word, rest) ↔ Leads line word rest := by
  constructor
  · intro h
    obtain ⟨hw, hr⟩ := Prod.mk.inj h
    refine ⟨⟨line.takeWhile isSpace, ?_, fun c hc => List.mem_takeWhile_imp hc⟩, hword, ?_, ?_⟩
    · rw [List.append_assoc, ← hw, ← hr, List.takeWhile_append_dropWhile,
        List.takeWhile_append_dropWhile]
    · intro c hc
      rw [← hw] at hc
      simpa using List.mem_takeWhile_imp hc
    · intro c hc
      rw [← hr] at hc
      simpa using dropWhile_stops _ _ c hc
  · rintro ⟨⟨blank, rfl, hblank⟩, _, hsolid, hapart⟩
    have hstart : ∀ c ∈ (word ++ rest).head?, isSpace c = false := by
      intro c hc
      obtain ⟨d, word', rfl⟩ := List.exists_cons_of_ne_nil hword
      obtain rfl : d = c := Option.some.inj hc
      exact hsolid d List.mem_cons_self
    have hdrop : (blank ++ word ++ rest).dropWhile isSpace = word ++ rest := by
      rw [List.append_assoc]
      exact dropWhile_append_of_all hblank hstart
    have hsolid' : ∀ c ∈ word, (!isSpace c) = true := fun c hc => by simp [hsolid c hc]
    have hapart' : ∀ c ∈ rest.head?, (!isSpace c) = false := fun c hc => by simp [hapart c hc]
    rw [extractWord, hdrop]
    exact Prod.ext (takeWhile_append_of_all hsolid' hapart')
      (dropWhile_append_of_all hsolid' hapart')

theorem isSpace_of_sign {c : Char} (h : c = '-' ∨ c = '+') : isSpace c = false := by
  rcases h with rfl | rfl <;> decide

theorem isSpace_of_isDigit {c : Char} (h : c.isDigit = true) : isSpace c = false := by
  simp only [Char.isDigit, isSpace, Bool.and_eq_true, decide_eq_true_eq, decide_eq_false_iff_not]
    at h ⊢
  have hlow : 48 ≤ c.toNat := h.1
  omega

theorem isDigit_not_sign {c : Char} (h : c.isDigit = true) : ¬ (c = '-' ∨ c = '+') := by
  rintro (rfl | rfl) <;> exact absurd h (by decide)

theorem extractDigits_eq_some {s : Text} {negative : Bool} {v : Nat} :
    extractDigits s = some (negative, v) ↔ Numeral s negative v := by
  constructor
  · intro h
    unfold extractDigits at h
    dsimp only at h
    generalize ht : s.dropWhile isSpace = t at h
    generalize hu : (if t.head? = some '-' ∨ t.head? = some '+' then t.drop 1 else t) = u at h
    split at h
    · cases h
    · next hdigits =>
        obtain ⟨hnegative, rfl⟩ := Prod.mk.inj (Option.some.inj h)
        have hs : s = s.takeWhile isSpace ++ t := by rw [← ht, List.takeWhile_append_dropWhile]
        have hsplit : u = u.takeWhile Char.isDigit ++ u.dropWhile Char.isDigit :=
          List.takeWhile_append_dropWhile.symm
        obtain ⟨sign, htu, hsign⟩ : ∃ sign : Text, t = sign ++ u ∧
            (sign = [] ∧ negative = false ∨ sign = ['+'] ∧ negative = false ∨
              sign = ['-'] ∧ negative = true) := by
          by_cases hminus : t.head? = some '-'
          · obtain ⟨t', rfl⟩ := List.head?_eq_some_iff.mp hminus
            rw [if_pos (Or.inl hminus)] at hu
            exact ⟨['-'], by simp [← hu], Or.inr (Or.inr ⟨rfl, by simpa using hnegative.symm⟩)⟩
          · have hpositive : negative = false := by simpa [hminus] using hnegative.symm
            by_cases hplus : t.head? = some '+'
            · obtain ⟨t', rfl⟩ := List.head?_eq_some_iff.mp hplus
              rw [if_pos (Or.inr hplus)] at hu
              exact ⟨['+'], by simp [← hu], Or.inr (Or.inl ⟨rfl, hpositive⟩)⟩
            · rw [if_neg (not_or.mpr ⟨hminus, hplus⟩)] at hu
              exact ⟨[], by simp [← hu], Or.inl ⟨rfl, hpositive⟩⟩
        refine ⟨s.takeWhile isSpace, sign, u.takeWhile Char.isDigit, u.dropWhile Char.isDigit, ?_,
          fun c hc => List.mem_takeWhile_imp hc, hsign, hdigits,
          fun c hc => List.mem_takeWhile_imp hc, dropWhile_stops _ u, rfl⟩
        rw [List.append_assoc, ← hsplit, List.append_assoc, ← htu, ← hs]
  · rintro ⟨blank, sign, digits, tail, rfl, hblank, hsign, hne, hdigits, htail, rfl⟩
    obtain ⟨d, digits', rfl⟩ := List.exists_cons_of_ne_nil hne
    have hd := hdigits d List.mem_cons_self
    have hstart : ∀ c ∈ (sign ++ (d :: digits' ++ tail)).head?, isSpace c = false := by
      intro c hc
      rcases hsign with ⟨rfl, _⟩ | ⟨rfl, _⟩ | ⟨rfl, _⟩
      · obtain rfl : d = c := Option.some.inj hc
        exact isSpace_of_isDigit hd
      · obtain rfl : '+' = c := Option.some.inj hc
        exact isSpace_of_sign (Or.inr rfl)
      · obtain rfl : '-' = c := Option.some.inj hc
        exact isSpace_of_sign (Or.inl rfl)
    have hdrop : (blank ++ sign ++ (d :: digits') ++ tail).dropWhile isSpace =
        sign ++ (d :: digits' ++ tail) := by
      rw [List.append_assoc, List.append_assoc]
      exact dropWhile_append_of_all hblank hstart
    have htake : (d :: digits' ++ tail).takeWhile Char.isDigit = d :: digits' :=
      takeWhile_append_of_all hdigits htail
    have hsigned := isDigit_not_sign hd
    rw [not_or] at hsigned
    unfold extractDigits
    rw [hdrop]
    rcases hsign with ⟨rfl, rfl⟩ | ⟨rfl, rfl⟩ | ⟨rfl, rfl⟩
    · simp only [List.nil_append, List.cons_append, List.head?_cons, Option.some.injEq, hsigned.1,
        hsigned.2, or_self, if_false, decide_false]
      rw [← List.cons_append, htake, if_neg (List.cons_ne_nil d digits')]
    · have hplus : ¬ '+' = '-' := by decide
      simp only [List.cons_append, List.nil_append, List.head?_cons, Option.some.injEq, hplus,
        or_true, if_true, List.drop_succ_cons, List.drop_zero, decide_false]
      rw [← List.cons_append, htake, if_neg (List.cons_ne_nil d digits')]
    · simp only [List.cons_append, List.nil_append, List.head?_cons, true_or, if_true,
        List.drop_succ_cons, List.drop_zero, decide_true]
      rw [← List.cons_append, htake, if_neg (List.cons_ne_nil d digits')]

theorem extractUInt32_eq_some {s : Text} {feedId : BitVec 32} :
    extractUInt32 s = some feedId ↔ SpellsId s feedId := by
  unfold extractUInt32 SpellsId
  simp only [← extractDigits_eq_some]
  cases hdigits : extractDigits s with
  | none => simp
  | some found =>
      obtain ⟨negative, v⟩ := found
      dsimp only
      constructor
      · intro h
        split at h
        · next hv => exact ⟨negative, v, rfl, hv, (Option.some.inj h).symm⟩
        · cases h
      · rintro ⟨negative', v', heq, hv, rfl⟩
        obtain ⟨rfl, rfl⟩ := Prod.mk.inj (Option.some.inj heq)
        rw [if_pos hv]

theorem extractInt_eq_some {s : Text} {ms : Int} : extractInt s = some ms ↔ SpellsMs s ms := by
  unfold extractInt SpellsMs
  simp only [← extractDigits_eq_some]
  cases hdigits : extractDigits s with
  | none => simp
  | some found =>
      obtain ⟨negative, v⟩ := found
      dsimp only
      generalize hvalue : (if negative = true then -(v : Int) else v) = value
      constructor
      · intro h
        split at h
        · next hrange =>
            rw [Option.some.inj h] at hrange hvalue
            exact ⟨negative, v, rfl, hvalue.symm, hrange⟩
        · cases h
      · rintro ⟨negative', v', heq, hms, hrange⟩
        obtain ⟨rfl, rfl⟩ := Prod.mk.inj (Option.some.inj heq)
        rw [hvalue] at hms
        rw [← hms, if_pos hrange]

/-- What the word and the rest of a line have to be for a command. -/
def Means (word rest : Text) : OperatorCommand → Prop
  | .quit => word = "quit".toList ∨ word = "exit".toList
  | .disconnect feedId => word = "disconnect".toList ∧ extractUInt32 rest = some feedId
  | .reconnect feedId => word = "reconnect".toList ∧ extractUInt32 rest = some feedId
  | .setInterval ms => word = "set-interval".toList ∧ extractInt rest = some ms
  | .setTimeout ms => word = "set-timeout".toList ∧ extractInt rest = some ms

section Found

variable {line word rest : Text}

theorem leads_found (hfound : extractWord line = (word, rest)) {name rest' : Text}
    (hleads : Leads line name rest') : name = word ∧ rest' = rest := by
  have hother := (extractWord_eq_iff hleads.word_ne).mpr hleads
  rw [hfound] at hother
  exact ⟨(Prod.mk.inj hother).1.symm, (Prod.mk.inj hother).2.symm⟩

/-- A command with something behind it. -/
theorem argument_iff (hfound : extractWord line = (word, rest)) {name : Text} (hname : name ≠ [])
    {spells : Text → Prop} : (∃ rest', Leads line name rest' ∧ spells rest') ↔
      word = name ∧ spells rest := by
  constructor
  · rintro ⟨rest', hleads, hspells⟩
    obtain ⟨rfl, rfl⟩ := leads_found hfound hleads
    exact ⟨rfl, hspells⟩
  · rintro ⟨rfl, hspells⟩
    exact ⟨rest, (extractWord_eq_iff hname).mp hfound, hspells⟩

theorem spells_iff (hfound : extractWord line = (word, rest)) (c : OperatorCommand) :
    Spells line c ↔ Means word rest c := by
  cases c with
  | quit =>
      constructor
      · rintro ⟨name, rest', hleads, hname⟩
        obtain ⟨rfl, rfl⟩ := leads_found hfound hleads
        exact hname
      · intro hname
        have hword : word ≠ [] := by rcases hname with rfl | rfl <;> decide
        exact ⟨word, rest, (extractWord_eq_iff hword).mp hfound, hname⟩
  | disconnect feedId =>
      rw [Means, extractUInt32_eq_some]
      exact argument_iff hfound (by decide)
  | reconnect feedId =>
      rw [Means, extractUInt32_eq_some]
      exact argument_iff hfound (by decide)
  | setInterval ms =>
      rw [Means, extractInt_eq_some]
      exact argument_iff hfound (by decide)
  | setTimeout ms =>
      rw [Means, extractInt_eq_some]
      exact argument_iff hfound (by decide)

theorem handleCommandLine_means (hfound : extractWord line = (word, rest)) (c : OperatorCommand) :
    (handleCommandLine line).1 = some c ↔ Means word rest c := by
  simp only [handleCommandLine, hfound]
  by_cases hempty : word = []
  · rw [if_pos hempty]
    subst hempty
    cases c <;> simp [Means]
  rw [if_neg hempty]
  by_cases hends : word = "quit".toList ∨ word = "exit".toList
  · rw [if_pos hends]
    rcases hends with rfl | rfl <;> cases c <;> simp [Means]
  rw [if_neg hends]
  by_cases hdisconnect : word = "disconnect".toList
  · rw [if_pos hdisconnect]
    subst hdisconnect
    cases hnumber : extractUInt32 rest <;> cases c <;> simp [Means, hnumber]
  rw [if_neg hdisconnect]
  by_cases hreconnect : word = "reconnect".toList
  · rw [if_pos hreconnect]
    subst hreconnect
    cases hnumber : extractUInt32 rest <;> cases c <;> simp [Means, hnumber]
  rw [if_neg hreconnect]
  by_cases hinterval : word = "set-interval".toList
  · rw [if_pos hinterval]
    subst hinterval
    cases hnumber : extractInt rest <;> cases c <;> simp [Means, hnumber]
  rw [if_neg hinterval]
  by_cases htimeout : word = "set-timeout".toList
  · rw [if_pos htimeout]
    subst htimeout
    cases hnumber : extractInt rest <;> cases c <;> simp [Means, hnumber]
  rw [if_neg htimeout]
  refine iff_of_false nofun ?_
  cases c with
  | quit => exact hends
  | disconnect feedId => exact fun h => hdisconnect h.1
  | reconnect feedId => exact fun h => hreconnect h.1
  | setInterval ms => exact fun h => hinterval h.1
  | setTimeout ms => exact fun h => htimeout h.1

end Found

/-- **The language of the console.**  A line is taken for a command exactly if
it spells it. -/
theorem handleCommandLine_eq_some {line : Text} {c : OperatorCommand} :
    (handleCommandLine line).1 = some c ↔ Spells line c :=
  (handleCommandLine_means rfl c).trans (spells_iff rfl c).symm

/-! ## Writing commands -/

/-- The numbers that the console can read. -/
def OperatorCommand.Fits : OperatorCommand → Prop
  | .setInterval ms => -2 ^ 31 ≤ ms ∧ ms < 2 ^ 31
  | .setTimeout ms => -2 ^ 31 ≤ ms ∧ ms < 2 ^ 31
  | _ => True

def writtenInt (v : Int) : Text :=
  (if v < 0 then ['-'] else []) ++ Nat.toDigits 10 v.natAbs

/-- The command as its usage text has it. -/
def written : OperatorCommand → Text
  | .quit => "quit".toList
  | .disconnect feedId => "disconnect".toList ++ ' ' :: writtenInt feedId.toNat
  | .reconnect feedId => "reconnect".toList ++ ' ' :: writtenInt feedId.toNat
  | .setInterval ms => "set-interval".toList ++ ' ' :: writtenInt ms
  | .setTimeout ms => "set-timeout".toList ++ ' ' :: writtenInt ms

theorem ofDecimal_toDigits (n : Nat) : ofDecimal (Nat.toDigits 10 n) = n :=
  Nat.ofDigitChars_ten_toDigits

theorem numeral_writtenInt (v : Int) : Numeral (' ' :: writtenInt v) (v < 0) v.natAbs := by
  refine ⟨[' '], if v < 0 then ['-'] else [], Nat.toDigits 10 v.natAbs, [], ?_,
    List.forall_mem_singleton.mpr (by decide), ?_, Nat.toDigits_ne_nil, fun c hc => Nat.isDigit_of_mem_toDigits (by omega) (by omega) hc, nofun,
    (ofDecimal_toDigits _).symm⟩
  · rw [writtenInt, List.append_nil]
    rfl
  · by_cases hneg : v < 0
    · simp [hneg]
    · simp [hneg]

theorem spellsId_writtenInt (feedId : BitVec 32) :
    SpellsId (' ' :: writtenInt feedId.toNat) feedId := by
  have hnumeral := numeral_writtenInt feedId.toNat
  have hsign : ¬ (feedId.toNat : Int) < 0 := by omega
  rw [decide_eq_false hsign, Int.natAbs_natCast] at hnumeral
  refine ⟨false, feedId.toNat, hnumeral, feedId.isLt, ?_⟩
  simp

theorem spellsMs_writtenInt {ms : Int} (h : -2 ^ 31 ≤ ms ∧ ms < 2 ^ 31) :
    SpellsMs (' ' :: writtenInt ms) ms := by
  refine ⟨ms < 0, ms.natAbs, numeral_writtenInt ms, ?_, h⟩
  by_cases hneg : ms < 0
  · simp only [hneg, decide_true, if_true]
    omega
  · simp only [hneg, decide_false, Bool.false_eq_true, if_false]
    omega

theorem solid_of_any {word : Text} (h : word.any isSpace = false) :
    ∀ c ∈ word, isSpace c = false :=
  fun c hc => Bool.eq_false_iff.mpr (List.any_eq_false.mp h c hc)

/-- A word with a blank behind it. -/
theorem leads_word {word : Text} (hne : word ≠ []) (hsolid : word.any isSpace = false)
    (rest : Text) : Leads (word ++ ' ' :: rest) word (' ' :: rest) where
  spelled := ⟨[], rfl, nofun⟩
  word_ne := hne
  solid := solid_of_any hsolid
  apart := by
    intro c hc
    obtain rfl : ' ' = c := Option.some.inj hc
    decide

/-- **Round trip.**  What is written is read back. -/
theorem written_spells (c : OperatorCommand) (h : c.Fits) : Spells (written c) c := by
  cases c with
  | quit =>
      have hspelled : written .quit = [] ++ "quit".toList ++ [] := by decide
      exact ⟨"quit".toList, [],
        ⟨⟨[], hspelled, nofun⟩, by decide, solid_of_any (by decide), nofun⟩, Or.inl rfl⟩
  | disconnect feedId =>
      exact ⟨' ' :: writtenInt feedId.toNat, leads_word (by decide) (by decide) _,
        spellsId_writtenInt feedId⟩
  | reconnect feedId =>
      exact ⟨' ' :: writtenInt feedId.toNat, leads_word (by decide) (by decide) _,
        spellsId_writtenInt feedId⟩
  | setInterval ms =>
      exact ⟨' ' :: writtenInt ms, leads_word (by decide) (by decide) _, spellsMs_writtenInt h⟩
  | setTimeout ms =>
      exact ⟨' ' :: writtenInt ms, leads_word (by decide) (by decide) _, spellsMs_writtenInt h⟩

/-! ## From the keyboard to the monitor -/

/-- The characters of a line, one per byte. -/
def lineText (line : List Byte) : Text :=
  line.map fun b => Char.ofNat b.toNat

/-- The commands that reading stdin comes to, in order. -/
def performed (events : List (List ReadOutcome)) : List OperatorCommand :=
  (events.foldl monitorCommandFdReadable {}).handed.filterMap fun line =>
    (handleCommandLine (lineText line)).1

/-- The line spells this command, or no command at all. -/
def Says (line : List Byte) : Option OperatorCommand → Prop
  | some c => Spells (lineText (chomp line)) c
  | none => ∀ c, ¬ Spells (lineText (chomp line)) c

theorem says_iff {line : List Byte} {said : Option OperatorCommand} :
    Says line said ↔ (handleCommandLine (lineText (chomp line))).1 = said := by
  cases said with
  | some c => exact handleCommandLine_eq_some.symm
  | none =>
      rw [Option.eq_none_iff_forall_ne_some]
      exact forall_congr' fun c => not_congr handleCommandLine_eq_some.symm

/-- Lines as they are typed. -/
def typed (lines : List (List Byte)) : List Byte :=
  lines.flatMap fun line => line ++ [newline]

/-- **The console obeys.**  Lines are typed, each spelling a command or none,
and arrive in any pieces of which every event fits into the buffer: the commands
performed are exactly those spelled, in order. -/
theorem console_obeys (lines : List (List Byte)) (said : List (Option OperatorCommand))
    (events : List (List ReadOutcome))
    (hline : ∀ line ∈ lines, newline ∉ line ∧ line.length ≤ kMaxCommandLineBufferBytes)
    (hsaid : List.Forall₂ Says lines said) (htyped : receivedBytes events = typed lines)
    (hfits : FitsBuffer [] events) : performed events = said.filterMap id := by
  have hfree : ∀ line ∈ lines, newline ∉ line := fun line hmem => (hline line hmem).1
  have hlines : Lines.lines newline (typed lines) = lines := Lines.lines_flatMap hfree
  have hrest : Lines.rest newline (typed lines) = [] := Lines.rest_flatMap hfree
  have hcap : LinesWithinCap (receivedBytes events) := by
    intro piece hpiece
    rw [htyped, Lines.splitOn_eq, hlines, hrest] at hpiece
    rcases List.mem_append.mp hpiece with hmem | hmem
    · exact (hline piece hmem).2
    · rw [List.mem_singleton.mp hmem]
      exact Nat.zero_le _
  have hhanded : (events.foldl monitorCommandFdReadable {}).handed = lines.map chomp := by
    refine ((run_intact_iff "feed_monitor" events hcap).mpr hfits).trans ?_
    rw [htyped, commandLines, hlines, hrest, if_neg (fun h => h.2 rfl), List.append_nil]
  rw [performed, hhanded, List.filterMap_map]
  -- line by line
  clear hline htyped hfree hlines hrest hcap hhanded
  induction hsaid with
  | nil => rfl
  | cons hone _ ih =>
      rw [List.filterMap_cons, List.filterMap_cons, ih]
      have hfirst := says_iff.mp hone
      rw [Function.comp_apply, hfirst]
      rfl

/-- Typed bytes. -/
def keys (s : Text) : List Byte :=
  s.map fun c => BitVec.ofNat 8 c.toNat

/-- Four lines: a command with blanks around it, one that is none, a negative
timeout with a carriage return, and the last command. -/
def fourLines : List (List Byte) :=
  [keys " disconnect  +07 now".toList, keys "reconnect seven".toList,
    keys "set-timeout -5\r".toList, keys "exit".toList]

/-- They arrive cut in the middle of the third. -/
def fourLinesArrive : List (List ReadOutcome) :=
  [[.data ⟨(typed fourLines).take 46, by decide⟩, .eagain],
    [.data ⟨(typed fourLines).drop 46, by decide⟩, .eintr, .eagain]]

theorem console_obeys_fourLines :
    performed fourLinesArrive = [.disconnect 7, .setTimeout (-5), .quit] := by
  have hsaid : List.Forall₂ Says fourLines
      [some (.disconnect 7), none, some (.setTimeout (-5)), some .quit] := by
    refine .cons (says_iff.mpr ?_) (.cons (says_iff.mpr ?_) (.cons (says_iff.mpr ?_)
      (.cons (says_iff.mpr ?_) .nil)))
    · decide +kernel
    · decide +kernel
    · decide +kernel
    · decide +kernel
  have hline : ∀ line ∈ fourLines, newline ∉ line ∧ line.length ≤ kMaxCommandLineBufferBytes := by
    decide +kernel
  have hfits : FitsBuffer [] fourLinesArrive :=
    ⟨by decide +kernel, fun _ => ⟨by decide +kernel, fun _ => trivial⟩⟩
  exact console_obeys fourLines _ fourLinesArrive hline hsaid (by decide +kernel) hfits

end Vigil
