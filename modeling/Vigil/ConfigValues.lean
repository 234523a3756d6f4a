import Vigil.ConfigParser
import Vigil.Runs
import Mathlib.Data.List.TakeWhile

/-!
# What the numeric settings become

Both parsers validate a number as a `long long` and then store it, and three of
the eight fields are only 32 bits wide.  A setting counts as accepted when the
code takes it: it writes an integer that a `long long` holds and that is at
least the field's least value.  The last accepted setting, flags after the
file, is what the field should hold; the field holds exactly that unless it is
one of the narrow ones and the number needs more than 32 bits.
-/

namespace Vigil

/-! ## Integers as text -/

/-- The text is this integer in decimal: digits, after a minus sign if negative. -/
def Writes (s : Text) (v : Int) : Prop :=
  ∃ digits : Text, digits ≠ [] ∧ (∀ c ∈ digits, c.isDigit) ∧
    (s = digits ∧ v = ofDecimal digits ∨ s = '-' :: digits ∧ v = -ofDecimal digits)

theorem not_digit_minus {digits : Text} (hdigits : ∀ c ∈ digits, c.isDigit) :
    digits.head? ≠ some '-' := by
  intro hhead
  have hdigit := hdigits '-' (List.mem_of_head? hhead)
  exact absurd hdigit (by decide)

/-- The digits of `fromChars`, the sign already read, when nothing else may
follow them. -/
theorem digits_eq_some (sign : Int → Int) {s : Text} {v : Int} :
    (if s.takeWhile Char.isDigit = [] then none
      else if -2 ^ 63 ≤ sign (ofDecimal (s.takeWhile Char.isDigit)) ∧
          sign (ofDecimal (s.takeWhile Char.isDigit)) < 2 ^ 63 then
        some (sign (ofDecimal (s.takeWhile Char.isDigit)), s.dropWhile Char.isDigit)
      else none) = some (v, []) ↔
    (s ≠ [] ∧ (∀ c ∈ s, c.isDigit) ∧ v = sign (ofDecimal s)) ∧ -2 ^ 63 ≤ v ∧ v < 2 ^ 63 := by
  by_cases hdigits : ∀ c ∈ s, c.isDigit
  · rw [List.takeWhile_eq_self_iff.2 hdigits, List.dropWhile_eq_nil_iff.2 hdigits]
    by_cases hs : s = []
    · simp [hs]
    · rw [if_neg hs]
      constructor
      · intro h
        split at h
        · rename_i hrange
          simp only [Option.some.injEq, Prod.mk.injEq, and_true] at h
          rw [← h]
          exact ⟨⟨hs, hdigits, rfl⟩, hrange⟩
        · cases h
      · intro h
        obtain ⟨⟨-, -, rfl⟩, hrange⟩ := h
        rw [if_pos hrange]
  · have hrest : s.dropWhile Char.isDigit ≠ [] := by
      intro hnil
      exact hdigits (List.dropWhile_eq_nil_iff.1 hnil)
    simp only [hdigits, false_and, and_false, iff_false]
    intro h
    split at h
    · cases h
    · split at h
      · simp only [Option.some.injEq, Prod.mk.injEq] at h
        exact hrest h.2
      · cases h

theorem fromChars_eq_some {s : Text} {v : Int} :
    fromChars s = some (v, []) ↔ Writes s v ∧ -2 ^ 63 ≤ v ∧ v < 2 ^ 63 := by
  unfold Writes
  by_cases hsign : s.head? = some '-'
  · obtain ⟨t, rfl⟩ : ∃ t, s = '-' :: t := List.head?_eq_some_iff.1 hsign
    have hcode := digits_eq_some (fun n => -n) (s := t) (v := v)
    simp only [fromChars, List.head?_cons, if_true, List.drop_succ_cons, List.drop_zero]
    rw [hcode]
    refine and_congr_left fun _ => ⟨?_, ?_⟩
    · intro h
      exact ⟨t, h.1, h.2.1, .inr ⟨rfl, h.2.2⟩⟩
    · intro h
      obtain ⟨digits, hne, hdigits, ⟨rfl, -⟩ | ⟨ht, hv⟩⟩ := h
      · exact absurd hsign (not_digit_minus hdigits)
      · cases ht
        exact ⟨hne, hdigits, hv⟩
  · have hcode := digits_eq_some (fun n => n) (s := s) (v := v)
    simp only [fromChars, hsign, if_false]
    rw [hcode]
    refine and_congr_left fun _ => ⟨?_, ?_⟩
    · intro h
      exact ⟨s, h.1, h.2.1, .inl ⟨rfl, h.2.2⟩⟩
    · intro h
      obtain ⟨digits, hne, hdigits, ⟨rfl, hv⟩ | ⟨rfl, -⟩⟩ := h
      · exact ⟨hne, hdigits, hv⟩
      · exact absurd rfl hsign

/-- `try_parse_int` takes exactly the decimal integers that fit a `long long`. -/
theorem tryParseInt_eq_some {s : Text} {v : Int} :
    tryParseInt s = some v ↔ Writes s v ∧ -2 ^ 63 ≤ v ∧ v < 2 ^ 63 := by
  rw [← fromChars_eq_some]
  unfold tryParseInt
  by_cases hs : s = []
  · subst hs
    simp [fromChars]
  · rw [if_neg hs]
    cases hcode : fromChars s with
    | none => simp
    | some parsed =>
        obtain ⟨value, rest⟩ := parsed
        cases rest with
        | nil => simp
        | cons c rest => simp

namespace NumericField

/-! ## Accepted settings -/

/-- The number a setting of the field is accepted with. -/
def accepts (field : NumericField) (raw : Text) : Option Int :=
  (tryParseInt raw).filter (field.minValue ≤ ·)

theorem accepts_eq_some {field : NumericField} {raw : Text} {v : Int} :
    field.accepts raw = some v ↔
      Writes raw v ∧ -2 ^ 63 ≤ v ∧ v < 2 ^ 63 ∧ field.minValue ≤ v := by
  simp only [accepts, Option.filter_eq_some_iff, tryParseInt_eq_some, decide_eq_true_eq, and_assoc]

/-- The validation both parsers share. -/
theorem requireIntAtLeast_eq (p : Parsing) (raw : Text) (fieldName context : String)
    (field : NumericField) :
    ∃ warnings, requireIntAtLeast p raw fieldName context field.minValue =
      (field.accepts raw, { p with warnings := warnings }) := by
  unfold requireIntAtLeast accepts
  cases tryParseInt raw with
  | none => exact ⟨_, rfl⟩
  | some v =>
      by_cases hmin : v < field.minValue
      · have hno : ¬ field.minValue ≤ v := by omega
        simp only [hmin, if_true, Option.filter_some, hno, decide_false, Bool.false_eq_true,
          if_false]
        exact ⟨_, rfl⟩
      · have hyes : field.minValue ≤ v := by omega
        simp only [hmin, if_false, Option.filter_some, hyes, decide_true, if_true]
        exact ⟨_, rfl⟩

/-- The fields of type `int`; the others count milliseconds in 64 bits. -/
def isNarrow : NumericField → Bool
  | .maxMissedHeartbeats | .maxReconnectAttempts | .epollMaxEvents => true
  | _ => false

/-- What is left of a number once it is in the field. -/
def held (field : NumericField) (v : Int) : Int :=
  if field.isNarrow then toInt32 v else v

theorem get_store (config : Config) (v : Int) (field other : NumericField) :
    get (store config v field) other = if field = other then field.held v else get config other := by
  cases field <;> cases other <;> rfl

theorem minValue_ge (field : NumericField) : -1 ≤ field.minValue := by
  cases field <;> decide

/-- A narrow field keeps the accepted numbers below 2^31 and no other. -/
theorem held_eq_iff {field : NumericField} {v : Int} (hmin : field.minValue ≤ v) :
    field.held v = v ↔ (field.isNarrow → v < 2 ^ 31) := by
  have hlow := field.minValue_ge
  unfold held toInt32
  by_cases hnarrow : field.isNarrow
  · simp only [hnarrow, if_true, forall_const]
    rw [Int.bmod_def]
    omega
  · simp [hnarrow]

theorem default_ge (field : NumericField) : field.minValue ≤ get {} field := by
  cases field <;> decide

theorem held_default (field : NumericField) : field.held (get {} field) = get {} field := by
  cases field <;> rfl

/-! ## What one setting does -/

/-- The number one setting leaves in the field, if it is accepted. -/
def takes (field : NumericField) (raw : Text) : Option Int :=
  (field.accepts raw).map field.held

theorem config_apply (p : Parsing) (raw : Text) (fieldName context : String)
    (field : NumericField) :
    (field.apply p raw fieldName context).config =
      ((field.accepts raw).map (store p.config · field)).getD p.config := by
  obtain ⟨warnings, hcode⟩ := requireIntAtLeast_eq p raw fieldName context field
  unfold NumericField.apply
  rw [hcode]
  cases field.accepts raw with
  | none => rfl
  | some v => rfl

theorem get_apply (p : Parsing) (raw : Text) (fieldName context : String)
    (field other : NumericField) :
    get (field.apply p raw fieldName context).config other =
      ((if field = other then other.takes raw else none).getD (get p.config other)) := by
  rw [config_apply]
  by_cases hfield : field = other
  · subst hfield
    unfold takes
    cases field.accepts raw with
    | none => simp
    | some v => simp [get_store]
  · cases field.accepts raw with
    | none => simp [hfield]
    | some v => simp [get_store, hfield]

theorem get_validateAndAddFeed (p : Parsing) (id name host port : Option Text) (context : String)
    (field : NumericField) :
    get (validateAndAddFeed p id name host port context).config field = get p.config field := by
  unfold validateAndAddFeed
  -- every branch but the last warns; the last appends a feed
  repeat' split
  all_goals rfl

theorem get_commitPendingFeed (p : Parsing) (pending : PendingFeed) (field : NumericField) :
    get (commitPendingFeed p pending).config field = get p.config field := by
  unfold commitPendingFeed
  split_ifs
  · rfl
  · exact get_validateAndAddFeed _ _ _ _ _ _ field

theorem ofKey_eq_some {key : Text} {field : NumericField} :
    ofKey key = some field ↔ field.key.toList = key := by
  constructor
  · intro h
    simpa using List.find?_some h
  · intro h
    subst h
    cases field <;> decide

/-- A `key=value` line of the global part. -/
theorem get_applyGlobalKey (p : Parsing) (key value : Text) (lineNumber : Nat)
    (field : NumericField) :
    get (applyGlobalKey p key value lineNumber).config field =
      ((if field.key.toList = key then field.takes value else none).getD (get p.config field)) := by
  unfold applyGlobalKey
  split
  · rename_i found hfound
    rw [get_apply]
    have hsame : found = field ↔ field.key.toList = key := by
      rw [← ofKey_eq_some, hfound, Option.some.injEq]
    simp only [hsame]
  · rename_i hnone
    have hother : field.key.toList ≠ key := by
      intro hkey
      rw [ofKey_eq_some.2 hkey] at hnone
      cases hnone
    rw [if_neg hother, Option.getD_none]
    split_ifs
    · split
      · cases field <;> rfl
      · rfl
    · split
      · cases field <;> rfl
      · rfl
    · cases field <;> rfl
    · rfl
    · rfl

/-! ## A config file -/

/-- The raw value a line of the global part gives the field. -/
def lineValue (field : NumericField) (line : Text) : Option Text :=
  if isSkipped line then none
  else
    match splitKeyValue line with
    | some (key, value) => if field.key.toList = key then some value else none
    | none => none

/-- The raw values a config file gives the field, in order: the lines before
the first `[feed]`. -/
def fileValues (field : NumericField) (text : Text) : List Text :=
  (((getLines '\n' text).map trim).takeWhile (· ≠ "[feed]".toList)).filterMap field.lineValue

/-- A line inside a `[feed]` section. -/
theorem parseLine_feed (st : FileParsing) (rawLine : Text) (field : NumericField)
    (hfeed : st.inFeedSection = true ∨ trim rawLine = "[feed]".toList) :
    (parseLine st rawLine).inFeedSection = true ∧
      get (parseLine st rawLine).parsing.config field = get st.parsing.config field := by
  unfold parseLine
  simp only
  by_cases hskip : isSkipped (trim rawLine)
  · have hin : st.inFeedSection = true := by
      apply hfeed.resolve_right
      intro hline
      rw [hline] at hskip
      exact absurd hskip (by decide)
    rw [if_pos hskip]
    exact ⟨hin, rfl⟩
  · rw [if_neg hskip]
    by_cases hline : trim rawLine = "[feed]".toList
    · rw [if_pos hline]
      exact ⟨rfl, get_commitPendingFeed _ _ field⟩
    · have hin : st.inFeedSection = true := hfeed.resolve_right hline
      rw [if_neg hline]
      split
      · exact ⟨hin, rfl⟩
      · rw [if_pos hin]
        unfold applyFeedKey
        split_ifs
        all_goals exact ⟨hin, rfl⟩

/-- A line before the first of them. -/
theorem parseLine_global (st : FileParsing) (rawLine : Text) (field : NumericField)
    (hglobal : st.inFeedSection = false) (hline : trim rawLine ≠ "[feed]".toList) :
    (parseLine st rawLine).inFeedSection = false ∧
      get (parseLine st rawLine).parsing.config field =
        ((field.lineValue (trim rawLine)).bind field.takes).getD (get st.parsing.config field) := by
  unfold parseLine lineValue
  simp only
  by_cases hskip : isSkipped (trim rawLine)
  · rw [if_pos hskip, if_pos hskip]
    exact ⟨hglobal, rfl⟩
  · rw [if_neg hskip, if_neg hskip, if_neg hline]
    cases splitKeyValue (trim rawLine) with
    | none => exact ⟨hglobal, rfl⟩
    | some setting =>
        simp only [hglobal, Bool.false_eq_true, if_false, true_and]
        rw [get_applyGlobalKey]
        split_ifs
        · rfl
        · rfl

theorem get_parseLines_feed (lines : List Text) (st : FileParsing) (field : NumericField)
    (hfeed : st.inFeedSection = true) :
    get (lines.foldl parseLine st).parsing.config field = get st.parsing.config field := by
  induction lines generalizing st with
  | nil => rfl
  | cons rawLine lines ih =>
      obtain ⟨hin, hget⟩ := parseLine_feed st rawLine field (.inl hfeed)
      rw [List.foldl_cons, ih _ hin, hget]

theorem get_parseLines (lines : List Text) (st : FileParsing) (field : NumericField)
    (hglobal : st.inFeedSection = false) :
    get (lines.foldl parseLine st).parsing.config field =
      ((((lines.map trim).takeWhile (· ≠ "[feed]".toList)).filterMap field.lineValue).filterMap
        field.takes).getLast?.getD (get st.parsing.config field) := by
  induction lines generalizing st with
  | nil => rfl
  | cons rawLine lines ih =>
      by_cases hline : trim rawLine = "[feed]".toList
      · obtain ⟨hin, hget⟩ := parseLine_feed st rawLine field (.inr hline)
        rw [List.foldl_cons, get_parseLines_feed lines _ field hin, hget, List.map_cons,
          List.takeWhile_cons_of_neg (by rw [hline]; decide)]
        rfl
      · obtain ⟨hin, hget⟩ := parseLine_global st rawLine field hglobal hline
        rw [List.foldl_cons, ih _ hin, hget, List.map_cons,
          List.takeWhile_cons_of_pos (by exact decide_eq_true hline), List.filterMap_filterMap,
          List.filterMap_filterMap, List.filterMap_cons]
        cases (field.lineValue (trim rawLine)).bind field.takes with
        | none => rfl
        | some v => rw [List.getLast?_cons, Option.getD_some, Option.getD_some]

theorem get_parseConfigText (text : Text) (field : NumericField) :
    get (parseConfigText text).config field =
      ((field.fileValues text).filterMap field.takes).getLast?.getD (get {} field) := by
  unfold parseConfigText
  rw [get_commitPendingFeed, get_parseLines _ _ field rfl]
  rfl

/-! ## The whole command line -/

/-- The text of the file an option loads. -/
def openedText (files : Text → Option Text) : CliOption → Option Text
  | .config path => files path
  | _ => none

/-- The raw value a flag gives the field. -/
def flagValue (field : NumericField) : CliOption → Option Text
  | .numeric other arg => if other = field then some arg else none
  | _ => none

/-- The raw values the field is given, in order of precedence: the config file
(the last that could be opened), then the flags. -/
def values (files : Text → Option Text) (options : List CliOption) (field : NumericField) :
    List Text :=
  ((options.filterMap (openedText files)).getLast?.map field.fileValues).getD [] ++
    options.filterMap field.flagValue

/-- The integer written in the last accepted setting of the field, or the default. -/
def written (files : Text → Option Text) (options : List CliOption) (field : NumericField) : Int :=
  ((values files options field).filterMap field.accepts).getLast?.getD (get {} field)

theorem get_loadConfig (files : Text → Option Text) (p : Parsing) (option : CliOption)
    (field : NumericField) :
    get (loadConfig files p option).config field =
      ((openedText files option).map fun text =>
        get (parseConfigText text).config field).getD (get p.config field) := by
  cases option with
  | config path =>
      simp only [loadConfig, parseConfigFile, openedText]
      cases files path with
      | none => rfl
      | some text => rfl
  | _ => rfl

theorem get_applyFlag (p : Parsing) (option : CliOption) (field : NumericField) :
    get (applyFlag p option).config field =
      ((field.flagValue option).bind field.takes).getD (get p.config field) := by
  cases option with
  | numeric other arg =>
      unfold applyFlag flagValue
      simp only
      rw [get_apply]
      split_ifs
      · rfl
      · rfl
  | tcpNodelay arg =>
      unfold applyFlag
      simp only
      split
      · rfl
      · rfl
  | edgeTriggered arg =>
      unfold applyFlag
      simp only
      split
      · rfl
      · rfl
  | logLevel arg =>
      unfold applyFlag
      simp only
      split
      · rfl
      · rfl
  | feed arg =>
      unfold applyFlag
      simp only
      split
      · exact get_validateAndAddFeed _ _ _ _ _ _ field
      · rfl
  | _ => rfl

/-- Each number is what is left of the last accepted setting. -/
theorem get_applyCliOverrides (files : Text → Option Text) (options : List CliOption)
    (field : NumericField) :
    get (applyCliOverrides files {} options).config field =
      field.held (written files options field) := by
  have hheld : ∀ (raws : List Text) (v : Int),
      (raws.filterMap field.takes).getLast?.getD (field.held v) =
        field.held ((raws.filterMap field.accepts).getLast?.getD v) := by
    intro raws v
    have htakes : field.takes = fun raw => (field.accepts raw).map field.held := rfl
    rw [htakes, ← List.map_filterMap, List.getLast?_map, Option.getD_map]
  have hbase : get (options.foldl (loadConfig files) {}).config field =
      field.held ((((options.filterMap (openedText files)).getLast?.map
        field.fileValues).getD []).filterMap field.accepts |>.getLast?.getD (get {} field)) := by
    rw [Runs.last_write (fun p : Parsing => get p.config field)
      (fun p option => get_loadConfig files p option field), ← List.map_filterMap,
      List.getLast?_map]
    cases (options.filterMap (openedText files)).getLast? with
    | none => exact (held_default field).symm
    | some text =>
        rw [Option.map_some, Option.getD_some, get_parseConfigText, Option.map_some,
          Option.getD_some, ← hheld, held_default]
  unfold applyCliOverrides
  rw [Runs.last_write (fun p : Parsing => get p.config field)
    (fun p option => get_applyFlag p option field), hbase, ← List.filterMap_filterMap, hheld,
    written, values, List.filterMap_append, List.getLast?_append, Option.getD_or]

theorem written_ge (files : Text → Option Text) (options : List CliOption)
    (field : NumericField) : field.minValue ≤ written files options field := by
  unfold written
  cases hlast : ((values files options field).filterMap field.accepts).getLast? with
  | none => exact field.default_ge
  | some v =>
      obtain ⟨raw, -, haccepts⟩ := List.mem_filterMap.1 (List.mem_of_getLast? hlast)
      exact (accepts_eq_some.1 haccepts).2.2.2

/-- **Numbers are kept unless they need more than 32 bits.**  A setting is
accepted when it writes an integer of `long long` range that is at least the
field's least value.  After the config file and the flags the field holds the
integer of its last accepted setting, and with it respects its lower bound,
exactly if it is a 64-bit field or that integer is below 2^31. -/
theorem numbers_kept_iff (files : Text → Option Text) (options : List CliOption)
    (field : NumericField) :
    (∀ raw v, field.accepts raw = some v ↔
      Writes raw v ∧ -2 ^ 63 ≤ v ∧ v < 2 ^ 63 ∧ field.minValue ≤ v) ∧
    ((get (applyCliOverrides files {} options).config field = written files options field ∧
        field.minValue ≤ get (applyCliOverrides files {} options).config field) ↔
      (field.isNarrow → written files options field < 2 ^ 31)) := by
  have hge := written_ge files options field
  refine ⟨fun raw v => accepts_eq_some, ?_⟩
  rw [get_applyCliOverrides, ← held_eq_iff hge]
  constructor
  · intro h
    exact h.1
  · intro h
    refine ⟨h, ?_⟩
    rw [h]
    exact hge

/-- `--max-missed 2147483648` passes the check and stores -2147483648. -/
theorem max_missed_wraps :
    ¬ ∀ (files : Text → Option Text) (options : List CliOption) (field : NumericField),
      get (applyCliOverrides files {} options).config field = written files options field ∧
        field.minValue ≤ get (applyCliOverrides files {} options).config field := by
  intro hkept
  have hwrap := hkept (fun _ => none)
    [.numeric .maxMissedHeartbeats "2147483648".toList] .maxMissedHeartbeats
  exact absurd hwrap.2 (by decide)

end NumericField

end Vigil
