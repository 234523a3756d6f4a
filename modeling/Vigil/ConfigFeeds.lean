import Vigil.ConfigValues
import Vigil.Registry

/-!
# Which feeds are configured

A feed is defined by a `[feed]` section of the config file or by a `--feed`
flag.  `FeedDefinition` is such a definition as it is written, `Defines` says
which endpoint it stands for, if any, and the configured feeds are the first
valid definition of every id (`feeds_first_valid`): the section a line belongs
to is the only one it can influence.

The shape of `--feed` is read by `std::getline`, which does not return an empty
last field.  So the splitter follows its grammar except on a string that ends
in a colon and has three or four of them (`followsGrammar_iff`).
-/

namespace Vigil

/-! ## The fields of a flag -/

/-- There is an unterminated rest exactly if the text does not end in the
separator. -/
theorem rest_eq_nil_iff {sep : Char} {s : Text} :
    Lines.rest sep s = [] ↔ s = [] ∨ s.getLast? = some sep := by
  induction s using Lines.line_rec sep with
  | free t hfree =>
      rw [Lines.rest_free hfree]
      refine ⟨Or.inl, ?_⟩
      rintro (hnil | hlast)
      · exact hnil
      · exact absurd (List.mem_of_getLast? hlast) hfree
  | line l s hl ih =>
      rw [Lines.rest_line hl, ih]
      cases s with
      | nil => simp
      | cons c s => simp

/-- Without an empty last field, `std::getline` returns all of them. -/
theorem getLines_eq_splitOn {sep : Char} {s : Text} (hlast : s.getLast? ≠ some sep)
    (hne : s ≠ []) : getLines sep s = s.splitOn sep := by
  have hrest : Lines.rest sep s ≠ [] := by
    intro hnil
    exact (rest_eq_nil_iff.1 hnil).elim hne hlast
  rw [getLines, if_neg hrest, Lines.splitOn_eq]

/-- With one, the others. -/
theorem getLines_eq_lines {sep : Char} {s : Text} (hlast : s.getLast? = some sep) :
    getLines sep s = Lines.lines sep s := by
  rw [getLines, if_pos (rest_eq_nil_iff.2 (Or.inr hlast)), List.append_nil]

theorem splitFeedSpec_eq_some {s id name host port : Text} :
    splitFeedSpec s = some (id, name, host, port) ↔ getLines ':' s = [id, name, host, port] := by
  unfold splitFeedSpec
  split
  · next h => simp [h]
  · next h =>
      simp only [reduceCtorEq, false_iff]
      exact h id name host port

theorem splitFeedSpec_isSome {s : Text} :
    (splitFeedSpec s).isSome ↔ (getLines ':' s).length = 4 := by
  rw [List.length_eq_four]
  constructor
  · intro h
    obtain ⟨⟨id, name, host, port⟩, hsome⟩ := Option.isSome_iff_exists.1 h
    exact ⟨id, name, host, port, splitFeedSpec_eq_some.1 hsome⟩
  · rintro ⟨id, name, host, port, heq⟩
    rw [splitFeedSpec_eq_some.2 heq]
    rfl

theorem splitOn_length (s : Text) : (s.splitOn ':').length = s.count ':' + 1 := by
  rw [Lines.splitOn_eq, List.length_append, Lines.lines_length, List.length_singleton]

theorem getLines_length {s : Text} :
    (getLines ':' s).length =
      if s = [] ∨ s.getLast? = some ':' then s.count ':' else s.count ':' + 1 := by
  rw [getLines, List.length_append, Lines.lines_length]
  simp only [rest_eq_nil_iff]
  split
  · rfl
  · rfl

/-- `--feed s` follows the grammar `id:name:host:port`: it is split exactly if
there are four fields, into these, and adds nothing otherwise. -/
structure FollowsGrammar (s : Text) : Prop where
  splits : (splitFeedSpec s).isSome ↔ s.count ':' = 3
  fields : ∀ id name host port,
    splitFeedSpec s = some (id, name, host, port) ↔ s.splitOn ':' = [id, name, host, port]
  rejects : s.count ':' ≠ 3 →
    ∀ p, (applyFlag p (.feed s)).config.feeds = p.config.feeds

/-- A flag that is not split adds no feed. -/
theorem applyFlag_unsplit {s : Text} (h : splitFeedSpec s = none) (p : Parsing) :
    (applyFlag p (.feed s)).config = p.config := by
  simp only [applyFlag, h]
  rfl

/-- **The grammar of `--feed`.**  It is followed on every string except those
that end in a colon and have three of them, which are rejected although they
have four fields, or four, which are accepted although they have five. -/
theorem followsGrammar_iff (s : Text) :
    FollowsGrammar s ↔ ¬ (s.getLast? = some ':' ∧ (s.count ':' = 3 ∨ s.count ':' = 4)) := by
  constructor
  · rintro hgrammar ⟨hlast, hcount⟩
    have hsplits := hgrammar.splits
    rw [splitFeedSpec_isSome, getLines_length, if_pos (Or.inr hlast)] at hsplits
    omega
  · intro hends
    have hlength : (getLines ':' s).length = 4 ↔ s.count ':' = 3 := by
      rw [getLines_length]
      split
      · next hrest =>
          rcases hrest with rfl | hlast
          · simp
          · have hcount : ¬ (s.count ':' = 3 ∨ s.count ':' = 4) := fun h => hends ⟨hlast, h⟩
            omega
      · omega
    have hsplits : (splitFeedSpec s).isSome ↔ s.count ':' = 3 := by
      rw [splitFeedSpec_isSome, hlength]
    refine ⟨hsplits, ?_, ?_⟩
    · intro id name host port
      rw [splitFeedSpec_eq_some]
      by_cases hcount : s.count ':' = 3
      · have hne : s ≠ [] := by
          rintro rfl
          simp at hcount
        rw [getLines_eq_splitOn (fun hlast => hends ⟨hlast, Or.inl hcount⟩) hne]
      · -- neither has four fields
        have hlines : getLines ':' s ≠ [id, name, host, port] := by
          intro heq
          exact hcount (hlength.1 (by rw [heq]; rfl))
        have hfields : s.splitOn ':' ≠ [id, name, host, port] := by
          intro heq
          have hlen := splitOn_length s
          rw [heq] at hlen
          simp only [List.length_cons, List.length_nil] at hlen
          omega
        simp only [hlines, hfields]
    · intro hcount p
      refine congrArg Config.feeds (applyFlag_unsplit ?_ p)
      rw [← Option.not_isSome_iff_eq_none, hsplits]
      exact hcount

/-- Four colons, and the feed is added all the same. -/
theorem fifth_field_ignored :
    ¬ FollowsGrammar "7:NYSE:10.0.0.7:9000:".toList := by
  intro hgrammar
  have hadded := hgrammar.rejects (by decide) {}
  revert hadded
  decide

/-! ## Definitions -/

/-- A feed as it is defined in the text: each field as given, if it is. -/
structure FeedDefinition where
  id : Option Text := none
  name : Option Text := none
  host : Option Text := none
  port : Option Text := none

/-- The definition is complete and valid, and stands for this endpoint.  The
widths of the endpoint's fields bound the id and the port from above. -/
def Defines (d : FeedDefinition) (feed : FeedEndpoint) : Prop :=
  ∃ id name host port, d = ⟨some id, some name, some host, some port⟩ ∧
    Writes id feed.feedId.toNat ∧ feed.name = String.ofList name ∧
    host ≠ [] ∧ feed.host = String.ofList host ∧
    Writes port feed.port.toNat ∧ 1 ≤ feed.port.toNat

/-- A field read as an unsigned number. -/
def readField (low high : Int) (raw : Text) : Option Int :=
  (tryParseInt raw).filter fun v => low ≤ v ∧ v ≤ high

/-- The endpoint a definition stands for. -/
def FeedDefinition.endpoint? (d : FeedDefinition) : Option FeedEndpoint :=
  match d with
  | ⟨some id, some name, some host, some port⟩ =>
      (readField 0 4294967295 id).bind fun idValue =>
        if host = [] then none
        else (readField 1 65535 port).map fun portValue =>
          { feedId := BitVec.ofInt 32 idValue
            name := String.ofList name
            host := String.ofList host
            port := BitVec.ofInt 16 portValue }
  | _ => none

theorem readField_eq_some {low high : Int} {raw : Text} {v : Int} (hlow : -2 ^ 63 ≤ low)
    (hhigh : high < 2 ^ 63) :
    readField low high raw = some v ↔ Writes raw v ∧ low ≤ v ∧ v ≤ high := by
  simp only [readField, Option.filter_eq_some_iff, tryParseInt_eq_some, decide_eq_true_eq]
  constructor
  · rintro ⟨⟨hwrites, -, -⟩, hrange⟩
    exact ⟨hwrites, hrange⟩
  · rintro ⟨hwrites, hrange⟩
    exact ⟨⟨hwrites, by omega, by omega⟩, hrange⟩

/-- A number that fits is stored unchanged. -/
theorem ofInt_eq_iff {w : Nat} {v : Int} {x : BitVec w} (hlow : 0 ≤ v) (hhigh : v < 2 ^ w) :
    BitVec.ofInt w v = x ↔ v = x.toNat := by
  obtain ⟨n, rfl⟩ := Int.eq_ofNat_of_zero_le hlow
  have hlt : n < 2 ^ w := by exact_mod_cast hhigh
  rw [BitVec.ofInt_natCast, ← BitVec.toNat_inj, BitVec.toNat_ofNat, Nat.mod_eq_of_lt hlt,
    Int.natCast_inj]

/-- `endpoint?` finds the endpoint a definition stands for. -/
theorem endpoint?_eq_some {d : FeedDefinition} {feed : FeedEndpoint} :
    d.endpoint? = some feed ↔ Defines d feed := by
  unfold FeedDefinition.endpoint?
  split
  · next id name host port =>
      simp only [Option.bind_eq_some_iff, Option.map_eq_some_iff, Option.ite_none_left_eq_some,
        readField_eq_some (by decide : (-2 ^ 63 : Int) ≤ 0)
          (by decide : (4294967295 : Int) < 2 ^ 63),
        readField_eq_some (by decide : (-2 ^ 63 : Int) ≤ 1) (by decide : (65535 : Int) < 2 ^ 63)]
      constructor
      · rintro ⟨idValue, ⟨hid, hid0, hid1⟩, hhost, portValue, ⟨hport, hport0, hport1⟩, rfl⟩
        have hidSame := (ofInt_eq_iff (w := 32) hid0 (by omega)).1 rfl
        have hportSame := (ofInt_eq_iff (w := 16) (by omega : 0 ≤ portValue) (by omega)).1 rfl
        refine ⟨id, name, host, port, rfl, ?_, rfl, hhost, rfl, ?_, ?_⟩
        · rwa [← hidSame]
        · rwa [← hportSame]
        · show 1 ≤ (BitVec.ofInt 16 portValue).toNat
          omega
      · rintro ⟨_, _, _, _, ⟨⟩, hid, hname, hhost, hhostSame, hport, hport1⟩
        have hidLt := feed.feedId.isLt
        have hportLt := feed.port.isLt
        refine ⟨feed.feedId.toNat, ⟨hid, by omega, by omega⟩, hhost, feed.port.toNat,
          ⟨hport, by omega, by omega⟩, ?_⟩
        rw [(ofInt_eq_iff (by omega) (by omega)).2 rfl, (ofInt_eq_iff (by omega) (by omega)).2 rfl,
          ← hname, ← hhostSame]
  · next hincomplete =>
      simp only [reduceCtorEq, false_iff]
      rintro ⟨id, name, host, port, rfl, -⟩
      exact hincomplete id name host port rfl

/-- Add what a definition stands for, unless its id is taken. -/
def addDefinition (feeds : List FeedEndpoint) (d : FeedDefinition) : List FeedEndpoint :=
  (d.endpoint?.map (Registry.enter (·.feedId) feeds)).getD feeds

/-- The check of one number: a value out of range and one that is none are
rejected alike. -/
theorem readField_cases (low high : Int) (raw : Text) :
    (tryParseInt raw = none ∧ readField low high raw = none) ∨
      ∃ v, tryParseInt raw = some v ∧
        ((v < low ∨ v > high) ∧ readField low high raw = none ∨
          ¬ (v < low ∨ v > high) ∧ readField low high raw = some v) := by
  unfold readField
  cases tryParseInt raw with
  | none => exact Or.inl ⟨rfl, rfl⟩
  | some v =>
      refine Or.inr ⟨v, rfl, ?_⟩
      by_cases hrange : v < low ∨ v > high
      · have hout : ¬ (low ≤ v ∧ v ≤ high) := by omega
        exact Or.inl ⟨hrange, by rw [Option.filter_some, if_neg (by simpa using hout)]⟩
      · have hin : low ≤ v ∧ v ≤ high := by omega
        exact Or.inr ⟨hrange, by rw [Option.filter_some, if_pos (by simpa using hin)]⟩

/-- What `validate_and_add_feed` does. -/
theorem config_validateAndAddFeed (p : Parsing) (id name host port : Option Text)
    (context : String) :
    (validateAndAddFeed p id name host port context).config =
      { p.config with feeds := addDefinition p.config.feeds ⟨id, name, host, port⟩ } := by
  unfold validateAndAddFeed addDefinition FeedDefinition.endpoint?
  split
  · next id name host port =>
      dsimp only
      rcases readField_cases 0 4294967295 id with
        ⟨hparse, hread⟩ | ⟨v, hparse, ⟨hrange, hread⟩ | ⟨hrange, hread⟩⟩
      · rw [hparse, hread]
        rfl
      · rw [hparse, hread]
        dsimp only
        rw [if_pos hrange]
        rfl
      · rw [hparse, hread]
        dsimp only [Option.bind_some]
        rw [if_neg hrange]
        by_cases hhost : host = []
        · rw [if_pos hhost, if_pos hhost]
          rfl
        · rw [if_neg hhost, if_neg hhost]
          rcases readField_cases 1 65535 port with
            ⟨hparse, hread⟩ | ⟨v, hparse, ⟨hrange, hread⟩ | ⟨hrange, hread⟩⟩
          · rw [hparse, hread]
            rfl
          · rw [hparse, hread]
            dsimp only
            rw [if_pos hrange]
            rfl
          · rw [hparse, hread]
            dsimp only [Option.map_some, Option.getD_some]
            rw [if_neg hrange, Registry.enter]
            simp only [List.any_eq_true, decide_eq_true_eq, List.mem_map]
            split
            · rfl
            · rfl
  · next hincomplete =>
      split
      · next heq =>
          simp only [FeedDefinition.mk.injEq] at heq
          exact (hincomplete _ _ _ _ heq.1 heq.2.1 heq.2.2.1 heq.2.2.2).elim
      · rfl

theorem feeds_validateAndAddFeed (p : Parsing) (id name host port : Option Text)
    (context : String) :
    (validateAndAddFeed p id name host port context).config.feeds =
      addDefinition p.config.feeds ⟨id, name, host, port⟩ := by
  rw [config_validateAndAddFeed]

/-! ## The sections of a config file -/

/-- The value a trimmed line gives the key. -/
def keyValue (key line : Text) : Option Text :=
  if isSkipped line then none
  else
    match splitKeyValue line with
    | some (k, value) => if k = key then some value else none
    | none => none

/-- The definition in the lines of a section: the last value of each key. -/
def definitionOf (body : List Text) : FeedDefinition where
  id := (body.filterMap (keyValue "id".toList)).getLast?
  name := (body.filterMap (keyValue "name".toList)).getLast?
  host := (body.filterMap (keyValue "host".toList)).getLast?
  port := (body.filterMap (keyValue "port".toList)).getLast?

/-- The definitions in the lines of a file: a section lies between a `[feed]`
line and the next, or the end. -/
def definitionsOf (lines : List Text) : List FeedDefinition :=
  ((lines.map trim).splitOnP (· = "[feed]".toList)).tail.map definitionOf

theorem splitOnP_body {body : List Text} (hbody : "[feed]".toList ∉ body) :
    body.splitOnP (· = "[feed]".toList) = [body] := by
  apply List.splitOnP_eq_singleton
  intro line hline
  rw [decide_eq_false_iff_not]
  rintro rfl
  exact hbody hline

theorem splitOnP_header {body : List Text} (hbody : "[feed]".toList ∉ body) (lines : List Text) :
    (body ++ "[feed]".toList :: lines).splitOnP (· = "[feed]".toList) =
      body :: lines.splitOnP (· = "[feed]".toList) := by
  rw [List.splitOnP_append_cons body lines (by simp), splitOnP_body hbody, List.singleton_append]

/-- The definitions of a config file. -/
def fileDefinitions (text : Text) : List FeedDefinition :=
  definitionsOf (getLines '\n' text)

/-- The definition a section amounts to so far. -/
def PendingFeed.definition (pending : PendingFeed) : FeedDefinition :=
  ⟨pending.id, pending.name, pending.host, pending.port⟩

/-- What a line adds to the definition of its section. -/
def FeedDefinition.amend (d : FeedDefinition) (line : Text) : FeedDefinition where
  id := (keyValue "id".toList line).or d.id
  name := (keyValue "name".toList line).or d.name
  host := (keyValue "host".toList line).or d.host
  port := (keyValue "port".toList line).or d.port

/-- A field that each line may overwrite holds its last value. -/
theorem foldl_amend_field (field : FeedDefinition → Option Text) (key : Text)
    (hstep : ∀ d line, field (FeedDefinition.amend d line) = (keyValue key line).or (field d))
    (d : FeedDefinition) (body : List Text) :
    field (body.foldl FeedDefinition.amend d) =
      (body.filterMap (keyValue key)).getLast?.or (field d) := by
  induction body generalizing d with
  | nil => rfl
  | cons line body ih =>
      rw [List.foldl_cons, ih, hstep, List.filterMap_cons]
      cases keyValue key line with
      | none => rfl
      | some value =>
          dsimp only
          rw [List.getLast?_cons, Option.some_or]
          cases (body.filterMap (keyValue key)).getLast? with
          | none => rfl
          | some last => rfl

/-- Reading a section line by line gives its definition. -/
theorem foldl_amend (body : List Text) :
    body.foldl FeedDefinition.amend {} = definitionOf body := by
  have hfield := fun field key hstep => foldl_amend_field field key hstep {} body
  have hid := hfield (·.id) _ fun _ _ => rfl
  have hname := hfield (·.name) _ fun _ _ => rfl
  have hhost := hfield (·.host) _ fun _ _ => rfl
  have hport := hfield (·.port) _ fun _ _ => rfl
  simp only [Option.or_none] at hid hname hhost hport
  generalize body.foldl FeedDefinition.amend {} = d at hid hname hhost hport
  obtain ⟨id, name, host, port⟩ := d
  rw [definitionOf, ← hid, ← hname, ← hhost, ← hport]

/-! ## Reading a file -/

theorem feeds_commitPendingFeed (p : Parsing) (pending : PendingFeed) :
    (commitPendingFeed p pending).config.feeds =
      if pending.startLine = 0 then p.config.feeds
      else addDefinition p.config.feeds pending.definition := by
  unfold commitPendingFeed
  split
  · rfl
  · exact feeds_validateAndAddFeed _ _ _ _ _ _

theorem feeds_apply (p : Parsing) (raw : Text) (fieldName context : String)
    (field : NumericField) :
    (field.apply p raw fieldName context).config.feeds = p.config.feeds := by
  obtain ⟨warnings, hcode⟩ := NumericField.requireIntAtLeast_eq p raw fieldName context field
  rw [NumericField.apply, hcode]
  cases field.accepts raw with
  | none => rfl
  | some v => cases field <;> rfl

theorem feeds_applyGlobalKey (p : Parsing) (key value : Text) (lineNumber : Nat) :
    (applyGlobalKey p key value lineNumber).config.feeds = p.config.feeds := by
  unfold applyGlobalKey
  dsimp only
  split
  · next field _ => exact feeds_apply p value field.key _ field
  · split_ifs
    · split
      · rfl
      · rfl
    · split
      · rfl
      · rfl
    · rfl
    · rfl
    · rfl

/-- A `[feed]` line commits the section before it and opens a new one. -/
theorem parseLine_header {rawLine : Text} (hline : trim rawLine = "[feed]".toList)
    (st : FileParsing) :
    parseLine st rawLine =
      { st with
        lineNumber := st.lineNumber + 1
        parsing := commitPendingFeed st.parsing st.pending
        pending := { startLine := st.lineNumber + 1 }
        inFeedSection := true } := by
  unfold parseLine
  simp only [hline]
  rw [if_neg (by decide), if_pos trivial]

/-- Any other line belongs to the section it stands in, if it stands in one. -/
structure SameSection (st st' : FileParsing) (d : FeedDefinition) : Prop where
  feeds : st'.parsing.config.feeds = st.parsing.config.feeds
  definition : st'.pending.definition = d
  startLine : st'.pending.startLine = st.pending.startLine
  inFeedSection : st'.inFeedSection = st.inFeedSection

theorem applyFeedKey_sameSection {st : FileParsing} {line key value : Text}
    (hskip : isSkipped line = false) (hsplit : splitKeyValue line = some (key, value)) :
    SameSection st (applyFeedKey st key value) (st.pending.definition.amend line) := by
  have hvalue : ∀ k, keyValue k line = if key = k then some value else none := by
    intro k
    simp only [keyValue, hskip, hsplit, Bool.false_eq_true, if_false]
  unfold applyFeedKey FeedDefinition.amend
  simp only [hvalue]
  by_cases hid : key = "id".toList
  · subst hid
    exact ⟨rfl, rfl, rfl, rfl⟩
  · by_cases hname : key = "name".toList
    · subst hname
      exact ⟨rfl, rfl, rfl, rfl⟩
    · by_cases hhost : key = "host".toList
      · subst hhost
        exact ⟨rfl, rfl, rfl, rfl⟩
      · by_cases hport : key = "port".toList
        · subst hport
          exact ⟨rfl, rfl, rfl, rfl⟩
        · simp only [hid, hname, hhost, hport, if_false]
          exact ⟨rfl, rfl, rfl, rfl⟩

theorem parseLine_sameSection {st : FileParsing} {rawLine : Text}
    (hline : trim rawLine ≠ "[feed]".toList) :
    SameSection st (parseLine st rawLine)
      (if st.inFeedSection then st.pending.definition.amend (trim rawLine)
        else st.pending.definition) := by
  unfold parseLine
  dsimp only
  generalize trim rawLine = line at hline ⊢
  have hquiet : (∀ key, keyValue key line = none) →
      (if st.inFeedSection then st.pending.definition.amend line else st.pending.definition) =
        st.pending.definition := by
    intro hnone
    split
    · simp only [FeedDefinition.amend, hnone, Option.none_or]
    · rfl
  by_cases hskip : isSkipped line
  · rw [if_pos hskip, hquiet (by simp [keyValue, hskip])]
    exact ⟨rfl, rfl, rfl, rfl⟩
  · rw [if_neg hskip, if_neg hline]
    cases hsplit : splitKeyValue line with
    | none =>
        rw [hquiet (by simp [keyValue, hskip, hsplit])]
        exact ⟨rfl, rfl, rfl, rfl⟩
    | some setting =>
        obtain ⟨key, value⟩ := setting
        dsimp only
        split
        · have hsame : SameSection { st with lineNumber := st.lineNumber + 1 } _ _ :=
            applyFeedKey_sameSection (by simpa using hskip) hsplit
          exact ⟨hsame.feeds, hsame.definition, hsame.startLine, hsame.inFeedSection⟩
        · exact ⟨feeds_applyGlobalKey _ _ _ _, rfl, rfl, rfl⟩

/-- **The sections of a file**, read one after the other inside the feed part.
The first of them continues the one that is open. -/
theorem feeds_sections {lines first : List Text} {rest : List (List Text)} {st : FileParsing}
    (hcut : (lines.map trim).splitOnP (· = "[feed]".toList) = first :: rest)
    (hin : st.inFeedSection = true) (hstart : st.pending.startLine ≠ 0) :
    (commitPendingFeed (lines.foldl parseLine st).parsing
        (lines.foldl parseLine st).pending).config.feeds =
      (rest.map definitionOf).foldl addDefinition (addDefinition st.parsing.config.feeds
        (first.foldl FeedDefinition.amend st.pending.definition)) := by
  induction lines generalizing st first rest with
  | nil =>
      cases hcut
      rw [List.foldl_nil, feeds_commitPendingFeed, if_neg hstart]
      rfl
  | cons rawLine lines ih =>
      obtain ⟨next, others, hnext⟩ := List.exists_cons_of_ne_nil
        (List.splitOnP_ne_nil (· = "[feed]".toList) (lines.map trim))
      rw [List.map_cons, List.splitOnP_cons_eq_if_modifyHead, hnext] at hcut
      rw [List.foldl_cons]
      by_cases hline : trim rawLine = "[feed]".toList
      · rw [if_pos (by simpa using hline)] at hcut
        cases hcut
        rw [parseLine_header hline, ih hnext rfl (by simp)]
        show _ = ((next :: others).map definitionOf).foldl addDefinition _
        rw [List.map_cons, List.foldl_cons, ← foldl_amend, feeds_commitPendingFeed, if_neg hstart]
        rfl
      · rw [if_neg (by simpa using hline)] at hcut
        cases hcut
        have hsame : SameSection st _ _ := parseLine_sameSection hline
        rw [hin, if_pos rfl] at hsame
        rw [ih hnext (hsame.inFeedSection.trans hin) (by rwa [hsame.startLine]), hsame.feeds,
          hsame.definition]
        rfl

/-- The lines before the first section define nothing. -/
theorem feeds_lines {lines : List Text} {st : FileParsing} (hin : st.inFeedSection = false)
    (hstart : st.pending.startLine = 0) :
    (commitPendingFeed (lines.foldl parseLine st).parsing
        (lines.foldl parseLine st).pending).config.feeds =
      (definitionsOf lines).foldl addDefinition st.parsing.config.feeds := by
  induction lines generalizing st with
  | nil =>
      rw [List.foldl_nil, feeds_commitPendingFeed, if_pos hstart]
      rfl
  | cons rawLine lines ih =>
      obtain ⟨next, others, hnext⟩ := List.exists_cons_of_ne_nil
        (List.splitOnP_ne_nil (· = "[feed]".toList) (lines.map trim))
      rw [List.foldl_cons, definitionsOf, List.map_cons, List.splitOnP_cons_eq_if_modifyHead, hnext]
      by_cases hline : trim rawLine = "[feed]".toList
      · rw [if_pos (by simpa using hline), parseLine_header hline,
          feeds_sections hnext rfl (by simp), List.tail_cons, List.map_cons, List.foldl_cons,
          ← foldl_amend, feeds_commitPendingFeed, if_pos hstart]
        rfl
      · have hsame : SameSection st _ _ := parseLine_sameSection hline
        rw [if_neg (by simpa using hline), ih (hsame.inFeedSection.trans hin)
          (hsame.startLine.trans hstart), hsame.feeds, definitionsOf, hnext]
        rfl

/-- The feeds of a config file. -/
theorem feeds_parseConfigText (text : Text) :
    (parseConfigText text).config.feeds =
      (fileDefinitions text).foldl addDefinition [] :=
  feeds_lines rfl rfl

/-! ## The whole command line -/

/-- The definition in a `--feed` flag: its four fields, a colon after the last
allowed. -/
def flagDefinition : CliOption → Option FeedDefinition
  | .feed arg =>
      match arg.splitOn ':' with
      | [id, name, host, port] => some ⟨some id, some name, some host, some port⟩
      | [id, name, host, port, []] => some ⟨some id, some name, some host, some port⟩
      | _ => none
  | _ => none

/-- All definitions, in order of appearance: the sections of the config file
(the last that could be opened), then the flags. -/
def feedDefinitions (files : Text → Option Text) (options : List CliOption) :
    List FeedDefinition :=
  ((options.filterMap (NumericField.openedText files)).getLast?.map fileDefinitions).getD [] ++
    options.filterMap flagDefinition

theorem endpoint?_empty_port (id name host : Option Text) :
    FeedDefinition.endpoint? ⟨id, name, host, some []⟩ = none := by
  rw [Option.eq_none_iff_forall_ne_some]
  intro feed hsome
  obtain ⟨_, _, _, port, heq, -, -, -, -, ⟨digits, hne, -, hport⟩, -⟩ := endpoint?_eq_some.1 hsome
  cases heq
  rcases hport with ⟨rfl, -⟩ | ⟨hminus, -⟩
  · exact hne rfl
  · cases hminus

/-- The code's fields and the definition's, up to a definition that is not
valid. -/
theorem splitFeedSpec_flagDefinition (arg : Text) :
    flagDefinition (.feed arg) = (splitFeedSpec arg).map (fun (id, name, host, port) =>
      ⟨some id, some name, some host, some port⟩) ∨
    splitFeedSpec arg = none ∧
      ∃ d, flagDefinition (.feed arg) = some d ∧ d.endpoint? = none := by
  by_cases hlast : arg.getLast? = some ':'
  · -- the empty last field is not returned
    have hcode := getLines_eq_lines hlast
    have hfields : arg.splitOn ':' = _ := Lines.splitOn_eq arg
    rw [rest_eq_nil_iff.2 (Or.inr hlast)] at hfields
    unfold flagDefinition splitFeedSpec
    dsimp only
    rw [hfields, hcode]
    match Lines.lines ':' arg with
    | [] => exact Or.inl rfl
    | [_] => exact Or.inl rfl
    | [_, _] => exact Or.inl rfl
    | [id, name, host] => exact Or.inr ⟨rfl, _, rfl, endpoint?_empty_port _ _ _⟩
    | [_, _, _, _] => exact Or.inl rfl
    | _ :: _ :: _ :: _ :: _ :: _ => exact Or.inl (by simp)
  · by_cases hne : arg = []
    · subst hne
      exact Or.inl rfl
    · have hrest : Lines.rest ':' arg ≠ [] := by
        intro hnil
        exact (rest_eq_nil_iff.1 hnil).elim hne hlast
      have hfields : arg.splitOn ':' = _ := Lines.splitOn_eq arg
      left
      unfold flagDefinition splitFeedSpec
      dsimp only
      rw [getLines_eq_splitOn hlast hne]
      split
      · next heq =>
          rw [heq]
          rfl
      · next heq =>
          have hend := congrArg List.getLast? hfields
          rw [heq, List.getLast?_concat] at hend
          exact absurd (Option.some.inj hend).symm hrest
      · next hfour _ =>
          split
          · next heq => exact absurd heq (hfour _ _ _ _)
          · rfl

/-- What a flag does to the feeds. -/
theorem feeds_applyFlag (p : Parsing) (option : CliOption) :
    (applyFlag p option).config.feeds =
      ((flagDefinition option).map (addDefinition p.config.feeds)).getD p.config.feeds := by
  cases option with
  | feed arg =>
      rcases splitFeedSpec_flagDefinition arg with hsame | ⟨hnone, d, hd, hinvalid⟩
      · rw [hsame]
        cases hsplit : splitFeedSpec arg with
        | none => rw [applyFlag_unsplit hsplit]; rfl
        | some fields =>
            simp only [applyFlag, hsplit]
            exact feeds_validateAndAddFeed _ _ _ _ _ _
      · rw [applyFlag_unsplit hnone, hd, Option.map_some, Option.getD_some, addDefinition, hinvalid]
        rfl
  | numeric field arg => exact feeds_apply p arg _ _ field
  | tcpNodelay arg =>
      unfold applyFlag
      dsimp only
      split
      · rfl
      · rfl
  | edgeTriggered arg =>
      unfold applyFlag
      dsimp only
      split
      · rfl
      · rfl
  | logLevel arg =>
      unfold applyFlag
      dsimp only
      split
      · rfl
      · rfl
  | config path => rfl
  | help => rfl
  | unrecognized => rfl

/-- Definitions added one after the other leave the first valid one of each id. -/
theorem foldl_addDefinition (definitions : List FeedDefinition) (feeds : List FeedEndpoint) :
    definitions.foldl addDefinition feeds =
      (definitions.filterMap (·.endpoint?)).foldl (Registry.enter (·.feedId)) feeds := by
  induction definitions generalizing feeds with
  | nil => rfl
  | cons d definitions ih =>
      rw [List.foldl_cons, ih, List.filterMap_cons, addDefinition]
      cases d.endpoint? with
      | none => rfl
      | some feed => rfl

theorem feeds_foldl_applyFlag (options : List CliOption) (p : Parsing) :
    (options.foldl applyFlag p).config.feeds =
      (options.filterMap flagDefinition).foldl addDefinition p.config.feeds := by
  induction options generalizing p with
  | nil => rfl
  | cons option options ih =>
      rw [List.foldl_cons, ih, feeds_applyFlag, List.filterMap_cons]
      cases flagDefinition option with
      | none => rfl
      | some d => rfl

theorem feeds_loadConfig (files : Text → Option Text) (p : Parsing) (option : CliOption) :
    (loadConfig files p option).config.feeds =
      ((NumericField.openedText files option).map fun text =>
        (parseConfigText text).config.feeds).getD p.config.feeds := by
  cases option with
  | config path =>
      simp only [loadConfig, parseConfigFile, NumericField.openedText]
      cases files path with
      | none => rfl
      | some text => rfl
  | _ => rfl

/-- **The configured feeds** are the first valid definition of every id. -/
theorem feeds_applyCliOverrides (files : Text → Option Text) (options : List CliOption) :
    (applyCliOverrides files {} options).config.feeds =
      Registry.firsts (·.feedId) ((feedDefinitions files options).filterMap (·.endpoint?)) := by
  have hfile : (options.foldl (loadConfig files) {}).config.feeds =
      (((options.filterMap (NumericField.openedText files)).getLast?.map fileDefinitions).getD
        []).foldl addDefinition [] := by
    rw [Runs.last_write (fun p : Parsing => p.config.feeds) (feeds_loadConfig files),
      ← List.map_filterMap, List.getLast?_map]
    cases (options.filterMap (NumericField.openedText files)).getLast? with
    | none => rfl
    | some text => exact feeds_parseConfigText text
  rw [applyCliOverrides, feeds_foldl_applyFlag, hfile, ← List.foldl_append,
    ← feedDefinitions, foldl_addDefinition, Registry.foldl_enter_nil]

/-! ## Independence -/

/-- A line that neither opens a section nor gives one of the four keys a value:
blank, a comment, malformed, or another key. -/
def Inert (line : Text) : Prop :=
  trim line ≠ "[feed]".toList ∧
    ∀ key ∈ ["id", "name", "host", "port"], keyValue key.toList (trim line) = none

/-- The definition of a section does not depend on its inert lines. -/
theorem definitionOf_inert {before after : List Text} {line : Text}
    (h : ∀ key ∈ ["id", "name", "host", "port"], keyValue key.toList line = none) :
    definitionOf (before ++ line :: after) = definitionOf (before ++ after) := by
  have hnone : ∀ key ∈ ["id", "name", "host", "port"],
      (before ++ line :: after).filterMap (keyValue key.toList) =
        (before ++ after).filterMap (keyValue key.toList) := by
    intro key hkey
    rw [List.filterMap_append, List.filterMap_cons_none (h key hkey), List.filterMap_append]
  unfold definitionOf
  rw [hnone "id" (by simp), hnone "name" (by simp), hnone "host" (by simp), hnone "port" (by simp)]

/-- Nor do the definitions of a file. -/
theorem sections_inert {before after : List Text} {line : Text}
    (hline : line ≠ "[feed]".toList)
    (h : ∀ key ∈ ["id", "name", "host", "port"], keyValue key.toList line = none) :
    ((before ++ line :: after).splitOnP (· = "[feed]".toList)).map definitionOf =
      ((before ++ after).splitOnP (· = "[feed]".toList)).map definitionOf := by
  induction before using Lines.line_rec "[feed]".toList with
  | free before hbefore =>
      -- the line stands in the first section, which ends with `after` or in it
      have hfree : ∀ body : List Text, "[feed]".toList ∉ body →
          "[feed]".toList ∉ before ++ body := by
        intro body hbody hmem
        exact (List.mem_append.1 hmem).elim hbefore hbody
      have hwith : ∀ body : List Text, "[feed]".toList ∉ body →
          "[feed]".toList ∉ before ++ line :: body := by
        intro body hbody
        apply hfree
        rw [List.mem_cons, not_or]
        exact ⟨hline.symm, hbody⟩
      by_cases hafter : "[feed]".toList ∈ after
      · obtain ⟨body, rest, rfl, hbody⟩ := List.eq_append_cons_of_mem hafter
        rw [← List.cons_append, ← List.append_assoc, splitOnP_header (hwith body hbody),
          ← List.append_assoc, splitOnP_header (hfree body hbody), List.map_cons, List.map_cons,
          definitionOf_inert h]
      · rw [splitOnP_body (hwith after hafter), splitOnP_body (hfree after hafter), List.map_singleton,
          List.map_singleton, definitionOf_inert h]
  | line body before hbody ih =>
      rw [List.append_assoc, List.cons_append, splitOnP_header hbody, List.append_assoc,
        List.cons_append, splitOnP_header hbody, List.map_cons, List.map_cons, ih]

theorem definitionsOf_inert {before after : List Text} {line : Text} (h : Inert line) :
    definitionsOf (before ++ line :: after) = definitionsOf (before ++ after) := by
  unfold definitionsOf
  rw [List.map_tail, List.map_tail, List.map_append, List.map_cons, sections_inert h.1 h.2,
    ← List.map_append]

/-- A file may be cut before a `[feed]` line. -/
theorem definitionsOf_append {before after : List Text}
    (hafter : ∀ line, after.head? = some line → trim line = "[feed]".toList) :
    definitionsOf (before ++ after) = definitionsOf before ++ definitionsOf after := by
  unfold definitionsOf
  cases after with
  | nil => simp
  | cons header after =>
      have hsep : decide (trim header = "[feed]".toList) = true := by
        simpa using hafter header rfl
      have hcut : ∀ lines : List Text,
          (lines ++ trim header :: after.map trim).splitOnP (· = "[feed]".toList) =
            lines.splitOnP (· = "[feed]".toList) ++
              (after.map trim).splitOnP (· = "[feed]".toList) :=
        fun lines => List.splitOnP_append_cons lines (after.map trim) hsep
      have hfirst := hcut []
      rw [List.nil_append, List.splitOnP_nil, List.singleton_append] at hfirst
      rw [List.map_append, List.map_cons, hcut, hfirst, List.tail_cons,
        List.tail_append_of_ne_nil (List.splitOnP_ne_nil _ _), List.map_append]

/-- The definition of one section. -/
theorem definitionsOf_section {body : List Text} {header : Text}
    (hheader : trim header = "[feed]".toList)
    (hbody : ∀ line ∈ body, trim line ≠ "[feed]".toList) :
    definitionsOf (header :: body) = [definitionOf (body.map trim)] := by
  have hfree : "[feed]".toList ∉ body.map trim := by
    intro hmem
    obtain ⟨line, hline, heq⟩ := List.mem_map.1 hmem
    exact hbody line hline heq
  have hcut := splitOnP_header (@List.not_mem_nil Text "[feed]".toList) (body.map trim)
  rw [List.nil_append, splitOnP_body hfree] at hcut
  rw [definitionsOf, List.map_cons, hheader, hcut]
  rfl

/-- The feeds of two files agree when their valid definitions do. -/
theorem feeds_congr {text text' : Text}
    (h : (fileDefinitions text).filterMap (·.endpoint?) =
      (fileDefinitions text').filterMap (·.endpoint?)) :
    (parseConfigText text).config.feeds = (parseConfigText text').config.feeds := by
  rw [feeds_parseConfigText, feeds_parseConfigText, foldl_addDefinition, foldl_addDefinition, h]

end Vigil
