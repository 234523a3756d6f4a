import Vigil.ConfigFeeds

/-!
# The file and the command line agree

The two parsers are written separately: one dispatches on keys and gathers
`[feed]` sections line by line, the other switches on flags and splits a feed
at its colons.  Both do to the configuration what `GlobalSetting.assign` and
`addDefinition` say.  So a list of settings followed by a list of feeds gives
the same configuration whether it is rendered as a file or as flags
(`file_and_flags_agree`), for valid and invalid values alike.
-/

namespace Vigil

/-! ## Text that survives rendering -/

/-- No white space at either end. -/
def Unpadded (s : Text) : Prop :=
  (∀ c ∈ s.head?, isSpace c = false) ∧ ∀ c ∈ s.getLast?, isSpace c = false

/-- A value that a line of a file and an argument can both hold. -/
def Plain (s : Text) : Prop :=
  '\n' ∉ s ∧ Char.ofNat 0 ∉ s ∧ Unpadded s

abbrev PlainValue := {s : Text // Plain s}

/-- A plain value without a colon, as the fields of `--feed` are. -/
abbrev FeedField := {s : Text // Plain s ∧ ':' ∉ s}

theorem trim_unpadded {s : Text} (h : Unpadded s) : trim s = s := by
  have hdrop : ∀ t : Text, (∀ c ∈ t.head?, isSpace c = false) → t.dropWhile isSpace = t := by
    intro t ht
    cases t with
    | nil => rfl
    | cons c t => rw [List.dropWhile_cons_of_neg (by simpa using ht c rfl)]
  have hlast : s.reverse.dropWhile isSpace = s.reverse := by
    apply hdrop
    rw [List.head?_reverse]
    exact h.2
  rw [trim, hdrop s h.1, hlast, List.reverse_reverse]

/-- What the keys of both parts of a file look like. -/
def IsKey (key : Text) : Prop :=
  key ≠ [] ∧ '=' ∉ key ∧ '\n' ∉ key ∧ (∀ c ∈ key, isSpace c = false) ∧
    key.head? ≠ some '#' ∧ key.head? ≠ some ';' ∧ key.head? ≠ some '['

instance (key : Text) : Decidable (IsKey key) :=
  have := List.decidableBAll (fun c => isSpace c = false) key
  inferInstanceAs (Decidable (_ ∧ _ ∧ _ ∧ _ ∧ _ ∧ _ ∧ _))

/-! ## Lines -/

def keyLine (key value : Text) : Text :=
  key ++ '=' :: value

section line

variable {key value : Text}

theorem IsKey.trim_eq (h : IsKey key) : trim key = key := by
  apply trim_unpadded
  constructor
  · exact fun c hc => h.2.2.2.1 c (List.mem_of_head? hc)
  · exact fun c hc => h.2.2.2.1 c (List.mem_of_getLast? hc)

theorem head?_keyLine (h : IsKey key) : (keyLine key value).head? = key.head? := by
  obtain ⟨c, key, rfl⟩ := List.exists_cons_of_ne_nil h.1
  rfl

theorem unpadded_keyLine (h : IsKey key) (hvalue : Unpadded value) :
    Unpadded (keyLine key value) := by
  constructor
  · intro c hc
    rw [head?_keyLine h] at hc
    exact h.2.2.2.1 c (List.mem_of_head? hc)
  · intro c hc
    rw [keyLine, List.getLast?_append, List.getLast?_cons] at hc
    cases hlast : value.getLast? with
    | none =>
        rw [hlast] at hc
        have heq : '=' = c := by simpa using hc
        subst heq
        decide
    | some d =>
        rw [hlast] at hc
        have heq : d = c := by simpa using hc
        exact hvalue.2 c (heq ▸ hlast)

theorem splitKeyValue_keyLine (h : IsKey key) (hvalue : Unpadded value) :
    splitKeyValue (keyLine key value) = some (key, value) := by
  have hindex : (keyLine key value).idxOf '=' = key.length := by
    rw [keyLine, List.idxOf_append_of_notMem h.2.1, List.idxOf_cons_self, Nat.add_zero]
  have hmem : '=' ∈ keyLine key value := by simp [keyLine]
  have hpos : key.length ≠ 0 := by simpa using h.1
  have htake : (keyLine key value).take key.length = key := List.take_left' rfl
  have hdrop : (keyLine key value).drop (key.length + 1) = value := by
    have hsplit : keyLine key value = (key ++ ['=']) ++ value := by simp [keyLine]
    rw [hsplit, List.drop_left' (by simp)]
  unfold splitKeyValue
  dsimp only
  rw [hindex, if_neg (by simp [hmem, h.1]), htake, hdrop, h.trim_eq, trim_unpadded hvalue]

/-- **A `key=value` line is read as such.** -/
theorem parseLine_keyLine (st : FileParsing) (h : IsKey key) (hvalue : Unpadded value) :
    parseLine st (keyLine key value) =
      if st.inFeedSection then
        applyFeedKey { st with lineNumber := st.lineNumber + 1 } key value
      else
        { st with
          lineNumber := st.lineNumber + 1
          parsing := applyGlobalKey st.parsing key value (st.lineNumber + 1) } := by
  have hhead : (keyLine key value).head? = key.head? := head?_keyLine h
  have hskip : isSkipped (keyLine key value) = false := by
    have hne : keyLine key value ≠ [] := by simp [keyLine]
    simp [isSkipped, hne, hhead, h.2.2.2.2.1, h.2.2.2.2.2.1]
  have hheader : keyLine key value ≠ "[feed]".toList := by
    intro heq
    rw [heq] at hhead
    exact h.2.2.2.2.2.2 hhead.symm
  unfold parseLine
  dsimp only
  rw [trim_unpadded (unpadded_keyLine h hvalue), hskip, if_neg (by decide), if_neg hheader,
    splitKeyValue_keyLine h hvalue]

end line

/-- The text of a file with these lines. -/
def fileOf (lines : List Text) : Text :=
  lines.flatMap fun line => line ++ ['\n']

theorem getLines_fileOf {lines : List Text} (h : ∀ line ∈ lines, '\n' ∉ line) :
    getLines '\n' (fileOf lines) = lines := by
  have hcomplete : Lines.lines '\n' (fileOf lines) = lines ∧
      Lines.rest '\n' (fileOf lines) = [] := by
    induction lines with
    | nil => exact ⟨rfl, rfl⟩
    | cons line lines ih =>
        have hline : '\n' ∉ line := h line List.mem_cons_self
        obtain ⟨hlines, hrest⟩ := ih fun l hl => h l (List.mem_cons_of_mem line hl)
        have hfile : fileOf (line :: lines) = line ++ '\n' :: fileOf lines := by
          simp [fileOf]
        rw [hfile, Lines.lines_line hline, Lines.rest_line hline, hlines, hrest]
        exact ⟨rfl, rfl⟩
  rw [getLines, hcomplete.1, hcomplete.2, if_pos rfl, List.append_nil]

/-! ## Global settings -/

/-- The settings that both a file and the command line have. -/
inductive GlobalSetting where
  | numeric (field : NumericField)
  | tcpNodelay
  | edgeTriggered
  | logLevel

namespace GlobalSetting

/-- The key in a config file. -/
def key : GlobalSetting → String
  | .numeric field => field.key
  | .tcpNodelay => "tcp_nodelay"
  | .edgeTriggered => "edge_triggered"
  | .logLevel => "log_level"

def flag (setting : GlobalSetting) (value : Text) : CliOption :=
  match setting with
  | .numeric field => .numeric field value
  | .tcpNodelay => .tcpNodelay value
  | .edgeTriggered => .edgeTriggered value
  | .logLevel => .logLevel value

/-- The configuration after one setting: an invalid value leaves it alone. -/
def assign (config : Config) (value : Text) : GlobalSetting → Config
  | .numeric field => ((field.accepts value).map (NumericField.store config · field)).getD config
  | .tcpNodelay => ((tryParseBool value).map ({ config with tcpNodelay := · })).getD config
  | .edgeTriggered => ((tryParseBool value).map ({ config with edgeTriggered := · })).getD config
  | .logLevel =>
      if isValidLogLevel value then { config with logLevel := String.ofList value } else config

theorem isKey_key (setting : GlobalSetting) : IsKey setting.key.toList := by
  cases setting with
  | numeric field => cases field <;> decide
  | _ => decide

theorem config_applyGlobalKey (p : Parsing) (setting : GlobalSetting) (value : Text)
    (lineNumber : Nat) :
    (applyGlobalKey p setting.key.toList value lineNumber).config =
      setting.assign p.config value := by
  unfold applyGlobalKey
  cases setting with
  | numeric field =>
      have hkey : NumericField.ofKey field.key.toList = some field :=
        NumericField.ofKey_eq_some.mpr rfl
      rw [key, hkey]
      exact NumericField.config_apply p value field.key _ field
  | tcpNodelay =>
      have hkey : NumericField.ofKey "tcp_nodelay".toList = none := by decide
      rw [key, hkey]
      dsimp only [assign]
      rw [if_pos rfl]
      cases tryParseBool value with
      | none => rfl
      | some v => rfl
  | edgeTriggered =>
      have hkey : NumericField.ofKey "edge_triggered".toList = none := by decide
      rw [key, hkey]
      dsimp only [assign]
      rw [if_neg (by decide), if_pos rfl]
      cases tryParseBool value with
      | none => rfl
      | some v => rfl
  | logLevel =>
      have hkey : NumericField.ofKey "log_level".toList = none := by decide
      rw [key, hkey]
      dsimp only [assign]
      rw [if_neg (by decide), if_neg (by decide), if_pos rfl]
      split
      · rfl
      · rfl

theorem config_applyFlag (p : Parsing) (setting : GlobalSetting) (value : Text) :
    (applyFlag p (setting.flag value)).config = setting.assign p.config value := by
  unfold applyFlag
  cases setting with
  | numeric field => exact NumericField.config_apply p value field.flag _ field
  | tcpNodelay =>
      simp only [flag, assign]
      cases tryParseBool value with
      | none => rfl
      | some v => rfl
  | edgeTriggered =>
      simp only [flag, assign]
      cases tryParseBool value with
      | none => rfl
      | some v => rfl
  | logLevel =>
      simp only [flag, assign]
      split
      · rfl
      · rfl

end GlobalSetting

/-! ## Feeds -/

/-- The four fields of a feed as they are written. -/
structure FeedText where
  id : FeedField
  name : FeedField
  host : FeedField
  port : FeedField

namespace FeedText

def definition (f : FeedText) : FeedDefinition :=
  ⟨some f.id.val, some f.name.val, some f.host.val, some f.port.val⟩

/-- The argument of `--feed`. -/
def spec (f : FeedText) : Text :=
  f.id.val ++ ':' :: (f.name.val ++ ':' :: (f.host.val ++ ':' :: f.port.val))

/-- The section of a config file. -/
def sectionLines (f : FeedText) : List Text :=
  ["[feed]".toList, keyLine "id".toList f.id.val, keyLine "name".toList f.name.val,
    keyLine "host".toList f.host.val, keyLine "port".toList f.port.val]

theorem flagDefinition_spec (f : FeedText) : flagDefinition (.feed f.spec) = some f.definition := by
  have hfields : f.spec.splitOn ':' = [f.id.val, f.name.val, f.host.val, f.port.val] := by
    rw [spec, Lines.splitOn_line f.id.property.2, Lines.splitOn_line f.name.property.2,
      Lines.splitOn_line f.host.property.2, List.splitOn_eq_singleton f.port.property.2]
  unfold flagDefinition
  dsimp only
  rw [hfields]
  rfl

theorem config_applyFlag (p : Parsing) (f : FeedText) :
    (applyFlag p (.feed f.spec)).config =
      { p.config with feeds := addDefinition p.config.feeds f.definition } := by
  have hdefinition := flagDefinition_spec f
  rcases splitFeedSpec_flagDefinition f.spec with hsame | ⟨hnone, d, hd, hinvalid⟩
  · rw [hdefinition] at hsame
    obtain ⟨⟨id, name, host, port⟩, hsplit, hfields⟩ := Option.map_eq_some_iff.mp hsame.symm
    rw [← hfields]
    simp only [applyFlag, hsplit]
    exact config_validateAndAddFeed p _ _ _ _ _
  · -- the port is empty, so the section is not valid either
    have heq : d = f.definition := Option.some.inj (hd.symm.trans hdefinition)
    rw [applyFlag_unsplit hnone, addDefinition, ← heq, hinvalid]
    rfl

/-- A section commits the one before it and is pending itself. -/
theorem foldl_sectionLines (f : FeedText) (st : FileParsing) :
    f.sectionLines.foldl parseLine st =
      { parsing := commitPendingFeed st.parsing st.pending
        pending := ⟨some f.id.val, some f.name.val, some f.host.val, some f.port.val,
          st.lineNumber + 1⟩
        inFeedSection := true
        lineNumber := st.lineNumber + 5 } := by
  -- inside a section a line amends the pending feed
  have hread : ∀ (st : FileParsing) (key : Text) (value : FeedField), st.inFeedSection = true →
      IsKey key → parseLine st (keyLine key value.val) =
        applyFeedKey { st with lineNumber := st.lineNumber + 1 } key value.val := by
    intro st key value hin hkey
    rw [parseLine_keyLine st hkey value.property.1.2.2, if_pos hin]
  have hname : ∀ (st : FileParsing) value, applyFeedKey st "name".toList value =
      { st with pending := { st.pending with name := some value } } := by
    intro st value
    rw [applyFeedKey, if_neg (by decide), if_pos rfl]
  have hhost : ∀ (st : FileParsing) value, applyFeedKey st "host".toList value =
      { st with pending := { st.pending with host := some value } } := by
    intro st value
    rw [applyFeedKey, if_neg (by decide), if_neg (by decide), if_pos rfl]
  have hport : ∀ (st : FileParsing) value, applyFeedKey st "port".toList value =
      { st with pending := { st.pending with port := some value } } := by
    intro st value
    rw [applyFeedKey, if_neg (by decide), if_neg (by decide), if_neg (by decide), if_pos rfl]
  have hheader : trim "[feed]".toList = "[feed]".toList := by decide
  rw [sectionLines, List.foldl_cons, List.foldl_cons, List.foldl_cons, List.foldl_cons,
    List.foldl_cons, List.foldl_nil, parseLine_header hheader]
  rw [hread _ "id".toList f.id rfl (by decide), applyFeedKey, if_pos rfl]
  rw [hread _ "name".toList f.name rfl (by decide), hname]
  rw [hread _ "host".toList f.host rfl (by decide), hhost]
  rw [hread _ "port".toList f.port rfl (by decide), hport]

end FeedText

/-! ## Whole configurations -/

/-- The text of the config file. -/
def renderFile (settings : List (GlobalSetting × PlainValue)) (feeds : List FeedText) : Text :=
  fileOf (settings.map (fun s => keyLine s.1.key.toList s.2.val) ++ feeds.flatMap (·.sectionLines))

/-- The command line, as `getopt_long` returns it. -/
def renderFlags (settings : List (GlobalSetting × PlainValue)) (feeds : List FeedText) :
    List CliOption :=
  settings.map (fun s => s.1.flag s.2.val) ++ feeds.map (fun f => .feed f.spec)

/-- The configuration either gives. -/
def configure (settings : List (GlobalSetting × PlainValue)) (feeds : List FeedText) : Config :=
  feeds.foldl (fun config f => { config with feeds := addDefinition config.feeds f.definition })
    (settings.foldl (fun config s => s.1.assign config s.2.val) {})

theorem keyLine_noNewline {key value : Text} (h : IsKey key) (hvalue : Plain value) :
    '\n' ∉ keyLine key value := by
  simp [keyLine, h.2.2.1, hvalue.1]

theorem getLines_renderFile (settings : List (GlobalSetting × PlainValue))
    (feeds : List FeedText) :
    getLines '\n' (renderFile settings feeds) =
      settings.map (fun s => keyLine s.1.key.toList s.2.val) ++ feeds.flatMap (·.sectionLines) := by
  apply getLines_fileOf
  intro line hline
  rcases List.mem_append.mp hline with hsetting | hfeed
  · obtain ⟨s, -, rfl⟩ := List.mem_map.mp hsetting
    exact keyLine_noNewline s.1.isKey_key s.2.property
  · obtain ⟨f, -, hmem⟩ := List.mem_flatMap.mp hfeed
    simp only [FeedText.sectionLines, List.mem_cons, List.not_mem_nil, or_false] at hmem
    rcases hmem with rfl | rfl | rfl | rfl | rfl
    · decide
    · exact keyLine_noNewline (by decide) f.id.property.1
    · exact keyLine_noNewline (by decide) f.name.property.1
    · exact keyLine_noNewline (by decide) f.host.property.1
    · exact keyLine_noNewline (by decide) f.port.property.1

/-- The global part of the file. -/
theorem foldl_settingLines (settings : List (GlobalSetting × PlainValue)) (st : FileParsing)
    (hglobal : st.inFeedSection = false) :
    let after := (settings.map fun s => keyLine s.1.key.toList s.2.val).foldl parseLine st
    after.pending = st.pending ∧
      after.parsing.config =
        settings.foldl (fun config s => s.1.assign config s.2.val) st.parsing.config := by
  induction settings generalizing st with
  | nil => exact ⟨rfl, rfl⟩
  | cons s settings ih =>
      have hline := parseLine_keyLine st s.1.isKey_key s.2.property.2.2
      rw [if_neg (by simp [hglobal])] at hline
      dsimp only
      rw [List.map_cons, List.foldl_cons, List.foldl_cons, hline]
      obtain ⟨hpending, hconfig⟩ := ih { st with
        lineNumber := st.lineNumber + 1
        parsing := applyGlobalKey st.parsing s.1.key.toList s.2.val (st.lineNumber + 1) } hglobal
      rw [GlobalSetting.config_applyGlobalKey] at hconfig
      exact ⟨hpending, hconfig⟩

theorem config_commitPendingFeed (p : Parsing) (pending : PendingFeed)
    (hopen : pending.startLine ≠ 0) :
    (commitPendingFeed p pending).config =
      { p.config with feeds := addDefinition p.config.feeds pending.definition } := by
  rw [commitPendingFeed, if_neg hopen]
  exact config_validateAndAddFeed p _ _ _ _ _

/-- The sections, each committed by the next or by the end of the file. -/
theorem foldl_sections (feeds : List FeedText) (st : FileParsing) :
    let after := (feeds.flatMap (·.sectionLines)).foldl parseLine st
    (commitPendingFeed after.parsing after.pending).config =
      feeds.foldl
        (fun config f => { config with feeds := addDefinition config.feeds f.definition })
        (commitPendingFeed st.parsing st.pending).config := by
  induction feeds generalizing st with
  | nil => rfl
  | cons f feeds ih =>
      dsimp only
      rw [List.flatMap_cons, List.foldl_append, List.foldl_cons, FeedText.foldl_sectionLines]
      refine (ih _).trans ?_
      rw [config_commitPendingFeed _ _ (Nat.succ_ne_zero _)]
      rfl

theorem config_renderFile (settings : List (GlobalSetting × PlainValue))
    (feeds : List FeedText) :
    (parseConfigText (renderFile settings feeds)).config = configure settings feeds := by
  obtain ⟨hpending, hconfig⟩ := foldl_settingLines settings {} rfl
  unfold parseConfigText
  dsimp only
  rw [getLines_renderFile, List.foldl_append]
  refine (foldl_sections feeds _).trans ?_
  rw [commitPendingFeed, hpending, if_pos rfl, hconfig]
  rfl

theorem foldl_settingFlags (settings : List (GlobalSetting × PlainValue)) (p : Parsing) :
    ((settings.map fun s => s.1.flag s.2.val).foldl applyFlag p).config =
      settings.foldl (fun config s => s.1.assign config s.2.val) p.config := by
  induction settings generalizing p with
  | nil => rfl
  | cons s settings ih =>
      rw [List.map_cons, List.foldl_cons, List.foldl_cons, ih, GlobalSetting.config_applyFlag]

theorem foldl_feedFlags (feeds : List FeedText) (p : Parsing) :
    ((feeds.map fun f => CliOption.feed f.spec).foldl applyFlag p).config =
      feeds.foldl
        (fun config f => { config with feeds := addDefinition config.feeds f.definition })
        p.config := by
  induction feeds generalizing p with
  | nil => rfl
  | cons f feeds ih => rw [List.map_cons, List.foldl_cons, List.foldl_cons, ih, f.config_applyFlag]

theorem config_renderFlags (files : Text → Option Text)
    (settings : List (GlobalSetting × PlainValue)) (feeds : List FeedText) :
    (applyCliOverrides files {} (renderFlags settings feeds)).config =
      configure settings feeds := by
  have hload : ∀ p, (renderFlags settings feeds).foldl (loadConfig files) p = p := by
    intro p
    refine List.foldlRecOn (motive := (· = p)) _ _ rfl ?_
    intro q hq option hoption
    rcases List.mem_append.mp hoption with hsetting | hfeed
    · obtain ⟨s, -, rfl⟩ := List.mem_map.mp hsetting
      cases s.1 <;> exact hq
    · obtain ⟨f, -, rfl⟩ := List.mem_map.mp hfeed
      exact hq
  unfold applyCliOverrides
  rw [hload, renderFlags, List.foldl_append, foldl_feedFlags, foldl_settingFlags]
  rfl

/-- **The file and the command line agree**, on every list of global settings
followed by every list of feeds. -/
theorem file_and_flags_agree (files : Text → Option Text)
    (settings : List (GlobalSetting × PlainValue)) (feeds : List FeedText) :
    (parseConfigText (renderFile settings feeds)).config =
      (applyCliOverrides files {} (renderFlags settings feeds)).config := by
  rw [config_renderFile, config_renderFlags]

end Vigil
