import Vigil.Lines
import Vigil.Stats

/-!
# Reading the configuration

`config.cpp`: the config file, `key=value` lines followed by `[feed]` sections,
and the command-line flags that override it.  Text is a list of characters, one
per byte.  Nothing aborts on bad input: every rejected setting leaves a warning
and the value it would have replaced, so the parsers carry the configuration
and the warnings written so far (`Parsing`).

What lies outside is explicit: `files` says which paths can be opened and what
is in them, and the command line is the list of options that `getopt_long`
returns, which is the same in both passes.
-/

namespace Vigil

abbrev Text := List Char

structure Parsing where
  config : Config := {}
  warnings : List String := []

def Parsing.warn (p : Parsing) (message : String) : Parsing :=
  { p with warnings := p.warnings ++ ["[config] warning: " ++ message ++ "\n"] }

/-! ## Values -/

/-- `std::isspace` in the C locale. -/
def isSpace (c : Char) : Bool :=
  (9 ≤ c.toNat ∧ c.toNat ≤ 13) ∨ c.toNat = 32

def trim (s : Text) : Text :=
  ((s.dropWhile isSpace).reverse.dropWhile isSpace).reverse

/-- The number a string of decimal digits denotes. -/
def ofDecimal (digits : Text) : Nat :=
  digits.foldl (fun n c => 10 * n + (c.toNat - 48)) 0

/-- `std::from_chars` into a `long long`: an optional minus sign and the longest
run of digits after it.  There is no result if there are no digits or the
number is out of range; otherwise the number and what follows it. -/
def fromChars (s : Text) : Option (Int × Text) :=
  let negative := s.head? = some '-'
  let unsigned := if negative then s.drop 1 else s
  let digits := unsigned.takeWhile Char.isDigit
  let value : Int := if negative then -(ofDecimal digits) else ofDecimal digits
  if digits = [] then none
  else if -2 ^ 63 ≤ value ∧ value < 2 ^ 63 then some (value, unsigned.dropWhile Char.isDigit)
  else none

def tryParseInt (s : Text) : Option Int :=
  if s = [] then none
  else
    match fromChars s with
    | some (value, []) => some value
    | _ => none

def tryParseBool (s : Text) : Option Bool :=
  if s = "true".toList ∨ s = "1".toList ∨ s = "yes".toList then some true
  else if s = "false".toList ∨ s = "0".toList ∨ s = "no".toList then some false
  else none

def isValidLogLevel (s : Text) : Bool :=
  ["trace", "debug", "info", "warn", "error"].any fun level => level.toList = s

def requireIntAtLeast (p : Parsing) (raw : Text) (fieldName context : String) (minValue : Int) :
    Option Int × Parsing :=
  match tryParseInt raw with
  | none =>
      (none, p.warn (context ++ ": invalid integer for '" ++ fieldName ++ "': '" ++
        String.ofList raw ++ "', keeping default"))
  | some v =>
      if v < minValue then
        (none, p.warn (context ++ ": '" ++ fieldName ++ "' must be >= " ++ toString minValue ++
          ", got '" ++ String.ofList raw ++ "', keeping default"))
      else (some v, p)

/-! ## Numeric fields -/

inductive NumericField where
  | heartbeatInterval
  | heartbeatTimeout
  | maxMissedHeartbeats
  | reconnectBaseDelay
  | reconnectMaxDelay
  | maxReconnectAttempts
  | epollMaxEvents
  | tickInterval
  deriving DecidableEq, Repr

namespace NumericField

def all : List NumericField :=
  [.heartbeatInterval, .heartbeatTimeout, .maxMissedHeartbeats, .reconnectBaseDelay,
    .reconnectMaxDelay, .maxReconnectAttempts, .epollMaxEvents, .tickInterval]

/-- The key in a config file. -/
def key : NumericField → String
  | .heartbeatInterval => "heartbeat_interval_ms"
  | .heartbeatTimeout => "heartbeat_timeout_ms"
  | .maxMissedHeartbeats => "max_missed_heartbeats"
  | .reconnectBaseDelay => "reconnect_base_delay_ms"
  | .reconnectMaxDelay => "reconnect_max_delay_ms"
  | .maxReconnectAttempts => "max_reconnect_attempts"
  | .epollMaxEvents => "epoll_max_events"
  | .tickInterval => "tick_interval_ms"

/-- The long option. -/
def flag : NumericField → String
  | .heartbeatInterval => "heartbeat-interval-ms"
  | .heartbeatTimeout => "heartbeat-timeout-ms"
  | .maxMissedHeartbeats => "max-missed"
  | .reconnectBaseDelay => "reconnect-base-delay-ms"
  | .reconnectMaxDelay => "reconnect-max-delay-ms"
  | .maxReconnectAttempts => "max-reconnect-attempts"
  | .epollMaxEvents => "epoll-max-events"
  | .tickInterval => "tick-interval-ms"

/-- The least value accepted; -1 attempts means unlimited. -/
def minValue : NumericField → Int
  | .maxReconnectAttempts => -1
  | _ => 1

def get (config : Config) : NumericField → Int
  | .heartbeatInterval => config.heartbeatInterval
  | .heartbeatTimeout => config.heartbeatTimeout
  | .maxMissedHeartbeats => config.maxMissedHeartbeats
  | .reconnectBaseDelay => config.reconnectBaseDelay
  | .reconnectMaxDelay => config.reconnectMaxDelay
  | .maxReconnectAttempts => config.maxReconnectAttempts
  | .epollMaxEvents => config.epollMaxEvents
  | .tickInterval => config.tickInterval

/-- `static_cast<int>` of a `long long`. -/
def toInt32 (v : Int) : Int :=
  v.bmod (2 ^ 32)

/-- The assignment to the field.  Durations are 64 bits wide, the other fields
are `int`. -/
def store (config : Config) (v : Int) : NumericField → Config
  | .heartbeatInterval => { config with heartbeatInterval := v }
  | .heartbeatTimeout => { config with heartbeatTimeout := v }
  | .maxMissedHeartbeats => { config with maxMissedHeartbeats := toInt32 v }
  | .reconnectBaseDelay => { config with reconnectBaseDelay := v }
  | .reconnectMaxDelay => { config with reconnectMaxDelay := v }
  | .maxReconnectAttempts => { config with maxReconnectAttempts := toInt32 v }
  | .epollMaxEvents => { config with epollMaxEvents := toInt32 v }
  | .tickInterval => { config with tickInterval := v }

/-- The numeric field with this key. -/
def ofKey (key : Text) : Option NumericField :=
  all.find? fun field => field.key.toList = key

/-- One branch of `apply_global_key` or of the option switch: validate the
value and, if it is accepted, assign it. -/
def apply (p : Parsing) (raw : Text) (fieldName context : String) (field : NumericField) : Parsing :=
  match requireIntAtLeast p raw fieldName context field.minValue with
  | (some v, q) => { q with config := store q.config v field }
  | (none, q) => q

end NumericField

/-! ## The config file -/

def applyGlobalKey (p : Parsing) (key value : Text) (lineNumber : Nat) : Parsing :=
  let context := "line " ++ toString lineNumber
  match NumericField.ofKey key with
  | some field => field.apply p value field.key context
  | none =>
      if key = "tcp_nodelay".toList then
        match tryParseBool value with
        | some v => { p with config := { p.config with tcpNodelay := v } }
        | none => p.warn (context ++ ": invalid boolean for 'tcp_nodelay': '" ++
            String.ofList value ++ "', keeping default")
      else if key = "edge_triggered".toList then
        match tryParseBool value with
        | some v => { p with config := { p.config with edgeTriggered := v } }
        | none => p.warn (context ++ ": invalid boolean for 'edge_triggered': '" ++
            String.ofList value ++ "', keeping default")
      else if key = "log_level".toList then
        if isValidLogLevel value then
          { p with config := { p.config with logLevel := String.ofList value } }
        else p.warn (context ++ ": invalid log_level '" ++ String.ofList value ++
          "', keeping default '" ++ p.config.logLevel ++ "'")
      else p.warn (context ++ ": unknown config key '" ++ String.ofList key ++ "', ignoring")

/-- A `[feed]` section read so far; `startLine` is 0 before the first. -/
structure PendingFeed where
  id : Option Text := none
  name : Option Text := none
  host : Option Text := none
  port : Option Text := none
  startLine : Nat := 0

/-- Append the feed if it is complete, valid and not a duplicate. -/
def validateAndAddFeed (p : Parsing) (id name host port : Option Text) (context : String) :
    Parsing :=
  match id, name, host, port with
  | some id, some name, some host, some port =>
      match tryParseInt id with
      | none => p.warn (context ++ ": invalid feed id '" ++ String.ofList id ++
          "' (must be 0-4294967295), skipping")
      | some idValue =>
          if idValue < 0 ∨ idValue > 4294967295 then
            p.warn (context ++ ": invalid feed id '" ++ String.ofList id ++
              "' (must be 0-4294967295), skipping")
          else if host = [] then p.warn (context ++ ": empty feed host, skipping")
          else
            match tryParseInt port with
            | none => p.warn (context ++ ": invalid feed port '" ++ String.ofList port ++
                "' (must be 1-65535), skipping")
            | some portValue =>
                if portValue < 1 ∨ portValue > 65535 then
                  p.warn (context ++ ": invalid feed port '" ++ String.ofList port ++
                    "' (must be 1-65535), skipping")
                else if p.config.feeds.any (·.feedId = BitVec.ofInt 32 idValue) then
                  p.warn (context ++ ": duplicate feed id " ++ toString idValue ++ ", skipping")
                else
                  { p with config := { p.config with
                      feeds := p.config.feeds ++ [{
                        feedId := BitVec.ofInt 32 idValue
                        name := String.ofList name
                        host := String.ofList host
                        port := BitVec.ofInt 16 portValue }] } }
  | _, _, _, _ =>
      p.warn (context ++ ": incomplete feed definition (need id, name, host, port), skipping")

def commitPendingFeed (p : Parsing) (pending : PendingFeed) : Parsing :=
  if pending.startLine = 0 then p
  else validateAndAddFeed p pending.id pending.name pending.host pending.port
    ("[feed] at line " ++ toString pending.startLine)

/-- The state of the loop of `parse_config_file`. -/
structure FileParsing where
  parsing : Parsing := {}
  pending : PendingFeed := {}
  inFeedSection : Bool := false
  lineNumber : Nat := 0

/-- What successive `std::getline` calls return: the lines, and what follows
the last delimiter unless it is empty. -/
def getLines (delimiter : Char) (text : Text) : List Text :=
  Lines.lines delimiter text ++
    if Lines.rest delimiter text = [] then [] else [Lines.rest delimiter text]

/-- `key=value`, both sides trimmed; the line may not start with the `=`. -/
def splitKeyValue (line : Text) : Option (Text × Text) :=
  let eq := line.idxOf '='
  if '=' ∉ line ∨ eq = 0 then none else some (trim (line.take eq), trim (line.drop (eq + 1)))

/-- Blank lines and comments. -/
def isSkipped (line : Text) : Bool :=
  line = [] ∨ line.head? = some '#' ∨ line.head? = some ';'

/-- A key inside a `[feed]` section. -/
def applyFeedKey (st : FileParsing) (key value : Text) : FileParsing :=
  if key = "id".toList then { st with pending := { st.pending with id := some value } }
  else if key = "name".toList then { st with pending := { st.pending with name := some value } }
  else if key = "host".toList then { st with pending := { st.pending with host := some value } }
  else if key = "port".toList then { st with pending := { st.pending with port := some value } }
  else
    { st with
      parsing := st.parsing.warn ("line " ++ toString st.lineNumber ++ ": unknown feed key '" ++
        String.ofList key ++ "', ignoring") }

/-- One turn of the loop of `parse_config_file`. -/
def parseLine (before : FileParsing) (rawLine : Text) : FileParsing :=
  let st := { before with lineNumber := before.lineNumber + 1 }
  let line := trim rawLine
  if isSkipped line then st
  else if line = "[feed]".toList then
    { st with
      parsing := commitPendingFeed st.parsing st.pending
      pending := { startLine := st.lineNumber }
      inFeedSection := true }
  else
    match splitKeyValue line with
    | none =>
        { st with
          parsing := st.parsing.warn ("line " ++ toString st.lineNumber ++ ": malformed line '" ++
            String.ofList line ++ "' (expected key=value), skipping") }
    | some (key, value) =>
        if st.inFeedSection then applyFeedKey st key value
        else { st with parsing := applyGlobalKey st.parsing key value st.lineNumber }

/-- `parse_config_file` on the text of a file that could be opened. -/
def parseConfigText (text : Text) : Parsing :=
  let st := (getLines '\n' text).foldl parseLine {}
  commitPendingFeed st.parsing st.pending

def parseConfigFile (files : Text → Option Text) (path : Text) : Except String Parsing :=
  match files path with
  | none => .error ("could not open config file: " ++ String.ofList path)
  | some text => .ok (parseConfigText text)

/-! ## The command line -/

/-- One option as `getopt_long` returns it, with its argument. -/
inductive CliOption where
  | config (path : Text)
  | help
  | numeric (field : NumericField) (arg : Text)
  | tcpNodelay (arg : Text)
  | edgeTriggered (arg : Text)
  | logLevel (arg : Text)
  | feed (arg : Text)
  | unrecognized
  deriving DecidableEq

/-- The first pass: only `--config`, which replaces everything read so far. -/
def loadConfig (files : Text → Option Text) (p : Parsing) : CliOption → Parsing
  | .config path =>
      match parseConfigFile files path with
      | .ok parsed => { parsed with warnings := p.warnings ++ parsed.warnings }
      | .error what => p.warn ("--config: " ++ what ++ ", ignoring")
  | _ => p

/-- `id:name:host:port`. -/
def splitFeedSpec (spec : Text) : Option (Text × Text × Text × Text) :=
  match getLines ':' spec with
  | [id, name, host, port] => some (id, name, host, port)
  | _ => none

/-- The second pass: one flag. -/
def applyFlag (p : Parsing) : CliOption → Parsing
  | .config _ => p
  | .help => { p with config := { p.config with helpRequested := true } }
  | .numeric field arg => field.apply p arg field.flag ("--" ++ field.flag)
  | .tcpNodelay arg =>
      match tryParseBool arg with
      | some v => { p with config := { p.config with tcpNodelay := v } }
      | none => p.warn ("--tcp-nodelay: invalid boolean '" ++ String.ofList arg ++ "'")
  | .edgeTriggered arg =>
      match tryParseBool arg with
      | some v => { p with config := { p.config with edgeTriggered := v } }
      | none => p.warn ("--edge-triggered: invalid boolean '" ++ String.ofList arg ++ "'")
  | .logLevel arg =>
      if isValidLogLevel arg then
        { p with config := { p.config with logLevel := String.ofList arg } }
      else p.warn ("--log-level: invalid level '" ++ String.ofList arg ++ "'")
  | .feed arg =>
      match splitFeedSpec arg with
      | some (id, name, host, port) =>
          validateAndAddFeed p (some id) (some name) (some host) (some port)
            ("--feed '" ++ String.ofList arg ++ "'")
      | none => p.warn ("--feed: expected id:name:host:port, got '" ++ String.ofList arg ++ "'")
  | .unrecognized => p.warn "unrecognized command-line option, ignoring"

def applyCliOverrides (files : Text → Option Text) (base : Config) (options : List CliOption) :
    Parsing :=
  options.foldl applyFlag (options.foldl (loadConfig files) { config := base })

end Vigil
