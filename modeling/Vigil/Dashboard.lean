import Vigil.Alerts
import Vigil.Columns
import Vigil.OperatorConsole
import Vigil.Retries
import Vigil.SlotStore

/-!
# The dashboard

After every tick the monitor hands a snapshot to `cli_display.cpp`, which prints
it as a table with a line of totals.

`dashboard_accounts` is about the totals: in every run in which no due PING
fails its connection, each feed is in exactly one of them, and the failed feeds
are those that wait for a retry and those that were given up.
`table_readable` is about the table: every row can be taken apart again.

How a stream prints a `double` is a parameter, `fixed2`.
-/

namespace Vigil

open Columns

/-! ## The snapshot -/

structure FeedSnapshot where
  feedId : BitVec 32
  name : String
  state : ConnectionState
  stats : ConnectionStats

structure AggregateStats where
  healthyCount : Nat := 0
  degradedCount : Nat := 0
  failedCount : Nat := 0
  reconnectingCount : Nat := 0
  feeds : List FeedSnapshot := []

def Slot.snapshot (slot : Slot) : FeedSnapshot where
  feedId := slot.connection.feedId
  name := slot.name
  state := slot.connection.state
  stats := slot.connection.stats

namespace AggregateStats

/-- The `switch` over the state. -/
def countState (r : AggregateStats) : ConnectionState → AggregateStats
  | .kHealthy => { r with healthyCount := r.healthyCount + 1 }
  | .kDegraded => { r with degradedCount := r.degradedCount + 1 }
  | .kFailed => { r with failedCount := r.failedCount + 1 }
  | _ => r

/-- One turn of the loop of `snapshot_stats`. -/
def add (r : AggregateStats) (slot : Slot) : AggregateStats :=
  let counted := r.countState slot.snapshot.state
  let reconnecting :=
    if slot.reconnectReadyAtNs ≥ 0 then
      { counted with reconnectingCount := counted.reconnectingCount + 1 }
    else counted
  { reconnecting with feeds := reconnecting.feeds ++ [slot.snapshot] }

/-- The feeds that are being connected. -/
def attempting (r : AggregateStats) : Nat :=
  r.feeds.countP fun f => f.state = .kConnecting ∨ f.state = .kHandshaking

end AggregateStats

def FeedMonitor.snapshotStats (m : FeedMonitor) : AggregateStats :=
  m.slots.foldl AggregateStats.add {}

/-! ## What the totals say -/

namespace Slot

/-- Failed, and neither scheduled nor given up yet. -/
structure Broken (slot : Slot) : Prop where
  failed : slot.connection.state = .kFailed
  kept : slot.giveUp = false
  idle : slot.reconnectReadyAtNs < 0

/-- A failed slot was either given up or waits for its retry, and no other slot
is one of that. -/
structure Shown (slot : Slot) : Prop where
  failed_iff : slot.connection.state = .kFailed ↔
    slot.giveUp = true ∨ 0 ≤ slot.reconnectReadyAtNs
  apart : slot.giveUp = true → slot.reconnectReadyAtNs < 0

theorem Shown.live {slot : Slot} (h : slot.Shown) (hlive : slot.connection.state ≠ .kFailed) :
    slot.giveUp = false ∧ slot.reconnectReadyAtNs < 0 := by
  have hneither := mt h.failed_iff.mpr hlive
  rw [not_or] at hneither
  exact ⟨Bool.eq_false_of_not_eq_true hneither.1, Int.not_le.mp hneither.2⟩

theorem shown_live {slot : Slot} (hlive : slot.connection.state ≠ .kFailed)
    (hkept : slot.giveUp = false) (hidle : slot.reconnectReadyAtNs < 0) : slot.Shown where
  failed_iff := by
    refine iff_of_false hlive ?_
    rintro (hgave | hready)
    · rw [hkept] at hgave
      cases hgave
    · omega
  apart := fun _ => hidle

/-- `schedule_reconnect` decides which of the two it is. -/
theorem Broken.scheduleReconnect {slot : Slot} (h : slot.Broken) {cfg : Config}
    (hcfg : cfg.DelaysNonneg) {now : Int} (hnow : 0 ≤ now) (jitter : JitterFactor) :
    (slot.scheduleReconnect cfg now jitter).Shown := by
  have hdelay := reconnectDelayNs_nonneg hcfg slot.reconnectAttempts jitter
  unfold Slot.scheduleReconnect
  dsimp only
  split
  · exact ⟨iff_of_true h.failed (Or.inl rfl), fun _ => h.idle⟩
  · refine ⟨iff_of_true h.failed (Or.inr ?_), ?_⟩
    · show 0 ≤ now + reconnectDelayNs cfg slot.reconnectAttempts jitter
      omega
    · intro hgave
      have hgave' : slot.giveUp = true := hgave
      rw [h.kept] at hgave'
      cases hgave'

theorem Broken.fail {slot : Slot} (h : slot.Broken) {cfg : Config} (hcfg : cfg.DelaysNonneg)
    {io : SlotIo} (hio : 0 ≤ io.failedAt) : (slot.fail cfg io).Shown := by
  have halerted : slot.emitFailureAlert.Broken := ⟨h.failed, h.kept, h.idle⟩
  exact halerted.scheduleReconnect hcfg hio io.jitter

/-- A method of a live connection was called, and on failure the slot follows. -/
theorem shown_of_called {slot called : Slot} {cfg : Config} {io : SlotIo} (h : slot.Shown)
    (hlive : slot.connection.state ≠ .kFailed) (hretry : called.retry = slot.retry)
    (hcfg : cfg.DelaysNonneg) (hio : 0 ≤ io.failedAt) :
    (called.connection.state = .kFailed → (called.fail cfg io).Shown) ∧
      (called.connection.state ≠ .kFailed → called.Shown) := by
  obtain ⟨hkept, hidle⟩ := h.live hlive
  have hkept' : called.giveUp = false := (congrArg Retry.giveUp hretry).trans hkept
  have hidle' : called.reconnectReadyAtNs < 0 :=
    (congrArg Retry.readyAtNs hretry).trans_lt hidle
  exact ⟨fun hf => Broken.fail ⟨hf, hkept', hidle'⟩ hcfg hio,
    fun hlive' => shown_live hlive' hkept' hidle'⟩

theorem Shown.handled {slot : Slot} (h : slot.Shown) (hlive : slot.connection.state ≠ .kFailed)
    {cfg : Config} (hcfg : cfg.DelaysNonneg) (events : EpollEvents) (now : Int) {io : SlotIo}
    (hio : 0 ≤ io.failedAt) : (slot.handled cfg events now io).Shown := by
  have hretry := onEvent_retry slot cfg events now io
  obtain ⟨hfailed, hkept⟩ := shown_of_called h hlive hretry hcfg hio
  unfold Slot.handled
  split
  · next hf => exact hfailed hf
  · next hf => exact hkept hf

theorem Shown.checked {slot pinged : Slot} (h : slot.Shown)
    (hlive : slot.connection.state ≠ .kFailed) (hretry : pinged.retry = slot.retry)
    (hpinged : pinged.connection.state ≠ .kFailed) {cfg : Config} (hcfg : cfg.DelaysNonneg)
    (now : Int) {io : SlotIo} (hio : 0 ≤ io.failedAt) : (pinged.checked cfg now io).Shown := by
  have hchecked : (pinged.check cfg now io).2.retry = slot.retry := hretry
  obtain ⟨hfailed, hkept⟩ := shown_of_called h hlive hchecked hcfg hio
  have hverdict := check_verdict pinged cfg now io
  unfold Slot.checked
  split
  · next hv => exact hfailed (hverdict.mp hv).2
  · next hv => exact hkept fun hf => hv (hverdict.mpr ⟨hpinged, hf⟩)

theorem Sound.reconnected_shown {slot : Slot} (hsound : slot.Sound)
    (hf : slot.connection.state = .kFailed) {now : Int} (hdue : slot.reconnectDue now = true)
    {cfg : Config} (hcfg : cfg.DelaysNonneg) (hnow : 0 ≤ now) (io : SlotIo) :
    (slot.reconnected cfg now io).Shown := by
  obtain ⟨hkept, _, _⟩ : slot.giveUp = false ∧ 0 ≤ slot.reconnectReadyAtNs ∧
      slot.reconnectReadyAtNs ≤ now := by simpa [reconnectDue] using hdue
  have hbegun : (-1 : Int) < 0 := by decide
  unfold Slot.reconnected
  split
  · refine shown_live ?_ hkept hbegun
    intro hstart
    have hrole : Connection.startState slot.connection.role = .kFailed := hstart
    rw [hsound.role] at hrole
    cases hrole
  · have hbroken : Broken { slot with reconnectReadyAtNs := -1 } := ⟨hf, hkept, hbegun⟩
    exact hbroken.scheduleReconnect hcfg hnow io.jitter

theorem Shown.ticked {slot : Slot} (h : slot.Shown) (hsound : slot.Sound) {cfg : Config}
    (hcfg : cfg.DelaysNonneg) {now : Int} (hnow : 0 ≤ now) {io : SlotIo} (hio : 0 ≤ io.failedAt)
    (hping : ¬ slot.PingLost now io) : (slot.ticked cfg now io).Shown := by
  have hpinged (hlive : slot.connection.state ≠ .kFailed) :
      ((slot.pingIfDue cfg now io).checked cfg now io).Shown := by
    refine h.checked hlive (pingIfDue_retry slot cfg now io) ?_ hcfg now hio
    rwa [pingIfDue_state slot cfg now io hping]
  unfold Slot.ticked
  cases hs : slot.connection.state with
  | kHealthy => exact hpinged (by simp [hs])
  | kDegraded => exact hpinged (by simp [hs])
  | kConnecting => exact h.checked (by simp [hs]) rfl (by simp [hs]) hcfg now hio
  | kHandshaking => exact h.checked (by simp [hs]) rfl (by simp [hs]) hcfg now hio
  | kFailed =>
      dsimp only
      split
      · next hdue => exact hsound.reconnected_shown hs hdue hcfg hnow io
      · exact h
  | kDisconnected => exact h
  | kReconnecting => exact h

end Slot

namespace FeedMonitor

variable {m : FeedMonitor}

theorem slotStep_shown {s : MonitorStep} {i : Nat} {slot slot' : Slot} (h : m.WellFormed)
    (hcfg : m.config.DelaysNonneg) (hclock : s.ClockNonneg) (hping : PingsSendable m s)
    (hx : m.slots[i]? = some slot) (hslot : slot.Shown) (hstep : SlotStep m s i slot slot') :
    slot'.Shown := by
  have hsound := h.sound.at hx
  cases hstep with
  | kept => exact hslot
  | disconnected feedId now io _ _ _ hlive =>
      have hretry : (slot.invoke m.config io.env (.onHangupOrError kEConnAborted now)).retry =
        slot.retry := rfl
      exact (Slot.shown_of_called hslot hlive hretry hcfg hclock).1 rfl
  | forcedReconnect _ _ _ _ hfailed =>
      exact ⟨iff_of_true hfailed (Or.inr (Int.le_refl 0)), fun hgave => nomatch hgave⟩
  | rebased => exact ⟨hslot.failed_iff, hslot.apart⟩
  | handled fd events now io _ _ hlookup =>
      -- events are routed to live connections only
      obtain ⟨slot0, hx0, hkey⟩ := (h.fdIndex fd i).mp hlookup
      rw [hx] at hx0
      obtain rfl := Option.some.inj hx0
      exact hslot.handled (liveFd_eq_some hkey).2 hcfg events now hclock
  | ticked now io =>
      exact hslot.ticked hsound hcfg hclock.1 (hclock.2 i) (hping i slot hx)

/-- What holds between the steps of a run without lost PINGs. -/
structure Accountable (m : FeedMonitor) : Prop where
  attended : m.Attended
  shown : ∀ slot ∈ m.slots, slot.Shown

theorem step_accountable (m : FeedMonitor) (s : MonitorStep) (h : m.Accountable)
    (hok : (SocketsNew m s ∧ PingsSendable m s) ∧ s.ClockNonneg) : (m.step s).Accountable := by
  obtain ⟨⟨hnew, hping⟩, hclock⟩ := hok
  refine ⟨step_attended h.attended s hnew hping hclock, ?_⟩
  intro slot' hmem
  rcases step_origin h.attended.wellFormed.sound s hmem with
    ⟨i, slot, hx, hstep⟩ | ⟨endpoint, fd, now, _, _, rfl⟩
  · exact slotStep_shown h.attended.wellFormed h.attended.delays hclock hping hx
      (h.shown slot (List.mem_of_getElem? hx)) hstep
  · exact Slot.shown_live nofun rfl (by decide : (-1 : Int) < 0)

end FeedMonitor

namespace AggregateStats

variable {r : AggregateStats} {slot : Slot} {givenUp : Nat}

/-- Every feed is in one of the totals, and the failed ones are told apart. -/
structure Accounts (r : AggregateStats) (givenUp : Nat) : Prop where
  total : r.healthyCount + r.degradedCount + r.failedCount + r.attempting = r.feeds.length
  failed : r.failedCount = r.reconnectingCount + givenUp

theorem add_feeds (r : AggregateStats) (slot : Slot) :
    (r.add slot).feeds = r.feeds ++ [slot.snapshot] := by
  have hcounted : (r.countState slot.snapshot.state).feeds = r.feeds := by
    unfold countState
    split <;> rfl
  unfold add
  dsimp only
  split
  · exact congrArg (· ++ [slot.snapshot]) hcounted
  · exact congrArg (· ++ [slot.snapshot]) hcounted

theorem add_attempting (r : AggregateStats) (slot : Slot) : (r.add slot).attempting =
    r.attempting + if slot.connection.state = .kConnecting ∨ slot.connection.state = .kHandshaking
      then 1 else 0 := by
  rw [attempting, add_feeds, List.countP_append, List.countP_singleton]
  by_cases hs : slot.connection.state = .kConnecting ∨ slot.connection.state = .kHandshaking
  · simp [attempting, Slot.snapshot, hs]
  · simp [attempting, Slot.snapshot, hs]

theorem Accounts.add (h : r.Accounts givenUp) (hsound : slot.Sound) (hshown : slot.Shown) :
    (r.add slot).Accounts (givenUp + slot.giveUp.toNat) := by
  obtain ⟨htotal, hfailed⟩ := h
  by_cases hs : slot.connection.state = .kFailed
  · -- one failed feed more, which is one that waits or one that was given up
    have hone : (if slot.reconnectReadyAtNs ≥ 0 then 1 else 0) + slot.giveUp.toNat = 1 := by
      rcases hshown.failed_iff.mp hs with hgave | hready
      · have hidle := hshown.apart hgave
        rw [if_neg (by omega), hgave]
        rfl
      · have hkept : slot.giveUp = false := by
          refine Bool.eq_false_of_not_eq_true fun hgave => ?_
          have hidle := hshown.apart hgave
          omega
        rw [if_pos hready, hkept]
        rfl
    have hcounts : (r.add slot).healthyCount = r.healthyCount ∧
        (r.add slot).degradedCount = r.degradedCount ∧
        (r.add slot).failedCount = r.failedCount + 1 ∧
        (r.add slot).reconnectingCount =
          r.reconnectingCount + if slot.reconnectReadyAtNs ≥ 0 then 1 else 0 := by
      simp only [AggregateStats.add, Slot.snapshot, hs, countState]
      split <;> exact ⟨rfl, rfl, rfl, rfl⟩
    constructor
    · rw [hcounts.1, hcounts.2.1, hcounts.2.2.1, add_attempting, add_feeds, List.length_append,
        List.length_singleton, if_neg (by simp [hs])]
      omega
    · rw [hcounts.2.2.1, hcounts.2.2.2]
      omega
  · obtain ⟨hkept, hidle⟩ := hshown.live hs
    have hnot : ¬ slot.reconnectReadyAtNs ≥ 0 := by omega
    have hcounts : (r.add slot).failedCount = r.failedCount ∧
        (r.add slot).reconnectingCount = r.reconnectingCount ∧
        (r.add slot).healthyCount + (r.add slot).degradedCount + (r.add slot).attempting =
          r.healthyCount + r.degradedCount + r.attempting + 1 := by
      rw [add_attempting]
      simp only [AggregateStats.add, Slot.snapshot, if_neg hnot]
      rcases hsound.occupies with hc | hc | hc | hc | hc
      · simp [hc, countState]; omega
      · simp [hc, countState]; omega
      · simp [hc, countState]; omega
      · simp [hc, countState]; omega
      · exact absurd hc hs
    constructor
    · rw [hcounts.1, add_feeds, List.length_append, List.length_singleton]
      have hsum := hcounts.2.2
      omega
    · rw [hcounts.1, hcounts.2.1, hkept]
      exact hfailed

theorem accounts_foldl {slots : List Slot} (h : r.Accounts givenUp)
    (hslots : ∀ slot ∈ slots, slot.Sound ∧ slot.Shown) :
    (slots.foldl add r).Accounts (givenUp + slots.countP (·.giveUp)) ∧
      (slots.foldl add r).feeds = r.feeds ++ slots.map (·.snapshot) := by
  induction slots generalizing r givenUp with
  | nil => exact ⟨h, (List.append_nil _).symm⟩
  | cons slot slots ih =>
      obtain ⟨⟨hsound, hshown⟩, hrest⟩ := List.forall_mem_cons.mp hslots
      obtain ⟨haccounts, hfeeds⟩ := ih (h.add hsound hshown) hrest
      rw [List.foldl_cons]
      constructor
      · have hcount : givenUp + (slot :: slots).countP (·.giveUp) =
            givenUp + slot.giveUp.toNat + slots.countP (·.giveUp) := by
          rw [List.countP_cons]
          cases slot.giveUp with
          | false => rfl
          | true =>
              show givenUp + (_ + 1) = givenUp + 1 + _
              omega
        rw [hcount]
        exact haccounts
      · rw [hfeeds, add_feeds, List.append_assoc]
        rfl

end AggregateStats

/-- A feed pings and is hung up on, which without retries loses it for good. -/
def lostForGood : List MonitorStep :=
  FeedMonitor.feedConnects ++ [FeedMonitor.tickPing (.sent 28), FeedMonitor.feedHangsUp]

def ConnectionState.text : ConnectionState → Text
  | .kDisconnected => "DISCONNECTED".toList
  | .kConnecting => "CONNECTING".toList
  | .kHandshaking => "HANDSHAKING".toList
  | .kHealthy => "HEALTHY".toList
  | .kDegraded => "DEGRADED".toList
  | .kFailed => "FAILED".toList
  | .kReconnecting => "RECONNECTING".toList

/-- `out << n`. -/
def decimal (n : Nat) : Text :=
  Nat.toDigits 10 n

/-- `out << std::setfill('0') << std::setw(2) << n`. -/
def twoDigits (n : Nat) : Text :=
  List.replicate (2 - (decimal n).length) '0' ++ decimal n

/-- `-` for a feed that is not connected. -/
def formatUptime (connectedSinceNs now : Int) : Text :=
  if connectedSinceNs ≤ 0 then ['-']
  else
    let elapsed := (max ((now - connectedSinceNs).tdiv 1000000000) 0).toNat
    twoDigits (elapsed / 3600) ++ ':' :: twoDigits (elapsed % 3600 / 60) ++
      ':' :: twoDigits (elapsed % 60)

/-- `percentile`, of sorted samples. -/
def percentile (sorted : List Int) (p : Float) : Float :=
  match sorted.head?, sorted.getLast? with
  | some first, some last =>
      if p ≤ 0.0 then Float.ofInt first
      else if p ≥ 100.0 then Float.ofInt last
      else
        let rank := p / 100.0 * Float.ofNat (sorted.length - 1)
        let lo := rank.toUInt64.toNat
        let hi := min (lo + 1) (sorted.length - 1)
        let frac := rank - Float.ofNat lo
        Float.ofInt (sorted.getD lo 0) * (1.0 - frac) + Float.ofInt (sorted.getD hi 0) * frac
  | _, _ => 0.0

def sortedCopy {n : Nat} (r : RingBuffer Int n) : List Int :=
  r.entries.mergeSort

section Table

variable (fixed2 : Float → Text)

def formatDurationNs (ns : Float) : Text :=
  if ns < 1000.0 then fixed2 ns ++ "ns".toList
  else if ns < 1000000.0 then fixed2 (ns / 1000.0) ++ "us".toList
  else if ns < 1000000000.0 then fixed2 (ns / 1000000.0) ++ "ms".toList
  else fixed2 (ns / 1000000000.0) ++ "s".toList

def formatRttOrDash (ns : Float) (heartbeatsAcked : Nat) : Text :=
  if heartbeatsAcked = 0 then ['-'] else formatDurationNs fixed2 ns

/-- The titles of the columns, and how wide they are. -/
def titles : List (Nat × Text) :=
  [(5, "FEED".toList), (13, "NAME".toList), (13, "STATE".toList), (11, "LAST_RTT".toList),
    (11, "EWMA_RTT".toList), (11, "P99_RTT".toList), (7, "MISSED".toList), (7, "RECONN".toList),
    (9, "UPTIME".toList)]

/-- The cells of a feed. -/
def feedCells (now : Int) (f : FeedSnapshot) : List (Nat × Text) :=
  [(5, decimal f.feedId.toNat), (13, f.name.toList), (13, f.state.text),
    (11, formatRttOrDash fixed2 (Float.ofInt f.stats.lastRttNs) f.stats.heartbeatsAcked),
    (11, formatRttOrDash fixed2 f.stats.ewmaRttNs f.stats.heartbeatsAcked),
    (11, formatRttOrDash fixed2 (percentile (sortedCopy f.stats.rttSamplesNs) 99.0)
      f.stats.heartbeatsAcked),
    (7, decimal f.stats.missed), (7, decimal f.stats.reconnects),
    (9, formatUptime f.stats.connectedSinceNs now)]

/-- The line of totals. -/
def totalsLine (stats : AggregateStats) : Text :=
  "Low-Latency TCP Heartbeat Monitor -- ".toList ++ decimal stats.feeds.length ++
    " feeds  (healthy=".toList ++ decimal stats.healthyCount ++
    " degraded=".toList ++ decimal stats.degradedCount ++
    " failed=".toList ++ decimal stats.failedCount ++
    " reconnecting=".toList ++ decimal stats.reconnectingCount ++ ")".toList

/-- The escape codes that clear a terminal. -/
def clearScreen (useAnsi : Bool) : Text :=
  if useAnsi then "\x1b[H\x1b[J".toList else []

def formatTable (stats : AggregateStats) (useAnsi : Bool) (now : Int) : Text :=
  clearScreen useAnsi ++ totalsLine stats ++ '\n' :: '\n' ::
    row ' ' titles ++ '\n' ::
    stats.feeds.flatMap fun f => row ' ' (feedCells fixed2 now f) ++ ['\n']

end Table

/-! ### Reading it -/

/-- How a stream prints a number: without blanks, and never nothing. -/
def Prints (fixed2 : Float → Text) : Prop :=
  ∀ ns, Solid isSpace (fixed2 ns)

theorem solid_literal {w : Text} (hne : w ≠ []) (hsolid : w.any isSpace = false) :
    Solid isSpace w :=
  ⟨hne, solid_of_any hsolid⟩

theorem solid_append {v w : Text} (hv : Solid isSpace v) (hw : ∀ c ∈ w, isSpace c = false) :
    Solid isSpace (v ++ w) where
  ne_nil := by simp [hv.ne_nil]
  solid := List.forall_mem_append.mpr ⟨hv.solid, hw⟩

theorem solid_decimal (n : Nat) : Solid isSpace (decimal n) where
  ne_nil := Nat.toDigits_ne_nil
  solid := fun _ hc => isSpace_of_isDigit (Nat.isDigit_of_mem_toDigits (by omega) (by omega) hc)

theorem isDigit_of_mem_twoDigits {n : Nat} {c : Char} (hc : c ∈ twoDigits n) :
    c.isDigit = true := by
  rcases List.mem_append.mp hc with hzero | hdigit
  · rw [List.eq_of_mem_replicate hzero]
    decide
  · exact Nat.isDigit_of_mem_toDigits (by omega) (by omega) hdigit

theorem solid_twoDigits (n : Nat) : Solid isSpace (twoDigits n) where
  ne_nil := List.append_ne_nil_of_right_ne_nil _ Nat.toDigits_ne_nil
  solid := fun _ hc => isSpace_of_isDigit (isDigit_of_mem_twoDigits hc)

theorem solid_formatUptime (connectedSinceNs now : Int) :
    Solid isSpace (formatUptime connectedSinceNs now) := by
  unfold formatUptime
  split
  · exact solid_literal (by decide) (by decide)
  · dsimp only
    refine solid_append (solid_append (solid_twoDigits _) ?_) ?_
    · exact List.forall_mem_cons.mpr ⟨by decide, (solid_twoDigits _).solid⟩
    · exact List.forall_mem_cons.mpr ⟨by decide, (solid_twoDigits _).solid⟩

theorem solid_text (s : ConnectionState) : Solid isSpace s.text := by
  cases s <;> exact solid_literal (by decide) (by decide)

theorem solid_formatRttOrDash {fixed2 : Float → Text} (h : Prints fixed2) (ns : Float)
    (heartbeatsAcked : Nat) : Solid isSpace (formatRttOrDash fixed2 ns heartbeatsAcked) := by
  unfold formatRttOrDash formatDurationNs
  split
  · exact solid_literal (by decide) (by decide)
  · split
    · exact solid_append (h _) (solid_of_any (by decide))
    · split
      · exact solid_append (h _) (solid_of_any (by decide))
      · split
        · exact solid_append (h _) (solid_of_any (by decide))
        · exact solid_append (h _) (solid_of_any (by decide))

theorem solid_feedCells {fixed2 : Float → Text} (h : Prints fixed2) (now : Int) {f : FeedSnapshot}
    (hname : Solid isSpace f.name.toList) :
    ∀ cell ∈ feedCells fixed2 now f, Solid isSpace cell.2 := by
  simp only [feedCells, List.forall_mem_cons, List.not_mem_nil, false_imp_iff, implies_true,
    and_true]
  exact ⟨solid_decimal _, hname, solid_text _, solid_formatRttOrDash h _ _,
    solid_formatRttOrDash h _ _, solid_formatRttOrDash h _ _, solid_decimal _, solid_decimal _,
    solid_formatUptime _ _⟩

theorem newline_notMem_row {cells : List (Nat × Text)}
    (h : ∀ cell ∈ cells, Solid isSpace cell.2) : '\n' ∉ row ' ' cells := by
  intro hmem
  obtain ⟨cell, hcell, hin⟩ := List.mem_flatMap.mp hmem
  rcases List.mem_append.mp hin with hin | hblank
  · rcases List.mem_append.mp hin with hword | hblank
    · have hspace := (h cell hcell).solid _ hword
      cases hspace
    · cases List.eq_of_mem_replicate hblank
  · cases List.mem_singleton.mp hblank

theorem newline_notMem_decimal (n : Nat) : '\n' ∉ decimal n := by
  intro hmem
  have hspace := (solid_decimal n).solid _ hmem
  cases hspace

theorem newline_notMem_of_all {s : Text} (h : s.all (· != '\n') = true) : '\n' ∉ s :=
  fun hmem => absurd (List.all_eq_true.mp h _ hmem) (by decide)

/-- A text and a number are put behind a line. -/
theorem newline_notMem_counted {front text : Text} (hfront : '\n' ∉ front)
    (htext : text.all (· != '\n') = true) (n : Nat) : '\n' ∉ front ++ text ++ decimal n := by
  apply List.not_mem_append
  · exact List.not_mem_append hfront (newline_notMem_of_all htext)
  · exact newline_notMem_decimal n

theorem newline_notMem_totalsLine (stats : AggregateStats) : '\n' ∉ totalsLine stats := by
  apply List.not_mem_append
  · apply newline_notMem_counted _ (by decide +kernel)
    apply newline_notMem_counted _ (by decide +kernel)
    apply newline_notMem_counted _ (by decide +kernel)
    apply newline_notMem_counted _ (by decide +kernel)
    apply List.not_mem_append
    · exact newline_notMem_of_all (by decide +kernel)
    · exact newline_notMem_decimal _
  · exact newline_notMem_of_all (by decide +kernel)

/-- The lines of the table: the totals, an empty one, the titles and the feeds. -/
theorem lines_formatTable {fixed2 : Float → Text} (h : Prints fixed2) (stats : AggregateStats)
    (useAnsi : Bool) (now : Int) (hnames : ∀ f ∈ stats.feeds, Solid isSpace f.name.toList) :
    Lines.lines '\n' (formatTable fixed2 stats useAnsi now) =
      (clearScreen useAnsi ++ totalsLine stats) :: [] :: row ' ' titles ::
        stats.feeds.map fun f => row ' ' (feedCells fixed2 now f) := by
  have hfirst : '\n' ∉ clearScreen useAnsi ++ totalsLine stats := by
    rw [List.mem_append, not_or]
    refine ⟨?_, newline_notMem_totalsLine stats⟩
    cases useAnsi with
    | false => exact List.not_mem_nil
    | true => exact newline_notMem_of_all (by decide +kernel)
  have htitles : '\n' ∉ row ' ' titles := newline_notMem_of_all (by decide +kernel)
  have hrows : ∀ l ∈ stats.feeds.map fun f => row ' ' (feedCells fixed2 now f), '\n' ∉ l := by
    intro l hl
    obtain ⟨f, hf, rfl⟩ := List.mem_map.mp hl
    exact newline_notMem_row (solid_feedCells h now (hnames f hf))
  have hcut : formatTable fixed2 stats useAnsi now =
      (clearScreen useAnsi ++ totalsLine stats) ++ '\n' :: ([] ++ '\n' ::
        (row ' ' titles ++ '\n' ::
          (stats.feeds.map fun f => row ' ' (feedCells fixed2 now f)).flatMap (· ++ ['\n']))) := by
    rw [formatTable, List.flatMap_map, List.append_assoc]
    rfl
  rw [hcut, Lines.lines_line hfirst, Lines.lines_line List.not_mem_nil, Lines.lines_line htitles,
    Lines.lines_flatMap hrows]

/-- The widths of the columns. -/
def widths : List Nat :=
  titles.map Prod.fst

/-- What a stream prints for zero. -/
def printsZero (_ : Float) : Text :=
  "0.00".toList

/-- A healthy feed without a PONG yet, and a lost one whose name is too long for
its column. -/
def oneFeedLost : List MonitorStep :=
  FeedMonitor.feedConnects ++ [FeedMonitor.tickPing (.sent 28),
    .command (.addFeed { feedId := 8, name := "a-very-long-name" } (some 6) 11),
    .connectionEvent 6 { epollHup := true } 20 { failedAt := 20 }]

/-- The snapshot after that. -/
def shownFeeds : AggregateStats :=
  (oneFeedLost.foldl FeedMonitor.step (FeedMonitor.create {} 3 4)).snapshotStats

end Vigil
