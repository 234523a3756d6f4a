import Vigil.ConfigValues
import Vigil.FeedMonitor
import Vigil.Stamps
import Mathlib.Tactic.Positivity
import Mathlib.Tactic.Ring

/-!
# Durations in nanoseconds

The parsers take any positive number of milliseconds that a `long long` holds.
At run time the four durations are multiplied by 10^6, the backoff is doubled
up to 30 times while it is below its maximum, and the interval is added to the
clock, all in signed 64 bits.  `Usable` says that none of these results leaves
the range; `durations_usable_iff` gives the exact bounds on the settings.
-/

namespace Vigil

/-! ## The doubling loop -/

/-- The results of `delay *= 2` in the doubling loop of `reconnect_delay_ns`. -/
def doublings (maxDelay : Int) : Nat → Int → List Int
  | 0, _ => []
  | turns + 1, delay =>
      if delay < maxDelay then delay * 2 :: doublings maxDelay turns (delay * 2) else []

/-- The loop ends with the last of them. -/
theorem doubleDelay_eq (maxDelay : Int) (turns : Nat) (delay : Int) :
    doubleDelay maxDelay turns delay = (doublings maxDelay turns delay).getLast?.getD delay := by
  induction turns generalizing delay with
  | zero => rfl
  | succ turns ih =>
      unfold doubleDelay doublings
      split
      · rw [ih, List.getLast?_cons, Option.getD_some]
      · rfl

/-- A positive delay is doubled as long as it is below the maximum. -/
theorem mem_doublings {maxDelay delay v : Int} {turns : Nat} (hpos : 0 < delay) :
    v ∈ doublings maxDelay turns delay ↔
      ∃ k < turns, delay * 2 ^ k < maxDelay ∧ v = delay * 2 ^ (k + 1) := by
  induction turns generalizing delay with
  | zero => simp [doublings]
  | succ turns ih =>
      have hstep : ∀ k, delay * 2 * 2 ^ k = delay * 2 ^ (k + 1) := fun k => by ring
      unfold doublings
      by_cases hlt : delay < maxDelay
      · rw [if_pos hlt, List.mem_cons, ih (by omega)]
        simp only [hstep]
        constructor
        · rintro (rfl | ⟨k, hk, hbelow, rfl⟩)
          · exact ⟨0, by omega, by simpa using hlt, by ring⟩
          · exact ⟨k + 1, by omega, hbelow, rfl⟩
        · rintro ⟨k, hk, hbelow, rfl⟩
          cases k with
          | zero => exact Or.inl (by ring)
          | succ k => exact Or.inr ⟨k, by omega, hbelow, rfl⟩
      · -- the first turn already ends the loop
        rw [if_neg hlt]
        simp only [List.not_mem_nil, false_iff]
        rintro ⟨k, -, hbelow, -⟩
        have hone : (1 : Int) ≤ 2 ^ k := one_le_pow₀ (by norm_num)
        have hgrown : delay * 1 ≤ delay * 2 ^ k := Int.mul_le_mul_of_nonneg_left hone (by omega)
        omega

theorem doubleDelay_pos {maxDelay delay : Int} {turns : Nat} (hpos : 0 < delay) :
    0 < doubleDelay maxDelay turns delay := by
  rw [doubleDelay_eq]
  cases hlast : (doublings maxDelay turns delay).getLast? with
  | none => exact hpos
  | some v =>
      obtain ⟨k, -, -, rfl⟩ := (mem_doublings hpos).mp (List.mem_of_getLast? hlast)
      exact Int.mul_pos hpos (by positivity)

/-! ## What is computed from the settings -/

namespace Config

/-- The delay of `reconnect_delay_ns` before the jitter. -/
def backoffNs (cfg : Config) (attempt : Int) : Int :=
  min (doubleDelay (toNs cfg.reconnectMaxDelay) (min attempt 30).toNat
    (toNs cfg.reconnectBaseDelay)) (toNs cfg.reconnectMaxDelay)

theorem reconnectDelayNs_eq (cfg : Config) (attempt : Int) (factor : JitterFactor) :
    reconnectDelayNs cfg attempt factor = truncateToInt (cfg.backoffNs attempt * factor.val) :=
  rfl

/-- Every result computed from the four durations is a signed 64-bit number,
and the times in use are positive. -/
structure Usable (cfg : Config) : Prop where
  interval : IsInt64 cfg.intervalNs
  timeout : IsInt64 cfg.timeoutNs
  baseDelay : IsInt64 (toNs cfg.reconnectBaseDelay)
  maxDelay : IsInt64 (toNs cfg.reconnectMaxDelay)
  doubled : ∀ attempt : Int, ∀ v ∈ doublings (toNs cfg.reconnectMaxDelay) (min attempt 30).toNat
    (toNs cfg.reconnectBaseDelay), IsInt64 v
  nextPing : ∀ now : Int, IsInt64 now → now < 2 ^ 62 → IsInt64 (now + cfg.intervalNs)
  positive : 0 < cfg.timeoutNs ∧ 0 < cfg.intervalNs ∧ ∀ attempt, 0 < cfg.backoffNs attempt

/-- The settings, in milliseconds, are small enough. -/
structure DurationsFit (cfg : Config) : Prop where
  interval : cfg.heartbeatInterval ≤ 4611686018427
  timeout : cfg.heartbeatTimeout ≤ 9223372036854
  baseDelay : cfg.reconnectBaseDelay ≤ 9223372036854
  maxDelay : cfg.reconnectMaxDelay ≤ 9223372036854
  doubled : ∀ k < 30, toNs cfg.reconnectBaseDelay * 2 ^ k < toNs cfg.reconnectMaxDelay →
    toNs cfg.reconnectBaseDelay * 2 ^ k < 2 ^ 62

/-- The durations the parsers let through. -/
structure DurationsPositive (cfg : Config) : Prop where
  interval : 1 ≤ cfg.heartbeatInterval
  timeout : 1 ≤ cfg.heartbeatTimeout
  baseDelay : 1 ≤ cfg.reconnectBaseDelay
  maxDelay : 1 ≤ cfg.reconnectMaxDelay

theorem isInt64_toNs {ms : Int} (h : 1 ≤ ms) : IsInt64 (toNs ms) ↔ ms ≤ 9223372036854 := by
  unfold IsInt64 toNs
  omega

theorem toNs_pos {ms : Int} (h : 1 ≤ ms) : 0 < toNs ms := by
  unfold toNs
  omega

/-- The sum a tick computes. -/
theorem isInt64_nextPing {ms : Int} (h : 1 ≤ ms) :
    (∀ now : Int, IsInt64 now → now < 2 ^ 62 → IsInt64 (now + toNs ms)) ↔
      ms ≤ 4611686018427 := by
  unfold IsInt64 toNs
  constructor
  · intro hall
    have hlatest := hall (2 ^ 62 - 1) (by decide) (by decide)
    omega
  · intro hle now hrange hnow
    omega

/-- The products of the loop, for every attempt count. -/
theorem isInt64_doublings {base maxDelay : Int} (h : 0 < base) :
    (∀ attempt : Int, ∀ v ∈ doublings maxDelay (min attempt 30).toNat base, IsInt64 v) ↔
      ∀ k < 30, base * 2 ^ k < maxDelay → base * 2 ^ k < 2 ^ 62 := by
  constructor
  · intro hall k hk hbelow
    have hrange := hall 30 (base * 2 ^ (k + 1)) ((mem_doublings h).mpr ⟨k, hk, hbelow, rfl⟩)
    have hdouble : base * 2 ^ (k + 1) = base * 2 ^ k * 2 := by ring
    unfold IsInt64 at hrange
    omega
  · intro hfit attempt v hv
    obtain ⟨k, hk, hbelow, rfl⟩ := (mem_doublings h).mp hv
    have hle := hfit k (by omega) hbelow
    have hdouble : base * 2 ^ (k + 1) = base * 2 ^ k * 2 := by ring
    have hpos : 0 < base * 2 ^ k := Int.mul_pos h (by positivity)
    unfold IsInt64
    omega

theorem DurationsPositive.usable_iff {cfg : Config} (h : cfg.DurationsPositive) :
    cfg.Usable ↔ cfg.DurationsFit := by
  have hbase := toNs_pos h.baseDelay
  constructor
  · intro hu
    exact ⟨(isInt64_nextPing h.interval).mp hu.nextPing, (isInt64_toNs h.timeout).mp hu.timeout,
      (isInt64_toNs h.baseDelay).mp hu.baseDelay, (isInt64_toNs h.maxDelay).mp hu.maxDelay,
      (isInt64_doublings hbase).mp hu.doubled⟩
  · intro hf
    have hinterval := hf.interval
    refine ⟨(isInt64_toNs h.interval).mpr (by omega), (isInt64_toNs h.timeout).mpr hf.timeout,
      (isInt64_toNs h.baseDelay).mpr hf.baseDelay, (isInt64_toNs h.maxDelay).mpr hf.maxDelay,
      (isInt64_doublings hbase).mpr hf.doubled, (isInt64_nextPing h.interval).mpr hinterval,
      toNs_pos h.timeout, toNs_pos h.interval, ?_⟩
    intro attempt
    exact lt_min (doubleDelay_pos hbase) (toNs_pos h.maxDelay)

end Config

/-! ## What the parsers let through -/

namespace NumericField

/-- A 64-bit field of a config file respects its least value. -/
theorem get_parseConfigText_ge (text : Text) {field : NumericField}
    (hwide : field.isNarrow = false) :
    field.minValue ≤ get (parseConfigText text).config field := by
  rw [get_parseConfigText]
  cases hlast : ((field.fileValues text).filterMap field.takes).getLast? with
  | none => exact field.default_ge
  | some v =>
      obtain ⟨raw, -, htakes⟩ := List.mem_filterMap.1 (List.mem_of_getLast? hlast)
      obtain ⟨w, haccepts, rfl⟩ := Option.map_eq_some_iff.1 htakes
      have hge := (accepts_eq_some.1 haccepts).2.2.2
      have hheld : field.held w = w := (held_eq_iff hge).2 (by simp [hwide])
      rw [Option.getD_some, hheld]
      exact hge

theorem get_applyCliOverrides_ge (files : Text → Option Text) (options : List CliOption)
    {field : NumericField} (hwide : field.isNarrow = false) :
    field.minValue ≤ get (applyCliOverrides files {} options).config field := by
  have hge := written_ge files options field
  have hheld : field.held (written files options field) = written files options field :=
    (held_eq_iff hge).2 (by simp [hwide])
  rw [get_applyCliOverrides, hheld]
  exact hge

end NumericField

theorem durationsPositive_of_get {cfg : Config}
    (h : ∀ field : NumericField, field.isNarrow = false → field.minValue ≤ field.get cfg) :
    cfg.DurationsPositive :=
  ⟨h .heartbeatInterval rfl, h .heartbeatTimeout rfl, h .reconnectBaseDelay rfl,
    h .reconnectMaxDelay rfl⟩

/-- **The durations are usable exactly if they fit.**  For every configuration
that a config file or a command line gives. -/
theorem durations_usable_iff (text : Text) (files : Text → Option Text)
    (options : List CliOption) :
    ((parseConfigText text).config.Usable ↔ (parseConfigText text).config.DurationsFit) ∧
      ((applyCliOverrides files {} options).config.Usable ↔
        (applyCliOverrides files {} options).config.DurationsFit) := by
  constructor
  · apply Config.DurationsPositive.usable_iff
    exact durationsPositive_of_get fun _ hwide => NumericField.get_parseConfigText_ge text hwide
  · apply Config.DurationsPositive.usable_iff
    exact durationsPositive_of_get fun _ hwide =>
      NumericField.get_applyCliOverrides_ge files options hwide

/-- `heartbeat_timeout_ms = 9223372036855` is accepted, and 10^6 times that is
beyond 2^63. -/
theorem timeout_overflows :
    ¬ ∀ text : Text, (parseConfigText text).config.Usable := by
  intro hall
  have hrange := (hall "heartbeat_timeout_ms=9223372036855\n".toList).timeout
  exact absurd hrange.2 (by decide +kernel)

end Vigil
