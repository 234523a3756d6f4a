import Vigil.Durations
import Mathlib.Tactic.Linarith

/-!
# The backoff law

`reconnect_delay_ns` doubles the base delay once per attempt while it is below
the maximum, and caps the result.  For delays of at least a millisecond whose
doubles fit 64 bits the loop computes `min (base * 2 ^ min attempt 30) max`,
never overflows, and with any jitter factor between 3/4 and 5/4 the delay used
stays positive and in the band (`backoff_law`).
-/

namespace Vigil

/-- **Closed form of the loop.**  Stopping early is invisible under the cap. -/
theorem min_doubleDelay {maxDelay delay : Int} (turns : Nat) (hpos : 0 < delay) :
    min (doubleDelay maxDelay turns delay) maxDelay = min (delay * 2 ^ turns) maxDelay := by
  induction turns generalizing delay with
  | zero => simp [doubleDelay]
  | succ turns ih =>
      unfold doubleDelay
      split
      · rw [ih (by omega), pow_succ, Int.mul_comm (2 ^ turns) 2, Int.mul_assoc]
      · next hcapped =>
          have hone : (1 : Int) ≤ 2 ^ (turns + 1) := one_le_pow₀ (by norm_num)
          have hgrown : delay * 1 ≤ delay * 2 ^ (turns + 1) :=
            Int.mul_le_mul_of_nonneg_left hone (by omega)
          rw [min_eq_right (by omega), min_eq_right (by omega)]

namespace Config

variable {cfg : Config}

theorem backoffNs_eq (hbase : 1 ≤ cfg.reconnectBaseDelay) (attempt : Int) :
    cfg.backoffNs attempt =
      min (toNs cfg.reconnectBaseDelay * 2 ^ (min attempt 30).toNat)
        (toNs cfg.reconnectMaxDelay) :=
  min_doubleDelay _ (toNs_pos hbase)

theorem backoffNs_pos (hbase : 1 ≤ cfg.reconnectBaseDelay) (hmax : 1 ≤ cfg.reconnectMaxDelay)
    (attempt : Int) : 0 < cfg.backoffNs attempt :=
  lt_min (doubleDelay_pos (toNs_pos hbase)) (toNs_pos hmax)

theorem backoffNs_le (attempt : Int) : cfg.backoffNs attempt ≤ toNs cfg.reconnectMaxDelay :=
  min_le_right _ _

theorem backoffNs_mono (hbase : 1 ≤ cfg.reconnectBaseDelay) {a b : Int} (h : a ≤ b) :
    cfg.backoffNs a ≤ cfg.backoffNs b := by
  rw [backoffNs_eq hbase, backoffNs_eq hbase]
  have hpow : (2 : Int) ^ (min a 30).toNat ≤ 2 ^ (min b 30).toNat :=
    pow_le_pow_right₀ (by norm_num) (by omega)
  have hgrown := Int.mul_le_mul_of_nonneg_left hpow (Int.le_of_lt (toNs_pos hbase))
  exact min_le_min_right _ hgrown

/-- Both delays are whole milliseconds, so quarters of the backoff are whole
nanoseconds. -/
theorem four_dvd_backoffNs (hbase : 1 ≤ cfg.reconnectBaseDelay) (attempt : Int) :
    4 ∣ cfg.backoffNs attempt := by
  have hns : ∀ ms : Int, 4 ∣ toNs ms := fun ms => Dvd.dvd.mul_left (by norm_num) ms
  rw [backoffNs_eq hbase]
  rcases min_choice (toNs cfg.reconnectBaseDelay * 2 ^ (min attempt 30).toNat)
    (toNs cfg.reconnectMaxDelay) with h | h
  · rw [h]
    exact Dvd.dvd.mul_right (hns _) _
  · rw [h]
    exact hns _

/-- **The jitter band.** -/
theorem reconnectDelayNs_band (hbase : 1 ≤ cfg.reconnectBaseDelay)
    (hmax : 1 ≤ cfg.reconnectMaxDelay) (attempt : Int) (factor : JitterFactor) :
    3 * cfg.backoffNs attempt ≤ 4 * reconnectDelayNs cfg attempt factor ∧
      4 * reconnectDelayNs cfg attempt factor ≤ 5 * cfg.backoffNs attempt := by
  obtain ⟨factor, hlow, hhigh⟩ := factor
  obtain ⟨quarter, hquarter⟩ := four_dvd_backoffNs hbase attempt
  have hpos := backoffNs_pos hbase hmax attempt
  have hq : (0 : ℚ) < quarter := by
    have : 0 < quarter := by omega
    exact_mod_cast this
  rw [reconnectDelayNs_eq, hquarter]
  dsimp only
  have hbelow : ((3 * quarter : Int) : ℚ) ≤ ((4 * quarter : Int) : ℚ) * factor := by
    push_cast
    nlinarith only [hq, hlow]
  have habove : ((4 * quarter : Int) : ℚ) * factor ≤ ((5 * quarter : Int) : ℚ) := by
    push_cast
    nlinarith only [hq, hhigh]
  have hnonneg : (0 : ℚ) ≤ ((4 * quarter : Int) : ℚ) * factor := by
    push_cast
    nlinarith only [hq, hlow]
  rw [truncateToInt_eq_floor hnonneg]
  have hfloor : (⌊((4 * quarter : Int) : ℚ) * factor⌋ : ℚ) ≤ ((5 * quarter : Int) : ℚ) :=
    (Int.floor_le _).trans habove
  have hlower : 3 * quarter ≤ ⌊((4 * quarter : Int) : ℚ) * factor⌋ := Int.le_floor.mpr hbelow
  have hupper : ⌊((4 * quarter : Int) : ℚ) * factor⌋ ≤ 5 * quarter := by exact_mod_cast hfloor
  omega

theorem reconnectDelayNs_pos (hbase : 1 ≤ cfg.reconnectBaseDelay)
    (hmax : 1 ≤ cfg.reconnectMaxDelay) (attempt : Int) (factor : JitterFactor) :
    0 < reconnectDelayNs cfg attempt factor := by
  have hband := reconnectDelayNs_band hbase hmax attempt factor
  have hpos := backoffNs_pos hbase hmax attempt
  omega

/-- What the backoff is for: the closed form, no overflow, no step back, a
ceiling it stays at, and after the jitter a retry strictly later, within a
quarter of the backoff. -/
structure BackoffLaw (cfg : Config) : Prop where
  closedForm : ∀ attempt : Nat, cfg.backoffNs attempt =
    min (toNs cfg.reconnectBaseDelay * 2 ^ min attempt 30) (toNs cfg.reconnectMaxDelay)
  inRange : IsInt64 (toNs cfg.reconnectBaseDelay) ∧ IsInt64 (toNs cfg.reconnectMaxDelay) ∧
    ∀ attempt : Nat, ∀ v ∈ doublings (toNs cfg.reconnectMaxDelay) (min (attempt : Int) 30).toNat
      (toNs cfg.reconnectBaseDelay), IsInt64 v
  monotone : ∀ a b : Nat, a ≤ b → cfg.backoffNs a ≤ cfg.backoffNs b
  ceiling : ∀ a b : Nat, a ≤ b → cfg.backoffNs a = toNs cfg.reconnectMaxDelay →
    cfg.backoffNs b = toNs cfg.reconnectMaxDelay
  band : ∀ (attempt : Nat) (factor : JitterFactor),
    3 * cfg.backoffNs attempt ≤ 4 * reconnectDelayNs cfg attempt factor ∧
      4 * reconnectDelayNs cfg attempt factor ≤ 5 * cfg.backoffNs attempt
  positive : ∀ (attempt : Nat) (factor : JitterFactor), 0 < reconnectDelayNs cfg attempt factor
  later : ∀ (slot : Slot) (now : Int) (jitter : JitterFactor),
    ¬ (cfg.maxReconnectAttempts ≥ 0 ∧ slot.reconnectAttempts ≥ cfg.maxReconnectAttempts) →
      now < (slot.scheduleReconnect cfg now jitter).reconnectReadyAtNs

end Config

/-- **The backoff law**, for delays of at least a millisecond such that the
base and twice the maximum are signed 64-bit numbers of nanoseconds. -/
theorem backoff_law (cfg : Config) (hbase : 1 ≤ cfg.reconnectBaseDelay)
    (hmax : 1 ≤ cfg.reconnectMaxDelay) (hbaseFits : IsInt64 (toNs cfg.reconnectBaseDelay))
    (hmaxFits : IsInt64 (2 * toNs cfg.reconnectMaxDelay)) : cfg.BackoffLaw where
  closedForm := by
    intro attempt
    have hcapped : (min (attempt : Int) 30).toNat = min attempt 30 := by omega
    rw [Config.backoffNs_eq hbase, hcapped]
  inRange := by
    have hpos := Config.toNs_pos hmax
    unfold IsInt64 at hmaxFits
    refine ⟨hbaseFits, by unfold IsInt64; omega, fun attempt => ?_⟩
    refine (Config.isInt64_doublings (Config.toNs_pos hbase)).mpr ?_ attempt
    intro k _ hbelow
    omega
  monotone := by
    intro a b h
    exact Config.backoffNs_mono hbase (Int.ofNat_le.mpr h)
  ceiling := by
    intro a b h hreached
    have hle : cfg.backoffNs a ≤ cfg.backoffNs b :=
      Config.backoffNs_mono hbase (Int.ofNat_le.mpr h)
    have hcap : cfg.backoffNs b ≤ toNs cfg.reconnectMaxDelay := Config.backoffNs_le b
    omega
  band := fun attempt factor => Config.reconnectDelayNs_band hbase hmax attempt factor
  positive := fun attempt factor => Config.reconnectDelayNs_pos hbase hmax attempt factor
  later := by
    intro slot now jitter hbudget
    have hpos := Config.reconnectDelayNs_pos hbase hmax slot.reconnectAttempts jitter
    rw [Slot.scheduleReconnect]
    dsimp only
    rw [if_neg hbudget]
    dsimp only
    omega

/-- The default delays, 500 ms and 30 s. -/
theorem backoff_law_defaults : Config.BackoffLaw {} :=
  backoff_law {} (by decide) (by decide) (by decide) (by decide)

end Vigil
