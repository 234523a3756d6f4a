import Mathlib.Algebra.Group.Nat.Defs
import Mathlib.Logic.Function.Iterate

/-!
# Reflected CRC registers

A reflected CRC over a polynomial `poly` of width `w` keeps a `w`-bit
register.  Each message bit is added at the low end and the register is
shifted down once, with `poly` added if a one falls out (`feedBit`).

Shifting is linear in exclusive or, and one to one when the top coefficient of
`poly` is set.  The main results: the low `n` bits of the register can be
shifted apart from the rest, which is what a lookup table does
(`iterate_shift_split`); at most `w` message bits come to as many shifts of the
register with all of them added at once (`feedBits_eq`); and a change confined
to `w` consecutive message bits changes the register for good (`burst`).
-/

namespace Crc

variable {w : Nat}

/-- One shift of the register. -/
def shift (poly c : BitVec w) : BitVec w :=
  if c.getLsbD 0 then poly ^^^ (c >>> 1) else c >>> 1

/-- One message bit at the low end of the register. -/
def lowBit (w : Nat) (bit : Bool) : BitVec w :=
  (BitVec.ofBool bit).setWidth w

/-- Add one message bit and shift. -/
def feedBit (poly c : BitVec w) (bit : Bool) : BitVec w :=
  shift poly (c ^^^ lowBit w bit)

def feedBits (poly c : BitVec w) (bits : List Bool) : BitVec w :=
  bits.foldl (feedBit poly) c

variable {poly : BitVec w}

/-! ## Shifts -/

/-- **Linearity.** -/
theorem shift_xor (a b : BitVec w) : shift poly (a ^^^ b) = shift poly a ^^^ shift poly b := by
  have hcancel : ∀ p x y : BitVec w, p ^^^ x ^^^ (p ^^^ y) = x ^^^ y := by
    intro p x y
    rw [BitVec.xor_comm p x, BitVec.xor_assoc, ← BitVec.xor_assoc p p y, BitVec.xor_self,
      BitVec.zero_xor]
  simp only [shift, BitVec.getLsbD_xor, BitVec.ushiftRight_xor_distrib]
  cases a.getLsbD 0 <;> cases b.getLsbD 0
  · rfl
  · calc poly ^^^ (a >>> 1 ^^^ b >>> 1)
        = (poly ^^^ a >>> 1) ^^^ b >>> 1 := (BitVec.xor_assoc _ _ _).symm
      _ = a >>> 1 ^^^ (poly ^^^ b >>> 1) := by rw [BitVec.xor_comm poly, BitVec.xor_assoc]
  · exact (BitVec.xor_assoc _ _ _).symm
  · exact (hcancel _ _ _).symm

theorem iterate_shift_xor (n : Nat) (a b : BitVec w) :
    (shift poly)^[n] (a ^^^ b) = (shift poly)^[n] a ^^^ (shift poly)^[n] b := by
  induction n generalizing a b with
  | zero => rfl
  | succ n ih =>
      simp only [Function.iterate_succ, Function.comp_apply]
      rw [shift_xor, ih]

/-- Zeros at the low end are shifted out without a trace. -/
theorem iterate_shift_low {n : Nat} {c : BitVec w} (h : ∀ i < n, c.getLsbD i = false) :
    (shift poly)^[n] c = c >>> n := by
  induction n with
  | zero => simp
  | succ n ih =>
      have hbit : (c >>> n).getLsbD 0 = false := by
        rw [BitVec.getLsbD_ushiftRight]
        exact h n (by omega)
      rw [Function.iterate_succ', Function.comp_apply, ih fun i hi => h i (by omega), shift, hbit,
        if_neg (by decide), BitVec.shiftRight_add]

/-- **The lookup identity.**  The low `n` bits go through `n` shifts, the rest
only moves down. -/
theorem iterate_shift_split (n : Nat) (c : BitVec w) :
    (shift poly)^[n] c =
      (shift poly)^[n] (c &&& BitVec.ofNat w (2 ^ n - 1)) ^^^ (c >>> n) := by
  have hmask : ∀ i, (BitVec.ofNat w (2 ^ n - 1)).getLsbD i =
      (decide (i < w) && decide (i < n)) := by
    intro i
    rw [BitVec.getLsbD_ofNat, Nat.testBit_two_pow_sub_one]
  have hsplit : c =
      (c &&& BitVec.ofNat w (2 ^ n - 1)) ^^^ (c &&& ~~~BitVec.ofNat w (2 ^ n - 1)) := by
    apply BitVec.eq_of_getLsbD_eq
    intro i hi
    simp only [BitVec.getLsbD_xor, BitVec.getLsbD_and, BitVec.getLsbD_not, hi, decide_true]
    cases c.getLsbD i <;> cases (BitVec.ofNat w (2 ^ n - 1)).getLsbD i <;> rfl
  have hhigh : (shift poly)^[n] (c &&& ~~~BitVec.ofNat w (2 ^ n - 1)) = c >>> n := by
    rw [iterate_shift_low]
    · apply BitVec.eq_of_getLsbD_eq
      intro i hi
      simp only [BitVec.getLsbD_ushiftRight, BitVec.getLsbD_and, BitVec.getLsbD_not, hmask]
      by_cases hlt : n + i < w
      · simp [hlt]
      · simp [BitVec.getLsbD_of_ge c (n + i) (by omega)]
    · intro i hi
      simp only [BitVec.getLsbD_and, BitVec.getLsbD_not, hmask]
      simp [hi]
  calc (shift poly)^[n] c
      = (shift poly)^[n]
          ((c &&& BitVec.ofNat w (2 ^ n - 1)) ^^^ (c &&& ~~~BitVec.ofNat w (2 ^ n - 1))) := by
        rw [← hsplit]
    _ = (shift poly)^[n] (c &&& BitVec.ofNat w (2 ^ n - 1)) ^^^ (c >>> n) := by
        rw [iterate_shift_xor, hhigh]

/-- A shift loses nothing: the top bit shows whether `poly` was added. -/
theorem shift_injective (hpoly : poly.msb = true) : Function.Injective (shift poly) := by
  have hw : 0 < w := by
    rcases Nat.eq_zero_or_pos w with rfl | hw
    · simp [BitVec.msb] at hpoly
    · exact hw
  have hzero : ∀ c, shift poly c = 0#w → c = 0#w := by
    intro c h
    unfold shift at h
    split at h
    · have hsame : poly = c >>> 1 := BitVec.xor_eq_zero_iff.mp h
      rw [hsame, BitVec.msb_ushiftRight] at hpoly
      simp at hpoly
    · next hlow =>
        apply BitVec.eq_of_getLsbD_eq
        intro i hi
        cases i with
        | zero => simpa using hlow
        | succ i =>
            have hbit := congrArg (fun x : BitVec w => x.getLsbD i) h
            rw [BitVec.getLsbD_ushiftRight, Nat.add_comm] at hbit
            simpa using hbit
  intro a b h
  refine BitVec.xor_eq_zero_iff.mp (hzero _ ?_)
  rw [shift_xor, h, BitVec.xor_self]

/-! ## Message bits -/

/-- The number whose bits, lowest first, are `bits`. -/
def word (w : Nat) : List Bool → BitVec w
  | [] => 0
  | bit :: bits => lowBit w bit ^^^ (word w bits <<< 1)

theorem getLsbD_lowBit (bit : Bool) {i : Nat} (hi : i < w) :
    (lowBit w bit).getLsbD i = (decide (i = 0) && bit) := by
  cases i with
  | zero => simp [lowBit, hi]
  | succ i => simp [lowBit]

theorem getLsbD_word {bits : List Bool} {i : Nat} (hi : i < w) :
    (word w bits).getLsbD i = bits.getD i false := by
  induction bits generalizing i with
  | nil => simp [word]
  | cons bit bits ih =>
      rw [word, BitVec.getLsbD_xor, getLsbD_lowBit bit hi, BitVec.getLsbD_shiftLeft]
      cases i with
      | zero => simp
      | succ i =>
          have hrest := ih (i := i) (by omega)
          simpa [hi] using hrest

theorem word_injective {bits bits' : List Bool} (hlen : bits.length = bits'.length)
    (hw : bits.length ≤ w) (h : word w bits = word w bits') : bits = bits' := by
  refine List.ext_getElem hlen fun i hi hi' => ?_
  have hbit := congrArg (fun x : BitVec w => x.getLsbD i) h
  simp only [getLsbD_word (show i < w by omega)] at hbit
  simpa [List.getD_eq_getElem?_getD, hi, hi'] using hbit

/-- A register that leaves room at the top survives going up and down. -/
theorem shift_shiftLeft {c : BitVec w} (h : c.getLsbD (w - 1) = false) :
    shift poly (c <<< 1) = c := by
  have hlow : (c <<< 1).getLsbD 0 = false := by simp
  rw [shift, hlow, if_neg (by decide)]
  apply BitVec.eq_of_getLsbD_eq
  intro i hi
  rw [BitVec.getLsbD_ushiftRight, BitVec.getLsbD_shiftLeft]
  by_cases hlast : i = w - 1
  · rw [hlast, h]
    simp
    omega
  · have hlt : 1 + i < w := by omega
    simp [hlt]

/-- **All bits at once.** -/
theorem feedBits_eq {bits : List Bool} (hw : bits.length ≤ w) (c : BitVec w) :
    feedBits poly c bits = (shift poly)^[bits.length] (c ^^^ word w bits) := by
  induction bits generalizing c with
  | nil => simp [feedBits, word]
  | cons bit bits ih =>
      simp only [List.length_cons] at hw
      have htop : (word w bits).getLsbD (w - 1) = false := by
        rw [getLsbD_word (by omega)]
        simp [List.getD_eq_getElem?_getD, show bits.length ≤ w - 1 by omega]
      have hstep : shift poly (c ^^^ word w (bit :: bits)) =
          feedBit poly c bit ^^^ word w bits := by
        rw [word, ← BitVec.xor_assoc, shift_xor, shift_shiftLeft htop]
        rfl
      calc feedBits poly c (bit :: bits)
          = (shift poly)^[bits.length] (feedBit poly c bit ^^^ word w bits) :=
            ih (by omega) (feedBit poly c bit)
        _ = (shift poly)^[bits.length + 1] (c ^^^ word w (bit :: bits)) := by
            rw [Function.iterate_succ, Function.comp_apply, hstep]

theorem feedBits_append (c : BitVec w) (bits more : List Bool) :
    feedBits poly c (bits ++ more) = feedBits poly (feedBits poly c bits) more :=
  List.foldl_append

/-- The register remembers where it came from. -/
theorem feedBits_injective (hpoly : poly.msb = true) (bits : List Bool) :
    Function.Injective fun c : BitVec w => feedBits poly c bits := by
  induction bits with
  | nil => exact fun _ _ h => h
  | cons bit bits ih =>
      intro a b h
      exact (BitVec.xor_left_inj _).mp (shift_injective hpoly (ih h))

/-- **Bursts.**  Messages that differ only within `w` consecutive bits leave
different registers. -/
theorem burst (hpoly : poly.msb = true) (c : BitVec w) (before after : List Bool)
    {bits bits' : List Bool} (hlen : bits.length = bits'.length) (hw : bits.length ≤ w)
    (hne : bits ≠ bits') :
    feedBits poly c (before ++ (bits ++ after)) ≠ feedBits poly c (before ++ (bits' ++ after)) := by
  intro h
  rw [feedBits_append, feedBits_append, feedBits_append, feedBits_append] at h
  have hwindow : feedBits poly (feedBits poly c before) bits =
      feedBits poly (feedBits poly c before) bits' := feedBits_injective hpoly after h
  have hw' : bits'.length ≤ w := hlen ▸ hw
  rw [feedBits_eq hw, feedBits_eq hw', ← hlen] at hwindow
  have hshifted := (shift_injective hpoly).iterate bits.length hwindow
  exact hne (word_injective hlen hw ((BitVec.xor_right_inj _).mp hshifted))

end Crc
