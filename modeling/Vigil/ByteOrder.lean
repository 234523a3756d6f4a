import Mathlib.Tactic.Ring

/-!
# Fixed-width big-endian integers

`toNetwork n x` is the `n`-byte network-order rendering of a natural number and
`ofNetwork` reads such a rendering back.  The two round trips are
`ofNetwork_toNetwork` (what was written is read back, modulo the width) and
`toNetwork_ofNetwork` (what was read is written back unchanged).
-/

namespace ByteOrder

/-- One octet. -/
abbrev Byte := BitVec 8

/-- The `n` low-order bytes of `x`, most significant first. -/
def toNetwork : Nat → Nat → List Byte
  | 0, _ => []
  | n + 1, x => BitVec.ofNat 8 (x / 256 ^ n) :: toNetwork n x

/-- The number a big-endian byte string denotes. -/
def ofNetwork : List Byte → Nat
  | [] => 0
  | b :: bs => b.toNat * 256 ^ bs.length + ofNetwork bs

@[simp] theorem toNetwork_length (n x : Nat) : (toNetwork n x).length = n := by
  induction n with
  | zero => rfl
  | succ n ih => simp [toNetwork, ih]

/-- A byte string denotes a number below `256` to its length. -/
theorem ofNetwork_lt (bs : List Byte) : ofNetwork bs < 256 ^ bs.length := by
  induction bs with
  | nil => simp [ofNetwork]
  | cons b bs ih =>
      have hb : b.toNat + 1 ≤ 256 := b.isLt
      have hmul := Nat.mul_le_mul_right (256 ^ bs.length) hb
      simp only [ofNetwork, List.length_cons, pow_succ]
      rw [Nat.mul_comm (256 ^ bs.length) 256]
      rw [Nat.add_mul, Nat.one_mul] at hmul
      omega

/-- Reading back what was written gives the number modulo the width. -/
theorem ofNetwork_toNetwork (n x : Nat) : ofNetwork (toNetwork n x) = x % 256 ^ n := by
  induction n with
  | zero => simp [toNetwork, ofNetwork, Nat.mod_one]
  | succ n ih =>
      have hsplit : x % 256 ^ (n + 1) = x % 256 ^ n + 256 ^ n * (x / 256 ^ n % 256) := by
        rw [pow_succ, Nat.mod_mul]
      simp only [toNetwork, ofNetwork, toNetwork_length, ih, hsplit, BitVec.toNat_ofNat]
      norm_num
      ring

/-- Only the low-order bytes of a number are rendered. -/
theorem toNetwork_add_mul (n x k : Nat) : toNetwork n (k * 256 ^ n + x) = toNetwork n x := by
  induction n generalizing k with
  | zero => rfl
  | succ n ih =>
      have htail : toNetwork n (k * 256 ^ (n + 1) + x) = toNetwork n x := by
        have heq : k * 256 ^ (n + 1) + x = (k * 256) * 256 ^ n + x := by
          rw [pow_succ]; ring
        rw [heq, ih]
      have hhead : (k * 256 ^ (n + 1) + x) / 256 ^ n = k * 256 + x / 256 ^ n := by
        have heq : k * 256 ^ (n + 1) + x = x + 256 ^ n * (k * 256) := by
          rw [pow_succ]; ring
        rw [heq, Nat.add_mul_div_left _ _ (Nat.pow_pos (by decide)), Nat.add_comm]
      have hbyte : BitVec.ofNat 8 (k * 256 + x / 256 ^ n) = BitVec.ofNat 8 (x / 256 ^ n) := by
        apply BitVec.eq_of_toNat_eq
        simp only [BitVec.toNat_ofNat]
        omega
      simp only [toNetwork, htail, hhead, hbyte]

/-- Writing what was read restores the byte string. -/
theorem toNetwork_ofNetwork (bs : List Byte) : toNetwork bs.length (ofNetwork bs) = bs := by
  induction bs with
  | nil => rfl
  | cons b bs ih =>
      have hlt := ofNetwork_lt bs
      have hdiv : (b.toNat * 256 ^ bs.length + ofNetwork bs) / 256 ^ bs.length = b.toNat := by
        rw [Nat.mul_comm, Nat.mul_add_div (Nat.pow_pos (by decide)), Nat.div_eq_of_lt hlt, Nat.add_zero]
      simp only [List.length_cons, toNetwork, ofNetwork, hdiv, toNetwork_add_mul, ih,
        BitVec.ofNat_toNat, BitVec.setWidth_eq]

end ByteOrder
