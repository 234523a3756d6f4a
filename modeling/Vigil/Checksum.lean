import Vigil.Crc
import Vigil.Heartbeat

/-!
# What the checksum is and what it catches

`crc32_ieee` reads a table of eight-fold shifts once per byte.  It is the
standard reflected CRC-32, taken bit by bit (`crc32Ieee_eq_bitwise`).

Two accepted frames with one payload are one frame, and so are two accepted
frames with one checksum whose payloads agree outside four consecutive bytes.
Corruption confined to such a window, or to the checksum itself, is therefore
always caught (`localised_corruption_caught`).
-/

namespace Vigil

open ByteOrder

/-! ## The table is the bit-by-bit CRC -/

/-- The reflected polynomial of IEEE 802.3. -/
def kCrc32Polynomial : BitVec 32 := 0xEDB88320#32

/-- The bits of a byte as a reflected CRC takes them, lowest first. -/
def byteBits (b : Byte) : List Bool :=
  (List.range 8).map b.getLsbD

def messageBits (data : List Byte) : List Bool :=
  data.flatMap byteBits

/-- The standard CRC-32: initial value and final exclusive or all ones. -/
def crc32Bitwise (data : List Byte) : BitVec 32 :=
  Crc.feedBits kCrc32Polynomial 0xFFFFFFFF#32 (messageBits data) ^^^ 0xFFFFFFFF#32

theorem crc32Shift_eq : crc32Shift = Crc.shift kCrc32Polynomial := by
  funext c
  have hbit : (c &&& 1#32 = 1#32) ↔ c.getLsbD 0 = true := by
    rw [BitVec.and_one_eq_setWidth_ofBool_getLsbD]
    cases c.getLsbD 0 <;> decide
  simp only [crc32Shift, Crc.shift, hbit, kCrc32Polynomial]

theorem byteBits_length (b : Byte) : (byteBits b).length = 8 := by
  simp [byteBits]

theorem word_byteBits (b : Byte) : Crc.word 32 (byteBits b) = b.setWidth 32 := by
  apply BitVec.eq_of_getLsbD_eq
  intro i hi
  rw [Crc.getLsbD_word hi, BitVec.getLsbD_setWidth]
  by_cases hlt : i < 8
  · simp [byteBits, List.getD_eq_getElem?_getD, hlt, hi]
  · simp [byteBits, List.getD_eq_getElem?_getD, hlt, BitVec.getLsbD_of_ge b i (by omega)]

theorem kCrc32Table_get {i : Nat} (hi : i < 256) :
    kCrc32Table.get ⟨i, hi⟩ = crc32Shift^[8] (BitVec.ofNat 32 i) := by
  show kCrc32Table[i] = _
  rw [kCrc32Table, makeCrc32Table, Vector.getElem_ofFn]

/-- One table step is eight shifts of the register with the byte added. -/
theorem crc32Step_eq (crc : BitVec 32) (b : Byte) :
    crc32Step crc b = crc32Shift^[8] (crc ^^^ b.setWidth 32) := by
  have hbyte : (b.setWidth 32) >>> 8 = 0#32 := by
    apply BitVec.eq_of_getLsbD_eq
    intro i hi
    simp [BitVec.getLsbD_ushiftRight, BitVec.getLsbD_setWidth]
  have hmask : BitVec.ofNat 32 (2 ^ 8 - 1) = 0xFF#32 := rfl
  have hrest : (crc ^^^ b.setWidth 32) >>> 8 = crc >>> 8 := by
    rw [BitVec.ushiftRight_xor_distrib, hbyte, BitVec.xor_zero]
  rw [crc32Step, kCrc32Table_get, BitVec.ofNat_toNat, BitVec.setWidth_eq, crc32Shift_eq,
    Crc.iterate_shift_split 8 (crc ^^^ b.setWidth 32), hmask, hrest]

theorem crc32Step_feedBits (crc : BitVec 32) (b : Byte) :
    crc32Step crc b = Crc.feedBits kCrc32Polynomial crc (byteBits b) := by
  rw [crc32Step_eq, Crc.feedBits_eq (by simp [byteBits_length]), byteBits_length, word_byteBits,
    crc32Shift_eq]

/-- The register after any number of bytes. -/
theorem foldl_crc32Step (crc : BitVec 32) (data : List Byte) :
    data.foldl crc32Step crc = Crc.feedBits kCrc32Polynomial crc (messageBits data) := by
  induction data generalizing crc with
  | nil => rfl
  | cons b data ih =>
      rw [List.foldl_cons, ih, messageBits, messageBits, List.flatMap_cons, Crc.feedBits_append,
        crc32Step_feedBits]

/-- **`crc32_ieee` is the standard CRC-32**, and each of its steps is eight
single-bit steps on the register with the byte added. -/
theorem crc32Ieee_eq_bitwise (data : List Byte) :
    crc32Ieee data = crc32Bitwise data ∧
      ∀ crc b, crc32Step crc b = crc32Shift^[8] (crc ^^^ b.setWidth 32) := by
  refine ⟨?_, crc32Step_eq⟩
  rw [crc32Ieee, crc32Bitwise, foldl_crc32Step]

/-- The check value of CRC-32: the digits 1 to 9. -/
example : crc32Ieee [0x31, 0x32, 0x33, 0x34, 0x35, 0x36, 0x37, 0x38, 0x39] = 0xCBF43926#32 := by
  decide +kernel

/-! ## What it catches -/

theorem messageBits_length (data : List Byte) : (messageBits data).length = 8 * data.length := by
  induction data with
  | nil => rfl
  | cons b data ih =>
      rw [messageBits, List.flatMap_cons, List.length_append, byteBits_length, List.length_cons]
      rw [messageBits] at ih
      omega

theorem byteBits_injective : Function.Injective byteBits := by
  intro b b' h
  have hword := congrArg (Crc.word 32) h
  rw [word_byteBits, word_byteBits] at hword
  simpa using congrArg (BitVec.setWidth 8) hword

theorem messageBits_injective : Function.Injective messageBits := by
  intro data
  induction data with
  | nil =>
      intro data' h
      have hlength := congrArg List.length h
      simp only [messageBits_length, List.length_nil] at hlength
      exact (List.length_eq_zero_iff.mp (by omega)).symm
  | cons b data ih =>
      intro data' h
      cases data' with
      | nil =>
          have hlength := congrArg List.length h
          simp [messageBits_length] at hlength
      | cons b' data' =>
          obtain ⟨hhead, htail⟩ := List.append_inj h (by simp [byteBits_length])
          rw [byteBits_injective hhead, ih htail]

/-- Byte strings that differ only within four consecutive bytes have different
checksums. -/
theorem crc32Ieee_burst (before after : List Byte) {bytes bytes' : List Byte}
    (hlen : bytes.length = 4) (hlen' : bytes'.length = 4)
    (h : crc32Ieee (before ++ (bytes ++ after)) = crc32Ieee (before ++ (bytes' ++ after))) :
    bytes = bytes' := by
  have hregister := (BitVec.xor_left_inj _).mp h
  rw [foldl_crc32Step, foldl_crc32Step] at hregister
  simp only [messageBits, List.flatMap_append] at hregister
  by_contra hne
  refine Crc.burst rfl 0xFFFFFFFF#32 (messageBits before) (messageBits after) ?_ ?_ ?_ hregister
  · rw [← messageBits, ← messageBits, messageBits_length, messageBits_length, hlen, hlen']
  · rw [← messageBits, messageBits_length, hlen]
  · exact fun heq => hne (messageBits_injective heq)

/-- The checksum bytes of an accepted frame follow from its payload. -/
theorem checksum_of_accepted {wire : HeartbeatWireBuffer} {out : HeartbeatMessage}
    (h : (decodeHeartbeat wire out).1 = true) :
    (wire.bytes.drop 24).take 4 = toNetwork 4 (crc32Ieee (wire.bytes.take 24)).toNat := by
  have hlength : wire.bytes.length = 28 := wire.length_eq
  obtain ⟨-, -, -, hcrc, -⟩ := decode_accepts h
  rw [hcrc, store_field (by omega) (by norm_num)]

/-- The two frames agree outside the four bytes from `k` on. -/
def AgreeOutside (k : Nat) (wire wire' : HeartbeatWireBuffer) : Prop :=
  ∀ i, i < k ∨ k + 4 ≤ i → wire'.bytes[i]? = wire.bytes[i]?

section accepted

variable {wire wire' : HeartbeatWireBuffer} {out out' : HeartbeatMessage} {k : Nat}

theorem AgreeOutside.take (h : AgreeOutside k wire wire') :
    wire'.bytes.take k = wire.bytes.take k := by
  apply List.ext_getElem?
  intro i
  simp only [List.getElem?_take]
  split
  · next hi => exact h i (Or.inl hi)
  · rfl

theorem AgreeOutside.drop (h : AgreeOutside k wire wire') :
    wire'.bytes.drop (k + 4) = wire.bytes.drop (k + 4) := by
  apply List.ext_getElem?
  intro i
  rw [List.getElem?_drop, List.getElem?_drop]
  exact h (k + 4 + i) (Or.inr (by omega))

/-- Accepted frames with one payload are one frame. -/
theorem accepted_payload_unique (h : (decodeHeartbeat wire out).1 = true)
    (h' : (decodeHeartbeat wire' out').1 = true)
    (hpayload : wire'.bytes.take 24 = wire.bytes.take 24) : wire' = wire := by
  have hbytes : wire'.bytes = wire.bytes :=
    calc wire'.bytes
        = wire'.bytes.take 24 ++ (wire'.bytes.drop 24).take 4 := frame_slices wire'
      _ = wire.bytes.take 24 ++ (wire.bytes.drop 24).take 4 := by
          rw [checksum_of_accepted h, checksum_of_accepted h', hpayload]
      _ = wire.bytes := (frame_slices wire).symm
  cases wire
  cases wire'
  simp_all

/-- Accepted frames with one checksum whose payloads agree outside four
consecutive bytes have one payload. -/
theorem accepted_window_unique (h : (decodeHeartbeat wire out).1 = true)
    (h' : (decodeHeartbeat wire' out').1 = true) (hk : k + 4 ≤ 24)
    (hagree : AgreeOutside k wire wire') : wire'.bytes.take 24 = wire.bytes.take 24 := by
  have hlength : wire.bytes.length = 28 := wire.length_eq
  have hlength' : wire'.bytes.length = 28 := wire'.length_eq
  -- the payload in front of the window, in it, and behind it
  have hsplit : ∀ bytes : List Byte, bytes.take 24 =
      bytes.take k ++ ((bytes.drop k).take 4 ++ (bytes.drop (k + 4)).take (20 - k)) := by
    intro bytes
    rw [← List.append_assoc, ← List.take_add, ← List.take_add]
    congr 1
    omega
  have hchecksum : ∀ bytes : List Byte,
      loadNetwork bytes 24 4 = loadNetwork (bytes.drop (k + 4)) (20 - k) 4 := by
    intro bytes
    rw [loadNetwork, loadNetwork, List.drop_drop]
    congr 3
    omega
  obtain ⟨-, -, -, hcrc, -⟩ := decode_accepts h
  obtain ⟨-, -, -, hcrc', -⟩ := decode_accepts h'
  have hsame : crc32Ieee (wire'.bytes.take 24) = crc32Ieee (wire.bytes.take 24) := by
    rw [hcrc, hcrc', hchecksum, hchecksum, hagree.drop]
  rw [hsplit wire'.bytes, hsplit wire.bytes, hagree.take, hagree.drop] at hsame ⊢
  have hwindow : (wire'.bytes.drop k).take 4 = (wire.bytes.drop k).take 4 := by
    refine crc32Ieee_burst _ _ ?_ ?_ hsame
    · simp; omega
    · simp; omega
  rw [hwindow]

/-- Corruption of four consecutive bytes of the payload, or of the checksum. -/
theorem window_corruption_caught (haccepted : (decodeHeartbeat wire out).1 = true)
    (hne : wire' ≠ wire) (hk : k + 4 ≤ 24 ∨ k = 24) (hagree : AgreeOutside k wire wire') :
    (decodeHeartbeat wire' out').1 = false := by
  by_contra h
  have haccepted' : (decodeHeartbeat wire' out').1 = true := by simpa using h
  refine hne (accepted_payload_unique haccepted haccepted' ?_)
  rcases hk with hk | rfl
  · exact accepted_window_unique haccepted haccepted' hk hagree
  · exact hagree.take

end accepted

/-- The frame with one bit of byte `i` inverted. -/
def flipBit (wire : HeartbeatWireBuffer) (i bit : Nat) : HeartbeatWireBuffer where
  bytes := wire.bytes.modify i fun b => b ^^^ (1#8 <<< bit)
  length_eq := by
    rw [List.length_modify]
    exact wire.length_eq

theorem flipBit_ne (wire : HeartbeatWireBuffer) {i bit : Nat} (hi : i < 28) (hbit : bit < 8) :
    flipBit wire i bit ≠ wire := by
  have hlength : wire.bytes.length = 28 := wire.length_eq
  intro h
  have hbyte := congrArg (fun w : HeartbeatWireBuffer => w.bytes[i]?) h
  have hzero : wire.bytes[i] ^^^ (1#8 <<< bit) = wire.bytes[i] ^^^ 0#8 := by
    rw [BitVec.xor_zero]
    simpa [flipBit, List.getElem?_modify, hlength, hi] using hbyte
  have hone := congrArg (fun x : BitVec 8 => x.getLsbD bit) ((BitVec.xor_right_inj _).mp hzero)
  simp [hbit] at hone

theorem flipBit_agrees (wire : HeartbeatWireBuffer) {i bit k : Nat} (h : k ≤ i ∧ i < k + 4) :
    AgreeOutside k wire (flipBit wire i bit) := by
  intro j hj
  have hne : i ≠ j := by omega
  simp [flipBit, hne]

/-- **Localised corruption is always caught**, and with it every single-bit
error. -/
theorem localised_corruption_caught (wire : HeartbeatWireBuffer) (out out' : HeartbeatMessage)
    (haccepted : (decodeHeartbeat wire out).1 = true) :
    (∀ (wire' : HeartbeatWireBuffer) (k : Nat), wire' ≠ wire → k + 4 ≤ 24 ∨ k = 24 →
      AgreeOutside k wire wire' → (decodeHeartbeat wire' out').1 = false) ∧
    ∀ i bit, i < 28 → bit < 8 → (decodeHeartbeat (flipBit wire i bit) out').1 = false := by
  constructor
  · intro wire' k hne hk hagree
    exact window_corruption_caught haccepted hne hk hagree
  · intro i bit hi hbit
    have hne := flipBit_ne wire hi hbit
    by_cases hpayload : i < 24
    · exact window_corruption_caught haccepted hne (Or.inl (by omega : min i 20 + 4 ≤ 24))
        (flipBit_agrees wire (by omega))
    · exact window_corruption_caught haccepted hne (Or.inr rfl)
        (flipBit_agrees wire (by omega))

/-- A PING of feed 7 with the lowest bit of its sequence inverted. -/
theorem localised_corruption_caught_ping :
    (decodeHeartbeat (flipBit (encodeHeartbeat { type := 3, feedId := 7 }) 15 0) {}).1 = false :=
  (localised_corruption_caught (encodeHeartbeat { type := 3, feedId := 7 }) {} {}
    (by decide +kernel)).2 15 0 (by decide) (by decide)

end Vigil
