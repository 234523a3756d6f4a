import Vigil.ByteOrder

/-!
# The heartbeat wire format

`heartbeat.h` / `heartbeat.cpp`: fixed 28-byte frames in network byte order,
closed by a CRC-32 over the first 24 bytes.  A frame carries magic, version,
type, feed id, sequence and timestamp; the receiver accepts it only if magic,
version, type and checksum all agree.

The signed timestamp travels as its 64 bits, so the message record stores
these bits and readers that do arithmetic on it take `BitVec.toInt`.
-/

namespace Vigil

open ByteOrder

/-! ## CRC-32 -/

/-- One shift of the reflected CRC-32 register. -/
def crc32Shift (c : BitVec 32) : BitVec 32 :=
  if c &&& 1#32 = 1#32 then 0xEDB88320#32 ^^^ (c >>> 1) else c >>> 1

/-- The lookup table: eight shifts of each byte value. -/
def makeCrc32Table : Vector (BitVec 32) 256 :=
  Vector.ofFn fun i => Nat.iterate crc32Shift 8 (BitVec.ofNat 32 i.val)

def kCrc32Table : Vector (BitVec 32) 256 := makeCrc32Table

/-- A masked register is a table index. -/
theorem crc32_index_lt (c : BitVec 32) : (c &&& 0xFF#32).toNat < 256 := by
  rw [BitVec.toNat_and]
  exact Nat.lt_of_le_of_lt Nat.and_le_right (by decide)

/-- One byte of input through the table. -/
def crc32Step (crc : BitVec 32) (b : Byte) : BitVec 32 :=
  kCrc32Table.get ⟨((crc ^^^ b.setWidth 32) &&& 0xFF#32).toNat, crc32_index_lt _⟩ ^^^ (crc >>> 8)

def crc32Ieee (data : List Byte) : BitVec 32 :=
  data.foldl crc32Step 0xFFFFFFFF#32 ^^^ 0xFFFFFFFF#32

/-! ## Messages -/

inductive MessageType where
  | kConnectHello
  | kConnectAck
  | kPing
  | kPong
  | kDisconnect
  deriving DecidableEq, Repr

/-- The byte a message type is sent as. -/
def MessageType.toByte : MessageType → Byte
  | .kConnectHello => 1
  | .kConnectAck => 2
  | .kPing => 3
  | .kPong => 4
  | .kDisconnect => 5

/-- The cast from a type byte, undefined on the bytes that name no type. -/
def MessageType.ofByte (b : Byte) : Option MessageType :=
  if b = 1 then some .kConnectHello
  else if b = 2 then some .kConnectAck
  else if b = 3 then some .kPing
  else if b = 4 then some .kPong
  else if b = 5 then some .kDisconnect
  else none

def isKnownMessageType (b : Byte) : Bool :=
  (MessageType.ofByte b).isSome

def kProtocolMagic : BitVec 16 := 0xFEED

def kProtocolVersion : BitVec 8 := 1

structure HeartbeatMessage where
  magic : BitVec 16 := kProtocolMagic
  version : BitVec 8 := kProtocolVersion
  type : BitVec 8 := 0
  feedId : BitVec 32 := 0
  sequence : BitVec 64 := 0
  timestampNs : BitVec 64 := 0
  crc32 : BitVec 32 := 0
  deriving DecidableEq, Repr

def kHeartbeatMessageSize : Nat := 28

/-- A full frame: exactly `kHeartbeatMessageSize` bytes. -/
structure HeartbeatWireBuffer where
  bytes : List Byte
  length_eq : bytes.length = kHeartbeatMessageSize
  deriving DecidableEq

/-- The 24 bytes before the checksum. -/
def heartbeatPayload (msg : HeartbeatMessage) : List Byte :=
  toNetwork 2 msg.magic.toNat ++ [msg.version, msg.type] ++ toNetwork 4 msg.feedId.toNat ++
    toNetwork 8 msg.sequence.toNat ++ toNetwork 8 msg.timestampNs.toNat

theorem heartbeatPayload_length (msg : HeartbeatMessage) : (heartbeatPayload msg).length = 24 := by
  simp [heartbeatPayload]

def encodeHeartbeat (msg : HeartbeatMessage) : HeartbeatWireBuffer where
  bytes := heartbeatPayload msg ++ toNetwork 4 (crc32Ieee (heartbeatPayload msg)).toNat
  length_eq := by simp [heartbeatPayload_length, kHeartbeatMessageSize]

/-- The number stored big-endian in `len` bytes from `offset` on. -/
def loadNetwork (bytes : List Byte) (offset len : Nat) : Nat :=
  ofNetwork ((bytes.drop offset).take len)

/-- `decode_heartbeat`: the result flag and the message left in `*out`. -/
def decodeHeartbeat (wire : HeartbeatWireBuffer) (out : HeartbeatMessage) :
    Bool × HeartbeatMessage :=
  let magic := BitVec.ofNat 16 (loadNetwork wire.bytes 0 2)
  if magic ≠ kProtocolMagic then (false, out) else
  let version := wire.bytes.getD 2 0
  if version ≠ kProtocolVersion then (false, out) else
  let type := wire.bytes.getD 3 0
  if !isKnownMessageType type then (false, out) else
  let expectedCrc := BitVec.ofNat 32 (loadNetwork wire.bytes 24 4)
  let actualCrc := crc32Ieee (wire.bytes.take 24)
  if actualCrc ≠ expectedCrc then (false, out) else
  (true, { magic, version, type
           feedId := BitVec.ofNat 32 (loadNetwork wire.bytes 4 4)
           sequence := BitVec.ofNat 64 (loadNetwork wire.bytes 8 8)
           timestampNs := BitVec.ofNat 64 (loadNetwork wire.bytes 16 8)
           crc32 := expectedCrc })

/-- Everything the decoder checks, and the message it leaves when the checks
pass. -/
theorem decode_accepts {wire : HeartbeatWireBuffer} {out : HeartbeatMessage}
    (h : (decodeHeartbeat wire out).1 = true) :
    BitVec.ofNat 16 (loadNetwork wire.bytes 0 2) = kProtocolMagic ∧
      wire.bytes.getD 2 0 = kProtocolVersion ∧
      isKnownMessageType (wire.bytes.getD 3 0) = true ∧
      crc32Ieee (wire.bytes.take 24) = BitVec.ofNat 32 (loadNetwork wire.bytes 24 4) ∧
      (decodeHeartbeat wire out).2 =
        { magic := BitVec.ofNat 16 (loadNetwork wire.bytes 0 2)
          version := wire.bytes.getD 2 0
          type := wire.bytes.getD 3 0
          feedId := BitVec.ofNat 32 (loadNetwork wire.bytes 4 4)
          sequence := BitVec.ofNat 64 (loadNetwork wire.bytes 8 8)
          timestampNs := BitVec.ofNat 64 (loadNetwork wire.bytes 16 8)
          crc32 := BitVec.ofNat 32 (loadNetwork wire.bytes 24 4) } := by
  unfold decodeHeartbeat at h ⊢
  dsimp only at h ⊢
  split at h
  · simp at h
  · split at h
    · simp at h
    · split at h
      · simp at h
      · split at h
        · simp at h
        · simp_all

/-- An accepted frame carries one of the five types. -/
theorem decode_type_known (wire : HeartbeatWireBuffer) (out : HeartbeatMessage)
    (h : (decodeHeartbeat wire out).1 = true) :
    isKnownMessageType (decodeHeartbeat wire out).2.type = true := by
  obtain ⟨-, -, htype, -, hmsg⟩ := decode_accepts h
  rw [hmsg]
  exact htype

/-! ## Round trip -/

/-- The message as a receiver sees it: with the checksum of its own frame. -/
def HeartbeatMessage.stamped (msg : HeartbeatMessage) : HeartbeatMessage :=
  { msg with crc32 := crc32Ieee (heartbeatPayload msg) }

/-- A message the protocol can carry: its own magic and version and one of
the five types. -/
structure HeartbeatMessage.Valid (msg : HeartbeatMessage) : Prop where
  magic_eq : msg.magic = kProtocolMagic
  version_eq : msg.version = kProtocolVersion
  type_known : isKnownMessageType msg.type = true

theorem isKnownMessageType_toByte (t : MessageType) : isKnownMessageType t.toByte = true := by
  cases t <;> decide

@[simp] theorem MessageType.ofByte_toByte (t : MessageType) :
    MessageType.ofByte t.toByte = some t := by
  cases t <;> decide

theorem MessageType.eq_toByte {b : Byte} {t : MessageType} (h : MessageType.ofByte b = some t) :
    b = t.toByte := by
  unfold MessageType.ofByte at h
  repeat' split at h
  all_goals cases h
  all_goals assumption

/-- A field written in `n` bytes at its offset is read back whole. -/
theorem load_field {w n offset : Nat} {bytes : List Byte} (before after : List Byte) (x : BitVec w)
    (hbytes : bytes = before ++ (toNetwork n x.toNat ++ after))
    (hoffset : before.length = offset) (hw : 2 ^ w = 256 ^ n) :
    BitVec.ofNat w (loadNetwork bytes offset n) = x := by
  have hslice : (bytes.drop offset).take n = toNetwork n x.toNat := by
    rw [hbytes, ← hoffset, List.drop_left, List.take_left' (toNetwork_length n _)]
  have hx : x.toNat % 256 ^ n = x.toNat := by
    rw [← hw]
    exact Nat.mod_eq_of_lt x.isLt
  rw [loadNetwork, hslice, ofNetwork_toNetwork, hx, BitVec.ofNat_toNat, BitVec.setWidth_eq]

section encoded

variable (msg : HeartbeatMessage)

/-- The encoder's fields in order of their running offset. -/
theorem encode_bytes :
    (encodeHeartbeat msg).bytes = toNetwork 2 msg.magic.toNat ++ [msg.version] ++ [msg.type] ++
      toNetwork 4 msg.feedId.toNat ++ toNetwork 8 msg.sequence.toNat ++
      toNetwork 8 msg.timestampNs.toNat ++
      toNetwork 4 (crc32Ieee (heartbeatPayload msg)).toNat := by
  simp [encodeHeartbeat, heartbeatPayload, List.append_assoc]

theorem load_magic : BitVec.ofNat 16 (loadNetwork (encodeHeartbeat msg).bytes 0 2) = msg.magic := by
  refine load_field [] ([msg.version] ++ [msg.type] ++ toNetwork 4 msg.feedId.toNat ++
    toNetwork 8 msg.sequence.toNat ++ toNetwork 8 msg.timestampNs.toNat ++
    toNetwork 4 (crc32Ieee (heartbeatPayload msg)).toNat) msg.magic ?_ rfl (by norm_num)
  simp [encode_bytes]

theorem load_version : (encodeHeartbeat msg).bytes.getD 2 0 = msg.version := by
  simp [encode_bytes, toNetwork]

theorem load_type : (encodeHeartbeat msg).bytes.getD 3 0 = msg.type := by
  simp [encode_bytes, toNetwork]

theorem load_feedId :
    BitVec.ofNat 32 (loadNetwork (encodeHeartbeat msg).bytes 4 4) = msg.feedId := by
  refine load_field (toNetwork 2 msg.magic.toNat ++ [msg.version] ++ [msg.type])
    (toNetwork 8 msg.sequence.toNat ++ toNetwork 8 msg.timestampNs.toNat ++
      toNetwork 4 (crc32Ieee (heartbeatPayload msg)).toNat) msg.feedId ?_ (by simp) (by norm_num)
  simp [encode_bytes]

theorem load_sequence :
    BitVec.ofNat 64 (loadNetwork (encodeHeartbeat msg).bytes 8 8) = msg.sequence := by
  refine load_field (toNetwork 2 msg.magic.toNat ++ [msg.version] ++ [msg.type] ++
    toNetwork 4 msg.feedId.toNat) (toNetwork 8 msg.timestampNs.toNat ++
      toNetwork 4 (crc32Ieee (heartbeatPayload msg)).toNat) msg.sequence ?_ (by simp) (by norm_num)
  simp [encode_bytes]

theorem load_timestampNs :
    BitVec.ofNat 64 (loadNetwork (encodeHeartbeat msg).bytes 16 8) = msg.timestampNs := by
  refine load_field (toNetwork 2 msg.magic.toNat ++ [msg.version] ++ [msg.type] ++
    toNetwork 4 msg.feedId.toNat ++ toNetwork 8 msg.sequence.toNat)
    (toNetwork 4 (crc32Ieee (heartbeatPayload msg)).toNat) msg.timestampNs ?_ (by simp)
    (by norm_num)
  simp [encode_bytes]

theorem load_crc32 :
    BitVec.ofNat 32 (loadNetwork (encodeHeartbeat msg).bytes 24 4) =
      crc32Ieee (heartbeatPayload msg) := by
  refine load_field (heartbeatPayload msg) [] (crc32Ieee (heartbeatPayload msg)) ?_
    (heartbeatPayload_length msg) (by norm_num)
  simp [encodeHeartbeat]

theorem take_payload : (encodeHeartbeat msg).bytes.take 24 = heartbeatPayload msg := by
  rw [encodeHeartbeat, List.take_left' (heartbeatPayload_length msg)]

/-- **Codec round trip.**  Decoding an encoded valid message succeeds and
returns the message stamped with its frame's checksum. -/
theorem decode_encode (hv : msg.Valid) (out : HeartbeatMessage) :
    decodeHeartbeat (encodeHeartbeat msg) out = (true, msg.stamped) := by
  simp only [decodeHeartbeat, load_magic, load_version, load_type, load_feedId, load_sequence,
    load_timestampNs, load_crc32, take_payload, hv.magic_eq, hv.version_eq, hv.type_known]
  simp [HeartbeatMessage.stamped, hv.magic_eq, hv.version_eq]

end encoded

/-! ## Accepted frames -/

/-- A rejecting decoder does not write to `*out`. -/
theorem decode_rejects {wire : HeartbeatWireBuffer} {out : HeartbeatMessage}
    (h : (decodeHeartbeat wire out).1 = false) : (decodeHeartbeat wire out).2 = out := by
  unfold decodeHeartbeat at h ⊢
  dsimp only at h ⊢
  repeat' split
  all_goals simp_all

/-- A field read from `n` bytes at its offset is written back as these bytes. -/
theorem store_field {w n offset : Nat} {bytes : List Byte} (hlength : offset + n ≤ bytes.length)
    (hw : 2 ^ w = 256 ^ n) :
    toNetwork n (BitVec.ofNat w (loadNetwork bytes offset n)).toNat =
      (bytes.drop offset).take n := by
  have hslice : ((bytes.drop offset).take n).length = n := by
    rw [List.length_take, List.length_drop]
    omega
  have hlt : loadNetwork bytes offset n < 2 ^ w := by
    rw [hw, loadNetwork]
    simpa only [hslice] using ofNetwork_lt ((bytes.drop offset).take n)
  have hback := toNetwork_ofNetwork ((bytes.drop offset).take n)
  rw [hslice] at hback
  rw [BitVec.toNat_ofNat, Nat.mod_eq_of_lt hlt, loadNetwork, hback]

/-- The byte at a position inside a buffer, as the one-byte slice there. -/
theorem byte_slice {bytes : List Byte} {i : Nat} (h : i < bytes.length) :
    [bytes.getD i 0] = (bytes.drop i).take 1 := by
  rw [List.drop_eq_getElem_cons h, List.take_succ_cons, List.take_zero,
    List.getD_eq_getElem?_getD, List.getElem?_eq_getElem h, Option.getD_some]

/-- The fields of a frame in order are its bytes. -/
theorem frame_slices (wire : HeartbeatWireBuffer) :
    wire.bytes = wire.bytes.take 24 ++ (wire.bytes.drop 24).take 4 := by
  have hlength := wire.length_eq
  rw [← List.take_add, List.take_of_length_le]
  rw [hlength, kHeartbeatMessageSize]

/-- The payload of the decoded message is the frame before its checksum. -/
theorem payload_decode {wire : HeartbeatWireBuffer} {out : HeartbeatMessage}
    (h : (decodeHeartbeat wire out).1 = true) :
    heartbeatPayload (decodeHeartbeat wire out).2 = wire.bytes.take 24 := by
  have hlength : wire.bytes.length = 28 := wire.length_eq
  obtain ⟨-, -, -, -, hmsg⟩ := decode_accepts h
  have hsplit : wire.bytes.take 24 =
      wire.bytes.take 2 ++ (wire.bytes.drop 2).take 1 ++ (wire.bytes.drop 3).take 1 ++
        (wire.bytes.drop 4).take 4 ++ (wire.bytes.drop 8).take 8 ++ (wire.bytes.drop 16).take 8 := by
    simp only [← List.take_add]
  have htwo : toNetwork 2 (BitVec.ofNat 16 (loadNetwork wire.bytes 0 2)).toNat =
      wire.bytes.take 2 := store_field (by omega) (by norm_num)
  rw [hmsg, heartbeatPayload, hsplit]
  dsimp only
  rw [htwo, store_field (by omega) (by norm_num), store_field (by omega) (by norm_num),
    store_field (by omega) (by norm_num), ← byte_slice (by omega), ← byte_slice (by omega)]
  simp only [List.append_assoc, List.cons_append, List.nil_append]

/-- Encoding what was decoded restores the frame. -/
theorem encode_decode {wire : HeartbeatWireBuffer} {out : HeartbeatMessage}
    (h : (decodeHeartbeat wire out).1 = true) :
    encodeHeartbeat (decodeHeartbeat wire out).2 = wire := by
  have hlength : wire.bytes.length = 28 := wire.length_eq
  obtain ⟨-, -, -, hcrc, -⟩ := decode_accepts h
  have hbytes : (encodeHeartbeat (decodeHeartbeat wire out).2).bytes = wire.bytes :=
    calc (encodeHeartbeat (decodeHeartbeat wire out).2).bytes
        = heartbeatPayload (decodeHeartbeat wire out).2 ++
            toNetwork 4 (crc32Ieee (heartbeatPayload (decodeHeartbeat wire out).2)).toNat := rfl
      _ = wire.bytes.take 24 ++ (wire.bytes.drop 24).take 4 := by
          rw [payload_decode h, hcrc, store_field (by omega) (by norm_num)]
      _ = wire.bytes := (frame_slices wire).symm
  cases hwire : encodeHeartbeat (decodeHeartbeat wire out).2 with
  | mk bytes length_eq =>
      cases wire
      simp_all

/-- What the decoder accepts is a message the protocol can carry. -/
theorem valid_decode {wire : HeartbeatWireBuffer} {out : HeartbeatMessage}
    (h : (decodeHeartbeat wire out).1 = true) : (decodeHeartbeat wire out).2.Valid := by
  obtain ⟨hmagic, hversion, htype, -, hmsg⟩ := decode_accepts h
  rw [hmsg]
  exact ⟨hmagic, hversion, htype⟩

/-- **The codec is a bijection** between the messages the protocol can carry,
taken with the checksum of their frame, and the frames the decoder accepts; a
frame it rejects leaves `*out` as it was. -/
theorem codec_bijection (msg : HeartbeatMessage) (wire : HeartbeatWireBuffer)
    (out : HeartbeatMessage) :
    (msg.Valid → decodeHeartbeat (encodeHeartbeat msg) out =
      (true, { msg with crc32 := crc32Ieee ((encodeHeartbeat msg).bytes.take 24) })) ∧
    ((decodeHeartbeat wire out).1 = true →
      (decodeHeartbeat wire out).2.Valid ∧ encodeHeartbeat (decodeHeartbeat wire out).2 = wire) ∧
    ((decodeHeartbeat wire out).1 = false → (decodeHeartbeat wire out).2 = out) := by
  refine ⟨?_, ?_, ?_⟩
  · intro hvalid
    rw [decode_encode msg hvalid out, take_payload]
    rfl
  · intro haccepted
    exact ⟨valid_decode haccepted, encode_decode haccepted⟩
  · intro hrejected
    exact decode_rejects hrejected

end Vigil
