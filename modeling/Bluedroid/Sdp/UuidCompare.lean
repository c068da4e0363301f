import Bluedroid.Sdp.Sequences
import Bluedroid.Theory.Octets

/-!
# Sdp.UuidCompare -- comparing UUIDs of different sizes

`sdpu_compare_uuid_arrays` compares two big-endian UUIDs of 2, 4 or 16 bytes.  It
handles the nine pairs of sizes in four ways: equal sizes byte for byte, a 32-bit
against a 16-bit UUID on the fly, and a 128-bit against a shorter one by copying the
shorter into the base UUID, at byte 0 for 32 bits and at byte 2 for 16 bits.

The specification is one rule, `uuidExpansion`: a UUID of 2 or 4 bytes stands for the
base UUID with its bytes at 2..3 or 0..3.  `sdpuCompareUuidArrays_iff` says that the
comparison is equality of expansions, so it is an equivalence on valid UUIDs, and the
same as equality of the `bluetooth::Uuid` values they are parsed to (`uuidOfBytes`).
-/

namespace Bluedroid.Gatt

/-- `Uuid::From32Bit`: the base UUID with bytes 0 to 3 replaced. -/
def Uuid.from32Bit (v : ℕ) : Uuid := baseUuid + v % 2 ^ 32 * 2 ^ 96

/-- `Uuid::From128BitBE`: sixteen bytes, most significant first. -/
def Uuid.from128BitBE (bytes : List UInt8) : Uuid := Uuid.from128BitLE bytes.reverse

end Bluedroid.Gatt

namespace Bluedroid.Sdp

open Bluedroid.Gatt (Uuid)
open Bluedroid.Theory (leValue)

set_option autoImplicit false

/-! ## The comparison -/

/-- `memcmp(a, b, n) == 0`. -/
def bytesEqual (a b : List UInt8) (n : ℕ) : Bool :=
  (List.range n).all fun i => a.getD i 0 == b.getD i 0

/-- `memcpy(dst + offset, src, n)` on the first `n` bytes of `src`. -/
def copyInto (dst : List UInt8) (offset : ℕ) (src : List UInt8) (n : ℕ) : List UInt8 :=
  (List.range dst.length).map fun i =>
    if offset ≤ i ∧ i < offset + n then src.getD (i - offset) 0 else dst.getD i 0

/-- The byte form of a UUID of `len` bytes as the 128-bit branches build it: the
base UUID with the UUID copied at byte 0 (32 bits) or 2 (16 bits). -/
def normalized (uuid : List UInt8) (len : ℕ) : List UInt8 :=
  if len = 4 then copyInto sdpBaseUuid 0 uuid len
  else if len = 2 then copyInto sdpBaseUuid 2 uuid len
  else sdpBaseUuid

/-- `sdpu_compare_uuid_arrays(p_uuid1, len1, p_uuid2, len2)`. -/
def sdpuCompareUuidArrays (uuid1 : List UInt8) (len1 : ℕ) (uuid2 : List UInt8) (len2 : ℕ) :
    Bool :=
  let byte1 := fun i => uuid1.getD i 0
  let byte2 := fun i => uuid2.getD i 0
  if (len1 ≠ 2 ∧ len1 ≠ 4 ∧ len1 ≠ 16) ∨ (len2 ≠ 2 ∧ len2 ≠ 4 ∧ len2 ≠ 16) then false
  -- if lengths match, do a straight compare
  else if len1 = len2 then
    if len1 = 2 then byte1 0 == byte2 0 && byte1 1 == byte2 1
    else if len1 = 4 then
      byte1 0 == byte2 0 && byte1 1 == byte2 1 && byte1 2 == byte2 2 && byte1 3 == byte2 3
    else bytesEqual uuid1 uuid2 len1
  else if len1 > len2 then
    -- a 4-byte against a 2-byte UUID, compared on the fly
    if len1 = 4 then byte1 0 == 0 && byte1 1 == 0 && byte1 2 == byte2 0 && byte1 3 == byte2 1
    else bytesEqual (copyInto (List.replicate 16 0) 0 uuid1 16) (normalized uuid2 len2) 16
  else
    if len2 = 4 then byte2 0 == 0 && byte2 1 == 0 && byte2 2 == byte1 0 && byte2 3 == byte1 1
    else bytesEqual (normalized uuid1 len1) (copyInto (List.replicate 16 0) 0 uuid2 16) 16

/-! ## The expansion -/

/-- The 128-bit expansion of a UUID of `len` bytes: a 16-bit or 32-bit value, big-endian,
in bytes 2..3 or 0..3 of the base UUID, or the sixteen bytes themselves. -/
def uuidExpansion (uuid : List UInt8) (len : ℕ) : List UInt8 :=
  (List.range 16).map fun i =>
    if len = 2 then (if i = 2 ∨ i = 3 then uuid.getD (i - 2) 0 else sdpBaseUuid.getD i 0)
    else if len = 4 then (if i < 4 then uuid.getD i 0 else sdpBaseUuid.getD i 0)
    else uuid.getD i 0

/-- The 128-bit branches build the expansion: copying a 32-bit or 16-bit UUID into the
base UUID at byte 0 or 2 is expanding it. -/
theorem normalized_eq_uuidExpansion (uuid : List UInt8) {len : ℕ} (short : len = 2 ∨ len = 4) :
    normalized uuid len = uuidExpansion uuid len := by
  rcases short with rfl | rfl
  · simp [normalized, copyInto, uuidExpansion, sdpBaseUuid, List.range_succ]
  · simp [normalized, copyInto, uuidExpansion, sdpBaseUuid, List.range_succ]

/-- Copying sixteen bytes whole is the expansion of a 128-bit UUID. -/
theorem copyInto_eq_uuidExpansion (uuid : List UInt8) :
    copyInto (List.replicate 16 0) 0 uuid 16 = uuidExpansion uuid 16 := by
  simp only [copyInto, uuidExpansion, List.length_replicate]
  refine List.map_congr_left fun i within => ?_
  have below : i < 16 := List.mem_range.1 within
  simp [below]

theorem sdpuCompareUuidArrays_eq {uuid1 uuid2 : List UInt8} {len1 len2 : ℕ}
    (valid1 : len1 = 2 ∨ len1 = 4 ∨ len1 = 16) (valid2 : len2 = 2 ∨ len2 = 4 ∨ len2 = 16) :
    (sdpuCompareUuidArrays uuid1 len1 uuid2 len2 = true ↔
      bytesEqual (uuidExpansion uuid1 len1) (uuidExpansion uuid2 len2) 16 = true) := by
  rcases valid1 with rfl | rfl | rfl <;> rcases valid2 with rfl | rfl | rfl
  -- equal sizes, compared byte for byte
  case inl.inl | inr.inl.inr.inl | inr.inr.inr.inr =>
    simp [sdpuCompareUuidArrays, bytesEqual, uuidExpansion, sdpBaseUuid, List.range_succ, and_assoc]
  -- a 32-bit against a 16-bit UUID, on the fly
  case inr.inl.inl =>
    simp [sdpuCompareUuidArrays, bytesEqual, uuidExpansion, sdpBaseUuid, List.range_succ, and_assoc]
  -- the same bytes compared the other way round
  case inl.inr.inl =>
    simp [sdpuCompareUuidArrays, bytesEqual, uuidExpansion, sdpBaseUuid, List.range_succ, and_assoc]
    exact ⟨fun ⟨zero0, zero1, low, high⟩ => ⟨zero0.symm, zero1.symm, low.symm, high.symm⟩,
      fun ⟨zero0, zero1, low, high⟩ => ⟨zero0.symm, zero1.symm, low.symm, high.symm⟩⟩
  -- a 128-bit against a shorter UUID, after normalizing the shorter into the base UUID
  all_goals
    simp only [sdpuCompareUuidArrays, copyInto_eq_uuidExpansion,
      normalized_eq_uuidExpansion _ (Or.inl rfl), normalized_eq_uuidExpansion _ (Or.inr rfl)]
    simp

/-! ## Equality of expansions -/

@[simp] theorem length_uuidExpansion (uuid : List UInt8) (len : ℕ) :
    (uuidExpansion uuid len).length = 16 := by
  simp [uuidExpansion]

theorem bytesEqual_iff_eq {a b : List UInt8} (sixteenA : a.length = 16) (sixteenB : b.length = 16) :
    bytesEqual a b 16 = true ↔ a = b := by
  simp only [bytesEqual, List.all_eq_true, List.mem_range, beq_iff_eq]
  constructor
  · intro same
    apply List.ext_getElem (sixteenA.trans sixteenB.symm)
    intro i inA inB
    have read := same i (sixteenA ▸ inA)
    rwa [List.getD_eq_getElem _ _ inA, List.getD_eq_getElem _ _ inB] at read
  · rintro rfl i _
    rfl

/-- **The comparison is equality of the expansions**, for every pair of valid sizes. -/
theorem sdpuCompareUuidArrays_iff {uuid1 uuid2 : List UInt8} {len1 len2 : ℕ}
    (valid1 : len1 = 2 ∨ len1 = 4 ∨ len1 = 16) (valid2 : len2 = 2 ∨ len2 = 4 ∨ len2 = 16) :
    sdpuCompareUuidArrays uuid1 len1 uuid2 len2 = true ↔
      uuidExpansion uuid1 len1 = uuidExpansion uuid2 len2 := by
  rw [sdpuCompareUuidArrays_eq valid1 valid2,
    bytesEqual_iff_eq (length_uuidExpansion _ _) (length_uuidExpansion _ _)]

/-! ## The parsed UUID -/

/-- The `bluetooth::Uuid` of a big-endian UUID of `len` bytes: `Uuid::From16Bit`,
`Uuid::From32Bit` or `Uuid::From128BitBE` of its value. -/
def uuidOfBytes (uuid : List UInt8) (len : ℕ) : Uuid :=
  if len = 2 then Uuid.from16Bit (beUint16 uuid 0)
  else if len = 4 then Uuid.from32Bit (beUint32 uuid 0)
  else Uuid.from128BitBE ((List.range 16).map fun i => uuid.getD i 0)

theorem from128BitLE_eq_leValue (bytes : List UInt8) : Uuid.from128BitLE bytes = leValue bytes := by
  induction bytes with
  | nil => rfl
  | cons b bytes ih =>
    rw [Bluedroid.Theory.leValue_cons, ← ih]
    rfl

theorem uuidExpansion_two (uuid : List UInt8) :
    uuidExpansion uuid 2 = [0x00, 0x00, uuid.getD 0 0, uuid.getD 1 0, 0x00, 0x00, 0x10, 0x00,
      0x80, 0x00, 0x00, 0x80, 0x5F, 0x9B, 0x34, 0xFB] := by
  simp [uuidExpansion, sdpBaseUuid, List.range_succ]

theorem uuidExpansion_four (uuid : List UInt8) :
    uuidExpansion uuid 4 = [uuid.getD 0 0, uuid.getD 1 0, uuid.getD 2 0, uuid.getD 3 0, 0x00, 0x00,
      0x10, 0x00, 0x80, 0x00, 0x00, 0x80, 0x5F, 0x9B, 0x34, 0xFB] := by
  simp [uuidExpansion, sdpBaseUuid, List.range_succ]

/-- The parsed UUID is the number its expansion stands for. -/
theorem uuidOfBytes_eq (uuid : List UInt8) {len : ℕ} (valid : len = 2 ∨ len = 4 ∨ len = 16) :
    uuidOfBytes uuid len = leValue (uuidExpansion uuid len).reverse := by
  have byte0 := (uuid.getD 0 0).toNat_lt
  have byte1 := (uuid.getD 1 0).toNat_lt
  have byte2 := (uuid.getD 2 0).toNat_lt
  have byte3 := (uuid.getD 3 0).toNat_lt
  rcases valid with rfl | rfl | rfl
  · rw [uuidExpansion_two]
    simp only [List.reverse_cons, List.reverse_nil, List.nil_append, List.cons_append,
      Theory.leValue_cons, Theory.leValue_nil, UInt8.reduceToNat]
    simp only [uuidOfBytes, Uuid.from16Bit, Gatt.baseUuid, beUint16, Nat.zero_add,
      Nat.reducePow, if_true]
    -- the two bytes make a value below 2^16, so the mod of from16Bit drops out
    rw [Nat.mod_eq_of_lt (by omega)]
    ring
  · rw [uuidExpansion_four]
    simp only [List.reverse_cons, List.reverse_nil, List.nil_append, List.cons_append,
      Theory.leValue_cons, Theory.leValue_nil, UInt8.reduceToNat]
    simp only [uuidOfBytes, Uuid.from32Bit, Gatt.baseUuid, beUint32, beUint16, Nat.zero_add,
      Nat.reduceAdd, Nat.reducePow, show (4 : ℕ) ≠ 2 by decide, if_false, if_true]
    -- the four bytes make a value below 2^32, so the mod of from32Bit drops out
    rw [Nat.mod_eq_of_lt (by omega)]
    ring
  · simp only [uuidOfBytes, Uuid.from128BitBE, from128BitLE_eq_leValue, uuidExpansion,
      show (16 : ℕ) ≠ 2 by decide, show (16 : ℕ) ≠ 4 by decide, if_false]

theorem leValue_reverse_inj {a b : List UInt8} (same : a.length = b.length)
    (equal : leValue a.reverse = leValue b.reverse) : a = b := by
  have back := Bluedroid.Theory.leOctets_leValue a.reverse
  rw [equal, List.length_reverse, same, ← List.length_reverse,
    Bluedroid.Theory.leOctets_leValue] at back
  exact List.reverse_injective back.symm

/-- The comparison agrees with equality of the parsed UUIDs. -/
theorem sdpuCompareUuidArrays_iff_uuidOfBytes {uuid1 uuid2 : List UInt8} {len1 len2 : ℕ}
    (valid1 : len1 = 2 ∨ len1 = 4 ∨ len1 = 16) (valid2 : len2 = 2 ∨ len2 = 4 ∨ len2 = 16) :
    sdpuCompareUuidArrays uuid1 len1 uuid2 len2 = true ↔
      uuidOfBytes uuid1 len1 = uuidOfBytes uuid2 len2 := by
  rw [sdpuCompareUuidArrays_iff valid1 valid2, uuidOfBytes_eq uuid1 valid1,
    uuidOfBytes_eq uuid2 valid2]
  constructor
  · intro same
    rw [same]
  · exact leValue_reverse_inj (by simp)

/-- The comparison is equality of the two 128-bit expansions; it is therefore an
equivalence on UUIDs of valid sizes, and it agrees with the equality of the parsed
values. -/
theorem compare_uuid_arrays_eq_expansions :
    (∀ (uuid1 uuid2 : List UInt8) (len1 len2 : ℕ), (len1 = 2 ∨ len1 = 4 ∨ len1 = 16) →
      (len2 = 2 ∨ len2 = 4 ∨ len2 = 16) →
      (sdpuCompareUuidArrays uuid1 len1 uuid2 len2 = true ↔
        uuidExpansion uuid1 len1 = uuidExpansion uuid2 len2)) ∧
    (∀ (uuid : List UInt8) (len : ℕ), (len = 2 ∨ len = 4 ∨ len = 16) →
      sdpuCompareUuidArrays uuid len uuid len = true) ∧
    (∀ (uuid1 uuid2 : List UInt8) (len1 len2 : ℕ), (len1 = 2 ∨ len1 = 4 ∨ len1 = 16) →
      (len2 = 2 ∨ len2 = 4 ∨ len2 = 16) →
      sdpuCompareUuidArrays uuid1 len1 uuid2 len2 = sdpuCompareUuidArrays uuid2 len2 uuid1 len1) ∧
    (∀ (uuid1 uuid2 uuid3 : List UInt8) (len1 len2 len3 : ℕ), (len1 = 2 ∨ len1 = 4 ∨ len1 = 16) →
      (len2 = 2 ∨ len2 = 4 ∨ len2 = 16) → (len3 = 2 ∨ len3 = 4 ∨ len3 = 16) →
      sdpuCompareUuidArrays uuid1 len1 uuid2 len2 = true →
      sdpuCompareUuidArrays uuid2 len2 uuid3 len3 = true →
      sdpuCompareUuidArrays uuid1 len1 uuid3 len3 = true) ∧
    (∀ (uuid1 uuid2 : List UInt8) (len1 len2 : ℕ), (len1 = 2 ∨ len1 = 4 ∨ len1 = 16) →
      (len2 = 2 ∨ len2 = 4 ∨ len2 = 16) →
      (sdpuCompareUuidArrays uuid1 len1 uuid2 len2 = true ↔
        uuidOfBytes uuid1 len1 = uuidOfBytes uuid2 len2)) := by
  refine ⟨?expansion, ?refl, ?symm, ?trans, ?parsed⟩
  case expansion =>
    intro uuid1 uuid2 len1 len2 valid1 valid2
    exact sdpuCompareUuidArrays_iff valid1 valid2
  case refl =>
    intro uuid len valid
    exact (sdpuCompareUuidArrays_iff valid valid).2 rfl
  case symm =>
    intro uuid1 uuid2 len1 len2 valid1 valid2
    rw [Bool.eq_iff_iff, sdpuCompareUuidArrays_iff valid1 valid2,
      sdpuCompareUuidArrays_iff valid2 valid1]
    exact eq_comm
  case trans =>
    intro uuid1 uuid2 uuid3 len1 len2 len3 valid1 valid2 valid3 first second
    rw [sdpuCompareUuidArrays_iff valid1 valid2] at first
    rw [sdpuCompareUuidArrays_iff valid2 valid3] at second
    exact (sdpuCompareUuidArrays_iff valid1 valid3).2 (first.trans second)
  case parsed =>
    intro uuid1 uuid2 len1 len2 valid1 valid2
    exact sdpuCompareUuidArrays_iff_uuidOfBytes valid1 valid2

/-- The serial port profile's UUID in its three sizes, `0x1101`, `0x00001101`
and the sixteen bytes on the base UUID, and the 16-bit UUID `0x1102` after it:
the three sizes compare as their expansions do, each way and through one
another, and `0x1102` compares equal to the 128-bit form exactly when the UUIDs
built from the two are equal. -/
theorem compare_uuid_arrays_serial_port :
    (sdpuCompareUuidArrays [0x11, 0x01] 2
        [0x00, 0x00, 0x11, 0x01, 0x00, 0x00, 0x10, 0x00, 0x80, 0x00, 0x00, 0x80, 0x5F, 0x9B, 0x34, 0xFB] 16 = true ↔
      uuidExpansion [0x11, 0x01] 2 = uuidExpansion
        [0x00, 0x00, 0x11, 0x01, 0x00, 0x00, 0x10, 0x00, 0x80, 0x00, 0x00, 0x80, 0x5F, 0x9B, 0x34, 0xFB] 16) ∧
    sdpuCompareUuidArrays [0x00, 0x00, 0x11, 0x01] 4 [0x00, 0x00, 0x11, 0x01] 4 = true ∧
    sdpuCompareUuidArrays [0x11, 0x01] 2 [0x00, 0x00, 0x11, 0x01] 4 =
      sdpuCompareUuidArrays [0x00, 0x00, 0x11, 0x01] 4 [0x11, 0x01] 2 ∧
    sdpuCompareUuidArrays [0x11, 0x01] 2
      [0x00, 0x00, 0x11, 0x01, 0x00, 0x00, 0x10, 0x00, 0x80, 0x00, 0x00, 0x80, 0x5F, 0x9B, 0x34, 0xFB] 16 = true ∧
    (sdpuCompareUuidArrays [0x11, 0x02] 2
        [0x00, 0x00, 0x11, 0x01, 0x00, 0x00, 0x10, 0x00, 0x80, 0x00, 0x00, 0x80, 0x5F, 0x9B, 0x34, 0xFB] 16 = true ↔
      uuidOfBytes [0x11, 0x02] 2 = uuidOfBytes
        [0x00, 0x00, 0x11, 0x01, 0x00, 0x00, 0x10, 0x00, 0x80, 0x00, 0x00, 0x80, 0x5F, 0x9B, 0x34, 0xFB] 16) := by
  obtain ⟨expansion, refl, symm, trans, parsed⟩ := compare_uuid_arrays_eq_expansions
  have two : (2 = 2 ∨ 2 = 4 ∨ 2 = 16) := .inl rfl
  have four : (4 = 2 ∨ 4 = 4 ∨ 4 = 16) := .inr (.inl rfl)
  have sixteen : (16 = 2 ∨ 16 = 4 ∨ 16 = 16) := .inr (.inr rfl)
  exact ⟨expansion _ _ _ _ two sixteen, refl _ _ four, symm _ _ _ _ two four,
    trans [0x11, 0x01] [0x00, 0x00, 0x11, 0x01] _ 2 4 16 two four sixteen (by decide) (by decide),
    parsed _ _ _ _ two sixteen⟩

end Bluedroid.Sdp
