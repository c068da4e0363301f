import Bluedroid.Theory.BitStream
import Mathlib.Tactic.IntervalCases
import Mathlib.Tactic.Ring

/-!
# Packet.BitInserter -- packing fields of any width into bytes

The GD packet builders write every field through a `BitInserter`: a
`ByteInserter` that appends bytes to a vector, and holds back the bits of a
field that does not end on a byte boundary until later fields fill the byte.
`insert_bits(byte, n)` combines the held bits with the new ones in a `uint16_t`,
emits a byte when eight or more have gathered, and keeps the rest under a mask
`0xff >> (8 - num_saved_bits_)`; the mask is computed in `int`, so when
nothing is kept the shift is by eight and the mask is zero.

What an inserter has taken is a bit string (`toBits`): the bits of its bytes,
then the bits it holds.  The invariant (`Wf`) is that it holds fewer than eight
bits and nothing above them.  The proofs work on the number that bit string
stands for (`value`, of `width` bits): one call adds the low `n` bits of the
byte above the old width (`insertBits_value`), so the bit string grows by
exactly those bits (`insertBits_spec`), and a run of calls by all of them in
order (`insertAll_spec`).
-/

namespace Bluedroid.Packet

open Bluedroid.Theory (bitsOf leValue)

set_option autoImplicit false

/-- A `BitInserter`: the vector its `ByteInserter` appends to, and the bits it
holds until a byte is full. -/
structure BitInserter where
  bytes : List UInt8
  numSavedBits : ℕ
  savedBits : UInt8
  deriving DecidableEq, Repr

namespace BitInserter

/-- `BitInserter(vector)`. -/
def new (vector : List UInt8) : BitInserter := ⟨vector, 0, 0⟩

/-- The end of `insert_bits`: keep the low `totalBits` bits of `newValue`. -/
def saveBits (bytes : List UInt8) (totalBits : ℕ) (newValue : UInt16) : BitInserter :=
  { bytes := bytes
    numSavedBits := totalBits
    savedBits := newValue.toUInt8 &&& UInt8.ofNat (0xFF >>> (8 - totalBits)) }

/-- `BitInserter::insert_bits`. -/
def insertBits (it : BitInserter) (byte : UInt8) (numBits : ℕ) : BitInserter :=
  let totalBits := numBits + it.numSavedBits
  let newValue : UInt16 := UInt16.ofNat (it.savedBits.toNat ||| byte.toNat <<< it.numSavedBits)
  if totalBits ≥ 8 then
    saveBits (it.bytes ++ [newValue.toUInt8]) (totalBits - 8) (newValue >>> 8)
  else saveBits it.bytes totalBits newValue

/-- `BitInserter::insert_byte`. -/
def insertByte (it : BitInserter) (byte : UInt8) : BitInserter := it.insertBits byte 8

/-- `insert_bits` calls one after another. -/
def insertAll (it : BitInserter) (calls : List (UInt8 × ℕ)) : BitInserter :=
  calls.foldl (fun it call => it.insertBits call.1 call.2) it

/-! ## The bits taken, and the invariant -/

/-- The bits an inserter has taken: those of its bytes, then those it holds. -/
def toBits (it : BitInserter) : List Bool :=
  it.bytes.flatMap (fun b => bitsOf b.toNat 8) ++ bitsOf it.savedBits.toNat it.numSavedBits

/-- Fewer than eight bits held, and none above their count. -/
structure Wf (it : BitInserter) : Prop where
  numSavedBits_lt : it.numSavedBits < 8
  savedBits_lt : it.savedBits.toNat < 2 ^ it.numSavedBits

theorem wf_new (vector : List UInt8) : (new vector).Wf :=
  ⟨by simp [new], by simp [new]⟩

/-- The number the bits taken stand for, and how many there are. -/
def value (it : BitInserter) : ℕ := leValue it.bytes + 2 ^ (8 * it.bytes.length) * it.savedBits.toNat

def width (it : BitInserter) : ℕ := 8 * it.bytes.length + it.numSavedBits

theorem value_lt {it : BitInserter} (wf : it.Wf) : it.value < 2 ^ it.width :=
  Theory.add_two_pow_mul_lt (Theory.leValue_lt it.bytes) wf.savedBits_lt

theorem toBits_eq (it : BitInserter) : it.toBits = bitsOf it.value it.width := by
  rw [value, width, Theory.bitsOf_add_two_pow_mul _ _ (Theory.leValue_lt it.bytes),
    Theory.bitsOf_leValue, toBits]

/-! ## One call -/

/-- The mask keeps the low `totalBits` bits of the byte of `newValue`. -/
theorem toNat_savedBits_saveBits (bytes : List UInt8) {totalBits : ℕ} (newValue : UInt16)
    (within : totalBits ≤ 8) :
    (saveBits bytes totalBits newValue).savedBits.toNat = newValue.toNat % 2 ^ totalBits := by
  have mask : (UInt8.ofNat (0xFF >>> (8 - totalBits))).toNat = 2 ^ totalBits - 1 := by
    interval_cases totalBits <;> rfl
  rw [saveBits, UInt8.toNat_and, mask, Nat.and_two_pow_sub_one_eq_mod, UInt16.toNat_toUInt8,
    Nat.mod_mod_of_dvd _ (Nat.pow_dvd_pow 2 within)]

/-- The held bits and the new byte above them, as `insert_bits` adds them up. -/
theorem toNat_newValue {it : BitInserter} (wf : it.Wf) (byte : UInt8) :
    (UInt16.ofNat (it.savedBits.toNat ||| byte.toNat <<< it.numSavedBits)).toNat =
      it.savedBits.toNat + 2 ^ it.numSavedBits * byte.toNat := by
  have disjoint := Nat.shiftLeft_add_eq_or_of_lt wf.savedBits_lt byte.toNat
  rw [Nat.or_comm, ← disjoint, Nat.shiftLeft_eq, UInt16.toNat_ofNat', Nat.add_comm,
    Nat.mul_comm]
  apply Nat.mod_eq_of_lt
  have fits : 2 ^ it.numSavedBits * byte.toNat < 2 ^ it.numSavedBits * 2 ^ 8 :=
    Nat.mul_lt_mul_of_pos_left byte.toNat_lt (Nat.two_pow_pos _)
  have small : 2 ^ it.numSavedBits * 2 ^ 8 ≤ 2 ^ 15 := by
    rw [← pow_add]
    exact Nat.pow_le_pow_right (by decide) (by have := wf.numSavedBits_lt; omega)
  have := wf.savedBits_lt
  have := Nat.two_pow_pos it.numSavedBits
  omega

/-- One call adds the low `numBits` bits of the byte above the bits already taken. -/
theorem insertBits_value {it : BitInserter} (wf : it.Wf) (byte : UInt8) {numBits : ℕ}
    (atMostEight : numBits ≤ 8) :
    (it.insertBits byte numBits).Wf ∧
      (it.insertBits byte numBits).value = it.value + 2 ^ it.width * (byte.toNat % 2 ^ numBits) ∧
      (it.insertBits byte numBits).width = it.width + numBits := by
  have held := wf.numSavedBits_lt
  -- the bits taken grow by the low bits of the held bits combined with the byte
  have combined : (it.savedBits.toNat + 2 ^ it.numSavedBits * byte.toNat) %
      2 ^ (it.numSavedBits + numBits) =
      it.savedBits.toNat + 2 ^ it.numSavedBits * (byte.toNat % 2 ^ numBits) := by
    rw [pow_add, Theory.add_mul_mod_mul wf.savedBits_lt]
  have grown : it.value + 2 ^ it.width * (byte.toNat % 2 ^ numBits) =
      leValue it.bytes + 2 ^ (8 * it.bytes.length) *
        ((it.savedBits.toNat + 2 ^ it.numSavedBits * byte.toNat) % 2 ^ (it.numSavedBits + numBits)) := by
    rw [combined, value, width, pow_add]
    ring
  unfold insertBits
  dsimp only
  split
  case isTrue full =>
    -- a byte is full: it is emitted, and the bits above it are kept
    have emitted : (UInt16.ofNat (it.savedBits.toNat ||| byte.toNat <<< it.numSavedBits) >>> 8).toNat =
        (it.savedBits.toNat + 2 ^ it.numSavedBits * byte.toNat) / 2 ^ 8 := by
      rw [UInt16.toNat_shiftRight, toNat_newValue wf, Nat.shiftRight_eq_div_pow]
      rfl
    have kept := toNat_savedBits_saveBits (it.bytes ++ [(UInt16.ofNat
      (it.savedBits.toNat ||| byte.toNat <<< it.numSavedBits)).toUInt8])
      (UInt16.ofNat (it.savedBits.toNat ||| byte.toNat <<< it.numSavedBits) >>> 8)
      (show numBits + it.numSavedBits - 8 ≤ 8 by omega)
    rw [emitted] at kept
    have split : 2 ^ (it.numSavedBits + numBits) = 2 ^ 8 * 2 ^ (numBits + it.numSavedBits - 8) := by
      rw [← pow_add]
      congr 1
      omega
    refine ⟨⟨by simp only [saveBits]; omega, ?_⟩, ?_, ?_⟩
    · rw [kept]
      exact Nat.mod_lt _ (Nat.two_pow_pos _)
    · -- the byte emitted and the bits kept are the low bits of the combined value
      rw [grown, split, Nat.mod_mul, value, kept]
      simp only [saveBits, List.length_append, List.length_singleton, Theory.leValue_append,
        Theory.leValue_cons, Theory.leValue_nil, UInt16.toNat_toUInt8, toNat_newValue wf]
      ring
    · simp only [width, saveBits, List.length_append, List.length_singleton]
      omega
  case isFalse notFull =>
    -- no byte is full: every bit is kept
    have kept := toNat_savedBits_saveBits it.bytes
      (UInt16.ofNat (it.savedBits.toNat ||| byte.toNat <<< it.numSavedBits))
      (show numBits + it.numSavedBits ≤ 8 by omega)
    rw [toNat_newValue wf] at kept
    refine ⟨⟨by simp only [saveBits]; omega, ?_⟩, ?_, ?_⟩
    · rw [kept]
      exact Nat.mod_lt _ (Nat.two_pow_pos _)
    · rw [grown, value, kept, Nat.add_comm numBits]
      rfl
    · simp only [width, saveBits]
      omega

/-- One call preserves the invariant and appends the low `numBits` bits of the
byte to the bits taken; the bits above them never show. -/
theorem insertBits_spec {it : BitInserter} (wf : it.Wf) (byte : UInt8) {numBits : ℕ}
    (atMostEight : numBits ≤ 8) :
    (it.insertBits byte numBits).Wf ∧
      (it.insertBits byte numBits).toBits = it.toBits ++ bitsOf byte.toNat numBits := by
  obtain ⟨wf', value', width'⟩ := insertBits_value wf byte atMostEight
  refine ⟨wf', ?_⟩
  rw [toBits_eq, toBits_eq, value', width',
    Theory.bitsOf_add_two_pow_mul _ _ (value_lt wf), Theory.bitsOf_mod_two_pow _ (le_refl _)]

/-! ## A run of calls -/

/-- Calls of at most eight bits each append their low bits in order; the
invariant holds after every one. -/
theorem insertAll_spec {it : BitInserter} (wf : it.Wf) (calls : List (UInt8 × ℕ))
    (widths : ∀ call ∈ calls, call.2 ≤ 8) :
    (it.insertAll calls).Wf ∧
      (it.insertAll calls).toBits =
        it.toBits ++ calls.flatMap (fun call => bitsOf call.1.toNat call.2) := by
  induction calls generalizing it with
  | nil => exact ⟨wf, by simp [insertAll]⟩
  | cons call calls ih =>
    obtain ⟨wf', bits'⟩ := insertBits_spec wf call.1 (widths call List.mem_cons_self)
    obtain ⟨wfAll, bitsAll⟩ := ih wf' (fun c mem => widths c (List.mem_cons_of_mem call mem))
    refine ⟨wfAll, ?_⟩
    simp only [insertAll, List.foldl_cons] at wfAll bitsAll ⊢
    rw [bitsAll, bits', List.flatMap_cons, List.append_assoc]

end BitInserter

end Bluedroid.Packet
