import Bluedroid.Packet.BitInserter

/-!
# Packet.EndianInserter -- fixed-width fields in and out of a packet

`EndianInserter<little_endian>::insert(value, it)` writes a field of fixed width
byte by byte through a `BitInserter`, in memory order for little endian and
reversed for big endian; `insert(value, it, num_bits)` writes the low `num_bits`
bits of an integer, whole bytes first and the odd bits last.  On the parsing
side, `Iterator<little_endian>::extract<T>()` reads `sizeof(T)` bytes back into
the positions they came from.

A field is modelled by its object representation: the bytes of a POD value in
memory order (`rawBytes`).  Both inserts are runs of `insert_bits` calls, so
`BitInserter.insertAll_spec` gives what they append to the bit string
(`insert_spec`, `insertNumBits_spec`).  Only when the inserter holds no bits do
those bits land in the vector as the field's bytes (`insert_new`), and only then
does `extract` read the value back (`extract_insert`): from an inserter holding
a bit, the bytes produced are the field's bytes shifted by that bit.
-/

namespace Bluedroid.Packet

open Bluedroid.Theory (bitsOf)

set_option autoImplicit false

namespace EndianInserter

/-- The byte `insert` writes `i`-th: the `i`-th in memory for little endian, the
`i`-th from the end for big endian. -/
def rawByte (littleEndian : Bool) (rawBytes : List UInt8) (i : ℕ) : UInt8 :=
  if littleEndian then rawBytes.getD i 0 else rawBytes.getD (rawBytes.length - i - 1) 0

/-- `EndianInserter<little_endian>::insert(value, it)` for a POD value (or a
fixed-size custom field) with the object representation `rawBytes`. -/
def insert (littleEndian : Bool) (rawBytes : List UInt8) (it : BitInserter) : BitInserter :=
  (List.range rawBytes.length).foldl (fun it i =>
    if littleEndian then it.insertByte (rawBytes.getD i 0)
    else it.insertByte (rawBytes.getD (rawBytes.length - i - 1) 0)) it

/-- `EndianInserter<little_endian>::insert(value, it, num_bits)`: `value` is the
field as `static_cast<uint64_t>` gives it. -/
def insertNumBits (littleEndian : Bool) (value : UInt64) (numBits : ℕ) (it : BitInserter) :
    BitInserter :=
  let it := (List.range (numBits / 8)).foldl (fun it i =>
    if littleEndian then it.insertByte (value >>> UInt64.ofNat (i * 8)).toUInt8
    else it.insertByte (value >>> UInt64.ofNat ((numBits / 8 - i - 1) * 8)).toUInt8) it
  if numBits % 8 ≠ 0 then
    it.insertBits (value >>> UInt64.ofNat (numBits / 8 * 8)).toUInt8 (numBits % 8)
  else it

/-- The bytes of a field in the order `insert` writes them. -/
def ordered (littleEndian : Bool) (rawBytes : List UInt8) : List UInt8 :=
  if littleEndian then rawBytes else rawBytes.reverse

/-- The bits `insert(value, it, num_bits)` is meant to write: the low `num_bits`
bits of `x`, least significant first for little endian; for big endian the
whole bytes most significant first, then the odd bits above them. -/
def fieldBits (littleEndian : Bool) (x numBits : ℕ) : List Bool :=
  if littleEndian then bitsOf x numBits
  else ((List.range (numBits / 8)).reverse.flatMap fun i => bitsOf (x / 2 ^ (8 * i)) 8) ++
    bitsOf (x / 2 ^ (8 * (numBits / 8))) (numBits % 8)

/-! ## Inserting -/

/-- A loop of `insert_byte` calls is a run of `insert_bits` calls of eight bits. -/
theorem foldl_insertByte (littleEndian : Bool) (f g : ℕ → UInt8) (it : BitInserter) (n : ℕ) :
    (List.range n).foldl (fun it i =>
        if littleEndian then it.insertByte (f i) else it.insertByte (g i)) it =
      it.insertAll ((List.range n).map fun i => (if littleEndian then f i else g i, 8)) := by
  rw [BitInserter.insertAll, List.foldl_map]
  congr 1
  funext it i
  cases littleEndian <;> rfl

theorem map_rawByte (littleEndian : Bool) (rawBytes : List UInt8) :
    (List.range rawBytes.length).map (rawByte littleEndian rawBytes) =
      ordered littleEndian rawBytes := by
  apply List.ext_getElem
  · cases littleEndian <;> simp [ordered]
  · intro i inRange _
    simp only [List.length_map, List.length_range] at inRange
    cases littleEndian
    case false =>
      simp only [List.getElem_map, List.getElem_range, rawByte, ordered, List.getElem_reverse,
        Bool.false_eq_true, if_false]
      rw [List.getD_eq_getElem _ _ (by omega)]
      congr 1
      omega
    case true =>
      simp only [List.getElem_map, List.getElem_range, rawByte, ordered, if_true]
      rw [List.getD_eq_getElem _ _ (by omega)]

theorem insert_eq_insertAll (littleEndian : Bool) (rawBytes : List UInt8) (it : BitInserter) :
    insert littleEndian rawBytes it =
      it.insertAll ((ordered littleEndian rawBytes).map fun b => (b, 8)) := by
  rw [insert, foldl_insertByte, ← map_rawByte, List.map_map]
  rfl

/-- From any inserter, `insert` appends the field's bytes, in its order, to the
bits taken. -/
theorem insert_spec {it : BitInserter} (wf : it.Wf) (littleEndian : Bool)
    (rawBytes : List UInt8) :
    (insert littleEndian rawBytes it).Wf ∧
      (insert littleEndian rawBytes it).toBits =
        it.toBits ++ (ordered littleEndian rawBytes).flatMap fun b => bitsOf b.toNat 8 := by
  rw [insert_eq_insertAll]
  simpa only [List.flatMap_map] using
    BitInserter.insertAll_spec wf ((ordered littleEndian rawBytes).map fun b => (b, 8)) (by simp)

/-- An inserter that holds no bits writes a whole byte straight to the vector. -/
theorem insertByte_new (bytes : List UInt8) (byte : UInt8) :
    (BitInserter.new bytes).insertByte byte = BitInserter.new (bytes ++ [byte]) := by
  simp [BitInserter.new, BitInserter.insertByte, BitInserter.insertBits, BitInserter.saveBits]

theorem insertAll_bytes_new (bytes out : List UInt8) :
    (BitInserter.new bytes).insertAll (out.map fun b => (b, 8)) = BitInserter.new (bytes ++ out) := by
  induction out generalizing bytes with
  | nil => simp [BitInserter.insertAll]
  | cons b out ih =>
    have step := insertByte_new bytes b
    simp only [BitInserter.insertAll, List.map_cons, List.foldl_cons] at ih ⊢
    rw [show (BitInserter.new bytes).insertBits b 8 = _ from step, ih, List.append_assoc,
      List.singleton_append]

/-- From an inserter that holds no bits, `insert` appends the field's bytes to
the vector and holds none after. -/
theorem insert_new (littleEndian : Bool) (rawBytes bytes : List UInt8) :
    insert littleEndian rawBytes (BitInserter.new bytes) =
      BitInserter.new (bytes ++ ordered littleEndian rawBytes) := by
  rw [insert_eq_insertAll, insertAll_bytes_new]

/-- The byte `insert(value, it, num_bits)` writes for bits `8 k` to `8 k + 7`. -/
theorem toNat_shiftRight_toUInt8 (value : UInt64) {k : ℕ} (below : k < 8) :
    (value >>> UInt64.ofNat (k * 8)).toUInt8.toNat = value.toNat / 2 ^ (8 * k) % 2 ^ 8 := by
  rw [UInt64.toNat_toUInt8, UInt64.toNat_shiftRight, UInt64.toNat_ofNat',
    Nat.mod_eq_of_lt (show k * 8 < 2 ^ 64 by omega), Nat.mod_eq_of_lt (show k * 8 < 64 by omega),
    Nat.shiftRight_eq_div_pow, Nat.mul_comm]

theorem bitsOf_shiftRight_toUInt8 (value : UInt64) {k width : ℕ} (below : k < 8)
    (atMostEight : width ≤ 8) :
    bitsOf (value >>> UInt64.ofNat (k * 8)).toUInt8.toNat width =
      bitsOf (value.toNat / 2 ^ (8 * k)) width := by
  rw [toNat_shiftRight_toUInt8 value below, Theory.bitsOf_mod_two_pow _ atMostEight]

/-- From any inserter, `insert(value, it, num_bits)` appends `fieldBits` of the
value. -/
theorem insertNumBits_spec {it : BitInserter} (wf : it.Wf) (littleEndian : Bool) (value : UInt64)
    {numBits : ℕ} (fits : numBits ≤ 64) :
    (insertNumBits littleEndian value numBits it).Wf ∧
      (insertNumBits littleEndian value numBits it).toBits =
        it.toBits ++ fieldBits littleEndian value.toNat numBits := by
  -- the whole bytes, as one run of eight-bit calls
  have wholeBytes : ((List.range (numBits / 8)).map fun i =>
      ((if littleEndian then (value >>> UInt64.ofNat (i * 8)).toUInt8
        else (value >>> UInt64.ofNat ((numBits / 8 - i - 1) * 8)).toUInt8), 8)).flatMap
        (fun call => bitsOf call.1.toNat call.2) =
      if littleEndian then bitsOf value.toNat (8 * (numBits / 8))
      else (List.range (numBits / 8)).reverse.flatMap fun i => bitsOf (value.toNat / 2 ^ (8 * i)) 8 := by
    rw [List.flatMap_map]
    cases littleEndian
    case true =>
      rw [Theory.bitsOf_mul]
      exact List.flatMap_congr fun i mem =>
        bitsOf_shiftRight_toUInt8 value (by rw [List.mem_range] at mem; omega) le_rfl
    case false =>
      rw [List.range_eq_range', List.reverse_range', List.flatMap_map, ← List.range_eq_range']
      refine List.flatMap_congr fun i mem => ?_
      rw [List.mem_range] at mem
      simp only [Bool.false_eq_true, if_false]
      rw [bitsOf_shiftRight_toUInt8 value (by omega) le_rfl]
      congr 3
      omega
  obtain ⟨wfBytes, bitsBytes⟩ := BitInserter.insertAll_spec wf ((List.range (numBits / 8)).map
    fun i => ((if littleEndian then (value >>> UInt64.ofNat (i * 8)).toUInt8
      else (value >>> UInt64.ofNat ((numBits / 8 - i - 1) * 8)).toUInt8), 8)) (by simp)
  rw [wholeBytes] at bitsBytes
  unfold insertNumBits
  dsimp only
  rw [foldl_insertByte]
  split
  case isTrue odd =>
    -- the odd bits above the whole bytes, in one more call
    obtain ⟨wfOdd, bitsOdd⟩ := BitInserter.insertBits_spec wfBytes
      (value >>> UInt64.ofNat (numBits / 8 * 8)).toUInt8 (show numBits % 8 ≤ 8 by omega)
    refine ⟨wfOdd, ?_⟩
    rw [bitsOdd, bitsBytes, bitsOf_shiftRight_toUInt8 value (by omega) (by omega), fieldBits]
    cases littleEndian
    case true =>
      simp only [if_true, List.append_assoc]
      rw [← Theory.bitsOf_add, Nat.div_add_mod]
    case false => simp only [Bool.false_eq_true, if_false, List.append_assoc]
  case isFalse whole =>
    -- no odd bits: the whole bytes are the field
    refine ⟨wfBytes, ?_⟩
    have noOdd : numBits % 8 = 0 := by omega
    rw [bitsBytes, fieldBits, noOdd]
    cases littleEndian
    case true =>
      simp only [if_true]
      rw [Nat.mul_div_cancel' (Nat.dvd_of_mod_eq_zero noOdd)]
    case false => simp

/-- Only the low `num_bits` bits of the value show in `fieldBits`. -/
theorem fieldBits_mod (littleEndian : Bool) (x numBits : ℕ) :
    fieldBits littleEndian (x % 2 ^ numBits) numBits = fieldBits littleEndian x numBits := by
  have whole : 8 * (numBits / 8) + numBits % 8 = numBits := Nat.div_add_mod numBits 8
  cases littleEndian
  case true => exact Theory.bitsOf_mod_two_pow x le_rfl
  case false =>
    simp only [fieldBits, Bool.false_eq_true, if_false]
    congr 1
    · refine List.flatMap_congr fun i mem => ?_
      rw [List.mem_reverse, List.mem_range] at mem
      exact Theory.bitsOf_mod_div x (by omega)
    · exact Theory.bitsOf_mod_div x (by omega)

@[simp] theorem length_fieldBits (littleEndian : Bool) (x numBits : ℕ) :
    (fieldBits littleEndian x numBits).length = numBits := by
  cases littleEndian
  case true => simp [fieldBits]
  case false =>
    simp [fieldBits, List.length_flatMap]
    omega

end EndianInserter

/-! ## Extracting -/

/-- An `Iterator` over the bytes of a packet, at `index`. -/
structure Iterator where
  data : List UInt8
  index : ℕ
  deriving DecidableEq, Repr

namespace Iterator

/-- `Iterator::operator*`, which asserts that the index is inside the packet. -/
def deref (it : Iterator) : Option UInt8 := it.data[it.index]?

/-- `Iterator::operator++`. -/
def next (it : Iterator) : Iterator := { it with index := it.index + 1 }

/-- Where `extract` stores the `i`-th byte it reads of a field of `size` bytes. -/
def extractIndex (littleEndian : Bool) (size i : ℕ) : ℕ :=
  if littleEndian then i else size - i - 1

/-- One pass of the loop of `extract`. -/
def extractStep (littleEndian : Bool) (size : ℕ) (acc : List UInt8 × Iterator) (i : ℕ) :
    Option (List UInt8 × Iterator) := do
  let index := extractIndex littleEndian size i
  let byte ← acc.2.deref
  pure (acc.1.set index byte, acc.2.next)

/-- `Iterator<little_endian>::extract<T>()` of a POD of `size` bytes: its object
representation, and the iterator past it. -/
def extract (littleEndian : Bool) (size : ℕ) (it : Iterator) : Option (List UInt8 × Iterator) :=
  (List.range size).foldlM (extractStep littleEndian size) (List.replicate size 0, it)

theorem extractIndex_extractIndex (littleEndian : Bool) {size i : ℕ} (below : i < size) :
    extractIndex littleEndian size (extractIndex littleEndian size i) = i := by
  cases littleEndian
  case true => rfl
  case false =>
    simp only [extractIndex, Bool.false_eq_true, if_false]
    omega

theorem extractIndex_lt (littleEndian : Bool) {size i : ℕ} (below : i < size) :
    extractIndex littleEndian size i < size := by
  unfold extractIndex
  split <;> omega

/-- The field after the first `k` bytes are read: each position holds its byte
once it has been read, and zero before. -/
def partialField (littleEndian : Bool) (size : ℕ) (it : Iterator) (k : ℕ) : List UInt8 :=
  (List.range size).map fun j =>
    if extractIndex littleEndian size j < k then
      it.data.getD (it.index + extractIndex littleEndian size j) 0
    else 0

/-- One more byte read puts it where `extractIndex` says. -/
theorem set_partialField (littleEndian : Bool) {size k : ℕ} (it : Iterator) (below : k < size)
    (inside : it.index + k < it.data.length) :
    (partialField littleEndian size it k).set (extractIndex littleEndian size k) it.data[it.index + k] =
      partialField littleEndian size it (k + 1) := by
  apply List.ext_getElem
  · simp [partialField]
  · intro j inRange _
    simp only [partialField, List.length_set, List.length_map, List.length_range] at inRange
    simp only [partialField, List.getElem_set, List.getElem_map, List.getElem_range]
    by_cases here : extractIndex littleEndian size k = j
    case pos =>
      -- the position of byte `k`, read now
      subst here
      rw [if_pos rfl, extractIndex_extractIndex littleEndian below, if_pos (Nat.lt_succ_self k),
        List.getD_eq_getElem _ _ inside]
    case neg =>
      -- any other position was or was not read before, as it is now
      have other : extractIndex littleEndian size j ≠ k := fun same =>
        here (by rw [← same, extractIndex_extractIndex littleEndian inRange])
      rw [if_neg here]
      by_cases read : extractIndex littleEndian size j < k
      · rw [if_pos read, if_pos (by omega)]
      · rw [if_neg read, if_neg (by omega)]

/-- The loop of `extract` after `k` passes, inside the packet. -/
theorem foldlM_extractStep (littleEndian : Bool) {size : ℕ} (it : Iterator) {k : ℕ}
    (atMost : k ≤ size) (inside : it.index + k ≤ it.data.length) :
    (List.range k).foldlM (extractStep littleEndian size) (List.replicate size 0, it) =
      some (partialField littleEndian size it k, { it with index := it.index + k }) := by
  induction k with
  | zero =>
    have zeros : partialField littleEndian size it 0 = List.replicate size 0 := by
      simp [partialField, List.map_const']
    simp [zeros]
  | succ k ih =>
    rw [List.range_succ, List.foldlM_append, ih (by omega) (by omega)]
    simp only [List.foldlM_cons, List.foldlM_nil, Option.bind_eq_bind, Option.bind_some,
      extractStep, deref, next, List.getElem?_eq_getElem (show it.index + k < it.data.length by omega)]
    rw [set_partialField littleEndian it (by omega) (by omega), Nat.add_assoc]
    rfl

/-- `extract` inside the packet: each byte of the field read from where the
iterator stood. -/
theorem extract_eq (littleEndian : Bool) {size : ℕ} (it : Iterator)
    (inside : it.index + size ≤ it.data.length) :
    extract littleEndian size it =
      some ((List.range size).map (fun j => it.data.getD (it.index + extractIndex littleEndian size j) 0),
        { it with index := it.index + size }) := by
  rw [extract, foldlM_extractStep littleEndian it le_rfl inside]
  congr 2
  apply List.map_congr_left
  intro j mem
  rw [if_pos (extractIndex_lt littleEndian (List.mem_range.mp mem))]

/-- `extract` inside the packet reads the `size` bytes at the iterator as the
field whose bytes `insert` would write there. -/
theorem extract_eq_ordered (littleEndian : Bool) {size : ℕ} (it : Iterator)
    (inside : it.index + size ≤ it.data.length) :
    extract littleEndian size it =
      some (EndianInserter.ordered littleEndian ((it.data.drop it.index).take size),
        { it with index := it.index + size }) := by
  have fits : ((it.data.drop it.index).take size).length = size := by
    simp only [List.length_take, List.length_drop]
    omega
  rw [extract_eq littleEndian it inside]
  congr 2
  apply List.ext_getElem
  · cases littleEndian <;> simp [EndianInserter.ordered, fits]
  · intro j inRange _
    simp only [List.length_map, List.length_range] at inRange
    simp only [List.getElem_map, List.getElem_range, List.getD_eq_getElem?_getD]
    cases littleEndian
    case true =>
      simp only [extractIndex, EndianInserter.ordered, if_true, List.getElem_take, List.getElem_drop]
      rw [List.getElem?_eq_getElem (by omega), Option.getD_some]
    case false =>
      -- the `j`-th byte of a big-endian field is read `j` from its end
      simp only [extractIndex, EndianInserter.ordered, Bool.false_eq_true, if_false,
        List.getElem_reverse, List.getElem_take, List.getElem_drop]
      rw [List.getElem?_eq_getElem (by omega), Option.getD_some]
      congr 1
      omega

end Iterator

namespace EndianInserter

/-- The bytes `insert` wrote, read back by `extract`, are the field. -/
theorem extract_ordered (littleEndian : Bool) (bytes rawBytes : List UInt8) :
    Iterator.extract littleEndian rawBytes.length ⟨bytes ++ ordered littleEndian rawBytes, bytes.length⟩ =
      some (rawBytes, ⟨bytes ++ ordered littleEndian rawBytes, bytes.length + rawBytes.length⟩) := by
  have inside : bytes.length + rawBytes.length ≤ (bytes ++ ordered littleEndian rawBytes).length := by
    cases littleEndian <;> simp [ordered]
  rw [Iterator.extract_eq littleEndian _ inside]
  congr 2
  apply List.ext_getElem
  · simp
  · intro j inRange _
    simp only [List.length_map, List.length_range] at inRange
    simp only [List.getElem_map, List.getElem_range, List.getD_eq_getElem?_getD,
      List.getElem?_append_right (Nat.le_add_right _ _), Nat.add_sub_cancel_left]
    cases littleEndian
    case true =>
      simp only [Iterator.extractIndex, ordered, if_true]
      rw [List.getElem?_eq_getElem (by omega), Option.getD_some]
    case false =>
      simp only [Iterator.extractIndex, ordered, Bool.false_eq_true, if_false, List.getElem?_reverse
        (show rawBytes.length - j - 1 < rawBytes.length by omega)]
      rw [List.getElem?_eq_getElem (by omega), Option.getD_some]
      congr 1
      omega

/-- From an inserter that holds no bits, `extract` reads back the field `insert`
wrote. -/
theorem extract_insert (littleEndian : Bool) (bytes rawBytes : List UInt8) :
    Iterator.extract littleEndian rawBytes.length
        ⟨(insert littleEndian rawBytes (BitInserter.new bytes)).bytes, bytes.length⟩ =
      some (rawBytes, ⟨bytes ++ ordered littleEndian rawBytes, bytes.length + rawBytes.length⟩) := by
  rw [insert_new]
  exact extract_ordered littleEndian bytes rawBytes

end EndianInserter

/-- An inserter left holding one bit, by a one-bit field, shifts the next
field's bytes by that bit: `insert` of the byte `1` writes `2`, and `extract`
reads `2` back. -/
theorem held_bit_shifts_extracted_field :
    ((BitInserter.new []).insertBits 0 1).numSavedBits = 1 ∧
      (EndianInserter.insert true [1] ((BitInserter.new []).insertBits 0 1)).bytes = [2] ∧
      Iterator.extract true 1
          ⟨(EndianInserter.insert true [1] ((BitInserter.new []).insertBits 0 1)).bytes, 0⟩ =
        some ([2], ⟨[2], 1⟩) := by
  decide

theorem BitInserter.toBits_new (vector : List UInt8) :
    (BitInserter.new vector).toBits = vector.flatMap fun b => bitsOf b.toNat 8 := by
  simp [BitInserter.toBits, BitInserter.new]

/-- Field serialization packs bits exactly: a run of `insert_bits` calls of at
most eight bits keeps the invariant and takes the low bits of every call in
order; `insert(value, it)` appends the field's bytes to the bits taken, and from
an inserter that holds no bits `extract` reads the field back; and
`insert(value, it, num_bits)` appends the bits `fieldBits` lays out for the low
`num_bits` bits of the value. -/
theorem field_serialization_packs_bits :
    (∀ (vector : List UInt8) (calls : List (UInt8 × ℕ)), (∀ call ∈ calls, call.2 ≤ 8) →
      ((BitInserter.new vector).insertAll calls).Wf ∧
        ((BitInserter.new vector).insertAll calls).toBits =
          vector.flatMap (fun b => bitsOf b.toNat 8) ++
            calls.flatMap (fun call => bitsOf call.1.toNat call.2)) ∧
    (∀ (littleEndian : Bool) (rawBytes : List UInt8) (it : BitInserter), it.Wf →
      (EndianInserter.insert littleEndian rawBytes it).Wf ∧
        (EndianInserter.insert littleEndian rawBytes it).toBits =
          it.toBits ++ (EndianInserter.ordered littleEndian rawBytes).flatMap
            fun b => bitsOf b.toNat 8) ∧
    (∀ (littleEndian : Bool) (rawBytes bytes : List UInt8),
      Iterator.extract littleEndian rawBytes.length
          ⟨(EndianInserter.insert littleEndian rawBytes (BitInserter.new bytes)).bytes, bytes.length⟩ =
        some (rawBytes, ⟨bytes ++ EndianInserter.ordered littleEndian rawBytes,
          bytes.length + rawBytes.length⟩)) ∧
    (∀ (littleEndian : Bool) (value : UInt64) (numBits : ℕ) (it : BitInserter), it.Wf →
      numBits ≤ 64 →
      (EndianInserter.insertNumBits littleEndian value numBits it).Wf ∧
        (EndianInserter.insertNumBits littleEndian value numBits it).toBits =
          it.toBits ++ EndianInserter.fieldBits littleEndian (value.toNat % 2 ^ numBits) numBits) := by
  refine ⟨?bits, ?insert, ?extract, ?numBits⟩
  case bits =>
    intro vector calls widths
    rw [← BitInserter.toBits_new]
    exact BitInserter.insertAll_spec (BitInserter.wf_new vector) calls widths
  case insert =>
    intro littleEndian rawBytes it wf
    exact EndianInserter.insert_spec wf littleEndian rawBytes
  case extract =>
    intro littleEndian rawBytes bytes
    exact EndianInserter.extract_insert littleEndian bytes rawBytes
  case numBits =>
    intro littleEndian value numBits it wf fits
    rw [EndianInserter.fieldBits_mod]
    exact EndianInserter.insertNumBits_spec wf littleEndian value fits

/-- Fields that straddle bytes: after the byte `0xA5`, fields of 3, 5 and 1
bits; the two bytes `0x12 0x34` big-endian after three bits already held, and
read back after a whole byte; and a ten-bit little-endian field after three
bits held. -/
theorem field_serialization_straddling :
    (((BitInserter.new [0xA5]).insertAll [(5, 3), (0x1F, 5), (1, 1)]).Wf ∧
      ((BitInserter.new [0xA5]).insertAll [(5, 3), (0x1F, 5), (1, 1)]).toBits =
        [0xA5].flatMap (fun b : UInt8 => bitsOf b.toNat 8) ++
          [((5 : UInt8), 3), (0x1F, 5), (1, 1)].flatMap (fun call => bitsOf call.1.toNat call.2)) ∧
    ((EndianInserter.insert false [0x12, 0x34] ((BitInserter.new []).insertAll [(5, 3)])).Wf ∧
      (EndianInserter.insert false [0x12, 0x34] ((BitInserter.new []).insertAll [(5, 3)])).toBits =
        ((BitInserter.new []).insertAll [(5, 3)]).toBits ++
          (EndianInserter.ordered false [0x12, 0x34]).flatMap (fun b => bitsOf b.toNat 8)) ∧
    Iterator.extract false 2 ⟨(EndianInserter.insert false [0x12, 0x34] (BitInserter.new [0xA5])).bytes, 1⟩ =
      some ([0x12, 0x34], ⟨[0xA5, 0x34, 0x12], 3⟩) ∧
    (EndianInserter.insertNumBits true 0x2AB 10 ((BitInserter.new []).insertAll [(5, 3)])).Wf ∧
      (EndianInserter.insertNumBits true 0x2AB 10 ((BitInserter.new []).insertAll [(5, 3)])).toBits =
        ((BitInserter.new []).insertAll [(5, 3)]).toBits ++ EndianInserter.fieldBits true (0x2AB % 2 ^ 10) 10 := by
  obtain ⟨bits, insert, extract, numBits⟩ := field_serialization_packs_bits
  have held := (bits [] [(5, 3)] (by decide)).1
  exact ⟨bits [0xA5] [(5, 3), (0x1F, 5), (1, 1)] (by decide), insert false _ _ held, extract false [0x12, 0x34] [0xA5],
    numBits true 0x2AB 10 _ held (by decide)⟩

end Bluedroid.Packet
