import Bluedroid.Sdp.Discovery
import Bluedroid.Gatt.ServerDiscovery
import Mathlib.Data.List.GetD

/-!
# Sdp.Sequences -- the UUID and attribute sequences of a request

A client's ServiceSearch and ServiceSearchAttribute requests carry a data element
sequence of UUIDs, written by `sdpu_build_uuid_seq` (each UUID in its shortest form),
and a sequence of attribute ids, written by `sdpu_build_attrib_seq` (each id as a
two-byte unsigned integer, or the four-byte range `0x0000-0xFFFF` for none).  The
server reads them back with `sdpu_extract_uid_seq` and `sdpu_extract_attr_seq`.

Both extractors loop over the elements up to the sequence end; each element is one
step (`extractUidLoop_element`, `extractAttrLoop_id`), and an induction over the
elements reads a whole sequence.  The extractors stop at `MAX_UUIDS_PER_SEQ` and
`MAX_ATTR_PER_SEQ` entries, so a sequence of sixteen is refused: the client's
filters, at most `SDP_MAX_UUID_FILTERS` and `SDP_MAX_ATTR_FILTERS` long, stay below.
-/

namespace Bluedroid.Gatt

/-- `Uuid::As32Bit`: bytes 0 to 3 of the big-endian form. -/
def Uuid.as32Bit (u : Uuid) : ℕ := u / 2 ^ 96 % 2 ^ 32

/-- `Uuid::To128BitBE`. -/
def Uuid.to128BitBE (u : Uuid) : List UInt8 := u.to128BitLE.reverse

/-- The shortest big-endian form of a UUID: the bytes of its 128-bit big-endian form that
its shortest size keeps, bytes 2 and 3 or 0 to 3 of a UUID on the base UUID, or all
sixteen. -/
def Uuid.shortestBE (u : Uuid) : List UInt8 :=
  if u.shortestSize = 2 then (u.to128BitBE.drop 2).take 2
  else if u.shortestSize = 4 then u.to128BitBE.take 4
  else u.to128BitBE

theorem Uuid.shortestSize_cases (u : Uuid) :
    u.shortestSize = 2 ∨ u.shortestSize = 4 ∨ u.shortestSize = 16 := by
  unfold Uuid.shortestSize
  split
  · exact Or.inl rfl
  split
  · exact Or.inr (Or.inl rfl)
  · exact Or.inr (Or.inr rfl)

end Bluedroid.Gatt

namespace Bluedroid.Sdp

open Bluedroid.Gatt (Uuid)

set_option autoImplicit false

/-! ## Constants of `bt_target.h` and `sdpint.h` -/

def sdpMaxUuidFilters : ℕ := 3
def sdpMaxAttrFilters : ℕ := 15
def maxUuidsPerSeq : ℕ := 16

/-! ## The client's encoders -/

/-- `UINT32_TO_BE_STREAM`. -/
def uint32ToBeStream (v : ℕ) : List UInt8 := uint16ToBeStream (v / 2 ^ 16) ++ uint16ToBeStream v

/-- One UUID of `sdpu_build_uuid_seq`: a UUID element header and the UUID in the size
`GetShortestRepresentationSize` gives it. -/
def uuidElement (u : Uuid) : List UInt8 :=
  let len := u.shortestSize
  if len = 2 then descriptor uuidDescType sizeTwoBytes :: uint16ToBeStream u.as16Bit
  else if len = 4 then descriptor uuidDescType sizeFourBytes :: uint32ToBeStream u.as32Bit
  else if len = 16 then descriptor uuidDescType sizeSixteenBytes :: u.to128BitBE
  -- `DCHECK(0)`: nothing is written
  else []

/-- `sdpu_build_uuid_seq(p_out, num_uuids, p_uuid_list)`: the bytes written.  The
length byte is the low byte of the length of what follows it. -/
def sdpuBuildUuidSeq (uuids : List Uuid) : List UInt8 :=
  let body := uuids.flatMap uuidElement
  descriptor dataEleSeqDescType sizeInNextByte :: UInt8.ofNat body.length :: body

/-- One attribute id of `sdpu_build_attrib_seq`: a two-byte unsigned integer element. -/
def attribIdElement (attr : UInt16) : List UInt8 :=
  descriptor uintDescType sizeTwoBytes :: uint16ToBeStream attr.toNat

/-- `sdpu_build_attrib_seq(p_out, p_attr, num_attrs)`: the bytes written; `none` is the
`NULL` list, for all attributes.  The element count is a `uint16_t`. -/
def sdpuBuildAttribSeq (pAttr : Option (List UInt16)) : List UInt8 :=
  let xx := match pAttr with
    | none => 5
    | some attrs => attrs.length * 3 % 2 ^ 16
  let header :=
    if xx > 255 then descriptor dataEleSeqDescType sizeInNextWord :: uint16ToBeStream xx
    else [descriptor dataEleSeqDescType sizeInNextByte, UInt8.ofNat xx]
  header ++ match pAttr with
    | none => descriptor uintDescType sizeFourBytes :: (uint16ToBeStream 0 ++ uint16ToBeStream 0xFFFF)
    | some attrs => attrs.flatMap attribIdElement

/-! ## The server's decoder of a UUID sequence -/

/-- The loop of `sdpu_extract_uid_seq` over the elements between `p` and `pSeqEnd`:
the `(len, value)` entries.  Every element takes at least three bytes, so `fuel` of the
sequence's length is never used up. -/
def extractUidLoop (b : List UInt8) (pSeqEnd : ℕ) :
    ℕ → ℕ → List (ℕ × List UInt8) → Option (List (ℕ × List UInt8) × ℕ)
  | 0, p, seq => if p < pSeqEnd then none else if p ≠ pSeqEnd then none else some (seq, p)
  | fuel + 1, p, seq =>
      if p < pSeqEnd then
        let descr := (b.getD p 0).toNat
        let p := p + 1
        if descr / 8 ≠ uuidDescType then none
        else
          let size := descr % 8
          -- the UUID's length and where its value starts
          let sized : Option (ℕ × ℕ) :=
            if size = sizeTwoBytes then some (2, p)
            else if size = sizeFourBytes then some (4, p)
            else if size = sizeSixteenBytes then some (16, p)
            else if size = sizeInNextByte then
              if p + 1 > pSeqEnd then none else some ((b.getD p 0).toNat, p + 1)
            else if size = sizeInNextWord then
              if p + 2 > pSeqEnd then none else some (beUint16 b p, p + 2)
            else if size = sizeInNextLong then
              if p + 4 > pSeqEnd then none else some (beUint32 b p, p + 4)
            else none
          sized.bind fun (uuidLen, p) =>
            if (uuidLen = 2 ∨ uuidLen = 4 ∨ uuidLen = 16) ∧ p + uuidLen ≤ pSeqEnd then
              let seq := seq ++ [(uuidLen, (b.drop p).take uuidLen)]
              -- "We can only do so many"
              if seq.length ≥ maxUuidsPerSeq then none
              else extractUidLoop b pSeqEnd fuel (p + uuidLen) seq
            else none
      else if p ≠ pSeqEnd then none else some (seq, p)

/-- `sdpu_extract_uid_seq(p, param_len, &seq)`: the entries and the offset after the
sequence, `none` for `NULL`. -/
def sdpuExtractUidSeq (b : List UInt8) (p paramLen : ℕ) : Option (List (ℕ × List UInt8) × ℕ) :=
  if 1 > paramLen then none
  else
    let paramLen := paramLen - 1
    let descr := (b.getD p 0).toNat
    let p := p + 1
    if descr / 8 ≠ dataEleSeqDescType then none
    else
      let size := descr % 8
      -- the sequence length, where the sequence starts, and what is left of `param_len`
      let header : Option (ℕ × ℕ × ℕ) :=
        if size = sizeTwoBytes then some (2, p, paramLen)
        else if size = sizeFourBytes then some (4, p, paramLen)
        else if size = sizeSixteenBytes then some (16, p, paramLen)
        else if size = sizeInNextByte then
          if 1 > paramLen then none else some ((b.getD p 0).toNat, p + 1, paramLen - 1)
        else if size = sizeInNextWord then
          if 2 > paramLen then none else some (beUint16 b p, p + 2, paramLen - 2)
        else if size = sizeInNextLong then
          if 4 > paramLen then none else some (beUint32 b p, p + 4, paramLen - 4)
        else none
      header.bind fun (seqLen, p, paramLen) =>
        if seqLen > paramLen then none else extractUidLoop b (p + seqLen) seqLen p []

/-! ## Reading what was written -/

/-- The size code of a UUID element of `len` bytes. -/
def uuidSizeCode (len : ℕ) : ℕ :=
  if len = 2 then sizeTwoBytes else if len = 4 then sizeFourBytes else sizeSixteenBytes

theorem getD_append_length (pre rest : List UInt8) (i : ℕ) :
    (pre ++ rest).getD (pre.length + i) 0 = rest.getD i 0 := by
  rw [List.getD_append_right _ _ _ _ (Nat.le_add_right _ _), Nat.add_sub_cancel_left]

theorem beUint16_append_length (pre rest : List UInt8) (i : ℕ) :
    beUint16 (pre ++ rest) (pre.length + i) = beUint16 rest i := by
  rw [beUint16, beUint16, Nat.add_assoc, getD_append_length, getD_append_length]

theorem toNat_descriptor {type size : ℕ} (fits : type * 8 + size < 256) :
    (descriptor type size).toNat = type * 8 + size := by
  rw [descriptor, UInt8.toNat_ofNat', Nat.mod_eq_of_lt fits]

theorem uInt8_ofNat_eq {a b : ℕ} (same : a % 256 = b % 256) : UInt8.ofNat a = UInt8.ofNat b :=
  (UInt8.ofNat_eq_iff_mod_eq_toNat a (UInt8.ofNat b)).2 (by rw [UInt8.toNat_ofNat']; exact same)

theorem beUint16_uint16ToBeStream {v : ℕ} (fits : v < 2 ^ 16) (pre rest : List UInt8) :
    beUint16 (pre ++ uint16ToBeStream v ++ rest) pre.length = v := by
  rw [List.append_assoc, ← Nat.add_zero pre.length, beUint16_append_length]
  simp only [beUint16, uint16ToBeStream, List.cons_append, List.getD_cons_zero,
    List.getD_cons_succ, UInt8.toNat_ofNat']
  omega

/-- The bytes `sdpu_build_uuid_seq` writes for a UUID are its header and its shortest
big-endian form. -/
theorem uuidElement_eq (u : Uuid) :
    uuidElement u = descriptor uuidDescType (uuidSizeCode u.shortestSize) :: u.shortestBE := by
  rcases u.shortestSize_cases with two | four | sixteen
  · have be : (u.to128BitBE.drop 2).take 2 = [UInt8.ofNat (u / 2 ^ 104), UInt8.ofNat (u / 2 ^ 96)] :=
      rfl
    simp only [uuidElement, uuidSizeCode, Uuid.shortestBE, two, if_true, be, uint16ToBeStream, Uuid.as16Bit,
      List.cons.injEq, and_true, true_and]
    exact ⟨uInt8_ofNat_eq (by omega), uInt8_ofNat_eq (by omega)⟩
  · have be : u.to128BitBE.take 4 = [UInt8.ofNat (u / 2 ^ 120), UInt8.ofNat (u / 2 ^ 112),
        UInt8.ofNat (u / 2 ^ 104), UInt8.ofNat (u / 2 ^ 96)] :=
      rfl
    simp only [uuidElement, uuidSizeCode, Uuid.shortestBE, four, show (4 : ℕ) ≠ 2 by decide, if_false,
      if_true, be,
      uint32ToBeStream, uint16ToBeStream, Uuid.as32Bit, List.cons_append, List.nil_append,
      List.cons.injEq, and_true, true_and]
    exact ⟨uInt8_ofNat_eq (by omega), uInt8_ofNat_eq (by omega), uInt8_ofNat_eq (by omega),
      uInt8_ofNat_eq (by omega)⟩
  · simp only [uuidElement, uuidSizeCode, Uuid.shortestBE, sixteen, show (16 : ℕ) ≠ 2 by decide,
      show (16 : ℕ) ≠ 4 by decide, if_false, if_true]

theorem length_to128BitBE (u : Uuid) : u.to128BitBE.length = 16 := by
  simp [Uuid.to128BitBE, Uuid.to128BitLE]

theorem length_shortestBE (u : Uuid) : u.shortestBE.length = u.shortestSize := by
  rcases u.shortestSize_cases with two | four | sixteen
  · simp [Uuid.shortestBE, two, length_to128BitBE]
  · simp [Uuid.shortestBE, four, length_to128BitBE]
  · simp [Uuid.shortestBE, sixteen, length_to128BitBE]

theorem descriptor_uuidSizeCode {len : ℕ} (sized : len = 2 ∨ len = 4 ∨ len = 16) :
    (descriptor uuidDescType (uuidSizeCode len)).toNat / 8 = uuidDescType ∧
      (descriptor uuidDescType (uuidSizeCode len)).toNat % 8 = uuidSizeCode len := by
  rcases sized with rfl | rfl | rfl <;> decide

/-- One UUID element of a fixed size is read whole and appended to the entries. -/
theorem extractUidLoop_element {b : List UInt8} {pSeqEnd fuel p len : ℕ}
    {seq : List (ℕ × List UInt8)} (sized : len = 2 ∨ len = 4 ∨ len = 16)
    (header : b.getD p 0 = descriptor uuidDescType (uuidSizeCode len))
    (inside : p + 1 + len ≤ pSeqEnd) (room : seq.length + 1 < maxUuidsPerSeq) :
    extractUidLoop b pSeqEnd (fuel + 1) p seq =
      extractUidLoop b pSeqEnd fuel (p + 1 + len) (seq ++ [(len, (b.drop (p + 1)).take len)]) := by
  obtain ⟨type, size⟩ := descriptor_uuidSizeCode sized
  have below : ¬maxUuidsPerSeq ≤ seq.length + 1 := by omega
  rw [extractUidLoop, if_pos (by omega)]
  simp only [header, type, size, ne_eq, not_true_eq_false, if_false]
  -- the size code selects the fixed length, which the length check then accepts
  rcases sized with rfl | rfl | rfl <;>
    simp [uuidSizeCode, sizeTwoBytes, sizeFourBytes, sizeSixteenBytes, inside, below]

theorem length_uuidElement (u : Uuid) : (uuidElement u).length = 1 + u.shortestSize := by
  rw [uuidElement_eq, List.length_cons, length_shortestBE, Nat.add_comm]

/-- The elements of a written UUID sequence are read one after another, each as its
shortest big-endian form, and the loop stops at their end. -/
theorem extractUidLoop_elements (uuids : List Uuid) :
    ∀ (pre rest : List UInt8) (seq : List (ℕ × List UInt8)) (fuel : ℕ),
      uuids.length ≤ fuel → seq.length + uuids.length < maxUuidsPerSeq →
      extractUidLoop (pre ++ uuids.flatMap uuidElement ++ rest)
          (pre.length + (uuids.flatMap uuidElement).length) fuel pre.length seq =
        some (seq ++ uuids.map (fun u => (u.shortestSize, u.shortestBE)),
          pre.length + (uuids.flatMap uuidElement).length) := by
  induction uuids with
  | nil =>
    intro pre rest seq fuel _ _
    cases fuel <;> simp [extractUidLoop]
  | cons u us ih =>
    intro pre rest seq fuel enough room
    obtain ⟨fuel, rfl⟩ : ∃ f, fuel = f + 1 := ⟨fuel - 1, by simp at enough; omega⟩
    -- the buffer as the bytes before `u`'s element, the element, and the rest
    have split : pre ++ (u :: us).flatMap uuidElement ++ rest =
        (pre ++ uuidElement u) ++ us.flatMap uuidElement ++ rest := by
      simp only [List.flatMap_cons, List.append_assoc]
    have header : (pre ++ (u :: us).flatMap uuidElement ++ rest).getD pre.length 0 =
        descriptor uuidDescType (uuidSizeCode u.shortestSize) := by
      have read := getD_append_length pre (uuidElement u ++ (us.flatMap uuidElement ++ rest)) 0
      rw [Nat.add_zero] at read
      rw [List.flatMap_cons, List.append_assoc, List.append_assoc, read, uuidElement_eq]
      rfl
    have value : ((pre ++ (u :: us).flatMap uuidElement ++ rest).drop (pre.length + 1)).take
        u.shortestSize = u.shortestBE := by
      rw [List.flatMap_cons, List.append_assoc, List.append_assoc, List.drop_length_add_append,
        uuidElement_eq, List.cons_append, List.drop_succ_cons, List.drop_zero]
      exact List.take_left' (length_shortestBE u)
    have inside : pre.length + 1 + u.shortestSize ≤
        pre.length + ((u :: us).flatMap uuidElement).length := by
      rw [List.flatMap_cons, List.length_append, length_uuidElement]
      omega
    have after : pre.length + 1 + u.shortestSize = (pre ++ uuidElement u).length := by
      rw [List.length_append, length_uuidElement, Nat.add_assoc]
    have fits : seq.length + 1 < maxUuidsPerSeq := by
      simp only [List.length_cons] at room
      omega
    rw [extractUidLoop_element u.shortestSize_cases header inside fits, value, after]
    have whole : pre.length + ((u :: us).flatMap uuidElement).length =
        (pre ++ uuidElement u).length + (us.flatMap uuidElement).length := by
      rw [List.flatMap_cons, List.length_append, List.length_append, Nat.add_assoc]
    rw [whole, split, ih (pre ++ uuidElement u) rest _ fuel (by simpa using enough)
      (by simp only [List.length_append, List.length_cons, List.length_nil] at room ⊢; omega)]
    simp

theorem length_flatMap_uuidElement (uuids : List Uuid) :
    uuids.length ≤ (uuids.flatMap uuidElement).length ∧
      (uuids.flatMap uuidElement).length ≤ 17 * uuids.length := by
  induction uuids with
  | nil => simp
  | cons u us ih =>
    have element := length_uuidElement u
    have size := u.shortestSize_cases
    simp only [List.flatMap_cons, List.length_append, List.length_cons]
    omega

/-- A UUID sequence whose length stands in the next byte is read by the element loop. -/
theorem sdpuExtractUidSeq_byteLength {b : List UInt8} {p paramLen len : ℕ}
    (descr : b.getD p 0 = descriptor dataEleSeqDescType sizeInNextByte)
    (length : b.getD (p + 1) 0 = UInt8.ofNat len) (short : len < 256) (enough : len + 2 ≤ paramLen) :
    sdpuExtractUidSeq b p paramLen = extractUidLoop b (p + 2 + len) len (p + 2) [] := by
  have value : (UInt8.ofNat len).toNat = len := by rw [UInt8.toNat_ofNat', Nat.mod_eq_of_lt short]
  have code : (descriptor 6 5).toNat = 53 := rfl
  have room : ¬1 > paramLen ∧ ¬1 > paramLen - 1 ∧ ¬len > paramLen - 1 - 1 := by omega
  unfold sdpuExtractUidSeq
  simp only [descr, length, value, dataEleSeqDescType, sizeTwoBytes, sizeFourBytes,
    sizeSixteenBytes, sizeInNextByte, code, room, Nat.reduceDiv, Nat.reduceMod, Nat.reduceEqDiff,
    ne_eq, not_true_eq_false, if_false, if_true, Option.bind_some]

/-- `sdpu_extract_uid_seq` reads back what `sdpu_build_uuid_seq` wrote, wherever it stands in
the request and whatever follows it: the UUIDs in order, each in its shortest big-endian form,
and the offset just past the sequence. -/
theorem sdpuExtractUidSeq_build (pre post : List UInt8) (uuids : List Uuid) (paramLen : ℕ)
    (few : uuids.length < maxUuidsPerSeq) (enough : (sdpuBuildUuidSeq uuids).length ≤ paramLen) :
    sdpuExtractUidSeq (pre ++ sdpuBuildUuidSeq uuids ++ post) pre.length paramLen =
      some (uuids.map fun u => (u.shortestSize, u.shortestBE),
        pre.length + (sdpuBuildUuidSeq uuids).length) := by
  obtain ⟨atLeast, atMost⟩ := length_flatMap_uuidElement uuids
  -- the sequence header: its descriptor, then the length of the elements in one byte
  let header := [descriptor dataEleSeqDescType sizeInNextByte,
    UInt8.ofNat (uuids.flatMap uuidElement).length]
  have buffer : pre ++ sdpuBuildUuidSeq uuids ++ post =
      (pre ++ header) ++ uuids.flatMap uuidElement ++ post := by
    simp [header, sdpuBuildUuidSeq]
  have total : (sdpuBuildUuidSeq uuids).length = 2 + (uuids.flatMap uuidElement).length := by
    simp [sdpuBuildUuidSeq]
    omega
  have descr : (pre ++ sdpuBuildUuidSeq uuids ++ post).getD pre.length 0 =
      descriptor dataEleSeqDescType sizeInNextByte := by
    rw [List.append_assoc, ← Nat.add_zero pre.length, getD_append_length]
    rfl
  have length : (pre ++ sdpuBuildUuidSeq uuids ++ post).getD (pre.length + 1) 0 =
      UInt8.ofNat (uuids.flatMap uuidElement).length := by
    rw [List.append_assoc, getD_append_length]
    rfl
  have loop := extractUidLoop_elements uuids (pre ++ header) post [] _ atLeast (by simpa using few)
  simp only [List.length_append, List.length_cons, List.length_nil, header, Nat.zero_add,
    List.nil_append] at loop
  rw [sdpuExtractUidSeq_byteLength descr length (by unfold maxUuidsPerSeq at few; omega)
    (by omega), buffer, total, ← Nat.add_assoc]
  exact loop

/-! ## The attribute sequence -/

theorem descriptor_uint_two : (descriptor uintDescType sizeTwoBytes).toNat = 9 := rfl
theorem descriptor_uint_four : (descriptor uintDescType sizeFourBytes).toNat = 10 := rfl

/-- One two-byte attribute id is read as the range of that id alone. -/
theorem extractAttrLoop_id {b : List UInt8} {pEndList fuel p : ℕ} {seq : List (ℕ × ℕ)}
    (header : b.getD p 0 = descriptor uintDescType sizeTwoBytes) (inside : p + 3 ≤ pEndList)
    (room : seq.length + 1 < maxAttrPerSeq) :
    extractAttrLoop b pEndList (fuel + 1) p seq =
      extractAttrLoop b pEndList fuel (p + 3) (seq ++ [(beUint16 b (p + 1), beUint16 b (p + 1))]) := by
  have below : ¬maxAttrPerSeq ≤ seq.length + 1 := by omega
  rw [extractAttrLoop, if_pos (by omega)]
  simp only [header, descriptor_uint_two]
  simp [uintDescType, sizeTwoBytes, below, show ¬pEndList < p + 1 + 2 by omega]

/-- One four-byte attribute range is read as that range. -/
theorem extractAttrLoop_range {b : List UInt8} {pEndList fuel p : ℕ} {seq : List (ℕ × ℕ)}
    (header : b.getD p 0 = descriptor uintDescType sizeFourBytes) (inside : p + 5 ≤ pEndList)
    (room : seq.length + 1 < maxAttrPerSeq) :
    extractAttrLoop b pEndList (fuel + 1) p seq =
      extractAttrLoop b pEndList fuel (p + 5) (seq ++ [(beUint16 b (p + 1), beUint16 b (p + 1 + 2))]) := by
  have below : ¬maxAttrPerSeq ≤ seq.length + 1 := by omega
  rw [extractAttrLoop, if_pos (by omega)]
  simp only [header, descriptor_uint_four]
  simp [uintDescType, sizeTwoBytes, sizeFourBytes, below, show ¬pEndList < p + 1 + 4 by omega]

theorem length_attribIdElement (attr : UInt16) : (attribIdElement attr).length = 3 := rfl

/-- The ids of a written attribute sequence are read one after another, each as the range of
that id alone, and the loop stops at their end. -/
theorem extractAttrLoop_ids (attrs : List UInt16) :
    ∀ (pre rest : List UInt8) (seq : List (ℕ × ℕ)) (fuel : ℕ),
      attrs.length ≤ fuel → seq.length + attrs.length < maxAttrPerSeq →
      extractAttrLoop (pre ++ attrs.flatMap attribIdElement ++ rest)
          (pre.length + (attrs.flatMap attribIdElement).length) fuel pre.length seq =
        some (seq ++ attrs.map (fun attr => (attr.toNat, attr.toNat)),
          pre.length + (attrs.flatMap attribIdElement).length) := by
  induction attrs with
  | nil =>
    intro pre rest seq fuel _ _
    cases fuel <;> simp [extractAttrLoop]
  | cons attr attrs ih =>
    intro pre rest seq fuel enough room
    obtain ⟨fuel, rfl⟩ : ∃ f, fuel = f + 1 := ⟨fuel - 1, by simp at enough; omega⟩
    have split : pre ++ (attr :: attrs).flatMap attribIdElement ++ rest =
        (pre ++ attribIdElement attr) ++ attrs.flatMap attribIdElement ++ rest := by
      simp only [List.flatMap_cons, List.append_assoc]
    have header : (pre ++ (attr :: attrs).flatMap attribIdElement ++ rest).getD pre.length 0 =
        descriptor uintDescType sizeTwoBytes := by
      rw [List.flatMap_cons, List.append_assoc, List.append_assoc, ← Nat.add_zero pre.length,
        getD_append_length]
      rfl
    have value : beUint16 (pre ++ (attr :: attrs).flatMap attribIdElement ++ rest) (pre.length + 1) =
        attr.toNat := by
      have buffer : pre ++ (attr :: attrs).flatMap attribIdElement ++ rest =
          (pre ++ [descriptor uintDescType sizeTwoBytes]) ++ uint16ToBeStream attr.toNat ++
            (attrs.flatMap attribIdElement ++ rest) := by
        simp [attribIdElement]
      rw [buffer, show pre.length + 1 = (pre ++ [descriptor uintDescType sizeTwoBytes]).length by simp]
      exact beUint16_uint16ToBeStream attr.toNat_lt _ _
    have inside : pre.length + 3 ≤ pre.length + ((attr :: attrs).flatMap attribIdElement).length := by
      rw [List.flatMap_cons, List.length_append, length_attribIdElement]
      omega
    have fits : seq.length + 1 < maxAttrPerSeq := by
      simp only [List.length_cons] at room
      omega
    have whole : pre.length + ((attr :: attrs).flatMap attribIdElement).length =
        (pre ++ attribIdElement attr).length + (attrs.flatMap attribIdElement).length := by
      rw [List.flatMap_cons, List.length_append, List.length_append, Nat.add_assoc]
    rw [extractAttrLoop_id header inside fits, value,
      show pre.length + 3 = (pre ++ attribIdElement attr).length by
        rw [List.length_append, length_attribIdElement],
      whole, split, ih (pre ++ attribIdElement attr) rest _ fuel (by simpa using enough)
        (by simp only [List.length_append, List.length_cons, List.length_nil] at room ⊢; omega)]
    simp

/-- An attribute sequence whose length stands in the next byte is read by the element loop. -/
theorem sdpuExtractAttrSeq_byteLength {b : List UInt8} {p paramLen len : ℕ}
    (descr : b.getD p 0 = descriptor dataEleSeqDescType sizeInNextByte)
    (length : b.getD (p + 1) 0 = UInt8.ofNat len) (short : len < 256) (enough : len + 2 ≤ paramLen) :
    sdpuExtractAttrSeq b p paramLen = extractAttrLoop b (p + 2 + len) len (p + 2) [] := by
  have value : (UInt8.ofNat len).toNat = len := by rw [UInt8.toNat_ofNat', Nat.mod_eq_of_lt short]
  have code : (descriptor 6 5).toNat = 53 := rfl
  have room : ¬paramLen < 1 ∧ ¬paramLen - 1 < 1 ∧ ¬len > paramLen - 1 - 1 := by omega
  unfold sdpuExtractAttrSeq
  simp only [descr, length, value, dataEleSeqDescType, sizeInNextByte, code, room, Nat.reduceDiv,
    Nat.reduceMod, ne_eq, not_true_eq_false, if_false, if_true, Option.bind_some]

theorem sdpuBuildAttribSeq_some {attrs : List UInt16} (few : attrs.length < maxAttrPerSeq) :
    sdpuBuildAttribSeq (some attrs) = [descriptor dataEleSeqDescType sizeInNextByte,
      UInt8.ofNat (attrs.length * 3)] ++ attrs.flatMap attribIdElement := by
  unfold maxAttrPerSeq at few
  have small : attrs.length * 3 % 2 ^ 16 = attrs.length * 3 := Nat.mod_eq_of_lt (by omega)
  simp only [sdpuBuildAttribSeq, small, show ¬attrs.length * 3 > 255 by omega, if_false]

theorem length_flatMap_attribIdElement (attrs : List UInt16) :
    (attrs.flatMap attribIdElement).length = attrs.length * 3 := by
  induction attrs with
  | nil => rfl
  | cons attr attrs ih =>
    rw [List.flatMap_cons, List.length_append, length_attribIdElement, ih, List.length_cons]
    omega

/-- `sdpu_extract_attr_seq` reads back the ids `sdpu_build_attrib_seq` wrote, each as the range
of that id alone, wherever the sequence stands and whatever follows it. -/
theorem sdpuExtractAttrSeq_build_ids (pre post : List UInt8) (attrs : List UInt16) (paramLen : ℕ)
    (few : attrs.length < maxAttrPerSeq) (enough : (sdpuBuildAttribSeq (some attrs)).length ≤ paramLen) :
    sdpuExtractAttrSeq (pre ++ sdpuBuildAttribSeq (some attrs) ++ post) pre.length paramLen =
      some (attrs.map fun attr => (attr.toNat, attr.toNat),
        pre.length + (sdpuBuildAttribSeq (some attrs)).length) := by
  have body := length_flatMap_attribIdElement attrs
  have short : attrs.length < 16 := few
  -- the sequence header: its descriptor, then the length of the elements in one byte
  let header := [descriptor dataEleSeqDescType sizeInNextByte, UInt8.ofNat (attrs.length * 3)]
  have built : sdpuBuildAttribSeq (some attrs) = header ++ attrs.flatMap attribIdElement :=
    sdpuBuildAttribSeq_some few
  have buffer : pre ++ sdpuBuildAttribSeq (some attrs) ++ post =
      (pre ++ header) ++ attrs.flatMap attribIdElement ++ post := by
    simp only [built, List.append_assoc]
  have total : (sdpuBuildAttribSeq (some attrs)).length = 2 + attrs.length * 3 := by
    rw [built, List.length_append, body]
    rfl
  have descr : (pre ++ sdpuBuildAttribSeq (some attrs) ++ post).getD pre.length 0 =
      descriptor dataEleSeqDescType sizeInNextByte := by
    rw [built, List.append_assoc, ← Nat.add_zero pre.length, getD_append_length]
    rfl
  have length : (pre ++ sdpuBuildAttribSeq (some attrs) ++ post).getD (pre.length + 1) 0 =
      UInt8.ofNat (attrs.length * 3) := by
    rw [built, List.append_assoc, getD_append_length]
    rfl
  have loop := extractAttrLoop_ids attrs (pre ++ header) post [] (attrs.length * 3) (by omega)
    (by simpa using few)
  simp only [List.length_append, List.length_cons, List.length_nil, header, Nat.zero_add,
    List.nil_append, body] at loop
  rw [sdpuExtractAttrSeq_byteLength descr length (by omega) (by omega), buffer, total,
    ← Nat.add_assoc]
  exact loop

/-- For the `NULL` list, `sdpu_extract_attr_seq` reads the one range `0x0000-0xFFFF` that
`sdpu_build_attrib_seq` writes, wherever the sequence stands and whatever follows it. -/
theorem sdpuExtractAttrSeq_build_all (pre post : List UInt8) (paramLen : ℕ)
    (enough : (sdpuBuildAttribSeq none).length ≤ paramLen) :
    sdpuExtractAttrSeq (pre ++ sdpuBuildAttribSeq none ++ post) pre.length paramLen =
      some ([(0, 0xFFFF)], pre.length + (sdpuBuildAttribSeq none).length) := by
  let wildcard := [descriptor dataEleSeqDescType sizeInNextByte, UInt8.ofNat 5,
    descriptor uintDescType sizeFourBytes, 0, 0, 0xFF, 0xFF]
  have built : sdpuBuildAttribSeq none = wildcard := rfl
  rw [built] at enough ⊢
  have seven : wildcard.length = 7 := rfl
  rw [seven] at enough ⊢
  -- every read is into the seven bytes of the sequence
  have read : ∀ i, (pre ++ wildcard ++ post).getD (pre.length + i) 0 = (wildcard ++ post).getD i 0 :=
    fun i => by rw [List.append_assoc, getD_append_length]
  have low : beUint16 (pre ++ wildcard ++ post) (pre.length + 2 + 1) = 0 := by
    rw [List.append_assoc, Nat.add_assoc, beUint16_append_length]
    simp [wildcard, beUint16]
  have high : beUint16 (pre ++ wildcard ++ post) (pre.length + 2 + 1 + 2) = 0xFFFF := by
    rw [List.append_assoc, Nat.add_assoc, Nat.add_assoc, beUint16_append_length]
    simp [wildcard, beUint16]
  rw [sdpuExtractAttrSeq_byteLength (by rw [← Nat.add_zero pre.length, read]; rfl)
      (by rw [read]; rfl) (by decide) (by omega),
    extractAttrLoop_range (by rw [read]; rfl) (by omega) (by decide), low, high]
  simp [extractAttrLoop]
/-! ## The request sequences -/

/-- What the client writes into a request, the server reads back: the UUID filter as the UUIDs
in order, each in its shortest big-endian form, and the attribute filter as one single-id range
per id, or the one range `0x0000-0xFFFF` for none; each extractor stops just past its sequence,
whatever precedes or follows it in the request. -/
theorem request_sequences_round_trip :
    (∀ (pre post : List UInt8) (uuids : List Uuid) (paramLen : ℕ),
      uuids.length ≤ sdpMaxUuidFilters → (sdpuBuildUuidSeq uuids).length ≤ paramLen →
      sdpuExtractUidSeq (pre ++ sdpuBuildUuidSeq uuids ++ post) pre.length paramLen =
        some (uuids.map fun u => (u.shortestSize, u.shortestBE),
          pre.length + (sdpuBuildUuidSeq uuids).length)) ∧
    (∀ (pre post : List UInt8) (attrs : List UInt16) (paramLen : ℕ),
      attrs.length ≤ sdpMaxAttrFilters → (sdpuBuildAttribSeq (some attrs)).length ≤ paramLen →
      sdpuExtractAttrSeq (pre ++ sdpuBuildAttribSeq (some attrs) ++ post) pre.length paramLen =
        some (attrs.map fun attr => (attr.toNat, attr.toNat),
          pre.length + (sdpuBuildAttribSeq (some attrs)).length)) ∧
    (∀ (pre post : List UInt8) (paramLen : ℕ), (sdpuBuildAttribSeq none).length ≤ paramLen →
      sdpuExtractAttrSeq (pre ++ sdpuBuildAttribSeq none ++ post) pre.length paramLen =
        some ([(0, 0xFFFF)], pre.length + (sdpuBuildAttribSeq none).length)) := by
  refine ⟨fun pre post uuids paramLen few enough => ?_, fun pre post attrs paramLen few enough => ?_,
    fun pre post paramLen enough => sdpuExtractAttrSeq_build_all pre post paramLen enough⟩
  · -- three filters stay below the sixteen entries a sequence may hold
    have fewer : uuids.length < maxUuidsPerSeq := by
      unfold sdpMaxUuidFilters at few
      unfold maxUuidsPerSeq
      omega
    exact sdpuExtractUidSeq_build pre post uuids paramLen fewer enough
  · -- fifteen filters stay below the sixteen entries a sequence may hold
    have fewer : attrs.length < maxAttrPerSeq := by
      unfold sdpMaxAttrFilters at few
      unfold maxAttrPerSeq
      omega
    exact sdpuExtractAttrSeq_build_ids pre post attrs paramLen fewer enough

/-- The two sequences of a ServiceSearchAttributeRequest, after its five-byte
PDU header and before the maximum byte count: the UUIDs of the serial port
profile, of a 32-bit UUID on the base UUID and of a vendor's 128-bit UUID, each
read back in its shortest size; two attribute ids; and the whole range, which
the client sends as the one range from 0 to 0xFFFF. -/
theorem request_sequences_round_trip_ssa :
    sdpuExtractUidSeq ([0x06, 0x00, 0x01, 0x00, 0x2A] ++
        sdpuBuildUuidSeq [0x0000110100001000800000805F9B34FB, 0x1234567800001000800000805F9B34FB,
          0x00112233445566778899AABBCCDDEEFF] ++ [0x00, 0x40]) 5 40 =
      some ([(2, [0x11, 0x01]), (4, [0x12, 0x34, 0x56, 0x78]),
        (16, [0x00, 0x11, 0x22, 0x33, 0x44, 0x55, 0x66, 0x77, 0x88, 0x99, 0xAA, 0xBB, 0xCC, 0xDD, 0xEE, 0xFF])],
        5 + 27) ∧
    sdpuExtractAttrSeq ([0x06, 0x00, 0x01, 0x00, 0x2A] ++ sdpuBuildAttribSeq (some [0x0001, 0x0009]) ++
        [0x00, 0x40]) 5 10 = some ([(0x0001, 0x0001), (0x0009, 0x0009)], 5 + 8) ∧
    sdpuExtractAttrSeq ([0x06, 0x00, 0x01, 0x00, 0x2A] ++ sdpuBuildAttribSeq none ++ [0x00, 0x40]) 5 9 =
      some ([(0, 0xFFFF)], 5 + 7) := by
  obtain ⟨uuidSeq, attrSeq, allSeq⟩ := request_sequences_round_trip
  refine ⟨(uuidSeq [0x06, 0x00, 0x01, 0x00, 0x2A] [0x00, 0x40] _ 40 (by decide) (by decide)).trans rfl,
    (attrSeq [0x06, 0x00, 0x01, 0x00, 0x2A] [0x00, 0x40] [0x0001, 0x0009] 10 (by decide) (by decide)).trans rfl,
    allSeq [0x06, 0x00, 0x01, 0x00, 0x2A] [0x00, 0x40] 9 (by decide)⟩

end Bluedroid.Sdp
