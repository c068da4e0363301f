import Mathlib
import Bluedroid.Theory.Transition

/-!
# Sdp.Db -- the SDP server record store of `sdp_db.cc`

The server database is an array of `tSDP_RECORD`s, each holding a fixed array
of `SDP_MAX_REC_ATTR` attribute slots of which the first `num_attributes` are
in use, sorted by id, and a pad of `SDP_MAX_PAD_LEN` bytes filled from the
front up to `free_pad_ptr`, into which each attribute's `value_ptr` points.

The attribute array and the pad are modelled whole (`List`s of their full
size), so that what the code leaves behind in the slots past
`num_attributes`, and rewrites there, is visible in the model; a value
pointer is an offset into the pad.  Only the records in use are kept:
`SDP_CreateRecord` clears a record slot before it uses it.

What a record means is `SdpRecord.contents`: the slots in use, each an id, a
type and the bytes its value pointer and length select from the pad.

`SDP_AddAttribute` shifts the slots to make room before it finds that the pad
is full, and its failure branch then only clears the one slot: a failed call
drops the last attribute of the record and leaves a cleared slot with id 0 in
its place (`sdpAddAttributeRec_pad_full`, `add_attribute_failure_drops_attribute`).
-/

namespace Bluedroid.Sdp

open Bluedroid.Theory

set_option autoImplicit false

/-! ## Layout -/

def sdpMaxRecords : ℕ := 30
def sdpMaxRecAttr : ℕ := 25
def sdpMaxPadLen : ℕ := 600

def attrIdServiceRecordHdl : ℕ := 0x0000
def uintDescType : ℕ := 1
def textStrDescType : ℕ := 4

/-- `tSDP_ATTRIBUTE`. -/
structure SdpAttribute where
  len : ℕ
  /-- Offset of the value in the record's `attr_pad`. -/
  valuePtr : ℕ
  id : ℕ
  type : ℕ
  deriving DecidableEq, Repr, Inhabited

/-- `tSDP_RECORD`: `attributes` has `SDP_MAX_REC_ATTR` slots, `attrPad`
`SDP_MAX_PAD_LEN` bytes. -/
structure SdpRecord where
  recordHandle : ℕ
  freePadPtr : ℕ
  numAttributes : ℕ
  /-- `attribute[SDP_MAX_REC_ATTR]`. -/
  attributes : List SdpAttribute
  attrPad : List UInt8
  deriving DecidableEq, Repr

/-- The records of `tSDP_DB` in use, `record[0 .. num_records)`. -/
structure SdpDb where
  diPrimaryHandle : ℕ
  records : List SdpRecord
  deriving DecidableEq, Repr

def SdpDb.empty : SdpDb := { diPrimaryHandle := 0, records := [] }

/-- A record slot after `memset(…, 0, sizeof(tSDP_RECORD))`, with its handle. -/
def SdpRecord.cleared (handle : ℕ) : SdpRecord where
  recordHandle := handle
  freePadPtr := 0
  numAttributes := 0
  attributes := List.replicate sdpMaxRecAttr default
  attrPad := List.replicate sdpMaxPadLen 0

/-- The attributes in use. -/
def SdpRecord.attributesInUse (r : SdpRecord) : List SdpAttribute :=
  r.attributes.take r.numAttributes

/-- The bytes of an attribute's value. -/
def SdpRecord.valueOf (r : SdpRecord) (a : SdpAttribute) : List UInt8 :=
  (r.attrPad.drop a.valuePtr).take a.len

/-- **What a record means**: id, type and value bytes of each attribute in use. -/
def SdpRecord.contents (r : SdpRecord) : List (ℕ × ℕ × List UInt8) :=
  r.attributesInUse.map fun a => (a.id, a.type, r.valueOf a)

/-- The ids of the attributes in use are strictly increasing, as the search of
`SDP_AddAttribute` and `sdp_db_find_attr_in_rec` expect. -/
def SdpRecord.IdsAscending (r : SdpRecord) : Prop :=
  (r.attributesInUse.map SdpAttribute.id).Pairwise (· < ·)

instance (r : SdpRecord) : Decidable r.IdsAscending :=
  inferInstanceAs (Decidable (List.Pairwise _ _))

/-- `UINT32_TO_BE_FIELD`. -/
def uint32ToBeField (u32 : ℕ) : List UInt8 :=
  [UInt8.ofNat (u32 / 2 ^ 24), UInt8.ofNat (u32 / 2 ^ 16), UInt8.ofNat (u32 / 2 ^ 8),
    UInt8.ofNat u32]

/-! ## The loops over a record -/

/-- The search loop of `SDP_AddAttribute` over the attributes in use: the index
of the first one whose id is `attr_id` (`true`) or above it (`false`), or the
number in use. -/
def scanAttributes (attrId : ℕ) : List SdpAttribute → ℕ × Bool
  | [] => (0, false)
  | a :: rest =>
      if a.id = attrId then (0, true)
      else if attrId < a.id then (0, false)
      else ((scanAttributes attrId rest).1 + 1, (scanAttributes attrId rest).2)

/-- `for (yy = num_attributes; yy > xx; yy--) attribute[yy] = attribute[yy - 1];` -/
def shiftAttributesUp (attrs : List SdpAttribute) (xx : ℕ) : ℕ → List SdpAttribute
  | 0 => attrs
  | yy + 1 =>
      if xx < yy + 1 then shiftAttributesUp (attrs.set (yy + 1) (attrs.getD yy default)) xx yy
      else attrs

/-- `for (zz = attribute_index; zz < num_attributes; zz++) *p_attr = *(p_attr + 1);`,
run `count` times from `zz`. -/
def shiftAttributesDown (attrs : List SdpAttribute) (zz : ℕ) : ℕ → List SdpAttribute
  | 0 => attrs
  | count + 1 => shiftAttributesDown (attrs.set zz (attrs.getD (zz + 1) default)) (zz + 1) count

/-- `for (zz = 0; zz < last_attribute_to_adjust; zz++, pad_ptr++) *pad_ptr = *(pad_ptr + len);` -/
def movePadDown (pad : List UInt8) (padPtr len : ℕ) : ℕ → List UInt8
  | 0 => pad
  | count + 1 => movePadDown (pad.set padPtr (pad.getD (padPtr + len) 0)) (padPtr + 1) len count

/-- `memcpy(&attr_pad[offset], bytes, bytes.length)`. -/
def writePad (pad : List UInt8) (offset : ℕ) (bytes : List UInt8) : List UInt8 :=
  pad.take offset ++ bytes ++ pad.drop (offset + bytes.length)

/-- The first attribute in use with id `attrId`, by index. -/
def findAttribute (r : SdpRecord) (attrId : ℕ) : Option ℕ :=
  r.attributesInUse.findIdx? (·.id = attrId)

/-- `SDP_DeleteAttribute` once it has found the record: close the gap the value
leaves in the pad (moving the later values down and their pointers with them),
and shift the later slots down.  `none` when no attribute in use has the id. -/
def sdpDeleteAttributeRec (r : SdpRecord) (attrId : ℕ) : Option SdpRecord :=
  (findAttribute r attrId).map fun attributeIndex =>
    let a := r.attributes.getD attributeIndex default
    let padPtr := a.valuePtr
    let len := a.len
    let attrs :=
      if len ≠ 0 then
        r.attributes.mapIdx fun zz b =>
          if zz < r.numAttributes ∧ padPtr < b.valuePtr then
            { b with valuePtr := b.valuePtr - len }
          else b
      else r.attributes
    let numAttributes := r.numAttributes - 1
    let attrs := shiftAttributesDown attrs attributeIndex (numAttributes - attributeIndex)
    if len ≠ 0 then
      -- `uint16_t last_attribute_to_adjust`
      let lastAttributeToAdjust := (r.freePadPtr - (padPtr + len)) % 2 ^ 16
      { r with numAttributes := numAttributes, attributes := attrs,
               attrPad := movePadDown r.attrPad padPtr len lastAttributeToAdjust,
               freePadPtr := r.freePadPtr - len }
    else { r with numAttributes := numAttributes, attributes := attrs }

/-- The pad check of `SDP_AddAttribute`: the number of bytes it stores.  A value
that does not fit is cut to the room left if it is a text string, and to
nothing otherwise. -/
def storedLength (freePadPtr attrType attrLen : ℕ) : ℕ :=
  if sdpMaxPadLen ≤ freePadPtr + attrLen then
    if attrType = textStrDescType then sdpMaxPadLen - freePadPtr else 0
  else attrLen

/-- `SDP_AddAttribute` once it has found the record.  `pVal` is `p_val`, `none`
for `NULL`; a text string cut short has its last kept byte set to `'\0'` in the
caller's buffer before it is copied. -/
def sdpAddAttributeRec (r : SdpRecord) (attrId attrType attrLen : ℕ)
    (pVal : Option (List UInt8)) : SdpRecord × Bool :=
  let scan := scanAttributes attrId r.attributesInUse
  let xx := scan.1
  -- an attribute with this id is deleted first, and `xx` is where it was
  let r := if scan.2 then (sdpDeleteAttributeRec r attrId).getD r else r
  if r.numAttributes = sdpMaxRecAttr then (r, false)
  else
    let attrs :=
      if xx = r.numAttributes then r.attributes
      else shiftAttributesUp r.attributes xx r.numAttributes
    let slot := { attrs.getD xx default with id := attrId, type := attrType, len := attrLen }
    let stored := storedLength r.freePadPtr attrType attrLen
    match pVal with
    | some val =>
        if 0 < stored then
          let val :=
            if sdpMaxPadLen ≤ r.freePadPtr + attrLen then val.set (stored - 1) 0 else val
          let bytes := val.take stored
          ({ r with attributes :=
                      attrs.set xx { slot with len := stored, valuePtr := r.freePadPtr },
                    attrPad := writePad r.attrPad r.freePadPtr bytes,
                    freePadPtr := r.freePadPtr + stored,
                    numAttributes := r.numAttributes + 1 }, true)
        else if attrLen ≠ 0 then
          -- the failure branch clears the slot and nothing else
          ({ r with attributes := attrs.set xx { slot with id := 0, type := 0, len := 0 } }, false)
        else
          ({ r with attributes := attrs.set xx slot, numAttributes := r.numAttributes + 1 }, true)
    | none =>
        ({ r with attributes := attrs.set xx { slot with id := 0, type := 0, len := 0 } }, false)

/-! ## The record loops in closed form -/

theorem scanAttributes_fst_le (attrId : ℕ) :
    ∀ attrs : List SdpAttribute, (scanAttributes attrId attrs).1 ≤ attrs.length
  | [] => Nat.le_refl 0
  | a :: rest => by
      have inner := scanAttributes_fst_le attrId rest
      simp only [scanAttributes]
      split_ifs <;> simp [inner]

theorem shiftAttributesUp_length (attrs : List SdpAttribute) (xx : ℕ) :
    ∀ yy, (shiftAttributesUp attrs xx yy).length = attrs.length := by
  intro yy
  induction yy generalizing attrs with
  | zero => rfl
  | succ yy ih =>
      simp only [shiftAttributesUp]
      split_ifs
      · rw [ih, List.length_set]
      · rfl

/-- The shifting loop moves slots `xx .. yy - 1` one place up and leaves the
others alone. -/
theorem getElem?_shiftAttributesUp (xx : ℕ) :
    ∀ (yy : ℕ) (attrs : List SdpAttribute) (k : ℕ), yy < attrs.length →
      (shiftAttributesUp attrs xx yy)[k]? = if xx < k ∧ k ≤ yy then attrs[k - 1]? else attrs[k]?
  | 0, attrs, k, _ => by
      simp only [shiftAttributesUp]
      split_ifs with inside
      · omega
      · rfl
  | yy + 1, attrs, k, inRange => by
      simp only [shiftAttributesUp]
      by_cases moving : xx < yy + 1
      · -- one step of the loop, then the rest of it on the updated array
        rw [if_pos moving, getElem?_shiftAttributesUp xx yy _ k (by rw [List.length_set]; omega)]
        have read : some (attrs.getD yy default) = attrs[yy]? := by
          rw [List.getD_eq_getElem?_getD, List.getElem?_eq_getElem (by omega)]
          rfl
        by_cases last : k = yy + 1
        · subst last
          rw [if_neg (by omega), if_pos ⟨moving, Nat.le_refl _⟩,
            List.getElem?_set_self (by omega), read]
          rfl
        · by_cases inner : xx < k ∧ k ≤ yy
          · rw [if_pos inner, if_pos ⟨inner.1, by omega⟩, List.getElem?_set_ne (by omega)]
          · rw [if_neg inner, if_neg (by omega), List.getElem?_set_ne (by omega)]
      · rw [if_neg moving, if_neg (by omega)]

/-! ## A failed `SDP_AddAttribute` -/

section PadFull

variable {r : SdpRecord} {attrId attrType attrLen : ℕ} {pVal : Option (List UInt8)}

/-- The slots after the insertion loop, with the new attribute's slot at `xx`. -/
def insertionSlots (r : SdpRecord) (xx : ℕ) : List SdpAttribute :=
  if xx = r.numAttributes then r.attributes else shiftAttributesUp r.attributes xx r.numAttributes

theorem length_insertionSlots (xx : ℕ) : (insertionSlots r xx).length = r.attributes.length := by
  unfold insertionSlots
  split_ifs
  · rfl
  · exact shiftAttributesUp_length _ _ _

/-- When the value does not fit the pad (and is not a text string to cut), the
call fails after the slots have been shifted, with only the new slot cleared. -/
theorem sdpAddAttributeRec_of_pad_full (room : r.numAttributes ≠ sdpMaxRecAttr)
    (absent : (scanAttributes attrId r.attributesInUse).2 = false)
    (full : sdpMaxPadLen ≤ r.freePadPtr + attrLen) (notText : attrType ≠ textStrDescType)
    (nonempty : attrLen ≠ 0) :
    let xx := (scanAttributes attrId r.attributesInUse).1
    sdpAddAttributeRec r attrId attrType attrLen pVal =
      ({ r with
          attributes := (insertionSlots r xx).set xx
            ({ (insertionSlots r xx).getD xx default with id := 0, type := 0, len := 0 }) },
        false) := by
  have nothing : storedLength r.freePadPtr attrType attrLen = 0 := by
    simp [storedLength, full, notText]
  unfold sdpAddAttributeRec
  simp only [absent, Bool.false_eq_true, if_false, if_neg room, nothing, Nat.lt_irrefl]
  cases pVal <;> simp [insertionSlots, nonempty]

/-- The slots in use after such a failure: the cleared slot at `xx`, the ones
that were from `xx` on behind it, and the last one gone. -/
theorem take_set_insertionSlots (slots : r.attributes.length = sdpMaxRecAttr)
    (room : r.numAttributes < sdpMaxRecAttr) {xx : ℕ} (within : xx ≤ r.numAttributes)
    (cleared : SdpAttribute) :
    ((insertionSlots r xx).set xx cleared).take r.numAttributes =
      (r.attributesInUse.take xx ++ [cleared] ++ r.attributesInUse.drop xx).take
        r.numAttributes := by
  apply List.ext_getElem?
  intro k
  rw [List.getElem?_take, List.getElem?_take]
  by_cases used : k < r.numAttributes
  · rw [if_pos used, if_pos used]
    have shifted : (insertionSlots r xx)[k]? =
        if xx < k then r.attributes[k - 1]? else r.attributes[k]? := by
      unfold insertionSlots
      by_cases append : xx = r.numAttributes
      · rw [if_pos append, if_neg (by omega)]
      · rw [if_neg append, getElem?_shiftAttributesUp xx _ _ k (by omega)]
        by_cases moved : xx < k
        · rw [if_pos ⟨moved, by omega⟩, if_pos moved]
        · rw [if_neg (by omega), if_neg moved]
    have inUse : r.attributesInUse.length = r.numAttributes := by
      simp [SdpRecord.attributesInUse, slots]; omega
    rcases Nat.lt_trichotomy k xx with before | here | after
    · rw [List.getElem?_set_ne (by omega), shifted, if_neg (by omega),
        List.getElem?_append_left (by simp; omega), List.getElem?_append_left (by simp; omega),
        List.getElem?_take_of_lt before]
      simp [SdpRecord.attributesInUse, used]
    · subst here
      rw [List.getElem?_set_self (by rw [length_insertionSlots, slots]; omega)]
      simp [inUse, Nat.min_eq_left within]
    · rw [List.getElem?_set_ne (by omega), shifted, if_pos after,
        List.getElem?_append_right (by simp; omega), List.length_append, List.length_take,
        List.length_singleton, Nat.min_eq_left (by omega),
        List.getElem?_drop]
      simp only [SdpRecord.attributesInUse, List.getElem?_take]
      have index : xx + (k - (xx + 1)) = k - 1 := by omega
      rw [index, if_pos (by omega)]
  · rw [if_neg used, if_neg used]

/-- **A failed `SDP_AddAttribute` is not atomic.**  When the value does not fit
the pad and is not a text string, the call fails, and the record then holds the
attributes before the insertion point, a cleared attribute `(0, 0, [])`, and
the later ones, the last of which is gone. -/
theorem sdpAddAttributeRec_pad_full (slots : r.attributes.length = sdpMaxRecAttr)
    (room : r.numAttributes < sdpMaxRecAttr)
    (absent : (scanAttributes attrId r.attributesInUse).2 = false)
    (full : sdpMaxPadLen ≤ r.freePadPtr + attrLen) (notText : attrType ≠ textStrDescType)
    (nonempty : attrLen ≠ 0) :
    let xx := (scanAttributes attrId r.attributesInUse).1
    (sdpAddAttributeRec r attrId attrType attrLen pVal).2 = false ∧
      (sdpAddAttributeRec r attrId attrType attrLen pVal).1.contents =
        (r.contents.take xx ++ [(0, 0, [])] ++ r.contents.drop xx).take r.numAttributes := by
  intro xx
  have within : xx ≤ r.numAttributes :=
    Nat.le_trans (scanAttributes_fst_le attrId r.attributesInUse) (List.length_take_le _ _)
  rw [sdpAddAttributeRec_of_pad_full (Nat.ne_of_lt room) absent full notText nonempty]
  refine ⟨rfl, ?_⟩
  -- the pad is untouched, so only the slots in use change
  have meaning : ∀ attrs : List SdpAttribute, SdpRecord.contents { r with attributes := attrs } =
      (attrs.take r.numAttributes).map fun a => (a.id, a.type, r.valueOf a) := fun _ => rfl
  rw [meaning, take_set_insertionSlots slots room within]
  simp [SdpRecord.contents, SdpRecord.valueOf, List.map_take, List.map_drop]

/-- Ids are in order iff the ids of the record's contents are. -/
theorem idsAscending_iff_contents (r : SdpRecord) :
    r.IdsAscending ↔ (r.contents.map Prod.fst).Pairwise (· < ·) := by
  simp [SdpRecord.IdsAscending, SdpRecord.contents, List.map_map, Function.comp_def]

/-- A `0` put back after a nonempty prefix of a list, the list then cut to its
length, is not strictly increasing. -/
theorem not_pairwise_insert_zero {l : List ℕ} {xx n : ℕ} (after : 0 < xx) (inside : xx < n)
    (len : l.length = n) : ¬ ((l.take xx ++ [0] ++ l.drop xx).take n).Pairwise (· < ·) := by
  intro ascending
  rw [List.append_assoc, List.take_append, List.take_of_length_le (by simp; omega),
    List.pairwise_append] at ascending
  obtain ⟨first, firstIn⟩ : ∃ a, a ∈ l.take xx :=
    List.exists_mem_of_ne_nil _ (List.ne_nil_of_length_pos (by simp; omega))
  have zeroIn : 0 ∈ ([0] ++ l.drop xx).take (n - (l.take xx).length) := by
    rw [List.length_take, Nat.min_eq_left (by omega), List.singleton_append,
      show n - xx = n - xx - 1 + 1 by omega, List.take_succ_cons]
    exact List.mem_cons_self
  exact Nat.not_lt_zero _ (ascending.2.2 first firstIn 0 zeroIn)

end PadFull

/-! ## The database API -/

/-- Apply a record operation to the first record with `handle`, as the search
loops of `SDP_AddAttribute` do; `none` if there is none. -/
def updateRecord (f : SdpRecord → SdpRecord × Bool) (handle : ℕ) :
    List SdpRecord → Option (List SdpRecord × Bool)
  | [] => none
  | r :: rest =>
      if r.recordHandle = handle then some ((f r).1 :: rest, (f r).2)
      else (updateRecord f handle rest).map fun updated => (r :: updated.1, updated.2)

/-- `SDP_AddAttribute`. -/
def sdpAddAttribute (db : SdpDb) (handle attrId attrType attrLen : ℕ)
    (pVal : Option (List UInt8)) : SdpDb × Bool :=
  match updateRecord (sdpAddAttributeRec · attrId attrType attrLen pVal) handle db.records with
  | none => (db, false)
  | some updated => ({ db with records := updated.1 }, updated.2)

/-- The search loop of `SDP_DeleteAttribute`: the first record with `handle`
that has an attribute `attrId` in use. -/
def deleteInRecords (handle attrId : ℕ) : List SdpRecord → Option (List SdpRecord)
  | [] => none
  | r :: rest =>
      match (if r.recordHandle = handle then sdpDeleteAttributeRec r attrId else none) with
      | some r' => some (r' :: rest)
      | none => (deleteInRecords handle attrId rest).map (r :: ·)

/-- `SDP_DeleteAttribute`. -/
def sdpDeleteAttribute (db : SdpDb) (handle attrId : ℕ) : SdpDb × Bool :=
  match deleteInRecords handle attrId db.records with
  | none => (db, false)
  | some records => ({ db with records := records }, true)

/-- `SDP_CreateRecord`: the next handle after the last record's (`0x10000` for
the first), a cleared record, and its first attribute, the handle itself.
Returns the handle, `0` when the database is full. -/
def sdpCreateRecord (db : SdpDb) : SdpDb × ℕ :=
  if db.records.length < sdpMaxRecords then
    let handle :=
      match db.records.getLast? with
      | none => 0x10000
      | some last => (last.recordHandle + 1) % 2 ^ 32
    let db := { db with records := db.records ++ [SdpRecord.cleared handle] }
    ((sdpAddAttribute db handle attrIdServiceRecordHdl uintDescType 4
      (some (uint32ToBeField handle))).1, handle)
  else (db, 0)

/-- `SDP_DeleteRecord`: handle `0` deletes every record.  Moving the later
records up rebases their value pointers by `sizeof(tSDP_RECORD)`, which leaves
their offsets in the pad as they were. -/
def sdpDeleteRecord (db : SdpDb) (handle : ℕ) : SdpDb × Bool :=
  if handle = 0 ∨ db.records = [] then ({ diPrimaryHandle := 0, records := [] }, true)
  else
    match db.records.findIdx? (·.recordHandle = handle) with
    | none => (db, false)
    | some xx =>
        ({ diPrimaryHandle := if db.diPrimaryHandle = handle then 0 else db.diPrimaryHandle,
           records := db.records.eraseIdx xx }, true)

/-- A call of the database maintenance API. -/
inductive SdpCall
  | createRecord
  | deleteRecord (handle : ℕ)
  | addAttribute (handle attrId attrType attrLen : ℕ) (pVal : Option (List UInt8))
  | deleteAttribute (handle attrId : ℕ)
  deriving DecidableEq, Repr

/-- A call and whether it succeeded (for `SDP_CreateRecord`, a handle other
than `0`). -/
def sdpApi (db : SdpDb) : SdpCall → SdpDb × Bool
  | .createRecord => ((sdpCreateRecord db).1, (sdpCreateRecord db).2 ≠ 0)
  | .deleteRecord handle => sdpDeleteRecord db handle
  | .addAttribute handle attrId attrType attrLen pVal =>
      sdpAddAttribute db handle attrId attrType attrLen pVal
  | .deleteAttribute handle attrId => sdpDeleteAttribute db handle attrId

/-- Every call can be made at any time. -/
def sdpStep (db : SdpDb) (call : SdpCall) : Option SdpDb := some (sdpApi db call).1

/-! ## Other records are left alone -/

/-- `updateRecord` keeps the records and changes none whose handle differs. -/
theorem updateRecord_frame {f : SdpRecord → SdpRecord × Bool} {handle : ℕ} :
    ∀ {records updated : List SdpRecord} {ok : Bool} {i : ℕ} {rec : SdpRecord},
      updateRecord f handle records = some (updated, ok) → records[i]? = some rec →
        rec.recordHandle ≠ handle → updated[i]? = some rec
  | [], _, _, _, _, found, _, _ => by simp [updateRecord] at found
  | r :: rest, updated, ok, i, rec, found, at_i, other => by
      simp only [updateRecord] at found
      split at found
      · rename_i chosen
        cases found
        cases i with
        | zero =>
            simp only [List.getElem?_cons_zero, Option.some.injEq] at at_i
            exact absurd (at_i ▸ chosen) other
        | succ i => simpa using at_i
      · obtain ⟨⟨updatedRest, okRest⟩, foundRest, rebuilt⟩ :=
          Option.map_eq_some_iff.mp found
        obtain ⟨rfl, rfl⟩ := Prod.mk.inj rebuilt
        cases i with
        | zero => simpa using at_i
        | succ i => simpa using updateRecord_frame foundRest (by simpa using at_i) other

/-- `SDP_AddAttribute` changes no record with another handle. -/
theorem sdpAddAttribute_frame (db : SdpDb) (handle attrId attrType attrLen : ℕ)
    (pVal : Option (List UInt8)) {i : ℕ} {rec : SdpRecord} (at_i : db.records[i]? = some rec)
    (other : rec.recordHandle ≠ handle) :
    (sdpAddAttribute db handle attrId attrType attrLen pVal).1.records[i]? = some rec := by
  unfold sdpAddAttribute
  split
  · exact at_i
  · rename_i updated found
    exact updateRecord_frame found at_i other

/-- **A failed call changes the database.**  A record holds its handle and
attribute 5; adding attribute 3 with a value of 600 bytes fails, and the record
then holds its handle and a cleared attribute with id 0: attribute 5 is gone. -/
theorem add_attribute_failure_drops_attribute :
    ∃ db, run sdpStep SdpDb.empty
        [.createRecord, .addAttribute 0x10000 5 uintDescType 1 (some [7])] = some db ∧
      db.records.map SdpRecord.contents = [[(0, 1, [0, 1, 0, 0]), (5, 1, [7])]] ∧
      (sdpApi db (.addAttribute 0x10000 3 uintDescType 600 (some (List.replicate 600 0)))).2 =
        false ∧
      (sdpApi db (.addAttribute 0x10000 3 uintDescType 600
        (some (List.replicate 600 0)))).1.records.map SdpRecord.contents =
          [[(0, 1, [0, 1, 0, 0]), (0, 0, [])]] := by
  have found : (run sdpStep SdpDb.empty
      [.createRecord, .addAttribute 0x10000 5 uintDescType 1 (some [7])]).any (fun db =>
        decide (db.records.map SdpRecord.contents = [[(0, 1, [0, 1, 0, 0]), (5, 1, [7])]]) &&
        !(sdpApi db (.addAttribute 0x10000 3 uintDescType 600 (some (List.replicate 600 0)))).2 &&
        decide ((sdpApi db (.addAttribute 0x10000 3 uintDescType 600
          (some (List.replicate 600 0)))).1.records.map SdpRecord.contents =
            [[(0, 1, [0, 1, 0, 0]), (0, 0, [])]])) = true := by
    decide +kernel
  obtain ⟨db, ran, holds⟩ := (Option.any_eq_true _ _).mp found
  simp only [Bool.and_eq_true, decide_eq_true_iff, Bool.not_eq_true'] at holds
  exact ⟨db, ran, holds.1.1, holds.1.2, holds.2⟩

/-! ## The order of the ids -/

section Order

variable {r : SdpRecord} {attrId attrType attrLen : ℕ} {pVal : Option (List UInt8)}

/-- **A failed `SDP_AddAttribute` breaks the order of the ids.**  When the new
id belongs between two attributes in use and its value does not fit the pad,
the call fails and leaves the cleared id `0` right after an attribute in use. -/
theorem pad_full_breaks_ascending_ids (slots : r.attributes.length = sdpMaxRecAttr)
    (room : r.numAttributes < sdpMaxRecAttr)
    (absent : (scanAttributes attrId r.attributesInUse).2 = false)
    (full : sdpMaxPadLen ≤ r.freePadPtr + attrLen) (notText : attrType ≠ textStrDescType)
    (nonempty : attrLen ≠ 0)
    (between : 0 < (scanAttributes attrId r.attributesInUse).1 ∧
      (scanAttributes attrId r.attributesInUse).1 < r.numAttributes) :
    (sdpAddAttributeRec r attrId attrType attrLen pVal).2 = false ∧
      ¬ (sdpAddAttributeRec r attrId attrType attrLen pVal).1.IdsAscending := by
  obtain ⟨failed, contents⟩ :=
    @sdpAddAttributeRec_pad_full r attrId attrType attrLen pVal slots room absent full notText
      nonempty
  refine ⟨failed, fun ascending => ?_⟩
  have len : (r.contents.map Prod.fst).length = r.numAttributes := by
    simp [SdpRecord.contents, SdpRecord.attributesInUse, slots]; omega
  rw [idsAscending_iff_contents, contents] at ascending
  simp only [List.map_take, List.map_append, List.map_drop, List.map_cons, List.map_nil] at ascending
  exact not_pairwise_insert_zero between.1 between.2 len ascending

end Order

/-- The record `SDP_CreateRecord` and then `SDP_AddAttribute(handle, id,
UINT_DESC_TYPE, 1, {7})` leave: the handle at id `0`, one octet at `id`. -/
def recordWithId (id : ℕ) : SdpRecord :=
  { SdpRecord.cleared 0x10000 with
    freePadPtr := 5
    numAttributes := 2
    attributes := ⟨4, 0, 0, uintDescType⟩ :: ⟨1, 4, id, uintDescType⟩ ::
      List.replicate (sdpMaxRecAttr - 2) default
    attrPad := [0, 1, 0, 0, 7] ++ List.replicate (sdpMaxPadLen - 5) 0 }

/-- The record built with attribute 5 has its ids in order; adding attribute 3
with a value of 600 bytes fails and leaves ids `0, 0`. -/
theorem pad_full_breaks_ascending_ids_five :
    run sdpStep SdpDb.empty [.createRecord, .addAttribute 0x10000 5 uintDescType 1 (some [7])] =
      some ⟨0, [recordWithId 5]⟩ ∧
    (recordWithId 5).IdsAscending ∧
    (sdpAddAttributeRec (recordWithId 5) 3 uintDescType 600 (some (List.replicate 600 0))).2 = false ∧
    ¬ (sdpAddAttributeRec (recordWithId 5) 3 uintDescType 600
      (some (List.replicate 600 0))).1.IdsAscending :=
  ⟨by decide +kernel, by decide,
    pad_full_breaks_ascending_ids (by decide) (by decide) (by decide) (by decide) (by decide)
      (by decide) (by decide)⟩

end Bluedroid.Sdp
