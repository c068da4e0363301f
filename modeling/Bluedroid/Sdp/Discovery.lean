import Bluedroid.Sdp.Server

/-!
# Sdp.Discovery -- the client's parse of an attribute response

An SDP client collects the attribute list of a ServiceAttributeResponse (or of
one record of a ServiceSearchAttributeResponse) in `rsp_list` and parses it with
`save_attr_seq`: a data element sequence of attribute ids, each a two-byte
unsigned integer followed by the attribute's value, which `add_attr` parses
recursively into `tSDP_DISC_ATTR` nodes of the discovery database.  Lengths
come from the element headers (`sdpu_get_len_from_type`).

The model reads the buffer as a function `mem` from offsets to bytes, the
response at offsets `0` to `n - 1` and whatever lies behind it, and records the
offset of every byte read (`ParseState.reads`).  `wellFormedAttrList` is the
grammar the specification gives an attribute list.

The parse is neither confined to the response nor to the grammar
(`save_attr_seq_escapes_response`): after an attribute id that ends the
sequence, `add_attr` reads the type byte behind it, at offset `n` when the
sequence ends the response; a length in the next four bytes is cast to
`uint16_t`, so an element announcing 65537 bytes is read as 1 byte long; and the
entries of a nested sequence are checked against the outer end, not their
parent's, so an entry may run past its parent's declared length.
-/

namespace Bluedroid.Sdp

set_option autoImplicit false

/-! ## Constants -/

def twoCompIntDescType : ℕ := 2
def uuidDescType : ℕ := 3
def booleanDescType : ℕ := 5

def maxNestLevels : ℕ := 5
def sdpAdditionalListMask : UInt8 := 0x80
def sdpDiscAttrLenMask : ℕ := 0x0FFF
def attrIdProtocolDescList : ℕ := 0x0004
def attrIdAdditionProtoDescLists : ℕ := 0x000D

/-- `sizeof (tSDP_DISC_ATTR)` and `sizeof (tSDP_DISC_REC)` on a 64-bit target. -/
def sizeofDiscAttr : ℕ := 24
def sizeofDiscRec : ℕ := 32

/-- `sdp_base_uuid`. -/
def sdpBaseUuid : List UInt8 :=
  [0x00, 0x00, 0x00, 0x00, 0x00, 0x00, 0x10, 0x00, 0x80, 0x00, 0x00, 0x80,
   0x5F, 0x9B, 0x34, 0xFB]

/-! ## The discovery database -/

mutual

/-- The value of a `tSDP_DISC_ATTR`, as the member of `attr_value.v` that
`add_attr` writes. -/
inductive DiscValue
  /-- No member written. -/
  | unset
  | u8 (v : UInt8)
  | u16 (v : ℕ)
  | u32 (v : ℕ)
  | array (bytes : List UInt8)
  /-- `p_sub_attr`: the attributes of a sequence or alternative. -/
  | sub (attrs : List DiscAttr)

/-- `tSDP_DISC_ATTR`: the id, `attr_len_type` and the value. -/
inductive DiscAttr
  | mk (attrId attrLenType : ℕ) (value : DiscValue)

end

/-- What a parse of a response carries: the free space of the discovery
database and, as a ghost, the offset of every byte it reads, in order. -/
structure ParseState where
  memFree : ℕ
  reads : List ℕ

/-- A parse over the buffer `mem`, which holds the response from offset `0` and
whatever lies behind it. -/
abbrev ParseM := StateM ParseState

/-- `*p`: the byte at offset `p`, recorded as read. -/
def readByte (mem : ℕ → UInt8) (p : ℕ) : ParseM UInt8 := do
  modify fun st => { st with reads := st.reads ++ [p] }
  return mem p

/-- `BE_STREAM_TO_UINT16`. -/
def readBe16 (mem : ℕ → UInt8) (p : ℕ) : ParseM ℕ := do
  let hi ← readByte mem p
  let lo ← readByte mem (p + 1)
  return hi.toNat * 2 ^ 8 + lo.toNat

/-- `BE_STREAM_TO_UINT32`. -/
def readBe32 (mem : ℕ → UInt8) (p : ℕ) : ParseM ℕ := do
  let hi ← readBe16 mem p
  let lo ← readBe16 mem (p + 2)
  return hi * 2 ^ 16 + lo

/-- `BE_STREAM_TO_ARRAY(p, a, len)`. -/
def readArray (mem : ℕ → UInt8) (p : ℕ) : ℕ → ParseM (List UInt8)
  | 0 => return []
  | len + 1 => do
      let b ← readByte mem p
      let rest ← readArray mem (p + 1) len
      return b :: rest

/-- The loop of `sdpu_is_base_uuid` from byte `xx`: it stops at the first byte
that differs from `sdp_base_uuid`. -/
def baseUuidFrom (mem : ℕ → UInt8) (p : ℕ) : List (ℕ × UInt8) → ParseM Bool
  | [] => return true
  | (xx, b) :: rest => do
      if (← readByte mem (p + xx)) ≠ b then return false
      baseUuidFrom mem p rest

/-- `sdpu_is_base_uuid(p)`: bytes 4 to 15 against the base UUID. -/
def sdpuIsBaseUuid (mem : ℕ → UInt8) (p : ℕ) : ParseM Bool :=
  baseUuidFrom mem p (((List.range 16).zip sdpBaseUuid).drop 4)

/-- `p_db->p_free_mem += len; p_db->mem_free -= len`. -/
def takeMem (len : ℕ) : ParseM Unit :=
  modify fun st => { st with memFree := st.memFree - len }

/-- `sdpu_get_len_from_type(p, p_end, type, &len)`: where the value starts and
its length, `none` for `NULL`.  A length in the next four bytes is cast to
`uint16_t`. -/
def sdpuGetLenFromType (mem : ℕ → UInt8) (p pEnd : ℕ) (type : UInt8) :
    ParseM (Option (ℕ × ℕ)) := do
  match (type &&& 7).toNat with
  | 0 => return some (p, 1)
  | 1 => return some (p, 2)
  | 2 => return some (p, 4)
  | 3 => return some (p, 8)
  | 4 => return some (p, 16)
  | 5 =>
      if p + 1 > pEnd then return none
      return some (p + 1, (← readByte mem p).toNat)
  | 6 =>
      if p + 2 > pEnd then return none
      return some (p + 2, ← readBe16 mem p)
  | _ =>
      if p + 4 > pEnd then return none
      return some (p + 4, (← readBe32 mem p) % 2 ^ 16)

/-- The `TWO_COMP_INT_DESC_TYPE` case of `add_attr` (which a `UINT_DESC_TYPE`
falls through to): the value by its length, and where `p` is after it. -/
def storeInt (mem : ℕ → UInt8) (p attrLen : ℕ) : ParseM (ℕ × DiscValue) := do
  match attrLen with
  | 1 => return (p + 1, .u8 (← readByte mem p))
  | 2 => return (p + 2, .u16 (← readBe16 mem p))
  | 4 => return (p + 4, .u32 (← readBe32 mem p))
  | _ => return (p + attrLen, .array (← readArray mem p attrLen))

/-- The `UUID_DESC_TYPE` case of `add_attr`: where `p` is after the value, the
`attr_len_type` it leaves and the value; `none` for the `return p_attr_end` on a
length other than 2, 4 or 16.  A 32-bit or 128-bit UUID on the Bluetooth base is
stored in its short form. -/
def storeUuid (mem : ℕ → UInt8) (p attrLen lenType attrType : ℕ) :
    ParseM (Option (ℕ × ℕ × DiscValue)) := do
  match attrLen with
  | 2 => return some (p + 2, lenType, .u16 (← readBe16 mem p))
  | 4 =>
      let u32 ← readBe32 mem p
      if u32 < 0x10000 then return some (p + 4, 2 ||| attrType <<< 12, .u16 (u32 % 2 ^ 16))
      return some (p + 4, lenType, .u32 u32)
  | 16 =>
      if ← sdpuIsBaseUuid mem p then
        -- `(p[0] == 0) && (p[1] == 0)` reads `p[1]` only after a zero `p[0]`
        let b₀ ← readByte mem p
        let short ← if b₀ = 0 then do pure ((← readByte mem (p + 1)) == 0) else pure false
        if short then
          let u16 ← readBe16 mem (p + 2)
          return some (p + 16, lenType - lenType % 2 ^ 12 + 2, .u16 u16)
        else
          let u32 ← readBe32 mem p
          return some (p + 16, lenType - lenType % 2 ^ 12 + 4, .u32 u32)
      else return some (p + 16, lenType, .array (← readArray mem p 16))
  | _ => return none

mutual

/-- `add_attr(p, p_end, p_db, p_rec, attr_id, p_parent_attr, nest_level)`: the
pointer it returns (`none` for `NULL`) and the attribute it links into the
record or the parent, if it links one.  `none` when `fuel` runs out. -/
def addAttr (mem : ℕ → UInt8) :
    ℕ → ℕ → ℕ → ℕ → UInt8 → ParseM (Option ℕ × Option DiscAttr)
  | 0, _, _, _, _ => return (none, none)
  | fuel + 1, p, pEnd, attrId, nestLevel => do
      let isAdditionalList := nestLevel &&& sdpAdditionalListMask
      let nestLevel := nestLevel &&& ~~~sdpAdditionalListMask
      let type ← readByte mem p
      let some (p, attrLen) ← sdpuGetLenFromType mem (p + 1) pEnd type | return (none, none)
      if p + attrLen > pEnd then return (none, none)
      let attrLen := attrLen &&& sdpDiscAttrLenMask
      let attrType := (type.toNat >>> 3) &&& 0x0f
      -- see if there is enough space in the database
      let totalLen := if attrLen > 4 then attrLen - 4 + sizeofDiscAttr else sizeofDiscAttr
      let pAttrEnd := p + attrLen
      if pAttrEnd > pEnd then return (none, none)
      let totalLen := (totalLen + 3) / 4 * 4
      if (← get).memFree < totalLen then return (none, none)
      let lenType := attrLen ||| attrType <<< 12
      let link (p : Option ℕ) (lenType totalLen : ℕ) (value : DiscValue) :
          ParseM (Option ℕ × Option DiscAttr) := do
        takeMem totalLen
        return (p, some (.mk attrId lenType value))
      -- the sub-attributes of a sequence, alternative or protocol list
      let nested (p : ℕ) (nestLevel : UInt8) : ParseM (Option ℕ × Option DiscAttr) := do
        takeMem sizeofDiscAttr
        if nestLevel.toNat ≥ maxNestLevels then return (some pAttrEnd, none)
        let nestLevel :=
          if isAdditionalList ≠ 0 ∨ attrId = attrIdAdditionProtoDescLists then
            nestLevel ||| sdpAdditionalListMask
          else nestLevel
        let (p, subs) ← addAttrList mem fuel p pAttrEnd pEnd nestLevel []
        match p with
        | none => return (none, none)
        | some p => link (some p) lenType 0 (.sub subs)
      if attrType = uintDescType ∧ isAdditionalList ≠ 0 ∧ attrLen = 2 then
        let id ← readBe16 mem p
        if id = attrIdProtocolDescList then
          -- the protocol list that follows is the value, whatever it returns
          takeMem sizeofDiscAttr
          if nestLevel.toNat ≥ maxNestLevels then return (some pAttrEnd, none)
          let (p, sub) ← addAttr mem fuel (p + 2) pEnd attrIdProtocolDescList (nestLevel + 1)
          return ← link p lenType 0 (.sub sub.toList)
        let (p, value) ← storeInt mem p attrLen
        link (some p) lenType totalLen value
      else if attrType = uintDescType ∨ attrType = twoCompIntDescType then
        let (p, value) ← storeInt mem p attrLen
        link (some p) lenType totalLen value
      else if attrType = uuidDescType then
        match ← storeUuid mem p attrLen lenType attrType with
        | none => return (some pAttrEnd, none)
        | some (p, lenType, value) => link (some p) lenType totalLen value
      else if attrType = dataEleSeqDescType ∨ attrType = dataEleAltDescType then
        nested p nestLevel
      else if attrType = textStrDescType ∨ attrType = urlDescType then
        link (some (p + attrLen)) lenType totalLen (.array (← readArray mem p attrLen))
      else if attrType = booleanDescType then
        if attrLen = 1 then link (some (p + 1)) lenType totalLen (.u8 (← readByte mem p))
        else return (some pAttrEnd, none)
      else link (some p) lenType totalLen .unset

/-- The loop `while (p < p_attr_end)` of `add_attr` over the entries of a
sequence or alternative: each is added with the parent's `p_end`. -/
def addAttrList (mem : ℕ → UInt8) :
    ℕ → ℕ → ℕ → ℕ → UInt8 → List DiscAttr → ParseM (Option ℕ × List DiscAttr)
  | 0, _, _, _, _, subs => return (none, subs)
  | fuel + 1, p, pAttrEnd, pEnd, nestLevel, subs => do
      if p < pAttrEnd then
        let (p, attr) ← addAttr mem fuel p pEnd 0 (nestLevel + 1)
        let subs := subs ++ attr.toList
        match p with
        | none => return (none, subs)
        | some p => addAttrList mem fuel p pAttrEnd pEnd nestLevel subs
      else return (some p, subs)

end

/-- The loop `while (p < p_seq_end)` of `save_attr_seq`: an attribute id, a
two-byte unsigned integer, then its value, added against the sequence's end. -/
def saveAttrLoop (mem : ℕ → UInt8) :
    ℕ → ℕ → ℕ → ℕ → List DiscAttr → ParseM (Option ℕ × List DiscAttr)
  | 0, _, _, _, attrs => return (none, attrs)
  | fuel + 1, p, pSeqEnd, pMsgEnd, attrs => do
      if p < pSeqEnd then
        -- first get the attribute id
        let type ← readByte mem p
        let some (p, attrLen) ← sdpuGetLenFromType mem (p + 1) pMsgEnd type |
          return (none, attrs)
        if p + attrLen > pSeqEnd then return (none, attrs)
        if type.toNat >>> 3 ≠ uintDescType ∨ attrLen ≠ 2 then return (none, attrs)
        let attrId ← readBe16 mem p
        -- now add the attribute value
        let (p, attr) ← addAttr mem fuel (p + 2) pSeqEnd attrId 0
        let attrs := attrs ++ attr.toList
        match p with
        | none => return (none, attrs)
        | some p => saveAttrLoop mem fuel p pSeqEnd pMsgEnd attrs
      else return (some p, attrs)

/-- `save_attr_seq(p_ccb, p, p_msg_end)`: the pointer after the attribute list
(`none` for `NULL`) and the attributes of the record it adds.  The parse is
given a pass for every byte to the message end and two more for each nesting
level. -/
def saveAttrSeq (mem : ℕ → UInt8) (p pMsgEnd : ℕ) : ParseM (Option ℕ × List DiscAttr) := do
  let type ← readByte mem p
  if type.toNat >>> 3 ≠ dataEleSeqDescType then return (none, [])
  let some (p, seqLen) ← sdpuGetLenFromType mem (p + 1) pMsgEnd type | return (none, [])
  if p + seqLen > pMsgEnd then return (none, [])
  -- `add_record`
  if (← get).memFree < sizeofDiscRec then return (none, [])
  takeMem sizeofDiscRec
  saveAttrLoop mem (2 * (pMsgEnd - p) + 2 * maxNestLevels + 4) p (p + seqLen) pMsgEnd []

/-! ## The grammar a response should have -/

/-- The data length a data element's header at `p` announces, in full, and where
its data starts, as the SDP specification defines it: a nil element has no
data, integers have a fixed size of 1 to 16 bytes, a UUID 2, 4 or 16, a
boolean 1, and a text string, sequence, alternative or URL its length in the
next 1, 2 or 4 bytes.  `none` for a size the type does not have, or a header
that does not end by `e`. -/
def headerLength (r : List UInt8) (p e : ℕ) : Option (ℕ × ℕ) :=
  let type := (r.getD p 0).toNat / 8
  let size := (r.getD p 0).toNat % 8
  let fixed := [1, 2, 4, 8, 16].getD size 0
  if e < p + 1 then none
  else if type = 0 then if size = 0 then some (p + 1, 0) else none
  else if type = 1 ∨ type = 2 then if size ≤ 4 then some (p + 1, fixed) else none
  else if type = 3 then if size = 1 ∨ size = 2 ∨ size = 4 then some (p + 1, fixed) else none
  else if type = 5 then if size = 0 then some (p + 1, 1) else none
  else if type = 4 ∨ type = 6 ∨ type = 7 ∨ type = 8 then
    if size = 5 then (if e < p + 2 then none else some (p + 2, (r.getD (p + 1) 0).toNat))
    else if size = 6 then (if e < p + 3 then none else some (p + 3, beUint16 r (p + 1)))
    else if size = 7 then (if e < p + 5 then none else some (p + 5, beUint32 r (p + 1)))
    else none
  else none

mutual

/-- Where a well-formed data element at `p` ends, if it ends by `e`: its data
lies inside `[p, e)`, and the data of a sequence or alternative is exactly a
list of well-formed elements. -/
def elementEnd (r : List UInt8) : ℕ → ℕ → ℕ → Option ℕ
  | 0, _, _ => none
  | fuel + 1, p, e =>
      (headerLength r p e).bind fun (q, len) =>
        if e < q + len then none
        else if (r.getD p 0).toNat / 8 = 6 ∨ (r.getD p 0).toNat / 8 = 7 then
          if elementsFill r fuel q (q + len) then some (q + len) else none
        else some (q + len)

/-- The well-formed elements from `p` fill `[p, e)` exactly. -/
def elementsFill (r : List UInt8) : ℕ → ℕ → ℕ → Bool
  | 0, _, _ => false
  | fuel + 1, p, e =>
      if p = e then true
      else match elementEnd r fuel p e with
        | some q => elementsFill r fuel q e
        | none => false

end

/-- From `p` to `e`: attribute ids, each a two-byte unsigned integer, each
followed by one well-formed element. -/
def attrPairsFill (r : List UInt8) : ℕ → ℕ → ℕ → Bool
  | 0, _, _ => false
  | fuel + 1, p, e =>
      if p = e then true
      else if r.getD p 0 = 0x09 ∧ p + 3 ≤ e then
        match elementEnd r fuel (p + 3) e with
        | some q => attrPairsFill r fuel q e
        | none => false
      else false

/-- **What the client should accept**: `r` starts with a data element sequence,
inside `r`, of attribute ids and values. -/
def wellFormedAttrList (r : List UInt8) : Bool :=
  match headerLength r 0 r.length with
  | some (q, len) =>
      (r.getD 0 0).toNat / 8 = 6 && decide (q + len ≤ r.length) &&
        attrPairsFill r (r.length + 1) q (q + len)
  | none => false

/-! ## Outside the response and the grammar -/

/-- `rsp_list` holding the response `r`, with zeros behind it. -/
def rspBuffer (r : List UInt8) : ℕ → UInt8 := fun i => r.getD i 0

/-- A well-formed list, one text attribute, is accepted whole. -/
example : ((saveAttrSeq (rspBuffer [0x35, 0x08, 0x09, 0x00, 0x01, 0x25, 0x03, 0x41, 0x42, 0x43])
    0 10).run ⟨1024, []⟩).1.1 = some 10 ∧
    wellFormedAttrList [0x35, 0x08, 0x09, 0x00, 0x01, 0x25, 0x03, 0x41, 0x42, 0x43] = true := by
  decide +kernel

/-- **The client parse leaves the response and the grammar.**  `[0x35, 0x03,
0x09, 0x00, 0x01]` is a sequence of one attribute id and no value: `add_attr`
reads the type byte at offset 5, behind the response.  The 11 bytes with the
text header `0x27` announce 65537 bytes, cut to 1, and are accepted; the 10
bytes with the inner sequence `0x35, 0x01` announce one byte for an entry of
three, and are accepted.  Neither is well formed. -/
theorem save_attr_seq_escapes_response :
    5 ∈ ((saveAttrSeq (rspBuffer [0x35, 0x03, 0x09, 0x00, 0x01]) 0 5).run ⟨1024, []⟩).2.reads ∧
    ((saveAttrSeq (rspBuffer [0x35, 0x09, 0x09, 0x00, 0x01, 0x27, 0x00, 0x01, 0x00, 0x01, 0x41])
      0 11).run ⟨1024, []⟩).1.1 = some 11 ∧
    wellFormedAttrList [0x35, 0x09, 0x09, 0x00, 0x01, 0x27, 0x00, 0x01, 0x00, 0x01, 0x41] = false ∧
    ((saveAttrSeq (rspBuffer [0x35, 0x08, 0x09, 0x00, 0x01, 0x35, 0x01, 0x09, 0x00, 0x02])
      0 10).run ⟨1024, []⟩).1.1 = some 10 ∧
    wellFormedAttrList [0x35, 0x08, 0x09, 0x00, 0x01, 0x35, 0x01, 0x09, 0x00, 0x02] = false := by
  refine ⟨?pastEnd, ?truncated, ?truncatedIllFormed, ?nested, ?nestedIllFormed⟩
  case pastEnd => decide +kernel
  case truncated => decide +kernel
  case truncatedIllFormed => decide +kernel
  case nested => decide +kernel
  case nestedIllFormed => decide +kernel

end Bluedroid.Sdp
