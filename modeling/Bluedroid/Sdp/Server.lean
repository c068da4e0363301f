import Bluedroid.Sdp.Db
import Bluedroid.Theory.Loop
import Mathlib.Data.Int.Notation

/-!
# Sdp.Server -- the Service Attribute transaction of `sdp_server.cc`

A client asks for the attributes of one record with a ServiceAttributeRequest:
the record handle, the most bytes of attribute list it takes in one response
(`max_list_len`, capped by the link's MTU), a sequence of attribute ids and id
ranges (`sdpu_extract_attr_seq`), and a continuation state.  The server
(`process_service_attr_req`) writes the matching attributes, each encoded by
`sdpu_build_attrib_entry`, into `rsp_list` behind a sequence header whose
length `sdpu_get_attrib_seq_len` computes apart from the encoding.  What does
not fit is sent later: the connection keeps the index of the request entry to
resume at, the id to resume from, and the offset into an attribute cut in two
(`tSDP_CONT_INFO`), and the client sends the same request again with the byte
offset the server returned.

An attribute is cut in two by `sdpu_build_partial_attrib_entry`, which builds
the whole entry in a buffer of `SDP_MAX_ATTR_LEN` bytes and copies a slice of
it.  The first cut refuses an entry of `SDP_MAX_ATTR_LEN` bytes or more with
`SDP_NO_RESOURCES`, although `SDP_AddAttribute` stores values up to the
600-byte pad: a record holding a 400-byte text attribute cannot be sent to a
client that takes fewer bytes at a time (`attr_request_refuses_long_attribute`).
A later cut takes the attribute that the *new* request names, and checks only
that the offset is not past its end: a client that changes the record handle
between two requests has a longer entry built into the buffer
(`partialBuilds` records the bytes each build writes there).
-/

namespace Bluedroid.Sdp

set_option autoImplicit false

/-! ## Constants -/

def sdpMaxAttrLen : ℕ := 400
def maxAttrPerSeq : ℕ := 16
def sdpMaxAttrRsphdrLen : ℕ := 10
def sdpContinuationLen : ℕ := 2

def sdpPduErrorResponse : UInt8 := 0x01
def sdpPduServiceAttrRsp : UInt8 := 0x05

def dataEleSeqDescType : ℕ := 6
def dataEleAltDescType : ℕ := 7
def urlDescType : ℕ := 8

def sizeOneByte : ℕ := 0
def sizeTwoBytes : ℕ := 1
def sizeFourBytes : ℕ := 2
def sizeEightBytes : ℕ := 3
def sizeSixteenBytes : ℕ := 4
def sizeInNextByte : ℕ := 5
def sizeInNextWord : ℕ := 6
def sizeInNextLong : ℕ := 7

/-- The error codes `process_service_attr_req` sends. -/
inductive SdpStatus
  | invalidServRecHdl
  | invalidReqSyntax
  | invalidContState
  | noResources
  | illegalParameter
  deriving DecidableEq, Repr

def SdpStatus.code : SdpStatus → ℕ
  | .invalidServRecHdl => 0x0002
  | .invalidReqSyntax => 0x0003
  | .invalidContState => 0x0005
  | .noResources => 0x0006
  | .illegalParameter => 0x000B

/-! ## Bytes -/

/-- `BE_STREAM_TO_UINT16` at offset `p`. -/
def beUint16 (b : List UInt8) (p : ℕ) : ℕ :=
  (b.getD p 0).toNat * 2 ^ 8 + (b.getD (p + 1) 0).toNat

/-- `BE_STREAM_TO_UINT32` at offset `p`. -/
def beUint32 (b : List UInt8) (p : ℕ) : ℕ :=
  beUint16 b p * 2 ^ 16 + beUint16 b (p + 2)

/-- `UINT16_TO_BE_STREAM`. -/
def uint16ToBeStream (v : ℕ) : List UInt8 := [UInt8.ofNat (v / 2 ^ 8), UInt8.ofNat v]

/-- A data element descriptor byte, `(type << 3) | size`. -/
def descriptor (type size : ℕ) : UInt8 := UInt8.ofNat (type * 8 + size)

/-! ## The attribute list of a request -/

/-- The loop of `sdpu_extract_attr_seq` over the elements between `p` and
`pEndList`: the `(start, end)` entries.  Every element takes at least three
bytes, so `fuel` of the list's length is never used up. -/
def extractAttrLoop (b : List UInt8) (pEndList : ℕ) :
    ℕ → ℕ → List (ℕ × ℕ) → Option (List (ℕ × ℕ) × ℕ)
  | 0, p, seq => if p < pEndList then none else some (seq, p)
  | fuel + 1, p, seq =>
      if p < pEndList then
        let descr := (b.getD p 0).toNat
        let p := p + 1
        if descr / 8 ≠ uintDescType then none
        else
          let size := descr % 8
          -- the element's length and where its value starts
          let sized : Option (ℕ × ℕ) :=
            if size = sizeTwoBytes then some (2, p)
            else if size = sizeFourBytes then some (4, p)
            else if size = sizeInNextByte then
              if p + 1 > pEndList then none else some ((b.getD p 0).toNat, p + 1)
            else if size = sizeInNextWord then
              if p + 2 > pEndList then none else some (beUint16 b p, p + 2)
            else if size = sizeInNextLong then
              if p + 4 > pEndList then none else some (beUint32 b p, p + 4)
            else none
          sized.bind fun (attrLen, p) =>
            if p + attrLen > pEndList then none
            else
              let entry : Option (ℕ × ℕ) :=
                if attrLen = 2 then some (beUint16 b p, beUint16 b p)
                else if attrLen = 4 then some (beUint16 b p, beUint16 b (p + 2))
                else none
              entry.bind fun entry =>
                -- "We can only do so many"
                if (seq ++ [entry]).length ≥ maxAttrPerSeq then none
                else extractAttrLoop b pEndList fuel (p + attrLen) (seq ++ [entry])
      else some (seq, p)

/-- `sdpu_extract_attr_seq(p, param_len, &seq)`: the entries and the offset after
the sequence, `none` for `NULL`. -/
def sdpuExtractAttrSeq (b : List UInt8) (p paramLen : ℕ) : Option (List (ℕ × ℕ) × ℕ) :=
  if paramLen < 1 then none
  else
    let descr := (b.getD p 0).toNat
    if descr / 8 ≠ dataEleSeqDescType then none
    else
      let size := descr % 8
      let paramLen := paramLen - 1
      let p := p + 1
      -- the list length, where the list starts, and what is left of `param_len`
      let header : Option (ℕ × ℕ × ℕ) :=
        if size = sizeInNextByte then
          if paramLen < 1 then none else some ((b.getD p 0).toNat, p + 1, paramLen - 1)
        else if size = sizeInNextWord then
          if paramLen < 2 then none else some (beUint16 b p, p + 2, paramLen - 2)
        else if size = sizeInNextLong then
          if paramLen < 4 then none else some (beUint32 b p, p + 4, paramLen - 4)
        else none
      header.bind fun (listLen, p, paramLen) =>
        if listLen > paramLen then none else extractAttrLoop b (p + listLen) listLen p []

/-! ## The database side -/

/-- `sdp_db_find_record(handle)`. -/
def sdpDbFindRecord (db : SdpDb) (handle : ℕ) : Option SdpRecord :=
  db.records.find? (·.recordHandle = handle)

/-- `sdp_db_find_attr_in_rec(p_rec, start_attr, end_attr)`: the first attribute
in use whose id is in `[start_attr, end_attr]`. -/
def sdpDbFindAttrInRec (r : SdpRecord) (startAttr endAttr : ℕ) : Option SdpAttribute :=
  r.attributesInUse.find? fun a => startAttr ≤ a.id ∧ a.id ≤ endAttr

/-- The types whose length always goes in a length field. -/
def sizedByField (type : ℕ) : Bool :=
  type = textStrDescType ∨ type = dataEleSeqDescType ∨ type = dataEleAltDescType ∨
    type = urlDescType

/-- `sdpu_get_attrib_entry_len(p_attr)`, a `uint16_t`. -/
def sdpuGetAttribEntryLen (a : SdpAttribute) : ℕ :=
  let header :=
    if sizedByField a.type then (if a.len > 0xFF then 3 else 2)
    else if a.len ∈ [1, 2, 4, 8, 16] then 1 else 2
  (3 + header + a.len) % 2 ^ 16

/-- `sdpu_build_attrib_entry(p_out, p_attr)` as built with `SDP_MAX_ATTR_LEN`
of 400: the attribute id as a two-byte unsigned integer, then the value with
its descriptor. -/
def sdpuBuildAttribEntry (r : SdpRecord) (a : SdpAttribute) : List UInt8 :=
  let header :=
    if sizedByField a.type then
      if a.len > 0xFF then descriptor a.type sizeInNextWord :: uint16ToBeStream a.len
      else [descriptor a.type sizeInNextByte, UInt8.ofNat a.len]
    else if a.len = 1 then [descriptor a.type sizeOneByte]
    else if a.len = 2 then [descriptor a.type sizeTwoBytes]
    else if a.len = 4 then [descriptor a.type sizeFourBytes]
    else if a.len = 8 then [descriptor a.type sizeEightBytes]
    else if a.len = 16 then [descriptor a.type sizeSixteenBytes]
    else [descriptor a.type sizeInNextByte, UInt8.ofNat a.len]
  (descriptor uintDescType sizeTwoBytes :: uint16ToBeStream a.id) ++ header ++ r.valueOf a

/-- `sdpu_build_partial_attrib_entry(p_out, p_attr, len, &offset)`: the slice of
the entry from `offset` on, at most `len` bytes, and the new offset.  The whole
entry is first built into a buffer of `SDP_MAX_ATTR_LEN` bytes. -/
def sdpuBuildPartialAttribEntry (r : SdpRecord) (a : SdpAttribute) (len offset : ℕ) :
    List UInt8 × ℕ :=
  let attrBuff := sdpuBuildAttribEntry r a
  let attrLen := sdpuGetAttribEntryLen a
  let len := if len > sdpMaxAttrLen then sdpMaxAttrLen else len
  let lenToCopy := if attrLen - offset < len then attrLen - offset else len
  ((attrBuff.drop offset).take lenToCopy, (offset + lenToCopy) % 2 ^ 16)

/-- The loop of `sdpu_get_attrib_seq_len` from entry `xx`: a range entry is
visited again from the id after the attribute found, `start_id` and `end_id`
are kept while `is_range`.  `none` when `fuel` runs out, which a range meeting
the id `0xFFFF` makes happen (its next start wraps to `0`). -/
def attribSeqLenLoop (r : SdpRecord) (seq : List (ℕ × ℕ)) :
    ℕ → ℕ → Bool → ℕ → ℕ → ℕ → Option ℕ
  | 0, _, _, _, _, _ => none
  | fuel + 1, xx, isRange, startId, endId, len1 =>
      if xx < seq.length then
        let startId := if isRange then startId else (seq.getD xx (0, 0)).1
        let endId := if isRange then endId else (seq.getD xx (0, 0)).2
        match sdpDbFindAttrInRec r startId endId with
        | some a =>
            let len1 := (len1 + sdpuGetAttribEntryLen a) % 2 ^ 16
            if startId ≠ endId then
              attribSeqLenLoop r seq fuel xx true ((a.id + 1) % 2 ^ 16) endId len1
            else attribSeqLenLoop r seq fuel (xx + 1) false startId endId len1
        | none => attribSeqLenLoop r seq fuel (xx + 1) false startId endId len1
      else some len1

/-- The iterations a loop over a request's entries may take in a record: each
entry is visited once more for every attribute of its range. -/
def entryVisits (r : SdpRecord) (seq : List (ℕ × ℕ)) : ℕ :=
  seq.length * (r.numAttributes + 1) + 1

/-- `sdpu_get_attrib_seq_len(p_rec, attr_seq)`. -/
def sdpuGetAttribSeqLen (r : SdpRecord) (seq : List (ℕ × ℕ)) : Option ℕ :=
  attribSeqLenLoop r seq (entryVisits r seq) 0 false 0 0 0

/-! ## The connection -/

/-- `tSDP_CONT_INFO`, the fields the Service Attribute transaction uses. -/
structure ContInfo where
  nextAttrIndex : ℕ
  nextAttrStartId : ℕ
  /-- `prev_sdp_rec`, as the index of the record; `none` for `NULL`. -/
  prevSdpRec : Option ℕ
  attrOffset : ℕ
  deriving DecidableEq, Repr

/-- The fields of `tCONN_CB` the transaction reads and writes. -/
structure ConnCb where
  remMtuSize : ℕ
  listLen : ℕ
  contOffset : ℕ
  contInfo : ContInfo
  deriving DecidableEq, Repr

/-- `sdpu_build_n_send_error(p_ccb, trans_num, error_code, NULL)`: the PDU. -/
def sdpuBuildNSendError (transNum : ℕ) (status : SdpStatus) : List UInt8 :=
  [sdpPduErrorResponse] ++ uint16ToBeStream transNum ++ uint16ToBeStream 2 ++
    uint16ToBeStream status.code

/-! ## The attribute loop -/

/-- What the attribute loop of `process_service_attr_req` carries: the
request's entries (a range's start moves past each attribute sent), the bytes of
`rsp_list` so far, the continuation information, and the size of every entry
built into the buffer of `sdpu_build_partial_attrib_entry`. -/
structure AttrLoopState where
  attrSeq : List (ℕ × ℕ)
  rsp : List UInt8
  contInfo : ContInfo
  partialBuilds : List ℕ
  deriving DecidableEq, Repr

/-- How the loop ends: at entry `xx` (`num_attr` when it ran through), or with
an error response. -/
inductive AttrLoopEnd
  | stopped (xx : ℕ) (s : AttrLoopState)
  | error (status : SdpStatus)
  deriving DecidableEq, Repr

/-- `(int16_t)` of an `int`. -/
def int16Of (z : ℤ) : ℤ := (z + 2 ^ 15) % 2 ^ 16 - 2 ^ 15

/-- One pass of the loop `for (xx = next_attr_index; xx < attr_seq.num_attr; xx++)`
of `process_service_attr_req` in record `r`, with `max_list_len` bytes of room
in `rsp_list`: `inl` the entry and state the next pass starts from, `inr` how
the loop ends (a `break`, a `return` with an error, or the end of the entries). -/
def attrStep (r : SdpRecord) (maxListLen : ℕ) :
    ℕ × AttrLoopState → (ℕ × AttrLoopState) ⊕ AttrLoopEnd
  | (xx, s) =>
      if xx < s.attrSeq.length then
        let entry := s.attrSeq.getD xx (0, 0)
        match sdpDbFindAttrInRec r entry.1 entry.2 with
        | none => .inl (xx + 1, s)
        | some a =>
            -- after an attribute is sent, a range is visited again from the next id
            -- (the source's `xx--`)
            let next (s : AttrLoopState) : (ℕ × AttrLoopState) ⊕ AttrLoopEnd :=
              if entry.1 ≠ entry.2 then
                .inl (xx, { s with attrSeq := s.attrSeq.set xx ((a.id + 1) % 2 ^ 16, entry.2) })
              else .inl (xx + 1, s)
            let remLen := int16Of ((maxListLen : ℤ) - int16Of s.rsp.length)
            let attrLen := sdpuGetAttribEntryLen a
            -- "just in case": no room at all
            if remLen ≤ 0 then
              .inr (.stopped xx { s with contInfo := { s.contInfo with
                nextAttrIndex := xx, nextAttrStartId := a.id } })
            -- the rest of an attribute cut by the previous response
            else if s.contInfo.attrOffset ≠ 0 then
              if attrLen < s.contInfo.attrOffset then .inr (.error .invalidContState)
              else
                let cut := sdpuBuildPartialAttribEntry r a remLen.toNat s.contInfo.attrOffset
                let s := { s with rsp := s.rsp ++ cut.1,
                                  partialBuilds := s.partialBuilds ++ [attrLen],
                                  contInfo := { s.contInfo with attrOffset := cut.2 } }
                if cut.2 ≠ attrLen then .inr (.stopped xx s)
                else next { s with contInfo := { s.contInfo with attrOffset := 0 } }
            -- not enough room: cut the attribute
            else if remLen < attrLen then
              if attrLen ≥ sdpMaxAttrLen then .inr (.error .noResources)
              else
                let cut := sdpuBuildPartialAttribEntry r a remLen.toNat s.contInfo.attrOffset
                .inr (.stopped xx { s with
                  rsp := s.rsp ++ cut.1,
                  partialBuilds := s.partialBuilds ++ [attrLen],
                  contInfo := { s.contInfo with attrOffset := cut.2, nextAttrIndex := xx,
                                                nextAttrStartId := a.id } })
            else next { s with rsp := s.rsp ++ sdpuBuildAttribEntry r a }
      else .inr (.stopped xx s)

/-- The loop from entry `xx`, at most `fuel` passes; `none` when they run out. -/
def attrLoop (r : SdpRecord) (maxListLen fuel xx : ℕ) (s : AttrLoopState) :
    Option AttrLoopEnd :=
  Theory.loop (attrStep r maxListLen) fuel (xx, s)

/-! ## The transaction -/

/-- What one request does: the connection after it, the PDU sent, the bytes of
`rsp_list` written against the `max_list_len` allocated, and the entries built
into the partial buffer. -/
structure AttrReqOutcome where
  ccb : ConnCb
  pdu : List UInt8
  rspAllocated : ℕ
  rspWritten : ℕ
  partialBuilds : List ℕ
  deriving DecidableEq, Repr

/-- The response PDU and the connection after it, from the attribute bytes
`rsp` of this request (behind three reserved bytes on a first request). -/
def attrResponse (r : SdpRecord) (ccb : ConnCb) (transNum : ℕ) (isCont : Bool)
    (attrSeqSav : List (ℕ × ℕ)) (rsp : List UInt8) : Option (ConnCb × List UInt8) :=
  let lenToSend := rsp.length % 2 ^ 16
  -- on a first request the sequence header goes in front, in 3 or 2 bytes
  let framed : Option (ConnCb × List UInt8 × ℕ × ℕ) :=
    if isCont then some (ccb, rsp, 0, lenToSend)
    else
      (sdpuGetAttribSeqLen r attrSeqSav).map fun seqLen =>
        let listLen := (seqLen + 3) % 2 ^ 16
        if listLen > 255 then
          ({ ccb with listLen },
            [descriptor dataEleSeqDescType sizeInNextWord] ++ uint16ToBeStream (listLen - 3) ++
              rsp.drop 3, 0, lenToSend)
        else
          ({ ccb with listLen := listLen - 1 },
            [0, descriptor dataEleSeqDescType sizeInNextByte, UInt8.ofNat (listLen - 3)] ++
              rsp.drop 3, 1, lenToSend - 1)
  framed.map fun (ccb, rspList, contOffset, lenToSend) =>
    let ccb := { ccb with contOffset := (ccb.contOffset + lenToSend) % 2 ^ 16 }
    let continuation :=
      if ccb.contOffset < ccb.listLen then
        UInt8.ofNat sdpContinuationLen :: uint16ToBeStream ccb.contOffset
      else [0]
    let params := uint16ToBeStream lenToSend ++ (rspList.drop contOffset).take lenToSend ++
      continuation
    (ccb, [sdpPduServiceAttrRsp] ++ uint16ToBeStream transNum ++
      uint16ToBeStream params.length ++ params)

/-- `process_service_attr_req(p_ccb, trans_num, param_len, p_req, p_req_end)` on
the request parameters `req` (`param_len` is their length).  `none` when a loop
runs out of fuel. -/
def processServiceAttrReq (db : SdpDb) (ccb : ConnCb) (transNum : ℕ) (req : List UInt8) :
    Option AttrReqOutcome :=
  let error (ccb : ConnCb) (allocated : ℕ) (status : SdpStatus) : Option AttrReqOutcome :=
    some ⟨ccb, sdpuBuildNSendError transNum status, allocated, 0, []⟩
  if 6 > req.length then error ccb 0 .invalidServRecHdl
  else
    let recHandle := beUint32 req 0
    let maxListLen := beUint16 req 4
    let paramLen := req.length - 6
    -- capped at the MTU less the response header, in `int`
    let cap : ℤ := (ccb.remMtuSize : ℤ) - sdpMaxAttrRsphdrLen
    let maxListLen := if (maxListLen : ℤ) > cap then (cap % 2 ^ 16).toNat else maxListLen
    match sdpuExtractAttrSeq req 6 paramLen with
    | none => error ccb 0 .invalidReqSyntax
    | some (attrSeq, p) =>
        if attrSeq = [] ∨ p + 1 > req.length then error ccb 0 .invalidReqSyntax
        else
          match sdpDbFindRecord db recHandle with
          | none => error ccb 0 .invalidServRecHdl
          | some r =>
              if maxListLen < 4 then error ccb 0 .illegalParameter
              -- `rsp_list` is reallocated with `max_list_len` bytes from here on
              else if req.getD p 0 ≠ 0 then
                if req.getD p 0 ≠ UInt8.ofNat sdpContinuationLen ∨ p + 3 > req.length then
                  error ccb maxListLen .invalidContState
                else if beUint16 req (p + 1) ≠ ccb.contOffset then
                  error ccb maxListLen .invalidContState
                else
                  let start := ccb.contInfo.nextAttrIndex
                  let attrSeq := attrSeq.set start (ccb.contInfo.nextAttrStartId,
                    (attrSeq.getD start (0, 0)).2)
                  run r maxListLen ccb true attrSeq []
              else
                let ccb := { ccb with contOffset := 0, contInfo := { ccb.contInfo with
                  prevSdpRec := none, nextAttrIndex := 0, attrOffset := 0 } }
                run r maxListLen ccb false attrSeq [0, 0, 0]
where
  /-- The attribute loop and the response, from the bytes `rsp` reserved. -/
  run (r : SdpRecord) (maxListLen : ℕ) (ccb : ConnCb) (isCont : Bool)
      (attrSeq : List (ℕ × ℕ)) (rsp : List UInt8) : Option AttrReqOutcome :=
    let start : AttrLoopState := ⟨attrSeq, rsp, ccb.contInfo, []⟩
    (attrLoop r maxListLen (entryVisits r attrSeq) ccb.contInfo.nextAttrIndex start).bind
      fun
      | .error status =>
          some ⟨ccb, sdpuBuildNSendError transNum status, maxListLen, 0, []⟩
      | .stopped xx s =>
          let contInfo := if xx = attrSeq.length then { s.contInfo with nextAttrIndex := 0 }
            else s.contInfo
          (attrResponse r { ccb with contInfo } transNum isCont attrSeq s.rsp).map
            fun (ccb, pdu) => ⟨ccb, pdu, maxListLen, s.rsp.length, s.partialBuilds⟩

/-! ## A range through `0xFFFF`

A range entry is visited again from `p_attr->id + 1`, a `uint16_t`: past the id
`0xFFFF` it starts over from `0`.  A record holding its handle (id `0`) and an
attribute with id `0xFFFF`, asked for `0x0000`-`0xFFFF`, is walked `0`,
`0xFFFF`, `0`, `0xFFFF`, ... and `sdpu_get_attrib_seq_len` never returns. -/

theorem run_builds_recordWithId_lastId :
    Theory.run sdpStep SdpDb.empty
        [.createRecord, .addAttribute 0x10000 0xFFFF uintDescType 1 (some [7])] =
      some ⟨0, [recordWithId 0xFFFF]⟩ := by
  decide +kernel

/-- From a start of `0` or `1`, the range finds an attribute whose next id
wraps back to `0` or `1`. -/
theorem findAttrInRec_recordWithId_lastId {start : ℕ} (low : start ≤ 1) :
    ∃ a, sdpDbFindAttrInRec (recordWithId 0xFFFF) start 0xFFFF = some a ∧ (a.id + 1) % 2 ^ 16 ≤ 1 := by
  -- the handle at id `0`, then the attribute at `0xFFFF`, whose next id is `0`
  rcases Nat.le_one_iff_eq_zero_or_eq_one.mp low with rfl | rfl
  · exact ⟨_, rfl, by decide⟩
  · exact ⟨_, rfl, by decide⟩

/-- While the range `start`-`0xFFFF` is walked from a start of `0` or `1`, no
fuel is enough. -/
theorem attribSeqLenLoop_restarts :
    ∀ (fuel start len1 : ℕ), start ≤ 1 →
      attribSeqLenLoop (recordWithId 0xFFFF) [(0, 0xFFFF)] fuel 0 true start 0xFFFF len1 = none
  | 0, _, _, _ => rfl
  | fuel + 1, start, len1, low => by
    obtain ⟨a, found, wraps⟩ := findAttrInRec_recordWithId_lastId low
    have ranged : start ≠ 0xFFFF := by omega
    rw [attribSeqLenLoop, if_pos (by decide)]
    simp only [if_true, found, ne_eq, ranged, not_false_eq_true, if_true]
    exact attribSeqLenLoop_restarts fuel _ _ wraps

theorem get_attrib_seq_len_never_ends :
    Theory.run sdpStep SdpDb.empty
        [.createRecord, .addAttribute 0x10000 0xFFFF uintDescType 1 (some [7])] =
      some ⟨0, [recordWithId 0xFFFF]⟩ ∧
    ∀ fuel, attribSeqLenLoop (recordWithId 0xFFFF) [(0, 0xFFFF)] fuel 0 false 0 0 0 = none := by
  refine ⟨run_builds_recordWithId_lastId, ?_⟩
  rintro (_ | fuel)
  · rfl
  · -- the first pass takes the entry's range and finds the handle, at id `0`
    obtain ⟨a, found, wraps⟩ := findAttrInRec_recordWithId_lastId (show 0 ≤ 1 by decide)
    rw [attribSeqLenLoop, if_pos (by decide)]
    simp only [Bool.false_eq_true, if_false, List.getD_cons_zero, found]
    exact attribSeqLenLoop_restarts fuel _ _ wraps

end Bluedroid.Sdp
