import Bluedroid.Gatt.ReadMulti
import Bluedroid.Theory.Loop
import Mathlib.Data.Int.Notation
import Mathlib.Logic.Function.Iterate

/-!
# Gatt.Client -- the client's answers to a server, `gatt_cl.cc`

A client operation (`tGATT_CLCB`) is a discovery, a read or a write.  It sends
one request at a time; `gatt_client_handle_server_rsp` takes the request off the
command queue, checks the response's opcode against it and the PDU's length
against the MTU (`payload_size`), and hands the PDU to the handler of its
opcode.  A handler either sends the next request of the procedure or ends the
operation with `gatt_end_operation`, which passes the value read up in
`cb_data.att_value`.

The model keeps the fields of the control block that the handlers read and
write, and as ghosts the requests sent, the handles reported to
`p_disc_res_cb`, the values passed up and every `memcpy` into a fixed buffer
(`Copy`: which buffer, at which offset, how many bytes, from where).  Lengths
are `uint16_t`; the handle arithmetic that can wrap (`handle + 1`) is taken
modulo `2 ^ 16`, and the `uint8_t` `value_len` of a Read By Type response is a
`UInt8`.  Sending is assumed to succeed, and every application callback to be
registered.

What the server answers is never checked against what was asked.  The start
handle of the next discovery request is the last handle of the response plus
one, so a server that answers every Find By Type Value with the range `[1, 2]`
keeps the client asking from handle 3 for ever (`disc_srvc_by_uuid_repeats`).
And a read that is not by handle passes the whole response up: `counter = len`,
and `gatt_end_operation` copies `counter` bytes into the `GATT_MAX_ATTR_LEN`
bytes of `att_value.value`, although `len` may be up to `payload_size - 1`
(`read_rsp_overruns_att_value`).
-/

namespace Bluedroid.Gatt

set_option autoImplicit false

/-! ## Opcodes, subtypes and statuses -/

def gattRspError : UInt8 := 0x01
def gattReqFindInfo : UInt8 := 0x04
def gattRspFindInfo : UInt8 := 0x05
def gattReqFindTypeValue : UInt8 := 0x06
def gattRspFindTypeValue : UInt8 := 0x07
def gattReqReadByType : UInt8 := 0x08
def gattRspReadByType : UInt8 := 0x09
def gattReqRead : UInt8 := 0x0A
def gattRspRead : UInt8 := 0x0B
def gattReqReadBlob : UInt8 := 0x0C
def gattRspReadBlob : UInt8 := 0x0D
def gattReqReadMulti : UInt8 := 0x0E
def gattReqReadByGrpType : UInt8 := 0x10
def gattRspReadByGrpType : UInt8 := 0x11
def gattRspWrite : UInt8 := 0x13
def gattReqPrepareWrite : UInt8 := 0x16
def gattRspPrepareWrite : UInt8 := 0x17
def gattReqExecWrite : UInt8 := 0x18
def gattRspExecWrite : UInt8 := 0x19
def gattHandleValueNotif : UInt8 := 0x1B
def gattHandleValueInd : UInt8 := 0x1D
def gattReqReadMultiVar : UInt8 := 0x20
def gattHandleMultiValueNotif : UInt8 := 0x23
def gattCmdWrite : UInt8 := 0x52

def gattDiscSrvcAll : UInt8 := 1
def gattDiscSrvcByUuid : UInt8 := 2
def gattDiscIncSrvc : UInt8 := 3
def gattDiscChar : UInt8 := 4
def gattDiscCharDscpt : UInt8 := 5
def gattDiscMax : UInt8 := 6

def gattReadByType : UInt8 := 1
def gattReadByHandle : UInt8 := 2
def gattReadMultiple : UInt8 := 3
def gattReadMultipleVarLen : UInt8 := 4
def gattReadCharValue : UInt8 := 5
def gattReadPartial : UInt8 := 6
def gattReadCharValueHdl : UInt8 := gattReadCharValue ||| 0x80
def gattReadIncSrvUuid128 : UInt8 := gattDiscIncSrvc ||| 0x90

def gattWrite : UInt8 := 2
def gattWritePrepare : UInt8 := 3

def gattPrepWriteCancel : UInt8 := 0x00
def gattPrepWriteExec : UInt8 := 0x01

/-! The `tGATT_STATUS` codes the handlers end an operation with; an error
response's reason is passed on as it is. -/

def gattSuccess : UInt8 := 0x00
def gattInvalidHandle : UInt8 := 0x01
def gattInvalidPdu : UInt8 := 0x04
def gattNotFound : UInt8 := 0x0a
def gattNotLong : UInt8 := 0x0b
def gattTooShort : UInt8 := 0x7f
def gattNoResources : UInt8 := 0x80
def gattInternalError : UInt8 := 0x81
def gattError : UInt8 := 0x85

def gattUuidPriService : ℕ := 0x2800
def gattUuidIncludeService : ℕ := 0x2802
def gattUuidCharDeclare : ℕ := 0x2803

def gattInfoTypePair16 : UInt8 := 0x01
def gattInfoTypePair128 : UInt8 := 0x02

def gattWriteLongHdrSize : ℕ := 5
def gattReadByTypeRspMinLen : ℕ := 1
def gattInfoRspMinLen : ℕ := 1
def gattPrepWriteRspMinLen : ℕ := 4
def gattNotificationMinLen : ℕ := 2

/-! ## UUIDs -/

/-- A UUID as its 128-bit value; `Uuid::kEmpty` is `0`. -/
abbrev Uuid := ℕ

/-- The Bluetooth base UUID `00000000-0000-1000-8000-00805F9B34FB`. -/
def baseUuid : Uuid := 0x0000000000001000800000805F9B34FB

/-- `Uuid::From16Bit`. -/
def Uuid.from16Bit (v : ℕ) : Uuid := baseUuid + v % 2 ^ 16 * 2 ^ 96

/-- `Uuid::From128BitLE`: sixteen bytes, least significant first. -/
def Uuid.from128BitLE (bytes : List UInt8) : Uuid :=
  bytes.foldr (fun b acc => b.toNat + 2 ^ 8 * acc) 0

/-- `STREAM_TO_UINT16` at offset `p` of a PDU. -/
def streamToUint16 (pdu : List UInt8) (p : ℕ) : ℕ :=
  (pdu.getD p 0).toNat + 2 ^ 8 * (pdu.getD (p + 1) 0).toNat

/-- `gatt_parse_uuid_from_cmd (p_uuid_rec, uuid_size, &p)`: a 16-bit or a
128-bit UUID at `p`, and the offset after it; size `0` leaves the UUID as it
was, and any other size fails. -/
def gattParseUuidFromCmd (uuid : Uuid) (uuidSize : ℕ) (pdu : List UInt8) (p : ℕ) :
    Option (Uuid × ℕ) :=
  if uuidSize = 2 then some (Uuid.from16Bit (streamToUint16 pdu p), p + 2)
  else if uuidSize = 16 then some (Uuid.from128BitLE ((pdu.drop p).take 16), p + 16)
  else if uuidSize = 0 then some (uuid, p)
  else none

/-! ## The client's state -/

/-- `GATTC_OPTYPE_*` of an operation in progress. -/
inductive ClOperation
  | discovery
  | read
  | write
  deriving DecidableEq, Repr

/-- The `tGATT_VALUE` of a write, held in `p_attr_buf`. -/
structure WriteValue where
  handle : ℕ
  offset : ℕ
  len : ℕ
  value : List UInt8
  deriving DecidableEq, Repr

/-- The fields of `tGATT_CLCB` the response handlers read and write. -/
structure Clcb where
  operation : ClOperation
  opSubtype : UInt8
  sHandle : ℕ
  eHandle : ℕ
  uuid : Uuid
  counter : ℕ
  firstReadBlobAfterRead : Bool
  readReqCurrentMtu : ℕ
  /-- `p_attr_buf` of a write. -/
  writeValue : Option WriteValue
  startOffset : ℕ
  status : UInt8
  /-- `read_uuid128`: an included service whose 128-bit UUID is being read. -/
  waitForReadRsp : Bool
  nextDiscStartHdl : ℕ
  inclHandle : ℕ
  deriving DecidableEq, Repr

/-- A request `attp_send_cl_msg` sends, as the `tGATT_CL_MSG` it is built from. -/
inductive AttReq
  /-- `browse` (or `find_type_value`): a handle range and the type, or the
  searched service UUID. -/
  | browse (opcode : UInt8) (sHandle eHandle : ℕ) (uuid : Uuid)
  | read (handle : ℕ)
  | readBlob (handle offset : ℕ)
  | readMulti (opcode : UInt8)
  | prepareWrite (handle offset len : ℕ)
  | execWrite (flag : UInt8)
  deriving DecidableEq, Repr

/-- The opcode a request goes out with. -/
def AttReq.opcode : AttReq → UInt8
  | .browse opcode .. => opcode
  | .read _ => gattReqRead
  | .readBlob .. => gattReqReadBlob
  | .readMulti opcode => opcode
  | .prepareWrite .. => gattReqPrepareWrite
  | .execWrite _ => gattReqExecWrite

/-- A fixed buffer a handler copies into; each holds `GATT_MAX_ATTR_LEN` bytes. -/
inductive Buffer
  /-- `cb_data.att_value.value` in `gatt_end_operation`. -/
  | cbValue
  /-- `p_clcb->p_attr_buf` of a read. -/
  | attrBuf
  /-- The `value` of the `tGATT_VALUE` on a handler's stack. -/
  | stackValue
  deriving DecidableEq, Repr

/-- Where a copy takes its bytes from. -/
inductive Source
  /-- The received PDU, from this offset of `p_data`. -/
  | pdu (offset : ℕ)
  /-- `p_clcb->p_attr_buf`. -/
  | attrBuf
  deriving DecidableEq, Repr

/-- A `memcpy` into a fixed buffer. -/
structure Copy where
  buffer : Buffer
  offset : ℕ
  len : ℕ
  source : Source
  deriving DecidableEq, Repr

/-- A `tGATT_VALUE` passed to an application: its `len`, and how many bytes of
it were copied in. -/
structure Delivery where
  len : ℕ
  copied : ℕ
  deriving DecidableEq, Repr

/-- One client operation and, as ghosts, what it has sent, reported and copied. -/
structure Client where
  clcb : Clcb
  /-- The opcode of the request waiting in the command queue. -/
  pending : Option UInt8
  /-- The requests sent, oldest first. -/
  sent : List AttReq
  /-- The handles passed to `p_disc_res_cb`, in order. -/
  discovered : List ℕ
  /-- `gatt_end_operation` has run with this status: the operation is over. -/
  ended : Option UInt8
  delivered : List Delivery
  copies : List Copy
  deriving DecidableEq, Repr

namespace Client

/-- `attp_send_cl_msg`: the request is queued and sent. -/
def send (c : Client) (req : AttReq) : Client :=
  { c with sent := c.sent ++ [req], pending := some req.opcode }

def copy (c : Client) (cp : Copy) : Client := { c with copies := c.copies ++ [cp] }

def deliver (c : Client) (d : Delivery) : Client := { c with delivered := c.delivered ++ [d] }

def report (c : Client) (handles : List ℕ) : Client :=
  { c with discovered := c.discovered ++ handles }

def setClcb (c : Client) (clcb : Clcb) : Client := { c with clcb }

@[simp] theorem send_sent (c : Client) (req : AttReq) : (c.send req).sent = c.sent ++ [req] := rfl
@[simp] theorem send_clcb (c : Client) (req : AttReq) : (c.send req).clcb = c.clcb := rfl
@[simp] theorem send_ended (c : Client) (req : AttReq) : (c.send req).ended = c.ended := rfl
@[simp] theorem send_copies (c : Client) (req : AttReq) : (c.send req).copies = c.copies := rfl
@[simp] theorem setClcb_clcb (c : Client) (clcb : Clcb) : (c.setClcb clcb).clcb = clcb := rfl
@[simp] theorem setClcb_copies (c : Client) (clcb : Clcb) : (c.setClcb clcb).copies = c.copies := rfl
@[simp] theorem report_clcb (c : Client) (handles : List ℕ) : (c.report handles).clcb = c.clcb := rfl

end Client

/-! ## Ending an operation and sending the next request -/

/-- The `p_data` of `gatt_end_operation`: nothing, bytes to copy, or (for a
prepared write) the `tGATT_VALUE` of the response with its `len`. -/
inductive EndData
  | null
  | bytes (source : Source)
  | value (len : ℕ)

/-- `gatt_end_operation (p_clcb, status, p_data)`.  A read passes up
`att_value.len = counter` and copies `counter` bytes from `p_data` into
`att_value.value`; a prepared write passes up the response's value.  The control
block is freed, and with it the request it had queued. -/
def gattEndOperation (c : Client) (status : UInt8) (pData : EndData) : Client :=
  let done := { c with ended := some status, pending := none }
  let counter := c.clcb.counter
  match c.clcb.operation, pData with
  | .read, .bytes source =>
      if counter = 0 then done.deliver ⟨0, 0⟩
      else (done.copy ⟨.cbValue, 0, counter, source⟩).deliver ⟨counter, counter⟩
  | .read, _ => done.deliver ⟨counter, 0⟩
  | .write, .value len =>
      if c.clcb.opSubtype = gattWritePrepare then done.deliver ⟨len, len⟩ else done.deliver ⟨0, 0⟩
  | .write, _ => done.deliver ⟨0, 0⟩
  | .discovery, _ => done

/-- `disc_type_to_att_opcode`. -/
def discTypeToAttOpcode (discType : UInt8) : UInt8 :=
  [0, gattReqReadByGrpType, gattReqFindTypeValue, gattReqReadByType, gattReqReadByType,
    gattReqFindInfo].getD discType.toNat 0

/-- `disc_type_to_uuid`. -/
def discTypeToUuid (discType : UInt8) : ℕ :=
  [0, gattUuidPriService, gattUuidPriService, gattUuidIncludeService, gattUuidCharDeclare,
    0].getD discType.toNat 0

/-- `gatt_act_discovery`: the next request for `[s_handle, e_handle]`, or the
end of the discovery once the range is empty. -/
def gattActDiscovery (c : Client) : Client :=
  let clcb := c.clcb
  if clcb.sHandle > clcb.eHandle ∨ clcb.sHandle = 0 then gattEndOperation c gattSuccess .null
  else
    -- a Find By Type Value carries the searched service UUID, the others the type
    let uuid :=
      if clcb.opSubtype = gattDiscSrvcByUuid then clcb.uuid
      else if discTypeToUuid clcb.opSubtype ≠ 0 then Uuid.from16Bit (discTypeToUuid clcb.opSubtype)
      else 0
    c.send (.browse (discTypeToAttOpcode clcb.opSubtype) clcb.sHandle clcb.eHandle uuid)

/-- While the range is not empty, a discovery asks for it. -/
theorem gattActDiscovery_of_le (c : Client) (started : c.clcb.sHandle ≠ 0)
    (inRange : c.clcb.sHandle ≤ c.clcb.eHandle) :
    gattActDiscovery c = c.send (.browse (discTypeToAttOpcode c.clcb.opSubtype) c.clcb.sHandle
      c.clcb.eHandle (if c.clcb.opSubtype = gattDiscSrvcByUuid then c.clcb.uuid
        else if discTypeToUuid c.clcb.opSubtype ≠ 0 then
          Uuid.from16Bit (discTypeToUuid c.clcb.opSubtype)
        else 0)) := by
  have going : ¬(c.clcb.sHandle > c.clcb.eHandle ∨ c.clcb.sHandle = 0) := by omega
  simp only [gattActDiscovery, going, if_false]

/-- `gatt_act_read (p_clcb, offset)`. -/
def gattActRead (c : Client) (offset : ℕ) : Client :=
  let clcb := c.clcb
  let sub := clcb.opSubtype
  if sub = gattReadCharValue ∨ sub = gattReadByType then
    let uuid := if sub = gattReadByType then clcb.uuid else Uuid.from16Bit gattUuidCharDeclare
    c.send (.browse gattReqReadByType clcb.sHandle clcb.eHandle uuid)
  else if sub = gattReadCharValueHdl ∨ sub = gattReadByHandle then
    let clcb := { clcb with opSubtype := sub &&& ~~~0x80 }
    if clcb.counter = 0 then (c.setClcb clcb).send (.read clcb.sHandle)
    else
      let clcb := { clcb with firstReadBlobAfterRead := !clcb.firstReadBlobAfterRead }
      (c.setClcb clcb).send (.readBlob clcb.sHandle offset)
  else if sub = gattReadPartial then c.send (.readBlob clcb.sHandle offset)
  else if sub = gattReadMultiple then c.send (.readMulti gattReqReadMulti)
  else if sub = gattReadMultipleVarLen then c.send (.readMulti gattReqReadMultiVar)
  else if sub = gattReadIncSrvUuid128 then
    (c.setClcb { clcb with opSubtype := sub &&& ~~~0x90 }).send (.read clcb.sHandle)
  else gattEndOperation c gattInternalError .null

/-- `gatt_send_queue_write_cancel`: an Execute Write with `flag`. -/
def gattSendQueueWriteCancel (c : Client) (flag : UInt8) : Client :=
  c.send (.execWrite flag)

/-- `gatt_send_prepare_write`: the next piece of the value, at most
`payload_size - GATT_WRITE_LONG_HDR_SIZE` bytes from `offset`. -/
def gattSendPrepareWrite (payloadSize : ℕ) (c : Client) : Client :=
  match c.clcb.writeValue with
  | none => c
  | some attr =>
      -- `uint16_t to_send = p_attr->len - p_attr->offset`
      let toSend : ℕ := (((attr.len : ℤ) - attr.offset) % 2 ^ 16).toNat
      let toSend : ℕ := if (toSend : ℤ) > payloadSize - gattWriteLongHdrSize then
        payloadSize - gattWriteLongHdrSize else toSend
      let offset :=
        if c.clcb.opSubtype = gattWritePrepare then (attr.offset + c.clcb.startOffset) % 2 ^ 16
        else attr.offset
      let c := c.send (.prepareWrite attr.handle offset toSend)
      c.setClcb { c.clcb with sHandle := attr.handle, counter := toSend }

/-! ## The handlers -/

/-- The loop of `gatt_process_find_type_value_rsp`: `(handle, e_handle)` pairs,
four bytes each, while four bytes are left. -/
def findTypeValueRanges : List UInt8 → List (ℕ × ℕ)
  | h₀ :: h₁ :: e₀ :: e₁ :: rest =>
      (h₀.toNat + 2 ^ 8 * h₁.toNat, e₀.toNat + 2 ^ 8 * e₁.toNat) :: findTypeValueRanges rest
  | _ => []

/-- `gatt_process_find_type_value_rsp`: report every range and go on from the
last `e_handle + 1`. -/
def gattProcessFindTypeValueRsp (c : Client) (pdu : List UInt8) : Client :=
  if c.clcb.operation ≠ .discovery ∨ c.clcb.opSubtype ≠ gattDiscSrvcByUuid then c
  else
    let ranges := findTypeValueRanges pdu
    -- `result` is cleared before the loop: no range leaves `e_handle = 0`
    let eHandle := (ranges.getLast?.map Prod.snd).getD 0
    let c := c.report (ranges.map Prod.fst)
    gattActDiscovery (c.setClcb { c.clcb with
      sHandle := if eHandle = 0 then 0 else (eHandle + 1) % 2 ^ 16 })

/-- The loop of `gatt_process_read_info_rsp` over `(handle, UUID)` pairs of
`uuidLen + 2` bytes: the handles, and the last one (`last` when there is none).
The fuel is the number of bytes left; every pass takes at least two. -/
def readInfoHandles (uuidLen : ℕ) : ℕ → List UInt8 → ℕ → List ℕ × ℕ
  | 0, _, last => ([], last)
  | fuel + 1, bytes, last =>
      if uuidLen + 2 ≤ bytes.length then
        let handle := streamToUint16 bytes 0
        let rest := readInfoHandles uuidLen fuel (bytes.drop (uuidLen + 2)) handle
        (handle :: rest.1, rest.2)
      else ([], last)

/-- `gatt_process_read_info_rsp`.  `result` is not cleared here: when no pair
is read, the next start handle comes from `stale`, what `result.handle` held. -/
def gattProcessReadInfoRsp (c : Client) (pdu : List UInt8) (stale : ℕ) : Client :=
  if pdu.length < gattInfoRspMinLen then gattEndOperation c gattInvalidPdu .null
  else if c.clcb.operation ≠ .discovery ∨ c.clcb.opSubtype ≠ gattDiscCharDscpt then c
  else
    let type := pdu.getD 0 0
    let uuidLen := if type = gattInfoTypePair16 then 2 else if type = gattInfoTypePair128 then 16 else 0
    let bytes := pdu.drop 1
    let (handles, handle) := readInfoHandles uuidLen bytes.length bytes stale
    let c := c.report handles
    gattActDiscovery (c.setClcb { c.clcb with
      sHandle := if handle = 0 then 0 else (handle + 1) % 2 ^ 16 })

/-- The state of the loop of `gatt_process_read_by_type_rsp`: the read offset
`p` into the PDU, the bytes `len` left, and `handle`, the last handle read. -/
structure ByTypeLoop where
  client : Client
  p : ℕ
  len : ℕ
  handle : ℕ

/-- How the loop of `gatt_process_read_by_type_rsp` is left: a `return` from
inside, or the end of the loop (or a `break`) with the last handle. -/
inductive ByTypeExit
  | returned (client : Client)
  | finished (client : Client) (handle : ℕ)

/-- One pass of the loop of `gatt_process_read_by_type_rsp`, with the PDU's
`value_len` already reduced by `handle_len`. -/
def readByTypeStep (payloadSize : ℕ) (opCode : UInt8) (handleLen valueLen : ℕ)
    (pdu : List UInt8) (s : ByTypeLoop) : ByTypeLoop ⊕ ByTypeExit :=
  let c := s.client
  let clcb := c.clcb
  -- the end of a pass that reports `reported` and goes on
  let next (c : Client) (p : ℕ) (reported handle : ℕ) : ByTypeLoop ⊕ ByTypeExit :=
    .inl ⟨if clcb.operation = .discovery then c.report [reported] else c, p,
      s.len - (valueLen + handleLen), handle⟩
  if s.len < handleLen + valueLen then .inr (.finished c s.handle)
  else
    let handle := streamToUint16 pdu s.p
    let p := s.p + 2
    if handle = 0 then .inr (.returned (gattEndOperation c gattInvalidHandle .null))
    else if clcb.operation = .discovery ∧ clcb.opSubtype = gattDiscSrvcAll ∧
        opCode = gattRspReadByGrpType then
      -- the group's end handle is read into `handle` itself
      let eHandle := streamToUint16 pdu p
      if eHandle = 0 then .inr (.returned (gattEndOperation c gattInvalidHandle .null))
      else
        match gattParseUuidFromCmd 0 valueLen pdu (p + 2) with
        | none => .inr (.finished c eHandle)
        | some (_, p) => next c p handle eHandle
    else if clcb.operation = .discovery ∧ clcb.opSubtype = gattDiscIncSrvc then
      if valueLen < 4 then .inr (.returned (gattEndOperation c gattInvalidPdu .null))
      else
        let inclS := streamToUint16 pdu p
        let inclE := streamToUint16 pdu (p + 2)
        if inclS = 0 ∨ inclE = 0 then .inr (.returned (gattEndOperation c gattInvalidHandle .null))
        else if valueLen = 6 then next c (p + 6) handle handle
        else if valueLen = 4 then
          -- the UUID is 128 bits: read it from the included service first
          .inr (.returned (gattActRead (c.setClcb { clcb with
            sHandle := inclS, waitForReadRsp := true, nextDiscStartHdl := (handle + 1) % 2 ^ 16,
            inclHandle := handle, opSubtype := clcb.opSubtype ||| 0x90 }) 0))
        else .inr (.returned (gattEndOperation c gattInvalidPdu (.bytes (.pdu (p + 4)))))
    else if clcb.operation = .read ∧ clcb.opSubtype = gattReadByType then
      let counter := s.len - 2
      let c := c.setClcb { clcb with counter, sHandle := handle }
      if (counter : ℤ) = payloadSize - 4 then
        let c := c.setClcb { c.clcb with opSubtype := gattReadByHandle }
        if counter ≤ gattMaxAttrLen then
          .inr (.returned (gattActRead (c.copy ⟨.attrBuf, 0, counter, .pdu p⟩) counter))
        else .inr (.returned (gattEndOperation c gattInternalError (.bytes (.pdu p))))
      else .inr (.returned (gattEndOperation c gattSuccess (.bytes (.pdu p))))
    else
      -- a characteristic declaration, in a discovery or a read by UUID
      if valueLen < 3 then .inr (.returned (gattEndOperation c gattInvalidPdu .null))
      else
        let valHandle := streamToUint16 pdu (p + 1)
        if valHandle = 0 then .inr (.returned (gattEndOperation c gattInvalidHandle .null))
        else
          match gattParseUuidFromCmd 0 (valueLen - 3) pdu (p + 3) with
          | none => .inr (.returned (gattEndOperation c gattSuccess .null))
          | some (charUuid, p) =>
              if clcb.uuid ≠ 0 ∧ charUuid ≠ 0 ∧ charUuid ≠ clcb.uuid then
                -- skipped: `len -= value_len + 2`, nothing reported
                .inl ⟨c, p, s.len - (valueLen + 2), handle⟩
              else if clcb.operation = .read then
                .inr (.returned (gattActRead (c.setClcb { clcb with
                  sHandle := valHandle, opSubtype := clcb.opSubtype ||| 0x80 }) 0))
              else next c p handle handle

/-- `gatt_process_read_by_type_rsp` for a Read By Type or Read By Group Type
response.  Every pass of the loop takes at least two bytes, so `len + 1` passes
are enough. -/
def gattProcessReadByTypeRsp (payloadSize : ℕ) (c : Client) (opCode : UInt8)
    (pdu : List UInt8) : Client :=
  if pdu.length < gattReadByTypeRspMinLen then gattEndOperation c gattInvalidPdu .null
  else
    let valueLen := pdu.getD 0 0
    if (valueLen.toNat : ℤ) > payloadSize - 2 ∨ (valueLen.toNat : ℤ) > pdu.length - 1 then
      gattEndOperation c gattError .null
    else
      let handleLen : UInt8 := if opCode = gattRspReadByGrpType then 4 else 2
      -- `value_len -= handle_len` in `uint8_t`
      let valueLen := (valueLen - handleLen).toNat
      match Theory.loop (readByTypeStep payloadSize opCode handleLen.toNat valueLen pdu)
          pdu.length ⟨c, 1, pdu.length - 1, 0⟩ with
      | some (.returned c) => c
      | some (.finished c handle) =>
          let c := c.setClcb { c.clcb with
            sHandle := if handle = 0 then 0 else (handle + 1) % 2 ^ 16 }
          if c.clcb.operation = .discovery then gattActDiscovery c else gattActRead c 0
      | none => c

/-- `gatt_process_read_rsp` for a Read, Read Blob or Read Multiple response. -/
def gattProcessReadRsp (payloadSize : ℕ) (c : Client) (pdu : List UInt8) : Client :=
  let clcb := c.clcb
  let offset := clcb.counter
  if clcb.operation = .read then
    if clcb.opSubtype ≠ gattReadByHandle then
      gattEndOperation (c.setClcb { clcb with counter := pdu.length }) gattSuccess (.bytes (.pdu 0))
    else if offset < gattMaxAttrLen then
      let len := if pdu.length + offset > gattMaxAttrLen then gattMaxAttrLen - offset else pdu.length
      let packetIsFull :=
        if payloadSize = clcb.readReqCurrentMtu then (len : ℤ) = payloadSize - 1
        else (len : ℤ) = clcb.readReqCurrentMtu - 1 ∨ (len : ℤ) = payloadSize - 1
      let c := (c.copy ⟨.attrBuf, offset, len, .pdu 0⟩).setClcb
        { clcb with counter := clcb.counter + len, readReqCurrentMtu := payloadSize }
      if packetIsFull ∧ len + offset < gattMaxAttrLen then gattActRead c c.clcb.counter
      else gattEndOperation c gattSuccess (.bytes .attrBuf)
    else gattEndOperation c gattNoResources (.bytes .attrBuf)
  else if clcb.operation = .discovery ∧ clcb.opSubtype = gattDiscIncSrvc ∧ clcb.waitForReadRsp then
    let c := c.setClcb { clcb with sHandle := clcb.nextDiscStartHdl, waitForReadRsp := false }
    if pdu.length = 16 then gattActDiscovery (c.report [clcb.inclHandle])
    else gattEndOperation c gattInvalidPdu (.bytes (.pdu 0))
  else c

/-- `gatt_proc_disc_error_rsp`: Not Found to a discovery request ends the
discovery successfully. -/
def gattProcDiscErrorRsp (c : Client) (opcode reason : UInt8) : Client :=
  let found := opcode = gattReqReadByGrpType ∨ opcode = gattReqFindTypeValue ∨
    opcode = gattReqReadByType ∨ opcode = gattReqFindInfo
  gattEndOperation c (if found ∧ reason = gattNotFound then gattSuccess else reason) .null

/-- `gatt_process_error_rsp`. -/
def gattProcessErrorRsp (c : Client) (pdu : List UInt8) : Client :=
  let (opcode, handle, reason) :=
    if pdu.length < 4 then ((0 : UInt8), 0, gattTooShort)
    else (pdu.getD 0 0, streamToUint16 pdu 1, pdu.getD 3 0)
  let clcb := c.clcb
  if clcb.operation = .discovery then gattProcDiscErrorRsp c opcode reason
  else if clcb.operation = .write ∧ clcb.opSubtype = gattWrite ∧ opcode = gattReqPrepareWrite ∧
      clcb.writeValue.any (·.handle = handle) then
    gattSendQueueWriteCancel (c.setClcb { clcb with status := reason }) gattPrepWriteCancel
  else if clcb.operation = .read ∧
      (clcb.opSubtype = gattReadCharValueHdl ∨ clcb.opSubtype = gattReadByHandle) ∧
      opcode = gattReqReadBlob ∧ clcb.firstReadBlobAfterRead ∧ reason = gattNotLong then
    gattEndOperation c gattSuccess (.bytes .attrBuf)
  else gattEndOperation c reason .null

/-- `gatt_check_write_long_terminate`: compare the echoed piece with what was
sent, and cancel or execute the queue once the write is over. -/
def gattCheckWriteLongTerminate (c : Client) (rsp : WriteValue) : Client × Bool :=
  match c.clcb.writeValue with
  | none => (c, false)
  | some attr =>
      let echoed := rsp.handle = attr.handle ∧ rsp.len = c.clcb.counter ∧
        rsp.value.take rsp.len = (attr.value.drop attr.offset).take rsp.len
      let (c, terminate, flag) :=
        if echoed then
          let attr := { attr with offset := (attr.offset + rsp.len) % 2 ^ 16 }
          (c.setClcb { c.clcb with status := gattSuccess, writeValue := some attr },
            decide (attr.offset ≥ attr.len), gattPrepWriteExec)
        else (c.setClcb { c.clcb with status := gattError }, true, gattPrepWriteCancel)
      if terminate ∧ c.clcb.opSubtype ≠ gattWritePrepare then
        (gattSendQueueWriteCancel c flag, terminate)
      else (c, terminate)

/-- `gatt_process_prep_write_rsp`. -/
def gattProcessPrepWriteRsp (payloadSize : ℕ) (c : Client) (pdu : List UInt8) : Client :=
  if pdu.length < gattPrepWriteRspMinLen then gattEndOperation c gattInvalidPdu (.value 0)
  else
    let value : WriteValue :=
      ⟨streamToUint16 pdu 0, streamToUint16 pdu 2, pdu.length - 4, pdu.drop 4⟩
    let c := c.copy ⟨.stackValue, 0, value.len, .pdu 4⟩
    let (c, terminate) := gattCheckWriteLongTerminate c value
    if !terminate then gattSendPrepareWrite payloadSize c
    else if c.clcb.opSubtype = gattWritePrepare then
      gattEndOperation c c.clcb.status (.value value.len)
    else c

/-- The rest of a Multiple Handle Value Notification: `(handle, len, value)`
entries while `rem_len > 4`, each value cut to what is left.  The fuel is the
number of bytes left; every pass takes at least four. -/
def multiValueRest (pdu : List UInt8) : ℕ → ℕ → ℤ → Client → Client
  | 0, _, _, c => c
  | fuel + 1, p, remLen, c =>
      if remLen > 4 then
        let remLen := remLen - 4
        let len := min remLen.toNat (streamToUint16 pdu (p + 2))
        let c := (c.copy ⟨.stackValue, 0, len, .pdu (p + 4)⟩).deliver ⟨len, len⟩
        multiValueRest pdu fuel (p + 4 + len) (remLen - len) c
      else c

/-- `gatt_process_notification` for a notification, an indication or a
multiple-value notification: every value is copied into the `value` on the
stack and passed to the applications. -/
def gattProcessNotification (c : Client) (opCode : UInt8) (pdu : List UInt8) : Client :=
  let len := pdu.length
  if len < gattNotificationMinLen then c
  else if streamToUint16 pdu 0 = 0 then c
  else
    let valueLen :=
      if opCode = gattHandleMultiValueNotif then
        if len < gattNotificationMinLen + 2 then none
        else
          let valueLen := streamToUint16 pdu 2
          if (valueLen : ℤ) > len - 4 then none else some valueLen
      else some (len - 2)
    match valueLen with
    | none => c
    | some valueLen =>
        if valueLen > gattMaxAttrLen then c
        else
          let p := if opCode = gattHandleMultiValueNotif then 4 else 2
          let c := (c.copy ⟨.stackValue, 0, valueLen, .pdu p⟩).deliver ⟨valueLen, valueLen⟩
          if opCode ≠ gattHandleMultiValueNotif then c
          else multiValueRest pdu len (p + valueLen) ((len : ℤ) - (4 + valueLen)) c

/-- `gatt_cmd_to_rsp_code`. -/
def gattCmdToRspCode (cmdCode : UInt8) : UInt8 :=
  if cmdCode > 1 ∧ cmdCode ≠ gattCmdWrite then cmdCode + 1 else 0

/-- `gatt_client_handle_server_rsp (tcb, cid, op_code, len, p_data)` at an MTU
of `payloadSize`.  `stale` is what the stack holds where
`gatt_process_read_info_rsp` keeps its `result`. -/
def gattClientHandleServerRsp (payloadSize : ℕ) (c : Client) (opCode : UInt8)
    (pdu : List UInt8) (stale : ℕ) : Client :=
  if opCode = gattHandleValueInd ∨ opCode = gattHandleValueNotif ∨
      opCode = gattHandleMultiValueNotif then
    if pdu.length ≥ payloadSize then c else gattProcessNotification c opCode pdu
  else
    match c.pending with
    | none => c
    | some cmdCode =>
        -- `gatt_cmd_dequeue` takes the request off the queue whatever the answer
        let c := { c with pending := none }
        if gattCmdToRspCode cmdCode ≠ opCode ∧ opCode ≠ gattRspError then c
        else if pdu.length ≥ payloadSize then gattEndOperation c gattError .null
        else if opCode = gattRspError then gattProcessErrorRsp c pdu
        else if opCode = gattRspFindInfo then gattProcessReadInfoRsp c pdu stale
        else if opCode = gattRspReadByType ∨ opCode = gattRspReadByGrpType then
          gattProcessReadByTypeRsp payloadSize c opCode pdu
        else if opCode = gattRspRead ∨ opCode = gattRspReadBlob ∨ opCode = gattRspReadMulti ∨
            opCode = gattRspReadMultiVar then
          gattProcessReadRsp payloadSize c pdu
        else if opCode = gattRspFindTypeValue then gattProcessFindTypeValueRsp c pdu
        else if opCode = gattRspWrite then gattEndOperation c gattSuccess .null
        else if opCode = gattRspPrepareWrite then gattProcessPrepWriteRsp payloadSize c pdu
        else if opCode = gattRspExecWrite then gattEndOperation c c.clcb.status .null
        else c

/-- An answer to a Find By Type Value request, shorter than the MTU, goes to its
handler with the request taken off the queue. -/
theorem gattClientHandleServerRsp_findTypeValue (payloadSize : ℕ) (c : Client)
    (pdu : List UInt8) (stale : ℕ) (asked : c.pending = some gattReqFindTypeValue)
    (fits : pdu.length < payloadSize) :
    gattClientHandleServerRsp payloadSize c gattRspFindTypeValue pdu stale =
      gattProcessFindTypeValueRsp { c with pending := none } pdu := by
  have short : ¬payloadSize ≤ pdu.length := by omega
  simp +decide [gattClientHandleServerRsp, asked, short]

/-- So does an answer to a Read Multiple request. -/
theorem gattClientHandleServerRsp_readMulti (payloadSize : ℕ) (c : Client)
    (pdu : List UInt8) (stale : ℕ) (asked : c.pending = some gattReqReadMulti)
    (fits : pdu.length < payloadSize) :
    gattClientHandleServerRsp payloadSize c gattRspReadMulti pdu stale =
      gattProcessReadRsp payloadSize { c with pending := none } pdu := by
  have short : ¬payloadSize ≤ pdu.length := by omega
  simp +decide [gattClientHandleServerRsp, asked, short]

/-! ## Starting an operation -/

/-- A control block as `gatt_clcb_alloc` leaves it. -/
def Clcb.init : Clcb :=
  { operation := .discovery, opSubtype := 0, sHandle := 0, eHandle := 0, uuid := 0, counter := 0,
    firstReadBlobAfterRead := false, readReqCurrentMtu := 0, writeValue := none, startOffset := 0,
    status := gattSuccess, waitForReadRsp := false, nextDiscStartHdl := 0, inclHandle := 0 }

/-- `GATTC_Discover (conn_id, disc_type, start_handle, end_handle, uuid)`: the
parameters are checked, and the first request goes out. -/
def gattcDiscover (discType : UInt8) (startHandle endHandle : ℕ) (uuid : Uuid) :
    Option Client :=
  if discType ≥ gattDiscMax then none
  else if startHandle = 0 ∨ endHandle = 0 ∨ (discType = gattDiscSrvcByUuid ∧ uuid = 0) then none
  else
    some (gattActDiscovery
      { clcb := { Clcb.init with operation := .discovery, opSubtype := discType,
                                 sHandle := startHandle, eHandle := endHandle, uuid }
        pending := none, sent := [], discovered := [], ended := none, delivered := [],
        copies := [] })


def gattReadMax : UInt8 := 7

/-- The members of `tGATT_READ_PARAM` the read types take their arguments from. -/
structure ReadParam where
  sHandle : ℕ
  eHandle : ℕ
  uuid : Uuid
  handle : ℕ
  offset : ℕ
  deriving DecidableEq, Repr

/-- `GATTC_Read (conn_id, type, p_read)`, once the security check lets the
first request go out at an MTU of `payloadSize`. -/
def gattcRead (payloadSize : ℕ) (type : UInt8) (param : ReadParam) : Option Client :=
  if type ≥ gattReadMax ∨ type = 0 then none
  else
    let clcb := { Clcb.init with operation := .read, opSubtype := type, counter := 0,
                                 readReqCurrentMtu := payloadSize }
    let clcb :=
      if type = gattReadByType ∨ type = gattReadCharValue then
        { clcb with sHandle := param.sHandle, eHandle := param.eHandle, uuid := param.uuid }
      else if type = gattReadMultiple then { clcb with sHandle := 0 }
      else if type = gattReadByHandle ∨ type = gattReadPartial then
        { clcb with uuid := 0, sHandle := param.handle,
                    counter := if type = gattReadPartial then param.offset else clcb.counter }
      else clcb
    some (gattActRead
      { clcb, pending := none, sent := [], discovered := [], ended := none, delivered := [],
        copies := [] } 0)


/-! ## A discovery goes where the server sends it -/

section Discovery

variable (uuid : Uuid)

/-- The Find By Type Value request for the services with `uuid` from `sHandle`. -/
def findServices (sHandle : ℕ) : AttReq := .browse gattReqFindTypeValue sHandle 0xFFFF uuid

/-- The control block of the discovery once it asks from handle 3. -/
def discoveryFrom3 : Clcb :=
  { Clcb.init with operation := .discovery, opSubtype := gattDiscSrvcByUuid, sHandle := 3,
                   eHandle := 0xFFFF, uuid }

/-- A server that answers with the one range `[1, 2]`. -/
def answerRange12 (c : Client) : Client :=
  gattClientHandleServerRsp 23 c gattRspFindTypeValue [1, 0, 2, 0] 0

/-- **The step.**  Whatever handle the request started from, the answer
`[1, 2]` sets the next start handle to 3 and sends the request again. -/
theorem gattProcessFindTypeValueRsp_range12 (c : Client)
    (discovering : c.clcb.operation = .discovery) (byUuid : c.clcb.opSubtype = gattDiscSrvcByUuid)
    (whole : c.clcb.eHandle = 0xFFFF) :
    gattProcessFindTypeValueRsp c [1, 0, 2, 0] =
      ((c.report [1]).setClcb { c.clcb with sHandle := 3 }).send
        (.browse gattReqFindTypeValue 3 0xFFFF c.clcb.uuid) := by
  have expected : ¬(c.clcb.operation ≠ .discovery ∨ c.clcb.opSubtype ≠ gattDiscSrvcByUuid) := by
    simp [discovering, byUuid]
  have reported : (findTypeValueRanges [1, 0, 2, 0]).map Prod.fst = [1] := rfl
  have next : (if ((findTypeValueRanges [1, 0, 2, 0]).getLast?.map Prod.snd).getD 0 = 0 then 0
      else (((findTypeValueRanges [1, 0, 2, 0]).getLast?.map Prod.snd).getD 0 + 1) % 2 ^ 16) = 3 := by
    decide
  have opcode : discTypeToAttOpcode gattDiscSrvcByUuid = gattReqFindTypeValue := rfl
  rw [gattProcessFindTypeValueRsp, if_neg expected]
  simp only [reported, next]
  rw [gattActDiscovery_of_le _ (by simp) (by simp [whole])]
  simp only [Client.setClcb, Client.report, byUuid, whole, opcode, ↓reduceIte]

/-- From handle 3 on, every answer repeats the same request. -/
theorem answerRange12_from3 (c : Client) (at3 : c.clcb = discoveryFrom3 uuid)
    (asked : c.pending = some gattReqFindTypeValue) :
    answerRange12 c = { c with sent := c.sent ++ [findServices uuid 3], discovered := c.discovered ++ [1] } := by
  have fits : [(1 : UInt8), 0, 2, 0].length < 23 := by decide
  rw [answerRange12, gattClientHandleServerRsp_findTypeValue _ _ _ _ asked fits,
    gattProcessFindTypeValueRsp_range12 _ (by simp [at3, discoveryFrom3])
      (by simp [at3, discoveryFrom3]) (by simp [at3, discoveryFrom3])]
  obtain ⟨clcb, pending, sent, discovered, ended, delivered, copies⟩ := c
  subst at3
  simp only at asked
  subst asked
  rfl

/-- **The run.**  `k` more answers send the request `k` more times. -/
theorem answerRange12_iterate (k : ℕ) (c : Client) (at3 : c.clcb = discoveryFrom3 uuid)
    (asked : c.pending = some gattReqFindTypeValue) :
    (answerRange12)^[k] c =
      { c with sent := c.sent ++ List.replicate k (findServices uuid 3),
               discovered := c.discovered ++ List.replicate k 1 } := by
  induction k generalizing c with
  | zero => simp
  | succ k ih =>
    rw [Function.iterate_succ_apply, answerRange12_from3 uuid c at3 asked,
      ih { c with sent := c.sent ++ [findServices uuid 3], discovered := c.discovered ++ [1] }
        at3 asked]
    simp [List.replicate_succ]

/-- `GATTC_Discover` of the services with `uuid` over all handles sends its
first request from handle 1. -/
theorem gattcDiscover_srvcByUuid (named : uuid ≠ 0) :
    gattcDiscover gattDiscSrvcByUuid 1 0xFFFF uuid =
      some { clcb := { discoveryFrom3 uuid with sHandle := 1 }, pending := some gattReqFindTypeValue,
             sent := [findServices uuid 1], discovered := [], ended := none, delivered := [],
             copies := [] } := by
  have valid : ¬gattDiscSrvcByUuid ≥ gattDiscMax := by decide
  have opcode : discTypeToAttOpcode gattDiscSrvcByUuid = gattReqFindTypeValue := rfl
  have checked : ¬((1 : ℕ) = 0 ∨ (0xFFFF : ℕ) = 0 ∨
      (gattDiscSrvcByUuid = gattDiscSrvcByUuid ∧ uuid = 0)) := by
    simp [named]
  rw [gattcDiscover, if_neg valid, if_neg checked, gattActDiscovery_of_le _ (by simp) (by simp)]
  simp [opcode, findServices, discoveryFrom3, Client.send, AttReq.opcode]

theorem disc_srvc_by_uuid_repeats (named : uuid ≠ 0) (k : ℕ) :
    ∃ c, gattcDiscover gattDiscSrvcByUuid 1 0xFFFF uuid = some c ∧
      ((answerRange12)^[k + 1] c).ended = none ∧
      ((answerRange12)^[k + 1] c).sent =
        findServices uuid 1 :: List.replicate (k + 1) (findServices uuid 3) := by
  refine ⟨_, gattcDiscover_srvcByUuid uuid named, ?_⟩
  -- the first answer moves the start handle from 1 to 3; from there on it stays
  rw [Function.iterate_succ_apply, answerRange12,
    gattClientHandleServerRsp_findTypeValue _ _ _ _ rfl (by decide),
    gattProcessFindTypeValueRsp_range12 _ rfl rfl rfl, answerRange12_iterate uuid k _ rfl rfl]
  simp [Client.setClcb, Client.report, findServices, discoveryFrom3, List.replicate_succ]

theorem disc_srvc_by_uuid_repeats_battery :
    Uuid.from16Bit 0x180F ≠ 0 ∧
      ∃ c, gattcDiscover gattDiscSrvcByUuid 1 0xFFFF (Uuid.from16Bit 0x180F) = some c ∧
        ((answerRange12)^[0xFFFF + 1] c).ended = none ∧
        ((answerRange12)^[0xFFFF + 1] c).sent =
          findServices (Uuid.from16Bit 0x180F) 1 ::
            List.replicate (0xFFFF + 1) (findServices (Uuid.from16Bit 0x180F) 3) :=
  ⟨by decide, disc_srvc_by_uuid_repeats _ (by decide) 0xFFFF⟩

end Discovery

/-! ## A read passes the whole response up -/

/-- A read other than by handle ends at its response, and `gatt_end_operation`
copies all `len` bytes of it into `att_value.value`. -/
theorem gattProcessReadRsp_not_by_handle (payloadSize : ℕ) (c : Client) (pdu : List UInt8)
    (reading : c.clcb.operation = .read) (notByHandle : c.clcb.opSubtype ≠ gattReadByHandle)
    (nonempty : pdu ≠ []) :
    (gattProcessReadRsp payloadSize c pdu).copies = c.copies ++ [⟨.cbValue, 0, pdu.length, .pdu 0⟩] := by
  have counted : pdu.length ≠ 0 := by simpa using nonempty
  simp [gattProcessReadRsp, reading, notByHandle, gattEndOperation, Client.setClcb, counted,
    Client.deliver, Client.copy]

theorem read_rsp_overruns_att_value (payloadSize : ℕ) (c : Client) (pdu : List UInt8) (stale : ℕ)
    (reading : c.clcb.operation = .read) (notByHandle : c.clcb.opSubtype ≠ gattReadByHandle)
    (asked : c.pending = some gattReqReadMulti) (fits : pdu.length < payloadSize)
    (long : gattMaxAttrLen < pdu.length) :
    ∃ cp ∈ (gattClientHandleServerRsp payloadSize c gattRspReadMulti pdu stale).copies,
      cp.buffer = .cbValue ∧ cp.source = .pdu 0 ∧ gattMaxAttrLen < cp.offset + cp.len := by
  have nonempty : pdu ≠ [] := by
    rintro rfl
    simp [gattMaxAttrLen] at long
  rw [gattClientHandleServerRsp_readMulti _ _ _ _ asked fits,
    gattProcessReadRsp_not_by_handle _ { c with pending := none } _ reading notByHandle nonempty]
  exact ⟨_, List.mem_append_right _ (List.mem_singleton_self _), rfl, rfl, by simpa using long⟩

theorem read_rsp_overruns_att_value_at_max_mtu :
    ∃ c, gattcRead gattMaxMtuSize gattReadMultiple ⟨0, 0, 0, 0, 0⟩ = some c ∧
      c.clcb.operation = .read ∧ c.clcb.opSubtype ≠ gattReadByHandle ∧
      c.pending = some gattReqReadMulti ∧ (List.replicate 516 (0 : UInt8)).length < gattMaxMtuSize ∧
      gattMaxAttrLen < (List.replicate 516 (0 : UInt8)).length ∧
      ∃ cp ∈ (gattClientHandleServerRsp gattMaxMtuSize c gattRspReadMulti
          (List.replicate 516 0) 0).copies,
        cp.buffer = .cbValue ∧ cp.source = .pdu 0 ∧ gattMaxAttrLen < cp.offset + cp.len := by
  have fits : (List.replicate 516 (0 : UInt8)).length < gattMaxMtuSize := by
    rw [List.length_replicate]
    decide
  have long : gattMaxAttrLen < (List.replicate 516 (0 : UInt8)).length := by
    rw [List.length_replicate]
    decide
  refine ⟨_, rfl, rfl, by decide, rfl, fits, long, ?_⟩
  exact read_rsp_overruns_att_value _ _ _ 0 rfl (by decide) rfl fits long

end Bluedroid.Gatt
