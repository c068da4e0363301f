import Bluedroid.Gatt.Client

/-!
# Gatt.ServerDiscovery -- the server's discovery responses, `gatt_sr.cc`

The server keeps its services in `gatt_cb.srv_list_info`: for each, the handle
range `[s_hdl, e_hdl]`, the service type and the attribute list of its database
(`tGATT_SVC_DB`).  A discovery request names a handle range; the response lists
matching attributes (or services) as entries of one length, as many as fit in
`payload_size` bytes.

* `gatts_process_find_info` walks the services that overlap the range and asks
  `gatt_build_find_info_rsp` for entries; that function returns after the first
  attribute in range of each service.
* `gatts_process_read_by_type_req` asks `gatts_db_read_attr_value_by_type`,
  which takes every attribute of the type at or after `s_handle`: the end of the
  range is not looked at.  An attribute whose value only the application knows
  stops the walk with `GATT_PENDING`.
* `gatts_process_primary_service_req` answers Read By Group Type and Find By
  Type Value from the services themselves.

A response is the PDU's bytes, opcode first.  What `gatts_check_attr_readability`
answers for an attribute on the link is a field of the attribute, and so is
whether the application can be asked for its value.

Neither of the first two is what a client that goes on from the last handle
plus one needs.  Two entries of one service are never in one Find Information
response (`findInfoAttrs_entries`), and the client skips everything between
them; a Read By Type response may hold entries past the end of the range.  Run
against `gattcDiscover` through `exchange`, a descriptor discovery over two
services of three attributes each reports handles 1, 4, 5 and 6, and never 2
or 3 (`discovery_responses_leave_range`).
-/

namespace Bluedroid.Gatt

set_option autoImplicit false

def gattReqMtu : UInt8 := 0x02
def gattUuidSecService : ℕ := 0x2801
def gattUuidCharExtProp : ℕ := 0x2900
def gattReadNotPermit : UInt8 := 0x02
def gattUnsupportGrpType : UInt8 := 0x10
def gattPending : UInt8 := 0x88
def gattBusy : UInt8 := 0x84

/-! ## UUIDs on the wire -/

/-- `Uuid::GetShortestRepresentationSize`: 2 or 4 bytes for a UUID built on the
base UUID, 16 otherwise. -/
def Uuid.shortestSize (u : Uuid) : ℕ :=
  if u % 2 ^ 96 = baseUuid ∧ u / 2 ^ 96 < 2 ^ 16 then 2
  else if u % 2 ^ 96 = baseUuid ∧ u / 2 ^ 96 < 2 ^ 32 then 4
  else 16

/-- `Uuid::As16Bit`. -/
def Uuid.as16Bit (u : Uuid) : ℕ := u / 2 ^ 96 % 2 ^ 16

/-- `Uuid::To128BitLE`. -/
def Uuid.to128BitLE (u : Uuid) : List UInt8 :=
  (List.range 16).map fun i => UInt8.ofNat (u / 2 ^ (8 * i))

/-- `gatt_build_uuid_to_stream`: two bytes for a 16-bit UUID, sixteen for any
other, nothing for the empty one. -/
def gattBuildUuidToStream (u : Uuid) : List UInt8 :=
  if u = 0 then []
  else if u.shortestSize = 2 then uint16ToStream u.as16Bit
  else u.to128BitLE

/-- `gatt_build_uuid_to_stream_len`. -/
def gattBuildUuidToStreamLen (u : Uuid) : ℕ :=
  if u.shortestSize = 4 then 16 else u.shortestSize

/-! ## The database -/

/-- The `p_value` of a `tGATT_ATTR`, for the attribute types whose value
`read_attr_value` writes itself. -/
inductive DbValue
  /-- A service declaration: the service's UUID. -/
  | uuid (u : Uuid)
  | charDecl (property : UInt8) (charValHandle : ℕ)
  | inclHandle (sHandle eHandle : ℕ) (serviceType : Uuid)
  | charExtProp (prop : ℕ)
  /-- No `p_value`: the value is the application's. -/
  | none
  deriving DecidableEq, Repr

/-- A `tGATT_ATTR` of a service database. -/
structure DbAttr where
  handle : ℕ
  uuid : Uuid
  value : DbValue
  /-- What `gatts_check_attr_readability` answers for it on this link. -/
  readability : UInt8
  /-- Its `gatt_type` is a characteristic or a descriptor, so that
  `gatts_send_app_read_request` can pass a read to the application. -/
  appValue : Bool
  deriving DecidableEq, Repr

/-- A `tGATT_SRV_LIST_ELEM`. -/
structure SrvListElem where
  sHdl : ℕ
  eHdl : ℕ
  /-- `type`: `GATT_UUID_PRI_SERVICE` or `GATT_UUID_SEC_SERVICE`. -/
  type : ℕ
  /-- `p_db`, with its attribute list. -/
  pDb : Option (List DbAttr)
  deriving DecidableEq, Repr

/-- A PDU the server sends, or an answer left to the application. -/
inductive SrRsp
  | pdu (bytes : List UInt8)
  /-- `gatt_send_error_rsp (reason, op_code, handle)`. -/
  | error (reason opCode : UInt8) (handle : ℕ)
  deriving DecidableEq, Repr

/-- The bytes of `attp_build_err_cmd`. -/
def SrRsp.bytes : SrRsp → List UInt8
  | .pdu bytes => bytes
  | .error reason opCode handle => [gattRspError, opCode] ++ uint16ToStream handle ++ [reason]

/-! ## Find Information -/

/-- `info_pair_len [p_msg->offset - 1]`: the entry length of a format. -/
def infoPairLen (format : ℕ) : ℕ := if format = 1 then 4 else 18

/-- The entry of an attribute in a response of this format: the handle and the
16-bit (format 1) or 128-bit UUID. -/
def infoEntry (format : ℕ) (attr : DbAttr) : List UInt8 :=
  uint16ToStream attr.handle ++
    if format = 1 then uint16ToStream attr.uuid.as16Bit else attr.uuid.to128BitLE

/-- The part of the response `gatt_build_find_info_rsp` writes: the entries,
the format (`p_msg->offset`, `0` until the first entry) and the room left. -/
structure FindInfoRsp where
  entries : List UInt8
  format : ℕ
  len : ℕ
  deriving DecidableEq, Repr

/-- The loop of `gatt_build_find_info_rsp` over one service's attributes: the
first attribute in range is written, or does not fit, and the function returns. -/
def findInfoAttrs (sHdl eHdl : ℕ) : List DbAttr → FindInfoRsp → UInt8 × FindInfoRsp
  | [], rsp => (gattNotFound, rsp)
  | attr :: attrs, rsp =>
      if attr.handle > eHdl then (gattNotFound, rsp)
      else if attr.handle < sHdl then findInfoAttrs sHdl eHdl attrs rsp
      else
        let uuidLen := attr.uuid.shortestSize
        let format := if rsp.format = 0 then (if uuidLen = 2 then 1 else 2) else rsp.format
        let rsp := { rsp with format }
        if rsp.len < infoPairLen format then (gattNoResources, rsp)
        else if (format = 1 ∧ uuidLen = 2) ∨ (format = 2 ∧ (uuidLen = 16 ∨ uuidLen = 4)) then
          (gattSuccess, { rsp with entries := rsp.entries ++ infoEntry format attr,
                                   len := rsp.len - infoPairLen format })
        -- format mismatch
        else (gattNoResources, rsp)

/-- **One entry per service.**  The loop of `gatt_build_find_info_rsp` adds at
most one entry: that of the first attribute of the service at or after `s_hdl`. -/
theorem findInfoAttrs_entries (sHdl eHdl : ℕ) (attrs : List DbAttr) (rsp : FindInfoRsp) :
    (findInfoAttrs sHdl eHdl attrs rsp).2.entries = rsp.entries ∨
      ∃ attr, attrs.find? (fun a => decide (sHdl ≤ a.handle)) = some attr ∧
        (findInfoAttrs sHdl eHdl attrs rsp).2.entries =
          rsp.entries ++ infoEntry (findInfoAttrs sHdl eHdl attrs rsp).2.format attr := by
  induction attrs with
  | nil => exact Or.inl rfl
  | cons attr attrs ih =>
    by_cases beyond : attr.handle > eHdl
    · exact Or.inl (by simp [findInfoAttrs, beyond])
    by_cases before : attr.handle < sHdl
    · -- skipped: the attribute the entry would be for is further on
      have skipped : ¬sHdl ≤ attr.handle := by omega
      simpa [findInfoAttrs, beyond, before, skipped] using ih
    · -- this attribute is the first in range: written, or no room, or no match
      have first : (attr :: attrs).find? (fun a => decide (sHdl ≤ a.handle)) = some attr := by
        simp only [List.find?_cons]
        simp [show sHdl ≤ attr.handle by omega]
      simp only [findInfoAttrs, beyond, before, if_false]
      generalize (if rsp.format = 0 then if attr.uuid.shortestSize = 2 then 1 else 2
        else rsp.format) = format
      split_ifs
      · exact Or.inl rfl
      · exact Or.inr ⟨attr, first, rfl⟩
      · exact Or.inl rfl

/-- `gatt_build_find_info_rsp (el, p_msg, len, s_hdl, e_hdl)`. -/
def gattBuildFindInfoRsp (el : SrvListElem) (rsp : FindInfoRsp) (sHdl eHdl : ℕ) :
    UInt8 × FindInfoRsp :=
  match el.pDb with
  | none => (gattNotFound, rsp)
  | some attrs => findInfoAttrs sHdl eHdl attrs rsp

/-- The loop of `gatts_process_find_info` over the services: the status of the
last service that overlaps the range, until one has no room left. -/
def findInfoServices (sHdl eHdl : ℕ) : List SrvListElem → UInt8 → FindInfoRsp → UInt8 × FindInfoRsp
  | [], reason, rsp => (reason, rsp)
  | el :: els, reason, rsp =>
      if el.sHdl ≤ eHdl ∧ el.eHdl ≥ sHdl then
        let (reason, rsp) := gattBuildFindInfoRsp el rsp sHdl eHdl
        if reason = gattNoResources then (gattSuccess, rsp)
        else findInfoServices sHdl eHdl els reason rsp
      else findInfoServices sHdl eHdl els reason rsp

/-- `read_handles`: the range of a request, and its check. -/
def readHandles (req : List UInt8) : Except (UInt8 × ℕ) (ℕ × ℕ) :=
  if req.length < 4 then .error (gattInvalidPdu, 0)
  else
    let sHdl := streamToUint16 req 0
    let eHdl := streamToUint16 req 2
    if sHdl > eHdl ∨ sHdl = 0 ∨ eHdl = 0 then .error (gattInvalidHandle, sHdl)
    else .ok (sHdl, eHdl)

/-- `gatts_process_find_info (tcb, cid, op_code, len, p_data)` at an MTU of
`payloadSize`. -/
def gattsProcessFindInfo (payloadSize : ℕ) (srvList : List SrvListElem) (opCode : UInt8)
    (req : List UInt8) : SrRsp :=
  match readHandles req with
  | .error (reason, sHdl) => .error reason opCode sHdl
  | .ok (sHdl, eHdl) =>
      let (reason, rsp) := findInfoServices sHdl eHdl srvList gattNotFound
        ⟨[], 0, payloadSize - 2⟩
      if reason ≠ gattSuccess then .error reason opCode sHdl
      else .pdu ([opCode + 1, UInt8.ofNat rsp.format] ++ rsp.entries)

/-! ## Read By Type -/

/-- `read_attr_value (attr16, 0, &p, false, mtu, &len, ..)`: the status and the
bytes of the value, for an attribute whose value the stack holds.  `next` is
the attribute after it in the list, which a characteristic declaration reads
the value's UUID from. -/
def readAttrValue (attr : DbAttr) (next : Option DbAttr) (mtu : ℕ) : UInt8 × List UInt8 :=
  if attr.readability ≠ gattSuccess then (attr.readability, [])
  else if attr.uuid.shortestSize ≠ 2 then (gattPending, [])
  else
    let uuid16 := attr.uuid.as16Bit
    if uuid16 = gattUuidPriService ∨ uuid16 = gattUuidSecService then
      let u := match attr.value with | .uuid u => u | _ => 0
      if mtu < gattBuildUuidToStreamLen u then (gattNoResources, [])
      else (gattSuccess, gattBuildUuidToStream u)
    else if uuid16 = gattUuidCharDeclare then
      let valUuid : Uuid := (next.map (·.uuid)).getD 0
      let len := if valUuid.shortestSize = 2 then 5 else 19
      let (property, charValHandle) := match attr.value with
        | .charDecl property handle => (property, handle)
        | _ => (0, 0)
      if mtu < len then (gattNoResources, [])
      else
        (gattSuccess, [property] ++ uint16ToStream charValHandle ++
          if valUuid.shortestSize = 2 then uint16ToStream valUuid.as16Bit else valUuid.to128BitLE)
    else if uuid16 = gattUuidIncludeService then
      let (s, e, serviceType) := match attr.value with
        | .inclHandle s e serviceType => (s, e, serviceType)
        | _ => (0, 0, 0)
      let short := serviceType.shortestSize = 2
      if mtu < (if short then 6 else 4) then (gattNoResources, [])
      else
        (gattSuccess, uint16ToStream s ++ uint16ToStream e ++
          if short then uint16ToStream serviceType.as16Bit else [])
    else if uuid16 = gattUuidCharExtProp then
      let prop := match attr.value with | .charExtProp prop => prop | _ => 0
      if mtu < 2 then (gattNoResources, []) else (gattSuccess, uint16ToStream prop)
    else (gattPending, [])

/-- The response `gatts_db_read_attr_value_by_type` adds to: the entries, the
entry length (`p_rsp->offset`, `0` until the first entry) and the room left. -/
structure ByTypeRsp where
  entries : List UInt8
  entryLen : ℕ
  len : ℕ
  deriving DecidableEq, Repr

/-- The loop of `gatts_db_read_attr_value_by_type` over one database: every
attribute of the type at or after `sHandle`.  The status, the response and the
handle `p_cur_handle` is set to. -/
def readByTypeAttrs (sHandle : ℕ) (type : Uuid) :
    List DbAttr → UInt8 → ByTypeRsp → UInt8 × ByTypeRsp × Option ℕ
  | [], status, rsp => (status, rsp, none)
  | attr :: attrs, status, rsp =>
      if attr.handle ≥ sHandle ∧ type = attr.uuid then
        if rsp.len ≤ 2 then (gattNoResources, rsp, none)
        else
          let (status, value) := readAttrValue attr attrs.head? (rsp.len - 2)
          if status = gattPending then
            -- `gatts_send_app_read_request`: one read at a time
            (if attr.appValue then gattPending else gattError, rsp, none)
          else if status = gattSuccess then
            let len := value.length
            let entryLen := if rsp.entryLen = 0 then len + 2 else rsp.entryLen
            if entryLen = len + 2 then
              readByTypeAttrs sHandle type attrs status
                ⟨rsp.entries ++ uint16ToStream attr.handle ++ value, entryLen, rsp.len - (len + 2)⟩
            else (gattNoResources, { rsp with entryLen }, none)
          else (status, rsp, some attr.handle)
      else readByTypeAttrs sHandle type attrs status rsp

/-- `gatts_db_read_attr_value_by_type (tcb, cid, p_db, op_code, p_rsp, s_handle,
e_handle, type, &len, ..)`; `e_handle` is not read. -/
def gattsDbReadAttrValueByType (pDb : Option (List DbAttr)) (rsp : ByTypeRsp)
    (sHandle : ℕ) (type : Uuid) : UInt8 × ByTypeRsp × Option ℕ :=
  match pDb with
  | none => (gattNotFound, rsp, none)
  | some attrs => readByTypeAttrs sHandle type attrs gattNotFound rsp

/-- `gatts_validate_packet_format`: the range and the UUID of a Read By Type,
Read By Group Type or Find By Type Value request, and the bytes after them. -/
def gattsValidatePacketFormat (opCode : UInt8) (req : List UInt8) :
    Except (UInt8 × ℕ) (ℕ × ℕ × Uuid × List UInt8) :=
  match readHandles req with
  | .error e => .error e
  | .ok (sHdl, eHdl) =>
      let rest := req.drop 4
      if rest.length < 2 then .error (gattInvalidPdu, sHdl)
      else
        let uuidLen := if opCode = gattReqFindTypeValue then 2 else rest.length
        match gattParseUuidFromCmd 0 uuidLen rest 0 with
        | none => .error (gattInvalidPdu, sHdl)
        | some (uuid, p) => .ok (sHdl, eHdl, uuid, rest.drop p)

/-- The loop of `gatts_process_read_by_type_req` over the services that overlap
the range; a status other than success or not found stops it, with `s_hdl` set
to the handle the database reported. -/
def readByTypeServices (eHdl : ℕ) (type : Uuid) :
    List SrvListElem → ℕ → UInt8 → ByTypeRsp → ℕ → UInt8 × ByTypeRsp × ℕ
  | [], sHdl, reason, rsp, _ => (reason, rsp, sHdl)
  | el :: els, sHdl, reason, rsp, errHdl =>
      if el.sHdl ≤ eHdl ∧ el.eHdl ≥ sHdl then
        let (ret, rsp, cur) := gattsDbReadAttrValueByType el.pDb rsp sHdl type
        let errHdl := cur.getD errHdl
        let reason :=
          if ret ≠ gattNotFound then (if ret = gattNoResources then gattSuccess else ret)
          else reason
        if ret ≠ gattSuccess ∧ ret ≠ gattNotFound then (reason, rsp, errHdl)
        else readByTypeServices eHdl type els sHdl reason rsp errHdl
      else readByTypeServices eHdl type els sHdl reason rsp errHdl

/-- `gatts_process_read_by_type_req`: the PDUs sent at once (none while the
application is asked for a value). -/
def gattsProcessReadByTypeReq (payloadSize : ℕ) (srvList : List SrvListElem) (opCode : UInt8)
    (req : List UInt8) : List SrRsp :=
  match gattsValidatePacketFormat opCode req with
  | .error (reason, sHdl) => [.error reason opCode sHdl]
  | .ok (sHdl, eHdl, uuid, _) =>
      let (reason, rsp, sHdl) :=
        readByTypeServices eHdl uuid srvList sHdl gattNotFound ⟨[], 0, payloadSize - 2⟩ 0
      if reason ≠ gattSuccess then
        if reason ≠ gattPending ∧ reason ≠ gattBusy then [.error reason opCode sHdl] else []
      else [.pdu ([opCode + 1, UInt8.ofNat rsp.entryLen] ++ rsp.entries)]

/-! ## Primary services -/

/-- `gatts_get_service_uuid`: the UUID in the service declaration, the first
attribute. -/
def gattsGetServiceUuid (pDb : Option (List DbAttr)) : Option Uuid :=
  match pDb with
  | some (attr :: _) => some (match attr.value with | .uuid u => u | _ => 0)
  | _ => none

/-- The response `gatt_build_primary_service_rsp` writes: the bytes so far,
the entry length `p_msg->offset` and the status. -/
structure PrimaryRsp where
  bytes : List UInt8
  offset : ℕ
  status : UInt8
  deriving DecidableEq, Repr

/-- The loop of `gatt_build_primary_service_rsp` over the primary services
starting in the range. -/
def primaryServices (payloadSize : ℕ) (opCode : UInt8) (sHdl eHdl : ℕ) (value : Uuid)
    (lastServiceHandle : ℕ) : List SrvListElem → PrimaryRsp → PrimaryRsp
  | [], rsp => rsp
  | el :: els, rsp =>
      if el.sHdl < sHdl ∨ el.sHdl > eHdl ∨ el.type ≠ gattUuidPriService then
        primaryServices payloadSize opCode sHdl eHdl value lastServiceHandle els rsp
      else
        match gattsGetServiceUuid el.pDb with
        | none => primaryServices payloadSize opCode sHdl eHdl value lastServiceHandle els rsp
        | some uuid =>
            let handleLen :=
              if opCode = gattReqReadByGrpType then 4 + gattBuildUuidToStreamLen uuid else 4
            -- the header, with the length byte, comes with the first service
            let rsp :=
              if rsp.offset = 0 then
                { rsp with bytes := rsp.bytes ++ [opCode + 1] ++
                             (if opCode = gattReqReadByGrpType then [UInt8.ofNat handleLen] else []),
                           offset := handleLen }
              else rsp
            if rsp.bytes.length + rsp.offset > payloadSize ∨ handleLen ≠ rsp.offset then rsp
            else if opCode = gattReqFindTypeValue ∧ value ≠ uuid then
              primaryServices payloadSize opCode sHdl eHdl value lastServiceHandle els rsp
            else
              let eHandle := if lastServiceHandle ≠ 0 ∧ lastServiceHandle = el.sHdl then 0xFFFF
                else el.eHdl
              primaryServices payloadSize opCode sHdl eHdl value lastServiceHandle els
                { rsp with bytes := rsp.bytes ++ uint16ToStream el.sHdl ++ uint16ToStream eHandle ++
                             (if opCode = gattReqReadByGrpType then gattBuildUuidToStream uuid else []),
                           status := gattSuccess }

/-- `gatts_process_primary_service_req`: the PDUs sent.  A Find By Type Value
whose value is not a UUID draws an error response and, after it, the response. -/
def gattsProcessPrimaryServiceReq (payloadSize : ℕ) (srvList : List SrvListElem)
    (lastServiceHandle : ℕ) (opCode : UInt8) (req : List UInt8) : List SrRsp :=
  match gattsValidatePacketFormat opCode req with
  | .error (reason, sHdl) => [.error reason opCode sHdl]
  | .ok (sHdl, eHdl, uuid, rest) =>
      if uuid ≠ Uuid.from16Bit gattUuidPriService then
        [.error (if opCode = gattReqReadByGrpType then gattUnsupportGrpType else gattNotFound)
          opCode sHdl]
      else
        let parsed :=
          if opCode = gattReqFindTypeValue then gattParseUuidFromCmd 0 rest.length rest 0
          else some (0, 0)
        let badValue := if parsed.isNone then [SrRsp.error gattInvalidPdu opCode sHdl] else []
        let value := (parsed.map Prod.fst).getD 0
        let rsp := primaryServices payloadSize opCode sHdl eHdl value lastServiceHandle srvList
          ⟨[], 0, gattNotFound⟩
        badValue ++
          if rsp.status ≠ gattSuccess then [.error rsp.status opCode sHdl] else [.pdu rsp.bytes]

/-! ## The discovery requests -/

/-- `gatt_server_handle_client_req` for the discovery requests, with no other
request waiting. -/
def gattServerHandleClientReq (payloadSize : ℕ) (srvList : List SrvListElem)
    (lastServiceHandle : ℕ) (opCode : UInt8) (req : List UInt8) : List SrRsp :=
  if req.length ≥ payloadSize then [.error gattInvalidPdu opCode 0]
  else if opCode = gattReqReadByGrpType ∨ opCode = gattReqFindTypeValue then
    gattsProcessPrimaryServiceReq payloadSize srvList lastServiceHandle opCode req
  else if opCode = gattReqFindInfo then [gattsProcessFindInfo payloadSize srvList opCode req]
  else if opCode = gattReqReadByType then gattsProcessReadByTypeReq payloadSize srvList opCode req
  else []

/-! ## A client against the server -/

/-- The parameters `attp_send_cl_msg` puts after the opcode of a request. -/
def AttReq.params : AttReq → List UInt8
  | .browse opcode sHandle eHandle uuid =>
      uint16ToStream sHandle ++ uint16ToStream eHandle ++
        if opcode = gattReqFindTypeValue then
          uint16ToStream gattUuidPriService ++ gattBuildUuidToStream uuid
        else gattBuildUuidToStream uuid
  | .read handle => uint16ToStream handle
  | .readBlob handle offset => uint16ToStream handle ++ uint16ToStream offset
  | .readMulti _ => []
  | .prepareWrite handle offset _ => uint16ToStream handle ++ uint16ToStream offset
  | .execWrite flag => [flag]

/-- The client takes the PDUs the server sent, in order. -/
def receiveRsps (payloadSize : ℕ) (c : Client) : List SrRsp → Client
  | [] => c
  | rsp :: rsps =>
      let bytes := rsp.bytes
      receiveRsps payloadSize
        (gattClientHandleServerRsp payloadSize c (bytes.headD 0) bytes.tail 0) rsps

/-- At most `fuel` exchanges at one MTU: while the operation runs, the server
answers the last request and the client takes the answer. -/
def exchange (payloadSize : ℕ) (srvList : List SrvListElem) (lastServiceHandle : ℕ) :
    ℕ → Client → Client
  | 0, c => c
  | fuel + 1, c =>
      match c.ended, c.pending, c.sent.getLast? with
      | none, some _, some req =>
          exchange payloadSize srvList lastServiceHandle fuel
            (receiveRsps payloadSize c
              (gattServerHandleClientReq payloadSize srvList lastServiceHandle req.opcode req.params))
      | _, _, _ => c

/-- An attribute with a 16-bit type, readable on the link. -/
def svcAttr (handle uuid16 : ℕ) (value : DbValue) : DbAttr :=
  ⟨handle, Uuid.from16Bit uuid16, value, gattSuccess, false⟩

/-- A primary service at `[s, s + 2]` with one characteristic: the service
declaration, the characteristic declaration and the value. -/
def oneCharService (s svcUuid charUuid : ℕ) : SrvListElem :=
  ⟨s, s + 2, gattUuidPriService, some [
    svcAttr s gattUuidPriService (.uuid (Uuid.from16Bit svcUuid)),
    svcAttr (s + 1) gattUuidCharDeclare (.charDecl 0x02 (s + 2)),
    { svcAttr (s + 2) charUuid .none with appValue := true }]⟩

/-- Generic Access at `[1, 3]` and Battery at `[4, 6]`: ordered, disjoint, each
with increasing handles inside its range. -/
def twoServices : List SrvListElem := [oneCharService 1 0x1800 0x2A00, oneCharService 4 0x180F 0x2A19]

theorem discovery_responses_leave_range :
    gattServerHandleClientReq 23 twoServices 0 gattReqFindInfo [1, 0, 0xFF, 0xFF] =
        [.pdu [0x05, 0x01, 1, 0, 0x00, 0x28, 4, 0, 0x00, 0x28]] ∧
      gattServerHandleClientReq 23 twoServices 0 gattReqReadByType [1, 0, 4, 0, 0x03, 0x28] =
        [.pdu [0x09, 7, 2, 0, 0x02, 3, 0, 0x00, 0x2A, 5, 0, 0x02, 6, 0, 0x19, 0x2A]] ∧
      ∃ c, gattcDiscover gattDiscCharDscpt 1 0xFFFF 0 = some c ∧
        (exchange 23 twoServices 0 8 c).ended = some gattSuccess ∧
        (exchange 23 twoServices 0 8 c).discovered = [1, 4, 5, 6] := by
  refine ⟨?findInfo, ?readByType, _, rfl, ?ended, ?discovered⟩
  case findInfo => decide +kernel
  case readByType => decide +kernel
  case ended => decide +kernel
  case discovered => decide +kernel

end Bluedroid.Gatt
