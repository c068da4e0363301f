import Bluedroid.Rfcomm.Fcs

/-!
# Rfcomm.Frames -- the TS 07.10 frames of RFCOMM, built and parsed

A frame is an address octet (EA bit, C/R bit, DLCI), a control octet (the
frame type, with the P/F bit), a length of one or two octets (EA bit set in
the last), for a UIH frame on a data channel under credit-based flow control
with P/F set a credit octet, the information field, and the FCS.

`rfc_send_sabme`, `rfc_send_ua`, `rfc_send_dm` and `rfc_send_disc` write a
four-octet frame (`rfcControlFrame`); `rfc_send_buf_uih` writes the header in
front of a payload already in its buffer, moving `offset` back over it, and
the FCS after it (`rfcSendBufUih`).  `rfc_parse_data` reads a received frame
through the buffer's `offset` and `len`, writes what it finds into the
multiplexer's `rx_frame`, and leaves `offset` and `len` around the
information field (`rfcParseData`); it reads memory only through `Reads.get`,
so what it reads is its footprint.
-/

namespace Bluedroid.Rfcomm

open Bluedroid.Theory

set_option autoImplicit false

/-! ## Definitions of rfcdefs.h -/

def rfcommSabme : UInt8 := 0x2F
def rfcommUa : UInt8 := 0x63
def rfcommDm : UInt8 := 0x0F
def rfcommDisc : UInt8 := 0x43
def rfcommUih : UInt8 := 0xEF
def rfcommCtrlFrameLen : ℕ := 3
def rfcommEa : UInt8 := 1
def rfcommCrMask : UInt8 := 0x02
def rfcommShiftCr : UInt8 := 1
def rfcommShiftDlci : UInt8 := 2
def rfcommShiftDlci2 : UInt8 := 6
def rfcommPf : UInt8 := 0x10
def rfcommPfMask : UInt8 := 0x10
def rfcommPfOffset : UInt8 := 4
def rfcommShiftLength1 : UInt8 := 1
def rfcommShiftLength2 : ℕ := 7
def rfcommMaxDlci : UInt8 := 61
def rfcommMxDlci : UInt8 := 0

/-- `PORT_FC_CREDIT`: credit-based flow control on the multiplexer. -/
def portFcCredit : UInt8 := 2

/-- `RFCOMM_CR(initiator, is_command)`: the C/R bit of a frame this side sends. -/
def rfcommCr (initiator isCommand : Bool) : UInt8 :=
  if (initiator && isCommand) || (!initiator && !isCommand) then 2 else 0

/-- `RFCOMM_FRAME_IS_CMD(initiator, cr)`. -/
def frameIsCmd (initiator : Bool) (cr : UInt8) : Bool := (initiator && cr == 0) || (!initiator && cr != 0)

/-- `RFCOMM_FRAME_IS_RSP(initiator, cr)`. -/
def frameIsRsp (initiator : Bool) (cr : UInt8) : Bool := (initiator && cr != 0) || (!initiator && cr == 0)

/-- `RFCOMM_VALID_DLCI(dlci)`: `0`, the multiplexer, or `2` to `61`. -/
def validDlci (dlci : UInt8) : Bool := dlci == 0 || (2 ≤ dlci && dlci ≤ rfcommMaxDlci)

/-! ## The data -/

/-- `tRFC_MCB`, the fields the frame codec reads. -/
structure RfcMcb where
  isInitiator : Bool
  flow : UInt8

/-- `tRFC_EVENT`, the events of a received frame. -/
inductive RfcEvent where
  | sabme
  | ua
  | dm
  | disc
  | uih
  | badFrame
  deriving DecidableEq, Repr

/-- `u.pn` of `MX_FRAME`. -/
structure PnFields where
  frameType : UInt8
  convLayer : UInt8
  priority : UInt8
  t1 : UInt8
  mtu : ℕ
  n2 : UInt8
  k : UInt8
  deriving DecidableEq, Repr

/-- `u.test` of `MX_FRAME`: where the test data starts, and its length. -/
structure TestFields where
  pData : ℕ
  dataLen : ℕ
  deriving DecidableEq, Repr

/-- `u.msc` of `MX_FRAME`. -/
structure MscFields where
  signals : UInt8
  breakPresent : UInt8
  breakDuration : UInt8
  deriving DecidableEq, Repr

/-- `u.nsc` of `MX_FRAME`. -/
structure NscFields where
  ea : UInt8
  cr : UInt8
  type : UInt8
  deriving DecidableEq, Repr

/-- `u.rpn` of `MX_FRAME`. -/
structure RpnFields where
  isRequest : Bool
  baudRate : UInt8
  byteSize : UInt8
  stopBits : UInt8
  parity : UInt8
  parityType : UInt8
  fcType : UInt8
  xonChar : UInt8
  xoffChar : UInt8
  paramMask : ℕ
  deriving DecidableEq, Repr

/-- `u.rls` of `MX_FRAME`. -/
structure RlsFields where
  lineStatus : UInt8
  deriving DecidableEq, Repr

/-- `MX_FRAME`, the multiplexer's `rx_frame`: the frame's header fields, and the
fields of the multiplexer command it carries.  The command fields are a union
in the source; each command writes only its own, and the handler it goes to
reads only those, so they are kept side by side. -/
structure MxFrame where
  dlci : UInt8
  type : UInt8
  cr : UInt8
  ea : UInt8
  pf : UInt8
  credit : UInt8
  pn : PnFields
  test : TestFields
  msc : MscFields
  nsc : NscFields
  rpn : RpnFields
  rls : RlsFields
  deriving DecidableEq, Repr

/-- `BT_HDR` with its data: the octets after the header, and the window
`[offset, offset + len)` that holds the message. -/
structure BtHdr where
  data : List UInt8
  offset : ℕ
  len : ℕ
  layerSpecific : ℕ
  deriving DecidableEq, Repr

/-- The buffer's octets as a memory. -/
def BtHdr.mem (b : BtHdr) : ℕ → UInt8 := fun i => b.data.getD i 0

/-- The octets of the buffer's window. -/
def BtHdr.window (b : BtHdr) : List UInt8 := (b.data.drop b.offset).take b.len

/-- `*p_data++ = x` for each `x` of `bytes`, from `start` on. -/
def writeOctets : List UInt8 → ℕ → List UInt8 → List UInt8
  | data, _, [] => data
  | data, start, b :: bytes => writeOctets (data.set start b) (start + 1) bytes

/-! ## Sending -/

/-- The address octet: `RFCOMM_EA | cr | (dlci << RFCOMM_SHIFT_DLCI)`. -/
def addressOctet (cr dlci : UInt8) : UInt8 := rfcommEa ||| cr ||| (dlci <<< rfcommShiftDlci)

/-- The four octets of a SABME, UA, DM or DISC frame: address, control, an
empty length, and `rfc_calc_fcs(3, ...)` over the three before it. -/
def rfcControlFrame (cr dlci control : UInt8) : List UInt8 :=
  let header := [addressOctet cr dlci, control, rfcommEa ||| 0]
  header ++ [(rfcCalcFcs 3 0).value fun i => header.getD i 0]

/-- `rfc_send_sabme(p_mcb, dlci)`: a command, P set. -/
def rfcSendSabme (mcb : RfcMcb) (dlci : UInt8) : List UInt8 :=
  rfcControlFrame (rfcommCr mcb.isInitiator true) dlci (rfcommSabme ||| rfcommPf)

/-- `rfc_send_ua(p_mcb, dlci)`: a response, F set. -/
def rfcSendUa (mcb : RfcMcb) (dlci : UInt8) : List UInt8 :=
  rfcControlFrame (rfcommCr mcb.isInitiator false) dlci (rfcommUa ||| rfcommPf)

/-- `rfc_send_dm(p_mcb, dlci, pf)`: a response, F as given. -/
def rfcSendDm (mcb : RfcMcb) (dlci : UInt8) (pf : Bool) : List UInt8 :=
  rfcControlFrame (rfcommCr mcb.isInitiator false) dlci (rfcommDm ||| if pf then rfcommPf else 0)

/-- `rfc_send_disc(p_mcb, dlci)`: a command, P set. -/
def rfcSendDisc (mcb : RfcMcb) (dlci : UInt8) : List UInt8 :=
  rfcControlFrame (rfcommCr mcb.isInitiator true) dlci (rfcommDisc ||| rfcommPf)

/-- The length field of `rfc_send_buf_uih`: one octet up to `127`, else two. -/
def uihLengthOctets (len : ℕ) : List UInt8 :=
  if len ≤ 127 then [rfcommEa ||| (UInt8.ofNat len <<< 1)]
  else [UInt8.ofNat ((len &&& 0x7f) <<< 1), UInt8.ofNat (len >>> rfcommShiftLength2)]

/-- The credits `rfc_send_buf_uih` sends: `layer_specific` on a data channel,
none on the multiplexer's. -/
def uihCredits (dlci : UInt8) (buf : BtHdr) : UInt8 := if dlci ≠ 0 then UInt8.ofNat buf.layerSpecific else 0

/-- The header `rfc_send_buf_uih` writes: address, control (P/F set with
credits), the length of the payload, and the credit octet if any. -/
def uihHeader (cr dlci credits : UInt8) (len : ℕ) : List UInt8 :=
  addressOctet cr dlci :: (rfcommUih ||| if credits ≠ 0 then rfcommPf else 0) :: uihLengthOctets len ++
    if credits ≠ 0 then [credits] else []

/-- `rfc_send_buf_uih(p_mcb, dlci, p_buf)`: `offset` moved back over the
header, the header written in front of the payload, and the FCS over address
and control written after it. -/
def rfcSendBufUih (mcb : RfcMcb) (dlci : UInt8) (buf : BtHdr) : BtHdr :=
  let offset := buf.offset - rfcommCtrlFrameLen
  let offset := if buf.len > 127 then offset - 1 else offset
  let credits := uihCredits dlci buf
  let offset := if credits ≠ 0 then offset - 1 else offset
  let header := uihHeader (rfcommCr mcb.isInitiator true) dlci credits buf.len
  let len := buf.len + header.length
  let data := writeOctets buf.data offset header
  -- `RFCOMM_UIH_FCS` reads back the address and control octets just written
  let fcs := (rfcCalcFcs 2 offset).value fun i => data.getD i 0
  { buf with data := data.set (offset + len) fcs, offset, len := len + 1 }

/-! ## Parsing -/

/-- What `rfc_parse_data` leaves: the event, `rx_frame`, and `p_buf`'s `offset`
and `len`. -/
structure RfcParse where
  event : RfcEvent
  frame : MxFrame
  offset : ℕ
  len : ℕ
  deriving DecidableEq, Repr

/-- One case of the `switch` of `rfc_parse_data` on a SABME, UA, DM or DISC:
bad if it comes from the wrong side (`wrongSide`), lacks P/F where it must
have it, has an information field or an invalid DLCI, or fails
`rfc_check_fcs(RFCOMM_CTRL_FRAME_LEN, p_start, fcs)`; tested in this order. -/
def controlFrameEvent (frame : MxFrame) (length pStart : ℕ) (fcs : UInt8) (wrongSide checksPf : Bool)
    (event : RfcEvent) : Reads UInt8 RfcEvent :=
  if wrongSide || (checksPf && frame.pf == 0) || length != 0 || !validDlci frame.dlci then pure .badFrame
  else do
    let ok ← rfcCheckFcs rfcommCtrlFrameLen pStart fcs
    pure (if ok then event else .badFrame)

/-- The `switch` of `rfc_parse_data` on the frame type. -/
def rfcFrameEvent (mcb : RfcMcb) (frame : MxFrame) (length pStart : ℕ) (fcs : UInt8) :
    Reads UInt8 RfcEvent :=
  if frame.type = rfcommSabme then
    controlFrameEvent frame length pStart fcs (frameIsRsp mcb.isInitiator frame.cr) true .sabme
  else if frame.type = rfcommUa then
    controlFrameEvent frame length pStart fcs (frameIsCmd mcb.isInitiator frame.cr) true .ua
  else if frame.type = rfcommDm then
    controlFrameEvent frame length pStart fcs (frameIsCmd mcb.isInitiator frame.cr) false .dm
  else if frame.type = rfcommDisc then
    controlFrameEvent frame length pStart fcs (frameIsRsp mcb.isInitiator frame.cr) true .disc
  else if frame.type = rfcommUih then
    if !validDlci frame.dlci then pure .badFrame
    else do
      let ok ← rfcCheckFcs 2 pStart fcs
      -- a UIH frame from the wrong side is accepted as well
      pure (if ok then .uih else .badFrame)
  else pure .badFrame

/-- The end of `rfc_parse_data`, past the header and the credit: the length
field against what is left, the FCS after the information field, and the
event. -/
def rfcParseTail (mcb : RfcMcb) (frame : MxFrame) (pStart offset len length : ℕ) : Reads UInt8 RfcParse :=
  if len ≠ length then pure ⟨.badFrame, frame, offset, len⟩
  else do
    let fcs ← Reads.get (offset + length)
    let event ← rfcFrameEvent mcb frame length pStart fcs
    pure ⟨event, frame, offset, len⟩

/-- The credit of `rfc_parse_data`: under credit-based flow control, a UIH frame
on a data channel with P/F set carries a credit octet at `p_data`, which the
window then skips. -/
def rfcParseCredit (mcb : RfcMcb) (frame : MxFrame) (pStart pData len length : ℕ) : Reads UInt8 RfcParse :=
  if mcb.flow = portFcCredit ∧ frame.type = rfcommUih ∧ frame.dlci ≠ rfcommMxDlci ∧ frame.pf = 1 then
    if len < 1 then pure ⟨.badFrame, frame, pData, len⟩
    else do
      let credit ← Reads.get pData
      rfcParseTail mcb { frame with credit } pStart (pData + 1) (len - 1) length
  else rfcParseTail mcb { frame with credit := 0 } pStart pData len length

/-- The length field of `rfc_parse_data` at `offset + 2`: seven bits, and eight
more from the next octet when its EA bit is clear. -/
def rfcLengthField (offset : ℕ) (lengthOctet : UInt8) : Reads UInt8 ℕ :=
  if lengthOctet &&& rfcommEa = 0 then
    Reads.get (offset + 3) >>= fun second =>
      pure ((lengthOctet >>> rfcommShiftLength1).toNat + (second.toNat <<< rfcommShiftLength2))
  else pure (lengthOctet >>> rfcommShiftLength1).toNat

/-- The header fields `rfc_parse_data` writes into `rx_frame`, from the address
octet (`RFCOMM_PARSE_CTRL_FIELD`) and the control octet
(`RFCOMM_PARSE_TYPE_FIELD`). -/
def parsedHeader (frame : MxFrame) (address control : UInt8) : MxFrame :=
  { frame with
    cr := (address &&& rfcommCrMask) >>> rfcommShiftCr, dlci := address >>> rfcommShiftDlci,
    type := control &&& ~~~rfcommPfMask, pf := (control &&& rfcommPfMask) >>> rfcommPfOffset }

/-- `rfc_parse_data(p_mcb, p_frame, p_buf)` on the window `[offset, offset + len)`. -/
def rfcParseData (mcb : RfcMcb) (frame : MxFrame) (offset len : ℕ) : Reads UInt8 RfcParse :=
  if len < rfcommCtrlFrameLen then pure ⟨.badFrame, frame, offset, len⟩
  else
    Reads.get offset >>= fun address =>
    if address &&& rfcommEa = 0 then
      -- `RFCOMM_PARSE_CTRL_FIELD` adds the next octet to the DLCI before EA is tested
      Reads.get (offset + 1) >>= fun extension =>
        pure ⟨.badFrame, { frame with
          cr := (address &&& rfcommCrMask) >>> rfcommShiftCr,
          dlci := (address >>> rfcommShiftDlci) + (extension <<< rfcommShiftDlci2) }, offset, len⟩
    else
      Reads.get (offset + 1) >>= fun control =>
      Reads.get (offset + 2) >>= fun lengthOctet =>
      if lengthOctet &&& rfcommEa = 0 ∧ len ≤ rfcommCtrlFrameLen then
        pure ⟨.badFrame, parsedHeader frame address control, offset, len⟩
      else
        rfcLengthField offset lengthOctet >>= fun length =>
        -- the header is three octets, or four with a two-octet length
        let header := rfcommCtrlFrameLen + if lengthOctet &&& rfcommEa = 0 then 1 else 0
        if len < header + 1 then pure ⟨.badFrame, parsedHeader frame address control, offset, len⟩
        else
          -- the window shrinks to what follows the header, less the FCS
          rfcParseCredit mcb (parsedHeader frame address control) offset (offset + header)
            (len - (header + 1)) length

end Bluedroid.Rfcomm
