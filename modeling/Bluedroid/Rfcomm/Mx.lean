import Bluedroid.Rfcomm.Codec

/-!
# Rfcomm.Mx -- the multiplexer commands carried by UIH frames on DLCI 0

`rfc_process_mx_message` reads the information field of a UIH frame on the
multiplexer's DLCI: a type octet (EA, C/R and the command type), a length of
one or two octets, and the command's octets, which it writes into `rx_frame`
before it hands the frame to the command's handler (`rfc_process_pn` and the
others), which are not modelled: the result says which one gets the frame
(`MxAction`), with the frame and the buffer's window as the handler sees them.

`RFCOMM_BufDataInd` runs `rfc_parse_data` on a received frame and, for a UIH
frame on DLCI 0, this function on the window the parse left
(`rfcommBufDataInd`).  Whatever the buffer holds, the two read only the frame's
window (`within_rfcommBufDataInd`): each command reads only its own octets,
whose length the header has checked against what is left.
-/

namespace Bluedroid.Rfcomm

open Bluedroid.Theory

set_option autoImplicit false

/-! ## Definitions of rfcdefs.h and rfc_int.h -/

def rfcommEaMask : UInt8 := 0x01
def rfcommMxPn : UInt8 := 0x80
def rfcommMxPnLen : ℕ := 8
def rfcommMxTest : UInt8 := 0x20
def rfcommMxFcon : UInt8 := 0xA0
def rfcommMxFconLen : ℕ := 0
def rfcommMxFcoff : UInt8 := 0x60
def rfcommMxFcoffLen : ℕ := 0
def rfcommMxMsc : UInt8 := 0xE0
def rfcommMxMscLenNoBreak : ℕ := 2
def rfcommMxMscLenWithBreak : ℕ := 3
def rfcommMxNsc : UInt8 := 0x10
def rfcommMxNscLen : ℕ := 1
def rfcommMxRpn : UInt8 := 0x90
def rfcommMxRpnReqLen : ℕ := 1
def rfcommMxRpnLen : ℕ := 8
def rfcommMxRls : UInt8 := 0x50
def rfcommMxRlsLen : ℕ := 2
def rfcommPnDlciMask : UInt8 := 0x3F
def rfcommPnFrameTypeMask : UInt8 := 0x0F
def rfcommPnConvLayerMask : UInt8 := 0xF0
def rfcommPnPriorityMask : UInt8 := 0x3F
def rfcommPnKMask : UInt8 := 0x07
def rfcommMscBreakPresentMask : UInt8 := 0x02
def rfcommMscBreakMask : UInt8 := 0xF0
def rfcommMscShiftBreak : UInt8 := 4
def rfcommRpnBitsMask : UInt8 := 0x03
def rfcommRpnBitsShift : UInt8 := 0
def rfcommRpnStopBitsMask : UInt8 := 0x01
def rfcommRpnStopBitsShift : UInt8 := 2
def rfcommRpnParityMask : UInt8 := 0x01
def rfcommRpnParityShift : UInt8 := 3
def rfcommRpnParityTypeMask : UInt8 := 0x03
def rfcommRpnParityTypeShift : UInt8 := 4
def rfcommFcMask : UInt8 := 0x3F
def rfcommRpnPmMask : ℕ := 0x3F7F
def rfcommMinMtu : ℕ := 23
def rfcommMaxMtu : ℕ := 32767

/-! ## The model -/

/-- What `rfc_process_mx_message` does with the frame. -/
inductive MxAction where
  /-- freed with no answer: a bad type octet, a bad length, or an MSC of the
  wrong length -/
  | drop
  | pn
  | test
  | fcon
  | fcoff
  | msc
  | nsc
  | rpn
  | rls
  /-- the `break` out of the `switch`: freed, and an NSC sent back if the frame
  was a command -/
  | reject
  deriving DecidableEq, Repr

/-- The handler the frame goes to, whether it is a command, `rx_frame`, and the
buffer's `offset` and `len`. -/
structure MxResult where
  action : MxAction
  isCommand : Bool
  frame : MxFrame
  offset : ℕ
  len : ℕ
  deriving DecidableEq, Repr

/-- The octet at `i` of a run of octets read. -/
def octet (bytes : List UInt8) (i : ℕ) : UInt8 := bytes.getD i 0

/-- The fields of a PN command, from its eight octets. -/
def pnFields (frame : MxFrame) (bytes : List UInt8) : MxFrame :=
  { frame with
    dlci := octet bytes 0 &&& rfcommPnDlciMask
    pn :=
      { frameType := octet bytes 1 &&& rfcommPnFrameTypeMask
        convLayer := octet bytes 1 &&& rfcommPnConvLayerMask
        priority := octet bytes 2 &&& rfcommPnPriorityMask
        t1 := octet bytes 3
        mtu := (octet bytes 4).toNat + ((octet bytes 5).toNat <<< 8)
        n2 := octet bytes 6
        k := octet bytes 7 &&& rfcommPnKMask } }

/-- `case RFCOMM_MX_PN`: eight octets, a valid non-zero DLCI and an MTU in
`[RFCOMM_MIN_MTU, RFCOMM_MAX_MTU]`. -/
def mxParsePn (frame : MxFrame) (pData length : ℕ) : Reads UInt8 (MxAction × MxFrame) :=
  if length ≠ rfcommMxPnLen then pure (.reject, frame)
  else
    Reads.getN pData rfcommMxPnLen >>= fun bytes =>
      let frame := pnFields frame bytes
      pure (if frame.dlci = 0 ∨ validDlci frame.dlci = false ∨ frame.pn.mtu < rfcommMinMtu ∨
          frame.pn.mtu > rfcommMaxMtu then .reject else .pn, frame)

/-- The DLCI octet of MSC, RPN and RLS: EA and C/R must be set, and the DLCI valid
and non-zero. -/
def dlciOctetOk (b : UInt8) : Bool :=
  b &&& rfcommEa != 0 && (b &&& rfcommCrMask) >>> rfcommShiftCr != 0 && b >>> rfcommShiftDlci != 0 &&
    validDlci (b >>> rfcommShiftDlci)

/-- `case RFCOMM_MX_MSC` past its length test: the DLCI octet, the signals, and
the break octet when the length says there is one. -/
def mxParseMsc (frame : MxFrame) (pData length : ℕ) (mxLen : UInt8) : Reads UInt8 (MxAction × MxFrame) :=
  Reads.get pData >>= fun b =>
    let frame := { frame with dlci := b >>> rfcommShiftDlci }
    if !dlciOctetOk b then pure (.reject, frame)
    else
      Reads.getN (pData + 1) (length - 1) >>= fun bytes =>
        let brk := octet bytes 1
        pure (.msc, { frame with
          msc :=
            { signals := octet bytes 0
              breakPresent := if mxLen.toNat = rfcommMxMscLenWithBreak then brk &&& rfcommMscBreakPresentMask else 0
              breakDuration := if mxLen.toNat = rfcommMxMscLenWithBreak then
                  (brk &&& rfcommMscBreakMask) >>> rfcommMscShiftBreak else 0 } })

/-- The fields of a full RPN command, from the seven octets after its DLCI. -/
def rpnFields (rpn : RpnFields) (bytes : List UInt8) : RpnFields :=
  { rpn with
    baudRate := octet bytes 0
    byteSize := (octet bytes 1 >>> rfcommRpnBitsShift) &&& rfcommRpnBitsMask
    stopBits := (octet bytes 1 >>> rfcommRpnStopBitsShift) &&& rfcommRpnStopBitsMask
    parity := (octet bytes 1 >>> rfcommRpnParityShift) &&& rfcommRpnParityMask
    parityType := (octet bytes 1 >>> rfcommRpnParityTypeShift) &&& rfcommRpnParityTypeMask
    fcType := octet bytes 2 &&& rfcommFcMask
    xonChar := octet bytes 3
    xoffChar := octet bytes 4
    paramMask := ((octet bytes 5).toNat + ((octet bytes 6).toNat <<< 8)) &&& rfcommRpnPmMask }

/-- `case RFCOMM_MX_RPN`: a request of one octet, or the DLCI octet and seven
octets of parameters. -/
def mxParseRpn (frame : MxFrame) (pData length : ℕ) : Reads UInt8 (MxAction × MxFrame) :=
  if length ≠ rfcommMxRpnReqLen ∧ length ≠ rfcommMxRpnLen then pure (.reject, frame)
  else
    Reads.get pData >>= fun b =>
      let frame := { frame with dlci := b >>> rfcommShiftDlci }
      if !dlciOctetOk b then pure (.reject, frame)
      else
        let isRequest := decide (length = rfcommMxRpnReqLen)
        if isRequest then pure (.rpn, { frame with rpn := { frame.rpn with isRequest } })
        else
          Reads.getN (pData + 1) (rfcommMxRpnLen - 1) >>= fun bytes =>
            pure (.rpn, { frame with rpn := rpnFields { frame.rpn with isRequest } bytes })

/-- `case RFCOMM_MX_RLS`: the DLCI octet and the line status, both read before the
DLCI octet is tested. -/
def mxParseRls (frame : MxFrame) (pData length : ℕ) : Reads UInt8 (MxAction × MxFrame) :=
  if length ≠ rfcommMxRlsLen then pure (.reject, frame)
  else
    Reads.getN pData rfcommMxRlsLen >>= fun bytes =>
      let frame := { frame with
        dlci := octet bytes 0 >>> rfcommShiftDlci
        rls := { lineStatus := octet bytes 1 &&& ~~~0x01 } }
      pure (if !dlciOctetOk (octet bytes 0) then .reject else .rls, frame)

/-- `case RFCOMM_MX_NSC`: one octet, and only as a command. -/
def mxParseNsc (frame : MxFrame) (isCommand : Bool) (pData length : ℕ) : Reads UInt8 (MxAction × MxFrame) :=
  if length ≠ rfcommMxNscLen ∨ !isCommand then pure (.reject, frame)
  else
    Reads.get pData >>= fun b =>
      pure (.nsc, { frame with
        nsc :=
          { ea := b &&& rfcommEa
            cr := (b &&& rfcommCrMask) >>> rfcommShiftCr
            type := b >>> rfcommShiftDlci } })

/-- The `switch` on the command type, at `pData` with `length` octets left, for a
buffer with window `(offset, len)`. -/
def rfcMxCommand (frame : MxFrame) (isCommand : Bool) (mxLen : UInt8) (pData length offset len : ℕ) :
    Reads UInt8 MxResult :=
  let result := fun (parsed : MxAction × MxFrame) => MxResult.mk parsed.1 isCommand parsed.2 offset len
  if frame.type = rfcommMxPn then mxParsePn frame pData length >>= fun parsed => pure (result parsed)
  else if frame.type = rfcommMxTest then
    if length = 0 then pure (result (.reject, frame))
    -- the handler gets the buffer with `offset` and `len` moved by two
    else pure ⟨.test, isCommand, { frame with test := ⟨pData, length⟩ }, offset + 2, len - 2⟩
  else if frame.type = rfcommMxFcon then
    pure (result (if length ≠ rfcommMxFconLen then .reject else .fcon, frame))
  else if frame.type = rfcommMxFcoff then
    pure (result (if length ≠ rfcommMxFcoffLen then .reject else .fcoff, frame))
  else if frame.type = rfcommMxMsc then
    if length ≠ rfcommMxMscLenWithBreak ∧ length ≠ rfcommMxMscLenNoBreak then pure (result (.drop, frame))
    else mxParseMsc frame pData length mxLen >>= fun parsed => pure (result parsed)
  else if frame.type = rfcommMxNsc then
    mxParseNsc frame isCommand pData length >>= fun parsed => pure (result parsed)
  else if frame.type = rfcommMxRpn then mxParseRpn frame pData length >>= fun parsed => pure (result parsed)
  else if frame.type = rfcommMxRls then mxParseRls frame pData length >>= fun parsed => pure (result parsed)
  else pure (result (.reject, frame))

/-- The length field after the type octet: `mx_len` is a `uint8_t`, so a second
octet adds its low bit only; with the octets it used, what is left must be
`mx_len`. -/
def rfcMxLength (frame : MxFrame) (isCommand : Bool) (offset len : ℕ) (lengthOctet : UInt8) :
    Reads UInt8 MxResult :=
  let mxLen := lengthOctet >>> rfcommShiftLength1
  let body := fun (mxLen : UInt8) (pData length : ℕ) =>
    if mxLen.toNat ≠ length then pure ⟨.drop, isCommand, frame, offset, len⟩
    else rfcMxCommand frame isCommand mxLen pData length offset len
  if lengthOctet &&& rfcommEa = 0 then
    if len - 2 < 1 then pure ⟨.drop, isCommand, frame, offset, len⟩
    else Reads.get (offset + 2) >>= fun second => body (mxLen + (second <<< rfcommShiftLength2.toUInt8)) (offset + 3) (len - 3)
  else body mxLen (offset + 2) (len - 2)

/-- The fields of the type octet. -/
def mxTypeFields (frame : MxFrame) (typeOctet : UInt8) : MxFrame :=
  { frame with
    ea := typeOctet &&& rfcommEa
    cr := (typeOctet &&& rfcommCrMask) >>> rfcommShiftCr
    type := typeOctet &&& ~~~(rfcommCrMask ||| rfcommEaMask) }

/-- `rfc_process_mx_message(p_mcb, p_buf)` on the window `[offset, offset + len)`,
with `rx_frame` as `frame`. -/
def rfcProcessMxMessage (frame : MxFrame) (offset len : ℕ) : Reads UInt8 MxResult :=
  if len < 2 then pure ⟨.drop, false, frame, offset, len⟩
  else
    Reads.get offset >>= fun typeOctet =>
      let frame := mxTypeFields frame typeOctet
      -- `!length` cannot hold past the first test
      if frame.ea = 0 then pure ⟨.drop, false, frame, offset, len⟩
      else Reads.get (offset + 1) >>= rfcMxLength frame (frame.cr != 0) offset len

/-- `RFCOMM_BufDataInd(lcid, p_buf)` as far as the octets of the frame go: the
parse, and for a UIH frame on the multiplexer's DLCI the multiplexer command on
the window the parse left. -/
def rfcommBufDataInd (mcb : RfcMcb) (frame : MxFrame) (offset len : ℕ) :
    Reads UInt8 (RfcParse × Option MxResult) :=
  rfcParseData mcb frame offset len >>= fun parsed =>
    if parsed.event ≠ .badFrame ∧ parsed.frame.dlci = rfcommMxDlci ∧ parsed.event = .uih then
      rfcProcessMxMessage parsed.frame parsed.offset parsed.len >>= fun mx => pure (parsed, some mx)
    else pure (parsed, none)

/-! ## Each command reads its own octets -/

section Commands

variable (frame : MxFrame) (pData length : ℕ)

theorem within_mxParsePn : Reads.Within pData (pData + length) (mxParsePn frame pData length) := by
  refine Reads.within_ite (fun _ => Reads.within_pure _) fun eight => ?_
  rw [not_not] at eight
  rw [eight]
  exact (Reads.within_getN pData rfcommMxPnLen).bind fun _ => Reads.within_pure _

theorem within_mxParseMsc (mxLen : UInt8) (two : 2 ≤ length) :
    Reads.Within pData (pData + length) (mxParseMsc frame pData length mxLen) := by
  refine Reads.within_get_bind (Nat.le_refl _) (by omega) fun b => ?_
  refine Reads.within_ite (fun _ => Reads.within_pure _) fun _ => ?_
  exact ((Reads.within_getN (pData + 1) (length - 1)).mono (by omega) (by omega)).bind fun _ => Reads.within_pure _

theorem within_mxParseRpn : Reads.Within pData (pData + length) (mxParseRpn frame pData length) := by
  refine Reads.within_ite (fun _ => Reads.within_pure _) fun sized => ?_
  have long : 1 ≤ length := by
    unfold rfcommMxRpnReqLen rfcommMxRpnLen at sized
    omega
  refine Reads.within_get_bind (Nat.le_refl _) (by omega) fun b => ?_
  refine Reads.within_ite (fun _ => Reads.within_pure _) fun _ => ?_
  refine Reads.within_ite (fun _ => Reads.within_pure _) fun full => ?_
  -- a full RPN has eight octets
  have notRequest : length ≠ rfcommMxRpnReqLen := fun request => full (decide_eq_true request)
  have eight : length = rfcommMxRpnLen := by
    unfold rfcommMxRpnReqLen at sized notRequest
    omega
  exact ((Reads.within_getN (pData + 1) (rfcommMxRpnLen - 1)).mono (by omega) (by unfold rfcommMxRpnLen at eight ⊢; omega)).bind
    fun _ => Reads.within_pure _

theorem within_mxParseRls : Reads.Within pData (pData + length) (mxParseRls frame pData length) := by
  refine Reads.within_ite (fun _ => Reads.within_pure _) fun two => ?_
  rw [not_not] at two
  rw [two]
  exact (Reads.within_getN pData rfcommMxRlsLen).bind fun _ => Reads.within_pure _

theorem within_mxParseNsc (isCommand : Bool) :
    Reads.Within pData (pData + length) (mxParseNsc frame isCommand pData length) := by
  refine Reads.within_ite (fun _ => Reads.within_pure _) fun one => ?_
  have one : length = 1 := by
    unfold rfcommMxNscLen at one
    omega
  exact Reads.within_get_bind (Nat.le_refl _) (by omega) fun _ => Reads.within_pure _

/-- **Each command reads only the octets the length field gave it.** -/
theorem within_rfcMxCommand (isCommand : Bool) (mxLen : UInt8) (offset len : ℕ) :
    Reads.Within pData (pData + length) (rfcMxCommand frame isCommand mxLen pData length offset len) := by
  unfold rfcMxCommand
  refine Reads.within_ite (fun _ => (within_mxParsePn frame pData length).bind fun _ => Reads.within_pure _)
    fun _ => ?_
  refine Reads.within_ite (fun _ => Reads.within_ite (fun _ => Reads.within_pure _) fun _ => Reads.within_pure _)
    fun _ => ?_
  refine Reads.within_ite (fun _ => Reads.within_pure _) fun _ => ?_
  refine Reads.within_ite (fun _ => Reads.within_pure _) fun _ => ?_
  refine Reads.within_ite (fun _ => ?_) fun _ => ?_
  · -- MSC, of two or three octets
    refine Reads.within_ite (fun _ => Reads.within_pure _) fun sized => ?_
    have two : 2 ≤ length := by
      unfold rfcommMxMscLenWithBreak rfcommMxMscLenNoBreak at sized
      omega
    exact (within_mxParseMsc frame pData length mxLen two).bind fun _ => Reads.within_pure _
  refine Reads.within_ite (fun _ => (within_mxParseNsc frame pData length isCommand).bind fun _ => Reads.within_pure _)
    fun _ => ?_
  refine Reads.within_ite (fun _ => (within_mxParseRpn frame pData length).bind fun _ => Reads.within_pure _)
    fun _ => ?_
  exact Reads.within_ite (fun _ => (within_mxParseRls frame pData length).bind fun _ => Reads.within_pure _)
    fun _ => Reads.within_pure _

end Commands

/-! ## The header of a multiplexer command, and the pipeline -/

theorem within_rfcMxLength (frame : MxFrame) (isCommand : Bool) {offset len : ℕ} (long : 2 ≤ len)
    (lengthOctet : UInt8) :
    Reads.Within offset (offset + len) (rfcMxLength frame isCommand offset len lengthOctet) := by
  unfold rfcMxLength
  refine Reads.within_ite (fun _ => ?_) fun _ => ?_
  · -- two length octets: the command starts three octets in
    refine Reads.within_ite (fun _ => Reads.within_pure _) fun room => ?_
    refine Reads.within_get_bind (by omega) (by omega) fun second => ?_
    exact Reads.within_ite (fun _ => Reads.within_pure _) fun _ =>
      (within_rfcMxCommand frame (offset + 3) (len - 3) isCommand _ offset len).mono (by omega) (by omega)
  · refine Reads.within_ite (fun _ => Reads.within_pure _) fun same => ?_
    -- the length field matched what is left, so at least the command fits
    exact (within_rfcMxCommand frame (offset + 2) (len - 2) isCommand _ offset len).mono (by omega)
      (by rw [not_not] at same; omega)

/-- **`rfc_process_mx_message` reads only its window.** -/
theorem within_rfcProcessMxMessage (frame : MxFrame) (offset len : ℕ) :
    Reads.Within offset (offset + len) (rfcProcessMxMessage frame offset len) := by
  unfold rfcProcessMxMessage
  refine Reads.within_ite (fun _ => Reads.within_pure _) fun long => ?_
  refine Reads.within_get_bind (Nat.le_refl _) (by omega) fun typeOctet => ?_
  exact Reads.within_ite (fun _ => Reads.within_pure _) fun _ =>
    Reads.within_get_bind (by omega) (by omega) (within_rfcMxLength _ _ (by omega))

/-- The window of a frame the parse does not call bad lies in the frame's. -/
theorem window_of_tiles {offset len : ℕ} {parsed : RfcParse} (tiles : Tiles offset len parsed)
    (notBad : parsed.event ≠ .badFrame) : offset ≤ parsed.offset ∧ parsed.offset + parsed.len ≤ offset + len := by
  obtain ⟨ext, -, cred, -, offsetEq, tiled⟩ := tiles notBad
  omega

/-- **The parse and the multiplexer command read only the frame's window.** -/
theorem within_rfcommBufDataInd (mcb : RfcMcb) (frame : MxFrame) (offset len : ℕ) :
    Reads.Within offset (offset + len) (rfcommBufDataInd mcb frame offset len) := by
  refine (within_rfcParseData mcb frame offset len).bind_returns (returns_rfcParseData mcb frame offset len)
    fun parsed tiles => ?_
  refine Reads.within_ite (fun accepted => ?_) fun _ => Reads.within_pure _
  obtain ⟨low, high⟩ := window_of_tiles tiles accepted.1
  exact ((within_rfcProcessMxMessage parsed.frame parsed.offset parsed.len).mono low high).bind
    fun _ => Reads.within_pure _

/-! ## The codec -/

theorem rfcomm_codec_round_trip :
    -- a UIH frame is parsed back, unless it carries credits to a receiver without
    -- credit-based flow control, which calls it bad
    (∀ (sender receiver : RfcMcb) (frame : MxFrame) (d : UInt8) (buf : BtHdr) (mem : ℕ → UInt8) (r : ℕ),
      validDlci d = true → buf.len ≤ 32767 → 5 ≤ buf.offset → buf.offset + buf.len < buf.data.length →
      (∀ k < (rfcSendBufUih sender d buf).len,
        mem (r + k) = (rfcSendBufUih sender d buf).mem ((rfcSendBufUih sender d buf).offset + k)) →
      ((uihCredits d buf = 0 ∨ receiver.flow = portFcCredit) →
        (rfcParseData receiver frame r (rfcSendBufUih sender d buf).len).value mem =
            ⟨.uih,
              { frame with
                cr := rfcommCr sender.isInitiator true >>> 1
                dlci := d
                type := rfcommUih
                pf := if uihCredits d buf ≠ 0 then 1 else 0
                credit := uihCredits d buf },
              r + (sentHeader sender d buf).length, buf.len⟩ ∧
          ∀ k < buf.len, mem (r + (sentHeader sender d buf).length + k) = buf.mem (buf.offset + k)) ∧
      (uihCredits d buf ≠ 0 → receiver.flow ≠ portFcCredit →
        ((rfcParseData receiver frame r (rfcSendBufUih sender d buf).len).value mem).event = .badFrame)) ∧
    -- SABME, UA, DM and DISC are parsed back by the other side
    (∀ (initiator : Bool) (flow : UInt8) (receiver : RfcMcb) (frame : MxFrame) (d : UInt8) (mem : ℕ → UInt8)
        (r : ℕ) (pf : Bool),
      receiver.isInitiator = !initiator → validDlci d = true →
      ((∀ k < 4, mem (r + k) = (rfcSendSabme ⟨initiator, flow⟩ d).getD k 0) →
        (rfcParseData receiver frame r 4).value mem =
          ⟨.sabme,
            { frame with cr := rfcommCr initiator true >>> 1, dlci := d, type := rfcommSabme, pf := 1, credit := 0 },
            r + 3, 0⟩) ∧
      ((∀ k < 4, mem (r + k) = (rfcSendUa ⟨initiator, flow⟩ d).getD k 0) →
        (rfcParseData receiver frame r 4).value mem =
          ⟨.ua, { frame with cr := rfcommCr initiator false >>> 1, dlci := d, type := rfcommUa, pf := 1, credit := 0 },
            r + 3, 0⟩) ∧
      ((∀ k < 4, mem (r + k) = (rfcSendDm ⟨initiator, flow⟩ d pf).getD k 0) →
        (rfcParseData receiver frame r 4).value mem =
          ⟨.dm,
            { frame with
              cr := rfcommCr initiator false >>> 1
              dlci := d
              type := rfcommDm
              pf := if pf then 1 else 0
              credit := 0 }, r + 3, 0⟩) ∧
      ((∀ k < 4, mem (r + k) = (rfcSendDisc ⟨initiator, flow⟩ d).getD k 0) →
        (rfcParseData receiver frame r 4).value mem =
          ⟨.disc,
            { frame with cr := rfcommCr initiator true >>> 1, dlci := d, type := rfcommDisc, pf := 1, credit := 0 },
            r + 3, 0⟩)) ∧
    -- the parse and the multiplexer command read only the window, and what is
    -- accepted tiles it
    (∀ (mcb : RfcMcb) (frame : MxFrame) (offset len : ℕ) (mem : ℕ → UInt8),
      (∀ i ∈ (rfcommBufDataInd mcb frame offset len).footprint mem, offset ≤ i ∧ i < offset + len) ∧
        Tiles offset len ((rfcParseData mcb frame offset len).value mem)) ∧
    -- the check holds exactly of the calculated FCS
    (∀ (mem : ℕ → UInt8) (k p : ℕ) (f : UInt8), (rfcCheckFcs k p f).value mem = true ↔ f = (rfcCalcFcs k p).value mem) := by
  refine ⟨?_, ?_, ?_, rfcCheckFcs_iff⟩
  · intro sender receiver frame d buf mem r valid fits headroom room recv
    exact ⟨rfcSendBufUih_parsed sender receiver frame d buf valid fits headroom room recv,
      rfcSendBufUih_bad sender receiver frame d buf valid fits headroom room recv⟩
  · intro initiator flow receiver frame d mem r pf opposite valid
    exact ⟨rfcSendSabme_parsed receiver frame initiator flow opposite valid,
      rfcSendUa_parsed receiver frame initiator flow opposite valid,
      rfcSendDm_parsed receiver frame initiator flow opposite valid pf,
      rfcSendDisc_parsed receiver frame initiator flow opposite valid⟩
  · intro mcb frame offset len mem
    exact ⟨(within_rfcommBufDataInd mcb frame offset len).footprint mem,
      (returns_rfcParseData mcb frame offset len).value mem⟩

theorem rfcomm_codec_round_trip_one_octet :
    ((rfcParseData ⟨false, portFcCredit⟩ zeroFrame (rfcSendBufUih ⟨true, portFcCredit⟩ 2 ⟨[0, 0, 0, 0, 0, 7, 0], 5, 1, 3⟩).offset
        (rfcSendBufUih ⟨true, portFcCredit⟩ 2 ⟨[0, 0, 0, 0, 0, 7, 0], 5, 1, 3⟩).len).value
      (rfcSendBufUih ⟨true, portFcCredit⟩ 2 ⟨[0, 0, 0, 0, 0, 7, 0], 5, 1, 3⟩).mem).event = .uih := by
  rw [((rfcomm_codec_round_trip.1 ⟨true, portFcCredit⟩ ⟨false, portFcCredit⟩ zeroFrame 2 ⟨[0, 0, 0, 0, 0, 7, 0], 5, 1, 3⟩
    _ _ (by decide) (by decide) (by decide) (by decide) fun _ _ => rfl).1 (.inr rfl)).1]

end Bluedroid.Rfcomm
