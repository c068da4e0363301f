import Bluedroid.Rfcomm.Frames

/-!
# Rfcomm.Codec -- a sent frame is parsed back, and the parser stays in its window

The sender's side: `mem_rfcSendBufUih` says where `rfc_send_buf_uih` puts the
header, the payload and the FCS, and `rfcSendBufUih_onWire` turns that into
what the receiver holds, `UihOnWire`.  The receiver's side: the header, the
credit and the tail of `rfc_parse_data` each get a value lemma, and
`rfcParseData_uih` parses a UIH frame back to its event, its header fields, its
credit and the window of its payload, when the frame has no credit or the
receiver runs credit-based flow control.  With credits and without that flow
control the receiver does not expect the credit octet, and the frame is bad
(`rfcParseData_uih_bad`).  `rfcSendSabme_parsed`, `rfcSendUa_parsed`,
`rfcSendDm_parsed` and `rfcSendDisc_parsed` are the control frames, parsed by
the side with the other `is_initiator`.

Whatever the buffer holds, the parser reads only its window
(`within_rfcParseData`), and a frame it does not call bad is tiled by header,
credit, information field and FCS (`returns_rfcParseData`).
-/

namespace Bluedroid.Rfcomm

open Bluedroid.Theory

set_option autoImplicit false

/-! ## The octets the sender writes -/

theorem getD_set_eq (l : List UInt8) (j i : ℕ) (v : UInt8) :
    (l.set j v).getD i 0 = if i = j ∧ j < l.length then v else l.getD i 0 := by
  simp only [List.getD_eq_getElem?_getD, List.getElem?_set]
  split_ifs with h1 h2 h2 <;> simp_all

theorem getD_writeOctets : ∀ (bytes data : List UInt8) (start i : ℕ), start + bytes.length ≤ data.length →
    (writeOctets data start bytes).getD i 0 =
      if start ≤ i ∧ i < start + bytes.length then bytes.getD (i - start) 0 else data.getD i 0
  | [], data, start, i, _ => by
    rw [writeOctets, if_neg (by simp)]
  | b :: bytes, data, start, i, fits => by
    have longer : start + 1 + bytes.length ≤ (data.set start b).length := by
      rw [List.length_set]
      simp only [List.length_cons] at fits
      omega
    rw [writeOctets, getD_writeOctets bytes _ _ i longer, getD_set_eq]
    simp only [List.length_cons] at fits ⊢
    by_cases here : i = start
    · subst here
      rw [if_neg (by omega), if_pos ⟨rfl, by omega⟩, if_pos ⟨Nat.le_refl i, by omega⟩, Nat.sub_self]
      rfl
    · by_cases after : start + 1 ≤ i ∧ i < start + 1 + bytes.length
      · rw [if_pos after, if_pos (by omega), show i - start = (i - (start + 1)) + 1 by omega]
        rfl
      · rw [if_neg after, if_neg (by omega), if_neg (by omega)]

theorem length_uihLengthOctets (len : ℕ) :
    (uihLengthOctets len).length = if len > 127 then 2 else 1 := by
  unfold uihLengthOctets
  split_ifs <;> first | rfl | omega

theorem length_uihHeader (cr dlci credits : UInt8) (len : ℕ) :
    (uihHeader cr dlci credits len).length =
      3 + (if len > 127 then 1 else 0) + (if credits ≠ 0 then 1 else 0) := by
  simp only [uihHeader, List.length_cons, List.length_append, length_uihLengthOctets]
  split_ifs <;> simp_all

@[simp] theorem length_writeOctets : ∀ (bytes data : List UInt8) (start : ℕ),
    (writeOctets data start bytes).length = data.length
  | [], _, _ => rfl
  | b :: bytes, data, start => by rw [writeOctets, length_writeOctets, List.length_set]

section Sending

variable (mcb : RfcMcb) (dlci : UInt8) (buf : BtHdr)

/-- The header `rfc_send_buf_uih` writes for `buf`. -/
def sentHeader : List UInt8 := uihHeader (rfcommCr mcb.isInitiator true) dlci (uihCredits dlci buf) buf.len

theorem offset_rfcSendBufUih (headroom : 5 ≤ buf.offset) :
    (rfcSendBufUih mcb dlci buf).offset + (sentHeader mcb dlci buf).length = buf.offset := by
  simp only [rfcSendBufUih, sentHeader, length_uihHeader, rfcommCtrlFrameLen]
  split_ifs <;> omega

theorem len_rfcSendBufUih :
    (rfcSendBufUih mcb dlci buf).len = buf.len + (sentHeader mcb dlci buf).length + 1 := rfl

theorem data_rfcSendBufUih : (rfcSendBufUih mcb dlci buf).data =
    let o := (rfcSendBufUih mcb dlci buf).offset
    let data := writeOctets buf.data o (sentHeader mcb dlci buf)
    data.set (o + (buf.len + (sentHeader mcb dlci buf).length)) ((rfcCalcFcs 2 o).value fun i => data.getD i 0) :=
  rfl

/-- The octets of the buffer `rfc_send_buf_uih` returns: the header from the
new `offset`, the payload where it was, and the FCS after it. -/
theorem mem_rfcSendBufUih (headroom : 5 ≤ buf.offset) (room : buf.offset + buf.len < buf.data.length) (k : ℕ) :
    (rfcSendBufUih mcb dlci buf).mem ((rfcSendBufUih mcb dlci buf).offset + k) =
      if k < (sentHeader mcb dlci buf).length then (sentHeader mcb dlci buf).getD k 0
      else if k = (sentHeader mcb dlci buf).length + buf.len then
        0xFF - crcStep (crcStep 0xFF ((sentHeader mcb dlci buf).getD 0 0)) ((sentHeader mcb dlci buf).getD 1 0)
      else buf.mem ((rfcSendBufUih mcb dlci buf).offset + k) := by
  have start := offset_rfcSendBufUih mcb dlci buf headroom
  have long : 3 ≤ (sentHeader mcb dlci buf).length := by
    rw [sentHeader, length_uihHeader]
    omega
  have fits : (rfcSendBufUih mcb dlci buf).offset + (sentHeader mcb dlci buf).length ≤ buf.data.length := by
    omega
  rw [BtHdr.mem, data_rfcSendBufUih]
  dsimp only
  generalize (rfcSendBufUih mcb dlci buf).offset = o at start fits ⊢
  generalize (sentHeader mcb dlci buf) = header at start long fits ⊢
  rw [getD_set_eq, length_writeOctets, value_rfcCalcFcs, getD_writeOctets _ _ _ _ fits]
  simp only [List.range_succ, List.range_zero, List.map_append, List.map_nil, List.map_cons, List.nil_append,
    List.foldl_append, List.foldl_cons, List.foldl_nil, Nat.add_zero, getD_writeOctets _ _ _ _ fits]
  by_cases inHeader : k < header.length
  · rw [if_neg (by omega), if_pos inHeader, if_pos ⟨by omega, by omega⟩, Nat.add_sub_cancel_left]
  · rw [if_neg inHeader]
    by_cases last : k = header.length + buf.len
    · rw [if_pos ⟨by omega, by omega⟩, if_pos last, if_pos ⟨by omega, by omega⟩, if_pos ⟨by omega, by omega⟩,
        Nat.add_sub_cancel_left, Nat.sub_self]
    · rw [if_neg (by omega), if_neg last, if_neg (by omega)]
      rfl

end Sending

/-! ## Fields of the octets the sender writes -/

theorem addressOctet_fields {d cr : UInt8} (below : d < 64) (crBit : cr = 0 ∨ cr = 2) :
    addressOctet cr d &&& rfcommEa = 1 ∧ (addressOctet cr d &&& rfcommCrMask) >>> rfcommShiftCr = cr >>> 1 ∧
      addressOctet cr d >>> rfcommShiftDlci = d := by
  revert below
  rcases crBit with rfl | rfl <;>
  · cases d with
    | ofBitVec d =>
      cases d with
      | ofFin d =>
        revert d
        decide +kernel

theorem controlOctet_fields (credits : UInt8) :
    (rfcommUih ||| if credits ≠ 0 then rfcommPf else 0) &&& ~~~rfcommPfMask = rfcommUih ∧
      ((rfcommUih ||| if credits ≠ 0 then rfcommPf else 0) &&& rfcommPfMask) >>> rfcommPfOffset =
        if credits ≠ 0 then 1 else 0 := by
  split_ifs <;> decide

theorem oneLengthOctet_fields {n : ℕ} (small : n ≤ 127) :
    (rfcommEa ||| (UInt8.ofNat n <<< 1)) &&& rfcommEa ≠ 0 ∧
      ((rfcommEa ||| (UInt8.ofNat n <<< 1)) >>> rfcommShiftLength1).toNat = n := by
  have octets : ∀ n < 128, (rfcommEa ||| (UInt8.ofNat n <<< 1)) &&& rfcommEa ≠ 0 ∧
      ((rfcommEa ||| (UInt8.ofNat n <<< 1)) >>> rfcommShiftLength1).toNat = n := by
    decide +kernel
  exact octets n (by omega)

theorem twoLengthOctets_fields {n : ℕ} (fits : n ≤ 32767) :
    UInt8.ofNat ((n &&& 0x7f) <<< 1) &&& rfcommEa = 0 ∧
      (UInt8.ofNat ((n &&& 0x7f) <<< 1) >>> rfcommShiftLength1).toNat +
        ((UInt8.ofNat (n >>> rfcommShiftLength2)).toNat <<< rfcommShiftLength2) = n := by
  have low : (n &&& 0x7f) <<< 1 = n % 128 * 2 := by
    rw [Nat.shiftLeft_eq, show (0x7f : ℕ) = 2 ^ 7 - 1 from rfl, Nat.and_two_pow_sub_one_eq_mod]
  have lowOctet : (UInt8.ofNat ((n &&& 0x7f) <<< 1)).toNat = n % 128 * 2 := by
    rw [UInt8.toNat_ofNat', low]
    omega
  have highOctet : (UInt8.ofNat (n >>> rfcommShiftLength2)).toNat = n / 128 := by
    rw [UInt8.toNat_ofNat', rfcommShiftLength2, Nat.shiftRight_eq_div_pow]
    omega
  constructor
  · rw [← UInt8.toNat_inj, UInt8.toNat_and, lowOctet, show (rfcommEa).toNat = 2 ^ 1 - 1 from rfl,
      Nat.and_two_pow_sub_one_eq_mod]
    simp only [UInt8.toNat_zero]
    omega
  · rw [UInt8.toNat_shiftRight, lowOctet, highOctet, rfcommShiftLength2, Nat.shiftLeft_eq,
      show (rfcommShiftLength1).toNat % 8 = 1 from rfl, Nat.shiftRight_eq_div_pow]
    omega

/-! ## Parsing what was sent -/

theorem value_rfcCheckFcs_two {mem : ℕ → UInt8} {r : ℕ} {a c fcs : UInt8} (first : mem r = a) (second : mem (r + 1) = c)
    (sent : fcs = 0xFF - crcStep (crcStep 0xFF a) c) : (rfcCheckFcs 2 r fcs).value mem = true := by
  rw [rfcCheckFcs_iff, value_rfcCalcFcs, sent]
  simp [List.range_succ, first, second]

section Parsing

variable (mcb : RfcMcb) (frame : MxFrame) {mem : ℕ → UInt8} {r len : ℕ} {address control lengthOctet : UInt8}

theorem value_rfcLengthField_one (eal : lengthOctet &&& rfcommEa ≠ 0) :
    (rfcLengthField r lengthOctet).value mem = (lengthOctet >>> rfcommShiftLength1).toNat := by
  rw [rfcLengthField, if_neg eal, Reads.value_pure]

theorem value_rfcLengthField_two (eal : lengthOctet &&& rfcommEa = 0) :
    (rfcLengthField r lengthOctet).value mem =
      (lengthOctet >>> rfcommShiftLength1).toNat + ((mem (r + 3)).toNat <<< rfcommShiftLength2) := by
  rw [rfcLengthField, if_pos eal, Reads.value_bind, Reads.value_get, Reads.value_pure]

/-- The header of a frame with a one-octet length: the parse goes on to the
credit, three octets in. -/
theorem value_rfcParseData_one (first : mem r = address) (ea : address &&& rfcommEa ≠ 0)
    (second : mem (r + 1) = control) (third : mem (r + 2) = lengthOctet) (eal : lengthOctet &&& rfcommEa ≠ 0)
    (long : 4 ≤ len) :
    (rfcParseData mcb frame r len).value mem =
      (rfcParseCredit mcb (parsedHeader frame address control) r (r + 3) (len - 4)
        (lengthOctet >>> rfcommShiftLength1).toNat).value mem := by
  simp only [rfcParseData, Reads.value_ite, Reads.value_bind, Reads.value_get, first, second, third, if_neg ea,
    value_rfcLengthField_one eal, eal, false_and, if_false]
  rw [if_neg (by unfold rfcommCtrlFrameLen; omega), if_neg (by unfold rfcommCtrlFrameLen; omega)]
  rfl

/-- The header of a frame with a two-octet length: the parse goes on to the
credit, four octets in. -/
theorem value_rfcParseData_two (first : mem r = address) (ea : address &&& rfcommEa ≠ 0)
    (second : mem (r + 1) = control) (third : mem (r + 2) = lengthOctet) (eal : lengthOctet &&& rfcommEa = 0)
    (long : 5 ≤ len) :
    (rfcParseData mcb frame r len).value mem =
      (rfcParseCredit mcb (parsedHeader frame address control) r (r + 4) (len - 5)
        ((lengthOctet >>> rfcommShiftLength1).toNat + ((mem (r + 3)).toNat <<< rfcommShiftLength2))).value mem := by
  simp only [rfcParseData, Reads.value_ite, Reads.value_bind, Reads.value_get, first, second, third, if_neg ea,
    value_rfcLengthField_two eal, eal, true_and, if_true]
  rw [if_neg (by unfold rfcommCtrlFrameLen; omega), if_neg (by unfold rfcommCtrlFrameLen; omega),
    if_neg (by unfold rfcommCtrlFrameLen; omega)]
  rfl

theorem value_rfcParseCredit_none {pStart pData length : ℕ}
    (noCredit : ¬(mcb.flow = portFcCredit ∧ frame.type = rfcommUih ∧ frame.dlci ≠ rfcommMxDlci ∧ frame.pf = 1)) :
    (rfcParseCredit mcb frame pStart pData len length).value mem =
      (rfcParseTail mcb { frame with credit := 0 } pStart pData len length).value mem := by
  rw [rfcParseCredit, if_neg noCredit]

theorem value_rfcParseCredit_some {pStart pData length : ℕ}
    (hasCredit : mcb.flow = portFcCredit ∧ frame.type = rfcommUih ∧ frame.dlci ≠ rfcommMxDlci ∧ frame.pf = 1)
    (room : 1 ≤ len) :
    (rfcParseCredit mcb frame pStart pData len length).value mem =
      (rfcParseTail mcb { frame with credit := mem pData } pStart (pData + 1) (len - 1) length).value mem := by
  rw [rfcParseCredit, if_pos hasCredit, Reads.value_ite, if_neg (by omega), Reads.value_bind, Reads.value_get]

theorem value_rfcParseTail {pStart pData length : ℕ} (same : len = length) :
    (rfcParseTail mcb frame pStart pData len length).value mem =
      ⟨(rfcFrameEvent mcb frame length pStart (mem (pData + length))).value mem, frame, pData, len⟩ := by
  rw [rfcParseTail, Reads.value_ite, if_neg (not_not.mpr same), Reads.value_bind, Reads.value_get,
    Reads.value_bind, Reads.value_pure]

theorem value_rfcParseTail_ne {pStart pData length : ℕ} (differ : len ≠ length) :
    (rfcParseTail mcb frame pStart pData len length).value mem = ⟨.badFrame, frame, pData, len⟩ := by
  rw [rfcParseTail, if_pos differ, Reads.value_pure]

/-- A UIH frame with a valid DLCI and the FCS of its address and control is
accepted, from either side. -/
theorem value_rfcFrameEvent_uih {length pStart : ℕ} {fcs : UInt8} (uih : frame.type = rfcommUih)
    (valid : validDlci frame.dlci = true) (fcsOk : (rfcCheckFcs 2 pStart fcs).value mem = true) :
    (rfcFrameEvent mcb frame length pStart fcs).value mem = .uih := by
  rw [rfcFrameEvent, uih, if_neg (by decide), if_neg (by decide), if_neg (by decide), if_neg (by decide),
    if_pos rfl, Reads.value_ite, if_neg (by rw [valid]; decide), Reads.value_bind, fcsOk, Reads.value_pure,
    if_pos rfl]

end Parsing

/-! ## A UIH frame on the wire -/

/-- The control octet of a UIH frame: P/F set when it carries credits. -/
theorem uihHeader_getD_one (cr d credits : UInt8) (n : ℕ) :
    (uihHeader cr d credits n).getD 1 0 = rfcommUih ||| if credits ≠ 0 then rfcommPf else 0 := rfl

/-- The octets at `r` of a memory that holds a UIH frame as `rfc_send_buf_uih`
lays it out: the header of an `n`-octet payload, and the FCS after the
payload. -/
structure UihOnWire (mem : ℕ → UInt8) (r : ℕ) (cr d credits : UInt8) (n : ℕ) : Prop where
  header : ∀ k < (uihHeader cr d credits n).length, mem (r + k) = (uihHeader cr d credits n).getD k 0
  fcs : mem (r + (uihHeader cr d credits n).length + n) =
    0xFF - crcStep (crcStep 0xFF (addressOctet cr d)) (rfcommUih ||| if credits ≠ 0 then rfcommPf else 0)

theorem parsedHeader_uih (frame : MxFrame) {cr d : UInt8} (credits : UInt8) (below : d < 64)
    (crBit : cr = 0 ∨ cr = 2) :
    parsedHeader frame (addressOctet cr d) (rfcommUih ||| if credits ≠ 0 then rfcommPf else 0) =
      { frame with cr := cr >>> 1, dlci := d, type := rfcommUih, pf := if credits ≠ 0 then 1 else 0 } := by
  obtain ⟨-, crField, dlciField⟩ := addressOctet_fields below crBit
  obtain ⟨typeField, pfField⟩ := controlOctet_fields credits
  rw [parsedHeader, crField, dlciField, typeField, pfField]

theorem lt_of_validDlci {d : UInt8} (valid : validDlci d = true) : d < 64 := by
  revert valid
  cases d with
  | ofBitVec d =>
    cases d with
    | ofFin d =>
      revert d
      decide +kernel

/-- The credit octet closes the header. -/
theorem uihHeader_getD_credit (cr d : UInt8) {credits : UInt8} (n : ℕ) (hc : credits ≠ 0) :
    (uihHeader cr d credits n).getD (3 + if n > 127 then 1 else 0) 0 = credits := by
  unfold uihHeader uihLengthOctets
  by_cases small : n ≤ 127
  · rw [if_pos small, if_neg (show ¬n > 127 by omega), if_pos hc, if_pos hc]
    rfl
  · rw [if_neg small, if_pos (show n > 127 by omega), if_pos hc, if_pos hc]
    rfl

/-- **What the receiver of a UIH frame holds**: the octets of the window
`rfc_send_buf_uih` leaves are a UIH frame of the payload, with the payload after
the header. -/
theorem rfcSendBufUih_onWire (mcb : RfcMcb) (dlci : UInt8) (buf : BtHdr) (headroom : 5 ≤ buf.offset)
    (room : buf.offset + buf.len < buf.data.length) {mem : ℕ → UInt8} {r : ℕ}
    (recv : ∀ k < (rfcSendBufUih mcb dlci buf).len,
      mem (r + k) = (rfcSendBufUih mcb dlci buf).mem ((rfcSendBufUih mcb dlci buf).offset + k)) :
    UihOnWire mem r (rfcommCr mcb.isInitiator true) dlci (uihCredits dlci buf) buf.len ∧
      ∀ k < buf.len, mem (r + (sentHeader mcb dlci buf).length + k) = buf.mem (buf.offset + k) := by
  have start := offset_rfcSendBufUih mcb dlci buf headroom
  have total := len_rfcSendBufUih mcb dlci buf
  have octet := mem_rfcSendBufUih mcb dlci buf headroom room
  refine ⟨⟨fun k below => ?_, ?_⟩, fun k below => ?_⟩
  · -- the header
    rw [recv k (by rw [total]; exact Nat.lt_add_one_of_lt (Nat.lt_add_left _ below)), octet, if_pos (show k < (sentHeader mcb dlci buf).length from below)]
    rfl
  · -- the FCS after the payload
    show mem (r + (sentHeader mcb dlci buf).length + buf.len) = _
    rw [Nat.add_assoc, recv _ (by rw [total]; omega), octet, if_neg (by omega), if_pos rfl]
    rfl
  · -- the payload, where it was
    rw [Nat.add_assoc, recv _ (by omega), octet, if_neg (by omega), if_neg (by omega), ← Nat.add_assoc, start]

section Receiving

variable (receiver : RfcMcb) (frame : MxFrame) {mem : ℕ → UInt8} {r : ℕ} {cr d credits : UInt8} {n : ℕ}

/-- The header of a UIH frame: the parse reaches the credit with the length
field read back as `n`. -/
theorem value_rfcParseData_uihHeader (onWire : UihOnWire mem r cr d credits n) (below : d < 64)
    (crBit : cr = 0 ∨ cr = 2) (fits : n ≤ 32767) :
    (rfcParseData receiver frame r ((uihHeader cr d credits n).length + n + 1)).value mem =
      (rfcParseCredit receiver (parsedHeader frame (addressOctet cr d) (rfcommUih ||| if credits ≠ 0 then rfcommPf else 0))
        r (r + (3 + if n > 127 then 1 else 0)) (n + if credits ≠ 0 then 1 else 0) n).value mem := by
  have long := length_uihHeader cr d credits n
  have octet : ∀ k < 3 + (if n > 127 then 1 else 0) + (if credits ≠ 0 then 1 else 0),
      mem (r + k) = (uihHeader cr d credits n).getD k 0 := fun k below => onWire.header k (long ▸ below)
  have first : mem r = addressOctet cr d := octet 0 (by omega)
  have ea : addressOctet cr d &&& rfcommEa ≠ 0 := by
    rw [(addressOctet_fields below crBit).1]
    decide
  have second := octet 1 (by omega)
  by_cases small : n ≤ 127
  · obtain ⟨eal, lengthField⟩ := oneLengthOctet_fields small
    have third : mem (r + 2) = rfcommEa ||| (UInt8.ofNat n <<< 1) := by
      rw [octet 2 (by omega), uihHeader, uihLengthOctets, if_pos small]
      rfl
    rw [value_rfcParseData_one receiver frame first ea second third eal (by omega), lengthField, long,
      if_neg (by omega)]
    congr 2
    omega
  · obtain ⟨eal, lengthField⟩ := twoLengthOctets_fields fits
    have third : mem (r + 2) = UInt8.ofNat ((n &&& 0x7f) <<< 1) := by
      rw [octet 2 (by split_ifs <;> omega), uihHeader, uihLengthOctets, if_neg small]
      rfl
    have fourth : mem (r + 3) = UInt8.ofNat (n >>> rfcommShiftLength2) := by
      rw [octet 3 (by split_ifs <;> omega), uihHeader, uihLengthOctets, if_neg small]
      rfl
    rw [value_rfcParseData_two receiver frame first ea second third eal (by rw [long]; split_ifs <;> omega), fourth,
      lengthField, long, if_pos (by omega)]
    congr 2
    omega

/-- The end of a UIH frame: the information field is as long as the length
field says, and the FCS after it is that of the address and control octets. -/
theorem value_rfcParseTail_uih {F : MxFrame} {pData : ℕ} {address control : UInt8} (uih : F.type = rfcommUih)
    (valid : validDlci F.dlci = true) (first : mem r = address) (second : mem (r + 1) = control)
    (fcsAt : mem (pData + n) = 0xFF - crcStep (crcStep 0xFF address) control) :
    (rfcParseTail receiver F r pData n n).value mem = ⟨.uih, F, pData, n⟩ := by
  rw [value_rfcParseTail receiver F rfl,
    value_rfcFrameEvent_uih receiver F uih valid (value_rfcCheckFcs_two first second fcsAt)]

variable (valid : validDlci d = true) (crBit : cr = 0 ∨ cr = 2) (fits : n ≤ 32767)
include valid crBit fits

/-- **A UIH frame is parsed back** when it has no credit, or the receiver runs
credit-based flow control: the event, the header fields, and the window of
the payload. -/
theorem rfcParseData_uih (onWire : UihOnWire mem r cr d credits n) (noMxCredit : d = rfcommMxDlci → credits = 0)
    (agreed : credits = 0 ∨ receiver.flow = portFcCredit) :
    (rfcParseData receiver frame r ((uihHeader cr d credits n).length + n + 1)).value mem =
      ⟨.uih,
        { frame with
          cr := cr >>> 1
          dlci := d
          type := rfcommUih
          pf := if credits ≠ 0 then 1 else 0
          credit := credits },
        r + (uihHeader cr d credits n).length, n⟩ := by
  have below := lt_of_validDlci valid
  have long := length_uihHeader cr d credits n
  have first : mem r = addressOctet cr d := onWire.header 0 (by omega)
  have second := onWire.header 1 (by omega)
  have fcsAt := onWire.fcs
  rw [value_rfcParseData_uihHeader receiver frame onWire below crBit fits, parsedHeader_uih frame credits below crBit]
  by_cases hc : credits = 0
  · -- no credit octet: the window starts right after the length field
    subst hc
    rw [long] at fcsAt ⊢
    simp only [ne_eq, not_true_eq_false, if_false, Nat.add_zero] at fcsAt ⊢
    rw [value_rfcParseCredit_none receiver _ (by rintro ⟨-, -, -, pf⟩; simp at pf),
      value_rfcParseTail_uih receiver rfl valid first second fcsAt]
  · -- the credit octet, read where the length field ends
    have flow := agreed.resolve_left hc
    have dataChannel : d ≠ rfcommMxDlci := fun mx => hc (noMxCredit mx)
    have creditAt : mem (r + (3 + if n > 127 then 1 else 0)) = credits := by
      rw [onWire.header _ (by rw [long, if_pos hc]; split_ifs <;> omega), uihHeader_getD_credit cr d n hc]
    rw [long, if_pos hc] at fcsAt ⊢
    rw [if_pos hc, value_rfcParseCredit_some receiver _ ⟨flow, rfl, dataChannel, rfl⟩ (by omega), creditAt,
      Nat.add_sub_cancel, Nat.add_assoc r _ 1, value_rfcParseTail_uih receiver rfl valid first second fcsAt]

/-- A UIH frame with credits is bad for a receiver without credit-based flow
control: it does not expect the credit octet, and the length field is one
short of what is left. -/
theorem rfcParseData_uih_bad (onWire : UihOnWire mem r cr d credits n) (hc : credits ≠ 0)
    (flow : receiver.flow ≠ portFcCredit) :
    ((rfcParseData receiver frame r ((uihHeader cr d credits n).length + n + 1)).value mem).event = .badFrame := by
  have below := lt_of_validDlci valid
  rw [value_rfcParseData_uihHeader receiver frame onWire below crBit fits, if_pos hc,
    value_rfcParseCredit_none receiver _ (fun hasCredit => flow hasCredit.1), value_rfcParseTail_ne receiver _ (by simp [hc])]

end Receiving


/-! ## SABME, UA, DM and DISC -/

theorem rfcommCr_bit (initiator isCommand : Bool) : rfcommCr initiator isCommand = 0 ∨ rfcommCr initiator isCommand = 2 := by
  unfold rfcommCr
  split_ifs
  · exact .inr rfl
  · exact .inl rfl

theorem value_rfcCheckFcs_three {mem : ℕ → UInt8} {r : ℕ} {header : List UInt8}
    (sent : ∀ k < 3, mem (r + k) = header.getD k 0) :
    (rfcCheckFcs 3 r ((rfcCalcFcs 3 0).value fun i => header.getD i 0)).value mem = true := by
  have first := sent 0 (by omega)
  have second := sent 1 (by omega)
  have third := sent 2 (by omega)
  rw [Nat.add_zero] at first
  rw [rfcCheckFcs_iff, value_rfcCalcFcs, value_rfcCalcFcs]
  simp only [List.range_succ, List.range_zero, List.nil_append, List.map_append, List.map_cons, List.map_nil,
    List.foldl_append, List.foldl_cons, List.foldl_nil, Nat.zero_add, Nat.add_zero, first, second, third]

/-- A SABME, UA, DM or DISC frame that passes its tests is accepted. -/
theorem value_controlFrameEvent {mem : ℕ → UInt8} {F : MxFrame} {length pStart : ℕ} {fcs : UInt8}
    {wrongSide checksPf : Bool} {event : RfcEvent}
    (accept : (wrongSide || (checksPf && F.pf == 0) || length != 0 || !validDlci F.dlci) = false)
    (fcsOk : (rfcCheckFcs rfcommCtrlFrameLen pStart fcs).value mem = true) :
    (controlFrameEvent F length pStart fcs wrongSide checksPf event).value mem = event := by
  rw [controlFrameEvent, if_neg (by rw [accept]; decide), Reads.value_bind, fcsOk, Reads.value_pure, if_pos rfl]

theorem rfcControlFrame_getD_header {cr d control : UInt8} {k : ℕ} (below : k < 3) :
    (rfcControlFrame cr d control).getD k 0 = [addressOctet cr d, control, rfcommEa ||| 0].getD k 0 := by
  obtain _ | _ | _ | k := k
  · rfl
  · rfl
  · rfl
  · omega

/-- The FCS of a control frame checks. -/
theorem fcsOk_rfcControlFrame {mem : ℕ → UInt8} {r : ℕ} {cr d control : UInt8}
    (onWire : ∀ k < 4, mem (r + k) = (rfcControlFrame cr d control).getD k 0) :
    (rfcCheckFcs rfcommCtrlFrameLen r (mem (r + 3))).value mem = true := by
  rw [onWire 3 (by omega)]
  exact value_rfcCheckFcs_three fun k below => (onWire k (by omega)).trans (rfcControlFrame_getD_header below)

section Control

variable (receiver : RfcMcb) (frame : MxFrame) {mem : ℕ → UInt8} {r : ℕ} {cr d control : UInt8}

/-- The frame a control frame leaves in `rx_frame`: its header fields, no
credit, and an empty window after the length field. -/
theorem value_rfcParseData_control (below : d < 64) (crBit : cr = 0 ∨ cr = 2)
    (notUih : control &&& ~~~rfcommPfMask ≠ rfcommUih)
    (onWire : ∀ k < 4, mem (r + k) = (rfcControlFrame cr d control).getD k 0) :
    (rfcParseData receiver frame r 4).value mem =
      ⟨(rfcFrameEvent receiver
          { frame with
            cr := cr >>> 1
            dlci := d
            type := control &&& ~~~rfcommPfMask
            pf := (control &&& rfcommPfMask) >>> rfcommPfOffset
            credit := 0 } 0 r (mem (r + 3))).value mem,
        { frame with
          cr := cr >>> 1
          dlci := d
          type := control &&& ~~~rfcommPfMask
          pf := (control &&& rfcommPfMask) >>> rfcommPfOffset
          credit := 0 }, r + 3, 0⟩ := by
  have first : mem r = addressOctet cr d := onWire 0 (by omega)
  have second : mem (r + 1) = control := onWire 1 (by omega)
  have third : mem (r + 2) = rfcommEa ||| 0 := onWire 2 (by omega)
  obtain ⟨eaField, crField, dlciField⟩ := addressOctet_fields below crBit
  have ea : addressOctet cr d &&& rfcommEa ≠ 0 := by
    rw [eaField]
    decide
  have empty : ((rfcommEa ||| 0) >>> rfcommShiftLength1).toNat = 0 := by decide
  rw [value_rfcParseData_one receiver frame first ea second third (by decide) (Nat.le_refl 4), empty,
    value_rfcParseCredit_none receiver _ (fun hasCredit => notUih hasCredit.2.1), value_rfcParseTail receiver _ rfl,
    parsedHeader, crField, dlciField]

variable (initiator : Bool) (flow : UInt8) (opposite : receiver.isInitiator = !initiator)
  (valid : validDlci d = true)
include opposite valid

/-- **A SABME is parsed back** by the other side. -/
theorem rfcSendSabme_parsed (onWire : ∀ k < 4, mem (r + k) = (rfcSendSabme ⟨initiator, flow⟩ d).getD k 0) :
    (rfcParseData receiver frame r 4).value mem =
      ⟨.sabme, { frame with cr := rfcommCr initiator true >>> 1, dlci := d, type := rfcommSabme, pf := 1, credit := 0 },
        r + 3, 0⟩ := by
  have typeField : (rfcommSabme ||| rfcommPf) &&& ~~~rfcommPfMask = rfcommSabme := by decide
  have pfField : ((rfcommSabme ||| rfcommPf) &&& rfcommPfMask) >>> rfcommPfOffset = 1 := by decide
  rw [value_rfcParseData_control receiver frame (lt_of_validDlci valid) (rfcommCr_bit _ _) (by decide) onWire,
    typeField, pfField, rfcFrameEvent]
  dsimp only
  rw [if_pos rfl, value_controlFrameEvent _ (fcsOk_rfcControlFrame onWire)]
  rw [opposite, valid]
  cases initiator <;> rfl

/-- **A UA is parsed back** by the other side. -/
theorem rfcSendUa_parsed (onWire : ∀ k < 4, mem (r + k) = (rfcSendUa ⟨initiator, flow⟩ d).getD k 0) :
    (rfcParseData receiver frame r 4).value mem =
      ⟨.ua, { frame with cr := rfcommCr initiator false >>> 1, dlci := d, type := rfcommUa, pf := 1, credit := 0 },
        r + 3, 0⟩ := by
  have typeField : (rfcommUa ||| rfcommPf) &&& ~~~rfcommPfMask = rfcommUa := by decide
  have pfField : ((rfcommUa ||| rfcommPf) &&& rfcommPfMask) >>> rfcommPfOffset = 1 := by decide
  rw [value_rfcParseData_control receiver frame (lt_of_validDlci valid) (rfcommCr_bit _ _) (by decide) onWire,
    typeField, pfField, rfcFrameEvent]
  dsimp only
  rw [if_neg (by decide), if_pos rfl, value_controlFrameEvent _ (fcsOk_rfcControlFrame onWire)]
  rw [opposite, valid]
  cases initiator <;> rfl

/-- **A DM is parsed back** by the other side, with its F bit. -/
theorem rfcSendDm_parsed (pf : Bool) (onWire : ∀ k < 4, mem (r + k) = (rfcSendDm ⟨initiator, flow⟩ d pf).getD k 0) :
    (rfcParseData receiver frame r 4).value mem =
      ⟨.dm,
        { frame with
          cr := rfcommCr initiator false >>> 1
          dlci := d
          type := rfcommDm
          pf := if pf then 1 else 0
          credit := 0 }, r + 3, 0⟩ := by
  have typeField : (rfcommDm ||| if pf then rfcommPf else 0) &&& ~~~rfcommPfMask = rfcommDm := by
    cases pf <;> decide
  have pfField : ((rfcommDm ||| if pf then rfcommPf else 0) &&& rfcommPfMask) >>> rfcommPfOffset =
      if pf then 1 else 0 := by
    cases pf <;> decide
  rw [value_rfcParseData_control receiver frame (lt_of_validDlci valid) (rfcommCr_bit _ _)
      (by rw [typeField]; decide) onWire, typeField, pfField, rfcFrameEvent]
  dsimp only
  rw [if_neg (by decide), if_neg (by decide), if_pos rfl, value_controlFrameEvent _ (fcsOk_rfcControlFrame onWire)]
  rw [opposite, valid]
  cases initiator <;> rfl

/-- **A DISC is parsed back** by the other side. -/
theorem rfcSendDisc_parsed (onWire : ∀ k < 4, mem (r + k) = (rfcSendDisc ⟨initiator, flow⟩ d).getD k 0) :
    (rfcParseData receiver frame r 4).value mem =
      ⟨.disc, { frame with cr := rfcommCr initiator true >>> 1, dlci := d, type := rfcommDisc, pf := 1, credit := 0 },
        r + 3, 0⟩ := by
  have typeField : (rfcommDisc ||| rfcommPf) &&& ~~~rfcommPfMask = rfcommDisc := by decide
  have pfField : ((rfcommDisc ||| rfcommPf) &&& rfcommPfMask) >>> rfcommPfOffset = 1 := by decide
  rw [value_rfcParseData_control receiver frame (lt_of_validDlci valid) (rfcommCr_bit _ _) (by decide) onWire,
    typeField, pfField, rfcFrameEvent]
  dsimp only
  rw [if_neg (by decide), if_neg (by decide), if_neg (by decide), if_pos rfl,
    value_controlFrameEvent _ (fcsOk_rfcControlFrame onWire)]
  rw [opposite, valid]
  cases initiator <;> rfl

end Control

/-! ## The round trip of a UIH frame -/

section RoundTrip

variable (sender receiver : RfcMcb) (frame : MxFrame) (d : UInt8) (buf : BtHdr) {mem : ℕ → UInt8} {r : ℕ}
  (valid : validDlci d = true) (fits : buf.len ≤ 32767) (headroom : 5 ≤ buf.offset)
  (room : buf.offset + buf.len < buf.data.length)
  (recv : ∀ k < (rfcSendBufUih sender d buf).len,
    mem (r + k) = (rfcSendBufUih sender d buf).mem ((rfcSendBufUih sender d buf).offset + k))

theorem len_rfcSendBufUih_eq :
    (rfcSendBufUih sender d buf).len =
      (uihHeader (rfcommCr sender.isInitiator true) d (uihCredits d buf) buf.len).length + buf.len + 1 := by
  rw [len_rfcSendBufUih, sentHeader]
  omega

include valid fits headroom room recv

/-- **The UIH frame `rfc_send_buf_uih` builds is parsed back**, unless it carries
credits to a receiver without credit-based flow control: the event, the header
fields with the credit, and a window of exactly the payload. -/
theorem rfcSendBufUih_parsed (agreed : uihCredits d buf = 0 ∨ receiver.flow = portFcCredit) :
    (rfcParseData receiver frame r (rfcSendBufUih sender d buf).len).value mem =
        ⟨.uih,
          { frame with
            cr := rfcommCr sender.isInitiator true >>> 1
            dlci := d
            type := rfcommUih
            pf := if uihCredits d buf ≠ 0 then 1 else 0
            credit := uihCredits d buf },
          r + (sentHeader sender d buf).length, buf.len⟩ ∧
      ∀ k < buf.len, mem (r + (sentHeader sender d buf).length + k) = buf.mem (buf.offset + k) := by
  obtain ⟨onWire, payload⟩ := rfcSendBufUih_onWire sender d buf headroom room recv
  have noMxCredit : d = rfcommMxDlci → uihCredits d buf = 0 := fun mx => by
    rw [uihCredits, mx]
    rfl
  refine ⟨?_, payload⟩
  rw [len_rfcSendBufUih_eq sender d buf]
  exact rfcParseData_uih receiver frame valid (rfcommCr_bit _ _) fits onWire noMxCredit agreed

/-- The UIH frame with credits is bad for a receiver without credit-based flow
control. -/
theorem rfcSendBufUih_bad (hc : uihCredits d buf ≠ 0) (flow : receiver.flow ≠ portFcCredit) :
    ((rfcParseData receiver frame r (rfcSendBufUih sender d buf).len).value mem).event = .badFrame := by
  obtain ⟨onWire, -⟩ := rfcSendBufUih_onWire sender d buf headroom room recv
  rw [len_rfcSendBufUih_eq sender d buf]
  exact rfcParseData_uih_bad receiver frame valid (rfcommCr_bit _ _) fits onWire hc flow

end RoundTrip

/-- A frame of zeros, for fixed inputs. -/
def zeroFrame : MxFrame :=
  ⟨0, 0, 0, 0, 0, 0, ⟨0, 0, 0, 0, 0, 0, 0⟩, ⟨0, 0⟩, ⟨0, 0, 0⟩, ⟨0, 0, 0⟩, ⟨false, 0, 0, 0, 0, 0, 0, 0, 0, 0⟩, ⟨0⟩⟩

/-- One payload octet on DLCI 2 with three credits in `layer_specific`, sent by
the initiator and received by a multiplexer without credit-based flow control
(`flow = 0`): the receiver reads the credit octet as the information field,
finds one octet more than the length field says, and calls the frame bad. -/
theorem uih_credits_to_basic_flow_bad :
    ((rfcParseData ⟨false, 0⟩ zeroFrame (rfcSendBufUih ⟨true, 0⟩ 2 ⟨[0, 0, 0, 0, 0, 7, 0], 5, 1, 3⟩).offset
        (rfcSendBufUih ⟨true, 0⟩ 2 ⟨[0, 0, 0, 0, 0, 7, 0], 5, 1, 3⟩).len).value
      (rfcSendBufUih ⟨true, 0⟩ 2 ⟨[0, 0, 0, 0, 0, 7, 0], 5, 1, 3⟩).mem).event = .badFrame :=
  rfcSendBufUih_bad ⟨true, 0⟩ ⟨false, 0⟩ zeroFrame 2 _ (by decide) (by decide) (by decide) (by decide)
    (fun _ _ => rfl) (by decide) (by decide)

/-! ## What the parser reads, and the window it leaves -/

theorem within_controlFrameEvent (F : MxFrame) (length pStart : ℕ) (fcs : UInt8) (wrongSide checksPf : Bool)
    (event : RfcEvent) :
    Reads.Within pStart (pStart + 3) (controlFrameEvent F length pStart fcs wrongSide checksPf event) :=
  Reads.within_ite (fun _ => Reads.within_pure _) fun _ =>
    (within_rfcCheckFcs rfcommCtrlFrameLen pStart fcs).bind fun _ => Reads.within_pure _

/-- The frame types are told apart by the address and control octets, and the
FCS covers at most three. -/
theorem within_rfcFrameEvent (mcb : RfcMcb) (F : MxFrame) (length pStart : ℕ) (fcs : UInt8) :
    Reads.Within pStart (pStart + 3) (rfcFrameEvent mcb F length pStart fcs) := by
  unfold rfcFrameEvent
  -- SABME, UA, DM and DISC
  refine Reads.within_ite (fun _ => within_controlFrameEvent ..) fun _ => ?_
  refine Reads.within_ite (fun _ => within_controlFrameEvent ..) fun _ => ?_
  refine Reads.within_ite (fun _ => within_controlFrameEvent ..) fun _ => ?_
  refine Reads.within_ite (fun _ => within_controlFrameEvent ..) fun _ => ?_
  -- UIH, whose FCS covers two octets
  refine Reads.within_ite (fun _ => ?_) fun _ => Reads.within_pure _
  refine Reads.within_ite (fun _ => Reads.within_pure _) fun _ => ?_
  exact ((within_rfcCheckFcs 2 pStart fcs).mono (Nat.le_refl _) (by omega)).bind fun _ => Reads.within_pure _

section Window

variable (mcb : RfcMcb) {lo hi pStart : ℕ}

theorem within_rfcParseTail (F : MxFrame) {pData len length : ℕ} (low : lo ≤ pStart) (fcsRoom : pStart + 3 ≤ hi)
    (dataLow : lo ≤ pData) (fits : pData + len < hi) :
    Reads.Within lo hi (rfcParseTail mcb F pStart pData len length) := by
  refine Reads.within_ite (fun _ => Reads.within_pure _) fun same => ?_
  refine Reads.within_get_bind (by omega) (by omega) fun fcs => ?_
  exact ((within_rfcFrameEvent mcb F length pStart fcs).mono low fcsRoom).bind fun _ => Reads.within_pure _

theorem within_rfcParseCredit (F : MxFrame) {pData len length : ℕ} (low : lo ≤ pStart)
    (fcsRoom : pStart + 3 ≤ hi) (dataLow : lo ≤ pData) (fits : pData + len < hi) :
    Reads.Within lo hi (rfcParseCredit mcb F pStart pData len length) := by
  refine Reads.within_ite (fun _ => ?_) fun _ => within_rfcParseTail mcb _ low fcsRoom dataLow fits
  refine Reads.within_ite (fun _ => Reads.within_pure _) fun room => ?_
  exact Reads.within_get_bind dataLow (by omega) fun _ => within_rfcParseTail mcb _ low fcsRoom (by omega) (by omega)

/-- The tail leaves the window where it found it. -/
theorem returns_rfcParseTail (F : MxFrame) (pData len length : ℕ) :
    Reads.Returns (fun res : RfcParse => res.offset = pData ∧ res.len = len) (rfcParseTail mcb F pStart pData len length) :=
  Reads.returns_ite (fun _ => Reads.returns_pure ⟨rfl, rfl⟩) fun _ =>
    Reads.returns_get_bind fun _ => (Reads.returns_true _).bind fun _ _ => Reads.returns_pure ⟨rfl, rfl⟩

/-- The credit octet, when there is one, moves the window by one. -/
theorem returns_rfcParseCredit (F : MxFrame) (pData len length : ℕ) :
    Reads.Returns (fun res : RfcParse => ∃ cred ≤ 1, res.offset = pData + cred ∧ res.len + cred = len)
      (rfcParseCredit mcb F pStart pData len length) := by
  refine Reads.returns_ite (fun _ => ?_) fun _ =>
    (returns_rfcParseTail mcb _ pData len length).mono fun res ⟨offset, len⟩ => ⟨0, Nat.zero_le 1, offset, len⟩
  refine Reads.returns_ite (fun _ => Reads.returns_pure ⟨0, Nat.zero_le 1, rfl, rfl⟩) fun room => ?_
  exact Reads.returns_get_bind fun _ => (returns_rfcParseTail mcb _ (pData + 1) (len - 1) length).mono
    fun res ⟨offset, len⟩ => ⟨1, Nat.le_refl 1, offset, by omega⟩

end Window

/-- A frame that is not bad is tiled by its header (three octets, or four
with a two-octet length), an optional credit octet, the window left in
`offset` and `len`, and the FCS: nothing in between, nothing outside. -/
def Tiles (offset len : ℕ) (res : RfcParse) : Prop :=
  res.event ≠ .badFrame → ∃ ext ≤ 1, ∃ cred ≤ 1,
    res.offset = offset + rfcommCtrlFrameLen + ext + cred ∧ res.offset + res.len + 1 = offset + len

theorem tiles_bad {offset len : ℕ} (frame : MxFrame) (offset' len' : ℕ) : Tiles offset len ⟨.badFrame, frame, offset', len'⟩ :=
  fun notBad => absurd rfl notBad

/-- **`rfc_parse_data` reads only its window** `[offset, offset + len)`. -/
theorem within_rfcParseData (mcb : RfcMcb) (frame : MxFrame) (offset len : ℕ) :
    Reads.Within offset (offset + len) (rfcParseData mcb frame offset len) := by
  unfold rfcParseData rfcommCtrlFrameLen
  refine Reads.within_ite (fun _ => Reads.within_pure _) fun long => ?_
  refine Reads.within_get_bind (Nat.le_refl _) (by omega) fun address => ?_
  refine Reads.within_ite (fun _ => Reads.within_get_bind (by omega) (by omega) fun _ => Reads.within_pure _)
    fun _ => ?_
  refine Reads.within_get_bind (by omega) (by omega) fun control => ?_
  refine Reads.within_get_bind (by omega) (by omega) fun lengthOctet => ?_
  refine Reads.within_ite (fun _ => Reads.within_pure _) fun shortOk => ?_
  -- the second length octet is read only when the window goes past the third
  have lengthField : Reads.Within offset (offset + len) (rfcLengthField offset lengthOctet) := by
    unfold rfcLengthField
    exact Reads.within_ite (fun eal => Reads.within_get_bind (by omega) (by have := not_and.mp shortOk eal; omega)
      fun _ => Reads.within_pure _) fun _ => Reads.within_pure _
  refine lengthField.bind fun length => ?_
  refine Reads.within_ite (fun _ => Reads.within_pure _) fun room => ?_
  exact within_rfcParseCredit mcb _ (Nat.le_refl _) (by omega) (by omega) (by split_ifs at room ⊢ <;> omega)

/-- **What `rfc_parse_data` accepts tiles its window.** -/
theorem returns_rfcParseData (mcb : RfcMcb) (frame : MxFrame) (offset len : ℕ) :
    Reads.Returns (Tiles offset len) (rfcParseData mcb frame offset len) := by
  unfold rfcParseData
  refine Reads.returns_ite (fun _ => Reads.returns_pure (tiles_bad _ _ _)) fun long => ?_
  refine Reads.returns_get_bind fun address => ?_
  refine Reads.returns_ite (fun _ => Reads.returns_get_bind fun _ => Reads.returns_pure (tiles_bad _ _ _)) fun _ => ?_
  refine Reads.returns_get_bind fun control => Reads.returns_get_bind fun lengthOctet => ?_
  refine Reads.returns_ite (fun _ => Reads.returns_pure (tiles_bad _ _ _)) fun _ => ?_
  refine (Reads.returns_true _).bind fun length _ => ?_
  refine Reads.returns_ite (fun _ => Reads.returns_pure (tiles_bad _ _ _)) fun room => ?_
  refine (returns_rfcParseCredit mcb _ _ _ length).mono fun res ⟨cred, le, offsetEq, lenEq⟩ _ => ?_
  unfold rfcommCtrlFrameLen at room offsetEq lenEq ⊢
  refine ⟨if lengthOctet &&& rfcommEa = 0 then 1 else 0, by split_ifs <;> omega, cred, le, ?_, ?_⟩
  · rw [offsetEq]
    omega
  · split_ifs at room lenEq offsetEq ⊢ <;> omega

end Bluedroid.Rfcomm
