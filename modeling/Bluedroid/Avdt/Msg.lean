import Mathlib
import Bluedroid.Theory.Buffer
import Bluedroid.Theory.Loop

/-!
# Avdt.Msg -- AVDTP signalling messages cut into packets and put back together

`avdt_msg_send` sends the message at `p_ccb->p_curr_msg` in packets of at most
the peer's signalling MTU.  A message that fits goes as one SINGLE packet:
header octet, signal id, payload.  One that does not goes as a START packet
(header octet, NOSP -- the number of signal packets -- and signal id, then the
first `mtu - 3` payload bytes), CONTINUE packets of `mtu - 1` payload bytes
while more than that is left, and an END packet with the rest.  The message's
`offset` and `len` record how far it got.  A congested channel stops the loop,
and a later call goes on from `p_curr_msg`, so the packets of all the calls
are those of one loop that is never stopped, which is what is modelled.

`avdt_msg_asmbl` on the peer puts them back together in `p_ccb->p_rx_msg`, a
buffer of `BT_DEFAULT_BUFFER_SIZE` bytes: a START packet is copied in whole,
its header octet over NOSP so that the message reads header octet, signal id,
payload; each CONTINUE and END payload is copied after it.  Buffers are lists
of octets and every copy is a `Theory.copyInto`, which fails rather than
write past a buffer.
-/

namespace Bluedroid.Avdt

open Bluedroid.Theory (copyInto loop)

set_option autoImplicit false

/-! ## Constants -/

/-- `L2CAP_MIN_OFFSET`. -/
def l2capMinOffset : ℕ := 13

/-- `AVDT_NUM_SEPS`. -/
def avdtNumSeps : ℕ := 12

/-- `AVDT_LEN_TYPE_SINGLE`: header octet and signal id. -/
def avdtLenTypeSingle : ℕ := 2

/-- `AVDT_LEN_TYPE_START`: header octet, NOSP and signal id. -/
def avdtLenTypeStart : ℕ := 3

/-- `AVDT_LEN_TYPE_CONT`. -/
def avdtLenTypeCont : ℕ := 1

/-- `AVDT_LEN_TYPE_END`. -/
def avdtLenTypeEnd : ℕ := 1

/-- `AVDT_MSG_OFFSET`: where a message's payload starts in its buffer. -/
def avdtMsgOffset : ℕ := l2capMinOffset + avdtNumSeps + avdtLenTypeStart

/-- `AVDT_PKT_TYPE_SINGLE`. -/
def avdtPktTypeSingle : UInt8 := 0

/-- `AVDT_PKT_TYPE_START`. -/
def avdtPktTypeStart : UInt8 := 1

/-- `AVDT_PKT_TYPE_CONT`. -/
def avdtPktTypeCont : UInt8 := 2

/-- `AVDT_PKT_TYPE_END`. -/
def avdtPktTypeEnd : UInt8 := 3

/-- `avdt_msg_pkt_type_len`: the shortest packet of each type. -/
def avdtMsgPktTypeLen (pktType : UInt8) : ℕ :=
  [avdtLenTypeSingle, avdtLenTypeStart, avdtLenTypeCont, avdtLenTypeEnd].getD pktType.toNat 0

@[simp] theorem avdtMsgPktTypeLen_single : avdtMsgPktTypeLen avdtPktTypeSingle = 2 := rfl

@[simp] theorem avdtMsgPktTypeLen_start : avdtMsgPktTypeLen avdtPktTypeStart = 3 := rfl

@[simp] theorem avdtMsgPktTypeLen_cont : avdtMsgPktTypeLen avdtPktTypeCont = 1 := rfl

@[simp] theorem avdtMsgPktTypeLen_end : avdtMsgPktTypeLen avdtPktTypeEnd = 1 := rfl

/-- `sizeof(BT_HDR)`: four `uint16_t` fields before the data. -/
def btHdrSize : ℕ := 8

/-- `BT_DEFAULT_BUFFER_SIZE`. -/
def btDefaultBufferSize : ℕ := 4096 + 16

/-- The data of a `BT_DEFAULT_BUFFER_SIZE` buffer, after its `BT_HDR`: the
`buf_len` of `avdt_msg_asmbl`. -/
def rxBufLen : ℕ := btDefaultBufferSize - btHdrSize

/-! ## The header octet -/

/-- `AVDT_MSG_BLD_HDR`: label, packet type and message type in one octet.  The
label is the high nibble of `layer_specific` and the message type one of the
four `AVDT_MSG_TYPE_*`. -/
def bldHdr (label : Fin 16) (pktType : UInt8) (msg : Fin 4) : UInt8 :=
  (UInt8.ofNat label.val <<< 4) ||| (pktType <<< 2) ||| UInt8.ofNat msg.val

/-- `AVDT_MSG_PRS_PKT_TYPE`. -/
def prsPktType (octet : UInt8) : UInt8 := (octet >>> 2) &&& 0x03

/-- The packet type reads back from the header octet. -/
theorem prsPktType_bldHdr :
    ∀ (label : Fin 16) (pktType : Fin 4) (msg : Fin 4),
      prsPktType (bldHdr label (UInt8.ofNat pktType.val) msg) = UInt8.ofNat pktType.val := by
  decide

/-- Outside its packet-type bits, the header octet is the same for every
packet type. -/
theorem bldHdr_and_not_pktType :
    ∀ (label : Fin 16) (pktType : Fin 4) (msg : Fin 4),
      bldHdr label (UInt8.ofNat pktType.val) msg &&& 0xF3 = bldHdr label avdtPktTypeSingle msg := by
  decide

@[simp] theorem prsPktType_bldHdr_single (label : Fin 16) (msg : Fin 4) :
    prsPktType (bldHdr label avdtPktTypeSingle msg) = avdtPktTypeSingle := prsPktType_bldHdr label 0 msg

@[simp] theorem prsPktType_bldHdr_start (label : Fin 16) (msg : Fin 4) :
    prsPktType (bldHdr label avdtPktTypeStart msg) = avdtPktTypeStart := prsPktType_bldHdr label 1 msg

@[simp] theorem prsPktType_bldHdr_cont (label : Fin 16) (msg : Fin 4) :
    prsPktType (bldHdr label avdtPktTypeCont msg) = avdtPktTypeCont := prsPktType_bldHdr label 2 msg

@[simp] theorem prsPktType_bldHdr_end (label : Fin 16) (msg : Fin 4) :
    prsPktType (bldHdr label avdtPktTypeEnd msg) = avdtPktTypeEnd := prsPktType_bldHdr label 3 msg

/-! ## Sending -/

/-- `p_ccb->p_curr_msg`, the message `avdt_msg_send` is sending: its buffer's
bytes, the part not yet sent (`len` bytes from `offset`), and the label,
message type and signal id its `layer_specific` and `event` carry. -/
structure CurrMsg where
  data : List UInt8
  offset : ℕ
  len : ℕ
  label : Fin 16
  msg : Fin 4
  sig : UInt8

/-- The bytes of a message not yet sent. -/
def CurrMsg.payload (curr : CurrMsg) : List UInt8 := (curr.data.drop curr.offset).take curr.len

/-- The message once `k` more of its bytes are sent. -/
def CurrMsg.advance (curr : CurrMsg) (k : ℕ) : CurrMsg :=
  { curr with len := curr.len - k, offset := curr.offset + k }

@[simp] theorem CurrMsg.data_advance (curr : CurrMsg) (k : ℕ) : (curr.advance k).data = curr.data := rfl

@[simp] theorem CurrMsg.offset_advance (curr : CurrMsg) (k : ℕ) :
    (curr.advance k).offset = curr.offset + k := rfl

@[simp] theorem CurrMsg.len_advance (curr : CurrMsg) (k : ℕ) : (curr.advance k).len = curr.len - k := rfl

@[simp] theorem CurrMsg.label_advance (curr : CurrMsg) (k : ℕ) : (curr.advance k).label = curr.label := rfl

@[simp] theorem CurrMsg.msg_advance (curr : CurrMsg) (k : ℕ) : (curr.advance k).msg = curr.msg := rfl

@[simp] theorem CurrMsg.sig_advance (curr : CurrMsg) (k : ℕ) : (curr.advance k).sig = curr.sig := rfl

/-- The branch of `avdt_msg_send`'s loop a message takes: the packet type, and
how many of the message's bytes the packet carries (`p_buf->len`).  The
header is as long as `avdt_msg_pkt_type_len` says. -/
def sendBranch (peerMtu : ℕ) (curr : CurrMsg) : UInt8 × ℕ :=
  if curr.offset = avdtMsgOffset ∧ curr.len ≤ peerMtu - avdtLenTypeSingle then
    (avdtPktTypeSingle, curr.len)
  else if curr.offset = avdtMsgOffset ∧ curr.len > peerMtu - avdtLenTypeSingle then
    (avdtPktTypeStart, peerMtu - avdtLenTypeStart)
  else if curr.offset > avdtMsgOffset ∧ curr.len > peerMtu - avdtLenTypeCont then
    (avdtPktTypeCont, peerMtu - avdtLenTypeCont)
  else (avdtPktTypeEnd, curr.len)

/-- NOSP as `avdt_msg_send` computes it, into a `uint8_t`. -/
def nosp (peerMtu len : ℕ) : UInt8 :=
  UInt8.ofNat ((len + avdtLenTypeStart - peerMtu) / (peerMtu - 1) + 2)

/-- One pass of the loop of `avdt_msg_send`, with `currMsgLen` its local
`curr_msg_len`: the packet it sends down, and the message and count it goes on
with, `none` once the message is all sent. -/
def sendPass (peerMtu : ℕ) (curr : CurrMsg) (currMsgLen : ℕ) : List UInt8 × Option (CurrMsg × ℕ) :=
  let pktType := (sendBranch peerMtu curr).1
  let bufLen := (sendBranch peerMtu curr).2
  let header := bldHdr curr.label pktType curr.msg ::
    ((if pktType = avdtPktTypeStart then [nosp peerMtu curr.len] else []) ++
      (if pktType = avdtPktTypeStart ∨ pktType = avdtPktTypeSingle then [curr.sig] else []))
  let currMsgLen := currMsgLen - bufLen
  (header ++ (curr.data.drop curr.offset).take bufLen,
    if currMsgLen = 0 then none
    else some (curr.advance bufLen, currMsgLen))

/-- A pass of the loop of `avdt_msg_send` on its state: the message,
`curr_msg_len`, and the packets sent so far. -/
def sendBody (peerMtu : ℕ) (state : CurrMsg × ℕ × List (List UInt8)) :
    (CurrMsg × ℕ × List (List UInt8)) ⊕ List (List UInt8) :=
  match sendPass peerMtu state.1 state.2.1 with
  | (packet, none) => .inr (state.2.2 ++ [packet])
  | (packet, some (curr, currMsgLen)) => .inl (curr, currMsgLen, state.2.2 ++ [packet])

/-- `avdt_msg_send` of a new message: `curr_msg_len` starts at its `len`, and
the packets go down in order.  Every pass but the last sends at least a byte of
it, so `len + 1` passes are enough (`none` if they were not). -/
def avdtMsgSend (peerMtu : ℕ) (pMsg : CurrMsg) : Option (List (List UInt8)) :=
  loop (sendBody peerMtu) (pMsg.len + 1) (pMsg, pMsg.len, [])

/-- The message after a pass that sent `k` of its bytes. -/
theorem payload_advance (curr : CurrMsg) (k : ℕ) : (curr.advance k).payload = curr.payload.drop k := by
  simp only [CurrMsg.payload, CurrMsg.advance, List.drop_take, List.drop_drop]

theorem sendPass_single {peerMtu : ℕ} {curr : CurrMsg} (atStart : curr.offset = avdtMsgOffset)
    (fits : curr.len ≤ peerMtu - avdtLenTypeSingle) :
    sendPass peerMtu curr curr.len =
      ([bldHdr curr.label avdtPktTypeSingle curr.msg, curr.sig] ++ curr.payload, none) := by
  simp [sendPass, sendBranch, atStart, fits, CurrMsg.payload, avdtPktTypeSingle, avdtPktTypeStart]

theorem sendPass_start {peerMtu : ℕ} {curr : CurrMsg} (atStart : curr.offset = avdtMsgOffset)
    (long : peerMtu - avdtLenTypeSingle < curr.len) :
    sendPass peerMtu curr curr.len =
      ([bldHdr curr.label avdtPktTypeStart curr.msg, nosp peerMtu curr.len, curr.sig] ++
          curr.payload.take (peerMtu - avdtLenTypeStart),
        some (curr.advance (peerMtu - avdtLenTypeStart), curr.len - (peerMtu - avdtLenTypeStart))) := by
  have notSingle : ¬curr.len ≤ peerMtu - avdtLenTypeSingle := by omega
  have left : curr.len - (peerMtu - avdtLenTypeStart) ≠ 0 := by
    simp only [avdtLenTypeSingle, avdtLenTypeStart] at *
    omega
  simp [sendPass, sendBranch, atStart, notSingle, long, left, CurrMsg.payload, List.take_take,
    avdtPktTypeSingle, avdtPktTypeStart]
  omega

theorem sendPass_cont {peerMtu : ℕ} {curr : CurrMsg} (started : avdtMsgOffset < curr.offset)
    (long : peerMtu - avdtLenTypeCont < curr.len) :
    sendPass peerMtu curr curr.len =
      (bldHdr curr.label avdtPktTypeCont curr.msg :: curr.payload.take (peerMtu - avdtLenTypeCont),
        some (curr.advance (peerMtu - avdtLenTypeCont), curr.len - (peerMtu - avdtLenTypeCont))) := by
  have notStart : curr.offset ≠ avdtMsgOffset := by omega
  have left : curr.len - (peerMtu - avdtLenTypeCont) ≠ 0 := by omega
  simp [sendPass, sendBranch, notStart, started, long, left, CurrMsg.payload, List.take_take,
    avdtPktTypeCont, avdtPktTypeStart, avdtPktTypeSingle]
  omega

theorem sendPass_end {peerMtu : ℕ} {curr : CurrMsg} (started : avdtMsgOffset < curr.offset)
    (short : curr.len ≤ peerMtu - avdtLenTypeCont) :
    sendPass peerMtu curr curr.len = (bldHdr curr.label avdtPktTypeEnd curr.msg :: curr.payload, none) := by
  have notStart : curr.offset ≠ avdtMsgOffset := by omega
  have notCont : ¬peerMtu - avdtLenTypeCont < curr.len := by omega
  simp [sendPass, sendBranch, notStart, notCont, CurrMsg.payload, avdtPktTypeEnd, avdtPktTypeStart,
    avdtPktTypeSingle]

/-! ## Reassembling -/

/-- A `BT_HDR` buffer: its data, and the `len` bytes from `offset` it holds. -/
structure BtHdr where
  data : List UInt8
  offset : ℕ
  len : ℕ

/-- The bytes a buffer holds. -/
def BtHdr.bytes (buf : BtHdr) : List UInt8 := (buf.data.drop buf.offset).take buf.len

/-- The buffer's data is long enough for the bytes it holds. -/
def BtHdr.Wf (buf : BtHdr) : Prop := buf.offset + buf.len ≤ buf.data.length

/-- `p_ccb->p_rx_msg`, a message being reassembled in a buffer of
`BT_DEFAULT_BUFFER_SIZE` bytes: its data, the `offset` the next payload goes
to, and the `len` bytes before it taken so far. -/
structure RxMsg where
  data : List UInt8
  offset : ℕ
  len : ℕ

/-- `avdt_msg_asmbl`: the reassembly buffer after the packet in `p_buf`, and the
message it returns, `none` for `NULL`.  The outer `none` is a write outside a
buffer. -/
def avdtMsgAsmbl (pRxMsg : Option RxMsg) (pBuf : BtHdr) : Option (Option RxMsg × Option BtHdr) :=
  if pBuf.len < 1 then some (pRxMsg, none)
  else
    let pktType := prsPktType (pBuf.data.getD pBuf.offset 0)
    if pBuf.len < avdtMsgPktTypeLen pktType then some (pRxMsg, none)
    -- a single packet drops any reassembly in progress and is the message
    else if pktType = avdtPktTypeSingle then some (none, some pBuf)
    else if pktType = avdtPktTypeStart then
      if btHdrSize + pBuf.offset + pBuf.len > btDefaultBufferSize then some (none, none)
      else do
        -- the packet's buffer up to its end, into the fresh buffer
        let data ← copyInto (List.replicate rxBufLen 0) 0 (pBuf.data.take (pBuf.offset + pBuf.len))
        -- the first header octet over NOSP
        let data ← copyInto data (pBuf.offset + 1) [data.getD pBuf.offset 0]
        pure (some ⟨data, pBuf.offset + pBuf.len, pBuf.len - 1⟩, none)
    else
      match pRxMsg with
      | none => some (none, none)
      | some rx =>
        let offset := pBuf.offset + avdtLenTypeCont
        let len := pBuf.len - avdtLenTypeCont
        if rx.offset + len > rxBufLen then some (none, none)
        else do
          let data ← copyInto rx.data rx.offset ((pBuf.data.drop offset).take len)
          if pktType = avdtPktTypeEnd then pure (none, some ⟨data, rx.offset - rx.len, rx.len + len⟩)
          else pure (some ⟨data, rx.offset + len, rx.len + len⟩, none)

/-- `avdt_msg_asmbl` on each buffer in turn: what each call returns; `none` if
one of them would write outside a buffer. -/
def asmblRun : Option RxMsg → List BtHdr → Option (List (Option BtHdr))
  | _, [] => some []
  | pRxMsg, pBuf :: pBufs =>
      (avdtMsgAsmbl pRxMsg pBuf).bind fun (pRxMsg, ret) => (asmblRun pRxMsg pBufs).map (ret :: ·)

theorem asmblRun_cons {pRxMsg pRxMsg' : Option RxMsg} {pBuf : BtHdr} {ret : Option BtHdr}
    (step : avdtMsgAsmbl pRxMsg pBuf = some (pRxMsg', ret)) (pBufs : List BtHdr) :
    asmblRun pRxMsg (pBuf :: pBufs) = (asmblRun pRxMsg' pBufs).map (ret :: ·) := by
  rw [asmblRun, step, Option.bind_some]

/-- The reassembly buffer holds `xs`: the `len` bytes before `offset`, in a
buffer of `BT_DEFAULT_BUFFER_SIZE` bytes. -/
structure RxMsg.Holds (rx : RxMsg) (xs : List UInt8) : Prop where
  length_data : rx.data.length = rxBufLen
  len_le : rx.len ≤ rx.offset
  offset_le : rx.offset ≤ rxBufLen
  window : (rx.data.drop (rx.offset - rx.len)).take rx.len = xs

/-- A buffer that holds `b :: bs` reads `b` first and is one longer than `bs`. -/
theorem BtHdr.bytes_cons {pBuf : BtHdr} (wf : pBuf.Wf) {b : UInt8} {bs : List UInt8}
    (bytes : pBuf.bytes = b :: bs) :
    pBuf.data.getD pBuf.offset 0 = b ∧ pBuf.len = bs.length + 1 := by
  have lengths := congrArg List.length bytes
  have first := congrArg (·[0]?) bytes
  simp only [BtHdr.bytes, List.length_take, List.length_drop, List.length_cons] at lengths
  simp only [BtHdr.bytes, List.getElem?_take, List.getElem?_drop, Nat.add_zero,
    List.getElem?_cons_zero] at first
  unfold BtHdr.Wf at wf
  rw [if_pos (by omega)] at first
  exact ⟨by rw [List.getD_eq_getElem?_getD, first, Option.getD_some], by omega⟩

/-- A SINGLE packet is the message, whatever was being reassembled. -/
theorem avdtMsgAsmbl_single {pBuf : BtHdr} (wf : pBuf.Wf) {hdr s : UInt8} {payload : List UInt8}
    (bytes : pBuf.bytes = hdr :: s :: payload) (isSingle : prsPktType hdr = avdtPktTypeSingle)
    (pRxMsg : Option RxMsg) :
    avdtMsgAsmbl pRxMsg pBuf = some (none, some pBuf) := by
  obtain ⟨first, length⟩ := BtHdr.bytes_cons wf bytes
  simp only [List.length_cons] at length
  have long : ¬pBuf.len < avdtMsgPktTypeLen avdtPktTypeSingle := by
    rw [avdtMsgPktTypeLen_single]
    omega
  simp only [avdtMsgAsmbl, first, isSingle, if_true]
  rw [if_neg (by omega), if_neg long]

/-- A START packet starts a reassembly holding its header octet, signal id and
first piece: the header octet is copied over NOSP. -/
theorem avdtMsgAsmbl_start {pBuf : BtHdr} (wf : pBuf.Wf) {hdr n s : UInt8} {piece : List UInt8}
    (bytes : pBuf.bytes = hdr :: n :: s :: piece) (isStart : prsPktType hdr = avdtPktTypeStart)
    (fits : pBuf.offset + pBuf.len ≤ rxBufLen) (pRxMsg : Option RxMsg) :
    ∃ rx, avdtMsgAsmbl pRxMsg pBuf = some (some rx, none) ∧ rx.Holds (hdr :: s :: piece) ∧
      rx.offset = pBuf.offset + pBuf.len := by
  obtain ⟨first, length⟩ := BtHdr.bytes_cons wf bytes
  simp only [List.length_cons] at length
  unfold BtHdr.Wf at wf
  -- the packet's buffer, copied into the fresh one
  obtain ⟨data₁, copied₁⟩ : ∃ data₁, copyInto (List.replicate rxBufLen 0) 0
      (pBuf.data.take (pBuf.offset + pBuf.len)) = some data₁ :=
    ⟨_, Theory.copyInto_of_le (by simp only [List.length_take, List.length_replicate]; omega)⟩
  have read₁ : ∀ i, pBuf.offset ≤ i → i < pBuf.offset + pBuf.len →
      data₁[i]? = pBuf.bytes[i - pBuf.offset]? := by
    intro i after before
    rw [Theory.getElem?_copyInto copied₁, if_pos ⟨Nat.zero_le _, by simp only [List.length_take]; omega⟩,
      Nat.sub_zero, List.getElem?_take, if_pos before, BtHdr.bytes, List.getElem?_take,
      if_pos (by omega), List.getElem?_drop, Nat.add_sub_cancel' after]
  have top : data₁.getD pBuf.offset 0 = hdr := by
    rw [List.getD_eq_getElem?_getD, read₁ _ (Nat.le_refl _) (by omega), Nat.sub_self, bytes]
    rfl
  -- the header octet over NOSP
  have room : pBuf.offset + 1 + [data₁.getD pBuf.offset 0].length ≤ data₁.length := by
    rw [Theory.length_copyInto copied₁, List.length_replicate, List.length_singleton]
    omega
  obtain ⟨data₂, copied₂⟩ : ∃ data₂, copyInto data₁ (pBuf.offset + 1) [data₁.getD pBuf.offset 0] =
      some data₂ :=
    ⟨_, Theory.copyInto_of_le room⟩
  refine ⟨⟨data₂, pBuf.offset + pBuf.len, pBuf.len - 1⟩, ?_, ?_, rfl⟩
  · have long : ¬pBuf.len < avdtMsgPktTypeLen avdtPktTypeStart := by
      rw [avdtMsgPktTypeLen_start]
      omega
    simp only [avdtMsgAsmbl, first, isStart]
    rw [if_neg (by omega), if_neg long, if_neg (by decide), if_pos trivial,
      if_neg (by simp only [btHdrSize, btDefaultBufferSize, rxBufLen] at fits ⊢; omega)]
    simp only [copied₁, copied₂, Option.bind_eq_bind, Option.bind_some, Option.pure_def]
  · refine ⟨by rw [Theory.length_copyInto copied₂, Theory.length_copyInto copied₁, List.length_replicate],
      by dsimp only; omega, fits, ?_⟩
    dsimp only
    apply List.ext_getElem?
    intro i
    rw [show pBuf.offset + pBuf.len - (pBuf.len - 1) = pBuf.offset + 1 by omega, List.getElem?_take,
      List.getElem?_drop, Theory.getElem?_copyInto copied₂, List.length_singleton, top]
    rcases i with _ | i
    · rw [if_pos (by omega), if_pos ⟨by omega, by omega⟩, Nat.add_zero, Nat.sub_self]
      rfl
    · by_cases inside : i + 1 < pBuf.len - 1
      · rw [if_pos inside, if_neg (by omega), read₁ (pBuf.offset + 1 + (i + 1)) (by omega) (by omega), bytes,
          show pBuf.offset + 1 + (i + 1) - pBuf.offset = i + 2 by omega]
        rfl
      · rw [if_neg inside, List.getElem?_eq_none (by simp only [List.length_cons]; omega)]

/-- A CONTINUE or END packet's piece, copied after what the reassembly holds. -/
theorem copy_piece {rx : RxMsg} {xs : List UInt8} (holds : rx.Holds xs) {pBuf : BtHdr} (wf : pBuf.Wf)
    {hdr : UInt8} {piece : List UInt8} (bytes : pBuf.bytes = hdr :: piece)
    (fits : rx.offset + piece.length ≤ rxBufLen) :
    ∃ data, copyInto rx.data rx.offset ((pBuf.data.drop (pBuf.offset + avdtLenTypeCont)).take
        (pBuf.len - avdtLenTypeCont)) = some data ∧
      (data.drop (rx.offset - rx.len)).take (rx.len + piece.length) = xs ++ piece ∧
      data.length = rxBufLen := by
  obtain ⟨-, length⟩ := BtHdr.bytes_cons wf bytes
  have tail : (pBuf.data.drop (pBuf.offset + avdtLenTypeCont)).take (pBuf.len - avdtLenTypeCont) = piece := by
    have rest := congrArg (List.drop 1) bytes
    rw [BtHdr.bytes, List.drop_take, List.drop_drop] at rest
    exact rest
  rw [tail]
  obtain ⟨data, copied⟩ : ∃ data, copyInto rx.data rx.offset piece = some data :=
    ⟨_, Theory.copyInto_of_le (by rw [holds.length_data]; exact fits)⟩
  refine ⟨data, copied, ?_, by rw [Theory.length_copyInto copied, holds.length_data]⟩
  have held : (rx.data.drop (rx.offset - rx.len)).take (rx.offset - (rx.offset - rx.len)) = xs := by
    rw [Nat.sub_sub_self holds.len_le]
    exact holds.window
  have extended := Theory.window_copyInto_append copied (Nat.sub_le _ _) held
  rwa [show rx.offset + piece.length - (rx.offset - rx.len) = rx.len + piece.length by
    have := holds.len_le; omega] at extended

/-- A CONTINUE packet adds its piece to the reassembly. -/
theorem avdtMsgAsmbl_cont {rx : RxMsg} {xs : List UInt8} (holds : rx.Holds xs) {pBuf : BtHdr}
    (wf : pBuf.Wf) {hdr : UInt8} {piece : List UInt8} (bytes : pBuf.bytes = hdr :: piece)
    (isCont : prsPktType hdr = avdtPktTypeCont) (fits : rx.offset + piece.length ≤ rxBufLen) :
    ∃ rx', avdtMsgAsmbl (some rx) pBuf = some (some rx', none) ∧ rx'.Holds (xs ++ piece) ∧
      rx'.offset = rx.offset + piece.length := by
  obtain ⟨first, length⟩ := BtHdr.bytes_cons wf bytes
  obtain ⟨data, copied, window, lengthData⟩ := copy_piece holds wf bytes fits
  refine ⟨⟨data, rx.offset + (pBuf.len - avdtLenTypeCont), rx.len + (pBuf.len - avdtLenTypeCont)⟩, ?_, ?_,
    by dsimp only; simp only [avdtLenTypeCont]; omega⟩
  · have long : ¬pBuf.len < avdtMsgPktTypeLen avdtPktTypeCont := by
      rw [avdtMsgPktTypeLen_cont]
      omega
    simp only [avdtMsgAsmbl, first, isCont]
    rw [if_neg (by omega), if_neg long, if_neg (by decide), if_neg (by decide),
      if_neg (by simp only [avdtLenTypeCont]; omega)]
    simp only [copied, Option.bind_eq_bind, Option.bind_some, Option.pure_def]
    rw [if_neg (by decide)]
  · have := holds.len_le
    refine ⟨lengthData, by dsimp only; omega, by dsimp only; simp only [avdtLenTypeCont]; omega, ?_⟩
    dsimp only
    rw [show rx.offset + (pBuf.len - avdtLenTypeCont) - (rx.len + (pBuf.len - avdtLenTypeCont)) =
      rx.offset - rx.len by omega, show pBuf.len - avdtLenTypeCont = piece.length by
        simp only [avdtLenTypeCont]; omega]
    exact window

/-- An END packet adds its piece and returns the message, which starts where
the reassembly did. -/
theorem avdtMsgAsmbl_end {rx : RxMsg} {xs : List UInt8} (holds : rx.Holds xs) {pBuf : BtHdr}
    (wf : pBuf.Wf) {hdr : UInt8} {piece : List UInt8} (bytes : pBuf.bytes = hdr :: piece)
    (isEnd : prsPktType hdr = avdtPktTypeEnd) (fits : rx.offset + piece.length ≤ rxBufLen) :
    ∃ ret, avdtMsgAsmbl (some rx) pBuf = some (none, some ret) ∧ ret.Wf ∧ ret.bytes = xs ++ piece := by
  obtain ⟨first, length⟩ := BtHdr.bytes_cons wf bytes
  obtain ⟨data, copied, window, lengthData⟩ := copy_piece holds wf bytes fits
  have := holds.len_le
  refine ⟨⟨data, rx.offset - rx.len, rx.len + (pBuf.len - avdtLenTypeCont)⟩, ?_, ?_, ?_⟩
  · have long : ¬pBuf.len < avdtMsgPktTypeLen avdtPktTypeEnd := by
      rw [avdtMsgPktTypeLen_end]
      omega
    simp only [avdtMsgAsmbl, first, isEnd]
    rw [if_neg (by omega), if_neg long, if_neg (by decide), if_neg (by decide),
      if_neg (by simp only [avdtLenTypeCont]; omega)]
    simp only [copied, Option.bind_eq_bind, Option.bind_some, Option.pure_def]
    rw [if_pos trivial]
  · show rx.offset - rx.len + (rx.len + (pBuf.len - avdtLenTypeCont)) ≤ data.length
    rw [lengthData]
    simp only [avdtLenTypeCont]
    omega
  · rw [BtHdr.bytes, show pBuf.len - avdtLenTypeCont = piece.length by simp only [avdtLenTypeCont]; omega]
    exact window

end Bluedroid.Avdt
