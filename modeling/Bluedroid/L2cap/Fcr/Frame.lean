import Mathlib.Data.ZMod.Basic

/-!
# L2cap.Fcr.Frame -- the frames and the channel state of `l2c_fcr.cc`

Enhanced retransmission mode (ERTM) numbers every I-frame with a six-bit TxSeq
and acknowledges with a six-bit ReqSeq; the code keeps both in `uint8_t` and
masks with `L2CAP_FCR_SEQ_MODULO`, which is arithmetic in `ZMod 64` (`Seq`).

A PDU is represented by its decoded enhanced control field and, for an
I-frame, its information payload.  The L2CAP basic header and the FCS are not
represented: a frame whose FCS fails is dropped by `l2c_fcr_proc_pdu` before
anything reads it, which the link models of later modules express as a loss.

`Channel` is the part of `tL2C_CCB` the ERTM code reads and writes: the
negotiated `our_cfg`/`peer_cfg` values it consults, `xmit_hold_q`, and the
`tL2C_FCRB` block.  Two output lists record what the channel hands on: the
frames given to the link (`l2c_link_check_send_pkts`) and the SDUs passed up
(`L2CEVT_L2CAP_DATA`).  The monitor/retransmission and ack alarms are kept as
"scheduled" flags; when one fires is up to the environment.
-/

namespace Bluedroid.L2cap.Fcr

set_option autoImplicit false

/-- A six-bit sequence number. -/
abbrev Seq := ZMod 64

/-- The SAR bits of an I-frame (`L2CAP_FCR_UNSEG_SDU` … `L2CAP_FCR_CONT_SDU`). -/
inductive Sar
  | unseg
  | start
  | end_
  | cont
  deriving DecidableEq, Repr

/-- The supervisory function of an S-frame (`L2CAP_FCR_SUP_RR` … `L2CAP_FCR_SUP_SREJ`). -/
inductive Sup
  | rr
  | rej
  | rnr
  | srej
  deriving DecidableEq, Repr

/-- An I-frame: its control field and the payload after it.  The payload of a
start segment begins with the two SDU length bytes. -/
structure IFrame where
  txSeq : Seq
  reqSeq : Seq
  fBit : Bool
  sar : Sar
  payload : List UInt8
  deriving DecidableEq, Repr

/-- An S-frame's control field. -/
structure SFrame where
  sup : Sup
  reqSeq : Seq
  pBit : Bool
  fBit : Bool
  deriving DecidableEq, Repr

inductive Pdu
  | iFrame (frame : IFrame)
  | sFrame (frame : SFrame)
  deriving DecidableEq, Repr

/-- The `pf_bit` argument of `l2c_fcr_send_S_frame`: `0`, `L2CAP_FCR_P_BIT` or
`L2CAP_FCR_F_BIT`. -/
inductive PfBit
  | none
  | p
  | f
  deriving DecidableEq, Repr

/-- A buffer of `xmit_hold_q`: the SDU bytes not yet segmented, and whether its
segmentation has started (`event != 0`). -/
structure XmitBuf where
  data : List UInt8
  started : Bool
  deriving DecidableEq, Repr

/-- The ERTM view of a channel control block. -/
structure Channel where
  /-- `our_cfg.fcr.tx_win_sz`: the receive window we advertised. -/
  ourTxWinSz : ℕ
  /-- `peer_cfg.fcr.tx_win_sz`: the window the peer grants us. -/
  peerTxWinSz : ℕ
  /-- `peer_cfg.fcr.max_transmit`; `0` means no limit. -/
  maxTransmit : ℕ
  txMps : ℕ
  maxRxMtu : ℕ
  maxHeldAcks : ℕ
  /-- `in_use && chnl_state == CST_OPEN`. -/
  isOpen : Bool
  xmitHoldQ : List XmitBuf
  nextTxSeq : Seq
  lastRxAck : Seq
  nextSeqExpected : Seq
  lastAckSent : Seq
  /-- A `uint8_t`: it wraps at 256. -/
  numTries : ℕ
  remoteBusy : Bool
  rejSent : Bool
  srejSent : Bool
  waitAck : Bool
  rejAfterSrej : Bool
  sendFRsp : Bool
  rxSduLen : ℕ
  /-- The SDU being reassembled (`p_rx_sdu`), if any. -/
  pRxSdu : Option (List UInt8)
  waitingForAckQ : List IFrame
  srejRcvHoldQ : List IFrame
  retransQ : List IFrame
  /-- `mon_retrans_timer` is scheduled. -/
  monRetransTimer : Bool
  /-- `ack_timer` is scheduled. -/
  ackTimer : Bool
  /-- Frames handed to the link, oldest first. -/
  sent : List Pdu
  /-- SDUs passed to the upper layer, oldest first. -/
  delivered : List (List UInt8)
  deriving DecidableEq, Repr

namespace Channel

/-- A freshly opened ERTM channel: `tL2C_FCRB` zeroed, as `l2cu_allocate_ccb`
leaves it. -/
def opened (ourTxWinSz peerTxWinSz maxTransmit txMps maxRxMtu maxHeldAcks : ℕ) : Channel where
  ourTxWinSz := ourTxWinSz
  peerTxWinSz := peerTxWinSz
  maxTransmit := maxTransmit
  txMps := txMps
  maxRxMtu := maxRxMtu
  maxHeldAcks := maxHeldAcks
  isOpen := true
  xmitHoldQ := []
  nextTxSeq := 0
  lastRxAck := 0
  nextSeqExpected := 0
  lastAckSent := 0
  numTries := 0
  remoteBusy := false
  rejSent := false
  srejSent := false
  waitAck := false
  rejAfterSrej := false
  sendFRsp := false
  rxSduLen := 0
  pRxSdu := none
  waitingForAckQ := []
  srejRcvHoldQ := []
  retransQ := []
  monRetransTimer := false
  ackTimer := false
  sent := []
  delivered := []

end Channel

namespace Pdu

def reqSeq : Pdu → Seq
  | .iFrame frame => frame.reqSeq
  | .sFrame frame => frame.reqSeq

def fBit : Pdu → Bool
  | .iFrame frame => frame.fBit
  | .sFrame frame => frame.fBit

end Pdu

namespace Channel

/-- The transmit side of the window: what the sender has numbered, what the peer
has acknowledged, the frames waiting for an acknowledgement, and how many of
them the peer allows. -/
def txWindow (c : Channel) : Seq × Seq × List IFrame × ℕ :=
  (c.nextTxSeq, c.lastRxAck, c.waitingForAckQ, c.peerTxWinSz)

theorem txWindow_eq_iff {c : Channel} {next last : Seq} {waiting : List IFrame} {peer : ℕ} :
    c.txWindow = (next, last, waiting, peer) ↔
      c.nextTxSeq = next ∧ c.lastRxAck = last ∧ c.waitingForAckQ = waiting ∧
        c.peerTxWinSz = peer := by
  simp [txWindow]

theorem peerTxWinSz_of_txWindow {c : Channel} {next last : Seq} {waiting : List IFrame}
    {peer : ℕ} (shape : c.txWindow = (next, last, waiting, peer)) : c.peerTxWinSz = peer :=
  (txWindow_eq_iff.mp shape).2.2.2

theorem waitingForAckQ_of_txWindow {c : Channel} {next last : Seq} {waiting : List IFrame}
    {peer : ℕ} (shape : c.txWindow = (next, last, waiting, peer)) : c.waitingForAckQ = waiting :=
  (txWindow_eq_iff.mp shape).2.2.1

end Channel

/-- `l2c_fcr_start_timer`: schedule the monitor/retransmission alarm unless it
already is. -/
def l2cFcrStartTimer (c : Channel) : Channel := { c with monRetransTimer := true }

/-- `l2c_fcr_stop_timer`. -/
def l2cFcrStopTimer (c : Channel) : Channel := { c with monRetransTimer := false }

/-- `l2cu_disconnect_chnl`: the channel is released and takes no further part in
ERTM; nothing reads its FCR block afterwards. -/
def l2cuDisconnectChnl (c : Channel) : Channel := { c with isOpen := false }

@[simp] theorem l2cFcrStartTimer_txWindow (c : Channel) :
    (l2cFcrStartTimer c).txWindow = c.txWindow := rfl

@[simp] theorem l2cFcrStopTimer_txWindow (c : Channel) :
    (l2cFcrStopTimer c).txWindow = c.txWindow := rfl

@[simp] theorem l2cuDisconnectChnl_txWindow (c : Channel) :
    (l2cuDisconnectChnl c).txWindow = c.txWindow := rfl

/-- `l2c_fcr_is_flow_controlled`: the peer flowed us off, or the transmit window
is full. -/
def l2cFcrIsFlowControlled (c : Channel) : Bool :=
  c.remoteBusy || decide (c.peerTxWinSz ≤ c.waitingForAckQ.length)

/-- `UINT16_TO_STREAM`: two bytes, least significant first. -/
def uint16ToStream (v : ℕ) : List UInt8 :=
  [UInt8.ofNat (v % 256), UInt8.ofNat (v / 256 % 256)]

/-- `STREAM_TO_UINT16`. -/
def streamToUint16 (b₀ b₁ : UInt8) : ℕ := b₀.toNat + 256 * b₁.toNat

/-- `STREAM_TO_UINT16` reads back what `UINT16_TO_STREAM` wrote, modulo `2^16`. -/
theorem streamToUint16_uint16ToStream (v : ℕ) :
    streamToUint16 (UInt8.ofNat (v % 256)) (UInt8.ofNat (v / 256 % 256)) = v % 2 ^ 16 := by
  simp only [streamToUint16, UInt8.toNat_ofNat']
  omega

end Bluedroid.L2cap.Fcr
