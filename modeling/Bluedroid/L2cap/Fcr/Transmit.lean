import Bluedroid.L2cap.Fcr.Frame

/-!
# L2cap.Fcr.Transmit -- the sending half of `l2c_fcr.cc`

The functions that number, queue, acknowledge and resend I-frames:

* `prepareIFrame` (`prepare_I_frame`): a new frame takes `next_tx_seq`, every
  frame gets the current ReqSeq and the pending F-bit;
* `l2cFcrGetNextXmitSduSeg`: the retransmission queue first, else the next
  segment of the head of `xmit_hold_q`, a copy of which waits for its ack;
* `l2cuGetNextBufferToSend`: the checks the link makes before it asks an ERTM
  channel for a segment (`wait_ack`, `remote_busy`, the window);
* `processReqseq` (`process_reqseq`): release the acknowledged frames, or
  disconnect on a ReqSeq that acknowledges more than is waiting;
* `retransmitIFrames` (`retransmit_i_frames`): queue one waiting frame, or all;
* `l2cFcrSendSFrame`, `l2cFcrProcTout`, `l2cFcrProcAckTout`.

`osi_malloc` aborts rather than return `NULL`, so `l2c_fcr_clone_buf` always
returns a copy and the branches for a failed clone are not reached.  Each
function is followed by the fact that it leaves the transmit window alone, or
by what it does to it.
-/

namespace Bluedroid.L2cap.Fcr

set_option autoImplicit false

/-- `L2CAP_MAX_HEADER_FCS`: length, channel, extended control, SDU length, FCS. -/
def l2capMaxHeaderFcs : ℕ := 4 + 4 + 2 + 2

/-- `prepare_I_frame`: a new frame takes the next TxSeq and keeps the SAR the
segmenter gave it; a retransmission keeps its TxSeq and SAR.  Both get the
current ReqSeq and the F-bit owed to a poll. -/
def prepareIFrame (c : Channel) (frame : IFrame) (isRetransmission : Bool) : Channel × IFrame :=
  let setFBit := c.sendFRsp
  let txSeq := if isRetransmission then frame.txSeq else c.nextTxSeq
  let c := { c with
    sendFRsp := false
    nextTxSeq := if isRetransmission then c.nextTxSeq else c.nextTxSeq + 1
    lastAckSent := c.nextSeqExpected
    ackTimer := false }
  (l2cFcrStartTimer c,
    { frame with txSeq := txSeq, reqSeq := c.nextSeqExpected, fBit := setFBit })

theorem prepareIFrame_retransmission_txWindow (c : Channel) (frame : IFrame) :
    (prepareIFrame c frame true).1.txWindow = c.txWindow := rfl

/-- A new frame is numbered `next_tx_seq`, which moves on by one. -/
theorem prepareIFrame_new (c : Channel) (frame : IFrame) :
    (prepareIFrame c frame false).2.txSeq = c.nextTxSeq ∧
      (prepareIFrame c frame false).1.nextTxSeq = c.nextTxSeq + 1 ∧
      (prepareIFrame c frame false).1.lastRxAck = c.lastRxAck ∧
      (prepareIFrame c frame false).1.waitingForAckQ = c.waitingForAckQ ∧
      (prepareIFrame c frame false).1.peerTxWinSz = c.peerTxWinSz :=
  ⟨rfl, rfl, rfl, rfl, rfl⟩

/-- `l2c_fcr_send_S_frame`: an S-frame carrying the current ReqSeq.  Sending a
poll enters `wait_ack` and restarts the timer as the monitor timer. -/
def l2cFcrSendSFrame (c : Channel) (functionCode : Sup) (pfBit : PfBit) : Channel :=
  if c.isOpen then
    let c := if pfBit = .p then l2cFcrStartTimer (l2cFcrStopTimer { c with waitAck := true }) else c
    let frame : SFrame :=
      { sup := functionCode, reqSeq := c.nextSeqExpected, pBit := pfBit = .p, fBit := pfBit = .f }
    { c with sent := c.sent ++ [.sFrame frame], lastAckSent := c.nextSeqExpected,
             ackTimer := false }
  else c

@[simp] theorem l2cFcrSendSFrame_txWindow (c : Channel) (functionCode : Sup) (pfBit : PfBit) :
    (l2cFcrSendSFrame c functionCode pfBit).txWindow = c.txWindow := by
  unfold l2cFcrSendSFrame
  split
  · split <;> rfl
  · rfl

/-- The acknowledging part of `process_reqseq`: `req_seq` acknowledges the
`(req_seq - last_rx_ack) mod 64` oldest waiting frames; a count larger than the
queue closes the channel. -/
def ackReqseq (c : Channel) (reqSeq : Seq) : Channel × Bool :=
  let numBufsAcked := (reqSeq - c.lastRxAck).val
  if c.waitingForAckQ.length < numBufsAcked then (l2cuDisconnectChnl c, false)
  else
    let c := { c with lastRxAck := reqSeq }
    let c :=
      if numBufsAcked = 0 then c
      else
        let c := { c with numTries := 0, waitingForAckQ := c.waitingForAckQ.drop numBufsAcked }
        if c.waitAck then c else l2cFcrStopTimer c
    ((if c.waitingForAckQ.isEmpty then c else l2cFcrStartTimer c), true)

/-- `process_reqseq`.  An SREJ without the P-bit names a frame to resend and
acknowledges nothing; any other frame acknowledges up to its ReqSeq. -/
def processReqseq (c : Channel) (pdu : Pdu) : Channel × Bool :=
  match pdu with
  | .sFrame ⟨.srej, _, false, _⟩ =>
      ((if c.waitingForAckQ.isEmpty then c else l2cFcrStartTimer c), true)
  | _ => ackReqseq c pdu.reqSeq

/-- The frames `process_reqseq` treats as acknowledging nothing: an SREJ
without the P-bit. -/
def Pdu.srejWithoutPoll : Pdu → Bool
  | .sFrame ⟨.srej, _, false, _⟩ => true
  | _ => false

theorem Pdu.srejWithoutPoll_eq_true {pdu : Pdu} (srej : pdu.srejWithoutPoll = true) :
    ∃ reqSeq fBit, pdu = .sFrame ⟨.srej, reqSeq, false, fBit⟩ := by
  match pdu, srej with
  | .sFrame ⟨.srej, reqSeq, false, fBit⟩, _ => exact ⟨reqSeq, fBit, rfl⟩

theorem processReqseq_of_srejWithoutPoll {c : Channel} {pdu : Pdu}
    (srej : pdu.srejWithoutPoll = true) :
    (processReqseq c pdu).2 = true ∧ (processReqseq c pdu).1.txWindow = c.txWindow := by
  obtain ⟨reqSeq, fBit, rfl⟩ := Pdu.srejWithoutPoll_eq_true srej
  refine ⟨rfl, ?_⟩
  -- the frame only restarts the retransmission timer
  show (if c.waitingForAckQ.isEmpty then c else l2cFcrStartTimer c).txWindow = c.txWindow
  split
  · rfl
  · exact l2cFcrStartTimer_txWindow c

theorem processReqseq_eq_ackReqseq {c : Channel} {pdu : Pdu}
    (notSrej : pdu.srejWithoutPoll = false) : processReqseq c pdu = ackReqseq c pdu.reqSeq := by
  unfold processReqseq
  split
  · simp [Pdu.srejWithoutPoll] at notSrej
  · rfl

theorem ackReqseq_snd_iff (c : Channel) (reqSeq : Seq) :
    (ackReqseq c reqSeq).2 = true ↔ (reqSeq - c.lastRxAck).val ≤ c.waitingForAckQ.length := by
  unfold ackReqseq
  dsimp only
  split
  · rename_i beyond
    simpa using beyond
  · rename_i within
    simpa using Nat.le_of_not_lt within

/-- A rejected ReqSeq closes the channel and frees nothing. -/
theorem ackReqseq_txWindow_of_lt {c : Channel} {reqSeq : Seq}
    (beyond : c.waitingForAckQ.length < (reqSeq - c.lastRxAck).val) :
    (ackReqseq c reqSeq).1.txWindow = c.txWindow := by
  unfold ackReqseq
  rw [if_pos beyond]
  rfl

/-- An accepted ReqSeq becomes `last_rx_ack` and frees as many frames as it
acknowledges. -/
theorem ackReqseq_txWindow_of_le {c : Channel} {reqSeq : Seq}
    (within : (reqSeq - c.lastRxAck).val ≤ c.waitingForAckQ.length) :
    (ackReqseq c reqSeq).1.txWindow =
      (c.nextTxSeq, reqSeq, c.waitingForAckQ.drop (reqSeq - c.lastRxAck).val, c.peerTxWinSz) := by
  unfold ackReqseq
  rw [if_neg (Nat.not_lt.mpr within)]
  dsimp only
  split_ifs with none <;> simp [Channel.txWindow, l2cFcrStartTimer, l2cFcrStopTimer, none]

/-- `retransmit_i_frames`: with `some seq`, copy the first waiting frame whose
TxSeq is `seq` to the retransmission queue; with `none` (`L2C_FCR_RETX_ALL_PKTS`)
replace the retransmission queue by copies of every waiting frame.  Past
`max_transmit` tries the channel is closed instead. -/
def retransmitIFrames (c : Channel) (txSeq : Option Seq) : Channel × Bool :=
  if !c.waitingForAckQ.isEmpty && c.maxTransmit ≠ 0 && c.maxTransmit ≤ c.numTries then
    (l2cuDisconnectChnl c, false)
  else
    let retried (c : Channel) : Channel :=
      if c.waitingForAckQ.isEmpty then c
      else l2cFcrStartTimer { c with numTries := (c.numTries + 1) % 256 }
    match txSeq with
    | some seq =>
        -- with nothing waiting `p_buf` stays `NULL`: "UNKNOWN seq", and nothing else
        if c.waitingForAckQ.isEmpty then (c, true)
        else
          let found := (c.waitingForAckQ.find? fun frame => frame.txSeq = seq).toList
          (retried { c with retransQ := c.retransQ ++ found }, true)
    | none => (retried { c with retransQ := c.waitingForAckQ }, true)

@[simp] theorem retransmitIFrames_txWindow (c : Channel) (txSeq : Option Seq) :
    (retransmitIFrames c txSeq).1.txWindow = c.txWindow := by
  unfold retransmitIFrames
  split
  · rfl
  · cases txSeq with
    | some seq =>
        dsimp only
        split
        · rfl
        · rfl
    | none =>
        dsimp only
        split <;> rfl

/-- The segmentation step of `l2c_fcr_get_next_xmit_sdu_seg` on the head buffer
of `xmit_hold_q`: the queue that remains, and the SAR bits and payload of the
frame to send.  A buffer longer than `max_pdu` gives up its first `max_pdu`
bytes (the first segment with the SDU length in front) and stays at the head;
otherwise it leaves the queue whole, as the end or an unsegmented SDU. -/
def segmentXmitBuf (buf : XmitBuf) (rest : List XmitBuf) (maxPdu : ℕ) :
    List XmitBuf × Sar × List UInt8 :=
  if maxPdu < buf.data.length then
    let queue := { data := buf.data.drop maxPdu, started := true } :: rest
    if buf.started then (queue, .cont, buf.data.take maxPdu)
    else (queue, .start, uint16ToStream buf.data.length ++ buf.data.take maxPdu)
  else (rest, if buf.started then .end_ else .unseg, buf.data)

/-- `l2c_fcr_get_next_xmit_sdu_seg`.  A frame waiting in `retrans_q` goes first,
re-stamped.  Otherwise the head of `xmit_hold_q` gives its next segment, and a
copy of the stamped frame joins `waiting_for_ack_q`.  With `xmit_hold_q` empty
the source reads through a `NULL` buffer: `none`. -/
def l2cFcrGetNextXmitSduSeg (c : Channel) (maxPacketLength : ℕ) : Option (Channel × IFrame) :=
  match c.retransQ with
  | frame :: rest => some (prepareIFrame { c with retransQ := rest } frame true)
  | [] =>
      let maxPdu :=
        if l2capMaxHeaderFcs < maxPacketLength ∧
            maxPacketLength < c.txMps + l2capMaxHeaderFcs then
          maxPacketLength - l2capMaxHeaderFcs
        else c.txMps
      match c.xmitHoldQ with
      | [] => none
      | buf :: rest =>
          let segment := segmentXmitBuf buf rest maxPdu
          let prepared := prepareIFrame { c with xmitHoldQ := segment.1 }
            { txSeq := 0, reqSeq := 0, fBit := false, sar := segment.2.1,
              payload := segment.2.2 } false
          some ({ prepared.1 with waitingForAckQ := prepared.1.waitingForAckQ ++ [prepared.2] },
            prepared.2)

/-- **The transmit window under segmentation.**  A retransmission leaves it
alone; a new segment is numbered `next_tx_seq` and joins the end of the queue. -/
theorem l2cFcrGetNextXmitSduSeg_txWindow {c c' : Channel} {maxPacketLength : ℕ} {frame : IFrame}
    (taken : l2cFcrGetNextXmitSduSeg c maxPacketLength = some (c', frame)) :
    c'.txWindow = c.txWindow ∨
      (c.retransQ = [] ∧ c.xmitHoldQ ≠ [] ∧ frame.txSeq = c.nextTxSeq ∧
        c'.txWindow =
          (c.nextTxSeq + 1, c.lastRxAck, c.waitingForAckQ ++ [frame], c.peerTxWinSz)) := by
  unfold l2cFcrGetNextXmitSduSeg at taken
  split at taken
  · left
    cases taken
    rfl
  · right
    rename_i retransEmpty
    dsimp only at taken
    split at taken
    · cases taken
    · rename_i buf rest held
      cases taken
      exact ⟨retransEmpty, by simp [held], rfl, rfl⟩

/-- What `l2cu_get_next_channel_in_rr` and `l2cu_get_next_buffer_to_send` check
before they take a segment from an open ERTM channel: no poll outstanding, the
peer not busy, and either a retransmission queued or data queued with the window
open. -/
def ertmChannelServable (c : Channel) : Bool :=
  c.isOpen && !c.waitAck && !c.remoteBusy &&
    (!c.retransQ.isEmpty || (!c.xmitHoldQ.isEmpty && !l2cFcrIsFlowControlled c))

/-- `l2cu_get_next_buffer_to_send` for an ERTM channel on a BR/EDR link: the
channel is served only when `ertmChannelServable`, with `max_packet_length` 0. -/
def l2cuGetNextBufferToSend (c : Channel) : Option (Channel × IFrame) :=
  if ertmChannelServable c then l2cFcrGetNextXmitSduSeg c 0 else none

/-- `l2c_fcr_proc_tout`: count the try; past `max_transmit` close the channel,
otherwise poll the peer unless a REJ or SREJ exception is pending. -/
def l2cFcrProcTout (c : Channel) : Channel :=
  let poll (c : Channel) : Channel :=
    if !c.srejSent && !c.rejSent then l2cFcrSendSFrame c .rr .p else c
  if c.maxTransmit = 0 then poll c
  else
    let c := { c with numTries := (c.numTries + 1) % 256 }
    if c.maxTransmit < c.numTries then l2cuDisconnectChnl c else poll c

@[simp] theorem l2cFcrProcTout_txWindow (c : Channel) :
    (l2cFcrProcTout c).txWindow = c.txWindow := by
  unfold l2cFcrProcTout
  dsimp only
  split
  · split
    · exact l2cFcrSendSFrame_txWindow _ _ _
    · rfl
  · split
    · rfl
    · split
      · exact l2cFcrSendSFrame_txWindow _ _ _
      · rfl

/-- `l2c_fcr_proc_ack_tout`: acknowledge with an RR if frames are unacked. -/
def l2cFcrProcAckTout (c : Channel) : Channel :=
  if c.isOpen && !c.waitAck && c.lastAckSent != c.nextSeqExpected then l2cFcrSendSFrame c .rr .none
  else c

@[simp] theorem l2cFcrProcAckTout_txWindow (c : Channel) :
    (l2cFcrProcAckTout c).txWindow = c.txWindow := by
  unfold l2cFcrProcAckTout
  split
  · exact l2cFcrSendSFrame_txWindow _ _ _
  · rfl

/-- `l2c_enqueue_peer_data` on an ERTM channel: the SDU joins `xmit_hold_q`
with its segmentation not started (`event = 0`). -/
def l2cEnqueuePeerData (c : Channel) (sdu : List UInt8) : Channel :=
  { c with xmitHoldQ := c.xmitHoldQ ++ [{ data := sdu, started := false }] }

@[simp] theorem l2cEnqueuePeerData_txWindow (c : Channel) (sdu : List UInt8) :
    (l2cEnqueuePeerData c sdu).txWindow = c.txWindow := rfl

end Bluedroid.L2cap.Fcr
