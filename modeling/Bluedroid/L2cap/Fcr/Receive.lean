import Bluedroid.L2cap.Fcr.Transmit

/-!
# L2cap.Fcr.Receive -- the receiving half of `l2c_fcr.cc`

`l2cFcrProcPdu` (`l2c_fcr_proc_pdu`) takes one intact PDU:

1. while a poll is outstanding (`wait_ack`) only a final frame is processed; a
   polled S-frame is answered and everything else dropped;
2. `processReqseq` releases the acknowledged frames (or closes the channel);
3. `processSFrame` handles RR, REJ, RNR and SREJ, `processIFrame` either
   delivers an in-sequence frame through `doSarReassembly`, drops a duplicate,
   or enters the REJ or SREJ exception, holding out-of-sequence frames in
   `srej_rcv_hold_q`;
4. once the SREJ exception has cleared, the held frames are processed in order
   (`drainSrejHoldQ`), each with the control word it arrived with.

`processIFrame` returns `none` where the source dereferences the `NULL` that
`fixed_queue_try_peek_last` returns for an empty hold queue.  None of these
functions changes the transmit window except `processReqseq`
(`l2cFcrProcPdu_txWindow`).
-/

namespace Bluedroid.L2cap.Fcr

set_option autoImplicit false

/-- The end of `do_sar_reassembly` for a start, continuation or end segment:
check the bytes against `rx_sdu_len`, append them, and pass the SDU up at its
end. -/
def sarAppend (c : Channel) (sar : Sar) (data : List UInt8) : Channel × Bool :=
  let sdu := c.pRxSdu.getD []
  if c.rxSduLen < sdu.length + data.length then (c, false)
  else if sar = .end_ ∧ sdu.length + data.length ≠ c.rxSduLen then (c, false)
  else if sar = .end_ then
    ({ c with pRxSdu := none, delivered := c.delivered ++ [sdu ++ data] }, true)
  else ({ c with pRxSdu := some (sdu ++ data) }, true)

/-- The SAR state check that opens `do_sar_reassembly`: an unsegmented or start
frame only when no SDU is being reassembled (a start with its two length bytes),
a continuation or end only when one is. -/
def sarStateOk (c : Channel) (frame : IFrame) : Bool :=
  match frame.sar with
  | .unseg => c.pRxSdu.isNone
  | .start => c.pRxSdu.isNone && decide (2 ≤ frame.payload.length)
  | .end_ | .cont => c.pRxSdu.isSome

/-- `do_sar_reassembly`: check the SAR bits against the reassembly state, then
pass an unsegmented SDU up, or start, extend or finish `p_rx_sdu`.  `false` on a
SAR error, after which the caller closes the channel. -/
def doSarReassembly (c : Channel) (frame : IFrame) : Channel × Bool :=
  if !sarStateOk c frame then (c, false)
  else
    match frame.sar, frame.payload with
    | .unseg, payload => ({ c with delivered := c.delivered ++ [payload] }, true)
    | .start, b₀ :: b₁ :: data =>
        let c := { c with rxSduLen := streamToUint16 b₀ b₁ }
        if c.maxRxMtu < c.rxSduLen then (c, false)
        else sarAppend { c with pRxSdu := some [] } .start data
    -- `stateOk` has already refused a start segment shorter than two bytes
    | .start, _ => (c, false)
    | sar, data => sarAppend c sar data

@[simp] theorem sarAppend_txWindow (c : Channel) (sar : Sar) (data : List UInt8) :
    (sarAppend c sar data).1.txWindow = c.txWindow := by
  unfold sarAppend
  dsimp only
  split_ifs <;> rfl

@[simp] theorem doSarReassembly_txWindow (c : Channel) (frame : IFrame) :
    (doSarReassembly c frame).1.txWindow = c.txWindow := by
  unfold doSarReassembly
  split
  · rfl
  · split
    · rfl
    · dsimp only
      split
      · rfl
      · exact sarAppend_txWindow _ _ _
    · rfl
    · exact sarAppend_txWindow _ _ _

/-- The `switch` of `process_s_frame` on the supervisory function: RR with F
(or after the peer was busy), REJ and SREJ resend, RNR marks the peer busy and
stops the timer.  `false` when a retransmission closed the channel. -/
def processSFrameFunction (c : Channel) (frame : SFrame) : Channel × Bool :=
  match frame.sup with
  | .rr =>
      let remoteWasBusy := c.remoteBusy
      let c := { c with remoteBusy := false }
      if frame.fBit || remoteWasBusy then retransmitIFrames c none else (c, true)
  | .rej => retransmitIFrames { c with remoteBusy := false } none
  | .rnr => (l2cFcrStopTimer { c with remoteBusy := true }, true)
  | .srej => retransmitIFrames { c with remoteBusy := false } (some frame.reqSeq)

/-- `process_s_frame`.  A poll clears the REJ exception and owes an F-bit, which
goes out as an SREJ while our own SREJ is pending and as an RR otherwise. -/
def processSFrame (c : Channel) (frame : SFrame) : Channel :=
  let c := if frame.pBit then { c with rejSent := false, sendFRsp := true } else c
  let switched := processSFrameFunction c frame
  let c := switched.1
  if switched.2 && c.sendFRsp then
    { l2cFcrSendSFrame c (if c.srejSent then .srej else .rr) .f with sendFRsp := false }
  else c

@[simp] theorem processSFrameFunction_txWindow (c : Channel) (frame : SFrame) :
    (processSFrameFunction c frame).1.txWindow = c.txWindow := by
  unfold processSFrameFunction
  split
  · dsimp only
    split
    · exact retransmitIFrames_txWindow _ _
    · rfl
  · exact retransmitIFrames_txWindow _ _
  · rfl
  · exact retransmitIFrames_txWindow _ _

@[simp] theorem processSFrame_txWindow (c : Channel) (frame : SFrame) :
    (processSFrame c frame).txWindow = c.txWindow := by
  unfold processSFrame
  dsimp only
  -- the poll bookkeeping, the switch and the F-bit response all leave it alone
  split_ifs <;> first
    | exact (l2cFcrSendSFrame_txWindow _ _ _).trans (processSFrameFunction_txWindow _ _)
    | exact processSFrameFunction_txWindow _ _

/-- The branch of `process_i_frame` for a frame that is not the expected one:
drop a duplicate; while an SREJ is pending hold the frame if it is the next
after the last held one; otherwise enter the SREJ exception (one frame missing,
this one held) or the REJ exception (several missing). -/
def processIFrameOutOfSeq (c : Channel) (frame : IFrame) : Option Channel :=
  let numLost := (frame.txSeq - c.nextSeqExpected).val
  if c.ourTxWinSz ≤ numLost then some c
  else if c.srejSent then
    match c.srejRcvHoldQ.getLast? with
    | none => none
    | some last =>
        if frame.txSeq = last.txSeq + 1 ∧ c.srejRcvHoldQ.length < c.ourTxWinSz then
          some { c with srejRcvHoldQ := c.srejRcvHoldQ ++ [frame] }
        else some { c with rejAfterSrej := true }
  else if c.rejSent then some c
  else if 1 < numLost then
    some { l2cFcrSendSFrame { c with rejSent := true } .rej .none with ackTimer := false }
  else
    some { l2cFcrSendSFrame { c with srejRcvHoldQ := c.srejRcvHoldQ ++ [frame], srejSent := true }
      .srej .none with ackTimer := false }

/-- The branch of `process_i_frame` for the expected frame: clear the reject
exceptions, advance `next_seq_expected`, reassemble (closing the channel on a
SAR error), then acknowledge now with an RR or later by the ack timer. -/
def processIFrameInSeq (c : Channel) (frame : IFrame) (delayAck : Bool) : Option Channel :=
  let reassembled :=
    doSarReassembly
      { c with rejSent := false, srejSent := false, nextSeqExpected := frame.txSeq + 1 } frame
  let c := reassembled.1
  if !reassembled.2 then some (l2cuDisconnectChnl c)
  else
    let numToAck := (c.nextSeqExpected - c.lastAckSent).val
    let delayAck := delayAck || decide (numToAck < c.maxHeldAcks)
    if numToAck ≠ 0 ∧ c.isOpen then
      if delayAck then some { c with ackTimer := true }
      else if (c.xmitHoldQ.isEmpty || l2cFcrIsFlowControlled c) && c.srejRcvHoldQ.isEmpty then
        some (l2cFcrSendSFrame c .rr .none)
      else some c
    else some c

/-- `process_i_frame`.  `fBit` is the F-bit as `l2c_fcr_proc_pdu` passes it on
(a final frame first triggers a full retransmission); `frame` is the frame as
received, which is what the hold queue keeps. -/
def processIFrame (c : Channel) (frame : IFrame) (fBit delayAck : Bool) : Option Channel :=
  let checkpoint := if fBit then retransmitIFrames c none else (c, true)
  let c := checkpoint.1
  if !checkpoint.2 then some c
  else if frame.txSeq ≠ c.nextSeqExpected then processIFrameOutOfSeq c frame
  else processIFrameInSeq c frame delayAck

theorem processIFrameOutOfSeq_txWindow {c c' : Channel} {frame : IFrame}
    (processed : processIFrameOutOfSeq c frame = some c') : c'.txWindow = c.txWindow := by
  unfold processIFrameOutOfSeq at processed
  dsimp only at processed
  split at processed
  · cases processed; rfl
  · split at processed
    · split at processed
      · cases processed
      · split at processed <;> (cases processed; rfl)
    · split at processed
      · cases processed; rfl
      · split at processed <;> (cases processed; exact l2cFcrSendSFrame_txWindow _ _ _)

theorem processIFrameInSeq_txWindow {c c' : Channel} {frame : IFrame} {delayAck : Bool}
    (processed : processIFrameInSeq c frame delayAck = some c') : c'.txWindow = c.txWindow := by
  unfold processIFrameInSeq at processed
  have reassembled := doSarReassembly_txWindow
    { c with rejSent := false, srejSent := false, nextSeqExpected := frame.txSeq + 1 } frame
  dsimp only at processed
  split at processed
  · cases processed; exact reassembled
  · split at processed
    · split at processed
      · cases processed; exact reassembled
      · split at processed
        · cases processed; exact (l2cFcrSendSFrame_txWindow _ _ _).trans reassembled
        · cases processed; exact reassembled
    · cases processed; exact reassembled

theorem processIFrame_txWindow {c c' : Channel} {frame : IFrame} {fBit delayAck : Bool}
    (processed : processIFrame c frame fBit delayAck = some c') : c'.txWindow = c.txWindow := by
  unfold processIFrame at processed
  have checkpoint :
      (if fBit then retransmitIFrames c none else (c, true)).1.txWindow = c.txWindow := by
    split <;> simp
  generalize (if fBit then retransmitIFrames c none else (c, true)) = checked
    at processed checkpoint
  dsimp only at processed
  split at processed
  · cases processed; exact checkpoint
  · split at processed
    · exact (processIFrameOutOfSeq_txWindow processed).trans checkpoint
    · exact (processIFrameInSeq_txWindow processed).trans checkpoint

/-- After each held frame: frames lost while the SREJ was outstanding are asked
for again with one REJ. -/
def rejAfterSrejCheck (c : Channel) : Channel :=
  if c.rejAfterSrej then
    l2cFcrSendSFrame { c with rejAfterSrej := false, rejSent := true } .rej .none
  else c

/-- The loop of `l2c_fcr_proc_pdu` over the frames held while an SREJ was
outstanding: each is processed with the control word it arrived with and
without an RR of its own. -/
def drainSrejHoldQ (c : Channel) : List IFrame → Option Channel
  | [] => some c
  | frame :: rest =>
      match (if c.isOpen then processIFrame c frame frame.fBit true else some c) with
      | none => none
      | some c => drainSrejHoldQ (rejAfterSrejCheck c) rest

/-- The end of `l2c_fcr_proc_pdu` once a frame has been processed: if the
channel is still open and the SREJ exception has cleared with frames held,
process them in order on a fresh hold queue, then acknowledge them with one RR. -/
def procSrejHoldQ (c : Channel) : Option Channel :=
  if c.isOpen && !c.srejSent && !c.srejRcvHoldQ.isEmpty then
    match drainSrejHoldQ { c with srejRcvHoldQ := [] } c.srejRcvHoldQ with
    | none => none
    | some c =>
        if !c.rejSent && !c.srejSent && c.nextSeqExpected != c.lastAckSent then
          some (l2cFcrSendSFrame c .rr .none)
        else some c
  else some c

/-- A final frame ends `wait_ack`: `num_tries` restarts if nothing waits for an
ack, and the monitor timer stops. -/
def finalReceived (c : Channel) : Channel :=
  l2cFcrStopTimer
    { c with waitAck := false, numTries := if c.waitingForAckQ.isEmpty then 0 else c.numTries }

/-- `l2c_fcr_proc_pdu` on an intact PDU.  While a poll is outstanding a frame
without the F-bit is dropped, after answering it if it is a poll itself.  A
final S-frame has its P-bit ignored; outside `wait_ack` the F-bit is ignored.
Then ReqSeq, then the frame itself, then the frames held for an SREJ. -/
def l2cFcrProcPdu (c : Channel) (pdu : Pdu) : Option Channel :=
  if c.waitAck && !pdu.fBit then
    match pdu with
    | .sFrame ⟨_, _, true, _⟩ =>
        some { l2cFcrSendSFrame c (if c.srejSent then .srej else .rr) .f with
                 monRetransTimer := true }
    | _ => some c
  else
    match pdu with
    | .sFrame frame =>
        let frame :=
          if c.waitAck then { frame with pBit := false } else { frame with fBit := false }
        let c := if c.waitAck then finalReceived c else c
        let acked := processReqseq c (.sFrame frame)
        if !acked.2 then some acked.1 else procSrejHoldQ (processSFrame acked.1 frame)
    | .iFrame frame =>
        let fBit := c.waitAck && frame.fBit
        let c := if c.waitAck then finalReceived c else c
        let acked := processReqseq c (.iFrame frame)
        if !acked.2 then some acked.1
        else (processIFrame acked.1 frame fBit false).bind procSrejHoldQ

@[simp] theorem rejAfterSrejCheck_txWindow (c : Channel) :
    (rejAfterSrejCheck c).txWindow = c.txWindow := by
  unfold rejAfterSrejCheck
  split
  · exact l2cFcrSendSFrame_txWindow _ _ _
  · rfl

theorem drainSrejHoldQ_txWindow {c c' : Channel} {held : List IFrame}
    (drained : drainSrejHoldQ c held = some c') : c'.txWindow = c.txWindow := by
  induction held generalizing c with
  | nil => cases drained; rfl
  | cons frame rest ih =>
      unfold drainSrejHoldQ at drained
      split at drained
      · cases drained
      · rename_i c₁ processed
        have first : c₁.txWindow = c.txWindow := by
          split at processed
          · exact processIFrame_txWindow processed
          · cases processed; rfl
        rw [ih drained, rejAfterSrejCheck_txWindow, first]

theorem procSrejHoldQ_txWindow {c c' : Channel} (processed : procSrejHoldQ c = some c') :
    c'.txWindow = c.txWindow := by
  unfold procSrejHoldQ at processed
  split at processed
  · split at processed
    · cases processed
    · rename_i c₁ drained
      have held := drainSrejHoldQ_txWindow drained
      split at processed <;> cases processed
      · exact (l2cFcrSendSFrame_txWindow _ _ _).trans held
      · exact held
  · cases processed; rfl

@[simp] theorem finalReceived_txWindow (c : Channel) :
    (finalReceived c).txWindow = c.txWindow := rfl

/-- **Only `process_reqseq` moves the transmit window.**  Whatever else a PDU
makes the channel do, the window afterwards is the one `processReqseq` left,
from a state with the window it was given. -/
theorem l2cFcrProcPdu_txWindow {c c' : Channel} {pdu : Pdu}
    (processed : l2cFcrProcPdu c pdu = some c') :
    c'.txWindow = c.txWindow ∨
      ∃ d ctrl, d.txWindow = c.txWindow ∧ c'.txWindow = (processReqseq d ctrl).1.txWindow := by
  have entered : (if c.waitAck then finalReceived c else c).txWindow = c.txWindow := by
    split <;> rfl
  unfold l2cFcrProcPdu at processed
  split at processed
  · -- waiting for a final frame: at most a poll is answered
    left
    split at processed <;> cases processed
    · exact l2cFcrSendSFrame_txWindow _ _ _
    · rfl
  · right
    cases pdu with
    | sFrame frame =>
        dsimp only at processed
        let ctrl :=
          if c.waitAck then { frame with pBit := false } else { frame with fBit := false }
        refine ⟨_, .sFrame ctrl, entered, ?_⟩
        generalize processReqseq (if c.waitAck then finalReceived c else c) (.sFrame ctrl) = acked
          at processed ⊢
        split at processed
        · cases processed; rfl
        · exact (procSrejHoldQ_txWindow processed).trans (processSFrame_txWindow _ _)
    | iFrame frame =>
        dsimp only at processed
        refine ⟨_, .iFrame frame, entered, ?_⟩
        generalize processReqseq (if c.waitAck then finalReceived c else c) (.iFrame frame) = acked
          at processed ⊢
        split at processed
        · cases processed; rfl
        · obtain ⟨c₁, framed, held⟩ := Option.bind_eq_some_iff.mp processed
          exact (procSrejHoldQ_txWindow held).trans (processIFrame_txWindow framed)

end Bluedroid.L2cap.Fcr
