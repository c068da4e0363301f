import Bluedroid.Theory.Transition
import Bluedroid.Theory.SlidingWindow
import Bluedroid.L2cap.Fcr.Receive

/-!
# L2cap.Fcr.Window -- the sender window over every run of an ERTM channel

An open ERTM channel reacts to five things (`channelStep`): an SDU written by
the upper layer (`L2CEVT_L2CA_DATA_WRITE`), the link asking for the next frame
(`l2cu_get_next_buffer_to_send`, gated in `l2c_link.cc`), a PDU from the peer
(`l2c_fcr_proc_pdu`), and the expiry of its two alarms (`L2CEVT_TIMEOUT`,
`L2CEVT_ACK_TIMEOUT`).  Which of them comes next is arbitrary, and so is every
field of a received PDU.

`channelStep_txWindow` says once what an event can do to the transmit window:
nothing, an acknowledgement through `processReqseq`, or one new frame sent
while the flow-control gate is open.  From it, every reachable channel keeps
the sliding-window invariant of `Theory.SlidingWindow` over its
`waiting_for_ack_q` (`windowInv_of_reachable`), provided the peer's window is
below the 64 sequence numbers; the gate is what keeps the queue below it.
-/

namespace Bluedroid.L2cap.Fcr

open Bluedroid.Theory

set_option autoImplicit false

/-! ## An ERTM channel as a transition system -/

/-- What can happen to an open ERTM channel. -/
inductive ChannelEvent
  /-- `L2CEVT_L2CA_DATA_WRITE` in `CST_OPEN`. -/
  | dataWrite (sdu : List UInt8)
  /-- The link scheduler serves the channel. -/
  | linkXmit
  /-- `l2c_rcv_acl_data` hands over an intact PDU. -/
  | pduReceived (pdu : Pdu)
  /-- `mon_retrans_timer` fires: `L2CEVT_TIMEOUT`. -/
  | monRetransTimeout
  /-- `ack_timer` fires: `L2CEVT_ACK_TIMEOUT`. -/
  | ackTimeout
  deriving DecidableEq, Repr

/-- One event on a channel; `none` where it cannot happen.  A served frame
joins `sent`; an alarm is no longer scheduled once it has fired. -/
def channelStep (c : Channel) : ChannelEvent → Option Channel
  | .dataWrite sdu => if c.isOpen then some (l2cEnqueuePeerData c sdu) else none
  | .linkXmit =>
      (l2cuGetNextBufferToSend c).map fun served =>
        { served.1 with sent := served.1.sent ++ [.iFrame served.2] }
  | .pduReceived pdu => if c.isOpen then l2cFcrProcPdu c pdu else none
  | .monRetransTimeout =>
      if c.isOpen && c.monRetransTimer then
        some (l2cFcrProcTout { c with monRetransTimer := false })
      else none
  | .ackTimeout =>
      if c.isOpen && c.ackTimer then some (l2cFcrProcAckTout { c with ackTimer := false })
      else none

/-- The gate of `l2cu_get_next_buffer_to_send`: a new frame is only taken while
fewer than `tx_win_sz` frames wait for their acknowledgement. -/
theorem waiting_lt_of_ertmChannelServable {c : Channel} (servable : ertmChannelServable c = true)
    (retransEmpty : c.retransQ = []) : c.waitingForAckQ.length < c.peerTxWinSz := by
  simp only [ertmChannelServable, l2cFcrIsFlowControlled, retransEmpty, List.isEmpty_nil,
    Bool.not_true, Bool.false_or, Bool.and_eq_true, Bool.not_eq_eq_eq_not,
    Bool.or_eq_false_iff, decide_eq_false_iff_not, Nat.not_le] at servable
  exact servable.2.2.2

/-- **What an event does to the transmit window.**  It stays as it was, or
`processReqseq` acknowledges against it (after changes that leave it alone), or
the gate was open and one new frame numbered `next_tx_seq` joined it. -/
theorem channelStep_txWindow {c c' : Channel} {e : ChannelEvent}
    (stepped : channelStep c e = some c') :
    c'.txWindow = c.txWindow ∨
      (∃ d pdu, d.txWindow = c.txWindow ∧ c'.txWindow = (processReqseq d pdu).1.txWindow) ∨
      ∃ frame : IFrame, c.retransQ = [] ∧ ertmChannelServable c = true ∧
        frame.txSeq = c.nextTxSeq ∧
        c'.txWindow =
          (c.nextTxSeq + 1, c.lastRxAck, c.waitingForAckQ ++ [frame], c.peerTxWinSz) := by
  cases e with
  | dataWrite sdu =>
      simp only [channelStep, Option.ite_none_right_eq_some, Option.some.injEq] at stepped
      obtain ⟨-, rfl⟩ := stepped
      exact .inl (l2cEnqueuePeerData_txWindow c sdu)
  | linkXmit =>
      obtain ⟨⟨c₁, frame⟩, served, rfl⟩ := Option.map_eq_some_iff.mp stepped
      unfold l2cuGetNextBufferToSend at served
      split at served
      · rename_i servable
        obtain same | ⟨retransEmpty, -, numbered, shape⟩ :=
          l2cFcrGetNextXmitSduSeg_txWindow served
        · exact .inl same
        · exact .inr (.inr ⟨frame, retransEmpty, servable, numbered, shape⟩)
      · cases served
  | pduReceived pdu =>
      simp only [channelStep, Option.ite_none_right_eq_some] at stepped
      obtain ⟨-, processed⟩ := stepped
      exact (l2cFcrProcPdu_txWindow processed).imp_right .inl
  | monRetransTimeout =>
      simp only [channelStep, Option.ite_none_right_eq_some, Option.some.injEq] at stepped
      obtain ⟨-, rfl⟩ := stepped
      exact .inl (l2cFcrProcTout_txWindow _)
  | ackTimeout =>
      simp only [channelStep, Option.ite_none_right_eq_some, Option.some.injEq] at stepped
      obtain ⟨-, rfl⟩ := stepped
      exact .inl (l2cFcrProcAckTout_txWindow _)

theorem processReqseq_peerTxWinSz (c : Channel) (pdu : Pdu) :
    (processReqseq c pdu).1.peerTxWinSz = c.peerTxWinSz := by
  cases srej : pdu.srejWithoutPoll
  · rw [processReqseq_eq_ackReqseq srej]
    by_cases within : (pdu.reqSeq - c.lastRxAck).val ≤ c.waitingForAckQ.length
    · exact Channel.peerTxWinSz_of_txWindow (ackReqseq_txWindow_of_le within)
    · exact Channel.peerTxWinSz_of_txWindow
        (ackReqseq_txWindow_of_lt (Nat.lt_of_not_le within))
  · exact Channel.peerTxWinSz_of_txWindow (processReqseq_of_srejWithoutPoll srej).2

/-- No event renegotiates the peer's window. -/
theorem channelStep_peerTxWinSz {c c' : Channel} {e : ChannelEvent}
    (stepped : channelStep c e = some c') : c'.peerTxWinSz = c.peerTxWinSz := by
  obtain same | ⟨d, pdu, same, acked⟩ | ⟨frame, -, -, -, shape⟩ :=
    channelStep_txWindow stepped
  · exact Channel.peerTxWinSz_of_txWindow same
  · calc c'.peerTxWinSz = (processReqseq d pdu).1.peerTxWinSz :=
          Channel.peerTxWinSz_of_txWindow acked
      _ = d.peerTxWinSz := processReqseq_peerTxWinSz d pdu
      _ = c.peerTxWinSz := Channel.peerTxWinSz_of_txWindow same
  · exact Channel.peerTxWinSz_of_txWindow shape

/-! ## The window invariant -/

/-- **The sender window** of a channel: `waiting_for_ack_q` holds the frames
numbered `last_rx_ack, last_rx_ack + 1, …`, `(next_tx_seq - last_rx_ack) mod 64`
of them, and at most the peer's `tx_win_sz`. -/
def WindowInv (c : Channel) : Prop :=
  SendWindow IFrame.txSeq c.nextTxSeq c.lastRxAck c.waitingForAckQ c.peerTxWinSz

theorem windowInv_of_txWindow {c : Channel} {next last : Seq} {waiting : List IFrame}
    {peer : ℕ} (shape : c.txWindow = (next, last, waiting, peer))
    (window : SendWindow IFrame.txSeq next last waiting peer) : WindowInv c := by
  obtain ⟨rfl, rfl, rfl, rfl⟩ := Channel.txWindow_eq_iff.mp shape
  exact window

/-- The invariant reads only the transmit window. -/
theorem WindowInv.of_txWindow {c c' : Channel} (same : c'.txWindow = c.txWindow)
    (inv : WindowInv c) : WindowInv c' :=
  windowInv_of_txWindow same inv

section Reqseq

variable {c : Channel}

theorem WindowInv.ackReqseq_fst (inv : WindowInv c) (reqSeq : Seq) :
    WindowInv (ackReqseq c reqSeq).1 := by
  by_cases within : (reqSeq - c.lastRxAck).val ≤ c.waitingForAckQ.length
  · exact windowInv_of_txWindow (ackReqseq_txWindow_of_le within) (inv.ack within)
  · exact inv.of_txWindow (ackReqseq_txWindow_of_lt (Nat.lt_of_not_le within))

theorem WindowInv.processReqseq_fst (inv : WindowInv c) (pdu : Pdu) :
    WindowInv (processReqseq c pdu).1 := by
  cases srej : pdu.srejWithoutPoll
  · rw [processReqseq_eq_ackReqseq srej]
    exact inv.ackReqseq_fst pdu.reqSeq
  · exact inv.of_txWindow (processReqseq_of_srejWithoutPoll srej).2

/-- Against the window, a ReqSeq is accepted exactly when it lies from
`last_rx_ack` to `next_tx_seq`. -/
theorem WindowInv.processReqseq_snd_iff (inv : WindowInv c) {pdu : Pdu}
    (notSrej : pdu.srejWithoutPoll = false) :
    (processReqseq c pdu).2 = true ↔ CyclicIcc c.lastRxAck c.nextTxSeq pdu.reqSeq := by
  rw [processReqseq_eq_ackReqseq notSrej, ackReqseq_snd_iff]
  exact inv.ack_le_length_iff pdu.reqSeq

/-- An accepted ReqSeq frees exactly the frames numbered from `last_rx_ack` up
to it, no more than are waiting. -/
theorem WindowInv.processReqseq_waitingForAckQ (inv : WindowInv c) {pdu : Pdu}
    (notSrej : pdu.srejWithoutPoll = false) (accepted : (processReqseq c pdu).2 = true) :
    (pdu.reqSeq - c.lastRxAck).val ≤ c.waitingForAckQ.length ∧
      (processReqseq c pdu).1.waitingForAckQ =
        c.waitingForAckQ.filter fun frame =>
          !decide (CyclicIco c.lastRxAck pdu.reqSeq frame.txSeq) := by
  rw [processReqseq_eq_ackReqseq notSrej] at accepted ⊢
  have within := (ackReqseq_snd_iff c pdu.reqSeq).mp accepted
  refine ⟨within, ?_⟩
  rw [Channel.waitingForAckQ_of_txWindow (ackReqseq_txWindow_of_le within)]
  exact inv.drop_eq_filter pdu.reqSeq

end Reqseq

/-- **One step.**  Every event keeps the window, while the peer's window is
below the sequence space. -/
theorem WindowInv.step {c c' : Channel} {e : ChannelEvent} (inv : WindowInv c)
    (small : c.peerTxWinSz ≤ 63) (stepped : channelStep c e = some c') : WindowInv c' := by
  obtain same | ⟨d, pdu, same, acked⟩ | ⟨frame, retransEmpty, servable, numbered, shape⟩ :=
    channelStep_txWindow stepped
  · exact inv.of_txWindow same
  · exact ((inv.of_txWindow same).processReqseq_fst pdu).of_txWindow acked
  · have room := waiting_lt_of_ertmChannelServable servable retransEmpty
    exact windowInv_of_txWindow shape (inv.send room (by omega) numbered)

section Reachable

variable {ourTxWinSz peerTxWinSz maxTransmit txMps maxRxMtu maxHeldAcks : ℕ} {c : Channel}

theorem windowInv_opened :
    WindowInv (Channel.opened ourTxWinSz peerTxWinSz maxTransmit txMps maxRxMtu maxHeldAcks) :=
  SendWindow.empty IFrame.txSeq 0 peerTxWinSz

/-- **Every run.**  From a freshly opened channel whose peer window is at most
63, every reachable channel keeps the sender window. -/
theorem windowInv_of_reachable (small : peerTxWinSz ≤ 63)
    (reach : Reachable channelStep
      (Channel.opened ourTxWinSz peerTxWinSz maxTransmit txMps maxRxMtu maxHeldAcks) c) :
    WindowInv c ∧ c.peerTxWinSz ≤ 63 := by
  refine Reachable.rec_invariant (P := fun c => WindowInv c ∧ c.peerTxWinSz ≤ 63)
    ⟨windowInv_opened, small⟩ ?_ reach
  intro s e t ⟨inv, bounded⟩ stepped
  exact ⟨inv.step bounded stepped, (channelStep_peerTxWinSz stepped).trans_le bounded⟩

/-- The sender window and what it says of `process_reqseq`, in every reachable
state: the waiting frames are counted by the two sequence numbers, bounded by
the peer's window and numbered in order; an SREJ without the P-bit is accepted
and frees nothing; any other frame's ReqSeq is accepted exactly when it lies
from `last_rx_ack` to `next_tx_seq`, and then frees exactly the frames numbered
from `last_rx_ack` up to it, no more than are waiting. -/
theorem sender_window_of_reachable (small : peerTxWinSz ≤ 63)
    (reach : Reachable channelStep
      (Channel.opened ourTxWinSz peerTxWinSz maxTransmit txMps maxRxMtu maxHeldAcks) c) :
    c.waitingForAckQ.length = (c.nextTxSeq - c.lastRxAck).val ∧
    c.waitingForAckQ.length ≤ c.peerTxWinSz ∧
    Consecutive IFrame.txSeq c.lastRxAck c.waitingForAckQ ∧
    (∀ pdu : Pdu, pdu.srejWithoutPoll = true →
      (processReqseq c pdu).2 = true ∧
        (processReqseq c pdu).1.waitingForAckQ = c.waitingForAckQ) ∧
    ∀ pdu : Pdu, pdu.srejWithoutPoll = false →
      ((processReqseq c pdu).2 = true ↔ CyclicIcc c.lastRxAck c.nextTxSeq pdu.reqSeq) ∧
      ((processReqseq c pdu).2 = true →
        (pdu.reqSeq - c.lastRxAck).val ≤ c.waitingForAckQ.length ∧
        (processReqseq c pdu).1.waitingForAckQ =
          c.waitingForAckQ.filter fun frame =>
            !decide (CyclicIco c.lastRxAck pdu.reqSeq frame.txSeq)) := by
  obtain ⟨inv, -⟩ := windowInv_of_reachable small reach
  refine ⟨inv.length_eq, inv.length_le, inv.consecutive, ?_, ?_⟩
  · intro pdu srej
    obtain ⟨accepted, same⟩ := processReqseq_of_srejWithoutPoll (c := c) srej
    exact ⟨accepted, Channel.waitingForAckQ_of_txWindow same⟩
  · intro pdu notSrej
    exact ⟨inv.processReqseq_snd_iff notSrej, inv.processReqseq_waitingForAckQ notSrej⟩

/-- After three SDUs, an RR that acknowledges the first and an SREJ without the
P-bit for the second, which the channel then sends again: two frames still
wait, and the sender window and what it says of process_reqseq hold there. -/
theorem sender_window_after_srej :
    ∃ c, (63 : ℕ) ≤ 63 ∧ Reachable channelStep (Channel.opened 63 63 10 1000 1000 21) c ∧
      c.waitingForAckQ.map IFrame.txSeq = [1, 2] ∧ c.lastRxAck = 1 ∧ c.nextTxSeq = 3 ∧
      c.sent.length = 4 ∧
      (c.waitingForAckQ.length = (c.nextTxSeq - c.lastRxAck).val ∧
      c.waitingForAckQ.length ≤ c.peerTxWinSz ∧
      Consecutive IFrame.txSeq c.lastRxAck c.waitingForAckQ ∧
      (∀ pdu : Pdu, pdu.srejWithoutPoll = true →
        (processReqseq c pdu).2 = true ∧
          (processReqseq c pdu).1.waitingForAckQ = c.waitingForAckQ) ∧
      ∀ pdu : Pdu, pdu.srejWithoutPoll = false →
        ((processReqseq c pdu).2 = true ↔ CyclicIcc c.lastRxAck c.nextTxSeq pdu.reqSeq) ∧
        ((processReqseq c pdu).2 = true →
          (pdu.reqSeq - c.lastRxAck).val ≤ c.waitingForAckQ.length ∧
          (processReqseq c pdu).1.waitingForAckQ =
            c.waitingForAckQ.filter fun frame =>
              !decide (CyclicIco c.lastRxAck pdu.reqSeq frame.txSeq))) := by
  have reach := @Reachable.of_run _ _ channelStep (Channel.opened 63 63 10 1000 1000 21) _
    [.dataWrite [1], .linkXmit, .dataWrite [2], .linkXmit, .dataWrite [3], .linkXmit,
      .pduReceived (.sFrame ⟨.rr, 1, false, false⟩), .pduReceived (.sFrame ⟨.srej, 2, false, false⟩),
      .linkXmit] rfl
  exact ⟨_, le_refl 63, reach, rfl, rfl, rfl, rfl, sender_window_of_reachable (le_refl 63) reach⟩

/-- An SREJ without the P-bit passes `process_reqseq` whatever its ReqSeq: here,
in a freshly opened channel with nothing sent, one that names frame 5. -/
theorem srej_accepted_outside_window :
    ∃ c, Reachable channelStep (Channel.opened 63 63 10 1000 1000 21) c ∧
      (processReqseq c (.sFrame ⟨.srej, 5, false, false⟩)).2 = true ∧
      ¬ CyclicIcc c.lastRxAck c.nextTxSeq 5 :=
  ⟨_, Reachable.init _ _, rfl, by decide⟩

end Reachable

end Bluedroid.L2cap.Fcr
