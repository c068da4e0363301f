import Bluedroid.L2cap.Fcr.Window

/-!
# L2cap.Fcr.HoldQueue -- the SREJ hold queue over every run of an ERTM channel

When exactly one I-frame is missing, `process_i_frame` sends an SREJ for it and
holds the frames that follow in `srej_rcv_hold_q`.  While `srej_sent` it reads
the TxSeq of the last held frame through `fixed_queue_try_peek_last`, which is
`NULL` on an empty queue (`processIFrame` is `none` there).  When the missing
frame arrives the exception clears, and `l2c_fcr_proc_pdu` swaps in a fresh
queue and processes the held frames in order (`drainSrejHoldQ`).

`SrejHeld` is the invariant: while an SREJ is outstanding the queue is not
empty, its frames carry the TxSeqs from `next_seq_expected + 1` on, and there
are fewer of them than our window.  The other events never touch the receive
side (`KeepsHold`), and `processIFrame_cases` says once what one I-frame can do
to it: nothing, hold the frame after the last held one, start the queue with a
frame one past the expected one, or take the expected frame.  The drain keeps a
stronger invariant (`DrainInv`): while an SREJ is outstanding, none of the held
frames still to come is the expected one.

From a freshly opened channel, every reachable channel keeps `SrejHeld`, never
reaches the `NULL` peek on any PDU, and when the exception clears the held
frames are the ones expected next, in order (`srej_hold_queue_of_reachable`).
-/

namespace Bluedroid.L2cap.Fcr

open Bluedroid.Theory

set_option autoImplicit false

/-! ## The receive side of the SREJ exception -/

namespace Channel

/-- What the SREJ exception reads: whether an SREJ is outstanding, the frames
held for it, the next TxSeq expected, and our window. -/
def holdView (c : Channel) : Bool × List IFrame × Seq × ℕ :=
  (c.srejSent, c.srejRcvHoldQ, c.nextSeqExpected, c.ourTxWinSz)

theorem holdView_eq_iff {c : Channel} {srej : Bool} {held : List IFrame} {next : Seq} {win : ℕ} :
    c.holdView = (srej, held, next, win) ↔
      c.srejSent = srej ∧ c.srejRcvHoldQ = held ∧ c.nextSeqExpected = next ∧ c.ourTxWinSz = win := by
  simp [holdView]

end Channel

/-- `c'` has the hold view of `c`, and is open only if `c` is. -/
def KeepsHold (c c' : Channel) : Prop :=
  c'.holdView = c.holdView ∧ (c'.isOpen = true → c.isOpen = true)

theorem KeepsHold.refl (c : Channel) : KeepsHold c c := ⟨rfl, id⟩

theorem KeepsHold.trans {c₁ c₂ c₃ : Channel} (first : KeepsHold c₁ c₂) (second : KeepsHold c₂ c₃) :
    KeepsHold c₁ c₃ :=
  ⟨second.1.trans first.1, fun open₃ => first.2 (second.2 open₃)⟩

/-! ## Everything but an I-frame keeps it -/

theorem keepsHold_l2cuDisconnectChnl (c : Channel) : KeepsHold c (l2cuDisconnectChnl c) :=
  ⟨rfl, fun isOpen => absurd isOpen (by simp [l2cuDisconnectChnl])⟩

theorem keepsHold_l2cFcrSendSFrame (c : Channel) (functionCode : Sup) (pfBit : PfBit) :
    KeepsHold c (l2cFcrSendSFrame c functionCode pfBit) := by
  unfold l2cFcrSendSFrame
  split
  · split <;> exact ⟨rfl, id⟩
  · exact KeepsHold.refl c

theorem keepsHold_retransmitIFrames (c : Channel) (txSeq : Option Seq) :
    KeepsHold c (retransmitIFrames c txSeq).1 := by
  unfold retransmitIFrames
  split
  · exact keepsHold_l2cuDisconnectChnl c
  · cases txSeq with
    | some seq =>
      dsimp only
      split
      · exact KeepsHold.refl c
      · exact ⟨rfl, id⟩
    | none =>
      dsimp only
      split <;> exact ⟨rfl, id⟩

theorem keepsHold_processReqseq (c : Channel) (pdu : Pdu) : KeepsHold c (processReqseq c pdu).1 := by
  unfold processReqseq ackReqseq
  split
  · split <;> exact ⟨rfl, id⟩
  · dsimp only
    split
    · exact keepsHold_l2cuDisconnectChnl c
    · split_ifs <;> exact ⟨rfl, id⟩

theorem keepsHold_processSFrame (c : Channel) (frame : SFrame) : KeepsHold c (processSFrame c frame) := by
  -- the poll bookkeeping and the switch only retransmit; the answer is an S-frame
  have polled : KeepsHold c (if frame.pBit then { c with rejSent := false, sendFRsp := true } else c) := by
    split <;> exact ⟨rfl, id⟩
  have switched : ∀ c₁ : Channel, KeepsHold c₁ (processSFrameFunction c₁ frame).1 := by
    intro c₁
    unfold processSFrameFunction
    split
    · dsimp only
      split
      · exact KeepsHold.trans ⟨rfl, id⟩ (keepsHold_retransmitIFrames _ none)
      · exact ⟨rfl, id⟩
    · exact KeepsHold.trans ⟨rfl, id⟩ (keepsHold_retransmitIFrames _ none)
    · exact ⟨rfl, id⟩
    · exact KeepsHold.trans ⟨rfl, id⟩ (keepsHold_retransmitIFrames _ _)
  have answered : ∀ c₁ : Channel, KeepsHold c c₁ → KeepsHold c
      (if (processSFrameFunction c₁ frame).2 && (processSFrameFunction c₁ frame).1.sendFRsp then
        { l2cFcrSendSFrame (processSFrameFunction c₁ frame).1
            (if (processSFrameFunction c₁ frame).1.srejSent then .srej else .rr) .f with
          sendFRsp := false }
      else (processSFrameFunction c₁ frame).1) := by
    intro c₁ keeps
    split
    · exact (keeps.trans (switched c₁)).trans ((keepsHold_l2cFcrSendSFrame _ _ _).trans ⟨rfl, id⟩)
    · exact keeps.trans (switched c₁)
  exact answered _ polled

theorem keepsHold_finalReceived (c : Channel) : KeepsHold c (finalReceived c) := ⟨rfl, id⟩

theorem keepsHold_rejAfterSrejCheck (c : Channel) : KeepsHold c (rejAfterSrejCheck c) := by
  unfold rejAfterSrejCheck
  split
  · exact KeepsHold.trans ⟨rfl, id⟩ (keepsHold_l2cFcrSendSFrame _ _ _)
  · exact KeepsHold.refl c

theorem keepsHold_doSarReassembly (c : Channel) (frame : IFrame) :
    KeepsHold c (doSarReassembly c frame).1 := by
  have appended : ∀ (c₁ : Channel) (sar : Sar) (data : List UInt8), KeepsHold c₁ (sarAppend c₁ sar data).1 := by
    intro c₁ sar data
    unfold sarAppend
    dsimp only
    split_ifs <;> exact ⟨rfl, id⟩
  unfold doSarReassembly
  split
  · exact KeepsHold.refl c
  · split
    · exact ⟨rfl, id⟩
    · dsimp only
      split
      · exact ⟨rfl, id⟩
      · exact KeepsHold.trans ⟨rfl, id⟩ (appended _ _ _)
    · exact KeepsHold.refl c
    · exact appended _ _ _

theorem keepsHold_l2cFcrProcTout (c : Channel) : KeepsHold c (l2cFcrProcTout c) := by
  unfold l2cFcrProcTout
  dsimp only
  split
  · split
    · exact keepsHold_l2cFcrSendSFrame _ _ _
    · exact KeepsHold.refl c
  · split
    · exact KeepsHold.trans ⟨rfl, id⟩ (keepsHold_l2cuDisconnectChnl _)
    · split
      · exact KeepsHold.trans ⟨rfl, id⟩ (keepsHold_l2cFcrSendSFrame _ _ _)
      · exact ⟨rfl, id⟩

theorem keepsHold_l2cFcrProcAckTout (c : Channel) : KeepsHold c (l2cFcrProcAckTout c) := by
  unfold l2cFcrProcAckTout
  split
  · exact keepsHold_l2cFcrSendSFrame _ _ _
  · exact KeepsHold.refl c

theorem keepsHold_l2cuGetNextBufferToSend {c c' : Channel} {frame : IFrame}
    (served : l2cuGetNextBufferToSend c = some (c', frame)) : KeepsHold c c' := by
  unfold l2cuGetNextBufferToSend l2cFcrGetNextXmitSduSeg at served
  split at served
  · split at served
    · cases served
      exact ⟨rfl, id⟩
    · dsimp only at served
      split at served
      · cases served
      · cases served
        exact ⟨rfl, id⟩
  · cases served

/-- A retransmission that fails has closed the channel. -/
theorem retransmitIFrames_closed (c : Channel) (txSeq : Option Seq)
    (failed : (retransmitIFrames c txSeq).2 = false) : (retransmitIFrames c txSeq).1.isOpen = false := by
  unfold retransmitIFrames at failed ⊢
  split
  · rfl
  · rename_i within
    rw [if_neg within] at failed
    cases txSeq with
    | some seq => dsimp only at failed; split at failed <;> cases failed
    | none => cases failed

/-- An accepted ReqSeq leaves the channel open or closed as it was. -/
theorem processReqseq_isOpen (c : Channel) (pdu : Pdu) :
    (processReqseq c pdu).2 = true → (processReqseq c pdu).1.isOpen = c.isOpen := by
  unfold processReqseq ackReqseq
  split
  · intro _
    split <;> rfl
  · dsimp only
    split
    · intro rejected
      cases rejected
    · intro _
      split_ifs <;> rfl

/-! ## What one I-frame does to it -/

/-- What one I-frame can do to the hold view of `c`, and what let it. -/
inductive HoldStep (c : Channel) (frame : IFrame) (c' : Channel) : Prop
  /-- `max_transmit` ran out at the retransmission for the F-bit. -/
  | closed (shut : c'.isOpen = false) (same : c'.holdView = c.holdView)
  /-- A frame that is not the expected one and is not held. -/
  | dropped (ahead : frame.txSeq ≠ c.nextSeqExpected) (same : c'.holdView = c.holdView)
  /-- Held after the last held frame, while an SREJ is outstanding. -/
  | held (srej : c.srejSent = true) (ahead : frame.txSeq ≠ c.nextSeqExpected)
      (fresh : (frame.txSeq - c.nextSeqExpected).val < c.ourTxWinSz) (last : IFrame)
      (peek : c.srejRcvHoldQ.getLast? = some last) (next : frame.txSeq = last.txSeq + 1)
      (room : c.srejRcvHoldQ.length < c.ourTxWinSz)
      (view : c'.holdView = (true, c.srejRcvHoldQ ++ [frame], c.nextSeqExpected, c.ourTxWinSz))
  /-- One frame is missing: an SREJ asks for it, and this frame is held. -/
  | srejStarted (notSrej : c.srejSent = false) (ahead : frame.txSeq ≠ c.nextSeqExpected)
      (one : (frame.txSeq - c.nextSeqExpected).val ≤ 1)
      (fresh : (frame.txSeq - c.nextSeqExpected).val < c.ourTxWinSz)
      (view : c'.holdView = (true, c.srejRcvHoldQ ++ [frame], c.nextSeqExpected, c.ourTxWinSz))
  /-- The expected frame: both exceptions clear, and the frame after it is expected. -/
  | inSeq (expected : frame.txSeq = c.nextSeqExpected)
      (view : c'.holdView = (false, c.srejRcvHoldQ, frame.txSeq + 1, c.ourTxWinSz))

/-- A step read off a channel with the same hold view is a step of `c`. -/
theorem HoldStep.of_holdView {c c₁ c' : Channel} {frame : IFrame} (same : c₁.holdView = c.holdView)
    (step : HoldStep c₁ frame c') : HoldStep c frame c' := by
  obtain ⟨srej, queue, next, win⟩ := Channel.holdView_eq_iff.mp same
  cases step with
  | closed shut same₁ => exact .closed shut (same₁.trans same)
  | dropped ahead same₁ => exact .dropped (next ▸ ahead) (same₁.trans same)
  | held srej₁ ahead fresh last peek label room view =>
      rw [srej] at srej₁
      rw [next] at ahead fresh view
      rw [queue] at peek room view
      rw [win] at fresh room view
      exact .held srej₁ ahead fresh last peek label room view
  | srejStarted notSrej ahead one fresh view =>
      rw [srej] at notSrej
      rw [next] at ahead one fresh view
      rw [queue, win] at view
      rw [win] at fresh
      exact .srejStarted notSrej ahead one fresh view
  | inSeq expected view =>
      rw [next] at expected
      rw [queue, win] at view
      exact .inSeq expected view

theorem processIFrameOutOfSeq_cases {c c' : Channel} {frame : IFrame}
    (ahead : frame.txSeq ≠ c.nextSeqExpected) (processed : processIFrameOutOfSeq c frame = some c') :
    (c'.isOpen = true → c.isOpen = true) ∧ HoldStep c frame c' := by
  unfold processIFrameOutOfSeq at processed
  dsimp only at processed
  split at processed
  · -- a duplicate
    cases processed
    exact ⟨id, .dropped ahead rfl⟩
  · rename_i fresh
    split at processed
    · rename_i srej
      split at processed
      · cases processed
      · rename_i last peek
        split at processed
        · rename_i next
          cases processed
          exact ⟨id, .held srej ahead (by omega) last peek next.1 next.2 (by rw [← srej]; rfl)⟩
        · -- out of order behind the SREJ: only `rej_after_srej` is set
          cases processed
          exact ⟨id, .dropped ahead rfl⟩
    · rename_i notSrej
      split at processed
      · cases processed
        exact ⟨id, .dropped ahead rfl⟩
      · split at processed
        · -- several frames missing: a REJ
          cases processed
          have keeps := (KeepsHold.trans ⟨rfl, id⟩ (keepsHold_l2cFcrSendSFrame _ _ _)).trans
            (⟨rfl, id⟩ : KeepsHold _ { l2cFcrSendSFrame { c with rejSent := true } .rej .none with
              ackTimer := false })
          exact ⟨keeps.2, .dropped ahead keeps.1⟩
        · cases processed
          have keeps := (keepsHold_l2cFcrSendSFrame _ _ _).trans
            (⟨rfl, id⟩ : KeepsHold _ { l2cFcrSendSFrame
              { c with srejRcvHoldQ := c.srejRcvHoldQ ++ [frame], srejSent := true } .srej .none with
              ackTimer := false })
          exact ⟨keeps.2, .srejStarted (by simpa using notSrej) ahead (by omega) (by omega) keeps.1⟩

theorem keepsHold_processIFrameInSeq {c c' : Channel} {frame : IFrame} {delayAck : Bool}
    (processed : processIFrameInSeq c frame delayAck = some c') :
    KeepsHold { c with rejSent := false, srejSent := false, nextSeqExpected := frame.txSeq + 1 } c' := by
  unfold processIFrameInSeq at processed
  have reassembled := keepsHold_doSarReassembly
    { c with rejSent := false, srejSent := false, nextSeqExpected := frame.txSeq + 1 } frame
  dsimp only at processed
  split at processed
  · cases processed
    exact reassembled.trans (keepsHold_l2cuDisconnectChnl _)
  · split at processed
    · split at processed
      · cases processed
        exact reassembled.trans ⟨rfl, id⟩
      · split at processed
        · cases processed
          exact reassembled.trans (keepsHold_l2cFcrSendSFrame _ _ _)
        · cases processed
          exact reassembled
    · cases processed
      exact reassembled

/-- **What `process_i_frame` does to the hold queue**, once: the checkpoint for
the F-bit keeps it, then the frame is out of sequence or the expected one. -/
theorem processIFrame_cases {c c' : Channel} {frame : IFrame} {fBit delayAck : Bool}
    (processed : processIFrame c frame fBit delayAck = some c') :
    (c'.isOpen = true → c.isOpen = true) ∧ HoldStep c frame c' := by
  unfold processIFrame at processed
  have checked : KeepsHold c (if fBit then retransmitIFrames c none else (c, true)).1 := by
    split
    · exact keepsHold_retransmitIFrames c none
    · exact KeepsHold.refl c
  have shut : (if fBit then retransmitIFrames c none else (c, true)).2 = false →
      (if fBit then retransmitIFrames c none else (c, true)).1.isOpen = false := by
    split
    · exact retransmitIFrames_closed c none
    · intro failed
      cases failed
  generalize (if fBit then retransmitIFrames c none else (c, true)) = checkpoint
    at processed checked shut
  dsimp only at processed
  split at processed
  · rename_i failed
    cases processed
    exact ⟨checked.2, .closed (shut (by simpa using failed)) checked.1⟩
  · split at processed
    · rename_i ahead
      obtain ⟨opens, step⟩ := processIFrameOutOfSeq_cases ahead processed
      exact ⟨fun opened => checked.2 (opens opened), step.of_holdView checked.1⟩
    · rename_i expected
      have keeps := keepsHold_processIFrameInSeq processed
      exact ⟨fun opened => checked.2 (keeps.2 opened),
        HoldStep.of_holdView checked.1 (.inSeq (by simpa using expected) keeps.1)⟩

/-! ## The invariant -/

/-- **The SREJ hold queue.**  While an SREJ is outstanding, the hold queue is not
empty, holds the frames from `next_seq_expected + 1` on, and fewer of them than
our window. -/
def SrejHeld (c : Channel) : Prop :=
  c.srejSent = true →
    c.srejRcvHoldQ ≠ [] ∧ Consecutive IFrame.txSeq (c.nextSeqExpected + 1) c.srejRcvHoldQ ∧
      c.srejRcvHoldQ.length < c.ourTxWinSz

/-- What holds after `process_i_frame`: `SrejHeld`, a queue shorter than the
sequence space, and, once the exception has cleared, held frames that are the
next ones expected. -/
structure ReadyInv (c : Channel) : Prop where
  held : SrejHeld c
  short : c.srejRcvHoldQ.length < 64
  ready : c.srejSent = false → Consecutive IFrame.txSeq c.nextSeqExpected c.srejRcvHoldQ

/-- What holds between PDUs: on an open channel the queue is empty outside the
exception, since `l2c_fcr_proc_pdu` drains it as soon as the exception clears. -/
structure HoldInv (c : Channel) : Prop extends ReadyInv c where
  drained : c.isOpen = true → c.srejSent = false → c.srejRcvHoldQ = []

theorem ReadyInv.of_view {c : Channel} {srej : Bool} {held : List IFrame} {next : Seq} {win : ℕ}
    (view : c.holdView = (srej, held, next, win))
    (nonempty : srej = true → held ≠ [] ∧ Consecutive IFrame.txSeq (next + 1) held ∧ held.length < win)
    (short : held.length < 64) (ready : srej = false → Consecutive IFrame.txSeq next held) :
    ReadyInv c := by
  obtain ⟨rfl, rfl, rfl, rfl⟩ := Channel.holdView_eq_iff.mp view
  exact ⟨nonempty, short, ready⟩

theorem HoldInv.of_view {c : Channel} {srej : Bool} {held : List IFrame} {next : Seq} {win : ℕ}
    (view : c.holdView = (srej, held, next, win))
    (nonempty : srej = true → held ≠ [] ∧ Consecutive IFrame.txSeq (next + 1) held ∧ held.length < win)
    (short : held.length < 64) (ready : srej = false → Consecutive IFrame.txSeq next held)
    (drained : c.isOpen = true → srej = false → held = []) : HoldInv c := by
  obtain ⟨rfl, rfl, rfl, rfl⟩ := Channel.holdView_eq_iff.mp view
  exact ⟨⟨nonempty, short, ready⟩, drained⟩

theorem SrejHeld.of_holdView {c c' : Channel} (held : SrejHeld c) (same : c'.holdView = c.holdView) :
    SrejHeld c' := by
  obtain ⟨srej, queue, next, win⟩ := Channel.holdView_eq_iff.mp same
  unfold SrejHeld
  rw [srej, queue, next, win]
  exact held

theorem ReadyInv.of_holdView {c c' : Channel} (inv : ReadyInv c) (same : c'.holdView = c.holdView) :
    ReadyInv c' :=
  ReadyInv.of_view same inv.held inv.short inv.ready

theorem HoldInv.of_keeps {c c' : Channel} (inv : HoldInv c) (keeps : KeepsHold c c') : HoldInv c' :=
  HoldInv.of_view keeps.1 inv.held inv.short inv.ready
    fun opened => inv.drained (keeps.2 opened)

theorem holdInv_opened (ourTxWinSz peerTxWinSz maxTransmit txMps maxRxMtu maxHeldAcks : ℕ) :
    HoldInv (Channel.opened ourTxWinSz peerTxWinSz maxTransmit txMps maxRxMtu maxHeldAcks) :=
  ⟨⟨fun srej => (by cases srej), Nat.zero_lt_succ 63, fun _ => consecutive_nil _ _⟩, fun _ _ => rfl⟩

/-- The one place the hold queue is read while an SREJ is outstanding,
`fixed_queue_try_peek_last`, finds a frame. -/
theorem processIFrameOutOfSeq_ne_none {c : Channel} (held : SrejHeld c) (frame : IFrame) :
    processIFrameOutOfSeq c frame ≠ none := by
  unfold processIFrameOutOfSeq
  dsimp only
  split
  · exact Option.some_ne_none _
  · split
    · rename_i srej
      obtain ⟨last, peek⟩ := Option.ne_none_iff_exists'.mp
        (List.getLast?_eq_none_iff.not.mpr (held srej).1)
      rw [peek]
      dsimp only
      split <;> exact Option.some_ne_none _
    · split_ifs <;> exact Option.some_ne_none _

theorem processIFrameInSeq_ne_none (c : Channel) (frame : IFrame) (delayAck : Bool) :
    processIFrameInSeq c frame delayAck ≠ none := by
  unfold processIFrameInSeq
  dsimp only
  split_ifs <;> exact Option.some_ne_none _

theorem processIFrame_ne_none {c : Channel} (held : SrejHeld c) (frame : IFrame) (fBit delayAck : Bool) :
    processIFrame c frame fBit delayAck ≠ none := by
  unfold processIFrame
  have checked : KeepsHold c (if fBit then retransmitIFrames c none else (c, true)).1 := by
    split
    · exact keepsHold_retransmitIFrames c none
    · exact KeepsHold.refl c
  have held₁ := held.of_holdView checked.1
  generalize (if fBit then retransmitIFrames c none else (c, true)) = checkpoint at checked held₁
  dsimp only
  split
  · exact Option.some_ne_none _
  · split
    · exact processIFrameOutOfSeq_ne_none held₁ frame
    · exact processIFrameInSeq_ne_none _ frame delayAck

/-! ## One I-frame -/

section IFrame

variable {c c' : Channel} {frame : IFrame}

/-- A frame held behind the last one carries the next TxSeq, and the duplicate
test keeps the longer queue below our window: the frame is not the expected one,
so the queue is less than a turn long. -/
theorem readyInv_held (inv : ReadyInv c) (srej : c.srejSent = true)
    (ahead : frame.txSeq ≠ c.nextSeqExpected)
    (fresh : (frame.txSeq - c.nextSeqExpected).val < c.ourTxWinSz) {last : IFrame}
    (peek : c.srejRcvHoldQ.getLast? = some last) (next : frame.txSeq = last.txSeq + 1)
    (view : c'.holdView = (true, c.srejRcvHoldQ ++ [frame], c.nextSeqExpected, c.ourTxWinSz)) :
    ReadyInv c' := by
  obtain ⟨-, consecutive, -⟩ := inv.held srej
  have label : frame.txSeq = c.nextSeqExpected + 1 + c.srejRcvHoldQ.length := by
    rw [next, consecutive.getLast? peek]
  have turn : c.nextSeqExpected + ((c.srejRcvHoldQ.length + 1 : ℕ) : Seq) = frame.txSeq := by
    rw [label, Nat.cast_add, Nat.cast_one]
    abel
  have short : c.srejRcvHoldQ.length + 1 < 64 :=
    lt_of_add_natCast_ne (by have := inv.short; omega) (by rw [turn]; exact ahead)
  have lost : (frame.txSeq - c.nextSeqExpected).val = c.srejRcvHoldQ.length + 1 := by
    rw [← turn]
    exact val_add_natCast_sub_self _ short
  refine ReadyInv.of_view view (fun _ => ⟨by simp, consecutive.concat label, ?_⟩) (by simpa using short)
    (fun notSrej => by cases notSrej)
  rw [List.length_append, List.length_singleton]
  omega

/-- A frame one past the expected one starts the queue, which was empty. -/
theorem readyInv_srejStarted (empty : c.srejRcvHoldQ = []) (ahead : frame.txSeq ≠ c.nextSeqExpected)
    (one : (frame.txSeq - c.nextSeqExpected).val ≤ 1)
    (fresh : (frame.txSeq - c.nextSeqExpected).val < c.ourTxWinSz)
    (view : c'.holdView = (true, c.srejRcvHoldQ ++ [frame], c.nextSeqExpected, c.ourTxWinSz)) :
    ReadyInv c' := by
  have back := add_natCast_val_sub frame.txSeq c.nextSeqExpected
  have lost : (frame.txSeq - c.nextSeqExpected).val = 1 := by
    rcases Nat.le_one_iff_eq_zero_or_eq_one.mp one with zero | one
    · rw [zero, Nat.cast_zero, add_zero] at back
      exact absurd back.symm ahead
    · exact one
  rw [lost, Nat.cast_one] at back
  rw [empty, List.nil_append] at view
  refine ReadyInv.of_view view (fun _ => ⟨by simp, ?_, by simp; omega⟩) (by simp)
    (fun notSrej => by cases notSrej)
  exact consecutive_cons_iff.mpr ⟨back.symm, consecutive_nil _ _⟩

/-- **One I-frame.**  On an open channel between PDUs, `process_i_frame` keeps
the hold queue as `SrejHeld` says, and if it clears the exception the frames
it leaves held are the next expected ones. -/
theorem HoldInv.processIFrame {fBit delayAck : Bool} (inv : HoldInv c) (opened : c.isOpen = true)
    (processed : processIFrame c frame fBit delayAck = some c') : ReadyInv c' := by
  obtain ⟨-, step⟩ := processIFrame_cases processed
  cases step with
  | closed _ same => exact inv.toReadyInv.of_holdView same
  | dropped _ same => exact inv.toReadyInv.of_holdView same
  | held srej ahead fresh last peek next _ view =>
      exact readyInv_held inv.toReadyInv srej ahead fresh peek next view
  | srejStarted notSrej ahead one fresh view =>
      exact readyInv_srejStarted (inv.drained opened notSrej) ahead one fresh view
  | inSeq expected view =>
      -- the frames held behind the one that came in are now the expected ones
      refine ReadyInv.of_view view (fun srej => by cases srej) inv.short fun _ => ?_
      cases srej : c.srejSent
      · rw [inv.drained opened srej]
        exact consecutive_nil _ _
      · rw [expected]
        exact (inv.held srej).2.1

end IFrame

/-! ## The drain -/

/-- Inside the drain loop: the channel keeps `HoldInv`, and while it is open no
SREJ is outstanding and the frames still to come are the next expected ones. -/
structure DrainInv (c : Channel) (rest : List IFrame) : Prop where
  hold : HoldInv c
  next : c.isOpen = true → c.srejSent = false ∧ Consecutive IFrame.txSeq c.nextSeqExpected rest

theorem DrainInv.of_keeps {c c' : Channel} {rest : List IFrame} (inv : DrainInv c rest)
    (keeps : KeepsHold c c') : DrainInv c' rest := by
  obtain ⟨srej, -, next, -⟩ := Channel.holdView_eq_iff.mp keeps.1
  refine ⟨inv.hold.of_keeps keeps, fun opened => ?_⟩
  rw [srej, next]
  exact inv.next (keeps.2 opened)

/-- `l2c_fcr_proc_pdu` swaps in an empty queue and drains the one it held. -/
theorem drainInv_start {c : Channel} (inv : ReadyInv c) (notSrej : c.srejSent = false) :
    DrainInv { c with srejRcvHoldQ := [] } c.srejRcvHoldQ := by
  refine ⟨HoldInv.of_view (Channel.holdView_eq_iff.mpr ⟨notSrej, rfl, rfl, rfl⟩)
    (fun srej => by cases srej) (by simp) (fun _ => consecutive_nil _ _) (fun _ _ => rfl), ?_⟩
  exact fun _ => ⟨notSrej, inv.ready notSrej⟩

/-- One frame of the drain: on an open channel it is the expected one, so it is
taken in sequence, or the channel closes. -/
theorem DrainInv.processIFrame {c c₁ : Channel} {frame : IFrame} {rest : List IFrame}
    (inv : DrainInv c (frame :: rest)) (opened : c.isOpen = true)
    (processed : processIFrame c frame frame.fBit true = some c₁) :
    DrainInv c₁ rest ∧ (c₁.isOpen = true → c₁.nextSeqExpected = c.nextSeqExpected + 1) := by
  obtain ⟨notSrej, consecutive⟩ := inv.next opened
  obtain ⟨expected, later⟩ := consecutive_cons_iff.mp consecutive
  have empty := inv.hold.drained opened notSrej
  obtain ⟨opens, step⟩ := processIFrame_cases processed
  cases step with
  | closed shut same =>
      exact ⟨⟨inv.hold.of_keeps ⟨same, opens⟩, fun opened₁ => by simp [shut] at opened₁⟩,
        fun opened₁ => by simp [shut] at opened₁⟩
  | dropped ahead _ => exact absurd expected ahead
  | held srej => simp [notSrej] at srej
  | srejStarted _ ahead => exact absurd expected ahead
  | inSeq _ view =>
      rw [empty] at view
      obtain ⟨srej₁, queue₁, next₁, -⟩ := Channel.holdView_eq_iff.mp view
      refine ⟨⟨HoldInv.of_view view (fun srej => by cases srej) (by simp) (fun _ => consecutive_nil _ _)
        (fun _ _ => rfl), fun _ => ⟨srej₁, ?_⟩⟩, fun _ => by rw [next₁, expected]⟩
      rw [next₁, expected]
      exact later

/-- **The drain.**  The loop over the held frames never reaches the `NULL`
peek, keeps the invariant, and if the channel is still open at the end every
frame was taken as the expected one: `next_seq_expected` moved on by the
number of frames. -/
theorem DrainInv.drainSrejHoldQ {c : Channel} {rest : List IFrame} (inv : DrainInv c rest) :
    ∃ c', drainSrejHoldQ c rest = some c' ∧ DrainInv c' [] ∧
      (c'.isOpen = true → c.isOpen = true ∧ c'.nextSeqExpected = c.nextSeqExpected + rest.length) := by
  induction rest generalizing c with
  | nil => exact ⟨c, rfl, inv, fun opened => ⟨opened, by simp⟩⟩
  | cons frame rest ih =>
      -- one frame, then the check for frames lost behind the SREJ
      obtain ⟨c₁, processed, inv₁, advanced₁⟩ : ∃ c₁,
          (if c.isOpen then Fcr.processIFrame c frame frame.fBit true else some c) = some c₁ ∧
          DrainInv c₁ rest ∧
          (c₁.isOpen = true → c.isOpen = true ∧ c₁.nextSeqExpected = c.nextSeqExpected + 1) := by
        by_cases opened : c.isOpen = true
        · obtain ⟨c₁, processed⟩ := Option.ne_none_iff_exists'.mp
            (processIFrame_ne_none inv.hold.held frame frame.fBit true)
          obtain ⟨inv₁, advanced⟩ := inv.processIFrame opened processed
          exact ⟨c₁, by rw [if_pos opened, processed], inv₁, fun opened₁ => ⟨opened, advanced opened₁⟩⟩
        · have closed : c.isOpen = false := by simpa using opened
          exact ⟨c, by rw [if_neg opened], ⟨inv.hold, fun opened' => absurd opened' opened⟩,
            fun opened' => absurd opened' opened⟩
      have checked := keepsHold_rejAfterSrejCheck c₁
      obtain ⟨c', drained, inv', advanced⟩ := ih (inv₁.of_keeps checked)
      refine ⟨c', by rw [Fcr.drainSrejHoldQ, processed]; exact drained, inv', fun opened' => ?_⟩
      obtain ⟨opened₂, next'⟩ := advanced opened'
      obtain ⟨opened₁, next₁⟩ := advanced₁ (checked.2 opened₂)
      obtain ⟨-, -, next₂, -⟩ := Channel.holdView_eq_iff.mp checked.1
      refine ⟨opened₁, ?_⟩
      rw [next', next₂, next₁, List.length_cons, Nat.cast_add, Nat.cast_one, add_assoc, add_comm 1]

/-- The end of `l2c_fcr_proc_pdu` restores `HoldInv`, and never fails. -/
theorem ReadyInv.procSrejHoldQ {c : Channel} (inv : ReadyInv c) :
    ∃ c', Fcr.procSrejHoldQ c = some c' ∧ HoldInv c' := by
  unfold Fcr.procSrejHoldQ
  split
  · rename_i pending
    simp only [Bool.and_eq_true, Bool.not_eq_true', List.isEmpty_eq_false_iff] at pending
    obtain ⟨⟨-, notSrej⟩, -⟩ := pending
    obtain ⟨c₁, drained, inv₁, -⟩ := (drainInv_start inv notSrej).drainSrejHoldQ
    rw [drained]
    dsimp only
    split
    · exact ⟨_, rfl, inv₁.hold.of_keeps (keepsHold_l2cFcrSendSFrame _ _ _)⟩
    · exact ⟨_, rfl, inv₁.hold⟩
  · rename_i idle
    refine ⟨c, rfl, ⟨inv, fun opened notSrej => ?_⟩⟩
    simpa [opened, notSrej] using idle

/-! ## Every run -/

/-- **One PDU.**  On an open channel, `l2c_fcr_proc_pdu` never reaches the
`NULL` peek, on the frame itself or on the held frames it drains, and keeps
`HoldInv`. -/
theorem HoldInv.l2cFcrProcPdu {c : Channel} (inv : HoldInv c) (opened : c.isOpen = true) (pdu : Pdu) :
    ∃ c', Fcr.l2cFcrProcPdu c pdu = some c' ∧ HoldInv c' := by
  have entered : KeepsHold c (if c.waitAck then finalReceived c else c) := by
    split
    · exact keepsHold_finalReceived c
    · exact KeepsHold.refl c
  have enteredOpen : (if c.waitAck then finalReceived c else c).isOpen = true := by
    split
    · exact opened
    · exact opened
  unfold Fcr.l2cFcrProcPdu
  split
  · -- waiting for a final frame: at most a poll is answered
    split
    · exact ⟨_, rfl, inv.of_keeps ((keepsHold_l2cFcrSendSFrame _ _ _).trans ⟨rfl, id⟩)⟩
    · exact ⟨c, rfl, inv⟩
  · cases pdu with
    | sFrame frame =>
        dsimp only
        let ctrl :=
          if c.waitAck then { frame with pBit := false } else { frame with fBit := false }
        have acked := keepsHold_processReqseq (if c.waitAck then finalReceived c else c) (.sFrame ctrl)
        generalize processReqseq (if c.waitAck then finalReceived c else c) (.sFrame ctrl) = result
          at acked ⊢
        split
        · exact ⟨_, rfl, inv.of_keeps (entered.trans acked)⟩
        · exact (inv.of_keeps ((entered.trans acked).trans
            (keepsHold_processSFrame _ _))).toReadyInv.procSrejHoldQ
    | iFrame frame =>
        dsimp only
        have acked := keepsHold_processReqseq (if c.waitAck then finalReceived c else c) (.iFrame frame)
        have ackedOpen := processReqseq_isOpen (if c.waitAck then finalReceived c else c) (.iFrame frame)
        generalize processReqseq (if c.waitAck then finalReceived c else c) (.iFrame frame) = result
          at acked ackedOpen ⊢
        split
        · exact ⟨_, rfl, inv.of_keeps (entered.trans acked)⟩
        · rename_i accepted
          have inv₁ := inv.of_keeps (entered.trans acked)
          have opened₁ : result.1.isOpen = true := by
            rw [ackedOpen (by simpa using accepted), enteredOpen]
          obtain ⟨c₁, processed⟩ := Option.ne_none_iff_exists'.mp
            (processIFrame_ne_none inv₁.held frame (c.waitAck && frame.fBit) false)
          obtain ⟨c', done, inv'⟩ := (inv₁.processIFrame opened₁ processed).procSrejHoldQ
          exact ⟨c', by rw [processed, Option.bind_some, done], inv'⟩

/-- **One step.**  Every event keeps `HoldInv`. -/
theorem HoldInv.step {c c' : Channel} {e : ChannelEvent} (inv : HoldInv c)
    (stepped : channelStep c e = some c') : HoldInv c' := by
  cases e with
  | dataWrite sdu =>
      simp only [channelStep] at stepped
      split at stepped
      · cases stepped
        exact inv.of_keeps ⟨rfl, id⟩
      · cases stepped
  | linkXmit =>
      obtain ⟨⟨c₁, frame⟩, served, rfl⟩ := Option.map_eq_some_iff.mp stepped
      exact inv.of_keeps ((keepsHold_l2cuGetNextBufferToSend served).trans ⟨rfl, id⟩)
  | pduReceived pdu =>
      simp only [channelStep] at stepped
      split at stepped
      · rename_i opened
        obtain ⟨c₁, processed, inv₁⟩ := inv.l2cFcrProcPdu opened pdu
        rw [processed] at stepped
        cases stepped
        exact inv₁
      · cases stepped
  | monRetransTimeout =>
      simp only [channelStep] at stepped
      split at stepped
      · cases stepped
        exact inv.of_keeps (KeepsHold.trans ⟨rfl, id⟩ (keepsHold_l2cFcrProcTout _))
      · cases stepped
  | ackTimeout =>
      simp only [channelStep] at stepped
      split at stepped
      · cases stepped
        exact inv.of_keeps (KeepsHold.trans ⟨rfl, id⟩ (keepsHold_l2cFcrProcAckTout _))
      · cases stepped

section Reachable

variable {ourTxWinSz peerTxWinSz maxTransmit txMps maxRxMtu maxHeldAcks : ℕ} {c : Channel}

theorem holdInv_of_reachable
    (reach : Reachable channelStep
      (Channel.opened ourTxWinSz peerTxWinSz maxTransmit txMps maxRxMtu maxHeldAcks) c) :
    HoldInv c :=
  Reachable.rec_invariant (holdInv_opened _ _ _ _ _ _) (fun _ _ _ inv stepped => inv.step stepped) reach

/-- **The SREJ hold queue over every run.**  From a freshly opened channel,
whatever the peer sends and whenever the alarms fire: while an SREJ is
outstanding the hold queue is not empty, holds the frames from
`next_seq_expected + 1` on and fewer than our window; `process_i_frame` never
peeks into an empty queue, nor does any PDU on an open channel; and when a frame
clears the exception, the held frames are the next expected ones, and the drain
takes every one of them in sequence unless the channel closes. -/
theorem srej_hold_queue_of_reachable
    (reach : Reachable channelStep
      (Channel.opened ourTxWinSz peerTxWinSz maxTransmit txMps maxRxMtu maxHeldAcks) c) :
    SrejHeld c ∧
    (∀ frame fBit delayAck, processIFrame c frame fBit delayAck ≠ none) ∧
    (c.isOpen = true → ∀ pdu, l2cFcrProcPdu c pdu ≠ none) ∧
    (c.isOpen = true → ∀ frame fBit delayAck c₂, processIFrame c frame fBit delayAck = some c₂ →
      c₂.srejSent = false →
        Consecutive IFrame.txSeq c₂.nextSeqExpected c₂.srejRcvHoldQ ∧
        ∀ c₃, drainSrejHoldQ { c₂ with srejRcvHoldQ := [] } c₂.srejRcvHoldQ = some c₃ →
          c₃.isOpen = true →
            c₃.nextSeqExpected = c₂.nextSeqExpected + c₂.srejRcvHoldQ.length ∧
            c₃.srejSent = false ∧ c₃.srejRcvHoldQ = []) := by
  have inv := holdInv_of_reachable reach
  refine ⟨inv.held, fun frame fBit delayAck => processIFrame_ne_none inv.held frame fBit delayAck,
    fun opened pdu => ?_, fun opened frame fBit delayAck c₂ processed notSrej => ?_⟩
  · obtain ⟨c', done, -⟩ := inv.l2cFcrProcPdu opened pdu
    rw [done]
    exact Option.some_ne_none c'
  · have ready := inv.processIFrame opened processed
    refine ⟨ready.ready notSrej, fun c₃ drained opened₃ => ?_⟩
    obtain ⟨c₃', drained', inv₃, advanced⟩ := (drainInv_start ready notSrej).drainSrejHoldQ
    rw [drained] at drained'
    cases drained'
    obtain ⟨notSrej₃, -⟩ := inv₃.next opened₃
    exact ⟨(advanced opened₃).2, notSrej₃, inv₃.hold.drained opened₃ notSrej₃⟩

/-- Frame 0 is lost and frames 1 and 2 arrive: an SREJ for 0 is outstanding,
with 1 and 2 held. -/
theorem srej_hold_queue_after_loss :
    ∃ c, Reachable channelStep (Channel.opened 63 63 10 1000 1000 21) c ∧
      c.srejSent = true ∧ c.srejRcvHoldQ.map IFrame.txSeq = [1, 2] ∧
      SrejHeld c ∧
      (∀ frame fBit delayAck, processIFrame c frame fBit delayAck ≠ none) ∧
      (c.isOpen = true → ∀ pdu, l2cFcrProcPdu c pdu ≠ none) ∧
      (c.isOpen = true → ∀ frame fBit delayAck c₂, processIFrame c frame fBit delayAck = some c₂ →
        c₂.srejSent = false →
          Consecutive IFrame.txSeq c₂.nextSeqExpected c₂.srejRcvHoldQ ∧
          ∀ c₃, drainSrejHoldQ { c₂ with srejRcvHoldQ := [] } c₂.srejRcvHoldQ = some c₃ →
            c₃.isOpen = true →
              c₃.nextSeqExpected = c₂.nextSeqExpected + c₂.srejRcvHoldQ.length ∧
              c₃.srejSent = false ∧ c₃.srejRcvHoldQ = []) := by
  have reach := Reachable.step (ChannelEvent.pduReceived (.iFrame ⟨2, 0, false, .unseg, [2]⟩))
    (Reachable.step (ChannelEvent.pduReceived (.iFrame ⟨1, 0, false, .unseg, [1]⟩))
      (Reachable.init channelStep (Channel.opened 63 63 10 1000 1000 21)) rfl) rfl
  exact ⟨_, reach, rfl, rfl, srej_hold_queue_of_reachable reach⟩

end Reachable

end Bluedroid.L2cap.Fcr
