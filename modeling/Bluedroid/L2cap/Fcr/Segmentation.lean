import Bluedroid.Theory.Chunks
import Bluedroid.Theory.Calls
import Bluedroid.L2cap.Fcr.Reassembly

/-!
# L2cap.Fcr.Segmentation -- an SDU survives segmentation and reassembly

`l2c_fcr_get_next_xmit_sdu_seg` cuts the SDU at the head of `xmit_hold_q` into
I-frames of at most `max_pdu` bytes: one unsegmented frame when it fits, or a
start frame with the two SDU length bytes in front, continuations and an end.
It tracks its progress in the buffer itself (`event != 0`, our `started`), so
the SDU stays at the head of the queue until the call that sends its last byte.
`do_sar_reassembly` on the peer glues the frames back together.

The two halves meet at `SegmentedSdu`, the shape of a segmented SDU.  The
segmenter produces exactly that shape (`getNextXmitSduSegs_sdu`, by strong
induction on what is left of the buffer), and the reassembler, from an idle
state, takes every frame of any stream of that shape, passes the SDU up at its
end frame and nothing before (`deliversOnce_segmented`).  The SDU must fit
`max_rx_mtu`, which the code keeps in a `uint16_t`, so the length the start
frame carries is not cut short.
-/

namespace Bluedroid.L2cap.Fcr

set_option autoImplicit false

open Bluedroid.Theory (Chunks calls calls_succ Reached reached_before_succ)

/-! ## The two loops -/

/-- `n` calls of `l2c_fcr_get_next_xmit_sdu_seg` in a row, as the link's send
loop makes them, with the frames in the order they were returned; `none` if a
call finds nothing to send. -/
def getNextXmitSduSegs (c : Channel) (maxPacketLength n : ℕ) : Option (Channel × List IFrame) :=
  calls (fun c => l2cFcrGetNextXmitSduSeg c maxPacketLength) n c

/-- `do_sar_reassembly` on each frame in order, as `process_i_frame` calls it on
frames that arrive in sequence; `none` at the first frame it refuses, where the
caller disconnects the channel. -/
def sarReassembleAll (c : Channel) : List IFrame → Option Channel
  | [] => some c
  | frame :: frames =>
      match doSarReassembly c frame with
      | (c, true) => sarReassembleAll c frames
      | (_, false) => none

/-- What the reassembler reads of an I-frame: its SAR bits and its payload. -/
def sarPayload (frame : IFrame) : Sar × List UInt8 := (frame.sar, frame.payload)

@[simp] theorem sarPayload_eq (frame : IFrame) : sarPayload frame = (frame.sar, frame.payload) := rfl

/-- The local `max_pdu` of `l2c_fcr_get_next_xmit_sdu_seg`: `tx_mps`, cut down to
what an AMP controller's `max_packet_length` leaves after header and FCS. -/
def xmitMaxPdu (txMps maxPacketLength : ℕ) : ℕ :=
  if l2capMaxHeaderFcs < maxPacketLength ∧ maxPacketLength < txMps + l2capMaxHeaderFcs then
    maxPacketLength - l2capMaxHeaderFcs
  else txMps

theorem one_le_xmitMaxPdu {txMps : ℕ} (mps : 1 ≤ txMps) (maxPacketLength : ℕ) :
    1 ≤ xmitMaxPdu txMps maxPacketLength := by
  unfold xmitMaxPdu
  split_ifs with amp
  · have := amp.1
    omega
  · exact mps

/-! ## The shape of a segmented SDU -/

/-- An SDU of more than `max_pdu` bytes as the segmenter sends it: a start
segment with the two SDU length bytes in front of the first `max_pdu` bytes,
continuations of `max_pdu` bytes, and an end segment with the last one to
`max_pdu` bytes. -/
def SegmentedSdu (maxPdu : ℕ) (sdu : List UInt8) (segs : List (Sar × List UInt8)) : Prop :=
  ∃ first conts last, Chunks maxPdu sdu (first :: conts) last ∧
    segs = (.start, uint16ToStream sdu.length ++ first) ::
      (conts.map fun chunk => (.cont, chunk)) ++ [(.end_, last)]

/-! ## Segmentation -/

/-- With nothing to retransmit, a call takes the next segment of the buffer at
the head of `xmit_hold_q` (`segmentXmitBuf`), and keeps `tx_mps` and the empty
retransmission queue. -/
theorem l2cFcrGetNextXmitSduSeg_held {c : Channel} {buf : XmitBuf} {rest : List XmitBuf}
    (retrans : c.retransQ = []) (held : c.xmitHoldQ = buf :: rest) (maxPacketLength : ℕ) :
    ∃ c' frame, l2cFcrGetNextXmitSduSeg c maxPacketLength = some (c', frame) ∧
      c'.retransQ = [] ∧ c'.txMps = c.txMps ∧
      (c'.xmitHoldQ, frame.sar, frame.payload) =
        segmentXmitBuf buf rest (xmitMaxPdu c.txMps maxPacketLength) := by
  unfold l2cFcrGetNextXmitSduSeg
  rw [retrans, held]
  exact ⟨_, _, rfl, rfl, rfl, rfl⟩

theorem getNextXmitSduSegs_succ {c c₁ : Channel} {maxPacketLength : ℕ} {frame : IFrame}
    (call : l2cFcrGetNextXmitSduSeg c maxPacketLength = some (c₁, frame)) (n : ℕ) :
    getNextXmitSduSegs c maxPacketLength (n + 1) =
      (getNextXmitSduSegs c₁ maxPacketLength n).map fun (c', frames) => (c', frame :: frames) :=
  calls_succ call n

/-- After `m` calls the SDU has not yet left: something of it is still at the
head of `xmit_hold_q`, in front of the buffers queued behind it. -/
def StillHeld (c : Channel) (maxPacketLength m : ℕ) (rest : List XmitBuf) : Prop :=
  Reached (fun c => l2cFcrGetNextXmitSduSeg c maxPacketLength)
    (fun c' => ∃ buf, c'.xmitHoldQ = buf :: rest) m c

/-- **A started buffer runs out.**  The calls that finish a buffer whose
segmentation has started send continuations of `max_pdu` bytes while more than
`max_pdu` bytes are left, then an end segment with the rest; the buffer stays
at the head of `xmit_hold_q` until that last call takes it off. -/
theorem getNextXmitSduSegs_started {maxPacketLength maxPdu : ℕ} {rest : List XmitBuf}
    (pos : 1 ≤ maxPdu) (data : List UInt8) (c : Channel) (retrans : c.retransQ = [])
    (held : c.xmitHoldQ = ⟨data, true⟩ :: rest) (maxPdu_eq : xmitMaxPdu c.txMps maxPacketLength = maxPdu)
    (nonempty : 0 < data.length) :
    ∃ conts last c' frames, Chunks maxPdu data conts last ∧
      getNextXmitSduSegs c maxPacketLength (conts.length + 1) = some (c', frames) ∧
      c'.xmitHoldQ = rest ∧ (∀ m < conts.length + 1, StillHeld c maxPacketLength m rest) ∧
      frames.map sarPayload = (conts.map fun chunk => (.cont, chunk)) ++ [(.end_, last)] := by
  -- strong induction on the bytes left: a continuation takes `max_pdu` of them
  generalize len_eq : data.length = len at nonempty
  induction len using Nat.strong_induction_on generalizing data c with
  | _ len ih =>
    obtain ⟨c₁, frame, call, retrans₁, mps₁, seg⟩ := l2cFcrGetNextXmitSduSeg_held retrans held maxPacketLength
    rw [maxPdu_eq] at seg
    by_cases long : maxPdu < data.length
    · -- a continuation segment; the rest of the buffer stays at the head
      simp only [segmentXmitBuf, long, if_true, Prod.mk.injEq] at seg
      obtain ⟨held₁, sar₁, payload₁⟩ := seg
      obtain ⟨conts, last, c', frames, chunks, run, left, still, shape⟩ :=
        ih (len - maxPdu) (by omega) (data.drop maxPdu) c₁ retrans₁ held₁ (by rw [mps₁, maxPdu_eq])
          (by rw [List.length_drop]; omega) (by omega)
      refine ⟨data.take maxPdu :: conts, last, c', frame :: frames, chunks.take_cons long, ?_, left,
        reached_before_succ ⟨_, held⟩ call still, ?_⟩
      · rw [List.length_cons, getNextXmitSduSegs_succ call, run, Option.map_some]
      · simp only [List.map_cons, shape, sarPayload_eq, sar₁, payload₁, List.cons_append]
    · -- the end segment: the buffer leaves the queue
      simp only [segmentXmitBuf, long, if_false, if_true, Prod.mk.injEq] at seg
      obtain ⟨held₁, sar₁, payload₁⟩ := seg
      refine ⟨[], data, c₁, [frame], Chunks.last_only (by omega) (by omega), ?_, held₁, ?_, ?_⟩
      · rw [List.length_nil, getNextXmitSduSegs_succ call]
        rfl
      · exact reached_before_succ ⟨_, held⟩ call (fun m before => absurd before (Nat.not_lt_zero m))
      · simp [sar₁, payload₁]

/-- **How an SDU is segmented.**  With nothing to retransmit and an SDU at the
head of `xmit_hold_q` whose segmentation has not started, calls of
`l2c_fcr_get_next_xmit_sdu_seg` send it as one unsegmented frame when it fits
in `max_pdu` bytes, and otherwise as a `SegmentedSdu`; the last of them is the
first call after which the SDU has left the queue. -/
theorem getNextXmitSduSegs_sdu {c : Channel} {sdu : List UInt8} {rest : List XmitBuf}
    (maxPacketLength : ℕ) (retrans : c.retransQ = []) (held : c.xmitHoldQ = ⟨sdu, false⟩ :: rest)
    (mps : 1 ≤ c.txMps) :
    ∃ n c' frames, getNextXmitSduSegs c maxPacketLength n = some (c', frames) ∧
      c'.xmitHoldQ = rest ∧ (∀ m < n, StillHeld c maxPacketLength m rest) ∧
      if sdu.length ≤ xmitMaxPdu c.txMps maxPacketLength then frames.map sarPayload = [(.unseg, sdu)]
      else SegmentedSdu (xmitMaxPdu c.txMps maxPacketLength) sdu (frames.map sarPayload) := by
  obtain ⟨c₁, frame, call, retrans₁, mps₁, seg⟩ := l2cFcrGetNextXmitSduSeg_held retrans held maxPacketLength
  by_cases long : xmitMaxPdu c.txMps maxPacketLength < sdu.length
  · -- a start segment, then the started buffer runs out
    simp only [segmentXmitBuf, long, if_true, Bool.false_eq_true, if_false, Prod.mk.injEq] at seg
    obtain ⟨held₁, sar₁, payload₁⟩ := seg
    obtain ⟨conts, last, c', frames, chunks, run, left, still, shape⟩ :=
      getNextXmitSduSegs_started (one_le_xmitMaxPdu mps maxPacketLength) (sdu.drop _) c₁ retrans₁
        held₁ (by rw [mps₁]) (by rw [List.length_drop]; omega)
    refine ⟨conts.length + 1 + 1, c', frame :: frames, ?_, left, reached_before_succ ⟨_, held⟩ call still, ?_⟩
    · rw [getNextXmitSduSegs_succ call, run, Option.map_some]
    · rw [if_neg (Nat.not_le.mpr long)]
      refine ⟨_, conts, last, chunks.take_cons long, ?_⟩
      simp only [List.map_cons, shape, sarPayload_eq, sar₁, payload₁, List.cons_append]
  · -- one unsegmented frame
    simp only [segmentXmitBuf, long, if_false, Bool.false_eq_true, Prod.mk.injEq] at seg
    obtain ⟨held₁, sar₁, payload₁⟩ := seg
    refine ⟨1, c₁, [frame], ?_, held₁,
      reached_before_succ ⟨_, held⟩ call (fun m before => absurd before (Nat.not_lt_zero m)), ?_⟩
    · rw [getNextXmitSduSegs_succ call]
      rfl
    · rw [if_pos (Nat.not_lt.mp long)]
      simp [sar₁, payload₁]

example :
    ((getNextXmitSduSegs { Channel.opened 63 63 10 2 1000 21 with
        xmitHoldQ := [⟨[1, 2, 3, 4, 5], false⟩] } 0 3).map fun (_, frames) => frames.map sarPayload) =
      some [(.start, [5, 0, 1, 2]), (.cont, [3, 4]), (.end_, [5])] := by
  decide

/-! ## Reassembly -/

theorem doSarReassembly_unseg {r : Channel} {frame : IFrame} (idle : r.pRxSdu = none)
    (sar : frame.sar = .unseg) :
    doSarReassembly r frame = ({ r with delivered := r.delivered ++ [frame.payload] }, true) := by
  obtain ⟨txSeq, reqSeq, fBit, sar', payload⟩ := frame
  subst sar
  simp [doSarReassembly, sarStateOk, idle]

theorem doSarReassembly_start {r : Channel} {frame : IFrame} {len : ℕ} {first : List UInt8}
    (idle : r.pRxSdu = none) (sar : frame.sar = .start)
    (payload : frame.payload = uint16ToStream len ++ first) (fits : len ≤ r.maxRxMtu)
    (mtu16 : r.maxRxMtu < 2 ^ 16) (room : first.length ≤ len) :
    doSarReassembly r frame = ({ r with rxSduLen := len, pRxSdu := some first }, true) := by
  obtain ⟨txSeq, reqSeq, fBit, sar', payload'⟩ := frame
  subst sar payload
  have announced : streamToUint16 (UInt8.ofNat (len % 256)) (UInt8.ofNat (len / 256 % 256)) = len := by
    rw [streamToUint16_uint16ToStream]
    omega
  simp [doSarReassembly, sarStateOk, idle, uint16ToStream, announced, Nat.not_lt.mpr fits, sarAppend,
    Nat.not_lt.mpr room]

theorem doSarReassembly_cont {r : Channel} {frame : IFrame} {acc : List UInt8}
    (busy : r.pRxSdu = some acc) (sar : frame.sar = .cont)
    (room : acc.length + frame.payload.length ≤ r.rxSduLen) :
    doSarReassembly r frame = ({ r with pRxSdu := some (acc ++ frame.payload) }, true) := by
  obtain ⟨txSeq, reqSeq, fBit, sar', payload⟩ := frame
  subst sar
  simp [doSarReassembly, sarStateOk, busy, sarAppend, Nat.not_lt.mpr room]

theorem doSarReassembly_end {r : Channel} {frame : IFrame} {acc : List UInt8}
    (busy : r.pRxSdu = some acc) (sar : frame.sar = .end_)
    (complete : acc.length + frame.payload.length = r.rxSduLen) :
    doSarReassembly r frame =
      ({ r with pRxSdu := none, delivered := r.delivered ++ [acc ++ frame.payload] }, true) := by
  obtain ⟨txSeq, reqSeq, fBit, sar', payload⟩ := frame
  subst sar
  simp [doSarReassembly, sarStateOk, busy, sarAppend, complete]

theorem sarReassembleAll_cons {r r₁ : Channel} {frame : IFrame} (frames : List IFrame)
    (accepted : doSarReassembly r frame = (r₁, true)) :
    sarReassembleAll r (frame :: frames) = sarReassembleAll r₁ frames := by
  rw [sarReassembleAll, accepted]

/-- What the receiver does with the frames of one SDU: it takes every one of
them, passes `sdu` up and ends with no SDU in progress, and no proper prefix of
the frames passes anything up. -/
structure DeliversOnce (r : Channel) (frames : List IFrame) (sdu : List UInt8) : Prop where
  delivers : ∃ r', sarReassembleAll r frames = some r' ∧
    r'.delivered = r.delivered ++ [sdu] ∧ r'.pRxSdu = none
  prefix_silent : ∀ k < frames.length, ∃ r', sarReassembleAll r (frames.take k) = some r' ∧
    r'.delivered = r.delivered

/-- A frame taken without passing anything up, in front of frames delivered once. -/
theorem DeliversOnce.cons {r r₁ : Channel} {frame : IFrame} {frames : List IFrame}
    {sdu : List UInt8} (accepted : doSarReassembly r frame = (r₁, true))
    (silent : r₁.delivered = r.delivered) (after : DeliversOnce r₁ frames sdu) :
    DeliversOnce r (frame :: frames) sdu where
  delivers := by
    obtain ⟨r', run, delivered, idle⟩ := after.delivers
    exact ⟨r', by rw [sarReassembleAll_cons _ accepted, run], by rw [delivered, silent], idle⟩
  prefix_silent := by
    rintro (_ | k) before
    · exact ⟨r, rfl, rfl⟩
    · obtain ⟨r', run, delivered⟩ := after.prefix_silent k (by simpa using before)
      exact ⟨r', by rw [List.take_succ_cons, sarReassembleAll_cons _ accepted, run],
        by rw [delivered, silent]⟩

/-- The continuations and the end of an SDU whose first `acc` bytes are in:
each continuation is appended, and the end frame completes `rx_sdu_len`. -/
theorem deliversOnce_tail {last : List UInt8} :
    ∀ (conts : List (List UInt8)) (r : Channel) (acc : List UInt8) (frames : List IFrame),
      r.pRxSdu = some acc → acc.length + (conts.flatten ++ last).length = r.rxSduLen →
      frames.map sarPayload = (conts.map fun chunk => (.cont, chunk)) ++ [(.end_, last)] →
      DeliversOnce r frames (acc ++ conts.flatten ++ last)
  | [], r, acc, frames, busy, complete, shape => by
    obtain ⟨frame, rfl, same⟩ := List.map_eq_singleton_iff.mp shape
    simp only [sarPayload_eq, Prod.mk.injEq] at same
    obtain ⟨sar, rfl⟩ := same
    have accepted := doSarReassembly_end busy sar (by simpa using complete)
    refine ⟨⟨_, by rw [sarReassembleAll_cons _ accepted]; rfl, by simp, rfl⟩, ?_⟩
    rintro k before
    obtain rfl : k = 0 := by simpa using before
    exact ⟨r, rfl, rfl⟩
  | chunk :: conts, r, acc, frames, busy, complete, shape => by
    rw [List.map_cons, List.cons_append] at shape
    obtain ⟨frame, frames, rfl, same, tail⟩ := List.map_eq_cons_iff.mp shape
    simp only [sarPayload_eq, Prod.mk.injEq] at same
    obtain ⟨sar, rfl⟩ := same
    rw [List.flatten_cons, List.length_append, List.length_append] at complete
    have accepted := doSarReassembly_cont busy sar (by omega)
    have after := deliversOnce_tail conts { r with pRxSdu := some (acc ++ frame.payload) }
      (acc ++ frame.payload) frames rfl (by simp only [List.length_append]; omega) tail
    rw [List.flatten_cons, ← List.append_assoc]
    exact DeliversOnce.cons accepted rfl after

/-- **The reassembler accepts a segmented SDU.**  From an idle state, a start
frame announcing the SDU's length, continuations and an end whose payloads
spell the SDU are all taken; the SDU is passed up at the end frame and nothing
before it.  The chunk sizes do not matter. -/
theorem deliversOnce_segmented {r : Channel} {sdu first last : List UInt8}
    {conts : List (List UInt8)} {frames : List IFrame} (idle : r.pRxSdu = none)
    (fits : sdu.length ≤ r.maxRxMtu) (mtu16 : r.maxRxMtu < 2 ^ 16)
    (spells : sdu = first ++ conts.flatten ++ last)
    (shape : frames.map sarPayload = (.start, uint16ToStream sdu.length ++ first) ::
      (conts.map fun chunk => (.cont, chunk)) ++ [(.end_, last)]) :
    DeliversOnce r frames sdu := by
  obtain ⟨frame, frames, rfl, same, tail⟩ := List.map_eq_cons_iff.mp shape
  simp only [sarPayload_eq, Prod.mk.injEq] at same
  obtain ⟨sar, payload⟩ := same
  have lengths : sdu.length = first.length + (conts.flatten ++ last).length := by
    rw [spells, List.append_assoc, List.length_append]
  have accepted := doSarReassembly_start idle sar payload fits mtu16 (by omega)
  have after := deliversOnce_tail conts { r with rxSduLen := sdu.length, pRxSdu := some first }
    first frames rfl (by simp only; omega) tail
  rw [spells]
  exact DeliversOnce.cons accepted rfl (by simpa only [List.append_assoc] using after)

theorem deliversOnce_unseg {r : Channel} {sdu : List UInt8} {frames : List IFrame}
    (idle : r.pRxSdu = none) (shape : frames.map sarPayload = [(.unseg, sdu)]) :
    DeliversOnce r frames sdu := by
  obtain ⟨frame, rfl, same⟩ := List.map_eq_singleton_iff.mp shape
  simp only [sarPayload_eq, Prod.mk.injEq] at same
  obtain ⟨sar, rfl⟩ := same
  have accepted := doSarReassembly_unseg idle sar
  refine ⟨⟨{ r with delivered := r.delivered ++ [frame.payload] },
    by rw [sarReassembleAll_cons _ accepted]; rfl, rfl, idle⟩, ?_⟩
  rintro k before
  obtain rfl : k = 0 := by simpa using before
  exact ⟨r, rfl, rfl⟩

/-! ## The round trip -/

/-- **ERTM segmentation round trip.**  Take an SDU at the head of `xmit_hold_q`,
nothing to retransmit, `tx_mps ≥ 1` and any `max_packet_length`, and call
`l2c_fcr_get_next_xmit_sdu_seg` until the SDU has left the queue.  The frames
are one unsegmented frame if the SDU fits in `max_pdu` bytes, else a start,
continuations and an end; fed in order to `do_sar_reassembly` on a peer with no
SDU in progress and a `max_rx_mtu` the SDU fits, every frame is accepted, the
SDU is passed up byte for byte at the last frame, nothing before it, and the
peer is left with no SDU in progress. -/
theorem ertm_sdu_round_trip {c r : Channel} {sdu : List UInt8} {rest : List XmitBuf}
    (maxPacketLength : ℕ) (retrans : c.retransQ = []) (held : c.xmitHoldQ = ⟨sdu, false⟩ :: rest)
    (mps : 1 ≤ c.txMps) (idle : r.pRxSdu = none) (fits : sdu.length ≤ r.maxRxMtu)
    (mtu16 : r.maxRxMtu < 2 ^ 16) :
    ∃ n c' frames, getNextXmitSduSegs c maxPacketLength n = some (c', frames) ∧
      c'.xmitHoldQ = rest ∧ (∀ m < n, StillHeld c maxPacketLength m rest) ∧
      (if sdu.length ≤ xmitMaxPdu c.txMps maxPacketLength then frames.map sarPayload = [(.unseg, sdu)]
        else SegmentedSdu (xmitMaxPdu c.txMps maxPacketLength) sdu (frames.map sarPayload)) ∧
      DeliversOnce r frames sdu := by
  obtain ⟨n, c', frames, run, left, still, shape⟩ := getNextXmitSduSegs_sdu maxPacketLength retrans held mps
  refine ⟨n, c', frames, run, left, still, shape, ?_⟩
  split_ifs at shape with short
  · exact deliversOnce_unseg idle shape
  · obtain ⟨first, conts, last, chunks, segs⟩ := shape
    exact deliversOnce_segmented idle fits mtu16 (by rw [chunks.spells, List.flatten_cons]) segs

/-- Five bytes over a `tx_mps` of two: a start, a continuation and an end frame. -/
theorem ertm_sdu_round_trip_five_bytes :
    ∃ n c' frames, getNextXmitSduSegs
        { Channel.opened 63 63 10 2 1000 21 with xmitHoldQ := [⟨[1, 2, 3, 4, 5], false⟩] } 0 n =
          some (c', frames) ∧
      c'.xmitHoldQ = [] ∧
      (∀ m < n, StillHeld
        { Channel.opened 63 63 10 2 1000 21 with xmitHoldQ := [⟨[1, 2, 3, 4, 5], false⟩] } 0 m []) ∧
      (if ([1, 2, 3, 4, 5] : List UInt8).length ≤ xmitMaxPdu 2 0 then
          frames.map sarPayload = [(.unseg, [1, 2, 3, 4, 5])]
        else SegmentedSdu (xmitMaxPdu 2 0) [1, 2, 3, 4, 5] (frames.map sarPayload)) ∧
      DeliversOnce (Channel.opened 63 63 10 2 1000 21) frames [1, 2, 3, 4, 5] := by
  refine ertm_sdu_round_trip 0 ?_ ?_ ?_ ?_ ?_ ?_ <;> decide

end Bluedroid.L2cap.Fcr
