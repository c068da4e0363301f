import Bluedroid.Theory.Chunks
import Bluedroid.Theory.Calls
import Bluedroid.L2cap.Fcr.Frame

/-!
# L2cap.Ble.Lcc -- segmentation and reassembly on LE credit-based channels

On an LE credit-based channel an SDU travels in K-frames of at most the peer's
MPS.  `l2c_lcc_get_next_xmit_sdu_seg` sends the SDU at the head of
`xmit_hold_q` with its two-byte length in front of the first K-frame, which
therefore carries two bytes less of the SDU; `l2c_lcc_proc_pdu` reads that
length into `ble_sdu_length`, allocates `ble_sdu` for it, and appends the
K-frames until the SDU is complete.  A K-frame is represented by its
information payload; the basic L2CAP header is stripped before
`l2c_lcc_proc_pdu` and not represented.

* Round trip (`lcc_sdu_round_trip`): for a peer MPS of at least
  `L2CAP_LE_MIN_MPS`, the K-frames of an SDU, fed to a receiver waiting for a
  first segment whose local MPS admits them, pass exactly that SDU up and leave
  the receiver waiting for a first segment again.
* Safety (`lcc_reassembly_bounded`): whatever K-frames arrive, `ble_sdu` never
  holds more than the `ble_sdu_length` bytes it was allocated for, and an SDU
  is passed up only with exactly the announced length.
-/

namespace Bluedroid.L2cap.Ble

set_option autoImplicit false

open Bluedroid.Theory (Chunks calls calls_succ Reached reached_before_succ)
open Bluedroid.L2cap.Fcr (XmitBuf uint16ToStream streamToUint16 streamToUint16_uint16ToStream)

/-- `L2CAP_LCC_SDU_LENGTH`. -/
def l2capLccSduLength : UInt16 := 2

/-- `L2CAP_LE_MIN_MPS`. -/
def l2capLeMinMps : UInt16 := 23

/-- The LE credit-based view of a channel control block: the negotiated
configurations, `xmit_hold_q` on the sending side, and the reassembly state on
the receiving side. -/
structure LccChannel where
  /-- `peer_conn_cfg.mps`; `max_pdu` is computed from it in `uint16_t`. -/
  peerMps : UInt16
  /-- `local_conn_cfg.mps`. -/
  localMps : ℕ
  /-- `local_conn_cfg.mtu`. -/
  localMtu : ℕ
  xmitHoldQ : List XmitBuf
  isFirstSeg : Bool
  /-- `ble_sdu`: the bytes of the SDU being reassembled, if one is allocated. -/
  bleSdu : Option (List UInt8)
  bleSduLength : ℕ
  /-- No `l2cu_disconnect_chnl` yet. -/
  isOpen : Bool
  /-- SDUs passed up (`L2CEVT_L2CAP_DATA`), oldest first. -/
  delivered : List (List UInt8)
  deriving DecidableEq, Repr

/-! ## The model -/

/-- `l2c_lcc_get_next_xmit_sdu_seg`: the payload of the next K-frame of the SDU
at the head of `xmit_hold_q`, and `last_piece_of_sdu`.  The buffer leaves the
queue with its last piece.  With the queue empty the source reads through a
`NULL` buffer: `none`. -/
def l2cLccGetNextXmitSduSeg (c : LccChannel) : Option (LccChannel × List UInt8 × Bool) :=
  match c.xmitHoldQ with
  | [] => none
  | buf :: rest =>
      let maxPdu : UInt16 := c.peerMps - 4
      let firstPdu := !buf.started
      let noOfBytesToSend :=
        min buf.data.length (if firstPdu then (maxPdu - l2capLccSduLength).toNat else maxPdu.toNat)
      let lastPdu := decide (noOfBytesToSend = buf.data.length)
      let payload :=
        (if firstPdu then uint16ToStream buf.data.length else []) ++ buf.data.take noOfBytesToSend
      let queue := if lastPdu then rest else ⟨buf.data.drop noOfBytesToSend, true⟩ :: rest
      some ({ c with xmitHoldQ := queue }, payload, lastPdu)

/-- `l2cu_disconnect_chnl`. -/
def l2cuDisconnectChnl (c : LccChannel) : LccChannel := { c with isOpen := false }

/-- The end of `l2c_lcc_proc_pdu`: copy `data` behind the `sdu` bytes so far;
pass the SDU up and wait for a first segment once it has `ble_sdu_length`
bytes. -/
def lccAppend (c : LccChannel) (sdu data : List UInt8) : LccChannel :=
  let sdu := sdu ++ data
  if sdu.length = c.bleSduLength then
    { c with
      delivered := c.delivered ++ [sdu], isFirstSeg := true, bleSdu := none, bleSduLength := 0 }
  else if sdu.length < c.bleSduLength then { c with bleSdu := some sdu, isFirstSeg := false }
  else { c with bleSdu := some sdu }

/-- `l2c_lcc_proc_pdu` on the payload of one K-frame. -/
def l2cLccProcPdu (c : LccChannel) (pdu : List UInt8) : LccChannel :=
  if c.localMps < pdu.length then l2cuDisconnectChnl c
  else if c.isFirstSeg then
    match pdu with
    | b₀ :: b₁ :: data =>
        let sduLength := streamToUint16 b₀ b₁
        if c.localMtu < sduLength then l2cuDisconnectChnl c
        else if sduLength < data.length then c
        else lccAppend { c with bleSdu := some [], bleSduLength := sduLength } [] data
    -- shorter than the SDU length field: dropped
    | _ => c
  else
    match c.bleSdu with
    | none => c
    | some sdu =>
        -- the source compares with `ble_sdu_length - p_data->len`, computed in `int`
        if c.bleSduLength < sdu.length + pdu.length then
          l2cuDisconnectChnl { c with isFirstSeg := true, bleSdu := none, bleSduLength := 0 }
        else lccAppend c sdu pdu

/-- One call of `l2c_lcc_get_next_xmit_sdu_seg` as the link's send loop sees
it: the channel after it and the K-frame to send. -/
def lccSendStep (c : LccChannel) : Option (LccChannel × List UInt8) :=
  (l2cLccGetNextXmitSduSeg c).map fun (c, pdu, _) => (c, pdu)

/-- `n` calls of `l2c_lcc_get_next_xmit_sdu_seg` in a row, as the link's send
loop makes them while it has credits, with the payloads in the order sent. -/
def l2cLccGetNextXmitSduSegs (c : LccChannel) (n : ℕ) : Option (LccChannel × List (List UInt8)) :=
  calls lccSendStep n c

/-- `l2c_lcc_proc_pdu` on each K-frame in order. -/
def l2cLccProcPdus (c : LccChannel) (pdus : List (List UInt8)) : LccChannel :=
  pdus.foldl l2cLccProcPdu c

@[simp] theorem l2cLccProcPdus_nil (c : LccChannel) : l2cLccProcPdus c [] = c := rfl

@[simp] theorem l2cLccProcPdus_cons (c : LccChannel) (pdu : List UInt8) (pdus : List (List UInt8)) :
    l2cLccProcPdus c (pdu :: pdus) = l2cLccProcPdus (l2cLccProcPdu c pdu) pdus := rfl

theorem l2cLccProcPdus_append (c : LccChannel) (pdus more : List (List UInt8)) :
    l2cLccProcPdus c (pdus ++ more) = l2cLccProcPdus (l2cLccProcPdus c pdus) more :=
  List.foldl_append

/-! ## Safety: `ble_sdu` stays within its allocation -/

/-- `ble_sdu` holds at most the `ble_sdu_length` bytes it was allocated for. -/
def SduWithin (c : LccChannel) : Prop :=
  ∀ sdu, c.bleSdu = some sdu → sdu.length ≤ c.bleSduLength

/-- The length a K-frame is held to: the two length bytes in front of it when
it opens an SDU, else the `ble_sdu_length` that the K-frame opening the SDU
announced. -/
def announcedLength (c : LccChannel) (pdu : List UInt8) : ℕ :=
  if c.isFirstSeg then
    match pdu with
    | b₀ :: b₁ :: _ => streamToUint16 b₀ b₁
    | _ => 0
  else c.bleSduLength

/-- What a K-frame can do to the reassembly state: nothing; disconnect; or copy
`data` behind the bytes `sdu` so far, with room for them in `ble_sdu_length`
bytes announced for the SDU. -/
theorem l2cLccProcPdu_cases (c : LccChannel) (pdu : List UInt8) :
    l2cLccProcPdu c pdu = c ∨
      l2cLccProcPdu c pdu = l2cuDisconnectChnl c ∨
      l2cLccProcPdu c pdu =
        l2cuDisconnectChnl { c with isFirstSeg := true, bleSdu := none, bleSduLength := 0 } ∨
      ∃ c₀ sdu data, l2cLccProcPdu c pdu = lccAppend c₀ sdu data ∧
        (sdu ++ data).length ≤ c₀.bleSduLength ∧ c₀.bleSduLength = announcedLength c pdu ∧
        c₀.delivered = c.delivered := by
  unfold l2cLccProcPdu
  split_ifs with tooLong first
  · exact .inr (.inl rfl)
  · match pdu, first with
    | b₀ :: b₁ :: data, first =>
      dsimp only
      split_ifs with mtu short
      · exact .inr (.inl rfl)
      · exact .inl rfl
      · refine .inr (.inr (.inr ⟨_, [], data, rfl, by simpa using short, ?_, rfl⟩))
        simp [announcedLength, first]
    | [], _ => exact .inl rfl
    | [_], _ => exact .inl rfl
  · split
    · exact .inl rfl
    · rename_i sdu _
      split_ifs with room
      · exact .inr (.inr (.inl rfl))
      · refine .inr (.inr (.inr ⟨c, sdu, pdu, rfl, by simpa using room, ?_, rfl⟩))
        simp [announcedLength, first]

theorem sduWithin_lccAppend {c : LccChannel} {sdu data : List UInt8}
    (room : (sdu ++ data).length ≤ c.bleSduLength) : SduWithin (lccAppend c sdu data) := by
  unfold lccAppend
  dsimp only
  split_ifs with complete growing
  · intro _ none_eq
    cases none_eq
  · rintro _ ⟨⟩
    exact room
  · omega

theorem lccAppend_delivered (c : LccChannel) (sdu data : List UInt8) :
    (lccAppend c sdu data).delivered = c.delivered ∨
      ((lccAppend c sdu data).delivered = c.delivered ++ [sdu ++ data] ∧
        (sdu ++ data).length = c.bleSduLength) := by
  unfold lccAppend
  dsimp only
  split_ifs with complete
  · exact .inr ⟨rfl, complete⟩
  · exact .inl rfl
  · exact .inl rfl

/-- Every K-frame keeps `ble_sdu` within its allocation. -/
theorem sduWithin_l2cLccProcPdu {c : LccChannel} (within : SduWithin c) (pdu : List UInt8) :
    SduWithin (l2cLccProcPdu c pdu) := by
  rcases l2cLccProcPdu_cases c pdu with same | same | same | ⟨c₀, sdu, data, same, room, -, -⟩ <;>
    rw [same]
  · exact within
  · exact within
  · rintro _ ⟨⟩
  · exact sduWithin_lccAppend room

theorem sduWithin_l2cLccProcPdus {c : LccChannel} (within : SduWithin c) (pdus : List (List UInt8)) :
    SduWithin (l2cLccProcPdus c pdus) := by
  induction pdus generalizing c with
  | nil => exact within
  | cons pdu pdus ih => exact ih (sduWithin_l2cLccProcPdu within pdu)

/-- A K-frame passes up nothing, or one SDU of exactly the announced length. -/
theorem l2cLccProcPdu_delivered (c : LccChannel) (pdu : List UInt8) :
    (l2cLccProcPdu c pdu).delivered = c.delivered ∨
      ∃ sdu, (l2cLccProcPdu c pdu).delivered = c.delivered ++ [sdu] ∧
        sdu.length = announcedLength c pdu := by
  rcases l2cLccProcPdu_cases c pdu with same | same | same | ⟨c₀, sdu, data, same, -, announced, kept⟩ <;>
    rw [same]
  · exact .inl rfl
  · exact .inl rfl
  · exact .inl rfl
  · rcases lccAppend_delivered c₀ sdu data with silent | ⟨passed, complete⟩
    · exact .inl (silent.trans kept)
    · exact .inr ⟨sdu ++ data, by rw [passed, kept], complete.trans announced⟩

/-- **LE reassembly is bounded.**  Feed `l2c_lcc_proc_pdu` any K-frames from a
state within its allocation (a channel with no SDU allocated is), then one more.
After it `ble_sdu` still holds at most `ble_sdu_length` bytes, and the K-frame
passed up nothing or one SDU of exactly the length announced for it. -/
theorem lcc_reassembly_bounded {c : LccChannel} (within : SduWithin c) (pdus : List (List UInt8))
    (pdu : List UInt8) :
    SduWithin (l2cLccProcPdu (l2cLccProcPdus c pdus) pdu) ∧
      ((l2cLccProcPdu (l2cLccProcPdus c pdus) pdu).delivered = (l2cLccProcPdus c pdus).delivered ∨
        ∃ sdu, (l2cLccProcPdu (l2cLccProcPdus c pdus) pdu).delivered =
            (l2cLccProcPdus c pdus).delivered ++ [sdu] ∧
          sdu.length = announcedLength (l2cLccProcPdus c pdus) pdu) :=
  ⟨sduWithin_l2cLccProcPdu (sduWithin_l2cLccProcPdus within pdus) pdu,
    l2cLccProcPdu_delivered _ pdu⟩

/-! ## Segmentation -/

/-- For a peer MPS of at least `L2CAP_LE_MIN_MPS` the 16-bit `max_pdu`, and
`max_pdu` less the SDU length field, do not wrap. -/
theorem maxPdu_toNat {mps : UInt16} (min : l2capLeMinMps ≤ mps) :
    (mps - 4).toNat = mps.toNat - 4 ∧ (mps - 4 - l2capLccSduLength).toNat = mps.toNat - 4 - 2 := by
  have le : 23 ≤ mps.toNat := UInt16.le_iff_toNat_le.mp min
  have four : (mps - 4).toNat = mps.toNat - 4 :=
    UInt16.toNat_sub_of_le _ _ (UInt16.le_iff_toNat_le.mpr (by simp; omega))
  refine ⟨four, ?_⟩
  rw [UInt16.toNat_sub_of_le _ _ (UInt16.le_iff_toNat_le.mpr (by rw [four]; simp [l2capLccSduLength]; omega)),
    four]
  rfl

/-- A call sends the next `room` bytes of the buffer at the head of
`xmit_hold_q`, behind the SDU length if the buffer has not been started, where
`room` is `max_pdu`, less the length field for a first K-frame; the buffer
leaves the queue, and `last_piece_of_sdu` is set, once they are its last. -/
theorem l2cLccGetNextXmitSduSeg_held {c : LccChannel} {buf : XmitBuf} {rest : List XmitBuf}
    (room : ℕ) (held : c.xmitHoldQ = buf :: rest)
    (room_eq : (if buf.started then c.peerMps - 4 else c.peerMps - 4 - l2capLccSduLength).toNat = room) :
    l2cLccGetNextXmitSduSeg c =
      some ({ c with
          xmitHoldQ := if buf.data.length ≤ room then rest else ⟨buf.data.drop room, true⟩ :: rest },
        (if buf.started then [] else uint16ToStream buf.data.length) ++ buf.data.take room,
        decide (buf.data.length ≤ room)) := by
  obtain ⟨data, started⟩ := buf
  unfold l2cLccGetNextXmitSduSeg
  rw [held]
  have sent : (if (!started) = true then (c.peerMps - 4 - l2capLccSduLength).toNat
      else (c.peerMps - 4).toNat) = room := by
    cases started <;> simpa using room_eq
  dsimp only
  rw [sent]
  by_cases fits : data.length ≤ room
  · cases started <;> simp [fits, List.take_of_length_le fits]
  · have less : min data.length room = room := Nat.min_eq_right (by omega)
    have ne : room ≠ data.length := by omega
    cases started <;> simp [fits, less, ne]

theorem lccSendStep_of {c c₁ : LccChannel} {pdu : List UInt8} {last : Bool}
    (call : l2cLccGetNextXmitSduSeg c = some (c₁, pdu, last)) : lccSendStep c = some (c₁, pdu) := by
  rw [lccSendStep, call, Option.map_some]

theorem l2cLccGetNextXmitSduSegs_succ {c c₁ : LccChannel} {pdu : List UInt8}
    (call : lccSendStep c = some (c₁, pdu)) (n : ℕ) :
    l2cLccGetNextXmitSduSegs c (n + 1) =
      (l2cLccGetNextXmitSduSegs c₁ n).map fun (c', pdus) => (c', pdu :: pdus) :=
  calls_succ call n

/-- After `m` calls the SDU has not yet left `xmit_hold_q`. -/
def LccStillHeld (c : LccChannel) (m : ℕ) (rest : List XmitBuf) : Prop :=
  Reached lccSendStep (fun c' => ∃ buf, c'.xmitHoldQ = buf :: rest) m c

/-- An SDU as `l2c_lcc_get_next_xmit_sdu_seg` sends it with `max_pdu` bytes to a
K-frame: the first K-frame carries the SDU length and up to `max_pdu - 2` bytes
of the SDU; what is left goes in K-frames of `max_pdu` bytes and a last one of
one to `max_pdu` bytes. -/
def LccSegmented (maxPdu : ℕ) (sdu : List UInt8) (pdus : List (List UInt8)) : Prop :=
  if sdu.length ≤ maxPdu - 2 then pdus = [uint16ToStream sdu.length ++ sdu]
  else ∃ full last, Chunks maxPdu (sdu.drop (maxPdu - 2)) full last ∧
    pdus = (uint16ToStream sdu.length ++ sdu.take (maxPdu - 2)) :: full ++ [last]

/-- **A started buffer runs out**: K-frames of `max_pdu` bytes while more are
left, then the rest, with the buffer at the head of the queue until then. -/
theorem l2cLccGetNextXmitSduSegs_started {maxPdu : ℕ} {rest : List XmitBuf} (pos : 1 ≤ maxPdu)
    (data : List UInt8) (c : LccChannel) (held : c.xmitHoldQ = ⟨data, true⟩ :: rest)
    (maxPdu_eq : (c.peerMps - 4).toNat = maxPdu) (nonempty : 0 < data.length) :
    ∃ full last c' pdus, Chunks maxPdu data full last ∧
      l2cLccGetNextXmitSduSegs c (full.length + 1) = some (c', pdus) ∧ c'.xmitHoldQ = rest ∧
      (∀ m < full.length + 1, LccStillHeld c m rest) ∧ pdus = full ++ [last] := by
  -- strong induction on the bytes left: a K-frame takes `max_pdu` of them
  generalize len_eq : data.length = len at nonempty
  induction len using Nat.strong_induction_on generalizing data c with
  | _ len ih =>
    have call := l2cLccGetNextXmitSduSeg_held maxPdu held maxPdu_eq
    by_cases long : maxPdu < data.length
    · -- the buffer keeps the rest, at the head of the queue
      simp only [Nat.not_le.mpr long, ↓reduceIte, List.nil_append] at call
      obtain ⟨full, last, c', pdus, chunks, run, left, still, rfl⟩ :=
        ih (len - maxPdu) (by omega) (data.drop maxPdu)
          { c with xmitHoldQ := ⟨data.drop maxPdu, true⟩ :: rest } rfl maxPdu_eq
          (by rw [List.length_drop]; omega) (by omega)
      refine ⟨data.take maxPdu :: full, last, c', data.take maxPdu :: (full ++ [last]),
        chunks.take_cons long, ?_, left, reached_before_succ ⟨_, held⟩ (lccSendStep_of call) still, rfl⟩
      rw [List.length_cons, l2cLccGetNextXmitSduSegs_succ (lccSendStep_of call), run, Option.map_some]
    · -- the last K-frame: the buffer leaves the queue
      simp only [Nat.not_lt.mp long, if_true, List.take_of_length_le (Nat.not_lt.mp long)] at call
      refine ⟨[], data, { c with xmitHoldQ := rest }, [data], Chunks.last_only (by omega) (by omega), ?_, rfl,
        reached_before_succ ⟨_, held⟩ (lccSendStep_of call)
          (fun m before => absurd before (Nat.not_lt_zero m)), rfl⟩
      rw [List.length_nil, l2cLccGetNextXmitSduSegs_succ (lccSendStep_of call)]
      rfl

/-- **How an SDU is segmented.**  Calls of `l2c_lcc_get_next_xmit_sdu_seg` send
the SDU at the head of `xmit_hold_q` as `LccSegmented` says, for a peer MPS of
at least `L2CAP_LE_MIN_MPS`; the last of them is the first after which the SDU
has left the queue. -/
theorem l2cLccGetNextXmitSduSegs_sdu {c : LccChannel} {sdu : List UInt8} {rest : List XmitBuf}
    (held : c.xmitHoldQ = ⟨sdu, false⟩ :: rest) (min : l2capLeMinMps ≤ c.peerMps) :
    ∃ n c' pdus, l2cLccGetNextXmitSduSegs c n = some (c', pdus) ∧ c'.xmitHoldQ = rest ∧
      (∀ m < n, LccStillHeld c m rest) ∧ LccSegmented (c.peerMps.toNat - 4) sdu pdus := by
  obtain ⟨four, six⟩ := maxPdu_toNat min
  have le : 23 ≤ c.peerMps.toNat := UInt16.le_iff_toNat_le.mp min
  have call := l2cLccGetNextXmitSduSeg_held (c.peerMps.toNat - 4 - 2) held six
  by_cases long : c.peerMps.toNat - 4 - 2 < sdu.length
  · -- a first K-frame, then the started buffer runs out
    simp only [Nat.not_le.mpr long, ↓reduceIte, Bool.false_eq_true] at call
    obtain ⟨full, last, c', pdus, chunks, run, left, still, rfl⟩ :=
      l2cLccGetNextXmitSduSegs_started (by omega) (sdu.drop (c.peerMps.toNat - 4 - 2))
        { c with xmitHoldQ := ⟨sdu.drop (c.peerMps.toNat - 4 - 2), true⟩ :: rest } rfl four
        (by rw [List.length_drop]; omega)
    refine ⟨full.length + 1 + 1, c',
      (uint16ToStream sdu.length ++ sdu.take (c.peerMps.toNat - 4 - 2)) :: (full ++ [last]), ?_, left,
      reached_before_succ ⟨_, held⟩ (lccSendStep_of call) still, ?_⟩
    · rw [l2cLccGetNextXmitSduSegs_succ (lccSendStep_of call), run, Option.map_some]
    · rw [LccSegmented, if_neg (Nat.not_le.mpr long)]
      exact ⟨full, last, chunks, by rw [List.cons_append]⟩
  · -- one K-frame
    simp only [Nat.not_lt.mp long, if_true, List.take_of_length_le (Nat.not_lt.mp long)] at call
    refine ⟨1, { c with xmitHoldQ := rest }, [uint16ToStream sdu.length ++ sdu], ?_, rfl,
      reached_before_succ ⟨_, held⟩ (lccSendStep_of call) (fun m before => absurd before (Nat.not_lt_zero m)),
      ?_⟩
    · rw [l2cLccGetNextXmitSduSegs_succ (lccSendStep_of call)]
      rfl
    · rw [LccSegmented, if_pos (Nat.not_lt.mp long)]

example :
    ((l2cLccGetNextXmitSduSegs ⟨23, 23, 100, [⟨List.replicate 40 7, false⟩], true, none, 0, true, []⟩
        3).map fun (_, pdus) => pdus.map List.length) = some [19, 19, 4] := by
  decide

/-! ## Reassembly -/

theorem lccAppend_complete {c : LccChannel} {sdu data : List UInt8}
    (complete : (sdu ++ data).length = c.bleSduLength) :
    lccAppend c sdu data = { c with
      delivered := c.delivered ++ [sdu ++ data], isFirstSeg := true, bleSdu := none, bleSduLength := 0 } := by
  simp [lccAppend, complete]

theorem lccAppend_growing {c : LccChannel} {sdu data : List UInt8}
    (growing : (sdu ++ data).length < c.bleSduLength) :
    lccAppend c sdu data = { c with bleSdu := some (sdu ++ data), isFirstSeg := false } := by
  rw [List.length_append] at growing
  simp [lccAppend, Nat.ne_of_lt growing, growing]

/-- A K-frame opening an SDU whose announced length the receiver admits: a
buffer is allocated for it and the bytes after the length field copied in. -/
theorem l2cLccProcPdu_opening {r : LccChannel} {len : ℕ} {first : List UInt8}
    (fresh : r.isFirstSeg = true) (small : (uint16ToStream len ++ first).length ≤ r.localMps)
    (fits : len ≤ r.localMtu) (mtu16 : r.localMtu < 2 ^ 16) (room : first.length ≤ len) :
    l2cLccProcPdu r (uint16ToStream len ++ first) =
      lccAppend { r with bleSdu := some [], bleSduLength := len } [] first := by
  have announced : streamToUint16 (UInt8.ofNat (len % 256)) (UInt8.ofNat (len / 256 % 256)) = len := by
    rw [streamToUint16_uint16ToStream]
    omega
  unfold l2cLccProcPdu
  rw [if_neg (Nat.not_lt.mpr small), if_pos fresh]
  simp only [uint16ToStream, List.cons_append, List.nil_append, announced, Nat.not_lt.mpr fits,
    Nat.not_lt.mpr room, if_false]

/-- A K-frame continuing an SDU, with room for it. -/
theorem l2cLccProcPdu_continuing {r : LccChannel} {acc pdu : List UInt8}
    (started : r.isFirstSeg = false) (busy : r.bleSdu = some acc) (small : pdu.length ≤ r.localMps)
    (room : acc.length + pdu.length ≤ r.bleSduLength) :
    l2cLccProcPdu r pdu = lccAppend r acc pdu := by
  simp [l2cLccProcPdu, Nat.not_lt.mpr small, started, busy, Nat.not_lt.mpr room]

/-- What the receiver does with the K-frames of one SDU: it passes that SDU up
and nothing else, no proper prefix passes anything up, and it ends waiting for
a first segment with no buffer, without having disconnected. -/
structure LccDeliversOnce (r : LccChannel) (pdus : List (List UInt8)) (sdu : List UInt8) : Prop where
  delivers : (l2cLccProcPdus r pdus).delivered = r.delivered ++ [sdu]
  first_seg : (l2cLccProcPdus r pdus).isFirstSeg = true
  idle : (l2cLccProcPdus r pdus).bleSdu = none
  stays_open : (l2cLccProcPdus r pdus).isOpen = r.isOpen
  prefix_silent : ∀ k < pdus.length, (l2cLccProcPdus r (pdus.take k)).delivered = r.delivered

/-- The last K-frame of an SDU completes it. -/
theorem LccDeliversOnce.single {r : LccChannel} {pdu sdu : List UInt8}
    (completes : l2cLccProcPdu r pdu = { r with
      delivered := r.delivered ++ [sdu], isFirstSeg := true, bleSdu := none, bleSduLength := 0 }) :
    LccDeliversOnce r [pdu] sdu where
  delivers := by rw [l2cLccProcPdus_cons, completes]; rfl
  first_seg := by rw [l2cLccProcPdus_cons, completes]; rfl
  idle := by rw [l2cLccProcPdus_cons, completes]; rfl
  stays_open := by rw [l2cLccProcPdus_cons, completes]; rfl
  prefix_silent := by
    rintro k before
    obtain rfl : k = 0 := by simpa using before
    rfl

/-- A K-frame taken without passing anything up or disconnecting, in front of
K-frames delivered once. -/
theorem LccDeliversOnce.cons {r r₁ : LccChannel} {pdu sdu : List UInt8} {pdus : List (List UInt8)}
    (takes : l2cLccProcPdu r pdu = r₁) (silent : r₁.delivered = r.delivered)
    (kept : r₁.isOpen = r.isOpen) (after : LccDeliversOnce r₁ pdus sdu) :
    LccDeliversOnce r (pdu :: pdus) sdu where
  delivers := by rw [l2cLccProcPdus_cons, takes, after.delivers, silent]
  first_seg := by rw [l2cLccProcPdus_cons, takes, after.first_seg]
  idle := by rw [l2cLccProcPdus_cons, takes, after.idle]
  stays_open := by rw [l2cLccProcPdus_cons, takes, after.stays_open, kept]
  prefix_silent := by
    rintro (_ | k) before
    · rfl
    · rw [List.take_succ_cons, l2cLccProcPdus_cons, takes,
        after.prefix_silent k (by simpa using before), silent]

/-- The K-frames after the first: each is appended, and the one that brings the
SDU to `ble_sdu_length` bytes passes it up. -/
theorem lccDeliversOnce_tail :
    ∀ (chunks : List (List UInt8)) (r : LccChannel) (acc : List UInt8), chunks ≠ [] →
      (∀ chunk ∈ chunks, 0 < chunk.length ∧ chunk.length ≤ r.localMps) →
      r.isFirstSeg = false → r.bleSdu = some acc →
      acc.length + chunks.flatten.length = r.bleSduLength →
      LccDeliversOnce r chunks (acc ++ chunks.flatten)
  | [], _, _, nonempty, _, _, _, _ => absurd rfl nonempty
  | [chunk], r, acc, _, sizes, started, busy, complete => by
    have fits := sizes chunk (List.mem_singleton_self chunk)
    rw [List.flatten_singleton] at complete ⊢
    refine LccDeliversOnce.single ?_
    rw [l2cLccProcPdu_continuing started busy fits.2 complete.le,
      lccAppend_complete (by rw [List.length_append]; exact complete)]
  | chunk :: next :: more, r, acc, _, sizes, started, busy, complete => by
    have fits := sizes chunk List.mem_cons_self
    have next_pos := (sizes next (List.mem_cons_of_mem _ List.mem_cons_self)).1
    simp only [List.flatten_cons, List.length_append] at complete
    have growing : (acc ++ chunk).length < r.bleSduLength := by
      rw [List.length_append]
      omega
    have after := lccDeliversOnce_tail (next :: more)
      { r with bleSdu := some (acc ++ chunk), isFirstSeg := false } (acc ++ chunk)
      (List.cons_ne_nil _ _) (fun c mem => sizes c (List.mem_cons_of_mem _ mem)) rfl rfl
      (by simp only [List.flatten_cons, List.length_append]; omega)
    have takes : l2cLccProcPdu r chunk =
        { r with bleSdu := some (acc ++ chunk), isFirstSeg := false } := by
      rw [l2cLccProcPdu_continuing started busy fits.2 (by omega), lccAppend_growing growing]
    rw [List.flatten_cons, ← List.append_assoc]
    exact LccDeliversOnce.cons takes rfl rfl after

/-- **The reassembler accepts a segmented SDU.**  From a receiver waiting for a
first segment, a first K-frame carrying the SDU length and K-frames whose
payloads spell the SDU, none of them empty after the first and none more than
the local MPS, pass the SDU up at the last K-frame and nothing before it.  The
sizes of the K-frames do not matter otherwise. -/
theorem lccDeliversOnce_segmented {r : LccChannel} {sdu first : List UInt8}
    {chunks : List (List UInt8)} (fresh : r.isFirstSeg = true) (fits : sdu.length ≤ r.localMtu)
    (mtu16 : r.localMtu < 2 ^ 16) (spells : sdu = first ++ chunks.flatten)
    (nonempty : ∀ chunk ∈ chunks, 0 < chunk.length)
    (small : ∀ pdu ∈ (uint16ToStream sdu.length ++ first) :: chunks, pdu.length ≤ r.localMps) :
    LccDeliversOnce r ((uint16ToStream sdu.length ++ first) :: chunks) sdu := by
  have lengths : sdu.length = first.length + chunks.flatten.length := by
    rw [spells, List.length_append]
  have opening := l2cLccProcPdu_opening fresh (small _ List.mem_cons_self) fits mtu16 (by omega)
  rcases chunks with _ | ⟨chunk, more⟩
  · -- one K-frame carries the whole SDU
    rw [List.flatten_nil, List.append_nil] at spells
    subst spells
    refine LccDeliversOnce.single ?_
    rw [opening, lccAppend_complete rfl]
    rfl
  · have rest_pos : 0 < (chunk :: more).flatten.length := by
      simpa [List.flatten_cons] using Nat.lt_add_right _ (nonempty chunk List.mem_cons_self)
    have growing : ([] ++ first).length < sdu.length := by
      rw [List.nil_append]
      omega
    have after := lccDeliversOnce_tail (chunk :: more)
      { r with bleSdu := some first, bleSduLength := sdu.length, isFirstSeg := false } first
      (List.cons_ne_nil _ _)
      (fun c mem => ⟨nonempty c mem, small c (List.mem_cons_of_mem _ mem)⟩) rfl rfl
      (by dsimp only; omega)
    have takes : l2cLccProcPdu r (uint16ToStream sdu.length ++ first) =
        { r with bleSdu := some first, bleSduLength := sdu.length, isFirstSeg := false } := by
      rw [opening, lccAppend_growing growing]
      rfl
    rw [← spells] at after
    exact LccDeliversOnce.cons takes rfl rfl after

/-! ## The round trip -/

/-- **LE credit-based segmentation round trip.**  Take an SDU at the head of
`xmit_hold_q` and a peer MPS of at least `L2CAP_LE_MIN_MPS`, and call
`l2c_lcc_get_next_xmit_sdu_seg` until the SDU has left the queue.  The first
K-frame carries the SDU length in front (`LccSegmented`).  Fed in order to
`l2c_lcc_proc_pdu` on a receiver waiting for a first segment, whose local MTU
the SDU fits and whose local MPS admits every one of the K-frames, they pass
exactly that SDU up, nothing before the last of them, and leave the receiver
waiting for a first segment with no buffer. -/
theorem lcc_sdu_round_trip {c r : LccChannel} {sdu : List UInt8} {rest : List XmitBuf}
    (held : c.xmitHoldQ = ⟨sdu, false⟩ :: rest) (min : l2capLeMinMps ≤ c.peerMps)
    (fresh : r.isFirstSeg = true) (fits : sdu.length ≤ r.localMtu) (mtu16 : r.localMtu < 2 ^ 16) :
    ∃ n c' pdus, l2cLccGetNextXmitSduSegs c n = some (c', pdus) ∧ c'.xmitHoldQ = rest ∧
      (∀ m < n, LccStillHeld c m rest) ∧ LccSegmented (c.peerMps.toNat - 4) sdu pdus ∧
      ((∀ pdu ∈ pdus, pdu.length ≤ r.localMps) → LccDeliversOnce r pdus sdu) := by
  obtain ⟨n, c', pdus, run, left, still, shape⟩ := l2cLccGetNextXmitSduSegs_sdu held min
  refine ⟨n, c', pdus, run, left, still, shape, fun small => ?_⟩
  have le : 23 ≤ c.peerMps.toNat := UInt16.le_iff_toNat_le.mp min
  unfold LccSegmented at shape
  split_ifs at shape with short
  · subst shape
    have spells : sdu = sdu ++ ([] : List (List UInt8)).flatten := by
      rw [List.flatten_nil, List.append_nil]
    exact lccDeliversOnce_segmented fresh fits mtu16 spells (fun _ mem => absurd mem List.not_mem_nil) small
  · obtain ⟨full, last, chunks, rfl⟩ := shape
    rw [List.cons_append] at small ⊢
    refine lccDeliversOnce_segmented fresh fits mtu16 ?_ ?_ small
    · rw [List.flatten_append, List.flatten_singleton, ← chunks.spells,
        List.take_append_drop]
    · intro chunk mem
      rcases List.mem_append.mp mem with full_mem | last_mem
      · rw [chunks.full_length chunk full_mem]
        omega
      · rw [List.mem_singleton.mp last_mem]
        exact chunks.last_pos

/-- **LE credit-based segmentation and reassembly**: the round trip of
`lcc_sdu_round_trip`, and the bound of `lcc_reassembly_bounded` over every
sequence of K-frames whatsoever. -/
theorem lcc_sar_round_trip_and_bounded :
    (∀ {c r : LccChannel} {sdu : List UInt8} {rest : List XmitBuf},
      c.xmitHoldQ = ⟨sdu, false⟩ :: rest → l2capLeMinMps ≤ c.peerMps →
      r.isFirstSeg = true → sdu.length ≤ r.localMtu → r.localMtu < 2 ^ 16 →
      ∃ n c' pdus, l2cLccGetNextXmitSduSegs c n = some (c', pdus) ∧ c'.xmitHoldQ = rest ∧
        (∀ m < n, LccStillHeld c m rest) ∧ LccSegmented (c.peerMps.toNat - 4) sdu pdus ∧
        ((∀ pdu ∈ pdus, pdu.length ≤ r.localMps) → LccDeliversOnce r pdus sdu)) ∧
    (∀ (c : LccChannel), SduWithin c → ∀ (pdus : List (List UInt8)) (pdu : List UInt8),
      SduWithin (l2cLccProcPdu (l2cLccProcPdus c pdus) pdu) ∧
        ((l2cLccProcPdu (l2cLccProcPdus c pdus) pdu).delivered = (l2cLccProcPdus c pdus).delivered ∨
          ∃ sdu, (l2cLccProcPdu (l2cLccProcPdus c pdus) pdu).delivered =
              (l2cLccProcPdus c pdus).delivered ++ [sdu] ∧
            sdu.length = announcedLength (l2cLccProcPdus c pdus) pdu)) :=
  ⟨fun held min fresh fits mtu16 => lcc_sdu_round_trip held min fresh fits mtu16,
    fun _ within pdus pdu => lcc_reassembly_bounded within pdus pdu⟩

/-- Forty bytes over the smallest peer MPS, to a receiver of the same MPS; and a
fresh receiver given a K-frame announcing four bytes. -/
theorem lcc_sar_round_trip_and_bounded_forty_bytes :
    (∃ n c' pdus, l2cLccGetNextXmitSduSegs
          ⟨23, 23, 100, [⟨List.replicate 40 7, false⟩], true, none, 0, true, []⟩ n = some (c', pdus) ∧
        c'.xmitHoldQ = [] ∧
        (∀ m < n, LccStillHeld ⟨23, 23, 100, [⟨List.replicate 40 7, false⟩], true, none, 0, true, []⟩ m []) ∧
        LccSegmented ((23 : UInt16).toNat - 4) (List.replicate 40 7) pdus ∧
        ((∀ pdu ∈ pdus, pdu.length ≤ 23) →
          LccDeliversOnce ⟨23, 23, 100, [], true, none, 0, true, []⟩ pdus (List.replicate 40 7))) ∧
      SduWithin (l2cLccProcPdu (l2cLccProcPdus ⟨23, 23, 100, [], true, none, 0, true, []⟩ []) [4, 0, 1, 2]) ∧
      ((l2cLccProcPdu (l2cLccProcPdus ⟨23, 23, 100, [], true, none, 0, true, []⟩ []) [4, 0, 1, 2]).delivered =
          (l2cLccProcPdus ⟨23, 23, 100, [], true, none, 0, true, []⟩ []).delivered ∨
        ∃ sdu, (l2cLccProcPdu (l2cLccProcPdus ⟨23, 23, 100, [], true, none, 0, true, []⟩ [])
              [4, 0, 1, 2]).delivered =
            (l2cLccProcPdus ⟨23, 23, 100, [], true, none, 0, true, []⟩ []).delivered ++ [sdu] ∧
          sdu.length = announcedLength (l2cLccProcPdus ⟨23, 23, 100, [], true, none, 0, true, []⟩ [])
            [4, 0, 1, 2]) := by
  refine ⟨?_, lcc_sar_round_trip_and_bounded.2 _ ?_ [] [4, 0, 1, 2]⟩
  · exact lcc_sar_round_trip_and_bounded.1
      (c := ⟨23, 23, 100, [⟨List.replicate 40 7, false⟩], true, none, 0, true, []⟩)
      (r := ⟨23, 23, 100, [], true, none, 0, true, []⟩) rfl (by decide) rfl (by decide) (by decide)
  · rintro _ ⟨⟩

end Bluedroid.L2cap.Ble
