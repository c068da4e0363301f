import Bluedroid.L2cap.Fcr.Receive

/-!
# L2cap.Fcr.Reassembly -- what `do_sar_reassembly` keeps and refuses

The frames of one SDU arrive in sequence with their SAR bits: one unsegmented
frame, or a start frame (whose first two bytes announce the SDU length
`rx_sdu_len`), continuation frames and an end frame.  `do_sar_reassembly`
allocates `p_rx_sdu` for the announced length and copies each segment behind
the bytes already there.

Whatever frames a peer sends, the SDU in progress holds at most `rx_sdu_len`
bytes and was allocated for at most `max_rx_mtu` of them (`SarInv`, kept by
every call: `sarInv_doSarReassembly`); a frame is refused, which makes the
caller disconnect, exactly when it violates the SAR order (`sarViolation`,
`doSarReassembly_snd_eq_false_iff`); and an SDU passed up from segments has
exactly the announced length (`doSarReassembly_delivered`).  So the `memcpy`
into `p_rx_sdu` stays inside its allocation.
-/

namespace Bluedroid.L2cap.Fcr

set_option autoImplicit false

/-! ## The reassembly state and the SAR order -/

/-- The reassembly state `do_sar_reassembly` keeps: an SDU in progress holds at
most `rx_sdu_len` bytes, and was allocated for an `rx_sdu_len` of at most
`max_rx_mtu`. -/
structure SarInv (c : Channel) : Prop where
  within : ∀ sdu, c.pRxSdu = some sdu → sdu.length ≤ c.rxSduLen
  allocated : c.pRxSdu.isSome → c.rxSduLen ≤ c.maxRxMtu

/-- The SAR-order violations of the ERTM specification, for `frame` against the
reassembly state of `c`: an unsegmented or start frame while an SDU is in
progress, a start shorter than its two length bytes or announcing more than the
MTU or less than it carries, a continuation or end with no SDU in progress, more
bytes than announced, or an end that leaves the SDU short. -/
def sarViolation (c : Channel) (frame : IFrame) : Bool :=
  match frame.sar, c.pRxSdu with
  | .unseg, sdu => sdu.isSome
  | .start, sdu =>
      match frame.payload with
      | b₀ :: b₁ :: data =>
          sdu.isSome || decide (c.maxRxMtu < streamToUint16 b₀ b₁) ||
            decide (streamToUint16 b₀ b₁ < data.length)
      | _ => true
  | .cont, some sdu => decide (c.rxSduLen < sdu.length + frame.payload.length)
  | .end_, some sdu => decide (sdu.length + frame.payload.length ≠ c.rxSduLen)
  | .cont, none | .end_, none => true

/-! ## One frame -/

theorem sarAppend_snd_eq_false_iff (c : Channel) (sar : Sar) (data : List UInt8) :
    (sarAppend c sar data).2 = false ↔
      c.rxSduLen < (c.pRxSdu.getD []).length + data.length ∨
        (sar = .end_ ∧ (c.pRxSdu.getD []).length + data.length ≠ c.rxSduLen) := by
  unfold sarAppend
  dsimp only
  split_ifs <;> simp_all

theorem doSarReassembly_snd_eq_false_iff (c : Channel) (frame : IFrame) :
    (doSarReassembly c frame).2 = false ↔ sarViolation c frame = true := by
  obtain ⟨txSeq, reqSeq, fBit, sar, payload⟩ := frame
  cases sar with
  | unseg => cases h : c.pRxSdu <;> simp [doSarReassembly, sarStateOk, sarViolation, h]
  | start =>
    rcases payload with _ | ⟨b₀, _ | ⟨b₁, data⟩⟩
    · simp [doSarReassembly, sarStateOk, sarViolation]
    · simp [doSarReassembly, sarStateOk, sarViolation]
    · cases h : c.pRxSdu
      · simp [doSarReassembly, sarStateOk, sarViolation, h]
        split_ifs <;> simp_all [sarAppend_snd_eq_false_iff]
      · simp [doSarReassembly, sarStateOk, sarViolation, h]
  | end_ =>
    cases h : c.pRxSdu
    · simp [doSarReassembly, sarStateOk, sarViolation, h]
    · simp [doSarReassembly, sarStateOk, sarViolation, h, sarAppend_snd_eq_false_iff]
      omega
  | cont =>
    cases h : c.pRxSdu <;> simp [doSarReassembly, sarStateOk, sarViolation, h, sarAppend_snd_eq_false_iff]

theorem sarInv_sarAppend {c : Channel} (inv : SarInv c) (inProgress : c.pRxSdu.isSome)
    (sar : Sar) (data : List UInt8) : SarInv (sarAppend c sar data).1 := by
  unfold sarAppend
  dsimp only
  split_ifs with overrun short finished
  · exact inv
  · exact inv
  · exact ⟨by simp, by simp⟩
  · refine ⟨fun sdu appended => ?_, fun _ => inv.allocated inProgress⟩
    simp only [Option.some.injEq] at appended
    subst appended
    show (_ ++ data).length ≤ c.rxSduLen
    rw [List.length_append]
    omega

/-- No SDU in progress: nothing to bound. -/
theorem sarInv_of_none {c : Channel} (idle : c.pRxSdu = none) : SarInv c :=
  ⟨by simp [idle], by simp [idle]⟩

theorem sarInv_doSarReassembly {c : Channel} (inv : SarInv c) (frame : IFrame) :
    SarInv (doSarReassembly c frame).1 := by
  obtain ⟨txSeq, reqSeq, fBit, sar, payload⟩ := frame
  cases h : c.pRxSdu with
  | some sdu =>
    -- an SDU is in progress: only a continuation or an end is taken
    have inProgress : c.pRxSdu.isSome := by simp [h]
    cases sar with
    | unseg => simpa [doSarReassembly, sarStateOk, h] using inv
    | start => simpa [doSarReassembly, sarStateOk, h] using inv
    | end_ => simpa [doSarReassembly, sarStateOk, h] using sarInv_sarAppend inv inProgress .end_ payload
    | cont => simpa [doSarReassembly, sarStateOk, h] using sarInv_sarAppend inv inProgress .cont payload
  | none =>
    cases sar with
    | unseg =>
      apply sarInv_of_none
      simp [doSarReassembly, sarStateOk, h]
    | start =>
      rcases payload with _ | ⟨b₀, _ | ⟨b₁, data⟩⟩
      · simpa [doSarReassembly, sarStateOk, h] using inv
      · simpa [doSarReassembly, sarStateOk, h] using inv
      · simp only [doSarReassembly, sarStateOk, h]
        rw [if_neg (by simp)]
        split_ifs with overMtu
        · exact sarInv_of_none rfl
        · -- the buffer is allocated for the announced length, then the first bytes go in
          refine sarInv_sarAppend ⟨?_, fun _ => Nat.le_of_not_lt overMtu⟩ rfl .start data
          rintro _ ⟨⟩
          exact Nat.zero_le _
    | end_ => simpa [doSarReassembly, sarStateOk, h] using inv
    | cont => simpa [doSarReassembly, sarStateOk, h] using inv

/-- `sarAppend` passes up nothing, or at an end the whole SDU, of exactly
`rx_sdu_len` bytes. -/
theorem sarAppend_delivered (c : Channel) (sar : Sar) (data : List UInt8) :
    (sarAppend c sar data).1.delivered = c.delivered ∨
      sar = .end_ ∧ (sarAppend c sar data).1.delivered = c.delivered ++ [c.pRxSdu.getD [] ++ data] ∧
        (c.pRxSdu.getD [] ++ data).length = c.rxSduLen := by
  unfold sarAppend
  dsimp only
  split_ifs with overrun short finished
  · exact .inl rfl
  · exact .inl rfl
  · refine .inr ⟨finished, rfl, ?_⟩
    rw [List.length_append]
    exact not_not.mp fun ne => short ⟨finished, ne⟩
  · exact .inl rfl

/-- What `do_sar_reassembly` passes up: nothing, an unsegmented frame's payload,
or at an end segment an SDU of exactly the announced `rx_sdu_len`, which is at
most the MTU. -/
theorem doSarReassembly_delivered {c : Channel} (inv : SarInv c) (frame : IFrame) :
    (doSarReassembly c frame).1.delivered = c.delivered ∨
      (frame.sar = .unseg ∧
        (doSarReassembly c frame).1.delivered = c.delivered ++ [frame.payload]) ∨
      (frame.sar = .end_ ∧ ∃ sdu, (doSarReassembly c frame).1.delivered = c.delivered ++ [sdu] ∧
        sdu.length = c.rxSduLen ∧ c.rxSduLen ≤ c.maxRxMtu) := by
  obtain ⟨txSeq, reqSeq, fBit, sar, payload⟩ := frame
  cases h : c.pRxSdu with
  | some sdu =>
    have inProgress : c.pRxSdu.isSome := by simp [h]
    cases sar with
    | unseg => exact .inl (by simp [doSarReassembly, sarStateOk, h])
    | start => exact .inl (by simp [doSarReassembly, sarStateOk, h])
    | end_ =>
      have reduces : doSarReassembly c ⟨txSeq, reqSeq, fBit, .end_, payload⟩ =
          sarAppend c .end_ payload := by
        simp [doSarReassembly, sarStateOk, h]
      rw [reduces]
      rcases sarAppend_delivered c .end_ payload with same | ⟨-, grew, exact⟩
      · exact .inl same
      · exact .inr (.inr ⟨rfl, _, grew, exact, inv.allocated inProgress⟩)
    | cont =>
      have reduces : doSarReassembly c ⟨txSeq, reqSeq, fBit, .cont, payload⟩ =
          sarAppend c .cont payload := by
        simp [doSarReassembly, sarStateOk, h]
      rw [reduces]
      rcases sarAppend_delivered c .cont payload with same | ⟨⟨⟩, -⟩
      exact .inl same
  | none =>
    cases sar with
    | unseg => exact .inr (.inl ⟨rfl, by simp [doSarReassembly, sarStateOk, h]⟩)
    | start =>
      left
      rcases payload with _ | ⟨b₀, _ | ⟨b₁, data⟩⟩
      · simp [doSarReassembly, sarStateOk, h]
      · simp [doSarReassembly, sarStateOk, h]
      · simp only [doSarReassembly, sarStateOk, h]
        rw [if_neg (by simp)]
        split_ifs
        · rfl
        · rcases sarAppend_delivered { c with rxSduLen := streamToUint16 b₀ b₁, pRxSdu := some [] }
            .start data with same | ⟨⟨⟩, -⟩
          exact same
    | end_ => exact .inl (by simp [doSarReassembly, sarStateOk, h])
    | cont => exact .inl (by simp [doSarReassembly, sarStateOk, h])

/-! ## A sequence of frames -/

/-- The reassembly state after feeding `do_sar_reassembly` the frames in order,
whatever it returns for each. -/
def reassemble (c : Channel) (frames : List IFrame) : Channel :=
  frames.foldl (fun c frame => (doSarReassembly c frame).1) c

theorem sarInv_reassemble {c : Channel} (inv : SarInv c) (frames : List IFrame) :
    SarInv (reassemble c frames) := by
  induction frames generalizing c with
  | nil => exact inv
  | cons frame rest ih => exact ih (sarInv_doSarReassembly inv frame)

/-- **ERTM reassembly is bounded.**  Feed `do_sar_reassembly` any frames, from
a state within the bounds (a channel with no SDU in progress is), and then one
more.  After it the SDU in progress holds at most `rx_sdu_len` bytes and was
allocated for at most `max_rx_mtu`; the frame was refused exactly if it
violates the SAR order; and it passed up nothing, an unsegmented payload, or an
SDU of exactly the announced length. -/
theorem sar_reassembly_bounded {c : Channel} (inv : SarInv c) (frames : List IFrame)
    (frame : IFrame) :
    SarInv (doSarReassembly (reassemble c frames) frame).1 ∧
    ((doSarReassembly (reassemble c frames) frame).2 = false ↔
      sarViolation (reassemble c frames) frame = true) ∧
    ((doSarReassembly (reassemble c frames) frame).1.delivered =
        (reassemble c frames).delivered ∨
      (frame.sar = .unseg ∧ (doSarReassembly (reassemble c frames) frame).1.delivered =
        (reassemble c frames).delivered ++ [frame.payload]) ∨
      (frame.sar = .end_ ∧ ∃ sdu, (doSarReassembly (reassemble c frames) frame).1.delivered =
          (reassemble c frames).delivered ++ [sdu] ∧
        sdu.length = (reassemble c frames).rxSduLen ∧
        (reassemble c frames).rxSduLen ≤ (reassemble c frames).maxRxMtu)) := by
  have before := sarInv_reassemble inv frames
  exact ⟨sarInv_doSarReassembly before frame, doSarReassembly_snd_eq_false_iff _ frame,
    doSarReassembly_delivered before frame⟩

/-- A freshly opened channel, and a start frame announcing four bytes. -/
theorem sar_reassembly_bounded_at_open :
    SarInv (Channel.opened 63 63 10 1000 1000 21) ∧
      SarInv (doSarReassembly (reassemble (Channel.opened 63 63 10 1000 1000 21) [])
        ⟨0, 0, false, .start, [4, 0, 1, 2]⟩).1 :=
  ⟨sarInv_of_none rfl,
    (sar_reassembly_bounded (sarInv_of_none rfl) [] ⟨0, 0, false, .start, [4, 0, 1, 2]⟩).1⟩

end Bluedroid.L2cap.Fcr
