import Mathlib
import Bluedroid.Theory.Buffer
import Bluedroid.Theory.Loop
import Bluedroid.Theory.Octets

/-!
# Avdt.Cfg -- the service capabilities of AVDTP signalling

`avdt_msg_bld_cfg` writes a stream endpoint configuration as service category
elements, each a category octet, a length octet and that many bytes (LOSC).
`avdt_msg_prs_cfg` reads such elements back into an `AvdtpSepConfig`, one per
pass of a `while` loop, with a length check against the tables
`avdt_msg_ie_len_min` and `avdt_msg_ie_len_max` and a `switch` over the
category.  Every read from the message and every write into `codec_info` and
`protect_info` goes through `Theory.readAt` and `Theory.copyInto`, so that
`none` is an access outside a buffer.

* `avdtMsgPrsCfg_within`: for every byte string and every signal, the parser
  reads only inside the string and writes only inside the two arrays.
* `avdtMsgPrsCfg_bldCfg`: what the builder writes is parsed back, for a
  configuration whose codec and protection elements have at least the
  minimum lengths of the tables.
* The parser stores the element's length in `codec_info[0]` but copies at most
  `AVDT_CODEC_SIZE - 1` bytes: a longer codec element leaves a first octet that
  says more than the array holds (the example at the end of the module).
-/

namespace Bluedroid.Avdt

open Bluedroid.Theory (copyInto readAt loop loop_succ)

set_option autoImplicit false

/-! ## Constants -/

/-- `AVDT_CODEC_SIZE`: the bytes of `codec_info`. -/
def avdtCodecSize : ℕ := 20

/-- `AVDT_PROTECT_SIZE`: the bytes of `protect_info`. -/
def avdtProtectSize : ℕ := 90

/-- `AVDT_CAT_TRANS`. -/
def avdtCatTrans : UInt8 := 1

/-- `AVDT_CAT_REPORT`. -/
def avdtCatReport : UInt8 := 2

/-- `AVDT_CAT_RECOV`. -/
def avdtCatRecov : UInt8 := 3

/-- `AVDT_CAT_PROTECT`. -/
def avdtCatProtect : UInt8 := 4

/-- `AVDT_CAT_HDRCMP`. -/
def avdtCatHdrcmp : UInt8 := 5

/-- `AVDT_CAT_CODEC`. -/
def avdtCatCodec : UInt8 := 7

/-- `AVDT_CAT_DELAY_RPT`. -/
def avdtCatDelayRpt : UInt8 := 8

/-- `AVDT_CAT_MAX_CUR`. -/
def avdtCatMaxCur : UInt8 := avdtCatDelayRpt

/-- `AVDT_LEN_CFG_MIN`: the bytes of an element's header. -/
def avdtLenCfgMin : ℕ := 2

/-- `AVDT_PSC_TRANS`. -/
def avdtPscTrans : UInt16 := (1 : UInt16) <<< 1

/-- `AVDT_PSC_REPORT`. -/
def avdtPscReport : UInt16 := (1 : UInt16) <<< 2

/-- `AVDT_PSC_PROTECT`. -/
def avdtPscProtect : UInt16 := (1 : UInt16) <<< 4

/-- `AVDT_PSC_CODEC`. -/
def avdtPscCodec : UInt16 := (1 : UInt16) <<< 7

/-- `AVDT_PSC_DELAY_RPT`. -/
def avdtPscDelayRpt : UInt16 := (1 : UInt16) <<< 8

/-- `AVDT_ERR_LENGTH`. -/
def avdtErrLength : UInt8 := 0x11

/-- `AVDT_ERR_CATEGORY`. -/
def avdtErrCategory : UInt8 := 0x17

/-- `AVDT_ERR_PAYLOAD`. -/
def avdtErrPayload : UInt8 := 0x18

/-- `AVDT_ERR_RECOV_TYPE`. -/
def avdtErrRecovType : UInt8 := 0x22

/-- `AVDT_ERR_MEDIA_TRANS`. -/
def avdtErrMediaTrans : UInt8 := 0x23

/-- `AVDT_ERR_RECOV_FMT`. -/
def avdtErrRecovFmt : UInt8 := 0x25

/-- `AVDT_ERR_ROHC_FMT`. -/
def avdtErrRohcFmt : UInt8 := 0x26

/-- `AVDT_ERR_CP_FMT`. -/
def avdtErrCpFmt : UInt8 := 0x27

/-- `AVDT_ERR_MUX_FMT`. -/
def avdtErrMuxFmt : UInt8 := 0x28

/-- `AVDT_ERR_SERVICE`. -/
def avdtErrService : UInt8 := 0x80

/-- `AVDT_RECOV_RFC2733`. -/
def avdtRecovRfc2733 : UInt8 := 1

/-- `AVDT_RECOV_MRWS_MIN`, `AVDT_RECOV_MNMP_MIN`. -/
def avdtRecovMin : UInt8 := 0x01

/-- `AVDT_RECOV_MRWS_MAX`, `AVDT_RECOV_MNMP_MAX`. -/
def avdtRecovMax : UInt8 := 0x18

/-- `AVDT_SIG_SETCONFIG`. -/
def avdtSigSetconfig : UInt8 := 3

/-- `AVDT_SIG_RECONFIG`. -/
def avdtSigReconfig : UInt8 := 5

/-- `avdt_msg_ie_len_min`, by category: `AVDT_LEN_TRANS_MIN` .. `AVDT_LEN_DELAY_RPT_MIN`. -/
def avdtMsgIeLenMin : List UInt8 := [0, 0, 0, 3, 2, 1, 3, 2, 0]

/-- `avdt_msg_ie_len_max`, by category: `AVDT_LEN_TRANS_MAX` .. `AVDT_LEN_DELAY_RPT_MAX`. -/
def avdtMsgIeLenMax : List UInt8 := [0, 0, 0, 3, 255, 1, 7, 255, 0]

/-- `avdt_msg_ie_err`, by category. -/
def avdtMsgIeErr : List UInt8 :=
  [0, avdtErrMediaTrans, avdtErrLength, avdtErrRecovFmt, avdtErrCpFmt, avdtErrRohcFmt, avdtErrMuxFmt,
    avdtErrService, avdtErrService]

/-! ## The configuration -/

/-- `AvdtpSepConfig`. -/
structure AvdtpSepConfig where
  codecInfo : List UInt8
  protectInfo : List UInt8
  numCodec : UInt8
  numProtect : UInt8
  pscMask : UInt16
  recovType : UInt8
  recovMrws : UInt8
  recovMnmp : UInt8
  hdrcmpMask : UInt8
  deriving DecidableEq, Repr

/-- The arrays `codec_info[AVDT_CODEC_SIZE]` and `protect_info[AVDT_PROTECT_SIZE]`
have their sizes. -/
structure AvdtpSepConfig.Wf (cfg : AvdtpSepConfig) : Prop where
  length_codecInfo : cfg.codecInfo.length = avdtCodecSize
  length_protectInfo : cfg.protectInfo.length = avdtProtectSize

/-! ## Building -/

/-- The `len` of a codec or protection element in `avdt_msg_bld_cfg`: the
array's first byte plus one, as a `uint8_t`, and at most the array's size. -/
def bldLen (size : ℕ) (info : List UInt8) : ℕ :=
  let len : UInt8 := info.getD 0 0 + 1
  if len.toNat > size then size else len.toNat

/-- `avdt_msg_bld_cfg`: the bytes it writes from `*p` on. -/
def avdtMsgBldCfg (pCfg : AvdtpSepConfig) : List UInt8 :=
  (if pCfg.pscMask &&& avdtPscTrans ≠ 0 then [avdtCatTrans, 0] else []) ++
    (if pCfg.pscMask &&& avdtPscReport ≠ 0 then [avdtCatReport, 0] else []) ++
    (if pCfg.numCodec ≠ 0 then avdtCatCodec :: pCfg.codecInfo.take (bldLen avdtCodecSize pCfg.codecInfo)
      else []) ++
    (if pCfg.numProtect ≠ 0 then
      avdtCatProtect :: pCfg.protectInfo.take (bldLen avdtProtectSize pCfg.protectInfo) else []) ++
    (if pCfg.pscMask &&& avdtPscDelayRpt ≠ 0 then [avdtCatDelayRpt, 0] else [])

/-! ## Parsing -/

/-- The state of `avdt_msg_prs_cfg`'s loop: the configuration, how far `p` has
moved, the last category read, `err` and `protect_offset`. -/
structure PrsState where
  cfg : AvdtpSepConfig
  pos : ℕ
  elem : UInt8
  err : UInt8
  protectOffset : ℕ

/-- `p_cfg->psc_mask |= (1 << elem)`. -/
@[simps]
def AvdtpSepConfig.addPsc (cfg : AvdtpSepConfig) (elem : UInt8) : AvdtpSepConfig :=
  { cfg with pscMask := cfg.pscMask ||| (1 : UInt16) <<< elem.toUInt16 }

/-- `p_cfg->psc_mask &= ~bit`. -/
@[simps]
def AvdtpSepConfig.maskOut (cfg : AvdtpSepConfig) (bit : UInt16) : AvdtpSepConfig :=
  { cfg with pscMask := cfg.pscMask &&& ~~~bit }

/-- One more codec element, with `codec_info` as it was written. -/
@[simps]
def AvdtpSepConfig.withCodec (cfg : AvdtpSepConfig) (codecInfo : List UInt8) : AvdtpSepConfig :=
  { cfg with numCodec := cfg.numCodec + 1, codecInfo := codecInfo }

/-- One more protection element, with `protect_info` as it was written. -/
@[simps]
def AvdtpSepConfig.withProtect (cfg : AvdtpSepConfig) (protectInfo : List UInt8) : AvdtpSepConfig :=
  { cfg with numProtect := cfg.numProtect + 1, protectInfo := protectInfo }

/-- The error of a recovery element. -/
def recovErr (recovType recovMrws recovMnmp : UInt8) : UInt8 :=
  if recovType ≠ avdtRecovRfc2733 then avdtErrRecovType
  else if recovMrws < avdtRecovMin ∨ recovMrws > avdtRecovMax ∨ recovMnmp < avdtRecovMin ∨
      recovMnmp > avdtRecovMax then avdtErrRecovFmt
  else 0

/-- A recovery element's three octets read. -/
def PrsState.setRecov (st : PrsState) (recovType recovMrws recovMnmp : UInt8) : PrsState :=
  { st with
    cfg := { st.cfg with recovType := recovType, recovMrws := recovMrws, recovMnmp := recovMnmp }
    pos := st.pos + 3
    err := recovErr recovType recovMrws recovMnmp }

/-- A header compression element's octet read. -/
def PrsState.setHdrcmp (st : PrsState) (hdrcmpMask : UInt8) : PrsState :=
  { st with cfg := { st.cfg with hdrcmpMask := hdrcmpMask }, pos := st.pos + 1 }

/-- A protection element stored from `protect_offset` on. -/
@[simps]
def PrsState.addProtect (st : PrsState) (elemLen : UInt8) (protectInfo : List UInt8) : PrsState :=
  { st with
    cfg := st.cfg.withProtect protectInfo
    pos := st.pos + elemLen.toNat
    protectOffset := st.protectOffset + 1 + elemLen.toNat }

/-- A codec element stored in `codec_info`. -/
@[simps]
def PrsState.addCodec (st : PrsState) (elemLen : UInt8) (codecInfo : List UInt8) : PrsState :=
  { st with cfg := st.cfg.withCodec codecInfo, pos := st.pos + elemLen.toNat }

/-- The bytes of a codec element `avdt_msg_prs_cfg` copies: `tmp`. -/
def codecCopyLen (elemLen : UInt8) : ℕ :=
  if elemLen.toNat ≥ avdtCodecSize then avdtCodecSize - 1 else elemLen.toNat

/-- The `switch (elem)` of `avdt_msg_prs_cfg`, from `p` just past the element's
header; `none` where it would read or write outside a buffer. -/
def prsElem (p : List UInt8) (elemLen : UInt8) (st : PrsState) : Option PrsState :=
  if st.elem = avdtCatRecov then
    if p.length - st.pos < 3 then some { st with err := avdtErrPayload }
    else do
      let recovType ← p[st.pos]?
      let recovMrws ← p[st.pos + 1]?
      let recovMnmp ← p[st.pos + 2]?
      pure (st.setRecov recovType recovMrws recovMnmp)
  else if st.elem = avdtCatProtect then
    let st := { st with cfg := st.cfg.maskOut avdtPscProtect }
    if st.pos + elemLen.toNat > p.length then some { st with err := avdtErrLength }
    else if elemLen.toNat + st.protectOffset < avdtProtectSize then do
      -- the length octet, then the element, packed after the elements before
      let protectInfo ← copyInto st.cfg.protectInfo st.protectOffset [elemLen]
      let bytes ← readAt p st.pos elemLen.toNat
      let protectInfo ← copyInto protectInfo (st.protectOffset + 1) bytes
      pure (st.addProtect elemLen protectInfo)
    else some { st with pos := st.pos + elemLen.toNat }
  else if st.elem = avdtCatHdrcmp then
    if p.length - st.pos < 1 then some { st with err := avdtErrPayload }
    else do
      let hdrcmpMask ← p[st.pos]?
      pure (st.setHdrcmp hdrcmpMask)
  else if st.elem = avdtCatCodec then
    let st := { st with cfg := st.cfg.maskOut avdtPscCodec }
    if st.pos + codecCopyLen elemLen > p.length then some { st with err := avdtErrLength }
    else do
      -- `codec_info[0] = elem_len`, whatever `tmp` is
      let codecInfo ← copyInto st.cfg.codecInfo 0 [elemLen]
      let bytes ← readAt p st.pos (codecCopyLen elemLen)
      let codecInfo ← copyInto codecInfo 1 bytes
      pure (st.addCodec elemLen codecInfo)
  else if st.elem = avdtCatDelayRpt then some st
  else some { st with pos := st.pos + elemLen.toNat }

/-- What the loop leaves with: the configuration, `*p_elem` and the error;
`none` for a read outside `[p, p + len)` or a write outside an array. -/
abbrev PrsResult := Option (AvdtpSepConfig × UInt8 × UInt8)

/-- One pass of `avdt_msg_prs_cfg`'s `while` loop, its test included. -/
def prsCfgPass (p : List UInt8) (sigId : UInt8) (st : PrsState) : PrsState ⊕ PrsResult :=
  if st.pos < p.length ∧ st.err = 0 then
    if p.length - st.pos < avdtLenCfgMin then .inr (some (st.cfg, st.elem, avdtErrPayload))
    else
      match p[st.pos]?, p[st.pos + 1]? with
      | some elem, some elemLen =>
        if elem = 0 ∨ elem > avdtCatMaxCur then
          -- a category too new for us: an error in a configuration, skipped in capabilities
          if sigId = avdtSigSetconfig ∨ sigId = avdtSigReconfig then
            .inr (some (st.cfg, elem, avdtErrCategory))
          else .inl { st with pos := st.pos + 2 + elemLen.toNat, elem := elem }
        else if elemLen > avdtMsgIeLenMax.getD elem.toNat 0 ∨ elemLen < avdtMsgIeLenMin.getD elem.toNat 0 then
          .inr (some (st.cfg, elem, avdtMsgIeErr.getD elem.toNat 0))
        else
          match prsElem p elemLen { st with cfg := st.cfg.addPsc elem, pos := st.pos + 2, elem := elem } with
          | some st => .inl st
          | none => .inr none
      | _, _ => .inr none
  else .inr (some (st.cfg, st.elem, st.err))

/-- The loop starts with no category seen and the counts cleared. -/
def PrsState.init (pCfg : AvdtpSepConfig) : PrsState :=
  ⟨{ pCfg with pscMask := 0, numCodec := 0, numProtect := 0 }, 0, 0, 0, 0⟩

/-- `avdt_msg_prs_cfg(p_cfg, p, len, &elem, sig_id)` on the `len` bytes `p`
points to: the configuration, `*p_elem` and the error; `none` for an access
outside a buffer, or if the passes ran out (they do not: `avdtMsgPrsCfg_within`). -/
def avdtMsgPrsCfg (pCfg : AvdtpSepConfig) (p : List UInt8) (sigId : UInt8) :
    Option (AvdtpSepConfig × UInt8 × UInt8) :=
  (loop (prsCfgPass p sigId) (p.length + 1) (PrsState.init pCfg)).bind id

/-! ## Reads and writes stay inside the buffers -/

/-- A result of the loop that is no access outside a buffer, with the arrays
of their sizes. -/
def PrsResult.Within : PrsResult → Prop
  | some (cfg, _, _) => cfg.Wf
  | none => False

/-- A read of one octet inside the message. -/
theorem exists_getElem? {p : List UInt8} {i : ℕ} (inside : i < p.length) : ∃ b, p[i]? = some b :=
  ⟨_, List.getElem?_eq_getElem inside⟩

/-- The `switch` reads and writes inside the buffers, and moves `p` on or not at all. -/
theorem prsElem_within {p : List UInt8} {elemLen : UInt8} {st : PrsState} (wf : st.cfg.Wf) :
    ∃ st', prsElem p elemLen st = some st' ∧ st'.cfg.Wf ∧ st.pos ≤ st'.pos := by
  obtain ⟨lengthCodec, lengthProtect⟩ := wf
  unfold prsElem
  dsimp only
  split_ifs with recov short protect long room hdrcmp shortHdrcmp codec longCodec delayRpt
  · exact ⟨_, rfl, ⟨lengthCodec, lengthProtect⟩, Nat.le_refl _⟩
  · -- RECOV: three octets, inside the message
    obtain ⟨recovType, read₁⟩ := exists_getElem? (p := p) (i := st.pos) (by omega)
    obtain ⟨recovMrws, read₂⟩ := exists_getElem? (p := p) (i := st.pos + 1) (by omega)
    obtain ⟨recovMnmp, read₃⟩ := exists_getElem? (p := p) (i := st.pos + 2) (by omega)
    rw [read₁, read₂, read₃]
    exact ⟨_, rfl, ⟨lengthCodec, lengthProtect⟩, Nat.le_add_right _ _⟩
  · exact ⟨_, rfl, ⟨lengthCodec, lengthProtect⟩, Nat.le_refl _⟩
  · -- PROTECT: the length octet and the element, after the elements before
    have fits₁ : st.protectOffset + [elemLen].length ≤ st.cfg.protectInfo.length := by
      rw [lengthProtect, List.length_singleton]
      omega
    obtain ⟨info₁, copied₁, length₁⟩ := Theory.exists_copyInto fits₁
    have bytes : readAt p st.pos elemLen.toNat = some ((p.drop st.pos).take elemLen.toNat) :=
      Theory.readAt_of_le (by omega)
    have fits₂ : st.protectOffset + 1 + ((p.drop st.pos).take elemLen.toNat).length ≤ info₁.length := by
      rw [length₁, lengthProtect, List.length_take]
      omega
    obtain ⟨info₂, copied₂, length₂⟩ := Theory.exists_copyInto fits₂
    simp only [AvdtpSepConfig.maskOut, copied₁, bytes, copied₂, Option.bind_eq_bind, Option.bind_some,
      Option.pure_def]
    exact ⟨_, rfl, ⟨lengthCodec, by rw [← lengthProtect, ← length₁, ← length₂]; rfl⟩, Nat.le_add_right _ _⟩
  · exact ⟨_, rfl, ⟨lengthCodec, lengthProtect⟩, Nat.le_add_right _ _⟩
  · exact ⟨_, rfl, ⟨lengthCodec, lengthProtect⟩, Nat.le_refl _⟩
  · obtain ⟨hdrcmpMask, read⟩ := exists_getElem? (p := p) (i := st.pos) (by omega)
    rw [read]
    exact ⟨_, rfl, ⟨lengthCodec, lengthProtect⟩, Nat.le_add_right _ _⟩
  · exact ⟨_, rfl, ⟨lengthCodec, lengthProtect⟩, Nat.le_refl _⟩
  · -- CODEC: the length octet, then at most `AVDT_CODEC_SIZE - 1` bytes
    have copyLen : codecCopyLen elemLen ≤ avdtCodecSize - 1 := by
      unfold codecCopyLen
      split_ifs <;> simp only [avdtCodecSize] at * <;> omega
    have fits₁ : 0 + [elemLen].length ≤ st.cfg.codecInfo.length := by
      rw [lengthCodec, List.length_singleton]
      decide
    obtain ⟨info₁, copied₁, length₁⟩ := Theory.exists_copyInto fits₁
    have bytes : readAt p st.pos (codecCopyLen elemLen) = some ((p.drop st.pos).take (codecCopyLen elemLen)) :=
      Theory.readAt_of_le (by omega)
    have fits₂ : 1 + ((p.drop st.pos).take (codecCopyLen elemLen)).length ≤ info₁.length := by
      rw [length₁, lengthCodec, List.length_take]
      simp only [avdtCodecSize] at copyLen ⊢
      omega
    obtain ⟨info₂, copied₂, length₂⟩ := Theory.exists_copyInto fits₂
    simp only [AvdtpSepConfig.maskOut, copied₁, bytes, copied₂, Option.bind_eq_bind, Option.bind_some,
      Option.pure_def]
    exact ⟨_, rfl, ⟨by rw [← lengthCodec, ← length₁, ← length₂]; rfl, lengthProtect⟩, Nat.le_add_right _ _⟩
  · exact ⟨_, rfl, ⟨lengthCodec, lengthProtect⟩, Nat.le_refl _⟩
  · exact ⟨_, rfl, ⟨lengthCodec, lengthProtect⟩, Nat.le_add_right _ _⟩

/-- A pass reads and writes inside the buffers, and moves `p` on if it goes on. -/
theorem prsCfgPass_within {p : List UInt8} {sigId : UInt8} {st : PrsState} (wf : st.cfg.Wf) :
    (∃ st', prsCfgPass p sigId st = .inl st' ∧ st'.cfg.Wf ∧ p.length - st'.pos < p.length - st.pos) ∨
      ∃ r, prsCfgPass p sigId st = .inr r ∧ r.Within := by
  unfold prsCfgPass
  by_cases going : st.pos < p.length ∧ st.err = 0
  swap
  · rw [if_neg going]
    exact .inr ⟨_, rfl, wf⟩
  rw [if_pos going]
  by_cases short : p.length - st.pos < avdtLenCfgMin
  · rw [if_pos short]
    exact .inr ⟨_, rfl, wf⟩
  rw [if_neg short]
  -- the header octets are inside the message
  simp only [avdtLenCfgMin] at short
  obtain ⟨elem, read₁⟩ := exists_getElem? (p := p) (i := st.pos) (by omega)
  obtain ⟨elemLen, read₂⟩ := exists_getElem? (p := p) (i := st.pos + 1) (by omega)
  rw [read₁, read₂]
  dsimp only
  by_cases unknown : elem = 0 ∨ elem > avdtCatMaxCur
  · rw [if_pos unknown]
    by_cases config : sigId = avdtSigSetconfig ∨ sigId = avdtSigReconfig
    · rw [if_pos config]
      exact .inr ⟨_, rfl, wf⟩
    · rw [if_neg config]
      exact .inl ⟨_, rfl, wf, by dsimp only; omega⟩
  rw [if_neg unknown]
  by_cases outOfRange : elemLen > avdtMsgIeLenMax.getD elem.toNat 0 ∨ elemLen < avdtMsgIeLenMin.getD elem.toNat 0
  · rw [if_pos outOfRange]
    exact .inr ⟨_, rfl, wf⟩
  rw [if_neg outOfRange]
  obtain ⟨st', parsed, wf', moved⟩ :=
    @prsElem_within p elemLen { st with cfg := st.cfg.addPsc elem, pos := st.pos + 2, elem := elem } ⟨wf.1, wf.2⟩
  rw [parsed]
  exact .inl ⟨st', rfl, wf', by dsimp only at moved; omega⟩

/-- The run of the loop: it leaves, within one pass more than the bytes, with
a result that is no access outside a buffer. -/
theorem prsCfgLoop_total {pCfg : AvdtpSepConfig} (wf : pCfg.Wf) (p : List UInt8) (sigId : UInt8) :
    ∃ r : PrsResult, r.Within ∧ ∀ fuel, p.length < fuel → loop (prsCfgPass p sigId) fuel (PrsState.init pCfg) = some r :=
  -- the variant rule: every pass that goes on moves `p` towards the end
  @Theory.loop_total _ _ (prsCfgPass p sigId) (fun st => st.cfg.Wf) PrsResult.Within (fun st => p.length - st.pos)
    (fun _ wf => prsCfgPass_within wf) (PrsState.init pCfg) ⟨wf.1, wf.2⟩

/-- **`avdt_msg_prs_cfg` stays inside its buffers.**  For every byte string and
every signal, it returns, having read only inside `[p, p + len)` and written
only inside `codec_info` and `protect_info`. -/
theorem avdtMsgPrsCfg_within {pCfg : AvdtpSepConfig} (wf : pCfg.Wf) (p : List UInt8) (sigId : UInt8) :
    ∃ cfg elem err, avdtMsgPrsCfg pCfg p sigId = some (cfg, elem, err) ∧ cfg.Wf := by
  obtain ⟨r, within, runs⟩ := prsCfgLoop_total wf p sigId
  rcases r with _ | ⟨cfg, elem, err⟩
  · exact within.elim
  · refine ⟨cfg, elem, err, ?_, within⟩
    rw [avdtMsgPrsCfg, runs (p.length + 1) (Nat.lt_succ_self _), Option.bind_some, id]

/-- A SetConfiguration command with a media transport element and an SBC codec
element, parsed into a cleared configuration. -/
example :
    (⟨List.replicate 20 0, List.replicate 90 0, 0, 0, 0, 0, 0, 0, 0⟩ : AvdtpSepConfig).Wf ∧
      ∃ cfg elem err, avdtMsgPrsCfg ⟨List.replicate 20 0, List.replicate 90 0, 0, 0, 0, 0, 0, 0, 0⟩
        [avdtCatTrans, 0, avdtCatCodec, 6, 0, 0, 0x21, 0x15, 2, 250] avdtSigSetconfig = some (cfg, elem, err) ∧
        cfg.Wf :=
  ⟨⟨rfl, rfl⟩, avdtMsgPrsCfg_within ⟨rfl, rfl⟩ _ _⟩

/-! ## What was built is parsed back -/

/-- `p` past an element's header, its category recorded. -/
@[simps]
def PrsState.enter (st : PrsState) (elem : UInt8) : PrsState :=
  { st with cfg := st.cfg.addPsc elem, pos := st.pos + 2, elem := elem }

/-- `p_cfg->psc_mask &= ~bit`, on the loop's state. -/
@[simps]
def PrsState.maskOut (st : PrsState) (bit : UInt16) : PrsState := { st with cfg := st.cfg.maskOut bit }

/-- The loop has read `pre` without an error. -/
structure PrsState.At (st : PrsState) (pre : List UInt8) : Prop where
  pos_eq : st.pos = pre.length
  err_eq : st.err = 0

/-- How many bytes of a codec element the parser keeps. -/
theorem codecCopyLen_le (elemLen : UInt8) : codecCopyLen elemLen ≤ avdtCodecSize - 1 := by
  unfold codecCopyLen
  split_ifs with long
  · exact Nat.le_refl _
  · simp only [avdtCodecSize] at long ⊢
    omega

theorem codecCopyLen_of_lt {elemLen : UInt8} (short : elemLen.toNat < avdtCodecSize) :
    codecCopyLen elemLen = elemLen.toNat :=
  if_neg (Nat.not_le.mpr short)

/-- The two header octets of an element. -/
theorem getElem?_header {pre post : List UInt8} {elem elemLen : UInt8} :
    (pre ++ elem :: elemLen :: post)[pre.length]? = some elem ∧
      (pre ++ elem :: elemLen :: post)[pre.length + 1]? = some elemLen := by
  constructor
  · rw [List.getElem?_append_right (Nat.le_refl _), Nat.sub_self, List.getElem?_cons_zero]
  · rw [List.getElem?_append_right (Nat.le_add_right _ _), Nat.add_sub_cancel_left, List.getElem?_cons_succ,
      List.getElem?_cons_zero]

section RoundTrip

variable {p pre post : List UInt8} {sigId elem elemLen : UInt8} {st : PrsState}

/-- Past `pre`, a pass over an element of a known category and of a length the
tables admit is the `switch` on it. -/
theorem prsCfgPass_known (split : p = pre ++ elem :: elemLen :: post) (at_ : st.At pre)
    (known : ¬(elem = 0 ∨ elem > avdtCatMaxCur))
    (admitted : ¬(elemLen > avdtMsgIeLenMax.getD elem.toNat 0 ∨ elemLen < avdtMsgIeLenMin.getD elem.toNat 0)) :
    prsCfgPass p sigId st =
      match prsElem p elemLen (st.enter elem) with
      | some st => .inl st
      | none => .inr none := by
  subst split
  have long : pre.length + 2 ≤ (pre ++ elem :: elemLen :: post).length := by
    rw [List.length_append, List.length_cons, List.length_cons]
    omega
  have start := at_.pos_eq
  have read₁ : (pre ++ elem :: elemLen :: post)[st.pos]? = some elem := by
    rw [start]
    exact getElem?_header.1
  have read₂ : (pre ++ elem :: elemLen :: post)[st.pos + 1]? = some elemLen := by
    rw [start]
    exact getElem?_header.2
  unfold prsCfgPass
  rw [if_pos ⟨by omega, at_.err_eq⟩, if_neg (by simp only [avdtLenCfgMin]; omega), read₁, read₂]
  dsimp only
  rw [if_neg known, if_neg admitted]
  rfl

/-- The `switch`'s `default`: `p` moves past the element. -/
theorem prsElem_skip (other : st.elem ≠ avdtCatRecov ∧ st.elem ≠ avdtCatProtect ∧ st.elem ≠ avdtCatHdrcmp ∧
      st.elem ≠ avdtCatCodec ∧ st.elem ≠ avdtCatDelayRpt) :
    prsElem p elemLen st = some { st with pos := st.pos + elemLen.toNat } := by
  obtain ⟨recov, protect, hdrcmp, codec, delayRpt⟩ := other
  simp only [prsElem, recov, protect, hdrcmp, codec, delayRpt, if_false]

theorem prsElem_delayRpt (delayRpt : st.elem = avdtCatDelayRpt) : prsElem p elemLen st = some st := by
  simp only [prsElem, delayRpt]
  rfl

/-- A codec element: `codec_info[0]` is its length, then the bytes kept. -/
theorem prsElem_codec (codec : st.elem = avdtCatCodec) (length : st.cfg.codecInfo.length = avdtCodecSize)
    (fits : st.pos + codecCopyLen elemLen ≤ p.length) :
    ∃ info, prsElem p elemLen st = some ((st.maskOut avdtPscCodec).addCodec elemLen info) ∧
      info.take (1 + codecCopyLen elemLen) = elemLen :: (p.drop st.pos).take (codecCopyLen elemLen) ∧
      info.length = avdtCodecSize := by
  have copyLen := codecCopyLen_le elemLen
  have fits₁ : 0 + [elemLen].length ≤ st.cfg.codecInfo.length := by
    rw [length, List.length_singleton]
    decide
  obtain ⟨info₁, copied₁, length₁⟩ := Theory.exists_copyInto fits₁
  have bytes : readAt p st.pos (codecCopyLen elemLen) = some ((p.drop st.pos).take (codecCopyLen elemLen)) :=
    Theory.readAt_of_le fits
  have fits₂ : 1 + ((p.drop st.pos).take (codecCopyLen elemLen)).length ≤ info₁.length := by
    rw [length₁, length, List.length_take]
    simp only [avdtCodecSize] at copyLen ⊢
    omega
  obtain ⟨info₂, copied₂, length₂⟩ := Theory.exists_copyInto fits₂
  -- the length octet at 0, then the bytes from 1 on
  have first : (info₁.drop 0).take (1 - 0) = [elemLen] := Theory.window_copyInto copied₁
  have kept := Theory.window_copyInto_append copied₂ (Nat.zero_le 1) first
  rw [List.drop_zero, List.length_take, List.length_drop, Nat.min_eq_left (by omega), Nat.sub_zero] at kept
  refine ⟨info₂, ?_, kept, by rw [length₂, length₁, length]⟩
  unfold prsElem
  dsimp only
  rw [if_neg (by rw [codec]; decide), if_neg (by rw [codec]; decide), if_neg (by rw [codec]; decide),
    if_pos codec, if_neg (Nat.not_lt.mpr fits)]
  simp only [AvdtpSepConfig.maskOut_codecInfo, copied₁, bytes, copied₂, Option.bind_eq_bind, Option.bind_some,
    Option.pure_def]
  rfl

/-- A protection element: its length octet and its bytes, packed from
`protect_offset` on. -/
theorem prsElem_protect (protect : st.elem = avdtCatProtect) (length : st.cfg.protectInfo.length = avdtProtectSize)
    (fits : st.pos + elemLen.toNat ≤ p.length) (room : elemLen.toNat + st.protectOffset < avdtProtectSize) :
    ∃ info, prsElem p elemLen st = some ((st.maskOut avdtPscProtect).addProtect elemLen info) ∧
      (info.drop st.protectOffset).take (1 + elemLen.toNat) = elemLen :: (p.drop st.pos).take elemLen.toNat ∧
      info.length = avdtProtectSize := by
  have fits₁ : st.protectOffset + [elemLen].length ≤ st.cfg.protectInfo.length := by
    rw [length, List.length_singleton]
    omega
  obtain ⟨info₁, copied₁, length₁⟩ := Theory.exists_copyInto fits₁
  have bytes : readAt p st.pos elemLen.toNat = some ((p.drop st.pos).take elemLen.toNat) :=
    Theory.readAt_of_le fits
  have fits₂ : st.protectOffset + 1 + ((p.drop st.pos).take elemLen.toNat).length ≤ info₁.length := by
    rw [length₁, length, List.length_take]
    omega
  obtain ⟨info₂, copied₂, length₂⟩ := Theory.exists_copyInto fits₂
  -- the length octet at `protect_offset`, then the bytes after it
  have first : (info₁.drop st.protectOffset).take (st.protectOffset + 1 - st.protectOffset) = [elemLen] := by
    rw [Nat.add_sub_cancel_left]
    exact Theory.window_copyInto copied₁
  have kept := Theory.window_copyInto_append copied₂ (Nat.le_add_right _ 1) first
  rw [List.length_take, List.length_drop, Nat.min_eq_left (by omega), Nat.add_assoc, Nat.add_sub_cancel_left] at kept
  refine ⟨info₂, ?_, kept, by rw [length₂, length₁, length]⟩
  unfold prsElem
  dsimp only
  rw [if_neg (by rw [protect]; decide), if_pos protect, if_neg (Nat.not_lt.mpr fits), if_pos room]
  simp only [AvdtpSepConfig.maskOut_protectInfo, copied₁, bytes, copied₂, Option.bind_eq_bind, Option.bind_some,
    Option.pure_def]
  rfl

/-- An element with no bytes: media transport, reporting or delay reporting. -/
theorem prsCfgPass_empty {cat : UInt8} (empty : cat = avdtCatTrans ∨ cat = avdtCatReport ∨ cat = avdtCatDelayRpt)
    (split : p = pre ++ cat :: 0 :: post) (at_ : st.At pre) :
    prsCfgPass p sigId st = .inl (st.enter cat) := by
  rw [prsCfgPass_known split at_ (by rcases empty with rfl | rfl | rfl <;> decide)
    (by rcases empty with rfl | rfl | rfl <;> decide)]
  rcases empty with rfl | rfl | rfl
  · rw [prsElem_skip (by simp only [PrsState.enter_elem]; decide)]
    rfl
  · rw [prsElem_skip (by simp only [PrsState.enter_elem]; decide)]
    rfl
  · rw [prsElem_delayRpt (by rw [PrsState.enter_elem])]

/-- An element the builder may write or not: the loop passes it, if it is there. -/
theorem passes_empty (c : Prop) [Decidable c] {cat : UInt8}
    (empty : cat = avdtCatTrans ∨ cat = avdtCatReport ∨ cat = avdtCatDelayRpt)
    (split : p = pre ++ (if c then [cat, 0] else []) ++ post) (at_ : st.At pre) :
    Theory.Passes (prsCfgPass p sigId) st (if c then st.enter cat else st) ∧
      (if c then st.enter cat else st).At (pre ++ if c then [cat, 0] else []) := by
  by_cases present : c
  · rw [if_pos present] at split
    simp only [if_pos present]
    refine ⟨.single (prsCfgPass_empty empty (by rw [split, List.append_assoc]; rfl) at_), ?_, at_.err_eq⟩
    rw [PrsState.enter_pos, at_.pos_eq, List.length_append]
    rfl
  · rw [if_neg present, if_neg present, List.append_nil]
    exact ⟨.refl, at_⟩

/-- The bytes of an element are the ones after its header. -/
theorem take_drop_element {a b : UInt8} {body : List UInt8} (split : p = pre ++ a :: b :: (body ++ post)) :
    (p.drop (pre.length + 2)).take body.length = body := by
  have rest : p = (pre ++ [a, b]) ++ (body ++ post) := by
    rw [split, List.append_assoc]
    rfl
  rw [rest, List.drop_left' (by rw [List.length_append]; rfl), List.take_left]

/-- A codec element the builder may write or not. -/
theorem passes_codec (c : Prop) [Decidable c] {losc : UInt8} {body : List UInt8}
    (split : p = pre ++ (if c then avdtCatCodec :: losc :: body else []) ++ post) (at_ : st.At pre)
    (length : st.cfg.codecInfo.length = avdtCodecSize) (long : c → 2 ≤ losc.toNat ∧ losc.toNat < avdtCodecSize)
    (bodyLength : c → body.length = losc.toNat) :
    ∃ info, Theory.Passes (prsCfgPass p sigId) st
        (if c then ((st.enter avdtCatCodec).maskOut avdtPscCodec).addCodec losc info else st) ∧
      (if c then ((st.enter avdtCatCodec).maskOut avdtPscCodec).addCodec losc info else st).At
        (pre ++ if c then avdtCatCodec :: losc :: body else []) ∧
      (c → info.take (losc.toNat + 1) = losc :: body ∧ info.length = avdtCodecSize) := by
  by_cases present : c
  · obtain ⟨atLeast, below⟩ := long present
    replace bodyLength := bodyLength present
    rw [if_pos present] at split
    simp only [if_pos present]
    have split' : p = pre ++ avdtCatCodec :: losc :: (body ++ post) := by
      rw [split, List.append_assoc, List.cons_append, List.cons_append]
    have copyLen := codecCopyLen_of_lt below
    have lengthP : p.length = pre.length + 2 + body.length + post.length := by
      rw [split', List.length_append, List.length_cons, List.length_cons, List.length_append]
      omega
    obtain ⟨info, parsed, kept, lengthInfo⟩ := @prsElem_codec p losc (st.enter avdtCatCodec) rfl length
      (by rw [PrsState.enter_pos, at_.pos_eq, copyLen]; omega)
    have piece : (p.drop (st.enter avdtCatCodec).pos).take (codecCopyLen losc) = body := by
      rw [PrsState.enter_pos, at_.pos_eq, copyLen, ← bodyLength, take_drop_element split']
    refine ⟨info, .single ?_, ⟨?_, at_.err_eq⟩, fun _ => ⟨?_, lengthInfo⟩⟩
    · rw [prsCfgPass_known split' at_ (by decide) ?admitted, parsed]
      case admitted =>
        rw [show avdtMsgIeLenMax.getD avdtCatCodec.toNat 0 = 255 from rfl,
          show avdtMsgIeLenMin.getD avdtCatCodec.toNat 0 = 2 from rfl, gt_iff_lt, UInt8.lt_iff_toNat_lt,
          UInt8.lt_iff_toNat_lt]
        have := losc.toNat_lt
        change ¬(255 < losc.toNat ∨ losc.toNat < 2)
        omega
    · simp only [PrsState.addCodec_pos, PrsState.maskOut_pos, PrsState.enter_pos, at_.pos_eq, List.length_append,
        List.length_cons, bodyLength]
      omega
    · rw [Nat.add_comm, ← copyLen, kept, piece]
  · simp only [if_neg present, List.append_nil]
    exact ⟨[], .refl, at_, fun absent => absurd absent present⟩

/-- A protection element the builder may write or not. -/
theorem passes_protect (c : Prop) [Decidable c] {losc : UInt8} {body : List UInt8}
    (split : p = pre ++ (if c then avdtCatProtect :: losc :: body else []) ++ post) (at_ : st.At pre)
    (length : st.cfg.protectInfo.length = avdtProtectSize)
    (long : c → 2 ≤ losc.toNat ∧ losc.toNat + st.protectOffset < avdtProtectSize)
    (bodyLength : c → body.length = losc.toNat) :
    ∃ info, Theory.Passes (prsCfgPass p sigId) st
        (if c then ((st.enter avdtCatProtect).maskOut avdtPscProtect).addProtect losc info else st) ∧
      (if c then ((st.enter avdtCatProtect).maskOut avdtPscProtect).addProtect losc info else st).At
        (pre ++ if c then avdtCatProtect :: losc :: body else []) ∧
      (c → (info.drop st.protectOffset).take (losc.toNat + 1) = losc :: body ∧ info.length = avdtProtectSize) := by
  by_cases present : c
  · obtain ⟨atLeast, room⟩ := long present
    replace bodyLength := bodyLength present
    rw [if_pos present] at split
    simp only [if_pos present]
    have split' : p = pre ++ avdtCatProtect :: losc :: (body ++ post) := by
      rw [split, List.append_assoc, List.cons_append, List.cons_append]
    have lengthP : p.length = pre.length + 2 + body.length + post.length := by
      rw [split', List.length_append, List.length_cons, List.length_cons, List.length_append]
      omega
    obtain ⟨info, parsed, kept, lengthInfo⟩ := @prsElem_protect p losc (st.enter avdtCatProtect) rfl length
      (by rw [PrsState.enter_pos, at_.pos_eq]; omega) (by rw [PrsState.enter_protectOffset]; exact room)
    have piece : (p.drop (st.enter avdtCatProtect).pos).take losc.toNat = body := by
      rw [PrsState.enter_pos, at_.pos_eq, ← bodyLength, take_drop_element split']
    refine ⟨info, .single ?_, ⟨?_, at_.err_eq⟩, fun _ => ⟨?_, lengthInfo⟩⟩
    · rw [prsCfgPass_known split' at_ (by decide) ?admitted, parsed]
      case admitted =>
        rw [show avdtMsgIeLenMax.getD avdtCatProtect.toNat 0 = 255 from rfl,
          show avdtMsgIeLenMin.getD avdtCatProtect.toNat 0 = 2 from rfl, gt_iff_lt, UInt8.lt_iff_toNat_lt,
          UInt8.lt_iff_toNat_lt]
        have := losc.toNat_lt
        change ¬(255 < losc.toNat ∨ losc.toNat < 2)
        omega
    · simp only [PrsState.addProtect_pos, PrsState.maskOut_pos, PrsState.enter_pos, at_.pos_eq,
        List.length_append, List.length_cons, bodyLength]
      omega
    · rw [Nat.add_comm, ← PrsState.enter_protectOffset st avdtCatProtect, kept, piece]
  · simp only [if_neg present, List.append_nil]
    exact ⟨[], .refl, at_, fun absent => absurd absent present⟩

/-- The first `n + 1` octets of an array: its first octet, then `n` more. -/
theorem take_succ_getD {info : List UInt8} (nonempty : 0 < info.length) (n : ℕ) :
    info.take (n + 1) = info.getD 0 0 :: (info.drop 1).take n := by
  cases info with
  | nil => simp only [List.length_nil, Nat.lt_irrefl] at nonempty
  | cons first rest => rfl

/-- The bytes a codec or protection element carries: its first octet, the
element's length, then that many. -/
theorem take_bldLen {info : List UInt8} {size : ℕ} (length : info.length = size)
    (fits : (info.getD 0 0).toNat + 1 ≤ size) (small : size < 256) :
    info.take (bldLen size info) = info.getD 0 0 :: (info.drop 1).take (info.getD 0 0).toNat := by
  have noWrap : (info.getD 0 0 + 1 : UInt8).toNat = (info.getD 0 0).toNat + 1 := by
    rw [UInt8.toNat_add, show (1 : UInt8).toNat = 1 from rfl, Nat.mod_eq_of_lt (by omega)]
  unfold bldLen
  dsimp only
  rw [noWrap, if_neg (by omega), take_succ_getD (by omega)]

/-- The length octet of an element never runs past its array. -/
theorem bldLen_le (size : ℕ) (info : List UInt8) : bldLen size info ≤ size := by
  unfold bldLen
  dsimp only
  split_ifs with tooLong <;> omega

/-- A configuration is at most a header and a full array per element:
`avdt_msg_bld_cfg` writes at most 118 octets. -/
theorem length_avdtMsgBldCfg_le (pCfg : AvdtpSepConfig) :
    (avdtMsgBldCfg pCfg).length ≤ 8 + avdtCodecSize + avdtProtectSize := by
  have codec := (List.length_take_le _ pCfg.codecInfo).trans (bldLen_le avdtCodecSize pCfg.codecInfo)
  have protect := (List.length_take_le _ pCfg.protectInfo).trans (bldLen_le avdtProtectSize pCfg.protectInfo)
  simp only [avdtMsgBldCfg, List.length_append]
  split_ifs <;> simp only [List.length_cons, List.length_nil] <;> omega

/-- A count of one element at most, as the parser makes it. -/
theorem count_of_le_one {n : UInt8} (le : n ≤ 1) : (if n ≠ 0 then (0 : UInt8) + 1 else 0) = n := by
  by_cases zero : n = 0
  · rw [if_neg (not_not.mpr zero), zero]
  · rw [if_pos zero, ← UInt8.toNat_inj]
    rw [UInt8.le_iff_toNat_le] at le
    have : n.toNat ≠ 0 := fun toNat => zero (UInt8.toNat_inj.mp toNat)
    change 1 = n.toNat
    change n.toNat ≤ 1 at le
    omega

end RoundTrip

/-- The loop leaves with what its state holds once the message is read. -/
theorem prsCfgPass_end {p : List UInt8} {sigId : UInt8} {st : PrsState} (done : p.length ≤ st.pos) :
    prsCfgPass p sigId st = .inr (some (st.cfg, st.elem, st.err)) := by
  unfold prsCfgPass
  rw [if_neg (fun going => absurd going.1 (Nat.not_lt.mpr done))]

/-- The parser's answer is the one the loop leaves with where its passes lead,
with the arrays of their sizes. -/
theorem avdtMsgPrsCfg_of_passes {pCfg : AvdtpSepConfig} (wf : pCfg.Wf) {p : List UInt8} {sigId : UInt8}
    {st : PrsState} (passes : Theory.Passes (prsCfgPass p sigId) (PrsState.init pCfg) st) (done : p.length ≤ st.pos) :
    avdtMsgPrsCfg pCfg p sigId = some (st.cfg, st.elem, st.err) ∧ st.cfg.Wf := by
  obtain ⟨r, within, runs⟩ := prsCfgLoop_total wf p sigId
  have ran := runs (p.length + 1) (Nat.lt_succ_self _)
  rw [Theory.loop_of_passes passes (prsCfgPass_end done) ran] at within ran
  exact ⟨by rw [avdtMsgPrsCfg, ran, Option.bind_some, id], within⟩

/-- **What `avdt_msg_bld_cfg` writes, `avdt_msg_prs_cfg` reads back.** -/
theorem avdtMsgPrsCfg_bldCfg {pCfg : AvdtpSepConfig} (wf : pCfg.Wf)
    (psc : pCfg.pscMask &&& ~~~(avdtPscTrans ||| avdtPscReport ||| avdtPscDelayRpt) = 0)
    (oneCodec : pCfg.numCodec ≤ 1) (oneProtect : pCfg.numProtect ≤ 1)
    (codecLosc : pCfg.numCodec ≠ 0 →
      2 ≤ (pCfg.codecInfo.getD 0 0).toNat ∧ (pCfg.codecInfo.getD 0 0).toNat + 1 ≤ avdtCodecSize)
    (protectLosc : pCfg.numProtect ≠ 0 →
      2 ≤ (pCfg.protectInfo.getD 0 0).toNat ∧ (pCfg.protectInfo.getD 0 0).toNat + 1 ≤ avdtProtectSize)
    {target : AvdtpSepConfig} (targetWf : target.Wf) (sigId : UInt8) :
    ∃ cfg elem, avdtMsgPrsCfg target (avdtMsgBldCfg pCfg) sigId = some (cfg, elem, 0) ∧ cfg.Wf ∧
      cfg.pscMask = pCfg.pscMask ∧ cfg.numCodec = pCfg.numCodec ∧ cfg.numProtect = pCfg.numProtect ∧
      (pCfg.numCodec ≠ 0 → cfg.codecInfo.take ((pCfg.codecInfo.getD 0 0).toNat + 1) =
        pCfg.codecInfo.take ((pCfg.codecInfo.getD 0 0).toNat + 1)) ∧
      (pCfg.numProtect ≠ 0 → cfg.protectInfo.take ((pCfg.protectInfo.getD 0 0).toNat + 1) =
        pCfg.protectInfo.take ((pCfg.protectInfo.getD 0 0).toNat + 1)) := by
  -- the five elements the builder may write, the codec and protection ones as header and bytes
  set c0 := pCfg.codecInfo.getD 0 0 with c0_def
  set p0 := pCfg.protectInfo.getD 0 0 with p0_def
  set eT : List UInt8 := if pCfg.pscMask &&& avdtPscTrans ≠ 0 then [avdtCatTrans, 0] else [] with eT_def
  set eR : List UInt8 := if pCfg.pscMask &&& avdtPscReport ≠ 0 then [avdtCatReport, 0] else [] with eR_def
  set eC : List UInt8 := if pCfg.numCodec ≠ 0 then avdtCatCodec :: c0 :: (pCfg.codecInfo.drop 1).take c0.toNat
    else [] with eC_def
  set eP : List UInt8 := if pCfg.numProtect ≠ 0 then avdtCatProtect :: p0 :: (pCfg.protectInfo.drop 1).take p0.toNat
    else [] with eP_def
  set eD : List UInt8 := if pCfg.pscMask &&& avdtPscDelayRpt ≠ 0 then [avdtCatDelayRpt, 0] else [] with eD_def
  have shape : avdtMsgBldCfg pCfg = eT ++ eR ++ eC ++ eP ++ eD := by
    have codec : (if pCfg.numCodec ≠ 0 then
        avdtCatCodec :: pCfg.codecInfo.take (bldLen avdtCodecSize pCfg.codecInfo) else []) = eC := by
      rw [eC_def]
      split_ifs with present
      · rw [take_bldLen wf.1 (codecLosc present).2 (by decide)]
      · rfl
    have protect : (if pCfg.numProtect ≠ 0 then
        avdtCatProtect :: pCfg.protectInfo.take (bldLen avdtProtectSize pCfg.protectInfo) else []) = eP := by
      rw [eP_def]
      split_ifs with present
      · rw [take_bldLen wf.2 (protectLosc present).2 (by decide)]
      · rfl
    rw [avdtMsgBldCfg, codec, protect]
  -- the loop passes the elements one by one
  have at₀ : (PrsState.init target).At [] := ⟨rfl, rfl⟩
  obtain ⟨passes₁, at₁⟩ : Theory.Passes (prsCfgPass (avdtMsgBldCfg pCfg) sigId) _ _ ∧ _ :=
    passes_empty _ (.inl rfl) (by rw [shape, List.nil_append, List.append_assoc, List.append_assoc,
      List.append_assoc]) at₀
  obtain ⟨passes₂, at₂⟩ : Theory.Passes (prsCfgPass (avdtMsgBldCfg pCfg) sigId) _ _ ∧ _ :=
    passes_empty _ (.inr (.inl rfl)) (by rw [shape, List.nil_append, List.append_assoc, List.append_assoc]) at₁
  obtain ⟨infoC, passes₃, at₃, codecKept⟩ : ∃ info, Theory.Passes (prsCfgPass (avdtMsgBldCfg pCfg) sigId) _ _ ∧ _ :=
    passes_codec _ (by rw [shape, List.nil_append, List.append_assoc]) at₂ (by split_ifs <;> exact targetWf.1)
      (fun present => ⟨(codecLosc present).1, by have := (codecLosc present).2; simp only [avdtCodecSize] at *; omega⟩)
      (fun present => by
        have := (codecLosc present).2
        rw [List.length_take, List.length_drop, wf.1]
        simp only [avdtCodecSize] at *
        omega)
  obtain ⟨infoP, passes₄, at₄, protectKept⟩ : ∃ info, Theory.Passes (prsCfgPass (avdtMsgBldCfg pCfg) sigId) _ _ ∧ _ :=
    passes_protect _ (by rw [shape, List.nil_append]) at₃ (by split_ifs <;> exact targetWf.2)
      (fun present => ⟨(protectLosc present).1, by
        have := (protectLosc present).2
        simp only [apply_ite PrsState.protectOffset, PrsState.addCodec_protectOffset,
          PrsState.maskOut_protectOffset, PrsState.enter_protectOffset, ite_self, PrsState.init, avdtProtectSize] at *
        omega⟩)
      (fun present => by
        have := (protectLosc present).2
        rw [List.length_take, List.length_drop, wf.2]
        simp only [avdtProtectSize] at *
        omega)
  obtain ⟨passes₅, at₅⟩ : Theory.Passes (prsCfgPass (avdtMsgBldCfg pCfg) sigId) _ _ ∧ _ :=
    passes_empty _ (.inr (.inr rfl)) (by rw [shape, List.nil_append, List.append_nil]) at₄
  obtain ⟨parsed, cfgWf⟩ := avdtMsgPrsCfg_of_passes targetWf
    (passes₁.trans (passes₂.trans (passes₃.trans (passes₄.trans passes₅)))) (by rw [at₅.pos_eq, shape, List.nil_append])
  rw [parsed]
  refine ⟨_, _, by rw [at₅.err_eq], cfgWf, ?_, ?_, ?_, ?_, ?_⟩
  all_goals simp only [apply_ite PrsState.cfg, PrsState.enter_cfg, PrsState.maskOut_cfg, PrsState.addCodec_cfg,
    PrsState.addProtect_cfg, apply_ite AvdtpSepConfig.numCodec, apply_ite AvdtpSepConfig.numProtect,
    apply_ite AvdtpSepConfig.codecInfo, apply_ite AvdtpSepConfig.protectInfo, apply_ite AvdtpSepConfig.pscMask,
    AvdtpSepConfig.addPsc_numCodec, AvdtpSepConfig.addPsc_numProtect, AvdtpSepConfig.addPsc_codecInfo,
    AvdtpSepConfig.addPsc_protectInfo, AvdtpSepConfig.addPsc_pscMask, AvdtpSepConfig.maskOut_numCodec,
    AvdtpSepConfig.maskOut_numProtect, AvdtpSepConfig.maskOut_codecInfo, AvdtpSepConfig.maskOut_protectInfo,
    AvdtpSepConfig.maskOut_pscMask, AvdtpSepConfig.withCodec_numCodec, AvdtpSepConfig.withCodec_numProtect,
    AvdtpSepConfig.withCodec_codecInfo, AvdtpSepConfig.withCodec_protectInfo, AvdtpSepConfig.withCodec_pscMask,
    AvdtpSepConfig.withProtect_numCodec, AvdtpSepConfig.withProtect_numProtect, AvdtpSepConfig.withProtect_codecInfo,
    AvdtpSepConfig.withProtect_protectInfo, AvdtpSepConfig.withProtect_pscMask, ite_self, PrsState.init]
  · -- the flags: each bit of the mask is an element, and its flag is set again
    conv_rhs => rw [Theory.eq_or_of_and_not_eq_zero psc]
    obtain hT | hT : pCfg.pscMask &&& avdtPscTrans = 0 ∨ pCfg.pscMask &&& avdtPscTrans = avdtPscTrans :=
      Theory.and_two_pow_cases _ (k := 1) (by decide)
    all_goals obtain hR | hR : pCfg.pscMask &&& avdtPscReport = 0 ∨ pCfg.pscMask &&& avdtPscReport = avdtPscReport :=
      Theory.and_two_pow_cases _ (k := 2) (by decide)
    all_goals obtain hD | hD : pCfg.pscMask &&& avdtPscDelayRpt = 0 ∨
        pCfg.pscMask &&& avdtPscDelayRpt = avdtPscDelayRpt := Theory.and_two_pow_cases _ (k := 8) (by decide)
    all_goals simp +decide only [hT, hR, hD, ne_eq, if_true, if_false]
    all_goals split_ifs <;> decide
  · exact count_of_le_one oneCodec
  · exact count_of_le_one oneProtect
  · intro present
    rw [if_pos present, (codecKept present).1, take_succ_getD (by rw [wf.1]; decide)]
  · intro present
    simp only [apply_ite PrsState.protectOffset, PrsState.addCodec_protectOffset, PrsState.maskOut_protectOffset,
      PrsState.enter_protectOffset, ite_self, PrsState.init, List.drop_zero] at protectKept
    rw [if_pos present, (protectKept present).1, take_succ_getD (by rw [wf.2]; decide)]

/-- An SBC configuration with media transport, built and parsed back. -/
example :
    ∃ cfg elem, avdtMsgPrsCfg ⟨List.replicate 20 0, List.replicate 90 0, 0, 0, 0, 0, 0, 0, 0⟩
        (avdtMsgBldCfg ⟨[6, 0, 0, 0x21, 0x15, 2, 250] ++ List.replicate 13 0, List.replicate 90 0, 1, 0,
          avdtPscTrans, 0, 0, 0, 0⟩) avdtSigSetconfig = some (cfg, elem, 0) ∧ cfg.Wf ∧
      cfg.pscMask = avdtPscTrans ∧ cfg.numCodec = 1 ∧ cfg.numProtect = 0 ∧
      ((1 : UInt8) ≠ 0 → cfg.codecInfo.take ((6 : UInt8).toNat + 1) = [6, 0, 0, 0x21, 0x15, 2, 250]) ∧
      ((0 : UInt8) ≠ 0 → cfg.protectInfo.take ((0 : UInt8).toNat + 1) = [0]) :=
  @avdtMsgPrsCfg_bldCfg ⟨[6, 0, 0, 0x21, 0x15, 2, 250] ++ List.replicate 13 0, List.replicate 90 0, 1, 0,
      avdtPscTrans, 0, 0, 0, 0⟩ ⟨rfl, rfl⟩ (by decide) (by decide) (by decide) (fun _ => by decide)
    (fun absent => absurd rfl absent) ⟨List.replicate 20 0, List.replicate 90 0, 0, 0, 0, 0, 0, 0, 0⟩ ⟨rfl, rfl⟩
    avdtSigSetconfig

/-! ## A codec element longer than the array -/

/-- A SetConfiguration command whose codec element is 20 bytes long, the size
of `codec_info`: the parser copies 19 of them and sets `codec_info[0]` to 20, so
that `codec_info[0] + 1` exceeds `AVDT_CODEC_SIZE`. -/
example :
    ∃ cfg, avdtMsgPrsCfg ⟨List.replicate 20 0, List.replicate 90 0, 0, 0, 0, 0, 0, 0, 0⟩
        ([avdtCatCodec, 20] ++ List.replicate 20 0) avdtSigSetconfig = some (cfg, avdtCatCodec, 0) ∧
      cfg.codecInfo.length = avdtCodecSize ∧ cfg.codecInfo.head? = some 20 :=
  ⟨_, rfl, rfl, rfl⟩

end Bluedroid.Avdt
