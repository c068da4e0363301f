import Bluedroid.A2dp.Sbc
import Bluedroid.A2dp.AacNegotiation
import Mathlib.Data.FinEnum
import Mathlib.Tactic.IntervalCases

/-!
# Round trips of the A2DP codec information

`A2DP_BuildInfoSbc` and `A2DP_BuildInfoAac` pack several fields into shared octets, and
`A2DP_ParseInfoSbc` and `A2DP_ParseInfoAac` take them apart with masks and shifts of their
own.  Each shared octet gets two lemmas, proved bit by bit: the parser's masks recover the
fields the builder wrote (`sampFreq_chMode_octet`, `aacSampleRate_octets`, ...), and the
builder writes back the octet the parser read, less the bits no field covers (`..._rebuild`).

On top of them, parsing a built element gives it back when every field lies within its mask
and each multi-choice field is non-empty: the parser checks the last condition, the builder
does not, and the AAC builder masks the VBR flag without checking it.  Building a parsed
element gives the octets back with the bits outside `sbcFieldBits` and `aacFieldBits`
cleared.
-/

namespace Bluedroid.A2dp

set_option autoImplicit false

/-! ## Shared octets

A fact about one octet alone is checked over all 256 values; one that relates several fields
is compared bit by bit, where the masks are constants. -/

theorem uInt8_and_mask_and_not (b m : UInt8) : b &&& m &&& ~~~m = 0 := by
  apply UInt8.eq_of_toBitVec_eq
  apply BitVec.eq_of_getLsbD_eq
  intro i _
  simp only [UInt8.toBitVec_and, UInt8.toBitVec_not, BitVec.getLsbD_and, BitVec.getLsbD_not,
    UInt8.toBitVec_zero, BitVec.getLsbD_zero]
  cases b.toBitVec.getLsbD i <;> cases m.toBitVec.getLsbD i <;> simp

theorem uInt8_and_allOnes (b : UInt8) : b &&& 0xFF = b := by
  revert b
  decide +kernel

/-- The reserved low nibble is all the parser lets through of the media-type octet. -/
theorem mediaType_octet (b : UInt8) (audio : b >>> 4 = avdtMediaTypeAudio) :
    b &&& (0xF0 : UInt8) = avdtMediaTypeAudio <<< 4 := by
  revert b
  decide +kernel

theorem sampFreq_chMode_octet {sampFreq chMode : UInt8}
    (inSampFreq : sampFreq &&& ~~~a2dpSbcIeSampFreqMsk = 0) (inChMode : chMode &&& ~~~a2dpSbcIeChMdMsk = 0) :
    (sampFreq ||| chMode) &&& a2dpSbcIeSampFreqMsk = sampFreq ∧
      (sampFreq ||| chMode) &&& a2dpSbcIeChMdMsk = chMode := by
  constructor <;>
  · apply UInt8.eq_of_toBitVec_eq
    apply BitVec.eq_of_getLsbD_eq
    intro i hi
    have s := congrArg (fun v : UInt8 => v.toBitVec.getLsbD i) inSampFreq
    have c := congrArg (fun v : UInt8 => v.toBitVec.getLsbD i) inChMode
    simp only [a2dpSbcIeSampFreqMsk, a2dpSbcIeChMdMsk, UInt8.toBitVec_and, UInt8.toBitVec_or,
      UInt8.toBitVec_not, BitVec.getLsbD_and, BitVec.getLsbD_or, BitVec.getLsbD_not,
      UInt8.toBitVec_ofNat, BitVec.getLsbD_zero] at s c ⊢
    interval_cases i <;> simp_all

theorem blocks_octet {blockLen numSubbands allocMethod : UInt8}
    (inBlockLen : blockLen &&& ~~~a2dpSbcIeBlocksMsk = 0)
    (inNumSubbands : numSubbands &&& ~~~a2dpSbcIeSubbandMsk = 0)
    (inAllocMethod : allocMethod &&& ~~~a2dpSbcIeAllocMdMsk = 0) :
    (blockLen ||| numSubbands ||| allocMethod) &&& a2dpSbcIeBlocksMsk = blockLen ∧
      (blockLen ||| numSubbands ||| allocMethod) &&& a2dpSbcIeSubbandMsk = numSubbands ∧
      (blockLen ||| numSubbands ||| allocMethod) &&& a2dpSbcIeAllocMdMsk = allocMethod := by
  refine ⟨?_, ?_, ?_⟩ <;>
  · apply UInt8.eq_of_toBitVec_eq
    apply BitVec.eq_of_getLsbD_eq
    intro i hi
    have b := congrArg (fun v : UInt8 => v.toBitVec.getLsbD i) inBlockLen
    have n := congrArg (fun v : UInt8 => v.toBitVec.getLsbD i) inNumSubbands
    have a := congrArg (fun v : UInt8 => v.toBitVec.getLsbD i) inAllocMethod
    simp only [a2dpSbcIeBlocksMsk, a2dpSbcIeSubbandMsk, a2dpSbcIeAllocMdMsk, UInt8.toBitVec_and,
      UInt8.toBitVec_or, UInt8.toBitVec_not, BitVec.getLsbD_and, BitVec.getLsbD_or,
      BitVec.getLsbD_not, UInt8.toBitVec_ofNat, BitVec.getLsbD_zero] at b n a ⊢
    interval_cases i <;> simp_all

theorem sampFreq_chMode_rebuild (b : UInt8) :
    (b &&& a2dpSbcIeSampFreqMsk) ||| (b &&& a2dpSbcIeChMdMsk) = b := by
  revert b
  decide +kernel

theorem blocks_rebuild (b : UInt8) :
    (b &&& a2dpSbcIeBlocksMsk) ||| (b &&& a2dpSbcIeSubbandMsk) ||| (b &&& a2dpSbcIeAllocMdMsk) = b := by
  revert b
  decide +kernel

/-- The twelve sample-rate bits straddle octets 4 and 5, the second shared with the channel
mode. -/
theorem aacSampleRate_octets {sampleRate : UInt16} {channelMode : UInt8}
    (inSampleRate : sampleRate &&& (a2dpAacSamplingFreqMask0 ||| a2dpAacSamplingFreqMask1) = sampleRate)
    (inChannelMode : channelMode &&& a2dpAacChannelModeMask = channelMode) :
    ((sampleRate &&& a2dpAacSamplingFreqMask0).toUInt8.toUInt16 &&& a2dpAacSamplingFreqMask0) |||
        ((((sampleRate &&& a2dpAacSamplingFreqMask1) >>> 8).toUInt8 |||
          (channelMode &&& a2dpAacChannelModeMask)).toUInt16 <<< 8 &&& a2dpAacSamplingFreqMask1) =
      sampleRate ∧
    (((sampleRate &&& a2dpAacSamplingFreqMask1) >>> 8).toUInt8 |||
        (channelMode &&& a2dpAacChannelModeMask)) &&& a2dpAacChannelModeMask = channelMode := by
  constructor
  · apply UInt16.eq_of_toBitVec_eq
    apply BitVec.eq_of_getLsbD_eq
    intro i hi
    have s := congrArg (fun v : UInt16 => v.toBitVec.getLsbD i) inSampleRate
    simp only [a2dpAacSamplingFreqMask0, a2dpAacSamplingFreqMask1, a2dpAacChannelModeMask,
      UInt16.toBitVec_and, UInt16.toBitVec_or, UInt16.toBitVec_shiftLeft, UInt16.toBitVec_shiftRight,
      UInt16.toBitVec_toUInt8, UInt8.toBitVec_toUInt16, UInt8.toBitVec_and, UInt8.toBitVec_or,
      BitVec.getLsbD_and, BitVec.getLsbD_or,
      BitVec.getLsbD_setWidth, UInt16.toBitVec_ofNat, UInt8.toBitVec_ofNat] at s ⊢
    interval_cases i <;> simp_all
  · apply UInt8.eq_of_toBitVec_eq
    apply BitVec.eq_of_getLsbD_eq
    intro i hi
    have c := congrArg (fun v : UInt8 => v.toBitVec.getLsbD i) inChannelMode
    simp only [a2dpAacSamplingFreqMask1, a2dpAacChannelModeMask,
      UInt16.toBitVec_and, UInt16.toBitVec_shiftLeft, UInt16.toBitVec_shiftRight,
      UInt16.toBitVec_toUInt8, UInt8.toBitVec_and, UInt8.toBitVec_or,
      BitVec.getLsbD_and, BitVec.getLsbD_or,
      BitVec.getLsbD_setWidth, UInt16.toBitVec_ofNat, UInt8.toBitVec_ofNat] at c ⊢
    interval_cases i <;> simp_all

theorem uInt32_and_lowBits {bitRate : UInt32} (below : bitRate < 0x800000) :
    bitRate &&& 0x7FFFFF = bitRate := by
  apply UInt32.toNat_inj.1
  have mask : (0x7FFFFF : UInt32).toNat = 2 ^ 23 - 1 := rfl
  rw [UInt32.toNat_and, mask, Nat.and_two_pow_sub_one_eq_mod]
  exact Nat.mod_eq_of_lt (UInt32.lt_iff_toNat_lt.1 below)

/-- The VBR flag shares octet 6 with the top seven bits of the 23-bit bit rate. -/
theorem aacBitRate_octets (variableBitRateSupport : UInt8) {bitRate : UInt32}
    (inBitRate : bitRate &&& 0x7FFFFF = bitRate) :
    ((variableBitRateSupport &&& a2dpAacVariableBitRateMask) |||
        ((bitRate &&& a2dpAacBitRateMask0) >>> 16).toUInt8) &&& a2dpAacVariableBitRateMask =
      variableBitRateSupport &&& a2dpAacVariableBitRateMask ∧
    ((((variableBitRateSupport &&& a2dpAacVariableBitRateMask) |||
          ((bitRate &&& a2dpAacBitRateMask0) >>> 16).toUInt8).toUInt32 <<< 16 &&& a2dpAacBitRateMask0) |||
        ((((bitRate &&& a2dpAacBitRateMask1) >>> 8).toUInt8).toUInt32 <<< 8 &&& a2dpAacBitRateMask1) |||
        ((bitRate &&& a2dpAacBitRateMask2).toUInt8.toUInt32 &&& a2dpAacBitRateMask2)) = bitRate := by
  constructor
  · apply UInt8.eq_of_toBitVec_eq
    apply BitVec.eq_of_getLsbD_eq
    intro i hi
    simp only [a2dpAacVariableBitRateMask, a2dpAacBitRateMask0,
      UInt32.toBitVec_and, UInt32.toBitVec_shiftRight,
      UInt32.toBitVec_toUInt8, UInt8.toBitVec_and, UInt8.toBitVec_or,
      BitVec.getLsbD_and, BitVec.getLsbD_or,
      BitVec.getLsbD_setWidth, UInt32.toBitVec_ofNat, UInt8.toBitVec_ofNat]
    interval_cases i <;> simp_all
  · apply UInt32.eq_of_toBitVec_eq
    apply BitVec.eq_of_getLsbD_eq
    intro i hi
    have r := congrArg (fun v : UInt32 => v.toBitVec.getLsbD i) inBitRate
    simp only [a2dpAacVariableBitRateMask, a2dpAacBitRateMask0, a2dpAacBitRateMask1,
      a2dpAacBitRateMask2, UInt32.toBitVec_and, UInt32.toBitVec_or, UInt32.toBitVec_shiftLeft,
      UInt32.toBitVec_shiftRight, UInt32.toBitVec_toUInt8, UInt8.toBitVec_toUInt32,
      UInt8.toBitVec_and, UInt8.toBitVec_or, BitVec.getLsbD_and, BitVec.getLsbD_or,
      BitVec.getLsbD_setWidth, UInt32.toBitVec_ofNat,
      UInt8.toBitVec_ofNat] at r ⊢
    interval_cases i <;> simp_all

theorem aacSampleRate_rebuild (byte4 byte5 : UInt8) :
    (((byte4.toUInt16 &&& a2dpAacSamplingFreqMask0) |||
        (byte5.toUInt16 <<< 8 &&& a2dpAacSamplingFreqMask1)) &&& a2dpAacSamplingFreqMask0).toUInt8 =
      byte4 ∧
    ((((byte4.toUInt16 &&& a2dpAacSamplingFreqMask0) |||
        (byte5.toUInt16 <<< 8 &&& a2dpAacSamplingFreqMask1)) &&& a2dpAacSamplingFreqMask1) >>> 8).toUInt8 |||
        (byte5 &&& a2dpAacChannelModeMask &&& a2dpAacChannelModeMask) = byte5 &&& 0xFC := by
  constructor <;>
  · apply UInt8.eq_of_toBitVec_eq
    apply BitVec.eq_of_getLsbD_eq
    intro i hi
    simp only [a2dpAacSamplingFreqMask0, a2dpAacSamplingFreqMask1, a2dpAacChannelModeMask,
      UInt16.toBitVec_and, UInt16.toBitVec_or, UInt16.toBitVec_shiftLeft, UInt16.toBitVec_shiftRight,
      UInt16.toBitVec_toUInt8, UInt8.toBitVec_toUInt16, UInt8.toBitVec_and, UInt8.toBitVec_or,
      BitVec.getLsbD_and, BitVec.getLsbD_or,
      BitVec.getLsbD_setWidth, UInt16.toBitVec_ofNat, UInt8.toBitVec_ofNat]
    interval_cases i <;> simp_all

theorem aacBitRate_rebuild (byte6 byte7 byte8 : UInt8) :
    (byte6 &&& a2dpAacVariableBitRateMask &&& a2dpAacVariableBitRateMask) |||
        ((((byte6.toUInt32 <<< 16 &&& a2dpAacBitRateMask0) ||| (byte7.toUInt32 <<< 8 &&& a2dpAacBitRateMask1) |||
          (byte8.toUInt32 &&& a2dpAacBitRateMask2)) &&& a2dpAacBitRateMask0) >>> 16).toUInt8 = byte6 ∧
    ((((byte6.toUInt32 <<< 16 &&& a2dpAacBitRateMask0) ||| (byte7.toUInt32 <<< 8 &&& a2dpAacBitRateMask1) |||
        (byte8.toUInt32 &&& a2dpAacBitRateMask2)) &&& a2dpAacBitRateMask1) >>> 8).toUInt8 = byte7 ∧
    (((byte6.toUInt32 <<< 16 &&& a2dpAacBitRateMask0) ||| (byte7.toUInt32 <<< 8 &&& a2dpAacBitRateMask1) |||
        (byte8.toUInt32 &&& a2dpAacBitRateMask2)) &&& a2dpAacBitRateMask2).toUInt8 = byte8 := by
  refine ⟨?_, ?_, ?_⟩ <;>
  · apply UInt8.eq_of_toBitVec_eq
    apply BitVec.eq_of_getLsbD_eq
    intro i hi
    simp only [a2dpAacVariableBitRateMask, a2dpAacBitRateMask0, a2dpAacBitRateMask1,
      a2dpAacBitRateMask2, UInt32.toBitVec_and, UInt32.toBitVec_or, UInt32.toBitVec_shiftLeft,
      UInt32.toBitVec_shiftRight, UInt32.toBitVec_toUInt8, UInt8.toBitVec_toUInt32,
      UInt8.toBitVec_and, UInt8.toBitVec_or, BitVec.getLsbD_and, BitVec.getLsbD_or,
      BitVec.getLsbD_setWidth, UInt32.toBitVec_ofNat,
      UInt8.toBitVec_ofNat]
    interval_cases i <;> simp_all

/-! ## SBC -/

/-- When `A2DP_BuildInfoSbc` writes the element: each field within its mask, and both
bitpools within range and in order. -/
structure SbcBuildable (ie : SbcCie) : Prop where
  sampFreq : ie.sampFreq &&& ~~~a2dpSbcIeSampFreqMsk = 0
  chMode : ie.chMode &&& ~~~a2dpSbcIeChMdMsk = 0
  blockLen : ie.blockLen &&& ~~~a2dpSbcIeBlocksMsk = 0
  numSubbands : ie.numSubbands &&& ~~~a2dpSbcIeSubbandMsk = 0
  allocMethod : ie.allocMethod &&& ~~~a2dpSbcIeAllocMdMsk = 0
  ordered : ie.minBitpool ≤ ie.maxBitpool
  minBitpool : a2dpSbcIeMinBitpool ≤ ie.minBitpool ∧ ie.minBitpool ≤ a2dpSbcIeMaxBitpool
  maxBitpool : a2dpSbcIeMinBitpool ≤ ie.maxBitpool ∧ ie.maxBitpool ≤ a2dpSbcIeMaxBitpool

/-- The octets the parser reads of an SBC element, bit for bit: the reserved low nibble of
the media-type octet is the only part no field covers. -/
def sbcFieldBits : List UInt8 := [0xFF, 0xF0, 0xFF, 0xFF, 0xFF, 0xFF, 0xFF]

theorem sbcBuildable_iff {ie : SbcCie} :
    SbcBuildable ie ↔
      ¬(ie.sampFreq &&& ~~~a2dpSbcIeSampFreqMsk ≠ 0 ∨ ie.chMode &&& ~~~a2dpSbcIeChMdMsk ≠ 0 ∨
        ie.blockLen &&& ~~~a2dpSbcIeBlocksMsk ≠ 0 ∨ ie.numSubbands &&& ~~~a2dpSbcIeSubbandMsk ≠ 0 ∨
        ie.allocMethod &&& ~~~a2dpSbcIeAllocMdMsk ≠ 0 ∨ ie.minBitpool > ie.maxBitpool ∨
        ie.minBitpool < a2dpSbcIeMinBitpool ∨ ie.minBitpool > a2dpSbcIeMaxBitpool ∨
        ie.maxBitpool < a2dpSbcIeMinBitpool ∨ ie.maxBitpool > a2dpSbcIeMaxBitpool) := by
  simp only [not_or, ne_eq, not_not, gt_iff_lt, UInt8.not_lt]
  constructor
  · rintro ⟨sampFreq, chMode, blockLen, numSubbands, allocMethod, ordered, minBitpool, maxBitpool⟩
    exact ⟨sampFreq, chMode, blockLen, numSubbands, allocMethod, ordered, minBitpool.1,
      minBitpool.2, maxBitpool.1, maxBitpool.2⟩
  · rintro ⟨sampFreq, chMode, blockLen, numSubbands, allocMethod, ordered, minLow, minHigh,
      maxLow, maxHigh⟩
    exact ⟨sampFreq, chMode, blockLen, numSubbands, allocMethod, ordered, ⟨minLow, minHigh⟩,
      ⟨maxLow, maxHigh⟩⟩

theorem buildInfoSbc_eq (mediaType : UInt8) {ie : SbcCie} (buildable : SbcBuildable ie) :
    buildInfoSbc mediaType ie = (a2dpSuccess,
      [a2dpSbcInfoLen, mediaType <<< 4, a2dpMediaCtSbc, ie.sampFreq ||| ie.chMode,
        ie.blockLen ||| ie.numSubbands ||| ie.allocMethod, ie.minBitpool, ie.maxBitpool]) := by
  unfold buildInfoSbc
  rw [if_neg (sbcBuildable_iff.1 buildable)]

theorem buildInfoSbc_success_iff {mediaType : UInt8} {ie : SbcCie} :
    (buildInfoSbc mediaType ie).1 = a2dpSuccess ↔ SbcBuildable ie := by
  refine ⟨fun success => sbcBuildable_iff.2 fun rejected => ?_, fun buildable => ?_⟩
  · unfold buildInfoSbc at success
    rw [if_pos rejected] at success
    exact absurd success (by decide)
  · rw [buildInfoSbc_eq mediaType buildable]

theorem checkSbcFields_ok {bad : UInt8 → Prop} [DecidablePred bad] {ie ie' : SbcCie}
    (h : checkSbcFields bad ie = .ok ie') :
    ie' = ie ∧ ¬bad (a2dpBitsSet ie.sampFreq.toUInt64) ∧ ¬bad (a2dpBitsSet ie.chMode.toUInt64) ∧
      ¬bad (a2dpBitsSet ie.blockLen.toUInt64) ∧ ¬bad (a2dpBitsSet ie.numSubbands.toUInt64) ∧
      ¬bad (a2dpBitsSet ie.allocMethod.toUInt64) := by
  unfold checkSbcFields at h
  split at h
  · cases h
  split at h
  · cases h
  split at h
  · cases h
  split at h
  · cases h
  split at h
  · cases h
  cases h
  exact ⟨rfl, ‹_›, ‹_›, ‹_›, ‹_›, ‹_›⟩

theorem checkSbcFields_eq_ok {bad : UInt8 → Prop} [DecidablePred bad] {ie : SbcCie}
    (sampFreq : ¬bad (a2dpBitsSet ie.sampFreq.toUInt64)) (chMode : ¬bad (a2dpBitsSet ie.chMode.toUInt64))
    (blockLen : ¬bad (a2dpBitsSet ie.blockLen.toUInt64))
    (numSubbands : ¬bad (a2dpBitsSet ie.numSubbands.toUInt64))
    (allocMethod : ¬bad (a2dpBitsSet ie.allocMethod.toUInt64)) :
    checkSbcFields bad ie = .ok ie := by
  unfold checkSbcFields
  rw [if_neg sampFreq, if_neg chMode, if_neg blockLen, if_neg numSubbands, if_neg allocMethod]

/-- The parser reads back every field the builder wrote; only the field checks remain. -/
theorem parseInfoSbc_buildInfoSbc {ie : SbcCie} (buildable : SbcBuildable ie) (isCapability : Bool) :
    parseInfoSbc (buildInfoSbc avdtMediaTypeAudio ie).2 isCapability =
      if isCapability then
        checkSbcFields (· = a2dpSetZeroBit) { ie with bitsPerSample := btavA2dpCodecBitsPerSampleNone }
      else checkSbcFields (· ≠ a2dpSetOneBit) { ie with bitsPerSample := btavA2dpCodecBitsPerSampleNone } := by
  obtain ⟨sampFreq, chMode⟩ := sampFreq_chMode_octet buildable.sampFreq buildable.chMode
  obtain ⟨blockLen, numSubbands, allocMethod⟩ :=
    blocks_octet buildable.blockLen buildable.numSubbands buildable.allocMethod
  have minBitpool : ¬(ie.minBitpool < a2dpSbcIeMinBitpool ∨ ie.minBitpool > a2dpSbcIeMaxBitpool) :=
    not_or.2 ⟨UInt8.not_lt.2 buildable.minBitpool.1, UInt8.not_lt.2 buildable.minBitpool.2⟩
  have maxBitpool : ¬(ie.maxBitpool < a2dpSbcIeMinBitpool ∨ ie.maxBitpool > a2dpSbcIeMaxBitpool ∨
      ie.maxBitpool < ie.minBitpool) :=
    not_or.2 ⟨UInt8.not_lt.2 buildable.maxBitpool.1,
      not_or.2 ⟨UInt8.not_lt.2 buildable.maxBitpool.2, UInt8.not_lt.2 buildable.ordered⟩⟩
  rw [buildInfoSbc_eq _ buildable]
  unfold parseInfoSbc
  simp only [List.getD_cons_zero, List.getD_cons_succ]
  rw [if_neg (by decide), if_neg (by decide), sampFreq, chMode, blockLen, numSubbands, allocMethod,
    if_neg minBitpool, if_neg maxBitpool]

/-- What a successful `A2DP_ParseInfoSbc` knows of the octets it read. -/
structure SbcParsed (codecInfo : List UInt8) (ie : SbcCie) : Prop where
  losc : codecInfo.getD 0 0 = a2dpSbcInfoLen
  mediaType : codecInfo.getD 1 0 >>> 4 = avdtMediaTypeAudio
  codecType : codecInfo.getD 2 0 = a2dpMediaCtSbc
  sampFreq : ie.sampFreq = codecInfo.getD 3 0 &&& a2dpSbcIeSampFreqMsk
  chMode : ie.chMode = codecInfo.getD 3 0 &&& a2dpSbcIeChMdMsk
  blockLen : ie.blockLen = codecInfo.getD 4 0 &&& a2dpSbcIeBlocksMsk
  numSubbands : ie.numSubbands = codecInfo.getD 4 0 &&& a2dpSbcIeSubbandMsk
  allocMethod : ie.allocMethod = codecInfo.getD 4 0 &&& a2dpSbcIeAllocMdMsk
  minBitpool : ie.minBitpool = codecInfo.getD 5 0
  maxBitpool : ie.maxBitpool = codecInfo.getD 6 0
  buildable : SbcBuildable ie

theorem parseInfoSbc_ok {codecInfo : List UInt8} {isCapability : Bool} {ie : SbcCie}
    (parsed : parseInfoSbc codecInfo isCapability = .ok ie) : SbcParsed codecInfo ie := by
  unfold parseInfoSbc at parsed
  dsimp only at parsed
  split at parsed
  · cases parsed
  rename_i losc
  split at parsed
  · cases parsed
  rename_i header
  obtain ⟨mediaType, codecType⟩ := not_or.1 header
  split at parsed
  · cases parsed
  rename_i minBitpool
  split at parsed
  · cases parsed
  rename_i maxBitpool
  obtain ⟨minLow, minHigh⟩ := not_or.1 minBitpool
  obtain ⟨maxLow, maxRest⟩ := not_or.1 maxBitpool
  obtain ⟨maxHigh, ordered⟩ := not_or.1 maxRest
  -- both field checks return the element they were given
  have read : ie =
      { sampFreq := codecInfo.getD 3 0 &&& a2dpSbcIeSampFreqMsk
        chMode := codecInfo.getD 3 0 &&& a2dpSbcIeChMdMsk
        blockLen := codecInfo.getD 4 0 &&& a2dpSbcIeBlocksMsk
        numSubbands := codecInfo.getD 4 0 &&& a2dpSbcIeSubbandMsk
        allocMethod := codecInfo.getD 4 0 &&& a2dpSbcIeAllocMdMsk
        minBitpool := codecInfo.getD 5 0
        maxBitpool := codecInfo.getD 6 0
        bitsPerSample := btavA2dpCodecBitsPerSampleNone } := by
    split at parsed
    · exact (checkSbcFields_ok parsed).1
    · exact (checkSbcFields_ok parsed).1
  subst read
  exact ⟨not_not.1 losc, not_not.1 mediaType, not_not.1 codecType, rfl, rfl, rfl, rfl, rfl, rfl, rfl,
    ⟨uInt8_and_mask_and_not _ _, uInt8_and_mask_and_not _ _, uInt8_and_mask_and_not _ _,
      uInt8_and_mask_and_not _ _, uInt8_and_mask_and_not _ _, UInt8.not_lt.1 ordered,
      ⟨UInt8.not_lt.1 minLow, UInt8.not_lt.1 minHigh⟩, ⟨UInt8.not_lt.1 maxLow, UInt8.not_lt.1 maxHigh⟩⟩⟩

/-- Building a parsed element writes back every octet the parser read, less the bits no field
covers; past the element both sides read as zero. -/
theorem buildInfoSbc_parseInfoSbc {codecInfo : List UInt8} {isCapability : Bool} {ie : SbcCie}
    (parsed : parseInfoSbc codecInfo isCapability = .ok ie) :
    (buildInfoSbc avdtMediaTypeAudio ie).1 = a2dpSuccess ∧
      ∀ i, (buildInfoSbc avdtMediaTypeAudio ie).2.getD i 0 =
        codecInfo.getD i 0 &&& sbcFieldBits.getD i 0 := by
  have read := parseInfoSbc_ok parsed
  rw [buildInfoSbc_eq _ read.buildable]
  refine ⟨rfl, fun i => ?_⟩
  rcases i with _ | _ | _ | _ | _ | _ | _ | i
  · simp only [List.getD_cons_zero, sbcFieldBits, uInt8_and_allOnes, read.losc]
  · exact (mediaType_octet _ read.mediaType).symm
  · simp only [List.getD_cons_succ, List.getD_cons_zero, sbcFieldBits, uInt8_and_allOnes, read.codecType]
  · simp only [List.getD_cons_succ, List.getD_cons_zero, sbcFieldBits, uInt8_and_allOnes, read.sampFreq,
      read.chMode, sampFreq_chMode_rebuild]
  · simp only [List.getD_cons_succ, List.getD_cons_zero, sbcFieldBits, uInt8_and_allOnes, read.blockLen,
      read.numSubbands, read.allocMethod, blocks_rebuild]
  · simp only [List.getD_cons_succ, List.getD_cons_zero, sbcFieldBits, uInt8_and_allOnes, read.minBitpool]
  · simp only [List.getD_cons_succ, List.getD_cons_zero, sbcFieldBits, uInt8_and_allOnes, read.maxBitpool]
  · simp only [List.getD_cons_succ, sbcFieldBits, List.getD_nil, UInt8.and_zero]

theorem a2dpBitsSet_ne_zero {num : UInt64} (nonzero : num ≠ 0) : a2dpBitsSet num ≠ a2dpSetZeroBit :=
  mt a2dpBitsSet_eq_zero_iff.1 nonzero

theorem uInt8_toUInt64_ne_zero {b : UInt8} (nonzero : b ≠ 0) : b.toUInt64 ≠ 0 :=
  fun zero => nonzero (UInt8.toUInt64_inj.1 zero)

theorem checkSbcFields_capability {ie : SbcCie} (sampFreq : ie.sampFreq ≠ 0) (chMode : ie.chMode ≠ 0)
    (blockLen : ie.blockLen ≠ 0) (numSubbands : ie.numSubbands ≠ 0) (allocMethod : ie.allocMethod ≠ 0) :
    checkSbcFields (· = a2dpSetZeroBit) ie = .ok ie :=
  checkSbcFields_eq_ok (a2dpBitsSet_ne_zero (uInt8_toUInt64_ne_zero sampFreq))
    (a2dpBitsSet_ne_zero (uInt8_toUInt64_ne_zero chMode))
    (a2dpBitsSet_ne_zero (uInt8_toUInt64_ne_zero blockLen))
    (a2dpBitsSet_ne_zero (uInt8_toUInt64_ne_zero numSubbands))
    (a2dpBitsSet_ne_zero (uInt8_toUInt64_ne_zero allocMethod))

theorem checkSbcFields_configuration_iff {ie : SbcCie} :
    (∃ ie', checkSbcFields (· ≠ a2dpSetOneBit) ie = .ok ie') ↔
      a2dpBitsSet ie.sampFreq.toUInt64 = a2dpSetOneBit ∧ a2dpBitsSet ie.chMode.toUInt64 = a2dpSetOneBit ∧
        a2dpBitsSet ie.blockLen.toUInt64 = a2dpSetOneBit ∧
        a2dpBitsSet ie.numSubbands.toUInt64 = a2dpSetOneBit ∧
        a2dpBitsSet ie.allocMethod.toUInt64 = a2dpSetOneBit := by
  constructor
  · rintro ⟨ie', checked⟩
    obtain ⟨-, sampFreq, chMode, blockLen, numSubbands, allocMethod⟩ := checkSbcFields_ok checked
    exact ⟨not_not.1 sampFreq, not_not.1 chMode, not_not.1 blockLen, not_not.1 numSubbands,
      not_not.1 allocMethod⟩
  · rintro ⟨sampFreq, chMode, blockLen, numSubbands, allocMethod⟩
    exact ⟨ie, checkSbcFields_eq_ok (not_not.2 sampFreq) (not_not.2 chMode) (not_not.2 blockLen)
      (not_not.2 numSubbands) (not_not.2 allocMethod)⟩

/-! ## AAC -/

/-- The octets the parser reads of an AAC element, bit for bit: besides the reserved nibble of
the media-type octet, the two bits of octet 5 below the channel mode. -/
def aacFieldBits : List UInt8 := [0xFF, 0xF0, 0xFF, 0xFF, 0xFF, 0xFC, 0xFF, 0xFF, 0xFF]

/-- The elements the AAC round trip is about: each field within its mask, the bit rate within
its 23 bits, and the three fields `A2DP_BuildInfoAac` tests non-zero. -/
structure AacPackable (ie : AacCie) : Prop where
  sampleRate : ie.sampleRate &&& (a2dpAacSamplingFreqMask0 ||| a2dpAacSamplingFreqMask1) = ie.sampleRate
  channelMode : ie.channelMode &&& a2dpAacChannelModeMask = ie.channelMode
  bitRate : ie.bitRate < 0x800000
  objectType_ne : ie.objectType ≠ 0
  sampleRate_ne : ie.sampleRate ≠ 0
  channelMode_ne : ie.channelMode ≠ 0

theorem checkAacFields_eq_ok {bad : UInt8 → Prop} [DecidablePred bad] {ie : AacCie}
    (objectType : ¬bad (a2dpBitsSet ie.objectType.toUInt64))
    (sampleRate : ¬bad (a2dpBitsSet ie.sampleRate.toUInt64))
    (channelMode : ¬bad (a2dpBitsSet ie.channelMode.toUInt64)) :
    checkAacFields bad ie = .ok ie := by
  unfold checkAacFields
  rw [if_neg objectType, if_neg sampleRate, if_neg channelMode]

theorem checkAacFields_configuration_iff {ie : AacCie} :
    (∃ ie', checkAacFields (· ≠ a2dpSetOneBit) ie = .ok ie') ↔
      a2dpBitsSet ie.objectType.toUInt64 = a2dpSetOneBit ∧
        a2dpBitsSet ie.sampleRate.toUInt64 = a2dpSetOneBit ∧
        a2dpBitsSet ie.channelMode.toUInt64 = a2dpSetOneBit := by
  constructor
  · rintro ⟨ie', checked⟩
    obtain ⟨-, objectType, sampleRate, channelMode⟩ := checkAacFields_ok checked
    exact ⟨not_not.1 objectType, not_not.1 sampleRate, not_not.1 channelMode⟩
  · rintro ⟨objectType, sampleRate, channelMode⟩
    exact ⟨ie, checkAacFields_configuration objectType sampleRate channelMode⟩

/-- The parser reads back every field the builder wrote, the VBR flag as masked by the
builder; only the field checks remain. -/
theorem parseInfoAac_buildInfoAac {ie : AacCie} (packable : AacPackable ie) (isCapability : Bool) :
    parseInfoAac (buildInfoAac avdtMediaTypeAudio ie).2 isCapability =
      if isCapability then
        checkAacFields (· = a2dpSetZeroBit)
          { ie with variableBitRateSupport := ie.variableBitRateSupport &&& a2dpAacVariableBitRateMask
                    bitsPerSample := btavA2dpCodecBitsPerSampleNone }
      else
        checkAacFields (· ≠ a2dpSetOneBit)
          { ie with variableBitRateSupport := ie.variableBitRateSupport &&& a2dpAacVariableBitRateMask
                    bitsPerSample := btavA2dpCodecBitsPerSampleNone } := by
  obtain ⟨sampleRate, channelMode⟩ := aacSampleRate_octets packable.sampleRate packable.channelMode
  obtain ⟨variableBitRateSupport, bitRate⟩ :=
    aacBitRate_octets ie.variableBitRateSupport (uInt32_and_lowBits packable.bitRate)
  rw [buildInfoAac_eq _ packable.objectType_ne packable.sampleRate_ne packable.channelMode_ne]
  unfold parseInfoAac
  simp only [List.getD_cons_zero, List.getD_cons_succ]
  rw [if_neg (by decide), if_neg (by decide), sampleRate, channelMode, variableBitRateSupport, bitRate]

/-- What a successful `A2DP_ParseInfoAac` knows of the octets it read. -/
structure AacParsed (codecInfo : List UInt8) (ie : AacCie) : Prop where
  losc : codecInfo.getD 0 0 = a2dpAacCodecLen
  mediaType : codecInfo.getD 1 0 >>> 4 = avdtMediaTypeAudio
  codecType : codecInfo.getD 2 0 = a2dpMediaCtAac
  objectType : ie.objectType = codecInfo.getD 3 0
  sampleRate : ie.sampleRate = ((codecInfo.getD 4 0).toUInt16 &&& a2dpAacSamplingFreqMask0) |||
    ((codecInfo.getD 5 0).toUInt16 <<< 8 &&& a2dpAacSamplingFreqMask1)
  channelMode : ie.channelMode = codecInfo.getD 5 0 &&& a2dpAacChannelModeMask
  variableBitRateSupport : ie.variableBitRateSupport = codecInfo.getD 6 0 &&& a2dpAacVariableBitRateMask
  bitRate : ie.bitRate = ((codecInfo.getD 6 0).toUInt32 <<< 16 &&& a2dpAacBitRateMask0) |||
    ((codecInfo.getD 7 0).toUInt32 <<< 8 &&& a2dpAacBitRateMask1) |||
    ((codecInfo.getD 8 0).toUInt32 &&& a2dpAacBitRateMask2)
  objectType_ne : ie.objectType ≠ 0
  sampleRate_ne : ie.sampleRate ≠ 0
  channelMode_ne : ie.channelMode ≠ 0

theorem parseInfoAac_ok {codecInfo : List UInt8} {isCapability : Bool} {ie : AacCie}
    (parsed : parseInfoAac codecInfo isCapability = .ok ie) : AacParsed codecInfo ie := by
  obtain ⟨objectType_ne, sampleRate_ne, channelMode_ne⟩ := parseInfoAac_ne_zero parsed
  unfold parseInfoAac at parsed
  dsimp only at parsed
  split at parsed
  · cases parsed
  rename_i losc
  split at parsed
  · cases parsed
  rename_i header
  obtain ⟨mediaType, codecType⟩ := not_or.1 header
  -- both field checks return the element they were given
  have read : ie =
      { objectType := codecInfo.getD 3 0
        sampleRate := ((codecInfo.getD 4 0).toUInt16 &&& a2dpAacSamplingFreqMask0) |||
          ((codecInfo.getD 5 0).toUInt16 <<< 8 &&& a2dpAacSamplingFreqMask1)
        channelMode := codecInfo.getD 5 0 &&& a2dpAacChannelModeMask
        variableBitRateSupport := codecInfo.getD 6 0 &&& a2dpAacVariableBitRateMask
        bitRate := ((codecInfo.getD 6 0).toUInt32 <<< 16 &&& a2dpAacBitRateMask0) |||
          ((codecInfo.getD 7 0).toUInt32 <<< 8 &&& a2dpAacBitRateMask1) |||
          ((codecInfo.getD 8 0).toUInt32 &&& a2dpAacBitRateMask2)
        bitsPerSample := btavA2dpCodecBitsPerSampleNone } := by
    split at parsed
    · exact (checkAacFields_ok parsed).1
    · exact (checkAacFields_ok parsed).1
  subst read
  exact ⟨not_not.1 losc, not_not.1 mediaType, not_not.1 codecType, rfl, rfl, rfl, rfl, rfl,
    objectType_ne, sampleRate_ne, channelMode_ne⟩

/-- Building a parsed element writes back every octet the parser read, less the bits no field
covers; past the element both sides read as zero. -/
theorem buildInfoAac_parseInfoAac {codecInfo : List UInt8} {isCapability : Bool} {ie : AacCie}
    (parsed : parseInfoAac codecInfo isCapability = .ok ie) :
    (buildInfoAac avdtMediaTypeAudio ie).1 = a2dpSuccess ∧
      ∀ i, (buildInfoAac avdtMediaTypeAudio ie).2.getD i 0 =
        codecInfo.getD i 0 &&& aacFieldBits.getD i 0 := by
  have read := parseInfoAac_ok parsed
  obtain ⟨rateLow, rateHigh⟩ := aacSampleRate_rebuild (codecInfo.getD 4 0) (codecInfo.getD 5 0)
  obtain ⟨rateTop, rateMiddle, rateBottom⟩ :=
    aacBitRate_rebuild (codecInfo.getD 6 0) (codecInfo.getD 7 0) (codecInfo.getD 8 0)
  rw [buildInfoAac_eq _ read.objectType_ne read.sampleRate_ne read.channelMode_ne]
  refine ⟨rfl, fun i => ?_⟩
  rcases i with _ | _ | _ | _ | _ | _ | _ | _ | _ | i
  · simp only [List.getD_cons_zero, aacFieldBits, uInt8_and_allOnes, read.losc]
  · exact (mediaType_octet _ read.mediaType).symm
  · simp only [List.getD_cons_succ, List.getD_cons_zero, aacFieldBits, uInt8_and_allOnes, read.codecType]
  · simp only [List.getD_cons_succ, List.getD_cons_zero, aacFieldBits, uInt8_and_allOnes, read.objectType]
  · simp only [List.getD_cons_succ, List.getD_cons_zero, aacFieldBits, uInt8_and_allOnes, read.sampleRate,
      rateLow]
  · simp only [List.getD_cons_succ, List.getD_cons_zero, aacFieldBits, read.sampleRate, read.channelMode,
      rateHigh]
  · simp only [List.getD_cons_succ, List.getD_cons_zero, aacFieldBits, uInt8_and_allOnes,
      read.variableBitRateSupport, read.bitRate, rateTop]
  · simp only [List.getD_cons_succ, List.getD_cons_zero, aacFieldBits, uInt8_and_allOnes, read.bitRate,
      rateMiddle]
  · simp only [List.getD_cons_succ, List.getD_cons_zero, aacFieldBits, uInt8_and_allOnes, read.bitRate,
      rateBottom]
  · simp only [List.getD_cons_succ, aacFieldBits, List.getD_nil, UInt8.and_zero]

/-! ## The round trips -/

/-- Parsing what `A2DP_BuildInfoSbc` and `A2DP_BuildInfoAac` wrote gives the element back when
every field lies within its mask (for AAC the VBR flag too) and each multi-choice field is
non-empty; as a configuration it parses exactly when each holds one bit.  Building what a parse
accepted gives the octets back, less the bits no field covers. -/
theorem codec_info_round_trip :
    (∀ ie : SbcCie, (buildInfoSbc avdtMediaTypeAudio ie).1 = a2dpSuccess →
      ie.sampFreq ≠ 0 → ie.chMode ≠ 0 → ie.blockLen ≠ 0 → ie.numSubbands ≠ 0 → ie.allocMethod ≠ 0 →
      parseInfoSbc (buildInfoSbc avdtMediaTypeAudio ie).2 true =
        .ok { ie with bitsPerSample := btavA2dpCodecBitsPerSampleNone }) ∧
    (∀ ie : SbcCie, (buildInfoSbc avdtMediaTypeAudio ie).1 = a2dpSuccess →
      ((∃ parsed, parseInfoSbc (buildInfoSbc avdtMediaTypeAudio ie).2 false = .ok parsed) ↔
        a2dpBitsSet ie.sampFreq.toUInt64 = a2dpSetOneBit ∧ a2dpBitsSet ie.chMode.toUInt64 = a2dpSetOneBit ∧
          a2dpBitsSet ie.blockLen.toUInt64 = a2dpSetOneBit ∧
          a2dpBitsSet ie.numSubbands.toUInt64 = a2dpSetOneBit ∧
          a2dpBitsSet ie.allocMethod.toUInt64 = a2dpSetOneBit)) ∧
    (∀ codecInfo isCapability ie, parseInfoSbc codecInfo isCapability = .ok ie →
      (buildInfoSbc avdtMediaTypeAudio ie).1 = a2dpSuccess ∧
        ∀ i, (buildInfoSbc avdtMediaTypeAudio ie).2.getD i 0 =
          codecInfo.getD i 0 &&& sbcFieldBits.getD i 0) ∧
    (∀ ie : AacCie,
      ie.sampleRate &&& (a2dpAacSamplingFreqMask0 ||| a2dpAacSamplingFreqMask1) = ie.sampleRate →
      ie.channelMode &&& a2dpAacChannelModeMask = ie.channelMode →
      ie.variableBitRateSupport &&& a2dpAacVariableBitRateMask = ie.variableBitRateSupport →
      ie.bitRate < 0x800000 → ie.objectType ≠ 0 → ie.sampleRate ≠ 0 → ie.channelMode ≠ 0 →
      parseInfoAac (buildInfoAac avdtMediaTypeAudio ie).2 true =
        .ok { ie with bitsPerSample := btavA2dpCodecBitsPerSampleNone }) ∧
    (∀ ie : AacCie,
      ie.sampleRate &&& (a2dpAacSamplingFreqMask0 ||| a2dpAacSamplingFreqMask1) = ie.sampleRate →
      ie.channelMode &&& a2dpAacChannelModeMask = ie.channelMode →
      ie.bitRate < 0x800000 → ie.objectType ≠ 0 → ie.sampleRate ≠ 0 → ie.channelMode ≠ 0 →
      ((∃ parsed, parseInfoAac (buildInfoAac avdtMediaTypeAudio ie).2 false = .ok parsed) ↔
        a2dpBitsSet ie.objectType.toUInt64 = a2dpSetOneBit ∧
          a2dpBitsSet ie.sampleRate.toUInt64 = a2dpSetOneBit ∧
          a2dpBitsSet ie.channelMode.toUInt64 = a2dpSetOneBit)) ∧
    (∀ codecInfo isCapability ie, parseInfoAac codecInfo isCapability = .ok ie →
      (buildInfoAac avdtMediaTypeAudio ie).1 = a2dpSuccess ∧
        ∀ i, (buildInfoAac avdtMediaTypeAudio ie).2.getD i 0 =
          codecInfo.getD i 0 &&& aacFieldBits.getD i 0) := by
  refine ⟨?sbcCapability, ?sbcConfiguration, fun _ _ _ => buildInfoSbc_parseInfoSbc, ?aacCapability,
    ?aacConfiguration, fun _ _ _ => buildInfoAac_parseInfoAac⟩
  case sbcCapability =>
    intro ie built sampFreq chMode blockLen numSubbands allocMethod
    rw [parseInfoSbc_buildInfoSbc (buildInfoSbc_success_iff.1 built), if_pos rfl]
    exact checkSbcFields_capability sampFreq chMode blockLen numSubbands allocMethod
  case sbcConfiguration =>
    intro ie built
    rw [parseInfoSbc_buildInfoSbc (buildInfoSbc_success_iff.1 built), if_neg Bool.false_ne_true]
    exact checkSbcFields_configuration_iff
  case aacCapability =>
    intro ie sampleRate channelMode variableBitRateSupport bitRate objectType_ne sampleRate_ne channelMode_ne
    have packable : AacPackable ie :=
      ⟨sampleRate, channelMode, bitRate, objectType_ne, sampleRate_ne, channelMode_ne⟩
    rw [parseInfoAac_buildInfoAac packable, if_pos rfl, variableBitRateSupport]
    exact checkAacFields_eq_ok (a2dpBitsSet_ne_zero (uInt8_toUInt64_ne_zero objectType_ne))
      (a2dpBitsSet_ne_zero fun zero => sampleRate_ne (UInt16.toUInt64_inj.1 zero))
      (a2dpBitsSet_ne_zero (uInt8_toUInt64_ne_zero channelMode_ne))
  case aacConfiguration =>
    intro ie sampleRate channelMode bitRate objectType_ne sampleRate_ne channelMode_ne
    have packable : AacPackable ie :=
      ⟨sampleRate, channelMode, bitRate, objectType_ne, sampleRate_ne, channelMode_ne⟩
    rw [parseInfoAac_buildInfoAac packable, if_neg Bool.false_ne_true]
    exact checkAacFields_configuration_iff

/-- Both codecs at their tables: SBC with every capability, its bits per sample
dropped; an SBC configuration of 44.1 kHz, joint stereo, 16 blocks, 8 subbands
and loudness allocation, which parses as a configuration; the bytes of such a
configuration from a peer, rebuilt to the same bytes under the field masks;
the AAC sink capabilities; the AAC default configuration; and a peer's AAC
configuration of 48 kHz stereo with variable bit rate, rebuilt likewise. -/
theorem codec_info_round_trip_tables :
    parseInfoSbc (buildInfoSbc avdtMediaTypeAudio ⟨a2dpSbcIeSampFreqMsk, a2dpSbcIeChMdMsk, a2dpSbcIeBlocksMsk,
        a2dpSbcIeSubbandMsk, a2dpSbcIeAllocMdMsk, 2, 53, btavA2dpCodecBitsPerSample16⟩).2 true =
      .ok ⟨a2dpSbcIeSampFreqMsk, a2dpSbcIeChMdMsk, a2dpSbcIeBlocksMsk, a2dpSbcIeSubbandMsk, a2dpSbcIeAllocMdMsk,
        2, 53, btavA2dpCodecBitsPerSampleNone⟩ ∧
    ((∃ parsed, parseInfoSbc (buildInfoSbc avdtMediaTypeAudio ⟨a2dpSbcIeSampFreq44, a2dpSbcIeChMdJoint,
        a2dpSbcIeBlocks16, a2dpSbcIeSubband8, a2dpSbcIeAllocMdL, 2, 53, 0⟩).2 false = .ok parsed) ↔
      a2dpBitsSet a2dpSbcIeSampFreq44.toUInt64 = a2dpSetOneBit ∧
        a2dpBitsSet a2dpSbcIeChMdJoint.toUInt64 = a2dpSetOneBit ∧
        a2dpBitsSet a2dpSbcIeBlocks16.toUInt64 = a2dpSetOneBit ∧
        a2dpBitsSet a2dpSbcIeSubband8.toUInt64 = a2dpSetOneBit ∧
        a2dpBitsSet a2dpSbcIeAllocMdL.toUInt64 = a2dpSetOneBit) ∧
    ((buildInfoSbc avdtMediaTypeAudio ⟨0x20, 0x01, 0x10, 0x04, 0x01, 2, 53, 0⟩).1 = a2dpSuccess ∧
      ∀ i, (buildInfoSbc avdtMediaTypeAudio ⟨0x20, 0x01, 0x10, 0x04, 0x01, 2, 53, 0⟩).2.getD i 0 =
        [6, 0x00, 0x00, 0x21, 0x15, 2, 53].getD i 0 &&& sbcFieldBits.getD i 0) ∧
    parseInfoAac (buildInfoAac avdtMediaTypeAudio a2dpAacSinkCaps).2 true =
      .ok { a2dpAacSinkCaps with bitsPerSample := btavA2dpCodecBitsPerSampleNone } ∧
    ((∃ parsed, parseInfoAac (buildInfoAac avdtMediaTypeAudio a2dpAacDefaultConfig).2 false = .ok parsed) ↔
      a2dpBitsSet a2dpAacDefaultConfig.objectType.toUInt64 = a2dpSetOneBit ∧
        a2dpBitsSet a2dpAacDefaultConfig.sampleRate.toUInt64 = a2dpSetOneBit ∧
        a2dpBitsSet a2dpAacDefaultConfig.channelMode.toUInt64 = a2dpSetOneBit) ∧
    ((buildInfoAac avdtMediaTypeAudio ⟨0x80, a2dpAacSamplingFreq48000, 0x04, 0x80, 320000, 0⟩).1 = a2dpSuccess ∧
      ∀ i, (buildInfoAac avdtMediaTypeAudio ⟨0x80, a2dpAacSamplingFreq48000, 0x04, 0x80, 320000, 0⟩).2.getD i 0 =
        [8, 0x00, 0x02, 0x80, 0x00, 0x84, 0x84, 0xE2, 0x00].getD i 0 &&& aacFieldBits.getD i 0) := by
  obtain ⟨sbcCapability, sbcConfiguration, sbcRebuilt, aacCapability, aacConfiguration, aacRebuilt⟩ :=
    codec_info_round_trip
  exact ⟨sbcCapability _ (by decide) (by decide) (by decide) (by decide) (by decide) (by decide),
    sbcConfiguration _ (by decide),
    sbcRebuilt [6, 0x00, 0x00, 0x21, 0x15, 2, 53] false _ (by decide),
    aacCapability _ (by decide) (by decide) (by decide) (by decide) (by decide) (by decide) (by decide),
    aacConfiguration _ (by decide) (by decide) (by decide) (by decide) (by decide) (by decide),
    aacRebuilt [8, 0x00, 0x02, 0x80, 0x00, 0x84, 0x84, 0xE2, 0x00] false _ (by decide)⟩

/-- Two elements the builders accept and the parsers do not give back: an SBC capability with
no sampling frequency, which `A2DP_BuildInfoSbc` writes and `A2DP_ParseInfoSbc` refuses, and an
AAC element with a VBR value outside its mask, which `A2DP_BuildInfoAac` masks away. -/
theorem built_codec_info_not_read_back :
    (buildInfoSbc avdtMediaTypeAudio
        ⟨0, a2dpSbcIeChMdJoint, a2dpSbcIeBlocks16, a2dpSbcIeSubband8, a2dpSbcIeAllocMdL, 2, 53, 0⟩).1 =
      a2dpSuccess ∧
    parseInfoSbc (buildInfoSbc avdtMediaTypeAudio
        ⟨0, a2dpSbcIeChMdJoint, a2dpSbcIeBlocks16, a2dpSbcIeSubband8, a2dpSbcIeAllocMdL, 2, 53, 0⟩).2
      true = .error a2dpBadSampFreq ∧
    parseInfoAac (buildInfoAac avdtMediaTypeAudio
        ⟨a2dpAacObjectTypeMpeg2Lc, a2dpAacSamplingFreq44100, a2dpAacChannelModeStereo, 0x01,
          a2dpAacDefaultBitrate, 0⟩).2 true =
      .ok ⟨a2dpAacObjectTypeMpeg2Lc, a2dpAacSamplingFreq44100, a2dpAacChannelModeStereo, 0,
        a2dpAacDefaultBitrate, 0⟩ := by
  decide

end Bluedroid.A2dp
