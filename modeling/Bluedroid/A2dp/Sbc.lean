import Bluedroid.A2dp.Aac

/-!
# A2DP SBC codec information

`A2DP_BuildInfoSbc` and `A2DP_ParseInfoSbc` (`stack/a2dp/a2dp_sbc.cc`) write and
read the SBC Media Codec Capabilities from the LOSC octet: the length, the media
type in the high nibble, the codec type, then two octets that each hold several
fields side by side (sampling frequency and channel mode; block length, subbands
and allocation method) and the two bitpools.

The builder rejects bits outside a field's mask and bitpools out of range or in
the wrong order, but not an empty field.  The parser checks the bitpools, then
asks each of the five fields for some bit (a capability) or exactly one bit (a
configuration).
-/

namespace Bluedroid.A2dp

set_option autoImplicit false

/-! ## Constants of `a2dp_sbc_constants.h`, `a2dp_constants.h` and `a2dp_error_codes.h` -/

def a2dpSbcInfoLen : UInt8 := 6
def a2dpMediaCtSbc : UInt8 := 0x00

def a2dpSbcIeSampFreqMsk : UInt8 := 0xF0
def a2dpSbcIeSampFreq44 : UInt8 := 0x20
def a2dpSbcIeChMdMsk : UInt8 := 0x0F
def a2dpSbcIeChMdJoint : UInt8 := 0x01
def a2dpSbcIeBlocksMsk : UInt8 := 0xF0
def a2dpSbcIeBlocks16 : UInt8 := 0x10
def a2dpSbcIeSubbandMsk : UInt8 := 0x0C
def a2dpSbcIeSubband8 : UInt8 := 0x04
def a2dpSbcIeAllocMdMsk : UInt8 := 0x03
def a2dpSbcIeAllocMdL : UInt8 := 0x01
def a2dpSbcIeMinBitpool : UInt8 := 2
def a2dpSbcIeMaxBitpool : UInt8 := 250

def a2dpBadSubbands : UInt8 := 0xC7
def a2dpBadAllocMethod : UInt8 := 0xC9
def a2dpBadMinBitpool : UInt8 := 0xCB
def a2dpBadMaxBitpool : UInt8 := 0xCD
def a2dpBadBlockLen : UInt8 := 0xDD

/-! ## The codec information element -/

/-- `tA2DP_SBC_CIE`. -/
structure SbcCie where
  sampFreq : UInt8
  chMode : UInt8
  blockLen : UInt8
  numSubbands : UInt8
  allocMethod : UInt8
  minBitpool : UInt8
  maxBitpool : UInt8
  bitsPerSample : UInt32
  deriving DecidableEq, Repr

/-- `A2DP_BuildInfoSbc`: the status and the bytes written from the LOSC octet.  A
field with a bit outside its mask (`p_ie->samp_freq & ~A2DP_SBC_IE_SAMP_FREQ_MSK`
and so on) or a bitpool out of order or range returns before anything is written. -/
def buildInfoSbc (mediaType : UInt8) (ie : SbcCie) : UInt8 × List UInt8 :=
  if ie.sampFreq &&& ~~~a2dpSbcIeSampFreqMsk ≠ 0 ∨ ie.chMode &&& ~~~a2dpSbcIeChMdMsk ≠ 0 ∨
      ie.blockLen &&& ~~~a2dpSbcIeBlocksMsk ≠ 0 ∨ ie.numSubbands &&& ~~~a2dpSbcIeSubbandMsk ≠ 0 ∨
      ie.allocMethod &&& ~~~a2dpSbcIeAllocMdMsk ≠ 0 ∨ ie.minBitpool > ie.maxBitpool ∨
      ie.minBitpool < a2dpSbcIeMinBitpool ∨ ie.minBitpool > a2dpSbcIeMaxBitpool ∨
      ie.maxBitpool < a2dpSbcIeMinBitpool ∨ ie.maxBitpool > a2dpSbcIeMaxBitpool then
    (a2dpInvalidParams, [])
  else
    (a2dpSuccess,
      [a2dpSbcInfoLen, mediaType <<< 4, a2dpMediaCtSbc, ie.sampFreq ||| ie.chMode,
        ie.blockLen ||| ie.numSubbands ||| ie.allocMethod, ie.minBitpool, ie.maxBitpool])

/-- The five field checks of `A2DP_ParseInfoSbc`: each fails with its field's
status when `bad` holds of the field's `A2DP_BitsSet`. -/
def checkSbcFields (bad : UInt8 → Prop) [DecidablePred bad] (ie : SbcCie) : Except UInt8 SbcCie :=
  if bad (a2dpBitsSet ie.sampFreq.toUInt64) then .error a2dpBadSampFreq
  else if bad (a2dpBitsSet ie.chMode.toUInt64) then .error a2dpBadChMode
  else if bad (a2dpBitsSet ie.blockLen.toUInt64) then .error a2dpBadBlockLen
  else if bad (a2dpBitsSet ie.numSubbands.toUInt64) then .error a2dpBadSubbands
  else if bad (a2dpBitsSet ie.allocMethod.toUInt64) then .error a2dpBadAllocMethod
  else .ok ie

/-- `A2DP_ParseInfoSbc` on the bytes from the LOSC octet.  As for AAC, the source
never sets `bits_per_sample`, which is not sent. -/
def parseInfoSbc (codecInfo : List UInt8) (isCapability : Bool) : Except UInt8 SbcCie :=
  let byte := fun i => codecInfo.getD i 0
  if byte 0 ≠ a2dpSbcInfoLen then .error a2dpWrongCodec
  else if byte 1 >>> 4 ≠ avdtMediaTypeAudio ∨ byte 2 ≠ a2dpMediaCtSbc then .error a2dpWrongCodec
  else
    let ie : SbcCie :=
      { sampFreq := byte 3 &&& a2dpSbcIeSampFreqMsk
        chMode := byte 3 &&& a2dpSbcIeChMdMsk
        blockLen := byte 4 &&& a2dpSbcIeBlocksMsk
        numSubbands := byte 4 &&& a2dpSbcIeSubbandMsk
        allocMethod := byte 4 &&& a2dpSbcIeAllocMdMsk
        minBitpool := byte 5
        maxBitpool := byte 6
        bitsPerSample := btavA2dpCodecBitsPerSampleNone }
    if ie.minBitpool < a2dpSbcIeMinBitpool ∨ ie.minBitpool > a2dpSbcIeMaxBitpool then
      .error a2dpBadMinBitpool
    else if ie.maxBitpool < a2dpSbcIeMinBitpool ∨ ie.maxBitpool > a2dpSbcIeMaxBitpool ∨
        ie.maxBitpool < ie.minBitpool then
      .error a2dpBadMaxBitpool
    else if isCapability then checkSbcFields (· = a2dpSetZeroBit) ie
    else checkSbcFields (· ≠ a2dpSetOneBit) ie

end Bluedroid.A2dp
