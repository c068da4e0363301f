import Mathlib.Data.List.Basic

/-!
# A2DP AAC codec negotiation

`A2dpCodecConfigAacBase::setCodecConfig` (`stack/a2dp/a2dp_aac.cc`) chooses the AAC
configuration from the local capability table and the peer's codec information. Each
field goes through a cascade: user preference, then audio configuration, then the
default configuration against the peer, then the best match. The result is built by
`A2DP_BuildInfoAac` into the caller's buffer and into the object's over-the-air copies.
Every `goto fail` restores the eight members saved at entry.

The codec information element and the over-the-air buffers are modelled byte for byte.
The `btav_a2dp_codec_config_t` records keep the fields this function reads or writes.
What the negotiation guarantees is proved in `A2dp.AacNegotiation`.
-/

namespace Bluedroid.A2dp

set_option autoImplicit false

/-! ## Constants of `a2dp_aac_constants.h`, `a2dp_error_codes.h` and `bt_av.h` -/

def a2dpAacCodecLen : UInt8 := 8
def a2dpMediaCtAac : UInt8 := 0x02
def avdtMediaTypeAudio : UInt8 := 0
def avdtCodecSize : Nat := 20

def a2dpAacObjectTypeMpeg2Lc : UInt8 := 0x80
def a2dpAacObjectTypeMpeg4Lc : UInt8 := 0x40
def a2dpAacSamplingFreqMask0 : UInt16 := 0xFF
def a2dpAacSamplingFreq44100 : UInt16 := 0x01
def a2dpAacSamplingFreqMask1 : UInt16 := (0xF0 : UInt16) <<< 8
def a2dpAacSamplingFreq48000 : UInt16 := (0x80 : UInt16) <<< 8
def a2dpAacSamplingFreq88200 : UInt16 := (0x20 : UInt16) <<< 8
def a2dpAacSamplingFreq96000 : UInt16 := (0x10 : UInt16) <<< 8
def a2dpAacChannelModeMask : UInt8 := 0x0C
def a2dpAacChannelModeMono : UInt8 := 0x08
def a2dpAacChannelModeStereo : UInt8 := 0x04
def a2dpAacVariableBitRateMask : UInt8 := 0x80
def a2dpAacVariableBitRateEnabled : UInt8 := 0x80
def a2dpAacVariableBitRateDisabled : UInt8 := 0x00
def a2dpAacBitRateMask0 : UInt32 := (0x7F : UInt32) <<< 16
def a2dpAacBitRateMask1 : UInt32 := (0xFF : UInt32) <<< 8
def a2dpAacBitRateMask2 : UInt32 := 0xFF
def a2dpAacDefaultBitrate : UInt32 := 320000
def a2dpAacMinBitrate : UInt32 := 64000

def a2dpSuccess : UInt8 := 0
def a2dpInvalidParams : UInt8 := 0x0C
def a2dpWrongCodec : UInt8 := 0x0D
def a2dpBadSampFreq : UInt8 := 0xC3
def a2dpBadChMode : UInt8 := 0xC5
def a2dpBadObjType : UInt8 := 0xD6

def a2dpSetZeroBit : UInt8 := 0
def a2dpSetOneBit : UInt8 := 1
def a2dpSetMultlBit : UInt8 := 2

def btavA2dpCodecSampleRateNone : UInt32 := 0x0
def btavA2dpCodecSampleRate44100 : UInt32 := (0x1 : UInt32) <<< 0
def btavA2dpCodecSampleRate48000 : UInt32 := (0x1 : UInt32) <<< 1
def btavA2dpCodecSampleRate88200 : UInt32 := (0x1 : UInt32) <<< 2
def btavA2dpCodecSampleRate96000 : UInt32 := (0x1 : UInt32) <<< 3
def btavA2dpCodecSampleRate176400 : UInt32 := (0x1 : UInt32) <<< 4
def btavA2dpCodecSampleRate192000 : UInt32 := (0x1 : UInt32) <<< 5
def btavA2dpCodecSampleRate16000 : UInt32 := (0x1 : UInt32) <<< 6
def btavA2dpCodecSampleRate24000 : UInt32 := (0x1 : UInt32) <<< 7
def btavA2dpCodecBitsPerSampleNone : UInt32 := 0x0
def btavA2dpCodecBitsPerSample16 : UInt32 := (0x1 : UInt32) <<< 0
def btavA2dpCodecBitsPerSample24 : UInt32 := (0x1 : UInt32) <<< 1
def btavA2dpCodecBitsPerSample32 : UInt32 := (0x1 : UInt32) <<< 2
def btavA2dpCodecChannelModeNone : UInt32 := 0x0
def btavA2dpCodecChannelModeMono : UInt32 := (0x1 : UInt32) <<< 0
def btavA2dpCodecChannelModeStereo : UInt32 := (0x1 : UInt32) <<< 1

/-- `AacEncoderBitrateMode`, the values `codec_specific_1` takes. -/
def aacencBrModeCbr : Int := 0x00
def aacencBrModeVbrC : Int := 0x80
def aacencBrModeVbr1 : Int := 0x81
def aacencBrModeVbr2 : Int := 0x82
def aacencBrModeVbr3 : Int := 0x83
def aacencBrModeVbr4 : Int := 0x84
def aacencBrModeVbr5 : Int := 0x85

/-! ## The codec information element -/

/-- `tA2DP_AAC_CIE`. -/
structure AacCie where
  objectType : UInt8
  sampleRate : UInt16
  channelMode : UInt8
  variableBitRateSupport : UInt8
  bitRate : UInt32
  bitsPerSample : UInt32
  deriving DecidableEq, Repr

def a2dpAacCbrSourceCaps : AacCie :=
  ⟨a2dpAacObjectTypeMpeg2Lc, a2dpAacSamplingFreq44100, a2dpAacChannelModeStereo,
    a2dpAacVariableBitRateDisabled, a2dpAacDefaultBitrate, btavA2dpCodecBitsPerSample16⟩

def a2dpAacVbrSourceCaps : AacCie :=
  ⟨a2dpAacObjectTypeMpeg2Lc, a2dpAacSamplingFreq44100, a2dpAacChannelModeStereo,
    a2dpAacVariableBitRateEnabled, a2dpAacDefaultBitrate, btavA2dpCodecBitsPerSample16⟩

def a2dpAacSinkCaps : AacCie :=
  ⟨a2dpAacObjectTypeMpeg2Lc, a2dpAacSamplingFreq44100 ||| a2dpAacSamplingFreq48000,
    a2dpAacChannelModeMono ||| a2dpAacChannelModeStereo, a2dpAacVariableBitRateEnabled,
    a2dpAacDefaultBitrate, btavA2dpCodecBitsPerSample16⟩

def a2dpAacDefaultConfig : AacCie :=
  ⟨a2dpAacObjectTypeMpeg2Lc, a2dpAacSamplingFreq44100, a2dpAacChannelModeStereo,
    a2dpAacVariableBitRateDisabled, a2dpAacDefaultBitrate, btavA2dpCodecBitsPerSample16⟩

/-- `aac_source_caps_initialize`: the source table chosen once by the
`persist.bluetooth.a2dp_aac.vbr_supported` property. -/
def aacSourceCapsInitialize (vbrSupported : Bool) : AacCie :=
  if vbrSupported then a2dpAacVbrSourceCaps else a2dpAacCbrSourceCaps

/-- `A2DP_BitsSet`. -/
def a2dpBitsSet (num : UInt64) : UInt8 :=
  if num = 0 then a2dpSetZeroBit
  else if num &&& (num - 1) = 0 then a2dpSetOneBit
  else a2dpSetMultlBit

/-- The three field checks of `A2DP_ParseInfoAac`: each fails with its field's status
when `bad` holds of the field's `A2DP_BitsSet`. -/
def checkAacFields (bad : UInt8 → Prop) [DecidablePred bad] (ie : AacCie) :
    Except UInt8 AacCie :=
  if bad (a2dpBitsSet ie.objectType.toUInt64) then .error a2dpBadObjType
  else if bad (a2dpBitsSet ie.sampleRate.toUInt64) then .error a2dpBadSampFreq
  else if bad (a2dpBitsSet ie.channelMode.toUInt64) then .error a2dpBadChMode
  else .ok ie

/-- `A2DP_ParseInfoAac` on the bytes from the LOSC octet. A capability needs some bit in
each field, a configuration exactly one. The source never sets `bits_per_sample`,
which nothing reads from a parsed element. -/
def parseInfoAac (codecInfo : List UInt8) (isCapability : Bool) : Except UInt8 AacCie :=
  let byte := fun i => codecInfo.getD i 0
  if byte 0 ≠ a2dpAacCodecLen then .error a2dpWrongCodec
  else if byte 1 >>> 4 ≠ avdtMediaTypeAudio ∨ byte 2 ≠ a2dpMediaCtAac then .error a2dpWrongCodec
  else
    let ie : AacCie :=
      { objectType := byte 3
        sampleRate := ((byte 4).toUInt16 &&& a2dpAacSamplingFreqMask0) |||
          ((byte 5).toUInt16 <<< 8 &&& a2dpAacSamplingFreqMask1)
        channelMode := byte 5 &&& a2dpAacChannelModeMask
        variableBitRateSupport := byte 6 &&& a2dpAacVariableBitRateMask
        bitRate := ((byte 6).toUInt32 <<< 16 &&& a2dpAacBitRateMask0) |||
          ((byte 7).toUInt32 <<< 8 &&& a2dpAacBitRateMask1) |||
          ((byte 8).toUInt32 &&& a2dpAacBitRateMask2)
        bitsPerSample := btavA2dpCodecBitsPerSampleNone }
    if isCapability then checkAacFields (· = a2dpSetZeroBit) ie
    else checkAacFields (· ≠ a2dpSetOneBit) ie

/-- `A2DP_BuildInfoAac`: the status, and the bytes written from the LOSC octet before
it returned. An early return leaves a prefix, and the sample-rate byte it shares with
the channel mode is written before the channel-mode test. -/
def buildInfoAac (mediaType : UInt8) (ie : AacCie) : UInt8 × List UInt8 :=
  let header := [a2dpAacCodecLen, mediaType <<< 4, a2dpMediaCtAac]
  if ie.objectType = 0 then (a2dpInvalidParams, header) else
  let header := header ++ [ie.objectType]
  if ie.sampleRate = 0 then (a2dpInvalidParams, header) else
  let rateLow := (ie.sampleRate &&& a2dpAacSamplingFreqMask0).toUInt8
  let rateHigh := ((ie.sampleRate &&& a2dpAacSamplingFreqMask1) >>> 8).toUInt8
  if ie.channelMode = 0 then (a2dpInvalidParams, header ++ [rateLow, rateHigh]) else
  (a2dpSuccess, header ++
    [rateLow, rateHigh ||| (ie.channelMode &&& a2dpAacChannelModeMask),
      (ie.variableBitRateSupport &&& a2dpAacVariableBitRateMask) |||
        ((ie.bitRate &&& a2dpAacBitRateMask0) >>> 16).toUInt8,
      ((ie.bitRate &&& a2dpAacBitRateMask1) >>> 8).toUInt8,
      (ie.bitRate &&& a2dpAacBitRateMask2).toUInt8])

/-- The bytes a buffer holds after `written` is stored from its start. -/
def storeBytes (buffer written : List UInt8) : List UInt8 :=
  written ++ buffer.drop written.length

/-! ## The codec object -/

/-- `btav_a2dp_codec_config_t` without the codec index and priority, which
`setCodecConfig` only saves and restores. -/
structure CodecConfig where
  sampleRate : UInt32
  bitsPerSample : UInt32
  channelMode : UInt32
  codecSpecific1 : Int
  codecSpecific2 : Int
  codecSpecific3 : Int
  codecSpecific4 : Int
  deriving DecidableEq, Repr

/-- The members of `A2dpCodecConfigAacBase` that `setCodecConfig` reads or writes. -/
structure AacCodec where
  isSource : Bool
  codecConfig : CodecConfig
  codecCapability : CodecConfig
  codecSelectableCapability : CodecConfig
  codecUserConfig : CodecConfig
  codecAudioConfig : CodecConfig
  otaCodecConfig : List UInt8
  otaCodecPeerCapability : List UInt8
  otaCodecPeerConfig : List UInt8
  deriving DecidableEq, Repr

/-- `init_btav_a2dp_codec_config`: every field zero but the codec index and priority. -/
def CodecConfig.init : CodecConfig := ⟨0, 0, 0, 0, 0, 0, 0⟩

/-- The members as `A2dpCodecConfig`'s constructor leaves them. -/
def AacCodec.new (isSource : Bool) : AacCodec :=
  ⟨isSource, .init, .init, .init, .init, .init, List.replicate avdtCodecSize 0,
    List.replicate avdtCodecSize 0, List.replicate avdtCodecSize 0⟩

/-- The local table: `is_source_ ? &a2dp_aac_source_caps : &a2dp_aac_sink_caps`. -/
def AacCodec.caps (c : AacCodec) (vbrSupported : Bool) : AacCie :=
  if c.isSource then aacSourceCapsInitialize vbrSupported else a2dpAacSinkCaps

/-! ## The selection helpers

Each `select_*` helper of the source writes `p_result` and `p_codec_config` and returns
true, or writes nothing and returns false: `none` here. -/

/-- One outcome of the sample-rate helpers: the element's bit and the record's value. -/
def chooseSampleRate (freq : UInt16) (rate : UInt32) (result : AacCie)
    (config : CodecConfig) : AacCie × CodecConfig :=
  ({ result with sampleRate := freq }, { config with sampleRate := rate })

/-- `select_best_sample_rate`. -/
def selectBestSampleRate (sampleRate : UInt16) (result : AacCie) (config : CodecConfig) :
    Option (AacCie × CodecConfig) :=
  if sampleRate &&& a2dpAacSamplingFreq96000 ≠ 0 then
    some (chooseSampleRate a2dpAacSamplingFreq96000 btavA2dpCodecSampleRate96000 result config)
  else if sampleRate &&& a2dpAacSamplingFreq88200 ≠ 0 then
    some (chooseSampleRate a2dpAacSamplingFreq88200 btavA2dpCodecSampleRate88200 result config)
  else if sampleRate &&& a2dpAacSamplingFreq48000 ≠ 0 then
    some (chooseSampleRate a2dpAacSamplingFreq48000 btavA2dpCodecSampleRate48000 result config)
  else if sampleRate &&& a2dpAacSamplingFreq44100 ≠ 0 then
    some (chooseSampleRate a2dpAacSamplingFreq44100 btavA2dpCodecSampleRate44100 result config)
  else none

/-- The four sample rates AAC can choose, as pairs of the element's bit and the
`btav_a2dp_codec_sample_rate_t` value: the cases of the source's switches. -/
def aacSampleRates : List (UInt16 × UInt32) :=
  [(a2dpAacSamplingFreq44100, btavA2dpCodecSampleRate44100),
    (a2dpAacSamplingFreq48000, btavA2dpCodecSampleRate48000),
    (a2dpAacSamplingFreq88200, btavA2dpCodecSampleRate88200),
    (a2dpAacSamplingFreq96000, btavA2dpCodecSampleRate96000)]

/-- `select_audio_sample_rate`: the `switch` on the audio configuration's rate. -/
def selectAudioSampleRate (audioConfig : CodecConfig) (sampleRate : UInt16)
    (result : AacCie) (config : CodecConfig) : Option (AacCie × CodecConfig) :=
  match aacSampleRates.find? (·.2 = audioConfig.sampleRate) with
  | some (freq, rate) =>
    if sampleRate &&& freq ≠ 0 then some (chooseSampleRate freq rate result config) else none
  | none => none

/-- The `btav` rates whose bits are in `sampleRate`: the four `|=` of the source that
compute the selectable and the common capability. -/
def btavSampleRates (sampleRate : UInt16) : UInt32 :=
  aacSampleRates.foldl
    (fun acc (freq, rate) => if sampleRate &&& freq ≠ 0 then acc ||| rate else acc) 0

/-- `select_best_bits_per_sample`. -/
def selectBestBitsPerSample (bitsPerSample : UInt32) (result : AacCie)
    (config : CodecConfig) : Option (AacCie × CodecConfig) :=
  let choose := fun bits =>
    some ({ result with bitsPerSample := bits }, { config with bitsPerSample := bits })
  if bitsPerSample &&& btavA2dpCodecBitsPerSample32 ≠ 0 then choose btavA2dpCodecBitsPerSample32
  else if bitsPerSample &&& btavA2dpCodecBitsPerSample24 ≠ 0 then
    choose btavA2dpCodecBitsPerSample24
  else if bitsPerSample &&& btavA2dpCodecBitsPerSample16 ≠ 0 then
    choose btavA2dpCodecBitsPerSample16
  else none

/-- `select_audio_bits_per_sample`. -/
def selectAudioBitsPerSample (audioConfig : CodecConfig) (bitsPerSample : UInt32)
    (result : AacCie) (config : CodecConfig) : Option (AacCie × CodecConfig) :=
  let bits := audioConfig.bitsPerSample
  if (bits = btavA2dpCodecBitsPerSample16 ∨ bits = btavA2dpCodecBitsPerSample24 ∨
      bits = btavA2dpCodecBitsPerSample32) ∧ bitsPerSample &&& bits ≠ 0 then
    some ({ result with bitsPerSample := bits }, { config with bitsPerSample := bits })
  else none

/-- One outcome of the channel-mode helpers. -/
def chooseChannelMode (mode : UInt8) (btavMode : UInt32) (result : AacCie)
    (config : CodecConfig) : AacCie × CodecConfig :=
  ({ result with channelMode := mode }, { config with channelMode := btavMode })

/-- `select_best_channel_mode`. -/
def selectBestChannelMode (channelMode : UInt8) (result : AacCie) (config : CodecConfig) :
    Option (AacCie × CodecConfig) :=
  if channelMode &&& a2dpAacChannelModeStereo ≠ 0 then
    some (chooseChannelMode a2dpAacChannelModeStereo btavA2dpCodecChannelModeStereo result config)
  else if channelMode &&& a2dpAacChannelModeMono ≠ 0 then
    some (chooseChannelMode a2dpAacChannelModeMono btavA2dpCodecChannelModeMono result config)
  else none

/-- The two channel modes, as pairs of the element's bit and the `btav` value. -/
def aacChannelModes : List (UInt8 × UInt32) :=
  [(a2dpAacChannelModeMono, btavA2dpCodecChannelModeMono),
    (a2dpAacChannelModeStereo, btavA2dpCodecChannelModeStereo)]

/-- `select_audio_channel_mode`. -/
def selectAudioChannelMode (audioConfig : CodecConfig) (channelMode : UInt8)
    (result : AacCie) (config : CodecConfig) : Option (AacCie × CodecConfig) :=
  match aacChannelModes.find? (·.2 = audioConfig.channelMode) with
  | some (mode, btavMode) =>
    if channelMode &&& mode ≠ 0 then some (chooseChannelMode mode btavMode result config)
    else none
  | none => none

/-- The `btav` channel modes whose bits are in `channelMode`. -/
def btavChannelModes (channelMode : UInt8) : UInt32 :=
  aacChannelModes.foldl
    (fun acc (mode, btavMode) => if channelMode &&& mode ≠ 0 then acc ||| btavMode else acc) 0

/-- The first helper of a cascade that makes a selection, applied to `result` and the
object's `codec_config_`: the body of the source's `do { .. } while (false)` after its
capability updates. If none does, nothing changes. -/
def firstSelection (c : AacCodec) (result : AacCie)
    (helpers : List (AacCie → CodecConfig → Option (AacCie × CodecConfig))) :
    AacCodec × AacCie :=
  match helpers.findSome? (fun helper => helper result c.codecConfig) with
  | some (result, config) => ({ c with codecConfig := config }, result)
  | none => (c, result)

/-! ## `setCodecConfig`, field by field -/

section Steps

variable (caps peer : AacCie)

/-- The start of the preferred configuration: the object type and the variable bit rate
support always assigned, `codec_specific_1` from the latter, and the bit rate. -/
def initialResult (c : AacCodec) : AacCodec × AacCie :=
  let vbr := caps.variableBitRateSupport &&& peer.variableBitRateSupport
  let mode := if vbr ≠ a2dpAacVariableBitRateDisabled then aacencBrModeVbr5 else aacencBrModeCbr
  let bitRate := if peer.bitRate < a2dpAacMinBitrate then caps.bitRate
    else min caps.bitRate peer.bitRate
  ({ c with codecConfig := { c.codecConfig with codecSpecific1 := mode } },
    { objectType := caps.objectType, sampleRate := 0, channelMode := 0,
      variableBitRateSupport := vbr, bitRate := bitRate, bitsPerSample := 0 })

/-- The `switch (codec_user_config_.sample_rate)`. -/
def userSampleRate (sampleRate : UInt16) (c : AacCodec) (result : AacCie) :
    AacCodec × AacCie :=
  let user := c.codecUserConfig.sampleRate
  match aacSampleRates.find? (·.2 = user) with
  | some (freq, _) =>
    if sampleRate &&& freq ≠ 0 then
      ({ c with
          codecCapability := { c.codecCapability with sampleRate := user }
          codecConfig := { c.codecConfig with sampleRate := user } },
        { result with sampleRate := freq })
    else (c, result)
  | none =>
    if user ∈ [btavA2dpCodecSampleRate176400, btavA2dpCodecSampleRate192000,
        btavA2dpCodecSampleRate16000, btavA2dpCodecSampleRate24000,
        btavA2dpCodecSampleRateNone] then
      ({ c with
          codecCapability := { c.codecCapability with sampleRate := btavA2dpCodecSampleRateNone }
          codecConfig := { c.codecConfig with sampleRate := btavA2dpCodecSampleRateNone } },
        result)
    else (c, result)

/-- The sample-rate selection; `none` is the `goto fail` when no rate matched. -/
def selectSampleRate (c : AacCodec) (result : AacCie) : Option (AacCodec × AacCie) :=
  let sampleRate := caps.sampleRate &&& peer.sampleRate
  let c := { c with codecConfig := { c.codecConfig with sampleRate := btavA2dpCodecSampleRateNone } }
  let (c, result) := userSampleRate sampleRate c result
  let c := { c with
    codecSelectableCapability := { c.codecSelectableCapability with
      sampleRate := c.codecSelectableCapability.sampleRate ||| btavSampleRates sampleRate } }
  let (c, result) :=
    if c.codecConfig.sampleRate ≠ btavA2dpCodecSampleRateNone then (c, result) else
    let c := { c with
      codecCapability := { c.codecCapability with
        sampleRate := c.codecCapability.sampleRate ||| btavSampleRates sampleRate } }
    firstSelection c result
      [selectAudioSampleRate c.codecAudioConfig sampleRate,
        selectBestSampleRate (a2dpAacDefaultConfig.sampleRate &&& peer.sampleRate),
        selectBestSampleRate sampleRate]
  if c.codecConfig.sampleRate = btavA2dpCodecSampleRateNone then none else some (c, result)

/-- The `switch (codec_user_config_.bits_per_sample)`. -/
def userBitsPerSample (bitsPerSample : UInt32) (c : AacCodec) (result : AacCie) :
    AacCodec × AacCie :=
  let user := c.codecUserConfig.bitsPerSample
  if user = btavA2dpCodecBitsPerSample16 ∨ user = btavA2dpCodecBitsPerSample24 ∨
      user = btavA2dpCodecBitsPerSample32 then
    if bitsPerSample &&& user ≠ 0 then
      ({ c with
          codecCapability := { c.codecCapability with bitsPerSample := user }
          codecConfig := { c.codecConfig with bitsPerSample := user } },
        { result with bitsPerSample := user })
    else (c, result)
  else if user = btavA2dpCodecBitsPerSampleNone then
    ({ c with
        codecCapability := { c.codecCapability with bitsPerSample := btavA2dpCodecBitsPerSampleNone }
        codecConfig := { c.codecConfig with bitsPerSample := btavA2dpCodecBitsPerSampleNone } },
      { result with bitsPerSample := btavA2dpCodecBitsPerSampleNone })
  else (c, result)

/-- The bits-per-sample selection, from the local table only: this field is not sent
over the air. -/
def selectBitsPerSample (c : AacCodec) (result : AacCie) : Option (AacCodec × AacCie) :=
  let bitsPerSample := caps.bitsPerSample
  let c := { c with
    codecConfig := { c.codecConfig with bitsPerSample := btavA2dpCodecBitsPerSampleNone } }
  let (c, result) := userBitsPerSample bitsPerSample c result
  let c := { c with
    codecSelectableCapability := { c.codecSelectableCapability with
      bitsPerSample := caps.bitsPerSample } }
  let (c, result) :=
    if c.codecConfig.bitsPerSample ≠ btavA2dpCodecBitsPerSampleNone then (c, result) else
    let c := { c with codecCapability := { c.codecCapability with bitsPerSample := bitsPerSample } }
    firstSelection c result
      [selectAudioBitsPerSample c.codecAudioConfig caps.bitsPerSample,
        selectBestBitsPerSample a2dpAacDefaultConfig.bitsPerSample,
        selectBestBitsPerSample caps.bitsPerSample]
  if c.codecConfig.bitsPerSample = btavA2dpCodecBitsPerSampleNone then none
  else some (c, result)

/-- The `switch (codec_user_config_.channel_mode)`. -/
def userChannelMode (channelMode : UInt8) (c : AacCodec) (result : AacCie) :
    AacCodec × AacCie :=
  let user := c.codecUserConfig.channelMode
  match aacChannelModes.find? (·.2 = user) with
  | some (mode, _) =>
    if channelMode &&& mode ≠ 0 then
      ({ c with
          codecCapability := { c.codecCapability with channelMode := user }
          codecConfig := { c.codecConfig with channelMode := user } },
        { result with channelMode := mode })
    else (c, result)
  | none =>
    if user = btavA2dpCodecChannelModeNone then
      ({ c with
          codecCapability := { c.codecCapability with channelMode := btavA2dpCodecChannelModeNone }
          codecConfig := { c.codecConfig with channelMode := btavA2dpCodecChannelModeNone } },
        result)
    else (c, result)

/-- The channel-mode selection; `none` is the `goto fail`. -/
def selectChannelMode (c : AacCodec) (result : AacCie) : Option (AacCodec × AacCie) :=
  let channelMode := caps.channelMode &&& peer.channelMode
  let c := { c with
    codecConfig := { c.codecConfig with channelMode := btavA2dpCodecChannelModeNone } }
  let (c, result) := userChannelMode channelMode c result
  let c := { c with
    codecSelectableCapability := { c.codecSelectableCapability with
      channelMode := c.codecSelectableCapability.channelMode ||| btavChannelModes channelMode } }
  let (c, result) :=
    if c.codecConfig.channelMode ≠ btavA2dpCodecChannelModeNone then (c, result) else
    let c := { c with
      codecCapability := { c.codecCapability with
        channelMode := c.codecCapability.channelMode ||| btavChannelModes channelMode } }
    firstSelection c result
      [selectAudioChannelMode c.codecAudioConfig channelMode,
        selectBestChannelMode (a2dpAacDefaultConfig.channelMode &&& peer.channelMode),
        selectBestChannelMode channelMode]
  if c.codecConfig.channelMode = btavA2dpCodecChannelModeNone then none else some (c, result)

end Steps

/-- The copy of the non-zero codec-specific fields of the user configuration. A VBR
mode is taken only when both sides support VBR, and `AACENC_BR_MODE_VBR_C` turns it
off in the result. -/
def copyCodecSpecific (c : AacCodec) (result : AacCie) : AacCodec × AacCie :=
  let user := c.codecUserConfig
  let (specific1, result) :=
    if user.codecSpecific1 = 0 then (c.codecConfig.codecSpecific1, result)
    else if result.variableBitRateSupport ≠ a2dpAacVariableBitRateDisabled then
      if user.codecSpecific1 = aacencBrModeVbrC then
        (user.codecSpecific1,
          { result with variableBitRateSupport := a2dpAacVariableBitRateDisabled })
      else if user.codecSpecific1 ∈ [aacencBrModeVbr1, aacencBrModeVbr2, aacencBrModeVbr3,
          aacencBrModeVbr4, aacencBrModeVbr5] then (user.codecSpecific1, result)
      else (aacencBrModeVbr5, result)
    else (aacencBrModeCbr, result)
  let keep := fun (userValue value : Int) => if userValue ≠ 0 then userValue else value
  ({ c with
      codecConfig := { c.codecConfig with
        codecSpecific1 := specific1
        codecSpecific2 := keep user.codecSpecific2 c.codecConfig.codecSpecific2
        codecSpecific3 := keep user.codecSpecific3 c.codecConfig.codecSpecific3
        codecSpecific4 := keep user.codecSpecific4 c.codecConfig.codecSpecific4 } },
    result)

/-- Everything between the parse and the first build: `none` is one of the three
`goto fail` of the field selections. -/
def selectConfig (caps peer : AacCie) (c : AacCodec) : Option (AacCodec × AacCie) := do
  let (c, result) := initialResult caps peer c
  let (c, result) ← selectSampleRate caps peer c result
  let (c, result) ← selectBitsPerSample caps c result
  let (c, result) ← selectChannelMode caps peer c result
  return copyCodecSpecific c result

/-- The local copies of the peer's element and of the result. `none` is a `CHECK` that
aborts. -/
def storeOtaCodecInfo (c : AacCodec) (peer result : AacCie) (isCapability : Bool) :
    Option AacCodec :=
  let (peerStatus, peerBytes) := buildInfoAac avdtMediaTypeAudio peer
  let c := if isCapability then
      { c with otaCodecPeerCapability := storeBytes c.otaCodecPeerCapability peerBytes }
    else { c with otaCodecPeerConfig := storeBytes c.otaCodecPeerConfig peerBytes }
  if peerStatus ≠ a2dpSuccess then none else
  let (status, bytes) := buildInfoAac avdtMediaTypeAudio result
  if status ≠ a2dpSuccess then none else
  some { c with otaCodecConfig := storeBytes c.otaCodecConfig bytes }

/-- `A2dpCodecConfigAacBase::setCodecConfig`: the returned flag, the object after the
call and the caller's result buffer. Every `goto fail` returns the object saved at
entry, with the result buffer as the failed build left it. -/
def setCodecConfig (vbrSupported : Bool) (c : AacCodec) (peerCodecInfo : List UInt8)
    (isCapability : Bool) (resultCodecConfig : List UInt8) :
    Option (Bool × AacCodec × List UInt8) :=
  let caps := c.caps vbrSupported
  match parseInfoAac peerCodecInfo isCapability with
  | .error _ => some (false, c, resultCodecConfig)
  | .ok peer =>
    match selectConfig caps peer c with
    | none => some (false, c, resultCodecConfig)
    | some (c', result) =>
      let (status, written) := buildInfoAac avdtMediaTypeAudio result
      let resultCodecConfig := storeBytes resultCodecConfig written
      if status ≠ a2dpSuccess then some (false, c, resultCodecConfig) else
      (storeOtaCodecInfo c' peer result isCapability).map fun c' => (true, c', resultCodecConfig)

end Bluedroid.A2dp
