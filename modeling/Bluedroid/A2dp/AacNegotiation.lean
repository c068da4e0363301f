import Bluedroid.A2dp.Aac

/-!
# What AAC negotiation guarantees

The lemmas follow `setCodecConfig` from the bottom up. `parseInfoAac_ne_zero` and
`buildInfoAac_status` relate the element's parse and build. Each `select_*` helper and
each `switch` on the user configuration gets one inversion lemma. `firstSelection_cases`
covers a whole cascade, and the three field steps are assembled in
`selectConfig_negotiated`. The main results:

* `setCodecConfig_isSome`: neither `CHECK` fires, so the call always returns;
* `setCodecConfig_restores`: a call that returns false leaves the object as it was;
* `negotiated_object_type_outside_peer`: a call that returns true writes the local
  table's object type (MPEG-2 LC) whatever the peer offered. If the peer offered only
  other object types, the written object type is one the peer does not have;
* `negotiated_config_sound`: the rest of what such a call writes is sound. The two
  buffers agree, the element parses back as a configuration, and its sample rate and
  channel mode are offered by both sides.
-/

namespace Bluedroid.A2dp

set_option autoImplicit false

/-! ## The element -/

theorem a2dpBitsSet_eq_zero_iff {num : UInt64} : a2dpBitsSet num = a2dpSetZeroBit ↔ num = 0 := by
  unfold a2dpBitsSet
  split
  · exact iff_of_true rfl ‹_›
  · split <;> exact iff_of_false (by decide) ‹_›

theorem checkAacFields_ok {bad : UInt8 → Prop} [DecidablePred bad] {ie ie' : AacCie}
    (h : checkAacFields bad ie = .ok ie') :
    ie' = ie ∧ ¬bad (a2dpBitsSet ie.objectType.toUInt64) ∧
      ¬bad (a2dpBitsSet ie.sampleRate.toUInt64) ∧ ¬bad (a2dpBitsSet ie.channelMode.toUInt64) := by
  unfold checkAacFields at h
  split at h
  · cases h
  split at h
  · cases h
  split at h
  · cases h
  cases h
  exact ⟨rfl, ‹_›, ‹_›, ‹_›⟩

theorem checkAacFields_ne_zero {bad : UInt8 → Prop} [DecidablePred bad] {ie ie' : AacCie}
    (someBit : ∀ bits, ¬bad bits → bits ≠ a2dpSetZeroBit) (h : checkAacFields bad ie = .ok ie') :
    ie'.objectType ≠ 0 ∧ ie'.sampleRate ≠ 0 ∧ ie'.channelMode ≠ 0 := by
  obtain ⟨rfl, objectType, sampleRate, channelMode⟩ := checkAacFields_ok h
  have objectType := mt a2dpBitsSet_eq_zero_iff.2 (someBit _ objectType)
  have sampleRate := mt a2dpBitsSet_eq_zero_iff.2 (someBit _ sampleRate)
  have channelMode := mt a2dpBitsSet_eq_zero_iff.2 (someBit _ channelMode)
  exact ⟨fun zero => objectType (zero ▸ rfl), fun zero => sampleRate (zero ▸ rfl),
    fun zero => channelMode (zero ▸ rfl)⟩

theorem parseInfoAac_ne_zero {codecInfo : List UInt8} {isCapability : Bool} {ie : AacCie}
    (h : parseInfoAac codecInfo isCapability = .ok ie) :
    ie.objectType ≠ 0 ∧ ie.sampleRate ≠ 0 ∧ ie.channelMode ≠ 0 := by
  unfold parseInfoAac at h
  dsimp only at h
  split at h
  · cases h
  split at h
  · cases h
  split at h
  · exact checkAacFields_ne_zero (fun _ => id) h
  · exact checkAacFields_ne_zero (fun bits notOne zero => notOne (zero ▸ by decide)) h

theorem buildInfoAac_eq (mediaType : UInt8) {ie : AacCie} (objectType : ie.objectType ≠ 0)
    (sampleRate : ie.sampleRate ≠ 0) (channelMode : ie.channelMode ≠ 0) :
    buildInfoAac mediaType ie = (a2dpSuccess,
      [a2dpAacCodecLen, mediaType <<< 4, a2dpMediaCtAac, ie.objectType,
        (ie.sampleRate &&& a2dpAacSamplingFreqMask0).toUInt8,
        ((ie.sampleRate &&& a2dpAacSamplingFreqMask1) >>> 8).toUInt8 |||
          (ie.channelMode &&& a2dpAacChannelModeMask),
        (ie.variableBitRateSupport &&& a2dpAacVariableBitRateMask) |||
          ((ie.bitRate &&& a2dpAacBitRateMask0) >>> 16).toUInt8,
        ((ie.bitRate &&& a2dpAacBitRateMask1) >>> 8).toUInt8,
        (ie.bitRate &&& a2dpAacBitRateMask2).toUInt8]) := by
  unfold buildInfoAac
  rw [if_neg objectType, if_neg sampleRate, if_neg channelMode]
  rfl

theorem buildInfoAac_status {mediaType : UInt8} {ie : AacCie} (objectType : ie.objectType ≠ 0)
    (sampleRate : ie.sampleRate ≠ 0) (channelMode : ie.channelMode ≠ 0) :
    (buildInfoAac mediaType ie).1 = a2dpSuccess := by
  rw [buildInfoAac_eq mediaType objectType sampleRate channelMode]

theorem buildInfoAac_objectType (mediaType : UInt8) {ie : AacCie} (buffer : List UInt8)
    (objectType : ie.objectType ≠ 0) :
    (storeBytes buffer (buildInfoAac mediaType ie).2).getD 3 0 = ie.objectType := by
  unfold buildInfoAac storeBytes
  dsimp only
  rw [if_neg objectType]
  split
  · rfl
  split <;> rfl

theorem parseInfoAac_header (objectType rateLow rateHigh byte6 byte7 byte8 : UInt8)
    (rest : List UInt8) :
    parseInfoAac ([a2dpAacCodecLen, avdtMediaTypeAudio <<< 4, a2dpMediaCtAac, objectType, rateLow,
        rateHigh, byte6, byte7, byte8] ++ rest) false =
      checkAacFields (· ≠ a2dpSetOneBit)
        { objectType
          sampleRate := (rateLow.toUInt16 &&& a2dpAacSamplingFreqMask0) |||
            (rateHigh.toUInt16 <<< 8 &&& a2dpAacSamplingFreqMask1)
          channelMode := rateHigh &&& a2dpAacChannelModeMask
          variableBitRateSupport := byte6 &&& a2dpAacVariableBitRateMask
          bitRate := (byte6.toUInt32 <<< 16 &&& a2dpAacBitRateMask0) |||
            (byte7.toUInt32 <<< 8 &&& a2dpAacBitRateMask1) ||| (byte8.toUInt32 &&& a2dpAacBitRateMask2)
          bitsPerSample := btavA2dpCodecBitsPerSampleNone } := by
  unfold parseInfoAac
  simp only [List.cons_append, List.getD_cons_zero, List.getD_cons_succ]
  rw [if_neg (by decide), if_neg (by decide)]
  rfl

theorem checkAacFields_configuration {ie : AacCie}
    (objectType : a2dpBitsSet ie.objectType.toUInt64 = a2dpSetOneBit)
    (sampleRate : a2dpBitsSet ie.sampleRate.toUInt64 = a2dpSetOneBit)
    (channelMode : a2dpBitsSet ie.channelMode.toUInt64 = a2dpSetOneBit) :
    checkAacFields (· ≠ a2dpSetOneBit) ie = .ok ie := by
  simp only [checkAacFields, objectType, sampleRate, channelMode, ne_eq, not_true_eq_false,
    if_false]

/-- The sample rates and channel modes AAC selects survive `A2DP_BuildInfoAac`'s packing
into two shared bytes, and each is a single bit. -/
theorem sampleRate_channelMode_round_trip :
    ∀ freq ∈ aacSampleRates.map Prod.fst, ∀ mode ∈ aacChannelModes.map Prod.fst,
      let rateLow := (freq &&& a2dpAacSamplingFreqMask0).toUInt8
      let rateHigh := ((freq &&& a2dpAacSamplingFreqMask1) >>> 8).toUInt8 |||
        (mode &&& a2dpAacChannelModeMask)
      ((rateLow.toUInt16 &&& a2dpAacSamplingFreqMask0) |||
          (rateHigh.toUInt16 <<< 8 &&& a2dpAacSamplingFreqMask1)) = freq ∧
        rateHigh &&& a2dpAacChannelModeMask = mode ∧
        a2dpBitsSet freq.toUInt64 = a2dpSetOneBit ∧ a2dpBitsSet mode.toUInt64 = a2dpSetOneBit := by
  simp only [aacSampleRates, aacChannelModes, List.map_cons, List.map_nil, List.mem_cons,
    List.not_mem_nil, or_false]
  rintro freq (rfl | rfl | rfl | rfl) mode (rfl | rfl) <;> decide

theorem storeOtaCodecInfo_eq (c : AacCodec) {peer result : AacCie} (isCapability : Bool)
    (peerBuilt : (buildInfoAac avdtMediaTypeAudio peer).1 = a2dpSuccess)
    (built : (buildInfoAac avdtMediaTypeAudio result).1 = a2dpSuccess) :
    ∃ c', storeOtaCodecInfo c peer result isCapability = some c' ∧
      c'.otaCodecConfig =
        storeBytes c.otaCodecConfig (buildInfoAac avdtMediaTypeAudio result).2 := by
  unfold storeOtaCodecInfo
  dsimp only
  rw [if_neg (not_not.2 peerBuilt), if_neg (not_not.2 built)]
  split <;> exact ⟨_, rfl, rfl⟩


/-! ## What each helper can select -/

/-- `result'` is `result` with one field set by `set` to a bit of `table` that `mask` has. -/
def FieldChoice {α β : Type} [AndOp α] [OfNat α 0] (table : List (α × β))
    (set : α → AacCie → AacCie) (mask : α) (result result' : AacCie) : Prop :=
  ∃ bit value, (bit, value) ∈ table ∧ mask &&& bit ≠ 0 ∧ result' = set bit result

/-- A sample-rate selection: the rate is one of `aacSampleRates` with its bit in `mask`. -/
def SampleRateChoice (mask : UInt16) : AacCie → AacCie → Prop :=
  FieldChoice aacSampleRates (fun freq result => { result with sampleRate := freq }) mask

/-- A channel-mode selection. -/
def ChannelModeChoice (mask : UInt8) : AacCie → AacCie → Prop :=
  FieldChoice aacChannelModes (fun mode result => { result with channelMode := mode }) mask

section FieldChoice
variable {α β : Type} [AndOp α] [OfNat α 0] {table : List (α × β)} {set : α → AacCie → AacCie}
  {mask : α} {result result' result'' : AacCie}

theorem FieldChoice.trans (overwrites : ∀ bit bit' result, set bit' (set bit result) = set bit' result)
    (first : FieldChoice table set mask result result')
    (second : FieldChoice table set mask result' result'') :
    FieldChoice table set mask result result'' := by
  obtain ⟨bit, _, _, _, rfl⟩ := first
  obtain ⟨bit', value', mem, ne, rfl⟩ := second
  exact ⟨bit', value', mem, ne, overwrites bit bit' result⟩

theorem FieldChoice.widen {mask' : α} (wider : ∀ bit, mask &&& bit ≠ 0 → mask' &&& bit ≠ 0)
    (choice : FieldChoice table set mask result result') :
    FieldChoice table set mask' result result' := by
  obtain ⟨bit, value, mem, ne, rfl⟩ := choice
  exact ⟨bit, value, mem, wider bit ne, rfl⟩

end FieldChoice

theorem UInt16.and_and_ne_zero_of_within {preferred caps peer bit : UInt16}
    (within : preferred &&& caps = preferred) (ne : preferred &&& peer &&& bit ≠ 0) :
    caps &&& peer &&& bit ≠ 0 := by
  intro zero
  apply ne
  rw [← within, UInt16.and_assoc preferred, UInt16.and_assoc preferred, zero, UInt16.and_zero]

theorem UInt8.and_and_ne_zero_of_within {preferred caps peer bit : UInt8}
    (within : preferred &&& caps = preferred) (ne : preferred &&& peer &&& bit ≠ 0) :
    caps &&& peer &&& bit ≠ 0 := by
  intro zero
  apply ne
  rw [← within, UInt8.and_assoc preferred, UInt8.and_assoc preferred, zero, UInt8.and_zero]

section Helpers
variable {result : AacCie} {config : CodecConfig} {outcome : AacCie × CodecConfig}

theorem firstSelection_cases {c : AacCodec} {selection : AacCodec × AacCie}
    {helpers : List (AacCie → CodecConfig → Option (AacCie × CodecConfig))}
    {Q : AacCie × CodecConfig → Prop} (h : firstSelection c result helpers = selection)
    (spec : ∀ helper ∈ helpers, ∀ outcome, helper result c.codecConfig = some outcome → Q outcome) :
    selection = (c, result) ∨
      ∃ outcome, Q outcome ∧ selection = ({ c with codecConfig := outcome.2 }, outcome.1) := by
  subst h
  unfold firstSelection
  split
  · rename_i chosen found
    obtain ⟨helper, mem, chose⟩ := List.exists_of_findSome?_eq_some found
    exact .inr ⟨_, spec helper mem _ chose, rfl⟩
  · exact .inl rfl

theorem selectBestSampleRate_choice {sampleRate : UInt16}
    (h : selectBestSampleRate sampleRate result config = some outcome) :
    SampleRateChoice sampleRate result outcome.1 := by
  unfold selectBestSampleRate at h
  split at h
  · cases h; exact ⟨_, btavA2dpCodecSampleRate96000, by decide, ‹_›, rfl⟩
  split at h
  · cases h; exact ⟨_, btavA2dpCodecSampleRate88200, by decide, ‹_›, rfl⟩
  split at h
  · cases h; exact ⟨_, btavA2dpCodecSampleRate48000, by decide, ‹_›, rfl⟩
  split at h
  · cases h; exact ⟨_, btavA2dpCodecSampleRate44100, by decide, ‹_›, rfl⟩
  · cases h

theorem selectAudioSampleRate_choice {audioConfig : CodecConfig} {sampleRate : UInt16}
    (h : selectAudioSampleRate audioConfig sampleRate result config = some outcome) :
    SampleRateChoice sampleRate result outcome.1 := by
  unfold selectAudioSampleRate at h
  split at h
  · rename_i freq rate found
    split at h
    · cases h; exact ⟨freq, rate, List.mem_of_find?_eq_some found, ‹_›, rfl⟩
    · cases h
  · cases h

theorem userSampleRate_cases (sampleRate : UInt16) (c : AacCodec) (result : AacCie)
    (none : c.codecConfig.sampleRate = btavA2dpCodecSampleRateNone) :
    ((userSampleRate sampleRate c result).1.codecConfig.sampleRate = btavA2dpCodecSampleRateNone ∧
      (userSampleRate sampleRate c result).2 = result) ∨
      SampleRateChoice sampleRate result (userSampleRate sampleRate c result).2 := by
  unfold userSampleRate
  dsimp only
  split
  · rename_i freq rate found
    split
    · exact .inr ⟨freq, _, List.mem_of_find?_eq_some found, ‹_›, rfl⟩
    · exact .inl ⟨none, rfl⟩
  · split
    · exact .inl ⟨rfl, rfl⟩
    · exact .inl ⟨none, rfl⟩

theorem selectBestChannelMode_choice {channelMode : UInt8}
    (h : selectBestChannelMode channelMode result config = some outcome) :
    ChannelModeChoice channelMode result outcome.1 := by
  unfold selectBestChannelMode at h
  split at h
  · cases h; exact ⟨_, btavA2dpCodecChannelModeStereo, by decide, ‹_›, rfl⟩
  split at h
  · cases h; exact ⟨_, btavA2dpCodecChannelModeMono, by decide, ‹_›, rfl⟩
  · cases h

theorem selectAudioChannelMode_choice {audioConfig : CodecConfig} {channelMode : UInt8}
    (h : selectAudioChannelMode audioConfig channelMode result config = some outcome) :
    ChannelModeChoice channelMode result outcome.1 := by
  unfold selectAudioChannelMode at h
  split at h
  · rename_i mode btavMode found
    split at h
    · cases h; exact ⟨mode, btavMode, List.mem_of_find?_eq_some found, ‹_›, rfl⟩
    · cases h
  · cases h

theorem userChannelMode_cases (channelMode : UInt8) (c : AacCodec) (result : AacCie)
    (none : c.codecConfig.channelMode = btavA2dpCodecChannelModeNone) :
    ((userChannelMode channelMode c result).1.codecConfig.channelMode =
        btavA2dpCodecChannelModeNone ∧ (userChannelMode channelMode c result).2 = result) ∨
      ChannelModeChoice channelMode result (userChannelMode channelMode c result).2 := by
  unfold userChannelMode
  dsimp only
  split
  · rename_i mode btavMode found
    split
    · exact .inr ⟨mode, _, List.mem_of_find?_eq_some found, ‹_›, rfl⟩
    · exact .inl ⟨none, rfl⟩
  · split
    · exact .inl ⟨rfl, rfl⟩
    · exact .inl ⟨none, rfl⟩

theorem selectBestBitsPerSample_frame {bitsPerSample : UInt32}
    (h : selectBestBitsPerSample bitsPerSample result config = some outcome) :
    ∃ bits, outcome.1 = { result with bitsPerSample := bits } := by
  unfold selectBestBitsPerSample at h
  dsimp only at h
  split at h
  · cases h; exact ⟨_, rfl⟩
  split at h
  · cases h; exact ⟨_, rfl⟩
  split at h
  · cases h; exact ⟨_, rfl⟩
  · cases h

theorem selectAudioBitsPerSample_frame {audioConfig : CodecConfig} {bitsPerSample : UInt32}
    (h : selectAudioBitsPerSample audioConfig bitsPerSample result config = some outcome) :
    ∃ bits, outcome.1 = { result with bitsPerSample := bits } := by
  unfold selectAudioBitsPerSample at h
  dsimp only at h
  split at h
  · cases h; exact ⟨_, rfl⟩
  · cases h

theorem userBitsPerSample_frame (bitsPerSample : UInt32) (c : AacCodec) (result : AacCie) :
    ∃ bits, (userBitsPerSample bitsPerSample c result).2 = { result with bitsPerSample := bits } := by
  unfold userBitsPerSample
  dsimp only
  split
  · split
    · exact ⟨_, rfl⟩
    · exact ⟨_, rfl⟩
  · split
    · exact ⟨_, rfl⟩
    · exact ⟨_, rfl⟩

end Helpers

/-! ## The three cascades -/

/-- How each field selection ends. `field` is the field of `codec_config_` the selection
sets, `u` the object and element after the user's `switch`, `kept` the object after the
selectable capability is computed, and `ran` the object the cascade starts from. The
user's choice stands if it set the field, otherwise the cascade's first selection does,
and a field still unset is the `goto fail`. -/
theorem cascade_choice {R : AacCie → AacCie → Prop} (field : AacCodec → UInt32) {unset : UInt32}
    {result result' : AacCie} {u : AacCodec × AacCie} {kept ran c' : AacCodec}
    {helpers : List (AacCie → CodecConfig → Option (AacCie × CodecConfig))}
    (trans : ∀ {between}, R result between → R between result' → R result result')
    (user : field u.1 = unset ∧ u.2 = result ∨ R result u.2)
    (keptField : field kept = field u.1) (ranField : field ran = field u.1)
    (spec : ∀ helper ∈ helpers, ∀ outcome,
      helper u.2 ran.codecConfig = some outcome → R u.2 outcome.1)
    (h : (if field (if field u.1 ≠ unset then (kept, u.2)
            else firstSelection ran u.2 helpers).1 = unset then none
          else some (if field u.1 ≠ unset then (kept, u.2)
            else firstSelection ran u.2 helpers)) = some (c', result')) :
    R result result' := by
  by_cases keep : field u.1 = unset
  · rw [if_neg (not_not.2 keep)] at h
    generalize chosen : firstSelection ran u.2 helpers = selection at h
    rcases firstSelection_cases (Q := fun outcome => R u.2 outcome.1) chosen spec with
      rfl | ⟨outcome, choice, rfl⟩
    · rw [ranField, if_pos keep] at h
      cases h
    · split at h
      · cases h
      · cases h
        rcases user with ⟨-, same⟩ | earlier
        · exact same ▸ choice
        · exact trans earlier choice
  · rw [if_pos keep] at h
    dsimp only at h
    rw [keptField, if_neg keep] at h
    cases h
    rcases user with ⟨unset, -⟩ | chose
    · exact absurd unset keep
    · exact chose

section Steps
variable {caps peer result result' : AacCie} {c c' : AacCodec}

theorem selectSampleRate_choice
    (within : a2dpAacDefaultConfig.sampleRate &&& caps.sampleRate = a2dpAacDefaultConfig.sampleRate)
    (h : selectSampleRate caps peer c result = some (c', result')) :
    SampleRateChoice (caps.sampleRate &&& peer.sampleRate) result result' := by
  have user := userSampleRate_cases (caps.sampleRate &&& peer.sampleRate)
    { c with codecConfig := { c.codecConfig with sampleRate := btavA2dpCodecSampleRateNone } }
    result rfl
  revert user h
  unfold selectSampleRate
  dsimp only
  generalize userSampleRate _ _ result = u
  intro h user
  refine cascade_choice (fun c => c.codecConfig.sampleRate)
    (fun earlier choice => earlier.trans (fun _ _ _ => rfl) choice) user (by rfl) (by rfl) ?_ h
  intro helper mem outcome selected
  simp only [List.mem_cons, List.not_mem_nil, or_false] at mem
  rcases mem with rfl | rfl | rfl
  · exact selectAudioSampleRate_choice selected
  · exact (selectBestSampleRate_choice selected).widen
      fun _ => UInt16.and_and_ne_zero_of_within within
  · exact selectBestSampleRate_choice selected

theorem selectChannelMode_choice
    (within : a2dpAacDefaultConfig.channelMode &&& caps.channelMode = a2dpAacDefaultConfig.channelMode)
    (h : selectChannelMode caps peer c result = some (c', result')) :
    ChannelModeChoice (caps.channelMode &&& peer.channelMode) result result' := by
  have user := userChannelMode_cases (caps.channelMode &&& peer.channelMode)
    { c with codecConfig := { c.codecConfig with channelMode := btavA2dpCodecChannelModeNone } }
    result rfl
  revert user h
  unfold selectChannelMode
  dsimp only
  generalize userChannelMode _ _ result = u
  intro h user
  refine cascade_choice (fun c => c.codecConfig.channelMode)
    (fun earlier choice => earlier.trans (fun _ _ _ => rfl) choice) user (by rfl) (by rfl) ?_ h
  intro helper mem outcome selected
  simp only [List.mem_cons, List.not_mem_nil, or_false] at mem
  rcases mem with rfl | rfl | rfl
  · exact selectAudioChannelMode_choice selected
  · exact (selectBestChannelMode_choice selected).widen
      fun _ => UInt8.and_and_ne_zero_of_within within
  · exact selectBestChannelMode_choice selected

theorem selectBitsPerSample_frame (h : selectBitsPerSample caps c result = some (c', result')) :
    ∃ bits, result' = { result with bitsPerSample := bits } := by
  have user := userBitsPerSample_frame caps.bitsPerSample
    { c with
      codecConfig := { c.codecConfig with bitsPerSample := btavA2dpCodecBitsPerSampleNone } }
    result
  revert user h
  unfold selectBitsPerSample
  dsimp only
  generalize userBitsPerSample _ _ result = u
  intro h user
  refine cascade_choice (R := fun result result' => ∃ bits, result' = { result with bitsPerSample := bits })
    (fun c => c.codecConfig.bitsPerSample)
    (fun ⟨_, earlier⟩ ⟨bits, later⟩ => ⟨bits, by rw [later, earlier]⟩) (.inr user) (by rfl) (by rfl) ?_ h
  intro helper mem outcome selected
  simp only [List.mem_cons, List.not_mem_nil, or_false] at mem
  rcases mem with rfl | rfl | rfl
  · exact selectAudioBitsPerSample_frame selected
  · exact selectBestBitsPerSample_frame selected
  · exact selectBestBitsPerSample_frame selected

theorem copyCodecSpecific_frame (c : AacCodec) (result : AacCie) :
    (copyCodecSpecific c result).2 = result ∨
      (copyCodecSpecific c result).2 =
        { result with variableBitRateSupport := a2dpAacVariableBitRateDisabled } := by
  unfold copyCodecSpecific
  dsimp only
  split
  · exact .inl rfl
  · split
    · split
      · exact .inr rfl
      · split <;> exact .inl rfl
    · exact .inl rfl

theorem initialResult_bitRate_le (caps peer : AacCie) (c : AacCodec) :
    (initialResult caps peer c).2.bitRate ≤ caps.bitRate := by
  unfold initialResult
  dsimp only
  split
  · exact UInt32.le_refl _
  · exact Std.min_le_left

end Steps


/-- What a successful selection guarantees of the result element: the local table's
object type, a sample rate and a channel mode that both sides offer, the VBR support of
both sides or none, and a bit rate no higher than the local one. -/
structure Negotiated (caps peer result : AacCie) : Prop where
  objectType : result.objectType = caps.objectType
  sampleRate : ∃ freq rate, (freq, rate) ∈ aacSampleRates ∧
    caps.sampleRate &&& peer.sampleRate &&& freq ≠ 0 ∧ result.sampleRate = freq
  channelMode : ∃ mode btavMode, (mode, btavMode) ∈ aacChannelModes ∧
    caps.channelMode &&& peer.channelMode &&& mode ≠ 0 ∧ result.channelMode = mode
  variableBitRate : result.variableBitRateSupport =
      caps.variableBitRateSupport &&& peer.variableBitRateSupport ∨
    result.variableBitRateSupport = a2dpAacVariableBitRateDisabled
  bitRate : result.bitRate ≤ caps.bitRate

/-- Every local table contains the default configuration's sample rate and channel mode,
which the cascades offer without checking them against the table. -/
theorem AacCodec.caps_within (c : AacCodec) (vbrSupported : Bool) :
    a2dpAacDefaultConfig.sampleRate &&& (c.caps vbrSupported).sampleRate =
        a2dpAacDefaultConfig.sampleRate ∧
      a2dpAacDefaultConfig.channelMode &&& (c.caps vbrSupported).channelMode =
        a2dpAacDefaultConfig.channelMode := by
  unfold AacCodec.caps aacSourceCapsInitialize
  split
  · split <;> decide
  · decide

theorem AacCodec.caps_objectType (c : AacCodec) (vbrSupported : Bool) :
    (c.caps vbrSupported).objectType = a2dpAacObjectTypeMpeg2Lc := by
  unfold AacCodec.caps aacSourceCapsInitialize
  split
  · split <;> rfl
  · rfl

section Select
variable {caps peer result : AacCie} {c c' : AacCodec}

theorem selectConfig_negotiated
    (rates : a2dpAacDefaultConfig.sampleRate &&& caps.sampleRate = a2dpAacDefaultConfig.sampleRate)
    (modes : a2dpAacDefaultConfig.channelMode &&& caps.channelMode =
      a2dpAacDefaultConfig.channelMode)
    (h : selectConfig caps peer c = some (c', result)) : Negotiated caps peer result := by
  unfold selectConfig at h
  dsimp only at h
  obtain ⟨⟨c₁, r₁⟩, rated, h⟩ := Option.bind_eq_some_iff.1 h
  obtain ⟨⟨c₂, r₂⟩, sized, h⟩ := Option.bind_eq_some_iff.1 h
  obtain ⟨⟨c₃, r₃⟩, moded, h⟩ := Option.bind_eq_some_iff.1 h
  have copied : (copyCodecSpecific c₃ r₃).2 = result := congrArg Prod.snd (Option.some.inj h)
  obtain ⟨freq, rate, rateMem, rateBit, rfl⟩ := selectSampleRate_choice rates rated
  obtain ⟨bits, rfl⟩ := selectBitsPerSample_frame sized
  obtain ⟨mode, btavMode, modeMem, modeBit, rfl⟩ := selectChannelMode_choice modes moded
  have bitRate := initialResult_bitRate_le caps peer c
  rcases copyCodecSpecific_frame c₃ _ with same | off
  · rw [same] at copied
    subst copied
    exact ⟨rfl, ⟨freq, rate, rateMem, rateBit, rfl⟩, ⟨mode, btavMode, modeMem, modeBit, rfl⟩,
      .inl rfl, bitRate⟩
  · rw [off] at copied
    subst copied
    exact ⟨rfl, ⟨freq, rate, rateMem, rateBit, rfl⟩, ⟨mode, btavMode, modeMem, modeBit, rfl⟩,
      .inr rfl, bitRate⟩

end Select

/-! ## `setCodecConfig` -/

section SetCodecConfig
variable {vbrSupported isCapability : Bool} {c c' : AacCodec}
  {peerCodecInfo resultCodecConfig resultCodecConfig' : List UInt8}

/-- Neither `CHECK` of `setCodecConfig` fires: the call always returns. -/
theorem setCodecConfig_isSome (vbrSupported : Bool) (c : AacCodec) (peerCodecInfo : List UInt8)
    (isCapability : Bool) (resultCodecConfig : List UInt8) :
    (setCodecConfig vbrSupported c peerCodecInfo isCapability resultCodecConfig).isSome := by
  unfold setCodecConfig
  dsimp only
  split
  · rfl
  · rename_i peer parsed
    split
    · rfl
    · rename_i c₁ result _
      split
      · rfl
      · rename_i built
        obtain ⟨objectType, sampleRate, channelMode⟩ := parseInfoAac_ne_zero parsed
        obtain ⟨c₂, stored, -⟩ := storeOtaCodecInfo_eq c₁ isCapability
          (buildInfoAac_status objectType sampleRate channelMode) (not_not.1 built)
        rw [stored]
        rfl

/-- A call whose flag is true, with the object and buffer it returns. -/
theorem setCodecConfig_eq_true (vbrSupported : Bool) (c : AacCodec) (peerCodecInfo : List UInt8)
    (isCapability : Bool) (resultCodecConfig : List UInt8)
    (flag : (setCodecConfig vbrSupported c peerCodecInfo isCapability resultCodecConfig).map
      (·.1) = some true) :
    ∃ c' resultCodecConfig', setCodecConfig vbrSupported c peerCodecInfo isCapability
      resultCodecConfig = some (true, c', resultCodecConfig') := by
  obtain ⟨⟨accepted, c', resultCodecConfig'⟩, returned⟩ := Option.isSome_iff_exists.1
    (setCodecConfig_isSome vbrSupported c peerCodecInfo isCapability resultCodecConfig)
  obtain rfl : accepted = true := by simpa [returned] using flag
  exact ⟨c', resultCodecConfig', returned⟩

/-- Every `goto fail` restores the eight saved members: a call that returns false
leaves the object as it was. -/
theorem setCodecConfig_restores
    (rejected : setCodecConfig vbrSupported c peerCodecInfo isCapability resultCodecConfig =
      some (false, c', resultCodecConfig')) : c' = c := by
  unfold setCodecConfig at rejected
  dsimp only at rejected
  split at rejected
  · cases rejected; rfl
  split at rejected
  · cases rejected; rfl
  split at rejected
  · cases rejected; rfl
  · obtain ⟨_, _, stored⟩ := Option.map_eq_some_iff.1 rejected
    cases stored

/-- A call that returns true parsed the peer's element, selected a configuration, and
wrote that configuration's bytes to the caller's buffer and to `ota_codec_config_`. -/
theorem setCodecConfig_accepted
    (accepted : setCodecConfig vbrSupported c peerCodecInfo isCapability resultCodecConfig =
      some (true, c', resultCodecConfig')) :
    ∃ peer c₁ result, parseInfoAac peerCodecInfo isCapability = .ok peer ∧
      selectConfig (c.caps vbrSupported) peer c = some (c₁, result) ∧
      resultCodecConfig' =
        storeBytes resultCodecConfig (buildInfoAac avdtMediaTypeAudio result).2 ∧
      c'.otaCodecConfig = storeBytes c₁.otaCodecConfig (buildInfoAac avdtMediaTypeAudio result).2 := by
  unfold setCodecConfig at accepted
  dsimp only at accepted
  split at accepted
  · cases accepted
  rename_i peer parsed
  split at accepted
  · cases accepted
  rename_i c₁ result selected
  split at accepted
  · cases accepted
  rename_i built
  obtain ⟨objectType, sampleRate, channelMode⟩ := parseInfoAac_ne_zero parsed
  obtain ⟨c₂, stored, ota⟩ := storeOtaCodecInfo_eq c₁ isCapability
    (buildInfoAac_status objectType sampleRate channelMode) (not_not.1 built)
  rw [stored] at accepted
  cases accepted
  exact ⟨peer, c₁, result, parsed, selected, rfl, ota⟩

theorem negotiated_object_type_outside_peer
    (lacks : peerCodecInfo.getD 3 0 &&& a2dpAacObjectTypeMpeg2Lc = 0)
    (accepted : setCodecConfig vbrSupported c peerCodecInfo isCapability resultCodecConfig =
      some (true, c', resultCodecConfig')) :
    resultCodecConfig'.getD 3 0 = a2dpAacObjectTypeMpeg2Lc ∧
      c'.otaCodecConfig.getD 3 0 = a2dpAacObjectTypeMpeg2Lc ∧
      resultCodecConfig'.getD 3 0 &&& peerCodecInfo.getD 3 0 = 0 := by
  obtain ⟨peer, c₁, result, -, selected, rfl, ota⟩ := setCodecConfig_accepted accepted
  obtain ⟨rates, modes⟩ := c.caps_within vbrSupported
  have objectType : result.objectType = a2dpAacObjectTypeMpeg2Lc :=
    (selectConfig_negotiated rates modes selected).objectType.trans (c.caps_objectType vbrSupported)
  have nonzero : result.objectType ≠ 0 := by rw [objectType]; decide
  have written := buildInfoAac_objectType avdtMediaTypeAudio resultCodecConfig nonzero
  rw [objectType] at written
  refine ⟨written, ?_, ?_⟩
  · rw [ota, buildInfoAac_objectType _ _ nonzero, objectType]
  · rw [written, UInt8.and_comm, lacks]

/-- A sink capability that offers only MPEG-4 LC, at 44.1 kHz stereo and 320 kbit/s,
as `A2DP_BuildInfoAac` writes it. -/
def mpeg4LcSinkCapability : List UInt8 :=
  (buildInfoAac avdtMediaTypeAudio
    ⟨a2dpAacObjectTypeMpeg4Lc, a2dpAacSamplingFreq44100, a2dpAacChannelModeStereo,
      a2dpAacVariableBitRateDisabled, a2dpAacDefaultBitrate, btavA2dpCodecBitsPerSampleNone⟩).2

theorem negotiated_object_type_outside_peer_mpeg4 :
    ∃ c' resultCodecConfig',
      mpeg4LcSinkCapability.getD 3 0 &&& a2dpAacObjectTypeMpeg2Lc = 0 ∧
      setCodecConfig false (AacCodec.new true) mpeg4LcSinkCapability true
          (List.replicate avdtCodecSize 0) = some (true, c', resultCodecConfig') ∧
      resultCodecConfig'.getD 3 0 = a2dpAacObjectTypeMpeg2Lc ∧
      c'.otaCodecConfig.getD 3 0 = a2dpAacObjectTypeMpeg2Lc ∧
      resultCodecConfig'.getD 3 0 &&& mpeg4LcSinkCapability.getD 3 0 = 0 := by
  obtain ⟨c', resultCodecConfig', returned⟩ := setCodecConfig_eq_true false (AacCodec.new true)
    mpeg4LcSinkCapability true (List.replicate avdtCodecSize 0) (by decide)
  exact ⟨c', resultCodecConfig', by decide, returned,
    negotiated_object_type_outside_peer (by decide) returned⟩

/-- Apart from its object type, what a call that returns true writes is sound. The caller's
buffer and `ota_codec_config_` start with the same element. That element parses back as a
configuration, with exactly one bit in each checked field. Its sample rate and channel
mode are offered by both the local table and the peer. -/
theorem negotiated_config_sound
    (accepted : setCodecConfig vbrSupported c peerCodecInfo isCapability resultCodecConfig =
      some (true, c', resultCodecConfig')) :
    resultCodecConfig'.take 9 = c'.otaCodecConfig.take 9 ∧
      ∃ peer config, parseInfoAac peerCodecInfo isCapability = .ok peer ∧
        parseInfoAac resultCodecConfig' false = .ok config ∧
        (c.caps vbrSupported).sampleRate &&& peer.sampleRate &&& config.sampleRate ≠ 0 ∧
        (c.caps vbrSupported).channelMode &&& peer.channelMode &&& config.channelMode ≠ 0 := by
  obtain ⟨peer, c₁, result, parsed, selected, rfl, ota⟩ := setCodecConfig_accepted accepted
  obtain ⟨rates, modes⟩ := c.caps_within vbrSupported
  obtain ⟨objectType, ⟨freq, rate, rateMem, rateBit, rateEq⟩, ⟨mode, btavMode, modeMem, modeBit,
    modeEq⟩, -, -⟩ := selectConfig_negotiated rates modes selected
  rw [c.caps_objectType vbrSupported] at objectType
  obtain ⟨rateBack, modeBack, rateOne, modeOne⟩ := sampleRate_channelMode_round_trip freq
    (List.mem_map_of_mem (f := Prod.fst) rateMem) mode (List.mem_map_of_mem (f := Prod.fst) modeMem)
  have built := buildInfoAac_eq avdtMediaTypeAudio
    (by rw [objectType]; decide : result.objectType ≠ 0)
    (by rw [rateEq]; rintro rfl; simp at rateBit) (by rw [modeEq]; rintro rfl; simp at modeBit)
  have parsedBack : ∃ config, parseInfoAac
      (storeBytes resultCodecConfig (buildInfoAac avdtMediaTypeAudio result).2) false = .ok config ∧
      config.sampleRate = freq ∧ config.channelMode = mode := by
    rw [storeBytes, built, parseInfoAac_header, rateEq, modeEq, rateBack, modeBack,
      checkAacFields_configuration (by rw [objectType]; decide) rateOne modeOne]
    exact ⟨_, rfl, rfl, rfl⟩
  obtain ⟨config, parsedConfig, configRate, configMode⟩ := parsedBack
  refine ⟨?_, peer, config, parsed, parsedConfig, configRate ▸ rateBit, configMode ▸ modeBit⟩
  rw [ota, storeBytes, storeBytes, built]
  simp

/-- A peer sink that advertises the same AAC table as this stack's sink. -/
def aacSinkCapability : List UInt8 := (buildInfoAac avdtMediaTypeAudio a2dpAacSinkCaps).2

theorem negotiated_config_sound_sink :
    ∃ c' resultCodecConfig',
      setCodecConfig false (AacCodec.new true) aacSinkCapability true
          (List.replicate avdtCodecSize 0) = some (true, c', resultCodecConfig') ∧
      resultCodecConfig'.take 9 = c'.otaCodecConfig.take 9 ∧
      ∃ peer config, parseInfoAac aacSinkCapability true = .ok peer ∧
        parseInfoAac resultCodecConfig' false = .ok config ∧
        ((AacCodec.new true).caps false).sampleRate &&& peer.sampleRate &&& config.sampleRate ≠ 0 ∧
        ((AacCodec.new true).caps false).channelMode &&& peer.channelMode &&& config.channelMode ≠ 0 := by
  obtain ⟨c', resultCodecConfig', returned⟩ := setCodecConfig_eq_true false (AacCodec.new true)
    aacSinkCapability true (List.replicate avdtCodecSize 0) (by decide)
  exact ⟨c', resultCodecConfig', returned, negotiated_config_sound returned⟩

end SetCodecConfig

end Bluedroid.A2dp
