import ArStack.Lib.Throws
import ArStack.SampledValues.CompiledDeviceProfile

/-!
# The record of a device profile

A record has the fields of the profile at their offsets, and nothing else.

* `hasFields_iff` — the fields of a record
* `decodeRecord_iff` — a record is decoded exactly as the profile that it is the record of
-/

namespace ArStack.SampledValues

open ArStack.Lib

/-! ## Octets -/

section Octets

variable {source : Bytes} {offset : Nat}

theorem length_u16 (value : UInt16) : (u16 value).length = 2 := length_beOctets 2 value.toNat

theorem length_u32 (value : UInt32) : (u32 value).length = 4 := length_beOctets 4 value.toNat

theorem readU16_of_slice {value : UInt16} (h : slice source offset 2 = u16 value) :
    readU16 source offset = value := by
  have hlt : value.toNat < 256 ^ 2 := value.toNat_lt
  rw [readU16, readAt, h, u16, beValue_beOctets 2 hlt, UInt16.ofNat_toNat]

theorem readU32_of_slice {value : UInt32} (h : slice source offset 4 = u32 value) :
    readU32 source offset = value := by
  have hlt : value.toNat < 256 ^ 4 := value.toNat_lt
  rw [readU32, readAt, h, u32, beValue_beOctets 4 hlt, UInt32.ofNat_toNat]

theorem octetAt_of_slice {octet : UInt8} (h : slice source offset 1 = [octet]) :
    octetAt source offset = octet := by
  have hhead : (source.drop offset).head? = some octet := by
    rw [slice] at h
    cases hdrop : source.drop offset with
    | nil =>
      rw [hdrop] at h
      cases h
    | cons first rest =>
      rw [hdrop] at h
      obtain ⟨rfl, -⟩ := List.cons.inj h
      rfl
  rw [octetAt, List.getD_eq_getElem?_getD, ← List.head?_drop, hhead, Option.getD_some]

theorem u16_readU16 (h : offset + 2 ≤ source.length) :
    slice source offset 2 = u16 (readU16 source offset) := by
  have hlength := length_slice h
  have hlt : beValue (slice source offset 2) < 2 ^ 16 := by
    have hvalue := beValue_lt (slice source offset 2)
    rwa [hlength] at hvalue
  have hback := beOctets_beValue (slice source offset 2)
  rw [hlength] at hback
  rw [u16, readU16, readAt, UInt16.toNat_ofNat', Nat.mod_eq_of_lt hlt, hback]

theorem u32_readU32 (h : offset + 4 ≤ source.length) :
    slice source offset 4 = u32 (readU32 source offset) := by
  have hlength := length_slice h
  have hlt : beValue (slice source offset 4) < 2 ^ 32 := by
    have hvalue := beValue_lt (slice source offset 4)
    rwa [hlength] at hvalue
  have hback := beOctets_beValue (slice source offset 4)
  rw [hlength] at hback
  rw [u32, readU32, readAt, UInt32.toNat_ofNat', Nat.mod_eq_of_lt hlt, hback]

theorem slice_octetAt (h : offset < source.length) :
    slice source offset 1 = [octetAt source offset] := by
  rw [slice, octetAt, List.drop_eq_getElem_cons h, List.take_succ_cons, List.take_zero,
    List.getD_eq_getElem _ _ h]

theorem u32_eq_of_toNat {value : UInt32} {n : Nat} (h : value.toNat = n) :
    u32 value = u32 (.ofNat n) := by
  rw [← h, UInt32.ofNat_toNat]

end Octets

/-! ## The values of a field -/

theorem decode_profileFamily {profileFamily : SvProfileFamily} (h : profileFamily ≠ .unspecified) :
    decodeProfileFamily (encodeProfileFamily profileFamily) = some profileFamily := by
  cases profileFamily with
  | unspecified => exact absurd rfl h
  | iec61850_9_2 => rfl
  | legacy_9_2le => rfl
  | iec61869_9 => rfl

theorem encode_profileFamily {raw : UInt8} {profileFamily : SvProfileFamily}
    (h : decodeProfileFamily raw = some profileFamily) : encodeProfileFamily profileFamily = raw := by
  refine UInt8.toNat_inj.mp ?_
  rw [decodeProfileFamily] at h
  split at h <;> cases h <;> exact Eq.symm ‹_›

theorem decode_transportMode (transportMode : SvTransportMode) :
    decodeTransportMode (encodeTransportMode transportMode) = some transportMode := by
  cases transportMode <;> rfl

theorem encode_transportMode {raw : UInt8} {transportMode : SvTransportMode}
    (h : decodeTransportMode raw = some transportMode) : encodeTransportMode transportMode = raw := by
  refine UInt8.toNat_inj.mp ?_
  rw [decodeTransportMode] at h
  split at h <;> cases h <;> exact Eq.symm ‹_›

theorem decode_samplingBasis {samplingBasis : SvSampleMode} (h : samplingBasis ≠ .unknown) :
    decodeSamplingBasis (encodeSamplingBasis samplingBasis) = some samplingBasis := by
  cases samplingBasis with
  | unknown => exact absurd rfl h
  | samplesPerPeriod => rfl
  | samplesPerSecond => rfl
  | secondsPerSample => rfl

theorem encode_samplingBasis {raw : UInt8} {samplingBasis : SvSampleMode}
    (h : decodeSamplingBasis raw = some samplingBasis) : encodeSamplingBasis samplingBasis = raw := by
  refine UInt8.toNat_inj.mp ?_
  rw [decodeSamplingBasis] at h
  split at h <;> cases h <;> exact Eq.symm ‹_›

theorem decode_wireType (wireType : SvDeviceWireType) :
    decodeWireType wireType.toUInt8 = some wireType := by
  cases wireType <;> rfl

theorem encode_wireType {raw : UInt8} {wireType : SvDeviceWireType}
    (h : decodeWireType raw = some wireType) : wireType.toUInt8 = raw := by
  refine UInt8.toNat_inj.mp ?_
  rw [decodeWireType] at h
  split at h <;> cases h <;> exact Eq.symm ‹_›

/-- **The flags are read back.** -/
theorem decode_flags (vlanPresent : Bool) (options : SvAsduOptions) :
    (flagsFor vlanPresent options &&& kFlagVlan != 0) = vlanPresent ∧
      optionsOf (flagsFor vlanPresent options) = options ∧
      flagsFor vlanPresent options &&& ~~~kKnownFlags = 0 := by
  have hall : ∀ vlan present refresh synchronized rate dataSet security source : Bool,
      (flagsFor vlan ⟨present, refresh, synchronized, rate, dataSet, security, source⟩ &&&
        kFlagVlan != 0) = vlan ∧
      optionsOf (flagsFor vlan ⟨present, refresh, synchronized, rate, dataSet, security, source⟩) =
        ⟨present, refresh, synchronized, rate, dataSet, security, source⟩ ∧
      flagsFor vlan ⟨present, refresh, synchronized, rate, dataSet, security, source⟩ &&&
        ~~~kKnownFlags = 0 := by
    decide
  exact hall vlanPresent options.elementPresent options.refreshTime options.sampleSynchronized
    options.sampleRate options.dataSet options.security options.synchSourceId

theorem encode_flags {flags : UInt16} (h : flags &&& ~~~kKnownFlags = 0) :
    flagsFor (flags &&& kFlagVlan != 0) (optionsOf flags) = flags := by
  have hall : ∀ n : Fin 256, flagsFor (UInt16.ofNat n &&& kFlagVlan != 0)
      (optionsOf (.ofNat n)) = .ofNat n := by decide +kernel
  have hlt : flags.toNat < 2 ^ 8 := by
    refine Nat.lt_pow_two_of_testBit _ fun i hi => ?_
    rcases Nat.lt_or_ge i 16 with hlt | hge
    · have hmask : Nat.testBit 0xFF00 i = true := by
        have hbits : ∀ i : Fin 16, 8 ≤ i.val → Nat.testBit 0xFF00 i = true := by decide
        exact hbits ⟨i, hlt⟩ hi
      have hand : flags.toNat &&& 0xFF00 = 0 := congrArg UInt16.toNat h
      have hbit := congrArg (Nat.testBit · i) hand
      simpa only [Nat.testBit_and, hmask, Bool.and_true, Nat.zero_testBit] using hbit
    · exact Nat.testBit_lt_two_pow (Nat.lt_of_lt_of_le flags.toNat_lt
        (Nat.pow_le_pow_right (by decide) hge))
  have hflags := hall ⟨flags.toNat, hlt⟩
  rwa [UInt16.ofNat_toNat] at hflags

theorem leafFlags_bits (quality timestamp : Bool) :
    let leafFlags : UInt8 := (if quality then 1 else 0) ||| (if timestamp then 2 else 0)
    leafFlags &&& 0xFC = 0 ∧ (leafFlags &&& 1 != 0) = quality ∧
      (leafFlags &&& 2 != 0) = timestamp := by
  revert quality timestamp
  decide

theorem encode_leafFlags {leafFlags : UInt8} (h : leafFlags &&& 0xFC = 0) :
    (if leafFlags &&& 1 != 0 then 1 else 0) ||| (if leafFlags &&& 2 != 0 then 2 else 0) =
      leafFlags := by
  refine forall_octet (p := fun leafFlags => leafFlags &&& 0xFC = 0 →
    (if leafFlags &&& 1 != 0 then 1 else 0) ||| (if leafFlags &&& 2 != 0 then 2 else 0) =
      leafFlags) ?_ leafFlags h
  decide +kernel

/-! ## The leaves -/

namespace SvDeviceProfileBinaryCodec

theorem length_encodeLeaf (leaf : SvDeviceLeafDescriptor) :
    (encodeLeaf leaf).length = leafDescriptorBytes := by
  rw [encodeLeaf, List.length_append, length_u16]
  rfl

theorem length_encodeLeaves (leaves : List SvDeviceLeafDescriptor) :
    (leaves.flatMap encodeLeaf).length = leaves.length * leafDescriptorBytes := by
  induction leaves with
  | nil => rfl
  | cons leaf leaves ih =>
    rw [List.flatMap_cons, List.length_append, length_encodeLeaf, ih, List.length_cons,
      Nat.succ_mul, Nat.add_comm]

/-- **The leaves are read back.** -/
theorem readLeaves_encode (front : Bytes) (leaves : List SvDeviceLeafDescriptor) (back : Bytes) :
    readLeaves (front ++ (leaves.flatMap encodeLeaf ++ back)) leaves.length front.length =
      some leaves := by
  induction leaves generalizing front with
  | nil => rfl
  | cons leaf leaves ih =>
    obtain ⟨hmask, hquality, htimestamp⟩ := leafFlags_bits leaf.quality leaf.timestamp
    have hfields := slices_flatten front [[leaf.wireType.toUInt8],
      [(if leaf.quality then 1 else 0) ||| (if leaf.timestamp then 2 else 0)],
      u16 leaf.wireWidthBytes] (leaves.flatMap encodeLeaf ++ back)
    have hsource : front ++ ((leaf :: leaves).flatMap encodeLeaf ++ back) =
        front ++ ([[leaf.wireType.toUInt8],
          [(if leaf.quality then 1 else 0) ||| (if leaf.timestamp then 2 else 0)],
          u16 leaf.wireWidthBytes].flatten ++ (leaves.flatMap encodeLeaf ++ back)) := by
      simp [encodeLeaf]
    have hrest := ih (front ++ encodeLeaf leaf)
    rw [List.append_assoc, List.length_append, length_encodeLeaf, ← List.append_assoc
      (encodeLeaf leaf), ← List.flatMap_cons] at hrest
    rw [← hsource] at hfields
    simp only [List.map_cons, List.map_nil, List.length_singleton, length_u16, slices,
      List.cons.injEq, and_true] at hfields
    obtain ⟨htype, hflags, hwidth⟩ := hfields
    rw [List.length_cons, readLeaves, octetAt_of_slice htype, decode_wireType]
    dsimp only
    rw [octetAt_of_slice hflags, if_neg (not_not_intro hmask), hrest, readU16_of_slice hwidth]
    dsimp only
    rw [hquality, htimestamp]

/-- **Leaves that are read** are encoded as what they were read from. -/
theorem encode_readLeaves {source : Bytes} {count offset : Nat}
    {leaves : List SvDeviceLeafDescriptor} (h : readLeaves source count offset = some leaves)
    (hfits : offset + count * leafDescriptorBytes ≤ source.length) :
    leaves.length = count ∧
      leaves.flatMap encodeLeaf = slice source offset (count * leafDescriptorBytes) := by
  induction count generalizing offset leaves with
  | zero =>
    cases h
    rw [Nat.zero_mul, slice, List.take_zero]
    exact ⟨rfl, rfl⟩
  | succ count ih =>
    rw [leafDescriptorBytes] at hfits
    rw [readLeaves] at h
    cases htype : decodeWireType (octetAt source offset) with
    | none =>
      rw [htype] at h
      cases h
    | some wireType =>
      rw [htype] at h
      dsimp only at h
      rw [Option.ite_none_left_eq_some] at h
      obtain ⟨hmask, h⟩ := h
      cases hrest : readLeaves source count (offset + leafDescriptorBytes) with
      | none =>
        rw [hrest] at h
        cases h
      | some rest =>
        rw [hrest] at h
        obtain rfl := Option.some.inj h
        obtain ⟨hlength, hflat⟩ := ih hrest (by rw [leafDescriptorBytes]; omega)
        refine ⟨congrArg (· + 1) hlength, ?_⟩
        have hslices := flatten_slices source offset [1, 1, 2, count * leafDescriptorBytes]
        have htotal : [1, 1, 2, count * leafDescriptorBytes].sum =
            (count + 1) * leafDescriptorBytes := by
          simp [leafDescriptorBytes]
          omega
        rw [htotal] at hslices
        simp only [slices, List.flatten_cons, List.flatten_nil, List.append_nil] at hslices
        rw [← hslices, List.flatMap_cons, hflat, encodeLeaf, encode_wireType htype,
          encode_leafFlags (Decidable.not_not.mp hmask), slice_octetAt (by omega),
          slice_octetAt (by omega), u16_readU16 (by omega)]
        rfl

/-! ## The fields -/

/-- The sizes of the header and of the fixed fields. -/
def recordWidths : List Nat :=
  [4, 2, 2, 4, 4, 4, 1, 1, 2, 6, 2, 2, 1, 1, 2, 4, 4, 4, 2, 2, 4, 2, 2]

/-- The fields of a record stand at their offsets. -/
structure HasFields (source : Bytes) (profile : CompiledSvDeviceProfile) (required : Nat)
    (crc : UInt32) : Prop where
  magic : slice source 0 4 = kMagic
  version : slice source 4 2 = u16 compiledSvDeviceProfileVersion
  header : slice source 6 2 = u16 (.ofNat headerBytes)
  total : slice source 8 4 = u32 (.ofNat required)
  payload : slice source 12 4 = u32 (.ofNat (required - headerBytes))
  checksum : slice source 16 4 = u32 crc
  profileFamily : slice source 20 1 = [encodeProfileFamily profile.profileFamily]
  transportMode : slice source 21 1 = [encodeTransportMode profile.transportMode]
  flags : slice source 22 2 = u16 (flagsFor profile.vlanPresent profile.asduOptions)
  destinationMac : slice source 24 6 = profile.destinationMac.toList
  appId : slice source 30 2 = u16 profile.appId
  vlanId : slice source 32 2 = u16 profile.vlanId
  vlanPriority : slice source 34 1 = [profile.vlanPriority]
  samplingBasis : slice source 35 1 = [encodeSamplingBasis profile.samplingBasis]
  noAsdu : slice source 36 2 = u16 profile.noAsdu
  configurationRevision : slice source 38 4 = u32 profile.configurationRevision
  configuredSampleRate : slice source 42 4 = u32 profile.configuredSampleRate
  frameRateHz : slice source 46 4 = u32 profile.frameRateHz
  sampleCounterModulus : slice source 50 2 = u16 profile.sampleCounterModulus
  leafCount : slice source 52 2 = u16 profile.leafCount
  payloadSizeBytes : slice source 54 4 = u32 profile.payloadSizeBytes
  svIdLength : slice source 58 2 = u16 profile.svIdLength
  dataSetReferenceLength : slice source 60 2 = u16 profile.dataSetReferenceLength

section Fields

variable {source : Bytes} {profile : CompiledSvDeviceProfile} {required : Nat} {crc : UInt32}

/-- **The fields of a record** are its slices. -/
theorem hasFields_iff : HasFields source profile required crc ↔
    slices source 0 recordWidths = recordFields profile required crc := by
  simp only [recordWidths, recordFields, slices, List.cons.injEq, and_true, Nat.reduceAdd,
    Nat.zero_add]
  constructor
  · intro h
    exact ⟨h.magic, h.version, h.header, h.total, h.payload, h.checksum, h.profileFamily,
      h.transportMode, h.flags, h.destinationMac, h.appId, h.vlanId, h.vlanPriority,
      h.samplingBasis, h.noAsdu, h.configurationRevision, h.configuredSampleRate, h.frameRateHz,
      h.sampleCounterModulus, h.leafCount, h.payloadSizeBytes, h.svIdLength,
      h.dataSetReferenceLength⟩
  · rintro ⟨h1, h2, h3, h4, h5, h6, h7, h8, h9, h10, h11, h12, h13, h14, h15, h16, h17, h18, h19,
      h20, h21, h22, h23⟩
    exact ⟨h1, h2, h3, h4, h5, h6, h7, h8, h9, h10, h11, h12, h13, h14, h15, h16, h17, h18, h19,
      h20, h21, h22, h23⟩

theorem map_length_recordFields :
    (recordFields profile required crc).map List.length = recordWidths := by
  simp only [recordFields, List.map_cons, List.map_nil, length_u16, length_u32,
    List.length_singleton, Vector.length_toList]
  rfl

theorem hasFields_record : HasFields (record profile required crc) profile required crc := by
  have hslices := slices_flatten [] (recordFields profile required crc) (variablePart profile)
  rw [map_length_recordFields, List.nil_append, List.length_nil] at hslices
  exact hasFields_iff.mpr hslices

theorem HasFields.flatten (h : HasFields source profile required crc) :
    (recordFields profile required crc).flatten = slice source 0 62 := by
  rw [← hasFields_iff.mp h, flatten_slices]
  rfl

theorem length_recordFields : (recordFields profile required crc).flatten.length = 62 := by
  rw [List.length_flatten, map_length_recordFields]
  rfl

/-- What `decode` reads from the fields. -/
theorem HasFields.readFixed (h : HasFields source profile required crc) :
    readFixed source profile.profileFamily profile.transportMode profile.samplingBasis =
      { profile with
        schemaVersion := compiledSvDeviceProfileVersion
        svId := padded _ 0 []
        dataSetReference := padded _ 0 []
        leaves := padded _ {} [] } := by
  have hmac : padded 6 0 (slice source 24 6) = profile.destinationMac := by
    have hall : profile.destinationMac.toList.take 6 = profile.destinationMac.toList :=
      List.take_of_length_le (by rw [Vector.length_toList])
    have hpadded := @padded_take _ 6 (0 : UInt8) profile.destinationMac 6 fun i hi hle =>
      absurd hi (Nat.not_lt.mpr hle)
    rwa [hall, ← h.destinationMac] at hpadded
  obtain ⟨hvlan, hoptions, -⟩ := decode_flags profile.vlanPresent profile.asduOptions
  simp only [SvDeviceProfileBinaryCodec.readFixed, headerBytes, Nat.reduceAdd,
    readU16_of_slice h.flags, hmac, readU16_of_slice h.appId, readU16_of_slice h.vlanId,
    octetAt_of_slice h.vlanPriority, readU16_of_slice h.noAsdu,
    readU32_of_slice h.configurationRevision, readU32_of_slice h.configuredSampleRate,
    readU32_of_slice h.frameRateHz, readU16_of_slice h.sampleCounterModulus,
    readU16_of_slice h.leafCount, readU32_of_slice h.payloadSizeBytes,
    readU16_of_slice h.svIdLength, readU16_of_slice h.dataSetReferenceLength, hvlan, hoptions]

end Fields

/-! ## The checksum -/

/-- The CRC leaves its own octets out. -/
theorem recordCrc_append {before after : Bytes} (h : before.length = kCrcOffset) (crc : UInt32) :
    recordCrc (before ++ (u32 crc ++ after)) = recordCrc (before ++ (u32 0 ++ after)) := by
  have hdrop : ∀ crc : UInt32, (before ++ (u32 crc ++ after)).drop (kCrcOffset + 4) = after := by
    intro crc
    rw [← List.append_assoc]
    exact List.drop_left' (by rw [List.length_append, h, length_u32])
  have hlength : ∀ crc : UInt32, (before ++ (u32 crc ++ after)).length =
      kCrcOffset + (4 + after.length) := by
    intro crc
    rw [List.length_append, List.length_append, h, length_u32]
  simp only [recordCrc, hlength, hdrop, List.take_left' h]

theorem recordCrc_record (profile : CompiledSvDeviceProfile) (required : Nat) (crc : UInt32) :
    recordCrc (record profile required crc) = recordCrc (record profile required 0) := by
  have hsplit : ∀ crc : UInt32, record profile required crc =
      ((recordFields profile required 0).take 5).flatten ++
        (u32 crc ++ (((recordFields profile required 0).drop 6).flatten ++ variablePart profile)) := by
    intro crc
    simp [record, recordFields]
  rw [hsplit crc, hsplit 0]
  refine recordCrc_append ?_ crc
  rw [List.length_flatten, List.map_take, map_length_recordFields]
  rfl

/-! ## The shape -/

/-- What the codec needs of the shape of a profile. -/
structure Fits (profile : CompiledSvDeviceProfile) : Prop where
  schemaVersion : profile.schemaVersion = compiledSvDeviceProfileVersion
  profileFamily : profile.profileFamily ≠ .unspecified
  samplingBasis : profile.samplingBasis ≠ .unknown
  svIdLength : profile.svIdLength.toNat ≤ compiledSvDeviceProfileMaxSvIdBytes
  dataSetReferenceLength :
    profile.dataSetReferenceLength.toNat ≤ compiledSvDeviceProfileMaxDatasetBytes
  leafCount : profile.leafCount.toNat ≤ compiledSvDeviceProfileMaxLeaves

theorem fits_of_shape {profile : CompiledSvDeviceProfile}
    (h : validProfileShape profile = true) : Fits profile := by
  simp only [validProfileShape, Bool.if_false_left, Bool.and_eq_true, Bool.not_eq_true',
    decide_eq_false_iff_not, not_or, ne_eq, Decidable.not_not, Nat.not_lt] at h
  obtain ⟨hfirst, -, -, -, -, -, -, -, -, hbasis, -⟩ := h
  obtain ⟨hversion, hfamily, -, -, -, -, -, hsvId, hdataSet, -, hleaves⟩ := hfirst
  exact ⟨hversion, hfamily, hbasis.1, hsvId, hdataSet, hleaves⟩

section Sizes

variable {profile : CompiledSvDeviceProfile} (h : Fits profile)
include h

theorem length_usedLeaves : profile.usedLeaves.length = profile.leafCount.toNat := by
  rw [CompiledSvDeviceProfile.usedLeaves, List.length_take, Vector.length_toList]
  exact Nat.min_eq_left h.leafCount

theorem length_svIdText : profile.svIdText.length = profile.svIdLength.toNat := by
  rw [CompiledSvDeviceProfile.svIdText, List.length_take, Vector.length_toList]
  exact Nat.min_eq_left (Nat.le_succ_of_le h.svIdLength)

theorem length_dataSetText : profile.dataSetText.length = profile.dataSetReferenceLength.toNat := by
  rw [CompiledSvDeviceProfile.dataSetText, List.length_take, Vector.length_toList]
  exact Nat.min_eq_left (Nat.le_succ_of_le h.dataSetReferenceLength)

theorem length_record (required : Nat) (crc : UInt32) :
    (record profile required crc).length = headerBytes + (fixedPayloadBytes +
      profile.leafCount.toNat * leafDescriptorBytes + profile.svIdLength.toNat +
      profile.dataSetReferenceLength.toNat) := by
  rw [record, variablePart, List.length_append, length_recordFields, List.length_append,
    List.length_append, length_encodeLeaves, length_usedLeaves h, length_svIdText h,
    length_dataSetText h, headerBytes, fixedPayloadBytes]
  omega

end Sizes

/-- A profile with a size has the shape, and its record has the size. -/
theorem encodedSize_eq_some {profile : CompiledSvDeviceProfile} {required : Nat}
    (h : encodedSize profile = some required) :
    validProfileShape profile = true ∧ required = headerBytes + (fixedPayloadBytes +
      profile.leafCount.toNat * leafDescriptorBytes + profile.svIdLength.toNat +
      profile.dataSetReferenceLength.toNat) := by
  rw [encodedSize, Option.ite_none_left_eq_some] at h
  obtain ⟨hshape, h⟩ := h
  dsimp only at h
  rw [Option.ite_none_left_eq_some] at h
  obtain ⟨-, h⟩ := h
  exact ⟨by simpa using hshape, (Option.some.inj h).symm⟩

theorem encodedSize_of_shape {profile : CompiledSvDeviceProfile}
    (h : validProfileShape profile = true) :
    encodedSize profile = some (headerBytes + (fixedPayloadBytes +
      profile.leafCount.toNat * leafDescriptorBytes + profile.svIdLength.toNat +
      profile.dataSetReferenceLength.toNat)) := by
  have hfits := fits_of_shape h
  obtain ⟨hsvId, hdataSet, hleaves⟩ :=
    And.intro hfits.svIdLength (And.intro hfits.dataSetReferenceLength hfits.leafCount)
  rw [compiledSvDeviceProfileMaxSvIdBytes] at hsvId
  rw [compiledSvDeviceProfileMaxDatasetBytes] at hdataSet
  rw [compiledSvDeviceProfileMaxLeaves] at hleaves
  rw [encodedSize, if_neg (by simp [h])]
  dsimp only
  rw [if_neg]
  rw [headerBytes, fixedPayloadBytes, leafDescriptorBytes, uint32Max, sizeMax]
  omega

/-! ## What is accepted -/

variable {source : Bytes} {candidate profile : CompiledSvDeviceProfile} {payloadLength : Nat}

/-- The candidate with its leaves and its texts. -/
def complete (source : Bytes) (candidate : CompiledSvDeviceProfile)
    (leaves : List SvDeviceLeafDescriptor) : CompiledSvDeviceProfile :=
  let textOffset :=
    headerBytes + fixedPayloadBytes + candidate.leafCount.toNat * leafDescriptorBytes
  { candidate with
    leaves := padded _ {} leaves
    svId := padded _ 0 (slice source textOffset candidate.svIdLength.toNat)
    dataSetReference := padded _ 0 (slice source (textOffset + candidate.svIdLength.toNat)
      candidate.dataSetReferenceLength.toNat) }

section Complete

variable (source candidate) (leaves : List SvDeviceLeafDescriptor)

/-- Where the texts begin. -/
def textOffset : Nat :=
  headerBytes + fixedPayloadBytes + candidate.leafCount.toNat * leafDescriptorBytes

theorem usedLeaves_complete : (complete source candidate leaves).usedLeaves =
    (padded compiledSvDeviceProfileMaxLeaves {} leaves).toList.take candidate.leafCount.toNat := by
  simp only [CompiledSvDeviceProfile.usedLeaves, complete]

theorem svIdText_complete : (complete source candidate leaves).svIdText =
    (padded (compiledSvDeviceProfileMaxSvIdBytes + 1) 0 (slice source (textOffset candidate)
      candidate.svIdLength.toNat)).toList.take candidate.svIdLength.toNat := by
  simp only [CompiledSvDeviceProfile.svIdText, complete, textOffset]

theorem dataSetText_complete : (complete source candidate leaves).dataSetText =
    (padded (compiledSvDeviceProfileMaxDatasetBytes + 1) 0 (slice source
      (textOffset candidate + candidate.svIdLength.toNat)
      candidate.dataSetReferenceLength.toNat)).toList.take
        candidate.dataSetReferenceLength.toNat := by
  simp only [CompiledSvDeviceProfile.dataSetText, complete, textOffset]

end Complete

theorem decodeVariable_eq_ok : decodeVariable source candidate payloadLength = .ok profile ↔
    (candidate.leafCount.toNat ≤ compiledSvDeviceProfileMaxLeaves ∧
      candidate.svIdLength.toNat ≤ compiledSvDeviceProfileMaxSvIdBytes ∧
      candidate.dataSetReferenceLength.toNat ≤ compiledSvDeviceProfileMaxDatasetBytes) ∧
    fixedPayloadBytes + candidate.leafCount.toNat * leafDescriptorBytes +
      candidate.svIdLength.toNat + candidate.dataSetReferenceLength.toNat = payloadLength ∧
    ∃ leaves,
      readLeaves source candidate.leafCount.toNat (headerBytes + fixedPayloadBytes) =
        some leaves ∧
      validProfileShape (complete source candidate leaves) = true ∧
      complete source candidate leaves = profile := by
  rw [decodeVariable]
  dsimp only
  rw [except_ite_eq_ok, except_ite_eq_ok, not_or, not_or, Nat.not_lt, Nat.not_lt, Nat.not_lt,
    ne_eq, Decidable.not_not]
  refine and_congr_right fun _ => and_congr_right fun _ => ?_
  cases hleaves : readLeaves source candidate.leafCount.toNat (headerBytes + fixedPayloadBytes) with
  | none => simp
  | some leaves =>
    dsimp only
    rw [except_ite_eq_ok, ← complete]
    simp

theorem decodePayload_eq_ok : decodePayload source payloadLength = .ok profile ↔
    ∃ profileFamily transportMode samplingBasis,
      decodeProfileFamily (octetAt source headerBytes) = some profileFamily ∧
      decodeTransportMode (octetAt source (headerBytes + 1)) = some transportMode ∧
      decodeSamplingBasis (octetAt source (headerBytes + 15)) = some samplingBasis ∧
      readU16 source (headerBytes + 2) &&& ~~~kKnownFlags = 0 ∧
      decodeVariable source (readFixed source profileFamily transportMode samplingBasis)
        payloadLength = .ok profile := by
  rw [decodePayload]
  cases decodeProfileFamily (octetAt source headerBytes) with
  | none => simp
  | some profileFamily =>
    cases decodeTransportMode (octetAt source (headerBytes + 1)) with
    | none => simp
    | some transportMode =>
      dsimp only
      rw [except_ite_eq_ok, ne_eq, Decidable.not_not]
      cases decodeSamplingBasis (octetAt source (headerBytes + 15)) with
      | none => simp
      | some samplingBasis => simp

theorem decodeRecord_eq_ok : decodeRecord source = .ok profile ↔
    headerBytes ≤ source.length ∧ source.take 4 = kMagic ∧
    readU16 source 4 = compiledSvDeviceProfileVersion ∧ (readU16 source 6).toNat = headerBytes ∧
    ((readU32 source 8).toNat = source.length ∧
      (readU32 source 12).toNat = (readU32 source 8).toNat - headerBytes ∧
      fixedPayloadBytes ≤ (readU32 source 12).toNat) ∧
    recordCrc source = readU32 source kCrcOffset ∧
    decodePayload source (readU32 source 12).toNat = .ok profile := by
  rw [decodeRecord]
  dsimp only
  rw [except_ite_eq_ok, except_ite_eq_ok, except_ite_eq_ok, except_ite_eq_ok, except_ite_eq_ok,
    except_ite_eq_ok]
  simp only [ne_eq, not_or, Decidable.not_not, Nat.not_lt]

/-! ## From a profile to its record, and back -/

end SvDeviceProfileBinaryCodec

/-- Nothing stands behind the texts and the leaves in use. -/
structure CompiledSvDeviceProfile.Canonical (profile : CompiledSvDeviceProfile) : Prop where
  svId : ∀ (i : Nat) (hi : i < compiledSvDeviceProfileMaxSvIdBytes + 1),
    profile.svIdLength.toNat ≤ i → profile.svId[i] = 0
  dataSetReference : ∀ (i : Nat) (hi : i < compiledSvDeviceProfileMaxDatasetBytes + 1),
    profile.dataSetReferenceLength.toNat ≤ i → profile.dataSetReference[i] = 0
  leaves : ∀ (i : Nat) (hi : i < compiledSvDeviceProfileMaxLeaves),
    profile.leafCount.toNat ≤ i → profile.leaves[i] = {}

namespace SvDeviceProfileBinaryCodec

variable {source : Bytes} {profile : CompiledSvDeviceProfile} {required : Nat}

/-- **The part behind the fixed fields** is read back. -/
theorem decodeVariable_record (hcanonical : profile.Canonical)
    (hshape : validProfileShape profile = true) (crc : UInt32) :
    let bytes := record profile required crc
    decodeVariable bytes (readFixed bytes profile.profileFamily profile.transportMode
      profile.samplingBasis) (bytes.length - headerBytes) = .ok profile := by
  intro bytes
  have hfits := fits_of_shape hshape
  have hlength : bytes.length = _ := length_record hfits required crc
  have hleaves : readLeaves bytes profile.leafCount.toNat (headerBytes + fixedPayloadBytes) =
      some profile.usedLeaves := by
    have hread := readLeaves_encode (recordFields profile required crc).flatten
      profile.usedLeaves (profile.svIdText ++ profile.dataSetText)
    rw [length_usedLeaves hfits, length_recordFields, ← List.append_assoc _ profile.svIdText]
      at hread
    exact hread
  have htexts := slices_flatten
    ((recordFields profile required crc).flatten ++ profile.usedLeaves.flatMap encodeLeaf)
    [profile.svIdText, profile.dataSetText] []
  have hbytes : bytes = (recordFields profile required crc).flatten ++
      profile.usedLeaves.flatMap encodeLeaf ++
        ([profile.svIdText, profile.dataSetText].flatten ++ []) := by
    simp [bytes, record, variablePart]
  have hoffset : ((recordFields profile required crc).flatten ++
      profile.usedLeaves.flatMap encodeLeaf).length =
        headerBytes + fixedPayloadBytes + profile.leafCount.toNat * leafDescriptorBytes := by
    rw [List.length_append, length_recordFields, length_encodeLeaves, length_usedLeaves hfits]
    rfl
  rw [← hbytes, hoffset] at htexts
  simp only [List.map_cons, List.map_nil, slices, List.cons.injEq, and_true,
    length_svIdText hfits, length_dataSetText hfits] at htexts
  obtain ⟨hsvId, hdataSet⟩ := htexts
  have hcomplete : complete bytes (readFixed bytes profile.profileFamily profile.transportMode
      profile.samplingBasis) profile.usedLeaves = profile := by
    rw [(@hasFields_record profile required crc).readFixed, complete]
    dsimp only
    rw [hsvId, hdataSet, CompiledSvDeviceProfile.usedLeaves,
      CompiledSvDeviceProfile.svIdText, CompiledSvDeviceProfile.dataSetText,
      padded_take hcanonical.leaves, padded_take hcanonical.svId,
      padded_take hcanonical.dataSetReference, ← hfits.schemaVersion]
  rw [decodeVariable_eq_ok]
  rw [(@hasFields_record profile required crc).readFixed] at hcomplete ⊢
  exact ⟨⟨hfits.leafCount, hfits.svIdLength, hfits.dataSetReferenceLength⟩,
    by rw [hlength, Nat.add_sub_cancel_left], profile.usedLeaves, hleaves,
    hcomplete.symm ▸ hshape, hcomplete⟩

/-- A profile is decoded from its record. -/
theorem decodeRecord_record (hcanonical : profile.Canonical)
    (hsize : encodedSize profile = some required) :
    let bytes := record profile required (recordCrc (record profile required 0))
    bytes.length = required ∧ decodeRecord bytes = .ok profile := by
  intro bytes
  obtain ⟨hshape, hrequired⟩ := encodedSize_eq_some hsize
  have hfits := fits_of_shape hshape
  have hfields : HasFields bytes profile required (recordCrc (record profile required 0)) :=
    hasFields_record
  have hlength : bytes.length = required := (length_record hfits _ _).trans hrequired.symm
  have hsmall : required < 2 ^ 32 := by
    obtain ⟨hsvId, hdataSet, hleaves⟩ :=
      And.intro hfits.svIdLength (And.intro hfits.dataSetReferenceLength hfits.leafCount)
    rw [compiledSvDeviceProfileMaxSvIdBytes] at hsvId
    rw [compiledSvDeviceProfileMaxDatasetBytes] at hdataSet
    rw [compiledSvDeviceProfileMaxLeaves] at hleaves
    rw [hrequired, headerBytes, fixedPayloadBytes, leafDescriptorBytes]
    omega
  have htotal : (readU32 bytes 8).toNat = required := by
    rw [readU32_of_slice hfields.total, UInt32.toNat_ofNat', Nat.mod_eq_of_lt hsmall]
  have hpayload : (readU32 bytes 12).toNat = required - headerBytes := by
    rw [readU32_of_slice hfields.payload, UInt32.toNat_ofNat']
    exact Nat.mod_eq_of_lt (Nat.lt_of_le_of_lt (Nat.sub_le _ _) hsmall)
  have hvariable := @decodeVariable_record profile required hcanonical hshape
    (recordCrc (record profile required 0))
  have hdecode : decodePayload bytes (required - headerBytes) = .ok profile := by
    obtain ⟨-, -, hknown⟩ := decode_flags profile.vlanPresent profile.asduOptions
    rw [decodePayload_eq_ok]
    exact ⟨profile.profileFamily, profile.transportMode, profile.samplingBasis,
      (congrArg decodeProfileFamily (octetAt_of_slice hfields.profileFamily)).trans
        (decode_profileFamily hfits.profileFamily),
      (congrArg decodeTransportMode (octetAt_of_slice hfields.transportMode)).trans
        (decode_transportMode profile.transportMode),
      (congrArg decodeSamplingBasis (octetAt_of_slice hfields.samplingBasis)).trans
        (decode_samplingBasis hfits.samplingBasis),
      (congrArg (· &&& ~~~kKnownFlags) (readU16_of_slice hfields.flags)).trans hknown,
      hlength ▸ hvariable⟩
  refine ⟨hlength, decodeRecord_eq_ok.mpr ⟨?_, hfields.magic, readU16_of_slice hfields.version,
    ?_, ⟨htotal.trans hlength.symm, by rw [hpayload, htotal], ?_⟩, ?_, by rw [hpayload, hdecode]⟩⟩
  · rw [hlength, hrequired]
    exact Nat.le_add_right _ _
  · rw [readU16_of_slice hfields.header]
    rfl
  · rw [hpayload, hrequired, Nat.add_sub_cancel_left]
    omega
  · rw [kCrcOffset, readU32_of_slice hfields.checksum]
    exact recordCrc_record profile required _

/-- The fields of what is decoded stand at their offsets. -/
theorem hasFields_readFixed {profileFamily : SvProfileFamily} {transportMode : SvTransportMode}
    {samplingBasis : SvSampleMode} {leaves : List SvDeviceLeafDescriptor}
    (h : headerBytes + fixedPayloadBytes ≤ source.length) (hmagic : source.take 4 = kMagic)
    (hversion : readU16 source 4 = compiledSvDeviceProfileVersion)
    (hheader : (readU16 source 6).toNat = headerBytes)
    (htotal : (readU32 source 8).toNat = source.length)
    (hpayload : (readU32 source 12).toNat = source.length - headerBytes)
    (hfamily : decodeProfileFamily (octetAt source headerBytes) = some profileFamily)
    (htransport : decodeTransportMode (octetAt source (headerBytes + 1)) = some transportMode)
    (hbasis : decodeSamplingBasis (octetAt source (headerBytes + 15)) = some samplingBasis)
    (hflags : readU16 source (headerBytes + 2) &&& ~~~kKnownFlags = 0) :
    HasFields source
      (complete source (readFixed source profileFamily transportMode samplingBasis) leaves)
      source.length (readU32 source kCrcOffset) := by
  rw [headerBytes, fixedPayloadBytes] at h
  have h16 : ∀ offset, offset + 2 ≤ 62 → slice source offset 2 = u16 (readU16 source offset) :=
    fun _ hle => u16_readU16 (Nat.le_trans hle h)
  have h32 : ∀ offset, offset + 4 ≤ 62 → slice source offset 4 = u32 (readU32 source offset) :=
    fun _ hle => u32_readU32 (Nat.le_trans hle h)
  have hoctet : ∀ offset, offset < 62 → slice source offset 1 = [octetAt source offset] :=
    fun _ hlt => slice_octetAt (Nat.lt_of_lt_of_le hlt h)
  exact
    { magic := hmagic
      version := hversion ▸ h16 4 (by decide)
      header := by
        rw [h16 6 (by decide), ← hheader, UInt16.ofNat_toNat]
      total := (h32 8 (by decide)).trans (u32_eq_of_toNat htotal)
      payload := (h32 12 (by decide)).trans (u32_eq_of_toNat hpayload)
      checksum := h32 16 (by decide)
      profileFamily := encode_profileFamily hfamily ▸ hoctet 20 (by decide)
      transportMode := encode_transportMode htransport ▸ hoctet 21 (by decide)
      flags := (h16 22 (by decide)).trans (congrArg u16 (encode_flags hflags).symm)
      destinationMac := by
        have hmac := @take_padded _ 6 (0 : UInt8) (slice source 24 6)
          (Nat.le_of_eq (length_slice (Nat.le_trans (by decide) h)))
        rw [length_slice (Nat.le_trans (by decide) h), List.take_of_length_le
          (by rw [Vector.length_toList])] at hmac
        exact hmac.symm
      appId := h16 30 (by decide)
      vlanId := h16 32 (by decide)
      vlanPriority := hoctet 34 (by decide)
      samplingBasis := encode_samplingBasis hbasis ▸ hoctet 35 (by decide)
      noAsdu := h16 36 (by decide)
      configurationRevision := h32 38 (by decide)
      configuredSampleRate := h32 42 (by decide)
      frameRateHz := h32 46 (by decide)
      sampleCounterModulus := h16 50 (by decide)
      leafCount := h16 52 (by decide)
      payloadSizeBytes := h32 54 (by decide)
      svIdLength := h16 58 (by decide)
      dataSetReferenceLength := h16 60 (by decide) }

/-- The candidate is filled up with defaults. -/
theorem canonical_complete {candidate : CompiledSvDeviceProfile}
    {leaves : List SvDeviceLeafDescriptor}
    (hsvId : (slice source (textOffset candidate) candidate.svIdLength.toNat).length =
      candidate.svIdLength.toNat)
    (hdataSet : (slice source (textOffset candidate + candidate.svIdLength.toNat)
      candidate.dataSetReferenceLength.toNat).length = candidate.dataSetReferenceLength.toNat)
    (hleaves : leaves.length = candidate.leafCount.toNat) :
    (complete source candidate leaves).Canonical where
  svId i hi hle := by
    simp only [complete] at hle ⊢
    exact getElem_padded_of_le _ hi (hsvId.trans_le hle)
  dataSetReference i hi hle := by
    simp only [complete] at hle ⊢
    exact getElem_padded_of_le _ hi (hdataSet.trans_le hle)
  leaves i hi hle := by
    simp only [complete] at hle ⊢
    exact getElem_padded_of_le _ hi (hleaves.trans_le hle)

/-- What is decoded has the octets as its record. -/
theorem record_of_decodeRecord (h : decodeRecord source = .ok profile) :
    profile.Canonical ∧ encodedSize profile = some source.length ∧
      record profile source.length (recordCrc (record profile source.length 0)) = source := by
  obtain ⟨-, hmagic, hversion, hheader, ⟨htotal, hpayload, hfixed⟩, hcrc, h⟩ :=
    decodeRecord_eq_ok.mp h
  obtain ⟨profileFamily, transportMode, samplingBasis, hfamily, htransport, hbasis, hflags, h⟩ :=
    decodePayload_eq_ok.mp h
  obtain ⟨⟨hleafCount, hsvId, hdataSet⟩, hsum, leaves, hleaves, hshape, rfl⟩ :=
    decodeVariable_eq_ok.mp h
  rw [htotal] at hpayload
  rw [hpayload] at hsum hfixed
  have hheaderFits : headerBytes + fixedPayloadBytes ≤ source.length := by
    have hpos : 0 < fixedPayloadBytes := by decide
    omega
  have hfields := @hasFields_readFixed source _ _ _ leaves hheaderFits hmagic hversion hheader
    htotal hpayload hfamily htransport hbasis hflags
  generalize readFixed source profileFamily transportMode samplingBasis = candidate at *
  have hsource : source.length = headerBytes + fixedPayloadBytes +
      candidate.leafCount.toNat * leafDescriptorBytes + candidate.svIdLength.toNat +
        candidate.dataSetReferenceLength.toNat := by omega
  obtain ⟨hcount, hencoded⟩ := encode_readLeaves hleaves (by omega)
  have hoffset : textOffset candidate = headerBytes + fixedPayloadBytes +
      candidate.leafCount.toNat * leafDescriptorBytes := rfl
  have hsvIdLength := @length_slice _ source (textOffset candidate) candidate.svIdLength.toNat
    (by omega)
  have hdataSetLength := @length_slice _ source (textOffset candidate + candidate.svIdLength.toNat)
    candidate.dataSetReferenceLength.toNat (by omega)
  have hused : (complete source candidate leaves).usedLeaves = leaves := by
    have htake := @take_padded _ compiledSvDeviceProfileMaxLeaves {} leaves (hcount ▸ hleafCount)
    rw [hcount] at htake
    rw [usedLeaves_complete, htake]
  have hsvIdText : (complete source candidate leaves).svIdText =
      slice source (textOffset candidate) candidate.svIdLength.toNat := by
    have htake := @take_padded _ (compiledSvDeviceProfileMaxSvIdBytes + 1) 0 _
      (Nat.le_succ_of_le (hsvIdLength.symm ▸ hsvId))
    rw [hsvIdLength] at htake
    rw [svIdText_complete, htake]
  have hdataSetText : (complete source candidate leaves).dataSetText =
      slice source (textOffset candidate + candidate.svIdLength.toNat)
        candidate.dataSetReferenceLength.toNat := by
    have htake := @take_padded _ (compiledSvDeviceProfileMaxDatasetBytes + 1) 0 _
      (Nat.le_succ_of_le (hdataSetLength.symm ▸ hdataSet))
    rw [hdataSetLength] at htake
    rw [dataSetText_complete, htake]
  have hrecord : record (complete source candidate leaves) source.length
      (readU32 source kCrcOffset) = source := by
    have hall := flatten_slices source 0 [headerBytes + fixedPayloadBytes,
      candidate.leafCount.toNat * leafDescriptorBytes, candidate.svIdLength.toNat,
      candidate.dataSetReferenceLength.toNat]
    have hsumWidths : [headerBytes + fixedPayloadBytes,
        candidate.leafCount.toNat * leafDescriptorBytes, candidate.svIdLength.toNat,
        candidate.dataSetReferenceLength.toNat].sum = source.length := by
      simp only [List.sum_cons, List.sum_nil]
      omega
    rw [hsumWidths, slice_all] at hall
    simp only [slices, List.flatten_cons, List.flatten_nil, List.append_nil, Nat.zero_add] at hall
    rw [record, variablePart, hfields.flatten, hused, hencoded, hsvIdText, hdataSetText, hoffset,
      List.append_assoc]
    exact hall
  refine ⟨canonical_complete hsvIdLength hdataSetLength hcount, ?_, ?_⟩
  · rw [encodedSize_of_shape hshape, hsource]
    simp only [complete, Nat.add_assoc]
  · rw [← recordCrc_record _ _ (readU32 source kCrcOffset), hrecord, hcrc, hrecord]

/-- **A record is decoded as the profile** that it is the record of, and only such records are. -/
theorem decodeRecord_iff : decodeRecord source = .ok profile ↔
    profile.Canonical ∧ encodedSize profile = some source.length ∧
      record profile source.length (recordCrc (record profile source.length 0)) = source := by
  constructor
  · exact record_of_decodeRecord
  · rintro ⟨hcanonical, hsize, hrecord⟩
    have hdecode := (decodeRecord_record hcanonical hsize).2
    rwa [hrecord] at hdecode

/-- A record has at least its fixed fields, and is not long. -/
theorem length_of_decodeRecord (h : decodeRecord source = .ok profile) :
    0 < source.length ∧ source.length ≤ 572 := by
  obtain ⟨-, hsize, -⟩ := decodeRecord_iff.mp h
  obtain ⟨hshape, hlength⟩ := encodedSize_eq_some hsize
  have hfits := fits_of_shape hshape
  obtain ⟨hsvId, hdataSet, hleaves⟩ :=
    And.intro hfits.svIdLength (And.intro hfits.dataSetReferenceLength hfits.leafCount)
  rw [compiledSvDeviceProfileMaxSvIdBytes] at hsvId
  rw [compiledSvDeviceProfileMaxDatasetBytes] at hdataSet
  rw [compiledSvDeviceProfileMaxLeaves] at hleaves
  rw [headerBytes, fixedPayloadBytes, leafDescriptorBytes] at hlength
  omega

theorem encodeInto_of_decodeRecord (h : decodeRecord source = .ok profile) {capacity : Nat}
    (hcapacity : source.length ≤ capacity) :
    encodeInto profile capacity = ({ status := .ok, bytes := source.length }, source) := by
  obtain ⟨-, hsize, hrecord⟩ := decodeRecord_iff.mp h
  rw [encodeInto, hsize]
  dsimp only
  rw [if_neg (Nat.not_lt.mpr hcapacity), hrecord]

theorem decode_of_decodeRecord (h : decodeRecord source = .ok profile) :
    decode source = ({ status := .ok, bytes := source.length }, profile) := by
  rw [decode, h]

theorem decodeVariable_ne_error {candidate : CompiledSvDeviceProfile} {payloadLength : Nat} :
    decodeVariable source candidate payloadLength ≠ .error .ok := by
  rw [decodeVariable]
  refine except_ite_ne (by decide) (except_ite_ne (by decide) ?_)
  dsimp only
  split
  · exact fun h => absurd (Except.error.inj h) (by decide)
  · refine except_ite_ne (by decide) fun h => ?_
    cases h

/-- No error has the status of success. -/
theorem decodeRecord_ne_error : decodeRecord source ≠ .error .ok := by
  rw [decodeRecord]
  refine except_ite_ne (by decide) (except_ite_ne (by decide) (except_ite_ne (by decide)
    (except_ite_ne (by decide) (except_ite_ne (by decide) (except_ite_ne (by decide) ?_)))))
  rw [decodePayload]
  split
  · refine except_ite_ne (by decide) ?_
    split
    · exact fun h => absurd (Except.error.inj h) (by decide)
    · exact decodeVariable_ne_error
  · exact fun h => absurd (Except.error.inj h) (by decide)

theorem decodeRecord_of_success (h : (decode source).1.success = true) :
    decodeRecord source = .ok (decode source).2 := by
  rw [decode] at h ⊢
  cases hrecord : decodeRecord source with
  | error status =>
    rw [hrecord] at h
    have hok : status = .ok := by simpa [SvDeviceProfileCodecResult.success] using h
    exact absurd (hok ▸ hrecord) decodeRecord_ne_error
  | ok profile => rfl

end SvDeviceProfileBinaryCodec

end ArStack.SampledValues
