import ArStack.Ethernet.Ethernet
import ArStack.Integrity.Crc32
import ArStack.Lib.Layout

/-!
# Compiled device profiles

The profile of a publisher, as a device stores it: a header, fixed fields, the leaves of the data
set and two texts, protected by a CRC.

* `validProfileShape` — what the encoder and the decoder ask of a profile
* `SvDeviceProfileBinaryCodec.encodedSize`, `encodeInto`, `decode`

The enumerations have no other values than those the source names; it rejects the others.
-/

namespace ArStack.SampledValues

open ArStack.Ethernet ArStack.Integrity ArStack.Lib

inductive SvProfileFamily where
  | unspecified
  | iec61850_9_2
  | legacy_9_2le
  | iec61869_9
  deriving DecidableEq

inductive SvTransportMode where
  | multicast
  | unicast
  deriving DecidableEq

inductive SvSampleMode where
  | unknown
  | samplesPerPeriod
  | samplesPerSecond
  | secondsPerSample
  deriving DecidableEq

def svAppIdMinimum : UInt16 := 0x4000

def svAppIdMaximum : UInt16 := 0x7FFF

def isValidSvAppId (appId : UInt16) : Bool := appId ≥ svAppIdMinimum && appId ≤ svAppIdMaximum

def isMulticastMac (mac : Vector UInt8 6) : Bool := mac[0] &&& 0x01 != 0

def isZeroMac (mac : Vector UInt8 6) : Bool :=
  mac[0] == 0 && mac[1] == 0 && mac[2] == 0 && mac[3] == 0 && mac[4] == 0 && mac[5] == 0

def isIecSvMulticastMac (mac : Vector UInt8 6) : Bool :=
  mac[0] == 0x01 && mac[1] == 0x0C && mac[2] == 0xCD && mac[3] == 0x04 && mac[4] ≤ 0x01

def isValidSvUnicastMac (mac : Vector UInt8 6) : Bool := !isZeroMac mac && !isMulticastMac mac

structure SvAsduOptions where
  elementPresent : Bool := false
  refreshTime : Bool := false
  sampleSynchronized : Bool := false
  sampleRate : Bool := false
  dataSet : Bool := false
  security : Bool := false
  synchSourceId : Bool := false
  deriving DecidableEq

/-! ## The profile -/

def compiledSvDeviceProfileVersion : UInt16 := 1

def compiledSvDeviceProfileMaxSvIdBytes : Nat := 95

def compiledSvDeviceProfileMaxDatasetBytes : Nat := 159

def compiledSvDeviceProfileMaxLeaves : Nat := 64

inductive SvDeviceWireType where
  | boolean
  | int8
  | uint8
  | int16
  | uint16
  | int32
  | uint32
  | int64
  | uint64
  | float32
  | float64
  | quality
  | timestamp
  deriving DecidableEq

def SvDeviceWireType.toUInt8 : SvDeviceWireType → UInt8
  | .boolean => 1
  | .int8 => 2
  | .uint8 => 3
  | .int16 => 4
  | .uint16 => 5
  | .int32 => 6
  | .uint32 => 7
  | .int64 => 8
  | .uint64 => 9
  | .float32 => 10
  | .float64 => 11
  | .quality => 12
  | .timestamp => 13

structure SvDeviceLeafDescriptor where
  wireType : SvDeviceWireType := .int32
  wireWidthBytes : UInt16 := 0
  quality : Bool := false
  timestamp : Bool := false
  deriving DecidableEq

structure CompiledSvDeviceProfile where
  schemaVersion : UInt16 := compiledSvDeviceProfileVersion
  profileFamily : SvProfileFamily := .unspecified
  transportMode : SvTransportMode := .multicast
  destinationMac : Vector UInt8 6 := padded 6 0 []
  appId : UInt16 := 0
  vlanPresent : Bool := false
  vlanId : UInt16 := 0
  vlanPriority : UInt8 := 0
  configurationRevision : UInt32 := 0
  samplingBasis : SvSampleMode := .unknown
  configuredSampleRate : UInt32 := 0
  frameRateHz : UInt32 := 0
  sampleCounterModulus : UInt16 := 0
  noAsdu : UInt16 := 0
  asduOptions : SvAsduOptions := {}
  payloadSizeBytes : UInt32 := 0
  svIdLength : UInt16 := 0
  svId : Vector UInt8 (compiledSvDeviceProfileMaxSvIdBytes + 1) := padded _ 0 []
  dataSetReferenceLength : UInt16 := 0
  dataSetReference : Vector UInt8 (compiledSvDeviceProfileMaxDatasetBytes + 1) := padded _ 0 []
  leafCount : UInt16 := 0
  leaves : Vector SvDeviceLeafDescriptor compiledSvDeviceProfileMaxLeaves := padded _ {} []
  deriving DecidableEq

/-! ## Octets -/

/-- The octets that `write_u16` stores. -/
def u16 (value : UInt16) : Bytes := beOctets 2 value.toNat

/-- The octets that `write_u32` stores. -/
def u32 (value : UInt32) : Bytes := beOctets 4 value.toNat

def readU16 (source : Bytes) (offset : Nat) : UInt16 := .ofNat (readAt source offset 2)

def readU32 (source : Bytes) (offset : Nat) : UInt32 := .ofNat (readAt source offset 4)

/-- `ARSV` -/
def kMagic : Bytes := [0x41, 0x52, 0x53, 0x56]

def kCrcOffset : Nat := 16

def kFlagVlan : UInt16 := 0x1
def kFlagDataSet : UInt16 := 0x2
def kFlagSampleRate : UInt16 := 0x4
def kFlagSampleSynchronized : UInt16 := 0x8
def kFlagRefreshTime : UInt16 := 0x10
def kFlagSecurity : UInt16 := 0x20
def kFlagSynchSourceId : UInt16 := 0x40
def kFlagSmvOptsPresent : UInt16 := 0x80

def kKnownFlags : UInt16 :=
  kFlagVlan ||| kFlagDataSet ||| kFlagSampleRate ||| kFlagSampleSynchronized |||
    kFlagRefreshTime ||| kFlagSecurity ||| kFlagSynchSourceId ||| kFlagSmvOptsPresent

/-- The flag, if it is set. -/
def flagIf (present : Bool) (flag : UInt16) : UInt16 := if present then flag else 0

def flagsFor (vlanPresent : Bool) (options : SvAsduOptions) : UInt16 :=
  flagIf vlanPresent kFlagVlan ||| flagIf options.dataSet kFlagDataSet |||
    flagIf options.sampleRate kFlagSampleRate |||
    flagIf options.sampleSynchronized kFlagSampleSynchronized |||
    flagIf options.refreshTime kFlagRefreshTime ||| flagIf options.security kFlagSecurity |||
    flagIf options.synchSourceId kFlagSynchSourceId |||
    flagIf options.elementPresent kFlagSmvOptsPresent

/-- The options that `decode` reads from the flags. -/
def optionsOf (flags : UInt16) : SvAsduOptions where
  dataSet := flags &&& kFlagDataSet != 0
  sampleRate := flags &&& kFlagSampleRate != 0
  sampleSynchronized := flags &&& kFlagSampleSynchronized != 0
  refreshTime := flags &&& kFlagRefreshTime != 0
  security := flags &&& kFlagSecurity != 0
  synchSourceId := flags &&& kFlagSynchSourceId != 0
  elementPresent := flags &&& kFlagSmvOptsPresent != 0

def encodeProfileFamily : SvProfileFamily → UInt8
  | .iec61850_9_2 => 1
  | .legacy_9_2le => 2
  | .iec61869_9 => 3
  | .unspecified => 0

def decodeProfileFamily (raw : UInt8) : Option SvProfileFamily :=
  match raw.toNat with
  | 1 => some .iec61850_9_2
  | 2 => some .legacy_9_2le
  | 3 => some .iec61869_9
  | _ => none

def encodeTransportMode : SvTransportMode → UInt8
  | .multicast => 1
  | .unicast => 2

def decodeTransportMode (raw : UInt8) : Option SvTransportMode :=
  match raw.toNat with
  | 1 => some .multicast
  | 2 => some .unicast
  | _ => none

def encodeSamplingBasis : SvSampleMode → UInt8
  | .samplesPerSecond => 1
  | .samplesPerPeriod => 2
  | .secondsPerSample => 3
  | .unknown => 0

def decodeSamplingBasis (raw : UInt8) : Option SvSampleMode :=
  match raw.toNat with
  | 1 => some .samplesPerSecond
  | 2 => some .samplesPerPeriod
  | 3 => some .secondsPerSample
  | _ => none

/-- The type with the number, if `valid_wire_type` accepts it. -/
def decodeWireType (raw : UInt8) : Option SvDeviceWireType :=
  match raw.toNat with
  | 1 => some .boolean
  | 2 => some .int8
  | 3 => some .uint8
  | 4 => some .int16
  | 5 => some .uint16
  | 6 => some .int32
  | 7 => some .uint32
  | 8 => some .int64
  | 9 => some .uint64
  | 10 => some .float32
  | 11 => some .float64
  | 12 => some .quality
  | 13 => some .timestamp
  | _ => none

/-! ## The shape -/

def containsNul (text : Bytes) : Bool := text.contains 0

def canonicalWireWidth : SvDeviceWireType → UInt16
  | .boolean | .int8 | .uint8 => 1
  | .int16 | .uint16 => 2
  | .int32 | .uint32 | .float32 | .quality => 4
  | .int64 | .uint64 | .float64 | .timestamp => 8

def validLeaf (leaf : SvDeviceLeafDescriptor) : Bool :=
  leaf.wireWidthBytes == canonicalWireWidth leaf.wireType &&
    leaf.quality == (leaf.wireType == .quality) &&
    leaf.timestamp == (leaf.wireType == .timestamp)

/-- The loop over the leaves. -/
def payloadOf : List SvDeviceLeafDescriptor → Nat → Option Nat
  | [], payload => some payload
  | leaf :: leaves, payload =>
    if !validLeaf leaf then none
    else
      let payload := payload + leaf.wireWidthBytes.toNat
      if payload > uint32Max then none else payloadOf leaves payload

namespace CompiledSvDeviceProfile

variable (profile : CompiledSvDeviceProfile)

def svIdText : Bytes := profile.svId.toList.take profile.svIdLength.toNat

def dataSetText : Bytes := profile.dataSetReference.toList.take profile.dataSetReferenceLength.toNat

/-- The leaves that are in use. -/
def usedLeaves : List SvDeviceLeafDescriptor := profile.leaves.toList.take profile.leafCount.toNat

end CompiledSvDeviceProfile

def validProfileShape (profile : CompiledSvDeviceProfile) : Bool :=
  if profile.schemaVersion ≠ compiledSvDeviceProfileVersion ∨
      profile.profileFamily = .unspecified ∨ profile.appId = 0 ∨ profile.frameRateHz = 0 ∨
      profile.sampleCounterModulus = 0 ∨ profile.noAsdu = 0 ∨ profile.svIdLength = 0 ∨
      profile.svIdLength.toNat > compiledSvDeviceProfileMaxSvIdBytes ∨
      profile.dataSetReferenceLength.toNat > compiledSvDeviceProfileMaxDatasetBytes ∨
      profile.leafCount = 0 ∨ profile.leafCount.toNat > compiledSvDeviceProfileMaxLeaves then false
  else if profile.asduOptions.dataSet ∧ profile.dataSetReferenceLength = 0 then false
  else if !profile.asduOptions.elementPresent ∧
      (profile.asduOptions.refreshTime ∨ profile.asduOptions.sampleSynchronized ∨
        profile.asduOptions.sampleRate ∨ profile.asduOptions.dataSet ∨
        profile.asduOptions.security ∨ profile.asduOptions.synchSourceId) then false
  else if !profile.vlanPresent ∧ (profile.vlanId ≠ 0 ∨ profile.vlanPriority ≠ 0) then false
  else if containsNul profile.svIdText ∨ containsNul profile.dataSetText then false
  else if !isValidSvAppId profile.appId then false
  else if profile.transportMode = .multicast ∧ !isIecSvMulticastMac profile.destinationMac then
    false
  else if profile.transportMode = .unicast ∧ !isValidSvUnicastMac profile.destinationMac then false
  else if profile.vlanPresent ∧
      (!isValidVlanId profile.vlanId ∨ !isValidVlanPriority profile.vlanPriority) then false
  else if profile.samplingBasis = .unknown ∨ profile.configuredSampleRate = 0 then false
  else payloadOf profile.usedLeaves 0 == some profile.payloadSizeBytes.toNat

/-! ## The record -/

inductive SvDeviceProfileCodecStatus where
  | ok
  | bufferTooSmall
  | invalidValue
  | invalidMagic
  | unsupportedVersion
  | invalidLength
  | checksumMismatch
  deriving DecidableEq

structure SvDeviceProfileCodecResult where
  status : SvDeviceProfileCodecStatus := .invalidValue
  bytes : Nat := 0
  deriving DecidableEq

def SvDeviceProfileCodecResult.success (result : SvDeviceProfileCodecResult) : Bool :=
  result.status == .ok

namespace SvDeviceProfileBinaryCodec

def headerBytes : Nat := 20

def fixedPayloadBytes : Nat := 42

def leafDescriptorBytes : Nat := 4

/-- The CRC of a record, as if its own octets were 0. -/
def recordCrc (bytes : Bytes) : UInt32 :=
  if bytes.length < headerBytes then 0
  else
    let state := crc32Update crc32InitialState (bytes.take kCrcOffset)
    let state := crc32Update state [0, 0, 0, 0]
    crc32Finalize (crc32Update state (bytes.drop (kCrcOffset + 4)))

def encodedSize (profile : CompiledSvDeviceProfile) : Option Nat :=
  if !validProfileShape profile then none
  else
    let leafBytes := profile.leafCount.toNat * leafDescriptorBytes
    let payload := fixedPayloadBytes + leafBytes + profile.svIdLength.toNat +
      profile.dataSetReferenceLength.toNat
    if payload > uint32Max ∨ payload > sizeMax - headerBytes then none
    else some (headerBytes + payload)

/-- The header and the fixed fields. -/
def recordFields (profile : CompiledSvDeviceProfile) (required : Nat) (crc : UInt32) : List Bytes :=
  [kMagic, u16 compiledSvDeviceProfileVersion, u16 (.ofNat headerBytes), u32 (.ofNat required),
    u32 (.ofNat (required - headerBytes)), u32 crc,
    [encodeProfileFamily profile.profileFamily], [encodeTransportMode profile.transportMode],
    u16 (flagsFor profile.vlanPresent profile.asduOptions), profile.destinationMac.toList,
    u16 profile.appId, u16 profile.vlanId, [profile.vlanPriority],
    [encodeSamplingBasis profile.samplingBasis], u16 profile.noAsdu,
    u32 profile.configurationRevision, u32 profile.configuredSampleRate, u32 profile.frameRateHz,
    u16 profile.sampleCounterModulus, u16 profile.leafCount, u32 profile.payloadSizeBytes,
    u16 profile.svIdLength, u16 profile.dataSetReferenceLength]

def encodeLeaf (leaf : SvDeviceLeafDescriptor) : Bytes :=
  [leaf.wireType.toUInt8, (if leaf.quality then 1 else 0) ||| (if leaf.timestamp then 2 else 0)] ++
    u16 leaf.wireWidthBytes

/-- What stands behind the fixed fields. -/
def variablePart (profile : CompiledSvDeviceProfile) : Bytes :=
  profile.usedLeaves.flatMap encodeLeaf ++ profile.svIdText ++ profile.dataSetText

def record (profile : CompiledSvDeviceProfile) (required : Nat) (crc : UInt32) : Bytes :=
  (recordFields profile required crc).flatten ++ variablePart profile

/-- The result, and what is written to a destination of the given size. -/
def encodeInto (profile : CompiledSvDeviceProfile) (destinationSize : Nat) :
    SvDeviceProfileCodecResult × Bytes :=
  match encodedSize profile with
  | none => ({ status := .invalidValue }, [])
  | some required =>
    if destinationSize < required then ({ status := .bufferTooSmall, bytes := required }, [])
    else
      ({ status := .ok, bytes := required },
        record profile required (recordCrc (record profile required 0)))

/-- The loop over the leaf descriptors. -/
def readLeaves (source : Bytes) : Nat → Nat → Option (List SvDeviceLeafDescriptor)
  | 0, _ => some []
  | count + 1, offset =>
    match decodeWireType (octetAt source offset) with
    | none => none
    | some wireType =>
      let leafFlags := octetAt source (offset + 1)
      if leafFlags &&& 0xFC ≠ 0 then none
      else
        match readLeaves source count (offset + leafDescriptorBytes) with
        | none => none
        | some leaves =>
          some
            ({ wireType
               wireWidthBytes := readU16 source (offset + 2)
               quality := leafFlags &&& 1 != 0
               timestamp := leafFlags &&& 2 != 0 } :: leaves)

/-- The fixed fields of the candidate. -/
def readFixed (source : Bytes) (profileFamily : SvProfileFamily) (transportMode : SvTransportMode)
    (samplingBasis : SvSampleMode) : CompiledSvDeviceProfile where
  profileFamily
  transportMode
  vlanPresent := readU16 source (headerBytes + 2) &&& kFlagVlan != 0
  asduOptions := optionsOf (readU16 source (headerBytes + 2))
  destinationMac := padded 6 0 (slice source (headerBytes + 4) 6)
  appId := readU16 source (headerBytes + 10)
  vlanId := readU16 source (headerBytes + 12)
  vlanPriority := octetAt source (headerBytes + 14)
  samplingBasis
  noAsdu := readU16 source (headerBytes + 16)
  configurationRevision := readU32 source (headerBytes + 18)
  configuredSampleRate := readU32 source (headerBytes + 22)
  frameRateHz := readU32 source (headerBytes + 26)
  sampleCounterModulus := readU16 source (headerBytes + 30)
  leafCount := readU16 source (headerBytes + 32)
  payloadSizeBytes := readU32 source (headerBytes + 34)
  svIdLength := readU16 source (headerBytes + 38)
  dataSetReferenceLength := readU16 source (headerBytes + 40)

/-- The part of `decode` behind the fixed fields. -/
def decodeVariable (source : Bytes) (candidate : CompiledSvDeviceProfile) (payloadLength : Nat) :
    Except SvDeviceProfileCodecStatus CompiledSvDeviceProfile :=
  if candidate.leafCount.toNat > compiledSvDeviceProfileMaxLeaves ∨
      candidate.svIdLength.toNat > compiledSvDeviceProfileMaxSvIdBytes ∨
      candidate.dataSetReferenceLength.toNat > compiledSvDeviceProfileMaxDatasetBytes then
    .error .invalidLength
  else
    let descriptorBytes := candidate.leafCount.toNat * leafDescriptorBytes
    let expectedPayload := fixedPayloadBytes + descriptorBytes + candidate.svIdLength.toNat +
      candidate.dataSetReferenceLength.toNat
    if expectedPayload ≠ payloadLength then .error .invalidLength
    else
      let offset := headerBytes + fixedPayloadBytes
      match readLeaves source candidate.leafCount.toNat offset with
      | none => .error .invalidValue
      | some leaves =>
        let textOffset := offset + descriptorBytes
        let candidate : CompiledSvDeviceProfile :=
          { candidate with
            leaves := padded _ {} leaves
            svId := padded _ 0 (slice source textOffset candidate.svIdLength.toNat)
            dataSetReference := padded _ 0 (slice source
              (textOffset + candidate.svIdLength.toNat) candidate.dataSetReferenceLength.toNat) }
        if !validProfileShape candidate then .error .invalidValue else .ok candidate

/-- The part of `decode` behind the header. -/
def decodePayload (source : Bytes) (payloadLength : Nat) :
    Except SvDeviceProfileCodecStatus CompiledSvDeviceProfile :=
  match decodeProfileFamily (octetAt source headerBytes),
    decodeTransportMode (octetAt source (headerBytes + 1)) with
  | some profileFamily, some transportMode =>
    if readU16 source (headerBytes + 2) &&& ~~~kKnownFlags ≠ 0 then .error .invalidValue
    else
      match decodeSamplingBasis (octetAt source (headerBytes + 15)) with
      | none => .error .invalidValue
      | some samplingBasis =>
        decodeVariable source (readFixed source profileFamily transportMode samplingBasis)
          payloadLength
  | _, _ => .error .invalidValue

def decodeRecord (source : Bytes) : Except SvDeviceProfileCodecStatus CompiledSvDeviceProfile :=
  if source.length < headerBytes then .error .invalidLength
  else if source.take 4 ≠ kMagic then .error .invalidMagic
  else if readU16 source 4 ≠ compiledSvDeviceProfileVersion then .error .unsupportedVersion
  else if (readU16 source 6).toNat ≠ headerBytes then .error .invalidLength
  else
    let totalLength := (readU32 source 8).toNat
    let payloadLength := (readU32 source 12).toNat
    if totalLength ≠ source.length ∨ payloadLength ≠ totalLength - headerBytes ∨
        payloadLength < fixedPayloadBytes then .error .invalidLength
    else if recordCrc source ≠ readU32 source kCrcOffset then .error .checksumMismatch
    else decodePayload source payloadLength

/-- The result, and the profile of the caller afterwards. -/
def decode (source : Bytes) : SvDeviceProfileCodecResult × CompiledSvDeviceProfile :=
  match decodeRecord source with
  | .error status => ({ status }, {})
  | .ok profile => ({ status := .ok, bytes := source.length }, profile)

end SvDeviceProfileBinaryCodec

end ArStack.SampledValues
