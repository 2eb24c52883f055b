import ArStack.SampledValues.CompiledDeviceProfile

/-!
# Three profiles in one container

The container of the profiles of three publishers: an envelope with a CRC of its own and the
record of each profile.

* `M4ThreeSvBinaryCodec.encodedSize`, `encodeInto`, `decode`
-/

namespace ArStack.SampledValues

open ArStack.Integrity ArStack.Lib

def m4ThreeSvCapacity : Nat := 3

def m4ThreeSvRateHz : UInt32 := 4000

def m4ThreeSvBinaryVersion : UInt16 := 2

/-- The profiles of a roster. -/
abbrev M4Profiles := Vector CompiledSvDeviceProfile m4ThreeSvCapacity

inductive M4ThreeSvBinaryStatus where
  | ok
  | bufferTooSmall
  | invalidMagic
  | unsupportedVersion
  | invalidLength
  | checksumMismatch
  | invalidProfile
  deriving DecidableEq

structure M4ThreeSvBinaryResult where
  status : M4ThreeSvBinaryStatus := .invalidProfile
  bytes : Nat := 0
  deriving DecidableEq

def M4ThreeSvBinaryResult.success (result : M4ThreeSvBinaryResult) : Bool :=
  result.status == .ok

namespace M4ThreeSvBinaryCodec

/-! ## The roster -/

/-- A value and its quality, as the runtime of the device patches them. -/
def channelPair (value quality : SvDeviceLeafDescriptor) : Bool :=
  value.wireType == .int32 && value.wireWidthBytes == 4 && !value.quality && !value.timestamp &&
    quality.wireType == .quality && quality.wireWidthBytes == 4 && quality.quality &&
    !quality.timestamp

def compatible (p : CompiledSvDeviceProfile) : Bool :=
  (p.profileFamily == .legacy_9_2le || p.profileFamily == .iec61850_9_2) &&
    p.frameRateHz == m4ThreeSvRateHz && p.configuredSampleRate == m4ThreeSvRateHz &&
    p.samplingBasis == .samplesPerSecond &&
    p.sampleCounterModulus.toNat == m4ThreeSvRateHz.toNat &&
    p.noAsdu == 1 && p.leafCount == 16 && p.payloadSizeBytes == 64 &&
    p.asduOptions.sampleSynchronized && !p.asduOptions.refreshTime && !p.asduOptions.security &&
    !p.asduOptions.synchSourceId &&
    (List.range 8).all fun channel =>
      channelPair (p.leaves.toList.getD (channel * 2) {})
        (p.leaves.toList.getD (channel * 2 + 1) {})

def distinctIdentity (lhs rhs : CompiledSvDeviceProfile) : Bool :=
  !(lhs.appId == rhs.appId && lhs.destinationMac == rhs.destinationMac &&
    lhs.transportMode == rhs.transportMode && lhs.vlanPresent == rhs.vlanPresent &&
    (!lhs.vlanPresent || (lhs.vlanId == rhs.vlanId && lhs.vlanPriority == rhs.vlanPriority)) &&
    lhs.svIdText == rhs.svIdText)

def validRoster (p : M4Profiles) : Bool :=
  (List.finRange m4ThreeSvCapacity).all fun i =>
    compatible p[i] &&
      ((List.finRange m4ThreeSvCapacity).filter (· < i)).all fun j => distinctIdentity p[i] p[j]

/-! ## The container -/

/-- `ARM3` -/
def kMagic : Bytes := [0x41, 0x52, 0x4D, 0x33]

def kCrcOffset : Nat := 12

def kLengthOffset : Nat := 20

def headerBytes : Nat := 28

/-- The CRC of a container, as if its own octets were 0. -/
def envelopeCrc (data : Bytes) : UInt32 :=
  let state := crc32Update crc32InitialState (data.take kCrcOffset)
  let state := crc32Update state [0, 0, 0, 0]
  crc32Finalize (crc32Update state (data.drop (kCrcOffset + 4)))

/-- The loop of `encoded_size`. -/
def addSizes : List CompiledSvDeviceProfile → Nat → Option Nat
  | [], total => some total
  | profile :: profiles, total =>
    match SvDeviceProfileBinaryCodec.encodedSize profile with
    | none => none
    | some size =>
      if size = 0 ∨ size > 0xFFFF ∨ total > uint32Max - size then none
      else addSizes profiles (total + size)

def encodedSize (p : M4Profiles) : Option Nat :=
  if !validRoster p then none else addSizes p.toList headerBytes

/-- The loop of `encode_into`: the sizes and the records. -/
def encodeRecords : List CompiledSvDeviceProfile → Option (List (Nat × Bytes))
  | [] => some []
  | profile :: profiles =>
    match SvDeviceProfileBinaryCodec.encodedSize profile with
    | none => none
    | some size =>
      let encoded := SvDeviceProfileBinaryCodec.encodeInto profile size
      if !encoded.1.success ∨ encoded.1.bytes ≠ size then none
      else
        match encodeRecords profiles with
        | none => none
        | some records => some ((size, encoded.2) :: records)

def envelopeFields (total : Nat) (crc : UInt32) (sizes : List Nat) : List Bytes :=
  [kMagic, u16 m4ThreeSvBinaryVersion, [.ofNat m4ThreeSvCapacity], [0], u32 (.ofNat total),
    u32 crc, u32 m4ThreeSvRateHz] ++ (sizes.map fun size => u16 (.ofNat size)) ++ [[0], [0]]

def container (total : Nat) (crc : UInt32) (records : List (Nat × Bytes)) : Bytes :=
  (envelopeFields total crc (records.map Prod.fst)).flatten ++ (records.map Prod.snd).flatten

/-- The result, and what is written to a destination of the given size. -/
def encodeInto (p : M4Profiles) (destinationSize : Nat) : M4ThreeSvBinaryResult × Bytes :=
  match encodedSize p with
  | none => ({ status := .invalidProfile }, [])
  | some total =>
    if destinationSize < total then ({ status := .bufferTooSmall, bytes := total }, [])
    else
      match encodeRecords p.toList with
      | none => ({ status := .invalidProfile }, [])
      | some records =>
        ({ status := .ok, bytes := total },
          container total (envelopeCrc (container total 0 records)) records)

/-- The lengths of the records, as the envelope says. -/
def recordLengths (source : Bytes) : List Nat :=
  (List.range m4ThreeSvCapacity).map fun i => (readU16 source (kLengthOffset + 2 * i)).toNat

/-- The loop over the lengths: their sum, with the envelope. -/
def sumLengths (source : Bytes) : List Nat → Nat → Option Nat
  | [], sum => some sum
  | length :: lengths, sum =>
    if length = 0 ∨ length > source.length - sum then none
    else sumLengths source lengths (sum + length)

/-- The loop over the records. -/
def decodeRecords (source : Bytes) : List Nat → Nat → Option (List CompiledSvDeviceProfile)
  | [], _ => some []
  | length :: lengths, offset =>
    let inner := SvDeviceProfileBinaryCodec.decode (slice source offset length)
    if !inner.1.success ∨ inner.1.bytes ≠ length then none
    else
      match decodeRecords source lengths (offset + length) with
      | none => none
      | some profiles => some (inner.2 :: profiles)

def decodeContainer (source : Bytes) : Except M4ThreeSvBinaryStatus M4Profiles :=
  if source.length < headerBytes then .error .invalidLength
  else if source.take 4 ≠ kMagic then .error .invalidMagic
  else if readU16 source 4 ≠ m4ThreeSvBinaryVersion then .error .unsupportedVersion
  else if (octetAt source 6).toNat ≠ m4ThreeSvCapacity ∨ octetAt source 7 ≠ 0 ∨
      (readU32 source 8).toNat ≠ source.length ∨ readU32 source 16 ≠ m4ThreeSvRateHz ∨
      octetAt source 26 ≠ 0 ∨ octetAt source 27 ≠ 0 then .error .invalidLength
  else if sumLengths source (recordLengths source) headerBytes ≠ some source.length then
    .error .invalidLength
  else if readU32 source kCrcOffset ≠ envelopeCrc source then .error .checksumMismatch
  else
    match decodeRecords source (recordLengths source) headerBytes with
    | none => .error .invalidProfile
    | some profiles =>
      let candidate : M4Profiles := padded _ {} profiles
      if !validRoster candidate then .error .invalidProfile else .ok candidate

/-- The result, and the roster of the caller afterwards. -/
def decode (source : Bytes) (destination : M4Profiles) : M4ThreeSvBinaryResult × M4Profiles :=
  match decodeContainer source with
  | .error status => ({ status }, destination)
  | .ok candidate => ({ status := .ok, bytes := source.length }, candidate)

end M4ThreeSvBinaryCodec

end ArStack.SampledValues
