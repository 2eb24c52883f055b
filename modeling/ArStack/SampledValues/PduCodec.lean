import ArStack.Asn1.BerReader
import ArStack.Asn1.BerSpanWriter
import ArStack.Mms.DataCodec

/-!
# The Sampled Values PDU

The encoder computes the size of the PDU, then writes it from the front and notes where the
values of an ASDU stand. The writers return what the destination holds so far, so that the
source's `offset` is its length.

* `SampledValuesPduCodec.encodedSize`, `encodeIntoWithLayout`, `tryDecode`
-/

namespace ArStack.SampledValues

open ArStack.Asn1 ArStack.Lib ArStack.Mms ArStack.Wire

structure SampledValueAsdu where
  svId : Bytes := []
  dataSetReference : Bytes := []
  sampleCount : UInt16 := 0
  configurationRevision : UInt32 := 1
  referenceTime : Option Iec61850UtcTime := none
  sampleSynchronization : UInt8 := 0
  sampleRate : Option UInt16 := none
  sampleMode : Option UInt16 := none
  samplePayload : Bytes := []
  gmIdentity : Option (OctetArray 8) := none
  deriving DecidableEq

structure SampledValuesPdu where
  asdus : List SampledValueAsdu := []
  deriving DecidableEq

structure SampledValuesEncodedFieldRegion where
  valueOffset : Nat := 0
  valueSize : Nat := 0
  present : Bool := false
  deriving DecidableEq

structure SampledValueAsduEncodeLayout where
  sampleCount : SampledValuesEncodedFieldRegion := {}
  configurationRevision : SampledValuesEncodedFieldRegion := {}
  referenceTime : SampledValuesEncodedFieldRegion := {}
  sampleSynchronization : SampledValuesEncodedFieldRegion := {}
  sampleRate : SampledValuesEncodedFieldRegion := {}
  samplePayload : SampledValuesEncodedFieldRegion := {}
  sampleMode : SampledValuesEncodedFieldRegion := {}
  deriving DecidableEq

def savPduApplicationTag : UInt8 := 0x60

def sequenceTag : UInt8 := 0x30

def contextPrimitiveBase : UInt8 := 0x80

def contextConstructedBase : UInt8 := 0xA0

/-! ## Sizes -/

def berLengthOctets (valueLength : Nat) : Option Nat :=
  if valueLength < 0x80 then some 1
  else if valueLength > uint32Max then none
  else some (1 + octetCount 4 valueLength)

def tlvSize (valueLength : Nat) : Option Nat := do
  let lengthSize ← berLengthOctets valueLength
  let total ← addSize 1 lengthSize
  addSize total valueLength

/-- The loop of `unsigned_integer_size`, over at most eight octets. -/
def unsignedIntegerSizeFrom : Nat → Nat → Nat
  | 0, _ => 1
  | octets + 1, value =>
    if value > 0xFF then 1 + unsignedIntegerSizeFrom octets (value >>> 8) else 1

def unsignedIntegerSize (value : UInt64) : Nat := unsignedIntegerSizeFrom 7 value.toNat

def contextBytesSize (valueLength : Nat) : Option Nat := tlvSize valueLength

def contextUnsignedSize (value : UInt64) : Option Nat := tlvSize (unsignedIntegerSize value)

/-- `add_tlv` -/
def addTlv (total : Nat) (size : Option Nat) : Option Nat := size.bind (addSize total)

def asduContentSize (asdu : SampledValueAsdu) : Option Nat := do
  let total ← addTlv 0 (contextBytesSize asdu.svId.length)
  let total ←
    if asdu.dataSetReference = [] then some total
    else addTlv total (contextBytesSize asdu.dataSetReference.length)
  let total ← addTlv total (contextBytesSize 2)
  let total ← addTlv total (contextBytesSize 4)
  let total ←
    match asdu.referenceTime with
    | none => some total
    | some time =>
      match time.toBytes with
      | .error _ => none
      | .ok timestamp => addTlv total (contextBytesSize timestamp.length)
  let total ← addTlv total (contextBytesSize 1)
  let total ← if asdu.sampleRate.isSome then addTlv total (contextBytesSize 2) else some total
  let total ← addTlv total (contextBytesSize asdu.samplePayload.length)
  let total ← if asdu.sampleMode.isSome then addTlv total (contextBytesSize 2) else some total
  match asdu.gmIdentity with
  | none => some total
  | some identity => addTlv total (contextBytesSize identity.octets.length)

def asduEncodedSize (asdu : SampledValueAsdu) : Option Nat := (asduContentSize asdu).bind tlvSize

/-- The loop of `sequence_value_size`. -/
def sequenceValueSizeFrom : Nat → List SampledValueAsdu → Option Nat
  | total, [] => some total
  | total, asdu :: asdus => do
    let size ← asduEncodedSize asdu
    let total ← addSize total size
    sequenceValueSizeFrom total asdus

def sequenceValueSize (pdu : SampledValuesPdu) : Option Nat := sequenceValueSizeFrom 0 pdu.asdus

/-! ## Writing -/

/-- The octets of a long length, from the last one on. -/
def lengthBytes : Nat → Nat → Bytes → Bytes
  | 0, _, bytes => bytes
  | octets + 1, value, bytes =>
    if value = 0 then bytes
    else lengthBytes octets (value >>> 8) (.ofNat (value &&& 0xFF) :: bytes)

def writeLength (out : Bytes) (valueLength : Nat) : Bytes :=
  if valueLength < 0x80 then out ++ [.ofNat valueLength]
  else
    let bytes := lengthBytes 4 valueLength []
    out ++ [0x80 ||| .ofNat bytes.length] ++ bytes

def writeTlvHeader (out : Bytes) (tag : UInt8) (valueLength : Nat) : Bytes :=
  writeLength (out ++ [tag]) valueLength

def writeString (out : Bytes) (tagNumber : UInt8) (value : Bytes) : Bytes :=
  writeTlvHeader out (contextPrimitiveBase ||| tagNumber) value.length ++ value

def writeUnsigned (out : Bytes) (tagNumber : UInt8) (value : UInt64) : Bytes :=
  let valueSize := unsignedIntegerSize value
  writeTlvHeader out (contextPrimitiveBase ||| tagNumber) valueSize ++ beOctets valueSize value.toNat

/-- A value at the end of what has been written, and where it stands. -/
def writeValue (out value : Bytes) : Bytes × SampledValuesEncodedFieldRegion :=
  (out ++ value, { valueOffset := out.length, valueSize := value.length, present := true })

def writeUnsignedFixed (out : Bytes) (tag : UInt8) (value width : Nat) :
    Bytes × SampledValuesEncodedFieldRegion :=
  let out := writeTlvHeader out (contextPrimitiveBase ||| tag) width
  writeValue out (beOctets width value)

/-- An optional field of two octets. -/
def writeIfPresent (out : Bytes) (tag : UInt8) (value : Option UInt16) :
    Bytes × SampledValuesEncodedFieldRegion :=
  match value with
  | none => (out, {})
  | some value => writeUnsignedFixed out tag value.toNat 2

/-- The octets with the ASDU and its layout. -/
def writeAsdu (asdu : SampledValueAsdu) (out : Bytes) :
    Option (Bytes × SampledValueAsduEncodeLayout) := do
  let contentSize ← asduContentSize asdu
  let out := writeTlvHeader out sequenceTag contentSize
  let out := writeString out 0 asdu.svId
  let out := if asdu.dataSetReference = [] then out else writeString out 1 asdu.dataSetReference
  let sampleCount := writeUnsignedFixed out 2 asdu.sampleCount.toNat 2
  let configurationRevision :=
    writeUnsignedFixed sampleCount.1 3 asdu.configurationRevision.toNat 4
  let referenceTime ←
    match asdu.referenceTime with
    | none => some (configurationRevision.1, {})
    | some time =>
      match time.toBytes with
      | .error _ => none
      | .ok timestamp =>
        some (writeValue
          (writeTlvHeader configurationRevision.1 (contextPrimitiveBase ||| 4) timestamp.length)
          timestamp)
  let sampleSynchronization :=
    writeUnsignedFixed referenceTime.1 5 asdu.sampleSynchronization.toNat 1
  let sampleRate := writeIfPresent sampleSynchronization.1 6 asdu.sampleRate
  let out := writeTlvHeader sampleRate.1 (contextPrimitiveBase ||| 7) asdu.samplePayload.length
  let samplePayload := writeValue out asdu.samplePayload
  let sampleMode := writeIfPresent samplePayload.1 8 asdu.sampleMode
  let out :=
    match asdu.gmIdentity with
    | none => sampleMode.1
    | some identity =>
      writeTlvHeader sampleMode.1 (contextPrimitiveBase ||| 9) identity.octets.length ++
        identity.octets
  some (out,
    { sampleCount := sampleCount.2
      configurationRevision := configurationRevision.2
      referenceTime := referenceTime.2
      sampleSynchronization := sampleSynchronization.2
      sampleRate := sampleRate.2
      samplePayload := samplePayload.2
      sampleMode := sampleMode.2 })

/-- The loop over the ASDUs: what has been written, unless an ASDU fails, and the layouts. -/
def writeAsdus : List SampledValueAsdu → Bytes → List SampledValueAsduEncodeLayout →
    Option Bytes × List SampledValueAsduEncodeLayout
  | [], out, written => (some out, written)
  | asdu :: asdus, out, written =>
    match writeAsdu asdu out with
    | none => (none, written)
    | some (out, layout) => writeAsdus asdus out (written ++ [layout])

/-! ## Reading -/

def readUnsignedExact (field : BerTlv) (maximum : Nat) : Option Nat :=
  match BerReader.readUnsignedInteger field with
  | none => none
  | some decoded => if decoded > maximum then none else some decoded

/-- One field of an ASDU; `none` where `read_asdu` returns `false`. -/
def readAsduField (asdu : SampledValueAsdu) (field : BerTlv) :
    Except String (Option SampledValueAsdu) :=
  if field.tagClass ≠ .contextSpecific ∨ field.constructed then .ok (some asdu)
  else
    match field.tagNumber with
    | 0 => .ok (some { asdu with svId := field.value })
    | 1 => .ok (some { asdu with dataSetReference := field.value })
    | 2 => .ok ((readUnsignedExact field 0xFFFF).map fun n => { asdu with sampleCount := .ofNat n })
    | 3 =>
      .ok ((readUnsignedExact field uint32Max).map fun n =>
        { asdu with configurationRevision := .ofNat n })
    | 4 => do
      let time ← Iec61850UtcTime.fromBytes field.value
      .ok (some { asdu with referenceTime := some time })
    | 5 =>
      .ok ((readUnsignedExact field 0xFF).map fun n =>
        { asdu with sampleSynchronization := .ofNat n })
    | 6 =>
      .ok ((readUnsignedExact field 0xFFFF).map fun n => { asdu with sampleRate := some (.ofNat n) })
    | 7 => .ok (some { asdu with samplePayload := field.value })
    | 8 =>
      .ok ((readUnsignedExact field 0xFFFF).map fun n => { asdu with sampleMode := some (.ofNat n) })
    | 9 =>
      .ok ((OctetArray.ofSpan 8 field.value).map fun identity =>
        { asdu with gmIdentity := some identity })
    | _ => .ok (some asdu)

def readAsduFields : List BerTlv → SampledValueAsdu → Except String (Option SampledValueAsdu)
  | [], asdu => .ok (some asdu)
  | field :: fields, asdu => do
    match ← readAsduField asdu field with
    | none => .ok none
    | some asdu => readAsduFields fields asdu

def readAsdu (asduValue : Bytes) : Except String (Option SampledValueAsdu) := do
  let fields ← BerReader.readChildren asduValue
  readAsduFields fields { configurationRevision := 0, sampleSynchronization := 0 }

/-- The loop of `read_asdu_sequence`, after the ASDUs read so far. -/
def readAsdus : List BerTlv → List SampledValueAsdu → Except String (Option (List SampledValueAsdu))
  | [], asdus => .ok (some asdus)
  | child :: children, asdus =>
    if child.tagClass ≠ .universal ∨ child.tagNumber ≠ 16 ∨ !child.constructed then .ok none
    else do
      match ← readAsdu child.value with
      | none => .ok none
      | some asdu => readAsdus children (asdus ++ [asdu])

def readAsduSequence (sequenceValue : Bytes) (asdus : List SampledValueAsdu) :
    Except String (Option (List SampledValueAsdu)) := do
  let children ← BerReader.readChildren sequenceValue
  readAsdus children asdus

/-- What `try_decode` has found among the fields of the PDU. -/
structure PduFields where
  declaredAsduCount : Option UInt16 := none
  asdus : List SampledValueAsdu := []
  deriving DecidableEq

def readPduFields : List BerTlv → PduFields → Except String (Option PduFields)
  | [], found => .ok (some found)
  | field :: fields, found =>
    if field.tagClass ≠ .contextSpecific then readPduFields fields found
    else if field.tagNumber = 0 ∧ !field.constructed then
      match readUnsignedExact field 0xFFFF with
      | none => .ok none
      | some count => readPduFields fields { found with declaredAsduCount := some (.ofNat count) }
    else if field.tagNumber = 2 ∧ field.constructed then do
      match ← readAsduSequence field.value found.asdus with
      | none => .ok none
      | some asdus => readPduFields fields { found with asdus := asdus }
    else readPduFields fields found

namespace SampledValuesPduCodec

def encodedSize (pdu : SampledValuesPdu) : Option Nat :=
  if pdu.asdus.length > 0xFFFF then none
  else do
    let sequenceSize ← sequenceValueSize pdu
    let countFieldSize ← contextUnsignedSize (.ofNat pdu.asdus.length)
    let sequenceFieldSize ← tlvSize sequenceSize
    let contentSize ← addSize 0 countFieldSize
    let contentSize ← addSize contentSize sequenceFieldSize
    tlvSize contentSize

/-- The result and the layouts, for a destination of `capacity` octets. -/
def encodeIntoWithLayout (pdu : SampledValuesPdu) (capacity : Nat)
    (layouts : List SampledValueAsduEncodeLayout) :
    EncodeResult × List SampledValueAsduEncodeLayout :=
  if layouts ≠ [] ∧ layouts.length < pdu.asdus.length then
    ({ status := .valueOutOfRange }, layouts)
  else
    let layouts := layouts.map fun _ => {}
    match encodedSize pdu with
    | none => ({ status := .valueOutOfRange }, layouts)
    | some required =>
      if capacity < required then
        ({ status := .bufferTooSmall, requiredBytes := required }, layouts)
      else
        let sequenceSize := sequenceValueSize pdu
        match sequenceSize, contextUnsignedSize (.ofNat pdu.asdus.length),
          sequenceSize.bind tlvSize with
        | some sequenceSize, some countFieldSize, some sequenceFieldSize =>
          let contentSize := countFieldSize + sequenceFieldSize
          let out := writeTlvHeader [] savPduApplicationTag contentSize
          let out := writeUnsigned out 0 (.ofNat pdu.asdus.length)
          let out := writeTlvHeader out (contextConstructedBase ||| 2) sequenceSize
          let written := writeAsdus pdu.asdus out []
          let layouts := if layouts = [] then [] else written.2 ++ layouts.drop written.2.length
          match written.1 with
          | none => ({ status := .valueOutOfRange, requiredBytes := required }, layouts)
          | some out => ({ bytes := out, requiredBytes := required }, layouts)
        | _, _, _ => ({ status := .valueOutOfRange }, layouts)

/-- What is thrown while reading is caught. -/
def tryDecode (apdu : Bytes) : Option SampledValuesPdu :=
  match BerReader.tryReadTlv apdu with
  | some (outer, []) =>
    if outer.tagClass ≠ .application ∨ outer.tagNumber ≠ 0 ∨ !outer.constructed then none
    else
      match (BerReader.readChildren outer.value).bind fun fields => readPduFields fields {} with
      | .error _ => none
      | .ok none => none
      | .ok (some found) =>
        if found.declaredAsduCount.any fun count => found.asdus.length ≠ count.toNat then none
        else some { asdus := found.asdus }
  | _ => none

end SampledValuesPduCodec

end ArStack.SampledValues
