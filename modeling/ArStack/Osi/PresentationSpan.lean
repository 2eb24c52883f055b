import ArStack.Asn1.BerSpanWriter
import ArStack.Osi.Presentation

/-!
# P-DATA in spans

What the server reads and writes of the session and presentation layers behind an association.

* `SessionSpanCodec.tryDecodeDataTransferView`
* `PresentationSpanCodec.fullyEncodedDataSize`, `encodePDataInto` — sizes and octets of P-DATA
* `PresentationSpanCodec.tryDecodeFullyEncodedDataView`
-/

namespace ArStack.Osi

open ArStack.Asn1 ArStack.Wire

namespace SessionSpanCodec

def dataTransferCode : UInt8 := 0x01

def tryDecodeDataTransferView (bytes : Bytes) : Option SessionDataTransfer :=
  if bytes.length < 2 then none
  else if bytes.take 4 = [dataTransferCode, 0x00, dataTransferCode, 0x00] then
    some { hasGiveTokensPrefix := true, presentationPayload := bytes.drop 4 }
  else if bytes.take 2 = [dataTransferCode, 0x00] then
    some { hasGiveTokensPrefix := false, presentationPayload := bytes.drop 2 }
  else none

end SessionSpanCodec

namespace PresentationSpanCodec

def maximumPpduBytes : Nat := 1024 * 1024

def unsignedIntegerSize (value : UInt32) : Nat :=
  if value ≤ 0xFF then 1
  else if value ≤ 0xFFFF then 2
  else if value ≤ 0xFFFFFF then 3
  else 4

structure FullyEncodedSizes where
  idValue : Nat
  sequenceContent : Nat
  sequenceTlv : Nat
  outerTlv : Nat
  deriving DecidableEq

def calculateFullyEncodedSizes (contextId : UInt32) (payloadBytes : Nat) :
    Option FullyEncodedSizes :=
  if contextId = 0 ∨ payloadBytes > maximumPpduBytes then none
  else do
    let idValue := unsignedIntegerSize contextId
    let idTlv ← BerSpanWriter.tlvSize 2 idValue
    let payloadTlv ← BerSpanWriter.tlvSize 0 payloadBytes
    let sequenceContent ← addSize idTlv payloadTlv
    let sequenceTlv ← BerSpanWriter.tlvSize 16 sequenceContent
    let outerTlv ← BerSpanWriter.tlvSize 1 sequenceTlv
    if outerTlv > maximumPpduBytes then none
    else some { idValue, sequenceContent, sequenceTlv, outerTlv }

def fullyEncodedDataSize (contextId : UInt32) (singleAsn1TypeBytes : Nat) : Option Nat :=
  (calculateFullyEncodedSizes contextId singleAsn1TypeBytes).map (·.outerTlv)

def writeFullyEncodedData (sizes : FullyEncodedSizes) (contextId : UInt32) (singleAsn1Type : Bytes) :
    Option BerSpanWriter := do
  let writer : BerSpanWriter := { capacity := sizes.outerTlv }
  let writer ← writer.writeTlvHeader .application true 1 sizes.sequenceTlv
  let writer ← writer.writeTlvHeader .universal true 16 sizes.sequenceContent
  let writer ← writer.writeTlvHeader .universal false 2 sizes.idValue
  let writer ← writer.writeBytes (Lib.beOctets (unsignedIntegerSize contextId) contextId.toNat)
  let writer ← writer.writeTlvHeader .contextSpecific true 0 singleAsn1Type.length
  let writer ← writer.writeBytes singleAsn1Type
  if writer.size ≠ sizes.outerTlv then none else some writer

def encodeFullyEncodedDataInto (contextId : UInt32) (singleAsn1Type : Bytes)
    (destinationSize : Nat) : EncodeResult :=
  match calculateFullyEncodedSizes contextId singleAsn1Type.length with
  | none => { status := .valueOutOfRange }
  | some sizes =>
    if destinationSize < sizes.outerTlv then
      { status := .bufferTooSmall, requiredBytes := sizes.outerTlv }
    else
      match writeFullyEncodedData sizes contextId singleAsn1Type with
      | none => { status := .valueOutOfRange, requiredBytes := sizes.outerTlv }
      | some writer => { bytes := writer.out, requiredBytes := sizes.outerTlv }

/-- The octets of the session layer, with or without the give-tokens SPDU. -/
def sessionPrefix (includeGiveTokensPrefix : Bool) : Bytes :=
  let dataTransfer := [SessionSpanCodec.dataTransferCode, 0x00]
  if includeGiveTokensPrefix then dataTransfer ++ dataTransfer else dataTransfer

def encodePDataInto (abstractSyntaxPayload : Bytes) (destinationSize : Nat)
    (presentationContextId : UInt32) (includeGiveTokensPrefix : Bool) : EncodeResult :=
  match fullyEncodedDataSize presentationContextId abstractSyntaxPayload.length with
  | none => { status := .valueOutOfRange }
  | some fullyEncoded =>
    let sessionOctets := sessionPrefix includeGiveTokensPrefix
    if fullyEncoded > sizeMax - sessionOctets.length then { status := .valueOutOfRange }
    else
      let required := sessionOctets.length + fullyEncoded
      if destinationSize < required then
        { status := .bufferTooSmall, requiredBytes := required }
      else
        let result :=
          encodeFullyEncodedDataInto presentationContextId abstractSyntaxPayload fullyEncoded
        if !result.success || result.bytesWritten != fullyEncoded then
          { status := result.status, requiredBytes := required }
        else { bytes := sessionOctets ++ result.bytes, requiredBytes := required }

/-! ## Reading -/

structure PresentationPdvView where
  contextId : UInt32 := 0
  singleAsn1Type : Bytes := []
  deriving DecidableEq

def readPositiveInteger (tlv : BerTlvView) : Option UInt32 := do
  let value ← BerSpanReader.readUint32 tlv
  if value = 0 then none else some value

/-- The fields of a PDV-list. Every field takes an octet at least, so the number of octets is
enough fuel. -/
def decodePdvFields : Nat → Option UInt32 → Option Bytes → Bytes →
    Option (Option UInt32 × Option Bytes)
  | _, contextId, payload, [] => some (contextId, payload)
  | 0, _, _, _ => none
  | fuel + 1, contextId, payload, bytes => do
    let (field, rest) ← BerSpanReader.tryReadTlv bytes
    if field.tagClass = .universal ∧ field.tagNumber = 2 ∧ !field.constructed then
      if contextId.isSome then none
      else do
        let value ← readPositiveInteger field
        decodePdvFields fuel (some value) payload rest
    else if field.tagClass = .contextSpecific ∧ field.tagNumber = 0 ∧ field.constructed then
      if payload.isSome then none else decodePdvFields fuel contextId (some field.value) rest
    else none

def decodeFullyEncodedOuter (outer : BerTlvView) : Option PresentationPdvView :=
  if outer.tagClass ≠ .application ∨ outer.tagNumber ≠ 1 ∨ !outer.constructed then none
  else do
    let sequence ← BerSpanReader.tryReadExact outer.value
    if sequence.tagClass ≠ .universal ∨ sequence.tagNumber ≠ 16 ∨ !sequence.constructed then none
    else
      match ← decodePdvFields sequence.value.length none none sequence.value with
      | (some contextId, some singleAsn1Type) => some { contextId, singleAsn1Type }
      | _ => none

def tryDecodeFullyEncodedDataView (bytes : Bytes) : Option PresentationPdvView :=
  if bytes = [] ∨ bytes.length > maximumPpduBytes then none
  else do
    let outer ← BerSpanReader.tryReadExact bytes
    decodeFullyEncodedOuter outer

end PresentationSpanCodec

end ArStack.Osi
