import ArStack.Asn1.BerReader
import ArStack.Asn1.BerWriter

/-!
# P-DATA

What the client side reads and writes of the session and presentation layers behind an
association: a data-transfer SPDU of two or four octets, and fully encoded data with one
presentation data value.

* `SessionCodec.tryDecodeDataTransfer`, `SessionCodec.encodeDataTransfer`
* `PresentationCodec.tryDecodePData`, `PresentationCodec.encodePData`
-/

namespace ArStack.Osi

open ArStack.Asn1

structure SessionDataTransfer where
  hasGiveTokensPrefix : Bool := false
  presentationPayload : Bytes := []
  deriving DecidableEq

namespace SessionCodec

def dataTransferCode : UInt8 := 0x01

def tryDecodeDataTransfer (bytes : Bytes) : Except String SessionDataTransfer :=
  if bytes.length < 2 then .error "ISO Session data-transfer profile is truncated."
  else if bytes.take 4 = [dataTransferCode, 0x00, dataTransferCode, 0x00] then
    .ok { hasGiveTokensPrefix := true, presentationPayload := bytes.drop 4 }
  else if bytes.take 2 = [dataTransferCode, 0x00] then
    .ok { hasGiveTokensPrefix := false, presentationPayload := bytes.drop 2 }
  else .error "ISO Session data-transfer profile has an invalid SPDU prefix."

def encodeDataTransfer (presentationPayload : Bytes) (includeGiveTokensPrefix : Bool) : Bytes :=
  (if includeGiveTokensPrefix then [dataTransferCode, 0x00] else []) ++
    [dataTransferCode, 0x00] ++ presentationPayload

end SessionCodec

structure PresentationPdv where
  contextId : Nat := 0
  singleAsn1Type : Bytes := []
  deriving DecidableEq

namespace PresentationCodec

def maximumPpduBytes : Nat := 1024 * 1024

def readPositiveInteger (tlv : BerTlv) (fieldName : String) : Except String Nat :=
  match BerReader.readUnsignedInteger tlv with
  | some value =>
    if value = 0 ∨ value > uint32Max then .error (fieldName ++ " is outside the supported range.")
    else .ok value
  | none => .error (fieldName ++ " is outside the supported range.")

/-- The octets are one TLV with this tag. -/
def readSingleTlv (bytes : Bytes) (expectedTag : UInt8) (description : String) :
    Except String BerTlv :=
  match BerReader.tryReadTlv bytes with
  | some (tlv, []) =>
    if tlv.encodedTag = expectedTag then .ok tlv else .error ("Invalid " ++ description ++ ".")
  | _ => .error ("Invalid " ++ description ++ ".")

/-- The fields of a PDV-list read so far. -/
structure PdvFields where
  contextId : Option Nat := none
  payload : Option Bytes := none
  deriving DecidableEq

def pdvField (fields : PdvFields) (field : BerTlv) : Except String PdvFields :=
  if field.encodedTag = 0x02 then
    if fields.contextId.isSome then
      .error "Presentation PDV contains duplicate context identifiers."
    else do
      let contextId ← readPositiveInteger field "Presentation PDV context identifier"
      .ok { fields with contextId := some contextId }
  else if field.encodedTag = 0xA0 then
    if fields.payload.isSome then
      .error "Presentation PDV contains duplicate single-ASN.1 values."
    else .ok { fields with payload := some field.value }
  else .error "Presentation PDV contains an unsupported field."

def pdvFields : PdvFields → List BerTlv → Except String PdvFields
  | fields, [] => .ok fields
  | fields, field :: rest => do
    let fields ← pdvField fields field
    pdvFields fields rest

def tryDecodeFullyEncodedData (bytes : Bytes) : Except String PresentationPdv :=
  if bytes = [] ∨ bytes.length > maximumPpduBytes then
    .error "Presentation fully-encoded-data size is outside the supported range."
  else do
    let outer ← readSingleTlv bytes 0x61 "Presentation fully-encoded-data"
    match ← BerReader.readChildren outer.value with
    | [pdvList] =>
      if pdvList.encodedTag ≠ 0x30 then
        .error "Presentation fully-encoded-data must contain one PDV-list."
      else
        match ← pdvFields {} (← BerReader.readChildren pdvList.value) with
        | { contextId := some contextId, payload := some singleAsn1Type } =>
          .ok { contextId, singleAsn1Type }
        | _ => .error "Presentation PDV-list is incomplete."
    | _ => .error "Presentation fully-encoded-data must contain one PDV-list."

def tryDecodePData (bytes : Bytes) : Except String PresentationPdv :=
  if bytes ≠ [] ∧ octetAt bytes 0 = SessionCodec.dataTransferCode then do
    let transfer ← SessionCodec.tryDecodeDataTransfer bytes
    tryDecodeFullyEncodedData transfer.presentationPayload
  else tryDecodeFullyEncodedData bytes

def encodeInteger (value : UInt32) : Except String Bytes :=
  BerWriter.encodeTagged 0x02 (BerWriter.encodeUnsignedInteger value.toUInt64)

def encodeFullyEncodedData (contextId : UInt32) (singleAsn1Type : Bytes) : Except String Bytes :=
  if contextId = 0 then .error "Presentation PDV context identifier must be positive."
  else if singleAsn1Type.length > maximumPpduBytes then
    .error "Presentation PDV payload exceeds the bounded limit."
  else do
    let id ← encodeInteger contextId
    let payload ← BerWriter.encodeTagged 0xA0 singleAsn1Type
    let pdvList ← BerWriter.encodeTagged 0x30 (id ++ payload)
    BerWriter.encodeTagged 0x61 pdvList

def encodePData (abstractSyntaxPayload : Bytes) (presentationContextId : UInt32)
    (includeGiveTokensPrefix : Bool) : Except String Bytes := do
  let fullyEncoded ← encodeFullyEncodedData presentationContextId abstractSyntaxPayload
  .ok (SessionCodec.encodeDataTransfer fullyEncoded includeGiveTokensPrefix)

end PresentationCodec

end ArStack.Osi
