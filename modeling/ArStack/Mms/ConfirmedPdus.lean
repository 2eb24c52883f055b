import ArStack.Mms.Pdu
import ArStack.Mms.PduSpan

/-!
# Confirmed PDUs of both codecs

The fields of a confirmed PDU as the callers give them, with the signed tags of the source, and
the PDUs of confirmed errors. The span codec knows one error only: access, object-non-existent.

* `MmsPduCodec.encodeResponse`, `MmsPduSpanCodec.encodeResponseInto`
* `MmsPduCodec.encodeConfirmedError`, `MmsPduSpanCodec.encodeConfirmedErrorInto`
-/

namespace ArStack.Mms

open ArStack.Asn1 ArStack.Wire Detail

/-- `MmsConfirmedResponse` -/
structure MmsResponseFields where
  invokeId : UInt32 := 0
  serviceTag : Int32 := 0
  serviceConstructed : Bool := true
  serviceValue : Bytes := []
  deriving DecidableEq

/-- `MmsConfirmedError` -/
structure MmsErrorFields where
  invokeId : UInt32 := 0
  errorClassTag : Int32 := 0
  errorValue : UInt32 := 0
  deriving DecidableEq

/-- The response that the decoder has for the fields. -/
def MmsResponseFields.confirmed (response : MmsResponseFields) : MmsConfirmed where
  invokeId := response.invokeId.toNat
  serviceTag := response.serviceTag.toInt.toNat
  serviceConstructed := response.serviceConstructed
  serviceValue := response.serviceValue

/-- The error that the decoder has for the fields. -/
def MmsErrorFields.confirmed (error : MmsErrorFields) : MmsConfirmedError where
  invokeId := error.invokeId.toNat
  errorClassTag := error.errorClassTag.toInt.toNat
  errorValue := error.errorValue.toNat

namespace MmsPduCodec

/-- `encode_confirmed_response`: the check of a negative tag stands behind that of the invoke
identifier. -/
def encodeResponse (response : MmsResponseFields) : Except String Bytes :=
  if response.invokeId.toNat > maximumInvokeId then
    .error "MMS invoke ID exceeds the supported range."
  else if response.serviceTag < 0 then .error "MMS confirmed service tag is invalid."
  else encodeConfirmedResponse response.confirmed

def encodeConfirmedError (error : MmsErrorFields) : Except String Bytes :=
  if error.invokeId.toNat > maximumInvokeId ∨ error.errorClassTag < 0 ∨
      error.errorClassTag > 1000000 then
    .error "MMS Confirmed-Error fields are invalid."
  else do
    let invoke ← BerWriter.encodeTlv .contextSpecific false 0
      (positiveIntegerContent error.invokeId.toUInt64)
    let classChoice ← BerWriter.encodeTlv .contextSpecific false error.errorClassTag.toInt
      (positiveIntegerContent error.errorValue.toUInt64)
    let errorClass ← BerWriter.encodeTagged 0xA0 classChoice
    let serviceError ← BerWriter.encodeTagged 0xA2 errorClass
    let body ← concat [invoke, serviceError]
    BerWriter.encodeTagged 0xA2 body

end MmsPduCodec

namespace MmsPduSpanCodec

/-- `encode_confirmed_response_into` -/
def encodeResponseInto (response : MmsResponseFields) (destinationSize : Nat) : EncodeResult :=
  if response.serviceTag < 0 then { status := .valueOutOfRange }
  else
    encodeConfirmedResponseInto response.invokeId response.serviceTag.toInt.toNat
      response.serviceConstructed response.serviceValue destinationSize

/-- `write_positive_integer` of the compatibility PDUs, which gets the size with the prefix. -/
def writeSizedInteger (writer : BerSpanWriter) (value : UInt32) (bytes : Nat) :
    Option BerSpanWriter := do
  let encodedBytes :=
    bytes - if bytes > 1 ∧ value >>> UInt32.ofNat ((bytes - 2) * 8) ≤ 0xFF then 1 else 0
  let writer ← writeIf (decide (encodedBytes < bytes)) (·.writeByte 0) writer
  writer.writeBytes (Lib.beOctets encodedBytes value.toNat)

structure ErrorSizes where
  invokeBytes : Nat
  accessTlv : Nat
  errorClassTlv : Nat
  content : Nat
  required : Nat

def errorSizes (invokeId : UInt32) : Option ErrorSizes := do
  let invokeBytes := positiveIntegerSize invokeId
  let invokeTlv ← BerSpanWriter.tlvSize 0 invokeBytes
  let accessTlv ← BerSpanWriter.tlvSize 7 1
  let errorClassTlv ← BerSpanWriter.tlvSize 0 accessTlv
  let serviceErrorTlv ← BerSpanWriter.tlvSize 2 errorClassTlv
  let content ← addSize invokeTlv serviceErrorTlv
  let required ← BerSpanWriter.tlvSize 2 content
  some { invokeBytes, accessTlv, errorClassTlv, content, required }

def writeConfirmedError (invokeId : UInt32) (sizes : ErrorSizes) : Option BerSpanWriter := do
  let writer : BerSpanWriter := { capacity := sizes.required }
  let writer ← writer.writeTlvHeader .contextSpecific true 2 sizes.content
  let writer ← writer.writeTlvHeader .contextSpecific false 0 sizes.invokeBytes
  let writer ← writeSizedInteger writer invokeId sizes.invokeBytes
  let writer ← writer.writeTlvHeader .contextSpecific true 2 sizes.errorClassTlv
  let writer ← writer.writeTlvHeader .contextSpecific true 0 sizes.accessTlv
  let writer ← writer.writeTlvHeader .contextSpecific false 7 1
  let writer ← writer.writeByte 2
  if writer.size ≠ sizes.required then none else some writer

/-- The error of an optional object that does not exist. -/
def encodeConfirmedErrorInto (invokeId : UInt32) (destinationSize : Nat) : EncodeResult :=
  if invokeId > maximumInvokeId then { status := .valueOutOfRange }
  else
    match errorSizes invokeId with
    | none => { status := .valueOutOfRange }
    | some sizes =>
      if destinationSize < sizes.required then
        { status := .bufferTooSmall, requiredBytes := sizes.required }
      else
        match writeConfirmedError invokeId sizes with
        | none => { status := .valueOutOfRange, requiredBytes := sizes.required }
        | some writer => { bytes := writer.out, requiredBytes := sizes.required }

end MmsPduSpanCodec

end ArStack.Mms
