import ArStack.Lib.Throws
import ArStack.Osi.Presentation

/-!
# MMS PDU envelopes

`MmsPduCodec.decodeEnvelope` tells the kind of a PDU, its invoke identifier and whether it is
an InformationReport. The PDU may come alone or in the P-DATA of an association.

* `MmsPduCodec.encodeConfirmed`, `MmsPduCodec.wrapPData`
* `MmsPduCodec.extractMmsPayload`, `MmsPduCodec.decodeEnvelope`
* `MmsPduEnvelope.confirmedResult`, `MmsPduEnvelope.matchesInvoke`
-/

namespace ArStack.Mms

open ArStack.Asn1 ArStack.Osi

inductive MmsPduKind where
  | unknown
  | confirmedRequest
  | confirmedResponse
  | confirmedError
  | unconfirmed
  | reject
  | cancelRequest
  | cancelResponse
  | cancelError
  | initiateRequest
  | initiateResponse
  | initiateError
  | concludeRequest
  | concludeResponse
  | concludeError
  deriving DecidableEq

structure MmsPduEnvelope where
  kind : MmsPduKind := .unknown
  invokeId : Option Nat := none
  serviceTag : Option Nat := none
  informationReport : Bool := false
  mmsPayload : Bytes := []
  deriving DecidableEq

def MmsPduEnvelope.confirmedResult (envelope : MmsPduEnvelope) : Bool :=
  envelope.kind == .confirmedResponse || envelope.kind == .confirmedError ||
    envelope.kind == .reject

def MmsPduEnvelope.matchesInvoke (envelope : MmsPduEnvelope) (expected : Nat) : Bool :=
  envelope.invokeId == some expected

/-- `MmsConfirmedRequest` and `MmsConfirmedResponse` have the same fields. -/
structure MmsConfirmed where
  invokeId : Nat := 0
  serviceTag : Nat := 0
  serviceConstructed : Bool := true
  serviceValue : Bytes := []
  deriving DecidableEq

structure MmsConfirmedError where
  invokeId : Nat := 0
  errorClassTag : Nat := 0
  errorValue : Nat := 0
  deriving DecidableEq

/-- `concat`, with the text of the error. -/
def concatWithin (limit : Nat) (tooLong : String) (parts : List Bytes) : Except String Bytes :=
  if parts.flatten.length > limit then .error tooLong else .ok parts.flatten

/-- The shortest content that does not have the sign of a negative number. -/
def positiveIntegerContent (value : UInt64) : Bytes :=
  match BerWriter.encodeUnsignedInteger value with
  | [] => [0]
  | first :: rest => if first &&& 0x80 ≠ 0 then 0 :: first :: rest else first :: rest

namespace MmsPduCodec

def maximumPduBytes : Nat := 1024 * 1024
def maximumInvokeId : Nat := 0x7FFFFFFF

def concat (parts : List Bytes) : Except String Bytes :=
  concatWithin maximumPduBytes "MMS encoded length exceeds the configured limit." parts

/-- `encode_confirmed_common`. -/
def encodeConfirmed (outerTag : UInt8) (confirmed : MmsConfirmed) : Except String Bytes :=
  if confirmed.invokeId > maximumInvokeId then
    .error "MMS invoke ID exceeds the supported range."
  else if confirmed.serviceTag > 1000000 then .error "MMS confirmed service tag is invalid."
  else if confirmed.serviceValue.length > maximumPduBytes then
    .error "MMS confirmed service payload is too large."
  else do
    let invoke ← BerWriter.encodeTagged 0x02 (positiveIntegerContent (.ofNat confirmed.invokeId))
    let service ← BerWriter.encodeTlv .contextSpecific confirmed.serviceConstructed
      confirmed.serviceTag confirmed.serviceValue
    let body ← concat [invoke, service]
    BerWriter.encodeTagged outerTag body

def encodeConfirmedRequest (request : MmsConfirmed) : Except String Bytes :=
  encodeConfirmed 0xA0 request

def encodeConfirmedResponse (response : MmsConfirmed) : Except String Bytes :=
  encodeConfirmed 0xA1 response

def wrapPData (mmsPayload : Bytes) (presentationContextId : UInt32) : Except String Bytes :=
  if mmsPayload = [] ∨ mmsPayload.length > maximumPduBytes then
    .error "MMS payload is empty or too large."
  else PresentationCodec.encodePData mmsPayload presentationContextId true

def readU32 (tlv : BerTlv) (fieldName : String) : Except String Nat :=
  match BerReader.readUnsignedInteger tlv with
  | some value =>
    if value > uint32Max then .error (fieldName ++ " is not a valid unsigned 32-bit value.")
    else .ok value
  | none => .error (fieldName ++ " is not a valid unsigned 32-bit value.")

def readOuterExact (bytes : Bytes) (expectedTag : UInt8) (name : String) : Except String BerTlv :=
  if bytes = [] ∨ bytes.length > maximumPduBytes then
    .error (name ++ " length is outside the configured limit.")
  else
    match BerReader.tryReadTlv bytes with
    | some (outer, []) =>
      if outer.encodedTag ≠ expectedTag ∨ outer.constructed = false then
        .error (name ++ " has an unexpected top-level tag.")
      else .ok outer
    | _ => .error (name ++ " is not one exact BER TLV.")

/-- The TLV has the form of an invoke identifier. -/
def invokeTlv (tlv : BerTlv) : Bool :=
  (tlv.tagClass == .universal && tlv.tagNumber == 2 && !tlv.constructed) ||
    (tlv.tagClass == .contextSpecific && tlv.tagNumber == 0 && !tlv.constructed)

def decodeInvokeTlv (tlv : BerTlv) : Except String Nat :=
  if !invokeTlv tlv then .error "MMS PDU does not begin with a valid invoke ID."
  else do
    let value ← readU32 tlv "MMS invoke ID"
    if value > maximumInvokeId then .error "MMS invoke ID exceeds the supported range."
    else .ok value

/-- `decode_confirmed_common`: the first child is the invoke identifier, the last the service. -/
def decodeConfirmed (bytes : Bytes) (expectedTag : UInt8) (name : String) :
    Except String MmsConfirmed := do
  let outer ← readOuterExact bytes expectedTag name
  let children ← BerReader.readChildren outer.value
  if children.length < 2 ∨ children.length > 4 then
    .error (name ++ " must contain invoke ID and one service.")
  else
    let invokeId ← decodeInvokeTlv (children.headD {})
    let service := children.getLastD {}
    if service.tagClass ≠ .contextSpecific then
      .error (name ++ " service is not context-specific.")
    else
      .ok
        { invokeId
          serviceTag := service.tagNumber
          serviceConstructed := service.constructed
          serviceValue := service.value }

def decodeConfirmedRequest (bytes : Bytes) : Except String MmsConfirmed :=
  decodeConfirmed bytes 0xA0 "MMS Confirmed-Request"

def decodeConfirmedResponse (bytes : Bytes) : Except String MmsConfirmed :=
  decodeConfirmed bytes 0xA1 "MMS Confirmed-Response"

def decodeConfirmedError (bytes : Bytes) : Except String MmsConfirmedError := do
  let outer ← readOuterExact bytes 0xA2 "MMS Confirmed-Error"
  match ← BerReader.readChildren outer.value with
  | [invoke, serviceError] =>
    let invokeId ← decodeInvokeTlv invoke
    if serviceError.encodedTag ≠ 0xA2 ∨ serviceError.constructed = false then
      .error "MMS Confirmed-Error serviceError field is invalid."
    else
      match ← BerReader.readChildren serviceError.value with
      | [wrapper] =>
        if wrapper.encodedTag ≠ 0xA0 ∨ wrapper.constructed = false then
          .error "MMS Confirmed-Error errorClass wrapper is invalid."
        else
          match ← BerReader.readChildren wrapper.value with
          | [choice] =>
            if choice.tagClass ≠ .contextSpecific ∨ choice.constructed = true then
              .error "MMS Confirmed-Error class choice is invalid."
            else
              let errorValue ← readU32 choice "MMS service error value"
              .ok { invokeId, errorClassTag := choice.tagNumber, errorValue }
          | _ => .error "MMS Confirmed-Error class choice is invalid."
      | _ => .error "MMS Confirmed-Error errorClass wrapper is invalid."
  | _ => .error "MMS Confirmed-Error must contain invoke ID and serviceError."

def kindForTag (tag : UInt8) : MmsPduKind :=
  if tag = 0xA0 then .confirmedRequest
  else if tag = 0xA1 then .confirmedResponse
  else if tag = 0xA2 then .confirmedError
  else if tag = 0xA3 then .unconfirmed
  else if tag = 0xA4 then .reject
  else if tag = 0xA5 then .cancelRequest
  else if tag = 0xA6 then .cancelResponse
  else if tag = 0xA7 then .cancelError
  else if tag = 0xA8 then .initiateRequest
  else if tag = 0xA9 then .initiateResponse
  else if tag = 0xAA then .initiateError
  else if tag = 0x8B then .concludeRequest
  else if tag = 0x8C then .concludeResponse
  else if tag = 0xAD then .concludeError
  else .unknown

/-- The first of the first two children that has the form of an invoke identifier decides. -/
def tryReadInvokeFromChildren (children : List BerTlv) : Option Nat :=
  match (children.take 2).find? invokeTlv with
  | none => none
  | some child => (decodeInvokeTlv child).toOption

def extractMmsPayload (payload : Bytes) : Except String Bytes :=
  if payload = [] ∨ payload.length > maximumPduBytes then
    .error "MMS/presentation payload length is outside the configured limit."
  else if kindForTag (octetAt payload 0) ≠ .unknown then .ok payload
  else
    match PresentationCodec.tryDecodePData payload with
    | .error error => .error ("MMS presentation P-DATA decode failed: " ++ error)
    | .ok pdv =>
      if pdv.singleAsn1Type = [] ∨ pdv.singleAsn1Type.length > maximumPduBytes then
        .error "MMS presentation PDV payload is empty or too large."
      else .ok pdv.singleAsn1Type

/-- The fields of a constructed PDU that its kind has. -/
def decodeFields (envelope : MmsPduEnvelope) (mms : Bytes) (children : List BerTlv) :
    Except String MmsPduEnvelope :=
  match envelope.kind with
  | .confirmedRequest => do
    let decoded ← decodeConfirmedRequest mms
    .ok { envelope with invokeId := some decoded.invokeId, serviceTag := some decoded.serviceTag }
  | .confirmedResponse => do
    let decoded ← decodeConfirmedResponse mms
    .ok { envelope with invokeId := some decoded.invokeId, serviceTag := some decoded.serviceTag }
  | .confirmedError => do
    let decoded ← decodeConfirmedError mms
    .ok { envelope with invokeId := some decoded.invokeId }
  | .reject | .cancelRequest | .cancelResponse | .cancelError =>
    .ok { envelope with invokeId := tryReadInvokeFromChildren children }
  | .unconfirmed =>
    .ok
      { envelope with
        informationReport := children.any fun child =>
          child.tagClass == .contextSpecific && child.tagNumber == 0 && child.constructed }
  | _ => .ok envelope

def decodeEnvelope (payload : Bytes) : Except String MmsPduEnvelope := do
  let mms ← extractMmsPayload payload
  match BerReader.tryReadTlv mms with
  | some (outer, []) =>
    let envelope : MmsPduEnvelope := { kind := kindForTag outer.encodedTag, mmsPayload := mms }
    if envelope.kind = .unknown then .error "Unknown MMS top-level PDU tag."
    else if !outer.constructed then .ok envelope
    else
      let children ← BerReader.readChildren outer.value
      decodeFields envelope mms children
  | _ => .error "MMS envelope is not one exact BER TLV."

end MmsPduCodec

/-- An InformationReport is not a confirmed result. -/
theorem MmsPduCodec.confirmedResult_of_informationReport {payload : Bytes}
    {envelope : MmsPduEnvelope} (h : decodeEnvelope payload = .ok envelope)
    (hreport : envelope.informationReport = true) : envelope.confirmedResult = false := by
  rw [decodeEnvelope] at h
  obtain ⟨mms, -, h⟩ := Lib.except_bind_ok h
  split at h
  · dsimp only at h
    split at h
    · cases h
    split at h
    · cases h
      cases hreport
    obtain ⟨children, -, h⟩ := Lib.except_bind_ok h
    rw [decodeFields] at h
    split at h
    all_goals rename_i hkind
    all_goals try obtain ⟨decoded, -, h⟩ := Lib.except_bind_ok h
    all_goals cases h
    -- only an unconfirmed PDU is marked
    all_goals first | cases hreport | skip
    rw [MmsPduEnvelope.confirmedResult]
    dsimp only at hkind ⊢
    rw [hkind]
    rfl
  · cases h

end ArStack.Mms
