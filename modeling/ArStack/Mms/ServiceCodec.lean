import ArStack.Mms.DataCodec
import ArStack.Mms.Services

/-!
# Requests and responses of the client

`MmsServiceCodec` encodes and decodes GetNameList, Read and Write. A message is the value of a
confirmed service; its P-DATA form is the same message in presentation data.

* `MmsServiceCodec.encodeObjectName`
* `MmsServiceCodec.encodeGetNameListRequestPdu`, `MmsServiceCodec.decodeGetNameListRequest`, and so
  on for the other messages
-/

namespace ArStack.Mms

open ArStack.Asn1

inductive MmsGetNameListObjectClass where
  | namedVariable
  | namedVariableList
  | domain
  deriving DecidableEq

def MmsGetNameListObjectClass.toUInt32 : MmsGetNameListObjectClass → UInt32
  | .namedVariable => 0
  | .namedVariableList => 2
  | .domain => 9

structure MmsWriteAccessResult where
  success : Bool := false
  failureCode : Option UInt32 := none
  deriving DecidableEq

structure MmsWriteResponse where
  invokeId : UInt32 := 0
  results : List MmsWriteAccessResult := []
  deriving DecidableEq

namespace MmsServiceCodec

def maximumIdentifiers : Nat := 4096
def maximumVariables : Nat := 4096

/-! ## Parts of messages -/

def concat (parts : List Bytes) : Except String Bytes :=
  concatWithin MmsPduCodec.maximumPduBytes "MMS service encoding exceeds the configured limit." parts

def visibleString (value : Bytes) : Except String Bytes := do
  validateIdentifier value "MMS identifier"
  BerWriter.encodeTagged 0x1A value

def readU32 (tlv : BerTlv) (field : String) : Except String UInt32 :=
  match BerReader.readUnsignedInteger tlv with
  | some value =>
    if value > uint32Max then .error (field ++ " is not an unsigned 32-bit value.")
    else .ok (.ofNat value)
  | none => .error (field ++ " is not an unsigned 32-bit value.")

def confirmedResponseFor (payload : Bytes) (expectedService : Nat)
    (expectedInvoke : Option UInt32) : Except String MmsConfirmed := do
  let mms ← MmsPduCodec.extractMmsPayload payload
  let response ← MmsPduCodec.decodeConfirmedResponse mms
  if expectedInvoke.any fun expected => response.invokeId != expected.toNat then
    .error "MMS Confirmed-Response invoke ID does not match the expected value."
  else if response.serviceTag ≠ expectedService then
    .error "MMS Confirmed-Response service tag does not match the expected service."
  else .ok response

def encodeObjectName (name : MmsObjectName) : Except String Bytes :=
  match name.kind with
  | .vmdSpecific => do
    validateIdentifier name.item "MMS VMD-specific name"
    BerWriter.encodeTlv .contextSpecific false 0 name.item
  | .domainSpecific => do
    validateIdentifier name.domain "MMS domain ID"
    validateIdentifier name.item "MMS item ID"
    let domain ← visibleString name.domain
    let item ← visibleString name.item
    let body ← concat [domain, item]
    BerWriter.encodeTagged 0xA1 body
  | .aaSpecific => do
    validateIdentifier name.item "MMS association-specific name"
    BerWriter.encodeTlv .contextSpecific false 2 name.item

def encodeVariableDefinition (name : MmsObjectName) : Except String Bytes := do
  let objectName ← encodeObjectName name
  let specificationName ← BerWriter.encodeTagged 0xA0 objectName
  BerWriter.encodeTagged 0x30 specificationName

/-- The definitions of `names`, behind those that are encoded already. -/
def encodeDefinitions (tooLarge : String) :
    Bytes → List MmsObjectName → Except String Bytes
  | definitions, [] => .ok definitions
  | definitions, name :: names => do
    let encoded ← encodeVariableDefinition name
    if encoded.length > MmsPduCodec.maximumPduBytes - definitions.length then .error tooLarge
    else encodeDefinitions tooLarge (definitions ++ encoded) names

/-- One definition; the texts are those of the file that decodes it. -/
def decodeDefinition (notSequence wrapperInvalid : String) (definition : BerTlv) :
    Except String MmsObjectName :=
  if definition.encodedTag ≠ 0x30 ∨ definition.constructed = false then .error notSequence
  else do
    let fields ← BerReader.readChildren definition.value
    let wrapper := fields.headD {}
    if fields.length ≠ 1 ∨ wrapper.encodedTag ≠ 0xA0 ∨ wrapper.constructed = false then
      .error wrapperInvalid
    else decodeObjectName wrapper.value

/-- The TLV is the choice of that number. -/
def isChoice (tlv : BerTlv) (number : Nat) (constructed : Bool) : Bool :=
  tlv.tagClass == .contextSpecific && tlv.tagNumber == number && tlv.constructed == constructed

/-- A message in presentation data. -/
def pData {α : Type} (encodePdu : α → Except String Bytes) (message : α)
    (presentationContextId : UInt32) : Except String Bytes := do
  let pdu ← encodePdu message
  MmsPduCodec.wrapPData pdu presentationContextId

/-! ## GetNameList -/

def encodeWriteAccessResult (result : MmsWriteAccessResult) : Except String Bytes :=
  if result.success then BerWriter.encodeTlv .contextSpecific false 1 []
  else
    match result.failureCode with
    | some failureCode =>
      BerWriter.encodeTlv .contextSpecific false 0 (positiveIntegerContent failureCode.toUInt64)
    | none => .error "MMS Write failure result has no failure code."

def encodeWriteResponsePdu (response : MmsWriteResponse) : Except String Bytes :=
  if response.results = [] ∨ response.results.length > maximumVariables then
    .error "MMS Write response result count is outside the configured limit."
  else do
    let results ← response.results.mapM encodeWriteAccessResult
    MmsPduCodec.encodeConfirmedResponse
      { invokeId := response.invokeId.toNat, serviceTag := 5, serviceValue := results.flatten }

def decodeWriteResult (field : BerTlv) : Except String MmsWriteAccessResult :=
  if field.tagClass ≠ .contextSpecific ∨ field.constructed = true then
    .error "MMS Write response contains an invalid result."
  else if field.tagNumber = 1 then
    if field.value ≠ [] then .error "MMS Write success result must be empty."
    else .ok { success := true }
  else if field.tagNumber = 0 then do
    let failureCode ← readU32 field "MMS Write failure code"
    .ok { success := false, failureCode := some failureCode }
  else .error "Unsupported MMS Write response result choice."

def decodeWriteResponse (payload : Bytes) (expectedInvokeId : Option UInt32 := none) :
    Except String MmsWriteResponse := do
  let confirmed ← confirmedResponseFor payload 5 expectedInvokeId
  if confirmed.serviceConstructed = false ∧ confirmed.serviceValue = [] then
    .ok { invokeId := .ofNat confirmed.invokeId, results := [{ success := true }] }
  else
    let fields ← BerReader.readChildren confirmed.serviceValue
    if fields = [] ∨ fields.length > maximumVariables then
      .error "MMS Write response result count is outside the configured limit."
    else
      let results ← fields.mapM decodeWriteResult
      .ok { invokeId := .ofNat confirmed.invokeId, results }

end MmsServiceCodec

end ArStack.Mms
