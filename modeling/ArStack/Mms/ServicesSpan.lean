import ArStack.Mms.PduSpan

/-!
# MMS services in spans

The services that the server decodes from confirmed requests and the responses it encodes.

* `MmsServiceSpanCodec.tryDecodeObjectNameView`
* `MmsServiceSpanCodec.tryDecodeWriteRequest`, `encodeWriteResponseInto`
* `MmsServiceSpanCodec.tryDecodeVariableAccessAttributesRequest` and its response
-/

namespace ArStack.Mms

open ArStack.Asn1 ArStack.Wire Detail

structure MmsWriteAccessResultInput where
  success : Bool := false
  failureCode : UInt32 := 0
  deriving DecidableEq

/-- A request whose lists have been read; `names` and `data` have the same length. -/
structure MmsWriteRequestView where
  invokeId : UInt32 := 0
  names : List MmsObjectNameView := []
  data : List Bytes := []
  deriving DecidableEq

namespace MmsServiceSpanCodec

def validIdentifierTlv (tlv : BerTlvView) : Bool :=
  !tlv.constructed && tlv.tagClass == .universal &&
    (tlv.tagNumber == 22 || tlv.tagNumber == 26) && visibleAscii tlv.value maximumIdentifierBytes

def validMmsDataTlv (tlv : BerTlvView) : Bool :=
  if tlv.tagClass ≠ .contextSpecific then false
  else if tlv.tagNumber = 1 ∨ tlv.tagNumber = 2 then tlv.constructed
  else decide (tlv.tagNumber ≥ 3) && decide (tlv.tagNumber ≤ 17) && !tlv.constructed

/-! ## Names -/

def tryDecodeObjectNameView (encodedObjectName : Bytes) : Option MmsObjectNameView := do
  let outer ← BerSpanReader.tryReadExact encodedObjectName
  if outer.tagClass ≠ .contextSpecific then none
  else if (outer.tagNumber = 0 ∨ outer.tagNumber = 2) ∧ !outer.constructed then
    if !visibleAscii outer.value maximumIdentifierBytes then none
    else
      some
        { kind := if outer.tagNumber = 0 then .vmdSpecific else .aaSpecific, item := outer.value }
  else if outer.tagNumber ≠ 1 ∨ !outer.constructed then none
  else
    match ← readTlvs 2 outer.value with
    | [domain, item] =>
      if !validIdentifierTlv domain || !validIdentifierTlv item then none
      else some { kind := .domainSpecific, domain := domain.value, item := item.value }
    | _ => none

/-- The name in one element of a list of variables. -/
def decodeVariableDefinition (definition : BerTlvView) : Option MmsObjectNameView :=
  if definition.tagClass ≠ .universal ∨ definition.tagNumber ≠ 16 ∨ !definition.constructed then
    none
  else do
    let wrapper ← BerSpanReader.tryReadExact definition.value
    if wrapper.tagClass ≠ .contextSpecific ∨ wrapper.tagNumber ≠ 0 ∨ !wrapper.constructed then none
    else tryDecodeObjectNameView wrapper.value

/-- The names of a list of variables, at most `limit` of them. -/
def readVariables (limit : Nat) (variableList : Bytes) : Option (List MmsObjectNameView) := do
  let definitions ← readTlvs limit variableList
  definitions.mapM decodeVariableDefinition

/-- The encoded Data values of a list, at most `limit` of them. -/
def readDataValues : Nat → Bytes → Option (List Bytes)
  | _, [] => some []
  | 0, _ => none
  | limit + 1, dataList => do
    let (value, rest) ← BerSpanReader.tryReadTlv dataList
    if !validMmsDataTlv value then none
    else do
      let values ← readDataValues limit rest
      some (dataList.take value.encodedBytes :: values)

/-! ## Confirmed responses -/

structure ConfirmedResponseSizing where
  invokeValue : Nat
  outerContent : Nat
  required : Nat
  deriving DecidableEq

def confirmedResponseSizing (invokeId : UInt32) (serviceTag serviceContent : Nat) :
    Option ConfirmedResponseSizing :=
  if invokeId > MmsPduSpanCodec.maximumInvokeId ∨ serviceTag > 1000000 then none
  else do
    let invokeValue := positiveIntegerSize invokeId
    let invokeTlv ← BerSpanWriter.tlvSize 2 invokeValue
    let serviceTlv ← BerSpanWriter.tlvSize serviceTag serviceContent
    let outerContent ← addSize invokeTlv serviceTlv
    let required ← BerSpanWriter.tlvSize 1 outerContent
    if required > maximumPduBytes then none else some { invokeValue, outerContent, required }

def writeConfirmedResponsePrefix (writer : BerSpanWriter) (sizing : ConfirmedResponseSizing)
    (invokeId : UInt32) (serviceTag serviceContent : Nat) : Option BerSpanWriter := do
  let writer ← writer.writeTlvHeader .contextSpecific true 1 sizing.outerContent
  let writer ← writer.writeTlvHeader .universal false 2 sizing.invokeValue
  let writer ← writePositiveContent writer invokeId
  writer.writeTlvHeader .contextSpecific true serviceTag serviceContent

/-- A confirmed response of a service whose content `write` writes. -/
def encodeConfirmedResponseInto (invokeId : UInt32) (serviceTag serviceContent : Nat)
    (write : BerSpanWriter → Option BerSpanWriter) (destinationSize : Nat) : EncodeResult :=
  match confirmedResponseSizing invokeId serviceTag serviceContent with
  | none => { status := .valueOutOfRange }
  | some sizing =>
    if destinationSize < sizing.required then
      { status := .bufferTooSmall, requiredBytes := sizing.required }
    else
      match (writeConfirmedResponsePrefix { capacity := sizing.required } sizing invokeId serviceTag
          serviceContent).bind write with
      | none => { status := .valueOutOfRange, requiredBytes := sizing.required }
      | some writer =>
        if writer.size ≠ sizing.required then
          { status := .valueOutOfRange, requiredBytes := sizing.required }
        else { bytes := writer.out, requiredBytes := sizing.required }

/-! ## Write -/

def tryDecodeWriteRequest (confirmed : MmsConfirmedPduView) : Option MmsWriteRequestView :=
  if confirmed.kind ≠ .confirmedRequest ∨ confirmed.serviceTag ≠ 5 ∨
      !confirmed.serviceConstructed then none
  else do
    match ← readTlvs 2 confirmed.serviceValue with
    | [variableList, dataList] =>
      if variableList.tagClass ≠ .contextSpecific ∨ variableList.tagNumber ≠ 0 ∨
          !variableList.constructed ∨ dataList.tagClass ≠ .contextSpecific ∨ dataList.tagNumber ≠ 0 ∨
          !dataList.constructed then none
      else do
        let names ← readVariables maximumVariables variableList.value
        let values ← readDataValues maximumVariables dataList.value
        if names = [] ∨ names.length ≠ values.length then none
        else some { invokeId := confirmed.invokeId, names, data := values }
    | _ => none

def writeResultSize (result : MmsWriteAccessResultInput) : Option Nat :=
  if result.success then BerSpanWriter.tlvSize 1 0
  else BerSpanWriter.tlvSize 0 (positiveIntegerSize result.failureCode)

def writeResultsSize : List MmsWriteAccessResultInput → Option Nat
  | [] => some 0
  | result :: results => do addSize (← writeResultSize result) (← writeResultsSize results)

def writeWriteResult (writer : BerSpanWriter) (result : MmsWriteAccessResultInput) :
    Option BerSpanWriter :=
  if result.success then writer.writeTlvHeader .contextSpecific false 1 0
  else do
    let writer ← writer.writeTlvHeader .contextSpecific false 0
      (positiveIntegerSize result.failureCode)
    writePositiveContent writer result.failureCode

def encodeWriteResponseInto (invokeId : UInt32) (results : List MmsWriteAccessResultInput)
    (destinationSize : Nat) : EncodeResult :=
  if results = [] ∨ results.length > maximumVariables then { status := .valueOutOfRange }
  else
    match writeResultsSize results with
    | none => { status := .valueOutOfRange }
    | some serviceContent =>
      encodeConfirmedResponseInto invokeId 5 serviceContent
        (fun writer => results.foldlM writeWriteResult writer) destinationSize

/-! ## GetVariableAccessAttributes -/

def tryDecodeVariableAccessAttributesRequest (confirmed : MmsConfirmedPduView) :
    Option MmsObjectNameView :=
  if confirmed.kind ≠ .confirmedRequest ∨ confirmed.serviceTag ≠ 6 ∨
      !confirmed.serviceConstructed then none
  else do
    let wrapper ← BerSpanReader.tryReadExact confirmed.serviceValue
    if wrapper.tagClass ≠ .contextSpecific ∨ wrapper.tagNumber ≠ 0 ∨ !wrapper.constructed then none
    else tryDecodeObjectNameView wrapper.value

def encodeVariableAccessAttributesResponseInto (invokeId : UInt32) (mmsDeletable : Bool)
    (encodedTypeSpecification : Bytes) (destinationSize : Nat) : EncodeResult :=
  if (BerSpanReader.tryReadExact encodedTypeSpecification).all
      (·.tagClass != .contextSpecific) then { status := .valueOutOfRange }
  else
    let sizes : Option Nat := do
      let deletableTlv ← BerSpanWriter.tlvSize 0 1
      let typeWrapper ← BerSpanWriter.tlvSize 2 encodedTypeSpecification.length
      addSize deletableTlv typeWrapper
    match sizes with
    | none => { status := .valueOutOfRange }
    | some serviceContent =>
      encodeConfirmedResponseInto invokeId 6 serviceContent
        (fun writer => do
          let writer ← writer.writeTlvHeader .contextSpecific false 0 1
          let writer ← writer.writeByte (if mmsDeletable then 0xFF else 0x00)
          let writer ←
            writer.writeTlvHeader .contextSpecific true 2 encodedTypeSpecification.length
          writer.writeBytes encodedTypeSpecification) destinationSize

end MmsServiceSpanCodec

end ArStack.Mms
