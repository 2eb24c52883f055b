import ArStack.Mms.BufferedReportSpan

/-!
# MMS PDUs in spans

What the server reads and writes of MMS PDUs: the Initiate exchange, confirmed requests, their
responses and their rejection.

* `MmsPduSpanCodec.tryDecodeInitiateRequestView`, `encodeInitiateResponseInto`
* `MmsPduSpanCodec.tryDecodeConfirmedRequestView`, `encodeConfirmedRequestRejectInto`
* `encodeConfirmedResponseInto`, and the PDUs of Identify and Conclude
-/

namespace ArStack.Mms

open ArStack.Asn1 ArStack.Wire Detail

inductive MmsWirePduKind where
  | unknown
  | confirmedRequest
  | confirmedResponse
  | initiateRequest
  | initiateResponse
  deriving DecidableEq

inductive MmsWireConfirmedService where
  | unknown
  | getNameList
  | identify
  | read
  | write
  | getVariableAccessAttributes
  | getNamedVariableListAttributes
  | fileOpen
  | fileRead
  | fileClose
  | fileDelete
  | fileDirectory
  deriving DecidableEq

inductive MmsConfirmedRequestRejectReason where
  | other
  | unrecognizedService
  | invalidArgument
  deriving DecidableEq

def MmsConfirmedRequestRejectReason.toUInt8 : MmsConfirmedRequestRejectReason → UInt8
  | .other => 0
  | .unrecognizedService => 1
  | .invalidArgument => 4

structure MmsInitiateDetailView where
  versionNumber : UInt32 := 0
  parameterSupportOptions : Bytes := []
  servicesSupportedCalling : Bytes := []
  deriving DecidableEq

structure MmsInitiateView where
  kind : MmsWirePduKind := .unknown
  maximumMmsPduSize : UInt32 := 0
  maximumOutstandingCalling : UInt32 := 0
  maximumOutstandingCalled : UInt32 := 0
  dataStructureNestingLevel : UInt32 := 0
  detail : MmsInitiateDetailView := {}
  deriving DecidableEq

structure MmsConfirmedPduView where
  kind : MmsWirePduKind := .unknown
  invokeId : UInt32 := 0
  serviceTag : Nat := 0
  serviceConstructed : Bool := false
  serviceValue : Bytes := []
  deriving DecidableEq

def MmsConfirmedPduView.service (confirmed : MmsConfirmedPduView) : MmsWireConfirmedService :=
  match confirmed.serviceTag with
  | 1 => .getNameList
  | 2 => .identify
  | 4 => .read
  | 5 => .write
  | 6 => .getVariableAccessAttributes
  | 12 => .getNamedVariableListAttributes
  | 72 => .fileOpen
  | 73 => .fileRead
  | 74 => .fileClose
  | 76 => .fileDelete
  | 77 => .fileDirectory
  | _ => .unknown

/-- The TLVs that fill a span, at most `limit` of them. -/
def readTlvs : Nat → Bytes → Option (List BerTlvView)
  | _, [] => some []
  | 0, _ => none
  | limit + 1, bytes => do
    let (tlv, rest) ← BerSpanReader.tryReadTlv bytes
    let tlvs ← readTlvs limit rest
    some (tlv :: tlvs)

namespace MmsPduSpanCodec

def maximumBitStringBytes : Nat := 256
def maximumInvokeId : UInt32 := 0x7FFFFFFF

/-! ## Initiate -/

/-- A child that is the only one with its tag number. -/
def tagged (children : List BerTlvView) (tagNumber : Nat) : Option BerTlvView :=
  children.find? (·.tagNumber == tagNumber)

def distinctTags (children : List BerTlvView) : Bool :=
  decide (children.map (·.tagNumber)).Nodup

def bitString (tlv : BerTlvView) : Option Bytes :=
  if tlv.value = [] ∨ tlv.value.length > maximumBitStringBytes then none else some tlv.value

def decodeDetail (field : BerTlvView) : Option MmsInitiateDetailView :=
  if field.tagClass ≠ .contextSpecific ∨ field.tagNumber ≠ 4 ∨ !field.constructed then none
  else do
    let children ← readTlvs 3 field.value
    if !(children.all fun child =>
        child.tagClass == .contextSpecific && !child.constructed && decide (child.tagNumber ≤ 2)) ||
        !distinctTags children then none
    else do
      let versionNumber ← BerSpanReader.readUint32 (← tagged children 0)
      let parameterSupportOptions ← bitString (← tagged children 1)
      let servicesSupportedCalling ← bitString (← tagged children 2)
      some { versionNumber, parameterSupportOptions, servicesSupportedCalling }

/-- A number of an Initiate PDU, if it is there. -/
def initiateValue (children : List BerTlvView) (tagNumber : Nat) : Option (Option UInt32) :=
  match tagged children tagNumber with
  | none => some none
  | some child =>
    if child.constructed then none else (BerSpanReader.readUint32 child).map some

def initiateDetail (children : List BerTlvView) : Option (Option MmsInitiateDetailView) :=
  match tagged children 4 with
  | none => some none
  | some child => (decodeDetail child).map some

/-- The size of a PDU that a peer may propose. -/
def pduSizeInRange (value : UInt32) : Bool :=
  decide (64 ≤ value) && decide (value.toNat ≤ maximumPduBytes)

def decodeInitiate (bytes : Bytes) (expectedTag : Nat) (kind : MmsWirePduKind) :
    Option MmsInitiateView :=
  if bytes = [] ∨ bytes.length > maximumPduBytes then none
  else do
    let outer ← BerSpanReader.tryReadExact bytes
    if outer.tagClass ≠ .contextSpecific ∨ outer.tagNumber ≠ expectedTag ∨ !outer.constructed then
      none
    else do
      let children ← readTlvs 5 outer.value
      if !(children.all fun child =>
          child.tagClass == .contextSpecific && decide (child.tagNumber ≤ 4)) ||
          !distinctTags children then none
      else do
        let localDetail ← initiateValue children 0
        let calling ← (← initiateValue children 1)
        let called ← (← initiateValue children 2)
        let nestingLevel ← initiateValue children 3
        let detail ← (← initiateDetail children)
        if kind ≠ .initiateRequest ∧ (localDetail = none ∨ nestingLevel = none) ∨
            !localDetail.all pduSizeInRange ∨ calling = 0 ∨ called = 0 ∨
            nestingLevel = some 0 then none
        else
          some
            { kind
              maximumMmsPduSize := localDetail.getD (UInt32.ofNat maximumPduBytes)
              maximumOutstandingCalling := calling
              maximumOutstandingCalled := called
              dataStructureNestingLevel := nestingLevel.getD 5
              detail }

def tryDecodeInitiateRequestView (bytes : Bytes) : Option MmsInitiateView :=
  decodeInitiate bytes 8 .initiateRequest

def initiateResponseDetail : Bytes :=
  [0x80, 0x01, 0x01, 0x81, 0x03, 0x05, 0xF1, 0x00, 0x82, 0x0C, 0x03, 0x4E, 0x08, 0x00, 0x00, 0x00,
    0x00, 0x00, 0x00, 0x00, 0x00, 0x00]

/-- The octets of the numbers of an Initiate response, the first one with this tag. -/
def initiateValuesSize : Nat → List UInt32 → Option Nat
  | _, [] => some 0
  | tagNumber, value :: values => do
    let field ← BerSpanWriter.tlvSize tagNumber (positiveIntegerSize value)
    addSize field (← initiateValuesSize (tagNumber + 1) values)

def writeInitiateValues : Nat → List UInt32 → BerSpanWriter → Option BerSpanWriter
  | _, [], writer => some writer
  | tagNumber, value :: values, writer => do
    let writer ←
      writer.writeTlvHeader .contextSpecific false tagNumber (positiveIntegerSize value)
    let writer ← writePositiveContent writer value
    writeInitiateValues (tagNumber + 1) values writer

def initiateResponseSizes (values : List UInt32) : Option (Nat × Nat) := do
  let numbers ← initiateValuesSize 0 values
  let detail ← BerSpanWriter.tlvSize 4 initiateResponseDetail.length
  let contentSize ← addSize numbers detail
  let required ← BerSpanWriter.tlvSize 9 contentSize
  some (contentSize, required)

def writeInitiateResponse (values : List UInt32) (contentSize required : Nat) :
    Option BerSpanWriter := do
  let writer : BerSpanWriter := { capacity := required }
  let writer ← writer.writeTlvHeader .contextSpecific true 9 contentSize
  let writer ← writeInitiateValues 0 values writer
  let writer ← writer.writeTlvHeader .contextSpecific true 4 initiateResponseDetail.length
  let writer ← writer.writeBytes initiateResponseDetail
  if writer.size ≠ required then none else some writer

def encodeInitiateResponseInto (maximumMmsPduSize maximumOutstandingCalling
    maximumOutstandingCalled dataStructureNestingLevel : UInt32) (destinationSize : Nat) :
    EncodeResult :=
  if !pduSizeInRange maximumMmsPduSize ∨ maximumOutstandingCalling = 0 ∨
      maximumOutstandingCalled = 0 ∨ dataStructureNestingLevel = 0 then
    { status := .valueOutOfRange }
  else
    let values := [maximumMmsPduSize, maximumOutstandingCalling, maximumOutstandingCalled,
      dataStructureNestingLevel]
    match initiateResponseSizes values with
    | none => { status := .valueOutOfRange }
    | some (contentSize, required) =>
      if destinationSize < required then { status := .bufferTooSmall, requiredBytes := required }
      else
        match writeInitiateResponse values contentSize required with
        | none => { status := .valueOutOfRange, requiredBytes := required }
        | some writer => { bytes := writer.out, requiredBytes := required }

/-! ## Confirmed requests -/

def decodeInvoke (tlv : BerTlvView) : Option UInt32 :=
  let universalInteger := tlv.tagClass == .universal && tlv.tagNumber == 2 && !tlv.constructed
  let implicitInvoke := tlv.tagClass == .contextSpecific && tlv.tagNumber == 0 && !tlv.constructed
  if !universalInteger && !implicitInvoke then none
  else do
    let invokeId ← BerSpanReader.readUint32 tlv
    if invokeId > maximumInvokeId then none else some invokeId

/-- The first of the two to four children is the invoke identifier, the last one the service. -/
def decodeConfirmed (bytes : Bytes) (expectedOuterTag : Nat) (kind : MmsWirePduKind) :
    Option MmsConfirmedPduView :=
  if bytes = [] ∨ bytes.length > maximumPduBytes then none
  else do
    let outer ← BerSpanReader.tryReadExact bytes
    if outer.tagClass ≠ .contextSpecific ∨ outer.tagNumber ≠ expectedOuterTag ∨
        !outer.constructed then none
    else
      match ← readTlvs 4 outer.value with
      | first :: second :: others => do
        let last := (second :: others).getLast (List.cons_ne_nil _ _)
        let invokeId ← decodeInvoke first
        if last.tagClass ≠ .contextSpecific then none
        else
          some
            { kind
              invokeId
              serviceTag := last.tagNumber
              serviceConstructed := last.constructed
              serviceValue := last.value }
      | _ => none

def tryDecodeConfirmedRequestView (bytes : Bytes) : Option MmsConfirmedPduView :=
  decodeConfirmed bytes 0 .confirmedRequest

def rejectSizes (invokeId : UInt32) : Option (Nat × Nat) := do
  let invokeTlv ← BerSpanWriter.tlvSize 0 (positiveIntegerSize invokeId)
  let reasonTlv ← BerSpanWriter.tlvSize 1 1
  let content ← addSize invokeTlv reasonTlv
  let required ← BerSpanWriter.tlvSize 4 content
  if required > maximumPduBytes then none else some (content, required)

def writeReject (invokeId : UInt32) (reason : MmsConfirmedRequestRejectReason)
    (content required : Nat) : Option BerSpanWriter := do
  let writer : BerSpanWriter := { capacity := required }
  let writer ← writer.writeTlvHeader .contextSpecific true 4 content
  let writer ← writer.writeTlvHeader .contextSpecific false 0 (positiveIntegerSize invokeId)
  let writer ← writePositiveContent writer invokeId
  let writer ← writer.writeTlvHeader .contextSpecific false 1 1
  let writer ← writer.writeByte reason.toUInt8
  if writer.size ≠ required then none else some writer

def encodeConfirmedRequestRejectInto (invokeId : UInt32)
    (reason : MmsConfirmedRequestRejectReason) (destinationSize : Nat) : EncodeResult :=
  if invokeId > maximumInvokeId then { status := .valueOutOfRange }
  else
    match rejectSizes invokeId with
    | none => { status := .valueOutOfRange }
    | some (content, required) =>
      if destinationSize < required then { status := .bufferTooSmall, requiredBytes := required }
      else
        match writeReject invokeId reason content required with
        | none => { status := .valueOutOfRange, requiredBytes := required }
        | some writer => { bytes := writer.out, requiredBytes := required }

/-! ## Confirmed PDUs -/

def confirmedSizes (outerTag : Nat) (invokeId : UInt32) (serviceTag serviceLength : Nat) :
    Option (Nat × Nat) := do
  let invokeTlv ← BerSpanWriter.tlvSize 2 (positiveIntegerSize invokeId)
  let serviceTlv ← BerSpanWriter.tlvSize serviceTag serviceLength
  let content ← addSize invokeTlv serviceTlv
  let required ← BerSpanWriter.tlvSize outerTag content
  if required > maximumPduBytes then none else some (content, required)

def writeConfirmed (outerTag : Nat) (invokeId : UInt32) (serviceTag : Nat)
    (serviceConstructed : Bool) (serviceValue : Bytes) (content required : Nat) :
    Option BerSpanWriter := do
  let writer : BerSpanWriter := { capacity := required }
  let writer ← writer.writeTlvHeader .contextSpecific true outerTag content
  let writer ← writer.writeTlvHeader .universal false 2 (positiveIntegerSize invokeId)
  let writer ← writePositiveContent writer invokeId
  let writer ← writer.writeTlv .contextSpecific serviceConstructed serviceTag serviceValue
  if writer.size ≠ required then none else some writer

def encodeConfirmed (outerTag : Nat) (invokeId : UInt32) (serviceTag : Nat)
    (serviceConstructed : Bool) (serviceValue : Bytes) (destinationSize : Nat) : EncodeResult :=
  if invokeId > maximumInvokeId ∨ serviceTag > 1000000 ∨ serviceValue.length > maximumPduBytes then
    { status := .valueOutOfRange }
  else
    match confirmedSizes outerTag invokeId serviceTag serviceValue.length with
    | none => { status := .valueOutOfRange }
    | some (content, required) =>
      if destinationSize < required then { status := .bufferTooSmall, requiredBytes := required }
      else
        match writeConfirmed outerTag invokeId serviceTag serviceConstructed serviceValue content
            required with
        | none => { status := .valueOutOfRange, requiredBytes := required }
        | some writer => { bytes := writer.out, requiredBytes := required }

def encodeConfirmedResponseInto (invokeId : UInt32) (serviceTag : Nat) (serviceConstructed : Bool)
    (serviceValue : Bytes) (destinationSize : Nat) : EncodeResult :=
  encodeConfirmed 1 invokeId serviceTag serviceConstructed serviceValue destinationSize

/-! ## Identify and Conclude -/

/-- Vendor, model and revision. -/
def identifyFields : Bytes :=
  [0x80, 0x0A, 0x41, 0x52, 0x49, 0x45, 0x43, 0x36, 0x31, 0x38, 0x35, 0x30, 0x81, 0x15, 0x56, 0x69,
    0x72, 0x74, 0x75, 0x61, 0x6C, 0x20, 0x49, 0x45, 0x44, 0x20, 0x53, 0x69, 0x6D, 0x75, 0x6C, 0x61,
    0x74, 0x6F, 0x72, 0x82, 0x03, 0x31, 0x2E, 0x30]

def encodeIdentifyResponseInto (invokeId : UInt32) (destinationSize : Nat) : EncodeResult :=
  encodeConfirmedResponseInto invokeId 2 true identifyFields destinationSize

def isConcludeRequest (bytes : Bytes) : Bool :=
  match BerSpanReader.tryReadExact bytes with
  | none => false
  | some pdu =>
    pdu.tagClass == .contextSpecific && pdu.tagNumber == 11 && !pdu.constructed && pdu.value.isEmpty

def encodeConcludeResponseInto (destinationSize : Nat) : EncodeResult :=
  if destinationSize < 2 then { status := .bufferTooSmall, requiredBytes := 2 }
  else { bytes := [0x8C, 0x00], requiredBytes := 2 }

end MmsPduSpanCodec

end ArStack.Mms
