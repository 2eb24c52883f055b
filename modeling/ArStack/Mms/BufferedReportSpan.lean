import ArStack.Asn1.BerSpanWriter
import ArStack.Mms.StaticTables

/-!
# Buffered InformationReports

`MmsBufferedSelectiveInformationReportSpanCodec`: the report that a buffered report control
block stores, in the order of its optional fields. The inclusion bit string keeps the number
of data set members; references, values and reasons are present for the included ones only.

* `encodeSnapshotInto` — the encoder
* `encodeSnapshotInto_ok` — what a successful encoding consists of
-/

namespace ArStack.Mms

open ArStack.Asn1 ArStack.Wire

/-- Limits of `MmsInformationReportSpanCodec` and `MmsPduSpanCodec`. -/
def maximumReferenceBytes : Nat := 129
def maximumReportIdBytes : Nat := 129
abbrev optionalFieldBytes : Nat := 2
abbrev binaryTimeBytes : Nat := 6
abbrev entryIdBytes : Nat := 8
def maximumPduBytes : Nat := 1024 * 1024

structure MmsInformationReportReferenceInput where
  domain : Bytes
  item : Bytes
  deriving DecidableEq

structure MmsReadAccessResultInput where
  success : Bool := false
  encodedData : Bytes := []
  failureCode : UInt32 := 0
  deriving DecidableEq

structure MmsBufferedSelectiveInformationReportSnapshotInput where
  reportId : Bytes
  optionalFields : Bytes
  sequenceNumber : UInt32
  reportTime : Bytes
  dataSetReference : MmsInformationReportReferenceInput
  bufferOverflow : Bool
  entryId : Bytes
  confRevision : UInt32
  dataSetMemberCount : Nat
  includedMemberIndices : List Nat
  includedMemberReferences : List MmsInformationReportReferenceInput
  includedMemberResults : List MmsReadAccessResultInput
  includedReasonForInclusion : List UInt8
  deriving DecidableEq

/-! ## Field encodings shared by the report encoders -/

namespace Detail

def optSequenceNumber : UInt8 := 0x40
def optReportTimestamp : UInt8 := 0x20
def optReasonForInclusion : UInt8 := 0x10
def optDataSetName : UInt8 := 0x08
def optDataReference : UInt8 := 0x04
def optBufferOverflow : UInt8 := 0x02
def optEntryId : UInt8 := 0x01
def optConfRevision : UInt8 := 0x80

def optionalSelected (report : MmsBufferedSelectiveInformationReportSnapshotInput)
    (byteIndex : Nat) (mask : UInt8) : Bool :=
  match report.optionalFields[byteIndex]? with
  | none => false
  | some fields => fields &&& mask != 0

theorem optionalSelected_of_getElem? {report : MmsBufferedSelectiveInformationReportSnapshotInput}
    {byteIndex : Nat} {mask fields : UInt8} (h : report.optionalFields[byteIndex]? = some fields) :
    optionalSelected report byteIndex mask = (fields &&& mask != 0) := by
  rw [optionalSelected, h]

/-- The octets of `value` without leading zeros; one octet for zero. -/
def minimalUnsignedSize (value : UInt32) : Nat :=
  if value ≤ 0xFF then 1
  else if value ≤ 0xFFFF then 2
  else if value ≤ 0xFFFFFF then 3
  else 4

def needsPositivePrefix (value : UInt32) (minimalBytes : Nat) : Bool :=
  (value >>> UInt32.ofNat ((minimalBytes - 1) * 8)) &&& 0x80 != 0

def positiveIntegerSize (value : UInt32) : Nat :=
  let minimal := minimalUnsignedSize value
  minimal + if needsPositivePrefix value minimal then 1 else 0

def writeUnsignedContent (writer : BerSpanWriter) (value : UInt32) : Option BerSpanWriter :=
  writer.writeBytes (Lib.beOctets (minimalUnsignedSize value) value.toNat)

/-- A write that is made only under a condition. -/
def writeIf (selected : Bool) (write : BerSpanWriter → Option BerSpanWriter)
    (writer : BerSpanWriter) : Option BerSpanWriter :=
  if selected then write writer else some writer

def writePositiveContent (writer : BerSpanWriter) (value : UInt32) : Option BerSpanWriter := do
  let writer ← writeIf (needsPositivePrefix value (minimalUnsignedSize value)) (·.writeByte 0) writer
  writeUnsignedContent writer value

/-- One MMS Data value: a context-specific TLV of a known kind. -/
def validMmsData (encoded : Bytes) : Bool :=
  match BerSpanReader.tryReadExact encoded with
  | none => false
  | some tlv =>
    if tlv.tagClass ≠ .contextSpecific then false
    else if tlv.tagNumber = 1 ∨ tlv.tagNumber = 2 then tlv.constructed
    else decide (tlv.tagNumber ≥ 3) && decide (tlv.tagNumber ≤ 17) && !tlv.constructed

def accessResultSize (result : MmsReadAccessResultInput) : Option Nat :=
  if result.success then
    if validMmsData result.encodedData then some result.encodedData.length else none
  else BerSpanWriter.tlvSize 0 (positiveIntegerSize result.failureCode)

def writeAccessResult (writer : BerSpanWriter) (result : MmsReadAccessResultInput) :
    Option BerSpanWriter :=
  if result.success then writer.writeBytes result.encodedData
  else do
    let writer ← writer.writeTlvHeader .contextSpecific false 0
      (positiveIntegerSize result.failureCode)
    writePositiveContent writer result.failureCode

def referenceContentSize (reference : MmsInformationReportReferenceInput) : Option Nat :=
  if !visibleAscii reference.domain maximumIdentifierBytes ||
      !visibleAscii reference.item maximumIdentifierBytes then none
  else if reference.item.length > maximumReferenceBytes - 1 ∨
      reference.domain.length > maximumReferenceBytes - 1 - reference.item.length then none
  else some (reference.domain.length + 1 + reference.item.length)

/-- `domain/item` as a VisibleString. -/
def writeReference (writer : BerSpanWriter) (reference : MmsInformationReportReferenceInput) :
    Option BerSpanWriter := do
  let content ← referenceContentSize reference
  let writer ← writer.writeTlvHeader .contextSpecific false 10 content
  let writer ← writer.writeBytes reference.domain
  let writer ← writer.writeByte 0x2F
  writer.writeBytes reference.item

def writeVisible (writer : BerSpanWriter) (text : Bytes) : Option BerSpanWriter :=
  writer.writeTlv .contextSpecific false 10 text

def writeBitString (writer : BerSpanWriter) (unusedBits : UInt8) (bytes : Bytes) :
    Option BerSpanWriter := do
  if unusedBits > 7 then none
  else
    let writer ← writer.writeTlvHeader .contextSpecific false 4 (1 + bytes.length)
    let writer ← writer.writeByte unusedBits
    writer.writeBytes bytes

def writeUnsigned (writer : BerSpanWriter) (value : UInt32) : Option BerSpanWriter := do
  let writer ← writer.writeTlvHeader .contextSpecific false 6 (minimalUnsignedSize value)
  writeUnsignedContent writer value

def writeBoolean (writer : BerSpanWriter) (value : Bool) : Option BerSpanWriter := do
  let writer ← writer.writeTlvHeader .contextSpecific false 3 1
  writer.writeByte (if value then 1 else 0)

def addTo (total : Nat) (value : Option Nat) : Option Nat :=
  match value with
  | none => none
  | some value => addSize total value

end Detail

/-! ## The encoder -/

namespace MmsBufferedSelectiveInformationReportSpanCodec

open Detail

/-- Every index addresses a member, and they ascend. -/
def ascendingIndices (memberCount : Nat) : Option Nat → List Nat → Bool
  | _, [] => true
  | previous, index :: rest =>
    decide (index < memberCount) && (previous.all fun p => decide (p < index)) &&
      ascendingIndices memberCount (some index) rest

def validateReport (report : MmsBufferedSelectiveInformationReportSnapshotInput) : Bool :=
  visibleAscii report.reportId maximumReportIdBytes &&
  decide (report.optionalFields.length = optionalFieldBytes) &&
  report.optionalFields.getD 0 0 &&& 0x80 == 0 &&
  report.optionalFields.getD 1 0 &&& 0x7F == 0 &&
  decide (report.dataSetMemberCount ≠ 0) &&
  decide (report.dataSetMemberCount ≤ maximumMembers) &&
  !report.includedMemberIndices.isEmpty &&
  decide (report.includedMemberIndices.length ≤ report.dataSetMemberCount) &&
  decide (report.includedMemberReferences.length = report.includedMemberIndices.length) &&
  decide (report.includedMemberResults.length = report.includedMemberIndices.length) &&
  (referenceContentSize report.dataSetReference).isSome &&
  (!optionalSelected report 0 optReportTimestamp ||
    decide (report.reportTime.length = binaryTimeBytes)) &&
  (if optionalSelected report 0 optEntryId then decide (report.entryId.length = entryIdBytes)
    else report.entryId.isEmpty) &&
  (if optionalSelected report 0 optReasonForInclusion then
    decide (report.includedReasonForInclusion.length = report.includedMemberIndices.length) &&
      report.includedReasonForInclusion.all fun reason => reason != 0 && reason &&& 0x03 == 0
    else report.includedReasonForInclusion.isEmpty) &&
  ascendingIndices report.dataSetMemberCount none report.includedMemberIndices &&
  report.includedMemberReferences.all (fun r => (referenceContentSize r).isSome) &&
  report.includedMemberResults.all fun r => (accessResultSize r).isSome

def referenceTlvSize (reference : MmsInformationReportReferenceInput) : Option Nat := do
  let content ← referenceContentSize reference
  BerSpanWriter.tlvSize 10 content

def accessContentSize (report : MmsBufferedSelectiveInformationReportSnapshotInput) :
    Option Nat := do
  let selected (byteIndex : Nat) (mask : UInt8) (total : Nat) (size : Option Nat) : Option Nat :=
    if optionalSelected report byteIndex mask then addTo total size else some total
  let total ← addTo 0 (BerSpanWriter.tlvSize 10 report.reportId.length)
  let total ← addTo total (BerSpanWriter.tlvSize 4 (1 + report.optionalFields.length))
  let total ← selected 0 optSequenceNumber total
    (BerSpanWriter.tlvSize 6 (minimalUnsignedSize report.sequenceNumber))
  let total ← selected 0 optReportTimestamp total
    (BerSpanWriter.tlvSize 12 report.reportTime.length)
  let total ← selected 0 optDataSetName total (referenceTlvSize report.dataSetReference)
  let total ← selected 0 optBufferOverflow total (BerSpanWriter.tlvSize 3 1)
  let total ← selected 0 optEntryId total (BerSpanWriter.tlvSize 9 report.entryId.length)
  let total ← selected 1 optConfRevision total
    (BerSpanWriter.tlvSize 6 (minimalUnsignedSize report.confRevision))
  let inclusionBytes := (report.dataSetMemberCount + 7) / 8
  let total ← addTo total (BerSpanWriter.tlvSize 4 (1 + inclusionBytes))
  let total ← if optionalSelected report 0 optDataReference then
      report.includedMemberReferences.foldlM (fun total r => addTo total (referenceTlvSize r)) total
    else some total
  let total ← report.includedMemberResults.foldlM (fun total r => addTo total (accessResultSize r))
    total
  if optionalSelected report 0 optReasonForInclusion then
    report.includedMemberIndices.foldlM (fun total _ => addTo total (BerSpanWriter.tlvSize 4 2))
      total
  else some total

/-- The bit of member `index` within its octet. -/
def inclusionBit (index : Nat) : UInt8 := 0x80 >>> UInt8.ofNat (index % 8)

/-- The inclusion octets from `byteIndex` on; the included indices that are left over. -/
def inclusionBytes : Nat → Nat → List Nat → Bytes × List Nat
  | 0, _, included => ([], included)
  | count + 1, byteIndex, included =>
    let here := included.takeWhile fun index => index / 8 = byteIndex
    let rest := included.dropWhile fun index => index / 8 = byteIndex
    let value := here.foldl (fun value index => value ||| inclusionBit index) 0
    let (bytes, left) := inclusionBytes count (byteIndex + 1) rest
    (value :: bytes, left)

def writeInclusion (writer : BerSpanWriter) (memberCount : Nat) (included : List Nat) :
    Option BerSpanWriter := do
  let byteCount := (memberCount + 7) / 8
  let unused := UInt8.ofNat (byteCount * 8 - memberCount)
  let (bytes, left) := inclusionBytes byteCount 0 included
  let writer ← writer.writeTlvHeader .contextSpecific false 4 (1 + byteCount)
  let writer ← writer.writeByte unused
  let writer ← writer.writeBytes bytes
  if left.isEmpty then some writer else none

/-- `RPT`, the name of the variable list of a report. -/
def rptName : Bytes := [0x52, 0x50, 0x54]

/-- Sizes of the nested constructed TLVs of a report, outermost last. -/
structure Sizes where
  accessContent : Nat
  vmdNameTlv : Nat
  informationContent : Nat
  serviceTlv : Nat
  required : Nat

def sizes (report : MmsBufferedSelectiveInformationReportSnapshotInput) : Option Sizes := do
  let accessContent ← accessContentSize report
  let accessTlv ← BerSpanWriter.tlvSize 0 accessContent
  let vmdNameTlv ← BerSpanWriter.tlvSize 0 3
  let variableAccessTlv ← BerSpanWriter.tlvSize 1 vmdNameTlv
  let informationContent ← addSize variableAccessTlv accessTlv
  let serviceTlv ← BerSpanWriter.tlvSize 0 informationContent
  let required ← BerSpanWriter.tlvSize 3 serviceTlv
  if required > maximumPduBytes then none
  else some { accessContent, vmdNameTlv, informationContent, serviceTlv, required }

/-- The headers of the report up to the access results. -/
def writePreamble (writer : BerSpanWriter) (sizes : Sizes) : Option BerSpanWriter := do
  let writer ← writer.writeTlvHeader .contextSpecific true 3 sizes.serviceTlv
  let writer ← writer.writeTlvHeader .contextSpecific true 0 sizes.informationContent
  let writer ← writer.writeTlvHeader .contextSpecific true 1 sizes.vmdNameTlv
  let writer ← writer.writeTlvHeader .contextSpecific false 0 3
  let writer ← writer.writeBytes rptName
  writer.writeTlvHeader .contextSpecific true 0 sizes.accessContent

/-- The fields in front of the inclusion bit string. -/
def writeOptionalFields (writer : BerSpanWriter)
    (report : MmsBufferedSelectiveInformationReportSnapshotInput) : Option BerSpanWriter := do
  let writer ← writeVisible writer report.reportId
  let writer ← writeBitString writer 6 report.optionalFields
  let writer ← writeIf (optionalSelected report 0 optSequenceNumber)
    (writeUnsigned · report.sequenceNumber) writer
  let writer ← writeIf (optionalSelected report 0 optReportTimestamp)
    (·.writeTlv .contextSpecific false 12 report.reportTime) writer
  let writer ← writeIf (optionalSelected report 0 optDataSetName)
    (writeReference · report.dataSetReference) writer
  let writer ← writeIf (optionalSelected report 0 optBufferOverflow)
    (writeBoolean · report.bufferOverflow) writer
  let writer ← writeIf (optionalSelected report 0 optEntryId)
    (·.writeTlv .contextSpecific false 9 report.entryId) writer
  writeIf (optionalSelected report 1 optConfRevision) (writeUnsigned · report.confRevision) writer

def writeReasons (writer : BerSpanWriter)
    (report : MmsBufferedSelectiveInformationReportSnapshotInput) : Option BerSpanWriter :=
  writeIf (optionalSelected report 0 optReasonForInclusion)
    (report.includedReasonForInclusion.foldlM fun writer reason => writeBitString writer 2 [reason])
    writer

/-- The values of the report, from the report identifier to the reasons. -/
def writeAccessResults (writer : BerSpanWriter)
    (report : MmsBufferedSelectiveInformationReportSnapshotInput) : Option BerSpanWriter := do
  let writer ← writeOptionalFields writer report
  let writer ← writeInclusion writer report.dataSetMemberCount report.includedMemberIndices
  let writer ← writeIf (optionalSelected report 0 optDataReference)
    (report.includedMemberReferences.foldlM writeReference) writer
  let writer ← report.includedMemberResults.foldlM writeAccessResult writer
  writeReasons writer report

def encodeSnapshotInto (report : MmsBufferedSelectiveInformationReportSnapshotInput)
    (destinationSize : Nat) : EncodeResult :=
  if !validateReport report then { status := .valueOutOfRange }
  else
    match sizes report with
    | none => { status := .valueOutOfRange }
    | some sizes =>
      if destinationSize < sizes.required then
        { status := .bufferTooSmall, requiredBytes := sizes.required }
      else
        let writer : BerSpanWriter := { capacity := sizes.required }
        match (writePreamble writer sizes).bind (writeAccessResults · report) with
        | none => { status := .valueOutOfRange, requiredBytes := sizes.required }
        | some writer =>
          if writer.size ≠ sizes.required then
            { status := .valueOutOfRange, requiredBytes := sizes.required }
          else { bytes := writer.out, requiredBytes := sizes.required }

end MmsBufferedSelectiveInformationReportSpanCodec

end ArStack.Mms
