import ArStack.Mms.StaticBrcbRuntime

/-!
# InformationReports of a whole data set

`MmsInformationReportSpanCodec` writes every member of a data set, all with one reason;
`MmsStaticInformationReportEncoder` reads the members for it. The access results that both
report encoders write are the same, so their writers are those of `Detail`.

* `MmsInformationReportSpanCodec.encodeSnapshotInto` — the encoder
* `MmsStaticInformationReportEncoder.encodeDataSetSnapshotInto` — the encoder over the tables
-/

namespace ArStack.Mms

open ArStack.Asn1 ArStack.Wire

structure MmsInformationReportSnapshotInput where
  reportId : Bytes
  optionalFields : Bytes
  sequenceNumber : UInt32
  reportTime : Bytes
  dataSetReference : MmsInformationReportReferenceInput
  buffered : Bool
  bufferOverflow : Bool
  entryId : Bytes
  confRevision : UInt32
  memberReferences : List MmsInformationReportReferenceInput
  memberResults : List MmsReadAccessResultInput
  reasonForInclusion : UInt8
  deriving DecidableEq

namespace MmsInformationReportSpanCodec

open Detail

def optionalSelected (report : MmsInformationReportSnapshotInput) (byteIndex : Nat)
    (mask : UInt8) : Bool :=
  match report.optionalFields[byteIndex]? with
  | none => false
  | some fields => fields &&& mask != 0

def validateReport (report : MmsInformationReportSnapshotInput) : Bool :=
  visibleAscii report.reportId maximumReportIdBytes &&
  decide (report.optionalFields.length = optionalFieldBytes) &&
  !report.memberResults.isEmpty &&
  decide (report.memberResults.length ≤ maximumMembers) &&
  decide (report.memberReferences.length = report.memberResults.length) &&
  report.optionalFields.getD 0 0 &&& 0x80 == 0 &&
  report.optionalFields.getD 1 0 &&& 0x7F == 0 &&
  (referenceContentSize report.dataSetReference).isSome &&
  (report.memberReferences.all fun r => (referenceContentSize r).isSome) &&
  (!optionalSelected report 0 optReportTimestamp ||
    decide (report.reportTime.length = binaryTimeBytes)) &&
  (!(optionalSelected report 0 optBufferOverflow || optionalSelected report 0 optEntryId) ||
    report.buffered) &&
  (!optionalSelected report 0 optEntryId || decide (report.entryId.length = entryIdBytes)) &&
  (!optionalSelected report 0 optReasonForInclusion ||
    report.reasonForInclusion &&& 0x03 == 0) &&
  report.memberResults.all fun r => (accessResultSize r).isSome

def accessListContentSize (report : MmsInformationReportSnapshotInput) : Option Nat := do
  let selected (byteIndex : Nat) (mask : UInt8) (total : Nat) (size : Option Nat) : Option Nat :=
    if optionalSelected report byteIndex mask then addTo total size else some total
  let total ← addTo 0 (BerSpanWriter.tlvSize 10 report.reportId.length)
  let total ← addTo total (BerSpanWriter.tlvSize 4 (1 + report.optionalFields.length))
  let total ← selected 0 optSequenceNumber total
    (BerSpanWriter.tlvSize 6 (minimalUnsignedSize report.sequenceNumber))
  let total ← selected 0 optReportTimestamp total
    (BerSpanWriter.tlvSize 12 report.reportTime.length)
  let total ← selected 0 optDataSetName total
    ((referenceContentSize report.dataSetReference).bind (BerSpanWriter.tlvSize 10))
  let total ← selected 0 optBufferOverflow total (BerSpanWriter.tlvSize 3 1)
  let total ← selected 0 optEntryId total (BerSpanWriter.tlvSize 9 report.entryId.length)
  let total ← selected 1 optConfRevision total
    (BerSpanWriter.tlvSize 6 (minimalUnsignedSize report.confRevision))
  let inclusionBytes := (report.memberResults.length + 7) / 8
  let total ← addTo total (BerSpanWriter.tlvSize 4 (1 + inclusionBytes))
  let total ← if optionalSelected report 0 optDataReference then
      report.memberReferences.foldlM (fun total r =>
        addTo total ((referenceContentSize r).bind (BerSpanWriter.tlvSize 10))) total
    else some total
  let total ← report.memberResults.foldlM (fun total r => addTo total (accessResultSize r)) total
  if optionalSelected report 0 optReasonForInclusion then
    report.memberResults.foldlM (fun total _ => addTo total (BerSpanWriter.tlvSize 4 2)) total
  else some total

/-- The inclusion octet of the members from `firstMember` on. -/
def fullInclusionByte (memberCount firstMember : Nat) : UInt8 :=
  let remaining := memberCount - firstMember
  if remaining ≥ 8 then 0xFF else 0xFF <<< UInt8.ofNat (8 - remaining)

/-- Every member is included. -/
def writeInclusion (writer : BerSpanWriter) (memberCount : Nat) : Option BerSpanWriter := do
  let bytes := (memberCount + 7) / 8
  let unused := UInt8.ofNat (bytes * 8 - memberCount)
  let writer ← writer.writeTlvHeader .contextSpecific false 4 (1 + bytes)
  let writer ← writer.writeByte unused
  writer.writeBytes ((List.range bytes).map fun index => fullInclusionByte memberCount (index * 8))

structure Sizes where
  accessContent : Nat
  vmdNameTlv : Nat
  informationContent : Nat
  serviceTlv : Nat
  required : Nat

def sizes (report : MmsInformationReportSnapshotInput) : Option Sizes := do
  let accessContent ← accessListContentSize report
  let accessTlv ← BerSpanWriter.tlvSize 0 accessContent
  let vmdNameTlv ← BerSpanWriter.tlvSize 0 3
  let variableAccessTlv ← BerSpanWriter.tlvSize 1 vmdNameTlv
  let informationContent ← addSize variableAccessTlv accessTlv
  let serviceTlv ← BerSpanWriter.tlvSize 0 informationContent
  let required ← BerSpanWriter.tlvSize 3 serviceTlv
  if required > maximumPduBytes then none
  else some { accessContent, vmdNameTlv, informationContent, serviceTlv, required }

def writePreamble (writer : BerSpanWriter) (sizes : Sizes) : Option BerSpanWriter := do
  let writer ← writer.writeTlvHeader .contextSpecific true 3 sizes.serviceTlv
  let writer ← writer.writeTlvHeader .contextSpecific true 0 sizes.informationContent
  let writer ← writer.writeTlvHeader .contextSpecific true 1 sizes.vmdNameTlv
  let writer ← writer.writeTlvHeader .contextSpecific false 0 3
  let writer ← writer.writeBytes
    MmsBufferedSelectiveInformationReportSpanCodec.rptName
  writer.writeTlvHeader .contextSpecific true 0 sizes.accessContent

def writeOptionalFields (writer : BerSpanWriter) (report : MmsInformationReportSnapshotInput) :
    Option BerSpanWriter := do
  let writer ← writeVisible writer report.reportId
  let writer ← writeBitString writer 6 report.optionalFields
  let writer ← writeIf (optionalSelected report 0 optSequenceNumber)
    (writeUnsigned · report.sequenceNumber) writer
  let writer ← writeIf (optionalSelected report 0 optReportTimestamp)
    (·.writeTlv .contextSpecific false 12 report.reportTime) writer
  let writer ← writeIf (optionalSelected report 0 optDataSetName)
    (writeReference · report.dataSetReference) writer
  let writer ← writeIf (optionalSelected report 0 optBufferOverflow)
    (writeBoolean · report.bufferOverflow) writer
  let writer ← writeIf (optionalSelected report 0 optEntryId)
    (·.writeTlv .contextSpecific false 9 report.entryId) writer
  writeIf (optionalSelected report 1 optConfRevision) (writeUnsigned · report.confRevision) writer

def writeReasons (writer : BerSpanWriter) (report : MmsInformationReportSnapshotInput) :
    Option BerSpanWriter :=
  writeIf (optionalSelected report 0 optReasonForInclusion)
    (report.memberResults.foldlM fun writer _ =>
      writeBitString writer 2 [report.reasonForInclusion])
    writer

/-- The values of the report, from the report identifier to the reasons. -/
def writeAccessResults (writer : BerSpanWriter) (report : MmsInformationReportSnapshotInput) :
    Option BerSpanWriter := do
  let writer ← writeOptionalFields writer report
  let writer ← writeInclusion writer report.memberResults.length
  let writer ← writeIf (optionalSelected report 0 optDataReference)
    (report.memberReferences.foldlM writeReference) writer
  let writer ← report.memberResults.foldlM writeAccessResult writer
  writeReasons writer report

def encodeSnapshotInto (report : MmsInformationReportSnapshotInput) (destinationSize : Nat) :
    EncodeResult :=
  if !validateReport report then { status := .valueOutOfRange }
  else
    match sizes report with
    | none => { status := .valueOutOfRange }
    | some sizes =>
      if destinationSize < sizes.required then
        { status := .bufferTooSmall, requiredBytes := sizes.required }
      else
        let writer : BerSpanWriter := { capacity := sizes.required }
        match (writePreamble writer sizes).bind (writeAccessResults · report) with
        | none => { status := .valueOutOfRange, requiredBytes := sizes.required }
        | some writer =>
          if writer.size ≠ sizes.required then
            { status := .valueOutOfRange, requiredBytes := sizes.required }
          else { bytes := writer.out, requiredBytes := sizes.required }

end MmsInformationReportSpanCodec

/-! ## The encoder over the tables -/

inductive MmsStaticInformationReportStatus where
  | responseReady
  | invalidObjectTable
  | invalidDataSetTable
  | dataSetNotFound
  | objectNotFound
  | workspaceTooSmall
  | backendFailure
  | invalidReport
  | responseBufferTooSmall
  deriving DecidableEq

structure MmsStaticInformationReportInput where
  reportId : Bytes
  optionalFields : Bytes
  sequenceNumber : UInt32
  reportTime : Bytes
  buffered : Bool
  bufferOverflow : Bool
  entryId : Bytes
  confRevision : UInt32
  reasonForInclusion : UInt8
  deriving DecidableEq

structure MmsStaticInformationReportEncodeResult where
  status : MmsStaticInformationReportStatus := .invalidReport
  /-- What the destination is left with; its length is `bytes_written`. -/
  bytes : Bytes := []
  requiredBytes : Nat := 0
  memberCount : Nat := 0
  deriving DecidableEq

namespace MmsStaticInformationReportEncoder

/-- Read the members into the workspace, from `index` on. -/
def collectMembers (objects : MmsStaticObjectTable) (reads : ReadCallbacks)
    (workspaceSize memberCount : Nat) : List MmsStaticDataSetMember → Nat → Nat →
    Except MmsStaticInformationReportEncodeResult
      (List (MmsInformationReportReferenceInput × MmsReadAccessResultInput))
  | [], _, _ => .ok []
  | member :: members, index, workspaceOffset =>
    match objects.find (objectName member.domain member.item) with
    | none => .error { status := .objectNotFound, memberCount }
    | some object =>
      let remaining := workspaceSize - workspaceOffset
      let read := reads index object remaining
      if read.status = .bufferTooSmall then
        if read.requiredBytes > sizeMax - workspaceOffset then
          .error { status := .backendFailure, memberCount }
        else
          .error
            { status := .workspaceTooSmall
              requiredBytes := workspaceOffset + read.requiredBytes
              memberCount }
      else if !read.success || decide (read.bytesWritten > remaining) ||
          !Detail.validMmsData read.bytes then
        .error { status := .backendFailure, memberCount }
      else
        match collectMembers objects reads workspaceSize memberCount members (index + 1)
            (workspaceOffset + read.bytesWritten) with
        | .error result => .error result
        | .ok others =>
          .ok ((⟨member.domain, member.item⟩, { success := true, encodedData := read.bytes }) ::
            others)

/-- The report of the members that were read. -/
def wireReport (dataSet : MmsStaticDataSetEntry) (report : MmsStaticInformationReportInput)
    (members : List (MmsInformationReportReferenceInput × MmsReadAccessResultInput)) :
    MmsInformationReportSnapshotInput :=
  { reportId := report.reportId
    optionalFields := report.optionalFields
    sequenceNumber := report.sequenceNumber
    reportTime := report.reportTime
    dataSetReference := ⟨dataSet.domain, dataSet.item⟩
    buffered := report.buffered
    bufferOverflow := report.bufferOverflow
    entryId := report.entryId
    confRevision := report.confRevision
    memberReferences := members.map Prod.fst
    memberResults := members.map Prod.snd
    reasonForInclusion := report.reasonForInclusion }

def encodeDataSetSnapshotInto (objects : MmsStaticObjectTable) (dataSets : MmsStaticDataSetTable)
    (dataSetName : MmsObjectNameView) (report : MmsStaticInformationReportInput)
    (destinationSize workspaceSize : Nat) (reads : ReadCallbacks) :
    MmsStaticInformationReportEncodeResult :=
  if !objects.valid then { status := .invalidObjectTable }
  else if !dataSets.valid then { status := .invalidDataSetTable }
  else
    match dataSets.find dataSetName with
    | none => { status := .dataSetNotFound }
    | some dataSet =>
      let memberCount := dataSet.members.length
      if dataSet.members.isEmpty ∨ memberCount > maximumMembers then
        { status := .invalidDataSetTable }
      else
        match collectMembers objects reads workspaceSize memberCount dataSet.members 0 0 with
        | .error result => result
        | .ok members =>
          let encoded := MmsInformationReportSpanCodec.encodeSnapshotInto
            (wireReport dataSet report members) destinationSize
          if encoded.success then
            { status := .responseReady
              bytes := encoded.bytes
              requiredBytes := encoded.requiredBytes
              memberCount }
          else if encoded.status = .bufferTooSmall then
            { status := .responseBufferTooSmall
              requiredBytes := encoded.requiredBytes
              memberCount }
          else
            { status := .invalidReport, requiredBytes := encoded.requiredBytes, memberCount }

end MmsStaticInformationReportEncoder

end ArStack.Mms
