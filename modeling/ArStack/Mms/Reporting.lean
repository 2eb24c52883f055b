import Mathlib.Data.List.AList
import ArStack.Mms.DataCodec
import ArStack.Mms.Services

/-!
# Reports at the client

An InformationReport is a list of access results. `MmsReportFrameMapper` assigns them to the
header fields and the members of the data set, and `MmsReportSequenceTracker` judges the
continuity of every stream of reports.

* `MmsInformationReportCodec.decode` — the access results of an InformationReport
* `MmsReportFrameMapper.decodeHeader`, `MmsReportFrameMapper.map` — what they mean
* `MmsReportSequenceTracker.observe` — continuity
-/

namespace ArStack.Mms

open ArStack.Asn1

structure MmsInformationReportItem where
  index : Nat := 0
  value : Option MmsDataValue := none
  failureCode : Option Nat := none

structure MmsInformationReport where
  variableReferences : List MmsObjectName := []
  items : List MmsInformationReportItem := []

structure MmsDataSetDirectoryMember where
  objectName : MmsObjectName := {}
  mmsReference : Bytes := []
  userReference : Bytes := []
  functionalConstraint : Bytes := []
  logicalNode : Bytes := []
  dataObjectPath : Bytes := []
  confidence : Nat := 0
  deriving DecidableEq

structure MmsReportBitField where
  raw : Bytes := []
  setBitIndexes : List Nat := []
  names : List String := []
  deriving DecidableEq

def MmsReportBitField.has (field : MmsReportBitField) (name : String) : Bool :=
  field.names.contains name

structure MmsReportHeader where
  reportId : Bytes := []
  optionalFields : MmsReportBitField := {}
  sequenceNumber : Option UInt64 := none
  subSequenceNumber : Option UInt64 := none
  moreSegmentsFollow : Option Bool := none
  timeOfEntry : Option MmsDataValue := none
  dataSetReference : Bytes := []
  bufferOverflow : Option Bool := none
  entryId : Bytes := []
  configurationRevision : Option UInt64 := none

structure MmsReportValue where
  dataSetIndex : Nat := 0
  member : Option MmsDataSetDirectoryMember := none
  value : Option MmsDataValue := none
  failureCode : Option Nat := none
  dataReference : Bytes := []
  reasonForInclusion : MmsReportBitField := {}

structure MmsReportFrame where
  header : MmsReportHeader := {}
  values : List MmsReportValue := []
  includedDataSetIndexes : List Nat := []
  inclusionItemIndex : Option Nat := none
  rawAccessResultCount : Nat := 0
  decoderMode : String := ""
  warnings : List String := []

def MmsReportFrame.routingKey (frame : MmsReportFrame) : Bytes := frame.header.reportId

/-! ## The access results -/

def isMmsData (tlv : BerTlv) : Bool :=
  if tlv.tagClass ≠ .contextSpecific then false
  else if tlv.tagNumber = 1 ∨ tlv.tagNumber = 2 then tlv.constructed
  else decide (tlv.tagNumber ≥ 3) && decide (tlv.tagNumber ≤ 17) && !tlv.constructed

def readU32 (tlv : BerTlv) (field : String) : Except String Nat :=
  match BerReader.readUnsignedInteger tlv with
  | some value =>
    if value > uint32Max then .error (field ++ " is not an unsigned 32-bit value.") else .ok value
  | none => .error (field ++ " is not an unsigned 32-bit value.")

def decodeVariableDefinition (definition : BerTlv) : Except String MmsObjectName :=
  if definition.encodedTag ≠ 0x30 ∨ definition.constructed = false then
    .error "MMS variable-list member is not a SEQUENCE."
  else do
    match ← BerReader.readChildren definition.value with
    | [field] =>
      if field.encodedTag ≠ 0xA0 ∨ field.constructed = false then
        .error "MMS variable-list member has an invalid variableSpecification."
      else MmsServiceCodec.decodeObjectName field.value
    | _ => .error "MMS variable-list member has an invalid variableSpecification."

/-- The length octets of `BerWriter::write_length`. -/
def lengthOctets (length : Nat) : Bytes :=
  if length < 0x80 then [UInt8.ofNat length]
  else
    let octets := (Lib.beOctets 4 length).dropWhile (· == 0)
    UInt8.ofNat (0x80 + octets.length) :: octets

/-- The name stands alone or, with an implicit tag, is the specification itself. -/
def decodeVariableListName (specification : BerTlv) : Except String MmsObjectName :=
  match MmsServiceCodec.decodeObjectName specification.value with
  | .ok name => .ok name
  | .error _ =>
    MmsServiceCodec.decodeObjectName
      (specification.encodedTag :: lengthOctets specification.value.length ++ specification.value)

namespace MmsInformationReportCodec

def maximumReportItems : Nat := 65536
def maximumVariableReferences : Nat := 65536

/-- The variable-access specification in front of the access results. -/
def decodeSpecification (specification : BerTlv) : Except String (List MmsObjectName) :=
  if specification.tagClass ≠ .contextSpecific then
    .error "MMS InformationReport variable-access specification is invalid."
  else if specification.tagNumber = 0 ∧ specification.constructed = true then do
    let definitions ← BerReader.readChildren specification.value
    if definitions.length > maximumVariableReferences then
      .error "MMS InformationReport variable reference count exceeds the configured limit."
    else definitions.mapM decodeVariableDefinition
  else if specification.tagNumber = 1 then do
    let name ← decodeVariableListName specification
    .ok [name]
  else .error "MMS InformationReport variable-access specification is invalid."

def decodeItem (index : Nat) (result : BerTlv) : Except String MmsInformationReportItem :=
  if result.tagClass = .contextSpecific ∧ result.tagNumber = 0 ∧ result.constructed = false then do
    let failureCode ← readU32 result "MMS InformationReport DataAccessError"
    .ok { index, failureCode := some failureCode }
  else if isMmsData result then do
    let value ← MmsDataCodec.decode result
    .ok { index, value := some value }
  else .error "MMS InformationReport contains an unsupported AccessResult."

/-- The loop over the access results, from `index` on. -/
def decodeItems : Nat → List BerTlv → Except String (List MmsInformationReportItem)
  | _, [] => .ok []
  | index, result :: results => do
    let item ← decodeItem index result
    let items ← decodeItems (index + 1) results
    .ok (item :: items)

def decodeResults (list : BerTlv) : Except String (List MmsInformationReportItem) :=
  if list.tagClass ≠ .contextSpecific ∨ list.tagNumber ≠ 0 ∨ list.constructed = false then
    .error "MMS InformationReport has no access-result list."
  else do
    let results ← BerReader.readChildren list.value
    if results = [] ∨ results.length > maximumReportItems then
      .error "MMS InformationReport result count is outside the configured limit."
    else decodeItems 0 results

def decode (payload : Bytes) : Except String MmsInformationReport := do
  let mms ← MmsPduCodec.extractMmsPayload payload
  match BerReader.tryReadTlv mms with
  | some (outer, []) =>
    if outer.tagClass ≠ .contextSpecific ∨ outer.tagNumber ≠ 3 ∨ outer.constructed = false then
      .error "MMS PDU is not an Unconfirmed-PDU."
    else
      match ← BerReader.readChildren outer.value with
      | [service] =>
        if service.tagClass ≠ .contextSpecific ∨ service.tagNumber ≠ 0 ∨
            service.constructed = false then
          .error "MMS Unconfirmed-PDU is not InformationReport."
        else
          match ← BerReader.readChildren service.value with
          | [list] => do
            let items ← decodeResults list
            .ok { items }
          | [specification, list] => do
            let variableReferences ← decodeSpecification specification
            let items ← decodeResults list
            .ok { variableReferences, items }
          | _ => .error "MMS InformationReport field count is invalid."
      | _ => .error "MMS Unconfirmed-PDU is not InformationReport."
  | _ => .error "MMS PDU is not an Unconfirmed-PDU."

end MmsInformationReportCodec

/-! ## The values of the fields -/

def unsignedValue : MmsDataValue → Option UInt64
  | .unsignedInteger value => some (.ofNat value)
  | .integer value => if 0 ≤ value then some (.ofNat value.toNat) else none
  | _ => none

def booleanValue : MmsDataValue → Option Bool
  | .boolean value => some value
  | _ => none

def stringValue : MmsDataValue → Option Bytes
  | .visibleString value => some value
  | .mmsString value => some value
  | _ => none

def octets : MmsDataValue → Bytes
  | .octetString rawValue => rawValue
  | .binaryTime rawValue => rawValue
  | .bitString rawValue => rawValue
  | _ => []

/-- Bit `bit` of the octets behind the count of unused bits. -/
def bitSet (payload : Bytes) (bit : Nat) : Bool :=
  octetAt payload (bit / 8) &&& (0x80 >>> UInt8.ofNat (bit % 8)) != 0

def decodeBitField (value : MmsDataValue) (names : List (Option String)) :
    Except String MmsReportBitField :=
  match value with
  | .bitString (unused :: payload) =>
    if unused > 7 then .error "MMS BIT STRING unused-bit count is invalid."
    else if unused.toNat > payload.length * 8 then
      .error "MMS BIT STRING unused bits exceed its payload."
    else
      let setBitIndexes := (List.range (payload.length * 8 - unused.toNat)).filter (bitSet payload)
      .ok
        { raw := unused :: payload
          setBitIndexes
          names := setBitIndexes.filterMap fun bit => names[bit]?.join }
  | _ => .error "Expected MMS BIT STRING value."

def bitIndexes (value : MmsDataValue) (maximumBits : Nat) : Except String (List Nat) := do
  let field ← decodeBitField value [none]
  let unused := field.raw.headD 0
  if (field.raw.length - 1) * 8 - unused.toNat > maximumBits then
    .error "MMS report inclusion bit string exceeds the configured limit."
  else .ok field.setBitIndexes

def requireItem (report : MmsInformationReport) (index : Nat) :
    Except String MmsInformationReportItem :=
  match report.items[index]? with
  | some item => .ok item
  | none => .error "MMS report access-result list is truncated."

def requireValue (report : MmsInformationReport) (index : Nat) (field : String) :
    Except String MmsDataValue := do
  let item ← requireItem report index
  match item.value with
  | some value => .ok value
  | none => .error ("MMS report field " ++ field ++ " is a failure result.")

/-! ## The frame -/

namespace MmsReportFrameMapper

def optionNames : List (Option String) :=
  [some "reserved", some "sequence-number", some "report-time-stamp", some "reason-for-inclusion",
    some "data-set-name", some "data-reference", some "buffer-overflow", some "entry-id",
    some "configuration-revision", some "segmentation"]

def reasonNames : List (Option String) :=
  [none, some "data-change", some "quality-change", some "data-update", some "integrity",
    some "general-interrogation"]

/-- A field of the header that is there only if its option is. The second component is the
cursor behind it. -/
def optionalField {α : Type} (selected : Bool) (absent : α) (cursor : Nat)
    (read : Nat → Except String α) : Except String (α × Nat) :=
  if selected then do
    let value ← read cursor
    .ok (value, cursor + 1)
  else .ok (absent, cursor)

/-- The value if there is one, else the error. -/
def orThrow {α : Type} (value : Option α) (message : String) : Except String α :=
  match value with
  | some value => .ok value
  | none => .error message

def decodeHeader (report : MmsInformationReport) : Except String MmsReportHeader := do
  if report.items.length < 3 then
    .error "MMS report does not contain RptID, OptFlds, and inclusion fields."
  else
    let rptId ← requireValue report 0 "RptID"
    let reportId ← orThrow (stringValue rptId) "MMS report RptID is not a visible string."
    let optFlds ← requireValue report 1 "OptFlds"
    let optionalFields ← decodeBitField optFlds optionNames
    let sqNum ← optionalField (optionalFields.has "sequence-number") none 2 fun cursor => do
      let value ← requireValue report cursor "SqNum"
      let number ← orThrow (unsignedValue value) "MMS report SqNum is not unsigned."
      .ok (some number)
    let time ← optionalField (optionalFields.has "report-time-stamp") none sqNum.2 fun cursor => do
      let value ← requireValue report cursor "TimeOfEntry"
      .ok (some value)
    let datSet ← optionalField (optionalFields.has "data-set-name") [] time.2 fun cursor => do
      let value ← requireValue report cursor "DatSet"
      orThrow (stringValue value) "MMS report DatSet is not a visible string."
    let bufOvfl ← optionalField (optionalFields.has "buffer-overflow") none datSet.2
      fun cursor => do
        let value ← requireValue report cursor "BufOvfl"
        let overflow ← orThrow (booleanValue value) "MMS report BufOvfl is not BOOLEAN."
        .ok (some overflow)
    let entryId ← optionalField (optionalFields.has "entry-id") [] bufOvfl.2 fun cursor => do
      let value ← requireValue report cursor "EntryID"
      if octets value = [] then .error "MMS report EntryID is not an OCTET STRING."
      else .ok (octets value)
    let confRev ← optionalField (optionalFields.has "configuration-revision") none entryId.2
      fun cursor => do
        let value ← requireValue report cursor "ConfRev"
        let revision ← orThrow (unsignedValue value) "MMS report ConfRev is not unsigned."
        .ok (some revision)
    let header : MmsReportHeader :=
      { reportId
        optionalFields
        sequenceNumber := sqNum.1
        timeOfEntry := time.1
        dataSetReference := datSet.1
        bufferOverflow := bufOvfl.1
        entryId := entryId.1
        configurationRevision := confRev.1 }
    if optionalFields.has "segmentation" then
      let subSqNum ← requireValue report confRev.2 "SubSqNum"
      let more ← requireValue report (confRev.2 + 1) "MoreSegmentsFollow"
      match unsignedValue subSqNum, booleanValue more with
      | some number, some follow =>
        .ok { header with subSequenceNumber := some number, moreSegmentsFollow := some follow }
      | _, _ => .error "MMS report segmentation fields are invalid."
    else .ok header

/-- The access result of the inclusion bit string. -/
def inclusionCursor (optionalFields : MmsReportBitField) : Nat :=
  let one (name : String) : Nat := if optionalFields.has name then 1 else 0
  2 + one "sequence-number" + one "report-time-stamp" + one "data-set-name" +
    one "buffer-overflow" + one "entry-id" + one "configuration-revision" +
    2 * one "segmentation"

/-- `count` consecutive access results from `cursor` on. -/
def readGroup {α : Type} (read : Nat → Except String α) : Nat → Nat → Except String (List α)
  | 0, _ => .ok []
  | count + 1, cursor => do
    let value ← read cursor
    let values ← readGroup read count (cursor + 1)
    .ok (value :: values)

/-- A group of access results that is there only if its option is. -/
def optionalGroup {α : Type} (selected : Bool) (absent : α) (count cursor : Nat)
    (read : Nat → Except String α) : Except String (List α × Nat) :=
  if selected then do
    let values ← readGroup read count cursor
    .ok (values, cursor + count)
  else .ok (List.replicate count absent, cursor)

/-- The values of a frame, from the four groups of the included members. -/
def assemble (members : List MmsDataSetDirectoryMember) :
    List Nat → List Bytes → List MmsInformationReportItem → List MmsReportBitField →
    List MmsReportValue
  | dataSetIndex :: indexes, dataReference :: references, item :: items, reason :: reasons =>
    { dataSetIndex
      member := members[dataSetIndex]?
      value := item.value
      failureCode := item.failureCode
      dataReference
      reasonForInclusion := reason } :: assemble members indexes references items reasons
  | _, _, _, _ => []

def map (report : MmsInformationReport) (members : List MmsDataSetDirectoryMember) :
    Except String MmsReportFrame := do
  let header ← decodeHeader report
  let cursor := inclusionCursor header.optionalFields
  let inclusion ← requireValue report cursor "inclusion-bitstring"
  let maximumBits :=
    if members = [] then MmsInformationReportCodec.maximumReportItems else members.length
  let indexes ← bitIndexes inclusion maximumBits
  if members ≠ [] ∧ indexes.any fun index => decide (index ≥ members.length) then
    .error "MMS report inclusion bit references an unknown DataSet member."
  else
    let includedCount := indexes.length
    let references ← optionalGroup (header.optionalFields.has "data-reference") [] includedCount
      (cursor + 1) fun cursor => do
        let value ← requireValue report cursor "data-reference"
        orThrow (stringValue value) "MMS report data-reference is not a visible string."
    let items ← readGroup (requireItem report) includedCount references.2
    let reasons ← optionalGroup (header.optionalFields.has "reason-for-inclusion") {} includedCount
      (references.2 + includedCount) fun cursor => do
        let value ← requireValue report cursor "reason-for-inclusion"
        decodeBitField value reasonNames
    if reasons.2 ≠ report.items.length then
      .error "MMS report contains trailing access results after exact decoding."
    else
      .ok
        { header
          values := assemble members indexes references.1 items reasons.1
          includedDataSetIndexes := indexes
          inclusionItemIndex := some cursor
          rawAccessResultCount := report.items.length
          decoderMode := "opt-fields-exact" }

end MmsReportFrameMapper

/-! ## Continuity -/

inductive MmsReportContinuityEventKind where
  | firstReport
  | inOrder
  | duplicate
  | sequenceGap
  | sequenceWrap
  | sequenceReset
  | configurationRevisionChanged
  | dataSetChanged
  | bufferOverflow
  | segmentationStarted
  | segmentationContinued
  | segmentationCompleted
  | segmentationGap
  deriving DecidableEq

structure MmsReportContinuityEvent where
  kind : MmsReportContinuityEventKind := .firstReport
  message : String := ""
  deriving DecidableEq

def continuityMessage : MmsReportContinuityEventKind → String
  | .firstReport => "First report observed."
  | .inOrder => "Report sequence is in order."
  | .duplicate => "Duplicate report sequence observed."
  | .sequenceGap => "Report sequence gap detected."
  | .sequenceWrap => "Report sequence wrapped."
  | .sequenceReset => "Report sequence reset detected."
  | .configurationRevisionChanged => "Configuration revision changed."
  | .dataSetChanged => "DataSet reference changed."
  | .bufferOverflow => "Buffered report overflow flag is set."
  | .segmentationStarted => "Segmented report started."
  | .segmentationContinued => "Segmented report continued."
  | .segmentationCompleted => "Segmented report completed."
  | .segmentationGap => "Segmented report continuity gap detected."

structure MmsReportStreamState where
  key : Bytes := []
  reportCount : UInt64 := 0
  valueCount : UInt64 := 0
  duplicateCount : UInt64 := 0
  gapCount : UInt64 := 0
  missingSequenceCount : UInt64 := 0
  wrapCount : UInt64 := 0
  resetCount : UInt64 := 0
  configurationChangeCount : UInt64 := 0
  dataSetChangeCount : UInt64 := 0
  bufferOverflowCount : UInt64 := 0
  segmentationGapCount : UInt64 := 0
  lastSequenceNumber : Option UInt64 := none
  lastSubSequenceNumber : Option UInt64 := none
  lastConfigurationRevision : Option UInt64 := none
  lastDataSetReference : Bytes := []
  lastEntryId : Bytes := []
  segmentationOpen : Bool := false
  deriving DecidableEq

structure MmsReportObservation where
  state : MmsReportStreamState := {}
  events : List MmsReportContinuityEvent := []
  deriving DecidableEq

namespace MmsReportObservation

variable (o : MmsReportObservation)

def addEvent (kind : MmsReportContinuityEventKind) : MmsReportObservation :=
  { o with events := o.events ++ [⟨kind, continuityMessage kind⟩] }

/-- The comparison of two successive sequence numbers. -/
def compareSequence (previous current : UInt64) : MmsReportObservation :=
  if current = previous then
    { o with state := { o.state with duplicateCount := o.state.duplicateCount + 1 } }.addEvent
      .duplicate
  else if current = previous + 1 then o.addEvent .inOrder
  else if previous ≥ 65000 ∧ current < 1000 then
    { o with state := { o.state with wrapCount := o.state.wrapCount + 1 } }.addEvent .sequenceWrap
  else if current < previous then
    { o with state := { o.state with resetCount := o.state.resetCount + 1 } }.addEvent
      .sequenceReset
  else
    { o with
      state :=
        { o.state with
          gapCount := o.state.gapCount + 1
          missingSequenceCount :=
            o.state.missingSequenceCount + (current - previous - 1) } }.addEvent .sequenceGap

def trackSequence (first : Bool) (header : MmsReportHeader) : MmsReportObservation :=
  match header.sequenceNumber with
  | none => o
  | some current =>
    let compared :=
      match first, o.state.lastSequenceNumber with
      | false, some previous => o.compareSequence previous current
      | _, _ => o
    { compared with state := { compared.state with lastSequenceNumber := some current } }

def trackConfiguration (header : MmsReportHeader) : MmsReportObservation :=
  match header.configurationRevision with
  | none => o
  | some revision =>
    let compared :=
      match o.state.lastConfigurationRevision with
      | none => o
      | some last =>
        if last ≠ revision then
          { o with
            state :=
              { o.state with
                configurationChangeCount := o.state.configurationChangeCount + 1 } }.addEvent
            .configurationRevisionChanged
        else o
    { compared with state := { compared.state with lastConfigurationRevision := some revision } }

def trackDataSet (header : MmsReportHeader) : MmsReportObservation :=
  if header.dataSetReference = [] then o
  else
    let compared :=
      if o.state.lastDataSetReference ≠ [] ∧
          o.state.lastDataSetReference ≠ header.dataSetReference then
        { o with
          state :=
            { o.state with dataSetChangeCount := o.state.dataSetChangeCount + 1 } }.addEvent
          .dataSetChanged
      else o
    { compared with
      state := { compared.state with lastDataSetReference := header.dataSetReference } }

def trackOverflow (header : MmsReportHeader) : MmsReportObservation :=
  if header.bufferOverflow.getD false then
    { o with
      state := { o.state with bufferOverflowCount := o.state.bufferOverflowCount + 1 } }.addEvent
      .bufferOverflow
  else o

def segmentationGap : MmsReportObservation :=
  { o with
    state := { o.state with segmentationGapCount := o.state.segmentationGapCount + 1 } }.addEvent
    .segmentationGap

def closeSegmentation : MmsReportObservation :=
  { o with state := { o.state with segmentationOpen := false } }

/-- A segment with its number. -/
def trackSegment (current : UInt64) (more : Bool) : MmsReportObservation :=
  let tracked :=
    if !o.state.segmentationOpen then
      { o with state := { o.state with segmentationOpen := more } }.addEvent
        (if more then .segmentationStarted else .segmentationCompleted)
    else
      let checked :=
        match o.state.lastSubSequenceNumber with
        | none => o
        | some last => if current ≠ last + 1 then o.segmentationGap else o
      if more then checked.addEvent .segmentationContinued
      else checked.closeSegmentation.addEvent .segmentationCompleted
  { tracked with state := { tracked.state with lastSubSequenceNumber := some current } }

def trackSegmentation (header : MmsReportHeader) : MmsReportObservation :=
  match header.subSequenceNumber, header.moreSegmentsFollow with
  | some current, some more => o.trackSegment current more
  | _, _ =>
    if o.state.segmentationOpen then
      { o with
        state :=
          { o.state with
            segmentationGapCount := o.state.segmentationGapCount + 1
            segmentationOpen := false } }.addEvent .segmentationGap
    else o

def finish (frame : MmsReportFrame) : MmsReportObservation :=
  { o with
    state :=
      { o.state with
        reportCount := o.state.reportCount + 1
        valueCount := o.state.valueCount + UInt64.ofNat frame.values.length
        lastEntryId := frame.header.entryId } }

end MmsReportObservation

structure MmsReportSequenceTracker where
  streams : AList fun _ : Bytes => MmsReportStreamState := ∅

namespace MmsReportSequenceTracker

def maximumStreams : Nat := 4096

variable (tracker : MmsReportSequenceTracker)

/-- What a report of a stream is observed as, on the state of its stream. -/
def observation (key : Bytes) (state : MmsReportStreamState) (frame : MmsReportFrame) :
    MmsReportObservation :=
  let first := state.reportCount == 0
  let opened : MmsReportObservation :=
    if first then ({ state := { state with key } } : MmsReportObservation).addEvent .firstReport
    else { state }
  (((((opened.trackSequence first frame.header).trackConfiguration frame.header).trackDataSet
    frame.header).trackOverflow frame.header).trackSegmentation frame.header).finish frame

/-- Both throws come before the streams are changed. -/
def observe (frame : MmsReportFrame) :
    Except String (MmsReportObservation × MmsReportSequenceTracker) :=
  let key := frame.routingKey
  if key = [] then .error "MMS report routing key is empty."
  else if (tracker.streams.lookup key).isNone ∧ tracker.streams.keys.length ≥ maximumStreams then
    .error "MMS report sequence tracker stream limit exceeded."
  else
    let observed := observation key ((tracker.streams.lookup key).getD {}) frame
    .ok (observed, { streams := tracker.streams.insert key observed.state })

def erase (key : Bytes) : MmsReportSequenceTracker := { streams := tracker.streams.erase key }

def clear : MmsReportSequenceTracker := {}

end MmsReportSequenceTracker

end ArStack.Mms
