import ArStack.Mms.StaticInformationReport

/-!
# The unbuffered report control block runtime

`MmsStaticUrcbRuntime`: a table of report control blocks. A block collects the reasons of its
data set members while it is enabled; a report is planned, encoded and committed in three
calls, and a commit takes effect only when the block is still as it was planned. `copy_text`
is an assignment: every text is validated against its storage before it is copied.

* `initializeRuntime` and the operations, in the order of the source
-/

namespace ArStack.Mms

open ArStack.Asn1 ArStack.Wire

inductive MmsStaticUrcbStatus where
  | ok
  | invalidRuntime
  | indexOutOfRange
  | invalidValue
  | objectAccessDenied
  | temporarilyUnavailable
  | dataSetNotFound
  | noReportDue
  | stalePlan
  | workspaceTooSmall
  | backendFailure
  | responseBufferTooSmall
  | reportEncodeFailed
  deriving DecidableEq

inductive MmsStaticUrcbEventReason where
  | dataChange
  | qualityChange
  | dataUpdate
  deriving DecidableEq

inductive MmsStaticUrcbReportReason where
  | none
  | generalInterrogation
  | integrity
  | dataUpdate
  | qualityChange
  | dataChange
  deriving DecidableEq

/-- The value of the enumerator: the bit of the reason in a report. -/
def MmsStaticUrcbReportReason.bit : MmsStaticUrcbReportReason → UInt8
  | .none => 0x00
  | .generalInterrogation => 0x04
  | .integrity => 0x08
  | .dataUpdate => 0x10
  | .qualityChange => 0x20
  | .dataChange => 0x40

structure MmsStaticUrcbDefinition where
  domain : Bytes
  item : Bytes
  reportId : Bytes
  dataSetDomain : Bytes
  dataSetItem : Bytes
  confRevision : UInt32 := 1
  optionalFields : Vector UInt8 optionalFieldBytes
  bufferTimeMs : UInt32
  triggerOptions : UInt8
  integrityPeriodMs : UInt32
  deriving DecidableEq

structure MmsStaticUrcbState where
  reportId : Bytes := []
  dataSetDomain : Bytes := []
  dataSetItem : Bytes := []
  optionalFields : Vector UInt8 optionalFieldBytes := .replicate optionalFieldBytes 0
  memberReasonMasks : Vector UInt8 maximumMembers := .replicate maximumMembers 0
  confRevision : UInt32 := 1
  bufferTimeMs : UInt32 := 0
  integrityPeriodMs : UInt32 := 0
  nextIntegrityDueMs : UInt64 := 0
  eventDueMs : UInt64 := 0
  revision : UInt32 := 0
  pendingMemberCount : Nat := 0
  triggerOptions : UInt8 := 0
  sequenceNumber : UInt8 := 0
  enabled : Bool := false
  reserved : Bool := false
  generalInterrogationPending : Bool := false
  integrityArmed : Bool := false
  eventPending : Bool := false
  deriving DecidableEq

structure MmsStaticUrcbEmissionPlan where
  index : Nat
  revision : UInt32
  sequenceNumber : UInt8
  reason : MmsStaticUrcbReportReason
  deriving DecidableEq

structure MmsStaticUrcbEncodeResult where
  status : MmsStaticUrcbStatus := .invalidRuntime
  /-- What the destination is left with; its length is `bytes_written`. -/
  bytes : Bytes := []
  requiredBytes : Nat := 0
  memberCount : Nat := 0
  deriving DecidableEq

def MmsStaticUrcbEncodeResult.success (result : MmsStaticUrcbEncodeResult) : Bool :=
  result.status == .ok

structure MmsStaticUrcbRuntime where
  definitions : List MmsStaticUrcbDefinition
  states : List MmsStaticUrcbState
  objects : MmsStaticObjectTable
  dataSets : MmsStaticDataSetTable
  initialized : Bool := false
  deriving DecidableEq

def maximumControlBlocks : Nat := 64

/-! ## Helpers -/

def effectiveOptionalFirst : UInt8 := 0x7C
def allowedTriggerOptions : UInt8 := 0xFC

def MmsStaticUrcbDefinition.sameName (left right : MmsStaticUrcbDefinition) : Bool :=
  left.domain == right.domain && left.item == right.item

def validReportId (reportId : Bytes) : Bool := visibleAscii reportId maximumReportIdBytes

def validOptionalReference (domain item : Bytes) : Bool :=
  if domain.isEmpty || item.isEmpty then domain.isEmpty && item.isEmpty
  else validReference domain item

def validOptionalFields (optionalFields : Bytes) : Bool :=
  decide (optionalFields.length = optionalFieldBytes) &&
    optionalFields.getD 0 0 &&& ~~~allowedOptionalFirst == 0 &&
    optionalFields.getD 1 0 &&& ~~~allowedOptionalSecond == 0

/-- The fields a URCB reports: buffer-overflow and entryID are accepted and dropped. -/
def effectiveOptionalFields (optionalFields : Bytes) : Vector UInt8 optionalFieldBytes :=
  #v[optionalFields.getD 0 0 &&& effectiveOptionalFirst,
    optionalFields.getD 1 0 &&& allowedOptionalSecond]

def validTriggerOptions (options : UInt8) : Bool := options &&& ~~~allowedTriggerOptions == 0

namespace MmsStaticUrcbState

variable (state : MmsStaticUrcbState)

def bumpRevision : MmsStaticUrcbState := { state with revision := Mms.bumpRevision state.revision }

def refreshIntegrityArm (nowMs : UInt64) : MmsStaticUrcbState :=
  let period := effectiveIntegrityPeriod state.integrityPeriodMs
  let armed := state.enabled && state.triggerOptions &&& triggerIntegrity != 0 && period != 0
  { state with
    integrityArmed := armed
    nextIntegrityDueMs := if armed then saturatingAdd nowMs period.toUInt64 else 0 }

def clearPendingEvent : MmsStaticUrcbState :=
  { state with
    memberReasonMasks := .replicate maximumMembers 0
    eventDueMs := 0
    pendingMemberCount := 0
    eventPending := false }

def dominantEventReason : MmsStaticUrcbReportReason :=
  let combined := state.memberReasonMasks.toList.foldl (· ||| ·) 0
  if combined &&& MmsStaticUrcbReportReason.dataChange.bit != 0 then .dataChange
  else if combined &&& MmsStaticUrcbReportReason.qualityChange.bit != 0 then .qualityChange
  else if combined &&& MmsStaticUrcbReportReason.dataUpdate.bit != 0 then .dataUpdate
  else .none

end MmsStaticUrcbState

/-- The trigger an event reason needs and the reason it is reported with. -/
def urcbEventMapping : MmsStaticUrcbEventReason → UInt8 × MmsStaticUrcbReportReason
  | .dataChange => (triggerDataChange, .dataChange)
  | .qualityChange => (triggerQualityChange, .qualityChange)
  | .dataUpdate => (triggerDataUpdate, .dataUpdate)

def MmsStaticUrcbReportReason.event (reason : MmsStaticUrcbReportReason) : Bool :=
  reason == .dataChange || reason == .qualityChange || reason == .dataUpdate

def MmsStaticUrcbEmissionPlan.matchesState (plan : MmsStaticUrcbEmissionPlan)
    (state : MmsStaticUrcbState) : Bool :=
  if !state.enabled || plan.revision != state.revision || plan.reason == .none ||
      plan.sequenceNumber != nextSequenceNumber state.sequenceNumber then false
  else if plan.reason = .generalInterrogation then state.generalInterrogationPending
  else if plan.reason = .integrity then state.integrityArmed
  else plan.reason.event && state.eventPending && state.pendingMemberCount != 0

namespace MmsStaticUrcbRuntime

/-! ## Configuration -/

section

variable (rt : MmsStaticUrcbRuntime)

def dataSetOf (domain item : Bytes) : Option MmsStaticDataSetEntry :=
  rt.dataSets.find (objectName domain item)

def definitionValid (definition : MmsStaticUrcbDefinition) : Bool :=
  validReference definition.domain definition.item &&
  validReportId definition.reportId &&
  validOptionalReference definition.dataSetDomain definition.dataSetItem &&
  validOptionalFields definition.optionalFields.toList &&
  validTriggerOptions definition.triggerOptions &&
  (definition.dataSetDomain.isEmpty ||
    match rt.dataSetOf definition.dataSetDomain definition.dataSetItem with
    | none => false
    | some dataSet =>
      !dataSet.members.isEmpty && decide (dataSet.members.length ≤ maximumMembers))

/-- Every definition is valid and no later one has its name. -/
def definitionsValid : List MmsStaticUrcbDefinition → Bool
  | [] => true
  | definition :: others =>
    rt.definitionValid definition && !others.any definition.sameName && definitionsValid others

end

/-- The state a definition starts with. -/
def initialState (definition : MmsStaticUrcbDefinition) : MmsStaticUrcbState :=
  { reportId := definition.reportId
    dataSetDomain := definition.dataSetDomain
    dataSetItem := definition.dataSetItem
    optionalFields := effectiveOptionalFields definition.optionalFields.toList
    confRevision := definition.confRevision
    bufferTimeMs := definition.bufferTimeMs
    triggerOptions := definition.triggerOptions
    integrityPeriodMs := definition.integrityPeriodMs
    revision := 1 }

variable (rt : MmsStaticUrcbRuntime)

def initializeRuntime : Bool × MmsStaticUrcbRuntime :=
  if !rt.objects.valid || !rt.dataSets.valid || !rt.dataSets.validAgainst rt.objects ||
      decide (rt.definitions.length > maximumControlBlocks) ||
      decide (rt.states.length < rt.definitions.length) ||
      !rt.definitionsValid rt.definitions then (false, { rt with initialized := false })
  else
    (true,
      { rt with
        states := rt.definitions.map initialState ++ rt.states.drop rt.definitions.length
        initialized := true })

def state (index : Nat) : Option MmsStaticUrcbState :=
  if rt.initialized && decide (index < rt.definitions.length) then rt.states[index]? else none

def setState (index : Nat) (state : MmsStaticUrcbState) : MmsStaticUrcbRuntime :=
  { rt with states := rt.states.set index state }

/-- What the operations on one control block have in common. -/
def onState (index : Nat)
    (operation : MmsStaticUrcbState → MmsStaticUrcbStatus × MmsStaticUrcbState) :
    MmsStaticUrcbStatus × MmsStaticUrcbRuntime :=
  if !rt.initialized then (.invalidRuntime, rt)
  else
    match rt.state index with
    | none => (.indexOutOfRange, rt)
    | some state => ((operation state).1, rt.setState index (operation state).2)

/-- The data set of the block can be reported. -/
def reportable (state : MmsStaticUrcbState) : Bool :=
  !state.dataSetDomain.isEmpty && !state.dataSetItem.isEmpty &&
    match rt.dataSetOf state.dataSetDomain state.dataSetItem with
    | none => false
    | some dataSet => !dataSet.members.isEmpty

def enable (nowMs : UInt64) (state : MmsStaticUrcbState) : MmsStaticUrcbState :=
  (refresh { state with
    enabled := true, generalInterrogationPending := false }).bumpRevision
where
  refresh (state : MmsStaticUrcbState) : MmsStaticUrcbState :=
    ({ state.clearPendingEvent with sequenceNumber := 0 }).refreshIntegrityArm nowMs

def disable (state : MmsStaticUrcbState) : MmsStaticUrcbState :=
  ({ ({ state with enabled := false, generalInterrogationPending := false }).clearPendingEvent with
    integrityArmed := false, nextIntegrityDueMs := 0 }).bumpRevision

def setEnabled (index : Nat) (enabled : Bool) (nowMs : UInt64) :
    MmsStaticUrcbStatus × MmsStaticUrcbRuntime :=
  rt.onState index fun state =>
    if state.enabled = enabled then (.ok, state)
    else if enabled then
      if !rt.reportable state then (.dataSetNotFound, state) else (.ok, enable nowMs state)
    else (.ok, disable state)

def setReserved (index : Nat) (reserved : Bool) : MmsStaticUrcbStatus × MmsStaticUrcbRuntime :=
  rt.onState index fun state =>
    if state.reserved = reserved then (.ok, state)
    else (.ok, ({ state with reserved := reserved }).bumpRevision)

/-- The `set_*` of the configuration differ in what they check and write. -/
def configure (index : Nat) (check : MmsStaticUrcbStatus)
    (update : MmsStaticUrcbState → MmsStaticUrcbState) :
    MmsStaticUrcbStatus × MmsStaticUrcbRuntime :=
  rt.onState index fun state =>
    if state.enabled then (.objectAccessDenied, state)
    else if check ≠ .ok then (check, state)
    else if update state = state then (.ok, state)
    else (.ok, (update state).bumpRevision)

def setReportId (index : Nat) (reportId : Bytes) : MmsStaticUrcbStatus × MmsStaticUrcbRuntime :=
  rt.configure index (if validReportId reportId then .ok else .invalidValue)
    fun state => { state with reportId := reportId }

/-- What `set_data_set` makes of a reference. -/
def checkDataSet (domain item : Bytes) : MmsStaticUrcbStatus :=
  if !validOptionalReference domain item then .invalidValue
  else if domain.isEmpty then .ok
  else
    match rt.dataSetOf domain item with
    | none => .dataSetNotFound
    | some dataSet => if dataSet.members.isEmpty then .dataSetNotFound else .ok

def setDataSet (index : Nat) (domain item : Bytes) : MmsStaticUrcbStatus × MmsStaticUrcbRuntime :=
  rt.configure index (rt.checkDataSet domain item)
    fun state => { state with dataSetDomain := domain, dataSetItem := item }

def setOptionalFields (index : Nat) (optionalFields : Bytes) :
    MmsStaticUrcbStatus × MmsStaticUrcbRuntime :=
  rt.configure index (if validOptionalFields optionalFields then .ok else .invalidValue)
    fun state => { state with optionalFields := effectiveOptionalFields optionalFields }

def setBufferTimeMs (index : Nat) (bufferTimeMs : UInt32) :
    MmsStaticUrcbStatus × MmsStaticUrcbRuntime :=
  rt.configure index .ok fun state => { state with bufferTimeMs := bufferTimeMs }

def setTriggerOptions (index : Nat) (triggerOptions : UInt8) :
    MmsStaticUrcbStatus × MmsStaticUrcbRuntime :=
  rt.configure index (if validTriggerOptions triggerOptions then .ok else .invalidValue)
    fun state => { state with triggerOptions := triggerOptions }

def setIntegrityPeriodMs (index : Nat) (integrityPeriodMs : UInt32) :
    MmsStaticUrcbStatus × MmsStaticUrcbRuntime :=
  rt.configure index .ok fun state => { state with integrityPeriodMs := integrityPeriodMs }

/-! ## Events and the schedule -/

def requestGeneralInterrogation (index : Nat) : MmsStaticUrcbStatus × MmsStaticUrcbRuntime :=
  rt.onState index fun state =>
    if !state.enabled then (.temporarilyUnavailable, state)
    else if state.triggerOptions &&& triggerGeneralInterrogation = 0 then (.invalidValue, state)
    else if state.generalInterrogationPending then (.ok, state)
    else (.ok, ({ state with generalInterrogationPending := true }).bumpRevision)

/-- Mark member `index` with `reason`, and start the buffer time with the first mark. -/
def markMember (index : Fin maximumMembers) (reason : UInt8) (nowMs : UInt64)
    (state : MmsStaticUrcbState) : MmsStaticUrcbState :=
  let mask := state.memberReasonMasks.get index
  ({ state with
    eventPending := true
    eventDueMs := if state.eventPending then state.eventDueMs
      else saturatingAdd nowMs state.bufferTimeMs.toUInt64
    pendingMemberCount :=
      if mask = 0 then state.pendingMemberCount + 1 else state.pendingMemberCount
    memberReasonMasks := state.memberReasonMasks.set index (mask ||| reason) index.isLt }).bumpRevision

def notify (index dataSetMemberIndex : Nat) (reason : MmsStaticUrcbEventReason)
    (nowMs : UInt64) : MmsStaticUrcbStatus × MmsStaticUrcbRuntime :=
  rt.onState index fun state =>
    if !state.enabled then (.temporarilyUnavailable, state)
    else
      let (triggerMask, reportReason) := urcbEventMapping reason
      -- an update outside the selected triggers is accepted and dropped
      if state.triggerOptions &&& triggerMask = 0 then (.ok, state)
      else
        match rt.dataSetOf state.dataSetDomain state.dataSetItem with
        | none => (.dataSetNotFound, state)
        | some dataSet =>
          if dataSetMemberIndex ≥ dataSet.members.length then (.invalidValue, state)
          else if h : dataSetMemberIndex < maximumMembers then
            (.ok, markMember ⟨dataSetMemberIndex, h⟩ reportReason.bit nowMs state)
          else (.invalidValue, state)

def interrogationDue (state : MmsStaticUrcbState) : MmsStaticUrcbReportReason :=
  if state.enabled && state.generalInterrogationPending then .generalInterrogation else .none

def eventDue (nowMs : UInt64) (state : MmsStaticUrcbState) : MmsStaticUrcbReportReason :=
  if state.enabled && state.eventPending && state.pendingMemberCount != 0 &&
      decide (nowMs ≥ state.eventDueMs) then state.dominantEventReason
  else .none

def integrityDue (nowMs : UInt64) (state : MmsStaticUrcbState) : MmsStaticUrcbReportReason :=
  if state.enabled && state.integrityArmed && decide (nowMs ≥ state.nextIntegrityDueMs) then
    .integrity
  else .none

/-- The first block with a report that is due. -/
def findDue (due : MmsStaticUrcbState → MmsStaticUrcbReportReason) :
    Nat → List MmsStaticUrcbState → Option MmsStaticUrcbEmissionPlan
  | _, [] => none
  | index, state :: states =>
    if due state = .none then findDue due (index + 1) states
    else
      some
        { index
          revision := state.revision
          sequenceNumber := nextSequenceNumber state.sequenceNumber
          reason := due state }

/-- General interrogations of all blocks come first, then events, then integrity. -/
def nextDue (nowMs : UInt64) : Option MmsStaticUrcbEmissionPlan :=
  if !rt.initialized then none
  else
    let states := rt.states.take rt.definitions.length
    (findDue interrogationDue 0 states).or
      ((findDue (eventDue nowMs) 0 states).or (findDue (integrityDue nowMs) 0 states))

/-! ## Encoding -/

open MmsStaticBrcbRuntime (Included)

/-- Read one included member into the workspace. -/
def readMember (objects : MmsStaticObjectTable) (reads : ReadCallbacks) (workspaceSize : Nat)
    (included : Included) (member : MmsStaticDataSetMember) :
    Except MmsStaticUrcbEncodeResult Bytes :=
  let memberCount := included.indices.length
  match objects.find (objectName member.domain member.item) with
  | none => .error { status := .backendFailure, memberCount }
  | some object =>
    if !object.read then .error { status := .backendFailure, memberCount }
    else
      let remaining := workspaceSize - included.workspaceOffset
      let read := reads memberCount object remaining
      if read.status = .bufferTooSmall then
        .error
          { status := .workspaceTooSmall
            requiredBytes :=
              if read.requiredBytes > sizeMax - included.workspaceOffset then sizeMax
              else included.workspaceOffset + read.requiredBytes
            memberCount }
      else if !read.success || decide (read.bytesWritten > remaining) ||
          !Detail.validMmsData read.bytes then
        .error { status := .backendFailure, memberCount }
      else .ok read.bytes

/-- Walk the members from `memberIndex` on and read those with a reason. -/
def collectMembers (objects : MmsStaticObjectTable) (reads : ReadCallbacks) (workspaceSize : Nat)
    (reasonMask : Nat → UInt8) :
    List MmsStaticDataSetMember → Nat → Included → Except MmsStaticUrcbEncodeResult Included
  | [], _, included => .ok included
  | member :: members, memberIndex, included =>
    if reasonMask memberIndex = 0 then
      collectMembers objects reads workspaceSize reasonMask members (memberIndex + 1) included
    else
      match readMember objects reads workspaceSize included member with
      | .error result => .error result
      | .ok data =>
        collectMembers objects reads workspaceSize reasonMask members (memberIndex + 1)
          (included.add memberIndex member data (reasonMask memberIndex))

/-- The report of the members that have a reason. -/
def selectiveReport (state : MmsStaticUrcbState) (plan : MmsStaticUrcbEmissionPlan)
    (reportTime : Bytes) (dataSet : MmsStaticDataSetEntry) (included : Included) :
    MmsBufferedSelectiveInformationReportSnapshotInput :=
  { reportId := state.reportId
    optionalFields := state.optionalFields.toList
    sequenceNumber := plan.sequenceNumber.toUInt32
    reportTime := reportTime
    dataSetReference := ⟨state.dataSetDomain, state.dataSetItem⟩
    bufferOverflow := false
    entryId := []
    confRevision := state.confRevision
    dataSetMemberCount := dataSet.members.length
    includedMemberIndices := included.indices
    includedMemberReferences := included.references
    includedMemberResults := included.results
    includedReasonForInclusion :=
      if state.optionalFields.get 0 &&& Detail.optReasonForInclusion != 0 then included.reasons
      else [] }

def encodeSelectiveEvent (state : MmsStaticUrcbState) (plan : MmsStaticUrcbEmissionPlan)
    (reportTime : Bytes) (destinationSize workspaceSize : Nat) (reads : ReadCallbacks) :
    MmsStaticUrcbEncodeResult :=
  match rt.dataSetOf state.dataSetDomain state.dataSetItem with
  | none => { status := .dataSetNotFound }
  | some dataSet =>
    if dataSet.members.isEmpty ∨ dataSet.members.length > maximumMembers then
      { status := .reportEncodeFailed }
    else
      match collectMembers rt.objects reads workspaceSize
          (fun memberIndex => state.memberReasonMasks.toList.getD memberIndex 0)
          dataSet.members 0 {} with
      | .error result => result
      | .ok included =>
        let memberCount := included.indices.length
        if memberCount = 0 ∨ memberCount ≠ state.pendingMemberCount then
          { status := .stalePlan, memberCount }
        else
          let encoded := MmsBufferedSelectiveInformationReportSpanCodec.encodeSnapshotInto
            (selectiveReport state plan reportTime dataSet included) destinationSize
          if encoded.success then
            { status := .ok
              bytes := encoded.bytes
              requiredBytes := encoded.requiredBytes
              memberCount }
          else
            { status :=
                if encoded.status = .bufferTooSmall then .responseBufferTooSmall
                else .reportEncodeFailed
              requiredBytes := encoded.requiredBytes
              memberCount }

def mapReportResult (result : MmsStaticInformationReportEncodeResult) :
    MmsStaticUrcbEncodeResult :=
  { status :=
      match result.status with
      | .responseReady => .ok
      | .dataSetNotFound => .dataSetNotFound
      | .workspaceTooSmall => .workspaceTooSmall
      | .backendFailure | .objectNotFound => .backendFailure
      | .responseBufferTooSmall => .responseBufferTooSmall
      | .invalidObjectTable | .invalidDataSetTable | .invalidReport => .reportEncodeFailed
    bytes := result.bytes
    requiredBytes := result.requiredBytes
    memberCount := result.memberCount }

/-- The report of the whole data set. -/
def snapshotReport (state : MmsStaticUrcbState) (plan : MmsStaticUrcbEmissionPlan)
    (reportTime : Bytes) : MmsStaticInformationReportInput :=
  { reportId := state.reportId
    optionalFields := state.optionalFields.toList
    sequenceNumber := plan.sequenceNumber.toUInt32
    reportTime := reportTime
    buffered := false
    bufferOverflow := false
    entryId := []
    confRevision := state.confRevision
    reasonForInclusion := plan.reason.bit }

def encode (plan : MmsStaticUrcbEmissionPlan) (reportTime : Bytes)
    (destinationSize workspaceSize : Nat) (reads : ReadCallbacks) : MmsStaticUrcbEncodeResult :=
  if !rt.initialized then { status := .invalidRuntime }
  else
    match rt.state plan.index with
    | none => { status := .indexOutOfRange }
    | some state =>
      if !plan.matchesState state then { status := .stalePlan }
      else if plan.reason.event then
        rt.encodeSelectiveEvent state plan reportTime destinationSize workspaceSize reads
      else
        mapReportResult (MmsStaticInformationReportEncoder.encodeDataSetSnapshotInto rt.objects
          rt.dataSets (objectName state.dataSetDomain state.dataSetItem)
          (snapshotReport state plan reportTime) destinationSize workspaceSize reads)

/-- The state after a report of this reason. -/
def settle (reason : MmsStaticUrcbReportReason) (nowMs : UInt64) (state : MmsStaticUrcbState) :
    MmsStaticUrcbState :=
  if reason = .generalInterrogation then { state with generalInterrogationPending := false }
  else if reason.event then state.clearPendingEvent
  else
    let period := effectiveIntegrityPeriod state.integrityPeriodMs
    { state with
      nextIntegrityDueMs := if period = 0 then 0 else saturatingAdd nowMs period.toUInt64
      integrityArmed :=
        period != 0 && state.triggerOptions &&& triggerIntegrity != 0 && state.enabled }

def commit (plan : MmsStaticUrcbEmissionPlan) (nowMs : UInt64) :
    MmsStaticUrcbStatus × MmsStaticUrcbRuntime :=
  rt.onState plan.index fun state =>
    if !plan.matchesState state then (.stalePlan, state)
    else
      (.ok, (settle plan.reason nowMs
        { state with sequenceNumber := plan.sequenceNumber }).bumpRevision)

end MmsStaticUrcbRuntime

end ArStack.Mms
