import ArStack.Lib.Ring
import ArStack.Mms.BufferedReportSpan

/-!
# The buffered report control block runtime

`MmsStaticBrcbRuntime`: a bounded ring of encoded reports with a delivery cursor, the
pending reasons of the data set members, and the integrity and general interrogation
schedule. `nullptr` members are not modelled: the constructor takes references.

* `initializeRuntime` and the operations, in the order of the source
* `Operation`, `step` — the operations as one machine
-/

namespace ArStack.Mms

open ArStack.Asn1 ArStack.Wire

inductive MmsStaticBrcbStatus where
  | ok
  | invalidRuntime
  | invalidDefinition
  | memberOutOfRange
  | triggerNotSelected
  | temporarilyUnavailable
  | noReportDue
  | stalePlan
  | dataSetNotFound
  | objectNotFound
  | workspaceTooSmall
  | responseBufferTooSmall
  | slotTooSmall
  | backendFailure
  | reportEncodeFailed
  | entryNotFound
  deriving DecidableEq

inductive MmsStaticBrcbEventReason where
  | dataChange
  | qualityChange
  | dataUpdate
  deriving DecidableEq

inductive MmsStaticBrcbCaptureReason where
  | none
  | event
  | generalInterrogation
  | integrity
  deriving DecidableEq

structure MmsStaticBrcbDefinition where
  domain : Bytes
  item : Bytes
  reportId : Bytes
  dataSetDomain : Bytes
  dataSetItem : Bytes
  confRevision : UInt32 := 1
  optionalFields : Vector UInt8 optionalFieldBytes
  bufferTimeMs : UInt32
  triggerOptions : UInt8
  integrityPeriodMs : UInt32
  deriving DecidableEq

structure MmsStaticBrcbSlot where
  /-- The contents of the storage span; its length is the capacity. -/
  storage : Bytes
  entryId : Vector UInt8 entryIdBytes := .replicate entryIdBytes 0
  timeOfEntry : Vector UInt8 binaryTimeBytes := .replicate binaryTimeBytes 0
  bytes : Nat := 0
  sequenceNumber : UInt8 := 0
  bufferOverflow : Bool := false
  occupied : Bool := false
  deriving DecidableEq

/-- The stored report. -/
def MmsStaticBrcbSlot.pdu (slot : MmsStaticBrcbSlot) : Bytes := slot.storage.take slot.bytes

/-- `slot = {}` with its storage kept. -/
def MmsStaticBrcbSlot.cleared (slot : MmsStaticBrcbSlot) : MmsStaticBrcbSlot :=
  { storage := slot.storage }

structure MmsStaticBrcbPendingState where
  memberReasonMasks : Vector UInt8 maximumMembers := .replicate maximumMembers 0
  dueMs : UInt64 := 0
  revision : UInt32 := 0
  pendingMemberCount : Nat := 0
  pending : Bool := false
  deriving DecidableEq

structure MmsStaticBrcbCapturePlan where
  pendingRevision : UInt32 := 0
  scheduleRevision : UInt32 := 0
  queueRevision : UInt32 := 0
  entryNumber : UInt64 := 0
  observedNowMs : UInt64 := 0
  sequenceNumber : UInt8 := 0
  reason : MmsStaticBrcbCaptureReason := .none
  bufferOverflow : Bool := false
  deriving DecidableEq

structure MmsStaticBrcbCaptureResult where
  status : MmsStaticBrcbStatus := .invalidRuntime
  bytesWritten : Nat := 0
  requiredBytes : Nat := 0
  includedMemberCount : Nat := 0
  entryId : Vector UInt8 entryIdBytes := .replicate entryIdBytes 0
  deriving DecidableEq

structure MmsStaticBrcbEntryView where
  mmsPdu : Bytes
  entryId : Bytes
  sequenceNumber : UInt8
  bufferOverflow : Bool
  deriving DecidableEq

structure MmsStaticBrcbRuntime where
  definition : MmsStaticBrcbDefinition
  pending : MmsStaticBrcbPendingState
  slots : List MmsStaticBrcbSlot
  objects : MmsStaticObjectTable
  dataSets : MmsStaticDataSetTable
  head : Nat := 0
  count : Nat := 0
  deliveryOffset : Nat := 0
  nextEntryNumber : UInt64 := 1
  droppedReports : UInt64 := 0
  nextIntegrityDueMs : UInt64 := 0
  queueRevision : UInt32 := 1
  scheduleRevision : UInt32 := 1
  sequenceNumber : UInt8 := 0
  optionalFields : Vector UInt8 optionalFieldBytes := .replicate optionalFieldBytes 0
  triggerOptions : UInt8 := 0
  integrityPeriodMs : UInt32 := 0
  replayGap : Bool := false
  generalInterrogationPending : Bool := false
  integrityArmed : Bool := false
  enabled : Bool := false
  initialized : Bool := false
  deriving DecidableEq

/-- What the read callbacks answer during one capture: by the number of the call, the object
and the octets that are left of the workspace. -/
abbrev ReadCallbacks := Nat → MmsStaticObjectEntry → Nat → EncodeResult

/-! ## Constants and helpers -/

def triggerDataChange : UInt8 := 0x40
def triggerQualityChange : UInt8 := 0x20
def triggerDataUpdate : UInt8 := 0x10
def triggerIntegrity : UInt8 := 0x08
def triggerGeneralInterrogation : UInt8 := 0x04
def triggerTransient : UInt8 := 0x80
def allowedTriggers : UInt8 := triggerTransient ||| 0x7C

def reasonDataChange : UInt8 := 0x40
def reasonQualityChange : UInt8 := 0x20
def reasonDataUpdate : UInt8 := 0x10
def reasonIntegrity : UInt8 := 0x08
def reasonGeneralInterrogation : UInt8 := 0x04

def allowedOptionalFirst : UInt8 := 0x7F
def allowedOptionalSecond : UInt8 := 0x80

/-- The largest `std::uint64_t`. -/
def uint64Max : UInt64 := 0xFFFFFFFFFFFFFFFF

def saturatingAdd (base delta : UInt64) : UInt64 :=
  if delta > uint64Max - base then uint64Max else base + delta

def bumpRevision (revision : UInt32) : UInt32 :=
  if revision = 0xFFFFFFFF then 1 else revision + 1

def nextSequenceNumber (current : UInt8) : UInt8 := current + 1

/-- Entry numbers skip zero when they wrap. -/
def nextEntryNumber (current : UInt64) : UInt64 :=
  if current = uint64Max then 1 else current + 1

theorem nextEntryNumber_ne_zero (current : UInt64) : nextEntryNumber current ≠ 0 := by
  rw [nextEntryNumber]
  split
  · decide
  · rename_i h
    intro hzero
    refine h (UInt64.toNat_inj.mp ?_)
    have hlt := current.toNat_lt
    have hsum := congrArg UInt64.toNat hzero
    rw [UInt64.toNat_add] at hsum
    have hmax : uint64Max.toNat = 2 ^ 64 - 1 := rfl
    simp only [UInt64.reduceToNat] at hsum
    omega

def minimumIntegrityPeriodMs : UInt32 := 100

def effectiveIntegrityPeriod (configuredMs : UInt32) : UInt32 :=
  if configuredMs = 0 then 0
  else if configuredMs < minimumIntegrityPeriodMs then minimumIntegrityPeriodMs
  else configuredMs

def validReference (domain item : Bytes) : Bool :=
  visibleAscii domain maximumReferenceBytes && visibleAscii item maximumReferenceBytes &&
    decide (domain.length + 1 + item.length ≤ maximumReferenceBytes)

def clearPending (pending : MmsStaticBrcbPendingState) : MmsStaticBrcbPendingState :=
  { pending with
    memberReasonMasks := .replicate maximumMembers 0
    dueMs := 0
    pendingMemberCount := 0
    pending := false }

/-- The trigger an event reason needs and the reason bit it reports. -/
def eventMapping : MmsStaticBrcbEventReason → UInt8 × UInt8
  | .dataChange => (triggerDataChange, reasonDataChange)
  | .qualityChange => (triggerQualityChange, reasonQualityChange)
  | .dataUpdate => (triggerDataUpdate, reasonDataUpdate)

def scheduledReasonMask : MmsStaticBrcbCaptureReason → UInt8
  | .integrity => reasonIntegrity
  | .generalInterrogation => reasonGeneralInterrogation
  | .none | .event => 0

/-- An entry number in eight octets, most significant first. -/
def encodeEntryId (entryNumber : UInt64) : Vector UInt8 entryIdBytes :=
  ⟨(Lib.beOctets entryIdBytes entryNumber.toNat).toArray, by simp⟩

/-- `decode_entry_id` of the state codec. -/
def decodeEntryId (entryId : Bytes) : UInt64 := UInt64.ofNat (Lib.beValue entryId)

theorem toList_encodeEntryId (entryNumber : UInt64) :
    (encodeEntryId entryNumber).toList = Lib.beOctets entryIdBytes entryNumber.toNat := rfl

theorem decodeEntryId_encodeEntryId (entryNumber : UInt64) :
    decodeEntryId (encodeEntryId entryNumber).toList = entryNumber := by
  rw [toList_encodeEntryId, decodeEntryId, Lib.beValue_beOctets_uint64, UInt64.ofNat_toNat]

theorem encodeEntryId_decodeEntryId (entryId : Vector UInt8 entryIdBytes) :
    encodeEntryId (decodeEntryId entryId.toList) = entryId := by
  have hlen : entryId.toList.length = entryIdBytes := entryId.length_toList
  have hlt : Lib.beValue entryId.toList < 2 ^ 64 := by
    have := Lib.beValue_lt entryId.toList
    rw [hlen] at this
    exact this
  refine Vector.toList_inj.mp ?_
  rw [toList_encodeEntryId, decodeEntryId, UInt64.toNat_ofNat', Nat.mod_eq_of_lt hlt]
  have h := Lib.beOctets_beValue entryId.toList
  rwa [hlen] at h

def entryIdEqual (left : Bytes) (right : Vector UInt8 entryIdBytes) : Bool := left == right.toList

namespace MmsStaticBrcbRuntime

variable (rt : MmsStaticBrcbRuntime)

def dataSet : Option MmsStaticDataSetEntry :=
  rt.dataSets.find (objectName rt.definition.dataSetDomain rt.definition.dataSetItem)

/-! ## Configuration -/

def definitionValid : Bool :=
  let definition := rt.definition
  validReference definition.domain definition.item &&
  visibleAscii definition.reportId maximumReportIdBytes &&
  validReference definition.dataSetDomain definition.dataSetItem &&
  definition.optionalFields[0] &&& ~~~allowedOptionalFirst == 0 &&
  definition.optionalFields[1] &&& ~~~allowedOptionalSecond == 0 &&
  definition.optionalFields[0] &&& Detail.optEntryId != 0 &&
  definition.triggerOptions != 0 &&
  definition.triggerOptions &&& ~~~allowedTriggers == 0

/-- The first octet of OptFlds, with reason-for-inclusion among its bits. -/
def firstOptionalFields : UInt8 := rt.optionalFields[0]

def dataSetUsable : Bool :=
  match rt.dataSet with
  | none => false
  | some dataSet => !dataSet.members.isEmpty && decide (dataSet.members.length ≤ maximumMembers)

def initializeRuntime : Bool × MmsStaticBrcbRuntime :=
  let invalid := (false, { rt with initialized := false })
  if !rt.objects.valid || !rt.dataSets.valid || !rt.dataSets.validAgainst rt.objects ||
      rt.slots.isEmpty then invalid
  else if !rt.definitionValid then invalid
  else if !rt.dataSetUsable then invalid
  else if rt.slots.any (·.storage.isEmpty) then invalid
  else
    (true,
      { rt with
        pending := { revision := 1 }
        slots := rt.slots.map (·.cleared)
        head := 0
        count := 0
        deliveryOffset := 0
        nextEntryNumber := 1
        droppedReports := 0
        nextIntegrityDueMs := 0
        queueRevision := 1
        scheduleRevision := 1
        sequenceNumber := 0
        optionalFields := rt.definition.optionalFields
        triggerOptions := rt.definition.triggerOptions
        integrityPeriodMs := rt.definition.integrityPeriodMs
        replayGap := false
        generalInterrogationPending := false
        integrityArmed := false
        enabled := false
        initialized := true })

/-- What every accepted change of the configuration discards. -/
def discardSchedule : MmsStaticBrcbRuntime :=
  let pending := clearPending rt.pending
  { rt with
    pending := { pending with revision := bumpRevision pending.revision }
    generalInterrogationPending := false
    nextIntegrityDueMs := 0
    integrityArmed := false
    scheduleRevision := bumpRevision rt.scheduleRevision }

def setEnabled (enabled : Bool) : MmsStaticBrcbStatus × MmsStaticBrcbRuntime :=
  if !rt.initialized then (.invalidRuntime, rt)
  else if rt.enabled = enabled then (.ok, rt)
  else
    let period := effectiveIntegrityPeriod rt.integrityPeriodMs
    (.ok,
      { rt.discardSchedule with
        enabled := enabled
        integrityArmed := enabled && period != 0 && rt.triggerOptions &&& triggerIntegrity != 0 })

/-- The three `set_*` of the configuration differ in what they check and write. -/
def configure (valid unchanged : Bool) (update : MmsStaticBrcbRuntime → MmsStaticBrcbRuntime) :
    MmsStaticBrcbStatus × MmsStaticBrcbRuntime :=
  if !rt.initialized then (.invalidRuntime, rt)
  else if !valid then (.invalidDefinition, rt)
  else if rt.enabled then (.temporarilyUnavailable, rt)
  else if unchanged then (.ok, rt)
  else (.ok, (update rt).discardSchedule)

def setOptionalFields (optionalFields : Bytes) : MmsStaticBrcbStatus × MmsStaticBrcbRuntime :=
  rt.configure
    (decide (optionalFields.length = optionalFieldBytes) &&
      optionalFields.getD 0 0 &&& ~~~allowedOptionalFirst == 0 &&
      optionalFields.getD 1 0 &&& ~~~allowedOptionalSecond == 0)
    (optionalFields == rt.optionalFields.toList)
    fun rt => { rt with optionalFields := .ofFn fun i => optionalFields.getD i 0 }

def setTriggerOptions (triggerOptions : UInt8) : MmsStaticBrcbStatus × MmsStaticBrcbRuntime :=
  rt.configure (triggerOptions &&& ~~~allowedTriggers == 0) (rt.triggerOptions == triggerOptions)
    fun rt => { rt with triggerOptions := triggerOptions }

def setIntegrityPeriod (integrityPeriodMs : UInt32) : MmsStaticBrcbStatus × MmsStaticBrcbRuntime :=
  rt.configure true (rt.integrityPeriodMs == integrityPeriodMs)
    fun rt => { rt with integrityPeriodMs := integrityPeriodMs }

/-! ## Events and the schedule -/

/-- Mark member `index` with `reportReason`, and start the buffer time with the first mark. -/
def markMember (index : Fin maximumMembers) (reportReason : UInt8) (nowMs : UInt64) :
    MmsStaticBrcbPendingState :=
  let pending := rt.pending
  let mask := pending.memberReasonMasks[index]
  { memberReasonMasks := pending.memberReasonMasks.set index (mask ||| reportReason)
    dueMs := if pending.pending then pending.dueMs
      else saturatingAdd nowMs rt.definition.bufferTimeMs.toUInt64
    revision := bumpRevision pending.revision
    pendingMemberCount :=
      if mask = 0 then pending.pendingMemberCount + 1 else pending.pendingMemberCount
    pending := true }

def notify (dataSetMemberIndex : Nat) (reason : MmsStaticBrcbEventReason) (nowMs : UInt64) :
    MmsStaticBrcbStatus × MmsStaticBrcbRuntime :=
  if !rt.initialized then (.invalidRuntime, rt)
  else if !rt.enabled then (.temporarilyUnavailable, rt)
  else
    let (triggerMask, reportReason) := eventMapping reason
    if rt.triggerOptions &&& triggerMask = 0 then (.triggerNotSelected, rt)
    else
      match rt.dataSet with
      | none => (.dataSetNotFound, rt)
      | some dataSet =>
        if h : dataSetMemberIndex < dataSet.members.length ∧ dataSetMemberIndex < maximumMembers then
          (.ok, { rt with pending := rt.markMember ⟨dataSetMemberIndex, h.2⟩ reportReason nowMs })
        else (.memberOutOfRange, rt)

def requestGeneralInterrogation : MmsStaticBrcbStatus × MmsStaticBrcbRuntime :=
  if !rt.initialized then (.invalidRuntime, rt)
  else if !rt.enabled then (.temporarilyUnavailable, rt)
  else if rt.triggerOptions &&& triggerGeneralInterrogation = 0 then (.triggerNotSelected, rt)
  else if rt.generalInterrogationPending then (.ok, rt)
  else
    (.ok,
      { rt with
        generalInterrogationPending := true
        scheduleRevision := bumpRevision rt.scheduleRevision })

/-- The first `next_due` after enabling starts the integrity period. -/
def armIntegrity (nowMs : UInt64) : MmsStaticBrcbRuntime :=
  if rt.integrityArmed && rt.nextIntegrityDueMs == 0 then
    let period := effectiveIntegrityPeriod rt.integrityPeriodMs
    { rt with
      nextIntegrityDueMs := if period = 0 then 0 else saturatingAdd nowMs period.toUInt64
      scheduleRevision := bumpRevision rt.scheduleRevision }
  else rt

def dueReason (nowMs : UInt64) : MmsStaticBrcbCaptureReason :=
  if rt.generalInterrogationPending then .generalInterrogation
  else if rt.pending.pending && rt.pending.pendingMemberCount != 0 &&
      decide (nowMs ≥ rt.pending.dueMs) then .event
  else if rt.integrityArmed && rt.nextIntegrityDueMs != 0 &&
      decide (nowMs ≥ rt.nextIntegrityDueMs) then .integrity
  else .none

def full : Bool := rt.count == rt.slots.length

def overflow : Bool := rt.full && rt.deliveryOffset == 0

def nextDue (nowMs : UInt64) : Option MmsStaticBrcbCapturePlan × MmsStaticBrcbRuntime :=
  if !rt.initialized || !rt.enabled || rt.slots.isEmpty then (none, rt)
  else
    let rt := rt.armIntegrity nowMs
    match rt.dueReason nowMs with
    | .none => (none, rt)
    | reason =>
      (some
        { pendingRevision := rt.pending.revision
          scheduleRevision := rt.scheduleRevision
          queueRevision := rt.queueRevision
          entryNumber := rt.nextEntryNumber
          observedNowMs := nowMs
          sequenceNumber := nextSequenceNumber rt.sequenceNumber
          reason := reason
          bufferOverflow := rt.overflow }, rt)

/-! ## Capture -/

/-- The plan was made for another state of the runtime. -/
def stale (plan : MmsStaticBrcbCapturePlan) : Bool :=
  let eventPlan := plan.reason == .event
  let integrityPlan := plan.reason == .integrity
  let giPlan := plan.reason == .generalInterrogation
  let scheduledPlan := integrityPlan || giPlan
  !rt.enabled || (!eventPlan && !scheduledPlan) ||
    plan.queueRevision != rt.queueRevision ||
    plan.entryNumber != rt.nextEntryNumber ||
    plan.sequenceNumber != nextSequenceNumber rt.sequenceNumber ||
    plan.bufferOverflow != rt.overflow ||
    (eventPlan && (!rt.pending.pending || rt.pending.pendingMemberCount == 0 ||
      plan.pendingRevision != rt.pending.revision)) ||
    (scheduledPlan && plan.scheduleRevision != rt.scheduleRevision) ||
    (giPlan && !rt.generalInterrogationPending) ||
    (integrityPlan && (!rt.integrityArmed || rt.nextIntegrityDueMs == 0 ||
      decide (plan.observedNowMs < rt.nextIntegrityDueMs)))

/-- The members collected for a report so far. -/
structure Included where
  indices : List Nat := []
  references : List MmsInformationReportReferenceInput := []
  results : List MmsReadAccessResultInput := []
  reasons : List UInt8 := []
  workspaceOffset : Nat := 0
  deriving DecidableEq

/-- Add a member that was read. -/
def Included.add (included : Included) (memberIndex : Nat) (member : MmsStaticDataSetMember)
    (data : Bytes) (reasonMask : UInt8) : Included :=
  { indices := included.indices ++ [memberIndex]
    references := included.references ++ [⟨member.domain, member.item⟩]
    results := included.results ++ [{ success := true, encodedData := data }]
    reasons := included.reasons ++ [reasonMask]
    workspaceOffset := included.workspaceOffset + data.length }

/-- Read one included member into the workspace. -/
def readMember (objects : MmsStaticObjectTable) (reads : ReadCallbacks) (workspaceSize : Nat)
    (included : Included) (member : MmsStaticDataSetMember) :
    Except MmsStaticBrcbCaptureResult Bytes :=
  let includedMemberCount := included.indices.length
  match objects.find (objectName member.domain member.item) with
  | none => .error { status := .objectNotFound, includedMemberCount }
  | some object =>
    let remaining := workspaceSize - included.workspaceOffset
    let read := reads includedMemberCount object remaining
    if read.status = .bufferTooSmall then
      .error
        { status := .workspaceTooSmall
          requiredBytes :=
            if read.requiredBytes ≤ sizeMax - included.workspaceOffset then
              included.workspaceOffset + read.requiredBytes
            else 0
          includedMemberCount }
    else if !read.success || decide (read.bytesWritten > remaining) ||
        !Detail.validMmsData read.bytes then
      .error { status := .backendFailure, includedMemberCount }
    else .ok read.bytes

/-- Walk the members from `memberIndex` on and read those with a reason. -/
def collectMembers (objects : MmsStaticObjectTable) (reads : ReadCallbacks) (workspaceSize : Nat)
    (reasonMask : Nat → UInt8) :
    List MmsStaticDataSetMember → Nat → Included → Except MmsStaticBrcbCaptureResult Included
  | [], _, included => .ok included
  | member :: members, memberIndex, included =>
    if reasonMask memberIndex = 0 then
      collectMembers objects reads workspaceSize reasonMask members (memberIndex + 1) included
    else
      match readMember objects reads workspaceSize included member with
      | .error result => .error result
      | .ok data =>
        collectMembers objects reads workspaceSize reasonMask members (memberIndex + 1)
          (included.add memberIndex member data (reasonMask memberIndex))

/-- The reason a capture of kind `reason` reports for a member. -/
def memberReason (reason : MmsStaticBrcbCaptureReason) (memberIndex : Nat) : UInt8 :=
  match reason with
  | .integrity | .generalInterrogation => scheduledReasonMask reason
  | .none | .event => rt.pending.memberReasonMasks.toList.getD memberIndex 0

/-- The report of a capture. -/
def reportInput (plan : MmsStaticBrcbCapturePlan) (reportTime : Bytes)
    (dataSet : MmsStaticDataSetEntry) (included : Included) :
    MmsBufferedSelectiveInformationReportSnapshotInput :=
  { reportId := rt.definition.reportId
    optionalFields := rt.optionalFields.toList
    sequenceNumber := plan.sequenceNumber.toUInt32
    reportTime := reportTime
    dataSetReference := ⟨rt.definition.dataSetDomain, rt.definition.dataSetItem⟩
    bufferOverflow := plan.bufferOverflow
    entryId := (encodeEntryId plan.entryNumber).toList
    confRevision := rt.definition.confRevision
    dataSetMemberCount := dataSet.members.length
    includedMemberIndices := included.indices
    includedMemberReferences := included.references
    includedMemberResults := included.results
    includedReasonForInclusion :=
      if rt.optionalFields[0] &&& Detail.optReasonForInclusion != 0 then included.reasons else [] }

/-- The ring position a capture writes to: the oldest entry's when the ring is full. -/
def targetIndex : Nat :=
  if rt.full then rt.head else (rt.head + rt.count) % rt.slots.length

def filledSlot (slot : MmsStaticBrcbSlot) (plan : MmsStaticBrcbCapturePlan) (reportTime : Bytes)
    (encoded : Bytes) : MmsStaticBrcbSlot :=
  { storage := encoded ++ slot.storage.drop encoded.length
    entryId := encodeEntryId plan.entryNumber
    timeOfEntry :=
      if reportTime.length = binaryTimeBytes then .ofFn fun i => reportTime.getD i 0
      else .replicate binaryTimeBytes 0
    bytes := encoded.length
    sequenceNumber := plan.sequenceNumber
    bufferOverflow := plan.bufferOverflow
    occupied := true }

/-- The ring and the counters after an entry is stored. -/
def advance (plan : MmsStaticBrcbCapturePlan) (slot : MmsStaticBrcbSlot) : MmsStaticBrcbRuntime :=
  let slots := rt.slots.set rt.targetIndex slot
  let sequenceNumber := plan.sequenceNumber
  let next := Mms.nextEntryNumber plan.entryNumber
  if rt.full then
    let head := (rt.head + 1) % rt.slots.length
    if rt.deliveryOffset = 0 then
      { rt with
        slots, head, sequenceNumber
        nextEntryNumber := next
        droppedReports := rt.droppedReports + 1
        replayGap := true }
    else
      { rt with
        slots, head, sequenceNumber
        nextEntryNumber := next
        deliveryOffset := rt.deliveryOffset - 1 }
  else { rt with slots, sequenceNumber, nextEntryNumber := next, count := rt.count + 1 }

/-- The pending state and the schedule after a capture of the plan. -/
def settle (plan : MmsStaticBrcbCapturePlan) : MmsStaticBrcbRuntime :=
  match plan.reason with
  | .event =>
    let pending := clearPending rt.pending
    { rt with pending := { pending with revision := bumpRevision pending.revision } }
  | .generalInterrogation =>
    { rt with
      generalInterrogationPending := false
      scheduleRevision := bumpRevision rt.scheduleRevision }
  | .integrity =>
    let period := effectiveIntegrityPeriod rt.integrityPeriodMs
    { rt with
      nextIntegrityDueMs :=
        if period = 0 then 0 else saturatingAdd plan.observedNowMs period.toUInt64
      integrityArmed := period != 0 && rt.enabled && rt.triggerOptions &&& triggerIntegrity != 0
      scheduleRevision := bumpRevision rt.scheduleRevision }
  | .none => rt

def bumpQueue : MmsStaticBrcbRuntime :=
  { rt with queueRevision := bumpRevision rt.queueRevision }

/-- Encode the collected members and store the report. -/
def storeReport (plan : MmsStaticBrcbCapturePlan) (reportTime : Bytes) (encodeBufferSize : Nat)
    (dataSet : MmsStaticDataSetEntry) (included : Included) :
    MmsStaticBrcbCaptureResult × MmsStaticBrcbRuntime :=
  let includedMemberCount := included.indices.length
  let entryId := encodeEntryId plan.entryNumber
  let encoded := MmsBufferedSelectiveInformationReportSpanCodec.encodeSnapshotInto
    (rt.reportInput plan reportTime dataSet included) encodeBufferSize
  if !encoded.success then
    ({ status :=
        if encoded.status = .bufferTooSmall then .responseBufferTooSmall else .reportEncodeFailed
       requiredBytes := encoded.requiredBytes
       includedMemberCount, entryId }, rt)
  else
    match rt.slots[rt.targetIndex]? with
    -- the ring never points outside its slots
    | none => ({ status := .invalidRuntime }, rt)
    | some slot =>
      if slot.storage.length < encoded.bytesWritten then
        ({ status := .slotTooSmall
           requiredBytes := encoded.bytesWritten
           includedMemberCount, entryId }, rt)
      else
        ({ status := .ok
           bytesWritten := encoded.bytesWritten
           requiredBytes := encoded.requiredBytes
           includedMemberCount, entryId },
         ((rt.advance plan (filledSlot slot plan reportTime encoded.bytes)).settle plan).bumpQueue)

def expectedIncluded (plan : MmsStaticBrcbCapturePlan) (dataSet : MmsStaticDataSetEntry) : Nat :=
  if plan.reason = .event then rt.pending.pendingMemberCount else dataSet.members.length

def capture (plan : MmsStaticBrcbCapturePlan) (reportTime : Bytes)
    (encodeBufferSize workspaceSize : Nat) (reads : ReadCallbacks) :
    MmsStaticBrcbCaptureResult × MmsStaticBrcbRuntime :=
  if !rt.initialized || rt.slots.isEmpty || decide (rt.deliveryOffset > rt.count) then
    ({ status := .invalidRuntime }, rt)
  else if rt.stale plan then ({ status := .stalePlan }, rt)
  else
    match rt.dataSet with
    | none => ({ status := .dataSetNotFound }, rt)
    | some dataSet =>
      match collectMembers rt.objects reads workspaceSize (rt.memberReason plan.reason)
          dataSet.members 0 {} with
      | .error result => (result, rt)
      | .ok included =>
        let includedMemberCount := included.indices.length
        if includedMemberCount = 0 ∨ includedMemberCount ≠ rt.expectedIncluded plan dataSet then
          ({ status := .stalePlan, includedMemberCount }, rt)
        else rt.storeReport plan reportTime encodeBufferSize dataSet included

/-! ## Delivery -/

/-- The entry at the delivery cursor. -/
def front : Option MmsStaticBrcbEntryView :=
  if !rt.initialized || rt.count == 0 || decide (rt.deliveryOffset ≥ rt.count) ||
      decide (rt.head ≥ rt.slots.length) then none
  else
    match rt.slots[(rt.head + rt.deliveryOffset) % rt.slots.length]? with
    | none => none
    | some slot =>
      if !slot.occupied || slot.bytes == 0 || decide (slot.bytes > slot.storage.length) then none
      else some ⟨slot.pdu, slot.entryId.toList, slot.sequenceNumber, slot.bufferOverflow⟩

def commitDelivery (expectedEntryId : Bytes) : MmsStaticBrcbStatus × MmsStaticBrcbRuntime :=
  if !rt.initialized || rt.slots.isEmpty || decide (rt.deliveryOffset > rt.count) then
    (.invalidRuntime, rt)
  else if rt.deliveryOffset ≥ rt.count ∨ rt.head ≥ rt.slots.length then (.entryNotFound, rt)
  else
    match rt.slots[(rt.head + rt.deliveryOffset) % rt.slots.length]? with
    | none => (.entryNotFound, rt)
    | some slot =>
      if !slot.occupied || !entryIdEqual expectedEntryId slot.entryId then (.entryNotFound, rt)
      else (.ok, { rt.bumpQueue with deliveryOffset := rt.deliveryOffset + 1 })

/-- The first retained entry with this identifier, counted from the oldest. -/
def findEntry (entryId : Bytes) : Option Nat :=
  if !rt.initialized || decide (entryId.length ≠ entryIdBytes) ||
      decide (rt.count > rt.slots.length) || decide (rt.head ≥ rt.slots.length) then none
  else
    (List.range rt.count).find? fun logical =>
      match rt.slots[(rt.head + logical) % rt.slots.length]? with
      | none => false
      | some slot => slot.occupied && entryIdEqual entryId slot.entryId

/-- `replay_from` and `resume_after` set the cursor at the entry and behind it. -/
def moveCursor (entryId : Bytes) (behind : Nat) : MmsStaticBrcbStatus × MmsStaticBrcbRuntime :=
  if !rt.initialized then (.invalidRuntime, rt)
  else
    match rt.findEntry entryId with
    | none => (.entryNotFound, rt)
    | some logical => (.ok, { rt.bumpQueue with deliveryOffset := logical + behind })

def replayFrom (entryId : Bytes) : MmsStaticBrcbStatus × MmsStaticBrcbRuntime :=
  rt.moveCursor entryId 0

def resumeAfter (entryId : Bytes) : MmsStaticBrcbStatus × MmsStaticBrcbRuntime :=
  rt.moveCursor entryId 1

def rewindToOldest : MmsStaticBrcbStatus × MmsStaticBrcbRuntime :=
  if !rt.initialized || decide (rt.count > rt.slots.length) then (.invalidRuntime, rt)
  else (.ok, { rt.bumpQueue with deliveryOffset := 0 })

def clearRetainedSlots : List MmsStaticBrcbSlot := rt.slots.map (·.cleared)

def purgeBuffer : MmsStaticBrcbStatus × MmsStaticBrcbRuntime :=
  if !rt.initialized || rt.slots.isEmpty then (.invalidRuntime, rt)
  else
    (.ok,
      { rt.bumpQueue with
        slots := rt.clearRetainedSlots
        head := 0
        count := 0
        deliveryOffset := 0
        replayGap := false })

/-! ## The machine -/

/-- A call of the public interface, with whatever the caller and the callbacks contribute. -/
inductive Operation where
  | setEnabled (enabled : Bool)
  | setOptionalFields (optionalFields : Bytes)
  | setTriggerOptions (triggerOptions : UInt8)
  | setIntegrityPeriod (integrityPeriodMs : UInt32)
  | notify (dataSetMemberIndex : Nat) (reason : MmsStaticBrcbEventReason) (nowMs : UInt64)
  | requestGeneralInterrogation
  | nextDue (nowMs : UInt64)
  | capture (plan : MmsStaticBrcbCapturePlan) (reportTime : Bytes)
      (encodeBufferSize workspaceSize : Nat) (reads : ReadCallbacks)
  | commitDelivery (expectedEntryId : Bytes)
  | replayFrom (entryId : Bytes)
  | resumeAfter (entryId : Bytes)
  | rewindToOldest
  | purgeBuffer

def step : MmsStaticBrcbRuntime → Operation → MmsStaticBrcbRuntime
  | rt, .setEnabled enabled => (rt.setEnabled enabled).2
  | rt, .setOptionalFields optionalFields => (rt.setOptionalFields optionalFields).2
  | rt, .setTriggerOptions triggerOptions => (rt.setTriggerOptions triggerOptions).2
  | rt, .setIntegrityPeriod integrityPeriodMs => (rt.setIntegrityPeriod integrityPeriodMs).2
  | rt, .notify index reason nowMs => (rt.notify index reason nowMs).2
  | rt, .requestGeneralInterrogation => rt.requestGeneralInterrogation.2
  | rt, .nextDue nowMs => (rt.nextDue nowMs).2
  | rt, .capture plan reportTime encodeBufferSize workspaceSize reads =>
    (rt.capture plan reportTime encodeBufferSize workspaceSize reads).2
  | rt, .commitDelivery expectedEntryId => (rt.commitDelivery expectedEntryId).2
  | rt, .replayFrom entryId => (rt.replayFrom entryId).2
  | rt, .resumeAfter entryId => (rt.resumeAfter entryId).2
  | rt, .rewindToOldest => rt.rewindToOldest.2
  | rt, .purgeBuffer => rt.purgeBuffer.2

/-! ## A device for examples -/

/-- One object, a data set with it as the only member, and slots of the given capacities. -/
def sampleRuntime (capacities : List Nat) : MmsStaticBrcbRuntime where
  definition :=
    { domain := [0x44]
      item := [0x42]
      reportId := [0x52]
      dataSetDomain := [0x44]
      dataSetItem := [0x53]
      optionalFields := #v[0x01, 0x00]
      bufferTimeMs := 5
      triggerOptions := 0x7C
      integrityPeriodMs := 0 }
  pending := {}
  slots := capacities.map fun capacity => { storage := List.replicate capacity 0 }
  objects := ⟨[{ domain := [0x44], item := [0x49], typeSpecification := [0x83, 0x00] }]⟩
  dataSets := ⟨[{ domain := [0x44], item := [0x53], members := [⟨[0x44], [0x49]⟩] }]⟩

/-- Callbacks that always answer with `value`. -/
def constantReads (value : Bytes) : ReadCallbacks :=
  fun _ _ _ => { bytes := value, requiredBytes := value.length }

/-- Request a general interrogation and capture it with the plan of `next_due`. -/
def sampleCapture (rt : MmsStaticBrcbRuntime) (value : Bytes) : List Operation :=
  [.requestGeneralInterrogation,
    .capture (((rt.step .requestGeneralInterrogation).nextDue 0).1.getD {}) [] 64 64
      (constantReads value)]

end MmsStaticBrcbRuntime

end ArStack.Mms
