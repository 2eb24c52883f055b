import ArStack.Lib.Throws
import ArStack.Mms.StaticBrcbRuntime

/-!
# `MmsStaticBrcbRuntime::capture`, statement by statement

`capture` of the runtime's module is one function from the state before to the state after.
Here every assignment to a member of the runtime or of a ring slot is a step of its own, in
the order of the source, and a `return` before the last one leaves with whatever the
statements before it have written.
-/

namespace ArStack.Mms.MmsStaticBrcbRuntime

open ArStack.Asn1 ArStack.Wire

/-- A write to a ring slot. -/
def modifySlot {ε : Type} (index : Nat) (f : MmsStaticBrcbSlot → MmsStaticBrcbSlot) :
    EStateM ε MmsStaticBrcbRuntime Unit :=
  modify fun rt => { rt with slots := rt.slots.modify index f }

theorem modifySlot_run {ε : Type} (index : Nat) (f : MmsStaticBrcbSlot → MmsStaticBrcbSlot)
    (rt : MmsStaticBrcbRuntime) :
    (modifySlot index f : EStateM ε MmsStaticBrcbRuntime Unit) rt =
      .ok ⟨⟩ { rt with slots := rt.slots.modify index f } := rfl

theorem modifySlot_bind {ε β : Type} (index : Nat) (f : MmsStaticBrcbSlot → MmsStaticBrcbSlot)
    (g : Unit → EStateM ε MmsStaticBrcbRuntime β) (rt : MmsStaticBrcbRuntime) :
    (modifySlot index f >>= g) rt = g ⟨⟩ { rt with slots := rt.slots.modify index f } := rfl

/-- Statements over the runtime; an early `return result` is a throw. -/
abbrev CaptureM := EStateM MmsStaticBrcbCaptureResult MmsStaticBrcbRuntime

namespace CaptureM

/-! ## Before the first write -/

def checkRuntime (plan : MmsStaticBrcbCapturePlan) : CaptureM Unit := do
  let rt ← get
  if !rt.initialized || rt.slots.isEmpty || decide (rt.deliveryOffset > rt.count) then
    throw { status := .invalidRuntime }
  if rt.stale plan then
    throw { status := .stalePlan }

def findDataSet : CaptureM MmsStaticDataSetEntry := do
  match (← get).dataSet with
  | none => throw { status := .dataSetNotFound }
  | some dataSet => return dataSet

/-- The loop over the members, from `memberIndex` on. -/
def collect (plan : MmsStaticBrcbCapturePlan) (workspaceSize : Nat) (reads : ReadCallbacks) :
    List MmsStaticDataSetMember → Nat → Included → CaptureM Included
  | [], _, included => return included
  | member :: members, memberIndex, included => do
    let rt ← get
    let reasonMask := rt.memberReason plan.reason memberIndex
    if reasonMask = 0 then
      collect plan workspaceSize reads members (memberIndex + 1) included
    else
      match readMember rt.objects reads workspaceSize included member with
      | .error result => throw result
      | .ok data =>
        collect plan workspaceSize reads members (memberIndex + 1)
          (included.add memberIndex member data reasonMask)

def checkIncluded (plan : MmsStaticBrcbCapturePlan) (dataSet : MmsStaticDataSetEntry)
    (included : Included) : CaptureM Unit := do
  let includedMemberCount := included.indices.length
  if includedMemberCount = 0 ∨ includedMemberCount ≠ (← get).expectedIncluded plan dataSet then
    throw { status := .stalePlan, includedMemberCount }

def encodeReport (plan : MmsStaticBrcbCapturePlan) (reportTime : Bytes) (encodeBufferSize : Nat)
    (dataSet : MmsStaticDataSetEntry) (included : Included) : CaptureM EncodeResult := do
  let encoded := MmsBufferedSelectiveInformationReportSpanCodec.encodeSnapshotInto
    ((← get).reportInput plan reportTime dataSet included) encodeBufferSize
  if !encoded.success then
    throw
      { status :=
          if encoded.status = .bufferTooSmall then .responseBufferTooSmall
          else .reportEncodeFailed
        requiredBytes := encoded.requiredBytes
        includedMemberCount := included.indices.length
        entryId := encodeEntryId plan.entryNumber }
  return encoded

/-- The ring position the report goes to. -/
def chooseSlot (plan : MmsStaticBrcbCapturePlan) (included : Included) (encoded : EncodeResult) :
    CaptureM Nat := do
  let rt ← get
  match rt.slots[rt.targetIndex]? with
  -- the ring never points outside its slots
  | none => throw { status := .invalidRuntime }
  | some slot =>
    if slot.storage.length < encoded.bytesWritten then
      throw
        { status := .slotTooSmall
          requiredBytes := encoded.bytesWritten
          includedMemberCount := included.indices.length
          entryId := encodeEntryId plan.entryNumber }
    return rt.targetIndex

/-! ## The writes -/

def writeSlot (plan : MmsStaticBrcbCapturePlan) (reportTime : Bytes) (index : Nat)
    (encoded : Bytes) : CaptureM Unit := do
  modifySlot index fun slot =>
    { slot with storage := encoded ++ slot.storage.drop encoded.length }
  modifySlot index fun slot => { slot with entryId := encodeEntryId plan.entryNumber }
  modifySlot index fun slot => { slot with timeOfEntry := .replicate binaryTimeBytes 0 }
  if reportTime.length = binaryTimeBytes then
    modifySlot index fun slot => { slot with timeOfEntry := .ofFn fun i => reportTime.getD i 0 }
  modifySlot index fun slot => { slot with bytes := encoded.length }
  modifySlot index fun slot => { slot with sequenceNumber := plan.sequenceNumber }
  modifySlot index fun slot => { slot with bufferOverflow := plan.bufferOverflow }
  modifySlot index fun slot => { slot with occupied := true }

def advanceRing (full : Bool) : CaptureM Unit := do
  if full then
    if (← get).deliveryOffset = 0 then
      modify fun rt => { rt with droppedReports := rt.droppedReports + 1 }
      modify fun rt => { rt with replayGap := true }
    else
      modify fun rt => { rt with deliveryOffset := rt.deliveryOffset - 1 }
    modify fun rt => { rt with head := (rt.head + 1) % rt.slots.length }
  else
    modify fun rt => { rt with count := rt.count + 1 }

def advanceNumbers (plan : MmsStaticBrcbCapturePlan) : CaptureM Unit := do
  modify fun rt => { rt with sequenceNumber := plan.sequenceNumber }
  modify fun rt => { rt with nextEntryNumber := Mms.nextEntryNumber plan.entryNumber }

/-- The pending reasons or the schedule, by the kind of the plan. -/
def consumeReason (plan : MmsStaticBrcbCapturePlan) : CaptureM Unit := do
  match plan.reason with
  | .event =>
    modify fun rt => { rt with pending := clearPending rt.pending }
    modify fun rt =>
      { rt with pending := { rt.pending with revision := bumpRevision rt.pending.revision } }
  | .generalInterrogation =>
    modify fun rt => { rt with generalInterrogationPending := false }
    modify fun rt => { rt with scheduleRevision := bumpRevision rt.scheduleRevision }
  | .integrity =>
    let period := effectiveIntegrityPeriod (← get).integrityPeriodMs
    modify fun rt =>
      { rt with
        nextIntegrityDueMs :=
          if period = 0 then 0 else saturatingAdd plan.observedNowMs period.toUInt64 }
    modify fun rt =>
      { rt with
        integrityArmed := period != 0 && rt.enabled && rt.triggerOptions &&& triggerIntegrity != 0 }
    modify fun rt => { rt with scheduleRevision := bumpRevision rt.scheduleRevision }
  | .none => pure ()

/-! ## The function -/

/-- Everything up to the choice of the slot. -/
def prepare (plan : MmsStaticBrcbCapturePlan) (reportTime : Bytes)
    (encodeBufferSize workspaceSize : Nat) (reads : ReadCallbacks) :
    CaptureM (Included × EncodeResult × Nat) := do
  checkRuntime plan
  let dataSet ← findDataSet
  let included ← collect plan workspaceSize reads dataSet.members 0 {}
  checkIncluded plan dataSet included
  let encoded ← encodeReport plan reportTime encodeBufferSize dataSet included
  let target ← chooseSlot plan included encoded
  return (included, encoded, target)

/-- Everything from the copy into the slot on. -/
def commit (plan : MmsStaticBrcbCapturePlan) (reportTime : Bytes) (full : Bool) (index : Nat)
    (encoded : Bytes) : CaptureM Unit := do
  writeSlot plan reportTime index encoded
  advanceRing full
  advanceNumbers plan
  consumeReason plan
  modify fun rt => { rt with queueRevision := bumpRevision rt.queueRevision }

def capture (plan : MmsStaticBrcbCapturePlan) (reportTime : Bytes)
    (encodeBufferSize workspaceSize : Nat) (reads : ReadCallbacks) :
    CaptureM MmsStaticBrcbCaptureResult := do
  let full := (← get).full
  let (included, encoded, target) ←
    prepare plan reportTime encodeBufferSize workspaceSize reads
  commit plan reportTime full target encoded.bytes
  return {
    status := .ok
    bytesWritten := encoded.bytesWritten
    requiredBytes := encoded.requiredBytes
    includedMemberCount := included.indices.length
    entryId := encodeEntryId plan.entryNumber }

end CaptureM

/-- What the caller of `capture` sees: the result, wherever it was returned, and the runtime. -/
def captureRun (rt : MmsStaticBrcbRuntime) (plan : MmsStaticBrcbCapturePlan) (reportTime : Bytes)
    (encodeBufferSize workspaceSize : Nat) (reads : ReadCallbacks) :
    MmsStaticBrcbCaptureResult × MmsStaticBrcbRuntime :=
  match CaptureM.capture plan reportTime encodeBufferSize workspaceSize reads rt with
  | .ok result rt' => (result, rt')
  | .error result rt' => (result, rt')

end ArStack.Mms.MmsStaticBrcbRuntime
