import ArStack.Mms.StaticBrcbCapture
import ArStack.Mms.StaticBrcbStateCodec

/-!
# `MmsStaticBrcbStateCodec::restore`, statement by statement

The first loop of the source only reads; it is `checkEntries`. From `clear_slots` on every
assignment to a slot or to a member of the runtime is a step of its own.
-/

namespace ArStack.Mms.MmsStaticBrcbStateCodec

open ArStack.Lib MmsStaticBrcbRuntime

/-- Statements over the runtime; an early `return result` is a throw. -/
abbrev RestoreM := EStateM MmsStaticBrcbStateResult MmsStaticBrcbRuntime

namespace RestoreM

/-! ## The checks -/

def fail {α : Type} (source : Bytes) (status : MmsStaticBrcbStateStatus) : RestoreM α :=
  throw { status := status, requiredBytes := source.length }

/-- The header's size, the delivery offset and the replay gap. -/
def checkFormat (source : Bytes) : RestoreM (Nat × Nat × Bool) := do
  let rt ← get
  if !rt.initialized || rt.slots.isEmpty then
    fail source .invalidRuntime
  else if isV2 source then
    if !reservedV2 source then fail source .invalidState
    else return (headerBytesV2, readAt source 44 4, octetAt source 41 &&& replayGapFlag != 0)
  else if isV1 source then
    if !reservedV1 source then fail source .invalidState
    else return (headerBytesV1, 0, false)
  else fail source .invalidState

def checkCounters (source : Bytes) (deliveryOffset : Nat) : RestoreM Unit := do
  let rt ← get
  let count := readAt source 20 4
  if readAt source 12 8 ≠ (definitionFingerprint rt.definition).toNat then
    fail source .definitionMismatch
  else if count > rt.slots.length then fail source .capacityMismatch
  else if deliveryOffset > count ∨ UInt64.ofNat (readAt source 24 8) = 0 then
    fail source .invalidState
  else return

def checkWindow (source : Bytes) (headerBytes : Nat) : RestoreM Unit := do
  let rt ← get
  let count := readAt source 20 4
  match checkEntries rt.slots count 0 {} (source.drop headerBytes) with
  | .error status => fail source status
  | .ok (last, rest) =>
    if rest ≠ [] ∨
        (count ≠ 0 ∧ UInt64.ofNat (readAt source 24 8) ≠ nextEntryNumber last.entryNumber) ∨
        (count ≠ 0 ∧ octetAt source 40 ≠ last.sequence) then
      fail source .invalidState
    else return

/-- Everything before `clear_slots`. -/
def check (source : Bytes) : RestoreM (Nat × Nat × Bool) := do
  let (headerBytes, deliveryOffset, replayGap) ← checkFormat source
  checkCounters source deliveryOffset
  checkWindow source headerBytes
  return (headerBytes, deliveryOffset, replayGap)

/-! ## The writes -/

def clearSlots : RestoreM Unit := modify fun rt => { rt with slots := rt.slots.map (·.cleared) }

/-- The second loop, from slot `logical` on. -/
def loadSlots : Nat → Nat → Bytes → RestoreM Unit
  | 0, _, _ => return
  | count + 1, logical, rest => do
    let pduBytes := readAt rest 0 4
    let pdu := slice rest entryHeaderBytes pduBytes
    modifySlot logical fun slot => { slot with entryId := .ofFn fun i => octetAt rest (4 + i) }
    modifySlot logical fun slot => { slot with sequenceNumber := octetAt rest 12 }
    modifySlot logical fun slot => { slot with bufferOverflow := octetAt rest 13 != 0 }
    modifySlot logical fun slot => { slot with bytes := pduBytes }
    modifySlot logical fun slot => { slot with occupied := true }
    modifySlot logical fun slot => { slot with storage := pdu ++ slot.storage.drop pdu.length }
    loadSlots count (logical + 1) (rest.drop (entryHeaderBytes + pduBytes))

def writeCounters (source : Bytes) (deliveryOffset : Nat) (replayGap : Bool) : RestoreM Unit := do
  modify fun rt => { rt with head := 0 }
  modify fun rt => { rt with count := readAt source 20 4 }
  modify fun rt => { rt with deliveryOffset := deliveryOffset }
  modify fun rt => { rt with nextEntryNumber := UInt64.ofNat (readAt source 24 8) }
  modify fun rt => { rt with droppedReports := UInt64.ofNat (readAt source 32 8) }
  modify fun rt => { rt with sequenceNumber := octetAt source 40 }
  modify fun rt => { rt with replayGap := replayGap }
  modify fun rt => { rt with queueRevision := bumpRevision rt.queueRevision }
  modify fun rt => { rt with pending := {} }
  modify fun rt => { rt with pending := { rt.pending with revision := 1 } }
  modify fun rt => { rt with enabled := false }

/-! ## The function -/

def restore (source : Bytes) : RestoreM MmsStaticBrcbStateResult := do
  let (headerBytes, deliveryOffset, replayGap) ← check source
  clearSlots
  loadSlots (readAt source 20 4) 0 (source.drop headerBytes)
  writeCounters source deliveryOffset replayGap
  return { status := .ok, bytes := source, requiredBytes := source.length }

end RestoreM

/-- What the caller of `restore` sees: the result, wherever it was returned, and the runtime. -/
def restoreRun (runtime : MmsStaticBrcbRuntime) (source : Bytes) :
    MmsStaticBrcbStateResult × MmsStaticBrcbRuntime :=
  match RestoreM.restore source runtime with
  | .ok result rt' => (result, rt')
  | .error result rt' => (result, rt')

end ArStack.Mms.MmsStaticBrcbStateCodec
