import ArStack.Mms.StaticBrcbRuntime

/-!
# The recovery image of a BRCB

`MmsStaticBrcbStateCodec`: the retained window, the delivery cursor and the counters of a
runtime as a flat image. An image is the concatenation of its fields; reading the header is
slicing at fixed offsets, and the entries are read over the octets that are left, so that the
offset of the source is the length of the image less these.

* `encode` — the image of a runtime (format 2)
* `restore` — load an image of format 2 or 1 into a runtime
-/

namespace ArStack.Mms

open ArStack.Lib

inductive MmsStaticBrcbStateStatus where
  | ok
  | invalidRuntime
  | bufferTooSmall
  | invalidState
  | definitionMismatch
  | capacityMismatch
  deriving DecidableEq

/-- `bytes` is what `encode` has written; for `restore` it is the image it has accepted. -/
structure MmsStaticBrcbStateResult where
  status : MmsStaticBrcbStateStatus := .invalidRuntime
  bytes : Bytes := []
  requiredBytes : Nat := 0
  deriving DecidableEq

namespace MmsStaticBrcbStateCodec

def legacyFormatVersion : Nat := 1
def formatVersion : Nat := 2

/-- `ARBRCBQ1` -/
def magicV1 : Bytes := [0x41, 0x52, 0x42, 0x52, 0x43, 0x42, 0x51, 0x31]
/-- `ARBRCBQ2` -/
def magicV2 : Bytes := [0x41, 0x52, 0x42, 0x52, 0x43, 0x42, 0x51, 0x32]
def headerBytesV1 : Nat := 48
def headerBytesV2 : Nat := 56
def entryHeaderBytes : Nat := 16
def replayGapFlag : UInt8 := 0x01
def fnvOffset : UInt64 := 14695981039346656037
def fnvPrime : UInt64 := 1099511628211

/-! ## The definition fingerprint -/

def hashByte (hash : UInt64) (value : UInt8) : UInt64 := (hash ^^^ value.toUInt64) * fnvPrime

def hashBytes (hash : UInt64) (values : Bytes) : UInt64 := values.foldl hashByte hash

def hashU64 (hash value : UInt64) : UInt64 := hashBytes hash (beOctets 8 value.toNat)

def hashText (hash : UInt64) (text : Bytes) : UInt64 :=
  hashBytes (hashU64 hash (UInt64.ofNat text.length)) text

def definitionFingerprint (definition : MmsStaticBrcbDefinition) : UInt64 :=
  let hash := hashText fnvOffset definition.domain
  let hash := hashText hash definition.item
  let hash := hashText hash definition.reportId
  let hash := hashText hash definition.dataSetDomain
  let hash := hashText hash definition.dataSetItem
  let hash := hashU64 hash definition.confRevision.toUInt64
  let hash := hashBytes hash definition.optionalFields.toList
  let hash := hashU64 hash definition.bufferTimeMs.toUInt64
  hashByte hash definition.triggerOptions

/-! ## Encoding -/

/-- The slots of the retained entries, oldest first. -/
def retainedSlots (runtime : MmsStaticBrcbRuntime) : List MmsStaticBrcbSlot :=
  window runtime.slots runtime.head runtime.count

/-- The image size with the entries of `slots` added, if they can be encoded. -/
def requiredSize : Nat → List MmsStaticBrcbSlot → Option Nat
  | required, [] => some required
  | required, slot :: slots =>
    if !slot.occupied || slot.bytes == 0 || decide (slot.bytes > slot.storage.length) ||
        decide (slot.bytes > uint32Max) then none
    else do
      let required ← addSize required entryHeaderBytes
      let required ← addSize required slot.bytes
      requiredSize required slots

def encodeHeader (fingerprint : UInt64) (runtime : MmsStaticBrcbRuntime) : Bytes :=
  magicV2 ++ beOctets 2 formatVersion ++ beOctets 2 headerBytesV2 ++
  beOctets 8 fingerprint.toNat ++
  beOctets 4 runtime.count ++
  beOctets 8 runtime.nextEntryNumber.toNat ++
  beOctets 8 runtime.droppedReports.toNat ++
  [runtime.sequenceNumber, if runtime.replayGap then replayGapFlag else 0, 0, 0] ++
  beOctets 4 runtime.deliveryOffset ++
  List.replicate 8 0

def encodeEntry (slot : MmsStaticBrcbSlot) : Bytes :=
  beOctets 4 slot.bytes ++ slot.entryId.toList ++
  [slot.sequenceNumber, if slot.bufferOverflow then 1 else 0, 0, 0] ++ slot.pdu

def encode (runtime : MmsStaticBrcbRuntime) (destinationSize : Nat) : MmsStaticBrcbStateResult :=
  if !runtime.initialized || runtime.slots.isEmpty ||
      decide (runtime.head ≥ runtime.slots.length) ||
      decide (runtime.count > runtime.slots.length) ||
      decide (runtime.deliveryOffset > runtime.count) ||
      decide (runtime.count > uint32Max) || decide (runtime.deliveryOffset > uint32Max) then
    { status := .invalidRuntime }
  else
    match requiredSize headerBytesV2 (retainedSlots runtime) with
    | none => { status := .invalidRuntime }
    | some required =>
      if destinationSize < required then { status := .bufferTooSmall, requiredBytes := required }
      else
        { status := .ok
          bytes := encodeHeader (definitionFingerprint runtime.definition) runtime ++
            (retainedSlots runtime).flatMap encodeEntry
          requiredBytes := required }

/-! ## Restoring -/

def magicMatches (source magic : Bytes) : Bool :=
  decide (source.length ≥ magic.length) && source.take magic.length == magic

/-- An image of this magic, version and header size. -/
def isFormat (source magic : Bytes) (version headerBytes : Nat) : Bool :=
  decide (source.length ≥ headerBytes) && magicMatches source magic &&
    readAt source 8 2 == version && readAt source 10 2 == headerBytes

def isV2 (source : Bytes) : Bool := isFormat source magicV2 formatVersion headerBytesV2

def isV1 (source : Bytes) : Bool := isFormat source magicV1 legacyFormatVersion headerBytesV1

/-- The reserved octets of a format 2 header are zero. -/
def reservedV2 (source : Bytes) : Bool :=
  octetAt source 41 &&& ~~~replayGapFlag == 0 && octetAt source 42 == 0 &&
    octetAt source 43 == 0 && (slice source 48 8).all (· == 0)

def reservedV1 (source : Bytes) : Bool := (slice source 41 7).all (· == 0)

/-- What the last checked entry said. -/
structure LastEntry where
  entryNumber : UInt64 := 0
  sequence : UInt8 := 0
  deriving DecidableEq

/-- Check `count` entries at the front of `rest` against the slots from `logical` on. -/
def checkEntries (slots : List MmsStaticBrcbSlot) :
    Nat → Nat → LastEntry → Bytes → Except MmsStaticBrcbStateStatus (LastEntry × Bytes)
  | 0, _, last, rest => .ok (last, rest)
  | count + 1, logical, last, rest =>
    if rest.length < entryHeaderBytes then .error .invalidState
    else
      let pduBytes := readAt rest 0 4
      let entryNumber := decodeEntryId (slice rest 4 8)
      let capacity := (slots[logical]?.map (·.storage.length)).getD 0
      if pduBytes = 0 ∨ octetAt rest 13 > 1 ∨ octetAt rest 14 ≠ 0 ∨ octetAt rest 15 ≠ 0 ∨
          pduBytes > capacity then
        .error (if pduBytes > capacity then .capacityMismatch else .invalidState)
      else if pduBytes > rest.length - entryHeaderBytes then .error .invalidState
      else if entryNumber = 0 ∨
          (logical ≠ 0 ∧ entryNumber ≠ nextEntryNumber last.entryNumber) then
        .error .invalidState
      else
        checkEntries slots count (logical + 1) ⟨entryNumber, octetAt rest 12⟩
          (rest.drop (entryHeaderBytes + pduBytes))

/-- Load `count` entries at the front of `rest` into the slots. -/
def loadEntries : List MmsStaticBrcbSlot → Nat → Bytes → List MmsStaticBrcbSlot
  | slots, 0, _ => slots
  | [], _, _ => []
  | slot :: slots, count + 1, rest =>
    let pduBytes := readAt rest 0 4
    let pdu := slice rest entryHeaderBytes pduBytes
    { slot with
      storage := pdu ++ slot.storage.drop pdu.length
      entryId := .ofFn fun i => octetAt rest (4 + i)
      bytes := pduBytes
      sequenceNumber := octetAt rest 12
      bufferOverflow := octetAt rest 13 != 0
      occupied := true } ::
    loadEntries slots count (rest.drop (entryHeaderBytes + pduBytes))

/-- The runtime after a checked image is loaded. -/
def load (runtime : MmsStaticBrcbRuntime) (source : Bytes) (headerBytes deliveryOffset : Nat)
    (replayGap : Bool) : MmsStaticBrcbRuntime :=
  let count := readAt source 20 4
  { runtime with
    slots := loadEntries (runtime.slots.map (·.cleared)) count (source.drop headerBytes)
    head := 0
    count := count
    deliveryOffset := deliveryOffset
    nextEntryNumber := UInt64.ofNat (readAt source 24 8)
    droppedReports := UInt64.ofNat (readAt source 32 8)
    sequenceNumber := octetAt source 40
    replayGap := replayGap
    queueRevision := bumpRevision runtime.queueRevision
    pending := { revision := 1 }
    enabled := false }

/-- Check and load the entries of an image whose header is accepted. -/
def restoreBody (runtime : MmsStaticBrcbRuntime) (source : Bytes)
    (headerBytes deliveryOffset : Nat) (replayGap : Bool) :
    MmsStaticBrcbStateResult × MmsStaticBrcbRuntime :=
  let failed (status : MmsStaticBrcbStateStatus) :
      MmsStaticBrcbStateResult × MmsStaticBrcbRuntime :=
    ({ status := status, requiredBytes := source.length }, runtime)
  let count := readAt source 20 4
  let nextEntry := UInt64.ofNat (readAt source 24 8)
  if readAt source 12 8 ≠ (definitionFingerprint runtime.definition).toNat then
    failed .definitionMismatch
  else if count > runtime.slots.length then failed .capacityMismatch
  else if deliveryOffset > count ∨ nextEntry = 0 then failed .invalidState
  else
    match checkEntries runtime.slots count 0 {} (source.drop headerBytes) with
    | .error status => failed status
    | .ok (last, rest) =>
      if rest ≠ [] ∨ (count ≠ 0 ∧ nextEntry ≠ nextEntryNumber last.entryNumber) ∨
          (count ≠ 0 ∧ octetAt source 40 ≠ last.sequence) then
        failed .invalidState
      else
        ({ status := .ok, bytes := source, requiredBytes := source.length },
          load runtime source headerBytes deliveryOffset replayGap)

def restore (runtime : MmsStaticBrcbRuntime) (source : Bytes) :
    MmsStaticBrcbStateResult × MmsStaticBrcbRuntime :=
  let invalid := ({ status := .invalidState, requiredBytes := source.length }, runtime)
  if !runtime.initialized || runtime.slots.isEmpty then
    ({ status := .invalidRuntime, requiredBytes := source.length }, runtime)
  else if isV2 source then
    if !reservedV2 source then invalid
    else
      restoreBody runtime source headerBytesV2 (readAt source 44 4)
        (octetAt source 41 &&& replayGapFlag != 0)
  else if isV1 source then
    if !reservedV1 source then invalid else restoreBody runtime source headerBytesV1 0 false
  else invalid

end MmsStaticBrcbStateCodec

end ArStack.Mms
