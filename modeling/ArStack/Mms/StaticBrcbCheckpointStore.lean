import ArStack.Integrity.Crc32
import ArStack.Lib.Medium
import ArStack.Mms.StaticBrcbStateCodec

/-!
# The two-bank checkpoint store

`MmsStaticBrcbCheckpointStore` keeps recovery images in two banks of a storage backend. A
bank holds a header, the image and, in its last octets, a footer that commits it. The backend
is the contents of its storage; reads succeed, and the operations a checkpoint issues are
returned, so that power can be lost between and during them.

* `inspectBank` — the record of a bank, if both its ends and its image check
* `checkpoint` — the operations of one checkpoint and its result when all of them are done
* `restore` — load the newest record
-/

namespace ArStack.Mms

open ArStack.Lib ArStack.Integrity

inductive MmsStaticBrcbCheckpointStatus where
  | ok
  | noCheckpoint
  | invalidBackend
  | invalidLayout
  | stateBufferTooSmall
  | storageFailure
  | stateEncodeFailed
  | stateRestoreFailed
  deriving DecidableEq

structure MmsStaticBrcbCheckpointResult where
  status : MmsStaticBrcbCheckpointStatus := .invalidBackend
  stateStatus : MmsStaticBrcbStateStatus := .ok
  generation : UInt64 := 0
  bankIndex : Nat := 0
  stateBytes : Nat := 0
  requiredStateBytes : Nat := 0
  deriving DecidableEq

structure MmsStaticBrcbCheckpointStore where
  capacityBytes : Nat
  bankBytes : Nat
  deriving DecidableEq

namespace MmsStaticBrcbCheckpointStore

def formatVersion : Nat := 1
def bankCount : Nat := 2
def recordHeaderBytes : Nat := 40
def recordFooterBytes : Nat := 32

/-- `ARBRCBP1` -/
def headerMagic : Bytes := [0x41, 0x52, 0x42, 0x52, 0x43, 0x42, 0x50, 0x31]
/-- `ARCOMMIT` -/
def footerMagic : Bytes := [0x41, 0x52, 0x43, 0x4F, 0x4D, 0x4D, 0x49, 0x54]

structure BankInfo where
  generation : UInt64
  payloadBytes : Nat
  payloadCrc : UInt32
  deriving DecidableEq

/-- `left` is newer, over the wrap of the counter. -/
def generationNewer (left right : UInt64) : Bool :=
  if left = right then false else decide (left - right < 0x8000000000000000)

def nextGeneration (current : UInt64) : UInt64 :=
  if current = 0 ∨ current = uint64Max then 1 else current + 1

def bankOffset (bankIndex bankBytes : Nat) : Nat := bankIndex * bankBytes

/-! ## Records -/

/-- The checks that an end of a record makes on its own octets. -/
def headerValid (header : Bytes) : Bool :=
  header.take 8 == headerMagic && readAt header 8 2 == formatVersion &&
    readAt header 10 2 == recordHeaderBytes &&
    (crc32 (header.take 36)).toNat == readAt header 36 4 &&
    (slice header 28 8).all (· == 0)

def footerValid (footer : Bytes) : Bool :=
  footer.take 8 == footerMagic && (crc32 (footer.take 28)).toNat == readAt footer 28 4 &&
    (slice footer 24 4).all (· == 0)

def headerOf (cells : Bytes) (bankIndex bankBytes : Nat) : Bytes :=
  slice cells (bankOffset bankIndex bankBytes) recordHeaderBytes

def footerOf (cells : Bytes) (bankIndex bankBytes : Nat) : Bytes :=
  slice cells (bankOffset bankIndex bankBytes + bankBytes - recordFooterBytes) recordFooterBytes

def payloadOf (cells : Bytes) (bankIndex bankBytes payloadBytes : Nat) : Bytes :=
  slice cells (bankOffset bankIndex bankBytes + recordHeaderBytes) payloadBytes

/-- The record of a bank, if it holds a valid one. -/
def inspectBank (cells : Bytes) (bankIndex bankBytes : Nat) : Option BankInfo :=
  let header := headerOf cells bankIndex bankBytes
  let footer := footerOf cells bankIndex bankBytes
  if !headerValid header || !footerValid footer then none
  else
    let generation := UInt64.ofNat (readAt header 12 8)
    let payloadBytes := readAt header 20 4
    let payloadCrc := UInt32.ofNat (readAt header 24 4)
    if generation = 0 ∨ payloadBytes = 0 ∨
        generation ≠ UInt64.ofNat (readAt footer 8 8) ∨
        payloadBytes ≠ readAt footer 16 4 ∨
        payloadCrc ≠ UInt32.ofNat (readAt footer 20 4) ∨
        payloadBytes > bankBytes - recordHeaderBytes - recordFooterBytes then none
    else if crc32 (payloadOf cells bankIndex bankBytes payloadBytes) ≠ payloadCrc then none
    else some { generation, payloadBytes, payloadCrc }

def buildHeader (generation : UInt64) (payloadBytes : Nat) (payloadCrc : UInt32) : Bytes :=
  let fields := headerMagic ++ beOctets 2 formatVersion ++ beOctets 2 recordHeaderBytes ++
    beOctets 8 generation.toNat ++ beOctets 4 payloadBytes ++ beOctets 4 payloadCrc.toNat ++
    List.replicate 8 0
  fields ++ beOctets 4 (crc32 fields).toNat

def buildFooter (generation : UInt64) (payloadBytes : Nat) (payloadCrc : UInt32) : Bytes :=
  let fields := footerMagic ++ beOctets 8 generation.toNat ++ beOctets 4 payloadBytes ++
    beOctets 4 payloadCrc.toNat ++ List.replicate 4 0
  fields ++ beOctets 4 (crc32 fields).toNat

/-! ## Checkpoint -/

variable (store : MmsStaticBrcbCheckpointStore)

def valid : Bool :=
  store.capacityBytes != 0 && decide (store.bankBytes > recordHeaderBytes + recordFooterBytes) &&
    decide (store.bankBytes ≤ store.capacityBytes / bankCount)

def maximumStateBytes : Nat :=
  if store.bankBytes ≥ recordHeaderBytes + recordFooterBytes then
    store.bankBytes - recordHeaderBytes - recordFooterBytes
  else 0

/-- The bank to overwrite and the newest generation. -/
def selectTarget : Option BankInfo → Option BankInfo → Nat × UInt64
  | some first, some second =>
    if generationNewer second.generation first.generation then (0, second.generation)
    else (1, first.generation)
  | some first, none => (1, first.generation)
  | none, some second => (0, second.generation)
  | none, none => (0, 0)

/-- The backend operations that write a record. -/
def recordOps (target : Nat) (generation : UInt64) (payload : Bytes) : List (Op UInt8) :=
  let base := bankOffset target store.bankBytes
  let crc := crc32 payload
  [.erase base store.bankBytes,
    .sync,
    .write base (buildHeader generation payload.length crc),
    .write (base + recordHeaderBytes) payload,
    .sync,
    .write (base + store.bankBytes - recordFooterBytes) (buildFooter generation payload.length crc),
    .sync]

/-- What `checkpoint` decides before it touches the storage: the refusal, or the target, the
generation and the image. -/
def prepare (cells : Bytes) (runtime : MmsStaticBrcbRuntime) (bufferSize : Nat) :
    Except MmsStaticBrcbCheckpointResult (Nat × UInt64 × Bytes) :=
  if !store.valid then .error { status := .invalidBackend }
  else
    let state := MmsStaticBrcbStateCodec.encode runtime bufferSize
    if state.status ≠ .ok then
      .error
        { status := if state.status = .bufferTooSmall then .stateBufferTooSmall
            else .stateEncodeFailed
          stateStatus := state.status
          requiredStateBytes := state.requiredBytes }
    else if state.bytes.length > store.maximumStateBytes ∨ state.bytes.length > uint32Max then
      .error
        { status := .invalidLayout
          stateBytes := state.bytes.length
          requiredStateBytes := state.requiredBytes }
    else
      let (target, current) := selectTarget (inspectBank cells 0 store.bankBytes)
        (inspectBank cells 1 store.bankBytes)
      .ok (target, nextGeneration current, state.bytes)

/-- The operations a checkpoint issues, and its result when all of them succeed. -/
def checkpoint (cells : Bytes) (runtime : MmsStaticBrcbRuntime) (bufferSize : Nat) :
    MmsStaticBrcbCheckpointResult × List (Op UInt8) :=
  match store.prepare cells runtime bufferSize with
  | .error result => (result, [])
  | .ok (target, generation, payload) =>
    ({ status := .ok
       generation := generation
       bankIndex := target
       stateBytes := payload.length
       requiredStateBytes := payload.length },
      store.recordOps target generation payload)

/-! ## Restore -/

/-- The newest bank and the other one, each with its record. -/
def selectPrimary : Option BankInfo → Option BankInfo →
    Option ((Nat × BankInfo) × Option (Nat × BankInfo))
  | some first, some second =>
    if generationNewer second.generation first.generation then
      some ((1, second), some (0, first))
    else some ((0, first), some (1, second))
  | some first, none => some ((0, first), none)
  | none, some second => some ((1, second), none)
  | none, none => none

/-- Read the image of a bank into the state buffer. -/
def loadBank (cells : Bytes) (bufferSize : Nat) (selected : Nat × BankInfo) :
    Except MmsStaticBrcbCheckpointStatus Bytes :=
  if bufferSize < selected.2.payloadBytes then .error .stateBufferTooSmall
  else
    let payload := payloadOf cells selected.1 store.bankBytes selected.2.payloadBytes
    if crc32 payload ≠ selected.2.payloadCrc then .error .storageFailure else .ok payload

/-- Load the primary bank, or after a storage failure the other one. -/
def loadSelected (cells : Bytes) (bufferSize : Nat) (primary : Nat × BankInfo)
    (fallback : Option (Nat × BankInfo)) :
    (Nat × BankInfo) × Except MmsStaticBrcbCheckpointStatus Bytes :=
  match store.loadBank cells bufferSize primary, fallback with
  | .error .storageFailure, some fallback => (fallback, store.loadBank cells bufferSize fallback)
  | loaded, _ => (primary, loaded)

/-- The result, the image that was loaded and the runtime. -/
def restore (cells : Bytes) (runtime : MmsStaticBrcbRuntime) (bufferSize : Nat) :
    MmsStaticBrcbCheckpointResult × Option Bytes × MmsStaticBrcbRuntime :=
  if !store.valid then ({ status := .invalidBackend }, none, runtime)
  else
    match selectPrimary (inspectBank cells 0 store.bankBytes)
        (inspectBank cells 1 store.bankBytes) with
    | none => ({ status := .noCheckpoint }, none, runtime)
    | some (primary, fallback) =>
      let (selected, loaded) := store.loadSelected cells bufferSize primary fallback
      let result : MmsStaticBrcbCheckpointResult :=
        { generation := selected.2.generation
          bankIndex := selected.1
          stateBytes := selected.2.payloadBytes
          requiredStateBytes := selected.2.payloadBytes }
      match loaded with
      | .error status => ({ result with status := status }, none, runtime)
      | .ok payload =>
        let (restored, runtime) := MmsStaticBrcbStateCodec.restore runtime payload
        ({ result with
            status := if restored.status = .ok then .ok else .stateRestoreFailed
            stateStatus := restored.status }, some payload, runtime)

end MmsStaticBrcbCheckpointStore

end ArStack.Mms
