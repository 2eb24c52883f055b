import ArStack.Asn1.BerSpanWriter
import ArStack.Mms.StaticBrcbControl
import ArStack.Mms.StaticDirectControl

/-!
# The attributes of a BRCB as MMS objects

The read and the write callback of `MmsStaticBrcbObjectBank`. A callback gets the clock of its
context as `nowMs`; the control of the context drives the runtime of the context.

* `latestEntryId`, `latestTimeOfEntry` — the newest retained entry
* `readBrcbAttribute` — what a client reads
* `ensureClaimed`, `writeBrcbAttribute` — what a client writes
-/

namespace ArStack.Mms

open ArStack.Asn1 ArStack.Wire ArStack.Lib

inductive MmsStaticBrcbAttribute where
  | reportId
  | reportEnabled
  | dataSet
  | confRevision
  | optionalFields
  | bufferTime
  | sequenceNumber
  | triggerOptions
  | integrityPeriod
  | generalInterrogation
  | purgeBuffer
  | entryId
  | timeOfEntry
  | reservationTime
  | owner
  deriving DecidableEq

namespace MmsStaticBrcbRuntime

variable (rt : MmsStaticBrcbRuntime)

/-- The slot of the newest retained entry, if it holds one. -/
def latestSlot : Option MmsStaticBrcbSlot :=
  if !rt.initialized || rt.slots.isEmpty || rt.count == 0 || decide (rt.count > rt.slots.length) ||
      decide (rt.head ≥ rt.slots.length) then none
  else
    match rt.slots[(rt.head + rt.count - 1) % rt.slots.length]? with
    | none => none
    | some slot => if slot.occupied then some slot else none

def latestEntryId : Vector UInt8 entryIdBytes :=
  (rt.latestSlot.map (·.entryId)).getD (.replicate entryIdBytes 0)

def latestTimeOfEntry : Vector UInt8 binaryTimeBytes :=
  (rt.latestSlot.map (·.timeOfEntry)).getD (.replicate binaryTimeBytes 0)

def queueSize : Nat := if rt.deliveryOffset ≤ rt.count then rt.count - rt.deliveryOffset else 0

end MmsStaticBrcbRuntime

namespace MmsStaticBrcbObjects

def hardwareFault : UInt32 := 1
def temporarilyUnavailable : UInt32 := 2
def objectAccessDenied : UInt32 := 3
def typeInconsistent : UInt32 := 7
def objectValueInvalid : UInt32 := 11

/-! ## Encoding a value -/

/-- A context-specific primitive TLV. -/
def encodePrimitive (tagNumber : Nat) (content : Bytes) (destinationSize : Nat) : EncodeResult :=
  match BerSpanWriter.tlvSize tagNumber content.length with
  | none => { status := .valueOutOfRange }
  | some total =>
    if destinationSize < total then { status := .bufferTooSmall, requiredBytes := total }
    else
      { status := .ok
        bytes :=
          BerSpanWriter.tlvHeader .contextSpecific false tagNumber content.length ++ content
        requiredBytes := total }

def encodeBoolean (value : Bool) : Nat → EncodeResult :=
  encodePrimitive 3 [if value then 0xFF else 0x00]

/-- The octets of an unsigned value, at least one. -/
def unsignedContentSize (value : UInt32) : Nat := 1 + octetCount 3 (value.toNat >>> 8)

def encodeUnsigned (value : UInt32) : Nat → EncodeResult :=
  encodePrimitive 6 (beOctets (unsignedContentSize value) value.toNat)

def encodeNonnegativeInteger16 (value : UInt32) (destinationSize : Nat) : EncodeResult :=
  if value > 0x7FFF then { status := .valueOutOfRange }
  else
    encodePrimitive 5 (beOctets (if value ≤ 0x7F then 1 else 2) value.toNat) destinationSize

def encodeVisible (text : Bytes) : Nat → EncodeResult := encodePrimitive 10 text

def encodeDataSetReference (domain item : Bytes) : Nat → EncodeResult :=
  encodePrimitive 10 (domain ++ 0x2F :: item)

def encodeBitString (unusedBits : UInt8) (bytes : Bytes) (destinationSize : Nat) : EncodeResult :=
  if unusedBits > 7 then { status := .valueOutOfRange }
  else encodePrimitive 4 (unusedBits :: bytes) destinationSize

def encodeOctets (bytes : Bytes) : Nat → EncodeResult := encodePrimitive 9 bytes

def encodeBinaryTime (bytes : Bytes) (destinationSize : Nat) : EncodeResult :=
  if bytes.length ≠ binaryTimeBytes then { status := .valueOutOfRange }
  else encodePrimitive 12 bytes destinationSize

/-! ## Reading an attribute -/

/-- The reads of ResvTms and Owner let the reservation expire first. -/
def readBrcbAttribute (control : MmsStaticBrcbControl) (attr : MmsStaticBrcbAttribute)
    (nowMs : UInt64) (destinationSize : Nat) : EncodeResult × MmsStaticBrcbControl :=
  let reports := control.reports
  let definition := reports.definition
  match attr with
  | .reportId => (encodeVisible definition.reportId destinationSize, control)
  | .reportEnabled => (encodeBoolean reports.enabled destinationSize, control)
  | .dataSet =>
    (encodeDataSetReference definition.dataSetDomain definition.dataSetItem destinationSize,
      control)
  | .confRevision => (encodeUnsigned definition.confRevision destinationSize, control)
  | .optionalFields =>
    (encodeBitString 6 reports.optionalFields.toList destinationSize, control)
  | .bufferTime => (encodeUnsigned definition.bufferTimeMs destinationSize, control)
  | .sequenceNumber => (encodeUnsigned reports.sequenceNumber.toUInt32 destinationSize, control)
  | .triggerOptions => (encodeBitString 2 [reports.triggerOptions] destinationSize, control)
  | .integrityPeriod => (encodeUnsigned reports.integrityPeriodMs destinationSize, control)
  | .generalInterrogation =>
    (encodeBoolean reports.generalInterrogationPending destinationSize, control)
  | .purgeBuffer => (encodeBoolean false destinationSize, control)
  | .entryId => (encodeOctets reports.latestEntryId.toList destinationSize, control)
  | .timeOfEntry => (encodeBinaryTime reports.latestTimeOfEntry.toList destinationSize, control)
  | .reservationTime =>
    let (state, control) := control.state nowMs
    (encodeNonnegativeInteger16 state.resvTmsSeconds destinationSize, control)
  | .owner =>
    let (state, control) := control.state nowMs
    (encodeOctets state.owner destinationSize, control)

/-! ## Decoding a value -/

/-- The value of the only TLV of `encoded`, if it is a primitive one with this tag. -/
def decodePrimitive (tagNumber : Nat) (encoded : Bytes) : Option BerTlvView :=
  match BerSpanReader.tryReadExact encoded with
  | none => none
  | some tlv => if contextTag tlv tagNumber false then some tlv else none

def decodeBoolean (encoded : Bytes) : Option Bool := do
  let tlv ← decodePrimitive 3 encoded
  if tlv.value.length = 1 then some (tlv.value.headD 0 != 0) else none

def decodeBitString (expectedUnusedBits : UInt8) (expectedBytes : Nat) (encoded : Bytes) :
    Option Bytes := do
  let tlv ← decodePrimitive 4 encoded
  if tlv.value.length ≠ expectedBytes + 1 ∨ tlv.value.headD 0 ≠ expectedUnusedBits then none
  else
    let bytes := tlv.value.drop 1
    -- the unused bits are zero
    if expectedUnusedBits ≠ 0 ∧ bytes.getLastD 0 &&& (1 <<< expectedUnusedBits - 1) ≠ 0 then none
    else some bytes

def decodeUnsigned32 (encoded : Bytes) : Option UInt32 := do
  let tlv ← decodePrimitive 6 encoded
  if tlv.value.isEmpty || decide (tlv.value.length > 4) then none
  else some (UInt32.ofNat (beValue tlv.value))

def decodeNonnegativeInteger16 (encoded : Bytes) : Option UInt32 := do
  let tlv ← decodePrimitive 5 encoded
  let decoded ← BerSpanReader.readSignedInteger tlv
  if decoded < 0 ∨ decoded > 0x7FFF then none else some (UInt32.ofNat decoded.toNat)

def decodeEntryIdOctets (encoded : Bytes) : Option Bytes := do
  let tlv ← decodePrimitive 9 encoded
  if tlv.value.length = entryIdBytes then some tlv.value else none

def allZero (bytes : Bytes) : Bool := bytes.all (· == 0)

/-! ## Writing an attribute -/

def makeClient (access : MmsStaticRequestAccessContext) : Option MmsStaticBrcbClientIdentity :=
  if !access.valid || decide (access.owner.length > maximumOwnerBytes) then none
  else
    let client : MmsStaticBrcbClientIdentity :=
      { associationId := access.associationId
        owner := .ofFn fun i => access.owner.getD i 0
        ownerSize := access.owner.length }
    if client.valid then some client else none

def written : MmsStaticWriteResult := { success := true }

def failed (failureCode : UInt32) : MmsStaticWriteResult := { failureCode := failureCode }

def mapControlStatus : MmsStaticBrcbControlStatus → MmsStaticWriteResult
  | .ok => written
  | .objectAccessDenied | .invalidIdentity => failed objectAccessDenied
  | .temporarilyUnavailable => failed temporarilyUnavailable
  | .entryNotFound => failed objectValueInvalid
  | .invalidRuntime | .backendFailure => failed hardwareFault

section Write

variable (control : MmsStaticBrcbControl) (client : MmsStaticBrcbClientIdentity) (nowMs : UInt64)

/-- A free block is reserved for the client of the write. -/
def ensureClaimed : MmsStaticBrcbControlStatus × MmsStaticBrcbControl :=
  let (state, control) := control.state nowMs
  if state.reserved then (.ok, control) else control.reserve client nowMs 0

/-- Claim the block, then make the request. -/
def claimAndRequest (request : MmsStaticBrcbControl.Request) :
    MmsStaticWriteResult × MmsStaticBrcbControl :=
  let (claim, control) := ensureClaimed control client nowMs
  if claim ≠ .ok then (mapControlStatus claim, control)
  else
    let (status, control) := control.request client nowMs request
    (mapControlStatus status, control)

def writeReportEnabled (encodedData : Bytes) : MmsStaticWriteResult × MmsStaticBrcbControl :=
  match decodeBoolean encodedData with
  | none => (failed typeInconsistent, control)
  | some value =>
    let (state, control) := control.state nowMs
    if !value && !state.reserved then (written, control)
    else claimAndRequest control client nowMs (.setReportEnabled value)

def writeOptionalFields (encodedData : Bytes) : MmsStaticWriteResult × MmsStaticBrcbControl :=
  match decodeBitString 6 2 encodedData with
  | none => (failed typeInconsistent, control)
  | some bytes =>
    if bytes.getD 0 0 &&& ~~~allowedOptionalFirst ≠ 0 ∨
        bytes.getD 1 0 &&& ~~~allowedOptionalSecond ≠ 0 then
      (failed objectValueInvalid, control)
    else claimAndRequest control client nowMs (.setOptionalFields bytes)

def writeTriggerOptions (encodedData : Bytes) : MmsStaticWriteResult × MmsStaticBrcbControl :=
  match decodeBitString 2 1 encodedData with
  | none => (failed typeInconsistent, control)
  | some bytes =>
    if bytes.getD 0 0 &&& ~~~allowedTriggers ≠ 0 then (failed objectValueInvalid, control)
    else claimAndRequest control client nowMs (.setTriggerOptions (bytes.getD 0 0))

def writeIntegrityPeriod (encodedData : Bytes) : MmsStaticWriteResult × MmsStaticBrcbControl :=
  match decodeUnsigned32 encodedData with
  | none => (failed typeInconsistent, control)
  | some value => claimAndRequest control client nowMs (.setIntegrityPeriod value)

/-- `GI` and `PurgeBuf` do nothing on a written `false`. -/
def writeCommand (encodedData : Bytes) (request : MmsStaticBrcbControl.Request) :
    MmsStaticWriteResult × MmsStaticBrcbControl :=
  match decodeBoolean encodedData with
  | none => (failed typeInconsistent, control)
  | some value =>
    if !value then (written, control) else claimAndRequest control client nowMs request

def writeEntryId (encodedData : Bytes) : MmsStaticWriteResult × MmsStaticBrcbControl :=
  match decodeEntryIdOctets encodedData with
  | none => (failed typeInconsistent, control)
  | some entryId =>
    claimAndRequest control client nowMs
      (if allZero entryId then .rewindToOldest else .resumeAfter entryId)

def writeReservationTime (encodedData : Bytes) : MmsStaticWriteResult × MmsStaticBrcbControl :=
  match decodeNonnegativeInteger16 encodedData with
  | none => (failed typeInconsistent, control)
  | some seconds =>
    let (state, control) := control.state nowMs
    if seconds = 0 then
      if !state.reserved then (written, control)
      else
        let (status, control) := control.release client nowMs
        (mapControlStatus status, control)
    else
      let (status, control) := control.reserve client nowMs seconds
      (mapControlStatus status, control)

end Write

def writeBrcbAttribute (control : MmsStaticBrcbControl) (attr : MmsStaticBrcbAttribute)
    (encodedData : Bytes) (access : MmsStaticRequestAccessContext) (nowMs : UInt64) :
    MmsStaticWriteResult × MmsStaticBrcbControl :=
  match makeClient access with
  | none => (failed objectAccessDenied, control)
  | some client =>
    match attr with
    | .reportEnabled => writeReportEnabled control client nowMs encodedData
    | .optionalFields => writeOptionalFields control client nowMs encodedData
    | .triggerOptions => writeTriggerOptions control client nowMs encodedData
    | .integrityPeriod => writeIntegrityPeriod control client nowMs encodedData
    | .generalInterrogation =>
      writeCommand control client nowMs encodedData .requestGeneralInterrogation
    | .purgeBuffer => writeCommand control client nowMs encodedData .purgeBuffer
    | .entryId => writeEntryId control client nowMs encodedData
    | .reservationTime => writeReservationTime control client nowMs encodedData
    | .reportId | .dataSet | .confRevision | .bufferTime | .sequenceNumber | .timeOfEntry
    | .owner => (failed objectAccessDenied, control)

end MmsStaticBrcbObjects

end ArStack.Mms
