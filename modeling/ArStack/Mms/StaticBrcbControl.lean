import ArStack.Mms.StaticBrcbStateCodec

/-!
# The owner of a BRCB

`MmsStaticBrcbControl`: which client may configure, enable and replay a BRCB. A client
reserves the BRCB for its association; when the association closes, the reservation is kept
for `ResvTms` seconds for its owner, and every entry point first lets it expire.

* `tick`, `reserve`, `release`, `onAssociationClosed` — the reservation
* `requireControlAccess` — the gate in front of the runtime
* `Event`, `step` — the machine, with the runtime that it drives
-/

namespace ArStack.Mms

inductive MmsStaticBrcbControlStatus where
  | ok
  | invalidRuntime
  | invalidIdentity
  | objectAccessDenied
  | temporarilyUnavailable
  | entryNotFound
  | backendFailure
  deriving DecidableEq

def maximumOwnerBytes : Nat := 16

/-- The association is live once; the owner may come back under another one. -/
structure MmsStaticBrcbClientIdentity where
  associationId : UInt64 := 0
  owner : Vector UInt8 maximumOwnerBytes := .replicate maximumOwnerBytes 0
  ownerSize : Nat := 0
  deriving DecidableEq

namespace MmsStaticBrcbClientIdentity

def valid (client : MmsStaticBrcbClientIdentity) : Bool :=
  client.associationId != 0 && decide (client.ownerSize > 0) &&
    decide (client.ownerSize ≤ maximumOwnerBytes)

def ownerView (client : MmsStaticBrcbClientIdentity) : Bytes :=
  client.owner.toList.take (if client.ownerSize ≤ maximumOwnerBytes then client.ownerSize else 0)

end MmsStaticBrcbClientIdentity

structure MmsStaticBrcbControlStateView where
  reserved : Bool := false
  ownerConnected : Bool := false
  reportEnabled : Bool := false
  resvTmsSeconds : UInt32 := 0
  associationId : UInt64 := 0
  reservationExpiresAtMs : UInt64 := 0
  owner : Bytes := []
  deriving DecidableEq

/-- The control and the runtime it drives. -/
structure MmsStaticBrcbControl where
  reports : MmsStaticBrcbRuntime
  owner : Vector UInt8 maximumOwnerBytes := .replicate maximumOwnerBytes 0
  ownerSize : Nat := 0
  associationId : UInt64 := 0
  reservationExpiresAtMs : UInt64 := 0
  resvTmsSeconds : UInt32 := 0
  reserved : Bool := false
  ownerConnected : Bool := false
  deriving DecidableEq

namespace MmsStaticBrcbControl

/-- The end of a reservation, saturating. -/
def reservationDeadline (nowMs : UInt64) (seconds : UInt32) : UInt64 :=
  let seconds64 := seconds.toUInt64
  if seconds64 > uint64Max / 1000 then uint64Max
  else
    let duration := seconds64 * 1000
    if duration > uint64Max - nowMs then uint64Max else nowMs + duration

def mapRuntimeStatus : MmsStaticBrcbStatus → MmsStaticBrcbControlStatus
  | .ok => .ok
  | .entryNotFound => .entryNotFound
  | .temporarilyUnavailable | .noReportDue | .stalePlan => .temporarilyUnavailable
  | .invalidRuntime | .invalidDefinition | .memberOutOfRange | .triggerNotSelected
  | .dataSetNotFound | .objectNotFound | .workspaceTooSmall | .responseBufferTooSmall
  | .slotTooSmall | .backendFailure | .reportEncodeFailed => .backendFailure

variable (control : MmsStaticBrcbControl) (client : MmsStaticBrcbClientIdentity) (nowMs : UInt64)

def valid : Bool := control.reports.initialized

def ownerView : Bytes := control.owner.toList.take control.ownerSize

def sameOwner : Bool :=
  client.valid && control.reserved && client.ownerSize == control.ownerSize &&
    client.owner.toList.take client.ownerSize == control.owner.toList.take client.ownerSize

def ownsLiveAssociation : Bool :=
  control.sameOwner client && control.ownerConnected &&
    client.associationId == control.associationId

def clearReservation : MmsStaticBrcbControl := { reports := control.reports }

/-- `set_enabled(false)` on a valid runtime that is enabled. -/
def disableReports : MmsStaticBrcbControl :=
  if control.valid && control.reports.enabled then
    { control with reports := (control.reports.setEnabled false).2 }
  else control

/-- Expire the reservation of a client that is gone. -/
def tick : MmsStaticBrcbControl :=
  if !control.reserved || control.ownerConnected || control.resvTmsSeconds == 0 then control
  else if nowMs < control.reservationExpiresAtMs then control
  else control.disableReports.clearReservation

/-- `copy_n` into the owner; what lies behind it is kept. -/
def copyOwner : Vector UInt8 maximumOwnerBytes :=
  .ofFn fun i => if i < client.ownerSize then client.owner[i] else control.owner[i]

def reserve (resvTmsSeconds : UInt32) : MmsStaticBrcbControlStatus × MmsStaticBrcbControl :=
  if !control.valid then (.invalidRuntime, control)
  else if !client.valid then (.invalidIdentity, control)
  else
    let control := control.tick nowMs
    if !control.reserved then
      (.ok,
        { control with
          owner := control.copyOwner client
          ownerSize := client.ownerSize
          associationId := client.associationId
          resvTmsSeconds := resvTmsSeconds
          reservationExpiresAtMs := 0
          reserved := true
          ownerConnected := true })
    else if !control.sameOwner client then (.objectAccessDenied, control)
    else if control.ownerConnected ∧ control.associationId ≠ client.associationId then
      (.objectAccessDenied, control)
    else
      (.ok,
        { control with
          associationId := client.associationId
          ownerConnected := true
          resvTmsSeconds := resvTmsSeconds
          reservationExpiresAtMs := 0 })

def requireControlAccess : MmsStaticBrcbControlStatus × MmsStaticBrcbControl :=
  if !control.valid then (.invalidRuntime, control)
  else if !client.valid then (.invalidIdentity, control)
  else
    let control := control.tick nowMs
    (if control.ownsLiveAssociation client then .ok else .objectAccessDenied, control)

def release : MmsStaticBrcbControlStatus × MmsStaticBrcbControl :=
  let (access, control) := control.requireControlAccess client nowMs
  if access ≠ .ok then (access, control)
  else if control.reports.enabled then (.temporarilyUnavailable, control)
  else (.ok, control.clearReservation)

/-- A call on the runtime behind the gate. -/
def forward (call : MmsStaticBrcbRuntime → MmsStaticBrcbStatus × MmsStaticBrcbRuntime) :
    MmsStaticBrcbControlStatus × MmsStaticBrcbControl :=
  let (status, reports) := call control.reports
  (mapRuntimeStatus status, { control with reports := reports })

/-- A call on the runtime that needs control access and reports that are enabled or not. -/
def guarded (enabled : Bool)
    (call : MmsStaticBrcbRuntime → MmsStaticBrcbStatus × MmsStaticBrcbRuntime) :
    MmsStaticBrcbControlStatus × MmsStaticBrcbControl :=
  let (access, control) := control.requireControlAccess client nowMs
  if access ≠ .ok then (access, control)
  else if control.reports.enabled ≠ enabled then (.temporarilyUnavailable, control)
  else control.forward call

def setReportEnabled (enabled : Bool) : MmsStaticBrcbControlStatus × MmsStaticBrcbControl :=
  let (access, control) := control.requireControlAccess client nowMs
  if access ≠ .ok then (access, control) else control.forward (·.setEnabled enabled)

def setOptionalFields (optionalFields : Bytes) :
    MmsStaticBrcbControlStatus × MmsStaticBrcbControl :=
  control.guarded client nowMs false (·.setOptionalFields optionalFields)

def setTriggerOptions (triggerOptions : UInt8) :
    MmsStaticBrcbControlStatus × MmsStaticBrcbControl :=
  control.guarded client nowMs false (·.setTriggerOptions triggerOptions)

def setIntegrityPeriod (integrityPeriodMs : UInt32) :
    MmsStaticBrcbControlStatus × MmsStaticBrcbControl :=
  control.guarded client nowMs false (·.setIntegrityPeriod integrityPeriodMs)

def requestGeneralInterrogation : MmsStaticBrcbControlStatus × MmsStaticBrcbControl :=
  control.guarded client nowMs true (·.requestGeneralInterrogation)

def replayFrom (entryId : Bytes) : MmsStaticBrcbControlStatus × MmsStaticBrcbControl :=
  control.guarded client nowMs false (·.replayFrom entryId)

def resumeAfter (entryId : Bytes) : MmsStaticBrcbControlStatus × MmsStaticBrcbControl :=
  control.guarded client nowMs false (·.resumeAfter entryId)

def rewindToOldest : MmsStaticBrcbControlStatus × MmsStaticBrcbControl :=
  control.guarded client nowMs false (·.rewindToOldest)

def purgeBuffer : MmsStaticBrcbControlStatus × MmsStaticBrcbControl :=
  control.guarded client nowMs false (·.purgeBuffer)

def onAssociationClosed (associationId : UInt64) : MmsStaticBrcbControl :=
  let control := control.tick nowMs
  if !control.reserved || !control.ownerConnected || associationId == 0 ||
      associationId != control.associationId then control
  else
    let control := control.disableReports
    if control.resvTmsSeconds = 0 then control.clearReservation
    else
      { control with
        associationId := 0
        ownerConnected := false
        reservationExpiresAtMs := reservationDeadline nowMs control.resvTmsSeconds }

def state : MmsStaticBrcbControlStateView × MmsStaticBrcbControl :=
  let control := control.tick nowMs
  ({ reserved := control.reserved
     ownerConnected := control.ownerConnected
     reportEnabled := control.valid && control.reports.enabled
     resvTmsSeconds := control.resvTmsSeconds
     associationId := control.associationId
     reservationExpiresAtMs := control.reservationExpiresAtMs
     owner := control.ownerView }, control)

/-! ## The machine -/

/-- The calls of a client that need control access. -/
inductive Request where
  | release
  | setReportEnabled (enabled : Bool)
  | setOptionalFields (optionalFields : Bytes)
  | setTriggerOptions (triggerOptions : UInt8)
  | setIntegrityPeriod (integrityPeriodMs : UInt32)
  | requestGeneralInterrogation
  | replayFrom (entryId : Bytes)
  | resumeAfter (entryId : Bytes)
  | rewindToOldest
  | purgeBuffer

def request : Request → MmsStaticBrcbControlStatus × MmsStaticBrcbControl
  | .release => control.release client nowMs
  | .setReportEnabled enabled => control.setReportEnabled client nowMs enabled
  | .setOptionalFields optionalFields => control.setOptionalFields client nowMs optionalFields
  | .setTriggerOptions triggerOptions => control.setTriggerOptions client nowMs triggerOptions
  | .setIntegrityPeriod integrityPeriodMs =>
    control.setIntegrityPeriod client nowMs integrityPeriodMs
  | .requestGeneralInterrogation => control.requestGeneralInterrogation client nowMs
  | .replayFrom entryId => control.replayFrom client nowMs entryId
  | .resumeAfter entryId => control.resumeAfter client nowMs entryId
  | .rewindToOldest => control.rewindToOldest client nowMs
  | .purgeBuffer => control.purgeBuffer client nowMs

/-- A call on the control, or something the device does with the runtime meanwhile. -/
inductive Event where
  | reserve (client : MmsStaticBrcbClientIdentity) (resvTmsSeconds : UInt32) (nowMs : UInt64)
  | request (client : MmsStaticBrcbClientIdentity) (nowMs : UInt64) (request : Request)
  | associationClosed (associationId : UInt64) (nowMs : UInt64)
  | tick (nowMs : UInt64)
  | state (nowMs : UInt64)
  | runtime (operation : MmsStaticBrcbRuntime.Operation)
  | restore (image : Bytes)

def step : MmsStaticBrcbControl → Event → MmsStaticBrcbControl
  | control, .reserve client resvTmsSeconds nowMs =>
    (control.reserve client nowMs resvTmsSeconds).2
  | control, .request client nowMs request => (control.request client nowMs request).2
  | control, .associationClosed associationId nowMs =>
    control.onAssociationClosed nowMs associationId
  | control, .tick nowMs => control.tick nowMs
  | control, .state nowMs => (control.state nowMs).2
  | control, .runtime operation => { control with reports := control.reports.step operation }
  | control, .restore image =>
    { control with reports := (MmsStaticBrcbStateCodec.restore control.reports image).2 }

end MmsStaticBrcbControl

end ArStack.Mms
