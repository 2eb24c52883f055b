import ArStack.Lib.Run
import ArStack.Lib.Throws
import ArStack.Mms.Services

/-!
# The report subscription runtime

`MmsReportSubscriptionRuntime` reserves, configures and enables a report control block of a
server by writing its attributes, and remembers in three flags what it has to undo. The server
and the association are the environment: every exchange is answered, and whether a write was
applied does not depend on whether its response arrives or decodes.

* `Server` — what the server does with a probe and with a write
* `start`, `stop`, `retryCleanup`, `pollOnce` — the operations, stage by stage
* `SubscriptionSession.step` — the operations and the loss of the association as one machine
-/

namespace ArStack.Mms

open ArStack.Lib

inductive MmsReportSubscriptionState where
  | idle
  | probing
  | reserving
  | configuring
  | enabling
  | active
  | stopping
  | stopped
  | cleanupRequired
  | faulted
  deriving DecidableEq

inductive MmsReportSubscriptionEventKind where
  | stateChanged
  | probeCompleted
  | reservationAcquired
  | attributeWritten
  | enabled
  | generalInterrogationSent
  | generalInterrogationNotSent
  | reportReceived
  | reportRejected
  | reportDecodeFailed
  | disabled
  | reservationReleased
  | cleanupDeferred
  | faulted
  deriving DecidableEq

structure MmsReportSubscriptionEvent where
  kind : MmsReportSubscriptionEventKind := .stateChanged
  state : MmsReportSubscriptionState := .idle
  message : String := ""
  deriving DecidableEq

inductive MmsRcbAvailability where
  | unknown
  | available
  | inUse
  | usedByCaller
  | noDataSet
  | dataSetUnreadable
  | dataSetEmpty
  deriving DecidableEq

/-- What the runtime reads of a probe. Bit fields have the count of unused bits in front. -/
structure MmsReportControlState where
  dataSetReference : Bytes := []
  reportId : Bytes := []
  reportEnabled : Option Bool := none
  reserved : Option Bool := none
  triggerOptions : Bytes := []
  optionalFields : Bytes := []
  availability : MmsRcbAvailability := .unknown
  availabilityReason : String := ""
  deriving DecidableEq

/-- The selected control block: whether it is buffered, and the attributes it exposes. -/
structure MmsReportControlCandidate where
  buffered : Bool := false
  attributes : List String := []
  deriving DecidableEq

structure MmsReportSubscriptionOptions where
  triggerGeneralInterrogation : Bool := true
  reserveUnbufferedRcb : Bool := true
  writeDataSetReference : Bool := false
  writeTriggerOptions : Bool := false
  writeOptionalFields : Bool := false
  allowReenableCallerOwned : Bool := false
  triggerOptions : Bytes := []
  optionalFields : Bytes := []
  dataSetReference : Bytes := []
  expectedDataSetReference : Bytes := []
  maximumEvents : Nat := 1024
  deriving DecidableEq

structure MmsReportSubscriptionRuntime where
  candidate : MmsReportControlCandidate := {}
  options : MmsReportSubscriptionOptions := {}
  state : MmsReportSubscriptionState := .idle
  events : List MmsReportSubscriptionEvent := []
  lastRcbState : Option MmsReportControlState := none
  enabledByRuntime : Bool := false
  reservationTouched : Bool := false
  restoreEnabledRequired : Bool := false
  cleanupRequired : Bool := false
  receivedReports : Nat := 0
  rejectedReports : Nat := 0
  decodeFailures : Nat := 0
  deriving DecidableEq

/-- The values the runtime writes. -/
inductive MmsRcbValue where
  | boolean (value : Bool)
  | visibleString (value : Bytes)
  | bitString (unusedBits : Nat) (data : Bytes)
  deriving DecidableEq

/-! ## The server -/

structure MmsWriteResult where
  success : Bool := false
  failureCode : Option Nat := none
  deriving DecidableEq

/-- How an exchange ends. An exchange that fails closes the association. -/
inductive ExchangeReply (α : Type) where
  | exchangeFailed (message : String)
  | undecodable (message : String)
  | confirmedError
  | response (value : α)
  deriving DecidableEq

/-- The server has applied the write or not, whatever becomes of its response. -/
structure WriteAnswer where
  applied : Bool := true
  reply : ExchangeReply (List MmsWriteResult) := .response [⟨true, none⟩]
  deriving DecidableEq

/-- The write is answered by a success that arrives and decodes. -/
def WriteAnswer.confirmed (answer : WriteAnswer) : Bool :=
  match answer.reply with
  | .response [result] => result.success
  | _ => false

def WriteAnswer.lost (answer : WriteAnswer) : Bool :=
  match answer.reply with
  | .exchangeFailed _ => true
  | _ => false

/-- The answers of a server, by the number of the exchange. -/
structure Server where
  probe : Nat → List String → ExchangeReply MmsReportControlState
  write : Nat → String → MmsRcbValue → WriteAnswer

/-- The association, and what the server has of the runtime's writes: `enabled` and `reserved`
tell whether the control block is enabled and reserved by them. -/
structure Peer where
  associated : Bool := true
  exchanges : Nat := 0
  /-- What the first probe of the running operation reported of RptEna. -/
  reportedEnabled : Option Bool := none
  enabled : Bool := false
  reserved : Bool := false
  deriving DecidableEq

/-- The effect of an answered write. A control block that the probe found enabled is the
caller's, and enabling it again restores the caller's state. A release counts when it is applied
or confirmed. -/
def Peer.write (peer : Peer) (name : String) (value : MmsRcbValue) (answer : WriteAnswer) :
    Peer :=
  let peer :=
    { peer with
      exchanges := peer.exchanges + 1
      associated := peer.associated && !answer.lost }
  if name = "RptEna" then
    if value = .boolean true then
      { peer with
        enabled := peer.enabled || answer.applied && peer.reportedEnabled == some false }
    else { peer with enabled := peer.enabled && !(answer.applied || answer.confirmed) }
  else if name = "Resv" then
    if value = .boolean true then { peer with reserved := peer.reserved || answer.applied }
    else { peer with reserved := peer.reserved && !(answer.applied || answer.confirmed) }
  else peer

def Peer.probed (peer : Peer) (reply : ExchangeReply MmsReportControlState) : Peer :=
  let peer := { peer with exchanges := peer.exchanges + 1 }
  match reply with
  | .exchangeFailed _ => { peer with associated := false }
  | .undecodable _ | .confirmedError => peer
  | .response state =>
    { peer with
      reportedEnabled := peer.reportedEnabled.or (some (state.reportEnabled.getD false)) }

structure SubscriptionSession where
  runtime : MmsReportSubscriptionRuntime := {}
  peer : Peer := {}
  deriving DecidableEq

/-- A member function that may throw an error with this text. -/
abbrev SubscriptionM := EStateM String SubscriptionSession

/-! ## Helpers -/

def triggerOptionsUnusedBits : Nat := 2
def optionalFieldsUnusedBits : Nat := 6
def triggerOptionsBytes : Nat := 1

def containsAttribute (candidate : MmsReportControlCandidate) (name : String) : Bool :=
  candidate.attributes.contains name

def bitFieldMatches (live desired : Bytes) (unusedBits : Nat) : Bool :=
  decide (live.length = desired.length + 1) && (live.headD 0).toNat == unusedBits &&
    live.drop 1 == desired

namespace MmsDataSetDirectoryCodec

/-- The first dot of an item becomes a dollar sign. -/
def dollarFirstDot : Bytes → Bytes
  | [] => []
  | octet :: rest => if octet = 0x2E then 0x24 :: rest else octet :: dollarFirstDot rest

def parseDataSetReference (reference : Bytes) : MmsObjectName :=
  match reference.span (· != 0x2F) with
  | (_, []) => { kind := .vmdSpecific, item := reference }
  | (domain, _ :: item) => { kind := .domainSpecific, domain, item := dollarFirstDot item }

def toReportAttributeValue (reference : Bytes) : Bytes :=
  if reference = [] then [] else (parseDataSetReference reference).reference

end MmsDataSetDirectoryCodec

namespace MmsReportSubscriptionRuntime

variable (rt : MmsReportSubscriptionRuntime)

def active : Bool := rt.state == .active

def addEvent (kind : MmsReportSubscriptionEventKind) (message : String) :
    MmsReportSubscriptionRuntime :=
  let events := if rt.events.length ≥ rt.options.maximumEvents then rt.events.drop 1 else rt.events
  { rt with events := events ++ [{ kind, state := rt.state, message }] }

def setState (state : MmsReportSubscriptionState) (message : String) :
    MmsReportSubscriptionRuntime :=
  { rt with state }.addEvent .stateChanged message

def fail (message : String) : MmsReportSubscriptionRuntime :=
  { rt with state := .faulted }.addEvent .faulted message

/-- Something is left to undo. -/
def obliged : Bool := rt.enabledByRuntime || rt.reservationTouched || rt.restoreEnabledRequired

/-- The attributes of a probe; GI is a command and not read. -/
def preferredAttributes : List String :=
  ["RptID", "RptEna", "DatSet", "ConfRev", "OptFlds", "BufTm", "SqNum", "TrgOps", "IntgPd",
    "Resv", "ResvTms", "Owner", "EntryID", "TimeOfEntry"]

def probeAttributes : Except String (List String) :=
  match preferredAttributes.filter (containsAttribute rt.candidate) with
  | [] => .error "RCB candidate has no readable attributes for a live-state probe."
  | attributes => .ok attributes

end MmsReportSubscriptionRuntime

open MmsReportSubscriptionRuntime MmsDataSetDirectoryCodec

/-! ## Exchanges -/

namespace Subscription

def modifyRuntime (f : MmsReportSubscriptionRuntime → MmsReportSubscriptionRuntime) :
    SubscriptionM Unit :=
  modify fun s => { s with runtime := f s.runtime }

def setState (state : MmsReportSubscriptionState) (message : String) : SubscriptionM Unit :=
  modifyRuntime (·.setState state message)

def addEvent (kind : MmsReportSubscriptionEventKind) (message : String) : SubscriptionM Unit :=
  modifyRuntime (·.addEvent kind message)

def throwText {α : Type} : Except String α → SubscriptionM α
  | .ok a => pure a
  | .error message => throw message

def notActive : String := "MMS association is not active."

def probe (server : Server) : SubscriptionM MmsReportControlState := fun s =>
  match s.runtime.probeAttributes with
  | .error message => .error message s
  | .ok attributes =>
    if !s.peer.associated then .error notActive s
    else
      let reply := server.probe s.peer.exchanges attributes
      let s := { s with peer := s.peer.probed reply }
      match reply with
      | .exchangeFailed message | .undecodable message => .error message s
      | .confirmedError => .error "RCB live-state probe returned a confirmed MMS error." s
      | .response mapped =>
        .ok mapped
          { s with
            runtime := { s.runtime with lastRcbState := some mapped }.addEvent .probeCompleted
              ("RCB live-state probe completed: " ++ mapped.availabilityReason) }

/-- What the runtime makes of the response to a write. -/
def writeOutcome (name : String) :
    ExchangeReply (List MmsWriteResult) → Except String Unit
  | .exchangeFailed message | .undecodable message => .error message
  | .confirmedError =>
    .error ("RCB attribute write returned a confirmed MMS error: " ++ name ++ ".")
  | .response [result] =>
    if result.success then .ok ()
    else
      .error ("RCB attribute write failed: " ++ name ++
        (match result.failureCode with
          | some failure => " (DataAccessError=" ++ toString failure ++ ")."
          | none => "."))
  | .response _ => .error ("RCB attribute write failed: " ++ name ++ ".")

def writeAttribute (server : Server) (name : String) (value : MmsRcbValue) :
    SubscriptionM Unit := fun s =>
  if !containsAttribute s.runtime.candidate name then
    .error ("RCB does not expose writable attribute " ++ name ++ ".") s
  else if !s.peer.associated then .error notActive s
  else
    let answer := server.write s.peer.exchanges name value
    let s := { s with peer := s.peer.write name value answer }
    match writeOutcome name answer.reply with
    | .error message => .error message s
    | .ok () =>
      .ok ()
        { s with
          runtime := s.runtime.addEvent .attributeWritten
            ("RCB attribute written: " ++ name ++ ".") }

/-- `try_write_attribute_noexcept` -/
def tryWriteAttribute (server : Server) (name : String) (value : MmsRcbValue) :
    SubscriptionM Bool := fun s =>
  match writeAttribute server name value s with
  | .ok () s => .ok true s
  | .error message s =>
    .ok false
      { s with
        runtime := s.runtime.addEvent .cleanupDeferred
          ("RCB cleanup write failed for " ++ name ++ ": " ++ message) }

/-! ## Start -/

structure ConfigurationDelta where
  dataSetChanged : Bool := false
  triggerOptionsChanged : Bool := false
  optionalFieldsChanged : Bool := false
  desiredDataSet : Bytes := []
  deriving DecidableEq

def ConfigurationDelta.changed (delta : ConfigurationDelta) : Bool :=
  delta.dataSetChanged || delta.triggerOptionsChanged || delta.optionalFieldsChanged

/-- What refuses a control block in the state that the probe reports. -/
def checkCurrent (options : MmsReportSubscriptionOptions) (current : MmsReportControlState) :
    Except String Unit :=
  let wasEnabled := current.reportEnabled.getD false
  let callerOwnedEnabled := wasEnabled && options.allowReenableCallerOwned
  if options.expectedDataSetReference ≠ [] ∧
      parseDataSetReference options.expectedDataSetReference ≠
        parseDataSetReference current.dataSetReference then
    .error "RCB DataSet changed after discovery; refusing stale directory."
  else if wasEnabled && !callerOwnedEnabled then
    .error
      "RCB is already enabled; explicit caller-owned re-enable permission is required."
  else if current.availability = .inUse ∧ !callerOwnedEnabled then
    .error "RCB is reserved or enabled by another session."
  else .ok ()

def configurationDelta (options : MmsReportSubscriptionOptions) (current : MmsReportControlState) :
    Except String ConfigurationDelta :=
  if options.writeDataSetReference ∧ options.dataSetReference = [] then
    .error "DataSet write was requested without a DataSet reference."
  else
    let desiredDataSet :=
      if options.writeDataSetReference then toReportAttributeValue options.dataSetReference else []
    .ok
      { dataSetChanged :=
          options.writeDataSetReference && current.dataSetReference != desiredDataSet
        triggerOptionsChanged := options.writeTriggerOptions &&
          !bitFieldMatches current.triggerOptions options.triggerOptions triggerOptionsUnusedBits
        optionalFieldsChanged := options.writeOptionalFields &&
          !bitFieldMatches current.optionalFields options.optionalFields optionalFieldsUnusedBits
        desiredDataSet }

/-- Write an attribute if it is to be changed. -/
def writeIf (server : Server) (changed : Bool) (name : String) (value : MmsRcbValue) :
    SubscriptionM Unit :=
  if changed then writeAttribute server name value else pure ()

def disableCallerOwned (server : Server) (wasEnabled : Bool) (delta : ConfigurationDelta) :
    SubscriptionM Unit :=
  if wasEnabled && delta.changed then do
    setState .configuring "Disabling caller-owned RCB before configuration delta write."
    writeAttribute server "RptEna" (.boolean false)
    modifyRuntime fun rt =>
      { rt with restoreEnabledRequired := true }.addEvent .disabled
        "Caller-owned RCB disabled for verified reconfiguration."
  else pure ()

def reserve (server : Server) (wasEnabled : Bool) : SubscriptionM Unit := do
  let s ← get
  if !wasEnabled && !s.runtime.candidate.buffered && s.runtime.options.reserveUnbufferedRcb &&
      containsAttribute s.runtime.candidate "Resv" then
    setState .reserving "Reserving unbuffered RCB."
    writeAttribute server "Resv" (.boolean true)
    modifyRuntime fun rt =>
      { rt with reservationTouched := true }.addEvent .reservationAcquired
        "URCB reservation acquired."
  else pure ()

def applyDelta (server : Server) (delta : ConfigurationDelta) : SubscriptionM Unit := do
  setState .configuring
    (if delta.changed then "Applying only changed RCB configuration attributes."
      else "Live RCB configuration already matches requested values; " ++
        "no configuration write required.")
  let s ← get
  writeIf server delta.dataSetChanged "DatSet" (.visibleString delta.desiredDataSet)
  writeIf server delta.triggerOptionsChanged "TrgOps"
    (.bitString triggerOptionsUnusedBits s.runtime.options.triggerOptions)
  writeIf server delta.optionalFieldsChanged "OptFlds"
    (.bitString optionalFieldsUnusedBits s.runtime.options.optionalFields)

/-- The read-back of the configuration and the reservation. -/
def checkVerified (rt : MmsReportSubscriptionRuntime) (delta : ConfigurationDelta)
    (verified : MmsReportControlState) : Except String Unit :=
  if delta.dataSetChanged ∧ verified.dataSetReference ≠ delta.desiredDataSet then
    .error "RCB DataSet read-back verification failed."
  else if delta.triggerOptionsChanged ∧ !bitFieldMatches verified.triggerOptions
      rt.options.triggerOptions triggerOptionsUnusedBits then
    .error "RCB TrgOps read-back verification failed."
  else if delta.optionalFieldsChanged ∧ !bitFieldMatches verified.optionalFields
      rt.options.optionalFields optionalFieldsUnusedBits then
    .error "RCB OptFlds read-back verification failed."
  else if rt.reservationTouched ∧ containsAttribute rt.candidate "Resv" ∧
      !verified.reserved.getD false then
    .error "URCB reservation read-back verification failed."
  else .ok ()

def verifyConfiguration (server : Server) (delta : ConfigurationDelta) : SubscriptionM Unit := do
  let s ← get
  if delta.changed || s.runtime.reservationTouched then
    setState .probing "Verifying RCB state after configuration/reservation writes."
    let verified ← probe server
    throwText (checkVerified s.runtime delta verified)
  else pure ()

/-- The flag that the enable write leaves. -/
def markEnabled (wasEnabled : Bool) (rt : MmsReportSubscriptionRuntime) :
    MmsReportSubscriptionRuntime :=
  if wasEnabled then { rt with restoreEnabledRequired := true }
  else { rt with enabledByRuntime := true }

/-- The caller's control block is enabled again, nothing is left to restore. -/
def settleEnabled (wasEnabled : Bool) (rt : MmsReportSubscriptionRuntime) :
    MmsReportSubscriptionRuntime :=
  if wasEnabled then
    { rt with restoreEnabledRequired := false }.addEvent .enabled
      "Caller-owned RCB re-enabled after verified reconfiguration."
  else rt.addEvent .enabled "RCB enabled by this runtime after verified configuration."

def enable (server : Server) (wasEnabled : Bool) (delta : ConfigurationDelta) :
    SubscriptionM Unit :=
  if !wasEnabled || delta.changed then do
    setState .enabling "Enabling RCB only after configuration read-back verification."
    writeAttribute server "RptEna" (.boolean true)
    modifyRuntime (markEnabled wasEnabled)
    setState .probing "Verifying RptEna after enable write."
    let enabledState ← probe server
    if !enabledState.reportEnabled.getD false then
      throw "RCB enable read-back verification failed."
    else modifyRuntime (settleEnabled wasEnabled)
  else
    addEvent .enabled "Caller-owned RCB was already enabled; redundant RptEna write skipped."

/-- A GI that fails does not fail the subscription. -/
def writeGeneralInterrogation (server : Server) : SubscriptionM Unit := fun s =>
  match writeAttribute server "GI" (.boolean true) s with
  | .ok () s =>
    .ok ()
      { s with
        runtime := s.runtime.addEvent .generalInterrogationSent
          "GI Write confirmed after verified RCB enable; awaiting report evidence." }
  | .error message s =>
    .ok ()
      { s with
        runtime := s.runtime.addEvent .generalInterrogationNotSent
          ("GI Write failed; RCB remains enabled, GI report not guaranteed: " ++ message) }

def triggerGeneralInterrogation (server : Server) : SubscriptionM Unit := do
  let s ← get
  if !s.runtime.options.triggerGeneralInterrogation then pure ()
  else if !containsAttribute s.runtime.candidate "GI" then
    addEvent .generalInterrogationNotSent
      "GI not sent: selected RCB has no exposed GI write attribute."
  else writeGeneralInterrogation server

/-- The `try` of `start`. -/
def startBody (server : Server) : SubscriptionM Unit := do
  setState .probing "Probing RCB state before any write."
  let current ← probe server
  let s ← get
  throwText (checkCurrent s.runtime.options current)
  let delta ← throwText (configurationDelta s.runtime.options current)
  let wasEnabled := current.reportEnabled.getD false
  disableCallerOwned server wasEnabled delta
  reserve server wasEnabled
  applyDelta server delta
  verifyConfiguration server delta
  enable server wasEnabled delta
  triggerGeneralInterrogation server
  setState .active "Persistent report subscription is active."

/-- After a failure: enable the caller's control block again, or disable what was enabled. -/
def rollbackEnable (server : Server) : SubscriptionM Unit := do
  let s ← get
  if s.runtime.restoreEnabledRequired then
    let restored ← tryWriteAttribute server "RptEna" (.boolean true)
    modifyRuntime fun rt =>
      if restored then
        { rt with restoreEnabledRequired := false }.addEvent .enabled
          "Caller-owned RCB enable state restored after failed reconfiguration."
      else rt
  else if s.runtime.enabledByRuntime then
    let disabled ← tryWriteAttribute server "RptEna" (.boolean false)
    modifyRuntime fun rt => { rt with enabledByRuntime := !disabled }
  else pure ()

def rollbackReservation (server : Server) : SubscriptionM Unit := do
  let s ← get
  if s.runtime.reservationTouched then
    let released ← tryWriteAttribute server "Resv" (.boolean false)
    modifyRuntime fun rt => { rt with reservationTouched := !released }
  else pure ()

def rollback (server : Server) : SubscriptionM Unit := do
  let s ← get
  if s.peer.associated then
    rollbackEnable server
    rollbackReservation server
  else pure ()

/-- What `start` forgets before it begins. -/
def resetForStart (rt : MmsReportSubscriptionRuntime) : MmsReportSubscriptionRuntime :=
  { rt with
    enabledByRuntime := false
    reservationTouched := false
    restoreEnabledRequired := false
    cleanupRequired := false
    receivedReports := 0
    rejectedReports := 0
    decodeFailures := 0 }

/-- The handler of `start`, which throws again. -/
def startFailed (server : Server) (message : String) : SubscriptionM Unit := do
  rollback server
  modifyRuntime fun rt => { rt with cleanupRequired := rt.obliged }.fail message
  throw message

def start (server : Server) : SubscriptionM Unit := fun s =>
  if !s.peer.associated then
    .error "Cannot start report subscription without an active MMS association." s
  else if s.runtime.active then .error "Report subscription is already active." s
  else
    match startBody server { s with runtime := resetForStart s.runtime } with
    | .ok () s => .ok () s
    | .error message s => startFailed server message s

/-! ## Stop -/

/-- Undo one thing that is left to undo: whether nothing of it is left. -/
def undo (server : Server) (needed : MmsReportSubscriptionRuntime → Bool) (name : String)
    (value : Bool) (done : MmsReportSubscriptionRuntime → MmsReportSubscriptionRuntime) :
    SubscriptionM Bool := do
  let s ← get
  if needed s.runtime then
    let written ← tryWriteAttribute server name (.boolean value)
    modifyRuntime fun rt => if written then done rt else rt
    pure written
  else pure true

def undoRestore (server : Server) : SubscriptionM Bool :=
  undo server (·.restoreEnabledRequired) "RptEna" true fun rt =>
    { rt with restoreEnabledRequired := false }.addEvent .enabled
      "Caller-owned RCB enable state restored."

def undoEnable (server : Server) : SubscriptionM Bool :=
  undo server (·.enabledByRuntime) "RptEna" false fun rt =>
    { rt with enabledByRuntime := false }.addEvent .disabled "RCB disabled by this runtime."

def undoReservation (server : Server) : SubscriptionM Bool :=
  undo server (·.reservationTouched) "Resv" false fun rt =>
    { rt with reservationTouched := false }.addEvent .reservationReleased
      "URCB reservation released."

/-- The end of a stop: what is left to undo, and the state that says so. -/
def conclude (cleanupOk : Bool) (deferred stopped : String) (rt : MmsReportSubscriptionRuntime) :
    MmsReportSubscriptionRuntime :=
  let rt := { rt with cleanupRequired := !cleanupOk || rt.obliged }
  if rt.cleanupRequired then
    { rt with state := .cleanupRequired }.addEvent .cleanupDeferred deferred
  else rt.setState .stopped stopped

def stopAssociated (server : Server) : SubscriptionM Unit := do
  let restored ← undoRestore server
  let disabled ← undoEnable server
  let released ← undoReservation server
  modifyRuntime (conclude (restored && disabled && released)
    "One or more RCB cleanup writes remain pending."
    "Report subscription stopped and RCB cleanup completed.")

def stop (server : Server) : SubscriptionM Unit := do
  let s ← get
  if s.runtime.state = .idle ∨ s.runtime.state = .stopped then pure ()
  else
    setState .stopping "Stopping persistent report subscription."
    if !s.peer.associated then
      modifyRuntime (conclude true
        "Association is unavailable; RCB cleanup must be retried after reconnect."
        "Report subscription stopped without pending cleanup.")
    else stopAssociated server

def retryCleanup (server : Server) : SubscriptionM Bool := do
  let s ← get
  if !s.runtime.cleanupRequired then pure true
  else if !s.peer.associated then pure false
  else
    stop server
    let s ← get
    pure (!s.runtime.cleanupRequired)

/-! ## Reports -/

/-- What becomes of a queued report. -/
inductive Ingested where
  | decodeFailed (message : String)
  | unverifiedId
  | withheld (reason : String)
  | mapped (routingKey : String)
  deriving DecidableEq

def ingestReport (rt : MmsReportSubscriptionRuntime) : Ingested → MmsReportSubscriptionRuntime
  | .decodeFailed message =>
    { rt with decodeFailures := rt.decodeFailures + 1 }.addEvent .reportDecodeFailed
      ("InformationReport decode failed: " ++ message)
  | .unverifiedId =>
    { rt with rejectedReports := rt.rejectedReports + 1 }.addEvent .reportRejected
      "InformationReport RptID not verified for selected RCB."
  | .withheld reason =>
    { rt with rejectedReports := rt.rejectedReports + 1 }.addEvent .reportRejected
      ("InformationReport values withheld: " ++ reason)
  | .mapped routingKey =>
    { rt with receivedReports := rt.receivedReports + 1 }.addEvent .reportReceived
      ("InformationReport mapped to " ++ routingKey ++ ".")

def drainQueuedReports (reports : List Ingested) : SubscriptionM Nat := do
  modifyRuntime fun rt => reports.foldl ingestReport rt
  pure reports.length

/-- The association receives one payload, an InformationReport or not, or fails. -/
def pollOnce (polled : Except String Bool) (reports : List Ingested) : SubscriptionM Bool :=
  fun s =>
    if !s.runtime.active then .error "Report polling requires an active subscription." s
    else if !s.peer.associated then .error notActive s
    else
      match polled with
      | .error message => .error message { s with peer := { s.peer with associated := false } }
      | .ok informationReport =>
        (do
          let ingested ← drainQueuedReports reports
          pure (informationReport || ingested != 0)) s

end Subscription

/-! ## The machine -/

/-- What happens to a subscription. -/
inductive SubscriptionEvent where
  | start (server : Server)
  | stop (server : Server)
  | retryCleanup (server : Server)
  | poll (polled : Except String Bool) (reports : List Subscription.Ingested)
  | associationLost

namespace SubscriptionSession

/-- The state that an operation leaves, whether it throws or not. -/
def after {α : Type} (x : SubscriptionM α) (s : SubscriptionSession) : SubscriptionSession :=
  match x { s with peer := { s.peer with reportedEnabled := none } } with
  | .ok _ s => s
  | .error _ s => s

def step (s : SubscriptionSession) : SubscriptionEvent → SubscriptionSession
  | .start server => s.after (Subscription.start server)
  | .stop server => s.after (Subscription.stop server)
  | .retryCleanup server => s.after (Subscription.retryCleanup server)
  | .poll polled reports => s.after (Subscription.pollOnce polled reports)
  | .associationLost => { s with peer := { s.peer with associated := false } }

end SubscriptionSession

end ArStack.Mms
