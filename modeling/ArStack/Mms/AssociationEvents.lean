import ArStack.Mms.AssociationRuntime

/-!
# The event log of the client association

`MmsAssociationRuntime` as its bounded event log shows it: how it connects, disconnects, exchanges
and polls, with the events of each. The layers below application payloads (transport, TPKT, COTP
and ACSE) and the stop token answer from a script, which the environment writes.

* `addEvent` — the log drops its oldest entry when it is full
* `connect`, `disconnect`, `exchangeConfirmed`, `exchangeConfirmedBatch`, `pollOnce`,
  `tryPollOnceFor`
-/

namespace ArStack.Mms

inductive MmsAssociationEventKind where
  | stateChanged
  | transportConnected
  | cotpConnected
  | associationAccepted
  | confirmedRequestSent
  | confirmedResultReceived
  | informationReportReceived
  | unmatchedPduReceived
  | disconnected
  | cancelled
  | timedOut
  | faulted
  deriving DecidableEq

structure MmsAssociationEvent where
  kind : MmsAssociationEventKind := .stateChanged
  state : MmsAssociationRuntimeState := .disconnected
  invokeId : Option Nat := none
  message : String := ""
  deriving DecidableEq

structure MmsEndpoint where
  host : String := ""
  port : UInt16 := 102
  deriving DecidableEq

/-- What a strictly decoded Initiate-Response negotiates. -/
structure MmsInitiated where
  maximumMmsPduSize : UInt32 := 65000
  maximumOutstandingCalling : UInt32 := 10
  deriving DecidableEq

/-- How far an association profile comes. The acceptance is strict with the values it negotiates,
or compatible with the text of its inspection. -/
inductive ProfileOutcome where
  | beforeTransport (failure : MmsAssociationFailure)
  | duringTransport (failure : MmsAssociationFailure)
  | duringCotp (failure : MmsAssociationFailure)
  | duringAcse (tpduSizeCode : UInt8) (failure : MmsAssociationFailure)
  | accepted (tpduSizeCode : UInt8) (answer : Except String MmsInitiated)
  deriving DecidableEq

/-- What the layers below answer, call by call. -/
structure AssociationScript where
  profiles : List ProfileOutcome := []
  sends : List (Except MmsAssociationFailure Unit) := []
  receives : List (Except MmsAssociationFailure Bytes) := []
  stopRequested : Bool := false
  deriving DecidableEq

structure MmsEventedOptions where
  maximumReceiveChunksPerOperation : Nat := 4096
  maximumQueuedInformationReports : Nat := 1024
  maximumEvents : Nat := 1024
  presentationContextId : UInt32 := 3
  /-- An explicit engineering profile is configured. -/
  addressing : Bool := false
  deriving DecidableEq

structure MmsEventedAssociation where
  options : MmsEventedOptions := {}
  state : MmsAssociationRuntimeState := .disconnected
  transportConnected : Bool := false
  endpoint : MmsEndpoint := {}
  initiated : MmsInitiated := {}
  negotiatedOutstandingVerified : Bool := false
  presentationContextId : UInt32 := 3
  invokeRouter : MmsInvokeRouter := {}
  informationReports : List Bytes := []
  nextInvokeId : Nat := 0
  events : List MmsAssociationEvent := []
  /-- How many entries the log has dropped; nothing reads it. -/
  dropped : Nat := 0
  /-- How many associations were accepted; nothing reads it. -/
  accepted : Nat := 0
  script : AssociationScript := {}
  deriving DecidableEq

namespace MmsEventedAssociation

/-- A member function that may throw. -/
abbrev EventedM := EStateM MmsAssociationFailure MmsEventedAssociation

section Queries

variable (rt : MmsEventedAssociation)

def associated : Bool := rt.state == .associated

def verifiedOutstandingCalling : Nat :=
  if rt.negotiatedOutstandingVerified then rt.initiated.maximumOutstandingCalling.toNat else 1

def requireAssociated : Except MmsAssociationFailure Unit :=
  if !rt.associated || !rt.transportConnected then
    .error (.error "MMS association is not active.")
  else .ok ()

/-! ## The log -/

def addEvent (kind : MmsAssociationEventKind) (message : String) (invokeId : Option Nat := none) :
    MmsEventedAssociation :=
  let full := decide (rt.events.length ≥ rt.options.maximumEvents)
  { rt with
    events := (if full then rt.events.drop 1 else rt.events) ++
      [{ kind, state := rt.state, invokeId, message }]
    dropped := if full then rt.dropped + 1 else rt.dropped
    accepted := if kind = .associationAccepted then rt.accepted + 1 else rt.accepted }

/-- Change the state, and log an event with the new one. -/
def enter (state : MmsAssociationRuntimeState) (kind : MmsAssociationEventKind)
    (message : String) (invokeId : Option Nat := none) : MmsEventedAssociation :=
  addEvent { rt with state } kind message invokeId

/-- The transport is closed and what was received is forgotten. -/
def closeAll : MmsEventedAssociation :=
  { rt with
    transportConnected := false
    invokeRouter := rt.invokeRouter.clear
    informationReports := [] }

/-- What the handlers of an exchange do. -/
def fault (failure : MmsAssociationFailure) (invokeId : Option Nat) : MmsEventedAssociation :=
  match failure with
  | .cancelled message => (rt.enter .faulted .cancelled message invokeId).closeAll
  | .timeout message => (rt.enter .faulted .timedOut message invokeId).closeAll
  | .error message =>
    if rt.script.stopRequested then (rt.enter .faulted .cancelled message invokeId).closeAll
    else (rt.enter .faulted .faulted message).closeAll

def takeInvokeId : Nat × MmsEventedAssociation :=
  let current := if rt.nextInvokeId ≥ MmsPduCodec.maximumInvokeId then 0 else rt.nextInvokeId
  (current + 1, { rt with nextInvokeId := current + 1 })

def tryPopInformationReport : Option Bytes × MmsEventedAssociation :=
  match rt.informationReports with
  | [] => (none, rt)
  | report :: informationReports => (some report, { rt with informationReports })

end Queries

/-! ## The layers below -/

/-- `send_application_payload`; what is not in the script succeeds. -/
def sendApplicationPayload : EventedM Unit := fun rt =>
  match rt.script.sends with
  | [] => .ok () rt
  | .ok () :: sends => .ok () { rt with script := { rt.script with sends } }
  | .error failure :: sends => .error failure { rt with script := { rt.script with sends } }

/-- `receive_application_payload`; behind the script nothing is received. -/
def receiveApplicationPayload : EventedM Bytes := fun rt =>
  match rt.script.receives with
  | [] => .error (.timeout "MMS transport receive timed out.") rt
  | .ok payload :: receives => .ok payload { rt with script := { rt.script with receives } }
  | .error failure :: receives =>
    .error failure { rt with script := { rt.script with receives } }

/-! ## Connecting -/

def profileNames (options : MmsEventedOptions) : List String :=
  if options.addressing then ["SclEngineering"] else ["BalancedApTitle", "LegacyMinimal"]

def disconnect (rt : MmsEventedAssociation) : MmsEventedAssociation :=
  if rt.state = .disconnected ∧ rt.transportConnected = false then rt
  else
    ((rt.enter .closing .stateChanged "Closing MMS association and byte transport.").closeAll).enter
      .disconnected .disconnected "MMS association disconnected."

/-- What a new association starts from. -/
def resetForAttempt (rt : MmsEventedAssociation) : MmsEventedAssociation :=
  { rt with
    transportConnected := false
    invokeRouter := rt.invokeRouter.clear
    informationReports := []
    negotiatedOutstandingVerified := false
    initiated := {}
    presentationContextId := rt.options.presentationContextId }

def startTransport (rt : MmsEventedAssociation) (profile : String) (index count : Nat) :
    MmsEventedAssociation :=
  rt.resetForAttempt.enter .transportConnecting .stateChanged
    ("Association profile " ++ profile ++ " (attempt " ++ toString (index + 1) ++ "/" ++
      toString count ++ "): connecting byte transport to " ++ rt.endpoint.host ++ ":" ++
      toString rt.endpoint.port.toNat ++ ".")

def startCotp (rt : MmsEventedAssociation) (profile : String) : MmsEventedAssociation :=
  ({ rt with transportConnected := true }.enter .transportConnected .transportConnected
    (profile ++ ": byte transport connected.")).enter .cotpConnecting .stateChanged
      (profile ++ ": sending COTP Connection Request.")

def startAcse (rt : MmsEventedAssociation) (profile : String) (tpduSizeCode : UInt8) :
    MmsEventedAssociation :=
  (rt.enter .cotpConnected .cotpConnected (profile ++ ": COTP connected with TPDU size code " ++
    toString tpduSizeCode.toNat ++ ".")).enter .acseAssociating .stateChanged
      (profile ++ ": sending ISO Session/Presentation/ACSE association request.")

def accept (rt : MmsEventedAssociation) (profile : String)
    (answer : Except String MmsInitiated) : MmsEventedAssociation :=
  match answer with
  | .ok initiated =>
    { rt with initiated, negotiatedOutstandingVerified :=
        decide (0 < initiated.maximumOutstandingCalling) }.enter .associated .associationAccepted
      (profile ++ ": MMS association accepted; maximum PDU=" ++
        toString initiated.maximumMmsPduSize.toNat ++ ".")
  | .error compatibility =>
    { rt with negotiatedOutstandingVerified := false }.enter .associated .associationAccepted
      (profile ++ ": " ++ compatibility)

/-- The body of the `try` of a profile, up to its failure. -/
def attempt (rt : MmsEventedAssociation) (profile : String) (index count : Nat) :
    ProfileOutcome → Option MmsAssociationFailure × MmsEventedAssociation
  | .beforeTransport failure => (some failure, rt)
  | .duringTransport failure => (some failure, rt.startTransport profile index count)
  | .duringCotp failure =>
    (some failure, (rt.startTransport profile index count).startCotp profile)
  | .duringAcse tpduSizeCode failure =>
    (some failure,
      ((rt.startTransport profile index count).startCotp profile).startAcse profile tpduSizeCode)
  | .accepted tpduSizeCode answer =>
    (none, (((rt.startTransport profile index count).startCotp profile).startAcse profile
      tpduSizeCode).accept profile answer)

/-- The profile failed with this message, and the next one is tried. -/
def failProfile (rt : MmsEventedAssociation) (kind : MmsAssociationEventKind) (message : String) :
    MmsEventedAssociation :=
  { rt.enter .faulted kind message with transportConnected := false }

/-- The message when every profile has failed. -/
def allFailed (options : MmsEventedOptions) (attempts : List String) : String :=
  (if options.addressing then "SCL MMS association profile failed"
    else "All C# MMS association profiles failed") ++
    (if attempts = [] then "" else ": " ++ String.intercalate " | " attempts) ++ "."

/-- The loop over the profiles, with the messages of the attempts before. -/
def connectProfiles (count : Nat) : Nat → List String → List String → EventedM Unit
  | _, attempts, [] => fun rt =>
    let message := allFailed rt.options attempts
    .error (.error message) ((rt.closeAll).enter .faulted .faulted message)
  | index, attempts, profile :: profiles => fun rt =>
    let outcome := rt.script.profiles.headD
      (.duringTransport (.timeout "MMS transport connect timed out."))
    let rt := { rt with script := { rt.script with profiles := rt.script.profiles.drop 1 } }
    match rt.attempt profile index count outcome with
    | (none, rt) => .ok () rt
    | (some (.cancelled message), rt) =>
      .error (.cancelled message) (rt.failProfile .cancelled message)
    | (some (.timeout message), rt) =>
      let message := profile ++ ": timeout: " ++ message
      connectProfiles count (index + 1) (attempts ++ [message]) profiles
        (rt.failProfile .timedOut message)
    | (some (.error message), rt) =>
      if rt.script.stopRequested then
        let message := profile ++ ": cancelled: " ++ message
        .error (.cancelled message) (rt.failProfile .cancelled message)
      else
        let message := profile ++ ": " ++ message
        connectProfiles count (index + 1) (attempts ++ [message]) profiles
          (rt.failProfile .faulted message)

def connect (endpoint : MmsEndpoint) : EventedM Unit := fun rt =>
  if endpoint.host = "" then .error (.error "MMS endpoint host must not be empty.") rt
  else if rt.associated then .error (.error "MMS association is already active.") rt
  else
    let rt := { rt.disconnect.resetForAttempt with endpoint, nextInvokeId := 0 }
    connectProfiles (profileNames rt.options).length 0 [] (profileNames rt.options) rt

/-! ## Receiving -/

def queueInformationReport (rt : MmsEventedAssociation) (payload : Bytes) : MmsEventedAssociation :=
  let informationReports :=
    if rt.informationReports.length ≥ rt.options.maximumQueuedInformationReports then
      rt.informationReports.drop 1
    else rt.informationReports
  { rt with informationReports := informationReports ++ [payload] }

/-- Log the event. -/
def logEvent (kind : MmsAssociationEventKind) (message : String) (invokeId : Option Nat := none) :
    EventedM Unit := fun rt => .ok () (rt.addEvent kind message invokeId)

def queueReport (payload : Bytes) : EventedM Unit := fun rt =>
  .ok () (rt.queueInformationReport payload)

/-- Hand the PDU to the invoke router. -/
def route (payload : Bytes) : EventedM MmsInvokeRouteResult := fun rt =>
  match rt.invokeRouter.route payload with
  | .error message => .error (.error message) rt
  | .ok (result, invokeRouter) => .ok result { rt with invokeRouter }

def routeReceivedPayload (payload : Bytes) : EventedM MmsPduEnvelope := do
  let envelope ← throwFormat (MmsPduCodec.decodeEnvelope payload)
  if envelope.informationReport then
    queueReport payload
    logEvent .informationReportReceived "MMS InformationReport queued."
    pure envelope
  else
    let result ← route payload
    if result.action = .queuedUnmatched then
      logEvent .unmatchedPduReceived "Unmatched MMS PDU queued." envelope.invokeId
      pure envelope
    else pure envelope

def dequeue (invokeId : Nat) (missing : String) : EventedM MmsPduEnvelope := fun rt =>
  match rt.invokeRouter.tryDequeue invokeId with
  | (none, _) => .error (.error missing) rt
  | (some envelope, invokeRouter) => .ok envelope { rt with invokeRouter }

def requireNoOrphan (message : String) : EventedM Unit := fun rt =>
  if rt.invokeRouter.queuedConfirmedCount ≠ 0 then .error (.error message) rt else .ok () rt

/-- The `try` of an operation and its handlers, which log this invoke identifier. -/
def guarded {α : Type} (invokeId : Option Nat) (body : EventedM α) : EventedM α := fun rt =>
  match body rt with
  | .ok a rt => .ok a rt
  | .error failure rt => .error failure (rt.fault failure invokeId)

/-! ## Exchanges -/

def awaitResult (expectedInvokeId : Nat) : Nat → EventedM MmsConfirmedExchangeResult
  | 0 => throw (.error "MMS confirmed exchange exceeded the bounded receive iteration count.")
  | iterations + 1 => do
    let received ← receiveApplicationPayload
    let envelope ← routeReceivedPayload received
    if envelope.confirmedResult && !envelope.matchesInvoke expectedInvokeId then
      throw (.error "Unexpected MMS confirmed result invoke ID in serial exchange.")
    else if envelope.confirmedResult then
      let matched ← dequeue expectedInvokeId
        "Matched MMS response was not available in the invoke router."
      logEvent .confirmedResultReceived "Confirmed MMS result received." (some expectedInvokeId)
      pure { envelope := matched, presentationPayload := received }
    else awaitResult expectedInvokeId iterations

def exchangeBody (expectedInvokeId iterations : Nat) : EventedM MmsConfirmedExchangeResult := do
  requireNoOrphan "Unsolicited queued MMS confirmed result before a new request."
  sendApplicationPayload
  logEvent .confirmedRequestSent "Confirmed MMS request sent." (some expectedInvokeId)
  awaitResult expectedInvokeId iterations

def exchangeConfirmed (payload : Bytes) (expectedInvokeId : Nat) :
    EventedM MmsConfirmedExchangeResult := fun rt =>
  match rt.requireAssociated with
  | .error failure => .error failure rt
  | .ok () =>
    if expectedInvokeId = 0 ∨ expectedInvokeId > MmsPduCodec.maximumInvokeId then
      .error (.error "Expected MMS invoke ID is outside the supported range.") rt
    else
      match MmsAssociationRuntime.checkRequest payload expectedInvokeId
          "Confirmed exchange payload does not contain the expected invoke ID." with
      | .error message => .error (.error message) rt
      | .ok () =>
        guarded (some expectedInvokeId)
          (exchangeBody expectedInvokeId rt.options.maximumReceiveChunksPerOperation) rt

def sendRequests : List MmsConfirmedBatchRequest → EventedM Unit
  | [] => pure ()
  | request :: requests => do
    sendApplicationPayload
    logEvent .confirmedRequestSent "Batched confirmed MMS request sent." (some request.invokeId)
    sendRequests requests

/-- The receive loop: the results so far by slot, and how many are missing. -/
def collectResults (requests : List MmsConfirmedBatchRequest) :
    Nat → List (Option MmsConfirmedExchangeResult) → Nat →
      EventedM (List MmsConfirmedExchangeResult)
  | 0, _, _ => throw (.error "MMS batch exhausted bounded receive iteration budget.")
  | iterations + 1, completed, remaining => do
    let bytes ← receiveApplicationPayload
    let envelope ← routeReceivedPayload bytes
    if !envelope.confirmedResult then collectResults requests iterations completed remaining
    else
      match MmsAssociationRuntime.slotOf requests envelope.invokeId, envelope.invokeId with
      | some slot, some invokeId =>
        if (completed.getD slot none).isSome then
          throw (.error "Unregistered or duplicate confirmed MMS batch invoke ID.")
        else
          let matched ← dequeue invokeId
            "Batch response absent from authoritative invoke router."
          let completed := completed.set slot
            (some { envelope := matched, presentationPayload := bytes })
          logEvent .confirmedResultReceived "Batched confirmed MMS result received."
            (some invokeId)
          if remaining - 1 = 0 then pure (completed.filterMap id)
          else collectResults requests iterations completed (remaining - 1)
      | _, _ => throw (.error "Unregistered or duplicate confirmed MMS batch invoke ID.")

def batchBody (requests : List MmsConfirmedBatchRequest) (iterations : Nat) :
    EventedM (List MmsConfirmedExchangeResult) := do
  requireNoOrphan "Orphan confirmed response before MMS batch send."
  sendRequests requests
  collectResults requests iterations (List.replicate requests.length none) requests.length

/-- What `exchange_confirmed_batch` checks before it sends anything. -/
def acceptBatch (rt : MmsEventedAssociation) (requests : List MmsConfirmedBatchRequest) :
    Except MmsAssociationFailure Unit := do
  rt.requireAssociated
  if requests = [] ∨
      requests.length > min MmsAssociationRuntime.hardWindow rt.verifiedOutstandingCalling then
    .error (.error "Confirmed MMS batch exceeds verified negotiated calling window.")
  else
    match MmsAssociationRuntime.checkRequests [] requests with
    | .error message => .error (.error message)
    | .ok () => .ok ()

def exchangeConfirmedBatch (requests : List MmsConfirmedBatchRequest) :
    EventedM (List MmsConfirmedExchangeResult) := fun rt =>
  match rt.acceptBatch requests with
  | .error failure => .error failure rt
  | .ok () =>
    guarded none (batchBody requests rt.options.maximumReceiveChunksPerOperation) rt

/-! ## Polling -/

def receiveOne : EventedM MmsPduEnvelope := do
  let payload ← receiveApplicationPayload
  routeReceivedPayload payload

def pollOnce : EventedM MmsPduEnvelope := fun rt =>
  match rt.requireAssociated with
  | .error failure => .error failure rt
  | .ok () => guarded none receiveOne rt

/-- `try_poll_once_for`, which takes the expiry of its time as an answer. The stop may be requested
before the call or while it waits. -/
def tryPollOnceFor (timeoutPositive stoppedBefore : Bool) : EventedM (Option MmsPduEnvelope) :=
  fun rt =>
  match rt.requireAssociated with
  | .error failure => .error failure rt
  | .ok () =>
    if !timeoutPositive then .error (.error "Bounded MMS poll timeout must be positive.") rt
    else if stoppedBefore then
      .error (.cancelled "MMS association operation was cancelled.") rt
    else
      match receiveOne rt with
      | .ok envelope rt => .ok (some envelope) rt
      | .error (.timeout _) rt => .ok none rt
      | .error (.cancelled message) rt => .error (.cancelled message) rt
      | .error (.error message) rt =>
        if rt.script.stopRequested then .error (.cancelled message) rt
        else .error (.error message) ((rt.enter .faulted .faulted message).closeAll)

end MmsEventedAssociation

end ArStack.Mms
