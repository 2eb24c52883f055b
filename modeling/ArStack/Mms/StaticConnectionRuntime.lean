import ArStack.Mms.ServicesSpan
import ArStack.Mms.StaticDirectControl
import ArStack.Osi.CotpSpan
import ArStack.Osi.CotpTpktStream
import ArStack.Osi.PresentationSpan

/-!
# The connection runtime of the server

`MmsStaticConnectionRuntime` takes the first frame of a receive window through the layers of a
connection: COTP connect, association, confirmed requests. An association that was established
is reported to the lifecycle callback when it closes.

* `MmsStaticConnectionServices` — what the runtime calls that is not a layer of its own
* `processTcpWindow` — one frame
* `closeTransport`, `reset` — the ends of an association that no frame announces
-/

namespace ArStack.Mms

open ArStack.Wire ArStack.Osi

inductive MmsStaticConnectionState where
  | awaitingCotpConnect
  | awaitingAssociation
  | established
  | closed
  | fault
  deriving DecidableEq

inductive MmsStaticConnectionStatus where
  | needMore
  | responseReady
  | consumedNoResponse
  | malformedTransport
  | protocolViolation
  | applicationRejected
  | responseBufferTooSmall
  | workspaceTooSmall
  | peerLimitExceeded
  | backendFailure
  | closed
  deriving DecidableEq

inductive MmsStaticDispatchStatus where
  | responseReady
  | malformedRequest
  | unsupportedService
  | unsupportedRequest
  | objectNotFound
  | invalidObjectTable
  | workspaceTooSmall
  | responseBufferTooSmall
  | backendFailure
  deriving DecidableEq

/-- What the dispatcher reports, with the octets it has written to the response. -/
structure MmsStaticDispatchResult where
  status : MmsStaticDispatchStatus := .malformedRequest
  service : MmsWireConfirmedService := .unknown
  invokeId : UInt32 := 0
  bytes : Bytes := []
  requiredBytes : Nat := 0
  deriving DecidableEq

def MmsStaticDispatchResult.success (result : MmsStaticDispatchResult) : Bool :=
  result.status == .responseReady

/-- `nowMs` and `associationClosed` tell whether the callbacks are set. -/
structure MmsStaticConnectionPolicy where
  cotpSourceReference : Nat := 0x1001
  maximumTpduSizeCode : UInt8 := 0x0A
  requireEndOfTransmission : Bool := true
  associationId : UInt64 := 0
  owner : Bytes := []
  nowMs : Bool := false
  associationClosed : Bool := false
  deriving DecidableEq

def MmsStaticConnectionPolicy.accessContext (policy : MmsStaticConnectionPolicy) :
    MmsStaticRequestAccessContext :=
  { associationId := policy.associationId, owner := policy.owner }

structure MmsStaticConnectionResult where
  status : MmsStaticConnectionStatus := .needMore
  state : MmsStaticConnectionState := .awaitingCotpConnect
  consumedBytes : Nat := 0
  bytes : Bytes := []
  requiredResponseBytes : Nat := 0
  requiredWorkspaceBytes : Nat := 0
  applicationStatus : MmsStaticDispatchStatus := .malformedRequest
  applicationService : MmsWireConfirmedService := .unknown
  invokeId : UInt32 := 0
  deriving DecidableEq

/-- What an association request asks for. -/
structure AssociationRequestView where
  mmsPresentationContextId : UInt32 := 0
  userInformation : Bytes := []
  deriving DecidableEq

structure MmsStaticConfirmedServiceExtensionResult where
  handled : Bool := false
  encoded : EncodeResult := {}
  deriving DecidableEq

/-- What the runtime calls. `α` is the state of the application: the object values, and
whatever the callbacks keep. The accept response is built from the octets of the request. -/
structure MmsStaticConnectionServices (α : Type) where
  tryDecodeAssociationRequestView : Bytes → Option AssociationRequestView
  buildAcceptResponseInto : Bytes → Bytes → Nat → EncodeResult
  /-- The host-owned confirmed services, if the policy has the callback. -/
  confirmedService : Option (α → MmsConfirmedPduView → Nat →
    MmsStaticConfirmedServiceExtensionResult × α)
  maximumWriteVariables : Nat
  dispatch : α → Bytes → Nat → Nat → MmsStaticRequestAccessContext → MmsStaticDispatchResult × α

/-- A call of the lifecycle callback. -/
structure AssociationClosed where
  associationId : UInt64
  nowMs : UInt64
  deriving DecidableEq

structure MmsStaticConnectionRuntime where
  policy : MmsStaticConnectionPolicy := {}
  state : MmsStaticConnectionState := .awaitingCotpConnect
  mmsPresentationContextId : UInt32 := 0
  negotiatedTpduSizeBytes : Nat := 0
  negotiatedMmsPduSize : UInt32 := 0
  associationActive : Bool := false
  associationCloseNotified : Bool := false
  deriving DecidableEq

/-- A call of a member function: its result, the runtime it leaves and the callback it made. -/
structure ConnectionStep (α : Type) where
  result : MmsStaticConnectionResult
  runtime : MmsStaticConnectionRuntime
  application : α
  notified : Option AssociationClosed := none

def serverMaximumMmsPduSize : UInt32 := 65000
def serverMaximumOutstandingCalling : UInt32 := 10
def serverMaximumOutstandingCalled : UInt32 := 10
def serverMaximumNestingLevel : UInt32 := 5

/-! ## Helpers -/

/-- The TPDU size of the connection: the smaller one of the peer's and the local one. -/
def selectedTpduSizeBytes (request : CotpTpduView) (localMaximumCode : UInt8) : Option Nat := do
  let localBytes ← CotpSpanCodec.tryTpduSizeBytes localMaximumCode
  match request.tryParameter CotpSpanCodec.tpduSizeParameter with
  | none => some localBytes
  | some [offered] => do
    let peerBytes ← CotpSpanCodec.tryTpduSizeBytes offered
    some (min localBytes peerBytes)
  | some _ => none

def wrapCotpDataResponse (sessionOrPresentation : Bytes) (consumed : Nat)
    (state : MmsStaticConnectionState) (negotiatedTpduSizeBytes responseSize : Nat) :
    MmsStaticConnectionResult :=
  let encoded := CotpTpktDataStreamSpanCodec.encodeInto sessionOrPresentation
    negotiatedTpduSizeBytes responseSize
  if encoded.success then
    { status := .responseReady, state, consumedBytes := consumed, bytes := encoded.bytes }
  else if encoded.status = .bufferTooSmall then
    { status := .responseBufferTooSmall, state, requiredResponseBytes := encoded.requiredBytes }
  else
    { status :=
        if negotiatedTpduSizeBytes = 0 then .peerLimitExceeded else .backendFailure
      state
      consumedBytes := consumed }

/-- The response octets for an MMS PDU of this size. -/
def framedMmsResponseSize (presentationContextId : UInt32)
    (mmsBytes negotiatedTpduSizeBytes : Nat) : Option Nat := do
  let fullyEncoded ← PresentationSpanCodec.fullyEncodedDataSize presentationContextId mmsBytes
  let plan ← CotpTpktDataStreamSpanCodec.tryPlan fullyEncoded negotiatedTpduSizeBytes
  some plan.requiredBytes

def rejectReasonFor : MmsStaticDispatchStatus → MmsConfirmedRequestRejectReason
  | .unsupportedService => .unrecognizedService
  | .malformedRequest | .unsupportedRequest => .invalidArgument
  | _ => .other

/-- ConfirmedErrorPDU with the error class access and object-non-existent. -/
def objectNotFoundSizes (invokeId : UInt32) : Option (Nat × Nat × Nat × Nat) := do
  let invokeTlv ← Asn1.BerSpanWriter.tlvSize 0 (Detail.positiveIntegerSize invokeId)
  let accessTlv ← Asn1.BerSpanWriter.tlvSize 7 1
  let errorClassTlv ← Asn1.BerSpanWriter.tlvSize 0 accessTlv
  let serviceErrorTlv ← Asn1.BerSpanWriter.tlvSize 2 errorClassTlv
  let content ← addSize invokeTlv serviceErrorTlv
  let required ← Asn1.BerSpanWriter.tlvSize 2 content
  some (accessTlv, errorClassTlv, content, required)

def writeObjectNotFound (invokeId : UInt32) (accessTlv errorClassTlv content required : Nat) :
    Option Asn1.BerSpanWriter := do
  let writer : Asn1.BerSpanWriter := { capacity := required }
  let writer ← writer.writeTlvHeader .contextSpecific true 2 content
  let writer ← writer.writeTlvHeader .contextSpecific false 0 (Detail.positiveIntegerSize invokeId)
  let writer ← Detail.writePositiveContent writer invokeId
  let writer ← writer.writeTlvHeader .contextSpecific true 2 errorClassTlv
  let writer ← writer.writeTlvHeader .contextSpecific true 0 accessTlv
  let writer ← writer.writeTlvHeader .contextSpecific false 7 1
  let writer ← writer.writeByte 2
  if writer.size ≠ required then none else some writer

def encodeObjectNotFoundConfirmedError (invokeId : UInt32) (destinationSize : Nat) :
    EncodeResult :=
  if invokeId > MmsPduSpanCodec.maximumInvokeId then { status := .valueOutOfRange }
  else
    match objectNotFoundSizes invokeId with
    | none => { status := .valueOutOfRange }
    | some (accessTlv, errorClassTlv, content, required) =>
      if destinationSize < required then { status := .bufferTooSmall, requiredBytes := required }
      else
        match writeObjectNotFound invokeId accessTlv errorClassTlv content required with
        | none => { status := .valueOutOfRange, requiredBytes := required }
        | some writer => { bytes := writer.out, requiredBytes := required }

structure WriteOuterCapacity where
  mmsRequired : Nat
  frameRequired : Nat
  deriving DecidableEq

/-- The capacity that the response to a Write takes at most: every result a failure with the
longest code. -/
def writeOuterCapacity (confirmed : MmsConfirmedPduView) (maximumWriteVariables : Nat)
    (presentationContextId : UInt32) (negotiatedTpduSizeBytes : Nat) :
    Option WriteOuterCapacity :=
  if confirmed.service ≠ .write then none
  else do
    let write ← MmsServiceSpanCodec.tryDecodeWriteRequest confirmed
    if write.names = [] ∨ write.names.length > maximumWriteVariables then none
    else
      let worst : List MmsWriteAccessResultInput :=
        List.replicate write.names.length { success := false, failureCode := 0xFFFFFFFF }
      let probe := MmsServiceSpanCodec.encodeWriteResponseInto confirmed.invokeId worst 0
      if probe.status ≠ .bufferTooSmall ∨ probe.requiredBytes = 0 then none
      else do
        let frameRequired ← framedMmsResponseSize presentationContextId probe.requiredBytes
          negotiatedTpduSizeBytes
        some { mmsRequired := probe.requiredBytes, frameRequired }

/-! ## The end of an association -/

namespace MmsStaticConnectionRuntime

variable (rt : MmsStaticConnectionRuntime)

/-- The callback is made when it is set and the association has an identity. -/
def notifyAssociationClosed (nowMs : UInt64) :
    MmsStaticConnectionRuntime × Option AssociationClosed :=
  if !rt.associationActive || rt.associationCloseNotified then (rt, none)
  else
    let rt := { rt with associationCloseNotified := true, associationActive := false }
    if !rt.policy.associationClosed || rt.policy.associationId == 0 then (rt, none)
    else
      (rt, some
        { associationId := rt.policy.associationId
          nowMs := if rt.policy.nowMs then nowMs else 0 })

def closeTransport (nowMs : UInt64) : MmsStaticConnectionRuntime × Option AssociationClosed :=
  let (rt, notified) := rt.notifyAssociationClosed nowMs
  ({ rt with
      state := .closed
      mmsPresentationContextId := 0
      negotiatedTpduSizeBytes := 0
      negotiatedMmsPduSize := 0 }, notified)

def reset (nowMs : UInt64) : MmsStaticConnectionRuntime × Option AssociationClosed :=
  let (rt, notified) := rt.notifyAssociationClosed nowMs
  ({ rt with
      state := .awaitingCotpConnect
      mmsPresentationContextId := 0
      negotiatedTpduSizeBytes := 0
      negotiatedMmsPduSize := 0
      associationActive := false
      associationCloseNotified := false }, notified)

/-! ## One frame -/

/-- A result that leaves the runtime as it is. -/
def keep {α : Type} (application : α) (result : MmsStaticConnectionResult) : ConnectionStep α :=
  { result := { result with state := rt.state }, runtime := rt, application }

/-- A result that leaves the runtime at fault. -/
def faulted {α : Type} (application : α) (result : MmsStaticConnectionResult) :
    ConnectionStep α :=
  { result := { result with state := .fault }, runtime := { rt with state := .fault },
    application }

/-- A frame while the COTP connection is awaited. -/
def processConnect {α : Type} (application : α) (cotp : CotpTpduView)
    (frameBytes responseSize workspaceSize : Nat) : ConnectionStep α :=
  let violation := rt.faulted application
    { status := .protocolViolation, consumedBytes := frameBytes }
  if cotp.kind ≠ .connectionRequest then violation
  else
    match selectedTpduSizeBytes cotp rt.policy.maximumTpduSizeCode with
    | none => violation
    | some selectedTpduBytes =>
      let cc := CotpSpanCodec.encodeConnectionConfirmFromRequestInto cotp
        rt.policy.cotpSourceReference workspaceSize rt.policy.maximumTpduSizeCode
      if !cc.success then
        if cc.status = .bufferTooSmall then
          rt.keep application
            { status := .workspaceTooSmall, requiredWorkspaceBytes := cc.requiredBytes }
        else rt.faulted application { status := .backendFailure }
      else
        match addSize cc.bytesWritten TpktSpanCodec.headerLength with
        | none => rt.faulted application { status := .backendFailure }
        | some required =>
          if responseSize < required then
            rt.keep application
              { status := .responseBufferTooSmall, requiredResponseBytes := required }
          else
            let encoded := TpktSpanCodec.encodeInto cc.bytes required
            if !encoded.success then
              if encoded.status = .bufferTooSmall then
                rt.keep application
                  { status := .responseBufferTooSmall
                    requiredResponseBytes := encoded.requiredBytes }
              else rt.faulted application { status := .backendFailure }
            else
              let rt :=
                { rt with
                  negotiatedTpduSizeBytes := selectedTpduBytes
                  state := .awaitingAssociation }
              rt.keep application
                { status := .responseReady, consumedBytes := frameBytes, bytes := encoded.bytes }

/-- The Initiate response to a request. -/
def initiateResponse (initiate : MmsInitiateView) : EncodeResult :=
  MmsPduSpanCodec.encodeInitiateResponseInto
    (min initiate.maximumMmsPduSize serverMaximumMmsPduSize)
    (min initiate.maximumOutstandingCalling serverMaximumOutstandingCalling)
    (min initiate.maximumOutstandingCalled serverMaximumOutstandingCalled)
    (min initiate.dataStructureNestingLevel serverMaximumNestingLevel) 64

/-- A frame while the association is awaited. -/
def processAssociation {α : Type} (services : MmsStaticConnectionServices α) (application : α)
    (userData : Bytes) (frameBytes responseSize workspaceSize : Nat) : ConnectionStep α :=
  let violation := rt.faulted application
    { status := .protocolViolation, consumedBytes := frameBytes }
  match services.tryDecodeAssociationRequestView userData with
  | none => violation
  | some association =>
    match MmsPduSpanCodec.tryDecodeInitiateRequestView association.userInformation with
    | none => violation
    | some initiate =>
      if association.mmsPresentationContextId = 0 then violation
      else
        let initiateEncoded := initiateResponse initiate
        if !initiateEncoded.success then rt.faulted application { status := .backendFailure }
        else
          let accept :=
            services.buildAcceptResponseInto userData initiateEncoded.bytes workspaceSize
          if !accept.success then
            if accept.status = .bufferTooSmall then
              rt.keep application
                { status := .workspaceTooSmall, requiredWorkspaceBytes := accept.requiredBytes }
            else rt.faulted application { status := .backendFailure }
          else
            let wrapped := wrapCotpDataResponse accept.bytes frameBytes .established
              rt.negotiatedTpduSizeBytes responseSize
            if wrapped.status ≠ .responseReady then
              { result := wrapped, runtime := rt, application }
            else
              let rt :=
                { rt with
                  mmsPresentationContextId := association.mmsPresentationContextId
                  negotiatedMmsPduSize :=
                    min initiate.maximumMmsPduSize serverMaximumMmsPduSize
                  state := .established
                  associationActive := true
                  associationCloseNotified := false }
              rt.keep application wrapped

/-- What a host-owned service that handles a request has for the dispatcher's result. -/
def extensionResult (confirmed : MmsConfirmedPduView) (encoded : EncodeResult) :
    MmsStaticDispatchResult :=
  { status :=
      if encoded.success then .responseReady
      else if encoded.status = .bufferTooSmall then .responseBufferTooSmall
      else .backendFailure
    service := confirmed.service
    invokeId := confirmed.invokeId
    bytes := encoded.bytes
    requiredBytes := encoded.requiredBytes }

/-- The host-owned services come first, the dispatcher has what they do not handle. -/
def serve {α : Type} (services : MmsStaticConnectionServices α) (application : α)
    (confirmed : Option MmsConfirmedPduView) (request : Bytes)
    (responseSize workspaceSize : Nat) : MmsStaticDispatchResult × α :=
  let dispatched := fun application =>
    services.dispatch application request responseSize workspaceSize rt.policy.accessContext
  match confirmed, services.confirmedService with
  | some confirmed, some confirmedService =>
    let (extension, application) := confirmedService application confirmed responseSize
    if extension.handled then (extensionResult confirmed extension.encoded, application)
    else dispatched application
  | _, _ => dispatched application

/-- A result with what the application reports about it. -/
def withApplication (result : MmsStaticConnectionResult) (served : MmsStaticDispatchResult)
    (invokeId : UInt32) : MmsStaticConnectionResult :=
  { result with
    applicationStatus := served.status
    applicationService := served.service
    invokeId }

/-- The capacity for a response of `requiredBytes` that the application could not write. -/
def responseCapacity {α : Type} (application : α) (served : MmsStaticDispatchResult)
    (requiredBytes : Nat) (invokeId : UInt32) : ConnectionStep α :=
  match framedMmsResponseSize rt.mmsPresentationContextId requiredBytes
      rt.negotiatedTpduSizeBytes with
  | some required =>
    rt.keep application
      (withApplication { status := .responseBufferTooSmall, requiredResponseBytes := required }
        served invokeId)
  | none => rt.faulted application { status := .backendFailure }

/-- Put an MMS response through the presentation, session and transport layers. -/
def respond {α : Type} (application : α) (served : MmsStaticDispatchResult) (invokeId : UInt32)
    (mmsResponse : Bytes) (frameBytes responseSize workspaceSize : Nat) : ConnectionStep α :=
  if rt.negotiatedMmsPduSize = 0 ∨ mmsResponse.length > rt.negotiatedMmsPduSize.toNat then
    rt.keep application { status := .peerLimitExceeded, consumedBytes := frameBytes }
  else
    let pData := PresentationSpanCodec.encodePDataInto mmsResponse workspaceSize
      rt.mmsPresentationContextId true
    if !pData.success then
      if pData.status = .bufferTooSmall then
        rt.keep application
          { status := .workspaceTooSmall, requiredWorkspaceBytes := pData.requiredBytes }
      else rt.faulted application { status := .backendFailure }
    else
      let wrapped := wrapCotpDataResponse pData.bytes frameBytes rt.state
        rt.negotiatedTpduSizeBytes responseSize
      if wrapped.status = .responseReady then
        { result := withApplication wrapped served invokeId, runtime := rt, application }
      else { result := wrapped, runtime := rt, application }

/-- The refusal of a confirmed request that the application has rejected. -/
def rejection (served : MmsStaticDispatchResult) (confirmed : MmsConfirmedPduView)
    (responseSize : Nat) : EncodeResult :=
  if served.status = .objectNotFound then
    encodeObjectNotFoundConfirmedError confirmed.invokeId responseSize
  else
    MmsPduSpanCodec.encodeConfirmedRequestRejectInto confirmed.invokeId
      (rejectReasonFor served.status) responseSize

/-- A request that the application has not answered. -/
def refuse {α : Type} (application : α) (served : MmsStaticDispatchResult)
    (confirmed : Option MmsConfirmedPduView) (frameBytes responseSize workspaceSize : Nat) :
    ConnectionStep α :=
  match served.status with
  | .responseBufferTooSmall =>
    rt.responseCapacity application served served.requiredBytes served.invokeId
  | .workspaceTooSmall =>
    rt.keep application
      (withApplication
        { status := .workspaceTooSmall, requiredWorkspaceBytes := served.requiredBytes } served
        served.invokeId)
  | .backendFailure | .invalidObjectTable =>
    rt.faulted application
      (withApplication { status := .backendFailure, consumedBytes := frameBytes } served
        served.invokeId)
  | _ =>
    match confirmed with
    | none =>
      rt.keep application
        (withApplication { status := .applicationRejected, consumedBytes := frameBytes } served
          served.invokeId)
    | some confirmed =>
      let rejected := rejection served confirmed responseSize
      if !rejected.success then
        if rejected.status = .bufferTooSmall then
          rt.responseCapacity application served rejected.requiredBytes confirmed.invokeId
        else rt.faulted application { status := .backendFailure }
      else
        rt.respond application served confirmed.invokeId rejected.bytes frameBytes responseSize
          workspaceSize

/-- Serve a request and answer it. -/
def processRequest {α : Type} (services : MmsStaticConnectionServices α) (application : α)
    (confirmed : Option MmsConfirmedPduView) (request : Bytes)
    (frameBytes responseSize workspaceSize : Nat) : ConnectionStep α :=
  let (served, application) :=
    rt.serve services application confirmed request responseSize workspaceSize
  if !served.success then
    rt.refuse application served confirmed frameBytes responseSize workspaceSize
  else
    let invokeId := match confirmed with
      | some confirmed => confirmed.invokeId
      | none => served.invokeId
    rt.respond application served invokeId served.bytes frameBytes responseSize workspaceSize

/-- What refuses a Write before it is executed: no room for the longest response. -/
def writePreflight {α : Type} (application : α) (capacity : WriteOuterCapacity)
    (frameBytes responseSize workspaceSize : Nat) : Option (ConnectionStep α) :=
  if rt.negotiatedMmsPduSize = 0 ∨ capacity.mmsRequired > rt.negotiatedMmsPduSize.toNat then
    some (rt.keep application { status := .peerLimitExceeded, consumedBytes := frameBytes })
  else if responseSize < capacity.frameRequired then
    some (rt.keep application
      { status := .responseBufferTooSmall, requiredResponseBytes := capacity.frameRequired })
  else if workspaceSize < capacity.frameRequired then
    some (rt.keep application
      { status := .workspaceTooSmall, requiredWorkspaceBytes := capacity.frameRequired })
  else none

/-- The P-DATA of an established association. -/
def tryDecodeRequest (userData : Bytes) : Option Bytes := do
  let session ← SessionSpanCodec.tryDecodeDataTransferView userData
  let pdv ← PresentationSpanCodec.tryDecodeFullyEncodedDataView session.presentationPayload
  if pdv.contextId ≠ rt.mmsPresentationContextId then none else some pdv.singleAsn1Type

/-- A frame of an established association. -/
def processData {α : Type} (services : MmsStaticConnectionServices α) (application : α)
    (userData : Bytes) (frameBytes responseSize workspaceSize : Nat) : ConnectionStep α :=
  match rt.tryDecodeRequest userData with
  | none => rt.faulted application { status := .protocolViolation, consumedBytes := frameBytes }
  | some request =>
    let confirmed := MmsPduSpanCodec.tryDecodeConfirmedRequestView request
    let capacity := confirmed.bind fun confirmed =>
      writeOuterCapacity confirmed services.maximumWriteVariables rt.mmsPresentationContextId
        rt.negotiatedTpduSizeBytes
    match capacity.bind fun capacity =>
        rt.writePreflight application capacity frameBytes responseSize workspaceSize with
    | some refused => refused
    | none =>
      rt.processRequest services application confirmed request frameBytes responseSize
        workspaceSize

/-- A frame with a TPDU other than a disconnect request. -/
def processTpdu {α : Type} (services : MmsStaticConnectionServices α) (application : α)
    (cotp : CotpTpduView) (frameBytes responseSize workspaceSize : Nat) : ConnectionStep α :=
  if rt.state = .awaitingCotpConnect then
    rt.processConnect application cotp frameBytes responseSize workspaceSize
  else if cotp.kind ≠ .data ∨ (rt.policy.requireEndOfTransmission ∧ !cotp.endOfTransmission) then
    rt.faulted application { status := .protocolViolation, consumedBytes := frameBytes }
  else if rt.state = .awaitingAssociation then
    rt.processAssociation services application cotp.userData frameBytes responseSize workspaceSize
  else if rt.state ≠ .established then
    rt.faulted application { status := .protocolViolation, consumedBytes := frameBytes }
  else rt.processData services application cotp.userData frameBytes responseSize workspaceSize

/-- The TPDU of a frame. -/
def tryDecodeFrame (frame : Bytes) : Option CotpTpduView := do
  let tpkt ← TpktSpanCodec.tryDecodeView frame
  CotpSpanCodec.tryDecodeView tpkt.payload

def processFrame {α : Type} (services : MmsStaticConnectionServices α) (application : α)
    (frame : Bytes) (responseSize workspaceSize : Nat) (nowMs : UInt64) : ConnectionStep α :=
  match tryDecodeFrame frame with
  | none =>
    rt.faulted application { status := .malformedTransport, consumedBytes := frame.length }
  | some cotp =>
    if cotp.kind = .disconnectRequest then
      let (rt, notified) := rt.closeTransport nowMs
      { rt.keep application { status := .closed, consumedBytes := frame.length } with notified }
    else rt.processTpdu services application cotp frame.length responseSize workspaceSize

/-- At most the first complete frame of a receive window; `nowMs` is what the clock callback
returns. -/
def processTcpWindow {α : Type} (services : MmsStaticConnectionServices α) (application : α)
    (tcpBytes : Bytes) (responseSize workspaceSize : Nat) (nowMs : UInt64) : ConnectionStep α :=
  if rt.state = .closed then rt.keep application { status := .closed }
  else if rt.state = .fault then rt.keep application { status := .protocolViolation }
  else
    let peek := TpktSpanCodec.peekFrame tcpBytes
    if peek.status = .needMore then rt.keep application { status := .needMore }
    else if peek.status ≠ .ready ∨ peek.frameBytes = 0 then
      rt.faulted application { status := .malformedTransport }
    else
      rt.processFrame services application (tcpBytes.take peek.frameBytes) responseSize
        workspaceSize nowMs

end MmsStaticConnectionRuntime

end ArStack.Mms
