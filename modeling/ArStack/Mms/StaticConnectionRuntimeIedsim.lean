import ArStack.Mms.StaticConnectionRuntime

/-!
# The connection runtime of the IED simulator

The simulator's build of `MmsStaticConnectionRuntime`. Beside what the other build has it joins
the Data TPDUs of a TSDU, answers Conclude, Identify and FileDirectory, and refuses a request
with a ConfirmedErrorPDU.

* `CotpReassembly` — the TSDU in the reassembly buffer
* `reassemble` — one Data TPDU
* `processTcpWindow` — one frame
-/

namespace ArStack.Mms

open ArStack.Wire ArStack.Osi

/-- The storage that the caller lends for a call, by its address and size. -/
structure Workspace where
  data : Nat := 0
  size : Nat := 0
  deriving DecidableEq

/-- What the reassembly buffer holds, and the workspace that it is borrowed from. Nothing else
writes to the buffer. -/
structure CotpReassembly where
  octets : Bytes := []
  complete : Bool := false
  workspace : Option Workspace := none
  deriving DecidableEq

/-- `cotpReassembly` is the size of the buffer of the policy, zero without one. -/
structure MmsStaticConnectionRuntimeIedsim where
  connection : MmsStaticConnectionRuntime := {}
  cotpReassembly : Nat := 0
  reassembly : CotpReassembly := {}
  deriving DecidableEq

/-- A call of a member function. -/
structure IedsimStep (α : Type) where
  result : MmsStaticConnectionResult
  runtime : MmsStaticConnectionRuntimeIedsim
  application : α
  notified : Option AssociationClosed := none

/-- What a Data TPDU makes of the TSDU. -/
inductive Reassembled where
  | violation (status : MmsStaticConnectionStatus) (consumedBytes : Nat)
  /-- A fragment with more to come. -/
  | stored (reassembly : CotpReassembly)
  /-- User data to process, in what is left of the workspace. -/
  | ready (userData : Bytes) (usingReassembly : Bool) (reassembly : CotpReassembly)
    (workspaceSize : Nat)
  deriving DecidableEq

/-! ## Requests -/

namespace MmsStaticConnectionRuntime

variable (rt : MmsStaticConnectionRuntime)

def conservativeStructureType : Bytes := [0xA2, 0x02, 0xA1, 0x00]

/-- An empty list of directory entries. -/
def emptyFileDirectoryFields : Bytes := [0xA0, 0x02, 0x30, 0x00]

def compatibilityErrorStatus : MmsStaticDispatchStatus → Bool
  | .malformedRequest | .unsupportedService | .unsupportedRequest | .objectNotFound => true
  | _ => false

/-- Put a response that `served` is about through the layers, or ask for room for it. -/
def wrapMmsResponse (encoded : EncodeResult) (served : MmsStaticDispatchResult)
    (invokeId : UInt32) (frameBytes responseSize workspaceSize : Nat) :
    MmsStaticConnectionResult :=
  if !encoded.success then
    if encoded.status = .bufferTooSmall ∧ encoded.requiredBytes > 0 then
      if rt.negotiatedMmsPduSize = 0 ∨
          encoded.requiredBytes > rt.negotiatedMmsPduSize.toNat then
        { status := .peerLimitExceeded, consumedBytes := frameBytes }
      else
        match framedMmsResponseSize rt.mmsPresentationContextId encoded.requiredBytes
            rt.negotiatedTpduSizeBytes with
        | some required =>
          withApplication { status := .responseBufferTooSmall, requiredResponseBytes := required }
            served invokeId
        | none => { status := .backendFailure }
    else { status := .backendFailure }
  else if rt.negotiatedMmsPduSize = 0 ∨
      encoded.bytesWritten > rt.negotiatedMmsPduSize.toNat then
    { status := .peerLimitExceeded, consumedBytes := frameBytes }
  else
    let pData := PresentationSpanCodec.encodePDataInto encoded.bytes workspaceSize
      rt.mmsPresentationContextId true
    if !pData.success then
      if pData.status = .bufferTooSmall then
        withApplication
          { status := .workspaceTooSmall, requiredWorkspaceBytes := pData.requiredBytes } served
          invokeId
      else { status := .backendFailure }
    else
      let wrapped := wrapCotpDataResponse pData.bytes frameBytes rt.state
        rt.negotiatedTpduSizeBytes responseSize
      if wrapped.status = .responseReady then withApplication wrapped served invokeId else wrapped

def answer {α : Type} (application : α) (encoded : EncodeResult)
    (served : MmsStaticDispatchResult) (invokeId : UInt32)
    (frameBytes responseSize workspaceSize : Nat) : ConnectionStep α :=
  rt.keep application
    (rt.wrapMmsResponse encoded served invokeId frameBytes responseSize workspaceSize)

/-- The attributes of a VMD-specific variable that the dispatcher does not know. -/
def fallbackAttributes (served : MmsStaticDispatchResult)
    (confirmed : Option MmsConfirmedPduView) : Option MmsConfirmedPduView := do
  let confirmed ← confirmed
  if served.status ≠ .objectNotFound ∨ confirmed.service ≠ .getVariableAccessAttributes then none
  else do
    let name ← MmsServiceSpanCodec.tryDecodeVariableAccessAttributesRequest confirmed
    if name.kind ≠ .vmdSpecific ∨ name.item = [] then none else some confirmed

/-- A request that the dispatcher has rejected. -/
def rejectCompat {α : Type} (application : α) (served : MmsStaticDispatchResult)
    (confirmed : Option MmsConfirmedPduView) (frameBytes responseSize workspaceSize : Nat) :
    ConnectionStep α :=
  match fallbackAttributes served confirmed with
  | some confirmed =>
    rt.answer application
      (MmsServiceSpanCodec.encodeVariableAccessAttributesResponseInto confirmed.invokeId false
        conservativeStructureType responseSize)
      { served with service := confirmed.service } confirmed.invokeId frameBytes responseSize
      workspaceSize
  | none =>
    match confirmed.filter fun _ => compatibilityErrorStatus served.status with
    | some confirmed =>
      rt.answer application (encodeObjectNotFoundConfirmedError confirmed.invokeId responseSize)
        { served with service := confirmed.service } confirmed.invokeId frameBytes responseSize
        workspaceSize
    | none =>
      rt.keep application
        (withApplication { status := .applicationRejected, consumedBytes := frameBytes } served
          served.invokeId)

/-- A request that the dispatcher has not answered. -/
def refuseCompat {α : Type} (application : α) (served : MmsStaticDispatchResult)
    (confirmed : Option MmsConfirmedPduView) (frameBytes responseSize workspaceSize : Nat) :
    ConnectionStep α :=
  match served.status with
  | .responseBufferTooSmall =>
    if rt.negotiatedMmsPduSize = 0 ∨ served.requiredBytes > rt.negotiatedMmsPduSize.toNat then
      rt.keep application { status := .peerLimitExceeded, consumedBytes := frameBytes }
    else rt.responseCapacity application served served.requiredBytes served.invokeId
  | .workspaceTooSmall =>
    rt.keep application
      (withApplication
        { status := .workspaceTooSmall, requiredWorkspaceBytes := served.requiredBytes } served
        served.invokeId)
  | .backendFailure | .invalidObjectTable =>
    rt.faulted application
      (withApplication { status := .backendFailure, consumedBytes := frameBytes } served
        served.invokeId)
  | _ => rt.rejectCompat application served confirmed frameBytes responseSize workspaceSize

/-- A request for the dispatcher. -/
def dispatchRequest {α : Type} (services : MmsStaticConnectionServices α) (application : α)
    (confirmed : Option MmsConfirmedPduView) (request : Bytes)
    (frameBytes responseSize workspaceSize : Nat) : ConnectionStep α :=
  let dispatched := services.dispatch application request responseSize workspaceSize
    rt.policy.accessContext
  if !dispatched.1.success then
    rt.refuseCompat dispatched.2 dispatched.1 confirmed frameBytes responseSize workspaceSize
  else
    rt.respond dispatched.2 dispatched.1 dispatched.1.invokeId dispatched.1.bytes frameBytes
      responseSize workspaceSize

/-- A confirmed request that neither the runtime nor the host answers. -/
def dispatchConfirmed {α : Type} (services : MmsStaticConnectionServices α) (application : α)
    (confirmed : MmsConfirmedPduView) (request : Bytes)
    (frameBytes responseSize workspaceSize : Nat) : ConnectionStep α :=
  let capacity := writeOuterCapacity confirmed services.maximumWriteVariables
    rt.mmsPresentationContextId rt.negotiatedTpduSizeBytes
  match capacity.bind fun capacity =>
      rt.writePreflight application capacity frameBytes responseSize workspaceSize with
  | some refused => refused
  | none =>
    rt.dispatchRequest services application (some confirmed) request frameBytes responseSize
      workspaceSize

/-- The host-owned services, if the policy has the callback. -/
def extend {α : Type} (services : MmsStaticConnectionServices α) (application : α)
    (confirmed : MmsConfirmedPduView) (responseSize : Nat) :
    MmsStaticConfirmedServiceExtensionResult × α :=
  match services.confirmedService with
  | some confirmedService => confirmedService application confirmed responseSize
  | none => ({}, application)

def identifyResponse (confirmed : MmsConfirmedPduView) (responseSize : Nat) : EncodeResult :=
  if !confirmed.serviceConstructed ∧ confirmed.serviceValue = [] then
    MmsPduSpanCodec.encodeIdentifyResponseInto confirmed.invokeId responseSize
  else encodeObjectNotFoundConfirmedError confirmed.invokeId responseSize

def fileDirectoryResponse (confirmed : MmsConfirmedPduView) (responseSize : Nat) : EncodeResult :=
  if confirmed.serviceConstructed then
    MmsPduSpanCodec.encodeConfirmedResponseInto confirmed.invokeId 77 true
      emptyFileDirectoryFields responseSize
  else encodeObjectNotFoundConfirmedError confirmed.invokeId responseSize

def processConfirmed {α : Type} (services : MmsStaticConnectionServices α) (application : α)
    (confirmed : MmsConfirmedPduView) (request : Bytes)
    (frameBytes responseSize workspaceSize : Nat) : ConnectionStep α :=
  let served : MmsStaticDispatchResult :=
    { status := .responseReady, service := confirmed.service }
  if request.length > rt.negotiatedMmsPduSize.toNat then
    rt.keep application { status := .peerLimitExceeded, consumedBytes := frameBytes }
  else if confirmed.service = .identify then
    rt.answer application (identifyResponse confirmed responseSize) served confirmed.invokeId
      frameBytes responseSize workspaceSize
  else
    let extension := extend services application confirmed responseSize
    if extension.1.handled then
      rt.answer extension.2 extension.1.encoded
        { served with
          status := if extension.1.encoded.success then .responseReady else .backendFailure }
        confirmed.invokeId frameBytes responseSize workspaceSize
    else if confirmed.service = .fileDirectory then
      rt.answer extension.2 (fileDirectoryResponse confirmed responseSize) served
        confirmed.invokeId frameBytes responseSize workspaceSize
    else
      rt.dispatchConfirmed services extension.2 confirmed request frameBytes responseSize
        workspaceSize

/-- A TSDU of an established association. -/
def processDataCompat {α : Type} (services : MmsStaticConnectionServices α) (application : α)
    (userData : Bytes) (frameBytes responseSize workspaceSize : Nat) : ConnectionStep α :=
  match rt.tryDecodeRequest userData with
  | none => rt.faulted application { status := .protocolViolation, consumedBytes := frameBytes }
  | some request =>
    if MmsPduSpanCodec.isConcludeRequest request then
      rt.answer application (MmsPduSpanCodec.encodeConcludeResponseInto responseSize)
        { status := .responseReady } 0 frameBytes responseSize workspaceSize
    else
      match MmsPduSpanCodec.tryDecodeConfirmedRequestView request with
      | none =>
        rt.dispatchRequest services application none request frameBytes responseSize workspaceSize
      | some confirmed =>
        rt.processConfirmed services application confirmed request frameBytes responseSize
          workspaceSize

/-- A TSDU. -/
def processTsdu {α : Type} (services : MmsStaticConnectionServices α) (application : α)
    (userData : Bytes) (frameBytes responseSize workspaceSize : Nat) : ConnectionStep α :=
  if rt.state = .awaitingAssociation then
    rt.processAssociation services application userData frameBytes responseSize workspaceSize
  else if rt.state ≠ .established then
    rt.faulted application { status := .protocolViolation, consumedBytes := frameBytes }
  else rt.processDataCompat services application userData frameBytes responseSize workspaceSize

end MmsStaticConnectionRuntime

/-! ## Reassembly -/

namespace MmsStaticConnectionRuntimeIedsim

variable (rt : MmsStaticConnectionRuntimeIedsim)

/-- Borrow the second half of the workspace; the workspace cannot change while it is borrowed. -/
def selectWorkspaceReassembly (workspace : Workspace) : Option CotpReassembly :=
  if workspace.size < 2 then none
  else
    match rt.reassembly.workspace with
    | some borrowed => if borrowed ≠ workspace then none else some rt.reassembly
    | none => some { rt.reassembly with workspace := some workspace }

/-- A Data TPDU once the TSDU is complete: a frame that is presented again. -/
def reassembleAgain (cotp : CotpTpduView) (frameBytes : Nat) (workspace : Workspace) :
    Reassembled :=
  if rt.reassembly.octets = [] ∨ !cotp.endOfTransmission then
    .violation .protocolViolation frameBytes
  else if rt.reassembly.workspace.isSome then
    match rt.selectWorkspaceReassembly workspace with
    | none => .violation .backendFailure 0
    | some reassembly =>
      if rt.reassembly.octets.length > workspace.size - workspace.size / 2 then
        .violation .backendFailure 0
      else .ready rt.reassembly.octets true reassembly (workspace.size / 2)
  else if rt.cotpReassembly = 0 ∨ rt.reassembly.octets.length > rt.cotpReassembly then
    .violation .backendFailure 0
  else .ready rt.reassembly.octets true rt.reassembly workspace.size

/-- Put the user data behind the octets of a buffer of this capacity. -/
def appendFragment (reassembly : CotpReassembly) (capacity : Nat) (cotp : CotpTpduView)
    (frameBytes workspaceSize : Nat) : Reassembled :=
  if reassembly.octets.length > capacity ∨
      cotp.userData.length > capacity - reassembly.octets.length then
    .violation .protocolViolation frameBytes
  else
    let octets := reassembly.octets ++ cotp.userData
    if !cotp.endOfTransmission then .stored { reassembly with octets }
    else .ready octets true { reassembly with octets, complete := true } workspaceSize

/-- One Data TPDU. -/
def reassemble (cotp : CotpTpduView) (frameBytes : Nat) (workspace : Workspace) : Reassembled :=
  if rt.reassembly.complete then rt.reassembleAgain cotp frameBytes workspace
  else if rt.reassembly.octets = [] ∧ cotp.endOfTransmission then
    .ready cotp.userData false rt.reassembly workspace.size
  else if rt.cotpReassembly ≠ 0 then
    appendFragment rt.reassembly rt.cotpReassembly cotp frameBytes workspace.size
  else if !rt.connection.policy.requireEndOfTransmission then
    .ready cotp.userData false rt.reassembly workspace.size
  else
    match rt.selectWorkspaceReassembly workspace with
    | none => .violation .backendFailure 0
    | some reassembly =>
      appendFragment reassembly (workspace.size - workspace.size / 2) cotp frameBytes
        (workspace.size / 2)

/-! ## One frame -/

/-- The runtime at fault holds no TSDU. -/
def faulted {α : Type} (application : α) (result : MmsStaticConnectionResult) : IedsimStep α :=
  let step := rt.connection.faulted application result
  { result := step.result
    runtime := { rt with connection := step.runtime, reassembly := {} }
    application }

def keep {α : Type} (application : α) (result : MmsStaticConnectionResult) : IedsimStep α :=
  { result := { result with state := rt.connection.state }, runtime := rt, application }

/-- A Data TPDU. What has consumed a reassembled TSDU forgets it, and so does a fault; the
association that cannot be answered returns before. -/
def processDataTpdu {α : Type} (services : MmsStaticConnectionServices α) (application : α)
    (cotp : CotpTpduView) (frameBytes responseSize : Nat) (workspace : Workspace) :
    IedsimStep α :=
  match rt.reassemble cotp frameBytes workspace with
  | .violation status consumedBytes => rt.faulted application { status, consumedBytes }
  | .stored reassembly =>
    { rt with reassembly }.keep application
      { status := .consumedNoResponse, consumedBytes := frameBytes }
  | .ready userData usingReassembly reassembly workspaceSize =>
    let step := rt.connection.processTsdu services application userData frameBytes responseSize
      workspaceSize
    let finished := rt.connection.state = .established ∨ step.result.status = .responseReady
    { result := step.result
      runtime :=
        { rt with
          connection := step.runtime
          reassembly :=
            if step.runtime.state = .fault ∨
                (finished ∧ usingReassembly ∧ step.result.consumedBytes ≠ 0) then {}
            else reassembly }
      application := step.application }

/-- A frame with a TPDU other than a disconnect request. -/
def processTpdu {α : Type} (services : MmsStaticConnectionServices α) (application : α)
    (cotp : CotpTpduView) (frameBytes responseSize : Nat) (workspace : Workspace) :
    IedsimStep α :=
  if rt.connection.state = .awaitingCotpConnect then
    let step := rt.connection.processConnect application cotp frameBytes responseSize
      workspace.size
    { result := step.result
      runtime :=
        { rt with
          connection := step.runtime
          reassembly := if cotp.kind ≠ .connectionRequest then {} else rt.reassembly }
      application := step.application }
  else if cotp.kind ≠ .data then
    rt.faulted application { status := .protocolViolation, consumedBytes := frameBytes }
  else rt.processDataTpdu services application cotp frameBytes responseSize workspace

def closeTransport (nowMs : UInt64) :
    MmsStaticConnectionRuntimeIedsim × Option AssociationClosed :=
  let closed := rt.connection.closeTransport nowMs
  ({ rt with connection := closed.1, reassembly := {} }, closed.2)

def reset (nowMs : UInt64) : MmsStaticConnectionRuntimeIedsim × Option AssociationClosed :=
  let cleared := rt.connection.reset nowMs
  ({ rt with connection := cleared.1, reassembly := {} }, cleared.2)

def processFrame {α : Type} (services : MmsStaticConnectionServices α) (application : α)
    (frame : Bytes) (responseSize : Nat) (workspace : Workspace) (nowMs : UInt64) :
    IedsimStep α :=
  match MmsStaticConnectionRuntime.tryDecodeFrame frame with
  | none =>
    rt.faulted application { status := .malformedTransport, consumedBytes := frame.length }
  | some cotp =>
    if cotp.kind = .disconnectRequest then
      let closed := rt.closeTransport nowMs
      { closed.1.keep application { status := .closed, consumedBytes := frame.length } with
        notified := closed.2 }
    else rt.processTpdu services application cotp frame.length responseSize workspace

/-- At most the first complete frame of a receive window. -/
def processTcpWindow {α : Type} (services : MmsStaticConnectionServices α) (application : α)
    (tcpBytes : Bytes) (responseSize : Nat) (workspace : Workspace) (nowMs : UInt64) :
    IedsimStep α :=
  if rt.connection.state = .closed then rt.keep application { status := .closed }
  else if rt.connection.state = .fault then rt.keep application { status := .protocolViolation }
  else
    let peek := TpktSpanCodec.peekFrame tcpBytes
    if peek.status = .needMore then rt.keep application { status := .needMore }
    else if peek.status ≠ .ready ∨ peek.frameBytes = 0 then
      rt.faulted application { status := .malformedTransport }
    else
      rt.processFrame services application (tcpBytes.take peek.frameBytes) responseSize workspace
        nowMs

end MmsStaticConnectionRuntimeIedsim

end ArStack.Mms
