import ArStack.Mms.InvokeRouter
import ArStack.Osi.Cotp
import ArStack.Osi.Tpkt

/-!
# Confirmed exchanges of the client association

`MmsAssociationRuntime` once it is associated: it sends confirmed requests, one or a window of
them, and receives application payloads until their results are there. The transport and the
stop token answer call by call from a script. Deadlines belong to the transport, which reports
their expiry, and the event log and the count of sent requests, which nothing reads, are left
out.

* `receiveApplicationPayload` — the next payload of the peer
* `routeReceivedPayload` — reports to their queue, the rest to the invoke router
* `exchangeConfirmed`, `exchangeConfirmedBatch`
-/

namespace ArStack.Mms

open ArStack.Osi

/-- The exceptions that the association tells apart. -/
inductive MmsAssociationFailure where
  | cancelled (message : String)
  | timeout (message : String)
  | error (message : String)
  deriving DecidableEq

def MmsAssociationFailure.message : MmsAssociationFailure → String
  | .cancelled message | .timeout message | .error message => message

/-- What the transport and the stop token answer; what is not in the script succeeds, but
nothing more is received. -/
structure MmsByteTransport where
  connected : Bool := true
  sends : List (Except MmsAssociationFailure Unit) := []
  receives : List (Except MmsAssociationFailure Bytes) := []
  stops : List Bool := []
  sent : List Bytes := []
  deriving DecidableEq

inductive MmsAssociationRuntimeState where
  | disconnected
  | transportConnecting
  | transportConnected
  | cotpConnecting
  | cotpConnected
  | acseAssociating
  | associated
  | closing
  | faulted
  deriving DecidableEq

structure MmsAssociationOptions where
  maximumReceiveChunksPerOperation : Nat := 4096
  maximumQueuedInformationReports : Nat := 1024
  deriving DecidableEq

structure MmsNegotiatedAssociation where
  tpduSizeCode : UInt8 := 0x0A
  maximumOutstandingCalling : Nat := 10
  deriving DecidableEq

structure MmsConfirmedExchangeResult where
  envelope : MmsPduEnvelope := {}
  presentationPayload : Bytes := []
  deriving DecidableEq

structure MmsConfirmedBatchRequest where
  presentationPayload : Bytes := []
  invokeId : Nat := 0
  deriving DecidableEq

/-- What an exchange receives from: the transport and the octets that were received. -/
structure MmsAssociationLine where
  transport : MmsByteTransport := {}
  tpktDecoder : TpktStreamDecoder := {}
  deriving DecidableEq

structure MmsAssociationRuntime extends MmsAssociationLine where
  options : MmsAssociationOptions := {}
  state : MmsAssociationRuntimeState := .disconnected
  negotiated : MmsNegotiatedAssociation := {}
  negotiatedOutstandingVerified : Bool := false
  invokeRouter : MmsInvokeRouter := {}
  informationReports : List Bytes := []
  nextInvokeId : Nat := 0
  remoteCotpReference : Nat := 0
  lastFault : String := ""
  deriving DecidableEq

/-- Code that throws and works on the line only. -/
abbrev LineM := EStateM MmsAssociationFailure MmsAssociationLine

/-- A member function that may throw. -/
abbrev AssociationM := EStateM MmsAssociationFailure MmsAssociationRuntime

/-- An exception of a codec. -/
def throwFormat {σ α : Type} : Except String α → EStateM MmsAssociationFailure σ α
  | .ok a => pure a
  | .error message => throw (.error message)

namespace MmsAssociationLine

def requireNotCancelled : LineM Unit := fun line =>
  match line.transport.stops with
  | [] => .ok () line
  | stop :: stops =>
    let line := { line with transport := { line.transport with stops } }
    if stop then .error (.cancelled "MMS association operation was cancelled.") line
    else .ok () line

def transportSend (bytes : Bytes) : LineM Unit := fun line =>
  let sent := line.transport.sent ++ [bytes]
  match line.transport.sends with
  | [] => .ok () { line with transport := { line.transport with sent } }
  | .ok () :: sends => .ok () { line with transport := { line.transport with sends, sent } }
  | .error failure :: sends =>
    .error failure { line with transport := { line.transport with sends } }

def transportReceive : LineM Bytes := fun line =>
  match line.transport.receives with
  | [] => .error (.timeout "MMS transport receive timed out.") line
  | .ok bytes :: receives => .ok bytes { line with transport := { line.transport with receives } }
  | .error failure :: receives =>
    .error failure { line with transport := { line.transport with receives } }

def sendTpktPayload (cotpPayload : Bytes) : LineM Unit := do
  requireNotCancelled
  let frame ← throwFormat (TpktFrameCodec.encode cotpPayload)
  transportSend frame

def sendApplicationPayload (tpduSizeCode : UInt8) (applicationPayload : Bytes) : LineM Unit := do
  let segments ← throwFormat (CotpFrameCodec.encodeDataSegments applicationPayload tpduSizeCode)
  segments.forM sendTpktPayload

/-- A TPDU received while an application payload is expected. -/
def appendTpdu (reassembler : CotpDataReassembler) (tpdu : CotpTpdu) :
    LineM CotpDataReassembler :=
  if tpdu.kind = .disconnectRequest then
    throw (.error "Remote endpoint requested COTP disconnect.")
  else if tpdu.kind = .error then
    throw (.error "Remote endpoint returned a COTP error TPDU.")
  else if tpdu.kind ≠ .data then
    throw (.error "Expected COTP Data TPDU while receiving an application payload.")
  else throwFormat (reassembler.append tpdu)

/-- Take the frames that are buffered, up to the end of the payload. Every frame has octets, so
that the fuel is never used up. -/
def takeFrames : Nat → CotpDataReassembler → LineM CotpDataReassembler
  | 0, reassembler => pure reassembler
  | fuel + 1, reassembler => do
    let line ← get
    let (frame, tpktDecoder) ← throwFormat line.tpktDecoder.tryPop
    match frame with
    | none => pure reassembler
    | some frame =>
      set { line with tpktDecoder }
      let tpdu ← throwFormat (CotpFrameCodec.tryDecode frame.payload)
      let reassembler ← appendTpdu reassembler tpdu
      if reassembler.isComplete then pure reassembler else takeFrames fuel reassembler

def receiveChunk : LineM Unit := do
  let bytes ← transportReceive
  if bytes = [] then throw (.error "MMS transport returned an empty receive chunk.")
  else
    let line ← get
    let tpktDecoder ← throwFormat (line.tpktDecoder.append bytes)
    set { line with tpktDecoder }

/-- The loop of `receive_application_payload` with this many chunks left. -/
def receiveChunks : Nat → CotpDataReassembler → LineM Bytes
  | chunks, reassembler => do
    requireNotCancelled
    let line ← get
    let reassembler ← takeFrames (line.tpktDecoder.bufferedBytes + 1) reassembler
    if reassembler.isComplete then throwFormat reassembler.complete
    else
      match chunks with
      | 0 =>
        throw (.error "MMS receive chunk limit exceeded before a complete COTP payload arrived.")
      | chunks + 1 =>
        receiveChunk
        receiveChunks chunks reassembler

def receiveApplicationPayload (maximumReceiveChunks : Nat) : LineM Bytes :=
  receiveChunks maximumReceiveChunks {}

end MmsAssociationLine

namespace MmsAssociationRuntime

section Queries

variable (rt : MmsAssociationRuntime)

def associated : Bool := rt.state == .associated

def verifiedOutstandingCalling : Nat :=
  if rt.negotiatedOutstandingVerified then rt.negotiated.maximumOutstandingCalling else 1

def requireAssociated : Except MmsAssociationFailure Unit :=
  if !rt.associated || !rt.transport.connected then .error (.error "MMS association is not active.")
  else .ok ()

/-- What every handler of an exchange does. -/
def fault (failure : MmsAssociationFailure) : MmsAssociationRuntime :=
  { rt with
    state := .faulted
    lastFault := failure.message
    transport := { rt.transport with connected := false }
    invokeRouter := rt.invokeRouter.clear
    informationReports := []
    tpktDecoder := { maximumBufferedBytes := rt.tpktDecoder.maximumBufferedBytes }
    remoteCotpReference := 0 }

def tryPopInformationReport : Option Bytes × MmsAssociationRuntime :=
  match rt.informationReports with
  | [] => (none, rt)
  | report :: informationReports => (some report, { rt with informationReports })

def takeInvokeId : Nat × MmsAssociationRuntime :=
  let current := if rt.nextInvokeId ≥ MmsPduCodec.maximumInvokeId then 0 else rt.nextInvokeId
  (current + 1, { rt with nextInvokeId := current + 1 })

end Queries

/-- Work on the line of the association. -/
def onLine {α : Type} (x : LineM α) : AssociationM α := fun rt =>
  match x rt.toMmsAssociationLine with
  | .ok a line => .ok a { rt with toMmsAssociationLine := line }
  | .error failure line => .error failure { rt with toMmsAssociationLine := line }

def sendApplicationPayload (applicationPayload : Bytes) : AssociationM Unit := do
  let rt ← get
  onLine (MmsAssociationLine.sendApplicationPayload rt.negotiated.tpduSizeCode applicationPayload)

def receiveApplicationPayload : AssociationM Bytes := do
  let rt ← get
  onLine (MmsAssociationLine.receiveApplicationPayload
    rt.options.maximumReceiveChunksPerOperation)

/-! ## Routing -/

def queueInformationReport (rt : MmsAssociationRuntime) (payload : Bytes) : MmsAssociationRuntime :=
  let informationReports :=
    if rt.informationReports.length ≥ rt.options.maximumQueuedInformationReports then
      rt.informationReports.drop 1
    else rt.informationReports
  { rt with informationReports := informationReports ++ [payload] }

def routeReceivedPayload (payload : Bytes) : AssociationM MmsPduEnvelope := do
  let envelope ← throwFormat (MmsPduCodec.decodeEnvelope payload)
  let rt ← get
  if envelope.informationReport then
    set (rt.queueInformationReport payload)
    pure envelope
  else
    let (_, invokeRouter) ← throwFormat (rt.invokeRouter.route payload)
    set { rt with invokeRouter }
    pure envelope

/-- Take a result out of the router. -/
def dequeue (invokeId : Nat) (missing : String) : AssociationM MmsPduEnvelope := fun rt =>
  match rt.invokeRouter.tryDequeue invokeId with
  | (none, _) => .error (.error missing) rt
  | (some envelope, invokeRouter) => .ok envelope { rt with invokeRouter }

/-- Nothing may be queued before a request is sent. -/
def requireNoOrphan (message : String) : AssociationM Unit := do
  let rt ← get
  if rt.invokeRouter.queuedConfirmedCount ≠ 0 then throw (.error message) else pure ()

/-- The `try` of an exchange and its handlers. -/
def guarded {α : Type} (body : AssociationM α) : AssociationM α := fun rt =>
  match body rt with
  | .ok a rt => .ok a rt
  | .error failure rt => .error failure (rt.fault failure)

/-! ## One request -/

def checkRequest (payload : Bytes) (invokeId : Nat) (mismatch : String) : Except String Unit := do
  let request ← MmsPduCodec.decodeEnvelope payload
  if request.kind ≠ .confirmedRequest ∨ !request.matchesInvoke invokeId then .error mismatch
  else .ok ()

def awaitResult (expectedInvokeId : Nat) : Nat → AssociationM MmsConfirmedExchangeResult
  | 0 => throw (.error "MMS confirmed exchange exceeded the bounded receive iteration count.")
  | iterations + 1 => do
    let received ← receiveApplicationPayload
    let envelope ← routeReceivedPayload received
    if envelope.confirmedResult && !envelope.matchesInvoke expectedInvokeId then
      throw (.error "Unexpected MMS confirmed result invoke ID in serial exchange.")
    else if envelope.confirmedResult then
      let matched ← dequeue expectedInvokeId
        "Matched MMS response was not available in the invoke router."
      pure { envelope := matched, presentationPayload := received }
    else awaitResult expectedInvokeId iterations

def exchangeConfirmed (payload : Bytes) (expectedInvokeId : Nat) :
    AssociationM MmsConfirmedExchangeResult := fun rt =>
  match rt.requireAssociated with
  | .error failure => .error failure rt
  | .ok () =>
    if expectedInvokeId = 0 ∨ expectedInvokeId > MmsPduCodec.maximumInvokeId then
      .error (.error "Expected MMS invoke ID is outside the supported range.") rt
    else
      match checkRequest payload expectedInvokeId
          "Confirmed exchange payload does not contain the expected invoke ID." with
      | .error message => .error (.error message) rt
      | .ok () =>
        guarded (do
          requireNoOrphan "Unsolicited queued MMS confirmed result before a new request."
          sendApplicationPayload payload
          awaitResult expectedInvokeId rt.options.maximumReceiveChunksPerOperation) rt

/-! ## A window of requests -/

def hardWindow : Nat := 8

def invokeIdValid (invokeId : Nat) : Bool :=
  invokeId != 0 && decide (invokeId ≤ MmsPduCodec.maximumInvokeId)

/-- The checks of the requests, which have these before them. -/
def checkRequests (before : List Nat) : List MmsConfirmedBatchRequest → Except String Unit
  | [] => .ok ()
  | request :: requests =>
    if !invokeIdValid request.invokeId || before.contains request.invokeId then
      .error "Confirmed MMS batch contains invalid or duplicate invoke ID."
    else do
      checkRequest request.presentationPayload request.invokeId
        "Confirmed MMS batch PDU does not match its invoke ID."
      checkRequests (request.invokeId :: before) requests

/-- What `exchange_confirmed_batch` checks before it sends anything. -/
def acceptBatch (rt : MmsAssociationRuntime) (requests : List MmsConfirmedBatchRequest) :
    Except MmsAssociationFailure Unit := do
  rt.requireAssociated
  if requests = [] ∨ requests.length > min hardWindow rt.verifiedOutstandingCalling then
    .error (.error "Confirmed MMS batch exceeds verified negotiated calling window.")
  else
    match checkRequests [] requests with
    | .error message => .error (.error message)
    | .ok () => .ok ()

/-- The slot of an invoke identifier. -/
def slotOf (requests : List MmsConfirmedBatchRequest) (invokeId : Option Nat) : Option Nat :=
  match invokeId with
  | none => none
  | some invokeId => requests.findIdx? (·.invokeId == invokeId)

def sendRequests : List MmsConfirmedBatchRequest → AssociationM Unit
  | [] => pure ()
  | request :: requests => do
    onLine MmsAssociationLine.requireNotCancelled
    sendApplicationPayload request.presentationPayload
    sendRequests requests

/-- The receive loop: the results so far by slot, and how many are missing. -/
def collectResults (requests : List MmsConfirmedBatchRequest) :
    Nat → List (Option MmsConfirmedExchangeResult) → Nat →
      AssociationM (List MmsConfirmedExchangeResult)
  | 0, _, _ => throw (.error "MMS batch exhausted bounded receive iteration budget.")
  | iterations + 1, completed, remaining => do
    let bytes ← receiveApplicationPayload
    let envelope ← routeReceivedPayload bytes
    if !envelope.confirmedResult then collectResults requests iterations completed remaining
    else
      match slotOf requests envelope.invokeId, envelope.invokeId with
      | some slot, some invokeId =>
        if (completed.getD slot none).isSome then
          throw (.error "Unregistered or duplicate confirmed MMS batch invoke ID.")
        else
          let matched ← dequeue invokeId
            "Batch response absent from authoritative invoke router."
          let completed := completed.set slot
            (some { envelope := matched, presentationPayload := bytes })
          if remaining - 1 = 0 then pure (completed.filterMap id)
          else collectResults requests iterations completed (remaining - 1)
      | _, _ => throw (.error "Unregistered or duplicate confirmed MMS batch invoke ID.")

def batchBody (requests : List MmsConfirmedBatchRequest) :
    AssociationM (List MmsConfirmedExchangeResult) := do
  requireNoOrphan "Orphan confirmed response before MMS batch send."
  sendRequests requests
  let rt ← get
  collectResults requests rt.options.maximumReceiveChunksPerOperation
    (List.replicate requests.length none) requests.length

def exchangeConfirmedBatch (requests : List MmsConfirmedBatchRequest) :
    AssociationM (List MmsConfirmedExchangeResult) := fun rt =>
  match rt.acceptBatch requests with
  | .error failure => .error failure rt
  | .ok () => guarded (batchBody requests) rt

end MmsAssociationRuntime

end ArStack.Mms
