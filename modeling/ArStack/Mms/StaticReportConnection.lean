import ArStack.Mms.StaticConnectionRuntime
import ArStack.Mms.StaticUrcbRuntime

/-!
# Reports on a connection

`MmsStaticReportConnection::poll` encodes the report that is due, frames it and only then
commits it.

* `poll`
-/

namespace ArStack.Mms

open ArStack.Asn1 ArStack.Osi ArStack.Wire

inductive MmsStaticReportConnectionStatus where
  | noReportDue
  | responseReady
  | notEstablished
  | responseBufferTooSmall
  | workspaceTooSmall
  | reportEncodeFailed
  | stalePlan
  deriving DecidableEq

structure MmsStaticReportConnectionResult where
  status : MmsStaticReportConnectionStatus := .noReportDue
  urcbStatus : MmsStaticUrcbStatus := .noReportDue
  /-- What the response is left with; its length is `bytes_written`. -/
  bytes : Bytes := []
  requiredResponseBytes : Nat := 0
  requiredWorkspaceBytes : Nat := 0
  controlBlockIndex : Nat := sizeMax
  sequenceNumber : UInt8 := 0
  reason : MmsStaticUrcbReportReason := .none
  deriving DecidableEq

namespace MmsStaticReportConnection

/-- `make_result` with a plan. -/
def planResult (status : MmsStaticReportConnectionStatus) (urcbStatus : MmsStaticUrcbStatus)
    (plan : MmsStaticUrcbEmissionPlan) : MmsStaticReportConnectionResult :=
  { status, urcbStatus
    controlBlockIndex := plan.index
    sequenceNumber := plan.sequenceNumber
    reason := plan.reason }

def finalFrameSize (presentationContextId : UInt32) (mmsBytes negotiatedTpduSizeBytes : Nat) :
    Option Nat := do
  let fullyEncoded ← PresentationSpanCodec.fullyEncodedDataSize presentationContextId mmsBytes
  let plan ← CotpTpktDataStreamSpanCodec.tryPlan fullyEncoded negotiatedTpduSizeBytes
  some plan.requiredBytes

def responseCapacity (plan : MmsStaticUrcbEmissionPlan) (urcbStatus : MmsStaticUrcbStatus)
    (required : Nat) : MmsStaticReportConnectionResult :=
  { planResult .responseBufferTooSmall urcbStatus plan with requiredResponseBytes := required }

def workspaceCapacity (plan : MmsStaticUrcbEmissionPlan) (urcbStatus : MmsStaticUrcbStatus)
    (required : Nat) : MmsStaticReportConnectionResult :=
  { planResult .workspaceTooSmall urcbStatus plan with requiredWorkspaceBytes := required }

def encodeFailed (plan : MmsStaticUrcbEmissionPlan) (urcbStatus : MmsStaticUrcbStatus) :
    MmsStaticReportConnectionResult := planResult .reportEncodeFailed urcbStatus plan

/-- The result when the report itself could not be encoded. -/
def reportFailure (connection : MmsStaticConnectionRuntime) (plan : MmsStaticUrcbEmissionPlan)
    (encoded : MmsStaticUrcbEncodeResult) : MmsStaticReportConnectionResult :=
  if encoded.status = .responseBufferTooSmall then
    match finalFrameSize connection.mmsPresentationContextId encoded.requiredBytes
        connection.negotiatedTpduSizeBytes with
    | none => encodeFailed plan .reportEncodeFailed
    | some required => responseCapacity plan encoded.status required
  else if encoded.status = .workspaceTooSmall then
    workspaceCapacity plan encoded.status encoded.requiredBytes
  else encodeFailed plan encoded.status

/-- The result when the presentation layer could not be encoded. -/
def pDataFailure (connection : MmsStaticConnectionRuntime) (plan : MmsStaticUrcbEmissionPlan)
    (pData : EncodeResult) : MmsStaticReportConnectionResult :=
  if pData.status = .bufferTooSmall then
    match CotpTpktDataStreamSpanCodec.tryPlan pData.requiredBytes
        connection.negotiatedTpduSizeBytes with
    | none => encodeFailed plan .reportEncodeFailed
    | some streamPlan =>
      { workspaceCapacity plan .workspaceTooSmall pData.requiredBytes with
        requiredResponseBytes := streamPlan.requiredBytes }
  else encodeFailed plan .reportEncodeFailed

/-- The report and its frames, up to the commit. -/
def frame (connection : MmsStaticConnectionRuntime) (reports : MmsStaticUrcbRuntime)
    (plan : MmsStaticUrcbEmissionPlan) (reportTime : Bytes) (responseSize workspaceSize : Nat)
    (reads : ReadCallbacks) :
    Except MmsStaticReportConnectionResult (EncodeResult × EncodeResult) :=
  let encoded := reports.encode plan reportTime responseSize workspaceSize reads
  if !encoded.success then .error (reportFailure connection plan encoded)
  else
    let pData := PresentationSpanCodec.encodePDataInto encoded.bytes workspaceSize
      connection.mmsPresentationContextId true
    if !pData.success then .error (pDataFailure connection plan pData)
    else
      let framed := CotpTpktDataStreamSpanCodec.encodeInto pData.bytes
        connection.negotiatedTpduSizeBytes responseSize
      if framed.success then .ok (pData, framed)
      else if framed.status = .bufferTooSmall then
        .error (responseCapacity plan .responseBufferTooSmall framed.requiredBytes)
      else .error (encodeFailed plan .reportEncodeFailed)

def poll (connection : MmsStaticConnectionRuntime) (reports : MmsStaticUrcbRuntime)
    (nowMs : UInt64) (reportTime : Bytes) (responseSize workspaceSize : Nat)
    (reads : ReadCallbacks) : MmsStaticReportConnectionResult × MmsStaticUrcbRuntime :=
  if connection.state ≠ .established ∨ connection.mmsPresentationContextId = 0 then
    ({ status := .notEstablished, urcbStatus := .temporarilyUnavailable }, reports)
  else
    match reports.nextDue nowMs with
    | none =>
      ({ status := .noReportDue
         urcbStatus := if reports.initialized then .noReportDue else .invalidRuntime }, reports)
    | some plan =>
      match frame connection reports plan reportTime responseSize workspaceSize reads with
      | .error result => (result, reports)
      | .ok (pData, framed) =>
        -- a failure of any earlier stage has left the plan as it was
        let (committed, reports) := reports.commit plan nowMs
        if committed ≠ .ok then (planResult .stalePlan committed plan, reports)
        else
          ({ planResult .responseReady .ok plan with
             bytes := framed.bytes
             requiredResponseBytes := framed.requiredBytes
             requiredWorkspaceBytes := pData.bytesWritten }, reports)

end MmsStaticReportConnection

end ArStack.Mms
