import ArStack.Mms.StaticBrcbControl
import ArStack.Mms.StaticConnectionRuntime

/-!
# Buffered reports on a connection

`MmsStaticBrcbConnection`: a report is staged by `poll`, sent by the transport, and taken out of
the ring by `commit_sent`, which gets the result of the poll back.

* `stage` — the frames of one entry
* `poll`, `commitSent`
-/

namespace ArStack.Mms

open ArStack.Asn1 ArStack.Osi ArStack.Wire

inductive MmsStaticBrcbConnectionStatus where
  | noReportAvailable
  | reportingDisabled
  | responseReady
  | notEstablished
  | accessDenied
  | responseBufferTooSmall
  | workspaceTooSmall
  | peerLimitExceeded
  | frameEncodeFailed
  | staleEntry
  deriving DecidableEq

structure MmsStaticBrcbConnectionResult where
  status : MmsStaticBrcbConnectionStatus := .noReportAvailable
  /-- What the response is left with; its length is `bytes_written`. -/
  bytes : Bytes := []
  requiredResponseBytes : Nat := 0
  requiredWorkspaceBytes : Nat := 0
  entryId : Vector UInt8 entryIdBytes := .replicate entryIdBytes 0
  sequenceNumber : UInt8 := 0
  bufferOverflow : Bool := false
  deriving DecidableEq

namespace MmsStaticBrcbConnectionResult

def responseReady (result : MmsStaticBrcbConnectionResult) : Bool :=
  result.status == .responseReady

end MmsStaticBrcbConnectionResult

namespace MmsStaticBrcbConnection

/-- `make_result` with an entry. -/
def entryResult (status : MmsStaticBrcbConnectionStatus) (entry : MmsStaticBrcbEntryView) :
    MmsStaticBrcbConnectionResult where
  status := status
  entryId :=
    if h : entry.entryId.length = entryIdBytes then ⟨entry.entryId.toArray, h⟩
    else .replicate entryIdBytes 0
  sequenceNumber := entry.sequenceNumber
  bufferOverflow := entry.bufferOverflow

def sameOwner (left right : Bytes) : Bool := !left.isEmpty && left == right

/-- What `poll` does with the entry at the cursor. -/
def stage (connection : MmsStaticConnectionRuntime) (entry : MmsStaticBrcbEntryView)
    (responseSize workspaceSize : Nat) : MmsStaticBrcbConnectionResult :=
  let mmsLimit := connection.negotiatedMmsPduSize
  if mmsLimit = 0 ∨ entry.mmsPdu.length > mmsLimit.toNat then entryResult .peerLimitExceeded entry
  else
    let pData := PresentationSpanCodec.encodePDataInto entry.mmsPdu workspaceSize
      connection.mmsPresentationContextId true
    if !pData.success then
      if pData.status ≠ .bufferTooSmall then entryResult .frameEncodeFailed entry
      else
        match CotpTpktDataStreamSpanCodec.tryPlan pData.requiredBytes
            connection.negotiatedTpduSizeBytes with
        | none => entryResult .peerLimitExceeded entry
        | some plan =>
          { entryResult .workspaceTooSmall entry with
            requiredWorkspaceBytes := pData.requiredBytes
            requiredResponseBytes := plan.requiredBytes }
    else
      let framed := CotpTpktDataStreamSpanCodec.encodeInto pData.bytes
        connection.negotiatedTpduSizeBytes responseSize
      if !framed.success then
        if framed.status = .bufferTooSmall then
          { entryResult .responseBufferTooSmall entry with
            requiredResponseBytes := framed.requiredBytes }
        else entryResult .peerLimitExceeded entry
      else
        { entryResult .responseReady entry with
          bytes := framed.bytes
          requiredResponseBytes := framed.requiredBytes
          requiredWorkspaceBytes := pData.bytesWritten }

/-- The live reservation is the connection's. -/
def authorized (connection : MmsStaticConnectionRuntime) (valid : Bool)
    (state : MmsStaticBrcbControlStateView) : Bool :=
  let access := connection.policy.accessContext
  valid && state.reserved && state.ownerConnected && state.associationId != 0 &&
    access.associationId == state.associationId && sameOwner access.owner state.owner

def established (connection : MmsStaticConnectionRuntime) : Bool :=
  connection.state == .established && connection.mmsPresentationContextId != 0

def poll (connection : MmsStaticConnectionRuntime) (control : MmsStaticBrcbControl)
    (nowMs : UInt64) (responseSize workspaceSize : Nat) :
    MmsStaticBrcbConnectionResult × MmsStaticBrcbControl :=
  if !established connection then ({ status := .notEstablished }, control)
  else
    let (state, control) := control.state nowMs
    if !state.reportEnabled then ({ status := .reportingDisabled }, control)
    else if !authorized connection control.valid state then ({ status := .accessDenied }, control)
    else
      match control.reports.front with
      | none => ({ status := .noReportAvailable }, control)
      | some entry => (stage connection entry responseSize workspaceSize, control)

def commitSent (connection : MmsStaticConnectionRuntime) (control : MmsStaticBrcbControl)
    (nowMs : UInt64) (staged : MmsStaticBrcbConnectionResult) : Bool × MmsStaticBrcbControl :=
  if !staged.responseReady || !established connection || !control.valid then (false, control)
  else
    let (state, control) := control.state nowMs
    if !state.reportEnabled || !authorized connection control.valid state then (false, control)
    else
      let (status, reports) := control.reports.commitDelivery staged.entryId.toList
      (status == .ok, { control with reports := reports })

end MmsStaticBrcbConnection

end ArStack.Mms
