import ArStack.Lib.Run
import ArStack.Mms.StaticConnectionRuntimeIedsim

/-!
# A TSDU in fragments is served as one in a single frame

* `Alike` — steps that differ at most in how many octets they consume
* `alike_processTsdu` — the length of the frame matters for nothing else
* `Filling`, `Due` — the reassembly buffer before the last fragment, and until it is consumed
* `fragments_transparent` — runs
-/

namespace ArStack.Mms

open ArStack.Wire ArStack.Osi ArStack.Lib

variable {α : Type}

def CapacityError (status : MmsStaticConnectionStatus) : Prop :=
  status = .responseBufferTooSmall ∨ status = .workspaceTooSmall

instance (status : MmsStaticConnectionStatus) : Decidable (CapacityError status) :=
  inferInstanceAs (Decidable (_ ∨ _))

/-! ## Frames of different length -/

/-- Results that differ at most in how many octets are consumed. -/
structure AlikeResult (a b : MmsStaticConnectionResult) : Prop where
  same : a = { b with consumedBytes := a.consumedBytes }
  consumed : a.consumedBytes = 0 ↔ b.consumedBytes = 0
  capacity : CapacityError a.status → a.consumedBytes = 0
  ready : a.status = .responseReady → a.consumedBytes ≠ 0

/-- Steps of a connection that differ at most in how many octets are consumed. -/
structure Alike (a b : ConnectionStep α) : Prop where
  result : AlikeResult a.result b.result
  runtime : a.runtime = b.runtime
  application : a.application = b.application
  capacity : CapacityError a.result.status → a.runtime.state ≠ .fault

theorem alikeResult_unconsumed {result : MmsStaticConnectionResult}
    (hconsumed : result.consumedBytes = 0) (hready : result.status ≠ .responseReady) :
    AlikeResult result result where
  same := rfl
  consumed := Iff.rfl
  capacity := fun _ => hconsumed
  ready := fun h => absurd h hready

theorem alikeResult_consumed {a b : MmsStaticConnectionResult} (ha : a.consumedBytes ≠ 0)
    (hb : b.consumedBytes ≠ 0) (hsame : a = { b with consumedBytes := a.consumedBytes })
    (hcapacity : ¬CapacityError a.status) : AlikeResult a b where
  same := hsame
  consumed := ⟨fun h => absurd h ha, fun h => absurd h hb⟩
  capacity := fun h => absurd h hcapacity
  ready := fun _ => ha

namespace AlikeResult

variable {a b : MmsStaticConnectionResult}

theorem status_eq (h : AlikeResult a b) : a.status = b.status := by rw [h.same]

theorem withState (h : AlikeResult a b) (state : MmsStaticConnectionState) :
    AlikeResult { a with state } { b with state } where
  same := by rw [h.same]
  consumed := h.consumed
  capacity := h.capacity
  ready := h.ready

theorem withApplication (h : AlikeResult a b) (served : MmsStaticDispatchResult)
    (invokeId : UInt32) :
    AlikeResult (MmsStaticConnectionRuntime.withApplication a served invokeId)
      (MmsStaticConnectionRuntime.withApplication b served invokeId) where
  same := by
    rw [h.same]
    rfl
  consumed := h.consumed
  capacity := h.capacity
  ready := h.ready

end AlikeResult

namespace MmsStaticConnectionRuntime

variable {rt : MmsStaticConnectionRuntime} {services : MmsStaticConnectionServices α}
  {application : α} {m n : Nat}

theorem alike_keep {a b : MmsStaticConnectionResult} (h : AlikeResult a b)
    (hstate : rt.state ≠ .fault) : Alike (rt.keep application a) (rt.keep application b) where
  result := h.withState rt.state
  runtime := rfl
  application := rfl
  capacity := fun _ => hstate

theorem alike_faulted {a b : MmsStaticConnectionResult} (h : AlikeResult a b)
    (hstatus : ¬CapacityError a.status) :
    Alike (rt.faulted application a) (rt.faulted application b) where
  result := h.withState .fault
  runtime := rfl
  application := rfl
  capacity := fun hcapacity => absurd hcapacity hstatus

theorem alike_backendFailure :
    Alike (rt.faulted application { status := .backendFailure })
      (rt.faulted application { status := .backendFailure }) :=
  alike_faulted (alikeResult_unconsumed rfl (by simp)) (by simp [CapacityError])

theorem alike_violation (hm : m ≠ 0) (hn : n ≠ 0) :
    Alike (rt.faulted application { status := .protocolViolation, consumedBytes := m })
      (rt.faulted application { status := .protocolViolation, consumedBytes := n }) :=
  alike_faulted (alikeResult_consumed hm hn rfl (by simp [CapacityError])) (by simp [CapacityError])

theorem alike_peerLimit (hm : m ≠ 0) (hn : n ≠ 0) (hstate : rt.state ≠ .fault) :
    Alike (rt.keep application { status := .peerLimitExceeded, consumedBytes := m })
      (rt.keep application { status := .peerLimitExceeded, consumedBytes := n }) :=
  alike_keep (alikeResult_consumed hm hn rfl (by simp [CapacityError])) hstate

theorem alikeResult_wrapCotpDataResponse (hm : m ≠ 0) (hn : n ≠ 0) (payload : Bytes)
    (state : MmsStaticConnectionState) (tpduSize responseSize : Nat) :
    AlikeResult (wrapCotpDataResponse payload m state tpduSize responseSize)
      (wrapCotpDataResponse payload n state tpduSize responseSize) := by
  unfold wrapCotpDataResponse
  dsimp only
  generalize CotpTpktDataStreamSpanCodec.encodeInto payload tpduSize responseSize = encoded
  by_cases hsuccess : encoded.success = true
  · rw [if_pos hsuccess, if_pos hsuccess]
    exact alikeResult_consumed hm hn rfl (by simp [CapacityError])
  · rw [if_neg hsuccess, if_neg hsuccess]
    by_cases hsmall : encoded.status = .bufferTooSmall
    · rw [if_pos hsmall, if_pos hsmall]
      exact alikeResult_unconsumed rfl (by simp)
    · rw [if_neg hsmall, if_neg hsmall]
      refine alikeResult_consumed hm hn rfl ?_
      split <;> simp [CapacityError]

theorem alikeResult_wrapMmsResponse (hm : m ≠ 0) (hn : n ≠ 0) {encoded : EncodeResult}
    {served : MmsStaticDispatchResult} {invokeId : UInt32} {responseSize workspaceSize : Nat} :
    AlikeResult (rt.wrapMmsResponse encoded served invokeId m responseSize workspaceSize)
      (rt.wrapMmsResponse encoded served invokeId n responseSize workspaceSize) := by
  have hfailure : AlikeResult { status := .backendFailure } { status := .backendFailure } :=
    alikeResult_unconsumed rfl (by simp)
  have hlimit : AlikeResult { status := .peerLimitExceeded, consumedBytes := m }
      { status := .peerLimitExceeded, consumedBytes := n } :=
    alikeResult_consumed hm hn rfl (by simp [CapacityError])
  unfold wrapMmsResponse
  dsimp only
  split
  · split
    · split
      · exact hlimit
      · split
        · exact AlikeResult.withApplication (alikeResult_unconsumed rfl (by simp)) served invokeId
        · exact hfailure
    · exact hfailure
  · split
    · exact hlimit
    · split
      · split
        · exact AlikeResult.withApplication (alikeResult_unconsumed rfl (by simp)) served invokeId
        · exact hfailure
      · have hwrapped := alikeResult_wrapCotpDataResponse hm hn
          (PresentationSpanCodec.encodePDataInto encoded.bytes workspaceSize
            rt.mmsPresentationContextId true).bytes rt.state rt.negotiatedTpduSizeBytes responseSize
        rw [hwrapped.status_eq]
        split
        · exact hwrapped.withApplication served invokeId
        · exact hwrapped

theorem alike_answer (hm : m ≠ 0) (hn : n ≠ 0) (hstate : rt.state ≠ .fault)
    {encoded : EncodeResult} {served : MmsStaticDispatchResult} {invokeId : UInt32}
    {responseSize workspaceSize : Nat} :
    Alike (rt.answer application encoded served invokeId m responseSize workspaceSize)
      (rt.answer application encoded served invokeId n responseSize workspaceSize) :=
  alike_keep (alikeResult_wrapMmsResponse hm hn) hstate

theorem alike_respond (hm : m ≠ 0) (hn : n ≠ 0) (hstate : rt.state ≠ .fault)
    {served : MmsStaticDispatchResult} {invokeId : UInt32} {mmsResponse : Bytes}
    {responseSize workspaceSize : Nat} :
    Alike (rt.respond application served invokeId mmsResponse m responseSize workspaceSize)
      (rt.respond application served invokeId mmsResponse n responseSize workspaceSize) := by
  unfold respond
  dsimp only
  split
  · exact alike_peerLimit hm hn hstate
  · split
    · split
      · exact alike_keep (alikeResult_unconsumed rfl (by simp)) hstate
      · exact alike_backendFailure
    · have hwrapped := alikeResult_wrapCotpDataResponse hm hn
        (PresentationSpanCodec.encodePDataInto mmsResponse workspaceSize
          rt.mmsPresentationContextId true).bytes rt.state rt.negotiatedTpduSizeBytes responseSize
      rw [hwrapped.status_eq]
      split
      · exact ⟨hwrapped.withApplication served invokeId, rfl, rfl, fun _ => hstate⟩
      · exact ⟨hwrapped, rfl, rfl, fun _ => hstate⟩

theorem alike_responseCapacity (hstate : rt.state ≠ .fault) {served : MmsStaticDispatchResult}
    {requiredBytes : Nat} {invokeId : UInt32} :
    Alike (rt.responseCapacity application served requiredBytes invokeId)
      (rt.responseCapacity application served requiredBytes invokeId) := by
  unfold responseCapacity
  split
  · exact alike_keep
      (AlikeResult.withApplication (alikeResult_unconsumed rfl (by simp)) served invokeId) hstate
  · exact alike_backendFailure

theorem alike_rejectCompat (hm : m ≠ 0) (hn : n ≠ 0) (hstate : rt.state ≠ .fault)
    {served : MmsStaticDispatchResult} {confirmed : Option MmsConfirmedPduView}
    {responseSize workspaceSize : Nat} :
    Alike (rt.rejectCompat application served confirmed m responseSize workspaceSize)
      (rt.rejectCompat application served confirmed n responseSize workspaceSize) := by
  unfold rejectCompat
  split
  · exact alike_answer hm hn hstate
  · split
    · exact alike_answer hm hn hstate
    · exact alike_keep (AlikeResult.withApplication
        (alikeResult_consumed hm hn rfl (by simp [CapacityError])) served served.invokeId) hstate

theorem alike_refuseCompat (hm : m ≠ 0) (hn : n ≠ 0) (hstate : rt.state ≠ .fault)
    {served : MmsStaticDispatchResult} {confirmed : Option MmsConfirmedPduView}
    {responseSize workspaceSize : Nat} :
    Alike (rt.refuseCompat application served confirmed m responseSize workspaceSize)
      (rt.refuseCompat application served confirmed n responseSize workspaceSize) := by
  unfold refuseCompat
  have hfailure : AlikeResult { status := .backendFailure, consumedBytes := m }
      { status := .backendFailure, consumedBytes := n } :=
    alikeResult_consumed hm hn rfl (by simp [CapacityError])
  split
  · split
    · exact alike_peerLimit hm hn hstate
    · exact alike_responseCapacity hstate
  · exact alike_keep (AlikeResult.withApplication (alikeResult_unconsumed rfl (by simp)) served
      served.invokeId) hstate
  · exact alike_faulted (hfailure.withApplication served served.invokeId)
      (by simp [CapacityError, withApplication])
  · exact alike_faulted (hfailure.withApplication served served.invokeId)
      (by simp [CapacityError, withApplication])
  · exact alike_rejectCompat hm hn hstate

theorem alike_dispatchRequest (hm : m ≠ 0) (hn : n ≠ 0) (hstate : rt.state ≠ .fault)
    {confirmed : Option MmsConfirmedPduView} {request : Bytes} {responseSize workspaceSize : Nat} :
    Alike
      (rt.dispatchRequest services application confirmed request m responseSize workspaceSize)
      (rt.dispatchRequest services application confirmed request n responseSize workspaceSize) := by
  unfold dispatchRequest
  dsimp only
  split
  · exact alike_refuseCompat hm hn hstate
  · exact alike_respond hm hn hstate

/-- A Write that is refused before it is executed, whatever the length. -/
theorem alike_writePreflight (hm : m ≠ 0) (hn : n ≠ 0) (hstate : rt.state ≠ .fault)
    (application : α) (capacity : WriteOuterCapacity) (responseSize workspaceSize : Nat) :
    (rt.writePreflight application capacity m responseSize workspaceSize = none ∧
      rt.writePreflight application capacity n responseSize workspaceSize = none) ∨
    ∃ a b, rt.writePreflight application capacity m responseSize workspaceSize = some a ∧
      rt.writePreflight application capacity n responseSize workspaceSize = some b ∧
      Alike a b := by
  unfold writePreflight
  split
  · exact .inr ⟨_, _, rfl, rfl, alike_peerLimit hm hn hstate⟩
  · split
    · exact .inr ⟨_, _, rfl, rfl, alike_keep (alikeResult_unconsumed rfl (by simp)) hstate⟩
    · split
      · exact .inr ⟨_, _, rfl, rfl, alike_keep (alikeResult_unconsumed rfl (by simp)) hstate⟩
      · exact .inl ⟨rfl, rfl⟩

theorem alike_dispatchConfirmed (hm : m ≠ 0) (hn : n ≠ 0) (hstate : rt.state ≠ .fault)
    {confirmed : MmsConfirmedPduView} {request : Bytes} {responseSize workspaceSize : Nat} :
    Alike
      (rt.dispatchConfirmed services application confirmed request m responseSize workspaceSize)
      (rt.dispatchConfirmed services application confirmed request n responseSize
        workspaceSize) := by
  unfold dispatchConfirmed
  dsimp only
  cases writeOuterCapacity confirmed services.maximumWriteVariables rt.mmsPresentationContextId
      rt.negotiatedTpduSizeBytes with
  | none => exact alike_dispatchRequest hm hn hstate
  | some capacity =>
    rw [Option.bind_some, Option.bind_some]
    rcases alike_writePreflight hm hn hstate application capacity responseSize workspaceSize with
      ⟨hnone, hnone'⟩ | ⟨a, b, hrefused, hrefused', halike⟩
    · rw [hnone, hnone']
      exact alike_dispatchRequest hm hn hstate
    · rw [hrefused, hrefused']
      exact halike

theorem alike_processConfirmed (hm : m ≠ 0) (hn : n ≠ 0) (hstate : rt.state ≠ .fault)
    {confirmed : MmsConfirmedPduView} {request : Bytes} {responseSize workspaceSize : Nat} :
    Alike
      (rt.processConfirmed services application confirmed request m responseSize workspaceSize)
      (rt.processConfirmed services application confirmed request n responseSize
        workspaceSize) := by
  unfold processConfirmed
  dsimp only
  split
  · exact alike_peerLimit hm hn hstate
  · split
    · exact alike_answer hm hn hstate
    · split
      · exact alike_answer hm hn hstate
      · split
        · exact alike_answer hm hn hstate
        · exact alike_dispatchConfirmed hm hn hstate

theorem alike_processDataCompat (hm : m ≠ 0) (hn : n ≠ 0) (hstate : rt.state ≠ .fault)
    {userData : Bytes} {responseSize workspaceSize : Nat} :
    Alike (rt.processDataCompat services application userData m responseSize workspaceSize)
      (rt.processDataCompat services application userData n responseSize workspaceSize) := by
  unfold processDataCompat
  split
  · exact alike_violation hm hn
  · split
    · exact alike_answer hm hn hstate
    · split
      · exact alike_dispatchRequest hm hn hstate
      · exact alike_processConfirmed hm hn hstate

theorem alike_processAssociation (hm : m ≠ 0) (hn : n ≠ 0) (hstate : rt.state ≠ .fault)
    {userData : Bytes} {responseSize workspaceSize : Nat} :
    Alike (rt.processAssociation services application userData m responseSize workspaceSize)
      (rt.processAssociation services application userData n responseSize workspaceSize) := by
  unfold processAssociation
  dsimp only
  split
  · exact alike_violation hm hn
  · split
    · exact alike_violation hm hn
    · split
      · exact alike_violation hm hn
      · split
        · exact alike_backendFailure
        · split
          · split
            · exact alike_keep (alikeResult_unconsumed rfl (by simp)) hstate
            · exact alike_backendFailure
          · rename_i association _ initiate _ _ _ _
            have hwrapped := alikeResult_wrapCotpDataResponse hm hn
              (services.buildAcceptResponseInto userData (initiateResponse initiate).bytes
                workspaceSize).bytes .established rt.negotiatedTpduSizeBytes responseSize
            rw [hwrapped.status_eq]
            split
            · exact ⟨hwrapped, rfl, rfl, fun _ => hstate⟩
            · exact ⟨hwrapped.withState .established, rfl, rfl, fun _ h => (by cases h)⟩

/-- **The length of the frame decides only how many octets are consumed.** -/
theorem alike_processTsdu (hm : m ≠ 0) (hn : n ≠ 0) (hstate : rt.state ≠ .fault)
    {userData : Bytes} {responseSize workspaceSize : Nat} :
    Alike (rt.processTsdu services application userData m responseSize workspaceSize)
      (rt.processTsdu services application userData n responseSize workspaceSize) := by
  unfold processTsdu
  split
  · exact alike_processAssociation hm hn hstate
  · split
    · exact alike_violation hm hn
    · exact alike_processDataCompat hm hn hstate

end MmsStaticConnectionRuntime

/-! ## Presentations -/

/-- A receive window, with what the caller lends for the call. -/
structure Presentation where
  tcpBytes : Bytes
  responseSize : Nat
  workspace : Workspace
  nowMs : UInt64 := 0

/-- The first frame of the window is a Data TPDU with this user data. -/
def Presentation.Carries (p : Presentation) (endOfTransmission : Bool) (userData : Bytes) : Prop :=
  ∃ frameBytes cotp, TpktSpanCodec.peekFrame p.tcpBytes = { status := .ready, frameBytes } ∧
    frameBytes ≠ 0 ∧
    MmsStaticConnectionRuntime.tryDecodeFrame (p.tcpBytes.take frameBytes) = some cotp ∧
    cotp.kind = .data ∧ cotp.endOfTransmission = endOfTransmission ∧ cotp.userData = userData

/-- The runtime and the application. -/
abbrev IedsimState (α : Type) := MmsStaticConnectionRuntimeIedsim × α

def present (services : MmsStaticConnectionServices α) (s : IedsimState α) (p : Presentation) :
    IedsimStep α :=
  s.1.processTcpWindow services s.2 p.tcpBytes p.responseSize p.workspace p.nowMs

def presented (services : MmsStaticConnectionServices α) (s : IedsimState α) (p : Presentation) :
    IedsimState α :=
  ((present services s p).runtime, (present services s p).application)

/-- The call has no response. -/
def Silent (services : MmsStaticConnectionServices α) (s : IedsimState α) (p : Presentation) : Prop :=
  (present services s p).result.bytes = []

/-- The call asks for more room. -/
def OutOfRoom (services : MmsStaticConnectionServices α) (s : IedsimState α) (p : Presentation) :
    Prop :=
  CapacityError (present services s p).result.status

/-- The response and the connection are the same. -/
structure SameOutcome (a b : IedsimStep α) : Prop where
  result : a.result = { b.result with consumedBytes := a.result.consumedBytes }
  connection : a.runtime.connection = b.runtime.connection
  application : a.application = b.application
  notified : a.notified = b.notified

theorem frameBytes_le {bytes : Bytes} {frameBytes : Nat}
    (h : TpktSpanCodec.peekFrame bytes = { status := .ready, frameBytes }) :
    frameBytes ≤ bytes.length := by
  unfold TpktSpanCodec.peekFrame at h
  dsimp only at h
  split at h
  · cases h
  · split at h
    · cases h
    · split at h
      · cases h
      · split at h
        · cases h
        · cases h
          omega

namespace MmsStaticConnectionRuntimeIedsim

variable (services : MmsStaticConnectionServices α) {s : IedsimState α} {p : Presentation}
  {endOfTransmission : Bool} {userData : Bytes}

/-- A Data TPDU on a transport connection. -/
theorem present_data (hcarries : p.Carries endOfTransmission userData)
    (hclosed : s.1.connection.state ≠ .closed) (hfault : s.1.connection.state ≠ .fault)
    (hconnect : s.1.connection.state ≠ .awaitingCotpConnect) :
    ∃ cotp frameBytes, frameBytes ≠ 0 ∧ cotp.endOfTransmission = endOfTransmission ∧
      cotp.userData = userData ∧
      present services s p =
        s.1.processDataTpdu services s.2 cotp frameBytes p.responseSize p.workspace := by
  obtain ⟨frameBytes, cotp, hpeek, hpos, hdecode, hkind, hend, hdata⟩ := hcarries
  have hlength : (p.tcpBytes.take frameBytes).length = frameBytes := by
    rw [List.length_take]
    exact Nat.min_eq_left (frameBytes_le hpeek)
  refine ⟨cotp, frameBytes, hpos, hend, hdata, ?_⟩
  rw [present, processTcpWindow, if_neg hclosed, if_neg hfault, hpeek]
  dsimp only
  rw [if_neg (by simp), if_neg (by simp [hpos]), processFrame, hdecode]
  dsimp only
  rw [if_neg (by simp [hkind]), processTpdu, if_neg hconnect, if_neg (by simp [hkind]), hlength]

/-- A Data TPDU before the transport connection is a violation. -/
theorem present_unconnected (hcarries : p.Carries endOfTransmission userData)
    (hconnect : s.1.connection.state = .awaitingCotpConnect) :
    ∃ frameBytes, (present services s p).result =
        { status := .protocolViolation, state := .fault, consumedBytes := frameBytes } ∧
      (present services s p).runtime.connection = { s.1.connection with state := .fault } ∧
      (present services s p).application = s.2 ∧ (present services s p).notified = none := by
  obtain ⟨frameBytes, cotp, hpeek, hpos, hdecode, hkind, -, -⟩ := hcarries
  refine ⟨(p.tcpBytes.take frameBytes).length, ?_⟩
  rw [present, processTcpWindow, if_neg (by simp [hconnect]), if_neg (by simp [hconnect]), hpeek]
  dsimp only
  rw [if_neg (by simp), if_neg (by simp [hpos]), processFrame, hdecode]
  dsimp only
  rw [if_neg (by simp [hkind]), processTpdu, if_pos hconnect,
    MmsStaticConnectionRuntime.processConnect, if_pos (by simp [hkind])]
  exact ⟨rfl, rfl, rfl, rfl⟩

/-- Once closed or at fault the runtime takes nothing. -/
theorem present_stopped
    (hstopped : s.1.connection.state = .closed ∨ s.1.connection.state = .fault) :
    ∃ status, ¬CapacityError status ∧ status ≠ .responseReady ∧
      ∀ (t : IedsimState α) (q : Presentation), t.1.connection.state = s.1.connection.state →
        present services t q = t.1.keep t.2 { status } := by
  rcases hstopped with hclosed | hfault
  · refine ⟨.closed, by simp [CapacityError], by simp, fun t q ht => ?_⟩
    rw [present, processTcpWindow, if_pos (ht.trans hclosed)]
  · refine ⟨.protocolViolation, by simp [CapacityError], by simp, fun t q ht => ?_⟩
    rw [present, processTcpWindow, if_neg (by simp [ht, hfault]), if_pos (ht.trans hfault)]

/-! ## The reassembly buffer -/

/-- The workspace that is left for the processing of a reassembled TSDU. -/
def processingSize (rt : MmsStaticConnectionRuntimeIedsim) (workspace : Workspace) : Nat :=
  if rt.cotpReassembly ≠ 0 then workspace.size else workspace.size / 2

/-- The reassembly buffer takes a TSDU of this size. -/
def Room (rt : MmsStaticConnectionRuntimeIedsim) (workspace : Workspace) (size : Nat) : Prop :=
  if rt.cotpReassembly ≠ 0 then size ≤ rt.cotpReassembly
  else 2 ≤ workspace.size ∧ size ≤ workspace.size - workspace.size / 2

/-- What the buffer holds after a fragment. -/
def joined (rt : MmsStaticConnectionRuntimeIedsim) (workspace : Workspace) (octets : Bytes)
    (complete : Bool) : CotpReassembly where
  octets
  complete
  workspace := if rt.cotpReassembly ≠ 0 then none else some workspace

/-- These octets of a TSDU have arrived. Without a buffer of its own the runtime borrows the
workspace, unless the policy has fragments served as they are. -/
structure Filling (rt : MmsStaticConnectionRuntimeIedsim) (workspace : Workspace)
    (octets : Bytes) : Prop where
  octets_eq : rt.reassembly.octets = octets
  incomplete : rt.reassembly.complete = false
  owned : rt.cotpReassembly ≠ 0 → rt.reassembly.workspace = none
  borrowed : rt.cotpReassembly = 0 →
    rt.connection.policy.requireEndOfTransmission = true ∧
      (rt.reassembly.workspace = none ∨ rt.reassembly.workspace = some workspace)

variable {rt : MmsStaticConnectionRuntimeIedsim} {workspace given : Workspace}
  {octets lastData tsdu : Bytes} {cotp : CotpTpduView} {frameBytes : Nat}

theorem appendFragment_eq {reassembly : CotpReassembly} {capacity workspaceSize : Nat}
    (hroom : reassembly.octets.length + cotp.userData.length ≤ capacity) :
    appendFragment reassembly capacity cotp frameBytes workspaceSize =
      if cotp.endOfTransmission then
        .ready (reassembly.octets ++ cotp.userData) true
          { reassembly with octets := reassembly.octets ++ cotp.userData, complete := true }
          workspaceSize
      else .stored { reassembly with octets := reassembly.octets ++ cotp.userData } := by
  rw [appendFragment, if_neg (by omega)]
  cases cotp.endOfTransmission <;> rfl

/-- A fragment goes behind the octets that have arrived. -/
theorem reassemble_fragment (h : Filling rt workspace octets)
    (hroom : Room rt workspace (octets ++ cotp.userData).length)
    (hmore : octets ≠ [] ∨ cotp.endOfTransmission = false)
    (hgiven : rt.cotpReassembly = 0 → given = workspace) :
    rt.reassemble cotp frameBytes given =
      if cotp.endOfTransmission then
        .ready (octets ++ cotp.userData) true (joined rt given (octets ++ cotp.userData) true)
          (processingSize rt given)
      else .stored (joined rt given (octets ++ cotp.userData) false) := by
  have hnot : ¬(rt.reassembly.octets = [] ∧ cotp.endOfTransmission = true) := by
    rw [h.octets_eq]
    rintro ⟨hnil, hend⟩
    rcases hmore with hne | hfalse
    · exact hne hnil
    · rw [hend] at hfalse
      cases hfalse
  rw [reassemble, if_neg (by simp [h.incomplete]), if_neg hnot]
  rw [Room, List.length_append] at hroom
  by_cases hown : rt.cotpReassembly = 0
  · obtain ⟨hrequire, hworkspace⟩ := h.borrowed hown
    rw [if_neg (not_not.mpr hown)] at hroom
    rw [if_neg (not_not.mpr hown), if_neg (by simp [hrequire]), hgiven hown]
    have hselect : rt.selectWorkspaceReassembly workspace =
        some { rt.reassembly with workspace := some workspace } := by
      rw [selectWorkspaceReassembly, if_neg (by omega)]
      rcases hworkspace with hnone | hsome
      · rw [hnone]
      · rw [hsome]
        dsimp only
        rw [if_neg (not_not.mpr rfl), ← hsome]
    rw [hselect]
    dsimp only
    rw [appendFragment_eq (by rw [h.octets_eq]; exact hroom.2), joined, joined, processingSize,
      if_neg (not_not.mpr hown), if_neg (not_not.mpr hown), h.octets_eq, h.incomplete]
  · rw [if_pos hown] at hroom
    rw [if_pos hown, appendFragment_eq (by rw [h.octets_eq]; exact hroom), joined, joined,
      processingSize, if_pos hown, if_pos hown, h.octets_eq, h.incomplete, h.owned hown]

/-- No TSDU is in progress. -/
def Empty (rt : MmsStaticConnectionRuntimeIedsim) : Prop :=
  rt.reassembly.octets = [] ∧ rt.reassembly.complete = false

/-- A TSDU in a single frame does not go through the buffer. -/
theorem reassemble_empty (frameBytes : Nat) (given : Workspace) (h : Empty rt)
    (hend : cotp.endOfTransmission = true) :
    rt.reassemble cotp frameBytes given = .ready cotp.userData false rt.reassembly given.size := by
  rw [reassemble, if_neg (by simp [h.2]), if_pos ⟨h.1, hend⟩]

/-- A TSDU is complete once the last fragment is there: in a frame of its own (`direct`), with
the octets of earlier ones, or kept from an earlier presentation of the last one. -/
inductive Due (rt : MmsStaticConnectionRuntimeIedsim) (workspace : Workspace)
    (lastData tsdu : Bytes) : Bool → Prop where
  | whole : Empty rt → lastData = tsdu → Due rt workspace lastData tsdu true
  | last {octets : Bytes} : Filling rt workspace octets → octets ≠ [] → octets ++ lastData = tsdu →
    Room rt workspace tsdu.length → Due rt workspace lastData tsdu false
  | again : rt.reassembly = joined rt workspace tsdu true → tsdu ≠ [] →
    Room rt workspace tsdu.length → Due rt workspace lastData tsdu false

def roomFor (rt : MmsStaticConnectionRuntimeIedsim) (direct : Bool) (workspace : Workspace) : Nat :=
  if direct then workspace.size else processingSize rt workspace

/-- **The last fragment makes the TSDU, and does so again.** -/
theorem reassemble_due {direct : Bool} (frameBytes : Nat) (h : Due rt workspace lastData tsdu direct)
    (hend : cotp.endOfTransmission = true) (hdata : cotp.userData = lastData)
    (hgiven : rt.cotpReassembly = 0 → given = workspace) :
    ∃ usingReassembly reassembly,
      rt.reassemble cotp frameBytes given =
        .ready tsdu usingReassembly reassembly (roomFor rt direct given) ∧
      (∀ connection, Due { rt with connection, reassembly } workspace lastData tsdu direct) ∧
      (usingReassembly = false → reassembly.octets = [] ∧ reassembly.complete = false) := by
  cases h with
  | whole hempty htsdu =>
    refine ⟨false, rt.reassembly, ?_, fun _ => .whole hempty htsdu, fun _ => hempty⟩
    rw [reassemble_empty frameBytes given hempty hend, hdata, htsdu]
    rfl
  | @last octets hfilling hne htsdu hroom =>
    have hgivenEq : joined rt given tsdu true = joined rt workspace tsdu true := by
      rw [joined, joined]
      split
      · rfl
      · rename_i hown
        rw [hgiven (not_not.mp hown)]
    refine ⟨true, joined rt workspace tsdu true, ?_, fun _ => .again rfl ?_ hroom, fun h => ?_⟩
    · rw [reassemble_fragment hfilling (by rw [hdata, htsdu]; exact hroom) (.inl hne) hgiven,
        if_pos hend, hdata, htsdu, hgivenEq]
      rfl
    · rw [← htsdu]
      exact List.append_ne_nil_of_left_ne_nil hne _
    · cases h
  | again hjoined hne hroom =>
    refine ⟨true, joined rt workspace tsdu true, ?_, fun _ => .again rfl hne hroom, fun h => ?_⟩
    · have hcomplete : rt.reassembly.complete = true := by rw [hjoined, joined]
      have hoctets : rt.reassembly.octets = tsdu := by rw [hjoined, joined]
      rw [reassemble, if_pos hcomplete, reassembleAgain, hoctets, if_neg (by simp [hne, hend])]
      rw [Room] at hroom
      by_cases hown : rt.cotpReassembly = 0
      · rw [if_neg (not_not.mpr hown)] at hroom
        have hworkspace : rt.reassembly.workspace = some workspace := by
          rw [hjoined, joined]
          exact if_neg (not_not.mpr hown)
        have hselect : rt.selectWorkspaceReassembly workspace = some rt.reassembly := by
          rw [selectWorkspaceReassembly, if_neg (by omega), hworkspace]
          dsimp only
          rw [if_neg (not_not.mpr rfl)]
        rw [if_pos (by rw [hworkspace]; rfl), hgiven hown, hselect]
        dsimp only
        rw [if_neg (by omega), hjoined, roomFor, processingSize, if_neg (not_not.mpr hown)]
        rfl
      · rw [if_pos hown] at hroom
        have hworkspace : rt.reassembly.workspace = none := by
          rw [hjoined, joined]
          exact if_pos hown
        rw [if_neg (by simp [hworkspace]), if_neg (by omega), hjoined, roomFor, processingSize,
          if_pos hown]
        rfl
    · cases h

/-! ## The last fragment -/

/-- A runtime with fragments and one with the unsplit TSDU ahead. -/
structure Abreast (s t : IedsimState α) (workspace : Workspace) (lastData tsdu : Bytes)
    (direct : Bool) : Prop where
  connection : s.1.connection = t.1.connection
  application : s.2 = t.2
  due : Due s.1 workspace lastData tsdu direct
  empty : Empty t.1

/-- The unsplit TSDU is presented as the last fragment is, with the workspace that is left. -/
structure Unsplit (rt : MmsStaticConnectionRuntimeIedsim) (direct : Bool) (p q : Presentation) :
    Prop where
  responseSize : q.responseSize = p.responseSize
  workspace : q.workspace.size = roomFor rt direct p.workspace

variable {t : IedsimState α} {q : Presentation} {direct : Bool}

/-- What both runtimes make of the TSDU. -/
theorem processDataTpdu_abreast (h : Abreast s t workspace lastData tsdu direct)
    (hopen : s.1.connection.state ≠ .fault)
    {lastCotp wholeCotp : CotpTpduView} {m n : Nat} (hm : m ≠ 0) (hn : n ≠ 0)
    (hend : lastCotp.endOfTransmission = true) (hdata : lastCotp.userData = lastData)
    (hend' : wholeCotp.endOfTransmission = true) (hdata' : wholeCotp.userData = tsdu)
    (hgiven : s.1.cotpReassembly = 0 → given = workspace) {responseSize : Nat}
    {room : Workspace} (hroom : room.size = roomFor s.1 direct given) :
    SameOutcome (s.1.processDataTpdu services s.2 lastCotp m responseSize given)
      (t.1.processDataTpdu services t.2 wholeCotp n responseSize room) ∧
    (s.1.processDataTpdu services s.2 lastCotp m responseSize given).runtime.cotpReassembly =
      s.1.cotpReassembly ∧
    (CapacityError (s.1.processDataTpdu services s.2 lastCotp m responseSize given).result.status →
      Abreast
        ((s.1.processDataTpdu services s.2 lastCotp m responseSize given).runtime,
          (s.1.processDataTpdu services s.2 lastCotp m responseSize given).application)
        ((t.1.processDataTpdu services t.2 wholeCotp n responseSize room).runtime,
          (t.1.processDataTpdu services t.2 wholeCotp n responseSize room).application)
        workspace lastData tsdu direct) ∧
    ((s.1.processDataTpdu services s.2 lastCotp m responseSize given).result.status =
        .responseReady →
      Empty (s.1.processDataTpdu services s.2 lastCotp m responseSize given).runtime) := by
  obtain ⟨usingReassembly, reassembly, hready, hdue, hdirect⟩ :=
    reassemble_due m h.due hend hdata hgiven
  have hwhole := reassemble_empty n room h.empty hend'
  rw [hdata', hroom] at hwhole
  have halike : Alike
      (s.1.connection.processTsdu services s.2 tsdu m responseSize (roomFor s.1 direct given))
      (s.1.connection.processTsdu services s.2 tsdu n responseSize (roomFor s.1 direct given)) :=
    MmsStaticConnectionRuntime.alike_processTsdu hm hn hopen
  unfold processDataTpdu
  rw [hready, hwhole, ← h.connection, ← h.application]
  dsimp only
  generalize s.1.connection.processTsdu services s.2 tsdu m responseSize (roomFor s.1 direct given)
    = a at halike ⊢
  generalize s.1.connection.processTsdu services s.2 tsdu n responseSize (roomFor s.1 direct given)
    = b at halike ⊢
  refine ⟨⟨halike.result.same, halike.runtime, halike.application, rfl⟩, rfl,
    fun hcapacity => ?_, fun hresponse => ?_⟩
  · have hconsumed := halike.result.capacity hcapacity
    have hfault := halike.capacity hcapacity
    refine ⟨halike.runtime, halike.application, ?_, ?_⟩
    · dsimp only
      rw [if_neg (by simp [hconsumed, hfault])]
      exact hdue a.runtime
    · show Empty { t.1 with connection := _, reassembly := ite _ _ _ }
      split
      · exact ⟨rfl, rfl⟩
      · exact h.empty
  · show Empty { s.1 with connection := _, reassembly := ite _ _ _ }
    split
    · exact ⟨rfl, rfl⟩
    · rename_i hkept
      rw [not_or, not_and] at hkept
      have hunused : usingReassembly = false := by
        cases husing : usingReassembly with
        | false => rfl
        | true =>
          exact absurd ⟨husing, halike.result.ready hresponse⟩ (hkept.2 (.inr hresponse))
      exact hdirect hunused

/-- **The last fragment is served as the unsplit TSDU.** -/
theorem present_abreast (h : Abreast s t workspace lastData tsdu direct)
    (hlast : p.Carries true lastData) (hwhole : q.Carries true tsdu)
    (hunsplit : Unsplit s.1 direct p q) (hgiven : s.1.cotpReassembly = 0 → p.workspace = workspace) :
    SameOutcome (present services s p) (present services t q) ∧
    (CapacityError (present services s p).result.status →
      Abreast (presented services s p) (presented services t q) workspace lastData tsdu direct ∧
        (presented services s p).1.cotpReassembly = s.1.cotpReassembly) ∧
    ((present services s p).result.status = .responseReady →
      Empty (present services s p).runtime) := by
  by_cases hstopped : s.1.connection.state = .closed ∨ s.1.connection.state = .fault
  · obtain ⟨status, hcapacity, hready, hpresent⟩ := present_stopped services hstopped
    rw [hpresent s p rfl, hpresent t q (by rw [h.connection])]
    refine ⟨⟨?_, h.connection, h.application, rfl⟩, fun hstatus => absurd hstatus hcapacity,
      fun hstatus => absurd hstatus hready⟩
    simp only [keep, h.connection]
  · rw [not_or] at hstopped
    by_cases hconnect : s.1.connection.state = .awaitingCotpConnect
    · obtain ⟨m, hresult, hconnection, happlication, hnotified⟩ :=
        present_unconnected services hlast hconnect
      obtain ⟨n, hresult', hconnection', happlication', hnotified'⟩ :=
        present_unconnected services (s := t) hwhole (h.connection ▸ hconnect)
      refine ⟨⟨?_, ?_, ?_, ?_⟩, fun hcapacity => ?_, fun hready => ?_⟩
      · rw [hresult, hresult']
      · rw [hconnection, hconnection', h.connection]
      · rw [happlication, happlication', h.application]
      · rw [hnotified, hnotified']
      · rw [hresult] at hcapacity
        simp [CapacityError] at hcapacity
      · rw [hresult] at hready
        cases hready
    · obtain ⟨lastCotp, m, hm, hend, hdata, hpresent⟩ := present_data services hlast
        hstopped.1 hstopped.2 hconnect
      obtain ⟨wholeCotp, n, hn, hend', hdata', hpresent'⟩ := present_data services (s := t) hwhole (h.connection ▸ hstopped.1) (h.connection ▸ hstopped.2)
        (h.connection ▸ hconnect)
      obtain ⟨houtcome, hpolicy, habreast, hempty⟩ := processDataTpdu_abreast services h hstopped.2 hm hn hend hdata hend' hdata' hgiven
        hunsplit.workspace
      rw [presented, presented, hpresent, hpresent', hunsplit.responseSize]
      exact ⟨houtcome, fun hcapacity => ⟨habreast hcapacity, hpolicy⟩, hempty⟩

/-- Presenting the last fragment again after capacity errors. -/
theorem present_again {ps : List Presentation} (h : Abreast s t workspace lastData tsdu direct)
    {unsplit : Presentation → Presentation}
    (hlast : ∀ p ∈ ps, p.Carries true lastData) (hwhole : ∀ p ∈ ps, (unsplit p).Carries true tsdu)
    (hunsplit : ∀ p ∈ ps, Unsplit s.1 direct p (unsplit p))
    (hgiven : s.1.cotpReassembly = 0 → ∀ p ∈ ps, p.workspace = workspace)
    (hcapacity : Along (presented services) (OutOfRoom services) s ps) :
    Abreast (exec (presented services) s ps) (exec (presented services) t (ps.map unsplit))
        workspace lastData tsdu direct ∧
      (exec (presented services) s ps).1.cotpReassembly = s.1.cotpReassembly := by
  induction ps generalizing s t with
  | nil => exact ⟨h, rfl⟩
  | cons p ps ih =>
    obtain ⟨-, hnext, -⟩ := present_abreast services h (hlast p List.mem_cons_self)
      (hwhole p List.mem_cons_self) (hunsplit p List.mem_cons_self)
      fun hown => hgiven hown p List.mem_cons_self
    obtain ⟨habreast, hpolicy⟩ := hnext hcapacity.1
    rw [List.map_cons, exec_cons, exec_cons, ← hpolicy]
    refine ih habreast (fun q hq => hlast q (List.mem_cons_of_mem p hq))
      (fun q hq => hwhole q (List.mem_cons_of_mem p hq)) (fun q hq => ?_)
      (fun hown q hq => hgiven (hpolicy ▸ hown) q (List.mem_cons_of_mem p hq)) hcapacity.2
    have hq' := hunsplit q (List.mem_cons_of_mem p hq)
    refine ⟨hq'.responseSize, ?_⟩
    rw [hq'.workspace, roomFor, roomFor, processingSize, processingSize, hpolicy]

/-! ## Earlier fragments -/

/-- A fragment with more to come is stored. -/
theorem present_fragment (h : Filling s.1 workspace octets)
    (hconnected : s.1.connection.state = .awaitingAssociation ∨
      s.1.connection.state = .established)
    (hfragment : p.Carries false userData)
    (hroom : Room s.1 workspace (octets ++ userData).length)
    (hgiven : s.1.cotpReassembly = 0 → p.workspace = workspace) :
    present services s p = { s.1 with
        reassembly := joined s.1 p.workspace (octets ++ userData) false }.keep s.2
      { status := .consumedNoResponse
        consumedBytes := (present services s p).result.consumedBytes } ∧
    Filling (presented services s p).1 workspace (octets ++ userData) := by
  obtain ⟨cotp, frameBytes, -, hend, hdata, hpresent⟩ := present_data services (s := s)
    hfragment (by rcases hconnected with hc | hc <;> simp [hc])
    (by rcases hconnected with hc | hc <;> simp [hc])
    (by rcases hconnected with hc | hc <;> simp [hc])
  have hstored : present services s p = { s.1 with
        reassembly := joined s.1 p.workspace (octets ++ userData) false }.keep s.2
      { status := .consumedNoResponse, consumedBytes := frameBytes } := by
    rw [hpresent, processDataTpdu, reassemble_fragment h (hdata ▸ hroom) (.inr hend) hgiven,
      if_neg (by simp [hend]), hdata]
  refine ⟨hstored.trans (by rw [hstored]; rfl), ?_⟩
  rw [presented, hstored]
  refine ⟨rfl, rfl, fun hown => if_pos hown, fun hown => ⟨(h.borrowed hown).1, .inr ?_⟩⟩
  have hborrowed : s.1.cotpReassembly = 0 := hown
  exact (if_neg (not_not.mpr hborrowed)).trans (by rw [hgiven hborrowed])

/-- What a runtime does when fragments come in. -/
structure Filled (services : MmsStaticConnectionServices α) (s : IedsimState α)
    (workspace : Workspace) (ps : List Presentation) (octets : Bytes) : Prop where
  silent : Along (presented services) (Silent services) s ps
  filling : Filling (exec (presented services) s ps).1 workspace octets
  connection : (exec (presented services) s ps).1.connection = s.1.connection
  application : (exec (presented services) s ps).2 = s.2
  policy : (exec (presented services) s ps).1.cotpReassembly = s.1.cotpReassembly

theorem filled {ps : List Presentation} {parts : List Bytes} {size : Nat}
    (h : Filling s.1 workspace octets)
    (hconnected : s.1.connection.state = .awaitingAssociation ∨
      s.1.connection.state = .established)
    (hfragments : List.Forall₂ (fun p part => p.Carries false part) ps parts)
    (hroom : Room s.1 workspace size) (hsize : (octets ++ parts.flatten).length ≤ size)
    (hgiven : s.1.cotpReassembly = 0 → ∀ p ∈ ps, p.workspace = workspace) :
    Filled services s workspace ps (octets ++ parts.flatten) := by
  induction hfragments generalizing s octets with
  | nil =>
    rw [List.flatten_nil, List.append_nil]
    exact ⟨trivial, h, rfl, rfl, rfl⟩
  | @cons p part ps parts hpart _ ih =>
    rw [List.flatten_cons, ← List.append_assoc] at hsize ⊢
    have hroomPart : Room s.1 workspace (octets ++ part).length := by
      rw [List.length_append] at hsize
      rw [Room] at hroom ⊢
      split at hroom
      · rename_i hown
        rw [if_pos hown]
        omega
      · rename_i hown
        rw [if_neg hown]
        omega
    obtain ⟨hstored, hfilling⟩ := present_fragment services h hconnected hpart
      hroomPart fun hown => hgiven hown p List.mem_cons_self
    have hruntime := congrArg IedsimStep.runtime hstored
    have happlication : (presented services s p).2 = s.2 := congrArg IedsimStep.application hstored
    have hconnection : (presented services s p).1.connection = s.1.connection := by
      rw [presented, hruntime]
      rfl
    have hpolicy : (presented services s p).1.cotpReassembly = s.1.cotpReassembly := by
      rw [presented, hruntime]
      rfl
    have hrest := ih hfilling (by rw [hconnection]; exact hconnected)
      (by rw [Room, hpolicy]; exact hroom) hsize
      fun hown q hq => hgiven (hpolicy ▸ hown) q (List.mem_cons_of_mem p hq)
    refine ⟨⟨?_, hrest.silent⟩, hrest.filling, hrest.connection.trans hconnection,
      hrest.application.trans happlication, hrest.policy.trans hpolicy⟩
    rw [Silent, hstored]
    rfl

/-- Fragments that come in when the runtime has stopped. -/
theorem stopped_run (ps : List Presentation)
    (hstopped : s.1.connection.state = .closed ∨ s.1.connection.state = .fault) :
    Along (presented services) (Silent services) s ps ∧
      (exec (presented services) s ps).1.connection = s.1.connection ∧
      (exec (presented services) s ps).2 = s.2 := by
  induction ps generalizing s with
  | nil => exact ⟨trivial, rfl, rfl⟩
  | cons p ps ih =>
    obtain ⟨status, -, -, hpresent⟩ := present_stopped services hstopped
    have hkeep := hpresent s p rfl
    have hs : presented services s p = s := by
      rw [presented, hkeep]
      rfl
    rw [exec_cons, hs]
    obtain ⟨hsilent, hrest⟩ := ih hstopped
    refine ⟨⟨?_, by rw [hs]; exact hsilent⟩, hrest⟩
    rw [Silent, hkeep]
    rfl

/-- The last fragment when the runtime has stopped or is not connected. -/
theorem present_unserved {ps : List Presentation} {parts : List Bytes}
    (hps : List.Forall₂ (fun p part => p.Carries false part) ps parts) (hne : ps ≠ [])
    (hunconnected : s.1.connection.state = .closed ∨ s.1.connection.state = .fault ∨
      s.1.connection.state = .awaitingCotpConnect)
    (hwhole : q.Carries true tsdu) :
    Along (presented services) (Silent services) s ps ∧
      SameOutcome (present services (exec (presented services) s ps) p) (present services s q) ∧
      ¬CapacityError (present services (exec (presented services) s ps) p).result.status ∧
      (present services (exec (presented services) s ps) p).result.status ≠ .responseReady := by
  by_cases hconnect : s.1.connection.state = .awaitingCotpConnect
  · cases hps with
    | nil => exact absurd rfl hne
    | @cons first _ rest _ hfirst _ =>
      obtain ⟨m, hresult, hconnection, happlication, -⟩ :=
        present_unconnected services hfirst hconnect
      obtain ⟨n, hresult', hconnection', happlication', hnotified'⟩ :=
        present_unconnected services hwhole hconnect
      have hfault : (presented services s first).1.connection.state = .fault := by
        rw [presented, hconnection]
      obtain ⟨hsilent, hrest, hrestApplication⟩ := stopped_run services rest
        (.inr hfault)
      rw [exec_cons]
      have hrestFault : (exec (presented services) (presented services s first) rest).1.connection =
          { s.1.connection with state := .fault } := hrest.trans hconnection
      generalize exec (presented services) (presented services s first) rest = u at *
      have hlast : present services u p = u.1.keep u.2 { status := .protocolViolation } := by
        rw [present, processTcpWindow, if_neg (by simp [hrestFault]), if_pos (by simp [hrestFault])]
      rw [hlast]
      refine ⟨⟨by rw [Silent, hresult], hsilent⟩, ⟨?_, ?_, ?_, hnotified'.symm⟩, by simp [keep, CapacityError],
        by simp [keep]⟩
      · rw [hresult']
        simp only [keep, hrestFault]
      · rw [hconnection']
        exact hrestFault
      · rw [happlication']
        exact hrestApplication.trans happlication
  · have hstopped : s.1.connection.state = .closed ∨ s.1.connection.state = .fault := by
      rcases hunconnected with h | h | h
      · exact .inl h
      · exact .inr h
      · exact absurd h hconnect
    obtain ⟨hsilent, hrest, hrestApplication⟩ := stopped_run services ps hstopped
    obtain ⟨status, hcapacity, hready, hpresent⟩ := present_stopped services hstopped
    rw [hpresent _ p (congrArg _ hrest), hpresent s q rfl]
    exact ⟨hsilent, ⟨by simp only [keep, hrest], hrest, hrestApplication, rfl⟩, hcapacity, hready⟩

/-! ## Transparency -/

/-- **A TSDU in fragments is served as one in a single frame**, and after a capacity error again:
the fragments are silent, and the last one, presented as often as it takes, has the response and
leaves the connection and the application of the unsplit TSDU in the workspace that is left. -/
theorem fragments_transparent {services : MmsStaticConnectionServices α}
    {rt : MmsStaticConnectionRuntimeIedsim} {application : α} {workspace : Workspace}
    {earlier retries : List Presentation} {last : Presentation} {parts : List Bytes}
    {lastData : Bytes} {unsplit : Presentation → Presentation}
    (hidle : Filling rt workspace [])
    (hearlier : List.Forall₂ (fun p part => p.Carries false part) earlier parts)
    (hlast : ∀ p ∈ retries ++ [last], p.Carries true lastData)
    (hwhole : ∀ p ∈ retries ++ [last], (unsplit p).Carries true (parts.flatten ++ lastData))
    (hunsplit : ∀ p ∈ retries ++ [last],
      Unsplit rt (decide (parts.flatten = [])) p (unsplit p))
    (hfits : Room rt workspace (parts.flatten ++ lastData).length)
    (hgiven : rt.cotpReassembly = 0 →
      ∀ p ∈ earlier ++ (retries ++ [last]), p.workspace = workspace)
    (hcapacity : Along (presented services) (OutOfRoom services)
      (exec (presented services) (rt, application) earlier) retries) :
    Along (presented services) (Silent services)
        (rt, application) earlier ∧
      SameOutcome
        (present services
          (exec (presented services) (rt, application) (earlier ++ retries)) last)
        (present services
          (exec (presented services) (rt, application) (retries.map unsplit)) (unsplit last)) ∧
      ((present services
          (exec (presented services) (rt, application) (earlier ++ retries)) last).result.status =
            .responseReady →
        Empty (present services
          (exec (presented services) (rt, application) (earlier ++ retries)) last).runtime) := by
  have hmem : last ∈ retries ++ [last] := List.mem_append_right _ (List.mem_singleton.mpr rfl)
  rw [exec_append]
  by_cases hserved : earlier = [] ∨ rt.connection.state = .awaitingAssociation ∨
      rt.connection.state = .established
  · -- The fragments fill the buffer; from then on the two runtimes are abreast.
    have hfilled : Filled services (rt, application) workspace earlier parts.flatten := by
      rcases hserved with hnone | hconnected
      · subst hnone
        cases hearlier
        exact ⟨trivial, hidle, rfl, rfl, rfl⟩
      · have hall := filled services (s := (rt, application)) hidle hconnected
          hearlier hfits (by rw [List.nil_append, List.length_append]; omega)
          fun hown p hp => hgiven hown p (List.mem_append_left _ hp)
        rwa [List.nil_append] at hall
    have habreast : Abreast (exec (presented services) (rt, application) earlier)
        (rt, application) workspace lastData (parts.flatten ++ lastData)
        (decide (parts.flatten = [])) := by
      refine ⟨hfilled.connection, hfilled.application, ?_, hidle.octets_eq, hidle.incomplete⟩
      by_cases hnil : parts.flatten = []
      · rw [decide_eq_true hnil, hnil]
        exact .whole ⟨hnil ▸ hfilled.filling.octets_eq, hfilled.filling.incomplete⟩ rfl
      · rw [decide_eq_false hnil]
        refine .last hfilled.filling hnil rfl ?_
        rw [Room, hfilled.policy]
        exact hfits
    have hunsplit' : ∀ p ∈ retries ++ [last],
        Unsplit (exec (presented services) (rt, application) earlier).1
          (decide (parts.flatten = [])) p (unsplit p) := by
      intro p hp
      refine ⟨(hunsplit p hp).responseSize, ?_⟩
      rw [(hunsplit p hp).workspace, roomFor, roomFor, processingSize, processingSize,
        hfilled.policy]
    have hgiven' : (exec (presented services) (rt, application) earlier).1.cotpReassembly = 0 →
        ∀ p ∈ retries ++ [last], p.workspace = workspace := fun hown p hp =>
      hgiven (hfilled.policy ▸ hown) p (List.mem_append_right _ hp)
    obtain ⟨hagain, hpolicy⟩ := present_again services habreast
      (fun p hp => hlast p (List.mem_append_left _ hp))
      (fun p hp => hwhole p (List.mem_append_left _ hp))
      (fun p hp => hunsplit' p (List.mem_append_left _ hp))
      (fun hown p hp => hgiven' hown p (List.mem_append_left _ hp)) hcapacity
    have hunsplitLast : Unsplit
        (exec (presented services) (exec (presented services) (rt, application) earlier) retries).1
        (decide (parts.flatten = [])) last (unsplit last) := by
      refine ⟨(hunsplit' last hmem).responseSize, ?_⟩
      rw [(hunsplit' last hmem).workspace, roomFor, roomFor, processingSize, processingSize, hpolicy]
    obtain ⟨houtcome, -, hempty⟩ := present_abreast services hagain
      (hlast last hmem) (hwhole last hmem) hunsplitLast
      fun hown => hgiven' (hpolicy ▸ hown) last hmem
    exact ⟨hfilled.silent, houtcome, hempty⟩
  · -- Not connected, the first fragment already stops the runtime.
    rw [not_or, not_or] at hserved
    have hunconnected : rt.connection.state = .closed ∨ rt.connection.state = .fault ∨
        rt.connection.state = .awaitingCotpConnect := by
      cases hstate : rt.connection.state with
      | awaitingCotpConnect => exact .inr (.inr rfl)
      | awaitingAssociation => exact absurd hstate hserved.2.1
      | established => exact absurd hstate hserved.2.2
      | closed => exact .inl rfl
      | fault => exact .inr (.inl rfl)
    have hunserved (p : Presentation) := present_unserved services
      (s := (rt, application)) (p := p) hearlier hserved.1 hunconnected (hwhole last hmem)
    have hretries : retries = [] := by
      cases retries with
      | nil => rfl
      | cons p ps => exact absurd hcapacity.1 (hunserved p).2.2.1
    subst hretries
    obtain ⟨hsilent, houtcome, -, hready⟩ := hunserved last
    exact ⟨hsilent, houtcome, fun h => absurd h hready⟩

/-! ## A Conclude request in two fragments -/

/-- P-DATA with a Conclude request. -/
def concludeTsdu : Bytes :=
  [0x01, 0x00, 0x01, 0x00, 0x61, 0x09, 0x30, 0x07, 0x02, 0x01, 0x03, 0xA0, 0x02, 0x8B, 0x00]

/-- A short TPKT frame with a Data TPDU. -/
def dataFrame (endOfTransmission : Bool) (userData : Bytes) : Bytes :=
  [0x03, 0x00, 0x00, UInt8.ofNat (userData.length + 7), 0x02, 0xF0,
    if endOfTransmission then 0x80 else 0x00] ++ userData

theorem carries_dataFrame (endOfTransmission : Bool) {userData : Bytes}
    (h : userData.length ≤ 248) {p : Presentation}
    (hbytes : p.tcpBytes = dataFrame endOfTransmission userData) :
    p.Carries endOfTransmission userData := by
  have hlength : (dataFrame endOfTransmission userData).length = userData.length + 7 := by
    rw [dataFrame, List.length_append]
    exact Nat.add_comm _ _
  have hdeclared : readAt (dataFrame endOfTransmission userData) 2 2 = userData.length + 7 := by
    show beValue [0x00, UInt8.ofNat (userData.length + 7)] = _
    rw [← List.singleton_append, beValue_concat]
    show 0 * 256 + (userData.length + 7) % 256 = _
    omega
  have hpeek : TpktSpanCodec.peekFrame (dataFrame endOfTransmission userData) =
      { status := .ready, frameBytes := userData.length + 7 } := by
    rw [TpktSpanCodec.peekFrame, hdeclared, hlength, if_neg (by rw [TpktSpanCodec.headerLength]; omega)]
    have hversion : ¬(octetAt (dataFrame endOfTransmission userData) 0 ≠
        TpktSpanCodec.supportedVersion ∨ octetAt (dataFrame endOfTransmission userData) 1 ≠ 0x00) := by
      rintro (h | h)
      · exact h rfl
      · exact h rfl
    rw [if_neg hversion]
    dsimp only
    rw [if_neg (by rw [TpktSpanCodec.headerLength]; omega), if_neg (by omega)]
  have hdecode : MmsStaticConnectionRuntime.tryDecodeFrame (dataFrame endOfTransmission userData) =
      some { kind := .data, code := 0xF0, lengthIndicator := 2, endOfTransmission, userData } := by
    rw [MmsStaticConnectionRuntime.tryDecodeFrame, TpktSpanCodec.tryDecodeView, hpeek, hlength]
    rw [if_neg (by simp [TpktPeekResult.ready])]
    show CotpSpanCodec.tryDecodeView
      ([0x02, 0xF0, if endOfTransmission then 0x80 else 0x00] ++ userData) = _
    have hkind : CotpFrameCodec.kindFromCode (octetAt
        ([0x02, 0xF0, if endOfTransmission then 0x80 else 0x00] ++ userData) 1) = .data :=
      (by decide : CotpFrameCodec.kindFromCode 0xF0 = .data)
    rw [CotpSpanCodec.tryDecodeView, if_neg (by simp), if_neg (by simp [octetAt]), hkind]
    show CotpSpanCodec.tryDecodeData _ = _
    rw [CotpSpanCodec.tryDecodeData, if_neg (by simp [octetAt])]
    cases endOfTransmission with
    | false => simp [octetAt]
    | true => simp [octetAt, (by decide : (0x80 : UInt8) &&& 0x7F = 0)]
  refine ⟨userData.length + 7,
    { kind := .data, code := 0xF0, lengthIndicator := 2, endOfTransmission, userData },
    hbytes ▸ hpeek, by omega, ?_, rfl, rfl, rfl⟩
  rw [hbytes, List.take_of_length_le (Nat.le_of_eq hlength)]
  exact hdecode

/-- An application that is not asked. -/
def unaskedServices : MmsStaticConnectionServices Unit where
  tryDecodeAssociationRequestView := fun _ => none
  buildAcceptResponseInto := fun _ _ _ => {}
  confirmedService := none
  maximumWriteVariables := 1
  dispatch := fun application _ _ _ _ => ({}, application)

def establishedRuntime (cotpReassembly : Nat) : MmsStaticConnectionRuntimeIedsim where
  connection :=
    { state := .established
      mmsPresentationContextId := 3
      negotiatedTpduSizeBytes := 1024
      negotiatedMmsPduSize := 65000
      associationActive := true }
  cotpReassembly

def presentation (tcpBytes : Bytes) (responseSize workspaceSize : Nat) : Presentation :=
  { tcpBytes, responseSize, workspace := { size := workspaceSize } }

def firstPart : Presentation := presentation (dataFrame false (concludeTsdu.take 7)) 8 100

def lastPart (responseSize : Nat) : Presentation :=
  presentation (dataFrame true (concludeTsdu.drop 7)) responseSize 100

def inOneFrame (p : Presentation) : Presentation :=
  { p with tcpBytes := dataFrame true concludeTsdu }

/-- A response that finds no room at first. -/
theorem fragments_transparent_sample :
    SameOutcome
      (present unaskedServices (exec (presented unaskedServices) (establishedRuntime 64, ())
        ([firstPart] ++ [lastPart 8])) (lastPart 100))
      (present unaskedServices (exec (presented unaskedServices) (establishedRuntime 64, ())
        ([lastPart 8].map inOneFrame)) (inOneFrame (lastPart 100))) := by
  have hidle : Filling (establishedRuntime 64) {} [] :=
    ⟨rfl, rfl, fun _ => rfl, fun h => (by cases h)⟩
  have hfits : Room (establishedRuntime 64) {}
      ([concludeTsdu.take 7].flatten ++ concludeTsdu.drop 7).length := by
    simp [Room, establishedRuntime, concludeTsdu]
  have hearlier : List.Forall₂ (fun p part => p.Carries false part) [firstPart]
      [concludeTsdu.take 7] := .cons (carries_dataFrame false (by decide) rfl) .nil
  have hlast : ∀ p ∈ [lastPart 8] ++ [lastPart 100], p.Carries true (concludeTsdu.drop 7) := by
    intro p hp
    rcases List.mem_cons.mp hp with rfl | hp
    · exact carries_dataFrame true (by decide) rfl
    · rw [List.mem_singleton.mp hp]
      exact carries_dataFrame true (by decide) rfl
  have hwhole : ∀ p ∈ [lastPart 8] ++ [lastPart 100], (inOneFrame p).Carries true
      ([concludeTsdu.take 7].flatten ++ concludeTsdu.drop 7) :=
    fun p _ => carries_dataFrame true (by decide) rfl
  refine (fragments_transparent hidle hearlier hlast hwhole (fun p _ => ⟨rfl, rfl⟩) hfits
    (fun h => (by cases h)) ?_).2.1
  exact ⟨.inl (by decide), trivial⟩

/-- The workspace that is borrowed for the fragments is missing for the response. -/
theorem fragments_opaque :
    Filling (establishedRuntime 0) { size := 29 } [] ∧
      Room (establishedRuntime 0) { size := 29 } concludeTsdu.length ∧
      (presentation (dataFrame false (concludeTsdu.take 7)) 100 29).Carries false
        (concludeTsdu.take 7) ∧
      (presentation (dataFrame true (concludeTsdu.drop 7)) 100 29).Carries true
        (concludeTsdu.drop 7) ∧
      (presentation (dataFrame true concludeTsdu) 100 29).Carries true concludeTsdu ∧
      (present unaskedServices
          (presented unaskedServices (establishedRuntime 0, ())
            (presentation (dataFrame false (concludeTsdu.take 7)) 100 29))
          (presentation (dataFrame true (concludeTsdu.drop 7)) 100 29)).result.status =
        .workspaceTooSmall ∧
      (present unaskedServices (establishedRuntime 0, ())
          (presentation (dataFrame true concludeTsdu) 100 29)).result.status = .responseReady := by
  refine ⟨⟨rfl, rfl, fun h => absurd rfl h, fun _ => ⟨rfl, .inl rfl⟩⟩,
    by simp [Room, establishedRuntime, concludeTsdu],
    carries_dataFrame false (by decide) rfl, carries_dataFrame true (by decide) rfl,
    carries_dataFrame true (by decide) rfl, by decide, by decide⟩

end MmsStaticConnectionRuntimeIedsim

end ArStack.Mms
