import ArStack.Mms.StaticServerSession

/-!
# An association is reported closed once

* `WindowStep` — what a frame does to a connection
* `Lifecycle` — an association is open in an established connection or one at fault
* `openAfter` — establishments and reports alternate
* `association_closed_once` — runs of a connection and runs of a session
-/

namespace ArStack.Mms

open ArStack.Lib ArStack.Osi

variable {α : Type}

/-! ## One call -/

namespace MmsStaticConnectionRuntime

variable {rt : MmsStaticConnectionRuntime} {application : α}

/-- What a frame does to a connection. -/
inductive WindowStep (rt : MmsStaticConnectionRuntime) (step : ConnectionStep α) : Prop where
  | kept (hruntime : step.runtime = rt) (hnotified : step.notified = none)
  | faulted (hstate : rt.state ≠ .closed) (hruntime : step.runtime = { rt with state := .fault })
      (hnotified : step.notified = none)
  | connected (hstate : rt.state = .awaitingCotpConnect) (tpduSizeBytes : Nat)
      (hruntime : step.runtime =
        { rt with negotiatedTpduSizeBytes := tpduSizeBytes, state := .awaitingAssociation })
      (hnotified : step.notified = none)
  | established (hstate : rt.state = .awaitingAssociation) (contextId mmsPduSize : UInt32)
      (hruntime : step.runtime =
        { rt with
          mmsPresentationContextId := contextId
          negotiatedMmsPduSize := mmsPduSize
          state := .established
          associationActive := true
          associationCloseNotified := false })
      (hstatus : step.result.status = .responseReady)
      (hnotified : step.notified = none)
  | disconnected (nowMs : UInt64) (hruntime : step.runtime = (rt.closeTransport nowMs).1)
      (hnotified : step.notified = (rt.closeTransport nowMs).2)

theorem windowStep_keep {result : MmsStaticConnectionResult} :
    WindowStep rt (rt.keep application result) :=
  .kept rfl rfl

theorem windowStep_faulted {result : MmsStaticConnectionResult} (h : rt.state ≠ .closed) :
    WindowStep rt (rt.faulted application result) :=
  .faulted h rfl rfl

theorem windowStep_processConnect {cotp : CotpTpduView}
    {frameBytes responseSize workspaceSize : Nat} (h : rt.state = .awaitingCotpConnect) :
    WindowStep rt (rt.processConnect application cotp frameBytes responseSize workspaceSize) := by
  have hopen : rt.state ≠ .closed := by simp [h]
  unfold processConnect
  split
  · exact windowStep_faulted hopen
  · split
    · exact windowStep_faulted hopen
    · rename_i selectedTpduBytes _
      simp only []
      split
      · split
        · exact windowStep_keep
        · exact windowStep_faulted hopen
      · split
        · exact windowStep_faulted hopen
        · split
          · exact windowStep_keep
          · split
            · split
              · exact windowStep_keep
              · exact windowStep_faulted hopen
            · exact .connected h selectedTpduBytes rfl rfl

theorem windowStep_processAssociation {services : MmsStaticConnectionServices α} {userData : Bytes}
    {frameBytes responseSize workspaceSize : Nat} (h : rt.state = .awaitingAssociation) :
    WindowStep rt
      (rt.processAssociation services application userData frameBytes responseSize
        workspaceSize) := by
  have hopen : rt.state ≠ .closed := by simp [h]
  unfold processAssociation
  split
  · exact windowStep_faulted hopen
  · split
    · exact windowStep_faulted hopen
    · split
      · exact windowStep_faulted hopen
      · simp only []
        split
        · exact windowStep_faulted hopen
        · split
          · split
            · exact windowStep_keep
            · exact windowStep_faulted hopen
          · split
            · exact .kept rfl rfl
            · rename_i hready
              rw [not_not] at hready
              exact .established h _ _ rfl hready rfl

theorem windowStep_responseCapacity {served : MmsStaticDispatchResult} {requiredBytes : Nat}
    {invokeId : UInt32} (h : rt.state ≠ .closed) :
    WindowStep rt (rt.responseCapacity application served requiredBytes invokeId) := by
  unfold responseCapacity
  split
  · exact windowStep_keep
  · exact windowStep_faulted h

theorem windowStep_respond {served : MmsStaticDispatchResult} {invokeId : UInt32}
    {mmsResponse : Bytes} {frameBytes responseSize workspaceSize : Nat} (h : rt.state ≠ .closed) :
    WindowStep rt
      (rt.respond application served invokeId mmsResponse frameBytes responseSize
        workspaceSize) := by
  unfold respond
  split
  · exact windowStep_keep
  · simp only []
    split
    · split
      · exact windowStep_keep
      · exact windowStep_faulted h
    · split
      · exact .kept rfl rfl
      · exact .kept rfl rfl

theorem windowStep_refuse {served : MmsStaticDispatchResult}
    {confirmed : Option MmsConfirmedPduView} {frameBytes responseSize workspaceSize : Nat}
    (h : rt.state ≠ .closed) :
    WindowStep rt
      (rt.refuse application served confirmed frameBytes responseSize workspaceSize) := by
  unfold refuse
  split
  · exact windowStep_responseCapacity h
  · exact windowStep_keep
  · exact windowStep_faulted h
  · exact windowStep_faulted h
  · split
    · exact windowStep_keep
    · simp only []
      split
      · split
        · exact windowStep_responseCapacity h
        · exact windowStep_faulted h
      · exact windowStep_respond h

theorem windowStep_processRequest {services : MmsStaticConnectionServices α}
    {confirmed : Option MmsConfirmedPduView} {request : Bytes}
    {frameBytes responseSize workspaceSize : Nat} (h : rt.state ≠ .closed) :
    WindowStep rt
      (rt.processRequest services application confirmed request frameBytes responseSize
        workspaceSize) := by
  unfold processRequest
  simp only []
  split
  · exact windowStep_refuse h
  · exact windowStep_respond h

theorem windowStep_processData {services : MmsStaticConnectionServices α} {userData : Bytes}
    {frameBytes responseSize workspaceSize : Nat} (h : rt.state ≠ .closed) :
    WindowStep rt
      (rt.processData services application userData frameBytes responseSize workspaceSize) := by
  unfold processData
  split
  · exact windowStep_faulted h
  · simp only []
    split
    · rename_i hrefused
      obtain ⟨capacity, -, hpreflight⟩ := Option.bind_eq_some_iff.mp hrefused
      unfold writePreflight at hpreflight
      split at hpreflight
      · cases hpreflight
        exact windowStep_keep
      · split at hpreflight
        · cases hpreflight
          exact windowStep_keep
        · split at hpreflight
          · cases hpreflight
            exact windowStep_keep
          · cases hpreflight
    · exact windowStep_processRequest h

theorem windowStep_processTpdu {services : MmsStaticConnectionServices α} {cotp : CotpTpduView}
    {frameBytes responseSize workspaceSize : Nat} (h : rt.state ≠ .closed) :
    WindowStep rt
      (rt.processTpdu services application cotp frameBytes responseSize workspaceSize) := by
  unfold processTpdu
  split
  · rename_i hconnect
    exact windowStep_processConnect hconnect
  · split
    · exact windowStep_faulted h
    · split
      · rename_i hassociation
        exact windowStep_processAssociation hassociation
      · split
        · exact windowStep_faulted h
        · exact windowStep_processData h

/-- **Inversion of a call.** -/
theorem windowStep_processTcpWindow (rt : MmsStaticConnectionRuntime)
    (services : MmsStaticConnectionServices α) (application : α) (tcpBytes : Bytes)
    (responseSize workspaceSize : Nat) (nowMs : UInt64) :
    WindowStep rt
      (rt.processTcpWindow services application tcpBytes responseSize workspaceSize nowMs) := by
  unfold processTcpWindow
  split
  · exact windowStep_keep
  · rename_i hopen
    split
    · exact windowStep_keep
    · simp only []
      split
      · exact windowStep_keep
      · split
        · exact windowStep_faulted hopen
        · unfold processFrame
          split
          · exact windowStep_faulted hopen
          · split
            · exact .disconnected nowMs rfl rfl
            · exact windowStep_processTpdu hopen

/-! ## The lifecycle of an association -/

/-- An association is open in an established connection or one at fault. -/
structure Lifecycle (rt : MmsStaticConnectionRuntime) : Prop where
  active : rt.associationActive = true →
    (rt.state = .established ∨ rt.state = .fault) ∧ rt.associationCloseNotified = false
  established : rt.state = .established → rt.associationActive = true

/-- What the lifecycle callback is called with when the association closes. -/
def closedCall (rt : MmsStaticConnectionRuntime) (nowMs : UInt64) : Option AssociationClosed :=
  if rt.associationActive && rt.policy.associationClosed && rt.policy.associationId != 0 then
    some
      { associationId := rt.policy.associationId
        nowMs := if rt.policy.nowMs then nowMs else 0 }
  else none

theorem notifyAssociationClosed_eq (h : rt.Lifecycle) (nowMs : UInt64) :
    (rt.notifyAssociationClosed nowMs).2 = rt.closedCall nowMs ∧
      (rt.notifyAssociationClosed nowMs).1.associationActive = false ∧
      (rt.notifyAssociationClosed nowMs).1.policy = rt.policy := by
  unfold notifyAssociationClosed closedCall
  cases hactive : rt.associationActive with
  | false => simp [hactive]
  | true =>
    have hnotified := (h.active hactive).2
    cases hcallback : rt.policy.associationClosed with
    | false => simp [hnotified, hcallback]
    | true =>
      by_cases hid : rt.policy.associationId = 0
      · simp [hnotified, hcallback, hid]
      · simp [hnotified, hcallback, hid]

/-- The runtime after the end of an association, closed or reset. -/
theorem lifecycle_closeTransport (h : rt.Lifecycle) (nowMs : UInt64) :
    (rt.closeTransport nowMs).1.Lifecycle ∧
      (rt.closeTransport nowMs).1.associationActive = false ∧
      (rt.closeTransport nowMs).1.policy = rt.policy ∧
      (rt.closeTransport nowMs).2 = rt.closedCall nowMs := by
  obtain ⟨hcall, hactive, hpolicy⟩ := notifyAssociationClosed_eq h nowMs
  refine ⟨⟨fun ha => ?_, fun hs => ?_⟩, hactive, hpolicy, hcall⟩
  · exact absurd (hactive.symm.trans ha) (by simp)
  · cases hs

theorem lifecycle_reset (h : rt.Lifecycle) (nowMs : UInt64) :
    (rt.reset nowMs).1.Lifecycle ∧ (rt.reset nowMs).1.associationActive = false ∧
      (rt.reset nowMs).1.policy = rt.policy ∧ (rt.reset nowMs).2 = rt.closedCall nowMs := by
  obtain ⟨hcall, -, hpolicy⟩ := notifyAssociationClosed_eq h nowMs
  refine ⟨⟨fun ha => ?_, fun hs => ?_⟩, rfl, hpolicy, hcall⟩
  · cases ha
  · cases hs

/-- A frame keeps the lifecycle, and reports an association that it closes. -/
theorem WindowStep.lifecycle {step : ConnectionStep α} (h : rt.WindowStep step)
    (hrt : rt.Lifecycle) : step.runtime.Lifecycle ∧ step.runtime.policy = rt.policy := by
  cases h with
  | kept hruntime hnotified =>
    rw [hruntime]
    exact ⟨hrt, rfl⟩
  | faulted hstate hruntime hnotified =>
    rw [hruntime]
    refine ⟨⟨fun ha => ⟨Or.inr rfl, (hrt.active ha).2⟩, fun hs => ?_⟩, rfl⟩
    cases hs
  | connected hstate tpduSizeBytes hruntime hnotified =>
    rw [hruntime]
    refine ⟨⟨fun ha => ?_, fun hs => ?_⟩, rfl⟩
    · have hopen := (hrt.active ha).1
      rw [hstate] at hopen
      simp at hopen
    · cases hs
  | established hstate contextId mmsPduSize hruntime hstatus hnotified =>
    rw [hruntime]
    exact ⟨⟨fun _ => ⟨Or.inl rfl, rfl⟩, fun _ => rfl⟩, rfl⟩
  | disconnected nowMs hruntime hnotified =>
    obtain ⟨hlifecycle, -, hpolicy, -⟩ := lifecycle_closeTransport hrt nowMs
    rw [hruntime]
    exact ⟨hlifecycle, hpolicy⟩

end MmsStaticConnectionRuntime

/-! ## Notes in order -/

/-- Whether an association is open after a note, if the note is in its turn. -/
def AssociationNote.next (associationId : UInt64) (isOpen : Bool) (note : AssociationNote) :
    Option Bool :=
  match isOpen, note with
  | false, .established id => if id = associationId then some true else none
  | true, .closed call => if call.associationId = associationId then some false else none
  | _, _ => none

/-- Every association that was established is reported closed, with its identity, before another
one is established, and nothing else is reported; whether the last one is still open. -/
def openAfter (associationId : UInt64) (notes : List AssociationNote) : Option Bool :=
  notes.foldlM (AssociationNote.next associationId) false

/-- What the lifecycle callback has seen of the associations of a connection. -/
structure ReportedOnce (policy : MmsStaticConnectionPolicy) (notes : List AssociationNote)
    (isOpen : Bool) : Prop where
  paired : policy.associationClosed = true → policy.associationId ≠ 0 →
    openAfter policy.associationId notes = some isOpen
  silent : policy.associationClosed = false ∨ policy.associationId = 0 →
    ∀ call, .closed call ∉ notes

variable {policy : MmsStaticConnectionPolicy} {notes : List AssociationNote} {isOpen : Bool}

theorem reportedOnce_nil : ReportedOnce policy [] false :=
  ⟨fun _ _ => rfl, fun _ _ => List.not_mem_nil⟩

theorem openAfter_concat {associationId : UInt64} {note : AssociationNote}
    (h : openAfter associationId notes = some isOpen) :
    openAfter associationId (notes ++ [note]) = note.next associationId isOpen := by
  rw [openAfter] at h
  rw [openAfter, List.foldlM_append, h]
  simp

theorem ReportedOnce.established (h : ReportedOnce policy notes false) :
    ReportedOnce policy (notes ++ [.established policy.associationId]) true := by
  refine ⟨fun hcallback hid => ?_, fun hsilent call hmem => ?_⟩
  · rw [openAfter_concat (h.paired hcallback hid)]
    simp [AssociationNote.next]
  · rcases List.mem_append.mp hmem with hmem | hmem
    · exact h.silent hsilent call hmem
    · simp at hmem

/-- The call at the end of an association, if there is one. -/
theorem ReportedOnce.closed {rt : MmsStaticConnectionRuntime} (hpolicy : rt.policy = policy)
    (h : ReportedOnce policy notes rt.associationActive) (nowMs : UInt64) :
    ReportedOnce policy (notes ++ (rt.closedCall nowMs).toList.map .closed) false := by
  rw [MmsStaticConnectionRuntime.closedCall, hpolicy]
  split
  · rename_i hcall
    simp only [Bool.and_eq_true, bne_iff_ne] at hcall
    obtain ⟨⟨hactive, hcallback⟩, hid⟩ := hcall
    refine ⟨fun _ _ => ?_, fun hsilent => ?_⟩
    · rw [hactive] at h
      show openAfter policy.associationId (notes ++ [_]) = some false
      rw [openAfter_concat (h.paired hcallback hid)]
      simp [AssociationNote.next]
    · rcases hsilent with hsilent | hsilent
      · simp [hsilent] at hcallback
      · exact absurd hsilent hid
  · rename_i hcall
    rw [Option.toList_none, List.map_nil, List.append_nil]
    refine ⟨fun hcallback hid => ?_, h.silent⟩
    have hclosed : rt.associationActive = false := by
      cases hactive : rt.associationActive with
      | false => rfl
      | true => exact absurd (by simp [hactive, hcallback, hid]) hcall
    rw [hclosed] at h
    exact h.paired hcallback hid

/-! ## Runs -/

open MmsStaticConnectionRuntime

/-- The invariant of a connection with its notes. -/
structure Reported (policy : MmsStaticConnectionPolicy) (rt : MmsStaticConnectionRuntime)
    (notes : List AssociationNote) : Prop where
  lifecycle : rt.Lifecycle
  samePolicy : rt.policy = policy
  notes : ReportedOnce policy notes rt.associationActive

variable {rt : MmsStaticConnectionRuntime}

theorem Reported.closeTransport (h : Reported policy rt notes) (nowMs : UInt64) :
    Reported policy (rt.closeTransport nowMs).1
      (notes ++ (rt.closeTransport nowMs).2.toList.map .closed) ∧
      (rt.closeTransport nowMs).1.associationActive = false := by
  obtain ⟨hlifecycle, hactive, hpolicy, hcall⟩ := lifecycle_closeTransport h.lifecycle nowMs
  refine ⟨⟨hlifecycle, hpolicy.trans h.samePolicy, ?_⟩, hactive⟩
  rw [hactive, hcall]
  exact h.notes.closed h.samePolicy nowMs

theorem Reported.reset (h : Reported policy rt notes) (nowMs : UInt64) :
    Reported policy (rt.reset nowMs).1 (notes ++ (rt.reset nowMs).2.toList.map .closed) ∧
      (rt.reset nowMs).1.associationActive = false := by
  obtain ⟨hlifecycle, hactive, hpolicy, hcall⟩ := lifecycle_reset h.lifecycle nowMs
  refine ⟨⟨hlifecycle, hpolicy.trans h.samePolicy, ?_⟩, hactive⟩
  rw [hactive, hcall]
  exact h.notes.closed h.samePolicy nowMs

theorem establishedNotes_of_kept {before after : MmsStaticConnectionRuntime}
    (h : after.state = .established → before.state = .established) :
    establishedNotes before after = [] := by
  rw [establishedNotes, if_neg]
  rintro ⟨hafter, hbefore⟩
  exact hbefore (h hafter)

/-- A frame keeps the invariant, with the note of an association that it establishes. -/
theorem Reported.window {step : ConnectionStep α} (h : Reported policy rt notes)
    (hstep : rt.WindowStep step) :
    Reported policy step.runtime
      (notes ++ step.notified.toList.map .closed ++ establishedNotes rt step.runtime) := by
  obtain ⟨hlifecycle, hpolicy⟩ := hstep.lifecycle h.lifecycle
  refine ⟨hlifecycle, hpolicy.trans h.samePolicy, ?_⟩
  cases hstep with
  | kept hruntime hnotified =>
    rw [hnotified, hruntime, establishedNotes_of_kept id]
    simpa using h.notes
  | faulted hstate hruntime hnotified =>
    rw [hnotified, hruntime, establishedNotes_of_kept (fun hs => by cases hs)]
    simpa using h.notes
  | connected hstate tpduSizeBytes hruntime hnotified =>
    rw [hnotified, hruntime, establishedNotes_of_kept (fun hs => by cases hs)]
    simpa using h.notes
  | established hstate contextId mmsPduSize hruntime hstatus hnotified =>
    have hclosed : rt.associationActive = false := by
      rw [← Bool.not_eq_true]
      intro hactive
      have hopen := (h.lifecycle.active hactive).1
      rw [hstate] at hopen
      simp at hopen
    have hnotes := h.notes
    rw [hclosed] at hnotes
    rw [hnotified, hruntime, establishedNotes, if_pos ⟨rfl, by simp [hstate]⟩]
    simpa [h.samePolicy] using hnotes.established
  | disconnected nowMs hruntime hnotified =>
    rw [hnotified, hruntime, establishedNotes_of_kept (fun hs => by cases hs), List.append_nil]
    exact (h.closeTransport nowMs).1.notes

theorem Reported.connectionStep {services : MmsStaticConnectionServices α}
    {s : ConnectionSession α} (event : ConnectionEvent) (h : Reported policy s.runtime s.notes) :
    Reported policy (s.step services event).runtime (s.step services event).notes := by
  cases event with
  | processTcpWindow tcpBytes responseSize workspaceSize nowMs =>
    exact h.window (windowStep_processTcpWindow s.runtime services s.application tcpBytes
      responseSize workspaceSize nowMs)
  | closeTransport nowMs => exact (h.closeTransport nowMs).1
  | reset nowMs => exact (h.reset nowMs).1

/-! ## Polls -/

namespace MmsStaticServerSession

variable {session : MmsStaticServerSession α}

/-- What the rest of a poll does to the runtime of the session: it keeps it, or closes its
transport and ends the session. -/
inductive PollEnd (session : MmsStaticServerSession α) (step : PollStep α) : Prop where
  | kept (hruntime : step.session.runtime = session.runtime) (hnotified : step.notified = [])
      (hterminal : step.session.terminal = session.terminal)
      (hresult : step.result.terminal = true → session.terminal = true)
  | ended (nowMs : UInt64)
      (hruntime : step.session.runtime = (session.runtime.closeTransport nowMs).1)
      (hnotified : step.notified = (session.runtime.closeTransport nowMs).2.toList)
      (hterminal : step.session.terminal = true)

theorem pollEnd_terminate {nowMs : UInt64} {status : MmsStaticServerSessionStatus}
    {connectionStatus : MmsStaticConnectionStatus} :
    PollEnd session (session.terminate nowMs status connectionStatus) :=
  .ended nowMs rfl rfl rfl

theorem pollEnd_idle {status : MmsStaticServerSessionStatus}
    {connectionStatus : MmsStaticConnectionStatus}
    (h : (session.idle status connectionStatus).result.terminal = true → session.terminal = true) :
    PollEnd session (session.idle status connectionStatus) :=
  .kept rfl rfl rfl h

theorem consumeInput_runtime (consumed : Nat) :
    (session.consumeInput consumed).runtime = session.runtime ∧
      (session.consumeInput consumed).terminal = session.terminal := by
  rw [consumeInput]
  split
  · exact ⟨rfl, rfl⟩
  · exact ⟨rfl, rfl⟩

theorem pollEnd_sendPending {sent : IoResult} {nowMs : UInt64} :
    PollEnd session (session.sendPending sent nowMs) := by
  unfold sendPending
  simp only []
  split
  · exact pollEnd_idle fun h => nomatch h
  · exact pollEnd_idle fun h => nomatch h
  · exact pollEnd_terminate
  · split
    · exact pollEnd_terminate
    · split
      · exact .kept rfl rfl rfl fun h => nomatch h
      · exact .kept rfl rfl rfl fun h => nomatch h
  · exact pollEnd_terminate

theorem pollEnd_receiveMore {received : IoReceived} {nowMs : UInt64} :
    PollEnd session (session.receiveMore received nowMs) := by
  unfold receiveMore
  split
  · exact pollEnd_terminate
  · split
    · exact pollEnd_idle fun h => nomatch h
    · exact pollEnd_idle fun h => nomatch h
    · exact pollEnd_terminate
    · split
      · exact pollEnd_terminate
      · exact .kept rfl rfl rfl fun h => nomatch h
    · exact pollEnd_terminate

theorem pollEnd_afterWindow {connection : MmsStaticConnectionResult} {input : PollInput} :
    PollEnd session (session.afterWindow connection input) := by
  obtain ⟨hruntime, hterminal⟩ := @consumeInput_runtime α session connection.consumedBytes
  unfold afterWindow
  split
  · refine .kept hruntime rfl hterminal fun h => ?_
    revert h
    simp only []
    split
    · exact fun h => nomatch h
    · exact fun h => nomatch h
  · exact .kept hruntime rfl hterminal fun h => nomatch h
  · exact .kept hruntime rfl hterminal fun h => nomatch h
  · refine .ended input.nowMs ?_ ?_ rfl
    · rw [← hruntime]
      rfl
    · rw [← hruntime]
      rfl
  · exact pollEnd_receiveMore
  · exact pollEnd_terminate

/-- The session goes on after a frame that was answered. -/
theorem afterWindow_of_ready {connection : MmsStaticConnectionResult} {input : PollInput}
    (h : connection.status = .responseReady) :
    (session.afterWindow connection input).session.runtime = session.runtime ∧
      (session.afterWindow connection input).notified = [] ∧
      (session.afterWindow connection input).session.terminal = session.terminal := by
  obtain ⟨hruntime, hterminal⟩ := @consumeInput_runtime α session connection.consumedBytes
  unfold afterWindow
  rw [h]
  exact ⟨hruntime, rfl, hterminal⟩

theorem PollEnd.terminal {step : PollStep α} (h : PollEnd session step)
    (hresult : step.result.terminal = true) : step.session.terminal = true := by
  cases h with
  | kept hruntime hnotified hterminal hkept => exact hterminal.trans (hkept hresult)
  | ended nowMs hruntime hnotified hterminal => exact hterminal

/-- A poll with a terminal outcome ends the session. -/
theorem terminal_pollOnce {services : MmsStaticConnectionServices α} {input : PollInput}
    (h : (session.pollOnce services input).result.terminal = true) :
    (session.pollOnce services input).session.terminal = true := by
  revert h
  unfold pollOnce
  split
  · exact pollEnd_terminate.terminal
  · split
    · rename_i hended
      exact fun _ => hended
    · split
      · exact pollEnd_sendPending.terminal
      · split
        · exact pollEnd_afterWindow.terminal
        · exact pollEnd_receiveMore.terminal

end MmsStaticServerSession

open MmsStaticServerSession

/-- The invariant of a session with its notes: no association is open in a session that has
ended. -/
structure SessionReported (policy : MmsStaticConnectionPolicy) (s : ServerSessionRun α) :
    Prop where
  reported : Reported policy s.session.runtime s.notes
  ended : s.session.terminal = true → s.session.runtime.associationActive = false

theorem SessionReported.pollEnd {s : ServerSessionRun α} {step : PollStep α}
    (h : SessionReported policy s) (hend : PollEnd s.session step) :
    SessionReported policy
      { session := step.session
        notes := s.notes ++ step.notified.map .closed ++
          establishedNotes s.session.runtime step.session.runtime } := by
  cases hend with
  | kept hruntime hnotified hterminal hresult =>
    rw [hnotified, hruntime, establishedNotes_of_kept id]
    simp only [List.map_nil, List.append_nil]
    refine ⟨?_, fun hended => ?_⟩
    · rw [hruntime]
      exact h.reported
    · rw [hruntime]
      exact h.ended (hterminal ▸ hended)
  | ended nowMs hruntime hnotified hterminal =>
    obtain ⟨hreported, hactive⟩ := h.reported.closeTransport nowMs
    rw [hnotified, hruntime, establishedNotes_of_kept (fun hs => by cases hs), List.append_nil]
    refine ⟨?_, fun _ => ?_⟩
    · rw [hruntime]
      exact hreported
    · rw [hruntime]
      exact hactive

theorem establishedNotes_of_not_ready {step : ConnectionStep α} (h : rt.WindowStep step)
    (hstatus : step.result.status ≠ .responseReady) : establishedNotes rt step.runtime = [] := by
  cases h with
  | kept hruntime hnotified => rw [hruntime, establishedNotes_of_kept id]
  | faulted hstate hruntime hnotified =>
    rw [hruntime, establishedNotes_of_kept (fun hs => by cases hs)]
  | connected hstate tpduSizeBytes hruntime hnotified =>
    rw [hruntime, establishedNotes_of_kept (fun hs => by cases hs)]
  | established hstate contextId mmsPduSize hruntime hready hnotified => exact absurd hready hstatus
  | disconnected nowMs hruntime hnotified =>
    rw [hruntime, establishedNotes_of_kept (fun hs => by cases hs)]

/-- A poll that takes out a frame: what the frame does, and then what the poll does. -/
theorem SessionReported.processReceived {s : ServerSessionRun α}
    {services : MmsStaticConnectionServices α} {input : PollInput} (h : SessionReported policy s)
    (hgoing : s.session.terminal = false) :
    SessionReported policy
      { session := (s.session.processReceived services input).session
        notes := s.notes ++ (s.session.processReceived services input).notified.map .closed ++
          establishedNotes s.session.runtime
            (s.session.processReceived services input).session.runtime } := by
  have hwindow := windowStep_processTcpWindow s.session.runtime services s.session.application
    s.session.receive s.session.buffers.response s.session.buffers.workspace input.nowMs
  unfold MmsStaticServerSession.processReceived
  simp only []
  generalize s.session.runtime.processTcpWindow services s.session.application
    s.session.receive s.session.buffers.response s.session.buffers.workspace input.nowMs = step
    at hwindow
  have hreported := h.reported.window hwindow
  by_cases hready : step.result.status = .responseReady
  · obtain ⟨hruntime, hnotified, hterminal⟩ := @afterWindow_of_ready α
      { s.session with runtime := step.runtime, application := step.application } step.result
      input hready
    rw [hnotified, hruntime, List.append_nil]
    refine ⟨?_, fun hended => ?_⟩
    · rw [hruntime]
      exact hreported
    · rw [hterminal, hgoing] at hended
      cases hended
  · -- nothing is established, and the rest of the poll may end the session
    rw [establishedNotes_of_not_ready hwindow hready, List.append_nil] at hreported
    have hkept : step.runtime.state = .established → s.session.runtime.state = .established := by
      intro hstate
      by_contra hbefore
      have hnone := establishedNotes_of_not_ready hwindow hready
      rw [establishedNotes, if_pos ⟨hstate, hbefore⟩] at hnone
      cases hnone
    have hend := @pollEnd_afterWindow α
      { s.session with runtime := step.runtime, application := step.application } step.result
      input
    cases hend with
    | kept hruntime hnotified hterminal hresult =>
      rw [hnotified, hruntime, establishedNotes_of_kept hkept]
      simp only [List.append_nil]
      refine ⟨?_, fun hended => ?_⟩
      · rw [hruntime]
        exact hreported
      · rw [hterminal, hgoing] at hended
        cases hended
    | ended nowMs hruntime hnotified hterminal =>
      obtain ⟨hclosed, hactive⟩ := hreported.closeTransport nowMs
      rw [hnotified, hruntime, establishedNotes_of_kept (fun hs => by cases hs),
        List.append_nil, List.map_append, ← List.append_assoc]
      refine ⟨?_, fun _ => ?_⟩
      · rw [hruntime]
        exact hclosed
      · rw [hruntime]
        exact hactive

/-- **Step lemma.** -/
theorem SessionReported.step {services : MmsStaticConnectionServices α}
    {s : ServerSessionRun α} (event : ServerSessionEvent) (h : SessionReported policy s) :
    SessionReported policy (s.step services event) := by
  cases event with
  | poll input =>
    rw [ServerSessionRun.step]
    unfold MmsStaticServerSession.pollOnce
    split
    · exact h.pollEnd pollEnd_terminate
    · split
      · rename_i hended
        exact h.pollEnd (pollEnd_idle fun _ => hended)
      · rename_i hgoing
        rw [Bool.not_eq_true] at hgoing
        split
        · exact h.pollEnd pollEnd_sendPending
        · split
          · exact h.processReceived hgoing
          · exact h.pollEnd pollEnd_receiveMore
  | closeTransport nowMs =>
    obtain ⟨hreported, hactive⟩ := h.reported.closeTransport nowMs
    exact ⟨hreported, fun _ => hactive⟩
  | reset nowMs =>
    obtain ⟨hreported, hactive⟩ := h.reported.reset nowMs
    exact ⟨hreported, fun _ => hactive⟩

/-! ## Whole runs -/

/-- A connection before its first frame. -/
def ConnectionSession.initial (policy : MmsStaticConnectionPolicy) (application : α) :
    ConnectionSession α :=
  { runtime := { policy }, application }

def ServerSessionRun.initial (policy : MmsStaticConnectionPolicy)
    (buffers : MmsStaticServerSessionBuffers) (streamSet : Bool) (application : α) :
    ServerSessionRun α :=
  { session := { runtime := { policy }, application, buffers, streamSet } }

theorem reported_initial : Reported policy { policy := policy } [] :=
  ⟨⟨fun h => (nomatch h), fun h => (nomatch h)⟩, rfl, reportedOnce_nil⟩

/-- What holds of an association at every point of a run: it is open only in a connection that
is established or at fault, and every one that is not open any more was reported once. -/
structure ClosedOnce (policy : MmsStaticConnectionPolicy) (rt : MmsStaticConnectionRuntime)
    (notes : List AssociationNote) : Prop where
  reported : ReportedOnce policy notes rt.associationActive
  active : rt.associationActive = true → rt.state = .established ∨ rt.state = .fault

theorem Reported.closedOnce (h : Reported policy rt notes) : ClosedOnce policy rt notes :=
  ⟨h.notes, fun hactive => (h.lifecycle.active hactive).1⟩

/-- Every association that was established is reported closed exactly once when it ends, with
its identity and before the next one is established, and nothing else is reported; for a
connection and for a session, which ends its association with itself. -/
theorem association_closed_once (services : MmsStaticConnectionServices α)
    (policy : MmsStaticConnectionPolicy) (application : α) :
    (∀ events : List ConnectionEvent,
      ClosedOnce policy
        (exec (ConnectionSession.step services) (.initial policy application) events).runtime
        (exec (ConnectionSession.step services) (.initial policy application) events).notes) ∧
    ∀ (buffers : MmsStaticServerSessionBuffers) (streamSet : Bool)
      (events : List ServerSessionEvent),
      let s := exec (ServerSessionRun.step services)
        (.initial policy buffers streamSet application) events
      ClosedOnce policy s.session.runtime s.notes ∧
        ∀ input, (s.session.pollOnce services input).result.terminal = true →
          (s.session.pollOnce services input).session.runtime.associationActive = false := by
  constructor
  · intro events
    have hrun : Reported policy
        (exec (ConnectionSession.step services) (.initial policy application) events).runtime
        (exec (ConnectionSession.step services) (.initial policy application) events).notes :=
      exec_invariant (fun s : ConnectionSession α => Reported policy s.runtime s.notes)
        (fun s event h => h.connectionStep event) reported_initial events
    exact hrun.closedOnce
  · intro buffers streamSet events s
    have hrun : SessionReported policy s :=
      exec_invariant (SessionReported policy) (fun s event h => h.step event)
        ⟨reported_initial, fun _ => rfl⟩ events
    refine ⟨hrun.reported.closedOnce, fun input hterminal => ?_⟩
    have hnext : SessionReported policy (s.step services (.poll input)) := hrun.step (.poll input)
    exact hnext.ended (terminal_pollOnce hterminal)

/-- The session, presentation and ACSE octets of an association request. -/
def sampleAssociationHeader : Bytes :=
  [0x0D, 0xB6, 0x05, 0x06, 0x13, 0x01, 0x00, 0x16, 0x01, 0x02, 0x14, 0x02, 0x00, 0x02, 0x33,
    0x02, 0x00, 0x01, 0x34, 0x02, 0x00, 0x01, 0xC1, 0xA0, 0x31, 0x81, 0x9D, 0xA0, 0x03, 0x80,
    0x01, 0x01, 0xA2, 0x81, 0x95, 0x81, 0x04, 0x00, 0x00, 0x00, 0x01, 0x82, 0x04, 0x00, 0x00,
    0x00, 0x01, 0xA4, 0x23, 0x30, 0x0F, 0x02, 0x01, 0x01, 0x06, 0x04, 0x52, 0x01, 0x00, 0x01,
    0x30, 0x04, 0x06, 0x02, 0x51, 0x01, 0x30, 0x10, 0x02, 0x01, 0x03, 0x06, 0x05, 0x28, 0xCA,
    0x22, 0x02, 0x01, 0x30, 0x04, 0x06, 0x02, 0x51, 0x01, 0x61, 0x62, 0x30, 0x60, 0x02, 0x01,
    0x01, 0xA0, 0x5B, 0x60, 0x59, 0xA1, 0x07, 0x06, 0x05, 0x28, 0xCA, 0x22, 0x02, 0x03, 0xA2,
    0x07, 0x06, 0x05, 0x29, 0x01, 0x87, 0x67, 0x01, 0xA3, 0x03, 0x02, 0x01, 0x0C, 0xA6, 0x06,
    0x06, 0x04, 0x29, 0x01, 0x87, 0x67, 0xA7, 0x03, 0x02, 0x01, 0x0C, 0xBE, 0x33, 0x28, 0x31,
    0x06, 0x02, 0x51, 0x01, 0x02, 0x01, 0x03, 0xA0, 0x28]

/-- Its Initiate request. -/
def sampleInitiateRequest : Bytes :=
  [0xA8, 0x26, 0x80, 0x03, 0x00, 0xFD, 0xE8, 0x81, 0x01, 0x0A, 0x82, 0x01, 0x0A, 0x83, 0x01,
    0x05, 0xA4, 0x16, 0x80, 0x01, 0x01, 0x81, 0x03, 0x05, 0xF1, 0x00, 0x82, 0x0C, 0x03, 0xEE,
    0x1C, 0x00, 0x00, 0x04, 0x08, 0x00, 0x00, 0x79, 0xEF, 0x18]

/-- The session, presentation and ACSE octets of the accept response to it. -/
def sampleAcceptHeader : Bytes :=
  [0x0E, 0x88, 0x05, 0x06, 0x13, 0x01, 0x00, 0x16, 0x01, 0x02, 0x14, 0x02, 0x00, 0x02, 0x33,
    0x02, 0x00, 0x01, 0x34, 0x02, 0x00, 0x01, 0xC1, 0x72, 0x31, 0x70, 0xA0, 0x03, 0x80, 0x01,
    0x01, 0xA2, 0x69, 0xA5, 0x12, 0x30, 0x07, 0x80, 0x01, 0x00, 0x81, 0x02, 0x51, 0x01, 0x30,
    0x07, 0x80, 0x01, 0x00, 0x81, 0x02, 0x51, 0x01, 0x61, 0x53, 0x30, 0x51, 0x02, 0x01, 0x01,
    0xA0, 0x4C, 0x61, 0x4A, 0xA1, 0x07, 0x06, 0x05, 0x28, 0xCA, 0x22, 0x02, 0x03, 0xA2, 0x03,
    0x02, 0x01, 0x00, 0xA3, 0x05, 0xA1, 0x03, 0x02, 0x01, 0x00, 0xBE, 0x33, 0x28, 0x31, 0x06,
    0x02, 0x51, 0x01, 0x02, 0x01, 0x03, 0xA0, 0x28]

/-- Services that know this one association request. -/
def sampleServices : MmsStaticConnectionServices Unit where
  tryDecodeAssociationRequestView userData :=
    if userData = sampleAssociationHeader ++ sampleInitiateRequest then
      some { mmsPresentationContextId := 3, userInformation := sampleInitiateRequest }
    else none
  buildAcceptResponseInto _ initiateResponse workspaceSize :=
    let response := sampleAcceptHeader ++ initiateResponse
    if workspaceSize < response.length then
      { status := .bufferTooSmall, requiredBytes := response.length }
    else { bytes := response, requiredBytes := response.length }
  confirmedService := none
  maximumWriteVariables := 1
  dispatch application _ _ _ _ := ({}, application)

/-- Connect, associate, close. -/
def sampleConnectionEvents : List ConnectionEvent :=
  [.processTcpWindow
      ([0x03, 0x00, 0x00, 0x0E] ++ [0x09, 0xE0, 0x00, 0x00, 0x00, 0x01, 0x00, 0xC0, 0x01, 0x0A])
      256 256 0,
    .processTcpWindow
      ([0x03, 0x00, 0x00, 0xBF] ++ [0x02, 0xF0, 0x80] ++ sampleAssociationHeader ++
        sampleInitiateRequest) 256 256 0,
    .closeTransport 0]

/-- An association without an identity is established, and its end is not reported. -/
theorem anonymous_association_unreported :
    (exec (ConnectionSession.step sampleServices)
        (.initial { associationClosed := true } ()) sampleConnectionEvents).notes = [.established 0] ∧
      (exec (ConnectionSession.step sampleServices)
        (.initial { associationClosed := true } ()) sampleConnectionEvents).runtime.associationActive
        = false := by
  decide +kernel

example :
    (exec (ConnectionSession.step sampleServices)
        (.initial { associationClosed := true, associationId := 77 } ()) sampleConnectionEvents).notes
      = [.established 77, .closed { associationId := 77, nowMs := 0 }] := by
  decide +kernel

end ArStack.Mms
