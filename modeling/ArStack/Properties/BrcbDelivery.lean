import ArStack.Spec.BrcbDelivery

/-!
# In order and at least once

A device with its clients: captures, requests, closes, and on each connection polls and commits.
Every report ever stored has a position, and so has the cursor.

* `DeliveryInv.step` — the entries in the ring are the newest that were stored
* `step_cases` — a step leaves the cursor, drops an entry, moves the cursor or commits an entry
* `delivery_in_order` — what the steps make of every run
-/

namespace ArStack.Mms

open ArStack.Lib ArStack.Wire MmsStaticBrcbControl MmsStaticBrcbRuntime MmsStaticBrcbConnection

/-! ## The machine -/

/-- A call of the device or of a client, apart from captures. -/
inductive BrcbCall where
  | notify (dataSetMemberIndex : Nat) (reason : MmsStaticBrcbEventReason) (nowMs : UInt64)
  | nextDue (nowMs : UInt64)
  | reserve (client : MmsStaticBrcbClientIdentity) (resvTmsSeconds : UInt32) (nowMs : UInt64)
  | request (client : MmsStaticBrcbClientIdentity) (nowMs : UInt64) (request : Request)
  | associationClosed (associationId : UInt64) (nowMs : UInt64)

def BrcbCall.event : BrcbCall → MmsStaticBrcbControl.Event
  | .notify index reason nowMs => .runtime (.notify index reason nowMs)
  | .nextDue nowMs => .runtime (.nextDue nowMs)
  | .reserve client resvTmsSeconds nowMs => .reserve client resvTmsSeconds nowMs
  | .request client nowMs asked => .request client nowMs asked
  | .associationClosed associationId nowMs => .associationClosed associationId nowMs

/-- `who` names the connection object; what it is at the time of the call comes with the event. -/
inductive DeliveryEvent (κ : Type) where
  | call (call : BrcbCall)
  | capture (plan : MmsStaticBrcbCapturePlan) (reportTime : Bytes)
      (encodeBufferSize workspaceSize : Nat) (reads : ReadCallbacks)
  | poll (who : κ) (connection : MmsStaticConnectionRuntime) (nowMs : UInt64)
      (responseSize workspaceSize : Nat)
  | commitSent (who : κ) (connection : MmsStaticConnectionRuntime) (nowMs : UInt64)

structure Delivery (κ : Type) where
  control : MmsStaticBrcbControl
  /-- The result of the latest poll of each connection. -/
  latest : κ → Option MmsStaticBrcbConnectionResult := fun _ => none
  /-- Every report stored so far. -/
  stored : List BrcbEntry

namespace Delivery

variable {κ : Type}

/-- The runtime with the entries it has restored, and nobody on record. -/
def start (rt : MmsStaticBrcbRuntime) : Delivery κ where
  control := { reports := rt }
  stored := rt.ring.retained.map (·.entry)

/-- The position of the next report to deliver. -/
def cursor (d : Delivery κ) : Nat :=
  d.stored.length - d.control.reports.count + d.control.reports.deliveryOffset

/-- The report that was stored last. -/
def newest (rt : MmsStaticBrcbRuntime) : List BrcbEntry :=
  (rt.ring.retained.getLast?.map (·.entry)).toList

def step [DecidableEq κ] (d : Delivery κ) : DeliveryEvent κ → Delivery κ
  | .call call => { d with control := d.control.step call.event }
  | .capture plan reportTime encodeBufferSize workspaceSize reads =>
    let (result, reports) :=
      d.control.reports.capture plan reportTime encodeBufferSize workspaceSize reads
    { d with
      control := { d.control with reports := reports }
      stored := if result.status = .ok then d.stored ++ newest reports else d.stored }
  | .poll who connection nowMs responseSize workspaceSize =>
    let (result, control) := poll connection d.control nowMs responseSize workspaceSize
    { d with
      control := control
      latest := Function.update d.latest who (some result) }
  | .commitSent who connection nowMs =>
    match d.latest who with
    | none => d
    | some staged => { d with control := (commitSent connection d.control nowMs staged).2 }

end Delivery

/-! ## Requests that move the cursor -/

def MovesCursor : Request → Prop
  | .replayFrom _ | .resumeAfter _ | .rewindToOldest | .purgeBuffer => True
  | _ => False

/-- A log whose cursor was moved, or that was emptied. -/
def Moved (l l' : BoundedLog BrcbEntry) : Prop := l'.entries = l.entries ∨ l'.entries = []

theorem moved_seekEntry (l : BoundedLog BrcbEntry) (entryId : Bytes) (behind : Nat) :
    Moved l (seekEntry l entryId behind) := by
  rw [seekEntry]
  split <;> exact .inl rfl

/-- What an operation that moves the cursor does. -/
structure MoveStep (rt : MmsStaticBrcbRuntime) (operation : Operation) : Prop where
  log : ∀ l l', LogStep rt operation l l' → Moved l l'
  nextEntryNumber : (rt.step operation).nextEntryNumber = rt.nextEntryNumber

theorem mapRuntimeStatus_ok {status : MmsStaticBrcbStatus} :
    mapRuntimeStatus status = .ok ↔ status = .ok := by
  cases status <;> simp [mapRuntimeStatus]

theorem guarded_reports {control : MmsStaticBrcbControl} (h : GateInv control)
    (client : MmsStaticBrcbClientIdentity) (nowMs : UInt64) (enabled : Bool)
    (call : MmsStaticBrcbRuntime → MmsStaticBrcbStatus × MmsStaticBrcbRuntime) :
    (control.guarded client nowMs enabled call).2.reports = control.reports ∨
      (control.guarded client nowMs enabled call).1 =
          mapRuntimeStatus (call control.reports).1 ∧
        (control.guarded client nowMs enabled call).2.reports = (call control.reports).2 := by
  simp only [guarded]
  rcases requireControlAccess_cases control client nowMs with ⟨hne, honly⟩ | ⟨hok, -, -, heq⟩
  · rw [if_pos hne]
    exact .inl (reports_onlyTicked h honly)
  · rw [if_neg (not_not.mpr hok), heq]
    split
    · exact .inl rfl
    · exact .inr ⟨rfl, rfl⟩

/-- **Only a granted request that moves the cursor reaches the ring.** -/
theorem request_ring {control : MmsStaticBrcbControl} (h : GateInv control)
    (client : MmsStaticBrcbClientIdentity) (nowMs : UInt64) (request : Request) :
    (control.request client nowMs request).2.reports.ring = control.reports.ring ∨
      MovesCursor request ∧ (control.request client nowMs request).1 = .ok ∧
        ∃ operation : Operation,
          (control.request client nowMs request).2.reports = control.reports.step operation ∧
          MoveStep control.reports operation := by
  cases request with
  | release =>
    refine .inl ?_
    simp only [MmsStaticBrcbControl.request, release]
    rcases requireControlAccess_cases control client nowMs with ⟨hne, honly⟩ | ⟨hok, -, -, heq⟩
    · rw [if_pos hne, reports_onlyTicked h honly]
    · rw [if_neg (not_not.mpr hok), heq]
      split <;> rfl
  | setReportEnabled enabled =>
    refine .inl ?_
    simp only [MmsStaticBrcbControl.request, setReportEnabled]
    rcases requireControlAccess_cases control client nowMs with ⟨hne, honly⟩ | ⟨hok, -, -, heq⟩
    · rw [if_pos hne, reports_onlyTicked h honly]
    · rw [if_neg (not_not.mpr hok), heq]
      exact ring_setEnabled enabled
  | setOptionalFields optionalFields =>
    refine .inl ?_
    rcases guarded_reports h client nowMs false (·.setOptionalFields optionalFields) with
      heq | ⟨-, heq⟩
    · exact congrArg ring heq
    · exact (congrArg ring heq).trans (ring_configure rfl)
  | setTriggerOptions triggerOptions =>
    refine .inl ?_
    rcases guarded_reports h client nowMs false (·.setTriggerOptions triggerOptions) with
      heq | ⟨-, heq⟩
    · exact congrArg ring heq
    · exact (congrArg ring heq).trans (ring_configure rfl)
  | setIntegrityPeriod integrityPeriodMs =>
    refine .inl ?_
    rcases guarded_reports h client nowMs false (·.setIntegrityPeriod integrityPeriodMs) with
      heq | ⟨-, heq⟩
    · exact congrArg ring heq
    · exact (congrArg ring heq).trans (ring_configure rfl)
  | requestGeneralInterrogation =>
    refine .inl ?_
    rcases guarded_reports h client nowMs true (·.requestGeneralInterrogation) with heq | ⟨-, heq⟩
    · exact congrArg ring heq
    · exact (congrArg ring heq).trans ring_requestGeneralInterrogation
  | replayFrom entryId =>
    rcases guarded_reports h client nowMs false (·.replayFrom entryId) with heq | ⟨hstatus, heq⟩
    · exact .inl (congrArg ring heq)
    · rcases moveCursor_cases control.reports entryId 0 with ⟨-, hsame⟩ | ⟨hok, _, -, hmove⟩
      · exact .inl (congrArg ring (heq.trans hsame))
      · have hnext := congrArg MmsStaticBrcbRuntime.nextEntryNumber hmove
        exact .inr ⟨trivial, hstatus.trans (mapRuntimeStatus_ok.mpr hok), .replayFrom entryId, heq,
          fun l l' hlog => hlog ▸ moved_seekEntry l entryId 0, hnext⟩
  | resumeAfter entryId =>
    rcases guarded_reports h client nowMs false (·.resumeAfter entryId) with heq | ⟨hstatus, heq⟩
    · exact .inl (congrArg ring heq)
    · rcases moveCursor_cases control.reports entryId 1 with ⟨-, hsame⟩ | ⟨hok, _, -, hmove⟩
      · exact .inl (congrArg ring (heq.trans hsame))
      · have hnext := congrArg MmsStaticBrcbRuntime.nextEntryNumber hmove
        exact .inr ⟨trivial, hstatus.trans (mapRuntimeStatus_ok.mpr hok), .resumeAfter entryId, heq,
          fun l l' hlog => hlog ▸ moved_seekEntry l entryId 1, hnext⟩
  | rewindToOldest =>
    rcases guarded_reports h client nowMs false (·.rewindToOldest) with heq | ⟨hstatus, heq⟩
    · exact .inl (congrArg ring heq)
    · rcases rewindToOldest_cases control.reports with ⟨-, hsame⟩ | ⟨hok, hmove⟩
      · exact .inl (congrArg ring (heq.trans hsame))
      · have hnext := congrArg MmsStaticBrcbRuntime.nextEntryNumber hmove
        refine .inr ⟨trivial, hstatus.trans (mapRuntimeStatus_ok.mpr hok), .rewindToOldest, heq,
          fun l l' hlog => .inl ?_, hnext⟩
        rw [show l' = l.seek 0 from hlog]
        rfl
  | purgeBuffer =>
    rcases guarded_reports h client nowMs false (·.purgeBuffer) with heq | ⟨hstatus, heq⟩
    · exact .inl (congrArg ring heq)
    · rcases purgeBuffer_cases control.reports with ⟨-, hsame⟩ | ⟨hok, hmove⟩
      · exact .inl (congrArg ring (heq.trans hsame))
      · have hnext := congrArg MmsStaticBrcbRuntime.nextEntryNumber hmove
        refine .inr ⟨trivial, hstatus.trans (mapRuntimeStatus_ok.mpr hok), .purgeBuffer, heq,
          fun l l' hlog => .inr ?_, hnext⟩
        rw [show l' = l.clear from hlog]
        rfl

theorem ring_disableReports {control : MmsStaticBrcbControl} :
    control.disableReports.reports.ring = control.reports.ring := by
  rw [disableReports]
  split
  · exact ring_setEnabled false
  · rfl

/-- A call leaves the ring alone unless it is a granted request that moves the cursor. -/
theorem call_ring {control : MmsStaticBrcbControl} (h : GateInv control) (call : BrcbCall) :
    (control.step call.event).reports.ring = control.reports.ring ∨
      ∃ client nowMs asked, call = .request client nowMs asked ∧ MovesCursor asked ∧
        (control.request client nowMs asked).1 = .ok ∧ ∃ operation : Operation,
          (control.step call.event).reports = control.reports.step operation ∧
          MoveStep control.reports operation := by
  cases call with
  | notify index reason nowMs => exact .inl (ring_notify index reason nowMs)
  | nextDue nowMs => exact .inl (ring_nextDue nowMs)
  | reserve client resvTmsSeconds nowMs =>
    refine .inl ?_
    rcases reserve_cases control client nowMs resvTmsSeconds with honly | ⟨-, hreports, -⟩
    · exact congrArg ring (reports_onlyTicked h honly)
    · exact congrArg ring (hreports.trans (reports_onlyTicked h (.inr rfl)))
  | request client nowMs asked =>
    rcases request_ring h client nowMs asked with heq | ⟨hmoves, hok, operation, heq, hmove⟩
    · exact .inl heq
    · exact .inr ⟨client, nowMs, asked, rfl, hmoves, hok, operation, heq, hmove⟩
  | associationClosed associationId nowMs =>
    refine .inl ?_
    have hclose : control.step (BrcbCall.associationClosed associationId nowMs).event =
        control.onAssociationClosed nowMs associationId := rfl
    rw [hclose]
    rcases onAssociationClosed_cases control nowMs associationId with
      honly | ⟨-, -, -, ⟨-, heq⟩ | heq⟩
    · exact congrArg ring (reports_onlyTicked h honly)
    · rw [heq]
      exact ring_disableReports
    · rw [heq]
      exact ring_disableReports

theorem initialized_call {control : MmsStaticBrcbControl} (h : GateInv control)
    (hinit : control.reports.initialized = true) (call : BrcbCall) :
    (control.step call.event).reports.initialized = true := by
  cases call with
  | notify index reason nowMs =>
    exact @initialized_step control.reports (.notify index reason nowMs) hinit
  | nextDue nowMs => exact @initialized_step control.reports (.nextDue nowMs) hinit
  | reserve client resvTmsSeconds nowMs =>
    have hreports : (control.reserve client nowMs resvTmsSeconds).2.reports = control.reports := by
      rcases reserve_cases control client nowMs resvTmsSeconds with honly | ⟨-, hreports, -⟩
      · exact reports_onlyTicked h honly
      · exact hreports.trans (reports_onlyTicked h (.inr rfl))
    show (control.reserve client nowMs resvTmsSeconds).2.reports.initialized = true
    rw [hreports]
    exact hinit
  | request client nowMs asked =>
    show (control.request client nowMs asked).2.reports.initialized = true
    rcases request_cases control client nowMs asked with ⟨-, honly⟩ | ⟨-, -, hgranted⟩
    · rw [reports_onlyTicked h honly]
      exact hinit
    · generalize control.request client nowMs asked = after at hgranted
      obtain ⟨status, after⟩ := after
      cases hgranted with
      | released => exact hinit
      | forwarded => exact initialized_step hinit
      | unavailable => exact hinit
  | associationClosed associationId nowMs =>
    show (control.onAssociationClosed nowMs associationId).reports.initialized = true
    rcases onAssociationClosed_cases control nowMs associationId with
      honly | ⟨-, -, -, ⟨-, heq⟩ | heq⟩
    · rw [reports_onlyTicked h honly]
      exact hinit
    all_goals
      rw [heq]
      exact initialized_disableReports.trans hinit

theorem quiet_call (call : BrcbCall) : call.event.Quiet := by
  cases call <;> exact fun h => by cases h

namespace Delivery

variable {κ : Type} {d : Delivery κ}

/-! ## The invariant -/

/-- **The ring holds the newest of the reports stored, and these are numbered without a gap.** -/
structure DeliveryInv (d : Delivery κ) : Prop where
  ring : RingInv d.control.reports.ring
  initialized : d.control.reports.initialized = true
  gate : GateInv d.control
  entries : (log _ ring).entries <:+ d.stored
  numbered : BoundedLog.Numbered
    (fun entry entry' => entry'.entryNumber = nextEntryNumber entry.entryNumber)
    (fun entry => nextEntryNumber entry.entryNumber = d.control.reports.nextEntryNumber) d.stored
  entryNumber_ne : ∀ entry ∈ d.stored, entry.entryNumber ≠ 0

theorem DeliveryInv.cursor_le (h : DeliveryInv d) : d.cursor ≤ d.stored.length := by
  have hle := h.entries.length_le
  have hdel : d.control.reports.deliveryOffset ≤ d.control.reports.count :=
    h.ring.deliveryOffset_le
  rw [length_log] at hle
  have hle' : d.control.reports.count ≤ d.stored.length := hle
  rw [cursor]
  omega

/-- What is unread is what was stored from the cursor on. -/
theorem DeliveryInv.unread_eq (h : DeliveryInv d) :
    (log _ h.ring).unread = d.stored.drop d.cursor := by
  obtain ⟨older, holder⟩ := h.entries
  have hcount : (log _ h.ring).entries.length = d.control.reports.count := length_log h.ring
  have hlen := congrArg List.length holder
  rw [List.length_append, hcount] at hlen
  have hcursor : d.cursor = older.length + d.control.reports.deliveryOffset := by
    rw [cursor]
    omega
  rw [hcursor, ← holder, ← List.drop_drop, List.drop_left]
  rfl

/-- A step that leaves the ring alone. -/
theorem DeliveryInv.still (h : DeliveryInv d) (d' : Delivery κ) (hstored : d'.stored = d.stored)
    (hring : d'.control.reports.ring = d.control.reports.ring)
    (hinit : d'.control.reports.initialized = true) (hgate : GateInv d'.control) :
    DeliveryInv d' ∧ d'.cursor = d.cursor := by
  have hnext : d'.control.reports.nextEntryNumber = d.control.reports.nextEntryNumber :=
    congrArg Ring.nextEntryNumber hring
  have hcount : d'.control.reports.count = d.control.reports.count := congrArg Ring.count hring
  have hdel : d'.control.reports.deliveryOffset = d.control.reports.deliveryOffset :=
    congrArg Ring.deliveryOffset hring
  have hinv : RingInv d'.control.reports.ring := hring ▸ h.ring
  refine ⟨⟨hinv, hinit, hgate, ?_, ?_, ?_⟩, ?_⟩
  · rw [log_congr hring h.ring hinv, hstored]
    exact h.entries
  · rw [hstored, hnext]
    exact h.numbered
  · rw [hstored]
    exact h.entryNumber_ne
  · rw [cursor, cursor, hstored, hcount, hdel]

/-- A move leaves what was stored. -/
theorem DeliveryInv.moved (h : DeliveryInv d) {d' : Delivery κ} (hstored : d'.stored = d.stored)
    (hinv : RingInv d'.control.reports.ring) (hmoved : Moved (log _ h.ring) (log _ hinv))
    (hnext : d'.control.reports.nextEntryNumber = d.control.reports.nextEntryNumber)
    (hinit : d'.control.reports.initialized = true) (hgate : GateInv d'.control) :
    DeliveryInv d' := by
  refine ⟨hinv, hinit, hgate, ?_, ?_, ?_⟩
  · rw [hstored]
    rcases hmoved with heq | heq
    · rw [heq]
      exact h.entries
    · rw [heq]
      exact List.nil_suffix
  · rw [hstored, hnext]
    exact h.numbered
  · rw [hstored]
    exact h.entryNumber_ne

/-! ## Captures and commits -/

/-- **A capture stores one report behind the others**; when that costs the report at the cursor,
the new one says so. -/
theorem DeliveryInv.captured (h : DeliveryInv d) (d' : Delivery κ)
    {plan : MmsStaticBrcbCapturePlan} {reportTime : Bytes} {encodeBufferSize workspaceSize : Nat}
    {reads : ReadCallbacks}
    (hok : (d.control.reports.capture plan reportTime encodeBufferSize workspaceSize reads).1.status
      = .ok)
    (hcontrol : d'.control = d.control.step
      (.runtime (.capture plan reportTime encodeBufferSize workspaceSize reads)))
    (hstored : d'.stored = d.stored ++ newest d'.control.reports) :
    DeliveryInv d' ∧ ∃ entry, d'.stored = d.stored ++ [entry] ∧
      (d'.cursor = d.cursor ∨ d.cursor < d.stored.length ∧ d'.cursor = d.cursor + 1 ∧
        d.control.reports.full = true ∧ entry.bufferOverflow = true) := by
  have hreports : d'.control.reports = d.control.reports.step
      (.capture plan reportTime encodeBufferSize workspaceSize reads) := by
    rw [hcontrol]
    rfl
  have hinv : RingInv d'.control.reports.ring := hreports ▸ ringInv_step _ h.ring
  have hlogStep := logStep_step
    (.capture plan reportTime encodeBufferSize workspaceSize reads) h.ring h.initialized
    (ringInv_step _ h.ring)
  rw [LogStep, if_pos hok] at hlogStep
  obtain ⟨entry, hcapture⟩ := hlogStep
  rw [← log_of_eq hreports (ringInv_step _ h.ring) hinv] at hcapture
  obtain ⟨evicted, -, hentries⟩ := hcapture.entries_eq
  -- the entry is that of the last slot of the ring
  have hlast : (d'.control.reports.ring.retained.getLast?).map (·.entry) = some entry := by
    rw [← List.getLast?_map]
    show (log _ hinv).entries.getLast? = some entry
    rw [hentries, List.getLast?_append]
    rfl
  have hnewest : newest d'.control.reports = [entry] := by
    rw [newest, hlast]
    rfl
  rw [hnewest] at hstored
  have hd' : DeliveryInv d' := by
    refine ⟨hinv, ?_, ?_, ?_, ?_, ?_⟩
    · rw [hreports]
      exact initialized_step h.initialized
    · rw [hcontrol]
      exact gateInv_step (fun heq => by cases heq) h.gate
    · rw [hentries, hstored]
      obtain ⟨older, holder⟩ := (List.drop_suffix evicted _).trans h.entries
      exact ⟨older, by rw [← List.append_assoc, holder]⟩
    · rw [hstored]
      refine h.numbered.concat (fun last hnext => ?_) ?_
      · exact hcapture.entryNumber.trans hnext.symm
      · obtain ⟨slot, hslot, rfl⟩ := Option.map_eq_some_iff.mp hlast
        exact (hinv.numbered.2 slot hslot).1
    · intro other hother
      rw [hstored, List.mem_append, List.mem_singleton] at hother
      rcases hother with hother | rfl
      · exact h.entryNumber_ne other hother
      · rw [hcapture.entryNumber]
        exact h.ring.nextEntryNumber_ne
  refine ⟨hd', entry, hstored, ?_⟩
  have hle := h.cursor_le
  have hle' := hd'.cursor_le
  have hpos : 0 < (log _ h.ring).capacity := Nat.lt_of_le_of_lt (Nat.zero_le _) h.ring.head_lt
  have hunread := congrArg List.length hd'.unread_eq
  rw [hstored, List.length_append, List.length_singleton] at hle'
  rw [List.length_drop, hstored, List.length_append, List.length_singleton] at hunread
  have hkept (heq : (log _ hinv).unread = (log _ h.ring).unread ++ [entry]) :
      d'.cursor = d.cursor := by
    rw [heq, h.unread_eq, List.length_append, List.length_drop, List.length_singleton] at hunread
    omega
  rcases hcapture.unread_eq with heq | ⟨heq, -, -, hmarked⟩
  · exact .inl (hkept heq)
  by_cases hend : d.cursor < d.stored.length
  · rcases (log _ h.ring).unread_append entry hpos with ⟨-, heq'⟩ | ⟨hloses, -⟩
    · exact .inl (hkept ((congrArg BoundedLog.unread hcapture.log_eq).trans heq'))
    · have hoverflow : d.control.reports.overflow = true := (overflow_iff h.ring).mpr hloses
      rw [overflow, Bool.and_eq_true] at hoverflow
      rw [heq, h.unread_eq, List.length_append, List.length_tail, List.length_drop,
        List.length_singleton] at hunread
      exact .inr ⟨hend, by omega, hoverflow.1, hmarked⟩
  · rw [heq, h.unread_eq, List.length_append, List.length_tail, List.length_drop,
      List.length_singleton] at hunread
    exact .inl (by omega)

/-- **A commit takes the report at the cursor, and no other.** -/
theorem DeliveryInv.committed (h : DeliveryInv d) (d' : Delivery κ) {entryId : Bytes}
    (hok : (d.control.reports.commitDelivery entryId).1 = .ok)
    (hcontrol : d'.control = d.control.step (.runtime (.commitDelivery entryId)))
    (hstored : d'.stored = d.stored) :
    DeliveryInv d' ∧ d'.cursor = d.cursor + 1 ∧ ∃ entry, d.stored[d.cursor]? = some entry ∧
      entryId = (encodeEntryId entry.entryNumber).toList := by
  have hreports : d'.control.reports = (d.control.reports.commitDelivery entryId).2 := by
    rw [hcontrol]
    rfl
  have hinv : RingInv d'.control.reports.ring :=
    hreports ▸ ringInv_step (.commitDelivery entryId) h.ring
  rcases commitDelivery_cases d.control.reports entryId with ⟨hne, -⟩ | ⟨-, hlt, hslot, heq⟩
  · exact absurd hok hne
  obtain ⟨slot, hslot, hid⟩ := hslot
  have hretained := h.ring.getElem?_retained (show d.control.reports.deliveryOffset < _ from hlt)
  have hnext : d'.control.reports.nextEntryNumber = d.control.reports.nextEntryNumber := by
    rw [hreports, heq]
    rfl
  have hmoved : Moved (log _ h.ring) (log _ hinv) := by
    have hlog := log_commitDelivery h.ring h.initialized entryId
      (ringInv_step (.commitDelivery entryId) h.ring)
    rw [log_of_eq hreports (ringInv_step (.commitDelivery entryId) h.ring) hinv, hlog]
    split <;> exact .inl rfl
  have hd' : DeliveryInv d' := by
    refine h.moved hstored hinv hmoved hnext ?_ ?_
    · rw [hreports, heq]
      exact h.initialized
    · rw [hcontrol]
      exact gateInv_step (fun heq => by cases heq) h.gate
  refine ⟨hd', ?_, slot.entry, ?_, ?_⟩
  · rw [cursor, cursor, hstored, hreports, heq]
    show _ + (d.control.reports.deliveryOffset + 1) = _
    rfl
  · have hhead := congrArg List.head? h.unread_eq
    rw [List.head?_drop, BoundedLog.unread, List.head?_drop, log, List.getElem?_map] at hhead
    rw [← hhead]
    show (d.control.reports.ring.retained[d.control.reports.deliveryOffset]?).map _ = _
    rw [hretained]
    show (d.control.reports.slots[_]?).map _ = _
    rw [show d.control.reports.slots[(d.control.reports.ring.head +
      d.control.reports.deliveryOffset) % d.control.reports.ring.slots.length]? = some slot
      from hslot]
    rfl
  · rw [hid]
    show _ = (encodeEntryId (decodeEntryId slot.entryId.toList)).toList
    rw [encodeEntryId_decodeEntryId]

/-- A poll stages the report at the cursor. -/
theorem DeliveryInv.front (h : DeliveryInv d) {view : MmsStaticBrcbEntryView}
    (hfront : d.control.reports.front = some view) :
    ∃ entry, d.stored[d.cursor]? = some entry ∧ view = entry.view := by
  obtain ⟨entry, hhead, rfl⟩ := front_eq_some h.ring hfront
  rw [h.unread_eq, List.head?_drop] at hhead
  exact ⟨entry, hhead, rfl⟩

/-! ## One step -/

/-- A granted request that moves the cursor. -/
def Moves (d : Delivery κ) : DeliveryEvent κ → Prop
  | .call (.request client nowMs asked) =>
    MovesCursor asked ∧ (d.control.request client nowMs asked).1 = .ok
  | _ => False

/-- A commit, with the result of the latest poll of its connection, that succeeds. -/
def Commits (d : Delivery κ) (who : κ) (staged : MmsStaticBrcbConnectionResult)
    (e : DeliveryEvent κ) : Prop :=
  ∃ connection nowMs, e = .commitSent who connection nowMs ∧ d.latest who = some staged ∧
    (commitSent connection d.control nowMs staged).1 = true

/-- A capture by which the full ring loses the report at the cursor; the report it stores is marked
with the overflow. -/
def Drops [DecidableEq κ] (d : Delivery κ) (e : DeliveryEvent κ) : Prop :=
  (∃ plan reportTime encodeBufferSize workspaceSize reads,
    e = .capture plan reportTime encodeBufferSize workspaceSize reads) ∧
  d.control.reports.full = true ∧ d.cursor < d.stored.length ∧
  (d.step e).cursor = d.cursor + 1 ∧
  ∃ entry, (d.step e).stored = d.stored ++ [entry] ∧ entry.bufferOverflow = true

variable [DecidableEq κ]

/-- A poll leaves the runtime alone. -/
theorem DeliveryInv.polled (h : DeliveryInv d) (who : κ) (connection : MmsStaticConnectionRuntime)
    (nowMs : UInt64) (responseSize workspaceSize : Nat) :
    DeliveryInv (d.step (.poll who connection nowMs responseSize workspaceSize)) ∧
      (d.step (.poll who connection nowMs responseSize workspaceSize)).cursor = d.cursor ∧
      (d.step (.poll who connection nowMs responseSize workspaceSize)).control.reports =
        d.control.reports := by
  have hcontrol : (d.step (.poll who connection nowMs responseSize workspaceSize)).control =
      (poll connection d.control nowMs responseSize workspaceSize).2 := rfl
  have honly : d.control.OnlyTicked nowMs
      (poll connection d.control nowMs responseSize workspaceSize).2 := by
    rcases poll_cases connection d.control nowMs responseSize workspaceSize with
      ⟨-, honly⟩ | ⟨entry, -, hall⟩
    · exact honly
    · rw [hall nowMs]
      exact .inl rfl
  have hreports := reports_onlyTicked h.gate honly
  have hstill : DeliveryInv (d.step (.poll who connection nowMs responseSize workspaceSize)) ∧
      (d.step (.poll who connection nowMs responseSize workspaceSize)).cursor = d.cursor := by
    refine h.still _ rfl ?_ ?_ ?_
    · rw [hcontrol, hreports]
    · rw [hcontrol, hreports]
      exact h.initialized
    · rw [hcontrol]
      exact h.gate.onlyTicked honly
  exact ⟨hstill.1, hstill.2, by rw [hcontrol, hreports]⟩

/-- A commit is refused without effect on the runtime, or it takes the report at the cursor, which
bears the identifier that was staged. -/
theorem DeliveryInv.commitSent (h : DeliveryInv d) (who : κ)
    (connection : MmsStaticConnectionRuntime) (nowMs : UInt64) :
    DeliveryInv (d.step (.commitSent who connection nowMs)) ∧
      ((d.step (.commitSent who connection nowMs)).cursor = d.cursor ∧
          (d.step (.commitSent who connection nowMs)).control.reports = d.control.reports ∨
        ∃ staged entry, d.Commits who staged (.commitSent who connection nowMs) ∧
          staged.status = .responseReady ∧
          (d.step (.commitSent who connection nowMs)).cursor = d.cursor + 1 ∧
          d.stored[d.cursor]? = some entry ∧
          staged.entryId = encodeEntryId entry.entryNumber) := by
  cases hlatest : d.latest who with
  | none =>
    have hsame : d.step (.commitSent who connection nowMs) = d := by simp only [step, hlatest]
    rw [hsame]
    exact ⟨h, .inl ⟨rfl, rfl⟩⟩
  | some staged =>
    have hcontrol : (d.step (.commitSent who connection nowMs)).control =
        (MmsStaticBrcbConnection.commitSent connection d.control nowMs staged).2 := by
      simp only [step, hlatest]
    have hstored : (d.step (.commitSent who connection nowMs)).stored = d.stored := by
      simp only [step, hlatest]
    rcases commitSent_cases connection d.control nowMs staged with
      ⟨-, honly⟩ | ⟨htrue, hready, hok, heq⟩
    · have hreports := reports_onlyTicked h.gate honly
      have hstill : DeliveryInv (d.step (.commitSent who connection nowMs)) ∧
          (d.step (.commitSent who connection nowMs)).cursor = d.cursor := by
        refine h.still _ hstored ?_ ?_ ?_
        · rw [hcontrol, hreports]
        · rw [hcontrol, hreports]
          exact h.initialized
        · rw [hcontrol]
          exact h.gate.onlyTicked honly
      exact ⟨hstill.1, .inl ⟨hstill.2, by rw [hcontrol, hreports]⟩⟩
    · obtain ⟨hinv, hcursor, entry, hentry, hid⟩ :=
        h.committed (d.step (.commitSent who connection nowMs)) hok (hcontrol.trans heq) hstored
      exact ⟨hinv, .inr ⟨staged, entry, ⟨connection, nowMs, rfl, hlatest, htrue⟩, hready, hcursor,
        hentry, Vector.toList_inj.mp hid⟩⟩

/-- **What one step does to the cursor.** -/
theorem step_cases (h : DeliveryInv d) (e : DeliveryEvent κ) :
    DeliveryInv (d.step e) ∧ d.stored <+: (d.step e).stored ∧
      (d.Moves e ∨ (d.step e).cursor = d.cursor ∨ d.Drops e ∨
        (d.step e).cursor = d.cursor + 1 ∧ ∃ who staged, d.Commits who staged e) := by
  cases e with
  | call call =>
    have hgate : GateInv (d.step (.call call)).control := gateInv_step (quiet_call call) h.gate
    have hinit := initialized_call h.gate h.initialized call
    rcases call_ring h.gate call with
      hring | ⟨client, nowMs, asked, rfl, hmoves, hok, operation, hreports, hmove⟩
    · obtain ⟨hinv, hcursor⟩ := h.still (d.step (.call call)) rfl hring hinit hgate
      exact ⟨hinv, List.prefix_refl _, .inr (.inl hcursor)⟩
    · have hlog := logStep_step operation h.ring h.initialized (ringInv_step operation h.ring)
      have hinv : RingInv (d.step (.call (.request client nowMs asked))).control.reports.ring :=
        congrArg ring hreports ▸ ringInv_step operation h.ring
      rw [← log_of_eq hreports (ringInv_step operation h.ring) hinv] at hlog
      refine ⟨h.moved rfl hinv (hmove.log _ _ hlog) ?_ hinit hgate, List.prefix_refl _,
        .inl ⟨hmoves, hok⟩⟩
      rw [← hmove.nextEntryNumber, ← hreports]
      rfl
  | capture plan reportTime encodeBufferSize workspaceSize reads =>
    rcases capture_cases d.control.reports plan reportTime encodeBufferSize workspaceSize reads with
      ⟨hne, heq⟩ | ⟨hok, -⟩
    · have hsame : d.step (.capture plan reportTime encodeBufferSize workspaceSize reads) = d := by
        simp only [step, if_neg hne, heq]
      rw [hsame]
      exact ⟨h, List.prefix_refl _, .inr (.inl rfl)⟩
    · obtain ⟨hinv, entry, hstored, hcase⟩ := h.captured
        (d.step (.capture plan reportTime encodeBufferSize workspaceSize reads)) hok rfl
        (by simp only [step, if_pos hok])
      refine ⟨hinv, ⟨[entry], hstored.symm⟩, .inr ?_⟩
      rcases hcase with hcursor | ⟨hlt, hcursor, hfull, hmarked⟩
      · exact .inl hcursor
      · exact .inr (.inl ⟨⟨plan, reportTime, encodeBufferSize, workspaceSize, reads, rfl⟩, hfull,
          hlt, hcursor, entry, hstored, hmarked⟩)
  | poll who connection nowMs responseSize workspaceSize =>
    obtain ⟨hinv, hcursor, -⟩ := h.polled who connection nowMs responseSize workspaceSize
    exact ⟨hinv, List.prefix_refl _, .inr (.inl hcursor)⟩
  | commitSent who connection nowMs =>
    obtain ⟨hinv, hcase⟩ := h.commitSent who connection nowMs
    refine ⟨hinv, ?_, ?_⟩
    · simp only [step]
      split <;> exact List.prefix_refl _
    · rcases hcase with ⟨hcursor, -⟩ | ⟨staged, -, hcommits, -, hcursor, -⟩
      · exact .inr (.inl hcursor)
      · exact .inr (.inr (.inr ⟨hcursor, who, staged, hcommits⟩))

/-! ## Runs -/

/-- A runtime as it is initialized, or restored from a recovery image. -/
structure Ready (rt : MmsStaticBrcbRuntime) : Prop where
  ring : RingInv rt.ring
  initialized : rt.initialized = true
  disabled : rt.enabled = false

theorem ready_initializeRuntime {rt rt' : MmsStaticBrcbRuntime}
    (h : rt.initializeRuntime = (true, rt')) : Ready rt' := by
  refine ⟨ringInv_initializeRuntime h, initialized_initializeRuntime h, ?_⟩
  obtain ⟨-, -, -, -, rfl⟩ := initializeRuntime_eq h
  rfl

omit [DecidableEq κ] in
theorem deliveryInv_start {rt : MmsStaticBrcbRuntime} (h : Ready rt) :
    DeliveryInv (start rt : Delivery κ) where
  ring := h.ring
  initialized := h.initialized
  gate := by
    have hoff : ¬rt.enabled = true := by
      rw [h.disabled]
      exact Bool.false_ne_true
    exact ⟨fun hon => absurd hon hoff, fun hon => absurd hon hoff⟩
  entries := List.suffix_refl _
  numbered := by
    refine ⟨?_, fun entry hlast => ?_⟩
    · refine (List.isChain_map _).mpr (h.ring.numbered.1.imp fun slot slot' hfollows => ?_)
      exact hfollows.1
    · rw [start, List.getLast?_map] at hlast
      obtain ⟨slot, hslot, rfl⟩ := Option.map_eq_some_iff.mp hlast
      exact (h.ring.numbered.2 slot hslot).1
  entryNumber_ne := by
    intro entry hentry
    obtain ⟨slot, hslot, rfl⟩ := List.mem_map.mp hentry
    exact (h.ring.holds slot hslot).entryNumber_ne

section Run

variable (rt : MmsStaticBrcbRuntime) (es : List (DeliveryEvent κ))

/-- Before event `i` of a run from `rt`. -/
def before (i : Nat) : Delivery κ := stateAt Delivery.step (start rt) es i

/-- Event `i` is a poll of `who` with this result. -/
def Polls (i : Nat) (who : κ) (result : MmsStaticBrcbConnectionResult) : Prop :=
  ∃ connection nowMs responseSize workspaceSize,
    es[i]? = some (.poll who connection nowMs responseSize workspaceSize) ∧
    (poll connection (before rt es i).control nowMs responseSize workspaceSize).1 = result

/-- The latest poll of `who` before event `i`. -/
def LatestPoll (p i : Nat) (who : κ) (result : MmsStaticBrcbConnectionResult) : Prop :=
  p < i ∧ Polls rt es p who result ∧ ∀ q, p < q → q < i → ∀ result', ¬Polls rt es q who result'

variable {rt es}

theorem before_succ {i : Nat} {e : DeliveryEvent κ} (h : es[i]? = some e) :
    before rt es (i + 1) = (before rt es i).step e := by
  obtain ⟨hi, rfl⟩ := List.getElem?_eq_some_iff.mp h
  exact stateAt_succ _ hi

theorem inv_before (h : Ready rt) (i : Nat) : DeliveryInv (before rt es i) :=
  stateAt_invariant (DeliveryInv : Delivery κ → Prop) (fun _ e hd => (step_cases hd e).1)
    (deliveryInv_start h) es i

/-- Behind the end of a run nothing changes. -/
theorem before_of_none {i : Nat} (h : es[i]? = none) :
    before rt es (i + 1) = before rt es i := by
  have hlen : es.length ≤ i := List.getElem?_eq_none_iff.mp h
  rw [before, before, stateAt, stateAt, List.take_of_length_le hlen,
    List.take_of_length_le (Nat.le_succ_of_le hlen)]

theorem stored_before (h : Ready rt) {i j : Nat} (hij : i ≤ j) :
    (before rt es i).stored <+: (before rt es j).stored := by
  induction j with
  | zero =>
    obtain rfl : i = 0 := by omega
    exact List.prefix_refl _
  | succ j ih =>
    by_cases hlast : i = j + 1
    · rw [hlast]
    · refine (ih (by omega)).trans ?_
      cases hget : es[j]? with
      | none => rw [before_of_none hget]
      | some e =>
        rw [before_succ hget]
        exact (step_cases (inv_before h j) e).2.1

/-- **What is committed was staged by the latest poll of the connection.** -/
theorem latest_before {i : Nat} {who : κ} {result : MmsStaticBrcbConnectionResult}
    (h : (before rt es i).latest who = some result) : ∃ p, LatestPoll rt es p i who result := by
  induction i with
  | zero => cases h
  | succ i ih =>
    have hkeep (hsame : (before rt es i).latest who = some result)
        (hno : ∀ connection nowMs responseSize workspaceSize,
          es[i]? ≠ some (.poll who connection nowMs responseSize workspaceSize)) :
        ∃ p, LatestPoll rt es p (i + 1) who result := by
      obtain ⟨p, hp, hpoll, hlatest⟩ := ih hsame
      refine ⟨p, by omega, hpoll, fun q hpq hq result' => ?_⟩
      rcases Nat.lt_succ_iff_lt_or_eq.mp hq with hlt | rfl
      · exact hlatest q hpq hlt result'
      · rintro ⟨connection, nowMs, responseSize, workspaceSize, hevent, -⟩
        exact hno connection nowMs responseSize workspaceSize hevent
    cases hget : es[i]? with
    | none =>
      rw [before_of_none hget] at h
      exact hkeep h fun _ _ _ _ hevent => by simp [hget] at hevent
    | some e =>
      rw [before_succ hget] at h
      cases e with
      | call call => exact hkeep h fun _ _ _ _ hevent => by simp [hget] at hevent
      | capture plan reportTime encodeBufferSize workspaceSize reads =>
        exact hkeep h fun _ _ _ _ hevent => by simp [hget] at hevent
      | poll who' connection nowMs responseSize workspaceSize =>
        by_cases hwho : who = who'
        · subst hwho
          simp only [step, Function.update_self] at h
          exact ⟨i, Nat.lt_succ_self i, ⟨connection, nowMs, responseSize, workspaceSize, hget,
            Option.some.inj h⟩, fun q hlt hle => absurd hlt (by omega)⟩
        · simp only [step, Function.update_of_ne hwho] at h
          refine hkeep h fun _ _ _ _ hevent => ?_
          rw [hget] at hevent
          cases hevent
          exact hwho rfl
      | commitSent who' connection nowMs =>
        have hsame : ((before rt es i).step (.commitSent who' connection nowMs)).latest =
            (before rt es i).latest := by
          simp only [step]
          split <;> rfl
        rw [hsame] at h
        exact hkeep h fun _ _ _ _ hevent => by simp [hget] at hevent

/-! ## Reports that are sent -/

/-- A poll that is ready is about the report at the cursor. -/
theorem about_of_polls (h : Ready rt) {i : Nat} {who : κ} {result : MmsStaticBrcbConnectionResult}
    (hpolls : Polls rt es i who result) (hready : result.status = .responseReady) :
    ∃ entry, (before rt es i).stored[(before rt es i).cursor]? = some entry ∧
      About entry result := by
  obtain ⟨connection, nowMs, responseSize, workspaceSize, -, rfl⟩ := hpolls
  rcases poll_cases connection (before rt es i).control nowMs responseSize workspaceSize with
    ⟨hne, -⟩ | ⟨view, hfront, hall⟩
  · exact absurd hready hne
  · obtain ⟨entry, hentry, rfl⟩ := (inv_before h i).front hfront
    rw [hall nowMs]
    exact ⟨entry, hentry, about_stage connection entry responseSize workspaceSize⟩

theorem encodeEntryId_injective {number number' : UInt64}
    (h : encodeEntryId number = encodeEntryId number') : number = number' := by
  rw [← decodeEntryId_encodeEntryId number, h, decodeEntryId_encodeEntryId]

omit [DecidableEq κ] in
/-- Two positions whose reports have the same number are one, or the numbers have gone round. -/
theorem DeliveryInv.same_or_far {d : Delivery κ} (h : DeliveryInv d) {k k' : Nat}
    {entry entry' : BrcbEntry} (hentry : d.stored[k]? = some entry)
    (hentry' : d.stored[k']? = some entry') (heq : entry.entryNumber = entry'.entryNumber) :
    k = k' ∨ k + (2 ^ 64 - 1) ≤ k' ∨ k' + (2 ^ 64 - 1) ≤ k := by
  rcases Nat.lt_trichotomy k k' with hlt | rfl | hlt
  · obtain ⟨n, rfl⟩ := Nat.exists_eq_add_of_le (Nat.le_of_lt hlt)
    have hnumber := iterate_of_isChain h.numbered.1 hentry hentry'
    have hne := h.entryNumber_ne entry (List.mem_of_getElem? hentry)
    have := le_of_iterate_nextEntryNumber hne (by omega) (hnumber.symm.trans heq.symm)
    exact .inr (.inl (by omega))
  · exact .inl rfl
  · obtain ⟨n, rfl⟩ := Nat.exists_eq_add_of_le (Nat.le_of_lt hlt)
    have hnumber := iterate_of_isChain h.numbered.1 hentry' hentry
    have hne := h.entryNumber_ne entry' (List.mem_of_getElem? hentry')
    have := le_of_iterate_nextEntryNumber hne (by omega) (hnumber.symm.trans heq)
    exact .inr (.inr (by omega))

/-- The report at a position stays there. -/
theorem getElem?_stored (h : Ready rt) {i j : Nat} (hij : i ≤ j) {k : Nat} {entry : BrcbEntry}
    (hentry : (before rt es i).stored[k]? = some entry) :
    (before rt es j).stored[k]? = some entry := by
  have hprefix : (before rt es i).stored <+: (before rt es j).stored := stored_before h hij
  obtain ⟨rest, hrest⟩ := hprefix
  rw [← hrest, List.getElem?_append_left (List.getElem?_eq_some_iff.mp hentry).1]
  exact hentry

/-- **A poll** leaves the runtime alone; a ready one is done again with the same bytes. -/
theorem poll_in_run (h : Ready rt) {i : Nat} {who : κ} {connection : MmsStaticConnectionRuntime}
    {nowMs : UInt64} {responseSize workspaceSize : Nat}
    (hevent : es[i]? = some (.poll who connection nowMs responseSize workspaceSize)) :
    (before rt es (i + 1)).control.reports = (before rt es i).control.reports ∧
    ((poll connection (before rt es i).control nowMs responseSize workspaceSize).1.status =
        .responseReady →
      ∃ entry, (before rt es i).stored[(before rt es i).cursor]? = some entry ∧
        (before rt es (i + 1)).control = (before rt es i).control ∧
        ∀ nowMs', (poll connection (before rt es i).control nowMs' responseSize workspaceSize).1 =
          stage connection entry.view responseSize workspaceSize) := by
  rw [before_succ hevent]
  refine ⟨((inv_before h i).polled who connection nowMs responseSize workspaceSize).2.2,
    fun hready => ?_⟩
  rcases poll_cases connection (before rt es i).control nowMs responseSize workspaceSize with
    ⟨hne, -⟩ | ⟨view, hfront, hall⟩
  · exact absurd hready hne
  · obtain ⟨entry, hentry, rfl⟩ := (inv_before h i).front hfront
    refine ⟨entry, hentry, ?_, fun nowMs' => by rw [hall nowMs']⟩
    show (poll connection (before rt es i).control nowMs responseSize workspaceSize).2 = _
    rw [hall nowMs]

/-- **A commit** takes the report at the cursor, which is the one that was sent unless the numbers
have gone round. -/
theorem commit_in_run (h : Ready rt) {i : Nat} {who : κ} {connection : MmsStaticConnectionRuntime}
    {nowMs : UInt64} (hevent : es[i]? = some (.commitSent who connection nowMs)) :
    (before rt es (i + 1)).control.reports = (before rt es i).control.reports ∨
    ∃ p staged entry, LatestPoll rt es p i who staged ∧ staged.status = .responseReady ∧
      (before rt es i).stored[(before rt es i).cursor]? = some entry ∧
      staged.entryId = encodeEntryId entry.entryNumber ∧
      (before rt es (i + 1)).cursor = (before rt es i).cursor + 1 ∧
      ((before rt es p).cursor = (before rt es i).cursor ∨
        (before rt es p).cursor + (2 ^ 64 - 1) ≤ (before rt es i).cursor ∨
        (before rt es i).cursor + (2 ^ 64 - 1) ≤ (before rt es p).cursor) := by
  rw [before_succ hevent]
  rcases ((inv_before h i).commitSent who connection nowMs).2 with
    ⟨-, hreports⟩ | ⟨staged, entry, ⟨_, _, -, hlatest, -⟩, hready, hcursor, hentry, hid⟩
  · exact .inl hreports
  · obtain ⟨p, hp⟩ := latest_before hlatest
    obtain ⟨sent, hsent, habout⟩ := about_of_polls h hp.2.1 hready
    have hnumber : sent.entryNumber = entry.entryNumber :=
      encodeEntryId_injective (habout.entryId.symm.trans hid)
    exact .inr ⟨p, staged, entry, hp, hready, hentry, hid, hcursor,
      (inv_before h i).same_or_far (getElem?_stored h (Nat.le_of_lt hp.1) hsent) hentry hnumber⟩

/-- **Between two moves of the cursor** each report is passed by a drop or by a commit. -/
theorem passed_in_run (h : Ready rt) {i j : Nat} (hij : i ≤ j)
    (hstay : ∀ m e, i ≤ m → m < j → es[m]? = some e → ¬(before rt es m).Moves e) :
    (before rt es i).cursor ≤ (before rt es j).cursor ∧
    ∀ k, (before rt es i).cursor ≤ k → k < (before rt es j).cursor →
      ∃ m e, i ≤ m ∧ m < j ∧ es[m]? = some e ∧ (before rt es m).cursor = k ∧
        (before rt es (m + 1)).cursor = k + 1 ∧
        ((before rt es m).Drops e ∨ ∃ who staged, (before rt es m).Commits who staged e) := by
  obtain ⟨hle, hmeet⟩ := exists_step_at (f := fun m => (before rt es m).cursor) hij
    fun m hi hj => by
      cases hget : es[m]? with
      | none => exact .inl (by rw [before_of_none hget])
      | some e =>
        rw [before_succ hget]
        rcases (step_cases (inv_before h m) e).2.2 with hmoves | hsame | hdrops | ⟨hnext, -⟩
        · exact absurd hmoves (hstay m e hi hj hget)
        · exact .inl hsame
        · exact .inr hdrops.2.2.2.1
        · exact .inr hnext
  refine ⟨hle, fun k hk hlt => ?_⟩
  obtain ⟨m, hi, hj, hat, hnext⟩ := hmeet k hk hlt
  cases hget : es[m]? with
  | none =>
    rw [before_of_none hget] at hnext
    omega
  | some e =>
    refine ⟨m, e, hi, hj, hget, hat, hnext, ?_⟩
    rw [before_succ hget] at hnext
    rcases (step_cases (inv_before h m) e).2.2 with hmoves | hsame | hdrops | ⟨-, hcommits⟩
    · exact absurd hmoves (hstay m e hi hj hget)
    · omega
    · exact .inl hdrops
    · exact .inr hcommits

/-- A commit is not repeated: the cursor has left the report. -/
theorem cursor_lt_of_commits (h : Ready rt) {m : Nat} {e : DeliveryEvent κ} {who : κ}
    {staged : MmsStaticBrcbConnectionResult} (hevent : es[m]? = some e)
    (hcommits : (before rt es m).Commits who staged e) :
    (before rt es (m + 1)).cursor = (before rt es m).cursor + 1 := by
  obtain ⟨connection, nowMs, rfl, hlatest, htrue⟩ := hcommits
  have hinv : DeliveryInv (before rt es m) := inv_before h m
  have hcontrol : ((before rt es m).step (.commitSent who connection nowMs)).control =
      (MmsStaticBrcbConnection.commitSent connection (before rt es m).control nowMs staged).2 := by
    simp only [step, hlatest]
  rw [before_succ hevent]
  rcases commitSent_cases connection (before rt es m).control nowMs staged with
    ⟨hfalse, -⟩ | ⟨-, -, hok, heq⟩
  · rw [hfalse] at htrue
    cases htrue
  · exact (hinv.committed _ hok (hcontrol.trans heq) (by simp only [step, hlatest])).2.1

/-- **In order and at least once.** In every run a poll leaves the runtime alone and is done again
with the same bytes; a commit takes exactly the report that was sent; and of two reports that are
sent between moves of the cursor the later one follows the earlier one, with every report between
them dropped by a capture from the full ring or committed after it was sent. -/
theorem delivery_in_order (rt : MmsStaticBrcbRuntime) (h : Ready rt)
    (es : List (DeliveryEvent κ)) :
    (∀ i who connection nowMs responseSize workspaceSize,
      es[i]? = some (.poll who connection nowMs responseSize workspaceSize) →
      (before rt es (i + 1)).control.reports = (before rt es i).control.reports ∧
      ((poll connection (before rt es i).control nowMs responseSize workspaceSize).1.status =
          .responseReady →
        ∃ entry, (before rt es i).stored[(before rt es i).cursor]? = some entry ∧
          (before rt es (i + 1)).control = (before rt es i).control ∧
          ∀ nowMs', (poll connection (before rt es i).control nowMs' responseSize
            workspaceSize).1 = stage connection entry.view responseSize workspaceSize)) ∧
    (∀ i who connection nowMs, es[i]? = some (.commitSent who connection nowMs) →
      (before rt es (i + 1)).control.reports = (before rt es i).control.reports ∨
      ∃ p staged entry, LatestPoll rt es p i who staged ∧ staged.status = .responseReady ∧
        (before rt es i).stored[(before rt es i).cursor]? = some entry ∧
        staged.entryId = encodeEntryId entry.entryNumber ∧
        (before rt es (i + 1)).cursor = (before rt es i).cursor + 1 ∧
        ((before rt es p).cursor = (before rt es i).cursor ∨
          (before rt es p).cursor + (2 ^ 64 - 1) ≤ (before rt es i).cursor ∨
          (before rt es i).cursor + (2 ^ 64 - 1) ≤ (before rt es p).cursor)) ∧
    ∀ i j who who' sent sent', i < j →
      Polls rt es i who sent → sent.status = .responseReady →
      Polls rt es j who' sent' → sent'.status = .responseReady →
      (∀ m e, i ≤ m → m < j → es[m]? = some e → ¬(before rt es m).Moves e) →
      ∃ n number, (before rt es j).cursor = (before rt es i).cursor + n ∧
        sent.entryId = encodeEntryId number ∧
        sent'.entryId = encodeEntryId (nextEntryNumber^[n] number) ∧
        (number.toNat + n < 2 ^ 64 → (nextEntryNumber^[n] number).toNat = number.toNat + n) ∧
        (n = 0 → ∀ m e, i ≤ m → m < j → es[m]? = some e →
          ∀ who staged, ¬(before rt es m).Commits who staged e) ∧
        ∀ k, (before rt es i).cursor ≤ k → k < (before rt es j).cursor →
          ∃ m e, i ≤ m ∧ m < j ∧ es[m]? = some e ∧ (before rt es m).cursor = k ∧
            (before rt es (m + 1)).cursor = k + 1 ∧
            ((before rt es m).Drops e ∨
              ∃ who staged, (before rt es m).Commits who staged e) := by
  refine ⟨fun i who connection nowMs responseSize workspaceSize hevent => poll_in_run h hevent,
    fun i who connection nowMs hevent => commit_in_run h hevent, ?_⟩
  intro i j who who' sent sent' hij hpolls hready hpolls' hready' hstay
  obtain ⟨hle, hpassed⟩ := passed_in_run h (Nat.le_of_lt hij) hstay
  obtain ⟨entry, hentry, habout⟩ := about_of_polls h hpolls hready
  obtain ⟨entry', hentry', habout'⟩ := about_of_polls h hpolls' hready'
  obtain ⟨n, hn⟩ := Nat.exists_eq_add_of_le hle
  have hstored := getElem?_stored h (Nat.le_of_lt hij) hentry
  have hnumber : entry'.entryNumber = nextEntryNumber^[n] entry.entryNumber :=
    iterate_of_isChain (inv_before h j).numbered.1 hstored (hn ▸ hentry')
  have hne : entry.entryNumber ≠ 0 :=
    (inv_before h i).entryNumber_ne entry (List.mem_of_getElem? hentry)
  refine ⟨n, entry.entryNumber, hn, habout.entryId, ?_, fun hlt => ?_, ?_, hpassed⟩
  · rw [habout'.entryId, hnumber]
  · have hpos : entry.entryNumber.toNat ≠ 0 := fun hzero => hne (UInt64.toNat_inj.mp hzero)
    rw [toNat_iterate_nextEntryNumber hne, Nat.mod_eq_of_lt (by omega)]
    omega
  · rintro rfl m e hi hj hevent who staged hcommits
    have hnext := cursor_lt_of_commits h hevent hcommits
    have hbefore := (passed_in_run h hi fun m' e' hi' hj' => hstay m' e' hi' (by omega)).1
    have hafter := (passed_in_run h (show m + 1 ≤ j from hj)
      fun m' e' hi' hj' => hstay m' e' (by omega) hj').1
    omega

end Run

/-! ## Sample runs -/

/-- The connection of `sampleClient associationId 0xA`. -/
def sampleBrcbConnection (associationId : UInt64) : MmsStaticConnectionRuntime where
  policy := { associationId := associationId, owner := [0xA] }
  state := .established
  mmsPresentationContextId := 3
  negotiatedTpduSizeBytes := 1024
  negotiatedMmsPduSize := 1000

def sampleRequest (associationId : UInt64) (asked : Request) : DeliveryEvent Bool :=
  .call (.request (sampleClient associationId 0xA) 0 asked)

def sampleReserve (associationId : UInt64) : DeliveryEvent Bool :=
  .call (.reserve (sampleClient associationId 0xA) 1 0)

def samplePoll (who : Bool) (associationId : UInt64) : DeliveryEvent Bool :=
  .poll who (sampleBrcbConnection associationId) 0 256 256

def sampleCommit (who : Bool) (associationId : UInt64) : DeliveryEvent Bool :=
  .commitSent who (sampleBrcbConnection associationId) 0

/-- Store a report by a general interrogation. -/
def sampleStore (d : Delivery Bool) : List (DeliveryEvent Bool) :=
  let gi := sampleRequest 1 .requestGeneralInterrogation
  [gi, .capture (((d.step gi).control.reports.nextDue 0).1.getD {}) [] 64 64
    (constantReads [0x83, 0x01, 0x01])]

/-- Store `n` reports behind `es`. -/
def sampleStores (rt : MmsStaticBrcbRuntime) : Nat → List (DeliveryEvent Bool) →
    List (DeliveryEvent Bool)
  | 0, es => es
  | n + 1, es => sampleStores rt n (es ++ sampleStore (exec Delivery.step (start rt) es))

/-- A ring of two slots that drops the first of three reports, after it was sent. -/
def droppedRun : List (DeliveryEvent Bool) :=
  let rt := (sampleRuntime [60, 60]).initializeRuntime.2
  let es := sampleStores rt 2 [sampleReserve 1, sampleRequest 1 (.setReportEnabled true)]
  sampleStores rt 1 (es ++ [samplePoll true 1]) ++ [sampleCommit true 1, samplePoll true 1]

theorem ready_sample : Ready (sampleRuntime [60, 60]).initializeRuntime.2 :=
  ready_initializeRuntime (show _ = (true, (sampleRuntime [60, 60]).initializeRuntime.2) from
    Prod.ext (by decide) rfl)

/-- A request that would move the cursor. -/
def asksMove : DeliveryEvent Bool → Bool
  | .call (.request _ _ (.replayFrom _)) | .call (.request _ _ (.resumeAfter _))
  | .call (.request _ _ .rewindToOldest) | .call (.request _ _ .purgeBuffer) => true
  | _ => false

theorem asksMove_of_moves {d : Delivery Bool} {e : DeliveryEvent Bool} (h : d.Moves e) :
    asksMove e = true := by
  cases e with
  | call call =>
    cases call with
    | request client nowMs asked =>
      obtain ⟨hmoves, -⟩ := h
      cases asked <;> first | rfl | exact hmoves.elim
    | _ => exact h.elim
  | _ => exact h.elim

/-- The report of the first poll was dropped before its commit; the second poll sends the next
one. -/
theorem delivery_in_order_sample :
    let rt := (sampleRuntime [60, 60]).initializeRuntime.2
    (exec Delivery.step (start rt) droppedRun).stored.map (·.bufferOverflow) =
        [false, false, true] ∧
      ∃ n number, (before rt droppedRun 10).cursor = (before rt droppedRun 6).cursor + n ∧
        encodeEntryId 1 = encodeEntryId number ∧
        encodeEntryId 2 = encodeEntryId (nextEntryNumber^[n] number) := by
  intro rt
  refine ⟨by decide, ?_⟩
  have hstay : ∀ e ∈ droppedRun.drop 6, asksMove e = false := by decide
  obtain ⟨n, number, hcursor, hfirst, hsecond, -⟩ := (delivery_in_order rt ready_sample
    droppedRun).2.2 6 10 true true _ _ (by decide)
    ⟨sampleBrcbConnection 1, 0, 256, 256, rfl, rfl⟩ (by decide)
    ⟨sampleBrcbConnection 1, 0, 256, 256, rfl, rfl⟩ (by decide)
    (fun m e hle _ hevent hmoves => by
      obtain ⟨k, rfl⟩ := Nat.exists_eq_add_of_le hle
      rw [← List.getElem?_drop] at hevent
      have hno := hstay e (List.mem_of_getElem? hevent)
      rw [asksMove_of_moves hmoves] at hno
      cases hno)
  refine ⟨n, number, hcursor, Eq.trans ?_ hfirst, Eq.trans ?_ hsecond⟩
  · decide
  · decide

/-- A runtime restored from an image whose next entry number is the last one. -/
def lastNumberRuntime : MmsStaticBrcbRuntime :=
  let fresh := (sampleRuntime [60, 60]).initializeRuntime.2
  let saved := { fresh with nextEntryNumber := uint64Max }
  (MmsStaticBrcbStateCodec.restore fresh (MmsStaticBrcbStateCodec.encode saved 256).bytes).2

/-- Two reports are stored, sent and committed. -/
def roundRun : List (DeliveryEvent Bool) :=
  sampleStores lastNumberRuntime 2 [sampleReserve 1, sampleRequest 1 (.setReportEnabled true)] ++
    [samplePoll true 1, sampleCommit true 1, samplePoll true 1]

/-- One connection sends the second of three reports; the owner comes back on another one and
rewinds, and then on the first one again. -/
def skippedRun : List (DeliveryEvent Bool) :=
  sampleStores (sampleRuntime [60, 60, 60]).initializeRuntime.2 3
      [sampleReserve 1, sampleRequest 1 (.setReportEnabled true)] ++
    [sampleRequest 1 (.setReportEnabled false),
      sampleRequest 1 (.resumeAfter (encodeEntryId 1).toList),
      sampleRequest 1 (.setReportEnabled true), samplePoll true 1,
      .call (.associationClosed 1 0), sampleReserve 2, sampleRequest 2 .rewindToOldest,
      sampleRequest 2 (.setReportEnabled true), samplePoll false 2, sampleCommit false 2,
      .call (.associationClosed 2 0), sampleReserve 1, sampleRequest 1 (.setReportEnabled true),
      sampleCommit true 1, samplePoll true 1]

/-- **Reports out of numerical order, and one that is skipped though nothing was stored.** The
number after the last one is 1; and a commit of a report that was sent before the cursor moved is
accepted when the cursor has come back to it. -/
theorem delivery_unrestricted :
    (∃ sent sent', Polls lastNumberRuntime roundRun 6 true sent ∧
      Polls lastNumberRuntime roundRun 8 true sent' ∧
      sent.status = .responseReady ∧ sent'.status = .responseReady ∧
      sent.entryId = encodeEntryId uint64Max ∧ sent'.entryId = encodeEntryId 1 ∧
      ∀ e ∈ roundRun, asksMove e = false) ∧
    (let rt := (sampleRuntime [60, 60, 60]).initializeRuntime.2
     skippedRun.drop 16 =
        [samplePoll false 2, sampleCommit false 2, .call (.associationClosed 2 0),
          sampleReserve 1, sampleRequest 1 (.setReportEnabled true), sampleCommit true 1,
          samplePoll true 1] ∧
      ∃ sent sent', Polls rt skippedRun 16 false sent ∧ Polls rt skippedRun 22 true sent' ∧
        sent.status = .responseReady ∧ sent'.status = .responseReady ∧
        sent.entryId = encodeEntryId 1 ∧ sent'.entryId = encodeEntryId 3) := by
  refine ⟨⟨_, _, ⟨sampleBrcbConnection 1, 0, 256, 256, rfl, rfl⟩,
    ⟨sampleBrcbConnection 1, 0, 256, 256, rfl, rfl⟩, ?_⟩, rfl, _, _,
    ⟨sampleBrcbConnection 2, 0, 256, 256, rfl, rfl⟩,
    ⟨sampleBrcbConnection 1, 0, 256, 256, rfl, rfl⟩, ?_⟩
  · decide +kernel
  · decide +kernel

end Delivery

end ArStack.Mms
