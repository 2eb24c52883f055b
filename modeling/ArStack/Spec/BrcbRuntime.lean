import ArStack.Mms.StaticBrcbRuntime

/-!
# What the operations of the BRCB runtime do

One lemma per operation says everything it can do to the ring, to the pending state and to
the configuration; the invariants are derived from these and never unfold an operation.

* `Ring`, `Fixed` — the fields that only some operations touch
* `Captured`, `capture_cases` — a capture fails without effect or stores one report
* `moveCursor_cases`, `commitDelivery_cases` — the deliveries
-/

namespace ArStack.Mms

open ArStack.Lib ArStack.Wire

namespace MmsStaticBrcbRuntime

/-- The retained entries, oldest first. -/
def retained (rt : MmsStaticBrcbRuntime) : List MmsStaticBrcbSlot :=
  window rt.slots rt.head rt.count

/-- The fields of the ring. -/
structure Ring where
  slots : List MmsStaticBrcbSlot
  head : Nat
  count : Nat
  deliveryOffset : Nat
  nextEntryNumber : UInt64
  sequenceNumber : UInt8
  droppedReports : UInt64
  replayGap : Bool

def ring (rt : MmsStaticBrcbRuntime) : Ring where
  slots := rt.slots
  head := rt.head
  count := rt.count
  deliveryOffset := rt.deliveryOffset
  nextEntryNumber := rt.nextEntryNumber
  sequenceNumber := rt.sequenceNumber
  droppedReports := rt.droppedReports
  replayGap := rt.replayGap

/-- What no operation changes. -/
structure Fixed where
  definition : MmsStaticBrcbDefinition
  objects : MmsStaticObjectTable
  dataSets : MmsStaticDataSetTable
  sizes : List Nat
  initialized : Bool

def fixed (rt : MmsStaticBrcbRuntime) : Fixed where
  definition := rt.definition
  objects := rt.objects
  dataSets := rt.dataSets
  sizes := rt.slots.map (·.storage.length)
  initialized := rt.initialized

variable {rt : MmsStaticBrcbRuntime}

/-! ## Operations beside the ring -/

theorem ring_setEnabled (enabled : Bool) : (rt.setEnabled enabled).2.ring = rt.ring := by
  rw [setEnabled]
  split
  · rfl
  · split <;> rfl

theorem ring_configure {valid unchanged : Bool}
    {update : MmsStaticBrcbRuntime → MmsStaticBrcbRuntime} (h : (update rt).ring = rt.ring) :
    (rt.configure valid unchanged update).2.ring = rt.ring := by
  rw [configure]
  repeat' split
  all_goals first | rfl | exact h

theorem ring_notify (index : Nat) (reason : MmsStaticBrcbEventReason) (nowMs : UInt64) :
    (rt.notify index reason nowMs).2.ring = rt.ring := by
  simp only [notify]
  repeat' split
  all_goals rfl

theorem ring_requestGeneralInterrogation : rt.requestGeneralInterrogation.2.ring = rt.ring := by
  rw [requestGeneralInterrogation]
  repeat' split
  all_goals rfl

theorem ring_armIntegrity (nowMs : UInt64) : (rt.armIntegrity nowMs).ring = rt.ring := by
  rw [armIntegrity]
  split <;> rfl

theorem ring_nextDue (nowMs : UInt64) : (rt.nextDue nowMs).2.ring = rt.ring := by
  simp only [nextDue]
  split
  · rfl
  · split <;> exact ring_armIntegrity nowMs

theorem ring_settle (plan : MmsStaticBrcbCapturePlan) : (rt.settle plan).ring = rt.ring := by
  rw [settle]
  cases plan.reason <;> rfl

/-! ## Capture -/

theorem readMember_error {objects : MmsStaticObjectTable} {reads : ReadCallbacks}
    {workspaceSize : Nat} {included : Included} {member : MmsStaticDataSetMember}
    {result : MmsStaticBrcbCaptureResult}
    (h : readMember objects reads workspaceSize included member = .error result) :
    result.status ≠ .ok := by
  simp only [readMember] at h
  split at h
  · cases h
    simp
  · split at h
    · cases h
      simp
    · split at h
      · cases h
        simp
      · cases h

theorem collectMembers_error {objects : MmsStaticObjectTable} {reads : ReadCallbacks}
    {workspaceSize : Nat} {reasonMask : Nat → UInt8} {members : List MmsStaticDataSetMember}
    {memberIndex : Nat} {included : Included} {result : MmsStaticBrcbCaptureResult}
    (h : collectMembers objects reads workspaceSize reasonMask members memberIndex included
      = .error result) : result.status ≠ .ok := by
  induction members generalizing memberIndex included with
  | nil => cases h
  | cons member members ih =>
    rw [collectMembers] at h
    split at h
    · exact ih h
    · cases hread : readMember objects reads workspaceSize included member with
      | error result' =>
        rw [hread] at h
        obtain rfl : result' = result := by simpa using h
        exact readMember_error hread
      | ok data =>
        rw [hread] at h
        exact ih h

/-- The members a report includes are those with a reason, in data set order. -/
theorem collectMembers_ok {objects : MmsStaticObjectTable} {reads : ReadCallbacks}
    {workspaceSize : Nat} {reasonMask : Nat → UInt8} {members : List MmsStaticDataSetMember}
    {memberIndex : Nat} {start included : Included}
    (h : collectMembers objects reads workspaceSize reasonMask members memberIndex start
      = .ok included) :
    included.indices = start.indices ++
        (List.range' memberIndex members.length).filter (reasonMask · ≠ 0) ∧
      included.reasons = start.reasons ++
        ((List.range' memberIndex members.length).filter (reasonMask · ≠ 0)).map reasonMask := by
  induction members generalizing memberIndex start with
  | nil =>
    obtain rfl := Except.ok.inj h
    simp
  | cons member members ih =>
    rw [collectMembers] at h
    rw [List.length_cons, List.range'_succ]
    split at h
    · rename_i hzero
      rw [List.filter_cons_of_neg (by simpa using hzero)]
      exact ih h
    · rename_i hne
      rw [List.filter_cons_of_pos (by simpa using hne), List.map_cons]
      cases hread : readMember objects reads workspaceSize start member with
      | error result =>
        rw [hread] at h
        cases h
      | ok data =>
        rw [hread] at h
        obtain ⟨hind, hrea⟩ := ih h
        rw [hind, hrea, Included.add]
        simp

/-- A capture that stored the report `encoded` of the members `included`. -/
structure Captured (rt : MmsStaticBrcbRuntime) (plan : MmsStaticBrcbCapturePlan)
    (reportTime : Bytes) (encodeBufferSize workspaceSize : Nat) (reads : ReadCallbacks)
    (dataSet : MmsStaticDataSetEntry) (included : Included) (encoded : EncodeResult)
    (slot : MmsStaticBrcbSlot) : Prop where
  initialized : rt.initialized = true
  slots_ne : rt.slots ≠ []
  deliveryOffset_le : rt.deliveryOffset ≤ rt.count
  fresh : rt.stale plan = false
  dataSet_eq : rt.dataSet = some dataSet
  collected : collectMembers rt.objects reads workspaceSize (rt.memberReason plan.reason)
    dataSet.members 0 {} = .ok included
  included_ne : included.indices.length ≠ 0
  included_eq : included.indices.length = rt.expectedIncluded plan dataSet
  encoded_eq : MmsBufferedSelectiveInformationReportSpanCodec.encodeSnapshotInto
    (rt.reportInput plan reportTime dataSet included) encodeBufferSize = encoded
  encoded_ok : encoded.status = .ok
  slot_eq : rt.slots[rt.targetIndex]? = some slot
  slot_fits : encoded.bytes.length ≤ slot.storage.length

/-- The state after storing `encoded`. -/
def afterCapture (rt : MmsStaticBrcbRuntime) (plan : MmsStaticBrcbCapturePlan)
    (reportTime : Bytes) (encoded : EncodeResult) (slot : MmsStaticBrcbSlot) :
    MmsStaticBrcbRuntime :=
  ((rt.advance plan (filledSlot slot plan reportTime encoded.bytes)).settle plan).bumpQueue

/-- **A capture fails without effect, or it stores one report.** -/
theorem capture_cases (rt : MmsStaticBrcbRuntime) (plan : MmsStaticBrcbCapturePlan) (reportTime : Bytes)
    (encodeBufferSize workspaceSize : Nat) (reads : ReadCallbacks) :
    ((rt.capture plan reportTime encodeBufferSize workspaceSize reads).1.status ≠ .ok ∧
      (rt.capture plan reportTime encodeBufferSize workspaceSize reads).2 = rt) ∨
    (rt.capture plan reportTime encodeBufferSize workspaceSize reads).1.status = .ok ∧
      ∃ dataSet included encoded slot,
        Captured rt plan reportTime encodeBufferSize workspaceSize reads dataSet included encoded
          slot ∧
        (rt.capture plan reportTime encodeBufferSize workspaceSize reads).2
          = rt.afterCapture plan reportTime encoded slot := by
  rw [capture]
  split
  · exact .inl ⟨by simp, rfl⟩
  rename_i hready
  simp only [Bool.or_eq_true, Bool.not_eq_true', decide_eq_true_eq, not_or,
    Bool.not_eq_false, List.isEmpty_iff, Nat.not_lt] at hready
  split
  · exact .inl ⟨by simp, rfl⟩
  rename_i hfresh
  cases hds : rt.dataSet with
  | none => exact .inl ⟨by simp, rfl⟩
  | some dataSet =>
    simp only
    cases hcol : collectMembers rt.objects reads workspaceSize (rt.memberReason plan.reason)
        dataSet.members 0 {} with
    | error result => exact .inl ⟨collectMembers_error hcol, rfl⟩
    | ok included =>
      simp only
      split
      · exact .inl ⟨by simp, rfl⟩
      rename_i hcount
      rw [not_or, Decidable.not_not] at hcount
      simp only [storeReport]
      split
      · refine .inl ⟨?_, rfl⟩
        split <;> simp
      rename_i hok
      cases hslot : rt.slots[rt.targetIndex]? with
      | none => exact .inl ⟨by simp, rfl⟩
      | some slot =>
        simp only
        split
        · exact .inl ⟨by simp, rfl⟩
        rename_i hfits
        refine .inr ⟨rfl, dataSet, included, _, slot, ?_, rfl⟩
        exact
          { initialized := hready.1.1
            slots_ne := hready.1.2
            deliveryOffset_le := hready.2
            fresh := by simpa using hfresh
            dataSet_eq := hds
            collected := hcol
            included_ne := hcount.1
            included_eq := hcount.2
            encoded_eq := rfl
            encoded_ok := by simpa [EncodeResult.success] using hok
            slot_eq := hslot
            slot_fits := Nat.not_lt.mp hfits }

/-- What a plan that is not stale agrees with. -/
structure Fresh (rt : MmsStaticBrcbRuntime) (plan : MmsStaticBrcbCapturePlan) : Prop where
  enabled : rt.enabled = true
  reason_ne : plan.reason ≠ .none
  entryNumber : plan.entryNumber = rt.nextEntryNumber
  sequenceNumber : plan.sequenceNumber = nextSequenceNumber rt.sequenceNumber
  bufferOverflow : plan.bufferOverflow = rt.overflow
  event : plan.reason = .event → rt.pending.pending = true ∧ rt.pending.pendingMemberCount ≠ 0

theorem fresh_of_stale {plan : MmsStaticBrcbCapturePlan} (h : rt.stale plan = false) :
    Fresh rt plan := by
  simp only [stale, Bool.or_eq_false_iff, Bool.and_eq_false_iff, Bool.not_eq_false',
    bne_eq_false_iff_eq, beq_eq_false_iff_ne, ne_eq, beq_iff_eq] at h
  obtain ⟨⟨⟨⟨⟨⟨⟨⟨⟨henabled, hreason⟩, -⟩, hentry⟩, hseq⟩, hoverflow⟩, hevent⟩, -⟩, -⟩, -⟩ := h
  refine ⟨henabled, fun hnone => ?_, hentry, hseq, hoverflow, fun hplan => ?_⟩
  · rw [hnone] at hreason
    simp at hreason
  · rcases hevent with h | h
    · exact absurd hplan h
    · exact h.1

/-! ## Deliveries -/

theorem commitDelivery_cases (rt : MmsStaticBrcbRuntime) (entryId : Bytes) :
    ((rt.commitDelivery entryId).1 ≠ .ok ∧ (rt.commitDelivery entryId).2 = rt) ∨
    (rt.commitDelivery entryId).1 = .ok ∧ rt.deliveryOffset < rt.count ∧
      (∃ slot, rt.slots[(rt.head + rt.deliveryOffset) % rt.slots.length]? = some slot ∧
        entryId = slot.entryId.toList) ∧
      (rt.commitDelivery entryId).2
        = { rt.bumpQueue with deliveryOffset := rt.deliveryOffset + 1 } := by
  rw [commitDelivery]
  split
  · exact .inl ⟨by simp, rfl⟩
  split
  · exact .inl ⟨by simp, rfl⟩
  rename_i hin
  cases hslot : rt.slots[(rt.head + rt.deliveryOffset) % rt.slots.length]? with
  | none => exact .inl ⟨by simp, rfl⟩
  | some slot =>
    simp only
    split
    · exact .inl ⟨by simp, rfl⟩
    rename_i hid
    simp only [Bool.or_eq_true, Bool.not_eq_true', not_or, Bool.not_eq_false, entryIdEqual,
      beq_iff_eq] at hid
    exact .inr ⟨rfl, by omega, ⟨slot, rfl, hid.2⟩, rfl⟩

theorem findEntry_eq_some {entryId : Bytes} {logical : Nat}
    (h : rt.findEntry entryId = some logical) :
    logical < rt.count ∧ rt.count ≤ rt.slots.length ∧
      ∃ slot, rt.slots[(rt.head + logical) % rt.slots.length]? = some slot ∧
        entryId = slot.entryId.toList := by
  rw [findEntry] at h
  split at h
  · simp at h
  rename_i hready
  simp only [Bool.or_eq_true, decide_eq_true_eq, not_or] at hready
  have hmem := List.mem_of_find?_eq_some h
  have hp := List.find?_some h
  refine ⟨List.mem_range.mp hmem, by omega, ?_⟩
  cases hslot : rt.slots[(rt.head + logical) % rt.slots.length]? with
  | none => simp [hslot] at hp
  | some slot =>
    simp only [hslot, Bool.and_eq_true, entryIdEqual, beq_iff_eq] at hp
    exact ⟨slot, rfl, hp.2⟩

theorem moveCursor_cases (rt : MmsStaticBrcbRuntime) (entryId : Bytes) (behind : Nat) :
    ((rt.moveCursor entryId behind).1 ≠ .ok ∧ (rt.moveCursor entryId behind).2 = rt) ∨
    (rt.moveCursor entryId behind).1 = .ok ∧ ∃ logical, rt.findEntry entryId = some logical ∧
      (rt.moveCursor entryId behind).2
        = { rt.bumpQueue with deliveryOffset := logical + behind } := by
  rw [moveCursor]
  split
  · exact .inl ⟨by simp, rfl⟩
  cases hfind : rt.findEntry entryId with
  | none => exact .inl ⟨by simp, rfl⟩
  | some logical => exact .inr ⟨rfl, logical, rfl, rfl⟩

theorem rewindToOldest_cases (rt : MmsStaticBrcbRuntime) :
    (rt.rewindToOldest.1 ≠ .ok ∧ rt.rewindToOldest.2 = rt) ∨
    rt.rewindToOldest.1 = .ok ∧
      rt.rewindToOldest.2 = { rt.bumpQueue with deliveryOffset := 0 } := by
  rw [rewindToOldest]
  split
  · exact .inl ⟨by simp, rfl⟩
  · exact .inr ⟨rfl, rfl⟩

theorem purgeBuffer_cases (rt : MmsStaticBrcbRuntime) :
    (rt.purgeBuffer.1 ≠ .ok ∧ rt.purgeBuffer.2 = rt) ∨
    rt.purgeBuffer.1 = .ok ∧
      rt.purgeBuffer.2 =
        { rt.bumpQueue with
          slots := rt.clearRetainedSlots
          head := 0
          count := 0
          deliveryOffset := 0
          replayGap := false } := by
  rw [purgeBuffer]
  split
  · exact .inl ⟨by simp, rfl⟩
  · exact .inr ⟨rfl, rfl⟩

/-! ## The pending state -/

/-- The pending state after it is cleared. -/
def clearedPending (rt : MmsStaticBrcbRuntime) : MmsStaticBrcbPendingState :=
  { clearPending rt.pending with revision := bumpRevision (clearPending rt.pending).revision }

theorem pending_setEnabled (enabled : Bool) (hinit : rt.initialized = true) :
    (rt.setEnabled enabled).2.pending
      = if rt.enabled = enabled then rt.pending else rt.clearedPending := by
  rw [setEnabled, if_neg (by simp [hinit])]
  split <;> rfl

theorem configure_cases (rt : MmsStaticBrcbRuntime) (valid unchanged : Bool)
    (update : MmsStaticBrcbRuntime → MmsStaticBrcbRuntime) :
    (((rt.configure valid unchanged update).1 ≠ .ok ∨ unchanged = true) ∧
      (rt.configure valid unchanged update).2 = rt) ∨
    (rt.configure valid unchanged update).1 = .ok ∧ unchanged = false ∧
      (rt.configure valid unchanged update).2 = (update rt).discardSchedule := by
  rw [configure]
  split
  · exact .inl ⟨.inl (by simp), rfl⟩
  split
  · exact .inl ⟨.inl (by simp), rfl⟩
  split
  · exact .inl ⟨.inl (by simp), rfl⟩
  split
  · rename_i h
    exact .inl ⟨.inr h, rfl⟩
  · rename_i h
    exact .inr ⟨rfl, by simpa using h, rfl⟩

theorem notify_cases (rt : MmsStaticBrcbRuntime) (index : Nat) (reason : MmsStaticBrcbEventReason)
    (nowMs : UInt64) :
    ((rt.notify index reason nowMs).1 ≠ .ok ∧ (rt.notify index reason nowMs).2 = rt) ∨
    (rt.notify index reason nowMs).1 = .ok ∧ rt.enabled = true ∧
      ∃ (hi : index < maximumMembers) (dataSet : MmsStaticDataSetEntry),
        rt.dataSet = some dataSet ∧ index < dataSet.members.length ∧
        (rt.notify index reason nowMs).2 =
          { rt with pending := rt.markMember ⟨index, hi⟩ (eventMapping reason).2 nowMs } := by
  simp only [notify]
  split
  · exact .inl ⟨by simp, rfl⟩
  split
  · exact .inl ⟨by simp, rfl⟩
  rename_i henabled
  split
  · exact .inl ⟨by simp, rfl⟩
  cases hds : rt.dataSet with
  | none => exact .inl ⟨by simp, rfl⟩
  | some dataSet =>
    simp only
    split
    · rename_i hi
      exact .inr ⟨rfl, by simpa using henabled, hi.2, dataSet, rfl, hi.1, rfl⟩
    · exact .inl ⟨by simp, rfl⟩

theorem pending_requestGeneralInterrogation :
    rt.requestGeneralInterrogation.2.pending = rt.pending := by
  rw [requestGeneralInterrogation]
  repeat' split
  all_goals rfl

theorem pending_nextDue (nowMs : UInt64) : (rt.nextDue nowMs).2.pending = rt.pending := by
  have harm : (rt.armIntegrity nowMs).pending = rt.pending := by
    rw [armIntegrity]
    split <;> rfl
  simp only [nextDue]
  split
  · rfl
  · split <;> exact harm

theorem pending_advance (rt : MmsStaticBrcbRuntime) (plan : MmsStaticBrcbCapturePlan) (slot : MmsStaticBrcbSlot) :
    (rt.advance plan slot).pending = rt.pending := by
  simp only [advance]
  repeat' split
  all_goals rfl

/-- Only an event capture clears the pending state. -/
theorem pending_afterCapture (plan : MmsStaticBrcbCapturePlan) (reportTime : Bytes)
    (encoded : EncodeResult) (slot : MmsStaticBrcbSlot) :
    (rt.afterCapture plan reportTime encoded slot).pending
      = if plan.reason = .event then rt.clearedPending else rt.pending := by
  have hadv := rt.pending_advance plan (filledSlot slot plan reportTime encoded.bytes)
  rw [clearedPending, ← hadv, afterCapture, bumpQueue, settle]
  cases plan.reason <;> rfl

theorem pending_moveCursor (entryId : Bytes) (behind : Nat) :
    (rt.moveCursor entryId behind).2.pending = rt.pending := by
  rcases moveCursor_cases rt entryId behind with ⟨-, heq⟩ | ⟨-, _, -, heq⟩
  · rw [heq]
  · rw [heq]
    rfl

/-! ## What no operation changes -/

theorem fixed_configure {valid unchanged : Bool}
    {update : MmsStaticBrcbRuntime → MmsStaticBrcbRuntime} (h : (update rt).fixed = rt.fixed) :
    (rt.configure valid unchanged update).2.fixed = rt.fixed := by
  rw [configure]
  repeat' split
  all_goals first | rfl | exact h

theorem fixed_setEnabled (enabled : Bool) : (rt.setEnabled enabled).2.fixed = rt.fixed := by
  rw [setEnabled]
  split
  · rfl
  · split <;> rfl

theorem fixed_notify (index : Nat) (reason : MmsStaticBrcbEventReason) (nowMs : UInt64) :
    (rt.notify index reason nowMs).2.fixed = rt.fixed := by
  simp only [notify]
  repeat' split
  all_goals rfl

theorem fixed_requestGeneralInterrogation : rt.requestGeneralInterrogation.2.fixed = rt.fixed := by
  rw [requestGeneralInterrogation]
  repeat' split
  all_goals rfl

theorem fixed_armIntegrity (nowMs : UInt64) : (rt.armIntegrity nowMs).fixed = rt.fixed := by
  rw [armIntegrity]
  split <;> rfl

theorem fixed_nextDue (nowMs : UInt64) : (rt.nextDue nowMs).2.fixed = rt.fixed := by
  simp only [nextDue]
  split
  · rfl
  · split <;> exact fixed_armIntegrity nowMs

theorem fixed_settle (plan : MmsStaticBrcbCapturePlan) : (rt.settle plan).fixed = rt.fixed := by
  rw [settle]
  cases plan.reason <;> rfl

theorem fixed_bumpQueue : rt.bumpQueue.fixed = rt.fixed := rfl

theorem fixed_moveCursor (entryId : Bytes) (behind : Nat) :
    (rt.moveCursor entryId behind).2.fixed = rt.fixed := by
  rcases moveCursor_cases rt entryId behind with ⟨-, heq⟩ | ⟨-, _, -, heq⟩
  · rw [heq]
  · rw [heq]
    rfl

/-- Purging keeps the capacities. -/
theorem sizes_clearRetainedSlots :
    rt.clearRetainedSlots.map (·.storage.length) = rt.slots.map (·.storage.length) := by
  rw [clearRetainedSlots, List.map_map]
  rfl

/-- A slot keeps its capacity when a report is stored in it. -/
theorem fixed_advance {plan : MmsStaticBrcbCapturePlan} {slot slot' : MmsStaticBrcbSlot}
    (hslot : rt.slots[rt.targetIndex]? = some slot)
    (hlen : slot'.storage.length = slot.storage.length) :
    (rt.advance plan slot').fixed = rt.fixed := by
  have hset : (rt.slots.set rt.targetIndex slot').map (·.storage.length)
      = rt.slots.map (·.storage.length) := by
    rw [List.map_set, hlen]
    refine List.ext_getElem? fun k => ?_
    rw [List.getElem?_set]
    split
    · rename_i hk
      subst hk
      rw [List.getElem?_map, hslot, List.length_map]
      have := (List.getElem?_eq_some_iff.mp hslot).1
      simp [this]
    · rfl
  simp only [advance]
  repeat' split
  all_goals simp only [fixed, hset]

/-- **Definition, tables and slot capacities never change.** -/
theorem fixed_step (op : Operation) : (rt.step op).fixed = rt.fixed := by
  cases op with
  | setEnabled enabled => rw [step, fixed_setEnabled]
  | setOptionalFields optionalFields =>
    rw [step, setOptionalFields, fixed_configure]
    rfl
  | setTriggerOptions triggerOptions =>
    rw [step, setTriggerOptions, fixed_configure]
    rfl
  | setIntegrityPeriod integrityPeriodMs =>
    rw [step, setIntegrityPeriod, fixed_configure]
    rfl
  | notify index reason nowMs => rw [step, fixed_notify]
  | requestGeneralInterrogation => rw [step, fixed_requestGeneralInterrogation]
  | nextDue nowMs => rw [step, fixed_nextDue]
  | capture plan reportTime encodeBufferSize workspaceSize reads =>
    rw [step]
    rcases capture_cases rt plan reportTime encodeBufferSize workspaceSize reads with
      ⟨-, heq⟩ | ⟨-, dataSet, included, encoded, slot, hcap, heq⟩
    · rw [heq]
    · have hlen : (filledSlot slot plan reportTime encoded.bytes).storage.length
          = slot.storage.length := by
        have := hcap.slot_fits
        simp only [filledSlot, List.length_append, List.length_drop]
        omega
      rw [heq, afterCapture, fixed_bumpQueue, fixed_settle, fixed_advance hcap.slot_eq hlen]
  | commitDelivery entryId =>
    rw [step]
    rcases commitDelivery_cases rt entryId with ⟨-, heq⟩ | ⟨-, -, -, heq⟩
    · rw [heq]
    · rw [heq]
      rfl
  | replayFrom entryId =>
    rw [step, replayFrom, fixed_moveCursor]
  | resumeAfter entryId =>
    rw [step, resumeAfter, fixed_moveCursor]
  | rewindToOldest =>
    rw [step]
    rcases rewindToOldest_cases rt with ⟨-, heq⟩ | ⟨-, heq⟩
    · rw [heq]
    · rw [heq]
      rfl
  | purgeBuffer =>
    rw [step]
    rcases purgeBuffer_cases rt with ⟨-, heq⟩ | ⟨-, heq⟩
    · rw [heq]
    · rw [heq, fixed, sizes_clearRetainedSlots]
      rfl

theorem initialized_step {op : Operation} (h : rt.initialized = true) :
    (rt.step op).initialized = true := by
  have heq : (rt.step op).fixed.initialized = rt.fixed.initialized := by rw [fixed_step]
  exact heq.trans h

/-! ## Who enables -/

theorem enabled_configure {valid unchanged : Bool}
    {update : MmsStaticBrcbRuntime → MmsStaticBrcbRuntime}
    (h : (update rt).enabled = rt.enabled) :
    (rt.configure valid unchanged update).2.enabled = rt.enabled := by
  rcases configure_cases rt valid unchanged update with ⟨-, heq⟩ | ⟨-, -, heq⟩
  · rw [heq]
  · rw [heq]
    exact h

theorem enabled_nextDue (nowMs : UInt64) : (rt.nextDue nowMs).2.enabled = rt.enabled := by
  have harm : (rt.armIntegrity nowMs).enabled = rt.enabled := by
    rw [armIntegrity]
    split <;> rfl
  simp only [nextDue]
  split
  · rfl
  · split <;> exact harm

theorem enabled_requestGeneralInterrogation :
    rt.requestGeneralInterrogation.2.enabled = rt.enabled := by
  rw [requestGeneralInterrogation]
  repeat' split
  all_goals rfl

theorem enabled_afterCapture (plan : MmsStaticBrcbCapturePlan) (reportTime : Bytes)
    (encoded : EncodeResult) (slot : MmsStaticBrcbSlot) :
    (rt.afterCapture plan reportTime encoded slot).enabled = rt.enabled := by
  have hadvance (slot : MmsStaticBrcbSlot) : (rt.advance plan slot).enabled = rt.enabled := by
    simp only [advance]
    repeat' split
    all_goals rfl
  rw [← hadvance (filledSlot slot plan reportTime encoded.bytes), afterCapture, bumpQueue, settle]
  cases plan.reason <;> rfl

theorem enabled_moveCursor (entryId : Bytes) (behind : Nat) :
    (rt.moveCursor entryId behind).2.enabled = rt.enabled := by
  rcases moveCursor_cases rt entryId behind with ⟨-, heq⟩ | ⟨-, _, -, heq⟩
  · rw [heq]
  · rw [heq]
    rfl

/-- **Only `set_enabled` enables or disables.** -/
theorem enabled_step {op : Operation} (h : ∀ enabled, op ≠ .setEnabled enabled) :
    (rt.step op).enabled = rt.enabled := by
  cases op with
  | setEnabled enabled => exact absurd rfl (h enabled)
  | setOptionalFields optionalFields => exact enabled_configure rfl
  | setTriggerOptions triggerOptions => exact enabled_configure rfl
  | setIntegrityPeriod integrityPeriodMs => exact enabled_configure rfl
  | notify index reason nowMs =>
    rw [step]
    rcases notify_cases rt index reason nowMs with ⟨-, heq⟩ | ⟨-, -, _, _, -, -, heq⟩ <;> rw [heq]
  | requestGeneralInterrogation => exact enabled_requestGeneralInterrogation
  | nextDue nowMs => exact enabled_nextDue nowMs
  | capture plan reportTime encodeBufferSize workspaceSize reads =>
    rw [step]
    rcases capture_cases rt plan reportTime encodeBufferSize workspaceSize reads with
      ⟨-, heq⟩ | ⟨-, _, _, _, _, -, heq⟩
    · rw [heq]
    · rw [heq, enabled_afterCapture]
  | commitDelivery entryId =>
    rw [step]
    rcases commitDelivery_cases rt entryId with ⟨-, heq⟩ | ⟨-, -, -, heq⟩
    · rw [heq]
    · rw [heq]
      rfl
  | replayFrom entryId => exact enabled_moveCursor entryId 0
  | resumeAfter entryId => exact enabled_moveCursor entryId 1
  | rewindToOldest =>
    rw [step]
    rcases rewindToOldest_cases rt with ⟨-, heq⟩ | ⟨-, heq⟩
    · rw [heq]
    · rw [heq]
      rfl
  | purgeBuffer =>
    rw [step]
    rcases purgeBuffer_cases rt with ⟨-, heq⟩ | ⟨-, heq⟩
    · rw [heq]
    · rw [heq]
      rfl

/-- Disabling a runtime that was initialized works. -/
theorem enabled_setEnabled {enabled : Bool} (h : rt.initialized = true) :
    (rt.setEnabled enabled).2.enabled = enabled := by
  rw [setEnabled, if_neg (by simp [h])]
  split
  · assumption
  · rfl

end MmsStaticBrcbRuntime

end ArStack.Mms
