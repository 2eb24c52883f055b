import Mathlib.Logic.Function.Iterate
import ArStack.Lib.Marks
import ArStack.Mms.StaticReportConnection

/-!
# What the operations of the URCB runtime do

One lemma per operation says what it can do to its control block; the invariants are derived
from these and never unfold an operation.

* `onState_cases` — an operation changes one block, or nothing
* `Advances` — a block that changes moves its revision on
* `Quiet` — the operations beside events, the enable flag and the sequence number
* `commit_cases`, `encode_cases`, `poll_cases`
-/

namespace ArStack.Mms

open ArStack.Lib ArStack.Wire

/-! ## The revision -/

theorem bumpRevision_ne_zero (revision : UInt32) : bumpRevision revision ≠ 0 := by
  rw [bumpRevision]
  split
  · decide
  · rename_i hmax
    intro hzero
    refine hmax (UInt32.toNat_inj.mp ?_)
    have hlt := revision.toNat_lt
    have hsum := congrArg UInt32.toNat hzero
    rw [UInt32.toNat_add] at hsum
    simp only [UInt32.reduceToNat] at hsum ⊢
    omega

/-- The revisions other than zero are run through in a circle. -/
theorem toNat_bumpRevision {revision : UInt32} (h : revision ≠ 0) :
    (bumpRevision revision).toNat = revision.toNat % (2 ^ 32 - 1) + 1 := by
  have hpos : revision.toNat ≠ 0 := fun hzero => h (UInt32.toNat_inj.mp hzero)
  have hlt := revision.toNat_lt
  rw [bumpRevision]
  split
  · rename_i hmax
    rw [hmax]
    rfl
  · rename_i hmax
    have hne : revision.toNat ≠ 2 ^ 32 - 1 := fun heq => hmax (UInt32.toNat_inj.mp heq)
    rw [UInt32.toNat_add]
    simp only [UInt32.reduceToNat]
    omega

theorem iterate_bumpRevision_ne_zero {revision : UInt32} (h : revision ≠ 0) (n : Nat) :
    bumpRevision^[n] revision ≠ 0 := by
  cases n with
  | zero => exact h
  | succ n =>
    rw [Function.iterate_succ_apply']
    exact bumpRevision_ne_zero _

theorem toNat_iterate_bumpRevision {revision : UInt32} (h : revision ≠ 0) (n : Nat) :
    (bumpRevision^[n] revision).toNat = (revision.toNat - 1 + n) % (2 ^ 32 - 1) + 1 := by
  have hpos : revision.toNat ≠ 0 := fun hzero => h (UInt32.toNat_inj.mp hzero)
  have hlt := revision.toNat_lt
  induction n with
  | zero =>
    rw [Function.iterate_zero, id_eq]
    omega
  | succ n ih =>
    rw [Function.iterate_succ_apply', toNat_bumpRevision (iterate_bumpRevision_ne_zero h n), ih]
    omega

/-- A revision comes back only after `2 ^ 32 - 1` changes. -/
theorem iterate_bumpRevision_eq_iff {revision : UInt32} (h : revision ≠ 0) (n : Nat) :
    bumpRevision^[n] revision = revision ↔ n % (2 ^ 32 - 1) = 0 := by
  have hpos : revision.toNat ≠ 0 := fun hzero => h (UInt32.toNat_inj.mp hzero)
  have hlt := revision.toNat_lt
  rw [← UInt32.toNat_inj, toNat_iterate_bumpRevision h]
  omega

/-! ## One block -/

/-- The reasons collected for a member. -/
def MmsStaticUrcbState.mask (state : MmsStaticUrcbState) (member : Nat) : UInt8 :=
  state.memberReasonMasks.toList.getD member 0

theorem mask_clearPendingEvent (state : MmsStaticUrcbState) (member : Nat) :
    state.clearPendingEvent.mask member = 0 := by
  simp only [MmsStaticUrcbState.mask, MmsStaticUrcbState.clearPendingEvent, Vector.toList_replicate,
    List.getD_eq_getElem?_getD]
  rw [List.getElem?_replicate]
  split <;> rfl

theorem urcbEventMapping_bit_ne_zero (reason : MmsStaticUrcbEventReason) :
    (urcbEventMapping reason).2.bit ≠ 0 := by
  cases reason <;> decide

namespace MmsStaticUrcbRuntime

theorem mask_markMember (index : Fin maximumMembers) (reason : UInt8) (nowMs : UInt64)
    (state : MmsStaticUrcbState) (member : Nat) :
    (markMember index reason nowMs state).mask member =
      if index.val = member then state.mask member ||| reason else state.mask member := by
  obtain ⟨index, hindex⟩ := index
  have hget : state.memberReasonMasks.get ⟨index, hindex⟩ = state.mask index := by
    rw [MmsStaticUrcbState.mask, List.getD_eq_getElem?_getD, Vector.getElem?_toList,
      Vector.getElem?_eq_getElem hindex]
    rfl
  show (state.memberReasonMasks.set index _ hindex).toList.getD member 0 = _
  rw [hget, List.getD_eq_getElem?_getD, Vector.getElem?_toList, Vector.getElem?_set]
  split
  · rename_i heq
    subst heq
    rfl
  · rw [MmsStaticUrcbState.mask, List.getD_eq_getElem?_getD, Vector.getElem?_toList]

/-- What the operations beside events, the enable flag and the reports leave alone. -/
structure Quiet (state state' : MmsStaticUrcbState) : Prop where
  enabled : state'.enabled = state.enabled
  masks : state'.memberReasonMasks = state.memberReasonMasks
  eventPending : state'.eventPending = state.eventPending
  sequenceNumber : state'.sequenceNumber = state.sequenceNumber
  dataSet : state.enabled = true →
    state'.dataSetDomain = state.dataSetDomain ∧ state'.dataSetItem = state.dataSetItem
  idle : state.enabled = false →
    state'.generalInterrogationPending = state.generalInterrogationPending ∧
      state'.integrityArmed = state.integrityArmed
  revision : state' = state ∨ state'.revision = bumpRevision state.revision

theorem Quiet.refl (state : MmsStaticUrcbState) : Quiet state state :=
  ⟨rfl, rfl, rfl, rfl, fun _ => ⟨rfl, rfl⟩, fun _ => ⟨rfl, rfl⟩, Or.inl rfl⟩

/-! ## The table -/

variable {rt rt' : MmsStaticUrcbRuntime} {index : Nat} {state : MmsStaticUrcbState}

theorem initialized_of_state (h : rt.state index = some state) : rt.initialized = true := by
  rw [MmsStaticUrcbRuntime.state] at h
  split at h
  · rename_i hcond
    exact (Bool.and_eq_true_iff.mp hcond).1
  · cases h

theorem state_setState (h : rt.state index = some state) (state' : MmsStaticUrcbState) (j : Nat) :
    (rt.setState index state').state j = if index = j then some state' else rt.state j := by
  have hlen : index < rt.states.length := by
    rw [MmsStaticUrcbRuntime.state] at h
    split at h
    · exact (List.getElem?_eq_some_iff.mp h).1
    · cases h
  rw [MmsStaticUrcbRuntime.state, MmsStaticUrcbRuntime.state] at *
  by_cases hj : index = j
  · subst hj
    rw [if_pos rfl]
    split at h
    · rename_i hcond
      rw [show (rt.setState index state').definitions = rt.definitions from rfl,
        show (rt.setState index state').initialized = rt.initialized from rfl, if_pos hcond]
      exact List.getElem?_set_self hlen
    · cases h
  · rw [if_neg hj]
    show (if rt.initialized && decide (j < rt.definitions.length) then
      (rt.states.set index state')[j]? else none) = _
    rw [List.getElem?_set_ne hj]

theorem setState_self (h : rt.state index = some state) : rt.setState index state = rt := by
  have hget : rt.states[index]? = some state := by
    rw [MmsStaticUrcbRuntime.state] at h
    split at h
    · exact h
    · cases h
  obtain ⟨hlen, hstate⟩ := List.getElem?_eq_some_iff.mp hget
  show { rt with states := rt.states.set index state } = rt
  rw [← hstate, List.set_getElem_self hlen]

/-- Every block is as its definition says. -/
theorem state_initializeRuntime (h : rt.initializeRuntime.2.state index = some state) :
    ∃ definition, state = initialState definition := by
  rw [initializeRuntime] at h
  split at h
  · rw [MmsStaticUrcbRuntime.state] at h
    simp at h
  · rw [MmsStaticUrcbRuntime.state] at h
    split at h
    · rename_i hindex
      have hlt : index < (rt.definitions.map initialState).length := by
        simpa using hindex
      rw [List.getElem?_append_left hlt, List.getElem?_map, Option.map_eq_some_iff] at h
      obtain ⟨definition, -, hdefinition⟩ := h
      exact ⟨definition, hdefinition.symm⟩
    · cases h

/-- **An operation on a block that exists, or without effect.** -/
theorem onState_cases (rt : MmsStaticUrcbRuntime) (index : Nat)
    (operation : MmsStaticUrcbState → MmsStaticUrcbStatus × MmsStaticUrcbState) :
    (rt.onState index operation).1 ≠ .ok ∧ (rt.onState index operation).2 = rt ∧
        rt.state index = none ∨
      ∃ state, rt.state index = some state ∧
        rt.onState index operation = ((operation state).1, rt.setState index (operation state).2) := by
  rw [onState]
  split
  · rename_i hinit
    refine Or.inl ⟨by simp, rfl, ?_⟩
    rw [MmsStaticUrcbRuntime.state, if_neg]
    simp only [Bool.not_eq_true'] at hinit
    simp [hinit]
  · cases hstate : rt.state index with
    | none => exact Or.inl ⟨by simp, rfl, rfl⟩
    | some state => exact Or.inr ⟨state, rfl, rfl⟩

/-- **What a step leaves of the table**: a block that changes moves its revision on. -/
structure Advances (rt rt' : MmsStaticUrcbRuntime) : Prop where
  objects : rt'.objects = rt.objects
  dataSets : rt'.dataSets = rt.dataSets
  block : ∀ j, rt'.state j = rt.state j ∨ ∃ state state', rt.state j = some state ∧
    rt'.state j = some state' ∧ state'.revision = bumpRevision state.revision

theorem Advances.refl (rt : MmsStaticUrcbRuntime) : Advances rt rt :=
  ⟨rfl, rfl, fun _ => Or.inl rfl⟩

theorem advances_setState (h : rt.state index = some state) {state' : MmsStaticUrcbState}
    (hrevision : state' = state ∨ state'.revision = bumpRevision state.revision) :
    Advances rt (rt.setState index state') := by
  refine ⟨rfl, rfl, fun j => ?_⟩
  rw [state_setState h]
  by_cases hj : index = j
  · subst hj
    rw [if_pos rfl]
    rcases hrevision with rfl | hrevision
    · exact Or.inl h.symm
    · exact Or.inr ⟨state, state', h, rfl, hrevision⟩
  · rw [if_neg hj]
    exact Or.inl rfl

/-! ## The operations -/

theorem quiet_configure (check : MmsStaticUrcbStatus)
    {update : MmsStaticUrcbState → MmsStaticUrcbState}
    (hupdate : ∀ state, (update state).enabled = state.enabled ∧
      (update state).memberReasonMasks = state.memberReasonMasks ∧
      (update state).eventPending = state.eventPending ∧
      (update state).sequenceNumber = state.sequenceNumber ∧
      (update state).generalInterrogationPending = state.generalInterrogationPending ∧
      (update state).integrityArmed = state.integrityArmed ∧
      (update state).revision = state.revision) (state : MmsStaticUrcbState) :
    Quiet state
      (if state.enabled then (MmsStaticUrcbStatus.objectAccessDenied, state)
      else if check ≠ .ok then (check, state)
      else if update state = state then (.ok, state)
      else (.ok, (update state).bumpRevision)).2 := by
  split
  · exact Quiet.refl state
  rename_i hdisabled
  split
  · exact Quiet.refl state
  split
  · exact Quiet.refl state
  · obtain ⟨henabled, hmasks, hevent, hsequence, hgi, harmed, hrevision⟩ := hupdate state
    refine ⟨henabled, hmasks, hevent, hsequence, fun h => absurd h hdisabled,
      fun _ => ⟨hgi, harmed⟩, Or.inr ?_⟩
    exact congrArg bumpRevision hrevision

theorem quiet_setReserved (reserved : Bool) (state : MmsStaticUrcbState) :
    Quiet state
      (if state.reserved = reserved then (MmsStaticUrcbStatus.ok, state)
      else (.ok, ({ state with reserved := reserved }).bumpRevision)).2 := by
  split
  · exact Quiet.refl state
  · exact ⟨rfl, rfl, rfl, rfl, fun _ => ⟨rfl, rfl⟩, fun _ => ⟨rfl, rfl⟩, Or.inr rfl⟩

theorem quiet_requestGeneralInterrogation (state : MmsStaticUrcbState) :
    Quiet state
      (if !state.enabled then (MmsStaticUrcbStatus.temporarilyUnavailable, state)
      else if state.triggerOptions &&& triggerGeneralInterrogation = 0 then (.invalidValue, state)
      else if state.generalInterrogationPending then (.ok, state)
      else (.ok, ({ state with generalInterrogationPending := true }).bumpRevision)).2 := by
  split
  · exact Quiet.refl state
  rename_i henabled
  split
  · exact Quiet.refl state
  split
  · exact Quiet.refl state
  · refine ⟨rfl, rfl, rfl, rfl, fun _ => ⟨rfl, rfl⟩, fun hdisabled => ?_, Or.inr rfl⟩
    simp [hdisabled] at henabled

/-- A notification is recorded: the trigger of its reason is selected. -/
def selects (state : MmsStaticUrcbState) (reason : MmsStaticUrcbEventReason) : Bool :=
  state.triggerOptions &&& (urcbEventMapping reason).1 != 0

/-- **A notification is recorded, or it has no effect.** -/
theorem notify_cases (rt : MmsStaticUrcbRuntime) (index member : Nat)
    (reason : MmsStaticUrcbEventReason) (nowMs : UInt64) :
    (rt.notify index member reason nowMs).2 = rt ∧
        ((rt.notify index member reason nowMs).1 ≠ .ok ∨
          ∀ state, rt.state index = some state → selects state reason = false) ∨
      ∃ state dataSet, ∃ hmember : member < maximumMembers,
        rt.state index = some state ∧ state.enabled = true ∧ selects state reason = true ∧
        rt.dataSetOf state.dataSetDomain state.dataSetItem = some dataSet ∧
        member < dataSet.members.length ∧
        rt.notify index member reason nowMs =
          (.ok, rt.setState index
            (markMember ⟨member, hmember⟩ (urcbEventMapping reason).2.bit nowMs state)) := by
  rw [notify]
  rcases onState_cases rt index _ with ⟨hstatus, hrt, -⟩ | ⟨state, hstate, hnotify⟩
  · exact Or.inl ⟨hrt, Or.inl hstatus⟩
  rw [hnotify]
  by_cases henabled : state.enabled = true
  · simp only [henabled, Bool.not_true, Bool.false_eq_true, if_false]
    by_cases htrigger : state.triggerOptions &&& (urcbEventMapping reason).1 = 0
    · rw [if_pos htrigger]
      refine Or.inl ⟨setState_self hstate, Or.inr fun other hother => ?_⟩
      obtain rfl : state = other := Option.some.inj (hstate.symm.trans hother)
      simp [selects, htrigger]
    rw [if_neg htrigger]
    cases hdata : rt.dataSetOf state.dataSetDomain state.dataSetItem with
    | none => exact Or.inl ⟨setState_self hstate, Or.inl (by simp)⟩
    | some dataSet =>
      simp only
      by_cases hlength : member ≥ dataSet.members.length
      · rw [if_pos hlength]
        exact Or.inl ⟨setState_self hstate, Or.inl (by simp)⟩
      rw [if_neg hlength]
      by_cases hmember : member < maximumMembers
      · rw [dif_pos hmember]
        refine Or.inr ⟨state, dataSet, hmember, hstate, henabled, ?_, hdata,
          Nat.lt_of_not_ge hlength, rfl⟩
        simpa [selects] using htrigger
      · rw [dif_neg hmember]
        exact Or.inl ⟨setState_self hstate, Or.inl (by simp)⟩
  · rw [Bool.not_eq_true] at henabled
    simp only [henabled, Bool.not_false, if_true]
    exact Or.inl ⟨setState_self hstate, Or.inl (by simp)⟩

theorem setEnabled_cases (rt : MmsStaticUrcbRuntime) (index : Nat) (enabled : Bool)
    (nowMs : UInt64) :
    (rt.setEnabled index enabled nowMs).2 = rt ∧
        ((rt.setEnabled index enabled nowMs).1 ≠ .ok ∨
          ∀ state, rt.state index = some state → state.enabled = enabled) ∨
      ∃ state, rt.state index = some state ∧ state.enabled ≠ enabled ∧
        rt.setEnabled index enabled nowMs =
          (.ok, rt.setState index (if enabled then enable nowMs state else disable state)) := by
  rw [setEnabled]
  rcases onState_cases rt index _ with ⟨hstatus, hrt, -⟩ | ⟨state, hstate, hset⟩
  · exact Or.inl ⟨hrt, Or.inl hstatus⟩
  rw [hset]
  by_cases hsame : state.enabled = enabled
  · rw [if_pos hsame]
    refine Or.inl ⟨setState_self hstate, Or.inr fun other hother => ?_⟩
    obtain rfl : state = other := Option.some.inj (hstate.symm.trans hother)
    exact hsame
  · rw [if_neg hsame]
    cases enabled with
    | false => exact Or.inr ⟨state, hstate, hsame, rfl⟩
    | true =>
      simp only [if_true]
      split
      · exact Or.inl ⟨setState_self hstate, Or.inl (by simp)⟩
      · exact Or.inr ⟨state, hstate, hsame, rfl⟩

/-! ## Reports -/

/-- The state a committed report leaves. -/
def committed (plan : MmsStaticUrcbEmissionPlan) (nowMs : UInt64) (state : MmsStaticUrcbState) :
    MmsStaticUrcbState :=
  (settle plan.reason nowMs { state with sequenceNumber := plan.sequenceNumber }).bumpRevision

section

variable (plan : MmsStaticUrcbEmissionPlan) (nowMs : UInt64) (state : MmsStaticUrcbState)

@[simp] theorem enabled_committed : (committed plan nowMs state).enabled = state.enabled := by
  simp only [committed, settle, MmsStaticUrcbState.bumpRevision]
  split
  · rfl
  · split <;> rfl

@[simp] theorem sequenceNumber_committed :
    (committed plan nowMs state).sequenceNumber = plan.sequenceNumber := by
  simp only [committed, settle, MmsStaticUrcbState.bumpRevision]
  split
  · rfl
  · split <;> rfl

@[simp] theorem dataSet_committed :
    (committed plan nowMs state).dataSetDomain = state.dataSetDomain ∧
      (committed plan nowMs state).dataSetItem = state.dataSetItem := by
  simp only [committed, settle, MmsStaticUrcbState.bumpRevision]
  split
  · exact ⟨rfl, rfl⟩
  · split <;> exact ⟨rfl, rfl⟩

theorem revision_committed :
    (committed plan nowMs state).revision = bumpRevision state.revision := by
  simp only [committed, settle, MmsStaticUrcbState.bumpRevision]
  split
  · rfl
  · split <;> rfl

theorem eventPending_committed :
    (committed plan nowMs state).eventPending = (!plan.reason.event && state.eventPending) := by
  simp only [committed, settle, MmsStaticUrcbState.bumpRevision]
  cases plan.reason <;> rfl

theorem mask_committed (member : Nat) :
    (committed plan nowMs state).mask member =
      if plan.reason.event then 0 else state.mask member := by
  have hcleared := mask_clearPendingEvent { state with sequenceNumber := plan.sequenceNumber } member
  cases hreason : plan.reason <;>
    simp only [committed, settle, hreason, MmsStaticUrcbReportReason.event] <;>
    first | rfl | exact hcleared

end

theorem commit_cases (rt : MmsStaticUrcbRuntime) (plan : MmsStaticUrcbEmissionPlan)
    (nowMs : UInt64) :
    (rt.commit plan nowMs).1 ≠ .ok ∧ (rt.commit plan nowMs).2 = rt ∨
      ∃ state, rt.state plan.index = some state ∧ plan.matchesState state = true ∧
        rt.commit plan nowMs = (.ok, rt.setState plan.index (committed plan nowMs state)) := by
  rw [commit]
  rcases onState_cases rt plan.index _ with ⟨hstatus, hrt, -⟩ | ⟨state, hstate, hcommit⟩
  · exact Or.inl ⟨hstatus, hrt⟩
  rw [hcommit]
  by_cases hmatches : plan.matchesState state = true
  · simp only [hmatches, Bool.not_true, Bool.false_eq_true, if_false]
    exact Or.inr ⟨state, hstate, hmatches, rfl⟩
  · rw [Bool.not_eq_true] at hmatches
    simp only [hmatches, Bool.not_false, if_true]
    exact Or.inl ⟨by simp, setState_self hstate⟩

theorem matchesState_iff {plan : MmsStaticUrcbEmissionPlan} :
    plan.matchesState state = true →
      state.enabled = true ∧ plan.revision = state.revision ∧
        plan.sequenceNumber = nextSequenceNumber state.sequenceNumber ∧
        (plan.reason = .generalInterrogation ∨ plan.reason = .integrity ∨
          plan.reason.event = true) := by
  intro h
  rw [MmsStaticUrcbEmissionPlan.matchesState] at h
  split at h
  · cases h
  rename_i hguard
  simp only [Bool.or_eq_true, Bool.not_eq_true', bne_iff_ne, beq_iff_eq, not_or, ne_eq,
    Decidable.not_not, Bool.not_eq_false] at hguard
  refine ⟨hguard.1.1.1, hguard.1.1.2, hguard.2, ?_⟩
  split at h
  · exact Or.inl ‹_›
  split at h
  · exact Or.inr (Or.inl ‹_›)
  · rw [Bool.and_eq_true, Bool.and_eq_true] at h
    exact Or.inr (Or.inr h.1.1)

/-- The members of a selective report are those with a reason, in data set order. -/
theorem collectMembers_ok {objects : MmsStaticObjectTable} {reads : ReadCallbacks}
    {workspaceSize : Nat} {reasonMask : Nat → UInt8} {members : List MmsStaticDataSetMember}
    {memberIndex : Nat} {start included : MmsStaticBrcbRuntime.Included}
    (h : collectMembers objects reads workspaceSize reasonMask members memberIndex start =
      .ok included) :
    included.indices = start.indices ++
        (List.range' memberIndex members.length).filter (reasonMask · ≠ 0) ∧
      included.reasons = start.reasons ++
        ((List.range' memberIndex members.length).filter (reasonMask · ≠ 0)).map reasonMask := by
  induction members generalizing memberIndex start with
  | nil =>
    obtain rfl := Except.ok.inj h
    simp
  | cons member members ih =>
    rw [collectMembers] at h
    rw [List.length_cons, List.range'_succ]
    split at h
    · rename_i hzero
      rw [List.filter_cons_of_neg (by simpa using hzero)]
      exact ih h
    · rename_i hne
      rw [List.filter_cons_of_pos (by simpa using hne), List.map_cons]
      cases hread : readMember objects reads workspaceSize start member with
      | error result =>
        rw [hread] at h
        cases h
      | ok data =>
        rw [hread] at h
        obtain ⟨hindices, hreasons⟩ := ih h
        rw [hindices, hreasons, MmsStaticBrcbRuntime.Included.add]
        simp

/-- Encoding depends on the block and on the tables only. -/
theorem encode_congr (hobjects : rt'.objects = rt.objects) (hdataSets : rt'.dataSets = rt.dataSets)
    (plan : MmsStaticUrcbEmissionPlan) (hstate : rt.state plan.index = some state)
    (hstate' : rt'.state plan.index = some state) (reportTime : Bytes)
    (destinationSize workspaceSize : Nat) (reads : ReadCallbacks) :
    rt'.encode plan reportTime destinationSize workspaceSize reads =
      rt.encode plan reportTime destinationSize workspaceSize reads := by
  rw [encode, encode, initialized_of_state hstate, initialized_of_state hstate', hstate, hstate',
    hobjects, hdataSets]
  simp only [encodeSelectiveEvent, dataSetOf, hobjects, hdataSets]

/-- `bytes` is a report of `plan` that includes the members with a reason, and tells the
reasons when it has the field for them. -/
def EncodesEvent (plan : MmsStaticUrcbEmissionPlan) (mask : Nat → UInt8) (memberCount : Nat)
    (bytes : Bytes) : Prop :=
  ∃ (report : MmsBufferedSelectiveInformationReportSnapshotInput) (destinationSize : Nat),
    (MmsBufferedSelectiveInformationReportSpanCodec.encodeSnapshotInto report
      destinationSize).success = true ∧
    (MmsBufferedSelectiveInformationReportSpanCodec.encodeSnapshotInto report
      destinationSize).bytes = bytes ∧
    report.sequenceNumber = plan.sequenceNumber.toUInt32 ∧
    report.dataSetMemberCount = memberCount ∧
    report.includedMemberIndices = (List.range memberCount).filter (mask · ≠ 0) ∧
    (Detail.optionalSelected report 0 Detail.optReasonForInclusion = true →
      report.includedReasonForInclusion = report.includedMemberIndices.map mask)

/-- `bytes` is a report of `plan` on the whole data set. -/
def EncodesSnapshot (plan : MmsStaticUrcbEmissionPlan) (bytes : Bytes) : Prop :=
  ∃ (report : MmsInformationReportSnapshotInput) (destinationSize : Nat),
    (MmsInformationReportSpanCodec.encodeSnapshotInto report destinationSize).success = true ∧
    (MmsInformationReportSpanCodec.encodeSnapshotInto report destinationSize).bytes = bytes ∧
    report.sequenceNumber = plan.sequenceNumber.toUInt32 ∧
    report.reasonForInclusion = plan.reason.bit

theorem optionalSelected_selectiveReport (state : MmsStaticUrcbState)
    (plan : MmsStaticUrcbEmissionPlan) (reportTime : Bytes) (dataSet : MmsStaticDataSetEntry)
    (included : MmsStaticBrcbRuntime.Included) (mask : UInt8) :
    Detail.optionalSelected (selectiveReport state plan reportTime dataSet included) 0 mask =
      (state.optionalFields.get 0 &&& mask != 0) := by
  have hget : state.optionalFields.toList[0]? = some (state.optionalFields.get 0) := by
    rw [Vector.getElem?_toList]
    exact Vector.getElem?_eq_getElem (by decide)
  exact Detail.optionalSelected_of_getElem? hget

theorem collectMembers_error {objects : MmsStaticObjectTable} {reads : ReadCallbacks}
    {workspaceSize : Nat} {reasonMask : Nat → UInt8} {members : List MmsStaticDataSetMember}
    {memberIndex : Nat} {included : MmsStaticBrcbRuntime.Included}
    {result : MmsStaticUrcbEncodeResult}
    (h : collectMembers objects reads workspaceSize reasonMask members memberIndex included =
      .error result) : result.status ≠ .ok := by
  induction members generalizing memberIndex included with
  | nil => cases h
  | cons member members ih =>
    rw [collectMembers] at h
    split at h
    · exact ih h
    · cases hread : readMember objects reads workspaceSize included member with
      | error failure =>
        rw [hread] at h
        obtain rfl : failure = result := Except.error.inj h
        rw [readMember] at hread
        split at hread
        · cases hread
          simp
        split at hread
        · cases hread
          simp
        dsimp only at hread
        split at hread
        · cases hread
          simp
        split at hread
        · cases hread
          simp
        · cases hread
      | ok data =>
        rw [hread] at h
        exact ih h

/-- **What an event report says.** -/
theorem encodeSelectiveEvent_ok {plan : MmsStaticUrcbEmissionPlan} {reportTime : Bytes}
    {destinationSize workspaceSize : Nat} {reads : ReadCallbacks}
    (h : (rt.encodeSelectiveEvent state plan reportTime destinationSize workspaceSize
      reads).status = .ok) :
    ∃ dataSet, rt.dataSetOf state.dataSetDomain state.dataSetItem = some dataSet ∧
      EncodesEvent plan state.mask dataSet.members.length
        (rt.encodeSelectiveEvent state plan reportTime destinationSize workspaceSize
          reads).bytes := by
  rw [encodeSelectiveEvent] at h ⊢
  cases hdata : rt.dataSetOf state.dataSetDomain state.dataSetItem with
  | none => simp [hdata] at h
  | some dataSet =>
    simp only [hdata] at h ⊢
    refine ⟨dataSet, rfl, ?_⟩
    by_cases hsize : dataSet.members.isEmpty ∨ dataSet.members.length > maximumMembers
    · rw [if_pos hsize] at h
      cases h
    rw [if_neg hsize] at h ⊢
    cases hcollect : collectMembers rt.objects reads workspaceSize
        (fun memberIndex => state.memberReasonMasks.toList.getD memberIndex 0)
        dataSet.members 0 {} with
    | error result =>
      simp only [hcollect] at h
      exact absurd h (collectMembers_error hcollect)
    | ok included =>
      simp only [hcollect] at h ⊢
      obtain ⟨hindices, hreasons⟩ := collectMembers_ok hcollect
      rw [List.nil_append, ← List.range_eq_range'] at hindices hreasons
      by_cases hstale : included.indices.length = 0 ∨
          included.indices.length ≠ state.pendingMemberCount
      · rw [if_pos hstale] at h
        cases h
      rw [if_neg hstale] at h ⊢
      cases hencoded : (MmsBufferedSelectiveInformationReportSpanCodec.encodeSnapshotInto
          (selectiveReport state plan reportTime dataSet included) destinationSize).success with
      | false =>
        simp only [hencoded, Bool.false_eq_true, if_false] at h
        split at h <;> cases h
      | true =>
        simp only [if_true]
        refine ⟨selectiveReport state plan reportTime dataSet included, destinationSize, hencoded,
          rfl, rfl, rfl, hindices, fun hselected => ?_⟩
        · rw [optionalSelected_selectiveReport] at hselected
          show (if _ then included.reasons else []) = included.indices.map state.mask
          rw [if_pos hselected, hreasons, hindices]
          rfl

theorem snapshot_collectMembers_error {objects : MmsStaticObjectTable} {reads : ReadCallbacks}
    {workspaceSize memberCount : Nat} {members : List MmsStaticDataSetMember}
    {memberIndex workspaceOffset : Nat} {result : MmsStaticInformationReportEncodeResult}
    (h : MmsStaticInformationReportEncoder.collectMembers objects reads workspaceSize memberCount
      members memberIndex workspaceOffset = .error result) : result.status ≠ .responseReady := by
  induction members generalizing memberIndex workspaceOffset with
  | nil => cases h
  | cons member members ih =>
    rw [MmsStaticInformationReportEncoder.collectMembers] at h
    split at h
    · cases h
      simp
    dsimp only at h
    split at h
    · split at h
      · cases h
        simp
      · cases h
        simp
    split at h
    · cases h
      simp
    split at h
    · rename_i failure hfailure
      obtain rfl : failure = result := Except.error.inj h
      exact ih hfailure
    · cases h

theorem encodeDataSetSnapshotInto_ok {objects : MmsStaticObjectTable}
    {dataSets : MmsStaticDataSetTable} {name : MmsObjectNameView}
    {report : MmsStaticInformationReportInput} {destinationSize workspaceSize : Nat}
    {reads : ReadCallbacks}
    (h : (MmsStaticInformationReportEncoder.encodeDataSetSnapshotInto objects dataSets name report
      destinationSize workspaceSize reads).status = .responseReady) :
    ∃ dataSet members, dataSets.find name = some dataSet ∧
      (MmsInformationReportSpanCodec.encodeSnapshotInto
        (MmsStaticInformationReportEncoder.wireReport dataSet report members)
        destinationSize).success = true ∧
      (MmsStaticInformationReportEncoder.encodeDataSetSnapshotInto objects dataSets name report
        destinationSize workspaceSize reads).bytes =
        (MmsInformationReportSpanCodec.encodeSnapshotInto
          (MmsStaticInformationReportEncoder.wireReport dataSet report members)
          destinationSize).bytes := by
  rw [MmsStaticInformationReportEncoder.encodeDataSetSnapshotInto] at h ⊢
  split at h
  · cases h
  rename_i hobjects
  rw [if_neg hobjects]
  split at h
  · cases h
  rename_i hdataSets
  rw [if_neg hdataSets]
  cases hdata : dataSets.find name with
  | none => simp [hdata] at h
  | some dataSet =>
    simp only [hdata] at h ⊢
    split at h
    · cases h
    rename_i hsize
    rw [if_neg hsize]
    cases hcollect : MmsStaticInformationReportEncoder.collectMembers objects reads workspaceSize
        dataSet.members.length dataSet.members 0 0 with
    | error result =>
      simp only [hcollect] at h
      exact absurd h (snapshot_collectMembers_error hcollect)
    | ok members =>
      simp only [hcollect] at h ⊢
      split at h
      · rename_i hencoded
        rw [if_pos hencoded]
        exact ⟨dataSet, members, rfl, hencoded, rfl⟩
      split at h <;> cases h

theorem mapReportResult_ok {result : MmsStaticInformationReportEncodeResult}
    (h : (mapReportResult result).status = .ok) : result.status = .responseReady := by
  rw [mapReportResult] at h
  cases hstatus : result.status <;> simp_all

/-- **A report that was encoded** for its plan, from the block as it is. -/
theorem encode_cases {plan : MmsStaticUrcbEmissionPlan} {reportTime : Bytes}
    {destinationSize workspaceSize : Nat} {reads : ReadCallbacks}
    (h : (rt.encode plan reportTime destinationSize workspaceSize reads).status = .ok) :
    ∃ state dataSet, rt.state plan.index = some state ∧ plan.matchesState state = true ∧
      rt.dataSetOf state.dataSetDomain state.dataSetItem = some dataSet ∧
      (plan.reason.event = true → EncodesEvent plan state.mask dataSet.members.length
        (rt.encode plan reportTime destinationSize workspaceSize reads).bytes) ∧
      (plan.reason.event = false → EncodesSnapshot plan
        (rt.encode plan reportTime destinationSize workspaceSize reads).bytes) := by
  rw [encode] at h ⊢
  split at h
  · cases h
  rename_i hinitialized
  rw [if_neg hinitialized]
  cases hstate : rt.state plan.index with
  | none => simp [hstate] at h
  | some state =>
    simp only [hstate] at h ⊢
    split at h
    · cases h
    rename_i hmatches
    rw [if_neg hmatches]
    cases hevent : plan.reason.event with
    | true =>
      simp only [hevent, if_true] at h ⊢
      obtain ⟨dataSet, hdata, hencodes⟩ := encodeSelectiveEvent_ok h
      exact ⟨state, dataSet, rfl, by simpa using hmatches, hdata, fun _ => hencodes, nofun⟩
    | false =>
      simp only [hevent, Bool.false_eq_true, if_false] at h ⊢
      obtain ⟨dataSet, members, hdata, hencoded, hbytes⟩ :=
        encodeDataSetSnapshotInto_ok (mapReportResult_ok h)
      exact ⟨state, dataSet, rfl, by simpa using hmatches, hdata, nofun,
        fun _ => ⟨_, destinationSize, hencoded, hbytes.symm, rfl, rfl⟩⟩

/-! ## Plans and polls -/

theorem findDue_eq_some {due : MmsStaticUrcbState → MmsStaticUrcbReportReason} {first : Nat}
    {states : List MmsStaticUrcbState} {plan : MmsStaticUrcbEmissionPlan}
    (h : findDue due first states = some plan) :
    ∃ j state, states[j]? = some state ∧ plan.index = first + j ∧
      plan.revision = state.revision ∧
      plan.sequenceNumber = nextSequenceNumber state.sequenceNumber := by
  induction states generalizing first with
  | nil => cases h
  | cons state states ih =>
    rw [findDue] at h
    split at h
    · obtain ⟨j, found, hfound, hindex, hplan⟩ := ih h
      exact ⟨j + 1, found, hfound, by omega, hplan⟩
    · obtain rfl := Option.some.inj h
      exact ⟨0, state, rfl, rfl, rfl, rfl⟩

/-- A plan is made for the block as it is. -/
theorem nextDue_eq_some {nowMs : UInt64} {plan : MmsStaticUrcbEmissionPlan}
    (h : rt.nextDue nowMs = some plan) :
    ∃ state, rt.state plan.index = some state ∧ plan.revision = state.revision ∧
      plan.sequenceNumber = nextSequenceNumber state.sequenceNumber := by
  rw [nextDue] at h
  split at h
  · cases h
  rename_i hinitialized
  have hfound : ∃ due, findDue due 0 (rt.states.take rt.definitions.length) = some plan := by
    rcases Option.or_eq_some_iff.mp h with hdue | ⟨-, h⟩
    · exact ⟨_, hdue⟩
    rcases Option.or_eq_some_iff.mp h with hdue | ⟨-, hdue⟩
    · exact ⟨_, hdue⟩
    · exact ⟨_, hdue⟩
  obtain ⟨due, hdue⟩ := hfound
  obtain ⟨j, state, hstate, hindex, hplan⟩ := findDue_eq_some hdue
  rw [Nat.zero_add] at hindex
  subst hindex
  have hlt : plan.index < rt.definitions.length := by
    have hlength := (List.getElem?_eq_some_iff.mp hstate).1
    rw [List.length_take] at hlength
    omega
  refine ⟨state, ?_, hplan⟩
  rw [MmsStaticUrcbRuntime.state, if_pos (by simpa [hlt] using hinitialized)]
  rwa [List.getElem?_take_of_lt hlt] at hstate

end MmsStaticUrcbRuntime

namespace MmsStaticReportConnection

variable {connection : MmsStaticConnectionRuntime} {rt : MmsStaticUrcbRuntime} {nowMs : UInt64}
  {reportTime : Bytes} {responseSize workspaceSize : Nat} {reads : ReadCallbacks}

/-- The result says which plan it is about. -/
def About (plan : MmsStaticUrcbEmissionPlan) (result : MmsStaticReportConnectionResult) : Prop :=
  result.controlBlockIndex = plan.index ∧ result.sequenceNumber = plan.sequenceNumber ∧
    result.reason = plan.reason

theorem frame_error {plan : MmsStaticUrcbEmissionPlan} {result : MmsStaticReportConnectionResult}
    (h : frame connection rt plan reportTime responseSize workspaceSize reads = .error result) :
    result.status ≠ .responseReady ∧ result.status ≠ .notEstablished ∧
      result.status ≠ .noReportDue ∧ About plan result := by
  rw [frame] at h
  dsimp only at h
  split at h
  · obtain rfl := Except.error.inj h
    rw [reportFailure]
    split
    · split
      · exact ⟨nofun, nofun, nofun, rfl, rfl, rfl⟩
      · exact ⟨nofun, nofun, nofun, rfl, rfl, rfl⟩
    split
    · exact ⟨nofun, nofun, nofun, rfl, rfl, rfl⟩
    · exact ⟨nofun, nofun, nofun, rfl, rfl, rfl⟩
  split at h
  · obtain rfl := Except.error.inj h
    rw [pDataFailure]
    split
    · split
      · exact ⟨nofun, nofun, nofun, rfl, rfl, rfl⟩
      · exact ⟨nofun, nofun, nofun, rfl, rfl, rfl⟩
    · exact ⟨nofun, nofun, nofun, rfl, rfl, rfl⟩
  split at h
  · cases h
  split at h
  · obtain rfl := Except.error.inj h
    exact ⟨nofun, nofun, nofun, rfl, rfl, rfl⟩
  · obtain rfl := Except.error.inj h
    exact ⟨nofun, nofun, nofun, rfl, rfl, rfl⟩

theorem frame_ok {plan : MmsStaticUrcbEmissionPlan} {encoded : EncodeResult × EncodeResult}
    (h : frame connection rt plan reportTime responseSize workspaceSize reads = .ok encoded) :
    (rt.encode plan reportTime responseSize workspaceSize reads).status = .ok := by
  rw [frame] at h
  dsimp only at h
  split at h
  · cases h
  · rename_i hencoded
    simpa [MmsStaticUrcbEncodeResult.success] using hencoded

/-- **A poll commits what it has encoded, or leaves everything as it was.** -/
theorem poll_cases (connection : MmsStaticConnectionRuntime) (rt : MmsStaticUrcbRuntime)
    (nowMs : UInt64) (reportTime : Bytes) (responseSize workspaceSize : Nat)
    (reads : ReadCallbacks) :
    (poll connection rt nowMs reportTime responseSize workspaceSize reads).1.status ≠
        .responseReady ∧
      (poll connection rt nowMs reportTime responseSize workspaceSize reads).2 = rt ∨
    (poll connection rt nowMs reportTime responseSize workspaceSize reads).1.status =
        .responseReady ∧
      ∃ plan, rt.nextDue nowMs = some plan ∧
        (rt.encode plan reportTime responseSize workspaceSize reads).status = .ok ∧
        (rt.commit plan nowMs).1 = .ok ∧
        (poll connection rt nowMs reportTime responseSize workspaceSize reads).2 =
          (rt.commit plan nowMs).2 := by
  rw [poll]
  split
  · exact Or.inl ⟨nofun, rfl⟩
  cases hdue : rt.nextDue nowMs with
  | none => exact Or.inl ⟨nofun, rfl⟩
  | some plan =>
    simp only
    cases hframe : frame connection rt plan reportTime responseSize workspaceSize reads with
    | error result => exact Or.inl ⟨(frame_error hframe).1, rfl⟩
    | ok encoded =>
      simp only
      split
      · rename_i hcommit
        rcases rt.commit_cases plan nowMs with ⟨-, hrt⟩ | ⟨state, -, -, hok⟩
        · exact Or.inl ⟨nofun, hrt⟩
        · rw [hok] at hcommit
          exact absurd rfl hcommit
      · rename_i hcommit
        exact Or.inr ⟨rfl, plan, rfl, frame_ok hframe, Decidable.not_not.mp hcommit, rfl⟩

theorem poll_noReportDue
    (hstatus : (poll connection rt nowMs reportTime responseSize workspaceSize reads).1.status ≠
      .notEstablished) (hdue : rt.nextDue nowMs = none) :
    (poll connection rt nowMs reportTime responseSize workspaceSize reads).1.status =
      .noReportDue := by
  rw [poll] at hstatus ⊢
  split at hstatus
  · exact absurd rfl hstatus
  · rename_i hestablished
    rw [if_neg hestablished, hdue]

/-- A poll that gets to a plan says which one. -/
theorem poll_about
    (hstatus : (poll connection rt nowMs reportTime responseSize workspaceSize reads).1.status ≠
      .notEstablished) {plan : MmsStaticUrcbEmissionPlan} (hdue : rt.nextDue nowMs = some plan) :
    (poll connection rt nowMs reportTime responseSize workspaceSize reads).1.status ≠
        .noReportDue ∧
      About plan (poll connection rt nowMs reportTime responseSize workspaceSize reads).1 := by
  rw [poll] at hstatus ⊢
  split at hstatus
  · exact absurd rfl hstatus
  rename_i hestablished
  rw [if_neg hestablished, hdue]
  simp only
  cases hframe : frame connection rt plan reportTime responseSize workspaceSize reads with
  | error result => exact (frame_error hframe).2.2
  | ok encoded =>
    simp only
    split
    · exact ⟨nofun, rfl, rfl, rfl⟩
    · exact ⟨nofun, rfl, rfl, rfl⟩

end MmsStaticReportConnection

end ArStack.Mms
