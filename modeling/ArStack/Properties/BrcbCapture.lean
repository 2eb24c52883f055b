import ArStack.Lib.Run
import ArStack.Mms.StaticBrcbCapture
import ArStack.Spec.BrcbRuntime

/-!
# A capture that fails has written nothing

* `keeps_prepare` — until the slot is chosen, no statement writes
* `commit_run` — from the copy into the slot on, no statement leaves
* `capture_atomic` — so a capture that does not return `ok` leaves the runtime as it was
* `captureRun_eq_capture` — statement by statement, the capture computes what the runtime's
  `capture` computes
-/

namespace ArStack.Mms.MmsStaticBrcbRuntime

open ArStack.Asn1 ArStack.Wire ArStack.Lib

namespace CaptureM

variable {rt : MmsStaticBrcbRuntime} {plan : MmsStaticBrcbCapturePlan} {reportTime : Bytes}
  {encodeBufferSize workspaceSize : Nat} {reads : ReadCallbacks}

/-! ## Before the first write -/

theorem keeps_checkRuntime : Keeps (· = rt) (checkRuntime plan) := by
  refine Keeps.get fun rt' => ?_
  have hstale : Keeps (· = rt)
      (if rt'.stale plan then throw { status := .stalePlan } else pure () : CaptureM Unit) := by
    split
    · exact Keeps.throw _
    · exact Keeps.pure _
  dsimp only
  split
  · exact Keeps.bind (Keeps.throw _) fun _ => hstale
  · exact hstale

theorem keeps_findDataSet : Keeps (· = rt) findDataSet := by
  refine Keeps.get fun rt' => ?_
  cases rt'.dataSet with
  | none => exact Keeps.throw _
  | some dataSet => exact Keeps.pure _

theorem keeps_collect (members : List MmsStaticDataSetMember) (memberIndex : Nat)
    (included : Included) :
    Keeps (· = rt) (collect plan workspaceSize reads members memberIndex included) := by
  induction members generalizing memberIndex included with
  | nil => exact Keeps.pure _
  | cons member members ih =>
    rw [collect]
    refine Keeps.get fun rt' => ?_
    dsimp only
    split
    · exact ih _ _
    · cases readMember rt'.objects reads workspaceSize included member with
      | error result => exact Keeps.throw _
      | ok data => exact ih _ _

theorem keeps_checkIncluded {dataSet : MmsStaticDataSetEntry} {included : Included} :
    Keeps (· = rt) (checkIncluded plan dataSet included) := by
  refine Keeps.get fun rt' => ?_
  split
  · exact Keeps.throw _
  · exact Keeps.pure _

theorem keeps_encodeReport {dataSet : MmsStaticDataSetEntry} {included : Included} :
    Keeps (· = rt) (encodeReport plan reportTime encodeBufferSize dataSet included) := by
  refine Keeps.get fun rt' => ?_
  dsimp only
  split
  · exact Keeps.throw _
  · exact Keeps.pure _

theorem keeps_chooseSlot {included : Included} {encoded : EncodeResult} :
    Keeps (· = rt) (chooseSlot plan included encoded) := by
  refine Keeps.get fun rt' => ?_
  dsimp only
  cases rt'.slots[rt'.targetIndex]? with
  | none => exact Keeps.throw _
  | some slot =>
    dsimp only
    split
    · exact Keeps.throw _
    · exact Keeps.pure _

/-- **Until the slot is chosen, no statement writes.** -/
theorem keeps_prepare :
    Keeps (· = rt) (prepare plan reportTime encodeBufferSize workspaceSize reads) := by
  refine Keeps.bind keeps_checkRuntime fun _ => ?_
  refine Keeps.bind keeps_findDataSet fun dataSet => ?_
  refine Keeps.bind (keeps_collect _ _ _) fun included => ?_
  refine Keeps.bind keeps_checkIncluded fun _ => ?_
  refine Keeps.bind keeps_encodeReport fun encoded => ?_
  exact Keeps.bind keeps_chooseSlot fun target => Keeps.pure _

/-! ## From the first write on -/

theorem writeSlot_run {index : Nat} {encoded : Bytes} :
    writeSlot plan reportTime index encoded rt =
      .ok ⟨⟩ { rt with
        slots := rt.slots.modify index fun slot => filledSlot slot plan reportTime encoded } := by
  by_cases htime : reportTime.length = binaryTimeBytes
  · rw [writeSlot, if_pos htime]
    simp only [modifySlot_bind, modifySlot_run, List.modify_modify_eq, Function.comp_def,
      filledSlot, htime, if_true]
  · rw [writeSlot, if_neg htime]
    simp only [modifySlot_bind, modifySlot_run, List.modify_modify_eq, Function.comp_def,
      filledSlot, htime, if_false]

/-- The ring after `advanceRing`. -/
def ringAdvanced (rt : MmsStaticBrcbRuntime) (full : Bool) : MmsStaticBrcbRuntime :=
  if full then
    let head := (rt.head + 1) % rt.slots.length
    if rt.deliveryOffset = 0 then
      { rt with head, droppedReports := rt.droppedReports + 1, replayGap := true }
    else { rt with head, deliveryOffset := rt.deliveryOffset - 1 }
  else { rt with count := rt.count + 1 }

theorem advanceRing_run {full : Bool} : advanceRing full rt = .ok ⟨⟩ (ringAdvanced rt full) := by
  cases full with
  | false => rfl
  | true =>
    by_cases hzero : rt.deliveryOffset = 0
    · rw [advanceRing, if_pos rfl, get_bind, if_pos hzero, ringAdvanced, if_pos rfl]
      dsimp only
      rw [if_pos hzero]
      rfl
    · rw [advanceRing, if_pos rfl, get_bind, if_neg hzero, ringAdvanced, if_pos rfl]
      dsimp only
      rw [if_neg hzero]
      rfl

theorem consumeReason_run : consumeReason plan rt = .ok ⟨⟩ (rt.settle plan) := by
  rw [consumeReason, settle]
  cases plan.reason <;> rfl

/-- What the writes make of the runtime. -/
def committed (rt : MmsStaticBrcbRuntime) (plan : MmsStaticBrcbCapturePlan) (full : Bool)
    (slots : List MmsStaticBrcbSlot) : MmsStaticBrcbRuntime :=
  let advanced := ringAdvanced { rt with slots } full
  ({ advanced with
      sequenceNumber := plan.sequenceNumber
      nextEntryNumber := Mms.nextEntryNumber plan.entryNumber }.settle plan).bumpQueue

/-- **From the copy into the slot on, no statement leaves.** -/
theorem commit_run {full : Bool} {index : Nat} {encoded : Bytes} :
    commit plan reportTime full index encoded rt =
      .ok ⟨⟩ (committed rt plan full (rt.slots.modify index (filledSlot · plan reportTime encoded))) := by
  rw [commit, bind_of_ok writeSlot_run, bind_of_ok advanceRing_run]
  exact (bind_of_ok rfl).trans (bind_of_ok consumeReason_run)

theorem committed_eq_afterCapture {slot : MmsStaticBrcbSlot} {encoded : EncodeResult}
    (hslot : rt.slots[rt.targetIndex]? = some slot) :
    committed rt plan rt.full
        (rt.slots.modify rt.targetIndex (filledSlot · plan reportTime encoded.bytes))
      = rt.afterCapture plan reportTime encoded slot := by
  have hset : rt.slots.modify rt.targetIndex (filledSlot · plan reportTime encoded.bytes)
      = rt.slots.set rt.targetIndex (filledSlot slot plan reportTime encoded.bytes) := by
    rw [List.modify_eq_set_getElem?, hslot]
    rfl
  rw [hset, committed, afterCapture]
  congr 2
  rw [ringAdvanced, advance]
  split
  · simp only [List.length_set]
    split <;> rfl
  · rfl

/-! ## The two captures -/

variable (rt plan) in
theorem checkRuntime_run : checkRuntime plan rt =
    if !rt.initialized || rt.slots.isEmpty || decide (rt.deliveryOffset > rt.count) then
      .error { status := .invalidRuntime } rt
    else if rt.stale plan then .error { status := .stalePlan } rt
    else .ok ⟨⟩ rt := by
  rw [checkRuntime, get_bind]
  dsimp only
  split
  · rfl
  · split <;> rfl

variable (rt plan) in
theorem checkIncluded_run (dataSet : MmsStaticDataSetEntry) (included : Included) :
    checkIncluded plan dataSet included rt =
      if included.indices.length = 0 ∨ included.indices.length ≠ rt.expectedIncluded plan dataSet then
        .error { status := .stalePlan, includedMemberCount := included.indices.length } rt
      else .ok ⟨⟩ rt := by
  rw [checkIncluded, get_bind]
  split <;> rfl

theorem encodeReport_run {dataSet : MmsStaticDataSetEntry} {included : Included}
    {encoded : EncodeResult}
    (hencoded : MmsBufferedSelectiveInformationReportSpanCodec.encodeSnapshotInto
      (rt.reportInput plan reportTime dataSet included) encodeBufferSize = encoded) :
    encodeReport plan reportTime encodeBufferSize dataSet included rt =
      if !encoded.success then
        .error
          { status :=
              if encoded.status = .bufferTooSmall then .responseBufferTooSmall
              else .reportEncodeFailed
            requiredBytes := encoded.requiredBytes
            includedMemberCount := included.indices.length
            entryId := encodeEntryId plan.entryNumber } rt
      else .ok encoded rt := by
  rw [encodeReport, get_bind, hencoded]
  dsimp only
  split <;> rfl

variable (plan) in
theorem chooseSlot_run (included : Included) (encoded : EncodeResult) {slot : MmsStaticBrcbSlot}
    (hslot : rt.slots[rt.targetIndex]? = some slot) :
    chooseSlot plan included encoded rt =
      if slot.storage.length < encoded.bytesWritten then
        .error
          { status := .slotTooSmall
            requiredBytes := encoded.bytesWritten
            includedMemberCount := included.indices.length
            entryId := encodeEntryId plan.entryNumber } rt
      else .ok rt.targetIndex rt := by
  rw [chooseSlot, get_bind, hslot]
  dsimp only
  split <;> rfl

/-- A result of a computation on values, with the runtime it was read from. -/
def returning (rt : MmsStaticBrcbRuntime) {α : Type} :
    Except MmsStaticBrcbCaptureResult α →
      EStateM.Result MmsStaticBrcbCaptureResult MmsStaticBrcbRuntime α
  | .ok a => .ok a rt
  | .error result => .error result rt

variable (rt plan workspaceSize reads) in
theorem collect_run (members : List MmsStaticDataSetMember) (memberIndex : Nat)
    (included : Included) :
    collect plan workspaceSize reads members memberIndex included rt =
      returning rt (collectMembers rt.objects reads workspaceSize (rt.memberReason plan.reason)
        members memberIndex included) := by
  induction members generalizing memberIndex included with
  | nil => rfl
  | cons member members ih =>
    rw [collect, collectMembers, get_bind]
    split
    · exact ih _ _
    · cases readMember rt.objects reads workspaceSize included member with
      | error result => rfl
      | ok data => exact ih _ _

end CaptureM

open CaptureM

variable (rt : MmsStaticBrcbRuntime) (plan : MmsStaticBrcbCapturePlan) (reportTime : Bytes)
  (encodeBufferSize workspaceSize : Nat) (reads : ReadCallbacks)

/-- What follows the choice of the slot. -/
def answered : EStateM.Result MmsStaticBrcbCaptureResult MmsStaticBrcbRuntime
    (Included × EncodeResult × Nat) → MmsStaticBrcbCaptureResult × MmsStaticBrcbRuntime
  | .error result rt' => (result, rt')
  | .ok (included, encoded, target) rt' =>
    ({ status := .ok
       bytesWritten := encoded.bytesWritten
       requiredBytes := encoded.requiredBytes
       includedMemberCount := included.indices.length
       entryId := encodeEntryId plan.entryNumber },
     committed rt' plan rt.full
      (rt'.slots.modify target (filledSlot · plan reportTime encoded.bytes)))

/-- The capture up to the slot, then the writes. -/
theorem captureRun_eq :
    rt.captureRun plan reportTime encodeBufferSize workspaceSize reads =
      rt.answered plan reportTime
        (prepare plan reportTime encodeBufferSize workspaceSize reads rt) := by
  rw [captureRun, CaptureM.capture, get_bind]
  cases hprepare : prepare plan reportTime encodeBufferSize workspaceSize reads rt with
  | error result rt' =>
    rw [bind_of_error hprepare]
    rfl
  | ok chosen rt' =>
    obtain ⟨included, encoded, target⟩ := chosen
    rw [bind_of_ok hprepare]
    dsimp only
    rw [bind_of_ok commit_run]
    rfl

theorem answered_storeReport (dataSet : MmsStaticDataSetEntry) (included : Included) :
    rt.answered plan reportTime
        ((do
          let encoded ← encodeReport plan reportTime encodeBufferSize dataSet included
          let target ← chooseSlot plan included encoded
          return (included, encoded, target) : CaptureM (Included × EncodeResult × Nat)) rt)
      = rt.storeReport plan reportTime encodeBufferSize dataSet included := by
  rw [storeReport]
  generalize hencoded : MmsBufferedSelectiveInformationReportSpanCodec.encodeSnapshotInto
    (rt.reportInput plan reportTime dataSet included) encodeBufferSize = encoded
  have hencode := encodeReport_run hencoded
  by_cases hok : (!encoded.success) = true
  · rw [if_pos hok] at hencode
    rw [bind_of_error hencode, if_pos hok]
    rfl
  rw [if_neg hok] at hencode
  rw [bind_of_ok hencode, if_neg hok]
  cases hslot : rt.slots[rt.targetIndex]? with
  | none =>
    have hchoose : chooseSlot plan included encoded rt = .error { status := .invalidRuntime } rt := by
      rw [chooseSlot, get_bind, hslot]
      rfl
    rw [bind_of_error hchoose]
    rfl
  | some slot =>
    have hchoose := chooseSlot_run plan included encoded hslot
    dsimp only
    by_cases hfits : slot.storage.length < encoded.bytesWritten
    · rw [if_pos hfits] at hchoose
      rw [bind_of_error hchoose, if_pos hfits]
      rfl
    rw [if_neg hfits] at hchoose
    rw [bind_of_ok hchoose, if_neg hfits]
    exact Prod.ext rfl (committed_eq_afterCapture hslot)

/-- **A capture that does not return `ok` leaves the runtime as it was.** -/
theorem capture_atomic
    (h : (rt.captureRun plan reportTime encodeBufferSize workspaceSize reads).1.status ≠ .ok) :
    (rt.captureRun plan reportTime encodeBufferSize workspaceSize reads).2 = rt := by
  have hkeeps : Keeps (· = rt)
      (prepare plan reportTime encodeBufferSize workspaceSize reads) := keeps_prepare
  specialize hkeeps rt rfl
  rw [captureRun_eq] at h ⊢
  cases hprepare : prepare plan reportTime encodeBufferSize workspaceSize reads rt with
  | error result rt' =>
    rw [hprepare] at hkeeps
    exact hkeeps
  | ok chosen rt' =>
    rw [hprepare] at h
    exact absurd rfl h

/-- A full ring with its oldest entry in the slot of 40 octets, and a general interrogation
asked for. -/
def crowdedRuntime : MmsStaticBrcbRuntime :=
  let rt := (sampleRuntime [40, 60]).initializeRuntime.2.step (.setEnabled true)
  let ops := sampleCapture rt [0x83, 0x01, 0x01]
  let ops := ops ++ sampleCapture (exec step rt ops) [0x89, 0x05, 0x01, 0x02, 0x03, 0x04, 0x05]
  (exec step rt ops).step .requestGeneralInterrogation

/-- A report of 42 octets does not fit the slot of the oldest entry. -/
theorem capture_atomic_sample :
    let plan := (crowdedRuntime.nextDue 0).1.getD {}
    let reads := constantReads [0x89, 0x05, 0x01, 0x02, 0x03, 0x04, 0x05]
    (crowdedRuntime.captureRun plan [] 64 64 reads).1.status = .slotTooSmall ∧
    (crowdedRuntime.captureRun plan [] 64 64 reads).2 = crowdedRuntime :=
  have hstatus : (crowdedRuntime.captureRun ((crowdedRuntime.nextDue 0).1.getD {}) [] 64 64
      (constantReads [0x89, 0x05, 0x01, 0x02, 0x03, 0x04, 0x05])).1.status = .slotTooSmall := by
    decide
  ⟨hstatus, capture_atomic _ _ _ _ _ _ (hstatus ▸ by decide)⟩

/-- **Statement by statement, the capture computes what `capture` computes.** -/
theorem captureRun_eq_capture :
    rt.captureRun plan reportTime encodeBufferSize workspaceSize reads
      = rt.capture plan reportTime encodeBufferSize workspaceSize reads := by
  rw [captureRun_eq, capture, prepare]
  by_cases hready : (!rt.initialized || rt.slots.isEmpty ||
      decide (rt.deliveryOffset > rt.count)) = true
  · have hcheck := checkRuntime_run rt plan
    rw [if_pos hready] at hcheck
    rw [bind_of_error hcheck, if_pos hready]
    rfl
  rw [if_neg hready]
  by_cases hstale : rt.stale plan = true
  · have hcheck := checkRuntime_run rt plan
    rw [if_neg hready, if_pos hstale] at hcheck
    rw [bind_of_error hcheck, if_pos hstale]
    rfl
  have hcheck := checkRuntime_run rt plan
  rw [if_neg hready, if_neg hstale] at hcheck
  rw [if_neg hstale, bind_of_ok hcheck]
  cases hds : rt.dataSet with
  | none =>
    have hfind : findDataSet rt = .error { status := .dataSetNotFound } rt := by
      rw [findDataSet, get_bind, hds]
      rfl
    rw [bind_of_error hfind]
    rfl
  | some dataSet =>
    have hfind : findDataSet rt = .ok dataSet rt := by
      rw [findDataSet, get_bind, hds]
      rfl
    have hcollect := collect_run rt plan workspaceSize reads dataSet.members 0 {}
    rw [bind_of_ok hfind]
    dsimp only
    cases hcol : collectMembers rt.objects reads workspaceSize (rt.memberReason plan.reason)
        dataSet.members 0 {} with
    | error result =>
      rw [hcol] at hcollect
      rw [bind_of_error hcollect]
      rfl
    | ok included =>
      rw [hcol] at hcollect
      have hincluded := checkIncluded_run rt plan dataSet included
      rw [bind_of_ok hcollect]
      dsimp only
      by_cases hcount : included.indices.length = 0 ∨
          included.indices.length ≠ rt.expectedIncluded plan dataSet
      · rw [if_pos hcount] at hincluded
        rw [bind_of_error hincluded, if_pos hcount]
        rfl
      rw [if_neg hcount] at hincluded
      rw [bind_of_ok hincluded, if_neg hcount]
      exact answered_storeReport rt plan reportTime encodeBufferSize dataSet included

end ArStack.Mms.MmsStaticBrcbRuntime
