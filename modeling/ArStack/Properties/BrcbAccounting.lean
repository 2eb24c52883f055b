import Mathlib.Data.List.Range
import ArStack.Lib.Marks
import ArStack.Lib.Run
import ArStack.Spec.BrcbLog
import ArStack.Spec.BufferedReport

/-!
# Accounting of events

A `History` remembers the notifications that were accepted since the pending state was last
cleared. The pending state of the runtime is a summary of it, and an event capture reports
exactly it.

* `Accounts` — the pending state summarizes the history
* `event_accounting` — in every run, with what each capture reports and leaves
* `reason_not_in_entry` — without the optional field the entry does not tell the reasons
-/

namespace ArStack.Mms

open ArStack.Lib ArStack.Wire

namespace MmsStaticBrcbRuntime

open MmsBufferedSelectiveInformationReportSpanCodec

/-- The accepted notifications since the last event capture or clear. -/
structure History where
  /-- The time of the first one. -/
  firstMs : Option UInt64 := none
  /-- Members and reason bits, oldest first. -/
  accepted : List (Nat × UInt8) := []

namespace History

/-- The reason bits accepted for a member. -/
def mask (h : History) (member : Nat) : UInt8 :=
  h.accepted.foldl (fun mask event => if event.1 = member then mask ||| event.2 else mask) 0

/-- The history after an operation on `rt`. -/
def next (rt : MmsStaticBrcbRuntime) (h : History) : Operation → History
  | .notify index reason nowMs =>
    if (rt.notify index reason nowMs).1 = .ok then
      { firstMs := h.firstMs.or (some nowMs)
        accepted := h.accepted ++ [(index, (eventMapping reason).2)] }
    else h
  | .capture plan reportTime encodeBufferSize workspaceSize reads =>
    if (rt.capture plan reportTime encodeBufferSize workspaceSize reads).1.status = .ok ∧
      plan.reason = .event then {} else h
  | .setEnabled enabled => if rt.enabled = enabled then h else {}
  | .setOptionalFields optionalFields =>
    if (rt.setOptionalFields optionalFields).1 = .ok ∧
      optionalFields ≠ rt.optionalFields.toList then {} else h
  | .setTriggerOptions triggerOptions =>
    if (rt.setTriggerOptions triggerOptions).1 = .ok ∧
      rt.triggerOptions ≠ triggerOptions then {} else h
  | .setIntegrityPeriod integrityPeriodMs =>
    if (rt.setIntegrityPeriod integrityPeriodMs).1 = .ok ∧
      rt.integrityPeriodMs ≠ integrityPeriodMs then {} else h
  | _ => h

theorem mask_empty (member : Nat) : ({} : History).mask member = 0 := rfl

theorem mask_concat (first : Option UInt64) (accepted : List (Nat × UInt8)) (index : Nat)
    (reason : UInt8) (member : Nat) :
    (⟨first, accepted ++ [(index, reason)]⟩ : History).mask member
      = if index = member then (⟨first, accepted⟩ : History).mask member ||| reason
        else (⟨first, accepted⟩ : History).mask member := marks_concat _ _ _

end History

/-- The machine with its history. -/
def stepHistory (s : MmsStaticBrcbRuntime × History) (op : Operation) :
    MmsStaticBrcbRuntime × History := (s.1.step op, s.2.next s.1 op)

/-! ## The pending state summarizes the history -/

/-- **The pending state summarizes the history.** -/
structure Accounts (rt : MmsStaticBrcbRuntime) (h : History) : Prop where
  masks : ∀ (m : Nat) (hm : m < maximumMembers), rt.pending.memberReasonMasks[m] = h.mask m
  count : rt.pending.pendingMemberCount = rt.pending.memberReasonMasks.countP (· != 0)
  pending : rt.pending.pending = true ↔ 0 < rt.pending.pendingMemberCount
  first : rt.pending.pending = h.firstMs.isSome
  due : ∀ t ∈ h.firstMs, rt.pending.dueMs.toNat
    = min (t.toNat + rt.definition.bufferTimeMs.toNat) (2 ^ 64 - 1)
  members : ∀ dataSet ∈ rt.dataSet, ∀ event ∈ h.accepted, event.1 < dataSet.members.length

variable {rt : MmsStaticBrcbRuntime} {h : History}

theorem toNat_saturatingAdd (base delta : UInt64) :
    (saturatingAdd base delta).toNat = min (base.toNat + delta.toNat) (2 ^ 64 - 1) := by
  have hb := base.toNat_lt
  have hd := delta.toNat_lt
  have hmax : uint64Max.toNat = 2 ^ 64 - 1 := rfl
  have hsub : (uint64Max - base).toNat = 2 ^ 64 - 1 - base.toNat := by
    rw [UInt64.toNat_sub_of_le _ _ (by rw [UInt64.le_iff_toNat_le]; omega), hmax]
  rw [saturatingAdd]
  split
  · rename_i hgt
    have hgt' : (uint64Max - base).toNat < delta.toNat := UInt64.lt_iff_toNat_lt.mp hgt
    omega
  · rename_i hle
    have hle' : ¬(uint64Max - base).toNat < delta.toNat := fun hlt =>
      hle (UInt64.lt_iff_toNat_lt.mpr hlt)
    rw [UInt64.toNat_add]
    omega

theorem dataSet_congr {rt' : MmsStaticBrcbRuntime} (hfixed : rt'.fixed = rt.fixed) :
    rt'.dataSet = rt.dataSet := by
  have hdef : rt'.definition = rt.definition := congrArg Fixed.definition hfixed
  have hsets : rt'.dataSets = rt.dataSets := congrArg Fixed.dataSets hfixed
  rw [dataSet, dataSet, hdef, hsets]

/-- Only the pending state and what never changes matter. -/
theorem Accounts.congr {rt' : MmsStaticBrcbRuntime} (hacc : Accounts rt h)
    (hpending : rt'.pending = rt.pending) (hfixed : rt'.fixed = rt.fixed) :
    Accounts rt' h where
  masks := by
    rw [hpending]
    exact hacc.masks
  count := by
    rw [hpending]
    exact hacc.count
  pending := by
    rw [hpending]
    exact hacc.pending
  first := by
    rw [hpending]
    exact hacc.first
  due := by
    have hdef : rt'.definition = rt.definition := congrArg Fixed.definition hfixed
    rw [hpending, hdef]
    exact hacc.due
  members := by
    rw [dataSet_congr hfixed]
    exact hacc.members

/-- A cleared pending state summarizes the empty history. -/
theorem accounts_clear (hmasks : rt.pending.memberReasonMasks = .replicate maximumMembers 0)
    (hcount : rt.pending.pendingMemberCount = 0) (hpending : rt.pending.pending = false) :
    Accounts rt {} where
  masks := by
    intro m hm
    rw [hmasks, Vector.getElem_replicate, History.mask_empty]
  count := by
    rw [hcount, hmasks, eq_comm, Vector.countP_eq_zero]
    intro x hx
    simp [Vector.mem_replicate.mp hx]
  pending := by simp [hpending, hcount]
  first := hpending
  due := by simp
  members := by simp

theorem accounts_clearedPending {rt' : MmsStaticBrcbRuntime}
    (heq : rt'.pending = rt.clearedPending) : Accounts rt' {} :=
  accounts_clear (by rw [heq]; rfl) (by rw [heq]; rfl) (by rw [heq]; rfl)

theorem eventMapping_ne_zero (reason : MmsStaticBrcbEventReason) : (eventMapping reason).2 ≠ 0 := by
  cases reason <;> decide

/-- A mark is an accepted notification. -/
theorem Accounts.markMember (hacc : Accounts rt h) (index : Fin maximumMembers) {reason : UInt8}
    (hreason : reason ≠ 0) (nowMs : UInt64) {dataSet : MmsStaticDataSetEntry}
    (hdata : rt.dataSet = some dataSet) (hmember : index.val < dataSet.members.length) :
    Accounts { rt with pending := rt.markMember index reason nowMs }
      { firstMs := h.firstMs.or (some nowMs), accepted := h.accepted ++ [(index.val, reason)] } := by
  obtain ⟨index, hi⟩ := index
  have hset : rt.pending.memberReasonMasks[index] ||| reason ≠ 0 := by
    rw [ne_eq, UInt8.or_eq_zero_iff]
    exact fun hzero => hreason hzero.2
  have hcount : (rt.pending.memberReasonMasks.set index
      (rt.pending.memberReasonMasks[index] ||| reason)).countP (· != 0)
      = rt.pending.memberReasonMasks.countP (· != 0)
        - (if rt.pending.memberReasonMasks[index] != 0 then 1 else 0) + 1 := by
    rw [Vector.countP_set hi]
    simp [hset]
  have hpos : rt.pending.memberReasonMasks[index] ≠ 0 →
      0 < rt.pending.memberReasonMasks.countP (· != 0) := fun hne =>
    Vector.countP_pos_iff.mpr ⟨_, Vector.getElem_mem hi, by simpa using hne⟩
  refine
    { masks := ?_
      count := ?_
      pending := ?_
      first := ?_
      due := ?_
      members := ?_ }
  · intro m hm
    rw [History.mask_concat]
    show (rt.pending.memberReasonMasks.set index _)[m] = _
    rw [Vector.getElem_set]
    have hmask := hacc.masks m hm
    split
    · rename_i heq
      subst heq
      exact congrArg (· ||| reason) hmask
    · exact hmask
  · show (if rt.pending.memberReasonMasks[index] = 0 then _ else _)
      = (rt.pending.memberReasonMasks.set index _).countP _
    refine Eq.trans ?_ hcount.symm
    rw [hacc.count]
    by_cases hzero : rt.pending.memberReasonMasks[index] = 0
    · simp [hzero]
    · have := hpos hzero
      simp only [hzero, if_false, bne_iff_ne, ne_eq, not_false_eq_true, if_true]
      omega
  · refine iff_of_true rfl ?_
    show 0 < if rt.pending.memberReasonMasks[index] = 0 then _ else _
    split
    · omega
    · rename_i hne
      rw [hacc.count]
      exact hpos hne
  · show true = _
    cases h.firstMs <;> rfl
  · intro t ht
    have hfirst := hacc.first
    show (if rt.pending.pending then _ else _ : UInt64).toNat = _
    cases hf : h.firstMs with
    | none =>
      rw [hf] at hfirst ht
      obtain rfl : nowMs = t := by simpa using ht
      rw [hfirst, if_neg (by simp), toNat_saturatingAdd]
      simp
    | some first =>
      rw [hf] at hfirst ht
      obtain rfl : first = t := by simpa using ht
      rw [hfirst, Option.isSome_some, if_pos rfl]
      exact hacc.due first hf
  · intro dataSet' hdata' event hevent
    obtain rfl : dataSet = dataSet' := Option.some.inj (hdata.symm.trans hdata')
    rcases List.mem_append.mp hevent with hevent | hevent
    · exact hacc.members dataSet hdata event hevent
    · rw [List.mem_singleton.mp hevent]
      exact hmember

/-- **Every operation keeps the summary.** -/
theorem accounts_step (op : Operation) (hinit : rt.initialized = true) (hacc : Accounts rt h) :
    Accounts (rt.step op) (h.next rt op) := by
  have hfixed : (rt.step op).fixed = rt.fixed := fixed_step op
  -- the three `set_*` of the configuration
  have hconf : ∀ (valid unchanged : Bool) (update : MmsStaticBrcbRuntime → MmsStaticBrcbRuntime)
      (changed : Prop) [Decidable changed], (changed ↔ unchanged = false) →
      Accounts (rt.configure valid unchanged update).2
        (if (rt.configure valid unchanged update).1 = .ok ∧ changed then {} else h) := by
    intro valid unchanged update changed _ hchanged
    rcases configure_cases rt valid unchanged update with ⟨hno, heq⟩ | ⟨hok, hnew, heq⟩
    · rw [if_neg, heq]
      · exact hacc
      · rintro ⟨hok, hnew⟩
        rw [hchanged] at hnew
        rcases hno with hno | hno
        · exact hno hok
        · rw [hno] at hnew
          cases hnew
    · rw [if_pos ⟨hok, hchanged.mpr hnew⟩, heq]
      exact accounts_clear rfl rfl rfl
  cases op with
  | setEnabled enabled =>
    have hpending := pending_setEnabled enabled hinit
    rw [History.next]
    split
    · rename_i heq
      rw [if_pos heq] at hpending
      exact hacc.congr hpending hfixed
    · rename_i hne
      rw [if_neg hne] at hpending
      exact accounts_clearedPending hpending
  | setOptionalFields optionalFields =>
    exact hconf _ _ _ _ (by simp)
  | setTriggerOptions triggerOptions =>
    exact hconf _ _ _ _ (by simp)
  | setIntegrityPeriod integrityPeriodMs =>
    exact hconf _ _ _ _ (by simp)
  | notify index reason nowMs =>
    rw [History.next, step]
    rcases notify_cases rt index reason nowMs with
      ⟨hne, heq⟩ | ⟨hok, -, hi, dataSet, hdata, hmember, heq⟩
    · rw [if_neg hne, heq]
      exact hacc
    · rw [if_pos hok, heq]
      exact hacc.markMember ⟨index, hi⟩ (eventMapping_ne_zero reason) nowMs hdata hmember
  | requestGeneralInterrogation => exact hacc.congr pending_requestGeneralInterrogation hfixed
  | nextDue nowMs => exact hacc.congr (pending_nextDue nowMs) hfixed
  | capture plan reportTime encodeBufferSize workspaceSize reads =>
    rw [History.next, step]
    rcases capture_cases rt plan reportTime encodeBufferSize workspaceSize reads with
      ⟨hne, heq⟩ | ⟨hok, dataSet, included, encoded, slot, hcap, heq⟩
    · rw [if_neg fun hand => hne hand.1, heq]
      exact hacc
    · have hpending := rt.pending_afterCapture plan reportTime encoded slot
      have hfixed' : (rt.afterCapture plan reportTime encoded slot).fixed = rt.fixed :=
        heq ▸ hfixed
      rw [heq]
      by_cases hevent : plan.reason = .event
      · rw [if_pos hevent] at hpending
        rw [if_pos ⟨hok, hevent⟩]
        exact accounts_clearedPending hpending
      · rw [if_neg hevent] at hpending
        rw [if_neg fun hand => hevent hand.2]
        exact hacc.congr hpending hfixed'
  | commitDelivery entryId =>
    rcases commitDelivery_cases rt entryId with ⟨-, heq⟩ | ⟨-, -, -, heq⟩
    · exact hacc.congr (by rw [step, heq]) hfixed
    · exact hacc.congr (by rw [step, heq]; rfl) hfixed
  | replayFrom entryId => exact hacc.congr (pending_moveCursor entryId 0) hfixed
  | resumeAfter entryId => exact hacc.congr (pending_moveCursor entryId 1) hfixed
  | rewindToOldest =>
    rcases rewindToOldest_cases rt with ⟨-, heq⟩ | ⟨-, heq⟩
    · exact hacc.congr (by rw [step, heq]) hfixed
    · exact hacc.congr (by rw [step, heq]; rfl) hfixed
  | purgeBuffer =>
    rcases purgeBuffer_cases rt with ⟨-, heq⟩ | ⟨-, heq⟩
    · exact hacc.congr (by rw [step, heq]) hfixed
    · exact hacc.congr (by rw [step, heq]; rfl) hfixed

/-! ## What an event capture reports -/

/-- An accepted reason bit is in the mask of its member. -/
theorem History.mask_and {h : History} {event : Nat × UInt8} (hmem : event ∈ h.accepted) :
    h.mask event.1 &&& event.2 = event.2 := and_marks hmem

/-- `pdu` reports `h`: every accepted reason bit is in the mask of a member of the data set, the
inclusion bits are the members with a mask, and the optional field adds the masks themselves. -/
def ReportsHistory (rt : MmsStaticBrcbRuntime) (h : History) (pdu : Bytes) : Prop :=
  ∃ (dataSet : MmsStaticDataSetEntry) (preamble octets values : Bytes),
    rt.dataSet = some dataSet ∧
    (∀ event ∈ h.accepted, event.1 < dataSet.members.length ∧
      h.mask event.1 &&& event.2 = event.2) ∧
    (∀ m < dataSet.members.length,
      octets.getD (m / 8) 0 &&& inclusionBit m ≠ 0 ↔ h.mask m ≠ 0) ∧
    pdu = preamble ++ memberBitString dataSet.members.length octets ++ values ++
      if rt.firstOptionalFields &&& Detail.optReasonForInclusion ≠ 0 then
        ((List.range dataSet.members.length).filter (h.mask · ≠ 0)).flatMap
          fun m => reasonField (h.mask m)
      else []

theorem pdu_filledSlot (slot : MmsStaticBrcbSlot) (plan : MmsStaticBrcbCapturePlan)
    (reportTime encoded : Bytes) : (filledSlot slot plan reportTime encoded).pdu = encoded :=
  List.take_left

theorem optionalSelected_reportInput (plan : MmsStaticBrcbCapturePlan) (reportTime : Bytes)
    (dataSet : MmsStaticDataSetEntry) (included : Included) (mask : UInt8) :
    Detail.optionalSelected (rt.reportInput plan reportTime dataSet included) 0 mask
      = (rt.firstOptionalFields &&& mask != 0) := by
  have hget : rt.optionalFields.toList[0]? = some rt.firstOptionalFields := by
    rw [Vector.getElem?_toList]
    exact Vector.getElem?_eq_getElem (by decide)
  have hfields : (rt.reportInput plan reportTime dataSet included).optionalFields =
      rt.optionalFields.toList := rfl
  rw [Detail.optionalSelected, hfields, hget]

/-- **The report of an event capture is the history.** -/
theorem reportsHistory_afterCapture {plan : MmsStaticBrcbCapturePlan} {reportTime : Bytes}
    {encodeBufferSize workspaceSize : Nat} {reads : ReadCallbacks}
    {dataSet : MmsStaticDataSetEntry} {included : Included} {encoded : EncodeResult}
    {slot : MmsStaticBrcbSlot} (hacc : Accounts rt h) (hvalid : rt.dataSets.valid = true)
    (hcap : Captured rt plan reportTime encodeBufferSize workspaceSize reads dataSet included
      encoded slot) (hevent : plan.reason = .event) :
    ReportsHistory rt h encoded.bytes := by
  have hlen := (MmsStaticDataSetTable.find_valid hvalid hcap.dataSet_eq).2
  obtain ⟨hind, hrea⟩ := collectMembers_ok hcap.collected
  rw [hevent, List.nil_append, ← List.range_eq_range'] at hind hrea
  -- below the member count the masks are those of the history
  have hmask : ∀ m < dataSet.members.length, rt.memberReason .event m = h.mask m := by
    intro m hm
    have hm' : m < maximumMembers := Nat.lt_of_lt_of_le hm hlen
    rw [← hacc.masks m hm', memberReason]
    simp only [List.getD_eq_getElem?_getD, Vector.getElem?_toList]
    rw [Vector.getElem?_eq_getElem hm']
    rfl
  have hfilter : (List.range dataSet.members.length).filter (rt.memberReason .event · ≠ 0)
      = (List.range dataSet.members.length).filter (h.mask · ≠ 0) :=
    List.filter_congr fun m hm => by rw [hmask m (List.mem_range.mp hm)]
  have hok := hcap.encoded_ok
  rw [← hcap.encoded_eq] at hok
  obtain ⟨preamble, values, hbytes⟩ := encodeSnapshotInto_ok hok
  rw [hcap.encoded_eq] at hbytes
  refine ⟨dataSet, preamble, inclusionOctets (rt.reportInput plan reportTime dataSet included),
    values, hcap.dataSet_eq, ?_, ?_, hbytes.trans ?_⟩
  · intro event hmem
    exact ⟨hacc.members dataSet hcap.dataSet_eq event hmem, History.mask_and hmem⟩
  · intro m hm
    have hsort : (rt.reportInput plan reportTime dataSet included).includedMemberIndices.Pairwise
        (· < ·) := by
      show included.indices.Pairwise _
      rw [hind]
      exact List.pairwise_lt_range.filter _
    rw [inclusionOctets_bit hsort hm]
    show m ∈ included.indices ↔ _
    rw [hind, hfilter]
    simp [hm]
  · rw [inclusionField, reasonFields, optionalSelected_reportInput]
    congr 1
    by_cases hsel : rt.firstOptionalFields &&& Detail.optReasonForInclusion = 0
    · simp [hsel]
    · have hselected : (rt.firstOptionalFields &&& Detail.optReasonForInclusion != 0) = true := by
        simpa using hsel
      have hreasons : (rt.reportInput plan reportTime dataSet included).includedReasonForInclusion
          = included.reasons := if_pos hselected
      rw [if_pos hselected, if_pos hsel, hreasons, hrea, hfilter, List.flatMap_map]
      refine List.flatMap_congr fun m hm => ?_
      rw [hmask m (List.mem_range.mp (List.mem_of_mem_filter hm))]

/-! ## Every run -/

/-- The history before the `i`-th operation of a run. -/
def historyAt (rt : MmsStaticBrcbRuntime) (ops : List Operation) (i : Nat) : History :=
  (stateAt stepHistory (rt, {}) ops i).2

theorem stateAt_stepHistory_fst (rt : MmsStaticBrcbRuntime) (ops : List Operation) (i : Nat) :
    (stateAt stepHistory (rt, {}) ops i).1 = stateAt step rt ops i := by
  have hexec : ∀ (ops : List Operation) (s : MmsStaticBrcbRuntime × History),
      (exec stepHistory s ops).1 = exec step s.1 ops := by
    intro ops
    induction ops with
    | nil => exact fun _ => rfl
    | cons op ops ih => exact fun s => ih (stepHistory s op)
  exact hexec (ops.take i) (rt, {})

/-- What a capture does to the pending state, and what an event capture stores. -/
def CaptureAccounts (rt : MmsStaticBrcbRuntime) (h : History) (op : Operation) : Prop :=
  match op with
  | .capture plan reportTime encodeBufferSize workspaceSize reads =>
    if (rt.capture plan reportTime encodeBufferSize workspaceSize reads).1.status = .ok ∧
        plan.reason = .event then
      ∃ slot ∈ (rt.step op).ring.retained.getLast?, ReportsHistory rt h slot.pdu
    else (rt.step op).pending = rt.pending
  | _ => True

theorem captureAccounts_step (op : Operation) (hinv : RingInv rt.ring)
    (hvalid : rt.dataSets.valid = true) (hacc : Accounts rt h) : CaptureAccounts rt h op := by
  cases op with
  | capture plan reportTime encodeBufferSize workspaceSize reads =>
    rw [CaptureAccounts, step]
    rcases capture_cases rt plan reportTime encodeBufferSize workspaceSize reads with
      ⟨hne, heq⟩ | ⟨hok, dataSet, included, encoded, slot, hcap, heq⟩
    · rw [if_neg fun hand => hne hand.1, heq]
    · have hpending := rt.pending_afterCapture plan reportTime encoded slot
      rw [heq]
      by_cases hevent : plan.reason = .event
      · rw [if_pos ⟨hok, hevent⟩, ring_afterCapture, retained_advance hinv]
        refine ⟨filledSlot slot plan reportTime encoded.bytes, by simp, ?_⟩
        rw [pdu_filledSlot]
        exact reportsHistory_afterCapture hacc hvalid hcap hevent
      · rw [if_neg fun hand => hevent hand.2]
        rwa [if_neg hevent] at hpending
  | _ => trivial

theorem accounts_initializeRuntime {rt rt' : MmsStaticBrcbRuntime}
    (hinit : rt.initializeRuntime = (true, rt')) : Accounts rt' {} := by
  obtain ⟨-, -, -, -, rfl⟩ := initializeRuntime_eq hinit
  exact accounts_clear rfl rfl rfl

/-- **In every run the pending state summarizes the notifications accepted since it was last
cleared, an event capture reports exactly these, and every other capture leaves it alone.** -/
theorem event_accounting {rt rt' : MmsStaticBrcbRuntime}
    (hinit : rt.initializeRuntime = (true, rt')) (ops : List Operation) :
    (∀ i, Accounts (stateAt step rt' ops i) (historyAt rt' ops i)) ∧
    ∀ i (hi : i < ops.length),
      CaptureAccounts (stateAt step rt' ops i) (historyAt rt' ops i) ops[i] := by
  have hacc : ∀ i, Accounts (stateAt step rt' ops i) (historyAt rt' ops i) := by
    intro i
    rw [← stateAt_stepHistory_fst]
    have hstart : rt'.initialized = true ∧ Accounts rt' {} :=
      ⟨initialized_initializeRuntime hinit, accounts_initializeRuntime hinit⟩
    exact (stateAt_invariant
      (fun s : MmsStaticBrcbRuntime × History => s.1.initialized = true ∧ Accounts s.1 s.2)
      (fun s op hs => ⟨initialized_step hs.1, accounts_step op hs.1 hs.2⟩) hstart ops i).2
  refine ⟨hacc, fun i hi => captureAccounts_step ops[i] (ringInv_stateAt hinit ops i) ?_ (hacc i)⟩
  have hsets : (stateAt step rt' ops i).fixed = rt'.fixed :=
    stateAt_invariant (fun rt : MmsStaticBrcbRuntime => rt.fixed = rt'.fixed)
      (fun _ op hs => (fixed_step op).trans hs) rfl ops i
  have hvalid : rt'.dataSets.valid = true := by
    obtain ⟨-, hvalid, -, -, rfl⟩ := initializeRuntime_eq hinit
    exact hvalid
  exact (congrArg (·.dataSets.valid) hsets).trans hvalid

/-- Enable, accept one notification and capture it when it is due. -/
def notifyOps (reason : MmsStaticBrcbEventReason) : List Operation :=
  let rt := (sampleRuntime [40]).initializeRuntime.2
  let ops := [.setEnabled true, .notify 0 reason 0]
  ops ++ [.capture (((exec step rt ops).nextDue 5).1.getD {}) [] 64 64
    (constantReads [0x83, 0x01, 0x01])]

/-- The entries this leaves. -/
def notifiedEntries (reason : MmsStaticBrcbEventReason) : List BrcbEntry :=
  (exec step (sampleRuntime [40]).initializeRuntime.2 (notifyOps reason)).ring.retained.map
    (·.entry)

theorem event_accounting_sample :
    ((sampleRuntime [40]).initializeRuntime.1 = true ∧
      (notifiedEntries .dataChange).length = 1) ∧
    (∀ i, Accounts (stateAt step (sampleRuntime [40]).initializeRuntime.2 (notifyOps .dataChange) i)
      (historyAt (sampleRuntime [40]).initializeRuntime.2 (notifyOps .dataChange) i)) ∧
    ∀ i (hi : i < (notifyOps .dataChange).length),
      CaptureAccounts
        (stateAt step (sampleRuntime [40]).initializeRuntime.2 (notifyOps .dataChange) i)
        (historyAt (sampleRuntime [40]).initializeRuntime.2 (notifyOps .dataChange) i)
        (notifyOps .dataChange)[i] :=
  ⟨⟨by decide, by decide⟩,
    event_accounting (show _ = (true, (sampleRuntime [40]).initializeRuntime.2) from
      Prod.ext (by decide) rfl) (notifyOps .dataChange)⟩

/-- **Without the reason-for-inclusion field the stored entry does not tell the reason**: no way
to read the entries of the two runs finds the bit that was accepted. -/
theorem reason_not_in_entry :
    (∀ reason, (notifiedEntries reason).length = 1) ∧
    ¬∃ reasonOf : List BrcbEntry → UInt8,
      ∀ reason, reasonOf (notifiedEntries reason) = (eventMapping reason).2 := by
  have hsame : notifiedEntries .dataChange = notifiedEntries .qualityChange := by decide
  constructor
  · intro reason
    cases reason <;> decide
  · rintro ⟨reasonOf, hread⟩
    have hdata := hread .dataChange
    rw [hsame, hread .qualityChange] at hdata
    exact absurd hdata (by decide)

end MmsStaticBrcbRuntime

end ArStack.Mms
