import ArStack.Spec.BrcbLog

/-!
# The ring under every sequence of operations

* `ring_refines_log` — after any operations the ring invariant holds, and each operation acts
  on the log of retained entries as its specification `LogStep` says
-/

namespace ArStack.Mms

open ArStack.Lib ArStack.Wire

/-- The entry identifier of an entry. -/
def BrcbEntry.hasId (entryId : Bytes) (entry : BrcbEntry) : Bool :=
  entryId == (encodeEntryId entry.entryNumber).toList

theorem MmsStaticBrcbSlot.hasId_entry (slot : MmsStaticBrcbSlot) (entryId : Bytes) :
    slot.entry.hasId entryId = entryIdEqual entryId slot.entryId := by
  rw [BrcbEntry.hasId, entryIdEqual]
  show (entryId == (encodeEntryId (decodeEntryId slot.entryId.toList)).toList) = _
  rw [encodeEntryId_decodeEntryId]

namespace MmsStaticBrcbRuntime

/-! ## The specification -/

/-- Put the reader `behind` entries behind the first entry with this identifier. -/
def seekEntry (l : BoundedLog BrcbEntry) (entryId : Bytes) (behind : Nat) : BoundedLog BrcbEntry :=
  match l.entries.findIdx? (·.hasId entryId) with
  | none => l
  | some logical => l.seek (logical + behind)

/-- A successful capture: one more entry, at most the oldest one gone, and a report that was
not delivered is gone only with a count, a gap and a mark on the new entry. -/
structure CaptureStep (rt rt' : MmsStaticBrcbRuntime) (l l' : BoundedLog BrcbEntry)
    (entry : BrcbEntry) : Prop where
  entryNumber : entry.entryNumber = rt.nextEntryNumber
  sequenceNumber : entry.sequenceNumber = nextSequenceNumber rt.sequenceNumber
  log_eq : l' = l.append entry
  entries_eq : ∃ evicted ≤ 1, l'.entries = l.entries.drop evicted ++ [entry]
  unread_eq : l'.unread = l.unread ++ [entry] ∨
    l'.unread = l.unread.tail ++ [entry] ∧ rt'.droppedReports = rt.droppedReports + 1 ∧
      rt'.replayGap = true ∧ entry.bufferOverflow = true

/-- What an operation does to the log. -/
def LogStep (rt : MmsStaticBrcbRuntime) (op : Operation) (l l' : BoundedLog BrcbEntry) : Prop :=
  match op with
  | .capture plan reportTime encodeBufferSize workspaceSize reads =>
    if (rt.capture plan reportTime encodeBufferSize workspaceSize reads).1.status = .ok then
      ∃ entry, CaptureStep rt (rt.step op) l l' entry
    else l' = l
  | .commitDelivery entryId =>
    l' = if l.unread.head?.any (·.hasId entryId) then l.seek (l.cursor + 1) else l
  | .replayFrom entryId => l' = seekEntry l entryId 0
  | .resumeAfter entryId => l' = seekEntry l entryId 1
  | .rewindToOldest => l' = l.seek 0
  | .purgeBuffer => l' = l.clear
  | _ => l' = l

/-! ## The operations meet it -/

variable {rt : MmsStaticBrcbRuntime}

/-- A log depends on the ring only. -/
theorem log_congr {r r' : Ring} (heq : r' = r) (h : RingInv r) (h' : RingInv r') :
    log r' h' = log r h := by
  subst heq
  rfl

theorem log_of_eq {rt' : MmsStaticBrcbRuntime} (heq : rt' = rt) (h : RingInv rt.ring)
    (h' : RingInv rt'.ring) : log rt'.ring h' = log rt.ring h :=
  log_congr (congrArg ring heq) h h'

theorem captureStep_afterCapture {plan : MmsStaticBrcbCapturePlan} {reportTime : Bytes}
    {encodeBufferSize workspaceSize : Nat} {reads : ReadCallbacks}
    {dataSet : MmsStaticDataSetEntry} {included : Included} {encoded : EncodeResult}
    {slot : MmsStaticBrcbSlot} (h : RingInv rt.ring)
    (hcap : Captured rt plan reportTime encodeBufferSize workspaceSize reads dataSet included
      encoded slot)
    (h' : RingInv (rt.afterCapture plan reportTime encoded slot).ring) :
    CaptureStep rt (rt.afterCapture plan reportTime encoded slot) (log _ h) (log _ h')
      (filledSlot slot plan reportTime encoded.bytes).entry := by
  have hfresh := fresh_of_stale hcap.fresh
  have hring := rt.ring_afterCapture plan slot reportTime encoded
  have hlog : log _ h' = (log _ h).append (filledSlot slot plan reportTime encoded.bytes).entry := by
    rw [log_congr hring (hring ▸ h') h', log_advance h]
  have hcapacity : 0 < (log _ h).capacity := by
    have := h.head_lt
    show 0 < rt.slots.length
    exact Nat.lt_of_le_of_lt (Nat.zero_le _) this
  refine
    { entryNumber := ?_
      sequenceNumber := hfresh.sequenceNumber
      log_eq := hlog
      entries_eq := ?_
      unread_eq := ?_ }
  · exact (entryNumber_filledSlot reportTime encoded.bytes).trans hfresh.entryNumber
  · exact ⟨_, (log _ h).evicted_le_one, by rw [hlog, BoundedLog.append_entries _ _ hcapacity]⟩
  · rw [hlog]
    rcases (log _ h).unread_append (filledSlot slot plan reportTime encoded.bytes).entry hcapacity
      with ⟨-, heq⟩ | ⟨hloses, heq⟩
    · exact .inl heq
    · have hoverflow : rt.overflow = true := (overflow_iff h).mpr hloses
      refine .inr ⟨heq, ?_, ?_, ?_⟩
      · show (rt.afterCapture plan reportTime encoded slot).ring.droppedReports = _
        rw [hring, ring_advance, hoverflow]
        rfl
      · show (rt.afterCapture plan reportTime encoded slot).ring.replayGap = true
        rw [hring, ring_advance, hoverflow]
        rfl
      · exact hfresh.bufferOverflow.trans hoverflow

/-- The search of the ring is the search of the log. -/
theorem findEntry_eq (h : RingInv rt.ring) (hinit : rt.initialized = true) (entryId : Bytes) :
    rt.findEntry entryId = (log _ h).entries.findIdx? (·.hasId entryId) := by
  have hhead : rt.head < rt.slots.length := h.head_lt
  have hcount : rt.count ≤ rt.slots.length := h.count_le
  have hlog : (log _ h).entries.length = rt.count := length_log h
  by_cases hlen : entryId.length = entryIdBytes
  · rw [findEntry, if_neg (by simp [hinit, hlen]; omega), ← hlog]
    refine BoundedLog.find?_range_eq_findIdx? fun k hk => ?_
    have hk' : k < rt.ring.count := lt_of_lt_of_eq hk hlog
    have hget : rt.ring.retained[k]? = rt.slots[(rt.head + k) % rt.slots.length]? :=
      h.getElem?_retained hk'
    have hlt : (rt.head + k) % rt.slots.length < rt.slots.length := Nat.mod_lt _ (by omega)
    rw [List.getElem?_eq_getElem hlt] at hget
    have hmem := List.mem_of_getElem? hget
    rw [log, List.getElem?_map, hget, List.getElem?_eq_getElem hlt]
    simp only [Option.map_some, Option.any_some, MmsStaticBrcbSlot.hasId_entry,
      (h.holds _ hmem).occupied, Bool.true_and]
  · rw [findEntry, if_pos (by simp [hlen])]
    refine (List.findIdx?_eq_none_iff.mpr fun entry _ => ?_).symm
    simp only [BrcbEntry.hasId, beq_eq_false_iff_ne]
    intro heq
    rw [heq, Vector.length_toList] at hlen
    exact hlen rfl

theorem log_moveCursor (h : RingInv rt.ring) (hinit : rt.initialized = true) (entryId : Bytes)
    {behind : Nat} (hbehind : behind ≤ 1)
    (h' : RingInv (rt.moveCursor entryId behind).2.ring) :
    log _ h' = seekEntry (log _ h) entryId behind := by
  rw [seekEntry, ← findEntry_eq h hinit]
  cases hfind : rt.findEntry entryId with
  | none => exact log_of_eq (by simp [moveCursor, hinit, hfind]) h h'
  | some logical =>
    have hlt := (findEntry_eq_some hfind).1
    have heq : (rt.moveCursor entryId behind).2.ring
        = { rt.ring with deliveryOffset := logical + behind } := by
      simp [moveCursor, hinit, hfind, ring, bumpQueue]
    have hle : logical + behind ≤ rt.ring.count := by
      show logical + behind ≤ rt.count
      omega
    exact (log_congr heq (h.seek hle) h').trans (log_seek h hle)

theorem log_commitDelivery (h : RingInv rt.ring) (hinit : rt.initialized = true) (entryId : Bytes)
    (h' : RingInv (rt.commitDelivery entryId).2.ring) :
    log _ h' = if (log _ h).unread.head?.any (·.hasId entryId)
      then (log _ h).seek ((log _ h).cursor + 1) else log _ h := by
  have hhead : rt.head < rt.slots.length := h.head_lt
  have hcount : rt.count ≤ rt.slots.length := h.count_le
  have hdel : rt.deliveryOffset ≤ rt.count := h.deliveryOffset_le
  have hne : rt.slots ≠ [] := by
    rintro hnil
    rw [hnil] at hhead
    simp at hhead
  have hunread : (log _ h).unread.head? = (rt.ring.retained[rt.deliveryOffset]?).map (·.entry) := by
    rw [BoundedLog.unread, List.head?_drop, log, List.getElem?_map]
    rfl
  rw [hunread]
  by_cases hend : rt.deliveryOffset < rt.count
  · have hlt : (rt.head + rt.deliveryOffset) % rt.slots.length < rt.slots.length :=
      Nat.mod_lt _ (by omega)
    have hget : rt.ring.retained[rt.deliveryOffset]?
        = rt.slots[(rt.head + rt.deliveryOffset) % rt.slots.length]? := h.getElem?_retained hend
    rw [List.getElem?_eq_getElem hlt] at hget
    have hocc := (h.holds _ (List.mem_of_getElem? hget)).occupied
    rw [hget, Option.map_some, Option.any_some, MmsStaticBrcbSlot.hasId_entry]
    have hready : (!rt.initialized || rt.slots.isEmpty || decide (rt.deliveryOffset > rt.count))
        = false := by simp [hinit, hne, hdel]
    have hin : ¬(rt.deliveryOffset ≥ rt.count ∨ rt.head ≥ rt.slots.length) := by omega
    by_cases hid : entryIdEqual entryId
        (rt.slots[(rt.head + rt.deliveryOffset) % rt.slots.length]).entryId = true
    · rw [if_pos hid]
      have heq : (rt.commitDelivery entryId).2.ring
          = { rt.ring with deliveryOffset := rt.deliveryOffset + 1 } := by
        simp only [commitDelivery, hready, if_neg hin, List.getElem?_eq_getElem hlt, hocc, hid]
        rfl
      have hle : rt.deliveryOffset + 1 ≤ rt.ring.count := hend
      exact (log_congr heq (h.seek hle) h').trans (log_seek h hle)
    · rw [if_neg hid]
      refine log_of_eq ?_ h h'
      simp only [commitDelivery, hready, if_neg hin, List.getElem?_eq_getElem hlt, hocc, hid]
      rfl
  · have hnone : rt.ring.retained[rt.deliveryOffset]? = none := by
      refine List.getElem?_eq_none ?_
      rw [h.length_retained]
      exact Nat.not_lt.mp hend
    rw [hnone]
    refine log_of_eq ?_ h h'
    rw [commitDelivery]
    split
    · rfl
    · rw [if_pos (.inl (Nat.not_lt.mp hend))]

/-- **One operation acts on the log as specified.** -/
theorem logStep_step (op : Operation) (h : RingInv rt.ring) (hinit : rt.initialized = true)
    (h' : RingInv (rt.step op).ring) : LogStep rt op (log _ h) (log _ h') := by
  cases op with
  | setEnabled enabled => exact log_congr (ring_setEnabled enabled) h h'
  | setOptionalFields optionalFields => exact log_congr (ring_configure rfl) h h'
  | setTriggerOptions triggerOptions => exact log_congr (ring_configure rfl) h h'
  | setIntegrityPeriod integrityPeriodMs => exact log_congr (ring_configure rfl) h h'
  | notify index reason nowMs => exact log_congr (ring_notify index reason nowMs) h h'
  | requestGeneralInterrogation => exact log_congr ring_requestGeneralInterrogation h h'
  | nextDue nowMs => exact log_congr (ring_nextDue nowMs) h h'
  | capture plan reportTime encodeBufferSize workspaceSize reads =>
    rw [LogStep]
    rcases capture_cases rt plan reportTime encodeBufferSize workspaceSize reads with
      ⟨hne, heq⟩ | ⟨hok, dataSet, included, encoded, slot, hcap, heq⟩
    · rw [if_neg hne]
      exact log_of_eq heq h h'
    · rw [if_pos hok]
      refine ⟨(filledSlot slot plan reportTime encoded.bytes).entry, ?_⟩
      have hstep : rt.step (.capture plan reportTime encodeBufferSize workspaceSize reads)
          = rt.afterCapture plan reportTime encoded slot := heq
      have hafter := captureStep_afterCapture h hcap (h.afterCapture hcap)
      rw [log_of_eq hstep (h.afterCapture hcap) h', hstep]
      exact hafter
  | commitDelivery entryId => exact log_commitDelivery h hinit entryId h'
  | replayFrom entryId => exact log_moveCursor h hinit entryId (Nat.zero_le 1) h'
  | resumeAfter entryId => exact log_moveCursor h hinit entryId (Nat.le_refl 1) h'
  | rewindToOldest =>
    have heq : (rt.step .rewindToOldest).ring = { rt.ring with deliveryOffset := 0 } := by
      have hcount : rt.count ≤ rt.slots.length := h.count_le
      simp only [step, rewindToOldest, hinit]
      rw [if_neg (by simp [hcount])]
      rfl
    exact (log_congr heq (h.seek (Nat.zero_le _)) h').trans (log_seek h (Nat.zero_le _))
  | purgeBuffer =>
    have heq : (rt.step .purgeBuffer).ring = rt.ring.purged := by
      have hne : rt.slots ≠ [] := by
        have hhead : rt.head < rt.slots.length := h.head_lt
        exact List.ne_nil_of_length_pos (by omega)
      simp only [step, purgeBuffer, hinit]
      rw [if_neg (by simp [hne])]
      rfl
    exact (log_congr heq h.purged h').trans (log_purged h)

/-- **The ring refines a bounded log under every sequence of operations.** -/
theorem ring_refines_log {rt rt' : MmsStaticBrcbRuntime}
    (hinit : rt.initializeRuntime = (true, rt')) (ops : List Operation) :
    (∀ i, RingInv (stateAt step rt' ops i).ring) ∧
    ∀ i (hi : i < ops.length), ∃ (h : RingInv (stateAt step rt' ops i).ring)
      (h' : RingInv (stateAt step rt' ops (i + 1)).ring),
      LogStep (stateAt step rt' ops i) ops[i] (log _ h) (log _ h') := by
  have hinv := ringInv_stateAt hinit ops
  refine ⟨hinv, fun i hi => ⟨hinv i, hinv (i + 1), ?_⟩⟩
  have hsucc : stateAt step rt' ops (i + 1) = step (stateAt step rt' ops i) ops[i] :=
    stateAt_succ rt' hi
  have hready : (stateAt step rt' ops i).initialized = true :=
    stateAt_invariant (fun rt : MmsStaticBrcbRuntime => rt.initialized = true)
      (fun _ _ => initialized_step) (initialized_initializeRuntime hinit) ops i
  rw [log_of_eq hsucc (hsucc ▸ hinv (i + 1)) (hinv (i + 1))]
  exact logStep_step ops[i] (hinv i) hready _

/-- A ring of one slot that a second report overflows. -/
def overflowOps : List Operation :=
  let rt := (sampleRuntime [40]).initializeRuntime.2.step (.setEnabled true)
  let ops := sampleCapture rt [0x83, 0x01, 0x01]
  .setEnabled true :: ops ++ sampleCapture (exec step rt ops) [0x83, 0x01, 0x00]

theorem ring_refines_log_sample :
    ((sampleRuntime [40]).initializeRuntime.1 = true ∧
      (exec step (sampleRuntime [40]).initializeRuntime.2 overflowOps).droppedReports = 1) ∧
    (∀ i, RingInv (stateAt step (sampleRuntime [40]).initializeRuntime.2 overflowOps i).ring) ∧
    ∀ i (hi : i < overflowOps.length),
      ∃ (h : RingInv (stateAt step (sampleRuntime [40]).initializeRuntime.2 overflowOps i).ring)
        (h' : RingInv
          (stateAt step (sampleRuntime [40]).initializeRuntime.2 overflowOps (i + 1)).ring),
        LogStep (stateAt step (sampleRuntime [40]).initializeRuntime.2 overflowOps i)
          overflowOps[i] (log _ h) (log _ h') :=
  ⟨⟨by decide, by decide⟩,
    ring_refines_log (show _ = (true, (sampleRuntime [40]).initializeRuntime.2) from
      Prod.ext (by decide) rfl) overflowOps⟩

end MmsStaticBrcbRuntime

end ArStack.Mms
