import ArStack.Lib.Run
import ArStack.Lib.BoundedLog
import ArStack.Spec.BrcbRuntime

/-!
# The ring of the BRCB runtime is a bounded log

`RingInv` says that the indices are in range and that the retained entries are numbered
without a gap. Under it the ring is a `BoundedLog` of entries whose reader is the delivery
cursor, and storing a report is an `append`.

* `RingInv.advance`, `log_advance` — storing a report
* `ringInv_step` — every operation keeps the invariant
-/

namespace ArStack.Mms

open ArStack.Lib ArStack.Wire

/-- What the log holds of a slot. -/
structure BrcbEntry where
  entryNumber : UInt64
  sequenceNumber : UInt8
  bufferOverflow : Bool
  pdu : Bytes
  deriving DecidableEq

namespace MmsStaticBrcbSlot

def entryNumber (slot : MmsStaticBrcbSlot) : UInt64 := decodeEntryId slot.entryId.toList

def entry (slot : MmsStaticBrcbSlot) : BrcbEntry where
  entryNumber := slot.entryNumber
  sequenceNumber := slot.sequenceNumber
  bufferOverflow := slot.bufferOverflow
  pdu := slot.pdu

/-- A slot that holds a report. -/
structure Holds (slot : MmsStaticBrcbSlot) : Prop where
  occupied : slot.occupied = true
  bytes_le : slot.bytes ≤ slot.storage.length
  entryNumber_ne : slot.entryNumber ≠ 0

/-- The second slot was stored right after the first. -/
def Follows (slot slot' : MmsStaticBrcbSlot) : Prop :=
  slot'.entryNumber = nextEntryNumber slot.entryNumber ∧
    slot'.sequenceNumber = nextSequenceNumber slot.sequenceNumber

end MmsStaticBrcbSlot

namespace MmsStaticBrcbRuntime

open MmsStaticBrcbSlot

namespace Ring

def retained (r : Ring) : List MmsStaticBrcbSlot := window r.slots r.head r.count

/-- The last report the ring has numbered. -/
def IsLast (r : Ring) (slot : MmsStaticBrcbSlot) : Prop :=
  Mms.nextEntryNumber slot.entryNumber = r.nextEntryNumber ∧
    slot.sequenceNumber = r.sequenceNumber

end Ring

/-- **The ring invariant.** -/
structure RingInv (r : Ring) : Prop where
  head_lt : r.head < r.slots.length
  count_le : r.count ≤ r.slots.length
  deliveryOffset_le : r.deliveryOffset ≤ r.count
  nextEntryNumber_ne : r.nextEntryNumber ≠ 0
  holds : ∀ slot ∈ r.retained, slot.Holds
  numbered : BoundedLog.Numbered Follows r.IsLast r.retained

namespace RingInv

variable {r : Ring}

theorem length_retained (h : RingInv r) : r.retained.length = r.count :=
  length_window h.count_le

/-- The slot of a retained entry. -/
theorem getElem?_retained (h : RingInv r) {k : Nat} (hk : k < r.count) :
    r.retained[k]? = r.slots[(r.head + k) % r.slots.length]? :=
  getElem?_window hk h.count_le

end RingInv

/-- The ring as a log. -/
def log (r : Ring) (h : RingInv r) : BoundedLog BrcbEntry where
  capacity := r.slots.length
  entries := r.retained.map (·.entry)
  cursor := r.deliveryOffset
  cursor_le := by
    rw [List.length_map, h.length_retained]
    exact h.deliveryOffset_le
  length_le := by
    rw [List.length_map, h.length_retained]
    exact h.count_le

theorem length_log {r : Ring} (h : RingInv r) : (log r h).entries.length = r.count := by
  rw [log, List.length_map, h.length_retained]

/-! ## Storing a report -/

variable {rt : MmsStaticBrcbRuntime}

theorem full_iff : rt.full = true ↔ rt.count = rt.slots.length := beq_iff_eq

theorem overflow_iff (h : RingInv rt.ring) : rt.overflow = true ↔ (log rt.ring h).Loses := by
  rw [overflow, Bool.and_eq_true, full_iff, beq_iff_eq, BoundedLog.Loses, length_log]
  rfl

/-- The fields of the ring after a report is stored. -/
theorem ring_advance (rt : MmsStaticBrcbRuntime) (plan : MmsStaticBrcbCapturePlan) (slot : MmsStaticBrcbSlot) :
    (rt.advance plan slot).ring =
      { slots := rt.slots.set rt.targetIndex slot
        head := if rt.full then (rt.head + 1) % rt.slots.length else rt.head
        count := if rt.full then rt.count else rt.count + 1
        deliveryOffset := if rt.full then rt.deliveryOffset - 1 else rt.deliveryOffset
        nextEntryNumber := Mms.nextEntryNumber plan.entryNumber
        sequenceNumber := plan.sequenceNumber
        droppedReports := if rt.overflow then rt.droppedReports + 1 else rt.droppedReports
        replayGap := rt.overflow || rt.replayGap } := by
  simp only [advance]
  by_cases hfull : rt.full = true
  · by_cases hzero : rt.deliveryOffset = 0
    · simp [hfull, hzero, ring, overflow]
    · simp [hfull, hzero, ring, overflow]
  · simp [hfull, ring, overflow]

/-- The entries after a report is stored: one more, and one less when the ring was full. -/
theorem retained_advance (h : RingInv rt.ring) (plan : MmsStaticBrcbCapturePlan)
    (slot : MmsStaticBrcbSlot) :
    (rt.advance plan slot).ring.retained
      = rt.ring.retained.drop (rt.count + 1 - rt.slots.length) ++ [slot] := by
  have hhead : rt.head < rt.slots.length := h.head_lt
  have hcount : rt.count ≤ rt.slots.length := h.count_le
  rw [ring_advance, Ring.retained]
  by_cases hfull : rt.full = true
  · have hc : rt.count = rt.slots.length := full_iff.mp hfull
    simp only [hfull, if_true, targetIndex, hc]
    rw [window_set_front hhead, show rt.slots.length + 1 - rt.slots.length = 1 by omega,
      List.drop_one]
    simp only [Ring.retained, ring, hc]
  · have hc : rt.count < rt.slots.length := by
      have : rt.count ≠ rt.slots.length := fun he => hfull (full_iff.mpr he)
      omega
    simp only [hfull, if_false, targetIndex, Bool.false_eq_true]
    rw [window_set_back hc, show rt.count + 1 - rt.slots.length = 0 by omega, List.drop_zero]
    rfl

variable {plan : MmsStaticBrcbCapturePlan} {slot : MmsStaticBrcbSlot}

/-- A stored report that is numbered by the plan keeps the invariant. -/
theorem RingInv.advance (h : RingInv rt.ring) (hslot : slot.Holds)
    (hentry : slot.entryNumber = plan.entryNumber)
    (hseq : slot.sequenceNumber = plan.sequenceNumber)
    (hplan : plan.entryNumber = rt.nextEntryNumber)
    (hplan' : plan.sequenceNumber = nextSequenceNumber rt.sequenceNumber) :
    RingInv (rt.advance plan slot).ring := by
  have hret := retained_advance h plan slot
  have hring := rt.ring_advance plan slot
  have hhead : rt.head < rt.slots.length := h.head_lt
  have hcount : rt.count ≤ rt.slots.length := h.count_le
  have hdel : rt.deliveryOffset ≤ rt.count := h.deliveryOffset_le
  have hnum := h.numbered.drop (rt.count + 1 - rt.slots.length)
  refine
    { head_lt := ?_
      count_le := ?_
      deliveryOffset_le := ?_
      nextEntryNumber_ne := ?_
      holds := ?_
      numbered := ?_ }
  · rw [hring, List.length_set]
    split
    · exact Nat.mod_lt _ (by omega)
    · exact hhead
  · rw [hring, List.length_set]
    split
    · exact hcount
    · rename_i hfull
      have : rt.count ≠ rt.slots.length := fun he => hfull (full_iff.mpr he)
      show rt.count + 1 ≤ rt.slots.length
      omega
  · rw [hring]
    split
    · show rt.deliveryOffset - 1 ≤ rt.count
      omega
    · show rt.deliveryOffset ≤ rt.count + 1
      omega
  · rw [hring]
    exact nextEntryNumber_ne_zero _
  · rw [hret]
    intro s hs
    rcases List.mem_append.mp hs with hs | hs
    · exact h.holds s (List.mem_of_mem_drop hs)
    · rw [List.mem_singleton.mp hs]
      exact hslot
  · rw [hret]
    refine hnum.concat (fun s hs => ?_) ?_
    · exact ⟨by rw [hentry, hplan]; exact hs.1.symm, by rw [hseq, hplan', hs.2]; rfl⟩
    · rw [hring]
      exact ⟨by rw [hentry], hseq⟩

/-- **Storing a report appends its entry to the log.** -/
theorem log_advance (h : RingInv rt.ring) (h' : RingInv (rt.advance plan slot).ring) :
    log _ h' = (log _ h).append slot.entry := by
  have hhead : rt.head < rt.slots.length := h.head_lt
  have hcount : rt.count ≤ rt.slots.length := h.count_le
  have hev : (log _ h).evicted = rt.count + 1 - rt.slots.length := by
    rw [BoundedLog.evicted, length_log]
    rfl
  refine BoundedLog.ext ?_ ?_ ?_
  · show (rt.advance plan slot).ring.slots.length = rt.slots.length
    rw [ring_advance, List.length_set]
  · rw [BoundedLog.append_entries _ _ (by show 0 < rt.slots.length; omega), hev]
    show (rt.advance plan slot).ring.retained.map _ = _
    rw [retained_advance h, List.map_append, List.map_drop]
    rfl
  · show (rt.advance plan slot).ring.deliveryOffset = rt.deliveryOffset - (log _ h).evicted
    rw [ring_advance, hev]
    split
    · rename_i hfull
      rw [full_iff.mp hfull, show rt.slots.length + 1 - rt.slots.length = 1 by omega]
    · rename_i hfull
      have : rt.count ≠ rt.slots.length := fun he => hfull (full_iff.mpr he)
      rw [show rt.count + 1 - rt.slots.length = 0 by omega, Nat.sub_zero]

/-! ## The other operations on the ring -/

/-- Moving the cursor keeps the invariant. -/
theorem RingInv.seek {r : Ring} (h : RingInv r) {position : Nat} (hp : position ≤ r.count) :
    RingInv { r with deliveryOffset := position } :=
  { h with deliveryOffset_le := hp }

theorem log_seek {r : Ring} (h : RingInv r) {position : Nat} (hp : position ≤ r.count) :
    log _ (h.seek hp) = (log r h).seek position := by
  refine BoundedLog.ext rfl rfl ?_
  show position = min position (log r h).entries.length
  rw [length_log]
  omega

/-- The ring without entries. -/
def Ring.purged (r : Ring) : Ring :=
  { r with
    slots := r.slots.map (·.cleared)
    head := 0
    count := 0
    deliveryOffset := 0
    replayGap := false }

theorem RingInv.purged {r : Ring} (h : RingInv r) : RingInv r.purged where
  head_lt := by
    have := h.head_lt
    show 0 < (r.slots.map _).length
    rw [List.length_map]
    omega
  count_le := Nat.zero_le _
  deliveryOffset_le := Nat.le_refl 0
  nextEntryNumber_ne := h.nextEntryNumber_ne
  holds := by
    rw [Ring.retained, Ring.purged, window_zero]
    simp
  numbered := by
    rw [Ring.retained, Ring.purged, window_zero]
    exact BoundedLog.numbered_nil _ _

theorem log_purged {r : Ring} (h : RingInv r) : log _ h.purged = (log r h).clear := by
  refine BoundedLog.ext ?_ ?_ rfl
  · show (r.slots.map _).length = r.slots.length
    rw [List.length_map]
  · show (Ring.retained r.purged).map MmsStaticBrcbSlot.entry = []
    rw [Ring.retained, Ring.purged, window_zero, List.map_nil]

/-! ## Every operation keeps the invariant -/

/-- The slot of a successful capture. -/
theorem Captured.holds {reportTime : Bytes} {encodeBufferSize workspaceSize : Nat}
    {reads : ReadCallbacks} {dataSet : MmsStaticDataSetEntry} {included : Included}
    {encoded : EncodeResult} (hinv : RingInv rt.ring)
    (h : Captured rt plan reportTime encodeBufferSize workspaceSize reads dataSet included encoded
      slot) :
    (filledSlot slot plan reportTime encoded.bytes).Holds where
  occupied := rfl
  bytes_le := by
    simp only [filledSlot, List.length_append]
    omega
  entryNumber_ne := by
    rw [MmsStaticBrcbSlot.entryNumber, filledSlot, decodeEntryId_encodeEntryId,
      (fresh_of_stale h.fresh).entryNumber]
    exact hinv.nextEntryNumber_ne

theorem entryNumber_filledSlot (reportTime encoded : Bytes) :
    (filledSlot slot plan reportTime encoded).entryNumber = plan.entryNumber :=
  decodeEntryId_encodeEntryId _

/-- The ring after a capture is the ring after storing its slot. -/
theorem ring_afterCapture (rt : MmsStaticBrcbRuntime) (plan : MmsStaticBrcbCapturePlan)
    (slot : MmsStaticBrcbSlot) (reportTime : Bytes) (encoded : EncodeResult) :
    (rt.afterCapture plan reportTime encoded slot).ring
      = (rt.advance plan (filledSlot slot plan reportTime encoded.bytes)).ring :=
  ring_settle plan

theorem RingInv.afterCapture {reportTime : Bytes} {encodeBufferSize workspaceSize : Nat}
    {reads : ReadCallbacks} {dataSet : MmsStaticDataSetEntry} {included : Included}
    {encoded : EncodeResult} (hinv : RingInv rt.ring)
    (h : Captured rt plan reportTime encodeBufferSize workspaceSize reads dataSet included encoded
      slot) :
    RingInv (rt.afterCapture plan reportTime encoded slot).ring := by
  have hfresh := fresh_of_stale h.fresh
  rw [ring_afterCapture]
  exact hinv.advance (h.holds hinv) (entryNumber_filledSlot _ _) rfl hfresh.entryNumber
    hfresh.sequenceNumber

/-- **Every operation keeps the ring invariant.** -/
theorem ringInv_step {rt : MmsStaticBrcbRuntime} (op : Operation) (h : RingInv rt.ring) :
    RingInv (rt.step op).ring := by
  cases op with
  | setEnabled enabled =>
    rw [step, ring_setEnabled]
    exact h
  | setOptionalFields optionalFields =>
    rw [step, setOptionalFields, ring_configure]
    · exact h
    · rfl
  | setTriggerOptions triggerOptions =>
    rw [step, setTriggerOptions, ring_configure]
    · exact h
    · rfl
  | setIntegrityPeriod integrityPeriodMs =>
    rw [step, setIntegrityPeriod, ring_configure]
    · exact h
    · rfl
  | notify index reason nowMs =>
    rw [step, ring_notify]
    exact h
  | requestGeneralInterrogation =>
    rw [step, ring_requestGeneralInterrogation]
    exact h
  | nextDue nowMs =>
    rw [step, ring_nextDue]
    exact h
  | capture plan reportTime encodeBufferSize workspaceSize reads =>
    rw [step]
    rcases capture_cases rt plan reportTime encodeBufferSize workspaceSize reads with
      ⟨-, heq⟩ | ⟨-, dataSet, included, encoded, slot, hcap, heq⟩
    · rw [heq]
      exact h
    · rw [heq]
      exact h.afterCapture hcap
  | commitDelivery entryId =>
    rw [step]
    rcases commitDelivery_cases rt entryId with ⟨-, heq⟩ | ⟨-, hlt, -, heq⟩
    · rw [heq]
      exact h
    · rw [heq]
      exact h.seek hlt
  | replayFrom entryId =>
    rw [step, replayFrom]
    rcases moveCursor_cases rt entryId 0 with ⟨-, heq⟩ | ⟨-, logical, hfind, heq⟩
    · rw [heq]
      exact h
    · rw [heq]
      exact h.seek (Nat.le_of_lt (findEntry_eq_some hfind).1)
  | resumeAfter entryId =>
    rw [step, resumeAfter]
    rcases moveCursor_cases rt entryId 1 with ⟨-, heq⟩ | ⟨-, logical, hfind, heq⟩
    · rw [heq]
      exact h
    · rw [heq]
      exact h.seek (findEntry_eq_some hfind).1
  | rewindToOldest =>
    rw [step]
    rcases rewindToOldest_cases rt with ⟨-, heq⟩ | ⟨-, heq⟩
    · rw [heq]
      exact h
    · rw [heq]
      exact h.seek (Nat.zero_le _)
  | purgeBuffer =>
    rw [step]
    rcases purgeBuffer_cases rt with ⟨-, heq⟩ | ⟨-, heq⟩
    · rw [heq]
      exact h
    · rw [heq]
      exact h.purged

/-- What a successful initialization leaves. -/
theorem initializeRuntime_eq {rt rt' : MmsStaticBrcbRuntime}
    (h : rt.initializeRuntime = (true, rt')) :
    rt.slots ≠ [] ∧ rt.dataSets.valid = true ∧ rt.definitionValid = true ∧
      rt.dataSetUsable = true ∧
      rt' =
        { definition := rt.definition
          pending := { revision := 1 }
          slots := rt.slots.map (·.cleared)
          objects := rt.objects
          dataSets := rt.dataSets
          optionalFields := rt.definition.optionalFields
          triggerOptions := rt.definition.triggerOptions
          integrityPeriodMs := rt.definition.integrityPeriodMs
          initialized := true } := by
  simp only [initializeRuntime] at h
  split at h
  · simp at h
  rename_i hready
  split at h
  · simp at h
  rename_i hdef
  split at h
  · simp at h
  rename_i husable
  split at h
  · simp at h
  simp only [Bool.or_eq_true, Bool.not_eq_true', not_or, List.isEmpty_iff,
    Bool.not_eq_false] at hready hdef husable
  exact ⟨hready.2, hready.1.1.2, hdef, husable, (Prod.mk.inj h).2.symm⟩

theorem initialized_initializeRuntime {rt rt' : MmsStaticBrcbRuntime}
    (h : rt.initializeRuntime = (true, rt')) : rt'.initialized = true := by
  obtain ⟨-, -, -, -, rfl⟩ := initializeRuntime_eq h
  rfl

/-- A runtime that has just been initialized has an empty ring. -/
theorem ringInv_initializeRuntime {rt rt' : MmsStaticBrcbRuntime}
    (h : rt.initializeRuntime = (true, rt')) : RingInv rt'.ring := by
  obtain ⟨hne, -, -, -, rfl⟩ := initializeRuntime_eq h
  have hlen : 0 < rt.slots.length := List.length_pos_iff.mpr hne
  refine
    { head_lt := ?_
      count_le := Nat.zero_le _
      deliveryOffset_le := Nat.le_refl 0
      nextEntryNumber_ne := by simp [ring]
      holds := ?_
      numbered := ?_ }
  · show 0 < (rt.slots.map _).length
    rw [List.length_map]
    exact hlen
  · rw [Ring.retained, ring, window_zero]
    simp
  · rw [Ring.retained, ring, window_zero]
    exact BoundedLog.numbered_nil _ _

theorem ringInv_stateAt {rt rt' : MmsStaticBrcbRuntime}
    (h : rt.initializeRuntime = (true, rt')) (ops : List Operation) (i : Nat) :
    RingInv (stateAt step rt' ops i).ring :=
  stateAt_invariant (fun rt : MmsStaticBrcbRuntime => RingInv rt.ring) (fun _ op => ringInv_step op)
    (ringInv_initializeRuntime h) ops i

end MmsStaticBrcbRuntime

end ArStack.Mms
