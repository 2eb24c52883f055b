import ArStack.Mms.StaticBrcbRestore
import ArStack.Properties.BrcbRestore
import ArStack.Spec.BrcbImage

/-!
# Restoring is atomic and canonical

* `check_cases` — the checks write nothing, and what they let pass
* `restore_of_check` — after the checks the image is loaded, whatever it is
* `restore_atomic_canonical` — any octet string is refused without effect, or it loads a sound
  ring; a format 2 image is then what the encoder writes for that ring
-/

namespace ArStack.Mms.MmsStaticBrcbStateCodec

open ArStack.Lib MmsStaticBrcbRuntime

namespace RestoreM

variable {rt : MmsStaticBrcbRuntime} {source : Bytes}

/-! ## The writes -/

/-- One round of the second loop. -/
theorem loadSlots_succ (count logical : Nat) (rest : Bytes) :
    loadSlots (count + 1) logical rest rt =
      loadSlots count (logical + 1) (rest.drop (entryHeaderBytes + readAt rest 0 4))
        { rt with slots := rt.slots.modify logical (loadEntry · rest) } := by
  rw [loadSlots]
  simp only [modifySlot_bind, List.modify_modify_eq]
  rfl

theorem loadSlots_run (count logical : Nat) (rest : Bytes) :
    loadSlots count logical rest rt =
      .ok ⟨⟩ { rt with
        slots := rt.slots.take logical ++ loadEntries (rt.slots.drop logical) count rest } := by
  induction count generalizing logical rest rt with
  | zero =>
    have hnone : loadEntries (rt.slots.drop logical) 0 rest = rt.slots.drop logical := by
      cases rt.slots.drop logical <;> rfl
    rw [hnone, List.take_append_drop]
    rfl
  | succ count ih =>
    rw [loadSlots_succ, ih]
    by_cases hlt : logical < rt.slots.length
    · have hset : rt.slots.modify logical (loadEntry · rest)
          = (rt.slots.take logical ++ [loadEntry rt.slots[logical] rest]) ++
            rt.slots.drop (logical + 1) := by
        rw [List.modify_eq_take_cons_drop hlt, List.append_assoc, List.singleton_append]
      have hsize : (rt.slots.take logical ++ [loadEntry rt.slots[logical] rest]).length
          = logical + 1 := by
        rw [List.length_append, List.length_take_of_le (by omega), List.length_singleton]
      dsimp only
      rw [hset, List.take_left' hsize, List.drop_left' hsize, List.drop_eq_getElem_cons hlt,
        loadEntries_cons, List.append_assoc, List.singleton_append]
    · have hout : rt.slots.length ≤ logical := Nat.not_lt.mp hlt
      have hdrop : rt.slots.drop logical = [] := List.drop_of_length_le hout
      have hdrop' : rt.slots.drop (logical + 1) = [] := List.drop_of_length_le (by omega)
      have hnil : ∀ n octets, loadEntries [] n octets = [] := by
        intro n octets
        cases n <;> rfl
      dsimp only
      rw [List.modify_eq_self hout, hdrop, hdrop', hnil, hnil, List.take_of_length_le hout,
        List.take_of_length_le (by omega)]

theorem writeCounters_run {deliveryOffset : Nat} {replayGap : Bool} :
    writeCounters source deliveryOffset replayGap rt =
      .ok ⟨⟩ { rt with
        head := 0
        count := readAt source 20 4
        deliveryOffset := deliveryOffset
        nextEntryNumber := UInt64.ofNat (readAt source 24 8)
        droppedReports := UInt64.ofNat (readAt source 32 8)
        sequenceNumber := octetAt source 40
        replayGap := replayGap
        queueRevision := bumpRevision rt.queueRevision
        pending := { revision := 1 }
        enabled := false } := rfl

/-- **After the checks the image is loaded, whatever it is.** -/
theorem restore_of_check {headerBytes deliveryOffset : Nat} {replayGap : Bool}
    (h : check source rt = .ok (headerBytes, deliveryOffset, replayGap) rt) :
    restore source rt = .ok
      { status := .ok, bytes := source, requiredBytes := source.length }
      (load rt source headerBytes deliveryOffset replayGap) := by
  rw [restore, bind_of_ok h]
  dsimp only
  refine (bind_of_ok rfl).trans ?_
  rw [bind_of_ok (loadSlots_run _ _ _), bind_of_ok writeCounters_run]
  rfl

end RestoreM

open RestoreM

/-- The image is one the checks let pass. -/
structure Accepted (rt : MmsStaticBrcbRuntime) (source : Bytes) (headerBytes deliveryOffset : Nat)
    (replayGap : Bool) : Prop where
  initialized : rt.initialized = true
  slots_ne : rt.slots ≠ []
  format : isV2 source = true → headerBytes = headerBytesV2 ∧ HeaderV2 source ∧
    deliveryOffset = readAt source 44 4 ∧ replayGap = (octetAt source 41 &&& replayGapFlag != 0)
  fingerprint : readAt source 12 8 = (definitionFingerprint rt.definition).toNat
  count_le : readAt source 20 4 ≤ rt.slots.length
  deliveryOffset_le : deliveryOffset ≤ readAt source 20 4
  nextEntry_ne : UInt64.ofNat (readAt source 24 8) ≠ 0
  window : ∃ last, checkEntries rt.slots (readAt source 20 4) 0 {} (source.drop headerBytes)
      = .ok (last, []) ∧
    (readAt source 20 4 ≠ 0 →
      UInt64.ofNat (readAt source 24 8) = nextEntryNumber last.entryNumber ∧
        octetAt source 40 = last.sequence)

section Restore

variable (rt : MmsStaticBrcbRuntime) (source : Bytes)

/-- The result of a refused image. -/
def refused (source : Bytes) (status : MmsStaticBrcbStateStatus) : MmsStaticBrcbStateResult :=
  { status := status, requiredBytes := source.length }

theorem checkFormat_cases :
    (∃ status, status ≠ .ok ∧ checkFormat source rt = .error (refused source status) rt ∧
      MmsStaticBrcbStateCodec.restore rt source = (refused source status, rt)) ∨
    ∃ headerBytes deliveryOffset replayGap,
      checkFormat source rt = .ok (headerBytes, deliveryOffset, replayGap) rt ∧
      (rt.initialized = true ∧ rt.slots ≠ []) ∧
      (isV2 source = true → headerBytes = headerBytesV2 ∧ HeaderV2 source ∧
        deliveryOffset = readAt source 44 4 ∧
        replayGap = (octetAt source 41 &&& replayGapFlag != 0)) ∧
      MmsStaticBrcbStateCodec.restore rt source
        = restoreBody rt source headerBytes deliveryOffset replayGap := by
  rw [checkFormat, get_bind, MmsStaticBrcbStateCodec.restore]
  split
  · exact .inl ⟨.invalidRuntime, by decide, rfl, rfl⟩
  rename_i hready
  simp only [Bool.or_eq_true, Bool.not_eq_true', not_or, Bool.not_eq_false,
    List.isEmpty_iff] at hready
  split
  · rename_i hv2
    split
    · exact .inl ⟨.invalidState, by decide, rfl, rfl⟩
    · rename_i hreserved
      refine .inr ⟨_, _, _, rfl, hready, fun _ => ⟨rfl, ?_, rfl, rfl⟩, rfl⟩
      exact headerV2_of_isV2 hv2 (by simpa using hreserved)
  rename_i hv2
  split
  · split
    · exact .inl ⟨.invalidState, by decide, rfl, rfl⟩
    · exact .inr ⟨_, _, _, rfl, hready, fun h => absurd h hv2, rfl⟩
  · exact .inl ⟨.invalidState, by decide, rfl, rfl⟩

/-- `restoreBody` behind the counters. -/
def loadChecked (headerBytes deliveryOffset : Nat) (replayGap : Bool) :
    MmsStaticBrcbStateResult × MmsStaticBrcbRuntime :=
  let count := readAt source 20 4
  match checkEntries rt.slots count 0 {} (source.drop headerBytes) with
  | .error status => (refused source status, rt)
  | .ok (last, rest) =>
    if rest ≠ [] ∨
        (count ≠ 0 ∧ UInt64.ofNat (readAt source 24 8) ≠ nextEntryNumber last.entryNumber) ∨
        (count ≠ 0 ∧ octetAt source 40 ≠ last.sequence) then
      (refused source .invalidState, rt)
    else
      ({ status := .ok, bytes := source, requiredBytes := source.length },
        load rt source headerBytes deliveryOffset replayGap)

theorem checkCounters_cases {headerBytes deliveryOffset : Nat} {replayGap : Bool} :
    (∃ status, status ≠ .ok ∧
      checkCounters source deliveryOffset rt = .error (refused source status) rt ∧
      restoreBody rt source headerBytes deliveryOffset replayGap = (refused source status, rt)) ∨
    checkCounters source deliveryOffset rt = .ok ⟨⟩ rt ∧
      readAt source 12 8 = (definitionFingerprint rt.definition).toNat ∧
      readAt source 20 4 ≤ rt.slots.length ∧
      (deliveryOffset ≤ readAt source 20 4 ∧ UInt64.ofNat (readAt source 24 8) ≠ 0) ∧
      restoreBody rt source headerBytes deliveryOffset replayGap =
        loadChecked rt source headerBytes deliveryOffset replayGap := by
  rw [checkCounters, get_bind, restoreBody]
  dsimp only
  split
  · exact .inl ⟨.definitionMismatch, by decide, rfl, rfl⟩
  split
  · exact .inl ⟨.capacityMismatch, by decide, rfl, rfl⟩
  split
  · exact .inl ⟨.invalidState, by decide, rfl, rfl⟩
  rename_i hfingerprint hcount hcursor
  rw [not_or, Nat.not_lt] at hcursor
  exact .inr ⟨rfl, Decidable.not_not.mp hfingerprint, Nat.not_lt.mp hcount, hcursor, rfl⟩

theorem checkEntries_error {slots : List MmsStaticBrcbSlot} {count logical : Nat}
    {last : LastEntry} {rest : Bytes} {status : MmsStaticBrcbStateStatus}
    (h : checkEntries slots count logical last rest = .error status) : status ≠ .ok := by
  induction count generalizing logical last rest with
  | zero => cases h
  | succ count ih =>
    rw [checkEntries] at h
    split at h
    · cases h
      decide
    dsimp only at h
    split at h
    · cases h
      split <;> decide
    split at h
    · cases h
      decide
    split at h
    · cases h
      decide
    · exact ih h

theorem checkWindow_cases {headerBytes deliveryOffset : Nat} {replayGap : Bool} :
    (∃ status, status ≠ .ok ∧ checkWindow source headerBytes rt = .error (refused source status) rt ∧
      loadChecked rt source headerBytes deliveryOffset replayGap = (refused source status, rt)) ∨
    checkWindow source headerBytes rt = .ok ⟨⟩ rt ∧
      (∃ last, checkEntries rt.slots (readAt source 20 4) 0 {} (source.drop headerBytes)
          = .ok (last, []) ∧
        (readAt source 20 4 ≠ 0 →
          UInt64.ofNat (readAt source 24 8) = nextEntryNumber last.entryNumber ∧
            octetAt source 40 = last.sequence)) ∧
      loadChecked rt source headerBytes deliveryOffset replayGap =
        ({ status := .ok, bytes := source, requiredBytes := source.length },
          load rt source headerBytes deliveryOffset replayGap) := by
  rw [checkWindow, get_bind, loadChecked]
  cases hcheck : checkEntries rt.slots (readAt source 20 4) 0 {} (source.drop headerBytes) with
  | error status => exact .inl ⟨status, checkEntries_error hcheck, rfl, rfl⟩
  | ok checked =>
    obtain ⟨last, rest⟩ := checked
    dsimp only
    split
    · exact .inl ⟨.invalidState, by decide, rfl, rfl⟩
    rename_i hlast
    simp only [not_or, not_and, Decidable.not_not] at hlast
    obtain ⟨rfl, hnext, hsequence⟩ := hlast
    exact .inr ⟨rfl, ⟨last, rfl, fun hne => ⟨hnext hne, hsequence hne⟩⟩, rfl⟩

/-- What the checks come to. -/
theorem check_cases :
    (∃ status, status ≠ .ok ∧ check source rt = .error (refused source status) rt ∧
      MmsStaticBrcbStateCodec.restore rt source = (refused source status, rt)) ∨
    ∃ headerBytes deliveryOffset replayGap,
      check source rt = .ok (headerBytes, deliveryOffset, replayGap) rt ∧
      Accepted rt source headerBytes deliveryOffset replayGap ∧
      MmsStaticBrcbStateCodec.restore rt source =
        ({ status := .ok, bytes := source, requiredBytes := source.length },
          load rt source headerBytes deliveryOffset replayGap) := by
  rcases checkFormat_cases rt source with ⟨status, hne, hformat, hrestore⟩ |
    ⟨headerBytes, deliveryOffset, replayGap, hformat, hready, hv2, hrestore⟩
  · exact .inl ⟨status, hne, by rw [check, bind_of_error hformat], hrestore⟩
  rw [check, bind_of_ok hformat, hrestore]
  rcases @checkCounters_cases rt source headerBytes deliveryOffset replayGap with
    ⟨status, hne, hcounters, hbody⟩ | ⟨hcounters, hfingerprint, hcount, hcursor, hbody⟩
  · exact .inl ⟨status, hne, bind_of_error hcounters, hbody⟩
  dsimp only
  rw [bind_of_ok hcounters, hbody]
  rcases @checkWindow_cases rt source headerBytes deliveryOffset replayGap with
    ⟨status, hne, hwindow, hload⟩ | ⟨hwindow, hlast, hload⟩
  · exact .inl ⟨status, hne, bind_of_error hwindow, hload⟩
  refine .inr ⟨headerBytes, deliveryOffset, replayGap, bind_of_ok hwindow, ?_, hload⟩
  exact
    { initialized := hready.1
      slots_ne := hready.2
      format := hv2
      fingerprint := hfingerprint
      count_le := hcount
      deliveryOffset_le := hcursor.1
      nextEntry_ne := hcursor.2
      window := hlast }

/-- **Statement by statement, `restore` computes what the codec's `restore` computes.** -/
theorem restoreRun_eq_restore :
    restoreRun rt source = MmsStaticBrcbStateCodec.restore rt source := by
  rcases check_cases rt source with ⟨status, -, hcheck, hrestore⟩ | ⟨_, _, _, hcheck, -, hrestore⟩
  · rw [restoreRun, RestoreM.restore, bind_of_error hcheck, hrestore]
  · rw [restoreRun, restore_of_check hcheck, hrestore]

end Restore

/-! ## The restored ring -/

/-- The ring of `rt'`, restored on the device of `rt`. -/
structure SoundRing (rt rt' : MmsStaticBrcbRuntime) : Prop where
  head_lt : rt'.head < rt'.slots.length
  deliveryOffset_le : rt'.deliveryOffset ≤ rt'.count
  count_le : rt'.count ≤ rt'.slots.length
  /-- Every retained slot is occupied by an entry with a number, and its report is within the
  slot. -/
  holds : ∀ slot ∈ rt'.ring.retained, slot.Holds ∧ slot.bytes ≠ 0
  consecutive : rt'.ring.retained.IsChain NumberFollows
  last : ∀ slot ∈ rt'.ring.retained.getLast?, rt'.ring.IsLast slot
  nextEntryNumber_ne : rt'.nextEntryNumber ≠ 0
  sizes : rt'.slots.map (·.storage.length) = rt.slots.map (·.storage.length)

theorem requiredSize_of_encodable {entries : List MmsStaticBrcbSlot}
    (hall : ∀ slot ∈ entries, Encodable slot) {required : Nat}
    (hsize : required + (entries.flatMap encodeEntry).length ≤ sizeMax) :
    requiredSize required entries = some (required + (entries.flatMap encodeEntry).length) := by
  induction entries generalizing required with
  | nil => rfl
  | cons slot entries ih =>
    have hslot : Encodable slot := hall slot List.mem_cons_self
    rw [List.flatMap_cons, List.length_append, length_encodeEntry hslot] at hsize ⊢
    have hready : ¬(!slot.occupied || slot.bytes == 0 || decide (slot.bytes > slot.storage.length) ||
        decide (slot.bytes > uint32Max)) = true := by
      simp [hslot.holds.occupied, hslot.bytes_ne, hslot.holds.bytes_le, hslot.bytes_le]
    rw [requiredSize, if_neg hready, addSize_of_le (by omega), Option.bind_eq_bind,
      Option.bind_some, addSize_of_le (by omega), Option.bind_some,
      ih (fun s hs => hall s (List.mem_cons_of_mem slot hs)) (by omega)]
    congr 1
    omega

section Accepted

variable {rt : MmsStaticBrcbRuntime} {source : Bytes} {headerBytes deliveryOffset : Nat}
  {replayGap : Bool} (h : Accepted rt source headerBytes deliveryOffset replayGap)
include h

/-- The retained slots of the loaded runtime, and the octets they were loaded from. -/
theorem retained_load :
    let rt' := load rt source headerBytes deliveryOffset replayGap
    rt'.ring.retained.length = rt'.count ∧
      source.drop headerBytes = rt'.ring.retained.flatMap encodeEntry ∧
      (∀ slot ∈ rt'.ring.retained, Encodable slot) ∧ rt'.ring.retained.IsChain NumberFollows ∧
      (∀ slot ∈ rt'.ring.retained.getLast?, rt'.ring.IsLast slot) ∧
      rt'.slots.map (·.storage.length) = rt.slots.map (·.storage.length) := by
  obtain ⟨last, hcheck, hlast⟩ := h.window
  have hcleared : (rt.slots.map (·.cleared)).map (·.storage.length)
      = (rt.slots.drop 0).map (·.storage.length) := by
    rw [List.map_map]
    rfl
  obtain ⟨hlen, hocts, hall, hchain, -, hlastOf, hsizes⟩ :=
    checkEntries_ok hcleared hcheck
  have hretained : (load rt source headerBytes deliveryOffset replayGap).ring.retained
      = (loadEntries (rt.slots.map (·.cleared)) (readAt source 20 4)
          (source.drop headerBytes)).take (readAt source 20 4) := by
    rw [Ring.retained]
    exact window_head_zero _ _
  intro rt'
  rw [hretained]
  refine ⟨hlen, by rw [List.append_nil] at hocts; exact hocts, hall, hchain, ?_,
    hsizes.trans hcleared⟩
  intro slot hslot
  have hne : readAt source 20 4 ≠ 0 := by
    rintro hzero
    rw [List.length_eq_zero_iff.mp (hlen.trans hzero)] at hslot
    cases hslot
  obtain ⟨hnext, hsequence⟩ := hlast hne
  rw [hlastOf, lastOf_eq hslot] at hnext hsequence
  exact ⟨hnext.symm, hsequence.symm⟩

theorem soundRing_load : SoundRing rt (load rt source headerBytes deliveryOffset replayGap) := by
  obtain ⟨hlen, -, hall, hchain, hlast, hsizes⟩ := retained_load h
  have hslots : (load rt source headerBytes deliveryOffset replayGap).slots.length
      = rt.slots.length := by
    have := congrArg List.length hsizes
    simpa using this
  exact
    { head_lt := by
        rw [hslots]
        exact List.length_pos_iff.mpr h.slots_ne
      deliveryOffset_le := h.deliveryOffset_le
      count_le := by
        rw [hslots]
        exact h.count_le
      holds := fun slot hslot => ⟨(hall slot hslot).holds, (hall slot hslot).bytes_ne⟩
      consecutive := hchain
      last := hlast
      nextEntryNumber_ne := h.nextEntry_ne
      sizes := hsizes }

/-- **An accepted format 2 image is what the encoder writes for the loaded ring.** -/
theorem encode_load (hv2 : isV2 source = true) {destinationSize : Nat}
    (hfits : source.length ≤ destinationSize) (hsize : source.length ≤ sizeMax) :
    (encode (load rt source headerBytes deliveryOffset replayGap) destinationSize).status = .ok ∧
    (encode (load rt source headerBytes deliveryOffset replayGap) destinationSize).bytes
      = source := by
  obtain ⟨rfl, hheader, rfl, rfl⟩ := h.format hv2
  have hsound := soundRing_load h
  obtain ⟨-, hocts, hall, -, -, -⟩ := retained_load h
  generalize hrt' : load rt source headerBytesV2 (readAt source 44 4)
    (octetAt source 41 &&& replayGapFlag != 0) = rt' at hsound hocts hall
  have hhead : encodeHeader (definitionFingerprint rt'.definition) rt'
      = source.take headerBytesV2 := by
    subst hrt'
    exact take_eq_encodeHeader hheader h.fingerprint rfl rfl rfl rfl rfl rfl
  have hcount : rt'.count ≤ uint32Max := by
    have hlt : readAt source 20 4 < 256 ^ 4 := readAt_lt (Nat.le_trans (by decide) hheader.length_ge)
    subst hrt'
    exact Nat.le_of_lt_succ (Nat.lt_of_lt_of_le hlt (by decide))
  have hcursor := hsound.deliveryOffset_le
  have hcountLe := hsound.count_le
  have hheadLt := hsound.head_lt
  have hinit : rt'.initialized = true := by
    subst hrt'
    exact h.initialized
  have hslots : rt'.slots.isEmpty = false := by
    rw [List.isEmpty_eq_false_iff, ← List.length_pos_iff]
    omega
  have hlen : headerBytesV2 + (rt'.ring.retained.flatMap encodeEntry).length = source.length := by
    rw [← hocts, List.length_drop]
    have := hheader.length_ge
    omega
  have hrequired : requiredSize headerBytesV2 (retainedSlots rt') = some source.length := by
    rw [← hlen]
    exact requiredSize_of_encodable hall (by omega)
  have hready : ¬(!rt'.initialized || rt'.slots.isEmpty || decide (rt'.head ≥ rt'.slots.length) ||
      decide (rt'.count > rt'.slots.length) || decide (rt'.deliveryOffset > rt'.count) ||
      decide (rt'.count > uint32Max) || decide (rt'.deliveryOffset > uint32Max)) = true := by
    simp only [hinit, hslots, Bool.not_true, Bool.or_eq_true, decide_eq_true_eq, Bool.false_eq_true,
      false_or]
    omega
  have hbytes : encodeHeader (definitionFingerprint rt'.definition) rt' ++
      (retainedSlots rt').flatMap encodeEntry = source := by
    rw [hhead, show retainedSlots rt' = rt'.ring.retained from rfl, ← hocts, List.take_append_drop]
  rw [encode, if_neg hready, hrequired]
  dsimp only
  rw [if_neg (by omega)]
  exact ⟨rfl, hbytes⟩

end Accepted

/-- **Restoring any octet string is refused without effect, or it loads a sound ring, and an image
of the current format is then what the encoder writes for it.** -/
theorem restore_atomic_canonical (rt : MmsStaticBrcbRuntime) (source : Bytes)
    (hsize : source.length ≤ sizeMax) :
    ((restoreRun rt source).1.status ≠ .ok ∧ (restoreRun rt source).2 = rt) ∨
    (restoreRun rt source).1.status = .ok ∧ SoundRing rt (restoreRun rt source).2 ∧
      (isV2 source = true → ∀ destinationSize, source.length ≤ destinationSize →
        (encode (restoreRun rt source).2 destinationSize).status = .ok ∧
        (encode (restoreRun rt source).2 destinationSize).bytes = source) := by
  rcases check_cases rt source with ⟨status, hne, hcheck, -⟩ |
    ⟨headerBytes, deliveryOffset, replayGap, hcheck, haccepted, -⟩
  · have hrun : restoreRun rt source = (refused source status, rt) := by
      rw [restoreRun, RestoreM.restore, bind_of_error hcheck]
    rw [hrun]
    exact .inl ⟨hne, rfl⟩
  · have hrun : restoreRun rt source =
        ({ status := .ok, bytes := source, requiredBytes := source.length },
          load rt source headerBytes deliveryOffset replayGap) := by
      rw [restoreRun, restore_of_check hcheck]
    rw [hrun]
    exact .inr ⟨rfl, soundRing_load haccepted, fun hv2 destinationSize hfits =>
      encode_load haccepted hv2 hfits hsize⟩

/-- The image of two reports after an overflow. -/
theorem restore_atomic_canonical_sample :
    let fresh := (sampleRuntime [60, 60]).initializeRuntime.2
    let source := (encode equalRuntime 256).bytes
    ((restoreRun fresh source).1.status = .ok ∧ isV2 source = true) ∧
    (((restoreRun fresh source).1.status ≠ .ok ∧ (restoreRun fresh source).2 = fresh) ∨
      (restoreRun fresh source).1.status = .ok ∧ SoundRing fresh (restoreRun fresh source).2 ∧
        (isV2 source = true → ∀ destinationSize, source.length ≤ destinationSize →
          (encode (restoreRun fresh source).2 destinationSize).status = .ok ∧
          (encode (restoreRun fresh source).2 destinationSize).bytes = source)) :=
  ⟨by decide +kernel, restore_atomic_canonical _ _ (by decide +kernel)⟩

end ArStack.Mms.MmsStaticBrcbStateCodec
