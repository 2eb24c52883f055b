import ArStack.Spec.BrcbStateCodec

/-!
# Restoring a recovery image on the same device

`restore` lays the entries in the slots from the first one on, in logical order; in the ring
they stand from the head on. When the slots have different capacities an entry can be laid in
a slot that is too small for it.

* `restore_encode_iff` — exactly when the image of a reachable runtime is restored
* `restore_encode_capacityMismatch` — a device that cannot restore its own image
-/

namespace ArStack.Mms

open ArStack.Lib MmsStaticBrcbRuntime MmsStaticBrcbStateCodec

/-- `restored` is the runtime `rt` saved: the same entries and counters, disabled, and nothing
pending. -/
structure Restores (rt : MmsStaticBrcbRuntime)
    (restored : MmsStaticBrcbStateResult × MmsStaticBrcbRuntime) : Prop where
  status : restored.1.status = .ok
  entries : restored.2.ring.retained.map (·.entry) = rt.ring.retained.map (·.entry)
  deliveryOffset : restored.2.deliveryOffset = rt.deliveryOffset
  nextEntryNumber : restored.2.nextEntryNumber = rt.nextEntryNumber
  sequenceNumber : restored.2.sequenceNumber = rt.sequenceNumber
  droppedReports : restored.2.droppedReports = rt.droppedReports
  replayGap : restored.2.replayGap = rt.replayGap
  enabled : restored.2.enabled = false
  pending : restored.2.pending.pending = false ∧ restored.2.pending.pendingMemberCount = 0 ∧
    restored.2.pending.memberReasonMasks = .replicate maximumMembers 0
  generalInterrogation : restored.2.generalInterrogationPending = false

/-- Every retained report fits the slot whose index is its place in the window. -/
def FitsInOrder (rt : MmsStaticBrcbRuntime) : Prop :=
  ∀ (k : Nat) (slot home : MmsStaticBrcbSlot), rt.ring.retained[k]? = some slot →
    rt.slots[k]? = some home → slot.bytes ≤ home.storage.length

theorem fitsFrom_iff {slots entries : List MmsStaticBrcbSlot} {logical : Nat}
    (hlen : logical + entries.length ≤ slots.length) :
    fitsFrom slots logical entries = true ↔
      ∀ (k : Nat) (slot home : MmsStaticBrcbSlot), entries[k]? = some slot →
        slots[logical + k]? = some home → slot.bytes ≤ home.storage.length := by
  induction entries generalizing logical with
  | nil => simp [fitsFrom]
  | cons entry entries ih =>
    rw [List.length_cons] at hlen
    have hget : slots[logical]? = some slots[logical] := List.getElem?_eq_getElem (by omega)
    rw [fitsFrom, Bool.and_eq_true, decide_eq_true_eq, ih (by omega), hget]
    constructor
    · rintro ⟨hfirst, hrest⟩ k slot home hslot hhome
      cases k with
      | zero =>
        rw [List.getElem?_cons_zero, Option.some.injEq] at hslot
        rw [Nat.add_zero, hget, Option.some.injEq] at hhome
        rw [← hslot, ← hhome]
        exact hfirst
      | succ k =>
        rw [List.getElem?_cons_succ] at hslot
        exact hrest k slot home hslot (by rw [← hhome]; congr 1; omega)
    · intro hall
      refine ⟨hall 0 entry slots[logical] rfl hget, fun k slot home hslot hhome => ?_⟩
      exact hall (k + 1) slot home hslot (by rw [← hhome]; congr 1; omega)

/-- The capacities decide whether the entries fit. -/
theorem fitsFrom_congr {slots slots' : List MmsStaticBrcbSlot}
    (h : slots.map (·.storage.length) = slots'.map (·.storage.length)) (logical : Nat)
    (entries : List MmsStaticBrcbSlot) :
    fitsFrom slots logical entries = fitsFrom slots' logical entries := by
  induction entries generalizing logical with
  | nil => rfl
  | cons entry entries ih =>
    have hget : slots[logical]?.map (·.storage.length) = slots'[logical]?.map (·.storage.length) := by
      rw [← List.getElem?_map, ← List.getElem?_map, h]
    rw [fitsFrom, fitsFrom, hget, ih]

theorem fitsInOrder_iff {rt : MmsStaticBrcbRuntime} (hinv : RingInv rt.ring) :
    fitsFrom rt.slots 0 rt.ring.retained = true ↔ FitsInOrder rt := by
  have hlen : 0 + rt.ring.retained.length ≤ rt.slots.length := by
    rw [hinv.length_retained, Nat.zero_add]
    exact hinv.count_le
  rw [fitsFrom_iff hlen, FitsInOrder]
  simp only [Nat.zero_add]

/-! ## The image of a runtime on another one of the same shape -/

section Image

variable {rt fresh : MmsStaticBrcbRuntime} (hinv : RingInv rt.ring)
  (hall : ∀ slot ∈ rt.ring.retained, Encodable slot)
  (hsizes : fresh.slots.map (·.storage.length) = rt.slots.map (·.storage.length))
include hinv

/-- The image of `rt`. -/
def image (rt : MmsStaticBrcbRuntime) : Bytes :=
  encodeHeader (definitionFingerprint rt.definition) rt ++ rt.ring.retained.flatMap encodeEntry

include hall in
theorem checkEntries_image :
    checkEntries fresh.slots rt.count 0 {} (rt.ring.retained.flatMap encodeEntry)
      = if fitsFrom fresh.slots 0 rt.ring.retained then .ok (lastOf {} rt.ring.retained, [])
        else .error .capacityMismatch := by
  have hon : GoesOn 0 {} rt.ring.retained := ⟨hinv.numbered.1, fun h => absurd rfl h⟩
  have hcheck := checkEntries_encode fresh.slots [] hall hon
  rwa [List.append_nil, hinv.length_retained] at hcheck

/-- The last entry of the window carries the counters of the ring. -/
theorem lastOf_retained (hne : rt.count ≠ 0) :
    nextEntryNumber (lastOf {} rt.ring.retained).entryNumber = rt.nextEntryNumber ∧
      (lastOf {} rt.ring.retained).sequence = rt.sequenceNumber := by
  cases hlast : rt.ring.retained.getLast? with
  | none =>
    rw [List.getLast?_eq_none_iff] at hlast
    have hlen := hinv.length_retained
    rw [hlast] at hlen
    exact absurd hlen.symm hne
  | some slot =>
    rw [lastOf_eq hlast]
    exact hinv.numbered.2 slot hlast

include hall hsizes in
/-- **Restoring the image succeeds exactly when the entries fit in order.** -/
theorem restore_image (hinit : fresh.initialized = true) (hslots : fresh.slots ≠ [])
    (hdef : fresh.definition = rt.definition) (hcount : rt.count ≤ uint32Max)
    (hdel : rt.deliveryOffset ≤ uint32Max) :
    restore fresh (image rt) =
      if fitsFrom rt.slots 0 rt.ring.retained then
        ({ status := .ok, bytes := image rt, requiredBytes := (image rt).length },
          load fresh (image rt) headerBytesV2 rt.deliveryOffset rt.replayGap)
      else
        ({ status := .capacityMismatch, requiredBytes := (image rt).length }, fresh) := by
  have hlen : fresh.slots.length = rt.slots.length := by
    have := congrArg List.length hsizes
    simpa using this
  have hdel' : rt.deliveryOffset ≤ rt.count := hinv.deliveryOffset_le
  have hcount' : rt.count ≤ rt.slots.length := hinv.count_le
  have hne : rt.nextEntryNumber ≠ 0 := hinv.nextEntryNumber_ne
  rw [restore, if_neg (by simp [hinit, hslots]), image, if_pos (isV2_encodeHeader _ _ _),
    if_neg (by simp [reservedV2_encodeHeader]), readAt_deliveryOffset _ _ _ hdel,
    replayGap_encodeHeader]
  simp only [restoreBody, readAt_fingerprint, readAt_count _ _ _ hcount, readAt_nextEntryNumber,
    octetAt_sequenceNumber, drop_encodeHeader, hdef]
  have hcursor : ¬(rt.deliveryOffset > rt.count ∨ rt.nextEntryNumber = 0) := by
    rintro (h | h)
    · omega
    · exact hne h
  rw [if_neg (fun h => h rfl), if_neg (by omega), if_neg hcursor, checkEntries_image hinv hall,
    fitsFrom_congr hsizes]
  by_cases hfits : fitsFrom rt.slots 0 rt.ring.retained = true
  · simp only [hfits, if_true]
    rw [if_neg]
    rintro (h | ⟨hzero, h⟩ | ⟨hzero, h⟩)
    · exact h rfl
    · exact h (lastOf_retained hinv hzero).1.symm
    · exact h (lastOf_retained hinv hzero).2.symm
  · simp only [hfits, Bool.false_eq_true, if_false]

include hall hsizes in
/-- What loading the image gives. -/
theorem restores_load (hgi : fresh.generalInterrogationPending = false)
    (hcount : rt.count ≤ uint32Max) :
    Restores rt ({ status := .ok, bytes := image rt, requiredBytes := (image rt).length },
      load fresh (image rt) headerBytesV2 rt.deliveryOffset rt.replayGap) := by
  have hlen : fresh.slots.length = rt.slots.length := by
    have := congrArg List.length hsizes
    simpa using this
  have hlen' : rt.ring.retained.length ≤ (fresh.slots.map (·.cleared)).length := by
    rw [hinv.length_retained, List.length_map, hlen]
    exact hinv.count_le
  refine
    { status := rfl
      entries := ?_
      deliveryOffset := rfl
      nextEntryNumber := readAt_nextEntryNumber (definitionFingerprint rt.definition) rt
        (rt.ring.retained.flatMap encodeEntry)
      sequenceNumber := octetAt_sequenceNumber (definitionFingerprint rt.definition) rt
        (rt.ring.retained.flatMap encodeEntry)
      droppedReports := readAt_droppedReports (definitionFingerprint rt.definition) rt
        (rt.ring.retained.flatMap encodeEntry)
      replayGap := rfl
      enabled := rfl
      pending := ⟨rfl, rfl, rfl⟩
      generalInterrogation := hgi }
  have hload := loadEntries_encode [] hall hlen'
  rw [List.append_nil, hinv.length_retained] at hload
  simp only [load, Ring.retained, MmsStaticBrcbRuntime.ring, window_head_zero, image,
    readAt_count _ _ _ hcount, drop_encodeHeader]
  exact hload

end Image

/-! ## Reachable runtimes -/

theorem holds_encodable {rt : MmsStaticBrcbRuntime} (hinv : RingInv rt.ring)
    (hbytes : ∀ slot ∈ rt.ring.retained, slot.bytes ≠ 0 ∧ slot.bytes ≤ uint32Max) :
    ∀ slot ∈ rt.ring.retained, Encodable slot := fun slot hslot =>
  ⟨hinv.holds slot hslot, (hbytes slot hslot).1, (hbytes slot hslot).2⟩

/-- A device of the same shape restores the image of a reachable runtime, or it finds no room for
an entry. -/
theorem restore_encode_eq {rt rt' fresh fresh' : MmsStaticBrcbRuntime}
    (hinit : rt.initializeRuntime = (true, rt')) (ops : List Operation) {destinationSize : Nat}
    (hencode : (encode (exec step rt' ops) destinationSize).status = .ok)
    (hfresh : fresh.initializeRuntime = (true, fresh')) (hdef : fresh.definition = rt.definition)
    (hsizes : fresh.slots.map (·.storage.length) = rt.slots.map (·.storage.length)) :
    RingInv (exec step rt' ops).ring ∧
    Restores (exec step rt' ops)
      ({ status := .ok
         bytes := image (exec step rt' ops)
         requiredBytes := (image (exec step rt' ops)).length },
        load fresh' (image (exec step rt' ops)) headerBytesV2 (exec step rt' ops).deliveryOffset
          (exec step rt' ops).replayGap) ∧
    restore fresh' (encode (exec step rt' ops) destinationSize).bytes =
      if fitsFrom (exec step rt' ops).slots 0 (exec step rt' ops).ring.retained then
        ({ status := .ok
           bytes := image (exec step rt' ops)
           requiredBytes := (image (exec step rt' ops)).length },
          load fresh' (image (exec step rt' ops)) headerBytesV2 (exec step rt' ops).deliveryOffset
            (exec step rt' ops).replayGap)
      else
        ({ status := .capacityMismatch, requiredBytes := (image (exec step rt' ops)).length },
          fresh') := by
  have hinv : RingInv (exec step rt' ops).ring :=
    exec_invariant (fun rt : MmsStaticBrcbRuntime => RingInv rt.ring) (fun _ op => ringInv_step op)
      (ringInv_initializeRuntime hinit) ops
  have hfixed : (exec step rt' ops).fixed = rt'.fixed :=
    exec_invariant (fun rt : MmsStaticBrcbRuntime => rt.fixed = rt'.fixed)
      (fun _ op hs => (fixed_step op).trans hs) rfl ops
  obtain ⟨hcount, hdel, hbytes, himage⟩ := encode_ok hencode
  have hall := holds_encodable hinv hbytes
  obtain ⟨-, -, -, -, hrt'⟩ := initializeRuntime_eq hinit
  obtain ⟨hne, -, -, -, hfresh'⟩ := initializeRuntime_eq hfresh
  have hcleared : ∀ slots : List MmsStaticBrcbSlot,
      (slots.map (·.cleared)).map (·.storage.length) = slots.map (·.storage.length) := fun slots => by
    rw [List.map_map]
    rfl
  have hdef' : fresh'.definition = (exec step rt' ops).definition := by
    have h := congrArg Fixed.definition hfixed
    rw [show (exec step rt' ops).definition = rt'.definition from h, hrt', hfresh']
    exact hdef
  have hsizes' : fresh'.slots.map (·.storage.length)
      = (exec step rt' ops).slots.map (·.storage.length) := by
    have h := congrArg Fixed.sizes hfixed
    rw [show (exec step rt' ops).slots.map (·.storage.length) = rt'.slots.map _ from h, hrt',
      hfresh']
    show (fresh.slots.map (·.cleared)).map _ = (rt.slots.map (·.cleared)).map _
    rw [hcleared, hcleared, hsizes]
  have hinit' : fresh'.initialized = true := initialized_initializeRuntime hfresh
  have hslots : fresh'.slots ≠ [] := by
    rw [hfresh']
    simpa using hne
  refine ⟨hinv, restores_load hinv hall hsizes' (by rw [hfresh']) hcount, ?_⟩
  rw [show (encode (exec step rt' ops) destinationSize).bytes = image (exec step rt' ops) from himage]
  exact restore_image hinv hall hsizes' hinit' hslots hdef' hcount hdel

/-- **The image of a reachable runtime is restored on the same device exactly when every retained
report fits the slot at its place in the window.** -/
theorem restore_encode_iff {rt rt' fresh fresh' : MmsStaticBrcbRuntime}
    (hinit : rt.initializeRuntime = (true, rt')) (ops : List Operation) {destinationSize : Nat}
    (hencode : (encode (exec step rt' ops) destinationSize).status = .ok)
    (hfresh : fresh.initializeRuntime = (true, fresh')) (hdef : fresh.definition = rt.definition)
    (hsizes : fresh.slots.map (·.storage.length) = rt.slots.map (·.storage.length)) :
    Restores (exec step rt' ops)
        (restore fresh' (encode (exec step rt' ops) destinationSize).bytes) ↔
      FitsInOrder (exec step rt' ops) := by
  obtain ⟨hinv, hloaded, hrestore⟩ := restore_encode_eq hinit ops hencode hfresh hdef hsizes
  rw [hrestore, ← fitsInOrder_iff hinv]
  by_cases hfits : fitsFrom (exec step rt' ops).slots 0 (exec step rt' ops).ring.retained = true
  · rw [if_pos hfits]
    exact iff_of_true hloaded hfits
  · rw [if_neg hfits]
    refine iff_of_false (fun h => ?_) hfits
    exact absurd h.status (by simp)

/-! ## A device with two capacities -/

/-- Three reports of 38, 42 and 38 octets in slots of 40 and 60: the third one overwrites the
first, and the second one is now the oldest. -/
def rotatedOps : List Operation :=
  let rt := (sampleRuntime [40, 60]).initializeRuntime.2.step (.setEnabled true)
  let ops := sampleCapture rt [0x83, 0x01, 0x01]
  let ops := ops ++ sampleCapture (exec step rt ops) [0x89, 0x05, 0x01, 0x02, 0x03, 0x04, 0x05]
  .setEnabled true :: ops ++ sampleCapture (exec step rt ops) [0x83, 0x01, 0x00]

def rotatedRuntime : MmsStaticBrcbRuntime :=
  exec step (sampleRuntime [40, 60]).initializeRuntime.2 rotatedOps

/-- **The image is written, and the same device refuses it.** -/
theorem restore_encode_capacityMismatch :
    (sampleRuntime [40, 60]).initializeRuntime.1 = true ∧
    (encode rotatedRuntime 256).status = .ok ∧
    (restore (sampleRuntime [40, 60]).initializeRuntime.2 (encode rotatedRuntime 256).bytes).1.status
      = .capacityMismatch := by
  decide +kernel

/-- With one capacity the device restores its image, also after an overflow. -/
def equalRuntime : MmsStaticBrcbRuntime :=
  exec step (sampleRuntime [60, 60]).initializeRuntime.2 rotatedOps

theorem restore_encode_iff_sample :
    (encode equalRuntime 256).status = .ok ∧
    (Restores equalRuntime
        (restore (sampleRuntime [60, 60]).initializeRuntime.2 (encode equalRuntime 256).bytes) ↔
      FitsInOrder equalRuntime) :=
  have hinit : (sampleRuntime [60, 60]).initializeRuntime
      = (true, (sampleRuntime [60, 60]).initializeRuntime.2) := Prod.ext (by decide) rfl
  ⟨by decide, restore_encode_iff hinit rotatedOps (by decide) hinit rfl rfl⟩

end ArStack.Mms
