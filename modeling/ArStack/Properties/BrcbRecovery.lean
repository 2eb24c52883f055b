import ArStack.Mms.StaticBrcbObjects
import ArStack.Properties.BrcbImage

/-!
# What a client sees of a checkpoint

The recovery image has no field for the report time of an entry; a loaded slot keeps the zeros
of `clear_slots`.

* `latestSlot_eq` — the attributes of the newest entry are those of the end of the window
* `encodePrimitive_inj` — different contents of one length are read as different values
* `recovery_invisible_iff` — exactly when a client cannot tell the restored device
-/

namespace ArStack.Mms

open ArStack.Asn1 ArStack.Wire ArStack.Lib MmsStaticBrcbRuntime MmsStaticBrcbStateCodec
  MmsStaticBrcbObjects

/-- A client reads the same value of an attribute from both. -/
def SameRead (before after : MmsStaticBrcbRuntime) (attr : MmsStaticBrcbAttribute) : Prop :=
  ∀ nowMs destinationSize,
    (readBrcbAttribute { reports := after } attr nowMs destinationSize).1
      = (readBrcbAttribute { reports := before } attr nowMs destinationSize).1

/-- The attributes of the newest entry read the same and the retained reports are the same. -/
structure Invisible (before after : MmsStaticBrcbRuntime) : Prop where
  entryId : SameRead before after .entryId
  timeOfEntry : SameRead before after .timeOfEntry
  sequenceNumber : SameRead before after .sequenceNumber
  reports : after.ring.retained.map (·.pdu) = before.ring.retained.map (·.pdu)

/-- The newest entry was stored without a report time. -/
def Untimed (rt : MmsStaticBrcbRuntime) : Prop :=
  ∀ slot ∈ rt.ring.retained.getLast?, slot.timeOfEntry = .replicate binaryTimeBytes 0

/-! ## The newest entry -/

/-- **The newest slot is the last one of the window.** -/
theorem latestSlot_eq {rt : MmsStaticBrcbRuntime} (hinit : rt.initialized = true)
    (hhead : rt.head < rt.slots.length) (hcount : rt.count ≤ rt.slots.length)
    (hocc : ∀ slot ∈ rt.ring.retained, slot.occupied = true) :
    rt.latestSlot = rt.ring.retained.getLast? := by
  have hlen : rt.ring.retained.length = rt.count := length_window hcount
  have hslots : rt.slots ≠ [] := List.ne_nil_of_length_pos (by omega)
  by_cases hzero : rt.count = 0
  · have hnil : rt.ring.retained = [] := List.length_eq_zero_iff.mp (hlen.trans hzero)
    rw [latestSlot, if_pos (by simp [hzero]), hnil, List.getLast?_nil]
  · have hready : ¬(!rt.initialized || rt.slots.isEmpty || rt.count == 0 ||
        decide (rt.count > rt.slots.length) || decide (rt.head ≥ rt.slots.length)) = true := by
      simp only [hinit, List.isEmpty_eq_false_iff.mpr hslots, Bool.not_true, Bool.or_eq_true,
        beq_iff_eq, decide_eq_true_eq, Bool.false_eq_true, false_or]
      omega
    have hget : rt.ring.retained[rt.count - 1]?
        = rt.slots[(rt.head + (rt.count - 1)) % rt.slots.length]? :=
      getElem?_window (by show rt.count - 1 < rt.count; omega) hcount
    rw [latestSlot, if_neg hready, List.getLast?_eq_getElem?, hlen, hget,
      Nat.add_sub_assoc (by omega)]
    cases hslot : rt.slots[(rt.head + (rt.count - 1)) % rt.slots.length]? with
    | none => rfl
    | some slot =>
      have hmem : slot ∈ rt.ring.retained := List.mem_of_getElem? (hget.trans hslot)
      dsimp only
      rw [if_pos (hocc slot hmem)]

/-! ## Reading a value -/

/-- Different contents of one length are read as different values. -/
theorem encodePrimitive_inj {tagNumber : Nat} {content content' : Bytes}
    (hlen : content.length = content'.length) (hsmall : content.length < 0x80)
    (h : ∀ destinationSize,
      encodePrimitive tagNumber content destinationSize
        = encodePrimitive tagNumber content' destinationSize) : content = content' := by
  have hsize : BerSpanWriter.tlvSize tagNumber content.length
      = some (BerSpanWriter.identifierOctets tagNumber + 1 + content.length) := by
    rw [BerSpanWriter.tlvSize, BerSpanWriter.lengthOctets, if_pos hsmall]
  have hbytes := congrArg EncodeResult.bytes
    (h (BerSpanWriter.identifierOctets tagNumber + 1 + content.length))
  simp only [encodePrimitive, ← hlen, hsize, Nat.lt_irrefl, if_false] at hbytes
  exact List.append_cancel_left hbytes

theorem sameRead_timeOfEntry_iff {before after : MmsStaticBrcbRuntime} :
    SameRead before after .timeOfEntry ↔ after.latestTimeOfEntry = before.latestTimeOfEntry := by
  have hread : ∀ (rt : MmsStaticBrcbRuntime) (nowMs : UInt64) (destinationSize : Nat),
      (readBrcbAttribute { reports := rt } .timeOfEntry nowMs destinationSize).1
        = encodePrimitive 12 rt.latestTimeOfEntry.toList destinationSize := by
    intro rt nowMs destinationSize
    simp only [readBrcbAttribute, encodeBinaryTime, Vector.length_toList, ne_eq,
      not_true_eq_false, if_false]
  constructor
  · intro h
    refine Vector.toList_inj.mp (@encodePrimitive_inj 12 _ _ ?_ ?_ fun destinationSize => ?_)
    · rw [Vector.length_toList, Vector.length_toList]
    · rw [Vector.length_toList]
      decide
    · rw [← hread after 0, ← hread before 0]
      exact h 0 destinationSize
  · intro h nowMs destinationSize
    rw [hread, hread, h]

/-! ## The loaded slots -/

theorem timeOfEntry_loadEntries {slots : List MmsStaticBrcbSlot}
    (h : ∀ slot ∈ slots, slot.timeOfEntry = .replicate binaryTimeBytes 0) (count : Nat)
    (rest : Bytes) :
    ∀ slot ∈ loadEntries slots count rest, slot.timeOfEntry = .replicate binaryTimeBytes 0 := by
  induction slots generalizing count rest with
  | nil => cases count <;> exact fun slot hslot => absurd hslot List.not_mem_nil
  | cons home homes ih =>
    cases count with
    | zero => exact h
    | succ count =>
      intro slot hslot
      rw [loadEntries] at hslot
      rcases List.mem_cons.mp hslot with rfl | hslot
      · exact h home List.mem_cons_self
      · exact ih (fun s hs => h s (List.mem_cons_of_mem home hs)) _ _ slot hslot

/-- **A restored device has no report times.** -/
theorem latestTimeOfEntry_load {rt : MmsStaticBrcbRuntime} {source : Bytes}
    {headerBytes deliveryOffset : Nat} {replayGap : Bool} :
    (load rt source headerBytes deliveryOffset replayGap).latestTimeOfEntry
      = .replicate binaryTimeBytes 0 := by
  rw [latestTimeOfEntry]
  cases hslot : (load rt source headerBytes deliveryOffset replayGap).latestSlot with
  | none => rfl
  | some slot =>
    rw [latestSlot] at hslot
    split at hslot
    · cases hslot
    split at hslot
    · cases hslot
    rename_i home hhome
    split at hslot
    · cases hslot
      refine timeOfEntry_loadEntries (fun cleared hcleared => ?_) _ _ slot (List.mem_of_getElem? hhome)
      obtain ⟨original, -, rfl⟩ := List.mem_map.mp hcleared
      rfl
    · cases hslot

/-! ## The device before and after -/

theorem untimed_iff {rt : MmsStaticBrcbRuntime} (hlatest : rt.latestSlot = rt.ring.retained.getLast?) :
    Untimed rt ↔ rt.latestTimeOfEntry = .replicate binaryTimeBytes 0 := by
  rw [Untimed, latestTimeOfEntry, hlatest]
  cases rt.ring.retained.getLast? with
  | none => simp
  | some slot => simp

/-- The identifier of the newest entry is among what an image holds of an entry. -/
theorem latestEntryId_congr {before after : MmsStaticBrcbRuntime}
    (hbefore : before.latestSlot = before.ring.retained.getLast?)
    (hafter : after.latestSlot = after.ring.retained.getLast?)
    (hentries : after.ring.retained.map (·.entry) = before.ring.retained.map (·.entry)) :
    after.latestEntryId = before.latestEntryId := by
  have hlast := congrArg List.getLast? hentries
  rw [List.getLast?_map, List.getLast?_map] at hlast
  rw [latestEntryId, latestEntryId, hbefore, hafter]
  cases hold : before.ring.retained.getLast? with
  | none =>
    rw [hold, Option.map_none, Option.map_eq_none_iff] at hlast
    rw [hlast]
  | some old =>
    rw [hold, Option.map_some, Option.map_eq_some_iff] at hlast
    obtain ⟨new, hnew, hentry⟩ := hlast
    have hnumber : new.entryNumber = old.entryNumber := congrArg BrcbEntry.entryNumber hentry
    rw [hnew, Option.map_some, Option.map_some, Option.getD_some, Option.getD_some,
      ← encodeEntryId_decodeEntryId new.entryId, ← encodeEntryId_decodeEntryId old.entryId]
    exact congrArg encodeEntryId hnumber

theorem latestSlot_restore {rt : MmsStaticBrcbRuntime} {source : Bytes}
    (h : (restore rt source).1.status = .ok) :
    (restore rt source).2.latestSlot = (restore rt source).2.ring.retained.getLast? := by
  rcases check_cases rt source with ⟨status, hne, -, hrestore⟩ | ⟨_, _, _, -, haccepted, hrestore⟩
  · rw [hrestore] at h
    exact absurd h hne
  · have hsound := soundRing_load haccepted
    rw [hrestore]
    exact latestSlot_eq haccepted.initialized hsound.head_lt hsound.count_le
      fun slot hslot => (hsound.holds slot hslot).1.occupied

theorem pdus_of_entries {before after : MmsStaticBrcbRuntime}
    (h : after.ring.retained.map (·.entry) = before.ring.retained.map (·.entry)) :
    after.ring.retained.map (·.pdu) = before.ring.retained.map (·.pdu) := by
  have hpdus := congrArg (List.map BrcbEntry.pdu) h
  rwa [List.map_map, List.map_map] at hpdus

/-- **A client cannot tell the restored device exactly when the entries fit the slots they are
loaded into and the newest one has no report time.** -/
theorem recovery_invisible_iff {rt rt' fresh fresh' : MmsStaticBrcbRuntime}
    (hinit : rt.initializeRuntime = (true, rt')) (ops : List Operation) {destinationSize : Nat}
    (hencode : (encode (exec step rt' ops) destinationSize).status = .ok)
    (hfresh : fresh.initializeRuntime = (true, fresh')) (hdef : fresh.definition = rt.definition)
    (hsizes : fresh.slots.map (·.storage.length) = rt.slots.map (·.storage.length)) :
    Invisible (exec step rt' ops)
        (restore fresh' (encode (exec step rt' ops) destinationSize).bytes).2 ↔
      FitsInOrder (exec step rt' ops) ∧ Untimed (exec step rt' ops) := by
  obtain ⟨hinv, hloaded, hrestore⟩ := restore_encode_eq hinit ops hencode hfresh hdef hsizes
  have hready : (exec step rt' ops).initialized = true :=
    exec_invariant (fun rt : MmsStaticBrcbRuntime => rt.initialized = true)
      (fun _ _ => initialized_step) (initialized_initializeRuntime hinit) ops
  generalize exec step rt' ops = run at hinv hloaded hrestore hready
  have hlatest : run.latestSlot = run.ring.retained.getLast? :=
    latestSlot_eq hready hinv.head_lt hinv.count_le fun slot hslot => (hinv.holds slot hslot).occupied
  rw [← fitsInOrder_iff hinv]
  by_cases hfits : fitsFrom run.slots 0 run.ring.retained = true
  · rw [if_pos hfits] at hrestore
    have hlatest' := latestSlot_restore (congrArg (·.1.status) hrestore)
    have huntimed' := @latestTimeOfEntry_load fresh' (image run) headerBytesV2 run.deliveryOffset
      run.replayGap
    have hentries := hloaded.entries
    have hsequence := hloaded.sequenceNumber
    rw [hrestore] at hlatest' ⊢
    dsimp only at hlatest' hentries hsequence ⊢
    generalize load fresh' (image run) headerBytesV2 run.deliveryOffset run.replayGap = restored
      at hlatest' huntimed' hentries hsequence ⊢
    have htime : SameRead run restored .timeOfEntry ↔ Untimed run := by
      rw [sameRead_timeOfEntry_iff, huntimed', untimed_iff hlatest, eq_comm]
    constructor
    · intro h
      exact ⟨hfits, htime.mp h.timeOfEntry⟩
    · rintro ⟨-, huntimed⟩
      exact
        { entryId := fun nowMs destinationSize => by
            simp only [readBrcbAttribute]
            rw [latestEntryId_congr hlatest hlatest' hentries]
          timeOfEntry := htime.mpr huntimed
          sequenceNumber := fun nowMs destinationSize => by
            simp only [readBrcbAttribute]
            rw [hsequence]
          reports := pdus_of_entries hentries }
  · rw [if_neg hfits] at hrestore
    refine iff_of_false (fun h => hfits ?_) fun h => hfits h.1
    -- nothing is loaded, so the window was empty and there was nothing to fit
    have hreports := h.reports
    have hempty : fresh'.ring.retained = [] := by
      obtain ⟨-, -, -, -, hfresh'⟩ := initializeRuntime_eq hfresh
      rw [hfresh']
      exact window_zero _ _
    rw [hrestore, hempty, List.map_nil, eq_comm, List.map_eq_nil_iff] at hreports
    rw [hreports]
    rfl

theorem recovery_invisible_iff_sample :
    (encode equalRuntime 256).status = .ok ∧
    (Invisible equalRuntime
        (restore (sampleRuntime [60, 60]).initializeRuntime.2 (encode equalRuntime 256).bytes).2 ↔
      FitsInOrder equalRuntime ∧ Untimed equalRuntime) :=
  have hinit : (sampleRuntime [60, 60]).initializeRuntime
      = (true, (sampleRuntime [60, 60]).initializeRuntime.2) := Prod.ext (by decide) rfl
  ⟨by decide, recovery_invisible_iff hinit rotatedOps (by decide) hinit rfl rfl⟩

/-- One report, stored with its time. -/
def timedRuntime : MmsStaticBrcbRuntime :=
  let rt := ((sampleRuntime [60, 60]).initializeRuntime.2.step (.setEnabled true)).step
    .requestGeneralInterrogation
  rt.step (.capture ((rt.nextDue 0).1.getD {}) [0x01, 0x02, 0x03, 0x04, 0x05, 0x06] 64 64
    (constantReads [0x83, 0x01, 0x01]))

/-- **The image is restored, and `TimeofEntry` reads zeros.** -/
theorem recovery_visible :
    (sampleRuntime [60, 60]).initializeRuntime.1 = true ∧
    timedRuntime.latestTimeOfEntry.toList = [0x01, 0x02, 0x03, 0x04, 0x05, 0x06] ∧
    (encode timedRuntime 256).status = .ok ∧
    (restore (sampleRuntime [60, 60]).initializeRuntime.2 (encode timedRuntime 256).bytes).1.status
      = .ok ∧
    ¬Invisible timedRuntime
      (restore (sampleRuntime [60, 60]).initializeRuntime.2 (encode timedRuntime 256).bytes).2 := by
  refine ⟨by decide +kernel, by decide +kernel, by decide +kernel, by decide +kernel, fun h => ?_⟩
  exact absurd (h.timeOfEntry 0 64) (by decide +kernel)

end ArStack.Mms
