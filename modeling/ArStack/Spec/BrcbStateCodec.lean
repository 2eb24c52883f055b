import ArStack.Mms.StaticBrcbStateCodec
import ArStack.Spec.BrcbLog

/-!
# Reading back a recovery image

* `isV2_encodeHeader`, `readAt_*` — the fields of the header
* `checkEntries_encode` — the check of an image walks its entries and stops at the first one
  that does not fit the slot it is laid in
* `loadEntries_encode` — loading gives the entries back
-/

namespace ArStack.Mms

open ArStack.Lib

namespace MmsStaticBrcbStateCodec

open MmsStaticBrcbRuntime MmsStaticBrcbSlot

/-! ## The header -/

section Header

variable (fingerprint : UInt64) (rt : MmsStaticBrcbRuntime) (tail : Bytes)

/-- The header, as an equation to rewrite with. -/
theorem encodeHeader_eq : encodeHeader fingerprint rt =
    magicV2 ++ beOctets 2 formatVersion ++ beOctets 2 headerBytesV2 ++
  beOctets 8 fingerprint.toNat ++
  beOctets 4 rt.count ++
  beOctets 8 rt.nextEntryNumber.toNat ++
  beOctets 8 rt.droppedReports.toNat ++
  [rt.sequenceNumber, if rt.replayGap then replayGapFlag else 0, 0, 0] ++
  beOctets 4 rt.deliveryOffset ++
  List.replicate 8 0 := rfl

theorem length_encodeHeader : (encodeHeader fingerprint rt).length = headerBytesV2 := by
  simp [encodeHeader_eq, magicV2, headerBytesV2]

theorem drop_encodeHeader : (encodeHeader fingerprint rt ++ tail).drop headerBytesV2 = tail :=
  List.drop_left' (length_encodeHeader fingerprint rt)

theorem isV2_encodeHeader : isV2 (encodeHeader fingerprint rt ++ tail) = true := by
  have hlen := length_encodeHeader fingerprint rt
  have hmagic : (encodeHeader fingerprint rt ++ tail).take 8 = magicV2 := by
    simp [encodeHeader_eq, magicV2]
  have hversion : slice (encodeHeader fingerprint rt ++ tail) 8 2 = beOctets 2 formatVersion := by
    simp [slice, encodeHeader_eq, magicV2]
  have hheader : slice (encodeHeader fingerprint rt ++ tail) 10 2 = beOctets 2 headerBytesV2 := by
    simp [slice, encodeHeader_eq, magicV2]
  have hsize : headerBytesV2 ≤ (encodeHeader fingerprint rt ++ tail).length := by
    rw [List.length_append]
    omega
  have hm : magicV2.length ≤ (encodeHeader fingerprint rt ++ tail).length :=
    Nat.le_trans (by decide) hsize
  simp only [isV2, isFormat, magicMatches, readAt, hversion, hheader, Bool.and_eq_true,
    decide_eq_true_eq, beq_iff_eq]
  exact ⟨⟨⟨hsize, hm, hmagic⟩, by decide⟩, by decide⟩

theorem readAt_fingerprint :
    readAt (encodeHeader fingerprint rt ++ tail) 12 8 = fingerprint.toNat := by
  have h : slice (encodeHeader fingerprint rt ++ tail) 12 8 = beOctets 8 fingerprint.toNat := by
    simp [slice, encodeHeader_eq, magicV2, List.drop_append, List.drop_of_length_le]
  rw [readAt, h, beValue_beOctets_uint64]

theorem readAt_count (hcount : rt.count ≤ uint32Max) :
    readAt (encodeHeader fingerprint rt ++ tail) 20 4 = rt.count := by
  have h : slice (encodeHeader fingerprint rt ++ tail) 20 4 = beOctets 4 rt.count := by
    simp [slice, encodeHeader_eq, magicV2, List.drop_append, List.drop_of_length_le]
  rw [readAt, h, beValue_beOctets 4 (Nat.lt_of_le_of_lt hcount (by decide))]

theorem readAt_nextEntryNumber :
    UInt64.ofNat (readAt (encodeHeader fingerprint rt ++ tail) 24 8) = rt.nextEntryNumber := by
  have h : slice (encodeHeader fingerprint rt ++ tail) 24 8 = beOctets 8 rt.nextEntryNumber.toNat := by
    simp [slice, encodeHeader_eq, magicV2, List.drop_append, List.drop_of_length_le]
  rw [readAt, h, beValue_beOctets_uint64, UInt64.ofNat_toNat]

theorem readAt_droppedReports :
    UInt64.ofNat (readAt (encodeHeader fingerprint rt ++ tail) 32 8) = rt.droppedReports := by
  have h : slice (encodeHeader fingerprint rt ++ tail) 32 8 = beOctets 8 rt.droppedReports.toNat := by
    simp [slice, encodeHeader_eq, magicV2, List.drop_append, List.drop_of_length_le]
  rw [readAt, h, beValue_beOctets_uint64, UInt64.ofNat_toNat]

theorem readAt_deliveryOffset (hdel : rt.deliveryOffset ≤ uint32Max) :
    readAt (encodeHeader fingerprint rt ++ tail) 44 4 = rt.deliveryOffset := by
  have h : slice (encodeHeader fingerprint rt ++ tail) 44 4 = beOctets 4 rt.deliveryOffset := by
    simp [slice, encodeHeader_eq, magicV2, List.drop_append, List.drop_of_length_le]
  rw [readAt, h, beValue_beOctets 4 (Nat.lt_of_le_of_lt hdel (by decide))]

theorem octetAt_sequenceNumber : octetAt (encodeHeader fingerprint rt ++ tail) 40 = rt.sequenceNumber := by
  simp [octetAt, encodeHeader_eq, magicV2, List.getElem?_append]

theorem octetAt_flags :
    octetAt (encodeHeader fingerprint rt ++ tail) 41 = if rt.replayGap then replayGapFlag else 0 := by
  simp [octetAt, encodeHeader_eq, magicV2, List.getElem?_append]

theorem reservedV2_encodeHeader : reservedV2 (encodeHeader fingerprint rt ++ tail) = true := by
  have h42 : octetAt (encodeHeader fingerprint rt ++ tail) 42 = 0 := by
    simp [octetAt, encodeHeader_eq, magicV2, List.getElem?_append]
  have h43 : octetAt (encodeHeader fingerprint rt ++ tail) 43 = 0 := by
    simp [octetAt, encodeHeader_eq, magicV2, List.getElem?_append]
  have h48 : slice (encodeHeader fingerprint rt ++ tail) 48 8 = List.replicate 8 0 := by
    simp [slice, encodeHeader_eq, magicV2, List.drop_append, List.drop_of_length_le]
  rw [reservedV2, octetAt_flags, h42, h43, h48]
  cases rt.replayGap <;> decide

theorem replayGap_encodeHeader :
    (octetAt (encodeHeader fingerprint rt ++ tail) 41 &&& replayGapFlag != 0) = rt.replayGap := by
  rw [octetAt_flags]
  cases rt.replayGap <;> decide

end Header

/-! ## One entry -/

/-- A slot whose entry can be encoded. -/
structure Encodable (slot : MmsStaticBrcbSlot) : Prop where
  holds : slot.Holds
  bytes_ne : slot.bytes ≠ 0
  bytes_le : slot.bytes ≤ uint32Max

section Entry

variable {slot : MmsStaticBrcbSlot} (h : Encodable slot) (tail : Bytes)
include h

theorem length_pdu : slot.pdu.length = slot.bytes := by
  rw [MmsStaticBrcbSlot.pdu, List.length_take]
  exact Nat.min_eq_left h.holds.bytes_le

theorem length_encodeEntry : (encodeEntry slot).length = entryHeaderBytes + slot.bytes := by
  rw [encodeEntry, List.length_append, length_pdu h]
  simp [entryHeaderBytes, entryIdBytes]

theorem readAt_pduBytes : readAt (encodeEntry slot ++ tail) 0 4 = slot.bytes := by
  have hs : slice (encodeEntry slot ++ tail) 0 4 = beOctets 4 slot.bytes := by
    simp [slice, encodeEntry]
  rw [readAt, hs, beValue_beOctets 4 (Nat.lt_of_le_of_lt h.bytes_le (by decide))]

omit h in
theorem slice_entryId : slice (encodeEntry slot ++ tail) 4 8 = slot.entryId.toList := by
  simp [slice, encodeEntry]

omit h in
theorem octetAt_entry :
    octetAt (encodeEntry slot ++ tail) 12 = slot.sequenceNumber ∧
    octetAt (encodeEntry slot ++ tail) 13 = (if slot.bufferOverflow then 1 else 0) ∧
    octetAt (encodeEntry slot ++ tail) 14 = 0 ∧ octetAt (encodeEntry slot ++ tail) 15 = 0 := by
  refine ⟨?_, ?_, ?_, ?_⟩ <;> simp [octetAt, encodeEntry, List.getElem?_append, entryIdBytes]

theorem slice_pdu : slice (encodeEntry slot ++ tail) entryHeaderBytes slot.bytes = slot.pdu := by
  have hsplit : encodeEntry slot ++ tail = (beOctets 4 slot.bytes ++ slot.entryId.toList ++
      [slot.sequenceNumber, if slot.bufferOverflow then 1 else 0, 0, 0]) ++ (slot.pdu ++ tail) := by
    simp [encodeEntry]
  rw [slice, hsplit, List.drop_left' (by simp [entryHeaderBytes, entryIdBytes]), List.take_left' (length_pdu h)]

theorem drop_encodeEntry :
    (encodeEntry slot ++ tail).drop (entryHeaderBytes + slot.bytes) = tail :=
  List.drop_left' (length_encodeEntry h)

end Entry

/-! ## The entries -/

/-- Every entry fits the slot it is laid in, from slot `logical` on. -/
def fitsFrom (slots : List MmsStaticBrcbSlot) : Nat → List MmsStaticBrcbSlot → Bool
  | _, [] => true
  | logical, slot :: entries =>
    decide (slot.bytes ≤ (slots[logical]?.map (·.storage.length)).getD 0) &&
      fitsFrom slots (logical + 1) entries

/-- What the check remembers after the entries. -/
def lastOf (last : LastEntry) (entries : List MmsStaticBrcbSlot) : LastEntry :=
  entries.foldl (fun _ slot => ⟨slot.entryNumber, slot.sequenceNumber⟩) last

/-- The entries go on from what the check remembers. -/
def GoesOn (logical : Nat) (last : LastEntry) (entries : List MmsStaticBrcbSlot) : Prop :=
  entries.IsChain Follows ∧
    (logical ≠ 0 → ∀ slot ∈ entries.head?, slot.entryNumber = nextEntryNumber last.entryNumber)

/-- **The check of an image walks its entries and stops at the first that does not fit.** -/
theorem checkEntries_encode (slots : List MmsStaticBrcbSlot) (tail : Bytes)
    {entries : List MmsStaticBrcbSlot} (hall : ∀ slot ∈ entries, Encodable slot)
    {logical : Nat} {last : LastEntry} (hon : GoesOn logical last entries) :
    checkEntries slots entries.length logical last (entries.flatMap encodeEntry ++ tail)
      = if fitsFrom slots logical entries then .ok (lastOf last entries, tail)
        else .error .capacityMismatch := by
  induction entries generalizing logical last with
  | nil => rfl
  | cons slot entries ih =>
    have hslot : Encodable slot := hall slot List.mem_cons_self
    obtain ⟨hchain, hfirst⟩ := hon
    have hgoes : GoesOn (logical + 1) ⟨slot.entryNumber, slot.sequenceNumber⟩ entries := by
      refine ⟨hchain.tail, fun _ next hnext => ?_⟩
      rw [List.isChain_cons] at hchain
      exact (hchain.1 next hnext).1
    have hnext := ih (fun s hs => hall s (List.mem_cons_of_mem slot hs)) hgoes
    obtain ⟨h12, h13, h14, h15⟩ := @octetAt_entry slot (entries.flatMap encodeEntry ++ tail)
    have hlen : (encodeEntry slot ++ (entries.flatMap encodeEntry ++ tail)).length
        = entryHeaderBytes + slot.bytes + (entries.flatMap encodeEntry ++ tail).length := by
      rw [List.length_append, length_encodeEntry hslot]
    have hnumber : decodeEntryId (slice (encodeEntry slot ++ (entries.flatMap encodeEntry ++ tail))
        4 8) = slot.entryNumber := by
      rw [slice_entryId]
      rfl
    have hflag : ¬(if slot.bufferOverflow then (1 : UInt8) else 0) > 1 := by
      cases slot.bufferOverflow <;> decide
    rw [List.flatMap_cons, List.append_assoc, List.length_cons, checkEntries,
      if_neg (by rw [hlen]; omega)]
    simp only [readAt_pduBytes hslot, hnumber, h12, h13, h14, h15, drop_encodeEntry hslot]
    by_cases hfit : slot.bytes ≤ (slots[logical]?.map (·.storage.length)).getD 0
    · rw [if_neg (by simp [hslot.bytes_ne, hflag, hfit]), if_neg (by rw [hlen]; omega), if_neg,
        hnext]
      · simp only [fitsFrom, hfit, decide_true, Bool.true_and]
        rfl
      · rintro (hzero | ⟨hne, hnum⟩)
        · exact hslot.holds.entryNumber_ne hzero
        · exact hnum (hfirst hne slot rfl)
    · rw [if_pos (by simp only [gt_iff_lt]; omega), if_pos (by omega)]
      simp [fitsFrom, hfit]

/-- The last entry is what the check remembers. -/
theorem lastOf_eq {last : LastEntry} {entries : List MmsStaticBrcbSlot} {slot : MmsStaticBrcbSlot}
    (h : entries.getLast? = some slot) :
    lastOf last entries = ⟨slot.entryNumber, slot.sequenceNumber⟩ := by
  obtain ⟨front, rfl⟩ := List.getLast?_eq_some_iff.mp h
  rw [lastOf, List.foldl_append]
  rfl

theorem ofFn_entryId (slot : MmsStaticBrcbSlot) (tail : Bytes) :
    (Vector.ofFn fun i : Fin entryIdBytes => octetAt (encodeEntry slot ++ tail) (4 + i))
      = slot.entryId := by
  ext i hi
  have hi' : i < slot.entryId.toList.length := by rwa [Vector.length_toList]
  have hget : (encodeEntry slot ++ tail)[4 + i]? = some slot.entryId[i] := by
    rw [encodeEntry, List.append_assoc, List.append_assoc, List.append_assoc,
      List.getElem?_append_right (by simp), length_beOctets, Nat.add_sub_cancel_left,
      List.getElem?_append_left hi', List.getElem?_eq_getElem hi', Vector.getElem_toList]
  rw [Vector.getElem_ofFn, octetAt, List.getD_eq_getElem?_getD, hget, Option.getD_some]

/-- **Loading gives the entries back.** -/
theorem loadEntries_encode (tail : Bytes) {entries : List MmsStaticBrcbSlot}
    (hall : ∀ slot ∈ entries, Encodable slot) {slots : List MmsStaticBrcbSlot}
    (hlen : entries.length ≤ slots.length) :
    ((loadEntries slots entries.length (entries.flatMap encodeEntry ++ tail)).take
      entries.length).map (·.entry) = entries.map (·.entry) := by
  induction entries generalizing slots with
  | nil => simp
  | cons slot entries ih =>
    have hslot : Encodable slot := hall slot List.mem_cons_self
    obtain ⟨h12, h13, -, -⟩ := @octetAt_entry slot (entries.flatMap encodeEntry ++ tail)
    cases slots with
    | nil => simp at hlen
    | cons home slots =>
      have hnext := ih (fun s hs => hall s (List.mem_cons_of_mem slot hs))
        (Nat.le_of_succ_le_succ hlen)
      rw [List.flatMap_cons, List.append_assoc, List.length_cons, loadEntries, List.take_succ_cons,
        List.map_cons, List.map_cons]
      simp only [readAt_pduBytes hslot, drop_encodeEntry hslot, slice_pdu hslot, h12, h13]
      rw [hnext, ofFn_entryId]
      congr 1
      simp only [MmsStaticBrcbSlot.entry, BrcbEntry.mk.injEq]
      refine ⟨rfl, trivial, ?_, ?_⟩
      · cases slot.bufferOverflow <;> decide
      · rw [MmsStaticBrcbSlot.pdu]
        exact List.take_left' (length_pdu hslot)

/-! ## The image of a runtime -/

theorem requiredSize_eq_some {required total : Nat} {entries : List MmsStaticBrcbSlot}
    (h : requiredSize required entries = some total) :
    ∀ slot ∈ entries, slot.occupied = true ∧ slot.bytes ≠ 0 ∧ slot.bytes ≤ slot.storage.length ∧
      slot.bytes ≤ uint32Max := by
  induction entries generalizing required with
  | nil => simp
  | cons slot entries ih =>
    rw [requiredSize] at h
    split at h
    · cases h
    rename_i hready
    simp only [Bool.or_eq_true, Bool.not_eq_true', beq_iff_eq, decide_eq_true_eq, not_or,
      Bool.not_eq_false, Nat.not_lt] at hready
    obtain ⟨_, -, h⟩ := Option.bind_eq_some_iff.mp h
    obtain ⟨_, -, h⟩ := Option.bind_eq_some_iff.mp h
    intro s hs
    rcases List.mem_cons.mp hs with rfl | hs
    · exact ⟨hready.1.1.1, hready.1.1.2, hready.1.2, hready.2⟩
    · exact ih h s hs

/-- What a successful encoding needs and gives. -/
theorem encode_ok {rt : MmsStaticBrcbRuntime} {destinationSize : Nat}
    (h : (encode rt destinationSize).status = .ok) :
    rt.count ≤ uint32Max ∧ rt.deliveryOffset ≤ uint32Max ∧
      (∀ slot ∈ rt.ring.retained, slot.bytes ≠ 0 ∧ slot.bytes ≤ uint32Max) ∧
      (encode rt destinationSize).bytes = encodeHeader (definitionFingerprint rt.definition) rt ++
        rt.ring.retained.flatMap encodeEntry := by
  rw [encode] at h ⊢
  split at h
  · cases h
  rename_i hready
  rw [if_neg hready]
  simp only [Bool.or_eq_true, decide_eq_true_eq, not_or, Nat.not_lt] at hready
  cases hreq : requiredSize headerBytesV2 (retainedSlots rt) with
  | none => simp [hreq] at h
  | some required =>
    simp only [hreq] at h ⊢
    split at h
    · cases h
    rename_i hfits
    rw [if_neg hfits]
    refine ⟨hready.1.2, hready.2, fun slot hslot => ?_, rfl⟩
    have := requiredSize_eq_some hreq slot hslot
    exact ⟨this.2.1, this.2.2.2⟩

end MmsStaticBrcbStateCodec

end ArStack.Mms
