import ArStack.Properties.DeviceProfileFormat
import ArStack.SampledValues.M4ThreeSvBinary

/-!
# The formats of device profiles

A container has its envelope and the records of its three profiles, one behind the other.

* `decodeContainer_eq_ok` — a container is decoded exactly as the profiles that it is made of
* `device_formats` — both formats
-/

namespace ArStack.SampledValues

open ArStack.Lib

namespace M4ThreeSvBinaryCodec

/-- The octets are the record of the profile. -/
abbrev IsRecord (octets : Bytes) (profile : CompiledSvDeviceProfile) : Prop :=
  SvDeviceProfileBinaryCodec.decodeRecord octets = .ok profile

/-! ## The records -/

section Records

variable {records : List Bytes} {profiles : List CompiledSvDeviceProfile}

theorem sum_length_le (h : List.Forall₂ IsRecord records profiles) :
    (records.map List.length).sum ≤ 572 * profiles.length := by
  induction h with
  | nil => exact Nat.le_refl _
  | cons hrecord _ ih =>
    have hlength := SvDeviceProfileBinaryCodec.length_of_decodeRecord hrecord
    rw [List.map_cons, List.sum_cons, List.length_cons]
    omega

theorem length_ne_zero (h : List.Forall₂ IsRecord records profiles) :
    ∀ length ∈ records.map List.length, length ≠ 0 := by
  induction h with
  | nil => exact fun length hlength => absurd hlength List.not_mem_nil
  | cons hrecord _ ih =>
    rw [List.map_cons, List.forall_mem_cons]
    have hlength := SvDeviceProfileBinaryCodec.length_of_decodeRecord hrecord
    exact ⟨by omega, ih⟩

theorem record_of_mem (h : List.Forall₂ IsRecord records profiles)
    {profile : CompiledSvDeviceProfile} (hprofile : profile ∈ profiles) :
    ∃ record ∈ records, IsRecord record profile := by
  induction h with
  | nil => exact absurd hprofile List.not_mem_nil
  | cons hrecord _ ih =>
    rcases List.mem_cons.mp hprofile with rfl | hprofile
    · exact ⟨_, List.mem_cons_self, hrecord⟩
    · obtain ⟨record, hmem, hrecord⟩ := ih hprofile
      exact ⟨record, List.mem_cons_of_mem _ hmem, hrecord⟩

theorem addSizes_of_records (h : List.Forall₂ IsRecord records profiles) (total : Nat)
    (hfits : total + (records.map List.length).sum ≤ uint32Max) :
    addSizes profiles total = some (total + (records.map List.length).sum) := by
  induction h generalizing total with
  | nil => rfl
  | @cons record profile records profiles hrecord _ ih =>
    obtain ⟨-, hsize, -⟩ := SvDeviceProfileBinaryCodec.decodeRecord_iff.mp hrecord
    have hlength := SvDeviceProfileBinaryCodec.length_of_decodeRecord hrecord
    rw [List.map_cons, List.sum_cons] at hfits ⊢
    rw [addSizes, hsize]
    dsimp only
    rw [if_neg (by omega), ih _ (by omega), Nat.add_assoc]

/-- Profiles with a size have records. -/
theorem records_of_addSizes {total total' : Nat} (hcanonical : ∀ p ∈ profiles, p.Canonical)
    (h : addSizes profiles total = some total') :
    ∃ records, List.Forall₂ IsRecord records profiles ∧
      total' = total + (records.map List.length).sum := by
  induction profiles generalizing total with
  | nil =>
    obtain rfl := Option.some.inj h
    exact ⟨[], .nil, rfl⟩
  | cons profile profiles ih =>
    rw [addSizes] at h
    cases hsize : SvDeviceProfileBinaryCodec.encodedSize profile with
    | none =>
      rw [hsize] at h
      cases h
    | some size =>
      rw [hsize] at h
      dsimp only at h
      rw [Option.ite_none_left_eq_some] at h
      obtain ⟨hfirst, hothers⟩ := List.forall_mem_cons.mp hcanonical
      obtain ⟨records, hrecords, htotal⟩ := ih hothers h.2
      obtain ⟨hlength, hrecord⟩ := SvDeviceProfileBinaryCodec.decodeRecord_record hfirst hsize
      refine ⟨_ :: records, .cons hrecord hrecords, ?_⟩
      rw [List.map_cons, List.sum_cons, hlength, htotal, Nat.add_assoc]

theorem encodeRecords_of_records (h : List.Forall₂ IsRecord records profiles) :
    encodeRecords profiles = some (records.map fun record => (record.length, record)) := by
  induction h with
  | nil => rfl
  | @cons record profile records profiles hrecord _ ih =>
    obtain ⟨-, hsize, -⟩ := SvDeviceProfileBinaryCodec.decodeRecord_iff.mp hrecord
    have hencode := SvDeviceProfileBinaryCodec.encodeInto_of_decodeRecord hrecord
      (Nat.le_refl record.length)
    rw [encodeRecords, hsize]
    dsimp only
    rw [hencode, ih, if_neg]
    · rfl
    · simp [SvDeviceProfileCodecResult.success]

/-- **The records are read back.** -/
theorem decodeRecords_of_records (h : List.Forall₂ IsRecord records profiles)
    (front back : Bytes) :
    decodeRecords (front ++ (records.flatten ++ back)) (records.map List.length) front.length =
      some profiles := by
  induction h generalizing front with
  | nil => rfl
  | @cons record profile records profiles hrecord _ ih =>
    have hslice : slice (front ++ ((record :: records).flatten ++ back)) front.length
        record.length = record := by
      rw [slice, List.drop_left, List.flatten_cons, List.append_assoc, List.take_left]
    have hrest := ih (front ++ record)
    rw [List.append_assoc, List.length_append, ← List.append_assoc record,
      ← List.flatten_cons] at hrest
    rw [List.map_cons, decodeRecords, hslice,
      SvDeviceProfileBinaryCodec.decode_of_decodeRecord hrecord, hrest]
    dsimp only
    rw [if_neg (by simp [SvDeviceProfileCodecResult.success])]

theorem records_of_decodeRecords {source : Bytes} {lengths : List Nat} {offset : Nat}
    (h : decodeRecords source lengths offset = some profiles) :
    List.Forall₂ IsRecord (slices source offset lengths) profiles := by
  induction lengths generalizing offset profiles with
  | nil =>
    obtain rfl := Option.some.inj h
    exact .nil
  | cons length lengths ih =>
    rw [decodeRecords, Option.ite_none_left_eq_some] at h
    obtain ⟨hinner, h⟩ := h
    cases hrest : decodeRecords source lengths (offset + length) with
    | none =>
      rw [hrest] at h
      cases h
    | some rest =>
      rw [hrest] at h
      obtain rfl := Option.some.inj h
      rw [not_or, Bool.not_eq_true', Bool.not_eq_false] at hinner
      exact .cons (SvDeviceProfileBinaryCodec.decodeRecord_of_success hinner.1) (ih hrest)

end Records

/-! ## The lengths -/

theorem sumLengths_eq_some {source : Bytes} {lengths : List Nat} {sum total : Nat} :
    sumLengths source lengths sum = some total →
      total = sum + lengths.sum := by
  intro h
  induction lengths generalizing sum with
  | nil => exact (Option.some.inj h).symm
  | cons length lengths ih =>
    rw [sumLengths, Option.ite_none_left_eq_some] at h
    rw [ih h.2, List.sum_cons, Nat.add_assoc]

theorem sumLengths_of_le {source : Bytes} {lengths : List Nat} {sum : Nat}
    (hlengths : ∀ length ∈ lengths, length ≠ 0) (hfits : sum + lengths.sum ≤ source.length) :
    sumLengths source lengths sum = some (sum + lengths.sum) := by
  induction lengths generalizing sum with
  | nil => rfl
  | cons length lengths ih =>
    obtain ⟨hfirst, hothers⟩ := List.forall_mem_cons.mp hlengths
    rw [List.sum_cons] at hfits ⊢
    rw [sumLengths, if_neg (by omega), ih hothers (by omega), Nat.add_assoc]

/-! ## The envelope -/

/-- The sizes of the fields of the envelope. -/
def envelopeWidths : List Nat := [4, 2, 1, 1, 4, 4, 4, 2, 2, 2, 1, 1]

/-- The fields of an envelope stand at their offsets. -/
structure HasEnvelope (source : Bytes) (total : Nat) (crc : UInt32) (first second third : Nat) :
    Prop where
  magic : slice source 0 4 = kMagic
  version : slice source 4 2 = u16 m4ThreeSvBinaryVersion
  capacity : slice source 6 1 = [.ofNat m4ThreeSvCapacity]
  reserved : slice source 7 1 = [0]
  total : slice source 8 4 = u32 (.ofNat total)
  checksum : slice source 12 4 = u32 crc
  rate : slice source 16 4 = u32 m4ThreeSvRateHz
  first : slice source 20 2 = u16 (.ofNat first)
  second : slice source 22 2 = u16 (.ofNat second)
  third : slice source 24 2 = u16 (.ofNat third)
  reserved' : slice source 26 1 = [0]
  reserved'' : slice source 27 1 = [0]

section Envelope

variable {source : Bytes} {total first second third : Nat} {crc : UInt32}

/-- **The fields of an envelope** are its slices. -/
theorem hasEnvelope_iff : HasEnvelope source total crc first second third ↔
    slices source 0 envelopeWidths = envelopeFields total crc [first, second, third] := by
  simp only [envelopeWidths, envelopeFields, slices, List.map_cons, List.map_nil,
    List.cons_append, List.nil_append, List.cons.injEq, and_true, Nat.reduceAdd, Nat.zero_add]
  constructor
  · intro h
    exact ⟨h.magic, h.version, h.capacity, h.reserved, h.total, h.checksum, h.rate, h.first,
      h.second, h.third, h.reserved', h.reserved''⟩
  · rintro ⟨h1, h2, h3, h4, h5, h6, h7, h8, h9, h10, h11, h12⟩
    exact ⟨h1, h2, h3, h4, h5, h6, h7, h8, h9, h10, h11, h12⟩

theorem map_length_envelopeFields :
    (envelopeFields total crc [first, second, third]).map List.length = envelopeWidths := by
  simp only [envelopeFields, List.map_cons, List.map_nil, List.cons_append, List.nil_append,
    length_u16, length_u32, List.length_singleton]
  rfl

theorem length_envelope :
    (envelopeFields total crc [first, second, third]).flatten.length = headerBytes := by
  rw [List.length_flatten, map_length_envelopeFields]
  rfl

theorem hasEnvelope_append (back : Bytes) :
    HasEnvelope ((envelopeFields total crc [first, second, third]).flatten ++ back) total crc
      first second third := by
  have hslices := slices_flatten [] (envelopeFields total crc [first, second, third]) back
  rw [map_length_envelopeFields, List.nil_append, List.length_nil] at hslices
  exact hasEnvelope_iff.mpr hslices

theorem HasEnvelope.recordLengths (h : HasEnvelope source total crc first second third)
    (hfirst : first < 2 ^ 16) (hsecond : second < 2 ^ 16) (hthird : third < 2 ^ 16) :
    recordLengths source = [first, second, third] := by
  have hthree : M4ThreeSvBinaryCodec.recordLengths source =
      [(readU16 source 20).toNat, (readU16 source 22).toNat, (readU16 source 24).toNat] := rfl
  rw [hthree, readU16_of_slice h.first, readU16_of_slice h.second, readU16_of_slice h.third,
    UInt16.toNat_ofNat', UInt16.toNat_ofNat', UInt16.toNat_ofNat', Nat.mod_eq_of_lt hfirst,
    Nat.mod_eq_of_lt hsecond, Nat.mod_eq_of_lt hthird]

/-- The CRC leaves its own octets out. -/
theorem envelopeCrc_append {before after : Bytes} (h : before.length = kCrcOffset)
    (crc : UInt32) :
    envelopeCrc (before ++ (u32 crc ++ after)) = envelopeCrc (before ++ (u32 0 ++ after)) := by
  have hdrop : ∀ crc : UInt32, (before ++ (u32 crc ++ after)).drop (kCrcOffset + 4) = after := by
    intro crc
    rw [← List.append_assoc]
    exact List.drop_left' (by rw [List.length_append, h, length_u32])
  simp only [envelopeCrc, hdrop, List.take_left' h]

theorem envelopeCrc_container (total : Nat) (crc : UInt32) (records : List (Nat × Bytes)) :
    envelopeCrc (container total crc records) = envelopeCrc (container total 0 records) := by
  have hsplit : ∀ crc : UInt32, container total crc records =
      ((envelopeFields total 0 []).take 5).flatten ++
        (u32 crc ++ (((envelopeFields total 0 (records.map Prod.fst)).drop 6).flatten ++
          (records.map Prod.snd).flatten)) := by
    intro crc
    simp [container, envelopeFields]
  rw [hsplit crc, hsplit 0]
  refine envelopeCrc_append ?_ crc
  simp only [envelopeFields, List.map_nil, List.append_nil, List.cons_append, List.nil_append,
    List.take_succ_cons, List.take_zero, List.length_flatten, List.map_cons, length_u16,
    length_u32, List.length_singleton]
  rfl

end Envelope

/-! ## The container -/

/-- The container of some records. -/
def containerOf (records : List Bytes) : Bytes :=
  let sized := records.map fun record => (record.length, record)
  let total := headerBytes + (records.map List.length).sum
  container total (envelopeCrc (container total 0 sized)) sized

variable {source : Bytes} {p : M4Profiles} {records : List Bytes}

theorem decodeContainer_eq_ok : decodeContainer source = .ok p ↔
    headerBytes ≤ source.length ∧ source.take 4 = kMagic ∧
    readU16 source 4 = m4ThreeSvBinaryVersion ∧
    ((octetAt source 6).toNat = m4ThreeSvCapacity ∧ octetAt source 7 = 0 ∧
      (readU32 source 8).toNat = source.length ∧ readU32 source 16 = m4ThreeSvRateHz ∧
      octetAt source 26 = 0 ∧ octetAt source 27 = 0) ∧
    sumLengths source (recordLengths source) headerBytes = some source.length ∧
    readU32 source kCrcOffset = envelopeCrc source ∧
    ∃ profiles, decodeRecords source (recordLengths source) headerBytes = some profiles ∧
      validRoster (padded _ {} profiles) = true ∧ padded _ {} profiles = p := by
  rw [decodeContainer, except_ite_eq_ok, except_ite_eq_ok, except_ite_eq_ok, except_ite_eq_ok,
    except_ite_eq_ok, except_ite_eq_ok]
  simp only [ne_eq, not_or, Decidable.not_not, Nat.not_lt]
  refine and_congr_right fun _ => and_congr_right fun _ => and_congr_right fun _ =>
    and_congr_right fun _ => and_congr_right fun _ => and_congr_right fun _ => ?_
  cases decodeRecords source (recordLengths source) headerBytes with
  | none => simp
  | some profiles => simp [except_ite_eq_ok]

/-- Three records, and a container of them. -/
theorem containerOf_three (h : List.Forall₂ IsRecord records p.toList) :
    ∃ first second third, records = [first, second, third] ∧
      (first.length < 2 ^ 16 ∧ second.length < 2 ^ 16 ∧ third.length < 2 ^ 16) ∧
      headerBytes + (records.map List.length).sum < 2 ^ 16 ∧
      (containerOf records).length = headerBytes + (records.map List.length).sum := by
  have hlength : records.length = 3 := h.length_eq.trans (Vector.length_toList)
  obtain ⟨first, second, third, rfl⟩ := List.length_eq_three.mp hlength
  have hsum := sum_length_le h
  rw [Vector.length_toList, m4ThreeSvCapacity] at hsum
  have hheader : headerBytes = 28 := rfl
  refine ⟨first, second, third, rfl, ?_, by omega, ?_⟩
  · simp only [List.map_cons, List.map_nil, List.sum_cons, List.sum_nil] at hsum
    omega
  · rw [containerOf]
    simp only [container, List.map_cons, List.map_nil, List.length_append, List.length_flatten,
      map_length_envelopeFields]
    rfl

/-- **A container is encoded** from the profiles of its records. -/
theorem encodeInto_of_records (h : List.Forall₂ IsRecord records p.toList)
    (hroster : validRoster p = true) {capacity : Nat}
    (hcapacity : (containerOf records).length ≤ capacity) :
    encodeInto p capacity =
      ({ status := .ok, bytes := (containerOf records).length }, containerOf records) := by
  obtain ⟨first, second, third, -, -, hsmall, hlength⟩ := containerOf_three h
  have hsize : encodedSize p = some (headerBytes + (records.map List.length).sum) := by
    rw [encodedSize, if_neg (by simp [hroster])]
    exact addSizes_of_records h headerBytes (Nat.le_trans (Nat.le_of_lt hsmall) (by decide))
  have hfits : ¬capacity < headerBytes + (records.map List.length).sum :=
    Nat.not_lt.mpr (hlength ▸ hcapacity)
  unfold encodeInto
  rw [hsize]
  dsimp only
  rw [if_neg hfits, encodeRecords_of_records h, hlength, containerOf]

/-- **and is decoded** as them. -/
theorem decodeContainer_of_records (h : List.Forall₂ IsRecord records p.toList)
    (hroster : validRoster p = true) : decodeContainer (containerOf records) = .ok p := by
  obtain ⟨first, second, third, rfl, ⟨hfirst, hsecond, hthird⟩, hsmall, hlength⟩ :=
    containerOf_three h
  have hsplit : containerOf [first, second, third] =
      (envelopeFields (headerBytes + ([first, second, third].map List.length).sum)
        (envelopeCrc (container (headerBytes + ([first, second, third].map List.length).sum) 0
          ([first, second, third].map fun record => (record.length, record))))
        [first.length, second.length, third.length]).flatten ++ [first, second, third].flatten := rfl
  have henvelope := @hasEnvelope_append (headerBytes +
    ([first, second, third].map List.length).sum) first.length second.length third.length
    (envelopeCrc (container (headerBytes + ([first, second, third].map List.length).sum) 0
      ([first, second, third].map fun record => (record.length, record))))
    [first, second, third].flatten
  rw [← hsplit] at henvelope
  have hlengths := henvelope.recordLengths hfirst hsecond hthird
  have hread := decodeRecords_of_records h (envelopeFields (headerBytes +
    ([first, second, third].map List.length).sum)
    (envelopeCrc (container (headerBytes + ([first, second, third].map List.length).sum) 0
      ([first, second, third].map fun record => (record.length, record))))
    [first.length, second.length, third.length]).flatten []
  rw [List.append_nil, ← hsplit, length_envelope] at hread
  have hpadded : padded m4ThreeSvCapacity {} p.toList = p := by
    have htake := @padded_take _ m4ThreeSvCapacity {} p m4ThreeSvCapacity fun i hi hle =>
      absurd hi (Nat.not_lt.mpr hle)
    rwa [List.take_of_length_le (by rw [Vector.length_toList])] at htake
  have hcrc : envelopeCrc (containerOf [first, second, third]) = envelopeCrc (container
      (headerBytes + ([first, second, third].map List.length).sum) 0
      ([first, second, third].map fun record => (record.length, record))) :=
    envelopeCrc_container _ _ _
  refine decodeContainer_eq_ok.mpr ⟨by rw [hlength]; exact Nat.le_add_right _ _, henvelope.magic,
    readU16_of_slice henvelope.version, ⟨?_, octetAt_of_slice henvelope.reserved, ?_,
      readU32_of_slice henvelope.rate, octetAt_of_slice henvelope.reserved',
      octetAt_of_slice henvelope.reserved''⟩, ?_, ?_, p.toList, ?_, ?_, hpadded⟩
  · rw [octetAt_of_slice henvelope.capacity]
    rfl
  · rw [readU32_of_slice henvelope.total, UInt32.toNat_ofNat', hlength]
    exact Nat.mod_eq_of_lt (Nat.lt_of_lt_of_le hsmall (by decide))
  · rw [hlengths, hlength]
    exact sumLengths_of_le (length_ne_zero h) (Nat.le_of_eq hlength.symm)
  · rw [hcrc]
    exact readU32_of_slice henvelope.checksum
  · rw [hlengths]
    exact hread
  · rw [hpadded]
    exact hroster

/-- The envelope of what is decoded. -/
theorem hasEnvelope_of_decode (h : decodeContainer source = .ok p) :
    HasEnvelope source source.length (readU32 source kCrcOffset) (readU16 source 20).toNat
      (readU16 source 22).toNat (readU16 source 24).toNat := by
  obtain ⟨hheader, hmagic, hversion, ⟨hcapacity, hreserved, htotal, hrate, hzero, hzero'⟩, -⟩ :=
    decodeContainer_eq_ok.mp h
  have hheader : 28 ≤ source.length := hheader
  have h16 : ∀ offset, offset + 2 ≤ 28 → slice source offset 2 = u16 (readU16 source offset) :=
    fun _ hle => u16_readU16 (Nat.le_trans hle hheader)
  have h32 : ∀ offset, offset + 4 ≤ 28 → slice source offset 4 = u32 (readU32 source offset) :=
    fun _ hle => u32_readU32 (Nat.le_trans hle hheader)
  have hoctet : ∀ offset, offset < 28 → slice source offset 1 = [octetAt source offset] :=
    fun _ hlt => slice_octetAt (Nat.lt_of_lt_of_le hlt hheader)
  exact
    { magic := hmagic
      version := hversion ▸ h16 4 (by decide)
      capacity := by
        rw [hoctet 6 (by decide), ← hcapacity, UInt8.ofNat_toNat]
      reserved := hreserved ▸ hoctet 7 (by decide)
      total := (h32 8 (by decide)).trans (u32_eq_of_toNat htotal)
      checksum := h32 12 (by decide)
      rate := hrate ▸ h32 16 (by decide)
      first := by rw [h16 20 (by decide), UInt16.ofNat_toNat]
      second := by rw [h16 22 (by decide), UInt16.ofNat_toNat]
      third := by rw [h16 24 (by decide), UInt16.ofNat_toNat]
      reserved' := hzero ▸ hoctet 26 (by decide)
      reserved'' := hzero' ▸ hoctet 27 (by decide) }

/-- **What is decoded** has the octets as its container. -/
theorem records_of_decodeContainer (h : decodeContainer source = .ok p) :
    ∃ records, List.Forall₂ IsRecord records p.toList ∧ validRoster p = true ∧
      containerOf records = source := by
  have henvelope := hasEnvelope_of_decode h
  obtain ⟨-, -, -, -, hsum, hcrc, profiles, hprofiles, hroster, hp⟩ := decodeContainer_eq_ok.mp h
  have hlengths : recordLengths source =
      [(readU16 source 20).toNat, (readU16 source 22).toNat, (readU16 source 24).toNat] := rfl
  have hlength := sumLengths_eq_some hsum
  have hrecords := records_of_decodeRecords hprofiles
  have hmap : (slices source headerBytes (recordLengths source)).map List.length =
      recordLengths source := map_length_slices (Nat.le_of_eq hlength.symm)
  have htoList : p.toList = profiles := by
    have hthree : profiles.length = m4ThreeSvCapacity := by
      rw [← hrecords.length_eq, ← List.length_map List.length, hmap]
      rfl
    have htake := @take_padded _ m4ThreeSvCapacity {} profiles (Nat.le_of_eq hthree)
    rwa [hp, List.take_of_length_le (by rw [Vector.length_toList, hthree])] at htake
  refine ⟨slices source headerBytes (recordLengths source), htoList ▸ hrecords, hp ▸ hroster, ?_⟩
  generalize hslices : slices source headerBytes (recordLengths source) = records at hmap
  have hfst : (records.map fun record => (record.length, record)).map Prod.fst =
      recordLengths source := by
    rw [List.map_map, ← hmap]
    rfl
  have hsnd : (records.map fun record => (record.length, record)).map Prod.snd = records := by
    rw [List.map_map]
    exact List.map_id _
  have htotal : headerBytes + (records.map List.length).sum = source.length := by
    rw [hmap, hlength]
  have hcontainer : container source.length (readU32 source kCrcOffset)
      (records.map fun record => (record.length, record)) = source := by
    rw [container, hfst, hsnd, hlengths, ← hasEnvelope_iff.mp henvelope, flatten_slices, ← hslices,
      flatten_slices]
    have hall := flatten_slices source 0 [headerBytes, (recordLengths source).sum]
    simp only [slices, List.flatten_cons, List.flatten_nil, List.append_nil, Nat.zero_add,
      List.sum_cons, List.sum_nil, Nat.add_zero] at hall
    rw [← hlength, slice_all] at hall
    exact hall
  have hself : envelopeCrc (container source.length 0
      (records.map fun record => (record.length, record))) = readU32 source kCrcOffset := by
    rw [← envelopeCrc_container _ (readU32 source kCrcOffset), hcontainer, hcrc]
  rw [containerOf, htotal, hself, hcontainer]

theorem decode_of_decodeContainer (h : decodeContainer source = .ok p) (destination : M4Profiles) :
    decode source destination = ({ status := .ok, bytes := source.length }, p) := by
  rw [decode, h]

/-- No error has the status of success. -/
theorem decodeContainer_ne_error : decodeContainer source ≠ .error .ok := by
  rw [decodeContainer]
  refine except_ite_ne (by decide) (except_ite_ne (by decide) (except_ite_ne (by decide)
    (except_ite_ne (by decide) (except_ite_ne (by decide) (except_ite_ne (by decide) ?_)))))
  split
  · exact fun h => absurd (Except.error.inj h) (by decide)
  · refine except_ite_ne (by decide) fun h => ?_
    cases h

/-- What is decoded, and what a failure leaves. -/
theorem decode_cases (source : Bytes) (destination : M4Profiles) :
    (∃ p, decodeContainer source = .ok p ∧
      decode source destination = ({ status := .ok, bytes := source.length }, p)) ∨
    ((decode source destination).1.success = false ∧ (decode source destination).2 = destination) := by
  cases hcontainer : decodeContainer source with
  | ok p => exact .inl ⟨p, rfl, decode_of_decodeContainer hcontainer destination⟩
  | error status =>
    have hstatus : status ≠ .ok := fun h => decodeContainer_ne_error (hcontainer.trans (h ▸ rfl))
    refine .inr ?_
    rw [decode, hcontainer]
    exact ⟨beq_false_of_ne hstatus, rfl⟩

end M4ThreeSvBinaryCodec

/-- **Both formats**: what has a size is decoded as it was encoded, what is decoded is encoded as
it was, and a container that is not decoded leaves the roster of the caller. -/
theorem device_formats :
    (∀ (profile : CompiledSvDeviceProfile) (size : Nat), profile.Canonical →
      SvDeviceProfileBinaryCodec.encodedSize profile = some size →
      ∃ bytes : Bytes,
        (∀ capacity, size ≤ capacity → SvDeviceProfileBinaryCodec.encodeInto profile capacity =
          ({ status := .ok, bytes := size }, bytes)) ∧
        SvDeviceProfileBinaryCodec.decode bytes = ({ status := .ok, bytes := size }, profile)) ∧
    (∀ source : Bytes, (SvDeviceProfileBinaryCodec.decode source).1.success = true →
      (SvDeviceProfileBinaryCodec.decode source).2.Canonical ∧
      ∀ capacity, source.length ≤ capacity →
        SvDeviceProfileBinaryCodec.encodeInto (SvDeviceProfileBinaryCodec.decode source).2
          capacity = ({ status := .ok, bytes := source.length }, source)) ∧
    (∀ (p : M4Profiles) (size : Nat), (∀ profile ∈ p.toList, profile.Canonical) →
      M4ThreeSvBinaryCodec.encodedSize p = some size →
      ∃ bytes : Bytes,
        (∀ capacity, size ≤ capacity → M4ThreeSvBinaryCodec.encodeInto p capacity =
          ({ status := .ok, bytes := size }, bytes)) ∧
        ∀ destination, M4ThreeSvBinaryCodec.decode bytes destination =
          ({ status := .ok, bytes := size }, p)) ∧
    (∀ (source : Bytes) (destination : M4Profiles),
      (M4ThreeSvBinaryCodec.decode source destination).1.success = true →
      (∀ profile ∈ (M4ThreeSvBinaryCodec.decode source destination).2.toList,
        profile.Canonical) ∧
      ∀ capacity, source.length ≤ capacity →
        M4ThreeSvBinaryCodec.encodeInto (M4ThreeSvBinaryCodec.decode source destination).2
          capacity = ({ status := .ok, bytes := source.length }, source)) ∧
    (∀ (source : Bytes) (destination : M4Profiles),
      (M4ThreeSvBinaryCodec.decode source destination).1.success = false →
      (M4ThreeSvBinaryCodec.decode source destination).2 = destination) := by
  refine ⟨fun profile size hcanonical hsize => ?_, fun source hsuccess => ?_,
    fun p size hcanonical hsize => ?_, fun source destination hsuccess => ?_,
    fun source destination hfailure => ?_⟩
  · obtain ⟨hlength, hdecode⟩ := SvDeviceProfileBinaryCodec.decodeRecord_record hcanonical hsize
    generalize SvDeviceProfileBinaryCodec.record profile size _ = bytes at hlength hdecode
    obtain rfl := hlength
    exact ⟨bytes, fun _ => SvDeviceProfileBinaryCodec.encodeInto_of_decodeRecord hdecode,
      SvDeviceProfileBinaryCodec.decode_of_decodeRecord hdecode⟩
  · have hdecode := SvDeviceProfileBinaryCodec.decodeRecord_of_success hsuccess
    exact ⟨(SvDeviceProfileBinaryCodec.decodeRecord_iff.mp hdecode).1,
      fun _ => SvDeviceProfileBinaryCodec.encodeInto_of_decodeRecord hdecode⟩
  · rw [M4ThreeSvBinaryCodec.encodedSize, Option.ite_none_left_eq_some, Bool.not_eq_true',
      Bool.not_eq_false] at hsize
    obtain ⟨hroster, hsize⟩ := hsize
    obtain ⟨records, hrecords, htotal⟩ :=
      M4ThreeSvBinaryCodec.records_of_addSizes hcanonical hsize
    obtain ⟨_, _, _, -, -, -, hlength⟩ := M4ThreeSvBinaryCodec.containerOf_three hrecords
    rw [← htotal] at hlength
    obtain rfl := hlength
    have hdecode := M4ThreeSvBinaryCodec.decodeContainer_of_records hrecords hroster
    exact ⟨_, fun _ => M4ThreeSvBinaryCodec.encodeInto_of_records hrecords hroster,
      M4ThreeSvBinaryCodec.decode_of_decodeContainer hdecode⟩
  · rcases M4ThreeSvBinaryCodec.decode_cases source destination with ⟨p, hp, hdecode⟩ | ⟨hno, -⟩
    · obtain ⟨records, hrecords, hroster, hsource⟩ :=
        M4ThreeSvBinaryCodec.records_of_decodeContainer hp
      rw [hdecode]
      refine ⟨?_, fun capacity hcapacity => ?_⟩
      · intro profile hprofile
        obtain ⟨record, -, hrecord⟩ := M4ThreeSvBinaryCodec.record_of_mem hrecords hprofile
        exact (SvDeviceProfileBinaryCodec.decodeRecord_iff.mp hrecord).1
      · have hencode := M4ThreeSvBinaryCodec.encodeInto_of_records hrecords hroster
          (hsource ▸ hcapacity)
        rwa [hsource] at hencode
    · rw [hno] at hsuccess
      exact Bool.noConfusion hsuccess
  · rcases M4ThreeSvBinaryCodec.decode_cases source destination with ⟨p, -, hdecode⟩ | ⟨-, hkept⟩
    · rw [hdecode] at hfailure
      exact Bool.noConfusion hfailure
    · exact hkept

/-- Four currents and four voltages, each with its quality. -/
def fourPairs (appId : UInt16) : CompiledSvDeviceProfile where
  profileFamily := .legacy_9_2le
  destinationMac := padded 6 0 [0x01, 0x0C, 0xCD, 0x04, 0x00, 0x01]
  appId
  samplingBasis := .samplesPerSecond
  configuredSampleRate := 4000
  frameRateHz := 4000
  sampleCounterModulus := 4000
  noAsdu := 1
  asduOptions := { elementPresent := true, sampleSynchronized := true }
  payloadSizeBytes := 64
  svIdLength := 2
  svId := padded _ 0 [0x4D, 0x55]
  leafCount := 16
  leaves := padded _ {} ((List.range 8).flatMap fun _ =>
    [{ wireType := .int32, wireWidthBytes := 4 },
      { wireType := .quality, wireWidthBytes := 4, quality := true }])

theorem canonical_fourPairs (appId : UInt16) : (fourPairs appId).Canonical where
  svId _ hi hle := getElem_padded_of_le _ hi hle
  dataSetReference _ hi hle := getElem_padded_of_le _ hi hle
  leaves _ hi hle := getElem_padded_of_le _ hi hle

/-- Three of them have a container of 412 octets. -/
theorem device_formats_threeStreams :
    let p : M4Profiles := #v[fourPairs 0x4000, fourPairs 0x4001, fourPairs 0x4002]
    M4ThreeSvBinaryCodec.encodedSize p = some 412 ∧
      ∃ bytes : Bytes, ∀ destination, M4ThreeSvBinaryCodec.decode bytes destination =
        ({ status := .ok, bytes := 412 }, p) := by
  intro p
  have hsize : M4ThreeSvBinaryCodec.encodedSize p = some 412 := by decide
  have hcanonical : ∀ profile ∈ p.toList, profile.Canonical := by
    intro profile hprofile
    have hmem : profile ∈ [fourPairs 0x4000, fourPairs 0x4001, fourPairs 0x4002] := hprofile
    rw [List.mem_cons, List.mem_cons, List.mem_singleton] at hmem
    rcases hmem with rfl | rfl | rfl <;> exact canonical_fourPairs _
  obtain ⟨bytes, -, hdecode⟩ := device_formats.2.2.1 p 412 hcanonical hsize
  exact ⟨hsize, bytes, hdecode⟩

end ArStack.SampledValues
