import ArStack.Spec.BrcbStateCodec

/-!
# Accepted images are canonical

* `take_eq_encodeHeader` — the header of an accepted format 2 image is the one the encoder
  writes for the values read from it
* `encodeEntry_loadEntry` — an entry that passes the check is the one the encoder writes for the
  slot it is loaded into
* `checkEntries_ok` — the checked octets are the loaded slots, encoded
-/

namespace ArStack.Mms

open ArStack.Lib

/-! ## Reading and writing the same octets -/

theorem slice_add (source : Bytes) (offset m n : Nat) :
    slice source offset (m + n) = slice source offset m ++ slice source (offset + m) n := by
  rw [slice, slice, slice, List.take_add, List.drop_drop]

theorem beOctets_readAt {source : Bytes} {offset width : Nat}
    (h : offset + width ≤ source.length) :
    beOctets width (readAt source offset width) = slice source offset width := by
  have hback := beOctets_beValue (slice source offset width)
  rwa [length_slice h] at hback

theorem slice_succ {source : Bytes} {offset n : Nat} (h : offset < source.length) :
    slice source offset (n + 1) = octetAt source offset :: slice source (offset + 1) n := by
  rw [slice, slice, List.drop_eq_getElem_cons h, List.take_succ_cons, octetAt,
    List.getD_eq_getElem?_getD, List.getElem?_eq_getElem h, Option.getD_some]

/-- Four octets, one by one. -/
theorem slice_four {source : Bytes} {offset : Nat} (h : offset + 4 ≤ source.length) :
    slice source offset 4 = [octetAt source offset, octetAt source (offset + 1),
      octetAt source (offset + 2), octetAt source (offset + 3)] := by
  rw [slice_succ (by omega), slice_succ (by omega), slice_succ (by omega), slice_succ (by omega)]
  rfl

theorem readAt_lt {source : Bytes} {offset width : Nat} (h : offset + width ≤ source.length) :
    readAt source offset width < 256 ^ width := by
  have hlt := beValue_lt (slice source offset width)
  rwa [length_slice h] at hlt

/-- An octet that is not above one is its flag. -/
theorem flag_of_le_one {octet : UInt8} (h : octet ≤ 1) :
    (if octet != 0 then 1 else 0) = octet := by
  have hle : octet.toNat ≤ 1 := h
  obtain hzero | hone : octet.toNat = 0 ∨ octet.toNat = 1 := by omega
  · obtain rfl : octet = 0 := UInt8.toNat_inj.mp hzero
    rfl
  · obtain rfl : octet = 1 := UInt8.toNat_inj.mp hone
    rfl

/-- An octet with no bit but the lowest is not above one. -/
theorem le_one_of_and_not_one :
    ∀ octet : UInt8, octet &&& ~~~1 = 0 → octet &&& 1 = octet ∧ octet ≤ 1 := by
  have hall : ∀ i : Fin 256, UInt8.ofNat i &&& ~~~1 = 0 →
      UInt8.ofNat i &&& 1 = UInt8.ofNat i ∧ UInt8.ofNat i ≤ 1 := by decide +kernel
  intro octet
  have hoctet := hall ⟨octet.toNat, octet.toNat_lt⟩
  rwa [UInt8.ofNat_toNat] at hoctet

namespace MmsStaticBrcbStateCodec

open MmsStaticBrcbRuntime MmsStaticBrcbSlot

/-! ## The header -/

/-- The fields of a format 2 header, in their order. -/
theorem take_headerBytesV2 (source : Bytes) :
    source.take headerBytesV2 = slice source 0 8 ++ slice source 8 2 ++ slice source 10 2 ++
      slice source 12 8 ++ slice source 20 4 ++ slice source 24 8 ++ slice source 32 8 ++
      slice source 40 4 ++ slice source 44 4 ++ slice source 48 8 := by
  rw [← slice_add, ← slice_add, ← slice_add, ← slice_add, ← slice_add, ← slice_add, ← slice_add,
    ← slice_add, ← slice_add]
  rfl

/-- What the format and the reserved octets of an accepted format 2 image say. -/
structure HeaderV2 (source : Bytes) : Prop where
  length_ge : headerBytesV2 ≤ source.length
  magic : slice source 0 8 = magicV2
  version : readAt source 8 2 = formatVersion
  headerBytes : readAt source 10 2 = headerBytesV2
  flags : octetAt source 41 &&& ~~~replayGapFlag = 0
  reserved : octetAt source 42 = 0 ∧ octetAt source 43 = 0
  padding : slice source 48 8 = List.replicate 8 0

theorem headerV2_of_isV2 {source : Bytes} (hv2 : isV2 source = true)
    (hreserved : reservedV2 source = true) : HeaderV2 source := by
  simp only [isV2, isFormat, magicMatches, Bool.and_eq_true, decide_eq_true_eq, beq_iff_eq] at hv2
  simp only [reservedV2, Bool.and_eq_true, beq_iff_eq, List.all_eq_true] at hreserved
  obtain ⟨⟨⟨hlen, -, hmagic⟩, hversion⟩, hheader⟩ := hv2
  obtain ⟨⟨⟨hflags, h42⟩, h43⟩, hzero⟩ := hreserved
  have hsize : (slice source 48 8).length = 8 := length_slice (by rw [headerBytesV2] at hlen; omega)
  exact
    { length_ge := hlen
      magic := hmagic
      version := hversion
      headerBytes := hheader
      flags := hflags
      reserved := ⟨h42, h43⟩
      padding := List.eq_replicate_iff.mpr ⟨hsize, hzero⟩ }

/-- **The header of an accepted image is the one the encoder writes.** -/
theorem take_eq_encodeHeader {source : Bytes} (h : HeaderV2 source) {rt : MmsStaticBrcbRuntime}
    {fingerprint : UInt64} (hfingerprint : readAt source 12 8 = fingerprint.toNat)
    (hcount : rt.count = readAt source 20 4)
    (hnext : rt.nextEntryNumber = UInt64.ofNat (readAt source 24 8))
    (hdropped : rt.droppedReports = UInt64.ofNat (readAt source 32 8))
    (hsequence : rt.sequenceNumber = octetAt source 40)
    (hgap : rt.replayGap = (octetAt source 41 &&& replayGapFlag != 0))
    (hoffset : rt.deliveryOffset = readAt source 44 4) :
    encodeHeader fingerprint rt = source.take headerBytesV2 := by
  have hlen : 56 ≤ source.length := h.length_ge
  have hwide : ∀ offset, offset + 8 ≤ 56 →
      beOctets 8 (UInt64.ofNat (readAt source offset 8)).toNat = slice source offset 8 := by
    intro offset hoffset
    have hlt : readAt source offset 8 < 2 ^ 64 := readAt_lt (by omega)
    rw [UInt64.toNat_ofNat', Nat.mod_eq_of_lt hlt, beOctets_readAt (by omega)]
  have hflags : (if rt.replayGap then replayGapFlag else 0) = octetAt source 41 := by
    obtain ⟨hbit, hle⟩ := le_one_of_and_not_one _ h.flags
    rw [hgap, replayGapFlag, hbit]
    exact flag_of_le_one hle
  have hbits : slice source 40 4 = [octetAt source 40, octetAt source 41, 0, 0] := by
    rw [slice_four (by omega), h.reserved.1, h.reserved.2]
  rw [encodeHeader, take_headerBytesV2, ← h.magic, ← h.version, ← h.headerBytes, ← hfingerprint,
    hcount, hnext, hdropped, hoffset, hflags, hsequence, ← h.padding, hwide 24 (by omega),
    hwide 32 (by omega), beOctets_readAt (by omega), beOctets_readAt (by omega),
    beOctets_readAt (by omega), beOctets_readAt (by omega), beOctets_readAt (by omega), hbits]

/-! ## The entries -/

/-- The entry at the front of `rest`, loaded into `home`. -/
def loadEntry (home : MmsStaticBrcbSlot) (rest : Bytes) : MmsStaticBrcbSlot :=
  let pduBytes := readAt rest 0 4
  let pdu := slice rest entryHeaderBytes pduBytes
  { home with
    storage := pdu ++ home.storage.drop pdu.length
    entryId := .ofFn fun i => octetAt rest (4 + i)
    bytes := pduBytes
    sequenceNumber := octetAt rest 12
    bufferOverflow := octetAt rest 13 != 0
    occupied := true }

theorem loadEntries_cons (home : MmsStaticBrcbSlot) (homes : List MmsStaticBrcbSlot) (count : Nat)
    (rest : Bytes) :
    loadEntries (home :: homes) (count + 1) rest =
      loadEntry home rest ::
        loadEntries homes count (rest.drop (entryHeaderBytes + readAt rest 0 4)) := rfl

/-- The octets at the front of `rest` that pass for an entry of a slot of this capacity. -/
structure EntryAt (rest : Bytes) (capacity : Nat) : Prop where
  length_ge : entryHeaderBytes + readAt rest 0 4 ≤ rest.length
  bytes_ne : readAt rest 0 4 ≠ 0
  bytes_le : readAt rest 0 4 ≤ capacity
  overflow : octetAt rest 13 ≤ 1
  reserved : octetAt rest 14 = 0 ∧ octetAt rest 15 = 0
  number_ne : decodeEntryId (slice rest 4 8) ≠ 0

section Loaded

variable {home : MmsStaticBrcbSlot} {rest : Bytes} (h : EntryAt rest home.storage.length)
include h

theorem toList_entryId : (loadEntry home rest).entryId.toList = slice rest 4 8 := by
  have hlen := h.length_ge
  rw [entryHeaderBytes] at hlen
  have hsize : (slice rest 4 8).length = 8 := length_slice (by omega)
  refine List.ext_getElem (by rw [hsize, Vector.length_toList]) fun i hi hi' => ?_
  have hlt : 4 + i < rest.length := by omega
  simp only [loadEntry, Vector.getElem_toList, Vector.getElem_ofFn, slice, List.getElem_take,
    List.getElem_drop, octetAt, List.getD_eq_getElem?_getD, List.getElem?_eq_getElem hlt,
    Option.getD_some]

theorem encodable_loadEntry : Encodable (loadEntry home rest) := by
  have hlen := h.length_ge
  rw [entryHeaderBytes] at hlen
  have hpdu : (slice rest entryHeaderBytes (readAt rest 0 4)).length = readAt rest 0 4 :=
    length_slice h.length_ge
  have hlt : readAt rest 0 4 < 256 ^ 4 := readAt_lt (by omega)
  have hstorage : readAt rest 0 4 ≤ (loadEntry home rest).storage.length := by
    rw [loadEntry, List.length_append, hpdu]
    omega
  have hnumber : (loadEntry home rest).entryNumber ≠ 0 := by
    rw [MmsStaticBrcbSlot.entryNumber, toList_entryId h]
    exact h.number_ne
  exact
    { holds := ⟨rfl, hstorage, hnumber⟩
      bytes_ne := h.bytes_ne
      bytes_le := Nat.le_of_lt_succ (Nat.lt_of_lt_of_le hlt (by decide)) }

/-- **A checked entry is the encoding of the slot it is loaded into.** -/
theorem encodeEntry_loadEntry :
    encodeEntry (loadEntry home rest) = rest.take (entryHeaderBytes + readAt rest 0 4) := by
  have hlen := h.length_ge
  rw [entryHeaderBytes] at hlen
  have hpdu : (loadEntry home rest).pdu = slice rest entryHeaderBytes (readAt rest 0 4) :=
    List.take_left' (length_slice h.length_ge)
  have hflag : (if (loadEntry home rest).bufferOverflow then 1 else 0) = octetAt rest 13 :=
    flag_of_le_one h.overflow
  have hbits : [octetAt rest 12, octetAt rest 13, 0, 0] = slice rest 12 4 := by
    rw [slice_four (by omega), h.reserved.1, h.reserved.2]
  have hbytes : beOctets 4 (loadEntry home rest).bytes = slice rest 0 4 :=
    beOctets_readAt (by omega)
  rw [encodeEntry, hpdu, toList_entryId h, hflag, hbytes]
  rw [show (loadEntry home rest).sequenceNumber = octetAt rest 12 from rfl, hbits, ← slice_add,
    ← slice_add]
  exact (slice_add rest 0 entryHeaderBytes _).symm

end Loaded

/-- The second entry has the number after the first's. -/
def NumberFollows (slot slot' : MmsStaticBrcbSlot) : Prop :=
  slot'.entryNumber = nextEntryNumber slot.entryNumber

/-- What the check of one entry finds. -/
theorem checkEntries_succ {slots : List MmsStaticBrcbSlot} {count logical : Nat}
    {last last' : LastEntry} {rest rest' : Bytes}
    (h : checkEntries slots (count + 1) logical last rest = .ok (last', rest')) :
    ∃ home, slots[logical]? = some home ∧ EntryAt rest home.storage.length ∧
      (logical ≠ 0 →
        decodeEntryId (slice rest 4 8) = nextEntryNumber last.entryNumber) ∧
      checkEntries slots count (logical + 1)
        ⟨decodeEntryId (slice rest 4 8), octetAt rest 12⟩
        (rest.drop (entryHeaderBytes + readAt rest 0 4)) = .ok (last', rest') := by
  rw [checkEntries] at h
  split at h
  · cases h
  rename_i hheader
  dsimp only at h
  split at h
  · cases h
  rename_i hfields
  split at h
  · cases h
  rename_i hfits
  split at h
  · cases h
  rename_i hnumber
  simp only [not_or, Decidable.not_not, Nat.not_lt, not_and] at hheader hfields hfits hnumber
  obtain ⟨hbytes, hoverflow, h14, h15, hcapacity⟩ := hfields
  cases hhome : slots[logical]? with
  | none =>
    rw [hhome] at hcapacity
    exact absurd (Nat.le_zero.mp hcapacity) hbytes
  | some home =>
    rw [hhome] at hcapacity
    refine ⟨home, rfl, ?_, hnumber.2, h⟩
    exact
      { length_ge := by omega
        bytes_ne := hbytes
        bytes_le := hcapacity
        overflow := UInt8.not_lt.mp hoverflow
        reserved := ⟨h14, h15⟩
        number_ne := hnumber.1 }

/-- **The checked octets are the loaded slots, encoded.** -/
theorem checkEntries_ok {slots homes : List MmsStaticBrcbSlot} {count logical : Nat}
    {last last' : LastEntry} {rest rest' : Bytes}
    (hhomes : homes.map (·.storage.length) = (slots.drop logical).map (·.storage.length))
    (h : checkEntries slots count logical last rest = .ok (last', rest')) :
    let loaded := (loadEntries homes count rest).take count
    loaded.length = count ∧ rest = loaded.flatMap encodeEntry ++ rest' ∧
      (∀ slot ∈ loaded, Encodable slot) ∧ loaded.IsChain NumberFollows ∧
      (logical ≠ 0 → ∀ slot ∈ loaded.head?, slot.entryNumber = nextEntryNumber last.entryNumber) ∧
      last' = lastOf last loaded ∧
      (loadEntries homes count rest).map (·.storage.length) = homes.map (·.storage.length) := by
  induction count generalizing homes logical last rest with
  | zero =>
    rw [checkEntries] at h
    have hnone : loadEntries homes 0 rest = homes := by cases homes <;> rfl
    cases h
    simp [lastOf, hnone]
  | succ count ih =>
    obtain ⟨home', hhome', hentry', hfirst, hrest⟩ := checkEntries_succ h
    have hlt := (List.getElem?_eq_some_iff.mp hhome').1
    rw [List.drop_eq_getElem_cons hlt, List.map_cons] at hhomes
    cases homes with
    | nil => cases hhomes
    | cons home homes =>
      obtain ⟨hsize, hhomes⟩ := List.cons.inj hhomes
      have hentry : EntryAt rest home.storage.length := by
        rw [(List.getElem?_eq_some_iff.mp hhome').2] at hsize
        rw [show home.storage.length = home'.storage.length from hsize]
        exact hentry'
      have hnumber : (loadEntry home rest).entryNumber = decodeEntryId (slice rest 4 8) := by
        rw [MmsStaticBrcbSlot.entryNumber, toList_entryId hentry]
      obtain ⟨hlen, hocts, hall, hchain, hhead, hlast, hsizes⟩ := ih hhomes hrest
      simp only [loadEntries_cons, List.take_succ_cons]
      refine ⟨by rw [List.length_cons, hlen], ?_, ?_, ?_, ?_, ?_, ?_⟩
      · rw [List.flatMap_cons, List.append_assoc, ← hocts, encodeEntry_loadEntry hentry,
          List.take_append_drop]
      · intro slot hslot
        rcases List.mem_cons.mp hslot with rfl | hslot
        · exact encodable_loadEntry hentry
        · exact hall slot hslot
      · rw [List.isChain_cons]
        refine ⟨fun slot hslot => ?_, hchain⟩
        rw [NumberFollows, hnumber]
        exact hhead (by omega) slot hslot
      · intro hne slot hslot
        cases hslot
        rw [hnumber]
        exact hfirst hne
      · rw [hlast, lastOf, lastOf, List.foldl_cons, hnumber]
        rfl
      · have hpdu : (slice rest entryHeaderBytes (readAt rest 0 4)).length = readAt rest 0 4 :=
          length_slice hentry.length_ge
        have hsame : (loadEntry home rest).storage.length = home.storage.length := by
          have hle := hentry.bytes_le
          rw [loadEntry, List.length_append, hpdu, List.length_drop]
          omega
        rw [List.map_cons, List.map_cons, hsizes, hsame]

end MmsStaticBrcbStateCodec

end ArStack.Mms
