import ArStack.SampledValues.FrameCodec
import ArStack.Spec.SynchWalk

/-!
# The octet that the locator finds

* `frame_split` — a frame that is decoded, in its front, its header and its APDU
* `locates_first_iff` — when the offset is that of the first ASDU
-/

namespace ArStack.SampledValues

open ArStack.Asn1 ArStack.Lib ArStack.Ethernet BerReader WireFieldDetail

/-! ## The frame -/

theorem readU16Be_behind (front back : Bytes) (offset : Nat) :
    readU16Be (front ++ back) (front.length + offset) = readU16Be back offset := by
  rw [readU16Be, readU16Be, readAt, readAt, slice_append_right _ _ _ (Nat.le_add_right _ _),
    Nat.add_sub_cancel_left]

/-- The addresses and the type of a frame of sampled values, with a tag or without. -/
def IsFront (front : Bytes) : Prop :=
  (front.length = 14 ∧ readU16Be front 12 = sampledValuesEthertype) ∨
    (front.length = 18 ∧ readU16Be front 12 = vlanTagEthertype ∧
      readU16Be front 16 = sampledValuesEthertype)

theorem ethernet_append {front : Bytes} (h : IsFront front) (payload : Bytes) :
    EthernetFrameCodec.tryDecode (front ++ payload) =
      (EthernetFrameCodec.tryDecode front).map fun ethernet => { ethernet with payload } := by
  rcases h with ⟨hlength, htype⟩ | ⟨hlength, htag, htype⟩
  · have hne : sampledValuesEthertype ≠ vlanTagEthertype := by decide
    rw [EthernetFrameCodec.tryDecode, EthernetFrameCodec.tryDecode,
      if_neg (by rw [List.length_append]; omega), if_neg (by omega),
      List.take_append_of_le_length (by omega), List.drop_append_of_le_length (by omega),
      List.take_append_of_le_length (by rw [List.length_drop]; omega),
      readU16Be_append (by omega), htype, List.drop_left' hlength]
    cases OctetArray.ofSpan 6 (front.take 6) with
    | none => rfl
    | some destination =>
      cases OctetArray.ofSpan 6 ((front.drop 6).take 6) with
      | none => rfl
      | some source =>
        dsimp only
        rw [if_neg hne, if_neg hne]
        rfl
  · rw [EthernetFrameCodec.tryDecode, EthernetFrameCodec.tryDecode,
      if_neg (by rw [List.length_append]; omega), if_neg (by omega),
      List.take_append_of_le_length (by omega), List.drop_append_of_le_length (by omega),
      List.take_append_of_le_length (by rw [List.length_drop]; omega),
      readU16Be_append (by omega), readU16Be_append (by omega), readU16Be_append (by omega), htag,
      htype, List.drop_left' hlength]
    cases OctetArray.ofSpan 6 (front.take 6) with
    | none => rfl
    | some destination =>
      cases OctetArray.ofSpan 6 ((front.drop 6).take 6) with
      | none => rfl
      | some source =>
        have hlong : ¬front.length < 18 := by omega
        have hlong' : ¬(front ++ payload).length < 18 := by
          rw [List.length_append]
          omega
        dsimp only
        rw [if_pos rfl, if_pos rfl, if_neg hlong', if_neg hlong]
        split <;> rfl

/-- A frame of sampled values, in its front and its payload. -/
theorem ethernet_split {frame : Bytes} {ethernet : EthernetFrame}
    (h : EthernetFrameCodec.tryDecode frame = some ethernet)
    (htype : ethernet.etherType = sampledValuesEthertype) :
    ∃ front, frame = front ++ ethernet.payload ∧ IsFront front := by
  rw [EthernetFrameCodec.tryDecode, Option.ite_none_left_eq_some] at h
  obtain ⟨hlength, h⟩ := h
  split at h
  swap
  · cases h
  dsimp only at h
  split at h
  · rename_i htag
    rw [Option.ite_none_left_eq_some] at h
    obtain ⟨hlength', h⟩ := h
    rw [Option.ite_none_left_eq_some] at h
    obtain rfl := Option.some.inj h.2
    have hfront : (frame.take 18).length = 18 := by
      rw [List.length_take]
      omega
    have hread : ∀ offset, offset + 2 ≤ 18 →
        readU16Be (frame.take 18) offset = readU16Be frame offset := by
      intro offset hoffset
      rw [← readU16Be_append (by omega) (frame.drop 18), List.take_append_drop]
    exact ⟨frame.take 18, (List.take_append_drop 18 frame).symm,
      .inr ⟨hfront, (hread 12 (by decide)).trans htag, (hread 16 (by decide)).trans htype⟩⟩
  · obtain rfl := Option.some.inj h
    have hfront : (frame.take 14).length = 14 := by
      rw [List.length_take]
      omega
    have hread : readU16Be (frame.take 14) 12 = readU16Be frame 12 := by
      rw [← readU16Be_append (by omega) (frame.drop 14), List.take_append_drop]
    exact ⟨frame.take 14, (List.take_append_drop 14 frame).symm, .inl ⟨hfront, hread.trans htype⟩⟩

theorem ethernet_type {front : Bytes} {ethernet : EthernetFrame} (h : IsFront front)
    (hdecode : EthernetFrameCodec.tryDecode front = some ethernet) :
    ethernet.etherType = sampledValuesEthertype := by
  rw [EthernetFrameCodec.tryDecode, Option.ite_none_left_eq_some] at hdecode
  obtain ⟨-, hdecode⟩ := hdecode
  split at hdecode
  swap
  · cases hdecode
  have hne : sampledValuesEthertype ≠ vlanTagEthertype := by decide
  dsimp only at hdecode
  rcases h with ⟨-, htype⟩ | ⟨-, htag, htype⟩
  · rw [htype, if_neg hne] at hdecode
    exact Option.some.inj hdecode ▸ rfl
  · rw [htag, if_pos rfl, Option.ite_none_left_eq_some, Option.ite_none_left_eq_some] at hdecode
    exact Option.some.inj hdecode.2.2 ▸ htype

/-- The frame with this PDU. -/
def frameOf (ethernet : EthernetFrame) (header : Bytes) (pdu : SampledValuesPdu) :
    SampledValuesFrame where
  destination := ethernet.destination
  source := ethernet.source
  vlan := ethernet.vlan
  appId := readU16Be header 0
  reserved1 := readU16Be header 4
  reserved2 := readU16Be header 6
  pdu

section Frame

variable {front header apdu : Bytes} {ethernet : EthernetFrame}

theorem busFrame_append (hfront : IsFront front)
    (hread : EthernetFrameCodec.tryDecode front = some ethernet)
    (hheader : IsBusHeader header apdu.length) (trailing : Bytes) :
    ((EthernetFrameCodec.tryDecode (front ++ (header ++ (apdu ++ trailing)))).bind
      ProcessBusFrameCodec.tryDecode).map ProcessBusFrame.apdu = some apdu := by
  rw [ethernet_append hfront, hread, Option.map_some, Option.bind_some,
    processBus_append ethernet trailing hheader, Option.map_some]

/-- **A frame in its parts** is decoded as its APDU is. -/
theorem frame_append (hfront : IsFront front)
    (hread : EthernetFrameCodec.tryDecode front = some ethernet)
    (hheader : IsBusHeader header apdu.length) (trailing : Bytes) :
    SampledValuesFrameCodec.tryDecode (front ++ (header ++ (apdu ++ trailing))) =
      (SampledValuesPduCodec.tryDecode apdu).map (frameOf ethernet header) := by
  have htype := ethernet_type hfront hread
  have hdeclared : ¬(readU16Be header 2).toNat < ProcessBusFrameCodec.headerLength := by
    rw [hheader.2]
    exact Nat.not_lt.mpr (Nat.le_add_right 8 _)
  rw [SampledValuesFrameCodec.tryDecode, ethernet_append hfront, hread, Option.map_some]
  show (if _ then none else _) = _
  rw [if_neg (not_not_intro htype), processBus_append ethernet trailing hheader]
  show (if _ then none else _) = _
  rw [if_neg hdeclared]
  cases SampledValuesPduCodec.tryDecode apdu <;> rfl

/-- **A frame that is decoded**, in its parts. -/
theorem frame_split {frame : Bytes} {decoded : SampledValuesFrame}
    (h : SampledValuesFrameCodec.tryDecode frame = some decoded) :
    ∃ front header apdu trailing ethernet pdu, frame = front ++ (header ++ (apdu ++ trailing)) ∧
      IsFront front ∧ EthernetFrameCodec.tryDecode front = some ethernet ∧
      IsBusHeader header apdu.length ∧ SampledValuesPduCodec.tryDecode apdu = some pdu ∧
      decoded = frameOf ethernet header pdu := by
  obtain ⟨whole, hethernet, hsampled⟩ := Option.bind_eq_some_iff.mp h
  rw [Option.ite_none_left_eq_some] at hsampled
  obtain ⟨htype, hsampled⟩ := hsampled
  rw [ne_eq, Decidable.not_not] at htype
  obtain ⟨processBus, hbus, hsampled⟩ := Option.bind_eq_some_iff.mp hsampled
  rw [Option.ite_none_left_eq_some] at hsampled
  obtain ⟨front, rfl, hfront⟩ := ethernet_split hethernet htype
  obtain ⟨header, trailing, hpayload, hheader⟩ :=
    processBus_split hbus (Nat.le_of_not_lt hsampled.1)
  rw [ethernet_append hfront] at hethernet
  obtain ⟨ethernet, hread, -⟩ := Option.map_eq_some_iff.mp hethernet
  rw [hpayload, frame_append hfront hread hheader] at h
  obtain ⟨pdu, hpdu, hdecoded⟩ := Option.map_eq_some_iff.mp h
  exact ⟨front, header, processBus.apdu, trailing, ethernet, pdu, by rw [hpayload], hfront, hread,
    hheader, hpdu, hdecoded.symm⟩

theorem skipVlanTags_append (hfront : IsFront front) (back : Bytes) :
    skipVlanTags (front ++ back) 2 (readU16Be (front ++ back) 12) 12 =
      some (kSampledValuesEtherType, front.length - 2) := by
  rcases hfront with ⟨hlength, htype⟩ | ⟨hlength, htag, htype⟩
  · rw [readU16Be_append (by omega), htype, skipVlanTags, if_neg (by decide), hlength]
    rfl
  · have hoffset : 12 + kVlanHeaderBytes = 16 := rfl
    have hlong : ¬16 + 2 > (front ++ back).length := by
      rw [List.length_append]
      omega
    rw [readU16Be_append (by omega), htag, skipVlanTags, if_pos (by decide)]
    dsimp only
    rw [hoffset, if_neg hlong, readU16Be_append (by omega), htype, skipVlanTags,
      if_neg (by decide), hlength]
    rfl

/-- **The locator on a frame in its parts.** -/
theorem find_append (hfront : IsFront front) (hheader : IsBusHeader header apdu.length)
    {trailing frame : Bytes} (hframe : frame = front ++ (header ++ (apdu ++ trailing)))
    {offset : Nat} (h : findSmpSynchValueOffset frame = some offset) :
    ∃ view, readBerTlv frame (front.length + 8) (front.length + 8 + apdu.length) = some view ∧
      findInPdu frame view.endOffset frame.length view.valueOffset = some (some offset) := by
  obtain ⟨hheader, hdeclared⟩ := hheader
  have hlength : 2 ≤ front.length := by
    rcases hfront with ⟨hlength, -⟩ | ⟨hlength, -⟩ <;> omega
  have hskip := skipVlanTags_append hfront (header ++ (apdu ++ trailing))
  rw [← hframe] at hskip
  have hread : readU16Be frame (front.length - 2 + 2 + 2) = readU16Be header 2 := by
    rw [hframe, Nat.sub_add_cancel hlength, readU16Be_behind, readU16Be_append (by omega)]
  have hbus : kProcessBusHeaderBytes = 8 := rfl
  rw [findSmpSynchValueOffset, Option.ite_none_left_eq_some, hskip] at h
  dsimp only at h
  rw [if_neg (not_not_intro rfl), Option.ite_none_left_eq_some, hread, hdeclared,
    Nat.sub_add_cancel hlength, hbus, Option.ite_none_left_eq_some, ← Nat.add_assoc] at h
  obtain ⟨-, -, -, h⟩ := h
  cases hview : readBerTlv frame (front.length + 8) (front.length + 8 + apdu.length) with
  | none =>
    rw [hview] at h
    cases h
  | some view =>
    rw [hview] at h
    dsimp only at h
    rw [Option.ite_none_left_eq_some, Option.join_eq_some_iff] at h
    exact ⟨view, rfl, h.2⟩

end Frame

/-! ## Another octet in its place -/

/-- The value of the PDU is read as these ASDUs. -/
def ReadsPdu (value : Bytes) (pdu : SampledValuesPdu) : Prop :=
  ∃ fields, Children value fields ∧ (∀ field ∈ fields, Readable field) ∧
    List.Forall₂ ReadsAsdu (asduTlvs fields) pdu.asdus ∧
    ∀ count ∈ fields.foldl countOf none, pdu.asdus.length = count.toNat

theorem pdu_tryDecode_header {header value : Bytes} {outer : BerTlv} (hheader : IsHeader header outer)
    (hlength : value.length = outer.value.length)
    (hexpected : outer.tagClass = .application ∧ outer.tagNumber = 0 ∧ outer.constructed = true)
    (pdu : SampledValuesPdu) :
    SampledValuesPduCodec.tryDecode (header ++ value) = some pdu ↔ ReadsPdu value pdu := by
  have hread := hheader value [] hlength
  rw [List.append_nil] at hread
  rw [pdu_tryDecode_eq_some, hread]
  constructor
  · rintro ⟨_, fields, houter, -, hfields, hreads⟩
    obtain ⟨rfl, -⟩ := Prod.mk.inj (Option.some.inj houter)
    exact ⟨fields, children_of_readChildren hfields, hreads⟩
  · rintro ⟨fields, hfields, hreads⟩
    exact ⟨_, fields, rfl, hexpected, readChildren_of_children hfields, hreads⟩

/-- The octet in its ASDU, and the PDU with another octet there. -/
structure SynchPatch (pdu : BerTlv) (offset : Nat) (octet : UInt8) where
  passed : List BerTlv
  asdu : BerTlv
  rest : List BerTlv
  before : List BerTlv
  field : BerTlv
  after : List BerTlv
  old : UInt8
  fields : List BerTlv
  value' : Bytes
  fields' : List BerTlv
  asduValue' : Bytes
  noSynch : ∀ other ∈ passed, NoSynch other
  other : ∀ other ∈ before, isSmpSynch other = false
  synch : isSmpSynch field = true
  octetOf : field.value = [old]
  stands : Patches pdu.value pdu.value offset [old]
  children : Children pdu.value fields
  asdus : asduTlvs fields = passed ++ asdu :: rest
  asduFields : Children asdu.value (before ++ field :: after)
  patches : Patches pdu.value value' offset [octet]
  children' : Children value' fields'
  asdus' : asduTlvs fields' = passed ++ { asdu with value := asduValue' } :: rest
  asduFields' : Children asduValue' (before ++ { field with value := [octet] } :: after)
  readable : (∀ field ∈ fields, Readable field) → ∀ field ∈ fields', Readable field
  counts : fields'.foldl countOf none = fields.foldl countOf none

theorem inPdu_patch {pdu : BerTlv} {offset : Nat} (h : InPdu pdu offset) (octet : UInt8) :
    Nonempty (SynchPatch pdu offset octet) := by
  obtain ⟨beforeFields, sequence, afterFields, outer, _, hpassed, hsequence, hin, hsequenceAt,
    rfl⟩ := h
  obtain ⟨beforeAsdus, asdu, afterAsdus, middle, inner, hasdus, hin, hasduAt, rfl⟩ := hin
  obtain ⟨before, field, after, hbefore, hsynch, hlength, hfieldAt⟩ := hin
  obtain ⟨old, hold⟩ := List.length_eq_one_iff.mp hlength
  have hself : Patches field.value field.value 0 [old] := hold ▸ .self rfl
  have hnew : Patches field.value [octet] 0 [octet] := .self hlength
  obtain ⟨asduValue', hasduPatch, hfieldAt'⟩ := hfieldAt.patch hnew
  obtain ⟨sequenceValue', hsequencePatch, hasduAt'⟩ := hasduAt.patch hasduPatch
  obtain ⟨value', hpatch, hsequenceAt'⟩ := hsequenceAt.patch hsequencePatch
  have hsequence' : isAsduSequence { sequence with value := sequenceValue' } = true := hsequence
  have hread' := readChildren_of_children hasduAt'.children
  have hnotCount : isAsduCount sequence = false := by
    cases hcount : isAsduCount sequence with
    | false => rfl
    | true => exact absurd hsequence (by rw [not_sequence_of_count hcount]; exact Bool.false_ne_true)
  refine ⟨asduTlvs beforeFields ++ beforeAsdus, asdu, afterAsdus ++ asduTlvs afterFields, before,
    field, after, old, _, value', _, asduValue', ?_, hbefore, hsynch, hold,
    hsequenceAt.part (hasduAt.part (hfieldAt.part hself)), hsequenceAt.children, ?_,
    hfieldAt.children, hpatch, hsequenceAt'.children, ?_, hfieldAt'.children, ?_, ?_⟩
  · intro other hother
    rcases List.mem_append.mp hother with hother | hother
    · exact hpassed other hother
    · exact hasdus other hother
  · rw [asduTlvs_append, asduTlvs_sequence hsequence (readChildren_of_children hasduAt.children)]
    simp only [List.append_assoc, List.cons_append]
  · rw [asduTlvs_append, asduTlvs_sequence hsequence' hread']
    simp only [List.append_assoc, List.cons_append]
  · intro hreadable other hother
    rcases List.mem_append.mp hother with hother | hother
    · exact hreadable other (List.mem_append_left _ hother)
    rcases List.mem_cons.mp hother with rfl | hother
    · refine ⟨fun hcount => ?_, fun _ => ⟨_, hread'⟩⟩
      have hcount : isAsduCount sequence = true := hcount
      rw [hnotCount] at hcount
      cases hcount
    · exact hreadable other (List.mem_append_right _ (List.mem_cons_of_mem _ hother))
  · have hskip : ∀ value count, countOf count { sequence with value } = count := fun value count =>
      if_neg (by rw [Bool.not_eq_true]; exact hnotCount)
    rw [List.foldl_append, List.foldl_append, List.foldl_cons, List.foldl_cons, hskip]
    congr 1
    exact (hskip sequence.value _).symm

/-! ## The first ASDU -/

/-- The fields of the first of the ASDUs that carry `smpSynch`. -/
def synchFieldsOf : List BerTlv → List BerTlv
  | [] => []
  | asdu :: _ => (childrenOf asdu.value).filter isSmpSynch

namespace SynchPatch

variable {pdu : BerTlv} {offset : Nat} {octet : UInt8} {decoded : SampledValuesPdu}

theorem asdusOf (patch : SynchPatch pdu offset octet) :
    asduTlvs (childrenOf pdu.value) = patch.passed ++ patch.asdu :: patch.rest := by
  rw [childrenOf_eq patch.children, patch.asdus]

theorem synchFieldsOf_asdu (patch : SynchPatch pdu offset octet) :
    synchFieldsOf (patch.asdu :: patch.rest) = patch.field :: patch.after.filter isSmpSynch := by
  rw [synchFieldsOf, childrenOf_eq patch.asduFields, List.filter_append,
    List.filter_eq_nil_iff.mpr, List.nil_append, List.filter_cons_of_pos patch.synch]
  intro other hother
  rw [patch.other other hother]
  exact Bool.false_ne_true

/-- The only synchronisation of the first ASDU is the one found. -/
theorem passed_eq_nil (patch : SynchPatch pdu offset octet)
    (h : (synchFieldsOf (asduTlvs (childrenOf pdu.value))).length = 1) : patch.passed = [] := by
  rw [patch.asdusOf] at h
  cases hpassed : patch.passed with
  | nil => rfl
  | cons first others =>
    have hfirst : NoSynch first := patch.noSynch first (hpassed ▸ List.mem_cons_self)
    have hnone : (childrenOf first.value).filter isSmpSynch = [] := by
      refine List.filter_eq_nil_iff.mpr fun other hother => ?_
      rw [hfirst other hother]
      exact Bool.false_ne_true
    rw [hpassed, List.cons_append, synchFieldsOf, hnone] at h
    exact absurd h (by decide)

theorem after_other (patch : SynchPatch pdu offset octet)
    (h : (synchFieldsOf (asduTlvs (childrenOf pdu.value))).length = 1) :
    ∀ other ∈ patch.after, isSmpSynch other = false := by
  have hpassed := patch.passed_eq_nil h
  rw [patch.asdusOf, hpassed, List.nil_append, patch.synchFieldsOf_asdu, List.length_cons,
    Nat.add_eq_right, List.length_eq_zero_iff, List.filter_eq_nil_iff] at h
  exact fun other hother => (Bool.not_eq_true _).mp (h other hother)

/-- **The first ASDU with the other octet**, where it carries one synchronisation. -/
theorem reads (patch : SynchPatch pdu offset octet) (hreads : ReadsPdu pdu.value decoded)
    (h : (synchFieldsOf (asduTlvs (childrenOf pdu.value))).length = 1) :
    ∃ first rest, decoded.asdus = first :: rest ∧ first.sampleSynchronization = patch.old ∧
      ReadsPdu patch.value' { asdus := withSynch octet first :: rest } := by
  obtain ⟨fields, hfields, hreadable, hasdus, hcount⟩ := hreads
  have hsame : fields = patch.fields := (childrenOf_eq hfields).symm.trans (childrenOf_eq patch.children)
  have hafter := patch.after_other h
  have hasdus' := patch.asdus'
  rw [hsame] at hreadable hasdus hcount
  rw [patch.passed_eq_nil h, List.nil_append] at hasdus'
  rw [patch.asdus, patch.passed_eq_nil h, List.nil_append] at hasdus
  generalize hdecoded : decoded.asdus = asdus at hasdus hcount
  cases hasdus with
  | @cons _ first _ rest hfirst hrest =>
    obtain ⟨_, hchildren, hread⟩ := readAsdu_eq_ok.mp hfirst.value
    obtain rfl := (childrenOf_eq (children_of_readChildren hchildren)).symm.trans
      (childrenOf_eq patch.asduFields)
    refine ⟨first, rest, rfl, ?_, patch.fields', patch.children', patch.readable hreadable, ?_, ?_⟩
    · rw [readAsduFields_synch hread, synchOf, List.foldl_append, List.foldl_cons,
        if_pos patch.synch, patch.octetOf]
      refine (synchOf_of_none hafter _).trans ?_
      rw [beValue_cons, beValue_nil, List.length_nil, Nat.pow_zero, Nat.mul_one, Nat.add_zero,
        UInt8.ofNat_toNat]
    · rw [hasdus']
      refine .cons ⟨hfirst.tagClass, hfirst.tagNumber, hfirst.constructed, ?_⟩ hrest
      exact readAsdu_eq_ok.mpr ⟨_, readChildren_of_children patch.asduFields',
        readAsduFields_one patch.synch hafter hread octet⟩
    · rw [patch.counts]
      exact hcount

end SynchPatch

/-- **The octet found** is the synchronisation of the first ASDU where that carries one only. -/
theorem readsPdu_set_iff {pdu : BerTlv} {offset : Nat} {decoded : SampledValuesPdu}
    (h : InPdu pdu offset) (hreads : ReadsPdu pdu.value decoded) :
    (∃ first rest, decoded.asdus = first :: rest ∧
      pdu.value[offset]? = some first.sampleSynchronization ∧
      ∀ octet, ReadsPdu (pdu.value.set offset octet) { asdus := withSynch octet first :: rest }) ↔
    (synchFieldsOf (asduTlvs (childrenOf pdu.value))).length = 1 := by
  constructor
  · rintro ⟨first, rest, hdecoded, -, hall⟩
    have hne : first.sampleSynchronization + 1 ≠ first.sampleSynchronization := by
      intro heq
      have := congrArg UInt8.toNat heq
      rw [UInt8.toNat_add] at this
      have hone : (1 : UInt8).toNat = 1 := rfl
      omega
    obtain ⟨patch⟩ := inPdu_patch h (first.sampleSynchronization + 1)
    have hreads' := hall (first.sampleSynchronization + 1)
    generalize first.sampleSynchronization + 1 = octet at hne patch hreads'
    rw [← patch.patches.eq_set] at hreads'
    obtain ⟨fields, hfields, -, hasdus, -⟩ := hreads
    obtain ⟨fields', hfields', -, hasdus', -⟩ := hreads'
    rw [← childrenOf_eq hfields, patch.asdusOf, hdecoded] at hasdus
    rw [← childrenOf_eq hfields', childrenOf_eq patch.children', patch.asdus'] at hasdus'
    rw [patch.asdusOf]
    generalize hpassed : patch.passed = passed at hasdus hasdus'
    cases passed with
    | cons other others =>
      -- the locator has passed the first ASDU, which is the same with the other octet
      cases hasdus with
      | cons hfirst _ =>
        cases hasdus' with
        | cons hfirst' _ =>
          have hsame := Option.some.inj (Except.ok.inj (hfirst.value.symm.trans hfirst'.value))
          exact absurd (congrArg SampledValueAsdu.sampleSynchronization hsame).symm hne
    | nil =>
      rw [List.nil_append, patch.synchFieldsOf_asdu, List.length_cons, Nat.add_eq_right,
        List.length_eq_zero_iff, List.filter_eq_nil_iff]
      intro later hlater hsynch
      -- a later field of the kind decides the synchronisation
      cases hasdus with
      | cons hfirst _ =>
        cases hasdus' with
        | cons hfirst' _ =>
          obtain ⟨_, hchildren, hread⟩ := readAsdu_eq_ok.mp hfirst.value
          obtain ⟨_, hchildren', hread'⟩ := readAsdu_eq_ok.mp hfirst'.value
          obtain rfl := (childrenOf_eq (children_of_readChildren hchildren)).symm.trans
            (childrenOf_eq patch.asduFields)
          obtain rfl := (childrenOf_eq (children_of_readChildren hchildren')).symm.trans
            (childrenOf_eq patch.asduFields')
          have hvalue := readAsduFields_synch hread
          have hvalue' := readAsduFields_synch hread'
          rw [synchOf, List.foldl_append, List.foldl_cons] at hvalue hvalue'
          refine absurd (hvalue'.trans (Eq.trans ?_ hvalue.symm)) hne
          exact synchOf_of_some ⟨later, hlater, hsynch⟩ _ _
  · intro hone
    obtain ⟨patch⟩ := inPdu_patch h 0
    obtain ⟨first, rest, hdecoded, hold, -⟩ := patch.reads hreads hone
    refine ⟨first, rest, hdecoded, hold ▸ patch.stands.getElem?_eq, fun octet => ?_⟩
    obtain ⟨patch'⟩ := inPdu_patch h octet
    obtain ⟨first', rest', hdecoded', -, hreads'⟩ := patch'.reads hreads hone
    obtain ⟨rfl, rfl⟩ := List.cons.inj (hdecoded.symm.trans hdecoded')
    exact patch'.patches.eq_set ▸ hreads'

/-- The fields of the frame's first ASDU that carry `smpSynch`. -/
def smpSynchFields (frame : Bytes) : List BerTlv :=
  match (((EthernetFrameCodec.tryDecode frame).bind ProcessBusFrameCodec.tryDecode).map
    ProcessBusFrame.apdu).bind tryReadTlv with
  | none => []
  | some read => synchFieldsOf (asduTlvs (childrenOf read.1.value))

/-- The octet is the synchronisation of the first ASDU, and another octet there changes that field
and no other. -/
def LocatesFirst (frame : Bytes) (offset : Nat) (decoded : SampledValuesFrame) : Prop :=
  ∃ first rest, decoded.pdu.asdus = first :: rest ∧
    frame[offset]? = some first.sampleSynchronization ∧
    ∀ octet, SampledValuesFrameCodec.tryDecode (frame.set offset octet) =
      some { decoded with pdu := { asdus := withSynch octet first :: rest } }

section Inside

variable {front value trailing : Bytes} {inner : Nat}

theorem getElem?_inside (h : inner < value.length) :
    (front ++ (value ++ trailing))[front.length + inner]? = value[inner]? := by
  rw [List.getElem?_append_right (Nat.le_add_right _ _), Nat.add_sub_cancel_left,
    List.getElem?_append_left h]

theorem set_inside (h : inner < value.length) (octet : UInt8) :
    (front ++ (value ++ trailing)).set (front.length + inner) octet =
      front ++ (value.set inner octet ++ trailing) := by
  rw [List.set_append_right _ _ (Nat.le_add_right _ _), Nat.add_sub_cancel_left,
    List.set_append_left _ _ h]

end Inside

theorem frameOf_inj {ethernet : EthernetFrame} {header : Bytes} {pdu pdu' : SampledValuesPdu} :
    frameOf ethernet header pdu = frameOf ethernet header pdu' ↔ pdu = pdu' :=
  ⟨fun h => congrArg SampledValuesFrame.pdu h, fun h => h ▸ rfl⟩

theorem inPdu_lt {pdu : BerTlv} {offset : Nat} (h : InPdu pdu offset) :
    offset < pdu.value.length := by
  obtain ⟨patch⟩ := inPdu_patch h 0
  exact patch.stands.inside

theorem readsAsdu_children {asdus : List BerTlv} {decoded : List SampledValueAsdu}
    (h : List.Forall₂ ReadsAsdu asdus decoded) :
    ∀ asdu ∈ asdus, ∃ fields, Children asdu.value fields := by
  induction h with
  | nil => exact fun asdu hasdu => absurd hasdu List.not_mem_nil
  | cons hread _ ih =>
    obtain ⟨fields, hfields, -⟩ := readAsdu_eq_ok.mp hread.value
    exact List.forall_mem_cons.mpr ⟨⟨fields, children_of_readChildren hfields⟩, ih⟩

/-- **Where the locator and the decoder agree.** The offset that the locator finds in a frame that
is decoded is the synchronisation of the first ASDU if and only if that ASDU carries one field of
the kind. -/
theorem locates_first_iff {frame : Bytes} {offset : Nat} {decoded : SampledValuesFrame}
    (hfind : findSmpSynchValueOffset frame = some offset)
    (hdecode : SampledValuesFrameCodec.tryDecode frame = some decoded) :
    LocatesFirst frame offset decoded ↔ (smpSynchFields frame).length = 1 := by
  obtain ⟨front, header, apdu, trailing, ethernet, pdu, hframe, hfront, hread, hheader, hpdu,
    rfl⟩ := frame_split hdecode
  obtain ⟨view, hview, hfindPdu⟩ := find_append hfront hheader hframe hfind
  obtain ⟨outer, fields, houter, hexpected, hfields, hreadable, hasdus, hcount⟩ :=
    pdu_tryDecode_eq_some.mp hpdu
  -- the APDU in the frame
  have hplace : front.length + 8 + apdu.length = (front ++ header ++ apdu).length := by
    rw [List.length_append, List.length_append, hheader.1]
  have hframe' : frame = front ++ header ++ apdu ++ trailing := by
    rw [hframe]
    simp only [List.append_assoc]
  have hregion : region frame (front.length + 8) (front.length + 8 + apdu.length) = apdu := by
    rw [region, hplace, hframe', List.take_left,
      List.drop_left' (by rw [List.length_append, hheader.1])]
  have hlimit : front.length + 8 + apdu.length ≤ frame.length := by
    rw [hplace, hframe', @List.length_append _ (front ++ header ++ apdu)]
    exact Nat.le_add_right _ _
  have hshort := tryReadTlv_rest_length houter
  obtain ⟨hseen, -, outerHeader, hsplit, houterHeader, hoffset⟩ :=
    seen_of_read hlimit (Nat.lt_add_of_pos_right hshort) hview (hregion.symm ▸ houter)
  rw [hregion, List.append_nil] at hsplit
  obtain ⟨inner, hin, rfl⟩ := inPdu_of_find hlimit hseen (children_of_readChildren hfields)
    (fun field hfield hsequence =>
      (hreadable field hfield).sequence hsequence |>.imp fun _ => children_of_readChildren)
    (readsAsdu_children hasdus) hfindPdu
  have hreads : ReadsPdu outer.value pdu :=
    ⟨fields, children_of_readChildren hfields, hreadable, hasdus, hcount⟩
  have hinner := inPdu_lt hin
  -- the value of the PDU in the frame
  have hbefore : view.valueOffset = (front ++ header ++ outerHeader).length := by
    rw [hoffset, List.length_append, List.length_append, hheader.1]
  have hvalue : frame = front ++ header ++ outerHeader ++ (outer.value ++ trailing) := by
    rw [hframe, hsplit]
    simp only [List.append_assoc]
  have hset : ∀ octet pdu', SampledValuesFrameCodec.tryDecode
        (frame.set (view.valueOffset + inner) octet) = some (frameOf ethernet header pdu') ↔
      ReadsPdu (outer.value.set inner octet) pdu' := by
    intro octet pdu'
    have hlength : (outerHeader ++ outer.value.set inner octet).length = apdu.length := by
      rw [hsplit, List.length_append, List.length_append, List.length_set]
    have hparts : frame.set (view.valueOffset + inner) octet =
        front ++ (header ++ ((outerHeader ++ outer.value.set inner octet) ++ trailing)) := by
      rw [hvalue, hbefore, set_inside hinner]
      simp only [List.append_assoc]
    rw [hparts, frame_append hfront hread (hlength ▸ hheader), Option.map_eq_some_iff,
      ← pdu_tryDecode_header houterHeader List.length_set hexpected]
    simp only [frameOf_inj, exists_eq_right]
  have hfieldsOf : smpSynchFields frame = synchFieldsOf (asduTlvs (childrenOf outer.value)) := by
    rw [smpSynchFields, hframe, busFrame_append hfront hread hheader, Option.bind_some, houter]
  rw [hfieldsOf, ← readsPdu_set_iff hin hreads, LocatesFirst]
  have hget : frame[view.valueOffset + inner]? = outer.value[inner]? := by
    rw [hvalue, hbefore, getElem?_inside hinner]
  rw [hget]
  exact exists_congr fun first => exists_congr fun rest => and_congr_right fun _ =>
    and_congr_right fun _ => forall_congr' fun octet => hset octet _

/-- The addresses, the type and the header of a frame with an APDU of this length. -/
def frontOf (length : UInt8) : Bytes :=
  [0x01, 0x0C, 0xCD, 0x04, 0x00, 0x01, 0x02, 0x00, 0x00, 0x00, 0x00, 0x01, 0x88, 0xBA,
    0x40, 0x00, 0x00, 8 + length, 0x00, 0x00, 0x00, 0x00]

/-- One ASDU with a synchronisation. -/
def oneAsduFrame : Bytes := frontOf 9 ++ [0x60, 0x07, 0xA2, 0x05, 0x30, 0x03, 0x85, 0x01, 0x02]

theorem locates_first_iff_oneAsdu :
    ∃ decoded, findSmpSynchValueOffset oneAsduFrame = some 30 ∧
      SampledValuesFrameCodec.tryDecode oneAsduFrame = some decoded ∧
      LocatesFirst oneAsduFrame 30 decoded := by
  have hsome : (SampledValuesFrameCodec.tryDecode oneAsduFrame).isSome = true := by decide
  have hfind : findSmpSynchValueOffset oneAsduFrame = some 30 := by decide
  obtain ⟨decoded, hdecoded⟩ := Option.isSome_iff_exists.mp hsome
  exact ⟨decoded, hfind, hdecoded, (locates_first_iff hfind hdecoded).mpr (by decide)⟩

/-- Two ASDUs, of which the second carries a synchronisation only. -/
def twoAsduFrame : Bytes :=
  frontOf 11 ++ [0x60, 0x09, 0xA2, 0x07, 0x30, 0x00, 0x30, 0x03, 0x85, 0x01, 0x02]

/-- The locator passes an ASDU without the field and finds that of the second. -/
theorem not_locates_first_twoAsdu :
    ∃ decoded first second, findSmpSynchValueOffset twoAsduFrame = some 32 ∧
      SampledValuesFrameCodec.tryDecode twoAsduFrame = some decoded ∧
      decoded.pdu.asdus = [first, second] ∧ first.sampleSynchronization = 0 ∧
      twoAsduFrame[32]? = some 2 ∧ ¬LocatesFirst twoAsduFrame 32 decoded := by
  have hsome : (SampledValuesFrameCodec.tryDecode twoAsduFrame).map (fun decoded =>
      decoded.pdu.asdus) = some [{ configurationRevision := 0, sampleSynchronization := 0 },
        { configurationRevision := 0, sampleSynchronization := 2 }] := by decide
  obtain ⟨decoded, hdecoded, hasdus⟩ := Option.map_eq_some_iff.mp hsome
  refine ⟨decoded, _, _, by decide, hdecoded, hasdus, rfl, rfl, ?_⟩
  rintro ⟨first, rest, hfirst, hoctet, -⟩
  obtain ⟨rfl, -⟩ := List.cons.inj (hasdus.symm.trans hfirst)
  exact absurd hoctet (by decide)

end ArStack.SampledValues
