import ArStack.Mms.StaticDispatcherSynthesis
import ArStack.Properties.HierarchyOrder
import ArStack.Spec.BerTlv

/-!
# The sizes of synthesised structures

What the first pass measures is what the second one writes, at every level.

* `Holds` — a callback with one value
* `measureChildren_encodes`, `measureComponents_encodes` — the loops of both passes
* `encodeSyntheticSubtree_ok`, `encodeSyntheticTypeSubtree_ok`
* `synthetic_sizes`
-/

namespace ArStack.Mms.MmsStaticApplicationDispatcher

open ArStack.Asn1 ArStack.Lib ArStack.Wire BerSpanWriter

/-- The callback has one value, which it writes wherever there is room for it. -/
structure Holds (answer : Nat → EncodeResult) (value : Bytes) : Prop where
  enough : ∀ size, value.length ≤ size → (answer size).status = .ok ∧ (answer size).bytes = value
  short : ∀ size, size < value.length →
    (answer size).status = .bufferTooSmall ∧ (answer size).requiredBytes = value.length

/-! ## The children -/

/-- A child with an entry has that of its name, in the domain. -/
def OwnEntry (objects : MmsStaticObjectTable) (domain : Bytes) (child : SyntheticChild) : Prop :=
  ∀ object, child.exactObject = some object →
    object ∈ objects.objects ∧ object.domain = domain ∧ object.item = child.path

theorem isDescendantItem_iff {item path : Bytes} :
    isDescendantItem item path = true ↔ ∃ name, item = path ++ separator :: name := by
  constructor
  · exact fun h => ⟨_, eq_of_descendant h⟩
  · rintro ⟨name, rfl⟩
    rw [isDescendantItem]
    simp

theorem isDescendantItem_trans {item child path : Bytes} (h : isDescendantItem item child = true)
    (h' : isDescendantItem child path = true) : isDescendantItem item path = true := by
  rw [isDescendantItem_iff] at h h' ⊢
  obtain ⟨name, rfl⟩ := h
  obtain ⟨name', rfl⟩ := h'
  exact ⟨name' ++ separator :: name, by rw [List.append_assoc, List.cons_append]⟩

theorem updateChild_mem {child : Bytes} {update : SyntheticChild → SyntheticChild}
    {values values' : List SyntheticChild} (h : updateChild child update values = some values')
    {changed : SyntheticChild} (hmem : changed ∈ values') :
    changed ∈ values ∨ ∃ existing ∈ values, existing.path = child ∧ changed = update existing := by
  induction values generalizing values' with
  | nil => cases h
  | cons existing others ih =>
    rw [updateChild] at h
    split at h
    · rename_i hpath
      cases h
      rcases List.mem_cons.mp hmem with rfl | hmem
      · exact .inr ⟨existing, List.mem_cons_self, hpath, rfl⟩
      · exact .inl (List.mem_cons_of_mem _ hmem)
    · obtain ⟨others', hothers, rfl⟩ := Option.map_eq_some_iff.mp h
      rcases List.mem_cons.mp hmem with rfl | hmem
      · exact .inl List.mem_cons_self
      · rcases ih hothers hmem with hold | ⟨found, hfound, hrest⟩
        · exact .inl (List.mem_cons_of_mem _ hold)
        · exact .inr ⟨found, List.mem_cons_of_mem _ hfound, hrest⟩

theorem collectCandidate_ownEntry {objects : MmsStaticObjectTable} {domain path : Bytes}
    {result : SyntheticChildren} (h : ∀ child ∈ result.values, OwnEntry objects domain child)
    {candidate : MmsStaticObjectEntry} (hcandidate : candidate ∈ objects.objects) :
    ∀ child ∈ (collectCandidate domain path result candidate).values,
      OwnEntry objects domain child := by
  rw [collectCandidate]
  split
  · exact h
  rename_i hskip
  have hdomain : candidate.domain = domain := not_not.mp (not_or.mp (not_or.mp hskip).2).1
  dsimp only
  split
  · exact h
  split
  · rename_i values hupdate
    intro child hmem
    rcases updateChild_mem hupdate hmem with hold | ⟨existing, hexisting, hpath, rfl⟩
    · exact h child hold
    · intro object hobject
      rw [SyntheticChild.meet] at hobject ⊢
      dsimp only at hobject ⊢
      split at hobject
      · rename_i hitem
        cases hobject
        exact ⟨hcandidate, hdomain, hitem.trans hpath.symm⟩
      · exact h existing hexisting object hobject
  · split
    · exact h
    · intro child hmem
      rcases List.mem_append.mp hmem with hold | hnew
      · exact h child hold
      · obtain rfl := List.mem_singleton.mp hnew
        intro object hobject
        dsimp only at hobject ⊢
        split at hobject
        · rename_i hitem
          cases hobject
          exact ⟨hcandidate, hdomain, hitem⟩
        · cases hobject

theorem collected_ownEntry (objects : MmsStaticObjectTable) (domain path : Bytes) :
    ∀ child ∈ (collectSyntheticChildren objects domain path).values,
      OwnEntry objects domain child := by
  have hloop (entries : List MmsStaticObjectEntry) (hentries : ∀ entry ∈ entries, entry ∈ objects.objects)
      {result : SyntheticChildren} (h : ∀ child ∈ result.values, OwnEntry objects domain child) :
      ∀ child ∈ (entries.foldl (collectCandidate domain path) result).values,
        OwnEntry objects domain child := by
    induction entries generalizing result with
    | nil => exact h
    | cons candidate entries ih =>
      obtain ⟨hcandidate, hentries⟩ := List.forall_mem_cons.mp hentries
      exact ih hentries (collectCandidate_ownEntry h hcandidate)
  exact hloop objects.objects (fun _ hmem => hmem) fun _ hmem => absurd hmem List.not_mem_nil

/-- The children that both passes go through. -/
theorem sortedChildren_spec {sort : ChildSort} {objects : MmsStaticObjectTable}
    {domain path : Bytes} {child : SyntheticChild}
    (h : child ∈ (sortedChildren sort objects domain path).values) :
    isDescendantItem child.path path = true ∧ OwnEntry objects domain child := by
  have hmem : child ∈ (collectSyntheticChildren objects domain path).values := by
    rw [sortedChildren] at h
    split at h
    · exact h
    · exact (sort.perm path _).mem_iff.mp h
  exact ⟨(collected objects domain path).descendants child hmem,
    collected_ownEntry objects domain path child hmem⟩

/-! ## TLVs -/

/-- A TLV of the writer is read whole. -/
theorem tryReadExact_encodeTlv (tagClass : BerClass) (constructed : Bool) {tagNumber : Nat}
    {value : Bytes} (htag : tagNumber ≤ 1000000) (hlen : value.length ≤ uint32Max) :
    ∃ view, BerSpanReader.tryReadExact (encodeTlv tagClass constructed tagNumber value) = some view ∧
      view.tagClass = tagClass ∧ view.constructed = constructed ∧ view.tagNumber = tagNumber := by
  have hread := (BerReader.readsAs_encodeTlv tagClass constructed htag hlen).exact
  rw [BerReader.tryReadTlv] at hread
  split at hread
  · cases hread
  · rename_i view rest heq
    obtain ⟨htlv, rfl⟩ := Prod.mk.inj (Option.some.inj hread)
    have hview := BerTlv.mk.inj htlv
    refine ⟨view, by rw [BerSpanReader.tryReadExact, heq], hview.2.1, hview.2.2.1, hview.2.2.2.1⟩

theorem validMmsData_structure {content : Bytes} (h : content.length ≤ uint32Max) :
    Detail.validMmsData (encodeTlv .contextSpecific true 2 content) = true := by
  obtain ⟨view, hview, hclass, hconstructed, hnumber⟩ :=
    tryReadExact_encodeTlv .contextSpecific true (show 2 ≤ 1000000 by omega) h
  have hstructure : view.tagNumber = 1 ∨ view.tagNumber = 2 := .inr hnumber
  rw [Detail.validMmsData, hview]
  dsimp only
  rw [if_neg (not_not.mpr hclass), if_pos hstructure]
  exact hconstructed

theorem validTypeSpecification_structure {content : Bytes} (h : content.length ≤ uint32Max) :
    validTypeSpecification (encodeTlv .contextSpecific true 2 content) = true := by
  obtain ⟨view, hview, hclass, -⟩ :=
    tryReadExact_encodeTlv .contextSpecific true (show 2 ≤ 1000000 by omega) h
  rw [validTypeSpecification, hview]
  exact beq_iff_eq.mpr hclass

/-- What `tlv_size` says of a content. -/
theorem length_encodeTlv_of_tlvSize {tagNumber total : Nat} {value : Bytes}
    (h : tlvSize tagNumber value.length = some total) (tagClass : BerClass) (constructed : Bool) :
    value.length ≤ uint32Max ∧ (encodeTlv tagClass constructed tagNumber value).length = total := by
  have hle := le_uint32Max_of_tlvSize h
  rw [tlvSize_eq tagClass constructed tagNumber hle] at h
  rw [encodeTlv, List.length_append]
  exact ⟨hle, Option.some.inj h⟩

/-! ## Values -/

section Values

variable {sort : ChildSort} {read : MmsStaticObjectEntry → Nat → EncodeResult}
  {objects : MmsStaticObjectTable} {domain : Bytes}

/-- The entries below the name hold values, and these are MMS Data. -/
def HoldValues (read : MmsStaticObjectEntry → Nat → EncodeResult) (objects : MmsStaticObjectTable)
    (domain path : Bytes) : Prop :=
  ∀ object ∈ objects.objects, object.domain = domain → isDescendantItem object.item path = true →
    ∃ value, Holds (read object) value ∧ Detail.validMmsData value = true

theorem HoldValues.below {path child : Bytes} (h : HoldValues read objects domain path)
    (hchild : isDescendantItem child path = true) : HoldValues read objects domain child :=
  fun object hmem hdomain hitem => h object hmem hdomain (isDescendantItem_trans hitem hchild)

/-- The encoder writes what was measured. -/
def ChildEncodes (measured : SyntheticSize)
    (encode : Nat → Nat → Except SyntheticReadFailure Bytes) : Prop :=
  ∃ octets, octets.length = measured.encodedBytes ∧
    ∀ room offset, offset + measured.encodedBytes ≤ room → encode room offset = .ok octets

/-- An entry that holds a value. -/
theorem measureExactObject_encodes {object : MmsStaticObjectEntry} {value : Bytes}
    (h : Holds (read object) value) (hvalid : Detail.validMmsData value = true)
    {child : SyntheticChild} (hchild : child.exactObject = some object)
    {encodeSubtree : Bytes → Nat → Except SyntheticReadFailure Bytes} {measured : SyntheticSize}
    (hmeasured : measureExactObject read object = .ok measured) :
    ChildEncodes measured fun room offset => encodeChild read encodeSubtree room offset child := by
  have hpos : 0 < value.length := by
    cases value with
    | nil => cases hvalid
    | cons octet value => exact Nat.succ_pos _
  obtain ⟨hstatus, hrequired⟩ := h.short 0 hpos
  have hsize : measured = { contentBytes := 0, encodedBytes := value.length } := by
    rw [measureExactObject] at hmeasured
    rw [if_pos ⟨hstatus, by omega⟩, hrequired] at hmeasured
    cases hmeasured
    rfl
  subst hsize
  refine ⟨value, rfl, fun room offset hroom => ?_⟩
  dsimp only at hroom
  obtain ⟨hok, hbytes⟩ := h.enough (room - offset) (by omega)
  have hsuccess : (read object (room - offset)).success = true := EncodeResult.success_iff.mpr hok
  have hwritten : (read object (room - offset)).bytesWritten = value.length := by
    rw [EncodeResult.bytesWritten, hbytes]
  have hfine : ¬((read object (room - offset)).bytesWritten = 0 ∨
      (read object (room - offset)).bytesWritten > room - offset ∨
        (!Detail.validMmsData (read object (room - offset)).bytes) = true) := by
    rw [hwritten, hbytes, hvalid]
    rintro (hzero | hmore | hnot)
    · omega
    · omega
    · cases hnot
  have hnotShort : ¬(read object (room - offset)).status = .bufferTooSmall := by
    rw [hok]
    decide
  unfold encodeChild
  rw [hchild]
  dsimp only
  rw [if_neg hnotShort, hsuccess, Bool.not_true, if_neg Bool.false_ne_true, if_neg hfine, hbytes]

/-- **The loops of both passes.** -/
theorem measureChildren_encodes
    {measureSubtree : Bytes → Except SyntheticReadStatus SyntheticSize}
    {encodeSubtree : Bytes → Nat → Except SyntheticReadFailure Bytes}
    {children : List SyntheticChild}
    (hchildren : ∀ child ∈ children, ∀ measured,
      measureChild read measureSubtree child = .ok measured →
        ChildEncodes measured fun room offset => encodeChild read encodeSubtree room offset child)
    {contentBytes total : Nat}
    (h : measureChildren read measureSubtree children contentBytes = .ok total) :
    ∃ octets, contentBytes + octets.length = total ∧
      ∀ room out, out.length + octets.length ≤ room →
        encodeChildren read encodeSubtree room children out = .ok (out ++ octets) := by
  induction children generalizing contentBytes with
  | nil =>
    cases h
    exact ⟨[], rfl, fun _ _ _ => by rw [encodeChildren, List.append_nil]⟩
  | cons child children ih =>
    obtain ⟨hchild, hchildren⟩ := List.forall_mem_cons.mp hchildren
    rw [measureChildren] at h
    cases hmeasured : measureChild read measureSubtree child with
    | error status =>
      rw [hmeasured] at h
      cases h
    | ok measured =>
      rw [hmeasured] at h
      dsimp only at h
      cases hsum : addSize contentBytes measured.encodedBytes with
      | none =>
        rw [hsum] at h
        cases h
      | some sum =>
        rw [hsum] at h
        obtain rfl := addSize_eq_some hsum
        obtain ⟨octets, hlength, hencode⟩ := hchild measured hmeasured
        obtain ⟨others, htotal, hothers⟩ := ih hchildren h
        refine ⟨octets ++ others, by rw [List.length_append]; omega, fun room out hroom => ?_⟩
        rw [List.length_append] at hroom
        have hfirst := hencode room out.length (by omega)
        dsimp only at hfirst
        rw [encodeChildren, hfirst]
        dsimp only
        rw [hothers room (out ++ octets) (by rw [List.length_append]; omega), List.append_assoc]

/-- **A structure is written in the measured size.** -/
theorem encodeSyntheticSubtree_ok {levels : Nat} {path : Bytes} {measured : SyntheticSize}
    (hvalues : HoldValues read objects domain path)
    (h : measureSyntheticSubtree sort read objects domain levels path = .ok measured) :
    ∃ content, content.length = measured.contentBytes ∧
      (encodeTlv .contextSpecific true 2 content).length = measured.encodedBytes ∧
      ∀ destinationSize, measured.encodedBytes ≤ destinationSize →
        encodeSyntheticSubtree sort read objects domain levels path destinationSize =
          .ok (encodeTlv .contextSpecific true 2 content) := by
  induction levels generalizing path measured with
  | zero => cases h
  | succ levels ih =>
    have hmeasured := h
    rw [measureSyntheticSubtree] at h
    split at h
    · cases h
    dsimp only at h
    split at h
    · cases h
    rename_i hoverflow
    split at h
    · cases h
    cases hloop : measureChildren read (measureSyntheticSubtree sort read objects domain levels)
        (sortedChildren sort objects domain path).values 0 with
    | error status =>
      rw [hloop] at h
      cases h
    | ok contentBytes =>
      rw [hloop] at h
      dsimp only at h
      cases hsize : tlvSize 2 contentBytes with
      | none =>
        rw [hsize] at h
        cases h
      | some encodedBytes =>
        rw [hsize] at h
        cases h
        have hchildren : ∀ child ∈ (sortedChildren sort objects domain path).values, ∀ measured,
            measureChild read (measureSyntheticSubtree sort read objects domain levels) child =
                .ok measured →
              ChildEncodes measured fun room offset => encodeChild read
                (encodeSyntheticSubtree sort read objects domain levels) room offset child := by
          intro child hmem measured hchild
          obtain ⟨hbelow, hown⟩ := sortedChildren_spec hmem
          cases hexact : child.exactObject with
          | some object =>
            obtain ⟨hobject, hdomain, hitem⟩ := hown object hexact
            obtain ⟨value, hholds, hvalid⟩ := hvalues object hobject hdomain (by rwa [hitem])
            rw [measureChild, hexact] at hchild
            exact measureExactObject_encodes hholds hvalid hexact hchild
          | none =>
            rw [measureChild, hexact] at hchild
            obtain ⟨content, -, hlength, hencode⟩ := ih (hvalues.below hbelow) hchild
            refine ⟨_, hlength, fun room offset hroom => ?_⟩
            dsimp only
            unfold encodeChild
            rw [hexact]
            dsimp only
            rw [hencode (room - offset) (by omega)]
        obtain ⟨content, htotal, hencode⟩ := measureChildren_encodes hchildren hloop
        rw [Nat.zero_add] at htotal
        subst htotal
        obtain ⟨hle, hlength⟩ := length_encodeTlv_of_tlvSize hsize .contextSpecific true
        refine ⟨content, rfl, hlength, fun destinationSize hroom => ?_⟩
        have hsplit : (tlvHeader .contextSpecific true 2 content.length).length + content.length =
            encodedBytes := by
          rw [← hlength, encodeTlv, List.length_append]
        have hheader : BerSpanWriter.writeTlvHeader { capacity := encodedBytes } .contextSpecific
            true 2 content.length = some
              { capacity := encodedBytes, out := tlvHeader .contextSpecific true 2 content.length } := by
          refine (writes_writeTlvHeader .contextSpecific true 2 hle _ (fits_new _)).trans ?_
          refine writeBytes_of_le ?_
          show 0 + _ ≤ encodedBytes
          omega
        have hwritten := hencode encodedBytes (tlvHeader .contextSpecific true 2 content.length)
          (by omega)
        have hdone : ¬((encodeTlv .contextSpecific true 2 content).length ≠ encodedBytes ∨
            (!Detail.validMmsData (encodeTlv .contextSpecific true 2 content)) = true) := by
          rw [validMmsData_structure hle, hlength]
          rintro (hne | hnot)
          · exact hne rfl
          · cases hnot
        rw [encodeSyntheticSubtree, hmeasured]
        dsimp only at hroom ⊢
        rw [if_neg (Nat.not_lt.mpr hroom), hheader]
        dsimp only
        rw [if_neg hoverflow, hwritten]
        exact if_neg hdone

end Values

/-! ## Types -/

section Types

variable {sort : ChildSort} {objects : MmsStaticObjectTable} {domain : Bytes}

/-- A component: its name and the type of the child. -/
def componentOctets (name childType : Bytes) : Bytes :=
  encodeTlv .universal true 16
    (encodeTlv .contextSpecific false 0 name ++ encodeTlv .contextSpecific true 1 childType)

/-- What stands in front of the type of the child. -/
def componentHeader (name childType : Bytes) : Bytes :=
  tlvHeader .universal true 16
      (encodeTlv .contextSpecific false 0 name ++ encodeTlv .contextSpecific true 1 childType).length ++
    (encodeTlv .contextSpecific false 0 name ++ tlvHeader .contextSpecific true 1 childType.length)

theorem componentOctets_eq (name childType : Bytes) :
    componentOctets name childType = componentHeader name childType ++ childType := by
  unfold componentOctets componentHeader
  rw [encodeTlv, encodeTlv.eq_def .contextSpecific true 1 childType]
  simp only [List.append_assoc]

/-- The sizes of a component are those of its octets. -/
theorem componentContent_some {name childType : Bytes} {content : Nat}
    (h : componentContent name.length childType.length = some content) :
    name.length ≤ uint32Max ∧ childType.length ≤ uint32Max ∧
      content = (encodeTlv .contextSpecific false 0 name ++
        encodeTlv .contextSpecific true 1 childType).length := by
  unfold componentContent at h
  obtain ⟨nameTlv, hname, h⟩ := Option.bind_eq_some_iff.mp h
  obtain ⟨typeWrapper, htype, h⟩ := Option.bind_eq_some_iff.mp h
  obtain ⟨hnameLe, hnameLength⟩ := length_encodeTlv_of_tlvSize hname .contextSpecific false
  obtain ⟨htypeLe, htypeLength⟩ := length_encodeTlv_of_tlvSize htype .contextSpecific true
  refine ⟨hnameLe, htypeLe, ?_⟩
  rw [addSize_eq_some h, List.length_append, hnameLength, htypeLength]

/-- The headers of a component that was measured. -/
theorem writes_componentHeader {name childType : Bytes} {content component : Nat}
    (hcontent : componentContent name.length childType.length = some content)
    (hcomponent : tlvSize 16 content = some component) :
    Writes (writeComponentHeader · name childType.length) (componentHeader name childType) ∧
      component = (componentOctets name childType).length := by
  obtain ⟨hname, htype, hlength⟩ := componentContent_some hcontent
  subst hlength
  obtain ⟨hle, htotal⟩ := length_encodeTlv_of_tlvSize hcomponent .universal true
  refine ⟨?_, htotal.symm⟩
  have houter := writes_writeTlvHeader .universal true 16 hle
  have hnameHeader := writes_writeTlvHeader .contextSpecific false 0 hname
  have htypeHeader := writes_writeTlvHeader .contextSpecific true 1 htype
  have hwrites := houter.bind (hnameHeader.bind ((writes_writeBytes name).bind htypeHeader))
  intro writer hfit
  have hoctets : tlvHeader .contextSpecific false 0 name.length ++
      (name ++ tlvHeader .contextSpecific true 1 childType.length) =
        encodeTlv .contextSpecific false 0 name ++
          tlvHeader .contextSpecific true 1 childType.length := by
    rw [encodeTlv, List.append_assoc]
  have hwritten := hwrites writer hfit
  rw [hoctets] at hwritten
  rw [componentHeader, ← hwritten]
  dsimp only
  unfold writeComponentHeader
  rw [hcontent]
  rfl

/-- The encoder writes octets of the measured size behind what stands there. -/
def ComponentEncodes (component : Nat)
    (encode : BerSpanWriter → Except SyntheticTypeFailure BerSpanWriter) : Prop :=
  ∃ octets, octets.length = component ∧
    ∀ writer : BerSpanWriter, writer.out.length + component ≤ writer.capacity →
      encode writer = .ok { writer with out := writer.out ++ octets }

section Components

variable {measureSubtree : Bytes → Except SyntheticTypeStatus SyntheticTypeSize}
  {encodeSubtree : Bytes → Nat → Except SyntheticTypeFailure Bytes} {path : Bytes} {required : Nat}

/-- A structure below is written in its measured size. -/
def SubtreeEncodes (child : SyntheticChild)
    (measureSubtree : Bytes → Except SyntheticTypeStatus SyntheticTypeSize)
    (encodeSubtree : Bytes → Nat → Except SyntheticTypeFailure Bytes) : Prop :=
  ∀ nested, measureSubtree child.path = .ok nested →
    ∃ octets, octets.length = nested.encodedBytes ∧
      ∀ room, nested.encodedBytes ≤ room → encodeSubtree child.path room = .ok octets

theorem encodeComponent_ok {child : SyntheticChild}
    (hsubtree : SubtreeEncodes child measureSubtree encodeSubtree) {childTypeBytes content component : Nat}
    (hmeasured : measureChildType measureSubtree child = .ok childTypeBytes)
    (hcontent : componentContent (childName path child.path).length childTypeBytes = some content)
    (hcomponent : tlvSize 16 content = some component) :
    ComponentEncodes component fun writer =>
      encodeComponent measureSubtree encodeSubtree path required writer child := by
  -- both kinds of children write the headers, then the type
  have hwrite (childType : Bytes) (hlength : childType.length = childTypeBytes)
      (writer : BerSpanWriter) (hroom : writer.out.length + component ≤ writer.capacity) :
      writeComponentHeader writer (childName path child.path) childTypeBytes = some
          { writer with
            out := writer.out ++ componentHeader (childName path child.path) childType } ∧
        component = (componentHeader (childName path child.path) childType).length +
          childType.length := by
    subst hlength
    obtain ⟨hwrites, htotal⟩ := writes_componentHeader hcontent hcomponent
    rw [componentOctets_eq, List.length_append] at htotal
    refine ⟨(hwrites writer (by rw [Fits]; omega)).trans ?_, htotal⟩
    exact writeBytes_of_le (by omega)
  rw [measureChildType] at hmeasured
  cases hexact : child.exactObject with
  | some object =>
    rw [hexact] at hmeasured
    dsimp only at hmeasured
    split at hmeasured
    · cases hmeasured
    · cases hmeasured
      refine ⟨componentOctets (childName path child.path) object.typeSpecification, ?_,
        fun writer hroom => ?_⟩
      · exact (writes_componentHeader hcontent hcomponent).2.symm
      · obtain ⟨hheader, htotal⟩ := hwrite _ rfl writer hroom
        have htype : BerSpanWriter.writeBytes
            { writer with
              out := writer.out ++ componentHeader (childName path child.path)
                object.typeSpecification } object.typeSpecification = some _ :=
          writeBytes_of_le (by dsimp only; rw [List.length_append]; omega)
        dsimp only
        unfold encodeComponent
        rw [hexact]
        dsimp only
        rw [hheader]
        dsimp only
        rw [htype, componentOctets_eq, List.append_assoc]
  | none =>
    rw [hexact] at hmeasured
    dsimp only at hmeasured
    cases hnested : measureSubtree child.path with
    | error status =>
      rw [hnested] at hmeasured
      cases hmeasured
    | ok nested =>
      rw [hnested] at hmeasured
      cases hmeasured
      obtain ⟨octets, hlength, hencode⟩ := hsubtree nested hnested
      refine ⟨componentOctets (childName path child.path) octets, ?_, fun writer hroom => ?_⟩
      · rw [← hlength] at hcontent
        exact (writes_componentHeader hcontent hcomponent).2.symm
      · obtain ⟨hheader, htotal⟩ := hwrite octets hlength writer hroom
        have hroom' : nested.encodedBytes ≤ BerSpanWriter.remaining
            { writer with
              out := writer.out ++ componentHeader (childName path child.path) octets } := by
          rw [BerSpanWriter.remaining]
          dsimp only
          rw [List.length_append]
          omega
        have htype : BerSpanWriter.writeBytes
            { writer with
              out := writer.out ++ componentHeader (childName path child.path) octets } octets =
              some _ :=
          writeBytes_of_le (by dsimp only; rw [List.length_append]; omega)
        dsimp only
        unfold encodeComponent
        rw [hexact]
        dsimp only
        rw [hnested]
        dsimp only
        rw [hheader]
        dsimp only
        rw [hencode _ hroom']
        dsimp only
        rw [htype, componentOctets_eq, List.append_assoc]

/-- **The loops over the components.** -/
theorem measureComponents_encodes {children : List SyntheticChild}
    (hchildren : ∀ child ∈ children, SubtreeEncodes child measureSubtree encodeSubtree)
    {componentBytes total : Nat}
    (h : measureComponents measureSubtree path children componentBytes = .ok total) :
    ∃ octets, componentBytes + octets.length = total ∧
      ∀ writer : BerSpanWriter, writer.out.length + octets.length ≤ writer.capacity →
        encodeComponents measureSubtree encodeSubtree path required children writer =
          .ok { writer with out := writer.out ++ octets } := by
  induction children generalizing componentBytes with
  | nil =>
    cases h
    refine ⟨[], rfl, fun writer _ => ?_⟩
    rw [encodeComponents, List.append_nil]
  | cons child children ih =>
    obtain ⟨hchild, hchildren⟩ := List.forall_mem_cons.mp hchildren
    rw [measureComponents] at h
    cases hmeasured : measureChildType measureSubtree child with
    | error status =>
      rw [hmeasured] at h
      cases h
    | ok childTypeBytes =>
      rw [hmeasured] at h
      dsimp only at h
      split at h
      · cases h
      rename_i sum hsum
      obtain ⟨content, hcontent, hsum⟩ := Option.bind_eq_some_iff.mp hsum
      obtain ⟨component, hcomponent, hsum⟩ := Option.bind_eq_some_iff.mp hsum
      obtain rfl := addSize_eq_some hsum
      obtain ⟨octets, hlength, hencode⟩ :=
        @encodeComponent_ok _ _ _ required _ hchild _ _ _ hmeasured hcontent hcomponent
      obtain ⟨others, htotal, hothers⟩ := ih hchildren h
      refine ⟨octets ++ others, by rw [List.length_append]; omega, fun writer hroom => ?_⟩
      rw [List.length_append] at hroom
      have hfirst := hencode writer (by omega)
      dsimp only at hfirst
      rw [encodeComponents, hfirst]
      dsimp only
      rw [hothers _ (by dsimp only; rw [List.length_append]; omega), List.append_assoc]

end Components

/-- The list of the components and the structure around it. -/
theorem structureSize_some {components : Bytes} {measured : SyntheticTypeSize}
    (h : structureSize components.length = some measured) :
    components.length = measured.componentBytes ∧
      (encodeTlv .contextSpecific true 1 components).length = measured.listBytes ∧
      components.length ≤ uint32Max ∧ measured.listBytes ≤ uint32Max ∧
      (encodeTlv .contextSpecific true 2
        (encodeTlv .contextSpecific true 1 components)).length = measured.encodedBytes := by
  unfold structureSize at h
  obtain ⟨listBytes, hlist, h⟩ := Option.bind_eq_some_iff.mp h
  obtain ⟨encodedBytes, hencoded, h⟩ := Option.bind_eq_some_iff.mp h
  cases h
  obtain ⟨hle, hlength⟩ := length_encodeTlv_of_tlvSize hlist .contextSpecific true
  subst hlength
  obtain ⟨hlistLe, htotal⟩ := length_encodeTlv_of_tlvSize hencoded .contextSpecific true
  exact ⟨rfl, rfl, hle, hlistLe, htotal⟩

/-- **The type of a structure is written in the measured size.** -/
theorem encodeSyntheticTypeSubtree_ok {levels : Nat} {path : Bytes} {measured : SyntheticTypeSize}
    (h : measureSyntheticTypeSubtree sort objects domain levels path = .ok measured) :
    ∃ components, components.length = measured.componentBytes ∧
      (encodeTlv .contextSpecific true 1 components).length = measured.listBytes ∧
      (encodeTlv .contextSpecific true 2
        (encodeTlv .contextSpecific true 1 components)).length = measured.encodedBytes ∧
      ∀ destinationSize, measured.encodedBytes ≤ destinationSize →
        encodeSyntheticTypeSubtree sort objects domain levels path destinationSize =
          .ok (encodeTlv .contextSpecific true 2 (encodeTlv .contextSpecific true 1 components)) := by
  induction levels generalizing path measured with
  | zero => cases h
  | succ levels ih =>
    have hmeasured := h
    rw [measureSyntheticTypeSubtree] at h
    split at h
    · cases h
    dsimp only at h
    split at h
    · cases h
    rename_i hoverflow
    split at h
    · cases h
    cases hloop : measureComponents (measureSyntheticTypeSubtree sort objects domain levels) path
        (sortedChildren sort objects domain path).values 0 with
    | error status =>
      rw [hloop] at h
      cases h
    | ok componentBytes =>
      rw [hloop] at h
      dsimp only at h
      split at h
      · cases h
      rename_i found hsize
      cases h
      have hchildren : ∀ child ∈ (sortedChildren sort objects domain path).values,
          SubtreeEncodes child (measureSyntheticTypeSubtree sort objects domain levels)
            (encodeSyntheticTypeSubtree sort objects domain levels) := by
        intro child _ nested hnested
        obtain ⟨components, -, -, hlength, hencode⟩ := ih hnested
        exact ⟨_, hlength, hencode⟩
      obtain ⟨components, htotal, hencode⟩ :=
        @measureComponents_encodes _ _ _ measured.encodedBytes _ hchildren _ _ hloop
      rw [Nat.zero_add] at htotal
      subst htotal
      obtain ⟨hcomponents, hlist, hle, hlistLe, hencoded⟩ := structureSize_some hsize
      refine ⟨components, hcomponents, hlist, hencoded, fun destinationSize hroom => ?_⟩
      have hsplit : (tlvHeader .contextSpecific true 2 measured.listBytes ++
            tlvHeader .contextSpecific true 1 components.length).length + components.length =
          measured.encodedBytes := by
        rw [← hencoded, encodeTlv, hlist, encodeTlv]
        simp only [List.length_append]
        omega
      have hheaders : (BerSpanWriter.writeTlvHeader { capacity := destinationSize } .contextSpecific
            true 2 measured.listBytes).bind
              (·.writeTlvHeader .contextSpecific true 1 measured.componentBytes) = some
          { capacity := destinationSize
            out := tlvHeader .contextSpecific true 2 measured.listBytes ++
              tlvHeader .contextSpecific true 1 components.length } := by
        have houter := writes_writeTlvHeader .contextSpecific true 2 hlistLe
        have hinner := writes_writeTlvHeader .contextSpecific true 1 hle
        rw [← hcomponents]
        refine (houter.bind hinner { capacity := destinationSize } (fits_new _)).trans ?_
        refine writeBytes_of_le ?_
        show 0 + _ ≤ destinationSize
        omega
      have hwritten := hencode
        { capacity := destinationSize
          out := tlvHeader .contextSpecific true 2 measured.listBytes ++
            tlvHeader .contextSpecific true 1 components.length } (by dsimp only; omega)
      have hout : tlvHeader .contextSpecific true 2 measured.listBytes ++
          tlvHeader .contextSpecific true 1 components.length ++ components =
            encodeTlv .contextSpecific true 2 (encodeTlv .contextSpecific true 1 components) := by
        rw [encodeTlv, hlist, encodeTlv, List.append_assoc]
      have hvalid : validTypeSpecification
          (encodeTlv .contextSpecific true 2 (encodeTlv .contextSpecific true 1 components)) = true :=
        validTypeSpecification_structure (by rw [hlist]; exact hlistLe)
      rw [encodeSyntheticTypeSubtree, hmeasured]
      dsimp only at hwritten ⊢
      rw [if_neg (Nat.not_lt.mpr hroom)]
      simp only [Option.bind_eq_bind]
      rw [hheaders]
      dsimp only
      rw [if_neg hoverflow, hwritten]
      dsimp only
      rw [hout, hvalid, BerSpanWriter.size, hencoded]
      refine if_neg ?_
      rintro (hne | hnot)
      · exact hne rfl
      · cases hnot

end Types

/-! ## Both passes -/

/-- What is written has the measured size, whatever the callbacks answer. -/
theorem measured_of_encodeSyntheticSubtree {sort : ChildSort}
    {read : MmsStaticObjectEntry → Nat → EncodeResult} {objects : MmsStaticObjectTable}
    {domain path octets : Bytes} {levels destinationSize : Nat}
    (h : encodeSyntheticSubtree sort read objects domain levels path destinationSize = .ok octets) :
    ∃ measured, measureSyntheticSubtree sort read objects domain levels path = .ok measured ∧
      octets.length = measured.encodedBytes := by
  cases levels with
  | zero => cases h
  | succ levels =>
    rw [encodeSyntheticSubtree] at h
    split at h
    · cases h
    rename_i measured hmeasured
    dsimp only at h
    split at h
    · cases h
    split at h
    · cases h
    split at h
    · cases h
    split at h
    · cases h
    split at h
    · cases h
    rename_i hlength
    cases h
    exact ⟨measured, hmeasured, not_not.mp (not_or.mp hlength).1⟩

theorem measured_of_encodeSyntheticTypeSubtree {sort : ChildSort} {objects : MmsStaticObjectTable}
    {domain path octets : Bytes} {levels destinationSize : Nat}
    (h : encodeSyntheticTypeSubtree sort objects domain levels path destinationSize = .ok octets) :
    ∃ measured, measureSyntheticTypeSubtree sort objects domain levels path = .ok measured ∧
      octets.length = measured.encodedBytes := by
  cases levels with
  | zero => cases h
  | succ levels =>
    rw [encodeSyntheticTypeSubtree] at h
    split at h
    · cases h
    rename_i measured hmeasured
    dsimp only at h
    split at h
    · cases h
    split at h
    · cases h
    split at h
    · cases h
    split at h
    · cases h
    split at h
    · cases h
    rename_i hlength
    cases h
    exact ⟨measured, hmeasured, not_not.mp (not_or.mp hlength).1⟩

/-- **The sizes of synthesised structures**: the second pass writes what the first one measured, in
values and in types, and writes nothing else. -/
theorem synthetic_sizes (sort : ChildSort) (read : MmsStaticObjectEntry → Nat → EncodeResult)
    (objects : MmsStaticObjectTable) (domain path : Bytes) (levels destinationSize : Nat) :
    (HoldValues read objects domain path → ∀ measured,
        measureSyntheticSubtree sort read objects domain levels path = .ok measured →
      ∃ content, content.length = measured.contentBytes ∧
        (encodeTlv .contextSpecific true 2 content).length = measured.encodedBytes ∧
        (measured.encodedBytes ≤ destinationSize →
          encodeSyntheticSubtree sort read objects domain levels path destinationSize =
            .ok (encodeTlv .contextSpecific true 2 content))) ∧
    (∀ octets, encodeSyntheticSubtree sort read objects domain levels path destinationSize =
        .ok octets →
      ∃ measured, measureSyntheticSubtree sort read objects domain levels path = .ok measured ∧
        octets.length = measured.encodedBytes) ∧
    (∀ measured, measureSyntheticTypeSubtree sort objects domain levels path = .ok measured →
      ∃ components, components.length = measured.componentBytes ∧
        (encodeTlv .contextSpecific true 1 components).length = measured.listBytes ∧
        (encodeTlv .contextSpecific true 2
          (encodeTlv .contextSpecific true 1 components)).length = measured.encodedBytes ∧
        (measured.encodedBytes ≤ destinationSize →
          encodeSyntheticTypeSubtree sort objects domain levels path destinationSize =
            .ok (encodeTlv .contextSpecific true 2
              (encodeTlv .contextSpecific true 1 components)))) ∧
    (∀ octets, encodeSyntheticTypeSubtree sort objects domain levels path destinationSize =
        .ok octets →
      ∃ measured, measureSyntheticTypeSubtree sort objects domain levels path = .ok measured ∧
        octets.length = measured.encodedBytes) := by
  refine ⟨?_, fun _ => measured_of_encodeSyntheticSubtree, ?_,
    fun _ => measured_of_encodeSyntheticTypeSubtree⟩
  · intro hvalues measured hmeasured
    obtain ⟨content, hcontent, hlength, hencode⟩ := encodeSyntheticSubtree_ok hvalues hmeasured
    exact ⟨content, hcontent, hlength, hencode destinationSize⟩
  · intro measured hmeasured
    obtain ⟨components, hcomponents, hlist, hlength, hencode⟩ :=
      encodeSyntheticTypeSubtree_ok hmeasured
    exact ⟨components, hcomponents, hlist, hlength, hencode destinationSize⟩

/-- The children as they are collected. -/
def ChildSort.none : ChildSort where
  order := fun _ children => children
  perm := fun _ _ => .refl _

/-- Two attributes in a structure below `L`. -/
def attributeTable : MmsStaticObjectTable where
  objects :=
    [{ domain := ascii "D", item := ascii "L$ST$A", typeSpecification := [0x83, 0] },
      { domain := ascii "D", item := ascii "L$ST$B", typeSpecification := [0x83, 0] }]

/-- A callback with the value TRUE. -/
def trueAnswer (size : Nat) : EncodeResult :=
  if size < 3 then { status := .bufferTooSmall, requiredBytes := 3 }
  else { bytes := [0x83, 1, 1], requiredBytes := 3 }

theorem synthetic_sizes_attributes :
    ∃ content, content.length = 8 ∧
      encodeSyntheticSubtree .none (fun _ => trueAnswer) attributeTable (ascii "D")
        maximumSyntheticReadDepth (ascii "L") 64 = .ok (encodeTlv .contextSpecific true 2 content) := by
  have hholds : Holds trueAnswer [0x83, 1, 1] := by
    refine ⟨fun size hsize => ?_, fun size hsize => ?_⟩
    · have hfits : ¬size < 3 := Nat.not_lt.mpr hsize
      rw [trueAnswer, if_neg hfits]
      exact ⟨rfl, rfl⟩
    · have hshort : size < 3 := hsize
      rw [trueAnswer, if_pos hshort]
      exact ⟨rfl, rfl⟩
  obtain ⟨hvalue, -⟩ := synthetic_sizes .none (fun _ => trueAnswer) attributeTable (ascii "D")
    (ascii "L") maximumSyntheticReadDepth 64
  obtain ⟨content, hcontent, -, hencode⟩ := hvalue (fun _ _ _ _ => ⟨_, hholds, by decide⟩)
    { contentBytes := 8, encodedBytes := 10 } (by decide)
  exact ⟨content, hcontent, hencode (by decide)⟩

end ArStack.Mms.MmsStaticApplicationDispatcher
