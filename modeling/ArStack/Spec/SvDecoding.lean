import ArStack.Lib.Throws
import ArStack.SampledValues.PduCodec

/-!
# Decoding the Sampled Values PDU

What the loops of the decoder read from the fields, each field by itself.

* `readAsduFields_synch` — the synchronisation of an ASDU is that of its last field of the kind
* `readAsduFields_one` — and of its only one, whatever the octet is
* `pdu_tryDecode_eq_some` — the PDU in its fields
-/

namespace ArStack.SampledValues

open ArStack.Asn1 ArStack.Lib ArStack.Mms

/-- A relation with two parts of a list. -/
theorem forall₂_append_left {α β : Type} {R : α → β → Prop} {xs ys : List α} {zs : List β}
    (h : List.Forall₂ R (xs ++ ys) zs) :
    ∃ as bs, zs = as ++ bs ∧ List.Forall₂ R xs as ∧ List.Forall₂ R ys bs := by
  induction xs generalizing zs with
  | nil => exact ⟨[], zs, rfl, .nil, h⟩
  | cons x xs ih =>
    cases h with
    | cons hx h =>
      obtain ⟨as, bs, rfl, hxs, hys⟩ := ih h
      exact ⟨_ :: as, bs, rfl, .cons hx hxs, hys⟩

/-! ## The fields of an ASDU -/

/-- The field that carries `sampleSynchronization`. -/
def isSmpSynch (field : BerTlv) : Bool :=
  field.tagClass == .contextSpecific && !field.constructed && field.tagNumber == 5

def withSynch (value : UInt8) (asdu : SampledValueAsdu) : SampledValueAsdu :=
  { asdu with sampleSynchronization := value }

section Fields

variable {asdu r : SampledValueAsdu} {field : BerTlv} {fields : List BerTlv}

theorem readAsduField_synch (asdu : SampledValueAsdu) (h : isSmpSynch field = true) :
    readAsduField asdu field =
      .ok ((readUnsignedExact field 0xFF).map fun n => withSynch (.ofNat n) asdu) := by
  simp only [isSmpSynch, Bool.and_eq_true, beq_iff_eq, Bool.not_eq_true'] at h
  obtain ⟨⟨hclass, hconstructed⟩, hnumber⟩ := h
  rw [readAsduField, if_neg (by simp [hclass, hconstructed]), hnumber]
  rfl

/-- Another field does not look at the synchronisation. -/
theorem readAsduField_other (asdu : SampledValueAsdu) (h : isSmpSynch field = false)
    (value : UInt8) :
    readAsduField (withSynch value asdu) field =
      (readAsduField asdu field).map (Option.map (withSynch value)) := by
  rw [readAsduField, readAsduField]
  split
  · rfl
  · rename_i hprimitive
    split
    all_goals try rfl
    · cases readUnsignedExact field 0xFFFF <;> rfl
    · cases readUnsignedExact field uint32Max <;> rfl
    · cases Iec61850UtcTime.fromBytes field.value <;> rfl
    · rename_i hnumber
      simp only [not_or, ne_eq, Decidable.not_not, Bool.not_eq_true] at hprimitive
      rw [isSmpSynch, hprimitive.1, hprimitive.2, hnumber] at h
      exact absurd h (by decide)
    · cases readUnsignedExact field 0xFFFF <;> rfl
    · cases readUnsignedExact field 0xFFFF <;> rfl
    · cases OctetArray.ofSpan 8 field.value <;> rfl

theorem readAsduField_keeps (h : readAsduField asdu field = .ok (some r))
    (hother : isSmpSynch field = false) :
    r.sampleSynchronization = asdu.sampleSynchronization := by
  have hsame := readAsduField_other asdu hother asdu.sampleSynchronization
  have hself : withSynch asdu.sampleSynchronization asdu = asdu := rfl
  rw [hself, h] at hsame
  obtain hr := Option.some.inj (Except.ok.inj hsame)
  rw [hr]
  rfl

/-- The synchronisation after the fields. -/
def synchOf (fields : List BerTlv) (value : UInt8) : UInt8 :=
  fields.foldl
    (fun value field => if isSmpSynch field then .ofNat (beValue field.value) else value) value

theorem readUnsignedExact_eq_some {maximum n : Nat}
    (h : readUnsignedExact field maximum = some n) : n = beValue field.value := by
  rw [readUnsignedExact, BerReader.readUnsignedInteger] at h
  split at h
  · cases h
  · rename_i decoded hdecoded
    rw [Option.ite_none_left_eq_some] at hdecoded h
    exact (Option.some.inj h.2).symm.trans (Option.some.inj hdecoded.2).symm

theorem readAsduFields_cons_eq_ok : readAsduFields (field :: fields) asdu = .ok (some r) ↔
    ∃ next, readAsduField asdu field = .ok (some next) ∧
      readAsduFields fields next = .ok (some r) := by
  rw [readAsduFields]
  cases hfield : readAsduField asdu field with
  | error e =>
    constructor
    · intro h
      cases h
    · rintro ⟨next, hnext, -⟩
      cases hnext
  | ok read =>
    cases read with
    | none =>
      constructor
      · intro h
        cases h
      · rintro ⟨next, hnext, -⟩
        cases hnext
    | some next =>
      constructor
      · intro h
        exact ⟨next, rfl, h⟩
      · rintro ⟨next', hnext, h⟩
        cases hnext
        exact h

/-- **The synchronisation of an ASDU** is that of its last field of the kind. -/
theorem readAsduFields_synch (h : readAsduFields fields asdu = .ok (some r)) :
    r.sampleSynchronization = synchOf fields asdu.sampleSynchronization := by
  induction fields generalizing asdu with
  | nil =>
    cases h
    rfl
  | cons field fields ih =>
    obtain ⟨next, hnext, h⟩ := readAsduFields_cons_eq_ok.mp h
    rw [ih h, synchOf, synchOf, List.foldl_cons]
    congr 1
    split
    · rename_i hsynch
      rw [readAsduField_synch asdu hsynch] at hnext
      obtain ⟨n, hn, rfl⟩ := Option.map_eq_some_iff.mp (Except.ok.inj hnext)
      rw [readUnsignedExact_eq_some hn]
      rfl
    · rename_i hother
      exact readAsduField_keeps hnext ((Bool.not_eq_true _).mp hother)

theorem synchOf_of_none (h : ∀ field ∈ fields, isSmpSynch field = false) (value : UInt8) :
    synchOf fields value = value := by
  induction fields with
  | nil => rfl
  | cons field fields ih =>
    obtain ⟨hfield, hfields⟩ := List.forall_mem_cons.mp h
    have hrest := ih hfields
    rw [synchOf, List.foldl_cons, hfield]
    exact hrest

theorem synchOf_of_some (h : ∃ field ∈ fields, isSmpSynch field = true) (value value' : UInt8) :
    synchOf fields value = synchOf fields value' := by
  induction fields generalizing value value' with
  | nil =>
    obtain ⟨field, hfield, -⟩ := h
    exact absurd hfield List.not_mem_nil
  | cons field fields ih =>
    rw [synchOf, synchOf, List.foldl_cons, List.foldl_cons]
    cases hsynch : isSmpSynch field with
    | true => rfl
    | false =>
      obtain ⟨other, hother, hsome⟩ := h
      rcases List.mem_cons.mp hother with rfl | hother
      · rw [hsynch] at hsome
        cases hsome
      · exact ih ⟨other, hother, hsome⟩ value value'

theorem readAsduFields_append_eq_ok {more : List BerTlv} :
    readAsduFields (fields ++ more) asdu = .ok (some r) ↔
      ∃ next, readAsduFields fields asdu = .ok (some next) ∧
        readAsduFields more next = .ok (some r) := by
  induction fields generalizing asdu with
  | nil =>
    constructor
    · intro h
      exact ⟨asdu, rfl, h⟩
    · rintro ⟨next, hnext, h⟩
      cases hnext
      exact h
  | cons field fields ih =>
    rw [List.cons_append, readAsduFields_cons_eq_ok]
    simp only [ih, readAsduFields_cons_eq_ok]
    constructor
    · rintro ⟨first, hfirst, next, hnext, h⟩
      exact ⟨next, ⟨first, hfirst, hnext⟩, h⟩
    · rintro ⟨next, ⟨first, hfirst, hnext⟩, h⟩
      exact ⟨first, hfirst, next, hnext, h⟩

/-- Other fields do not look at the synchronisation. -/
theorem readAsduFields_other (hother : ∀ field ∈ fields, isSmpSynch field = false)
    (h : readAsduFields fields asdu = .ok (some r)) (value : UInt8) :
    readAsduFields fields (withSynch value asdu) = .ok (some (withSynch value r)) := by
  induction fields generalizing asdu with
  | nil =>
    cases h
    rfl
  | cons field fields ih =>
    obtain ⟨hfield, hfields⟩ := List.forall_mem_cons.mp hother
    obtain ⟨next, hnext, h⟩ := readAsduFields_cons_eq_ok.mp h
    refine readAsduFields_cons_eq_ok.mpr ⟨withSynch value next, ?_, ih hfields h⟩
    rw [readAsduField_other asdu hfield value, hnext]
    rfl

/-- **The only field of the kind** decides the synchronisation, whatever its octet is. -/
theorem readAsduFields_one {before after : List BerTlv} (hsynch : isSmpSynch field = true)
    (hafter : ∀ field ∈ after, isSmpSynch field = false)
    (h : readAsduFields (before ++ field :: after) asdu = .ok (some r)) (octet : UInt8) :
    readAsduFields (before ++ { field with value := [octet] } :: after) asdu =
      .ok (some (withSynch octet r)) := by
  obtain ⟨next, hnext, h⟩ := readAsduFields_append_eq_ok.mp h
  obtain ⟨next', hnext', h⟩ := readAsduFields_cons_eq_ok.mp h
  refine readAsduFields_append_eq_ok.mpr ⟨next, hnext, readAsduFields_cons_eq_ok.mpr
    ⟨withSynch octet next', ?_, readAsduFields_other hafter h octet⟩⟩
  have hsynch' : isSmpSynch { field with value := [octet] } = true := hsynch
  rw [readAsduField_synch next hsynch] at hnext'
  obtain ⟨n, -, rfl⟩ := Option.map_eq_some_iff.mp (Except.ok.inj hnext')
  have hread : readUnsignedExact { field with value := [octet] } 0xFF = some octet.toNat := by
    have hlt := octet.toNat_lt
    rw [readUnsignedExact, BerReader.readUnsignedInteger, if_neg (by simp)]
    dsimp only
    rw [beValue_cons, beValue_nil, List.length_nil, Nat.pow_zero, Nat.mul_one, Nat.add_zero,
      if_neg (by omega)]
  rw [readAsduField_synch next hsynch', hread]
  simp only [Option.map_some, UInt8.ofNat_toNat]
  rfl

end Fields

/-! ## The ASDUs -/

/-- The child is read as the ASDU. -/
structure ReadsAsdu (child : BerTlv) (asdu : SampledValueAsdu) : Prop where
  tagClass : child.tagClass = .universal
  tagNumber : child.tagNumber = 16
  constructed : child.constructed = true
  value : readAsdu child.value = .ok (some asdu)

theorem readAsdu_eq_ok {value : Bytes} {asdu : SampledValueAsdu} :
    readAsdu value = .ok (some asdu) ↔ ∃ fields, BerReader.readChildren value = .ok fields ∧
      readAsduFields fields { configurationRevision := 0, sampleSynchronization := 0 } =
        .ok (some asdu) := by
  constructor
  · intro h
    exact except_bind_ok h
  · rintro ⟨fields, hfields, h⟩
    rw [readAsdu, hfields]
    exact h

theorem readAsdus_eq_ok {children : List BerTlv} {asdus asdus' : List SampledValueAsdu} :
    readAsdus children asdus = .ok (some asdus') ↔
      ∃ decoded, List.Forall₂ ReadsAsdu children decoded ∧ asdus' = asdus ++ decoded := by
  induction children generalizing asdus with
  | nil =>
    constructor
    · intro h
      cases h
      exact ⟨[], .nil, (List.append_nil _).symm⟩
    · rintro ⟨decoded, hdecoded, rfl⟩
      cases hdecoded
      rw [List.append_nil]
      rfl
  | cons child children ih =>
    rw [readAsdus]
    split
    · rename_i hnot
      constructor
      · intro h
        cases h
      · rintro ⟨decoded, hdecoded, -⟩
        cases hdecoded with
        | cons hread _ =>
          exact absurd hnot (by simp [hread.tagClass, hread.tagNumber, hread.constructed])
    · rename_i hasdu
      simp only [not_or, ne_eq, Decidable.not_not, Bool.not_eq_true', Bool.not_eq_false] at hasdu
      obtain ⟨hclass, hnumber, hconstructed⟩ := hasdu
      constructor
      · intro h
        obtain ⟨read, hread, h⟩ := except_bind_ok h
        cases read with
        | none => cases h
        | some asdu =>
          obtain ⟨decoded, hdecoded, rfl⟩ := ih.mp h
          exact ⟨asdu :: decoded, .cons ⟨hclass, hnumber, hconstructed, hread⟩ hdecoded,
            by rw [List.append_assoc, List.singleton_append]⟩
      · rintro ⟨decoded, hdecoded, rfl⟩
        cases hdecoded with
        | @cons _ asdu _ decoded hread hdecoded =>
          rw [hread.value]
          exact ih.mpr ⟨decoded, hdecoded, by rw [List.append_assoc, List.singleton_append]⟩

/-! ## The fields of the PDU -/

def isAsduCount (field : BerTlv) : Bool :=
  field.tagClass == .contextSpecific && field.tagNumber == 0 && !field.constructed

def isAsduSequence (field : BerTlv) : Bool :=
  field.tagClass == .contextSpecific && field.tagNumber == 2 && field.constructed

/-- The field is read as so many ASDUs. -/
structure ReadsField (field : BerTlv) (asdus : List SampledValueAsdu) : Prop where
  count : isAsduCount field = true → (readUnsignedExact field 0xFFFF).isSome = true
  sequence : isAsduSequence field = true → ∃ children,
    BerReader.readChildren field.value = .ok children ∧ List.Forall₂ ReadsAsdu children asdus
  other : isAsduSequence field = false → asdus = []

/-- The declared count after a field. -/
def countOf (count : Option UInt16) (field : BerTlv) : Option UInt16 :=
  if isAsduCount field then (readUnsignedExact field 0xFFFF).map .ofNat else count

theorem readAsduSequence_eq_ok {value : Bytes} {asdus asdus' : List SampledValueAsdu} :
    readAsduSequence value asdus = .ok (some asdus') ↔ ∃ children,
      BerReader.readChildren value = .ok children ∧
      ∃ decoded, List.Forall₂ ReadsAsdu children decoded ∧ asdus' = asdus ++ decoded := by
  simp only [← readAsdus_eq_ok]
  constructor
  · intro h
    exact except_bind_ok h
  · rintro ⟨children, hchildren, h⟩
    rw [readAsduSequence, hchildren]
    exact h

theorem not_sequence_of_count {field : BerTlv} (h : isAsduCount field = true) :
    isAsduSequence field = false := by
  simp only [isAsduCount, Bool.and_eq_true, beq_iff_eq] at h
  rw [isAsduSequence, h.1.2]
  simp

/-- **One field of the PDU.** -/
theorem readPduFields_cons_eq_ok {field : BerTlv} {fields : List BerTlv} {found r : PduFields} :
    readPduFields (field :: fields) found = .ok (some r) ↔ ∃ asdus, ReadsField field asdus ∧
      readPduFields fields { declaredAsduCount := countOf found.declaredAsduCount field
                             asdus := found.asdus ++ asdus } = .ok (some r) := by
  cases hcount : isAsduCount field with
  | true =>
    have hsequence := not_sequence_of_count hcount
    have hparts := hcount
    simp only [isAsduCount, Bool.and_eq_true, beq_iff_eq, Bool.not_eq_true'] at hparts
    obtain ⟨⟨hclass, hnumber⟩, hconstructed⟩ := hparts
    rw [readPduFields, if_neg (by simp [hclass]), if_pos (by simp [hnumber, hconstructed]), countOf,
      if_pos hcount]
    cases hread : readUnsignedExact field 0xFFFF with
    | none =>
      constructor
      · intro h
        cases h
      · rintro ⟨asdus, hreads, -⟩
        have hsome := hreads.count hcount
        rw [hread] at hsome
        cases hsome
    | some count =>
      constructor
      · intro h
        refine ⟨[], ⟨fun _ => by rw [hread]; rfl, fun h => ?_, fun _ => rfl⟩, ?_⟩
        · rw [hsequence] at h
          cases h
        · rw [List.append_nil]
          exact h
      · rintro ⟨asdus, hreads, h⟩
        rw [hreads.other hsequence, List.append_nil] at h
        exact h
  | false =>
    cases hsequence : isAsduSequence field with
    | true =>
      have hparts := hsequence
      simp only [isAsduSequence, Bool.and_eq_true, beq_iff_eq] at hparts
      obtain ⟨⟨hclass, hnumber⟩, hconstructed⟩ := hparts
      rw [readPduFields, if_neg (by simp [hclass]), if_neg (by simp [hnumber]),
        if_pos ⟨hnumber, hconstructed⟩, countOf, hcount]
      constructor
      · intro h
        obtain ⟨read, hread, h⟩ := except_bind_ok h
        cases read with
        | none => cases h
        | some asdus =>
          obtain ⟨children, hchildren, decoded, hdecoded, rfl⟩ := readAsduSequence_eq_ok.mp hread
          refine ⟨decoded, ⟨fun h => ?_, fun _ => ⟨children, hchildren, hdecoded⟩, fun h => ?_⟩, h⟩
          · rw [hcount] at h
            cases h
          · rw [hsequence] at h
            cases h
      · rintro ⟨asdus, hreads, h⟩
        obtain ⟨children, hchildren, hdecoded⟩ := hreads.sequence hsequence
        rw [readAsduSequence_eq_ok.mpr ⟨children, hchildren, asdus, hdecoded, rfl⟩]
        exact h
    | false =>
      have hskip : readPduFields (field :: fields) found = readPduFields fields found := by
        rw [readPduFields]
        split
        · rfl
        · rename_i hclass
          rw [ne_eq, Decidable.not_not] at hclass
          rw [if_neg, if_neg]
          · rintro ⟨hnumber, hconstructed⟩
            simp [isAsduSequence, hclass, hnumber, hconstructed] at hsequence
          · rintro ⟨hnumber, hconstructed⟩
            simp [isAsduCount, hclass, hnumber, hconstructed] at hcount
      rw [hskip, countOf, hcount]
      constructor
      · intro h
        refine ⟨[], ⟨fun h => ?_, fun h => ?_, fun _ => rfl⟩, by rw [List.append_nil]; exact h⟩
        · rw [hcount] at h
          cases h
        · rw [hsequence] at h
          cases h
      · rintro ⟨asdus, hreads, h⟩
        rw [hreads.other hsequence, List.append_nil] at h
        exact h

/-- **The fields of the PDU**, each by itself. -/
theorem readPduFields_eq_ok {fields : List BerTlv} {found r : PduFields} :
    readPduFields fields found = .ok (some r) ↔ ∃ decoded, List.Forall₂ ReadsField fields decoded ∧
      r = { declaredAsduCount := fields.foldl countOf found.declaredAsduCount
            asdus := found.asdus ++ decoded.flatten } := by
  induction fields generalizing found with
  | nil =>
    constructor
    · intro h
      cases h
      exact ⟨[], .nil, by rw [List.flatten_nil, List.append_nil]; rfl⟩
    · rintro ⟨decoded, hdecoded, rfl⟩
      cases hdecoded
      rw [List.flatten_nil, List.append_nil]
      rfl
  | cons field fields ih =>
    rw [readPduFields_cons_eq_ok]
    simp only [ih]
    constructor
    · rintro ⟨asdus, hreads, decoded, hdecoded, rfl⟩
      exact ⟨asdus :: decoded, .cons hreads hdecoded, by
        rw [List.foldl_cons, List.flatten_cons, List.append_assoc]⟩
    · rintro ⟨decoded, hdecoded, rfl⟩
      cases hdecoded with
      | @cons _ asdus _ decoded hreads hdecoded =>
        exact ⟨asdus, hreads, decoded, hdecoded, by
          rw [List.foldl_cons, List.flatten_cons, List.append_assoc]⟩

/-! ## The PDU -/

/-- The children of a value, or none where it is malformed. -/
def childrenOf (value : Bytes) : List BerTlv := (BerReader.readChildren value).toOption.getD []

/-- The ASDUs of all sequences. -/
def asduTlvs (fields : List BerTlv) : List BerTlv :=
  (fields.filter isAsduSequence).flatMap fun field => childrenOf field.value

/-- A count is a number, and a sequence has children. -/
structure Readable (field : BerTlv) : Prop where
  count : isAsduCount field = true → (readUnsignedExact field 0xFFFF).isSome = true
  sequence : isAsduSequence field = true → ∃ children,
    BerReader.readChildren field.value = .ok children

theorem asduTlvs_append (fields fields' : List BerTlv) :
    asduTlvs (fields ++ fields') = asduTlvs fields ++ asduTlvs fields' := by
  rw [asduTlvs, List.filter_append, List.flatMap_append]
  rfl

theorem asduTlvs_sequence {field : BerTlv} (hsequence : isAsduSequence field = true)
    {children : List BerTlv} (hchildren : BerReader.readChildren field.value = .ok children)
    (fields : List BerTlv) : asduTlvs (field :: fields) = children ++ asduTlvs fields := by
  rw [asduTlvs, List.filter_cons_of_pos hsequence, List.flatMap_cons, childrenOf, hchildren]
  rfl

theorem asduTlvs_other {field : BerTlv} (hother : isAsduSequence field = false)
    (fields : List BerTlv) : asduTlvs (field :: fields) = asduTlvs fields := by
  rw [asduTlvs, List.filter_cons_of_neg (by rw [hother]; exact Bool.false_ne_true)]
  rfl

/-- The ASDUs of the fields are those of the sequences, one after the other. -/
theorem readsFields_iff {fields : List BerTlv} {asdus : List SampledValueAsdu} :
    (∃ decoded, List.Forall₂ ReadsField fields decoded ∧ asdus = decoded.flatten) ↔
      (∀ field ∈ fields, Readable field) ∧ List.Forall₂ ReadsAsdu (asduTlvs fields) asdus := by
  induction fields generalizing asdus with
  | nil =>
    constructor
    · rintro ⟨decoded, hdecoded, rfl⟩
      cases hdecoded
      exact ⟨fun field hfield => absurd hfield List.not_mem_nil, .nil⟩
    · rintro ⟨-, hasdus⟩
      have hasdus : List.Forall₂ ReadsAsdu [] asdus := hasdus
      cases hasdus
      exact ⟨[], .nil, rfl⟩
  | cons field fields ih =>
    rw [List.forall_mem_cons]
    constructor
    · rintro ⟨decoded, hdecoded, rfl⟩
      cases hdecoded with
      | @cons _ first _ decoded hreads hdecoded =>
        obtain ⟨hreadable, hasdus⟩ := ih.mp ⟨decoded, hdecoded, rfl⟩
        cases hsequence : isAsduSequence field with
        | true =>
          obtain ⟨children, hchildren, hfirst⟩ := hreads.sequence hsequence
          rw [asduTlvs_sequence hsequence hchildren, List.flatten_cons]
          exact ⟨⟨⟨hreads.count, fun _ => ⟨children, hchildren⟩⟩, hreadable⟩,
            List.rel_append hfirst hasdus⟩
        | false =>
          rw [asduTlvs_other hsequence, List.flatten_cons, hreads.other hsequence, List.nil_append]
          refine ⟨⟨⟨hreads.count, fun h => ?_⟩, hreadable⟩, hasdus⟩
          rw [hsequence] at h
          cases h
    · rintro ⟨⟨hfield, hreadable⟩, hasdus⟩
      cases hsequence : isAsduSequence field with
      | true =>
        obtain ⟨children, hchildren⟩ := hfield.sequence hsequence
        rw [asduTlvs_sequence hsequence hchildren] at hasdus
        obtain ⟨first, others, rfl, hfirst, hothers⟩ := forall₂_append_left hasdus
        obtain ⟨decoded, hdecoded, rfl⟩ := ih.mpr ⟨hreadable, hothers⟩
        refine ⟨first :: decoded, .cons ⟨hfield.count, fun _ => ⟨children, hchildren, hfirst⟩,
          fun h => ?_⟩ hdecoded, rfl⟩
        rw [hsequence] at h
        cases h
      | false =>
        rw [asduTlvs_other hsequence] at hasdus
        obtain ⟨decoded, hdecoded, rfl⟩ := ih.mpr ⟨hreadable, hasdus⟩
        refine ⟨[] :: decoded, .cons ⟨hfield.count, fun h => ?_, fun _ => rfl⟩ hdecoded, rfl⟩
        rw [hsequence] at h
        cases h

/-- **The PDU in its fields.** -/
theorem pdu_tryDecode_eq_some {apdu : Bytes} {pdu : SampledValuesPdu} :
    SampledValuesPduCodec.tryDecode apdu = some pdu ↔ ∃ outer fields,
      BerReader.tryReadTlv apdu = some (outer, []) ∧
      (outer.tagClass = .application ∧ outer.tagNumber = 0 ∧ outer.constructed = true) ∧
      BerReader.readChildren outer.value = .ok fields ∧
      (∀ field ∈ fields, Readable field) ∧
      List.Forall₂ ReadsAsdu (asduTlvs fields) pdu.asdus ∧
      ∀ count ∈ fields.foldl countOf none, pdu.asdus.length = count.toNat := by
  constructor
  · intro h
    rw [SampledValuesPduCodec.tryDecode] at h
    split at h
    swap
    · cases h
    rename_i outer houter
    rw [Option.ite_none_left_eq_some] at h
    obtain ⟨hexpected, h⟩ := h
    simp only [not_or, ne_eq, Decidable.not_not, Bool.not_eq_true', Bool.not_eq_false]
      at hexpected
    split at h
    · cases h
    · cases h
    · rename_i found hfound
      obtain ⟨fields, hfields, hread⟩ := except_bind_ok hfound
      obtain ⟨decoded, hdecoded, rfl⟩ := readPduFields_eq_ok.mp hread
      rw [Option.ite_none_left_eq_some] at h
      obtain ⟨hcounted, h⟩ := h
      obtain rfl := Option.some.inj h
      obtain ⟨hreadable, hasdus⟩ := readsFields_iff.mp ⟨decoded, hdecoded, rfl⟩
      refine ⟨outer, fields, houter, hexpected, hfields, hreadable, hasdus, fun count hcount => ?_⟩
      by_contra hne
      refine hcounted ?_
      dsimp only
      rw [Option.mem_def.mp hcount]
      simpa using hne
  · rintro ⟨outer, fields, houter, ⟨hclass, hnumber, hconstructed⟩, hfields, hreadable, hasdus,
      hcount⟩
    obtain ⟨decoded, hdecoded, hflat⟩ := readsFields_iff.mpr ⟨hreadable, hasdus⟩
    have hread : (BerReader.readChildren outer.value).bind (fun fields => readPduFields fields {}) =
        .ok (some { declaredAsduCount := fields.foldl countOf none, asdus := pdu.asdus }) := by
      rw [hfields]
      exact readPduFields_eq_ok.mpr ⟨decoded, hdecoded, by rw [hflat]; rfl⟩
    rw [SampledValuesPduCodec.tryDecode, houter]
    dsimp only
    rw [if_neg (by simp [hclass, hnumber, hconstructed]), hread]
    dsimp only
    rw [if_neg]
    intro hany
    obtain ⟨count, hmem, hne⟩ := (Option.any_eq_true _ _).mp hany
    exact of_decide_eq_true hne (hcount count hmem)

end ArStack.SampledValues
