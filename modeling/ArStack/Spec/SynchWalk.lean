import ArStack.SampledValues.WireFieldOffsets
import ArStack.Spec.BerItems
import ArStack.Spec.BerValues
import ArStack.Spec.SvDecoding

/-!
# The walk of the locator

The locator walks offsets of the frame, the decoder reads lists of octets. Where both read a TLV
they read the same one.

* `readBerTlv_spec` — one TLV, read both ways
* `walk_some`, `walk_none` — the TLVs that a loop of the locator passes
* `inPdu_of_find` — where the locator finds an offset
-/

namespace ArStack.SampledValues

open ArStack.Asn1 ArStack.Lib ArStack.Ethernet BerReader WireFieldDetail

/-! ## One TLV -/

theorem readLengthOctets_eq {bytes : Bytes} {count cursor acc length : Nat}
    (h : readLengthOctets bytes count cursor acc = some length)
    (hfits : cursor + count ≤ bytes.length) :
    length = (slice bytes cursor count).foldl (fun acc b => acc <<< 8 ||| b.toNat) acc := by
  induction count generalizing cursor acc with
  | zero => exact (Option.some.inj h).symm
  | succ count ih =>
    have hlt : cursor < bytes.length := by omega
    rw [readLengthOctets, Option.ite_none_left_eq_some] at h
    have hslice : slice bytes cursor (count + 1) =
        octetAt bytes cursor :: slice bytes (cursor + 1) count := by
      rw [slice, List.drop_eq_getElem_cons hlt, List.take_succ_cons, octetAt,
        List.getD_eq_getElem _ _ hlt, slice]
    rw [hslice, List.foldl_cons]
    exact ih h.2 (by omega)

/-- The octets between the cursor and the limit. -/
def region (frame : Bytes) (cursor limit : Nat) : Bytes := (frame.take limit).drop cursor

theorem length_region {frame : Bytes} {limit : Nat} (hlimit : limit ≤ frame.length) (cursor : Nat) :
    (region frame cursor limit).length = limit - cursor := by
  rw [region, List.length_drop, List.length_take, Nat.min_eq_left hlimit]

theorem region_cons {frame : Bytes} {cursor limit : Nat} (hlimit : limit ≤ frame.length)
    (hcursor : cursor < limit) :
    region frame cursor limit = octetAt frame cursor :: region frame (cursor + 1) limit := by
  have hlt : cursor < (frame.take limit).length := by
    rw [List.length_take]
    omega
  rw [region, List.drop_eq_getElem_cons hlt, List.getElem_take, octetAt,
    List.getD_eq_getElem _ _ (Nat.lt_of_lt_of_le hcursor hlimit), region]

/-- The view shows the TLV, which `rest` follows. -/
structure Shows (cursor limit : Nat) (view : WireFieldDetail.BerTlvView)
    (tlv : BerTlv) (rest : Bytes) : Prop where
  tagged : tlv = taggedTlv view.tag tlv.value
  valueLength : view.valueLength = tlv.value.length
  behind : cursor < view.valueOffset
  valueEnd : view.valueOffset + tlv.value.length = view.endOffset
  limit : view.endOffset + rest.length = limit

/-- A length, read both ways. -/
theorem readLength_region {frame : Bytes} {cursor limit length : Nat} {after : Bytes}
    (hlimit : limit ≤ frame.length) {count : Nat} (hcount : cursor + count ≤ limit)
    (hlength : readLengthOctets frame count cursor 0 = some length)
    (hafter : after = region frame cursor limit) : beValue (after.take count) = length := by
  have htake : after.take count = slice frame cursor count := by
    rw [hafter, region, slice, List.drop_take, List.take_take, Nat.min_eq_left (by omega)]
  rw [readLengthOctets_eq hlength (by omega), htake, beValue]

/-- **One TLV**, read both ways. -/
theorem readBerTlv_spec {frame : Bytes} {cursor limit : Nat} {view : WireFieldDetail.BerTlvView}
    {tlv : BerTlv} {rest : Bytes} (hlimit : limit ≤ frame.length)
    (hview : readBerTlv frame cursor limit = some view)
    (htlv : tryReadTlv (region frame cursor limit) = some (tlv, rest)) :
    Shows cursor limit view tlv rest := by
  rw [readBerTlv, Option.ite_none_left_eq_some] at hview
  obtain ⟨hcursor, hview⟩ := hview
  dsimp only at hview
  rw [Option.ite_none_left_eq_some] at hview
  obtain ⟨htag, hview⟩ := hview
  rw [not_or] at hcursor htag
  obtain ⟨hlow, hnext⟩ := htag
  rw [region_cons hlimit (by omega), region_cons hlimit (by omega), tryReadTlv] at htlv
  generalize hafter : region frame (cursor + 1 + 1) limit = after at htlv
  have hafterLength : after.length = limit - (cursor + 1 + 1) := by
    rw [← hafter, length_region hlimit]
  generalize octetAt frame cursor = tag at hlow hview htlv
  generalize octetAt frame (cursor + 1) = lengthByte at hview htlv
  cases hread : BerSpanReader.tryReadTlv (tag :: lengthByte :: after) with
  | none =>
    rw [hread] at htlv
    cases htlv
  | some read =>
    obtain ⟨read, rest'⟩ := read
    rw [hread] at htlv
    obtain ⟨rfl, rfl⟩ := Prod.mk.inj (Option.some.inj htlv)
    rw [BerSpanReader.tryReadTlv, BerSpanReader.readTagNumber, if_neg hlow] at hread
    obtain ⟨_, htagNumber, hread⟩ := Option.bind_eq_some_iff.mp hread
    obtain rfl := Option.some.inj htagNumber
    obtain ⟨⟨length, afterLength⟩, hlength, hread⟩ := Option.bind_eq_some_iff.mp hread
    dsimp only at hlength hread
    rw [Option.ite_none_left_eq_some] at hread
    obtain ⟨hfits, hread⟩ := hread
    obtain ⟨rfl, rfl⟩ := Prod.mk.inj (Option.some.inj hread)
    have hview' : ∃ lengthOctets, after.length = lengthOctets + afterLength.length ∧
        view = { tag, valueOffset := cursor + 1 + 1 + lengthOctets, valueLength := length,
                 endOffset := cursor + 1 + 1 + lengthOctets + length } := by
      rw [BerSpanReader.readLength] at hlength
      split at hlength
      · rename_i hshort
        obtain ⟨rfl, rfl⟩ := Prod.mk.inj (Option.some.inj hlength)
        simp only [if_pos hshort] at hview
        rw [Option.ite_none_left_eq_some] at hview
        exact ⟨0, (Nat.zero_add _).symm, (Option.some.inj hview.2).symm⟩
      · rename_i hlong
        dsimp only at hlength
        rw [Option.ite_none_left_eq_some] at hlength
        obtain ⟨hcount, hlength⟩ := hlength
        obtain ⟨rfl, rfl⟩ := Prod.mk.inj (Option.some.inj hlength)
        simp only [if_neg hlong] at hview
        refine ⟨(lengthByte &&& 0x7F).toNat, by rw [List.length_drop]; omega, ?_⟩
        rw [if_neg (by omega)] at hview
        cases hoctets : readLengthOctets frame (lengthByte &&& 0x7F).toNat (cursor + 1 + 1) 0 with
        | none =>
          rw [hoctets] at hview
          cases hview
        | some length' =>
          have hsame := readLength_region hlimit (by omega) hoctets hafter.symm
          rw [hoctets] at hview
          dsimp only at hview
          rw [Option.ite_none_left_eq_some] at hview
          rw [hsame]
          exact (Option.some.inj hview.2).symm
    obtain ⟨lengthOctets, hoctets, rfl⟩ := hview'
    have hvalue : (afterLength.take length).length = length := by
      rw [List.length_take]
      omega
    refine ⟨rfl, hvalue.symm, by dsimp only; omega, by dsimp only; rw [hvalue], ?_⟩
    rw [List.length_drop]
    dsimp only
    omega

/-! ## The TLVs of a value -/

theorem region_sub {frame : Bytes} {cursor limit b : Nat} (a : Nat) (h : cursor + b ≤ limit) :
    region frame (cursor + a) (cursor + b) = ((region frame cursor limit).take b).drop a := by
  rw [region, region, List.take_drop, List.take_take, Nat.min_eq_left h, List.drop_drop]

/-- The view shows the TLV, whose value is behind the cursor. -/
structure Seen (frame : Bytes) (limit : Nat) (view : WireFieldDetail.BerTlvView) (tlv : BerTlv) :
    Prop where
  tagged : tlv = taggedTlv view.tag tlv.value
  valueLength : view.valueLength = tlv.value.length
  value : region frame view.valueOffset view.endOffset = tlv.value
  valueOffset : view.valueOffset ≤ view.endOffset
  endOffset : view.endOffset ≤ limit

/-- The header, the value and what follows, where the locator reads a TLV. -/
theorem seen_of_read {frame : Bytes} {cursor limit : Nat} {view : WireFieldDetail.BerTlvView}
    {tlv : BerTlv} {rest : Bytes} (hlimit : limit ≤ frame.length) (hcursor : cursor < limit)
    (hview : readBerTlv frame cursor limit = some view)
    (htlv : tryReadTlv (region frame cursor limit) = some (tlv, rest)) :
    Seen frame limit view tlv ∧ region frame view.endOffset limit = rest ∧
      ∃ header, region frame cursor limit = header ++ (tlv.value ++ rest) ∧ IsHeader header tlv ∧
        view.valueOffset = cursor + header.length := by
  have hshows := readBerTlv_spec hlimit hview htlv
  obtain ⟨hbehind, hend, hrest⟩ := And.intro hshows.behind (And.intro hshows.valueEnd hshows.limit)
  obtain ⟨header, hsplit, hheader⟩ := header_of_tryReadTlv htlv
  have hlength := length_region hlimit cursor
  rw [hsplit, List.length_append, List.length_append] at hlength
  have hoffset : view.valueOffset = cursor + header.length := by omega
  have hendOffset : view.endOffset = cursor + (header.length + tlv.value.length) := by omega
  have hlimit' : limit = cursor + (header.length + tlv.value.length + rest.length) := by omega
  refine ⟨⟨hshows.tagged, hshows.valueLength, ?_, by omega, by omega⟩, ?_, header, hsplit,
    hheader, hoffset⟩
  · rw [hoffset, hendOffset, @region_sub frame cursor limit _ _ (by omega), hsplit,
      ← List.append_assoc, List.take_left' (by rw [List.length_append]), List.drop_left]
  · have hall := @region_sub frame cursor limit (header.length + tlv.value.length + rest.length)
      (header.length + tlv.value.length) (by omega)
    rw [← hlimit', ← hendOffset] at hall
    rw [hall, hsplit, List.take_of_length_le (by simp only [List.length_append]; omega),
      ← List.append_assoc, List.drop_left' (by rw [List.length_append])]

/-- A loop of the locator, over what it does at a TLV. -/
def walk (frame : Bytes) (limit : Nat)
    (visit : WireFieldDetail.BerTlvView → Option (Option Nat)) : Nat → Nat → Option (Option Nat)
  | 0, _ => none
  | fuel + 1, cursor =>
    if cursor < limit then
      match readBerTlv frame cursor limit with
      | none => some none
      | some view =>
        match visit view with
        | some found => some found
        | none => walk frame limit visit fuel view.endOffset
    else none

section Walk

variable {frame : Bytes} {limit : Nat} {visit : WireFieldDetail.BerTlvView → Option (Option Nat)}

/-- The TLV is passed by the loop. -/
def Passed (frame : Bytes) (limit : Nat)
    (visit : WireFieldDetail.BerTlvView → Option (Option Nat)) (tlv : BerTlv) : Prop :=
  ∃ view, Seen frame limit view tlv ∧ visit view = none

/-- **Where a loop finds an offset.** -/
theorem walk_some {fuel cursor offset : Nat} {tlvs : List BerTlv}
    (hlimit : limit ≤ frame.length) (hchildren : Children (region frame cursor limit) tlvs)
    (h : walk frame limit visit fuel cursor = some (some offset)) :
    ∃ before tlv after view inner, tlvs = before ++ tlv :: after ∧
      (∀ passed ∈ before, Passed frame limit visit passed) ∧
      visit view = some (some offset) ∧ Seen frame limit view tlv ∧
      ValueAt (region frame cursor limit) before tlv after inner ∧
      view.valueOffset = cursor + inner := by
  induction fuel generalizing cursor tlvs with
  | zero => cases h
  | succ fuel ih =>
    rw [walk] at h
    split at h
    swap
    · cases h
    rename_i hcursor
    cases hview : readBerTlv frame cursor limit with
    | none =>
      rw [hview] at h
      cases h
    | some view =>
      rw [hview] at h
      dsimp only at h
      generalize hregion : region frame cursor limit = source at hchildren
      cases hchildren with
      | nil =>
        rw [region_cons hlimit hcursor] at hregion
        cases hregion
      | @cons _ rest tlv others hread hothers =>
        rw [← hregion] at hread
        obtain ⟨hseen, hrest, header, hsplit, hheader, hoffset⟩ :=
          seen_of_read hlimit hcursor hview hread
        rw [← hregion, hsplit]
        cases hvisit : visit view with
        | some found =>
          rw [hvisit] at h
          obtain rfl := Option.some.inj h
          exact ⟨[], tlv, others, view, header.length, rfl,
            fun passed hpassed => absurd hpassed List.not_mem_nil, hvisit, hseen,
            ValueAt.head hheader hothers, hoffset⟩
        | none =>
          rw [hvisit] at h
          rw [← hrest] at hothers
          obtain ⟨before, found, after, view', inner, rfl, hpassed, hvisit', hseen', hvalue,
            hinner⟩ := ih hothers h
          rw [hrest] at hvalue
          have hend : view.endOffset = cursor + (header.length + tlv.value.length) := by
            have hlength := congrArg List.length hsplit
            have hlength' := congrArg List.length hrest
            rw [length_region hlimit, List.length_append, List.length_append] at hlength
            rw [length_region hlimit] at hlength'
            have := hseen.endOffset
            omega
          exact ⟨tlv :: before, found, after, view', _, rfl,
            List.forall_mem_cons.mpr ⟨⟨view, hseen, hvisit⟩, hpassed⟩, hvisit', hseen',
            hvalue.cons hheader, by rw [hinner, hend, Nat.add_assoc]⟩

/-- **What a loop has passed** at its end. -/
theorem walk_none {fuel cursor : Nat} {tlvs : List BerTlv} (hlimit : limit ≤ frame.length)
    (hfuel : limit - cursor ≤ fuel) (hchildren : Children (region frame cursor limit) tlvs)
    (h : walk frame limit visit fuel cursor = none) :
    ∀ passed ∈ tlvs, Passed frame limit visit passed := by
  induction fuel generalizing cursor tlvs with
  | zero =>
    generalize hregion : region frame cursor limit = source at hchildren
    cases hchildren with
    | nil => exact fun passed hpassed => absurd hpassed List.not_mem_nil
    | cons hread _ =>
      have hlt := tryReadTlv_rest_length hread
      rw [← hregion, length_region hlimit] at hlt
      omega
  | succ fuel ih =>
    generalize hregion : region frame cursor limit = source at hchildren
    cases hchildren with
    | nil => exact fun passed hpassed => absurd hpassed List.not_mem_nil
    | @cons _ rest tlv others hread hothers =>
      have hcursor : cursor < limit := by
        have hlt := tryReadTlv_rest_length hread
        rw [← hregion, length_region hlimit] at hlt
        omega
      rw [walk, if_pos hcursor] at h
      cases hview : readBerTlv frame cursor limit with
      | none =>
        rw [hview] at h
        cases h
      | some view =>
        rw [hview] at h
        dsimp only at h
        rw [← hregion] at hread
        obtain ⟨hseen, hrest, header, hsplit, -, hoffset⟩ :=
          seen_of_read hlimit hcursor hview hread
        cases hvisit : visit view with
        | some found =>
          rw [hvisit] at h
          cases h
        | none =>
          rw [hvisit] at h
          rw [← hrest] at hothers
          have hbehind := (readBerTlv_spec hlimit hview hread).behind
          have hle := hseen.valueOffset
          rw [List.forall_mem_cons]
          exact ⟨⟨view, hseen, hvisit⟩, ih (by omega) hothers h⟩

end Walk

/-! ## The three loops -/

/-- What the loop over the fields of an ASDU does. -/
def visitField (view : WireFieldDetail.BerTlvView) : Option (Option Nat) :=
  if view.tag = 0x85 then some (if view.valueLength = 1 then some view.valueOffset else none)
  else none

/-- What the loop over the ASDUs does. -/
def visitAsdu (frame : Bytes) (view : WireFieldDetail.BerTlvView) : Option (Option Nat) :=
  if view.tag ≠ 0x30 then some none
  else findInAsdu frame view.endOffset frame.length view.valueOffset

/-- What the loop over the fields of the PDU does. -/
def visitPduField (frame : Bytes) (view : WireFieldDetail.BerTlvView) : Option (Option Nat) :=
  if view.tag ≠ 0xA2 then none
  else findInSequence frame view.endOffset frame.length view.valueOffset

section Loops

variable (frame : Bytes) (limit fuel cursor : Nat)

theorem findInAsdu_eq_walk :
    findInAsdu frame limit fuel cursor = walk frame limit visitField fuel cursor := by
  induction fuel generalizing cursor with
  | zero => rfl
  | succ fuel ih =>
    rw [findInAsdu, walk]
    split
    swap
    · rfl
    cases readBerTlv frame cursor limit with
    | none => rfl
    | some view =>
      dsimp only
      rw [visitField, ih]
      split <;> rfl

theorem findInSequence_eq_walk :
    findInSequence frame limit fuel cursor = walk frame limit (visitAsdu frame) fuel cursor := by
  induction fuel generalizing cursor with
  | zero => rfl
  | succ fuel ih =>
    rw [findInSequence, walk]
    split
    swap
    · rfl
    cases readBerTlv frame cursor limit with
    | none => rfl
    | some view =>
      dsimp only
      rw [visitAsdu]
      split
      · rfl
      · cases findInAsdu frame view.endOffset frame.length view.valueOffset with
        | some found => rfl
        | none => exact ih view.endOffset

theorem findInPdu_eq_walk :
    findInPdu frame limit fuel cursor = walk frame limit (visitPduField frame) fuel cursor := by
  induction fuel generalizing cursor with
  | zero => rfl
  | succ fuel ih =>
    rw [findInPdu, walk]
    split
    swap
    · rfl
    cases readBerTlv frame cursor limit with
    | none => rfl
    | some view =>
      dsimp only
      rw [visitPduField]
      split
      · exact ih view.endOffset
      · cases findInSequence frame view.endOffset frame.length view.valueOffset with
        | some found => rfl
        | none => exact ih view.endOffset

end Loops

/-! ## The fields that the loops pass -/

theorem isSmpSynch_tagged (tag : UInt8) (value : Bytes) :
    isSmpSynch (taggedTlv tag value) = (tag == 0x85) := by
  refine forall_octet (p := fun tag => isSmpSynch (taggedTlv tag value) = (tag == 0x85)) ?_ tag
  simp only [isSmpSynch, taggedTlv]
  decide +kernel

theorem isAsduSequence_tagged (tag : UInt8) (value : Bytes) :
    isAsduSequence (taggedTlv tag value) = (tag == 0xA2) := by
  refine forall_octet (p := fun tag => isAsduSequence (taggedTlv tag value) = (tag == 0xA2)) ?_ tag
  simp only [isAsduSequence, taggedTlv]
  decide +kernel

/-- No field of the ASDU carries a synchronisation. -/
def NoSynch (asdu : BerTlv) : Prop := ∀ field ∈ childrenOf asdu.value, isSmpSynch field = false

theorem childrenOf_eq {value : Bytes} {tlvs : List BerTlv} (h : Children value tlvs) :
    childrenOf value = tlvs := by
  rw [childrenOf, readChildren_of_children h]
  rfl

/-- The offset of the first synchronisation of an ASDU. -/
def InAsdu (asdu : BerTlv) (offset : Nat) : Prop :=
  ∃ before field after, (∀ other ∈ before, isSmpSynch other = false) ∧
    isSmpSynch field = true ∧ field.value.length = 1 ∧
    ValueAt asdu.value before field after offset

/-- The offset of the first synchronisation of a sequence. -/
def InSequence (sequence : BerTlv) (offset : Nat) : Prop :=
  ∃ before asdu after outer inner, (∀ other ∈ before, NoSynch other) ∧ InAsdu asdu inner ∧
    ValueAt sequence.value before asdu after outer ∧ offset = outer + inner

/-- The offset of the first synchronisation of a PDU. -/
def InPdu (pdu : BerTlv) (offset : Nat) : Prop :=
  ∃ before sequence after outer inner, (∀ other ∈ asduTlvs before, NoSynch other) ∧
    isAsduSequence sequence = true ∧ InSequence sequence inner ∧
    ValueAt pdu.value before sequence after outer ∧ offset = outer + inner

section Passing

variable {frame : Bytes} {limit : Nat} {view : WireFieldDetail.BerTlvView} {tlv : BerTlv}

theorem inAsdu_of_find {offset : Nat} (hlimit : limit ≤ frame.length)
    (hseen : Seen frame limit view tlv) {fields : List BerTlv} (hfields : Children tlv.value fields)
    (h : findInAsdu frame view.endOffset frame.length view.valueOffset = some (some offset)) :
    ∃ inner, InAsdu tlv inner ∧ offset = view.valueOffset + inner := by
  rw [findInAsdu_eq_walk] at h
  rw [← hseen.value] at hfields
  obtain ⟨before, field, after, view', inner, -, hbefore, hvisit, hfield, hvalue, hinner⟩ :=
    walk_some (Nat.le_trans hseen.endOffset hlimit) hfields h
  rw [visitField] at hvisit
  split at hvisit
  swap
  · cases hvisit
  rename_i htag
  have hfound := Option.some.inj hvisit
  rw [Option.ite_none_right_eq_some] at hfound
  obtain ⟨hlength, hoffset⟩ := hfound
  refine ⟨inner, ⟨before, field, after, fun other hother => ?_, ?_,
    hfield.valueLength.symm.trans hlength, hseen.value ▸ hvalue⟩,
    (Option.some.inj hoffset).symm.trans hinner⟩
  · obtain ⟨view'', hseen'', hnone⟩ := hbefore other hother
    rw [hseen''.tagged, isSmpSynch_tagged, beq_eq_false_iff_ne]
    intro htag''
    rw [visitField, if_pos htag''] at hnone
    cases hnone
  · rw [hfield.tagged, isSmpSynch_tagged, htag]
    rfl

theorem noSynch_of_find (hlimit : limit ≤ frame.length) (hseen : Seen frame limit view tlv)
    {fields : List BerTlv} (hfields : Children tlv.value fields)
    (h : findInAsdu frame view.endOffset frame.length view.valueOffset = none) : NoSynch tlv := by
  rw [findInAsdu_eq_walk] at h
  rw [NoSynch, childrenOf_eq hfields]
  rw [← hseen.value] at hfields
  have hend := Nat.le_trans hseen.endOffset hlimit
  have hpassed := walk_none hend (Nat.le_trans (Nat.sub_le _ _) hend) hfields h
  intro other hother
  obtain ⟨view', hseen', hnone⟩ := hpassed other hother
  rw [hseen'.tagged, isSmpSynch_tagged, beq_eq_false_iff_ne]
  intro htag
  rw [visitField, if_pos htag] at hnone
  cases hnone

/-- An ASDU that the loop passes carries no synchronisation. -/
theorem noSynch_of_passed (hlimit : limit ≤ frame.length)
    (hpassed : Passed frame limit (visitAsdu frame) tlv)
    (hfields : ∃ fields, Children tlv.value fields) : NoSynch tlv := by
  obtain ⟨view, hseen, hnone⟩ := hpassed
  obtain ⟨fields, hfields⟩ := hfields
  rw [visitAsdu] at hnone
  split at hnone
  · cases hnone
  · exact noSynch_of_find hlimit hseen hfields hnone

theorem inSequence_of_find {offset : Nat} (hlimit : limit ≤ frame.length)
    (hseen : Seen frame limit view tlv) {asdus : List BerTlv} (hasdus : Children tlv.value asdus)
    (hfields : ∀ asdu ∈ asdus, ∃ fields, Children asdu.value fields)
    (h : findInSequence frame view.endOffset frame.length view.valueOffset =
      some (some offset)) :
    ∃ inner, InSequence tlv inner ∧ offset = view.valueOffset + inner := by
  rw [findInSequence_eq_walk] at h
  rw [← hseen.value] at hasdus
  have hend := Nat.le_trans hseen.endOffset hlimit
  obtain ⟨before, asdu, after, view', outer, rfl, hbefore, hvisit, hasdu, hvalue, houter⟩ :=
    walk_some hend hasdus h
  rw [visitAsdu] at hvisit
  split at hvisit
  · cases hvisit
  obtain ⟨fields, hasduFields⟩ := hfields asdu (by simp)
  obtain ⟨inner, hin, rfl⟩ := inAsdu_of_find hend hasdu hasduFields hvisit
  refine ⟨outer + inner, ⟨before, asdu, after, outer, inner, fun other hother => ?_, hin,
    hseen.value ▸ hvalue, rfl⟩, by rw [houter, Nat.add_assoc]⟩
  exact noSynch_of_passed hend (hbefore other hother)
    (hfields other (List.mem_append_left _ hother))

/-- The ASDUs of a field that the loop passes carry no synchronisation. -/
theorem noSynch_of_passed_field (hlimit : limit ≤ frame.length)
    (hpassed : Passed frame limit (visitPduField frame) tlv)
    (hfields : ∀ asdu ∈ asduTlvs [tlv], ∃ fields, Children asdu.value fields)
    (hreadable : isAsduSequence tlv = true → ∃ asdus, Children tlv.value asdus) :
    ∀ asdu ∈ asduTlvs [tlv], NoSynch asdu := by
  obtain ⟨view, hseen, hnone⟩ := hpassed
  intro asdu hasdu
  cases hsequence : isAsduSequence tlv with
  | false =>
    rw [asduTlvs_other hsequence] at hasdu
    exact absurd hasdu List.not_mem_nil
  | true =>
    obtain ⟨asdus, hasdus⟩ := hreadable hsequence
    have hall : asduTlvs [tlv] = asdus :=
      (asduTlvs_sequence hsequence (readChildren_of_children hasdus) []).trans (List.append_nil _)
    rw [hall] at hasdu hfields
    have htag : view.tag = 0xA2 := by
      rw [hseen.tagged, isAsduSequence_tagged] at hsequence
      exact eq_of_beq hsequence
    rw [visitPduField, if_neg (not_not_intro htag), findInSequence_eq_walk] at hnone
    rw [← hseen.value] at hasdus
    have hend := Nat.le_trans hseen.endOffset hlimit
    exact noSynch_of_passed hend (walk_none hend (Nat.le_trans (Nat.sub_le _ _) hend) hasdus hnone
      asdu hasdu) (hfields asdu hasdu)

theorem mem_asduTlvs {fields : List BerTlv} {asdu : BerTlv} (h : asdu ∈ asduTlvs fields) :
    ∃ field ∈ fields, asdu ∈ asduTlvs [field] := by
  induction fields with
  | nil => exact absurd h List.not_mem_nil
  | cons field fields ih =>
    rw [← List.singleton_append, asduTlvs_append] at h
    rcases List.mem_append.mp h with h | h
    · exact ⟨field, List.mem_cons_self, h⟩
    · obtain ⟨other, hother, hmem⟩ := ih h
      exact ⟨other, List.mem_cons_of_mem _ hother, hmem⟩

theorem asduTlvs_subset {fields : List BerTlv} {field asdu : BerTlv} (hfield : field ∈ fields)
    (h : asdu ∈ asduTlvs [field]) : asdu ∈ asduTlvs fields := by
  obtain ⟨before, after, rfl⟩ := List.append_of_mem hfield
  rw [asduTlvs_append, ← List.singleton_append, asduTlvs_append]
  exact List.mem_append_right _ (List.mem_append_left _ h)

/-- **Where the locator finds an offset** in a PDU. -/
theorem inPdu_of_find {offset : Nat} (hlimit : limit ≤ frame.length)
    (hseen : Seen frame limit view tlv) {fields : List BerTlv} (hchildren : Children tlv.value fields)
    (hreadable : ∀ field ∈ fields, isAsduSequence field = true →
      ∃ asdus, Children field.value asdus)
    (hasdus : ∀ asdu ∈ asduTlvs fields, ∃ fields, Children asdu.value fields)
    (h : findInPdu frame view.endOffset frame.length view.valueOffset = some (some offset)) :
    ∃ inner, InPdu tlv inner ∧ offset = view.valueOffset + inner := by
  rw [findInPdu_eq_walk] at h
  rw [← hseen.value] at hchildren
  have hend := Nat.le_trans hseen.endOffset hlimit
  obtain ⟨before, field, after, view', outer, rfl, hbefore, hvisit, hfield, hvalue, houter⟩ :=
    walk_some hend hchildren h
  rw [visitPduField] at hvisit
  split at hvisit
  · cases hvisit
  rename_i htag
  rw [ne_eq, Decidable.not_not] at htag
  have hsequence : isAsduSequence field = true := by
    rw [hfield.tagged, isAsduSequence_tagged, htag]
    rfl
  have hmem : field ∈ before ++ field :: after := by simp
  obtain ⟨asdus, hfieldAsdus⟩ := hreadable field hmem hsequence
  have hone : asduTlvs [field] = asdus :=
    (asduTlvs_sequence hsequence (readChildren_of_children hfieldAsdus) []).trans
      (List.append_nil _)
  obtain ⟨inner, hin, rfl⟩ := inSequence_of_find hend hfield hfieldAsdus
    (fun asdu hasdu => hasdus asdu (asduTlvs_subset hmem (hone ▸ hasdu))) hvisit
  refine ⟨outer + inner, ⟨before, field, after, outer, inner, fun asdu hasdu => ?_, hsequence, hin,
    hseen.value ▸ hvalue, rfl⟩, by rw [houter, Nat.add_assoc]⟩
  obtain ⟨other, hother, hin⟩ := mem_asduTlvs hasdu
  have hmem' : other ∈ before ++ field :: after := List.mem_append_left _ hother
  exact noSynch_of_passed_field hend (hbefore other hother)
    (fun asdu hasdu => hasdus asdu (asduTlvs_subset hmem' hasdu)) (hreadable other hmem') asdu hin

end Passing

end ArStack.SampledValues
