import ArStack.Lib.Patch
import ArStack.Spec.BerTlv

/-!
# The values of TLVs

A TLV is a header and its value; another value of the same length behind the header is read as
well. So overwriting a part of a value overwrites the value among the children.

* `header_of_tryReadTlv` — a TLV in its header and its value
* `children_of_readChildren` — the children of a value
* `ValueAt` — one child among the others, and where its value stands
* `ValueAt.patch` — another value in its place
-/

namespace ArStack.Asn1

open ArStack.Lib

/-! ## Headers -/

namespace BerSpanReader

theorem readHighTag_prefix {tagNumber n : Nat} {source rest : Bytes}
    (h : readHighTag tagNumber source = some (n, rest)) :
    ∃ octets, source = octets ++ rest ∧ readHighTag tagNumber octets = some (n, []) := by
  induction source generalizing tagNumber with
  | nil => cases h
  | cons byte source ih =>
    rw [readHighTag, Option.ite_none_left_eq_some] at h
    obtain ⟨hsmall, h⟩ := h
    dsimp only at h
    rw [Option.ite_none_left_eq_some] at h
    obtain ⟨hlimit, h⟩ := h
    split at h
    · rename_i hlast
      obtain ⟨rfl, rfl⟩ := Prod.mk.inj (Option.some.inj h)
      refine ⟨[byte], rfl, ?_⟩
      rw [readHighTag, if_neg hsmall]
      dsimp only
      rw [if_neg hlimit, if_pos hlast]
    · rename_i hmore
      obtain ⟨octets, rfl, hread⟩ := ih h
      refine ⟨byte :: octets, rfl, ?_⟩
      rw [readHighTag, if_neg hsmall]
      dsimp only
      rw [if_neg hlimit, if_neg hmore, hread]

theorem readTagNumber_prefix {encodedTag : UInt8} {n : Nat} {source rest : Bytes}
    (h : readTagNumber encodedTag source = some (n, rest)) :
    ∃ octets, source = octets ++ rest ∧ readTagNumber encodedTag octets = some (n, []) := by
  rw [readTagNumber] at h
  split at h
  · rename_i hhigh
    obtain ⟨octets, hsource, hread⟩ := readHighTag_prefix h
    exact ⟨octets, hsource, by rw [readTagNumber, if_pos hhigh, hread]⟩
  · rename_i hlow
    obtain ⟨rfl, rfl⟩ := Prod.mk.inj (Option.some.inj h)
    exact ⟨[], rfl, by rw [readTagNumber, if_neg hlow]⟩

theorem readLength_prefix {n : Nat} {source rest : Bytes} (h : readLength source = some (n, rest)) :
    ∃ octets, source = octets ++ rest ∧ readLength octets = some (n, []) := by
  cases source with
  | nil => cases h
  | cons byte source =>
    rw [readLength] at h
    split at h
    · rename_i hshort
      obtain ⟨rfl, rfl⟩ := Prod.mk.inj (Option.some.inj h)
      exact ⟨[byte], rfl, by rw [readLength, if_pos hshort]⟩
    · rename_i hlong
      rw [Option.ite_none_left_eq_some] at h
      obtain ⟨hcount, h⟩ := h
      obtain ⟨rfl, rfl⟩ := Prod.mk.inj (Option.some.inj h)
      have hlength : (source.take (byte &&& 0x7F).toNat).length = (byte &&& 0x7F).toNat := by
        rw [List.length_take]
        omega
      refine ⟨byte :: source.take (byte &&& 0x7F).toNat, ?_, ?_⟩
      · rw [List.cons_append, List.take_append_drop]
      · rw [readLength, if_neg hlong, if_neg (by omega), List.take_take, Nat.min_self,
          List.drop_eq_nil_of_le (Nat.le_of_eq hlength)]

/-- **A TLV in its header and its value.** -/
theorem tryReadTlv_header {source rest : Bytes} {tlv : BerTlvView}
    (h : tryReadTlv source = some (tlv, rest)) :
    ∃ header, source = header ++ (tlv.value ++ rest) ∧
      ∀ value rest' : Bytes, value.length = tlv.value.length →
        tryReadTlv (header ++ (value ++ rest')) = some ({ tlv with value }, rest') := by
  cases source with
  | nil => cases h
  | cons encodedTag source =>
    rw [tryReadTlv] at h
    obtain ⟨⟨tagNumber, afterTag⟩, htag, h⟩ := Option.bind_eq_some_iff.mp h
    obtain ⟨⟨length, afterLength⟩, hlength, h⟩ := Option.bind_eq_some_iff.mp h
    dsimp only at hlength h
    rw [Option.ite_none_left_eq_some] at h
    obtain ⟨hfits, h⟩ := h
    obtain ⟨rfl, rfl⟩ := Prod.mk.inj (Option.some.inj h)
    obtain ⟨groups, rfl, hgroups⟩ := readTagNumber_prefix htag
    obtain ⟨field, rfl, hfield⟩ := readLength_prefix hlength
    refine ⟨encodedTag :: (groups ++ field), ?_, fun value rest' hvalue => ?_⟩
    · simp only [List.cons_append, List.append_assoc, List.take_append_drop]
    · have hvalue : value.length = length := by
        rw [hvalue, List.length_take]
        omega
      have htag' := readTagNumber_append hgroups (field ++ (value ++ rest'))
      have hlength' := readLength_append hfield (value ++ rest')
      rw [List.nil_append] at htag' hlength'
      rw [List.cons_append, List.append_assoc, tryReadTlv, htag']
      show (readLength (field ++ (value ++ rest'))).bind _ = _
      rw [hlength']
      show (if length > (value ++ rest').length then none else some _) = _
      rw [if_neg (by rw [List.length_append]; omega), List.take_left' hvalue,
        List.drop_left' hvalue]
      simp only [List.length_append, Option.some.injEq, Prod.mk.injEq, BerTlvView.mk.injEq,
        and_true, true_and]
      omega

end BerSpanReader

namespace BerReader

/-- The octets in front of a value of this length. -/
def IsHeader (header : Bytes) (tlv : BerTlv) : Prop :=
  ∀ value rest : Bytes, value.length = tlv.value.length →
    tryReadTlv (header ++ (value ++ rest)) = some ({ tlv with value }, rest)

theorem header_of_tryReadTlv {source rest : Bytes} {tlv : BerTlv}
    (h : tryReadTlv source = some (tlv, rest)) :
    ∃ header, source = header ++ (tlv.value ++ rest) ∧ IsHeader header tlv := by
  rw [tryReadTlv] at h
  cases hread : BerSpanReader.tryReadTlv source with
  | none =>
    rw [hread] at h
    cases h
  | some read =>
    obtain ⟨view, rest'⟩ := read
    rw [hread] at h
    obtain ⟨rfl, rfl⟩ := Prod.mk.inj (Option.some.inj h)
    obtain ⟨header, hsource, hheader⟩ := BerSpanReader.tryReadTlv_header hread
    refine ⟨header, hsource, fun value rest hvalue => ?_⟩
    rw [tryReadTlv, hheader value rest hvalue]

theorem IsHeader.read {header : Bytes} {tlv : BerTlv} (h : IsHeader header tlv) (rest : Bytes) :
    tryReadTlv (header ++ (tlv.value ++ rest)) = some (tlv, rest) := h tlv.value rest rfl

/-- Behind the header of a value stands another one as well. -/
theorem IsHeader.other {header value : Bytes} {tlv : BerTlv} (h : IsHeader header tlv)
    (hvalue : value.length = tlv.value.length) : IsHeader header { tlv with value } :=
  fun value' rest hvalue' => h value' rest (hvalue'.trans hvalue)

theorem tryReadTlv_append {source rest : Bytes} {tlv : BerTlv}
    (h : tryReadTlv source = some (tlv, rest)) (more : Bytes) :
    tryReadTlv (source ++ more) = some (tlv, rest ++ more) := by
  obtain ⟨header, rfl, hheader⟩ := header_of_tryReadTlv h
  rw [List.append_assoc, List.append_assoc]
  exact hheader.read (rest ++ more)

/-! ## Children -/

theorem children_of_readChildrenFrom {fuel offset : Nat} {source : Bytes} {tlvs : List BerTlv}
    (hfuel : source.length ≤ fuel) (h : readChildrenFrom fuel offset source = .ok tlvs) :
    Children source tlvs := by
  induction fuel generalizing offset source tlvs with
  | zero =>
    cases source with
    | nil =>
      cases h
      exact .nil
    | cons octet source => exact absurd hfuel (by simp)
  | succ fuel ih =>
    cases source with
    | nil =>
      cases h
      exact .nil
    | cons octet source =>
      rw [readChildrenFrom] at h
      · cases hread : tryReadTlv (octet :: source) with
        | none =>
          rw [hread] at h
          cases h
        | some read =>
          obtain ⟨tlv, rest⟩ := read
          rw [hread] at h
          obtain ⟨others, hothers, h⟩ := except_bind_ok h
          cases h
          have hlt := tryReadTlv_rest_length hread
          exact .cons hread (ih (by omega) hothers)
      · exact fun hnil => absurd hnil (List.cons_ne_nil _ _)

/-- **The children that are read.** -/
theorem children_of_readChildren {source : Bytes} {tlvs : List BerTlv}
    (h : readChildren source = .ok tlvs) : Children source tlvs :=
  children_of_readChildrenFrom (Nat.le_refl _) h

theorem Children.append {source source' : Bytes} {tlvs tlvs' : List BerTlv}
    (h : Children source tlvs) (h' : Children source' tlvs') :
    Children (source ++ source') (tlvs ++ tlvs') := by
  induction h with
  | nil => exact h'
  | cons hread _ ih => exact .cons (tryReadTlv_append hread source') ih

/-! ## One of the children -/

/-- The children are `before`, the TLV, whose value stands at `offset`, and `after`. -/
def ValueAt (source : Bytes) (before : List BerTlv) (tlv : BerTlv) (after : List BerTlv)
    (offset : Nat) : Prop :=
  ∃ front header back, source = front ++ (header ++ (tlv.value ++ back)) ∧
    Children front before ∧ IsHeader header tlv ∧ Children back after ∧
    offset = front.length + header.length

namespace ValueAt

variable {source : Bytes} {before after : List BerTlv} {tlv : BerTlv} {offset : Nat}

theorem head {header back : Bytes} (hheader : IsHeader header tlv) (hback : Children back after) :
    ValueAt (header ++ (tlv.value ++ back)) [] tlv after header.length :=
  ⟨[], header, back, rfl, .nil, hheader, hback, (Nat.zero_add _).symm⟩

theorem cons {header : Bytes} {first : BerTlv} (h : ValueAt source before tlv after offset)
    (hheader : IsHeader header first) :
    ValueAt (header ++ (first.value ++ source)) (first :: before) tlv after
      (header.length + first.value.length + offset) := by
  obtain ⟨front, header', back, rfl, hfront, hheader', hback, rfl⟩ := h
  refine ⟨header ++ (first.value ++ front), header', back, ?_, .cons (hheader.read front) hfront,
    hheader', hback, ?_⟩
  · simp only [List.append_assoc]
  · simp only [List.length_append]
    omega

theorem children (h : ValueAt source before tlv after offset) :
    Children source (before ++ tlv :: after) := by
  obtain ⟨front, header, back, rfl, hfront, hheader, hback, -⟩ := h
  exact hfront.append (.cons (hheader.read back) hback)

/-- **Another value** in the place of the value. -/
theorem patch (h : ValueAt source before tlv after offset) {value new : Bytes} {inner : Nat}
    (hpatch : Patches tlv.value value inner new) :
    ∃ source', Patches source source' (offset + inner) new ∧
      ValueAt source' before { tlv with value } after offset := by
  obtain ⟨front, header, back, rfl, hfront, hheader, hback, rfl⟩ := h
  have hwithin := hpatch.within (front ++ header) back
  rw [List.append_assoc, List.append_assoc, List.append_assoc, List.append_assoc,
    List.length_append] at hwithin
  exact ⟨_, hwithin, front, header, back, rfl, hfront, hheader.other hpatch.length_eq.symm,
    hback, rfl⟩

/-- A part of the value stands in the whole. -/
theorem part (h : ValueAt source before tlv after offset) {octets : Bytes} {inner : Nat}
    (hpart : Patches tlv.value tlv.value inner octets) :
    Patches source source (offset + inner) octets := by
  obtain ⟨front, header, back, rfl, -, -, -, rfl⟩ := h
  have hwithin := hpart.within (front ++ header) back
  rwa [List.append_assoc, List.append_assoc, List.length_append] at hwithin

end ValueAt

end BerReader

end ArStack.Asn1
