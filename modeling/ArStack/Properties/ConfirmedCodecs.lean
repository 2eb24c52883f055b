import ArStack.Asn1.BerOffsets
import ArStack.Mms.ConfirmedPdus
import ArStack.Spec.BerValues
import ArStack.Spec.EncodedSize
import ArStack.Spec.SpanResponse

/-!
# The codecs of confirmed PDUs agree

* `request_agrees` — confirmed requests in short form
* `encodeResponseInto_of_ok`, `encodeResponse_of_into` — confirmed responses
* `encodeConfirmedErrorInto_eq`, `decodeConfirmedError_encode` — confirmed errors
* `confirmed_codecs_agree`
-/

namespace ArStack.Mms

open ArStack.Asn1 ArStack.Lib ArStack.Wire BerReader

/-! ## Requests -/

theorem tryReadTlv_view (source : Bytes) :
    BerReader.tryReadTlv source =
      (BerSpanReader.tryReadTlv source).map fun read => (read.1.toTlv, read.2) := by
  unfold BerReader.tryReadTlv
  cases BerSpanReader.tryReadTlv source <;> rfl

theorem children_of_readTlvs {limit : Nat} {source : Bytes} {views : List BerTlvView}
    (h : readTlvs limit source = some views) :
    Children source (views.map BerTlvView.toTlv) ∧ views.length ≤ limit := by
  induction limit generalizing source views with
  | zero =>
    cases source with
    | nil =>
      cases h
      exact ⟨.nil, Nat.zero_le _⟩
    | cons octet source => cases h
  | succ limit ih =>
    cases source with
    | nil =>
      cases h
      exact ⟨.nil, Nat.zero_le _⟩
    | cons octet source =>
      rw [readTlvs] at h
      · obtain ⟨⟨view, rest⟩, hread, h⟩ := Option.bind_eq_some_iff.mp h
        obtain ⟨others, hothers, h⟩ := Option.bind_eq_some_iff.mp h
        cases h
        obtain ⟨hchildren, hlen⟩ := ih hothers
        refine ⟨.cons ?_ hchildren, Nat.succ_le_succ hlen⟩
        rw [tryReadTlv_view, hread]
        rfl
      · exact fun hnil => absurd hnil (List.cons_ne_nil _ _)

theorem readTlvs_of_children {source : Bytes} {tlvs : List BerTlv} (h : Children source tlvs)
    {limit : Nat} (hlen : tlvs.length ≤ limit) :
    ∃ views, readTlvs limit source = some views ∧ views.map BerTlvView.toTlv = tlvs := by
  induction h generalizing limit with
  | nil =>
    refine ⟨[], ?_, rfl⟩
    cases limit <;> rfl
  | @cons source rest tlv tlvs hread _ ih =>
    have hlt := BerReader.tryReadTlv_rest_length hread
    cases limit with
    | zero => exact absurd hlen (by simp)
    | succ limit =>
      obtain ⟨views, hviews, rfl⟩ := @ih limit (by simpa using hlen)
      rw [tryReadTlv_view, Option.map_eq_some_iff] at hread
      obtain ⟨⟨view, rest'⟩, hview, hpair⟩ := hread
      obtain ⟨rfl, rfl⟩ := Prod.mk.inj hpair
      refine ⟨view :: views, ?_, rfl⟩
      cases source with
      | nil => simp at hlt
      | cons octet source =>
        rw [readTlvs]
        · simp only [hview, hviews, Option.bind_eq_bind, Option.bind_some]
        · exact fun hnil => absurd hnil (List.cons_ne_nil _ _)

/-- A constructed context tag in short form is one octet. -/
theorem short_tag : ∀ tag : UInt8, tag ≠ 0xBF →
    ((BerClass.ofTag tag = .contextSpecific ∧ (tag &&& 0x20 != 0) = true) →
      tag &&& 0x1F ≠ 0x1F ∧ ((tag &&& 0x1F).toNat = 0 ↔ tag = 0xA0)) := by
  refine forall_octet ?_
  decide +kernel

/-- The numbers of both codecs. -/
theorem readUint32_agrees (view : BerTlvView) (fieldName : String) :
    (BerSpanReader.readUint32 view).map UInt32.toNat =
      (MmsPduCodec.readU32 view.toTlv fieldName).toOption := by
  unfold BerSpanReader.readUint32 MmsPduCodec.readU32
  have hsame : BerReader.readUnsignedInteger view.toTlv = BerSpanReader.readUnsignedInteger view :=
    rfl
  rw [hsame]
  cases BerSpanReader.readUnsignedInteger view with
  | none => rfl
  | some value =>
    dsimp only
    by_cases hbig : value > uint32Max
    · rw [if_pos hbig, if_pos hbig]
      rfl
    · rw [if_neg hbig, if_neg hbig]
      unfold uint32Max at hbig
      simp only [Option.map_some, UInt32.toNat_ofNat', Except.toOption]
      rw [Nat.mod_eq_of_lt (by omega)]

/-- What both codecs find in the invoke identifier. -/
theorem decodeInvoke_agrees (view : BerTlvView) :
    (MmsPduSpanCodec.decodeInvoke view).map UInt32.toNat =
      (MmsPduCodec.decodeInvokeTlv view.toTlv).toOption := by
  have hform : MmsPduCodec.invokeTlv view.toTlv =
      (view.tagClass == .universal && view.tagNumber == 2 && !view.constructed ||
        view.tagClass == .contextSpecific && view.tagNumber == 0 && !view.constructed) := rfl
  have hmax (id : UInt32) : id > MmsPduSpanCodec.maximumInvokeId ↔
      id.toNat > MmsPduCodec.maximumInvokeId := UInt32.lt_iff_toNat_lt
  have hread := readUint32_agrees view "MMS invoke ID"
  unfold MmsPduSpanCodec.decodeInvoke MmsPduCodec.decodeInvokeTlv
  rw [hform, Bool.not_or]
  dsimp only
  split
  · rfl
  cases hview : BerSpanReader.readUint32 view with
  | none =>
    rw [hview] at hread
    cases htlv : MmsPduCodec.readU32 view.toTlv "MMS invoke ID" with
    | error error => rfl
    | ok value =>
      rw [htlv] at hread
      cases hread
  | some id =>
    rw [hview] at hread
    cases htlv : MmsPduCodec.readU32 view.toTlv "MMS invoke ID" with
    | error error =>
      rw [htlv] at hread
      cases hread
    | ok value =>
      rw [htlv] at hread
      obtain rfl : id.toNat = value := Option.some.inj hread
      show (if id > _ then none else some id).map _ = (if id.toNat > _ then _ else _ : Except _ _).toOption
      by_cases hbig : id > MmsPduSpanCodec.maximumInvokeId
      · rw [if_pos hbig, if_pos ((hmax id).mp hbig)]
        rfl
      · rw [if_neg hbig, if_neg (fun h => hbig ((hmax id).mpr h))]
        rfl

/-- The fields of a view that the owning codec has as well. -/
def MmsConfirmedPduView.confirmed (view : MmsConfirmedPduView) : MmsConfirmed where
  invokeId := view.invokeId.toNat
  serviceTag := view.serviceTag
  serviceConstructed := view.serviceConstructed
  serviceValue := view.serviceValue

theorem first_octet_of_read {bytes rest : Bytes} {view : BerTlvView}
    (h : BerSpanReader.tryReadTlv bytes = some (view, rest)) :
    ∃ octets, bytes = view.encodedTag :: octets ∧ view.tagClass = .ofTag view.encodedTag ∧
      view.constructed = (view.encodedTag &&& 0x20 != 0) ∧
      (view.encodedTag &&& 0x1F ≠ 0x1F → view.tagNumber = (view.encodedTag &&& 0x1F).toNat) := by
  cases bytes with
  | nil => cases h
  | cons tag octets =>
    rw [BerSpanReader.tryReadTlv] at h
    obtain ⟨⟨tagNumber, afterTag⟩, htag, h⟩ := Option.bind_eq_some_iff.mp h
    obtain ⟨⟨length, afterLength⟩, hlength, h⟩ := Option.bind_eq_some_iff.mp h
    dsimp only at h
    split at h
    · cases h
    · cases h
      refine ⟨octets, rfl, rfl, rfl, fun hshort => ?_⟩
      rw [BerSpanReader.readTagNumber, if_neg hshort] at htag
      exact (Prod.mk.inj (Option.some.inj htag)).1.symm

/-- An outer TLV whose tag is not in long form. -/
theorem outer_agrees {bytes : Bytes} (h : bytes.head? ≠ some 0xBF) {view : BerTlvView}
    (hread : BerSpanReader.tryReadTlv bytes = some (view, [])) :
    (view.tagClass ≠ .contextSpecific ∨ view.tagNumber ≠ 0 ∨ (!view.constructed) = true) ↔
      view.toTlv.encodedTag ≠ 0xA0 ∨ view.toTlv.constructed = false := by
  obtain ⟨octets, rfl, hclass, hconstructed, hnumber⟩ := first_octet_of_read hread
  have hne : view.encodedTag ≠ 0xBF := fun heq => h (by rw [heq]; rfl)
  have hshort := short_tag view.encodedTag hne
  rw [← hclass, ← hconstructed] at hshort
  show _ ↔ view.encodedTag ≠ 0xA0 ∨ view.constructed = false
  constructor
  · rintro hbad
    by_contra hgood
    obtain ⟨htag, hconstr⟩ := not_or.mp hgood
    have htag := not_not.mp htag
    have hctx : view.tagClass = .contextSpecific := by
      rw [hclass, htag]
      rfl
    have hset : view.constructed = true := (Bool.not_eq_false _).mp hconstr
    obtain ⟨hlow, hzero⟩ := hshort ⟨hctx, hset⟩
    rcases hbad with hbad | hbad | hbad
    · exact hbad hctx
    · exact hbad ((hnumber hlow).trans (hzero.mpr htag))
    · rw [hset] at hbad
      cases hbad
  · rintro hbad
    by_contra hgood
    obtain ⟨hctx, hgood⟩ := not_or.mp hgood
    obtain ⟨hzeroTag, hconstr⟩ := not_or.mp hgood
    have hset : view.constructed = true := by
      cases hc : view.constructed with
      | true => rfl
      | false =>
        rw [hc] at hconstr
        exact absurd rfl hconstr
    obtain ⟨hlow, hzero⟩ := hshort ⟨not_not.mp hctx, hset⟩
    have htag := hzero.mp ((hnumber hlow).symm.trans (not_not.mp hzeroTag))
    rcases hbad with hbad | hbad
    · exact hbad htag
    · rw [hset] at hbad
      cases hbad

theorem tryReadExact_of_read {bytes : Bytes} {view : BerTlvView}
    (h : BerSpanReader.tryReadTlv bytes = some (view, [])) :
    BerSpanReader.tryReadExact bytes = some view := by
  rw [BerSpanReader.tryReadExact, h]

theorem readOuterExact_of_read {bytes : Bytes} {view : BerTlvView} (name : String)
    (hsize : ¬(bytes = [] ∨ bytes.length > MmsPduCodec.maximumPduBytes))
    (h : BerSpanReader.tryReadTlv bytes = some (view, []))
    (htag : ¬(view.toTlv.encodedTag ≠ 0xA0 ∨ view.toTlv.constructed = false)) :
    MmsPduCodec.readOuterExact bytes 0xA0 name = .ok view.toTlv := by
  rw [MmsPduCodec.readOuterExact, if_neg hsize, tryReadTlv_view, h]
  exact if_neg htag

/-- **Both codecs read the same requests**, as long as the tag is not in long form. -/
theorem request_agrees {bytes : Bytes} (h : bytes.head? ≠ some 0xBF) :
    (MmsPduSpanCodec.tryDecodeConfirmedRequestView bytes).map MmsConfirmedPduView.confirmed =
      (MmsPduCodec.decodeConfirmedRequest bytes).toOption := by
  unfold MmsPduSpanCodec.tryDecodeConfirmedRequestView MmsPduSpanCodec.decodeConfirmed
    MmsPduCodec.decodeConfirmedRequest MmsPduCodec.decodeConfirmed
  by_cases hsize : bytes = [] ∨ bytes.length > MmsPduCodec.maximumPduBytes
  · have hspan : bytes = [] ∨ bytes.length > maximumPduBytes := hsize
    rw [if_pos hspan, MmsPduCodec.readOuterExact, if_pos hsize]
    rfl
  have hspan : ¬(bytes = [] ∨ bytes.length > maximumPduBytes) := hsize
  rw [if_neg hspan]
  cases hread : BerSpanReader.tryReadTlv bytes with
  | none =>
    rw [BerSpanReader.tryReadExact, hread, MmsPduCodec.readOuterExact, if_neg hsize,
      tryReadTlv_view, hread]
    rfl
  | some read =>
    obtain ⟨view, rest⟩ := read
    cases rest with
    | cons octet rest =>
      rw [BerSpanReader.tryReadExact, hread, MmsPduCodec.readOuterExact, if_neg hsize,
        tryReadTlv_view, hread]
      rfl
    | nil =>
      have houter := outer_agrees h hread
      rw [tryReadExact_of_read hread]
      by_cases hbad : view.toTlv.encodedTag ≠ 0xA0 ∨ view.toTlv.constructed = false
      · have herror : MmsPduCodec.readOuterExact bytes 0xA0 "MMS Confirmed-Request" =
            .error ("MMS Confirmed-Request" ++ " has an unexpected top-level tag.") := by
          rw [MmsPduCodec.readOuterExact, if_neg hsize, tryReadTlv_view, hread]
          exact if_pos hbad
        simp only [Option.bind_eq_bind, Option.bind_some, if_pos (houter.mpr hbad), herror]
        rfl
      rw [readOuterExact_of_read _ hsize hread hbad]
      simp only [Option.bind_eq_bind, Option.bind_some, if_neg (fun hs => hbad (houter.mp hs))]
      show _ = (Except.bind (readChildren view.value) _).toOption
      cases hviews : readTlvs 4 view.value with
      | none =>
        cases hchildren : readChildren view.value with
        | error error => rfl
        | ok tlvs =>
          have hmany : tlvs.length > 4 := by
            by_contra hfew
            obtain ⟨views, hsome, -⟩ :=
              readTlvs_of_children (children_of_readChildren hchildren) (Nat.le_of_not_lt hfew)
            rw [hviews] at hsome
            cases hsome
          have hcount : tlvs.length < 2 ∨ tlvs.length > 4 := .inr hmany
          show none = (if tlvs.length < 2 ∨ tlvs.length > 4 then _ else _ : Except _ _).toOption
          rw [if_pos hcount]
          rfl
      | some views =>
        obtain ⟨hchildren, hlen⟩ := children_of_readTlvs hviews
        rw [readChildren_of_children hchildren]
        rcases views with - | ⟨first, - | ⟨second, others⟩⟩
        · rfl
        · rfl
        have hcount : ¬(((first :: second :: others).map BerTlvView.toTlv).length < 2 ∨
            ((first :: second :: others).map BerTlvView.toTlv).length > 4) := by
          simp only [List.length_map, List.length_cons] at hlen ⊢
          omega
        have hlast : ((first :: second :: others).map BerTlvView.toTlv).getLastD {} =
            ((second :: others).getLast (List.cons_ne_nil _ _)).toTlv := by
          rw [List.map_cons, List.getLastD_cons, List.getLastD_eq_getLast?, List.getLast?_map,
            List.getLast?_eq_some_getLast (List.cons_ne_nil second others)]
          rfl
        have hinvoke := decodeInvoke_agrees first
        simp only [Option.bind_some]
        show _ = (if _ then _ else Except.bind (MmsPduCodec.decodeInvokeTlv first.toTlv) _ :
          Except _ _).toOption
        rw [if_neg hcount, hlast]
        generalize (second :: others).getLast (List.cons_ne_nil _ _) = last
        cases hid : MmsPduSpanCodec.decodeInvoke first with
        | none =>
          rw [hid] at hinvoke
          cases hvector : MmsPduCodec.decodeInvokeTlv first.toTlv with
          | error error => rfl
          | ok id =>
            rw [hvector] at hinvoke
            cases hinvoke
        | some id =>
          rw [hid] at hinvoke
          cases hvector : MmsPduCodec.decodeInvokeTlv first.toTlv with
          | error error =>
            rw [hvector] at hinvoke
            cases hinvoke
          | ok value =>
            rw [hvector] at hinvoke
            obtain rfl : id.toNat = value := Option.some.inj hinvoke
            show Option.map _ (if last.tagClass ≠ .contextSpecific then none else some _) =
              (if last.toTlv.tagClass ≠ .contextSpecific then _ else _ : Except _ _).toOption
            by_cases hclass : last.tagClass ≠ .contextSpecific
            · rw [if_pos hclass, if_pos (show last.toTlv.tagClass ≠ _ from hclass)]
              rfl
            · rw [if_neg hclass, if_neg (show ¬last.toTlv.tagClass ≠ _ from hclass)]
              rfl

/-! ## Responses -/

namespace MmsResponseFields

open BerSpanWriter

variable (response : MmsResponseFields)

/-- The invoke identifier and the service. -/
def body : Bytes :=
  encodeTlv .universal false 2 (positiveIntegerContent response.invokeId.toUInt64) ++
    encodeTlv .contextSpecific response.serviceConstructed response.serviceTag.toInt.toNat
      response.serviceValue

def octets : Bytes := encodeTlv .contextSpecific true 1 response.body

/-- What both encoders ask of the fields. -/
structure Valid : Prop where
  invokeId : response.invokeId.toNat ≤ MmsPduCodec.maximumInvokeId
  nonneg : ¬response.serviceTag < 0
  serviceTag : response.serviceTag.toInt.toNat ≤ 1000000
  serviceValue : response.serviceValue.length ≤ maximumPduBytes

variable {response}

theorem length_encodeTlv_le (tagClass : BerClass) (constructed : Bool) (tagNumber : Nat)
    (value : Bytes) : (encodeTlv tagClass constructed tagNumber value).length ≤ value.length + 11 := by
  have hid := length_identifier_le tagClass constructed tagNumber
  have hfield := length_lengthField_le value.length
  rw [encodeTlv, tlvHeader, List.length_append, List.length_append]
  omega

theorem length_body_le (h : response.serviceValue.length ≤ maximumPduBytes) :
    response.body.length ≤ maximumPduBytes + 31 := by
  have hinvoke := length_encodeTlv_le .universal false 2
    (positiveIntegerContent response.invokeId.toUInt64)
  have hservice := length_encodeTlv_le .contextSpecific response.serviceConstructed
    response.serviceTag.toInt.toNat response.serviceValue
  have hcontent := length_positiveIntegerContent_le response.invokeId.toUInt64
  rw [body, List.length_append]
  omega

/-- The sizes of the span encoder. -/
theorem confirmedSizes_eq (h : response.serviceValue.length ≤ maximumPduBytes) :
    MmsPduSpanCodec.confirmedSizes 1 response.invokeId response.serviceTag.toInt.toNat
        response.serviceValue.length =
      if response.octets.length > maximumPduBytes then none
      else some (response.body.length, response.octets.length) := by
  have hmax : maximumPduBytes = 1048576 := rfl
  have hlimit : uint32Max = 4294967295 := rfl
  have hsize : sizeMax = 18446744073709551615 := rfl
  have hbody := length_body_le h
  have hservice := @tlvSize_eq .contextSpecific response.serviceConstructed
    response.serviceTag.toInt.toNat response.serviceValue.length (by omega)
  have hservice' : (tlvHeader .contextSpecific response.serviceConstructed
      response.serviceTag.toInt.toNat response.serviceValue.length).length +
        response.serviceValue.length = (encodeTlv .contextSpecific response.serviceConstructed
          response.serviceTag.toInt.toNat response.serviceValue).length := by
    rw [encodeTlv, List.length_append]
  rw [hservice'] at hservice
  have houter := @tlvSize_eq .contextSpecific true 1 response.body.length (by omega)
  have houter' : (tlvHeader .contextSpecific true 1 response.body.length).length +
      response.body.length = response.octets.length := by
    rw [octets, encodeTlv, List.length_append]
  rw [houter'] at houter
  have hsum : addSize (encodeTlv .universal false 2
        (positiveIntegerContent response.invokeId.toUInt64)).length
      (encodeTlv .contextSpecific response.serviceConstructed response.serviceTag.toInt.toNat
        response.serviceValue).length = some response.body.length := by
    rw [addSize_of_le]
    · rw [body, List.length_append]
    · rw [body, List.length_append] at hbody
      omega
  unfold MmsPduSpanCodec.confirmedSizes
  simp only [Option.bind_eq_bind, size_positive .universal, hservice, hsum, houter,
    Option.bind_some]

/-- What the span encoder writes. -/
theorem writeConfirmed_eq (h : response.serviceValue.length ≤ maximumPduBytes) :
    MmsPduSpanCodec.writeConfirmed 1 response.invokeId response.serviceTag.toInt.toNat
        response.serviceConstructed response.serviceValue response.body.length
        response.octets.length =
      some { capacity := response.octets.length, out := response.octets } := by
  have hmax : maximumPduBytes = 1048576 := rfl
  have hlimit : uint32Max = 4294967295 := rfl
  have hbody := length_body_le h
  have hheader := @writes_writeTlvHeader .contextSpecific true 1
    response.body.length (by omega)
  have hinvoke := writes_positive .universal 2 response.invokeId
  have hservice := @writes_writeTlv .contextSpecific response.serviceConstructed
    response.serviceTag.toInt.toNat response.serviceValue (by omega)
  have hwritten := hheader.bind (hinvoke.bind hservice)
    { capacity := response.octets.length } (fits_new _)
  have hoctets : tlvHeader .contextSpecific true 1 response.body.length ++
      (encodeTlv .universal false 2 (positiveIntegerContent response.invokeId.toUInt64) ++
        encodeTlv .contextSpecific response.serviceConstructed response.serviceTag.toInt.toNat
          response.serviceValue) = response.octets := rfl
  rw [hoctets, writeBytes_of_le (by simp)] at hwritten
  simp only [Option.bind_assoc] at hwritten
  unfold MmsPduSpanCodec.writeConfirmed
  simp only [Option.bind_eq_bind, ← Option.bind_assoc] at hwritten ⊢
  rw [hwritten]
  exact if_neg (not_not.mpr rfl)

/-- **The span encoder**, on valid fields. -/
theorem encodeResponseInto_eq (h : response.Valid) (destinationSize : Nat) :
    MmsPduSpanCodec.encodeResponseInto response destinationSize =
      if response.octets.length > maximumPduBytes then { status := .valueOutOfRange }
      else if destinationSize < response.octets.length then
        { status := .bufferTooSmall, requiredBytes := response.octets.length }
      else { bytes := response.octets, requiredBytes := response.octets.length } := by
  obtain ⟨hinvoke, hnonneg, htag, hvalue⟩ := h
  have hid : ¬response.invokeId > MmsPduSpanCodec.maximumInvokeId := by
    intro hgt
    exact absurd hinvoke (Nat.not_le.mpr (UInt32.lt_iff_toNat_lt.mp hgt))
  have hlimits : ¬(response.invokeId > MmsPduSpanCodec.maximumInvokeId ∨
      response.serviceTag.toInt.toNat > 1000000 ∨
        response.serviceValue.length > maximumPduBytes) := by
    rintro (hgt | hgt | hgt)
    · exact hid hgt
    · omega
    · omega
  rw [MmsPduSpanCodec.encodeResponseInto, if_neg hnonneg,
    MmsPduSpanCodec.encodeConfirmedResponseInto, MmsPduSpanCodec.encodeConfirmed, if_neg hlimits,
    confirmedSizes_eq hvalue]
  by_cases hbig : response.octets.length > maximumPduBytes
  · rw [if_pos hbig, if_pos hbig]
  · rw [if_neg hbig, if_neg hbig]
    dsimp only
    rw [writeConfirmed_eq hvalue]

/-- The growing encoder, on valid fields. -/
theorem encodeResponse_eq (h : response.Valid) :
    MmsPduCodec.encodeResponse response =
      if response.body.length > maximumPduBytes then
        .error "MMS encoded length exceeds the configured limit."
      else .ok response.octets := by
  obtain ⟨hinvoke, hnonneg, htag, hvalue⟩ := h
  have hmax : maximumPduBytes = 1048576 := rfl
  have hlimit : uint32Max = 4294967295 := rfl
  have hcontent := length_positiveIntegerContent_le response.invokeId.toUInt64
  have hid : UInt64.ofNat response.invokeId.toNat = response.invokeId.toUInt64 :=
    UInt64.toNat_inj.mp (by
      have hlt := response.invokeId.toNat_lt
      rw [UInt64.toNat_ofNat', Nat.mod_eq_of_lt (by omega)]
      rfl)
  have hinvokeTlv : BerWriter.encodeTagged 0x02
      (positiveIntegerContent response.invokeId.toUInt64) =
        .ok (encodeTlv .universal false 2 (positiveIntegerContent response.invokeId.toUInt64)) :=
    BerWriter.encodeTagged_of_le (by omega)
  have hserviceTlv : BerWriter.encodeTlv .contextSpecific response.serviceConstructed
      response.serviceTag.toInt.toNat response.serviceValue =
        .ok (encodeTlv .contextSpecific response.serviceConstructed response.serviceTag.toInt.toNat
          response.serviceValue) := by
    rw [BerWriter.encodeTlv, BerWriter.writeTlv_eq [] _ _ (by omega) (by omega), List.nil_append]
  have hbody : [encodeTlv .universal false 2 (positiveIntegerContent response.invokeId.toUInt64),
      encodeTlv .contextSpecific response.serviceConstructed response.serviceTag.toInt.toNat
        response.serviceValue].flatten = response.body := by
    rw [List.flatten_cons, List.flatten_singleton, body]
  have hinvoke' : ¬response.confirmed.invokeId > MmsPduCodec.maximumInvokeId := Nat.not_lt.mpr hinvoke
  have htag' : ¬response.confirmed.serviceTag > 1000000 := Nat.not_lt.mpr htag
  have hvalue' : ¬response.confirmed.serviceValue.length > MmsPduCodec.maximumPduBytes :=
    Nat.not_lt.mpr hvalue
  have hid' : UInt64.ofNat response.confirmed.invokeId = response.invokeId.toUInt64 := hid
  rw [MmsPduCodec.encodeResponse, if_neg (Nat.not_lt.mpr hinvoke), if_neg hnonneg,
    MmsPduCodec.encodeConfirmedResponse, MmsPduCodec.encodeConfirmed, if_neg hinvoke', if_neg htag',
    if_neg hvalue', hid', hinvokeTlv]
  have hserviceTlv' : BerWriter.encodeTlv .contextSpecific response.confirmed.serviceConstructed
      response.confirmed.serviceTag response.confirmed.serviceValue = _ := hserviceTlv
  show (BerWriter.encodeTlv _ _ _ _).bind _ = _
  rw [hserviceTlv']
  show (MmsPduCodec.concat _).bind _ = _
  rw [MmsPduCodec.concat, concatWithin, hbody]
  by_cases hbig : response.body.length > maximumPduBytes
  · have hbig' : response.body.length > MmsPduCodec.maximumPduBytes := hbig
    rw [if_pos hbig, if_pos hbig']
    rfl
  · have hbig' : ¬response.body.length > MmsPduCodec.maximumPduBytes := hbig
    rw [if_neg hbig, if_neg hbig']
    exact BerWriter.encodeTagged_of_le (by omega)

theorem valid_of_encodeResponse {pdu : Bytes} (h : MmsPduCodec.encodeResponse response = .ok pdu) :
    response.Valid := by
  rw [MmsPduCodec.encodeResponse] at h
  split at h
  · cases h
  rename_i hinvoke
  split at h
  · cases h
  rename_i hnonneg
  obtain ⟨-, htag, hvalue, -⟩ := MmsPduCodec.encodeConfirmed_ok h
  exact ⟨Nat.le_of_not_lt hinvoke, hnonneg, htag, hvalue⟩

theorem valid_of_encodeResponseInto {destinationSize : Nat}
    (h : (MmsPduSpanCodec.encodeResponseInto response destinationSize).status = .ok) :
    response.Valid := by
  rw [MmsPduSpanCodec.encodeResponseInto] at h
  split at h
  · cases h
  rename_i hnonneg
  rw [MmsPduSpanCodec.encodeConfirmedResponseInto, MmsPduSpanCodec.encodeConfirmed] at h
  split at h
  · cases h
  rename_i hlimits
  obtain ⟨hinvoke, hrest⟩ := not_or.mp hlimits
  obtain ⟨htag, hvalue⟩ := not_or.mp hrest
  refine ⟨?_, hnonneg, Nat.le_of_not_lt htag, Nat.le_of_not_lt hvalue⟩
  exact UInt32.le_iff_toNat_le.mp (UInt32.not_lt.mp hinvoke)

/-- **Both encoders make the same response**, of at most the size of a PDU. -/
theorem encodeResponseInto_of_ok {pdu : Bytes}
    (h : MmsPduCodec.encodeResponse response = .ok pdu) (hlen : pdu.length ≤ maximumPduBytes)
    {destinationSize : Nat} (hroom : pdu.length ≤ destinationSize) :
    MmsPduSpanCodec.encodeResponseInto response destinationSize =
      { bytes := pdu, requiredBytes := pdu.length } := by
  have hvalid := valid_of_encodeResponse h
  rw [encodeResponse_eq hvalid] at h
  split at h
  · cases h
  · cases h
    rw [encodeResponseInto_eq hvalid, if_neg (Nat.not_lt.mpr hlen), if_neg (Nat.not_lt.mpr hroom)]

theorem encodeResponse_of_into {destinationSize : Nat}
    (h : (MmsPduSpanCodec.encodeResponseInto response destinationSize).status = .ok) :
    MmsPduCodec.encodeResponse response =
      .ok (MmsPduSpanCodec.encodeResponseInto response destinationSize).bytes := by
  have hvalid := valid_of_encodeResponseInto h
  rw [encodeResponseInto_eq hvalid] at h ⊢
  split at h
  · cases h
  rename_i hlen
  split at h
  · cases h
  rename_i hroom
  have hbody : ¬response.body.length > maximumPduBytes := by
    rw [octets, encodeTlv, List.length_append] at hlen
    omega
  rw [if_neg hlen, if_neg hroom, encodeResponse_eq hvalid, if_neg hbody]

theorem decodeConfirmedResponse_encode {pdu : Bytes}
    (h : MmsPduCodec.encodeResponse response = .ok pdu) (hlen : pdu.length ≤ maximumPduBytes) :
    MmsPduCodec.decodeConfirmedResponse pdu = .ok response.confirmed := by
  rw [MmsPduCodec.encodeResponse] at h
  split at h
  · cases h
  split at h
  · cases h
  · exact MmsPduCodec.decodeConfirmed_encode h (by decide) (by decide) hlen _

end MmsResponseFields

/-! ## Errors -/

theorem minimalUnsignedSize_bounds (value : UInt32) :
    value.toNat < 256 ^ Detail.minimalUnsignedSize value ∧
      (1 < Detail.minimalUnsignedSize value →
        256 ^ (Detail.minimalUnsignedSize value - 1) ≤ value.toNat) := by
  have hlt := value.toNat_lt
  have hbound (limit : UInt32) : value ≤ limit ↔ value.toNat ≤ limit.toNat :=
    UInt32.le_iff_toNat_le
  have hone : (0xFF : UInt32).toNat = 0xFF := rfl
  have htwo : (0xFFFF : UInt32).toNat = 0xFFFF := rfl
  have hthree : (0xFFFFFF : UInt32).toNat = 0xFFFFFF := rfl
  unfold Detail.minimalUnsignedSize
  simp only [hbound, hone, htwo, hthree]
  split
  · omega
  split
  · omega
  split <;> omega

theorem shiftRight_le_iff (value : UInt32) {n : Nat} (hn : n ≤ 3) :
    value >>> UInt32.ofNat (n * 8) ≤ 0xFF ↔ value.toNat < 256 ^ (n + 1) := by
  have hpow : 2 ^ (n * 8) = 256 ^ n := by
    rw [Nat.mul_comm, Nat.pow_mul]
  have hpos : 0 < 256 ^ n := Nat.pow_pos (by omega)
  have hone : (0xFF : UInt32).toNat = 255 := rfl
  rw [UInt32.le_iff_toNat_le, UInt32.toNat_shiftRight, UInt32.toNat_ofNat', hone,
    Nat.mod_eq_of_lt (show n * 8 < 2 ^ 32 by omega), Nat.mod_eq_of_lt (show n * 8 < 32 by omega),
    Nat.shiftRight_eq_div_pow, hpow, Nat.pow_succ, ← Nat.lt_succ_iff, Nat.div_lt_iff_lt_mul hpos,
    Nat.mul_comm]

theorem writeSizedInteger_prefixed (writer : BerSpanWriter) {value : UInt32} {bytes : Nat}
    (h : bytes > 1 ∧ value >>> UInt32.ofNat ((bytes - 2) * 8) ≤ 0xFF) :
    MmsPduSpanCodec.writeSizedInteger writer value bytes =
      (writer.writeByte 0).bind (·.writeBytes (beOctets (bytes - 1) value.toNat)) := by
  have hless : bytes - 1 < bytes := by omega
  unfold MmsPduSpanCodec.writeSizedInteger
  rw [if_pos h]
  dsimp only
  rw [decide_eq_true hless]
  rfl

theorem writeSizedInteger_plain (writer : BerSpanWriter) {value : UInt32} {bytes : Nat}
    (h : ¬(bytes > 1 ∧ value >>> UInt32.ofNat ((bytes - 2) * 8) ≤ 0xFF)) :
    MmsPduSpanCodec.writeSizedInteger writer value bytes =
      writer.writeBytes (beOctets bytes value.toNat) := by
  unfold MmsPduSpanCodec.writeSizedInteger
  rw [if_neg h]
  dsimp only
  rw [Nat.sub_zero, decide_eq_false (Nat.lt_irrefl bytes)]
  rfl

/-- The writer of the compatibility PDUs finds the prefix in the size. -/
theorem writeSizedInteger_eq (writer : BerSpanWriter) (value : UInt32) :
    MmsPduSpanCodec.writeSizedInteger writer value (Detail.positiveIntegerSize value) =
      Detail.writePositiveContent writer value := by
  obtain ⟨hless, hmore⟩ := minimalUnsignedSize_bounds value
  have hrange := minimalUnsignedSize_range value
  unfold Detail.writePositiveContent Detail.positiveIntegerSize
  dsimp only
  cases hneeds : Detail.needsPositivePrefix value (Detail.minimalUnsignedSize value) with
  | true =>
    have hlead : Detail.minimalUnsignedSize value + 1 > 1 ∧
        value >>> UInt32.ofNat ((Detail.minimalUnsignedSize value + 1 - 2) * 8) ≤ 0xFF := by
      refine ⟨by omega, (shiftRight_le_iff value (by omega)).mpr ?_⟩
      rwa [show Detail.minimalUnsignedSize value + 1 - 2 + 1 = Detail.minimalUnsignedSize value by
        omega]
    rw [if_pos rfl, writeSizedInteger_prefixed writer hlead, Nat.add_sub_cancel]
    rfl
  | false =>
    have hnone : ¬(Detail.minimalUnsignedSize value > 1 ∧
        value >>> UInt32.ofNat ((Detail.minimalUnsignedSize value - 2) * 8) ≤ 0xFF) := by
      rintro ⟨hlong, hle⟩
      have hlt := (shiftRight_le_iff value (by omega)).mp hle
      rw [show Detail.minimalUnsignedSize value - 2 + 1 = Detail.minimalUnsignedSize value - 1 by
        omega] at hlt
      exact absurd (hmore hlong) (Nat.not_le.mpr hlt)
    rw [if_neg Bool.false_ne_true, Nat.add_zero, writeSizedInteger_plain writer hnone]
    rfl

/-- A number that was written is read back. -/
theorem readU32_written (value : UInt32) {tlv : BerTlv}
    (h : tlv.value = positiveIntegerContent value.toUInt64) (fieldName : String) :
    MmsPduCodec.readU32 tlv fieldName = .ok value.toNat := by
  have hlt := value.toNat_lt
  have hnat : value.toUInt64.toNat = value.toNat := rfl
  have hread := readUnsignedInteger_positive value.toUInt64 (by omega) h
  rw [hnat] at hread
  rw [MmsPduCodec.readU32, hread]
  exact if_neg (by rw [uint32Max]; omega)

namespace MmsErrorFields

open BerSpanWriter

variable (error : MmsErrorFields)

def choice : Bytes :=
  encodeTlv .contextSpecific false error.errorClassTag.toInt.toNat
    (positiveIntegerContent error.errorValue.toUInt64)

def errorClass : Bytes := encodeTlv .contextSpecific true 0 error.choice

def body : Bytes :=
  encodeTlv .contextSpecific false 0 (positiveIntegerContent error.invokeId.toUInt64) ++
    encodeTlv .contextSpecific true 2 error.errorClass

def octets : Bytes := encodeTlv .contextSpecific true 2 error.body

/-- What the growing encoder asks of the fields. -/
structure Valid : Prop where
  invokeId : error.invokeId.toNat ≤ MmsPduCodec.maximumInvokeId
  nonneg : ¬error.errorClassTag < 0
  errorClassTag : ¬error.errorClassTag > 1000000

variable {error}

/-- The parts are small. -/
theorem length_parts_le (error : MmsErrorFields) :
    error.choice.length ≤ 20 ∧ error.errorClass.length ≤ 31 ∧ error.body.length ≤ 62 := by
  have hid := length_positiveIntegerContent_le error.invokeId.toUInt64
  have hvalue := length_positiveIntegerContent_le error.errorValue.toUInt64
  have hchoice := MmsResponseFields.length_encodeTlv_le .contextSpecific false
    error.errorClassTag.toInt.toNat (positiveIntegerContent error.errorValue.toUInt64)
  have hclass := MmsResponseFields.length_encodeTlv_le .contextSpecific true 0 error.choice
  have hservice := MmsResponseFields.length_encodeTlv_le .contextSpecific true 2 error.errorClass
  have hinvoke := MmsResponseFields.length_encodeTlv_le .contextSpecific false 0
    (positiveIntegerContent error.invokeId.toUInt64)
  have hchoice' : error.choice.length ≤ 20 := by
    unfold choice
    omega
  have hclass' : error.errorClass.length ≤ 31 := by
    unfold errorClass
    omega
  refine ⟨hchoice', hclass', ?_⟩
  rw [body, List.length_append]
  omega

theorem Valid.tag (h : error.Valid) :
    ((error.errorClassTag.toInt.toNat : Nat) : Int) = error.errorClassTag.toInt ∧
      error.errorClassTag.toInt.toNat ≤ 1000000 := by
  have hzero : (0 : Int32).toInt = 0 := by decide
  have hmillion : (1000000 : Int32).toInt = 1000000 := by decide
  have hnonneg := Int32.lt_iff_toInt_lt.not.mp h.nonneg
  have htag := Int32.lt_iff_toInt_lt.not.mp h.errorClassTag
  rw [hzero] at hnonneg
  rw [hmillion] at htag
  omega

/-- A constructed TLV behind its identifier octet. -/
theorem encodeTagged_eq {tag : UInt8} {tagNumber : Nat} {value : Bytes}
    (htag : identifier .contextSpecific true tagNumber = [tag]) (h : value.length ≤ uint32Max) :
    BerWriter.encodeTagged tag value = .ok (encodeTlv .contextSpecific true tagNumber value) := by
  rw [BerWriter.encodeTagged_of_le h, encodeTlv, tlvHeader, htag, List.singleton_append]

/-- The growing encoder, on valid fields. -/
theorem encodeConfirmedError_eq (h : error.Valid) :
    MmsPduCodec.encodeConfirmedError error = .ok error.octets := by
  obtain ⟨hcast, htag⟩ := h.tag
  obtain ⟨hchoiceLen, hclassLen, hbodyLen⟩ := length_parts_le error
  have hid := length_positiveIntegerContent_le error.invokeId.toUInt64
  have hvalue := length_positiveIntegerContent_le error.errorValue.toUInt64
  have hlimit : uint32Max = 4294967295 := rfl
  have hmax : MmsPduCodec.maximumPduBytes = 1048576 := rfl
  have hinvalid : ¬(error.invokeId.toNat > MmsPduCodec.maximumInvokeId ∨
      error.errorClassTag < 0 ∨ error.errorClassTag > 1000000) := by
    rintro (hgt | hlt | hgt)
    · exact absurd h.invokeId (Nat.not_le.mpr hgt)
    · exact h.nonneg hlt
    · exact h.errorClassTag hgt
  have hinvokeTlv : BerWriter.encodeTlv .contextSpecific false 0
      (positiveIntegerContent error.invokeId.toUInt64) = .ok (encodeTlv .contextSpecific false 0
        (positiveIntegerContent error.invokeId.toUInt64)) :=
    BerWriter.writeTlv_eq [] .contextSpecific false (by decide) (by omega)
  have hchoiceTlv : BerWriter.encodeTlv .contextSpecific false error.errorClassTag.toInt
      (positiveIntegerContent error.errorValue.toUInt64) = .ok error.choice := by
    rw [← hcast]
    exact BerWriter.writeTlv_eq [] .contextSpecific false (by omega) (by omega)
  have hclassTlv : BerWriter.encodeTagged 0xA0 error.choice = .ok error.errorClass :=
    encodeTagged_eq (by decide) (by omega)
  have hserviceTlv : BerWriter.encodeTagged 0xA2 error.errorClass =
      .ok (encodeTlv .contextSpecific true 2 error.errorClass) :=
    encodeTagged_eq (by decide) (by omega)
  have hbody : MmsPduCodec.concat [encodeTlv .contextSpecific false 0
      (positiveIntegerContent error.invokeId.toUInt64),
      encodeTlv .contextSpecific true 2 error.errorClass] = .ok error.body := by
    rw [MmsPduCodec.concat, concatWithin, List.flatten_cons, List.flatten_singleton]
    exact if_neg (by rw [body] at hbodyLen; omega)
  rw [MmsPduCodec.encodeConfirmedError, if_neg hinvalid, hinvokeTlv]
  show (BerWriter.encodeTlv _ _ _ _).bind _ = _
  rw [hchoiceTlv]
  show (BerWriter.encodeTagged _ _).bind _ = _
  rw [hclassTlv]
  show (BerWriter.encodeTagged _ _).bind _ = _
  rw [hserviceTlv]
  show (MmsPduCodec.concat _).bind _ = _
  rw [hbody]
  exact encodeTagged_eq (by decide) (by omega)

theorem valid_of_encodeConfirmedError {pdu : Bytes}
    (h : MmsPduCodec.encodeConfirmedError error = .ok pdu) : error.Valid := by
  rw [MmsPduCodec.encodeConfirmedError] at h
  split at h
  · cases h
  · rename_i hvalid
    obtain ⟨hinvoke, hrest⟩ := not_or.mp hvalid
    obtain ⟨hnonneg, htag⟩ := not_or.mp hrest
    exact ⟨Nat.le_of_not_lt hinvoke, hnonneg, htag⟩

/-- The invoke identifier of an error has a tag of its own. -/
theorem decodeInvokeTlv_context {invokeId : UInt32}
    (h : invokeId.toNat ≤ MmsPduCodec.maximumInvokeId) :
    MmsPduCodec.decodeInvokeTlv (writtenTlv .contextSpecific false 0
      (positiveIntegerContent invokeId.toUInt64)) = .ok invokeId.toNat := by
  have hform : (!MmsPduCodec.invokeTlv (writtenTlv .contextSpecific false 0
      (positiveIntegerContent invokeId.toUInt64))) = false := rfl
  rw [MmsPduCodec.decodeInvokeTlv, hform, if_neg Bool.false_ne_true,
    readU32_written invokeId rfl]
  exact if_neg (Nat.not_lt.mpr h)

/-- **A confirmed error is read back.** -/
theorem decodeConfirmedError_octets (h : error.Valid) :
    MmsPduCodec.decodeConfirmedError error.octets = .ok error.confirmed := by
  obtain ⟨hcast, htag⟩ := h.tag
  obtain ⟨hchoiceLen, hclassLen, hbodyLen⟩ := length_parts_le error
  have hid := length_positiveIntegerContent_le error.invokeId.toUInt64
  have hvalue := length_positiveIntegerContent_le error.errorValue.toUInt64
  have hlimit : uint32Max = 4294967295 := rfl
  have hmax : MmsPduCodec.maximumPduBytes = 1048576 := rfl
  have houter := readsAs_encodeTlv .contextSpecific true (show 2 ≤ 1000000 by omega)
    (show error.body.length ≤ uint32Max by omega)
  have hinvoke := readsAs_encodeTlv .contextSpecific false (show 0 ≤ 1000000 by omega)
    (show (positiveIntegerContent error.invokeId.toUInt64).length ≤ uint32Max by omega)
  have hservice := readsAs_encodeTlv .contextSpecific true (show 2 ≤ 1000000 by omega)
    (show error.errorClass.length ≤ uint32Max by omega)
  have hclass := readsAs_encodeTlv .contextSpecific true (show 0 ≤ 1000000 by omega)
    (show error.choice.length ≤ uint32Max by omega)
  have hchoice := readsAs_encodeTlv .contextSpecific false htag
    (show (positiveIntegerContent error.errorValue.toUInt64).length ≤ uint32Max by omega)
  have hpduLen := MmsResponseFields.length_encodeTlv_le .contextSpecific true 2 error.body
  have hpdu : MmsPduCodec.readOuterExact error.octets 0xA2 "MMS Confirmed-Error" =
      .ok (writtenTlv .contextSpecific true 2 error.body) := by
    have hsize : ¬(error.octets = [] ∨ error.octets.length > MmsPduCodec.maximumPduBytes) := by
      rintro (hnil | hlong)
      · exact houter.ne_nil hnil
      · unfold octets at hlong
        omega
    rw [MmsPduCodec.readOuterExact, if_neg hsize, octets, houter.exact]
    rfl
  have hparts : readChildren error.body = .ok _ := readChildren_two hinvoke hservice
  have hinner : readChildren error.errorClass = .ok _ := readChildren_one hclass
  have hlast : readChildren error.choice = .ok _ := readChildren_one hchoice
  have hread := decodeInvokeTlv_context h.invokeId
  have herror : MmsPduCodec.readU32 (writtenTlv .contextSpecific false
      error.errorClassTag.toInt.toNat (positiveIntegerContent error.errorValue.toUInt64))
        "MMS service error value" = .ok error.errorValue.toNat :=
    readU32_written error.errorValue rfl _
  unfold MmsPduCodec.decodeConfirmedError
  rw [hpdu]
  show (readChildren error.body).bind _ = _
  rw [hparts]
  show (MmsPduCodec.decodeInvokeTlv _).bind _ = _
  rw [hread]
  show (readChildren error.errorClass).bind _ = _
  rw [hinner]
  show (readChildren error.choice).bind _ = _
  rw [hlast]
  show (MmsPduCodec.readU32 _ _).bind _ = _
  rw [herror]
  rfl

theorem decodeConfirmedError_encode {pdu : Bytes}
    (h : MmsPduCodec.encodeConfirmedError error = .ok pdu) :
    MmsPduCodec.decodeConfirmedError pdu = .ok error.confirmed := by
  have hvalid := valid_of_encodeConfirmedError h
  rw [encodeConfirmedError_eq hvalid] at h
  cases h
  exact decodeConfirmedError_octets hvalid

/-! The span encoder has one error: access, object-non-existent. -/

/-- Object-non-existent of the class access. -/
def objectNonExistent (invokeId : UInt32) : MmsErrorFields where
  invokeId
  errorClassTag := 7
  errorValue := 2

theorem choice_objectNonExistent (invokeId : UInt32) :
    (objectNonExistent invokeId).choice = [0x87, 1, 2] := by
  show encodeTlv .contextSpecific false (7 : Int32).toInt.toNat
    (positiveIntegerContent (2 : UInt32).toUInt64) = _
  decide

theorem errorSizes_eq (invokeId : UInt32) :
    MmsPduSpanCodec.errorSizes invokeId = some
      { invokeBytes := Detail.positiveIntegerSize invokeId
        accessTlv := (objectNonExistent invokeId).choice.length
        errorClassTlv := (objectNonExistent invokeId).errorClass.length
        content := (objectNonExistent invokeId).body.length
        required := (objectNonExistent invokeId).octets.length } := by
  obtain ⟨hchoiceLen, hclassLen, hbodyLen⟩ := length_parts_le (objectNonExistent invokeId)
  have hlimit : uint32Max = 4294967295 := rfl
  have hsize : sizeMax = 18446744073709551615 := rfl
  have haccess : tlvSize 7 1 = some (objectNonExistent invokeId).choice.length := by
    rw [choice_objectNonExistent]
    decide
  have hclass : tlvSize 0 (objectNonExistent invokeId).choice.length =
      some (objectNonExistent invokeId).errorClass.length := by
    rw [tlvSize_eq .contextSpecific true 0 (by omega), errorClass, encodeTlv, List.length_append]
  have hservice : tlvSize 2 (objectNonExistent invokeId).errorClass.length =
      some (encodeTlv .contextSpecific true 2 (objectNonExistent invokeId).errorClass).length := by
    rw [tlvSize_eq .contextSpecific true 2 (by omega), encodeTlv, List.length_append]
  have hbody : addSize
      (encodeTlv .contextSpecific false 0 (positiveIntegerContent invokeId.toUInt64)).length
      (encodeTlv .contextSpecific true 2 (objectNonExistent invokeId).errorClass).length =
        some (objectNonExistent invokeId).body.length := by
    have hparts := hbodyLen
    rw [body, List.length_append] at hparts ⊢
    refine addSize_of_le (Nat.le_trans hparts ?_)
    omega
  have houter : tlvSize 2 (objectNonExistent invokeId).body.length =
      some (objectNonExistent invokeId).octets.length := by
    rw [tlvSize_eq .contextSpecific true 2 (by omega), octets, encodeTlv, List.length_append]
  unfold MmsPduSpanCodec.errorSizes
  simp only [Option.bind_eq_bind, size_positive .contextSpecific, haccess, hclass, hservice, hbody,
    houter, Option.bind_some]

theorem writeConfirmedError_eq (invokeId : UInt32) {sizes : MmsPduSpanCodec.ErrorSizes}
    (h : MmsPduSpanCodec.errorSizes invokeId = some sizes) :
    MmsPduSpanCodec.writeConfirmedError invokeId sizes =
      some { capacity := sizes.required, out := (objectNonExistent invokeId).octets } := by
  obtain ⟨hchoiceLen, hclassLen, hbodyLen⟩ := length_parts_le (objectNonExistent invokeId)
  have hlimit : uint32Max = 4294967295 := rfl
  rw [errorSizes_eq] at h
  cases h
  have hheader := @writes_writeTlvHeader .contextSpecific true 2
    (objectNonExistent invokeId).body.length (by omega)
  have hinvoke := writes_positive .contextSpecific 0 invokeId
  have hservice := @writes_writeTlvHeader .contextSpecific true 2
    (objectNonExistent invokeId).errorClass.length (by omega)
  have hclass := @writes_writeTlvHeader .contextSpecific true 0
    (objectNonExistent invokeId).choice.length (by omega)
  have hchoice := @writes_writeTlvHeader .contextSpecific false 7 1 (by omega)
  have hvalue : Writes (writeByte · 2) [2] := writes_writeBytes [2]
  have hwritten := hheader.bind (hinvoke.bind (hservice.bind (hclass.bind (hchoice.bind hvalue))))
    { capacity := (objectNonExistent invokeId).octets.length } (fits_new _)
  have hoctets : tlvHeader .contextSpecific true 2 (objectNonExistent invokeId).body.length ++
      (encodeTlv .contextSpecific false 0 (positiveIntegerContent invokeId.toUInt64) ++
        (tlvHeader .contextSpecific true 2 (objectNonExistent invokeId).errorClass.length ++
          (tlvHeader .contextSpecific true 0 (objectNonExistent invokeId).choice.length ++
            (tlvHeader .contextSpecific false 7 1 ++ [2])))) =
        (objectNonExistent invokeId).octets := by
    have hlast : tlvHeader .contextSpecific false 7 1 ++ [2] =
        (objectNonExistent invokeId).choice := by
      rw [choice_objectNonExistent]
      decide
    rw [hlast]
    rfl
  rw [hoctets, writeBytes_of_le (by simp)] at hwritten
  simp only [Option.bind_assoc] at hwritten
  unfold MmsPduSpanCodec.writeConfirmedError
  simp only [Option.bind_eq_bind, writeSizedInteger_eq, ← Option.bind_assoc] at hwritten ⊢
  rw [hwritten]
  exact if_neg (not_not.mpr rfl)

/-- **The span encoder of errors** makes what the growing one makes of that error. -/
theorem encodeConfirmedErrorInto_eq (invokeId : UInt32) {pdu : Bytes}
    (h : MmsPduCodec.encodeConfirmedError (objectNonExistent invokeId) = .ok pdu)
    {destinationSize : Nat} (hroom : pdu.length ≤ destinationSize) :
    MmsPduSpanCodec.encodeConfirmedErrorInto invokeId destinationSize =
      { bytes := pdu, requiredBytes := pdu.length } := by
  have hvalid := valid_of_encodeConfirmedError h
  rw [encodeConfirmedError_eq hvalid] at h
  cases h
  have hid : ¬invokeId > MmsPduSpanCodec.maximumInvokeId := by
    intro hgt
    exact absurd hvalid.invokeId (Nat.not_le.mpr (UInt32.lt_iff_toNat_lt.mp hgt))
  have hsizes := errorSizes_eq invokeId
  have hwrite := writeConfirmedError_eq invokeId hsizes
  rw [MmsPduSpanCodec.encodeConfirmedErrorInto, if_neg hid, hsizes]
  dsimp only at hwrite ⊢
  rw [if_neg (Nat.not_lt.mpr hroom), hwrite]

theorem encodeConfirmedError_of_into {invokeId : UInt32} {destinationSize : Nat}
    (h : (MmsPduSpanCodec.encodeConfirmedErrorInto invokeId destinationSize).status = .ok) :
    MmsPduCodec.encodeConfirmedError (objectNonExistent invokeId) =
      .ok (MmsPduSpanCodec.encodeConfirmedErrorInto invokeId destinationSize).bytes := by
  have hsizes := errorSizes_eq invokeId
  have hwrite := writeConfirmedError_eq invokeId hsizes
  rw [MmsPduSpanCodec.encodeConfirmedErrorInto] at h ⊢
  by_cases hid : invokeId > MmsPduSpanCodec.maximumInvokeId
  · rw [if_pos hid] at h
    cases h
  rw [if_neg hid, hsizes] at h ⊢
  dsimp only at h hwrite ⊢
  split at h
  · cases h
  rename_i hroom
  rw [if_neg hroom, hwrite]
  refine encodeConfirmedError_eq ⟨?_, ?_, ?_⟩
  · exact UInt32.le_iff_toNat_le.mp (UInt32.not_lt.mp hid)
  · show ¬(7 : Int32) < 0
    decide
  · show ¬(7 : Int32) > 1000000
    decide

end MmsErrorFields

/-! ## Both codecs -/

/-- **The codecs of confirmed PDUs agree**: on requests whose tag is not in long form, on responses
of the size of a PDU, and on the error the span codec has. -/
theorem confirmed_codecs_agree (bytes pdu : Bytes) (response : MmsResponseFields)
    (error : MmsErrorFields) (destinationSize : Nat) :
    (bytes.head? ≠ some 0xBF →
      (MmsPduSpanCodec.tryDecodeConfirmedRequestView bytes).map MmsConfirmedPduView.confirmed =
        (MmsPduCodec.decodeConfirmedRequest bytes).toOption) ∧
    (MmsPduCodec.encodeResponse response = .ok pdu → pdu.length ≤ maximumPduBytes →
      MmsPduCodec.decodeConfirmedResponse pdu = .ok response.confirmed ∧
        (pdu.length ≤ destinationSize →
          MmsPduSpanCodec.encodeResponseInto response destinationSize =
            { bytes := pdu, requiredBytes := pdu.length })) ∧
    ((MmsPduSpanCodec.encodeResponseInto response destinationSize).status = .ok →
      MmsPduCodec.encodeResponse response =
        .ok (MmsPduSpanCodec.encodeResponseInto response destinationSize).bytes) ∧
    (MmsPduCodec.encodeConfirmedError error = .ok pdu →
      MmsPduCodec.decodeConfirmedError pdu = .ok error.confirmed ∧
        (error = .objectNonExistent error.invokeId → pdu.length ≤ destinationSize →
          MmsPduSpanCodec.encodeConfirmedErrorInto error.invokeId destinationSize =
            { bytes := pdu, requiredBytes := pdu.length })) ∧
    ((MmsPduSpanCodec.encodeConfirmedErrorInto error.invokeId destinationSize).status = .ok →
      MmsPduCodec.encodeConfirmedError (.objectNonExistent error.invokeId) =
        .ok (MmsPduSpanCodec.encodeConfirmedErrorInto error.invokeId destinationSize).bytes) := by
  refine ⟨request_agrees, ?_, MmsResponseFields.encodeResponse_of_into, ?_,
    MmsErrorFields.encodeConfirmedError_of_into⟩
  · intro hencode hlen
    refine ⟨MmsResponseFields.decodeConfirmedResponse_encode hencode hlen, fun hroom => ?_⟩
    exact MmsResponseFields.encodeResponseInto_of_ok hencode hlen hroom
  · intro hencode
    refine ⟨MmsErrorFields.decodeConfirmedError_encode hencode, fun herror hroom => ?_⟩
    rw [herror] at hencode
    exact MmsErrorFields.encodeConfirmedErrorInto_eq _ hencode hroom

theorem confirmed_codecs_agree_status :
    MmsPduCodec.decodeConfirmedResponse [0xA1, 5, 2, 1, 9, 0xA4, 0] =
        .ok { invokeId := 9, serviceTag := 4, serviceConstructed := true, serviceValue := [] } ∧
      MmsPduSpanCodec.encodeResponseInto { invokeId := 9, serviceTag := 4 } 64 =
        { bytes := [0xA1, 5, 2, 1, 9, 0xA4, 0], requiredBytes := 7 } := by
  obtain ⟨-, hresponse, -⟩ := confirmed_codecs_agree [] [0xA1, 5, 2, 1, 9, 0xA4, 0]
    { invokeId := 9, serviceTag := 4 } {} 64
  obtain ⟨hdecode, hinto⟩ := hresponse (by decide) (by decide)
  exact ⟨hdecode, hinto (by decide)⟩

/-- The span codec takes a request whose tag is in long form, and has no error of the class
definition. -/
theorem confirmed_codecs_differ :
    ((MmsPduSpanCodec.tryDecodeConfirmedRequestView [0xBF, 0, 5, 2, 1, 9, 0xA4, 0]).isSome = true ∧
      (MmsPduCodec.decodeConfirmedRequest [0xBF, 0, 5, 2, 1, 9, 0xA4, 0]).toOption = none) ∧
    (MmsPduCodec.encodeConfirmedError { invokeId := 9, errorClassTag := 2, errorValue := 1 }).toOption =
        some [0xA2, 10, 0x80, 1, 9, 0xA2, 5, 0xA0, 3, 0x82, 1, 1] ∧
      (MmsPduSpanCodec.encodeConfirmedErrorInto 9 64).bytes =
        [0xA2, 10, 0x80, 1, 9, 0xA2, 5, 0xA0, 3, 0x87, 1, 2] := by
  decide

end ArStack.Mms
