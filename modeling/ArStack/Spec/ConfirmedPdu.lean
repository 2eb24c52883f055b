import ArStack.Mms.Pdu
import ArStack.Spec.BerItems

/-!
# Confirmed PDUs on the wire

* `readUnsignedInteger_positive` — numbers that have a leading zero if they need one
* `Carries` — a PDU, alone or in presentation data
* `decodeConfirmed_encode`, `extractMmsPayload_of_carries`
-/

namespace ArStack.Mms

open ArStack.Asn1 ArStack.Lib ArStack.Osi BerReader

/-! ## Numbers -/

theorem octetCount_le_four {n : Nat} (h : n < 256 ^ 4) : octetCount 8 n ≤ 4 := by
  have hpow : (256 : Nat) ^ 4 < 256 ^ 7 := by decide
  rw [octetCount_of_lt (w := 7) (by omega), octetCount_of_lt (w := 6) (by omega),
    octetCount_of_lt (w := 5) (by omega), octetCount_of_lt (w := 4) h]
  exact octetCount_le 4 n

theorem length_encodeUnsignedInteger (value : UInt64) (h : value.toNat < 2 ^ 32) :
    (BerWriter.encodeUnsignedInteger value).length ≤ 4 := by
  rw [BerWriter.encodeUnsignedInteger]
  by_cases hzero : value.toNat = 0
  · rw [hzero]
    decide
  · rw [BerWriter.trimZeros_beOctets (by omega) (by omega), length_beOctets]
    exact octetCount_le_four (by omega)

theorem beValue_positiveIntegerContent (value : UInt64) :
    beValue (positiveIntegerContent value) = value.toNat := by
  have hvalue := BerWriter.beValue_encodeUnsignedInteger value
  rw [positiveIntegerContent]
  cases hoctets : BerWriter.encodeUnsignedInteger value with
  | nil =>
    rw [hoctets] at hvalue
    exact hvalue
  | cons first rest =>
    rw [hoctets] at hvalue
    dsimp only
    split
    · rw [beValue_cons, hvalue]
      show 0 * _ + _ = _
      rw [Nat.zero_mul, Nat.zero_add]
    · exact hvalue

/-- **A number of 32 bits is read back.** -/
theorem readUnsignedInteger_positive (value : UInt64) (h : value.toNat < 2 ^ 32) {tlv : BerTlv}
    (hvalue : tlv.value = positiveIntegerContent value) :
    readUnsignedInteger tlv = some value.toNat := by
  have hlen := length_encodeUnsignedInteger value h
  have hlen' : ¬(positiveIntegerContent value).length > 8 := by
    rw [positiveIntegerContent]
    cases hoctets : BerWriter.encodeUnsignedInteger value with
    | nil => decide
    | cons first rest =>
      rw [hoctets] at hlen
      dsimp only
      split
      · rw [List.length_cons]
        omega
      · omega
  rw [readUnsignedInteger, hvalue, if_neg hlen', beValue_positiveIntegerContent]

namespace MmsPduCodec

/-! ## Confirmed PDUs -/

/-- What the writer makes of a confirmed PDU. -/
theorem encodeConfirmed_ok {outerTag : UInt8} {confirmed : MmsConfirmed} {pdu : Bytes}
    (h : encodeConfirmed outerTag confirmed = .ok pdu) :
    confirmed.invokeId ≤ maximumInvokeId ∧ confirmed.serviceTag ≤ 1000000 ∧
      confirmed.serviceValue.length ≤ MmsPduCodec.maximumPduBytes ∧
      ∃ body, BerWriter.encodeTagged outerTag body = .ok pdu ∧
        readChildren body = .ok
          [taggedTlv 0x02 (positiveIntegerContent (.ofNat confirmed.invokeId)),
            writtenTlv .contextSpecific confirmed.serviceConstructed confirmed.serviceTag
              confirmed.serviceValue] := by
  rw [encodeConfirmed] at h
  split at h
  · cases h
  rename_i hinvoke
  split at h
  · cases h
  rename_i htag
  split at h
  · cases h
  rename_i hvalue
  obtain ⟨invoke, hinvokeTlv, h⟩ := except_bind_ok h
  obtain ⟨service, hservice, h⟩ := except_bind_ok h
  obtain ⟨body, hbody, h⟩ := except_bind_ok h
  refine ⟨by omega, by omega, by omega, body, h, ?_⟩
  rw [concat, concatWithin] at hbody
  split at hbody
  · cases hbody
  · cases hbody
    rw [List.flatten_cons, List.flatten_singleton]
    exact readChildren_two (readsAs_of_encodeTagged hinvokeTlv (by decide))
      (readsAs_of_encodeTlv _ hservice (by omega))

/-- **A confirmed PDU is read back.** -/
theorem decodeConfirmed_encode {outerTag : UInt8} {confirmed : MmsConfirmed} {pdu : Bytes}
    (h : encodeConfirmed outerTag confirmed = .ok pdu) (hlow : outerTag &&& 0x1F ≠ 0x1F)
    (hconstructed : outerTag &&& 0x20 ≠ 0) (hlen : pdu.length ≤ MmsPduCodec.maximumPduBytes)
    (name : String) :
    decodeConfirmed pdu outerTag name = .ok confirmed := by
  obtain ⟨hinvoke, -, -, body, hpdu, hchildren⟩ := encodeConfirmed_ok h
  have hread := readsAs_of_encodeTagged hpdu hlow
  have houter : readOuterExact pdu outerTag name = .ok (taggedTlv outerTag body) := by
    have hsize : ¬(pdu = [] ∨ pdu.length > MmsPduCodec.maximumPduBytes) := by
      rintro (hnil | hlong)
      · exact hread.ne_nil hnil
      · omega
    rw [readOuterExact, if_neg hsize, hread.exact]
    have htag : ¬((taggedTlv outerTag body).encodedTag ≠ outerTag ∨
        (taggedTlv outerTag body).constructed = false) := by
      rintro (hne | hprimitive)
      · exact hne rfl
      · exact hconstructed (bne_eq_false_iff_eq.mp hprimitive)
    exact if_neg htag
  have hid : decodeInvokeTlv (taggedTlv 0x02
      (positiveIntegerContent (.ofNat confirmed.invokeId))) = .ok confirmed.invokeId := by
    have hmax : maximumInvokeId = 2147483647 := rfl
    have hnat : (UInt64.ofNat confirmed.invokeId).toNat = confirmed.invokeId := by
      rw [UInt64.toNat_ofNat', Nat.mod_eq_of_lt (by omega)]
    have hvalue : readUnsignedInteger
        (taggedTlv 0x02 (positiveIntegerContent (.ofNat confirmed.invokeId))) = _ :=
      readUnsignedInteger_positive (.ofNat confirmed.invokeId) (by omega) rfl
    rw [hnat] at hvalue
    have hform : (!invokeTlv (taggedTlv 0x02
        (positiveIntegerContent (.ofNat confirmed.invokeId)))) = false := rfl
    rw [decodeInvokeTlv, hform, if_neg Bool.false_ne_true, readU32, hvalue]
    dsimp only
    rw [if_neg (by rw [uint32Max]; omega)]
    exact if_neg (by omega)
  rw [decodeConfirmed, houter]
  show (readChildren body).bind _ = _
  rw [hchildren]
  show (decodeInvokeTlv (taggedTlv 0x02 _)).bind _ = _
  rw [hid]
  rfl

/-! ## Presentation data -/

/-- The payload is the PDU, alone or in presentation data of some context. -/
def Carries (pdu payload : Bytes) : Prop :=
  payload = pdu ∨ ∃ presentationContextId, wrapPData pdu presentationContextId = .ok payload

theorem readPositiveInteger_context {contextId : UInt32} (hne : contextId ≠ 0) (fieldName : String) :
    PresentationCodec.readPositiveInteger
      (taggedTlv 0x02 (BerWriter.encodeUnsignedInteger contextId.toUInt64)) fieldName =
        .ok contextId.toNat := by
  have hlt := contextId.toNat_lt
  have hnat : contextId.toUInt64.toNat = contextId.toNat := rfl
  have hread : readUnsignedInteger
      (taggedTlv 0x02 (BerWriter.encodeUnsignedInteger contextId.toUInt64)) =
        some contextId.toNat := by
    have hlen := length_encodeUnsignedInteger contextId.toUInt64 (by omega)
    rw [readUnsignedInteger]
    show (if (BerWriter.encodeUnsignedInteger contextId.toUInt64).length > 8 then none
      else some (beValue (BerWriter.encodeUnsignedInteger contextId.toUInt64))) = _
    rw [if_neg (by omega), BerWriter.beValue_encodeUnsignedInteger, hnat]
  have hpos : contextId.toNat ≠ 0 := fun hzero => hne (UInt32.toNat_inj.mp hzero)
  rw [PresentationCodec.readPositiveInteger, hread]
  exact if_neg (by rw [uint32Max]; omega)

theorem readSingleTlv_of_readsAs {octets value : Bytes} {expectedTag : UInt8}
    (h : ReadsAs octets (taggedTlv expectedTag value)) (description : String) :
    PresentationCodec.readSingleTlv octets expectedTag description =
      .ok (taggedTlv expectedTag value) := by
  rw [PresentationCodec.readSingleTlv, h.exact]
  exact if_pos rfl

/-- **Presentation data is read back.** -/
theorem tryDecodePData_encode {mms payload : Bytes} {contextId : UInt32}
    (h : PresentationCodec.encodePData mms contextId true = .ok payload)
    (hlen : payload.length ≤ MmsPduCodec.maximumPduBytes) :
    PresentationCodec.tryDecodePData payload =
      .ok { contextId := contextId.toNat, singleAsn1Type := mms } := by
  rw [PresentationCodec.encodePData] at h
  obtain ⟨encoded, hencoded, h⟩ := except_bind_ok h
  cases h
  rw [PresentationCodec.encodeFullyEncodedData] at hencoded
  split at hencoded
  · cases hencoded
  rename_i hcontext
  split at hencoded
  · cases hencoded
  obtain ⟨id, hid, hencoded⟩ := except_bind_ok hencoded
  obtain ⟨pdv, hpdv, hencoded⟩ := except_bind_ok hencoded
  obtain ⟨list, hlist, hencoded⟩ := except_bind_ok hencoded
  have hread := readsAs_of_encodeTagged hencoded (by decide)
  have hsize : ¬(encoded = [] ∨ encoded.length > PresentationCodec.maximumPpduBytes) := by
    rintro (hnil | hlong)
    · exact hread.ne_nil hnil
    · rw [SessionCodec.encodeDataTransfer, List.length_append] at hlen
      have hsame : PresentationCodec.maximumPpduBytes = MmsPduCodec.maximumPduBytes := rfl
      omega
  have hid' : PresentationCodec.pdvField {}
      (taggedTlv 0x02 (BerWriter.encodeUnsignedInteger contextId.toUInt64)) =
        .ok { contextId := some contextId.toNat } := by
    show (PresentationCodec.readPositiveInteger _ _).bind _ = _
    rw [readPositiveInteger_context hcontext]
    rfl
  have hfields : PresentationCodec.pdvFields {}
      [taggedTlv 0x02 (BerWriter.encodeUnsignedInteger contextId.toUInt64), taggedTlv 0xA0 mms] =
        .ok { contextId := some contextId.toNat, payload := some mms } := by
    rw [PresentationCodec.pdvFields, hid']
    rfl
  have hsession : PresentationCodec.tryDecodePData (SessionCodec.encodeDataTransfer encoded true) =
      PresentationCodec.tryDecodeFullyEncodedData encoded := rfl
  rw [hsession]
  rw [PresentationCodec.tryDecodeFullyEncodedData, if_neg hsize,
    readSingleTlv_of_readsAs hread]
  show (readChildren list).bind _ = _
  rw [readChildren_one (readsAs_of_encodeTagged hlist (by decide))]
  show (readChildren (id ++ pdv)).bind _ = _
  rw [readChildren_two (readsAs_of_encodeTagged hid (by decide))
    (readsAs_of_encodeTagged hpdv (by decide))]
  show (PresentationCodec.pdvFields {} _).bind _ = _
  rw [hfields]
  rfl

/-- **The PDU is found in what carries it.** -/
theorem extractMmsPayload_of_carries {outerTag : UInt8} {confirmed : MmsConfirmed}
    {pdu payload : Bytes} (h : encodeConfirmed outerTag confirmed = .ok pdu)
    (hkind : kindForTag outerTag ≠ .unknown) (hcarries : Carries pdu payload)
    (hlen : payload.length ≤ MmsPduCodec.maximumPduBytes) :
    extractMmsPayload payload = .ok pdu ∧ pdu.length ≤ MmsPduCodec.maximumPduBytes := by
  rcases hcarries with rfl | ⟨contextId, hwrap⟩
  · refine ⟨?_, hlen⟩
    obtain ⟨-, -, -, body, hpdu, -⟩ := encodeConfirmed_ok h
    obtain ⟨-, rfl⟩ := BerWriter.encodeTagged_ok hpdu
    rw [extractMmsPayload, if_neg (by
      rintro (hnil | hlong)
      · cases hnil
      · omega)]
    exact if_pos hkind
  · rw [wrapPData] at hwrap
    split at hwrap
    · cases hwrap
    rename_i hpdu
    have hne : payload ≠ [] := by
      rintro rfl
      rw [PresentationCodec.encodePData] at hwrap
      obtain ⟨encoded, -, hwrap⟩ := except_bind_ok hwrap
      cases hwrap
    have hfirst : kindForTag (octetAt payload 0) = .unknown := by
      rw [PresentationCodec.encodePData] at hwrap
      obtain ⟨encoded, -, hwrap⟩ := except_bind_ok hwrap
      cases hwrap
      rfl
    refine ⟨?_, by omega⟩
    rw [extractMmsPayload, if_neg (by
      rintro (hnil | hlong)
      · exact hne hnil
      · omega), if_neg (not_not.mpr hfirst), tryDecodePData_encode hwrap hlen]
    exact if_neg hpdu

end MmsPduCodec

end ArStack.Mms
