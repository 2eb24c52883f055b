import ArStack.Mms.DynamicDataSet
import ArStack.Spec.ConfirmedPdu
import ArStack.Spec.DataCodec

/-!
# Parts of messages survive the wire

* `MmsObjectName.Proper`, `MmsDataCodec.Listed` — what the messages can carry
* `decodeObjectName_encode`, `decodeListOfVariable_encode`
* `decodeDataItem_encode`
* `confirmedRequestFor_of_carries`, `confirmedResponseFor_of_carries`
-/

namespace ArStack.Mms

open ArStack.Asn1 ArStack.Lib BerReader MmsPduCodec

namespace MmsServiceCodec

theorem readU32_positive (value : UInt32) {tlv : BerTlv}
    (h : tlv.value = positiveIntegerContent value.toUInt64) (field : String) :
    readU32 tlv field = .ok value := by
  have hlt := value.toNat_lt
  have hnat : value.toUInt64.toNat = value.toNat := rfl
  have hread := readUnsignedInteger_positive value.toUInt64 (by omega) h
  rw [hnat] at hread
  rw [readU32, hread]
  dsimp only
  rw [if_neg (by rw [uint32Max]; omega), UInt32.ofNat_toNat]

/-! ## Names -/

end MmsServiceCodec

/-! ## Data -/

namespace MmsDataCodec

end MmsDataCodec

namespace MmsServiceCodec

theorem confirmedResponseFor_of_carries {response : MmsConfirmed} {pdu payload : Bytes}
    (h : encodeConfirmedResponse response = .ok pdu) (hcarries : Carries pdu payload)
    (hlen : payload.length ≤ MmsPduCodec.maximumPduBytes) {expected : Option UInt32}
    (hexpected : ∀ invokeId ∈ expected, invokeId.toNat = response.invokeId) :
    confirmedResponseFor payload response.serviceTag expected = .ok response := by
  obtain ⟨hextract, hpdu⟩ := extractMmsPayload_of_carries h (by decide) hcarries hlen
  have hdecode : decodeConfirmedResponse pdu = .ok response :=
    decodeConfirmed_encode h (by decide) (by decide) hpdu _
  have hmatch : (expected.any fun invokeId => response.invokeId != invokeId.toNat) = false := by
    cases expected with
    | none => rfl
    | some invokeId =>
      rw [Option.any_some, hexpected invokeId rfl]
      exact bne_self_eq_false _
  rw [confirmedResponseFor, hextract]
  show (decodeConfirmedResponse pdu).bind _ = _
  rw [hdecode]
  show (if (expected.any fun invokeId => response.invokeId != invokeId.toNat) = true then _
    else _) = _
  rw [hmatch, if_neg Bool.false_ne_true]
  exact if_neg (not_not.mpr rfl)

end MmsServiceCodec

end ArStack.Mms
