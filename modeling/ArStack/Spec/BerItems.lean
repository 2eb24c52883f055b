import ArStack.Lib.Throws
import ArStack.Spec.BerWriter

/-!
# Encoded items read back

What the growing writer returns is read as the TLV it was given, alone or among others.

* `taggedTlv` — the TLV of an identifier octet
* `readsAs_of_encodeTlv`, `readsAs_of_encodeTagged`
* `readChildren_flatten` — items one after the other
-/

namespace ArStack.Asn1

open ArStack.Lib BerSpanWriter BerReader

/-- The TLV of an identifier octet. -/
def taggedTlv (encodedTag : UInt8) (value : Bytes) : BerTlv where
  encodedTag
  tagClass := .ofTag encodedTag
  constructed := encodedTag &&& 0x20 != 0
  tagNumber := (encodedTag &&& 0x1F).toNat
  value

namespace BerWriter

theorem length_of_writeLength {buffer octets : Bytes} {length : Nat}
    (h : writeLength buffer length = .ok octets) : length ≤ uint32Max := by
  rw [writeLength] at h
  split at h
  · rw [uint32Max]
    omega
  · split at h
    · cases h
    · omega

theorem encodeTlv_ok {tagClass : BerClass} {constructed : Bool} (tagNumber : Nat)
    {value octets : Bytes} (h : encodeTlv tagClass constructed tagNumber value = .ok octets)
    (htag : tagNumber < 2 ^ 31) :
    value.length ≤ uint32Max ∧
      octets = BerSpanWriter.encodeTlv tagClass constructed tagNumber value := by
  have hlen : value.length ≤ uint32Max := by
    rw [encodeTlv, writeTlv] at h
    obtain ⟨buffer, -, h⟩ := except_bind_ok h
    obtain ⟨buffer', hlength, -⟩ := except_bind_ok h
    exact length_of_writeLength hlength
  rw [encodeTlv, writeTlv_eq [] _ _ htag hlen, List.nil_append] at h
  exact ⟨hlen, (Except.ok.inj h).symm⟩

/-- An identifier octet with a low tag number. -/
theorem identifier_tagged {tag : UInt8} (h : tag &&& 0x1F ≠ 0x1F) :
    identifier (.ofTag tag) (tag &&& 0x20 != 0) (tag &&& 0x1F).toNat = [tag] := by
  refine forall_octet (p := fun tag => tag &&& 0x1F ≠ 0x1F →
    identifier (.ofTag tag) (tag &&& 0x20 != 0) (tag &&& 0x1F).toNat = [tag]) ?_ tag h
  decide +kernel

theorem encodeTagged_ok {tag : UInt8} {value octets : Bytes}
    (h : encodeTagged tag value = .ok octets) :
    value.length ≤ uint32Max ∧ octets = tag :: lengthField value.length ++ value := by
  rw [encodeTagged, writeTagged] at h
  obtain ⟨buffer, hlength, h⟩ := except_bind_ok h
  have hlen := length_of_writeLength hlength
  rw [writeLength_eq _ hlen] at hlength
  cases hlength
  cases h
  exact ⟨hlen, rfl⟩

/-- Short enough values are always encoded. -/
theorem encodeTagged_of_le {tag : UInt8} {value : Bytes} (h : value.length ≤ uint32Max) :
    encodeTagged tag value = .ok (tag :: lengthField value.length ++ value) := by
  rw [encodeTagged, writeTagged, writeLength_eq _ h]
  rfl

end BerWriter

namespace BerReader

theorem readsAs_of_encodeTlv {tagClass : BerClass} {constructed : Bool} (tagNumber : Nat)
    {value octets : Bytes}
    (h : BerWriter.encodeTlv tagClass constructed tagNumber value = .ok octets)
    (htag : tagNumber ≤ 1000000) :
    ReadsAs octets (writtenTlv tagClass constructed tagNumber value) := by
  obtain ⟨hlen, rfl⟩ := BerWriter.encodeTlv_ok tagNumber h (by omega)
  exact readsAs_encodeTlv tagClass constructed htag hlen

theorem readsAs_of_encodeTagged {tag : UInt8} {value octets : Bytes}
    (h : BerWriter.encodeTagged tag value = .ok octets) (hlow : tag &&& 0x1F ≠ 0x1F) :
    ReadsAs octets (taggedTlv tag value) := by
  obtain ⟨hlen, rfl⟩ := BerWriter.encodeTagged_ok h
  have hsmall : ∀ n : UInt8, (n &&& 0x1F).toNat ≤ 1000000 := fun n => by
    have := (n &&& 0x1F).toNat_lt
    omega
  have hread := readsAs_encodeTlv (.ofTag tag) (tag &&& 0x20 != 0) (hsmall tag) hlen
  rw [encodeTlv, tlvHeader, writtenTlv, BerWriter.identifier_tagged hlow] at hread
  exact hread

theorem ReadsAs.value_length {octets : Bytes} {tlv : BerTlv} (h : ReadsAs octets tlv) :
    tlv.value.length < octets.length := by
  have := tryReadTlv_value_length h.exact
  omega

theorem ReadsAs.ne_nil {octets : Bytes} {tlv : BerTlv} (h : ReadsAs octets tlv) : octets ≠ [] := by
  intro hnil
  have hlt := h.value_length
  rw [hnil] at hlt
  exact absurd hlt (Nat.not_lt_zero _)

/-- **Items one after the other.** -/
theorem readChildren_flatten {items : List Bytes} {tlvs : List BerTlv}
    (h : List.Forall₂ ReadsAs items tlvs) : readChildren items.flatten = .ok tlvs :=
  readChildren_of_children (children_flatten h)

theorem readChildren_one {octets : Bytes} {tlv : BerTlv} (h : ReadsAs octets tlv) :
    readChildren octets = .ok [tlv] := by
  have hread := readChildren_flatten (.cons h .nil)
  rwa [List.flatten_singleton] at hread

theorem readChildren_two {first second : Bytes} {tlv tlv' : BerTlv} (h : ReadsAs first tlv)
    (h' : ReadsAs second tlv') : readChildren (first ++ second) = .ok [tlv, tlv'] := by
  have hread := readChildren_flatten (.cons h (.cons h' .nil))
  rwa [List.flatten_cons, List.flatten_singleton] at hread

end BerReader

end ArStack.Asn1
