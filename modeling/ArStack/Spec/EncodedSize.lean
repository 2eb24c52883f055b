import ArStack.Mms.ServiceCodec
import ArStack.Spec.ConfirmedPdu

/-!
# Encodings that succeed

The growing writer fails on a value that is too long, and the codecs over it fail on a message that
is. A message of small parts is therefore encoded.

* `Encodes` — an encoding that succeeds, within a limit
* `encodes_encodeTlv`, `encodes_encodeTagged`, `encodes_concatWithin` — its parts
* `encodes_encodeConfirmedRequest` — a request
-/

namespace ArStack.Mms

open ArStack.Asn1 ArStack.Lib ArStack.Osi

/-- The encoding succeeds with octets, which are not more than that. -/
def Encodes (limit : Nat) (x : Except String Bytes) : Prop :=
  ∃ octets, x = .ok octets ∧ octets ≠ [] ∧ octets.length ≤ limit

theorem Encodes.bind {n m : Nat} {x : Except String Bytes} {f : Bytes → Except String Bytes}
    (h : Encodes n x) (hf : ∀ octets, octets ≠ [] → octets.length ≤ n → Encodes m (f octets)) :
    Encodes m (x >>= f) := by
  obtain ⟨octets, rfl, hne, hlen⟩ := h
  exact hf octets hne hlen

theorem Encodes.mono {n m : Nat} {x : Except String Bytes} (h : Encodes n x) (hle : n ≤ m) :
    Encodes m x := by
  obtain ⟨octets, hx, hne, hlen⟩ := h
  exact ⟨octets, hx, hne, by omega⟩

/-! ## TLVs -/

theorem length_lengthField_le (n : Nat) : (BerSpanWriter.lengthField n).length ≤ 5 := by
  rw [BerSpanWriter.lengthField]
  split
  · rw [List.length_singleton]
    omega
  · have := octetCount_le 4 n
    rw [List.length_cons, length_beOctets]
    omega

theorem lengthField_ne_nil (n : Nat) : BerSpanWriter.lengthField n ≠ [] := by
  rw [BerSpanWriter.lengthField]
  split
  · exact List.cons_ne_nil _ _
  · exact List.cons_ne_nil _ _

theorem length_tagGroups_le (fuel n : Nat) : (tagGroups fuel n).length ≤ fuel := by
  induction fuel generalizing n with
  | zero => exact Nat.le_refl _
  | succ fuel ih =>
    rw [tagGroups, List.length_cons]
    split
    · exact Nat.succ_pos fuel
    · have := ih (n >>> 7)
      omega

theorem length_identifier_le (tagClass : BerClass) (constructed : Bool) (n : Nat) :
    (BerSpanWriter.identifier tagClass constructed n).length ≤ 6 := by
  have hgroups := length_tagGroups_le 5 n
  rw [BerSpanWriter.identifier]
  dsimp only
  split
  · rw [List.length_singleton]
    omega
  · simp only [List.length_append, List.length_cons, List.length_map, List.length_reverse,
      List.length_drop, List.length_take]
    omega

theorem encodes_encodeTlv (tagClass : BerClass) (constructed : Bool) (tagNumber : Nat)
    {value : Bytes} {n : Nat} (hlen : value.length ≤ n) (htag : tagNumber < 2 ^ 31)
    (hn : n ≤ uint32Max) :
    Encodes (n + 11) (BerWriter.encodeTlv tagClass constructed tagNumber value) := by
  refine ⟨_, BerWriter.writeTlv_eq [] tagClass constructed htag (by omega), ?_, ?_⟩
  · rw [List.nil_append, BerSpanWriter.encodeTlv, BerSpanWriter.tlvHeader]
    exact List.append_ne_nil_of_left_ne_nil
      (List.append_ne_nil_of_right_ne_nil _ (lengthField_ne_nil _)) _
  · have hid := length_identifier_le tagClass constructed tagNumber
    have hfield := length_lengthField_le value.length
    rw [List.nil_append, BerSpanWriter.encodeTlv, BerSpanWriter.tlvHeader, List.length_append,
      List.length_append]
    omega

theorem encodes_encodeTagged (tag : UInt8) {value : Bytes} {n : Nat} (hlen : value.length ≤ n)
    (hn : n ≤ uint32Max) : Encodes (n + 6) (BerWriter.encodeTagged tag value) := by
  refine ⟨_, BerWriter.encodeTagged_of_le (by omega), List.cons_ne_nil _ _, ?_⟩
  have hfield := length_lengthField_le value.length
  rw [List.length_append, List.length_cons]
  omega

theorem encodes_concatWithin {limit n : Nat} (tooLong : String) {parts : List Bytes}
    (hne : parts.flatten ≠ []) (hlen : parts.flatten.length ≤ n) (hn : n ≤ limit) :
    Encodes n (concatWithin limit tooLong parts) :=
  ⟨parts.flatten, if_neg (by omega), hne, hlen⟩

theorem flatten_two_ne_nil {first second : Bytes} (h : first ≠ []) :
    [first, second].flatten ≠ [] := by
  rw [List.flatten_cons]
  exact List.append_ne_nil_of_left_ne_nil h _

theorem length_positiveIntegerContent_le (value : UInt64) :
    (positiveIntegerContent value).length ≤ 9 := by
  have hlen := BerWriter.length_encodeUnsignedInteger_le value
  rw [positiveIntegerContent]
  split
  · exact Nat.succ_pos 8
  · rename_i first rest heq
    rw [heq, List.length_cons] at hlen
    split
    · rw [List.length_cons, List.length_cons]
      omega
    · rw [List.length_cons]
      omega

/-! ## Requests -/

theorem encodes_encodeConfirmedRequest {request : MmsConfirmed} {n : Nat}
    (hinvoke : request.invokeId ≤ MmsPduCodec.maximumInvokeId) (htag : request.serviceTag ≤ 1000000)
    (hlen : request.serviceValue.length ≤ n) (hn : n + 32 ≤ MmsPduCodec.maximumPduBytes) :
    Encodes (n + 32) (MmsPduCodec.encodeConfirmedRequest request) := by
  have hmax : MmsPduCodec.maximumPduBytes ≤ uint32Max := by decide
  rw [MmsPduCodec.encodeConfirmedRequest, MmsPduCodec.encodeConfirmed, if_neg (by omega),
    if_neg (by omega), if_neg (by omega)]
  refine (encodes_encodeTagged 0x02 (length_positiveIntegerContent_le _) (by decide)).bind
    fun invoke hne hinvokeLen => ?_
  refine (encodes_encodeTlv _ _ _ hlen (by omega) (by omega)).bind fun service _ hservice => ?_
  have hparts : [invoke, service].flatten.length ≤ n + 26 := by
    rw [List.flatten_cons, List.flatten_singleton, List.length_append]
    omega
  refine (encodes_concatWithin _ (flatten_two_ne_nil hne) hparts (by omega)).bind
    fun body _ hbody => ?_
  exact (encodes_encodeTagged 0xA0 hbody (by omega)).mono (by omega)

namespace MmsServiceCodec

/-- What the codecs accept as an identifier. -/
def ValidIdentifier (value : Bytes) : Prop := ∀ name, validateIdentifier value name = .ok ()

variable {request : MmsGetNameListRequest}

end MmsServiceCodec

end ArStack.Mms
