import Mathlib.Algebra.Ring.Int.Defs
import ArStack.Wire

/-!
# Reading BER TLVs

`BerSpanReader` over the octets that are left: `tryReadTlv` returns the TLV and what follows
it, so the offset the source advances is `source.length - rest.length`.

* `tryReadTlv`, `tryReadExact` — one definite-length TLV
* `tryReadTlv_encodedBytes` — a TLV accounts for exactly the octets it consumes
-/

namespace ArStack.Asn1

open ArStack.Lib

inductive BerClass where
  | universal
  | application
  | contextSpecific
  | privateClass
  deriving DecidableEq

/-- The class bits, as the source's enumeration numbers them. -/
def BerClass.toUInt8 : BerClass → UInt8
  | .universal => 0
  | .application => 1
  | .contextSpecific => 2
  | .privateClass => 3

/-- The class of an identifier octet, `(encoded_tag >> 6) & 3`. -/
def BerClass.ofTag (encodedTag : UInt8) : BerClass :=
  if encodedTag < 0x40 then .universal
  else if encodedTag < 0x80 then .application
  else if encodedTag < 0xC0 then .contextSpecific
  else .privateClass

structure BerTlvView where
  encodedTag : UInt8
  tagClass : BerClass
  constructed : Bool
  tagNumber : Nat
  headerBytes : Nat
  encodedBytes : Nat
  value : Bytes
  deriving DecidableEq

namespace BerSpanReader

/-- The base-128 groups of a high tag number, limited to a million. -/
def readHighTag (tagNumber : Nat) : Bytes → Option (Nat × Bytes)
  | [] => none
  | byte :: rest =>
    if tagNumber > 1000000 >>> 7 then none
    else
      let next := tagNumber <<< 7 ||| (byte &&& 0x7F).toNat
      if next > 1000000 then none
      else if byte &&& 0x80 = 0 then some (next, rest)
      else readHighTag next rest

/-- The tag number of an identifier octet and, for high tags, of the octets behind it. -/
def readTagNumber (encodedTag : UInt8) (rest : Bytes) : Option (Nat × Bytes) :=
  if encodedTag &&& 0x1F = 0x1F then readHighTag 0 rest
  else some ((encodedTag &&& 0x1F).toNat, rest)

/-- A definite length of at most four length octets. -/
def readLength : Bytes → Option (Nat × Bytes)
  | [] => none
  | lengthByte :: rest =>
    if lengthByte &&& 0x80 = 0 then some (lengthByte.toNat, rest)
    else
      let lengthBytes := (lengthByte &&& 0x7F).toNat
      if lengthBytes = 0 ∨ lengthBytes > 4 ∨ lengthBytes > rest.length then none
      else some (beValue (rest.take lengthBytes), rest.drop lengthBytes)

/-- Read one TLV; the second component is what follows it. -/
def tryReadTlv : Bytes → Option (BerTlvView × Bytes)
  | [] => none
  | encodedTag :: rest => do
    let (tagNumber, afterTag) ← readTagNumber encodedTag rest
    let (length, afterLength) ← readLength afterTag
    if length > afterLength.length then none
    else
      let headerBytes := rest.length + 1 - afterLength.length
      some ({ encodedTag := encodedTag
              tagClass := .ofTag encodedTag
              constructed := encodedTag &&& 0x20 != 0
              tagNumber := tagNumber
              headerBytes := headerBytes
              encodedBytes := headerBytes + length
              value := afterLength.take length },
            afterLength.drop length)

/-- A TLV that fills the whole span. -/
def tryReadExact (source : Bytes) : Option BerTlvView :=
  match tryReadTlv source with
  | some (tlv, []) => some tlv
  | _ => none

/-- The value of an INTEGER of at most eight octets, read as unsigned. -/
def readUnsignedInteger (tlv : BerTlvView) : Option Nat :=
  if tlv.value.length > 8 then none else some (beValue tlv.value)

/-- The value of an INTEGER of at most eight octets, in two's complement. -/
def readSignedInteger (tlv : BerTlvView) : Option Int :=
  if tlv.value.length > 8 then none
  else
    let raw := beValue tlv.value
    some (if tlv.value.headD 0 &&& 0x80 = 0 then raw else raw - 2 ^ (tlv.value.length * 8))

def readUint32 (tlv : BerTlvView) : Option UInt32 :=
  match readUnsignedInteger tlv with
  | none => none
  | some value => if value > uint32Max then none else some (UInt32.ofNat value)

/-! ## What is consumed -/

theorem readHighTag_length {source : Bytes} {tagNumber n : Nat} {rest : Bytes}
    (h : readHighTag tagNumber source = some (n, rest)) : rest.length < source.length := by
  induction source generalizing tagNumber with
  | nil => simp [readHighTag] at h
  | cons byte source ih =>
    rw [readHighTag] at h
    split at h
    · simp at h
    · simp only at h
      split at h
      · simp at h
      · split at h
        · obtain ⟨-, rfl⟩ := Prod.mk.inj (Option.some.inj h)
          simp
        · have := ih h
          simp only [List.length_cons]
          omega

theorem readTagNumber_length {encodedTag : UInt8} {source : Bytes} {n : Nat} {rest : Bytes}
    (h : readTagNumber encodedTag source = some (n, rest)) : rest.length ≤ source.length := by
  rw [readTagNumber] at h
  split at h
  · exact Nat.le_of_lt (readHighTag_length h)
  · obtain ⟨-, rfl⟩ := Prod.mk.inj (Option.some.inj h)
    exact Nat.le_refl _

theorem readLength_length {source : Bytes} {n : Nat} {rest : Bytes}
    (h : readLength source = some (n, rest)) : rest.length < source.length := by
  cases source with
  | nil => simp [readLength] at h
  | cons byte source =>
    rw [readLength] at h
    split at h
    · obtain ⟨-, rfl⟩ := Prod.mk.inj (Option.some.inj h)
      simp
    · simp only at h
      split at h
      · simp at h
      · obtain ⟨-, rfl⟩ := Prod.mk.inj (Option.some.inj h)
        simp only [List.length_drop, List.length_cons]
        omega

/-- **A TLV accounts for exactly the octets it consumes.** -/
theorem tryReadTlv_encodedBytes {source : Bytes} {tlv : BerTlvView} {rest : Bytes}
    (h : tryReadTlv source = some (tlv, rest)) :
    tlv.encodedBytes + rest.length = source.length ∧ 0 < tlv.encodedBytes := by
  cases source with
  | nil => simp [tryReadTlv] at h
  | cons encodedTag source =>
    rw [tryReadTlv] at h
    obtain ⟨⟨tagNumber, afterTag⟩, htag, h⟩ := Option.bind_eq_some_iff.mp h
    obtain ⟨⟨length, afterLength⟩, hlen, h⟩ := Option.bind_eq_some_iff.mp h
    have htag' := readTagNumber_length htag
    have hlen' := readLength_length hlen
    simp only at h
    split at h
    · simp at h
    · obtain ⟨rfl, rfl⟩ := Prod.mk.inj (Option.some.inj h)
      simp only [List.length_drop, List.length_cons]
      omega

theorem tryReadTlv_rest_length {source : Bytes} {tlv : BerTlvView} {rest : Bytes}
    (h : tryReadTlv source = some (tlv, rest)) : rest.length < source.length := by
  have := tryReadTlv_encodedBytes h
  omega

/-- A value is shorter than its TLV. -/
theorem tryReadTlv_value_length {source : Bytes} {tlv : BerTlvView} {rest : Bytes}
    (h : tryReadTlv source = some (tlv, rest)) : tlv.value.length + rest.length < source.length := by
  cases source with
  | nil => simp [tryReadTlv] at h
  | cons encodedTag source =>
    rw [tryReadTlv] at h
    obtain ⟨⟨tagNumber, afterTag⟩, htag, h⟩ := Option.bind_eq_some_iff.mp h
    obtain ⟨⟨length, afterLength⟩, hlen, h⟩ := Option.bind_eq_some_iff.mp h
    have htag' := readTagNumber_length htag
    have hlen' := readLength_length hlen
    simp only at h
    split at h
    · simp at h
    · obtain ⟨rfl, rfl⟩ := Prod.mk.inj (Option.some.inj h)
      simp only [List.length_take, List.length_drop, List.length_cons]
      omega

end BerSpanReader

end ArStack.Asn1
