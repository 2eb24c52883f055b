import ArStack.Asn1.BerSpanReader

/-!
# Writing BER TLVs

A `BerSpanWriter` is a destination of fixed capacity and the octets written to it so far.
A failed write ends the encoder that asked for it, so each write is an `Option`.

* `tlvSize` — the octets a TLV takes
* `tlvHeader` — the header itself
* `writeTlvHeader_eq`, `writeBytes_bind` — an encoder is one `writeBytes` of what it emits
-/

namespace ArStack.Asn1

open ArStack.Lib

/-- The 7-bit groups of a tag number, least significant first, in at most `fuel` groups. -/
def tagGroups : Nat → Nat → List UInt8
  | 0, _ => []
  | fuel + 1, remaining =>
    UInt8.ofNat (remaining % 0x80) ::
      if remaining >>> 7 = 0 then [] else tagGroups fuel (remaining >>> 7)

/-- The number of octets of `value`, at most `fuel`; none for zero. -/
def octetCount : Nat → Nat → Nat
  | 0, _ => 0
  | fuel + 1, value => if value = 0 then 0 else 1 + octetCount fuel (value >>> 8)

structure BerSpanWriter where
  capacity : Nat
  out : Bytes := []
  deriving DecidableEq

namespace BerSpanWriter

/-! ## Sizes -/

def identifierOctets (tagNumber : Nat) : Nat :=
  if tagNumber ≤ 30 then 1 else 1 + (tagGroups 5 tagNumber).length

def lengthOctets (valueLength : Nat) : Option Nat :=
  if valueLength < 0x80 then some 1
  else if valueLength > uint32Max then none
  else some (1 + octetCount 4 valueLength)

/-- The octets of a TLV. A value length that `lengthOctets` accepts is too small for the
overflow checks the source makes on the sums. -/
def tlvSize (tagNumber valueLength : Nat) : Option Nat :=
  match lengthOctets valueLength with
  | none => none
  | some length => some (identifierOctets tagNumber + length + valueLength)

/-! ## Writes -/

def remaining (writer : BerSpanWriter) : Nat := writer.capacity - writer.out.length

def size (writer : BerSpanWriter) : Nat := writer.out.length

def writeBytes (writer : BerSpanWriter) (value : Bytes) : Option BerSpanWriter :=
  if value.length > writer.remaining then none
  else some { writer with out := writer.out ++ value }

def writeByte (writer : BerSpanWriter) (value : UInt8) : Option BerSpanWriter :=
  writer.writeBytes [value]

/-- The identifier octets: class bits, constructed bit and tag number. -/
def identifier (tagClass : BerClass) (constructed : Bool) (tagNumber : Nat) : Bytes :=
  let classBits := tagClass.toUInt8 <<< 6
  let constructedBit : UInt8 := if constructed then 0x20 else 0
  if tagNumber ≤ 30 then [classBits ||| constructedBit ||| UInt8.ofNat tagNumber]
  else
    -- every group but the last one written carries the continuation bit
    let groups := tagGroups 5 tagNumber
    (classBits ||| constructedBit ||| 0x1F) ::
      (groups.drop 1).reverse.map (· ||| 0x80) ++ groups.take 1

def writeIdentifier (writer : BerSpanWriter) (tagClass : BerClass) (constructed : Bool)
    (tagNumber : Nat) : Option BerSpanWriter :=
  writer.writeBytes (identifier tagClass constructed tagNumber)

/-- The length octets of a length below `2 ^ 32`. -/
def lengthField (valueLength : Nat) : Bytes :=
  if valueLength < 0x80 then [UInt8.ofNat valueLength]
  else
    let count := octetCount 4 valueLength
    (0x80 ||| UInt8.ofNat count) :: beOctets count valueLength

def writeLength (writer : BerSpanWriter) (valueLength : Nat) : Option BerSpanWriter :=
  if valueLength > uint32Max then none else writer.writeBytes (lengthField valueLength)

def writeTlvHeader (writer : BerSpanWriter) (tagClass : BerClass) (constructed : Bool)
    (tagNumber valueLength : Nat) : Option BerSpanWriter := do
  let writer ← writer.writeIdentifier tagClass constructed tagNumber
  writer.writeLength valueLength

def writeTlv (writer : BerSpanWriter) (tagClass : BerClass) (constructed : Bool)
    (tagNumber : Nat) (value : Bytes) : Option BerSpanWriter := do
  let writer ← writer.writeTlvHeader tagClass constructed tagNumber value.length
  writer.writeBytes value

/-- The octets of a TLV header. -/
def tlvHeader (tagClass : BerClass) (constructed : Bool) (tagNumber valueLength : Nat) : Bytes :=
  identifier tagClass constructed tagNumber ++ lengthField valueLength

/-! ## Composition -/

theorem writeBytes_of_le {writer : BerSpanWriter} {value : Bytes}
    (h : writer.out.length + value.length ≤ writer.capacity) :
    writer.writeBytes value = some { writer with out := writer.out ++ value } := by
  rw [writeBytes, remaining, if_neg (by omega)]

theorem writeBytes_eq_some {writer writer' : BerSpanWriter} {value : Bytes}
    (h : writer.writeBytes value = some writer') :
    writer' = { writer with out := writer.out ++ value } := by
  rw [writeBytes] at h
  split at h
  · simp at h
  · exact (Option.some.inj h).symm

/-- A writer that has kept to its capacity. -/
def Fits (writer : BerSpanWriter) : Prop := writer.out.length ≤ writer.capacity

theorem fits_new (capacity : Nat) : Fits { capacity := capacity } := Nat.zero_le _

theorem writeBytes_fits {writer writer' : BerSpanWriter} {value : Bytes} (hfit : Fits writer)
    (h : writer.writeBytes value = some writer') : Fits writer' := by
  obtain rfl := writeBytes_eq_some h
  rw [writeBytes, remaining] at h
  split at h
  · simp at h
  · simp only [Fits, List.length_append] at *
    omega

/-- **Two writes are one write of both.** -/
theorem writeBytes_bind (writer : BerSpanWriter) (value value' : Bytes)
    (hfit : Fits writer) :
    ((writer.writeBytes value).bind fun w => w.writeBytes value')
      = writer.writeBytes (value ++ value') := by
  rw [Fits] at hfit
  by_cases h : writer.out.length + (value ++ value').length ≤ writer.capacity
  · rw [List.length_append] at h
    have hfst : writer.writeBytes value = _ := writeBytes_of_le (by omega)
    rw [hfst, writeBytes_of_le (by simpa using h)]
    show writeBytes _ value' = _
    rw [writeBytes_of_le (by simp only [List.length_append]; omega), List.append_assoc]
  · rw [List.length_append] at h
    have hnone : writer.writeBytes (value ++ value') = none :=
      if_pos (by rw [remaining, List.length_append]; omega)
    rw [hnone]
    cases hw : writer.writeBytes value with
    | none => rfl
    | some w =>
      have hw' := writeBytes_fits hfit hw
      obtain rfl := writeBytes_eq_some hw
      simp only [Fits, List.length_append] at hw'
      refine if_pos ?_
      simp only [remaining, List.length_append]
      omega

theorem writeTlvHeader_eq {writer : BerSpanWriter} (hfit : Fits writer) (tagClass : BerClass)
    (constructed : Bool) (tagNumber : Nat) {valueLength : Nat} (h : valueLength ≤ uint32Max) :
    writer.writeTlvHeader tagClass constructed tagNumber valueLength
      = writer.writeBytes (tlvHeader tagClass constructed tagNumber valueLength) := by
  rw [tlvHeader, ← writeBytes_bind _ _ _ hfit]
  show (writer.writeIdentifier _ _ _).bind (fun w => w.writeLength valueLength) = _
  rw [writeIdentifier]
  congr 1
  funext w
  rw [writeLength, if_neg (by omega)]

theorem length_identifier (tagClass : BerClass) (constructed : Bool) (tagNumber : Nat) :
    (identifier tagClass constructed tagNumber).length = identifierOctets tagNumber := by
  rw [identifier, identifierOctets]
  split
  · rfl
  · simp only [List.length_append, List.length_cons, List.length_map, List.length_reverse,
      List.length_drop, List.length_take]
    omega

theorem length_lengthField {valueLength : Nat} (h : valueLength ≤ uint32Max) :
    lengthOctets valueLength = some (lengthField valueLength).length := by
  rw [lengthOctets, lengthField]
  split
  · rfl
  · rw [if_neg (by omega), List.length_cons, length_beOctets, Nat.add_comm]

/-- **`tlvSize` is the size of the header and the value.** -/
theorem tlvSize_eq (tagClass : BerClass) (constructed : Bool) (tagNumber : Nat)
    {valueLength : Nat} (h : valueLength ≤ uint32Max) :
    tlvSize tagNumber valueLength
      = some ((tlvHeader tagClass constructed tagNumber valueLength).length + valueLength) := by
  rw [tlvSize, length_lengthField h, tlvHeader, List.length_append, length_identifier]

theorem le_uint32Max_of_tlvSize {tagNumber valueLength total : Nat}
    (h : tlvSize tagNumber valueLength = some total) : valueLength ≤ uint32Max := by
  by_contra hgt
  have hgt' : ¬valueLength < 0x80 := by rw [uint32Max] at hgt; omega
  rw [tlvSize, lengthOctets, if_neg hgt', if_pos (by omega)] at h
  simp at h

end BerSpanWriter

end ArStack.Asn1
