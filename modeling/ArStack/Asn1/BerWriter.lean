import ArStack.Asn1.BerSpanReader

/-!
# The growing BER writer

`BerWriter` appends to a buffer that it owns. What it throws ends the encoder.

* `writeTlv`, `encodeTlv`, `encodeTagged`
* `encodeUnsignedInteger`, `encodeSignedInteger` — minimal integers
-/

namespace ArStack.Asn1

open ArStack.Lib

namespace BerWriter

/-- Without leading zeros, as far as an octet is left. -/
def trimZeros : Bytes → Bytes
  | first :: next :: rest => if first = 0 then trimZeros (next :: rest) else first :: next :: rest
  | octets => octets

/-- Without leading octets that only repeat the sign of the next one. -/
def trimSign : Bytes → Bytes
  | first :: next :: rest =>
    if (first = 0x00 ∧ next &&& 0x80 = 0) ∨ (first = 0xFF ∧ next &&& 0x80 ≠ 0) then
      trimSign (next :: rest)
    else first :: next :: rest
  | octets => octets

def encodeIdentifier (tagClass : BerClass) (constructed : Bool) (tagNumber : Int) :
    Except String UInt8 :=
  if tagNumber < 0 ∨ tagNumber > 30 then
    .error "Use write_tlv/encode_tlv for high-tag-number BER identifiers."
  else
    .ok (tagClass.toUInt8 <<< 6 ||| (if constructed then 0x20 else 0) |||
      UInt8.ofNat tagNumber.toNat)

/-- The groups of a high tag number, least significant first, for a buffer with `room`. -/
def highTagGroups : Nat → Nat → Except String Bytes
  | 0, _ => .error "BER tag number is too large."
  | room + 1, remaining =>
    let group := UInt8.ofNat (remaining &&& 0x7F)
    let remaining := remaining >>> 7
    if remaining > 0 then do
      let groups ← highTagGroups room remaining
      .ok (group :: groups)
    else .ok [group]

def writeIdentifier (buffer : Bytes) (tagClass : BerClass) (constructed : Bool) (tagNumber : Int) :
    Except String Bytes :=
  if tagNumber < 0 then .error "BER tag number cannot be negative."
  else if tagNumber ≤ 30 then do
    let octet ← encodeIdentifier tagClass constructed tagNumber
    .ok (buffer ++ [octet])
  else do
    let octet := tagClass.toUInt8 <<< 6 ||| (if constructed then 0x20 else 0) ||| 0x1F
    let groups ← highTagGroups 5 tagNumber.toNat
    let octets := groups.zipIdx.reverse.map fun (group, index) =>
      if index ≠ 0 then group ||| 0x80 else group
    .ok (buffer ++ [octet] ++ octets)

def writeLength (buffer : Bytes) (length : Nat) : Except String Bytes :=
  if length < 0x80 then .ok (buffer ++ [UInt8.ofNat length])
  else if length > uint32Max then .error "BER length exceeds the supported 32-bit range."
  else
    let octets := trimZeros (beOctets 4 length)
    .ok (buffer ++ [0x80 ||| UInt8.ofNat octets.length] ++ octets)

def writeTlv (buffer : Bytes) (tagClass : BerClass) (constructed : Bool) (tagNumber : Int)
    (value : Bytes) : Except String Bytes := do
  let buffer ← writeIdentifier buffer tagClass constructed tagNumber
  let buffer ← writeLength buffer value.length
  .ok (buffer ++ value)

def encodeTlv (tagClass : BerClass) (constructed : Bool) (tagNumber : Int) (value : Bytes) :
    Except String Bytes := writeTlv [] tagClass constructed tagNumber value

def writeTagged (buffer : Bytes) (encodedTag : UInt8) (value : Bytes) : Except String Bytes := do
  let buffer ← writeLength (buffer ++ [encodedTag]) value.length
  .ok (buffer ++ value)

/-- `encode_tlv` with the identifier octet as it is. -/
def encodeTagged (encodedTag : UInt8) (value : Bytes) : Except String Bytes :=
  writeTagged [] encodedTag value

def encodeBoolean (value : Bool) : Bytes := [if value then 0x01 else 0x00]

def encodeUnsignedInteger (value : UInt64) : Bytes := trimZeros (beOctets 8 value.toNat)

def encodeSignedInteger (value : Int64) : Bytes := trimSign (beOctets 8 value.toUInt64.toNat)

end BerWriter

end ArStack.Asn1
