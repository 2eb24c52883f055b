import ArStack.Asn1.BerSpanWriter
import ArStack.Mms.DataCodec

/-!
# The Data codec of the static server

`MmsDataSpanCodec` computes the size of a value and writes it to a span of that size. It nests
values to a bounded depth, and it writes a `double` as the `float` that the program makes of it.

* `contentSize`, `encodedSize`, `encodedAllSize`
* `writeValue`, `encodeInto`, `encodeAllInto`
-/

namespace ArStack.Mms.MmsDataSpanCodec

open ArStack.Asn1 ArStack.Lib ArStack.Wire

def maximumNestingDepth : Nat := 16

/-- The tag of a value; the kinds without one here are not values of the model. -/
def tagFor (value : MmsDataValue) : Option Nat := some (MmsDataCodec.tagFor value)

/-! ## Sizes -/

/-- The octets of a number, at most `fuel + 1`. -/
def unsignedIntegerSizeFrom : Nat → Nat → Nat
  | 0, _ => 1
  | fuel + 1, value => if value > 0xFF then 1 + unsignedIntegerSizeFrom fuel (value >>> 8) else 1

def unsignedIntegerSize (value : UInt64) : Nat := unsignedIntegerSizeFrom 7 value.toNat

/-- The leading octets that only repeat the sign. -/
def redundantOctets : Bytes → Nat
  | current :: next :: rest =>
    let redundantPositive := current == 0x00 && next &&& 0x80 == 0
    let redundantNegative := current == 0xFF && next &&& 0x80 != 0
    if !redundantPositive && !redundantNegative then 0 else 1 + redundantOctets (next :: rest)
  | _ => 0

/-- The octets of the two's complement. -/
def signedOctets (value : Int64) : Bytes := beOctets 8 value.toUInt64.toNat

def signedIntegerSize (value : Int64) : Nat :=
  (signedOctets value).length - redundantOctets (signedOctets value)

/-- A time that is written takes eight octets. -/
def timeSize (time : Iec61850UtcTime) : Option Nat := time.toBytes.toOption.map fun _ => 8

mutual

/-- The octets of the content. -/
def contentSize : MmsDataValue → Nat → Option Nat
  | .array children, depth =>
    if depth > maximumNestingDepth then none else encodedAllSizeFrom children (depth + 1) 0
  | .struct children, depth =>
    if depth > maximumNestingDepth then none else encodedAllSizeFrom children (depth + 1) 0
  | .boolean _, depth => if depth > maximumNestingDepth then none else some 1
  | .bitString rawValue, depth => if depth > maximumNestingDepth then none else some rawValue.length
  | .octetString rawValue, depth =>
    if depth > maximumNestingDepth then none else some rawValue.length
  | .binaryTime rawValue, depth => if depth > maximumNestingDepth then none else some rawValue.length
  | .integer value, depth =>
    if depth > maximumNestingDepth then none else some (signedIntegerSize (.ofInt value))
  | .unsignedInteger value, depth =>
    if depth > maximumNestingDepth then none else some (unsignedIntegerSize (.ofNat value))
  | .singlePrecision _, depth => if depth > maximumNestingDepth then none else some 5
  | .doublePrecision _, depth => if depth > maximumNestingDepth then none else some 5
  | .visibleString value, depth => if depth > maximumNestingDepth then none else some value.length
  | .mmsString value, depth => if depth > maximumNestingDepth then none else some value.length
  | .utcTime value, depth => if depth > maximumNestingDepth then none else timeSize value
  | .unknown _ rawValue, depth => if depth > maximumNestingDepth then none else some rawValue.length

/-- `encoded_all_size_impl`, with the octets of the values before. -/
def encodedAllSizeFrom : List MmsDataValue → Nat → Nat → Option Nat
  | [], depth, total => if depth > maximumNestingDepth then none else some total
  | value :: values, depth, total =>
    if depth > maximumNestingDepth then none
    else do
      let tag ← tagFor value
      let content ← contentSize value depth
      let size ← BerSpanWriter.tlvSize tag content
      if size > sizeMax - total then none else encodedAllSizeFrom values depth (total + size)

end

def encodedSizeAt (value : MmsDataValue) (depth : Nat) : Option Nat :=
  if depth > maximumNestingDepth then none
  else do
    let tag ← tagFor value
    let content ← contentSize value depth
    BerSpanWriter.tlvSize tag content

def encodedSize (value : MmsDataValue) : Option Nat := encodedSizeAt value 0

def encodedAllSize (values : List MmsDataValue) : Option Nat := encodedAllSizeFrom values 0 0

/-! ## Writing -/

/-- The octets one by one. -/
def writeEach (octets : Bytes) (writer : BerSpanWriter) : Option BerSpanWriter :=
  octets.foldlM BerSpanWriter.writeByte writer

def writeUnsigned (writer : BerSpanWriter) (value : UInt64) : Option BerSpanWriter :=
  writeEach (beOctets (unsignedIntegerSize value) value.toNat) writer

def writeSigned (writer : BerSpanWriter) (value : Int64) : Option BerSpanWriter :=
  writer.writeBytes ((signedOctets value).drop (8 - signedIntegerSize value))

def writeFloat (writer : BerSpanWriter) (bits : UInt32) : Option BerSpanWriter :=
  writeEach (0x08 :: beOctets 4 bits.toNat) writer

def writeTime (writer : BerSpanWriter) (time : Iec61850UtcTime) : Option BerSpanWriter :=
  time.toBytes.toOption.bind writer.writeBytes

/-- What `static_cast<float>` makes of a `double`. -/
abbrev Narrowing := UInt64 → UInt32

section Write

variable (narrow : Narrowing)

/-- The header of a value. -/
def writeHeader (writer : BerSpanWriter) (value : MmsDataValue) (depth : Nat) :
    Option BerSpanWriter := do
  let tag ← tagFor value
  let content ← contentSize value depth
  writer.writeTlvHeader .contextSpecific (MmsDataCodec.constructed value) tag content

mutual

/-- The content of a value. -/
def writeContent : MmsDataValue → Nat → BerSpanWriter → Option BerSpanWriter
  | .array children, depth, writer => writeChildren children (depth + 1) writer
  | .struct children, depth, writer => writeChildren children (depth + 1) writer
  | .boolean value, _, writer => writer.writeByte (if value then 0x01 else 0x00)
  | .bitString rawValue, _, writer => writer.writeBytes rawValue
  | .octetString rawValue, _, writer => writer.writeBytes rawValue
  | .binaryTime rawValue, _, writer => writer.writeBytes rawValue
  | .unknown _ rawValue, _, writer => writer.writeBytes rawValue
  | .integer value, _, writer => writeSigned writer (.ofInt value)
  | .unsignedInteger value, _, writer => writeUnsigned writer (.ofNat value)
  | .singlePrecision bits, _, writer => writeFloat writer bits
  | .doublePrecision bits, _, writer => writeFloat writer (narrow bits)
  | .visibleString value, _, writer => writeEach value writer
  | .mmsString value, _, writer => writeEach value writer
  | .utcTime value, _, writer => writeTime writer value

/-- `write_value` of one value after the other. -/
def writeChildren : List MmsDataValue → Nat → BerSpanWriter → Option BerSpanWriter
  | [], _, writer => some writer
  | value :: values, depth, writer =>
    if depth > maximumNestingDepth then none
    else do
      let writer ← writeHeader writer value depth
      let writer ← writeContent value depth writer
      writeChildren values depth writer

end

def writeValue (value : MmsDataValue) (depth : Nat) (writer : BerSpanWriter) :
    Option BerSpanWriter :=
  if depth > maximumNestingDepth then none
  else do
    let writer ← writeHeader writer value depth
    writeContent narrow value depth writer

/-- What is written to a destination of some size, for the size that is required. -/
def encodeWithin (required : Option Nat) (write : BerSpanWriter → Option BerSpanWriter)
    (destination : Nat) : EncodeResult :=
  match required with
  | none => { status := .valueOutOfRange }
  | some required =>
    if destination < required then { status := .bufferTooSmall, requiredBytes := required }
    else
      match write { capacity := required } with
      | none => { status := .valueOutOfRange, requiredBytes := required }
      | some writer =>
        if writer.size ≠ required then { status := .valueOutOfRange, requiredBytes := required }
        else { status := .ok, bytes := writer.out, requiredBytes := required }

def encodeInto (value : MmsDataValue) (destination : Nat) : EncodeResult :=
  encodeWithin (encodedSize value) (writeValue narrow value 0) destination

def encodeAllInto (values : List MmsDataValue) (destination : Nat) : EncodeResult :=
  encodeWithin (encodedAllSize values) (writeChildren narrow values 0) destination

end Write

end ArStack.Mms.MmsDataSpanCodec
