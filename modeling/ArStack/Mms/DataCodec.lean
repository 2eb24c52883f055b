import ArStack.Asn1.BerReader
import ArStack.Asn1.BerWriter

/-!
# MMS Data values

`MmsDataCodec.decode` reads a TLV as a Data value, `encode` writes it. Floating point numbers are
kept as the bits the source reinterprets, and a time as the nanoseconds of the system clock.

* `MmsDataValue`, `MmsDataCodec.decode`, `MmsDataCodec.encode`
* `decodeFrom_eq` — the fuel of `decode` is never used up
* `decode_components` — arrays and structures are read component by component
-/

namespace ArStack.Mms

open ArStack.Asn1

structure Iec61850UtcTime where
  /-- Nanoseconds since the epoch. -/
  value : Nat := 0
  quality : UInt8 := 0
  deriving DecidableEq

/-- `from_bytes`: four octets of seconds, three of a binary fraction, the quality. -/
def Iec61850UtcTime.fromBytes (bytes : Bytes) : Except String Iec61850UtcTime :=
  if bytes.length ≠ 8 then .error "IEC 61850 UTC time requires exactly 8 bytes."
  else
    let seconds := Lib.beValue (bytes.take 4)
    let fraction := Lib.beValue ((bytes.drop 4).take 3)
    .ok
      { value := seconds * 1000000000 + fraction * 1000000000 / 16777216
        quality := bytes.getD 7 0 }

/-- `to_bytes`. A whole number of nanoseconds is further from the middle between two fractions than
`double` rounds, so that `llround` gives the nearest fraction. -/
def Iec61850UtcTime.toBytes (time : Iec61850UtcTime) : Except String Bytes :=
  let wholeSeconds := time.value / 1000000000
  let rounded := (time.value % 1000000000 * 16777216 + 500000000) / 1000000000
  let seconds := if rounded ≥ 16777216 then wholeSeconds + 1 else wholeSeconds
  let fraction := if rounded ≥ 16777216 then 0 else rounded
  if seconds > uint32Max then
    .error "UTC time seconds are outside the IEC 61850 32-bit range."
  else .ok (Lib.beOctets 4 seconds ++ Lib.beOctets 3 fraction ++ [time.quality])

/-- A value of each kind. The raw octets of a bit string start with the count of unused bits. -/
inductive MmsDataValue where
  | array (children : List MmsDataValue)
  | struct (children : List MmsDataValue)
  | boolean (value : Bool)
  | bitString (rawValue : Bytes)
  | integer (value : Int)
  | unsignedInteger (value : Nat)
  | singlePrecision (bits : UInt32)
  | doublePrecision (bits : UInt64)
  | octetString (rawValue : Bytes)
  | visibleString (value : Bytes)
  | binaryTime (rawValue : Bytes)
  | mmsString (value : Bytes)
  | utcTime (value : Iec61850UtcTime)
  | unknown (tagNumber : Nat) (rawValue : Bytes)

namespace MmsDataCodec

def decodeBitString : Bytes → MmsDataValue
  | [] => .bitString [0]
  | unusedBits :: data => .bitString (unusedBits :: data)

/-- Other lengths decode as a quiet NaN. -/
def decodeFloatingPoint (bytes : Bytes) : MmsDataValue :=
  if bytes.length = 9 then .doublePrecision (.ofNat (Lib.beValue (bytes.drop 1)))
  else if bytes.length = 8 then .doublePrecision (.ofNat (Lib.beValue bytes))
  else if bytes.length = 5 then .singlePrecision (.ofNat (Lib.beValue (bytes.drop 1)))
  else if bytes.length = 4 then .singlePrecision (.ofNat (Lib.beValue bytes))
  else .singlePrecision 0x7FC00000

/-- A TLV without components. -/
def decodePrimitive (tlv : BerTlv) : Except String MmsDataValue :=
  match tlv.tagNumber with
  | 3 => .ok (.boolean ((BerReader.readBoolean tlv).getD false))
  | 4 => .ok (decodeBitString tlv.value)
  | 5 => .ok (.integer ((BerReader.readSignedInteger tlv).getD 0))
  | 6 => .ok (.unsignedInteger ((BerReader.readUnsignedInteger tlv).getD 0))
  | 7 => .ok (decodeFloatingPoint tlv.value)
  | 9 => .ok (.octetString tlv.value)
  | 10 => .ok (.visibleString tlv.value)
  | 12 => .ok (.binaryTime tlv.value)
  | 16 => .ok (.mmsString tlv.value)
  | 17 => do
    let time ← Iec61850UtcTime.fromBytes tlv.value
    .ok (.utcTime time)
  | tagNumber => .ok (.unknown tagNumber tlv.value)

/-- Components are shorter than the value they are part of. -/
def decodeFrom : Nat → BerTlv → Except String MmsDataValue
  | 0, tlv =>
    if tlv.tagClass ≠ .contextSpecific then .ok (.unknown tlv.tagNumber tlv.value)
    else if tlv.tagNumber = 1 then .ok (.array [])
    else if tlv.tagNumber = 2 then .ok (.struct [])
    else decodePrimitive tlv
  | fuel + 1, tlv =>
    if tlv.tagClass ≠ .contextSpecific then .ok (.unknown tlv.tagNumber tlv.value)
    else if tlv.tagNumber = 1 then do
      let components ← BerReader.readChildren tlv.value
      let values ← components.mapM (decodeFrom fuel)
      .ok (.array values)
    else if tlv.tagNumber = 2 then do
      let components ← BerReader.readChildren tlv.value
      let values ← components.mapM (decodeFrom fuel)
      .ok (.struct values)
    else decodePrimitive tlv

def decode (tlv : BerTlv) : Except String MmsDataValue := decodeFrom tlv.value.length tlv

def decodeAll (bytes : Bytes) : Except String (List MmsDataValue) := do
  let components ← BerReader.readChildren bytes
  components.mapM decode

def tagFor : MmsDataValue → Nat
  | .array _ => 1
  | .struct _ => 2
  | .boolean _ => 3
  | .bitString _ => 4
  | .integer _ => 5
  | .unsignedInteger _ => 6
  | .singlePrecision _ => 7
  | .doublePrecision _ => 7
  | .octetString _ => 9
  | .visibleString _ => 10
  | .binaryTime _ => 12
  | .mmsString _ => 16
  | .utcTime _ => 17
  | .unknown tagNumber _ => tagNumber

def constructed : MmsDataValue → Bool
  | .array _ => true
  | .struct _ => true
  | _ => false

/-- The first octet is the width of the exponent. -/
def encodeSinglePrecisionFloat (bits : UInt32) : Bytes := 0x08 :: Lib.beOctets 4 bits.toNat

def encodeDoublePrecisionFloat (bits : UInt64) : Bytes := 0x0B :: Lib.beOctets 8 bits.toNat

/-- `encode`, once the content of the value is encoded. -/
def encodeWith (value : MmsDataValue) (content : Bytes) : Except String Bytes :=
  BerWriter.encodeTlv .contextSpecific (constructed value) (tagFor value) content

mutual

def encodeContent : MmsDataValue → Except String Bytes
  | .array children => encodeAll children
  | .struct children => encodeAll children
  | .boolean value => .ok (BerWriter.encodeBoolean value)
  | .bitString rawValue => .ok rawValue
  | .integer value => .ok (BerWriter.encodeSignedInteger (.ofInt value))
  | .unsignedInteger value => .ok (BerWriter.encodeUnsignedInteger (.ofNat value))
  | .singlePrecision bits => .ok (encodeSinglePrecisionFloat bits)
  | .doublePrecision bits => .ok (encodeDoublePrecisionFloat bits)
  | .octetString rawValue => .ok rawValue
  | .visibleString value => .ok value
  | .binaryTime rawValue => .ok rawValue
  | .mmsString value => .ok value
  | .utcTime value => value.toBytes
  | .unknown _ rawValue => .ok rawValue

def encodeAll : List MmsDataValue → Except String Bytes
  | [] => .ok []
  | value :: values => do
    let content ← encodeContent value
    let octets ← encodeWith value content
    let more ← encodeAll values
    .ok (octets ++ more)

end

def encode (value : MmsDataValue) : Except String Bytes := do
  let content ← encodeContent value
  encodeWith value content

/-- Elements on which two functions agree are mapped alike. -/
theorem mapM_congr {f g : BerTlv → Except String MmsDataValue} {tlvs : List BerTlv}
    (h : ∀ tlv ∈ tlvs, f tlv = g tlv) : tlvs.mapM f = tlvs.mapM g := by
  induction tlvs with
  | nil => rfl
  | cons tlv tlvs ih =>
    rw [List.mapM_cons, List.mapM_cons, h tlv List.mem_cons_self,
      ih fun tlv' hmem => h tlv' (List.mem_cons_of_mem tlv hmem)]

/-- **The fuel of `decode` is never used up.** -/
theorem decodeFrom_eq (fuel : Nat) (tlv : BerTlv) (h : tlv.value.length ≤ fuel) :
    decodeFrom fuel tlv = decode tlv := by
  suffices ∀ bound (tlv : BerTlv) (fuel : Nat), tlv.value.length ≤ bound → bound ≤ fuel →
      decodeFrom fuel tlv = decodeFrom bound tlv from
    this _ tlv fuel (Nat.le_refl _) h
  clear h tlv fuel
  intro bound
  induction bound with
  | zero =>
    intro tlv fuel hlen _
    have hvalue : tlv.value = [] := List.eq_nil_of_length_eq_zero (Nat.le_zero.mp hlen)
    cases fuel with
    | zero => rfl
    | succ fuel =>
      rw [decodeFrom, decodeFrom, hvalue]
      rfl
  | succ bound ih =>
    intro tlv fuel hlen hfuel
    cases fuel with
    | zero => omega
    | succ fuel =>
      have hcomponents : ∀ components, BerReader.readChildren tlv.value = .ok components →
          components.mapM (decodeFrom fuel) = components.mapM (decodeFrom bound) := by
        intro components hread
        refine mapM_congr fun component hmem => ih component fuel ?_ (by omega)
        have := BerReader.value_length_of_mem_readChildren hread hmem
        omega
      rw [decodeFrom, decodeFrom]
      cases hread : BerReader.readChildren tlv.value with
      | error message => rfl
      | ok components =>
        show (if _ then _ else if _ then (components.mapM (decodeFrom fuel)).bind _
          else if _ then (components.mapM (decodeFrom fuel)).bind _ else _) = _
        rw [hcomponents components hread]
        rfl

/-- An array or a structure is read component by component. -/
theorem decode_components (tlv : BerTlv) (h : tlv.tagClass = .contextSpecific) :
    (tlv.tagNumber = 1 → decode tlv = (decodeAll tlv.value).map .array) ∧
    (tlv.tagNumber = 2 → decode tlv = (decodeAll tlv.value).map .struct) := by
  have hall : ∀ fuel, tlv.value.length ≤ fuel + 1 → ∀ components,
      BerReader.readChildren tlv.value = .ok components →
      components.mapM (decodeFrom fuel) = components.mapM decode := by
    intro fuel hfuel components hread
    refine mapM_congr fun component hmem => decodeFrom_eq fuel component ?_
    have := BerReader.value_length_of_mem_readChildren hread hmem
    omega
  constructor
  all_goals
    intro htag
    rw [← decodeFrom_eq (tlv.value.length + 1) tlv (Nat.le_succ _), decodeFrom,
      if_neg (not_not.mpr h), decodeAll]
    simp only [htag]
    cases hread : BerReader.readChildren tlv.value with
    | error message => rfl
    | ok components =>
      show (components.mapM (decodeFrom _)).bind _ = Except.map _ (components.mapM decode)
      rw [hall _ (Nat.le_succ _) components hread]
      rfl

end MmsDataCodec

end ArStack.Mms
