import ArStack.Ethernet.Ethernet

/-!
# Field offsets on the wire

* `findSmpSynchValueOffset` — the walk to the synchronisation octet of the first ASDU
-/

namespace ArStack.SampledValues

open ArStack.Ethernet

namespace WireFieldDetail

def kSampledValuesEtherType : UInt16 := 0x88BA

def kVlanEtherType : UInt16 := 0x8100

def kQinQEtherType : UInt16 := 0x88A8

def kEthernetHeaderBytes : Nat := 14

def kVlanHeaderBytes : Nat := 4

def kProcessBusHeaderBytes : Nat := 8

structure BerTlvView where
  tag : UInt8
  valueOffset : Nat
  valueLength : Nat
  endOffset : Nat
  deriving DecidableEq

/-- The length octets from `cursor` on, after those read so far. -/
def readLengthOctets (bytes : Bytes) : Nat → Nat → Nat → Option Nat
  | 0, _, valueLength => some valueLength
  | count + 1, cursor, valueLength =>
    if valueLength > sizeMax >>> 8 then none
    else readLengthOctets bytes count (cursor + 1) (valueLength <<< 8 ||| (octetAt bytes cursor).toNat)

/-- A TLV that ends at the offset where the cursor stands afterwards. -/
def readBerTlv (bytes : Bytes) (cursor limit : Nat) : Option BerTlvView :=
  if limit > bytes.length ∨ cursor ≥ limit then none
  else
    let tag := octetAt bytes cursor
    let cursor := cursor + 1
    if tag &&& 0x1F = 0x1F ∨ cursor ≥ limit then none
    else
      let firstLength := octetAt bytes cursor
      let cursor := cursor + 1
      let lengthOctets := if firstLength &&& 0x80 = 0 then 0 else (firstLength &&& 0x7F).toNat
      let valueLength :=
        if firstLength &&& 0x80 = 0 then some firstLength.toNat
        else if lengthOctets = 0 ∨ lengthOctets > 8 ∨ lengthOctets > limit - cursor then none
        else readLengthOctets bytes lengthOctets cursor 0
      let cursor := cursor + lengthOctets
      match valueLength with
      | none => none
      | some valueLength =>
        if valueLength > limit - cursor then none
        else some { tag, valueOffset := cursor, valueLength, endOffset := cursor + valueLength }

end WireFieldDetail

open WireFieldDetail

/-- The loop over VLAN tags: the type and its offset, for at most `tags` more tags. -/
def skipVlanTags (frame : Bytes) : Nat → UInt16 → Nat → Option (UInt16 × Nat)
  | 0, etherType, typeOffset => some (etherType, typeOffset)
  | tags + 1, etherType, typeOffset =>
    if etherType = kVlanEtherType ∨ etherType = kQinQEtherType then
      let typeOffset := typeOffset + kVlanHeaderBytes
      if typeOffset + 2 > frame.length then none
      else skipVlanTags frame tags (readU16Be frame typeOffset) typeOffset
    else some (etherType, typeOffset)

/-- The loops return where the source returns, and `none` where they end. A TLV takes an octet,
so that no loop uses up the length of the frame. -/
def findInAsdu (frame : Bytes) (limit : Nat) : Nat → Nat → Option (Option Nat)
  | 0, _ => none
  | fuel + 1, cursor =>
    if cursor < limit then
      match readBerTlv frame cursor limit with
      | none => some none
      | some field =>
        if field.tag = 0x85 then
          some (if field.valueLength = 1 then some field.valueOffset else none)
        else findInAsdu frame limit fuel field.endOffset
    else none

def findInSequence (frame : Bytes) (limit : Nat) : Nat → Nat → Option (Option Nat)
  | 0, _ => none
  | fuel + 1, cursor =>
    if cursor < limit then
      match readBerTlv frame cursor limit with
      | none => some none
      | some asdu =>
        if asdu.tag ≠ 0x30 then some none
        else
          match findInAsdu frame asdu.endOffset frame.length asdu.valueOffset with
          | some found => some found
          | none => findInSequence frame limit fuel asdu.endOffset
    else none

def findInPdu (frame : Bytes) (limit : Nat) : Nat → Nat → Option (Option Nat)
  | 0, _ => none
  | fuel + 1, cursor =>
    if cursor < limit then
      match readBerTlv frame cursor limit with
      | none => some none
      | some field =>
        if field.tag ≠ 0xA2 then findInPdu frame limit fuel field.endOffset
        else
          match findInSequence frame field.endOffset frame.length field.valueOffset with
          | some found => some found
          | none => findInPdu frame limit fuel field.endOffset
    else none

def findSmpSynchValueOffset (frame : Bytes) : Option Nat :=
  if frame.length < kEthernetHeaderBytes then none
  else
    match skipVlanTags frame 2 (readU16Be frame 12) 12 with
    | none => none
    | some (etherType, typeOffset) =>
      if etherType ≠ kSampledValuesEtherType then none
      else
        let processBusOffset := typeOffset + 2
        if processBusOffset + kProcessBusHeaderBytes > frame.length then none
        else
          let declaredLength := (readU16Be frame (processBusOffset + 2)).toNat
          if declaredLength < kProcessBusHeaderBytes ∨
            declaredLength > frame.length - processBusOffset then none
          else
            let apduBegin := processBusOffset + kProcessBusHeaderBytes
            let apduEnd := processBusOffset + declaredLength
            match readBerTlv frame apduBegin apduEnd with
            | none => none
            | some savPdu =>
              if savPdu.tag ≠ 0x60 ∨ savPdu.endOffset ≠ apduEnd then none
              else (findInPdu frame savPdu.endOffset frame.length savPdu.valueOffset).join

end ArStack.SampledValues
