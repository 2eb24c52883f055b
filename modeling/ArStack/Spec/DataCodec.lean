import ArStack.Mms.DataCodec
import ArStack.Spec.BerWriter

/-!
# Data values survive the wire

* `Carried` — the values of the round trip
* `toBytes_fromBytes` — times that came from the wire
* `decode_content` — the content of each kind, by induction over the value
* `decode_encode` — the round trip
-/

namespace ArStack.Mms

open ArStack.Asn1 ArStack.Lib

/-- **A time read from the wire is written back as the same octets.** -/
theorem Iec61850UtcTime.toBytes_fromBytes {octets : Bytes} {time : Iec61850UtcTime}
    (h : fromBytes octets = .ok time) : time.toBytes = .ok octets := by
  rw [fromBytes] at h
  split at h
  · cases h
  rename_i hlen
  have hlen8 : octets.length = 8 := not_not.mp hlen
  cases h
  have hseconds := beOctets_beValue (octets.take 4)
  have hfraction := beOctets_beValue ((octets.drop 4).take 3)
  have hsecondsLt := beValue_lt (octets.take 4)
  have hfractionLt := beValue_lt ((octets.drop 4).take 3)
  have htake : (octets.take 4).length = 4 := by
    rw [List.length_take]
    omega
  have hdrop : ((octets.drop 4).take 3).length = 3 := by
    rw [List.length_take, List.length_drop]
    omega
  rw [htake] at hseconds hsecondsLt
  rw [hdrop] at hfraction hfractionLt
  generalize beValue (octets.take 4) = seconds at *
  generalize beValue ((octets.drop 4).take 3) = fraction at *
  -- Whole nanoseconds are finer than the fraction, so that rounding them gives it back.
  have hnanos := Nat.div_add_mod (fraction * 1000000000) 16777216
  have hnanosMod : fraction * 1000000000 % 16777216 < 16777216 := Nat.mod_lt _ (by decide)
  generalize fraction * 1000000000 / 16777216 = nanos at *
  generalize fraction * 1000000000 % 16777216 = remainder at *
  have hwhole : (seconds * 1000000000 + nanos) / 1000000000 = seconds := by omega
  have hnanosOnly : (seconds * 1000000000 + nanos) % 1000000000 = nanos := by omega
  have hrounded : (nanos * 16777216 + 500000000) / 1000000000 = fraction :=
    Nat.div_eq_of_lt_le (by omega) (by omega)
  have hfits : ¬seconds > uint32Max := by
    rw [uint32Max]
    omega
  have hlast : octets.drop 7 = [octets.getD 7 0] := by
    rw [List.drop_eq_getElem_cons (by omega), List.drop_of_length_le (by omega),
      ← List.getElem_eq_getD]
  have hoctets : octets.take 4 ++ (octets.drop 4).take 3 ++ [octets.getD 7 0] = octets := by
    rw [← List.take_add, ← hlast, List.take_append_drop]
  have hnocarry : ¬fraction ≥ 16777216 := by omega
  rw [toBytes]
  dsimp only
  rw [hwhole, hnanosOnly, hrounded, if_neg hnocarry, if_neg hnocarry, if_neg hfits, hseconds,
    hfraction, hoctets]

namespace MmsDataCodec

/-- Context-specific tag numbers that `decode` defines. -/
def definedTags : List Nat := [1, 2, 3, 4, 5, 6, 7, 9, 10, 12, 16, 17]

/-- The values that a program can build: numbers of 64 bits, times from the wire, other values with
a tag number up to a limit. -/
inductive Carried (tagLimit : Nat) : MmsDataValue → Prop where
  | array {children : List MmsDataValue} :
    (∀ child ∈ children, Carried tagLimit child) → Carried tagLimit (.array children)
  | struct {children : List MmsDataValue} :
    (∀ child ∈ children, Carried tagLimit child) → Carried tagLimit (.struct children)
  | boolean (value : Bool) : Carried tagLimit (.boolean value)
  | bitString {rawValue : Bytes} : rawValue ≠ [] → Carried tagLimit (.bitString rawValue)
  | integer {value : Int} : -2 ^ 63 ≤ value → value < 2 ^ 63 → Carried tagLimit (.integer value)
  | unsignedInteger {value : Nat} : value < 2 ^ 64 → Carried tagLimit (.unsignedInteger value)
  | singlePrecision (bits : UInt32) : Carried tagLimit (.singlePrecision bits)
  | doublePrecision (bits : UInt64) : Carried tagLimit (.doublePrecision bits)
  | octetString (rawValue : Bytes) : Carried tagLimit (.octetString rawValue)
  | visibleString (value : Bytes) : Carried tagLimit (.visibleString value)
  | binaryTime (rawValue : Bytes) : Carried tagLimit (.binaryTime rawValue)
  | mmsString (value : Bytes) : Carried tagLimit (.mmsString value)
  | utcTime {octets : Bytes} {time : Iec61850UtcTime} :
    Iec61850UtcTime.fromBytes octets = .ok time → Carried tagLimit (.utcTime time)
  | unknown {tagNumber : Nat} (rawValue : Bytes) :
    tagNumber ∉ definedTags → tagNumber ≤ tagLimit → Carried tagLimit (.unknown tagNumber rawValue)

theorem tagFor_le {tagLimit : Nat} (hlimit : 17 ≤ tagLimit) {value : MmsDataValue}
    (h : Carried tagLimit value) : tagFor value ≤ tagLimit := by
  cases h with
  | unknown rawValue hnew hle => exact hle
  | _ =>
    rw [tagFor]
    omega

/-! ## One value -/

theorem decode_primitive {tlv : BerTlv} (hclass : tlv.tagClass = .contextSpecific)
    (harray : tlv.tagNumber ≠ 1) (hstruct : tlv.tagNumber ≠ 2) :
    decode tlv = decodePrimitive tlv := by
  rw [decode]
  cases tlv.value.length with
  | zero => rw [decodeFrom, if_neg (not_not.mpr hclass), if_neg harray, if_neg hstruct]
  | succ fuel => rw [decodeFrom, if_neg (not_not.mpr hclass), if_neg harray, if_neg hstruct]

theorem decodePrimitive_unknown {tlv : BerTlv} (h : tlv.tagNumber ∉ definedTags) :
    decodePrimitive tlv = .ok (.unknown tlv.tagNumber tlv.value) := by
  rw [definedTags] at h
  rw [decodePrimitive]
  split
  all_goals first
    | rfl
    | rename_i htag
      rw [htag] at h
      exact absurd (by decide) h

/-- What the content of a value is read from. -/
abbrev contentTlv (value : MmsDataValue) (content : Bytes) : BerTlv :=
  BerReader.writtenTlv .contextSpecific (constructed value) (tagFor value) content

/-- The content of a value is decoded to the value. -/
def Survives (value : MmsDataValue) : Prop :=
  ∀ content, encodeContent value = .ok content → decode (contentTlv value content) = .ok value

theorem length_of_encodeWith {value : MmsDataValue} {content octets : Bytes}
    (h : encodeWith value content = .ok octets) : content.length ≤ uint32Max := by
  rw [encodeWith, BerWriter.encodeTlv, BerWriter.writeTlv] at h
  obtain ⟨header, -, h⟩ := except_bind_ok h
  obtain ⟨header', hlength, -⟩ := except_bind_ok h
  rw [BerWriter.writeLength] at hlength
  split at hlength
  · rw [uint32Max]
    omega
  · split at hlength
    · cases hlength
    · omega

/-- The octets of a value. -/
theorem encodeWith_ok {value : MmsDataValue} (htag : tagFor value ≤ 1000000)
    {content octets : Bytes} (h : encodeWith value content = .ok octets) :
    octets = BerSpanWriter.encodeTlv .contextSpecific (constructed value) (tagFor value) content := by
  have hlen := length_of_encodeWith h
  rw [encodeWith, BerWriter.encodeTlv, BerWriter.writeTlv_eq [] _ _ (by omega) hlen,
    List.nil_append] at h
  exact (Except.ok.inj h).symm

/-! ## Components -/

/-- Components one after the other are read back. -/
theorem decodeAll_encodeAll {children : List MmsDataValue}
    (htags : ∀ child ∈ children, tagFor child ≤ 1000000)
    (hsurvive : ∀ child ∈ children, Survives child) {content : Bytes}
    (h : encodeAll children = .ok content) : decodeAll content = .ok children := by
  suffices ∃ tlvs, BerReader.Children content tlvs ∧ tlvs.mapM decode = .ok children by
    obtain ⟨tlvs, hread, hdecode⟩ := this
    rw [decodeAll, BerReader.readChildren_of_children hread]
    exact hdecode
  induction children generalizing content with
  | nil =>
    cases h
    exact ⟨[], .nil, rfl⟩
  | cons value values ih =>
    rw [encodeAll] at h
    obtain ⟨valueContent, hcontent, h⟩ := except_bind_ok h
    obtain ⟨octets, hoctets, h⟩ := except_bind_ok h
    obtain ⟨more, hmore, h⟩ := except_bind_ok h
    cases h
    obtain ⟨tlvs, hread, hdecode⟩ := ih
      (fun child hmem => htags child (List.mem_cons_of_mem _ hmem))
      (fun child hmem => hsurvive child (List.mem_cons_of_mem _ hmem)) hmore
    have htag := htags value List.mem_cons_self
    have hfirst : BerReader.ReadsAs octets (contentTlv value valueContent) := by
      rw [encodeWith_ok htag hoctets]
      exact BerReader.readsAs_encodeTlv _ _ htag (length_of_encodeWith hoctets)
    refine ⟨contentTlv value valueContent :: tlvs, .cons (hfirst more) hread, ?_⟩
    rw [List.mapM_cons, hsurvive value List.mem_cons_self valueContent hcontent, hdecode]
    rfl

/-! ## Content -/

theorem survives_integer {value : Int} (hlow : -2 ^ 63 ≤ value) (hhigh : value < 2 ^ 63) :
    Survives (.integer value) := by
  intro content h
  cases h
  have hlen : (BerWriter.encodeSignedInteger (.ofInt value)).length ≤ 8 ∧
      BerWriter.encodeSignedInteger (.ofInt value) ≠ [] := by
    have htrim := BerWriter.length_trimSign (beOctets 8 (Int64.ofInt value).toUInt64.toNat)
    rw [length_beOctets] at htrim
    refine ⟨htrim.1, htrim.2 fun hnil => ?_⟩
    have := congrArg List.length hnil
    rw [length_beOctets] at this
    cases this
  rw [decode_primitive rfl (by decide : 5 ≠ 1) (by decide : 5 ≠ 2)]
  show Except.ok (MmsDataValue.integer ((BerReader.readSignedInteger _).getD 0)) = _
  rw [BerReader.readSignedInteger_eq hlen.2 hlen.1]
  show Except.ok (MmsDataValue.integer (signedValue (BerWriter.encodeSignedInteger _))) = _
  rw [BerWriter.signedValue_encodeSignedInteger, Int64.toInt_ofInt_of_le hlow hhigh]

theorem survives_unsignedInteger {value : Nat} (h : value < 2 ^ 64) :
    Survives (.unsignedInteger value) := by
  intro content hcontent
  cases hcontent
  have hvalue := BerWriter.beValue_encodeUnsignedInteger (.ofNat value)
  rw [UInt64.toNat_ofNat', Nat.mod_eq_of_lt h] at hvalue
  have hlen : (BerWriter.encodeUnsignedInteger (.ofNat value)).length ≤ 8 := by
    have htrim := BerWriter.length_trimZeros (beOctets 8 (UInt64.ofNat value).toNat)
    rwa [length_beOctets] at htrim
  rw [decode_primitive rfl (by decide : 6 ≠ 1) (by decide : 6 ≠ 2)]
  show Except.ok (MmsDataValue.unsignedInteger ((BerReader.readUnsignedInteger _).getD 0)) = _
  have hread : BerReader.readUnsignedInteger (contentTlv (.unsignedInteger value)
      (BerWriter.encodeUnsignedInteger (.ofNat value))) = some value := by
    refine (if_neg (Nat.not_lt.mpr hlen)).trans ?_
    show some (beValue (BerWriter.encodeUnsignedInteger (.ofNat value))) = _
    rw [hvalue]
  rw [hread]
  rfl

theorem survives_singlePrecision (bits : UInt32) : Survives (.singlePrecision bits) := by
  intro content h
  cases h
  rw [decode_primitive rfl (by decide : 7 ≠ 1) (by decide : 7 ≠ 2)]
  show Except.ok (decodeFloatingPoint (0x08 :: beOctets 4 bits.toNat)) = _
  rw [decodeFloatingPoint, List.length_cons, length_beOctets, if_neg (by decide),
    if_neg (by decide), if_pos (by decide), List.drop_one, List.tail_cons,
    beValue_beOctets 4 bits.toNat_lt, UInt32.ofNat_toNat]

theorem survives_doublePrecision (bits : UInt64) : Survives (.doublePrecision bits) := by
  intro content h
  cases h
  rw [decode_primitive rfl (by decide : 7 ≠ 1) (by decide : 7 ≠ 2)]
  show Except.ok (decodeFloatingPoint (0x0B :: beOctets 8 bits.toNat)) = _
  rw [decodeFloatingPoint, List.length_cons, length_beOctets, if_pos (by decide), List.drop_one,
    List.tail_cons, beValue_beOctets_uint64, UInt64.ofNat_toNat]

theorem survives_unknown {tagNumber : Nat} (h : tagNumber ∉ definedTags) (rawValue : Bytes) :
    Survives (.unknown tagNumber rawValue) := by
  intro content hcontent
  cases hcontent
  have harray : tagNumber ≠ 1 := fun heq => h (heq ▸ by decide)
  have hstruct : tagNumber ≠ 2 := fun heq => h (heq ▸ by decide)
  rw [decode_primitive rfl harray hstruct]
  exact decodePrimitive_unknown h

/-- **The content of a value is decoded to the value.** -/
theorem decode_content {value : MmsDataValue} (h : Carried 1000000 value) : Survives value := by
  induction h with
  | array hchildren ih =>
    intro content hcontent
    rw [(decode_components _ rfl).1 rfl]
    show (decodeAll content).map MmsDataValue.array = _
    rw [decodeAll_encodeAll (fun child hmem => tagFor_le (by decide) (hchildren child hmem)) ih
      hcontent]
    rfl
  | struct hchildren ih =>
    intro content hcontent
    rw [(decode_components _ rfl).2 rfl]
    show (decodeAll content).map MmsDataValue.struct = _
    rw [decodeAll_encodeAll (fun child hmem => tagFor_le (by decide) (hchildren child hmem)) ih
      hcontent]
    rfl
  | boolean value =>
    intro content hcontent
    cases hcontent
    rw [decode_primitive rfl (by decide : 3 ≠ 1) (by decide : 3 ≠ 2)]
    cases value <;> rfl
  | @bitString rawValue hne =>
    intro content hcontent
    cases hcontent
    rw [decode_primitive rfl (by decide : 4 ≠ 1) (by decide : 4 ≠ 2)]
    cases rawValue with
    | nil => exact absurd rfl hne
    | cons unusedBits data => rfl
  | integer hlow hhigh => exact survives_integer hlow hhigh
  | unsignedInteger hlt => exact survives_unsignedInteger hlt
  | singlePrecision bits => exact survives_singlePrecision bits
  | doublePrecision bits => exact survives_doublePrecision bits
  | octetString rawValue =>
    intro content hcontent
    cases hcontent
    exact decode_primitive rfl (by decide : 9 ≠ 1) (by decide : 9 ≠ 2)
  | visibleString value =>
    intro content hcontent
    cases hcontent
    exact decode_primitive rfl (by decide : 10 ≠ 1) (by decide : 10 ≠ 2)
  | binaryTime rawValue =>
    intro content hcontent
    cases hcontent
    exact decode_primitive rfl (by decide : 12 ≠ 1) (by decide : 12 ≠ 2)
  | mmsString value =>
    intro content hcontent
    cases hcontent
    exact decode_primitive rfl (by decide : 16 ≠ 1) (by decide : 16 ≠ 2)
  | @utcTime octets time htime =>
    intro content hcontent
    rw [encodeContent, Iec61850UtcTime.toBytes_fromBytes htime] at hcontent
    cases hcontent
    rw [decode_primitive rfl (by decide : 17 ≠ 1) (by decide : 17 ≠ 2)]
    show (Iec61850UtcTime.fromBytes octets).bind (fun time => .ok (MmsDataValue.utcTime time)) = _
    rw [htime]
    rfl
  | unknown rawValue hnew _ => exact survives_unknown hnew rawValue

/-! ## The round trip -/

/-- **An encoded value is one TLV, which is decoded to the value.** -/
theorem decode_encode {value : MmsDataValue} (h : Carried 1000000 value) {octets : Bytes}
    (hencode : encode value = .ok octets) :
    ∃ tlv, BerReader.tryReadTlvAt octets 0 = (some tlv, octets.length) ∧
      decode tlv = .ok value := by
  rw [encode] at hencode
  obtain ⟨content, hcontent, hwith⟩ := except_bind_ok hencode
  have htag := tagFor_le (by decide) h
  obtain ⟨view, -, hread, htlv⟩ := tryReadTlvAt_encodeTlv .contextSpecific (constructed value)
    htag (length_of_encodeWith hwith)
  rw [encodeWith_ok htag hwith]
  refine ⟨view.toTlv, hread, ?_⟩
  rw [htlv]
  exact decode_content h content hcontent

/-- A negative number and a value of another kind in a structure. -/
theorem decode_encode_sample :
    encode (.struct [.integer (-129), .unknown 1000 [7]]) =
        .ok [0xA2, 0x09, 0x85, 0x02, 0xFF, 0x7F, 0x9F, 0x87, 0x68, 0x01, 0x07] ∧
      ∃ tlv, BerReader.tryReadTlvAt
          [0xA2, 0x09, 0x85, 0x02, 0xFF, 0x7F, 0x9F, 0x87, 0x68, 0x01, 0x07] 0 = (some tlv, 11) ∧
        decode tlv = .ok (.struct [.integer (-129), .unknown 1000 [7]]) := by
  have hencode : encode (.struct [.integer (-129), .unknown 1000 [7]]) =
      .ok [0xA2, 0x09, 0x85, 0x02, 0xFF, 0x7F, 0x9F, 0x87, 0x68, 0x01, 0x07] := rfl
  refine ⟨hencode, decode_encode (.struct fun child hmem => ?_) hencode⟩
  rcases List.mem_cons.mp hmem with rfl | hmem
  · exact .integer (by decide) (by decide)
  · rw [List.mem_singleton.mp hmem]
    exact .unknown [7] (by decide) (by decide)

/-- A tag number that the reader does not accept is written all the same. -/
theorem encode_unknown_unread :
    ¬∀ value, Carried (2 ^ 31 - 1) value → ∀ octets, encode value = .ok octets →
      ∃ tlv, BerReader.tryReadTlvAt octets 0 = (some tlv, octets.length) ∧
        decode tlv = .ok value := by
  intro h
  have hoctets : encode (.unknown 1000001 []) = .ok [0x9F, 0xBD, 0x84, 0x41, 0] := rfl
  obtain ⟨tlv, hread, -⟩ := h _ (.unknown [] (by decide) (by decide)) _ hoctets
  have hnone : (BerReader.tryReadTlvAt [0x9F, 0xBD, 0x84, 0x41, 0] 0).1 = none := rfl
  rw [hread] at hnone
  cases hnone

end MmsDataCodec

end ArStack.Mms
