import ArStack.Mms.DataSpanCodec
import ArStack.Spec.DataCodec

/-!
# The two Data encoders agree

What `MmsDataSpanCodec` writes for a value is what `MmsDataCodec` writes for the value with every
`double` narrowed.

* `unsignedInteger_octets`, `signedInteger_octets` — the numbers
* `encodes_content`, `encodes_values` — the sizes and the octets, by induction over the value
* `span_codec`
-/

namespace ArStack.Mms.MmsDataSpanCodec

open ArStack.Asn1 ArStack.Lib ArStack.Wire BerSpanWriter

/-! ## Narrowed values -/

section Narrowed

variable (narrow : Narrowing)

mutual

/-- The value with `float`s for its `double`s. -/
def narrowed : MmsDataValue → MmsDataValue
  | .array children => .array (narrowedAll children)
  | .struct children => .struct (narrowedAll children)
  | .doublePrecision bits => .singlePrecision (narrow bits)
  | value => value

def narrowedAll : List MmsDataValue → List MmsDataValue
  | [] => []
  | value :: values => narrowed value :: narrowedAll values

end

theorem tagFor_narrowed (value : MmsDataValue) :
    MmsDataCodec.tagFor (narrowed narrow value) = MmsDataCodec.tagFor value := by
  cases value <;> rfl

theorem constructed_narrowed (value : MmsDataValue) :
    MmsDataCodec.constructed (narrowed narrow value) = MmsDataCodec.constructed value := by
  cases value <;> rfl

theorem mem_narrowedAll {values : List MmsDataValue} {value : MmsDataValue}
    (h : value ∈ narrowedAll narrow values) : ∃ wide ∈ values, value = narrowed narrow wide := by
  induction values with
  | nil => exact absurd h List.not_mem_nil
  | cons first rest ih =>
    rcases List.mem_cons.mp h with rfl | h
    · exact ⟨first, List.mem_cons_self, rfl⟩
    · obtain ⟨wide, hmem, hvalue⟩ := ih h
      exact ⟨wide, List.mem_cons_of_mem _ hmem, hvalue⟩

theorem carried_narrowed {tagLimit : Nat} {value : MmsDataValue}
    (h : MmsDataCodec.Carried tagLimit value) :
    MmsDataCodec.Carried tagLimit (narrowed narrow value) := by
  induction h with
  | array _ ih =>
    refine .array fun child hchild => ?_
    obtain ⟨wide, hmem, rfl⟩ := mem_narrowedAll narrow hchild
    exact ih wide hmem
  | struct _ ih =>
    refine .struct fun child hchild => ?_
    obtain ⟨wide, hmem, rfl⟩ := mem_narrowedAll narrow hchild
    exact ih wide hmem
  | boolean value => exact .boolean value
  | bitString hne => exact .bitString hne
  | integer hlow hhigh => exact .integer hlow hhigh
  | unsignedInteger hlt => exact .unsignedInteger hlt
  | singlePrecision bits => exact .singlePrecision bits
  | doublePrecision bits => exact .singlePrecision (narrow bits)
  | octetString rawValue => exact .octetString rawValue
  | visibleString value => exact .visibleString value
  | binaryTime rawValue => exact .binaryTime rawValue
  | mmsString value => exact .mmsString value
  | utcTime htime => exact .utcTime htime
  | unknown rawValue hnew hle => exact .unknown rawValue hnew hle

end Narrowed

/-! ## Numbers -/

theorem unsignedIntegerSizeFrom_eq {fuel value : Nat} (h : value < 256 ^ (fuel + 1)) :
    unsignedIntegerSizeFrom fuel value = max 1 (octetCount (fuel + 1) value) := by
  induction fuel generalizing value with
  | zero =>
    rw [unsignedIntegerSizeFrom, octetCount, octetCount]
    split <;> rfl
  | succ fuel ih =>
    rw [unsignedIntegerSizeFrom, octetCount]
    have hshift : value >>> 8 = value / 256 := Nat.shiftRight_eq_div_pow value 8
    by_cases hlarge : value > 0xFF
    · have hdiv : value >>> 8 < 256 ^ (fuel + 1) := by
        rw [hshift]
        exact Nat.div_lt_of_lt_mul (by rwa [Nat.mul_comm, ← Nat.pow_succ])
      have hpos : 0 < value >>> 8 := by
        rw [hshift]
        omega
      have hcount : 0 < octetCount (fuel + 1) (value >>> 8) := by
        rw [octetCount, if_neg (by omega)]
        omega
      rw [if_pos hlarge, if_neg (by omega), ih hdiv]
      omega
    · have hzero : value >>> 8 = 0 := by
        rw [hshift]
        omega
      rw [if_neg hlarge, hzero]
      split
      · rfl
      · rw [octetCount, if_pos rfl]
        rfl

/-- **A number takes the octets that the vector encoder gives it.** -/
theorem unsignedInteger_octets (value : UInt64) :
    beOctets (unsignedIntegerSize value) value.toNat = BerWriter.encodeUnsignedInteger value := by
  have hlt := value.toNat_lt
  rw [unsignedIntegerSize, unsignedIntegerSizeFrom_eq (by omega), BerWriter.encodeUnsignedInteger]
  by_cases hzero : value.toNat = 0
  · rw [hzero]
    rfl
  · rw [BerWriter.trimZeros_beOctets (by omega) (by omega)]
    have hcount : 0 < octetCount 8 value.toNat := by
      rw [octetCount, if_neg hzero]
      omega
    rw [Nat.max_eq_right hcount]

theorem redundant_iff (current next : UInt8) :
    (!(current == 0x00 && next &&& 0x80 == 0) && !(current == 0xFF && next &&& 0x80 != 0)) = true ↔
      ¬((current = 0x00 ∧ next &&& 0x80 = 0) ∨ (current = 0xFF ∧ next &&& 0x80 ≠ 0)) := by
  simp [not_or, imp_iff_not_or]

theorem drop_redundantOctets (octets : Bytes) :
    octets.drop (redundantOctets octets) = BerWriter.trimSign octets := by
  induction octets with
  | nil => rfl
  | cons current rest ih =>
    cases rest with
    | nil => rfl
    | cons next rest =>
      rw [redundantOctets, BerWriter.trimSign]
      by_cases hredundant :
          (current = 0x00 ∧ next &&& 0x80 = 0) ∨ (current = 0xFF ∧ next &&& 0x80 ≠ 0)
      · rw [if_pos hredundant, if_neg fun hkept => (redundant_iff current next).mp hkept hredundant,
          Nat.add_comm, List.drop_succ_cons]
        exact ih
      · rw [if_neg hredundant, if_pos ((redundant_iff current next).mpr hredundant), List.drop_zero]

theorem redundantOctets_le (octets : Bytes) : redundantOctets octets ≤ octets.length := by
  induction octets with
  | nil => exact Nat.le_refl _
  | cons current rest ih =>
    cases rest with
    | nil => exact Nat.zero_le _
    | cons next rest =>
      rw [redundantOctets]
      split
      · exact Nat.zero_le _
      · rw [List.length_cons]
        omega

/-- **A signed number takes the octets that the vector encoder gives it.** -/
theorem signedInteger_octets (value : Int64) :
    (signedOctets value).drop (8 - signedIntegerSize value) = BerWriter.encodeSignedInteger value ∧
      signedIntegerSize value = (BerWriter.encodeSignedInteger value).length := by
  have hle := redundantOctets_le (signedOctets value)
  have hlength : (signedOctets value).length = 8 := length_beOctets 8 _
  have hdrop := drop_redundantOctets (signedOctets value)
  have hsize : 8 - signedIntegerSize value = redundantOctets (signedOctets value) := by
    rw [signedIntegerSize, hlength]
    omega
  refine ⟨by rw [hsize, hdrop]; rfl, ?_⟩
  change _ = (BerWriter.trimSign (signedOctets value)).length
  rw [← hdrop, List.length_drop]
  rfl

/-! ## Writing -/

theorem writes_each (octets : Bytes) : Writes (writeEach octets) octets := by
  have hwrites : Writes (octets.foldlM BerSpanWriter.writeByte ·) (octets.map ([·])).flatten :=
    Writes.foldlM fun octet _ => writes_writeBytes [octet]
  rwa [← List.flatMap_def, List.flatMap_singleton'] at hwrites

/-! ## Values -/

section Values

variable (narrow : Narrowing)

/-- The content of a value has its size and its octets. -/
def EncodesContent (value : MmsDataValue) : Prop :=
  ∀ depth size, contentSize value depth = some size →
    ∃ content, MmsDataCodec.encodeContent (narrowed narrow value) = .ok content ∧
      content.length = size ∧ Writes (writeContent narrow value depth) content

theorem writes_header {value : MmsDataValue} {depth : Nat} {content : Bytes}
    (hsize : contentSize value depth = some content.length) (hlen : content.length ≤ uint32Max) :
    Writes (writeHeader · value depth) (tlvHeader .contextSpecific (MmsDataCodec.constructed value)
      (MmsDataCodec.tagFor value) content.length) := by
  intro writer hfit
  unfold writeHeader tagFor
  rw [hsize]
  exact writes_writeTlvHeader _ _ _ hlen writer hfit

/-- **One value** has the size and the octets of the vector encoder. -/
theorem encodes_value {value : MmsDataValue} (h : EncodesContent narrow value)
    (htag : MmsDataCodec.tagFor value < 2 ^ 31) {depth content size : Nat}
    (hcontent : contentSize value depth = some content)
    (hsize : tlvSize (MmsDataCodec.tagFor value) content = some size) :
    ∃ octets encoded, MmsDataCodec.encodeContent (narrowed narrow value) = .ok encoded ∧
      MmsDataCodec.encodeWith (narrowed narrow value) encoded = .ok octets ∧
      octets.length = size ∧
      Writes (fun writer => (writeHeader writer value depth).bind (writeContent narrow value depth))
        octets := by
  obtain ⟨encoded, hencoded, rfl, hwrites⟩ := h depth content hcontent
  have hlen := le_uint32Max_of_tlvSize hsize
  refine ⟨encodeTlv .contextSpecific (MmsDataCodec.constructed value) (MmsDataCodec.tagFor value)
    encoded, encoded, hencoded, ?_, ?_, ?_⟩
  · rw [MmsDataCodec.encodeWith, tagFor_narrowed, constructed_narrowed, BerWriter.encodeTlv,
      BerWriter.writeTlv_eq [] _ _ htag hlen, List.nil_append]
  · rw [tlvSize_eq .contextSpecific (MmsDataCodec.constructed value) _ hlen] at hsize
    rw [encodeTlv, List.length_append]
    exact Option.some.inj hsize
  · exact (writes_header hcontent hlen).bind hwrites

/-- **Values one after the other.** -/
theorem encodes_values {values : List MmsDataValue} (h : ∀ value ∈ values, EncodesContent narrow value)
    (htags : ∀ value ∈ values, MmsDataCodec.tagFor value < 2 ^ 31) {depth total size : Nat}
    (hsize : encodedAllSizeFrom values depth total = some size) :
    ∃ octets, MmsDataCodec.encodeAll (narrowedAll narrow values) = .ok octets ∧
      total + octets.length = size ∧ Writes (writeChildren narrow values depth) octets := by
  induction values generalizing total with
  | nil =>
    rw [encodedAllSizeFrom] at hsize
    split at hsize
    · cases hsize
    · cases hsize
      refine ⟨[], rfl, rfl, fun writer hfit => ?_⟩
      rw [writeChildren]
      exact writes_some writer hfit
  | cons value values ih =>
    obtain ⟨hvalue, hvalues⟩ := List.forall_mem_cons.mp h
    obtain ⟨htag, htags⟩ := List.forall_mem_cons.mp htags
    rw [encodedAllSizeFrom] at hsize
    split at hsize
    · cases hsize
    rename_i hdepth
    obtain ⟨_, htagFor, hsize⟩ := Option.bind_eq_some_iff.mp hsize
    cases htagFor
    obtain ⟨content, hcontent, hsize⟩ := Option.bind_eq_some_iff.mp hsize
    obtain ⟨first, hfirst, hsize⟩ := Option.bind_eq_some_iff.mp hsize
    split at hsize
    · cases hsize
    obtain ⟨octets, encoded, hencoded, hwith, hlength, hwrites⟩ :=
      encodes_value narrow hvalue htag hcontent hfirst
    obtain ⟨more, hmore, htotal, hrest⟩ := ih hvalues htags hsize
    refine ⟨octets ++ more, ?_, ?_, fun writer hfit => ?_⟩
    · rw [narrowedAll, MmsDataCodec.encodeAll, hencoded]
      change (MmsDataCodec.encodeWith (narrowed narrow value) encoded >>= _) = _
      rw [hwith]
      change (MmsDataCodec.encodeAll (narrowedAll narrow values) >>= _) = _
      rw [hmore]
      rfl
    · rw [List.length_append]
      omega
    · rw [writeChildren, if_neg hdepth]
      have hboth := hwrites.bind hrest writer hfit
      dsimp only at hboth
      rw [Option.bind_assoc] at hboth
      exact hboth

/-- **The content of every value** has its size and its octets. -/
theorem encodes_content {value : MmsDataValue} (h : MmsDataCodec.Carried (2 ^ 31 - 1) value) :
    EncodesContent narrow value := by
  have htag : ∀ child, MmsDataCodec.Carried (2 ^ 31 - 1) child →
      MmsDataCodec.tagFor child < 2 ^ 31 := by
    intro child hchild
    have hle := MmsDataCodec.tagFor_le (by decide) hchild
    omega
  induction h with
  | array hchildren ih | struct hchildren ih =>
    intro depth size hsize
    rw [contentSize] at hsize
    split at hsize
    · cases hsize
    obtain ⟨octets, hoctets, hlength, hwrites⟩ :=
      encodes_values narrow ih (fun child hmem => htag child (hchildren child hmem)) hsize
    refine ⟨octets, hoctets, ?_, fun writer hfit => ?_⟩
    · omega
    · rw [writeContent]
      exact hwrites writer hfit
  | boolean value =>
    intro depth size hsize
    rw [contentSize] at hsize
    split at hsize
    · cases hsize
    cases hsize
    refine ⟨[if value then 0x01 else 0x00], rfl, rfl, fun writer hfit => ?_⟩
    rw [writeContent]
    rfl
  | @bitString rawValue _ | octetString rawValue | binaryTime rawValue | unknown rawValue _ _ =>
    intro depth size hsize
    rw [contentSize] at hsize
    split at hsize
    · cases hsize
    cases hsize
    refine ⟨rawValue, rfl, rfl, fun writer hfit => ?_⟩
    rw [writeContent]
  | @integer value _ _ =>
    intro depth size hsize
    rw [contentSize] at hsize
    split at hsize
    · cases hsize
    cases hsize
    obtain ⟨hoctets, hlength⟩ := signedInteger_octets (.ofInt value)
    refine ⟨BerWriter.encodeSignedInteger (.ofInt value), rfl, hlength.symm, fun writer hfit => ?_⟩
    rw [writeContent, writeSigned, hoctets]
  | @unsignedInteger value _ =>
    intro depth size hsize
    rw [contentSize] at hsize
    split at hsize
    · cases hsize
    cases hsize
    have hoctets := unsignedInteger_octets (.ofNat value)
    refine ⟨BerWriter.encodeUnsignedInteger (.ofNat value), rfl, ?_, fun writer hfit => ?_⟩
    · rw [← hoctets, length_beOctets]
    · rw [writeContent, writeUnsigned, hoctets]
      exact writes_each _ writer hfit
  | singlePrecision bits =>
    intro depth size hsize
    rw [contentSize] at hsize
    split at hsize
    · cases hsize
    cases hsize
    refine ⟨MmsDataCodec.encodeSinglePrecisionFloat bits, rfl, ?_, fun writer hfit => ?_⟩
    · rw [MmsDataCodec.encodeSinglePrecisionFloat, List.length_cons, length_beOctets]
    · rw [writeContent, writeFloat]
      exact writes_each _ writer hfit
  | doublePrecision bits =>
    intro depth size hsize
    rw [contentSize] at hsize
    split at hsize
    · cases hsize
    cases hsize
    refine ⟨MmsDataCodec.encodeSinglePrecisionFloat (narrow bits), rfl, ?_, fun writer hfit => ?_⟩
    · rw [MmsDataCodec.encodeSinglePrecisionFloat, List.length_cons, length_beOctets]
    · rw [writeContent, writeFloat]
      exact writes_each _ writer hfit
  | visibleString value | mmsString value =>
    intro depth size hsize
    rw [contentSize] at hsize
    split at hsize
    · cases hsize
    cases hsize
    refine ⟨value, rfl, rfl, fun writer hfit => ?_⟩
    rw [writeContent]
    exact writes_each _ writer hfit
  | @utcTime octets time htime =>
    intro depth size hsize
    have hbytes := Iec61850UtcTime.toBytes_fromBytes htime
    rw [contentSize, timeSize, hbytes] at hsize
    split at hsize
    · cases hsize
    cases hsize
    refine ⟨octets, hbytes, ?_, fun writer hfit => ?_⟩
    · rw [Iec61850UtcTime.fromBytes] at htime
      split at htime
      · cases htime
      · rename_i hlength
        exact not_not.mp hlength
    · rw [writeContent, writeTime, hbytes]
      rfl

/-! ## Both encoders -/

/-- An encoder of values into a span, which agrees with the vector encoder. -/
structure Agrees (values : List MmsDataValue) (required : Nat) (vector : Except String Bytes)
    (encodeTo : Nat → EncodeResult) : Prop where
  written : ∃ octets, octets.length = required ∧ vector = .ok octets ∧
    (∀ destination ≥ required, encodeTo destination =
      { status := .ok, bytes := octets, requiredBytes := required }) ∧
    ((∀ value ∈ values, MmsDataCodec.Carried 1000000 value) →
      MmsDataCodec.decodeAll octets = .ok (narrowedAll narrow values))
  refused : ∀ destination < required, encodeTo destination =
    { status := .bufferTooSmall, bytes := [], requiredBytes := required }

theorem encodeWithin_eq {required : Nat} {write : BerSpanWriter → Option BerSpanWriter}
    {octets : Bytes} (hwrites : Writes write octets) (hlength : octets.length = required) :
    (∀ destination ≥ required, encodeWithin (some required) write destination =
      { status := .ok, bytes := octets, requiredBytes := required }) ∧
    ∀ destination < required, encodeWithin (some required) write destination =
      { status := .bufferTooSmall, bytes := [], requiredBytes := required } := by
  constructor
  · intro destination hge
    have hroom : ([] : Bytes).length + octets.length ≤ required := by
      rw [List.length_nil]
      omega
    have hwrite := (hwrites _ (fits_new required)).trans (writeBytes_of_le hroom)
    unfold encodeWithin
    dsimp only
    rw [if_neg (Nat.not_lt.mpr hge), hwrite]
    dsimp only
    rw [List.nil_append, size, if_neg (not_not.mpr hlength)]
  · intro destination hlt
    unfold encodeWithin
    dsimp only
    rw [if_pos hlt]

theorem decodeAll_narrowed {values : List MmsDataValue} {octets : Bytes}
    (hoctets : MmsDataCodec.encodeAll (narrowedAll narrow values) = .ok octets)
    (h : ∀ value ∈ values, MmsDataCodec.Carried 1000000 value) :
    MmsDataCodec.decodeAll octets = .ok (narrowedAll narrow values) := by
  have hcarried : ∀ value ∈ narrowedAll narrow values, MmsDataCodec.Carried 1000000 value := by
    intro value hmem
    obtain ⟨wide, hwide, rfl⟩ := mem_narrowedAll narrow hmem
    exact carried_narrowed narrow (h wide hwide)
  exact MmsDataCodec.decodeAll_encodeAll
    (fun value hmem => MmsDataCodec.tagFor_le (by decide) (hcarried value hmem))
    (fun value hmem => MmsDataCodec.decode_content (hcarried value hmem)) hoctets

theorem tagFor_lt {value : MmsDataValue} (h : MmsDataCodec.Carried (2 ^ 31 - 1) value) :
    MmsDataCodec.tagFor value < 2 ^ 31 := by
  have hle := MmsDataCodec.tagFor_le (by decide) h
  omega

/-- **The span encoder agrees with the vector encoder**, on the values with `float`s for their
`double`s. -/
theorem span_codec :
    (∀ value required, MmsDataCodec.Carried (2 ^ 31 - 1) value → encodedSize value = some required →
      Agrees narrow [value] required (MmsDataCodec.encode (narrowed narrow value))
        (encodeInto narrow value)) ∧
    (∀ values required, (∀ value ∈ values, MmsDataCodec.Carried (2 ^ 31 - 1) value) →
      encodedAllSize values = some required →
      Agrees narrow values required (MmsDataCodec.encodeAll (narrowedAll narrow values))
        (encodeAllInto narrow values)) := by
  constructor
  · intro value required hcarried hsize
    have hrequired := hsize
    rw [encodedSize, encodedSizeAt, if_neg (by decide)] at hsize
    obtain ⟨_, htagFor, hsize⟩ := Option.bind_eq_some_iff.mp hsize
    cases htagFor
    obtain ⟨content, hcontent, hsize⟩ := Option.bind_eq_some_iff.mp hsize
    obtain ⟨octets, encoded, hencoded, hwith, hlength, hwrites⟩ :=
      encodes_value narrow (encodes_content narrow hcarried) (tagFor_lt hcarried) hcontent hsize
    have hvalue : Writes (writeValue narrow value 0) octets := by
      intro writer hfit
      rw [writeValue, if_neg (by decide)]
      exact hwrites writer hfit
    obtain ⟨hwritten, hrefused⟩ := encodeWithin_eq hvalue hlength
    have hencode : MmsDataCodec.encode (narrowed narrow value) = .ok octets := by
      rw [MmsDataCodec.encode, hencoded]
      exact hwith
    have hall : MmsDataCodec.encodeAll (narrowedAll narrow [value]) = .ok octets := by
      rw [narrowedAll, narrowedAll, MmsDataCodec.encodeAll, hencoded]
      change (MmsDataCodec.encodeWith (narrowed narrow value) encoded >>= _) = _
      rw [hwith]
      exact congrArg Except.ok (List.append_nil octets)
    unfold encodeInto
    rw [hrequired]
    exact ⟨⟨octets, hlength, hencode, hwritten, decodeAll_narrowed narrow hall⟩, hrefused⟩
  · intro values required hcarried hsize
    have hrequired := hsize
    obtain ⟨octets, hoctets, hlength, hwrites⟩ :=
      encodes_values narrow (fun value hmem => encodes_content narrow (hcarried value hmem))
        (fun value hmem => tagFor_lt (hcarried value hmem)) hsize
    obtain ⟨hwritten, hrefused⟩ := encodeWithin_eq hwrites ((Nat.zero_add _).symm.trans hlength)
    unfold encodeAllInto
    rw [hrequired]
    exact ⟨⟨octets, by omega, hoctets, hwritten, decodeAll_narrowed narrow hoctets⟩, hrefused⟩

end Values

/-- A number and a text in a structure. -/
theorem span_codec_struct :
    encodedSize (.struct [.integer (-129), .visibleString [0x41]]) = some 9 ∧
      Agrees (fun _ => 0) [.struct [.integer (-129), .visibleString [0x41]]] 9
        (MmsDataCodec.encode (narrowed (fun _ => 0)
          (.struct [.integer (-129), .visibleString [0x41]])))
        (encodeInto (fun _ => 0) (.struct [.integer (-129), .visibleString [0x41]])) := by
  have hsize : encodedSize (.struct [.integer (-129), .visibleString [0x41]]) = some 9 := rfl
  refine ⟨hsize, (span_codec fun _ => 0).1 _ 9 (.struct fun child hmem => ?_) hsize⟩
  rcases List.mem_cons.mp hmem with rfl | hmem
  · exact .integer (by decide) (by decide)
  · rw [List.mem_singleton.mp hmem]
    exact .visibleString [0x41]

/-- A `double` comes back as a `float`, and a tag number above a million does not come back. -/
theorem span_codec_narrows :
    (encodeInto (fun _ => 0) (.doublePrecision 0) 7).bytes = [0x87, 5, 8, 0, 0, 0, 0] ∧
      MmsDataCodec.encode (.doublePrecision 0) = .ok [0x87, 9, 0x0B, 0, 0, 0, 0, 0, 0, 0, 0] ∧
      MmsDataCodec.decodeAll [0x87, 5, 8, 0, 0, 0, 0] = .ok [.singlePrecision 0] ∧
      (encodeInto (fun _ => 0) (.unknown 1000001 []) 5).bytes = [0x9F, 0xBD, 0x84, 0x41, 0] ∧
      ∃ what, MmsDataCodec.decodeAll [0x9F, 0xBD, 0x84, 0x41, 0] = .error what :=
  ⟨rfl, rfl, rfl, rfl, _, rfl⟩

end ArStack.Mms.MmsDataSpanCodec
