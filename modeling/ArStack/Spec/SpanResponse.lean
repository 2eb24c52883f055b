import ArStack.Mms.ServicesSpan
import ArStack.Spec.ServiceCodec

/-!
# Responses in spans are the responses of the client's codec

* `writes_positiveContent`, `length_positiveIntegerContent` — numbers
* `encodeConfirmedResponseInto_ok` — a confirmed response that has been written
* `encodeWriteResponseInto_ok` — the response to a Write request
-/

namespace ArStack.Mms

open ArStack.Asn1 ArStack.Lib ArStack.Wire BerSpanWriter Detail

/-! ## Numbers -/

theorem octetCount_eq {fuel w n : Nat} (hle : 256 ^ w ≤ n) (hlt : n < 256 ^ (w + 1))
    (hfuel : w + 1 ≤ fuel) : octetCount fuel n = w + 1 := by
  induction fuel with
  | zero => omega
  | succ fuel ih =>
    rcases Nat.lt_or_ge w fuel with hmore | hall
    · have hpow : 256 ^ (w + 1) ≤ 256 ^ fuel := Nat.pow_le_pow_right (by omega) hmore
      rw [octetCount_of_lt (by omega), ih hmore]
    · obtain rfl : w = fuel := by omega
      exact octetCount_of_le hle

theorem encodeUnsignedInteger_minimal (value : UInt32) :
    BerWriter.encodeUnsignedInteger value.toUInt64 =
      beOctets (minimalUnsignedSize value) value.toNat := by
  have hlt := value.toNat_lt
  have hnat : value.toUInt64.toNat = value.toNat := rfl
  have hbound (limit : UInt32) : value ≤ limit ↔ value.toNat ≤ limit.toNat :=
    UInt32.le_iff_toNat_le
  rw [BerWriter.encodeUnsignedInteger, hnat]
  by_cases hzero : value.toNat = 0
  · obtain rfl : value = 0 := UInt32.toNat_inj.mp hzero
    decide
  rw [BerWriter.trimZeros_beOctets (by omega) (by omega), minimalUnsignedSize]
  simp only [hbound]
  have hone : (0xFF : UInt32).toNat = 0xFF := rfl
  have htwo : (0xFFFF : UInt32).toNat = 0xFFFF := rfl
  have hthree : (0xFFFFFF : UInt32).toNat = 0xFFFFFF := rfl
  rw [hone, htwo, hthree]
  split
  · rw [octetCount_eq (w := 0) (by omega) (by omega) (by omega)]
  split
  · rw [octetCount_eq (w := 1) (by omega) (by omega) (by omega)]
  split
  · rw [octetCount_eq (w := 2) (by omega) (by omega) (by omega)]
  · rw [octetCount_eq (w := 3) (by omega) (by omega) (by omega)]

theorem minimalUnsignedSize_range (value : UInt32) :
    1 ≤ minimalUnsignedSize value ∧ minimalUnsignedSize value ≤ 4 := by
  rw [minimalUnsignedSize]
  repeat' split
  all_goals omega

/-- The sign bit of the first octet, seen in the number. -/
theorem needsPositivePrefix_iff (value : UInt32) {w : Nat} (hw : w < 4) :
    needsPositivePrefix value (w + 1) = true ↔ UInt8.ofNat (value.toNat >>> (w * 8)) &&& 0x80 ≠ 0 := by
  have hshift : (value >>> UInt32.ofNat ((w + 1 - 1) * 8)).toNat = value.toNat >>> (w * 8) := by
    rw [UInt32.toNat_shiftRight, UInt32.toNat_ofNat', Nat.add_sub_cancel,
      Nat.mod_eq_of_lt (show w * 8 < 2 ^ 32 by omega), Nat.mod_eq_of_lt (show w * 8 < 32 by omega)]
  rw [needsPositivePrefix, bne_iff_ne, ne_eq, ne_eq, not_iff_not, ← UInt32.toNat_inj,
    ← UInt8.toNat_inj, UInt32.toNat_and, hshift, UInt8.toNat_and, UInt8.toNat_ofNat']
  have hmask (n : Nat) : n % 2 ^ 8 &&& 0x80 = n &&& 0x80 := by
    have hlt : n &&& 0x80 < 2 ^ 8 := Nat.lt_of_le_of_lt Nat.and_le_right (by decide)
    calc n % 2 ^ 8 &&& 0x80 = n % 2 ^ 8 &&& 0x80 % 2 ^ 8 := rfl
      _ = (n &&& 0x80) % 2 ^ 8 := Nat.and_mod_two_pow.symm
      _ = n &&& 0x80 := Nat.mod_eq_of_lt hlt
  exact iff_of_eq (congrArg (· = 0) (hmask _).symm)

theorem positiveIntegerContent_eq (value : UInt32) :
    positiveIntegerContent value.toUInt64 =
      (if needsPositivePrefix value (minimalUnsignedSize value) then [0] else []) ++
        beOctets (minimalUnsignedSize value) value.toNat := by
  obtain ⟨w, hw⟩ : ∃ w, minimalUnsignedSize value = w + 1 :=
    ⟨minimalUnsignedSize value - 1, by have := minimalUnsignedSize_range value; omega⟩
  have hrange := (minimalUnsignedSize_range value).2
  have hfirst := needsPositivePrefix_iff value (w := w) (by omega)
  rw [positiveIntegerContent, encodeUnsignedInteger_minimal, hw, beOctets_cons]
  dsimp only
  split
  · rename_i hset
    rw [if_pos (hfirst.mpr hset)]
    rfl
  · rename_i hclear
    rw [if_neg fun h => hclear (hfirst.mp h)]
    rfl

theorem length_positiveIntegerContent (value : UInt32) :
    (positiveIntegerContent value.toUInt64).length = positiveIntegerSize value := by
  rw [positiveIntegerContent_eq, positiveIntegerSize, List.length_append, length_beOctets]
  split <;> simp [Nat.add_comm]

theorem positiveIntegerSize_le (value : UInt32) : positiveIntegerSize value ≤ 5 := by
  have := (minimalUnsignedSize_range value).2
  rw [positiveIntegerSize]
  split <;> omega

theorem writes_positiveContent (value : UInt32) :
    Writes (writePositiveContent · value) (positiveIntegerContent value.toUInt64) := by
  have hsign : Writes (writeIf (needsPositivePrefix value (minimalUnsignedSize value))
      (·.writeByte 0)) (if needsPositivePrefix value (minimalUnsignedSize value) then [0] else []) := by
    cases hneeds : needsPositivePrefix value (minimalUnsignedSize value) with
    | true => exact writes_writeBytes [0]
    | false => exact writes_some
  rw [positiveIntegerContent_eq]
  exact hsign.bind (writes_writeBytes _)

/-- A number as a TLV. -/
theorem writes_positive (tagClass : BerClass) (tagNumber : Nat) (value : UInt32) :
    Writes (fun writer => (writer.writeTlvHeader tagClass false tagNumber
        (positiveIntegerSize value)).bind (writePositiveContent · value))
      (encodeTlv tagClass false tagNumber (positiveIntegerContent value.toUInt64)) := by
  rw [encodeTlv, length_positiveIntegerContent]
  refine (writes_writeTlvHeader tagClass false tagNumber ?_).bind (writes_positiveContent value)
  have := positiveIntegerSize_le value
  rw [uint32Max]
  omega

theorem size_positive (tagClass : BerClass) (tagNumber : Nat) (value : UInt32) :
    tlvSize tagNumber (positiveIntegerSize value) =
      some (encodeTlv tagClass false tagNumber (positiveIntegerContent value.toUInt64)).length := by
  have hsmall : positiveIntegerSize value ≤ uint32Max := by
    have := positiveIntegerSize_le value
    rw [uint32Max]
    omega
  rw [tlvSize_eq tagClass false tagNumber hsmall, encodeTlv, List.length_append,
    length_positiveIntegerContent]

/-! ## Confirmed responses -/

namespace MmsServiceSpanCodec

/-- The octets of a confirmed response. -/
def confirmedResponse (invokeId : UInt32) (serviceTag : Nat) (content : Bytes) : Bytes :=
  encodeTlv .contextSpecific true 1
    (encodeTlv .universal false 2 (positiveIntegerContent invokeId.toUInt64) ++
      encodeTlv .contextSpecific true serviceTag content)

/-- What the sizes of a response say. -/
theorem confirmedResponseSizing_eq_some {invokeId : UInt32} {serviceTag : Nat} {content : Bytes}
    {sizing : ConfirmedResponseSizing}
    (h : confirmedResponseSizing invokeId serviceTag content.length = some sizing) :
    invokeId.toNat ≤ MmsPduCodec.maximumInvokeId ∧ serviceTag ≤ 1000000 ∧
      content.length ≤ uint32Max ∧ sizing.invokeValue = positiveIntegerSize invokeId ∧
      sizing.outerContent =
        (encodeTlv .universal false 2 (positiveIntegerContent invokeId.toUInt64) ++
          encodeTlv .contextSpecific true serviceTag content).length ∧
      sizing.outerContent ≤ uint32Max ∧
      sizing.required = (confirmedResponse invokeId serviceTag content).length ∧
      sizing.required ≤ maximumPduBytes := by
  rw [confirmedResponseSizing] at h
  split at h
  · cases h
  rename_i hlimits
  obtain ⟨invokeTlv, hinvoke, h⟩ := Option.bind_eq_some_iff.mp h
  obtain ⟨serviceTlv, hservice, h⟩ := Option.bind_eq_some_iff.mp h
  obtain ⟨outerContent, houter, h⟩ := Option.bind_eq_some_iff.mp h
  obtain ⟨required, hrequired, h⟩ := Option.bind_eq_some_iff.mp h
  split at h
  · cases h
  rename_i hle
  cases h
  have hinvokeId : invokeId.toNat ≤ MmsPduCodec.maximumInvokeId := by
    have hle : invokeId ≤ MmsPduSpanCodec.maximumInvokeId :=
      UInt32.not_lt.mp fun hgt => hlimits (.inl hgt)
    exact UInt32.le_iff_toNat_le.mp hle
  have hcontent := le_uint32Max_of_tlvSize hservice
  rw [size_positive .universal] at hinvoke
  rw [tlvSize_eq .contextSpecific true serviceTag hcontent] at hservice
  cases hinvoke
  cases hservice
  have hsum : outerContent =
      (encodeTlv .universal false 2 (positiveIntegerContent invokeId.toUInt64) ++
        encodeTlv .contextSpecific true serviceTag content).length := by
    rw [addSize_eq_some houter, List.length_append, encodeTlv, encodeTlv, List.length_append,
      List.length_append]
  have houter' := le_uint32Max_of_tlvSize hrequired
  rw [tlvSize_eq .contextSpecific true 1 houter'] at hrequired
  cases hrequired
  refine ⟨hinvokeId, by omega, hcontent, rfl, hsum, houter', ?_, Nat.le_of_not_lt hle⟩
  dsimp only
  rw [confirmedResponse, encodeTlv, List.length_append, ← hsum]

theorem writes_confirmedResponse {invokeId : UInt32} {serviceTag : Nat} {content : Bytes}
    {write : BerSpanWriter → Option BerSpanWriter} (hwrite : Writes write content)
    {sizing : ConfirmedResponseSizing}
    (h : confirmedResponseSizing invokeId serviceTag content.length = some sizing) :
    Writes (fun writer => (writeConfirmedResponsePrefix writer sizing invokeId serviceTag
      content.length).bind write) (confirmedResponse invokeId serviceTag content) := by
  obtain ⟨-, -, hcontent, hvalue, houter, houterLe, -, -⟩ := confirmedResponseSizing_eq_some h
  have hheader := writes_writeTlvHeader .contextSpecific true 1 houterLe
  have hinvoke := writes_positive .universal 2 invokeId
  have hservice := writes_writeTlvHeader .contextSpecific true serviceTag hcontent
  have hall := (hheader.bind (hinvoke.bind (hservice.bind hwrite)))
  intro writer hfit
  have hwritten := hall writer hfit
  simp only [Option.bind_assoc] at hwritten
  rw [confirmedResponse, encodeTlv, ← houter, encodeTlv.eq_def .contextSpecific true serviceTag,
    ← hwritten]
  simp only [writeConfirmedResponsePrefix, Option.bind_eq_bind, Option.bind_assoc, hvalue]

/-- The client's codec has the same octets for the response. -/
theorem encodeConfirmedResponse_eq {invokeId : UInt32} {serviceTag : Nat} {content : Bytes}
    (hinvoke : invokeId.toNat ≤ MmsPduCodec.maximumInvokeId) (htag : serviceTag ≤ 1000000)
    (hlen : (confirmedResponse invokeId serviceTag content).length ≤ maximumPduBytes) :
    MmsPduCodec.encodeConfirmedResponse
        { invokeId := invokeId.toNat, serviceTag, serviceValue := content } =
      .ok (confirmedResponse invokeId serviceTag content) := by
  have hid : UInt64.ofNat invokeId.toNat = invokeId.toUInt64 := UInt64.toNat_inj.mp (by
    have hlt := invokeId.toNat_lt
    rw [UInt64.toNat_ofNat', Nat.mod_eq_of_lt (by omega)]
    rfl)
  have hmax : maximumPduBytes = MmsPduCodec.maximumPduBytes := rfl
  have hmax' : MmsPduCodec.maximumPduBytes ≤ uint32Max := by decide
  have hbody : (encodeTlv .universal false 2 (positiveIntegerContent invokeId.toUInt64) ++
      encodeTlv .contextSpecific true serviceTag content).length ≤
        MmsPduCodec.maximumPduBytes := by
    rw [confirmedResponse, encodeTlv, List.length_append] at hlen
    omega
  have hcontent : content.length ≤ MmsPduCodec.maximumPduBytes := by
    rw [List.length_append, encodeTlv.eq_def .contextSpecific, List.length_append] at hbody
    omega
  have hpositive : (positiveIntegerContent invokeId.toUInt64).length ≤ uint32Max := by
    rw [List.length_append, encodeTlv, List.length_append] at hbody
    omega
  have hinvokeTlv : BerWriter.encodeTagged 0x02 (positiveIntegerContent invokeId.toUInt64) =
      .ok (encodeTlv .universal false 2 (positiveIntegerContent invokeId.toUInt64)) :=
    BerWriter.encodeTagged_of_le hpositive
  have hserviceTlv : BerWriter.encodeTlv .contextSpecific true serviceTag content =
      .ok (encodeTlv .contextSpecific true serviceTag content) := by
    rw [BerWriter.encodeTlv, BerWriter.writeTlv_eq [] _ _ (by omega) (by omega), List.nil_append]
  rw [MmsPduCodec.encodeConfirmedResponse, MmsPduCodec.encodeConfirmed,
    if_neg (Nat.not_lt.mpr hinvoke), if_neg (Nat.not_lt.mpr htag),
    if_neg (Nat.not_lt.mpr hcontent)]
  dsimp only
  rw [hid, hinvokeTlv]
  show (BerWriter.encodeTlv _ _ _ _).bind _ = _
  rw [hserviceTlv]
  show (MmsPduCodec.concat _).bind _ = _
  rw [MmsPduCodec.concat, concatWithin, List.flatten_cons, List.flatten_singleton,
    if_neg (Nat.not_lt.mpr hbody)]
  exact BerWriter.encodeTagged_of_le (by omega)

/-- **A response that has been written is one of the client's codec.** -/
theorem encodeConfirmedResponseInto_ok {invokeId : UInt32} {serviceTag : Nat} {content : Bytes}
    {write : BerSpanWriter → Option BerSpanWriter} (hwrite : Writes write content)
    {destinationSize : Nat}
    (h : (encodeConfirmedResponseInto invokeId serviceTag content.length write
      destinationSize).status = .ok) :
    let bytes := (encodeConfirmedResponseInto invokeId serviceTag content.length write
      destinationSize).bytes
    MmsPduCodec.encodeConfirmedResponse
        { invokeId := invokeId.toNat, serviceTag, serviceValue := content } = .ok bytes ∧
      bytes.length ≤ maximumPduBytes := by
  dsimp only
  rw [encodeConfirmedResponseInto] at h ⊢
  cases hsizing : confirmedResponseSizing invokeId serviceTag content.length with
  | none =>
    rw [hsizing] at h
    cases h
  | some sizing =>
    rw [hsizing] at h
    have hwritten := writes_confirmedResponse hwrite hsizing { capacity := sizing.required }
      (fits_new _)
    obtain ⟨hinvoke, htag, -, -, -, -, hrequired, hle⟩ := confirmedResponseSizing_eq_some hsizing
    dsimp only at h hwritten ⊢
    split at h
    · cases h
    rename_i hroom
    have hfull : ([] : Bytes).length + (confirmedResponse invokeId serviceTag content).length ≤
        ({ capacity := sizing.required } : BerSpanWriter).capacity := by
      rw [hrequired]
      exact Nat.le_of_eq (Nat.zero_add _)
    rw [if_neg hroom, hwritten, writeBytes_of_le hfull]
    dsimp only
    rw [if_neg (by rw [size, hrequired, List.nil_append]; exact not_not.mpr rfl), List.nil_append]
    rw [hrequired] at hle
    exact ⟨encodeConfirmedResponse_eq hinvoke htag hle, hle⟩

/-! ## Write -/

/-- What the client has for a result of the server. -/
def clientResult (result : MmsWriteAccessResultInput) : MmsWriteAccessResult :=
  if result.success then { success := true }
  else { success := false, failureCode := some result.failureCode }

def resultOctets (result : MmsWriteAccessResultInput) : Bytes :=
  if result.success then encodeTlv .contextSpecific false 1 []
  else encodeTlv .contextSpecific false 0 (positiveIntegerContent result.failureCode.toUInt64)

theorem writes_writeResult (result : MmsWriteAccessResultInput) :
    Writes (writeWriteResult · result) (resultOctets result) := by
  obtain ⟨success, failureCode⟩ := result
  cases success with
  | true =>
    have hheader : tlvHeader .contextSpecific false 1 0 =
        resultOctets { success := true, failureCode } := (List.append_nil _).symm
    rw [← hheader]
    exact writes_writeTlvHeader .contextSpecific false 1 (by decide)
  | false => exact writes_positive .contextSpecific 0 failureCode

theorem writeResultSize_eq (result : MmsWriteAccessResultInput) :
    writeResultSize result = some (resultOctets result).length := by
  obtain ⟨success, failureCode⟩ := result
  cases success with
  | true => rfl
  | false => exact size_positive .contextSpecific 0 failureCode

theorem writeResultsSize_eq {results : List MmsWriteAccessResultInput} {size : Nat}
    (h : writeResultsSize results = some size) :
    size = (results.map resultOctets).flatten.length := by
  induction results generalizing size with
  | nil => exact (Option.some.inj h).symm
  | cons result results ih =>
    obtain ⟨first, hfirst, h⟩ := Option.bind_eq_some_iff.mp h
    obtain ⟨others, hothers, h⟩ := Option.bind_eq_some_iff.mp h
    rw [writeResultSize_eq] at hfirst
    cases hfirst
    rw [addSize_eq_some h, ih hothers, List.map_cons, List.flatten_cons, List.length_append]

theorem encodeWriteAccessResult_client (result : MmsWriteAccessResultInput) :
    MmsServiceCodec.encodeWriteAccessResult (clientResult result) = .ok (resultOctets result) := by
  obtain ⟨success, failureCode⟩ := result
  cases success with
  | true => rfl
  | false =>
    have hlen : (positiveIntegerContent failureCode.toUInt64).length ≤ uint32Max := by
      have := positiveIntegerSize_le failureCode
      rw [length_positiveIntegerContent, uint32Max]
      omega
    exact BerWriter.writeTlv_eq [] .contextSpecific false (by decide) hlen

/-- **The response to a Write request is one of the client's codec.** -/
theorem encodeWriteResponseInto_ok {invokeId : UInt32} {results : List MmsWriteAccessResultInput}
    {destinationSize : Nat}
    (h : (encodeWriteResponseInto invokeId results destinationSize).status = .ok) :
    let bytes := (encodeWriteResponseInto invokeId results destinationSize).bytes
    MmsServiceCodec.encodeWriteResponsePdu { invokeId, results := results.map clientResult } =
        .ok bytes ∧ bytes.length ≤ maximumPduBytes := by
  dsimp only
  rw [encodeWriteResponseInto] at h ⊢
  split at h
  · cases h
  rename_i hcount
  rw [if_neg hcount]
  cases hsize : writeResultsSize results with
  | none =>
    rw [hsize] at h
    cases h
  | some serviceContent =>
    rw [hsize] at h
    obtain rfl := writeResultsSize_eq hsize
    have hwrites : Writes (results.foldlM writeWriteResult ·) (results.map resultOctets).flatten :=
      Writes.foldlM fun result _ => writes_writeResult result
    obtain ⟨hencode, hlen⟩ := encodeConfirmedResponseInto_ok hwrites h
    refine ⟨?_, hlen⟩
    have hitems : (results.map clientResult).mapM MmsServiceCodec.encodeWriteAccessResult =
        .ok (results.map resultOctets) := by
      rw [List.mapM_map]
      exact mapM_eq_ok encodeWriteAccessResult_client results
    have hcount' : ¬(results.map clientResult = [] ∨
        (results.map clientResult).length > MmsServiceCodec.maximumVariables) := by
      have hlimit : maximumVariables ≤ MmsServiceCodec.maximumVariables := by decide
      rw [List.map_eq_nil_iff, List.length_map]
      rintro (hnil | hmany)
      · exact hcount (.inl hnil)
      · exact hcount (.inr (by omega))
    rw [MmsServiceCodec.encodeWriteResponsePdu]
    dsimp only
    rw [if_neg hcount', hitems]
    exact hencode

end MmsServiceSpanCodec

end ArStack.Mms
