import ArStack.Asn1.BerOffsets
import ArStack.Asn1.BerWriter
import ArStack.Spec.BerTlv

/-!
# The growing writer writes what the fixed one does

* `trimZeros_beOctets` — numbers in as few octets as they need
* `writeTlv_eq` — a TLV behind the buffer
* `signedValue_encodeSignedInteger`, `beValue_encodeUnsignedInteger` — the shortest integers
* `readers_and_writers_agree`
-/

namespace ArStack.Asn1

open ArStack.Lib BerSpanWriter

/-! ## Octets of a number -/

theorem beOctets_cons (w n : Nat) :
    beOctets (w + 1) n = UInt8.ofNat (n >>> (w * 8)) :: beOctets w n := by
  rw [beOctets, List.range_succ_eq_map, List.map_cons, List.map_map, beOctets]
  congr 1
  refine List.map_congr_left fun i _ => ?_
  dsimp only [Function.comp]
  congr 3
  omega

theorem octetCount_of_lt {w n : Nat} (h : n < 256 ^ w) : octetCount (w + 1) n = octetCount w n := by
  induction w generalizing n with
  | zero =>
    have hn : n = 0 := by omega
    rw [hn]
    rfl
  | succ w ih =>
    have hshift : n >>> 8 = n / 256 := Nat.shiftRight_eq_div_pow n 8
    show (if n = 0 then 0 else 1 + octetCount (w + 1) (n >>> 8)) =
      if n = 0 then 0 else 1 + octetCount w (n >>> 8)
    rw [hshift, ih (div_lt_pow h)]

theorem octetCount_of_le {w n : Nat} (h : 256 ^ w ≤ n) : octetCount (w + 1) n = w + 1 := by
  have hpos : 0 < 256 ^ w := Nat.pow_pos (by omega)
  rw [octetCount, if_neg (by omega)]
  cases w with
  | zero => rfl
  | succ w =>
    have hshift : n >>> 8 = n / 256 := Nat.shiftRight_eq_div_pow n 8
    have hle : 256 ^ w ≤ n / 256 := by
      rw [Nat.le_div_iff_mul_le (by omega), ← Nat.pow_succ]
      exact h
    rw [hshift, octetCount_of_le hle]
    omega

namespace BerWriter

theorem length_trimZeros (octets : Bytes) : (trimZeros octets).length ≤ octets.length := by
  fun_induction trimZeros octets with
  | case1 next rest ih => exact Nat.le_succ_of_le ih
  | case2 first next rest _ => exact Nat.le_refl _
  | case3 octets _ => exact Nat.le_refl _

/-- **A number in as few octets as it needs.** -/
theorem trimZeros_beOctets {w n : Nat} (hpos : 0 < n) (h : n < 256 ^ w) :
    trimZeros (beOctets w n) = beOctets (octetCount w n) n := by
  induction w with
  | zero => omega
  | succ w ih =>
    by_cases hlt : n < 256 ^ w
    · cases w with
      | zero => omega
      | succ w =>
        have hzero : UInt8.ofNat (n >>> ((w + 1) * 8)) = 0 := by
          have hdiv : n >>> ((w + 1) * 8) = 0 := by
            rw [Nat.shiftRight_eq_div_pow, Nat.mul_comm, Nat.pow_mul]
            exact Nat.div_eq_of_lt hlt
          rw [hdiv]
          rfl
        rw [octetCount_of_lt hlt, ← ih hlt, beOctets_cons, beOctets_cons, trimZeros, if_pos hzero]
    · have hle : 256 ^ w ≤ n := Nat.le_of_not_lt hlt
      rw [octetCount_of_le hle]
      cases w with
      | zero => rfl
      | succ w =>
        have hne : UInt8.ofNat (n >>> ((w + 1) * 8)) ≠ 0 := by
          intro hzero
          have hnat := congrArg UInt8.toNat hzero
          rw [UInt8.toNat_ofNat', Nat.shiftRight_eq_div_pow, Nat.mul_comm, Nat.pow_mul] at hnat
          have hge : 1 ≤ n / 256 ^ (w + 1) :=
            (Nat.le_div_iff_mul_le (Nat.pow_pos (by omega))).mpr (by omega)
          have hlt' : n / 256 ^ (w + 1) < 256 :=
            Nat.div_lt_of_lt_mul (by rwa [← Nat.pow_succ])
          have hsmall : (0 : UInt8).toNat = 0 := rfl
          have hbase : (2 : Nat) ^ 8 = 256 := rfl
          rw [hsmall, hbase, Nat.mod_eq_of_lt hlt'] at hnat
          omega
        rw [beOctets_cons, beOctets_cons, trimZeros, if_neg hne]

/-! ## TLVs -/

theorem writeLength_eq (buffer : Bytes) {length : Nat} (h : length ≤ uint32Max) :
    writeLength buffer length = .ok (buffer ++ lengthField length) := by
  rw [writeLength, lengthField]
  split
  · rfl
  · rename_i hlong
    rw [if_neg (by omega), trimZeros_beOctets (by omega) (by rw [uint32Max] at h; omega)]
    dsimp only
    rw [length_beOctets, List.append_assoc, List.singleton_append]

theorem highTagGroups_eq {room n : Nat} (h : n < 128 ^ (room + 1)) :
    highTagGroups (room + 1) n = .ok (tagGroups (room + 1) n) := by
  have hshift : n >>> 7 = n / 128 := Nat.shiftRight_eq_div_pow n 7
  have hgroup : n &&& 0x7F = n % 0x80 := Nat.and_two_pow_sub_one_eq_mod n 7
  rw [highTagGroups, tagGroups, hgroup]
  by_cases hzero : n >>> 7 = 0
  · rw [if_neg (by omega), if_pos hzero]
  · rw [if_pos (by omega), if_neg hzero]
    cases room with
    | zero => omega
    | succ room =>
      rw [hshift, highTagGroups_eq (div_lt_pow h)]
      rfl

/-- All groups but the last one written carry the continuation bit. -/
theorem map_zipIdx_reverse (groups : Bytes) :
    groups.zipIdx.reverse.map (fun (group, index) => if index ≠ 0 then group ||| 0x80 else group) =
      (groups.drop 1).reverse.map (· ||| 0x80) ++ groups.take 1 := by
  have hhigh (groups : Bytes) (k : Nat) : (groups.zipIdx (k + 1)).map (fun (group, index) =>
      if index ≠ 0 then group ||| 0x80 else group) = groups.map (· ||| 0x80) := by
    induction groups generalizing k with
    | nil => rfl
    | cons group groups ih =>
      rw [List.zipIdx_cons, List.map_cons, List.map_cons, ih]
      dsimp only
      rw [if_pos (by omega)]
  cases groups with
  | nil => rfl
  | cons group groups =>
    rw [List.zipIdx_cons, List.reverse_cons, List.map_append, List.map_reverse, hhigh,
      ← List.map_reverse]
    rfl

theorem writeIdentifier_eq (buffer : Bytes) (tagClass : BerClass) (constructed : Bool)
    {tagNumber : Nat} (h : tagNumber < 2 ^ 31) :
    writeIdentifier buffer tagClass constructed tagNumber =
      .ok (buffer ++ identifier tagClass constructed tagNumber) := by
  rw [writeIdentifier, identifier, if_neg (by omega)]
  by_cases hlow : tagNumber ≤ 30
  · rw [if_pos (by omega), if_pos hlow, encodeIdentifier, if_neg (by omega)]
    rfl
  · rw [if_neg (by omega), if_neg hlow, Int.toNat_natCast, highTagGroups_eq (by omega)]
    show Except.ok (_ ++ _ ++ _) = _
    rw [map_zipIdx_reverse, List.append_assoc, List.singleton_append]
    rfl

/-- **A TLV goes behind the buffer.** -/
theorem writeTlv_eq (buffer : Bytes) (tagClass : BerClass) (constructed : Bool) {tagNumber : Nat}
    (htag : tagNumber < 2 ^ 31) {value : Bytes} (hlen : value.length ≤ uint32Max) :
    writeTlv buffer tagClass constructed tagNumber value =
      .ok (buffer ++ BerSpanWriter.encodeTlv tagClass constructed tagNumber value) := by
  rw [writeTlv, writeIdentifier_eq buffer tagClass constructed htag]
  show (writeLength _ value.length).bind _ = _
  rw [writeLength_eq _ hlen]
  show Except.ok (_ ++ _ ++ _ ++ _) = _
  rw [BerSpanWriter.encodeTlv, tlvHeader, List.append_assoc, List.append_assoc, List.append_assoc]

end BerWriter

/-! ## Integers -/

/-- The sign bit. -/
theorem sign_clear_iff (b : UInt8) : b &&& 0x80 = 0 ↔ b.toNat < 128 := by
  have hall : ∀ n : Fin 256, UInt8.ofNat n &&& 0x80 = 0 ↔ n.val < 128 := by decide +kernel
  have hb := hall ⟨b.toNat, b.toNat_lt⟩
  rwa [UInt8.ofNat_toNat] at hb

/-- Octets in two's complement. -/
def signedValue (octets : Bytes) : Int :=
  if 2 * beValue octets < 256 ^ octets.length then beValue octets
  else beValue octets - 256 ^ octets.length

namespace BerReader

theorem readSignedInteger_eq {tlv : BerTlv} (hne : tlv.value ≠ []) (hlen : tlv.value.length ≤ 8) :
    readSignedInteger tlv = some (signedValue tlv.value) := by
  rw [readSignedInteger, if_neg (by omega), signedValue]
  cases hvalue : tlv.value with
  | nil => exact absurd hvalue hne
  | cons b bs =>
    have hrest := beValue_lt bs
    have hb : b.toNat < 256 := b.toNat_lt
    have hpow : (256 : Int) ^ (bs.length + 1) = 2 ^ ((bs.length + 1) * 8) := by
      rw [Nat.mul_comm, pow_mul]
      rfl
    have hiff : 2 * beValue (b :: bs) < 256 ^ (bs.length + 1) ↔ b.toNat < 128 := by
      rw [beValue_cons, Nat.pow_succ]
      constructor
      · intro h
        by_contra hge
        have : 128 * 256 ^ bs.length ≤ b.toNat * 256 ^ bs.length :=
          Nat.mul_le_mul_right _ (by omega)
        omega
      · intro h
        have : (b.toNat + 1) * 256 ^ bs.length ≤ 128 * 256 ^ bs.length :=
          Nat.mul_le_mul_right _ (by omega)
        rw [Nat.add_mul] at this
        omega
    rw [List.length_cons]
    simp only [List.headD_cons, sign_clear_iff, hiff, hpow]

end BerReader

namespace BerWriter

theorem length_trimSign (octets : Bytes) :
    (trimSign octets).length ≤ octets.length ∧ (octets ≠ [] → trimSign octets ≠ []) := by
  fun_induction trimSign octets with
  | case1 first next rest _ ih =>
    exact ⟨Nat.le_succ_of_le ih.1, fun _ => ih.2 (List.cons_ne_nil _ _)⟩
  | case2 first next rest _ => exact ⟨Nat.le_refl _, id⟩
  | case3 octets _ => exact ⟨Nat.le_refl _, id⟩

/-- An octet that repeats the sign does not change the value. -/
theorem signedValue_sign {first next : UInt8} {rest : Bytes}
    (h : (first = 0x00 ∧ next &&& 0x80 = 0) ∨ (first = 0xFF ∧ next &&& 0x80 ≠ 0)) :
    signedValue (first :: next :: rest) = signedValue (next :: rest) := by
  have hrest := beValue_lt rest
  have hnext : next.toNat < 256 := next.toNat_lt
  rw [signedValue, signedValue, beValue_cons first, List.length_cons (a := first), Nat.pow_succ,
    pow_succ]
  have hlt := beValue_lt (next :: rest)
  have hpos : 0 < 256 ^ rest.length := Nat.pow_pos (by omega)
  have hvalue := beValue_cons next rest
  have hlen : (256 : Nat) ^ (next :: rest).length = 256 ^ rest.length * 256 := Nat.pow_succ ..
  rcases h with ⟨rfl, hsign⟩ | ⟨rfl, hsign⟩
  · have hsmall : next.toNat < 128 := (sign_clear_iff next).mp hsign
    have hle : (next.toNat + 1) * 256 ^ rest.length ≤ 128 * 256 ^ rest.length :=
      Nat.mul_le_mul_right _ (by omega)
    rw [Nat.add_mul] at hle
    rw [if_pos (by simp; omega), if_pos (by omega)]
    simp
  · have hlarge : ¬next.toNat < 128 := fun h => hsign ((sign_clear_iff next).mpr h)
    have hle : 128 * 256 ^ rest.length ≤ next.toNat * 256 ^ rest.length :=
      Nat.mul_le_mul_right _ (by omega)
    have hff : (0xFF : UInt8).toNat = 255 := rfl
    rw [hff, if_neg (by omega), if_neg (by omega)]
    push_cast
    omega

/-- **Shortening an integer keeps its value.** -/
theorem signedValue_trimSign (octets : Bytes) : signedValue (trimSign octets) = signedValue octets := by
  fun_induction trimSign octets with
  | case1 first next rest hsign ih => rw [ih, signedValue_sign hsign]
  | case2 first next rest _ => rfl
  | case3 octets _ => rfl

theorem signedValue_encodeSignedInteger (value : Int64) :
    signedValue (encodeSignedInteger value) = value.toInt := by
  have hlt : value.toUInt64.toNat < 2 ^ 64 := value.toUInt64.toNat_lt
  have hcond := BitVec.toInt_eq_toNat_cond value.toBitVec
  have hnat : value.toBitVec.toNat = value.toUInt64.toNat := rfl
  rw [encodeSignedInteger, signedValue_trimSign, signedValue, length_beOctets,
    beValue_beOctets_uint64]
  rw [hnat] at hcond
  show _ = value.toBitVec.toInt
  rw [hcond]
  rfl

theorem length_encodeUnsignedInteger_le (value : UInt64) :
    (encodeUnsignedInteger value).length ≤ 8 := by
  have hle := length_trimZeros (beOctets 8 value.toNat)
  rw [length_beOctets] at hle
  exact hle

theorem beValue_encodeUnsignedInteger (value : UInt64) :
    beValue (encodeUnsignedInteger value) = value.toNat := by
  have hlt : value.toNat < 2 ^ 64 := value.toNat_lt
  rw [encodeUnsignedInteger]
  by_cases hzero : value.toNat = 0
  · rw [hzero]
    rfl
  · rw [trimZeros_beOctets (by omega) (by omega)]
    exact beValue_beOctets _ (lt_pow_octetCount (by omega))

end BerWriter

/-! ## Agreement -/

namespace BerSpanReader

/-- The value lies where the offset has come to. -/
theorem tryReadTlvAt_value {source : Bytes} {offset next : Nat} {view : BerTlvView}
    (h : tryReadTlvAt source offset = some (view, next)) :
    next ≤ source.length ∧ offset + view.encodedBytes = next ∧
      view.value = slice source (next - view.value.length) view.value.length := by
  rw [tryReadTlvAt] at h
  split at h
  · cases h
  obtain ⟨⟨tagNumber, cursor⟩, htag, h⟩ := Option.bind_eq_some_iff.mp h
  obtain ⟨⟨length, cursor'⟩, hlength, h⟩ := Option.bind_eq_some_iff.mp h
  have hcursor := readTagNumberAt_bounds htag
  have hcursor' := readLengthAt_bounds hlength
  dsimp only at hcursor' h
  split at h
  · cases h
  · rename_i hfits
    obtain ⟨rfl, rfl⟩ := Prod.mk.inj (Option.some.inj h)
    have hvalue : (slice source cursor' length).length = length := length_slice (by omega)
    refine ⟨by omega, ?_, ?_⟩
    · dsimp only
      omega
    · dsimp only
      rw [hvalue, Nat.add_sub_cancel]

end BerSpanReader

/-- A TLV of the writers, read by both readers. -/
theorem tryReadTlvAt_encodeTlv (tagClass : BerClass) (constructed : Bool) {tagNumber : Nat}
    (htag : tagNumber ≤ 1000000) {value : Bytes} (hlen : value.length ≤ uint32Max) :
    ∃ view, BerSpanReader.tryReadTlvAt
        (BerSpanWriter.encodeTlv tagClass constructed tagNumber value) 0 =
          some (view, (BerSpanWriter.encodeTlv tagClass constructed tagNumber value).length) ∧
      BerReader.tryReadTlvAt (BerSpanWriter.encodeTlv tagClass constructed tagNumber value) 0 =
        (some view.toTlv,
          (BerSpanWriter.encodeTlv tagClass constructed tagNumber value).length) ∧
      view.toTlv = BerReader.writtenTlv tagClass constructed tagNumber value := by
  have hread := (BerReader.readsAs_encodeTlv tagClass constructed htag hlen).exact
  generalize BerSpanWriter.encodeTlv tagClass constructed tagNumber value = octets at hread ⊢
  have hdrop := BerReader.tryReadTlvAt_drop octets 0
  have hfound := BerReader.tryReadTlvAt_found octets 0
  rw [List.drop_zero, hread] at hdrop
  cases hview : BerSpanReader.tryReadTlvAt octets 0 with
  | none =>
    rw [hview] at hfound
    rw [hfound] at hdrop
    cases hdrop
  | some p =>
    obtain ⟨view, next⟩ := p
    rw [hview] at hfound
    rw [hfound] at hdrop
    obtain ⟨htlv, hrest⟩ := Prod.mk.inj (Option.some.inj hdrop)
    have hnext := (BerSpanReader.tryReadTlvAt_value hview).1
    have hall : next = octets.length :=
      Nat.le_antisymm hnext (List.drop_eq_nil_iff.mp hrest)
    rw [hall] at hfound ⊢
    refine ⟨view, rfl, ?_, htlv⟩
    generalize BerReader.tryReadTlvAt octets 0 = result at hfound
    obtain ⟨_ | tlv, offset⟩ := result
    · cases hfound
    · cases hfound
      rfl

/-- **The readers agree and invert the writers**, which agree too. -/
theorem readers_and_writers_agree :
    (∀ (source : Bytes) (offset : Nat),
      BerReader.found (BerReader.tryReadTlvAt source offset) =
          (BerSpanReader.tryReadTlvAt source offset).map (fun p => (p.1.toTlv, p.2)) ∧
        ∀ view next, BerSpanReader.tryReadTlvAt source offset = some (view, next) →
          next ≤ source.length ∧ offset + view.encodedBytes = next ∧
            view.value = slice source (next - view.value.length) view.value.length) ∧
    ∀ (tagClass : BerClass) (constructed : Bool) (tagNumber : Nat) (value : Bytes),
      tagNumber ≤ 1000000 → value.length < 2 ^ 32 →
      ∃ octets, BerWriter.encodeTlv tagClass constructed tagNumber value = .ok octets ∧
        tlvSize tagNumber value.length = some octets.length ∧
        (∀ writer : BerSpanWriter, writer.out.length + octets.length ≤ writer.capacity →
          writer.writeTlv tagClass constructed tagNumber value =
            some { writer with out := writer.out ++ octets }) ∧
        ∃ view, BerSpanReader.tryReadTlvAt octets 0 = some (view, octets.length) ∧
          BerReader.tryReadTlvAt octets 0 = (some view.toTlv, octets.length) ∧
          view.tagClass = tagClass ∧ view.constructed = constructed ∧
          view.tagNumber = tagNumber ∧ view.value = value := by
  constructor
  · intro source offset
    exact ⟨BerReader.tryReadTlvAt_found source offset,
      fun view next h => BerSpanReader.tryReadTlvAt_value h⟩
  · intro tagClass constructed tagNumber value htag hlen
    have hlen' : value.length ≤ uint32Max := by
      rw [uint32Max]
      omega
    refine ⟨_, BerWriter.writeTlv_eq [] tagClass constructed (by omega) hlen', ?_, ?_, ?_⟩
    · rw [tlvSize_eq tagClass constructed tagNumber hlen', List.nil_append,
        BerSpanWriter.encodeTlv, List.length_append]
    · intro writer hroom
      rw [List.nil_append] at hroom ⊢
      have hfit : Fits writer := by
        rw [Fits]
        omega
      exact (writes_writeTlv tagClass constructed tagNumber hlen' writer hfit).trans
        (writeBytes_of_le hroom)
    · obtain ⟨view, hspan, howning, htlv⟩ :=
        tryReadTlvAt_encodeTlv tagClass constructed htag hlen'
      rw [List.nil_append]
      refine ⟨view, hspan, howning, ?_, ?_, ?_, ?_⟩
      · exact congrArg BerTlv.tagClass htlv
      · exact congrArg BerTlv.constructed htlv
      · exact congrArg BerTlv.tagNumber htlv
      · exact congrArg BerTlv.value htlv

/-- A private primitive TLV with a tag of two groups. -/
theorem readers_and_writers_agree_sample :
    ∃ octets, BerWriter.encodeTlv .privateClass false (1000 : Nat) [1, 2] = .ok octets ∧
      octets = [0xDF, 0x87, 0x68, 2, 1, 2] ∧
      ∃ view, BerSpanReader.tryReadTlvAt octets 0 = some (view, 6) ∧ view.tagNumber = 1000 := by
  obtain ⟨octets, hencode, -, -, view, hspan, -, -, -, htag, -⟩ :=
    readers_and_writers_agree.2 .privateClass false 1000 [1, 2] (by decide) (by decide)
  have hoctets : octets = [0xDF, 0x87, 0x68, 2, 1, 2] := Except.ok.inj (hencode.symm.trans rfl)
  subst hoctets
  exact ⟨_, hencode, rfl, view, hspan, htag⟩

end ArStack.Asn1
