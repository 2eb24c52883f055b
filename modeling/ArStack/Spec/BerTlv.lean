import ArStack.Asn1.BerReader
import ArStack.Asn1.BerSpanWriter

/-!
# What is written is what is read

* `Writes` — an encoder step as the octets it writes
* `ReadsAs` — octets that are read as a TLV, whatever follows them
* `readsAs_encodeTlv` — the writer's TLVs
* `children_flatten` — one TLV after the other
-/

namespace ArStack.Asn1

open ArStack.Lib

namespace BerSpanWriter

/-! ## Writing -/

/-- The step writes these octets if there is room for them, and fails otherwise. -/
def Writes (f : BerSpanWriter → Option BerSpanWriter) (octets : Bytes) : Prop :=
  ∀ writer, Fits writer → f writer = writer.writeBytes octets

theorem writes_some : Writes some [] := by
  intro writer hfit
  rw [writeBytes_of_le (by simpa [Fits] using hfit), List.append_nil]

theorem writes_writeBytes (octets : Bytes) : Writes (writeBytes · octets) octets :=
  fun _ _ => rfl

theorem writes_writeTlvHeader (tagClass : BerClass) (constructed : Bool) (tagNumber : Nat)
    {valueLength : Nat} (h : valueLength ≤ uint32Max) :
    Writes (writeTlvHeader · tagClass constructed tagNumber valueLength)
      (tlvHeader tagClass constructed tagNumber valueLength) :=
  fun _ hfit => writeTlvHeader_eq hfit tagClass constructed tagNumber h

theorem Writes.bind {f g : BerSpanWriter → Option BerSpanWriter} {a b : Bytes}
    (hf : Writes f a) (hg : Writes g b) : Writes (fun writer => (f writer).bind g) (a ++ b) := by
  intro writer hfit
  dsimp only
  rw [← writeBytes_bind _ _ _ hfit, hf writer hfit]
  cases h : writer.writeBytes a with
  | none => rfl
  | some writer' => exact hg writer' (writeBytes_fits hfit h)

theorem Writes.foldlM {α : Type} {f : BerSpanWriter → α → Option BerSpanWriter} {g : α → Bytes}
    {xs : List α} (hf : ∀ x ∈ xs, Writes (f · x) (g x)) :
    Writes (xs.foldlM f ·) (xs.map g).flatten := by
  induction xs with
  | nil => exact writes_some
  | cons x xs ih =>
    rw [List.map_cons, List.flatten_cons]
    exact (hf x List.mem_cons_self).bind (ih fun y hy => hf y (List.mem_cons_of_mem x hy))

/-- A TLV as the writer writes it. -/
def encodeTlv (tagClass : BerClass) (constructed : Bool) (tagNumber : Nat) (value : Bytes) : Bytes :=
  tlvHeader tagClass constructed tagNumber value.length ++ value

theorem writes_writeTlv (tagClass : BerClass) (constructed : Bool) (tagNumber : Nat) {value : Bytes}
    (h : value.length ≤ uint32Max) :
    Writes (writeTlv · tagClass constructed tagNumber value)
      (encodeTlv tagClass constructed tagNumber value) :=
  (writes_writeTlvHeader tagClass constructed tagNumber h).bind (writes_writeBytes value)

end BerSpanWriter

open BerSpanWriter

/-! ## Reading -/

theorem div_lt_pow {b w n : Nat} (h : n < b ^ (w + 1)) : n / b < b ^ w :=
  Nat.div_lt_of_lt_mul (by rwa [Nat.mul_comm, ← Nat.pow_succ])

theorem shiftLeft_or (n : Nat) {g : Nat} (h : g < 128) : n <<< 7 ||| g = n * 128 + g := by
  rw [← Nat.shiftLeft_add_eq_or_of_lt (by omega), Nat.shiftLeft_eq]

/-- The groups of a tag number with and without the continuation bit. -/
theorem group_bits : ∀ g : Fin 128,
    (UInt8.ofNat g &&& 0x80 = 0 ∧ (UInt8.ofNat g &&& 0x7F).toNat = g) ∧
    (UInt8.ofNat g ||| 0x80) &&& 0x80 ≠ 0 ∧ ((UInt8.ofNat g ||| 0x80) &&& 0x7F).toNat = g := by
  decide

/-- The leading groups of a high tag number are read back. -/
theorem readHighTag_groups {fuel m : Nat} (hpos : m ≠ 0) (hfuel : m < 128 ^ fuel)
    (hlimit : m ≤ 1000000 >>> 7) (rest : Bytes) :
    BerSpanReader.readHighTag 0 ((tagGroups fuel m).reverse.map (· ||| 0x80) ++ rest) =
      BerSpanReader.readHighTag m rest := by
  induction fuel generalizing m rest with
  | zero => omega
  | succ fuel ih =>
    have hshift : m >>> 7 = m / 128 := Nat.shiftRight_eq_div_pow m 7
    have hmillion : 1000000 >>> 7 = 7812 := rfl
    obtain ⟨-, hmore, hvalue⟩ := group_bits ⟨m % 128, by omega⟩
    have hnext (n : Nat) (hn : n * 128 + m % 128 = m) :
        BerSpanReader.readHighTag n ((UInt8.ofNat (m % 0x80) ||| 0x80) :: rest) =
          BerSpanReader.readHighTag m rest := by
      rw [BerSpanReader.readHighTag, if_neg (by omega)]
      dsimp only
      rw [hvalue, shiftLeft_or n (by omega), hn, if_neg (by omega), if_neg hmore]
    rw [tagGroups, List.reverse_cons, List.map_append, List.map_singleton, List.append_assoc,
      List.singleton_append]
    split
    · exact hnext 0 (by omega)
    · rename_i hhigh
      have hlt : m >>> 7 < 128 ^ fuel := by
        rw [hshift]
        exact div_lt_pow hfuel
      rw [ih hhigh hlt (by omega)]
      exact hnext _ (by omega)

/-- The identifier octets of a tag number that the readers accept. -/
theorem identifier_bits (tagClass : BerClass) (constructed : Bool) {tagNumber : Nat}
    (h : tagNumber ≤ 1000000) : ∃ (tag : UInt8) (groups : Bytes),
      identifier tagClass constructed tagNumber = tag :: groups ∧
      (∀ rest, BerSpanReader.readTagNumber tag (groups ++ rest) = some (tagNumber, rest)) ∧
      BerClass.ofTag tag = tagClass ∧ (tag &&& 0x20 != 0) = constructed := by
  have hbits : ∀ (constructed : Bool) (n : Fin 32),
      let tag := tagClass.toUInt8 <<< 6 ||| (if constructed then 0x20 else 0) ||| UInt8.ofNat n
      (tag &&& 0x1F).toNat = n ∧ BerClass.ofTag tag = tagClass ∧
        (tag &&& 0x20 != 0) = constructed := by
    cases tagClass <;> decide
  rw [identifier]
  split
  · rename_i hlow
    obtain ⟨hnumber, hclass, hconstructed⟩ := hbits constructed ⟨tagNumber, by omega⟩
    refine ⟨_, [], rfl, fun rest => ?_, hclass, hconstructed⟩
    rw [BerSpanReader.readTagNumber, if_neg, hnumber, List.nil_append]
    intro hall
    rw [hall] at hnumber
    change 31 = tagNumber at hnumber
    omega
  · rename_i hhigh
    obtain ⟨hnumber, hclass, hconstructed⟩ := hbits constructed ⟨31, by omega⟩
    refine ⟨_, ((tagGroups 5 tagNumber).drop 1).reverse.map (· ||| 0x80) ++
      (tagGroups 5 tagNumber).take 1, rfl, fun rest => ?_, hclass, hconstructed⟩
    have hshift : tagNumber >>> 7 = tagNumber / 128 := Nat.shiftRight_eq_div_pow tagNumber 7
    have hmillion : 1000000 >>> 7 = 7812 := rfl
    obtain ⟨⟨hlast, hvalue⟩, -⟩ := group_bits ⟨tagNumber % 128, by omega⟩
    have hnext (n : Nat) (hn : n * 128 + tagNumber % 128 = tagNumber) :
        BerSpanReader.readHighTag n (UInt8.ofNat (tagNumber % 0x80) :: rest) =
          some (tagNumber, rest) := by
      rw [BerSpanReader.readHighTag, if_neg (by omega)]
      dsimp only
      rw [hvalue, shiftLeft_or n (by omega), hn, if_neg (by omega), if_pos hlast]
    rw [BerSpanReader.readTagNumber, if_pos (UInt8.toNat_inj.mp hnumber), tagGroups,
      List.drop_one, List.tail_cons, List.take_one, List.head?_cons, Option.toList_some,
      List.append_assoc, List.singleton_append]
    split
    · exact hnext 0 (by omega)
    · rename_i hgroups
      rw [readHighTag_groups hgroups (by omega) (by omega)]
      exact hnext _ (by omega)

theorem octetCount_le (fuel value : Nat) : octetCount fuel value ≤ fuel := by
  induction fuel generalizing value with
  | zero => exact Nat.le_refl _
  | succ fuel ih =>
    rw [octetCount]
    split
    · omega
    · have := ih (value >>> 8)
      omega

theorem lt_pow_octetCount {fuel value : Nat} (h : value < 256 ^ fuel) :
    value < 256 ^ octetCount fuel value := by
  induction fuel generalizing value with
  | zero => exact h
  | succ fuel ih =>
    rw [octetCount]
    split
    · omega
    · have hdiv : value >>> 8 = value / 256 := Nat.shiftRight_eq_div_pow value 8
      have hrest := ih (hdiv ▸ div_lt_pow h)
      rw [hdiv] at hrest ⊢
      rw [Nat.add_comm 1, Nat.pow_succ]
      omega

namespace BerSpanReader

/-- The length octets are read back. -/
theorem readLength_lengthField {length : Nat} (h : length ≤ uint32Max) (rest : Bytes) :
    readLength (lengthField length ++ rest) = some (length, rest) := by
  rw [lengthField]
  split
  · rename_i hshort
    have hbit : ∀ n : Fin 128, UInt8.ofNat n &&& 0x80 = 0 ∧ (UInt8.ofNat n).toNat = n := by decide
    obtain ⟨hclear, hvalue⟩ := hbit ⟨length, hshort⟩
    show (if UInt8.ofNat length &&& 0x80 = 0 then some ((UInt8.ofNat length).toNat, rest) else _) = _
    rw [if_pos hclear, hvalue]
  · rename_i hlong
    have hcount : ∀ n : Fin 5, (0x80 ||| UInt8.ofNat n) &&& 0x80 ≠ 0 ∧
        ((0x80 ||| UInt8.ofNat n) &&& 0x7F).toNat = n := by decide
    have hle := octetCount_le 4 length
    have hlt : length < 256 ^ octetCount 4 length := by
      refine lt_pow_octetCount ?_
      rw [uint32Max] at h
      omega
    have hne : octetCount 4 length ≠ 0 := fun hzero => by
      rw [hzero] at hlt
      omega
    obtain ⟨hset, hvalue⟩ := hcount ⟨octetCount 4 length, by omega⟩
    dsimp only at hset hvalue ⊢
    rw [List.cons_append, readLength, if_neg hset]
    dsimp only
    rw [hvalue, if_neg, List.take_left' (length_beOctets _ _), List.drop_left' (length_beOctets _ _),
      beValue_beOctets _ hlt]
    rw [List.length_append, length_beOctets]
    omega

theorem readHighTag_append {tagNumber n : Nat} {source rest : Bytes}
    (h : readHighTag tagNumber source = some (n, rest)) (more : Bytes) :
    readHighTag tagNumber (source ++ more) = some (n, rest ++ more) := by
  induction source generalizing tagNumber with
  | nil => cases h
  | cons byte source ih =>
    rw [List.cons_append, readHighTag]
    rw [readHighTag] at h
    split at h
    · cases h
    rename_i hsmall
    rw [if_neg hsmall]
    dsimp only at h ⊢
    split at h
    · cases h
    rename_i hlimit
    rw [if_neg hlimit]
    split at h
    · rename_i hlast
      obtain ⟨rfl, rfl⟩ := Prod.mk.inj (Option.some.inj h)
      rw [if_pos hlast]
    · rename_i hmore
      rw [if_neg hmore]
      exact ih h

theorem readTagNumber_append {encodedTag : UInt8} {n : Nat} {source rest : Bytes}
    (h : readTagNumber encodedTag source = some (n, rest)) (more : Bytes) :
    readTagNumber encodedTag (source ++ more) = some (n, rest ++ more) := by
  rw [readTagNumber] at h ⊢
  split at h
  · rename_i hhigh
    rw [if_pos hhigh]
    exact readHighTag_append h more
  · rename_i hlow
    rw [if_neg hlow]
    obtain ⟨rfl, rfl⟩ := Prod.mk.inj (Option.some.inj h)
    rfl

theorem readLength_append {n : Nat} {source rest : Bytes} (h : readLength source = some (n, rest))
    (more : Bytes) : readLength (source ++ more) = some (n, rest ++ more) := by
  cases source with
  | nil => cases h
  | cons byte source =>
    rw [List.cons_append, readLength]
    rw [readLength] at h
    split at h
    · rename_i hshort
      rw [if_pos hshort]
      obtain ⟨rfl, rfl⟩ := Prod.mk.inj (Option.some.inj h)
      rfl
    · rename_i hlong
      rw [if_neg hlong]
      dsimp only at h ⊢
      split at h
      · cases h
      · rename_i hcount
        obtain ⟨rfl, rfl⟩ := Prod.mk.inj (Option.some.inj h)
        rw [if_neg, List.take_append_of_le_length (by omega),
          List.drop_append_of_le_length (by omega)]
        rw [List.length_append]
        omega

end BerSpanReader

namespace BerReader

/-- The octets are read as the TLV, whatever follows them. -/
def ReadsAs (octets : Bytes) (tlv : BerTlv) : Prop :=
  ∀ rest, tryReadTlv (octets ++ rest) = some (tlv, rest)

/-- What a TLV of the writer is read as. -/
def writtenTlv (tagClass : BerClass) (constructed : Bool) (tagNumber : Nat) (value : Bytes) :
    BerTlv where
  encodedTag := (identifier tagClass constructed tagNumber).headD 0
  tagClass
  constructed
  tagNumber
  value

/-- **The TLVs of the writer are read back.** -/
theorem readsAs_encodeTlv (tagClass : BerClass) (constructed : Bool) {tagNumber : Nat}
    {value : Bytes} (htag : tagNumber ≤ 1000000) (hlen : value.length ≤ uint32Max) :
    ReadsAs (encodeTlv tagClass constructed tagNumber value)
      (writtenTlv tagClass constructed tagNumber value) := by
  intro rest
  obtain ⟨tag, groups, hidentifier, hnumber, hclass, hconstructed⟩ :=
    identifier_bits tagClass constructed htag
  rw [encodeTlv, tlvHeader, writtenTlv, hidentifier, List.cons_append, List.cons_append,
    List.cons_append, List.append_assoc, List.append_assoc, tryReadTlv, BerSpanReader.tryReadTlv,
    hnumber]
  simp only [Option.bind_eq_bind, Option.bind_some, BerSpanReader.readLength_lengthField hlen,
    List.take_left, List.drop_left, hclass, hconstructed]
  rw [if_neg (by rw [List.length_append]; omega)]
  rfl

theorem ReadsAs.exact {octets : Bytes} {tlv : BerTlv} (h : ReadsAs octets tlv) :
    tryReadTlv octets = some (tlv, []) := by
  have hread := h []
  rwa [List.append_nil] at hread

/-- **One TLV after the other.** -/
theorem children_flatten {items : List Bytes} {tlvs : List BerTlv}
    (h : List.Forall₂ ReadsAs items tlvs) : Children items.flatten tlvs := by
  induction h with
  | nil => exact .nil
  | cons hread _ ih => exact .cons (hread _) ih

end BerReader

end ArStack.Asn1
