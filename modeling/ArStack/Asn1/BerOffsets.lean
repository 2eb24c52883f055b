import ArStack.Asn1.BerReader

/-!
# Reading at an offset

Both readers take an offset into their source. `BerSpanReader` moves a cursor of its own and sets
the offset when it succeeds; `BerReader` moves the offset itself, so that it is somewhere else after
a failure, too.

* `BerSpanReader.tryReadTlvAt`, `BerReader.tryReadTlvAt`
* `tryReadTlvAt_drop` — they read what is left of the source
-/

namespace ArStack.Asn1

open ArStack.Lib

namespace BerSpanReader

/-- The loop over the groups of a high tag number, from the cursor on. -/
def readHighTagAt (source : Bytes) : Nat → Nat → Nat → Option (Nat × Nat)
  | 0, _, _ => none
  | fuel + 1, cursor, tagNumber =>
    match source[cursor]? with
    | none => none
    | some byte =>
      if tagNumber > 1000000 >>> 7 then none
      else
        let next := tagNumber <<< 7 ||| (byte &&& 0x7F).toNat
        if next > 1000000 then none
        else if byte &&& 0x80 = 0 then some (next, cursor + 1)
        else readHighTagAt source fuel (cursor + 1) next

/-- The tag number, from behind the identifier octet on. -/
def readTagNumberAt (source : Bytes) (encodedTag : UInt8) (cursor : Nat) : Option (Nat × Nat) :=
  if encodedTag &&& 0x1F = 0x1F then readHighTagAt source (source.length - cursor) cursor 0
  else some ((encodedTag &&& 0x1F).toNat, cursor)

def readLengthAt (source : Bytes) (cursor : Nat) : Option (Nat × Nat) :=
  match source[cursor]? with
  | none => none
  | some lengthByte =>
    let cursor := cursor + 1
    if lengthByte &&& 0x80 = 0 then some (lengthByte.toNat, cursor)
    else
      let lengthBytes := (lengthByte &&& 0x7F).toNat
      if lengthBytes = 0 ∨ lengthBytes > 4 ∨ lengthBytes > source.length - cursor then none
      else some (beValue (slice source cursor lengthBytes), cursor + lengthBytes)

/-- `try_read_tlv`: the TLV and the new offset. -/
def tryReadTlvAt (source : Bytes) (offset : Nat) : Option (BerTlvView × Nat) :=
  match source[offset]? with
  | none => none
  | some encodedTag => do
    let (tagNumber, cursor) ← readTagNumberAt source encodedTag (offset + 1)
    let (length, cursor) ← readLengthAt source cursor
    if length > source.length - cursor then none
    else
      let headerBytes := cursor - offset
      some ({ encodedTag
              tagClass := .ofTag encodedTag
              constructed := encodedTag &&& 0x20 != 0
              tagNumber
              headerBytes
              encodedBytes := headerBytes + length
              value := slice source cursor length }, cursor + length)

end BerSpanReader

namespace BerReader

/-- The loop over the groups of a high tag number. The offset is where the loop has come to. -/
def readHighTagAt (source : Bytes) : Nat → Nat → Nat → Option Nat × Nat
  | 0, offset, _ => (none, offset)
  | fuel + 1, offset, tagNumber =>
    match source[offset]? with
    | none => (none, offset)
    | some byte =>
      if tagNumber > 1000000 >>> 7 then (none, offset + 1)
      else
        let next := tagNumber <<< 7 ||| (byte &&& 0x7F).toNat
        if next > 1000000 then (none, offset + 1)
        else if byte &&& 0x80 = 0 then (some next, offset + 1)
        else readHighTagAt source fuel (offset + 1) next

def readTagNumberAt (source : Bytes) (encodedTag : UInt8) (offset : Nat) : Option Nat × Nat :=
  if encodedTag &&& 0x1F = 0x1F then readHighTagAt source (source.length - offset) offset 0
  else (some (encodedTag &&& 0x1F).toNat, offset)

/-- The loop over `count` length octets. -/
def readLengthOctetsAt (source : Bytes) : Nat → Nat → Nat → Nat × Nat
  | 0, offset, length => (length, offset)
  | count + 1, offset, length =>
    readLengthOctetsAt source count (offset + 1) (length <<< 8 ||| (source.getD offset 0).toNat)

def readLengthAt (source : Bytes) (offset : Nat) : Option Nat × Nat :=
  match source[offset]? with
  | none => (none, offset)
  | some lengthByte =>
    let offset := offset + 1
    if lengthByte &&& 0x80 = 0 then (some lengthByte.toNat, offset)
    else
      let lengthBytes := (lengthByte &&& 0x7F).toNat
      if lengthBytes = 0 ∨ lengthBytes > 4 ∨ offset + lengthBytes > source.length then
        (none, offset)
      else
        let (length, offset) := readLengthOctetsAt source lengthBytes offset 0
        (some length, offset)

/-- `try_read_tlv`: the TLV, if there is one, and the offset after the call. -/
def tryReadTlvAt (source : Bytes) (offset : Nat) : Option BerTlv × Nat :=
  match source[offset]? with
  | none => (none, offset)
  | some encodedTag =>
    match readTagNumberAt source encodedTag (offset + 1) with
    | (none, offset) => (none, offset)
    | (some tagNumber, offset) =>
      match readLengthAt source offset with
      | (none, offset) => (none, offset)
      | (some length, offset) =>
        if length > source.length - offset then (none, offset)
        else
          (some {
              encodedTag
              tagClass := .ofTag encodedTag
              constructed := encodedTag &&& 0x20 != 0
              tagNumber
              value := slice source offset length }, offset + length)

end BerReader

/-! ## What is left of the source -/

namespace BerSpanReader

variable {source : Bytes}

theorem drop_of_getElem?_eq_none {cursor : Nat} (h : source[cursor]? = none) :
    source.drop cursor = [] := List.drop_of_length_le (List.getElem?_eq_none_iff.mp h)

theorem drop_of_getElem?_eq_some {cursor : Nat} {octet : UInt8} (h : source[cursor]? = some octet) :
    source.drop cursor = octet :: source.drop (cursor + 1) := by
  obtain ⟨hlt, rfl⟩ := List.getElem?_eq_some_iff.mp h
  exact List.drop_eq_getElem_cons hlt

theorem readHighTagAt_drop (fuel cursor tagNumber : Nat) (hfuel : source.length - cursor ≤ fuel) :
    (readHighTagAt source fuel cursor tagNumber).map (fun p => (p.1, source.drop p.2)) =
      readHighTag tagNumber (source.drop cursor) := by
  induction fuel generalizing cursor tagNumber with
  | zero =>
    rw [List.drop_of_length_le (by omega)]
    rfl
  | succ fuel ih =>
    rw [readHighTagAt]
    cases hbyte : source[cursor]? with
    | none =>
      rw [drop_of_getElem?_eq_none hbyte]
      rfl
    | some byte =>
      rw [drop_of_getElem?_eq_some hbyte, readHighTag]
      dsimp only
      split
      · rfl
      split
      · rfl
      split
      · rfl
      · exact ih (cursor + 1) _ (by omega)

theorem readTagNumberAt_drop (encodedTag : UInt8) (cursor : Nat) :
    (readTagNumberAt source encodedTag cursor).map (fun p => (p.1, source.drop p.2)) =
      readTagNumber encodedTag (source.drop cursor) := by
  rw [readTagNumberAt, readTagNumber]
  split
  · exact readHighTagAt_drop _ _ _ (Nat.le_refl _)
  · rfl

theorem readLengthAt_drop (cursor : Nat) :
    (readLengthAt source cursor).map (fun p => (p.1, source.drop p.2)) =
      readLength (source.drop cursor) := by
  rw [readLengthAt]
  cases hbyte : source[cursor]? with
  | none =>
    rw [drop_of_getElem?_eq_none hbyte]
    rfl
  | some byte =>
    rw [drop_of_getElem?_eq_some hbyte, readLength]
    dsimp only
    rw [List.length_drop]
    split
    · rfl
    split
    · rfl
    · rw [Option.map_some, List.drop_drop]
      rfl

theorem readHighTagAt_bounds {fuel cursor tagNumber n cursor' : Nat}
    (h : readHighTagAt source fuel cursor tagNumber = some (n, cursor')) : cursor ≤ cursor' := by
  induction fuel generalizing cursor tagNumber with
  | zero => cases h
  | succ fuel ih =>
    rw [readHighTagAt] at h
    split at h
    · cases h
    dsimp only at h
    split at h
    · cases h
    split at h
    · cases h
    split at h
    · cases h
      omega
    · have := ih h
      omega

theorem readTagNumberAt_bounds {encodedTag : UInt8} {cursor n cursor' : Nat}
    (h : readTagNumberAt source encodedTag cursor = some (n, cursor')) : cursor ≤ cursor' := by
  rw [readTagNumberAt] at h
  split at h
  · exact readHighTagAt_bounds h
  · cases h
    exact Nat.le_refl _

theorem readLengthAt_bounds {cursor length cursor' : Nat}
    (h : readLengthAt source cursor = some (length, cursor')) :
    cursor < cursor' ∧ cursor' ≤ source.length := by
  rw [readLengthAt] at h
  split at h
  · cases h
  rename_i byte hbyte
  obtain ⟨hlt, -⟩ := List.getElem?_eq_some_iff.mp hbyte
  dsimp only at h
  split at h
  · cases h
    omega
  split at h
  · cases h
  · cases h
    omega

/-- **Reading at an offset is reading what is left of the source.** -/
theorem tryReadTlvAt_drop (offset : Nat) :
    (tryReadTlvAt source offset).map (fun p => (p.1, source.drop p.2)) =
      tryReadTlv (source.drop offset) := by
  rw [tryReadTlvAt]
  cases hbyte : source[offset]? with
  | none =>
    rw [drop_of_getElem?_eq_none hbyte]
    rfl
  | some encodedTag =>
    obtain ⟨hlt, -⟩ := List.getElem?_eq_some_iff.mp hbyte
    rw [drop_of_getElem?_eq_some hbyte, tryReadTlv]
    dsimp only [Option.bind_eq_bind]
    rw [← readTagNumberAt_drop]
    cases htag : readTagNumberAt source encodedTag (offset + 1) with
    | none => rfl
    | some p =>
      obtain ⟨tagNumber, cursor⟩ := p
      have hcursor := readTagNumberAt_bounds htag
      rw [Option.map_some, Option.bind_some, Option.bind_some, ← readLengthAt_drop]
      cases hlength : readLengthAt source cursor with
      | none => rfl
      | some p =>
        obtain ⟨length, cursor'⟩ := p
        have hbounds := readLengthAt_bounds hlength
        rw [Option.map_some, Option.bind_some, Option.bind_some]
        dsimp only
        have hheader : (source.drop (offset + 1)).length + 1 - (source.drop cursor').length =
            cursor' - offset := by
          rw [List.length_drop, List.length_drop]
          omega
        rw [hheader, List.length_drop]
        split
        · rfl
        · rw [Option.map_some, List.drop_drop]
          rfl

end BerSpanReader

namespace BerReader

variable {source : Bytes}

/-- A result and the offset behind it. -/
def found {α : Type} (result : Option α × Nat) : Option (α × Nat) := result.1.map (·, result.2)

theorem readHighTagAt_found (fuel offset tagNumber : Nat) :
    found (readHighTagAt source fuel offset tagNumber) =
      BerSpanReader.readHighTagAt source fuel offset tagNumber := by
  induction fuel generalizing offset tagNumber with
  | zero => rfl
  | succ fuel ih =>
    rw [readHighTagAt, BerSpanReader.readHighTagAt]
    split
    · rfl
    dsimp only
    split
    · rfl
    split
    · rfl
    split
    · rfl
    · exact ih (offset + 1) _

theorem readTagNumberAt_found (encodedTag : UInt8) (offset : Nat) :
    found (readTagNumberAt source encodedTag offset) =
      BerSpanReader.readTagNumberAt source encodedTag offset := by
  rw [readTagNumberAt, BerSpanReader.readTagNumberAt]
  split
  · exact readHighTagAt_found _ _ _
  · rfl

theorem readLengthOctetsAt_eq {count offset : Nat} (h : offset + count ≤ source.length)
    (octets : Bytes) :
    readLengthOctetsAt source count offset (beValue octets) =
      (beValue (octets ++ slice source offset count), offset + count) := by
  induction count generalizing offset octets with
  | zero => rw [slice, List.take_zero, List.append_nil, readLengthOctetsAt, Nat.add_zero]
  | succ count ih =>
    have hlt : offset < source.length := by omega
    have hnext : beValue octets <<< 8 ||| (source.getD offset 0).toNat =
        beValue (octets ++ [source[offset]]) := by
      rw [beValue, beValue, List.foldl_append, List.getD_eq_getElem?_getD,
        List.getElem?_eq_getElem hlt]
      rfl
    have hslice : slice source offset (count + 1) =
        source[offset] :: slice source (offset + 1) count := by
      rw [slice, List.drop_eq_getElem_cons hlt, List.take_succ_cons, slice]
    rw [readLengthOctetsAt, hnext, ih (by omega), hslice, List.append_assoc, List.singleton_append,
      Nat.add_right_comm, Nat.add_assoc]

theorem readLengthAt_found (offset : Nat) :
    found (readLengthAt source offset) = BerSpanReader.readLengthAt source offset := by
  rw [readLengthAt, BerSpanReader.readLengthAt]
  cases hbyte : source[offset]? with
  | none => rfl
  | some lengthByte =>
    obtain ⟨hlt, -⟩ := List.getElem?_eq_some_iff.mp hbyte
    dsimp only
    split
    · rfl
    by_cases hbad : (lengthByte &&& 0x7F).toNat = 0 ∨ (lengthByte &&& 0x7F).toNat > 4 ∨
        offset + 1 + (lengthByte &&& 0x7F).toNat > source.length
    · rw [if_pos hbad, if_pos (by omega)]
      rfl
    · rw [if_neg hbad, if_neg (by omega)]
      have hfits : offset + 1 + (lengthByte &&& 0x7F).toNat ≤ source.length := by omega
      have hoctets := readLengthOctetsAt_eq hfits []
      rw [beValue_nil, List.nil_append] at hoctets
      rw [hoctets]
      rfl

end BerReader

/-- What the owning reader keeps of a view. -/
def BerTlvView.toTlv (view : BerTlvView) : BerTlv where
  encodedTag := view.encodedTag
  tagClass := view.tagClass
  constructed := view.constructed
  tagNumber := view.tagNumber
  value := view.value

namespace BerReader

/-- **The two readers succeed on the same inputs, with the same TLV and the same new offset.** -/
theorem tryReadTlvAt_found (source : Bytes) (offset : Nat) :
    found (tryReadTlvAt source offset) =
      (BerSpanReader.tryReadTlvAt source offset).map fun p => (p.1.toTlv, p.2) := by
  rw [tryReadTlvAt, BerSpanReader.tryReadTlvAt]
  split
  · rfl
  rename_i encodedTag _
  dsimp only [Option.bind_eq_bind]
  rw [← readTagNumberAt_found]
  generalize readTagNumberAt source encodedTag (offset + 1) = tag
  obtain ⟨_ | tagNumber, cursor⟩ := tag
  · rfl
  dsimp only [found, Option.map_some, Option.bind_some]
  rw [← readLengthAt_found]
  generalize readLengthAt source cursor = length
  obtain ⟨_ | length, cursor'⟩ := length
  · rfl
  dsimp only [found, Option.map_some, Option.bind_some]
  split
  · rfl
  · rfl

/-- The owning reader reads what is left of the source. -/
theorem tryReadTlvAt_drop (source : Bytes) (offset : Nat) :
    (found (tryReadTlvAt source offset)).map (fun p => (p.1, source.drop p.2)) =
      tryReadTlv (source.drop offset) := by
  rw [tryReadTlvAt_found, Option.map_map, tryReadTlv, ← BerSpanReader.tryReadTlvAt_drop]
  cases BerSpanReader.tryReadTlvAt source offset with
  | none => rfl
  | some p => rfl

end BerReader

end ArStack.Asn1
