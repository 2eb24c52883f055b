import ArStack.Asn1.BerSpanReader
import ArStack.Lib.Throws

/-!
# The owning BER reader

`BerReader` reads as `BerSpanReader` does, into TLVs that own their values, and reads the
children of a constructed value one after the other.

* `tryReadTlv`, `readChildren`
* `readChildren_of_children` — the children are the TLVs that the value consists of
-/

namespace ArStack.Asn1

structure BerTlv where
  encodedTag : UInt8 := 0
  tagClass : BerClass := .universal
  constructed : Bool := false
  tagNumber : Nat := 0
  value : Bytes := []
  deriving DecidableEq

namespace BerReader

def tryReadTlv (source : Bytes) : Option (BerTlv × Bytes) :=
  match BerSpanReader.tryReadTlv source with
  | none => none
  | some (tlv, rest) =>
    some ({ encodedTag := tlv.encodedTag
            tagClass := tlv.tagClass
            constructed := tlv.constructed
            tagNumber := tlv.tagNumber
            value := tlv.value }, rest)

/-- The loop of `read_children`. Every TLV takes an octet, so that the fuel is never used up. -/
def readChildrenFrom : Nat → Nat → Bytes → Except String (List BerTlv)
  | _, _, [] => .ok []
  | 0, _, _ :: _ => .ok []
  | fuel + 1, offset, source =>
    match tryReadTlv source with
    | none => .error s!"Invalid BER TLV at offset {offset}."
    | some (tlv, rest) => do
      let tlvs ← readChildrenFrom fuel (offset + (source.length - rest.length)) rest
      .ok (tlv :: tlvs)

def readChildren (source : Bytes) : Except String (List BerTlv) :=
  readChildrenFrom source.length 0 source

def readUnsignedInteger (tlv : BerTlv) : Option Nat :=
  if tlv.value.length > 8 then none else some (Lib.beValue tlv.value)

/-- The value of an INTEGER of at most eight octets, in two's complement. -/
def readSignedInteger (tlv : BerTlv) : Option Int :=
  if tlv.value.length > 8 then none
  else
    let raw := Lib.beValue tlv.value
    some (if tlv.value.headD 0 &&& 0x80 = 0 then raw else raw - 2 ^ (tlv.value.length * 8))

def readUint32 (tlv : BerTlv) : Option UInt32 :=
  match readUnsignedInteger tlv with
  | none => none
  | some value => if value > uint32Max then none else some (.ofNat value)

def readBoolean (tlv : BerTlv) : Option Bool :=
  if tlv.value.length ≠ 1 then none else some (tlv.value.headD 0 != 0)

/-! ## What is read -/

theorem tryReadTlv_rest_length {source : Bytes} {tlv : BerTlv} {rest : Bytes}
    (h : tryReadTlv source = some (tlv, rest)) : rest.length < source.length := by
  rw [tryReadTlv] at h
  split at h
  · cases h
  · rename_i view rest' heq
    obtain ⟨-, rfl⟩ := Prod.mk.inj (Option.some.inj h)
    exact BerSpanReader.tryReadTlv_rest_length heq

theorem tryReadTlv_value_length {source : Bytes} {tlv : BerTlv} {rest : Bytes}
    (h : tryReadTlv source = some (tlv, rest)) :
    tlv.value.length + rest.length < source.length := by
  rw [tryReadTlv] at h
  split at h
  · cases h
  · rename_i view rest' heq
    obtain ⟨rfl, rfl⟩ := Prod.mk.inj (Option.some.inj h)
    exact BerSpanReader.tryReadTlv_value_length heq

/-- Children are shorter than what they are read from. -/
theorem value_length_of_mem_readChildren {source : Bytes} {tlvs : List BerTlv}
    (h : readChildren source = .ok tlvs) {tlv : BerTlv} (hmem : tlv ∈ tlvs) :
    tlv.value.length < source.length := by
  suffices ∀ (fuel offset : Nat) (rest : Bytes) (tlvs : List BerTlv),
      readChildrenFrom fuel offset rest = .ok tlvs → tlv ∈ tlvs → tlv.value.length < rest.length from
    this _ _ _ _ h hmem
  clear h hmem tlvs
  intro fuel
  induction fuel with
  | zero =>
    intro offset rest tlvs h hmem
    cases rest <;> cases h <;> cases hmem
  | succ fuel ih =>
    intro offset rest tlvs h hmem
    cases rest with
    | nil =>
      cases h
      cases hmem
    | cons octet rest =>
      rw [readChildrenFrom] at h
      · split at h
        · cases h
        · rename_i first after heq
          obtain ⟨others, hothers, h⟩ := Lib.except_bind_ok h
          cases h
          have hlt := tryReadTlv_value_length heq
          rcases List.mem_cons.mp hmem with rfl | hmem
          · omega
          · have := ih _ _ _ hothers hmem
            omega
      · exact fun hnil => absurd hnil (List.cons_ne_nil _ _)

/-- The TLVs that the octets consist of. -/
inductive Children : Bytes → List BerTlv → Prop where
  | nil : Children [] []
  | cons {source rest : Bytes} {tlv : BerTlv} {tlvs : List BerTlv} :
    tryReadTlv source = some (tlv, rest) → Children rest tlvs → Children source (tlv :: tlvs)

theorem readChildrenFrom_of_children {source : Bytes} {tlvs : List BerTlv}
    (h : Children source tlvs) (fuel offset : Nat) (hfuel : source.length ≤ fuel) :
    readChildrenFrom fuel offset source = .ok tlvs := by
  induction h generalizing fuel offset with
  | nil => cases fuel <;> rfl
  | @cons source rest tlv tlvs hread _ ih =>
    have hlt := tryReadTlv_rest_length hread
    cases fuel with
    | zero => omega
    | succ fuel =>
      cases source with
      | nil => simp at hlt
      | cons octet source =>
        rw [readChildrenFrom]
        · simp only [hread, ih fuel _ (by omega)]
          rfl
        · exact nofun

/-- **The children of a value.** -/
theorem readChildren_of_children {source : Bytes} {tlvs : List BerTlv}
    (h : Children source tlvs) : readChildren source = .ok tlvs :=
  readChildrenFrom_of_children h _ _ (Nat.le_refl _)

end BerReader

end ArStack.Asn1
