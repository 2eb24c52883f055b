import Mathlib.Data.Nat.Bitwise
import ArStack.Lib.Throws
import ArStack.Wire

/-!
# Ethernet frames

Frames with at most one VLAN tag, and the header that the process bus protocols share.

* `VlanTag.toTagControlInformation`, `fromTagControlInformation`
* `EthernetFrameCodec.encode`, `tryDecode`, `ProcessBusFrameCodec.encodeEthernetFrame`, `tryDecode`
-/

namespace ArStack.Ethernet

open ArStack.Lib

def vlanTagEthertype : UInt16 := 0x8100

def gooseEthertype : UInt16 := 0x88B8

def sampledValuesEthertype : UInt16 := 0x88BA

def maximumVlanId : UInt16 := 4094

def maximumVlanPriority : UInt8 := 7

def isValidVlanId (vlanId : UInt16) : Bool := vlanId ≤ maximumVlanId

def isValidVlanPriority (priority : UInt8) : Bool := priority ≤ maximumVlanPriority

def readU16Be (source : Bytes) (offset : Nat) : UInt16 := .ofNat (readAt source offset 2)

/-- The octets that `write_u16_be` stores. -/
def u16Be (value : UInt16) : Bytes := beOctets 2 value.toNat

abbrev MacAddress := OctetArray 6

structure VlanTag where
  priorityCodePoint : UInt8 := 0
  dropEligible : Bool := false
  vlanId : UInt16 := 0
  deriving DecidableEq

namespace VlanTag

def Valid (vlan : VlanTag) : Prop :=
  isValidVlanPriority vlan.priorityCodePoint ∧ isValidVlanId vlan.vlanId

instance (vlan : VlanTag) : Decidable vlan.Valid := inferInstanceAs (Decidable (_ ∧ _))

/-- The control information, as the encoders compute it for a valid tag. -/
def tci (vlan : VlanTag) : UInt16 :=
  .ofNat (vlan.priorityCodePoint.toNat <<< 13 ||| (if vlan.dropEligible then 0x1000 else 0) |||
    vlan.vlanId.toNat)

def toTagControlInformation (vlan : VlanTag) : Except String UInt16 :=
  if !isValidVlanPriority vlan.priorityCodePoint then .error "VLAN priority must be 0..7."
  else if !isValidVlanId vlan.vlanId then .error "VLAN ID must be 0..4094."
  else .ok vlan.tci

def fromTagControlInformation (tci : UInt16) : VlanTag where
  priorityCodePoint := .ofNat (tci.toNat >>> 13 &&& 0x07)
  dropEligible := tci.toNat &&& 0x1000 != 0
  vlanId := .ofNat (tci.toNat &&& 0x0FFF)

end VlanTag

structure EthernetFrame where
  destination : MacAddress
  source : MacAddress
  etherType : UInt16
  vlan : Option VlanTag
  payload : Bytes
  deriving DecidableEq

namespace EthernetFrameCodec

def encode (frame : EthernetFrame) : Except String Bytes :=
  let addresses := frame.destination.octets ++ frame.source.octets
  match frame.vlan with
  | none => .ok (addresses ++ u16Be frame.etherType ++ frame.payload)
  | some vlan => do
    let tci ← vlan.toTagControlInformation
    .ok (addresses ++ u16Be vlanTagEthertype ++ u16Be tci ++ u16Be frame.etherType ++
      frame.payload)

def tryDecode (bytes : Bytes) : Option EthernetFrame :=
  if bytes.length < 14 then none
  else
    match OctetArray.ofSpan 6 (bytes.take 6), OctetArray.ofSpan 6 ((bytes.drop 6).take 6) with
    | some destination, some source =>
      let etherType := readU16Be bytes 12
      if etherType = vlanTagEthertype then
        if bytes.length < 18 then none
        else
          let decodedVlan := VlanTag.fromTagControlInformation (readU16Be bytes 14)
          -- VID 4095 is reserved, so that a decoded tag can always be encoded.
          if !isValidVlanId decodedVlan.vlanId then none
          else
            some { destination, source, etherType := readU16Be bytes 16, vlan := some decodedVlan
                   payload := bytes.drop 18 }
      else some { destination, source, etherType, vlan := none, payload := bytes.drop 14 }
    | _, _ => none

end EthernetFrameCodec

structure ProcessBusFrame where
  ethernet : EthernetFrame
  appId : UInt16
  declaredLength : UInt16
  reserved1 : UInt16
  reserved2 : UInt16
  apdu : Bytes
  deriving DecidableEq

namespace ProcessBusFrameCodec

def headerLength : Nat := 8

def encodePayload (appId : UInt16) (apdu : Bytes) (reserved1 reserved2 : UInt16) :
    Except String Bytes :=
  if apdu.length > 65535 - headerLength then
    .error "Process-bus APDU exceeds the 16-bit declared length."
  else
    .ok (u16Be appId ++ u16Be (.ofNat (headerLength + apdu.length)) ++ u16Be reserved1 ++
      u16Be reserved2 ++ apdu)

def encodeEthernetFrame (destination source : MacAddress) (etherType appId : UInt16) (apdu : Bytes)
    (vlan : Option VlanTag) (reserved1 reserved2 : UInt16) : Except String EthernetFrame := do
  let payload ← encodePayload appId apdu reserved1 reserved2
  .ok { destination, source, etherType, vlan, payload }

def tryDecode (ethernet : EthernetFrame) : Option ProcessBusFrame :=
  let payload := ethernet.payload
  if payload.length < headerLength then none
  else
    let declaredLength := readU16Be payload 2
    let availableApduLength := payload.length - headerLength
    let declaredApduLength :=
      if declaredLength.toNat ≥ headerLength then declaredLength.toNat - headerLength
      else availableApduLength
    if declaredApduLength > availableApduLength then none
    else
      some
        { ethernet
          appId := readU16Be payload 0
          declaredLength
          reserved1 := readU16Be payload 4
          reserved2 := readU16Be payload 6
          apdu := (payload.drop headerLength).take declaredApduLength }

end ProcessBusFrameCodec

/-! ## Reading back -/

theorem length_u16Be (value : UInt16) : (u16Be value).length = 2 := length_beOctets 2 value.toNat

theorem readU16Be_u16Be (front : Bytes) (value : UInt16) (back : Bytes) {offset : Nat}
    (h : front.length = offset) : readU16Be (front ++ (u16Be value ++ back)) offset = value := by
  have hlt : value.toNat < 256 ^ 2 := value.toNat_lt
  rw [readU16Be, readAt, slice, List.drop_left' h, List.take_left' (length_u16Be value), u16Be,
    beValue_beOctets 2 hlt, UInt16.ofNat_toNat]

theorem readU16Be_append {front : Bytes} {offset : Nat} (h : offset + 2 ≤ front.length)
    (back : Bytes) : readU16Be (front ++ back) offset = readU16Be front offset := by
  rw [readU16Be, readU16Be, readAt, readAt, slice_append_left _ _ h]

/-- **A valid tag is decoded from its control information.** -/
theorem VlanTag.fromTagControlInformation_tci {vlan : VlanTag} (h : vlan.Valid) :
    fromTagControlInformation vlan.tci = vlan := by
  obtain ⟨priority, eligible, id⟩ := vlan
  obtain ⟨hpriority, hid⟩ := h
  have hp : priority.toNat ≤ 7 := by
    simpa [isValidVlanPriority, maximumVlanPriority, UInt8.le_iff_toNat_le] using hpriority
  have hi : id.toNat ≤ 4094 := by
    simpa [isValidVlanId, maximumVlanId, UInt16.le_iff_toNat_le] using hid
  -- the drop bit is the last bit of the number above the identifier
  have hhigh : priority.toNat <<< 13 ||| (if eligible then 0x1000 else 0) =
      (priority.toNat * 2 + eligible.toNat) <<< 12 := by
    cases eligible with
    | false => simp [Nat.shiftLeft_eq, Nat.mul_assoc]
    | true =>
      show priority.toNat <<< 13 ||| 4096 = _
      rw [← Nat.shiftLeft_add_eq_or_of_lt (by decide), Nat.shiftLeft_eq, Nat.shiftLeft_eq]
      show _ = (priority.toNat * 2 + 1) * 4096
      omega
  have hbit := Bool.toNat_lt eligible
  rw [tci]
  dsimp only
  rw [hhigh, ← Nat.shiftLeft_add_eq_or_of_lt (by omega), Nat.shiftLeft_eq]
  generalize hn : (priority.toNat * 2 + eligible.toNat) * 2 ^ 12 + id.toNat = n
  have hlt : n < 65536 := by omega
  have hmod : (UInt16.ofNat n).toNat = n := by rw [UInt16.toNat_ofNat', Nat.mod_eq_of_lt hlt]
  have hpriorityBits : n >>> 13 &&& 7 = priority.toNat := by
    rw [Nat.and_two_pow_sub_one_eq_mod _ 3, Nat.shiftRight_eq_div_pow]
    omega
  have hidBits : n &&& 0xFFF = id.toNat := by
    rw [Nat.and_two_pow_sub_one_eq_mod _ 12]
    omega
  have heligibleBit : (n &&& 0x1000 != 0) = eligible := by
    have hand : 4096 &&& n = 4096 * (n.testBit 12).toNat := Nat.two_pow_and n 12
    have hdiv : n / 2 ^ 12 % 2 = eligible.toNat := by omega
    rw [Nat.and_comm, hand, Nat.testBit_eq_decide_div_mod_eq, hdiv]
    cases eligible <;> rfl
  rw [fromTagControlInformation, hmod, hpriorityBits, hidBits, heligibleBit, UInt8.ofNat_toNat,
    UInt16.ofNat_toNat]

/-- The header of the process bus, in front of an APDU of this length. -/
def IsBusHeader (header : Bytes) (length : Nat) : Prop :=
  header.length = 8 ∧ (readU16Be header 2).toNat = 8 + length

theorem processBus_append (ethernet : EthernetFrame) {header apdu : Bytes} (trailing : Bytes)
    (h : IsBusHeader header apdu.length) :
    ProcessBusFrameCodec.tryDecode
        { ethernet with payload := header ++ (apdu ++ trailing) } =
      some
        { ethernet := { ethernet with payload := header ++ (apdu ++ trailing) }
          appId := readU16Be header 0
          declaredLength := readU16Be header 2
          reserved1 := readU16Be header 4
          reserved2 := readU16Be header 6
          apdu } := by
  obtain ⟨hlength, hdeclared⟩ := h
  have hheader : ProcessBusFrameCodec.headerLength = 8 := rfl
  have hlong : (readU16Be header 2).toNat ≥ ProcessBusFrameCodec.headerLength := by omega
  have hfits : ¬(readU16Be header 2).toNat - ProcessBusFrameCodec.headerLength >
      (header ++ (apdu ++ trailing)).length - ProcessBusFrameCodec.headerLength := by
    rw [List.length_append, List.length_append]
    omega
  rw [ProcessBusFrameCodec.tryDecode]
  dsimp only
  rw [if_neg (by rw [List.length_append]; omega), readU16Be_append (by omega),
    readU16Be_append (by omega), readU16Be_append (by omega), readU16Be_append (by omega),
    if_pos hlong, if_neg hfits, List.drop_left' (by omega), List.take_left' (by omega)]

theorem processBus_split {ethernet : EthernetFrame} {processBus : ProcessBusFrame}
    (h : ProcessBusFrameCodec.tryDecode ethernet = some processBus)
    (hdeclared : ProcessBusFrameCodec.headerLength ≤ processBus.declaredLength.toNat) :
    ∃ header trailing, ethernet.payload = header ++ (processBus.apdu ++ trailing) ∧
      IsBusHeader header processBus.apdu.length := by
  have hheader : ProcessBusFrameCodec.headerLength = 8 := rfl
  rw [ProcessBusFrameCodec.tryDecode, Option.ite_none_left_eq_some] at h
  obtain ⟨hlength, h⟩ := h
  rw [Option.ite_none_left_eq_some] at h
  obtain ⟨hfits, h⟩ := h
  obtain rfl := Option.some.inj h
  dsimp only at hdeclared
  rw [if_pos (by omega)] at hfits
  have hfront : (ethernet.payload.take 8).length = 8 := by
    rw [List.length_take]
    omega
  have hread : readU16Be (ethernet.payload.take 8) 2 = readU16Be ethernet.payload 2 := by
    rw [← readU16Be_append (by omega) (ethernet.payload.drop 8), List.take_append_drop]
  refine ⟨ethernet.payload.take 8, (ethernet.payload.drop 8).drop
    ((readU16Be ethernet.payload 2).toNat - 8), ?_, hfront, ?_⟩
  · dsimp only
    rw [if_pos (by omega), hheader, List.take_append_drop, List.take_append_drop]
  · dsimp only
    rw [if_pos (by omega), hread, hheader, List.length_take, List.length_drop]
    omega

end ArStack.Ethernet
