import ArStack.Ethernet.Ethernet
import ArStack.SampledValues.PduCodec

/-!
# Sampled Values frames

* `SampledValuesFrameCodec.encodedSize`, `encodeIntoWithLayout`, `tryDecode`
-/

namespace ArStack.SampledValues

open ArStack.Ethernet ArStack.Wire

structure SampledValuesFrame where
  destination : MacAddress
  source : MacAddress
  vlan : Option VlanTag := none
  appId : UInt16 := 0
  reserved1 : UInt16 := 0
  reserved2 : UInt16 := 0
  pdu : SampledValuesPdu := {}
  deriving DecidableEq

def shiftRegion (region : SampledValuesEncodedFieldRegion) (delta : Nat) :
    SampledValuesEncodedFieldRegion :=
  if region.present then { region with valueOffset := region.valueOffset + delta } else region

def shiftLayout (layout : SampledValueAsduEncodeLayout) (delta : Nat) :
    SampledValueAsduEncodeLayout where
  sampleCount := shiftRegion layout.sampleCount delta
  configurationRevision := shiftRegion layout.configurationRevision delta
  referenceTime := shiftRegion layout.referenceTime delta
  sampleSynchronization := shiftRegion layout.sampleSynchronization delta
  sampleRate := shiftRegion layout.sampleRate delta
  samplePayload := shiftRegion layout.samplePayload delta
  sampleMode := shiftRegion layout.sampleMode delta

def vlanTci (vlan : VlanTag) : Option UInt16 :=
  if !isValidVlanPriority vlan.priorityCodePoint ∨ !isValidVlanId vlan.vlanId then none
  else some vlan.tci

namespace SampledValuesFrameCodec

def encodedSize (frame : SampledValuesFrame) : Option Nat :=
  if frame.vlan.any fun vlan => (vlanTci vlan).isNone then none
  else
    match SampledValuesPduCodec.encodedSize frame.pdu with
    | none => none
    | some apduSize =>
      if apduSize > 0xFFFF - ProcessBusFrameCodec.headerLength then none
      else
        let ethernetHeader := if frame.vlan.isSome then 18 else 14
        let processBusSize := ProcessBusFrameCodec.headerLength + apduSize
        if processBusSize > sizeMax - ethernetHeader then none
        else some (ethernetHeader + processBusSize)

/-- The result and the layouts, for a destination of `capacity` octets. -/
def encodeIntoWithLayout (frame : SampledValuesFrame) (capacity : Nat)
    (layouts : List SampledValueAsduEncodeLayout) :
    EncodeResult × List SampledValueAsduEncodeLayout :=
  if layouts ≠ [] ∧ layouts.length < frame.pdu.asdus.length then
    ({ status := .valueOutOfRange }, layouts)
  else
    let layouts := layouts.map fun _ => {}
    match encodedSize frame with
    | none => ({ status := .valueOutOfRange }, layouts)
    | some required =>
      if capacity < required then
        ({ status := .bufferTooSmall, requiredBytes := required }, layouts)
      else
        match SampledValuesPduCodec.encodedSize frame.pdu with
        | none => ({ status := .valueOutOfRange }, layouts)
        | some apduSize =>
          let out := frame.destination.octets ++ frame.source.octets
          let tagged :=
            match frame.vlan with
            | none => some out
            | some vlan => (vlanTci vlan).map fun tci => out ++ u16Be vlanTagEthertype ++ u16Be tci
          match tagged with
          | none => ({ status := .valueOutOfRange, requiredBytes := required }, layouts)
          | some out =>
            let out := out ++ u16Be sampledValuesEthertype
            let declaredLength := .ofNat (ProcessBusFrameCodec.headerLength + apduSize)
            let out := out ++ u16Be frame.appId ++ u16Be declaredLength ++ u16Be frame.reserved1 ++
              u16Be frame.reserved2
            let pdu := SampledValuesPduCodec.encodeIntoWithLayout frame.pdu apduSize layouts
            if !pdu.1.success ∨ pdu.1.bytesWritten ≠ apduSize then
              ({ status := pdu.1.status, requiredBytes := required }, pdu.2.map fun _ => {})
            else
              let count := frame.pdu.asdus.length
              ({ bytes := out ++ pdu.1.bytes, requiredBytes := required },
                (pdu.2.take count).map (shiftLayout · out.length) ++ pdu.2.drop count)

def tryDecode (bytes : Bytes) : Option SampledValuesFrame := do
  let ethernetFrame ← EthernetFrameCodec.tryDecode bytes
  if ethernetFrame.etherType ≠ sampledValuesEthertype then none
  else
    let processBus ← ProcessBusFrameCodec.tryDecode ethernetFrame
    if processBus.declaredLength.toNat < ProcessBusFrameCodec.headerLength then none
    else
      let pdu ← SampledValuesPduCodec.tryDecode processBus.apdu
      some
        { destination := ethernetFrame.destination
          source := ethernetFrame.source
          vlan := ethernetFrame.vlan
          appId := processBus.appId
          reserved1 := processBus.reserved1
          reserved2 := processBus.reserved2
          pdu }

end SampledValuesFrameCodec

end ArStack.SampledValues
