import ArStack.Ethernet.Ethernet
import ArStack.Mms.DataCodec

/-!
# GOOSE frames

* `GoosePduCodec.encode`, `GooseFrameCodec.encode`
* `GoosePduCodec.tryDecode`, `GooseFrameCodec.tryDecode`
-/

namespace ArStack.Goose

open ArStack.Asn1 ArStack.Ethernet ArStack.Mms

structure GoosePdu where
  goCbRef : Bytes := []
  timeAllowedToLiveMilliseconds : UInt32 := 0
  dataSetReference : Bytes := []
  goId : Bytes := []
  timestamp : Iec61850UtcTime := {}
  stateNumber : UInt32 := 1
  sequenceNumber : UInt32 := 0
  test : Bool := false
  configurationRevision : UInt32 := 1
  needsCommissioning : Bool := false
  values : List MmsDataValue := []

structure GooseFrame where
  destination : MacAddress
  source : MacAddress
  vlan : Option VlanTag := none
  appId : UInt16 := 0
  reserved1 : UInt16 := 0
  reserved2 : UInt16 := 0
  pdu : GoosePdu := {}

namespace GoosePduCodec

def goosePduApplicationTag : Nat := 1

def writeContextPrimitive (writer : Bytes) (tagNumber : Nat) (value : Bytes) :
    Except String Bytes :=
  BerWriter.writeTlv writer .contextSpecific false tagNumber value

def encode (pdu : GoosePdu) : Except String Bytes := do
  let content ← writeContextPrimitive [] 0 pdu.goCbRef
  let content ← writeContextPrimitive content 1
    (BerWriter.encodeUnsignedInteger pdu.timeAllowedToLiveMilliseconds.toUInt64)
  let content ← writeContextPrimitive content 2 pdu.dataSetReference
  let content ← writeContextPrimitive content 3 pdu.goId
  let timestamp ← pdu.timestamp.toBytes
  let content ← writeContextPrimitive content 4 timestamp
  let content ← writeContextPrimitive content 5
    (BerWriter.encodeUnsignedInteger pdu.stateNumber.toUInt64)
  let content ← writeContextPrimitive content 6
    (BerWriter.encodeUnsignedInteger pdu.sequenceNumber.toUInt64)
  let content ← writeContextPrimitive content 7 (BerWriter.encodeBoolean pdu.test)
  let content ← writeContextPrimitive content 8
    (BerWriter.encodeUnsignedInteger pdu.configurationRevision.toUInt64)
  let content ← writeContextPrimitive content 9 (BerWriter.encodeBoolean pdu.needsCommissioning)
  let content ← writeContextPrimitive content 10
    (BerWriter.encodeUnsignedInteger (.ofNat pdu.values.length))
  let allData ← MmsDataCodec.encodeAll pdu.values
  let content ← BerWriter.writeTlv content .contextSpecific true 11 allData
  BerWriter.encodeTlv .application true goosePduApplicationTag content

/-- The locals of `try_decode`. All numbers are zero before the first field. -/
structure Fields where
  pdu : GoosePdu := { stateNumber := 0, configurationRevision := 0 }
  numDataSetEntries : UInt32 := 0

/-- One pass of the loop over the fields. A number that cannot be read is zero. -/
def readField (fields : Fields) (field : BerTlv) : Except String Fields :=
  if field.tagClass ≠ .contextSpecific then .ok fields
  else
    let number := (BerReader.readUint32 field).getD 0
    let flag := (BerReader.readBoolean field).getD false
    let pdu := fields.pdu
    match field.tagNumber with
    | 0 => .ok { fields with pdu := { pdu with goCbRef := field.value } }
    | 1 => .ok { fields with pdu := { pdu with timeAllowedToLiveMilliseconds := number } }
    | 2 => .ok { fields with pdu := { pdu with dataSetReference := field.value } }
    | 3 => .ok { fields with pdu := { pdu with goId := field.value } }
    | 4 => do
      let timestamp ← Iec61850UtcTime.fromBytes field.value
      .ok { fields with pdu := { pdu with timestamp } }
    | 5 => .ok { fields with pdu := { pdu with stateNumber := number } }
    | 6 => .ok { fields with pdu := { pdu with sequenceNumber := number } }
    | 7 => .ok { fields with pdu := { pdu with test := flag } }
    | 8 => .ok { fields with pdu := { pdu with configurationRevision := number } }
    | 9 => .ok { fields with pdu := { pdu with needsCommissioning := flag } }
    | 10 => .ok { fields with numDataSetEntries := number }
    | 11 => do
      let values ← MmsDataCodec.decodeAll field.value
      .ok { fields with pdu := { pdu with values } }
    | _ => .ok fields

/-- The fields of the outer value, all of which are read before the entries are counted. -/
def readFields (value : Bytes) : Except String Fields := do
  let fields ← BerReader.readChildren value
  fields.foldlM readField {}

def tryDecode (apdu : Bytes) : Option GoosePdu := do
  let (outer, _) ← BerReader.tryReadTlv apdu
  if outer.tagClass ≠ .application ∨ outer.tagNumber ≠ goosePduApplicationTag ∨
      ¬outer.constructed then none
  else
    let fields ← (readFields outer.value).toOption
    if fields.numDataSetEntries ≠ 0 ∧
        fields.pdu.values.length ≠ fields.numDataSetEntries.toNat then none
    else some fields.pdu

end GoosePduCodec

namespace GooseFrameCodec

def encode (frame : GooseFrame) : Except String Bytes := do
  let apdu ← GoosePduCodec.encode frame.pdu
  let ethernetFrame ← ProcessBusFrameCodec.encodeEthernetFrame frame.destination frame.source
    gooseEthertype frame.appId apdu frame.vlan frame.reserved1 frame.reserved2
  EthernetFrameCodec.encode ethernetFrame

def tryDecode (frameBytes : Bytes) : Option GooseFrame := do
  let ethernetFrame ← EthernetFrameCodec.tryDecode frameBytes
  if ethernetFrame.etherType ≠ gooseEthertype then none
  else
    let processBus ← ProcessBusFrameCodec.tryDecode ethernetFrame
    let pdu ← GoosePduCodec.tryDecode processBus.apdu
    some
      { destination := ethernetFrame.destination
        source := ethernetFrame.source
        vlan := ethernetFrame.vlan
        appId := processBus.appId
        reserved1 := processBus.reserved1
        reserved2 := processBus.reserved2
        pdu }

end GooseFrameCodec

end ArStack.Goose
