import ArStack.Ethernet.Ethernet
import ArStack.TimeSync.PtpDisciplineTypes

/-!
# PTP messages

The builders of messages and the parser of frames. A vector that a builder leaves empty is a message
that could not be built.

* `PtpTimestamp.write`
* `PtpCodec.buildSync`, …, `PtpCodec.buildAnnounce`, `PtpCodec.buildEthernetFrame`
* `PtpCodec.tryParseMessage`, `PtpCodec.tryParseEthernetFrame`
-/

namespace ArStack.TimeSync

open ArStack.Ethernet ArStack.Lib

def ptpEthertype : UInt16 := 0x88F7

def ptpVlanEthertype : UInt16 := 0x8100

def ptpQinqEthertype : UInt16 := 0x88A8

def ptpVersion : UInt8 := 2

def ptpHeaderLength : Nat := 34

def ptpPeerDelayMulticastMac : Bytes := [0x01, 0x80, 0xC2, 0x00, 0x00, 0x0E]

namespace PtpMessageType

def pdelayReq : PtpMessageType := 0x2

end PtpMessageType

/-! ## Values -/

structure PtpTimeProperties where
  currentUtcOffsetValid : Bool := false
  ptpTimescale : Bool := false
  timeTraceable : Bool := false
  frequencyTraceable : Bool := false
  deriving DecidableEq

def PtpTimeProperties.flags (properties : PtpTimeProperties) : UInt16 :=
  (if properties.currentUtcOffsetValid then 0x0004 else 0) |||
    (if properties.ptpTimescale then 0x0008 else 0) |||
    (if properties.timeTraceable then 0x0010 else 0) |||
    (if properties.frequencyTraceable then 0x0020 else 0)

structure PtpBuildOptions where
  transportSpecific : UInt8 := 0
  domainNumber : UInt8 := 0
  sourcePortIdentity : PtpPortIdentity := {}
  sequenceId : UInt16 := 0
  correctionField : Int64 := 0
  logMessageInterval : Int8 := 0
  twoStep : Bool := true
  timeProperties : PtpTimeProperties := {}
  priority1 : UInt8 := 128
  priority2 : UInt8 := 128
  clockClass : UInt8 := 248
  clockAccuracy : UInt8 := 0xFE
  offsetScaledLogVariance : UInt16 := 0xFFFF
  grandmasterIdentity : PtpClockIdentity := Vector.replicate 8 0
  stepsRemoved : UInt16 := 0
  timeSource : PtpTimeSource := .internalOscillator
  timestamp : PtpTimestamp := {}
  deriving DecidableEq

/-- The flags of a message. -/
def PtpBuildOptions.flags (options : PtpBuildOptions) : UInt16 :=
  (if options.twoStep then 0x0200 else 0) ||| options.timeProperties.flags

/-- The octets that `write_u32_be` and `write_u64_be` store. -/
def u32Be (value : UInt32) : Bytes := beOctets 4 value.toNat

def u64Be (value : UInt64) : Bytes := beOctets 8 value.toNat

def maxSeconds : UInt64 := 0x0000FFFFFFFFFFFF

/-- The ten octets of a timestamp. -/
def PtpTimestamp.write (timestamp : PtpTimestamp) : Option Bytes :=
  if timestamp.seconds > maxSeconds ∨ timestamp.nanoseconds ≥ 1000000000 then none
  else
    some (u16Be (timestamp.seconds >>> 32).toUInt16 ++
      u32Be (timestamp.seconds &&& 0xFFFFFFFF).toUInt32 ++ u32Be timestamp.nanoseconds)

/-- The octets of a port identity. -/
def PtpPortIdentity.octets (port : PtpPortIdentity) : Bytes :=
  port.clockIdentity.toList ++ u16Be port.portNumber

def isZeroIdentity (identity : PtpClockIdentity) : Bool := identity.toList.all (· == 0)

namespace PtpCodec

/-! ## Builders -/

def buildMessage (messageType : PtpMessageType) (options : PtpBuildOptions) (controlField : UInt8)
    (body : Bytes) : Bytes :=
  if body.length > 65535 - ptpHeaderLength then []
  else
    [options.transportSpecific <<< 4 ||| messageType &&& 0x0F, ptpVersion] ++
      u16Be (.ofNat (ptpHeaderLength + body.length)) ++
      [options.domainNumber, 0] ++
      u16Be options.flags ++
      u64Be options.correctionField.toUInt64 ++
      [0, 0, 0, 0] ++
      options.sourcePortIdentity.octets ++
      u16Be options.sequenceId ++
      [controlField, options.logMessageInterval.toUInt8] ++
      body

/-- `build_timestamp_message` -/
def buildTimestampMessage (messageType : PtpMessageType) (options : PtpBuildOptions)
    (controlField : UInt8) : Bytes :=
  match options.timestamp.write with
  | none => []
  | some timestamp => buildMessage messageType options controlField timestamp

def buildSync (options : PtpBuildOptions) : Bytes := buildTimestampMessage .sync options 0x00

def buildFollowUp (options : PtpBuildOptions) : Bytes := buildTimestampMessage .followUp options 0x02

def buildPdelayReq (options : PtpBuildOptions) : Bytes :=
  buildTimestampMessage .pdelayReq options 0x05

/-- The two responses: the timestamp and the requesting port. -/
def buildPdelayResponse (messageType : PtpMessageType) (options : PtpBuildOptions)
    (requestingPortIdentity : PtpPortIdentity) : Bytes :=
  match options.timestamp.write with
  | none => []
  | some timestamp =>
    buildMessage messageType options 0x05 (timestamp ++ requestingPortIdentity.octets)

def buildPdelayResp (options : PtpBuildOptions) (requestingPortIdentity : PtpPortIdentity) : Bytes :=
  buildPdelayResponse .pdelayResp options requestingPortIdentity

def buildPdelayRespFollowUp (options : PtpBuildOptions) (requestingPortIdentity : PtpPortIdentity) :
    Bytes :=
  buildPdelayResponse .pdelayRespFollowUp options requestingPortIdentity

/-- The grandmaster that is announced: that of the options, or the sender. -/
def announcedGrandmaster (options : PtpBuildOptions) : PtpClockIdentity :=
  if isZeroIdentity options.grandmasterIdentity then options.sourcePortIdentity.clockIdentity
  else options.grandmasterIdentity

/-- The octets of an Announce behind its timestamp. -/
def announceFields (options : PtpBuildOptions) (currentUtcOffset : Int16) : Bytes :=
  u16Be currentUtcOffset.toUInt16 ++
    [0, options.priority1, options.clockClass, options.clockAccuracy] ++
    u16Be options.offsetScaledLogVariance ++
    [options.priority2] ++
    (announcedGrandmaster options).toList ++
    u16Be options.stepsRemoved ++
    [options.timeSource]

def buildAnnounce (options : PtpBuildOptions) (currentUtcOffset : Int16) : Bytes :=
  match options.timestamp.write with
  | none => []
  | some timestamp =>
    buildMessage .announce options 0x05 (timestamp ++ announceFields options currentUtcOffset)

def buildEthernetFrame (destinationMac sourceMac : MacAddress) (ptpMessage : Bytes)
    (vlanId : Option UInt16) (vlanPriority : UInt8) : Except String Bytes :=
  if !isValidVlanPriority vlanPriority || vlanId.any (!isValidVlanId ·) then .ok []
  else
    EthernetFrameCodec.encode
      { destination := destinationMac
        source := sourceMac
        etherType := ptpEthertype
        vlan := vlanId.map fun vlanId => { priorityCodePoint := vlanPriority, vlanId }
        payload := ptpMessage }

end PtpCodec

/-! ## Messages on the wire -/

/-- A header with all of its fields. -/
structure PtpWireHeader extends PtpHeader where
  version : UInt8 := ptpVersion
  messageLength : UInt16 := 0
  controlField : UInt8 := 0
  deriving DecidableEq

structure PtpWireAnnounce extends PtpAnnounceMessage where
  originTimestamp : PtpTimestamp := {}
  currentUtcOffset : Int16 := 37
  deriving DecidableEq

structure PtpWireFrame where
  header : PtpWireHeader := {}
  timestamp : Option PtpTimestamp := none
  announce : Option PtpWireAnnounce := none
  message : Bytes := []
  body : Bytes := []
  vlanId : Option UInt16 := none
  outerVlanId : Option UInt16 := none
  peerDelayMulticast : Bool := false
  deriving DecidableEq

/-- What the receiver reads of a frame. -/
def PtpWireFrame.received (frame : PtpWireFrame) : PtpFrame where
  header := frame.header.toPtpHeader
  timestamp := frame.timestamp
  announce := frame.announce.map PtpWireAnnounce.toPtpAnnounceMessage
  body := frame.body

namespace PtpCodec

/-- The eight octets at the offset. -/
def readClockIdentity (source : Bytes) (offset : Nat) : PtpClockIdentity :=
  Vector.ofFn fun i => source.getD (offset + i.val) 0

def parseHeader (message : Bytes) : PtpWireHeader where
  transportSpecific := octetAt message 0 >>> 4
  messageType := octetAt message 0 &&& 0x0F
  version := octetAt message 1 &&& 0x0F
  messageLength := readU16Be message 2
  domainNumber := octetAt message 4
  flags := readU16Be message 6
  correctionField := (UInt64.ofNat (readAt message 8 8)).toInt64
  sourcePortIdentity :=
    { clockIdentity := readClockIdentity message 20, portNumber := readU16Be message 28 }
  sequenceId := readU16Be message 30
  controlField := octetAt message 32
  logMessageInterval := (octetAt message 33).toInt8

def parseAnnounce (body : Bytes) (timestamp : PtpTimestamp) : PtpWireAnnounce where
  originTimestamp := timestamp
  currentUtcOffset := (readU16Be body 10).toInt16
  priority1 := octetAt body 13
  clockClass := octetAt body 14
  clockAccuracy := octetAt body 15
  offsetScaledLogVariance := readU16Be body 16
  priority2 := octetAt body 18
  grandmasterIdentity := readClockIdentity body 19
  stepsRemoved := readU16Be body 27
  timeSource := octetAt body 29

/-- The timestamp of a Sync or Follow_Up. -/
def parseTimestamp (messageType : PtpMessageType) (body : Bytes) : Option PtpTimestamp :=
  if (messageType = .sync ∨ messageType = .followUp) ∧ body.length ≥ 10 then
    PtpTimestamp.tryRead (body.take 10)
  else none

def tryParseMessage (message : Bytes) : Option PtpWireFrame :=
  if message.length < ptpHeaderLength then none
  else
    let header := parseHeader message
    if header.version ≠ ptpVersion then none
    else if header.messageLength.toNat < ptpHeaderLength ∨
        message.length < header.messageLength.toNat then none
    else
      let body := slice message ptpHeaderLength (header.messageLength.toNat - ptpHeaderLength)
      let frame : PtpWireFrame :=
        { header
          timestamp := parseTimestamp header.messageType body
          message := message.take header.messageLength.toNat
          body }
      if header.messageType = .announce ∧ body.length ≥ 30 then
        match PtpTimestamp.tryRead (body.take 10) with
        | none => none
        | some timestamp =>
          some { frame with timestamp, announce := some (parseAnnounce body timestamp) }
      else some frame

/-- `vlan_id_from_tci` -/
def vlanIdFromTci (tci : UInt16) : UInt16 := tci &&& 0x0FFF

/-- A tag of this type at the offset: its VLAN, and the ether type and the offset behind it. -/
def readTag (tagType : UInt16) (ethernetFrame : Bytes) (etherType : UInt16) (offset : Nat) :
    Option (Option UInt16 × UInt16 × Nat) :=
  if etherType = tagType then
    if ethernetFrame.length < offset + 4 then none
    else
      some (some (vlanIdFromTci (readU16Be ethernetFrame offset)),
        readU16Be ethernetFrame (offset + 2), offset + 4)
  else some (none, etherType, offset)

def tryParseEthernetFrame (ethernetFrame : Bytes) : Option PtpWireFrame :=
  if ethernetFrame.length < 14 then none
  else do
    let (outerVlan, etherType, offset) ←
      readTag ptpQinqEthertype ethernetFrame (readU16Be ethernetFrame 12) 14
    let (vlan, etherType, offset) ← readTag ptpVlanEthertype ethernetFrame etherType offset
    if etherType ≠ ptpEthertype ∨ ethernetFrame.length < offset + ptpHeaderLength then none
    else
      let parsed ← tryParseMessage (ethernetFrame.drop offset)
      some
        { parsed with
          outerVlanId := outerVlan
          vlanId := vlan
          peerDelayMulticast := ethernetFrame.take 6 == ptpPeerDelayMulticastMac }

end PtpCodec

end ArStack.TimeSync
