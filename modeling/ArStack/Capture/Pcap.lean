import ArStack.Wire

/-!
# Captures

The classic capture format: a global header, then a header in front of every frame. The reader
takes both byte orders and both resolutions; the writer makes little-endian microseconds.

A stream is the octets in it. Timestamps are nanoseconds since the epoch.

* `PcapReader.forEachPacket`, `PcapReader.readAll`
* `PcapWriter.new`, `PcapWriter.writePacket`, `PcapWriter.writeAll`
-/

namespace ArStack.Capture

open ArStack.Lib

def magicNumber : UInt32 := 0xA1B2C3D4

def magicNumberNanoseconds : UInt32 := 0xA1B23C4D

def linkTypeEthernet : UInt32 := 1

def globalHeaderLength : Nat := 24

def packetHeaderLength : Nat := 16

def maximumSupportedSnapLength : UInt32 := 16 * 1024 * 1024

inductive ByteOrder where
  | littleEndian
  | bigEndian
  deriving DecidableEq

inductive TimestampResolution where
  | microseconds
  | nanoseconds
  deriving DecidableEq

/-- The octets as they would stand in big-endian order. -/
def ByteOrder.arrange (order : ByteOrder) (source : Bytes) : Bytes :=
  match order with
  | .littleEndian => source.reverse
  | .bigEndian => source

def readU16 (source : Bytes) (order : ByteOrder) : UInt16 := .ofNat (beValue (order.arrange source))

def readU32 (source : Bytes) (order : ByteOrder) : UInt32 := .ofNat (beValue (order.arrange source))

/-- The octets that `write_u16_le` stores. -/
def u16Le (value : UInt16) : Bytes := (beOctets 2 value.toNat).reverse

/-- The octets that `write_u32_le` stores. -/
def u32Le (value : UInt32) : Bytes := (beOctets 4 value.toNat).reverse

/-- `read_exactly`: the octets that were asked for, and the stream behind them. -/
def readExactly (stream : Bytes) (count : Nat) : Option (Bytes × Bytes) :=
  if count ≤ stream.length then some (stream.take count, stream.drop count) else none

def resolveByteOrder (magicBytes : Bytes) : Except String (ByteOrder × TimestampResolution) :=
  let little := readU32 magicBytes .littleEndian
  let big := readU32 magicBytes .bigEndian
  if little = magicNumber then .ok (.littleEndian, .microseconds)
  else if little = magicNumberNanoseconds then .ok (.littleEndian, .nanoseconds)
  else if big = magicNumber then .ok (.bigEndian, .microseconds)
  else if big = magicNumberNanoseconds then .ok (.bigEndian, .nanoseconds)
  else .error "Unsupported PCAP magic number."

def nanosecondsPerSecond : Int := 1000000000

def toTimestamp (seconds fractional : UInt32) (resolution : TimestampResolution) : Int :=
  match resolution with
  | .nanoseconds => seconds.toNat * nanosecondsPerSecond + fractional.toNat
  | .microseconds => seconds.toNat * nanosecondsPerSecond + fractional.toNat * 1000

structure PcapPacket where
  timestamp : Int
  frame : Bytes
  deriving DecidableEq

/-! ## The reader -/

namespace PcapReader

/-- What the global header says. -/
structure Format where
  byteOrder : ByteOrder
  resolution : TimestampResolution
  snapLength : UInt32
  deriving DecidableEq

def readGlobalHeader (globalHeader : Bytes) : Except String Format := do
  let (byteOrder, resolution) ← resolveByteOrder (globalHeader.take 4)
  let versionMajor := readU16 (slice globalHeader 4 2) byteOrder
  let versionMinor := readU16 (slice globalHeader 6 2) byteOrder
  let snapLength := readU32 (slice globalHeader 16 4) byteOrder
  let linkType := readU32 (slice globalHeader 20 4) byteOrder
  if versionMajor ≠ 2 ∨ versionMinor ≠ 4 then
    .error ("Unsupported PCAP version " ++ toString versionMajor ++ "." ++ toString versionMinor ++
      ".")
  else if linkType ≠ linkTypeEthernet then
    .error ("Unsupported PCAP link type " ++ toString linkType ++ "; only Ethernet is supported.")
  else if snapLength = 0 ∨ snapLength > maximumSupportedSnapLength then
    .error ("Unsupported PCAP snap length " ++ toString snapLength ++ ".")
  else .ok { byteOrder, resolution, snapLength }

/-- The fields of a packet header. -/
structure PacketHeader where
  seconds : UInt32
  fractional : UInt32
  includedLength : UInt32
  originalLength : UInt32
  deriving DecidableEq

/-- The lengths do not fit the capture. -/
def PacketHeader.invalidLengths (header : PacketHeader) (snapLength : UInt32) : Bool :=
  header.includedLength > snapLength || header.includedLength > maximumSupportedSnapLength ||
    header.originalLength < header.includedLength

def readPacketHeader (packetHeader : Bytes) (byteOrder : ByteOrder) : PacketHeader where
  seconds := readU32 (slice packetHeader 0 4) byteOrder
  fractional := readU32 (slice packetHeader 4 4) byteOrder
  includedLength := readU32 (slice packetHeader 8 4) byteOrder
  originalLength := readU32 (slice packetHeader 12 4) byteOrder

/-- One turn of the loop: the end of the stream, or a packet and the stream behind it. -/
def readPacket (format : Format) (stream : Bytes) : Except String (Option (PcapPacket × Bytes)) :=
  match readExactly stream packetHeaderLength with
  | none => if stream = [] then .ok none else .error "Truncated PCAP packet header."
  | some (packetHeader, afterHeader) =>
    let header := readPacketHeader packetHeader format.byteOrder
    if header.invalidLengths format.snapLength then
      .error ("Invalid PCAP packet lengths: included=" ++ toString header.includedLength ++
        ", original=" ++ toString header.originalLength ++ ", snaplen=" ++
        toString format.snapLength ++ ".")
    else
      match readExactly afterHeader header.includedLength.toNat with
      | none => .error "Truncated PCAP packet payload."
      | some (frame, rest) =>
        .ok (some
          ({ timestamp := toTimestamp header.seconds header.fractional format.resolution, frame },
            rest))

theorem length_rest_lt {format : Format} {stream rest : Bytes} {packet : PcapPacket}
    (h : readPacket format stream = .ok (some (packet, rest))) : rest.length < stream.length := by
  unfold readPacket at h
  cases hheader : readExactly stream packetHeaderLength with
  | none =>
    rw [hheader] at h
    dsimp only at h
    split at h <;> cases h
  | some read =>
    obtain ⟨packetHeader, afterHeader⟩ := read
    rw [hheader] at h
    dsimp only at h
    split at h
    · cases h
    split at h
    · cases h
    rename_i frame rest' hframe
    cases h
    have hpos : packetHeaderLength = 16 := rfl
    rw [readExactly] at hheader hframe
    split at hheader
    · cases hheader
      split at hframe
      · cases hframe
        rw [List.length_drop, List.length_drop]
        omega
      · cases hframe
    · cases hheader

variable {σ : Type}

/-- The loop over the packets. The visitor has seen the packets in front of an error. -/
def visitPackets (format : Format) (visitor : σ → PcapPacket → σ) (stream : Bytes) (state : σ) :
    Except String Unit × σ :=
  match _h : readPacket format stream with
  | .error error => (.error error, state)
  | .ok none => (.ok (), state)
  | .ok (some (packet, rest)) => visitPackets format visitor rest (visitor state packet)
termination_by stream.length
decreasing_by exact length_rest_lt _h

/-- `for_each_packet` -/
def forEachPacket (visitor : σ → PcapPacket → σ) (stream : Bytes) (state : σ) :
    Except String Unit × σ :=
  match readExactly stream globalHeaderLength with
  | none => (.error "PCAP file is shorter than the global header.", state)
  | some (globalHeader, rest) =>
    match readGlobalHeader globalHeader with
    | .error error => (.error error, state)
    | .ok format => visitPackets format visitor rest state

/-- `read_all` -/
def readAll (stream : Bytes) : Except String (List PcapPacket) :=
  let (outcome, packets) := forEachPacket (fun packets packet => packets ++ [packet]) stream []
  outcome.map fun _ => packets

end PcapReader

/-! ## The writer -/

structure PcapWriter where
  stream : Bytes
  deriving DecidableEq

namespace PcapWriter

/-- `write_global_header` -/
def globalHeader (snapLength : UInt32) : Bytes :=
  u32Le magicNumber ++ u16Le 2 ++ u16Le 4 ++ u32Le 0 ++ u32Le 0 ++ u32Le snapLength ++
    u32Le linkTypeEthernet

def new (snapLength : UInt32) : PcapWriter := { stream := globalHeader snapLength }

/-- The header and the frame, with the seconds and the rest of the timestamp. -/
def packetOctets (unixSeconds micros : Int) (frame : Bytes) : Bytes :=
  u32Le (.ofNat unixSeconds.toNat) ++ u32Le (.ofNat micros.toNat) ++ u32Le (.ofNat frame.length) ++
    u32Le (.ofNat frame.length) ++ frame

def writePacket (writer : PcapWriter) (timestamp : Int) (frame : Bytes) :
    Except String PcapWriter :=
  if frame.length > uint32Max then .error "PCAP frame exceeds the 32-bit length field."
  else
    let unixSeconds := timestamp / nanosecondsPerSecond
    if unixSeconds < 0 ∨ unixSeconds > uint32Max then
      .error "PCAP timestamp is outside the supported 32-bit Unix range."
    else
      let micros := (timestamp - unixSeconds * nanosecondsPerSecond) / 1000
      .ok { writer with stream := writer.stream ++ packetOctets unixSeconds micros frame }

/-- A sequence of `write_packet` calls. -/
def writePackets (writer : PcapWriter) (packets : List PcapPacket) : Except String PcapWriter :=
  packets.foldlM (fun writer packet => writer.writePacket packet.timestamp packet.frame) writer

/-- `write_all`: the contents of the file. -/
def writeAll (packets : List PcapPacket) (snapLength : UInt32) : Except String Bytes :=
  ((new snapLength).writePackets packets).map (·.stream)

end PcapWriter

end ArStack.Capture
