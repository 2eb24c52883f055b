import ArStack.Wire
import ArStack.Lib.Framing

/-!
# TPKT frames

A TPKT frame is a payload behind a header of four octets: version, reserved, and the length of
the whole frame. There are two codecs, one that owns its frames and one for spans, and a stream
decoder that takes frames out of what a connection has received.

* `TpktFrameCodec.tryDecode` — one exact frame
* `TpktStreamDecoder` — `append` what was received, `tryPop` the next frame
* `TpktSpanCodec.peekFrame` — the first frame of a receive window
-/

namespace ArStack.Osi

open ArStack.Wire

structure TpktFrame where
  version : UInt8 := 0
  declaredLength : Nat := 0
  payload : Bytes := []
  deriving DecidableEq

namespace TpktFrameCodec

def supportedVersion : UInt8 := 0x03
def headerLength : Nat := 4
def maximumFrameBytes : Nat := 65535
def maximumPayloadBytes : Nat := maximumFrameBytes - headerLength

def encode (payload : Bytes) : Except String Bytes :=
  if payload.length > maximumPayloadBytes then
    .error "TPKT payload exceeds the 65,531-byte protocol limit."
  else
    let totalLength := payload.length + headerLength
    .ok ([supportedVersion, 0x00, UInt8.ofNat (totalLength >>> 8), UInt8.ofNat totalLength] ++
      payload)

def tryDecode (bytes : Bytes) : Except String TpktFrame :=
  if bytes.length < headerLength then .error "TPKT frame is shorter than the four-byte header."
  else if octetAt bytes 0 ≠ supportedVersion then .error "Unsupported TPKT version."
  else if octetAt bytes 1 ≠ 0x00 then .error "TPKT reserved octet must be zero."
  else
    let declared := readAt bytes 2 2
    if declared < headerLength then
      .error "TPKT declared length is smaller than the header."
    else if declared ≠ bytes.length then
      .error "TPKT declared length does not match the supplied frame length."
    else
      .ok
        { version := octetAt bytes 0
          declaredLength := declared
          payload := bytes.drop headerLength }

end TpktFrameCodec

/-! ## The stream decoder -/

/-- The octets received; those before the offset have been read. -/
structure TpktStreamDecoder where
  buffer : Bytes := []
  offset : Nat := 0
  maximumBufferedBytes : Nat := 4 * 65535
  decodedFrames : Nat := 0
  deriving DecidableEq

namespace TpktStreamDecoder

def create (maximumBufferedBytes : Nat) : Except String TpktStreamDecoder :=
  if maximumBufferedBytes < TpktFrameCodec.headerLength ∨
      maximumBufferedBytes > 64 * 1024 * 1024 then
    .error "TPKT stream buffer limit is outside the supported range."
  else .ok { maximumBufferedBytes }

def bufferedBytes (decoder : TpktStreamDecoder) : Nat := decoder.buffer.length - decoder.offset

/-- The octets that have not been read. -/
def unread (decoder : TpktStreamDecoder) : Bytes := decoder.buffer.drop decoder.offset

/-- Drop what has been read, when that is everything or much of the buffer. -/
def compact (decoder : TpktStreamDecoder) : TpktStreamDecoder :=
  if decoder.offset = 0 then decoder
  else if decoder.offset = decoder.buffer.length then { decoder with buffer := [], offset := 0 }
  else if decoder.offset ≥ decoder.buffer.length / 2 ∨ decoder.offset ≥ 65535 then
    { decoder with buffer := decoder.buffer.drop decoder.offset, offset := 0 }
  else decoder

def append (decoder : TpktStreamDecoder) (bytes : Bytes) : Except String TpktStreamDecoder :=
  if bytes = [] then .ok decoder
  else
    let decoder := decoder.compact
    if bytes.length > decoder.maximumBufferedBytes - decoder.buffer.length then
      .error "TPKT stream exceeded the bounded buffer limit."
    else .ok { decoder with buffer := decoder.buffer ++ bytes }

/-- The next frame, when it has been received whole. -/
def tryPop (decoder : TpktStreamDecoder) :
    Except String (Option TpktFrame × TpktStreamDecoder) :=
  if decoder.bufferedBytes < TpktFrameCodec.headerLength then .ok (none, decoder)
  else
    let unread := decoder.unread
    if octetAt unread 0 ≠ TpktFrameCodec.supportedVersion then
      .error "Unsupported TPKT version in stream."
    else if octetAt unread 1 ≠ 0x00 then .error "TPKT reserved octet in stream must be zero."
    else
      let declared := readAt unread 2 2
      if declared < TpktFrameCodec.headerLength then
        .error "TPKT stream declared an invalid frame length."
      else if declared > decoder.maximumBufferedBytes then
        .error "TPKT frame exceeds the configured stream buffer limit."
      else if decoder.bufferedBytes < declared then .ok (none, decoder)
      else
        match TpktFrameCodec.tryDecode (unread.take declared) with
        | .error error => .error error
        | .ok frame =>
          .ok (some frame,
            { decoder with
              offset := decoder.offset + declared
              decodedFrames := decoder.decodedFrames + 1 }.compact)

end TpktStreamDecoder

/-! ## Spans -/

inductive TpktPeekStatus where
  | needMore
  | ready
  | invalid
  deriving DecidableEq

structure TpktPeekResult where
  status : TpktPeekStatus := .needMore
  frameBytes : Nat := 0
  deriving DecidableEq

def TpktPeekResult.ready (result : TpktPeekResult) : Bool := result.status == .ready

namespace TpktSpanCodec

def supportedVersion : UInt8 := 0x03
def headerLength : Nat := 4
def maximumFrameBytes : Nat := 65535
def maximumPayloadBytes : Nat := maximumFrameBytes - headerLength

/-- The header of a frame of this length. -/
def header (frameBytes : Nat) : Bytes :=
  [supportedVersion, 0x00, UInt8.ofNat (frameBytes >>> 8), UInt8.ofNat frameBytes]

def encodeInto (payload : Bytes) (destinationSize : Nat) : EncodeResult :=
  if payload.length > maximumPayloadBytes then { status := .valueOutOfRange }
  else
    let required := payload.length + headerLength
    if destinationSize < required then { status := .bufferTooSmall, requiredBytes := required }
    else { bytes := header required ++ payload, requiredBytes := required }

def peekFrame (bytes : Bytes) : TpktPeekResult :=
  if bytes.length < headerLength then { status := .needMore }
  else if octetAt bytes 0 ≠ supportedVersion ∨ octetAt bytes 1 ≠ 0x00 then { status := .invalid }
  else
    let declared := readAt bytes 2 2
    if declared < headerLength then { status := .invalid }
    else if bytes.length < declared then { status := .needMore, frameBytes := declared }
    else { status := .ready, frameBytes := declared }

structure TpktFrameView where
  version : UInt8 := 0
  declaredLength : Nat := 0
  payload : Bytes := []
  deriving DecidableEq

def tryDecodeView (bytes : Bytes) : Option TpktFrameView :=
  let peek := peekFrame bytes
  if !peek.ready || peek.frameBytes != bytes.length then none
  else
    some
      { version := octetAt bytes 0
        declaredLength := peek.frameBytes
        payload := bytes.drop headerLength }

end TpktSpanCodec

end ArStack.Osi
