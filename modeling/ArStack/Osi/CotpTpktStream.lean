import ArStack.Osi.Cotp
import ArStack.Osi.Tpkt

/-!
# A message as TPKT frames

One TSDU is written as one or more complete TPKT frames, each with one COTP Data TPDU.

* `tryPlan` — the number of segments and of octets
* `encodeInto` — the frames
-/

namespace ArStack.Osi

open ArStack.Wire

structure CotpTpktDataStreamPlan where
  maximumUserData : Nat := 0
  segmentCount : Nat := 0
  requiredBytes : Nat := 0
  deriving DecidableEq

namespace CotpTpktDataStreamSpanCodec

/-- The octets of a segment besides its user data. -/
def perSegmentOverhead : Nat := TpktSpanCodec.headerLength + 3

def tryPlan (userDataBytes negotiatedTpduSizeBytes : Nat) : Option CotpTpktDataStreamPlan :=
  if negotiatedTpduSizeBytes ≤ 3 ∨ negotiatedTpduSizeBytes > TpktSpanCodec.maximumPayloadBytes then
    none
  else
    let maximumUserData := negotiatedTpduSizeBytes - 3
    let segmentCount := if userDataBytes = 0 then 1 else 1 + (userDataBytes - 1) / maximumUserData
    if segmentCount > (sizeMax - userDataBytes) / perSegmentOverhead then none
    else
      some
        { maximumUserData
          segmentCount
          requiredBytes := userDataBytes + segmentCount * perSegmentOverhead }

/-- The frame of one segment. -/
def encodeSegment (chunk : Bytes) (finalSegment : Bool) : Option Bytes :=
  let frameBytes := TpktSpanCodec.headerLength + 3 + chunk.length
  if frameBytes > TpktSpanCodec.maximumFrameBytes then none
  else
    let cotp := CotpSpanCodec.encodeDataInto chunk (frameBytes - TpktSpanCodec.headerLength)
      finalSegment 0
    if !cotp.success || cotp.bytesWritten != chunk.length + 3 then none
    else some (TpktSpanCodec.header frameBytes ++ cotp.bytes)

/-- The loop of `encode_into` with the segments that are left; the octets it has written and
the input it has used. -/
def encodeSegments (userData : Bytes) (maximumUserData : Nat) :
    Nat → Nat → Option (Bytes × Nat)
  | 0, inputOffset => some ([], inputOffset)
  | segments + 1, inputOffset => do
    let chunk := min (userData.length - inputOffset) maximumUserData
    let frame ← encodeSegment (Lib.slice userData inputOffset chunk) (segments == 0)
    let (frames, inputOffset) ←
      encodeSegments userData maximumUserData segments (inputOffset + chunk)
    some (frame ++ frames, inputOffset)

def encodeInto (userData : Bytes) (negotiatedTpduSizeBytes destinationSize : Nat) : EncodeResult :=
  match tryPlan userData.length negotiatedTpduSizeBytes with
  | none => { status := .valueOutOfRange }
  | some plan =>
    if destinationSize < plan.requiredBytes then
      { status := .bufferTooSmall, requiredBytes := plan.requiredBytes }
    else
      match encodeSegments userData plan.maximumUserData plan.segmentCount 0 with
      | none => { status := .valueOutOfRange, requiredBytes := plan.requiredBytes }
      | some (bytes, inputOffset) =>
        if inputOffset ≠ userData.length ∨ bytes.length ≠ plan.requiredBytes then
          { status := .valueOutOfRange, requiredBytes := plan.requiredBytes }
        else { bytes, requiredBytes := plan.requiredBytes }

end CotpTpktDataStreamSpanCodec

end ArStack.Osi
