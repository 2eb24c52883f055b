import ArStack.Lib.Octets

/-!
# Octet strings and encode results

Spans of octets and string views are octet lists; sizes are natural numbers. A function
that fills a destination span returns the octets it has written, so `bytesWritten` is their
number and not a separate field.

* `Bytes` — the contents of a span, `OctetArray` — of an array of fixed size
* `EncodeResult` — what an encoder reports
* `addSize` — the guarded addition of two sizes
* `readAt`, `octetAt` — fixed-offset reads of the record formats
-/

namespace ArStack

/-- The contents of a span of octets or of a string view. -/
abbrev Bytes := List UInt8

/-- The contents of a `std::array` of `n` octets. -/
structure OctetArray (n : Nat) where
  octets : Bytes
  length_octets : octets.length = n
  deriving DecidableEq

/-- A span of the size of the array. -/
def OctetArray.ofSpan (n : Nat) (span : Bytes) : Option (OctetArray n) :=
  if h : span.length = n then some ⟨span, h⟩ else none

/-- The largest `std::size_t`. -/
def sizeMax : Nat := 2 ^ 64 - 1

/-- The largest `std::uint32_t`, as a size. -/
def uint32Max : Nat := 2 ^ 32 - 1

/-- `left + right`, unless the sum does not fit a size. -/
def addSize (left right : Nat) : Option Nat :=
  if right > sizeMax - left then none else some (left + right)

theorem addSize_eq_some {left right total : Nat} (h : addSize left right = some total) :
    total = left + right := by
  rw [addSize] at h
  split at h
  · exact absurd h (by simp)
  · exact (Option.some.inj h).symm

theorem addSize_of_le {left right : Nat} (h : left + right ≤ sizeMax) :
    addSize left right = some (left + right) := if_neg (by omega)

/-- The big-endian number of `width` octets at `offset`. -/
def readAt (source : Bytes) (offset width : Nat) : Nat := Lib.beValue (Lib.slice source offset width)

def octetAt (source : Bytes) (offset : Nat) : UInt8 := source.getD offset 0

namespace Wire

inductive EncodeStatus where
  | ok
  | bufferTooSmall
  | valueOutOfRange
  deriving DecidableEq

/-- What an encoder reports; `bytes` is the part of the destination it has written. -/
structure EncodeResult where
  status : EncodeStatus := .ok
  bytes : Bytes := []
  requiredBytes : Nat := 0
  deriving DecidableEq

namespace EncodeResult

def bytesWritten (result : EncodeResult) : Nat := result.bytes.length

def success (result : EncodeResult) : Bool := result.status == .ok

theorem success_iff {result : EncodeResult} : result.success = true ↔ result.status = .ok :=
  beq_iff_eq

end EncodeResult

end Wire

end ArStack
