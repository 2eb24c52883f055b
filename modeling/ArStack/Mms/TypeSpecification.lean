import ArStack.Wire

/-!
# MMS type specifications

A type is a kind with the sizes that belong to it, and the types of its components.
-/

namespace ArStack.Mms

inductive MmsTypeKind where
  | array
  | struct
  | boolean
  | bitString
  | integer
  | unsignedInteger
  | floatingPoint
  | octetString
  | visibleString
  | binaryTime
  | bcd
  | booleanArray
  | objectId
  | mmsString
  | utcTime
  | unknown
  deriving DecidableEq

structure MmsTypeSpecification where
  kind : MmsTypeKind := .unknown
  name : Bytes := []
  size : Option UInt32 := none
  exponentWidth : Option UInt32 := none
  children : List MmsTypeSpecification := []
  /-- `size` is a bound, which the wire format has with a negative sign. -/
  variableLength : Bool := false

end ArStack.Mms
