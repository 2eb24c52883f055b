import ArStack.Wire

/-!
# CRC-32

The reflected CRC-32 of `integrity/crc32.hpp`, bit by bit.
-/

namespace ArStack.Integrity

def crc32InitialState : UInt32 := 0xFFFFFFFF

/-- One bit: the polynomial is added when the lowest bit was set. -/
def crc32Bit (state : UInt32) : UInt32 :=
  let mask := 0 - (state &&& 1)
  (state >>> 1) ^^^ (0xEDB88320 &&& mask)

def crc32Byte (state : UInt32) (byte : UInt8) : UInt32 :=
  (List.range 8).foldl (fun state _ => crc32Bit state) (state ^^^ byte.toUInt32)

def crc32Update (state : UInt32) (bytes : Bytes) : UInt32 := bytes.foldl crc32Byte state

def crc32Finalize (state : UInt32) : UInt32 := ~~~state

def crc32 (bytes : Bytes) : UInt32 := crc32Finalize (crc32Update crc32InitialState bytes)

/-- Reading in chunks does not change the result. -/
theorem crc32Update_append (state : UInt32) (bytes bytes' : Bytes) :
    crc32Update state (bytes ++ bytes') = crc32Update (crc32Update state bytes) bytes' :=
  List.foldl_append

end ArStack.Integrity
