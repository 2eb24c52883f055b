import ArStack.Mms.Pdu

/-!
# Object names of the client

`MmsServiceCodec.decodeObjectName` reads an ObjectName of any of the three kinds.
-/

namespace ArStack.Mms

open ArStack.Asn1

inductive MmsObjectNameKind where
  | vmdSpecific
  | domainSpecific
  | aaSpecific
  deriving DecidableEq

structure MmsObjectName where
  kind : MmsObjectNameKind := .domainSpecific
  domain : Bytes := []
  item : Bytes := []
  deriving DecidableEq

def MmsObjectName.reference (name : MmsObjectName) : Bytes :=
  if name.kind = .domainSpecific then name.domain ++ [0x2F] ++ name.item else name.item

namespace MmsServiceCodec

def maximumIdentifierBytes : Nat := 1024

def validateIdentifier (value : Bytes) (name : String) : Except String Unit :=
  if value = [] ∨ value.length > maximumIdentifierBytes then
    .error (name ++ " length is outside the configured limit.")
  else if value.any fun byte => byte == 0 || decide (byte > 0x7F) then
    .error (name ++ " must contain visible ASCII bytes.")
  else .ok ()

def readOneExact (bytes : Bytes) (name : String) : Except String BerTlv :=
  if bytes = [] ∨ bytes.length > MmsPduCodec.maximumPduBytes then
    .error (name ++ " is empty or too large.")
  else
    match BerReader.tryReadTlv bytes with
    | some (tlv, []) => .ok tlv
    | _ => .error (name ++ " is not one exact BER TLV.")

def readIdentifier (tlv : BerTlv) (field : String) : Except String Bytes :=
  if tlv.constructed || !((tlv.tagClass == .universal &&
      (tlv.tagNumber == 22 || tlv.tagNumber == 26)) || tlv.tagClass == .contextSpecific) then
    .error (field ++ " is not a primitive identifier.")
  else do
    validateIdentifier tlv.value field
    .ok tlv.value

def decodeObjectName (encodedObjectName : Bytes) : Except String MmsObjectName := do
  let tlv ← readOneExact encodedObjectName "MMS ObjectName"
  if tlv.tagClass ≠ .contextSpecific then .error "MMS ObjectName is not context-specific."
  else if tlv.tagNumber = 0 ∧ tlv.constructed = false then
    let item ← readIdentifier tlv "MMS VMD-specific name"
    .ok { kind := .vmdSpecific, item }
  else if tlv.tagNumber = 2 ∧ tlv.constructed = false then
    let item ← readIdentifier tlv "MMS association-specific name"
    .ok { kind := .aaSpecific, item }
  else if tlv.tagNumber = 1 ∧ tlv.constructed = true then
    let children ← BerReader.readChildren tlv.value
    if children.length ≠ 2 then
      .error "MMS domain-specific ObjectName must contain two identifiers."
    else
      let domain ← readIdentifier (children.getD 0 {}) "MMS domain ID"
      let item ← readIdentifier (children.getD 1 {}) "MMS item ID"
      .ok { kind := .domainSpecific, domain, item }
  else .error "Unsupported MMS ObjectName choice."

end MmsServiceCodec

end ArStack.Mms
