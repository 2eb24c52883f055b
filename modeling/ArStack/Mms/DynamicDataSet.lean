import ArStack.Mms.ServiceCodec

/-!
# Named variable lists

`MmsNamedVariableListCodec` encodes and decodes DefineNamedVariableList and
DeleteNamedVariableList, the services behind dynamic DataSets.

* `MmsNamedVariableListCodec.encodeDefineRequestPdu`, `decodeDefineRequest`, and so on for the
  other messages
-/

namespace ArStack.Mms

open ArStack.Asn1

structure MmsDefineNamedVariableListRequest where
  invokeId : UInt32 := 0
  dataSetName : MmsObjectName := {}
  members : List MmsObjectName := []
  deriving DecidableEq

structure MmsDefineNamedVariableListResponse where
  invokeId : UInt32 := 0
  deriving DecidableEq

structure MmsDeleteNamedVariableListRequest where
  invokeId : UInt32 := 0
  dataSetName : MmsObjectName := {}
  deriving DecidableEq

structure MmsDeleteNamedVariableListResponse where
  invokeId : UInt32 := 0
  numberMatched : Option UInt32 := none
  numberDeleted : Option UInt32 := none
  deriving DecidableEq

def MmsDeleteNamedVariableListResponse.deleted (response : MmsDeleteNamedVariableListResponse) :
    Bool := decide (0 < response.numberDeleted.getD 0)

namespace MmsNamedVariableListCodec

def defineServiceTag : Nat := 11
def deleteServiceTag : Nat := 13
def maximumMembers : Nat := 65536

def concat (parts : List Bytes) : Except String Bytes :=
  concatWithin MmsPduCodec.maximumPduBytes
    "Dynamic DataSet encoding exceeds the configured MMS PDU limit." parts

def readU32 (tlv : BerTlv) (fieldName : String) : Except String UInt32 :=
  match BerReader.readUnsignedInteger tlv with
  | some value =>
    if value > uint32Max then
      .error ("Dynamic DataSet " ++ fieldName ++ " is not an unsigned 32-bit value.")
    else .ok (.ofNat value)
  | none => .error ("Dynamic DataSet " ++ fieldName ++ " is not an unsigned 32-bit value.")

def validateDataSetName (name : MmsObjectName) : Except String Unit :=
  if name.kind ≠ .domainSpecific ∨ name.domain = [] ∨ name.item = [] ∨ 0x24 ∉ name.item then
    .error "Dynamic DataSet name must be domain-specific IEC 61850 LD/LN.DataSetName."
  else do
    let _ ← MmsServiceCodec.encodeObjectName name
    .ok ()

/-- The loop of `validate_members`, with the references of the members before. -/
def validateMembersFrom : List Bytes → List MmsObjectName → Except String Unit
  | _, [] => .ok ()
  | unique, member :: members =>
    if member.kind ≠ .domainSpecific ∨ member.domain = [] ∨ member.item = [] then
      .error "Dynamic DataSet members must be domain-specific MMS named variables."
    else do
      let _ ← MmsServiceCodec.encodeObjectName member
      if unique.contains member.reference then
        .error "Dynamic DataSet contains a duplicate MMS member reference."
      else validateMembersFrom (member.reference :: unique) members

def validateMembers (members : List MmsObjectName) : Except String Unit :=
  if members = [] ∨ members.length > maximumMembers then
    .error "Dynamic DataSet member count is outside the configured MMS limit."
  else validateMembersFrom [] members

def decodeVariableDefinition (definition : BerTlv) : Except String MmsObjectName :=
  MmsServiceCodec.decodeDefinition "Dynamic DataSet member is not an MMS VariableList SEQUENCE."
    "Dynamic DataSet member has an invalid variableSpecification." definition

def encodeDefineRequestPdu (request : MmsDefineNamedVariableListRequest) : Except String Bytes := do
  validateDataSetName request.dataSetName
  validateMembers request.members
  let listName ← MmsServiceCodec.encodeObjectName request.dataSetName
  let definitions ← MmsServiceCodec.encodeDefinitions
    "Dynamic DataSet member definitions exceed the configured MMS PDU limit." [] request.members
  let listOfVariable ← BerWriter.encodeTagged 0xA0 definitions
  let body ← concat [listName, listOfVariable]
  MmsPduCodec.encodeConfirmedRequest
    { invokeId := request.invokeId.toNat, serviceTag := defineServiceTag, serviceValue := body }

/-- The invoke identifier is another one than the expected one. -/
def invokeMismatch (response : MmsConfirmed) (expectedInvokeId : Option UInt32) : Bool :=
  expectedInvokeId.any fun expected => response.invokeId != expected.toNat

def decodeDefineResponse (payload : Bytes) (expectedInvokeId : Option UInt32 := none) :
    Except String MmsDefineNamedVariableListResponse := do
  let mms ← MmsPduCodec.extractMmsPayload payload
  let response ← MmsPduCodec.decodeConfirmedResponse mms
  if invokeMismatch response expectedInvokeId then
    .error "DefineNamedVariableList response invoke ID mismatch."
  else if response.serviceTag ≠ defineServiceTag ∨ response.serviceValue ≠ [] then
    .error "MMS response is not an empty successful DefineNamedVariableList response."
  else .ok { invokeId := .ofNat response.invokeId }

/-! ## DeleteNamedVariableList -/

def encodeDeleteRequestPdu (request : MmsDeleteNamedVariableListRequest) : Except String Bytes := do
  validateDataSetName request.dataSetName
  let listName ← MmsServiceCodec.encodeObjectName request.dataSetName
  let listOfVariableListName ← BerWriter.encodeTagged 0xA1 listName
  MmsPduCodec.encodeConfirmedRequest
    { invokeId := request.invokeId.toNat
      serviceTag := deleteServiceTag
      serviceValue := listOfVariableListName }

def deleteResponseField (result : MmsDeleteNamedVariableListResponse) (field : BerTlv) :
    Except String MmsDeleteNamedVariableListResponse :=
  if field.tagClass ≠ .contextSpecific ∨ field.constructed = true then
    .error "DeleteNamedVariableList response contains an invalid count field."
  else if field.tagNumber = 0 then
    if result.numberMatched.isSome then
      .error "DeleteNamedVariableList response repeats numberMatched."
    else do
      let count ← readU32 field "numberMatched"
      .ok { result with numberMatched := some count }
  else if field.tagNumber = 1 then
    if result.numberDeleted.isSome then
      .error "DeleteNamedVariableList response repeats numberDeleted."
    else do
      let count ← readU32 field "numberDeleted"
      .ok { result with numberDeleted := some count }
  else .error "DeleteNamedVariableList response contains an unknown field."

def decodeDeleteResponse (payload : Bytes) (expectedInvokeId : Option UInt32 := none) :
    Except String MmsDeleteNamedVariableListResponse := do
  let mms ← MmsPduCodec.extractMmsPayload payload
  let response ← MmsPduCodec.decodeConfirmedResponse mms
  if invokeMismatch response expectedInvokeId then
    .error "DeleteNamedVariableList response invoke ID mismatch."
  else if response.serviceTag ≠ deleteServiceTag ∨ response.serviceConstructed = false then
    .error "MMS response is not DeleteNamedVariableList."
  else
    let fields ← BerReader.readChildren response.serviceValue
    let result ← fields.foldlM deleteResponseField { invokeId := .ofNat response.invokeId }
    if result.numberMatched.isNone && result.numberDeleted.isNone then
      .error "DeleteNamedVariableList response contains no count evidence."
    else .ok result

end MmsNamedVariableListCodec

end ArStack.Mms
