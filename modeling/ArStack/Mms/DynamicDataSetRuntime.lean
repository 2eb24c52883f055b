import ArStack.Lib.TextMatch
import ArStack.Mms.AssociationEvents
import ArStack.Mms.DynamicDataSet
import ArStack.Mms.ReportSubscriptionRuntime

/-!
# Dynamic DataSets

`MmsDynamicDataSetRuntime` creates DataSets over an association and removes those it owns. Which
association it owns them in it tells from the event log: it keeps the last event at the time of the
first creation and its index, and looks there again before it does anything.

* `normalizeReference`
* `synchronizeOwnershipScope`
* `create`, `remove`
-/

namespace ArStack.Mms

open ArStack.Asn1

/-! ## The directory of a DataSet -/

structure MmsDataSetDirectoryRequest where
  invokeId : UInt32 := 0
  dataSetName : MmsObjectName := {}
  deriving DecidableEq

/-- Of a member only its object name is read here. -/
structure MmsDataSetDirectoryResponse where
  invokeId : UInt32 := 0
  deletable : Bool := false
  members : List MmsObjectName := []
  deriving DecidableEq

namespace MmsDataSetDirectoryCodec

def getNamedVariableListAttributes : Nat := 12
def maximumMembers : Nat := 65536

/-- The parts of an item between dollar signs, joined with dots. -/
def normalizeDataSetItem (item : Bytes) : Bytes :=
  item.map fun octet => if octet = 0x24 then 0x2E else octet

def toIecReference (name : MmsObjectName) : Bytes :=
  if name.kind ≠ .domainSpecific then name.reference
  else name.domain ++ [0x2F] ++ normalizeDataSetItem name.item

def encodeRequestPdu (request : MmsDataSetDirectoryRequest) : Except String Bytes := do
  let object ← MmsServiceCodec.encodeObjectName request.dataSetName
  MmsPduCodec.encodeConfirmedRequest
    { invokeId := request.invokeId.toNat
      serviceTag := getNamedVariableListAttributes
      serviceValue := object }

def encodeRequestPData (request : MmsDataSetDirectoryRequest) (presentationContextId : UInt32) :
    Except String Bytes :=
  MmsServiceCodec.pData encodeRequestPdu request presentationContextId

def decodeResponse (payload : Bytes) (expected : Option UInt32) :
    Except String MmsDataSetDirectoryResponse := do
  let mms ← MmsPduCodec.extractMmsPayload payload
  let response ← MmsPduCodec.decodeConfirmedResponse mms
  if MmsNamedVariableListCodec.invokeMismatch response expected then
    .error "MMS DataSet directory invoke ID mismatch."
  else if response.serviceTag ≠ getNamedVariableListAttributes ∨
      response.serviceConstructed = false then
    .error "MMS response is not GetNamedVariableListAttributes."
  else
    let fields ← BerReader.readChildren response.serviceValue
    let flag := fields.getD 0 {}
    let list := fields.getD 1 {}
    if fields.length ≠ 2 ∨ MmsServiceCodec.isChoice flag 0 false = false ∨
        flag.value.length ≠ 1 ∨ list.encodedTag ≠ 0xA1 ∨ list.constructed = false then
      .error "MMS DataSet directory response fields are invalid."
    else
      let definitions ← BerReader.readChildren list.value
      if definitions.length > maximumMembers then
        .error "MMS DataSet directory member count exceeds the configured limit."
      else
        let members ← definitions.mapM (MmsServiceCodec.decodeDefinition
          "MMS variable-list member is not a SEQUENCE."
          "MMS variable-list member has an invalid variableSpecification.")
        .ok
          { invokeId := .ofNat response.invokeId
            deletable := octetAt flag.value 0 != 0
            members }

end MmsDataSetDirectoryCodec

/-! ## Ownership -/

structure MmsDynamicDataSetOptions where
  maximumMembers : Nat := 64
  verifyAfterCreate : Bool := true
  deriving DecidableEq

structure MmsDynamicDataSetCreateResult where
  dataSetReference : Bytes := []
  defineResponse : MmsDefineNamedVariableListResponse := {}
  verifiedDirectory : Option MmsDataSetDirectoryResponse := none
  deriving DecidableEq

inductive MmsDynamicDataSetDeletePolicy where
  | ownedOnly
  | explicitOverride
  deriving DecidableEq

structure MmsDynamicDataSetRuntime where
  options : MmsDynamicDataSetOptions := {}
  ownedDataSets : List Bytes := []
  ownershipScopeValid : Bool := false
  ownershipEndpoint : MmsEndpoint := {}
  ownershipEventCount : Nat := 0
  /-- The kind, the state, the invoke identifier and the message of the marker. -/
  ownershipMarker : MmsAssociationEvent := {}
  /-- What the counters of the association were at the capture; nothing reads it. -/
  droppedAtCapture : Nat := 0
  acceptedAtCapture : Nat := 0
  deriving DecidableEq

/-- Why a DeleteNamedVariableList is issued: for a call with this reference, or to undo a creation. -/
inductive DeleteCause where
  | remove (policy : MmsDynamicDataSetDeletePolicy) (reference : Bytes)
  | rollback
  deriving DecidableEq

/-- What the runtime does on the wire, which nothing reads. -/
inductive DataSetTraffic where
  /-- An association is accepted. -/
  | associated
  /-- The DefineNamedVariableList for a reference is confirmed. -/
  | defined (reference : Bytes) (name : MmsObjectName)
  /-- A DeleteNamedVariableList is about to be sent. -/
  | deleteIssued (cause : DeleteCause) (name : MmsObjectName)
  /-- The response to it says that the list was deleted. -/
  | deleted (name : MmsObjectName)
  deriving DecidableEq

/-- The runtime and the association it works over. -/
structure DataSetClient where
  association : MmsEventedAssociation := {}
  runtime : MmsDynamicDataSetRuntime := {}
  traffic : List DataSetTraffic := []
  deriving DecidableEq

/-- A member function that may throw. -/
abbrev DataSetM := EStateM MmsAssociationFailure DataSetClient

/-- An event that ends the scope of an association. -/
def MmsAssociationEventKind.endsScope (kind : MmsAssociationEventKind) : Bool :=
  kind == .associationAccepted || kind == .disconnected || kind == .cancelled ||
    kind == .timedOut || kind == .faulted

namespace MmsDynamicDataSetRuntime

open MmsDataSetDirectoryCodec MmsNamedVariableListCodec

/-- The name that a reference is for: the logical node is `LLN0` unless another one is given. -/
def dataSetName (reference : Bytes) : MmsObjectName :=
  let name := parseDataSetReference reference
  if 0x24 ∈ name.item then name else { name with item := Lib.ascii "LLN0$" ++ name.item }

def normalizeReference (reference : Bytes) : Except String Bytes := do
  if (parseDataSetReference reference).kind ≠ .domainSpecific then
    .error "Dynamic DataSet reference must use IEC 61850 LD/LN.DataSetName form."
  else
    validateDataSetName (dataSetName reference)
    .ok (toIecReference (dataSetName reference))

def clearOwnershipScope (rt : MmsDynamicDataSetRuntime) : MmsDynamicDataSetRuntime :=
  { options := rt.options }

def captureOwnershipScope (rt : MmsDynamicDataSetRuntime) (association : MmsEventedAssociation) :
    MmsDynamicDataSetRuntime :=
  match association.associated, association.events.getLast? with
  | true, some marker =>
    { rt with
      ownershipScopeValid := true
      ownershipEndpoint := association.endpoint
      ownershipEventCount := association.events.length
      ownershipMarker := marker
      droppedAtCapture := association.dropped
      acceptedAtCapture := association.accepted }
  | _, _ => rt.clearOwnershipScope

/-- The log still shows the marker where it was, and nothing that ends its scope behind it. -/
def markerStands (rt : MmsDynamicDataSetRuntime) (events : List MmsAssociationEvent) : Bool :=
  decide (rt.ownershipEventCount ≠ 0) && decide (rt.ownershipEventCount ≤ events.length) &&
    events[rt.ownershipEventCount - 1]? == some rt.ownershipMarker &&
    (events.drop rt.ownershipEventCount).all fun event => !event.kind.endsScope

def synchronizeOwnershipScope (rt : MmsDynamicDataSetRuntime)
    (association : MmsEventedAssociation) : MmsDynamicDataSetRuntime :=
  if rt.ownedDataSets = [] then
    if association.associated then rt else rt.clearOwnershipScope
  else if rt.ownershipScopeValid = false ∨ association.associated = false ∨
      association.endpoint ≠ rt.ownershipEndpoint then rt.clearOwnershipScope
  else if rt.markerStands association.events then rt
  else rt.clearOwnershipScope

/-! ## Exchanges -/

/-- Work on the association. -/
def onAssociation {α : Type} (x : MmsEventedAssociation.EventedM α) : DataSetM α := fun client =>
  match x client.association with
  | .ok a association => .ok a { client with association }
  | .error failure association => .error failure { client with association }

/-- Add to the traffic. -/
def record (item : DataSetTraffic) : DataSetM Unit := fun client =>
  .ok () { client with traffic := client.traffic ++ [item] }

def nextInvokeId : DataSetM Nat := fun client =>
  let (invokeId, association) := client.association.takeInvokeId
  .ok invokeId { client with association }

def responsePayload (exchange : MmsConfirmedExchangeResult) : Bytes :=
  if exchange.presentationPayload ≠ [] then exchange.presentationPayload
  else exchange.envelope.mmsPayload

def requireConfirmedResponse (exchange : MmsConfirmedExchangeResult) (operation : String) :
    Except String Unit :=
  if exchange.envelope.kind = .confirmedError then
    .error ("MMS " ++ operation ++ " returned a Confirmed-Error PDU.")
  else if exchange.envelope.kind ≠ .confirmedResponse then
    .error ("MMS " ++ operation ++ " did not return a Confirmed-Response PDU.")
  else .ok ()

def requireRequestWithinNegotiatedLimit (association : MmsEventedAssociation) (mmsPdu : Bytes)
    (operation : String) : Except String Unit :=
  let negotiatedLimit := association.initiated.maximumMmsPduSize.toNat
  if negotiatedLimit = 0 ∨ mmsPdu.length > negotiatedLimit then
    .error ("MMS " ++ operation ++ " request is " ++ toString mmsPdu.length ++
      " bytes and exceeds the negotiated maximum MMS PDU size of " ++ toString negotiatedLimit ++
      " bytes.")
  else .ok ()

/-- Send a request and take its response. -/
def exchange (encoded : Bytes) (invokeId : Nat) (operation : String) : DataSetM Bytes := do
  let result ← onAssociation (MmsEventedAssociation.exchangeConfirmed encoded invokeId)
  throwFormat (requireConfirmedResponse result operation)
  pure (responsePayload result)

/-- The directory of a DataSet, as the server has it. -/
def readDirectory (dataSetName : MmsObjectName) : DataSetM MmsDataSetDirectoryResponse := do
  let invokeId ← nextInvokeId
  let client ← get
  let encoded ← throwFormat (encodeRequestPData { invokeId := .ofNat invokeId, dataSetName }
    client.association.presentationContextId)
  let payload ← exchange encoded invokeId "GetNamedVariableListAttributes verification"
  throwFormat (decodeResponse payload (some (.ofNat invokeId)))

/-- The directory, if it shows these members. -/
def verify (dataSetName : MmsObjectName) (members : List MmsObjectName) :
    DataSetM MmsDataSetDirectoryResponse := do
  let directory ← readDirectory dataSetName
  if directory.members.length ≠ members.length then
    throw (.error "Dynamic DataSet verification returned a different member count.")
  else if directory.members ≠ members then
    throw (.error "Dynamic DataSet verification returned different member ordering/content.")
  else pure directory

/-- A negotiated request in presentation data. -/
def wrapRequest (pdu : Bytes) (operation : String) : DataSetM Bytes := do
  let client ← get
  throwFormat (requireRequestWithinNegotiatedLimit client.association pdu operation)
  throwFormat (MmsPduCodec.wrapPData pdu client.association.presentationContextId)

def removeImpl (cause : DeleteCause) (normalizedReference : Bytes) :
    DataSetM MmsDeleteNamedVariableListResponse := do
  let dataSetName := parseDataSetReference normalizedReference
  let invokeId ← nextInvokeId
  let pdu ← throwFormat (encodeDeleteRequestPdu { invokeId := .ofNat invokeId, dataSetName })
  let encoded ← wrapRequest pdu "DeleteNamedVariableList"
  record (.deleteIssued cause dataSetName)
  let payload ← exchange encoded invokeId "DeleteNamedVariableList"
  let response ← throwFormat (decodeDeleteResponse payload (some (.ofNat invokeId)))
  if response.deleted then
    record (.deleted dataSetName)
    pure response
  else pure response

/-! ## Creation and removal -/

/-- The calls that need an association forget what they owned in an earlier one. -/
def requireScope (missing : String) : DataSetM Unit := fun client =>
  if client.association.associated then
    .ok () { client with
      runtime := client.runtime.synchronizeOwnershipScope client.association }
  else
    .error (.error missing) { client with runtime := client.runtime.clearOwnershipScope }

/-- The reference is owned from now on. -/
def takeOwnership (normalized : Bytes) : DataSetM Unit := fun client =>
  let runtime := { client.runtime with
    ownedDataSets := normalized :: client.runtime.ownedDataSets }
  if client.runtime.ownedDataSets = [] then
    let runtime := runtime.captureOwnershipScope client.association
    if runtime.ownershipScopeValid then .ok () { client with runtime }
    else
      .error (.error "Dynamic DataSet was created, but the current association ownership scope could not be retained safely.")
        { client with
          runtime := { runtime with
            ownedDataSets := runtime.ownedDataSets.filter (· ≠ normalized) } }
  else .ok () { client with runtime }

/-- Define the DataSet and see it confirmed. -/
def define (dataSetReference normalized : Bytes) (members : List MmsObjectName) :
    DataSetM MmsDefineNamedVariableListResponse := do
  let dataSetName := parseDataSetReference normalized
  let invokeId ← nextInvokeId
  let pdu ← throwFormat
    (encodeDefineRequestPdu { invokeId := .ofNat invokeId, dataSetName, members })
  let encoded ← wrapRequest pdu "DefineNamedVariableList"
  let payload ← exchange encoded invokeId "DefineNamedVariableList"
  let response ← throwFormat (decodeDefineResponse payload (some (.ofNat invokeId)))
  record (.defined dataSetReference dataSetName)
  pure response

/-- Verify the DataSet; one that does not verify is removed again. -/
def verifyOrRollback (normalized : Bytes) (members : List MmsObjectName) :
    DataSetM MmsDataSetDirectoryResponse := fun client =>
  match verify (parseDataSetReference normalized) members client with
  | .ok directory client => .ok directory client
  | .error failure client =>
    match removeImpl .rollback normalized client with
    | .ok _ client => .error failure client
    | .error _ client => .error failure client

def create (dataSetReference : Bytes) (members : List MmsObjectName) :
    DataSetM MmsDynamicDataSetCreateResult := do
  requireScope "Cannot create a dynamic DataSet without an active MMS association."
  let client ← get
  if members = [] ∨ members.length > client.runtime.options.maximumMembers then
    throw (.error "Dynamic DataSet member count exceeds the configured operational limit.")
  else
    throwFormat (validateMembers members)
    let normalized ← throwFormat (normalizeReference dataSetReference)
    if normalized ∈ client.runtime.ownedDataSets then
      throw (.error "This runtime already owns the requested dynamic DataSet reference in the current association scope.")
    else
      let defineResponse ← define dataSetReference normalized members
      if client.runtime.options.verifyAfterCreate then
        let directory ← verifyOrRollback normalized members
        takeOwnership normalized
        pure { dataSetReference := normalized, defineResponse, verifiedDirectory := some directory }
      else
        takeOwnership normalized
        pure { dataSetReference := normalized, defineResponse }

/-- The reference is not owned any more. -/
def dropOwnership (normalized : Bytes) : DataSetM Unit := fun client =>
  let runtime := { client.runtime with
    ownedDataSets := client.runtime.ownedDataSets.filter (· ≠ normalized) }
  .ok () { client with
    runtime := if runtime.ownedDataSets = [] then runtime.clearOwnershipScope else runtime }

def remove (dataSetReference : Bytes) (policy : MmsDynamicDataSetDeletePolicy) :
    DataSetM MmsDeleteNamedVariableListResponse := do
  requireScope "Cannot delete a dynamic DataSet without an active MMS association."
  let normalized ← throwFormat (normalizeReference dataSetReference)
  let client ← get
  if normalized ∉ client.runtime.ownedDataSets ∧ policy ≠ .explicitOverride then
    throw (.error "Refusing to delete a DataSet not created in the current association scope; use explicit_override intentionally.")
  else
    let response ← removeImpl (.remove policy dataSetReference) normalized
    if response.deleted ∨ response.numberMatched.getD 1 = 0 then
      dropOwnership normalized
      pure response
    else pure response

/-- `owns`, which forgets too; a reference that cannot be normalised is not owned. -/
def owns (dataSetReference : Bytes) (client : DataSetClient) : Bool × DataSetClient :=
  let runtime := client.runtime.synchronizeOwnershipScope client.association
  let client := { client with runtime }
  match normalizeReference dataSetReference with
  | .ok normalized => (decide (normalized ∈ runtime.ownedDataSets), client)
  | .error _ => (false, client)

end MmsDynamicDataSetRuntime

end ArStack.Mms
