import ArStack.Lib.StableSort
import ArStack.Mms.ServicesSpan
import ArStack.Mms.StaticConnectionRuntime

/-!
# Writes of the static dispatcher

The writes of one request are executed in the order that their transaction groups ask for.

* `buildWriteExecutionOrder` — the order, group by group
* `executeWrites` — the writes, in that order
* `dispatchWrite` — a Write request and its response
-/

namespace ArStack.Mms

open ArStack.Asn1 ArStack.Lib ArStack.Wire

structure MmsStaticDispatchPolicy where
  maximumNamesPerResponse : Nat := 100
  maximumWriteVariables : Nat := 1
  missingObjectFailureCode : UInt32 := 10
  accessDeniedFailureCode : UInt32 := 3
  backendFailureCode : UInt32 := 10
  advertiseFlattenedChildAliases : Bool := false
  deriving DecidableEq

namespace MmsStaticApplicationDispatcher

def makeStatus (status : MmsStaticDispatchStatus) (request : MmsConfirmedPduView)
    (requiredBytes : Nat := 0) : MmsStaticDispatchResult :=
  { status, service := request.service, invokeId := request.invokeId, requiredBytes }

def makeEncoded (request : MmsConfirmedPduView) (encoded : EncodeResult) :
    MmsStaticDispatchResult :=
  if encoded.success then
    { status := .responseReady, service := request.service, invokeId := request.invokeId,
      bytes := encoded.bytes, requiredBytes := encoded.requiredBytes }
  else if encoded.status = .bufferTooSmall then
    makeStatus .responseBufferTooSmall request encoded.requiredBytes
  else makeStatus .backendFailure request

/-! ## Order -/

/-- One item of a request: the object that it names, if there is one, and its value. -/
structure WriteItem where
  object : Option MmsStaticObjectEntry
  value : Bytes
  deriving DecidableEq

def decodeWriteBoolean (encoded : Bytes) : Option Bool := do
  let tlv ← BerSpanReader.tryReadExact encoded
  if tlv.tagClass ≠ .contextSpecific ∨ tlv.tagNumber ≠ 3 ∨ tlv.constructed ∨
      tlv.value.length ≠ 1 then none
  else some (octetAt tlv.value 0 != 0)

def writePhase (object : MmsStaticObjectEntry) (value : Bytes) : Nat :=
  match object.writeSemantic with
  | .rcbEnable => if decodeWriteBoolean value = some false then 0 else 2
  | .rcbConfiguration => 1
  | .rcbGeneralInterrogation => 3
  | .ordinary => 1

/-- The transaction group of an item. -/
def groupAt (items : List WriteItem) (index : Nat) : Option Nat := do
  let item ← items[index]?
  let object ← item.object
  object.writeTransactionGroup

/-- The phase of an item; only items of a group are asked for it. -/
def phaseAt (items : List WriteItem) (index : Nat) : Nat :=
  match items[index]? with
  | some { object := some object, value } => writePhase object value
  | _ => 0

/-- The group of `first` is ordered, unless an earlier item is of that group. -/
def orderGroup (items : List WriteItem) (order : List Nat) (first : Nat) : List Nat :=
  match groupAt items first with
  | none => order
  | some group =>
    if (List.range first).any fun previous => groupAt items previous == some group then order
    else
      let positions := ((List.range items.length).drop first).filter fun index =>
        groupAt items index == some group
      place order (positions.zip (stableSort (phaseAt items) positions))

def buildWriteExecutionOrder (items : List WriteItem) : List Nat :=
  (List.range items.length).foldl (orderGroup items) (List.range items.length)

/-! ## Execution -/

/-- The write callbacks of the objects, over the state that they share. -/
structure WriteBackend (σ : Type) where
  write : MmsStaticObjectEntry → Bytes → σ → MmsStaticWriteResult × σ
  contextualWrite : MmsStaticObjectEntry → Bytes → MmsStaticRequestAccessContext → σ →
    MmsStaticWriteResult × σ

section Execution

variable {σ : Type} (backend : WriteBackend σ) (policy : MmsStaticDispatchPolicy)
  (access : MmsStaticRequestAccessContext)

def executeWrite (item : WriteItem) (state : σ) : MmsWriteAccessResultInput × σ :=
  match item.object with
  | none => ({ success := false, failureCode := policy.missingObjectFailureCode }, state)
  | some object =>
    if !object.writable then
      ({ success := false, failureCode := policy.accessDeniedFailureCode }, state)
    else
      let (applied, state) :=
        if object.contextualWrite then backend.contextualWrite object item.value access state
        else backend.write object item.value state
      ({ success := applied.success,
         failureCode := if applied.success then 0 else applied.failureCode }, state)

structure WriteProgress (σ : Type) where
  results : List MmsWriteAccessResultInput
  state : σ

def executeAt (items : List WriteItem) (progress : WriteProgress σ) (index : Nat) :
    WriteProgress σ :=
  match items[index]? with
  | none => progress
  | some item =>
    let (result, state) := executeWrite backend policy access item progress.state
    { results := progress.results.set index result, state }

/-- The writes at these indices, one after the other. -/
def executeWrites (items : List WriteItem) (order : List Nat) (state : σ) : WriteProgress σ :=
  order.foldl (executeAt backend policy access items)
    { results := List.replicate items.length {}, state }

/-- The objects that a request names, with the values for them. -/
def resolveItems (objects : MmsStaticObjectTable) (request : MmsWriteRequestView) :
    List WriteItem :=
  List.zipWith (fun name value => { object := objects.find name, value }) request.names request.data

def dispatchWrite (objects : MmsStaticObjectTable) (confirmed : MmsConfirmedPduView)
    (responseSize : Nat) (state : σ) : MmsStaticDispatchResult × σ :=
  match MmsServiceSpanCodec.tryDecodeWriteRequest confirmed with
  | none => (makeStatus .malformedRequest confirmed, state)
  | some request =>
    if request.names.length > policy.maximumWriteVariables then
      (makeStatus .unsupportedRequest confirmed, state)
    else
      let items := resolveItems objects request
      let executed :=
        executeWrites backend policy access items (buildWriteExecutionOrder items) state
      (makeEncoded confirmed (MmsServiceSpanCodec.encodeWriteResponseInto confirmed.invokeId
        executed.results responseSize), executed.state)

end Execution

end MmsStaticApplicationDispatcher

end ArStack.Mms
