import ArStack.Asn1.BerSpanReader
import ArStack.Lib.Program

/-!
# Static boolean controls

The callbacks of one controllable Boolean: the Oper, SBOw and Cancel writes and the SBO read of
its associations. They share the selection, an owner word and a deadline word, each of them
atomic; a callback is a program over the two words, the clock and the process.

* `decodeCommand` — the control structure of a write
* `acquireSelection`, `ownsLiveSelection`, `releaseSelection` — the selection
* `applyOperate`, `booleanWriteSbowContextual`, `booleanWriteCancelContextual`,
  `sboNormalRead` — the callbacks
* `performAction` — an action on the shared state
* `serve` — the program of a request
-/

namespace ArStack.Mms

open ArStack.Asn1 ArStack.Wire ArStack.Lib

inductive MmsStaticControlModel where
  | statusOnly
  | directNormal
  | sboNormal
  | directEnhanced
  | sboEnhanced
  deriving DecidableEq

structure MmsStaticWriteResult where
  success : Bool := false
  failureCode : UInt32 := 0
  deriving DecidableEq

structure MmsStaticRequestAccessContext where
  associationId : UInt64 := 0
  owner : Bytes := []
  deriving DecidableEq

def MmsStaticRequestAccessContext.valid (access : MmsStaticRequestAccessContext) : Bool :=
  access.associationId != 0 && !access.owner.isEmpty

structure MmsStaticDirectBooleanOperate where
  controlValue : Bool := false
  originCategory : UInt8 := 0
  /-- The used octets; the array behind them is zero. -/
  originIdentifier : Bytes := []
  controlNumber : UInt8 := 0
  timestamp : Bytes := List.replicate 8 0
  test : Bool := false
  synchroCheck : Bool := false
  interlockCheck : Bool := false
  deriving DecidableEq

/-- What the associations share. -/
structure MmsStaticDirectBooleanSharedState where
  value : UInt8 := 0
  selectedAssociationId : UInt64 := 0
  selectionDeadlineMs : UInt64 := 0
  deriving DecidableEq

/-- What belongs to one association. -/
structure MmsStaticDirectBooleanControlState where
  value : UInt8 := 0
  lastControlNumber : UInt8 := 0
  lastTest : Bool := false
  acceptedOperations : Nat := 0
  rejectedOperations : Nat := 0
  selected : Bool := false
  selectedWithValue : Bool := false
  selectedCommand : MmsStaticDirectBooleanOperate := {}
  pendingTermination : Bool := false
  terminationCommand : MmsStaticDirectBooleanOperate := {}
  deriving DecidableEq

structure MmsStaticDirectBooleanControlPolicy where
  allowTest : Bool := true
  allowSynchroCheck : Bool := false
  allowInterlockCheck : Bool := false
  malformedFailureCode : UInt32 := 7
  invalidValueFailureCode : UInt32 := 11
  backendFailureCode : UInt32 := 10
  temporarilyUnavailableCode : UInt32 := 2
  deriving DecidableEq

structure MmsStaticDirectBooleanControlBinding where
  /-- An apply callback is configured. -/
  apply : Bool := true
  policy : MmsStaticDirectBooleanControlPolicy := {}
  model : MmsStaticControlModel := .directNormal
  associationId : UInt64 := 0
  selectionReference : Bytes := []
  sboTimeoutMs : UInt64 := 10000
  deriving DecidableEq

/-! ## Decoding a command -/

def contextTag (tlv : BerTlvView) (tag : Nat) (constructed : Bool) : Bool :=
  tlv.tagClass == .contextSpecific && tlv.tagNumber == tag && tlv.constructed == constructed

def decodeBoolean (tlv : BerTlvView) : Option Bool :=
  if !contextTag tlv 3 false || tlv.value.length != 1 then none
  else some (tlv.value.headD 0 != 0)

/-- The next TLV, if it has this tag. -/
def readNextTag (source : Bytes) (tag : Nat) (constructed : Bool) : Option (BerTlvView × Bytes) := do
  let (tlv, rest) ← BerSpanReader.tryReadTlv source
  if contextTag tlv tag constructed then some (tlv, rest) else none

/-- `orCat` is an INTEGER that is not negative or an unsigned one; both fit an octet. -/
def originCategory (orCat : BerTlvView) : Option UInt8 := do
  let value ←
    if contextTag orCat 5 false then
      (BerSpanReader.readSignedInteger orCat).bind fun value =>
        if value ≥ 0 then some value.toNat else none
    else if contextTag orCat 6 false then BerSpanReader.readUnsignedInteger orCat
    else none
  if value > 0xFF then none else some (UInt8.ofNat value)

def decodeOrigin (origin : BerTlvView) : Option (UInt8 × Bytes) := do
  let (orCat, rest) ← BerSpanReader.tryReadTlv origin.value
  let category ← originCategory orCat
  let (orIdent, rest) ← readNextTag rest 9 false
  if orIdent.value.length > 64 ∨ rest ≠ [] then none else some (category, orIdent.value)

def decodeCheck (check : BerTlvView) : Option (Bool × Bool) :=
  match check.value with
  | [unused, bits] =>
    if unused = 6 ∧ bits &&& 0x3F = 0 then some (bits &&& 0x80 != 0, bits &&& 0x40 != 0) else none
  | _ => none

def decodeControlNumber (ctlNum : BerTlvView) : Option UInt8 :=
  (BerSpanReader.readUnsignedInteger ctlNum).bind fun value =>
    if value > 0xFF then none else some (UInt8.ofNat value)

def decodeCommand (encodedData : Bytes) (requireCheck : Bool) :
    Option MmsStaticDirectBooleanOperate := do
  let outer ← BerSpanReader.tryReadExact encodedData
  if !contextTag outer 2 true then none
  else
    let (ctlVal, rest) ← BerSpanReader.tryReadTlv outer.value
    let controlValue ← decodeBoolean ctlVal
    let (origin, rest) ← readNextTag rest 2 true
    let (category, identifier) ← decodeOrigin origin
    let (ctlNum, rest) ← readNextTag rest 6 false
    let controlNumber ← decodeControlNumber ctlNum
    let (timestamp, rest) ← readNextTag rest 17 false
    if timestamp.value.length != 8 then none
    else
      let (test, rest) ← BerSpanReader.tryReadTlv rest
      let test ← decodeBoolean test
      let command : MmsStaticDirectBooleanOperate :=
        { controlValue
          originCategory := category
          originIdentifier := identifier
          controlNumber
          timestamp := timestamp.value
          test }
      if !requireCheck then if rest = [] then some command else none
      else
        let (check, rest) ← readNextTag rest 4 false
        let (synchroCheck, interlockCheck) ← decodeCheck check
        if rest = [] then some { command with synchroCheck, interlockCheck } else none

def tryDecodeStaticDirectBooleanOperate (encodedData : Bytes) :
    Option MmsStaticDirectBooleanOperate := decodeCommand encodedData true

def tryDecodeStaticBooleanCancel (encodedData : Bytes) : Option MmsStaticDirectBooleanOperate :=
  decodeCommand encodedData false

/-! ## Actions -/

/-- The clock, the two words of the selection, the shared value and the process. -/
inductive ControlAction where
  | now
  | loadOwner
  | loadDeadline
  | casOwner (expected desired : UInt64)
  | storeDeadline (deadline : UInt64)
  | storeValue (value : UInt8)
  | apply (value : Bool)
  deriving DecidableEq

/-- What an action is answered; a compare-exchange tells whether it was successful. -/
def ControlAction.Response : ControlAction → Type
  | .now | .loadOwner | .loadDeadline => UInt64
  | .casOwner _ _ | .apply _ => Bool
  | .storeDeadline _ | .storeValue _ => Unit

abbrev ControlProgram := Program ControlAction ControlAction.Response

/-- What the environment contributes: the clock, and what the process makes of a command. -/
structure ControlInput where
  nowMs : UInt64 := 0
  applied : Bool := true
  deriving DecidableEq

/-- An action on the shared state. -/
def performAction (input : ControlInput) (action : ControlAction)
    (shared : MmsStaticDirectBooleanSharedState) :
    action.Response × MmsStaticDirectBooleanSharedState :=
  match action with
  | .now => (input.nowMs, shared)
  | .loadOwner => (shared.selectedAssociationId, shared)
  | .loadDeadline => (shared.selectionDeadlineMs, shared)
  | .casOwner expected desired =>
    if shared.selectedAssociationId = expected then
      (true, { shared with selectedAssociationId := desired })
    else (false, shared)
  | .storeDeadline deadline => ((), { shared with selectionDeadlineMs := deadline })
  | .storeValue value => ((), { shared with value := value })
  | .apply _ => (input.applied, shared)

namespace ControlProgram

def now : ControlProgram UInt64 := .perform ControlAction.now
def loadOwner : ControlProgram UInt64 := .perform ControlAction.loadOwner
def loadDeadline : ControlProgram UInt64 := .perform ControlAction.loadDeadline
def casOwner (expected desired : UInt64) : ControlProgram Bool :=
  .perform (ControlAction.casOwner expected desired)
def storeDeadline (deadline : UInt64) : ControlProgram Unit :=
  .perform (ControlAction.storeDeadline deadline)
def storeValue (value : UInt8) : ControlProgram Unit := .perform (ControlAction.storeValue value)
def apply (value : Bool) : ControlProgram Bool := .perform (ControlAction.apply value)

end ControlProgram

/-! ## The selection -/

namespace MmsStaticDirectBooleanControlBinding

open ControlProgram

variable (binding : MmsStaticDirectBooleanControlBinding)

/-- A deadline that has passed; zero is none. -/
def deadlinePassed (deadline now : UInt64) : Bool := deadline != 0 && decide (now ≥ deadline)

def selectionExpired (now : UInt64) : ControlProgram Bool := do
  let deadline ← loadDeadline
  pure (deadlinePassed deadline now)

def clearLocalSelection (state : MmsStaticDirectBooleanControlState) :
    MmsStaticDirectBooleanControlState :=
  { state with selected := false, selectedWithValue := false, selectedCommand := {} }

/-- Give up the owner word of `owner` and, when it was its own, the deadline. -/
def clearOwner (owner : UInt64) : ControlProgram Unit := do
  let cleared ← casOwner owner 0
  if cleared then storeDeadline 0 else pure ()

def releaseSelection (state : MmsStaticDirectBooleanControlState) :
    ControlProgram MmsStaticDirectBooleanControlState := do
  if binding.associationId ≠ 0 then clearOwner binding.associationId else pure ()
  pure (clearLocalSelection state)

/-- Store the deadline of a selection made at `now`. -/
def settleSelection (now : UInt64) : ControlProgram Bool := do
  storeDeadline (now + binding.sboTimeoutMs)
  pure true

/-- The loop of `acquire_selection`, with the attempts that are left. -/
def acquireAttempts (now : UInt64) : Nat → ControlProgram Bool
  | 0 => pure false
  | attempts + 1 => do
    let owner ← loadOwner
    if owner = binding.associationId then binding.settleSelection now
    else if owner ≠ 0 then
      let expired ← selectionExpired now
      if !expired then pure false
      else
        clearOwner owner
        acquireAttempts now attempts
    else
      let claimed ← casOwner 0 binding.associationId
      if claimed then binding.settleSelection now else acquireAttempts now attempts

def acquireSelection : ControlProgram Bool := do
  if binding.associationId = 0 ∨ binding.sboTimeoutMs = 0 then pure false
  else
    let now ← now
    binding.acquireAttempts now 4

/-- With the local state, which an expired selection clears. -/
def ownsLiveSelection (state : MmsStaticDirectBooleanControlState) :
    ControlProgram (Bool × MmsStaticDirectBooleanControlState) := do
  if binding.associationId = 0 then pure (false, state)
  else
    let owner ← loadOwner
    if owner ≠ binding.associationId then pure (false, state)
    else
      let now ← now
      let expired ← selectionExpired now
      if !expired then pure (true, state)
      else
        let state ← binding.releaseSelection state
        pure (false, state)

/-- The commands belong together; the time stamp is not compared. -/
def sameSelectedSequence (left right : MmsStaticDirectBooleanOperate) (compareCheck : Bool) : Bool :=
  left.controlValue == right.controlValue && left.originCategory == right.originCategory &&
    left.originIdentifier == right.originIdentifier && left.controlNumber == right.controlNumber &&
    left.test == right.test &&
    (!compareCheck ||
      (left.synchroCheck == right.synchroCheck && left.interlockCheck == right.interlockCheck))

def validCommand (command : MmsStaticDirectBooleanOperate) : Bool :=
  decide (command.originCategory ≤ 8) && (!command.test || binding.policy.allowTest) &&
    (!command.synchroCheck || binding.policy.allowSynchroCheck) &&
    (!command.interlockCheck || binding.policy.allowInterlockCheck)

def requiresSelection : Bool := binding.model == .sboNormal || binding.model == .sboEnhanced

def enhanced : Bool := binding.model == .directEnhanced || binding.model == .sboEnhanced

/-! ## The callbacks -/

/-- A rejected write. -/
def reject (state : MmsStaticDirectBooleanControlState) (failureCode : UInt32) :
    MmsStaticWriteResult × MmsStaticDirectBooleanControlState :=
  (⟨false, failureCode⟩, { state with rejectedOperations := state.rejectedOperations + 1 })

/-- The binding is used by the association that owns it. -/
def associationGuard (access : MmsStaticRequestAccessContext) : MmsStaticWriteResult :=
  if !access.valid || binding.associationId == 0 ||
      access.associationId != binding.associationId then ⟨false, 3⟩
  else ⟨true, 0⟩

/-- The local state after an accepted Oper, but for the selection. -/
def acceptOperate (state : MmsStaticDirectBooleanControlState)
    (operate : MmsStaticDirectBooleanOperate) : MmsStaticDirectBooleanControlState :=
  { state with
    value := if operate.test then state.value else if operate.controlValue then 1 else 0
    lastControlNumber := operate.controlNumber
    lastTest := operate.test
    acceptedOperations := state.acceptedOperations + 1 }

/-- An enhanced control owes the client a termination. -/
def oweTermination (state : MmsStaticDirectBooleanControlState)
    (operate : MmsStaticDirectBooleanOperate) : MmsStaticDirectBooleanControlState :=
  if binding.enhanced then
    { state with terminationCommand := operate, pendingTermination := true }
  else state

/-- Whether the process takes the command; a test does not reach it. -/
def applyCommand (operate : MmsStaticDirectBooleanOperate) : ControlProgram Bool :=
  if !operate.test && binding.apply then ControlProgram.apply operate.controlValue else pure true

/-- Publish the command, unless it is a test. -/
def storeCommand (operate : MmsStaticDirectBooleanOperate) : ControlProgram Unit :=
  if !operate.test then storeValue (if operate.controlValue then 1 else 0) else pure ()

/-- An accepted Oper uses the selection up. -/
def consumeSelection (state : MmsStaticDirectBooleanControlState) :
    ControlProgram MmsStaticDirectBooleanControlState :=
  if binding.requiresSelection then binding.releaseSelection state else pure state

/-- From the selection on. -/
def finishOperate (state : MmsStaticDirectBooleanControlState)
    (operate : MmsStaticDirectBooleanOperate) :
    ControlProgram (MmsStaticWriteResult × MmsStaticDirectBooleanControlState) := do
  let applied ← binding.applyCommand operate
  if !applied then pure (reject state binding.policy.backendFailureCode)
  else
    storeCommand operate
    let state ← binding.consumeSelection (acceptOperate state operate)
    pure (⟨true, 0⟩, binding.oweTermination state operate)

/-- The selection gate of `apply_operate`. -/
def operateGate (state : MmsStaticDirectBooleanControlState) :
    ControlProgram (Bool × MmsStaticDirectBooleanControlState) :=
  if binding.requiresSelection then binding.ownsLiveSelection state else pure (true, state)

def applyOperate (encodedData : Bytes) (state : MmsStaticDirectBooleanControlState) :
    ControlProgram (MmsStaticWriteResult × MmsStaticDirectBooleanControlState) :=
  match tryDecodeStaticDirectBooleanOperate encodedData with
  | none => pure (reject state binding.policy.malformedFailureCode)
  | some operate =>
    if !binding.validCommand operate then
      pure (reject state binding.policy.invalidValueFailureCode)
    else do
      let (live, state) ← binding.operateGate state
      if !live then pure (reject state binding.policy.temporarilyUnavailableCode)
      else if binding.model = .sboEnhanced ∧
          (!state.selectedWithValue ||
            !sameSelectedSequence state.selectedCommand operate true) then
        pure (reject state binding.policy.invalidValueFailureCode)
      else if binding.enhanced && state.pendingTermination then
        pure (reject state binding.policy.temporarilyUnavailableCode)
      else binding.finishOperate state operate

/-- The Oper write of a regular object entry. -/
def directBooleanWriteOper (encodedData : Bytes) (state : MmsStaticDirectBooleanControlState) :
    ControlProgram (MmsStaticWriteResult × MmsStaticDirectBooleanControlState) :=
  binding.applyOperate encodedData state

def booleanWriteOperContextual (encodedData : Bytes) (access : MmsStaticRequestAccessContext)
    (state : MmsStaticDirectBooleanControlState) :
    ControlProgram (MmsStaticWriteResult × MmsStaticDirectBooleanControlState) :=
  let guarded := binding.associationGuard access
  if !guarded.success then pure (guarded, state) else binding.applyOperate encodedData state

def booleanWriteSbowContextual (encodedData : Bytes) (access : MmsStaticRequestAccessContext)
    (state : MmsStaticDirectBooleanControlState) :
    ControlProgram (MmsStaticWriteResult × MmsStaticDirectBooleanControlState) :=
  let guarded := binding.associationGuard access
  if !guarded.success then pure (guarded, state)
  else if binding.model ≠ .sboEnhanced then
    pure (⟨false, binding.policy.invalidValueFailureCode⟩, state)
  else
    match tryDecodeStaticDirectBooleanOperate encodedData with
    | none => pure (reject state binding.policy.malformedFailureCode)
    | some command =>
      if !binding.validCommand command then
        pure (reject state binding.policy.invalidValueFailureCode)
      else do
        let acquired ← binding.acquireSelection
        if !acquired then pure (reject state binding.policy.temporarilyUnavailableCode)
        else
          pure (⟨true, 0⟩,
            { state with
              selected := true
              selectedWithValue := true
              selectedCommand := command })

def booleanWriteCancelContextual (encodedData : Bytes) (access : MmsStaticRequestAccessContext)
    (state : MmsStaticDirectBooleanControlState) :
    ControlProgram (MmsStaticWriteResult × MmsStaticDirectBooleanControlState) :=
  let guarded := binding.associationGuard access
  if !guarded.success then pure (guarded, state)
  else if !binding.requiresSelection then
    pure (⟨false, binding.policy.invalidValueFailureCode⟩, state)
  else
    match tryDecodeStaticBooleanCancel encodedData with
    | none => pure (reject state binding.policy.malformedFailureCode)
    | some command =>
      if !binding.validCommand command then
        pure (reject state binding.policy.invalidValueFailureCode)
      else do
        let (live, state) ← binding.ownsLiveSelection state
        if !live then pure (reject state binding.policy.invalidValueFailureCode)
        else if binding.model = .sboEnhanced ∧
            (!state.selectedWithValue ||
              !sameSelectedSequence state.selectedCommand command false) then
          pure (reject state binding.policy.invalidValueFailureCode)
        else
          let state ← binding.releaseSelection state
          pure (⟨true, 0⟩, state)

/-- The length field of a VisibleString. -/
def visibleStringLength (size : Nat) : Option Bytes :=
  if size < 0x80 then some [UInt8.ofNat size]
  else if size ≤ 0xFF then some [0x81, UInt8.ofNat size]
  else if size ≤ 0xFFFF then some [0x82, UInt8.ofNat (size >>> 8), UInt8.ofNat size]
  else none

def encodeVisibleString (value : Bytes) (destinationSize : Nat) : EncodeResult :=
  match visibleStringLength value.length with
  | none => { status := .valueOutOfRange }
  | some length =>
    let required := 1 + length.length + value.length
    if destinationSize < required then { status := .bufferTooSmall, requiredBytes := required }
    else { bytes := 0x8A :: length ++ value, requiredBytes := required }

/-- The SBO read, with whether it has selected; a reference that does not fit the destination
is not reported, but selected. -/
def sboNormalRead (destinationSize : Nat) (state : MmsStaticDirectBooleanControlState) :
    ControlProgram ((Bool × EncodeResult) × MmsStaticDirectBooleanControlState) :=
  if binding.model ≠ .sboNormal ∨ binding.selectionReference = [] then
    pure ((false, { status := .valueOutOfRange }), state)
  else do
    let acquired ← binding.acquireSelection
    if !acquired then pure ((false, encodeVisibleString [] destinationSize), state)
    else
      pure ((true, encodeVisibleString binding.selectionReference destinationSize),
        { state with selected := true, selectedWithValue := false })

def controlOnAssociationClosed (state : MmsStaticDirectBooleanControlState) :
    ControlProgram MmsStaticDirectBooleanControlState := do
  let state ← binding.releaseSelection state
  pure { state with pendingTermination := false, terminationCommand := {} }

/-! ## Requests -/

/-- What an association asks of the control; the regular Oper write has no access context. -/
inductive ControlRequest where
  | read (destinationSize : Nat)
  | sbow (encodedData : Bytes) (access : MmsStaticRequestAccessContext)
  | oper (encodedData : Bytes) (access : Option MmsStaticRequestAccessContext)
  | cancel (encodedData : Bytes) (access : MmsStaticRequestAccessContext)
  | close
  deriving DecidableEq

inductive ControlResult where
  | read (acquired : Bool) (result : EncodeResult)
  | write (result : MmsStaticWriteResult)
  | closed
  deriving DecidableEq

/-- The selection was made, or the write accepted. -/
def ControlResult.accepted : ControlResult → Bool
  | .read acquired _ => acquired
  | .write result => result.success
  | .closed => true

/-- The program of a request on the local state of its association. -/
def serve (state : MmsStaticDirectBooleanControlState) :
    ControlRequest → ControlProgram (ControlResult × MmsStaticDirectBooleanControlState)
  | .read destinationSize => do
    let ((acquired, result), state) ← binding.sboNormalRead destinationSize state
    pure (.read acquired result, state)
  | .sbow encodedData access => do
    let (result, state) ← binding.booleanWriteSbowContextual encodedData access state
    pure (.write result, state)
  | .oper encodedData none => do
    let (result, state) ← binding.directBooleanWriteOper encodedData state
    pure (.write result, state)
  | .oper encodedData (some access) => do
    let (result, state) ← binding.booleanWriteOperContextual encodedData access state
    pure (.write result, state)
  | .cancel encodedData access => do
    let (result, state) ← binding.booleanWriteCancelContextual encodedData access state
    pure (.write result, state)
  | .close => do
    let state ← binding.controlOnAssociationClosed state
    pure (.closed, state)

end MmsStaticDirectBooleanControlBinding

end ArStack.Mms
