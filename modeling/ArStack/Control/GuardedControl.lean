import ArStack.Lib.History
import ArStack.Wire

/-!
# The guarded control planner

The planner of one controllable data object decides which service action of a client may go out.
The object, the model and the policy stay as they are; the rest is its state.

* `GuardedControlPlanner.select`, `selectWithValue`, `operate`, `cancel`
* `commandTermination`, `onAssociationClosed`, `tick`
* `GuardedControlPlanner.step` — a call of any of them
-/

namespace ArStack.Control

inductive ControlModel where
  | statusOnly
  | directNormal
  | selectBeforeOperateNormal
  | directEnhanced
  | selectBeforeOperateEnhanced
  /-- `unknown` and every value that has no name. -/
  | unknown
  deriving DecidableEq

inductive ControlAction where
  | select
  | selectWithValue
  | operate
  | cancel
  deriving DecidableEq

inductive ControlError where
  | noError
  | unknown
  | timeoutTest
  | operatorTest
  deriving DecidableEq

inductive AddCause where
  | unknown
  | notSupported
  | blockedBySwitchingHierarchy
  | selectFailed
  | invalidPosition
  | positionReached
  | parameterChangeInExecution
  | stepLimit
  | blockedByMode
  | blockedByProcess
  | blockedByInterlocking
  | blockedBySynchrocheck
  | commandAlreadyInExecution
  | blockedByHealth
  | oneOfNControl
  | abortionByCancel
  | timeLimitOver
  | abortionByTrip
  | objectNotSelected
  | objectAlreadySelected
  | noAccessAuthority
  | endedWithOvershoot
  | abortionDueToDeviation
  | abortionByCommunicationLoss
  | abortionByCommand
  | none
  | inconsistentParameters
  | lockedByOtherClient
  deriving DecidableEq

inductive GuardedControlStatus where
  | ok
  | acceptedWaitingTermination
  | positiveTermination
  | negativeTermination
  | unsupported
  | invalidIdentity
  | invalidSequence
  | accessDenied
  | objectNotSelected
  | objectAlreadySelected
  | lockedByOtherClient
  | selectionExpired
  | sequenceMismatch
  | commandAlreadyInExecution
  | noActiveSelection
  | noPendingTermination
  deriving DecidableEq

structure ControlObjectReference where
  domain : Bytes := []
  logicalNode : Bytes := []
  dataObjectPath : Bytes := []
  deriving DecidableEq

def ControlObjectReference.valid (object : ControlObjectReference) : Bool :=
  !object.domain.isEmpty && !object.logicalNode.isEmpty && !object.dataObjectPath.isEmpty

structure ControlClientIdentity where
  associationId : UInt64 := 0
  deriving DecidableEq

def ControlClientIdentity.valid (client : ControlClientIdentity) : Bool := client.associationId != 0

/-- The origin category as its number, since `valid` checks its range. -/
structure ControlSequenceView where
  controlValue : Bytes := []
  originCategory : UInt8 := 2
  originIdentifier : Bytes := []
  /-- Zero for a number that the planner assigns. -/
  controlNumber : UInt8 := 0
  timestampToken : UInt64 := 0
  operateAtToken : UInt64 := 0
  test : Bool := false
  interlockCheck : Bool := false
  synchroCheck : Bool := false
  deriving DecidableEq

def ControlSequenceView.valid (sequence : ControlSequenceView) : Bool :=
  !sequence.controlValue.isEmpty && sequence.originIdentifier.length ≤ 64 &&
    sequence.originCategory ≤ 8

structure GuardedControlDecision where
  status : GuardedControlStatus := .unsupported
  action : ControlAction := .operate
  controlNumber : UInt8 := 0
  controlError : ControlError := .noError
  addCause : AddCause := .none
  deriving DecidableEq

def GuardedControlDecision.accepted (decision : GuardedControlDecision) : Bool :=
  decision.status == .ok || decision.status == .acceptedWaitingTermination ||
    decision.status == .positiveTermination

/-- `authorize` sees what its context holds when it is called; `none` denies everything. -/
structure GuardedControlPolicy (Context : Type) where
  sboTimeoutMs : UInt64 := 10000
  authorize : Option (Context → ControlAction → ControlObjectReference → ControlClientIdentity →
    ControlSequenceView → Bool) := none

structure SequenceFingerprint where
  valueHash : UInt64 := 0
  originHash : UInt64 := 0
  valueBytes : Nat := 0
  originBytes : Nat := 0
  originCategory : UInt8 := 2
  controlNumber : UInt8 := 0
  timestampToken : UInt64 := 0
  operateAtToken : UInt64 := 0
  test : Bool := false
  interlockCheck : Bool := false
  synchroCheck : Bool := false
  deriving DecidableEq

/-- What the calls change. -/
structure GuardedControlState where
  activeSequence : SequenceFingerprint := {}
  ownerAssociationId : UInt64 := 0
  selectionExpiresAtMs : UInt64 := 0
  nextControlNumber : UInt8 := 0
  selected : Bool := false
  waitingForTermination : Bool := false
  deriving DecidableEq

structure GuardedControlPlanner (Context : Type) where
  object : ControlObjectReference := {}
  model : ControlModel := .unknown
  policy : GuardedControlPolicy Context := {}

def modelRequiresSelect (model : ControlModel) : Bool :=
  model == .selectBeforeOperateNormal || model == .selectBeforeOperateEnhanced

def modelIsEnhanced (model : ControlModel) : Bool :=
  model == .directEnhanced || model == .selectBeforeOperateEnhanced

def kFnvOffset : UInt64 := 14695981039346656037

def kFnvPrime : UInt64 := 1099511628211

def hashBytes (bytes : Bytes) : UInt64 :=
  bytes.foldl (fun hash byte => (hash ^^^ byte.toUInt64) * kFnvPrime) kFnvOffset

def fingerprint (sequence : ControlSequenceView) (assignedControlNumber : UInt8) :
    SequenceFingerprint where
  valueHash := hashBytes sequence.controlValue
  originHash := hashBytes sequence.originIdentifier
  valueBytes := sequence.controlValue.length
  originBytes := sequence.originIdentifier.length
  originCategory := sequence.originCategory
  controlNumber := assignedControlNumber
  timestampToken := sequence.timestampToken
  operateAtToken := sequence.operateAtToken
  test := sequence.test
  interlockCheck := sequence.interlockCheck
  synchroCheck := sequence.synchroCheck

/-- Every component of the fingerprint is compared. -/
def sequenceMatches (sequence : ControlSequenceView) (selected : SequenceFingerprint) : Bool :=
  fingerprint sequence
    (if sequence.controlNumber = 0 then selected.controlNumber else sequence.controlNumber) ==
      selected

namespace GuardedControlState

def reject (s : GuardedControlState) (action : ControlAction) (status : GuardedControlStatus)
    (addCause : AddCause) : GuardedControlDecision where
  status
  action
  controlNumber := s.activeSequence.controlNumber
  addCause

def nextNumber (s : GuardedControlState) : UInt8 :=
  if s.nextControlNumber ≥ 255 then 1 else s.nextControlNumber + 1

/-- The number and what the next number is assigned from. -/
def assignControlNumber (s : GuardedControlState) (sequence : ControlSequenceView) :
    UInt8 × UInt8 :=
  if sequence.controlNumber ≠ 0 then (sequence.controlNumber, s.nextControlNumber)
  else (s.nextNumber, s.nextNumber)

def clearActive (s : GuardedControlState) : GuardedControlState :=
  { s with
    activeSequence := {}
    ownerAssociationId := 0
    selectionExpiresAtMs := 0
    selected := false
    waitingForTermination := false }

def expired (s : GuardedControlState) (nowMs : UInt64) : Bool :=
  s.selected && s.selectionExpiresAtMs != 0 && nowMs ≥ s.selectionExpiresAtMs

def expireSelection (s : GuardedControlState) (nowMs : UInt64) : GuardedControlState :=
  if s.expired nowMs then s.clearActive else s

end GuardedControlState

open GuardedControlState

namespace GuardedControlPlanner

variable {Context : Type} (planner : GuardedControlPlanner Context)

def valid : Bool := planner.object.valid && planner.model != .unknown

def authorized (context : Context) (action : ControlAction) (client : ControlClientIdentity)
    (sequence : ControlSequenceView) : Bool :=
  planner.policy.authorize.any fun authorize => authorize context action planner.object client sequence

/-- The deadline of a selection that is granted now. Zero is no deadline. -/
def selectionDeadline (nowMs : UInt64) : UInt64 :=
  if planner.policy.sboTimeoutMs = 0 then 0
  else if nowMs > UInt64.ofNat sizeMax - planner.policy.sboTimeoutMs then UInt64.ofNat sizeMax
  else nowMs + planner.policy.sboTimeoutMs

/-- `select` and `select_with_value`, which differ in the action and the model they are for. -/
def selectFor (action : ControlAction) (model : ControlModel) (context : Context)
    (s : GuardedControlState) (client : ControlClientIdentity) (sequence : ControlSequenceView)
    (nowMs : UInt64) : GuardedControlDecision × GuardedControlState :=
  if planner.model ≠ model then (s.reject action .unsupported .notSupported, s)
  else if !client.valid then (s.reject action .invalidIdentity .noAccessAuthority, s)
  else if !sequence.valid then (s.reject action .invalidSequence .inconsistentParameters, s)
  else
    let s := s.expireSelection nowMs
    if s.waitingForTermination then
      (s.reject action .commandAlreadyInExecution .commandAlreadyInExecution, s)
    else if s.selected then
      if s.ownerAssociationId = client.associationId then
        (s.reject action .objectAlreadySelected .objectAlreadySelected, s)
      else (s.reject action .lockedByOtherClient .lockedByOtherClient, s)
    else if !planner.authorized context action client sequence then
      (s.reject action .accessDenied .noAccessAuthority, s)
    else
      let assigned := s.assignControlNumber sequence
      ({ status := .ok, action, controlNumber := assigned.1 },
        { s with
          activeSequence := fingerprint sequence assigned.1
          ownerAssociationId := client.associationId
          selectionExpiresAtMs := planner.selectionDeadline nowMs
          nextControlNumber := assigned.2
          selected := true })

def select := planner.selectFor .select .selectBeforeOperateNormal

def selectWithValue := planner.selectFor .selectWithValue .selectBeforeOperateEnhanced

/-- The part of `operate` that follows the checks, on a state with the sequence as active one. -/
def acceptOperate (s : GuardedControlState) (controlNumber : UInt8) :
    GuardedControlDecision × GuardedControlState :=
  if modelIsEnhanced planner.model then
    ({ status := .acceptedWaitingTermination, action := .operate, controlNumber },
      { s with waitingForTermination := true })
  else ({ status := .ok, action := .operate, controlNumber }, s.clearActive)

/-- `operate` of a model with selection, on a valid client and sequence. -/
def operateSelected (context : Context) (s : GuardedControlState) (client : ControlClientIdentity)
    (sequence : ControlSequenceView) (nowMs : UInt64) :
    GuardedControlDecision × GuardedControlState :=
  if s.expired nowMs then (s.reject .operate .selectionExpired .timeLimitOver, s.clearActive)
  else if !s.selected then (s.reject .operate .objectNotSelected .objectNotSelected, s)
  else if s.ownerAssociationId ≠ client.associationId then
    (s.reject .operate .lockedByOtherClient .lockedByOtherClient, s)
  else if !sequenceMatches sequence s.activeSequence then
    (s.reject .operate .sequenceMismatch .inconsistentParameters, s.clearActive)
  else if !planner.authorized context .operate client sequence then
    (s.reject .operate .accessDenied .noAccessAuthority, s.clearActive)
  else
    planner.acceptOperate { s with selected := false, selectionExpiresAtMs := 0 }
      s.activeSequence.controlNumber

/-- `operate` of a model without selection, on a valid client and sequence. -/
def operateDirect (context : Context) (s : GuardedControlState) (client : ControlClientIdentity)
    (sequence : ControlSequenceView) : GuardedControlDecision × GuardedControlState :=
  if !planner.authorized context .operate client sequence then
    (s.reject .operate .accessDenied .noAccessAuthority, s)
  else
    let assigned := s.assignControlNumber sequence
    planner.acceptOperate
      { s with
        activeSequence := fingerprint sequence assigned.1
        ownerAssociationId := client.associationId
        nextControlNumber := assigned.2 } assigned.1

def operate (context : Context) (s : GuardedControlState) (client : ControlClientIdentity)
    (sequence : ControlSequenceView) (nowMs : UInt64) :
    GuardedControlDecision × GuardedControlState :=
  if !planner.valid ∨ planner.model = .statusOnly then
    (s.reject .operate .unsupported .notSupported, s)
  else if !client.valid then (s.reject .operate .invalidIdentity .noAccessAuthority, s)
  else if !sequence.valid then (s.reject .operate .invalidSequence .inconsistentParameters, s)
  else if s.waitingForTermination then
    (s.reject .operate .commandAlreadyInExecution .commandAlreadyInExecution, s)
  else if modelRequiresSelect planner.model then
    planner.operateSelected context s client sequence nowMs
  else planner.operateDirect context s client sequence

def cancel (context : Context) (s : GuardedControlState) (client : ControlClientIdentity)
    (nowMs : UInt64) : GuardedControlDecision × GuardedControlState :=
  if !modelRequiresSelect planner.model then (s.reject .cancel .unsupported .notSupported, s)
  else if !client.valid then (s.reject .cancel .invalidIdentity .noAccessAuthority, s)
  else if s.expired nowMs then (s.reject .cancel .selectionExpired .timeLimitOver, s.clearActive)
  else if !s.selected then (s.reject .cancel .noActiveSelection .objectNotSelected, s)
  else if s.ownerAssociationId ≠ client.associationId then
    (s.reject .cancel .lockedByOtherClient .lockedByOtherClient, s)
  else if !planner.authorized context .cancel client {} then
    (s.reject .cancel .accessDenied .noAccessAuthority, s)
  else (s.reject .cancel .ok .abortionByCancel, s.clearActive)

def commandTermination (s : GuardedControlState) (error : ControlError) (addCause : AddCause) :
    GuardedControlDecision × GuardedControlState :=
  if !s.waitingForTermination then
    (s.reject .operate .noPendingTermination .unknown, s)
  else
    let positive := error == .noError && (addCause == .unknown || addCause == .none)
    ({ status := if positive then .positiveTermination else .negativeTermination
       action := .operate
       controlNumber := s.activeSequence.controlNumber
       controlError := error
       addCause }, s.clearActive)

def onAssociationClosed (s : GuardedControlState) (associationId : UInt64) : GuardedControlState :=
  if associationId ≠ 0 ∧ s.ownerAssociationId = associationId then s.clearActive else s

def tick (s : GuardedControlState) (nowMs : UInt64) : GuardedControlState := s.expireSelection nowMs

end GuardedControlPlanner

/-! ## Calls -/

/-- A call of the planner; `context` is what the context of the policy holds then. -/
inductive ControlCall (Context : Type) where
  | select (context : Context) (client : ControlClientIdentity) (sequence : ControlSequenceView)
    (nowMs : UInt64)
  | selectWithValue (context : Context) (client : ControlClientIdentity)
    (sequence : ControlSequenceView) (nowMs : UInt64)
  | operate (context : Context) (client : ControlClientIdentity) (sequence : ControlSequenceView)
    (nowMs : UInt64)
  | cancel (context : Context) (client : ControlClientIdentity) (nowMs : UInt64)
  | commandTermination (error : ControlError) (addCause : AddCause)
  | onAssociationClosed (associationId : UInt64)
  | tick (nowMs : UInt64)

/-- The time that the call is given. -/
def ControlCall.nowMs? {Context : Type} : ControlCall Context → Option UInt64
  | .select _ _ _ nowMs => some nowMs
  | .selectWithValue _ _ _ nowMs => some nowMs
  | .operate _ _ _ nowMs => some nowMs
  | .cancel _ _ nowMs => some nowMs
  | .commandTermination _ _ => none
  | .onAssociationClosed _ => none
  | .tick nowMs => some nowMs

/-- The calls that return nothing answer `none`. -/
def GuardedControlPlanner.step {Context : Type} (planner : GuardedControlPlanner Context)
    (s : GuardedControlState) :
    ControlCall Context → Option GuardedControlDecision × GuardedControlState
  | .select context client sequence nowMs =>
    (planner.select context s client sequence nowMs).map some id
  | .selectWithValue context client sequence nowMs =>
    (planner.selectWithValue context s client sequence nowMs).map some id
  | .operate context client sequence nowMs =>
    (planner.operate context s client sequence nowMs).map some id
  | .cancel context client nowMs => (planner.cancel context s client nowMs).map some id
  | .commandTermination error addCause =>
    (GuardedControlPlanner.commandTermination s error addCause).map some id
  | .onAssociationClosed associationId =>
    (none, GuardedControlPlanner.onAssociationClosed s associationId)
  | .tick nowMs => (none, GuardedControlPlanner.tick s nowMs)

end ArStack.Control
