import ArStack.Control.CommandTermination
import ArStack.Lib.Throws
import ArStack.Mms.TypeSpecification

/-!
# Control sessions

A session carries out select, operate and cancel on one object over a transport. It advances its
planner before an exchange and keeps the context of a selection after it. Each call runs against
what the transport, the clocks and the policy answer while it runs; a call that throws leaves the
state it has reached.

* `ControlObjectSession.select`, `selectWithValue`, `operate`, `cancel`
* `ControlObjectSession.run` — a call of any of them
-/

namespace ArStack.Control

open ArStack.Lib (ascii)
open ArStack.Mms (MmsDataCodec.encode MmsDataValue MmsInformationReport MmsObjectName MmsTypeKind
  MmsTypeSpecification)

/-! ## Requests and results -/

inductive DoublePointValue where
  | intermediate
  | off
  | on
  | bad
  deriving DecidableEq

/-- A floating point value as its bits. -/
inductive ControlValue where
  | boolean (value : Bool)
  | doublePoint (value : DoublePointValue)
  | integer (value : Int)
  | unsignedInteger (value : Nat)
  | floatingPoint (bits : UInt64)
  | stepPosition (position : Int) (transient : Bool)
  | rawMms (value : MmsDataValue)

/-- Time points are nanoseconds of the system clock since the epoch, durations milliseconds. -/
structure ControlRequest where
  controlValue : ControlValue := .boolean false
  originCategory : UInt8 := 2
  originIdentifier : Bytes := []
  controlNumber : Option UInt8 := none
  operateAt : Option Nat := none
  test : Bool := false
  interlockCheck : Bool := true
  synchroCheck : Bool := true
  autoSelect : Bool := true
  commandTerminationTimeout : Option Int := none

inductive ControlCompletionState where
  | accepted
  | positiveTermination
  | negativeTermination
  | rejected
  | unsupported
  | timedOut
  | associationLost
  | cancelled
  deriving DecidableEq

structure ControlActionResult where
  action : ControlAction := .operate
  completion : ControlCompletionState := .rejected
  requestAccepted : Bool := false
  commandTerminationReceived : Bool := false
  positiveTermination : Bool := false
  controlNumber : UInt8 := 0
  controlError : ControlError := .noError
  addCause : AddCause := .none
  rawControlError : Int := 0
  rawAddCause : Int := 25
  mmsFailureCode : Option UInt32 := none
  message : String := ""
  diagnostics : List String := []
  deriving DecidableEq

def ControlActionResult.success (result : ControlActionResult) : Bool :=
  result.completion == .accepted || result.completion == .positiveTermination

structure ControlTransportWriteResult where
  success : Bool := false
  failureCode : Option UInt32 := none
  deriving DecidableEq

structure MmsControlSequenceContext where
  controlValue : ControlValue := .boolean false
  originCategory : UInt8 := 2
  originIdentifier : Bytes := []
  controlNumber : UInt8 := 0
  timestamp : Option MmsDataValue := none
  operateAt : Option MmsDataValue := none
  test : Bool := false
  interlockCheck : Bool := false
  synchroCheck : Bool := false

inductive MmsControlBuildStatus where
  | ok
  | invalidServiceSpecification
  | unsupportedComponent
  | missingRequiredComponent
  | typeMismatch
  | shapeMismatch
  | valueOutOfRange
  | timestampMissing
  | unsupportedControlValue
  deriving DecidableEq

structure MmsControlBuildResult where
  status : MmsControlBuildStatus := .invalidServiceSpecification
  value : Option MmsDataValue := none
  path : String := ""

/-- The value of a result with `success()`. -/
def MmsControlBuildResult.built (result : MmsControlBuildResult) : Option MmsDataValue :=
  if result.status = .ok then result.value else none

/-- What comes out of a call that throws: `MmsTransportCancelledError` or any other exception. -/
inductive Thrown where
  | cancelled
  | other (message : String)
  deriving DecidableEq

/-- The builder of the control structures; nothing is assumed about it. -/
structure MmsControlStructureBuilder where
  bindControlValue : ControlValue → MmsTypeSpecification → Except Thrown MmsControlBuildResult
  buildOperate : MmsControlSequenceContext → MmsTypeSpecification → Bool →
    Except Thrown MmsControlBuildResult
  buildSelectWithValue : MmsControlSequenceContext → MmsTypeSpecification → Bool →
    Except Thrown MmsControlBuildResult
  buildCancel : MmsControlSequenceContext → MmsTypeSpecification → Bool →
    Except Thrown MmsControlBuildResult

/-! ## The session -/

structure ControlObjectDescriptor where
  object : ControlObjectReference := {}
  model : ControlModel := .unknown
  ctlValSpecification : MmsTypeSpecification := {}
  operateSpecification : MmsTypeSpecification := {}
  selectWithValueSpecification : Option MmsTypeSpecification := none
  cancelSpecification : Option MmsTypeSpecification := none
  sboTimeout : Int := 10000
  operateTimeout : Int := 10000
  supportsTimeActivatedOperate : Bool := false
  supportsCommandTermination : Bool := false

namespace ControlObjectDescriptor

variable (descriptor : ControlObjectDescriptor)

def requiresSelect : Bool := modelRequiresSelect descriptor.model

def enhanced : Bool := modelIsEnhanced descriptor.model

def operationallyReady : Bool :=
  descriptor.object.valid && descriptor.model != .statusOnly && descriptor.model != .unknown &&
    descriptor.operateSpecification.kind == .struct &&
    descriptor.ctlValSpecification.kind != .unknown &&
    !(descriptor.requiresSelect && descriptor.cancelSpecification.isNone) &&
    !(descriptor.model == .selectBeforeOperateEnhanced &&
      descriptor.selectWithValueSpecification.isNone) &&
    !(descriptor.enhanced && !descriptor.supportsCommandTermination)

end ControlObjectDescriptor

structure ControlSessionOptions (Context : Type) where
  applicationErrorGracePeriod : Int := 400
  requireExactNamedControlFields : Bool := true
  guardedPolicy : GuardedControlPolicy Context := {}

structure ActiveContext where
  request : ControlRequest := {}
  mms : MmsControlSequenceContext := {}
  encodedCtlValue : Bytes := []
  timestampToken : UInt64 := 0
  operateAtToken : UInt64 := 0
  /-- Nanoseconds of the steady clock. -/
  created : Int := 0

/-- What the calls change. -/
structure ControlSessionState where
  planner : GuardedControlState := {}
  activeContext : Option ActiveContext := none
  expiredContext : Option ActiveContext := none
  nextControlNumber : UInt8 := 0

/-- What stays as it is: the parts of the constructor and the association of the transport. -/
structure ControlObjectSession (Context : Type) where
  descriptor : ControlObjectDescriptor
  options : ControlSessionOptions Context
  associationId : UInt64
  builder : MmsControlStructureBuilder

abbrev SessionM := EStateM Thrown ControlSessionState

/-- What a callee returns or throws. -/
def answer {α : Type} : Except Thrown α → SessionM α
  | .ok value => pure value
  | .error thrown => throw thrown

/-! ## Helpers -/

def asciiAlphanumeric (character : UInt8) : Bool :=
  (decide (0x41 ≤ character) && decide (character ≤ 0x5A)) ||
    (decide (0x61 ≤ character) && decide (character ≤ 0x7A)) ||
    (decide (0x30 ≤ character) && decide (character ≤ 0x39))

def normalizeName (value : Bytes) : Bytes := (value.filter asciiAlphanumeric).map asciiLower

def findChild (parent : MmsTypeSpecification) (name : Bytes) : Option MmsTypeSpecification :=
  parent.children.find? fun child => normalizeName child.name == normalizeName name

def pathSeparator (value : UInt8) : Bool := value == 0x2E || value == 0x24

/-- The item, when it fits `size` octets. -/
def buildControlItem (object : ControlObjectReference) (functionalConstraint leaf : Bytes)
    (size : Nat) : Option Bytes :=
  if !object.valid || functionalConstraint.isEmpty || leaf.isEmpty ||
      functionalConstraint.contains 0x24 || leaf.contains 0x24 || leaf.contains 0x2E then none
  else
    let item := object.logicalNode ++ ascii "$" ++ functionalConstraint ++ ascii "$" ++
      object.dataObjectPath ++ ascii "$" ++ leaf
    if size < item.length then none
    else some (item.map fun character => if pathSeparator character then 0x24 else character)

def objectName (object : ControlObjectReference) (functionalConstraint leaf : Bytes) :
    Except Thrown MmsObjectName :=
  match buildControlItem object functionalConstraint leaf 1024 with
  | some item => .ok { kind := .domainSpecific, domain := object.domain, item }
  | none => .error (.other "Failed to build bounded control MMS object name.")

def nextControlNumber (value : UInt8) : UInt8 := if value ≥ 255 then 1 else value + 1

def timeToken (value : Nat) : UInt64 := UInt64.ofNat value

/-- Days from the epoch to the first of January 1984. -/
def binaryEpochDays : Nat := 5113

def timestampValue (value : Nat) (specification : MmsTypeSpecification) : Option MmsDataValue :=
  if specification.kind = .utcTime then some (.utcTime { value, quality := 0 })
  else if specification.kind ≠ .binaryTime then none
  else
    let millis := value / 1000000
    let day := millis / 86400000
    let size := if specification.size.getD 6 = 4 then 4 else 6
    if day < binaryEpochDays then some (.binaryTime (List.replicate size 0))
    else
      let daysSinceEpoch := day - binaryEpochDays
      if daysSinceEpoch > 65535 then none
      else some (.binaryTime
        ((Lib.beOctets 4 (millis % 86400000) ++ Lib.beOctets 2 daysSinceEpoch).take size))

def rejected (action : ControlAction) (message : String) (controlNumber : UInt8 := 0) :
    ControlActionResult where
  action
  completion := .rejected
  controlNumber
  message

def unsupported (action : ControlAction) (message : String) : ControlActionResult :=
  { rejected action message with completion := .unsupported }

def fromPlannerRejection (decision : GuardedControlDecision) : ControlActionResult :=
  { rejected decision.action "Guarded control policy rejected the action."
      decision.controlNumber with
    controlError := decision.controlError
    addCause := decision.addCause }

/-- Removes the first `.CO` that a `.` follows. -/
def eraseControlMarker : Bytes → Bytes
  | [] => []
  | byte :: rest =>
    if ascii ".CO." <+: byte :: rest then (byte :: rest).drop 3
    else byte :: eraseControlMarker rest

def sameReferenceText (selected : Bytes) (object : ControlObjectReference) : Bool :=
  if selected.isEmpty then false
  else
    let normalized := eraseControlMarker (replaceByte 0x24 0x2E selected)
    let relative := object.logicalNode ++ ascii "." ++ object.dataObjectPath
    let expected := object.domain ++ ascii "/" ++ relative
    decide (normalized = expected) || decide (normalized = relative) ||
      decide (ascii "/" ++ relative <:+ normalized) ||
      !(normalized.contains 0x2F || normalized.contains 0x2E || normalized.contains 0x24)

def GuardedControlStatus.number : GuardedControlStatus → Nat
  | .ok => 0
  | .acceptedWaitingTermination => 1
  | .positiveTermination => 2
  | .negativeTermination => 3
  | .unsupported => 4
  | .invalidIdentity => 5
  | .invalidSequence => 6
  | .accessDenied => 7
  | .objectNotSelected => 8
  | .objectAlreadySelected => 9
  | .lockedByOtherClient => 10
  | .selectionExpired => 11
  | .sequenceMismatch => 12
  | .commandAlreadyInExecution => 13
  | .noActiveSelection => 14
  | .noPendingTermination => 15

/-! ## What the surroundings of a call answer -/

/-- One turn of the waiting loop: the association, the steady clock, and the wait for a report of
at most so many milliseconds. -/
structure PollAnswer where
  associated : Bool
  now : Int
  report : Int → Except Thrown (Option MmsInformationReport)

/-- The steady clock when the wait starts and the turns; after the last one the association is
down. -/
structure WaitAnswers where
  start : Int := 0
  polls : List PollAnswer := []

/-- What `select` or `selectWithValue` meets. -/
structure SelectAnswers (Context : Type) where
  associated : Bool
  created : Int
  systemNow : Nat
  policy : Context
  read : MmsObjectName → Except Thrown (Option MmsDataValue)
  clearInformationReports : Except Thrown Unit
  write : MmsObjectName → MmsDataValue → Except Thrown ControlTransportWriteResult
  wait : WaitAnswers

/-- What `operate` meets, with the select it makes when none is active. -/
structure OperateAnswers (Context : Type) where
  associated : Bool
  selecting : SelectAnswers Context
  created : Int
  systemNow : Nat
  steadyNow : Int
  policy : Context
  clearInformationReports : Except Thrown Unit
  write : MmsObjectName → MmsDataValue → Except Thrown ControlTransportWriteResult
  systemNowAtWait : Nat
  wait : WaitAnswers
  stillAssociated : Bool

/-- What `cancel` meets. -/
structure CancelAnswers (Context : Type) where
  policy : Context
  write : MmsObjectName → MmsDataValue → Except Thrown ControlTransportWriteResult

namespace ControlObjectSession

variable {Context : Type} (session : ControlObjectSession Context)

/-- `planner_policy`: a timeout that is not positive is ten seconds. -/
def plannerPolicy : GuardedControlPolicy Context :=
  { session.options.guardedPolicy with
    sboTimeoutMs :=
      if session.descriptor.sboTimeout ≤ 0 then 10000
      else UInt64.ofNat session.descriptor.sboTimeout.toNat }

def planner : GuardedControlPlanner Context where
  object := session.descriptor.object
  model := session.descriptor.model
  policy := session.plannerPolicy

def client : ControlClientIdentity := { associationId := session.associationId }

/-- A call of the planner. -/
def plan (call : GuardedControlState → GuardedControlDecision × GuardedControlState) :
    SessionM GuardedControlDecision :=
  modifyGet fun s => ((call s.planner).1, { s with planner := (call s.planner).2 })

/-- The part of `create_context` in front of the number. -/
def bindRequest (request : ControlRequest) : Except Thrown Bytes := do
  let bound ← session.builder.bindControlValue request.controlValue
    session.descriptor.ctlValSpecification
  match bound.built with
  | none =>
    .error (.other ("Control value does not match live ctlVal TypeSpecification at " ++
      bound.path ++ "."))
  | some value => (MmsDataCodec.encode value).mapError .other

/-- The part of `create_context` behind the number. -/
def fillContext (created : Int) (systemNow : Nat) (request : ControlRequest)
    (encodedCtlValue : Bytes) (assigned : UInt8) : Except Thrown ActiveContext :=
  match findChild session.descriptor.operateSpecification (ascii "T") with
  | none => .error (.other "Live Oper TypeSpecification has no named T field.")
  | some timestampSpecification =>
    match timestampValue systemNow timestampSpecification with
    | none => .error (.other "Live T field has an unsupported timestamp type.")
    | some timestamp =>
      let mms : MmsControlSequenceContext :=
        { controlValue := request.controlValue
          originCategory := request.originCategory
          originIdentifier := request.originIdentifier
          controlNumber := assigned
          timestamp := some timestamp
          test := request.test
          interlockCheck := request.interlockCheck
          synchroCheck := request.synchroCheck }
      let context : ActiveContext :=
        { request, mms, encodedCtlValue, timestampToken := timeToken systemNow, created }
      match request.operateAt with
      | none => .ok context
      | some operateAt =>
        match findChild session.descriptor.operateSpecification (ascii "operTm") with
        | none =>
          .error (.other "Time-activated operation requested but live Oper has no operTm field.")
        | some operateAtSpecification =>
          match timestampValue operateAt operateAtSpecification with
          | none => .error (.other "Live operTm field has an unsupported timestamp type.")
          | some value =>
            .ok { context with
              mms := { mms with operateAt := some value }
              operateAtToken := timeToken operateAt }

/-- The counter goes on even when the request has its own number. -/
def createContext (created : Int) (systemNow : Nat) (request : ControlRequest) :
    SessionM ActiveContext := do
  let encodedCtlValue ← answer (session.bindRequest request)
  let number ← modifyGet fun s =>
    (nextControlNumber s.nextControlNumber,
      { s with nextControlNumber := nextControlNumber s.nextControlNumber })
  answer (session.fillContext created systemNow request encodedCtlValue
    (request.controlNumber.getD number))

def sequenceView (request : ControlRequest) (context : ActiveContext) (encodedCtlValue : Bytes) :
    ControlSequenceView where
  controlValue := encodedCtlValue
  originCategory := request.originCategory
  originIdentifier := request.originIdentifier
  controlNumber := request.controlNumber.getD context.mms.controlNumber
  timestampToken := context.timestampToken
  operateAtToken := request.operateAt.elim 0 timeToken
  test := request.test
  interlockCheck := request.interlockCheck
  synchroCheck := request.synchroCheck

def positiveSboSelection : MmsDataValue → Bool
  | .boolean value => value
  | .visibleString value => sameReferenceText value session.descriptor.object
  | .mmsString value => sameReferenceText value session.descriptor.object
  | _ => false

/-- `planner_.on_association_closed` for the association of the transport. -/
def releasePlanner : SessionM Unit :=
  modify fun s =>
    { s with planner := GuardedControlPlanner.onAssociationClosed s.planner session.associationId }

def clearSelection : SessionM Unit :=
  modify fun s =>
    { s with
      planner := GuardedControlPlanner.onAssociationClosed s.planner session.associationId
      activeContext := none }

/-- The Cancel that goes out on the way has no effect on the session, whatever the transport
answers. -/
def bestEffortCancel : SessionM Unit := do
  if (← get).activeContext.isSome then session.clearSelection

def retain (context : ActiveContext) : SessionM Unit :=
  modify fun s => { s with activeContext := some context, expiredContext := none }

def writeFailure (action : ControlAction) (context : ActiveContext)
    (write : ControlTransportWriteResult) (appError : Option CommandTermination) :
    ControlActionResult :=
  let result : ControlActionResult :=
    { action
      completion := .rejected
      controlNumber := context.mms.controlNumber
      mmsFailureCode := write.failureCode
      message := "MMS control Write was rejected." }
  match appError with
  | none => result
  | some error =>
    { result with
      controlError := error.controlError
      addCause := error.addCause
      rawControlError := error.rawControlError
      rawAddCause := error.rawAddCause
      diagnostics := [error.controlErrorName ++ "/" ++ error.addCauseName] }

/-! ## Waiting -/

def correlation (context : ActiveContext) : CommandCorrelation where
  originCategory := context.mms.originCategory.toNat
  originIdentifier := context.mms.originIdentifier
  controlNumber := context.mms.controlNumber

def pollTermination (context : ActiveContext) (deadline : Int) :
    List PollAnswer → Except Thrown (Option CommandTermination)
  | [] => .ok none
  | poll :: rest =>
    if !poll.associated then .ok none
    else if poll.now ≥ deadline then .ok none
    else
      let remaining := (deadline - poll.now) / 1000000
      match poll.report (if remaining ≤ 0 then 1 else remaining) with
      | .error thrown => .error thrown
      | .ok none => .ok none
      | .ok (some report) =>
        let termination := CommandTerminationDecoder.decode report session.descriptor.object
          (some (correlation context))
        if termination.isForControlObject && termination.isTermination then .ok (some termination)
        else pollTermination context deadline rest

def waitForTermination (timeout : Int) (wait : WaitAnswers) (context : ActiveContext) :
    Except Thrown (Option CommandTermination) :=
  if timeout ≤ 0 then .ok none
  else session.pollTermination context (wait.start + timeout * 1000000) wait.polls

def waitForApplicationError (wait : WaitAnswers) (context : ActiveContext) :
    Except Thrown (Option CommandTermination) :=
  session.waitForTermination session.options.applicationErrorGracePeriod wait context

def selectionExpired (context : ActiveContext) (now : Int) : Bool :=
  decide (now - context.created > session.descriptor.sboTimeout * 1000000)

def effectiveOperateTimeout (request : ControlRequest) (systemNow : Nat) : Int :=
  let requested := request.commandTerminationTimeout.getD session.descriptor.operateTimeout
  let timeout := if requested ≤ 0 then session.descriptor.operateTimeout else requested
  match request.operateAt with
  | none => timeout
  | some operateAt =>
    if operateAt ≤ systemNow then timeout
    else ((operateAt - systemNow) / 1000000 : Nat) + timeout

/-! ## Select -/

/-- The exchange of `select`, once the planner has accepted it. -/
def finishSelect (answers : SelectAnswers Context) (context : ActiveContext) :
    SessionM ControlActionResult := do
  let selected ← answer (objectName session.descriptor.object (ascii "CO") (ascii "SBO") >>=
    answers.read)
  if !selected.any session.positiveSboSelection then do
    session.releasePlanner
    pure (rejected .select "SBO read did not return a positive selected-object reference."
      context.mms.controlNumber)
  else do
    retain context
    pure
      { action := .select
        completion := .accepted
        requestAccepted := true
        controlNumber := context.mms.controlNumber
        message := "SBO select accepted; exact sequence retained until Operate/Cancel/timeout." }

def select (answers : SelectAnswers Context) (request : ControlRequest) :
    SessionM ControlActionResult :=
  if session.descriptor.model ≠ .selectBeforeOperateNormal then
    pure (unsupported .select "Select read is valid only for SBO normal security.")
  else if !answers.associated then pure (rejected .select "MMS association is not active.")
  else do
    let context ← session.createContext answers.created answers.systemNow request
    let decision ← plan fun planner => session.planner.select answers.policy planner session.client
      (sequenceView request context context.encodedCtlValue) 0
    if !decision.accepted then pure (fromPlannerRejection decision)
    else session.finishSelect answers context

/-- What `selectWithValue` makes of the answer to the Write of `SBOw`. -/
def concludeSelectWithValue (context : ActiveContext) (write : ControlTransportWriteResult)
    (error : Option CommandTermination) : SessionM ControlActionResult :=
  if !write.success then do
    session.releasePlanner
    pure (writeFailure .selectWithValue context write error)
  else
    match error.filter fun error => !error.positive with
    | some error => do
      session.releasePlanner
      pure
        { action := .selectWithValue
          completion := .rejected
          requestAccepted := true
          controlNumber := context.mms.controlNumber
          controlError := error.controlError
          addCause := error.addCause
          rawControlError := error.rawControlError
          rawAddCause := error.rawAddCause
          message := "SBOw received asynchronous LastApplError after MMS service acceptance." }
    | none => do
      retain context
      pure
        { action := .selectWithValue
          completion := .accepted
          requestAccepted := true
          controlNumber := context.mms.controlNumber
          message := "SBOw accepted; exact selected sequence retained for Operate." }

/-- The exchange of `selectWithValue`, once the planner has accepted it. -/
def finishSelectWithValue (answers : SelectAnswers Context) (specification : MmsTypeSpecification)
    (context : ActiveContext) : SessionM ControlActionResult := do
  let value ← answer (session.builder.buildSelectWithValue context.mms specification
    session.options.requireExactNamedControlFields)
  match value.built with
  | none => do
    session.releasePlanner
    pure (rejected .selectWithValue
      ("Cannot construct exact live SBOw structure at " ++ value.path ++ ".")
      context.mms.controlNumber)
  | some content => do
    answer answers.clearInformationReports
    let write ← answer (objectName session.descriptor.object (ascii "CO") (ascii "SBOw") >>=
      fun name => answers.write name content)
    let error ← answer (session.waitForApplicationError answers.wait context)
    session.concludeSelectWithValue context write error

def selectWithValue (answers : SelectAnswers Context) (request : ControlRequest) :
    SessionM ControlActionResult :=
  match session.descriptor.selectWithValueSpecification with
  | none =>
    pure (unsupported .selectWithValue "SelectWithValue is valid only for SBO enhanced security.")
  | some specification =>
    if session.descriptor.model ≠ .selectBeforeOperateEnhanced then
      pure (unsupported .selectWithValue "SelectWithValue is valid only for SBO enhanced security.")
    else if !answers.associated then
      pure (rejected .selectWithValue "MMS association is not active.")
    else do
      let context ← session.createContext answers.created answers.systemNow request
      let decision ← plan fun planner => session.planner.selectWithValue answers.policy planner
        session.client (sequenceView request context context.encodedCtlValue) 0
      if !decision.accepted then pure (fromPlannerRejection decision)
      else session.finishSelectWithValue answers specification context

/-! ## Operate -/

/-- What `operate` makes of the answer to the Write of `Oper`. -/
def concludeOperate (answers : OperateAnswers Context) (request : ControlRequest)
    (context : ActiveContext) (write : ControlTransportWriteResult) :
    SessionM ControlActionResult :=
  if !write.success then do
    let error ← answer (session.waitForApplicationError answers.wait context)
    session.clearSelection
    pure (writeFailure .operate context write error)
  else if !session.descriptor.enhanced then do
    session.clearSelection
    pure
      { action := .operate
        completion := .accepted
        requestAccepted := true
        controlNumber := context.mms.controlNumber
        message := "Operate service accepted (normal-security completion boundary)." }
  else do
    let termination ← answer (session.waitForTermination
      (session.effectiveOperateTimeout request answers.systemNowAtWait) answers.wait context)
    match termination with
    | none => do
      session.clearSelection
      pure
        { action := .operate
          completion := if answers.stillAssociated then .timedOut else .associationLost
          requestAccepted := true
          controlNumber := context.mms.controlNumber
          message :=
            if answers.stillAssociated then
              "Operate was accepted, but no correlated CommandTermination arrived before timeout."
            else "MMS association was lost while waiting for CommandTermination." }
    | some termination => do
      let completion ← plan fun planner => GuardedControlPlanner.commandTermination planner
        termination.controlError termination.addCause
      session.clearSelection
      pure
        { action := .operate
          completion :=
            if termination.positive then .positiveTermination else .negativeTermination
          requestAccepted := true
          commandTerminationReceived := true
          positiveTermination := termination.positive
          controlNumber := context.mms.controlNumber
          controlError := termination.controlError
          addCause := termination.addCause
          rawControlError := termination.rawControlError
          rawAddCause := termination.rawAddCause
          message :=
            if termination.positive then "Positive CommandTermination received."
            else "Negative CommandTermination / LastApplError received."
          diagnostics := ["planner_completion=" ++ toString completion.status.number] }

/-- The exchange of `operate`, once the planner has accepted it. -/
def finishOperate (answers : OperateAnswers Context) (request : ControlRequest)
    (context : ActiveContext) : SessionM ControlActionResult := do
  let value ← answer (session.builder.buildOperate context.mms
    session.descriptor.operateSpecification session.options.requireExactNamedControlFields)
  match value.built with
  | none => do
    session.clearSelection
    pure (rejected .operate ("Cannot construct exact live Oper structure at " ++ value.path ++ ".")
      context.mms.controlNumber)
  | some content => do
    answer answers.clearInformationReports
    match objectName session.descriptor.object (ascii "CO") (ascii "Oper") >>=
        fun name => answers.write name content with
    | .error .cancelled => do
      session.clearSelection
      pure
        { action := .operate
          completion := .cancelled
          controlNumber := context.mms.controlNumber
          message := "Control operation cancelled before confirmed Write completion." }
    | .error thrown => throw thrown
    | .ok write => session.concludeOperate answers request context write

/-- `operate` with the context that the command uses. -/
def operateWith (answers : OperateAnswers Context) (request : ControlRequest)
    (context : ActiveContext) : SessionM ControlActionResult := do
  let bound ← answer (session.builder.bindControlValue request.controlValue
    session.descriptor.ctlValSpecification)
  match bound.built with
  | none => do
    session.bestEffortCancel
    pure (rejected .operate "Operate ctlVal no longer matches the selected live type."
      context.mms.controlNumber)
  | some value => do
    let incomingEncoded ← answer ((MmsDataCodec.encode value).mapError .other)
    let decision ← plan fun planner => session.planner.operate answers.policy planner session.client
      (sequenceView request context incomingEncoded) 0
    if !decision.accepted then do
      session.bestEffortCancel
      pure (fromPlannerRejection decision)
    else session.finishOperate answers request context

/-- The request is for the value of the selection that timed out. -/
def repeatsExpired (request : ControlRequest) (expired : ActiveContext) : Bool :=
  match session.bindRequest request with
  | .ok encoded => encoded == expired.encodedCtlValue
  | .error _ => false

/-- The select of an object that is not selected, or the result that ends the call without. -/
def autoSelect (answers : OperateAnswers Context) (request : ControlRequest) :
    SessionM (Option ControlActionResult) := do
  match (← get).expiredContext with
  | some expired =>
    modify fun s => { s with expiredContext := none }
    if session.repeatsExpired request expired then
      pure (some
        { action := .operate
          completion := .timedOut
          controlNumber := expired.mms.controlNumber
          message := "SBO selection timeout expired before Operate." })
    else selectFirst
  | none => selectFirst
where
  selectFirst : SessionM (Option ControlActionResult) :=
    if !request.autoSelect then
      pure (some (rejected .operate "Object is not selected and auto_select=false."))
    else do
      let selected ←
        if session.descriptor.model = .selectBeforeOperateEnhanced then
          session.selectWithValue answers.selecting request
        else session.select answers.selecting request
      pure (if selected.success then none else some selected)

/-- `operate` of a selected object, or of one that needs no selection. -/
def operateSelected (answers : OperateAnswers Context) (request : ControlRequest) :
    SessionM ControlActionResult := do
  match (← get).activeContext with
  | none => do
    let context ← session.createContext answers.created answers.systemNow request
    session.operateWith answers request context
  | some context =>
    if session.selectionExpired context answers.steadyNow then do
      modify fun s => { s with expiredContext := some context }
      session.bestEffortCancel
      pure
        { action := .operate
          completion := .timedOut
          controlNumber := context.mms.controlNumber
          message := "SBO selection timeout expired before Operate." }
    else session.operateWith answers request context

def operate (answers : OperateAnswers Context) (request : ControlRequest) :
    SessionM ControlActionResult :=
  if !session.descriptor.operationallyReady then
    pure (unsupported .operate "Control descriptor is not operationally ready.")
  else if request.operateAt.isSome && !session.descriptor.supportsTimeActivatedOperate then
    pure (unsupported .operate "Time-activated operation requested but live Oper has no operTm.")
  else if !answers.associated then pure (rejected .operate "MMS association is not active.")
  else do
    if session.descriptor.requiresSelect && (← get).activeContext.isNone then
      match ← session.autoSelect answers request with
      | some result => pure result
      | none => session.operateSelected answers request
    else session.operateSelected answers request

/-! ## Cancel -/

def cancel (answers : CancelAnswers Context) : SessionM ControlActionResult := do
  match (← get).activeContext with
  | none =>
    pure (rejected .cancel "No active selection exists for this control session.")
  | some context =>
    match session.descriptor.cancelSpecification with
    | none => do
      session.clearSelection
      pure (unsupported .cancel "IED did not expose a decodable Cancel TypeSpecification.")
    | some specification => do
      let decision ← plan fun planner =>
        session.planner.cancel answers.policy planner session.client 0
      if !decision.accepted then pure (fromPlannerRejection decision)
      else do
        let value ← answer (session.builder.buildCancel context.mms specification
          session.options.requireExactNamedControlFields)
        match value.built with
        | none => do
          session.clearSelection
          pure (rejected .cancel
            ("Cannot construct exact live Cancel structure at " ++ value.path ++ ".")
            context.mms.controlNumber)
        | some content => do
          let write ← answer (objectName session.descriptor.object (ascii "CO") (ascii "Cancel") >>=
            fun name => answers.write name content)
          session.clearSelection
          if !write.success then pure (writeFailure .cancel context write none)
          else
            pure
              { action := .cancel
                completion := .accepted
                requestAccepted := true
                controlNumber := context.mms.controlNumber
                message := "Cancel accepted; local SBO ownership released." }

def onAssociationClosed : SessionM Unit :=
  modify fun s =>
    { s with
      planner := GuardedControlPlanner.onAssociationClosed s.planner session.associationId
      activeContext := none
      expiredContext := if s.activeContext.isSome then none else s.expiredContext }

end ControlObjectSession

/-! ## Calls -/

inductive SessionCall (Context : Type) where
  | select (answers : SelectAnswers Context) (request : ControlRequest)
  | selectWithValue (answers : SelectAnswers Context) (request : ControlRequest)
  | operate (answers : OperateAnswers Context) (request : ControlRequest)
  | cancel (answers : CancelAnswers Context)
  | onAssociationClosed

namespace ControlObjectSession

variable {Context : Type} (session : ControlObjectSession Context)

/-- A call that returns no result answers `none`. -/
def run : SessionCall Context → SessionM (Option ControlActionResult)
  | .select answers request => some <$> session.select answers request
  | .selectWithValue answers request => some <$> session.selectWithValue answers request
  | .operate answers request => some <$> session.operate answers request
  | .cancel answers => some <$> session.cancel answers
  | .onAssociationClosed => do
    session.onAssociationClosed
    pure none

/-- The state that the call leaves, whether it returns or throws. -/
def step (s : ControlSessionState) (call : SessionCall Context) : ControlSessionState :=
  match session.run call s with
  | .ok _ s' => s'
  | .error _ s' => s'

end ControlObjectSession

end ArStack.Control
