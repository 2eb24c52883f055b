import ArStack.Control.GuardedControl
import ArStack.Lib.TextMatch
import ArStack.Mms.Reporting
import Mathlib.Data.List.DropRight

/-!
# Terminations of commands

The decoder looks for the termination of a command on one object in an InformationReport: a
LastApplError structure that belongs to the object, or the `Oper` of the object alone.

* `matchesOperateReference`, `matchesReportedReference` — the references that belong to an object
* `tryDecodeLastApplError` — the error structure of a value
* `CommandTerminationDecoder.decode` — the termination of a report
-/

namespace ArStack.Control

open ArStack.Lib (ascii)
open ArStack.Mms (MmsDataValue MmsInformationReport MmsInformationReportItem MmsObjectName)

structure LastApplError where
  controlObject : Bytes := []
  originCategory : Option Int := none
  originIdentifier : Bytes := []
  controlNumber : Option UInt8 := none
  rawControlError : Int := 0
  rawAddCause : Int := 25
  controlError : ControlError := .noError
  addCause : AddCause := .none
  controlErrorName : String := ""
  addCauseName : String := ""
  deriving DecidableEq

structure CommandCorrelation where
  originCategory : Int := 0
  originIdentifier : Bytes := []
  controlNumber : UInt8 := 0
  deriving DecidableEq

structure CommandTermination where
  isForControlObject : Bool := false
  isTermination : Bool := false
  positive : Bool := false
  controlError : ControlError := .noError
  addCause : AddCause := .none
  rawControlError : Int := 0
  rawAddCause : Int := 25
  controlErrorName : String := ""
  addCauseName : String := ""
  lastApplError : Option LastApplError := none
  deriving DecidableEq

/-! ## Texts -/

def asciiLower (value : UInt8) : UInt8 :=
  if 0x41 ≤ value ∧ value ≤ 0x5A then value - 0x41 + 0x61 else value

def asciiEqual (left right : Bytes) : Bool :=
  decide (left.map asciiLower = right.map asciiLower)

def asciiEndsWith (value suffix : Bytes) : Bool :=
  decide (suffix.map asciiLower <:+ value.map asciiLower)

def asciiStartsWith (value beginning : Bytes) : Bool :=
  decide (beginning.map asciiLower <+: value.map asciiLower)

def asciiContains (value needle : Bytes) : Bool :=
  decide (needle.map asciiLower <:+: value.map asciiLower)

/-- `std::replace`. -/
def replaceByte (old new : UInt8) (text : Bytes) : Bytes :=
  text.map fun byte => if byte = old then new else byte

def trimDelimiter (value : Bytes) (delimiter : UInt8) : Bytes :=
  (value.dropWhile (· == delimiter)).rdropWhile (· == delimiter)

def objectPathDollars (object : ControlObjectReference) : Bytes :=
  replaceByte 0x2E 0x24 object.dataObjectPath

def objectReference (object : ControlObjectReference) : Bytes :=
  object.domain ++ ascii "/" ++ object.logicalNode ++ ascii "." ++ object.dataObjectPath

def mmsReference (name : MmsObjectName) : Bytes :=
  match name.kind with
  | .domainSpecific => name.domain ++ ascii "/" ++ name.item
  | .vmdSpecific => name.item
  | .aaSpecific => name.item

def readText : MmsDataValue → Bytes
  | .visibleString value => value
  | .mmsString value => value
  | _ => []

def readNumber : MmsDataValue → Option Int
  | .integer value => some value
  | .unsignedInteger value => if value ≤ 2 ^ 63 - 1 then some value else none
  | _ => none

def readOctets : MmsDataValue → Bytes
  | .octetString rawValue => rawValue
  | _ => []

def isGenericLastApplErrorReference (reference : Bytes) : Bool :=
  asciiEqual reference (ascii "LastApplError") ||
    asciiEndsWith reference (ascii "$LastApplError") ||
    asciiEndsWith reference (ascii ".LastApplError")

def matchesCorrelation (error : LastApplError) (expected : CommandCorrelation) : Bool :=
  error.controlObject.isEmpty && error.originCategory == some expected.originCategory &&
    error.controlNumber == some expected.controlNumber &&
    error.originIdentifier == expected.originIdentifier

/-! ## Error numbers -/

def mapControlError (value : Int) : ControlError :=
  if value = 0 then .noError
  else if value = 1 then .unknown
  else if value = 2 then .timeoutTest
  else if value = 3 then .operatorTest
  else .unknown

/-- The causes with their names, from number 0 on. -/
def addCauses : List (AddCause × String) :=
  [(.unknown, "unknown"),
    (.notSupported, "not-supported"),
    (.blockedBySwitchingHierarchy, "blocked-by-switching-hierarchy"),
    (.selectFailed, "select-failed"),
    (.invalidPosition, "invalid-position"),
    (.positionReached, "position-reached"),
    (.parameterChangeInExecution, "parameter-change-in-execution"),
    (.stepLimit, "step-limit"),
    (.blockedByMode, "blocked-by-mode"),
    (.blockedByProcess, "blocked-by-process"),
    (.blockedByInterlocking, "blocked-by-interlocking"),
    (.blockedBySynchrocheck, "blocked-by-synchrocheck"),
    (.commandAlreadyInExecution, "command-already-in-execution"),
    (.blockedByHealth, "blocked-by-health"),
    (.oneOfNControl, "one-of-n-control"),
    (.abortionByCancel, "abortion-by-cancel"),
    (.timeLimitOver, "time-limit-over"),
    (.abortionByTrip, "abortion-by-trip"),
    (.objectNotSelected, "object-not-selected"),
    (.objectAlreadySelected, "object-already-selected"),
    (.noAccessAuthority, "no-access-authority"),
    (.endedWithOvershoot, "ended-with-overshoot"),
    (.abortionDueToDeviation, "abortion-due-to-deviation"),
    (.abortionByCommunicationLoss, "abortion-by-communication-loss"),
    (.abortionByCommand, "abortion-by-command"),
    (.none, "none"),
    (.inconsistentParameters, "inconsistent-parameters"),
    (.lockedByOtherClient, "locked-by-other-client")]

def mapAddCause (value : Int) : AddCause :=
  if 0 ≤ value ∧ value ≤ 27 then (addCauses.getD value.toNat (.unknown, "")).1 else .unknown

def positiveTermination (error addCause : Int) : Bool :=
  error == 0 && (addCause == 0 || addCause == 25)

namespace CommandTerminationDecoder

def controlErrorName (value : Int) : String :=
  if value = 0 then "no-error"
  else if value = 1 then "unknown"
  else if value = 2 then "timeout-test"
  else if value = 3 then "operator-test"
  else "control-error-" ++ toString value

def addCauseName (value : Int) : String :=
  if 0 ≤ value ∧ value ≤ 27 then (addCauses.getD value.toNat (.unknown, "")).2
  else "add-cause-" ++ toString value

/-! ## References -/

def matchesOperateReference (object : ControlObjectReference) (reference : Bytes) : Bool :=
  if !object.valid || reference.isEmpty then false
  else
    let normalized := trimDelimiter (replaceByte 0x2F 0x24 (replaceByte 0x2E 0x24 reference)) 0x24
    let dataPath := objectPathDollars object
    let expected := object.domain ++ ascii "$" ++ object.logicalNode ++ ascii "$CO$" ++ dataPath ++
      ascii "$Oper"
    let suffix := object.logicalNode ++ ascii "$CO$" ++ dataPath ++ ascii "$Oper"
    asciiEqual normalized expected || asciiEndsWith normalized suffix

def matchesReportedReference (object : ControlObjectReference) (reference : Bytes) : Bool :=
  if !object.valid || reference.isEmpty then false
  else
    let normalized := replaceByte 0x24 0x2E reference
    let expected := objectReference object
    let logicalSuffix := ascii "/" ++ object.logicalNode ++ ascii "." ++ object.dataObjectPath
    let coObject := object.domain ++ ascii "/" ++ object.logicalNode ++ ascii ".CO." ++
      object.dataObjectPath
    let coSuffix := ascii "/" ++ object.logicalNode ++ ascii ".CO." ++ object.dataObjectPath
    asciiEqual normalized expected || asciiStartsWith normalized (expected ++ ascii ".") ||
      asciiEndsWith normalized logicalSuffix || asciiEqual normalized coObject ||
      asciiEqual normalized (coObject ++ ascii ".") || asciiEndsWith normalized coSuffix ||
      asciiContains normalized (coSuffix ++ ascii ".")

/-! ## The error structure -/

/-- The numbers of the structure with their places. -/
def numericFields (children : List MmsDataValue) : List (Nat × Int) :=
  children.zipIdx.filterMap fun entry => (readNumber entry.1).map fun number => (entry.2, number)

/-- The origin, as category and identifier. -/
def readOrigin : Option MmsDataValue → Option Int × Bytes
  | some (.struct (category :: identifier :: _)) => (readNumber category, readOctets identifier)
  | _ => (none, [])

def readControlNumber (child : Option MmsDataValue) : Option UInt8 :=
  match child.bind readNumber with
  | some number => if 0 ≤ number ∧ number ≤ 255 then some (UInt8.ofNat number.toNat) else none
  | none => none

/-- The error is the first or the second field, the cause the last number; the origin and the
control number follow the error. -/
def tryDecodeLastApplError : MmsDataValue → Option LastApplError
  | .struct children =>
    if children.length < 2 then none
    else
      let numeric := numericFields children
      if numeric.length < 2 then none
      else
        match numeric.find? fun entry => entry.1 == 0 || entry.1 == 1, numeric.getLast? with
        | some (errorIndex, error), some (_, addCause) =>
          let origin := readOrigin children[errorIndex + 1]?
          some
            { controlObject := readText (children.headD (.boolean false))
              originCategory := origin.1
              originIdentifier := origin.2
              controlNumber := readControlNumber children[errorIndex + 2]?
              rawControlError := error
              rawAddCause := addCause
              controlError := mapControlError error
              addCause := mapAddCause addCause
              controlErrorName := controlErrorName error
              addCauseName := addCauseName addCause }
        | _, _ => none
  | _ => none

def itemError (item : MmsInformationReportItem) : Option LastApplError :=
  item.value.bind tryDecodeLastApplError

/-! ## Reports -/

/-- The texts of the references of the report. -/
def referenceTexts (report : MmsInformationReport) : List Bytes :=
  report.variableReferences.map mmsReference

/-- Whether the error structure belongs to the object, in a report with these references. -/
def errorMatches (object : ControlObjectReference) (correlation : Option CommandCorrelation)
    (texts : List Bytes) (lastError : LastApplError) : Bool :=
  texts.any (matchesReportedReference object) || texts.any (matchesOperateReference object) ||
    (!lastError.controlObject.isEmpty &&
      (matchesReportedReference object lastError.controlObject ||
        matchesOperateReference object lastError.controlObject)) ||
    (texts.any isGenericLastApplErrorReference &&
      correlation.any fun expected => matchesCorrelation lastError expected)

/-- The error structure that ends the command: the first one that belongs to the object. -/
def terminatingError (report : MmsInformationReport) (object : ControlObjectReference)
    (correlation : Option CommandCorrelation) : Option LastApplError :=
  (report.items.filterMap itemError).find? (errorMatches object correlation (referenceTexts report))

def decode (report : MmsInformationReport) (object : ControlObjectReference)
    (correlation : Option CommandCorrelation) : CommandTermination :=
  if !object.valid then {}
  else
    match terminatingError report object correlation with
    | some lastError =>
      { isForControlObject := true
        isTermination := true
        positive := positiveTermination lastError.rawControlError lastError.rawAddCause
        controlError := lastError.controlError
        addCause := lastError.addCause
        rawControlError := lastError.rawControlError
        rawAddCause := lastError.rawAddCause
        controlErrorName := lastError.controlErrorName
        addCauseName := lastError.addCauseName
        lastApplError := some lastError }
    | none =>
      if !(referenceTexts report).any (matchesOperateReference object) then {}
      else
        { isForControlObject := true
          isTermination := true
          positive := true
          controlErrorName := "no-error"
          addCauseName := "none" }

end CommandTerminationDecoder

end ArStack.Control
