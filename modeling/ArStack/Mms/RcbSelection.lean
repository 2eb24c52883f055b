import ArStack.Lib.TextMatch
import ArStack.Mms.DynamicDataSetRuntime
import ArStack.Mms.ReportSubscriptionRuntime

/-!
# Selection of a report control block

`MmsRcbPoolSelector` ranks the report control blocks that a discovery found and names the one that
is to be claimed. References are compared without blanks and case, and `$` is a dot in them. The
order among evaluations of one rank is left open by `std::sort`.

* `projectCandidate`, `classify` — what is known of a control block
* `evaluateStatic`, `evaluateDynamic` — one evaluation for each
* `buildStaticSelection`, `buildDynamicSelection`
* `selectReportControl` — the control block that is named
-/

namespace ArStack.Mms

open ArStack.Lib

inductive MmsRcbSelectionMode where
  | staticDataSet
  | dynamicDataSet
  deriving DecidableEq

inductive MmsRcbAvailabilityKind where
  | availableStatic
  | availableDynamicEmpty
  | busyEnabled
  | busyReserved
  | contendedFlapping
  | claimCooldown
  | unknownNeedsProbe
  | notApplicable
  | notUsable
  deriving DecidableEq

inductive MmsRcbSelectionDecision where
  | selected
  | candidate
  | skipped
  | blockedPreferred
  | filteredOut
  deriving DecidableEq

/-- What the selection reads of the state of a control block. -/
structure MmsRcbState extends MmsReportControlState where
  configurationRevision : Option UInt64 := none
  reservationTimeSeconds : Option UInt64 := none
  diagnostics : List Bytes := []
  deriving DecidableEq

structure MmsRcbCandidate extends MmsReportControlCandidate where
  domain : Bytes := []
  logicalNode : Bytes := []
  name : Bytes := []
  reference : Bytes := []
  deriving DecidableEq

def MmsRcbCandidate.mode (candidate : MmsRcbCandidate) : Bytes :=
  if candidate.buffered then ascii "BRCB" else ascii "URCB"

structure MmsReportControlEvidence where
  candidate : MmsRcbCandidate := {}
  state : Option MmsRcbState := none
  deriving DecidableEq

/-- `reference` is that of the candidate. -/
structure MmsDataSetDirectoryEvidence where
  reference : Bytes := []
  directory : Option MmsDataSetDirectoryResponse := none
  deriving DecidableEq

/-- What the selection reads of the result of a discovery; `inventory` has the control blocks. -/
structure MmsRcbDiscovery where
  inventory : List MmsRcbCandidate := []
  reportControls : List MmsReportControlEvidence := []
  dataSetDirectories : List MmsDataSetDirectoryEvidence := []
  deriving DecidableEq

structure MmsRcbCandidateEvaluation where
  reference : Bytes := []
  mode : Bytes := []
  domain : Bytes := []
  logicalNode : Bytes := []
  name : Bytes := []
  dataSetReference : Bytes := []
  reportId : Bytes := []
  configurationRevision : Bytes := []
  reportEnabled : Bytes := []
  reservationState : Bytes := []
  reservationTimeSeconds : Bytes := []
  buffered : Bool := false
  preferred : Bool := false
  sameDataSet : Bool := false
  sameLogicalDevice : Bool := false
  hasDataSetDirectory : Bool := false
  score : Int := 0
  availability : MmsRcbAvailabilityKind := .unknownNeedsProbe
  decision : MmsRcbSelectionDecision := .skipped
  reason : Bytes := []
  recommendedAction : Bytes := []
  deriving DecidableEq

def MmsRcbCandidateEvaluation.selectable (evaluation : MmsRcbCandidateEvaluation) : Bool :=
  evaluation.decision == .candidate || evaluation.decision == .selected

structure MmsRcbSelectionEvidence where
  mode : MmsRcbSelectionMode := .staticDataSet
  preferredRcbReference : Bytes := []
  strictRcb : Bool := false
  allowUrcbFallback : Bool := true
  allowPollingFallback : Bool := true
  requestedDataSetReference : Bytes := []
  requestedLogicalDevice : Bytes := []
  selectedRcbReference : Bytes := []
  fallbackUsed : Bool := false
  candidates : List MmsRcbCandidateEvaluation := []
  warnings : List Bytes := []
  blockers : List Bytes := []
  deriving DecidableEq

/-- The options that both selections have. -/
structure MmsRcbSelectionPolicy where
  preferredRcbReference : Bytes := []
  strictRcb : Bool := false
  allowUrcbFallback : Bool := true
  allowPollingFallback : Bool := true
  excludedRcbReferences : List Bytes := []
  deriving DecidableEq

structure MmsRcbStaticSelectionOptions extends MmsRcbSelectionPolicy where
  preferredDataSetReference : Bytes := []
  deriving DecidableEq

structure MmsRcbDynamicSelectionOptions extends MmsRcbSelectionPolicy where
  preferredLogicalDevice : Bytes := []
  deriving DecidableEq

namespace MmsRcbPoolSelector

/-! ## References -/

def normalizeReference (value : Bytes) : Bytes :=
  (trimAscii value).map fun octet => if octet = 0x24 then 0x2E else octet

/-- What a reference is compared by. -/
def referenceKey (value : Bytes) : Bytes := lowerAscii (normalizeReference value)

def sameReference (left right : Bytes) : Bool := referenceKey left == referenceKey right

def sameText (left right : Bytes) : Bool := lowerAscii (trimAscii left) == lowerAscii (trimAscii right)

def containsCi (value needle : Bytes) : Bool := decide (lowerAscii needle <:+: lowerAscii value)

def boolText : Option Bool → Bytes
  | none => []
  | some true => ascii "true"
  | some false => ascii "false"

def unsignedText : Option UInt64 → Bytes
  | none => []
  | some value => ascii (toString value.toNat)

def textOrDash (value : Bytes) : Bytes := if trimAscii value = [] then ascii "-" else trimAscii value

/-! ## What is known of a control block -/

structure RuntimeCandidate where
  candidate : MmsRcbCandidate
  wasProbed : Bool := false
  dataSetReference : Bytes := []
  reportId : Bytes := []
  configurationRevision : Bytes := []
  reportEnabled : Option Bool := none
  reserved : Option Bool := none
  reservationTimeSeconds : Option UInt64 := none
  deriving DecidableEq

def findEvidence (discovery : MmsRcbDiscovery) (candidate : MmsRcbCandidate) :
    Option MmsReportControlEvidence :=
  discovery.reportControls.find? fun evidence =>
    sameReference evidence.candidate.reference candidate.reference

def criticalProbeAttributeFailed (state : MmsRcbState) : Bool :=
  state.diagnostics.any fun diagnostic =>
    (containsCi diagnostic (ascii "DatSet") || containsCi diagnostic (ascii "RptEna")) &&
      containsCi diagnostic (ascii "failed")

def projectCandidate (discovery : MmsRcbDiscovery) (candidate : MmsRcbCandidate) :
    RuntimeCandidate :=
  match (findEvidence discovery candidate).bind (·.state) with
  | none => { candidate }
  | some state =>
    { candidate
      wasProbed := !criticalProbeAttributeFailed state
      dataSetReference := normalizeReference state.dataSetReference
      reportId := state.reportId
      configurationRevision := unsignedText state.configurationRevision
      reportEnabled := state.reportEnabled
      reserved := state.reserved
      reservationTimeSeconds := state.reservationTimeSeconds }

def explicitlyEnabled (candidate : RuntimeCandidate) : Bool := candidate.reportEnabled.getD false

def explicitlyDisabled (candidate : RuntimeCandidate) : Bool := candidate.reportEnabled == some false

def reservedByOtherClient (candidate : RuntimeCandidate) : Bool :=
  candidate.reserved.getD false || decide (candidate.reservationTimeSeconds.getD 0 > 0)

def reservationFreeForScore (candidate : RuntimeCandidate) : Bool :=
  !candidate.reserved.getD false && candidate.reservationTimeSeconds.getD 0 == 0

def classify (candidate : RuntimeCandidate) (requireEmptyDataSet requireDataSet : Bool) :
    MmsRcbAvailabilityKind :=
  if explicitlyEnabled candidate then .busyEnabled
  else if reservedByOtherClient candidate then .busyReserved
  else
    let hasDataSet := !candidate.dataSetReference.isEmpty
    let rptEnaNotTrue := candidate.reportEnabled != some true
    if requireDataSet && hasDataSet && rptEnaNotTrue && candidate.wasProbed then .availableStatic
    else if requireEmptyDataSet && !hasDataSet && rptEnaNotTrue && candidate.wasProbed then
      .availableDynamicEmpty
    else if !candidate.wasProbed || candidate.reportEnabled.isNone then .unknownNeedsProbe
    else if requireDataSet && !hasDataSet then .notApplicable
    else if requireEmptyDataSet && hasDataSet then .notApplicable
    else .notUsable

def buildExcludedSet (references : List Bytes) : List Bytes :=
  (references.map referenceKey).filter (· ≠ [])

def excluded (references : List Bytes) (reference : Bytes) : Bool :=
  references.contains (referenceKey reference)

def hasPopulatedDataSetDirectory (discovery : MmsRcbDiscovery) (dataSetReference : Bytes) : Bool :=
  if dataSetReference = [] then false
  else
    match (discovery.dataSetDirectories.find? fun evidence =>
        sameReference evidence.reference dataSetReference).bind (·.directory) with
    | none => false
    | some directory => !directory.members.isEmpty

/-! ## Evaluations -/

def buildReason (runtime : RuntimeCandidate) (availability : MmsRcbAvailabilityKind)
    (hasDataSetDirectory requestedMatches strictRcb filteredOut excludedByPreviousClaim
      staticMode : Bool) : Bytes :=
  if excludedByPreviousClaim then
    ascii "Excluded after a previous claim/write failure or pre-claim contention/cooldown in this command; trying the next Smart RCB candidate."
  else if filteredOut then
    if strictRcb then ascii "Filtered out by strict preferred RCB policy."
    else ascii "Filtered out by user policy/filter."
  else
    match availability with
    | .availableStatic =>
      if hasDataSetDirectory then
        ascii "Static RCB has DatSet, RptEna=false, no active reservation, and DataSet directory is usable."
      else
        ascii "Static RCB is free, but DataSet directory is missing/empty; value mapping would be unsafe."
    | .availableDynamicEmpty =>
      ascii "Dynamic slot has empty DatSet, RptEna=false, and no active reservation."
    | .busyEnabled =>
      ascii "RptEna=true; another client or previous session appears to own this RCB. Do not disable automatically."
    | .busyReserved =>
      if runtime.candidate.buffered then
        ascii "BRCB ResvTms=" ++ textOrDash (unsignedText runtime.reservationTimeSeconds) ++
          ascii " before claim; treat as reserved/busy."
      else
        ascii "URCB Resv=" ++ textOrDash (boolText runtime.reserved) ++
          ascii " before claim; treat as reserved/busy."
    | .contendedFlapping =>
      ascii "RCB state flips across probes; treat as contended/flapping and do not claim automatically."
    | .claimCooldown =>
      ascii "RCB is in command-local claim cooldown after contention/write rejection; do not claim automatically."
    | .unknownNeedsProbe =>
      ascii "RCB runtime state is not explicit; probe attributes before selecting automatically."
    | .notApplicable =>
      if staticMode then ascii "RCB has no DatSet, so it is not a static report candidate."
      else ascii "RCB already has a DatSet, so it is not an empty dynamic slot."
    | .notUsable =>
      if requestedMatches then ascii "RCB state is incomplete or not safe for automatic claim."
      else ascii "RCB does not match the requested scope."

def createEvaluation (runtime : RuntimeCandidate)
    (preferred sameDataSet sameLogicalDevice hasDataSetDirectory : Bool) (score : Int)
    (availability : MmsRcbAvailabilityKind) (decision : MmsRcbSelectionDecision)
    (reason action : Bytes) : MmsRcbCandidateEvaluation :=
  { reference := runtime.candidate.reference
    mode := runtime.candidate.mode
    domain := runtime.candidate.domain
    logicalNode := runtime.candidate.logicalNode
    name := runtime.candidate.name
    dataSetReference := runtime.dataSetReference
    reportId := runtime.reportId
    configurationRevision := runtime.configurationRevision
    reportEnabled := boolText runtime.reportEnabled
    reservationState := boolText runtime.reserved
    reservationTimeSeconds := unsignedText runtime.reservationTimeSeconds
    buffered := runtime.candidate.buffered
    preferred
    sameDataSet
    sameLogicalDevice
    hasDataSetDirectory
    score
    availability
    decision
    reason
    recommendedAction := action }

def decided (filteredOut selectable : Bool) : MmsRcbSelectionDecision :=
  if filteredOut then .filteredOut else if selectable then .candidate else .skipped

/-- The points for a condition. -/
def points (condition : Bool) (value : Int) : Int := if condition then value else 0

def busy (availability : MmsRcbAvailabilityKind) : Bool :=
  availability == .busyEnabled || availability == .busyReserved

/-- The candidate is the preferred one. -/
def isPreferred (preferredRcb : Bytes) (candidate : MmsRcbCandidate) : Bool :=
  !preferredRcb.isEmpty && sameReference candidate.reference preferredRcb

/-- The data set that is asked for: the preferred one, or that of the preferred control block. -/
def requestedDataSet (discovery : MmsRcbDiscovery) (options : MmsRcbStaticSelectionOptions) : Bytes :=
  let preferredRcb := normalizeReference options.preferredRcbReference
  let requested := normalizeReference options.preferredDataSetReference
  if requested = [] ∧ preferredRcb ≠ [] then
    match discovery.inventory.find? fun candidate => sameReference candidate.reference preferredRcb with
    | none => requested
    | some candidate => (projectCandidate discovery candidate).dataSetReference
  else requested

def evaluateStatic (discovery : MmsRcbDiscovery) (options : MmsRcbStaticSelectionOptions)
    (candidate : MmsRcbCandidate) : MmsRcbCandidateEvaluation :=
  let runtime := projectCandidate discovery candidate
  let preferredRcb := normalizeReference options.preferredRcbReference
  let requested := requestedDataSet discovery options
  let preferred := isPreferred preferredRcb candidate
  let excludedByPreviousClaim :=
    excluded (buildExcludedSet options.excludedRcbReferences) candidate.reference
  let requestedMatches := requested.isEmpty || sameReference runtime.dataSetReference requested
  let hasDirectory := hasPopulatedDataSetDirectory discovery runtime.dataSetReference
  let availability := classify runtime false true
  let filteredOut := options.strictRcb && !preferredRcb.isEmpty && !preferred ||
    !options.allowUrcbFallback && !candidate.buffered || !requestedMatches || excludedByPreviousClaim
  let selectable := !filteredOut && availability == .availableStatic && hasDirectory
  let score := points preferred 500 + points requestedMatches 120 + points hasDirectory 100 +
    points candidate.buffered 40 + points (sameText candidate.logicalNode (ascii "LLN0")) 15 +
    points (explicitlyDisabled runtime) 25 + points (reservationFreeForScore runtime) 25 +
    points (!runtime.configurationRevision.isEmpty) 10 + points (!runtime.reportId.isEmpty) 10 -
    points (busy availability) 1000 - points (!hasDirectory) 250
  createEvaluation runtime preferred requestedMatches true hasDirectory score availability
    (decided filteredOut selectable)
    (buildReason runtime availability hasDirectory requestedMatches options.strictRcb filteredOut
      excludedByPreviousClaim true)
    (if selectable then ascii "Safe static report candidate."
      else ascii "Do not claim this RCB automatically.")

def evaluateDynamic (discovery : MmsRcbDiscovery) (options : MmsRcbDynamicSelectionOptions)
    (candidate : MmsRcbCandidate) : MmsRcbCandidateEvaluation :=
  let runtime := projectCandidate discovery candidate
  let preferredRcb := normalizeReference options.preferredRcbReference
  let requestedDevice := trimAscii options.preferredLogicalDevice
  let preferred := isPreferred preferredRcb candidate
  let excludedByPreviousClaim :=
    excluded (buildExcludedSet options.excludedRcbReferences) candidate.reference
  let sameDevice := requestedDevice.isEmpty || sameText candidate.domain requestedDevice
  let availability := classify runtime true false
  let filteredOut := options.strictRcb && !preferredRcb.isEmpty && !preferred ||
    !options.allowUrcbFallback && !candidate.buffered || excludedByPreviousClaim
  let selectable := !filteredOut && availability == .availableDynamicEmpty
  let score := points preferred 500 + points runtime.dataSetReference.isEmpty 140 +
    points sameDevice 100 + points candidate.buffered 40 +
    points (sameText candidate.logicalNode (ascii "LLN0")) 15 +
    points (explicitlyDisabled runtime) 25 + points (reservationFreeForScore runtime) 25 +
    points (!runtime.configurationRevision.isEmpty) 10 - points (busy availability) 1000 -
    points (!runtime.dataSetReference.isEmpty) 600
  createEvaluation runtime preferred runtime.dataSetReference.isEmpty sameDevice false score
    availability (decided filteredOut selectable)
    (buildReason runtime availability false sameDevice options.strictRcb filteredOut
      excludedByPreviousClaim false)
    (if selectable then ascii "Safe dynamic empty-slot candidate."
      else ascii "Do not bind a dynamic DataSet to this RCB automatically.")

/-! ## The order of the evaluations -/

/-- `true` comes first. -/
def rank (first : Bool) : Nat := if first then 0 else 1

/-- By decision, selectability and score; what comes after that differs in the two selections. -/
def compareRank : MmsRcbCandidateEvaluation → MmsRcbCandidateEvaluation → Ordering :=
  compareLex (compareOn fun evaluation => rank (evaluation.decision != .filteredOut))
    (compareLex (compareOn fun evaluation => rank evaluation.selectable)
      (compareLex (compareOn fun evaluation => -evaluation.score)
        (compareOn fun evaluation => rank evaluation.buffered)))

def compareNames : MmsRcbCandidateEvaluation → MmsRcbCandidateEvaluation → Ordering :=
  compareLex (compareOn fun evaluation => lowerAscii evaluation.domain)
    (compareLex (compareOn fun evaluation => rank (sameText evaluation.logicalNode (ascii "LLN0")))
      (compareLex (compareOn fun evaluation => lowerAscii evaluation.logicalNode)
        (compareOn fun evaluation => lowerAscii evaluation.name)))

def compareStatic : MmsRcbCandidateEvaluation → MmsRcbCandidateEvaluation → Ordering :=
  compareLex compareRank compareNames

def compareDynamic : MmsRcbCandidateEvaluation → MmsRcbCandidateEvaluation → Ordering :=
  compareLex compareRank
    (compareLex (compareOn fun evaluation => rank evaluation.sameLogicalDevice) compareNames)

/-- What `std::sort` makes of a list. -/
structure Sorting (α : Type) (compare : α → α → Ordering) where
  sort : List α → List α
  perm : ∀ l, (sort l).Perm l
  sorted : ∀ l, (sort l).Pairwise fun left right => compare right left ≠ .lt

/-! ## Selections -/

def firstSelectableReference (evaluations : List MmsRcbCandidateEvaluation) : Bytes :=
  match evaluations.find? (·.selectable) with
  | none => []
  | some evaluation => evaluation.reference

def finalizeDecision (selectedReference : Bytes) (evaluation : MmsRcbCandidateEvaluation) :
    MmsRcbCandidateEvaluation :=
  if sameReference evaluation.reference selectedReference then
    { evaluation with
      decision := .selected
      recommendedAction := ascii "Selected by Smart RCB policy." }
  else if evaluation.decision ≠ .filteredOut then
    { evaluation with decision := if evaluation.selectable then .candidate else .skipped }
  else evaluation

def finalizeDecisions (evaluations : List MmsRcbCandidateEvaluation) (selectedReference : Bytes) :
    List MmsRcbCandidateEvaluation :=
  if selectedReference = [] then evaluations
  else evaluations.map (finalizeDecision selectedReference)

/-- The evidence of both selections; the texts and the kind of the request are the caller's. -/
def selectionEvidence (policy : MmsRcbSelectionPolicy) (mode : MmsRcbSelectionMode)
    (requestedDataSetReference requestedLogicalDevice blockedStrict blocked polling : Bytes)
    (sorted : List MmsRcbCandidateEvaluation) : MmsRcbSelectionEvidence :=
  let selectedReference := firstSelectableReference sorted
  let result : MmsRcbSelectionEvidence :=
    { mode
      preferredRcbReference := policy.preferredRcbReference
      strictRcb := policy.strictRcb
      allowUrcbFallback := policy.allowUrcbFallback
      allowPollingFallback := policy.allowPollingFallback
      requestedDataSetReference
      requestedLogicalDevice
      selectedRcbReference := selectedReference
      fallbackUsed := !policy.preferredRcbReference.isEmpty && !selectedReference.isEmpty &&
        !sameReference selectedReference policy.preferredRcbReference
      candidates := finalizeDecisions sorted selectedReference }
  if selectedReference = [] then
    { result with
      blockers := [if policy.strictRcb ∧ policy.preferredRcbReference ≠ [] then
          ascii "Strict RCB selection blocked the session because " ++
            policy.preferredRcbReference ++ blockedStrict
        else blocked]
      warnings := if policy.allowPollingFallback then [polling] else [] }
  else if policy.preferredRcbReference ≠ [] ∧
      sameReference selectedReference policy.preferredRcbReference = false then
    { result with
      warnings := [ascii "Preferred RCB " ++ policy.preferredRcbReference ++
        ascii " was not selected; smart fallback selected " ++ selectedReference ++
        ascii " to avoid an unsafe/busy RCB."] }
  else result

def buildStaticSelection (sort : Sorting MmsRcbCandidateEvaluation compareStatic)
    (discovery : MmsRcbDiscovery) (options : MmsRcbStaticSelectionOptions) :
    MmsRcbSelectionEvidence :=
  selectionEvidence options.toMmsRcbSelectionPolicy .staticDataSet options.preferredDataSetReference []
    (ascii " is not available for static reporting.")
    (ascii "No available static RCB matched the requested DataSet/filter.")
    (ascii "No safe RCB was selected. Smart polling fallback is allowed by policy, but report monitor will remain blocked until polling fallback mode is implemented by the caller.")
    (sort.sort (discovery.inventory.map (evaluateStatic discovery options)))

def buildDynamicSelection (sort : Sorting MmsRcbCandidateEvaluation compareDynamic)
    (discovery : MmsRcbDiscovery) (options : MmsRcbDynamicSelectionOptions) :
    MmsRcbSelectionEvidence :=
  selectionEvidence options.toMmsRcbSelectionPolicy .dynamicDataSet [] options.preferredLogicalDevice
    (ascii " is not an available empty dynamic slot.")
    (ascii "No available empty dynamic RCB slot matched the requested filter.")
    (ascii "No dynamic RCB slot was selected. Smart polling fallback is allowed by policy, but dynamic reporting remains blocked until the caller chooses polling fallback.")
    (sort.sort (discovery.inventory.map (evaluateDynamic discovery options)))

def selectReportControl (discovery : MmsRcbDiscovery) (selection : MmsRcbSelectionEvidence) :
    Option MmsRcbCandidate :=
  if selection.selectedRcbReference = [] then none
  else
    discovery.inventory.find? fun candidate =>
      sameReference candidate.reference selection.selectedRcbReference

end MmsRcbPoolSelector

end ArStack.Mms
