import ArStack.Mms.RcbSelection

/-!
# Preparation of a static report session

`MmsStaticReportSessionRuntime` selects a report control block, probes it for contention and, if it
is contended, selects another. The answers of the probes are the environment's; the control blocks
that were probed are kept in the session.

* `observe` — `MmsRcbPreclaimFailoverTracker`
* `resolveSelectedStaticBinding` — the directory of the selected control block
* `prepare` — the loop
-/

namespace ArStack.Mms

open ArStack.Lib

inductive MmsRcbPreclaimOutcome where
  | stableProceed
  | skippedContended
  | attemptsExhausted
  deriving DecidableEq

structure MmsRcbContentionProbeResult where
  rcbReference : Bytes := []
  isContended : Bool := false
  isBusyAtProbe : Bool := false
  isFlapping : Bool := false
  cooldownSeconds : Int := 0
  reason : Bytes := []
  deriving DecidableEq

structure MmsRcbPreclaimAttemptEvidence where
  attemptNumber : Nat := 0
  rcbReference : Bytes := []
  outcome : MmsRcbPreclaimOutcome := .skippedContended
  busy : Bool := false
  flapping : Bool := false
  cooldownSeconds : Int := 0
  reason : Bytes := []
  deriving DecidableEq

structure MmsRcbPreclaimFailoverTracker where
  maximumCandidateAttempts : Nat := 4
  attempts : List MmsRcbPreclaimAttemptEvidence := []
  excludedRcbReferences : List Bytes := []
  selectedRcbReference : Bytes := []
  exhausted : Bool := false
  deriving DecidableEq

/-- What `prepare` throws. -/
inductive MmsPrepareError where
  | invalidArgument (what : String)
  | logicError (what : String)
  | session (what : Bytes)
  | probe (what : Bytes)
  deriving DecidableEq

namespace MmsRcbPreclaimFailoverTracker

def create (maximumCandidateAttempts : Nat) : Except MmsPrepareError MmsRcbPreclaimFailoverTracker :=
  if maximumCandidateAttempts = 0 then
    .error (.invalidArgument "RCB pre-claim failover requires at least one candidate attempt.")
  else .ok { maximumCandidateAttempts }

def mayAttempt (tracker : MmsRcbPreclaimFailoverTracker) : Bool :=
  tracker.selectedRcbReference.isEmpty && !tracker.exhausted &&
    decide (tracker.attempts.length < tracker.maximumCandidateAttempts)

def observe (tracker : MmsRcbPreclaimFailoverTracker) (result : MmsRcbContentionProbeResult) :
    Except MmsPrepareError (MmsRcbPreclaimOutcome × MmsRcbPreclaimFailoverTracker) :=
  if !tracker.mayAttempt then
    .error (.logicError "RCB pre-claim failover is already selected or exhausted.")
  else if result.rcbReference = [] then
    .error (.invalidArgument "RCB pre-claim probe result requires a candidate reference.")
  else if tracker.excludedRcbReferences.contains result.rcbReference then
    .error (.logicError "RCB pre-claim failover cannot probe an excluded candidate twice.")
  else
    let attempt : MmsRcbPreclaimAttemptEvidence :=
      { attemptNumber := tracker.attempts.length + 1
        rcbReference := result.rcbReference
        busy := result.isBusyAtProbe
        flapping := result.isFlapping
        cooldownSeconds := result.cooldownSeconds
        reason := result.reason }
    if !result.isContended then
      .ok (.stableProceed,
        { tracker with
          selectedRcbReference := result.rcbReference
          attempts := tracker.attempts ++ [{ attempt with outcome := .stableProceed }] })
    else
      let exhausted := decide (tracker.attempts.length + 1 ≥ tracker.maximumCandidateAttempts)
      let outcome := if exhausted then .attemptsExhausted else .skippedContended
      .ok (outcome,
        { tracker with
          excludedRcbReferences := tracker.excludedRcbReferences ++ [result.rcbReference]
          exhausted
          attempts := tracker.attempts ++ [{ attempt with outcome }] })

end MmsRcbPreclaimFailoverTracker

/-- The options that `prepare` reads, and the one that the constructor checks. -/
structure MmsStaticReportSessionOptions where
  selection : MmsRcbStaticSelectionOptions := {}
  maximumCandidateAttempts : Nat := 4
  writeDataSetReference : Bool := false
  deriving DecidableEq

/-- `probed` has the control blocks that were probed, `subscribed` is whether there is a subscription. -/
structure MmsStaticReportSessionRuntime where
  options : MmsStaticReportSessionOptions := {}
  failover : MmsRcbPreclaimFailoverTracker := {}
  selectedCandidate : Option MmsRcbCandidate := none
  selectedDirectory : Option MmsDataSetDirectoryResponse := none
  selectedDataSetReference : Bytes := []
  blockers : List Bytes := []
  prepared : Bool := false
  subscribed : Bool := false
  probed : List MmsRcbCandidate := []
  deriving DecidableEq

namespace MmsStaticReportSessionRuntime

open MmsRcbPoolSelector MmsRcbPreclaimFailoverTracker

def create (options : MmsStaticReportSessionOptions) :
    Except MmsPrepareError MmsStaticReportSessionRuntime :=
  match MmsRcbPreclaimFailoverTracker.create options.maximumCandidateAttempts with
  | .error what => .error what
  | .ok failover =>
    if options.writeDataSetReference then
      .error (.invalidArgument "Static report session cannot rewrite the RCB DatSet binding.")
    else .ok { options, failover }

/-! ## The binding -/

def sameObjectName (left right : Bytes) : Bool :=
  decide (MmsDataSetDirectoryCodec.parseDataSetReference left =
    MmsDataSetDirectoryCodec.parseDataSetReference right)

def findControlEvidence (discovery : MmsRcbDiscovery) (reference : Bytes) :
    Option MmsReportControlEvidence :=
  discovery.reportControls.find? fun evidence => evidence.candidate.reference == reference

def findDirectoryEvidence (discovery : MmsRcbDiscovery) (reference : Bytes) :
    Option MmsDataSetDirectoryEvidence :=
  discovery.dataSetDirectories.find? fun evidence => sameObjectName evidence.reference reference

/-- The data set reference of the selected control block is kept even if there is no directory. -/
def resolveSelectedStaticBinding (discovery : MmsRcbDiscovery) (candidate : MmsRcbCandidate)
    (session : MmsStaticReportSessionRuntime) :
    Except MmsPrepareError Unit × MmsStaticReportSessionRuntime :=
  match (findControlEvidence discovery candidate.reference).bind (·.state) with
  | none =>
    (.error (.session (ascii "Selected static RCB has no successful runtime-state evidence.")), session)
  | some state =>
    let session := { session with selectedDataSetReference := state.dataSetReference }
    if state.dataSetReference = [] then
      (.error (.session (ascii "Selected static RCB has no bound DataSet reference.")), session)
    else
      match (findDirectoryEvidence discovery state.dataSetReference).bind (·.directory) with
      | none =>
        (.error (.session (ascii "Selected static RCB DataSet directory is missing or empty.")), session)
      | some directory =>
        if directory.members = [] then
          (.error (.session (ascii "Selected static RCB DataSet directory is missing or empty.")), session)
        else (.ok (), { session with selectedDirectory := some directory })

/-! ## The loop -/

/-- How the loop is left. -/
inductive LoopEnd where
  | prepared
  | left
  | threw (what : MmsPrepareError)
  deriving DecidableEq

variable (sorting : Sorting MmsRcbCandidateEvaluation compareStatic) (discovery : MmsRcbDiscovery)
  (probe : Nat → MmsRcbCandidate → Except Bytes MmsRcbContentionProbeResult)

/-- The selection without the control blocks that were found contended. -/
def nextSelection (session : MmsStaticReportSessionRuntime) : MmsRcbSelectionEvidence :=
  buildStaticSelection sorting discovery
    { session.options.selection with
      excludedRcbReferences := session.failover.excludedRcbReferences }

def noInventoryCandidate : Bytes :=
  ascii "Static RCB selection returned no matching inventory candidate."

/-- What one round of the loop comes to. -/
inductive Step where
  | again (session : MmsStaticReportSessionRuntime)
  | done (how : LoopEnd) (session : MmsStaticReportSessionRuntime)

/-- One round of the loop. -/
def attempt (session : MmsStaticReportSessionRuntime) : Step :=
  if !session.failover.mayAttempt then .done .left session
  else
    let selection := nextSelection sorting discovery session
    if selection.selectedRcbReference = [] then
      .done .left { session with blockers := selection.blockers }
    else
      match selectReportControl discovery selection with
      | none => .done .left { session with blockers := session.blockers ++ [noInventoryCandidate] }
      | some candidate =>
        let session := { session with probed := session.probed ++ [candidate] }
        match probe session.probed.length candidate with
        | .error what => .done (.threw (.probe what)) session
        | .ok contention =>
          match session.failover.observe { contention with rcbReference := candidate.reference } with
          | .error what => .done (.threw what) session
          | .ok (.stableProceed, failover) =>
            let session := { session with failover, selectedCandidate := some candidate }
            match resolveSelectedStaticBinding discovery candidate session with
            | (.error what, session) => .done (.threw what) session
            | (.ok (), session) => .done .prepared { session with prepared := true }
          | .ok (_, failover) => .again { session with failover }

/-- The rounds of the loop, of which there are not more than `maximumCandidateAttempts`. -/
def prepareLoop : Nat → MmsStaticReportSessionRuntime → LoopEnd × MmsStaticReportSessionRuntime
  | 0, session => (.left, session)
  | fuel + 1, session =>
    match attempt sorting discovery probe session with
    | .again session => prepareLoop fuel session
    | .done how session => (how, session)

/-- What is thrown after the loop. -/
def withBlockers (session : MmsStaticReportSessionRuntime) : MmsStaticReportSessionRuntime :=
  if session.blockers = [] then
    { session with
      blockers := [if session.failover.exhausted then
          ascii "Static report pre-claim candidate attempt limit was exhausted."
        else ascii "No stable static RCB candidate remained after pre-claim selection."] }
  else session

def prepare (associated : Bool) (session : MmsStaticReportSessionRuntime) :
    Except MmsPrepareError Unit × MmsStaticReportSessionRuntime :=
  if session.prepared || session.selectedCandidate.isSome || session.subscribed then
    (.error (.session (ascii "Static report session prepare may be called only once.")), session)
  else if !associated then
    (.error (.session (ascii "Static report session requires an active MMS association.")), session)
  else
    match prepareLoop sorting discovery probe session.failover.maximumCandidateAttempts session with
    | (.prepared, session) => (.ok (), session)
    | (.threw what, session) => (.error what, session)
    | (.left, session) =>
      let session := withBlockers session
      (.error (.session (session.blockers.headD [])), session)

end MmsStaticReportSessionRuntime

end ArStack.Mms
