import Mathlib.Data.List.Basic

/-!
# The source policy

`PtpSourcePolicyMachine` decides which PTP role a station takes and when Sampled Values may be
sent. It acts only through the actions it returns; the owner of the hardware reports back with
the evidence of the next tick.

* `configure`, `tick`
-/

namespace ArStack.TimeSync

inductive PtpSourceIntent where
  | internalGm
  | externalFollower
  | autoFailover
  deriving DecidableEq

inductive PtpSourceState where
  | idle
  | startingInternal
  | internalReady
  | acquiringExternal
  | externalLocked
  | externalLoss
  | revokingSv
  | drainingPtp
  | waitingExclusiveEmac
  | waitingSecondBoundary
  | fault
  deriving DecidableEq

inductive PtpSourceAction where
  | none
  | startInternal
  | startExternal
  | revokeSvAndPause
  | stopCurrentPtp
  | rearmSvAtSecond
  | refuseCompetingGm
  deriving DecidableEq

structure PtpSourcePolicyOptions where
  intent : PtpSourceIntent := .internalGm
  externalTargetSelected : Bool := false
  fallbackAuthorized : Bool := false
  autoRestoreExternal : Bool := false
  acquisitionTimeoutMs : UInt32 := 5000
  lossTimeoutMs : UInt32 := 3000
  restoreHysteresisMs : UInt32 := 5000
  deriving DecidableEq

structure PtpSourceEvidence where
  linkUp : Bool := false
  sourceWorkerActive : Bool := false
  receiverWorkerActive : Bool := false
  receiverCleanupPending : Bool := false
  internalGmTxReady : Bool := false
  selectedExternalServoLocked : Bool := false
  independentExternalCandidateValid : Bool := false
  otherGrandmasterPresent : Bool := false
  svTransmissionPaused : Bool := false
  atPtpSecondBoundary : Bool := false
  svGmIdentityMatchesActivePtp : Bool := false
  deriving DecidableEq

structure PtpSourceDecision where
  state : PtpSourceState := .idle
  action : PtpSourceAction := .none
  authorityGeneration : UInt32 := 0
  deriving DecidableEq

structure PtpSourcePolicyMachine where
  options : PtpSourcePolicyOptions := {}
  state : PtpSourceState := .idle
  configured : Bool := false
  switchToExternal : Bool := false
  rearmRequired : Bool := false
  since : UInt64 := 0
  lastTimeMs : UInt64 := 0
  externalCandidateSince : UInt64 := 0
  generation : UInt32 := 0
  deriving DecidableEq

namespace PtpSourcePolicyMachine

def configure (m : PtpSourcePolicyMachine) (options : PtpSourcePolicyOptions) :
    Bool × PtpSourcePolicyMachine :=
  if m.state ≠ .idle ∨
      options.acquisitionTimeoutMs < 1000 ∨ options.acquisitionTimeoutMs > 120000 ∨
      options.lossTimeoutMs < 500 ∨ options.lossTimeoutMs > 120000 ∨
      options.restoreHysteresisMs < 1000 ∨ options.restoreHysteresisMs > 120000 ∨
      (options.intent = .externalFollower ∧ !options.externalTargetSelected) ∨
      (options.intent ≠ .autoFailover ∧
        (options.fallbackAuthorized || options.autoRestoreExternal)) ∨
      (options.autoRestoreExternal && !options.fallbackAuthorized) then
    (false, m)
  else (true, { m with options, configured := true })

/-- No PTP worker is active, and none is being cleaned up. -/
def exclusive (e : PtpSourceEvidence) : Bool :=
  !e.sourceWorkerActive && !e.receiverWorkerActive && !e.receiverCleanupPending

def reply (m : PtpSourcePolicyMachine) (action : PtpSourceAction := .none) :
    PtpSourceDecision × PtpSourcePolicyMachine := (⟨m.state, action, m.generation⟩, m)

def beginRevoke (m : PtpSourcePolicyMachine) (ms : UInt64) :
    PtpSourceDecision × PtpSourcePolicyMachine :=
  reply
    { m with
      since := ms
      rearmRequired := true
      externalCandidateSince := 0
      state := .revokingSv } .revokeSvAndPause

/-- A new role begins. -/
def begin (m : PtpSourcePolicyMachine) (state : PtpSourceState) (ms : UInt64) :
    PtpSourcePolicyMachine :=
  { m with generation := m.generation + 1, state, since := ms }

def tickIdle (m : PtpSourcePolicyMachine) (ms : UInt64) (e : PtpSourceEvidence) :
    PtpSourceDecision × PtpSourcePolicyMachine :=
  if !e.linkUp then m.reply
  else if m.options.intent = .internalGm ∨
      (m.options.intent = .autoFailover ∧ !m.options.externalTargetSelected) then
    if !exclusive e then m.reply
    else if e.otherGrandmasterPresent then m.reply .refuseCompetingGm
    else (m.begin .startingInternal ms).reply .startInternal
  else if !exclusive e then m.reply
  else (m.begin .acquiringExternal ms).reply .startExternal

def tickStartingInternal (m : PtpSourcePolicyMachine) (ms : UInt64) (e : PtpSourceEvidence) :
    PtpSourceDecision × PtpSourcePolicyMachine :=
  if e.sourceWorkerActive && e.internalGmTxReady then
    reply { m with state := if m.rearmRequired then .waitingSecondBoundary else .internalReady }
  else if ms - m.since > m.options.acquisitionTimeoutMs.toUInt64 then
    reply { m with state := .fault } .revokeSvAndPause
  else m.reply

def tickInternalReady (m : PtpSourcePolicyMachine) (ms : UInt64) (e : PtpSourceEvidence) :
    PtpSourceDecision × PtpSourcePolicyMachine :=
  if !e.sourceWorkerActive || !e.internalGmTxReady then
    beginRevoke { m with switchToExternal := false } ms
  else if m.options.intent = .autoFailover ∧
      (m.options.autoRestoreExternal && e.independentExternalCandidateValid) then
    let since := if m.externalCandidateSince = 0 then ms + 1 else m.externalCandidateSince
    if ms + 1 - since ≥ m.options.restoreHysteresisMs.toUInt64 then
      beginRevoke { m with externalCandidateSince := since, switchToExternal := true } ms
    else reply { m with externalCandidateSince := since }
  else reply { m with externalCandidateSince := 0 }

def tickAcquiringExternal (m : PtpSourcePolicyMachine) (ms : UInt64) (e : PtpSourceEvidence) :
    PtpSourceDecision × PtpSourcePolicyMachine :=
  if e.receiverWorkerActive && e.selectedExternalServoLocked then
    reply { m with state := if m.rearmRequired then .waitingSecondBoundary else .externalLocked }
  else if ms - m.since ≥ m.options.acquisitionTimeoutMs.toUInt64 ∧
      m.options.intent = .autoFailover ∧ m.options.fallbackAuthorized then
    beginRevoke { m with switchToExternal := false } ms
  else m.reply

def tickExternalLocked (m : PtpSourcePolicyMachine) (ms : UInt64) (e : PtpSourceEvidence) :
    PtpSourceDecision × PtpSourcePolicyMachine :=
  if !e.receiverWorkerActive || !e.selectedExternalServoLocked then
    reply { m with state := .externalLoss, since := ms } .revokeSvAndPause
  else m.reply

def tickExternalLoss (m : PtpSourcePolicyMachine) (ms : UInt64) (e : PtpSourceEvidence) :
    PtpSourceDecision × PtpSourcePolicyMachine :=
  if e.receiverWorkerActive && e.selectedExternalServoLocked then
    reply
      { m with switchToExternal := true, rearmRequired := true, state := .waitingSecondBoundary }
  else if ms - m.since ≥ m.options.lossTimeoutMs.toUInt64 ∧
      m.options.intent = .autoFailover ∧ m.options.fallbackAuthorized then
    beginRevoke { m with switchToExternal := false } ms
  else m.reply

def tickRevokingSv (m : PtpSourcePolicyMachine) (e : PtpSourceEvidence) :
    PtpSourceDecision × PtpSourcePolicyMachine :=
  if !e.svTransmissionPaused then m.reply
  else
    reply { m with state := .drainingPtp }
      (if e.sourceWorkerActive || e.receiverWorkerActive then .stopCurrentPtp else .none)

def tickDrainingPtp (m : PtpSourcePolicyMachine) (e : PtpSourceEvidence) :
    PtpSourceDecision × PtpSourcePolicyMachine :=
  if e.sourceWorkerActive || e.receiverWorkerActive || e.receiverCleanupPending ||
      !e.svTransmissionPaused then m.reply
  else reply { m with state := .waitingExclusiveEmac }

def tickWaitingExclusiveEmac (m : PtpSourcePolicyMachine) (ms : UInt64) (e : PtpSourceEvidence) :
    PtpSourceDecision × PtpSourcePolicyMachine :=
  if !e.svTransmissionPaused || !e.linkUp || !exclusive e then m.reply
  else if !m.switchToExternal && e.otherGrandmasterPresent then m.reply .refuseCompetingGm
  else if m.switchToExternal then (m.begin .acquiringExternal ms).reply .startExternal
  else (m.begin .startingInternal ms).reply .startInternal

/-- The worker of the role that is to be entered is ready. -/
def active (m : PtpSourcePolicyMachine) (e : PtpSourceEvidence) : Bool :=
  if m.switchToExternal then e.receiverWorkerActive && e.selectedExternalServoLocked
  else e.sourceWorkerActive && e.internalGmTxReady

def tickWaitingSecondBoundary (m : PtpSourcePolicyMachine) (e : PtpSourceEvidence) :
    PtpSourceDecision × PtpSourcePolicyMachine :=
  if m.active e && e.svTransmissionPaused && e.atPtpSecondBoundary &&
      e.svGmIdentityMatchesActivePtp then
    reply
      { m with
        state := if m.switchToExternal then .externalLocked else .internalReady
        rearmRequired := false } .rearmSvAtSecond
  else m.reply

/-- The tick of a machine that has taken the time. -/
def tickState (m : PtpSourcePolicyMachine) (ms : UInt64) (e : PtpSourceEvidence) :
    PtpSourceDecision × PtpSourcePolicyMachine :=
  match m.state with
  | .idle => m.tickIdle ms e
  | .startingInternal => m.tickStartingInternal ms e
  | .internalReady => m.tickInternalReady ms e
  | .acquiringExternal => m.tickAcquiringExternal ms e
  | .externalLocked => m.tickExternalLocked ms e
  | .externalLoss => m.tickExternalLoss ms e
  | .revokingSv => m.tickRevokingSv e
  | .drainingPtp => m.tickDrainingPtp e
  | .waitingExclusiveEmac => m.tickWaitingExclusiveEmac ms e
  | .waitingSecondBoundary => m.tickWaitingSecondBoundary e
  | .fault => m.reply

def tick (m : PtpSourcePolicyMachine) (ms : UInt64) (e : PtpSourceEvidence) :
    PtpSourceDecision × PtpSourcePolicyMachine :=
  if !m.configured || decide (ms < m.lastTimeMs) then reply { m with state := .fault }
  else tickState { m with lastTimeMs := ms } ms e

end PtpSourcePolicyMachine

end ArStack.TimeSync
