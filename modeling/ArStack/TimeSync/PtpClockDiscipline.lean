import ArStack.TimeSync.PtpDisciplineTypes

/-!
# The clock discipline

`PtpClockDiscipline` turns the offsets of the receiver into commands for the local clock. What the
floating-point path filter and servo compute comes with each measurement, as any values at all.

* `observe`, `tick`, `recordActuationFailure`, `revokeGlobalTraceability`
* `step` — any of these calls
-/

namespace ArStack.TimeSync

inductive PtpDisciplineState where
  | unlocked
  | acquiring
  | locked
  | holdover
  | fault
  deriving DecidableEq

inductive PtpClockCommandKind where
  | none
  | stepPhase
  | setFrequency
  deriving DecidableEq

structure PtpClockCommand where
  kind : PtpClockCommandKind := .none
  phaseStepNs : Int64 := 0
  frequencyAdjustmentPpb : Int32 := 0
  deriving DecidableEq

inductive SmpSynchValue where
  | localSynchronized
  | globalSynchronized
  deriving DecidableEq

structure PtpDisciplineOptions where
  maximumPathDelayNs : Int64 := 5000000
  maximumPathDelayJitterNs : Int64 := 100000
  lockOffsetThresholdNs : Int64 := 2000
  unlockOffsetThresholdNs : Int64 := 20000
  phaseStepThresholdNs : Int64 := 1000000
  faultOffsetThresholdNs : Int64 := 5000000000
  maximumAcquisitionPhaseStepNs : Int64 := 4000000000000000000
  lockRequiredSamples : UInt32 := 8
  unlockRequiredSamples : UInt32 := 3
  invalidSamplesBeforeFault : UInt32 := 8
  maximumFrequencyAdjustmentPpb : Int32 := 100000
  phaseTimeConstant : Int := 2000
  syncTimeout : Int := 1000
  holdoverTimeout : Int := 5000
  /-- `frequency_filter_alpha` is more than 0 and at most 1. -/
  frequencyFilterAlphaValid : Bool := true
  deriving DecidableEq

structure PtpDisciplineStatus where
  state : PtpDisciplineState := .unlocked
  offsetFromMasterNs : Option Int64 := none
  meanPathDelayNs : Option Int64 := none
  pathDelayJitterNs : Option Int64 := none
  frequencyAdjustmentPpb : Int32 := 0
  acceptedSamples : UInt64 := 0
  rejectedSamples : UInt64 := 0
  phaseSteps : UInt64 := 0
  frequencyUpdates : UInt64 := 0
  consecutiveQualifiedSamples : UInt32 := 0
  consecutiveBadSamples : UInt32 := 0
  globallyTraceable : Bool := false
  deriving DecidableEq

/-- What the floating-point code computes for a measurement. -/
structure PtpFloatValues where
  /-- The distance from the filtered path delay, rounded. -/
  difference : Int64
  /-- The frequency of the servo, rounded. -/
  rounded : Int64
  deriving DecidableEq

structure PtpClockDiscipline where
  options : PtpDisciplineOptions
  status : PtpDisciplineStatus := {}
  lastAcceptedSampleTime : Option Int := none
  /-- `filtered_path_delay_ns_` has a value. -/
  pathDelayFiltered : Bool := false
  consecutiveInvalidSamples : UInt32 := 0
  largeAcquisitionPhaseStepUsed : Bool := false
  lockAchievedSinceReset : Bool := false
  deriving DecidableEq

/-- `std::clamp` -/
def clamp (value low high : Int64) : Int64 :=
  if value < low then low else if high < value then high else value

namespace PtpClockDiscipline

def validateOptions (options : PtpDisciplineOptions) : Bool :=
  options.maximumPathDelayNs > 0 &&
    options.maximumPathDelayJitterNs ≥ 0 &&
    options.lockOffsetThresholdNs > 0 &&
    options.unlockOffsetThresholdNs ≥ options.lockOffsetThresholdNs &&
    options.phaseStepThresholdNs ≥ options.unlockOffsetThresholdNs &&
    options.faultOffsetThresholdNs ≥ options.phaseStepThresholdNs &&
    options.maximumAcquisitionPhaseStepNs ≥ options.faultOffsetThresholdNs &&
    options.lockRequiredSamples ≠ 0 &&
    options.unlockRequiredSamples ≠ 0 &&
    options.invalidSamplesBeforeFault ≠ 0 &&
    options.maximumFrequencyAdjustmentPpb > 0 &&
    options.phaseTimeConstant > 0 &&
    options.syncTimeout > 0 &&
    options.holdoverTimeout > 0 &&
    options.frequencyFilterAlphaValid

/-- The constructor. -/
def create (options : PtpDisciplineOptions) : PtpClockDiscipline where
  options := if validateOptions options then options else {}

def reset (d : PtpClockDiscipline) : PtpClockDiscipline := { options := d.options }

/-- The fault latch, without the claim of global traceability. -/
def fail (d : PtpClockDiscipline) : PtpClockDiscipline :=
  { d with status.state := .fault, status.globallyTraceable := false }

def rejectSample (d : PtpClockDiscipline) : PtpClockDiscipline :=
  let d := { d with
    status.rejectedSamples := d.status.rejectedSamples + 1
    status.consecutiveQualifiedSamples := 0
    status.consecutiveBadSamples := 0
    consecutiveInvalidSamples := d.consecutiveInvalidSamples + 1 }
  if d.consecutiveInvalidSamples ≥ d.options.invalidSamplesBeforeFault then d.fail else d

def exceedsNormalFaultLimit (d : PtpClockDiscipline) (m : PtpOffsetMeasurement) : Bool :=
  magnitude m.offsetFromMasterNs > d.options.faultOffsetThresholdNs.toUInt64

def boundedLargeAcquisition (d : PtpClockDiscipline) (m : PtpOffsetMeasurement) : Bool :=
  (d.status.state = .unlocked || d.status.state = .acquiring) &&
    !d.lockAchievedSinceReset && !d.largeAcquisitionPhaseStepUsed &&
    d.exceedsNormalFaultLimit m &&
    magnitude m.offsetFromMasterNs ≤ d.options.maximumAcquisitionPhaseStepNs.toUInt64

/-- The jitter of the path delay. -/
def jitter (d : PtpClockDiscipline) (f : PtpFloatValues) : Int64 :=
  if d.pathDelayFiltered then if f.difference < 0 then 0 else f.difference else 0

/-- What every qualified measurement changes. -/
def accept (d : PtpClockDiscipline) (m : PtpOffsetMeasurement) (now : Int) (jitterNs : Int64) :
    PtpClockDiscipline :=
  let fresh := d.status.state = .unlocked ∨ d.status.state = .holdover
  let state := if fresh then .acquiring else d.status.state
  { d with
    consecutiveInvalidSamples := 0
    lastAcceptedSampleTime := some now
    pathDelayFiltered := true
    status := { d.status with
      state
      offsetFromMasterNs := some m.offsetFromMasterNs
      meanPathDelayNs := some m.meanPathDelayNs
      pathDelayJitterNs := some jitterNs
      acceptedSamples := d.status.acceptedSamples + 1
      globallyTraceable := m.globallyTraceable
      consecutiveQualifiedSamples := if fresh then 0 else d.status.consecutiveQualifiedSamples
      consecutiveBadSamples := if state ≠ .locked then 0 else d.status.consecutiveBadSamples } }

def frequencyCommand (d : PtpClockDiscipline) (f : PtpFloatValues) :
    PtpClockCommand × PtpClockDiscipline :=
  let maximum := d.options.maximumFrequencyAdjustmentPpb.toInt64
  let bounded := (clamp f.rounded (-maximum) maximum).toInt32
  ({ kind := .setFrequency, frequencyAdjustmentPpb := bounded },
    { d with
      status.frequencyAdjustmentPpb := bounded
      status.frequencyUpdates := d.status.frequencyUpdates + 1 })

/-- The phase step of an acquisition. `large` is the bounded large acquisition. -/
def stepPhase (d : PtpClockDiscipline) (m : PtpOffsetMeasurement) (large : Bool) :
    PtpClockCommand × PtpClockDiscipline :=
  match checkedSubtract 0 m.offsetFromMasterNs with
  | none => ({}, d.rejectSample.fail)
  | some phaseStepNs =>
    ({ kind := .stepPhase, phaseStepNs, frequencyAdjustmentPpb := d.status.frequencyAdjustmentPpb },
      { d with
        largeAcquisitionPhaseStepUsed := large || d.largeAcquisitionPhaseStepUsed
        status.state := .acquiring
        status.consecutiveQualifiedSamples := 0
        status.phaseSteps := d.status.phaseSteps + 1 })

/-- The hysteresis of LOCKED. -/
def judge (d : PtpClockDiscipline) (m : PtpOffsetMeasurement) : PtpClockDiscipline :=
  let offsetMagnitude := magnitude m.offsetFromMasterNs
  let lockQualified := offsetMagnitude ≤ d.options.lockOffsetThresholdNs.toUInt64
  if d.status.state = .locked then
    if offsetMagnitude > d.options.unlockOffsetThresholdNs.toUInt64 then
      let d := { d with
        status.consecutiveBadSamples := d.status.consecutiveBadSamples + 1
        status.consecutiveQualifiedSamples := 0 }
      if d.status.consecutiveBadSamples ≥ d.options.unlockRequiredSamples then
        { d with status.state := .acquiring, status.globallyTraceable := false }
      else d
    else
      { d with
        status.consecutiveBadSamples := 0
        status.consecutiveQualifiedSamples :=
          if lockQualified then d.status.consecutiveQualifiedSamples + 1
          else d.status.consecutiveQualifiedSamples }
  else if lockQualified then
    let d := { d with
      status.consecutiveQualifiedSamples := d.status.consecutiveQualifiedSamples + 1 }
    if d.status.consecutiveQualifiedSamples ≥ d.options.lockRequiredSamples then
      { d with
        status.state := .locked
        status.consecutiveBadSamples := 0
        lockAchievedSinceReset := true }
    else d
  else { d with status.consecutiveQualifiedSamples := 0 }

def observe (d : PtpClockDiscipline) (m : PtpOffsetMeasurement) (now : Int) (f : PtpFloatValues) :
    PtpClockCommand × PtpClockDiscipline :=
  if d.status.state = .fault then ({}, d)
  else
    let large := d.boundedLargeAcquisition m
    if m.meanPathDelayNs < 0 ∨ m.meanPathDelayNs > d.options.maximumPathDelayNs ∨
        (d.exceedsNormalFaultLimit m && !large) then
      ({}, if d.exceedsNormalFaultLimit m then d.rejectSample.fail else d.rejectSample)
    else
      let jitterNs := d.jitter f
      if jitterNs > d.options.maximumPathDelayJitterNs then ({}, d.rejectSample)
      else
        let d := d.accept m now jitterNs
        if !d.lockAchievedSinceReset && d.status.state ≠ .locked &&
            magnitude m.offsetFromMasterNs > d.options.phaseStepThresholdNs.toUInt64 then
          d.stepPhase m large
        else
          let (command, d) := d.frequencyCommand f
          (command, d.judge m)

def tick (d : PtpClockDiscipline) (now : Int) : PtpClockDiscipline :=
  match d.lastAcceptedSampleTime with
  | none => d
  | some last =>
    if d.status.state = .fault ∨ now ≤ last then d
    else
      let age := (now - last) / millisecond
      let d := if d.status.state = .locked ∧ age > d.options.syncTimeout then
          { d with
            status.state := .holdover
            status.globallyTraceable := false
            status.consecutiveQualifiedSamples := 0
            status.consecutiveBadSamples := 0 }
        else d
      let d := if d.status.state = .holdover ∧
            age > d.options.syncTimeout + d.options.holdoverTimeout then
          { d with
            status.state := .unlocked
            status.globallyTraceable := false
            status.consecutiveBadSamples := 0 }
        else d
      if d.status.state = .acquiring ∧ age > d.options.syncTimeout then
        { d with
          status.state := .unlocked
          status.globallyTraceable := false
          status.consecutiveQualifiedSamples := 0
          status.consecutiveBadSamples := 0 }
      else d

def recordActuationFailure (d : PtpClockDiscipline) : PtpClockDiscipline :=
  { d with
    status.state := .fault
    status.globallyTraceable := false
    status.rejectedSamples := d.status.rejectedSamples + 1
    status.consecutiveQualifiedSamples := 0
    status.consecutiveBadSamples := 0 }

def revokeGlobalTraceability (d : PtpClockDiscipline) : PtpClockDiscipline :=
  { d with status.globallyTraceable := false }

def measuredSmpSynch (d : PtpClockDiscipline) : Option SmpSynchValue :=
  if d.status.state = .locked then
    some (if d.status.globallyTraceable then .globalSynchronized else .localSynchronized)
  else if d.status.state = .holdover then some .localSynchronized
  else none

end PtpClockDiscipline

/-- A call between two resets. -/
inductive PtpDisciplineCall where
  | observe (measurement : PtpOffsetMeasurement) (now : Int) (floats : PtpFloatValues)
  | tick (now : Int)
  | recordActuationFailure
  | revokeGlobalTraceability
  deriving DecidableEq

namespace PtpClockDiscipline

/-- A call and its answer. -/
def step (d : PtpClockDiscipline) : PtpDisciplineCall → PtpClockCommand × PtpClockDiscipline
  | .observe measurement now floats => d.observe measurement now floats
  | .tick now => ({}, d.tick now)
  | .recordActuationFailure => ({}, d.recordActuationFailure)
  | .revokeGlobalTraceability => ({}, d.revokeGlobalTraceability)

end PtpClockDiscipline

end ArStack.TimeSync
