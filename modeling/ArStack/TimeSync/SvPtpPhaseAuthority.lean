import Mathlib.Data.Int.Basic

/-!
# The phase of the samples

`SvPtpPhaseAuthority` relates the timer that paces the samples to the PTP clock: from a PTP time
read between two readings of the timer it finds how far the last sample with the number 0 was from
the PTP second. `SvBoundedSlewCursor` spreads a correction over the intervals of a second.

* `SvPtpPhaseAuthority.observe`, `reset`, `invalidate`
* `SvBoundedSlewCursor.arm`, `nextAdjustment`

Signed numbers are integers, as the source leaves their overflow undefined.
-/

namespace ArStack.TimeSync

structure SvPtpPhaseObservation where
  timerBeforeTicks : UInt32 := 0
  timerAfterTicks : UInt32 := 0
  lastSvEpochTicks : UInt32 := 0
  lastSvEpochGeneration : UInt32 := 0
  ptpSeconds : UInt64 := 0
  ptpNanoseconds : UInt32 := 0
  deriving DecidableEq

inductive SvPtpPhaseState where
  | acquiring
  | tracking
  | invalid
  deriving DecidableEq

structure SvPtpPhaseDecision where
  state : SvPtpPhaseState := .acquiring
  accepted : Bool := false
  clockDiscontinuity : Bool := false
  phaseErrorUs : Int := 0
  observationUncertaintyUs : UInt32 := 0
  slewTicksNextEpoch : Int := 0
  softwareTracking : Bool := false
  epochSecondContinuous : Bool := false
  svEpochPtpSecond : UInt64 := 0
  deriving DecidableEq

structure SvPtpPhasePolicy where
  maximumClockReadSpanUs : UInt32 := 500
  maximumClockRateErrorUs : UInt32 := 400
  maximumObservationSpacingUs : UInt32 := 1500000
  maximumPhaseErrorUs : Int := 20000
  maximumSlewPerSecondUs : Int := 400
  integralLimitUs : Int := 250
  phaseDeadbandUs : Int := 2
  softwareTrackingThresholdUs : Int := 60
  consecutiveTrackingSamples : UInt32 := 4
  deriving DecidableEq

/-- `std::clampInt`. -/
def clampInt (value low high : Int) : Int :=
  if value < low then low else if high < value then high else value

/-! ## The phase -/

/-- `signed_delta_u32`. -/
def signedDeltaU32 (newer older : UInt32) : Int :=
  let delta := newer - older
  if delta ≤ 2147483647 then delta.toNat else (delta.toNat : Int) - 4294967296

/-- What an observation shows of the last sample with the number 0. -/
structure SvPtpPhaseReading where
  midpoint : UInt32
  svEpochSecond : UInt64
  phase : Int
  uncertainty : UInt32
  deriving DecidableEq

/-- The second of the epoch, if it is the second of the reading or one next to it. -/
def epochSecond (shift : Int) (ptpSeconds : UInt64) : Option UInt64 :=
  if shift < -1 ∨ shift > 1 ∨ (shift < 0 ∧ ptpSeconds = 0) ∨
      (shift > 0 ∧ ptpSeconds = 18446744073709551615) then none
  else if shift < 0 then some (ptpSeconds - 1)
  else some (ptpSeconds + .ofNat shift.toNat)

/-- The part of `observe` that looks at the observation alone. -/
def readPhase (policy : SvPtpPhasePolicy) (o : SvPtpPhaseObservation) :
    Option SvPtpPhaseReading :=
  if o.ptpSeconds = 0 ∨ o.ptpNanoseconds ≥ 1000000000 ∨ o.lastSvEpochGeneration = 0 then none
  else
    let span := o.timerAfterTicks - o.timerBeforeTicks
    if span > policy.maximumClockReadSpanUs then none
    else
      let midpoint := o.timerBeforeTicks + span / 2
      let epochAge := midpoint - o.lastSvEpochTicks
      if epochAge > 1100000 then none
      else
        let rawPhase := signedDeltaU32 o.lastSvEpochTicks midpoint +
          ((o.ptpNanoseconds / 1000).toNat : Int)
        -- the division of the source rounds towards zero
        let shift :=
          if rawPhase ≥ 0 then (rawPhase + 500000).tdiv 1000000
          else (rawPhase - 500000).tdiv 1000000
        match epochSecond shift o.ptpSeconds with
        | none => none
        | some svEpochSecond =>
          let phase := rawPhase - shift * 1000000
          if (phase.natAbs : Int) > policy.maximumPhaseErrorUs then none
          else
            some { midpoint, svEpochSecond, phase, uncertainty := (span + 1) / 2 + 1 }

structure SvPtpPhaseAuthority where
  policy : SvPtpPhasePolicy := {}
  havePrevious : Bool := false
  previousMidpoint : UInt32 := 0
  previousPtpNanoseconds : UInt32 := 0
  previousEpochGeneration : UInt32 := 0
  previousPtpSeconds : UInt64 := 0
  previousSvEpochPtpSecond : UInt64 := 0
  integralUs : Int := 0
  trackingSamples : UInt32 := 0
  state : SvPtpPhaseState := .acquiring
  deriving DecidableEq

namespace SvPtpPhaseAuthority

section

variable (authority : SvPtpPhaseAuthority)

def reset : SvPtpPhaseAuthority :=
  { authority with
    havePrevious := false
    previousSvEpochPtpSecond := 0
    integralUs := 0
    trackingSamples := 0
    state := .acquiring }

def invalidate : SvPtpPhaseDecision × SvPtpPhaseAuthority :=
  ({ state := .invalid, clockDiscontinuity := true }, { authority.reset with state := .invalid })

/-- What `observe` asks of an observation that follows another one. -/
def follows (o : SvPtpPhaseObservation) (reading : SvPtpPhaseReading) : Bool :=
  if o.lastSvEpochGeneration - authority.previousEpochGeneration ≠ 1 ∨
      reading.svEpochSecond ≤ authority.previousSvEpochPtpSecond ∨
      reading.svEpochSecond - authority.previousSvEpochPtpSecond ≠ 1 ∨
      o.ptpSeconds < authority.previousPtpSeconds ∨
      o.ptpSeconds - authority.previousPtpSeconds > 2 then false
  else
    let ptpNs : Int := ((o.ptpSeconds - authority.previousPtpSeconds).toNat : Int) * 1000000000 +
      (o.ptpNanoseconds.toNat : Int) - (authority.previousPtpNanoseconds.toNat : Int)
    if ptpNs ≤ 0 ∨
        ptpNs > (authority.policy.maximumObservationSpacingUs.toNat : Int) * 1000 then false
    else
      let timerDelta := reading.midpoint - authority.previousMidpoint
      let ptpElapsedUs := (ptpNs + 500).tdiv 1000
      !decide (((timerDelta.toNat : Int) - ptpElapsedUs).natAbs >
        authority.policy.maximumClockRateErrorUs.toNat)

/-- The samples within the threshold, one after the other. -/
def countTracking (reading : SvPtpPhaseReading) : UInt32 :=
  if (reading.phase.natAbs : Int) + (reading.uncertainty.toNat : Int) ≤
      authority.policy.softwareTrackingThresholdUs then
    if authority.trackingSamples < authority.policy.consecutiveTrackingSamples then
      authority.trackingSamples + 1
    else authority.trackingSamples
  else 0

/-- An observation that is accepted. -/
def accept (o : SvPtpPhaseObservation) (reading : SvPtpPhaseReading) :
    SvPtpPhaseDecision × SvPtpPhaseAuthority :=
  let trackingSamples := authority.countTracking reading
  let state : SvPtpPhaseState :=
    if trackingSamples ≥ authority.policy.consecutiveTrackingSamples then .tracking
    else .acquiring
  let next : SvPtpPhaseAuthority :=
    { authority with
      havePrevious := true
      previousMidpoint := reading.midpoint
      previousPtpSeconds := o.ptpSeconds
      previousPtpNanoseconds := o.ptpNanoseconds
      previousEpochGeneration := o.lastSvEpochGeneration
      previousSvEpochPtpSecond := reading.svEpochSecond
      trackingSamples
      state }
  let decision : SvPtpPhaseDecision :=
    { state
      accepted := true
      phaseErrorUs := reading.phase
      observationUncertaintyUs := reading.uncertainty
      svEpochPtpSecond := reading.svEpochSecond }
  if !authority.havePrevious then (decision, next)
  else
    let input :=
      if (reading.phase.natAbs : Int) ≤ authority.policy.phaseDeadbandUs then 0 else reading.phase
    let integralUs := clampInt (authority.integralUs + input.tdiv 4)
      (-authority.policy.integralLimitUs) authority.policy.integralLimitUs
    let requested := clampInt (-input - integralUs) (-authority.policy.maximumSlewPerSecondUs)
      authority.policy.maximumSlewPerSecondUs
    ({ decision with
        slewTicksNextEpoch := requested
        softwareTracking := state == .tracking
        epochSecondContinuous := true },
      { next with integralUs })

def observe (o : SvPtpPhaseObservation) : SvPtpPhaseDecision × SvPtpPhaseAuthority :=
  match readPhase authority.policy o with
  | none => authority.invalidate
  | some reading =>
    if authority.havePrevious && !authority.follows o reading then authority.invalidate
    else authority.accept o reading

end

end SvPtpPhaseAuthority

/-! ## The slew cursor -/

structure SvBoundedSlewCursor where
  rate : UInt32 := 0
  accumulator : UInt32 := 0
  correction : Int := 0
  applied : Int := 0
  deriving DecidableEq

namespace SvBoundedSlewCursor

/-- The correction that is armed. -/
def boundedCorrection (intervalsPerSecond : UInt32) (requestedTicks : Int) : Int :=
  let maxTicks : Int := (min intervalsPerSecond 400).toNat
  clampInt requestedTicks (-maxTicks) maxTicks

def arm (intervalsPerSecond : UInt32) (requestedTicks : Int) : SvBoundedSlewCursor :=
  { rate := intervalsPerSecond
    correction :=
      if intervalsPerSecond = 0 then 0 else boundedCorrection intervalsPerSecond requestedTicks }

def nextAdjustment (cursor : SvBoundedSlewCursor) : Int × SvBoundedSlewCursor :=
  if cursor.rate = 0 ∨ cursor.correction = 0 then (0, cursor)
  else
    let amount := UInt32.ofNat cursor.correction.natAbs
    -- the accumulator has 32 bits, and wraps
    let accumulator := cursor.accumulator + amount
    if accumulator ≥ cursor.rate then
      let adjustment : Int := if cursor.correction < 0 then -1 else 1
      (adjustment,
        { cursor with
          accumulator := accumulator - cursor.rate, applied := cursor.applied + adjustment })
    else (0, { cursor with accumulator })

/-- The next `n` adjustments, and the cursor after them. -/
def adjustments : Nat → SvBoundedSlewCursor → List Int × SvBoundedSlewCursor
  | 0, cursor => ([], cursor)
  | n + 1, cursor =>
    let before := adjustments n cursor
    let next := before.2.nextAdjustment
    (before.1 ++ [next.1], next.2)

end SvBoundedSlewCursor

end ArStack.TimeSync
