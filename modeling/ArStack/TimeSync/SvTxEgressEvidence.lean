import Mathlib.Data.Int.Basic

/-!
# Evidence of the transmission

The MAC gives some of the frames with the sample number 0 a hardware PTP time. `SvTxEgressEvidence`
compares each of these times with the one before, and `SvLocalSyncEvidenceGate` asks for two
measured pairs in a row before the samples may be called synchronized.

* `SvTxEgressEvidence.record`
* `SvLocalSyncEvidenceGate.observe`, `qualified`, `qualifiedSourceFast`
-/

namespace ArStack.TimeSync

def kSvTxEvidenceEpochStride : UInt32 := 2

structure SvTxEgressObservation where
  smpCnt : UInt16 := 0
  sampleEpochGeneration : UInt32 := 0
  publisherSessionGeneration : UInt32 := 0
  publisherFaultGeneration : UInt32 := 0
  ptpSourceGeneration : UInt32 := 0
  scheduledAlarmTicksLow32 : UInt32 := 0
  hwPtpSeconds : UInt32 := 0
  hwPtpNanoseconds : UInt32 := 0
  submitDurationUs : UInt32 := 0
  canonicalTxSuccess : Bool := false
  noMissedSlots : Bool := false
  sameSampleEpoch : Bool := false
  deriving DecidableEq

inductive SvTxEvidenceResult where
  | measured
  | baselineEstablished
  | notAQualifiedEpoch
  | transmitFailed
  | missingHwTimestamp
  | publisherDiscontinuity
  | ptpClockDiscontinuity
  deriving DecidableEq

structure SvTxEgressSummary where
  attempted : UInt32 := 0
  baselineEstablished : UInt32 := 0
  measured : UInt32 := 0
  rejectedEpoch : UInt32 := 0
  failedTransmit : UInt32 := 0
  missingHwTimestamp : UInt32 := 0
  publisherDiscontinuities : UInt32 := 0
  ptpClockDiscontinuities : UInt32 := 0
  ptpSourceChanges : UInt32 := 0
  minPhaseNs : Int := 2147483647
  maxPhaseNs : Int := -2147483648
  phaseSumNs : Int := 0
  maxSubmitDurationUs : UInt32 := 0
  lastPtpSeconds : UInt32 := 0
  lastAlarmTicksLow32 : UInt32 := 0
  lastEpochGeneration : UInt32 := 0
  lastPhaseNs : Int := 0
  deriving DecidableEq

namespace SvTxEgressObservation

variable (o : SvTxEgressObservation)

/-- The PTP second that is nearest to the hardware time. -/
def nearestPtpSecond : UInt64 :=
  o.hwPtpSeconds.toUInt64 + if o.hwPtpNanoseconds ≥ 500000000 then 1 else 0

/-- How far the hardware time is from that second. -/
def phaseNs : Int :=
  if o.hwPtpNanoseconds < 500000000 then o.hwPtpNanoseconds.toNat
  else (o.hwPtpNanoseconds.toNat : Int) - 1000000000

end SvTxEgressObservation

structure SvTxEgressEvidence where
  expectedStride : UInt32 := kSvTxEvidenceEpochStride
  haveBaseline : Bool := false
  previousNearestPtpSecond : UInt64 := 0
  previousEpochGeneration : UInt32 := 0
  previousSession : UInt32 := 0
  previousFaultGeneration : UInt32 := 0
  previousPtpSourceGeneration : UInt32 := 0
  summary : SvTxEgressSummary := {}
  deriving DecidableEq

namespace SvTxEgressEvidence

section

variable (evidence : SvTxEgressEvidence)

def invalidateBaseline : SvTxEgressEvidence :=
  { expectedStride := evidence.expectedStride, summary := evidence.summary }

def reset : SvTxEgressEvidence := { evidence.invalidateBaseline with summary := {} }

def remember (o : SvTxEgressObservation) : SvTxEgressEvidence :=
  { evidence with
    haveBaseline := true
    previousNearestPtpSecond := o.nearestPtpSecond
    previousEpochGeneration := o.sampleEpochGeneration
    previousSession := o.publisherSessionGeneration
    previousFaultGeneration := o.publisherFaultGeneration
    previousPtpSourceGeneration := o.ptpSourceGeneration }

def record (o : SvTxEgressObservation) : SvTxEvidenceResult × SvTxEgressEvidence :=
  let summary : SvTxEgressSummary :=
    { evidence.summary with
      attempted := evidence.summary.attempted + 1
      maxSubmitDurationUs := max evidence.summary.maxSubmitDurationUs o.submitDurationUs }
  if !o.canonicalTxSuccess then
    (.transmitFailed,
      { evidence.invalidateBaseline with
        summary := { summary with failedTransmit := summary.failedTransmit + 1 } })
  else if o.smpCnt ≠ 0 ∨ o.sampleEpochGeneration = 0 ∨ o.publisherSessionGeneration = 0 ∨
      o.ptpSourceGeneration = 0 ∨ !o.noMissedSlots ∨ !o.sameSampleEpoch ∨
      evidence.expectedStride = 0 then
    (.notAQualifiedEpoch,
      { evidence.invalidateBaseline with
        summary := { summary with rejectedEpoch := summary.rejectedEpoch + 1 } })
  else if o.hwPtpSeconds = 0 ∨ o.hwPtpNanoseconds ≥ 1000000000 then
    (.missingHwTimestamp,
      { evidence.invalidateBaseline with
        summary := { summary with missingHwTimestamp := summary.missingHwTimestamp + 1 } })
  else
    let established : SvTxEgressSummary :=
      { summary with baselineEstablished := summary.baselineEstablished + 1 }
    if !evidence.haveBaseline then
      (.baselineEstablished, { evidence.remember o with summary := established })
    else if ¬(o.publisherSessionGeneration = evidence.previousSession ∧
        o.publisherFaultGeneration = evidence.previousFaultGeneration ∧
        o.sampleEpochGeneration - evidence.previousEpochGeneration =
          evidence.expectedStride) then
      (.publisherDiscontinuity,
        { evidence.remember o with
          summary :=
            { established with
              publisherDiscontinuities := established.publisherDiscontinuities + 1 } })
    else if o.ptpSourceGeneration ≠ evidence.previousPtpSourceGeneration then
      (.ptpClockDiscontinuity,
        { evidence.remember o with
          summary := { established with ptpSourceChanges := established.ptpSourceChanges + 1 } })
    else if o.nearestPtpSecond ≤ evidence.previousNearestPtpSecond ∨
        o.nearestPtpSecond - evidence.previousNearestPtpSecond ≠
          evidence.expectedStride.toUInt64 then
      (.ptpClockDiscontinuity,
        { evidence.remember o with
          summary :=
            { established with
              ptpClockDiscontinuities := established.ptpClockDiscontinuities + 1 } })
    else
      (.measured,
        { evidence.remember o with
          summary :=
            { summary with
              measured := summary.measured + 1
              minPhaseNs := min summary.minPhaseNs o.phaseNs
              maxPhaseNs := max summary.maxPhaseNs o.phaseNs
              phaseSumNs := summary.phaseSumNs + o.phaseNs
              lastPtpSeconds := o.hwPtpSeconds
              lastAlarmTicksLow32 := o.scheduledAlarmTicksLow32
              lastEpochGeneration := o.sampleEpochGeneration
              lastPhaseNs := o.phaseNs } })

end

end SvTxEgressEvidence

/-! ## The gate -/

structure SvLocalSyncEvidenceGate where
  matchedPairs : UInt32 := 0
  session : UInt32 := 0
  faultGeneration : UInt32 := 0
  sourceGeneration : UInt32 := 0
  lastEpoch : UInt32 := 0
  deriving DecidableEq

namespace SvLocalSyncEvidenceGate

def kMinCanonicalTxOffsetNs : Int := -4000

def kMaxCanonicalTxOffsetNs : Int := 250000

def kMaxSoftwarePhaseBoundUs : UInt32 := 4

def kMaxSourceSoftwarePhaseBoundUs : UInt32 := 12

def kEvidenceStride : UInt32 := kSvTxEvidenceEpochStride

def kMaxEvidenceAgeEpochs : UInt32 := kEvidenceStride + 1

def kRequiredMeasuredPairs : UInt32 := 2

def kSourceRequiredMeasuredPairs : UInt32 := 1

def reset : SvLocalSyncEvidenceGate := {}

section

variable (gate : SvLocalSyncEvidenceGate)

def observe (o : SvTxEgressObservation) (result : SvTxEvidenceResult) (phaseNs : Int) :
    SvLocalSyncEvidenceGate :=
  if result ≠ .measured ∨ !o.canonicalTxSuccess ∨ !o.noMissedSlots ∨ !o.sameSampleEpoch ∨
      phaseNs > kMaxCanonicalTxOffsetNs ∨ phaseNs < kMinCanonicalTxOffsetNs then reset
  else
    let gate :=
      if gate.matchedPairs ≠ 0 ∧
          (gate.session ≠ o.publisherSessionGeneration ∨
            gate.faultGeneration ≠ o.publisherFaultGeneration ∨
            gate.sourceGeneration ≠ o.ptpSourceGeneration ∨
            o.sampleEpochGeneration - gate.lastEpoch ≠ kEvidenceStride) then reset
      else gate
    { matchedPairs :=
        if gate.matchedPairs < kRequiredMeasuredPairs then gate.matchedPairs + 1
        else gate.matchedPairs
      session := o.publisherSessionGeneration
      faultGeneration := o.publisherFaultGeneration
      sourceGeneration := o.ptpSourceGeneration
      lastEpoch := o.sampleEpochGeneration }

/-- What both ways to qualify ask for. -/
def current (session faultGeneration sourceGeneration currentEpoch : UInt32) : Bool :=
  decide (session ≠ 0 ∧ sourceGeneration ≠ 0 ∧ session = gate.session ∧
    faultGeneration = gate.faultGeneration ∧ sourceGeneration = gate.sourceGeneration ∧
    currentEpoch ≥ gate.lastEpoch ∧ currentEpoch - gate.lastEpoch ≤ kMaxEvidenceAgeEpochs)

def qualifiedSourceFast (session faultGeneration sourceGeneration currentEpoch : UInt32)
    (softwareTracking : Bool) (softwarePhaseBoundUs : UInt32) : Bool :=
  decide (gate.matchedPairs ≥ kSourceRequiredMeasuredPairs) && softwareTracking &&
    decide (softwarePhaseBoundUs ≤ kMaxSourceSoftwarePhaseBoundUs) &&
    gate.current session faultGeneration sourceGeneration currentEpoch

def qualified (session faultGeneration sourceGeneration currentEpoch : UInt32)
    (softwareTracking : Bool) (softwarePhaseBoundUs : UInt32) : Bool :=
  decide (gate.matchedPairs ≥ kRequiredMeasuredPairs) && softwareTracking &&
    decide (softwarePhaseBoundUs ≤ kMaxSoftwarePhaseBoundUs) &&
    gate.current session faultGeneration sourceGeneration currentEpoch

end

end SvLocalSyncEvidenceGate

end ArStack.TimeSync
