import Mathlib.Data.UInt

/-!
# The first sample

The first sample of a publisher is armed for a whole PTP second: `planSvPtpSecondArm` finds the time
up to it from a PTP time read between two readings of a monotonic clock, and
`rebaseSvPtpSecondArm` starts from the time at which the timer is prepared.
-/

namespace ArStack.TimeSync

structure SvPtpClockObservation where
  ptpNanoseconds : UInt32 := 0
  monotonicBeforeUs : UInt64 := 0
  monotonicAfterUs : UInt64 := 0
  deriving DecidableEq

structure SvSecondBoundaryArm where
  firstAlarmUs : UInt32 := 0
  clockReadUncertaintyUs : UInt32 := 0
  deriving DecidableEq

def planSvPtpSecondArm (o : SvPtpClockObservation) (minimumLeadUs : UInt32 := 20000)
    (maximumReadSpanUs : UInt32 := 1000) : Option SvSecondBoundaryArm :=
  if o.ptpNanoseconds.toUInt64 ≥ 1000000000 ∨ o.monotonicAfterUs < o.monotonicBeforeUs ∨
      minimumLeadUs = 0 ∨ minimumLeadUs.toUInt64 > 1000000 then none
  else
    let readSpanUs := o.monotonicAfterUs - o.monotonicBeforeUs
    if readSpanUs > maximumReadSpanUs.toUInt64 then none
    else
      let estimatedPtpNs :=
        (o.ptpNanoseconds.toUInt64 + (readSpanUs + 1) / 2 * 1000) % 1000000000
      let uncertaintyUs := (readSpanUs + 1) / 2
      let untilNextUs := (1000000000 - estimatedPtpNs + 999) / 1000
      let firstUs :=
        if untilNextUs < minimumLeadUs.toUInt64 then untilNextUs + 1000000 else untilNextUs
      if firstUs = 0 ∨ firstUs > 2 * 1000000 then none
      else
        some
          { firstAlarmUs := firstUs.toUInt32
            clockReadUncertaintyUs := uncertaintyUs.toUInt32 }

def rebaseSvPtpSecondArm (planned : SvSecondBoundaryArm)
    (clockReadAfterUs timerStartPreparationUs : UInt64) (minimumStartLeadUs : UInt32 := 20000)
    (maximumRebaseAgeUs : UInt32 := 100000) : Option SvSecondBoundaryArm :=
  if timerStartPreparationUs < clockReadAfterUs ∨ minimumStartLeadUs = 0 ∨
      minimumStartLeadUs.toUInt64 > 1000000 ∨ planned.firstAlarmUs = 0 ∨
      planned.firstAlarmUs.toUInt64 > 2 * 1000000 then none
  else
    let age := timerStartPreparationUs - clockReadAfterUs
    if age > maximumRebaseAgeUs.toUInt64 then none
    else
      let untilEpoch :=
        if planned.firstAlarmUs.toUInt64 ≤ age + minimumStartLeadUs.toUInt64 then
          planned.firstAlarmUs.toUInt64 + 1000000
        else planned.firstAlarmUs.toUInt64
      if untilEpoch ≤ age then none
      else
        let remaining := untilEpoch - age
        if remaining < minimumStartLeadUs.toUInt64 ∨ remaining > 2 * 1000000 then none
        else
          some
            { firstAlarmUs := remaining.toUInt32
              clockReadUncertaintyUs := planned.clockReadUncertaintyUs }

end ArStack.TimeSync
