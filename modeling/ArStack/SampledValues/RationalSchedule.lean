import Mathlib.Data.List.Basic

/-!
# The tick schedule

`RationalTickSchedule` gives the intervals between the events of a timer, in whole ticks, so that
they follow a rate that does not divide the timer frequency.

* `RationalTickSchedule.make`, `nextIntervalTicks`
* `intervals`
-/

namespace ArStack.SampledValues

structure RationalTickSchedule where
  timerFrequencyHz : UInt64 := 0
  eventRateHz : UInt32 := 0
  baseIntervalTicks : UInt64 := 0
  remainderTicksNumerator : UInt32 := 0
  remainderAccumulator : UInt32 := 0
  deriving DecidableEq

namespace RationalTickSchedule

/-- The constructor. -/
def make (timerFrequencyHz : UInt64) (eventRateHz : UInt32) :
    Except String RationalTickSchedule :=
  if timerFrequencyHz = 0 ∨ eventRateHz = 0 then
    .error "Timer frequency and event rate must both be non-zero."
  else if timerFrequencyHz < eventRateHz.toUInt64 then
    .error "Timer frequency must be at least as high as the event rate."
  else
    .ok
      { timerFrequencyHz
        eventRateHz
        baseIntervalTicks := timerFrequencyHz / eventRateHz.toUInt64
        remainderTicksNumerator := (timerFrequencyHz % eventRateHz.toUInt64).toUInt32 }

def nextIntervalTicks (schedule : RationalTickSchedule) : UInt64 × RationalTickSchedule :=
  let accumulated := schedule.remainderAccumulator.toUInt64 +
    schedule.remainderTicksNumerator.toUInt64
  if accumulated ≥ schedule.eventRateHz.toUInt64 then
    (schedule.baseIntervalTicks + 1,
      { schedule with
        remainderAccumulator := (accumulated - schedule.eventRateHz.toUInt64).toUInt32 })
  else
    (schedule.baseIntervalTicks, { schedule with remainderAccumulator := accumulated.toUInt32 })

/-- The next `n` intervals, and the schedule after them. -/
def intervals : Nat → RationalTickSchedule → List UInt64 × RationalTickSchedule
  | 0, schedule => ([], schedule)
  | n + 1, schedule =>
    let before := intervals n schedule
    let next := before.2.nextIntervalTicks
    (before.1 ++ [next.1], next.2)

end RationalTickSchedule

end ArStack.SampledValues
