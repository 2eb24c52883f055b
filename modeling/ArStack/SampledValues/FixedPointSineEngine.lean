import ArStack.SampledValues.LiveSignalState
import ArStack.SampledValues.SineQuarterLut

/-!
# The fixed-point sine engine

The engine keeps one phase accumulator and computes the sample rows from it. A signed 64-bit
operation of the source has no result when it overflows; unsigned arithmetic wraps.

* `checkedI64`
* `SvFixedPointSineEngine.phaseStepFor`, `SvFixedPointSineEngine.phaseFromMillidegrees`
* `SvFixedPointSineEngine.advance`, `SvFixedPointSineEngine.next`
-/

namespace ArStack.SampledValues

/-- A signed 64-bit result. -/
def checkedI64 (x : Int) : Option Int :=
  if -9223372036854775808 ≤ x ∧ x ≤ 9223372036854775807 then some x else none

/-- 2³⁰ -/
def q30 : Int := 1073741824

structure SvFixedPointSineEngine where
  phaseAccumulator : UInt32 := 0
  deriving DecidableEq

/-- One value for each channel. -/
abbrev SampleRow := Vector Int32 kLiveSignalChannelCount

namespace SvFixedPointSineEngine

def phaseStepFor (frequencyMillihz publisherRateHz : UInt32) : UInt32 :=
  if publisherRateHz = 0 then 0
  else
    let denominator := publisherRateHz.toUInt64 * 1000
    let numerator := 0x100000000 * frequencyMillihz.toUInt64
    ((numerator + denominator / 2) / denominator).toUInt32

/-- The angle in a whole turn. -/
def normalizeMillidegrees (millidegrees : Int32) : Int :=
  let normalized := millidegrees.toInt.tmod 360000
  if normalized < 0 then normalized + 360000 else normalized

def phaseFromMillidegrees (millidegrees : Int32) : UInt32 :=
  (UInt64.ofNat (normalizeMillidegrees millidegrees).toNat * 0x100000000 / 360000).toUInt32

def advance (engine : SvFixedPointSineEngine) (state : SvLiveSignalState)
    (publisherRateHz slots : UInt32) : SvFixedPointSineEngine :=
  let delta := (phaseStepFor state.frequencyMillihz publisherRateHz).toUInt64 * slots.toUInt64
  { phaseAccumulator := engine.phaseAccumulator + delta.toUInt32 }

def rmsToPeakCounts (rms : Int32) : Option Int := do
  let product ← checkedI64 (rms.toInt * 1518500250)
  return product >>> (30 : Nat)

def scaleQ30 (value factorQ30 : Int) : Option Int := do
  let whole := factorQ30.tdiv q30
  let remainder := factorQ30.tmod q30
  let high ← checkedI64 (value * whole)
  let low ← checkedI64 (value * remainder)
  checkedI64 (high + low.tdiv q30)

def clampI32 (value : Int) : Int32 :=
  if value > 2147483647 then Int32.maxValue
  else if value < -2147483648 then Int32.minValue
  else Int32.ofInt value

/-- The sine at a phase, whose first twelve bits count. -/
def sineAt (phase : UInt32) : Int := sineQ30FromIndex (phase >>> 20).toNat

/-- The harmonic, the DC offset and the clipping of a current. -/
def shapeSine (shape : SvCurrentWaveformShape) (phase : UInt32) (sineQ30 : Int) : Option Int := do
  let harmonicQ30 := sineAt (phase * shape.harmonicOrder.toUInt32)
  let harmonic ← checkedI64 (harmonicQ30 * shape.harmonicPermille.toNat)
  let sineQ30 ← checkedI64 (sineQ30 + harmonic.tdiv 1000)
  let offset ← checkedI64 (q30 * shape.dcOffsetPermille.toInt)
  let sineQ30 ← checkedI64 (sineQ30 + offset.tdiv 1000)
  let clip ← checkedI64 (q30 * shape.clipPermille.toNat)
  let clipQ30 := clip.tdiv 1000
  let negated ← checkedI64 (-clipQ30)
  return if sineQ30 < negated then negated else if clipQ30 < sineQ30 then clipQ30 else sineQ30

/-- The value of one channel. -/
def channelValue (state : SvLiveSignalState) (basePhase : UInt32)
    (index : Fin kLiveSignalChannelCount) : Option Int32 :=
  let channel := getElem state.channels index.val index.isLt
  if !channel.enabled || channel.rmsCounts == 0 then some 0
  else if state.frequencyMillihz = 0 then some channel.rmsCounts
  else do
    let phase := basePhase + phaseFromMillidegrees channel.phaseMillidegrees
    let sineQ30 := sineAt phase
    let sineQ30 ←
      if index.val < 4 && state.currentShape.enabled then
        shapeSine state.currentShape phase sineQ30
      else some sineQ30
    let peakCounts ← rmsToPeakCounts channel.rmsCounts
    let value ← scaleQ30 peakCounts sineQ30
    return clampI32 value

def next (engine : SvFixedPointSineEngine) (state : SvLiveSignalState) (publisherRateHz : UInt32) :
    Option (SampleRow × SvFixedPointSineEngine) :=
  if publisherRateHz = 0 then some (.replicate _ 0, engine)
  else do
    let phaseStep := phaseStepFor state.frequencyMillihz publisherRateHz
    let row ← Vector.ofFnM (channelValue state engine.phaseAccumulator)
    return (row, { phaseAccumulator := engine.phaseAccumulator + phaseStep })

end SvFixedPointSineEngine

end ArStack.SampledValues
