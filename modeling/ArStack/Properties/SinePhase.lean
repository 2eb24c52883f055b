import Mathlib.Tactic.Linarith
import Mathlib.Tactic.Ring
import ArStack.SampledValues.FixedPointSineEngine

/-!
# The sine engine computes exactly

* `shapedSine`, `scaledProduct`, `sampleValue` — the values without a bound on the numbers
* `shapeSine_eq`, `scaleQ30_eq`, `channelValue_eq` — no operation overflows
* `calls_eq` — calls of `next` and one `advance`
* `phase_and_range` — every valid state, rate, phase and number of slots
-/

namespace ArStack.SampledValues

namespace SvFixedPointSineEngine

/-! ## The values -/

def clipLevel (shape : SvCurrentWaveformShape) : Int := (q30 * shape.clipPermille.toNat).tdiv 1000

def clampBetween (low high value : Int) : Int := max low (min value high)

def shapedSine (shape : SvCurrentWaveformShape) (phase : UInt32) : Int :=
  clampBetween (-clipLevel shape) (clipLevel shape)
    (sineAt phase +
        (sineAt (phase * shape.harmonicOrder.toUInt32) * shape.harmonicPermille.toNat).tdiv 1000 +
      (q30 * shape.dcOffsetPermille.toInt).tdiv 1000)

/-- The peak of a sine with that RMS value, rounded down. -/
def peakCounts (rms : Int32) : Int := rms.toInt * 1518500250 / 1073741824

/-- The product of a value and a factor with 30 fractional bits, rounded towards zero. -/
def scaledProduct (value factorQ30 : Int) : Int := (value * factorQ30).tdiv q30

def channelPhase (state : SvLiveSignalState) (basePhase : UInt32)
    (index : Fin kLiveSignalChannelCount) : UInt32 :=
  basePhase + phaseFromMillidegrees state.channels[index].phaseMillidegrees

/-- The sine of a channel; the first four, the currents, may be shaped. -/
def channelSine (state : SvLiveSignalState) (basePhase : UInt32)
    (index : Fin kLiveSignalChannelCount) : Int :=
  if index.val < 4 ∧ state.currentShape.enabled = true then
    shapedSine state.currentShape (channelPhase state basePhase index)
  else sineAt (channelPhase state basePhase index)

/-- The scaled product of a channel, clamped to 32 bits. -/
def productValue (state : SvLiveSignalState) (basePhase : UInt32)
    (index : Fin kLiveSignalChannelCount) : Int :=
  clampBetween (-2147483648) 2147483647
    (scaledProduct (peakCounts state.channels[index].rmsCounts) (channelSine state basePhase index))

/-- What `next` puts into its row: nothing of a channel that is switched off, the RMS value itself
in the DC mode, the scaled product else. -/
def sampleValue (state : SvLiveSignalState) (publisherRateHz basePhase : UInt32)
    (index : Fin kLiveSignalChannelCount) : Int :=
  if publisherRateHz = 0 ∨ state.channels[index].enabled = false ∨
      state.channels[index].rmsCounts = 0 then 0
  else if state.frequencyMillihz = 0 then state.channels[index].rmsCounts.toInt
  else productValue state basePhase index

/-- The unsigned 64-bit values on the way to a phase step. -/
def phaseStepProducts (frequencyMillihz publisherRateHz : UInt32) : List Nat :=
  [publisherRateHz.toNat * 1000, 4294967296 * frequencyMillihz.toNat,
    4294967296 * frequencyMillihz.toNat + publisherRateHz.toNat * 1000 / 2]

/-- The unsigned 64-bit product on the way to a phase offset. -/
def phaseOffsetProduct (millidegrees : Int32) : Int :=
  normalizeMillidegrees millidegrees * 4294967296

/-! ## Arithmetic -/

theorem checkedI64_eq {x : Int} (hlow : -9223372036854775808 ≤ x)
    (hhigh : x ≤ 9223372036854775807) : checkedI64 x = some x :=
  if_pos ⟨hlow, hhigh⟩

/-- A product of bounded numbers. -/
theorem mul_bounds {a b m n : Int} (ha : -m ≤ a ∧ a ≤ m) (hb : -n ≤ b ∧ b ≤ n) :
    -(m * n) ≤ a * b ∧ a * b ≤ m * n := by
  constructor <;> nlinarith

theorem mul_add_tdiv_of_nonneg {q a b : Int} (hq : 0 < q) (ha : 0 ≤ a) (hb : 0 ≤ b) :
    (q * a + b).tdiv q = a + b.tdiv q := by
  have hsum : 0 ≤ q * a + b := Int.add_nonneg (Int.mul_nonneg hq.le ha) hb
  rw [Int.tdiv_eq_ediv_of_nonneg hsum, Int.tdiv_eq_ediv_of_nonneg hb, Int.add_comm,
    Int.add_mul_ediv_left b a hq.ne', Int.add_comm]

theorem mul_add_tdiv_of_nonpos {q a b : Int} (hq : 0 < q) (ha : a ≤ 0) (hb : b ≤ 0) :
    (q * a + b).tdiv q = a + b.tdiv q := by
  have h := mul_add_tdiv_of_nonneg hq (Int.neg_nonneg.mpr ha) (Int.neg_nonneg.mpr hb)
  rw [show q * -a + -b = -(q * a + b) by ring, Int.neg_tdiv, Int.neg_tdiv] at h
  omega

/-- The split of the factor into its whole and its fraction loses nothing. -/
theorem split_product {q : Int} (hq : 0 < q) (value factor : Int) :
    value * factor.tdiv q + (value * factor.tmod q).tdiv q = (value * factor).tdiv q := by
  have hfactor : value * factor = q * (value * factor.tdiv q) + value * factor.tmod q := by
    conv_lhs => rw [← Int.mul_tdiv_add_tmod factor q]
    ring
  have hnonneg {f : Int} (hf : 0 ≤ f) : 0 ≤ f.tdiv q ∧ 0 ≤ f.tmod q :=
    ⟨Int.tdiv_nonneg hf hq.le, Int.tmod_nonneg q hf⟩
  rw [hfactor]
  rcases le_total 0 factor with hf | hf
  · obtain ⟨hwhole, hrest⟩ := hnonneg hf
    rcases le_total 0 value with hv | hv
    · rw [mul_add_tdiv_of_nonneg hq (mul_nonneg hv hwhole) (mul_nonneg hv hrest)]
    · rw [mul_add_tdiv_of_nonpos hq (mul_nonpos_of_nonpos_of_nonneg hv hwhole)
        (mul_nonpos_of_nonpos_of_nonneg hv hrest)]
  · obtain ⟨hwhole, hrest⟩ := hnonneg (Int.neg_nonneg.mpr hf)
    rw [Int.neg_tdiv, Int.neg_nonneg] at hwhole
    rw [Int.neg_tmod, Int.neg_nonneg] at hrest
    rcases le_total 0 value with hv | hv
    · rw [mul_add_tdiv_of_nonpos hq (mul_nonpos_of_nonneg_of_nonpos hv hwhole)
        (mul_nonpos_of_nonneg_of_nonpos hv hrest)]
    · rw [mul_add_tdiv_of_nonneg hq (mul_nonneg_of_nonpos_of_nonpos hv hwhole)
        (mul_nonneg_of_nonpos_of_nonpos hv hrest)]

theorem clampI32_toInt (value : Int) :
    (clampI32 value).toInt = clampBetween (-2147483648) 2147483647 value := by
  unfold clampI32 clampBetween
  split
  · have hmax : Int32.maxValue.toInt = 2147483647 := by decide
    omega
  split
  · have hmin : Int32.minValue.toInt = -2147483648 := by decide
    omega
  · rw [Int32.toInt_ofInt_of_le (by omega) (by omega)]
    omega

/-! ## The bounds of a valid state -/

structure ShapeBounds (shape : SvCurrentWaveformShape) : Prop where
  offset : -3000 ≤ shape.dcOffsetPermille.toInt ∧ shape.dcOffsetPermille.toInt ≤ 3000
  harmonic : shape.harmonicPermille.toNat ≤ 3000
  clip : shape.clipPermille.toNat ≤ 10000

theorem shapeBounds_of_validate {state : SvLiveSignalState}
    (h : SvLiveSignalBank.validate state = true) : ShapeBounds state.currentShape := by
  unfold SvLiveSignalBank.validate SvLiveSignalBank.validShape at h
  simp only [Bool.and_eq_true, decide_eq_true_eq, Int32.le_iff_toInt_le, UInt32.le_iff_toNat_le] at h
  obtain ⟨-, ⟨⟨⟨⟨⟨hlow, hhigh⟩, hharmonic⟩, -⟩, -⟩, -⟩, hclip⟩ := h
  exact ⟨⟨hlow, hhigh⟩, hharmonic, hclip⟩

theorem frequency_le_of_validate {state : SvLiveSignalState}
    (h : SvLiveSignalBank.validate state = true) : state.frequencyMillihz.toNat ≤ 1000000 := by
  unfold SvLiveSignalBank.validate SvLiveSignalBank.validFrequency at h
  simp only [Bool.and_eq_true, Bool.or_eq_true, beq_iff_eq, decide_eq_true_eq,
    UInt32.le_iff_toNat_le] at h
  rcases h.1.1 with hzero | ⟨-, hle⟩
  · rw [hzero]
    decide
  · exact hle

/-! ## No operation overflows -/

theorem tdiv_thousand_bounds {x m : Int} (h : -(1000 * m) ≤ x ∧ x ≤ 1000 * m) :
    -m ≤ x.tdiv 1000 ∧ x.tdiv 1000 ≤ m := by
  have hsplit := Int.mul_tdiv_add_tmod x 1000
  rcases le_total 0 x with hx | hx
  · have := Int.tmod_nonneg 1000 hx
    have := Int.tmod_lt_of_pos x (show (0 : Int) < 1000 by omega)
    omega
  · have := Int.tmod_nonneg 1000 (Int.neg_nonneg.mpr hx)
    have := Int.tmod_lt_of_pos (-x) (show (0 : Int) < 1000 by omega)
    rw [Int.neg_tmod] at *
    omega

theorem clipLevel_bounds {shape : SvCurrentWaveformShape} (h : ShapeBounds shape) :
    0 ≤ clipLevel shape ∧ clipLevel shape ≤ 10 * q30 := by
  have hclip := h.clip
  unfold clipLevel q30
  constructor
  · exact Int.tdiv_nonneg (by omega) (by omega)
  · exact (tdiv_thousand_bounds (m := 10 * 1073741824) (by omega)).2

theorem clampBetween_bounds {level : Int} (h : 0 ≤ level) (value : Int) :
    -level ≤ clampBetween (-level) level value ∧ clampBetween (-level) level value ≤ level := by
  unfold clampBetween
  omega

/-- The shaping has no overflow. -/
theorem shapeSine_eq {shape : SvCurrentWaveformShape} (h : ShapeBounds shape) (phase : UInt32) :
    shapeSine shape phase (sineAt phase) = some (shapedSine shape phase) := by
  have hsine : -1073741824 ≤ sineAt phase ∧ sineAt phase ≤ 1073741824 := sineQ30FromIndex_bounds _
  have hharmonic : -1073741824 ≤ sineAt (phase * shape.harmonicOrder.toUInt32) ∧
      sineAt (phase * shape.harmonicOrder.toUInt32) ≤ 1073741824 := sineQ30FromIndex_bounds _
  have hproduct := mul_bounds (n := 3000) hharmonic
    (show -3000 ≤ (shape.harmonicPermille.toNat : Int) ∧
      (shape.harmonicPermille.toNat : Int) ≤ 3000 by have := h.harmonic; omega)
  have hshare := tdiv_thousand_bounds (m := 3 * 1073741824) (by omega)
    (x := sineAt (phase * shape.harmonicOrder.toUInt32) * shape.harmonicPermille.toNat)
  have hoffset := h.offset
  have hlevel := tdiv_thousand_bounds (x := q30 * shape.dcOffsetPermille.toInt)
    (m := 3 * 1073741824) (by unfold q30; omega)
  have hclip := clipLevel_bounds h
  have hpermille := h.clip
  unfold clipLevel at hclip
  unfold shapeSine shapedSine clampBetween clipLevel
  unfold q30 at *
  simp (disch := omega) only [checkedI64_eq, Option.bind_eq_bind, Option.bind_some, Option.pure_def]
  congr 1
  split
  · omega
  split <;> omega

theorem rmsToPeakCounts_eq (rms : Int32) : rmsToPeakCounts rms = some (peakCounts rms) := by
  have hlow := Int32.le_toInt rms
  have hhigh := Int32.toInt_lt rms
  unfold rmsToPeakCounts
  rw [checkedI64_eq (by omega) (by omega)]
  simp only [Option.bind_eq_bind, Option.bind_some, Option.pure_def, Int.shiftRight_eq_div_pow]
  rfl

theorem peakCounts_bounds (rms : Int32) :
    -3037000500 ≤ peakCounts rms ∧ peakCounts rms ≤ 3037000500 := by
  have hlow := Int32.le_toInt rms
  have hhigh := Int32.toInt_lt rms
  unfold peakCounts
  omega

/-- The two products of the split factor and their sum have no overflow. -/
theorem scaleQ30_eq {value factor : Int} (hvalue : -3037000500 ≤ value ∧ value ≤ 3037000500)
    (hfactor : -(10 * q30) ≤ factor ∧ factor ≤ 10 * q30) :
    scaleQ30 value factor = some (scaledProduct value factor) := by
  have hq : (0 : Int) < q30 := by decide
  have hrest : -1073741824 < factor.tmod q30 ∧ factor.tmod q30 < 1073741824 := by
    have hlt := Int.tmod_lt_of_pos factor hq
    have hneg := Int.tmod_lt_of_pos (-factor) hq
    rw [Int.neg_tmod] at hneg
    unfold q30 at *
    omega
  have hwhole : -10 ≤ factor.tdiv q30 ∧ factor.tdiv q30 ≤ 10 := by
    have hsplit := Int.mul_tdiv_add_tmod factor q30
    unfold q30 at *
    omega
  have hhigh := mul_bounds hvalue hwhole
  have hlow := mul_bounds hvalue ⟨hrest.1.le, hrest.2.le⟩
  have hfraction : -3037000500 ≤ (value * factor.tmod q30).tdiv q30 ∧
      (value * factor.tmod q30).tdiv q30 ≤ 3037000500 := by
    have hsplit := Int.mul_tdiv_add_tmod (value * factor.tmod q30) q30
    have hlt := Int.tmod_lt_of_pos (value * factor.tmod q30) hq
    have hneg := Int.tmod_lt_of_pos (-(value * factor.tmod q30)) hq
    rw [Int.neg_tmod] at hneg
    unfold q30 at *
    omega
  unfold scaleQ30
  simp (disch := omega) only [checkedI64_eq, Option.bind_eq_bind, Option.bind_some]
  rw [split_product hq]
  rfl

theorem channelSine_bounds {state : SvLiveSignalState} (h : ShapeBounds state.currentShape)
    (basePhase : UInt32) (index : Fin kLiveSignalChannelCount) :
    -(10 * q30) ≤ channelSine state basePhase index ∧
      channelSine state basePhase index ≤ 10 * q30 := by
  unfold channelSine
  split
  · have hclip := clipLevel_bounds h
    have hsine := clampBetween_bounds hclip.1
      (sineAt (channelPhase state basePhase index) +
          (sineAt (channelPhase state basePhase index * state.currentShape.harmonicOrder.toUInt32) *
            state.currentShape.harmonicPermille.toNat).tdiv 1000 +
        (q30 * state.currentShape.dcOffsetPermille.toInt).tdiv 1000)
    unfold shapedSine
    omega
  · have hsine : -1073741824 ≤ sineAt (channelPhase state basePhase index) ∧
        sineAt (channelPhase state basePhase index) ≤ 1073741824 := sineQ30FromIndex_bounds _
    unfold q30
    omega

/-- The value of a channel has no overflow. -/
theorem channelValue_eq {state : SvLiveSignalState} (h : ShapeBounds state.currentShape)
    (basePhase : UInt32) (index : Fin kLiveSignalChannelCount) :
    ∃ value, channelValue state basePhase index = some value ∧
      ∀ rate : UInt32, rate ≠ 0 → value.toInt = sampleValue state rate basePhase index := by
  unfold channelValue sampleValue
  dsimp only
  by_cases hoff : state.channels[index].enabled = false ∨ state.channels[index].rmsCounts = 0
  · refine ⟨0, if_pos ?_, fun rate _ => ?_⟩
    · simpa using hoff
    · rw [if_pos (.inr hoff)]
      rfl
  rw [if_neg (by simpa using hoff)]
  by_cases hdc : state.frequencyMillihz = 0
  · refine ⟨_, if_pos hdc, fun rate hrate => ?_⟩
    rw [if_neg (fun hor => hor.elim hrate hoff), if_pos hdc]
    rfl
  · have hscale := scaleQ30_eq (peakCounts_bounds state.channels[index].rmsCounts)
      (channelSine_bounds h basePhase index)
    refine ⟨clampI32 (scaledProduct (peakCounts state.channels[index].rmsCounts)
      (channelSine state basePhase index)), ?_, fun rate hrate => ?_⟩
    · rw [if_neg hdc]
      simp only [Option.bind_eq_bind, rmsToPeakCounts_eq, Option.bind_some, Option.pure_def]
      by_cases hshaped : index.val < 4 ∧ state.currentShape.enabled = true
      · have hsine : channelSine state basePhase index =
            shapedSine state.currentShape (channelPhase state basePhase index) := if_pos hshaped
        rw [if_pos (by simpa using hshaped), shapeSine_eq h, Option.bind_some]
        rw [hsine] at hscale ⊢
        exact congrArg (Option.bind · _) hscale
      · have hsine : channelSine state basePhase index =
            sineAt (channelPhase state basePhase index) := if_neg hshaped
        rw [if_neg (by simpa using hshaped)]
        rw [hsine] at hscale ⊢
        exact congrArg (Option.bind · _) hscale
    · rw [if_neg (fun hor => hor.elim hrate hoff), if_neg hdc, clampI32_toInt]
      rfl

/-- A call gives the values of the channels and moves the phase by one step. -/
theorem next_eq {state : SvLiveSignalState} (h : ShapeBounds state.currentShape)
    (engine : SvFixedPointSineEngine) (rate : UInt32) :
    ∃ row, engine.next state rate = some (row,
        { phaseAccumulator := engine.phaseAccumulator + phaseStepFor state.frequencyMillihz rate }) ∧
      ∀ index : Fin kLiveSignalChannelCount,
        row[index].toInt = sampleValue state rate engine.phaseAccumulator index := by
  unfold next
  by_cases hrate : rate = 0
  · refine ⟨.replicate _ 0, ?_, fun index => ?_⟩
    · have hstep : phaseStepFor state.frequencyMillihz rate = 0 := if_pos hrate
      rw [if_pos hrate, hstep, UInt32.add_zero]
    · rw [sampleValue, if_pos (.inl hrate)]
      simp
  · choose value hvalue hexact using channelValue_eq h engine.phaseAccumulator
    have hrow : Vector.ofFnM (channelValue state engine.phaseAccumulator) =
        some (Vector.ofFn value) := by
      rw [show channelValue state engine.phaseAccumulator = fun index => pure (value index) from
        funext hvalue, Vector.ofFnM_pure]
      rfl
    refine ⟨Vector.ofFn value, ?_, fun index => ?_⟩
    · rw [if_neg hrate, hrow]
      rfl
    · rw [Fin.getElem_fin, Vector.getElem_ofFn]
      exact hexact index rate hrate

/-! ## Skipped slots -/

/-- The engine after so many calls of `next`. -/
def calls (state : SvLiveSignalState) (rate : UInt32) :
    Nat → SvFixedPointSineEngine → Option SvFixedPointSineEngine
  | 0, engine => some engine
  | k + 1, engine => do
    let (_, engine) ← engine.next state rate
    calls state rate k engine

theorem calls_eq {state : SvLiveSignalState} (h : ShapeBounds state.currentShape) (rate : UInt32)
    (k : Nat) (engine : SvFixedPointSineEngine) :
    calls state rate k engine = some { phaseAccumulator :=
      engine.phaseAccumulator + UInt32.ofNat k * phaseStepFor state.frequencyMillihz rate } := by
  induction k generalizing engine with
  | zero => simp [calls]
  | succ k ih =>
    obtain ⟨row, hnext, -⟩ := next_eq h engine rate
    rw [calls, hnext]
    simp only [Option.bind_eq_bind, Option.bind_some, ih]
    rw [UInt32.ofNat_add, UInt32.add_mul, UInt32.add_assoc, UInt32.add_comm (UInt32.ofNat k * _)]
    simp

/-- The 64-bit product of `advance`, cut to 32 bits. -/
theorem advance_eq (engine : SvFixedPointSineEngine) (state : SvLiveSignalState)
    (rate slots : UInt32) :
    engine.advance state rate slots = { phaseAccumulator :=
      engine.phaseAccumulator + slots * phaseStepFor state.frequencyMillihz rate } := by
  unfold advance
  dsimp only
  rw [UInt64.toUInt32_mul, UInt32.toUInt32_toUInt64, UInt32.toUInt32_toUInt64, UInt32.mul_comm]

/-! ## The unsigned arithmetic -/

theorem phaseStepProducts_lt {frequencyMillihz : UInt32} (h : frequencyMillihz.toNat ≤ 1000000)
    (rate : UInt32) : ∀ x ∈ phaseStepProducts frequencyMillihz rate, x < 2 ^ 64 := by
  have hrate := rate.toNat_lt
  intro x hx
  simp only [phaseStepProducts, List.mem_cons, List.not_mem_nil, or_false] at hx
  rcases hx with rfl | rfl | rfl <;> omega

theorem phaseOffsetProduct_bounds (millidegrees : Int32) :
    0 ≤ phaseOffsetProduct millidegrees ∧ phaseOffsetProduct millidegrees < 2 ^ 64 := by
  have hlt := Int.tmod_lt_of_pos millidegrees.toInt (show (0 : Int) < 360000 by omega)
  have hneg := Int.tmod_lt_of_pos (-millidegrees.toInt) (show (0 : Int) < 360000 by omega)
  rw [Int.neg_tmod] at hneg
  unfold phaseOffsetProduct normalizeMillidegrees
  dsimp only
  split <;> omega

/-! ## Every valid state -/

/-- **DDS phase and range.** In every valid state, `advance` leaves the engine that as many calls
of `next` leave; no 64-bit operation of `next` overflows; each value is the one of its channel,
the scaled product clamped to 32 bits in an AC mode with the channel switched on; and a shaped
sine stays within the clip level. -/
theorem phase_and_range {state : SvLiveSignalState} (h : SvLiveSignalBank.validate state = true)
    (engine : SvFixedPointSineEngine) (rate : UInt32) :
    (∀ slots : UInt32, calls state rate slots.toNat engine = some (engine.advance state rate slots)) ∧
      ((∀ x ∈ phaseStepProducts state.frequencyMillihz rate, x < 2 ^ 64) ∧
        ∀ index : Fin kLiveSignalChannelCount,
          0 ≤ phaseOffsetProduct state.channels[index].phaseMillidegrees ∧
            phaseOffsetProduct state.channels[index].phaseMillidegrees < 2 ^ 64) ∧
      (∃ row, engine.next state rate = some (row, engine.advance state rate 1) ∧
        ∀ index : Fin kLiveSignalChannelCount,
          row[index].toInt = sampleValue state rate engine.phaseAccumulator index) ∧
      ∀ phase, -clipLevel state.currentShape ≤ shapedSine state.currentShape phase ∧
        shapedSine state.currentShape phase ≤ clipLevel state.currentShape := by
  have hshape := shapeBounds_of_validate h
  refine ⟨fun slots => ?_, ⟨?_, fun index => phaseOffsetProduct_bounds _⟩, ?_, fun phase => ?_⟩
  · rw [calls_eq hshape, advance_eq, UInt32.ofNat_toNat]
  · exact phaseStepProducts_lt (frequency_le_of_validate h) rate
  · obtain ⟨row, hnext, hvalues⟩ := next_eq hshape engine rate
    refine ⟨row, ?_, hvalues⟩
    rw [hnext, advance_eq, UInt32.one_mul]
  · exact clampBetween_bounds (clipLevel_bounds hshape).1 _

theorem phase_and_range_default :
    SvLiveSignalBank.validate SvLiveSignalBank.defaultState = true ∧
      calls SvLiveSignalBank.defaultState 4000 (3 : UInt32).toNat {} =
        some (({} : SvFixedPointSineEngine).advance SvLiveSignalBank.defaultState 4000 3) :=
  have hvalid : SvLiveSignalBank.validate SvLiveSignalBank.defaultState = true := by decide
  ⟨hvalid, (phase_and_range hvalid {} 4000).1 3⟩

/-- The explicit DC mode. -/
def dcState : SvLiveSignalState := { SvLiveSignalBank.defaultState with frequencyMillihz := 0 }

/-- In the DC mode a row has the RMS values themselves, no scaled products. -/
theorem not_always_product :
    ¬∀ (state : SvLiveSignalState) (engine : SvFixedPointSineEngine) (rate : UInt32),
      SvLiveSignalBank.validate state = true →
        ∃ row engine', engine.next state rate = some (row, engine') ∧
          ∀ index : Fin kLiveSignalChannelCount,
            row[index].toInt = productValue state engine.phaseAccumulator index := by
  intro h
  obtain ⟨row, engine', hnext, hvalues⟩ := h dcState {} 4000 (by decide)
  have hvalid : SvLiveSignalBank.validate dcState = true := by decide
  obtain ⟨row', hnext', hsamples⟩ := next_eq (shapeBounds_of_validate hvalid) {} 4000
  rw [hnext] at hnext'
  cases hnext'
  have hsame := (hsamples ⟨0, by decide⟩).symm.trans (hvalues ⟨0, by decide⟩)
  revert hsame
  decide

end SvFixedPointSineEngine

end ArStack.SampledValues
