import ArStack.TimeSync.SvPtpEpoch
import Mathlib.Data.Real.Basic
import Mathlib.Tactic.Linarith
import Mathlib.Tactic.NormNum

/-!
# The first sample hits a PTP second

* `ptpNsAt`, `NearSecond` — the PTP time, and how near it is to a whole second
* `PlanFits`, `RebaseFits` — the arithmetic of the source, over natural numbers
* `plan_ok`, `rebase_ok` — what a plan and a rebased plan are
* `first_sample_hits_second`
-/

namespace ArStack.TimeSync

/-- The PTP time at the instant `x`, in ns from the second of a reading that was made at `t`. Both
clocks have the same rate. -/
noncomputable def ptpNsAt (o : SvPtpClockObservation) (t x : ℝ) : ℝ :=
  o.ptpNanoseconds.toNat + (x - t) * 1000

/-- The instant `x` is within so many microseconds of a whole PTP second. -/
def NearSecond (o : SvPtpClockObservation) (t x boundUs : ℝ) : Prop :=
  ∃ n : ℤ, |ptpNsAt o t x - n * 1000000000| ≤ boundUs * 1000

/-! ## Numbers -/

/-- The numbers of a plan: none is cut off or wraps. -/
structure PlanFits (o : SvPtpClockObservation) (minimumLeadUs : UInt32)
    (arm : SvSecondBoundaryArm) (uncertainty estimated untilNext first : ℕ) : Prop where
  ordered : o.monotonicBeforeUs.toNat ≤ o.monotonicAfterUs.toNat
  uncertainty_eq : uncertainty = (o.monotonicAfterUs.toNat - o.monotonicBeforeUs.toNat + 1) / 2
  span_fits : o.monotonicAfterUs.toNat - o.monotonicBeforeUs.toNat + 1 < 2 ^ 64
  estimated_eq : estimated = (o.ptpNanoseconds.toNat + uncertainty * 1000) % 1000000000
  estimated_fits : o.ptpNanoseconds.toNat + uncertainty * 1000 < 2 ^ 64
  untilNext_eq : untilNext = (1000000000 - estimated + 999) / 1000
  first_eq : first = if untilNext < minimumLeadUs.toNat then untilNext + 1000000 else untilNext
  first_fits : first < 2 ^ 32
  uncertainty_fits : uncertainty < 2 ^ 32
  alarm : arm.firstAlarmUs.toNat = first
  read : arm.clockReadUncertaintyUs.toNat = uncertainty

/-- The numbers of a rebased plan: none is cut off or wraps. -/
structure RebaseFits (planned : SvSecondBoundaryArm) (after preparation : UInt64)
    (minimumStartLeadUs : UInt32) (arm : SvSecondBoundaryArm) (age untilEpoch : ℕ) : Prop where
  ordered : after.toNat ≤ preparation.toNat
  age_eq : age = preparation.toNat - after.toNat
  lead_fits : age + minimumStartLeadUs.toNat < 2 ^ 64
  untilEpoch_eq : untilEpoch =
    if planned.firstAlarmUs.toNat ≤ age + minimumStartLeadUs.toNat then
      planned.firstAlarmUs.toNat + 1000000
    else planned.firstAlarmUs.toNat
  later : age < untilEpoch
  remaining_fits : untilEpoch - age < 2 ^ 32
  alarm : arm.firstAlarmUs.toNat = untilEpoch - age

theorem toNat_plus_one_half {n : UInt64} (h : n.toNat + 1 < 2 ^ 64) :
    ((n + 1) / 2).toNat = (n.toNat + 1) / 2 := by
  rw [UInt64.toNat_div, UInt64.toNat_add]
  show (n.toNat + 1) % 2 ^ 64 / 2 = _
  rw [Nat.mod_eq_of_lt h]

/-- **What a plan is.** -/
theorem plan_ok {o : SvPtpClockObservation} {minimumLeadUs maximumReadSpanUs : UInt32}
    {arm : SvSecondBoundaryArm}
    (h : planSvPtpSecondArm o minimumLeadUs maximumReadSpanUs = some arm) :
    minimumLeadUs.toNat ≤ 1000000 ∧ ∃ uncertainty estimated untilNext first,
      PlanFits o minimumLeadUs arm uncertainty estimated untilNext first := by
  rw [planSvPtpSecondArm, Option.ite_none_left_eq_some, Option.ite_none_left_eq_some,
    Option.ite_none_left_eq_some] at h
  obtain ⟨hchecks, hspan, hfirst, harm⟩ := h
  have harm := Option.some.inj harm
  rw [not_or, not_or, not_or] at hchecks
  obtain ⟨hnanoseconds, hordered, hlead, hleadMax⟩ := hchecks
  rw [ge_iff_le, UInt64.not_le, UInt64.lt_iff_toNat_lt, UInt32.toNat_toUInt64] at hnanoseconds
  rw [UInt64.not_lt, UInt64.le_iff_toNat_le] at hordered
  rw [gt_iff_lt, UInt64.not_lt, UInt64.le_iff_toNat_le, UInt32.toNat_toUInt64] at hleadMax
  rw [gt_iff_lt, UInt64.not_lt, UInt64.le_iff_toNat_le, UInt32.toNat_toUInt64,
    UInt64.toNat_sub_of_le _ _ (UInt64.le_iff_toNat_le.mpr hordered)] at hspan
  have hspanLt := maximumReadSpanUs.toNat_lt
  have hleadLt := minimumLeadUs.toNat_lt
  have hnanoseconds : o.ptpNanoseconds.toNat < 1000000000 := hnanoseconds
  have hleadMax : minimumLeadUs.toNat ≤ 1000000 := hleadMax
  generalize hspanNat : o.monotonicAfterUs.toNat - o.monotonicBeforeUs.toNat = span at hspan
  have huncertainty : ((o.monotonicAfterUs - o.monotonicBeforeUs + 1) / 2).toNat =
      (span + 1) / 2 := by
    rw [toNat_plus_one_half, UInt64.toNat_sub_of_le _ _ (UInt64.le_iff_toNat_le.mpr hordered),
      hspanNat]
    rw [UInt64.toNat_sub_of_le _ _ (UInt64.le_iff_toNat_le.mpr hordered), hspanNat]
    omega
  generalize (o.monotonicAfterUs - o.monotonicBeforeUs + 1) / 2 = uncertainty at *
  have hproduct : (uncertainty * 1000).toNat = (span + 1) / 2 * 1000 := by
    rw [UInt64.toNat_mul, huncertainty]
    exact Nat.mod_eq_of_lt (show (span + 1) / 2 * 1000 < 2 ^ 64 by omega)
  have hestimated : ((o.ptpNanoseconds.toUInt64 + uncertainty * 1000) % 1000000000).toNat =
      (o.ptpNanoseconds.toNat + (span + 1) / 2 * 1000) % 1000000000 := by
    rw [UInt64.toNat_mod, UInt64.toNat_add, hproduct, UInt32.toNat_toUInt64]
    have hfits : o.ptpNanoseconds.toNat + (span + 1) / 2 * 1000 < 2 ^ 64 := by omega
    rw [Nat.mod_eq_of_lt hfits]
    rfl
  generalize (o.ptpNanoseconds.toUInt64 + uncertainty * 1000) % 1000000000 = estimated at *
  generalize hestimatedNat : (o.ptpNanoseconds.toNat + (span + 1) / 2 * 1000) % 1000000000 =
    estimatedNat at hestimated
  have hestimatedLt : estimatedNat < 1000000000 := by omega
  have huntil : ((1000000000 - estimated + 999) / 1000).toNat =
      (1000000000 - estimatedNat + 999) / 1000 := by
    have hsub : (1000000000 - estimated).toNat = 1000000000 - estimatedNat := by
      rw [UInt64.toNat_sub_of_le, hestimated]
      · rfl
      · rw [UInt64.le_iff_toNat_le, hestimated]
        exact hestimatedLt.le
    rw [UInt64.toNat_div, UInt64.toNat_add, hsub]
    show (1000000000 - estimatedNat + 999) % 2 ^ 64 / 1000 = _
    rw [Nat.mod_eq_of_lt (by omega)]
  generalize (1000000000 - estimated + 999) / 1000 = untilNext at *
  generalize huntilNat : (1000000000 - estimatedNat + 999) / 1000 = untilNat at huntil
  have hfirstNat : (if untilNext < minimumLeadUs.toUInt64 then untilNext + 1000000
      else untilNext).toNat =
        if untilNat < minimumLeadUs.toNat then untilNat + 1000000 else untilNat := by
    have hlt : untilNext < minimumLeadUs.toUInt64 ↔ untilNat < minimumLeadUs.toNat := by
      rw [UInt64.lt_iff_toNat_lt, huntil, UInt32.toNat_toUInt64]
    by_cases h : untilNat < minimumLeadUs.toNat
    · rw [if_pos (hlt.mpr h), if_pos h, UInt64.toNat_add, huntil]
      exact Nat.mod_eq_of_lt (show untilNat + 1000000 < 2 ^ 64 by omega)
    · rw [if_neg fun h' => h (hlt.mp h'), if_neg h, huntil]
  generalize (if untilNext < minimumLeadUs.toUInt64 then untilNext + 1000000
    else untilNext) = first at *
  have hfirstLt : first.toNat < 2 ^ 32 := by
    rw [hfirstNat]
    split <;> omega
  subst harm
  refine ⟨hleadMax, (span + 1) / 2, estimatedNat, untilNat, first.toNat, ?_⟩
  exact
    { ordered := hordered
      uncertainty_eq := by rw [hspanNat]
      span_fits := by omega
      estimated_eq := hestimatedNat.symm
      estimated_fits := by omega
      untilNext_eq := huntilNat.symm
      first_eq := hfirstNat
      first_fits := hfirstLt
      uncertainty_fits := by omega
      alarm := by
        show first.toUInt32.toNat = _
        rw [UInt64.toNat_toUInt32, Nat.mod_eq_of_lt hfirstLt]
      read := by
        show uncertainty.toUInt32.toNat = _
        rw [UInt64.toNat_toUInt32, huncertainty, Nat.mod_eq_of_lt (by omega)] }

/-- **What a rebased plan is.** -/
theorem rebase_ok {planned arm : SvSecondBoundaryArm} {after preparation : UInt64}
    {minimumStartLeadUs maximumRebaseAgeUs : UInt32}
    (h : rebaseSvPtpSecondArm planned after preparation minimumStartLeadUs maximumRebaseAgeUs =
      some arm) :
    minimumStartLeadUs.toNat ≤ arm.firstAlarmUs.toNat ∧
      arm.clockReadUncertaintyUs = planned.clockReadUncertaintyUs ∧
      ∃ age untilEpoch,
        RebaseFits planned after preparation minimumStartLeadUs arm age untilEpoch := by
  rw [rebaseSvPtpSecondArm, Option.ite_none_left_eq_some, Option.ite_none_left_eq_some,
    Option.ite_none_left_eq_some, Option.ite_none_left_eq_some] at h
  obtain ⟨hchecks, hage, hlater, hremaining, harm⟩ := h
  have harm := Option.some.inj harm
  rw [not_or, not_or, not_or, not_or] at hchecks
  obtain ⟨hordered, -, -, -, hplanned⟩ := hchecks
  rw [UInt64.not_lt, UInt64.le_iff_toNat_le] at hordered
  have hageNat : (preparation - after).toNat = preparation.toNat - after.toNat :=
    UInt64.toNat_sub_of_le _ _ (UInt64.le_iff_toNat_le.mpr hordered)
  rw [gt_iff_lt, UInt64.not_lt, UInt64.le_iff_toNat_le, UInt32.toNat_toUInt64, hageNat] at hage
  have hageLt := maximumRebaseAgeUs.toNat_lt
  have hleadLt := minimumStartLeadUs.toNat_lt
  have hplannedLt := planned.firstAlarmUs.toNat_lt
  generalize preparation - after = age at *
  generalize hageEq : preparation.toNat - after.toNat = ageNat at hageNat hage
  have hlead : (age + minimumStartLeadUs.toUInt64).toNat = ageNat + minimumStartLeadUs.toNat := by
    rw [UInt64.toNat_add, hageNat, UInt32.toNat_toUInt64, Nat.mod_eq_of_lt (by omega)]
  have huntil : (if planned.firstAlarmUs.toUInt64 ≤ age + minimumStartLeadUs.toUInt64 then
      planned.firstAlarmUs.toUInt64 + 1000000 else planned.firstAlarmUs.toUInt64).toNat =
        if planned.firstAlarmUs.toNat ≤ ageNat + minimumStartLeadUs.toNat then
          planned.firstAlarmUs.toNat + 1000000
        else planned.firstAlarmUs.toNat := by
    have hle : planned.firstAlarmUs.toUInt64 ≤ age + minimumStartLeadUs.toUInt64 ↔
        planned.firstAlarmUs.toNat ≤ ageNat + minimumStartLeadUs.toNat := by
      rw [UInt64.le_iff_toNat_le, hlead, UInt32.toNat_toUInt64]
    by_cases h : planned.firstAlarmUs.toNat ≤ ageNat + minimumStartLeadUs.toNat
    · rw [if_pos (hle.mpr h), if_pos h, UInt64.toNat_add, UInt32.toNat_toUInt64]
      exact Nat.mod_eq_of_lt (show planned.firstAlarmUs.toNat + 1000000 < 2 ^ 64 by omega)
    · rw [if_neg fun h' => h (hle.mp h'), if_neg h, UInt32.toNat_toUInt64]
  generalize (if planned.firstAlarmUs.toUInt64 ≤ age + minimumStartLeadUs.toUInt64 then
    planned.firstAlarmUs.toUInt64 + 1000000 else planned.firstAlarmUs.toUInt64) =
      untilEpoch at *
  rw [UInt64.not_le, UInt64.lt_iff_toNat_lt, hageNat] at hlater
  have hremainingNat : (untilEpoch - age).toNat = untilEpoch.toNat - ageNat := by
    rw [UInt64.toNat_sub_of_le _ _ (UInt64.le_iff_toNat_le.mpr (by rw [hageNat]; exact hlater.le)),
      hageNat]
  rw [not_or, UInt64.not_lt, gt_iff_lt, UInt64.not_lt, UInt64.le_iff_toNat_le,
    UInt64.le_iff_toNat_le, UInt32.toNat_toUInt64, hremainingNat] at hremaining
  obtain ⟨hleadLe, hshort⟩ := hremaining
  have hshort : untilEpoch.toNat - ageNat ≤ 2 * 1000000 := hshort
  have halarm : arm.firstAlarmUs.toNat = untilEpoch.toNat - ageNat := by
    rw [← harm]
    show (untilEpoch - age).toUInt32.toNat = _
    rw [UInt64.toNat_toUInt32, hremainingNat, Nat.mod_eq_of_lt (by omega)]
  refine ⟨by rw [halarm]; exact hleadLe, by rw [← harm], ageNat, untilEpoch.toNat, ?_⟩
  exact
    { ordered := hordered
      age_eq := hageEq.symm
      lead_fits := by omega
      untilEpoch_eq := huntil
      later := hlater
      remaining_fits := by omega
      alarm := halarm }

/-! ## The second -/

/-- The alarm of a plan is the wait for a whole second, up to a microsecond. -/
theorem first_eq {o : SvPtpClockObservation} {minimumLeadUs : UInt32} {arm : SvSecondBoundaryArm}
    {uncertainty estimated untilNext first : ℕ}
    (h : PlanFits o minimumLeadUs arm uncertainty estimated untilNext first) :
    ∃ seconds late, o.ptpNanoseconds.toNat + uncertainty * 1000 + first * 1000 =
      seconds * 1000000000 + late ∧ late ≤ 999 := by
  have hestimated := h.estimated_eq
  have huntil := h.untilNext_eq
  have hfirst := h.first_eq
  have hlt := Nat.mod_lt (o.ptpNanoseconds.toNat + uncertainty * 1000)
    (show 0 < 1000000000 by omega)
  have hdiv := Nat.div_add_mod (o.ptpNanoseconds.toNat + uncertainty * 1000) 1000000000
  rw [← hestimated] at hdiv hlt
  split at hfirst
  · refine ⟨(o.ptpNanoseconds.toNat + uncertainty * 1000) / 1000000000 + 2,
      estimated + untilNext * 1000 - 1000000000, ?_, ?_⟩
    · omega
    · omega
  · refine ⟨(o.ptpNanoseconds.toNat + uncertainty * 1000) / 1000000000 + 1,
      estimated + untilNext * 1000 - 1000000000, ?_, ?_⟩
    · omega
    · omega

/-- An alarm at the planned instant, or whole seconds later, is near a whole second. -/
theorem near_of_planned {o : SvPtpClockObservation} {minimumLeadUs : UInt32}
    {arm : SvSecondBoundaryArm} {uncertainty estimated untilNext first : ℕ}
    (h : PlanFits o minimumLeadUs arm uncertainty estimated untilNext first) {t : ℝ}
    (hbefore : (o.monotonicBeforeUs.toNat : ℝ) ≤ t) (hafter : t ≤ o.monotonicAfterUs.toNat)
    {instant : ℕ} (later : ℕ)
    (hinstant : instant = o.monotonicAfterUs.toNat + first + later * 1000000) :
    NearSecond o t instant (uncertainty + 1) := by
  obtain ⟨seconds, late, heq, hlate⟩ := first_eq h
  have hspan : o.monotonicAfterUs.toNat - o.monotonicBeforeUs.toNat ≤ 2 * uncertainty := by
    have := h.uncertainty_eq
    omega
  have hspan : (o.monotonicAfterUs.toNat : ℝ) ≤ o.monotonicBeforeUs.toNat + 2 * uncertainty := by
    have hle : o.monotonicAfterUs.toNat ≤ o.monotonicBeforeUs.toNat + 2 * uncertainty := by
      omega
    exact_mod_cast hle
  have heq : (o.ptpNanoseconds.toNat : ℝ) + uncertainty * 1000 + first * 1000 =
      seconds * 1000000000 + late := by
    exact_mod_cast heq
  have hlate : (late : ℝ) ≤ 999 := by exact_mod_cast hlate
  have hpos : (0 : ℝ) ≤ late := Nat.cast_nonneg late
  refine ⟨(seconds + later : ℕ), ?_⟩
  rw [ptpNsAt, hinstant, abs_le]
  push_cast
  constructor
  · linarith
  · linarith

/-- **The first sample hits a PTP second**, and so does it after every rebase of its plan: whatever
instant between the readings of the monotonic clock the PTP time was read at, the alarm comes within
the uncertainty of the reading and a microsecond of a whole second, and at least the lead ahead. No
number on the way is cut off or wraps. -/
theorem first_sample_hits_second {o : SvPtpClockObservation}
    {minimumLeadUs maximumReadSpanUs : UInt32} {arm : SvSecondBoundaryArm}
    (h : planSvPtpSecondArm o minimumLeadUs maximumReadSpanUs = some arm) :
    (∃ uncertainty estimated untilNext first,
      PlanFits o minimumLeadUs arm uncertainty estimated untilNext first) ∧
    minimumLeadUs.toNat ≤ arm.firstAlarmUs.toNat ∧
    (∀ t : ℝ, o.monotonicBeforeUs.toNat ≤ t → t ≤ o.monotonicAfterUs.toNat →
      NearSecond o t ((o.monotonicAfterUs.toNat + arm.firstAlarmUs.toNat : ℕ) : ℝ)
        (arm.clockReadUncertaintyUs.toNat + 1)) ∧
    ∀ (preparation : UInt64) (minimumStartLeadUs maximumRebaseAgeUs : UInt32)
      (rebased : SvSecondBoundaryArm),
      rebaseSvPtpSecondArm arm o.monotonicAfterUs preparation minimumStartLeadUs
        maximumRebaseAgeUs = some rebased →
      (∃ age untilEpoch, RebaseFits arm o.monotonicAfterUs preparation minimumStartLeadUs rebased
        age untilEpoch) ∧
      minimumStartLeadUs.toNat ≤ rebased.firstAlarmUs.toNat ∧
      ∀ t : ℝ, o.monotonicBeforeUs.toNat ≤ t → t ≤ o.monotonicAfterUs.toNat →
        NearSecond o t ((preparation.toNat + rebased.firstAlarmUs.toNat : ℕ) : ℝ)
          (arm.clockReadUncertaintyUs.toNat + 1) := by
  obtain ⟨hlead, uncertainty, estimated, untilNext, first, hfits⟩ := plan_ok h
  refine ⟨⟨uncertainty, estimated, untilNext, first, hfits⟩, ?_, fun t hbefore hafter => ?_, ?_⟩
  · have hfirst := hfits.first_eq
    rw [hfits.alarm]
    split at hfirst
    · omega
    · omega
  · rw [hfits.read]
    refine near_of_planned hfits hbefore hafter 0 ?_
    rw [hfits.alarm, Nat.zero_mul, Nat.add_zero]
  · intro preparation minimumStartLeadUs maximumRebaseAgeUs rebased hrebase
    obtain ⟨hstart, -, age, untilEpoch, hrebased⟩ := rebase_ok hrebase
    refine ⟨⟨age, untilEpoch, hrebased⟩, hstart, fun t hbefore hafter => ?_⟩
    have hordered := hrebased.ordered
    have hage := hrebased.age_eq
    have hlater := hrebased.later
    have huntil := hrebased.untilEpoch_eq
    rw [hfits.alarm] at huntil
    rw [hfits.read, hrebased.alarm]
    split at huntil
    · exact near_of_planned hfits hbefore hafter 1 (by omega)
    · exact near_of_planned hfits hbefore hafter 0 (by omega)

theorem first_sample_hits_second_sample :
    planSvPtpSecondArm ⟨999900000, 5000000, 5000401⟩ 20000 1000 = some ⟨999899, 201⟩ ∧
      rebaseSvPtpSecondArm ⟨999899, 201⟩ 5000401 5030000 20000 100000 = some ⟨970300, 201⟩ ∧
      NearSecond ⟨999900000, 5000000, 5000401⟩ 5000400 ((5000401 + 999899 : ℕ) : ℝ)
        ((201 : ℕ) + 1) ∧
      NearSecond ⟨999900000, 5000000, 5000401⟩ 5000400 ((5030000 + 970300 : ℕ) : ℝ)
        ((201 : ℕ) + 1) := by
  have hplan : planSvPtpSecondArm ⟨999900000, 5000000, 5000401⟩ 20000 1000 =
      some ⟨999899, 201⟩ := by decide
  have hrebase : rebaseSvPtpSecondArm ⟨999899, 201⟩ 5000401 5030000 20000 100000 =
      some ⟨970300, 201⟩ := by decide
  have hbefore : (((5000000 : UInt64).toNat : ℕ) : ℝ) ≤ 5000400 := by
    rw [show (5000000 : UInt64).toNat = 5000000 from rfl]
    norm_num
  have hafter : (5000400 : ℝ) ≤ ((5000401 : UInt64).toNat : ℕ) := by
    rw [show (5000401 : UInt64).toNat = 5000401 from rfl]
    norm_num
  obtain ⟨-, -, hfirst, hlater⟩ := first_sample_hits_second hplan
  exact ⟨hplan, hrebase, hfirst 5000400 hbefore hafter,
    (hlater 5030000 20000 100000 _ hrebase).2.2 5000400 hbefore hafter⟩

end ArStack.TimeSync
