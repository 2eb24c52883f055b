import ArStack.Lib.Accumulator
import ArStack.SampledValues.RationalSchedule
import ArStack.TimeSync.SvPtpPhaseAuthority

/-!
# The sample grid

The tick schedule and the slew cursor are error accumulators. The schedule is exact for every
frequency and rate. The cursor adds to its accumulator in 32 bits, so that it is exact unless the
rate is so close to 2^32 that the accumulator wraps.

* `ScheduleExact`, `scheduleExact` — the schedule
* `SlewExact`, `slewExact_iff` — the cursor
* `sampleGrid_exact_iff` — a second of the grid
-/

namespace ArStack.TimeSync

open ArStack.Lib ArStack.SampledValues

/-! ## The schedule -/

section Schedule

/-- The first intervals are exact for every number of them. -/
def ScheduleExact (f : UInt64) (r : UInt32) : Prop :=
  ∃ schedule, RationalTickSchedule.make f r = .ok schedule ∧ ∀ n,
    ((schedule.intervals n).1.map UInt64.toNat).sum = n * f.toNat / r.toNat ∧
      ∀ interval ∈ (schedule.intervals n).1,
        interval.toNat = f.toNat / r.toNat ∨ interval.toNat = f.toNat / r.toNat + 1

variable {f : UInt64} {r : UInt32}

/-- A schedule of the frequency and the rate, with this left in its accumulator. -/
structure Scheduled (f : UInt64) (r : UInt32) (left : Nat) (schedule : RationalTickSchedule) :
    Prop where
  rate : schedule.eventRateHz = r
  base : schedule.baseIntervalTicks.toNat = f.toNat / r.toNat
  remainder : schedule.remainderTicksNumerator.toNat = f.toNat % r.toNat
  left : schedule.remainderAccumulator.toNat = left

theorem make_scheduled (hr : 1 ≤ r) (hf : r.toUInt64 ≤ f) :
    ∃ schedule, RationalTickSchedule.make f r = .ok schedule ∧ Scheduled f r 0 schedule := by
  have hrate : 0 < r.toNat := UInt32.le_iff_toNat_le.mp hr
  have hle : r.toNat ≤ f.toNat := by
    have := UInt64.le_iff_toNat_le.mp hf
    rwa [UInt32.toNat_toUInt64] at this
  have hzero : ¬(f = 0 ∨ r = 0) := by
    rintro (rfl | rfl)
    · have : r.toNat ≤ 0 := hle
      omega
    · exact absurd hrate (Nat.lt_irrefl 0)
  have hlow : ¬f < r.toUInt64 := UInt64.not_lt.mpr hf
  have hmod : f.toNat % r.toNat < 2 ^ 32 := (Nat.mod_lt _ hrate).trans r.toNat_lt
  rw [RationalTickSchedule.make, if_neg hzero, if_neg hlow]
  refine ⟨_, rfl, rfl, ?_, ?_, rfl⟩
  · show (f / r.toUInt64).toNat = _
    rw [UInt64.toNat_div, UInt32.toNat_toUInt64]
  · show (f % r.toUInt64).toUInt32.toNat = _
    rw [UInt64.toNat_toUInt32, UInt64.toNat_mod, UInt32.toNat_toUInt64, Nat.mod_eq_of_lt hmod]

/-- An interval is the base and the carry of a step. -/
theorem nextIntervalTicks_run (hr : 1 ≤ r) {left : Nat} (hleft : left < r.toNat)
    {schedule : RationalTickSchedule} (h : Scheduled f r left schedule) :
    schedule.nextIntervalTicks.1.toNat =
        f.toNat / r.toNat + (Accumulator.step r.toNat (f.toNat % r.toNat) left).1 ∧
      Scheduled f r (Accumulator.step r.toNat (f.toNat % r.toNat) left).2
        schedule.nextIntervalTicks.2 := by
  obtain ⟨hrate, hbase, hremainder, haccumulator⟩ := h
  have hpos : 0 < r.toNat := UInt32.le_iff_toNat_le.mp hr
  have hmod := Nat.mod_lt f.toNat hpos
  have hlt := r.toNat_lt
  have hsum : (schedule.remainderAccumulator.toUInt64 +
      schedule.remainderTicksNumerator.toUInt64).toNat = left + f.toNat % r.toNat := by
    rw [UInt64.toNat_add, UInt32.toNat_toUInt64, UInt32.toNat_toUInt64, hremainder, haccumulator,
      Nat.mod_eq_of_lt (by omega)]
  have hcarry : schedule.remainderAccumulator.toUInt64 +
      schedule.remainderTicksNumerator.toUInt64 ≥ schedule.eventRateHz.toUInt64 ↔
        left + f.toNat % r.toNat ≥ r.toNat := by
    rw [ge_iff_le, UInt64.le_iff_toNat_le, hsum, hrate, UInt32.toNat_toUInt64]
  rw [RationalTickSchedule.nextIntervalTicks, Accumulator.step]
  by_cases h : left + f.toNat % r.toNat ≥ r.toNat
  · rw [if_pos (hcarry.mpr h), if_pos h]
    -- a carry needs a remainder, so that the base is not the largest number
    have hbig : f.toNat / r.toNat + 1 < 2 ^ 64 := by
      have htwo : 2 ≤ r.toNat := by omega
      have := Nat.div_le_div_left htwo (Nat.succ_pos 1) (a := f.toNat)
      have := f.toNat_lt
      omega
    refine ⟨?_, hrate, hbase, hremainder, ?_⟩
    · show (schedule.baseIntervalTicks + 1).toNat = _
      rw [UInt64.toNat_add, hbase]
      exact Nat.mod_eq_of_lt hbig
    · show (schedule.remainderAccumulator.toUInt64 + schedule.remainderTicksNumerator.toUInt64 -
        schedule.eventRateHz.toUInt64).toUInt32.toNat = _
      rw [UInt64.toNat_toUInt32, UInt64.toNat_sub_of_le _ _ (hcarry.mpr h), hsum, hrate,
        UInt32.toNat_toUInt64, Nat.mod_eq_of_lt (by omega)]
  · rw [if_neg fun hge => h (hcarry.mp hge), if_neg h]
    refine ⟨hbase, hrate, hbase, hremainder, ?_⟩
    show (schedule.remainderAccumulator.toUInt64 +
      schedule.remainderTicksNumerator.toUInt64).toUInt32.toNat = _
    rw [UInt64.toNat_toUInt32, hsum, Nat.mod_eq_of_lt (by omega)]

/-- **The schedule is exact.** -/
theorem scheduleExact (hr : 1 ≤ r) (hf : r.toUInt64 ≤ f) : ScheduleExact f r := by
  have hpos : 0 < r.toNat := UInt32.le_iff_toNat_le.mp hr
  obtain ⟨schedule, hmake, hstart⟩ := make_scheduled hr hf
  refine ⟨schedule, hmake, fun n => ?_⟩
  have hrun : ∀ n, Scheduled f r (n * (f.toNat % r.toNat) % r.toNat) (schedule.intervals n).2 ∧
      ((schedule.intervals n).1.map UInt64.toNat).sum = n * f.toNat / r.toNat ∧
      ∀ interval ∈ (schedule.intervals n).1,
        interval.toNat = f.toNat / r.toNat ∨ interval.toNat = f.toNat / r.toNat + 1 := by
    intro n
    induction n with
    | zero =>
      rw [Nat.zero_mul, Nat.zero_mul, Nat.zero_mod, Nat.zero_div]
      exact ⟨hstart, rfl, by simp [RationalTickSchedule.intervals]⟩
    | succ n ih =>
      obtain ⟨hscheduled, hsum, hall⟩ := ih
      obtain ⟨hnext, hafter⟩ := nextIntervalTicks_run hr (Nat.mod_lt _ hpos) hscheduled
      have hstep := Accumulator.step_left hpos (Nat.mod_lt f.toNat hpos).le n
      rw [hstep] at hnext hafter
      -- the carries of `n` remainders are the part of `n * f / r` that the bases leave
      have hsplit (k : Nat) : k * f.toNat / r.toNat =
          k * (f.toNat / r.toNat) + k * (f.toNat % r.toNat) / r.toNat := by
        have hk : k * f.toNat = r.toNat * (k * (f.toNat / r.toNat)) + k * (f.toNat % r.toNat) := by
          rw [Nat.mul_left_comm, ← Nat.mul_add, Nat.div_add_mod]
        rw [hk, Nat.mul_add_div hpos]
      have hmono : n * (f.toNat % r.toNat) / r.toNat ≤ (n + 1) * (f.toNat % r.toNat) / r.toNat :=
        Nat.div_le_div_right (Nat.mul_le_mul_right _ (Nat.le_succ n))
      refine ⟨hafter, ?_, fun interval hmem => ?_⟩
      · show (((schedule.intervals n).1 ++ [(schedule.intervals n).2.nextIntervalTicks.1]).map
          UInt64.toNat).sum = _
        rw [List.map_append, List.sum_append, hsum, List.map_singleton, List.sum_singleton, hnext,
          hsplit n, hsplit (n + 1)]
        have hbase : (n + 1) * (f.toNat / r.toNat) = n * (f.toNat / r.toNat) + f.toNat / r.toNat :=
          Nat.succ_mul _ _
        dsimp only
        omega
      · have hcarry := congrArg Prod.fst hstep
        rw [Accumulator.step] at hcarry
        rcases List.mem_append.mp hmem with hmem | hmem
        · exact hall interval hmem
        · rw [List.mem_singleton.mp hmem, hnext]
          dsimp only at hcarry ⊢
          split at hcarry
          · exact .inr (by rw [← hcarry])
          · exact .inl (by rw [← hcarry]; rfl)
  exact (hrun n).2

end Schedule

/-! ## The cursor -/

section Cursor

open SvBoundedSlewCursor

/-- The first adjustments are exact for every number of them. -/
def SlewExact (rate : UInt32) (requested : Int) : Prop :=
  ∀ k, (adjustments k (arm rate requested)).1.sum =
      (boundedCorrection rate requested).sign *
        ((k * (boundedCorrection rate requested).natAbs / rate.toNat : Nat) : Int) ∧
    ∀ adjustment ∈ (adjustments k (arm rate requested)).1,
      adjustment = -1 ∨ adjustment = 0 ∨ adjustment = 1

variable {rate : UInt32} {requested : Int}

/-- The correction is the one that was requested, within the number of intervals and 400. -/
theorem boundedCorrection_eq (rate : UInt32) (requested : Int) :
    boundedCorrection rate requested =
      max (-((min rate.toNat 400 : Nat) : Int)) (min requested (min rate.toNat 400 : Nat)) := by
  have hmin : (min rate 400).toNat = min rate.toNat 400 := by
    rw [UInt32.min_def]
    split
    · rename_i hle
      exact (Nat.min_eq_left (UInt32.le_iff_toNat_le.mp hle)).symm
    · rename_i hle
      have hlt := UInt32.lt_iff_toNat_lt.mp (UInt32.not_le.mp hle)
      exact (Nat.min_eq_right hlt.le).symm
  rw [boundedCorrection, clampInt, hmin]
  split
  · omega
  · split <;> omega

theorem natAbs_boundedCorrection_le (rate : UInt32) (requested : Int) :
    (boundedCorrection rate requested).natAbs ≤ rate.toNat ∧
      (boundedCorrection rate requested).natAbs ≤ 400 := by
  rw [boundedCorrection_eq]
  omega

/-- A cursor that is armed, with this left in its accumulator. -/
structure Armed (rate : UInt32) (correction : Int) (left : Nat) (cursor : SvBoundedSlewCursor) :
    Prop where
  rate : cursor.rate = rate
  correction : cursor.correction = correction
  left : cursor.accumulator.toNat = left

theorem arm_armed (hrate : 1 ≤ rate) (requested : Int) :
    Armed rate (boundedCorrection rate requested) 0 (arm rate requested) := by
  refine ⟨rfl, if_neg ?_, rfl⟩
  rintro rfl
  exact absurd hrate (by decide)

/-- The amount that a step adds. -/
theorem toNat_amount {correction : Int} (hsmall : correction.natAbs ≤ 400) :
    (UInt32.ofNat correction.natAbs).toNat = correction.natAbs := by
  rw [UInt32.toNat_ofNat', Nat.mod_eq_of_lt (by omega)]

variable {correction : Int} {left : Nat} {cursor : SvBoundedSlewCursor}

/-- An adjustment is the carry of a step, where the accumulator does not wrap. -/
theorem nextAdjustment_run (hrate : 1 ≤ rate) (hsmall : correction.natAbs ≤ 400)
    (hleft : left < rate.toNat) (hfits : left + correction.natAbs < 2 ^ 32)
    (h : Armed rate correction left cursor) :
    cursor.nextAdjustment.1 =
        correction.sign * (Accumulator.step rate.toNat correction.natAbs left).1 ∧
      Armed rate correction (Accumulator.step rate.toNat correction.natAbs left).2
        cursor.nextAdjustment.2 := by
  obtain ⟨hr, hc, hl⟩ := h
  have hpos : 0 < rate.toNat := UInt32.le_iff_toNat_le.mp hrate
  have hsum : (cursor.accumulator + UInt32.ofNat correction.natAbs).toNat =
      left + correction.natAbs := by
    rw [UInt32.toNat_add, toNat_amount hsmall, hl, Nat.mod_eq_of_lt hfits]
  have hcarry : cursor.accumulator + UInt32.ofNat correction.natAbs ≥ cursor.rate ↔
      left + correction.natAbs ≥ rate.toNat := by
    rw [ge_iff_le, UInt32.le_iff_toNat_le, hsum, hr]
  have hne : cursor.rate ≠ 0 := by
    intro hzero
    rw [← hr, hzero] at hpos
    exact absurd hpos (by decide)
  rw [nextAdjustment, Accumulator.step, hc]
  by_cases hzero : correction = 0
  · rw [if_pos (.inr hzero), if_neg (by rw [hzero]; exact Nat.not_le.mpr hleft), hzero]
    exact ⟨rfl, hr, hc.trans hzero, hl⟩
  rw [if_neg (by rintro (hzero' | hzero'); exacts [hne hzero', hzero hzero'])]
  dsimp only
  by_cases hge : left + correction.natAbs ≥ rate.toNat
  · rw [if_pos (hcarry.mpr hge), if_pos hge]
    refine ⟨?_, hr, rfl, ?_⟩
    · dsimp only
      rcases lt_or_gt_of_ne hzero with hneg | hpositive
      · rw [if_pos hneg, Int.sign_eq_neg_one_of_neg hneg]
        rfl
      · rw [if_neg hpositive.not_gt, Int.sign_eq_one_of_pos hpositive]
        rfl
    · show (cursor.accumulator + UInt32.ofNat correction.natAbs - cursor.rate).toNat = _
      rw [UInt32.toNat_sub_of_le _ _ (hcarry.mpr hge), hsum, hr]
  · rw [if_neg fun h => hge (hcarry.mp h), if_neg hge]
    exact ⟨(mul_zero _).symm, hr, rfl, hsum⟩

/-- Where the accumulator wraps, a carry is lost. -/
theorem nextAdjustment_wraps (hsmall : correction.natAbs ≤ 400) (hleft : left < rate.toNat)
    (hwraps : 2 ^ 32 ≤ left + correction.natAbs) (h : Armed rate correction left cursor) :
    cursor.nextAdjustment.1 = 0 := by
  obtain ⟨hr, hc, hl⟩ := h
  have hlt := rate.toNat_lt
  have hsum : (cursor.accumulator + UInt32.ofNat cursor.correction.natAbs).toNat =
      left + correction.natAbs - 2 ^ 32 := by
    rw [UInt32.toNat_add, hc, toNat_amount hsmall, hl, Nat.mod_eq_sub_mod hwraps,
      Nat.mod_eq_of_lt (by omega)]
  have hcarry : ¬cursor.accumulator + UInt32.ofNat cursor.correction.natAbs ≥ cursor.rate := by
    rw [ge_iff_le, UInt32.le_iff_toNat_le, hsum, hr]
    omega
  rw [nextAdjustment]
  split
  · rfl
  · dsimp only
    rw [if_neg hcarry]

theorem nextAdjustment_unit (cursor : SvBoundedSlewCursor) :
    cursor.nextAdjustment.1 = -1 ∨ cursor.nextAdjustment.1 = 0 ∨ cursor.nextAdjustment.1 = 1 := by
  rw [nextAdjustment]
  split
  · exact .inr (.inl rfl)
  · dsimp only
    split
    · dsimp only
      split
      · exact .inl rfl
      · exact .inr (.inr rfl)
    · exact .inr (.inl rfl)

theorem adjustments_unit (k : Nat) (cursor : SvBoundedSlewCursor) :
    ∀ adjustment ∈ (adjustments k cursor).1,
      adjustment = -1 ∨ adjustment = 0 ∨ adjustment = 1 := by
  induction k with
  | zero => simp [adjustments]
  | succ k ih =>
    intro adjustment hmem
    rcases List.mem_append.mp hmem with hmem | hmem
    · exact ih adjustment hmem
    · rw [List.mem_singleton.mp hmem]
      exact nextAdjustment_unit _

theorem sum_adjustments_succ (k : Nat) (cursor : SvBoundedSlewCursor) :
    (adjustments (k + 1) cursor).1.sum =
      (adjustments k cursor).1.sum + (adjustments k cursor).2.nextAdjustment.1 := by
  rw [adjustments, List.sum_append, List.sum_singleton]

/-- The adjustments are exact as long as the accumulator does not wrap. -/
theorem adjustments_run (hrate : 1 ≤ rate) (requested : Int) (k : Nat)
    (hfits : ∀ m < k, m * (boundedCorrection rate requested).natAbs % rate.toNat +
      (boundedCorrection rate requested).natAbs < 2 ^ 32) :
    Armed rate (boundedCorrection rate requested)
        (k * (boundedCorrection rate requested).natAbs % rate.toNat)
        (adjustments k (arm rate requested)).2 ∧
      (adjustments k (arm rate requested)).1.sum = (boundedCorrection rate requested).sign *
        ((k * (boundedCorrection rate requested).natAbs / rate.toNat : Nat) : Int) := by
  have hpos : 0 < rate.toNat := UInt32.le_iff_toNat_le.mp hrate
  obtain ⟨hle, hsmall⟩ := natAbs_boundedCorrection_le rate requested
  induction k with
  | zero =>
    rw [Nat.zero_mul, Nat.zero_mod, Nat.zero_div]
    exact ⟨arm_armed hrate requested, (mul_zero _).symm⟩
  | succ k ih =>
    obtain ⟨harmed, hsum⟩ := ih fun m hm => hfits m (Nat.lt_succ_of_lt hm)
    obtain ⟨hnext, hafter⟩ :=
      nextAdjustment_run hrate hsmall (Nat.mod_lt _ hpos) (hfits k (Nat.lt_succ_self k)) harmed
    rw [Accumulator.step_left hpos hle] at hnext hafter
    refine ⟨hafter, ?_⟩
    have hmono : k * (boundedCorrection rate requested).natAbs / rate.toNat ≤
        (k + 1) * (boundedCorrection rate requested).natAbs / rate.toNat :=
      Nat.div_le_div_right (Nat.mul_le_mul_right _ (Nat.le_succ k))
    rw [sum_adjustments_succ, hsum, hnext, ← Int.mul_add]
    congr 1
    dsimp only
    omega

/-- **The cursor is exact** if and only if its accumulator never wraps. -/
theorem slewExact_iff (hrate : 1 ≤ rate) (requested : Int) :
    SlewExact rate requested ↔
      rate.toNat + (boundedCorrection rate requested).natAbs <
        2 ^ 32 + Nat.gcd rate.toNat (boundedCorrection rate requested).natAbs := by
  have hpos : 0 < rate.toNat := UInt32.le_iff_toNat_le.mp hrate
  obtain ⟨hle, hsmall⟩ := natAbs_boundedCorrection_le rate requested
  constructor
  · intro hexact
    by_contra hwide
    obtain ⟨n, hn⟩ :=
      Accumulator.exists_left_eq hpos (boundedCorrection rate requested).natAbs
    have hex : ∃ n, 2 ^ 32 ≤ n * (boundedCorrection rate requested).natAbs % rate.toNat +
        (boundedCorrection rate requested).natAbs := by
      have hgcd : Nat.gcd rate.toNat (boundedCorrection rate requested).natAbs ≤ rate.toNat :=
        Nat.le_of_dvd hpos (Nat.gcd_dvd_left _ _)
      exact ⟨n, by omega⟩
    -- the first step at which the accumulator wraps
    have hfirst := Nat.find_spec hex
    obtain ⟨harmed, hsum⟩ := adjustments_run hrate requested (Nat.find hex)
      fun m hm => Nat.not_le.mp (Nat.find_min hex hm)
    have hlost := nextAdjustment_wraps hsmall (Nat.mod_lt _ hpos) hfirst harmed
    have hnext := (hexact (Nat.find hex + 1)).1
    rw [sum_adjustments_succ, hsum, hlost, add_zero] at hnext
    have hlt := rate.toNat_lt
    have hcarry := congrArg Prod.fst (Accumulator.step_left hpos hle (Nat.find hex))
    rw [Accumulator.step, if_pos (by omega)] at hcarry
    have hne : (boundedCorrection rate requested).sign ≠ 0 := by
      intro hzero
      have hzero := Int.natAbs_eq_zero.mpr (Int.sign_eq_zero_iff_zero.mp hzero)
      have hleft := Nat.mod_lt (Nat.find hex * (boundedCorrection rate requested).natAbs) hpos
      omega
    have heq := mul_left_cancel₀ hne hnext
    dsimp only at hcarry
    omega
  · intro hfits k
    refine ⟨(adjustments_run hrate requested k fun m _ => ?_).2, adjustments_unit k _⟩
    have := Accumulator.left_le hpos (boundedCorrection rate requested).natAbs m
    omega

/-- The cursor at the highest rate loses a carry. -/
theorem not_slewExact_highest : ¬SlewExact 4294967295 400 := by
  rw [slewExact_iff (by decide)]
  decide

/-! ## A second of the grid -/

/-- The intervals of a second, each with its adjustment, have the ticks of the second and the
correction. -/
def SecondExact (f : UInt64) (r : UInt32) (requested : Int) : Prop :=
  ∃ schedule, RationalTickSchedule.make f r = .ok schedule ∧
    (((schedule.intervals r.toNat).1.map UInt64.toNat).sum : Int) +
      (adjustments r.toNat (arm r requested)).1.sum =
        f.toNat + boundedCorrection r requested

theorem secondExact {f : UInt64} (hrate : 1 ≤ rate) (hschedule : ScheduleExact f rate)
    (hslew : SlewExact rate requested) : SecondExact f rate requested := by
  have hpos : 0 < rate.toNat := UInt32.le_iff_toNat_le.mp hrate
  obtain ⟨schedule, hmake, hexact⟩ := hschedule
  refine ⟨schedule, hmake, ?_⟩
  rw [(hexact rate.toNat).1, (hslew rate.toNat).1, Nat.mul_div_cancel_left _ hpos,
    Nat.mul_div_cancel_left _ hpos, Int.sign_mul_natAbs]

/-- **The sample grid is exact** if and only if the accumulator of the cursor never wraps: the
schedule for every frequency and rate, the cursor for every correction, and a second of both. -/
theorem sampleGrid_exact_iff {f : UInt64} {r : UInt32} (hr : 1 ≤ r) (hf : r.toUInt64 ≤ f)
    (hrate : 1 ≤ rate) (requested : Int) :
    (ScheduleExact f r ∧ SlewExact rate requested ∧
        (rate = r → SecondExact f r requested)) ↔
      rate.toNat + (boundedCorrection rate requested).natAbs <
        2 ^ 32 + Nat.gcd rate.toNat (boundedCorrection rate requested).natAbs := by
  rw [← slewExact_iff hrate requested]
  constructor
  · rintro ⟨-, hslew, -⟩
    exact hslew
  · intro hslew
    refine ⟨scheduleExact hr hf, hslew, ?_⟩
    rintro rfl
    exact secondExact hr (scheduleExact hr hf) hslew

theorem sampleGrid_exact_4kHz :
    ScheduleExact 1000003 4000 ∧ SlewExact 4000 (-37) ∧
      ((4000 : UInt32) = 4000 → SecondExact 1000003 4000 (-37)) :=
  (sampleGrid_exact_iff (by decide) (by decide) (by decide) (-37)).mpr (by decide)

end Cursor

end ArStack.TimeSync
