import ArStack.Lib.History
import ArStack.TimeSync.PtpClockDiscipline

/-!
# The clock discipline is safe

* `Effect`, `step_effect` — what a call can do
* `DisciplineSafe` — what holds of a call, given the calls before it
* `Sound` — the invariant
* `discipline_safe` — every sequence of calls since a reset
-/

namespace ArStack.TimeSync

open ArStack.Lib

namespace PtpClockDiscipline

/-! ## The options -/

/-- What the checks of the options say. -/
structure ValidOptions (options : PtpDisciplineOptions) : Prop where
  lock : 0 < options.lockOffsetThresholdNs.toInt
  unlock : options.lockOffsetThresholdNs.toInt ≤ options.unlockOffsetThresholdNs.toInt
  phase : options.unlockOffsetThresholdNs.toInt ≤ options.phaseStepThresholdNs.toInt
  fault : options.phaseStepThresholdNs.toInt ≤ options.faultOffsetThresholdNs.toInt
  acquisition :
    options.faultOffsetThresholdNs.toInt ≤ options.maximumAcquisitionPhaseStepNs.toInt
  required : options.lockRequiredSamples ≠ 0
  maximum : 0 < options.maximumFrequencyAdjustmentPpb.toInt
  sync : 0 < options.syncTimeout

theorem validOptions_of_validate {options : PtpDisciplineOptions}
    (h : validateOptions options = true) : ValidOptions options := by
  simp only [validateOptions, Bool.and_eq_true, decide_eq_true_eq, ge_iff_le, gt_iff_lt,
    Int64.le_iff_toInt_le, Int64.lt_iff_toInt_lt, Int32.lt_iff_toInt_lt] at h
  obtain ⟨⟨⟨⟨⟨⟨⟨⟨⟨⟨⟨⟨⟨⟨-, -⟩, hlock⟩, hunlock⟩, hphase⟩, hfault⟩, hacquisition⟩, hrequired⟩, -⟩, -⟩,
    hmaximum⟩, -⟩, hsync⟩, -⟩, -⟩ := h
  exact ⟨hlock, hunlock, hphase, hfault, hacquisition, hrequired, hmaximum, hsync⟩

theorem magnitude_le {offset limit : Int64} (hlimit : 0 ≤ limit.toInt) :
    magnitude offset ≤ limit.toUInt64 ↔ offset.toInt.natAbs ≤ limit.toInt := by
  have hlimit := toNat_toUInt64 hlimit
  rw [UInt64.le_iff_toNat_le, magnitude_toNat]
  omega

/-! ## What a call can do -/

/-- The discipline behind a rejected sample, as long as there is no fault. -/
def rejected (d : PtpClockDiscipline) : PtpClockDiscipline :=
  { d with
    status.rejectedSamples := d.status.rejectedSamples + 1
    status.consecutiveQualifiedSamples := 0
    status.consecutiveBadSamples := 0
    consecutiveInvalidSamples := d.consecutiveInvalidSamples + 1 }

/-- What the hysteresis does. -/
inductive Judged (d : PtpClockDiscipline) (m : PtpOffsetMeasurement) : PtpClockDiscipline → Prop where
  | held {qualified bad : UInt32} (hlocked : d.status.state = .locked) :
      Judged d m { d with
        status.consecutiveQualifiedSamples := qualified
        status.consecutiveBadSamples := bad }
  | unlocked {bad : UInt32} (hlocked : d.status.state = .locked) :
      Judged d m { d with
        status.consecutiveQualifiedSamples := 0
        status.consecutiveBadSamples := bad
        status.state := .acquiring
        status.globallyTraceable := false }
  | counted (hstate : d.status.state ≠ .locked)
      (hwithin : magnitude m.offsetFromMasterNs ≤ d.options.lockOffsetThresholdNs.toUInt64)
      (hfew : d.status.consecutiveQualifiedSamples + 1 < d.options.lockRequiredSamples) :
      Judged d m { d with
        status.consecutiveQualifiedSamples := d.status.consecutiveQualifiedSamples + 1 }
  | locked (hstate : d.status.state ≠ .locked)
      (hwithin : magnitude m.offsetFromMasterNs ≤ d.options.lockOffsetThresholdNs.toUInt64)
      (henough : d.options.lockRequiredSamples ≤ d.status.consecutiveQualifiedSamples + 1) :
      Judged d m { d with
        status.consecutiveQualifiedSamples := d.status.consecutiveQualifiedSamples + 1
        status.state := .locked
        status.consecutiveBadSamples := 0
        lockAchievedSinceReset := true }
  | cleared (hstate : d.status.state ≠ .locked) :
      Judged d m { d with status.consecutiveQualifiedSamples := 0 }

theorem judge_judged (d : PtpClockDiscipline) (m : PtpOffsetMeasurement) :
    Judged d m (d.judge m) := by
  rw [judge]
  dsimp only
  split
  · rename_i hlocked
    split
    · split
      · exact .unlocked hlocked
      · exact .held hlocked
    · exact .held hlocked
  · rename_i hstate
    split
    · rename_i hwithin
      split
      · exact .locked hstate hwithin ‹_›
      · exact .counted hstate hwithin (UInt32.not_le.mp ‹_›)
    · exact .cleared hstate

/-- What a tick does. -/
inductive Ticked (d : PtpClockDiscipline) (now : Int) : PtpClockDiscipline → Prop where
  | kept (hage : d.status.state = .locked → ∀ last, d.lastAcceptedSampleTime = some last →
      now - last < (d.options.syncTimeout + 1) * millisecond) : Ticked d now d
  | expired {state : PtpDisciplineState} {qualified : UInt32}
      (hstate : state = .holdover ∧ d.status.state = .locked ∨ state = .unlocked)
      (hbefore : d.status.state ≠ .fault)
      (hqualified : qualified = 0 ∨
        qualified = d.status.consecutiveQualifiedSamples ∧ d.status.state ≠ .locked) :
      Ticked d now { d with
        status.state := state
        status.globallyTraceable := false
        status.consecutiveQualifiedSamples := qualified
        status.consecutiveBadSamples := 0 }

theorem tick_ticked (d : PtpClockDiscipline) (now : Int) (hsync : 0 < d.options.syncTimeout) :
    Ticked d now (d.tick now) := by
  have hkept (hstate : d.status.state ≠ .locked) : Ticked d now d :=
    .kept fun hlocked => absurd hlocked hstate
  rw [tick]
  split
  · rename_i hlast
    exact .kept fun _ last h => (by rw [hlast] at h; cases h)
  · rename_i last hlast
    split
    · rename_i hearly
      refine .kept fun hlocked last' h => ?_
      rw [hlast] at h
      cases h
      rcases hearly with hfault | hnow
      · rw [hlocked] at hfault
        cases hfault
      · have := Int.mul_pos (a := d.options.syncTimeout + 1) (b := millisecond) (by omega) (by decide)
        omega
    cases hstate : d.status.state with
    | unlocked => simpa [hstate] using hkept (by rw [hstate]; decide)
    | fault => exact absurd (Or.inl hstate) ‹_›
    | acquiring =>
      have hne : d.status.state ≠ .locked := by rw [hstate]; decide
      simp only [hstate, reduceCtorEq, false_and, if_false, true_and]
      split
      · exact .expired (.inr rfl) (by rw [hstate]; decide) (.inl rfl)
      · exact hkept hne
    | holdover =>
      have hne : d.status.state ≠ .locked := by rw [hstate]; decide
      simp only [hstate, reduceCtorEq, false_and, if_false, true_and]
      split
      · simp only [reduceCtorEq, false_and, if_false]
        exact .expired (.inr rfl) (by rw [hstate]; decide) (.inr ⟨rfl, hne⟩)
      · simp only [hstate, reduceCtorEq, false_and, if_false]
        exact hkept hne
    | locked =>
      simp only [true_and]
      split
      · simp only [true_and]
        split
        · simp only [reduceCtorEq, false_and, if_false]
          exact .expired (.inr rfl) (by rw [hstate]; decide) (.inl rfl)
        · simp only [reduceCtorEq, false_and, if_false]
          exact .expired (.inl ⟨rfl, hstate⟩) (by rw [hstate]; decide) (.inl rfl)
      · rename_i hage
        simp only [hstate, reduceCtorEq, false_and, if_false]
        refine .kept fun _ last' h => ?_
        rw [hlast] at h
        cases h
        exact Int.lt_mul_of_ediv_lt (by decide) (by omega)

/-- What a call does. -/
inductive Effect (d : PtpClockDiscipline) :
    PtpDisciplineCall → PtpClockCommand → PtpClockDiscipline → Prop where
  | latched {m : PtpOffsetMeasurement} {now : Int} {f : PtpFloatValues}
      (hfault : d.status.state = .fault) : Effect d (.observe m now f) {} d
  | rejected {m : PtpOffsetMeasurement} {now : Int} {f : PtpFloatValues} {d' : PtpClockDiscipline}
      (hd' : d' = d.rejected ∨ d' = d.rejected.fail) : Effect d (.observe m now f) {} d'
  | stepped {m : PtpOffsetMeasurement} {now : Int} {f : PtpFloatValues} {jitterNs : Int64}
      {large : Bool} (hstate : d.status.state ≠ .fault) (hlock : d.lockAchievedSinceReset = false)
      (hbeyond : d.options.phaseStepThresholdNs.toUInt64 < magnitude m.offsetFromMasterNs)
      (hstep : (-m.offsetFromMasterNs).toInt = -m.offsetFromMasterNs.toInt)
      (hlarge : large = true ∧ d.largeAcquisitionPhaseStepUsed = false ∨
        magnitude m.offsetFromMasterNs ≤ d.options.faultOffsetThresholdNs.toUInt64) :
      Effect d (.observe m now f)
        { kind := .stepPhase
          phaseStepNs := -m.offsetFromMasterNs
          frequencyAdjustmentPpb := d.status.frequencyAdjustmentPpb }
        { d.accept m now jitterNs with
          largeAcquisitionPhaseStepUsed := large || d.largeAcquisitionPhaseStepUsed
          status.state := .acquiring
          status.consecutiveQualifiedSamples := 0
          status.phaseSteps := (d.accept m now jitterNs).status.phaseSteps + 1 }
  | slewed {m : PtpOffsetMeasurement} {now : Int} {f : PtpFloatValues} {jitterNs : Int64}
      {d' : PtpClockDiscipline} (hstate : d.status.state ≠ .fault)
      (hjudged : Judged ((d.accept m now jitterNs).frequencyCommand f).2 m d') :
      Effect d (.observe m now f) ((d.accept m now jitterNs).frequencyCommand f).1 d'
  | ticked {now : Int} {d' : PtpClockDiscipline} (hticked : Ticked d now d') :
      Effect d (.tick now) {} d'
  | failed : Effect d .recordActuationFailure {} d.recordActuationFailure
  | revoked : Effect d .revokeGlobalTraceability {} d.revokeGlobalTraceability

theorem rejectSample_cases (d : PtpClockDiscipline) :
    d.rejectSample = d.rejected ∨ d.rejectSample = d.rejected.fail := by
  rw [rejectSample]
  dsimp only
  split
  · exact .inr rfl
  · exact .inl rfl

theorem rejectSample_fail (d : PtpClockDiscipline) : d.rejectSample.fail = d.rejected.fail := by
  rcases d.rejectSample_cases with h | h
  · rw [h]
  · rw [h]
    rfl

/-- The offsets that are stepped have a negative. -/
theorem ne_minValue_of_magnitude {offset limit : Int64} (hlimit : 0 ≤ limit.toInt)
    (h : magnitude offset ≤ limit.toUInt64) : offset ≠ Int64.minValue := by
  rintro rfl
  have hle := (magnitude_le hlimit).mp h
  have hhigh := limit.toInt_lt
  have hmin : Int64.minValue.toInt.natAbs = 2 ^ 63 := rfl
  omega

theorem observe_effect (d : PtpClockDiscipline) (hvalid : ValidOptions d.options)
    (m : PtpOffsetMeasurement) (now : Int) (f : PtpFloatValues) :
    Effect d (.observe m now f) (d.observe m now f).1 (d.observe m now f).2 := by
  obtain ⟨hlock, hunlock, hphase, hfault, hacquisition, -, -, -⟩ := hvalid
  rw [observe]
  split
  · exact .latched ‹_›
  rename_i hstate
  dsimp only
  split
  · refine .rejected ?_
    dsimp only
    split
    · exact .inr d.rejectSample_fail
    · exact d.rejectSample_cases
  rename_i hqualified
  split
  · exact .rejected d.rejectSample_cases
  have hlarge : d.boundedLargeAcquisition m = true ∧ d.largeAcquisitionPhaseStepUsed = false ∧
      magnitude m.offsetFromMasterNs ≤ d.options.maximumAcquisitionPhaseStepNs.toUInt64 ∨
      magnitude m.offsetFromMasterNs ≤ d.options.faultOffsetThresholdNs.toUInt64 := by
    cases hlarge : d.boundedLargeAcquisition m with
    | true =>
      simp only [boundedLargeAcquisition, Bool.and_eq_true, decide_eq_true_eq,
        Bool.not_eq_true'] at hlarge
      exact .inl ⟨rfl, hlarge.1.1.2, hlarge.2⟩
    | false =>
      rw [hlarge] at hqualified
      refine .inr (UInt64.not_lt.mp fun hexceeds => hqualified (.inr (.inr ?_)))
      simpa [exceedsNormalFaultLimit] using hexceeds
  have hmin : m.offsetFromMasterNs ≠ Int64.minValue := by
    rcases hlarge with ⟨-, -, h⟩ | h
    · exact ne_minValue_of_magnitude (by omega) h
    · exact ne_minValue_of_magnitude (by omega) h
  split
  · rename_i hphase
    simp only [Bool.and_eq_true, Bool.not_eq_true', decide_eq_true_eq] at hphase
    rw [stepPhase, checkedSubtract_zero, if_neg hmin]
    exact .stepped hstate hphase.1.1 hphase.2 (toInt_neg hmin)
      (hlarge.imp_left fun h => ⟨h.1, h.2.1⟩)
  · exact .slewed hstate (judge_judged _ m)

theorem step_effect (d : PtpClockDiscipline) (hvalid : ValidOptions d.options)
    (call : PtpDisciplineCall) : Effect d call (d.step call).1 (d.step call).2 := by
  cases call with
  | observe m now f => exact d.observe_effect hvalid m now f
  | tick now => exact .ticked (d.tick_ticked now hvalid.sync)
  | recordActuationFailure => exact .failed
  | revokeGlobalTraceability => exact .revoked

/-! ## What holds of a call -/

abbrev DisciplineStep := Step PtpClockDiscipline PtpDisciplineCall PtpClockCommand

/-- The measurement that a call accepts. -/
def acceptedAt (t : DisciplineStep) : Option (PtpOffsetMeasurement × Int) :=
  match t.event with
  | .observe m now _ =>
    if t.after.status.acceptedSamples = t.before.status.acceptedSamples + 1 then some (m, now)
    else none
  | _ => none

def isObserve (t : DisciplineStep) : Bool :=
  match t.event with
  | .observe _ _ _ => true
  | _ => false

/-- The call accepts a measurement within the lock threshold. -/
def Qualifies (options : PtpDisciplineOptions) (t : DisciplineStep) : Prop :=
  ∃ m now, acceptedAt t = some (m, now) ∧
    m.offsetFromMasterNs.toInt.natAbs ≤ options.lockOffsetThresholdNs.toInt

/-- The last measurement that was accepted. -/
def LastAccepted (past : List DisciplineStep) (m : PtpOffsetMeasurement) (now : Int) : Prop :=
  ∃ earlier t since, past = earlier ++ t :: since ∧ acceptedAt t = some (m, now) ∧
    ∀ u ∈ since, acceptedAt u = none

/-- The last measurement that was accepted is globally traceable, and nothing revoked that. -/
def Traceable (past : List DisciplineStep) : Prop :=
  ∃ earlier t since m now, past = earlier ++ t :: since ∧ acceptedAt t = some (m, now) ∧
    m.globallyTraceable = true ∧
    ∀ u ∈ since, acceptedAt u = none ∧ u.event ≠ .revokeGlobalTraceability

/-- The step, if there is one, is within the fault threshold. -/
def SmallStep (options : PtpDisciplineOptions) (t : DisciplineStep) : Prop :=
  t.output.kind = .stepPhase →
    t.output.phaseStepNs.toInt.natAbs ≤ options.faultOffsetThresholdNs.toInt

/-- What holds of a call, given the calls before it. -/
structure DisciplineSafe (options : PtpDisciplineOptions) (past : List DisciplineStep)
    (t : DisciplineStep) : Prop where
  latched : ∀ u ∈ past, u.after.status.state = .fault →
    t.after.status.state = .fault ∧ t.output = {}
  /-- LOCKED takes a streak of qualified measurements. -/
  locked : t.before.status.state ≠ .locked → t.after.status.state = .locked →
    ∃ streak, streak <:+ past.filter isObserve ∧
      streak.length + 1 = options.lockRequiredSamples.toNat ∧
      ∀ u ∈ streak ++ [t], Qualifies options u
  stepped : t.output.kind = .stepPhase → (∀ u ∈ past, u.after.status.state ≠ .locked) ∧
    ∃ m now, acceptedAt t = some (m, now) ∧
      t.output.phaseStepNs.toInt = -m.offsetFromMasterNs.toInt
  /-- One step at most is a large one. -/
  large : ¬SmallStep options t → ∀ u ∈ past, SmallStep options u
  frequency : t.output.frequencyAdjustmentPpb.toInt.natAbs ≤
    options.maximumFrequencyAdjustmentPpb.toInt
  ticked : ∀ now, t.event = .tick now → t.after.status.state = .locked →
    ∃ m last, LastAccepted past m last ∧ now - last < (options.syncTimeout + 1) * millisecond
  traceable : t.after.measuredSmpSynch = some .globalSynchronized → Traceable (past ++ [t])

/-! ## The invariant -/

/-- The calls that the counter of qualified samples counts. -/
def Streak (options : PtpDisciplineOptions) (past : List DisciplineStep) (n : UInt32) : Prop :=
  n < options.lockRequiredSamples ∧ ∃ streak, streak <:+ past.filter isObserve ∧
    streak.length = n.toNat ∧ ∀ u ∈ streak, Qualifies options u

/-- What the discipline remembers of the calls so far. -/
structure Sound (options : PtpDisciplineOptions) (past : List DisciplineStep)
    (d : PtpClockDiscipline) : Prop where
  configured : d.options = options
  latched : ∀ t ∈ past, t.after.status.state = .fault → d.status.state = .fault
  achieved : d.status.state = .locked ∨ d.status.state = .holdover →
    d.lockAchievedSinceReset = true
  remembered : ∀ t ∈ past, t.after.status.state = .locked → d.lockAchievedSinceReset = true
  streak : d.status.state ≠ .locked → d.status.state ≠ .fault →
    Streak options past d.status.consecutiveQualifiedSamples
  large : d.largeAcquisitionPhaseStepUsed = false → ∀ t ∈ past, SmallStep options t
  frequency : d.status.frequencyAdjustmentPpb.toInt.natAbs ≤
    options.maximumFrequencyAdjustmentPpb.toInt
  accepted : d.status.state = .locked → d.lastAcceptedSampleTime ≠ none
  last : ∀ last, d.lastAcceptedSampleTime = some last → ∃ m, LastAccepted past m last
  traceable : d.status.globallyTraceable = true → Traceable past

section

variable {options : PtpDisciplineOptions} {past : List DisciplineStep} {d d' : PtpClockDiscipline}
  {call : PtpDisciplineCall} {command : PtpClockCommand}

/-- A call that accepts a measurement, or one that does not. -/
theorem Effect.acceptedAt (h : Effect d call command d') :
    (∃ m now, acceptedAt ⟨call, d, command, d'⟩ = some (m, now) ∧
      d'.lastAcceptedSampleTime = some now ∧
      (d'.status.globallyTraceable = true → m.globallyTraceable = true)) ∨
    acceptedAt ⟨call, d, command, d'⟩ = none ∧
      d'.lastAcceptedSampleTime = d.lastAcceptedSampleTime ∧
      (d'.status.globallyTraceable = true →
        d.status.globallyTraceable = true ∧ call ≠ .revokeGlobalTraceability) := by
  have hne (n : UInt64) : n ≠ n + 1 := by grind
  cases h with
  | latched hfault => exact .inr ⟨if_neg (hne _), rfl, fun h => ⟨h, fun hcall => (by cases hcall)⟩⟩
  | rejected hd' =>
    refine .inr ?_
    rcases hd' with rfl | rfl
    · exact ⟨if_neg (hne _), rfl, fun h => ⟨h, fun hcall => (by cases hcall)⟩⟩
    · exact ⟨if_neg (hne _), rfl, fun h => (by cases h)⟩
  | stepped => exact .inl ⟨_, _, if_pos rfl, rfl, id⟩
  | slewed _ hjudged =>
    refine .inl ?_
    cases hjudged <;> exact ⟨_, _, if_pos rfl, rfl, fun h => (by first | exact h | cases h)⟩
  | ticked hticked =>
    refine .inr ⟨rfl, ?_⟩
    cases hticked with
    | kept => exact ⟨rfl, fun h => ⟨h, fun hcall => (by cases hcall)⟩⟩
    | expired => exact ⟨rfl, fun h => (by cases h)⟩
  | failed => exact .inr ⟨rfl, rfl, fun h => (by cases h)⟩
  | revoked => exact .inr ⟨rfl, rfl, fun h => (by cases h)⟩

theorem Effect.stays_fault (h : Effect d call command d') (hfault : d.status.state = .fault) :
    d'.status.state = .fault ∧ command = {} := by
  cases h with
  | latched => exact ⟨hfault, rfl⟩
  | rejected hd' =>
    rcases hd' with rfl | rfl
    · exact ⟨hfault, rfl⟩
    · exact ⟨rfl, rfl⟩
  | stepped hstate => exact absurd hfault hstate
  | slewed hstate => exact absurd hfault hstate
  | ticked hticked =>
    cases hticked with
    | kept => exact ⟨hfault, rfl⟩
    | expired _ hbefore => exact absurd hfault hbefore
  | failed => exact ⟨rfl, rfl⟩
  | revoked => exact ⟨hfault, rfl⟩

theorem streak_zero (hvalid : ValidOptions options) (past : List DisciplineStep) :
    Streak options past 0 := by
  refine ⟨UInt32.pos_iff_ne_zero.mpr hvalid.required, [], List.nil_suffix, rfl, ?_⟩
  exact fun u hu => absurd hu List.not_mem_nil

/-- The streak that the hysteresis meets behind an accepted measurement. -/
theorem Streak.accept (hvalid : ValidOptions options)
    (h : d.status.state ≠ .fault → Streak options past d.status.consecutiveQualifiedSamples)
    (hstate : d.status.state ≠ .fault) (m : PtpOffsetMeasurement) (now : Int) (jitterNs : Int64) :
    Streak options past (d.accept m now jitterNs).status.consecutiveQualifiedSamples := by
  show Streak options past (if _ then 0 else _)
  split
  · exact streak_zero hvalid past
  · exact h hstate

theorem toNat_succ {n required : UInt32} (h : n < required) : (n + 1).toNat = n.toNat + 1 := by
  have hn := UInt32.lt_iff_toNat_lt.mp h
  have hrequired := required.toNat_lt
  have hone : (1 : UInt32).toNat = 1 := rfl
  rw [UInt32.toNat_add, hone]
  omega

/-- A streak and one more measurement. -/
theorem Streak.succ {n : UInt32} (h : Streak options past n) {t : DisciplineStep}
    (ht : Qualifies options t) (hobserve : isObserve t = true)
    (hfew : n + 1 < options.lockRequiredSamples) : Streak options (past ++ [t]) (n + 1) := by
  obtain ⟨hn, streak, ⟨front, hfront⟩, hlength, hqualifies⟩ := h
  refine ⟨hfew, streak ++ [t], ⟨front, ?_⟩, ?_, ?_⟩
  · rw [List.filter_append, List.filter_cons_of_pos hobserve, List.filter_nil, ← hfront,
      List.append_assoc]
  · rw [List.length_append, hlength, toNat_succ hn]
    rfl
  · intro u hu
    rcases List.mem_append.mp hu with hu | hu
    · exact hqualifies u hu
    · rw [List.mem_singleton.mp hu]
      exact ht

/-- The calls that are no measurements do not break a streak. -/
theorem Streak.skip {n : UInt32} (h : Streak options past n) {t : DisciplineStep}
    (hobserve : isObserve t = false) : Streak options (past ++ [t]) n := by
  have hskip : (past ++ [t]).filter isObserve = past.filter isObserve := by
    rw [List.filter_append, List.filter_cons_of_neg (by rw [hobserve]; decide), List.filter_nil,
      List.append_nil]
  rwa [Streak, hskip]

/-- The state behind an accepted measurement is LOCKED only if it was before. -/
theorem accept_locked (d : PtpClockDiscipline) (m : PtpOffsetMeasurement) (now : Int)
    (jitterNs : Int64) :
    (d.accept m now jitterNs).status.state = .locked ↔ d.status.state = .locked := by
  show (if _ then _ else _) = _ ↔ _
  split
  · rename_i hfresh
    rcases hfresh with h | h <;> rw [h] <;> decide
  · rfl

theorem Effect.streak (hvalid : ValidOptions options) (h : Effect d call command d')
    (hoptions : d.options = options)
    (hstreak : d.status.state ≠ .locked → d.status.state ≠ .fault →
      Streak options past d.status.consecutiveQualifiedSamples)
    (hlocked : d'.status.state ≠ .locked) (hfault : d'.status.state ≠ .fault) :
    Streak options (past ++ [⟨call, d, command, d'⟩]) d'.status.consecutiveQualifiedSamples := by
  subst hoptions
  have hzero := streak_zero hvalid (past ++ [⟨call, d, command, d'⟩])
  cases hobserve : isObserve ⟨call, d, command, d'⟩ with
  | false =>
    have hskip (hlocked : d.status.state ≠ .locked) (hfault : d.status.state ≠ .fault) :=
      (hstreak hlocked hfault).skip hobserve
    cases h with
    | ticked hticked =>
      cases hticked with
      | kept => exact hskip hlocked hfault
      | expired _ hbefore hqualified =>
        rcases hqualified with rfl | ⟨rfl, hne⟩
        · exact hzero
        · exact hskip hne hbefore
    | failed => exact absurd rfl hfault
    | revoked => exact hskip hlocked hfault
    | _ => cases hobserve
  | true =>
    cases h with
    | latched h => exact absurd h hfault
    | rejected hd' => rcases hd' with rfl | rfl <;> exact hzero
    | stepped => exact hzero
    | @slewed m now f jitterNs _ hstate hjudged =>
      cases hjudged with
      | held h => exact absurd h hlocked
      | unlocked => exact hzero
      | counted hne hwithin hfew =>
        have hbefore := mt (accept_locked d m now jitterNs).mpr hne
        have hold := Streak.accept hvalid (hstreak hbefore) hstate m now jitterNs
        exact hold.succ ⟨m, now, if_pos rfl, (magnitude_le (Int.le_of_lt hvalid.lock)).mp hwithin⟩ hobserve hfew
      | locked => exact absurd rfl hlocked
      | cleared => exact hzero
    | _ => cases hobserve

/-- LOCKED is entered by the measurement that completes the streak. -/
theorem Effect.locked (hvalid : ValidOptions options) (h : Effect d call command d')
    (hoptions : d.options = options)
    (hstreak : d.status.state ≠ .locked → d.status.state ≠ .fault →
      Streak options past d.status.consecutiveQualifiedSamples)
    (hbefore : d.status.state ≠ .locked) (hlocked : d'.status.state = .locked) :
    ∃ streak, streak <:+ past.filter isObserve ∧
      streak.length + 1 = options.lockRequiredSamples.toNat ∧
      ∀ u ∈ streak ++ [⟨call, d, command, d'⟩], Qualifies options u := by
  subst hoptions
  cases h with
  | latched => exact absurd hlocked hbefore
  | rejected hd' =>
    rcases hd' with rfl | rfl
    · exact absurd hlocked hbefore
    · cases hlocked
  | stepped => cases hlocked
  | @slewed m now f jitterNs _ hstate hjudged =>
    have hne := mt (accept_locked d m now jitterNs).mp hbefore
    cases hjudged with
    | held h => exact absurd h hne
    | unlocked => cases hlocked
    | counted => exact absurd hlocked hne
    | locked _ hwithin henough =>
      have hold := Streak.accept hvalid (hstreak hbefore) hstate m now jitterNs
      obtain ⟨hfew, streak, hsuffix, hlength, hqualifies⟩ := hold
      refine ⟨streak, hsuffix, ?_, fun u hu => ?_⟩
      · have hsucc := toNat_succ hfew
        have hfew := UInt32.lt_iff_toNat_lt.mp hfew
        have henough := UInt32.le_iff_toNat_le.mp henough
        change d.options.lockRequiredSamples.toNat ≤ (_ + 1 : UInt32).toNat at henough
        rw [hlength]
        refine Nat.le_antisymm hfew ?_
        rwa [← hsucc]
      · rcases List.mem_append.mp hu with hu | hu
        · exact hqualifies u hu
        · rw [List.mem_singleton.mp hu]
          exact ⟨m, now, if_pos rfl, (magnitude_le (Int.le_of_lt hvalid.lock)).mp hwithin⟩
    | cleared => exact absurd hlocked hne
  | ticked hticked =>
    cases hticked with
    | kept => exact absurd hlocked hbefore
    | expired hstate =>
      rcases hstate with ⟨rfl, -⟩ | rfl
      · cases hlocked
      · cases hlocked
  | failed => cases hlocked
  | revoked => exact absurd hlocked hbefore

/-- The latch of LOCKED. -/
theorem Effect.achieved (h : Effect d call command d') :
    (d.lockAchievedSinceReset = true → d'.lockAchievedSinceReset = true) ∧
    ((d.status.state = .locked ∨ d.status.state = .holdover → d.lockAchievedSinceReset = true) →
      d'.status.state = .locked ∨ d'.status.state = .holdover →
        d'.lockAchievedSinceReset = true) := by
  cases h with
  | latched => exact ⟨id, id⟩
  | rejected hd' =>
    rcases hd' with rfl | rfl
    · exact ⟨id, id⟩
    · exact ⟨id, fun _ h => (by rcases h with h | h <;> cases h)⟩
  | stepped => exact ⟨id, fun _ h => (by rcases h with h | h <;> cases h)⟩
  | @slewed m now f jitterNs _ hstate hjudged =>
    have hstates : (d.accept m now jitterNs).status.state = .locked ∨
        (d.accept m now jitterNs).status.state = .holdover →
        d.status.state = .locked := by
      show (if _ then _ else _) = _ ∨ (if _ then _ else _) = _ → _
      split
      · rintro (h | h) <;> cases h
      · rename_i hfresh
        rintro (h | h)
        · exact h
        · exact absurd (.inr h) hfresh
    cases hjudged with
    | held => exact ⟨id, fun hd h => hd (.inl (hstates h))⟩
    | unlocked => exact ⟨id, fun _ h => (by rcases h with h | h <;> cases h)⟩
    | counted => exact ⟨id, fun hd h => hd (.inl (hstates h))⟩
    | locked => exact ⟨fun _ => rfl, fun _ _ => rfl⟩
    | cleared => exact ⟨id, fun hd h => hd (.inl (hstates h))⟩
  | ticked hticked =>
    cases hticked with
    | kept => exact ⟨id, id⟩
    | expired hstate =>
      refine ⟨id, fun hd h => ?_⟩
      rcases hstate with ⟨rfl, hlocked⟩ | rfl
      · exact hd (.inl hlocked)
      · rcases h with h | h <;> cases h
  | failed => exact ⟨id, fun _ h => (by rcases h with h | h <;> cases h)⟩
  | revoked => exact ⟨id, id⟩

/-- A phase step is the negative of an accepted offset, and LOCKED has not been reached. -/
theorem Effect.phase (h : Effect d call command d') (hkind : command.kind = .stepPhase) :
    d.lockAchievedSinceReset = false ∧ ∃ m now,
      PtpClockDiscipline.acceptedAt ⟨call, d, command, d'⟩ = some (m, now) ∧
        command.phaseStepNs.toInt = -m.offsetFromMasterNs.toInt := by
  cases h with
  | stepped _ hlock _ hstep => exact ⟨hlock, _, _, if_pos rfl, hstep⟩
  | _ => cases hkind

/-- The latch of the large step. -/
theorem Effect.large (hvalid : ValidOptions options) (h : Effect d call command d')
    (hoptions : d.options = options) :
    (d'.largeAcquisitionPhaseStepUsed = false → d.largeAcquisitionPhaseStepUsed = false ∧
      SmallStep options ⟨call, d, command, d'⟩) ∧
    (¬SmallStep options ⟨call, d, command, d'⟩ → d.largeAcquisitionPhaseStepUsed = false) := by
  subst hoptions
  have hnone (hkind : command.kind ≠ .stepPhase) (hlarge : d'.largeAcquisitionPhaseStepUsed =
      d.largeAcquisitionPhaseStepUsed) :
      (d'.largeAcquisitionPhaseStepUsed = false → d.largeAcquisitionPhaseStepUsed = false ∧
        SmallStep d.options ⟨call, d, command, d'⟩) ∧
      (¬SmallStep d.options ⟨call, d, command, d'⟩ → d.largeAcquisitionPhaseStepUsed = false) :=
    ⟨fun h => ⟨hlarge ▸ h, fun hstep => absurd hstep hkind⟩,
      fun h => absurd (fun hstep => absurd hstep hkind) h⟩
  cases h with
  | @stepped m _ _ _ large _ _ _ hstep hlarge =>
    have hsmall : magnitude m.offsetFromMasterNs ≤ d.options.faultOffsetThresholdNs.toUInt64 →
        (-m.offsetFromMasterNs).toInt.natAbs ≤ d.options.faultOffsetThresholdNs.toInt := fun h => by
      obtain ⟨hlock, hunlock, hphase, hfault, -, -, -, -⟩ := hvalid
      rw [hstep, Int.natAbs_neg]
      exact (magnitude_le (by omega)).mp h
    rcases hlarge with ⟨rfl, hunused⟩ | h
    · exact ⟨fun h => (by cases h), fun _ => hunused⟩
    · refine ⟨fun hunused => ⟨?_, fun _ => hsmall h⟩, fun hnot => absurd (fun _ => hsmall h) hnot⟩
      exact (Bool.or_eq_false_iff.mp hunused).2
  | rejected hd' => rcases hd' with rfl | rfl <;> exact hnone (by decide) rfl
  | slewed _ hjudged => cases hjudged <;> exact hnone PtpClockCommandKind.noConfusion rfl
  | ticked hticked => cases hticked <;> exact hnone (by decide) rfl
  | _ => exact hnone (by decide) rfl

/-- The servo stays within the maximum. -/
theorem bounded_le {maximum : Int32} (hmaximum : 0 < maximum.toInt) (rounded : Int64) :
    (clamp rounded (-maximum.toInt64) maximum.toInt64).toInt32.toInt.natAbs ≤ maximum.toInt := by
  have hhigh := maximum.toInt_lt
  have hmax : maximum.toInt64.toInt = maximum.toInt := Int32.toInt_toInt64 maximum
  have hneg : (-maximum.toInt64).toInt = -maximum.toInt := by
    rw [Int64.toInt_neg, hmax, bmod_of_mem (by omega) (by omega)]
  have hclamp : -maximum.toInt ≤ (clamp rounded (-maximum.toInt64) maximum.toInt64).toInt ∧
      (clamp rounded (-maximum.toInt64) maximum.toInt64).toInt ≤ maximum.toInt := by
    rw [clamp]
    split
    · omega
    · rename_i hlow
      rw [Int64.lt_iff_toInt_lt] at hlow
      split
      · omega
      · rename_i hhigh
        rw [Int64.lt_iff_toInt_lt] at hhigh
        omega
  rw [Int64.toInt_toInt32, Int.bmod_eq_of_le (by omega) (by omega)]
  omega

theorem Effect.frequency (hvalid : ValidOptions options) (h : Effect d call command d')
    (hoptions : d.options = options)
    (hbefore : d.status.frequencyAdjustmentPpb.toInt.natAbs ≤
      options.maximumFrequencyAdjustmentPpb.toInt) :
    command.frequencyAdjustmentPpb.toInt.natAbs ≤ options.maximumFrequencyAdjustmentPpb.toInt ∧
      d'.status.frequencyAdjustmentPpb.toInt.natAbs ≤
        options.maximumFrequencyAdjustmentPpb.toInt := by
  subst hoptions
  have hzero : ((0 : Int32).toInt.natAbs : Int) ≤ d.options.maximumFrequencyAdjustmentPpb.toInt :=
    Int.le_of_lt hvalid.maximum
  cases h with
  | rejected hd' => rcases hd' with rfl | rfl <;> exact ⟨hzero, hbefore⟩
  | stepped => exact ⟨hbefore, hbefore⟩
  | @slewed _ _ f _ _ _ hjudged =>
    have hbounded := bounded_le hvalid.maximum f.rounded
    cases hjudged <;> exact ⟨hbounded, hbounded⟩
  | ticked hticked => cases hticked <;> exact ⟨hzero, hbefore⟩
  | _ => exact ⟨hzero, hbefore⟩

theorem Effect.configured (h : Effect d call command d') : d'.options = d.options := by
  cases h with
  | rejected hd' => rcases hd' with rfl | rfl <;> rfl
  | slewed _ hjudged => cases hjudged <;> rfl
  | ticked hticked => cases hticked <;> rfl
  | _ => rfl

/-! ## Every sequence of calls -/

theorem LastAccepted.skip {m : PtpOffsetMeasurement} {now : Int} (h : LastAccepted past m now)
    {t : DisciplineStep} (ht : PtpClockDiscipline.acceptedAt t = none) :
    LastAccepted (past ++ [t]) m now := by
  obtain ⟨earlier, u, since, rfl, hu, hsince⟩ := h
  refine ⟨earlier, u, since ++ [t], by rw [List.append_assoc, List.cons_append], hu, fun v hv => ?_⟩
  rcases List.mem_append.mp hv with hv | hv
  · exact hsince v hv
  · rw [List.mem_singleton.mp hv]
    exact ht

theorem Traceable.skip (h : Traceable past) {t : DisciplineStep}
    (ht : PtpClockDiscipline.acceptedAt t = none) (hevent : t.event ≠ .revokeGlobalTraceability) :
    Traceable (past ++ [t]) := by
  obtain ⟨earlier, u, since, m, now, rfl, hu, hm, hsince⟩ := h
  refine ⟨earlier, u, since ++ [t], m, now, by rw [List.append_assoc, List.cons_append], hu, hm,
    fun v hv => ?_⟩
  rcases List.mem_append.mp hv with hv | hv
  · exact hsince v hv
  · rw [List.mem_singleton.mp hv]
    exact ⟨ht, hevent⟩

theorem sound_step (hvalid : ValidOptions options) (h : Sound options past d)
    (call : PtpDisciplineCall) :
    Sound options (past ++ [stepOn step d call]) (d.step call).2 := by
  have heffect := d.step_effect (h.configured ▸ hvalid) call
  rw [stepOn]
  generalize (d.step call).1 = command at heffect ⊢
  generalize (d.step call).2 = d' at heffect ⊢
  have hlast {P : DisciplineStep → Prop} (hpast : ∀ u ∈ past, P u) (ht : P ⟨call, d, command, d'⟩) :
      ∀ u ∈ past ++ [⟨call, d, command, d'⟩], P u := fun u hu => by
    rcases List.mem_append.mp hu with hu | hu
    · exact hpast u hu
    · rwa [List.mem_singleton.mp hu]
  have hunused := (heffect.large hvalid h.configured).1
  constructor
  case configured => exact heffect.configured.trans h.configured
  case latched =>
    exact hlast (fun u hu hfault => (heffect.stays_fault (h.latched u hu hfault)).1) id
  case achieved => exact heffect.achieved.2 h.achieved
  case remembered =>
    exact hlast (fun u hu hlocked => heffect.achieved.1 (h.remembered u hu hlocked))
      fun hlocked => heffect.achieved.2 h.achieved (.inl hlocked)
  case streak => exact heffect.streak hvalid h.configured h.streak
  case large => exact fun h' => hlast (h.large (hunused h').1) (hunused h').2
  case frequency => exact (heffect.frequency hvalid h.configured h.frequency).2
  case accepted =>
    intro hlocked
    by_cases hbefore : d.status.state = .locked
    · rcases heffect.acceptedAt with ⟨m, now, -, hnow, -⟩ | ⟨-, hsame, -⟩
      · rw [hnow]
        exact Option.some_ne_none _
      · rw [hsame]
        exact h.accepted hbefore
    · -- the call that enters LOCKED is an accepted measurement
      obtain ⟨streak, -, -, hqualifies⟩ :=
        heffect.locked hvalid h.configured h.streak hbefore hlocked
      obtain ⟨m, now, haccepted, -⟩ :=
        hqualifies _ (List.mem_append_right _ (List.mem_singleton_self _))
      rcases heffect.acceptedAt with ⟨m, now, -, hnow, -⟩ | ⟨hnone, -, -⟩
      · rw [hnow]
        exact Option.some_ne_none _
      · rw [hnone] at haccepted
        cases haccepted
  case last =>
    intro last hlast'
    rcases heffect.acceptedAt with ⟨m, now, haccepted, hnow, -⟩ | ⟨hnone, hsame, -⟩
    · rw [hnow] at hlast'
      cases hlast'
      exact ⟨m, past, _, [], rfl, haccepted, fun u hu => absurd hu List.not_mem_nil⟩
    · obtain ⟨m, hm⟩ := h.last last (hsame ▸ hlast')
      exact ⟨m, hm.skip hnone⟩
  case traceable =>
    intro htraceable
    rcases heffect.acceptedAt with ⟨m, now, haccepted, -, hm⟩ | ⟨hnone, -, hsame⟩
    · exact ⟨past, _, [], m, now, rfl, haccepted, hm htraceable,
        fun u hu => absurd hu List.not_mem_nil⟩
    · obtain ⟨hbefore, hcall⟩ := hsame htraceable
      exact (h.traceable hbefore).skip hnone hcall

theorem safe_step (hvalid : ValidOptions options) (h : Sound options past d)
    (call : PtpDisciplineCall) : DisciplineSafe options past (stepOn step d call) := by
  have hsound := sound_step hvalid h call
  have heffect := d.step_effect (h.configured ▸ hvalid) call
  constructor
  case latched => exact fun u hu hfault => heffect.stays_fault (h.latched u hu hfault)
  case locked => exact heffect.locked hvalid h.configured h.streak
  case stepped =>
    intro hkind
    obtain ⟨hlock, hphase⟩ := heffect.phase hkind
    refine ⟨fun u hu hlocked => ?_, hphase⟩
    rw [h.remembered u hu hlocked] at hlock
    cases hlock
  case large => exact fun hlarge => h.large ((heffect.large hvalid h.configured).2 hlarge)
  case frequency => exact (heffect.frequency hvalid h.configured h.frequency).1
  case ticked =>
    intro now hevent hlocked
    change call = .tick now at hevent
    subst hevent
    have hticked := d.tick_ticked now (h.configured ▸ hvalid.sync)
    change (d.tick now).status.state = .locked at hlocked
    generalize d.tick now = d' at hticked hlocked
    cases hticked with
    | kept hage =>
      obtain ⟨last, hlast⟩ := Option.ne_none_iff_exists'.mp (h.accepted hlocked)
      obtain ⟨m, hm⟩ := h.last last hlast
      exact ⟨m, last, hm, h.configured ▸ hage hlocked last hlast⟩
    | expired hstate =>
      rcases hstate with ⟨rfl, -⟩ | rfl
      · cases hlocked
      · cases hlocked
  case traceable =>
    intro hglobal
    refine hsound.traceable ?_
    change (d.step call).2.measuredSmpSynch = _ at hglobal
    rw [measuredSmpSynch] at hglobal
    split at hglobal
    · split at hglobal
      · assumption
      · cases hglobal
    · split at hglobal
      · cases hglobal
      · cases hglobal

/-- A discipline to which nothing has happened since it was made or reset. -/
def Fresh (options : PtpDisciplineOptions) (d : PtpClockDiscipline) : Prop :=
  d = create options ∨ ∃ d₀ : PtpClockDiscipline, d₀.options = options ∧ d = d₀.reset

theorem sound_fresh (hvalid : validateOptions options = true) (h : Fresh options d) :
    Sound options [] d := by
  have hd : d = { options } := by
    rcases h with rfl | ⟨d₀, rfl, rfl⟩
    · rw [create, if_pos hvalid]
    · rfl
  subst hd
  have hvalid := validOptions_of_validate hvalid
  refine ⟨rfl, ?_, ?_, ?_, fun _ _ => streak_zero hvalid [], ?_, Int.le_of_lt hvalid.maximum, ?_, ?_,
    fun h => (by cases h)⟩
  · exact fun u hu => absurd hu List.not_mem_nil
  · exact fun h => (by rcases h with h | h <;> cases h)
  · exact fun u hu => absurd hu List.not_mem_nil
  · exact fun _ u hu => absurd hu List.not_mem_nil
  · exact fun h => (by cases h)
  · exact fun last h => (by cases h)

/-- **The discipline is safe**, for any options that pass the checks and any calls since the last
reset. -/
theorem discipline_safe (hvalid : validateOptions options = true) (hfresh : Fresh options d)
    {calls : List PtpDisciplineCall} {past future : List DisciplineStep} {t : DisciplineStep}
    (hrun : history step d calls = past ++ t :: future) : DisciplineSafe options past t := by
  have hvalid' := validOptions_of_validate hvalid
  refine history_rule (R := fun _ _ => True) (Sound options) (DisciplineSafe options) ?_
    (List.pairwise_of_forall fun _ _ => trivial) (sound_fresh hvalid hfresh) hrun
  exact fun past d call h _ => ⟨safe_step hvalid' h call, sound_step hvalid' h call⟩

end

/-- Two measurements suffice for LOCKED. -/
def sampleOptions : PtpDisciplineOptions := { lockRequiredSamples := 2 }

def sampleMeasurement : PtpOffsetMeasurement := { offsetFromMasterNs := 500, globallyTraceable := true }

/-- A large step, then LOCKED. -/
def sampleCalls : List PtpDisciplineCall :=
  [.observe { offsetFromMasterNs := 1000000000000000000 } 0 ⟨0, 0⟩,
    .observe sampleMeasurement 1000 ⟨0, -250⟩, .tick 2000, .observe sampleMeasurement 3000 ⟨0, -250⟩]

theorem discipline_safe_sample :
    let run := history step (create sampleOptions) sampleCalls
    run.getLast?.map (·.after.measuredSmpSynch) = some (some .globalSynchronized) ∧
      ∀ t ∈ run.getLast?, DisciplineSafe sampleOptions run.dropLast t := by
  refine ⟨by decide, fun t ht => ?_⟩
  exact discipline_safe (by decide) (.inl rfl) (List.dropLast_append_getLast? t ht).symm

end PtpClockDiscipline

end ArStack.TimeSync
