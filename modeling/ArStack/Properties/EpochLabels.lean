import ArStack.Lib.History
import ArStack.TimeSync.SvPtpPhaseAuthority
import Mathlib.Algebra.Order.Group.Abs
import Mathlib.Data.UInt
import Mathlib.Tactic.Ring

/-!
# The seconds of the epochs

Every epoch that the phase authority accepts is given the PTP second it belongs to; epochs accepted
one after the other are given seconds one after the other, and what was learned from one does not
survive a rejection.

* `readPhase_ok` — the second and the phase of an epoch
* `Knows` — what the authority knows of the last observations
* `epochs_labelled`
-/

namespace ArStack.TimeSync

open ArStack.Lib

/-! ## One reading -/

/-- How long before the middle of the bracket the last epoch was. -/
def SvPtpPhaseObservation.age (o : SvPtpPhaseObservation) : UInt32 :=
  o.timerBeforeTicks + (o.timerAfterTicks - o.timerBeforeTicks) / 2 - o.lastSvEpochTicks

theorem signedDeltaU32_eq {newer older : UInt32} (h : (older - newer).toNat < 2147483648) :
    signedDeltaU32 newer older = -((older - newer).toNat : Int) := by
  have hnewer := newer.toNat_lt
  have holder := older.toNat_lt
  have hback := UInt32.toNat_sub newer older
  have hforth := UInt32.toNat_sub older newer
  rw [signedDeltaU32]
  split
  · rename_i hle
    have hle : (newer - older).toNat ≤ 2147483647 := UInt32.le_iff_toNat_le.mp hle
    omega
  · rename_i hgt
    have hgt : 2147483647 < (newer - older).toNat :=
      UInt32.lt_iff_toNat_lt.mp (UInt32.not_le.mp hgt)
    omega

theorem epochSecond_ok {shift : Int} {ptpSeconds second : UInt64}
    (h : epochSecond shift ptpSeconds = some second) :
    (second.toNat : Int) = ptpSeconds.toNat + shift := by
  rw [epochSecond, Option.ite_none_left_eq_some] at h
  obtain ⟨hshift, h⟩ := h
  simp only [not_or, not_and, Int.not_lt] at hshift
  obtain ⟨hlow, hhigh, hzero, hmax⟩ := hshift
  have hlt := ptpSeconds.toNat_lt
  by_cases hneg : shift < 0
  · rw [if_pos hneg] at h
    obtain rfl := Option.some.inj h
    have hpos : ptpSeconds.toNat ≠ 0 := fun h => hzero hneg (UInt64.toNat_inj.mp h)
    have hsub : (ptpSeconds - 1).toNat = ptpSeconds.toNat - 1 :=
      UInt64.toNat_sub_of_le _ _ (UInt64.le_iff_toNat_le.mpr (Nat.one_le_iff_ne_zero.mpr hpos))
    omega
  · rw [if_neg hneg] at h
    obtain rfl := Option.some.inj h
    obtain rfl | rfl : shift = 0 ∨ shift = 1 := by omega
    · change ((ptpSeconds + 0).toNat : Int) = _
      rw [UInt64.add_zero, Int.add_zero]
    · have hne : ptpSeconds.toNat ≠ 18446744073709551615 := fun h =>
        hmax Int.one_pos (UInt64.toNat_inj.mp h)
      have hadd : (ptpSeconds + 1).toNat = (ptpSeconds.toNat + 1) % 2 ^ 64 :=
        UInt64.toNat_add ptpSeconds 1
      change ((ptpSeconds + 1).toNat : Int) = _
      omega

/-- **The second and the phase of an epoch** say when it was. -/
theorem readPhase_ok {policy : SvPtpPhasePolicy} {o : SvPtpPhaseObservation}
    {reading : SvPtpPhaseReading} (h : readPhase policy o = some reading) :
    (reading.svEpochSecond.toNat : Int) * 1000000 + reading.phase =
        o.ptpSeconds.toNat * 1000000 + o.ptpNanoseconds.toNat / 1000 - o.age.toNat ∧
      |reading.phase| ≤ policy.maximumPhaseErrorUs := by
  rw [readPhase, Option.ite_none_left_eq_some] at h
  obtain ⟨-, h⟩ := h
  dsimp only at h
  rw [Option.ite_none_left_eq_some] at h
  obtain ⟨-, h⟩ := h
  rw [Option.ite_none_left_eq_some] at h
  obtain ⟨hage, h⟩ := h
  rw [← SvPtpPhaseObservation.age] at hage
  have hage : o.age.toNat ≤ 1100000 := UInt32.le_iff_toNat_le.mp (UInt32.not_lt.mp hage)
  have hdelta : signedDeltaU32 o.lastSvEpochTicks
      (o.timerBeforeTicks + (o.timerAfterTicks - o.timerBeforeTicks) / 2) =
        -(o.age.toNat : Int) :=
    signedDeltaU32_eq (show o.age.toNat < 2147483648 by omega)
  have hmicroseconds : (o.ptpNanoseconds / 1000).toNat = o.ptpNanoseconds.toNat / 1000 :=
    UInt32.toNat_div _ _
  rw [hdelta, hmicroseconds] at h
  generalize hraw : -(o.age.toNat : Int) + ((o.ptpNanoseconds.toNat / 1000 : Nat) : Int) = raw at h
  generalize (if raw ≥ 0 then (raw + 500000).tdiv 1000000
    else (raw - 500000).tdiv 1000000) = shift at h
  cases hsecond : epochSecond shift o.ptpSeconds with
  | none =>
    rw [hsecond] at h
    cases h
  | some second =>
    rw [hsecond] at h
    dsimp only at h
    rw [Option.ite_none_left_eq_some] at h
    obtain ⟨hmaximum, h⟩ := h
    obtain rfl := Option.some.inj h
    have hsecond := epochSecond_ok hsecond
    refine ⟨?_, ?_⟩
    · dsimp only
      push_cast at hraw
      rw [hsecond, ← hraw]
      ring
    · rw [Int.abs_eq_natAbs]
      exact Int.not_lt.mp hmaximum

/-! ## One observation -/

namespace SvPtpPhaseAuthority

variable (authority : SvPtpPhaseAuthority) (o : SvPtpPhaseObservation)

/-- **Everything that an observation can do**: it is rejected, or accepted. -/
theorem observe_cases :
    authority.observe o = authority.invalidate ∨
    ∃ reading, readPhase authority.policy o = some reading ∧
      (authority.havePrevious = true → authority.follows o reading = true) ∧
      authority.observe o = authority.accept o reading := by
  rw [observe]
  cases hreading : readPhase authority.policy o with
  | none => exact .inl rfl
  | some reading =>
    dsimp only
    split
    · exact .inl rfl
    · rename_i hfollows
      refine .inr ⟨reading, rfl, fun hprevious => ?_, rfl⟩
      rw [hprevious] at hfollows
      simpa using hfollows

variable {authority o} {reading : SvPtpPhaseReading}

/-- What an observation that follows another one has passed. -/
theorem follows_ok (h : authority.follows o reading = true) :
    o.lastSvEpochGeneration - authority.previousEpochGeneration = 1 ∧
      reading.svEpochSecond.toNat = authority.previousSvEpochPtpSecond.toNat + 1 := by
  rw [follows] at h
  split at h
  · exact Bool.noConfusion h
  rename_i hnot
  simp only [not_or, Decidable.not_not, ne_eq] at hnot
  obtain ⟨hgeneration, hlater, hnext, -⟩ := hnot
  have hlater := UInt64.not_le.mp hlater
  have hnat := congrArg UInt64.toNat hnext
  rw [UInt64.toNat_sub_of_le _ _ (UInt64.le_of_lt hlater)] at hnat
  have hlt := UInt64.lt_iff_toNat_lt.mp hlater
  have hone : (1 : UInt64).toNat = 1 := rfl
  exact ⟨hgeneration, by omega⟩

theorem clampInt_abs_le {value limit : Int} (h : 0 ≤ limit) :
    |clampInt value (-limit) limit| ≤ limit := by
  rw [clampInt, abs_le]
  split
  · omega
  · split <;> omega

/-- **What is decided on an observation that is accepted.** -/
theorem accept_decision (authority : SvPtpPhaseAuthority) (o : SvPtpPhaseObservation)
    (reading : SvPtpPhaseReading) :
    let accepted := authority.accept o reading
    accepted.1.accepted = true ∧ accepted.1.phaseErrorUs = reading.phase ∧
      accepted.1.observationUncertaintyUs = reading.uncertainty ∧
      accepted.1.svEpochPtpSecond = reading.svEpochSecond ∧
      (accepted.1.epochSecondContinuous = true ∨ accepted.1.slewTicksNextEpoch ≠ 0 →
        authority.havePrevious = true) ∧
      (accepted.1.softwareTracking = true →
        authority.policy.consecutiveTrackingSamples ≤ authority.countTracking reading) ∧
      (0 ≤ authority.policy.maximumSlewPerSecondUs →
        |accepted.1.slewTicksNextEpoch| ≤ authority.policy.maximumSlewPerSecondUs) := by
  rw [accept]
  dsimp only
  cases hprevious : authority.havePrevious with
  | false =>
    rw [Bool.not_false, if_pos rfl]
    refine ⟨rfl, rfl, rfl, rfl, fun h => ?_, fun h => Bool.noConfusion h, fun h => ?_⟩
    · rcases h with h | h
      · exact h
      · exact absurd rfl h
    · rwa [abs_zero]
  | true =>
    rw [Bool.not_true, if_neg Bool.false_ne_true]
    refine ⟨rfl, rfl, rfl, rfl, fun _ => rfl, fun h => ?_, clampInt_abs_le⟩
    by_contra hlt
    rw [if_neg hlt] at h
    exact Bool.noConfusion h

/-- **What is known after an observation that is accepted.** -/
theorem accept_state (authority : SvPtpPhaseAuthority) (o : SvPtpPhaseObservation)
    (reading : SvPtpPhaseReading) :
    let after := (authority.accept o reading).2
    after.policy = authority.policy ∧ after.havePrevious = true ∧
      after.previousEpochGeneration = o.lastSvEpochGeneration ∧
      after.previousSvEpochPtpSecond = reading.svEpochSecond ∧
      after.trackingSamples = authority.countTracking reading := by
  rw [accept]
  dsimp only
  split
  · exact ⟨rfl, rfl, rfl, rfl, rfl⟩
  · exact ⟨rfl, rfl, rfl, rfl, rfl⟩

end SvPtpPhaseAuthority

/-! ## Runs -/

abbrev EpochStep := Step SvPtpPhaseAuthority SvPtpPhaseObservation SvPtpPhaseDecision

/-- The epoch is accepted, and close enough to the second whatever it was in the bracket. -/
def WithinThreshold (policy : SvPtpPhasePolicy) (decision : SvPtpPhaseDecision) : Prop :=
  decision.accepted = true ∧
    |decision.phaseErrorUs| + decision.observationUncertaintyUs.toNat ≤
      policy.softwareTrackingThresholdUs

/-- What is decided on an observation, after the ones before it. -/
structure EpochLabelled (policy : SvPtpPhasePolicy) (past : List EpochStep) (step : EpochStep) :
    Prop where
  label : step.output.accepted = true →
    (step.output.svEpochPtpSecond.toNat : Int) * 1000000 + step.output.phaseErrorUs =
      step.event.ptpSeconds.toNat * 1000000 + step.event.ptpNanoseconds.toNat / 1000 -
        step.event.age.toNat ∧
    |step.output.phaseErrorUs| ≤ policy.maximumPhaseErrorUs
  consecutive : ∀ previous ∈ past.getLast?, previous.output.accepted = true →
    step.output.accepted = true →
    step.event.lastSvEpochGeneration - previous.event.lastSvEpochGeneration = 1 ∧
      step.output.svEpochPtpSecond.toNat = previous.output.svEpochPtpSecond.toNat + 1
  steering : step.output.epochSecondContinuous = true ∨ step.output.slewTicksNextEpoch ≠ 0 →
    step.output.accepted = true ∧ ∃ previous ∈ past.getLast?, previous.output.accepted = true
  slew : |step.output.slewTicksNextEpoch| ≤ policy.maximumSlewPerSecondUs
  tracking : step.output.softwareTracking = true → ∃ latest, latest <:+ past ++ [step] ∧
    latest.length = policy.consecutiveTrackingSamples.toNat ∧
    ∀ observed ∈ latest, WithinThreshold policy observed.output

/-- What the authority knows of the last observations. -/
structure KnowsEpochs (policy : SvPtpPhasePolicy) (past : List EpochStep)
    (authority : SvPtpPhaseAuthority) : Prop where
  samePolicy : authority.policy = policy
  previous : authority.havePrevious = true → ∃ step ∈ past.getLast?, step.output.accepted = true ∧
    authority.previousEpochGeneration = step.event.lastSvEpochGeneration ∧
    authority.previousSvEpochPtpSecond = step.output.svEpochPtpSecond
  rejected : authority.havePrevious = false →
    ∀ step ∈ past.getLast?, step.output.accepted = false
  trackingSamples : authority.trackingSamples.toNat ≤ policy.consecutiveTrackingSamples.toNat
  within : ∃ latest, latest <:+ past ∧ latest.length = authority.trackingSamples.toNat ∧
    ∀ step ∈ latest, WithinThreshold policy step.output

namespace KnowsEpochs

variable {policy : SvPtpPhasePolicy} {past : List EpochStep} {authority : SvPtpPhaseAuthority}

/-- **After a rejection** nothing is known. -/
theorem invalidate (h : KnowsEpochs policy past authority) (o : SvPtpPhaseObservation)
    (hobserve : authority.observe o = authority.invalidate) :
    KnowsEpochs policy (past ++ [stepOn SvPtpPhaseAuthority.observe authority o])
      (authority.observe o).2 := by
  have houtput : (stepOn SvPtpPhaseAuthority.observe authority o).output.accepted = false := by
    rw [stepOn, hobserve]
    rfl
  rw [hobserve]
  refine ⟨h.samePolicy, fun hprevious => Bool.noConfusion hprevious, fun _ step hstep => ?_,
    Nat.zero_le _, ⟨[], List.nil_suffix, rfl, fun step hstep => absurd hstep List.not_mem_nil⟩⟩
  rw [List.getLast?_concat] at hstep
  obtain rfl := Option.some.inj hstep
  exact houtput

theorem labelled_invalidate (past : List EpochStep) (hslew : 0 ≤ policy.maximumSlewPerSecondUs)
    (o : SvPtpPhaseObservation) (hobserve : authority.observe o = authority.invalidate) :
    EpochLabelled policy past (stepOn SvPtpPhaseAuthority.observe authority o) := by
  have houtput : (stepOn SvPtpPhaseAuthority.observe authority o).output =
      (authority.invalidate).1 := congrArg Prod.fst hobserve
  have hrejected : ¬(stepOn SvPtpPhaseAuthority.observe authority o).output.accepted = true := by
    rw [houtput]
    exact Bool.false_ne_true
  refine ⟨fun haccepted => absurd haccepted hrejected,
    fun _ _ _ haccepted => absurd haccepted hrejected, ?_, ?_, ?_⟩
  · rw [houtput]
    rintro (h | h)
    · exact Bool.noConfusion h
    · exact absurd rfl h
  · rw [houtput]
    exact abs_zero.trans_le hslew
  · rw [houtput]
    exact fun h => Bool.noConfusion h

/-- The observations within the threshold, after one more. -/
theorem countTracking_le (h : KnowsEpochs policy past authority) (reading : SvPtpPhaseReading) :
    (authority.countTracking reading).toNat ≤ policy.consecutiveTrackingSamples.toNat := by
  have hle := h.trackingSamples
  rw [SvPtpPhaseAuthority.countTracking, h.samePolicy]
  split
  · split
    · rename_i hlt
      have hlt := UInt32.lt_iff_toNat_lt.mp hlt
      have hmax := policy.consecutiveTrackingSamples.toNat_lt
      have hone : (1 : UInt32).toNat = 1 := rfl
      rw [UInt32.toNat_add, hone]
      omega
    · exact hle
  · exact Nat.zero_le _

theorem within_concat (h : KnowsEpochs policy past authority) {reading : SvPtpPhaseReading}
    {step : EpochStep} (haccepted : step.output.accepted = true)
    (hphase : step.output.phaseErrorUs = reading.phase)
    (huncertainty : step.output.observationUncertaintyUs = reading.uncertainty) :
    ∃ latest, latest <:+ past ++ [step] ∧
      latest.length = (authority.countTracking reading).toNat ∧
      ∀ observed ∈ latest, WithinThreshold policy observed.output := by
  rw [SvPtpPhaseAuthority.countTracking, h.samePolicy]
  split
  swap
  · exact ⟨[], List.nil_suffix, rfl, fun step hstep => absurd hstep List.not_mem_nil⟩
  rename_i hthreshold
  obtain ⟨latest, ⟨front, rfl⟩, hlength, hwithin⟩ := h.within
  have hstep : WithinThreshold policy step.output :=
    ⟨haccepted, by rw [hphase, huncertainty, Int.abs_eq_natAbs]; exact hthreshold⟩
  have hall : ∀ observed ∈ latest ++ [step], WithinThreshold policy observed.output := by
    rw [List.forall_mem_append, List.forall_mem_singleton]
    exact ⟨hwithin, hstep⟩
  have hsuffix : latest ++ [step] <:+ front ++ latest ++ [step] := ⟨front, by simp⟩
  split
  · rename_i hlt
    have hlt := UInt32.lt_iff_toNat_lt.mp hlt
    have hmax := policy.consecutiveTrackingSamples.toNat_lt
    have hone : (1 : UInt32).toNat = 1 := rfl
    refine ⟨latest ++ [step], hsuffix, ?_, hall⟩
    rw [UInt32.toNat_add, hone, List.length_append, hlength, List.length_singleton]
    omega
  · -- there are enough already, and the first one is left out
    refine ⟨(latest ++ [step]).drop 1, (List.drop_suffix _ _).trans hsuffix, ?_,
      fun observed hobserved => hall observed (List.mem_of_mem_drop hobserved)⟩
    rw [List.length_drop, List.length_append, hlength, List.length_singleton]
    omega

variable {o : SvPtpPhaseObservation} {reading : SvPtpPhaseReading}

/-- **After an observation that is accepted** its epoch is known. -/
theorem accept (h : KnowsEpochs policy past authority)
    (hobserve : authority.observe o = authority.accept o reading) :
    KnowsEpochs policy (past ++ [stepOn SvPtpPhaseAuthority.observe authority o])
      (authority.observe o).2 := by
  obtain ⟨haccepted, hphase, huncertainty, hsecond, -⟩ := authority.accept_decision o reading
  obtain ⟨hpolicy, hprevious, hgeneration, hlast, hsamples⟩ := authority.accept_state o reading
  have houtput : (stepOn SvPtpPhaseAuthority.observe authority o).output =
      (authority.accept o reading).1 := congrArg Prod.fst hobserve
  have hwithin := h.within_concat (houtput ▸ haccepted) (houtput ▸ hphase)
    (houtput ▸ huncertainty)
  have hle := h.countTracking_le reading
  rw [hobserve]
  refine ⟨hpolicy.trans h.samePolicy, fun _ => ⟨_, List.getLast?_concat, houtput ▸ haccepted,
    hgeneration, hlast.trans (houtput ▸ hsecond).symm⟩, fun hnone => ?_, ?_, ?_⟩
  · rw [hprevious] at hnone
    exact Bool.noConfusion hnone
  · rw [hsamples]
    exact hle
  · rw [hsamples]
    exact hwithin

theorem labelled_accept (h : KnowsEpochs policy past authority)
    (hslew : 0 ≤ policy.maximumSlewPerSecondUs) (hreading : readPhase policy o = some reading)
    (hfollows : authority.havePrevious = true → authority.follows o reading = true)
    (hobserve : authority.observe o = authority.accept o reading) :
    EpochLabelled policy past (stepOn SvPtpPhaseAuthority.observe authority o) := by
  obtain ⟨haccepted, hphase, huncertainty, hsecond, hsteering, htracking, hlimit⟩ :=
    authority.accept_decision o reading
  have houtput : (stepOn SvPtpPhaseAuthority.observe authority o).output =
      (authority.accept o reading).1 := congrArg Prod.fst hobserve
  have hevent : (stepOn SvPtpPhaseAuthority.observe authority o).event = o := rfl
  have hwithin := h.within_concat (houtput ▸ haccepted) (houtput ▸ hphase)
    (houtput ▸ huncertainty)
  rw [h.samePolicy] at htracking hlimit
  refine ⟨fun _ => ?_, fun previous hprevious hpreviously _ => ?_, fun hsteers => ?_, ?_,
    fun htracks => ?_⟩
  · rw [houtput, hevent, hphase, hsecond]
    exact readPhase_ok hreading
  · have hhave : authority.havePrevious = true := by
      by_contra hnone
      have hrejected := h.rejected (Bool.eq_false_of_not_eq_true hnone) previous hprevious
      rw [hpreviously] at hrejected
      exact Bool.noConfusion hrejected
    obtain ⟨last, hlast, -, hgeneration, hlabel⟩ := h.previous hhave
    obtain rfl := Option.some.inj (hlast.symm.trans hprevious)
    obtain ⟨hone, hnext⟩ := SvPtpPhaseAuthority.follows_ok (hfollows hhave)
    rw [houtput, hevent, hsecond, ← hgeneration, ← hlabel]
    exact ⟨hone, hnext⟩
  · rw [houtput] at hsteers ⊢
    obtain ⟨last, hlast, hlastAccepted, -⟩ := h.previous (hsteering hsteers)
    exact ⟨haccepted, last, hlast, hlastAccepted⟩
  · rw [houtput]
    exact hlimit hslew
  · obtain ⟨latest, hsuffix, hlength, hall⟩ := hwithin
    have henough := UInt32.le_iff_toNat_le.mp (htracking (houtput ▸ htracks))
    exact ⟨latest, hsuffix,
      hlength.trans (Nat.le_antisymm (h.countTracking_le reading) henough), hall⟩

/-- **One observation** keeps what is known, and is labelled by it. -/
theorem observe (h : KnowsEpochs policy past authority)
    (hslew : 0 ≤ policy.maximumSlewPerSecondUs) (o : SvPtpPhaseObservation) :
    EpochLabelled policy past (stepOn SvPtpPhaseAuthority.observe authority o) ∧
      KnowsEpochs policy (past ++ [stepOn SvPtpPhaseAuthority.observe authority o])
        (authority.observe o).2 := by
  rcases authority.observe_cases o with hobserve | ⟨reading, hreading, hfollows, hobserve⟩
  · exact ⟨labelled_invalidate past hslew o hobserve, h.invalidate o hobserve⟩
  · rw [h.samePolicy] at hreading
    exact ⟨h.labelled_accept hslew hreading hfollows hobserve, h.accept hobserve⟩

/-- Nothing is known at first. -/
theorem initial (policy : SvPtpPhasePolicy) : KnowsEpochs policy [] { policy } where
  samePolicy := rfl
  previous h := Bool.noConfusion h
  rejected _ _ hstep := absurd hstep (Option.not_mem_none _)
  trackingSamples := Nat.zero_le _
  within := ⟨[], List.nil_suffix, rfl, fun _ hstep => absurd hstep List.not_mem_nil⟩

end KnowsEpochs

/-- **The second of an epoch** and its phase say when it was; the epochs accepted one after the
other have seconds one after the other, only those after the first one steer, and no more than
the limit, and the phase is tracked after as many observations within the threshold as the policy
says. -/
theorem epochs_labelled (policy : SvPtpPhasePolicy) (hslew : 0 ≤ policy.maximumSlewPerSecondUs)
    (observations : List SvPtpPhaseObservation) (past : List EpochStep) (step : EpochStep)
    (future : List EpochStep)
    (hsplit : history SvPtpPhaseAuthority.observe { policy } observations =
      past ++ step :: future) :
    EpochLabelled policy past step := by
  have hrelated : observations.Pairwise fun _ _ => True :=
    List.pairwise_of_forall fun _ _ => trivial
  exact history_rule (KnowsEpochs policy) (EpochLabelled policy)
    (fun _ _ o h _ => h.observe hslew o) hrelated (KnowsEpochs.initial policy) hsplit

/-- Two epochs, a second apart. -/
def twoEpochs : List SvPtpPhaseObservation :=
  [(1000100, 1000000, 1, 50), (2000110, 2000010, 2, 51)].map
    fun times : UInt32 × UInt32 × UInt32 × UInt64 =>
      { timerBeforeTicks := times.1
        timerAfterTicks := times.1 + 2
        lastSvEpochTicks := times.2.1
        lastSvEpochGeneration := times.2.2.1
        ptpSeconds := times.2.2.2
        ptpNanoseconds := 111000 }

/-- They are given the seconds 50 and 51. -/
theorem epochs_labelled_twoEpochs :
    (history SvPtpPhaseAuthority.observe {} twoEpochs).map
        (fun step => (step.output.accepted, step.output.svEpochPtpSecond)) =
      [(true, 50), (true, 51)] ∧
    ∀ past step future,
      history SvPtpPhaseAuthority.observe {} twoEpochs = past ++ step :: future →
        EpochLabelled {} past step :=
  ⟨by decide, epochs_labelled {} (by decide) twoEpochs⟩

end ArStack.TimeSync
