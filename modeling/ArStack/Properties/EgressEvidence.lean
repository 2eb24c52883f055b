import ArStack.Lib.Run
import ArStack.TimeSync.SvTxEgressEvidence
import Mathlib.Data.UInt

/-!
# What the transmission proves

Every observation is recorded and then shown to the gate. When the gate qualifies, the last three
observations are frames of one publisher and one PTP source, as many epochs and as many PTP seconds
apart as the stride says.

* `record_cases` — everything that recording an observation can do
* `watched_knows` — what the tracker and the gate know of the last observations
* `qualified_evidence`
-/

namespace ArStack.TimeSync

open ArStack.Lib

/-! ## Runs -/

/-- The tracker, and the gate that is shown its results and phases. -/
structure EgressWatch where
  evidence : SvTxEgressEvidence
  gate : SvLocalSyncEvidenceGate := {}
  deriving DecidableEq

def EgressWatch.record (watch : EgressWatch) (o : SvTxEgressObservation) : EgressWatch :=
  let (result, evidence) := watch.evidence.record o
  { evidence, gate := watch.gate.observe o result evidence.summary.lastPhaseNs }

/-- The tracker and the gate after the observations. -/
def watched (stride : UInt32) (observations : List SvTxEgressObservation) : EgressWatch :=
  exec EgressWatch.record { evidence := { expectedStride := stride } } observations

/-- The result of an observation after some others. -/
def resultAfter (stride : UInt32) (observations : List SvTxEgressObservation)
    (o : SvTxEgressObservation) : SvTxEvidenceResult :=
  ((watched stride observations).evidence.record o).1

/-! ## Observations -/

/-- A frame with the sample number 0 that was sent and has a hardware time. -/
structure SvTxEgressObservation.Canonical (o : SvTxEgressObservation) : Prop where
  sent : o.canonicalTxSuccess = true
  smpCnt : o.smpCnt = 0
  epoch : o.sampleEpochGeneration ≠ 0
  session : o.publisherSessionGeneration ≠ 0
  source : o.ptpSourceGeneration ≠ 0
  noMissedSlots : o.noMissedSlots = true
  sameSampleEpoch : o.sameSampleEpoch = true
  seconds : o.hwPtpSeconds ≠ 0
  nanoseconds : o.hwPtpNanoseconds < 1000000000

/-- Two frames of one publisher and one PTP source, a stride apart. -/
structure Coherent (stride : UInt32) (first second : SvTxEgressObservation) : Prop where
  session : second.publisherSessionGeneration = first.publisherSessionGeneration
  faults : second.publisherFaultGeneration = first.publisherFaultGeneration
  source : second.ptpSourceGeneration = first.ptpSourceGeneration
  epochs : second.sampleEpochGeneration - first.sampleEpochGeneration = stride
  seconds : second.nearestPtpSecond.toNat = first.nearestPtpSecond.toNat + stride.toNat

/-- The hardware time is close enough behind the PTP second. -/
def SvTxEgressObservation.InWindow (o : SvTxEgressObservation) : Prop :=
  SvLocalSyncEvidenceGate.kMinCanonicalTxOffsetNs ≤ o.phaseNs ∧
    o.phaseNs ≤ SvLocalSyncEvidenceGate.kMaxCanonicalTxOffsetNs

instance (o : SvTxEgressObservation) : Decidable o.InWindow :=
  inferInstanceAs (Decidable (_ ∧ _))

/-! ## The tracker -/

namespace SvTxEgressSummary

/-- The observations that are counted under one of the outcomes. -/
def outcomes (summary : SvTxEgressSummary) : UInt32 :=
  summary.failedTransmit + summary.rejectedEpoch + summary.missingHwTimestamp +
    summary.baselineEstablished + summary.measured

/-- Every observation is counted under one outcome. -/
def AddsUp (summary : SvTxEgressSummary) : Prop := summary.attempted = summary.outcomes

theorem AddsUp.next {before after : SvTxEgressSummary} (h : before.AddsUp)
    (hattempted : after.attempted = before.attempted + 1)
    (houtcomes : after.outcomes = before.outcomes + 1) : after.AddsUp := by
  rw [AddsUp, hattempted, houtcomes, h]

end SvTxEgressSummary

namespace SvTxEgressEvidence

/-- The baseline is this observation. -/
structure Remembers (evidence : SvTxEgressEvidence) (o : SvTxEgressObservation) : Prop where
  nearest : evidence.previousNearestPtpSecond = o.nearestPtpSecond
  epoch : evidence.previousEpochGeneration = o.sampleEpochGeneration
  session : evidence.previousSession = o.publisherSessionGeneration
  faults : evidence.previousFaultGeneration = o.publisherFaultGeneration
  source : evidence.previousPtpSourceGeneration = o.ptpSourceGeneration

variable {evidence : SvTxEgressEvidence} {o : SvTxEgressObservation}

/-- What a measured observation has passed. -/
structure Follows (evidence : SvTxEgressEvidence) (o : SvTxEgressObservation) : Prop where
  haveBaseline : evidence.haveBaseline = true
  session : o.publisherSessionGeneration = evidence.previousSession
  faults : o.publisherFaultGeneration = evidence.previousFaultGeneration
  source : o.ptpSourceGeneration = evidence.previousPtpSourceGeneration
  epochs : o.sampleEpochGeneration - evidence.previousEpochGeneration = evidence.expectedStride
  later : evidence.previousNearestPtpSecond < o.nearestPtpSecond
  seconds : o.nearestPtpSecond - evidence.previousNearestPtpSecond =
    evidence.expectedStride.toUInt64

/-- **Everything that recording an observation can do**: it is refused and the baseline is lost, or
it is the new baseline. -/
theorem record_cases (evidence : SvTxEgressEvidence) (o : SvTxEgressObservation) :
    (∃ result summary, evidence.record o = (result, { evidence.invalidateBaseline with summary }) ∧
      result ≠ .measured ∧ (evidence.summary.AddsUp → summary.AddsUp)) ∨
    o.Canonical ∧ ∃ result summary,
      evidence.record o = (result, { evidence.remember o with summary }) ∧
        (evidence.summary.AddsUp → summary.AddsUp) ∧
        (result = .measured → evidence.Follows o ∧ summary.lastPhaseNs = o.phaseNs) := by
  rw [record]
  dsimp only
  split
  · refine .inl ⟨_, _, rfl, SvTxEvidenceResult.noConfusion, fun h => h.next rfl ?_⟩
    simp only [SvTxEgressSummary.outcomes]
    ac_rfl
  rename_i hsent
  split
  · refine .inl ⟨_, _, rfl, SvTxEvidenceResult.noConfusion, fun h => h.next rfl ?_⟩
    simp only [SvTxEgressSummary.outcomes]
    ac_rfl
  rename_i hepoch
  split
  · refine .inl ⟨_, _, rfl, SvTxEvidenceResult.noConfusion, fun h => h.next rfl ?_⟩
    simp only [SvTxEgressSummary.outcomes]
    ac_rfl
  rename_i htime
  simp only [not_or, Bool.not_eq_true', Bool.not_eq_false, Decidable.not_not, ne_eq]
    at hsent hepoch htime
  have hcanonical : o.Canonical :=
    { sent := hsent
      smpCnt := hepoch.1
      epoch := hepoch.2.1
      session := hepoch.2.2.1
      source := hepoch.2.2.2.1
      noMissedSlots := hepoch.2.2.2.2.1
      sameSampleEpoch := hepoch.2.2.2.2.2.1
      seconds := htime.1
      nanoseconds := UInt32.not_le.mp htime.2 }
  refine .inr ⟨hcanonical, ?_⟩
  split
  · refine ⟨_, _, rfl, fun h => h.next rfl ?_, fun h => SvTxEvidenceResult.noConfusion h⟩
    simp only [SvTxEgressSummary.outcomes]
    ac_rfl
  rename_i hbaseline
  split
  · refine ⟨_, _, rfl, fun h => h.next rfl ?_, fun h => SvTxEvidenceResult.noConfusion h⟩
    simp only [SvTxEgressSummary.outcomes]
    ac_rfl
  rename_i hpublisher
  split
  · refine ⟨_, _, rfl, fun h => h.next rfl ?_, fun h => SvTxEvidenceResult.noConfusion h⟩
    simp only [SvTxEgressSummary.outcomes]
    ac_rfl
  rename_i hsource
  split
  · refine ⟨_, _, rfl, fun h => h.next rfl ?_, fun h => SvTxEvidenceResult.noConfusion h⟩
    simp only [SvTxEgressSummary.outcomes]
    ac_rfl
  rename_i hseconds
  simp only [not_or, Bool.not_eq_true', Bool.not_eq_false, Decidable.not_not, ne_eq]
    at hbaseline hpublisher hsource hseconds
  refine ⟨_, _, rfl, fun h => h.next rfl ?_, fun _ => ⟨?_, rfl⟩⟩
  · simp only [SvTxEgressSummary.outcomes]
    ac_rfl
  · exact ⟨hbaseline, hpublisher.1, hpublisher.2.1, hsource, hpublisher.2.2,
      UInt64.not_le.mp hseconds.1, hseconds.2⟩

end SvTxEgressEvidence

/-! ## The gate -/

namespace SvLocalSyncEvidenceGate

/-- The last pair ended with this observation. -/
structure EndsWith (gate : SvLocalSyncEvidenceGate) (o : SvTxEgressObservation) : Prop where
  session : gate.session = o.publisherSessionGeneration
  faults : gate.faultGeneration = o.publisherFaultGeneration
  source : gate.sourceGeneration = o.ptpSourceGeneration
  epoch : gate.lastEpoch = o.sampleEpochGeneration

theorem observe_of_ne (gate : SvLocalSyncEvidenceGate) (o : SvTxEgressObservation)
    {result : SvTxEvidenceResult} (h : result ≠ .measured) (phaseNs : Int) :
    gate.observe o result phaseNs = reset := by
  rw [observe, if_pos (.inl h)]

/-- **Everything that an observation can do to the gate**: it is reset, or one more pair is matched,
the first one or one that follows the last one. -/
theorem observe_cases (gate : SvLocalSyncEvidenceGate) (o : SvTxEgressObservation)
    (result : SvTxEvidenceResult) (hle : gate.matchedPairs.toNat ≤ 2) :
    gate.observe o result o.phaseNs = reset ∨
    result = .measured ∧ o.InWindow ∧ (gate.observe o result o.phaseNs).EndsWith o ∧
      ((gate.observe o result o.phaseNs).matchedPairs.toNat = 1 ∨
        gate.matchedPairs ≠ 0 ∧ (gate.observe o result o.phaseNs).matchedPairs.toNat = 2) := by
  rw [observe]
  split
  · exact .inl rfl
  rename_i hmeasured
  simp only [not_or, Decidable.not_not, Int.not_lt, gt_iff_lt, ne_eq] at hmeasured
  refine .inr ⟨hmeasured.1, ⟨hmeasured.2.2.2.2.2, hmeasured.2.2.2.2.1⟩, ⟨rfl, rfl, rfl, rfl⟩, ?_⟩
  dsimp only
  split
  · exact .inl rfl
  by_cases hzero : gate.matchedPairs = 0
  · rw [hzero]
    exact .inl rfl
  refine .inr ⟨hzero, ?_⟩
  have hpos : gate.matchedPairs.toNat ≠ 0 := fun h => hzero (UInt32.toNat_inj.mp h)
  split
  · rename_i hlt
    have hlt := UInt32.lt_iff_toNat_lt.mp hlt
    rw [UInt32.toNat_add]
    change gate.matchedPairs.toNat < 2 at hlt
    change (gate.matchedPairs.toNat + 1) % 2 ^ 32 = 2
    omega
  · rename_i hge
    have hge := UInt32.le_iff_toNat_le.mp (UInt32.not_lt.mp hge)
    change 2 ≤ gate.matchedPairs.toNat at hge
    omega

end SvLocalSyncEvidenceGate

/-! ## What is known after the observations -/

section Runs

variable {stride : UInt32}

theorem watched_concat (stride : UInt32) (observations : List SvTxEgressObservation)
    (o : SvTxEgressObservation) :
    watched stride (observations ++ [o]) = (watched stride observations).record o :=
  exec_concat _ _ _

/-- The last two observations are a measured pair. -/
structure MeasuredPair (stride : UInt32) (earlier : List SvTxEgressObservation)
    (first second : SvTxEgressObservation) : Prop where
  measured : resultAfter stride (earlier ++ [first]) second = .measured
  canonical : first.Canonical ∧ second.Canonical
  coherent : Coherent stride first second
  inWindow : second.InWindow

/-- What the tracker and the gate know. -/
structure KnowsEgress (stride : UInt32) (observations : List SvTxEgressObservation)
    (watch : EgressWatch) : Prop where
  expectedStride : watch.evidence.expectedStride = stride
  addsUp : watch.evidence.summary.AddsUp
  baseline : watch.evidence.haveBaseline = true →
    ∃ earlier o, observations = earlier ++ [o] ∧ o.Canonical ∧ watch.evidence.Remembers o
  matchedPairs : watch.gate.matchedPairs.toNat ≤ 2
  pair : watch.gate.matchedPairs ≠ 0 → ∃ earlier first second,
    observations = earlier ++ [first, second] ∧ MeasuredPair stride earlier first second ∧
      watch.gate.EndsWith second
  pairs : watch.gate.matchedPairs.toNat = 2 → ∃ earlier first second third,
    observations = earlier ++ [first, second, third] ∧ MeasuredPair stride earlier first second ∧
      MeasuredPair stride (earlier ++ [first]) second third ∧ watch.gate.EndsWith third

theorem SvTxEgressEvidence.Follows.coherent {evidence : SvTxEgressEvidence}
    {first second : SvTxEgressObservation} (h : evidence.Follows second)
    (hfirst : evidence.Remembers first) : Coherent evidence.expectedStride first second where
  session := h.session.trans hfirst.session
  faults := h.faults.trans hfirst.faults
  source := h.source.trans hfirst.source
  epochs := hfirst.epoch ▸ h.epochs
  seconds := by
    have hlater := hfirst.nearest ▸ h.later
    have hseconds := congrArg UInt64.toNat (hfirst.nearest ▸ h.seconds)
    rw [UInt64.toNat_sub_of_le _ _ (UInt64.le_of_lt hlater), UInt32.toNat_toUInt64] at hseconds
    have hlt := UInt64.lt_iff_toNat_lt.mp hlater
    omega

/-- A gate that is reset knows nothing. -/
theorem KnowsEgress.of_reset {observations : List SvTxEgressObservation} {evidence : SvTxEgressEvidence}
    (hstride : evidence.expectedStride = stride) (haddsUp : evidence.summary.AddsUp)
    (hbaseline : evidence.haveBaseline = true →
      ∃ earlier o, observations = earlier ++ [o] ∧ o.Canonical ∧ evidence.Remembers o) :
    KnowsEgress stride observations { evidence, gate := .reset } where
  expectedStride := hstride
  addsUp := haddsUp
  baseline := hbaseline
  matchedPairs := Nat.zero_le _
  pair h := absurd rfl h
  pairs h := absurd (show 0 = 2 from h) (by decide)

/-- **One more observation.** -/
theorem KnowsEgress.record {observations : List SvTxEgressObservation}
    (h : KnowsEgress stride observations (watched stride observations)) (o : SvTxEgressObservation) :
    KnowsEgress stride (observations ++ [o]) (watched stride (observations ++ [o])) := by
  have hresult : resultAfter stride observations o =
      ((watched stride observations).evidence.record o).1 := rfl
  rw [watched_concat, EgressWatch.record]
  generalize watched stride observations = watch at h hresult ⊢
  obtain ⟨result, summary, heq, hne, haddsUp⟩ |
    ⟨hcanonical, result, summary, heq, haddsUp, hmeasured⟩ := watch.evidence.record_cases o
  · rw [heq]
    dsimp only
    rw [SvLocalSyncEvidenceGate.observe_of_ne _ _ hne]
    exact .of_reset h.expectedStride (haddsUp h.addsUp) fun hbaseline => Bool.noConfusion hbaseline
  have hbaseline : ∃ earlier last, observations ++ [o] = earlier ++ [last] ∧ last.Canonical ∧
      ({ watch.evidence.remember o with summary } : SvTxEgressEvidence).Remembers last :=
    ⟨observations, o, rfl, hcanonical, rfl, rfl, rfl, rfl, rfl⟩
  by_cases hne : result = .measured
  · obtain ⟨hfollows, hphase⟩ := hmeasured hne
    obtain ⟨earlier, first, rfl, hfirst, hremembers⟩ := h.baseline hfollows.haveBaseline
    have hcoherent := h.expectedStride ▸ hfollows.coherent hremembers
    rw [heq] at hresult ⊢
    dsimp only at hresult ⊢
    rw [hphase]
    obtain hreset | ⟨-, hwindow, hends, hmatched⟩ :=
      watch.gate.observe_cases o result h.matchedPairs
    · rw [hreset]
      exact .of_reset h.expectedStride (haddsUp h.addsUp) fun _ => hbaseline
    · have hpair : MeasuredPair stride earlier first o :=
        ⟨hresult.trans hne, ⟨hfirst, hcanonical⟩, hcoherent, hwindow⟩
      generalize watch.gate.observe o result o.phaseNs = gate at hends hmatched
      refine ⟨h.expectedStride, haddsUp h.addsUp, fun _ => hbaseline, ?_, fun _ => ?_,
        fun htwo => ?_⟩
      · rcases hmatched with hone | ⟨-, htwo⟩
        · exact hone ▸ Nat.le_succ 1
        · exact htwo.le
      · exact ⟨earlier, first, o, by simp, hpair, hends⟩
      · rcases hmatched with hone | ⟨hzero, -⟩
        · exact absurd (hone.symm.trans htwo) (by decide)
        · obtain ⟨earliest, zeroth, first', hsplit, hbefore, -⟩ := h.pair hzero
          have hsplit : earlier ++ [first] = (earliest ++ [zeroth]) ++ [first'] := by
            rw [hsplit, List.append_assoc]
            rfl
          obtain ⟨rfl, hlast⟩ := List.append_inj' hsplit rfl
          obtain rfl := (List.cons.inj hlast).1
          exact ⟨earliest, zeroth, first, o, by simp, hbefore, hpair, hends⟩
  · rw [heq]
    dsimp only
    rw [SvLocalSyncEvidenceGate.observe_of_ne _ _ hne]
    exact .of_reset h.expectedStride (haddsUp h.addsUp) fun _ => hbaseline

/-- **After any observations** the tracker and the gate know what the last ones were. -/
theorem watched_knows (stride : UInt32) (observations : List SvTxEgressObservation) :
    KnowsEgress stride observations (watched stride observations) := by
  induction observations using List.reverseRecOn with
  | nil => exact .of_reset rfl rfl fun hbaseline => Bool.noConfusion hbaseline
  | append_singleton observations o ih => exact ih.record o

end Runs

/-- **The gate qualifies only on evidence**, and the counters always add up. -/
theorem qualified_evidence (stride : UInt32) (observations : List SvTxEgressObservation) :
    let watch := watched stride observations
    let summary := watch.evidence.summary
    (∀ session faultGeneration sourceGeneration currentEpoch softwareTracking softwarePhaseBoundUs,
      watch.gate.qualified session faultGeneration sourceGeneration currentEpoch softwareTracking
        softwarePhaseBoundUs = true →
      ∃ earlier first second third, observations = earlier ++ [first, second, third] ∧
        resultAfter stride (earlier ++ [first]) second = .measured ∧
        resultAfter stride (earlier ++ [first, second]) third = .measured ∧
        (∀ o ∈ [first, second, third], o.Canonical ∧ o.publisherSessionGeneration = session ∧
          o.publisherFaultGeneration = faultGeneration ∧
          o.ptpSourceGeneration = sourceGeneration) ∧
        Coherent stride first second ∧ Coherent stride second third ∧
        second.InWindow ∧ third.InWindow ∧
        third.sampleEpochGeneration.toNat ≤ currentEpoch.toNat ∧
        currentEpoch.toNat ≤ third.sampleEpochGeneration.toNat +
          SvLocalSyncEvidenceGate.kMaxEvidenceAgeEpochs.toNat) ∧
    summary.attempted = summary.failedTransmit + summary.rejectedEpoch +
      summary.missingHwTimestamp + summary.baselineEstablished + summary.measured := by
  intro watch summary
  have hknows := watched_knows stride observations
  refine ⟨fun session faults source epoch tracking bound h => ?_, hknows.addsUp⟩
  simp only [SvLocalSyncEvidenceGate.qualified, SvLocalSyncEvidenceGate.current,
    Bool.and_eq_true, decide_eq_true_eq] at h
  obtain ⟨⟨⟨hmatched, -⟩, -⟩, -, -, hsession, hfaults, hsource, hle, hage⟩ := h
  have htwo : watch.gate.matchedPairs.toNat = 2 :=
    Nat.le_antisymm hknows.matchedPairs (UInt32.le_iff_toNat_le.mp hmatched)
  obtain ⟨earlier, first, second, third, hsplit, hfirst, hsecond, hends⟩ := hknows.pairs htwo
  have hthird : third.Canonical ∧ third.publisherSessionGeneration = session ∧
      third.publisherFaultGeneration = faults ∧ third.ptpSourceGeneration = source :=
    ⟨hsecond.canonical.2, (hsession.trans hends.session).symm, (hfaults.trans hends.faults).symm,
      (hsource.trans hends.source).symm⟩
  obtain ⟨hcoherent, hcoherent'⟩ := And.intro hfirst.coherent hsecond.coherent
  refine ⟨earlier, first, second, third, hsplit, hfirst.measured, ?_, ?_, hcoherent, hcoherent',
    hfirst.inWindow, hsecond.inWindow, ?_, ?_⟩
  · simpa using hsecond.measured
  · rw [List.forall_mem_cons, List.forall_mem_cons, List.forall_mem_singleton]
    have hsame : second.publisherSessionGeneration = session ∧
        second.publisherFaultGeneration = faults ∧ second.ptpSourceGeneration = source :=
      ⟨hcoherent'.session.symm.trans hthird.2.1, hcoherent'.faults.symm.trans hthird.2.2.1,
        hcoherent'.source.symm.trans hthird.2.2.2⟩
    exact ⟨⟨hfirst.canonical.1, hcoherent.session.symm.trans hsame.1,
      hcoherent.faults.symm.trans hsame.2.1, hcoherent.source.symm.trans hsame.2.2⟩,
      ⟨hfirst.canonical.2, hsame⟩, hthird⟩
  · exact hends.epoch ▸ UInt32.le_iff_toNat_le.mp hle
  · have hage := UInt32.le_iff_toNat_le.mp hage
    have hle := UInt32.le_iff_toNat_le.mp hle
    rw [UInt32.toNat_sub_of_le _ _ (UInt32.le_iff_toNat_le.mpr hle), hends.epoch] at hage
    rw [hends.epoch] at hle
    omega

/-- Three frames, two epochs and two seconds apart. -/
def threeFrames : List SvTxEgressObservation :=
  [(10, 100), (12, 102), (14, 104)].map fun times : UInt32 × UInt32 =>
    { sampleEpochGeneration := times.1
      publisherSessionGeneration := 7
      ptpSourceGeneration := 3
      hwPtpSeconds := times.2
      hwPtpNanoseconds := 90000
      canonicalTxSuccess := true
      noMissedSlots := true
      sameSampleEpoch := true }

/-- They qualify. -/
theorem qualified_evidence_threeFrames :
    (watched 2 threeFrames).gate.qualified 7 0 3 15 true 2 = true ∧
      ∃ earlier first second third, threeFrames = earlier ++ [first, second, third] ∧
        Coherent 2 first second ∧ Coherent 2 second third := by
  have hqualified : (watched 2 threeFrames).gate.qualified 7 0 3 15 true 2 = true := by
    decide
  obtain ⟨earlier, first, second, third, hsplit, _, _, _, hfirst, hsecond, _⟩ :=
    (qualified_evidence 2 threeFrames).1 7 0 3 15 true 2 hqualified
  exact ⟨hqualified, earlier, first, second, third, hsplit, hfirst, hsecond⟩

end ArStack.TimeSync
