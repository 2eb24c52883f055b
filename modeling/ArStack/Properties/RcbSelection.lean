import ArStack.Mms.RcbSelection
import Mathlib.Data.List.Pairwise
import Mathlib.Data.List.Sort

/-!
# Which report control block is selected

A selection is safe when its control block is usable and no usable one has a higher score.

* `evaluateStatic_candidate`, `evaluateDynamic_candidate` — the candidates are the usable ones
* `select_safe` — what a selection makes of its evaluations
* `selection_safe`
-/

namespace ArStack.Mms.MmsRcbPoolSelector

open ArStack.Lib

/-! ## Usable control blocks -/

/-- The control block was probed, and is neither enabled nor reserved. -/
structure Free (state : MmsRcbState) : Prop where
  probed : criticalProbeAttributeFailed state = false
  disabled : state.reportEnabled ≠ some true
  unreserved : state.reserved ≠ some true
  noReservation : state.reservationTimeSeconds.getD 0 = 0

/-- The policy admits the control block. -/
structure Admitted (policy : MmsRcbSelectionPolicy) (candidate : MmsRcbCandidate) : Prop where
  notExcluded : ∀ reference ∈ policy.excludedRcbReferences,
    sameReference candidate.reference reference = false
  strict : policy.strictRcb = true → normalizeReference policy.preferredRcbReference ≠ [] →
    sameReference candidate.reference (normalizeReference policy.preferredRcbReference) = true
  fallback : policy.allowUrcbFallback = false → candidate.buffered = true

/-- The data set has a directory with members. -/
def Populated (discovery : MmsRcbDiscovery) (dataSetReference : Bytes) : Prop :=
  ∃ evidence directory, (discovery.dataSetDirectories.find? fun evidence =>
      sameReference evidence.reference dataSetReference) = some evidence ∧
    evidence.directory = some directory ∧ directory.members ≠ []

structure StaticallyUsable (discovery : MmsRcbDiscovery) (options : MmsRcbStaticSelectionOptions)
    (candidate : MmsRcbCandidate) : Prop where
  admitted : Admitted options.toMmsRcbSelectionPolicy candidate
  state : ∃ evidence state, findEvidence discovery candidate = some evidence ∧
    evidence.state = some state ∧ Free state ∧
    normalizeReference state.dataSetReference ≠ [] ∧
    (requestedDataSet discovery options = [] ∨
      sameReference (normalizeReference state.dataSetReference)
        (requestedDataSet discovery options) = true) ∧
    Populated discovery (normalizeReference state.dataSetReference)

structure DynamicallyUsable (discovery : MmsRcbDiscovery) (options : MmsRcbDynamicSelectionOptions)
    (candidate : MmsRcbCandidate) : Prop where
  admitted : Admitted options.toMmsRcbSelectionPolicy candidate
  state : ∃ evidence state, findEvidence discovery candidate = some evidence ∧
    evidence.state = some state ∧ Free state ∧ normalizeReference state.dataSetReference = []

/-- References that are not blank, and of which no two are the same. -/
structure Distinct (inventory : List MmsRcbCandidate) : Prop where
  nonblank : ∀ candidate ∈ inventory, referenceKey candidate.reference ≠ []
  distinct : inventory.Pairwise fun a b => sameReference a.reference b.reference = false

/-! ## Candidates -/

theorem sameReference_iff {left right : Bytes} :
    sameReference left right = true ↔ referenceKey left = referenceKey right :=
  beq_iff_eq

theorem excluded_iff {references : List Bytes} {reference : Bytes} (h : referenceKey reference ≠ []) :
    excluded (buildExcludedSet references) reference = false ↔
      ∀ other ∈ references, sameReference reference other = false := by
  unfold excluded buildExcludedSet
  rw [Bool.eq_false_iff, ne_eq, List.contains_iff_mem, List.mem_filter, List.mem_map]
  constructor
  · intro hnot other hother
    refine Bool.eq_false_iff.mpr fun hsame => hnot ⟨⟨other, hother, ?_⟩, ?_⟩
    · exact (sameReference_iff.mp hsame).symm
    · exact decide_eq_true h
  · rintro hnone ⟨⟨other, hother, hsame⟩, -⟩
    exact Bool.eq_false_iff.mp (hnone other hother) (sameReference_iff.mpr hsame.symm)

theorem decided_candidate {filteredOut selectable : Bool} (h : selectable = true → filteredOut = false) :
    decided filteredOut selectable = .candidate ↔ selectable = true := by
  cases filteredOut <;> cases selectable <;> simp_all [decided]

theorem decided_ne_selected {decision : MmsRcbSelectionDecision}
    (h : ∃ filteredOut selectable, decision = decided filteredOut selectable) :
    decision ≠ .selected := by
  obtain ⟨filteredOut, selectable, rfl⟩ := h
  cases filteredOut <;> cases selectable <;> decide

theorem hasPopulatedDataSetDirectory_iff {discovery : MmsRcbDiscovery} {dataSetReference : Bytes} :
    hasPopulatedDataSetDirectory discovery dataSetReference = true ↔
      dataSetReference ≠ [] ∧ Populated discovery dataSetReference := by
  unfold hasPopulatedDataSetDirectory Populated
  by_cases hempty : dataSetReference = []
  · simp [hempty]
  rw [if_neg hempty]
  cases hfind : discovery.dataSetDirectories.find? fun evidence =>
      sameReference evidence.reference dataSetReference with
  | none => simp
  | some evidence =>
    cases hdirectory : evidence.directory with
    | none => simp [hdirectory]
    | some directory => simp [hdirectory, hempty]

/-- The policy, as it is checked. -/
theorem admitted_iff {policy : MmsRcbSelectionPolicy} {candidate : MmsRcbCandidate}
    (h : referenceKey candidate.reference ≠ []) :
    Admitted policy candidate ↔
      (policy.strictRcb && !(normalizeReference policy.preferredRcbReference).isEmpty &&
          !isPreferred (normalizeReference policy.preferredRcbReference) candidate) = false ∧
        (!policy.allowUrcbFallback && !candidate.buffered) = false ∧
        excluded (buildExcludedSet policy.excludedRcbReferences) candidate.reference = false := by
  rw [excluded_iff h]
  unfold isPreferred
  constructor
  · rintro ⟨hexcluded, hstrict, hfallback⟩
    refine ⟨?_, ?_, hexcluded⟩
    · cases hs : policy.strictRcb with
      | false => rfl
      | true =>
        cases hp : normalizeReference policy.preferredRcbReference with
        | nil => rfl
        | cons octet rest =>
          have hsame := hstrict hs (by simp [hp])
          rw [hp] at hsame
          simp [hsame]
    · cases ha : policy.allowUrcbFallback with
      | true => rfl
      | false => simp [hfallback ha]
  · rintro ⟨hstrict, hfallback, hexcluded⟩
    refine ⟨hexcluded, fun hs hp => ?_, fun ha => ?_⟩
    · simp [hs, hp] at hstrict
      exact hstrict
    · simpa [ha] using hfallback

/-- Nobody else holds the control block. -/
theorem unclaimed_iff {runtime : RuntimeCandidate} :
    explicitlyEnabled runtime = false ∧ reservedByOtherClient runtime = false ↔
      runtime.reportEnabled ≠ some true ∧ runtime.reserved ≠ some true ∧
        runtime.reservationTimeSeconds.getD 0 = 0 := by
  unfold explicitlyEnabled reservedByOtherClient
  rw [Bool.or_eq_false_iff, decide_eq_false_iff_not, gt_iff_lt, UInt64.not_lt, UInt64.le_zero_iff]
  rcases runtime.reportEnabled with _ | _ | _ <;> rcases runtime.reserved with _ | _ | _ <;> simp

theorem classify_static {runtime : RuntimeCandidate} :
    classify runtime false true = .availableStatic ↔
      (explicitlyEnabled runtime = false ∧ reservedByOtherClient runtime = false) ∧
        runtime.dataSetReference ≠ [] ∧ runtime.wasProbed = true := by
  unfold classify
  by_cases henabled : explicitlyEnabled runtime = true
  · simp [henabled]
  by_cases hreserved : reservedByOtherClient runtime = true
  · simp [henabled, hreserved]
  have hnot : runtime.reportEnabled ≠ some true :=
    (unclaimed_iff.mp ⟨Bool.eq_false_iff.mpr henabled, Bool.eq_false_iff.mpr hreserved⟩).1
  rw [if_neg henabled, if_neg hreserved]
  cases hprobed : runtime.wasProbed with
  | false => simp
  | true =>
    cases hdata : runtime.dataSetReference with
    | nil =>
      simp
      split <;> simp
    | cons octet rest => simp [hnot, henabled, hreserved]

theorem classify_dynamic {runtime : RuntimeCandidate} :
    classify runtime true false = .availableDynamicEmpty ↔
      (explicitlyEnabled runtime = false ∧ reservedByOtherClient runtime = false) ∧
        runtime.dataSetReference = [] ∧ runtime.wasProbed = true := by
  unfold classify
  by_cases henabled : explicitlyEnabled runtime = true
  · simp [henabled]
  by_cases hreserved : reservedByOtherClient runtime = true
  · simp [henabled, hreserved]
  have hnot : runtime.reportEnabled ≠ some true :=
    (unclaimed_iff.mp ⟨Bool.eq_false_iff.mpr henabled, Bool.eq_false_iff.mpr hreserved⟩).1
  rw [if_neg henabled, if_neg hreserved]
  cases hprobed : runtime.wasProbed with
  | false => simp
  | true =>
    cases hdata : runtime.dataSetReference with
    | nil => simp [hnot, henabled, hreserved]
    | cons octet rest =>
      simp
      split <;> simp

/-- The state that a control block is projected from. -/
def stateOf (discovery : MmsRcbDiscovery) (candidate : MmsRcbCandidate) : Option MmsRcbState :=
  (findEvidence discovery candidate).bind (·.state)

theorem stateOf_some {discovery : MmsRcbDiscovery} {candidate : MmsRcbCandidate}
    {state : MmsRcbState} :
    stateOf discovery candidate = some state ↔
      ∃ evidence, findEvidence discovery candidate = some evidence ∧ evidence.state = some state := by
  rw [stateOf, Option.bind_eq_some_iff]

/-- A control block that is probed and free, as it is projected. -/
theorem project_free {discovery : MmsRcbDiscovery} {candidate : MmsRcbCandidate} :
    ((explicitlyEnabled (projectCandidate discovery candidate) = false ∧
          reservedByOtherClient (projectCandidate discovery candidate) = false) ∧
        (projectCandidate discovery candidate).wasProbed = true) ↔
      ∃ state, stateOf discovery candidate = some state ∧ Free state := by
  rw [unclaimed_iff]
  unfold projectCandidate
  rw [← stateOf]
  cases hstate : stateOf discovery candidate with
  | none => simp
  | some state =>
    constructor
    · rintro ⟨⟨henabled, hreserved, htime⟩, hprobed⟩
      exact ⟨state, rfl, Bool.not_eq_true' _ ▸ hprobed, henabled, hreserved, htime⟩
    · rintro ⟨_, hsome, hprobed, henabled, hreserved, htime⟩
      cases hsome
      exact ⟨⟨henabled, hreserved, htime⟩, (Bool.not_eq_true' _).mpr hprobed⟩

theorem project_candidate (discovery : MmsRcbDiscovery) (candidate : MmsRcbCandidate) :
    (projectCandidate discovery candidate).candidate = candidate := by
  unfold projectCandidate
  split <;> rfl

theorem project_dataSet {discovery : MmsRcbDiscovery} {candidate : MmsRcbCandidate}
    {state : MmsRcbState} (h : stateOf discovery candidate = some state) :
    (projectCandidate discovery candidate).dataSetReference =
      normalizeReference state.dataSetReference := by
  unfold projectCandidate
  rw [← stateOf, h]

/-- **The static candidates are the usable control blocks.** -/
theorem evaluateStatic_candidate {discovery : MmsRcbDiscovery}
    {options : MmsRcbStaticSelectionOptions} {candidate : MmsRcbCandidate}
    (h : referenceKey candidate.reference ≠ []) :
    (evaluateStatic discovery options candidate).decision = .candidate ↔
      StaticallyUsable discovery options candidate := by
  have hdecision : (evaluateStatic discovery options candidate).decision = decided _ _ := rfl
  rw [hdecision, decided_candidate fun hselectable => (Bool.not_eq_true' _).mp
    (Bool.and_eq_true_iff.mp (Bool.and_eq_true_iff.mp hselectable).1).1]
  simp only [Bool.and_eq_true, Bool.not_eq_true', Bool.or_eq_false_iff, beq_iff_eq, classify_static,
    hasPopulatedDataSetDirectory_iff, Bool.not_eq_false']
  constructor
  · rintro ⟨⟨⟨⟨⟨hstrict, hfallback⟩, hrequested⟩, hexcluded⟩, hfree, -, hprobed⟩, hdata, hpopulated⟩
    obtain ⟨state, hstate, hfree⟩ := project_free.mp ⟨hfree, hprobed⟩
    obtain ⟨evidence, hfind, hevidence⟩ := stateOf_some.mp hstate
    rw [project_dataSet hstate] at hdata hpopulated hrequested
    refine ⟨(admitted_iff h).mpr ⟨hstrict, hfallback, hexcluded⟩, evidence, state, hfind, hevidence,
      hfree, hdata, ?_, hpopulated⟩
    rcases Bool.or_eq_true_iff.mp hrequested with hempty | hsame
    · exact .inl (List.isEmpty_iff.mp hempty)
    · exact .inr hsame
  · rintro ⟨hadmitted, evidence, state, hfind, hevidence, hfree, hdata, hrequested, hpopulated⟩
    have hstate := stateOf_some.mpr ⟨evidence, hfind, hevidence⟩
    obtain ⟨hstrict, hfallback, hexcluded⟩ := (admitted_iff h).mp hadmitted
    obtain ⟨hunclaimed, hprobed⟩ := project_free.mpr ⟨state, hstate, hfree⟩
    rw [project_dataSet hstate]
    refine ⟨⟨⟨⟨⟨hstrict, hfallback⟩, ?_⟩, hexcluded⟩, hunclaimed, hdata, hprobed⟩, hdata, hpopulated⟩
    refine Bool.or_eq_true_iff.mpr ?_
    rcases hrequested with hempty | hsame
    · exact .inl (List.isEmpty_iff.mpr hempty)
    · exact .inr hsame

theorem evaluateStatic_reference (discovery : MmsRcbDiscovery)
    (options : MmsRcbStaticSelectionOptions) (candidate : MmsRcbCandidate) :
    (evaluateStatic discovery options candidate).reference = candidate.reference :=
  congrArg MmsRcbCandidate.reference (project_candidate discovery candidate)

theorem evaluateStatic_selectable {discovery : MmsRcbDiscovery}
    {options : MmsRcbStaticSelectionOptions} {candidate : MmsRcbCandidate}
    (h : referenceKey candidate.reference ≠ []) :
    (evaluateStatic discovery options candidate).selectable = true ↔
      StaticallyUsable discovery options candidate := by
  rw [← evaluateStatic_candidate h, MmsRcbCandidateEvaluation.selectable, Bool.or_eq_true,
    beq_iff_eq, beq_iff_eq]
  exact or_iff_left (decided_ne_selected ⟨_, _, rfl⟩)

/-- **The dynamic candidates are the usable control blocks.** -/
theorem evaluateDynamic_candidate {discovery : MmsRcbDiscovery}
    {options : MmsRcbDynamicSelectionOptions} {candidate : MmsRcbCandidate}
    (h : referenceKey candidate.reference ≠ []) :
    (evaluateDynamic discovery options candidate).decision = .candidate ↔
      DynamicallyUsable discovery options candidate := by
  have hdecision : (evaluateDynamic discovery options candidate).decision = decided _ _ := rfl
  rw [hdecision, decided_candidate fun hselectable => (Bool.not_eq_true' _).mp
    (Bool.and_eq_true_iff.mp hselectable).1]
  simp only [Bool.and_eq_true, Bool.not_eq_true', Bool.or_eq_false_iff, beq_iff_eq, classify_dynamic]
  constructor
  · rintro ⟨⟨⟨hstrict, hfallback⟩, hexcluded⟩, hfree, hdata, hprobed⟩
    obtain ⟨state, hstate, hfree⟩ := project_free.mp ⟨hfree, hprobed⟩
    obtain ⟨evidence, hfind, hevidence⟩ := stateOf_some.mp hstate
    rw [project_dataSet hstate] at hdata
    exact ⟨(admitted_iff h).mpr ⟨hstrict, hfallback, hexcluded⟩, evidence, state, hfind, hevidence,
      hfree, hdata⟩
  · rintro ⟨hadmitted, evidence, state, hfind, hevidence, hfree, hdata⟩
    have hstate := stateOf_some.mpr ⟨evidence, hfind, hevidence⟩
    obtain ⟨hstrict, hfallback, hexcluded⟩ := (admitted_iff h).mp hadmitted
    obtain ⟨hunclaimed, hprobed⟩ := project_free.mpr ⟨state, hstate, hfree⟩
    rw [project_dataSet hstate]
    exact ⟨⟨⟨hstrict, hfallback⟩, hexcluded⟩, hunclaimed, hdata, hprobed⟩

/-! ## Selections -/

/-- A selection of the usable control blocks by their score. -/
structure Safe (discovery : MmsRcbDiscovery) (evaluate : MmsRcbCandidate → MmsRcbCandidateEvaluation)
    (Usable : MmsRcbCandidate → Prop) (selection : MmsRcbSelectionEvidence) : Prop where
  selected : selection.selectedRcbReference ≠ [] → ∃ candidate ∈ discovery.inventory,
    selectReportControl discovery selection = some candidate ∧ Usable candidate ∧
    (∀ other ∈ discovery.inventory, Usable other →
      (evaluate other).score ≤ (evaluate candidate).score) ∧
    (∀ evaluation ∈ selection.candidates,
      evaluation.decision = .selected ↔ evaluation.reference = candidate.reference) ∧
    selection.candidates.countP (fun evaluation => evaluation.decision == .selected) = 1
  filteredOut : ∀ candidate ∈ discovery.inventory, (evaluate candidate).decision = .filteredOut →
    ∀ evaluation ∈ selection.candidates, evaluation.reference = candidate.reference →
      evaluation.decision = .filteredOut
  evaluated : (selection.candidates.map (·.reference)).Perm
    (discovery.inventory.map (·.reference))
  nothing : selection.selectedRcbReference = [] →
    ∀ candidate ∈ discovery.inventory, ¬Usable candidate

/-- The same reference, the same control block. -/
theorem eq_of_sameReference {inventory : List MmsRcbCandidate} (h : Distinct inventory)
    {a b : MmsRcbCandidate} (ha : a ∈ inventory) (hb : b ∈ inventory)
    (hsame : sameReference a.reference b.reference = true) : a = b := by
  have : Std.Symm fun a b : MmsRcbCandidate => sameReference a.reference b.reference = false := by
    refine ⟨fun x y hne => ?_⟩
    unfold sameReference at hne ⊢
    rw [Bool.beq_comm]
    exact hne
  by_contra hne
  have hfalse := h.distinct.forall ha hb hne
  rw [hsame] at hfalse
  cases hfalse

theorem find_of_distinct {inventory : List MmsRcbCandidate} (h : Distinct inventory)
    {candidate : MmsRcbCandidate} (hmem : candidate ∈ inventory) :
    (inventory.find? fun other => sameReference other.reference candidate.reference) =
      some candidate := by
  cases hfind : inventory.find? fun other => sameReference other.reference candidate.reference with
  | none => exact absurd (sameReference_iff.mpr rfl) (List.find?_eq_none.mp hfind candidate hmem)
  | some other =>
    have hsame := List.find?_some hfind
    rw [eq_of_sameReference h (List.mem_of_find?_eq_some hfind) hmem hsame]

theorem score_le {compareNames : MmsRcbCandidateEvaluation → MmsRcbCandidateEvaluation → Ordering}
    {left right : MmsRcbCandidateEvaluation} (hleft : left.decision = .candidate)
    (hright : right.decision = .candidate)
    (h : compareLex compareRank compareNames right left ≠ .lt) : right.score ≤ left.score := by
  by_contra hlt
  refine h ?_
  have hscore : compare (-right.score) (-left.score) = .lt := Int.compare_eq_lt.mpr (by omega)
  have hrank : compareRank right left = .lt := by
    simp only [compareRank, compareLex, compareOn, MmsRcbCandidateEvaluation.selectable, hleft,
      hright, hscore]
    rfl
  rw [compareLex, hrank]
  rfl

theorem nodup_of_distinct {inventory : List MmsRcbCandidate} (h : Distinct inventory) :
    inventory.Nodup := by
  refine h.distinct.imp ?_
  rintro a b hne rfl
  rw [sameReference_iff.mpr rfl] at hne
  cases hne

theorem finalizeDecision_reference (reference : Bytes) (evaluation : MmsRcbCandidateEvaluation) :
    (finalizeDecision reference evaluation).reference = evaluation.reference := by
  unfold finalizeDecision
  split
  · rfl
  · split <;> rfl

/-- The decisions before a selection are final for the others. -/
theorem finalizeDecision_decision (reference : Bytes) {evaluation : MmsRcbCandidateEvaluation}
    (h : ∃ filteredOut selectable, evaluation.decision = decided filteredOut selectable) :
    (finalizeDecision reference evaluation).decision =
      if sameReference evaluation.reference reference then .selected else evaluation.decision := by
  obtain ⟨filteredOut, selectable, hdecision⟩ := h
  unfold finalizeDecision MmsRcbCandidateEvaluation.selectable
  split
  · rfl
  · split
    · rename_i hin
      rw [hdecision] at hin ⊢
      cases filteredOut with
      | true => exact absurd rfl hin
      | false => cases selectable <;> rfl
    · rfl

section Select

variable {discovery : MmsRcbDiscovery} {evaluate : MmsRcbCandidate → MmsRcbCandidateEvaluation}
  {Usable : MmsRcbCandidate → Prop} {sorted : List MmsRcbCandidateEvaluation}
  {selection : MmsRcbSelectionEvidence}
  {compareNames : MmsRcbCandidateEvaluation → MmsRcbCandidateEvaluation → Ordering}

/-- **What a selection makes of its evaluations.** -/
theorem select_safe (h : Distinct discovery.inventory)
    (hreference : ∀ candidate, (evaluate candidate).reference = candidate.reference)
    (hdecided : ∀ candidate, ∃ filteredOut selectable,
      (evaluate candidate).decision = decided filteredOut selectable)
    (husable : ∀ candidate ∈ discovery.inventory,
      (evaluate candidate).decision = .candidate ↔ Usable candidate)
    (hperm : sorted.Perm (discovery.inventory.map evaluate))
    (hsorted : sorted.Pairwise fun left right =>
      compareLex compareRank compareNames right left ≠ .lt)
    (hselected : selection.selectedRcbReference = firstSelectableReference sorted)
    (hcandidates : selection.candidates =
      finalizeDecisions sorted (firstSelectableReference sorted)) :
    Safe discovery evaluate Usable selection := by
  have hmem : ∀ evaluation ∈ sorted, ∃ candidate ∈ discovery.inventory,
      evaluate candidate = evaluation := fun evaluation hevaluation =>
    List.mem_map.mp (hperm.mem_iff.mp hevaluation)
  have hunselected : ∀ candidate, (evaluate candidate).decision ≠ .selected := fun candidate =>
    decided_ne_selected (hdecided candidate)
  have hselectable : ∀ candidate ∈ discovery.inventory,
      (evaluate candidate).selectable = true ↔ Usable candidate := by
    intro candidate hcandidate
    rw [← husable candidate hcandidate, MmsRcbCandidateEvaluation.selectable, Bool.or_eq_true,
      beq_iff_eq, beq_iff_eq, or_iff_left (hunselected candidate)]
  unfold firstSelectableReference at hselected hcandidates
  cases hfind : sorted.find? (·.selectable) with
  | none =>
    rw [hfind] at hselected hcandidates
    dsimp only at hselected hcandidates
    rw [finalizeDecisions, if_pos rfl] at hcandidates
    refine ⟨fun hne => absurd hselected hne, ?_, ?_, fun _ candidate hcandidate hcan => ?_⟩
    · intro candidate hcandidate hout evaluation hevaluation hsame
      rw [hcandidates] at hevaluation
      obtain ⟨other, hother, rfl⟩ := hmem evaluation hevaluation
      rw [hreference] at hsame
      rw [eq_of_sameReference h hother hcandidate (sameReference_iff.mpr (by rw [hsame]))]
      exact hout
    · rw [hcandidates]
      have hrefs := hperm.map (·.reference)
      rw [List.map_map] at hrefs
      exact hrefs.trans (.of_eq (List.map_congr_left fun candidate _ => hreference candidate))
    · have hnone := List.find?_eq_none.mp hfind (evaluate candidate)
        (hperm.mem_iff.mpr (List.mem_map_of_mem hcandidate))
      exact hnone ((hselectable candidate hcandidate).mpr hcan)
  | some first =>
    rw [hfind] at hselected hcandidates
    dsimp only at hselected hcandidates
    obtain ⟨hfirst, before, behind, hsplit, hbefore⟩ := List.find?_eq_some_iff_append.mp hfind
    obtain ⟨candidate, hcandidate, rfl⟩ := hmem first (List.mem_of_find?_eq_some hfind)
    have hcan := (hselectable candidate hcandidate).mp hfirst
    rw [hreference] at hselected hcandidates
    have hnil : candidate.reference ≠ [] := by
      intro hnil
      refine h.nonblank candidate hcandidate ?_
      rw [hnil]
      rfl
    rw [finalizeDecisions, if_neg hnil] at hcandidates
    -- The final decision on every control block.
    have hfinal : ∀ other ∈ discovery.inventory,
        (finalizeDecision candidate.reference (evaluate other)).decision =
          if other = candidate then .selected else (evaluate other).decision := by
      intro other hother
      rw [finalizeDecision_decision _ (hdecided other), hreference]
      by_cases hsame : sameReference other.reference candidate.reference = true
      · rw [if_pos hsame, if_pos (eq_of_sameReference h hother hcandidate hsame)]
      · have hne : other ≠ candidate := by
          rintro rfl
          exact hsame (sameReference_iff.mpr rfl)
        rw [if_neg hsame, if_neg hne]
    have hscores : ∀ other ∈ discovery.inventory, Usable other →
        (evaluate other).score ≤ (evaluate candidate).score := by
      intro other hother hcan'
      have hdecision := (husable candidate hcandidate).mpr hcan
      have hdecision' := (husable other hother).mpr hcan'
      have hin : evaluate other ∈ before ++ evaluate candidate :: behind := by
        rw [← hsplit]
        exact hperm.mem_iff.mpr (List.mem_map_of_mem hother)
      rw [hsplit] at hsorted
      rcases List.mem_append.mp hin with hin | hin
      · have hnot := hbefore _ hin
        rw [(hselectable other hother).mpr hcan'] at hnot
        cases hnot
      rcases List.mem_cons.mp hin with hsame | hin
      · rw [hsame]
      · have hpair := (List.pairwise_cons.mp (List.pairwise_append.mp hsorted).2.1).1 _ hin
        exact score_le hdecision hdecision' hpair
    have hmemFinal : ∀ evaluation ∈ selection.candidates, ∃ other ∈ discovery.inventory,
        evaluation = finalizeDecision candidate.reference (evaluate other) := by
      intro evaluation hevaluation
      rw [hcandidates] at hevaluation
      obtain ⟨found, hfound, rfl⟩ := List.mem_map.mp hevaluation
      obtain ⟨other, hother, rfl⟩ := hmem found hfound
      exact ⟨other, hother, rfl⟩
    have hone : selection.candidates.countP (fun evaluation => evaluation.decision == .selected) = 1 := by
      rw [hcandidates, List.countP_map, hperm.countP_eq, List.countP_map,
        ← List.count_eq_one_of_mem (nodup_of_distinct h) hcandidate, List.count]
      refine List.countP_congr fun other hother => ?_
      rw [Function.comp_apply, Function.comp_apply, beq_iff_eq, beq_iff_eq, hfinal other hother]
      split
      · rename_i hsame
        exact ⟨fun _ => hsame, fun _ => rfl⟩
      · rename_i hne
        exact ⟨fun hchosen => absurd hchosen (hunselected other), fun hsame => absurd hsame hne⟩
    refine ⟨fun _ => ⟨candidate, hcandidate, ?_, hcan, hscores, ?_, hone⟩, ?_, ?_, fun hnone => ?_⟩
    · unfold selectReportControl
      rw [hselected, if_neg hnil]
      exact find_of_distinct h hcandidate
    · intro evaluation hevaluation
      obtain ⟨other, hother, rfl⟩ := hmemFinal evaluation hevaluation
      rw [hfinal other hother, finalizeDecision_reference, hreference]
      split
      · rename_i hsame
        exact ⟨fun _ => congrArg _ hsame, fun _ => rfl⟩
      · rename_i hne
        refine ⟨fun hchosen => absurd hchosen (hunselected other), fun hsame => ?_⟩
        exact absurd (eq_of_sameReference h hother hcandidate
          (sameReference_iff.mpr (by rw [hsame]))) hne
    · intro other hother hout evaluation hevaluation hsame
      obtain ⟨found, hfound, rfl⟩ := hmemFinal evaluation hevaluation
      rw [finalizeDecision_reference, hreference] at hsame
      have hfoundEq := eq_of_sameReference h hfound hother (sameReference_iff.mpr (by rw [hsame]))
      subst hfoundEq
      rw [hfinal found hfound]
      split
      · rename_i hchosen
        rw [hchosen, (husable candidate hcandidate).mpr hcan] at hout
        cases hout
      · exact hout
    · rw [hcandidates, List.map_map]
      have hrefs := hperm.map (·.reference)
      rw [List.map_map] at hrefs
      refine (List.Perm.of_eq (List.map_congr_left fun evaluation _ => ?_)).trans
        (hrefs.trans (.of_eq (List.map_congr_left fun other _ => hreference other)))
      exact finalizeDecision_reference _ _
    · rw [hselected] at hnone
      exact absurd hnone hnil

end Select

theorem selected_buildStatic (sorting : Sorting MmsRcbCandidateEvaluation compareStatic)
    (discovery : MmsRcbDiscovery) (options : MmsRcbStaticSelectionOptions) :
    (buildStaticSelection sorting discovery options).selectedRcbReference =
      firstSelectableReference
        (sorting.sort (discovery.inventory.map (evaluateStatic discovery options))) := by
  unfold buildStaticSelection selectionEvidence
  dsimp only
  split
  · rfl
  · split <;> rfl

/-- **Both selections are safe** if the references are distinct up to blanks, case and dollars. -/
theorem selection_safe (staticSorting : Sorting MmsRcbCandidateEvaluation compareStatic)
    (dynamicSorting : Sorting MmsRcbCandidateEvaluation compareDynamic) {discovery : MmsRcbDiscovery}
    (staticOptions : MmsRcbStaticSelectionOptions) (dynamicOptions : MmsRcbDynamicSelectionOptions)
    (h : Distinct discovery.inventory) :
    Safe discovery (evaluateStatic discovery staticOptions)
        (StaticallyUsable discovery staticOptions)
        (buildStaticSelection staticSorting discovery staticOptions) ∧
      Safe discovery (evaluateDynamic discovery dynamicOptions)
        (DynamicallyUsable discovery dynamicOptions)
        (buildDynamicSelection dynamicSorting discovery dynamicOptions) := by
  constructor
  · refine select_safe h (evaluateStatic_reference _ _) (fun _ => ⟨_, _, rfl⟩) (fun candidate hcandidate =>
      evaluateStatic_candidate (h.nonblank candidate hcandidate)) (staticSorting.perm _)
      (staticSorting.sorted _) (selected_buildStatic _ _ _) ?_
    · unfold buildStaticSelection selectionEvidence
      dsimp only
      split
      · rfl
      · split <;> rfl
  · refine select_safe h (fun candidate => congrArg MmsRcbCandidate.reference (project_candidate discovery candidate)) (fun _ => ⟨_, _, rfl⟩) (fun candidate hcandidate =>
      evaluateDynamic_candidate (h.nonblank candidate hcandidate)) (dynamicSorting.perm _)
      (dynamicSorting.sorted _) ?_ ?_
    · unfold buildDynamicSelection selectionEvidence
      dsimp only
      split
      · rfl
      · split <;> rfl
    · unfold buildDynamicSelection selectionEvidence
      dsimp only
      split
      · rfl
      · split <;> rfl

/-! ## A sorting -/

instance : Std.TransCmp compareStatic := by
  unfold compareStatic compareRank compareNames
  infer_instance

instance : Std.TransCmp compareDynamic := by
  unfold compareDynamic compareRank compareNames
  infer_instance

/-- Insertion sort is one of the sortings. -/
def insertionSorting {α : Type} (compare : α → α → Ordering) [Std.TransCmp compare] :
    Sorting α compare where
  sort := List.insertionSort fun left right => compare right left ≠ .lt
  perm := List.perm_insertionSort _
  sorted l := by
    have hle : ∀ left right, compare right left ≠ .lt ↔ (compare left right).isLE = true := by
      intro left right
      rw [@Std.OrientedCmp.eq_swap α compare _ left right]
      cases compare right left <;> decide
    have : Std.Total fun left right => compare right left ≠ .lt := by
      refine ⟨fun left right => ?_⟩
      rw [@Std.OrientedCmp.eq_swap α compare _ left right]
      cases compare right left <;> decide
    have : IsTrans α fun left right => compare right left ≠ .lt := by
      refine ⟨fun a b c hab hbc => ?_⟩
      rw [hle] at hab hbc ⊢
      exact Std.TransCmp.isLE_trans hab hbc
    exact List.pairwise_insertionSort _ l

/-! ## Selections of two control blocks -/

def blockNamed (reference : Bytes) (buffered : Bool) : MmsRcbCandidate :=
  { buffered, reference }

/-- `a` is free and has the data set `d`, `b` is free and has none. -/
def twoBlocks : MmsRcbDiscovery :=
  { inventory := [blockNamed [0x61] true, blockNamed [0x62] false]
    reportControls := [
      { candidate := blockNamed [0x61] true
        state := some { dataSetReference := [0x64], reportEnabled := some false } },
      { candidate := blockNamed [0x62] false, state := some { reportEnabled := some false } }]
    dataSetDirectories := [{ reference := [0x64], directory := some { members := [{}] } }] }

theorem selection_safe_twoBlocks :
    (buildStaticSelection (insertionSorting compareStatic) twoBlocks {}).selectedRcbReference =
        [0x61] ∧
      (buildDynamicSelection (insertionSorting compareDynamic) twoBlocks {}).selectedRcbReference =
        [0x62] ∧
      Safe twoBlocks (evaluateStatic twoBlocks {}) (StaticallyUsable twoBlocks {})
        (buildStaticSelection (insertionSorting compareStatic) twoBlocks {}) ∧
      Safe twoBlocks (evaluateDynamic twoBlocks {}) (DynamicallyUsable twoBlocks {})
        (buildDynamicSelection (insertionSorting compareDynamic) twoBlocks {}) :=
  ⟨by decide, by decide,
    selection_safe (insertionSorting compareStatic) (insertionSorting compareDynamic) {} {}
      ⟨by decide, by decide⟩⟩

/-- `a/b$c` is unbuffered and `a/b.c` is buffered; both have the data set `d`. -/
def twoSpellings : MmsRcbDiscovery :=
  { inventory := [blockNamed [0x61, 0x2F, 0x62, 0x24, 0x63] false,
      blockNamed [0x61, 0x2F, 0x62, 0x2E, 0x63] true]
    reportControls := [
      { candidate := blockNamed [0x61, 0x2F, 0x62, 0x24, 0x63] false
        state := some { dataSetReference := [0x64], reportEnabled := some false } }]
    dataSetDirectories := [{ reference := [0x64], directory := some { members := [{}] } }] }

/-- The references differ, but the selected control block is the one that the policy rules out. -/
theorem selection_unsafe :
    twoSpellings.inventory.Pairwise (fun a b => a.reference ≠ b.reference) ∧
      (selectReportControl twoSpellings (buildStaticSelection (insertionSorting compareStatic)
        twoSpellings { allowUrcbFallback := false })).map (·.buffered) = some false := by
  decide

end ArStack.Mms.MmsRcbPoolSelector
