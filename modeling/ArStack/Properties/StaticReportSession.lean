import ArStack.Mms.StaticReportSession
import ArStack.Properties.RcbSelection

/-!
# Preparation of a static report session

Every round of `prepare` ends it or excludes one more control block from the next selection.

* `attempted` — what a round can come to
* `Probing` — the invariant of the rounds
* `prepareLoop_fuel`, `prepareLoop_run` — there are not more rounds than attempts, and what they
  come to
* `prepare_run`
-/

namespace ArStack.Mms

open ArStack.Lib MmsRcbPoolSelector

/-! ## The tracker -/

namespace MmsRcbPreclaimFailoverTracker

/-- What the tracker is after a probe. -/
structure Observed (tracker : MmsRcbPreclaimFailoverTracker) (result : MmsRcbContentionProbeResult)
    (outcome : MmsRcbPreclaimOutcome) (after : MmsRcbPreclaimFailoverTracker) : Prop where
  maximum : after.maximumCandidateAttempts = tracker.maximumCandidateAttempts
  count : after.attempts.length = tracker.attempts.length + 1
  outcome : outcome = .stableProceed ↔ result.isContended = false
  contended : result.isContended = true →
    after.selectedRcbReference = tracker.selectedRcbReference ∧
      after.excludedRcbReferences = tracker.excludedRcbReferences ++ [result.rcbReference] ∧
      after.exhausted =
        decide (tracker.attempts.length + 1 ≥ tracker.maximumCandidateAttempts)

theorem observe_ok {tracker after : MmsRcbPreclaimFailoverTracker}
    {result : MmsRcbContentionProbeResult} {outcome : MmsRcbPreclaimOutcome}
    (h : tracker.observe result = .ok (outcome, after)) : tracker.Observed result outcome after := by
  unfold observe at h
  split at h
  · cases h
  split at h
  · cases h
  split at h
  · cases h
  split at h
  · rename_i hcontended
    cases h
    refine ⟨rfl, List.length_append, ?_, fun hcont => ?_⟩
    · simpa using hcontended
    · rw [hcont] at hcontended
      cases hcontended
  · rename_i hcontended
    cases h
    refine ⟨rfl, List.length_append, ?_, fun _ => ⟨rfl, rfl, rfl⟩⟩
    have hcont : result.isContended = true := by simpa using hcontended
    rw [hcont]
    split <;> simp

/-- A control block that is not excluded is observed. -/
theorem observe_of_fresh {tracker : MmsRcbPreclaimFailoverTracker}
    {result : MmsRcbContentionProbeResult} (hmay : tracker.mayAttempt = true)
    (hne : result.rcbReference ≠ []) (hfresh : result.rcbReference ∉ tracker.excludedRcbReferences) :
    ∃ outcome after, tracker.observe result = .ok (outcome, after) := by
  unfold observe
  rw [hmay, Bool.not_true, if_neg Bool.false_ne_true, if_neg hne,
    if_neg (fun hmem => hfresh (List.contains_iff_mem.mp hmem))]
  split
  · exact ⟨_, _, rfl⟩
  · exact ⟨_, _, rfl⟩

end MmsRcbPreclaimFailoverTracker

namespace MmsStaticReportSessionRuntime

/-! ## The binding -/

/-- The control block of that reference has a state with a data set, and the data set a directory. -/
structure Bound (discovery : MmsRcbDiscovery) (reference : Bytes) (state : MmsRcbState)
    (directory : MmsDataSetDirectoryResponse) : Prop where
  evidence : ∃ evidence, findControlEvidence discovery reference = some evidence ∧
    evidence.state = some state
  named : state.dataSetReference ≠ []
  listed : ∃ evidence, findDirectoryEvidence discovery state.dataSetReference = some evidence ∧
    evidence.directory = some directory
  populated : directory.members ≠ []

theorem resolve_ok {discovery : MmsRcbDiscovery} {candidate : MmsRcbCandidate}
    {session after : MmsStaticReportSessionRuntime}
    (h : resolveSelectedStaticBinding discovery candidate session = (.ok (), after)) :
    ∃ state directory, Bound discovery candidate.reference state directory ∧
      after = { session with
        selectedDataSetReference := state.dataSetReference
        selectedDirectory := some directory } := by
  unfold resolveSelectedStaticBinding at h
  cases hstate : (findControlEvidence discovery candidate.reference).bind (·.state) with
  | none =>
    rw [hstate] at h
    cases h
  | some state =>
    rw [hstate] at h
    dsimp only at h
    split at h
    · cases h
    rename_i hnamed
    cases hdirectory : (findDirectoryEvidence discovery state.dataSetReference).bind (·.directory) with
    | none =>
      rw [hdirectory] at h
      cases h
    | some directory =>
      rw [hdirectory] at h
      dsimp only at h
      split at h
      · cases h
      rename_i hpopulated
      cases h
      exact ⟨state, directory, ⟨Option.bind_eq_some_iff.mp hstate, hnamed,
        Option.bind_eq_some_iff.mp hdirectory, hpopulated⟩, rfl⟩

theorem resolve_probed {discovery : MmsRcbDiscovery} {candidate : MmsRcbCandidate}
    {session after : MmsStaticReportSessionRuntime} {result : Except MmsPrepareError Unit}
    (h : resolveSelectedStaticBinding discovery candidate session = (result, after)) :
    after.probed = session.probed ∧ ∀ what, result ≠ .error (.logicError what) := by
  unfold resolveSelectedStaticBinding at h
  cases hstate : (findControlEvidence discovery candidate.reference).bind (·.state) with
  | none =>
    rw [hstate] at h
    cases h
    exact ⟨rfl, fun what hwhat => by cases hwhat⟩
  | some state =>
    rw [hstate] at h
    dsimp only at h
    split at h
    · cases h
      exact ⟨rfl, fun what hwhat => by cases hwhat⟩
    cases hdirectory : (findDirectoryEvidence discovery state.dataSetReference).bind (·.directory) with
    | none =>
      rw [hdirectory] at h
      cases h
      exact ⟨rfl, fun what hwhat => by cases hwhat⟩
    | some directory =>
      rw [hdirectory] at h
      dsimp only at h
      split at h
      · cases h
        exact ⟨rfl, fun what hwhat => by cases hwhat⟩
      · cases h
        exact ⟨rfl, fun what hwhat => by cases hwhat⟩

theorem resolve_of_bound {discovery : MmsRcbDiscovery} {candidate : MmsRcbCandidate}
    {state : MmsRcbState} {directory : MmsDataSetDirectoryResponse}
    (h : Bound discovery candidate.reference state directory)
    (session : MmsStaticReportSessionRuntime) :
    ∃ after, resolveSelectedStaticBinding discovery candidate session = (.ok (), after) := by
  unfold resolveSelectedStaticBinding
  rw [Option.bind_eq_some_iff.mpr h.evidence]
  dsimp only
  rw [if_neg h.named, Option.bind_eq_some_iff.mpr h.listed]
  dsimp only
  rw [if_neg h.populated]
  exact ⟨_, rfl⟩

/-! ## Rounds -/

section Rounds

variable (sorting : Sorting MmsRcbCandidateEvaluation compareStatic) (discovery : MmsRcbDiscovery)
  (probe : Nat → MmsRcbCandidate → Except Bytes MmsRcbContentionProbeResult)

/-- The control block that is probed next. -/
def next (session : MmsStaticReportSessionRuntime) : Option MmsRcbCandidate :=
  selectReportControl discovery (nextSelection sorting discovery session)

/-- The session with a probe more. -/
def afterProbe (session : MmsStaticReportSessionRuntime) (candidate : MmsRcbCandidate) :
    MmsStaticReportSessionRuntime :=
  { session with probed := session.probed ++ [candidate] }

/-- What a round can come to. -/
inductive Attempted (session : MmsStaticReportSessionRuntime) : Step → Prop where
  | left (blockers : List Bytes)
      (h : session.failover.mayAttempt = true → next sorting discovery session = none) :
      Attempted session (.done .left { session with blockers })
  | unanswered {candidate : MmsRcbCandidate} {what : Bytes}
      (hmay : session.failover.mayAttempt = true)
      (hnext : next sorting discovery session = some candidate)
      (hprobe : probe (session.probed.length + 1) candidate = .error what) :
      Attempted session (.done (.threw (.probe what)) (session.afterProbe candidate))
  | unobserved {candidate : MmsRcbCandidate} {contention : MmsRcbContentionProbeResult}
      {what : MmsPrepareError}
      (hmay : session.failover.mayAttempt = true)
      (hnext : next sorting discovery session = some candidate)
      (hprobe : probe (session.probed.length + 1) candidate = .ok contention)
      (hobserve : session.failover.observe { contention with rcbReference := candidate.reference } =
        .error what) :
      Attempted session (.done (.threw what) (session.afterProbe candidate))
  | contended {candidate : MmsRcbCandidate} {contention : MmsRcbContentionProbeResult}
      {outcome : MmsRcbPreclaimOutcome} {failover : MmsRcbPreclaimFailoverTracker}
      (hmay : session.failover.mayAttempt = true)
      (hnext : next sorting discovery session = some candidate)
      (hprobe : probe (session.probed.length + 1) candidate = .ok contention)
      (hcontended : contention.isContended = true)
      (hobserve : session.failover.observe { contention with rcbReference := candidate.reference } =
        .ok (outcome, failover)) :
      Attempted session (.again { session.afterProbe candidate with failover })
  | unbound {candidate : MmsRcbCandidate} {contention : MmsRcbContentionProbeResult}
      {outcome : MmsRcbPreclaimOutcome} {failover : MmsRcbPreclaimFailoverTracker}
      {what : MmsPrepareError} {after : MmsStaticReportSessionRuntime}
      (hmay : session.failover.mayAttempt = true)
      (hnext : next sorting discovery session = some candidate)
      (hprobe : probe (session.probed.length + 1) candidate = .ok contention)
      (hfree : contention.isContended = false)
      (hobserve : session.failover.observe { contention with rcbReference := candidate.reference } =
        .ok (outcome, failover))
      (hbinding : ∀ state directory, ¬Bound discovery candidate.reference state directory)
      (hprobed : after.probed = (session.afterProbe candidate).probed)
      (hwhat : ∀ text, what ≠ .logicError text) :
      Attempted session (.done (.threw what) after)
  | bound {candidate : MmsRcbCandidate} {contention : MmsRcbContentionProbeResult}
      {outcome : MmsRcbPreclaimOutcome} {failover : MmsRcbPreclaimFailoverTracker}
      {state : MmsRcbState} {directory : MmsDataSetDirectoryResponse}
      (hmay : session.failover.mayAttempt = true)
      (hnext : next sorting discovery session = some candidate)
      (hprobe : probe (session.probed.length + 1) candidate = .ok contention)
      (hfree : contention.isContended = false)
      (hobserve : session.failover.observe { contention with rcbReference := candidate.reference } =
        .ok (outcome, failover))
      (hbinding : Bound discovery candidate.reference state directory) :
      Attempted session (.done .prepared
        { session.afterProbe candidate with
          failover
          selectedCandidate := some candidate
          selectedDataSetReference := state.dataSetReference
          selectedDirectory := some directory
          prepared := true })

theorem attempted (session : MmsStaticReportSessionRuntime) :
    Attempted sorting discovery probe session (attempt sorting discovery probe session) := by
  have hnone : (nextSelection sorting discovery session).selectedRcbReference = [] →
      next sorting discovery session = none := by
    intro hselected
    rw [next, selectReportControl, if_pos hselected]
  unfold attempt
  cases hmay : session.failover.mayAttempt with
  | false =>
    rw [Bool.not_false, if_pos rfl]
    exact .left session.blockers fun htrue => absurd (hmay.symm.trans htrue) Bool.false_ne_true
  | true =>
    rw [Bool.not_true, if_neg Bool.false_ne_true]
    dsimp only
    by_cases hselected : (nextSelection sorting discovery session).selectedRcbReference = []
    · rw [if_pos hselected]
      exact .left _ fun _ => hnone hselected
    rw [if_neg hselected]
    cases hcandidate : selectReportControl discovery (nextSelection sorting discovery session) with
    | none => exact .left _ fun _ => hcandidate
    | some candidate =>
      dsimp only
      rw [List.length_append, List.length_singleton]
      cases hprobe : probe (session.probed.length + 1) candidate with
      | error what => exact .unanswered hmay hcandidate hprobe
      | ok contention =>
        dsimp only
        cases hobserve : session.failover.observe
            { contention with rcbReference := candidate.reference } with
        | error what => exact .unobserved hmay hcandidate hprobe hobserve
        | ok observed =>
          obtain ⟨outcome, failover⟩ := observed
          have hobserved := MmsRcbPreclaimFailoverTracker.observe_ok hobserve
          cases hcontended : contention.isContended with
          | true =>
            cases outcome with
            | stableProceed =>
              have hfree : contention.isContended = false := hobserved.outcome.mp rfl
              rw [hcontended] at hfree
              cases hfree
            | skippedContended => exact .contended hmay hcandidate hprobe hcontended hobserve
            | attemptsExhausted => exact .contended hmay hcandidate hprobe hcontended hobserve
          | false =>
            obtain rfl := hobserved.outcome.mpr hcontended
            dsimp only
            cases hresolve : resolveSelectedStaticBinding discovery candidate
                { session.afterProbe candidate with
                  failover
                  selectedCandidate := some candidate } with
            | mk result after =>
              obtain ⟨hprobed, hwhat⟩ := resolve_probed hresolve
              unfold afterProbe at hresolve
              rw [hresolve]
              cases result with
              | error what =>
                refine .unbound hmay hcandidate hprobe hcontended hobserve ?_ hprobed
                  fun text htext => hwhat text (congrArg _ htext)
                intro state directory hbound
                obtain ⟨bound, hok⟩ := resolve_of_bound hbound _
                cases hresolve.symm.trans hok
              | ok done =>
                obtain ⟨state, directory, hbound, rfl⟩ := resolve_ok hresolve
                exact .bound hmay hcandidate hprobe hcontended hobserve hbound

/-! ## The invariant of the rounds -/

/-- No reference is blank. -/
def Nonblank (inventory : List MmsRcbCandidate) : Prop :=
  ∀ candidate ∈ inventory, referenceKey candidate.reference ≠ []

/-- A session between two rounds of the loop. -/
structure Probing (session : MmsStaticReportSessionRuntime) : Prop where
  unselected : session.failover.selectedRcbReference = []
  excluded : session.failover.excludedRcbReferences = session.probed.map (·.reference)
  count : session.failover.attempts.length = session.probed.length
  exhausted : session.failover.exhausted =
    decide (session.failover.maximumCandidateAttempts ≤ session.probed.length)
  within : session.probed.length ≤ session.failover.maximumCandidateAttempts
  distinct : Nonblank discovery.inventory →
    session.probed.Pairwise fun a b => sameReference a.reference b.reference = false

variable {sorting discovery probe}

theorem Probing.mayAttempt {session : MmsStaticReportSessionRuntime} (h : Probing discovery session) :
    session.failover.mayAttempt = true ↔
      session.probed.length < session.failover.maximumCandidateAttempts := by
  unfold MmsRcbPreclaimFailoverTracker.mayAttempt
  rw [h.unselected, h.exhausted, h.count, List.isEmpty_nil, Bool.true_and, Bool.and_eq_true,
    Bool.not_eq_true', decide_eq_false_iff_not, decide_eq_true_eq, Nat.not_le, and_self]

/-- The selected control block is usable. -/
theorem selected_usable (hblank : Nonblank discovery.inventory)
    {options : MmsRcbStaticSelectionOptions}
    (h : (buildStaticSelection sorting discovery options).selectedRcbReference ≠ []) :
    ∃ candidate ∈ discovery.inventory, StaticallyUsable discovery options candidate ∧
      candidate.reference = (buildStaticSelection sorting discovery options).selectedRcbReference := by
  have hselected := selected_buildStatic sorting discovery options
  rw [hselected] at h ⊢
  unfold firstSelectableReference at h ⊢
  cases hfind : (sorting.sort (discovery.inventory.map (evaluateStatic discovery options))).find?
      (·.selectable) with
  | none =>
    rw [hfind] at h
    exact absurd rfl h
  | some evaluation =>
    have hmem := (sorting.perm _).mem_iff.mp (List.mem_of_find?_eq_some hfind)
    obtain ⟨candidate, hcandidate, rfl⟩ := List.mem_map.mp hmem
    refine ⟨candidate, hcandidate, ?_, ?_⟩
    · exact (evaluateStatic_selectable (hblank candidate hcandidate)).mp (List.find?_some hfind)
    · exact (evaluateStatic_reference discovery options candidate).symm

/-- The next control block was not probed. -/
theorem next_fresh (hblank : Nonblank discovery.inventory) {session : MmsStaticReportSessionRuntime}
    (h : Probing discovery session) {candidate : MmsRcbCandidate}
    (hnext : next sorting discovery session = some candidate) :
    candidate.reference ≠ [] ∧
      ∀ other ∈ session.probed, sameReference other.reference candidate.reference = false := by
  unfold next selectReportControl at hnext
  split at hnext
  · cases hnext
  rename_i hselected
  have hmem := List.mem_of_find?_eq_some hnext
  have hfound := List.find?_some hnext
  change sameReference candidate.reference
    (nextSelection sorting discovery session).selectedRcbReference = true at hfound
  have hsame := sameReference_iff.mp hfound
  obtain ⟨chosen, hchosen, husable, hreference⟩ := selected_usable hblank hselected
  refine ⟨?_, fun other hother => ?_⟩
  · intro hnil
    refine hblank candidate hmem ?_
    rw [hnil]
    rfl
  · have hexcluded := husable.admitted.notExcluded other.reference
      (h.excluded ▸ List.mem_map_of_mem hother)
    refine Bool.eq_false_iff.mpr fun hagain => Bool.eq_false_iff.mp hexcluded ?_
    rw [sameReference_iff] at hagain ⊢
    rw [hagain, hsame, hreference]
    rfl

/-- The tracker refuses only what was excluded before. -/
theorem observe_of_next (hblank : Nonblank discovery.inventory)
    {session : MmsStaticReportSessionRuntime} (h : Probing discovery session)
    (hmay : session.failover.mayAttempt = true) {candidate : MmsRcbCandidate}
    (hnext : next sorting discovery session = some candidate)
    (contention : MmsRcbContentionProbeResult) :
    ∃ outcome failover, session.failover.observe
      { contention with rcbReference := candidate.reference } = .ok (outcome, failover) := by
  obtain ⟨hne, hfresh⟩ := next_fresh hblank h hnext
  have hnot : candidate.reference ∉ session.failover.excludedRcbReferences := by
    rw [h.excluded]
    intro hmem
    obtain ⟨other, hother, hsame⟩ := List.mem_map.mp hmem
    have hdiffer := hfresh other hother
    rw [hsame, sameReference_iff.mpr rfl] at hdiffer
    cases hdiffer
  exact MmsRcbPreclaimFailoverTracker.observe_of_fresh hmay hne hnot

/-- A round that does not end the loop keeps the invariant. -/
theorem Probing.again {session after : MmsStaticReportSessionRuntime}
    (h : Probing discovery session) (hagain : attempt sorting discovery probe session = .again after) :
    Probing discovery after ∧ after.probed.length = session.probed.length + 1 ∧
      after.failover.maximumCandidateAttempts = session.failover.maximumCandidateAttempts ∧
      session.failover.mayAttempt = true := by
  have hattempted := attempted sorting discovery probe session
  rw [hagain] at hattempted
  cases hattempted with
  | @contended candidate contention outcome failover hmay hnext hprobe hcontended hobserve =>
    have hobserved := MmsRcbPreclaimFailoverTracker.observe_ok hobserve
    obtain ⟨hselected, hexcluded, hexhausted⟩ := hobserved.contended hcontended
    have hlength : (session.afterProbe candidate).probed.length = session.probed.length + 1 :=
      List.length_append
    refine ⟨⟨?_, ?_, ?_, ?_, ?_, fun hblank => ?_⟩, hlength, hobserved.maximum, hmay⟩
    · exact hselected.trans h.unselected
    · rw [hexcluded, h.excluded]
      exact (@List.map_append _ _ MmsRcbCandidate.reference session.probed [candidate]).symm
    · rw [hobserved.count, h.count]
      exact hlength.symm
    · rw [hexhausted, hobserved.maximum, hlength, h.count]
    · rw [hobserved.maximum, hlength]
      exact h.mayAttempt.mp hmay
    · obtain ⟨-, hfresh⟩ := next_fresh hblank h hnext
      refine List.pairwise_append.mpr ⟨h.distinct hblank, List.pairwise_singleton _ _, ?_⟩
      intro other hother last hlast
      rw [List.mem_singleton.mp hlast]
      exact hfresh other hother

/-- **What the session is when the loop is left.** -/
theorem Probing.done {session after : MmsStaticReportSessionRuntime} {how : LoopEnd}
    (h : Probing discovery session)
    (hdone : attempt sorting discovery probe session = .done how after) :
    after.probed.length ≤ session.failover.maximumCandidateAttempts ∧
      (Nonblank discovery.inventory →
        (after.probed.Pairwise fun a b => sameReference a.reference b.reference = false) ∧
        ∀ what, how ≠ .threw (.logicError what)) := by
  have hprobed : ∀ candidate, session.failover.mayAttempt = true →
      next sorting discovery session = some candidate →
      (session.afterProbe candidate).probed.length ≤ session.failover.maximumCandidateAttempts ∧
        (Nonblank discovery.inventory →
          (session.afterProbe candidate).probed.Pairwise fun a b =>
            sameReference a.reference b.reference = false) := by
    intro candidate hmay hnext
    unfold afterProbe
    refine ⟨?_, fun hblank => ?_⟩
    · rw [List.length_append]
      exact h.mayAttempt.mp hmay
    · obtain ⟨-, hfresh⟩ := next_fresh hblank h hnext
      refine List.pairwise_append.mpr ⟨h.distinct hblank, List.pairwise_singleton _ _, ?_⟩
      intro other hother last hlast
      rw [List.mem_singleton.mp hlast]
      exact hfresh other hother
  have hattempted := attempted sorting discovery probe session
  rw [hdone] at hattempted
  cases hattempted with
  | left blockers hnone =>
    exact ⟨h.within, fun hblank => ⟨h.distinct hblank, fun what hwhat => by cases hwhat⟩⟩
  | unanswered hmay hnext _ =>
    obtain ⟨hwithin, hdistinct⟩ := hprobed _ hmay hnext
    exact ⟨hwithin, fun hblank => ⟨hdistinct hblank, fun what hwhat => by cases hwhat⟩⟩
  | @unobserved candidate contention _ hmay hnext hprobe hobserve =>
    obtain ⟨hwithin, hdistinct⟩ := hprobed _ hmay hnext
    refine ⟨hwithin, fun hblank => ?_⟩
    obtain ⟨outcome, failover, hok⟩ := observe_of_next hblank h hmay hnext contention
    cases hobserve.symm.trans hok
  | unbound hmay hnext _ _ _ _ hafter hwhat =>
    obtain ⟨hwithin, hdistinct⟩ := hprobed _ hmay hnext
    rw [hafter]
    exact ⟨hwithin, fun hblank => ⟨hdistinct hblank, fun what heq => hwhat what (LoopEnd.threw.inj heq)⟩⟩
  | bound hmay hnext _ _ _ _ =>
    obtain ⟨hwithin, hdistinct⟩ := hprobed _ hmay hnext
    exact ⟨hwithin, fun hblank => ⟨hdistinct hblank, fun what hwhat => by cases hwhat⟩⟩

/-! ## Runs -/

variable (sorting discovery probe) in
/-- The rounds that found a control block contended. -/
inductive Rejections : MmsStaticReportSessionRuntime → MmsStaticReportSessionRuntime → Prop where
  | none (session : MmsStaticReportSessionRuntime) : Rejections session session
  | more {session between after : MmsStaticReportSessionRuntime}
      (hfirst : attempt sorting discovery probe session = .again between)
      (hrest : Rejections between after) : Rejections session after

theorem Rejections.probing {session after : MmsStaticReportSessionRuntime}
    (hrun : Rejections sorting discovery probe session after) (h : Probing discovery session) :
    Probing discovery after ∧
      after.failover.maximumCandidateAttempts = session.failover.maximumCandidateAttempts := by
  induction hrun with
  | none session => exact ⟨h, rfl⟩
  | more hfirst hrest ih =>
    obtain ⟨hbetween, -, hmaximum, -⟩ := h.again hfirst
    obtain ⟨hafter, hsame⟩ := ih hbetween
    exact ⟨hafter, hsame.trans hmaximum⟩

theorem attempt_exhausted {session : MmsStaticReportSessionRuntime}
    (h : session.failover.mayAttempt = false) :
    attempt sorting discovery probe session = .done .left session := by
  unfold attempt
  rw [h, Bool.not_false, if_pos rfl]

/-- **The loop comes to the end of some rounds**, before it is out of them. -/
theorem prepareLoop_run {fuel : Nat} {session : MmsStaticReportSessionRuntime}
    (h : Probing discovery session)
    (hfuel : session.failover.maximumCandidateAttempts ≤ session.probed.length + fuel) :
    ∃ before, Rejections sorting discovery probe session before ∧
      attempt sorting discovery probe before = .done
        (prepareLoop sorting discovery probe fuel session).1
        (prepareLoop sorting discovery probe fuel session).2 := by
  induction fuel generalizing session with
  | zero =>
    refine ⟨session, .none session, attempt_exhausted ?_⟩
    refine Bool.eq_false_iff.mpr fun hmay => ?_
    have hlt := h.mayAttempt.mp hmay
    omega
  | succ fuel ih =>
    rw [prepareLoop]
    cases hattempt : attempt sorting discovery probe session with
    | again between =>
      obtain ⟨hbetween, hlength, hmaximum, -⟩ := h.again hattempt
      obtain ⟨before, hrun, hdone⟩ := ih hbetween (by omega)
      exact ⟨before, .more hattempt hrun, hdone⟩
    | done how after => exact ⟨session, .none session, hattempt⟩

/-- Rounds and the end of the loop, as they are run. -/
theorem prepareLoop_of_rejections {fuel : Nat} {session before after : MmsStaticReportSessionRuntime}
    {how : LoopEnd} (hrun : Rejections sorting discovery probe session before)
    (hdone : attempt sorting discovery probe before = .done how after)
    (h : Probing discovery session)
    (hfuel : session.failover.maximumCandidateAttempts ≤ session.probed.length + fuel)
    (hmay : before.failover.mayAttempt = true) :
    prepareLoop sorting discovery probe fuel session = (how, after) := by
  induction hrun generalizing fuel with
  | none session =>
    have hlt := h.mayAttempt.mp hmay
    cases fuel with
    | zero => omega
    | succ fuel => rw [prepareLoop, hdone]
  | more hfirst hrest ih =>
    obtain ⟨hbetween, hlength, hmaximum, hfirstMay⟩ := h.again hfirst
    have hlt := h.mayAttempt.mp hfirstMay
    cases fuel with
    | zero => omega
    | succ fuel =>
      rw [prepareLoop, hfirst]
      exact ih hdone hbetween (by omega) hmay

theorem prepareLoop_fuel {fuel : Nat} {session : MmsStaticReportSessionRuntime}
    (h : Probing discovery session)
    (hfuel : session.failover.maximumCandidateAttempts ≤ session.probed.length + fuel) (more : Nat) :
    prepareLoop sorting discovery probe (fuel + more) session =
      prepareLoop sorting discovery probe fuel session := by
  induction fuel generalizing session with
  | zero =>
    have hmay : session.failover.mayAttempt = false := by
      refine Bool.eq_false_iff.mpr fun hmay => ?_
      have hlt := h.mayAttempt.mp hmay
      omega
    rw [Nat.zero_add]
    cases more with
    | zero => rfl
    | succ more =>
      rw [prepareLoop, prepareLoop, attempt_exhausted hmay]
  | succ fuel ih =>
    rw [Nat.add_right_comm, prepareLoop, prepareLoop]
    cases hattempt : attempt sorting discovery probe session with
    | again between =>
      obtain ⟨hbetween, hlength, hmaximum, -⟩ := h.again hattempt
      exact ih hbetween (by omega)
    | done how after => rfl

/-- A round in which the control block is found free and is bound. -/
theorem attempt_of_bound (hblank : Nonblank discovery.inventory)
    {session : MmsStaticReportSessionRuntime} (h : Probing discovery session)
    (hmay : session.failover.mayAttempt = true) {candidate : MmsRcbCandidate}
    (hnext : next sorting discovery session = some candidate)
    {contention : MmsRcbContentionProbeResult}
    (hprobe : probe (session.probed.length + 1) candidate = .ok contention)
    (hfree : contention.isContended = false) {state : MmsRcbState}
    {directory : MmsDataSetDirectoryResponse}
    (hbound : Bound discovery candidate.reference state directory) :
    ∃ after, attempt sorting discovery probe session = .done .prepared after := by
  have hattempted := attempted sorting discovery probe session
  cases hround : attempt sorting discovery probe session with
  | again after =>
    rw [hround] at hattempted
    cases hattempted with
    | contended _ hnext' hprobe' hcontended _ =>
      cases hnext.symm.trans hnext'
      cases hprobe.symm.trans hprobe'
      rw [hfree] at hcontended
      cases hcontended
  | done how after =>
    rw [hround] at hattempted
    cases hattempted with
    | left blockers hnone => cases hnext.symm.trans (hnone hmay)
    | unanswered _ hnext' hprobe' =>
      cases hnext.symm.trans hnext'
      cases hprobe.symm.trans hprobe'
    | @unobserved _ other _ _ hnext' hprobe' hobserve =>
      cases hnext.symm.trans hnext'
      obtain ⟨outcome, failover, hok⟩ := observe_of_next hblank h hmay hnext other
      cases hobserve.symm.trans hok
    | unbound _ hnext' _ _ _ hbinding _ _ =>
      cases hnext.symm.trans hnext'
      exact absurd hbound (hbinding state directory)
    | bound => exact ⟨_, rfl⟩

/-! ## Preparation -/

variable (discovery probe) in
/-- The probe of the last control block was answered without contention, and it is bound. -/
structure Prepared (session : MmsStaticReportSessionRuntime) (candidate : MmsRcbCandidate) : Prop where
  selected : session.selectedCandidate = some candidate
  last : session.probed.getLast? = some candidate
  uncontended : ∃ contention, probe session.probed.length candidate = .ok contention ∧
    contention.isContended = false
  bound : ∃ state directory, Bound discovery candidate.reference state directory ∧
    session.selectedDataSetReference = state.dataSetReference ∧
    session.selectedDirectory = some directory ∧
    ((discovery.reportControls.Pairwise fun a b =>
        sameReference a.candidate.reference b.candidate.reference = false) →
      (findEvidence discovery candidate).bind (·.state) = some state)

/-- With distinct references the evidence of the selection is that of the binding. -/
theorem findEvidence_of_bound {candidate : MmsRcbCandidate} {state : MmsRcbState}
    {directory : MmsDataSetDirectoryResponse}
    (h : Bound discovery candidate.reference state directory)
    (hdistinct : discovery.reportControls.Pairwise fun a b =>
      sameReference a.candidate.reference b.candidate.reference = false) :
    (findEvidence discovery candidate).bind (·.state) = some state := by
  obtain ⟨evidence, hfind, hstate⟩ := h.evidence
  unfold findControlEvidence at hfind
  have hexact := List.find?_some hfind
  have hmem := List.mem_of_find?_eq_some hfind
  refine Option.bind_eq_some_iff.mpr ⟨evidence, ?_, hstate⟩
  rw [beq_iff_eq] at hexact
  unfold findEvidence
  rw [← hexact]
  have : Std.Symm fun a b : MmsReportControlEvidence =>
      sameReference a.candidate.reference b.candidate.reference = false := by
    refine ⟨fun x y hne => ?_⟩
    unfold sameReference at hne ⊢
    rw [Bool.beq_comm]
    exact hne
  cases hfound : discovery.reportControls.find? fun other =>
      sameReference other.candidate.reference evidence.candidate.reference with
  | none => exact absurd (sameReference_iff.mpr rfl) (List.find?_eq_none.mp hfound evidence hmem)
  | some other =>
    have hsame := List.find?_some hfound
    have hother := List.mem_of_find?_eq_some hfound
    by_contra hne
    have hfalse := hdistinct.forall hother hmem fun heq => hne (congrArg some heq)
    rw [hsame] at hfalse
    cases hfalse

variable (discovery) in
theorem probing_create {options : MmsStaticReportSessionOptions}
    {session : MmsStaticReportSessionRuntime} (h : create options = .ok session) :
    Probing discovery session ∧
      session.failover.maximumCandidateAttempts = options.maximumCandidateAttempts ∧
      (session.prepared || session.selectedCandidate.isSome || session.subscribed) = false := by
  unfold create MmsRcbPreclaimFailoverTracker.create at h
  by_cases hzero : options.maximumCandidateAttempts = 0
  · rw [if_pos hzero] at h
    cases h
  rw [if_neg hzero] at h
  dsimp only at h
  split at h
  · cases h
  cases h
  refine ⟨⟨rfl, rfl, rfl, ?_, Nat.zero_le _, fun _ => List.Pairwise.nil⟩, rfl, rfl⟩
  exact (decide_eq_false fun hle => hzero (Nat.le_zero.mp hle)).symm

theorem withBlockers_probed (session : MmsStaticReportSessionRuntime) :
    (withBlockers session).probed = session.probed := by
  unfold withBlockers
  split <;> rfl

variable (sorting discovery probe) in
/-- The result of `prepare` is that of the loop. -/
theorem prepare_loop {session : MmsStaticReportSessionRuntime}
    (h : (session.prepared || session.selectedCandidate.isSome || session.subscribed) = false) :
    (prepare sorting discovery probe true session).2.probed =
        (prepareLoop sorting discovery probe session.failover.maximumCandidateAttempts session).2.probed ∧
      ((prepare sorting discovery probe true session).1 = .ok () ↔
        (prepareLoop sorting discovery probe session.failover.maximumCandidateAttempts session).1 =
          .prepared) ∧
      (∀ what, (prepare sorting discovery probe true session).1 = .error (.logicError what) →
        (prepareLoop sorting discovery probe session.failover.maximumCandidateAttempts session).1 =
          .threw (.logicError what)) ∧
      ((prepare sorting discovery probe true session).1 = .ok () →
        (prepare sorting discovery probe true session).2 =
          (prepareLoop sorting discovery probe session.failover.maximumCandidateAttempts session).2) := by
  unfold prepare
  rw [h, if_neg Bool.false_ne_true, Bool.not_true, if_neg Bool.false_ne_true]
  cases hloop : prepareLoop sorting discovery probe session.failover.maximumCandidateAttempts session with
  | mk how after =>
    cases how with
    | prepared => simp
    | threw what => simp
    | left => simp [withBlockers_probed]

/-- **Preparation.** There are at most as many probes as attempts. Without blank references no
control block is probed twice, the tracker never refuses a probe, and the session is prepared if
and only if a control block is selected within the attempts whose probe finds no contention and
which is bound. -/
theorem prepare_run (sorting : Sorting MmsRcbCandidateEvaluation compareStatic)
    (discovery : MmsRcbDiscovery)
    (probe : Nat → MmsRcbCandidate → Except Bytes MmsRcbContentionProbeResult)
    {options : MmsStaticReportSessionOptions} {session : MmsStaticReportSessionRuntime}
    (hcreate : create options = .ok session) :
    ((prepare sorting discovery probe true session).2.probed.length ≤
        options.maximumCandidateAttempts ∧
      ∀ more, prepareLoop sorting discovery probe (options.maximumCandidateAttempts + more) session =
        prepareLoop sorting discovery probe options.maximumCandidateAttempts session) ∧
    (Nonblank discovery.inventory →
      ((prepare sorting discovery probe true session).2.probed.Pairwise fun a b =>
        sameReference a.reference b.reference = false) ∧
      ∀ what, (prepare sorting discovery probe true session).1 ≠ .error (.logicError what)) ∧
    ((prepare sorting discovery probe true session).1 = .ok () →
      ∃ candidate, Prepared discovery probe (prepare sorting discovery probe true session).2 candidate) ∧
    (Nonblank discovery.inventory →
      ((prepare sorting discovery probe true session).1 = .ok () ↔
        ∃ before candidate contention state directory,
          Rejections sorting discovery probe session before ∧
          before.probed.length < options.maximumCandidateAttempts ∧
          next sorting discovery before = some candidate ∧
          probe (before.probed.length + 1) candidate = .ok contention ∧
          contention.isContended = false ∧ Bound discovery candidate.reference state directory)) := by
  obtain ⟨hprobing, hmaximum, hfresh⟩ := probing_create discovery hcreate
  obtain ⟨hprobed, hok, hlogic, hsame⟩ := prepare_loop sorting discovery probe hfresh
  have hends : ∃ before, Rejections sorting discovery probe session before ∧
      attempt sorting discovery probe before = .done
        (prepareLoop sorting discovery probe session.failover.maximumCandidateAttempts session).1
        (prepareLoop sorting discovery probe session.failover.maximumCandidateAttempts session).2 :=
    prepareLoop_run hprobing (Nat.le_add_left _ _)
  obtain ⟨before, hrun, hdone⟩ := hends
  obtain ⟨hbefore, hmaximum'⟩ := hrun.probing hprobing
  obtain ⟨hwithin, hdistinct⟩ := hbefore.done hdone
  have hattempts := hmaximum'.trans hmaximum
  have hprepared : (prepare sorting discovery probe true session).1 = .ok () →
      ∃ candidate contention state directory,
        before.probed.length < options.maximumCandidateAttempts ∧
        next sorting discovery before = some candidate ∧
        probe (before.probed.length + 1) candidate = .ok contention ∧
        contention.isContended = false ∧ Bound discovery candidate.reference state directory ∧
        (prepare sorting discovery probe true session).2.selectedCandidate = some candidate ∧
        (prepare sorting discovery probe true session).2.probed = before.probed ++ [candidate] ∧
        (prepare sorting discovery probe true session).2.selectedDataSetReference =
          state.dataSetReference ∧
        (prepare sorting discovery probe true session).2.selectedDirectory = some directory := by
    intro hdoneOk
    have hattempted := attempted sorting discovery probe before
    rw [hdone, hok.mp hdoneOk] at hattempted
    rw [hsame hdoneOk]
    generalize (prepareLoop sorting discovery probe session.failover.maximumCandidateAttempts
      session).2 = after at hattempted ⊢
    cases hattempted with
    | bound hmay hnext hprobe hfree hobserve hbinding =>
      have hlt := hbefore.mayAttempt.mp hmay
      exact ⟨_, _, _, _, by omega, hnext, hprobe, hfree, hbinding, rfl, rfl, rfl, rfl⟩
  refine ⟨⟨by rw [hprobed]; omega, fun more => ?_⟩, fun hblank => ⟨by rw [hprobed]; exact (hdistinct hblank).1, ?_⟩,
    fun hdoneOk => ?_, fun hblank => ⟨fun hdoneOk => ?_, ?_⟩⟩
  · rw [← hmaximum]
    exact prepareLoop_fuel hprobing (Nat.le_add_left _ _) more
  · intro what hwhat
    exact (hdistinct hblank).2 what (hlogic what hwhat)
  · obtain ⟨candidate, contention, state, directory, -, -, hprobe, hfree, hbound, hselected, hlast,
      hreference, hdirectory⟩ := hprepared hdoneOk
    refine ⟨candidate, hselected, ?_, ⟨contention, ?_, hfree⟩, state, directory, hbound, hreference,
      hdirectory, findEvidence_of_bound hbound⟩
    · rw [hlast, List.getLast?_concat]
    · rw [hlast, List.length_append]
      exact hprobe
  · obtain ⟨candidate, contention, state, directory, hlt, hnext, hprobe, hfree, hbound, -⟩ :=
      hprepared hdoneOk
    exact ⟨before, candidate, contention, state, directory, hrun, hlt, hnext, hprobe, hfree, hbound⟩
  · rintro ⟨last, candidate, contention, state, directory, hrejected, hlt, hnext, hprobe, hfree, hbound⟩
    obtain ⟨hlast, hmaximum''⟩ := hrejected.probing hprobing
    have hmay := hlast.mayAttempt.mpr (by omega)
    obtain ⟨after, hround⟩ := attempt_of_bound hblank hlast hmay hnext hprobe hfree hbound
    have hloop := prepareLoop_of_rejections hrejected hround hprobing (Nat.le_add_left _ _) hmay
    rw [hloop] at hok
    exact hok.mpr rfl

end Rounds

/-! ## Sessions -/

/-- A session with four attempts. -/
def fourAttempts : MmsStaticReportSessionRuntime := { failover := { maximumCandidateAttempts := 4 } }

theorem prepare_run_twoBlocks :
    (prepare (insertionSorting compareStatic) twoBlocks (fun _ _ => .ok {}) true fourAttempts).1 =
        .ok () ∧
      ∃ candidate, Prepared twoBlocks (fun _ _ => .ok {}) (prepare (insertionSorting compareStatic)
        twoBlocks (fun _ _ => .ok {}) true fourAttempts).2 candidate :=
  ⟨by decide, (prepare_run (insertionSorting compareStatic) twoBlocks (fun _ _ => .ok {})
    (@rfl _ (create {}))).2.2.1 (by decide)⟩

/-- A free control block with the data set `d`; its evidence may spell the reference otherwise. -/
def blockWith (reference evidence : Bytes) : MmsRcbDiscovery :=
  { inventory := [blockNamed reference true]
    reportControls := [
      { candidate := blockNamed evidence true
        state := some { dataSetReference := [0x64], reportEnabled := some false } }]
    dataSetDirectories := [{ reference := [0x64], directory := some { members := [{}] } }] }

/-- A blank reference is probed twice; evidence for `A` is not found for `a`. -/
theorem prepare_fails :
    (prepare (insertionSorting compareStatic) (blockWith [0x20] [0x20])
        (fun _ _ => .ok { isContended := true }) true fourAttempts).1 =
      .error (.logicError "RCB pre-claim failover cannot probe an excluded candidate twice.") ∧
    (prepare (insertionSorting compareStatic) (blockWith [0x61] [0x41]) (fun _ _ => .ok {}) true
        fourAttempts).1 =
      .error (.session (ascii "Selected static RCB has no successful runtime-state evidence.")) := by
  decide

end MmsStaticReportSessionRuntime

end ArStack.Mms
