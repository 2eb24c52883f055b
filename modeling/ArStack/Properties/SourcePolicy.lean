import ArStack.Lib.History
import ArStack.TimeSync.PtpSourcePolicy

/-!
# The source policy is safe

* `Outcome`, `tickState_outcome` — what a tick can do
* `TickSafe` — what holds of a tick, given the ticks before it
* `Sound` — the invariant, `sound_outcome` — one tick keeps it
* `source_policy_safe` — every run
-/

namespace ArStack.TimeSync

open ArStack.Lib PtpSourceState PtpSourceAction PtpSourceIntent

namespace PtpSourcePolicyMachine

/-- The machine behind a revocation. -/
def revoked (m : PtpSourcePolicyMachine) (ms : UInt64) : PtpSourcePolicyMachine :=
  { m with since := ms, rearmRequired := true, externalCandidateSince := 0, state := revokingSv }

/-- The idle station takes the internal role. -/
def PrefersInternal (options : PtpSourcePolicyOptions) : Prop :=
  options.intent = internalGm ∨
    (options.intent = autoFailover ∧ options.externalTargetSelected = false)

/-- What a tick does, by the state it meets. -/
inductive Outcome (m : PtpSourcePolicyMachine) (ms : UInt64) (e : PtpSourceEvidence) :
    PtpSourceAction → PtpSourcePolicyMachine → Prop where
  | hold {action : PtpSourceAction} (hstate : m.state ≠ internalReady)
      (haction : action = .none ∨ action = refuseCompetingGm) : Outcome m ms e action m
  | steady {since : UInt64} (hstate : m.state = internalReady)
      (hsince : since = 0 ∨ e.independentExternalCandidateValid = true ∧
        since = if m.externalCandidateSince = 0 then ms + 1 else m.externalCandidateSince) :
      Outcome m ms e .none { m with externalCandidateSince := since }
  | startInternal (hexclusive : exclusive e = true)
      (hstate : m.state = idle ∧ PrefersInternal m.options ∨
        m.state = waitingExclusiveEmac ∧ m.switchToExternal = false) :
      Outcome m ms e startInternal (m.begin startingInternal ms)
  | startExternal (hexclusive : exclusive e = true)
      (hstate : m.state = idle ∨ m.state = waitingExclusiveEmac ∧ m.switchToExternal = true) :
      Outcome m ms e startExternal (m.begin acquiringExternal ms)
  | started (hstate : m.state = startingInternal) (hrearm : m.rearmRequired = false) :
      Outcome m ms e .none { m with state := internalReady }
  | acquired (hstate : m.state = acquiringExternal) (hrearm : m.rearmRequired = false) :
      Outcome m ms e .none { m with state := externalLocked }
  | gated (hstate : m.state = startingInternal ∨ m.state = acquiringExternal)
      (hrearm : m.rearmRequired = true) : Outcome m ms e .none { m with state := waitingSecondBoundary }
  | timeout (hstate : m.state = startingInternal) :
      Outcome m ms e revokeSvAndPause { m with state := fault }
  | internalLost (hstate : m.state = internalReady) :
      Outcome m ms e revokeSvAndPause ({ m with switchToExternal := false }.revoked ms)
  | restore {since : UInt64} (hstate : m.state = internalReady)
      (hcandidate : e.independentExternalCandidateValid = true)
      (hsince : since = if m.externalCandidateSince = 0 then ms + 1 else m.externalCandidateSince)
      (hheld : m.options.restoreHysteresisMs.toUInt64 ≤ ms + 1 - since) :
      Outcome m ms e revokeSvAndPause ({ m with switchToExternal := true }.revoked ms)
  | fallback (hstate : m.state = acquiringExternal ∨ m.state = externalLoss)
      (hintent : m.options.intent = autoFailover) (hfallback : m.options.fallbackAuthorized = true) :
      Outcome m ms e revokeSvAndPause ({ m with switchToExternal := false }.revoked ms)
  | externalLost (hstate : m.state = externalLocked) :
      Outcome m ms e revokeSvAndPause { m with state := externalLoss, since := ms }
  | recovered (hstate : m.state = externalLoss) :
      Outcome m ms e .none
        { m with switchToExternal := true, rearmRequired := true, state := waitingSecondBoundary }
  | paused {action : PtpSourceAction} (hstate : m.state = revokingSv)
      (haction : action = .none ∨ action = stopCurrentPtp) :
      Outcome m ms e action { m with state := drainingPtp }
  | drained (hstate : m.state = drainingPtp) :
      Outcome m ms e .none { m with state := waitingExclusiveEmac }
  | rearmed {state : PtpSourceState} (hstate : m.state = waitingSecondBoundary)
      (hready : state = internalReady ∧ m.switchToExternal = false ∧ e.sourceWorkerActive = true ∧
          e.internalGmTxReady = true ∨
        state = externalLocked ∧ m.switchToExternal = true ∧ e.receiverWorkerActive = true ∧
          e.selectedExternalServoLocked = true)
      (hpaused : e.svTransmissionPaused = true) (hboundary : e.atPtpSecondBoundary = true)
      (hidentity : e.svGmIdentityMatchesActivePtp = true) :
      Outcome m ms e rearmSvAtSecond { m with state, rearmRequired := false }

/-- What a machine answers. -/
def answer (action : PtpSourceAction) (m : PtpSourcePolicyMachine) :
    PtpSourceDecision × PtpSourcePolicyMachine := (⟨m.state, action, m.generation⟩, m)

theorem tickState_outcome (m : PtpSourcePolicyMachine) (ms : UInt64) (e : PtpSourceEvidence) :
    ∃ action m', tickState m ms e = answer action m' ∧ Outcome m ms e action m' := by
  have hhold (action : PtpSourceAction) (hstate : m.state ≠ internalReady)
      (haction : action = .none ∨ action = refuseCompetingGm) :
      ∃ action' m', m.reply action = answer action' m' ∧ Outcome m ms e action' m' :=
    ⟨action, m, rfl, .hold hstate haction⟩
  rw [tickState]
  cases hstate : m.state with
  | idle =>
    have hne : m.state ≠ internalReady := by rw [hstate]; decide
    dsimp only
    rw [tickIdle]
    split
    · exact hhold _ hne (.inl rfl)
    split
    · rename_i hprefers
      split
      · exact hhold _ hne (.inl rfl)
      rename_i hexclusive
      split
      · exact hhold _ hne (.inr rfl)
      · refine ⟨_, _, rfl, .startInternal (by simpa using hexclusive) (.inl ⟨hstate, ?_⟩)⟩
        simpa [PrefersInternal] using hprefers
    · split
      · exact hhold _ hne (.inl rfl)
      · rename_i hexclusive
        exact ⟨_, _, rfl, .startExternal (by simpa using hexclusive) (.inl hstate)⟩
  | startingInternal =>
    dsimp only
    rw [tickStartingInternal]
    split
    · by_cases hrearm : m.rearmRequired = true
      · rw [if_pos hrearm]
        exact ⟨_, _, rfl, .gated (.inl hstate) hrearm⟩
      · rw [if_neg hrearm]
        exact ⟨_, _, rfl, .started hstate (Bool.eq_false_iff.mpr hrearm)⟩
    split
    · exact ⟨_, _, rfl, .timeout hstate⟩
    · exact hhold _ (by rw [hstate]; decide) (.inl rfl)
  | internalReady =>
    dsimp only
    rw [tickInternalReady]
    split
    · exact ⟨_, _, rfl, .internalLost hstate⟩
    split
    · rename_i hrestore
      have hcandidate : e.independentExternalCandidateValid = true :=
        (Bool.and_eq_true_iff.mp hrestore.2).2
      dsimp only
      generalize hsince : (if m.externalCandidateSince = 0 then ms + 1
        else m.externalCandidateSince) = since
      split
      · rename_i hheld
        exact ⟨_, _, rfl, .restore hstate hcandidate hsince.symm hheld⟩
      · exact ⟨_, _, rfl, .steady hstate (.inr ⟨hcandidate, hsince.symm⟩)⟩
    · exact ⟨_, _, rfl, .steady hstate (.inl rfl)⟩
  | acquiringExternal =>
    dsimp only
    rw [tickAcquiringExternal]
    split
    · by_cases hrearm : m.rearmRequired = true
      · rw [if_pos hrearm]
        exact ⟨_, _, rfl, .gated (.inr hstate) hrearm⟩
      · rw [if_neg hrearm]
        exact ⟨_, _, rfl, .acquired hstate (Bool.eq_false_iff.mpr hrearm)⟩
    split
    · rename_i hfallback
      exact ⟨_, _, rfl, .fallback (.inl hstate) hfallback.2.1 hfallback.2.2⟩
    · exact hhold _ (by rw [hstate]; decide) (.inl rfl)
  | externalLocked =>
    dsimp only
    rw [tickExternalLocked]
    split
    · exact ⟨_, _, rfl, .externalLost hstate⟩
    · exact hhold _ (by rw [hstate]; decide) (.inl rfl)
  | externalLoss =>
    dsimp only
    rw [tickExternalLoss]
    split
    · exact ⟨_, _, rfl, .recovered hstate⟩
    split
    · rename_i hfallback
      exact ⟨_, _, rfl, .fallback (.inr hstate) hfallback.2.1 hfallback.2.2⟩
    · exact hhold _ (by rw [hstate]; decide) (.inl rfl)
  | revokingSv =>
    dsimp only
    rw [tickRevokingSv]
    split
    · exact hhold _ (by rw [hstate]; decide) (.inl rfl)
    · refine ⟨_, _, rfl, .paused hstate ?_⟩
      split
      · exact .inr rfl
      · exact .inl rfl
  | drainingPtp =>
    dsimp only
    rw [tickDrainingPtp]
    split
    · exact hhold _ (by rw [hstate]; decide) (.inl rfl)
    · exact ⟨_, _, rfl, .drained hstate⟩
  | waitingExclusiveEmac =>
    have hne : m.state ≠ internalReady := by rw [hstate]; decide
    dsimp only
    rw [tickWaitingExclusiveEmac]
    split
    · exact hhold _ hne (.inl rfl)
    rename_i hready
    have hexclusive : exclusive e = true := by
      simp only [Bool.or_eq_true, Bool.not_eq_true', not_or, Bool.not_eq_false] at hready
      exact hready.2
    split
    · exact hhold _ hne (.inr rfl)
    split
    · rename_i hswitch
      exact ⟨_, _, rfl, .startExternal hexclusive (.inr ⟨hstate, hswitch⟩)⟩
    · rename_i hswitch
      exact ⟨_, _, rfl, .startInternal hexclusive (.inr ⟨hstate, by simpa using hswitch⟩)⟩
  | waitingSecondBoundary =>
    dsimp only
    rw [tickWaitingSecondBoundary]
    split
    · rename_i hready
      simp only [Bool.and_eq_true] at hready
      obtain ⟨⟨⟨hactive, hpaused⟩, hboundary⟩, hidentity⟩ := hready
      refine ⟨_, _, rfl, .rearmed hstate ?_ hpaused hboundary hidentity⟩
      rw [active] at hactive
      cases hswitch : m.switchToExternal with
      | false =>
        rw [hswitch, if_neg Bool.false_ne_true, Bool.and_eq_true] at hactive
        exact .inl ⟨rfl, rfl, hactive⟩
      | true =>
        rw [hswitch, if_pos rfl, Bool.and_eq_true] at hactive
        exact .inr ⟨rfl, rfl, hactive⟩
    · exact hhold _ (by rw [hstate]; decide) (.inl rfl)
  | fault => exact hhold _ (by rw [hstate]; decide) (.inl rfl)

/-! ## Runs -/

abbrev SourceTick := Step PtpSourcePolicyMachine (UInt64 × PtpSourceEvidence) PtpSourceDecision

/-- The ticks of a machine. -/
def tickStep (m : PtpSourcePolicyMachine) (event : UInt64 × PtpSourceEvidence) :
    PtpSourceDecision × PtpSourcePolicyMachine := m.tick event.1 event.2

/-- The tick starts a PTP worker. -/
def Starts (t : SourceTick) : Prop :=
  t.output.action = startInternal ∨ t.output.action = startExternal

def Enters (t : SourceTick) (state : PtpSourceState) : Prop :=
  t.before.state ≠ state ∧ t.after.state = state

def Leaves (t : SourceTick) (state : PtpSourceState) : Prop :=
  t.before.state = state ∧ t.after.state ≠ state

/-- Sampled Values are released at a second boundary of the PTP clock. -/
def Releases (t : SourceTick) : Prop :=
  t.output.action = rearmSvAtSecond ∧ t.event.2.svTransmissionPaused = true ∧
    t.event.2.atPtpSecondBoundary = true ∧ t.event.2.svGmIdentityMatchesActivePtp = true

/-- In every tick of the internal role over at least the hysteresis, up to the last tick of
these, the external candidate was valid. -/
def CandidateHeld (options : PtpSourcePolicyOptions) (ticks : List SourceTick) : Prop :=
  ∃ earlier first held, ticks = earlier ++ first :: held ∧
    (∀ t ∈ first :: held, t.before.state = internalReady ∧
      t.event.2.independentExternalCandidateValid = true) ∧
    ∀ last ∈ ticks.getLast?,
      first.event.1.toNat + options.restoreHysteresisMs.toNat ≤ last.event.1.toNat

/-- The ticks `past` left the internal role with this tick, for the role that starts next. -/
def LeftInternal (past : List SourceTick) (leaving : List SourceTick) : Prop :=
  ∃ b since, past = leaving ++ since ∧ leaving.getLast? = some b ∧ Leaves b internalReady ∧
    ∀ t ∈ since, ¬Starts t

/-- What holds of a tick, given the ticks before it. -/
structure TickSafe (options : PtpSourcePolicyOptions) (past : List SourceTick) (t : SourceTick) :
    Prop where
  exclusive : Starts t → t.event.2.sourceWorkerActive = false ∧
    t.event.2.receiverWorkerActive = false ∧ t.event.2.receiverCleanupPending = false
  generation : (Starts t → t.after.generation = t.before.generation + 1) ∧
    (¬Starts t → t.after.generation = t.before.generation)
  follower : options.intent = externalFollower → t.output.action ≠ startInternal
  fallback : options.intent = autoFailover → options.externalTargetSelected = true →
    t.output.action = startInternal → options.fallbackAuthorized = true
  internalReleased : (∃ r ∈ past, r.output.action = revokeSvAndPause) → Enters t internalReady →
    Releases t ∧ t.event.2.sourceWorkerActive = true ∧ t.event.2.internalGmTxReady = true
  externalReleased : (∃ r ∈ past, r.output.action = revokeSvAndPause) → Enters t externalLocked →
    Releases t ∧ t.event.2.receiverWorkerActive = true ∧
      t.event.2.selectedExternalServoLocked = true
  restored : t.output.action = startExternal → ∀ leaving, LeftInternal past leaving →
    CandidateHeld options leaving

/-! ## The invariant -/

/-- The policy allows the internal role. -/
def MayBeInternal (options : PtpSourcePolicyOptions) : Prop :=
  options.intent = internalGm ∨ (options.intent = autoFailover ∧
    (options.externalTargetSelected = true → options.fallbackAuthorized = true))

/-- Between the revocation and the next role. -/
def Changing (state : PtpSourceState) : Prop :=
  state = revokingSv ∨ state = drainingPtp ∨ state = waitingExclusiveEmac

/-- The external candidate has been valid in the internal role since this time. -/
def CandidateSince (past : List SourceTick) (since : UInt64) : Prop :=
  ∃ earlier first held, past = earlier ++ first :: held ∧
    (∀ t ∈ first :: held, t.before.state = internalReady ∧
      t.event.2.independentExternalCandidateValid = true) ∧
    since = first.event.1 + 1

/-- What the ticks so far say about the machine. -/
structure Sound (options : PtpSourcePolicyOptions) (past : List SourceTick)
    (m : PtpSourcePolicyMachine) : Prop where
  options_eq : m.options = options
  configured : m.configured = true
  idle_fresh : m.state = idle → m.rearmRequired = false ∧
    ∀ r ∈ past, r.output.action ≠ revokeSvAndPause
  changing : Changing m.state → m.rearmRequired = true
  acquiring : m.state = acquiringExternal → m.rearmRequired = true → m.switchToExternal = true
  revoked : (∃ r ∈ past, r.output.action = revokeSvAndPause) →
    m.state = startingInternal ∨ m.state = acquiringExternal → m.rearmRequired = true
  external : ¬MayBeInternal options → m.state ≠ startingInternal ∧ m.state ≠ internalReady ∧
    ¬Changing m.state ∧ (m.state = waitingSecondBoundary → m.switchToExternal = true)
  candidate : m.externalCandidateSince ≠ 0 → m.state = internalReady ∧
    CandidateSince past m.externalCandidateSince
  left : ∀ leaving, LeftInternal past leaving → Changing m.state ∧
    (m.switchToExternal = true → CandidateHeld options leaving)

variable {options : PtpSourcePolicyOptions} {past : List SourceTick} {m m' : PtpSourcePolicyMachine}
  {ms : UInt64} {e : PtpSourceEvidence} {action : PtpSourceAction} {t : SourceTick}

/-- Nothing but the revocations of the internal role leaves it. -/
theorem Outcome.left_internal (h : Outcome m ms e action m') (hready : m.state = internalReady)
    (hleft : m'.state ≠ internalReady) : m'.state = revokingSv ∧
      (m'.switchToExternal = false ∨ e.independentExternalCandidateValid = true ∧
        m.options.restoreHysteresisMs.toUInt64 ≤
          ms + 1 - if m.externalCandidateSince = 0 then ms + 1 else m.externalCandidateSince) := by
  cases h with
  | steady => exact absurd hready hleft
  | internalLost => exact ⟨rfl, .inl rfl⟩
  | restore _ hcandidate hsince hheld => exact ⟨rfl, .inr ⟨hcandidate, hsince ▸ hheld⟩⟩
  -- the other outcomes are those of other states
  | _ => grind

/-- A change goes on until a worker starts. -/
theorem Outcome.changing (h : Outcome m ms e action m') (hchanging : Changing m.state)
    (hstarts : action ≠ .startInternal ∧ action ≠ .startExternal) :
    Changing m'.state ∧ m'.switchToExternal = m.switchToExternal := by
  cases h with
  | hold => exact ⟨hchanging, rfl⟩
  | startInternal => exact absurd rfl hstarts.1
  | startExternal => exact absurd rfl hstarts.2
  | paused => exact ⟨.inr (.inl rfl), rfl⟩
  | drained => exact ⟨.inr (.inr rfl), rfl⟩
  -- nothing is being changed in the other states
  | _ => grind [Changing]

theorem Outcome.kept (h : Outcome m ms e action m') : m'.options = m.options ∧
    m'.configured = m.configured ∧ m'.lastTimeMs = m.lastTimeMs := by
  cases h <;> exact ⟨rfl, rfl, rfl⟩

/-- Only a machine that stays idle is idle. -/
theorem Outcome.idle (h : Outcome m ms e action m') (hidle : m'.state = .idle) :
    m.state = .idle ∧ m'.rearmRequired = m.rearmRequired ∧ action ≠ .revokeSvAndPause := by
  cases h with
  | hold _ haction => exact ⟨hidle, rfl, by rcases haction with rfl | rfl <;> decide⟩
  | _ => grind [begin, PtpSourcePolicyMachine.revoked]

/-- A change begins with a revocation. -/
theorem Outcome.changing_rearm (h : Outcome m ms e action m') (hchanging : Changing m'.state) :
    m'.rearmRequired = true ∨ Changing m.state ∧ m'.rearmRequired = m.rearmRequired := by
  cases h <;> grind [Changing, begin, PtpSourcePolicyMachine.revoked]

/-- The external role is taken by an idle station or for the machine's own change. -/
theorem Outcome.acquiring (h : Outcome m ms e action m') (hstate : m'.state = acquiringExternal) :
    m'.rearmRequired = m.rearmRequired ∧ m'.switchToExternal = m.switchToExternal ∧
      (m.state = .idle ∨ m.state = acquiringExternal ∨ m.switchToExternal = true) := by
  cases h <;> grind [begin, PtpSourcePolicyMachine.revoked]

/-- A role is taken by an idle station or at the end of a change. -/
theorem Outcome.taking (h : Outcome m ms e action m')
    (hstate : m'.state = startingInternal ∨ m'.state = acquiringExternal) :
    action ≠ .revokeSvAndPause ∧ m'.rearmRequired = m.rearmRequired ∧
      (m.state = .idle ∨ Changing m.state ∨ m.state = startingInternal ∨
        m.state = acquiringExternal) := by
  cases h <;> grind [Changing, begin, PtpSourcePolicyMachine.revoked]

/-- The external candidate is timed in the internal role only. -/
theorem Outcome.candidate (h : Outcome m ms e action m') (hne : m'.externalCandidateSince ≠ 0) :
    (m'.externalCandidateSince = m.externalCandidateSince ∧ m.state ≠ internalReady) ∨
      m.state = internalReady ∧ m'.state = internalReady ∧
        e.independentExternalCandidateValid = true ∧ m'.externalCandidateSince =
          if m.externalCandidateSince = 0 then ms + 1 else m.externalCandidateSince := by
  cases h <;> grind [begin, PtpSourcePolicyMachine.revoked]

/-- The internal role is out of reach when the policy does not allow it. -/
theorem Outcome.external (h : Outcome m ms e action m') (hnot : ¬MayBeInternal m.options)
    (hbefore : m.state ≠ startingInternal ∧ m.state ≠ internalReady ∧ ¬Changing m.state ∧
      (m.state = waitingSecondBoundary → m.switchToExternal = true))
    (hacquiring : m.state = acquiringExternal → m.rearmRequired = true →
      m.switchToExternal = true) :
    action ≠ .startInternal ∧ m'.state ≠ startingInternal ∧ m'.state ≠ internalReady ∧
      ¬Changing m'.state ∧ (m'.state = waitingSecondBoundary → m'.switchToExternal = true) := by
  cases h <;> grind [Changing, begin, PtpSourcePolicyMachine.revoked, MayBeInternal, PrefersInternal]

theorem Outcome.starts (h : Outcome m ms e action m') :
    (action = .startInternal ∨ action = .startExternal →
      exclusive e = true ∧ m'.generation = m.generation + 1) ∧
    (¬(action = .startInternal ∨ action = .startExternal) → m'.generation = m.generation) ∧
    (action = .startExternal → Changing m.state → m.switchToExternal = true) := by
  cases h with
  | startInternal hexclusive =>
    exact ⟨fun _ => ⟨hexclusive, rfl⟩, fun hnot => absurd (.inl rfl) hnot, fun h => by cases h⟩
  | startExternal hexclusive hstate =>
    refine ⟨fun _ => ⟨hexclusive, rfl⟩, fun hnot => absurd (.inr rfl) hnot, fun _ hchanging => ?_⟩
    rcases hstate with hidle | ⟨-, hswitch⟩
    · rw [hidle] at hchanging
      rcases hchanging with h | h | h <;> cases h
    · exact hswitch
  | _ => grind [PtpSourcePolicyMachine.revoked]

/-- A role is entered for the first time or released at a second boundary. -/
theorem Outcome.entering (h : Outcome m ms e action m') :
    (m.state ≠ internalReady → m'.state = internalReady →
      m.state = startingInternal ∧ m.rearmRequired = false ∨
      action = .rearmSvAtSecond ∧ e.svTransmissionPaused = true ∧ e.atPtpSecondBoundary = true ∧
        e.svGmIdentityMatchesActivePtp = true ∧ e.sourceWorkerActive = true ∧
        e.internalGmTxReady = true) ∧
    (m.state ≠ externalLocked → m'.state = externalLocked →
      m.state = acquiringExternal ∧ m.rearmRequired = false ∨
      action = .rearmSvAtSecond ∧ e.svTransmissionPaused = true ∧ e.atPtpSecondBoundary = true ∧
        e.svGmIdentityMatchesActivePtp = true ∧ e.receiverWorkerActive = true ∧
        e.selectedExternalServoLocked = true) := by
  cases h <;> grind [begin, PtpSourcePolicyMachine.revoked]

/-- The hysteresis has passed since the candidate became valid. -/
theorem candidateHeld_of_restore (hsince : m.externalCandidateSince ≠ 0 →
      CandidateSince past m.externalCandidateSince)
    (htimes : ∀ r ∈ past, r.event.1 ≤ ms) (hhysteresis : 1 ≤ options.restoreHysteresisMs)
    (hready : t.before.state = internalReady) (hevent : t.event = (ms, e))
    (hvalid : e.independentExternalCandidateValid = true)
    (hheld : options.restoreHysteresisMs.toUInt64 ≤
      ms + 1 - if m.externalCandidateSince = 0 then ms + 1 else m.externalCandidateSince) :
    CandidateHeld options (past ++ [t]) := by
  have hpos : 1 ≤ options.restoreHysteresisMs.toNat := hhysteresis
  rw [UInt64.le_iff_toNat_le, UInt32.toNat_toUInt64] at hheld
  split at hheld
  · rw [UInt64.sub_self] at hheld
    have hzero : (0 : UInt64).toNat = 0 := rfl
    omega
  · rename_i hne
    obtain ⟨earlier, first, held, rfl, hall, heq⟩ := hsince hne
    refine ⟨earlier, first, held ++ [t], by simp, fun r hr => ?_, fun last hlast => ?_⟩
    · rw [← List.cons_append] at hr
      rcases List.mem_append.mp hr with hr | hr
      · exact hall r hr
      · rw [List.mem_singleton.mp hr, hevent]
        exact ⟨hready, hvalid⟩
    · rw [List.getLast?_concat] at hlast
      obtain rfl := Option.some.inj hlast
      rw [hevent]
      have hle : first.event.1 ≤ ms :=
        htimes first (List.mem_append_right _ List.mem_cons_self)
      have hcancel : ms + 1 - (first.event.1 + 1) = ms - first.event.1 := by grind
      rw [heq, hcancel, UInt64.toNat_sub_of_le _ _ hle] at hheld
      rw [UInt64.le_iff_toNat_le] at hle
      dsimp only
      omega

/-- The changes that the tick leaves open. -/
theorem left_concat {leaving : List SourceTick} (h : LeftInternal (past ++ [t]) leaving) :
    (leaving = past ++ [t] ∧ Leaves t internalReady) ∨ (¬Starts t ∧ LeftInternal past leaving) := by
  obtain ⟨b, since, hpast, hlast, hleaves, hstarts⟩ := h
  rcases List.eq_nil_or_concat since with rfl | ⟨since, t', rfl⟩
  · rw [List.append_nil] at hpast
    rw [← hpast, List.getLast?_concat] at hlast
    obtain rfl := Option.some.inj hlast
    exact .inl ⟨hpast.symm, hleaves⟩
  · rw [List.concat_eq_append, ← List.append_assoc] at hpast
    obtain ⟨rfl, heq⟩ := List.append_inj' hpast rfl
    obtain rfl := (List.cons.inj heq).1
    rw [List.concat_eq_append] at hstarts
    refine .inr ⟨hstarts t (by simp), b, since, rfl, hlast, hleaves, fun r hr => ?_⟩
    exact hstarts r (List.mem_append_left _ hr)

/-- The step of a machine that takes the time and then has this outcome. -/
structure Takes (m : PtpSourcePolicyMachine) (ms : UInt64) (e : PtpSourceEvidence) (t : SourceTick)
    (action : PtpSourceAction) (m' : PtpSourcePolicyMachine) : Prop where
  event : t.event = (ms, e)
  before : t.before.state = m.state ∧ t.before.generation = m.generation
  action_eq : t.output.action = action
  after : t.after = m'
  outcome : Outcome m ms e action m'

variable (hsound : Sound options past m) (htakes : Takes m ms e t action m')

include hsound htakes

/-- **One tick keeps the invariant.** -/
theorem sound_outcome (htimes : ∀ r ∈ past, r.event.1 ≤ ms)
    (hhysteresis : 1 ≤ options.restoreHysteresisMs) : Sound options (past ++ [t]) m' := by
  obtain ⟨hevent, ⟨hbefore, -⟩, haction, hafter, houtcome⟩ := htakes
  have hrevoked (h : ∃ r ∈ past ++ [t], r.output.action = revokeSvAndPause) :
      (∃ r ∈ past, r.output.action = revokeSvAndPause) ∨ action = revokeSvAndPause := by
    obtain ⟨r, hr, hrevoke⟩ := h
    rcases List.mem_append.mp hr with hr | hr
    · exact .inl ⟨r, hr, hrevoke⟩
    · rw [List.mem_singleton.mp hr, haction] at hrevoke
      exact .inr hrevoke
  have hstarts : Starts t ↔ action = .startInternal ∨ action = .startExternal := by
    rw [Starts, haction]
  have hleft : ∀ leaving, LeftInternal (past ++ [t]) leaving → Changing m'.state ∧
      (m'.switchToExternal = true → CandidateHeld options leaving) := by
    intro leaving hleaving
    rcases left_concat hleaving with ⟨rfl, hleaves⟩ | ⟨hnot, hleaving⟩
    · rw [Leaves, hbefore, hafter] at hleaves
      obtain ⟨hstate, hswitch⟩ := houtcome.left_internal hleaves.1 hleaves.2
      refine ⟨.inl hstate, fun hon => ?_⟩
      rcases hswitch with hoff | ⟨hvalid, hheld⟩
      · rw [hoff] at hon
        cases hon
      · rw [hsound.options_eq] at hheld
        exact candidateHeld_of_restore (fun hne => (hsound.candidate hne).2) htimes hhysteresis
          (hbefore.trans hleaves.1) hevent hvalid hheld
    · obtain ⟨hchanging, hheld⟩ := hsound.left leaving hleaving
      rw [hstarts, not_or] at hnot
      obtain ⟨hchanging', hsame⟩ := houtcome.changing hchanging hnot
      exact ⟨hchanging', fun hon => hheld (hsame ▸ hon)⟩
  refine ⟨houtcome.kept.1.trans hsound.options_eq, houtcome.kept.2.1.trans hsound.configured,
    fun hidle => ?_, ?_, ?_, ?_, ?_, ?_, hleft⟩
  · obtain ⟨hstate, hrearm, hne⟩ := houtcome.idle hidle
    obtain ⟨hfresh, hnone⟩ := hsound.idle_fresh hstate
    refine ⟨hrearm.trans hfresh, fun r hr hrevoke => ?_⟩
    rcases hrevoked ⟨r, hr, hrevoke⟩ with ⟨r', hr', hrevoke'⟩ | hrevoke'
    · exact hnone r' hr' hrevoke'
    · exact hne hrevoke'
  · intro hchanging
    rcases houtcome.changing_rearm hchanging with hrearm | ⟨hstate, hrearm⟩
    · exact hrearm
    · exact hrearm.trans (hsound.changing hstate)
  · intro hstate hrearm
    obtain ⟨hsame, hswitch, hbefore⟩ := houtcome.acquiring hstate
    rw [hsame] at hrearm
    rw [hswitch]
    rcases hbefore with hidle | hacquiring | hexternal
    · rw [(hsound.idle_fresh hidle).1] at hrearm
      cases hrearm
    · exact hsound.acquiring hacquiring hrearm
    · exact hexternal
  · intro h hstate
    obtain ⟨hne, hsame, hbefore⟩ := houtcome.taking hstate
    rw [hsame]
    obtain ⟨r, hr, hrevoke⟩ := (hrevoked h).resolve_right hne
    rcases hbefore with hidle | hchanging | htaking
    · exact absurd hrevoke ((hsound.idle_fresh hidle).2 r hr)
    · exact hsound.changing hchanging
    · exact hsound.revoked ⟨r, hr, hrevoke⟩ htaking
  · rw [← hsound.options_eq]
    intro hnot
    exact (houtcome.external hnot (hsound.external (hsound.options_eq ▸ hnot)) hsound.acquiring).2
  · intro hne
    rcases houtcome.candidate hne with ⟨hsame, hready⟩ | ⟨hready, hready', hvalid, hsince⟩
    · rw [hsame] at hne
      exact absurd (hsound.candidate hne).1 hready
    refine ⟨hready', ?_⟩
    have ht : t.before.state = internalReady ∧
        t.event.2.independentExternalCandidateValid = true :=
      ⟨hbefore.trans hready, by rw [hevent]; exact hvalid⟩
    rw [hsince]
    split
    · refine ⟨past, t, [], rfl, fun r hr => ?_, by rw [hevent]⟩
      rw [List.mem_singleton.mp hr]
      exact ht
    · rename_i hne
      obtain ⟨earlier, first, held, rfl, hall, heq⟩ := (hsound.candidate hne).2
      refine ⟨earlier, first, held ++ [t], by simp, fun r hr => ?_, heq⟩
      rw [← List.cons_append] at hr
      rcases List.mem_append.mp hr with hr | hr
      · exact hall r hr
      · rw [List.mem_singleton.mp hr]
        exact ht

/-- **Under the invariant every tick is safe.** -/
theorem safe_outcome : TickSafe options past t := by
  obtain ⟨hevent, ⟨hbefore, hgeneration⟩, haction, hafter, houtcome⟩ := htakes
  have hstarts : Starts t ↔ action = .startInternal ∨ action = .startExternal := by
    rw [Starts, haction]
  obtain ⟨hexclusive, hkeeps, hswitch⟩ := houtcome.starts
  obtain ⟨hinternal, hexternal⟩ := houtcome.entering
  have hallowed (hstart : t.output.action = startInternal) : MayBeInternal options := by
    by_contra hnot
    rw [haction] at hstart
    rw [← hsound.options_eq] at hnot
    exact (houtcome.external hnot (hsound.external (hsound.options_eq ▸ hnot))
      hsound.acquiring).1 hstart
  constructor
  case exclusive =>
    intro h
    have hidle := (hexclusive (hstarts.mp h)).1
    rw [PtpSourcePolicyMachine.exclusive] at hidle
    rw [hevent]
    simpa [and_assoc] using hidle
  case generation =>
    rw [hafter, hgeneration, hstarts]
    exact ⟨fun h => (hexclusive h).2, hkeeps⟩
  case follower =>
    intro hfollower hstart
    rcases hallowed hstart with hintent | ⟨hintent, -⟩ <;> rw [hfollower] at hintent <;> cases hintent
  case fallback =>
    intro hauto htarget hstart
    rcases hallowed hstart with hintent | ⟨-, hfallback⟩
    · rw [hauto] at hintent
      cases hintent
    · exact hfallback htarget
  case internalReleased =>
    intro hpast henters
    rw [Enters, hbefore, hafter] at henters
    rw [Releases, hevent, haction]
    rcases hinternal henters.1 henters.2 with ⟨hstate, hrearm⟩ | ⟨h₁, h₂, h₃, h₄, hready⟩
    · rw [hsound.revoked hpast (.inl hstate)] at hrearm
      cases hrearm
    · exact ⟨⟨h₁, h₂, h₃, h₄⟩, hready⟩
  case externalReleased =>
    intro hpast henters
    rw [Enters, hbefore, hafter] at henters
    rw [Releases, hevent, haction]
    rcases hexternal henters.1 henters.2 with ⟨hstate, hrearm⟩ | ⟨h₁, h₂, h₃, h₄, hready⟩
    · rw [hsound.revoked hpast (.inr hstate)] at hrearm
      cases hrearm
    · exact ⟨⟨h₁, h₂, h₃, h₄⟩, hready⟩
  case restored =>
    intro hstart leaving hleaving
    obtain ⟨hchanging, hheld⟩ := hsound.left leaving hleaving
    exact hheld (hswitch (haction ▸ hstart) hchanging)

omit hsound htakes

theorem sound_configure (h : ({} : PtpSourcePolicyMachine).configure options = (true, m)) :
    Sound options [] m ∧ m.lastTimeMs = 0 ∧ 1 ≤ options.restoreHysteresisMs := by
  rw [configure] at h
  split at h
  · cases h
  rename_i haccepted
  obtain ⟨-, rfl⟩ := Prod.mk.inj h
  have hlarge : ¬options.restoreHysteresisMs < 1000 := fun hlt => haccepted (by simp [hlt])
  refine ⟨⟨rfl, rfl, fun _ => ⟨rfl, fun r hr => absurd hr List.not_mem_nil⟩, ?_, ?_, ?_, ?_, ?_, ?_⟩,
    rfl, ?_⟩
  · rintro (h | h | h) <;> cases h
  · intro h
    cases h
  · rintro ⟨r, hr, -⟩
    cases hr
  · intro _
    refine ⟨fun h => (by cases h), fun h => (by cases h), ?_, fun h => (by cases h)⟩
    rintro (h | h | h) <;> cases h
  · exact fun h => absurd rfl h
  · rintro leaving ⟨b, since, hpast, hlast, -⟩
    rw [(List.append_eq_nil_iff.mp hpast.symm).1] at hlast
    cases hlast
  · rw [UInt32.lt_iff_toNat_lt] at hlarge
    rw [UInt32.le_iff_toNat_le]
    have h1 : (1 : UInt32).toNat = 1 := rfl
    have h1000 : (1000 : UInt32).toNat = 1000 := rfl
    omega

/-- A configured machine whose time does not go back takes the tick. -/
theorem takes_tick (hconfigured : m.configured = true) (htime : m.lastTimeMs ≤ ms) :
    ∃ action m', Takes { m with lastTimeMs := ms } ms e (stepOn tickStep m (ms, e)) action m' ∧
      (tickStep m (ms, e)).2 = m' := by
  obtain ⟨action, m', hanswer, houtcome⟩ := tickState_outcome { m with lastTimeMs := ms } ms e
  have htick : tickStep m (ms, e) = answer action m' := by
    have hguard : (!m.configured || decide (ms < m.lastTimeMs)) = false := by
      rw [hconfigured, decide_eq_false (UInt64.not_lt.mpr htime)]
      rfl
    rw [tickStep, tick, hguard, if_neg Bool.false_ne_true]
    exact hanswer
  refine ⟨action, m', ⟨rfl, ⟨rfl, rfl⟩, ?_, ?_, houtcome⟩, ?_⟩
  · rw [stepOn, htick]
    rfl
  · rw [stepOn, htick]
    rfl
  · rw [htick]
    rfl

/-- **The source policy is safe**: after an accepted configuration, every tick of every run with
nondecreasing times is. -/
theorem source_policy_safe {options : PtpSourcePolicyOptions} {m : PtpSourcePolicyMachine}
    (hconfigure : ({} : PtpSourcePolicyMachine).configure options = (true, m))
    {events : List (UInt64 × PtpSourceEvidence)} (htimes : events.Pairwise fun a b => a.1 ≤ b.1)
    {past future : List SourceTick} {t : SourceTick}
    (hrun : history tickStep m events = past ++ t :: future) : TickSafe options past t := by
  obtain ⟨hsound, hzero, hhysteresis⟩ := sound_configure hconfigure
  refine history_rule (R := fun a b => a.1 ≤ b.1)
    (fun past m => Sound options past m ∧
      (m.lastTimeMs = 0 ∨ ∃ r ∈ past, m.lastTimeMs = r.event.1))
    (TickSafe options) ?_ htimes ⟨hsound, .inl hzero⟩ hrun
  rintro past m ⟨ms, e⟩ ⟨hsound, hlast⟩ hpast
  have htime : m.lastTimeMs ≤ ms := by
    rcases hlast with hzero | ⟨r, hr, heq⟩
    · rw [hzero]
      exact UInt64.zero_le
    · rw [heq]
      exact hpast r hr
  obtain ⟨action, m', htakes, hafter⟩ := takes_tick (e := e) hsound.configured htime
  have hseen : Sound options past { m with lastTimeMs := ms } :=
    ⟨hsound.options_eq, hsound.configured, hsound.idle_fresh, hsound.changing, hsound.acquiring,
      hsound.revoked, hsound.external, hsound.candidate, hsound.left⟩
  refine ⟨safe_outcome hseen htakes, ?_, .inr ⟨_, List.mem_append_right _ List.mem_cons_self, ?_⟩⟩
  · rw [hafter]
    exact sound_outcome hseen htakes hpast hhysteresis
  · rw [hafter]
    exact htakes.outcome.kept.2.2

/-- A station that falls back to the internal role and returns to the external one. -/
def sampleOptions : PtpSourcePolicyOptions where
  intent := autoFailover
  externalTargetSelected := true
  fallbackAuthorized := true
  autoRestoreExternal := true

def sampleMachine : PtpSourcePolicyMachine := { options := sampleOptions, configured := true }

/-- The fallback, the release of the internal role, the hysteresis and the way back. -/
def sampleEvents : List (UInt64 × PtpSourceEvidence) :=
  let paused : PtpSourceEvidence := { linkUp := true, svTransmissionPaused := true }
  let internal : PtpSourceEvidence :=
    { linkUp := true, sourceWorkerActive := true, internalGmTxReady := true }
  [(0, { linkUp := true }), (5000, { linkUp := true }), (5001, paused), (5002, paused),
    (5003, paused), (5004, internal),
    (6000, { internal with
      svTransmissionPaused := true, atPtpSecondBoundary := true,
      svGmIdentityMatchesActivePtp := true }),
    (6001, { internal with independentExternalCandidateValid := true }),
    (11001, { internal with independentExternalCandidateValid := true }),
    (11002, paused), (11003, paused), (11004, paused)]

theorem source_policy_safe_sample :
    let run := history tickStep sampleMachine sampleEvents
    run.getLast?.map (·.output.action) = some startExternal ∧
      ∀ t ∈ run.getLast?, TickSafe sampleOptions run.dropLast t := by
  refine ⟨by decide, fun t ht => ?_⟩
  have hconfigure : ({} : PtpSourcePolicyMachine).configure sampleOptions = (true, sampleMachine) := by
    decide
  have htimes : sampleEvents.Pairwise fun a b => a.1 ≤ b.1 := by decide
  exact source_policy_safe hconfigure htimes (List.dropLast_append_getLast? t ht).symm

end PtpSourcePolicyMachine

end ArStack.TimeSync
