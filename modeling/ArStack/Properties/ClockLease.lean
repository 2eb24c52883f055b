import ArStack.TimeSync.PtpReceiverClockAuthority

/-!
# A lease is one stretch of one clock

* `observe_quiet` — a usable clock without a new generation was usable before, with the same source
* `Continuous`, `Unlocked`, `KnowsLeases` — what holds of an observation given those before it, and
  the invariant
* `lease_continuity` — every sequence of observations
-/

namespace ArStack.TimeSync

open ArStack.Lib

namespace PtpReceiverClockAuthority

/-- An observation with its answer. -/
abbrev ClockStep := Step PtpReceiverClockAuthority PtpReceiverClockObservation PtpReceiverClockDecision

/-! ## What an observation says -/

/-- The answer has another generation than the one before. -/
def Renews (t : ClockStep) : Prop := t.after.generation ≠ t.before.generation

instance (t : ClockStep) : Decidable (Renews t) := inferInstanceAs (Decidable (_ ≠ _))

def generationChanges (steps : List ClockStep) : Nat := steps.countP fun t => decide (Renews t)

/-- The observation names this source with a usable clock. -/
structure Leases (identity : PtpClockIdentity) (port : UInt16) (t : ClockStep) : Prop where
  usable : t.output.clockUsable = true
  ready : t.event.runtimeReady = true
  locked : t.event.disciplineLocked = true
  identity : t.event.sourceClockIdentity = identity
  port : t.event.sourcePortNumber = port

/-- The observation selects a source that the one before it did not select. -/
def ChangesSource (prior : Option PtpReceiverClockObservation)
    (input : PtpReceiverClockObservation) : Prop :=
  input.selected = true ∧
    ∀ before, prior = some before → before.selected = true →
      input.sourceClockIdentity ≠ before.sourceClockIdentity ∨
        input.sourcePortNumber ≠ before.sourcePortNumber

/-- The observation shows a clock that is not locked, without a discontinuity. -/
def Unlocks (input : PtpReceiverClockObservation) : Prop :=
  input.locked = false ∧ input.clockDiscontinuity = false

/-- The observation before the one behind `front`. -/
def lastEvent (front : List ClockStep) : Option PtpReceiverClockObservation :=
  front.getLast?.map Step.event

/-- Leases that end in `t`: each earlier answer with the generation of a usable `t` begins a
stretch of usable observations of one source. -/
def Continuous (past : List ClockStep) (t : ClockStep) : Prop :=
  ∀ front s back, past = front ++ s :: back → s.output.generation = t.output.generation →
    t.output.clockUsable = true →
      (∀ u ∈ s :: back ++ [t], Leases t.event.sourceClockIdentity t.event.sourcePortNumber u) ∧
        ∀ u ∈ back ++ [t], u.event.clockDiscontinuity = false

/-- A usable `t` has an unlocked observation behind every discontinuity and every change of the
source, or as the observation of that change. -/
def Unlocked (past : List ClockStep) (t : ClockStep) : Prop :=
  t.output.clockUsable = true →
    ∀ front s back, past ++ [t] = front ++ s :: back →
      s.event.clockDiscontinuity = true ∨ ChangesSource (lastEvent front) s.event →
        ∃ u ∈ s :: back, Unlocks u.event

/-! ## One observation -/

theorem nextGeneration_ne_zero (g : UInt32) : nextGeneration g ≠ 0 := by
  unfold nextGeneration
  split
  · rename_i h
    rw [h]
    decide
  · assumption

theorem nextGeneration_ne (g : UInt32) : nextGeneration g ≠ g := by
  unfold nextGeneration
  intro h
  have hg := g.toNat_lt
  have hnext : (g + 1).toNat = (g.toNat + 1) % 4294967296 := by
    rw [UInt32.toNat_add]
    rfl
  split at h
  · rename_i hzero
    rw [hzero] at h hnext
    have hone := congrArg UInt32.toNat h
    change 1 = g.toNat at hone
    change 0 = _ at hnext
    omega
  · have hsame := congrArg UInt32.toNat h
    omega

theorem nextGeneration_toNat {g : UInt32} (h : g.toNat + 1 < 4294967296) :
    (nextGeneration g).toNat = g.toNat + 1 := by
  have hnext : (g + 1).toNat = g.toNat + 1 := by
    rw [UInt32.toNat_add]
    simp
    omega
  unfold nextGeneration
  rw [if_neg, hnext]
  intro hzero
  rw [hzero] at hnext
  simp at hnext

variable {s : PtpReceiverClockAuthority} {input : PtpReceiverClockObservation}

/-- The generation is the next one or the same, and then nothing has changed. -/
theorem observe_generation (s : PtpReceiverClockAuthority) (input : PtpReceiverClockObservation) :
    (s.observe input).2.generation = nextGeneration s.generation ∨
      (s.observe input).2.generation = s.generation ∧ s.stateChanged input = false ∧
        input.clockDiscontinuity = false := by
  by_cases h : (s.stateChanged input || input.clockDiscontinuity) = true
  · exact .inl (if_pos h)
  · refine .inr ⟨if_neg h, ?_⟩
    simpa using h

/-- A usable clock without a new generation was usable before, with the same source. -/
theorem observe_quiet (hquiet : (s.observe input).2.generation = s.generation)
    (h : (s.observe input).1.clockUsable = true) :
    (s.priorLocked = true ∧ s.blocked = false) ∧
      input.sourceClockIdentity = s.priorIdentity ∧ input.sourcePortNumber = s.priorPort ∧
        input.clockDiscontinuity = false := by
  rcases observe_generation s input with hnext | ⟨-, hchanged, hdisc⟩
  · exact absurd (hnext.symm.trans hquiet) (nextGeneration_ne _)
  obtain ⟨hlocked, hblocked⟩ : input.locked = true ∧ s.nextBlocked input = false := by
    simpa [observe] using h
  have hselected : input.selected = true := by
    unfold PtpReceiverClockObservation.locked at hlocked
    exact (Bool.and_eq_true_iff.mp hlocked).1
  have hready : input.runtimeReady = true := by
    unfold PtpReceiverClockObservation.selected at hselected
    exact (Bool.and_eq_true_iff.mp hselected).1
  obtain ⟨hstate, hsame⟩ := Bool.or_eq_false_iff.mp hchanged
  have hunblocked : s.blocked = false := by
    simpa [nextBlocked, hlocked, hsame, hdisc] using hblocked
  have hsource : s.priorSelected = true ∧ input.sourceClockIdentity = s.priorIdentity ∧
      input.sourcePortNumber = s.priorPort := by
    simpa [identityChanged, hselected, and_assoc] using hsame
  have hprior : s.priorLocked = true := by
    -- the first observation of a running clock begins a generation
    cases hinit : s.initialized with
    | false => simp [hinit, hready] at hstate
    | true =>
      have hflags : s.priorRunning = true ∧ s.priorLocked = true := by
        simpa [hinit, hready, hselected, hlocked, hsource.1] using hstate
      exact hflags.2
  exact ⟨⟨hprior, hunblocked⟩, hsource.2.1, hsource.2.2, hdisc⟩

theorem observe_usable :
    (s.observe input).1.clockUsable = true ↔
      (s.observe input).2.priorLocked = true ∧ (s.observe input).2.blocked = false := by
  simp [observe]

theorem leases_of_usable (h : (s.observe input).1.clockUsable = true) :
    Leases input.sourceClockIdentity input.sourcePortNumber (stepOn observe s input) := by
  have hlocked : input.locked = true := (observe_usable.mp h).1
  simp only [PtpReceiverClockObservation.locked, PtpReceiverClockObservation.selected,
    Bool.and_eq_true] at hlocked
  exact ⟨h, hlocked.1.1, hlocked.2, rfl, rfl⟩

/-- A discontinuity or another source blocks the clock, unless the observation unlocks it. -/
theorem observe_blocks (h : s.identityChanged input = true ∨ input.clockDiscontinuity = true)
    (hlock : ¬Unlocks input) : (s.observe input).2.blocked = true := by
  have hcause : (s.identityChanged input || input.clockDiscontinuity) = true := by
    rcases h with h | h <;> simp [h]
  have hkeep : (!input.locked && !input.clockDiscontinuity) = false := by
    rw [Bool.eq_false_iff]
    intro hboth
    simp only [Bool.and_eq_true, Bool.not_eq_true'] at hboth
    exact hlock hboth
  show s.nextBlocked input = true
  simp only [nextBlocked, hcause, hkeep, if_true, Bool.false_eq_true, if_false]

/-- A blocked clock stays so until an observation unlocks it. -/
theorem observe_keeps_blocked (h : s.blocked = true) (hlock : ¬Unlocks input) :
    (s.observe input).2.blocked = true := by
  have hkeep : (!input.locked && !input.clockDiscontinuity) = false := by
    rw [Bool.eq_false_iff]
    intro hboth
    simp only [Bool.and_eq_true, Bool.not_eq_true'] at hboth
    exact hlock hboth
  show s.nextBlocked input = true
  simp only [nextBlocked, hkeep, h, ite_self, Bool.false_eq_true, if_false]

/-! ## The observations so far -/

/-- What the authority knows of the observation before. -/
structure RemembersLast (past : List ClockStep) (s : PtpReceiverClockAuthority) : Prop where
  none : lastEvent past = none → s.priorSelected = false
  some : ∀ before, lastEvent past = some before →
    s.priorSelected = before.selected ∧ s.priorIdentity = before.sourceClockIdentity ∧
      s.priorPort = before.sourcePortNumber

/-- The invariant of the authority. -/
structure KnowsLeases (past : List ClockStep) (s : PtpReceiverClockAuthority) : Prop where
  last : RemembersLast past s
  /-- No source is selected in generation zero. -/
  first : s.generation = 0 → s.priorSelected = false
  /-- Without a wrap, the generation counts its changes. -/
  counted : generationChanges past < 4294967295 →
    s.generation.toNat = generationChanges past ∧
      ∀ u ∈ past, u.output.generation.toNat ≤ generationChanges past
  /-- What the source of a usable clock goes back to. -/
  leased : generationChanges past < 4294967295 → s.priorLocked = true → s.blocked = false →
    ∀ front u back, past = front ++ u :: back → u.output.generation = s.generation →
      (∀ v ∈ u :: back, Leases s.priorIdentity s.priorPort v) ∧
        ∀ v ∈ back, v.event.clockDiscontinuity = false
  blocks : ∀ front u back, past = front ++ u :: back →
    u.event.clockDiscontinuity = true ∨ ChangesSource (lastEvent front) u.event →
      (∀ v ∈ u :: back, ¬Unlocks v.event) → s.blocked = true

theorem identityChanged_of_changesSource {past : List ClockStep} (h : RemembersLast past s)
    (hsource : ChangesSource (lastEvent past) input) : s.identityChanged input = true := by
  obtain ⟨hselected, hother⟩ := hsource
  unfold identityChanged
  rw [hselected, Bool.true_and]
  cases hlast : lastEvent past with
  | none => simp [h.none hlast]
  | some before =>
    obtain ⟨hprior, hidentity, hport⟩ := h.some before hlast
    rw [hprior, hidentity, hport]
    by_cases hbefore : before.selected = true
    · rcases hother before hlast hbefore with hne | hne <;> simp [hne]
    · simp [hbefore]

theorem lastEvent_concat (past : List ClockStep) (t : ClockStep) :
    lastEvent (past ++ [t]) = some t.event := by
  simp [lastEvent]

theorem remembersLast_observe (past : List ClockStep) (s : PtpReceiverClockAuthority)
    (input : PtpReceiverClockObservation) :
    RemembersLast (past ++ [stepOn observe s input]) (s.observe input).2 where
  none h := by simp [lastEvent_concat] at h
  some before h := by
    rw [lastEvent_concat] at h
    cases h
    exact ⟨rfl, rfl, rfl⟩

theorem generationChanges_concat (past : List ClockStep) (s : PtpReceiverClockAuthority)
    (input : PtpReceiverClockObservation) :
    generationChanges (past ++ [stepOn observe s input]) =
      generationChanges past +
        (if (s.observe input).2.generation = s.generation then 0 else 1) := by
  unfold generationChanges
  rw [List.countP_append, List.countP_singleton]
  by_cases h : (s.observe input).2.generation = s.generation <;> simp [Renews, stepOn, h]

theorem counted_observe {past : List ClockStep} (h : KnowsLeases past s)
    (hfew : generationChanges (past ++ [stepOn observe s input]) < 4294967295) :
    (s.observe input).2.generation.toNat =
        generationChanges (past ++ [stepOn observe s input]) ∧
      ∀ u ∈ past ++ [stepOn observe s input],
        u.output.generation.toNat ≤ generationChanges (past ++ [stepOn observe s input]) := by
  rw [generationChanges_concat] at hfew ⊢
  obtain ⟨hcount, hbound⟩ := h.counted (by omega)
  have hnow : (s.observe input).2.generation.toNat = generationChanges past +
      (if (s.observe input).2.generation = s.generation then 0 else 1) := by
    rcases observe_generation s input with hnext | ⟨hsame, -⟩
    · rw [hnext, if_neg (nextGeneration_ne _)] at hfew ⊢
      rw [nextGeneration_toNat (by omega), hcount]
    · rw [if_pos hsame, hsame, hcount]
      rfl
  refine ⟨hnow, fun u hu => ?_⟩
  rcases List.mem_append.mp hu with hu | hu
  · have := hbound u hu
    omega
  · rw [List.mem_singleton.mp hu]
    exact Nat.le_of_eq hnow

/-- An answer with an earlier generation has the same generation as the state before it. -/
theorem quiet_of_generation {past : List ClockStep} (h : KnowsLeases past s) {u : ClockStep}
    (hu : u ∈ past) (hfew : generationChanges (past ++ [stepOn observe s input]) < 4294967295)
    (hsame : u.output.generation = (s.observe input).2.generation) :
    (s.observe input).2.generation = s.generation := by
  by_contra hne
  have hnow := (counted_observe h hfew).1
  rw [generationChanges_concat, if_neg hne] at hnow hfew
  have hbound := (h.counted (by omega)).2 u hu
  rw [hsame, hnow] at hbound
  omega

theorem leased_observe {past : List ClockStep} (h : KnowsLeases past s)
    (hfew : generationChanges (past ++ [stepOn observe s input]) < 4294967295)
    (husable : (s.observe input).1.clockUsable = true) {front back : List ClockStep} {u : ClockStep}
    (hsplit : past ++ [stepOn observe s input] = front ++ u :: back)
    (hsame : u.output.generation = (s.observe input).2.generation) :
    (∀ v ∈ u :: back, Leases input.sourceClockIdentity input.sourcePortNumber v) ∧
      ∀ v ∈ back, v.event.clockDiscontinuity = false := by
  have hlast := leases_of_usable husable
  rcases split_concat hsplit with ⟨rfl, -, rfl⟩ | ⟨back, rfl, hpast⟩
  · refine ⟨fun v hv => ?_, fun v hv => absurd hv List.not_mem_nil⟩
    rw [List.mem_singleton.mp hv]
    exact hlast
  · have hu : u ∈ past := by simp [hpast]
    have hquiet := quiet_of_generation h hu hfew hsame
    obtain ⟨⟨hlocked, hblocked⟩, hidentity, hport, hdisc⟩ := observe_quiet hquiet husable
    rw [generationChanges_concat] at hfew
    obtain ⟨hleases, hnone⟩ :=
      h.leased (by omega) hlocked hblocked front u back hpast (hsame.trans hquiet)
    rw [← hidentity, ← hport] at hleases
    constructor
    · intro v hv
      rcases List.mem_append.mp (List.cons_append ▸ hv : v ∈ (u :: back) ++ [_]) with hv | hv
      · exact hleases v hv
      · rw [List.mem_singleton.mp hv]
        exact hlast
    · intro v hv
      rcases List.mem_append.mp hv with hv | hv
      · exact hnone v hv
      · rw [List.mem_singleton.mp hv]
        exact hdisc

theorem blocks_observe {past : List ClockStep} (h : KnowsLeases past s)
    {front back : List ClockStep} {u : ClockStep}
    (hsplit : past ++ [stepOn observe s input] = front ++ u :: back)
    (hcause : u.event.clockDiscontinuity = true ∨ ChangesSource (lastEvent front) u.event)
    (hlock : ∀ v ∈ u :: back, ¬Unlocks v.event) : (s.observe input).2.blocked = true := by
  rcases split_concat hsplit with ⟨rfl, rfl, rfl⟩ | ⟨back, rfl, hpast⟩
  · refine observe_blocks ?_ (hlock _ List.mem_cons_self)
    rcases hcause with hdisc | hsource
    · exact .inr hdisc
    · exact .inl (identityChanged_of_changesSource h.last hsource)
  · have hbefore : s.blocked = true := by
      refine h.blocks front u back hpast hcause fun v hv => hlock v ?_
      rw [← List.cons_append]
      exact List.mem_append_left _ hv
    exact observe_keeps_blocked hbefore (hlock (stepOn observe s input) (by simp))

theorem first_observe {past : List ClockStep} (h : KnowsLeases past s)
    (hzero : (s.observe input).2.generation = 0) : input.selected = false := by
  rcases observe_generation s input with hnext | ⟨hsame, hchanged, -⟩
  · exact absurd (hnext.symm.trans hzero) (nextGeneration_ne_zero _)
  · have hprior := h.first (hsame.symm.trans hzero)
    have hidentity := (Bool.or_eq_false_iff.mp hchanged).2
    simpa [identityChanged, hprior] using hidentity

theorem knowsLeases_observe {past : List ClockStep} (h : KnowsLeases past s)
    (input : PtpReceiverClockObservation) :
    KnowsLeases (past ++ [stepOn observe s input]) (s.observe input).2 where
  last := remembersLast_observe past s input
  first hzero := first_observe h hzero
  counted hfew := counted_observe h hfew
  leased hfew hlocked hblocked _ _ _ hsplit hsame :=
    leased_observe h hfew (observe_usable.mpr ⟨hlocked, hblocked⟩) hsplit hsame
  blocks _ _ _ hsplit hcause hlock := blocks_observe h hsplit hcause hlock

theorem knowsLeases_init : KnowsLeases [] {} where
  last := ⟨fun _ => rfl, fun _ h => by simp [lastEvent] at h⟩
  first _ := rfl
  counted _ := ⟨rfl, fun _ h => absurd h List.not_mem_nil⟩
  leased _ h := by simp at h
  blocks _ _ _ h := by simp at h

/-! ## Every sequence of observations -/

/-- What holds of an observation, given the ones before it. -/
structure LeaseSafe (past : List ClockStep) (t : ClockStep) : Prop where
  continuous : generationChanges (past ++ [t]) < 4294967295 → Continuous past t
  nonzero : t.output.clockUsable = true → t.output.generation ≠ 0
  unlocked : Unlocked past t

theorem leaseSafe_observe {past : List ClockStep} (h : KnowsLeases past s)
    (input : PtpReceiverClockObservation) : LeaseSafe past (stepOn observe s input) where
  continuous hfew := by
    intro front u back hpast hsame husable
    have hsplit : past ++ [stepOn observe s input] = front ++ u :: (back ++ [stepOn observe s input]) := by
      rw [hpast, List.append_assoc, List.cons_append]
    exact leased_observe h hfew husable hsplit hsame
  nonzero husable hzero := by
    have hselected := first_observe h hzero
    have hlocked : input.locked = true := (observe_usable.mp husable).1
    simp [PtpReceiverClockObservation.locked, hselected] at hlocked
  unlocked := by
    intro husable front u back hsplit hcause
    by_contra hnone
    have hblocked := blocks_observe h hsplit hcause fun v hv hlock => hnone ⟨v, hv, hlock⟩
    rw [(observe_usable.mp husable).2] at hblocked
    cases hblocked

theorem leaseSafe_history {es : List PtpReceiverClockObservation} {past future : List ClockStep}
    {t : ClockStep} (hsplit : history observe {} es = past ++ t :: future) : LeaseSafe past t := by
  refine history_rule (R := fun _ _ => True) KnowsLeases LeaseSafe ?_ ?_ knowsLeases_init hsplit
  · exact fun past s e h _ => ⟨leaseSafe_observe h e, knowsLeases_observe h e⟩
  · exact List.pairwise_of_forall fun _ _ => trivial

theorem generationChanges_mono (front back : List ClockStep) :
    generationChanges front ≤ generationChanges (front ++ back) := by
  unfold generationChanges
  rw [List.countP_append]
  exact Nat.le_add_right _ _

/-- **Receiver clock lease continuity.** In every sequence of observations with fewer than
2³² − 1 changes of the generation, the observations from one answer to a later usable one of the
same generation are one stretch of one clock. In every sequence, a usable answer never has
generation zero, and it has an unlocked observation behind every discontinuity and every change
of the source. -/
theorem lease_continuity (es : List PtpReceiverClockObservation) {past future : List ClockStep}
    {t : ClockStep} (hsplit : history observe {} es = past ++ t :: future) :
    (generationChanges (history observe {} es) < 2 ^ 32 - 1 → Continuous past t) ∧
      (t.output.clockUsable = true → t.output.generation ≠ 0) ∧ Unlocked past t := by
  have hsafe := leaseSafe_history hsplit
  refine ⟨fun hfew => hsafe.continuous ?_, hsafe.nonzero, hsafe.unlocked⟩
  have hmono := generationChanges_mono (past ++ [t]) future
  rw [← List.append_cons past t future, ← hsplit] at hmono
  omega

/-- A clock that is selected, then locks and stays locked. -/
def lockingClock : List PtpReceiverClockObservation :=
  [{ runtimeReady := true, sourceSelected := true, sourcePortNumber := 1 },
    { runtimeReady := true, sourceSelected := true, sourcePortNumber := 1, disciplineLocked := true },
    { runtimeReady := true, sourceSelected := true, sourcePortNumber := 1, disciplineLocked := true }]

/-- The answers to it. -/
def lockingSteps : List ClockStep := history observe {} lockingClock

def lockedStep : ClockStep := lockingSteps.getD 2 ⟨{}, {}, {}, {}⟩

theorem lease_continuity_lockingClock :
    history observe {} lockingClock = lockingSteps.take 2 ++ [lockedStep] ∧
      lockedStep.output = ⟨2, true⟩ ∧
        ((generationChanges (history observe {} lockingClock) < 2 ^ 32 - 1 →
            Continuous (lockingSteps.take 2) lockedStep) ∧
          (lockedStep.output.clockUsable = true → lockedStep.output.generation ≠ 0) ∧
            Unlocked (lockingSteps.take 2) lockedStep) :=
  ⟨by decide, by decide,
    @lease_continuity lockingClock (lockingSteps.take 2) [] lockedStep (by decide)⟩

end PtpReceiverClockAuthority

end ArStack.TimeSync
