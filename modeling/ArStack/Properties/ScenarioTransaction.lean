import Mathlib.Algebra.Ring.Nat
import ArStack.Lib.History
import ArStack.SampledValues.LiveSignalTransaction

/-!
# A scenario is published whole or not at all

One task calls the transaction and publishes to its bank; readers pin the banks at any time.

* `ScenarioSystem.step` — the calls of the task
* `ScenarioSafe` — what holds of a call, given the calls before it
* `scenario_all_or_nothing` — every run
-/

namespace ArStack.SampledValues

open ArStack.Lib SvScenarioTransaction

structure ScenarioSystem where
  tx : SvScenarioTransaction := {}
  bank : SvLiveSignalBank
  deriving DecidableEq

/-- The calls of the task, and the readers' pins. -/
inductive ScenarioEvent where
  | begin (token : UInt64) (now : UInt32) (running : Bool)
  /-- The caller writes the draft. -/
  | edit (draft : SvLiveSignalState)
  | markFrequency
  | markShape
  | markSet (index : Nat)
  | markEnabled (index : Nat)
  | reject
  | commit (token expected : UInt64) (now : UInt32)
  | confirmReadback (token : UInt64) (now : UInt32)
  | reset
  | consumeStart
  /-- A publication that is not the transaction's. -/
  | publish (requested : SvLiveSignalState)
  | pin (readerCounts : Vector UInt32 4)
  deriving DecidableEq

inductive ScenarioAnswer where
  | none
  | began (accepted : Bool)
  | committed (result : SvScenarioResult)
  | confirmed (matched : Bool)
  | published (done : Bool)
  deriving DecidableEq

namespace ScenarioSystem

/-- The draft of a transaction starts with the active state of the bank. -/
def step (s : ScenarioSystem) : ScenarioEvent → ScenarioAnswer × ScenarioSystem
  | .begin token now running =>
    let (accepted, tx) := s.tx.begin token s.bank.snapshot now running
    (.began accepted, { s with tx })
  | .edit draft => (.none, { s with tx := s.tx.edit fun _ => draft })
  | .markFrequency => (.none, { s with tx := s.tx.markFrequency })
  | .markShape => (.none, { s with tx := s.tx.markShape })
  | .markSet index => (.none, { s with tx := s.tx.markSet index })
  | .markEnabled index => (.none, { s with tx := s.tx.markEnabled index })
  | .reject => (.none, { s with tx := s.tx.reject })
  | .commit token expected now =>
    let (result, tx, bank) := s.tx.commit s.bank token expected now
    (.committed result, { tx, bank })
  | .confirmReadback token now =>
    let (matched, tx) := s.tx.confirmReadback s.bank token now
    (.confirmed matched, { s with tx })
  | .reset => (.none, { s with tx := s.tx.reset })
  | .consumeStart => (.none, { s with tx := s.tx.consumeStart })
  | .publish requested =>
    let (done, bank) := s.bank.publish requested
    (.published done, { s with bank })
  | .pin readerCounts => (.none, { s with bank := { s.bank with readerCounts } })

end ScenarioSystem

abbrev ScenarioStep := Step ScenarioSystem ScenarioEvent ScenarioAnswer

/-! ## What is said of the calls -/

/-- The bit of the mask that a call marks. -/
def ScenarioEvent.mark : ScenarioEvent → Option Nat
  | .markFrequency => some 0
  | .markShape => some 1
  | .markSet index => if index < 8 then some (index + 2) else none
  | .markEnabled index => if index < 8 then some (index + 10) else none
  | _ => none

/-- The eighteen marks of a complete scenario. -/
def allMarks : List ScenarioEvent :=
  [.markFrequency, .markShape] ++ (List.range 8).map .markSet ++ (List.range 8).map .markEnabled

def ScenarioEvent.rejects : ScenarioEvent → Bool
  | .reject => true
  | .markSet index => decide (8 ≤ index)
  | .markEnabled index => decide (8 ≤ index)
  | _ => false

/-- The call ends the transaction or begins a new one. -/
def ScenarioEvent.restarts : ScenarioEvent → Bool
  | .begin _ _ _ => true
  | .reset => true
  | .consumeStart => true
  | _ => false

/-- The call has published a state. -/
def Publishes (t : ScenarioStep) : Bool :=
  t.output = .published true ∨ t.output = .committed .accepted

def publications (steps : List ScenarioStep) : Nat := steps.countP Publishes

/-- The generation has not come round to the same number. -/
def Unpublished (steps : List ScenarioStep) : Prop :=
  publications steps = 0 ∨ 2 ^ 64 ≤ publications steps

/-- The conditions under which a commit is accepted. -/
structure Complete (past : List ScenarioStep) (t : ScenarioStep) (token expected : UInt64)
    (now : UInt32) : Prop where
  published : t.after.bank.active =
    { t.before.tx.staged with generation := t.before.bank.active.generation + 1 }
  hash : svScenarioHash t.before.tx.staged = expected
  began : ∃ earlier b since beganMs running, past = earlier ++ b :: since ∧
    b.event = .begin token beganMs running ∧ b.output = .began true ∧ now - beganMs ≤ kTimeoutMs ∧
    (∀ r ∈ since, r.event.restarts = false ∧ r.event.rejects = false) ∧
    (∀ mark ∈ allMarks, ∃ r ∈ since, r.event = mark) ∧ Unpublished since

/-- The active state is the one that the transaction has committed and read back. -/
def Current (steps : List ScenarioStep) (active : SvLiveSignalState) : Prop :=
  ∃ earlier c since, steps = earlier ++ c :: since ∧ c.output = .committed .accepted ∧
    (∀ r ∈ since, r.event.restarts = false) ∧ (∃ r ∈ since, r.output = .confirmed true) ∧
    (active = c.after.bank.active ∨ 2 ^ 64 ≤ publications since)

/-- What holds of a call, given the calls before it. -/
structure ScenarioSafe (past : List ScenarioStep) (t : ScenarioStep) : Prop where
  unchanged : (∀ requested, t.event ≠ .publish requested) →
    (∀ readerCounts, t.event ≠ .pin readerCounts) → t.output ≠ .committed .accepted →
    t.after.bank = t.before.bank
  accepted : ∀ token expected now, t.event = .commit token expected now →
    t.output = .committed .accepted → Complete past t token expected now
  canStart : ∀ token hash now, t.after.tx.canStart t.after.bank token hash now = true →
    Current (past ++ [t]) t.after.bank.active
  verified : t.after.tx.verifiedCurrentBank t.after.bank = true →
    Current (past ++ [t]) t.after.bank.active

/-! ## One call -/

section Step

variable (s : ScenarioSystem) (e : ScenarioEvent)

/-- A publication takes the next generation; no other call changes the active state. -/
theorem step_active :
    if Publishes (stepOn ScenarioSystem.step s e) then
      (s.step e).2.bank.active.generation = s.bank.active.generation + 1
    else (s.step e).2.bank.active = s.bank.active := by
  cases e with
  | commit token expected now =>
    rcases s.tx.commit_cases s.bank token expected now with
      ⟨bank', heq, -, hactive⟩ | ⟨result, tx', heq, hne, -⟩
    · have hpub : Publishes (stepOn ScenarioSystem.step s (.commit token expected now)) = true := by
        simp [Publishes, stepOn, ScenarioSystem.step, heq]
      rw [if_pos hpub, ScenarioSystem.step, heq]
      exact congrArg SvLiveSignalState.generation hactive
    · have hpub : Publishes (stepOn ScenarioSystem.step s (.commit token expected now)) = false := by
        simp [Publishes, stepOn, ScenarioSystem.step, heq, hne]
      rw [hpub, if_neg Bool.false_ne_true, ScenarioSystem.step, heq]
  | publish requested =>
    rcases s.bank.publish_cases requested with ⟨bank', heq, -, hactive⟩ | heq
    · have hpub : Publishes (stepOn ScenarioSystem.step s (.publish requested)) = true := by
        simp [Publishes, stepOn, ScenarioSystem.step, heq]
      rw [if_pos hpub, ScenarioSystem.step, heq]
      exact congrArg SvLiveSignalState.generation hactive
    · have hpub : Publishes (stepOn ScenarioSystem.step s (.publish requested)) = false := by
        simp [Publishes, stepOn, ScenarioSystem.step, heq]
      rw [hpub, if_neg Bool.false_ne_true, ScenarioSystem.step, heq]
  | _ => rfl

/-- The call goes on with the transaction. -/
structure Keeps (tx' : SvScenarioTransaction) : Prop where
  restarts : e.restarts = false
  token : tx'.token = s.tx.token
  staging : tx'.staging = s.tx.staging
  committed : tx'.committed = s.tx.committed
  generation : tx'.generation = s.tx.generation
  baselineGeneration : tx'.baselineGeneration = s.tx.baselineGeneration
  beganMs : tx'.beganMs = s.tx.beganMs
  rejected : tx'.rejected = (s.tx.rejected || e.rejects)
  mask : ∀ bit < 18, tx'.mask &&& 1 <<< UInt32.ofNat bit ≠ 0 →
    s.tx.mask &&& 1 <<< UInt32.ofNat bit ≠ 0 ∨ e.mark = some bit
  readbackSeen : tx'.readbackSeen = true →
    s.tx.readbackSeen = true ∨ (s.step e).1 = .confirmed true ∧ s.tx.committed = true

variable {s e}

/-- A call that leaves the transaction as it is, apart from the draft. -/
theorem keeps_staged {staged : SvLiveSignalState} (hrestarts : e.restarts = false)
    (hrejects : e.rejects = false) : Keeps s e { s.tx with staged } :=
  ⟨hrestarts, rfl, rfl, rfl, rfl, rfl, rfl, by rw [hrejects, Bool.or_false], fun _ _ => .inl, .inl⟩

theorem keeps_mark {bit : Nat} (hbit : bit < 18) (hrestarts : e.restarts = false)
    (hmark : e.mark = some bit) (hrejects : e.rejects = false) : Keeps s e (s.tx.markBit bit) := by
  refine ⟨hrestarts, rfl, rfl, rfl, rfl, rfl, rfl, by rw [hrejects, Bool.or_false]; rfl,
    fun bit' hbit' hset => ?_, .inl⟩
  have hsame : ∀ a b : Fin 18, (1 : UInt32) <<< UInt32.ofNat a &&& 1 <<< UInt32.ofNat b ≠ 0 →
      a = b := by decide
  have hdistrib : (s.tx.mask ||| 1 <<< UInt32.ofNat bit) &&& 1 <<< UInt32.ofNat bit' =
      s.tx.mask &&& 1 <<< UInt32.ofNat bit' ||| 1 <<< UInt32.ofNat bit &&& 1 <<< UInt32.ofNat bit' :=
    UInt32.toBitVec_inj.mp BitVec.and_or_distrib_right
  rw [markBit, hdistrib, ne_eq, UInt32.or_eq_zero_iff, not_and_or] at hset
  rcases hset with hset | hset
  · exact .inl hset
  · have := hsame ⟨bit, hbit⟩ ⟨bit', hbit'⟩ hset
    rw [hmark, Fin.mk.inj_iff.mp this]
    exact .inr rfl

theorem keeps_reject (hrestarts : e.restarts = false) (hrejects : e.rejects = true) :
    Keeps s e s.tx.reject :=
  ⟨hrestarts, rfl, rfl, rfl, rfl, rfl, rfl, by rw [hrejects, Bool.or_true]; rfl, fun _ _ => .inl,
    .inl⟩

/-- What the transaction is behind a call. -/
theorem step_tx (s : ScenarioSystem) (e : ScenarioEvent) :
    (∃ token now running, e = .begin token now running ∧ (s.step e).1 = .began true ∧
      (s.step e).2.tx =
        { token
          staged := s.bank.active
          baselineGeneration := s.bank.active.generation
          beganRunning := running
          beganMs := now
          staging := true }) ∨
    (s.step e).2.tx = s.tx.reset ∨
    (∃ token expected now bank', e = .commit token expected now ∧
      (s.step e) = (.committed .accepted, { tx := s.tx.accepted bank', bank := bank' }) ∧
      s.tx.Ready s.bank token expected now ∧
      bank'.active = { s.tx.staged with generation := s.bank.active.generation + 1 }) ∨
    Keeps s e (s.step e).2.tx := by
  cases e with
  | begin token now running =>
    rw [ScenarioSystem.step]
    by_cases htoken : token = 0
    · have hbegin : s.tx.begin token s.bank.snapshot now running = (false, s.tx.reset) :=
        if_pos htoken
      rw [hbegin]
      exact .inr (.inl rfl)
    · have hbegin : s.tx.begin token s.bank.snapshot now running = (true, _) := if_neg htoken
      rw [hbegin]
      exact .inl ⟨token, now, running, rfl, rfl, rfl⟩
  | commit token expected now =>
    rw [ScenarioSystem.step]
    rcases s.tx.commit_cases s.bank token expected now with
      ⟨bank', heq, hready, hactive⟩ | ⟨result, tx', heq, -, hsame | hreset⟩
    · rw [heq]
      exact .inr (.inr (.inl ⟨token, expected, now, bank', rfl, rfl, hready, hactive⟩))
    · rw [heq, hsame]
      exact .inr (.inr (.inr (keeps_staged rfl rfl)))
    · rw [heq, hreset]
      exact .inr (.inl rfl)
  | edit draft => exact .inr (.inr (.inr (keeps_staged rfl rfl)))
  | publish requested => exact .inr (.inr (.inr (keeps_staged rfl rfl)))
  | pin readerCounts => exact .inr (.inr (.inr (keeps_staged rfl rfl)))
  | reset | consumeStart => exact .inr (.inl rfl)
  | markFrequency => exact .inr (.inr (.inr (keeps_mark (by decide) rfl rfl rfl)))
  | markShape => exact .inr (.inr (.inr (keeps_mark (by decide) rfl rfl rfl)))
  | reject => exact .inr (.inr (.inr (keeps_reject rfl rfl)))
  | markSet index =>
    refine .inr (.inr (.inr ?_))
    rw [ScenarioSystem.step, markSet]
    split
    · rename_i hindex
      exact keeps_mark (by omega) rfl (if_pos hindex) (decide_eq_false (by omega))
    · exact keeps_reject rfl (decide_eq_true (by omega))
  | markEnabled index =>
    refine .inr (.inr (.inr ?_))
    rw [ScenarioSystem.step, markEnabled]
    split
    · rename_i hindex
      exact keeps_mark (by omega) rfl (if_pos hindex) (decide_eq_false (by omega))
    · exact keeps_reject rfl (decide_eq_true (by omega))
  | confirmReadback token now =>
    refine .inr (.inr (.inr ⟨rfl, rfl, rfl, rfl, rfl, rfl, rfl, (Bool.or_false _).symm,
      fun _ _ => .inl, fun hseen => .inr ?_⟩))
    refine ⟨congrArg ScenarioAnswer.confirmed hseen, ?_⟩
    change s.tx.readbackMatches s.bank token now = true at hseen
    rw [readbackMatches] at hseen
    split at hseen
    · cases hseen
    · rename_i hmatches
      simp only [Bool.or_eq_true, not_or, Bool.not_eq_true, Bool.not_eq_false'] at hmatches
      exact hmatches.1.1

end Step

/-! ## The invariant -/

/-- What the calls so far say about the transaction and its bank. -/
structure ScenarioInv (past : List ScenarioStep) (s : ScenarioSystem) : Prop where
  /-- The generation counts the publications. -/
  counts : ∀ earlier b since, past = earlier ++ b :: since →
    s.bank.active.generation = b.after.bank.active.generation + UInt64.ofNat (publications since) ∧
      (publications since = 0 → s.bank.active = b.after.bank.active)
  staging : s.tx.staging = true → ∃ earlier b since running, past = earlier ++ b :: since ∧
    b.event = .begin s.tx.token s.tx.beganMs running ∧ b.output = .began true ∧
    b.after.bank.active.generation = s.tx.baselineGeneration ∧
    (∀ r ∈ since, r.event.restarts = false) ∧
    (s.tx.rejected = false → ∀ r ∈ since, r.event.rejects = false) ∧
    ∀ bit < 18, s.tx.mask &&& 1 <<< UInt32.ofNat bit ≠ 0 → ∃ r ∈ since, r.event.mark = some bit
  committed : s.tx.committed = true → ∃ earlier c since, past = earlier ++ c :: since ∧
    c.output = .committed .accepted ∧ c.after.bank.active.generation = s.tx.generation ∧
    (∀ r ∈ since, r.event.restarts = false) ∧
    (s.tx.readbackSeen = true → ∃ r ∈ since, r.output = .confirmed true)
  exclusive : s.tx.staging = true → s.tx.committed = false
  readback : s.tx.committed = false → s.tx.readbackSeen = false

variable {past : List ScenarioStep} {s : ScenarioSystem}

/-- The publications of a stretch of calls come round to the same generation. -/
theorem unpublished_of_generation {g : UInt64} {steps : List ScenarioStep}
    (h : g = g + UInt64.ofNat (publications steps)) : Unpublished steps := by
  have hzero : UInt64.ofNat (publications steps) = 0 := by grind
  have hmod := congrArg UInt64.toNat hzero
  rw [UInt64.toNat_ofNat'] at hmod
  have : (0 : UInt64).toNat = 0 := rfl
  rw [Unpublished]
  omega

/-- The stretches of the calls behind one more call. -/
theorem counts_concat (h : ScenarioInv past s) (e : ScenarioEvent) {earlier since : List ScenarioStep}
    {b : ScenarioStep} (hsplit : past ++ [stepOn ScenarioSystem.step s e] = earlier ++ b :: since) :
    (s.step e).2.bank.active.generation =
        b.after.bank.active.generation + UInt64.ofNat (publications since) ∧
      (publications since = 0 → (s.step e).2.bank.active = b.after.bank.active) := by
  rcases List.eq_nil_or_concat since with rfl | ⟨since, t, rfl⟩
  · obtain ⟨-, heq⟩ := List.append_inj' hsplit rfl
    rw [← (List.cons.inj heq).1]
    exact ⟨(UInt64.add_zero _).symm, fun _ => rfl⟩
  · rw [List.concat_eq_append, ← List.cons_append, ← List.append_assoc] at hsplit
    obtain ⟨hpast, heq⟩ := List.append_inj' hsplit rfl
    obtain ⟨hgeneration, hsame⟩ := h.counts earlier b since hpast
    have hactive := step_active s e
    rw [List.concat_eq_append, ← (List.cons.inj heq).1, publications, List.countP_append,
      List.countP_singleton]
    split at hactive
    · rename_i hpub
      rw [if_pos hpub, hactive, hgeneration, UInt64.ofNat_add, UInt64.add_assoc]
      exact ⟨rfl, fun hzero => by omega⟩
    · rename_i hpub
      rw [if_neg hpub, hactive]
      exact ⟨hgeneration, hsame⟩

/-- **One call keeps the invariant.** -/
theorem scenarioInv_step (h : ScenarioInv past s) (e : ScenarioEvent) :
    ScenarioInv (past ++ [stepOn ScenarioSystem.step s e]) (s.step e).2 := by
  have hcounts := fun earlier b since => @counts_concat past s h e earlier since b
  rcases step_tx s e with ⟨token, now, running, rfl, hbegan, htx⟩ | htx |
    ⟨token, expected, now, bank', rfl, hstep, hready, -⟩ | hkeeps
  · have hactive := step_active s (.begin token now running)
    have hpub : Publishes (stepOn ScenarioSystem.step s (.begin token now running)) = false := by
      rw [Publishes, stepOn, hbegan]
      exact decide_eq_false fun h => by rcases h with h | h <;> cases h
    rw [hpub, if_neg Bool.false_ne_true] at hactive
    refine ⟨hcounts, fun _ => ?_, fun hcommitted => ?_, fun _ => ?_, fun _ => ?_⟩
    · refine ⟨past, _, [], running, rfl, ?_, hbegan, ?_, ?_, ?_, ?_⟩
      · rw [htx]
        rfl
      · rw [htx]
        exact congrArg SvLiveSignalState.generation hactive
      · exact fun r hr => absurd hr List.not_mem_nil
      · exact fun _ r hr => absurd hr List.not_mem_nil
      · intro bit _ hset
        rw [htx] at hset
        exact absurd UInt32.zero_and hset
    · rw [htx] at hcommitted
      cases hcommitted
    · rw [htx]
    · rw [htx]
  · refine ⟨hcounts, fun hstaging => ?_, fun hcommitted => ?_, fun _ => ?_, fun _ => ?_⟩
    · rw [htx] at hstaging
      cases hstaging
    · rw [htx] at hcommitted
      cases hcommitted
    · rw [htx]
      rfl
    · rw [htx]
      rfl
  · have hseen := h.readback (h.exclusive hready.staging)
    refine ⟨hcounts, fun hstaging => ?_, fun _ => ?_, fun hstaging => ?_, fun hcommitted => ?_⟩
    · rw [hstep] at hstaging
      cases hstaging
    · refine ⟨past, _, [], rfl, ?_, ?_, fun r hr => absurd hr List.not_mem_nil, fun hback => ?_⟩
      · rw [stepOn, hstep]
      · rw [stepOn, hstep]
        rfl
      · rw [hstep] at hback
        rw [show s.tx.readbackSeen = true from hback] at hseen
        cases hseen
    · rw [hstep] at hstaging
      cases hstaging
    · rw [hstep] at hcommitted
      cases hcommitted
  · have hconcat {earlier since : List ScenarioStep} {b : ScenarioStep}
        (hpast : past = earlier ++ b :: since) :
        past ++ [stepOn ScenarioSystem.step s e] =
          earlier ++ b :: (since ++ [stepOn ScenarioSystem.step s e]) := by
      rw [hpast, List.append_assoc, List.cons_append]
    refine ⟨hcounts, fun hstaging => ?_, fun hcommitted => ?_, fun hstaging => ?_,
      fun hcommitted => ?_⟩
    · rw [hkeeps.staging] at hstaging
      obtain ⟨earlier, b, since, running, hpast, hbegin, hbegan, hbaseline, hrestarts, hrejects,
        hmarks⟩ := h.staging hstaging
      refine ⟨earlier, b, since ++ [stepOn ScenarioSystem.step s e], running, hconcat hpast, ?_,
        hbegan, ?_, ?_, ?_, ?_⟩
      · rw [hbegin, hkeeps.token, hkeeps.beganMs]
      · rw [hkeeps.baselineGeneration, hbaseline]
      · intro r hr
        rcases List.mem_append.mp hr with hr | hr
        · exact hrestarts r hr
        · rw [List.mem_singleton.mp hr]
          exact hkeeps.restarts
      · intro hrejected r hr
        rw [hkeeps.rejected, Bool.or_eq_false_iff] at hrejected
        rcases List.mem_append.mp hr with hr | hr
        · exact hrejects hrejected.1 r hr
        · rw [List.mem_singleton.mp hr]
          exact hrejected.2
      · intro bit hbit hset
        rcases hkeeps.mask bit hbit hset with hset | hmark
        · obtain ⟨r, hr, hmark⟩ := hmarks bit hbit hset
          exact ⟨r, List.mem_append_left _ hr, hmark⟩
        · exact ⟨_, List.mem_append_right _ List.mem_cons_self, hmark⟩
    · rw [hkeeps.committed] at hcommitted
      obtain ⟨earlier, c, since, hpast, haccepted, hgeneration, hrestarts, hread⟩ :=
        h.committed hcommitted
      refine ⟨earlier, c, since ++ [stepOn ScenarioSystem.step s e], hconcat hpast, haccepted, ?_,
        ?_, ?_⟩
      · rw [hkeeps.generation, hgeneration]
      · intro r hr
        rcases List.mem_append.mp hr with hr | hr
        · exact hrestarts r hr
        · rw [List.mem_singleton.mp hr]
          exact hkeeps.restarts
      · intro hback
        rcases hkeeps.readbackSeen hback with hback | ⟨hconfirmed, -⟩
        · obtain ⟨r, hr, hconfirmed⟩ := hread hback
          exact ⟨r, List.mem_append_left _ hr, hconfirmed⟩
        · exact ⟨_, List.mem_append_right _ List.mem_cons_self, hconfirmed⟩
    · rw [hkeeps.staging] at hstaging
      rw [hkeeps.committed]
      exact h.exclusive hstaging
    · rw [hkeeps.committed] at hcommitted
      by_contra hback
      rcases hkeeps.readbackSeen (by simpa using hback) with hback | ⟨-, hon⟩
      · rw [h.readback hcommitted] at hback
        cases hback
      · rw [hcommitted] at hon
        cases hon

/-! ## Every run -/

/-- A mark has one bit. -/
theorem mark_of_mem {mark : ScenarioEvent} (h : mark ∈ allMarks) : ∃ bit < 18,
    mark.mark = some bit ∧ ∀ e : ScenarioEvent, e.mark = some bit → e = mark := by
  have hmark (e : ScenarioEvent) {bit : Nat} (he : e.mark = some bit) :
      (e = .markFrequency ∧ bit = 0) ∨ (e = .markShape ∧ bit = 1) ∨
        (∃ index < 8, e = .markSet index ∧ bit = index + 2) ∨
        ∃ index < 8, e = .markEnabled index ∧ bit = index + 10 := by
    cases e <;> grind [ScenarioEvent.mark]
  rw [allMarks, List.mem_append, List.mem_append, List.mem_map, List.mem_map] at h
  rcases h with (h | ⟨index, hindex, rfl⟩) | ⟨index, hindex, rfl⟩
  · rcases List.mem_pair.mp h with rfl | rfl
    · exact ⟨0, by omega, rfl, fun e he => by grind⟩
    · exact ⟨1, by omega, rfl, fun e he => by grind⟩
  · have hlt := List.mem_range.mp hindex
    exact ⟨index + 2, by omega, if_pos hlt, fun e he => by grind⟩
  · have hlt := List.mem_range.mp hindex
    exact ⟨index + 10, by omega, if_pos hlt, fun e he => by grind⟩

/-- Under the invariant, a matching generation is that of the committed state. -/
theorem current_of_matches (h : ScenarioInv past s) (hcommitted : s.tx.committed = true)
    (hread : s.tx.readbackSeen = true) (hgeneration : s.bank.active.generation = s.tx.generation) :
    Current past s.bank.active := by
  obtain ⟨earlier, c, since, hpast, haccepted, hsame, hrestarts, hconfirmed⟩ :=
    h.committed hcommitted
  obtain ⟨hcount, hactive⟩ := h.counts earlier c since hpast
  rw [hgeneration, ← hsame] at hcount
  refine ⟨earlier, c, since, hpast, haccepted, hrestarts, hconfirmed hread, ?_⟩
  rcases unpublished_of_generation hcount with hzero | hwrap
  · exact .inl (hactive hzero)
  · exact .inr hwrap

theorem complete_of_accepted (h : ScenarioInv past s) {token expected : UInt64} {now : UInt32}
    (haccepted : (s.step (.commit token expected now)).1 = .committed .accepted) :
    Complete past (stepOn ScenarioSystem.step s (.commit token expected now)) token expected now := by
  rcases s.tx.commit_cases s.bank token expected now with
    ⟨bank', heq, hready, hactive⟩ | ⟨result, tx', heq, hne, -⟩
  swap
  · rw [ScenarioSystem.step, heq] at haccepted
    exact absurd (ScenarioAnswer.committed.inj haccepted) hne
  obtain ⟨earlier, b, since, running, hpast, hbegin, hbegan, hbaseline, hrestarts, hrejects,
    hmarks⟩ := h.staging hready.staging
  refine ⟨?_, hready.hash, earlier, b, since, s.tx.beganMs, running, hpast, ?_, hbegan,
    hready.elapsed, fun r hr => ⟨hrestarts r hr, hrejects hready.rejected r hr⟩, ?_, ?_⟩
  · rw [stepOn, ScenarioSystem.step, heq]
    exact hactive
  · rw [hbegin, hready.token_eq]
  · intro mark hmark
    obtain ⟨bit, hbit, -, honly⟩ := mark_of_mem hmark
    have hcomplete : ∀ bit : Fin 18, kCompleteMask &&& 1 <<< UInt32.ofNat bit ≠ 0 := by decide
    obtain ⟨r, hr, hrmark⟩ := hmarks bit hbit (hready.mask ▸ hcomplete ⟨bit, hbit⟩)
    exact ⟨r, hr, honly _ hrmark⟩
  · have hcount := (h.counts earlier b since hpast).1
    rw [hready.baseline, ← hbaseline] at hcount
    exact unpublished_of_generation hcount

theorem scenarioSafe_step (h : ScenarioInv past s) (e : ScenarioEvent) :
    ScenarioSafe past (stepOn ScenarioSystem.step s e) := by
  have hafter := scenarioInv_step h e
  constructor
  case unchanged =>
    intro hpublish hpin hnot
    cases e with
    | publish requested => exact absurd rfl (hpublish requested)
    | pin readerCounts => exact absurd rfl (hpin readerCounts)
    | commit token expected now =>
      rw [stepOn, ScenarioSystem.step] at hnot ⊢
      rcases s.tx.commit_cases s.bank token expected now with
        ⟨bank', heq, -, -⟩ | ⟨result, tx', heq, -, -⟩
      · rw [heq] at hnot
        exact absurd rfl hnot
      · rw [heq]
    | _ => rfl
  case accepted =>
    rintro token expected now rfl haccepted
    exact complete_of_accepted h haccepted
  case canStart =>
    intro token hash now hstart
    simp only [SvScenarioTransaction.canStart, Bool.and_eq_true, readbackMatches] at hstart
    obtain ⟨⟨⟨-, hread⟩, -⟩, hmatches⟩ := hstart
    split at hmatches
    · cases hmatches
    · rename_i hcommitted
      simp only [Bool.or_eq_true, not_or, Bool.not_eq_true, Bool.not_eq_false'] at hcommitted
      exact current_of_matches hafter hcommitted.1.1 hread
        (beq_iff_eq.mp (Bool.and_eq_true_iff.mp hmatches).1)
  case verified =>
    intro hverified
    rw [verifiedCurrentBank] at hverified
    split at hverified
    · cases hverified
    · rename_i hcommitted
      simp only [Bool.or_eq_true, not_or, Bool.not_eq_true, Bool.not_eq_false'] at hcommitted
      simp only [Bool.and_eq_true, beq_iff_eq] at hverified
      exact current_of_matches hafter hcommitted.1.1 hcommitted.1.2 hverified.1.2

/-- **Scenarios are published whole or not at all**, in every run of a new transaction and a
bank. -/
theorem scenario_all_or_nothing {bank : SvLiveSignalBank} {events : List ScenarioEvent}
    {past future : List ScenarioStep} {t : ScenarioStep}
    (hrun : history ScenarioSystem.step { bank := bank } events = past ++ t :: future) :
    ScenarioSafe past t := by
  refine history_rule (R := fun _ _ => True) ScenarioInv ScenarioSafe ?_
    (List.pairwise_of_forall fun _ _ => trivial) ?_ hrun
  · exact fun past s e h _ => ⟨scenarioSafe_step h e, scenarioInv_step h e⟩
  · refine ⟨fun earlier b since hnil => ?_, fun h => (by cases h), fun h => (by cases h),
      fun _ => rfl, fun _ => rfl⟩
    exact absurd hnil.symm (List.append_ne_nil_of_right_ne_nil _ (List.cons_ne_nil _ _))

/-- A scenario that is staged, committed and read back. -/
def sampleScenario : List ScenarioEvent :=
  .begin 7 0 false :: allMarks ++
    [.commit 7 (svScenarioHash SvLiveSignalBank.defaultState) 100, .confirmReadback 7 101]

theorem scenario_all_or_nothing_sample :
    let run := history ScenarioSystem.step { bank := .initial } sampleScenario
    (run.map (·.output)).drop 19 = [.committed .accepted, .confirmed true] ∧
      ∀ t ∈ run.getLast?, ScenarioSafe run.dropLast t := by
  refine ⟨by decide +kernel, fun t ht => ?_⟩
  exact scenario_all_or_nothing (List.dropLast_append_getLast? t ht).symm

/-- The published state is not the draft: it has the next generation. -/
theorem scenario_generation_differs :
    ∃ t ∈ history ScenarioSystem.step { bank := .initial } sampleScenario,
      t.output = .committed .accepted ∧ t.after.bank.active ≠ t.before.tx.staged := by
  decide +kernel

end ArStack.SampledValues
