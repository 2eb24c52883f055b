import ArStack.Lib.Run
import ArStack.TimeSync.SvLocalRefAcquisition
import Mathlib.Data.List.Chain

/-!
# The local reference is earned

What `observeLive` has to have seen before it returns true: ten epochs in a row with MAC evidence,
or ten epochs before the transmission and three of at most eight epochs of it. It also returns true
where an epoch of the transmission interrupts the ten epochs before it.

* `Earned` — what has to have been seen
* `LocalRun.resumes` — where an interrupted history is resumed
* `KnowsCalls` — what the counters tell of the last calls
* `earned_of_live`, `not_earned_interrupted`
-/

namespace ArStack.TimeSync

open ArStack.Lib

/-! ## What is earned -/

namespace SvLocalRefCall

/-- The epoch of a qualified observation. -/
def observed? : SvLocalRefCall → Option SvEpochIdentity
  | .reset => none
  | .preflight phaseQualified identity =>
    if phaseQualified = true ∧ identity.Valid then some identity else none
  | .live phaseQualified _ identity =>
    if phaseQualified = true ∧ identity.Valid then some identity else none

def isPreflight : SvLocalRefCall → Bool
  | .preflight .. => true
  | _ => false

/-- An observation of the transmission without MAC evidence. -/
def isQuiet : SvLocalRefCall → Bool
  | .live _ canonicalMacQualified _ => !canonicalMacQualified
  | _ => false

/-- An observation of the transmission with MAC evidence. -/
def isHeard : SvLocalRefCall → Bool
  | .live _ canonicalMacQualified _ => canonicalMacQualified
  | _ => false

/-- Two qualified observations of epochs one after the other. -/
def Follows (before after : SvLocalRefCall) : Prop :=
  ∃ x ∈ before.observed?, ∃ y ∈ after.observed?, x.Continues y

/-- The MAC evidence of the observation before is lost. -/
def RevokesMac (past : List SvLocalRefCall) (call : SvLocalRefCall) : Prop :=
  call.isQuiet = true ∧ ∃ previous ∈ past.getLast?, previous.isHeard = true

/-- The observation does not continue the one before. -/
def Discontinuous (past : List SvLocalRefCall) (call : SvLocalRefCall) : Prop :=
  ∀ previous ∈ past.getLast?, ¬previous.Follows call

end SvLocalRefCall

open SvLocalRefCall

/-- Calls one after the other that earn the local reference. -/
structure Earned (run : List SvLocalRefCall) : Prop where
  isChain : run.IsChain Follows
  ends : (run.length = 10 ∧ ∀ call ∈ run, call.isHeard = true) ∨
    ∃ preflight quiet heard, run = preflight ++ (quiet ++ heard) ∧
      (preflight.length = 10 ∧ ∀ call ∈ preflight, call.isPreflight = true) ∧
      (∀ call ∈ quiet, call.isQuiet = true) ∧
      (3 ≤ heard.length ∧ ∀ call ∈ heard, call.isHeard = true) ∧
      quiet.length + heard.length ≤ 8

/-! ## Runs -/

/-- The state, and the call before. -/
structure LocalRun where
  previous : Option SvLocalRefCall := none
  acquisition : SvLocalRefAcquisition := {}
  deriving DecidableEq

namespace LocalRun

def next (run : LocalRun) (call : SvLocalRefCall) : LocalRun :=
  { previous := some call, acquisition := (run.acquisition.call call).2 }

/-- A preflight observation directly after one of the transmission, while there is a preflight
history and no MAC evidence. -/
def resumes (run : LocalRun) : SvLocalRefCall → Bool
  | .preflight true identity =>
    (run.previous.any fun previous => !previous.isPreflight && previous.observed?.any fun before =>
      decide (before.Continues identity)) &&
      decide (identity.Valid ∧ run.acquisition.preflightEpochs ≠ 0 ∧ run.acquisition.count = 0)
  | _ => false

end LocalRun

/-- The state and the last call after the calls. -/
def localRun (calls : List SvLocalRefCall) : LocalRun := exec LocalRun.next {} calls

theorem localRun_concat (calls : List SvLocalRefCall) (call : SvLocalRefCall) :
    localRun (calls ++ [call]) = (localRun calls).next call :=
  exec_concat _ _ _

theorem previous_localRun (calls : List SvLocalRefCall) :
    (localRun calls).previous = calls.getLast? := by
  rcases List.eq_nil_or_concat calls with rfl | ⟨calls, call, rfl⟩
  · rfl
  · rw [List.concat_eq_append, localRun_concat, List.getLast?_concat]
    rfl

/-! ## Counters -/

/-- A counter that stops at `limit`. -/
theorem toNat_capped {x limit : UInt32} (h : x.toNat ≤ limit.toNat) :
    (if x < limit then x + 1 else x).toNat = min (x.toNat + 1) limit.toNat := by
  have hlimit := limit.toNat_lt
  split
  · rename_i hlt
    have hlt := UInt32.lt_iff_toNat_lt.mp hlt
    rw [UInt32.toNat_add]
    change (x.toNat + 1) % 2 ^ 32 = _
    omega
  · rename_i hge
    have hge := UInt32.le_iff_toNat_le.mp (UInt32.not_lt.mp hge)
    omega

/-! ## What the counters tell -/

section Suffix

variable {calls run : List SvLocalRefCall} {call : SvLocalRefCall}

theorem suffix_concat (h : run <:+ calls) (call : SvLocalRefCall) :
    run ++ [call] <:+ calls ++ [call] := by
  obtain ⟨front, rfl⟩ := h
  exact ⟨front, by simp⟩

/-- A call that follows the last one joins every run that ends there. -/
theorem isChain_concat (h : run <:+ calls) (hrun : run.IsChain Follows)
    (hfollows : ∀ previous ∈ calls.getLast?, previous.Follows call) :
    (run ++ [call]).IsChain Follows := by
  rw [List.isChain_append]
  refine ⟨hrun, List.isChain_singleton call, fun previous hprevious last hlast => ?_⟩
  obtain rfl := Option.some.inj hlast
  obtain ⟨front, rfl⟩ := h
  cases run with
  | nil => exact absurd hprevious (by simp)
  | cons first run =>
    rw [List.getLast?_append_of_ne_nil _ (List.cons_ne_nil _ _)] at hfollows
    exact hfollows previous hprevious

end Suffix

/-- What the counters tell of the last calls. -/
structure KnowsCalls (calls : List SvLocalRefCall) (s : SvLocalRefAcquisition) : Prop where
  last : s.count ≠ 0 ∨ s.preflightEpochs ≠ 0 ∨ s.liveAge ≠ 0 →
    ∃ call ∈ calls.getLast?, call.observed? = some s.identity
  mac : s.hadMacEvidence = true ↔ s.count ≠ 0
  count_le : s.count.toNat ≤ 10
  preflightEpochs_le : s.preflightEpochs.toNat ≤ 10
  liveAge_le : s.liveAge.toNat ≤ 9
  cold : s.count ≠ 0 → ∃ heard, heard <:+ calls ∧ heard.IsChain Follows ∧
    (∀ call ∈ heard, call.isHeard = true) ∧ s.count.toNat ≤ heard.length
  warm : s.preflightEpochs ≠ 0 → ∃ preflight quiet heard,
    preflight ++ (quiet ++ heard) <:+ calls ∧ (preflight ++ (quiet ++ heard)).IsChain Follows ∧
      (s.preflightEpochs.toNat ≤ preflight.length ∧
        ∀ call ∈ preflight, call.isPreflight = true) ∧
      (∀ call ∈ quiet, call.isQuiet = true) ∧
      (heard.length = s.count.toNat ∧ ∀ call ∈ heard, call.isHeard = true) ∧
      quiet.length + heard.length ≤ s.liveAge.toNat

namespace KnowsCalls

variable {calls : List SvLocalRefCall} {s : SvLocalRefAcquisition}

/-- A state that is reset tells nothing. -/
theorem reset (calls : List SvLocalRefCall) : KnowsCalls calls .reset where
  last h := by simp [SvLocalRefAcquisition.reset] at h
  mac := by simp [SvLocalRefAcquisition.reset]
  count_le := Nat.zero_le _
  preflightEpochs_le := Nat.zero_le _
  liveAge_le := Nat.zero_le _
  cold h := absurd rfl h
  warm h := absurd rfl h

/-- **What the counters tell earns the local reference.** -/
theorem earned (h : KnowsCalls calls s)
    (hreturns : s.count.toNat = 10 ∨
      s.preflightEpochs.toNat = 10 ∧ s.liveAge.toNat ≤ 8 ∧ 3 ≤ s.count.toNat) :
    ∃ run, run <:+ calls ∧ Earned run := by
  rcases hreturns with hcount | ⟨hpreflight, hage, hcount⟩
  · have hne : s.count ≠ 0 := fun hzero => by
      rw [hzero] at hcount
      exact absurd hcount (by decide)
    obtain ⟨heard, hsuffix, hchain, hheard, hlength⟩ := h.cold hne
    refine ⟨heard.drop (heard.length - 10), (List.drop_suffix _ _).trans hsuffix, hchain.drop _,
      .inl ⟨?_, fun call hcall => hheard call (List.mem_of_mem_drop hcall)⟩⟩
    rw [List.length_drop]
    omega
  · have hne : s.preflightEpochs ≠ 0 := fun hzero => by
      rw [hzero] at hpreflight
      exact absurd hpreflight (by decide)
    obtain ⟨preflight, quiet, heard, hsuffix, hchain, hbefore, hquiet, hheard, hlive⟩ := h.warm hne
    have hdrop : (preflight ++ (quiet ++ heard)).drop (preflight.length - 10) =
        preflight.drop (preflight.length - 10) ++ (quiet ++ heard) :=
      List.drop_append_of_le_length (Nat.sub_le _ _)
    refine ⟨(preflight ++ (quiet ++ heard)).drop (preflight.length - 10),
      (List.drop_suffix _ _).trans hsuffix, hchain.drop _, .inr ⟨_, quiet, heard, hdrop, ⟨?_,
        fun call hcall => hbefore.2 call (List.mem_of_mem_drop hcall)⟩, hquiet, ⟨?_, hheard.2⟩, ?_⟩⟩
    · rw [List.length_drop]
      omega
    · omega
    · omega

/-- An observation that has the identity of the last epoch follows it. -/
theorem follows (h : KnowsCalls calls s)
    (hne : s.count ≠ 0 ∨ s.preflightEpochs ≠ 0 ∨ s.liveAge ≠ 0) {call : SvLocalRefCall}
    {identity : SvEpochIdentity} (hcall : call.observed? = some identity)
    (hcontinues : s.identity.Continues identity) :
    ∀ previous ∈ calls.getLast?, previous.Follows call := by
  intro previous hprevious
  obtain ⟨last, hlast, hobserved⟩ := h.last hne
  obtain rfl := Option.some.inj (hprevious.symm.trans hlast)
  exact ⟨_, hobserved, _, hcall, hcontinues⟩

theorem observed?_live {phaseQualified canonicalMacQualified : Bool} {identity : SvEpochIdentity}
    (hqualified : ¬(!phaseQualified ∨ identity.session = 0 ∨ identity.source = 0 ∨
      identity.epoch = 0)) :
    (SvLocalRefCall.live phaseQualified canonicalMacQualified identity).observed? =
      some identity := by
  simp only [not_or, Bool.not_eq_true', Bool.not_eq_false] at hqualified
  exact if_pos hqualified

/-- The counter of the epochs before the transmission. -/
theorem preflight_counted (h : KnowsCalls calls s) (hcount : s.count = 0)
    {call : SvLocalRefCall} {identity : SvEpochIdentity} (hcall : call.observed? = some identity)
    (hpreflight : call.isPreflight = true)
    (hfollows : s.preflightEpochs ≠ 0 → ∀ previous ∈ calls.getLast?,
      previous.Follows call ∧ previous.isPreflight = true) :
    KnowsCalls (calls ++ [call])
      { s with
        identity
        preflightEpochs :=
          if s.preflightEpochs < SvLocalRefAcquisition.kRequiredCleanEpochs then
            s.preflightEpochs + 1
          else s.preflightEpochs } := by
  have hcapped : _ = min (s.preflightEpochs.toNat + 1) 10 :=
    @toNat_capped _ SvLocalRefAcquisition.kRequiredCleanEpochs h.preflightEpochs_le
  generalize (if s.preflightEpochs < SvLocalRefAcquisition.kRequiredCleanEpochs then
    s.preflightEpochs + 1 else s.preflightEpochs) = preflightEpochs at hcapped ⊢
  refine ⟨fun _ => ⟨call, by simp, hcall⟩, h.mac, h.count_le, ?_, h.liveAge_le, fun hne =>
    absurd hcount hne, fun _ => ?_⟩
  · dsimp only
    omega
  dsimp only
  rw [hcount, hcapped]
  by_cases hzero : s.preflightEpochs = 0
  · refine ⟨[call], [], [], List.suffix_append _ _, List.isChain_singleton _, ⟨?_, by simpa⟩,
      by simp, ⟨rfl, by simp⟩, Nat.zero_le _⟩
    rw [hzero]
    exact Nat.min_le_left 1 10
  · obtain ⟨preflight, quiet, heard, hsuffix, hchain, hbefore, hquiet, hheard, -⟩ := h.warm hzero
    have hnil : heard = [] := by
      rw [← List.length_eq_zero_iff, hheard.1, hcount]
      rfl
    subst hnil
    -- the last call was made before the transmission
    have hnil : quiet = [] := by
      rcases List.eq_nil_or_concat quiet with rfl | ⟨quiet, last, rfl⟩
      · rfl
      · obtain ⟨front, rfl⟩ := hsuffix
        have hlast := (hfollows hzero last (by simp)).2
        have hquiet := hquiet last (by simp)
        cases last <;> simp [isPreflight, isQuiet] at hlast hquiet
    subst hnil
    rw [List.append_nil, List.append_nil] at hsuffix hchain
    refine ⟨preflight ++ [call], [], [], ?_, ?_, ⟨?_, ?_⟩, by simp, ⟨rfl, by simp⟩,
      Nat.zero_le _⟩
    · rw [List.append_nil, List.append_nil]
      exact suffix_concat hsuffix call
    · rw [List.append_nil, List.append_nil]
      exact isChain_concat hsuffix hchain fun previous hprevious =>
        (hfollows hzero previous hprevious).1
    · rw [List.length_append]
      have := hbefore.1
      simp only [List.length_singleton]
      omega
    · intro before hmem
      rcases List.mem_append.mp hmem with hmem | hmem
      · exact hbefore.2 before hmem
      · rw [List.mem_singleton.mp hmem]
        exact hpreflight

/-- What an observation of the transmission does to the age of the epochs before it. -/
structure Aged (s : SvLocalRefAcquisition) (liveAge preflightEpochs : UInt32) : Prop where
  age : liveAge.toNat = min (s.liveAge.toNat + 1) 9
  history : preflightEpochs = 0 ∨ preflightEpochs = s.preflightEpochs ∧ liveAge.toNat ≤ 8

section Live

variable {call : SvLocalRefCall} {identity : SvEpochIdentity} {liveAge preflightEpochs : UInt32}

theorem Aged.preflightEpochs_le (h : KnowsCalls calls s) (haged : Aged s liveAge preflightEpochs) :
    preflightEpochs.toNat ≤ 10 := by
  rcases haged.history with hzero | ⟨hsame, -⟩
  · rw [hzero]
    exact Nat.zero_le _
  · exact hsame ▸ h.preflightEpochs_le

theorem aged (h : KnowsCalls calls s) :
    let liveAge := if s.liveAge < SvLocalRefAcquisition.kMaxWarmMacAcquisitionEpochs + 1 then
      s.liveAge + 1 else s.liveAge
    Aged s liveAge (if liveAge > SvLocalRefAcquisition.kMaxWarmMacAcquisitionEpochs then 0
      else s.preflightEpochs) := by
  intro liveAge
  refine ⟨@toNat_capped _ (SvLocalRefAcquisition.kMaxWarmMacAcquisitionEpochs + 1) h.liveAge_le,
    ?_⟩
  rcases UInt32.lt_or_le SvLocalRefAcquisition.kMaxWarmMacAcquisitionEpochs liveAge with
    hlate | hearly
  · exact .inl (if_pos hlate)
  · exact .inr ⟨if_neg (UInt32.not_lt.mpr hearly), UInt32.le_iff_toNat_le.mp hearly⟩

/-- An epoch of the transmission without MAC evidence. -/
theorem live_quiet (h : KnowsCalls calls s) (hcount : s.count = 0)
    (hcall : call.observed? = some identity) (hquiet : call.isQuiet = true)
    (hfollows : s.preflightEpochs ≠ 0 → ∀ previous ∈ calls.getLast?, previous.Follows call)
    (haged : Aged s liveAge preflightEpochs) :
    KnowsCalls (calls ++ [call]) { s with identity, liveAge, preflightEpochs } := by
  have hage := haged.age
  refine ⟨fun _ => ⟨call, by simp, hcall⟩, h.mac, h.count_le, haged.preflightEpochs_le h, ?_,
    fun hne => absurd hcount hne, fun hne => ?_⟩
  · dsimp only
    omega
  obtain ⟨hsame, height⟩ := haged.history.resolve_left hne
  dsimp only at hne ⊢
  rw [hsame] at hne ⊢
  obtain ⟨preflight, quiet, heard, hsuffix, hchain, hbefore, hquiets, hheard, hlive⟩ := h.warm hne
  have hnil : heard = [] := by
    rw [← List.length_eq_zero_iff, hheard.1, hcount]
    rfl
  subst hnil
  rw [List.append_nil] at hsuffix hchain
  refine ⟨preflight, quiet ++ [call], [], ?_, ?_, hbefore, ?_, hheard, ?_⟩
  · rw [List.append_nil, ← List.append_assoc]
    exact suffix_concat hsuffix call
  · rw [List.append_nil, ← List.append_assoc]
    exact isChain_concat hsuffix hchain (hfollows hne)
  · intro quiet' hmem
    rcases List.mem_append.mp hmem with hmem | hmem
    · exact hquiets quiet' hmem
    · rw [List.mem_singleton.mp hmem]
      exact hquiet
  · simp only [List.length_append, List.length_singleton, List.length_nil] at hlive ⊢
    omega

/-- An epoch of the transmission with MAC evidence. -/
theorem live_heard (h : KnowsCalls calls s) (hcall : call.observed? = some identity)
    (hheard : call.isHeard = true)
    (hfollows : s.count ≠ 0 ∨ s.preflightEpochs ≠ 0 ∨ s.liveAge ≠ 0 →
      ∀ previous ∈ calls.getLast?, previous.Follows call)
    (haged : Aged s liveAge preflightEpochs) {count : UInt32}
    (hcount : count.toNat = min (s.count.toNat + 1) 10) :
    KnowsCalls (calls ++ [call])
      { s with identity, liveAge, preflightEpochs, hadMacEvidence := true, count } := by
  have hage := haged.age
  have hpos : count ≠ 0 := fun hzero => by
    rw [hzero] at hcount
    change 0 = _ at hcount
    omega
  have hjoins : ∀ {heard : List SvLocalRefCall}, (∀ call ∈ heard, call.isHeard = true) →
      ∀ call' ∈ heard ++ [call], call'.isHeard = true := by
    intro heard hall call' hmem
    rcases List.mem_append.mp hmem with hmem | hmem
    · exact hall call' hmem
    · rw [List.mem_singleton.mp hmem]
      exact hheard
  refine ⟨fun _ => ⟨call, by simp, hcall⟩, ⟨fun _ => hpos, fun _ => rfl⟩, ?_,
    haged.preflightEpochs_le h, ?_, fun _ => ?_, fun hne => ?_⟩
  · dsimp only
    omega
  · dsimp only
    omega
  · dsimp only
    by_cases hzero : s.count = 0
    · refine ⟨[call], List.suffix_append _ _, List.isChain_singleton _, by simpa, ?_⟩
      rw [hcount, hzero]
      exact Nat.min_le_left 1 10
    · obtain ⟨heard, hsuffix, hchain, hall, hlength⟩ := h.cold hzero
      refine ⟨heard ++ [call], suffix_concat hsuffix call,
        isChain_concat hsuffix hchain (hfollows (.inl hzero)), hjoins hall, ?_⟩
      rw [List.length_append, List.length_singleton]
      omega
  · obtain ⟨hsame, height⟩ := haged.history.resolve_left hne
    dsimp only at hne ⊢
    rw [hsame] at hne ⊢
    obtain ⟨preflight, quiet, heard, hsuffix, hchain, hbefore, hquiet, hall, hlive⟩ := h.warm hne
    have hassoc : preflight ++ (quiet ++ (heard ++ [call])) =
        preflight ++ (quiet ++ heard) ++ [call] := by simp
    refine ⟨preflight, quiet, heard ++ [call], ?_, ?_, hbefore, hquiet, ⟨?_, hjoins hall.2⟩, ?_⟩
    · rw [hassoc]
      exact suffix_concat hsuffix call
    · rw [hassoc]
      exact isChain_concat hsuffix hchain (hfollows (.inr (.inl hne)))
    · rw [List.length_append, List.length_singleton, hall.1]
      omega
    · rw [List.length_append, List.length_singleton]
      omega

end Live

/-- **One more observation of the transmission.** -/
theorem live (h : KnowsCalls calls s) (phaseQualified canonicalMacQualified : Bool)
    (identity : SvEpochIdentity) :
    KnowsCalls (calls ++ [.live phaseQualified canonicalMacQualified identity])
      (s.observeLive phaseQualified canonicalMacQualified identity).2 := by
  rw [SvLocalRefAcquisition.observeLive]
  split
  · exact .reset _
  rename_i hqualified
  have hcall := @observed?_live phaseQualified canonicalMacQualified identity hqualified
  -- after the check of the identity
  obtain ⟨checked, heq, hchecked, hfollows⟩ : ∃ checked,
      (if (s.count ≠ 0 ∨ s.preflightEpochs ≠ 0 ∨ s.liveAge ≠ 0) ∧
        ¬s.identity.Continues identity then .reset else s) = checked ∧ KnowsCalls calls checked ∧
      (checked.count ≠ 0 ∨ checked.preflightEpochs ≠ 0 ∨ checked.liveAge ≠ 0 →
        ∀ previous ∈ calls.getLast?, previous.Follows
          (.live phaseQualified canonicalMacQualified identity)) := by
    refine ⟨_, rfl, ?_⟩
    split
    · refine ⟨.reset _, fun hne => ?_⟩
      simp [SvLocalRefAcquisition.reset] at hne
    · rename_i hsame
      exact ⟨h, fun hne => h.follows hne hcall (by_contra fun hnot => hsame ⟨hne, hnot⟩)⟩
  rw [heq]
  have haged := hchecked.aged
  dsimp only at haged ⊢
  split
  · rename_i hquiet
    split
    · exact .reset _
    · rename_i hmac
      have hcount : checked.count = 0 := by_contra fun hne => hmac (hchecked.mac.mpr hne)
      exact hchecked.live_quiet hcount hcall hquiet (fun hne => hfollows (.inr (.inl hne))) haged
  · rename_i hheard
    have hheard : canonicalMacQualified = true := by simpa using hheard
    exact hchecked.live_heard hcall hheard hfollows haged
      (@toNat_capped _ SvLocalRefAcquisition.kRequiredCleanEpochs hchecked.count_le)

/-- **One more observation before the transmission**, which resumes no interrupted history. -/
theorem preflight (h : KnowsCalls calls s) (phaseQualified : Bool) (identity : SvEpochIdentity)
    (hresumes : ({ previous := calls.getLast?, acquisition := s } : LocalRun).resumes
      (.preflight phaseQualified identity) = false) :
    KnowsCalls (calls ++ [.preflight phaseQualified identity])
      (s.observePreflight phaseQualified identity) := by
  rw [SvLocalRefAcquisition.observePreflight]
  split
  · exact .reset _
  rename_i hqualified
  simp only [not_or, Bool.not_eq_true', Bool.not_eq_false] at hqualified
  obtain ⟨rfl, hvalid⟩ := hqualified
  have hcall : (SvLocalRefCall.preflight true identity).observed? = some identity :=
    if_pos ⟨rfl, hvalid⟩
  dsimp only
  split
  · exact (reset calls).preflight_counted rfl hcall rfl fun hne => absurd rfl hne
  · rename_i hsame
    simp only [not_or, Decidable.not_not, not_and] at hsame
    refine h.preflight_counted hsame.1 hcall rfl fun hne previous hprevious => ?_
    have hfollows := h.follows (.inr (.inl hne)) hcall (hsame.2 hne) previous hprevious
    refine ⟨hfollows, by_contra fun hlive => ?_⟩
    obtain ⟨before, hbefore, _, hafter, hcontinues⟩ := hfollows
    obtain rfl := Option.some.inj (hcall.symm.trans hafter)
    rw [LocalRun.resumes, Option.mem_def.mp hprevious, Option.any_some,
      Option.mem_def.mp hbefore] at hresumes
    have hresumed : identity.Valid ∧ s.preflightEpochs ≠ 0 ∧ s.count = 0 := ⟨hvalid, hne, hsame.1⟩
    simp [hlive, hcontinues, hresumed] at hresumes

/-- **One more call.** -/
theorem call (h : KnowsCalls calls s) (call : SvLocalRefCall)
    (hresumes : ({ previous := calls.getLast?, acquisition := s } : LocalRun).resumes call =
      false) :
    KnowsCalls (calls ++ [call]) (s.call call).2 := by
  cases call with
  | reset => exact .reset _
  | preflight phaseQualified identity => exact h.preflight phaseQualified identity hresumes
  | live phaseQualified canonicalMacQualified identity =>
    exact h.live phaseQualified canonicalMacQualified identity

end KnowsCalls

/-- What the counters are when a call returns true. -/
theorem counters_of_call {s : SvLocalRefAcquisition} {call : SvLocalRefCall}
    (h : (s.call call).1 = true) :
    let after := (s.call call).2
    after.count.toNat = 10 ∨
      after.preflightEpochs.toNat = 10 ∧ after.liveAge.toNat ≤ 8 ∧ 3 ≤ after.count.toNat := by
  cases call with
  | reset => exact Bool.noConfusion h
  | preflight phaseQualified identity => exact Bool.noConfusion h
  | live phaseQualified canonicalMacQualified identity =>
    rw [SvLocalRefAcquisition.call, SvLocalRefAcquisition.observeLive] at h ⊢
    dsimp only at h ⊢
    split at h
    · exact Bool.noConfusion h
    rename_i hqualified
    rw [if_neg hqualified]
    split at h
    · exact Bool.noConfusion h
    rename_i hheard
    rw [if_neg hheard]
    simp only [Bool.or_eq_true, Bool.and_eq_true, beq_iff_eq, decide_eq_true_eq] at h
    rcases h with hcount | ⟨⟨hpreflight, hage⟩, hcount⟩
    · exact .inl (congrArg UInt32.toNat hcount)
    · exact .inr ⟨congrArg UInt32.toNat hpreflight, UInt32.le_iff_toNat_le.mp hage,
        UInt32.le_iff_toNat_le.mp hcount⟩

/-! ## Every run -/

/-- No call resumes a history that the transmission has interrupted. -/
def Uninterrupted (calls : List SvLocalRefCall) : Prop :=
  Along LocalRun.next (fun run call => run.resumes call = false) {} calls

instance (calls : List SvLocalRefCall) : Decidable (Uninterrupted calls) :=
  inferInstanceAs (Decidable (Along _ _ _ _))

theorem uninterrupted_concat {calls : List SvLocalRefCall} {call : SvLocalRefCall} :
    Uninterrupted (calls ++ [call]) ↔
      Uninterrupted calls ∧ (localRun calls).resumes call = false := by
  rw [Uninterrupted, along_append]
  exact and_congr_right fun _ => ⟨And.left, fun hcall => ⟨hcall, trivial⟩⟩

/-- **After every run** the counters tell what the last calls were. -/
theorem knows_localRun {calls : List SvLocalRefCall} (h : Uninterrupted calls) :
    KnowsCalls calls (localRun calls).acquisition := by
  induction calls using List.reverseRecOn with
  | nil => exact .reset _
  | append_singleton calls call ih =>
    obtain ⟨hcalls, hcall⟩ := uninterrupted_concat.mp h
    rw [localRun_concat]
    refine (ih hcalls).call call ?_
    rw [← previous_localRun]
    exact hcall

/-! ## After a call that breaks the run -/

namespace Earned

variable {calls front run before after : List SvLocalRefCall} {bad : SvLocalRefCall}

theorem ten_le_length (h : Earned run) : 10 ≤ run.length := by
  rcases h.ends with ⟨hlength, -⟩ | ⟨preflight, quiet, heard, rfl, ⟨hlength, -⟩, -⟩
  · exact hlength.ge
  · rw [List.length_append]
    omega

/-- A call at the end of the calls is before the run or in it. -/
theorem before_or_mem (h : front ++ run = before ++ bad :: after) :
    run.length ≤ after.length ∨ ∃ past, before = front ++ past ∧ run = past ++ bad :: after := by
  rcases List.append_eq_append_iff.mp h with ⟨past, hbefore, hrun⟩ | ⟨rest, hfront, hafter⟩
  · exact .inr ⟨past, hbefore, hrun⟩
  · cases rest with
    | nil => exact .inr ⟨[], by simpa using hfront.symm, hafter.symm⟩
    | cons first rest =>
      have hafter : after = rest ++ run := (List.cons.inj hafter).2
      refine .inl ?_
      rw [hafter, List.length_append]
      omega

/-- A run has no call that is not qualified. -/
theorem observed? (h : Earned run) (hsplit : run = before ++ bad :: after) :
    bad.observed? ≠ none := by
  have hlength := h.ten_le_length
  have hchain := h.isChain
  rw [hsplit, List.isChain_append] at hchain
  intro hnone
  cases after with
  | cons next after =>
    obtain ⟨_, hbad, -⟩ := (List.isChain_cons_cons.mp hchain.2.1).1
    exact absurd (hnone.symm.trans hbad) (Option.some_ne_none _).symm
  | nil =>
    rcases List.eq_nil_or_concat before with rfl | ⟨past, last, rfl⟩
    · rw [hsplit] at hlength
      exact absurd hlength (by simp)
    · obtain ⟨_, -, _, hbad, -⟩ := hchain.2.2 last (by simp) bad rfl
      exact absurd (hnone.symm.trans hbad) (Option.some_ne_none _).symm

/-- A run does not lose MAC evidence. -/
theorem not_heard (h : Earned run) (hsplit : run = before ++ bad :: after)
    (hquiet : bad.isQuiet = true) : ∃ previous ∈ before.getLast?, previous.isHeard = false := by
  have hbad : bad.isHeard = false := by
    cases bad <;> simp_all [isQuiet, isHeard]
  rcases h.ends with ⟨-, hall⟩ | ⟨preflight, quiet, heard, hrun, hbefore, hquiets, hheard, -⟩
  · have := hall bad (by rw [hsplit]; simp)
    exact absurd (hbad.symm.trans this) Bool.false_ne_true
  rw [hsplit, ← List.append_assoc] at hrun
  rcases List.append_eq_append_iff.mp hrun with ⟨rest, hrest, hafter⟩ | ⟨rest, -, hrest⟩
  · rcases List.eq_nil_or_concat before with rfl | ⟨past, last, rfl⟩
    · -- the first call was made before the transmission
      obtain ⟨first, preflight, rfl⟩ := List.exists_cons_of_length_pos
        (by rw [hbefore.1]; decide)
      obtain rfl : bad = first := (List.cons.inj hrun).1
      have := hbefore.2 bad List.mem_cons_self
      cases bad <;> simp_all [isPreflight, isQuiet]
    · refine ⟨last, by simp, ?_⟩
      have hmem : last ∈ preflight ++ quiet := hrest ▸ by simp
      rcases List.mem_append.mp hmem with hmem | hmem
      · have := hbefore.2 last hmem
        cases last <;> simp_all [isPreflight, isHeard]
      · have := hquiets last hmem
        cases last <;> simp_all [isQuiet, isHeard]
  · have := hheard.2 bad (hrest ▸ by simp)
    exact absurd (hbad.symm.trans this) Bool.false_ne_true

/-- **After a call that is not qualified, or that loses MAC evidence**, a run is earned anew. -/
theorem after_broken (h : Earned run) (hsplit : front ++ run = before ++ bad :: after)
    (hbad : bad.observed? = none ∨ RevokesMac before bad) : run.length ≤ after.length := by
  rcases before_or_mem hsplit with hle | ⟨past, rfl, hrun⟩
  · exact hle
  rcases hbad with hnone | ⟨hquiet, previous, hprevious, hheard⟩
  · exact absurd hnone (h.observed? hrun)
  · obtain ⟨last, hlast, hquieter⟩ := h.not_heard hrun hquiet
    have hlast : (front ++ past).getLast? = some last := by
      rw [List.getLast?_append, Option.mem_def.mp hlast, Option.some_or]
    obtain rfl := Option.some.inj (hlast.symm.trans hprevious)
    exact absurd (hquieter.symm.trans hheard) Bool.false_ne_true

/-- **A call that does not continue the one before** is at most the first of a run. -/
theorem from_discontinuous (h : Earned run) (hsplit : front ++ run = before ++ bad :: after)
    (hbad : Discontinuous before bad) : run.length ≤ after.length + 1 := by
  rcases before_or_mem hsplit with hle | ⟨past, rfl, hrun⟩
  · exact Nat.le_succ_of_le hle
  rcases List.eq_nil_or_concat past with rfl | ⟨past, last, rfl⟩
  · rw [hrun]
    exact Nat.le_refl _
  · have hchain := h.isChain
    rw [hrun, List.isChain_append] at hchain
    exact absurd (hchain.2.2 last (by simp) bad rfl) (hbad last (by simp))

end Earned

/-- **The local reference is earned** in every run in which no call resumes a history that the
transmission has interrupted. -/
theorem earned_of_live {past : List SvLocalRefCall} {call : SvLocalRefCall}
    (h : Uninterrupted (past ++ [call]))
    (hreturns : ((localRun past).acquisition.call call).1 = true) :
    ∃ run, run <:+ past ++ [call] ∧ Earned run ∧
      ∀ before bad after, past ++ [call] = before ++ bad :: after →
        (bad.observed? = none ∨ RevokesMac before bad → run.length ≤ after.length) ∧
        (Discontinuous before bad → run.length ≤ after.length + 1) := by
  have hknows := knows_localRun h
  rw [localRun_concat] at hknows
  obtain ⟨run, hsuffix, hearned⟩ := hknows.earned (counters_of_call hreturns)
  refine ⟨run, hsuffix, hearned, fun before bad after hsplit => ?_⟩
  obtain ⟨front, hfront⟩ := hsuffix
  rw [← hfront] at hsplit
  exact ⟨hearned.after_broken hsplit, hearned.from_discontinuous hsplit⟩

/-- Ten epochs before the transmission, and three of it. -/
def warmStart : List SvLocalRefCall :=
  ((List.range 10).map fun n =>
    .preflight true { session := 7, source := 3, epoch := .ofNat (n + 1) }) ++
  ((List.range 2).map fun n =>
    .live true true { session := 7, source := 3, epoch := .ofNat (n + 11) })

/-- They earn the local reference. -/
theorem earned_of_live_warmStart :
    ∃ run, run <:+ warmStart ++ [.live true true { session := 7, source := 3, epoch := 13 }] ∧
      Earned run := by
  obtain ⟨run, hsuffix, hearned, -⟩ := @earned_of_live warmStart
    (.live true true { session := 7, source := 3, epoch := 13 }) (by decide)
    (by decide)
  exact ⟨run, hsuffix, hearned⟩

/-- An epoch of the transmission in the middle of the ten epochs before it. -/
def interruptedStart : List SvLocalRefCall :=
  ((List.range 5).map fun n =>
    .preflight true { session := 7, source := 3, epoch := .ofNat (n + 1) }) ++
  [.live true false { session := 7, source := 3, epoch := 6 }] ++
  ((List.range 5).map fun n =>
    .preflight true { session := 7, source := 3, epoch := .ofNat (n + 7) }) ++
  ((List.range 2).map fun n =>
    .live true true { session := 7, source := 3, epoch := .ofNat (n + 12) })

/-- The local reference is claimed after an interrupted history. -/
theorem not_earned_interrupted :
    ¬∀ past call, ((localRun past).acquisition.call call).1 = true →
      ∃ run, run <:+ past ++ [call] ∧ Earned run := by
  intro h
  obtain ⟨run, hsuffix, hearned⟩ := h interruptedStart
    (.live true true { session := 7, source := 3, epoch := 14 }) (by decide)
  have hle : run.length ≤ 14 := hsuffix.length_le
  have hrun : run = List.drop (14 - run.length) _ := List.suffix_iff_eq_drop.mp hsuffix
  rcases hearned.ends with ⟨hlength, hall⟩ |
    ⟨preflight, quiet, heard, hsplit, hbefore, -, hheard, -⟩
  · rw [hrun, hlength] at hall
    exact absurd hall (by decide)
  · have htake : preflight = run.take 10 := by
      rw [hsplit, ← hbefore.1, List.take_left]
    have hlength := congrArg List.length hsplit
    rw [List.length_append, List.length_append, hbefore.1] at hlength
    have hall := hbefore.2
    obtain hlength | hlength : run.length = 13 ∨ run.length = 14 := by omega
    · rw [htake, hrun, hlength] at hall
      exact absurd hall (by decide)
    · rw [htake, hrun, hlength] at hall
      exact absurd hall (by decide)

end ArStack.TimeSync
