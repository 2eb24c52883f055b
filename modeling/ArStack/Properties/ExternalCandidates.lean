import Mathlib.Data.List.Chain
import Mathlib.Data.Finset.Card
import Mathlib.Data.Fintype.Card
import ArStack.Lib.History
import ArStack.TimeSync.PtpExternalCandidatePolicy

/-!
# A candidate is stable for what it has announced

* `Observed`, `observe_observed` — what an announce does to the slots
* `Streak`, `Announced` — an unbroken series of announces
* `Tracks` — what the slots know of the announces; `announced_of_stable`
* `rivals`, `held_run` — a source with fewer than four rivals keeps its slot
* `external_candidates` — every sequence of announces
-/

namespace ArStack.TimeSync

open ArStack.Lib

/-- A call of `observe`. -/
structure CandidateCall where
  incoming : PtpAnnounceRank
  localRank : PtpAnnounceRank
  nowMs : Nat
  deriving DecidableEq

namespace PtpExternalCandidateGate

def step (g : PtpExternalCandidateGate) (c : CandidateCall) : PtpExternalCandidateGate :=
  g.observe c.incoming c.localRank c.nowMs

abbrev Source := PtpClockIdentity × UInt16

/-! ## The slots -/

variable {g : PtpExternalCandidateGate} {c : CandidateCall}

theorem put_slots (g : PtpExternalCandidateGate) (i j : Fin 4) (slot : PtpCandidateSlot) :
    (g.put i slot).slots.get j = if j = i then slot else g.slots.get j := by
  have hget : (g.put i slot).slots.get j = if i.val = j.val then slot else g.slots.get j :=
    Vector.getElem_set i.isLt j.isLt
  rw [hget]
  simp only [Fin.ext_iff]
  by_cases h : i.val = j.val
  · rw [if_pos h, if_pos h.symm]
  · rw [if_neg h, if_neg (Ne.symm h)]

theorem mem_slots_iff {slot : PtpCandidateSlot} :
    slot ∈ g.slots.toList ↔ ∃ i, g.slots.get i = slot := by
  rw [Vector.mem_toList_iff]
  constructor
  · intro hmem
    obtain ⟨i, hi, rfl⟩ := Vector.mem_iff_getElem.mp hmem
    exact ⟨⟨i, hi⟩, rfl⟩
  · rintro ⟨i, rfl⟩
    exact Vector.getElem_mem i.isLt

/-- A slot that is neither free nor stale. -/
def Fresh (slot : PtpCandidateSlot) (nowMs : Nat) : Prop :=
  slot.occupied = true ∧ slot.lastMs ≤ nowMs ∧ nowMs ≤ slot.lastMs + kStaleMs

/-- No slot follows the source. -/
def Absent (g : PtpExternalCandidateGate) (source : Source) : Prop :=
  ∀ i : Fin 4, (g.slots.get i).occupied = true → (g.slots.get i).rank.source ≠ source

/-- The slot behind a further announce of its rank. -/
def continueSlot (slot : PtpCandidateSlot) (nowMs : Nat) : PtpCandidateSlot :=
  { slot with
    lastMs := nowMs
    observations :=
      if slot.lastMs < nowMs ∧ slot.observations < kMinAnnounces then slot.observations + 1
      else slot.observations }

/-- What an announce does. -/
inductive Observed (g : PtpExternalCandidateGate) (c : CandidateCall) :
    PtpExternalCandidateGate → Prop where
  | ignored (hbad : acceptable c.incoming c.localRank = false)
      (habsent : Absent g c.incoming.source) : Observed g c g
  | cleared (i : Fin 4) (hbad : acceptable c.incoming c.localRank = false)
      (hoccupied : (g.slots.get i).occupied = true)
      (hsource : (g.slots.get i).rank.source = c.incoming.source) : Observed g c (g.put i {})
  | taken (i : Fin 4) (hgood : acceptable c.incoming c.localRank = true)
      (habsent : Absent g c.incoming.source) (hstale : ¬Fresh (g.slots.get i) c.nowMs) :
      Observed g c (g.put i (.fill c.incoming c.nowMs))
  | evicted (i : Fin 4) (hgood : acceptable c.incoming c.localRank = true)
      (habsent : Absent g c.incoming.source) (hfresh : ∀ j : Fin 4, Fresh (g.slots.get j) c.nowMs)
      (hbetter : c.incoming.orderKey < (g.slots.get i).rank.orderKey)
      (hweakest : ∀ j : Fin 4, (g.slots.get j).rank.orderKey ≤ (g.slots.get i).rank.orderKey) :
      Observed g c (g.put i (.fill c.incoming c.nowMs))
  | refused (hgood : acceptable c.incoming c.localRank = true)
      (habsent : Absent g c.incoming.source) (hfresh : ∀ j : Fin 4, Fresh (g.slots.get j) c.nowMs)
      (hbetter : ∀ j : Fin 4, (g.slots.get j).rank.orderKey ≤ c.incoming.orderKey) : Observed g c g
  | restarted (i : Fin 4) (hgood : acceptable c.incoming c.localRank = true)
      (hoccupied : (g.slots.get i).occupied = true)
      (hsource : (g.slots.get i).rank.source = c.incoming.source)
      (hbroken : c.incoming ≠ (g.slots.get i).rank ∨ ¬Fresh (g.slots.get i) c.nowMs) :
      Observed g c (g.put i (.fill c.incoming c.nowMs))
  | continued (i : Fin 4) (hgood : acceptable c.incoming c.localRank = true)
      (hrank : (g.slots.get i).rank = c.incoming) (hfresh : Fresh (g.slots.get i) c.nowMs) :
      Observed g c (g.put i (continueSlot (g.slots.get i) c.nowMs))

theorem findSource_some {rank : PtpAnnounceRank} {i : Fin 4} (h : g.findSource rank = some i) :
    (g.slots.get i).occupied = true ∧ (g.slots.get i).rank.source = rank.source := by
  simpa using List.find?_some h

theorem absent_of_findSource {rank : PtpAnnounceRank} (h : g.findSource rank = none) :
    Absent g rank.source := by
  intro i hoccupied hsource
  have hi : (g.slots.get i).occupied = true → ¬(g.slots.get i).rank.source = rank.source := by
    simpa using List.find?_eq_none.mp h i (List.mem_finRange i)
  exact hi hoccupied hsource

theorem not_fresh_iff (slot : PtpCandidateSlot) (nowMs : Nat) :
    (!slot.occupied || decide (nowMs < slot.lastMs) || decide (nowMs - slot.lastMs > kStaleMs)) =
      true ↔ ¬Fresh slot nowMs := by
  unfold Fresh
  cases slot.occupied
  · simp
  · simp
    omega

theorem stale_of_findFreeOrStale {nowMs : Nat} {i : Fin 4} (h : g.findFreeOrStale nowMs = some i) :
    ¬Fresh (g.slots.get i) nowMs := by
  have hi := List.find?_some h
  exact (not_fresh_iff _ _).mp hi

theorem fresh_of_findFreeOrStale {nowMs : Nat} (h : g.findFreeOrStale nowMs = none) (i : Fin 4) :
    Fresh (g.slots.get i) nowMs := by
  by_contra hstale
  exact List.find?_eq_none.mp h i (List.mem_finRange i) ((not_fresh_iff _ _).mpr hstale)

/-- The slot that the loop ends with is one of the greatest it has seen. -/
theorem weakest_foldl (key : Fin 4 → List Nat) (others : List (Fin 4)) (slot : Fin 4) :
    let last := others.foldl (fun slot other => if key slot < key other then other else slot) slot
    key slot ≤ key last ∧ ∀ i ∈ others, key i ≤ key last := by
  induction others generalizing slot with
  | nil => exact ⟨le_refl _, fun i hi => absurd hi List.not_mem_nil⟩
  | cons other others ih =>
    rw [List.foldl_cons]
    obtain ⟨hfrom, hrest⟩ := ih (if key slot < key other then other else slot)
    have hboth : key slot ≤ key (if key slot < key other then other else slot) ∧
        key other ≤ key (if key slot < key other then other else slot) := by
      split
      · rename_i hlt
        exact ⟨le_of_lt hlt, le_refl _⟩
      · rename_i hge
        exact ⟨le_refl _, not_lt.mp hge⟩
    refine ⟨le_trans hboth.1 hfrom, fun i hi => ?_⟩
    rcases List.mem_cons.mp hi with rfl | hi
    · exact le_trans hboth.2 hfrom
    · exact hrest i hi

theorem le_weakest (g : PtpExternalCandidateGate) (i : Fin 4) :
    (g.slots.get i).rank.orderKey ≤ (g.slots.get g.weakest).rank.orderKey :=
  (weakest_foldl (fun i => (g.slots.get i).rank.orderKey) (List.finRange 4) 0).2 i
    (List.mem_finRange i)

/-- Two announces with the same key and the same source are the same. -/
theorem eq_of_orderKey {rank other : PtpAnnounceRank} (hkey : rank.orderKey = other.orderKey)
    (hsource : rank.source = other.source) : rank = other := by
  obtain ⟨hfields, hsteps⟩ := List.append_inj' hkey rfl
  obtain ⟨hfields, hgm⟩ := List.append_inj hfields rfl
  simp only [List.cons.injEq, and_true, UInt8.toNat_inj, UInt16.toNat_inj] at hfields hsteps
  obtain ⟨hpriority1, hclass, haccuracy, hvariance, hpriority2⟩ := hfields
  have hgm : rank.gmIdentity = other.gmIdentity :=
    Vector.toList_inj.mp (List.map_injective_iff.mpr (fun _ _ => UInt8.toNat_inj.mp) hgm)
  obtain ⟨hidentity, hport⟩ := Prod.ext_iff.mp hsource
  cases rank
  cases other
  simp only [PtpAnnounceRank.source] at *
  simp only [*]

theorem continueSlot_of_lt {slot : PtpCandidateSlot} {nowMs : Nat} (h : slot.lastMs < nowMs) :
    continueSlot slot nowMs = { slot with
      lastMs := nowMs
      observations :=
        if slot.observations < kMinAnnounces then slot.observations + 1
        else slot.observations } := by
  simp only [continueSlot, h, true_and]

theorem continueSlot_observations (slot : PtpCandidateSlot) (nowMs : Nat) :
    slot.observations ≤ (continueSlot slot nowMs).observations ∧
      (continueSlot slot nowMs).observations ≤
        slot.observations + if slot.lastMs < nowMs then 1 else 0 := by
  unfold continueSlot
  by_cases hlater : slot.lastMs < nowMs
  · by_cases hfew : slot.observations < kMinAnnounces <;> simp [hlater, hfew]
  · simp [hlater]

/-- Another announce of the same moment changes nothing. -/
theorem put_continueSlot (i : Fin 4) {nowMs : Nat} (h : (g.slots.get i).lastMs = nowMs) :
    g.put i (continueSlot (g.slots.get i) nowMs) = g := by
  have hslot : continueSlot (g.slots.get i) nowMs = g.slots.get i := by
    rw [← h]
    simp [continueSlot]
  rw [hslot]
  exact congrArg mk (Vector.set_getElem_self i.isLt)

theorem observe_observed (g : PtpExternalCandidateGate) (c : CandidateCall) :
    Observed g c (g.step c) := by
  unfold step observe
  by_cases hgood : acceptable c.incoming c.localRank = true
  swap
  · have hbad : acceptable c.incoming c.localRank = false := (Bool.not_eq_true _).mp hgood
    rw [hbad, Bool.not_false, if_pos rfl]
    split
    · rename_i i hfind
      obtain ⟨hoccupied, hsource⟩ := findSource_some hfind
      exact .cleared i hbad hoccupied hsource
    · rename_i hfind
      exact .ignored hbad (absent_of_findSource hfind)
  rw [hgood, Bool.not_true, if_neg Bool.false_ne_true]
  split
  · rename_i hfind
    have habsent := absent_of_findSource hfind
    split
    · rename_i i hfree
      exact .taken i hgood habsent (stale_of_findFreeOrStale hfree)
    · rename_i hnone
      have hfresh := fresh_of_findFreeOrStale hnone
      by_cases hbetter : c.incoming.orderKey < (g.slots.get g.weakest).rank.orderKey
      · rw [decide_eq_true hbetter, Bool.not_true, if_neg Bool.false_ne_true]
        exact .evicted g.weakest hgood habsent hfresh hbetter (le_weakest g)
      · rw [decide_eq_false hbetter, Bool.not_false, if_pos rfl]
        exact .refused hgood habsent hfresh fun j => le_trans (le_weakest g j) (not_lt.mp hbetter)
  · rename_i i hfind
    obtain ⟨hoccupied, hsource⟩ := findSource_some hfind
    dsimp only
    split
    · rename_i hbroken
      refine .restarted i hgood hoccupied hsource ?_
      by_cases hkey : c.incoming.orderKey = (g.slots.get i).rank.orderKey
      · right
        rintro ⟨-, hlast, hgap⟩
        simp [hkey] at hbroken
        omega
      · exact .inl fun hrank => hkey (by rw [hrank])
    · rename_i hsame
      have hfacts : (c.incoming.orderKey = (g.slots.get i).rank.orderKey ∧
          (g.slots.get i).lastMs ≤ c.nowMs) ∧ c.nowMs - (g.slots.get i).lastMs ≤ kStaleMs := by
        simpa using hsame
      obtain ⟨⟨hkey, hlast⟩, hgap⟩ := hfacts
      have hcontinue := Observed.continued (g := g) (c := c) i hgood
        (eq_of_orderKey hkey hsource.symm).symm ⟨hoccupied, hlast, by omega⟩
      by_cases hlater : (g.slots.get i).lastMs < c.nowMs
      · rwa [if_pos hlater, ← continueSlot_of_lt hlater]
      · rw [put_continueSlot i (Nat.le_antisymm hlast (Nat.not_lt.mp hlater))] at hcontinue
        rwa [if_neg hlater]

/-! ## Series of announces -/

/-- When the source has announced. -/
def times (source : Source) (calls : List CandidateCall) : List Nat :=
  (calls.filter fun c => decide (c.incoming.source = source)).map CandidateCall.nowMs

/-- The announces of one source among the calls: all with this rank, which is acceptable each
time, and no two of them too far apart. -/
structure Streak (rank : PtpAnnounceRank) (calls : List CandidateCall) (first last : Nat) :
    Prop where
  steady : ∀ c ∈ calls, c.incoming.source = rank.source →
    c.incoming = rank ∧ acceptable rank c.localRank = true
  gaps : (times rank.source calls).IsChain fun earlier later =>
    earlier ≤ later ∧ later ≤ earlier + kStaleMs
  first : (times rank.source calls).head? = some first
  last : (times rank.source calls).getLast? = some last

/-- At how many moments the source has announced. -/
def moments (source : Source) (calls : List CandidateCall) : Nat :=
  (times source calls).toFinset.card

/-- The source has announced at three moments, long enough and until now. -/
def Announced (rank : PtpAnnounceRank) (calls : List CandidateCall) (nowMs : Nat) : Prop :=
  ∃ first last, Streak rank calls first last ∧ first + kStableMs ≤ nowMs ∧
    (last ≤ nowMs ∧ nowMs ≤ last + kStaleMs) ∧ kMinAnnounces ≤ moments rank.source calls

theorem times_append (source : Source) (calls others : List CandidateCall) :
    times source (calls ++ others) = times source calls ++ times source others := by
  simp [times]

theorem times_concat_of_ne {source : Source} (calls : List CandidateCall)
    (h : c.incoming.source ≠ source) : times source (calls ++ [c]) = times source calls := by
  simp [times, h]

theorem times_concat_self (calls : List CandidateCall) :
    times c.incoming.source (calls ++ [c]) = times c.incoming.source calls ++ [c.nowMs] := by
  simp [times]

variable {rank : PtpAnnounceRank} {calls : List CandidateCall} {first last : Nat}

theorem mem_times {source : Source} {t : Nat} (h : t ∈ times source calls) :
    ∃ c ∈ calls, c.incoming.source = source ∧ c.nowMs = t := by
  obtain ⟨c, hc, rfl⟩ := List.mem_map.mp h
  obtain ⟨hmem, hsource⟩ := List.mem_filter.mp hc
  exact ⟨c, hmem, of_decide_eq_true hsource, rfl⟩

namespace Streak

theorem le_last (h : Streak rank calls first last) {t : Nat} (ht : t ∈ times rank.source calls) :
    t ≤ last := by
  obtain ⟨init, hinit⟩ := List.getLast?_eq_some_iff.mp h.last
  have hchain : (times rank.source calls).IsChain (· ≤ ·) := h.gaps.imp fun _ _ hgap => hgap.1
  have hsorted := List.isChain_iff_pairwise.mp hchain
  rw [hinit] at ht hsorted
  rcases List.mem_append.mp ht with ht | ht
  · exact (List.pairwise_append.mp hsorted).2.2 t ht last (List.mem_singleton_self last)
  · exact Nat.le_of_eq (List.mem_singleton.mp ht)

theorem first_le (h : Streak rank calls first last) : first ≤ last :=
  h.le_last (List.mem_of_head? h.first)

theorem skip (h : Streak rank calls first last) (hother : c.incoming.source ≠ rank.source) :
    Streak rank (calls ++ [c]) first last where
  steady d hd hsource := by
    rcases List.mem_append.mp hd with hd | hd
    · exact h.steady d hd hsource
    · rw [List.mem_singleton.mp hd] at hsource
      exact absurd hsource hother
  gaps := by
    rw [times_concat_of_ne calls hother]
    exact h.gaps
  first := by
    rw [times_concat_of_ne calls hother]
    exact h.first
  last := by
    rw [times_concat_of_ne calls hother]
    exact h.last

/-- The first announces of a streak are one. -/
theorem front {before after : List CandidateCall} (h : Streak rank (before ++ after) first last)
    {first' last' : Nat} (hfirst : (times rank.source before).head? = some first')
    (hlast : (times rank.source before).getLast? = some last') :
    Streak rank before first' last' where
  steady d hd := h.steady d (List.mem_append_left _ hd)
  gaps := by
    have hgaps := h.gaps
    rw [times_append, List.isChain_append] at hgaps
    exact hgaps.1
  first := hfirst
  last := hlast

theorem single (hgood : acceptable c.incoming c.localRank = true) :
    Streak c.incoming [c] c.nowMs c.nowMs where
  steady d hd _ := by
    rw [List.mem_singleton.mp hd]
    exact ⟨rfl, hgood⟩
  gaps := by simp [times]
  first := by simp [times]
  last := by simp [times]

theorem concat (h : Streak c.incoming calls first last)
    (hgood : acceptable c.incoming c.localRank = true) (hlast : last ≤ c.nowMs)
    (hgap : c.nowMs ≤ last + kStaleMs) : Streak c.incoming (calls ++ [c]) first c.nowMs where
  steady d hd hsource := by
    rcases List.mem_append.mp hd with hd | hd
    · exact h.steady d hd hsource
    · rw [List.mem_singleton.mp hd]
      exact ⟨rfl, hgood⟩
  gaps := by
    rw [times_concat_self, List.isChain_append]
    refine ⟨h.gaps, List.isChain_singleton _, ?_⟩
    intro x hx y hy
    rw [h.last] at hx
    cases hx
    cases hy
    exact ⟨hlast, hgap⟩
  first := by
    rw [times_concat_self, List.head?_append, h.first]
    rfl
  last := by
    rw [times_concat_self, List.getLast?_concat]

/-- A later announce counts as another moment. -/
theorem moments_concat (h : Streak c.incoming calls first last) (hlast : last ≤ c.nowMs) :
    moments c.incoming.source (calls ++ [c]) =
      moments c.incoming.source calls + if last < c.nowMs then 1 else 0 := by
  have hset : (times c.incoming.source (calls ++ [c])).toFinset =
      insert c.nowMs (times c.incoming.source calls).toFinset := by
    ext t
    simp [times_concat_self]
  unfold moments
  rw [hset]
  by_cases hlater : last < c.nowMs
  · rw [if_pos hlater, Finset.card_insert_of_notMem]
    intro hmem
    have hle := h.le_last (List.mem_toFinset.mp hmem)
    omega
  · obtain rfl : last = c.nowMs := by omega
    have hmem := List.mem_of_getLast? h.last
    rw [if_neg hlater, Finset.insert_eq_of_mem (List.mem_toFinset.mpr hmem)]
    rfl

end Streak

/-! ## What the slots know -/

/-- A slot stands for the last announces of its source. -/
def Backed (calls : List CandidateCall) (slot : PtpCandidateSlot) : Prop :=
  slot.occupied = true → 1 ≤ slot.observations ∧
    ∃ front window, calls = front ++ window ∧
      Streak slot.rank window slot.firstMs slot.lastMs ∧
      slot.observations ≤ moments slot.rank.source window

/-- The invariant of the gate. -/
structure Tracks (calls : List CandidateCall) (g : PtpExternalCandidateGate) : Prop where
  distinct : ∀ i j : Fin 4, (g.slots.get i).occupied = true → (g.slots.get j).occupied = true →
    (g.slots.get i).rank.source = (g.slots.get j).rank.source → i = j
  backed : ∀ i : Fin 4, Backed calls (g.slots.get i)

theorem backed_skip {slot : PtpCandidateSlot} (h : Backed calls slot)
    (hother : slot.occupied = true → slot.rank.source ≠ c.incoming.source) :
    Backed (calls ++ [c]) slot := by
  intro hoccupied
  obtain ⟨hone, front, window, rfl, hstreak, hcount⟩ := h hoccupied
  have hne : c.incoming.source ≠ slot.rank.source := (hother hoccupied).symm
  refine ⟨hone, front, window ++ [c], List.append_assoc _ _ _, hstreak.skip hne, ?_⟩
  unfold moments
  rwa [times_concat_of_ne window hne]

theorem backed_fill (calls : List CandidateCall)
    (hgood : acceptable c.incoming c.localRank = true) :
    Backed (calls ++ [c]) (.fill c.incoming c.nowMs) := by
  intro _
  refine ⟨Nat.le_refl 1, calls, [c], rfl, .single hgood, ?_⟩
  simp [PtpCandidateSlot.fill, moments, times]

theorem backed_continueSlot {slot : PtpCandidateSlot} (h : Backed calls slot)
    (hrank : slot.rank = c.incoming) (hfresh : Fresh slot c.nowMs)
    (hgood : acceptable c.incoming c.localRank = true) :
    Backed (calls ++ [c]) (continueSlot slot c.nowMs) := by
  intro _
  obtain ⟨hoccupied, hlast, hgap⟩ := hfresh
  obtain ⟨hone, front, window, rfl, hstreak, hcount⟩ := h hoccupied
  rw [hrank] at hstreak hcount
  have hmoments := hstreak.moments_concat hlast
  obtain ⟨hmore, hfew⟩ := continueSlot_observations slot c.nowMs
  refine ⟨Nat.le_trans hone hmore, front, window ++ [c], List.append_assoc _ _ _, ?_, ?_⟩
  · show Streak slot.rank _ _ _
    rw [hrank]
    exact hstreak.concat hgood hlast hgap
  · show _ ≤ moments slot.rank.source _
    rw [hrank, hmoments]
    omega

theorem tracks_skip (h : Tracks calls g) (habsent : Absent g c.incoming.source) :
    Tracks (calls ++ [c]) g where
  distinct := h.distinct
  backed i := backed_skip (h.backed i) (habsent i)

/-- Only one slot can belong to the source of a call. -/
theorem tracks_put (h : Tracks calls g) {i : Fin 4} {slot : PtpCandidateSlot}
    (hothers : ∀ j : Fin 4, j ≠ i → (g.slots.get j).occupied = true →
      (g.slots.get j).rank.source ≠ c.incoming.source)
    (hsource : slot.occupied = true → slot.rank.source = c.incoming.source)
    (hslot : Backed (calls ++ [c]) slot) : Tracks (calls ++ [c]) (g.put i slot) where
  distinct j k hj hk hsame := by
    rw [put_slots] at hj hk
    rw [put_slots, put_slots] at hsame
    by_cases hji : j = i
    · by_cases hki : k = i
      · rw [hji, hki]
      · rw [if_pos hji] at hj hsame
        rw [if_neg hki] at hk hsame
        exact absurd (hsame.symm.trans (hsource hj)) (hothers k hki hk)
    · rw [if_neg hji] at hj hsame
      by_cases hki : k = i
      · rw [if_pos hki] at hk hsame
        exact absurd (hsame.trans (hsource hk)) (hothers j hji hj)
      · rw [if_neg hki] at hk hsame
        exact h.distinct j k hj hk hsame
  backed j := by
    rw [put_slots]
    split
    · exact hslot
    · rename_i hji
      exact backed_skip (h.backed j) (hothers j hji)

theorem others_of_own (h : Tracks calls g) {i : Fin 4} {source : Source}
    (hoccupied : (g.slots.get i).occupied = true) (hsource : (g.slots.get i).rank.source = source) :
    ∀ j : Fin 4, j ≠ i → (g.slots.get j).occupied = true → (g.slots.get j).rank.source ≠ source :=
  fun j hji hj hsame => hji (h.distinct j i hj hoccupied (hsame.trans hsource.symm))

theorem tracks_step (h : Tracks calls g) (c : CandidateCall) :
    Tracks (calls ++ [c]) (g.step c) := by
  have hobserved := observe_observed g c
  generalize g.step c = g' at hobserved ⊢
  cases hobserved with
  | ignored _ habsent => exact tracks_skip h habsent
  | cleared i _ hoccupied hsource =>
    exact tracks_put h (others_of_own h hoccupied hsource)
      (fun hfree => absurd hfree Bool.false_ne_true) fun hfree => absurd hfree Bool.false_ne_true
  | taken i hgood habsent =>
    exact tracks_put h (fun j _ => habsent j) (fun _ => rfl) (backed_fill calls hgood)
  | evicted i hgood habsent =>
    exact tracks_put h (fun j _ => habsent j) (fun _ => rfl) (backed_fill calls hgood)
  | refused _ habsent => exact tracks_skip h habsent
  | restarted i hgood hoccupied hsource =>
    exact tracks_put h (others_of_own h hoccupied hsource) (fun _ => rfl) (backed_fill calls hgood)
  | continued i hgood hrank hfresh =>
    have hsource : (g.slots.get i).rank.source = c.incoming.source := by rw [hrank]
    exact tracks_put h (others_of_own h hfresh.1 hsource) (fun _ => hsource)
      (backed_continueSlot (h.backed i) hrank hfresh hgood)

theorem tracks_init : Tracks [] {} := by
  have hfree (i : Fin 4) : ({} : PtpExternalCandidateGate).slots.get i = {} :=
    Vector.getElem_replicate i.isLt
  refine ⟨fun i j hi => ?_, fun i hi => ?_⟩
  · rw [hfree] at hi
    cases hi
  · rw [hfree] at hi
    cases hi

theorem tracks_exec (calls : List CandidateCall) : Tracks calls (exec step {} calls) := by
  induction calls using List.reverseRecOn with
  | nil => exact tracks_init
  | append_singleton calls c ih =>
    rw [exec_concat]
    exact tracks_step ih c

/-- A gate is stable because of a source that has announced long enough. -/
theorem announced_of_stable (h : Tracks calls g) {nowMs : Nat} (hstable : g.stable nowMs = true) :
    ∃ rank front window, calls = front ++ window ∧ Announced rank window nowMs := by
  obtain ⟨slot, hmem, hslot⟩ := List.any_eq_true.mp hstable
  obtain ⟨i, rfl⟩ := mem_slots_iff.mp hmem
  simp only [Bool.and_eq_true, decide_eq_true_eq] at hslot
  obtain ⟨⟨⟨⟨⟨hoccupied, hlast⟩, hgap⟩, hfirst⟩, hlong⟩, hoften⟩ := hslot
  obtain ⟨-, front, window, hcalls, hstreak, hcount⟩ := h.backed i hoccupied
  exact ⟨_, front, window, hcalls, _, _, hstreak, by omega, ⟨hlast, by omega⟩, by omega⟩

/-! ## Rivals -/

/-- The other sources that were seen with a rank at least as good. -/
def rivals (rank : PtpAnnounceRank) (past : List CandidateCall) (nowMs : Nat) : Finset Source :=
  ((past.filter fun c =>
    decide (c.incoming.source ≠ rank.source) && decide (c.incoming.orderKey ≤ rank.orderKey) &&
      decide (nowMs ≤ c.nowMs + kStaleMs)).map fun c => c.incoming.source).toFinset

/-- Throughout the window, fewer than four such sources were seen. -/
def Room (rank : PtpAnnounceRank) (front window : List CandidateCall) : Prop :=
  ∀ before c after, window = before ++ c :: after →
    (rivals rank (front ++ before ++ [c]) c.nowMs).card < 4

theorem mem_rivals {past : List CandidateCall} {nowMs : Nat} (hmem : c ∈ past)
    (hother : c.incoming.source ≠ rank.source) (hkey : c.incoming.orderKey ≤ rank.orderKey)
    (hrecent : nowMs ≤ c.nowMs + kStaleMs) : c.incoming.source ∈ rivals rank past nowMs := by
  refine List.mem_toFinset.mpr (List.mem_map.mpr ⟨c, List.mem_filter.mpr ⟨hmem, ?_⟩, rfl⟩)
  simp [hother, hkey, hrecent]

/-- The last announce of a slot's source. -/
theorem mem_rivals_of_slot (h : Tracks calls g) {i : Fin 4} {nowMs : Nat}
    (hfresh : Fresh (g.slots.get i) nowMs) (hother : (g.slots.get i).rank.source ≠ rank.source)
    (hkey : (g.slots.get i).rank.orderKey ≤ rank.orderKey) :
    (g.slots.get i).rank.source ∈ rivals rank (calls ++ [c]) nowMs := by
  obtain ⟨-, front, window, rfl, hstreak, -⟩ := h.backed i hfresh.1
  obtain ⟨d, hd, hsource, hlast⟩ := mem_times (List.mem_of_getLast? hstreak.last)
  have hrank := (hstreak.steady d hd hsource).1
  rw [← hrank] at hother hkey ⊢
  refine mem_rivals (by simp [hd]) hother hkey ?_
  rw [hlast]
  exact hfresh.2.2

theorem card_of_injective {f : Fin 4 → Source} {sources : Finset Source}
    (hinj : Function.Injective f) (hmem : ∀ i, f i ∈ sources) : 4 ≤ sources.card := by
  have himage : (Finset.univ.image f).card = 4 := by
    rw [Finset.card_image_of_injective _ hinj, Finset.card_univ, Fintype.card_fin]
  rw [← himage]
  refine Finset.card_le_card fun source hsource => ?_
  obtain ⟨i, -, rfl⟩ := Finset.mem_image.mp hsource
  exact hmem i

/-! ## A source that keeps its slot -/

/-- A slot stands for the announces since `first` at that many moments. -/
def Held (rank : PtpAnnounceRank) (first last count : Nat) (g : PtpExternalCandidateGate) : Prop :=
  ∃ i : Fin 4, (g.slots.get i).occupied = true ∧ (g.slots.get i).rank = rank ∧
    (g.slots.get i).firstMs ≤ first ∧ (g.slots.get i).lastMs = last ∧
    min kMinAnnounces count ≤ (g.slots.get i).observations

theorem held_put_self {i : Fin 4} {slot : PtpCandidateSlot} {count : Nat}
    (hoccupied : slot.occupied = true) (hrank : slot.rank = rank) (hfirst : slot.firstMs ≤ first)
    (hlast : slot.lastMs = last) (hcount : min kMinAnnounces count ≤ slot.observations) :
    Held rank first last count (g.put i slot) := by
  refine ⟨i, ?_⟩
  rw [put_slots, if_pos rfl]
  exact ⟨hoccupied, hrank, hfirst, hlast, hcount⟩

/-- The first announce of a source with fewer than four rivals finds a slot. -/
theorem held_start (h : Tracks calls g) (hgood : acceptable c.incoming c.localRank = true)
    (hroom : (rivals c.incoming (calls ++ [c]) c.nowMs).card < 4) :
    Held c.incoming c.nowMs c.nowMs 1 (g.step c) := by
  have hobserved := observe_observed g c
  generalize g.step c = g' at hobserved ⊢
  have hfill (i : Fin 4) : Held c.incoming c.nowMs c.nowMs 1 (g.put i (.fill c.incoming c.nowMs)) :=
    held_put_self rfl rfl (Nat.le_refl _) rfl (Nat.le_refl _)
  cases hobserved with
  | ignored hbad => exact absurd (hbad.symm.trans hgood) Bool.false_ne_true
  | cleared _ hbad => exact absurd (hbad.symm.trans hgood) Bool.false_ne_true
  | taken i => exact hfill i
  | evicted i => exact hfill i
  | restarted i => exact hfill i
  | refused _ habsent hfresh hbetter =>
    -- the four slots hold four rivals
    have hfour := card_of_injective (f := fun i => (g.slots.get i).rank.source)
      (fun i j hsame => h.distinct i j (hfresh i).1 (hfresh j).1 hsame)
      fun i => mem_rivals_of_slot (c := c) h (hfresh i) (habsent i (hfresh i).1) (hbetter i)
    exact absurd hroom (Nat.not_lt.mpr hfour)
  | continued i _ hrank hfresh =>
    obtain ⟨hone, front, window, -, hstreak, -⟩ := h.backed i hfresh.1
    have hmore := (continueSlot_observations (g.slots.get i) c.nowMs).1
    refine held_put_self hfresh.1 hrank (Nat.le_trans hstreak.first_le hfresh.2.1) rfl ?_
    exact Nat.le_trans (Nat.min_le_right _ _) (Nat.le_trans hone hmore)

/-- A further announce in time goes into the slot. -/
theorem held_continue {count : Nat} (h : Tracks calls g) (hheld : Held c.incoming first last count g)
    (hgood : acceptable c.incoming c.localRank = true) (hlast : last ≤ c.nowMs)
    (hgap : c.nowMs ≤ last + kStaleMs) :
    Held c.incoming first c.nowMs (count + if last < c.nowMs then 1 else 0) (g.step c) := by
  obtain ⟨i, hoccupied, hrank, hfirst, rfl, hcount⟩ := hheld
  have hpresent : ¬Absent g c.incoming.source := fun habsent => habsent i hoccupied (by rw [hrank])
  have hown {j : Fin 4} (hj : (g.slots.get j).occupied = true)
      (hsource : (g.slots.get j).rank.source = c.incoming.source) : j = i :=
    h.distinct j i hj hoccupied (by rw [hsource, hrank])
  have hobserved := observe_observed g c
  generalize g.step c = g' at hobserved ⊢
  cases hobserved with
  | ignored hbad => exact absurd (hbad.symm.trans hgood) Bool.false_ne_true
  | cleared _ hbad => exact absurd (hbad.symm.trans hgood) Bool.false_ne_true
  | taken _ _ habsent => exact absurd habsent hpresent
  | evicted _ _ habsent => exact absurd habsent hpresent
  | refused _ habsent => exact absurd habsent hpresent
  | restarted j _ hj hsource hbroken =>
    obtain rfl := hown hj hsource
    rcases hbroken with hne | hstale
    · exact absurd hrank.symm hne
    · exact absurd ⟨hoccupied, hlast, hgap⟩ hstale
  | continued j _ hj hfresh =>
    obtain rfl := hown hfresh.1 (by rw [hj])
    refine held_put_self hoccupied hrank hfirst rfl ?_
    unfold continueSlot kMinAnnounces at *
    by_cases hlater : (g.slots.get j).lastMs < c.nowMs
    · rw [if_pos hlater]
      simp only [hlater, true_and]
      split <;> omega
    · rw [if_neg hlater]
      simp only [hlater, false_and, if_false]
      exact hcount

/-- An announce of another source leaves the slot alone, as long as there are fewer than four
rivals. -/
theorem held_skip {count : Nat} (h : Tracks calls g) (hheld : Held rank first last count g)
    (hother : c.incoming.source ≠ rank.source) (hlast : last ≤ c.nowMs)
    (hgap : c.nowMs ≤ last + kStaleMs) (hroom : (rivals rank (calls ++ [c]) c.nowMs).card < 4) :
    Held rank first last count (g.step c) := by
  obtain ⟨i, hoccupied, rfl, hfirst, rfl, hcount⟩ := hheld
  have hkeep {j : Fin 4} (slot : PtpCandidateSlot) (hji : j ≠ i) :
      Held (g.slots.get i).rank first (g.slots.get i).lastMs count (g.put j slot) := by
    refine ⟨i, ?_⟩
    rw [put_slots, if_neg (Ne.symm hji)]
    exact ⟨hoccupied, rfl, hfirst, rfl, hcount⟩
  have hnot {j : Fin 4} (hsource : (g.slots.get j).rank.source = c.incoming.source) : j ≠ i := by
    rintro rfl
    exact hother hsource.symm
  have hobserved := observe_observed g c
  generalize g.step c = g' at hobserved ⊢
  cases hobserved with
  | ignored => exact ⟨i, hoccupied, rfl, hfirst, rfl, hcount⟩
  | refused => exact ⟨i, hoccupied, rfl, hfirst, rfl, hcount⟩
  | cleared j _ _ hsource => exact hkeep _ (hnot hsource)
  | restarted j _ _ hsource => exact hkeep _ (hnot hsource)
  | continued j _ hrank => exact hkeep _ (hnot (by rw [hrank]))
  | taken j _ _ hstale =>
    refine hkeep _ ?_
    rintro rfl
    exact hstale ⟨hoccupied, hlast, hgap⟩
  | evicted j _ habsent hfresh hbetter hweakest =>
    refine hkeep _ ?_
    rintro rfl
    -- the newcomer and the sources of the other slots are four rivals
    have hinj : Function.Injective fun k =>
        if k = j then c.incoming.source else (g.slots.get k).rank.source := by
      intro k l hsame
      dsimp only at hsame
      by_cases hk : k = j
      · by_cases hl : l = j
        · rw [hk, hl]
        · rw [if_pos hk, if_neg hl] at hsame
          exact absurd hsame.symm (habsent l (hfresh l).1)
      · by_cases hl : l = j
        · rw [if_neg hk, if_pos hl] at hsame
          exact absurd hsame (habsent k (hfresh k).1)
        · rw [if_neg hk, if_neg hl] at hsame
          exact h.distinct k l (hfresh k).1 (hfresh l).1 hsame
    refine absurd hroom (Nat.not_lt.mpr (card_of_injective hinj fun k => ?_))
    split
    · exact mem_rivals (by simp) hother (le_of_lt hbetter) (Nat.le_add_right _ _)
    · rename_i hk
      refine mem_rivals_of_slot h (hfresh k) (fun hsame => ?_) (hweakest k)
      exact hk (h.distinct k j (hfresh k).1 hoccupied hsame)

/-- In a sorted window, every call lies within the stale time of the announce before it. -/
theorem covered {before after : List CandidateCall} {nowMs t : Nat}
    (h : Announced rank (before ++ c :: after) nowMs)
    (hsorted : (before ++ c :: after).Pairwise fun d e => d.nowMs ≤ e.nowMs)
    (hnow : ∀ d ∈ before ++ c :: after, d.nowMs ≤ nowMs)
    (hlast : (times rank.source before).getLast? = some t) :
    t ≤ c.nowMs ∧ c.nowMs ≤ t + kStaleMs := by
  obtain ⟨hbefore, hafter, hcross⟩ := List.pairwise_append.mp hsorted
  constructor
  · obtain ⟨d, hd, -, rfl⟩ := mem_times (List.mem_of_getLast? hlast)
    exact hcross d hd c List.mem_cons_self
  obtain ⟨first, last, hstreak, -, ⟨-, hrecent⟩, -⟩ := h
  have hgaps := hstreak.gaps
  have hend := hstreak.last
  rw [times_append] at hgaps hend
  cases hrest : times rank.source (c :: after) with
  | nil =>
    rw [hrest, List.append_nil, hlast] at hend
    cases hend
    have := hnow c (by simp)
    omega
  | cons next rest =>
    rw [hrest, List.isChain_append] at hgaps
    have hgap := (hgaps.2.2 t hlast next rfl).2
    obtain ⟨d, hd, -, rfl⟩ := mem_times (hrest ▸ List.mem_cons_self : next ∈ times _ (c :: after))
    have hle : c.nowMs ≤ d.nowMs := by
      rcases List.mem_cons.mp hd with rfl | hd
      · exact Nat.le_refl _
      · exact (List.pairwise_cons.mp hafter).1 d hd
    omega

/-- The slot of the source through a window with room for it. -/
theorem held_run {front window : List CandidateCall} {nowMs : Nat}
    (h : Announced rank window nowMs) (hsorted : window.Pairwise fun d e => d.nowMs ≤ e.nowMs)
    (hnow : ∀ d ∈ window, d.nowMs ≤ nowMs) (hroom : Room rank front window)
    (before after : List CandidateCall) (hwindow : window = before ++ after) {first last : Nat}
    (hfirst : (times rank.source before).head? = some first)
    (hlast : (times rank.source before).getLast? = some last) :
    Held rank first last (moments rank.source before) (exec step {} (front ++ before)) := by
  induction before using List.reverseRecOn generalizing after first last with
  | nil => simp [times] at hfirst
  | append_singleton before c ih =>
    rw [List.append_assoc, List.singleton_append] at hwindow
    have hrivals := hroom before c after hwindow
    have htracks := tracks_exec (front ++ before)
    have hcovered {t : Nat} (ht : (times rank.source before).getLast? = some t) :=
      covered (hwindow ▸ h) (hwindow ▸ hsorted) (hwindow ▸ hnow) ht
    rw [← List.append_assoc, exec_concat]
    by_cases hsource : c.incoming.source = rank.source
    swap
    · rw [times_concat_of_ne before hsource] at hfirst hlast
      have hheld := ih (c :: after) hwindow hfirst hlast
      have hmoments : moments rank.source (before ++ [c]) = moments rank.source before := by
        unfold moments
        rw [times_concat_of_ne before hsource]
      rw [hmoments]
      exact held_skip htracks hheld hsource (hcovered hlast).1 (hcovered hlast).2 hrivals
    · obtain ⟨_, _, hstreak, -⟩ := h
      subst hwindow
      obtain ⟨rfl, hgood⟩ := hstreak.steady c (by simp) hsource
      rw [times_concat_self, List.getLast?_concat] at hlast
      cases hlast
      cases hbefore : (times c.incoming.source before).getLast? with
      | none =>
        have hnil := List.getLast?_eq_none_iff.mp hbefore
        rw [times_concat_self, hnil] at hfirst
        cases hfirst
        have hone : moments c.incoming.source (before ++ [c]) = 1 := by
          simp [moments, times_concat_self, hnil]
        rw [hone]
        exact held_start htracks hgood hrivals
      | some t =>
        obtain ⟨hle, hgap⟩ := hcovered hbefore
        rw [times_concat_self, List.head?_append] at hfirst
        obtain ⟨first', hfirst'⟩ : ∃ x, (times c.incoming.source before).head? = some x := by
          rw [← Option.isSome_iff_exists, List.isSome_head?]
          rintro hnil
          simp [hnil] at hbefore
        rw [hfirst', Option.some_or] at hfirst
        cases hfirst
        rw [(hstreak.front hfirst' hbefore).moments_concat hle]
        exact held_continue htracks (ih (c :: after) rfl hfirst' hbefore) hgood hle hgap

/-- The source is stable after such a window. -/
theorem stable_of_announced {front window : List CandidateCall} {nowMs : Nat}
    (h : Announced rank window nowMs) (hsorted : window.Pairwise fun d e => d.nowMs ≤ e.nowMs)
    (hnow : ∀ d ∈ window, d.nowMs ≤ nowMs) (hroom : Room rank front window) :
    (exec step {} (front ++ window)).stable nowMs = true := by
  obtain ⟨first, last, hstreak, hlong, ⟨hlast, hrecent⟩, hoften⟩ := h
  obtain ⟨i, hoccupied, hrank, hfirst, rfl, hcount⟩ :=
    held_run ⟨first, last, hstreak, hlong, ⟨hlast, hrecent⟩, hoften⟩ hsorted hnow hroom window []
      (List.append_nil _).symm hstreak.first hstreak.last
  rw [Nat.min_eq_left hoften] at hcount
  refine List.any_eq_true.mpr ⟨_, mem_slots_iff.mpr ⟨i, rfl⟩, ?_⟩
  simp only [hoccupied, Bool.true_and, Bool.and_eq_true, decide_eq_true_eq, ge_iff_le]
  omega

/-! ## Every sequence of announces -/

/-- **External grandmaster candidates.** After announces with times that do not decrease, the gate
is stable only because of a source that has announced, with one acceptable rank, at three or more
moments, long enough and until now; and a source that has done so makes the gate stable, if
throughout fewer than four other sources with a rank at least as good were seen. -/
theorem external_candidates (calls : List CandidateCall) (nowMs : Nat)
    (hsorted : calls.Pairwise fun d e => d.nowMs ≤ e.nowMs) :
    ((exec step {} calls).stable nowMs = true →
        ∃ rank front window, calls = front ++ window ∧ Announced rank window nowMs) ∧
      ((∀ d ∈ calls, d.nowMs ≤ nowMs) → ∀ rank front window, calls = front ++ window →
        Announced rank window nowMs → Room rank front window →
          (exec step {} calls).stable nowMs = true) := by
  refine ⟨announced_of_stable (tracks_exec calls), ?_⟩
  rintro hnow rank front window rfl hannounced hroom
  refine stable_of_announced hannounced (List.pairwise_append.mp hsorted).2.1 ?_ hroom
  exact fun d hd => hnow d (List.mem_append_right _ hd)

/-- Three announces of one clock, two seconds apart. -/
def threeAnnounces : List CandidateCall :=
  [0, 2000, 4000].map fun nowMs =>
    { incoming := { priority1 := 1, stepsRemoved := 0, gmIdentity := Vector.replicate 8 1 }
      localRank := {}
      nowMs }

theorem external_candidates_threeAnnounces :
    (exec step {} threeAnnounces).stable 5000 = true ∧
      ((exec step {} threeAnnounces).stable 5000 = true →
        ∃ rank front window, threeAnnounces = front ++ window ∧ Announced rank window 5000) ∧
      ((∀ d ∈ threeAnnounces, d.nowMs ≤ 5000) → ∀ rank front window,
        threeAnnounces = front ++ window → Announced rank window 5000 → Room rank front window →
          (exec step {} threeAnnounces).stable 5000 = true) :=
  ⟨by decide, external_candidates threeAnnounces 5000 (by decide)⟩

end PtpExternalCandidateGate

end ArStack.TimeSync
