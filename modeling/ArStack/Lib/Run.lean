import Mathlib.Data.List.Basic

/-!
# Runs of a machine

A machine is a function `step : σ → ε → σ`; whatever the environment chooses is part of
the event. A run is the list of its events, oldest first.

* `exec` — the state after a run
* `stateAt` — the state before the `i`-th event of a run
* `exec_invariant` — what one step preserves, a run preserves
* `exists_step_of_change` — a property that is lost is lost in one particular step
* `exists_step_at` — a counter that grows by single steps meets every value
-/

namespace ArStack.Lib

variable {σ ε : Type*} {step : σ → ε → σ}

/-- The state after the events `es`, oldest first. -/
def exec (step : σ → ε → σ) (s : σ) (es : List ε) : σ := es.foldl step s

@[simp] theorem exec_nil (s : σ) : exec step s [] = s := rfl

@[simp] theorem exec_cons (s : σ) (e : ε) (es : List ε) :
    exec step s (e :: es) = exec step (step s e) es := rfl

theorem exec_append (s : σ) (es fs : List ε) :
    exec step s (es ++ fs) = exec step (exec step s es) fs := List.foldl_append

@[simp] theorem exec_concat (s : σ) (es : List ε) (e : ε) :
    exec step s (es ++ [e]) = step (exec step s es) e := by
  rw [exec_append]
  rfl

/-- Every event of the run satisfies `Ok` in the state it meets. -/
def Along (step : σ → ε → σ) (Ok : σ → ε → Prop) (s : σ) : List ε → Prop
  | [] => True
  | e :: es => Ok s e ∧ Along step Ok (step s e) es

instance decidableAlong {Ok : σ → ε → Prop} [∀ s e, Decidable (Ok s e)] (s : σ) :
    (es : List ε) → Decidable (Along step Ok s es)
  | [] => .isTrue trivial
  | e :: es =>
    have : Decidable (Along step Ok (step s e) es) := decidableAlong (step s e) es
    inferInstanceAs (Decidable (_ ∧ _))

theorem along_append {Ok : σ → ε → Prop} {s : σ} {es fs : List ε} :
    Along step Ok s (es ++ fs) ↔ Along step Ok s es ∧ Along step Ok (exec step s es) fs := by
  induction es generalizing s with
  | nil => simp [Along]
  | cons e es ih => simp only [List.cons_append, Along, ih, exec_cons, and_assoc]

/-- **The invariant rule.** -/
theorem exec_invariant (Inv : σ → Prop) (hstep : ∀ s e, Inv s → Inv (step s e)) {s : σ}
    (h : Inv s) (es : List ε) : Inv (exec step s es) := by
  induction es generalizing s with
  | nil => exact h
  | cons e es ih => exact ih (hstep s e h)

/-- The invariant rule when the events of the run satisfy `Ok`. -/
theorem exec_invariant_of (Inv : σ → Prop) {Ok : ε → Prop}
    (hstep : ∀ s e, Ok e → Inv s → Inv (step s e)) {s : σ} (h : Inv s) {es : List ε}
    (hes : ∀ e ∈ es, Ok e) : Inv (exec step s es) := by
  induction es generalizing s with
  | nil => exact h
  | cons e es ih =>
    exact ih (hstep s e (hes e List.mem_cons_self) h) fun f hf => hes f (List.mem_cons_of_mem e hf)

/-- The invariant rule when what an event may be depends on the state it meets. -/
theorem exec_invariant_where (Inv : σ → Prop) {Ok : σ → ε → Prop}
    (hstep : ∀ s e, Ok s e → Inv s → Inv (step s e)) {s : σ} (h : Inv s) {es : List ε}
    (hes : Along step Ok s es) : Inv (exec step s es) := by
  induction es generalizing s with
  | nil => exact h
  | cons e es ih => exact ih (hstep s e hes.1 h) hes.2

/-- The state before the `i`-th event. -/
def stateAt (step : σ → ε → σ) (s : σ) (es : List ε) (i : Nat) : σ := exec step s (es.take i)

theorem stateAt_succ (s : σ) {es : List ε} {i : Nat} (h : i < es.length) :
    stateAt step s es (i + 1) = step (stateAt step s es i) es[i] := by
  rw [stateAt, List.take_add_one, List.getElem?_eq_getElem h]
  exact exec_concat s _ _

theorem stateAt_invariant (Inv : σ → Prop) (hstep : ∀ s e, Inv s → Inv (step s e)) {s : σ}
    (h : Inv s) (es : List ε) (i : Nat) : Inv (stateAt step s es i) :=
  exec_invariant Inv hstep h _

/-- When `Ok` says exactly which steps keep `Good`, a run stays good as long as its events are. -/
theorem stateAt_iff_along (Inv Good : σ → Prop) {Ok : σ → ε → Prop}
    (hstep : ∀ s e, Inv s → Good s → Inv (step s e) ∧ (Good (step s e) ↔ Ok s e)) {s : σ}
    (hinv : Inv s) (hgood : Good s) (es : List ε) :
    (∀ i ≤ es.length, Good (stateAt step s es i)) ↔ Along step Ok s es := by
  induction es generalizing s with
  | nil =>
    refine ⟨fun _ => trivial, fun _ i hi => ?_⟩
    obtain rfl : i = 0 := by simpa using hi
    exact hgood
  | cons e es ih =>
    obtain ⟨hinv', hgood'⟩ := hstep s e hinv hgood
    constructor
    · intro h
      have hnext : Good (step s e) := h 1 (by simp)
      exact ⟨hgood'.mp hnext, (ih hinv' hnext).mp fun i hi => h (i + 1) (by simpa using hi)⟩
    · rintro ⟨hok, hrest⟩ i hi
      cases i with
      | zero => exact hgood
      | succ i => exact (ih hinv' (hgood'.mpr hok)).mpr hrest i (by simpa using hi)

/-- A property that holds before event `i` and not before event `j` is lost in some step
between them. -/
theorem exists_step_of_change {P : σ → Prop} {s : σ} {es : List ε} {i j : Nat} (hij : i ≤ j)
    (hj : j ≤ es.length) (hi : P (stateAt step s es i)) (hn : ¬P (stateAt step s es j)) :
    ∃ k, i ≤ k ∧ k < j ∧ P (stateAt step s es k) ∧ ¬P (stateAt step s es (k + 1)) := by
  induction j with
  | zero =>
    obtain rfl : i = 0 := by omega
    exact absurd hi hn
  | succ j ih =>
    by_cases hp : P (stateAt step s es j)
    · by_cases hle : i ≤ j
      · exact ⟨j, hle, by omega, hp, hn⟩
      · obtain rfl : i = j + 1 := by omega
        exact absurd hi hn
    · have hle : i ≤ j := by
        by_contra hlt
        obtain rfl : i = j + 1 := by omega
        exact hn hi
      obtain ⟨k, hik, hkj, hk⟩ := ih hle (by omega) hp
      exact ⟨k, hik, by omega, hk⟩

/-- A counter that each step raises by at most one meets every value on its way. -/
theorem exists_step_at {f : Nat → Nat} {i j : Nat} (hij : i ≤ j)
    (hstep : ∀ m, i ≤ m → m < j → f (m + 1) = f m ∨ f (m + 1) = f m + 1) :
    f i ≤ f j ∧ ∀ k, f i ≤ k → k < f j → ∃ m, i ≤ m ∧ m < j ∧ f m = k ∧ f (m + 1) = k + 1 := by
  induction j with
  | zero =>
    obtain rfl : i = 0 := by omega
    exact ⟨Nat.le_refl _, fun k hle hlt => absurd hlt (Nat.not_lt.mpr hle)⟩
  | succ j ih =>
    by_cases hlast : i = j + 1
    · subst hlast
      exact ⟨Nat.le_refl _, fun k hle hlt => absurd hlt (Nat.not_lt.mpr hle)⟩
    obtain ⟨hle, hmeet⟩ := ih (by omega) fun m hi hj => hstep m hi (Nat.lt_succ_of_lt hj)
    have hstep' := hstep j (by omega) (Nat.lt_succ_self j)
    refine ⟨by omega, fun k hk hlt => ?_⟩
    by_cases hbefore : k < f j
    · obtain ⟨m, hi, hj, hm⟩ := hmeet k hk hbefore
      exact ⟨m, hi, Nat.lt_succ_of_lt hj, hm⟩
    · exact ⟨j, by omega, Nat.lt_succ_self j, by omega, by omega⟩

end ArStack.Lib
