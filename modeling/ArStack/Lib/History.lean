import ArStack.Lib.Run

/-!
# Runs with outputs

A machine `step : σ → ε → ο × σ` answers every event. Its history is the list of the steps of a
run, oldest first, each with the state it met, its answer and the state it left.

* `history`, `outcome` — the steps of a run and the state it leads to
* `history_rule` — what holds of every step, given the steps before it
-/

namespace ArStack.Lib

variable {σ ε ο : Type*}

/-- A step of a run. -/
structure Step (σ ε ο : Type*) where
  event : ε
  before : σ
  output : ο
  after : σ
  deriving DecidableEq

/-- The step that an event causes. -/
def stepOn (step : σ → ε → ο × σ) (s : σ) (e : ε) : Step σ ε ο :=
  ⟨e, s, (step s e).1, (step s e).2⟩

/-- The steps that the events cause. -/
def history (step : σ → ε → ο × σ) : σ → List ε → List (Step σ ε ο)
  | _, [] => []
  | s, e :: es => stepOn step s e :: history step (step s e).2 es

variable {step : σ → ε → ο × σ}

/-- The state that the events lead to. -/
def outcome (step : σ → ε → ο × σ) (s : σ) (es : List ε) : σ := exec (fun s e => (step s e).2) s es

theorem history_append (s : σ) (es fs : List ε) :
    history step s (es ++ fs) = history step s es ++ history step (outcome step s es) fs := by
  induction es generalizing s with
  | nil => rfl
  | cons e es ih =>
    rw [List.cons_append, history, ih, history, List.cons_append]
    rfl

/-- A split of a longer run is a split of the run, or at its last step. -/
theorem split_concat {α : Type*} {past front back : List α} {s t : α}
    (h : past ++ [s] = front ++ t :: back) :
    (back = [] ∧ front = past ∧ t = s) ∨ ∃ back', back = back' ++ [s] ∧ past = front ++ t :: back' := by
  rcases List.eq_nil_or_concat back with rfl | ⟨back', last, rfl⟩
  · obtain ⟨rfl, hlast⟩ := List.append_inj' h rfl
    exact .inl ⟨rfl, rfl, (List.cons.inj hlast).1.symm⟩
  · rw [List.concat_eq_append, ← List.cons_append, ← List.append_assoc] at h
    obtain ⟨rfl, hlast⟩ := List.append_inj' h rfl
    obtain ⟨rfl, -⟩ := List.cons.inj hlast
    exact .inr ⟨back', List.concat_eq_append, rfl⟩

/-- The steps behind some others. -/
theorem history_rule_from {R : ε → ε → Prop} (Inv : List (Step σ ε ο) → σ → Prop)
    (Safe : List (Step σ ε ο) → Step σ ε ο → Prop)
    (hstep : ∀ past s e, Inv past s → (∀ t ∈ past, R t.event e) →
      Safe past (stepOn step s e) ∧ Inv (past ++ [stepOn step s e]) (step s e).2)
    {s : σ} {es : List ε} (hes : es.Pairwise R) {earlier : List (Step σ ε ο)} (h : Inv earlier s)
    (hearlier : ∀ t ∈ earlier, ∀ e ∈ es, R t.event e) {past future : List (Step σ ε ο)}
    {t : Step σ ε ο} (hsplit : history step s es = past ++ t :: future) :
    Safe (earlier ++ past) t := by
  induction es generalizing s earlier past with
  | nil => exact absurd hsplit.symm (List.append_ne_nil_of_right_ne_nil _ (List.cons_ne_nil _ _))
  | cons e es ih =>
    obtain ⟨he, hes⟩ := List.pairwise_cons.mp hes
    obtain ⟨hsafe, hinv⟩ := hstep earlier s e h fun t ht => hearlier t ht e List.mem_cons_self
    rw [history] at hsplit
    cases past with
    | nil =>
      obtain ⟨rfl, -⟩ := List.cons.inj hsplit
      rw [List.append_nil]
      exact hsafe
    | cons first past =>
      rw [List.cons_append] at hsplit
      obtain ⟨hfirst, htail⟩ := List.cons.inj hsplit
      have hrest := ih hes hinv (fun t ht e' he' => ?_) htail
      · rwa [List.append_assoc, List.singleton_append, hfirst] at hrest
      · rcases List.mem_append.mp ht with ht | ht
        · exact hearlier t ht e' (List.mem_cons_of_mem e he')
        · rw [List.mem_singleton.mp ht]
          exact he e' he'

/-- **The rule for histories**, of events of which any two are in the relation `R`: an invariant
of the steps so far and the state shows every further step safe. -/
theorem history_rule {R : ε → ε → Prop} (Inv : List (Step σ ε ο) → σ → Prop)
    (Safe : List (Step σ ε ο) → Step σ ε ο → Prop)
    (hstep : ∀ past s e, Inv past s → (∀ t ∈ past, R t.event e) →
      Safe past (stepOn step s e) ∧ Inv (past ++ [stepOn step s e]) (step s e).2)
    {s : σ} {es : List ε} (hes : es.Pairwise R) (h : Inv [] s) {past future : List (Step σ ε ο)}
    {t : Step σ ε ο} (hsplit : history step s es = past ++ t :: future) : Safe past t :=
  history_rule_from Inv Safe hstep hes h (fun _ ht => absurd ht List.not_mem_nil) hsplit

end ArStack.Lib
