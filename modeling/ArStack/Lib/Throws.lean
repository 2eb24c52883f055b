import Mathlib.Data.List.Forall2
import Mathlib.Data.List.Nodup

/-!
# Steps of code that throws

Code over a state that may throw is run as `EStateM`: a result with the new state, or an
exception with the state at the throw.

* `bind_ok` — a sequence that returns, in its two steps
* `mapM_roundtrip` — lists of steps there and back
* `Ensures` — pre- and postconditions, with a postcondition for the throw
* `Keeps` — what the code keeps in any case
* `Coupled` — two runs that take related states to related results
* `perm_filterMap_set`, `filter_eq_singleton` — slots that are filled one by one
-/

namespace ArStack.Lib

variable {ε σ α β : Type}

/-- **Sequencing, inverted.** -/
theorem bind_ok {x : EStateM ε σ α} {f : α → EStateM ε σ β} {s s'' : σ} {b : β}
    (h : (x >>= f) s = .ok b s'') : ∃ a s', x s = .ok a s' ∧ f a s' = .ok b s'' := by
  change EStateM.bind x f s = _ at h
  rw [EStateM.bind] at h
  split at h
  · rename_i a s' heq
    exact ⟨a, s', heq, h⟩
  · cases h

theorem bind_of_ok {x : EStateM ε σ α} {f : α → EStateM ε σ β} {s s' : σ} {a : α}
    (h : x s = .ok a s') : (x >>= f) s = f a s' := by
  change EStateM.bind x f s = _
  rw [EStateM.bind, h]

theorem bind_of_error {x : EStateM ε σ α} {f : α → EStateM ε σ β} {s s' : σ} {e : ε}
    (h : x s = .error e s') : (x >>= f) s = .error e s' := by
  change EStateM.bind x f s = _
  rw [EStateM.bind, h]

theorem get_bind {f : σ → EStateM ε σ β} {s : σ} : (get >>= f) s = f s s := rfl

theorem get_bind_ok {f : σ → EStateM ε σ β} {s s' : σ} {b : β}
    (h : (get >>= f) s = .ok b s') : f s s = .ok b s' := h

theorem set_bind_ok {f : PUnit → EStateM ε σ β} {s s' s'' : σ} {b : β}
    (h : (set s' >>= f) s = .ok b s'') : f ⟨⟩ s' = .ok b s'' := h

theorem pure_ok {a b : α} {s s' : σ} (h : (pure a : EStateM ε σ α) s = .ok b s') :
    a = b ∧ s = s' := by
  cases h
  exact ⟨rfl, rfl⟩

/-- What a result returns, which can be compared. -/
def returned : EStateM.Result ε σ α → Option (α × σ)
  | .ok a s => some (a, s)
  | .error _ _ => none

theorem ok_of_returned {r : EStateM.Result ε σ α} {a : α} {s : σ}
    (h : returned r = some (a, s)) : r = .ok a s := by
  cases r with
  | ok b s' =>
    cases h
    rfl
  | error e s' => cases h

theorem except_bind_ok {x : Except ε α} {f : α → Except ε β} {b : β}
    (h : (x >>= f) = .ok b) : ∃ a, x = .ok a ∧ f a = .ok b := by
  cases x with
  | error e => cases h
  | ok a => exact ⟨a, rfl, h⟩

theorem except_ok_bind {a : α} {f : α → Except ε β} : (Except.ok a >>= f) = f a := rfl

/-- What a guard lets pass. -/
theorem except_ite_eq_ok {c : Prop} [Decidable c] {e : ε} {x : Except ε α} {a : α} :
    (if c then .error e else x) = .ok a ↔ ¬c ∧ x = .ok a := by
  split
  · rename_i hc
    constructor
    · intro h
      cases h
    · intro h
      exact absurd hc h.1
  · rename_i hc
    exact ⟨fun h => ⟨hc, h⟩, And.right⟩

theorem except_ite_ne {c : Prop} [Decidable c] {e e' : ε} {x : Except ε α} (he : e ≠ e')
    (hx : x ≠ .error e') : (if c then .error e else x) ≠ .error e' := by
  split
  · exact fun h => he (Except.error.inj h)
  · exact hx

/-! ## Lists of steps -/

/-- A list of steps that all return, in its first step and the rest. -/
theorem mapM_cons_ok {f : α → Except ε β} {x : α} {xs : List α} {ys : List β}
    (h : (x :: xs).mapM f = .ok ys) :
    ∃ y rest, f x = .ok y ∧ xs.mapM f = .ok rest ∧ ys = y :: rest := by
  rw [List.mapM_cons] at h
  obtain ⟨y, hy, h⟩ := except_bind_ok h
  obtain ⟨rest, hrest, h⟩ := except_bind_ok h
  cases h
  exact ⟨y, rest, hy, hrest, rfl⟩

theorem length_of_mapM_ok {f : α → Except ε β} {xs : List α} {ys : List β}
    (h : xs.mapM f = .ok ys) : ys.length = xs.length := by
  induction xs generalizing ys with
  | nil =>
    cases h
    rfl
  | cons x xs ih =>
    obtain ⟨y, rest, -, hrest, rfl⟩ := mapM_cons_ok h
    rw [List.length_cons, List.length_cons, ih hrest]

/-- Steps that all return. -/
theorem mapM_eq_ok {f : α → Except ε β} {g : α → β} (h : ∀ x, f x = .ok (g x)) (xs : List α) :
    xs.mapM f = .ok (xs.map g) := by
  induction xs with
  | nil => rfl
  | cons x xs ih =>
    rw [List.mapM_cons, h, ih]
    rfl

/-- **What is taken there and back item by item comes back as a list.** -/
theorem mapM_roundtrip {γ : Type} {f : α → Except ε β} {r : β → γ → Prop} {g : γ → Except ε α}
    {xs : List α} {ys : List β} (hf : xs.mapM f = .ok ys)
    (h : ∀ x ∈ xs, ∀ y ∈ ys, f x = .ok y → ∃ z, r y z ∧ g z = .ok x) :
    ∃ zs, List.Forall₂ r ys zs ∧ zs.mapM g = .ok xs := by
  induction xs generalizing ys with
  | nil =>
    cases hf
    exact ⟨[], .nil, rfl⟩
  | cons x xs ih =>
    obtain ⟨y, rest, hy, hrest, rfl⟩ := mapM_cons_ok hf
    obtain ⟨z, hz, hback⟩ := h x List.mem_cons_self y List.mem_cons_self hy
    obtain ⟨zs, hzs, hbacks⟩ := ih hrest fun x' hx' y' hy' =>
      h x' (List.mem_cons_of_mem x hx') y' (List.mem_cons_of_mem y hy')
    refine ⟨z :: zs, .cons hz hzs, ?_⟩
    rw [List.mapM_cons, hback, hbacks]
    rfl

/-! ## Pre- and postconditions -/

/-- From a state with `P` the code returns with `Q` or throws with `E`. -/
def Ensures (P : σ → Prop) (x : EStateM ε σ α) (Q : α → σ → Prop) (E : σ → Prop) : Prop :=
  ∀ s, P s →
    match x s with
    | .ok a s' => Q a s'
    | .error _ s' => E s'

namespace Ensures

variable {P P' : σ → Prop} {Q Q' : α → σ → Prop} {E E' : σ → Prop} {x : EStateM ε σ α}

/-- **Sequencing.** -/
theorem bind (R : α → σ → Prop) {f : α → EStateM ε σ β} {Q : β → σ → Prop}
    (hx : Ensures P x R E) (hf : ∀ a, Ensures (R a) (f a) Q E) : Ensures P (x >>= f) Q E := by
  intro s hs
  have h := hx s hs
  change match EStateM.bind x f s with
    | .ok b s' => Q b s'
    | .error _ s' => E s'
  rw [EStateM.bind]
  cases hxs : x s with
  | ok a s' =>
    rw [hxs] at h
    exact hf a s' h
  | error e s' =>
    rw [hxs] at h
    exact h

theorem pure {a : α} (h : ∀ s, P s → Q a s) : Ensures P (Pure.pure a : EStateM ε σ α) Q E :=
  fun s hs => h s hs

theorem throw {e : ε} (h : ∀ s, P s → E s) :
    Ensures P (MonadExcept.throw e : EStateM ε σ α) Q E :=
  fun s hs => h s hs

/-- The state that was read is the state. -/
theorem get {f : σ → EStateM ε σ β} {Q : β → σ → Prop}
    (h : ∀ s₀, Ensures (fun s => P s ∧ s = s₀) (f s₀) Q E) : Ensures P (MonadState.get >>= f) Q E :=
  fun s hs => h s s ⟨hs, rfl⟩

theorem mono (h : Ensures P x Q E) (hP : ∀ s, P' s → P s) (hQ : ∀ a s, Q a s → Q' a s)
    (hE : ∀ s, E s → E' s) : Ensures P' x Q' E' := by
  intro s hs
  have h := h s (hP s hs)
  cases hxs : x s with
  | ok a s' =>
    rw [hxs] at h
    exact hQ a s' h
  | error e s' =>
    rw [hxs] at h
    exact hE s' h

end Ensures

/-- The code keeps `P`, whether it returns or throws. -/
abbrev Keeps (P : σ → Prop) (x : EStateM ε σ α) : Prop := Ensures P x (fun _ => P) P

namespace Keeps

variable {P : σ → Prop} {x : EStateM ε σ α}

theorem bind {f : α → EStateM ε σ β} (hx : Keeps P x) (hf : ∀ a, Keeps P (f a)) :
    Keeps P (x >>= f) := Ensures.bind _ hx hf

theorem pure (a : α) : Keeps P (Pure.pure a : EStateM ε σ α) := Ensures.pure fun _ h => h

theorem throw (e : ε) : Keeps P (MonadExcept.throw e : EStateM ε σ α) := Ensures.throw fun _ h => h

theorem get {f : σ → EStateM ε σ β} (h : ∀ s, Keeps P (f s)) :
    Keeps P (MonadState.get >>= f) := fun s hs => h s s hs

end Keeps

/-! ## Two runs -/

section Coupled

variable {γ δ : Type} {S : σ → σ → Prop} {E : ε → ε → Prop}

/-- Both runs return related values or both throw related exceptions, in related states. -/
inductive Together (S : σ → σ → Prop) (E : ε → ε → Prop) (V : α → β → Prop) :
    EStateM.Result ε σ α → EStateM.Result ε σ β → Prop where
  | ok {a : α} {b : β} {s t : σ} : V a b → S s t → Together S E V (.ok a s) (.ok b t)
  | error {e f : ε} {s t : σ} : E e f → S s t → Together S E V (.error e s) (.error f t)

theorem Together.mono {V W : α → β → Prop} {x : EStateM.Result ε σ α} {y : EStateM.Result ε σ β}
    (h : Together S E V x y) (hVW : ∀ a b, V a b → W a b) : Together S E W x y := by
  cases h with
  | ok hab hst => exact .ok (hVW _ _ hab) hst
  | error hef hst => exact .error hef hst

/-- From related states the runs end together. -/
def Coupled (S : σ → σ → Prop) (E : ε → ε → Prop) (V : α → β → Prop) (x : EStateM ε σ α)
    (y : EStateM ε σ β) : Prop :=
  ∀ s t, S s t → Together S E V (x s) (y t)

/-- **Sequencing.** -/
theorem Coupled.bind (R : α → β → Prop) {V : γ → δ → Prop} {x : EStateM ε σ α}
    {y : EStateM ε σ β} {f : α → EStateM ε σ γ} {g : β → EStateM ε σ δ} (hxy : Coupled S E R x y)
    (hfg : ∀ a b, R a b → Coupled S E V (f a) (g b)) : Coupled S E V (x >>= f) (y >>= g) := by
  intro s t hst
  have h := hxy s t hst
  change Together S E V (EStateM.bind x f s) (EStateM.bind y g t)
  rw [EStateM.bind, EStateM.bind]
  cases hx : x s with
  | ok a s' =>
    rw [hx] at h
    cases hy : y t with
    | ok b t' =>
      rw [hy] at h
      cases h with
      | ok hab hst' => exact hfg a b hab s' t' hst'
    | error f' t' =>
      rw [hy] at h
      cases h
  | error e s' =>
    rw [hx] at h
    cases hy : y t with
    | ok b t' =>
      rw [hy] at h
      cases h
    | error f' t' =>
      rw [hy] at h
      cases h with
      | error hef hst' => exact .error hef hst'

theorem Coupled.pure {V : α → β → Prop} {a : α} {b : β} (h : V a b) :
    Coupled S E V (Pure.pure a : EStateM ε σ α) (Pure.pure b) :=
  fun _ _ hst => .ok h hst

theorem Coupled.throw {V : α → β → Prop} {e f : ε} (h : E e f) :
    Coupled S E V (MonadExcept.throw e : EStateM ε σ α) (MonadExcept.throw f : EStateM ε σ β) :=
  fun _ _ hst => .error h hst

theorem Coupled.get : Coupled S E S (MonadState.get : EStateM ε σ σ) MonadState.get :=
  fun _ _ hst => .ok hst hst

end Coupled

/-! ## Slots -/

/-- Filling an empty slot adds one element to what is filled. -/
theorem perm_filterMap_set {l : List (Option α)} {i : Nat} {a : α} (h : l[i]? = some none) :
    ((l.set i (some a)).filterMap id).Perm (a :: l.filterMap id) := by
  induction l generalizing i with
  | nil => simp at h
  | cons o l ih =>
    cases i with
    | zero =>
      obtain rfl : o = none := by simpa using h
      simp
    | succ i =>
      have ih := ih (i := i) (by simpa using h)
      rw [List.set_cons_succ]
      cases o with
      | none => simpa using ih
      | some b =>
        simp only [List.filterMap_cons, id_eq]
        exact (ih.cons b).trans (List.Perm.swap a b _)

theorem countP_isNone_set {l : List (Option α)} {i : Nat} {a : α} (h : l[i]? = some none) :
    (l.set i (some a)).countP Option.isNone + 1 = l.countP Option.isNone := by
  induction l generalizing i with
  | nil => simp at h
  | cons o l ih =>
    cases i with
    | zero =>
      obtain rfl : o = none := by simpa using h
      simp
    | succ i =>
      have ih := ih (i := i) (by simpa using h)
      rw [List.set_cons_succ, List.countP_cons, List.countP_cons]
      omega

/-- When no slot is empty, the elements are in their slots. -/
theorem getElem?_filterMap_of_full {l : List (Option α)} (h : l.countP Option.isNone = 0)
    (i : Nat) : (l.filterMap id)[i]? = l[i]?.join := by
  induction l generalizing i with
  | nil => simp
  | cons o l ih =>
    rw [List.countP_cons] at h
    cases o with
    | none => simp at h
    | some a =>
      cases i with
      | zero => simp
      | succ i =>
        have ih := ih (by simpa using h) i
        simpa using ih

/-- Among elements with different keys, a key belongs to one. -/
theorem filter_eq_singleton {κ : Type} [BEq κ] [LawfulBEq κ] {key : α → κ} {l : List α}
    (hnodup : (l.map key).Nodup) {i : Nat} {a : α} (h : l[i]? = some a) :
    l.filter (fun b => key b == key a) = [a] := by
  induction l generalizing i with
  | nil => simp at h
  | cons b l ih =>
    rw [List.map_cons, List.nodup_cons] at hnodup
    cases i with
    | zero =>
      obtain rfl : b = a := by simpa using h
      rw [List.filter_cons_of_pos (by simp), List.filter_eq_nil_iff.mpr]
      intro c hc heq
      exact hnodup.1 (List.mem_map.mpr ⟨c, hc, by simpa using heq⟩)
    | succ i =>
      have hmem : a ∈ l := List.mem_of_getElem? (by simpa using h)
      have hne : key b ≠ key a := fun heq => hnodup.1 (heq ▸ List.mem_map_of_mem hmem)
      rw [List.filter_cons_of_neg (by simpa using hne)]
      exact ih hnodup.2 (by simpa using h)

end ArStack.Lib
