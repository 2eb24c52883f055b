import Mathlib.Logic.Function.Basic
import ArStack.Lib.Run

/-!
# Programs over shared memory and their interleavings

A program is a tree of calls: each call names an indivisible action on the memory and goes on
with its response. A protocol is an automaton that a program can be checked against without
any memory, and a pool is a family of programs that take their calls in any order.

* `Program.run` — one program with the memory to itself
* `Follows` — the program respects a protocol; `Follows.bind` composes
* `Pool.step` — start a program, take one call of a program, or finish it
* `Pool.inv_step` — the invariant rule of interleavings, over the phases of all programs
-/

namespace ArStack.Lib

universe u v w

/-- A program that calls actions `i : ι`, answered by `ρ i`, and returns an `α`. -/
inductive Program (ι : Type u) (ρ : ι → Type v) (α : Type w) : Type (max u v w) where
  | pure (a : α)
  | call (i : ι) (next : ρ i → Program ι ρ α)

namespace Program

variable {ι : Type u} {ρ : ι → Type v} {α β γ : Type w} {σ : Type*}

def bind : Program ι ρ α → (α → Program ι ρ β) → Program ι ρ β
  | pure a, f => f a
  | call i next, f => call i fun r => (next r).bind f

instance : Monad (Program ι ρ) where
  pure := pure
  bind := bind

/-- The program that makes one call. -/
def perform {ρ : ι → Type v} (i : ι) : Program ι ρ (ρ i) := call i pure

/-- Run a program alone: `handler` answers the calls. -/
def run (handler : (i : ι) → σ → ρ i × σ) : Program ι ρ α → σ → α × σ
  | pure a, s => (a, s)
  | call i next, s => (next (handler i s).1).run handler (handler i s).2

theorem run_bind (handler : (i : ι) → σ → ρ i × σ) (p : Program ι ρ α) (f : α → Program ι ρ β)
    (s : σ) :
    (p >>= f).run handler s = (f (p.run handler s).1).run handler (p.run handler s).2 := by
  induction p generalizing s with
  | pure a => rfl
  | call i next ih => exact ih _ _

end Program

/-! ## Protocols -/

/-- An automaton over calls and their responses. -/
structure Protocol (Φ : Type*) (ι : Type u) (ρ : ι → Type v) where
  Allowed : Φ → ι → Prop
  advance : Φ → (i : ι) → ρ i → Φ

section Protocol

variable {Φ : Type*} {ι : Type u} {ρ : ι → Type v} {α β : Type w}

/-- From the phase on, the program makes only allowed calls, whatever they are answered, and
what it returns satisfies `post` in the phase it ends in. -/
def Follows (P : Protocol Φ ι ρ) (post : α → Φ → Prop) : Program ι ρ α → Φ → Prop
  | .pure a, φ => post a φ
  | .call i next, φ => P.Allowed φ i ∧ ∀ r, Follows P post (next r) (P.advance φ i r)

variable {P : Protocol Φ ι ρ}

theorem Follows.pure {post : α → Φ → Prop} {a : α} {φ : Φ} (h : post a φ) :
    Follows P post (Pure.pure a) φ := h

theorem Follows.perform {i : ι} {post : ρ i → Φ → Prop} {φ : Φ} (hallowed : P.Allowed φ i)
    (h : ∀ r, post r (P.advance φ i r)) : Follows P post (Program.perform i) φ :=
  ⟨hallowed, h⟩

theorem Follows.mono {post post' : α → Φ → Prop} {p : Program ι ρ α} {φ : Φ}
    (h : Follows P post p φ) (hpost : ∀ a φ', post a φ' → post' a φ') : Follows P post' p φ := by
  induction p generalizing φ with
  | pure a => exact hpost a φ h
  | call i next ih => exact ⟨h.1, fun r => ih r (h.2 r)⟩

/-- **Sequencing.** -/
theorem Follows.bind (mid : α → Φ → Prop) {post : β → Φ → Prop} {p : Program ι ρ α}
    {f : α → Program ι ρ β} {φ : Φ} (hp : Follows P mid p φ)
    (hf : ∀ a φ', mid a φ' → Follows P post (f a) φ') : Follows P post (p >>= f) φ := by
  induction p generalizing φ with
  | pure a => exact hf a φ hp
  | call i next ih => exact ⟨hp.1, fun r => ih r (hp.2 r)⟩

end Protocol

/-! ## Interleavings -/

/-- What the threads `κ` run on a memory `σ`: the programs of their requests, the actions, and
the effect of finishing. An input `ε` is what the environment contributes to an action. -/
structure Machine (κ π ε σ : Type*) (ι : Type u) (ρ : ι → Type v) (α : Type w) where
  program : κ → π → σ → Program ι ρ α
  action : κ → ε → (i : ι) → σ → ρ i × σ
  finish : κ → π → α → σ → σ

/-- The memory, and for each busy thread its request and the rest of its program. -/
structure Pool (κ π σ : Type*) (ι : Type u) (ρ : ι → Type v) (α : Type w) where
  memory : σ
  threads : κ → Option (π × Program ι ρ α)

/-- A thread starts on a request, or takes its next step. -/
inductive Move (κ π ε : Type*) where
  | start (k : κ) (request : π)
  | act (k : κ) (input : ε)

/-- The thread that moves. -/
def Move.thread {κ π ε : Type*} : Move κ π ε → κ
  | .start k _ => k
  | .act k _ => k

namespace Pool

variable {κ π ε σ Φ : Type*} {ι : Type u} {ρ : ι → Type v} {α : Type w}

/-- Nobody is in the middle of a program. -/
def Quiescent (pool : Pool κ π σ ι ρ α) : Prop := ∀ k, pool.threads k = none

/-- The request of a busy thread, and the call that it makes next. -/
def pending (pool : Pool κ π σ ι ρ α) (k : κ) : Option (π × ι) :=
  match pool.threads k with
  | some (request, .call i _) => some (request, i)
  | _ => none

theorem pending_eq_some {pool : Pool κ π σ ι ρ α} {k : κ} {request : π} {i : ι}
    (h : pool.pending k = some (request, i)) :
    ∃ next, pool.threads k = some (request, .call i next) := by
  rw [pending] at h
  split at h
  · rename_i request' i' next heq
    obtain ⟨rfl, rfl⟩ := Prod.mk.inj (Option.some.inj h)
    exact ⟨next, heq⟩
  · cases h

variable [DecidableEq κ]

/-- A step of the pool; starting a thread that is busy and stepping one that is idle do
nothing. -/
def step (M : Machine κ π ε σ ι ρ α) (pool : Pool κ π σ ι ρ α) : Move κ π ε → Pool κ π σ ι ρ α
  | .start k request =>
    match pool.threads k with
    | none =>
      { pool with
        threads := Function.update pool.threads k
          (some (request, M.program k request pool.memory)) }
    | some _ => pool
  | .act k input =>
    match pool.threads k with
    | none => pool
    | some (request, .pure a) =>
      { memory := M.finish k request a pool.memory
        threads := Function.update pool.threads k none }
    | some (request, .call i next) =>
      let (r, memory) := M.action k input i pool.memory
      { memory := memory
        threads := Function.update pool.threads k (some (request, next r)) }

/-- A move leaves the other threads where they are. -/
theorem threads_step_of_ne {M : Machine κ π ε σ ι ρ α} {pool : Pool κ π σ ι ρ α}
    {move : Move κ π ε} {k : κ} (h : k ≠ move.thread) :
    (pool.step M move).threads k = pool.threads k := by
  cases move with
  | start j request =>
    rw [step]
    split
    · exact Function.update_of_ne h _ _
    · rfl
  | act j input =>
    rw [step]
    split
    · rfl
    · exact Function.update_of_ne h _ _
    · exact Function.update_of_ne h _ _

/-- A run leaves the threads that take no part in it where they are. -/
theorem threads_exec_of_ne {M : Machine κ π ε σ ι ρ α} {pool : Pool κ π σ ι ρ α}
    {moves : List (Move κ π ε)} {k : κ} (h : ∀ move ∈ moves, k ≠ move.thread) :
    (exec (step M) pool moves).threads k = pool.threads k :=
  exec_invariant_of (fun pool' : Pool κ π σ ι ρ α => pool'.threads k = pool.threads k)
    (fun _ _ hne heq => (threads_step_of_ne hne).trans heq) rfl h

/-- Every busy thread follows the protocol of its request from its phase on, and the phases and
the memory satisfy `I`. -/
structure Inv (P : κ → π → Protocol Φ ι ρ) (post : κ → π → α → Φ → Prop)
    (I : (κ → Option (π × Φ)) → σ → Prop) (pool : Pool κ π σ ι ρ α)
    (phases : κ → Option (π × Φ)) : Prop where
  idle : ∀ k, pool.threads k = none → phases k = none
  busy : ∀ k request p, pool.threads k = some (request, p) →
    ∃ φ, phases k = some (request, φ) ∧ Follows (P k request) (post k request) p φ
  holds : I phases pool.memory

section Rule

variable {P : κ → π → Protocol Φ ι ρ} {post : κ → π → α → Φ → Prop}
  {I : (κ → Option (π × Φ)) → σ → Prop} {pool : Pool κ π σ ι ρ α}
  {phases : κ → Option (π × Φ)}

/-- A thread that takes a step leaves the others where they are. -/
theorem Inv.update (h : Inv P post I pool phases) {k : κ} {memory : σ}
    {thread : Option (π × Program ι ρ α)} {phase : Option (π × Φ)}
    (hidle : thread = none → phase = none)
    (hbusy : ∀ request p, thread = some (request, p) →
      ∃ φ, phase = some (request, φ) ∧ Follows (P k request) (post k request) p φ)
    (hholds : I (Function.update phases k phase) memory) :
    Inv P post I { memory := memory, threads := Function.update pool.threads k thread }
      (Function.update phases k phase) := by
  refine ⟨fun j hj => ?_, fun j request p hj => ?_, hholds⟩
  · dsimp only at hj
    by_cases hjk : j = k
    · subst hjk
      rw [Function.update_self] at hj ⊢
      exact hidle hj
    · rw [Function.update_of_ne hjk] at hj ⊢
      exact h.idle j hj
  · dsimp only at hj
    by_cases hjk : j = k
    · subst hjk
      rw [Function.update_self] at hj ⊢
      exact hbusy request p hj
    · rw [Function.update_of_ne hjk] at hj ⊢
      exact h.busy j request p hj

/-- **The invariant rule of interleavings.** Starting a program, every allowed call and finishing
keep `I`; the moves of the run may be restricted by `Ok`. -/
theorem inv_step {M : Machine κ π ε σ ι ρ α} (Ok : Pool κ π σ ι ρ α → Move κ π ε → Prop)
    (hstart : ∀ phases memory k request, I phases memory → phases k = none →
      ∃ φ, Follows (P k request) (post k request) (M.program k request memory) φ ∧
        I (Function.update phases k (some (request, φ))) memory)
    (hact : ∀ (pool : Pool κ π σ ι ρ α) phases k input request i φ, Inv P post I pool phases →
      Ok pool (.act k input) → pool.pending k = some (request, i) →
      phases k = some (request, φ) → (P k request).Allowed φ i →
      I (Function.update phases k
          (some (request, (P k request).advance φ i (M.action k input i pool.memory).1)))
        (M.action k input i pool.memory).2)
    (hfinish : ∀ phases memory k request a φ, I phases memory → phases k = some (request, φ) →
      post k request a φ → I (Function.update phases k none) (M.finish k request a memory))
    {move : Move κ π ε} (hok : Ok pool move) (h : ∃ phases, Inv P post I pool phases) :
    ∃ phases, Inv P post I (pool.step M move) phases := by
  obtain ⟨phases, h⟩ := h
  cases move with
  | start k request =>
    rw [step]
    split
    · rename_i hthread
      obtain ⟨φ, hfollows, hholds⟩ := hstart phases pool.memory k request h.holds (h.idle k hthread)
      refine ⟨_, h.update nofun (fun request' p hp => ?_) hholds⟩
      obtain ⟨rfl, rfl⟩ := Prod.mk.inj (Option.some.inj hp)
      exact ⟨φ, rfl, hfollows⟩
    · exact ⟨phases, h⟩
  | act k input =>
    rw [step]
    split
    · exact ⟨phases, h⟩
    · rename_i request a hthread
      obtain ⟨φ, hphase, hpost⟩ := h.busy k request _ hthread
      exact ⟨_, h.update (fun _ => rfl) nofun
        (hfinish phases pool.memory k request a φ h.holds hphase hpost)⟩
    · rename_i request i next hthread
      obtain ⟨φ, hphase, hallowed, hnext⟩ := h.busy k request _ hthread
      have hpending : pool.pending k = some (request, i) := by
        rw [pending, hthread]
      refine ⟨_, h.update nofun (fun request' p hp => ?_)
        (hact pool phases k input request i φ h hok hpending hphase hallowed)⟩
      obtain ⟨rfl, rfl⟩ := Prod.mk.inj (Option.some.inj hp)
      exact ⟨_, rfl, hnext _⟩

end Rule

end Pool

end ArStack.Lib
