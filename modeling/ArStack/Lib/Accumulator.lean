import Mathlib.Data.Nat.ModEq
import Mathlib.Data.Int.GCD
import Mathlib.Tactic.Ring

/-!
# Error accumulators

A loop that distributes `amount` carries over `rate` steps adds `amount` to an accumulator at every
step, and takes `rate` off where it reaches it. The carries of `n` steps are then as many as whole
numbers of `rate` fit in `n * amount`. An accumulator of limited size must hold what it has just
before `rate` is taken off; how much that can be is a matter of the greatest common divisor.

* `carries_eq` — the carries of `n` steps, and what is left
* `exists_left_eq`, `left_le` — the most that can be left
-/

namespace ArStack.Lib.Accumulator

/-- A step: the carry, and what is left. -/
def step (rate amount left : Nat) : Nat × Nat :=
  if left + amount ≥ rate then (1, left + amount - rate) else (0, left + amount)

/-- The carries of `n` steps, and what is left. -/
def carries (rate amount : Nat) : Nat → Nat × Nat
  | 0 => (0, 0)
  | n + 1 =>
    let before := carries rate amount n
    let next := step rate amount before.2
    (before.1 + next.1, next.2)

variable {rate amount : Nat}

/-- **The carries of `n` steps** are the whole numbers of `rate` in `n * amount`. -/
theorem carries_eq (hrate : 0 < rate) (hamount : amount ≤ rate) (n : Nat) :
    carries rate amount n = (n * amount / rate, n * amount % rate) := by
  induction n with
  | zero => rw [carries, Nat.zero_mul, Nat.zero_div, Nat.zero_mod]
  | succ n ih =>
    have hlt := Nat.mod_lt (n * amount) hrate
    have hdiv := Nat.div_add_mod (n * amount) rate
    have hnext : (n + 1) * amount = rate * (n * amount / rate) + (n * amount % rate + amount) := by
      rw [Nat.succ_mul]
      omega
    rw [carries, ih, step, hnext, Nat.mul_add_div hrate, Nat.mul_add_mod]
    dsimp only
    split
    · rename_i hcarry
      obtain ⟨left, hleft⟩ := Nat.le.dest hcarry
      have hsmall : left < rate := by omega
      rw [← hleft, Nat.add_sub_cancel_left, Nat.add_div_left _ hrate, Nat.add_mod_left,
        Nat.div_eq_of_lt hsmall, Nat.mod_eq_of_lt hsmall]
    · rename_i hcarry
      have hsmall : n * amount % rate + amount < rate := by omega
      rw [Nat.div_eq_of_lt hsmall, Nat.mod_eq_of_lt hsmall]

/-- A step carries once, where the next whole number is reached. -/
theorem step_left (hrate : 0 < rate) (hamount : amount ≤ rate) (n : Nat) :
    step rate amount (n * amount % rate) =
      ((n + 1) * amount / rate - n * amount / rate, (n + 1) * amount % rate) := by
  have hnext := carries_eq hrate hamount (n + 1)
  rw [carries, carries_eq hrate hamount n, Prod.mk.injEq] at hnext
  obtain ⟨hcarry, hleft⟩ := hnext
  rw [Prod.ext_iff]
  dsimp only at hcarry hleft ⊢
  exact ⟨by omega, hleft⟩

/-- What is left is a multiple of the greatest common divisor. -/
theorem left_le (hrate : 0 < rate) (amount n : Nat) : n * amount % rate + Nat.gcd rate amount ≤ rate := by
  have hdvd : Nat.gcd rate amount ∣ n * amount % rate :=
    (Nat.dvd_mod_iff (Nat.gcd_dvd_left rate amount)).mpr
      ((Nat.gcd_dvd_right rate amount).mul_left n)
  have hlt := Nat.mod_lt (n * amount) hrate
  have hle : Nat.gcd rate amount ≤ rate - n * amount % rate :=
    Nat.le_of_dvd (Nat.sub_pos_of_lt hlt) (Nat.dvd_sub (Nat.gcd_dvd_left rate amount) hdvd)
  omega

/-- **As much as that is left at some step.** -/
theorem exists_left_eq (hrate : 0 < rate) (amount : Nat) :
    ∃ n, n * amount % rate = rate - Nat.gcd rate amount := by
  have hgcd : 0 < Nat.gcd rate amount := Nat.gcd_pos_of_pos_left amount hrate
  have hle : Nat.gcd rate amount ≤ rate := Nat.le_of_dvd hrate (Nat.gcd_dvd_left rate amount)
  by_cases hwhole : Nat.gcd rate amount = rate
  · exact ⟨0, by rw [hwhole, Nat.sub_self, Nat.zero_mul, Nat.zero_mod]⟩
  obtain ⟨m, -, hm⟩ := Nat.exists_mul_mod_eq_gcd (k := rate) (n := amount)
    (by rw [Nat.gcd_comm]; omega)
  rw [Nat.gcd_comm] at hm
  refine ⟨m * (rate - 1), ?_⟩
  obtain ⟨pred, rfl⟩ : ∃ pred, rate = pred + 1 := ⟨rate - 1, by omega⟩
  have hneg : (m * (pred + 1 - 1) * amount + Nat.gcd (pred + 1) amount) % (pred + 1) = 0 := by
    rw [Nat.add_sub_cancel, ← hm, Nat.add_mod, Nat.mod_mod, ← Nat.add_mod]
    have : m * pred * amount + amount * m = amount * m * (pred + 1) := by ring
    rw [this, Nat.mul_mod_left]
  have hlt := Nat.mod_lt (m * (pred + 1 - 1) * amount) hrate
  rw [Nat.add_mod, Nat.mod_eq_of_lt (show Nat.gcd (pred + 1) amount < pred + 1 by omega)] at hneg
  obtain ⟨q, hq⟩ := Nat.dvd_of_mod_eq_zero hneg
  have hq1 : q = 1 := by
    rcases q with _ | _ | q
    · rw [Nat.mul_zero] at hq
      omega
    · rfl
    · have : (pred + 1) * (q + 1 + 1) = (pred + 1) * q + 2 * (pred + 1) := by ring
      omega
  rw [hq1, Nat.mul_one] at hq
  omega

end ArStack.Lib.Accumulator
