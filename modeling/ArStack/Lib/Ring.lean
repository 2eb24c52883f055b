import Mathlib.Data.List.Rotate
import Mathlib.Data.Nat.ModEq

/-!
# Circular buffers

A ring of `n` cells is a list of length `n`; its contents are the `count` cells that start
at `head` and wrap around. Physical positions are `(head + k) % n`.

`window` gives the contents in logical order. The lemmas say what the two ways to append
do to it: `window_set_back` into a free cell, `window_set_front` over the oldest cell.
-/

namespace ArStack.Lib

variable {α : Type*}

/-- The `count` cells from `head` on, in logical order. -/
def window (cells : List α) (head count : Nat) : List α := (cells.rotate head).take count

theorem length_window {cells : List α} {head count : Nat} (h : count ≤ cells.length) :
    (window cells head count).length = count := by
  rw [window, List.length_take, List.length_rotate]
  omega

@[simp] theorem window_zero (cells : List α) (head : Nat) : window cells head 0 = [] :=
  List.take_zero

theorem window_head_zero (cells : List α) (count : Nat) :
    window cells 0 count = cells.take count := by
  rw [window, List.rotate_zero]

/-- The `k`-th element of the contents is in the cell `(head + k) % n`. -/
theorem getElem?_window {cells : List α} {head count k : Nat} (hk : k < count)
    (hc : count ≤ cells.length) :
    (window cells head count)[k]? = cells[(head + k) % cells.length]? := by
  rw [window, List.getElem?_take_of_lt hk, List.getElem?_rotate (by omega), Nat.add_comm]

/-- Two positions of the ring are the same cell only if they are equal. -/
theorem ring_index_inj {n head j k : Nat} (hj : j < n) (hk : k < n)
    (h : (head + j) % n = (head + k) % n) : j = k := by
  have hmod : Nat.ModEq n j k := Nat.ModEq.add_left_cancel' head h
  exact Nat.ModEq.eq_of_lt_of_lt hmod hj hk

/-- Writing a cell outside the contents leaves them alone. -/
theorem window_set_outside {cells : List α} {head count j : Nat} {x : α} (hj : count ≤ j)
    (hn : j < cells.length) :
    window (cells.set ((head + j) % cells.length) x) head count = window cells head count := by
  refine List.ext_getElem? fun k => ?_
  by_cases hk : k < count
  · rw [getElem?_window hk (by rw [List.length_set]; omega), getElem?_window hk (by omega),
      List.length_set, List.getElem?_set_ne]
    intro h
    have := ring_index_inj hn (by omega) h
    omega
  · rw [List.getElem?_eq_none, List.getElem?_eq_none]
    · rw [length_window (by omega)]; omega
    · rw [length_window (by rw [List.length_set]; omega)]; omega

/-- One more cell of the contents is one more element at their end. -/
theorem window_succ {cells : List α} {head count : Nat} {x : α} (hc : count < cells.length)
    (hx : cells[(head + count) % cells.length]? = some x) :
    window cells head (count + 1) = window cells head count ++ [x] := by
  have hget : (cells.rotate head)[count]? = some x := by
    rw [List.getElem?_rotate hc, Nat.add_comm, hx]
  rw [window, window, List.take_add_one, hget]
  rfl

/-- Appending into the first free cell. -/
theorem window_set_back {cells : List α} {head count : Nat} {x : α} (hc : count < cells.length) :
    window (cells.set ((head + count) % cells.length) x) head (count + 1)
      = window cells head count ++ [x] := by
  have hlt : (head + count) % cells.length < cells.length := Nat.mod_lt _ (by omega)
  have hx : (cells.set ((head + count) % cells.length) x)[(head + count)
      % (cells.set ((head + count) % cells.length) x).length]? = some x := by
    rw [List.length_set, List.getElem?_set_self hlt]
  rw [window_succ (by rw [List.length_set]; exact hc) hx, window_set_outside le_rfl hc]

/-- Dropping the oldest element moves the head by one cell. -/
theorem window_head_succ {cells : List α} {head count : Nat} (hc : count + 1 ≤ cells.length) :
    window cells ((head + 1) % cells.length) count = (window cells head (count + 1)).tail := by
  refine List.ext_getElem? fun k => ?_
  rw [List.getElem?_tail]
  by_cases hk : k < count
  · rw [getElem?_window hk (by omega), getElem?_window (by omega) hc, Nat.mod_add_mod,
      Nat.add_assoc, Nat.add_comm 1 k]
  · rw [List.getElem?_eq_none, List.getElem?_eq_none]
    · rw [length_window hc]; omega
    · rw [length_window (by omega)]; omega

/-- Appending over the oldest cell of a full ring. -/
theorem window_set_front {cells : List α} {head : Nat} {x : α} (hh : head < cells.length) :
    window (cells.set head x) ((head + 1) % cells.length) cells.length
      = (window cells head cells.length).tail ++ [x] := by
  obtain ⟨m, hm⟩ : ∃ m, cells.length = m + 1 := ⟨cells.length - 1, by omega⟩
  -- the oldest cell is the last one seen from the new head
  have hlast : ((head + 1) % cells.length + m) % cells.length = head := by
    rw [Nat.mod_add_mod, show head + 1 + m = head + cells.length by omega, Nat.add_mod_right,
      Nat.mod_eq_of_lt hh]
  have hset : window (cells.set (((head + 1) % cells.length + m) % cells.length) x)
      ((head + 1) % cells.length) (m + 1) = window cells ((head + 1) % cells.length) m ++ [x] :=
    window_set_back (by omega)
  rw [hlast] at hset
  have htail : window cells ((head + 1) % cells.length) m = (window cells head (m + 1)).tail :=
    window_head_succ (by omega)
  rw [show window (cells.set head x) ((head + 1) % cells.length) cells.length
      = window (cells.set head x) ((head + 1) % cells.length) (m + 1) by rw [← hm], hset, htail,
    ← hm]

end ArStack.Lib
