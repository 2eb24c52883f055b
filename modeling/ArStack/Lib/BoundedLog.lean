import Mathlib.Data.List.Chain

/-!
# Bounded logs with a reader

A log keeps the newest `capacity` entries; a reader has read the first `cursor` of them and
can be moved to any position. Appending to a full log evicts the oldest entry.

* `append_entries` — an append adds one entry and evicts at most one
* `unread_append` — an unread entry is evicted only when the log is full and none was read
* `Numbered` — entries that are numbered by a successor relation
-/

namespace ArStack.Lib

universe u

@[ext]
structure BoundedLog (α : Type u) where
  capacity : Nat
  entries : List α
  cursor : Nat
  cursor_le : cursor ≤ entries.length
  length_le : entries.length ≤ capacity

namespace BoundedLog

variable {α : Type u} (l : BoundedLog α)

/-- The number of entries the next append evicts. -/
def evicted : Nat := l.entries.length + 1 - l.capacity

theorem evicted_of_lt (h : l.entries.length < l.capacity) : l.evicted = 0 := by
  rw [evicted]
  omega

theorem evicted_of_full (h : l.entries.length = l.capacity) : l.evicted = 1 := by
  rw [evicted]
  omega

theorem evicted_le_one : l.evicted ≤ 1 := by
  have := l.length_le
  rw [evicted]
  omega

/-- Add the newest entry. The reader stays at its entry. -/
def append (x : α) : BoundedLog α where
  capacity := l.capacity
  entries := (l.entries ++ [x]).drop l.evicted
  cursor := l.cursor - l.evicted
  cursor_le := by
    have := l.cursor_le
    simp only [List.length_drop, List.length_append, List.length_singleton]
    omega
  length_le := by
    have := l.length_le
    simp only [evicted, List.length_drop, List.length_append, List.length_singleton]
    omega

/-- Move the reader. -/
def seek (position : Nat) : BoundedLog α where
  capacity := l.capacity
  entries := l.entries
  cursor := min position l.entries.length
  cursor_le := Nat.min_le_right _ _
  length_le := l.length_le

/-- Drop every entry. -/
def clear : BoundedLog α where
  capacity := l.capacity
  entries := []
  cursor := 0
  cursor_le := Nat.le_refl 0
  length_le := Nat.zero_le _

/-- The entries at or after the reader. -/
def unread : List α := l.entries.drop l.cursor

/-- The next append evicts an unread entry. -/
def Loses : Prop := l.entries.length = l.capacity ∧ l.cursor = 0

theorem append_entries (x : α) (h : 0 < l.capacity) :
    (l.append x).entries = l.entries.drop l.evicted ++ [x] := by
  have := l.length_le
  refine List.drop_append_of_le_length ?_
  rw [evicted]
  omega

/-- **An append that does not lose keeps every unread entry.** -/
theorem unread_append (x : α) (h : 0 < l.capacity) :
    (¬l.Loses ∧ (l.append x).unread = l.unread ++ [x]) ∨
      (l.Loses ∧ (l.append x).unread = l.unread.tail ++ [x]) := by
  have hle := l.length_le
  have hcur := l.cursor_le
  show (_ ∧ (l.append x).entries.drop (l.cursor - l.evicted) = _) ∨
    (_ ∧ (l.append x).entries.drop (l.cursor - l.evicted) = _)
  rw [l.append_entries x h]
  by_cases hfull : l.entries.length = l.capacity
  · rw [l.evicted_of_full hfull]
    by_cases hzero : l.cursor = 0
    · refine .inr ⟨⟨hfull, hzero⟩, ?_⟩
      rw [unread, hzero, List.drop_zero, ← List.drop_one]
      rfl
    · refine .inl ⟨fun hl => hzero hl.2, ?_⟩
      rw [unread, List.drop_append_of_le_length (by rw [List.length_drop]; omega), List.drop_drop,
        show 1 + (l.cursor - 1) = l.cursor by omega]
  · rw [l.evicted_of_lt (by omega)]
    refine .inl ⟨fun hl => hfull hl.1, ?_⟩
    rw [unread, List.drop_zero, Nat.sub_zero, List.drop_append_of_le_length hcur]

/-- Searching the positions from the oldest on. -/
theorem find?_range_eq_findIdx? {entries : List α} {p : α → Bool} {q : Nat → Bool}
    (h : ∀ k < entries.length, q k = entries[k]?.any p) :
    (List.range entries.length).find? q = entries.findIdx? p := by
  have hq : ∀ k (hk : k < entries.length), q k = p entries[k] := fun k hk => by
    rw [h k hk, List.getElem?_eq_getElem hk, Option.any_some]
  refine Option.ext fun i => ?_
  rw [List.find?_range_eq_some, List.findIdx?_eq_some_iff_getElem]
  constructor
  · rintro ⟨hp, hmem, hno⟩
    have hi := List.mem_range.mp hmem
    refine ⟨hi, hq i hi ▸ hp, fun j hj => ?_⟩
    simpa [hq j (by omega)] using hno j hj
  · rintro ⟨hi, hp, hno⟩
    refine ⟨hq i hi ▸ hp, List.mem_range.mpr hi, fun j hj => ?_⟩
    simpa [hq j (by omega)] using hno j hj

/-! ## Numbered entries -/

/-- Neighbours are related by `R`, and `next` follows the last entry. -/
def Numbered (R : α → α → Prop) (next : α → Prop) (entries : List α) : Prop :=
  entries.IsChain R ∧ ∀ x ∈ entries.getLast?, next x

theorem numbered_nil (R : α → α → Prop) (next : α → Prop) : Numbered R next [] :=
  ⟨.nil, by simp⟩

theorem Numbered.drop {R : α → α → Prop} {next : α → Prop} {entries : List α}
    (h : Numbered R next entries) (n : Nat) : Numbered R next (entries.drop n) := by
  refine ⟨h.1.drop n, fun x hx => h.2 x ?_⟩
  rw [List.getLast?_drop] at hx
  split at hx
  · simp at hx
  · exact hx

/-- An entry that follows the last one continues the numbering. -/
theorem Numbered.concat {R : α → α → Prop} {next next' : α → Prop} {entries : List α} {x : α}
    (h : Numbered R next entries) (hx : ∀ y, next y → R y x) (hnext : next' x) :
    Numbered R next' (entries ++ [x]) := by
  refine ⟨List.isChain_append.mpr ⟨h.1, .singleton x, fun y hy z hz => ?_⟩, fun y hy => ?_⟩
  · obtain rfl : x = z := by simpa using hz
    exact hx y (h.2 y hy)
  · obtain rfl : x = y := by simpa using hy
    exact hnext

end BoundedLog

end ArStack.Lib
