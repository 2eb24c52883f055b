import Mathlib.Data.List.Basic

/-!
# Overwriting a part of a list

`Patches whole whole' offset new` says that `whole'` is `whole` with other elements from `offset`
on. It moves along to whatever the list becomes a part of.

* `Patches.within` — the list with something before and after it
* `Patches.overwrite` — what overwriting the part gives
-/

namespace ArStack.Lib

variable {α : Type*}

/-- `xs` with `new` from `offset` on. -/
def overwrite (xs : List α) (offset : Nat) (new : List α) : List α :=
  xs.take offset ++ new ++ xs.drop (offset + new.length)

/-- `whole'` has `new` where `whole` has as many other elements, from `offset` on. -/
def Patches (whole whole' : List α) (offset : Nat) (new : List α) : Prop :=
  ∃ before old after, whole = before ++ old ++ after ∧ whole' = before ++ new ++ after ∧
    before.length = offset ∧ old.length = new.length

namespace Patches

variable {whole whole' new : List α} {offset : Nat}

theorem self {old : List α} (h : old.length = new.length) : Patches old new 0 new :=
  ⟨[], old, [], by simp, by simp, rfl, h⟩

theorem within (h : Patches whole whole' offset new) (front back : List α) :
    Patches (front ++ whole ++ back) (front ++ whole' ++ back) (front.length + offset) new := by
  obtain ⟨before, old, after, rfl, rfl, rfl, hlen⟩ := h
  refine ⟨front ++ before, old, after ++ back, ?_, ?_, List.length_append, hlen⟩ <;>
    simp only [List.append_assoc]

theorem behind (h : Patches whole whole' offset new) (front : List α) :
    Patches (front ++ whole) (front ++ whole') (front.length + offset) new := by
  simpa using h.within front []

theorem length_eq (h : Patches whole whole' offset new) : whole.length = whole'.length := by
  obtain ⟨before, old, after, rfl, rfl, rfl, hlen⟩ := h
  simp only [List.length_append, hlen]

theorem inside (h : Patches whole whole' offset new) : offset + new.length ≤ whole.length := by
  obtain ⟨before, old, after, rfl, rfl, rfl, hlen⟩ := h
  simp only [List.length_append, hlen]
  omega

/-- One element, read back, -/
theorem getElem?_eq {x : α} (h : Patches whole whole' offset [x]) : whole'[offset]? = some x := by
  obtain ⟨before, old, after, rfl, rfl, rfl, -⟩ := h
  rw [List.append_assoc, List.getElem?_append_right (Nat.le_refl _), Nat.sub_self]
  rfl

/-- and set in its place. -/
theorem eq_set {x : α} (h : Patches whole whole' offset [x]) : whole' = whole.set offset x := by
  obtain ⟨before, old, after, rfl, rfl, rfl, hlen⟩ := h
  obtain ⟨y, rfl⟩ := List.length_eq_one_iff.mp hlen
  rw [List.append_assoc, List.append_assoc, List.set_append_right _ _ (Nat.le_refl _),
    Nat.sub_self]
  rfl

/-- **Overwriting the part gives the patched list.** -/
theorem overwrite (h : Patches whole whole' offset new) : overwrite whole offset new = whole' := by
  obtain ⟨before, old, after, rfl, rfl, rfl, hlen⟩ := h
  rw [Lib.overwrite, List.append_assoc before, List.take_left, ← List.append_assoc before,
    List.drop_left' (by rw [List.length_append, hlen])]

end Patches

end ArStack.Lib
