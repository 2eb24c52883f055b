import ArStack.Lib.Octets
import Mathlib.Data.List.GetD

/-!
# Records of fields at fixed offsets

A record is its fields, one behind the other; a reader at fixed offsets sees `slices` of it. An
array of fixed size is `padded` with a default where nothing was copied to.

* `slices_flatten`, `flatten_slices` — the slices of a record are its fields
* `take_padded`, `padded_take`
-/

namespace ArStack.Lib

variable {α : Type*}

/-! ## Fields -/

/-- The parts of the given sizes from `offset` on. -/
def slices (bs : List α) : Nat → List Nat → List (List α)
  | _, [] => []
  | offset, width :: widths => slice bs offset width :: slices bs (offset + width) widths

/-- **The slices of a record are its fields**, -/
theorem slices_flatten (front : List α) (fields : List (List α)) (back : List α) :
    slices (front ++ (fields.flatten ++ back)) front.length (fields.map List.length) = fields := by
  induction fields generalizing front with
  | nil => rfl
  | cons field fields ih =>
    have hslice : slice (front ++ (field ++ (fields.flatten ++ back))) front.length field.length =
        field := by
      rw [slice, List.drop_left, List.take_left]
    have hrest := ih (front ++ field)
    rw [List.append_assoc, List.length_append] at hrest
    rw [List.flatten_cons, List.append_assoc, List.map_cons, slices, hslice, hrest]

/-- and nothing else. -/
theorem flatten_slices (bs : List α) (offset : Nat) (widths : List Nat) :
    (slices bs offset widths).flatten = slice bs offset widths.sum := by
  induction widths generalizing offset with
  | nil => rw [slices, List.flatten_nil, List.sum_nil, slice, List.take_zero]
  | cons width widths ih =>
    rw [slices, List.flatten_cons, ih, List.sum_cons, slice, slice, slice, ← List.drop_drop,
      ← List.take_add]

theorem map_length_slices {bs : List α} {offset : Nat} {widths : List Nat}
    (h : offset + widths.sum ≤ bs.length) : (slices bs offset widths).map List.length = widths := by
  induction widths generalizing offset with
  | nil => rfl
  | cons width widths ih =>
    rw [List.sum_cons] at h
    rw [slices, List.map_cons, length_slice (by omega), ih (by omega)]

/-! ## Arrays -/

/-- The array of `n` elements `d`, with the list copied to its front. -/
def padded (n : Nat) (d : α) (xs : List α) : Vector α n := Vector.ofFn fun i => xs.getD i d

theorem getElem_padded {n : Nat} (d : α) (xs : List α) {i : Nat} (h : i < n) :
    (padded n d xs)[i] = xs.getD i d := Vector.getElem_ofFn h

/-- An array ends with defaults. -/
theorem getElem_padded_of_le {n : Nat} (d : α) {xs : List α} {i : Nat} (hi : i < n)
    (h : xs.length ≤ i) : (padded n d xs)[i] = d := by
  rw [getElem_padded, List.getD_eq_default _ _ h]

theorem take_padded {n : Nat} (d : α) {xs : List α} (h : xs.length ≤ n) :
    (padded n d xs).toList.take xs.length = xs := by
  refine List.ext_getElem ?_ fun i hi hi' => ?_
  · rw [List.length_take, Vector.length_toList, Nat.min_eq_left h]
  · rw [List.getElem_take, Vector.getElem_toList, getElem_padded, List.getD_eq_getElem _ _ hi']

/-- An array that has the default behind its first `k` elements. -/
theorem padded_take {n : Nat} {d : α} {v : Vector α n} {k : Nat}
    (h : ∀ (i : Nat) (hi : i < n), k ≤ i → v[i] = d) : padded n d (v.toList.take k) = v := by
  ext i hi
  rw [getElem_padded]
  rcases Nat.lt_or_ge i k with hlt | hle
  · have hi' : i < (v.toList.take k).length := by
      rw [List.length_take, Vector.length_toList]
      omega
    rw [List.getD_eq_getElem _ _ hi', List.getElem_take, Vector.getElem_toList]
  · rw [List.getD_eq_default _ _ (by rw [List.length_take]; omega), h i hi hle]

end ArStack.Lib
