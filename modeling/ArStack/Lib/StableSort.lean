import Mathlib.Data.List.Count

/-!
# Stable sorting of some entries of a list

An insertion sort that moves an element only past elements of a larger key, and the writing
of values to positions of a list.

* `stableSort`, `stableSort_perm`, `stableSort_pairwise`
* `place`, `place_of_notMem`, `map_place`, `place_perm`
-/

namespace ArStack.Lib

variable {α : Type*}

/-! ## Sorting -/

/-- The element moves back past the sorted ones with a larger key. The sorted ones are listed
last first. -/
def insertLast (key : α → Nat) (x : α) : List α → List α
  | [] => [x]
  | last :: earlier =>
    if key last > key x then last :: insertLast key x earlier else x :: last :: earlier

def stableSort (key : α → Nat) (xs : List α) : List α :=
  (xs.foldl (fun sorted x => insertLast key x sorted) []).reverse

variable {key : α → Nat}

theorem insertLast_perm (x : α) (sorted : List α) : (insertLast key x sorted).Perm (x :: sorted) := by
  induction sorted with
  | nil => exact .refl _
  | cons last earlier ih =>
    rw [insertLast]
    split
    · exact (ih.cons last).trans (.swap x last earlier)
    · exact .refl _

/-- Keys do not decrease, and elements of one key are in their old order. -/
def SortedBy (key : α → Nat) (R : α → α → Prop) (x y : α) : Prop :=
  key x < key y ∨ key x = key y ∧ R x y

theorem insertLast_pairwise {R : α → α → Prop} {x : α} {sorted : List α}
    (hlast : ∀ y ∈ sorted, R y x) (h : sorted.Pairwise fun y z => SortedBy key R z y) :
    (insertLast key x sorted).Pairwise fun y z => SortedBy key R z y := by
  induction sorted with
  | nil => exact List.pairwise_singleton _ _
  | cons last earlier ih =>
    obtain ⟨hhead, htail⟩ := List.pairwise_cons.mp h
    rw [insertLast]
    split
    · rename_i hgt
      refine List.pairwise_cons.mpr ⟨fun y hy => ?_,
        ih (fun y hy => hlast y (List.mem_cons_of_mem last hy)) htail⟩
      rcases List.mem_cons.mp ((insertLast_perm x earlier).mem_iff.mp hy) with rfl | hy
      · exact .inl hgt
      · exact hhead y hy
    · rename_i hle
      refine List.pairwise_cons.mpr ⟨fun y hy => ?_, h⟩
      have hkey : key y ≤ key last := by
        rcases List.mem_cons.mp hy with rfl | hmem
        · exact Nat.le_refl _
        · rcases hhead y hmem with hlt | ⟨heq, -⟩ <;> omega
      rcases Nat.lt_or_ge (key y) (key x) with hlt | hge
      · exact .inl hlt
      · exact .inr ⟨by omega, hlast y hy⟩

variable (key) in
/-- Sorting one element after the other, from what is already sorted. -/
theorem foldl_insertLast_perm (xs sorted : List α) :
    (xs.foldl (fun sorted x => insertLast key x sorted) sorted).Perm (xs ++ sorted) := by
  induction xs generalizing sorted with
  | nil => exact .refl _
  | cons x xs ih =>
    refine (ih _).trans ?_
    exact ((insertLast_perm x sorted).append_left xs).trans List.perm_middle

theorem foldl_insertLast_pairwise {R : α → α → Prop} {xs sorted : List α}
    (hxs : xs.Pairwise R) (hbefore : ∀ y ∈ sorted, ∀ x ∈ xs, R y x)
    (h : sorted.Pairwise fun y z => SortedBy key R z y) :
    (xs.foldl (fun sorted x => insertLast key x sorted) sorted).Pairwise
      fun y z => SortedBy key R z y := by
  induction xs generalizing sorted with
  | nil => exact h
  | cons x xs ih =>
    obtain ⟨hx, hxs⟩ := List.pairwise_cons.mp hxs
    refine ih hxs (fun y hy z hz => ?_)
      (insertLast_pairwise (fun y hy => hbefore y hy x List.mem_cons_self) h)
    rcases List.mem_cons.mp ((insertLast_perm x sorted).mem_iff.mp hy) with rfl | hy
    · exact hx z hz
    · exact hbefore y hy z (List.mem_cons_of_mem x hz)

theorem stableSort_perm (xs : List α) : (stableSort key xs).Perm xs := by
  have h := foldl_insertLast_perm key xs []
  rw [List.append_nil] at h
  exact (List.reverse_perm _).trans h

/-- **The sort is stable**: `R` is the order in which the elements were given. -/
theorem stableSort_pairwise {R : α → α → Prop} {xs : List α} (h : xs.Pairwise R) :
    (stableSort key xs).Pairwise (SortedBy key R) :=
  List.pairwise_reverse.mpr (foldl_insertLast_pairwise h (by simp) .nil)

/-! ## Writing to positions -/

/-- The values are written to their positions, one after the other. -/
def place (values : List α) (writes : List (Nat × α)) : List α :=
  writes.foldl (fun values write => values.set write.1 write.2) values

theorem place_of_notMem {values : List α} {writes : List (Nat × α)} {i : Nat}
    (h : i ∉ writes.map Prod.fst) : (place values writes)[i]? = values[i]? := by
  induction writes generalizing values with
  | nil => rfl
  | cons write writes ih =>
    rw [List.map_cons, List.mem_cons, not_or] at h
    refine (ih h.2).trans (List.getElem?_set_ne fun heq => h.1 heq.symm)

/-- **Every position has the value written to it.** -/
theorem map_place {values members : List α} {positions : List Nat} (hnodup : positions.Nodup)
    (hlength : members.length = positions.length) (hin : ∀ p ∈ positions, p < values.length) :
    positions.map (fun p => (place values (positions.zip members))[p]?) = members.map some := by
  induction positions generalizing values members with
  | nil => rw [List.eq_nil_of_length_eq_zero hlength]; rfl
  | cons p positions ih =>
    obtain _ | ⟨m, members⟩ := members
    · cases hlength
    obtain ⟨hp, hnodup⟩ := List.nodup_cons.mp hnodup
    have hlength' : members.length = positions.length := Nat.succ.inj hlength
    have hhead : (place (values.set p m) (positions.zip members))[p]? = some m := by
      rw [place_of_notMem (by rwa [List.map_fst_zip (by omega)]), List.getElem?_set_self
        (hin p List.mem_cons_self)]
    have hin' : ∀ q ∈ positions, q < (values.set p m).length := fun q hq => by
      rw [List.length_set]
      exact hin q (List.mem_cons_of_mem p hq)
    have htail := ih hnodup hlength' hin'
    rw [List.map_cons, List.map_cons, ← htail]
    exact congrArg (· :: _) hhead

/-- What is written to some positions and what stood there, counted. -/
theorem count_place [DecidableEq α] (x : α) {values members : List α} {positions : List Nat}
    (hnodup : positions.Nodup) (hlength : members.length = positions.length)
    (hin : ∀ p ∈ positions, p < values.length) :
    (place values (positions.zip members)).count x + (positions.map (values[·]?)).count (some x) =
      values.count x + members.count x := by
  induction positions generalizing values members with
  | nil =>
    rw [List.eq_nil_of_length_eq_zero hlength]
    rfl
  | cons p positions ih =>
    obtain _ | ⟨m, members⟩ := members
    · cases hlength
    obtain ⟨hp, hnodup⟩ := List.nodup_cons.mp hnodup
    have hlt : p < values.length := hin p List.mem_cons_self
    have hin' : ∀ q ∈ positions, q < (values.set p m).length := fun q hq => by
      rw [List.length_set]
      exact hin q (List.mem_cons_of_mem p hq)
    have htail := ih hnodup (Nat.succ.inj hlength) hin'
    have hsame : positions.map ((values.set p m)[·]?) = positions.map (values[·]?) :=
      List.map_congr_left fun q hq => List.getElem?_set_ne fun heq : p = q => hp (heq ▸ hq)
    have hpos : values[p] = x → 0 < values.count x := fun heq =>
      List.count_pos_iff.mpr (heq ▸ List.getElem_mem hlt)
    have hset : (values.set p m).count x = _ := List.count_set hlt
    show (place (values.set p m) (positions.zip members)).count x + _ = _
    rw [hsame, hset] at htail
    rw [List.map_cons, List.count_cons, List.count_cons, List.getElem?_eq_getElem hlt]
    simp only [beq_iff_eq, Option.some.injEq] at htail ⊢
    split at htail <;> split <;> split <;> grind

/-- **Permuting the entries at some positions permutes the list.** -/
theorem place_perm [DecidableEq α] {values members : List α} {positions : List Nat}
    (hnodup : positions.Nodup) (hin : ∀ p ∈ positions, p < values.length)
    (hmembers : (members.map some).Perm (positions.map (values[·]?))) :
    (place values (positions.zip members)).Perm values := by
  have hlength : members.length = positions.length := by
    have := hmembers.length_eq
    rwa [List.length_map, List.length_map] at this
  refine List.perm_iff_count.mpr fun x => ?_
  have hcount := count_place x hnodup hlength hin
  have hmoved := hmembers.count_eq (some x)
  rw [List.count_map_of_injective members some fun _ _ => Option.some.inj] at hmoved
  omega

end ArStack.Lib
