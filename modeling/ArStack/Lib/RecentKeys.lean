import Mathlib.Data.List.Dedup
import Mathlib.Data.List.Induction

/-!
# The keys that were used last

A key that is used moves to the front of the list of keys. The first keys of the list are the ones
that were used last, whether or not the others are still remembered.

* `touch`, `recent`
* `take_touch` — to forget the keys behind the first ones, before or after a use
* `length_recent`
-/

namespace ArStack.Lib

variable {κ : Type*} [DecidableEq κ]

/-- The key is the one that was used last. -/
def touch (key : κ) (keys : List κ) : List κ := key :: keys.erase key

/-- The keys that are used one after the other, without repetition, the last one first. -/
def recent (uses : List κ) : List κ := uses.foldl (fun keys key => touch key keys) []

@[simp] theorem recent_nil : recent ([] : List κ) = [] := rfl

theorem recent_concat (uses : List κ) (key : κ) :
    recent (uses ++ [key]) = touch key (recent uses) := by
  rw [recent, List.foldl_concat]
  rfl

theorem mem_touch {key other : κ} {keys : List κ} :
    other ∈ touch key keys ↔ other = key ∨ other ∈ keys := by
  rw [touch, List.mem_cons]
  by_cases heq : other = key
  · simp [heq]
  · rw [List.mem_erase_of_ne heq]

theorem nodup_touch {keys : List κ} (h : keys.Nodup) (key : κ) : (touch key keys).Nodup :=
  List.nodup_cons.mpr ⟨h.not_mem_erase, h.erase key⟩

/-- What holds of the keys in their order, and of the new first key and every other one. -/
theorem pairwise_touch {R S : κ → κ → Prop} {key : κ} {keys : List κ} (hnodup : keys.Nodup)
    (h : keys.Pairwise R) (hfirst : ∀ other ∈ keys, other ≠ key → S key other)
    (hothers : ∀ other other', other ≠ key → other' ≠ key → R other other' → S other other') :
    (touch key keys).Pairwise S := by
  have hmem : ∀ other ∈ keys.erase key, other ≠ key ∧ other ∈ keys :=
    fun other hother => hnodup.mem_erase_iff.mp hother
  refine List.pairwise_cons.mpr ⟨fun other hother => ?_, ?_⟩
  · exact hfirst other (hmem other hother).2 (hmem other hother).1
  · exact (h.sublist List.erase_sublist).imp_of_mem fun hother hother' hrel =>
      hothers _ _ (hmem _ hother).1 (hmem _ hother').1 hrel

theorem length_touch_le (key : κ) (keys : List κ) :
    (touch key keys).length ≤ keys.length + 1 :=
  Nat.succ_le_succ (List.erase_sublist.length_le)

/-- **The first keys after a use** do not depend on the keys behind the first ones. -/
theorem take_touch (key : κ) (keys : List κ) (n : Nat) :
    (touch key (keys.take n)).take n = (touch key keys).take n := by
  cases n with
  | zero => rfl
  | succ n =>
    rw [touch, touch, List.take_succ_cons, List.take_succ_cons]
    congr 1
    induction keys generalizing n with
    | nil => rfl
    | cons first keys ih =>
      rw [List.take_succ_cons, List.erase_cons, List.erase_cons]
      split
      · rw [List.take_take, Nat.min_self]
      · cases n with
        | zero => rfl
        | succ n => rw [List.take_succ_cons, List.take_succ_cons, ih n]

theorem mem_recent {uses : List κ} {key : κ} : key ∈ recent uses ↔ key ∈ uses := by
  induction uses using List.reverseRecOn with
  | nil => simp
  | append_singleton uses last ih =>
    rw [recent_concat, mem_touch, ih, List.mem_append, List.mem_singleton, or_comm]

theorem nodup_recent (uses : List κ) : (recent uses).Nodup := by
  induction uses using List.reverseRecOn with
  | nil => exact List.nodup_nil
  | append_singleton uses last ih =>
    rw [recent_concat]
    exact nodup_touch ih last

/-- There are as many keys as different ones were used. -/
theorem length_recent (uses : List κ) : (recent uses).length = uses.dedup.length :=
  ((List.perm_ext_iff_of_nodup (nodup_recent uses) uses.nodup_dedup).mpr fun key => by
    rw [mem_recent, List.mem_dedup]).length_eq

end ArStack.Lib
