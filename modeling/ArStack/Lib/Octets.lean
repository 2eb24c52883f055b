import Mathlib.Algebra.Ring.Nat
import Mathlib.Data.List.Induction

/-!
# Big-endian numbers in octet strings

`beOctets w n` is `n` in `w` octets, most significant first; `beValue` reads an octet string
back. `slice` is the part of an octet string that a reader at a fixed offset sees.
-/

namespace ArStack.Lib

/-- `n` in `w` octets, most significant first. Higher bits are cut off. -/
def beOctets (w n : Nat) : List UInt8 :=
  (List.range w).map fun i => UInt8.ofNat (n >>> ((w - 1 - i) * 8))

/-- The number an octet string spells, most significant octet first. -/
def beValue (bs : List UInt8) : Nat := bs.foldl (fun acc b => acc <<< 8 ||| b.toNat) 0

@[simp] theorem length_beOctets (w n : Nat) : (beOctets w n).length = w := by
  rw [beOctets, List.length_map, List.length_range]

@[simp] theorem beOctets_zero (n : Nat) : beOctets 0 n = [] := rfl

theorem beOctets_succ (w n : Nat) :
    beOctets (w + 1) n = beOctets w (n >>> 8) ++ [UInt8.ofNat n] := by
  rw [beOctets, List.range_succ, List.map_append]
  congr 1
  · refine List.map_congr_left fun i hi => ?_
    have hi' : i < w := List.mem_range.mp hi
    rw [← Nat.shiftRight_add]
    congr 2
    omega
  · simp

@[simp] theorem beValue_nil : beValue [] = 0 := rfl

theorem beValue_concat (bs : List UInt8) (b : UInt8) :
    beValue (bs ++ [b]) = beValue bs * 256 + b.toNat := by
  have hb : b.toNat < 2 ^ 8 := b.toNat_lt
  rw [beValue, List.foldl_append, List.foldl_cons, List.foldl_nil,
    ← Nat.shiftLeft_add_eq_or_of_lt hb, Nat.shiftLeft_eq]
  rfl

theorem beValue_cons (b : UInt8) (bs : List UInt8) :
    beValue (b :: bs) = b.toNat * 256 ^ bs.length + beValue bs := by
  induction bs using List.reverseRecOn with
  | nil =>
    rw [← List.nil_append [b], beValue_concat]
    simp
  | append_singleton bs c ih =>
    rw [← List.cons_append, beValue_concat, beValue_concat, ih, List.length_append,
      List.length_singleton, Nat.pow_succ, Nat.add_mul, Nat.mul_assoc, Nat.add_assoc]

theorem beValue_append (front back : List UInt8) :
    beValue (front ++ back) = beValue front * 256 ^ back.length + beValue back := by
  induction front with
  | nil => rw [List.nil_append, beValue_nil, Nat.zero_mul, Nat.zero_add]
  | cons octet front ih =>
    rw [List.cons_append, beValue_cons, beValue_cons, ih, List.length_append, Nat.pow_add,
      Nat.add_mul, Nat.mul_assoc, Nat.add_assoc]

/-- **Reading back what was written.** -/
theorem beValue_beOctets (w : Nat) : ∀ {n : Nat}, n < 256 ^ w → beValue (beOctets w n) = n := by
  induction w with
  | zero =>
    intro n h
    simp at h
    simp [h]
  | succ w ih =>
    intro n h
    have hdiv : n >>> 8 = n / 256 := Nat.shiftRight_eq_div_pow n 8
    have hlt : n >>> 8 < 256 ^ w := by
      rw [hdiv]
      exact Nat.div_lt_of_lt_mul (by rw [Nat.mul_comm, ← Nat.pow_succ]; exact h)
    rw [beOctets_succ, beValue_concat, ih hlt, hdiv, UInt8.toNat_ofNat']
    exact Nat.div_add_mod' n 256

theorem beValue_beOctets_uint64 (n : UInt64) : beValue (beOctets 8 n.toNat) = n.toNat :=
  beValue_beOctets 8 n.toNat_lt

theorem beValue_lt (bs : List UInt8) : beValue bs < 256 ^ bs.length := by
  induction bs using List.reverseRecOn with
  | nil => simp
  | append_singleton bs b ih =>
    have hb : b.toNat < 256 := b.toNat_lt
    rw [beValue_concat, List.length_append, List.length_singleton, Nat.pow_succ]
    omega

/-- An octet string of known length is determined by its number. -/
theorem beOctets_beValue (bs : List UInt8) : beOctets bs.length (beValue bs) = bs := by
  induction bs using List.reverseRecOn with
  | nil => rfl
  | append_singleton bs b ih =>
    have hb : b.toNat < 256 := b.toNat_lt
    have hdiv : (beValue bs * 256 + b.toNat) >>> 8 = beValue bs := by
      rw [Nat.shiftRight_eq_div_pow]
      omega
    have hlow : UInt8.ofNat (beValue bs * 256 + b.toNat) = b := by
      rw [← UInt8.toNat_inj, UInt8.toNat_ofNat']
      omega
    rw [List.length_append, List.length_singleton, beValue_concat, beOctets_succ, hdiv, ih, hlow]

/-- What holds of the numbers below 256 holds of every octet. -/
theorem forall_octet {p : UInt8 → Prop} (h : ∀ n : Fin 256, p (.ofNat n)) (octet : UInt8) :
    p octet := by
  have hoctet := h ⟨octet.toNat, octet.toNat_lt⟩
  rwa [UInt8.ofNat_toNat] at hoctet

/-- The `len` octets from `offset` on. -/
def slice {α : Type*} (bs : List α) (offset len : Nat) : List α := (bs.drop offset).take len

theorem length_slice {α : Type*} {bs : List α} {offset len : Nat} (h : offset + len ≤ bs.length) :
    (slice bs offset len).length = len := by
  rw [slice, List.length_take, List.length_drop]
  omega

/-- A slice behind a prefix does not see the prefix. -/
theorem slice_append_right {α : Type*} (as bs : List α) {offset : Nat} (len : Nat)
    (h : as.length ≤ offset) : slice (as ++ bs) offset len = slice bs (offset - as.length) len := by
  rw [slice, slice, List.drop_append, List.drop_of_length_le h, List.nil_append]

/-- A slice inside the first part does not see the second. -/
theorem slice_append_left {α : Type*} (as bs : List α) {offset len : Nat}
    (h : offset + len ≤ as.length) : slice (as ++ bs) offset len = slice as offset len := by
  rw [slice, slice, List.drop_append_of_le_length (by omega), List.take_append_of_le_length]
  rw [List.length_drop]
  omega

theorem slice_all {α : Type*} (bs : List α) : slice bs 0 bs.length = bs := by
  rw [slice, List.drop_zero, List.take_length]

end ArStack.Lib
