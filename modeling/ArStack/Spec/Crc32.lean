import ArStack.Integrity.Crc32
import Mathlib.Logic.Function.Basic

/-!
# A changed octet changes the CRC

Every step of the CRC takes different states to different ones, since the polynomial has the bit
that the shift clears.

* `crc32Bit_injective`, `crc32Byte_injective`, `crc32Update_injective` — the steps
* `eq_of_crc32Update`, `eq_of_crc32` — octets that differ in one place
-/

namespace ArStack.Integrity

/-! ## One bit -/

theorem and_one_cases (state : UInt32) : state &&& 1 = 0 ∨ state &&& 1 = 1 := by
  have hbit : (state &&& 1).toNat = state.toNat % 2 := by
    rw [UInt32.toNat_and]
    exact Nat.and_one_is_mod _
  rcases Nat.mod_two_eq_zero_or_one state.toNat with h | h
  · exact .inl (UInt32.toNat_inj.mp (hbit.trans h))
  · exact .inr (UInt32.toNat_inj.mp (hbit.trans h))

theorem crc32Bit_even {state : UInt32} (h : state &&& 1 = 0) : crc32Bit state = state >>> 1 := by
  rw [crc32Bit, h, UInt32.sub_zero, UInt32.and_zero, UInt32.xor_zero]

theorem crc32Bit_odd {state : UInt32} (h : state &&& 1 = 1) :
    crc32Bit state = (state >>> 1) ^^^ 0xEDB88320 := by
  rw [crc32Bit, h]
  rfl

theorem toNat_half (state : UInt32) : (state >>> 1).toNat = state.toNat / 2 := by
  rw [UInt32.toNat_shiftRight]
  exact Nat.shiftRight_eq_div_pow _ 1

/-- A state is its last bit and the others. -/
theorem eq_of_half {state other : UInt32} (hbit : state &&& 1 = other &&& 1)
    (hhalf : state >>> 1 = other >>> 1) : state = other := by
  have hlast := congrArg UInt32.toNat hbit
  have hrest := congrArg UInt32.toNat hhalf
  rw [toNat_half, toNat_half] at hrest
  rw [UInt32.toNat_and, UInt32.toNat_and] at hlast
  have hone : (1 : UInt32).toNat = 1 := rfl
  rw [hone, Nat.and_one_is_mod, Nat.and_one_is_mod] at hlast
  refine UInt32.toNat_inj.mp ?_
  omega

/-- The polynomial has the bit that a shift has cleared. -/
theorem half_ne (state other : UInt32) : state >>> 1 ≠ (other >>> 1) ^^^ 0xEDB88320 := by
  intro h
  have hpoly : (state >>> 1) ^^^ (other >>> 1) = 0xEDB88320 := by
    rw [h, UInt32.xor_comm (other >>> 1), UInt32.xor_assoc, UInt32.xor_self, UInt32.xor_zero]
  have hstate := state.toNat_lt
  have hother := other.toNat_lt
  have hlt : ((state >>> 1) ^^^ (other >>> 1)).toNat < 2 ^ 31 := by
    rw [UInt32.toNat_xor, toNat_half, toNat_half]
    exact Nat.xor_lt_two_pow (by omega) (by omega)
  rw [hpoly] at hlt
  exact absurd hlt (by decide)

theorem crc32Bit_injective : Function.Injective crc32Bit := by
  intro state other h
  rcases and_one_cases state with hstate | hstate <;>
    rcases and_one_cases other with hother | hother
  · rw [crc32Bit_even hstate, crc32Bit_even hother] at h
    exact eq_of_half (hstate.trans hother.symm) h
  · rw [crc32Bit_even hstate, crc32Bit_odd hother] at h
    exact absurd h (half_ne state other)
  · rw [crc32Bit_odd hstate, crc32Bit_even hother] at h
    exact absurd h.symm (half_ne other state)
  · rw [crc32Bit_odd hstate, crc32Bit_odd hother] at h
    exact eq_of_half (hstate.trans hother.symm) ((UInt32.xor_left_inj _).mp h)

/-! ## Octets -/

theorem foldl_injective {α β : Type} {f : α → α} (hf : Function.Injective f) (steps : List β) :
    Function.Injective fun a => steps.foldl (fun a _ => f a) a := by
  induction steps with
  | nil => exact fun _ _ h => h
  | cons _ steps ih => exact ih.comp hf

/-- An octet takes different states to different ones. -/
theorem crc32Byte_injective (byte : UInt8) : Function.Injective (crc32Byte · byte) :=
  fun _ _ h => (UInt32.xor_left_inj _).mp (foldl_injective crc32Bit_injective (List.range 8) h)

/-- And different octets take a state to different ones. -/
theorem crc32Byte_right_injective (state : UInt32) : Function.Injective (crc32Byte state) := by
  intro byte other h
  have hwide : byte.toUInt32 = other.toUInt32 :=
    (UInt32.xor_right_inj _).mp (foldl_injective crc32Bit_injective (List.range 8) h)
  have hnat := congrArg UInt32.toNat hwide
  rw [UInt8.toNat_toUInt32, UInt8.toNat_toUInt32] at hnat
  exact UInt8.toNat_inj.mp hnat

theorem crc32Update_injective (bytes : Bytes) : Function.Injective (crc32Update · bytes) := by
  induction bytes with
  | nil => exact fun _ _ h => h
  | cons byte bytes ih => exact ih.comp (crc32Byte_injective byte)

/-- **Octets that differ in one place have different checksums.** -/
theorem eq_of_crc32Update {state : UInt32} {front back : Bytes} {octet octet' : UInt8}
    (h : crc32Update state (front ++ octet :: back) = crc32Update state (front ++ octet' :: back)) :
    octet = octet' := by
  rw [crc32Update_append, crc32Update_append] at h
  exact crc32Byte_right_injective _ (crc32Update_injective back h)

theorem crc32Finalize_injective : Function.Injective crc32Finalize :=
  fun _ _ h => UInt32.not_inj.mp h

theorem eq_of_crc32 {front back : Bytes} {octet octet' : UInt8}
    (h : crc32 (front ++ octet :: back) = crc32 (front ++ octet' :: back)) : octet = octet' :=
  eq_of_crc32Update (crc32Finalize_injective h)

end ArStack.Integrity
