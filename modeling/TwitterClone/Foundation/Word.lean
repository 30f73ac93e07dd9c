import Mathlib

/-! Fixed-width integers: `unsigned int` as a natural number below `2 ^ 32`,
`int` as an integer read off 32 bits in two's complement. -/
namespace TwitterClone.Foundation

/-- Conversion to a 32-bit `unsigned int`. -/
def uint32 (value : Nat) : Nat := value % 2 ^ 32

/-- Conversion to a 32-bit `int`. -/
def int32 (value : Int) : Int := (BitVec.ofInt 32 value).toInt

theorem int32_eq_bmod (value : Int) : int32 value = value.bmod (2 ^ 32) :=
  BitVec.toInt_ofInt value

theorem int32_of_small {value : Nat} (small : value < 2 ^ 31) : int32 value = value := by
  rw [int32_eq_bmod, Int.bmod_def]
  omega

/-- A counter comes round after `2 ^ 32` steps. -/
theorem uint32_iterate {value : Nat} (small : value < 2 ^ 32) (count : Nat) :
    (fun counter => uint32 (counter + 1))^[count] value = uint32 (value + count) := by
  induction count with
  | zero => rw [Nat.add_zero, uint32, Nat.mod_eq_of_lt small, Function.iterate_zero_apply]
  | succ count ih =>
    rw [Function.iterate_succ_apply', ih]
    simp only [uint32, Nat.mod_add_mod]
    rfl

/-- Conversion to `int` separates any two numbers less than `2 ^ 32` apart. -/
theorem int32_injective {first second : Nat} (order : first < second)
    (close : second < first + 2 ^ 32) : int32 first ≠ int32 second := by
  rw [int32_eq_bmod, int32_eq_bmod, Int.bmod_def, Int.bmod_def]
  omega

theorem int32_uint32 (value : Nat) : int32 (uint32 value) = int32 value := by
  rw [int32_eq_bmod, int32_eq_bmod, uint32, Int.bmod_def, Int.bmod_def]
  omega

end TwitterClone.Foundation
