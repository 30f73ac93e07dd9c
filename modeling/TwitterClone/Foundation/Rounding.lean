import Mathlib

/-! Floating point through what its rounding guarantees: whole numbers that fit the
significand are kept, and other values of normal size are met up to a relative error. -/
namespace TwitterClone.Foundation

/-- Rounding to single precision. -/
structure Rounding (round : ℚ → ℚ) : Prop where
  whole : ∀ value : ℤ, |value| ≤ 2 ^ 24 → round value = value
  near : ∀ value : ℚ, 1 / 2 ^ 126 ≤ value → value ≤ 2 ^ 126 →
    |round value - value| ≤ value / 2 ^ 24

variable {round : ℚ → ℚ} {numerator width : ℤ}

theorem Rounding.bounds (rounding : Rounding round) {value : ℚ} (small : 1 / 2 ^ 126 ≤ value)
    (large : value ≤ 2 ^ 126) :
    value * (1 - 1 / 2 ^ 24) ≤ round value ∧ round value ≤ value * (1 + 1 / 2 ^ 24) := by
  obtain ⟨below, above⟩ := abs_le.mp (rounding.near value small large)
  constructor <;> linarith

/-- A whole quotient is computed without an error. -/
theorem Rounding.div_of_dvd (rounding : Rounding round) (positive : 0 < numerator)
    (exact : numerator ≤ 2 ^ 20) (wide : 0 < width) (divides : width ∣ numerator) :
    round (numerator / round width) = (numerator : ℚ) / width := by
  obtain ⟨quotient, rfl⟩ := divides
  have quotientPos : 0 < quotient := pos_of_mul_pos_right positive wide.le
  have widthSmall : |width| ≤ 2 ^ 24 := by
    rw [abs_of_pos wide]
    nlinarith
  have quotientSmall : |quotient| ≤ 2 ^ 24 := by
    rw [abs_of_pos quotientPos]
    nlinarith
  have cancelled : ((width * quotient : ℤ) : ℚ) / width = quotient := by
    rw [Int.cast_mul, mul_div_cancel_left₀]
    exact_mod_cast wide.ne'
  rw [rounding.whole width widthSmall, cancelled, rounding.whole quotient quotientSmall]

/-- Between two whole numbers that are a width apart from the numerator, two roundings
stay between them. -/
theorem Rounding.ceil_of_apart (rounding : Rounding round) (positive : 0 < numerator)
    (exact : numerator ≤ 2 ^ 20) (wide : 0 < width) (int : width < 2 ^ 31) {next : ℤ}
    (before : (next - 1) * width + 1 ≤ numerator) (behind : numerator + 1 ≤ next * width) :
    ⌈round (numerator / round width)⌉ = next := by
  have numeratorPos : (1 : ℚ) ≤ numerator := by
    exact_mod_cast positive
  have numeratorLe : (numerator : ℚ) ≤ 2 ^ 20 := by
    exact_mod_cast exact
  have widthPos : (1 : ℚ) ≤ width := by
    exact_mod_cast wide
  have widthLe : (width : ℚ) ≤ 2 ^ 31 := by
    exact_mod_cast int.le
  have nextPos : (1 : ℚ) ≤ next := by
    have : 0 < next := pos_of_mul_pos_left (lt_of_lt_of_le (by omega) behind) wide.le
    exact_mod_cast this
  have belowNumerator : ((next : ℚ) - 1) * width + 1 ≤ numerator := by
    exact_mod_cast before
  have aboveNumerator : (numerator : ℚ) + 1 ≤ next * width := by
    exact_mod_cast behind
  obtain ⟨low, high⟩ := @Rounding.bounds round rounding width (by linarith) (by linarith)
  have roundPos : 0 < round width := by
    linarith
  obtain ⟨below, above⟩ := @Rounding.bounds round rounding (numerator / round width)
    (by rw [div_le_div_iff₀ (by norm_num) roundPos]; linarith)
    (by rw [div_le_iff₀ roundPos]; linarith)
  rw [Int.ceil_eq_iff]
  constructor
  · have enough : ((next : ℚ) - 1) * round width < numerator * (1 - 1 / 2 ^ 24) := by
      have scaled := mul_le_mul_of_nonneg_left high (sub_nonneg.mpr nextPos)
      linarith
    have between : (next : ℚ) - 1 < numerator / round width * (1 - 1 / 2 ^ 24) := by
      rwa [div_mul_eq_mul_div, lt_div_iff₀ roundPos]
    exact between.trans_le below
  · have enough : (numerator : ℚ) * (1 + 1 / 2 ^ 24) ≤ next * round width := by
      have scaled := mul_le_mul_of_nonneg_left low (zero_le_one.trans nextPos)
      linarith
    have between : (numerator : ℚ) / round width * (1 + 1 / 2 ^ 24) ≤ next := by
      rwa [div_mul_eq_mul_div, div_le_iff₀ roundPos]
    exact above.trans between

/-- Rounding a quotient of whole numbers up gives the same in floating point, where the
divisor and the quotient are rounded first. -/
theorem Rounding.ceil_div (rounding : Rounding round) (positive : 0 < numerator)
    (exact : numerator ≤ 2 ^ 20) (wide : 0 < width) (int : width < 2 ^ 31) :
    ⌈round (numerator / round width)⌉ = ⌈(numerator : ℚ) / width⌉ := by
  by_cases divides : width ∣ numerator
  · rw [rounding.div_of_dvd positive exact wide divides]
  · have widthPos : (0 : ℚ) < width := by
      exact_mod_cast wide
    obtain ⟨next, nextIs⟩ : ∃ next, next = ⌈(numerator : ℚ) / width⌉ := ⟨_, rfl⟩
    obtain ⟨before, behind⟩ := Int.ceil_eq_iff.mp nextIs.symm
    rw [lt_div_iff₀ widthPos] at before
    rw [div_le_iff₀ widthPos] at behind
    have reached : numerator ≤ next * width := by
      exact_mod_cast behind
    have other : numerator ≠ next * width := by
      intro same
      exact divides ⟨next, by rw [same, mul_comm]⟩
    have apart : (next - 1) * width < numerator := by
      exact_mod_cast before
    rw [← nextIs]
    exact rounding.ceil_of_apart positive exact wide int apart (by omega)

end TwitterClone.Foundation
