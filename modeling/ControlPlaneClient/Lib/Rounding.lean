import Mathlib

/-!
# Rounding to nearest

Rationals rounded to an integer, and to a number of binary digits, as floating-point operations round
within their normal range. Ties go to even. One rounding is off by at most half a unit in the last of
the digits. `Near` counts the roundings that a result has behind it.
-/

namespace Rounding

/-- The nearest integer, the even one of two that are as near. -/
def toEven (x : ℚ) : ℤ :=
  if Int.fract x < 1 / 2 then ⌊x⌋
  else if 1 / 2 < Int.fract x then ⌊x⌋ + 1
  else if ⌊x⌋ % 2 = 0 then ⌊x⌋
  else ⌊x⌋ + 1

/-- The distance between two numbers of `p` binary digits next to `x`. -/
def unit (p : ℕ) (x : ℚ) : ℚ := 2 ^ (Int.log 2 |x| + 1 - p)

/-- The nearest number of `p` binary digits. -/
def toDigits (p : ℕ) (x : ℚ) : ℚ := toEven (x / unit p x) * unit p x

lemma abs_toEven_sub_le (x : ℚ) : |(toEven x : ℚ) - x| ≤ 1 / 2 := by
  have hsplit := Int.floor_add_fract x
  have hlow := Int.fract_nonneg x
  have hhigh := Int.fract_lt_one x
  rw [abs_le]
  unfold toEven
  split_ifs with hbelow habove heven
  · constructor <;> linarith
  · push_cast
    constructor <;> linarith
  · constructor <;> linarith
  · push_cast
    constructor <;> linarith

lemma toEven_nonneg {x : ℚ} (h : 0 ≤ x) : 0 ≤ toEven x := by
  have hfloor := Int.floor_nonneg.mpr h
  unfold toEven
  split_ifs <;> omega

lemma unit_pos (p : ℕ) (x : ℚ) : 0 < unit p x := zpow_pos two_pos _

/-- Half a unit is a small part of the number itself. -/
lemma unit_le {x : ℚ} (hx : x ≠ 0) (p : ℕ) : unit p x / 2 ≤ |x| / 2 ^ p := by
  have hlog : (2 : ℚ) ^ Int.log 2 |x| ≤ |x| := by
    exact_mod_cast Int.zpow_log_le_self Nat.one_lt_two (abs_pos.mpr hx)
  have hunit : unit p x / 2 = 2 ^ Int.log 2 |x| / 2 ^ p := by
    rw [unit, zpow_sub₀ two_ne_zero, zpow_add₀ two_ne_zero, zpow_one, zpow_natCast]
    ring
  rw [hunit]
  exact div_le_div_of_nonneg_right hlog (by positivity)

lemma abs_toDigits_sub_le (p : ℕ) (x : ℚ) : |toDigits p x - x| ≤ |x| / 2 ^ p := by
  by_cases hx : x = 0
  · subst hx
    simp [toDigits, toEven]
  · have hunit := unit_pos p x
    have hscaled : toDigits p x - x = (toEven (x / unit p x) - x / unit p x) * unit p x := by
      rw [toDigits, sub_mul, div_mul_cancel₀ _ hunit.ne']
    calc |toDigits p x - x|
        = |(toEven (x / unit p x) : ℚ) - x / unit p x| * unit p x := by
          rw [hscaled, abs_mul, abs_of_pos hunit]
      _ ≤ 1 / 2 * unit p x := mul_le_mul_of_nonneg_right (abs_toEven_sub_le _) hunit.le
      _ = unit p x / 2 := by ring
      _ ≤ |x| / 2 ^ p := unit_le hx p

/-! ### Several roundings -/

/-- `y` is `x` after `n` roundings, each with an error of at most `u` for one. -/
structure Near (u : ℚ) (n : ℕ) (x y : ℚ) : Prop where
  lower : (1 - u) ^ n * x ≤ y
  upper : y ≤ (1 + u) ^ n * x

namespace Near

variable {u x y x' y' : ℚ} {n m : ℕ}

lemma refl (u x : ℚ) : Near u 0 x x := ⟨by simp, by simp⟩

lemma nonneg (h : Near u n x y) (hu : u ≤ 1) (hx : 0 ≤ x) : 0 ≤ y :=
  (mul_nonneg (pow_nonneg (sub_nonneg.mpr hu) n) hx).trans h.lower

lemma add (h : Near u n x y) (h' : Near u n x' y') : Near u n (x + x') (y + y') := by
  constructor
  · rw [mul_add]
    exact add_le_add h.lower h'.lower
  · rw [mul_add]
    exact add_le_add h.upper h'.upper

lemma mul_right (h : Near u n x y) {c : ℚ} (hc : 0 ≤ c) : Near u n (x * c) (y * c) := by
  constructor
  · rw [← mul_assoc]
    exact mul_le_mul_of_nonneg_right h.lower hc
  · rw [← mul_assoc]
    exact mul_le_mul_of_nonneg_right h.upper hc

/-- One more rounding. -/
lemma toDigits {p : ℕ} (h : Near (1 / 2 ^ p) n x y) (hx : 0 ≤ x) :
    Near (1 / 2 ^ p) (n + 1) x (toDigits p y) := by
  have hu : (1 : ℚ) / 2 ^ p ≤ 1 := by
    rw [div_le_one (by positivity)]
    exact one_le_pow₀ one_le_two
  have hy := h.nonneg hu hx
  have hround := abs_toDigits_sub_le p y
  rw [abs_of_nonneg hy, abs_le, ← one_div_mul_eq_div] at hround
  constructor
  · calc (1 - 1 / 2 ^ p) ^ (n + 1) * x = (1 - 1 / 2 ^ p) * ((1 - 1 / 2 ^ p) ^ n * x) := by ring
      _ ≤ (1 - 1 / 2 ^ p) * y := mul_le_mul_of_nonneg_left h.lower (sub_nonneg.mpr hu)
      _ ≤ Rounding.toDigits p y := by linarith [hround.1]
  · calc Rounding.toDigits p y ≤ (1 + 1 / 2 ^ p) * y := by linarith [hround.2]
      _ ≤ (1 + 1 / 2 ^ p) * ((1 + 1 / 2 ^ p) ^ n * x) :=
          mul_le_mul_of_nonneg_left h.upper (by positivity)
      _ = (1 + 1 / 2 ^ p) ^ (n + 1) * x := by ring

/-- Three roundings are off by no more than four errors. -/
lemma abs_sub_le (h : Near u 3 x y) (hx : 0 ≤ x) (hu : 0 ≤ u) (hsmall : u ≤ 1 / 4) :
    |y - x| ≤ 4 * u * x := by
  have hsquare : u ^ 2 ≤ 1 / 4 * u := by
    rw [pow_two]
    exact mul_le_mul_of_nonneg_right hsmall hu
  have hcube : u ^ 3 ≤ 1 / 4 * u ^ 2 := by
    rw [pow_succ']
    exact mul_le_mul_of_nonneg_right hsmall (sq_nonneg u)
  have hup : (1 + u) ^ 3 ≤ 1 + 4 * u := by
    calc (1 + u) ^ 3 = 1 + 3 * u + 3 * u ^ 2 + u ^ 3 := by ring
      _ ≤ 1 + 4 * u := by linarith
  have hdown : 1 - 4 * u ≤ (1 - u) ^ 3 := by
    calc 1 - 4 * u ≤ 1 - 3 * u + 3 * u ^ 2 - u ^ 3 := by linarith [sq_nonneg u]
      _ = (1 - u) ^ 3 := by ring
  have hlower := (mul_le_mul_of_nonneg_right hdown hx).trans h.lower
  have hupper := h.upper.trans (mul_le_mul_of_nonneg_right hup hx)
  rw [abs_le]
  constructor <;> linarith

end Near

end Rounding
