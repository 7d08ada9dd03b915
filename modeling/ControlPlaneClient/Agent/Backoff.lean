import ControlPlaneClient.Lib.Rounding
import ControlPlaneClient.Wire

/-!
# Backoff

`Backoff` of `backoff.rs`. The jitter factor is an argument, any rational number that the caller
draws. The product with it is exact in `nextDelay`, and rounded as the source rounds it in
`nextDelayF64`. The second is the first up to that rounding while the largest delay leaves room for
the product in a `Duration`.
-/

namespace ControlPlaneClient

structure Backoff where
  initial : Duration
  max     : Duration
  jitter  : Bool
  /-- A `u32`. -/
  attempt : ℕ

namespace Backoff

def new (initial max : Duration) (jitter : Bool) : Backoff := ⟨initial, max, jitter, 0⟩

/-- The delay before the jitter. -/
def bounded (b : Backoff) : Duration :=
  -- The exponent is capped to avoid an explosion.
  min (b.initial.saturatingMul (2 ^ min b.attempt 20)) b.max

/-- The next delay; bumps the attempt counter. The delay is the exact product. That of the source is
computed with `f64`s and rounded to nanoseconds, and from 2^64 seconds on the source panics: that is
`nextDelayF64`. -/
def nextDelay (b : Backoff) (factor : ℚ) : ℚ × Backoff :=
  (if b.jitter then factor * b.bounded else b.bounded,
    { b with attempt := min (b.attempt + 1) (2 ^ 32 - 1) })

def reset (b : Backoff) : Backoff := { b with attempt := 0 }

end Backoff

/-- The delay after `k` failures, without jitter. -/
def backoffDelay (initial max : Duration) (k : ℕ) : Duration := min (initial * 2 ^ min k 20) max

/-- The product saturates only where it is cut to `max` anyway. -/
lemma Backoff.bounded_eq {b : Backoff} (h : b.max ≤ Duration.max) :
    b.bounded = backoffDelay b.initial b.max b.attempt := by
  rw [bounded, Duration.saturatingMul, min_assoc, min_eq_right h, backoffDelay]

/-- The counter of the failures stops at the largest `u32`. -/
lemma attempt_succ (n : ℕ) :
    min (min n (2 ^ 32 - 1) + 1) (2 ^ 32 - 1) = min (n + 1) (2 ^ 32 - 1) := by
  omega

section Delay

variable {initial max : Duration}

/-- The exponent stops long before the counter does. -/
lemma Backoff.bounded_of_failures (h : max ≤ Duration.max) (n : ℕ) :
    Backoff.bounded ⟨initial, max, true, min n (2 ^ 32 - 1)⟩ = backoffDelay initial max n := by
  have hcap : min (min n (2 ^ 32 - 1)) 20 = min n 20 := by omega
  rw [bounded_eq h]
  simp only [backoffDelay, hcap]

lemma backoffDelay_eq_zero (h : initial = 0 ∨ max = 0) (k : ℕ) : backoffDelay initial max k = 0 := by
  rcases h with rfl | rfl
  · rw [backoffDelay, Nat.zero_mul, Nat.zero_min]
  · exact Nat.min_zero _

/-- An initial delay that is already the largest stays it. -/
lemma backoffDelay_eq_max (h : max ≤ initial) (k : ℕ) : backoffDelay initial max k = max :=
  min_eq_right (h.trans (Nat.le_mul_of_pos_right initial (Nat.two_pow_pos _)))

/-- With room to grow, the first failure already lengthens the delay. -/
lemma backoffDelay_ne {k : ℕ} (hpos : 0 < initial) (hlt : initial < max) (hk : k ≠ 0) :
    backoffDelay initial max k ≠ backoffDelay initial max 0 := by
  have hzero : backoffDelay initial max 0 = initial := by
    rw [backoffDelay, Nat.zero_min, Nat.pow_zero, Nat.mul_one, min_eq_left hlt.le]
  have hgrows : initial < initial * 2 ^ min k 20 :=
    lt_mul_of_one_lt_right hpos (Nat.one_lt_two_pow (by omega))
  rw [hzero, backoffDelay]
  exact (lt_min hgrows hlt).ne'

end Delay

/-! ### The product in `f64` -/

/-- The result of an operation on `f64`s that is zero or within their normal range. -/
def f64 (x : ℚ) : ℚ := Rounding.toDigits 53 x

/-- `Duration::as_secs_f64`. -/
def Duration.asSecsF64 (d : Duration) : ℚ :=
  f64 (f64 ((d / nanosPerSec : ℕ) : ℚ) + f64 (((d % nanosPerSec : ℕ) : ℚ) / nanosPerSec))

/-- `Duration::from_secs_f64`. It panics on what no `Duration` can hold. -/
def Duration.fromSecsF64 (x : ℚ) : Option Duration :=
  if 0 ≤ x ∧ x < 2 ^ 64 then some (Rounding.toEven (x * nanosPerSec)).toNat else none

/-- A delay with its jitter. -/
def jittered (d : Duration) (factor : ℚ) : Option Duration :=
  Duration.fromSecsF64 (f64 (d.asSecsF64 * factor))

/-- `nextDelay` as the source computes it, and nothing where the source panics. -/
def Backoff.nextDelayF64 (b : Backoff) (factor : ℚ) : Option (Duration × Backoff) := do
  let delay ← if b.jitter then jittered b.bounded factor else some b.bounded
  some (delay, { b with attempt := min (b.attempt + 1) (2 ^ 32 - 1) })

section F64

open Rounding

variable {d : Duration} {factor : ℚ}

lemma near_asSecsF64 (d : Duration) : Near (1 / 2 ^ 53) 2 (d / nanosPerSec : ℚ) d.asSecsF64 := by
  have hsecs : Near (1 / 2 ^ 53) 1 ((d / nanosPerSec : ℕ) : ℚ) (f64 ((d / nanosPerSec : ℕ) : ℚ)) :=
    (Near.refl _ _).toDigits (Nat.cast_nonneg _)
  have hnanos : Near (1 / 2 ^ 53) 1 (((d % nanosPerSec : ℕ) : ℚ) / nanosPerSec)
      (f64 (((d % nanosPerSec : ℕ) : ℚ) / nanosPerSec)) :=
    (Near.refl _ _).toDigits (by positivity)
  have hsum : (d / nanosPerSec : ℚ) =
      ((d / nanosPerSec : ℕ) : ℚ) + ((d % nanosPerSec : ℕ) : ℚ) / nanosPerSec := by
    have hd : (d : ℚ) = nanosPerSec * ((d / nanosPerSec : ℕ) : ℚ) + ((d % nanosPerSec : ℕ) : ℚ) := by
      exact_mod_cast (Nat.div_add_mod d nanosPerSec).symm
    rw [hd]
    norm_num [nanosPerSec]
    ring
  rw [hsum]
  exact (hsecs.add hnanos).toDigits (by positivity)

/-- What a `Duration` can hold is rounded to the nearest nanosecond. -/
lemma fromSecsF64_near {x : ℚ} (hpos : 0 ≤ x) (hroom : x < 2 ^ 64) :
    ∃ j, Duration.fromSecsF64 x = some j ∧ |(j : ℚ) - x * nanosPerSec| ≤ 1 / 2 := by
  have hcast : (((toEven (x * nanosPerSec)).toNat : ℕ) : ℚ) = toEven (x * nanosPerSec) := by
    exact_mod_cast Int.toNat_of_nonneg (toEven_nonneg (by positivity))
  refine ⟨_, if_pos ⟨hpos, hroom⟩, ?_⟩
  rw [hcast]
  exact abs_toEven_sub_le _

/-- With room for the product there is no panic, and the rounding is half a nanosecond and a small
part of the product. -/
lemma jittered_near (hd : d ≤ Duration.ofSecs (2 ^ 63)) (hlow : 0 ≤ factor) (hhigh : factor ≤ 5 / 4) :
    ∃ j, jittered d factor = some j ∧ |(j : ℚ) - factor * d| ≤ 1 / 2 + factor * d / 2 ^ 51 := by
  have hnanos : (0 : ℚ) < nanosPerSec := by norm_num [nanosPerSec]
  obtain ⟨secs, hsecs⟩ : ∃ secs : ℚ, secs = d / nanosPerSec * factor := ⟨_, rfl⟩
  have hnonneg : 0 ≤ secs := by
    rw [hsecs]
    positivity
  have hnear : Near (1 / 2 ^ 53) 3 secs (f64 (d.asSecsF64 * factor)) :=
    hsecs ▸ ((near_asSecsF64 d).mul_right hlow).toDigits (by positivity)
  have herror := hnear.abs_sub_le hnonneg (by norm_num) (by norm_num)
  have hroom : f64 (d.asSecsF64 * factor) < 2 ^ 64 := by
    have hle : (d : ℚ) / nanosPerSec ≤ 2 ^ 63 := by
      rw [div_le_iff₀ hnanos]
      exact_mod_cast hd
    have hprod : secs ≤ 2 ^ 63 * (5 / 4) := hsecs ▸ mul_le_mul hle hhigh hlow (by norm_num)
    linarith [(abs_le.mp herror).2]
  obtain ⟨j, hj, hnearest⟩ := fromSecsF64_near (hnear.nonneg (by norm_num) hnonneg) hroom
  refine ⟨j, hj, ?_⟩
  have hexact : factor * d = secs * nanosPerSec := by
    rw [hsecs, mul_right_comm, div_mul_cancel₀ _ hnanos.ne', mul_comm]
  have hscaled : |f64 (d.asSecsF64 * factor) * nanosPerSec - secs * nanosPerSec| ≤
      secs * nanosPerSec / 2 ^ 51 := by
    rw [← sub_mul, abs_mul, abs_of_pos hnanos]
    calc |f64 (d.asSecsF64 * factor) - secs| * nanosPerSec
        ≤ 4 * (1 / 2 ^ 53) * secs * nanosPerSec := mul_le_mul_of_nonneg_right herror hnanos.le
      _ = secs * nanosPerSec / 2 ^ 51 := by ring
  rw [hexact]
  exact (abs_sub_le _ _ _).trans (add_le_add hnearest hscaled)

/-- What the source rounds differs that little from the exact product. -/
lemma Backoff.nextDelayF64_near {b : Backoff} (hmax : b.max ≤ Duration.ofSecs (2 ^ 63))
    (hlow : 0 ≤ factor) (hhigh : factor ≤ 5 / 4) :
    ∃ j, b.nextDelayF64 factor = some (j, (b.nextDelay factor).2) ∧
      |(j : ℚ) - (b.nextDelay factor).1| ≤ 1 / 2 + (b.nextDelay factor).1 / 2 ^ 51 := by
  have hbounded : b.bounded ≤ Duration.ofSecs (2 ^ 63) := (Nat.min_le_right _ _).trans hmax
  cases hjitter : b.jitter with
  | true =>
    obtain ⟨j, hj, herror⟩ := jittered_near hbounded hlow hhigh
    refine ⟨j, by simp [nextDelayF64, nextDelay, hjitter, hj], ?_⟩
    simpa [nextDelay, hjitter] using herror
  | false =>
    refine ⟨b.bounded, by simp [nextDelayF64, nextDelay, hjitter], ?_⟩
    simp only [nextDelay, hjitter, Bool.false_eq_true, if_false, sub_self, abs_zero]
    positivity

end F64

end ControlPlaneClient
