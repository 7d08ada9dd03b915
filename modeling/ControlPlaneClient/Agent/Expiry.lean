import ControlPlaneClient.Agent.Token

/-!
# The expiry test at the limits of its integers

`expires_within` compares a difference of two `i64`s, which saturates, with the whole seconds of a
window, which are a `u64` and wrap when they are cast. The window is three heartbeats, by a
multiplication that saturates at `Duration::MAX`. Below 2^63 - 1 seconds in three heartbeats none of
it shows. At that number a difference that saturates equals the window. From 2^63 seconds on the
window is negative after the cast, and a token that expires now counts as fresh.
-/

namespace ControlPlaneClient

variable {heartbeat : Duration}

/-- `expires_within` as the run loop calls it, for a token with an `exp`. -/
def refreshDue (exp now : Int64) (heartbeat : Duration) : Bool :=
  expiresWithin (some exp.toInt) now.toInt (tokenRefreshWindow heartbeat)

/-- The whole seconds of the refresh window. -/
def windowSecs (heartbeat : Duration) : ℕ := (tokenRefreshWindow heartbeat).asSecs

/-- The test says what it would over unbounded integers. -/
def DueExact (exp now : Int64) (heartbeat : Duration) : Prop :=
  refreshDue exp now heartbeat = true ↔ exp.toInt - now.toInt ≤ windowSecs heartbeat

/-! ### The window -/

/-- The whole seconds in three heartbeats, as far as a `u64` goes. -/
def tripleSecs (heartbeat : Duration) : ℕ := min (heartbeat * 3 / nanosPerSec) (2 ^ 64 - 1)

lemma windowSecs_eq (heartbeat : Duration) : windowSecs heartbeat = max 300 (tripleSecs heartbeat) := by
  have hmono : Monotone Duration.asSecs := fun _ _ h => Nat.div_le_div_right h
  rw [windowSecs, tokenRefreshWindow, hmono.map_max, Duration.saturatingMul, hmono.map_min]
  rfl

lemma tripleSecs_lt (heartbeat : Duration) : tripleSecs heartbeat < 2 ^ 64 :=
  (min_le_right _ _).trans_lt (by norm_num)

lemma tripleSecs_lt_iff {n : ℕ} (hn : n < 2 ^ 64) :
    tripleSecs heartbeat < n ↔ heartbeat * 3 < Duration.ofSecs n := by
  rw [tripleSecs, min_lt_iff, Nat.div_lt_iff_lt_mul (by decide), Duration.ofSecs]
  exact or_iff_left (by omega)

lemma tripleSecs_mono {longer : Duration} (h : heartbeat ≤ longer) :
    tripleSecs heartbeat ≤ tripleSecs longer :=
  min_le_min_right _ (Nat.div_le_div_right (Nat.mul_le_mul_right 3 h))

/-! ### The test -/

lemma refreshDue_iff {exp now : Int64} :
    refreshDue exp now heartbeat = true ↔
      clampI64 (exp.toInt - now.toInt) ≤ asI64 (windowSecs heartbeat) := by
  rw [refreshDue, expiresWithin, decide_eq_true_iff, saturatingSubI64, windowSecs]

/-- A window that fits is compared as it is, and at the top every difference is within it. -/
lemma refreshDue_iff_of_lt {exp now : Int64} (h : tripleSecs heartbeat < 2 ^ 63) :
    refreshDue exp now heartbeat = true ↔
      exp.toInt - now.toInt ≤ windowSecs heartbeat ∨ tripleSecs heartbeat = 2 ^ 63 - 1 := by
  have hw := windowSecs_eq heartbeat
  rw [refreshDue_iff, asI64_eq (by omega), clampI64_le_iff (by rw [i64Min]; omega), i64Max]
  omega

/-- A window that does not fit is compared as a negative number. -/
lemma refreshDue_iff_of_le {exp now : Int64} (h : 2 ^ 63 ≤ tripleSecs heartbeat) :
    refreshDue exp now heartbeat = true ↔
      exp.toInt - now.toInt ≤ (tripleSecs heartbeat : ℤ) - 2 ^ 64 := by
  have hw : windowSecs heartbeat = tripleSecs heartbeat := by
    rw [windowSecs_eq]
    omega
  have hlt := tripleSecs_lt heartbeat
  rw [refreshDue_iff, hw, asI64_wraps h hlt, clampI64_le_iff (by rw [i64Min]; omega), i64Max]
  omega

/-- When the test is exact for a given token: the window fits below the top, or is the top and the
difference does not saturate, or has wrapped and the difference is not between what it became and
what it was. -/
def WithinLimits (exp now : Int64) (heartbeat : Duration) : Prop :=
  tripleSecs heartbeat < 2 ^ 63 - 1 ∨
    (tripleSecs heartbeat = 2 ^ 63 - 1 ∧ exp.toInt - now.toInt < 2 ^ 63) ∨
    (2 ^ 63 ≤ tripleSecs heartbeat ∧
      (exp.toInt - now.toInt ≤ (tripleSecs heartbeat : ℤ) - 2 ^ 64 ∨
        (tripleSecs heartbeat : ℤ) < exp.toInt - now.toInt))

lemma dueExact_iff (exp now : Int64) (heartbeat : Duration) :
    DueExact exp now heartbeat ↔ WithinLimits exp now heartbeat := by
  have hw := windowSecs_eq heartbeat
  rw [DueExact, WithinLimits]
  rcases Nat.lt_or_ge (tripleSecs heartbeat) (2 ^ 63) with h | h
  · rw [refreshDue_iff_of_lt h]
    omega
  · rw [refreshDue_iff_of_le h]
    omega

/-! ### All tokens -/

lemma forall_dueExact_iff (heartbeat : Duration) :
    (∀ exp now, DueExact exp now heartbeat) ↔ heartbeat * 3 < Duration.ofSecs (2 ^ 63 - 1) := by
  have hlt := tripleSecs_lt heartbeat
  have hzero : (0 : Int64).toInt = 0 := rfl
  have hmax : Int64.maxValue.toInt = 2 ^ 63 - 1 := rfl
  have hmin : Int64.minValue.toInt = -2 ^ 63 := rfl
  rw [← tripleSecs_lt_iff (by norm_num)]
  constructor
  · intro h
    -- A token that expires now shows a window that wrapped, the longest validity one at the top.
    have hnow := (dueExact_iff 0 0 heartbeat).mp (h 0 0)
    have hfar := (dueExact_iff Int64.maxValue Int64.minValue heartbeat).mp (h _ _)
    rw [WithinLimits, hzero] at hnow
    rw [WithinLimits, hmax, hmin] at hfar
    omega
  · intro h exp now
    exact (dueExact_iff exp now heartbeat).mpr (Or.inl h)

/-- A token that expires now, or expired, is replaced as long as the window does not wrap. -/
lemma refreshDue_of_le {exp now : Int64} (h : tripleSecs heartbeat < 2 ^ 63)
    (hpast : exp.toInt ≤ now.toInt) : refreshDue exp now heartbeat = true := by
  rw [refreshDue_iff_of_lt h]
  left
  omega

lemma not_refreshDue_now (h : 2 ^ 63 ≤ tripleSecs heartbeat) (now : Int64) :
    ¬ refreshDue now now heartbeat = true := by
  have hlt := tripleSecs_lt heartbeat
  rw [refreshDue_iff_of_le h]
  omega

lemma forall_past_refreshDue_iff (heartbeat : Duration) :
    (∀ exp now : Int64, exp.toInt ≤ now.toInt → refreshDue exp now heartbeat = true) ↔
      heartbeat * 3 < Duration.ofSecs (2 ^ 63) := by
  rw [← tripleSecs_lt_iff (by norm_num)]
  constructor
  · intro h
    by_contra hle
    exact not_refreshDue_now (not_lt.mp hle) 0 (h 0 0 le_rfl)
  · intro h exp now hpast
    exact refreshDue_of_le h hpast

lemma forall_refreshDue_mono_iff {longer : Duration} (hle : heartbeat ≤ longer) :
    (∀ exp now, refreshDue exp now heartbeat = true → refreshDue exp now longer = true) ↔
      longer * 3 < Duration.ofSecs (2 ^ 63) ∨ Duration.ofSecs (2 ^ 63) ≤ heartbeat * 3 := by
  have hmono := tripleSecs_mono hle
  rw [← not_lt, ← tripleSecs_lt_iff (by norm_num), ← tripleSecs_lt_iff (by norm_num)]
  constructor
  · intro h
    by_contra hcross
    rw [not_or, not_not] at hcross
    exact not_refreshDue_now (not_lt.mp hcross.1) 0 (h 0 0 (refreshDue_of_le hcross.2 le_rfl))
  · rintro (hfits | hwraps) exp now hdue
    · have hw := windowSecs_eq heartbeat
      have hw' := windowSecs_eq longer
      rw [refreshDue_iff_of_lt (hmono.trans_lt hfits)] at hdue
      rw [refreshDue_iff_of_lt hfits]
      omega
    · rw [not_lt] at hwraps
      rw [refreshDue_iff_of_le hwraps] at hdue
      rw [refreshDue_iff_of_le (hwraps.trans hmono)]
      omega

/-- When the test is exact: for one token, for all of them, for those that expired, and when the
heartbeat gets longer. -/
theorem refreshDue_exact_iff (heartbeat : Duration) :
    (∀ exp now, DueExact exp now heartbeat ↔ WithinLimits exp now heartbeat) ∧
      ((∀ exp now, DueExact exp now heartbeat) ↔
        heartbeat * 3 < Duration.ofSecs (2 ^ 63 - 1)) ∧
      ((∀ exp now : Int64, exp.toInt ≤ now.toInt → refreshDue exp now heartbeat = true) ↔
        heartbeat * 3 < Duration.ofSecs (2 ^ 63)) ∧
      ∀ longer, heartbeat ≤ longer →
        ((∀ exp now, refreshDue exp now heartbeat = true → refreshDue exp now longer = true) ↔
          longer * 3 < Duration.ofSecs (2 ^ 63) ∨ Duration.ofSecs (2 ^ 63) ≤ heartbeat * 3) :=
  ⟨fun exp now => dueExact_iff exp now heartbeat, forall_dueExact_iff heartbeat,
    forall_past_refreshDue_iff heartbeat, fun _ hle => forall_refreshDue_mono_iff hle⟩

/-- At the longest heartbeat a token that expires now is within the window and counts as fresh, though
with a heartbeat of 30 seconds it is replaced. -/
theorem expiring_token_counts_as_fresh :
    ¬ DueExact 1000 1000 Duration.max ∧
      refreshDue 1000 1000 Duration.max = false ∧
      refreshDue 1000 1000 (Duration.ofSecs 30) = true := by
  refine ⟨?_, by decide, by decide⟩
  intro h
  exact absurd (h.mpr (by decide)) (by decide)

end ControlPlaneClient
