import ControlPlaneClient.Agent.Backoff

/-!
# Retried registrations

`retry_with_backoff` of `agent.rs`, which a registration goes through. What the attempts give and the
jitter factors are sequences, and there is no last attempt: the loop is run with fuel. The delays are
those that the source computes, so a largest delay that leaves no room for the jitter makes the loop
panic. So does its counter of the attempts, a `u32` that is only logged, in a build with overflow
checks; in one without them the counter wraps.
-/

namespace ControlPlaneClient

variable {T : Type}

/-- What has come of `retry_with_backoff`. -/
inductive RetryOutcome (T : Type)
  /-- The fuel is used up. -/
  | running
  | returned (v : T) (slept : List Duration)
  | panicked
  deriving DecidableEq

/-- The outcome, with a sleep before it. -/
def RetryOutcome.after (delay : Duration) : RetryOutcome T → RetryOutcome T
  | .returned v slept => .returned v (delay :: slept)
  | outcome           => outcome

/-- The increment of the counter panics after `n` attempts. `checks` says how the code was built. -/
def attemptOverflows (checks : Bool) (n : ℕ) : Bool := checks && decide (2 ^ 32 ≤ n + 1)

/-- The loop after `n` attempts that failed: the value of the first one that succeeds, and what is
slept before it. -/
def retryRounds (checks : Bool) (op : ℕ → Option T) (factor : ℕ → ℚ) :
    ℕ → Backoff → ℕ → RetryOutcome T
  | 0, _, _ => .running
  | fuel + 1, b, n =>
    if attemptOverflows checks n then .panicked
    else
      match op n with
      | some v => .returned v []
      | none   =>
        match b.nextDelayF64 (factor n) with
        | some (delay, b) => (retryRounds checks op factor fuel b (n + 1)).after delay
        | none            => .panicked

/-- `retry_with_backoff`. -/
def retryWithBackoff (checks : Bool) (initial max : Duration) (op : ℕ → Option T) (factor : ℕ → ℚ)
    (fuel : ℕ) : RetryOutcome T :=
  retryRounds checks op factor fuel (.new initial max true) 0

/-- The sleep after the failure of attempt `i`. -/
def retryDelay (initial max : Duration) (factor : ℕ → ℚ) (i : ℕ) : Option Duration :=
  jittered (backoffDelay initial max i) (factor i)

lemma RetryOutcome.after_eq_returned_iff {delay : Duration} {o : RetryOutcome T} {v : T}
    {slept : List Duration} :
    o.after delay = .returned v slept ↔ ∃ rest, o = .returned v rest ∧ slept = delay :: rest := by
  cases o with
  | returned w rest =>
    simp only [after, returned.injEq]
    constructor
    · rintro ⟨rfl, rfl⟩
      exact ⟨rest, ⟨rfl, rfl⟩, rfl⟩
    · rintro ⟨_, ⟨rfl, rfl⟩, rfl⟩
      exact ⟨rfl, rfl⟩
  | running | panicked => simp [after]

lemma RetryOutcome.after_ne_panicked {delay : Duration} {o : RetryOutcome T} (h : o ≠ .panicked) :
    o.after delay ≠ .panicked := by
  cases o with
  | panicked => exact absurd rfl h
  | running | returned v slept => nofun

lemma attemptOverflows_eq_false_iff {checks : Bool} {n : ℕ} :
    attemptOverflows checks n = false ↔ (checks = true → n < 2 ^ 32 - 1) := by
  cases checks with
  | false => simp [attemptOverflows]
  | true =>
    simp only [attemptOverflows, Bool.true_and, decide_eq_false_iff_not, true_implies]
    omega

lemma attemptOverflows_mono {checks : Bool} {n m : ℕ} (h : attemptOverflows checks m = false)
    (hle : n ≤ m) : attemptOverflows checks n = false := by
  rw [attemptOverflows_eq_false_iff] at h ⊢
  exact fun hchecks => hle.trans_lt (h hchecks)

section Retry

variable {checks : Bool} {initial max : Duration} {op : ℕ → Option T} {factor : ℕ → ℚ}

/-- The backoff after `n` failures. -/
def retryBackoff (initial max : Duration) (n : ℕ) : Backoff :=
  ⟨initial, max, true, min n (2 ^ 32 - 1)⟩

lemma nextDelayF64_retryBackoff (hmax : max ≤ Duration.max) (n : ℕ) (f : ℚ) :
    (retryBackoff initial max n).nextDelayF64 f =
      (jittered (backoffDelay initial max n) f).map fun d => (d, retryBackoff initial max (n + 1)) := by
  have hbounded : (retryBackoff initial max n).bounded = backoffDelay initial max n :=
    Backoff.bounded_of_failures hmax n
  rw [Backoff.nextDelayF64, hbounded]
  simp only [retryBackoff, attempt_succ, if_true]
  cases jittered (backoffDelay initial max n) f <;> rfl

lemma retryRounds_succ (hmax : max ≤ Duration.max) {n : ℕ}
    (hcount : attemptOverflows checks n = false) (fuel : ℕ) :
    retryRounds checks op factor (fuel + 1) (retryBackoff initial max n) n =
      match op n, retryDelay initial max factor n with
      | some v, _      => .returned v []
      | none, some d   =>
        (retryRounds checks op factor fuel (retryBackoff initial max (n + 1)) (n + 1)).after d
      | none, none     => .panicked := by
  rw [retryRounds, if_neg (by rw [hcount]; nofun), nextDelayF64_retryBackoff hmax, ← retryDelay]
  cases op n with
  | some v => rfl
  | none => cases retryDelay initial max factor n <;> rfl

/-- From attempt `n` on, `k` fail with a sleep after each, and the next one gives `v`. -/
structure SucceedsAfter (checks : Bool) (initial max : Duration) (op : ℕ → Option T) (factor : ℕ → ℚ)
    (n k : ℕ) (v : T) (slept : List Duration) : Prop where
  counted  : attemptOverflows checks (n + k) = false
  success  : op (n + k) = some v
  failures : ∀ i < k, op (n + i) = none
  sleeps   : slept.map some = (List.range k).map fun i => retryDelay initial max factor (n + i)

lemma succeedsAfter_zero {n : ℕ} {v : T} {slept : List Duration} :
    SucceedsAfter checks initial max op factor n 0 v slept ↔
      attemptOverflows checks n = false ∧ op n = some v ∧ slept = [] := by
  constructor
  · intro h
    exact ⟨h.counted, h.success, List.map_eq_nil_iff.mp h.sleeps⟩
  · rintro ⟨hcount, hv, rfl⟩
    exact ⟨hcount, hv, nofun, rfl⟩

lemma succeedsAfter_succ {n k : ℕ} {v : T} {slept : List Duration} :
    SucceedsAfter checks initial max op factor n (k + 1) v slept ↔
      op n = none ∧ ∃ d rest, retryDelay initial max factor n = some d ∧ slept = d :: rest ∧
        SucceedsAfter checks initial max op factor (n + 1) k v rest := by
  have hshift : ∀ i, n + 1 + i = n + (i + 1) := by
    intro i
    omega
  have hrange : (List.range (k + 1)).map (fun i => retryDelay initial max factor (n + i)) =
      retryDelay initial max factor n ::
        (List.range k).map fun i => retryDelay initial max factor (n + 1 + i) := by
    simp [List.range_succ_eq_map, Function.comp_def, hshift]
  constructor
  · rintro ⟨hcount, hv, hfails, hslept⟩
    refine ⟨hfails 0 (Nat.succ_pos k), ?_⟩
    rw [hrange] at hslept
    cases slept with
    | nil => cases hslept
    | cons d rest =>
      obtain ⟨hd, hrest⟩ := List.cons.inj hslept
      refine ⟨d, rest, hd.symm, rfl, hshift k ▸ hcount, hshift k ▸ hv, ?_, hrest⟩
      intro i hi
      rw [hshift]
      exact hfails (i + 1) (Nat.succ_lt_succ hi)
  · rintro ⟨hfirst, d, rest, hd, rfl, hcount, hv, hfails, hrest⟩
    refine ⟨hshift k ▸ hcount, hshift k ▸ hv, ?_, by rw [hrange, hd, List.map_cons, hrest]⟩
    intro i hi
    cases i with
    | zero => exact hfirst
    | succ i =>
      rw [← hshift]
      exact hfails i (Nat.lt_of_succ_lt_succ hi)

/-- The rounds from an attempt on. The induction is on the fuel; the first attempt is the one that
succeeds, or the others follow it. -/
lemma retryRounds_eq_returned_iff (hmax : max ≤ Duration.max) {fuel n : ℕ} {v : T}
    {slept : List Duration} :
    retryRounds checks op factor fuel (retryBackoff initial max n) n = .returned v slept ↔
      ∃ k < fuel, SucceedsAfter checks initial max op factor n k v slept := by
  induction fuel generalizing n slept with
  | zero =>
    constructor
    · nofun
    · rintro ⟨k, hk, -⟩
      exact absurd hk (Nat.not_lt_zero k)
  | succ fuel ih =>
    constructor
    · intro h
      cases hcount : attemptOverflows checks n with
      | true =>
        rw [retryRounds, if_pos hcount] at h
        cases h
      | false =>
        rw [retryRounds_succ hmax hcount] at h
        cases hop : op n with
        | some w =>
          rw [hop] at h
          cases h
          exact ⟨0, Nat.succ_pos fuel, succeedsAfter_zero.mpr ⟨hcount, hop, rfl⟩⟩
        | none =>
          cases hdelay : retryDelay initial max factor n with
          | none =>
            rw [hop, hdelay] at h
            cases h
          | some d =>
            rw [hop, hdelay] at h
            obtain ⟨rest, hrest, rfl⟩ := RetryOutcome.after_eq_returned_iff.mp h
            obtain ⟨k, hk, hafter⟩ := ih.mp hrest
            exact ⟨k + 1, Nat.succ_lt_succ hk,
              succeedsAfter_succ.mpr ⟨hop, d, rest, hdelay, rfl, hafter⟩⟩
    · rintro ⟨k, hk, hafter⟩
      rw [retryRounds_succ hmax (attemptOverflows_mono hafter.counted (Nat.le_add_right n k))]
      cases k with
      | zero =>
        obtain ⟨-, hv, rfl⟩ := succeedsAfter_zero.mp hafter
        rw [hv]
      | succ k =>
        obtain ⟨hop, d, rest, hdelay, rfl, hrest⟩ := succeedsAfter_succ.mp hafter
        rw [hop, hdelay]
        exact RetryOutcome.after_eq_returned_iff.mpr
          ⟨rest, ih.mpr ⟨k, Nat.lt_of_succ_lt_succ hk, hrest⟩, rfl⟩

lemma retryWithBackoff_eq_returned_iff (hmax : max ≤ Duration.max) {fuel : ℕ} {v : T}
    {slept : List Duration} :
    retryWithBackoff checks initial max op factor fuel = .returned v slept ↔
      ∃ k < fuel, (checks = true → k < 2 ^ 32 - 1) ∧ op k = some v ∧ (∀ i < k, op i = none) ∧
        slept.map some = (List.range k).map fun i => retryDelay initial max factor i := by
  have h : retryRounds checks op factor fuel (retryBackoff initial max 0) 0 = .returned v slept ↔ _ :=
    retryRounds_eq_returned_iff hmax
  refine h.trans (exists_congr fun k => and_congr_right fun _ => ?_)
  rw [← attemptOverflows_eq_false_iff]
  constructor
  · rintro ⟨hcount, hv, hfails, hslept⟩
    simp only [Nat.zero_add] at hcount hv hfails hslept
    exact ⟨hcount, hv, hfails, hslept⟩
  · rintro ⟨hcount, hv, hfails, hslept⟩
    refine ⟨?_, ?_, ?_, ?_⟩ <;> simpa only [Nat.zero_add]

/-- With room for the delays, and for the counter where it is checked, nothing panics. -/
lemma retryRounds_ne_panicked (hmax : max ≤ Duration.max)
    (hdelays : ∀ i, (retryDelay initial max factor i).isSome = true) {fuel n : ℕ}
    (hcount : checks = true → n + fuel < 2 ^ 32) :
    retryRounds checks op factor fuel (retryBackoff initial max n) n ≠ .panicked := by
  induction fuel generalizing n with
  | zero => nofun
  | succ fuel ih =>
    have hnow : attemptOverflows checks n = false := by
      rw [attemptOverflows_eq_false_iff]
      intro hchecks
      have := hcount hchecks
      omega
    rw [retryRounds_succ hmax hnow]
    cases op n with
    | some v => nofun
    | none =>
      obtain ⟨d, hd⟩ := Option.isSome_iff_exists.mp (hdelays n)
      rw [hd]
      refine RetryOutcome.after_ne_panicked (ih fun hchecks => ?_)
      rw [Nat.add_right_comm]
      exact hcount hchecks

/-- With enough fuel, and room for the delays, the loop returns exactly if an attempt succeeds that
the counter reaches. -/
lemma exists_retryWithBackoff_iff (hmax : max ≤ Duration.max)
    (hdelays : ∀ i, (retryDelay initial max factor i).isSome = true) :
    (∃ fuel v slept, retryWithBackoff checks initial max op factor fuel = .returned v slept) ↔
      ∃ k, (checks = true → k < 2 ^ 32 - 1) ∧ (op k).isSome = true := by
  constructor
  · rintro ⟨fuel, v, slept, h⟩
    obtain ⟨k, -, hcount, hv, -⟩ := (retryWithBackoff_eq_returned_iff hmax).mp h
    exact ⟨k, hcount, by rw [hv]; rfl⟩
  · rintro ⟨k, hcount, hk⟩
    -- The attempt that ends the loop is the first one that succeeds.
    have h : ∃ k, (op k).isSome = true := ⟨k, hk⟩
    obtain ⟨v, hv⟩ := Option.isSome_iff_exists.mp (Nat.find_spec h)
    have hbefore : ∀ i < Nat.find h, op i = none := by
      intro i hi
      simpa using Nat.find_min h hi
    have hle : Nat.find h ≤ k := Nat.find_min' h hk
    choose delay hdelay using fun i => Option.isSome_iff_exists.mp (hdelays i)
    refine ⟨Nat.find h + 1, v, (List.range (Nat.find h)).map delay, ?_⟩
    apply (retryWithBackoff_eq_returned_iff hmax).mpr
    exact ⟨Nat.find h, Nat.lt_succ_self _, fun hchecks => hle.trans_lt (hcount hchecks), hv, hbefore,
      by simp [hdelay]⟩

lemma backoffDelay_le (initial max : Duration) (k : ℕ) : backoffDelay initial max k ≤ max :=
  Nat.min_le_right _ _

/-- The sleep is the delay times the jitter factor, up to the rounding. -/
lemma retryDelay_near (hmax : max ≤ Duration.ofSecs (2 ^ 63)) (i : ℕ)
    (hfactor : 3 / 4 ≤ factor i ∧ factor i ≤ 5 / 4) :
    ∃ d, retryDelay initial max factor i = some d ∧
      |(d : ℚ) - factor i * backoffDelay initial max i| ≤
        1 / 2 + factor i * backoffDelay initial max i / 2 ^ 51 :=
  jittered_near ((backoffDelay_le initial max i).trans hmax)
    ((by norm_num : (0 : ℚ) ≤ 3 / 4).trans hfactor.1) hfactor.2

end Retry

/-- With a largest delay that leaves room for the jitter, `retry_with_backoff` panics only where its
counter is checked and overflows. It returns exactly if some attempt before that succeeds, and then
what the first such attempt gives. Before it, it has slept once after each failure: the delay of a
backoff of its own, that doubles up to the largest one, times the jitter factor, rounded. So no sleep
is longer than five quarters of the largest delay but for the rounding. -/
theorem retryWithBackoff_spec (checks : Bool) (initial max : Duration)
    (hmax : max ≤ Duration.ofSecs (2 ^ 63)) (op : ℕ → Option T) (factor : ℕ → ℚ)
    (hfactor : ∀ i, 3 / 4 ≤ factor i ∧ factor i ≤ 5 / 4) :
    (∀ fuel, (checks = true → fuel < 2 ^ 32) →
      retryWithBackoff checks initial max op factor fuel ≠ .panicked) ∧
    ((∃ fuel v slept, retryWithBackoff checks initial max op factor fuel = .returned v slept) ↔
      ∃ k, (checks = true → k < 2 ^ 32 - 1) ∧ (op k).isSome = true) ∧
    (∀ fuel v slept, retryWithBackoff checks initial max op factor fuel = .returned v slept ↔
      ∃ k < fuel, (checks = true → k < 2 ^ 32 - 1) ∧ op k = some v ∧ (∀ i < k, op i = none) ∧
        slept.map some =
          (List.range k).map fun i => jittered (backoffDelay initial max i) (factor i)) ∧
    (∀ i d, jittered (backoffDelay initial max i) (factor i) = some d →
      |(d : ℚ) - factor i * backoffDelay initial max i| ≤
        1 / 2 + factor i * backoffDelay initial max i / 2 ^ 51) ∧
    ∀ fuel v slept, retryWithBackoff checks initial max op factor fuel = .returned v slept →
      ∀ d ∈ slept, (d : ℚ) ≤ 5 / 4 * max * (1 + 1 / 2 ^ 51) + 1 / 2 := by
  have hmax' : max ≤ Duration.max := hmax.trans (by decide)
  have hnear : ∀ i, ∃ d, retryDelay initial max factor i = some d ∧
      |(d : ℚ) - factor i * backoffDelay initial max i| ≤
        1 / 2 + factor i * backoffDelay initial max i / 2 ^ 51 :=
    fun i => retryDelay_near hmax i (hfactor i)
  have hdelays : ∀ i, (retryDelay initial max factor i).isSome = true := by
    intro i
    obtain ⟨d, hd, -⟩ := hnear i
    rw [hd]
    rfl
  have hclose : ∀ i d, retryDelay initial max factor i = some d →
      |(d : ℚ) - factor i * backoffDelay initial max i| ≤
        1 / 2 + factor i * backoffDelay initial max i / 2 ^ 51 := by
    intro i d hd
    obtain ⟨j, hj, herror⟩ := hnear i
    rw [hd] at hj
    cases hj
    exact herror
  refine ⟨?_, exists_retryWithBackoff_iff hmax' hdelays,
    fun fuel v slept => retryWithBackoff_eq_returned_iff hmax', hclose, ?_⟩
  · intro fuel hcount
    refine retryRounds_ne_panicked (n := 0) hmax' hdelays ?_
    rw [Nat.zero_add]
    exact hcount
  · intro fuel v slept h d hd
    obtain ⟨k, -, -, -, -, hslept⟩ := (retryWithBackoff_eq_returned_iff hmax').mp h
    have hmem : some d ∈ (List.range k).map fun i => retryDelay initial max factor i :=
      hslept ▸ List.mem_map_of_mem hd
    obtain ⟨i, -, hi⟩ := List.mem_map.mp hmem
    have hle : factor i * (backoffDelay initial max i : ℚ) ≤ 5 / 4 * max :=
      mul_le_mul (hfactor i).2 (Nat.cast_le.mpr (backoffDelay_le initial max i))
        (Nat.cast_nonneg _) (by norm_num)
    linarith [(abs_le.mp (hclose i d hi)).2]

/-- Two attempts fail before a third. -/
theorem retryWithBackoff_spec_third :
    ∃ slept, retryWithBackoff true (Duration.ofSecs 1) (Duration.ofSecs 60)
        (fun i => if i < 2 then none else some i) (fun _ => 11 / 10) 3 = .returned 2 slept ∧
      slept = [1_100_000_000, 2_200_000_000] ∧
      ∀ d ∈ slept, (d : ℚ) ≤ 5 / 4 * Duration.ofSecs 60 * (1 + 1 / 2 ^ 51) + 1 / 2 := by
  have hrun : retryWithBackoff true (Duration.ofSecs 1) (Duration.ofSecs 60)
      (fun i => if i < 2 then none else some i) (fun _ => 11 / 10) 3 =
      .returned 2 [1_100_000_000, 2_200_000_000] := by
    decide +kernel
  obtain ⟨-, -, -, -, hlongest⟩ := retryWithBackoff_spec true (Duration.ofSecs 1)
    (Duration.ofSecs 60) (by decide) (fun i => if i < 2 then none else some i) (fun _ => 11 / 10)
    (by norm_num)
  exact ⟨_, hrun, rfl, hlongest 3 2 _ hrun⟩

end ControlPlaneClient
