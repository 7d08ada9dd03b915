import ControlPlaneClient.Agent.Backoff
import ControlPlaneClient.Session.RunLoop

/-!
# The delays between sessions

What `run_loop` sleeps between one session and the next. Its backoff counts the sessions that ended
in an error since the last one that ended cleanly, whether or not they had established their
Channel; after a clean end it does not sleep at all. So the delay follows the failures since the
last established Channel only in the runs that are singled out below.
-/

namespace ControlPlaneClient

open Transition

/-- A session that has ended, and the sleep after it. -/
structure EndedSession where
  established : Bool
  result      : SessionResult
  /-- The jitter factor. -/
  factor      : ℚ
  slept       : ℚ
  deriving DecidableEq

namespace EndedSession

def clean (x : EndedSession) : Bool := x.result == .ok ()

/-- Refused because another Channel holds the slot. -/
def slotHeld (x : EndedSession) : Bool := x.result == .error .slotHeld

/-- How many sessions failed to establish a Channel since the last one that did. The last session
comes first. -/
def failures (xs : List EndedSession) : ℕ := (xs.takeWhile fun x => !x.established).length

/-- The failures that the sleep after a session is to follow. -/
def failuresBefore (x : EndedSession) (earlier : List EndedSession) : ℕ :=
  if x.established then 0 else failures earlier

/-- How many sessions ended in an error, other than a held slot, since the last one that ended
cleanly. -/
def errors (xs : List EndedSession) : ℕ :=
  (xs.takeWhile fun x => !x.clean).countP fun x => !x.slotHeld

/-- What `run_loop` sleeps after a session. -/
structure Slept (initial max : Duration) (x : EndedSession) (earlier : List EndedSession) :
    Prop where
  clean  : x.clean = true → x.established = true ∧ x.slept = 0
  error  : x.clean = false → x.slotHeld = false →
    x.slept = x.factor * (backoffDelay initial max (errors earlier) : ℚ)
  factor : 3 / 4 ≤ x.factor

section Exact

variable {initial max : Duration} {xs : List EndedSession}

lemma errors_eq_length (hclean : ∀ x ∈ xs, x.clean = false) (hslot : ∀ x ∈ xs, x.slotHeld = false) :
    errors xs = xs.length := by
  have hall : (xs.takeWhile fun x => !x.clean) = xs := by
    rw [List.takeWhile_eq_self_iff]
    intro x hx
    rw [hclean x hx]
    rfl
  rw [errors, hall, List.countP_eq_length]
  intro x hx
  rw [hslot x hx]
  rfl

lemma failures_eq_length (h : ∀ x ∈ xs, x.established = false) : failures xs = xs.length := by
  have hall : (xs.takeWhile fun x => !x.established) = xs := by
    rw [List.takeWhile_eq_self_iff]
    intro x hx
    rw [h x hx]
    rfl
  rw [failures, hall]

/-- The sleep after an error is the right one if and only if the errors and the failures call for
the same delay. -/
lemma Slept.follows_iff {x : EndedSession} {earlier : List EndedSession}
    (h : Slept initial max x earlier) (hclean : x.clean = false) (hslot : x.slotHeld = false) :
    x.slept = x.factor * (backoffDelay initial max (x.failuresBefore earlier) : ℚ) ↔
      backoffDelay initial max (errors earlier) =
        backoffDelay initial max (x.failuresBefore earlier) := by
  have hfactor : x.factor ≠ 0 := by
    have := h.factor
    intro hzero
    rw [hzero] at this
    norm_num at this
  rw [h.error hclean hslot, mul_right_inj' hfactor, Nat.cast_inj]

/-- No sleep after a clean end is right only where there is nothing to sleep. -/
lemma Slept.delay_eq_zero {x : EndedSession} {earlier : List EndedSession}
    (h : Slept initial max x earlier) (hclean : x.clean = true)
    (hfollows : x.slept = x.factor * (backoffDelay initial max (x.failuresBefore earlier) : ℚ)) :
    min initial max = 0 := by
  obtain ⟨hest, hslept⟩ := h.clean hclean
  have hfactor := h.factor
  rw [hslept, failuresBefore, if_pos hest, eq_comm, mul_eq_zero] at hfollows
  rcases hfollows with hzero | hzero
  · rw [hzero] at hfactor
    norm_num at hfactor
  · rw [Nat.cast_eq_zero, backoffDelay, Nat.zero_min, Nat.pow_zero, Nat.mul_one] at hzero
    exact hzero

lemma Slept.follows_of_zero {x : EndedSession} {earlier : List EndedSession}
    (h : Slept initial max x earlier) (hzero : initial = 0 ∨ max = 0) (hslot : x.slotHeld = false) :
    x.slept = x.factor * (backoffDelay initial max (x.failuresBefore earlier) : ℚ) := by
  rw [backoffDelay_eq_zero hzero, Nat.cast_zero, mul_zero]
  cases hclean : x.clean with
  | true => exact (h.clean hclean).2
  | false => rw [h.error hclean hslot, backoffDelay_eq_zero hzero, Nat.cast_zero, mul_zero]

/-- A session before which there was an established one is the first sign of the difference. -/
lemma eq_singleton_of_established (hpos : 0 < initial) (hlt : initial < max)
    (hclean : ∀ x ∈ xs, x.clean = false) (hslot : ∀ x ∈ xs, x.slotHeld = false)
    (hsame : ∀ x earlier, x :: earlier <:+ xs → backoffDelay initial max (errors earlier) =
      backoffDelay initial max (x.failuresBefore earlier))
    {y : EndedSession} (hy : y ∈ xs) (hest : y.established = true) : xs = [y] := by
  have herrors : ∀ ys, ys <:+ xs → errors ys = ys.length := fun ys hys =>
    errors_eq_length (fun x hx => hclean x (hys.subset hx)) fun x hx => hslot x (hys.subset hx)
  obtain ⟨later, earlier, hxs⟩ := List.append_of_mem hy
  -- Nothing came before it, or its own delay would have grown.
  have hsuffix : y :: earlier <:+ xs := ⟨later, hxs.symm⟩
  have hfirst := hsame y earlier hsuffix
  rw [herrors earlier ((List.suffix_cons y earlier).trans hsuffix), failuresBefore,
    if_pos hest] at hfirst
  have hnil : earlier = [] := by
    by_contra hne
    exact backoffDelay_ne hpos hlt (List.length_pos_iff.mpr hne).ne' hfirst
  subst hnil
  -- Nothing came after it, or the next delay would have.
  rcases List.eq_nil_or_concat later with rfl | ⟨later, z, rfl⟩
  · exact hxs
  · have hnext : z :: [y] <:+ xs := ⟨later, by rw [hxs]; simp⟩
    have hzero : z.failuresBefore [y] = 0 := by
      rw [failuresBefore]
      split
      · rfl
      · simp [failures, hest]
    have hsecond := hsame z [y] hnext
    rw [herrors [y] hsuffix, hzero] at hsecond
    exact absurd hsecond (backoffDelay_ne hpos hlt Nat.one_ne_zero)

/-- Where there is something to sleep, no session may end cleanly. -/
lemma clean_eq_false_of_follows (hzero : min initial max ≠ 0)
    (hslept : ∀ x earlier, x :: earlier <:+ xs → Slept initial max x earlier)
    (hfollows : ∀ x earlier, x :: earlier <:+ xs →
      x.slept = x.factor * (backoffDelay initial max (x.failuresBefore earlier) : ℚ)) :
    ∀ x ∈ xs, x.clean = false := by
  intro x hx
  obtain ⟨later, earlier, hxs⟩ := List.append_of_mem hx
  have hsuffix : x :: earlier <:+ xs := ⟨later, hxs.symm⟩
  by_contra hc
  exact hzero ((hslept x earlier hsuffix).delay_eq_zero (by simpa using hc)
    (hfollows x earlier hsuffix))

/-- A session that never established its Channel does not end cleanly. -/
lemma clean_eq_false_of_unestablished
    (hslept : ∀ x earlier, x :: earlier <:+ xs → Slept initial max x earlier)
    (hest : ∀ x ∈ xs, x.established = false) : ∀ x ∈ xs, x.clean = false := by
  intro x hx
  obtain ⟨later, earlier, hxs⟩ := List.append_of_mem hx
  by_contra hc
  have hopen := ((hslept x earlier ⟨later, hxs.symm⟩).clean (by simpa using hc)).1
  rw [hest x hx] at hopen
  cases hopen

/-- When the sleeps follow the failures since the last established Channel. -/
theorem follows_failures_iff (hslept : ∀ x earlier, x :: earlier <:+ xs → Slept initial max x earlier)
    (hslot : ∀ x ∈ xs, x.slotHeld = false) :
    (∀ x earlier, x :: earlier <:+ xs →
      x.slept = x.factor * (backoffDelay initial max (x.failuresBefore earlier) : ℚ)) ↔
    initial = 0 ∨ max = 0 ∨ (max ≤ initial ∧ ∀ x ∈ xs, x.clean = false) ∨
      (∀ x ∈ xs, x.established = false) ∨ ∃ x, xs = [x] ∧ x.clean = false := by
  have hmem : ∀ {x earlier}, x :: earlier <:+ xs → x ∈ xs := fun hx => hx.subset (by simp)
  constructor
  · intro hfollows
    by_cases hzero : min initial max = 0
    · rcases Nat.min_eq_zero_iff.mp hzero with h | h
      · exact Or.inl h
      · exact Or.inr (Or.inl h)
    have hclean := clean_eq_false_of_follows hzero hslept hfollows
    have hsame : ∀ x earlier, x :: earlier <:+ xs → backoffDelay initial max (errors earlier) =
        backoffDelay initial max (x.failuresBefore earlier) := by
      intro x earlier hx
      exact ((hslept x earlier hx).follows_iff (hclean x (hmem hx)) (hslot x (hmem hx))).mp
        (hfollows x earlier hx)
    refine Or.inr (Or.inr ?_)
    rcases le_or_gt max initial with hle | hlt
    · exact Or.inl ⟨hle, hclean⟩
    · right
      by_cases hest : ∃ y ∈ xs, y.established = true
      · obtain ⟨y, hy, hest⟩ := hest
        have hpos : 0 < initial := by
          rw [Nat.pos_iff_ne_zero]
          rintro rfl
          exact hzero (Nat.zero_min max)
        exact Or.inr ⟨y, eq_singleton_of_established hpos hlt hclean hslot hsame hy hest,
          hclean y hy⟩
      · left
        intro x hx
        by_contra hx'
        exact hest ⟨x, hx, by simpa using hx'⟩
  · intro hcond x earlier hx
    have hs := hslept x earlier hx
    have hslotx := hslot x (hmem hx)
    rcases hcond with h | h | ⟨hle, hclean⟩ | hest | ⟨y, rfl, hclean⟩
    · exact hs.follows_of_zero (Or.inl h) hslotx
    · exact hs.follows_of_zero (Or.inr h) hslotx
    · rw [hs.follows_iff (hclean x (hmem hx)) hslotx, backoffDelay_eq_max hle,
        backoffDelay_eq_max hle]
    · have hearlier : ∀ y ∈ earlier, y ∈ xs := fun y hy => hx.subset (List.mem_cons_of_mem x hy)
      have hclean := clean_eq_false_of_unestablished hslept hest
      rw [hs.follows_iff (hclean x (hmem hx)) hslotx, failuresBefore, hest x (hmem hx),
        failures_eq_length fun y hy => hest y (hearlier y hy),
        errors_eq_length (fun y hy => hclean y (hearlier y hy)) fun y hy => hslot y (hearlier y hy)]
      rfl
    · have hfirst : x = y ∧ earlier = [] := by simpa [List.suffix_cons_iff] using hx
      obtain ⟨rfl, rfl⟩ := hfirst
      rw [hs.follows_iff hclean hslotx, failuresBefore]
      split <;> rfl

end Exact

end EndedSession

def LoopEvent.isOpened : LoopEvent → Bool
  | .opened => true
  | _       => false

/-- The session has established its Channel; if it has ended, then cleanly. -/
def LoopPc.pastOpen : LoopPc → Bool
  | .established | .parked _ | .tearingDown _ | .flushing _ | .ended (.ok ()) => true
  | _                                                                        => false

/-- A session is under way. -/
def LoopPc.inSession : LoopPc → Bool
  | .connecting | .opening _ _ | .established | .parked _ | .tearingDown _ | .flushing _
  | .ended _ => true
  | _        => false

/-- The run loop with its backoff. -/
structure DelayLoop (QuotaStatus : Type) where
  loop        : RunLoop QuotaStatus
  backoff     : Backoff
  /-- The session has established its Channel. -/
  established : Bool
  /-- The sessions that have ended, the last one first. -/
  ended       : List EndedSession

inductive DelayEvent
  /-- `run_loop` acts on the result of a session, with a jitter factor and the time in which a held
  slot is freed. -/
  | settle (factor : ℚ) (retryIn : Duration)
  | other (e : LoopEvent)

namespace DelayLoop

open EndedSession

variable {QuotaStatus : Type} (env : LoopEnv) (initial max : Duration)

def start (creds : Option StoredCreds) : DelayLoop QuotaStatus :=
  ⟨.start env creds, .new initial max true, false, []⟩

/-- The sleep after a session, and the backoff it leaves. -/
def delayAfter (b : Backoff) (factor : ℚ) (retryIn : Duration) : SessionResult → ℚ × Backoff
  | .ok ()            => (0, b.reset)
  | .error .slotHeld  => (retryIn, b)
  | .error .rejected  => b.nextDelay factor
  | .error .other     => b.nextDelay factor

def step (s : DelayLoop QuotaStatus) : DelayEvent → Option (DelayLoop QuotaStatus)
  | .settle factor retryIn =>
    match s.loop.pc with
    | .ended result =>
      if 3 / 4 ≤ factor ∧ factor ≤ 5 / 4 then do
        let loop ← s.loop.step env .settle
        let (slept, backoff) := delayAfter s.backoff factor retryIn result
        some ⟨loop, backoff, false, ⟨s.established, result, factor, slept⟩ :: s.ended⟩
      else none
    | _ => none
  | .other .settle => none
  | .other e => do
    let loop ← s.loop.step env e
    some { s with loop := loop, established := s.established || e.isOpened }

/-- The sleeps so far, and the counter that decides the next one. -/
structure Kept (s : DelayLoop QuotaStatus) : Prop where
  backoff     : s.backoff = ⟨initial, max, true, min (errors s.ended) (2 ^ 32 - 1)⟩
  established : s.loop.pc.pastOpen = true → s.established = true
  slept       : ∀ x earlier, x :: earlier <:+ s.ended → Slept initial max x earlier

variable {env initial max}

lemma errors_cons (x : EndedSession) (xs : List EndedSession) :
    errors (x :: xs) = if x.clean then 0 else errors xs + (!x.slotHeld).toNat := by
  cases hclean : x.clean with
  | true => simp [errors, hclean]
  | false => cases hslot : x.slotHeld <;> simp [errors, hclean, hslot]

lemma settle_not_pastOpen (s : RunLoop QuotaStatus) (result : SessionResult) :
    ¬ (RunLoop.settle env s result).pc.pastOpen = true :=
  RunLoop.settle_induction env s result nofun fun _ _ => nofun

/-- Only an open brings the loop to a point behind it. -/
lemma pastOpen_of_effect {s s' : RunLoop QuotaStatus} {e : LoopEvent}
    (h : RunLoop.Effect env s e s') (hpast : s'.pc.pastOpen = true) :
    s.pc.pastOpen = true ∨ e.isOpened = true := by
  cases h with
  | triggerStore => exact Or.inl hpast
  | triggerNotify h => exact Or.inl hpast
  | check hpc =>
    dsimp only at hpast
    split at hpast <;> cases hpast
  | expiry expired hpc =>
    dsimp only at hpast
    split at hpast <;> cases hpast
  | registerConnect reached next client hpc hc => cases hpast
  | registerUnreached reached next hpc hc => exact Or.inl hpast
  | registerFails next hpc => cases hpast
  | registered resp now next hpc => cases next <;> cases hpast
  | connectFails reached hpc hc => cases hpast
  | connectNoToken reached client hpc hc ha => cases hpast
  | connect reached client t jwt hpc hc ha => cases hpast
  | openFails e t jwt hpc => cases hpast
  | opened t jwt hpc => exact Or.inr rfl
  | park hpc => rw [hpc]; exact Or.inl rfl
  | rotation cr stored wait hpc hjwt => exact Or.inl hpast
  | rotationIgnored cr stored wait hpc hjwt => exact Or.inl hpast
  | inboundEnds result wait hpc => rw [hpc]; exact Or.inl rfl
  | notified wait hpc hd => rw [hpc]; exact Or.inl rfl
  | teardown result hpc => rw [hpc]; exact Or.inl rfl
  | flushed result hpc => rw [hpc]; exact Or.inl rfl
  | settle result hpc => exact absurd hpast (settle_not_pastOpen s result)
  | wake register hpc => cases register <;> cases hpast
  | finish hpc => cases hpast
  | announce hpc => cases hpast

/-- The sleep after an error, from the counter of errors. -/
lemma nextDelay_eq (hmax : max ≤ Duration.max) (n : ℕ) (factor : ℚ) :
    Backoff.nextDelay ⟨initial, max, true, min n (2 ^ 32 - 1)⟩ factor =
      (factor * (backoffDelay initial max n : ℚ), ⟨initial, max, true, min (n + 1) (2 ^ 32 - 1)⟩) := by
  rw [Backoff.nextDelay, Backoff.bounded_of_failures hmax]
  simp only [attempt_succ, if_true]

/-- What is added to the sessions that have ended. -/
lemma Kept.slept_new {s : DelayLoop QuotaStatus} {result : SessionResult} {factor : ℚ}
    (hs : s.Kept initial max) (hmax : max ≤ Duration.max) (hpc : s.loop.pc = .ended result)
    (hfactor : 3 / 4 ≤ factor) (retryIn : Duration) :
    Slept initial max
      ⟨s.established, result, factor, (delayAfter s.backoff factor retryIn result).1⟩ s.ended := by
  refine ⟨?_, ?_, hfactor⟩
  · intro hclean
    match result with
    | .ok () => exact ⟨hs.established (by rw [hpc]; rfl), rfl⟩
  · intro hclean hslot
    rw [hs.backoff]
    match result with
    | .error .rejected => rw [delayAfter, nextDelay_eq hmax]
    | .error .other => rw [delayAfter, nextDelay_eq hmax]

lemma Kept.backoff_new {s : DelayLoop QuotaStatus} (hs : s.Kept initial max)
    (hmax : max ≤ Duration.max) (factor : ℚ) (retryIn : Duration) (result : SessionResult)
    (slept : ℚ) :
    (delayAfter s.backoff factor retryIn result).2 =
      ⟨initial, max, true,
        min (errors (⟨s.established, result, factor, slept⟩ :: s.ended)) (2 ^ 32 - 1)⟩ := by
  rw [hs.backoff, errors_cons]
  match result with
  | .ok () => rfl
  | .error .slotHeld => rfl
  | .error .rejected => rw [delayAfter, nextDelay_eq hmax]; rfl
  | .error .other => rw [delayAfter, nextDelay_eq hmax]; rfl

lemma step_kept {s s' : DelayLoop QuotaStatus} {e : DelayEvent} (hmax : max ≤ Duration.max)
    (hs : s.Kept initial max) (h : s.step env e = some s') : s'.Kept initial max := by
  unfold step at h
  split at h
  · split at h
    · rename_i factor retryIn _ result hpc
      split at h
      · rename_i hfactor
        obtain ⟨loop, hloop, h⟩ := Option.bind_eq_some_iff.mp h
        cases h
        refine ⟨hs.backoff_new hmax factor retryIn result _, ?_, ?_⟩
        · intro hpast
          cases RunLoop.step_effect env hloop with
          | settle result hpc => exact absurd hpast (settle_not_pastOpen s.loop result)
        · intro x earlier hx
          rcases List.suffix_cons_iff.mp hx with hx | hx
          · cases hx
            exact hs.slept_new hmax hpc hfactor.1 retryIn
          · exact hs.slept x earlier hx
      · cases h
    · cases h
  · cases h
  · obtain ⟨loop, hloop, h⟩ := Option.bind_eq_some_iff.mp h
    cases h
    refine ⟨hs.backoff, ?_, hs.slept⟩
    intro hpast
    rw [Bool.or_eq_true]
    exact (pastOpen_of_effect (RunLoop.step_effect env hloop) hpast).imp_left hs.established

lemma start_kept (creds : Option StoredCreds) :
    (start env initial max creds : DelayLoop QuotaStatus).Kept initial max := by
  refine ⟨rfl, ?_, ?_⟩
  · intro hpast
    cases creds with
    | some creds => cases hpast
    | none =>
      simp only [start, RunLoop.start] at hpast
      split at hpast <;> cases hpast
  · intro x earlier hx
    cases List.suffix_nil.mp hx

/-- The sessions that another one has followed, the last one first. -/
def followed (s : DelayLoop QuotaStatus) : List EndedSession :=
  if s.loop.pc.inSession then s.ended else s.ended.tail

lemma followed_suffix (s : DelayLoop QuotaStatus) : s.followed <:+ s.ended := by
  rw [followed]
  split
  · exact List.suffix_rfl
  · exact List.tail_suffix _

variable (env)

/-- In a run without held slots, the sleep between each session and the next follows the failures
since the last established Channel if and only if there is nothing to sleep, or the delay cannot
grow and no session ended cleanly, or none established its Channel, or the only one before the last
did and failed. The sleep after an error is the exact product that `Backoff.nextDelay` takes. The
source rounds it (`Backoff.nextDelayF64_near`), and panics where it has no room in a `Duration`; no
session follows then. -/
theorem delays_follow_failures_iff (initial max : Duration) (hmax : max ≤ Duration.max)
    (creds : Option StoredCreds) (es : List DelayEvent) (s : DelayLoop QuotaStatus)
    (h : exec (step env) (start env initial max creds) es = some s)
    (hslot : ∀ x ∈ s.followed, x.slotHeld = false) :
    (∀ x earlier, x :: earlier <:+ s.followed →
      x.slept = x.factor * (backoffDelay initial max (x.failuresBefore earlier) : ℚ)) ↔
    initial = 0 ∨ max = 0 ∨ (max ≤ initial ∧ ∀ x ∈ s.followed, x.clean = false) ∨
      (∀ x ∈ s.followed, x.established = false) ∨ ∃ x, s.followed = [x] ∧ x.clean = false := by
  have hkept : s.Kept initial max :=
    exec_invariant (fun _ _ _ hs hstep => step_kept hmax hs hstep) (start_kept creds) h
  exact follows_failures_iff (fun x earlier hx => hkept.slept x earlier (hx.trans s.followed_suffix))
    hslot

/-- A session that cannot connect. -/
def unreachable : List DelayEvent :=
  [.other .check, .other (.expiry false), .other (.connect false), .settle 1 0, .other .wake]

/-- A session that is established and ends with a result. -/
def attached (result : SessionResult) : List DelayEvent :=
  [.other .check, .other (.expiry false), .other (.connect true), .other .opened, .other .park,
    .other (.inboundEnds result), .other .teardown, .settle 1 0]

/-- The next session begins. -/
def again : List DelayEvent := [.other .check, .other (.expiry false)]

/-- Two sessions cannot connect before a third: the sleeps follow the failures. -/
theorem delays_follow_failures_iff_unreachable :
    ∃ s : DelayLoop Unit,
      exec (step RunLoop.sampleLoop)
        (start RunLoop.sampleLoop (Duration.ofSecs 1) (Duration.ofSecs 60) (some sampleCreds))
        (unreachable ++ unreachable ++ again) = some s ∧
      s.followed = [⟨false, .error .other, 1, 2_000_000_000⟩,
        ⟨false, .error .other, 1, 1_000_000_000⟩] ∧
      ∀ x earlier, x :: earlier <:+ s.followed → x.slept = x.factor *
        (backoffDelay (Duration.ofSecs 1) (Duration.ofSecs 60) (x.failuresBefore earlier) : ℚ) := by
  have hrun : (exec (step RunLoop.sampleLoop)
      (start RunLoop.sampleLoop (Duration.ofSecs 1) (Duration.ofSecs 60) (some sampleCreds) :
        DelayLoop Unit) (unreachable ++ unreachable ++ again)).map followed =
      some [⟨false, .error .other, 1, 2_000_000_000⟩, ⟨false, .error .other, 1, 1_000_000_000⟩] := by
    decide +kernel
  obtain ⟨s, hs, hfollowed⟩ := Option.map_eq_some_iff.mp hrun
  have hslot : ∀ x ∈ s.followed, x.slotHeld = false := by
    rw [hfollowed]
    decide
  have hnone : ∀ x ∈ s.followed, x.established = false := by
    rw [hfollowed]
    decide
  exact ⟨s, hs, hfollowed, (delays_follow_failures_iff RunLoop.sampleLoop _ _ (by decide)
    (some sampleCreds) _ s hs hslot).mpr (Or.inr (Or.inr (Or.inr (Or.inl hnone))))⟩

/-- After a failure the session that is established waits twice as long as a first one; after the
session that ends cleanly there is no wait at all. -/
theorem delays_ignore_established :
    ∃ s : DelayLoop Unit,
      exec (step RunLoop.sampleLoop)
        (start RunLoop.sampleLoop (Duration.ofSecs 1) (Duration.ofSecs 60) (some sampleCreds))
        (unreachable ++ attached (.error .other) ++ [.other .wake] ++ attached (.ok ()) ++ again) =
          some s ∧
      s.followed = [⟨true, .ok (), 1, 0⟩, ⟨true, .error .other, 1, 2_000_000_000⟩,
        ⟨false, .error .other, 1, 1_000_000_000⟩] ∧
      (∀ x ∈ s.followed, x.slotHeld = false) ∧
      ¬ ∀ x earlier, x :: earlier <:+ s.followed → x.slept = x.factor *
        (backoffDelay (Duration.ofSecs 1) (Duration.ofSecs 60) (x.failuresBefore earlier) : ℚ) := by
  have hrun : (exec (step RunLoop.sampleLoop)
      (start RunLoop.sampleLoop (Duration.ofSecs 1) (Duration.ofSecs 60) (some sampleCreds) :
        DelayLoop Unit)
      (unreachable ++ attached (.error .other) ++ [.other .wake] ++ attached (.ok ()) ++ again)).map
        followed =
      some [⟨true, .ok (), 1, 0⟩, ⟨true, .error .other, 1, 2_000_000_000⟩,
        ⟨false, .error .other, 1, 1_000_000_000⟩] := by
    decide +kernel
  obtain ⟨s, hs, hfollowed⟩ := Option.map_eq_some_iff.mp hrun
  refine ⟨s, hs, hfollowed, ?_, ?_⟩
  · rw [hfollowed]
    decide
  · intro hfollows
    have hsecond := hfollows ⟨true, .error .other, 1, 2_000_000_000⟩
      [⟨false, .error .other, 1, 1_000_000_000⟩] (by rw [hfollowed]; exact List.suffix_cons _ _)
    norm_num [failuresBefore, backoffDelay, Duration.ofSecs, nanosPerSec] at hsecond

end DelayLoop

end ControlPlaneClient
