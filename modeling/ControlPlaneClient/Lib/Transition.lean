import Mathlib

/-!
# Partial step functions and their runs

A system is given by an executable partial step function `step : S → E → Option S`: the event
`e` is enabled in `s` exactly when `step s e` is defined. `exec` replays a list of events, and
is undefined as soon as one of them is not enabled.

Besides the usual invariant rule this file has two notions for properties that hold only of
some runs. `StepsMeet C` says that each step of a run meets the condition `C` in the state it
is taken from, and `Throughout P` that `P` holds in every state of a run.
-/

namespace Transition

variable {S E : Type*} (step : S → E → Option S)

/-- Replay the events from `s`. -/
def exec : S → List E → Option S
  | s, []      => some s
  | s, e :: es => (step s e).bind fun s' => exec s' es

/-- Each step of the replay meets `C` in the state it is taken from. -/
def StepsMeet (C : S → E → Prop) : S → List E → Prop
  | _, []      => True
  | s, e :: es => C s e ∧ ∀ s', step s e = some s' → StepsMeet C s' es

/-- `P` holds in every state of the replay, the first and the last included. -/
def Throughout (P : S → Prop) : S → List E → Prop
  | s, []      => P s
  | s, e :: es => P s ∧ ∀ s', step s e = some s' → Throughout P s' es

variable {step}

lemma exec_cons_eq_some {s t : S} {e : E} {es : List E} :
    exec step s (e :: es) = some t ↔ ∃ s', step s e = some s' ∧ exec step s' es = some t := by
  simp [exec, Option.bind_eq_some_iff]

lemma exec_append_of_some {s t : S} {es : List E} (h : exec step s es = some t) (es' : List E) :
    exec step s (es ++ es') = exec step t es' := by
  induction es generalizing s with
  | nil => cases h; rfl
  | cons e es ih =>
    obtain ⟨s', hs', ht⟩ := exec_cons_eq_some.mp h
    rw [List.cons_append, exec, hs', Option.bind_some, ih ht]

lemma exec_concat_eq_some {s t : S} {e : E} {es : List E} :
    exec step s (es ++ [e]) = some t ↔ ∃ s', exec step s es = some s' ∧ step s' e = some t := by
  induction es generalizing s with
  | nil => simp [exec]
  | cons a es ih =>
    simp only [List.cons_append, exec_cons_eq_some, ih]
    constructor
    · rintro ⟨s₁, h₁, s', hs', ht⟩
      exact ⟨s', ⟨s₁, h₁, hs'⟩, ht⟩
    · rintro ⟨s', ⟨s₁, h₁, hs'⟩, ht⟩
      exact ⟨s₁, h₁, s', hs', ht⟩

/-- A run that has yet to come to `D` makes a step. -/
lemma exists_first_step {C : E → Prop} {D : S → Prop} {s t : S} {es : List E}
    (h : exec step s es = some t) (hes : ∀ e ∈ es, C e) (hs : ¬ D s) (ht : D t) :
    ∃ e s' es', C e ∧ step s e = some s' ∧ (∀ e ∈ es', C e) ∧ exec step s' es' = some t := by
  cases es with
  | nil => cases h; exact absurd ht hs
  | cons e es =>
    obtain ⟨s', hs', h⟩ := exec_cons_eq_some.mp h
    rw [List.forall_mem_cons] at hes
    exact ⟨e, s', es, hes.1, hs', hes.2, h⟩

/-! ### Invariants -/

/-- What holds initially and is kept by every step that meets `C` holds after every run whose
steps meet `C`. -/
theorem exec_induction {C : S → E → Prop} {I : S → Prop}
    (hstep : ∀ s e s', I s → C s e → step s e = some s' → I s')
    {s t : S} {es : List E} (h₀ : I s) (hC : StepsMeet step C s es)
    (h : exec step s es = some t) : I t := by
  induction es generalizing s with
  | nil => cases h; exact h₀
  | cons e es ih =>
    obtain ⟨s', hs', ht⟩ := exec_cons_eq_some.mp h
    exact ih (hstep s e s' h₀ hC.1 hs') (hC.2 s' hs') ht

lemma stepsMeet_true (s : S) (es : List E) : StepsMeet step (fun _ _ => True) s es := by
  induction es generalizing s with
  | nil => trivial
  | cons e es ih => exact ⟨trivial, fun s' _ => ih s'⟩

/-- The plain invariant rule. -/
theorem exec_invariant {I : S → Prop} (hstep : ∀ s e s', I s → step s e = some s' → I s')
    {s t : S} {es : List E} (h₀ : I s) (h : exec step s es = some t) : I t :=
  exec_induction (fun s e s' hI _ => hstep s e s' hI) h₀ (stepsMeet_true s es) h

/-- A potential that every step leaves as it is or lowers, and that the steps with `p` lower, bounds
how many of these a run has. -/
theorem exec_countP_le (I : S → Prop) (φ : S → ℕ) (p : E → Bool)
    (hstep : ∀ s e s', I s → step s e = some s' → I s' ∧ φ s' + (p e).toNat ≤ φ s)
    {s t : S} {es : List E} (h₀ : I s) (h : exec step s es = some t) : φ t + es.countP p ≤ φ s := by
  induction es generalizing s with
  | nil =>
    cases h
    simp
  | cons e es ih =>
    obtain ⟨s', hs', ht⟩ := exec_cons_eq_some.mp h
    obtain ⟨hI, hφ⟩ := hstep s e s' h₀ hs'
    have hrest := ih hI ht
    have hcount : (e :: es).countP p = es.countP p + (p e).toNat := by
      rw [List.countP_cons]
      cases p e <;> rfl
    omega

/-- A step function that is defined, and agrees with `f`, wherever the invariant holds is defined
along the whole run of `f`. -/
theorem exec_eq_foldl {f : S → E → S} {I : S → Prop} (hdef : ∀ s e, I s → step s e = some (f s e))
    (hinv : ∀ s e, I s → I (f s e)) {s : S} (hs : I s) (es : List E) :
    exec step s es = some (es.foldl f s) := by
  induction es generalizing s with
  | nil => rfl
  | cons e es ih => rw [exec, hdef s e hs, Option.bind_some, ih (hinv s e hs), List.foldl_cons]

/-- Whether the steps of a given run meet a decidable condition can be computed. -/
instance StepsMeet.decidable (C : S → E → Prop) [∀ s e, Decidable (C s e)] :
    ∀ (s : S) (es : List E), Decidable (StepsMeet step C s es)
  | _, []      => .isTrue trivial
  | s, e :: es =>
    match h : step s e with
    | none    => decidable_of_iff (C s e) (by simp [StepsMeet, h])
    | some s' =>
      have := StepsMeet.decidable C s' es
      decidable_of_iff (C s e ∧ StepsMeet step C s' es) (by simp [StepsMeet, h])

/-- A condition `C` on the history, which holds of every state of a run if it holds of the last one. An
invariant of the steps to states with `C` holds throughout such a run. -/
theorem throughout_of_last {C I P : S → Prop} (hback : ∀ s e s', step s e = some s' → C s' → C s)
    (hstep : ∀ s e s', I s → C s' → step s e = some s' → I s') (hP : ∀ s, I s → P s)
    {s t : S} {es : List E} (hs : I s) (h : exec step s es = some t) (hC : C t) :
    Throughout step P s es := by
  induction es generalizing s with
  | nil => exact hP s hs
  | cons e es ih =>
    obtain ⟨s', hs', ht⟩ := exec_cons_eq_some.mp h
    have hC' : C s' := by
      clear ih hs' hs h
      induction es generalizing s' with
      | nil => cases ht; exact hC
      | cons e es ih =>
        obtain ⟨s₁, hs₁, ht⟩ := exec_cons_eq_some.mp ht
        exact hback s' e s₁ hs₁ (ih s₁ ht)
    refine ⟨hP s hs, ?_⟩
    intro s₁ hs₁
    rw [hs'] at hs₁
    cases hs₁
    exact ih (hstep s e s' hs hC' hs') ht

/-! ### Termination -/

/-- A system that can always go on with an event of `A`, and has less to do each time, until it is
done. -/
theorem exists_exec_done {A : E → Prop} {I done : S → Prop} (μ : S → ℕ)
    (hstep : ∀ s, I s → ¬ done s → ∃ e s', A e ∧ step s e = some s' ∧ I s' ∧ μ s' < μ s)
    {s : S} (hs : I s) : ∃ es t, (∀ e ∈ es, A e) ∧ exec step s es = some t ∧ done t := by
  generalize hn : μ s = n
  induction n using Nat.strongRecOn generalizing s with
  | ind n ih =>
    by_cases hdone : done s
    · exact ⟨[], s, fun e he => absurd he List.not_mem_nil, rfl, hdone⟩
    · obtain ⟨e, s', he, hs', hI, hlt⟩ := hstep s hs hdone
      obtain ⟨es, t, hes, ht, hend⟩ := ih (μ s') (hn ▸ hlt) hI rfl
      refine ⟨e :: es, t, ?_, exec_cons_eq_some.mpr ⟨s', hs', ht⟩, hend⟩
      rw [List.forall_mem_cons]
      exact ⟨he, hes⟩

/-! ### Exact conditions -/

/-- If a step taken where `P` holds keeps `P` exactly when it meets `C`, then `P` holds
throughout a run exactly when all its steps meet `C`. The invariant `I` may be used to show it. -/
theorem throughout_iff_stepsMeet {C : S → E → Prop} {I P : S → Prop}
    (hinv : ∀ s e s', I s → step s e = some s' → I s')
    (hexact : ∀ s e s', I s → P s → step s e = some s' → (P s' ↔ C s e))
    {s t : S} {es : List E} (hI : I s) (hP : P s) (h : exec step s es = some t) :
    Throughout step P s es ↔ StepsMeet step C s es := by
  induction es generalizing s with
  | nil => simp [Throughout, StepsMeet, hP]
  | cons e es ih =>
    obtain ⟨s', hs', ht⟩ := exec_cons_eq_some.mp h
    have hPC := hexact s e s' hI hP hs'
    simp only [Throughout, StepsMeet, hP, true_and, hs', Option.some.injEq, forall_eq']
    constructor
    · intro h
      have hP' : P s' := by cases es <;> first | exact h | exact h.1
      exact ⟨hPC.mp hP', (ih (hinv s e s' hI hs') hP' ht).mp h⟩
    · rintro ⟨hC, h⟩
      exact (ih (hinv s e s' hI hs') (hPC.mpr hC) ht).mpr h

/-- Two conditions that say the same of every step from a state with the invariant say the same of
runs. -/
theorem stepsMeet_congr {C D : S → E → Prop} {I : S → Prop}
    (hinv : ∀ s e s', I s → step s e = some s' → I s')
    (hiff : ∀ s e s', I s → step s e = some s' → (C s e ↔ D s e))
    {s t : S} {es : List E} (hI : I s) (h : exec step s es = some t) :
    StepsMeet step C s es ↔ StepsMeet step D s es := by
  induction es generalizing s with
  | nil => rfl
  | cons e es ih =>
    obtain ⟨s', hs', ht⟩ := exec_cons_eq_some.mp h
    have hrest := ih (hinv s e s' hI hs') ht
    simp only [StepsMeet, hs', Option.some.injEq, forall_eq', hrest, hiff s e s' hI hs']

/-- If a step keeps `P` exactly when it meets `C`, and never restores it, then `P` holds after a
run exactly when it held before and all the steps meet `C`. The invariant `I` may be used. -/
theorem exec_iff_stepsMeet {C : S → E → Prop} {I P : S → Prop}
    (hinv : ∀ s e s', I s → step s e = some s' → I s')
    (hexact : ∀ s e s', I s → step s e = some s' → (P s' ↔ P s ∧ C s e))
    {s t : S} {es : List E} (hI : I s) (h : exec step s es = some t) :
    P t ↔ P s ∧ StepsMeet step C s es := by
  induction es generalizing s with
  | nil => cases h; simp [StepsMeet]
  | cons e es ih =>
    obtain ⟨s', hs', ht⟩ := exec_cons_eq_some.mp h
    rw [ih (hinv s e s' hI hs') ht, hexact s e s' hI hs']
    simp [StepsMeet, hs', and_assoc]

end Transition
