import ControlPlaneClient.Lib.Transition

/-!
# Simulation and atomic objects

An implementation is compared with its specification by what an observer sees of their runs. A
`Simulation` relates the states of two systems so that the second can answer each step of the
first by a run of its own with the same observations; it lifts to runs.

The specification of a shared object is the object whose operations take effect in one step.
`Atomic` has one slot per thread, and a call goes through it in three steps: it is made, it takes
effect, it returns. A system that `Atomic` simulates, with the calls and the returns as the
observations, is linearizable: the effects can be ordered one after the other, each between the
call and its return, with the answers that the threads got.
-/

namespace Transition

variable {S E S₁ E₁ S₂ E₂ L : Type*}

/-! ### Observations -/

/-- What an observer sees of a replay, when `obs` is what it sees of a step. -/
def observed (step : S → E → Option S) (obs : S → E → List L) : S → List E → List L
  | _, []      => []
  | s, e :: es => obs s e ++ (step s e).elim [] fun s' => observed step obs s' es

section

variable {step : S → E → Option S} {obs : S → E → List L}

lemma observed_cons {s s' : S} {e : E} (h : step s e = some s') (es : List E) :
    observed step obs s (e :: es) = obs s e ++ observed step obs s' es := by
  rw [observed, h, Option.elim_some]

lemma observed_append {s t : S} {es : List E} (h : exec step s es = some t) (es' : List E) :
    observed step obs s (es ++ es') = observed step obs s es ++ observed step obs t es' := by
  induction es generalizing s with
  | nil => cases h; rfl
  | cons e es ih =>
    obtain ⟨s', hs', ht⟩ := exec_cons_eq_some.mp h
    rw [List.cons_append, observed_cons hs', observed_cons hs', ih ht, List.append_assoc]

end

/-! ### Simulation -/

/-- Each step of the first system is answered by a run of the second one, of any length, with the
same observations. -/
structure Simulation (step₁ : S₁ → E₁ → Option S₁) (obs₁ : S₁ → E₁ → List L)
    (step₂ : S₂ → E₂ → Option S₂) (obs₂ : S₂ → E₂ → List L) where
  rel : S₁ → S₂ → Prop
  sim : ∀ {s₁ t₁ s₂ e}, rel s₁ s₂ → step₁ s₁ e = some t₁ →
    ∃ es t₂, exec step₂ s₂ es = some t₂ ∧ observed step₂ obs₂ s₂ es = obs₁ s₁ e ∧ rel t₁ t₂

/-- What one system does is what the other one can do. -/
theorem Simulation.run {step₁ : S₁ → E₁ → Option S₁} {obs₁ : S₁ → E₁ → List L}
    {step₂ : S₂ → E₂ → Option S₂} {obs₂ : S₂ → E₂ → List L}
    (R : Simulation step₁ obs₁ step₂ obs₂) {s₁ t₁ : S₁} {s₂ : S₂} {es : List E₁}
    (hrel : R.rel s₁ s₂) (h : exec step₁ s₁ es = some t₁) :
    ∃ es' t₂, exec step₂ s₂ es' = some t₂ ∧
      observed step₂ obs₂ s₂ es' = observed step₁ obs₁ s₁ es ∧ R.rel t₁ t₂ := by
  induction es generalizing s₁ s₂ with
  | nil => cases h; exact ⟨[], s₂, rfl, rfl, hrel⟩
  | cons e es ih =>
    obtain ⟨u₁, hu₁, ht₁⟩ := exec_cons_eq_some.mp h
    obtain ⟨es₁, u₂, hu₂, hobs₁, hrel'⟩ := R.sim hrel hu₁
    obtain ⟨es₂, t₂, ht₂, hobs₂, hrel''⟩ := ih hrel' ht₁
    refine ⟨es₁ ++ es₂, t₂, ?_, ?_, hrel''⟩
    · rw [exec_append_of_some hu₂, ht₂]
    · rw [observed_append hu₂, observed_cons hu₁, hobs₁, hobs₂]

end Transition

/-! ### Atomic objects -/

namespace Atomic

open Transition

variable {ι S Op In Res : Type*}

/-- A call in progress, before and after it takes effect. The answer may depend on an input that
is read later, such as the clock. -/
inductive Slot (Op In Res : Type*)
  | idle
  | called (op : Op)
  | answered (answer : In → Res)

inductive Event (ι Op In : Type*)
  | call (i : ι) (op : Op)
  | effect (i : ι) (x : In)
  | ret (i : ι) (x : In)

/-- What the threads see of an object. -/
inductive Seen (ι Op Res : Type*)
  | call (i : ι) (op : Op)
  | ret (i : ι) (r : Res)

/-- The object and its threads. -/
structure Object (ι S Op In Res : Type*) where
  state : S
  slot  : ι → Slot Op In Res

namespace Object

variable [DecidableEq ι]

def init (s : S) : Object ι S Op In Res := ⟨s, fun _ => .idle⟩

/-- The sequential meaning of the operations is `apply`. -/
def step (apply : S → Op → In → S × (In → Res)) (o : Object ι S Op In Res) :
    Event ι Op In → Option (Object ι S Op In Res)
  | .call i op =>
    match o.slot i with
    | .idle => some { o with slot := Function.update o.slot i (.called op) }
    | _     => none
  | .effect i x =>
    match o.slot i with
    | .called op =>
      let (s, answer) := apply o.state op x
      some ⟨s, Function.update o.slot i (.answered answer)⟩
    | _          => none
  | .ret i _ =>
    match o.slot i with
    | .answered _ => some { o with slot := Function.update o.slot i .idle }
    | _           => none

omit [DecidableEq ι] in
/-- The calls and the returns with their answers. -/
def seen (o : Object ι S Op In Res) : Event ι Op In → List (Seen ι Op Res)
  | .call i op  => [.call i op]
  | .effect _ _ => []
  | .ret i x    =>
    match o.slot i with
    | .answered answer => [.ret i (answer x)]
    | _                => []

variable {apply : S → Op → In → S × (In → Res)} {o : Object ι S Op In Res} {i : ι} {op : Op}

lemma step_call (h : o.slot i = .idle) :
    step apply o (.call i op) = some ⟨o.state, Function.update o.slot i (.called op)⟩ := by
  simp [step, h]

lemma step_effect (h : o.slot i = .called op) (x : In) :
    step apply o (.effect i x) = some ⟨(apply o.state op x).1,
      Function.update o.slot i (.answered (apply o.state op x).2)⟩ := by
  simp [step, h]

lemma step_ret {answer : In → Res} (h : o.slot i = .answered answer) (x : In) :
    step apply o (.ret i x) = some ⟨o.state, Function.update o.slot i .idle⟩ := by
  simp [step, h]

omit [DecidableEq ι] in
lemma seen_ret {answer : In → Res} (h : o.slot i = .answered answer) (x : In) :
    o.seen (Event.ret i x : Event ι Op In) = [.ret i (answer x)] := by
  simp [seen, h]

end Object

/-! ### A balance

If an operation brings some amount and its answer takes some away, and the difference is what the
object gains, then over a run the amounts of the calls and of the returns differ by what the object
holds and what the calls in progress have yet to bring or to take. -/

section Balance

variable (brings : Op → ℕ) (takes : Res → ℕ) (holds : S → ℕ) (x₀ : In)

def Seen.brought : Seen ι Op Res → ℕ
  | .call _ op => brings op
  | .ret _ _   => 0

def Seen.taken : Seen ι Op Res → ℕ
  | .call _ _ => 0
  | .ret _ r  => takes r

/-- What a call in progress has yet to bring or to take. -/
def Slot.due : Slot Op In Res → ℕ
  | .idle            => 0
  | .called op       => brings op
  | .answered answer => takes (answer x₀)

/-- What an answer takes does not depend on when it is read. -/
def Slot.Steady : Slot Op In Res → Prop
  | .answered answer => ∀ x, takes (answer x) = takes (answer x₀)
  | _                => True

variable {apply : S → Op → In → S × (In → Res)}

lemma steady_update [DecidableEq ι] {slot : ι → Slot Op In Res} {j : ι} {v : Slot Op In Res}
    (hv : v.Steady takes x₀) (h : ∀ i, (slot i).Steady takes x₀) (i : ι) :
    (Function.update slot j v i).Steady takes x₀ := by
  by_cases hi : i = j
  · subst hi
    rwa [Function.update_self]
  · rw [Function.update_of_ne hi]
    exact h i

@[simp] lemma due_idle : (Slot.idle : Slot Op In Res).due brings takes x₀ = 0 := rfl

@[simp] lemma due_called (op : Op) :
    (Slot.called op : Slot Op In Res).due brings takes x₀ = brings op := rfl

@[simp] lemma due_answered (answer : In → Res) :
    (Slot.answered answer : Slot Op In Res).due brings takes x₀ = takes (answer x₀) := rfl

lemma sum_due_update [Fintype ι] [DecidableEq ι] (slot : ι → Slot Op In Res) (i : ι)
    (v : Slot Op In Res) :
    ∑ j, (Function.update slot i v j).due brings takes x₀ + (slot i).due brings takes x₀ =
      ∑ j, (slot j).due brings takes x₀ + v.due brings takes x₀ := by
  have hrest : ∑ j ∈ Finset.univ.erase i, (Function.update slot i v j).due brings takes x₀ =
      ∑ j ∈ Finset.univ.erase i, (slot j).due brings takes x₀ := by
    apply Finset.sum_congr rfl
    intro j hj
    rw [Function.update_of_ne (Finset.ne_of_mem_erase hj)]
  rw [← Finset.add_sum_erase _ _ (Finset.mem_univ i), hrest, Function.update_self,
    ← Finset.add_sum_erase _ (fun j => (slot j).due brings takes x₀) (Finset.mem_univ i)]
  ring

namespace Object

variable [DecidableEq ι]

variable {brings takes holds x₀} in
lemma step_steady
    (hlaw : ∀ s op x y, holds (apply s op x).1 + takes ((apply s op x).2 y) = holds s + brings op)
    {o o' : Object ι S Op In Res} {e : Event ι Op In} (h : step apply o e = some o')
    (ho : ∀ i, (o.slot i).Steady takes x₀) : ∀ i, (o'.slot i).Steady takes x₀ := by
  cases e with
  | call j op =>
    simp only [step] at h
    split at h
    · cases h
      exact steady_update _ _ trivial ho
    · cases h
  | effect j x =>
    simp only [step] at h
    split at h
    · next op hslot =>
      cases h
      apply steady_update _ _ _ ho
      intro y
      have hy := hlaw o.state op x y
      have hx := hlaw o.state op x x₀
      omega
    · cases h
  | ret j x =>
    simp only [step] at h
    split at h
    · cases h
      exact steady_update _ _ trivial ho
    · cases h

variable [Fintype ι]

variable {brings takes holds x₀} in
lemma step_balance
    (hlaw : ∀ s op x y, holds (apply s op x).1 + takes ((apply s op x).2 y) = holds s + brings op)
    {o o' : Object ι S Op In Res} {e : Event ι Op In} (h : step apply o e = some o')
    (ho : ∀ i, (o.slot i).Steady takes x₀) :
    ((o.seen e).map (Seen.brought brings)).sum + holds o.state +
        ∑ i, (o.slot i).due brings takes x₀ =
      ((o.seen e).map (Seen.taken takes)).sum + holds o'.state +
        ∑ i, (o'.slot i).due brings takes x₀ := by
  cases e with
  | call i op =>
    simp only [step] at h
    split at h
    · next hslot =>
      cases h
      have hsum := sum_due_update brings takes x₀ o.slot i (.called op)
      simp only [hslot, due_idle, due_called] at hsum
      simp [seen, Seen.brought, Seen.taken]
      omega
    · cases h
  | effect i x =>
    simp only [step] at h
    split at h
    · next op hslot =>
      cases h
      have hsum := sum_due_update brings takes x₀ o.slot i (.answered (apply o.state op x).2)
      simp only [hslot, due_called, due_answered] at hsum
      have hop := hlaw o.state op x x₀
      simp [seen]
      omega
    · cases h
  | ret i x =>
    simp only [step] at h
    split at h
    · next answer hslot =>
      cases h
      have hsum := sum_due_update brings takes x₀ o.slot i .idle
      simp only [hslot, due_idle, due_answered] at hsum
      have hsteady : takes (answer x) = takes (answer x₀) := by
        have := ho i
        rw [hslot] at this
        exact this x
      simp [seen, Seen.brought, Seen.taken, hslot]
      omega
    · cases h

/-- What the calls bring is what the returns take and what the object holds, once no call is in
progress. -/
theorem balance
    (hlaw : ∀ s op x y, holds (apply s op x).1 + takes ((apply s op x).2 y) = holds s + brings op)
    {o o' : Object ι S Op In Res} {es : List (Event ι Op In)}
    (h : exec (step apply) o es = some o') (ho : ∀ i, (o.slot i).Steady takes x₀) :
    ((observed (step apply) seen o es).map (Seen.brought brings)).sum + holds o.state +
        ∑ i, (o.slot i).due brings takes x₀ =
      ((observed (step apply) seen o es).map (Seen.taken takes)).sum + holds o'.state +
        ∑ i, (o'.slot i).due brings takes x₀ := by
  induction es generalizing o with
  | nil => cases h; rfl
  | cons e es ih =>
    obtain ⟨u, hu, ht⟩ := exec_cons_eq_some.mp h
    have hstep := step_balance hlaw hu ho
    have hrest := ih ht (step_steady hlaw hu ho)
    rw [observed_cons hu, List.map_append, List.map_append, List.sum_append, List.sum_append]
    omega

end Object

end Balance

end Atomic
