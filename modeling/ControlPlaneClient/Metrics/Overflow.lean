import ControlPlaneClient.Metrics.Traffic

/-!
# What a full buffer gives up

A `record` into a full ring spends a non-billable sample whenever the ring has one. A returned batch
is not put back by that rule: its oldest samples are dropped as soon as there is no room, whatever
the ring holds by then.
-/

namespace ControlPlaneClient

open Transition

variable {σ : Type*} [HasOutcome σ]

namespace MetricsBuffer

/-! ### Recording -/

/-- A ring that gives up a billable sample has no other. -/
lemma evict_spares {b : MetricsBuffer σ} (h : b.buf.Tallied) :
    (∀ s ∈ b.buf.samples, billable s = true) ∨ b.evict.dropped true = b.dropped true := by
  by_cases hzero : count false b.buf.samples = 0
  · exact Or.inl (count_eq_zero_iff.mp hzero)
  · right
    have hpos : 0 < b.buf.nonBillable := by
      rw [h]
      exact Nat.pos_of_ne_zero hzero
    obtain ⟨i, s, hi, hs, hclass⟩ := h.exists_position hpos
    have hvictim : victim b.buf = i := by rw [victim, if_pos hpos, hi, Option.getD_some]
    have hremove : b.buf.remove (victim b.buf) = some (s,
        ⟨b.buf.samples.eraseIdx i, b.buf.nonBillable - (!billable s).toNat⟩) := by
      rw [hvictim, Ring.remove, hs, Option.map_some]
    rw [evict, hremove]
    dsimp only
    rw [countDrop_dropped]
    rw [billable] at hclass
    rw [hclass]
    rfl

lemma record_spares {b : MetricsBuffer σ} (h : b.buf.Tallied) (s : σ)
    (hdrop : b.dropped true < (b.record s).dropped true) :
    ∀ x ∈ (b.record s).buf.samples, billable x = true := by
  have hnotify : b.notifyFlush.buf.Tallied := by rwa [notifyFlush_buf]
  have hsame : b.notifyFlush.dropped true = b.dropped true := b.notifyFlush_dropped true
  have hpush : ∀ b : MetricsBuffer σ,
      ({ b with buf := b.buf.pushBack s } : MetricsBuffer σ).dropped true = b.dropped true :=
    fun _ => rfl
  simp only [record] at hdrop ⊢
  split_ifs at hdrop ⊢ with hfull hbill
  · -- A refusal that is dropped on arrival is not counted as billable.
    rw [countDrop_dropped, hsame] at hdrop
    rw [billable] at hbill
    simp only [Bool.not_eq_true'] at hbill
    simp [hbill] at hdrop
  · rcases evict_spares hnotify with hall | hkept
    · intro x hx
      rcases List.mem_append.mp hx with hx | hx
      · exact hall x ((evict_sublist _).subset hx)
      · rw [List.mem_singleton.mp hx]
        simpa using hbill
    · rw [hpush, hkept, hsame] at hdrop
      exact absurd hdrop (lt_irrefl _)
  · rw [hpush, hsame] at hdrop
    exact absurd hdrop (lt_irrefl _)

/-! ### Returning a batch -/

/-- How many samples of a returned batch, the oldest ones, find no room. -/
def overflowing (b : MetricsBuffer σ) (xs : List σ) : ℕ :=
  xs.length - (b.cap - b.buf.samples.length)

/-- The newest samples of a returned batch go back as far as there is room. -/
lemma requeueSamples_samples (xs : List σ) (b : MetricsBuffer σ) :
    (xs.foldr requeueSample b).buf.samples = xs.drop (b.overflowing xs) ++ b.buf.samples := by
  induction xs with
  | nil => simp
  | cons s xs ih =>
    have hcap := congrArg Caps.cap (requeueSamples_caps xs b)
    simp only [caps] at hcap
    have hlen := congrArg List.length ih
    simp only [List.length_append, List.length_drop, overflowing] at hlen
    rw [List.foldr_cons, requeueSample]
    split_ifs with hfull
    · have hover : b.overflowing (s :: xs) = b.overflowing xs + 1 := by
        simp only [overflowing, List.length_cons]
        omega
      rw [countDrop_buf, ih, hover, List.drop_succ_cons]
    · have hover : b.overflowing (s :: xs) = 0 ∧ b.overflowing xs = 0 := by
        simp only [overflowing, List.length_cons]
        omega
      rw [Ring.pushFront, ih, hover.1, hover.2, List.drop_zero, List.drop_zero, List.cons_append]

/-- The others are counted as dropped. -/
lemma requeueSamples_dropped (xs : List σ) (b : MetricsBuffer σ) (c : Bool) :
    (xs.foldr requeueSample b).dropped c =
      b.dropped c + count c (xs.take (b.overflowing xs)) := by
  have howed := requeueSamples_owed xs b c
  have hsplit := congrArg (count c) (List.take_append_drop (b.overflowing xs) xs)
  rw [owed, owed, requeueSamples_samples, count_append] at howed
  rw [count_append] at hsplit
  omega

lemma requeueFront_samples (b : MetricsBuffer σ) (d : Drained σ) :
    (b.requeueFront d).buf.samples = d.samples.drop (b.overflowing d.samples) ++ b.buf.samples :=
  requeueSamples_samples d.samples b

lemma requeueFront_dropped (b : MetricsBuffer σ) (d : Drained σ) (c : Bool) :
    (b.requeueFront d).dropped c =
      b.dropped c + count c (d.samples.take (b.overflowing d.samples)) + d.dropped c := by
  have h := requeueSamples_dropped d.samples b c
  cases c
  · exact congrArg (· + d.droppedNonBillable) h
  · exact congrArg (· + d.droppedOverflow) h

end MetricsBuffer

/-! ### The policy -/

namespace Traffic

/-- The billable samples that an operation drops: what it adds to `dropped_overflow`, but for the
count of a returned batch, which is restored. -/
def billableDrops (t : Traffic σ) : TrafficEvent σ → ℕ
  | .record s => (t.buffer.record s).droppedOverflow - t.buffer.droppedOverflow
  | .requeue i =>
    match t.outstanding[i]? with
    | some d =>
      (t.buffer.requeueFront d).droppedOverflow - t.buffer.droppedOverflow - d.droppedOverflow
    | none   => 0
  | _ => 0

/-- An operation that drops a billable sample leaves a ring with no other. -/
def SparesBillable (t : Traffic σ) (e : TrafficEvent σ) : Prop :=
  0 < t.billableDrops e → ∀ t', t.step e = some t' → ∀ s ∈ t'.buffer.buf.samples, billable s = true

/-- Of a returned batch, the oldest samples, which find no room, are all non-billable, or the rest
of it and the ring are all billable. -/
def ReturnsSpare (t : Traffic σ) : TrafficEvent σ → Prop
  | .requeue i => ∀ d, t.outstanding[i]? = some d →
      (∀ s ∈ d.samples.take (t.buffer.overflowing d.samples), billable s = false) ∨
      ∀ s ∈ d.samples.drop (t.buffer.overflowing d.samples) ++ t.buffer.buf.samples,
        billable s = true
  | _ => True

instance (t : Traffic σ) : ∀ e, Decidable (t.ReturnsSpare e)
  | .requeue i => inferInstanceAs (Decidable (∀ d ∈ t.outstanding[i]?, _ ∨ _))
  | .record _ | .recordEvents _ _ _ _ | .wake | .drain _ | .handOver _ | .discard _ =>
    .isTrue trivial

lemma Effect.sparesBillable_iff {t t' : Traffic σ} {e : TrafficEvent σ} (h : Effect t e t')
    (ht : t.buffer.buf.Tallied) (hstep : t.step e = some t') :
    t.SparesBillable e ↔ t.ReturnsSpare e := by
  rw [SparesBillable, hstep]
  simp only [Option.some.injEq, forall_eq']
  cases h with
  | record s =>
    refine ⟨fun _ => trivial, ?_⟩
    intro _ hdrop
    exact MetricsBuffer.record_spares ht s (Nat.lt_of_sub_pos hdrop)
  | requeue i d hd =>
    have hdropped : (t.buffer.requeueFront d).droppedOverflow = _ :=
      t.buffer.requeueFront_dropped d true
    have hcount : t.billableDrops (.requeue i) =
        count true (d.samples.take (t.buffer.overflowing d.samples)) := by
      simp only [billableDrops, hd, hdropped, MetricsBuffer.dropped, Drained.dropped, if_true]
      omega
    have hzero : t.billableDrops (.requeue i) = 0 ↔
        ∀ s ∈ d.samples.take (t.buffer.overflowing d.samples), billable s = false := by
      rw [hcount]
      exact count_eq_zero_iff
    simp only [ReturnsSpare, hd, Option.some.injEq, forall_eq', ← hzero,
      MetricsBuffer.requeueFront_samples]
    rw [or_iff_not_imp_left, Nat.pos_iff_ne_zero]
  | recordEvents now n m c => simp [billableDrops, ReturnsSpare]
  | wake hp => simp [billableDrops, ReturnsSpare]
  | drain now => simp [billableDrops, ReturnsSpare]
  | handOver i d hd => simp [billableDrops, ReturnsSpare]
  | discard i d hd hempty => simp [billableDrops, ReturnsSpare]

/-- Billable samples are the last to go, in every step of a run, exactly when every batch that is
returned to a ring without room for it spares them. -/
theorem billable_last_to_go_iff (cap batchCap : ℕ) (es : List (TrafficEvent σ)) (t : Traffic σ)
    (h : exec step (init cap batchCap) es = some t) :
    StepsMeet step SparesBillable (init cap batchCap) es ↔
      StepsMeet step ReturnsSpare (init cap batchCap) es :=
  stepsMeet_congr (I := fun t => t.buffer.WellFormed cap batchCap)
    (fun _ _ _ ht hstep => (step_effect hstep).wellFormed ht)
    (fun _ _ _ ht hstep => (step_effect hstep).sparesBillable_iff ht.tallied hstep)
    (.withCaps cap batchCap) h

end Traffic

/-- A ring of two takes back a batch of one, and then gives up its refusal for a call. -/
theorem billable_last_to_go_iff_with_room :
    let es : List (TrafficEvent ToolCallSample) := [.record (sampleCall .ok), .drain 0,
      .record (sampleCall .policyDenied), .requeue 0, .record (sampleCall .ok)]
    ∃ t, exec Traffic.step (.init 2 2) es = some t ∧
      StepsMeet Traffic.step Traffic.ReturnsSpare (.init 2 2) es ∧
      StepsMeet Traffic.step Traffic.SparesBillable (.init 2 2) es := by
  intro es
  have hrun : ∃ t, exec Traffic.step (.init 2 2) es = some t := ⟨_, rfl⟩
  obtain ⟨t, ht⟩ := hrun
  have hmeet : StepsMeet Traffic.step Traffic.ReturnsSpare (.init 2 2) es := by
    decide
  exact ⟨t, ht, hmeet, (Traffic.billable_last_to_go_iff 2 2 es t ht).mpr hmeet⟩

/-- Two calls come back to a ring that two refusals have filled: both are dropped, and the refusals
stay. -/
theorem returned_calls_dropped_before_refusals :
    let es : List (TrafficEvent ToolCallSample) := [.record (sampleCall .ok), .record (sampleCall .ok), .drain 0,
      .record (sampleCall .policyDenied), .record (sampleCall .policyDenied)]
    ∃ t t', exec Traffic.step (.init 2 2) es = some t ∧ t.step (.requeue 0) = some t' ∧
      t.billableDrops (.requeue 0) = 2 ∧
      t'.buffer.buf.samples.map outcome = [.policyDenied, .policyDenied] ∧
      ¬ t.SparesBillable (.requeue 0) := by
  intro es
  refine ⟨_, _, rfl, rfl, rfl, rfl, ?_⟩
  intro h
  have := h (by decide) _ rfl (sampleCall .policyDenied) (by decide)
  cases this

end ControlPlaneClient
