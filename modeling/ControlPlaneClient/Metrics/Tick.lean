import ControlPlaneClient.Lib.Batches
import ControlPlaneClient.Metrics.EarlyFlush

/-!
# One tick of the flush loop

The `for` loop that a tick of `flush_loop` runs, with nobody else at the buffer. It stops at a batch
that is not full, or after as many batches as a full ring has; either way it has taken all there was.
-/

namespace ControlPlaneClient

open Transition

variable {σ : Type*} [HasOutcome σ]

/-- A batch with no drop counts and no usage. -/
def Drained.SamplesOnly (d : Drained σ) : Prop := (∀ c, d.dropped c = 0) ∧ d.events = []

/-- A batch with all the drop counts and all the usage of a buffer. -/
def MetricsBuffer.Reported (b : MetricsBuffer σ) (d : Drained σ) : Prop :=
  (∀ c, d.dropped c = b.dropped c) ∧ ∃ now, d.events = MetricsBuffer.usageRows b.events now

/-- A flush of `b` sends the batches `sent` and leaves `b'`, with nothing in it. The first batch
carries all the drop counts and all the usage; if none is sent, there were none. -/
structure Ships (b : MetricsBuffer σ) (sent : List (Drained σ)) (b' : MetricsBuffer σ) : Prop where
  ring     : b'.buf = ⟨[], 0⟩
  drops    : ∀ c, b'.dropped c = 0
  events   : b'.events = {}
  shipment : Shipment Drained.samples b.batchCap b.buf.samples b.Reported Drained.SamplesOnly sent
  nothing  : sent = [] → (∀ c, b.dropped c = 0) ∧ b.events.counts.entries = []

omit [HasOutcome σ] in
lemma Drained.isEmpty_iff {d : Drained σ} :
    d.isEmpty = true ↔ d.samples = [] ∧ d.SamplesOnly := by
  simp only [Drained.isEmpty, Drained.SamplesOnly, Bool.and_eq_true, List.isEmpty_iff, beq_iff_eq, Bool.forall_bool,
    Drained.dropped]
  tauto

namespace MetricsBuffer

lemma usageRows_eq_nil {r : EventsRollup} (now : DateTime) :
    usageRows r now = [] ↔ r.counts.entries = [] := List.map_eq_nil_iff

omit [HasOutcome σ] in
lemma drained_dropped (b : MetricsBuffer σ) (now : DateTime) (c : Bool) :
    (b.drained now).dropped c = b.dropped c := by
  cases c <;> rfl

omit [HasOutcome σ] in
lemma reported_drained (b : MetricsBuffer σ) (now : DateTime) : b.Reported (b.drained now) :=
  ⟨b.drained_dropped now, now, rfl⟩

lemma afterDrain_dropped (b : MetricsBuffer σ) (c : Bool) : b.afterDrain.dropped c = 0 := by
  cases c <;> rfl

@[simp] lemma afterDrain_batchCap (b : MetricsBuffer σ) : b.afterDrain.batchCap = b.batchCap := rfl

@[simp] lemma afterDrain_afterBatch (b : MetricsBuffer σ) (n left : ℕ) :
    b.afterDrain.afterBatch n left = b.afterBatch n left := rfl

/-- After a drain there are samples only to report. -/
lemma afterDrain_reported {b : MetricsBuffer σ} : b.afterDrain.Reported = Drained.SamplesOnly := by
  funext d
  apply propext
  constructor
  · rintro ⟨hdrops, now, hevents⟩
    refine ⟨?_, hevents⟩
    intro c
    rw [hdrops, afterDrain_dropped]
  · rintro ⟨hdrops, hevents⟩
    refine ⟨?_, 0, hevents⟩
    intro c
    rw [hdrops, afterDrain_dropped]

/-- A drain that takes all the samples leaves nothing. -/
lemma afterDrain_buf {b : MetricsBuffer σ} (h : b.buf.Tallied)
    (hlen : b.buf.samples.length ≤ b.batchCap) : b.afterDrain.buf = ⟨[], 0⟩ := by
  have hnil : b.afterDrain.buf.samples = [] := by
    rw [← List.length_eq_zero_iff, afterDrain_length]
    omega
  have htally : b.afterDrain.buf.nonBillable = count false b.afterDrain.buf.samples :=
    afterDrain_tallied h
  rw [hnil, count_nil] at htally
  cases hbuf : b.afterDrain.buf with
  | mk samples n =>
    rw [hbuf] at hnil htally
    cases hnil
    cases htally
    rfl

end MetricsBuffer

namespace Ships

variable {b b' : MetricsBuffer σ} {rest : List (Drained σ)} {now : DateTime}

open MetricsBuffer

/-- A batch with nothing in it is the end, and is not sent. -/
lemma ofEmpty (hb : b.buf.Tallied) (hbatch : 1 ≤ b.batchCap)
    (h : (b.drained now).isEmpty = true) : Ships b [] b.afterDrain := by
  obtain ⟨hsamples, hdrops, hevents⟩ := Drained.isEmpty_iff.mp h
  have hlen := b.drained_length now
  rw [hsamples, List.length_nil] at hlen
  have hnil : b.buf.samples = [] := List.length_eq_zero_iff.mp (by omega)
  constructor
  · exact afterDrain_buf hb (by rw [hnil]; exact Nat.zero_le _)
  · exact b.afterDrain_dropped
  · rfl
  · rw [hnil]
    exact Shipment.nil
  · intro _
    refine ⟨?_, (usageRows_eq_nil now).mp hevents⟩
    intro c
    rw [← b.drained_dropped now c]
    exact hdrops c

/-- The batch of a drain, in front of what is sent after it. -/
lemma shipment_cons (hne : (b.drained now).isEmpty = false)
    (h : Shipment Drained.samples b.batchCap b.afterDrain.buf.samples Drained.SamplesOnly
      Drained.SamplesOnly rest) :
    Shipment Drained.samples b.batchCap b.buf.samples b.Reported Drained.SamplesOnly
      (b.drained now :: rest) := by
  have hlen := b.drained_length now
  rw [← b.drained_append_afterDrain now]
  apply h.cons
  · rw [hlen]
    exact min_le_right _ _
  · intro hshort
    rw [← List.length_eq_zero_iff, afterDrain_length]
    omega
  · exact b.reported_drained now
  · intro hnil honly
    rw [Drained.isEmpty_iff.mpr ⟨hnil, honly⟩] at hne
    cases hne

/-- A batch that takes all the samples. -/
lemma ofLast (hb : b.buf.Tallied) (h : (b.drained now).isEmpty = false)
    (hlen : b.buf.samples.length ≤ b.batchCap) : Ships b [b.drained now] b.afterDrain := by
  have hbuf := afterDrain_buf hb hlen
  constructor
  · exact hbuf
  · exact b.afterDrain_dropped
  · rfl
  · apply shipment_cons h
    rw [hbuf]
    exact Shipment.nil
  · intro hnil
    cases hnil

/-- A batch, and then a flush of the rest. -/
lemma cons (hne : (b.drained now).isEmpty = false) (h : Ships b.afterDrain rest b') :
    Ships b (b.drained now :: rest) b' := by
  have hrest := h.shipment
  rw [afterDrain_reported] at hrest
  constructor
  · exact h.ring
  · exact h.drops
  · exact h.events
  · exact shipment_cons hne hrest
  · intro hnil
    cases hnil

end Ships

/-! ### The loop -/

/-- An instance of `flush_loop` in a tick, with what the tick has sent. -/
structure Tick (σ : Type*) where
  buffer : MetricsBuffer σ
  phase  : FlushPhase σ
  sent   : List (Drained σ)

/-- The steps of a tick whose sends all succeed. -/
def FlushEvent.succeeds : FlushEvent → Bool
  | .drain _ | .sent => true
  | _                => false

namespace Tick

/-- The ticker has fired. -/
def start (b : MetricsBuffer σ) : Tick σ := ⟨b, .flushing (b.batchesPerTick - 1), []⟩

def step (k : Tick σ) (e : FlushEvent) : Option (Tick σ) :=
  (flushStep k.buffer k.phase e).map fun r => ⟨r.1, r.2.1, k.sent ++ r.2.2⟩

lemma step_drain_of_isEmpty {b : MetricsBuffer σ} {now : DateTime}
    (h : (b.drained now).isEmpty = true) (left : ℕ) (out : List (Drained σ)) :
    step ⟨b, .flushing left, out⟩ (.drain now) =
      some ⟨b.afterDrain, b.afterBatch (b.drained now).samples.length left, out⟩ := by
  simp [step, flushStep, MetricsBuffer.drain, h]

lemma step_drain {b : MetricsBuffer σ} {now : DateTime} (h : ¬ (b.drained now).isEmpty = true)
    (left : ℕ) (out : List (Drained σ)) :
    step ⟨b, .flushing left, out⟩ (.drain now) =
      some ⟨b.afterDrain, .sending left (b.drained now), out⟩ := by
  simp [step, flushStep, MetricsBuffer.drain, h]

/-- A loop that waits makes no step of a tick. -/
lemma exec_waiting {b : MetricsBuffer σ} {out : List (Drained σ)} {es : List FlushEvent} {k : Tick σ}
    (hes : ∀ e ∈ es, e.succeeds = true) (h : exec step ⟨b, .waiting, out⟩ es = some k) :
    k = ⟨b, .waiting, out⟩ := by
  cases es with
  | nil => cases h; rfl
  | cons e es =>
    have he := hes e (by simp)
    cases e with
    | drain now => cases h
    | sent => cases h
    | _ => cases he

/-- One round of the loop: a drain and, unless there is nothing to send, a send. -/
lemma exec_flushing {b : MetricsBuffer σ} {left : ℕ} {out : List (Drained σ)} {es : List FlushEvent}
    {k : Tick σ} (hes : ∀ e ∈ es, e.succeeds = true)
    (h : exec step ⟨b, .flushing left, out⟩ es = some k) (hend : k.phase = .waiting) :
    ∃ now es', (∀ e ∈ es', e.succeeds = true) ∧
      exec step ⟨b.afterDrain, b.afterBatch (b.drained now).samples.length left,
        out ++ if (b.drained now).isEmpty then [] else [b.drained now]⟩ es' = some k := by
  obtain ⟨e, k₁, es, he, h₁, hes, h⟩ :=
    exists_first_step (D := fun k : Tick σ => k.phase = .waiting) h hes nofun hend
  cases e with
  | drain now =>
    by_cases hempty : (b.drained now).isEmpty = true
    · rw [step_drain_of_isEmpty hempty] at h₁
      cases h₁
      exact ⟨now, es, hes, by rwa [if_pos hempty, List.append_nil]⟩
    · rw [step_drain hempty] at h₁
      cases h₁
      obtain ⟨e, k₂, es, he, h₂, hes, h⟩ :=
        exists_first_step (D := fun k : Tick σ => k.phase = .waiting) h hes nofun hend
      cases e with
      | sent =>
        cases h₂
        exact ⟨now, es, hes, by rwa [if_neg hempty]⟩
      | drain now' => cases h₂
      | _ => cases he
  | sent => cases h₁
  | _ => cases he

/-- A loop that may take enough batches ships the whole ring. -/
lemma exec_ships {cap batchCap : ℕ} (hbatch : 1 ≤ batchCap) {left : ℕ} {b : MetricsBuffer σ}
    {out : List (Drained σ)} {es : List FlushEvent} {k : Tick σ} (hb : b.WellFormed cap batchCap)
    (hlen : b.buf.samples.length ≤ (left + 1) * batchCap) (hes : ∀ e ∈ es, e.succeeds = true)
    (h : exec step ⟨b, .flushing left, out⟩ es = some k) (hend : k.phase = .waiting) :
    ∃ sent, k.sent = out ++ sent ∧ Ships b sent k.buffer := by
  induction left generalizing b out es with
  | zero =>
    obtain ⟨now, es, hes, h⟩ := exec_flushing hes h hend
    have hafter : b.afterBatch (b.drained now).samples.length 0 = .waiting := by
      rw [MetricsBuffer.afterBatch.eq_def]
      split <;> rfl
    rw [hafter] at h
    rw [exec_waiting hes h]
    refine ⟨_, rfl, ?_⟩
    rw [Nat.zero_add, Nat.one_mul, ← hb.batchCap_eq] at hlen
    split_ifs with hempty
    · exact .ofEmpty hb.tallied (by rw [hb.batchCap_eq]; exact hbatch) hempty
    · exact .ofLast hb.tallied (Bool.eq_false_iff.mpr hempty) hlen
  | succ left ih =>
    obtain ⟨now, es, hes, h⟩ := exec_flushing hes h hend
    have hcount := b.drained_length now
    rw [hb.batchCap_eq] at hcount
    rw [MetricsBuffer.afterBatch.eq_def, hb.batchCap_eq] at h
    split_ifs at h with hshort hempty hempty
    · rw [exec_waiting hes h]
      exact ⟨[], rfl, .ofEmpty hb.tallied (by rw [hb.batchCap_eq]; exact hbatch) hempty⟩
    · rw [exec_waiting hes h]
      refine ⟨_, rfl, .ofLast hb.tallied (Bool.eq_false_iff.mpr hempty) ?_⟩
      rw [hb.batchCap_eq]
      omega
    · rw [(Drained.isEmpty_iff.mp hempty).1, List.length_nil] at hshort
      exact absurd hbatch hshort
    · have hrest : b.afterDrain.buf.samples.length ≤ (left + 1) * batchCap := by
        rw [MetricsBuffer.afterDrain_length, hb.batchCap_eq]
        rw [Nat.succ_mul] at hlen
        exact Nat.sub_le_of_le_add hlen
      obtain ⟨sent, hsent, hships⟩ := ih hb.afterDrain hrest hes h
      refine ⟨b.drained now :: sent, ?_, hships.cons (Bool.eq_false_iff.mpr hempty)⟩
      rw [hsent, List.append_assoc, List.singleton_append]

/-- The steps that a tick still has to make, at most. -/
def stepsLeft (k : Tick σ) : ℕ :=
  match k.phase with
  | .flushing left  => 2 * left + 2
  | .sending left _ => 2 * left + 1
  | _               => 0

/-- The loop is in a tick, or at the end of one. -/
def Running (k : Tick σ) : Prop :=
  match k.phase with
  | .flushing _ | .sending _ _ | .waiting => True
  | _                                     => False

omit [HasOutcome σ] in
lemma afterBatch_running (b b' : MetricsBuffer σ) (n left : ℕ) (out : List (Drained σ)) :
    (⟨b', b.afterBatch n left, out⟩ : Tick σ).Running ∧
      stepsLeft ⟨b', b.afterBatch n left, out⟩ ≤ 2 * left := by
  rw [MetricsBuffer.afterBatch.eq_def]
  split
  · exact ⟨trivial, Nat.zero_le _⟩
  · cases left with
    | zero => exact ⟨trivial, Nat.zero_le _⟩
    | succ left => exact ⟨trivial, le_rfl⟩

/-- The sends succeeding, a tick comes to its end. -/
lemma exists_exec {k : Tick σ} (hk : k.Running) :
    ∃ es k', (∀ e ∈ es, FlushEvent.succeeds e = true) ∧ exec step k es = some k' ∧
      k'.phase = .waiting := by
  apply exists_exec_done (I := Running) stepsLeft _ hk
  rintro ⟨b, phase, out⟩ hrun hdone
  cases phase with
  | flushing left =>
    by_cases hempty : (b.drained 0).isEmpty = true
    · obtain ⟨hrun', hleft⟩ :=
        afterBatch_running b b.afterDrain (b.drained 0).samples.length left out
      refine ⟨.drain 0, _, rfl, step_drain_of_isEmpty hempty left out, hrun', ?_⟩
      simp only [stepsLeft] at hleft ⊢
      omega
    · refine ⟨.drain 0, _, rfl, step_drain hempty left out, trivial, ?_⟩
      simp only [stepsLeft]
      omega
  | sending left batch =>
    obtain ⟨hrun', hleft⟩ := afterBatch_running b b batch.samples.length left (out ++ [batch])
    refine ⟨.sent, _, rfl, rfl, hrun', ?_⟩
    simp only [stepsLeft] at hleft ⊢
    omega
  | waiting => exact absurd rfl hdone
  | starting | spacing | stopped => exact absurd hrun id

end Tick

end ControlPlaneClient
