import ControlPlaneClient.Metrics.Bounds

/-!
# A buffer and the batches that left it

The operations of a `MetricsBuffer` one by one, in any order: samples and usage are recorded,
batches are drained, and a drained batch is handed over, or returned by `requeue_front`, whenever
it pleases. This says nothing of who makes the calls. The flush loops of a lane are one such order
of calls.

The invariant of the ring is that it knows how many non-billable samples it holds, and that it does
not grow past its capacity.
-/

namespace ControlPlaneClient

open Transition

variable {σ : Type*} [HasOutcome σ]

/-- A buffer with the batches that are out and those that were handed over. -/
structure Traffic (σ : Type*) where
  buffer      : MetricsBuffer σ
  outstanding : List (Drained σ)
  handed      : List (Drained σ)

inductive TrafficEvent (σ : Type*)
  | record (s : σ)
  | recordEvents (now : DateTime) (eventName mode : String) (counts : EventCounts)
  /-- A flush loop takes the permit of the early wake. -/
  | wake
  | drain (now : DateTime)
  | handOver (i : ℕ)
  /-- A batch with nothing in it is neither sent nor returned. -/
  | discard (i : ℕ)
  | requeue (i : ℕ)

namespace Traffic

def init (cap batchCap : ℕ) : Traffic σ := ⟨.withCaps cap batchCap, [], []⟩

def step (t : Traffic σ) : TrafficEvent σ → Option (Traffic σ)
  | .record s => some { t with buffer := t.buffer.record s }
  | .recordEvents now n m c => some { t with buffer := t.buffer.recordEvents now n m c }
  | .wake =>
    if t.buffer.flushEarly then some { t with buffer := { t.buffer with flushEarly := false } }
    else none
  | .drain now =>
    let (d, b) := t.buffer.drain now
    some { t with buffer := b, outstanding := t.outstanding ++ [d] }
  | .handOver i => do
    let d ← t.outstanding[i]?
    some { t with outstanding := t.outstanding.eraseIdx i, handed := t.handed ++ [d] }
  | .discard i => do
    let d ← t.outstanding[i]?
    if d.isEmpty then some { t with outstanding := t.outstanding.eraseIdx i } else none
  | .requeue i => do
    let d ← t.outstanding[i]?
    some { t with buffer := t.buffer.requeueFront d, outstanding := t.outstanding.eraseIdx i }

/-- All that a step can do. -/
inductive Effect (t : Traffic σ) : TrafficEvent σ → Traffic σ → Prop
  | record (s : σ) : Effect t (.record s) { t with buffer := t.buffer.record s }
  | recordEvents (now : DateTime) (n m : String) (c : EventCounts) :
      Effect t (.recordEvents now n m c) { t with buffer := t.buffer.recordEvents now n m c }
  | wake (h : t.buffer.flushEarly = true) :
      Effect t .wake { t with buffer := { t.buffer with flushEarly := false } }
  | drain (now : DateTime) : Effect t (.drain now)
      { t with
        buffer := t.buffer.afterDrain
        outstanding := t.outstanding ++ [t.buffer.drained now] }
  | handOver (i : ℕ) (d : Drained σ) (h : t.outstanding[i]? = some d) : Effect t (.handOver i)
      { t with outstanding := t.outstanding.eraseIdx i, handed := t.handed ++ [d] }
  | discard (i : ℕ) (d : Drained σ) (h : t.outstanding[i]? = some d) (hempty : d.isEmpty = true) :
      Effect t (.discard i) { t with outstanding := t.outstanding.eraseIdx i }
  | requeue (i : ℕ) (d : Drained σ) (h : t.outstanding[i]? = some d) : Effect t (.requeue i)
      { t with buffer := t.buffer.requeueFront d, outstanding := t.outstanding.eraseIdx i }

lemma step_effect {t t' : Traffic σ} {e : TrafficEvent σ} (h : t.step e = some t') :
    Effect t e t' := by
  cases e with
  | record s => cases h; exact .record s
  | recordEvents now n m c => cases h; exact .recordEvents now n m c
  | wake =>
    simp only [step] at h
    split at h
    · cases h; exact .wake ‹_›
    · cases h
  | drain now => cases h; exact .drain now
  | handOver i =>
    obtain ⟨d, hd, h⟩ := Option.bind_eq_some_iff.mp h
    cases h
    exact .handOver i d hd
  | discard i =>
    obtain ⟨d, hd, h⟩ := Option.bind_eq_some_iff.mp h
    split at h
    · cases h; exact .discard i d hd ‹_›
    · cases h
  | requeue i =>
    obtain ⟨d, hd, h⟩ := Option.bind_eq_some_iff.mp h
    cases h
    exact .requeue i d hd

end Traffic

/-! ### The ring -/

/-- The ring knows how many non-billable samples it holds. -/
def Ring.Tallied (r : Ring σ) : Prop := r.nonBillable = count false r.samples

lemma not_billable_toNat (s : σ) : (!billable s).toNat = (billable s == false).toNat := by
  cases billable s <;> rfl

lemma countP_not_billable (xs : List σ) : (xs.countP fun s => !billable s) = count false xs :=
  List.countP_congr (by simp)

lemma count_eq_zero_iff {c : Bool} {xs : List σ} :
    count c xs = 0 ↔ ∀ s ∈ xs, billable s = !c := by
  rw [count, List.countP_eq_zero]
  constructor
  · intro h s hs
    have := h s hs
    cases hb : billable s <;> cases c <;> simp_all
  · intro h s hs
    rw [h s hs]
    cases c <;> decide

namespace Ring.Tallied

lemma pushBack {r : Ring σ} (h : r.Tallied) (s : σ) : (r.pushBack s).Tallied := by
  rw [Ring.Tallied] at h
  rw [Ring.Tallied, Ring.pushBack, h, not_billable_toNat, count_append, count_cons, count_nil,
    Nat.zero_add]

lemma pushFront {r : Ring σ} (h : r.Tallied) (s : σ) : (r.pushFront s).Tallied := by
  rw [Ring.Tallied] at h
  rw [Ring.Tallied, Ring.pushFront, h, not_billable_toNat, count_cons]

lemma remove {r r' : Ring σ} {i : ℕ} {s : σ} (h : r.Tallied) (hr : r.remove i = some (s, r')) :
    r'.Tallied := by
  obtain ⟨x, hx, heq⟩ := Option.map_eq_some_iff.mp hr
  cases heq
  have hcount := count_eraseIdx hx false
  rw [Ring.Tallied] at h
  rw [Ring.Tallied, not_billable_toNat]
  dsimp only
  omega

/-- A sample of the ring is counted. -/
lemma toNat_le {r : Ring σ} (h : r.Tallied) {i : ℕ} {s : σ} (hs : r.samples[i]? = some s) :
    (!billable s).toNat ≤ r.nonBillable := by
  have hcount := count_eraseIdx hs false
  rw [Ring.Tallied] at h
  rw [not_billable_toNat]
  omega

/-- The count is not ahead of the samples: while it is positive, there is one to find. -/
lemma exists_position {r : Ring σ} (h : r.Tallied) (hpos : 0 < r.nonBillable) :
    ∃ i s, (r.samples.findIdx? fun s => !billable s) = some i ∧ r.samples[i]? = some s ∧
      billable s = false := by
  have hsome : (r.samples.findIdx? fun s => !billable s).isSome = true := by
    rw [List.findIdx?_isSome, List.any_eq_true]
    rw [h, Nat.pos_iff_ne_zero, ne_eq, count_eq_zero_iff] at hpos
    push Not at hpos
    obtain ⟨s, hs, hb⟩ := hpos
    exact ⟨s, hs, by simpa using hb⟩
  obtain ⟨i, hi⟩ := Option.isSome_iff_exists.mp hsome
  obtain ⟨hlt, hbill, -⟩ := List.findIdx?_eq_some_iff_getElem.mp hi
  exact ⟨i, r.samples[i], hi, List.getElem?_eq_getElem hlt, by simpa using hbill⟩

end Ring.Tallied

namespace MetricsBuffer

lemma evict_tallied {b : MetricsBuffer σ} (h : b.buf.Tallied) : b.evict.buf.Tallied := by
  rw [evict]
  split
  · rw [countDrop_buf]
    exact h.remove ‹_›
  · exact h

lemma record_tallied {b : MetricsBuffer σ} (h : b.buf.Tallied) (s : σ) :
    (b.record s).buf.Tallied := by
  have hnotify : b.notifyFlush.buf.Tallied := by rwa [notifyFlush_buf]
  simp only [record]
  split_ifs
  · rwa [countDrop_buf]
  · exact (evict_tallied hnotify).pushBack s
  · exact hnotify.pushBack s

/-- What is drained is counted too. -/
lemma drained_le_nonBillable {b : MetricsBuffer σ} (h : b.buf.Tallied) (n : ℕ) :
    ((b.buf.samples.take n).countP fun s => !billable s) ≤ b.buf.nonBillable := by
  rw [h, ← countP_not_billable]
  exact (List.take_sublist n b.buf.samples).countP_le

lemma afterDrain_tallied {b : MetricsBuffer σ} (h : b.buf.Tallied) : b.afterDrain.buf.Tallied := by
  have hsplit := congrArg (count false)
    (List.take_append_drop (min b.buf.samples.length b.batchCap) b.buf.samples)
  rw [count_append] at hsplit
  rw [Ring.Tallied] at h
  rw [Ring.Tallied, afterDrain, countP_not_billable, h]
  dsimp only
  omega

lemma requeueSamples_tallied {b : MetricsBuffer σ} (h : b.buf.Tallied) (xs : List σ) :
    (xs.foldr requeueSample b).buf.Tallied := by
  induction xs with
  | nil => exact h
  | cons s xs ih =>
    rw [List.foldr_cons, requeueSample]
    split
    · rwa [countDrop_buf]
    · exact ih.pushFront s

/-- What holds of a buffer that was created with the two capacities. -/
structure WellFormed (cap batchCap : ℕ) (b : MetricsBuffer σ) : Prop where
  caps    : b.caps = ⟨cap, batchCap, max (cap - cap / 5) 1⟩
  tallied : b.buf.Tallied
  length  : b.buf.samples.length ≤ max cap 1

namespace WellFormed

variable {cap batchCap : ℕ} {b : MetricsBuffer σ}

lemma cap_eq (h : b.WellFormed cap batchCap) : b.cap = cap := congrArg Caps.cap h.caps

lemma batchCap_eq (h : b.WellFormed cap batchCap) : b.batchCap = batchCap :=
  congrArg Caps.batchCap h.caps

lemma flushEarlyAt_eq (h : b.WellFormed cap batchCap) : b.flushEarlyAt = max (cap - cap / 5) 1 :=
  congrArg Caps.flushEarlyAt h.caps

lemma withCaps (cap batchCap : ℕ) : (withCaps cap batchCap : MetricsBuffer σ).WellFormed cap batchCap :=
  ⟨rfl, rfl, Nat.zero_le _⟩

lemma record (h : b.WellFormed cap batchCap) (s : σ) : (b.record s).WellFormed cap batchCap := by
  refine ⟨(b.record_caps s).trans h.caps, record_tallied h.tallied s, ?_⟩
  have hlen := h.length
  rw [← h.cap_eq] at hlen ⊢
  exact record_length_le b s hlen

lemma recordEvents (h : b.WellFormed cap batchCap) (now : DateTime) (n m : String)
    (c : EventCounts) : (b.recordEvents now n m c).WellFormed cap batchCap := by
  refine ⟨(b.recordEvents_caps now n m c).trans h.caps, ?_, ?_⟩
  · rw [recordEvents_buf]
    exact h.tallied
  · rw [recordEvents_buf]
    exact h.length

lemma permit (h : b.WellFormed cap batchCap) (p : Bool) :
    ({ b with flushEarly := p } : MetricsBuffer σ).WellFormed cap batchCap :=
  ⟨h.caps, h.tallied, h.length⟩

lemma afterDrain (h : b.WellFormed cap batchCap) : b.afterDrain.WellFormed cap batchCap := by
  refine ⟨h.caps, afterDrain_tallied h.tallied, ?_⟩
  rw [afterDrain_length]
  exact (Nat.sub_le _ _).trans h.length

lemma requeueFront (h : b.WellFormed cap batchCap) (d : Drained σ) :
    (b.requeueFront d).WellFormed cap batchCap := by
  refine ⟨(b.requeueFront_caps d).trans h.caps, requeueSamples_tallied h.tallied d.samples, ?_⟩
  have hlen := h.length
  have hle := requeueSamples_length_le d.samples b
  rw [h.cap_eq] at hle
  exact hle.trans (max_le (le_max_left _ _) hlen)

end WellFormed

end MetricsBuffer

lemma FlushEffect.wellFormed {b b' : MetricsBuffer σ} {e : FlushEvent} {cap batchCap : ℕ}
    {held held' : Option (Drained σ)} {out : List (Drained σ)}
    (h : FlushEffect b e held b' held' out) (hb : b.WellFormed cap batchCap) :
    b'.WellFormed cap batchCap := by
  cases h with
  | idle e permit => exact hb.permit permit
  | took now hne => exact hb.afterDrain
  | tookNothing now hempty => exact hb.afterDrain
  | handedOver d => exact hb
  | returned e d he =>
    rw [MetricsBuffer.dropInFlight]
    split
    · exact hb
    · exact hb.requeueFront d

namespace Traffic

lemma Effect.wellFormed {t t' : Traffic σ} {e : TrafficEvent σ} {cap batchCap : ℕ}
    (h : Effect t e t') (ht : t.buffer.WellFormed cap batchCap) :
    t'.buffer.WellFormed cap batchCap := by
  cases h with
  | record s => exact ht.record s
  | recordEvents now n m c => exact ht.recordEvents now n m c
  | wake hp => exact ht.permit false
  | drain now => exact ht.afterDrain
  | handOver i d hd => exact ht
  | discard i d hd hempty => exact ht
  | requeue i d hd => exact ht.requeueFront d

lemma exec_wellFormed {cap batchCap : ℕ} {es : List (TrafficEvent σ)} {t : Traffic σ}
    (h : exec step (init cap batchCap) es = some t) : t.buffer.WellFormed cap batchCap :=
  exec_invariant (fun _ _ _ ht hstep => (step_effect hstep).wellFormed ht) (.withCaps cap batchCap) h

end Traffic

/-- A call with the given outcome. -/
def sampleCall (o : SampleOutcome) : ToolCallSample := .plain "github" "list_repos" o 5

end ControlPlaneClient
