import ControlPlaneClient.Metrics.Order

/-!
# Capacities of the metrics buffer

No operation changes the capacities. The ring never grows past `max cap 1`: with `cap = 0` an
arriving billable sample finds nothing to give up and is stored all the same.
-/

namespace ControlPlaneClient

variable {σ : Type*} [HasOutcome σ]

namespace MetricsBuffer

/-- What is fixed when the buffer is created. -/
structure Caps where
  cap          : ℕ
  batchCap     : ℕ
  flushEarlyAt : ℕ

def caps (b : MetricsBuffer σ) : Caps := ⟨b.cap, b.batchCap, b.flushEarlyAt⟩

omit [HasOutcome σ] in
@[simp] lemma countDrop_caps (b : MetricsBuffer σ) (o : SampleOutcome) :
    (b.countDrop o).caps = b.caps := by
  rw [countDrop]; split <;> rfl

omit [HasOutcome σ] in
@[simp] lemma notifyFlush_caps (b : MetricsBuffer σ) : b.notifyFlush.caps = b.caps := by
  rw [notifyFlush]; split <;> rfl

omit [HasOutcome σ] in
@[simp] lemma recordEvents_caps (b : MetricsBuffer σ) (now : DateTime) (n m : String)
    (k : EventCounts) : (b.recordEvents now n m k).caps = b.caps := by
  rw [recordEvents]; split <;> rfl

@[simp] lemma evict_caps (b : MetricsBuffer σ) : b.evict.caps = b.caps :=
  evict_frame caps countDrop_caps (fun _ _ => rfl) b

@[simp] lemma record_caps (b : MetricsBuffer σ) (s : σ) : (b.record s).caps = b.caps := by
  simp only [record]
  split_ifs
  · rw [countDrop_caps, notifyFlush_caps]
  · exact (evict_caps _).trans (notifyFlush_caps b)
  · exact notifyFlush_caps b

lemma requeueSamples_caps (xs : List σ) (b : MetricsBuffer σ) :
    (xs.foldr requeueSample b).caps = b.caps :=
  requeueSamples_frame caps countDrop_caps (fun _ _ => rfl) xs b

@[simp] lemma requeueFront_caps (b : MetricsBuffer σ) (d : Drained σ) :
    (b.requeueFront d).caps = b.caps := requeueSamples_caps d.samples b

@[simp] lemma dropInFlight_caps (b : MetricsBuffer σ) (d : Drained σ) :
    (b.dropInFlight d).caps = b.caps := by
  rw [dropInFlight]
  split
  · rfl
  · exact b.requeueFront_caps d

/-! ### Lengths -/

lemma evict_length (b : MetricsBuffer σ) :
    b.evict.buf.samples.length = b.buf.samples.length - 1 := by
  rcases evict_cases b with ⟨hnil, heq⟩ | ⟨i, s, hi, hbuf, _⟩
  · rw [heq, hnil]; rfl
  · obtain ⟨hlt, -⟩ := List.getElem?_eq_some_iff.mp hi
    rw [hbuf, List.length_eraseIdx_of_lt hlt]

/-- A record grows the ring only below its capacity, or when it is empty. -/
lemma record_length_le (b : MetricsBuffer σ) (s : σ)
    (h : b.buf.samples.length ≤ max b.cap 1) :
    (b.record s).buf.samples.length ≤ max b.cap 1 := by
  have hevict := evict_length b.notifyFlush
  rw [notifyFlush_buf] at hevict
  simp only [record, notifyFlush_cap, notifyFlush_buf]
  split_ifs with hfull hbill
  · simpa using h
  · simp only [Ring.pushBack, List.length_append, List.length_singleton, hevict]
    omega
  · simp only [Ring.pushBack, List.length_append, List.length_singleton]
    omega

lemma requeueSamples_length_le (xs : List σ) (b : MetricsBuffer σ) :
    (xs.foldr requeueSample b).buf.samples.length ≤ max b.cap b.buf.samples.length := by
  induction xs with
  | nil => exact le_max_right _ _
  | cons s xs ih =>
    have hcap := congrArg Caps.cap (requeueSamples_caps xs b)
    simp only [caps] at hcap
    rw [List.foldr_cons, requeueSample]
    split
    · rwa [countDrop_buf]
    · simp only [Ring.pushFront, List.length_cons]
      omega

omit [HasOutcome σ] in
lemma drained_length (b : MetricsBuffer σ) (now : DateTime) :
    (b.drained now).samples.length = min b.buf.samples.length b.batchCap := by
  simp [drained]

lemma afterDrain_length (b : MetricsBuffer σ) :
    b.afterDrain.buf.samples.length = b.buf.samples.length - b.batchCap := by
  simp only [afterDrain, List.length_drop]
  omega

/-- A drain that takes all the samples leaves nothing owed. -/
lemma afterDrain_owed_eq_zero (b : MetricsBuffer σ) (h : b.buf.samples.length ≤ b.batchCap)
    (c : Bool) : b.afterDrain.owed c = 0 := by
  have hnil : b.afterDrain.buf.samples = [] := by
    rw [← List.length_eq_zero_iff, afterDrain_length]
    omega
  rw [owed, hnil]
  cases c <;> rfl

lemma samples_eq_nil_of_owed {b : MetricsBuffer σ} (h : ∀ c, b.owed c = 0) :
    b.buf.samples = [] := by
  cases hs : b.buf.samples with
  | nil => rfl
  | cons s xs =>
    have := h (billable s)
    rw [owed, hs, count_cons, beq_self_eq_true, Bool.toNat_true] at this
    omega

end MetricsBuffer

lemma FlushEffect.batchCap {b b' : MetricsBuffer σ} {e : FlushEvent}
    {held held' : Option (Drained σ)} {out : List (Drained σ)}
    (h : FlushEffect b e held b' held' out) : b'.batchCap = b.batchCap := by
  cases h with
  | returned e d he => exact congrArg MetricsBuffer.Caps.batchCap (b.dropInFlight_caps d)
  | _ => rfl

lemma Lane.Effect.batchCap {l l' : Lane} {e : LaneEvent} (h : l.Effect e l') :
    l'.buffer.batchCap = l.buffer.batchCap := by
  cases h with
  | record s hb ho hr hh =>
    rw [hb]
    exact congrArg MetricsBuffer.Caps.batchCap (l.buffer.record_caps _)
  | recordEvents now n m k hb ho hr hh =>
    rw [hb]
    exact congrArg MetricsBuffer.Caps.batchCap (l.buffer.recordEvents_caps now n m k)
  | spawn hb ho hr hh => rw [hb]
  | task i e held held' out xs ys hheld he ho ho' hr hh => exact he.batchCap

end ControlPlaneClient
