import ControlPlaneClient.Metrics.Buffer

/-!
# What the metrics buffer owes

The samples split in two classes, the billable and the non-billable ones. What a buffer owes of a
class is what it still has to report of it: the samples in the ring and the drops counted since
the last drain. Each operation of the buffer moves what is owed and creates or loses none of it.
-/

namespace ControlPlaneClient

variable {σ : Type*}

/-- The drop counter of a class, the billable one when `c` is true. -/
def MetricsBuffer.dropped (b : MetricsBuffer σ) (c : Bool) : ℕ :=
  if c then b.droppedOverflow else b.droppedNonBillable

/-- The drop count of a class in a batch. -/
def Drained.dropped (d : Drained σ) (c : Bool) : ℕ :=
  if c then d.droppedOverflow else d.droppedNonBillable

namespace MetricsBuffer

@[simp] lemma countDrop_buf (b : MetricsBuffer σ) (o : SampleOutcome) :
    (b.countDrop o).buf = b.buf := by
  rw [countDrop]; split <;> rfl

@[simp] lemma countDrop_seq (b : MetricsBuffer σ) (o : SampleOutcome) :
    (b.countDrop o).seq = b.seq := by
  rw [countDrop]; split <;> rfl

lemma countDrop_dropped (b : MetricsBuffer σ) (o : SampleOutcome) (c : Bool) :
    (b.countDrop o).dropped c = b.dropped c + (o.isBillable == c).toNat := by
  cases ho : o.isBillable <;> cases c <;> simp [countDrop, dropped, ho]

@[simp] lemma notifyFlush_buf (b : MetricsBuffer σ) : b.notifyFlush.buf = b.buf := by
  rw [notifyFlush]; split <;> rfl

@[simp] lemma notifyFlush_cap (b : MetricsBuffer σ) : b.notifyFlush.cap = b.cap := by
  rw [notifyFlush]; split <;> rfl

@[simp] lemma notifyFlush_seq (b : MetricsBuffer σ) : b.notifyFlush.seq = b.seq := by
  rw [notifyFlush]; split <;> rfl

@[simp] lemma notifyFlush_dropped (b : MetricsBuffer σ) (c : Bool) :
    b.notifyFlush.dropped c = b.dropped c := by
  rw [notifyFlush]; split <;> rfl

end MetricsBuffer

variable [HasOutcome σ]

/-- Samples of a class. -/
def count (c : Bool) (xs : List σ) : ℕ := xs.countP fun s => billable s == c

def MetricsBuffer.owed (b : MetricsBuffer σ) (c : Bool) : ℕ := count c b.buf.samples + b.dropped c

def Drained.owed (d : Drained σ) (c : Bool) : ℕ := count c d.samples + d.dropped c

@[simp] lemma count_nil (c : Bool) : count c ([] : List σ) = 0 := rfl

@[simp] lemma count_cons (c : Bool) (s : σ) (xs : List σ) :
    count c (s :: xs) = count c xs + (billable s == c).toNat := by
  cases h : billable s == c <;> simp [count, h]

@[simp] lemma count_append (c : Bool) (xs ys : List σ) :
    count c (xs ++ ys) = count c xs + count c ys := by
  simp [count]

lemma count_eraseIdx {xs : List σ} {i : ℕ} {s : σ} (h : xs[i]? = some s) (c : Bool) :
    count c (xs.eraseIdx i) + (billable s == c).toNat = count c xs := by
  obtain ⟨hi, rfl⟩ := List.getElem?_eq_some_iff.mp h
  have hperm := List.getElem_cons_eraseIdx_perm hi
  rw [← count_cons, count, count, hperm.countP_eq]

lemma Drained.owed_eq_zero_of_isEmpty {d : Drained σ} (h : d.isEmpty) (c : Bool) :
    d.owed c = 0 := by
  simp only [Drained.isEmpty, Bool.and_eq_true, List.isEmpty_iff, beq_iff_eq] at h
  cases c <;> simp [Drained.owed, Drained.dropped, h]

namespace MetricsBuffer

/-! ### What depends on neither the ring nor the drops -/

section Frame

variable {α : Type*} (f : MetricsBuffer σ → α) (hdrop : ∀ b o, f (countDrop b o) = f b)
  (hring : ∀ b r, f { b with buf := r } = f b)

include hdrop hring

lemma evict_frame (b : MetricsBuffer σ) : f b.evict = f b := by
  rw [evict]
  split
  · rw [hdrop, hring]
  · rfl

lemma requeueSamples_frame (xs : List σ) (b : MetricsBuffer σ) :
    f (xs.foldr requeueSample b) = f b := by
  induction xs with
  | nil => rfl
  | cons s xs ih =>
    rw [List.foldr_cons, requeueSample]
    split
    · rw [hdrop, ih]
    · rw [hring, ih]

end Frame

/-! ### Recording -/

/-- A full ring either has nothing to give up, or loses one sample and counts it. -/
lemma evict_cases (b : MetricsBuffer σ) :
    (b.buf.samples = [] ∧ b.evict = b) ∨
    ∃ i s, b.buf.samples[i]? = some s ∧ b.evict.buf.samples = b.buf.samples.eraseIdx i ∧
      ∀ c, b.evict.dropped c = b.dropped c + (billable s == c).toNat := by
  have hzero : b.buf.samples ≠ [] → victim b.buf < b.buf.samples.length := by
    intro hne
    rw [victim]
    split
    · cases hf : b.buf.samples.findIdx? fun s => !billable s with
      | none => simpa [List.length_pos_iff] using hne
      | some i => exact (List.findIdx?_eq_some_iff_getElem.mp hf).1
    · exact List.length_pos_iff.mpr hne
  by_cases hne : b.buf.samples = []
  · exact Or.inl ⟨hne, by simp [evict, Ring.remove, hne]⟩
  · have hi := List.getElem?_eq_getElem (hzero hne)
    refine Or.inr ⟨_, _, hi, ?_, ?_⟩
    · simp [evict, Ring.remove, hi]
    · intro c
      simp only [evict, Ring.remove, hi, Option.map_some, countDrop_dropped]
      rfl

lemma evict_owed (b : MetricsBuffer σ) (c : Bool) : b.evict.owed c = b.owed c := by
  rcases evict_cases b with ⟨_, heq⟩ | ⟨i, s, hi, hbuf, hdrop⟩
  · rw [heq]
  · have := count_eraseIdx hi c
    rw [owed, owed, hbuf, hdrop]
    omega

/-- Recording adds exactly the recorded sample to what is owed. -/
lemma record_owed (b : MetricsBuffer σ) (s : σ) (c : Bool) :
    (b.record s).owed c = b.owed c + (billable s == c).toNat := by
  have hpush : ∀ b : MetricsBuffer σ,
      ({ b with buf := b.buf.pushBack s } : MetricsBuffer σ).owed c =
        b.owed c + (billable s == c).toNat := by
    intro b
    simp only [owed, Ring.pushBack, count_append, count_cons, count_nil, dropped]
    omega
  have hnotify : b.notifyFlush.owed c = b.owed c := by simp [owed]
  simp only [record]
  split_ifs with hfull hbill
  · rw [owed, countDrop_buf, countDrop_dropped, notifyFlush_buf, notifyFlush_dropped, owed,
      billable, Nat.add_assoc]
  · rw [hpush, evict_owed, hnotify]
  · rw [hpush, hnotify]

/-! ### Draining and returning -/

/-- What a drain takes and what it leaves make up what was owed. -/
lemma drain_owed (b : MetricsBuffer σ) (now : DateTime) (c : Bool) :
    (b.drained now).owed c + b.afterDrain.owed c = b.owed c := by
  have hsplit := congrArg (count c)
    (List.take_append_drop (min b.buf.samples.length b.batchCap) b.buf.samples)
  rw [count_append] at hsplit
  cases c <;> simp only [Drained.owed, Drained.dropped, owed, dropped, drained, afterDrain] <;>
    simp <;> omega

lemma requeueSample_owed (s : σ) (b : MetricsBuffer σ) (c : Bool) :
    (requeueSample s b).owed c = b.owed c + (billable s == c).toNat := by
  rw [requeueSample]
  split
  · rw [owed, countDrop_buf, countDrop_dropped, owed, billable, Nat.add_assoc]
  · simp only [owed, Ring.pushFront, count_cons, dropped]
    omega

lemma requeueSamples_owed (xs : List σ) (b : MetricsBuffer σ) (c : Bool) :
    (xs.foldr requeueSample b).owed c = b.owed c + count c xs := by
  induction xs with
  | nil => simp
  | cons s xs ih =>
    rw [List.foldr_cons, requeueSample_owed, ih, count_cons]
    omega

/-- Returning a batch restores all it owed, whether its samples still fit or not. -/
lemma requeueFront_owed (b : MetricsBuffer σ) (d : Drained σ) (c : Bool) :
    (b.requeueFront d).owed c = b.owed c + d.owed c := by
  have h := requeueSamples_owed d.samples b c
  cases c <;> simp only [requeueFront, owed, dropped, Drained.owed, Drained.dropped] at h ⊢ <;>
    simp at h ⊢ <;> omega

end MetricsBuffer

end ControlPlaneClient
