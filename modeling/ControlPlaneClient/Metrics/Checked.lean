import ControlPlaneClient.Metrics.Traffic

/-!
# The count of the ring, checked

The ring keeps its count of non-billable samples with `saturating_sub`, and `record` searches for a
sample to give up with a fallback to the oldest. A count that is off would show as neither a panic
nor an error. Here the operations are written once more, undefined where the subtraction saturates or
the search comes back with nothing, and compared with those of the source.
-/

namespace ControlPlaneClient

open Transition

variable {σ : Type*} [HasOutcome σ]

/-! ### The checked operations -/

/-- `checked_sub`, in the place of `saturating_sub`. -/
def checkedSub (a b : ℕ) : Option ℕ := if b ≤ a then some (a - b) else none

lemma checkedSub_eq {a b : ℕ} (h : b ≤ a) : checkedSub a b = some (a - b) := if_pos h

/-- `Ring::remove`, undefined if the count saturates. -/
def Ring.removeChecked (r : Ring σ) (i : ℕ) : Option (Option (σ × Ring σ)) :=
  match r.samples[i]? with
  | some s =>
    (checkedSub r.nonBillable (!billable s).toNat).map fun n =>
      some (s, ⟨r.samples.eraseIdx i, n⟩)
  | none => some none

namespace MetricsBuffer

/-- The index of the sample to give up, undefined if it would be the fallback. -/
def victimChecked (r : Ring σ) : Option ℕ :=
  if 0 < r.nonBillable then r.samples.findIdx? fun s => !billable s else some 0

def evictChecked (b : MetricsBuffer σ) : Option (MetricsBuffer σ) :=
  ((victimChecked b.buf).bind b.buf.removeChecked).map fun
    | some (dropped, ring) => { b with buf := ring }.countDrop (outcome dropped)
    | none                 => b

def recordChecked (b : MetricsBuffer σ) (s : σ) : Option (MetricsBuffer σ) :=
  let b := b.notifyFlush
  if b.cap ≤ b.buf.samples.length then
    if !billable s then some (b.countDrop (outcome s))
    else do
      let b ← b.evictChecked
      some { b with buf := b.buf.pushBack s }
  else some { b with buf := b.buf.pushBack s }

/-- What `drain` leaves, undefined if the count saturates. -/
def afterDrainChecked (b : MetricsBuffer σ) : Option (MetricsBuffer σ) :=
  let n := min b.buf.samples.length b.batchCap
  let drainedNonBillable := (b.buf.samples.take n).countP fun s => !billable s
  (checkedSub b.buf.nonBillable drainedNonBillable).map fun nonBillable =>
    { b with
      buf := ⟨b.buf.samples.drop n, nonBillable⟩
      droppedOverflow := 0
      droppedNonBillable := 0
      seq := b.seq + 1
      events := {} }

/-! ### Agreement with the operations of the source -/

lemma victimChecked_eq {r : Ring σ} (h : r.Tallied) : victimChecked r = some (victim r) := by
  rw [victimChecked, victim]
  split_ifs with hpos
  · obtain ⟨i, s, hi, -⟩ := h.exists_position hpos
    rw [hi, Option.getD_some]
  · rfl

lemma removeChecked_eq {r : Ring σ} (h : r.Tallied) (i : ℕ) :
    r.removeChecked i = some (r.remove i) := by
  rw [Ring.removeChecked, Ring.remove]
  cases hs : r.samples[i]? with
  | none => rfl
  | some s =>
    dsimp only
    rw [checkedSub_eq (h.toNat_le hs), Option.map_some, Option.map_some]

lemma evictChecked_eq {b : MetricsBuffer σ} (h : b.buf.Tallied) : b.evictChecked = some b.evict := by
  rw [evictChecked, victimChecked_eq h, Option.bind_some, removeChecked_eq h, Option.map_some]
  rfl

lemma recordChecked_eq {b : MetricsBuffer σ} (h : b.buf.Tallied) (s : σ) :
    b.recordChecked s = some (b.record s) := by
  have hnotify : b.notifyFlush.buf.Tallied := by rwa [notifyFlush_buf]
  simp only [recordChecked, record]
  split_ifs
  · rfl
  · rw [evictChecked_eq hnotify]
    rfl
  · rfl

lemma afterDrainChecked_eq {b : MetricsBuffer σ} (h : b.buf.Tallied) :
    b.afterDrainChecked = some b.afterDrain := by
  rw [afterDrainChecked, checkedSub_eq (drained_le_nonBillable h _), Option.map_some, afterDrain]

end MetricsBuffer

/-! ### Any order of calls -/

/-- A call that touches the ring. The batch of a `requeue_front` may be any batch. -/
inductive RingCall (σ : Type*)
  | record (s : σ)
  | drain (now : DateTime)
  | requeueFront (batch : Drained σ)

namespace MetricsBuffer

def call (b : MetricsBuffer σ) : RingCall σ → MetricsBuffer σ
  | .record s           => b.record s
  | .drain now          => (b.drain now).2
  | .requeueFront batch => b.requeueFront batch

def callChecked (b : MetricsBuffer σ) : RingCall σ → Option (MetricsBuffer σ)
  | .record s           => b.recordChecked s
  | .drain _            => b.afterDrainChecked
  -- Nothing is subtracted or searched for.
  | .requeueFront batch => some (b.requeueFront batch)

variable {cap batchCap : ℕ}

lemma WellFormed.call {b : MetricsBuffer σ} (h : b.WellFormed cap batchCap) (c : RingCall σ) :
    (b.call c).WellFormed cap batchCap := by
  cases c with
  | record s => exact h.record s
  | drain now => exact h.afterDrain
  | requeueFront batch => exact h.requeueFront batch

lemma callChecked_eq {b : MetricsBuffer σ} (h : b.buf.Tallied) (c : RingCall σ) :
    b.callChecked c = some (b.call c) := by
  cases c with
  | record s => exact recordChecked_eq h s
  | drain now => exact afterDrainChecked_eq h
  | requeueFront batch => rfl

lemma WellFormed.calls {b : MetricsBuffer σ} (h : b.WellFormed cap batchCap)
    (cs : List (RingCall σ)) : (cs.foldl MetricsBuffer.call b).WellFormed cap batchCap := by
  induction cs generalizing b with
  | nil => exact h
  | cons c cs ih => exact ih (h.call c)

/-- After any calls the count is that of the samples, the ring is within its capacity, and a positive
count finds a non-billable sample. No call on the way saturated the count or fell back to the oldest
sample: the checked run is defined, and ends in the same buffer. -/
theorem ring_count_exact (cap batchCap : ℕ) (cs : List (RingCall σ)) :
    let b := cs.foldl MetricsBuffer.call (withCaps cap batchCap)
    b.buf.nonBillable = (b.buf.samples.countP fun s => !billable s) ∧
      b.buf.samples.length ≤ max cap 1 ∧
      (0 < b.buf.nonBillable → ∃ i s, (b.buf.samples.findIdx? fun s => !billable s) = some i ∧
        b.buf.samples[i]? = some s ∧ billable s = false) ∧
      exec callChecked (withCaps cap batchCap) cs = some b := by
  have hwf := (WellFormed.withCaps (σ := σ) cap batchCap).calls cs
  refine ⟨?_, hwf.length, hwf.tallied.exists_position, ?_⟩
  · rw [countP_not_billable]
    exact hwf.tallied
  · exact exec_eq_foldl (I := WellFormed cap batchCap) (fun b c h => callChecked_eq h.tallied c)
      (fun b c h => h.call c) (.withCaps cap batchCap) cs

end MetricsBuffer

end ControlPlaneClient
