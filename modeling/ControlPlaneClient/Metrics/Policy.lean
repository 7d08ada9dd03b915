import ControlPlaneClient.Lib.Sparing
import ControlPlaneClient.Metrics.Overflow

/-!
# The overflow policy in closed form

`record` holds the ring by the policy that spares one class of elements, the billable samples. What
is in the ring after any number of records, and what was dropped, depends on the sequence of the
samples alone.
-/

namespace ControlPlaneClient

open Transition Sparing

variable {σ : Type*} [HasOutcome σ]

lemma count_true_eq (xs : List σ) : count true xs = xs.countP billable :=
  List.countP_congr (by simp)

lemma count_add_count (xs : List σ) : count true xs + count false xs = xs.length := by
  induction xs with
  | nil => rfl
  | cons s xs ih =>
    rw [count_cons, count_cons, List.length_cons]
    cases billable s <;> simp <;> omega

namespace MetricsBuffer

/-- A ring that holds a non-billable sample gives up the oldest of these, any other its oldest
sample. -/
lemma evict_samples {b : MetricsBuffer σ} (h : b.buf.Tallied) :
    b.evict.buf.samples =
      if b.buf.samples.all billable then b.buf.samples.tail
      else b.buf.samples.eraseP fun s => !billable s := by
  have hremove : b.evict.buf.samples = b.buf.samples.eraseIdx (victim b.buf) := by
    rw [evict, Ring.remove]
    cases hi : b.buf.samples[victim b.buf]? with
    | none => exact (List.eraseIdx_of_length_le (List.getElem?_eq_none_iff.mp hi)).symm
    | some s => exact congrArg Ring.samples (countDrop_buf _ _)
  rw [hremove, victim, h]
  split_ifs with hpos hall hall
  · rw [count_eq_zero_iff.mpr (by simpa using hall)] at hpos
    exact absurd hpos (lt_irrefl 0)
  · rw [List.eraseP_eq_eraseIdx]
    obtain ⟨i, s, hi, -⟩ := h.exists_position (h.symm ▸ hpos)
    rw [hi]
    rfl
  · exact List.eraseIdx_zero
  · have hzero := count_eq_zero_iff.mp (Nat.eq_zero_of_not_pos hpos)
    exact absurd (List.all_eq_true.mpr (by simpa using hzero)) hall

/-- `record` holds the ring by the sparing policy. -/
lemma record_samples {b : MetricsBuffer σ} (h : b.buf.Tallied) (s : σ) :
    (b.record s).buf.samples = keep billable b.cap b.buf.samples s := by
  have hevict := evict_samples (b := b.notifyFlush) (by rwa [notifyFlush_buf])
  rw [notifyFlush_buf] at hevict
  simp only [record, notifyFlush_cap, notifyFlush_buf]
  split_ifs with hfull hbill
  · rw [countDrop_buf, notifyFlush_buf]
    exact (keep_of_not hfull (by simpa using hbill)).symm
  · have hs : billable s = true := by simpa using hbill
    rw [Ring.pushBack, hevict]
    dsimp only
    split_ifs with hall
    · exact (keep_of_all hfull hs hall).symm
    · exact (keep_of_mixed hfull hs hall).symm
  · exact (keep_of_room (not_le.mp hfull) s).symm

variable {cap batchCap : ℕ} {b : MetricsBuffer σ}

lemma WellFormed.foldl_record_samples (h : b.WellFormed cap batchCap) (xs : List σ) :
    (xs.foldl MetricsBuffer.record b).buf.samples = xs.foldl (keep billable cap) b.buf.samples := by
  induction xs generalizing b with
  | nil => rfl
  | cons s xs ih =>
    have hone := record_samples h.tallied s
    rw [h.cap_eq] at hone
    rw [List.foldl_cons, List.foldl_cons, ih (h.record s), hone]

lemma foldl_record_owed (b : MetricsBuffer σ) (xs : List σ) (c : Bool) :
    (xs.foldl record b).owed c = b.owed c + count c xs := by
  induction xs generalizing b with
  | nil => rfl
  | cons s xs ih =>
    rw [List.foldl_cons, ih, record_owed, count_cons]
    omega

end MetricsBuffer

namespace Traffic

/-- The ring and the drop counters after any sequence of records into an empty buffer. -/
theorem overflow_closed_form (cap batchCap : ℕ) (hcap : 1 ≤ cap) (before : List (TrafficEvent σ))
    (t : Traffic σ) (hbefore : exec step (init cap batchCap) before = some t)
    (hempty : t.buffer.buf.samples = []) (hdropped : ∀ c, t.buffer.dropped c = 0) (xs : List σ) :
    let b := xs.foldl MetricsBuffer.record t.buffer
    let calls := xs.filter billable
    b.buf.samples.Sublist xs ∧
    b.buf.samples.length = min xs.length cap ∧
    b.buf.samples.filter billable = calls.rtake (min calls.length cap) ∧
    (cap < xs.length → (b.buf.samples.filter fun s => !billable s) =
      ((xs.take cap).filter fun s => !billable s).rtake (cap - min calls.length cap)) ∧
    b.droppedOverflow = calls.length - min calls.length cap ∧
    IsLeast (Set.range fun q : Policy σ cap => q.drops billable [] xs) b.droppedOverflow ∧
    b.droppedNonBillable = xs.length - min xs.length cap - b.droppedOverflow := by
  intro b calls
  have hwf := exec_wellFormed hbefore
  have hkept : b.buf.samples = kept billable cap xs := by
    rw [hwf.foldl_record_samples, hempty]
    rfl
  have hclosed := kept_closed (p := billable) hcap xs
  rw [← hkept] at hclosed
  have hlen : b.buf.samples.length = min xs.length cap := by rw [hkept, kept_length hcap]
  have hcalls : count true xs = calls.length := by
    rw [count_true_eq, List.countP_eq_length_filter]
  have hring : count true b.buf.samples = min calls.length cap := by
    rw [count_true_eq, List.countP_eq_length_filter, hclosed.spared, length_rtake]
    exact min_comm _ _
  have howed : ∀ c, count c b.buf.samples + b.dropped c = count c xs := by
    intro c
    have h := t.buffer.foldl_record_owed xs c
    rwa [MetricsBuffer.owed, MetricsBuffer.owed, hempty, hdropped, count_nil, Nat.zero_add] at h
  have hover : b.droppedOverflow = calls.length - min calls.length cap := by
    have h := howed true
    rw [hring, hcalls, MetricsBuffer.dropped, if_pos rfl] at h
    omega
  refine ⟨?_, hlen, ?_, ?_, hover, ?_, ?_⟩
  · rw [hkept]
    exact kept_sublist xs
  · rw [hclosed.spared, rtake_min_length]
  · intro _
    rw [hclosed.others, show cap - min calls.length cap = cap - calls.length by omega]
  · rw [hover, ← hcalls, count_true_eq]
    exact drops_isLeast hcap xs
  · have h := howed false
    have hsplit := count_add_count b.buf.samples
    have hsplit' := count_add_count xs
    rw [MetricsBuffer.dropped, if_neg (by decide)] at h
    omega

/-- A refusal and three calls come to a ring of two that was drained before: the refusal and the
first call are given up. -/
theorem overflow_closed_form_ring_of_two :
    let before : List (TrafficEvent ToolCallSample) := [.record (sampleCall .ok), .drain 0]
    let xs := [sampleCall .policyDenied, sampleCall .ok, sampleCall .clientError, sampleCall .ok]
    ∃ t, exec step (init 2 1) before = some t ∧
      (xs.foldl MetricsBuffer.record t.buffer).buf.samples.filter billable =
        (xs.filter billable).rtake 2 ∧
      (xs.foldl MetricsBuffer.record t.buffer).droppedOverflow = 1 ∧
      (xs.foldl MetricsBuffer.record t.buffer).droppedNonBillable =
        4 - 2 - (xs.foldl MetricsBuffer.record t.buffer).droppedOverflow := by
  intro before xs
  have hrun : ∃ t, exec step (init 2 1) before = some t ∧ t.buffer.buf.samples = [] ∧
      ∀ c, t.buffer.dropped c = 0 := ⟨_, rfl, rfl, by decide⟩
  obtain ⟨t, ht, hempty, hdropped⟩ := hrun
  obtain ⟨-, -, hcalls, -, hover, -, hrefused⟩ :=
    overflow_closed_form 2 1 (by decide) before t ht hempty hdropped xs
  exact ⟨t, ht, hcalls, hover, hrefused⟩

end Traffic

end ControlPlaneClient
