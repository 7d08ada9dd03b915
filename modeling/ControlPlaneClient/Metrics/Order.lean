import ControlPlaneClient.Metrics.Flush

/-!
# Order in the metrics lane

With one flush at a time the lane is a queue with gaps: what was handed over, what is on its way
and what is buffered form, in this order, a subsequence of what was recorded. Records may evict
from the middle of the ring while a batch is out, and a batch that comes back may lose its oldest
samples, but nothing is reordered and nothing appears twice.
-/

namespace ControlPlaneClient

open Transition

variable {σ : Type*} [HasOutcome σ]

/-! ### The operations of the buffer -/

namespace MetricsBuffer

lemma evict_sublist (b : MetricsBuffer σ) : b.evict.buf.samples.Sublist b.buf.samples := by
  rcases evict_cases b with ⟨_, heq⟩ | ⟨i, s, _, hbuf, _⟩
  · rw [heq]
  · rw [hbuf]; exact List.eraseIdx_sublist _ _

lemma record_sublist (b : MetricsBuffer σ) (s : σ) :
    (b.record s).buf.samples.Sublist (b.buf.samples ++ [s]) := by
  simp only [record]
  split_ifs
  · simp
  · have := evict_sublist b.notifyFlush
    rw [notifyFlush_buf] at this
    exact this.append_right [s]
  · simp [Ring.pushBack]

lemma requeueSamples_sublist (xs : List σ) (b : MetricsBuffer σ) :
    (xs.foldr requeueSample b).buf.samples.Sublist (xs ++ b.buf.samples) := by
  induction xs with
  | nil => simp
  | cons s xs ih =>
    rw [List.foldr_cons, requeueSample]
    split
    · rw [countDrop_buf]; exact ih.cons s
    · exact ih.cons_cons s

lemma requeueFront_sublist (b : MetricsBuffer σ) (d : Drained σ) :
    (b.requeueFront d).buf.samples.Sublist (d.samples ++ b.buf.samples) :=
  requeueSamples_sublist d.samples b

lemma dropInFlight_sublist (b : MetricsBuffer σ) (d : Drained σ) :
    (b.dropInFlight d).buf.samples.Sublist (d.samples ++ b.buf.samples) := by
  rw [dropInFlight]
  split
  · exact List.sublist_append_right _ _
  · exact b.requeueFront_sublist d

omit [HasOutcome σ] in
@[simp] lemma recordEvents_buf (b : MetricsBuffer σ) (now : DateTime) (n m : String)
    (k : EventCounts) : (b.recordEvents now n m k).buf = b.buf := by
  rw [recordEvents]; split <;> rfl

omit [HasOutcome σ] in
@[simp] lemma recordEvents_seq (b : MetricsBuffer σ) (now : DateTime) (n m : String)
    (k : EventCounts) : (b.recordEvents now n m k).seq = b.seq := by
  rw [recordEvents]; split <;> rfl

@[simp] lemma evict_seq (b : MetricsBuffer σ) : b.evict.seq = b.seq :=
  evict_frame seq countDrop_seq (fun _ _ => rfl) b

@[simp] lemma record_seq (b : MetricsBuffer σ) (s : σ) : (b.record s).seq = b.seq := by
  simp only [record]
  split_ifs <;> simp

lemma requeueSamples_seq (xs : List σ) (b : MetricsBuffer σ) :
    (xs.foldr requeueSample b).seq = b.seq :=
  requeueSamples_frame seq countDrop_seq (fun _ _ => rfl) xs b

@[simp] lemma dropInFlight_seq (b : MetricsBuffer σ) (d : Drained σ) :
    (b.dropInFlight d).seq = b.seq := by
  rw [dropInFlight]
  split
  · rfl
  · exact requeueSamples_seq d.samples b

lemma drained_append_afterDrain (b : MetricsBuffer σ) (now : DateTime) :
    (b.drained now).samples ++ b.afterDrain.buf.samples = b.buf.samples :=
  List.take_append_drop _ _

end MetricsBuffer

/-! ### The lane -/

namespace Lane

/-- The samples that left the buffer or are in it: handed over, on their way, buffered. -/
def trail (l : Lane) : List Arrival :=
  l.handed.flatMap Drained.samples ++ l.outstanding.flatMap Drained.samples ++
    l.buffer.buf.samples

/-- A drain is taken only once the batch before it is handed over or returned. -/
def OneAtATime (l : Lane) (e : LaneEvent) : Prop := e.isDrain → l.outstanding = []

instance (l : Lane) (e : LaneEvent) : Decidable (l.OneAtATime e) :=
  inferInstanceAs (Decidable (_ → _))

structure Ordered (l : Lane) : Prop where
  single : l.outstanding.length ≤ 1
  trail  : l.trail.Sublist l.recorded
  seqs   : ((l.handed ++ l.outstanding).map Drained.seq).Pairwise (· < ·)
  bound  : ∀ d ∈ l.handed ++ l.outstanding, d.seq ≤ l.buffer.seq

/-- With one batch out, the others hold none. -/
lemma outstanding_eq_singleton {l : Lane} {xs ys : List (Drained Arrival)} {d : Drained Arrival}
    (hl : l.Ordered) (ho : l.outstanding = xs ++ (some d).toList ++ ys) : xs = [] ∧ ys = [] := by
  have hlen := hl.single
  rw [ho] at hlen
  simp only [Option.toList, List.length_append, List.length_singleton] at hlen
  exact ⟨List.length_eq_zero_iff.mp (by omega), List.length_eq_zero_iff.mp (by omega)⟩

/-- A step that moves no batch keeps the order, if the ring takes in only what was recorded. -/
lemma Ordered.of_frame {l l' : Lane} {xs : List Arrival} (hl : l.Ordered)
    (ho : l'.outstanding = l.outstanding) (hh : l'.handed = l.handed)
    (hr : l'.recorded = l.recorded ++ xs)
    (hbuf : l'.buffer.buf.samples.Sublist (l.buffer.buf.samples ++ xs))
    (hseq : l.buffer.seq ≤ l'.buffer.seq) : l'.Ordered := by
  constructor
  · rw [ho]
    exact hl.single
  · rw [Lane.trail, hh, ho, hr]
    apply ((List.Sublist.refl _).append hbuf).trans
    rw [← List.append_assoc]
    exact hl.trail.append_right _
  · rw [hh, ho]
    exact hl.seqs
  · intro d hd
    rw [hh, ho] at hd
    exact (hl.bound d hd).trans hseq

/-- The next report is numbered past all the others. -/
lemma Ordered.took {l l' : Lane} {d : Drained Arrival} (hl : l.Ordered)
    (hnone : l.outstanding = []) (ho : l'.outstanding = [d]) (hh : l'.handed = l.handed)
    (hr : l'.recorded = l.recorded)
    (hbuf : d.samples ++ l'.buffer.buf.samples = l.buffer.buf.samples)
    (hd : d.seq = l.buffer.seq + 1) (hseq : l'.buffer.seq = l.buffer.seq + 1) : l'.Ordered := by
  have htrail := hl.trail
  have hseqs := hl.seqs
  have hbound := hl.bound
  rw [Lane.trail, hnone, List.flatMap_nil, List.append_nil] at htrail
  rw [hnone, List.append_nil] at hseqs hbound
  constructor
  · rw [ho, List.length_singleton]
  · rw [Lane.trail, hh, ho, hr, List.flatMap_singleton, List.append_assoc, hbuf]
    exact htrail
  · rw [hh, ho, List.map_append, List.pairwise_append]
    refine ⟨hseqs, List.pairwise_singleton _ _, ?_⟩
    intro q hq q' hq'
    obtain ⟨e, he, rfl⟩ := List.mem_map.mp hq
    obtain rfl := List.mem_singleton.mp hq'
    rw [hd]
    exact Nat.lt_succ_of_le (hbound e he)
  · intro e he
    rw [hh, ho] at he
    rw [hseq]
    rcases List.mem_append.mp he with he | he
    · exact Nat.le_succ_of_le (hbound e he)
    · rw [List.mem_singleton.mp he, hd]

/-- The batch that was out is handed over. -/
lemma Ordered.handedOver {l l' : Lane} {d : Drained Arrival} (hl : l.Ordered)
    (hout : l.outstanding = [d]) (ho : l'.outstanding = []) (hh : l'.handed = l.handed ++ [d])
    (hr : l'.recorded = l.recorded) (hb : l'.buffer = l.buffer) : l'.Ordered := by
  have htrail := hl.trail
  have hseqs := hl.seqs
  have hbound := hl.bound
  rw [Lane.trail, hout] at htrail
  rw [hout] at hseqs hbound
  constructor
  · rw [ho]
    exact Nat.zero_le _
  · rw [Lane.trail, hh, ho, hr, hb, List.flatMap_append, List.flatMap_nil, List.append_nil]
    exact htrail
  · rw [hh, ho, List.append_nil]
    exact hseqs
  · rw [hh, ho, hb, List.append_nil]
    exact hbound

/-- The batch that was out is returned to the ring, as far as it fits. -/
lemma Ordered.returned {l l' : Lane} {d : Drained Arrival} (hl : l.Ordered)
    (hout : l.outstanding = [d]) (ho : l'.outstanding = []) (hh : l'.handed = l.handed)
    (hr : l'.recorded = l.recorded)
    (hbuf : l'.buffer.buf.samples.Sublist (d.samples ++ l.buffer.buf.samples))
    (hseq : l'.buffer.seq = l.buffer.seq) : l'.Ordered := by
  have htrail := hl.trail
  have hseqs := hl.seqs
  rw [Lane.trail, hout, List.flatMap_singleton, List.append_assoc] at htrail
  rw [List.map_append] at hseqs
  constructor
  · rw [ho]
    exact Nat.zero_le _
  · rw [Lane.trail, hh, ho, hr, List.flatMap_nil, List.append_nil]
    exact ((List.Sublist.refl _).append hbuf).trans htrail
  · rw [hh, ho, List.append_nil]
    exact (List.pairwise_append.mp hseqs).1
  · intro e he
    rw [hh, ho, List.append_nil] at he
    rw [hseq]
    exact hl.bound e (List.mem_append_left _ he)

lemma Effect.ordered {l l' : Lane} {e : LaneEvent} (h : Effect l e l') (hone : l.OneAtATime e)
    (hl : l.Ordered) : l'.Ordered := by
  cases h with
  | record s hb ho hr hh =>
    apply hl.of_frame ho hh hr
    · rw [hb]
      exact l.buffer.record_sublist (l.arrival s)
    · rw [hb, MetricsBuffer.record_seq]
  | recordEvents now n m k hb ho hr hh =>
    apply hl.of_frame ho hh (hr.trans (List.append_nil _).symm)
    · rw [hb, MetricsBuffer.recordEvents_buf, List.append_nil]
    · rw [hb, MetricsBuffer.recordEvents_seq]
  | spawn hb ho hr hh =>
    apply hl.of_frame ho hh (hr.trans (List.append_nil _).symm)
    · rw [hb, List.append_nil]
    · rw [hb]
  | task i e held held' out xs ys hheld he ho ho' hr hh =>
    generalize hb' : l'.buffer = b' at he
    cases he with
    | idle e permit =>
      rw [List.append_nil] at hh
      apply hl.of_frame (ho'.trans ho.symm) hh (hr.trans (List.append_nil _).symm)
      · rw [hb', List.append_nil]
      · rw [hb']
    | took now hne =>
      -- No batch is out, so the new one is the only one.
      have hnone := hone rfl
      have hsides := ho.symm.trans hnone
      obtain ⟨rfl, rfl⟩ : xs = [] ∧ ys = [] := by simpa using hsides
      rw [List.append_nil] at hh
      apply hl.took hnone ho' hh hr
      · rw [hb', MetricsBuffer.drained_append_afterDrain]
      · rfl
      · rw [hb']
        rfl
    | tookNothing now hempty =>
      rw [List.append_nil] at hh
      apply hl.of_frame (ho'.trans ho.symm) hh (hr.trans (List.append_nil _).symm)
      · rw [hb', List.append_nil]
        exact List.drop_sublist _ _
      · rw [hb']
        exact Nat.le_succ _
    | handedOver d =>
      obtain ⟨rfl, rfl⟩ := outstanding_eq_singleton hl ho
      exact hl.handedOver ho ho' hh hr hb'
    | returned e d he =>
      obtain ⟨rfl, rfl⟩ := outstanding_eq_singleton hl ho
      rw [List.append_nil] at hh
      apply hl.returned ho ho' hh hr
      · rw [hb']
        exact l.buffer.dropInFlight_sublist d
      · rw [hb', MetricsBuffer.dropInFlight_seq]

lemma init_ordered (cap batchCap : ℕ) : (init cap batchCap).Ordered :=
  ⟨Nat.zero_le _, List.Sublist.refl _, List.Pairwise.nil, by simp [init, outstanding]⟩

/-- A recorded sample carries its position among the records. -/
def Numbered (l : Lane) : Prop := ∀ (n : ℕ) (a : Arrival), l.recorded[n]? = some a → a.number = n

lemma Effect.numbered {l l' : Lane} {e : LaneEvent} (h : Effect l e l') (hl : l.Numbered) :
    l'.Numbered := by
  intro n a ha
  cases h with
  | record s hb ho hr hh =>
    rw [hr] at ha
    rcases lt_or_ge n l.recorded.length with hn | hn
    · rw [List.getElem?_append_left hn] at ha
      exact hl n a ha
    · rw [List.getElem?_append_right hn] at ha
      obtain ⟨hlt, rfl⟩ := List.getElem?_eq_some_iff.mp ha
      have : n = l.recorded.length := by
        simp only [List.length_singleton] at hlt
        omega
      simp [this, arrival]
  | recordEvents now m k c hb ho hr hh => rw [hr] at ha; exact hl n a ha
  | spawn hb ho hr hh => rw [hr] at ha; exact hl n a ha
  | task i e held held' out xs ys hheld he ho ho' hr hh => rw [hr] at ha; exact hl n a ha

lemma Numbered.pairwise {l : Lane} (h : l.Numbered) :
    (l.recorded.map Arrival.number).Pairwise (· < ·) := by
  rw [List.pairwise_iff_getElem]
  intro i j hi hj hij
  simp only [List.length_map] at hi hj
  simp only [List.getElem_map]
  rw [h i _ (List.getElem?_eq_getElem hi), h j _ (List.getElem?_eq_getElem hj)]
  exact hij

/-- With one flush at a time, the samples handed over, then those on their way, then those in the
ring are in order of arrival, each at most once, and the reports are numbered in order. -/
theorem trail_in_arrival_order (cap batchCap : ℕ) (es : List LaneEvent) (l : Lane)
    (h : exec step (init cap batchCap) es = some l)
    (hone : StepsMeet step OneAtATime (init cap batchCap) es) :
    (l.trail.map Arrival.number).Pairwise (· < ·) ∧
    (∀ a ∈ l.trail, l.recorded[a.number]? = some a) ∧
    (l.handed.map Drained.seq).Pairwise (· < ·) := by
  have hord : l.Ordered := exec_induction
    (fun _ _ _ hl hC hstep => (step_effect hstep).ordered hC hl) (init_ordered cap batchCap) hone h
  have hnum : l.Numbered := exec_invariant
    (fun _ _ _ hl hstep => (step_effect hstep).numbered hl) (fun n a ha => by simp [init] at ha) h
  refine ⟨hnum.pairwise.sublist (hord.trail.map _), ?_, ?_⟩
  · intro a ha
    obtain ⟨n, hn, rfl⟩ := List.mem_iff_getElem.mp (hord.trail.subset ha)
    have hget := List.getElem?_eq_getElem hn
    rw [hnum n _ hget]
    exact hget
  · have hseqs := hord.seqs
    rw [List.map_append] at hseqs
    exact (List.pairwise_append.mp hseqs).1

/-- A flush is aborted while a newer record sits in the ring, and the next one ships. -/
theorem trail_in_arrival_order_after_abort :
    let call (o : SampleOutcome) : LaneEvent := .record (.plain "github" "list_repos" o 5)
    let es := [call .ok, call .policyDenied, call .ok, .spawn, .task 0 .tick, .task 0 (.drain 0),
      call .serverError, .task 0 .abort, .spawn, .task 1 .tick, .task 1 (.drain 0), .task 1 .sent]
    ∃ l, exec step (init 2 1) es = some l ∧ l.trail.map Arrival.number = [2, 3] ∧
      (l.trail.map Arrival.number).Pairwise (· < ·) ∧
      (∀ a ∈ l.trail, l.recorded[a.number]? = some a) ∧
      (l.handed.map Drained.seq).Pairwise (· < ·) := by
  intro call es
  have hrun : ∃ l, exec step (init 2 1) es = some l ∧ l.trail.map Arrival.number = [2, 3] :=
    ⟨_, rfl, rfl⟩
  obtain ⟨l, hl, htrail⟩ := hrun
  exact ⟨l, hl, htrail, trail_in_arrival_order 2 1 es l hl (by decide)⟩

end Lane

end ControlPlaneClient
