import ControlPlaneClient.Logs.Lane
import ControlPlaneClient.Metrics.Policy

/-!
# The log ring beside the metrics ring

A log buffer and a metrics buffer with the same capacities, under the same operations: each record
puts a line into the one and a billable sample into the other. Both rings then hold the matching
items, in the same order. The drop counts agree as well, except where a full log ring has no line to
drop: with a capacity of zero it counts one all the same, and the metrics ring does not.
-/

namespace ControlPlaneClient

variable {σ : Type*} [HasOutcome σ]

/-- A line and the billable sample that goes with it. -/
structure Twin (σ : Type*) [HasOutcome σ] where
  line     : LogLineSample
  sample   : σ
  billable : billable sample = true

inductive TwinOp (σ : Type*) [HasOutcome σ]
  | record (x : Twin σ)
  | drain (now : DateTime)

def TwinOp.isRecord : TwinOp σ → Bool
  | .record _ => true
  | .drain _  => false

/-- The two buffers, with what was recorded and what the drains have returned. -/
structure Mirror (σ : Type*) [HasOutcome σ] where
  logs     : LogBuffer
  metrics  : MetricsBuffer σ
  recorded : List (Twin σ)
  drains   : List (LogDrained × Drained σ)

namespace Mirror

def init (cap batchCap : ℕ) : Mirror σ := ⟨.withCaps cap batchCap, .withCaps cap batchCap, [], []⟩

def step (m : Mirror σ) : TwinOp σ → Mirror σ
  | .record x =>
    { m with
      logs := m.logs.record x.line
      metrics := m.metrics.record x.sample
      recorded := m.recorded ++ [x] }
  | .drain now =>
    { m with
      logs := m.logs.drain.2
      metrics := m.metrics.afterDrain
      drains := m.drains ++ [(m.logs.drained, m.metrics.drained now)] }

def run (cap batchCap : ℕ) (ops : List (TwinOp σ)) : Mirror σ := ops.foldl step (init cap batchCap)

lemma run_concat (cap batchCap : ℕ) (ops : List (TwinOp σ)) (op : TwinOp σ) :
    run cap batchCap (ops ++ [op]) = (run cap batchCap ops).step op := by
  simp [run]

/-- Two lists of items that go together, in the order of the records. -/
def Paired (recorded : List (Twin σ)) (lines : List LogLineSample) (samples : List σ) : Prop :=
  ∃ xs : List (Twin σ), xs.Sublist recorded ∧ lines = xs.map Twin.line ∧ samples = xs.map Twin.sample

/-- A drain of the one buffer matches a drain of the other. -/
def Matches (recorded : List (Twin σ)) (l : LogDrained) (d : Drained σ) : Prop :=
  Paired recorded l.lines d.samples ∧ l.dropped = d.droppedOverflow ∧ l.seq = d.seq

lemma Paired.mono {recorded recorded' : List (Twin σ)} {lines : List LogLineSample} {samples : List σ}
    (h : Paired recorded lines samples) (hsub : recorded.Sublist recorded') :
    Paired recorded' lines samples := by
  obtain ⟨xs, hxs, hlines, hsamples⟩ := h
  exact ⟨xs, hxs.trans hsub, hlines, hsamples⟩

lemma Paired.length_eq {recorded : List (Twin σ)} {lines : List LogLineSample} {samples : List σ}
    (h : Paired recorded lines samples) : lines.length = samples.length := by
  obtain ⟨xs, -, rfl, rfl⟩ := h
  rw [List.length_map, List.length_map]

lemma Paired.billable {recorded : List (Twin σ)} {lines : List LogLineSample} {samples : List σ}
    (h : Paired recorded lines samples) : samples.all billable = true := by
  obtain ⟨xs, -, rfl, rfl⟩ := h
  rw [List.all_eq_true]
  intro s hs
  obtain ⟨x, -, rfl⟩ := List.mem_map.mp hs
  exact x.billable

/-! ### The rings -/

end Mirror

/-- On a ring of billable samples, `record` drops the oldest sample once it is full. -/
lemma MetricsBuffer.record_billable {b : MetricsBuffer σ} (h : b.buf.Tallied)
    (hall : b.buf.samples.all billable = true) {s : σ} (hs : billable s = true) :
    (b.record s).buf.samples =
      if b.cap ≤ b.buf.samples.length then b.buf.samples.drop 1 ++ [s]
      else b.buf.samples ++ [s] := by
  rw [record_samples h]
  split_ifs with hfull
  · rw [Sparing.keep_of_all hfull hs hall, List.drop_one]
  · exact Sparing.keep_of_room (not_le.mp hfull) s

lemma count_true_of_all {xs : List σ} (h : xs.all billable = true) : count true xs = xs.length := by
  rw [count_true_eq, List.countP_eq_length]
  exact List.all_eq_true.mp h

/-- It counts the sample that it drops, if there is one. -/
lemma MetricsBuffer.record_billable_dropped {b : MetricsBuffer σ} (h : b.buf.Tallied)
    (hall : b.buf.samples.all billable = true) {s : σ} (hs : billable s = true) :
    (b.record s).droppedOverflow = b.droppedOverflow +
      if b.cap ≤ b.buf.samples.length ∧ b.buf.samples ≠ [] then 1 else 0 := by
  have hsamples := record_billable h hall hs
  have howed := b.record_owed s true
  have hall' : (b.record s).buf.samples.all billable = true := by
    rw [hsamples]
    rw [List.all_eq_true] at hall ⊢
    intro x hx
    split_ifs at hx
    all_goals
      rcases List.mem_append.mp hx with hx | hx
      · first | exact hall x (List.mem_of_mem_drop hx) | exact hall x hx
      · rw [List.mem_singleton.mp hx]; exact hs
  rw [owed, owed, count_true_of_all hall, count_true_of_all hall', hs, hsamples] at howed
  simp only [dropped, if_true, beq_self_eq_true, Bool.toNat_true] at howed
  by_cases hfull : b.cap ≤ b.buf.samples.length
  · rw [if_pos hfull] at howed
    simp only [List.length_append, List.length_drop, List.length_singleton] at howed
    by_cases hnil : b.buf.samples = []
    · rw [if_neg (fun h => h.2 hnil)]
      rw [hnil, List.length_nil] at howed
      omega
    · rw [if_pos ⟨hfull, hnil⟩]
      have hpos := List.length_pos_iff.mpr hnil
      omega
  · rw [if_neg hfull] at howed
    simp only [List.length_append, List.length_singleton] at howed
    rw [if_neg (fun h => hfull h.1)]
    omega

namespace Mirror

/-- What the two buffers have in common after any operations. -/
structure Alike (cap batchCap : ℕ) (m : Mirror σ) : Prop where
  logs    : m.logs.WellFormed cap batchCap
  metrics : m.metrics.WellFormed cap batchCap
  rings   : Paired m.recorded m.logs.buf m.metrics.buf.samples
  seq     : m.logs.seq = m.metrics.seq
  drains  : ∀ d ∈ m.drains, Paired m.recorded d.1.lines d.2.samples ∧ d.1.seq = d.2.seq

lemma init_alike (cap batchCap : ℕ) : (init cap batchCap : Mirror σ).Alike cap batchCap :=
  ⟨⟨rfl, rfl, Nat.zero_le _⟩, .withCaps cap batchCap, ⟨[], List.Sublist.refl _, rfl, rfl⟩, rfl,
    by simp [init]⟩

variable {cap batchCap : ℕ} {m : Mirror σ}

lemma Alike.record (h : m.Alike cap batchCap) (x : Twin σ) : (m.step (.record x)).Alike cap batchCap := by
  have hgrow : m.recorded.Sublist (m.recorded ++ [x]) := List.sublist_append_left _ _
  constructor
  · exact h.logs.record x.line
  · exact h.metrics.record x.sample
  · obtain ⟨xs, hxs, hlines, hsamples⟩ := h.rings
    have hrecord := MetricsBuffer.record_billable h.metrics.tallied h.rings.billable x.billable
    have hlen := h.rings.length_eq
    rw [h.metrics.cap_eq] at hrecord
    simp only [step, LogBuffer.record, h.logs.cap_eq, hrecord, hlen]
    split_ifs
    · refine ⟨xs.drop 1 ++ [x], ((List.drop_sublist 1 xs).trans hxs).append_right [x], ?_, ?_⟩
      · simp [hlines]
      · simp [hsamples]
    · refine ⟨xs ++ [x], hxs.append_right [x], ?_, ?_⟩
      · simp [hlines]
      · simp [hsamples]
  · have hlogs : (m.logs.record x.line).seq = m.logs.seq := by
      rw [LogBuffer.record]
      split <;> rfl
    exact (hlogs.trans h.seq).trans (m.metrics.record_seq x.sample).symm
  · intro d hd
    obtain ⟨hpaired, hseq⟩ := h.drains d hd
    exact ⟨hpaired.mono hgrow, hseq⟩

lemma Alike.drain (h : m.Alike cap batchCap) (now : DateTime) :
    (m.step (.drain now)).Alike cap batchCap := by
  obtain ⟨xs, hxs, hlines, hsamples⟩ := h.rings
  have hlen := h.rings.length_eq
  have htake : min m.logs.buf.length m.logs.batchCap =
      min m.metrics.buf.samples.length m.metrics.batchCap := by
    rw [hlen, h.logs.batchCap_eq, h.metrics.batchCap_eq]
  constructor
  · exact h.logs.drain
  · exact h.metrics.afterDrain
  · refine ⟨xs.drop (min m.logs.buf.length m.logs.batchCap), (List.drop_sublist _ xs).trans hxs, ?_, ?_⟩
    · simp only [step, LogBuffer.drain]
      rw [hlines, List.map_drop]
    · simp only [step, MetricsBuffer.afterDrain, ← htake]
      rw [hsamples, List.map_drop]
  · exact congrArg (· + 1) h.seq
  · intro d hd
    rcases List.mem_append.mp hd with hd | hd
    · exact h.drains d hd
    · rw [List.mem_singleton.mp hd]
      refine ⟨⟨xs.take (min m.logs.buf.length m.logs.batchCap), (List.take_sublist _ xs).trans hxs,
        ?_, ?_⟩, congrArg (· + 1) h.seq⟩
      · simp only [LogBuffer.drained, LogBuffer.drain]
        rw [hlines, List.map_take]
      · simp only [MetricsBuffer.drained, ← htake]
        rw [hsamples, List.map_take]

lemma run_alike (cap batchCap : ℕ) (ops : List (TwinOp σ)) :
    (run cap batchCap ops).Alike cap batchCap := by
  induction ops using List.reverseRecOn with
  | nil => exact init_alike cap batchCap
  | append_singleton ops op ih =>
    rw [run_concat]
    cases op with
    | record x => exact ih.record x
    | drain now => exact ih.drain now

/-! ### The drop counts -/

/-- What the buffers have dropped since the last drain. -/
def Even (m : Mirror σ) : Prop := m.logs.droppedOverflow = m.metrics.droppedOverflow

/-- A record on a full log ring counts a drop in both buffers, if the rings have something to drop. -/
lemma Alike.record_dropped (h : m.Alike cap batchCap) (x : Twin σ) :
    (m.step (.record x)).logs.droppedOverflow =
        m.logs.droppedOverflow + (if cap ≤ m.metrics.buf.samples.length then 1 else 0) ∧
      (m.step (.record x)).metrics.droppedOverflow = m.metrics.droppedOverflow +
        if cap ≤ m.metrics.buf.samples.length ∧ m.metrics.buf.samples ≠ [] then 1 else 0 := by
  have hlen := h.rings.length_eq
  constructor
  · simp only [step, LogBuffer.record, h.logs.cap_eq, hlen]
    split_ifs <;> rfl
  · have hdropped := MetricsBuffer.record_billable_dropped h.metrics.tallied h.rings.billable
      x.billable
    rwa [h.metrics.cap_eq] at hdropped

/-- With room for an item at all, a full ring has one to drop. -/
lemma run_even (hcap : 1 ≤ cap) (ops : List (TwinOp σ)) : (run cap batchCap ops).Even := by
  induction ops using List.reverseRecOn with
  | nil => rfl
  | append_singleton ops op ih =>
    rw [run_concat]
    cases op with
    | drain now => rfl
    | record x =>
      obtain ⟨hlogs, hmetrics⟩ := (run_alike cap batchCap ops).record_dropped x
      have hne : cap ≤ (run cap batchCap ops).metrics.buf.samples.length →
          (run cap batchCap ops).metrics.buf.samples ≠ [] := by
        intro hfull hnil
        rw [hnil, List.length_nil] at hfull
        omega
      rw [Even, hlogs, hmetrics, ih]
      simp only [and_iff_left_of_imp hne]

/-- No drain comes after a record. -/
def DrainsFirst (ops : List (TwinOp σ)) : Prop :=
  ops.Pairwise fun a b => a.isRecord = true → b.isRecord = true

instance (ops : List (TwinOp σ)) : Decidable (DrainsFirst ops) :=
  inferInstanceAs (Decidable (List.Pairwise _ _))

lemma drainsFirst_concat {ops : List (TwinOp σ)} {op : TwinOp σ} :
    DrainsFirst (ops ++ [op]) ↔
      DrainsFirst ops ∧ (ops.any TwinOp.isRecord = true → op.isRecord = true) := by
  simp only [DrainsFirst, List.pairwise_append, List.pairwise_singleton, List.mem_singleton,
    forall_eq, List.any_eq_true, true_and]
  constructor
  · rintro ⟨hops, hlast⟩
    exact ⟨hops, fun ⟨a, ha, hrec⟩ => hlast a ha hrec⟩
  · rintro ⟨hops, hlast⟩
    exact ⟨hops, fun a ha hrec => hlast ⟨a, ha, hrec⟩⟩

/-- With a capacity of zero the first record puts the log buffer one drop ahead. -/
lemma run_zero (batchCap : ℕ) {ops : List (TwinOp σ)} (h : DrainsFirst ops) :
    (ops.any TwinOp.isRecord = false → (run 0 batchCap ops).metrics.buf.samples = [] ∧
      (run 0 batchCap ops).Even) ∧
    (ops.any TwinOp.isRecord = true → (run 0 batchCap ops).metrics.buf.samples ≠ [] ∧
      (run 0 batchCap ops).logs.droppedOverflow =
        (run 0 batchCap ops).metrics.droppedOverflow + 1) := by
  induction ops using List.reverseRecOn with
  | nil => exact ⟨fun _ => ⟨rfl, rfl⟩, fun h => absurd h Bool.false_ne_true⟩
  | append_singleton ops op ih =>
    obtain ⟨hops, hlast⟩ := drainsFirst_concat.mp h
    obtain ⟨hnone, hsome⟩ := ih hops
    have halike := run_alike 0 batchCap ops
    rw [run_concat, List.any_append, List.any_cons, List.any_nil, Bool.or_false]
    cases op with
    | drain now =>
      have hany : ops.any TwinOp.isRecord = false := by
        by_contra hany
        cases hlast (Bool.eq_true_of_not_eq_false hany)
      have hlen := (run 0 batchCap ops).metrics.afterDrain_length
      rw [(hnone hany).1, List.length_nil, Nat.zero_sub, List.length_eq_zero_iff] at hlen
      rw [hany]
      exact ⟨fun _ => ⟨hlen, rfl⟩, fun h => absurd h Bool.false_ne_true⟩
    | record x =>
      obtain ⟨hlogs, hmetrics⟩ := halike.record_dropped x
      have hrecord := MetricsBuffer.record_billable halike.metrics.tallied halike.rings.billable
        x.billable
      rw [show TwinOp.isRecord (.record x) = true from rfl, Bool.or_true]
      refine ⟨fun h => absurd h (by decide), fun _ => ⟨?_, ?_⟩⟩
      · simp only [step]
        rw [hrecord]
        split_ifs <;> simp
      · rw [hlogs, hmetrics, if_pos (Nat.zero_le _)]
        cases hany : ops.any TwinOp.isRecord with
        | false =>
          obtain ⟨hnil, heven⟩ := hnone hany
          rw [if_neg (fun h => h.2 hnil), heven, Nat.add_zero]
        | true =>
          obtain ⟨hne, hahead⟩ := hsome hany
          rw [if_pos ⟨Nat.zero_le _, hne⟩, hahead]

/-- The counts that the drains return agree with a capacity of zero exactly if no drain comes after a
record. -/
lemma run_zero_drains (ops : List (TwinOp σ)) :
    (∀ d ∈ (run 0 batchCap ops).drains, d.1.dropped = d.2.droppedOverflow) ↔ DrainsFirst ops := by
  induction ops using List.reverseRecOn with
  | nil => exact ⟨fun _ => List.Pairwise.nil, fun _ d hd => absurd hd List.not_mem_nil⟩
  | append_singleton ops op ih =>
    rw [run_concat, drainsFirst_concat]
    cases op with
    | record x =>
      simp only [step, ih]
      exact ⟨fun h => ⟨h, fun _ => rfl⟩, fun h => h.1⟩
    | drain now =>
      simp only [step, List.forall_mem_append, List.forall_mem_singleton, ih]
      apply and_congr_right
      intro hops
      obtain ⟨hnone, hsome⟩ := run_zero batchCap hops
      cases hany : ops.any TwinOp.isRecord with
      | false => exact ⟨fun _ h => absurd h (by decide), fun _ => (hnone hany).2⟩
      | true =>
        constructor
        · intro heq
          have hahead := (hsome hany).2
          replace heq : (run 0 batchCap ops).logs.droppedOverflow =
            (run 0 batchCap ops).metrics.droppedOverflow := heq
          omega
        · intro h
          cases h rfl

lemma run_drains (hcap : 1 ≤ cap) (ops : List (TwinOp σ)) :
    ∀ d ∈ (run cap batchCap ops).drains, d.1.dropped = d.2.droppedOverflow := by
  induction ops using List.reverseRecOn with
  | nil => exact fun d hd => absurd hd List.not_mem_nil
  | append_singleton ops op ih =>
    rw [run_concat]
    cases op with
    | record x => exact ih
    | drain now =>
      simp only [step, List.forall_mem_append, List.forall_mem_singleton]
      exact ⟨ih, run_even hcap ops⟩

/-- The drains of the two buffers match throughout exactly if the rings have room for an item, or no
drain comes after a record. -/
theorem drains_match_iff (cap batchCap : ℕ) (ops : List (TwinOp σ)) :
    (∀ d ∈ (run cap batchCap ops).drains, Matches (run cap batchCap ops).recorded d.1 d.2) ↔
      1 ≤ cap ∨ DrainsFirst ops := by
  have halike := run_alike cap batchCap ops
  have hcounts : (∀ d ∈ (run cap batchCap ops).drains,
        Matches (run cap batchCap ops).recorded d.1 d.2) ↔
      ∀ d ∈ (run cap batchCap ops).drains, d.1.dropped = d.2.droppedOverflow := by
    constructor
    · intro h d hd
      exact (h d hd).2.1
    · intro h d hd
      obtain ⟨hpaired, hseq⟩ := halike.drains d hd
      exact ⟨hpaired, h d hd, hseq⟩
  rw [hcounts]
  rcases Nat.eq_zero_or_pos cap with rfl | hcap
  · rw [run_zero_drains]
    exact ⟨Or.inr, fun h => h.resolve_left (by decide)⟩
  · exact ⟨fun _ => .inl hcap, fun _ => run_drains hcap ops⟩

/-- A line of the log and a call that was billed. -/
def sampleTwin : Twin ToolCallSample := ⟨⟨0, .info, "mcpg::test", "ready", none⟩, sampleCall .ok, rfl⟩

/-- With a capacity of zero, one record is reported with one line and one drop by the log buffer, and
with one sample and no drop by the metrics buffer. -/
theorem log_counts_a_drop_of_nothing :
    ∃ l d, (run 0 1 [.record sampleTwin, .drain 0]).drains = [(l, d)] ∧
      l.lines = [sampleTwin.line] ∧ l.dropped = 1 ∧ d.samples = [sampleTwin.sample] ∧
      d.droppedOverflow = 0 ∧
      ¬ ∀ d ∈ (run 0 1 [.record sampleTwin, .drain 0]).drains,
        Matches (run 0 1 [.record sampleTwin, .drain 0]).recorded d.1 d.2 := by
  refine ⟨_, _, rfl, rfl, rfl, rfl, rfl, ?_⟩
  intro h
  have hcount := (h _ (List.mem_singleton.mpr rfl)).2.1
  cases hcount

end Mirror

end ControlPlaneClient
