import ControlPlaneClient.Metrics.Usage

/-!
# MCP Events usage is conserved

The calls of `record_events` on a buffer, and where each of them is counted now: in the rollup, in
a batch that is out, or in a report that was handed over. Batches are drained, handed over and
returned in any order. The clock does not go back from one call to the next.

Counts are added with saturation, so conservation is shown as long as the totals fit in 64 bits.
-/

namespace ControlPlaneClient

open Transition

variable {σ : Type*}

/-- A batch and the calls it counts. -/
abbrev Tracked (σ : Type*) := Drained σ × List EventCall

/-- Operations on a buffer, with the calls of `record_events` among them. -/
structure UsageTrail (σ : Type*) where
  traffic  : Traffic σ
  /-- The last reading of the clock. -/
  clock    : DateTime
  recorded : List EventCall
  /-- The calls that the rollup counts. -/
  pending  : List EventCall
  /-- The batches that are out, each with its calls. -/
  out      : List (Tracked σ)
  /-- Every batch that was ever drained. -/
  drains   : List (Tracked σ)

namespace UsageTrail

def init (cap batchCap : ℕ) (clock : DateTime) : UsageTrail σ :=
  ⟨.init cap batchCap, clock, [], [], [], []⟩

/-- The totals fit in 64 bits. -/
def Fits (u : UsageTrail σ) : Prop := ∀ k f, countedBy k f u.recorded ≤ 2 ^ 64 - 1

/-- Every call is counted in one place, and that place says so. -/
structure Balanced (u : UsageTrail σ) : Prop where
  paired  : u.out.map Prod.fst = u.traffic.outstanding
  drained : ∀ p ∈ u.out, p ∈ u.drains
  rollup  : Rolls u.clock u.pending u.traffic.buffer.events
  batches : ∀ p ∈ u.drains, Covers u.clock p.1.events p.2
  total   : ∀ k f, countedBy k f u.recorded =
    (u.traffic.handed.map fun d => reported k f d.events).sum +
    (u.out.map fun p => countedBy k f p.2).sum + countedBy k f u.pending

lemma init_balanced (cap batchCap : ℕ) (clock : DateTime) :
    (init cap batchCap clock : UsageTrail σ).Balanced where
  paired := rfl
  drained p hp := by cases hp
  rollup := Rolls.nil clock
  batches p hp := by cases hp
  total k f := rfl

/-- One element of a list and the rest of it. -/
lemma sum_map_eraseIdx {α : Type*} {xs : List α} {i : ℕ} {x : α} (h : xs[i]? = some x) (g : α → ℕ) :
    (xs.map g).sum = g x + ((xs.eraseIdx i).map g).sum := by
  obtain ⟨hi, rfl⟩ := List.getElem?_eq_some_iff.mp h
  have hperm := (List.getElem_cons_eraseIdx_perm hi).map g
  rw [← hperm.sum_eq, List.map_cons, List.sum_cons]

namespace Balanced

variable {u : UsageTrail σ}

/-- Operations that touch no calls. -/
lemma frame (h : u.Balanced) {t : Traffic σ} (hevents : t.buffer.events = u.traffic.buffer.events)
    (hout : t.outstanding = u.traffic.outstanding) (hhanded : t.handed = u.traffic.handed) :
    ({ u with traffic := t } : UsageTrail σ).Balanced where
  paired := by rw [hout]; exact h.paired
  drained := h.drained
  rollup := by rw [hevents]; exact h.rollup
  batches := h.batches
  total k f := by rw [hhanded]; exact h.total k f

/-- A batch that is out, with its calls. -/
lemma out_of_outstanding (h : u.Balanced) {i : ℕ} {d : Drained σ}
    (hd : u.traffic.outstanding[i]? = some d) : ∃ calls, u.out[i]? = some (d, calls) := by
  rw [← h.paired, List.getElem?_map] at hd
  obtain ⟨⟨d', calls⟩, hp, rfl⟩ := Option.map_eq_some_iff.mp hd
  exact ⟨calls, hp⟩

lemma covers (h : u.Balanced) {i : ℕ} {p : Tracked σ} (hp : u.out[i]? = some p) :
    Covers u.clock p.1.events p.2 :=
  h.batches p (h.drained p (List.mem_of_getElem? hp))

lemma paired_eraseIdx (h : u.Balanced) (i : ℕ) :
    (u.out.eraseIdx i).map Prod.fst = u.traffic.outstanding.eraseIdx i := by
  rw [← List.eraseIdx_map, h.paired]

lemma drained_eraseIdx (h : u.Balanced) (i : ℕ) : ∀ p ∈ u.out.eraseIdx i, p ∈ u.drains := by
  intro p hp
  exact h.drained p (List.mem_of_mem_eraseIdx hp)

lemma recordEvents (h : u.Balanced) {now : DateTime} {n m : String} {c : EventCounts}
    (hnow : u.clock ≤ now)
    (hfits : ∀ k f, countedBy k f (u.recorded ++ [⟨now, n, m, c⟩]) ≤ 2 ^ 64 - 1) :
    ({ u with
      traffic := { u.traffic with buffer := u.traffic.buffer.recordEvents now n m c }
      clock := now
      recorded := u.recorded ++ [⟨now, n, m, c⟩]
      pending := if c = {} then u.pending else u.pending ++ [⟨now, n, m, c⟩] } :
        UsageTrail σ).Balanced := by
  -- What is pending is part of what was recorded.
  have hpending : ∀ k f, countedBy k f (u.pending ++ [⟨now, n, m, c⟩]) ≤ 2 ^ 64 - 1 := by
    intro k f
    have hpart := h.total k f
    have htotal := hfits k f
    rw [countedBy_append] at htotal ⊢
    omega
  refine ⟨h.paired, h.drained, ?_, fun p hp => (h.batches p hp).mono hnow, ?_⟩
  · split_ifs with hc
    · rw [MetricsBuffer.recordEvents, if_pos hc]
      exact h.rollup.mono hnow
    · exact h.rollup.recordEvents hc hnow hpending
  · intro k f
    have htotal := h.total k f
    split_ifs with hc
    · have hzero : countedBy k f [⟨now, n, m, c⟩] = 0 := by
        by_cases hk : toLex (n, m) = k
        · simp [countedBy, EventCall.key, hk, hc]
        · simp [countedBy, EventCall.key, hk]
      rw [countedBy_append, hzero, Nat.add_zero]
      exact htotal
    · rw [countedBy_append, countedBy_append, htotal, Nat.add_assoc _ (countedBy k f u.pending)]

lemma handOver (h : u.Balanced) {i : ℕ} {d : Drained σ} (hd : u.traffic.outstanding[i]? = some d) :
    ({ u with
      traffic :=
        { u.traffic with
          outstanding := u.traffic.outstanding.eraseIdx i
          handed := u.traffic.handed ++ [d] }
      out := u.out.eraseIdx i } : UsageTrail σ).Balanced := by
  obtain ⟨calls, hp⟩ := h.out_of_outstanding hd
  refine ⟨h.paired_eraseIdx i, h.drained_eraseIdx i, h.rollup, h.batches, ?_⟩
  intro k f
  have htotal := h.total k f
  have hbatch := (h.covers hp).amount k f
  rw [sum_map_eraseIdx hp] at htotal
  simp only [List.map_append, List.sum_append, List.map_singleton, List.sum_singleton]
  dsimp only at hbatch htotal
  omega

lemma discard (h : u.Balanced) {i : ℕ} {d : Drained σ} (hd : u.traffic.outstanding[i]? = some d)
    (hempty : d.isEmpty = true) :
    ({ u with
      traffic := { u.traffic with outstanding := u.traffic.outstanding.eraseIdx i }
      out := u.out.eraseIdx i } : UsageTrail σ).Balanced := by
  obtain ⟨calls, hp⟩ := h.out_of_outstanding hd
  refine ⟨h.paired_eraseIdx i, h.drained_eraseIdx i, h.rollup, h.batches, ?_⟩
  intro k f
  have htotal := h.total k f
  have hbatch := (h.covers hp).amount k f
  have hnone : d.events = [] := by
    simp only [Drained.isEmpty, Bool.and_eq_true, List.isEmpty_iff] at hempty
    exact hempty.2
  have hzero : reported k f d.events = 0 := by rw [hnone]; rfl
  rw [sum_map_eraseIdx hp] at htotal
  dsimp only at hbatch htotal ⊢
  omega

variable [HasOutcome σ]

lemma drain (h : u.Balanced) {now : DateTime} (hnow : u.clock ≤ now) :
    ({ u with
      traffic :=
        { u.traffic with
          buffer := u.traffic.buffer.afterDrain
          outstanding := u.traffic.outstanding ++ [u.traffic.buffer.drained now] }
      clock := now
      pending := []
      out := u.out ++ [(u.traffic.buffer.drained now, u.pending)]
      drains := u.drains ++ [(u.traffic.buffer.drained now, u.pending)] } :
        UsageTrail σ).Balanced := by
  refine ⟨?_, ?_, Rolls.nil now, ?_, ?_⟩
  · rw [List.map_append, h.paired]
    rfl
  · intro p hp
    rcases List.mem_append.mp hp with hp | hp
    · exact List.mem_append_left _ (h.drained p hp)
    · exact List.mem_append_right _ hp
  · intro p hp
    rcases List.mem_append.mp hp with hp | hp
    · exact (h.batches p hp).mono hnow
    · rw [List.mem_singleton.mp hp]
      exact h.rollup.covers hnow
  · intro k f
    have htotal := h.total k f
    simp only [List.map_append, List.sum_append, List.map_singleton, List.sum_singleton,
      countedBy_nil]
    omega

lemma requeue (h : u.Balanced) {i : ℕ} {d : Drained σ} {calls : List EventCall}
    (hp : u.out[i]? = some (d, calls)) (hfits : u.Fits) :
    ({ u with
      traffic :=
        { u.traffic with
          buffer := u.traffic.buffer.requeueFront d
          outstanding := u.traffic.outstanding.eraseIdx i }
      pending := u.pending ++ calls
      out := u.out.eraseIdx i } : UsageTrail σ).Balanced := by
  have htotal : ∀ k f, countedBy k f u.recorded = _ := fun k f =>
    (h.total k f).trans (by rw [sum_map_eraseIdx hp])
  refine ⟨h.paired_eraseIdx i, h.drained_eraseIdx i, ?_, h.batches, ?_⟩
  · rw [MetricsBuffer.requeueFront_events]
    refine h.rollup.requeue (h.covers hp) ?_
    intro k f
    have hle := hfits k f
    rw [htotal] at hle
    dsimp only at hle
    omega
  · intro k f
    rw [htotal, countedBy_append]
    dsimp only
    omega

end Balanced

variable [HasOutcome σ]

/-- The operation itself, and where it takes the calls. The clock does not go back. -/
def step (u : UsageTrail σ) (e : TrafficEvent σ) : Option (UsageTrail σ) := do
  let t ← u.traffic.step e
  match e with
  | .record _ => some { u with traffic := t }
  | .wake => some { u with traffic := t }
  | .recordEvents now n m c =>
    if u.clock ≤ now then
      some { u with
        traffic := t
        clock := now
        recorded := u.recorded ++ [⟨now, n, m, c⟩]
        -- A call that counts nothing leaves no trace in the rollup.
        pending := if c = {} then u.pending else u.pending ++ [⟨now, n, m, c⟩] }
    else none
  | .drain now =>
    if u.clock ≤ now then
      some { u with
        traffic := t
        clock := now
        pending := []
        out := u.out ++ [(u.traffic.buffer.drained now, u.pending)]
        drains := u.drains ++ [(u.traffic.buffer.drained now, u.pending)] }
    else none
  | .handOver i => some { u with traffic := t, out := u.out.eraseIdx i }
  | .discard i => some { u with traffic := t, out := u.out.eraseIdx i }
  | .requeue i => do
    let p ← u.out[i]?
    some { u with traffic := t, pending := u.pending ++ p.2, out := u.out.eraseIdx i }

lemma step_balanced {u u' : UsageTrail σ} {e : TrafficEvent σ} (h : u.step e = some u')
    (hu : u.Balanced) (hfits : u'.Fits) : u'.Balanced := by
  obtain ⟨t, ht, h⟩ := Option.bind_eq_some_iff.mp h
  cases Traffic.step_effect ht with
  | record s =>
    cases h
    exact hu.frame (MetricsBuffer.record_events _ s) rfl rfl
  | wake hpermit =>
    cases h
    exact hu.frame rfl rfl rfl
  | recordEvents now n m c =>
    dsimp only at h
    split at h
    · cases h
      exact hu.recordEvents ‹_› hfits
    · cases h
  | drain now =>
    dsimp only at h
    split at h
    · cases h
      exact hu.drain ‹_›
    · cases h
  | handOver i d hd =>
    cases h
    exact hu.handOver hd
  | discard i d hd hempty =>
    cases h
    exact hu.discard hd hempty
  | requeue i d hd =>
    obtain ⟨calls, hp⟩ := hu.out_of_outstanding hd
    simp only [hp, Option.bind_eq_bind, Option.bind_some] at h
    cases h
    exact hu.requeue hp hfits

lemma step_fits {u u' : UsageTrail σ} {e : TrafficEvent σ} (h : u.step e = some u')
    (hfits : u'.Fits) : u.Fits := by
  have hgrows : u.recorded <+: u'.recorded := by
    obtain ⟨t, ht, h⟩ := Option.bind_eq_some_iff.mp h
    cases e with
    | record s => cases h; exact List.prefix_rfl
    | wake => cases h; exact List.prefix_rfl
    | recordEvents now n m c =>
      dsimp only at h
      split at h
      · cases h; exact List.prefix_append _ _
      · cases h
    | drain now =>
      dsimp only at h
      split at h
      · cases h; exact List.prefix_rfl
      · cases h
    | handOver i => cases h; exact List.prefix_rfl
    | discard i => cases h; exact List.prefix_rfl
    | requeue i =>
      obtain ⟨p, hp, h⟩ := Option.bind_eq_some_iff.mp h
      cases h
      exact List.prefix_rfl
  intro k f
  obtain ⟨calls, hcalls⟩ := hgrows
  have hle := hfits k f
  rw [← hcalls, countedBy_append] at hle
  omega

/-- MCP Events usage is conserved, and every window is right. As long as no total exceeds 64 bits,
what was recorded of a key is what the reports handed over say of it, with what the batches still
out say and what the rollup holds; and a row that was ever drained has the sum of the calls it
counts, all of them made within its window. -/
theorem usage_conserved (cap batchCap : ℕ) (clock : DateTime) (es : List (TrafficEvent σ))
    (u : UsageTrail σ) (h : exec step (init cap batchCap clock) es = some u)
    (hfits : ∀ k f, countedBy k f u.recorded ≤ 2 ^ 64 - 1) :
    (∀ k f, countedBy k f u.recorded =
      (u.traffic.handed.map fun d => reported k f d.events).sum +
      (u.traffic.outstanding.map fun d => reported k f d.events).sum +
      u.traffic.buffer.events.amount k f) ∧
    ∀ p ∈ u.drains, ∀ row ∈ p.1.events,
      (∀ f, row.counts.field f = countedBy row.key f p.2) ∧
      ∀ c ∈ p.2, c.key = row.key → row.windowStart ≤ c.time ∧ c.time ≤ row.windowEnd := by
  have hinv : u.Fits → u.Balanced :=
    exec_invariant (I := fun u => u.Fits → u.Balanced)
      (fun _ _ _ hu hstep hfits => step_balanced hstep (hu (step_fits hstep hfits)) hfits)
      (fun _ => init_balanced cap batchCap clock) h
  have hu := hinv hfits
  constructor
  · intro k f
    have hout : (u.out.map fun p => countedBy k f p.2) =
        u.traffic.outstanding.map fun d => reported k f d.events := by
      rw [← hu.paired, List.map_map]
      apply List.map_congr_left
      intro p hp
      exact ((hu.batches p (hu.drained p hp)).amount k f).symm
    rw [hu.total, hout, hu.rollup.amount]
  · intro p hp row hrow
    have hcovers := hu.batches p hp
    exact ⟨hcovers.row row hrow, fun c hc _ => hcovers.window row hrow c hc⟩

end UsageTrail

/-- A batch comes back to a rollup that has begun again, and leaves with it. -/
def overlappedUsage : List (TrafficEvent ToolCallSample) :=
  [.recordEvents 10 "a" "webhook" ⟨3, 1, 0, 90⟩, .drain 20,
    .recordEvents 30 "a" "webhook" ⟨2, 0, 0, 40⟩, .requeue 0, .drain 40, .handOver 0]

theorem usage_conserved_overlapped :
    ∃ u, exec UsageTrail.step (.init 2 2 0) overlappedUsage = some u ∧
      u.traffic.handed.map Drained.events =
        [[⟨"a", "webhook", ⟨5, 1, 0, 130⟩, 10, 40⟩]] ∧
      (∀ k f, countedBy k f u.recorded =
        (u.traffic.handed.map fun d => reported k f d.events).sum +
        (u.traffic.outstanding.map fun d => reported k f d.events).sum +
        u.traffic.buffer.events.amount k f) := by
  have hrun : (exec UsageTrail.step (.init 2 2 0) overlappedUsage).map (fun u =>
      (u.recorded, u.traffic.handed.map Drained.events)) =
      some ([⟨10, "a", "webhook", ⟨3, 1, 0, 90⟩⟩, ⟨30, "a", "webhook", ⟨2, 0, 0, 40⟩⟩],
        [[⟨"a", "webhook", ⟨5, 1, 0, 130⟩, 10, 40⟩]]) := by rfl
  obtain ⟨u, hu, hrun⟩ := Option.map_eq_some_iff.mp hrun
  simp only [Prod.mk.injEq] at hrun
  obtain ⟨hrecorded, hhanded⟩ := hrun
  have hfits : ∀ k f, countedBy k f u.recorded ≤ 2 ^ 64 - 1 := by
    intro k f
    rw [hrecorded, countedBy]
    by_cases hk : toLex ("a", "webhook") = k
    · cases f <;> simp [EventCall.key, EventCounts.field, hk]
    · simp [EventCall.key, hk]
  exact ⟨u, hu, hhanded, (UsageTrail.usage_conserved 2 2 0 overlappedUsage u hu hfits).1⟩

end ControlPlaneClient
