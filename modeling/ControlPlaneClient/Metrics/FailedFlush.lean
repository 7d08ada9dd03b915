import ControlPlaneClient.Metrics.Overflow
import ControlPlaneClient.Metrics.Tick
import ControlPlaneClient.Metrics.Usage

/-!
# A failed flush

`requeue_front` undoes `drain`. The samples go back one by one and all fit, since they were in the
ring before; the rows go back in key order, each after the last; and the start of the rollup is the
start of the window that every row has.
-/

namespace ControlPlaneClient

open Transition

variable {σ : Type*}

attribute [ext] Ring EventsRollup MetricsBuffer

/-! ### The rollup -/

/-- A rollup has a start exactly when it counts something. -/
def EventsRollup.Dated (r : EventsRollup) : Prop :=
  r.since.isSome = true ↔ r.counts.entries ≠ []

lemma upsertEntries_ne_nil {K V : Type*} [LinearOrder K] (k : K) (f : Option V → V)
    (es : List (K × V)) : SortedMap.upsertEntries k f es ≠ [] := by
  cases es with
  | nil => simp [SortedMap.upsertEntries]
  | cons e es =>
    simp only [SortedMap.upsertEntries]
    split_ifs <;> exact List.cons_ne_nil _ _

namespace EventsRollup

lemma dated_empty : ({} : EventsRollup).Dated := by
  simp [Dated, SortedMap.empty]

/-- A rollup with a start that counts something more. -/
lemma dated_count {r : EventsRollup} {s : DateTime} (h : r.since = some s) (n m : String)
    (c : EventCounts) : (r.count n m c).Dated := by
  have hne := upsertEntries_ne_nil (toLex (n, m)) (fun old => (old.getD {}).add c) r.counts.entries
  rw [Dated, count, h]
  exact ⟨fun _ => hne, fun _ => rfl⟩

end EventsRollup

lemma saturatingAdd_zero (a : UInt64) : saturatingAdd 0 a = a := by
  have hlt : (0 : UInt64).toNat + a.toNat < 2 ^ 64 := by
    simpa using a.toNat_lt
  rw [saturatingAdd, if_pos hlt, UInt64.zero_add]

lemma EventCounts.default_add (c : EventCounts) : EventCounts.add {} c = c := by
  cases c
  simp only [EventCounts.add, saturatingAdd_zero]

namespace MetricsBuffer

lemma requeueUsage_dated (r : EventsRollup) (u : EventUsage) : (requeueUsage r u).Dated :=
  EventsRollup.dated_count rfl _ _ _

lemma foldl_requeueUsage_dated {r : EventsRollup} (h : r.Dated) (rows : List EventUsage) :
    (rows.foldl requeueUsage r).Dated := by
  induction rows generalizing r with
  | nil => exact h
  | cons u rows ih => exact ih (requeueUsage_dated r u)

lemma recordEvents_dated {b : MetricsBuffer σ} (h : b.events.Dated) (now : DateTime) (n m : String)
    (c : EventCounts) : (b.recordEvents now n m c).events.Dated := by
  rw [recordEvents]
  split
  · exact h
  · exact EventsRollup.dated_count rfl n m c

/-- The row of an entry. -/
def usageRow (start now : DateTime) (e : (String ×ₗ String) × EventCounts) : EventUsage :=
  ⟨(ofLex e.1).1, (ofLex e.1).2, e.2, start, now⟩

/-- One row goes back after all others. -/
lemma requeueUsage_usageRow {r : EventsRollup} {start : DateTime} (now : DateTime)
    (hsince : r.since.getD start = start) {e : (String ×ₗ String) × EventCounts}
    (h : ∀ k ∈ r.counts.entries.map Prod.fst, k < e.1) :
    (requeueUsage r (usageRow start now e)).since = some start ∧
      (requeueUsage r (usageRow start now e)).counts.entries = r.counts.entries ++ [e] := by
  constructor
  · simp only [requeueUsage, EventsRollup.count, usageRow, hsince, min_self]
  · have happend := SortedMap.upsertEntries_of_lt h fun old => (old.getD {}).add e.2
    simp only [Option.getD_none, EventCounts.default_add] at happend
    exact happend

/-- The rows of a batch go back in key order. -/
lemma foldl_requeueUsage_usageRow (start now : DateTime)
    (es : List ((String ×ₗ String) × EventCounts)) (r : EventsRollup)
    (hsince : r.since.getD start = start)
    (hsorted : ((r.counts.entries ++ es).map Prod.fst).Pairwise (· < ·)) :
    ((es.map (usageRow start now)).foldl requeueUsage r).counts.entries = r.counts.entries ++ es ∧
      ((es.map (usageRow start now)).foldl requeueUsage r).since =
        if es = [] then r.since else some start := by
  induction es generalizing r with
  | nil => simp
  | cons e es ih =>
    have hlt : ∀ k ∈ r.counts.entries.map Prod.fst, k < e.1 := by
      intro k hk
      rw [List.map_append, List.pairwise_append] at hsorted
      exact hsorted.2.2 k hk e.1 (by simp)
    obtain ⟨hsince', hentries⟩ := requeueUsage_usageRow now hsince hlt
    have hrest := ih (requeueUsage r (usageRow start now e)) (by rw [hsince']; rfl)
      (by rwa [hentries, List.append_assoc, List.singleton_append])
    rw [List.map_cons, List.foldl_cons, hrest.1, hrest.2, hentries, hsince']
    simp

/-- Returning the rows of a rollup to an empty one gives it back. -/
lemma foldl_requeueUsage_usageRows {r : EventsRollup} (h : r.Dated) (now : DateTime) :
    (usageRows r now).foldl requeueUsage {} = r := by
  obtain ⟨hentries, hsince⟩ := foldl_requeueUsage_usageRow (r.since.getD now) now
    r.counts.entries {} rfl r.counts.sorted
  apply EventsRollup.ext
  · refine hsince.trans ?_
    cases hs : r.since with
    | none =>
      rw [EventsRollup.Dated, hs] at h
      have hnil : r.counts.entries = [] := by simpa using h
      rw [if_pos hnil]
    | some s =>
      rw [EventsRollup.Dated, hs] at h
      rw [if_neg (h.mp rfl), Option.getD_some]
  · exact SortedMap.ext hentries

end MetricsBuffer

/-! ### The buffer -/

variable [HasOutcome σ]

namespace MetricsBuffer

lemma requeueSamples_flushEarly (xs : List σ) (b : MetricsBuffer σ) :
    (xs.foldr requeueSample b).flushEarly = b.flushEarly :=
  requeueSamples_frame flushEarly countDrop_flushEarly (fun _ _ => rfl) xs b

variable {cap batchCap : ℕ} {b : MetricsBuffer σ}

/-- All the samples of a batch fit where they were taken from. -/
lemma WellFormed.overflowing_drained (h : b.WellFormed cap batchCap) (hcap : 1 ≤ cap)
    (now : DateTime) : b.afterDrain.overflowing (b.drained now).samples = 0 := by
  have hlen := h.length
  have hsplit := congrArg List.length (b.drained_append_afterDrain now)
  have hroom : b.afterDrain.cap = cap := h.cap_eq
  rw [List.length_append] at hsplit
  rw [overflowing, hroom]
  omega

/-- `requeue_front` undoes `drain`, but for the sequence number. -/
lemma WellFormed.requeueFront_drained (h : b.WellFormed cap batchCap) (hcap : 1 ≤ cap)
    (hdated : b.events.Dated) (now : DateTime) :
    b.afterDrain.requeueFront (b.drained now) = { b with seq := b.seq + 1 } := by
  have hnone := h.overflowing_drained hcap now
  have hsamples : (b.afterDrain.requeueFront (b.drained now)).buf.samples = b.buf.samples := by
    rw [requeueFront_samples, hnone, List.drop_zero, drained_append_afterDrain]
  have hdropped : ∀ c, (b.afterDrain.requeueFront (b.drained now)).dropped c = b.dropped c := by
    intro c
    rw [requeueFront_dropped, hnone, List.take_zero, count_nil, afterDrain_dropped, drained_dropped,
      Nat.zero_add]
  have hcaps : (b.afterDrain.requeueFront (b.drained now)).caps = b.caps := requeueFront_caps _ _
  have htallied : (b.afterDrain.requeueFront (b.drained now)).buf.Tallied :=
    (h.afterDrain.requeueFront _).tallied
  apply MetricsBuffer.ext
  · apply Ring.ext
    · exact hsamples
    · -- Both rings know how many non-billable samples they hold, and hold the same.
      rw [Ring.Tallied, hsamples] at htallied
      exact htallied.trans h.tallied.symm
  · exact congrArg Caps.cap hcaps
  · exact congrArg Caps.batchCap hcaps
  · exact congrArg Caps.flushEarlyAt hcaps
  · exact requeueSamples_flushEarly (b.drained now).samples b.afterDrain
  · exact hdropped true
  · exact hdropped false
  · exact requeueSamples_seq (b.drained now).samples b.afterDrain
  · rw [requeueFront_events]
    exact foldl_requeueUsage_usageRows hdated now

/-- What holds of a buffer that was created with the two capacities, usage included. -/
structure Sound (cap batchCap : ℕ) (b : MetricsBuffer σ) : Prop where
  wellFormed : b.WellFormed cap batchCap
  dated      : b.events.Dated

end MetricsBuffer

lemma Traffic.exec_sound {cap batchCap : ℕ} {es : List (TrafficEvent σ)} {t : Traffic σ}
    (h : exec step (init cap batchCap) es = some t) : t.buffer.Sound cap batchCap := by
  refine ⟨exec_wellFormed h, ?_⟩
  apply exec_invariant (I := fun t => t.buffer.events.Dated) _ _ h
  · intro t e t' ht hstep
    cases step_effect hstep with
    | record s =>
      rw [MetricsBuffer.record_events]
      exact ht
    | recordEvents now n m c => exact MetricsBuffer.recordEvents_dated ht now n m c
    | drain now => exact EventsRollup.dated_empty
    | requeue i d hd =>
      rw [MetricsBuffer.requeueFront_events]
      exact MetricsBuffer.foldl_requeueUsage_dated ht d.events
    | _ => exact ht
  · exact EventsRollup.dated_empty

lemma FlushEffect.sound {b b' : MetricsBuffer σ} {e : FlushEvent} {cap batchCap : ℕ}
    {held held' : Option (Drained σ)} {out : List (Drained σ)}
    (h : FlushEffect b e held b' held' out) (hb : b.Sound cap batchCap) : b'.Sound cap batchCap := by
  refine ⟨h.wellFormed hb.wellFormed, ?_⟩
  have hdated := hb.dated
  cases h with
  | idle e permit => exact hdated
  | took now hne => exact EventsRollup.dated_empty
  | tookNothing now hempty => exact EventsRollup.dated_empty
  | handedOver d => exact hdated
  | returned e d he =>
    rw [MetricsBuffer.dropInFlight]
    split
    · exact hdated
    · rw [MetricsBuffer.requeueFront_events]
      exact MetricsBuffer.foldl_requeueUsage_dated hdated d.events

/-! ### The loop -/

omit [HasOutcome σ] in
lemma MetricsBuffer.drained_isEmpty_iff {b : MetricsBuffer σ} {now : DateTime} :
    (b.drained now).isEmpty = true ↔ min b.buf.samples.length b.batchCap = 0 ∧
      (∀ c, b.dropped c = 0) ∧ b.events.counts.entries = [] := by
  have hlen := b.drained_length now
  rw [Drained.isEmpty_iff, ← List.length_eq_zero_iff, hlen, Drained.SamplesOnly]
  simp only [drained_dropped, ← usageRows_eq_nil now]
  rfl

/-- After a drain that finds nothing, the next one finds nothing either. -/
lemma MetricsBuffer.afterDrain_isEmpty {b : MetricsBuffer σ} {now : DateTime}
    (h : (b.drained now).isEmpty = true) (now' : DateTime) :
    (b.afterDrain.drained now').isEmpty = true := by
  obtain ⟨hlen, -, -⟩ := drained_isEmpty_iff.mp h
  rw [drained_isEmpty_iff, afterDrain_length, afterDrain_batchCap]
  exact ⟨by omega, b.afterDrain_dropped, rfl⟩

namespace Tick

lemma step_sound {k k' : Tick σ} {e : FlushEvent} {cap batchCap : ℕ}
    (hk : k.buffer.Sound cap batchCap) (h : k.step e = some k') : k'.buffer.Sound cap batchCap := by
  obtain ⟨⟨b, p, out⟩, hstep, rfl⟩ := Option.map_eq_some_iff.mp h
  exact (flushStep_effect hstep).sound hk

/-- The loop holds no batch. -/
def BetweenBatches (k : Tick σ) : Prop := k.phase.inFlight = none

/-- A loop that finds nothing sends nothing. -/
lemma exec_nothing {k k' : Tick σ} (hk : k.BetweenBatches)
    (hempty : ∀ now, (k.buffer.drained now).isEmpty = true) (times : List DateTime)
    (h : exec step k (times.map .drain ++ [.sendFails]) = some k') : False := by
  induction times generalizing k with
  | nil =>
    obtain ⟨b, p, out⟩ := k
    obtain ⟨k₁, h₁, -⟩ := exec_cons_eq_some.mp h
    cases p <;> cases hk <;> cases h₁
  | cons now times ih =>
    obtain ⟨b, p, out⟩ := k
    obtain ⟨k₁, h₁, h⟩ := exec_cons_eq_some.mp h
    cases p with
    | flushing left =>
      rw [step_drain_of_isEmpty (hempty now)] at h₁
      cases h₁
      apply ih _ _ h
      · exact afterBatch_inFlight b _ left
      · exact MetricsBuffer.afterDrain_isEmpty (hempty now)
    | _ => cases h₁

/-- A batch that cannot be sent goes back to where it was taken from. -/
lemma exec_sendFails {k k' : Tick σ} {cap batchCap : ℕ} (hcap : 1 ≤ cap)
    (hsound : k.buffer.Sound cap batchCap) (hk : k.BetweenBatches) (times : List DateTime)
    (h : exec step k (times.map .drain ++ [.sendFails]) = some k') :
    k'.buffer = { k.buffer with seq := k'.buffer.seq } ∧ k'.sent = k.sent := by
  obtain ⟨b, p, out⟩ := k
  cases times with
  | nil =>
    obtain ⟨k₁, h₁, -⟩ := exec_cons_eq_some.mp h
    cases p <;> cases hk <;> cases h₁
  | cons now times =>
    obtain ⟨k₁, h₁, h⟩ := exec_cons_eq_some.mp h
    cases p with
    | flushing left =>
      by_cases hempty : (b.drained now).isEmpty = true
      · rw [step_drain_of_isEmpty hempty] at h₁
        cases h₁
        refine absurd h (exec_nothing ?_ ?_ times)
        · exact afterBatch_inFlight b _ left
        · exact MetricsBuffer.afterDrain_isEmpty hempty
      · rw [step_drain hempty] at h₁
        cases h₁
        cases times with
        | nil =>
          have hundone := hsound.wellFormed.requeueFront_drained hcap hsound.dated now
          have hdrop : b.afterDrain.dropInFlight (b.drained now) = { b with seq := b.seq + 1 } := by
            rw [MetricsBuffer.dropInFlight, if_neg hempty]
            exact hundone
          have hstep : step ⟨b.afterDrain, .sending left (b.drained now), out⟩ .sendFails =
              some ⟨b.afterDrain.dropInFlight (b.drained now), .stopped, out ++ []⟩ := rfl
          obtain ⟨k₂, h₂, h⟩ := exec_cons_eq_some.mp h
          rw [hstep, hdrop] at h₂
          cases h₂
          cases h
          exact ⟨rfl, List.append_nil out⟩
        | cons now' times =>
          obtain ⟨k₂, h₂, -⟩ := exec_cons_eq_some.mp h
          cases h₂
    | _ => cases h₁

/-- Right after a send the loop holds no batch. -/
lemma betweenBatches_of_sent {k k' : Tick σ} (h : k.step .sent = some k') : k'.BetweenBatches := by
  obtain ⟨b, p, out⟩ := k
  cases p with
  | sending left batch => cases h; exact afterBatch_inFlight _ _ _
  | _ => cases h

/-- A tick whose first sends succeed and whose next send fails leaves the buffer as it was after the
last hand-over, but for the sequence number. -/
theorem failed_flush_changes_nothing (cap batchCap : ℕ) (hcap : 1 ≤ cap)
    (before : List (TrafficEvent σ)) (t : Traffic σ)
    (hbefore : exec Traffic.step (.init cap batchCap) before = some t) :
    (∀ now, t.buffer.afterDrain.requeueFront (t.buffer.drained now) =
      { t.buffer with seq := t.buffer.seq + 1 }) ∧
    ∀ (sends : List FlushEvent) (k : Tick σ), exec step (.start t.buffer) sends = some k →
      (∀ e ∈ sends, e.succeeds = true) → (sends = [] ∨ sends.getLast? = some .sent) →
      ∀ (times : List DateTime) (k' : Tick σ),
        exec step k (times.map .drain ++ [.sendFails]) = some k' →
        k'.buffer = { k.buffer with seq := k'.buffer.seq } ∧ k'.sent = k.sent := by
  have hsound := Traffic.exec_sound hbefore
  refine ⟨hsound.wellFormed.requeueFront_drained hcap hsound.dated, ?_⟩
  intro sends k hk hsends hlast times k' hk'
  have hsound' : k.buffer.Sound cap batchCap :=
    exec_invariant (I := fun k : Tick σ => k.buffer.Sound cap batchCap)
      (fun _ _ _ hs hstep => step_sound hs hstep) hsound hk
  refine exec_sendFails hcap hsound' ?_ times hk'
  rcases hlast with rfl | hlast
  · cases hk
    rfl
  · obtain ⟨sends, rfl⟩ := List.getLast?_eq_some_iff.mp hlast
    obtain ⟨k₀, -, hsent⟩ := exec_concat_eq_some.mp hk
    exact betweenBatches_of_sent hsent

/-- Of a ring of two the first call is handed over, and the second comes back. -/
theorem failed_flush_returns_second_call :
    ∃ (t : Traffic ToolCallSample) (k k' : Tick ToolCallSample),
      exec Traffic.step (.init 2 1) Flusher.filledRing = some t ∧
      exec step (.start t.buffer) [.drain 0, .sent] = some k ∧
      exec step k [.drain 0, .sendFails] = some k' ∧ k.buffer.buf.samples.length = 1 ∧
      k'.buffer = { k.buffer with seq := k'.buffer.seq } ∧ k'.sent = k.sent := by
  have hrun : (exec Traffic.step (.init 2 1) Flusher.filledRing).bind (fun t =>
      (exec step (.start t.buffer) [.drain 0, .sent]).bind fun k =>
      (exec step k [.drain 0, .sendFails]).map fun _ => k.buffer.buf.samples.length) = some 1 := by
    rfl
  obtain ⟨t, ht, hrun⟩ := Option.bind_eq_some_iff.mp hrun
  obtain ⟨k, hk, hrun⟩ := Option.bind_eq_some_iff.mp hrun
  obtain ⟨k', hk', hlen⟩ := Option.map_eq_some_iff.mp hrun
  have h := failed_flush_changes_nothing 2 1 (by decide) _ t ht
  exact ⟨t, k, k', ht, hk, hk', hlen, h.2 _ k hk (by decide) (.inr rfl) [0] k' hk'⟩

end Tick

end ControlPlaneClient
