import ControlPlaneClient.Metrics.Traffic

/-!
# The early flush

A `record` that reaches the high-water mark leaves a permit, and the flush loop takes it in its
`select!`. Records go on while the loop drains and sends, so what matters is that a flush which stops
at its bound has shipped at least a full ring: whatever is in the ring by then was recorded since,
and the last record left a permit if it reached the mark.
-/

namespace ControlPlaneClient

open Transition

variable {σ : Type*} [HasOutcome σ]

/-- One instance of `flush_loop` at its buffer. -/
structure Flusher (σ : Type*) where
  buffer : MetricsBuffer σ
  phase  : FlushPhase σ

inductive FlusherEvent (σ : Type*)
  | record (s : σ)
  | recordEvents (now : DateTime) (eventName mode : String) (counts : EventCounts)
  | loop (e : FlushEvent)

def Flusher.step (f : Flusher σ) : FlusherEvent σ → Option (Flusher σ)
  | .record s => some { f with buffer := f.buffer.record s }
  | .recordEvents now n m c => some { f with buffer := f.buffer.recordEvents now n m c }
  | .loop e => (flushStep f.buffer f.phase e).map fun r => ⟨r.1, r.2.1⟩

/-! ### Below the mark, or a permit -/

/-- The ring is below its high-water mark, or a permit is pending. -/
def MetricsBuffer.Quiet (b : MetricsBuffer σ) : Prop :=
  b.flushEarly = true ∨ b.buf.samples.length < b.flushEarlyAt

namespace MetricsBuffer

omit [HasOutcome σ] in
@[simp] lemma countDrop_flushEarly (b : MetricsBuffer σ) (o : SampleOutcome) :
    (b.countDrop o).flushEarly = b.flushEarly := by
  rw [countDrop]; split <;> rfl

@[simp] lemma evict_flushEarly (b : MetricsBuffer σ) : b.evict.flushEarly = b.flushEarly :=
  evict_frame flushEarly countDrop_flushEarly (fun _ _ => rfl) b

lemma record_flushEarly (b : MetricsBuffer σ) (s : σ) :
    (b.record s).flushEarly = b.notifyFlush.flushEarly := by
  simp only [record]
  split_ifs <;> simp

lemma record_length_le_succ (b : MetricsBuffer σ) (s : σ) :
    (b.record s).buf.samples.length ≤ b.buf.samples.length + 1 := by
  have := (record_sublist b s).length_le
  rwa [List.length_append, List.length_singleton] at this

/-- A record leaves a permit, or the ring below the mark. -/
lemma record_quiet (b : MetricsBuffer σ) (s : σ) : (b.record s).Quiet := by
  have hmark := congrArg Caps.flushEarlyAt (b.record_caps s)
  have hlen := b.record_length_le_succ s
  simp only [caps] at hmark
  rw [Quiet, record_flushEarly, hmark, notifyFlush]
  split_ifs with hfull
  · exact Or.inl rfl
  · right
    omega

/-- A flush that runs to its bound ships a full ring. -/
lemma WellFormed.length_le_flush {b : MetricsBuffer σ} {cap batchCap : ℕ}
    (h : b.WellFormed cap batchCap) (hbatch : 1 ≤ batchCap) :
    b.buf.samples.length ≤ (b.batchesPerTick - 1 + 1) * batchCap := by
  have hm : max batchCap 1 = batchCap := max_eq_left hbatch
  have hceil : cap ≤ (cap + (batchCap - 1)) / batchCap * batchCap := by
    have := Nat.lt_div_mul_add hbatch (a := cap + (batchCap - 1))
    omega
  have hbatches : b.batchesPerTick = max ((cap + (batchCap - 1)) / batchCap) 1 := by
    rw [batchesPerTick, h.cap_eq, h.batchCap_eq, hm]
  have hlen := h.length
  rw [Nat.sub_add_cancel (by rw [hbatches]; exact le_max_right _ _), hbatches]
  rcases le_total cap 1 with hcap | hcap
  · calc b.buf.samples.length ≤ 1 := hlen.trans (max_le hcap le_rfl)
      _ ≤ 1 * batchCap := by omega
      _ ≤ _ := Nat.mul_le_mul_right _ (le_max_right _ _)
  · calc b.buf.samples.length ≤ cap := hlen.trans (max_le le_rfl hcap)
      _ ≤ _ := hceil
      _ ≤ _ := Nat.mul_le_mul_right _ (le_max_left _ _)

end MetricsBuffer

/-! ### The loop -/

/-- What the loop can rely on where it stands: it is quiet, or the rest of the flush ships all that
is in the ring. -/
def FlushPhase.Watches (b : MetricsBuffer σ) : FlushPhase σ → Prop
  | .flushing left      => b.Quiet ∨ b.buf.samples.length ≤ (left + 1) * b.batchCap
  | .sending left batch =>
    b.Quiet ∨ (b.batchCap ≤ batch.samples.length ∧ b.buf.samples.length ≤ left * b.batchCap)
  | .waiting            => b.Quiet
  | _                   => True

namespace Flusher

/-- The invariant of the loop. -/
structure Alert (cap batchCap : ℕ) (f : Flusher σ) : Prop where
  wellFormed : f.buffer.WellFormed cap batchCap
  watches    : f.phase.Watches f.buffer

omit [HasOutcome σ] in
lemma watches_of_quiet {b : MetricsBuffer σ} (h : b.Quiet) (p : FlushPhase σ) : p.Watches b := by
  cases p with
  | flushing left => exact Or.inl h
  | sending left batch => exact Or.inl h
  | waiting => exact h
  | starting | spacing | stopped => trivial

omit [HasOutcome σ] in
lemma watches_recordEvents {b : MetricsBuffer σ} {p : FlushPhase σ} (h : p.Watches b)
    (now : DateTime) (n m : String) (c : EventCounts) : p.Watches (b.recordEvents now n m c) := by
  rw [MetricsBuffer.recordEvents]
  split
  · exact h
  · cases p <;> exact h

section Phases

variable {b : MetricsBuffer σ} {cap batchCap : ℕ} (hb : b.WellFormed cap batchCap)
  (hbatch : 1 ≤ batchCap)

include hb

lemma quiet_of_nil (hnil : b.buf.samples.length = 0) : b.Quiet := by
  right
  rw [hb.flushEarlyAt_eq, hnil]
  exact Nat.lt_of_lt_of_le Nat.zero_lt_one (le_max_right _ _)

/-- A drain leaves one batch less to ship. A short one leaves nothing. -/
lemma watches_drain {left : ℕ} (h : (FlushPhase.flushing left).Watches b) (now : DateTime) :
    (FlushPhase.sending left (b.drained now)).Watches b.afterDrain := by
  have hlen := b.afterDrain_length
  have hcount := b.drained_length now
  by_cases hshort : b.buf.samples.length < b.batchCap
  · exact Or.inl (quiet_of_nil hb.afterDrain (by omega))
  rcases h with (hpermit | hbelow) | hbound
  · exact Or.inl (Or.inl hpermit)
  · left
    right
    exact Nat.lt_of_le_of_lt (by omega) hbelow
  · right
    refine ⟨?_, ?_⟩
    · rw [hcount]
      exact le_min (not_lt.mp hshort) le_rfl
    · rw [hlen]
      rw [Nat.succ_mul] at hbound
      exact Nat.sub_le_of_le_add hbound

/-- A settled batch is followed by the next one, or by a wait in which the buffer is quiet. -/
lemma watches_afterBatch {left : ℕ} {batch : Drained σ}
    (h : (FlushPhase.sending left batch).Watches b) :
    (b.afterBatch batch.samples.length left).Watches b := by
  rw [MetricsBuffer.afterBatch.eq_def]
  rcases h with hquiet | ⟨hfull, hbound⟩
  · exact watches_of_quiet hquiet _
  rw [if_neg (not_lt.mpr hfull)]
  cases left with
  | zero => exact quiet_of_nil hb (by omega)
  | succ left => exact Or.inr hbound

include hbatch

lemma watches_tick : (FlushPhase.flushing (b.batchesPerTick - 1)).Watches b := by
  right
  rw [hb.batchCap_eq]
  exact hb.length_le_flush hbatch

lemma flushStep_watches {p p' : FlushPhase σ} {b' : MetricsBuffer σ} {e : FlushEvent}
    {out : List (Drained σ)} (h : p.Watches b) (hstep : flushStep b p e = some (b', p', out)) :
    p'.Watches b' := by
  cases p with
  | starting =>
    cases e with
    | tick => cases hstep; exact watches_tick hb hbatch
    | abort => cases hstep; trivial
    | _ => cases hstep
  | waiting =>
    cases e with
    | tick => cases hstep; exact watches_tick hb hbatch
    | early =>
      simp only [flushStep] at hstep
      split at hstep
      · cases hstep; trivial
      · cases hstep
    | abort => cases hstep; trivial
    | _ => cases hstep
  | spacing =>
    cases e with
    | spaced => cases hstep; exact watches_tick hb hbatch
    | abort => cases hstep; trivial
    | _ => cases hstep
  | flushing left =>
    cases e with
    | drain now =>
      have hdrain := watches_drain hb h now
      replace hstep : (if (b.drained now).isEmpty then
          some (b.afterDrain, b.afterDrain.afterBatch (b.drained now).samples.length left, [])
        else some (b.afterDrain, .sending left (b.drained now), [])) = some (b', p', out) := hstep
      split_ifs at hstep with hempty
      · cases hstep; exact watches_afterBatch hb.afterDrain hdrain
      · cases hstep; exact hdrain
    | abort => cases hstep; trivial
    | _ => cases hstep
  | sending left batch =>
    cases e with
    | sent => cases hstep; exact watches_afterBatch hb h
    | sendFails => cases hstep; trivial
    | abort => cases hstep; trivial
    | _ => cases hstep
  | stopped => cases e <;> cases hstep

end Phases

lemma step_alert {f f' : Flusher σ} {e : FlusherEvent σ} {cap batchCap : ℕ} (hbatch : 1 ≤ batchCap)
    (hf : f.Alert cap batchCap) (h : f.step e = some f') : f'.Alert cap batchCap := by
  obtain ⟨hb, hw⟩ := hf
  cases e with
  | record s =>
    cases h
    exact ⟨hb.record s, watches_of_quiet (f.buffer.record_quiet s) _⟩
  | recordEvents now n m c =>
    cases h
    exact ⟨hb.recordEvents now n m c, watches_recordEvents hw now n m c⟩
  | loop e =>
    obtain ⟨⟨b', p', out⟩, hstep, rfl⟩ := Option.map_eq_some_iff.mp h
    exact ⟨(flushStep_effect hstep).wellFormed hb, flushStep_watches hb hbatch hw hstep⟩

/-- The loop never waits on a ring that has reached its high-water mark without a permit for it. -/
theorem early_flush_never_lost (cap batchCap : ℕ) (hbatch : 1 ≤ batchCap)
    (before : List (TrafficEvent σ)) (t : Traffic σ)
    (hbefore : exec Traffic.step (.init cap batchCap) before = some t)
    (es : List (FlusherEvent σ)) (f : Flusher σ)
    (h : exec step ⟨t.buffer, .starting⟩ es = some f) (hwaits : f.phase = .waiting)
    (hmark : f.buffer.flushEarlyAt ≤ f.buffer.buf.samples.length) :
    f.buffer.flushEarly = true := by
  have hstart : (⟨t.buffer, .starting⟩ : Flusher σ).Alert cap batchCap :=
    ⟨Traffic.exec_wellFormed hbefore, trivial⟩
  have hf : f.Alert cap batchCap :=
    exec_invariant (fun _ _ _ hf hstep => step_alert hbatch hf hstep) hstart h
  have hquiet := hf.watches
  rw [hwaits] at hquiet
  exact hquiet.resolve_right (not_lt.mpr hmark)

/-- Two calls fill a ring of two, and its permit is taken. -/
def filledRing : List (TrafficEvent ToolCallSample) :=
  [.record (sampleCall .ok), .record (sampleCall .ok), .wake]

/-- The ring is flushed in two batches, and fills again while the second one is sent. -/
def refill : List (FlusherEvent ToolCallSample) :=
  [.loop .tick, .loop (.drain 0), .loop .sent, .loop (.drain 0), .record (sampleCall .ok),
    .record (sampleCall .ok), .loop .sent]

theorem early_flush_never_lost_during_send :
    ∃ t f, exec Traffic.step (.init 2 1) filledRing = some t ∧ t.buffer.flushEarly = false ∧
      exec step ⟨t.buffer, .starting⟩ refill = some f ∧ f.buffer.flushEarlyAt = 2 ∧
      f.buffer.buf.samples.length = 2 ∧ f.buffer.flushEarly = true := by
  have hrun : (exec Traffic.step (.init 2 1) filledRing).bind (fun t =>
      (exec step ⟨t.buffer, .starting⟩ refill).map fun f =>
        (t.buffer.flushEarly, f.phase, f.buffer.flushEarlyAt, f.buffer.buf.samples.length)) =
      some (false, .waiting, 2, 2) := by rfl
  obtain ⟨t, ht, hrun⟩ := Option.bind_eq_some_iff.mp hrun
  obtain ⟨f, hf, hrun⟩ := Option.map_eq_some_iff.mp hrun
  simp only [Prod.mk.injEq] at hrun
  obtain ⟨hpermit, hwaits, hmark, hlen⟩ := hrun
  exact ⟨t, f, ht, hpermit, hf, hmark, hlen, early_flush_never_lost 2 1 (by decide) filledRing t ht
    refill f hf hwaits (by rw [hmark, hlen])⟩

end Flusher

end ControlPlaneClient
