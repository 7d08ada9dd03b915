import ControlPlaneClient.Metrics.Locks
import ControlPlaneClient.Metrics.Pace

/-!
# The report rate

However fast the gateway records, a flush loop ships at most one full buffer at each tick and one for
each `EARLY_FLUSH_SPACING` that passes. Nothing is assumed of the rest of the program: it may call
any operation of the buffer at any time, and a send may take any time or fail.
-/

namespace ControlPlaneClient

open Transition

variable {σ : Type*} [HasOutcome σ]

/-- A loop, its clock, and what it did: the flushes started at a tick and early, and the batches
handed over. -/
structure Timed (σ : Type*) where
  buffer   : MetricsBuffer σ
  phase    : FlushPhase σ
  now      : ℕ
  /-- When the last flush started. -/
  started  : ℕ
  /-- When the next tick is due. -/
  deadline : ℕ
  ticks    : ℕ
  early    : ℕ
  handed   : List (Drained σ)

/-- The event starts a flush. -/
def FlushEvent.starts : FlushEvent → Bool
  | .tick | .spaced => true
  | _               => false

inductive TimedEvent (σ : Type*)
  | pass (t : ℕ)
  /-- The rest of the program calls the buffer. -/
  | call (op : BufferOp σ) (now : DateTime)
  | loop (e : FlushEvent)

namespace Timed

/-- A loop that starts at `t`. The first tick is due at once. -/
def init (b : MetricsBuffer σ) (t : ℕ) : Timed σ := ⟨b, .starting, t, t, t, 0, 0, []⟩

/-- A tick comes when it is due, and the sleep ends when the spacing has passed. -/
def allows (p : Timed σ) : FlushEvent → Bool
  | .tick   => p.deadline ≤ p.now
  | .spaced => p.started + earlyFlushSpacing ≤ p.now
  | _       => true

/-- What a step of the loop notes of the time. -/
def note (T : Ticker) (p : Timed σ) : FlushEvent → Timed σ
  | .tick   =>
    { p with started := p.now, deadline := T.next p.deadline p.now, ticks := p.ticks + 1 }
  | .spaced => { p with started := p.now, early := p.early + 1 }
  | _       => p

def step (T : Ticker) (p : Timed σ) : TimedEvent σ → Option (Timed σ)
  | .pass t      => if p.now ≤ t then some { p with now := t } else none
  | .call op now => some { p with buffer := (p.buffer.apply op now).1 }
  | .loop e      =>
    if p.allows e then
      (flushStep p.buffer p.phase e).map fun r =>
        { p.note T e with buffer := r.1, phase := r.2.1, handed := p.handed ++ r.2.2 }
    else none

end Timed

/-! ### The batches of a flush -/

namespace MetricsBuffer

lemma apply_caps (b : MetricsBuffer σ) (op : BufferOp σ) (now : DateTime) :
    (b.apply op now).1.caps = b.caps := by
  cases op with
  | record s => exact b.record_caps s
  | recordEvents n m counts => exact b.recordEvents_caps now n m counts
  | requeueFront batch => exact b.requeueFront_caps batch
  | drain | buffered | notified => rfl

omit [HasOutcome σ] in
lemma batchesPerTick_congr {b b' : MetricsBuffer σ} (h : b'.caps = b.caps) :
    b'.batchesPerTick = b.batchesPerTick := by
  have hcap : b'.cap = b.cap := congrArg Caps.cap h
  have hbatch : b'.batchCap = b.batchCap := congrArg Caps.batchCap h
  rw [batchesPerTick, batchesPerTick, hcap, hbatch]

omit [HasOutcome σ] in
lemma batchesPerTick_pos (b : MetricsBuffer σ) : 0 < b.batchesPerTick :=
  Nat.lt_of_lt_of_le Nat.zero_lt_one (le_max_right _ _)

end MetricsBuffer

lemma FlushEffect.caps {b b' : MetricsBuffer σ} {e : FlushEvent} {held held' : Option (Drained σ)}
    {out : List (Drained σ)} (h : FlushEffect b e held b' held' out) : b'.caps = b.caps := by
  cases h with
  | idle e permit => rfl
  | took now hne => rfl
  | tookNothing now hempty => rfl
  | handedOver d => rfl
  | returned e d he => exact b.dropInFlight_caps d

/-- The batches that an instance may still hand over in this flush. -/
def FlushPhase.left : FlushPhase σ → ℕ
  | .flushing left  => left + 1
  | .sending left _ => left + 1
  | _               => 0

omit [HasOutcome σ] in
lemma left_afterBatch (b : MetricsBuffer σ) (n left : ℕ) : (b.afterBatch n left).left ≤ left := by
  rw [MetricsBuffer.afterBatch.eq_def]
  split_ifs
  · exact Nat.zero_le left
  · cases left with
    | zero => exact le_rfl
    | succ left => exact le_rfl

/-- A step uses up what a flush has left. Only its start adds to it. -/
lemma flushStep_left {b b' : MetricsBuffer σ} {p p' : FlushPhase σ} {e : FlushEvent}
    {out : List (Drained σ)} (h : flushStep b p e = some (b', p', out)) :
    out.length + p'.left ≤ p.left + if e.starts then b.batchesPerTick else 0 := by
  have hstart : 0 + (FlushPhase.flushing (b.batchesPerTick - 1) : FlushPhase σ).left ≤
      0 + b.batchesPerTick :=
    Nat.add_le_add_left (Nat.sub_add_cancel b.batchesPerTick_pos).le 0
  cases p with
  | starting =>
    cases e with
    | tick => cases h; exact hstart
    | abort => cases h; exact Nat.zero_le _
    | _ => cases h
  | waiting =>
    cases e with
    | tick => cases h; exact hstart
    | early =>
      simp only [flushStep] at h
      split at h
      · cases h; exact Nat.zero_le _
      · cases h
    | abort => cases h; exact Nat.zero_le _
    | _ => cases h
  | spacing =>
    cases e with
    | spaced => cases h; exact hstart
    | abort => cases h; exact Nat.zero_le _
    | _ => cases h
  | flushing left =>
    cases e with
    | drain now =>
      have hafter := left_afterBatch b.afterDrain (b.drained now).samples.length left
      simp only [flushStep] at h
      split at h
      · cases h
        show 0 + (b.afterDrain.afterBatch (b.drained now).samples.length left).left ≤ left + 1
        omega
      · cases h
        exact (Nat.zero_add _).le
    | abort => cases h; exact Nat.zero_le _
    | _ => cases h
  | sending left batch =>
    cases e with
    | sent =>
      have hafter := left_afterBatch b batch.samples.length left
      cases h
      show 1 + (b.afterBatch batch.samples.length left).left ≤ left + 1
      omega
    | sendFails | abort => cases h; exact Nat.zero_le _
    | _ => cases h
  | stopped => cases e <;> cases h

/-- Nothing is handed over but what was drained, one batch at a time. -/
lemma flushStep_sizes {b b' : MetricsBuffer σ} {p p' : FlushPhase σ} {e : FlushEvent}
    {out : List (Drained σ)} {n : ℕ} (h : flushStep b p e = some (b', p', out)) (hn : b.batchCap ≤ n)
    (hp : ∀ d ∈ p.inFlight, d.samples.length ≤ n) :
    (∀ d ∈ out, d.samples.length ≤ n) ∧ ∀ d ∈ p'.inFlight, d.samples.length ≤ n := by
  have heff := flushStep_effect h
  generalize p.inFlight = held at heff hp
  generalize p'.inFlight = held' at heff
  cases heff with
  | idle e permit => simp
  | took now hne =>
    have hlen := b.drained_length now
    refine ⟨by simp, ?_⟩
    intro d hd
    cases hd
    omega
  | tookNothing now hempty => simp
  | handedOver d =>
    have hd := hp d rfl
    simpa using hd
  | returned e d he => simp

/-! ### The rate -/

namespace Timed

/-- The loop in the bounds that its clock sets since `t`. -/
structure InRate (b : MetricsBuffer σ) (interval t : ℕ) (p : Timed σ) : Prop where
  caps    : p.buffer.caps = b.caps
  started : p.started ≤ p.now
  early   : t + p.early * earlyFlushSpacing ≤ p.started
  due     : t + p.ticks * interval ≤ p.deadline
  ticks   : t + p.ticks * interval ≤ p.now + interval
  budget  : p.handed.length + p.phase.left ≤ b.batchesPerTick * (p.ticks + p.early)
  handed  : ∀ d ∈ p.handed, d.samples.length ≤ b.batchCap
  sending : ∀ d ∈ p.phase.inFlight, d.samples.length ≤ b.batchCap

variable {b : MetricsBuffer σ} {t : ℕ} {p p' : Timed σ} {T : Ticker}

omit [HasOutcome σ] in
lemma init_inRate (b : MetricsBuffer σ) (interval t : ℕ) : (init b t).InRate b interval t := by
  constructor <;> simp [init, FlushPhase.left, FlushPhase.inFlight]

omit [HasOutcome σ] in
/-- A tick is never due before the one before it by less than the interval. -/
lemma interval_le_next (T : Ticker) {deadline now : ℕ} (h : deadline ≤ now) :
    deadline + T.interval ≤ T.next deadline now := by
  rcases T.delays deadline now with hnext | hnext
  · exact hnext.ge
  · rw [hnext]
    exact Nat.add_le_add_right h _

lemma InRate.loop {e : FlushEvent} (h : p.InRate b T.interval t)
    (hstep : p.step T (.loop e) = some p') : p'.InRate b T.interval t := by
  simp only [step] at hstep
  split at hstep
  · next hallows =>
    obtain ⟨⟨buffer, phase, out⟩, hflush, rfl⟩ := Option.map_eq_some_iff.mp hstep
    have hcaps := (flushStep_effect hflush).caps
    have hleft := flushStep_left hflush
    have hbatch : p.buffer.batchCap = b.batchCap := congrArg MetricsBuffer.Caps.batchCap h.caps
    obtain ⟨hout, hfly⟩ := flushStep_sizes hflush hbatch.le h.sending
    have hhanded : ∀ d ∈ p.handed ++ out, d.samples.length ≤ b.batchCap := by
      intro d hd
      rcases List.mem_append.mp hd with hd | hd
      · exact h.handed d hd
      · exact hout d hd
    have hbudget := h.budget
    have hbatches := MetricsBuffer.batchesPerTick_congr h.caps
    rw [hbatches] at hleft
    have hgrown : (p.handed ++ out).length + phase.left ≤
        b.batchesPerTick * (p.ticks + p.early) + if e.starts then b.batchesPerTick else 0 := by
      rw [List.length_append]
      omega
    cases e with
    | tick =>
      have hdue : p.deadline ≤ p.now := of_decide_eq_true hallows
      have hnext := interval_le_next T hdue
      have hticks := h.due
      constructor
      · exact hcaps.trans h.caps
      · exact le_rfl
      · exact h.early.trans h.started
      · show t + (p.ticks + 1) * T.interval ≤ T.next p.deadline p.now
        rw [Nat.succ_mul]
        omega
      · show t + (p.ticks + 1) * T.interval ≤ p.now + T.interval
        rw [Nat.succ_mul]
        omega
      · show _ ≤ b.batchesPerTick * (p.ticks + 1 + p.early)
        have hsplit : b.batchesPerTick * (p.ticks + 1 + p.early) =
            b.batchesPerTick * (p.ticks + p.early) + b.batchesPerTick := by ring
        rw [hsplit]
        exact hgrown
      · exact hhanded
      · exact hfly
    | spaced =>
      have hspaced : p.started + earlyFlushSpacing ≤ p.now := of_decide_eq_true hallows
      have hearly := h.early
      constructor
      · exact hcaps.trans h.caps
      · exact le_rfl
      · show t + (p.early + 1) * earlyFlushSpacing ≤ p.now
        rw [Nat.succ_mul]
        omega
      · exact h.due
      · exact h.ticks
      · show _ ≤ b.batchesPerTick * (p.ticks + (p.early + 1))
        rw [← Nat.add_assoc, Nat.mul_succ]
        exact hgrown
      · exact hhanded
      · exact hfly
    | early | drain now | sent | sendFails | abort =>
      exact ⟨hcaps.trans h.caps, h.started, h.early, h.due, h.ticks, hgrown, hhanded, hfly⟩
  · cases hstep

lemma step_inRate {e : TimedEvent σ} (h : p.InRate b T.interval t) (hstep : p.step T e = some p') :
    p'.InRate b T.interval t := by
  cases e with
  | pass u =>
    simp only [step] at hstep
    split at hstep
    · next hle =>
      cases hstep
      refine ⟨h.caps, h.started.trans hle, h.early, h.due, ?_, h.budget, h.handed, h.sending⟩
      exact h.ticks.trans (Nat.add_le_add_right hle _)
    · cases hstep
  | call op now =>
    cases hstep
    exact ⟨(p.buffer.apply_caps op now).trans h.caps, h.started, h.early, h.due, h.ticks, h.budget,
      h.handed, h.sending⟩
  | loop e => exact h.loop hstep

/-- Of a loop that started at `t`, whatever is called on the buffer and however long its sends take:
the flushes up to a moment are at most one for each interval since `t`, one more, and one for each
spacing; a flush ships at most as many batches as a full buffer has, and each is no longer than the
cap for one. -/
theorem report_rate_bounded (b : MetricsBuffer σ) (T : Ticker) (t : ℕ) (es : List (TimedEvent σ))
    (p : Timed σ) (h : exec (step T) (init b t) es = some p) :
    p.handed.length ≤
      b.batchesPerTick * ((p.now - t) / T.interval + 1 + (p.now - t) / earlyFlushSpacing) ∧
    ∀ d ∈ p.handed, d.samples.length ≤ b.batchCap := by
  have hrate : p.InRate b T.interval t := exec_invariant
    (fun _ _ _ hp hstep => step_inRate hp hstep) (init_inRate b T.interval t) h
  have hticks : p.ticks ≤ (p.now - t) / T.interval + 1 := by
    rw [← Nat.add_div_right _ T.positive, Nat.le_div_iff_mul_le T.positive]
    have hle := hrate.ticks
    have hstarted := hrate.early.trans hrate.started
    omega
  have hearly : p.early ≤ (p.now - t) / earlyFlushSpacing := by
    rw [Nat.le_div_iff_mul_le (by decide)]
    have hle := hrate.early.trans hrate.started
    omega
  refine ⟨?_, hrate.handed⟩
  calc p.handed.length
      ≤ b.batchesPerTick * (p.ticks + p.early) := (Nat.le_add_right _ _).trans hrate.budget
    _ ≤ _ := Nat.mul_le_mul_left _ (Nat.add_le_add hticks hearly)

/-- A producer that fills the buffer again as soon as it is drained. -/
def runawayCalls : List (TimedEvent ToolCallSample) :=
  let call : TimedEvent ToolCallSample := .call (.record (.plain "github" "list_repos" .ok 5)) 0
  [call, .loop .tick, .loop (.drain 0), .loop .sent, call, call, .loop .early, .pass 1_000_000_000,
    .loop .spaced, .loop (.drain 0), .loop .sent]

theorem report_rate_bounded_runaway :
    ∃ p, exec (step Paced.sampleTicker) (init (.withCaps 1 1) 0) runawayCalls = some p ∧
      p.handed.length = 2 ∧
      p.handed.length ≤ (MetricsBuffer.withCaps (σ := ToolCallSample) 1 1).batchesPerTick *
        ((p.now - 0) / Paced.sampleTicker.interval + 1 + (p.now - 0) / earlyFlushSpacing) ∧
      ∀ d ∈ p.handed,
        d.samples.length ≤ (MetricsBuffer.withCaps (σ := ToolCallSample) 1 1).batchCap := by
  have hrun : (exec (step Paced.sampleTicker) (init (.withCaps 1 1) 0) runawayCalls).map
      (fun p => p.handed.length) = some 2 := by rfl
  obtain ⟨p, hp, hlen⟩ := Option.map_eq_some_iff.mp hrun
  exact ⟨p, hp, hlen, report_rate_bounded (.withCaps 1 1) Paced.sampleTicker 0 runawayCalls p hp⟩

end Timed

end ControlPlaneClient
