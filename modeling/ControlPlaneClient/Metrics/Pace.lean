import ControlPlaneClient.Metrics.EarlyFlush

/-!
# No drop below one full buffer per second

`flush_loop` against a clock. A flush starts at a tick, or, once the high-water mark was reached, as
soon as `EARLY_FLUSH_SPACING` has passed since the last one started. Sends complete at once, and a
flush that is due runs before the next record.

What is in the ring was recorded since the last flush started. If that is less than the spacing ago,
all of it is in one window of that length; and if it is more, the ring is below the mark, or a flush
is due.
-/

namespace ControlPlaneClient

open Transition

variable {σ : Type*} [HasOutcome σ]

/-- `EARLY_FLUSH_SPACING`. -/
def earlyFlushSpacing : Duration := Duration.ofSecs 1

/-- A `tokio` interval with `MissedTickBehavior::Delay`. The next tick is due one interval after the
last one was due or, if that one was late, after it was taken. -/
structure Ticker where
  interval : Duration
  positive : 0 < interval
  next     : ℕ → ℕ → ℕ
  delays   : ∀ deadline now, next deadline now = deadline + interval ∨
    next deadline now = now + interval

/-- The loop at its buffer, and the clock. -/
structure Paced (σ : Type*) where
  flusher  : Flusher σ
  now      : ℕ
  /-- When the last flush started. -/
  started  : ℕ
  /-- When the next tick is due. -/
  deadline : ℕ
  /-- When each of the `record` calls was made. -/
  recorded : List ℕ

inductive PacedEvent (σ : Type*)
  | pass (t : ℕ)
  | act (e : FlusherEvent σ)

namespace Paced

/-- A loop that starts at `t` on a new buffer. The first tick is due at once. -/
def init (cap batchCap t : ℕ) : Paced σ := ⟨⟨.withCaps cap batchCap, .starting⟩, t, t, t, []⟩

/-- A flush is running, or has become due. -/
def flushDue (p : Paced σ) : Bool :=
  match p.flusher.phase with
  | .starting | .flushing _ | .sending _ _ => true
  | .waiting => p.deadline ≤ p.now ||
      (p.flusher.buffer.flushEarly && p.started + earlyFlushSpacing ≤ p.now)
  | .spacing => p.started + earlyFlushSpacing ≤ p.now
  | .stopped => false

def allows (p : Paced σ) : FlusherEvent σ → Bool
  | .record _              => !p.flushDue
  | .recordEvents _ _ _ _  => true
  | .loop .tick            => p.deadline ≤ p.now
  | .loop .spaced          => p.started + earlyFlushSpacing ≤ p.now
  | .loop .early | .loop (.drain _) | .loop .sent => true
  | .loop .sendFails | .loop .abort => false

/-- What a step notes of the time. -/
def note (T : Ticker) (p : Paced σ) : FlusherEvent σ → Paced σ
  | .record _     => { p with recorded := p.recorded ++ [p.now] }
  | .loop .tick   => { p with started := p.now, deadline := T.next p.deadline p.now }
  | .loop .spaced => { p with started := p.now }
  | _             => p

def step (T : Ticker) (p : Paced σ) : PacedEvent σ → Option (Paced σ)
  | .pass t => if p.now ≤ t then some { p with now := t } else none
  | .act e  =>
    if p.allows e then (p.flusher.step e).map fun f => { p.note T e with flusher := f } else none

/-- The records of a closed window of the length of the spacing. -/
def window (p : Paced σ) (a : ℕ) : ℕ :=
  p.recorded.countP fun t => a ≤ t && t ≤ a + earlyFlushSpacing

/-- The records since the last flush started. -/
def recent (p : Paced σ) : ℕ := p.recorded.countP fun t => p.started ≤ t

end Paced

/-! ### The invariant -/

/-- What is in the ring: what the rest of the flush ships, or what was recorded since. -/
def FlushPhase.Holds (b : MetricsBuffer σ) (recent : ℕ) : FlushPhase σ → Prop
  | .starting           => True
  | .flushing left      => b.buf.samples.length ≤ (left + 1) * b.batchCap
  | .sending left batch => b.buf.samples.length ≤ left * b.batchCap ∧
      (batch.samples.length < b.batchCap → b.buf.samples.length = 0)
  | .waiting            => b.Quiet ∧ b.buf.samples.length ≤ recent
  | .spacing            => b.buf.samples.length ≤ recent
  | .stopped            => False

namespace Paced

structure InPace (cap batchCap : ℕ) (p : Paced σ) : Prop where
  wellFormed : p.flusher.buffer.WellFormed cap batchCap
  kept       : ∀ c, p.flusher.buffer.dropped c = 0
  started_le : p.started ≤ p.now
  past       : ∀ t ∈ p.recorded, t ≤ p.now
  holds      : p.flusher.phase.Holds p.flusher.buffer p.recent

/-- No window has more than `cap` records. -/
def Calm (cap : ℕ) (p : Paced σ) : Prop := ∀ a, p.window a ≤ cap

end Paced

section Phases

variable {b b' : MetricsBuffer σ} {cap batchCap recent recent' : ℕ}

/-- A drain leaves one batch less to ship. A short one leaves nothing. -/
lemma holds_drain {left : ℕ} {recent' : ℕ} (h : (FlushPhase.flushing left).Holds b recent)
    (now : DateTime) : (FlushPhase.sending left (b.drained now)).Holds b.afterDrain recent' := by
  have hlen := b.afterDrain_length
  have hcount := b.drained_length now
  have hcap : b.afterDrain.batchCap = b.batchCap := rfl
  constructor
  · rw [hlen, hcap]
    rw [FlushPhase.Holds, Nat.succ_mul] at h
    exact Nat.sub_le_of_le_add h
  · intro hshort
    rw [hcap] at hshort
    omega

variable (hb : b.WellFormed cap batchCap)

include hb

lemma holds_of_nil (hnil : b.buf.samples.length = 0) :
    (FlushPhase.waiting : FlushPhase σ).Holds b recent :=
  ⟨Flusher.quiet_of_nil hb hnil, by omega⟩

/-- A settled batch is followed by the next one, or the ring is empty. -/
lemma holds_afterBatch {left : ℕ} {batch : Drained σ}
    (h : (FlushPhase.sending left batch).Holds b recent) :
    (b.afterBatch batch.samples.length left).Holds b recent := by
  obtain ⟨hlen, hshort⟩ := h
  rw [MetricsBuffer.afterBatch.eq_def]
  split_ifs with hcount
  · exact holds_of_nil hb (hshort hcount)
  · cases left with
    | zero => exact holds_of_nil hb (by omega)
    | succ left => exact hlen

lemma holds_flush (hbatch : 1 ≤ batchCap) :
    (FlushPhase.flushing (b.batchesPerTick - 1)).Holds b recent := by
  rw [FlushPhase.Holds, hb.batchCap_eq]
  exact hb.length_le_flush hbatch

/-- A step of the loop that neither fails nor is aborted. -/
lemma flushStep_holds (hbatch : 1 ≤ batchCap) {p p' : FlushPhase σ} {e : FlushEvent}
    {out : List (Drained σ)} (h : p.Holds b recent) (hfails : e ≠ .sendFails) (habort : e ≠ .abort)
    (hrecent : e = .tick ∨ e = .spaced ∨ recent' = recent)
    (hstep : flushStep b p e = some (b', p', out)) : p'.Holds b' recent' := by
  cases p with
  | starting =>
    cases e with
    | tick => cases hstep; exact holds_flush hb hbatch
    | abort => exact absurd rfl habort
    | _ => cases hstep
  | waiting =>
    cases e with
    | tick => cases hstep; exact holds_flush hb hbatch
    | early =>
      obtain rfl : recent' = recent := by simpa using hrecent
      simp only [flushStep] at hstep
      split at hstep
      · cases hstep; exact h.2
      · cases hstep
    | abort => exact absurd rfl habort
    | _ => cases hstep
  | spacing =>
    cases e with
    | spaced => cases hstep; exact holds_flush hb hbatch
    | abort => exact absurd rfl habort
    | _ => cases hstep
  | flushing left =>
    cases e with
    | drain now =>
      have hdrain : (FlushPhase.sending left (b.drained now)).Holds b.afterDrain recent' :=
        holds_drain h now
      replace hstep : (if (b.drained now).isEmpty then
          some (b.afterDrain, b.afterDrain.afterBatch (b.drained now).samples.length left, [])
        else some (b.afterDrain, .sending left (b.drained now), [])) = some (b', p', out) := hstep
      split_ifs at hstep with hempty
      · cases hstep; exact holds_afterBatch hb.afterDrain hdrain
      · cases hstep; exact hdrain
    | abort => exact absurd rfl habort
    | _ => cases hstep
  | sending left batch =>
    cases e with
    | sent => cases hstep; exact holds_afterBatch hb h
    | sendFails => exact absurd rfl hfails
    | abort => exact absurd rfl habort
    | _ => cases hstep
  | stopped => exact absurd h id

end Phases

/-- The drops that a step of the loop leaves, unless it returns a batch. -/
lemma FlushEffect.kept {b b' : MetricsBuffer σ} {e : FlushEvent} {held held' : Option (Drained σ)}
    {out : List (Drained σ)} (h : FlushEffect b e held b' held' out) (hfails : e ≠ .sendFails)
    (habort : e ≠ .abort) (hb : ∀ c, b.dropped c = 0) (c : Bool) : b'.dropped c = 0 := by
  cases h with
  | idle e permit => exact hb c
  | took now hne => cases c <;> rfl
  | tookNothing now hempty => cases c <;> rfl
  | handedOver d => exact hb c
  | returned e d he =>
    rcases he with rfl | rfl
    · exact absurd rfl hfails
    · exact absurd rfl habort

namespace MetricsBuffer

/-- With room in the ring, a record drops nothing. -/
lemma record_of_room {b : MetricsBuffer σ} (h : b.buf.samples.length < b.cap) (s : σ) (c : Bool) :
    (b.record s).dropped c = b.dropped c := by
  simp only [record, notifyFlush_cap, notifyFlush_buf]
  rw [if_neg (not_le.mpr h)]
  exact b.notifyFlush_dropped c

end MetricsBuffer

namespace Paced

variable {p p' : Paced σ} {T : Ticker} {cap batchCap : ℕ}

omit [HasOutcome σ] in
/-- Until the spacing has passed, all the recent records are in one window. -/
lemma recent_le_window (hpast : ∀ t ∈ p.recorded, t ≤ p.now)
    (hnow : p.now ≤ p.started + earlyFlushSpacing) : p.recent ≤ p.window p.started := by
  apply List.countP_mono_left
  intro t ht hstarted
  have hle := (hpast t ht).trans hnow
  simp_all

omit [HasOutcome σ] in
lemma recent_record (h : p.started ≤ p.now) (f : Flusher σ) :
    ({ p with flusher := f, recorded := p.recorded ++ [p.now] } : Paced σ).recent = p.recent + 1 := by
  simp [recent, h]

/-- While no flush is due, the loop waits, for the next tick or for the spacing. -/
lemma InPace.phase_of_not_due (h : p.InPace cap batchCap) (hdue : p.flushDue = false) :
    p.flusher.phase = .waiting ∨ p.flusher.phase = .spacing := by
  have hholds := h.holds
  rw [flushDue] at hdue
  cases hphase : p.flusher.phase with
  | waiting => exact .inl rfl
  | spacing => exact .inr rfl
  | stopped =>
    rw [hphase] at hholds
    exact absurd hholds id
  | starting | flushing left | sending left batch =>
    rw [hphase] at hdue
    cases hdue

/-- While no flush is due, the ring has room for one more record of a calm sequence. -/
lemma InPace.room (h : p.InPace cap batchCap) (hcap : 1 ≤ cap) (hdue : p.flushDue = false)
    (hcalm : ({ p with recorded := p.recorded ++ [p.now] } : Paced σ).Calm cap) :
    p.flusher.buffer.buf.samples.length < cap := by
  have hholds := h.holds
  have hspaced : p.now < p.started + earlyFlushSpacing →
      p.flusher.buffer.buf.samples.length ≤ p.recent →
      p.flusher.buffer.buf.samples.length < cap := by
    intro hnow hlen
    have hwindow := recent_le_window (p := { p with recorded := p.recorded ++ [p.now] })
      (by simpa [or_imp, forall_and] using h.past) hnow.le
    have hrecent := recent_record h.started_le p.flusher
    have := hcalm p.started
    dsimp only at hwindow
    omega
  have hphase := h.phase_of_not_due hdue
  rw [flushDue] at hdue
  rcases hphase with hphase | hphase
  · rw [hphase] at hdue hholds
    simp only [Bool.or_eq_false_iff, decide_eq_false_iff_not, Bool.and_eq_false_iff, not_le] at hdue
    obtain ⟨hquiet, hlen⟩ := hholds
    rcases hquiet with hpermit | hbelow
    · rcases hdue.2 with hno | hnow
      · rw [hpermit] at hno
        cases hno
      · exact hspaced hnow hlen
    · rw [h.wellFormed.flushEarlyAt_eq] at hbelow
      omega
  · rw [hphase] at hdue hholds
    simp only [decide_eq_false_iff_not, not_le] at hdue
    exact hspaced hdue hholds

/-! ### The steps -/

/-- A record where no flush is due. -/
lemma InPace.record (h : p.InPace cap batchCap) (hcap : 1 ≤ cap) (hdue : p.flushDue = false)
    (hcalm : ({ p with recorded := p.recorded ++ [p.now] } : Paced σ).Calm cap) (s : σ) :
    ({ p with
      flusher := { p.flusher with buffer := p.flusher.buffer.record s }
      recorded := p.recorded ++ [p.now] } : Paced σ).InPace cap batchCap := by
  have hroom := h.room hcap hdue hcalm
  have hlen := p.flusher.buffer.record_length_le_succ s
  constructor
  · exact h.wellFormed.record s
  · intro c
    rw [MetricsBuffer.record_of_room (by rw [h.wellFormed.cap_eq]; exact hroom), h.kept]
  · exact h.started_le
  · simpa [or_imp, forall_and] using h.past
  · have hholds := h.holds
    rw [recent_record h.started_le]
    dsimp only
    rcases h.phase_of_not_due hdue with hphase | hphase
    · rw [hphase] at hholds ⊢
      exact ⟨p.flusher.buffer.record_quiet s, hlen.trans (Nat.succ_le_succ hholds.2)⟩
    · rw [hphase] at hholds ⊢
      exact hlen.trans (Nat.succ_le_succ hholds)

omit [HasOutcome σ] in
lemma holds_recordEvents {b : MetricsBuffer σ} {recent : ℕ} {q : FlushPhase σ}
    (h : q.Holds b recent) (now : DateTime) (n m : String) (c : EventCounts) :
    q.Holds (b.recordEvents now n m c) recent := by
  rw [MetricsBuffer.recordEvents]
  split
  · exact h
  · cases q <;> exact h

/-- A step of the loop. -/
lemma InPace.loop (h : p.InPace cap batchCap) (hbatch : 1 ≤ batchCap) {e : FlushEvent}
    (hallows : p.allows (.loop e) = true) {f : Flusher σ} (hstep : p.flusher.step (.loop e) = some f) :
    ({ p.note T (.loop e) with flusher := f } : Paced σ).InPace cap batchCap := by
  obtain ⟨⟨b', q', out⟩, hflush, rfl⟩ := Option.map_eq_some_iff.mp hstep
  have hfails : e ≠ .sendFails := by
    rintro rfl
    cases hallows
  have habort : e ≠ .abort := by
    rintro rfl
    cases hallows
  have heffect := flushStep_effect hflush
  have hpast : ∀ t ∈ (p.note T (.loop e)).recorded, t ≤ (p.note T (.loop e)).now := by
    cases e <;> exact h.past
  have hstarted : (p.note T (.loop e)).started ≤ (p.note T (.loop e)).now := by
    cases e with
    | tick => exact le_rfl
    | spaced => exact le_rfl
    | _ => exact h.started_le
  constructor
  · exact heffect.wellFormed h.wellFormed
  · exact heffect.kept hfails habort h.kept
  · exact hstarted
  · exact hpast
  · apply flushStep_holds h.wellFormed hbatch h.holds hfails habort _ hflush
    cases e with
    | tick => exact .inl rfl
    | spaced => exact .inr (.inl rfl)
    | _ => exact .inr (.inr rfl)

lemma step_inPace (hcap : 1 ≤ cap) (hbatch : 1 ≤ batchCap) {e : PacedEvent σ}
    (h : p.InPace cap batchCap) (hcalm : p'.Calm cap) (hstep : p.step T e = some p') :
    p'.InPace cap batchCap := by
  cases e with
  | pass t =>
    simp only [step] at hstep
    split at hstep
    · cases hstep
      exact ⟨h.wellFormed, h.kept, h.started_le.trans ‹_›, fun x hx => (h.past x hx).trans ‹_›,
        h.holds⟩
    · cases hstep
  | act e =>
    simp only [step] at hstep
    split at hstep
    · rename_i hallows
      obtain ⟨f, hf, rfl⟩ := Option.map_eq_some_iff.mp hstep
      cases e with
      | record s =>
        cases hf
        exact h.record hcap (by simpa [allows] using hallows) hcalm s
      | recordEvents now n m c =>
        cases hf
        refine ⟨h.wellFormed.recordEvents now n m c, ?_, h.started_le, h.past,
          holds_recordEvents h.holds now n m c⟩
        intro c'
        rw [← h.kept c']
        dsimp only [note]
        rw [MetricsBuffer.recordEvents]
        split <;> rfl
      | loop e => exact h.loop hbatch hallows hf
    · cases hstep

/-- The windows of a run only fill. -/
lemma calm_of_step {e : PacedEvent σ} (h : p.step T e = some p') (hcalm : p'.Calm cap) :
    p.Calm cap := by
  intro a
  refine le_trans ?_ (hcalm a)
  cases e with
  | pass t =>
    simp only [step] at h
    split at h
    · cases h; exact le_rfl
    · cases h
  | act e =>
    simp only [step] at h
    split at h
    · obtain ⟨f, -, rfl⟩ := Option.map_eq_some_iff.mp h
      cases e with
      | record s => simp [window, note]
      | recordEvents now n m c => exact le_rfl
      | loop e => cases e <;> exact le_rfl
    · cases h

/-- If no closed window of the length of the spacing has more than `cap` records, nothing is ever
dropped. -/
theorem no_drop_below_one_buffer_per_spacing (cap batchCap : ℕ) (hcap : 1 ≤ cap)
    (hbatch : 1 ≤ batchCap) (T : Ticker) (t : ℕ) (es : List (PacedEvent σ)) (p : Paced σ)
    (h : exec (step T) (init cap batchCap t) es = some p)
    (hcalm : ∀ a, p.window a ≤ cap) :
    Throughout (step T) (fun p => p.flusher.buffer.droppedOverflow = 0 ∧
      p.flusher.buffer.droppedNonBillable = 0) (init cap batchCap t) es := by
  apply throughout_of_last (C := Calm cap) (I := InPace cap batchCap) _ _ _ _ h hcalm
  · intro s e s' hstep hC
    exact calm_of_step hstep hC
  · intro s e s' hs hC hstep
    exact step_inPace hcap hbatch hs hC hstep
  · intro s hs
    exact ⟨hs.kept true, hs.kept false⟩
  · exact ⟨.withCaps cap batchCap, fun c => by cases c <;> rfl, le_rfl, by simp [init], trivial⟩

/-- An interval of ten seconds. -/
def sampleTicker : Ticker where
  interval := Duration.ofSecs 10
  positive := by decide
  next deadline now := if deadline < now then now + Duration.ofSecs 10 else deadline + Duration.ofSecs 10
  delays deadline now := by
    split
    · exact .inr rfl
    · exact .inl rfl

/-- Two calls fill a ring of two, and are shipped a second after the flush before them. -/
def calmCalls : List (PacedEvent ToolCallSample) :=
  [.act (.loop .tick), .act (.loop (.drain 0)), .pass 5, .act (.record (sampleCall .ok)),
    .act (.record (sampleCall .ok)), .act (.loop .early), .pass 1_000_000_000,
    .act (.loop .spaced), .act (.loop (.drain 0)), .act (.loop .sent), .act (.loop (.drain 0)),
    .act (.loop .sent)]

theorem no_drop_two_calls_at_once :
    ∃ p, exec (step sampleTicker) (init 2 1 0) calmCalls = some p ∧ p.recorded = [5, 5] ∧
      Throughout (step sampleTicker) (fun p => p.flusher.buffer.droppedOverflow = 0 ∧
        p.flusher.buffer.droppedNonBillable = 0) (init 2 1 0) calmCalls := by
  have hrun : (exec (step sampleTicker) (init 2 1 0) calmCalls).map recorded =
      some [5, 5] := by rfl
  obtain ⟨p, hp, hrecorded⟩ := Option.map_eq_some_iff.mp hrun
  refine ⟨p, hp, hrecorded, no_drop_below_one_buffer_per_spacing 2 1 (by decide) (by decide)
    sampleTicker 0 calmCalls p hp ?_⟩
  intro a
  rw [window, hrecorded]
  exact List.countP_le_length

end Paced

end ControlPlaneClient
