import ControlPlaneClient.Logs.Lane
import ControlPlaneClient.Metrics.Tick
import ControlPlaneClient.Session.Shutdown

/-!
# One flush ships everything

A tick of `flush_loop` stops at a batch that is not full, `flush_remaining` at an empty one. The first
may take as many batches as a full ring has, the second `MAX_SHUTDOWN_FLUSH_BATCHES` from each of the
two buffers. With nobody else at the buffers and sends that succeed, each leaves them empty.
-/

namespace ControlPlaneClient

open Transition

/-! ### The log buffer -/

/-- A flush of `b` sends the batches `sent` and leaves `b'`, with nothing in it. -/
structure ShipsLogs (b : LogBuffer) (sent : List LogDrained) (b' : LogBuffer) : Prop where
  ring     : b'.buf = []
  drops    : b'.droppedOverflow = 0
  shipment : Shipment LogDrained.lines b.batchCap b.buf (fun d => d.dropped = b.droppedOverflow)
    (fun d => d.dropped = 0) sent
  nothing  : sent = [] → b.droppedOverflow = 0

namespace ShipsLogs

variable {b b' : LogBuffer} {rest : List LogDrained}

lemma ofEmpty (hbatch : 1 ≤ b.batchCap) (hlines : b.drained.lines = [])
    (hdropped : b.drained.dropped = 0) : ShipsLogs b [] b.drain.2 := by
  have hlen := b.drained_length
  rw [hlines, List.length_nil] at hlen
  have hnil : b.buf = [] := List.length_eq_zero_iff.mp (by omega)
  constructor
  · rw [← List.length_eq_zero_iff, LogBuffer.drain_length, hnil, List.length_nil, Nat.zero_sub]
  · rfl
  · rw [hnil]
    exact Shipment.nil
  · intro _
    exact hdropped

lemma shipment_cons (hne : b.drained.lines = [] → b.drained.dropped ≠ 0)
    (h : Shipment LogDrained.lines b.batchCap b.drain.2.buf (fun d => d.dropped = 0)
      (fun d => d.dropped = 0) rest) :
    Shipment LogDrained.lines b.batchCap b.buf (fun d => d.dropped = b.droppedOverflow)
      (fun d => d.dropped = 0) (b.drained :: rest) := by
  have hlen := b.drained_length
  rw [← b.drained_append]
  apply h.cons
  · rw [hlen]
    exact min_le_right _ _
  · intro hshort
    rw [← List.length_eq_zero_iff, LogBuffer.drain_length]
    omega
  · rfl
  · exact hne

lemma ofLast (hne : b.drained.lines = [] → b.drained.dropped ≠ 0)
    (hlen : b.buf.length ≤ b.batchCap) : ShipsLogs b [b.drained] b.drain.2 := by
  have hnil : b.drain.2.buf = [] := by
    rw [← List.length_eq_zero_iff, LogBuffer.drain_length]
    omega
  constructor
  · exact hnil
  · rfl
  · apply shipment_cons hne
    rw [hnil]
    exact Shipment.nil
  · intro h
    cases h

lemma cons (hne : b.drained.lines = [] → b.drained.dropped ≠ 0) (h : ShipsLogs b.drain.2 rest b') :
    ShipsLogs b (b.drained :: rest) b' := by
  constructor
  · exact h.ring
  · exact h.drops
  · exact shipment_cons hne h.shipment
  · intro hnil
    cases hnil

end ShipsLogs

/-! ### `flush_remaining` -/

/-- A session at its end, with the log batches that `flush_remaining` has sent. -/
structure Closing where
  session    : Shutdown
  logBatches : List LogDrained

/-- The steps of `flush_remaining`. -/
def ShutdownEvent.flushes : ShutdownEvent → Bool
  | .flush _ | .flushed => true
  | _                   => false

namespace Closing

/-- The log batch whose send completes. -/
def logsHanded : RunnerPhase → ShutdownEvent → List LogDrained
  | .sendingLogs _ lines dropped seq, .flushed => [⟨lines, dropped, seq⟩]
  | _, _                                       => []

def step (c : Closing) (e : ShutdownEvent) : Option Closing :=
  (c.session.step e).map fun s => ⟨s, c.logBatches ++ logsHanded c.session.runner e⟩

variable {lane : Lane} {logs : LogBuffer} {current : Option ℕ} {left : ℕ} {out : List LogDrained}
  {es : List ShutdownEvent} {c : Closing}

/-! One step of each loop. -/

lemma step_drainingMetrics_of_isEmpty {now : DateTime}
    (h : (lane.buffer.drained now).isEmpty = true) (left : ℕ) :
    step ⟨⟨lane, logs, current, .drainingMetrics left⟩, out⟩ (.flush now) =
      some ⟨⟨{ lane with buffer := lane.buffer.afterDrain }, logs, current,
        .drainingLogs (maxShutdownFlushBatches - 1)⟩, out⟩ := by
  simp [step, Shutdown.step, MetricsBuffer.drain, h, logsHanded]

lemma step_drainingMetrics {now : DateTime} (h : ¬ (lane.buffer.drained now).isEmpty = true)
    (left : ℕ) :
    step ⟨⟨lane, logs, current, .drainingMetrics left⟩, out⟩ (.flush now) =
      some ⟨⟨{ lane with buffer := lane.buffer.afterDrain }, logs, current,
        .sendingMetrics left (lane.buffer.drained now)⟩, out⟩ := by
  simp [step, Shutdown.step, MetricsBuffer.drain, h, logsHanded]

lemma step_drainingLogs_of_isEmpty (hlines : logs.drained.lines = [])
    (hdropped : logs.drained.dropped = 0) (left : ℕ) (now : DateTime) :
    step ⟨⟨lane, logs, current, .drainingLogs left⟩, out⟩ (.flush now) =
      some ⟨⟨lane, logs.drain.2, current, .returned⟩, out⟩ := by
  have hempty : (logs.drain.1.1.isEmpty && logs.drain.1.2.1 == 0) = true := by
    rw [Bool.and_eq_true, List.isEmpty_iff, beq_iff_eq]
    exact ⟨hlines, hdropped⟩
  simp only [step, Shutdown.step, hempty, if_true, Option.map_some, logsHanded, List.append_nil]

lemma step_drainingLogs (h : logs.drained.lines = [] → logs.drained.dropped ≠ 0) (left : ℕ)
    (now : DateTime) :
    step ⟨⟨lane, logs, current, .drainingLogs left⟩, out⟩ (.flush now) =
      some ⟨⟨lane, logs.drain.2, current, .sendingLogs left logs.drained.lines logs.drained.dropped
        logs.drained.seq⟩, out⟩ := by
  have hempty : ¬ (logs.drain.1.1.isEmpty && logs.drain.1.2.1 == 0) = true := by
    rw [Bool.and_eq_true, List.isEmpty_iff, beq_iff_eq, not_and]
    exact h
  simp only [step, Shutdown.step, hempty, Bool.false_eq_true, if_false, Option.map_some, logsHanded,
    List.append_nil]
  rfl

lemma exec_returned (hes : ∀ e ∈ es, e.flushes = true)
    (h : exec step ⟨⟨lane, logs, current, .returned⟩, out⟩ es = some c) :
    c = ⟨⟨lane, logs, current, .returned⟩, out⟩ := by
  cases es with
  | nil => cases h; rfl
  | cons e es =>
    have he := hes e (by simp)
    cases e with
    | flush now => cases h
    | flushed => cases h
    | _ => cases he

/-- One round of the first loop. -/
lemma exec_drainingMetrics (hes : ∀ e ∈ es, e.flushes = true)
    (h : exec step ⟨⟨lane, logs, current, .drainingMetrics left⟩, out⟩ es = some c)
    (hend : c.session.runner = .returned) :
    ∃ now es', (∀ e ∈ es', e.flushes = true) ∧
      (((lane.buffer.drained now).isEmpty = true ∧
          exec step ⟨⟨{ lane with buffer := lane.buffer.afterDrain }, logs, current,
            .drainingLogs (maxShutdownFlushBatches - 1)⟩, out⟩ es' = some c) ∨
        ((lane.buffer.drained now).isEmpty = false ∧
          exec step ⟨⟨{ lane with
            buffer := lane.buffer.afterDrain
            handed := lane.handed ++ [lane.buffer.drained now] }, logs, current,
            Shutdown.afterMetrics left⟩, out⟩ es' = some c)) := by
  obtain ⟨e, c₁, es, he, h₁, hes, h⟩ :=
    exists_first_step (D := fun c : Closing => c.session.runner = .returned) h hes nofun hend
  cases e with
  | flush now =>
    by_cases hempty : (lane.buffer.drained now).isEmpty = true
    · rw [step_drainingMetrics_of_isEmpty hempty] at h₁
      cases h₁
      exact ⟨now, es, hes, .inl ⟨hempty, h⟩⟩
    · rw [step_drainingMetrics hempty] at h₁
      cases h₁
      obtain ⟨e, c₂, es, he, h₂, hes, h⟩ :=
        exists_first_step (D := fun c : Closing => c.session.runner = .returned) h hes nofun hend
      cases e with
      | flushed =>
        simp only [step, Shutdown.step, Option.map_some, logsHanded, List.append_nil,
          Option.some.injEq] at h₂
        subst h₂
        exact ⟨now, es, hes, .inr ⟨Bool.eq_false_iff.mpr hempty, h⟩⟩
      | flush now' => cases h₂
      | _ => cases he
  | flushed => cases h₁
  | _ => cases he

/-- The first loop ships the metrics buffer and is followed by the second. -/
lemma exec_ships {cap batchCap : ℕ} (hbatch : 1 ≤ batchCap)
    (hb : lane.buffer.WellFormed cap batchCap)
    (hlen : lane.buffer.buf.samples.length ≤ (left + 1) * batchCap)
    (hes : ∀ e ∈ es, e.flushes = true)
    (h : exec step ⟨⟨lane, logs, current, .drainingMetrics left⟩, out⟩ es = some c)
    (hend : c.session.runner = .returned) :
    ∃ sent b' es', Ships lane.buffer sent b' ∧ (∀ e ∈ es', e.flushes = true) ∧
      exec step ⟨⟨{ lane with buffer := b', handed := lane.handed ++ sent }, logs, current,
        .drainingLogs (maxShutdownFlushBatches - 1)⟩, out⟩ es' = some c := by
  induction left generalizing lane es with
  | zero =>
    rw [Nat.zero_add, Nat.one_mul, ← hb.batchCap_eq] at hlen
    obtain ⟨now, es, hes, ⟨hempty, h⟩ | ⟨hempty, h⟩⟩ := exec_drainingMetrics hes h hend
    · refine ⟨[], _, es, .ofEmpty hb.tallied (by rw [hb.batchCap_eq]; exact hbatch) hempty, hes, ?_⟩
      rwa [List.append_nil]
    · exact ⟨_, _, es, .ofLast hb.tallied hempty hlen, hes, h⟩
  | succ left ih =>
    obtain ⟨now, es, hes, ⟨hempty, h⟩ | ⟨hempty, h⟩⟩ := exec_drainingMetrics hes h hend
    · refine ⟨[], _, es, .ofEmpty hb.tallied (by rw [hb.batchCap_eq]; exact hbatch) hempty, hes, ?_⟩
      rwa [List.append_nil]
    · have hrest : lane.buffer.afterDrain.buf.samples.length ≤ (left + 1) * batchCap := by
        rw [MetricsBuffer.afterDrain_length, hb.batchCap_eq]
        rw [Nat.succ_mul] at hlen
        exact Nat.sub_le_of_le_add hlen
      obtain ⟨sent, b', es', hships, hes', h'⟩ := ih hb.afterDrain hrest hes h
      refine ⟨_, b', es', hships.cons hempty, hes', ?_⟩
      rwa [List.append_assoc, List.singleton_append] at h'

/-- One round of the second loop. -/
lemma exec_drainingLogs (hes : ∀ e ∈ es, e.flushes = true)
    (h : exec step ⟨⟨lane, logs, current, .drainingLogs left⟩, out⟩ es = some c)
    (hend : c.session.runner = .returned) :
    ∃ es', (∀ e ∈ es', e.flushes = true) ∧
      ((logs.drained.lines = [] ∧ logs.drained.dropped = 0 ∧
          exec step ⟨⟨lane, logs.drain.2, current, .returned⟩, out⟩ es' = some c) ∨
        ((logs.drained.lines = [] → logs.drained.dropped ≠ 0) ∧
          exec step ⟨⟨lane, logs.drain.2, current, Shutdown.afterLogs left⟩,
            out ++ [logs.drained]⟩ es' = some c)) := by
  obtain ⟨e, c₁, es, he, h₁, hes, h⟩ :=
    exists_first_step (D := fun c : Closing => c.session.runner = .returned) h hes nofun hend
  cases e with
  | flush now =>
    by_cases hempty : logs.drained.lines = [] ∧ logs.drained.dropped = 0
    · rw [step_drainingLogs_of_isEmpty hempty.1 hempty.2] at h₁
      cases h₁
      exact ⟨es, hes, .inl ⟨hempty.1, hempty.2, h⟩⟩
    · rw [not_and] at hempty
      rw [step_drainingLogs hempty] at h₁
      cases h₁
      obtain ⟨e, c₂, es, he, h₂, hes, h⟩ :=
        exists_first_step (D := fun c : Closing => c.session.runner = .returned) h hes nofun hend
      cases e with
      | flushed => cases h₂; exact ⟨es, hes, .inr ⟨hempty, h⟩⟩
      | flush now' => cases h₂
      | _ => cases he
  | flushed => cases h₁
  | _ => cases he

/-- The second loop ships the log buffer. -/
lemma exec_shipsLogs {cap batchCap : ℕ} (hbatch : 1 ≤ batchCap) (hb : logs.WellFormed cap batchCap)
    (hlen : logs.buf.length ≤ (left + 1) * batchCap) (hes : ∀ e ∈ es, e.flushes = true)
    (h : exec step ⟨⟨lane, logs, current, .drainingLogs left⟩, out⟩ es = some c)
    (hend : c.session.runner = .returned) :
    c.session.lane = lane ∧
      ∃ sent, c.logBatches = out ++ sent ∧ ShipsLogs logs sent c.session.logs := by
  have hbatch' : 1 ≤ logs.batchCap := by rwa [hb.batchCap_eq]
  induction left generalizing logs out es with
  | zero =>
    rw [Nat.zero_add, Nat.one_mul, ← hb.batchCap_eq] at hlen
    obtain ⟨es, hes, ⟨hlines, hdropped, h⟩ | ⟨hne, h⟩⟩ := exec_drainingLogs hes h hend
    · rw [exec_returned hes h]
      exact ⟨rfl, [], (List.append_nil _).symm, .ofEmpty hbatch' hlines hdropped⟩
    · rw [exec_returned hes h]
      exact ⟨rfl, _, rfl, .ofLast hne hlen⟩
  | succ left ih =>
    obtain ⟨es, hes, ⟨hlines, hdropped, h⟩ | ⟨hne, h⟩⟩ := exec_drainingLogs hes h hend
    · rw [exec_returned hes h]
      exact ⟨rfl, [], (List.append_nil _).symm, .ofEmpty hbatch' hlines hdropped⟩
    · have hrest : logs.drain.2.buf.length ≤ (left + 1) * batchCap := by
        rw [LogBuffer.drain_length, hb.batchCap_eq]
        rw [Nat.succ_mul] at hlen
        exact Nat.sub_le_of_le_add hlen
      obtain ⟨hlane, sent, hsent, hships⟩ := ih hb.drain hrest hes h hbatch'
      refine ⟨hlane, logs.drained :: sent, ?_, hships.cons hne⟩
      rw [hsent, List.append_assoc, List.singleton_append]

/-- The steps that `flush_remaining` still has to make, at most. -/
def stepsLeft (c : Closing) : ℕ :=
  match c.session.runner with
  | .drainingMetrics left  => 2 * left + 2 + 2 * maxShutdownFlushBatches
  | .sendingMetrics left _ => 2 * left + 1 + 2 * maxShutdownFlushBatches
  | .drainingLogs left     => 2 * left + 2
  | .sendingLogs left _ _ _ => 2 * left + 1
  | _                      => 0

/-- `flush_remaining` returns. -/
lemma exists_exec {c : Closing} (hc : c.session.runner.aborted = true) :
    ∃ es c', (∀ e ∈ es, ShutdownEvent.flushes e = true) ∧ exec step c es = some c' ∧
      c'.session.runner = .returned := by
  apply exists_exec_done (I := fun c => c.session.runner.aborted = true) stepsLeft _ hc
  rintro ⟨⟨lane, logs, current, runner⟩, out⟩ hrun hdone
  cases runner with
  | live => cases hrun
  | triggered => cases hrun
  | drainingMetrics left =>
    by_cases hempty : (lane.buffer.drained 0).isEmpty = true
    · refine ⟨.flush 0, _, rfl, step_drainingMetrics_of_isEmpty hempty left, rfl, ?_⟩
      simp only [stepsLeft, maxShutdownFlushBatches]
      omega
    · refine ⟨.flush 0, _, rfl, step_drainingMetrics hempty left, rfl, ?_⟩
      simp only [stepsLeft]
      omega
  | sendingMetrics left batch =>
    refine ⟨.flushed, _, rfl, rfl, ?_, ?_⟩
    · cases left <;> rfl
    · cases left with
      | zero => simp [stepsLeft, Shutdown.afterMetrics, maxShutdownFlushBatches]
      | succ left =>
        simp only [stepsLeft, Shutdown.afterMetrics]
        omega
  | drainingLogs left =>
    by_cases hempty : logs.drained.lines = [] ∧ logs.drained.dropped = 0
    · refine ⟨.flush 0, _, rfl, step_drainingLogs_of_isEmpty hempty.1 hempty.2 left 0, rfl, ?_⟩
      simp [stepsLeft]
    · refine ⟨.flush 0, _, rfl, step_drainingLogs (not_and.mp hempty) left 0, rfl, ?_⟩
      simp [stepsLeft]
  | sendingLogs left lines dropped seq =>
    refine ⟨.flushed, _, rfl, rfl, ?_, ?_⟩
    · cases left <;> rfl
    · cases left with
      | zero => simp [stepsLeft, Shutdown.afterLogs]
      | succ left =>
        simp only [stepsLeft, Shutdown.afterLogs]
        omega
  | returned => exact absurd rfl hdone

end Closing

/-- From every state of the buffer, a tick of `flush_loop` whose sends succeed comes to its end and
ships the whole buffer, and so does `flush_remaining` with the two buffers of the runner. -/
theorem one_flush_ships_everything {σ : Type*} [HasOutcome σ] (cap batchCap : ℕ)
    (hbatch : 1 ≤ batchCap) (before : List (TrafficEvent σ)) (t : Traffic σ)
    (hbefore : exec Traffic.step (.init cap batchCap) before = some t)
    (calls : List (TrafficEvent Arrival)) (m : Traffic Arrival)
    (hcalls : exec Traffic.step
      (.init MetricsBuffer.defaultBufferCap MetricsBuffer.defaultBatchCap) calls = some m)
    (lines : List LogLaneEvent) (l : LogLane)
    (hlines : exec LogLane.step
      (.init LogBuffer.defaultLogBufferCap LogBuffer.defaultLogBatchCap) lines = some l)
    (s : Shutdown) (hmetrics : s.lane.buffer = m.buffer) (hlogs : s.logs = l.buffer)
    (hstart : s.runner = .drainingMetrics (maxShutdownFlushBatches - 1)) :
    ((∃ es k, (∀ e ∈ es, FlushEvent.succeeds e = true) ∧
        exec Tick.step (.start t.buffer) es = some k ∧ k.phase = .waiting) ∧
      ∀ es k, (∀ e ∈ es, FlushEvent.succeeds e = true) →
        exec Tick.step (.start t.buffer) es = some k → k.phase = .waiting →
        Ships t.buffer k.sent k.buffer) ∧
    (∃ es c, (∀ e ∈ es, ShutdownEvent.flushes e = true) ∧
        exec Closing.step ⟨s, []⟩ es = some c ∧ c.session.runner = .returned) ∧
      ∀ es c, (∀ e ∈ es, ShutdownEvent.flushes e = true) →
        exec Closing.step ⟨s, []⟩ es = some c → c.session.runner = .returned →
        (∃ sent, c.session.lane.handed = s.lane.handed ++ sent ∧
          Ships s.lane.buffer sent c.session.lane.buffer) ∧
        ShipsLogs s.logs c.logBatches c.session.logs := by
  refine ⟨⟨?_, ?_⟩, ?_, ?_⟩
  · exact Tick.exists_exec trivial
  · intro es k hes h hend
    have hb := Traffic.exec_wellFormed hbefore
    obtain ⟨sent, hsent, hships⟩ :=
      Tick.exec_ships hbatch hb (hb.length_le_flush hbatch) hes h hend
    rwa [hsent, List.nil_append]
  · exact Closing.exists_exec (by rw [hstart]; rfl)
  · intro es c hes h hend
    obtain ⟨lane, logs, current, runner⟩ := s
    dsimp only at hmetrics hlogs hstart
    subst hstart
    have hb := Traffic.exec_wellFormed hcalls
    have hl := LogLane.exec_wellFormed hlines
    rw [← hmetrics] at hb
    rw [← hlogs] at hl
    -- Ten batches are a full ring, of samples and of lines.
    obtain ⟨sent, b', es', hships, hes', h'⟩ :=
      Closing.exec_ships (by decide) hb (hb.length.trans (by decide)) hes h hend
    obtain ⟨hlane, logBatches, hlogBatches, hshipsLogs⟩ :=
      Closing.exec_shipsLogs (by decide) hl (hl.length.trans (by decide)) hes' h' hend
    refine ⟨⟨sent, ?_, ?_⟩, ?_⟩
    · rw [hlane]
    · rw [hlane]
      exact hships
    · rwa [hlogBatches, List.nil_append]

/-- The steps of a `flush_remaining` that finds one batch in each buffer. -/
def closingFlush : List ShutdownEvent := [.flush 0, .flushed, .flush 0, .flush 0, .flushed, .flush 0]

/-- A ring of two is shipped in two batches of one, and a call and a line in one batch each. -/
theorem one_flush_ships_two_batches :
    ∃ (t : Traffic ToolCallSample) (k : Tick ToolCallSample) (s : Shutdown) (c : Closing),
      exec Traffic.step (.init 2 1) Flusher.filledRing = some t ∧
      exec Tick.step (.start t.buffer) [.drain 0, .sent, .drain 0, .sent] = some k ∧
      k.sent.length = 2 ∧ Ships t.buffer k.sent k.buffer ∧
      exec Closing.step ⟨s, []⟩ closingFlush = some c ∧ c.session.lane.handed.length = 1 ∧
      ShipsLogs s.logs c.logBatches c.session.logs := by
  have hrun : (exec Traffic.step (.init 2 1) Flusher.filledRing).bind (fun t =>
      (exec Tick.step (.start t.buffer) [.drain 0, .sent, .drain 0, .sent]).map fun k =>
        (k.phase, k.sent.length)) = some (.waiting, 2) := by rfl
  obtain ⟨t, ht, hrun⟩ := Option.bind_eq_some_iff.mp hrun
  obtain ⟨k, hk, hrun⟩ := Option.map_eq_some_iff.mp hrun
  obtain ⟨hwaits, hsent⟩ := Prod.mk.inj hrun
  have hrun' : (exec Traffic.step (.init MetricsBuffer.defaultBufferCap
      MetricsBuffer.defaultBatchCap) [.record (⟨0, sampleCall .ok⟩ : Arrival)]).bind (fun m =>
      (exec LogLane.step (.init LogBuffer.defaultLogBufferCap LogBuffer.defaultLogBatchCap)
        [.record (LogLane.sampleLine "ready")]).bind fun l =>
      (exec Closing.step ⟨⟨⟨m.buffer, [], [], []⟩, l.buffer, none,
        .drainingMetrics (maxShutdownFlushBatches - 1)⟩, []⟩ closingFlush).map fun c =>
      (c.session.runner, c.session.lane.handed.length)) = some (.returned, 1) := by rfl
  obtain ⟨m, hm, hrun'⟩ := Option.bind_eq_some_iff.mp hrun'
  obtain ⟨l, hl, hrun'⟩ := Option.bind_eq_some_iff.mp hrun'
  obtain ⟨c, hc, hrun'⟩ := Option.map_eq_some_iff.mp hrun'
  obtain ⟨hreturned, hhanded⟩ := Prod.mk.inj hrun'
  obtain ⟨⟨-, htick⟩, -, hclose⟩ := one_flush_ships_everything 2 1 (by decide) _ t ht _ m hm _ l hl
    ⟨⟨m.buffer, [], [], []⟩, l.buffer, none, .drainingMetrics (maxShutdownFlushBatches - 1)⟩
    rfl rfl rfl
  exact ⟨t, k, _, c, ht, hk, hsent, htick _ k (by decide) hk hwaits, hc, hhanded,
    (hclose closingFlush c (by decide) hc hreturned).2⟩

end ControlPlaneClient
