import ControlPlaneClient.Logs
import ControlPlaneClient.Metrics.Bounds
import ControlPlaneClient.Metrics.Conservation

/-!
# The shutdown flush

The end of `run_session` on a requested shutdown: the tasks of the session are aborted and
`flush_remaining` drains the buffers into the outbound queue, at most
`MAX_SHUTDOWN_FLUSH_BATCHES` batches each. The queue stays open, so a send waits for room but does
not fail.

`abort` only asks for the cancellation. A flush task may go on until its next suspension, and the
runtime drops it, returning the batch it holds, at a later moment of its choosing. The sessions
before the one being shut down are part of the run, and their flush tasks may linger.
-/

namespace ControlPlaneClient

open Transition

def maxShutdownFlushBatches : ℕ := 16

/-- Where `run_session` stands. -/
inductive RunnerPhase
  /-- A session is open, or is about to be; no shutdown was asked for. -/
  | live
  /-- `trigger` was called during the session. -/
  | triggered
  /-- About to drain the metrics, with `left` more drains allowed after this one. -/
  | drainingMetrics (left : ℕ)
  | sendingMetrics (left : ℕ) (batch : Drained Arrival)
  | drainingLogs (left : ℕ)
  | sendingLogs (left : ℕ) (lines : List LogLineSample) (dropped seq : ℕ)
  /-- `flush_remaining` has returned. -/
  | returned

/-- The batch that `flush_remaining` is sending. It is not in a guard. -/
def RunnerPhase.inFlight : RunnerPhase → Option (Drained Arrival)
  | .sendingMetrics _ d => some d
  | _                   => none

/-- The metrics drains that `flush_remaining` may still make. -/
def RunnerPhase.drainsLeft : RunnerPhase → ℕ
  | .live | .triggered      => maxShutdownFlushBatches
  | .drainingMetrics left   => left + 1
  | .sendingMetrics left _  => left
  | .drainingLogs _ | .sendingLogs _ _ _ _ | .returned => 0

def RunnerPhase.isLive : RunnerPhase → Bool
  | .live => true
  | _     => false

/-- The tasks of the session were asked to abort. -/
def RunnerPhase.aborted : RunnerPhase → Bool
  | .live | .triggered => false
  | _                  => true

def FlushPhase.isStopped {σ : Type*} : FlushPhase σ → Bool
  | .stopped => true
  | _        => false

/-- The metrics lane, the log buffer and the runner. `current` is the flush task of the open
session. -/
structure Shutdown where
  lane    : Lane
  logs    : LogBuffer
  current : Option ℕ
  runner  : RunnerPhase

inductive ShutdownEvent
  | record (s : ToolCallSample)
  | recordEvents (now : DateTime) (eventName mode : String) (counts : EventCounts)
  | recordLog (line : LogLineSample)
  /-- A log flush task drains its buffer. -/
  | drainLogs
  /-- A Channel is established and its flush task spawned. -/
  | opens
  /-- The session ends before a shutdown is asked for. -/
  | ends
  | task (i : ℕ) (e : FlushEvent)
  | trigger
  /-- `select!` is over and the tasks are asked to abort. -/
  | teardown
  /-- The next drain of `flush_remaining`. -/
  | flush (now : DateTime)
  /-- The pending send of `flush_remaining` completes. -/
  | flushed

namespace Shutdown

def init : Shutdown := ⟨⟨.new, [], [], []⟩, .new, none, .live⟩

/-- Where `flush_remaining` goes after a metrics batch is sent. -/
def afterMetrics : ℕ → RunnerPhase
  | 0        => .drainingLogs (maxShutdownFlushBatches - 1)
  | left + 1 => .drainingMetrics left

/-- Where `flush_remaining` goes after a log batch is sent. -/
def afterLogs : ℕ → RunnerPhase
  | 0        => .returned
  | left + 1 => .drainingLogs left

def onLane (s : Shutdown) (e : LaneEvent) : Option Shutdown :=
  (s.lane.step e).map fun lane => { s with lane := lane }

/-- What the outside allows a flush task to do. The queue of the open session takes its messages;
the queue of a session that is over is closed. A task is dropped once it was asked to abort. -/
def allows (s : Shutdown) (i : ℕ) : FlushEvent → Bool
  | .sent      => s.current == some i
  | .sendFails => s.current != some i
  | .abort     => s.current != some i || s.runner.aborted
  | _          => true

def step (s : Shutdown) : ShutdownEvent → Option Shutdown
  | .record x => if s.runner.isLive then s.onLane (.record x) else none
  | .recordEvents now n m c => s.onLane (.recordEvents now n m c)
  | .recordLog line => some { s with logs := s.logs.record line }
  | .drainLogs => some { s with logs := s.logs.drain.2 }
  | .opens =>
    if s.runner.isLive && s.current.isNone then
      ({ s with current := some s.lane.tasks.length }).onLane .spawn
    else none
  | .ends => if s.runner.isLive && s.current.isSome then some { s with current := none } else none
  | .task i e => if s.allows i e then s.onLane (.task i e) else none
  | .trigger =>
    if s.runner.isLive && s.current.isSome then some { s with runner := .triggered } else none
  | .teardown =>
    match s.runner with
    | .triggered => some { s with runner := .drainingMetrics (maxShutdownFlushBatches - 1) }
    | _          => none
  | .flush now =>
    match s.runner with
    | .drainingMetrics left =>
      let (batch, b) := s.lane.buffer.drain now
      let runner :=
        if batch.isEmpty then .drainingLogs (maxShutdownFlushBatches - 1)
        else .sendingMetrics left batch
      some { s with lane := { s.lane with buffer := b }, runner := runner }
    | .drainingLogs left =>
      let ((lines, dropped, seq), logs) := s.logs.drain
      let runner :=
        if lines.isEmpty && dropped == 0 then .returned else .sendingLogs left lines dropped seq
      some { s with logs := logs, runner := runner }
    | _ => none
  | .flushed =>
    match s.runner with
    | .sendingMetrics left batch =>
      some { s with
        lane := { s.lane with handed := s.lane.handed ++ [batch] }
        runner := afterMetrics left }
    | .sendingLogs left _ _ _ => some { s with runner := afterLogs left }
    | _ => none

/-! ### What a step does -/

/-- What has to hold of a step for the flush to leave nothing owed. No task returns a batch with
something owed after the last metrics drain, and the last drain allowed takes all there is. -/
def InTime (s : Shutdown) : ShutdownEvent → Prop
  | .task i .abort | .task i .sendFails =>
    s.runner.drainsLeft = 0 → ∀ d ∈ s.lane.held i, ∀ c, d.owed c = 0
  | .flush _ =>
    s.runner.drainsLeft = 1 → s.lane.buffer.buf.samples.length ≤ s.lane.buffer.batchCap
  | _ => True

/-- All that a step can do to the metrics. -/
inductive Effect (s : Shutdown) : ShutdownEvent → Shutdown → Prop
  /-- A step that leaves the metrics where they are. -/
  | idle (e : ShutdownEvent) {s' : Shutdown} (he : s.InTime e) (hl : s'.lane = s.lane)
      (hrun : s'.runner.drainsLeft = s.runner.drainsLeft)
      (hin : s'.runner.inFlight = s.runner.inFlight) : Effect s e s'
  | record (x : ToolCallSample) {s' : Shutdown} (hlive : s.runner.isLive = true)
      (hl : s.lane.Effect (.record x) s'.lane) (hrun : s'.runner = s.runner) :
      Effect s (.record x) s'
  | recordEvents (now : DateTime) (n m : String) (c : EventCounts) {s' : Shutdown}
      (hl : s.lane.Effect (.recordEvents now n m c) s'.lane) (hrun : s'.runner = s.runner) :
      Effect s (.recordEvents now n m c) s'
  | opens {s' : Shutdown} (hl : s.lane.Effect .spawn s'.lane) (hrun : s'.runner = s.runner) :
      Effect s .opens s'
  | task (i : ℕ) (e : FlushEvent) {s' : Shutdown} (hl : s.lane.Effect (.task i e) s'.lane)
      (hrun : s'.runner = s.runner) : Effect s (.task i e) s'
  | flush (now : DateTime) (left : ℕ) {s' : Shutdown} (hleft : s.runner.drainsLeft = left + 1)
      (hin : s.runner.inFlight = none)
      (hl : s'.lane = { s.lane with buffer := s.lane.buffer.afterDrain })
      (hrun : ((s.lane.buffer.drained now).isEmpty = true ∧ s'.runner.drainsLeft = 0 ∧
          s'.runner.inFlight = none) ∨
        (s'.runner.drainsLeft = left ∧
          s'.runner.inFlight = some (s.lane.buffer.drained now))) :
      Effect s (.flush now) s'
  | flushed (batch : Drained Arrival) {s' : Shutdown} (hin : s.runner.inFlight = some batch)
      (hin' : s'.runner.inFlight = none) (hrun : s'.runner.drainsLeft = s.runner.drainsLeft)
      (hl : s'.lane = { s.lane with handed := s.lane.handed ++ [batch] }) : Effect s .flushed s'

lemma onLane_eq_some {s s' : Shutdown} {e : LaneEvent} (h : s.onLane e = some s') :
    s.lane.Effect e s'.lane ∧ s'.runner = s.runner := by
  obtain ⟨lane, hstep, rfl⟩ := Option.map_eq_some_iff.mp h
  exact ⟨Lane.step_effect hstep, rfl⟩

lemma runner_eq_live {p : RunnerPhase} (h : p.isLive = true) : p = .live := by
  cases p <;> first | rfl | cases h

lemma step_effect {s s' : Shutdown} {e : ShutdownEvent} (h : s.step e = some s') :
    Effect s e s' := by
  cases e with
  | record x =>
    simp only [step] at h
    split at h
    · obtain ⟨hl, hrun⟩ := onLane_eq_some h
      exact .record x ‹_› hl hrun
    · cases h
  | recordEvents now n m c =>
    obtain ⟨hl, hrun⟩ := onLane_eq_some h
    exact .recordEvents now n m c hl hrun
  | recordLog line => cases h; exact .idle _ trivial rfl rfl rfl
  | drainLogs => cases h; exact .idle _ trivial rfl rfl rfl
  | opens =>
    simp only [step] at h
    split at h
    · obtain ⟨hl, hrun⟩ := onLane_eq_some h
      exact .opens hl hrun
    · cases h
  | ends =>
    simp only [step] at h
    split at h
    · cases h; exact .idle _ trivial rfl rfl rfl
    · cases h
  | task i e =>
    simp only [step] at h
    split at h
    · obtain ⟨hl, hrun⟩ := onLane_eq_some h
      exact .task i e hl hrun
    · cases h
  | trigger =>
    simp only [step] at h
    split at h
    · rename_i hc
      have hlive := runner_eq_live (Bool.and_eq_true_iff.mp hc).1
      cases h
      exact .idle _ trivial rfl (by rw [hlive]; rfl) (by rw [hlive]; rfl)
    · cases h
  | teardown =>
    simp only [step] at h
    split at h
    · rename_i hrun
      cases h
      exact .idle _ trivial rfl (by rw [hrun]; rfl) (by rw [hrun]; rfl)
    · cases h
  | flush now =>
    simp only [step] at h
    split at h
    · rename_i left hrun
      cases h
      refine .flush now left (by rw [hrun]; rfl) (by rw [hrun]; rfl) rfl ?_
      by_cases hempty : (s.lane.buffer.drained now).isEmpty
      · exact .inl ⟨hempty, by simp [MetricsBuffer.drain, hempty, RunnerPhase.drainsLeft],
          by simp [MetricsBuffer.drain, hempty, RunnerPhase.inFlight]⟩
      · exact .inr ⟨by simp [MetricsBuffer.drain, hempty, RunnerPhase.drainsLeft],
          by simp [MetricsBuffer.drain, hempty, RunnerPhase.inFlight]⟩
    · rename_i left hrun
      cases h
      refine .idle _ ?_ rfl ?_ ?_
      · intro h1
        rw [hrun] at h1
        cases h1
      all_goals
        rw [hrun]
        dsimp only
        split <;> rfl
    · cases h
  | flushed =>
    simp only [step] at h
    split at h
    · rename_i left batch hrun
      cases h
      exact .flushed batch (by rw [hrun]; rfl) (by cases left <;> rfl)
        (by rw [hrun]; cases left <;> rfl) rfl
    · rename_i left lines dropped seq hrun
      cases h
      refine .idle _ trivial rfl ?_ ?_ <;> rw [hrun] <;> cases left <;> rfl
    · cases h

/-! ### Conservation -/

/-- What holds in every state of a run. -/
structure Sound (s : Shutdown) : Prop where
  conserved : ∀ c, count c s.lane.recorded = owedAll s.lane.handed c +
    owedAll s.lane.outstanding c + owedAll s.runner.inFlight.toList c + s.lane.buffer.owed c
  batchCap  : s.lane.buffer.batchCap = MetricsBuffer.defaultBatchCap

lemma init_sound : init.Sound := ⟨fun c => by cases c <;> rfl, rfl⟩

lemma Sound.onLane {s s' : Shutdown} {e : LaneEvent} (hs : s.Sound)
    (hl : s.lane.Effect e s'.lane) (hrun : s'.runner = s.runner) : s'.Sound := by
  constructor
  · intro c
    have hc := hs.conserved c
    have hbalance := hl.balance c
    rw [hrun]
    omega
  · rw [hl.batchCap, hs.batchCap]

lemma Effect.sound {s s' : Shutdown} {e : ShutdownEvent} (h : Effect s e s') (hs : s.Sound) :
    s'.Sound := by
  cases h with
  | idle e he hl hrun hin => exact ⟨by rw [hl, hin]; exact hs.conserved, by rw [hl, hs.batchCap]⟩
  | record x hlive hl hrun => exact hs.onLane hl hrun
  | recordEvents now n m c hl hrun => exact hs.onLane hl hrun
  | opens hl hrun => exact hs.onLane hl hrun
  | task i e hl hrun => exact hs.onLane hl hrun
  | flush now left hleft hin hl hrun =>
    refine ⟨?_, by rw [hl]; exact hs.batchCap⟩
    intro c
    have hsum := s.lane.buffer.drain_owed now c
    have hc := hs.conserved c
    have hsame : s'.lane.outstanding = s.lane.outstanding := by rw [hl]; rfl
    simp only [hin, Option.toList_none, owedAll_nil] at hc
    rw [hsame, hl]
    rcases hrun with ⟨hempty, -, hin'⟩ | ⟨-, hin'⟩
    · rw [Drained.owed_eq_zero_of_isEmpty hempty] at hsum
      simp only [hin', Option.toList_none, owedAll_nil]
      omega
    · simp only [hin', Option.toList_some, owedAll_singleton]
      omega
  | flushed batch hin hin' hrun hl =>
    refine ⟨?_, by rw [hl]; exact hs.batchCap⟩
    intro c
    have hc := hs.conserved c
    have hsame : s'.lane.outstanding = s.lane.outstanding := by rw [hl]; rfl
    rw [hin] at hc
    rw [hsame, hl, hin']
    simp only [Option.toList, owedAll_nil, owedAll_singleton, owedAll_append] at hc ⊢
    omega

/-! ### The flush -/

/-- After its last metrics drain, `flush_remaining` leaves nothing owed by the buffer. -/
def Settled (s : Shutdown) : Prop :=
  s.runner.drainsLeft = 0 → ∀ c, s.lane.buffer.owed c = 0

/-- A drain that finds nothing leaves nothing owed. -/
lemma Sound.afterDrain_owed_of_isEmpty {s : Shutdown} (hs : s.Sound) {now : DateTime}
    (h : (s.lane.buffer.drained now).isEmpty = true) (c : Bool) :
    s.lane.buffer.afterDrain.owed c = 0 := by
  have hlen := s.lane.buffer.drained_length now
  have hcap : s.lane.buffer.batchCap = 500 := hs.batchCap
  simp only [Drained.isEmpty, Bool.and_eq_true, List.isEmpty_iff] at h
  rw [h.1.1.1, List.length_nil] at hlen
  exact MetricsBuffer.afterDrain_owed_eq_zero _ (by omega) c

lemma Effect.settled {s s' : Shutdown} {e : ShutdownEvent} (h : Effect s e s') (hs : s.Sound)
    (hsettled : s.Settled) (htime : s.InTime e) : s'.Settled := by
  intro h0 c
  cases h with
  | idle e he hl hrun hin => rw [hl]; exact hsettled (hrun ▸ h0) c
  | record x hlive hl hrun =>
    rw [hrun, runner_eq_live hlive] at h0
    cases h0
  | recordEvents now n m k hl hrun =>
    cases hl with
    | recordEvents _ _ _ _ hb ho hr hh =>
      rw [hb, recordEvents_owed]
      exact hsettled (hrun ▸ h0) c
  | opens hl hrun =>
    cases hl with
    | spawn hb ho hr hh => rw [hb]; exact hsettled (hrun ▸ h0) c
  | task i e hl hrun =>
    rw [hrun] at h0
    have hzero := hsettled h0 c
    cases hl with
    | task _ _ held held' out xs ys hheld he ho ho' hr hh =>
      have hmove := he.owed c
      generalize s'.lane.buffer = b' at he hmove ⊢
      cases he with
      | returned e d hcause =>
        have hd : d.owed c = 0 := by
          rcases hcause with rfl | rfl <;> exact htime h0 d hheld c
        rw [dropInFlight_owed, hzero, hd]
      | handedOver d => exact hzero
      | _ =>
        simp only [Option.toList_none, owedAll_nil] at hmove
        omega
  | flush now left hleft hin hl hrun =>
    rw [hl]
    rcases hrun with ⟨hempty, -, -⟩ | ⟨hleft', -⟩
    · exact hs.afterDrain_owed_of_isEmpty hempty c
    · exact MetricsBuffer.afterDrain_owed_eq_zero _ (htime (by omega)) c
  | flushed batch hin hin' hrun hl => rw [hl]; exact hsettled (hrun ▸ h0) c

instance (s : Shutdown) : ∀ e, Decidable (s.InTime e)
  | .task i .abort | .task i .sendFails =>
    inferInstanceAs (Decidable (_ → ∀ d ∈ s.lane.held i, ∀ c, d.owed c = 0))
  | .flush _ => inferInstanceAs (Decidable (_ → _))
  | .task _ .tick | .task _ .early | .task _ .spaced | .task _ (.drain _) | .task _ .sent
  | .record _ | .recordEvents _ _ _ _ | .recordLog _ | .drainLogs | .opens | .ends | .trigger
  | .teardown | .flushed => .isTrue trivial

lemma outstanding_eq_nil {l : Lane} (h : ∀ p ∈ l.tasks, p.isStopped = true) :
    l.outstanding = [] := by
  rw [Lane.outstanding, List.filterMap_eq_nil_iff]
  intro p hp
  have := h p hp
  cases p <;> first | rfl | cases this

/-- Once `flush_remaining` has returned and all flush tasks are gone, the ring is empty, the drop
counters are zero, and every recorded sample is in a report handed over or counted in one. -/
theorem flush_leaves_nothing_owed (es : List ShutdownEvent) (s : Shutdown)
    (h : exec step init es = some s) (hmeet : StepsMeet step InTime init es)
    (hreturned : s.runner = .returned) (hgone : ∀ p ∈ s.lane.tasks, p.isStopped = true) :
    s.lane.buffer.buf.samples = [] ∧ s.lane.buffer.droppedOverflow = 0 ∧
      s.lane.buffer.droppedNonBillable = 0 ∧
      ∀ c, count c s.lane.recorded =
        (s.lane.handed.map fun d => count c d.samples + d.dropped c).sum := by
  obtain ⟨hs, hsettled⟩ : s.Sound ∧ s.Settled :=
    exec_induction (I := fun s => s.Sound ∧ s.Settled)
      (fun _ _ _ hI hC hstep =>
        ⟨(step_effect hstep).sound hI.1, (step_effect hstep).settled hI.1 hI.2 hC⟩)
      ⟨init_sound, fun h0 => by cases h0⟩ hmeet h
  have hzero := hsettled (by rw [hreturned]; rfl)
  refine ⟨MetricsBuffer.samples_eq_nil_of_owed hzero, ?_, ?_, ?_⟩
  · exact Nat.eq_zero_of_add_eq_zero_left (hzero true)
  · exact Nat.eq_zero_of_add_eq_zero_left (hzero false)
  · intro c
    have hc := hs.conserved c
    rw [outstanding_eq_nil hgone, hreturned, hzero c] at hc
    exact hc

/-- The flush task is dropped, and returns the call it holds, before `flush_remaining` drains. -/
theorem flush_leaves_nothing_owed_early_drop :
    let es : List ShutdownEvent := [.opens, .record (.plain "github" "list_repos" .ok 5),
      .task 0 .tick, .task 0 (.drain 0), .trigger, .teardown, .task 0 .abort, .flush 0, .flushed,
      .flush 0, .flush 0]
    ∃ s, exec step init es = some s ∧ StepsMeet step InTime init es ∧
      s.lane.buffer.buf.samples = [] ∧ s.lane.buffer.droppedOverflow = 0 ∧
      s.lane.buffer.droppedNonBillable = 0 ∧
      ∀ c, count c s.lane.recorded =
        (s.lane.handed.map fun d => count c d.samples + d.dropped c).sum := by
  intro es
  have hrun : ∃ s, exec step init es = some s ∧ s.runner = .returned ∧
      ∀ p ∈ s.lane.tasks, p.isStopped = true := ⟨_, rfl, rfl, by decide⟩
  obtain ⟨s, hs, hreturned, hgone⟩ := hrun
  have hmeet : StepsMeet step InTime init es := by decide
  exact ⟨s, hs, hmeet, flush_leaves_nothing_owed es s hs hmeet hreturned hgone⟩

/-- The flush task is dropped after `flush_remaining` has returned: the call it held is back in the
ring, and no report has it. -/
theorem late_drop_leaves_a_call :
    ∃ s, exec step init [.opens, .record (.plain "github" "list_repos" .ok 5), .task 0 .tick,
        .task 0 (.drain 0), .trigger, .teardown, .flush 0, .flush 0, .task 0 .abort] = some s ∧
      s.runner = .returned ∧ (∀ p ∈ s.lane.tasks, p.isStopped = true) ∧
      s.lane.buffer.buf.samples.length = 1 ∧ s.lane.handed.length = 0 ∧
      ¬ (s.lane.buffer.buf.samples = [] ∧ s.lane.buffer.droppedOverflow = 0 ∧
        s.lane.buffer.droppedNonBillable = 0 ∧
        ∀ c, count c s.lane.recorded =
          (s.lane.handed.map fun d => count c d.samples + d.dropped c).sum) :=
  ⟨_, rfl, rfl, by decide, rfl, rfl, fun h => List.cons_ne_nil _ _ h.1⟩

end Shutdown

end ControlPlaneClient
