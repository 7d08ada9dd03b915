import ControlPlaneClient.Metrics.Order
import ControlPlaneClient.Metrics.Traffic
import ControlPlaneClient.Session.RunLoop
import ControlPlaneClient.Session.Shutdown

/-!
# What `finished` means

The run loop together with the buffers it is to ship, the flush tasks of its sessions and
`flush_remaining`. `run_loop` sets `shutdown_finished` when it reads `stopping` at the top of its
loop. The flush is made at the end of a session, and only of one that established its Channel: a
`trigger` during a sleep, or before a session that cannot connect, is followed by no flush.
-/

namespace ControlPlaneClient

open Transition

/-- `flush_remaining` has been called and not returned. -/
def RunnerPhase.underWay : RunnerPhase → Bool
  | .drainingMetrics _ | .sendingMetrics _ _ | .drainingLogs _ | .sendingLogs _ _ _ _ => true
  | .live | .triggered | .returned => false

def RunnerPhase.isReturned : RunnerPhase → Bool
  | .returned => true
  | _         => false

lemma RunnerPhase.eq_returned {p : RunnerPhase} (h : p.isReturned = true) : p = .returned := by
  cases p <;> first | rfl | cases h

/-- Between the check of `stopping` at the top of the loop and the one at the end of the session. -/
def LoopPc.heeds : LoopPc → Bool
  | .expiry | .registering .session | .requesting .session | .connecting | .opening _ _
  | .established | .parked _ | .tearingDown _ => true
  | _ => false

def LoopPc.isFlushing : LoopPc → Bool
  | .flushing _ => true
  | _           => false

/-- `run_loop` has read `stopping` at the top of its loop. -/
def LoopPc.leaving : LoopPc → Bool
  | .finishing | .announcing | .stopped => true
  | _                                   => false

lemma LoopPc.away_of_leaving {pc : LoopPc} (h : pc.leaving = true) :
    pc.heeds = false ∧ pc.isFlushing = false := by
  cases pc <;> first | exact ⟨rfl, rfl⟩ | cases h

/-- The metrics and log rings are empty and nothing is counted as dropped. -/
def Shutdown.isEmpty (s : Shutdown) : Bool :=
  s.lane.buffer.buf.samples.isEmpty && s.lane.buffer.droppedOverflow == 0 &&
    s.lane.buffer.droppedNonBillable == 0 && s.logs.buf.isEmpty && s.logs.droppedOverflow == 0

/-- The events of the buffers and of `flush_remaining`. The run loop makes the others. -/
def ShutdownEvent.ofBuffers : ShutdownEvent → Bool
  | .recordEvents _ _ _ _ | .recordLog _ | .drainLogs | .task _ _ | .flush _ | .flushed => true
  | .record _ | .opens | .ends | .trigger | .teardown                                  => false

/-! ### Samples from before a moment -/

/-- The batch of a task is returned to the buffer, if it holds one. -/
def FlushEvent.returns : FlushEvent → Bool
  | .abort | .sendFails => true
  | _                   => false

/-- All these samples came as number `m` or later. -/
def From (m : ℕ) (xs : List Arrival) : Prop := ∀ a ∈ xs, m ≤ a.number

lemma From.sublist {m : ℕ} {xs ys : List Arrival} (h : From m ys) (hsub : xs.Sublist ys) :
    From m xs :=
  fun a ha => h a (hsub.subset ha)

lemma From.append {m : ℕ} {xs ys : List Arrival} (hxs : From m xs) (hys : From m ys) :
    From m (xs ++ ys) := by
  intro a ha
  rcases List.mem_append.mp ha with ha | ha
  · exact hxs a ha
  · exact hys a ha

/-- A ring with no sample from before `m` gets one only from a batch that comes back. -/
lemma Lane.Effect.from {l l' : Lane} {e : LaneEvent} (h : l.Effect e l') {m : ℕ}
    (hm : m ≤ l.recorded.length) (hring : From m l.buffer.buf.samples)
    (hback : ∀ i f, e = .task i f → f.returns = true → ∀ d ∈ l.held i, From m d.samples) :
    From m l'.buffer.buf.samples := by
  cases h with
  | record s hb ho hr hh =>
    rw [hb]
    refine (hring.append ?_).sublist (MetricsBuffer.record_sublist _ _)
    intro a ha
    rw [List.mem_singleton.mp ha]
    exact hm
  | recordEvents now n k c hb ho hr hh => rw [hb, MetricsBuffer.recordEvents_buf]; exact hring
  | spawn hb ho hr hh => rw [hb]; exact hring
  | task i e held held' out xs ys hheld he ho ho' hr hh =>
    generalize l'.buffer = b' at he ⊢
    cases he with
    | idle e permit => exact hring
    | took now hne => exact hring.sublist (List.drop_sublist _ _)
    | tookNothing now hempty => exact hring.sublist (List.drop_sublist _ _)
    | handedOver d => exact hring
    | returned e d hcause =>
      have hreturns : e.returns = true := by
        rcases hcause with rfl | rfl <;> rfl
      exact ((hback i e rfl hreturns d hheld).append hring).sublist
        (MetricsBuffer.dropInFlight_sublist _ d)

lemma Lane.Effect.recorded_length_le {l l' : Lane} {e : LaneEvent} (h : l.Effect e l') :
    l.recorded.length ≤ l'.recorded.length := by
  cases h with
  | record s hb ho hr hh => rw [hr, List.length_append]; exact Nat.le_add_right _ _
  | recordEvents now n k c hb ho hr hh => rw [hr]
  | spawn hb ho hr hh => rw [hr]
  | task i e held held' out xs ys hheld he ho ho' hr hh => rw [hr]

/-! ### The buffers -/

namespace Shutdown

variable {s s' : Shutdown} {e : ShutdownEvent}

/-- What an event does to the buffers and to `flush_remaining`. -/
structure Move (s : Shutdown) (e : ShutdownEvent) (s' : Shutdown) : Prop where
  batchCap : s'.lane.buffer.batchCap = s.lane.buffer.batchCap
  recorded : s.lane.recorded.length ≤ s'.lane.recorded.length
  runner   : s'.runner = s.runner ∨
    (s.runner.underWay = true ∧ (s'.runner.underWay = true ∨ s'.runner.isReturned = true))
  ring     : ∀ m, m ≤ s.lane.recorded.length → From m s.lane.buffer.buf.samples →
    (∀ i f, e = .task i f → f.returns = true → ∀ d ∈ s.lane.held i, From m d.samples) →
    From m s'.lane.buffer.buf.samples

lemma onLane_move {e' : LaneEvent} (h : s.onLane e' = some s')
    (hback : ∀ i f, e' = .task i f → e = .task i f) : Move s e s' := by
  obtain ⟨hl, hrun⟩ := onLane_eq_some h
  refine ⟨hl.batchCap, hl.recorded_length_le, Or.inl hrun, ?_⟩
  intro m hm hring hret
  exact hl.from hm hring fun i f hf => hret i f (hback i f hf)

/-- An event that leaves the metrics as they are. -/
lemma Move.of_lane (hl : s'.lane = s.lane) (hrun : s'.runner = s.runner ∨
    (s.runner.underWay = true ∧ (s'.runner.underWay = true ∨ s'.runner.isReturned = true))) :
    Move s e s' :=
  ⟨by rw [hl], by rw [hl], hrun, fun m _ hring _ => by rw [hl]; exact hring⟩

lemma afterMetrics_underWay (left : ℕ) : (afterMetrics left).underWay = true := by
  cases left <;> rfl

lemma afterLogs_underWay (left : ℕ) :
    (afterLogs left).underWay = true ∨ (afterLogs left).isReturned = true := by
  cases left with
  | zero => exact Or.inr rfl
  | succ left => exact Or.inl rfl

lemma step_move (h : s.step e = some s') (he : e.ofBuffers = true) : Move s e s' := by
  cases e with
  | record x => cases he
  | opens => cases he
  | ends => cases he
  | trigger => cases he
  | teardown => cases he
  | recordEvents now n m c => exact onLane_move h nofun
  | recordLog line => cases h; exact .of_lane rfl (Or.inl rfl)
  | drainLogs => cases h; exact .of_lane rfl (Or.inl rfl)
  | task i f =>
    simp only [step] at h
    split at h
    · refine onLane_move h ?_
      intro j g hjg
      cases hjg
      rfl
    · cases h
  | flush now =>
    simp only [step] at h
    split at h
    · rename_i left hrun
      cases h
      refine ⟨rfl, le_rfl, Or.inr ⟨by rw [hrun]; rfl, ?_⟩, ?_⟩
      · dsimp only
        split <;> exact Or.inl rfl
      · intro m _ hring _
        exact hring.sublist (List.drop_sublist _ _)
    · rename_i left hrun
      cases h
      refine .of_lane rfl (Or.inr ⟨by rw [hrun]; rfl, ?_⟩)
      dsimp only
      split
      · exact Or.inr rfl
      · exact Or.inl rfl
    · cases h
  | flushed =>
    simp only [step] at h
    split at h
    · rename_i left batch hrun
      cases h
      refine ⟨rfl, le_rfl, Or.inr ⟨by rw [hrun]; rfl, ?_⟩, fun m _ hring _ => hring⟩
      exact Or.inl (afterMetrics_underWay left)
    · rename_i left lines dropped seq hrun
      cases h
      exact .of_lane rfl (Or.inr ⟨by rw [hrun]; rfl, afterLogs_underWay left⟩)
    · cases h

/-- How an event of the buffers can be the last metrics drain. -/
lemma step_drainsLeft (h : s.step e = some s') (he : e.ofBuffers = true)
    (h0 : s'.runner.drainsLeft = 0) :
    s.runner.drainsLeft = 0 ∨
      s'.lane.buffer.buf.samples = s.lane.buffer.afterDrain.buf.samples ∧
        ∃ now, e = .flush now ∧
          ((s.lane.buffer.drained now).isEmpty = true ∨ s.runner.drainsLeft = 1) := by
  cases step_effect h with
  | idle e he' hl hrun hin => exact Or.inl (hrun ▸ h0)
  | record x hlive hl hrun => cases he
  | recordEvents now n m c hl hrun => exact Or.inl (hrun ▸ h0)
  | opens hl hrun => cases he
  | task i e hl hrun => exact Or.inl (hrun ▸ h0)
  | flush now left hleft hin hl hrun =>
    refine Or.inr ⟨by rw [hl], now, rfl, ?_⟩
    rcases hrun with ⟨hempty, -, -⟩ | ⟨hleft', -⟩
    · exact Or.inl hempty
    · exact Or.inr (by omega)
  | flushed batch hin hin' hrun hl => exact Or.inl (hrun ▸ h0)

end Shutdown

/-- The first `trigger` comes between the two checks of `stopping`, and the session it is for is
established. -/
def RunLoop.SessionHeeds {QuotaStatus : Type} (s : RunLoop QuotaStatus) : LoopEvent → Prop
  | .triggerStore => s.stopping = true ∨ s.pc.heeds = true
  | .connect reached => s.stopping = true →
    ((s.runner.client.connect reached).bind AgentClient.authedClient).isSome = true
  | .openFails _ => s.stopping = false
  | _ => True

/-- An agent with its buffers. -/
structure AgentRun (QuotaStatus : Type) where
  loop        : RunLoop QuotaStatus
  shut        : Shutdown
  /-- How many samples were recorded before the first `trigger`. -/
  mark        : ℕ
  /-- A `flush_remaining` ran to completion. -/
  complete    : Bool
  /-- The buffers were empty when `run_loop` read `stopping` at the top of its loop. -/
  emptyAtStop : Bool

inductive RunEvent
  | loop (e : LoopEvent)
  | record (x : ToolCallSample)
  | buffers (e : ShutdownEvent)
  /-- The pending send of `flush_remaining` fails: the outbound channel is closed. -/
  | flushFails

namespace AgentRun

variable {QuotaStatus : Type} (env : LoopEnv)

def start (creds : Option StoredCreds) : AgentRun QuotaStatus :=
  ⟨.start env creds, .init, 0, false, false⟩

/-- What a step of the run loop does to the rest of the agent. -/
def follow (s : AgentRun QuotaStatus) (loop : RunLoop QuotaStatus) :
    LoopEvent → Option (AgentRun QuotaStatus)
  | .triggerStore =>
    some { s with
      loop := loop
      mark := if s.loop.stopping then s.mark else s.shut.lane.recorded.length }
  | .check =>
    some { s with
      loop := loop
      emptyAtStop := if s.loop.stopping then s.shut.isEmpty else s.emptyAtStop }
  | .opened =>
    -- The flush task of the session is spawned.
    (({ s.shut with current := some s.shut.lane.tasks.length }).onLane .spawn).map fun shut =>
      { s with loop := loop, shut := shut }
  | .teardown =>
    if s.loop.stopping then
      some { s with
        loop := loop
        shut := { s.shut with runner := .drainingMetrics (maxShutdownFlushBatches - 1) } }
    else some { s with loop := loop, shut := { s.shut with current := none } }
  | .flushed => if s.shut.runner.isReturned then some { s with loop := loop } else none
  | _ => some { s with loop := loop }

def step (s : AgentRun QuotaStatus) : RunEvent → Option (AgentRun QuotaStatus)
  | .loop e => (s.loop.step env e).bind fun loop => s.follow loop e
  | .record x => (s.shut.onLane (.record x)).map fun shut => { s with shut := shut }
  | .buffers e =>
    if e.ofBuffers then
      (s.shut.step e).map fun shut =>
        { s with
          shut := shut
          complete := s.complete || (s.shut.runner.underWay && shut.runner.isReturned) }
    else none
  | .flushFails =>
    match s.shut.runner with
    | .sendingMetrics _ _ | .sendingLogs _ _ _ _ =>
      some { s with shut := { s.shut with runner := .returned } }
    | _ => none

/-! ### Conditions -/

/-- What has to hold of a step for a shutdown to be flushed. The first `trigger` comes between the
two checks of `stopping`, the session it is for is established, and no send of the flush fails. No
task returns a sample from before the `trigger` after the last metrics drain, and the last drain
allowed leaves none. -/
def Heeded (s : AgentRun QuotaStatus) : RunEvent → Prop
  | .loop e => s.loop.SessionHeeds e
  | .flushFails => False
  | .buffers (.task i f) => f.returns = true → s.shut.runner.drainsLeft = 0 →
    ∀ d ∈ s.shut.lane.held i, From s.mark d.samples
  | .buffers (.flush _) => s.shut.runner.drainsLeft = 1 →
    From s.mark (s.shut.lane.buffer.buf.samples.drop s.shut.lane.buffer.batchCap)
  | _ => True

/-- What has to hold of a step for a shutdown to need no flush. The buffers are empty when
`run_loop` reads `stopping` at the top of its loop, and no task returns a sample from before the
`trigger` after that. -/
def StopsEmpty (s : AgentRun QuotaStatus) : RunEvent → Prop
  | .loop .check => s.loop.stopping = true → s.shut.isEmpty = true
  | .buffers (.task i f) => f.returns = true → s.loop.pc.leaving = true →
    ∀ d ∈ s.shut.lane.held i, From s.mark d.samples
  | _ => True

/-! ### Every run -/

/-- What a step of the run loop does about stopping. -/
structure StopMove (s : RunLoop QuotaStatus) (e : LoopEvent) (s' : RunLoop QuotaStatus) : Prop where
  stopping : s.stopping = true → s'.stopping = true
  leaving  : s'.pc.leaving = true → s.pc.leaving = true ∨ (s.stopping = true ∧ e = .check)
  stays    : s.pc.leaving = true → s'.pc.leaving = true
  finished : s'.finished = true → s.finished = true ∨ s'.pc.leaving = true

/-- A step to a point from which `run_loop` may go on. -/
lemma StopMove.goes {s s' : RunLoop QuotaStatus} {e : LoopEvent} (hstop : s'.stopping = s.stopping)
    (hfin : s'.finished = s.finished) (hpc : s.pc.leaving = false) (hpc' : s'.pc.leaving = false) :
    StopMove s e s' := by
  constructor
  · rw [hstop]; exact id
  · intro h; rw [hpc'] at h; cases h
  · intro h; rw [hpc] at h; cases h
  · rw [hfin]; exact Or.inl

/-- A step that stays where it is. -/
lemma StopMove.stay {s s' : RunLoop QuotaStatus} {e : LoopEvent}
    (hstop : s.stopping = true → s'.stopping = true) (hfin : s'.finished = s.finished)
    (hpc : s'.pc = s.pc) : StopMove s e s' := by
  refine ⟨hstop, ?_, ?_, ?_⟩
  · rw [hpc]; exact Or.inl
  · rw [hpc]; exact id
  · rw [hfin]; exact Or.inl

lemma settle_not_leaving (s : RunLoop QuotaStatus) (result : SessionResult) :
    (RunLoop.settle env s result).pc.leaving = false :=
  RunLoop.settle_induction env s result rfl fun _ _ => rfl

lemma settle_stopping (s : RunLoop QuotaStatus) (result : SessionResult) :
    (RunLoop.settle env s result).stopping = s.stopping ∧
      (RunLoop.settle env s result).finished = s.finished :=
  RunLoop.settle_induction env s result ⟨rfl, rfl⟩ fun _ _ => ⟨rfl, rfl⟩

lemma stopMove {s s' : RunLoop QuotaStatus} {e : LoopEvent} (h : RunLoop.Effect env s e s') :
    StopMove s e s' := by
  have at_pc : ∀ {pc : LoopPc}, s.pc = pc → pc.leaving = false → s.pc.leaving = false :=
    fun hpc h => hpc ▸ h
  cases h with
  | triggerStore => exact .stay (fun _ => rfl) rfl rfl
  | triggerNotify h => exact .stay id rfl rfl
  | check hpc =>
    refine ⟨id, ?_, ?_, Or.inl⟩
    · intro h
      cases hs : s.stopping with
      | true => exact Or.inr ⟨rfl, rfl⟩
      | false =>
        rw [hs] at h
        cases h
    · intro h
      rw [hpc] at h
      cases h
  | expiry expired hpc =>
    refine .goes rfl rfl (at_pc hpc rfl) ?_
    dsimp only
    split <;> rfl
  | registerConnect reached next client hpc hc => exact .goes rfl rfl (at_pc hpc rfl) rfl
  | registerUnreached reached next hpc hc => exact .stay id rfl rfl
  | registerFails next hpc => exact .goes rfl rfl (at_pc hpc rfl) rfl
  | registered resp now next hpc => cases next <;> exact .goes rfl rfl (at_pc hpc rfl) rfl
  | connectFails reached hpc hc => exact .goes rfl rfl (at_pc hpc rfl) rfl
  | connectNoToken reached client hpc hc ha => exact .goes rfl rfl (at_pc hpc rfl) rfl
  | connect reached client t jwt hpc hc ha => exact .goes rfl rfl (at_pc hpc rfl) rfl
  | openFails e t jwt hpc => exact .goes rfl rfl (at_pc hpc rfl) rfl
  | opened t jwt hpc => exact .goes rfl rfl (at_pc hpc rfl) rfl
  | park hpc => exact .goes rfl rfl (at_pc hpc rfl) rfl
  | rotation cr stored wait hpc hjwt => exact .stay id rfl rfl
  | rotationIgnored cr stored wait hpc hjwt => exact .stay id rfl rfl
  | inboundEnds result wait hpc => exact .goes rfl rfl (at_pc hpc rfl) rfl
  | notified wait hpc hd => exact .goes rfl rfl (at_pc hpc rfl) rfl
  | teardown result hpc =>
    refine .goes rfl rfl (at_pc hpc rfl) ?_
    dsimp only
    split <;> rfl
  | flushed result hpc => exact .goes rfl rfl (at_pc hpc rfl) rfl
  | settle result hpc =>
    obtain ⟨hstop, hfin⟩ := settle_stopping env s result
    exact .goes hstop hfin (at_pc hpc rfl) (settle_not_leaving env s result)
  | wake register hpc => cases register <;> exact .goes rfl rfl (at_pc hpc rfl) rfl
  | finish hpc =>
    refine ⟨id, fun _ => Or.inl ?_, fun _ => rfl, fun _ => Or.inr rfl⟩
    rw [hpc]
    rfl
  | announce hpc =>
    refine ⟨id, fun _ => Or.inl ?_, fun _ => rfl, Or.inl⟩
    rw [hpc]
    rfl

/-- What holds in every run. -/
structure Basic (s : AgentRun QuotaStatus) : Prop where
  leaving  : s.loop.pc.leaving = true → s.loop.stopping = true
  finished : s.loop.finished = true → s.loop.pc.leaving = true
  marked   : s.mark ≤ s.shut.lane.recorded.length
  batchCap : s.shut.lane.buffer.batchCap = MetricsBuffer.defaultBatchCap

/-- What a step of the run loop leaves of the rest. -/
structure Followed (s : AgentRun QuotaStatus) (e : LoopEvent) (loop : RunLoop QuotaStatus)
    (s' : AgentRun QuotaStatus) : Prop where
  loop     : s'.loop = loop
  buffer   : s'.shut.lane.buffer = s.shut.lane.buffer
  recorded : s'.shut.lane.recorded = s.shut.lane.recorded
  complete : s'.complete = s.complete
  mark     : s'.mark = s.mark ∨
    (s.loop.stopping = false ∧ s'.mark = s.shut.lane.recorded.length)
  empty    : s'.emptyAtStop = s.emptyAtStop ∨ e = .check

lemma follow_followed {s s' : AgentRun QuotaStatus} {loop : RunLoop QuotaStatus} {e : LoopEvent}
    (h : s.follow loop e = some s') : Followed s e loop s' := by
  unfold follow at h
  split at h
  · cases h
    refine ⟨rfl, rfl, rfl, rfl, ?_, Or.inl rfl⟩
    cases hs : s.loop.stopping with
    | true => exact Or.inl rfl
    | false => exact Or.inr ⟨rfl, rfl⟩
  · cases h; exact ⟨rfl, rfl, rfl, rfl, Or.inl rfl, Or.inr rfl⟩
  · obtain ⟨shut, hshut, rfl⟩ := Option.map_eq_some_iff.mp h
    cases hshut
    exact ⟨rfl, rfl, rfl, rfl, Or.inl rfl, Or.inl rfl⟩
  · split at h
    · cases h; exact ⟨rfl, rfl, rfl, rfl, Or.inl rfl, Or.inl rfl⟩
    · cases h; exact ⟨rfl, rfl, rfl, rfl, Or.inl rfl, Or.inl rfl⟩
  · split at h
    · cases h; exact ⟨rfl, rfl, rfl, rfl, Or.inl rfl, Or.inl rfl⟩
    · cases h
  · cases h; exact ⟨rfl, rfl, rfl, rfl, Or.inl rfl, Or.inl rfl⟩

/-- Steps of the buffers, of whatever kind. -/
lemma Basic.buffers {s : AgentRun QuotaStatus} (hs : s.Basic) {shut : Shutdown} {e : ShutdownEvent}
    (hmove : s.shut.Move e shut) (complete : Bool) :
    ({ s with shut := shut, complete := complete } : AgentRun QuotaStatus).Basic :=
  ⟨hs.leaving, hs.finished, hs.marked.trans hmove.recorded, hmove.batchCap.trans hs.batchCap⟩

/-- All that a step can do. -/
inductive Effect (s : AgentRun QuotaStatus) : RunEvent → AgentRun QuotaStatus → Prop
  | loop (e : LoopEvent) (loop : RunLoop QuotaStatus) {s' : AgentRun QuotaStatus}
      (hl : RunLoop.Effect env s.loop e loop) (hf : s.follow loop e = some s') :
      Effect s (.loop e) s'
  | record (x : ToolCallSample) (shut : Shutdown) (hmove : s.shut.Move (.record x) shut)
      (hrun : shut.runner = s.shut.runner) : Effect s (.record x) { s with shut := shut }
  | buffers (e : ShutdownEvent) (shut : Shutdown) (he : e.ofBuffers = true)
      (h : s.shut.step e = some shut) :
      Effect s (.buffers e)
        { s with
          shut := shut
          complete := s.complete || (s.shut.runner.underWay && shut.runner.isReturned) }
  | flushFails : Effect s .flushFails { s with shut := { s.shut with runner := .returned } }

lemma step_effect {s s' : AgentRun QuotaStatus} {e : RunEvent} (h : s.step env e = some s') :
    Effect env s e s' := by
  cases e with
  | loop e =>
    obtain ⟨loop, hloop, h⟩ := Option.bind_eq_some_iff.mp h
    exact .loop e loop (RunLoop.step_effect env hloop) h
  | record x =>
    simp only [step] at h
    obtain ⟨shut, hshut, rfl⟩ := Option.map_eq_some_iff.mp h
    exact .record x shut (Shutdown.onLane_move hshut nofun) (Shutdown.onLane_eq_some hshut).2
  | buffers e =>
    simp only [step] at h
    split at h
    · obtain ⟨shut, hshut, rfl⟩ := Option.map_eq_some_iff.mp h
      exact .buffers e shut ‹_› hshut
    · cases h
  | flushFails =>
    simp only [step] at h
    split at h
    · cases h; exact .flushFails
    · cases h; exact .flushFails
    · cases h

lemma Effect.basic {s s' : AgentRun QuotaStatus} {e : RunEvent} (h : Effect env s e s')
    (hs : s.Basic) : s'.Basic := by
  cases h with
  | loop e loop hl hf =>
    have hmove := stopMove env hl
    have hf := follow_followed hf
    constructor
    · rw [hf.loop]
      intro hl
      exact hmove.stopping ((hmove.leaving hl).elim hs.leaving And.left)
    · rw [hf.loop]
      intro hfin
      exact (hmove.finished hfin).elim (fun h => hmove.stays (hs.finished h)) id
    · rw [hf.recorded]
      rcases hf.mark with h | ⟨-, h⟩
      · rw [h]; exact hs.marked
      · rw [h]
    · rw [hf.buffer]
      exact hs.batchCap
  | record x shut hmove hrun => exact hs.buffers hmove s.complete
  | buffers e shut he h => exact hs.buffers (Shutdown.step_move h he) _
  | flushFails => exact ⟨hs.leaving, hs.finished, hs.marked, hs.batchCap⟩

lemma start_basic (creds : Option StoredCreds) : (start env creds : AgentRun QuotaStatus).Basic := by
  refine ⟨?_, nofun, le_rfl, rfl⟩
  intro h
  cases creds with
  | some creds => cases h
  | none =>
    simp only [start, RunLoop.start] at h
    split at h <;> cases h

/-! ### A shutdown that is heeded -/

/-- Once `stopping` is set, the session that will flush is under way, or the flush is, or it is
complete; and after its last metrics drain the ring has no sample from before the `trigger`. -/
structure Heard (s : AgentRun QuotaStatus) : Prop where
  quiet   : s.loop.stopping = false → s.shut.runner = .live ∧ s.complete = false
  fresh   : s.loop.pc.heeds = true → s.shut.runner = .live ∧ s.complete = false
  heard   : s.loop.stopping = true → s.loop.pc.heeds = true ∨
    (s.loop.pc.isFlushing = true ∧ s.shut.runner.underWay = true) ∨ s.complete = true
  done    : s.complete = true → s.shut.runner.isReturned = true
  cleared : s.loop.stopping = true → s.shut.runner.drainsLeft = 0 →
    From s.mark s.shut.lane.buffer.buf.samples

/-- What a step of the run loop does that is heeded and leaves the flush alone. -/
structure HeedMove (s s' : RunLoop QuotaStatus) : Prop where
  stopping : s'.stopping = s.stopping
  enters   : s'.pc.heeds = true → s.pc.heeds = true ∨ s.stopping = false
  stays    : s.stopping = true → s.pc.heeds = true → s'.pc.heeds = true
  flushing : s.pc.isFlushing = true → s'.pc.isFlushing = true

namespace HeedMove

variable {s s' : RunLoop QuotaStatus}

/-- A step that stays where it is. -/
lemma stay (hstop : s'.stopping = s.stopping) (hpc : s'.pc = s.pc) : HeedMove s s' := by
  refine ⟨hstop, ?_, ?_, ?_⟩
  · rw [hpc]; exact Or.inl
  · rw [hpc]; exact fun _ => id
  · rw [hpc]; exact id

/-- A step between points that are both, or neither, between the two checks. -/
lemma along (hstop : s'.stopping = s.stopping) (hpc : s'.pc.heeds = s.pc.heeds)
    (hflush : s.pc.isFlushing = false) : HeedMove s s' := by
  refine ⟨hstop, ?_, ?_, ?_⟩
  · rw [hpc]; exact Or.inl
  · rw [hpc]; exact fun _ => id
  · intro h; rw [hflush] at h; cases h

/-- A step that leaves the session with `stopping` unset. -/
lemma fails (hstop : s'.stopping = s.stopping) (hunset : s.stopping = false)
    (hflush : s.pc.isFlushing = false) : HeedMove s s' := by
  refine ⟨hstop, fun _ => Or.inr hunset, ?_, ?_⟩
  · intro h; rw [hunset] at h; cases h
  · intro h; rw [hflush] at h; cases h

end HeedMove

lemma settle_not_heeds (s : RunLoop QuotaStatus) (result : SessionResult) :
    (RunLoop.settle env s result).pc.heeds = false :=
  RunLoop.settle_induction env s result rfl fun _ _ => rfl

lemma heedMove {s s' : RunLoop QuotaStatus} {e : LoopEvent} (h : RunLoop.Effect env s e s')
    (hheeds : s.SessionHeeds e) (hstore : e ≠ .triggerStore) (hteardown : e ≠ .teardown)
    (hflushed : e ≠ .flushed) : HeedMove s s' := by
  have unset : ¬ s.stopping = true → s.stopping = false := Bool.eq_false_iff.mpr
  cases h with
  | triggerStore => exact absurd rfl hstore
  | triggerNotify h => exact .stay rfl rfl
  | check hpc =>
    cases hstop : s.stopping with
    | true => exact .along hstop.symm (by rw [hpc]; rfl) (by rw [hpc]; rfl)
    | false => exact .fails hstop.symm hstop (by rw [hpc]; rfl)
  | expiry expired hpc =>
    refine .along rfl ?_ (by rw [hpc]; rfl)
    rw [hpc]
    dsimp only
    split <;> rfl
  | registerConnect reached next client hpc hc =>
    refine .along rfl ?_ (by rw [hpc]; rfl)
    rw [hpc]
    cases next <;> rfl
  | registerUnreached reached next hpc hc => exact .stay rfl rfl
  | registerFails next hpc =>
    refine .along rfl ?_ (by rw [hpc]; rfl)
    rw [hpc]
    cases next <;> rfl
  | registered resp now next hpc =>
    refine .along rfl ?_ (by rw [hpc]; rfl)
    rw [hpc]
    cases next <;> rfl
  | connectFails reached hpc hc =>
    refine .fails rfl (unset ?_) (by rw [hpc]; rfl)
    intro hstop
    have hopen := hheeds hstop
    rw [hc] at hopen
    cases hopen
  | connectNoToken reached client hpc hc ha =>
    refine .fails rfl (unset ?_) (by rw [hpc]; rfl)
    intro hstop
    have hopen := hheeds hstop
    rw [hc, Option.bind_some, ha] at hopen
    cases hopen
  | connect reached client t jwt hpc hc ha => exact .along rfl (by rw [hpc]; rfl) (by rw [hpc]; rfl)
  | openFails e t jwt hpc => exact .fails rfl hheeds (by rw [hpc]; rfl)
  | opened t jwt hpc => exact .along rfl (by rw [hpc]; rfl) (by rw [hpc]; rfl)
  | park hpc => exact .along rfl (by rw [hpc]; rfl) (by rw [hpc]; rfl)
  | rotation cr stored wait hpc hjwt => exact .stay rfl rfl
  | rotationIgnored cr stored wait hpc hjwt => exact .stay rfl rfl
  | inboundEnds result wait hpc => exact .along rfl (by rw [hpc]; rfl) (by rw [hpc]; rfl)
  | notified wait hpc hd => exact .along rfl (by rw [hpc]; rfl) (by rw [hpc]; rfl)
  | teardown result hpc => exact absurd rfl hteardown
  | flushed result hpc => exact absurd rfl hflushed
  | settle result hpc =>
    refine .along (settle_stopping env s result).1 ?_ (by rw [hpc]; rfl)
    rw [settle_not_heeds, hpc]
    rfl
  | wake register hpc =>
    refine .along rfl ?_ (by rw [hpc]; rfl)
    rw [hpc]
    cases register <;> rfl
  | finish hpc => exact .along rfl (by rw [hpc]; rfl) (by rw [hpc]; rfl)
  | announce hpc => exact .along rfl (by rw [hpc]; rfl) (by rw [hpc]; rfl)

/-- Steps of the run loop that leave the flush and the ring alone. -/
lemma Heard.framed {s s' : AgentRun QuotaStatus} (hs : s.Heard) (hmove : HeedMove s.loop s'.loop)
    (hbuffer : s'.shut.lane.buffer = s.shut.lane.buffer)
    (hrunner : s'.shut.runner = s.shut.runner) (hcomplete : s'.complete = s.complete)
    (hmark : s'.mark = s.mark) : s'.Heard := by
  constructor
  · intro h
    rw [hrunner, hcomplete]
    exact hs.quiet (hmove.stopping.symm.trans h)
  · intro h
    rw [hrunner, hcomplete]
    exact (hmove.enters h).elim hs.fresh hs.quiet
  · intro h
    have hstop := hmove.stopping.symm.trans h
    rw [hrunner, hcomplete]
    rcases hs.heard hstop with h | ⟨hflushing, hunder⟩ | h
    · exact Or.inl (hmove.stays hstop h)
    · exact Or.inr (Or.inl ⟨hmove.flushing hflushing, hunder⟩)
    · exact Or.inr (Or.inr h)
  · rw [hrunner, hcomplete]
    exact hs.done
  · intro h
    rw [hrunner, hbuffer, hmark]
    exact hs.cleared (hmove.stopping.symm.trans h)

lemma Heard.triggerStore {s : AgentRun QuotaStatus} (hs : s.Heard)
    (hheeds : s.loop.SessionHeeds .triggerStore) :
    ({ s with
      loop := { s.loop with stopping := true, triggering := s.loop.triggering + 1 }
      mark := if s.loop.stopping then s.mark else s.shut.lane.recorded.length } :
        AgentRun QuotaStatus).Heard := by
  cases hstop : s.loop.stopping with
  | true => exact ⟨nofun, hs.fresh, fun _ => hs.heard hstop, hs.done, fun _ => hs.cleared hstop⟩
  | false =>
    obtain ⟨hlive, -⟩ := hs.quiet hstop
    have hpc : s.loop.pc.heeds = true := hheeds.resolve_left (by rw [hstop]; exact Bool.false_ne_true)
    refine ⟨nofun, hs.fresh, fun _ => Or.inl hpc, hs.done, ?_⟩
    intro _ h0
    dsimp only at h0
    rw [hlive] at h0
    cases h0

/-- The flush begins. -/
lemma Heard.teardown {s : AgentRun QuotaStatus} {result : SessionResult} (hs : s.Heard)
    (hpc : s.loop.pc = .tearingDown result) (hstop : s.loop.stopping = true) :
    ({ s with
      loop := { s.loop with pc := .flushing result }
      shut := { s.shut with runner := .drainingMetrics (maxShutdownFlushBatches - 1) } } :
        AgentRun QuotaStatus).Heard := by
  obtain ⟨-, hcomplete⟩ := hs.fresh (by rw [hpc]; rfl)
  refine ⟨?_, nofun, fun _ => Or.inr (Or.inl ⟨rfl, rfl⟩), ?_, nofun⟩
  · intro h
    dsimp only at h
    rw [hstop] at h
    cases h
  · intro h
    dsimp only at h
    rw [hcomplete] at h
    cases h

/-- The flush has returned, and so it is complete. -/
lemma Heard.flushed {s : AgentRun QuotaStatus} {result : SessionResult} (hs : s.Heard)
    (hpc : s.loop.pc = .flushing result) (hreturned : s.shut.runner.isReturned = true) :
    ({ s with loop := { s.loop with pc := .ended result } } : AgentRun QuotaStatus).Heard := by
  refine ⟨hs.quiet, nofun, ?_, hs.done, hs.cleared⟩
  intro hstop
  rcases hs.heard hstop with h | ⟨-, hunder⟩ | h
  · rw [hpc] at h
    cases h
  · rw [RunnerPhase.eq_returned hreturned] at hunder
    cases hunder
  · exact Or.inr (Or.inr h)

lemma Heard.loop {s s' : AgentRun QuotaStatus} {loop : RunLoop QuotaStatus} {e : LoopEvent}
    (hs : s.Heard) (hheeds : s.loop.SessionHeeds e) (h : RunLoop.Effect env s.loop e loop)
    (hf : s.follow loop e = some s') : s'.Heard := by
  unfold follow at hf
  split at hf
  · cases hf
    cases h with
    | triggerStore => exact hs.triggerStore hheeds
  · cases hf
    exact hs.framed (heedMove env h hheeds nofun nofun nofun) rfl rfl rfl rfl
  · obtain ⟨shut, hshut, rfl⟩ := Option.map_eq_some_iff.mp hf
    cases hshut
    exact hs.framed (heedMove env h hheeds nofun nofun nofun) rfl rfl rfl rfl
  · cases h with
    | teardown result hpc =>
      split at hf
      · cases hf
        exact hs.teardown hpc ‹_›
      · rename_i hstop
        cases hf
        have hunset := Bool.eq_false_iff.mpr hstop
        exact hs.framed (.fails rfl hunset (by rw [hpc]; rfl)) rfl rfl rfl rfl
  · cases h with
    | flushed result hpc =>
      split at hf
      · cases hf
        exact hs.flushed hpc ‹_›
      · cases hf
  · cases hf
    exact hs.framed (heedMove env h hheeds ‹_› ‹_› ‹_›) rfl rfl rfl rfl

/-- A record, from whichever thread. -/
lemma Heard.record {s : AgentRun QuotaStatus} {x : ToolCallSample} {shut : Shutdown} (hs : s.Heard)
    (hbasic : s.Basic) (hmove : s.shut.Move (.record x) shut)
    (hrun : shut.runner = s.shut.runner) : ({ s with shut := shut } : AgentRun QuotaStatus).Heard := by
  constructor
  · rw [hrun]; exact hs.quiet
  · rw [hrun]; exact hs.fresh
  · rw [hrun]; exact hs.heard
  · rw [hrun]; exact hs.done
  · intro hstop h0
    rw [hrun] at h0
    exact hmove.ring s.mark hbasic.marked (hs.cleared hstop h0) nofun

/-- The drain after which `flush_remaining` makes no other leaves no sample from before the
`trigger`. -/
lemma Heard.cleared_of_drain {s : AgentRun QuotaStatus} {now : DateTime} (hbasic : s.Basic)
    (hheeded : s.Heeded (.buffers (.flush now)))
    (hlast : (s.shut.lane.buffer.drained now).isEmpty = true ∨ s.shut.runner.drainsLeft = 1) :
    From s.mark s.shut.lane.buffer.afterDrain.buf.samples := by
  rcases hlast with hempty | hone
  · have hlen := s.shut.lane.buffer.drained_length now
    have hcap : s.shut.lane.buffer.batchCap = 500 := hbasic.batchCap
    simp only [Drained.isEmpty, Bool.and_eq_true, List.isEmpty_iff] at hempty
    rw [hempty.1.1.1, List.length_nil] at hlen
    have hnone : s.shut.lane.buffer.buf.samples = [] := List.length_eq_zero_iff.mp (by omega)
    intro a ha
    simp [MetricsBuffer.afterDrain, hnone] at ha
  · refine (hheeded hone).sublist ?_
    rcases min_choice s.shut.lane.buffer.buf.samples.length s.shut.lane.buffer.batchCap with h | h
    · rw [MetricsBuffer.afterDrain]
      dsimp only
      rw [h, List.drop_length]
      exact List.nil_sublist _
    · rw [MetricsBuffer.afterDrain]
      dsimp only
      rw [h]

lemma Heard.buffers {s : AgentRun QuotaStatus} {e : ShutdownEvent} {shut : Shutdown} (hs : s.Heard)
    (hbasic : s.Basic) (hheeded : s.Heeded (.buffers e)) (he : e.ofBuffers = true)
    (h : s.shut.step e = some shut) :
    ({ s with
      shut := shut
      complete := s.complete || (s.shut.runner.underWay && shut.runner.isReturned) } :
        AgentRun QuotaStatus).Heard := by
  have hmove := Shutdown.step_move h he
  -- `flush_remaining` moves only while it is under way.
  have idle : s.shut.runner.underWay = false →
      shut.runner = s.shut.runner ∧
        (s.complete || (s.shut.runner.underWay && shut.runner.isReturned)) = s.complete := by
    intro hnot
    refine ⟨hmove.runner.resolve_right fun hr => ?_, by rw [hnot, Bool.false_and, Bool.or_false]⟩
    rw [hnot] at hr
    cases hr.1
  have live : s.shut.runner = .live ∧ s.complete = false → shut.runner = .live ∧
      (s.complete || (s.shut.runner.underWay && shut.runner.isReturned)) = false := by
    rintro ⟨hlive, hcomplete⟩
    obtain ⟨hrun, hc⟩ := idle (by rw [hlive]; rfl)
    exact ⟨hrun.trans hlive, hc.trans hcomplete⟩
  refine ⟨fun h => live (hs.quiet h), fun h => live (hs.fresh h), ?_, ?_, ?_⟩
  · intro hstop
    rcases hs.heard hstop with h | ⟨hflushing, hunder⟩ | h
    · exact Or.inl h
    · rcases hmove.runner with hr | ⟨-, hr | hr⟩
      · exact Or.inr (Or.inl ⟨hflushing, by rw [hr]; exact hunder⟩)
      · exact Or.inr (Or.inl ⟨hflushing, hr⟩)
      · exact Or.inr (Or.inr (Bool.or_eq_true_iff.mpr (Or.inr (by rw [hunder, hr]; rfl))))
    · exact Or.inr (Or.inr (Bool.or_eq_true_iff.mpr (Or.inl h)))
  · intro hc
    rcases Bool.or_eq_true_iff.mp hc with hc | hc
    · have hreturned := hs.done hc
      rw [(idle (by rw [RunnerPhase.eq_returned hreturned]; rfl)).1]
      exact hreturned
    · exact (Bool.and_eq_true_iff.mp hc).2
  · intro hstop h0
    rcases Shutdown.step_drainsLeft h he h0 with hzero | ⟨hring, now, rfl, hlast⟩
    · refine hmove.ring s.mark hbasic.marked (hs.cleared hstop hzero) ?_
      rintro i f rfl hreturns
      exact hheeded hreturns hzero
    · rw [hring]
      exact Heard.cleared_of_drain hbasic hheeded hlast

lemma Effect.heard {s s' : AgentRun QuotaStatus} {e : RunEvent} (h : Effect env s e s')
    (hbasic : s.Basic) (hs : s.Heard) (hheeded : s.Heeded e) : s'.Heard := by
  cases h with
  | loop e loop hl hf => exact hs.loop env hheeded hl hf
  | record x shut hmove hrun => exact hs.record hbasic hmove hrun
  | buffers e shut he h => exact hs.buffers hbasic hheeded he h
  | flushFails => exact hheeded.elim

lemma start_heard (creds : Option StoredCreds) : (start env creds : AgentRun QuotaStatus).Heard :=
  ⟨fun _ => ⟨rfl, rfl⟩, fun _ => ⟨rfl, rfl⟩, nofun, nofun, nofun⟩

/-! ### A shutdown with nothing to flush -/

/-- Once `run_loop` has read `stopping`, the ring has no sample from before the `trigger`. -/
structure Emptied (s : AgentRun QuotaStatus) : Prop where
  empty   : s.loop.pc.leaving = true → s.emptyAtStop = true
  cleared : s.loop.pc.leaving = true → From s.mark s.shut.lane.buffer.buf.samples

lemma samples_eq_nil_of_isEmpty {s : Shutdown} (h : s.isEmpty = true) :
    s.lane.buffer.buf.samples = [] := by
  simp only [Shutdown.isEmpty, Bool.and_eq_true, List.isEmpty_iff] at h
  exact h.1.1.1.1

lemma Emptied.loop {s s' : AgentRun QuotaStatus} {loop : RunLoop QuotaStatus} {e : LoopEvent}
    (hs : s.Emptied) (hbasic : s.Basic) (hempty : s.StopsEmpty (.loop e))
    (h : RunLoop.Effect env s.loop e loop) (hf : s.follow loop e = some s') : s'.Emptied := by
  have hmove := stopMove env h
  have hfollowed := follow_followed hf
  by_cases hcheck : e = .check
  · subst hcheck
    cases h with
    | check hpc =>
      cases hf
      cases hstop : s.loop.stopping with
      | true => exact ⟨fun _ => hempty hstop, fun _ => by
          rw [samples_eq_nil_of_isEmpty (hempty hstop)]
          exact fun _ ha => (List.not_mem_nil ha).elim⟩
      | false => exact ⟨nofun, nofun⟩
  · have hleaving : loop.pc.leaving = true → s.loop.pc.leaving = true := fun hl =>
      (hmove.leaving hl).resolve_right fun h => hcheck h.2
    constructor
    · rw [hfollowed.loop, hfollowed.empty.resolve_right hcheck]
      exact fun hl => hs.empty (hleaving hl)
    · rw [hfollowed.loop, hfollowed.buffer]
      intro hl
      have hmark : s'.mark = s.mark := by
        refine hfollowed.mark.resolve_right ?_
        rintro ⟨hunset, -⟩
        rw [hbasic.leaving (hleaving hl)] at hunset
        cases hunset
      rw [hmark]
      exact hs.cleared (hleaving hl)

lemma Effect.emptied {s s' : AgentRun QuotaStatus} {e : RunEvent} (h : Effect env s e s')
    (hbasic : s.Basic) (hs : s.Emptied) (hempty : s.StopsEmpty e) : s'.Emptied := by
  cases h with
  | loop e loop hl hf => exact hs.loop env hbasic hempty hl hf
  | record x shut hmove hrun =>
    exact ⟨hs.empty, fun hl => hmove.ring s.mark hbasic.marked (hs.cleared hl) nofun⟩
  | buffers e shut he h =>
    refine ⟨hs.empty, fun hl => ?_⟩
    refine (Shutdown.step_move h he).ring s.mark hbasic.marked (hs.cleared hl) ?_
    rintro i f rfl hreturns
    exact hempty hreturns hl
  | flushFails => exact ⟨hs.empty, hs.cleared⟩

lemma start_emptied (creds : Option StoredCreds) :
    (start env creds : AgentRun QuotaStatus).Emptied := by
  have hnot : (start env creds : AgentRun QuotaStatus).loop.pc.leaving ≠ true := by
    intro h
    cases (start_basic env creds).leaving h
  exact ⟨fun h => absurd h hnot, fun h => absurd h hnot⟩

/-! ### Finished -/

/-- In a run whose shutdown is heeded, or finds the buffers empty, `finished` means flushed: a
`flush_remaining` ran to completion after `stopping` was set, or the buffers were empty when
`run_loop` stopped, and no sample recorded before the `trigger` is in the buffer. -/
theorem finished_means_flushed (creds : Option StoredCreds) (es : List RunEvent)
    (s : AgentRun QuotaStatus) (h : exec (step env) (start env creds) es = some s)
    (hmeet : StepsMeet (step env) Heeded (start env creds : AgentRun QuotaStatus) es ∨
      StepsMeet (step env) StopsEmpty (start env creds : AgentRun QuotaStatus) es)
    (hfinished : s.loop.finished = true) :
    (s.complete = true ∨ s.emptyAtStop = true) ∧
      ∀ a ∈ s.shut.lane.buffer.buf.samples, s.mark ≤ a.number := by
  rcases hmeet with hmeet | hmeet
  · obtain ⟨hbasic, hheard⟩ : s.Basic ∧ s.Heard :=
      exec_induction (I := fun s => s.Basic ∧ s.Heard)
        (fun _ _ _ hI hC hstep => ⟨(step_effect env hstep).basic env hI.1,
          (step_effect env hstep).heard env hI.1 hI.2 hC⟩)
        ⟨start_basic env creds, start_heard env creds⟩ hmeet h
    have hleaving := hbasic.finished hfinished
    have hstop := hbasic.leaving hleaving
    have hcomplete : s.complete = true := by
      rcases hheard.heard hstop with h | ⟨h, -⟩ | h
      · rw [(LoopPc.away_of_leaving hleaving).1] at h
        cases h
      · rw [(LoopPc.away_of_leaving hleaving).2] at h
        cases h
      · exact h
    refine ⟨Or.inl hcomplete, hheard.cleared hstop ?_⟩
    rw [RunnerPhase.eq_returned (hheard.done hcomplete)]
    rfl
  · obtain ⟨hbasic, hemptied⟩ : s.Basic ∧ s.Emptied :=
      exec_induction (I := fun s => s.Basic ∧ s.Emptied)
        (fun _ _ _ hI hC hstep => ⟨(step_effect env hstep).basic env hI.1,
          (step_effect env hstep).emptied env hI.1 hI.2 hC⟩)
        ⟨start_basic env creds, start_emptied env creds⟩ hmeet h
    have hleaving := hbasic.finished hfinished
    exact ⟨Or.inr (hemptied.empty hleaving), hemptied.cleared hleaving⟩

instance From.decidable (m : ℕ) (xs : List Arrival) : Decidable (From m xs) :=
  inferInstanceAs (Decidable (∀ a ∈ xs, m ≤ a.number))

instance sessionHeeds_decidable (s : RunLoop QuotaStatus) : ∀ e, Decidable (s.SessionHeeds e)
  | .triggerStore => inferInstanceAs (Decidable (_ ∨ _))
  | .connect _ => inferInstanceAs (Decidable (_ → _))
  | .openFails _ => inferInstanceAs (Decidable (_ = _))
  | .triggerNotify | .check | .expiry _ | .registerConnect _ | .registerFails | .registered _ _
  | .opened | .park | .rotation _ _ | .inboundEnds _ | .notified | .teardown | .flushed | .settle
  | .wake | .finish | .announce => .isTrue trivial

instance heeded_decidable (s : AgentRun QuotaStatus) : ∀ e, Decidable (s.Heeded e)
  | .loop e => sessionHeeds_decidable s.loop e
  | .flushFails => .isFalse id
  | .buffers (.task i _) =>
    inferInstanceAs (Decidable (_ → _ → ∀ d ∈ s.shut.lane.held i, From s.mark d.samples))
  | .buffers (.flush _) => inferInstanceAs (Decidable (_ → From _ _))
  | .record _ | .buffers (.record _) | .buffers (.recordEvents _ _ _ _) | .buffers (.recordLog _)
  | .buffers .drainLogs | .buffers .opens | .buffers .ends | .buffers .trigger
  | .buffers .teardown | .buffers .flushed => .isTrue trivial

/-- A call is buffered when the shutdown is asked for in the session, and the session ships it. -/
theorem finished_means_flushed_in_session :
    let es : List RunEvent := [.record (sampleCall .ok), .loop .check, .loop (.expiry false),
      .loop (.connect true), .loop .opened, .loop .park, .loop .triggerStore, .loop .triggerNotify,
      .loop .notified, .loop .teardown, .buffers (.flush 0), .buffers .flushed, .buffers (.flush 0),
      .buffers (.flush 0), .loop .flushed, .loop .settle, .loop .check, .loop .finish]
    ∃ s : AgentRun Unit,
      exec (step RunLoop.sampleLoop) (start RunLoop.sampleLoop (some sampleCreds)) es = some s ∧
      StepsMeet (step RunLoop.sampleLoop) Heeded
        (start RunLoop.sampleLoop (some sampleCreds) : AgentRun Unit) es ∧
      s.loop.finished = true ∧ s.shut.lane.handed.length = 1 ∧
      (s.complete = true ∨ s.emptyAtStop = true) ∧
      ∀ a ∈ s.shut.lane.buffer.buf.samples, s.mark ≤ a.number := by
  intro es
  have hrun : ∃ s : AgentRun Unit,
      exec (step RunLoop.sampleLoop) (start RunLoop.sampleLoop (some sampleCreds)) es = some s ∧
      s.loop.finished = true ∧ s.shut.lane.handed.length = 1 := ⟨_, rfl, rfl, rfl⟩
  obtain ⟨s, hs, hfinished, hhanded⟩ := hrun
  have hmeet : StepsMeet (step RunLoop.sampleLoop) Heeded
      (start RunLoop.sampleLoop (some sampleCreds) : AgentRun Unit) es := by decide
  exact ⟨s, hs, hmeet, hfinished, hhanded, finished_means_flushed RunLoop.sampleLoop
    (some sampleCreds) es s hs (Or.inl hmeet) hfinished⟩

/-- The shutdown is asked for while `run_loop` sleeps after a session that could not connect: it
finishes with the call in the buffer, and no flush was made. -/
theorem finished_without_flush :
    ∃ s : AgentRun Unit,
      exec (step RunLoop.sampleLoop) (start RunLoop.sampleLoop (some sampleCreds))
        [.record (sampleCall .ok), .loop .check, .loop (.expiry false), .loop (.connect false),
          .loop .settle, .loop .triggerStore, .loop .triggerNotify, .loop .wake, .loop .check,
          .loop .finish] = some s ∧
      s.loop.finished = true ∧ s.mark = 1 ∧
      s.shut.lane.buffer.buf.samples.map Arrival.number = [0] ∧
      ¬ ((s.complete = true ∨ s.emptyAtStop = true) ∧
        ∀ a ∈ s.shut.lane.buffer.buf.samples, s.mark ≤ a.number) := by
  refine ⟨_, rfl, rfl, rfl, rfl, ?_⟩
  rintro ⟨hflushed, -⟩
  rcases hflushed with h | h
  · cases h
  · cases h

end AgentRun

end ControlPlaneClient
