import ControlPlaneClient.Metrics.Conservation

/-!
# Sessions, their outbound queue and the transport

Each session of `run_session` opens a bounded `mpsc` queue. The flush task, and the tasks for
heartbeats, logs, status and acks, push messages into it while it has room; the transport takes
them one at a time. When the session ends, by an error or a closed stream, the queue is discarded
with what it still holds, the tasks are aborted, and each is dropped at some later moment of the
runtime's choosing. The metrics buffer outlives the sessions.

That the queue is discarded is an assumption about the transport. It may still deliver what is queued
after the session is over, as long as the other side keeps reading.
-/

namespace ControlPlaneClient

open Transition

/-- The slots of a session's outbound queue. -/
def outboundCap : ℕ := 64

/-- A message in the outbound queue: a metrics report, by the batch it was built from, or a message
of another task. -/
inductive Outbound
  | metrics (d : Drained Arrival)
  | other (m : AgentMessage)

def Outbound.batch? : Outbound → Option (Drained Arrival)
  | .metrics d => some d
  | .other _   => none

/-- An open session: its queue, and which task of the lane is its flush loop. -/
structure OpenSession where
  queue : List Outbound
  task  : ℕ

/-- The agent's metrics lane across sessions. `taken` is the history of the metrics reports the
transport took. -/
structure Sessions where
  lane  : Lane
  live  : Option OpenSession
  taken : List (Drained Arrival)

inductive SessionEvent
  | record (s : ToolCallSample)
  | recordEvents (now : DateTime) (eventName mode : String) (counts : EventCounts)
  /-- The Channel is established and the flush task spawned. -/
  | opens
  | task (i : ℕ) (e : FlushEvent)
  /-- Another task of the session sends a message. -/
  | enqueue (m : AgentMessage)
  /-- The transport takes the next message. -/
  | take
  /-- The session ends with an error or a closed stream. -/
  | ends

def SessionEvent.isEnd : SessionEvent → Bool
  | .ends => true
  | _     => false

namespace Sessions

def init (cap batchCap : ℕ) : Sessions := ⟨Lane.init cap batchCap, none, []⟩

/-- The batches whose reports wait in the queue. -/
def queued (s : Sessions) : List (Drained Arrival) :=
  match s.live with
  | some o => o.queue.filterMap Outbound.batch?
  | none   => []

/-- The task belongs to the open session. -/
def isLive (s : Sessions) (i : ℕ) : Bool := s.live.any fun o => o.task == i

/-- A step of the lane that does not touch the queue. -/
def onLane (s : Sessions) (e : LaneEvent) : Option Sessions :=
  (s.lane.step e).map fun lane => { s with lane := lane }

def step (s : Sessions) : SessionEvent → Option Sessions
  | .record x => s.onLane (.record x)
  | .recordEvents now n m c => s.onLane (.recordEvents now n m c)
  | .opens =>
    match s.live with
    | some _ => none
    | none   => do
      let lane ← s.lane.step .spawn
      some { s with lane := lane, live := some ⟨[], s.lane.tasks.length⟩ }
  -- A send completes once the task's own session is open and its queue has room.
  | .task i .sent => do
    let o ← s.live
    let d ← s.lane.held i
    let lane ← s.lane.step (.task i .sent)
    if o.task = i ∧ o.queue.length < outboundCap then
      some { s with lane := lane, live := some { o with queue := o.queue ++ [.metrics d] } }
    else none
  -- A send fails, and a task is aborted, only when its session is over.
  | .task i .sendFails => if s.isLive i then none else s.onLane (.task i .sendFails)
  | .task i .abort => if s.isLive i then none else s.onLane (.task i .abort)
  | .task i e => s.onLane (.task i e)
  | .enqueue m => do
    let o ← s.live
    if o.queue.length < outboundCap then
      some { s with live := some { o with queue := o.queue ++ [.other m] } }
    else none
  | .take => do
    let o ← s.live
    match o.queue with
    | []     => none
    | m :: q =>
      some { s with live := some { o with queue := q }, taken := s.taken ++ m.batch?.toList }
  | .ends => do
    let _ ← s.live
    some { s with live := none }

/-! ### What a step does -/

/-- All that a step can do to the lane, the reports in the queue and the reports taken. -/
inductive Effect (s : Sessions) : SessionEvent → Sessions → Prop
  /-- A step of the lane that hands nothing over. -/
  | lane (e : SessionEvent) (le : LaneEvent) {s' : Sessions}
      (hstep : s.lane.step le = some s'.lane) (hh : s'.lane.handed = s.lane.handed)
      (hq : s'.queued = s.queued) (ht : s'.taken = s.taken) (he : e.isEnd = false) : Effect s e s'
  | sent (i : ℕ) (d : Drained Arrival) {s' : Sessions}
      (hstep : s.lane.step (.task i .sent) = some s'.lane)
      (hh : s'.lane.handed = s.lane.handed ++ [d]) (hq : s'.queued = s.queued ++ [d])
      (ht : s'.taken = s.taken) : Effect s (.task i .sent) s'
  | enqueue (m : AgentMessage) {s' : Sessions} (hl : s'.lane = s.lane)
      (hq : s'.queued = s.queued) (ht : s'.taken = s.taken) : Effect s (.enqueue m) s'
  | take (ds : List (Drained Arrival)) {s' : Sessions} (hl : s'.lane = s.lane)
      (hq : s.queued = ds ++ s'.queued) (ht : s'.taken = s.taken ++ ds) : Effect s .take s'
  | ends {s' : Sessions} (hl : s'.lane = s.lane) (hq : s'.queued = [])
      (ht : s'.taken = s.taken) : Effect s .ends s'

/-- Only a completed send hands a batch over, and it hands over the one in flight. -/
lemma lane_task_handed {l l' : Lane} {i : ℕ} {e : FlushEvent}
    (h : l.step (.task i e) = some l') :
    (e ≠ .sent → l'.handed = l.handed) ∧
    (e = .sent → ∀ d, l.held i = some d → l'.handed = l.handed ++ [d]) := by
  cases Lane.step_effect h with
  | task _ _ held held' out xs ys hheld he ho ho' hr hh =>
    rw [hheld, hh]
    generalize l'.buffer = b' at he
    cases he with
    | idle e permit => exact ⟨fun _ => List.append_nil _, fun _ d hd => by cases hd⟩
    | took now hne => exact ⟨fun _ => List.append_nil _, fun he => by cases he⟩
    | tookNothing now hempty => exact ⟨fun _ => List.append_nil _, fun he => by cases he⟩
    | handedOver d => exact ⟨fun he => absurd rfl he, fun _ d hd => by cases hd; rfl⟩
    | returned e d he =>
      refine ⟨fun _ => List.append_nil _, ?_⟩
      intro hsent
      subst hsent
      simp at he

lemma step_effect {s s' : Sessions} {e : SessionEvent} (h : s.step e = some s') :
    Effect s e s' := by
  cases e with
  | record x => cases h; exact .lane _ (.record x) rfl rfl rfl rfl rfl
  | recordEvents now n m c =>
    cases h
    exact .lane _ (.recordEvents now n m c) rfl rfl rfl rfl rfl
  | opens =>
    simp only [step] at h
    split at h
    · cases h
    · rename_i hlive
      cases h
      exact .lane _ .spawn rfl rfl (by simp [queued, hlive]) rfl rfl
  | task i fe =>
    by_cases hsent : fe = .sent
    · subst hsent
      simp only [step, Option.bind_eq_bind, Option.bind_eq_some_iff] at h
      obtain ⟨o, ho, d, hd, lane, hlane, h⟩ := h
      split at h <;> cases h
      exact .sent i d hlane ((lane_task_handed hlane).2 rfl d hd)
        (by simp [queued, ho, Outbound.batch?]) rfl
    · have hlane : s.onLane (.task i fe) = some s' := by
        cases fe with
        | sent => exact absurd rfl hsent
        | sendFails | abort =>
          simp only [step] at h
          split at h
          · cases h
          · exact h
        | _ => exact h
      obtain ⟨lane, hstep, rfl⟩ := Option.map_eq_some_iff.mp hlane
      exact .lane _ (.task i fe) hstep ((lane_task_handed hstep).1 hsent) rfl rfl rfl
  | enqueue m =>
    simp only [step, Option.bind_eq_bind, Option.bind_eq_some_iff] at h
    obtain ⟨o, ho, h⟩ := h
    split at h <;> cases h
    exact .enqueue m rfl (by simp [queued, ho, Outbound.batch?]) rfl
  | take =>
    simp only [step, Option.bind_eq_bind, Option.bind_eq_some_iff] at h
    obtain ⟨o, ho, h⟩ := h
    split at h
    · cases h
    · rename_i m q hq
      cases h
      refine .take m.batch?.toList rfl ?_ rfl
      cases m <;> simp [queued, ho, hq, List.filterMap_cons, Outbound.batch?]
  | ends =>
    simp only [step, Option.bind_eq_bind, Option.bind_eq_some_iff] at h
    obtain ⟨o, ho, h⟩ := h
    cases h
    exact .ends rfl rfl rfl

/-! ### Balance -/

/-- Of the billable samples handed over, none is lost: each is in a report that the transport took
or that waits in the queue of the open session. -/
def Balanced (s : Sessions) : Prop :=
  owedAll s.lane.handed true = owedAll s.taken true + owedAll s.queued true

/-- A session ends only when nothing billable waits in its queue. -/
def NothingBillableQueued (s : Sessions) (e : SessionEvent) : Prop :=
  e.isEnd → ∀ d ∈ s.queued, d.owed true = 0

instance (s : Sessions) (e : SessionEvent) : Decidable (s.NothingBillableQueued e) :=
  inferInstanceAs (Decidable (_ → _))

/-- The lane conserves, and no report is counted twice. -/
structure Sound (s : Sessions) : Prop where
  conserved : s.lane.Conserved
  bound     : owedAll s.taken true + owedAll s.queued true ≤ owedAll s.lane.handed true

lemma Effect.sound {s s' : Sessions} {e : SessionEvent} (h : Effect s e s') (hs : s.Sound) :
    s'.Sound := by
  have hbound := hs.bound
  cases h with
  | lane e le hstep hh hq ht he =>
    exact ⟨(Lane.step_effect hstep).conserved hs.conserved, by rwa [hh, hq, ht]⟩
  | sent i d hstep hh hq ht =>
    refine ⟨(Lane.step_effect hstep).conserved hs.conserved, ?_⟩
    rw [hh, hq, ht, owedAll_append, owedAll_append]
    omega
  | enqueue m hl hq ht => exact ⟨hl ▸ hs.conserved, by rwa [hl, hq, ht]⟩
  | take ds hl hq ht =>
    refine ⟨hl ▸ hs.conserved, ?_⟩
    rw [hq, owedAll_append] at hbound
    rw [hl, ht, owedAll_append]
    omega
  | ends hl hq ht =>
    refine ⟨hl ▸ hs.conserved, ?_⟩
    rw [hl, hq, ht, owedAll_nil]
    omega

lemma owedAll_eq_zero_iff (ds : List (Drained Arrival)) (c : Bool) :
    owedAll ds c = 0 ↔ ∀ d ∈ ds, d.owed c = 0 := by
  simp [owedAll, List.sum_eq_zero_iff]

/-- What a session discards is lost for good, and nothing else is. -/
lemma Effect.balanced_iff {s s' : Sessions} {e : SessionEvent} (h : Effect s e s') (hs : s.Sound) :
    s'.Balanced ↔ s.Balanced ∧ s.NothingBillableQueued e := by
  have hbound := hs.bound
  simp only [Balanced, NothingBillableQueued]
  cases h with
  | lane e le hstep hh hq ht he => simp [hh, hq, ht, he]
  | sent i d hstep hh hq ht =>
    simp only [hh, hq, ht, owedAll_append, SessionEvent.isEnd, Bool.false_eq_true, false_implies,
      and_true]
    omega
  | enqueue m hl hq ht => simp [hl, hq, ht, SessionEvent.isEnd]
  | take ds hl hq ht =>
    simp only [hl, hq, ht, owedAll_append, SessionEvent.isEnd, Bool.false_eq_true, false_implies,
      and_true]
    omega
  | ends hl hq ht =>
    rw [hl, hq, ht, owedAll_nil, ← owedAll_eq_zero_iff]
    simp only [SessionEvent.isEnd, forall_const]
    omega

lemma init_sound (cap batchCap : ℕ) : (init cap batchCap).Sound :=
  ⟨Lane.init_conserved cap batchCap, le_rfl⟩

/-- Between sessions every billable sample is in a report the transport took, or still owed by the
buffer or by a batch on its way, exactly when no session ended with something billable queued. -/
theorem billable_accounted_iff (cap batchCap : ℕ) (es : List SessionEvent) (s : Sessions)
    (h : exec step (init cap batchCap) es = some s) (hlive : s.live = none) :
    count true s.lane.recorded =
        (s.taken.map fun d => count true d.samples + d.droppedOverflow).sum +
        (s.lane.outstanding.map fun d => count true d.samples + d.droppedOverflow).sum +
        count true s.lane.buffer.buf.samples + s.lane.buffer.droppedOverflow ↔
      StepsMeet step NothingBillableQueued (init cap batchCap) es := by
  have hsound : s.Sound := exec_invariant (fun _ _ _ hs hstep => (step_effect hstep).sound hs)
    (init_sound cap batchCap) h
  have hiff : s.Balanced ↔ _ := exec_iff_stepsMeet (C := NothingBillableQueued) (P := Balanced)
    (fun _ _ _ hs hstep => (step_effect hstep).sound hs)
    (fun _ _ _ hs hstep => (step_effect hstep).balanced_iff hs) (init_sound cap batchCap) h
  have hinit : (init cap batchCap).Balanced := rfl
  rw [and_iff_right hinit] at hiff
  rw [← hiff, Balanced]
  have hqueued : s.queued = [] := by simp [queued, hlive]
  have hcons := hsound.conserved true
  have hbuffer : s.lane.buffer.owed true =
      count true s.lane.buffer.buf.samples + s.lane.buffer.droppedOverflow := rfl
  have hall : ∀ ds : List (Drained Arrival),
      (ds.map fun d => count true d.samples + d.droppedOverflow).sum = owedAll ds true :=
    fun ds => rfl
  rw [hqueued, owedAll_nil, hall, hall]
  omega

/-- The transport takes the report of a billable call before the session ends. -/
theorem billable_accounted_iff_shipped :
    let es : List SessionEvent := [.opens, .record (.plain "github" "list_repos" .ok 5),
      .task 0 .tick, .task 0 (.drain 0), .task 0 .sent, .take, .ends, .task 0 .abort]
    ∃ s, exec step (init 5000 500) es = some s ∧ s.live = none ∧
      StepsMeet step NothingBillableQueued (init 5000 500) es ∧
      count true s.lane.recorded =
        (s.taken.map fun d => count true d.samples + d.droppedOverflow).sum +
        (s.lane.outstanding.map fun d => count true d.samples + d.droppedOverflow).sum +
        count true s.lane.buffer.buf.samples + s.lane.buffer.droppedOverflow := by
  intro es
  have hrun : ∃ s, exec step (init 5000 500) es = some s ∧ s.live = none := ⟨_, rfl, rfl⟩
  obtain ⟨s, hs, hlive⟩ := hrun
  have hmeet : StepsMeet step NothingBillableQueued (init 5000 500) es := by decide
  exact ⟨s, hs, hlive, hmeet, (billable_accounted_iff 5000 500 es s hs hlive).mpr hmeet⟩

/-- The session ends while the report of a billable call is still queued: the call was recorded and
is nowhere any more. -/
theorem queued_report_lost :
    ∃ s, exec step (init 5000 500) [.opens, .record (.plain "github" "list_repos" .ok 5),
        .task 0 .tick, .task 0 (.drain 0), .task 0 .sent, .ends, .task 0 .abort] = some s ∧
      s.live = none ∧
      ¬ count true s.lane.recorded =
        (s.taken.map fun d => count true d.samples + d.droppedOverflow).sum +
        (s.lane.outstanding.map fun d => count true d.samples + d.droppedOverflow).sum +
        count true s.lane.buffer.buf.samples + s.lane.buffer.droppedOverflow :=
  ⟨_, rfl, rfl, by decide⟩

end Sessions

end ControlPlaneClient
