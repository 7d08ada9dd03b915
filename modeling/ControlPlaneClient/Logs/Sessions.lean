import ControlPlaneClient.Logs.Lane

/-!
# The log lines of all sessions

The log lane with the sessions that open and end around it. A flush task of a session that is over may
still drain the ring, but the batch goes nowhere: its queue is closed. So what the control plane gets
is the recorded lines in their order, with gaps where lines were dropped or a batch was lost, and the
batches come in the order of their numbers. The other tasks' messages are left out, and with them
the bound on the queue, which only delays a send. So is a shutdown, whose flush drains beside a task
that may not be gone yet.

A queue is discarded at the end of its session, with what it holds. That is an assumption about the
transport, which may still deliver it as long as the other side keeps reading.
-/

namespace ControlPlaneClient

open Transition

/-- The queue of an open session, as far as log batches go, and its flush task. -/
structure LogSession where
  queue : List LogDrained
  task  : ℕ

/-- The log lane across sessions. `taken` is the history of the batches the transport took. -/
structure LogSessions where
  lane  : LogLane
  live  : Option LogSession
  taken : List LogDrained

inductive LogSessionEvent
  | record (line : LogLineSample)
  | opens
  | task (i : ℕ) (e : LogFlushEvent)
  /-- The transport takes the next batch. -/
  | take
  | ends

namespace LogSessions

def init (cap batchCap : ℕ) : LogSessions := ⟨.init cap batchCap, none, []⟩

/-- The task belongs to the open session. -/
def isLive (s : LogSessions) (i : ℕ) : Bool := s.live.any fun o => o.task == i

/-- A step of the lane that does not touch the queue. -/
def onLane (s : LogSessions) (e : LogLaneEvent) : Option LogSessions :=
  (s.lane.step e).map fun lane => { s with lane := lane }

def step (s : LogSessions) : LogSessionEvent → Option LogSessions
  | .record line => s.onLane (.record line)
  | .opens =>
    match s.live with
    | some _ => none
    | none   => do
      let lane ← s.lane.step .spawn
      some { s with lane := lane, live := some ⟨[], s.lane.tasks.length⟩ }
  -- A send completes only while the task's own session is open, and fails only afterwards.
  | .task i .sent => do
    let o ← s.live
    let d ← s.lane.held i
    let lane ← s.lane.step (.task i .sent)
    if o.task = i then
      some { s with lane := lane, live := some { o with queue := o.queue ++ [d] } }
    else none
  | .task i .sendFails => if s.isLive i then none else s.onLane (.task i .sendFails)
  | .task i .abort => if s.isLive i then none else s.onLane (.task i .abort)
  | .task i .tick => s.onLane (.task i .tick)
  | .take => do
    let o ← s.live
    match o.queue with
    | []     => none
    | d :: q => some { s with live := some { o with queue := q }, taken := s.taken ++ [d] }
  | .ends => do
    let _ ← s.live
    some { s with live := none }

/-- The batch that the flush task of the open session is sending. -/
def flying (s : LogSessions) : Option LogDrained := s.live.bind fun o => s.lane.held o.task

def queued (s : LogSessions) : List LogDrained := (s.live.map LogSession.queue).getD []

/-- The batches that the transport took or may yet take. -/
def batches (s : LogSessions) : List LogDrained := s.taken ++ s.queued ++ s.flying.toList

/-! ### What a step does -/

/-- All that a step can do to the batches and the ring. -/
inductive Effect (s : LogSessions) : LogSessions → Prop
  | record (line : LogLineSample) {s' : LogSessions} (hb : s'.batches = s.batches)
      (hbuf : s'.lane.buffer = s.lane.buffer.record line)
      (hr : s'.lane.recorded = s.lane.recorded ++ [line]) : Effect s s'
  /-- The open session's task has drained a batch. -/
  | took {s' : LogSessions} (hpos : 0 < s.lane.buffer.drained.size)
      (hb : s'.batches = s.batches ++ [s.lane.buffer.drained])
      (hbuf : s'.lane.buffer = s.lane.buffer.drain.2) (hr : s'.lane.recorded = s.lane.recorded) :
      Effect s s'
  /-- Batches are moved on or lost, and the ring is drained for nothing or left alone. -/
  | moved {s' : LogSessions} (hb : s'.batches.Sublist s.batches)
      (hbuf : s'.lane.buffer = s.lane.buffer ∨ s'.lane.buffer = s.lane.buffer.drain.2)
      (hr : s'.lane.recorded = s.lane.recorded) : Effect s s'

lemma lane_task {l l' : LogLane} {i : ℕ} {e : LogFlushEvent} (h : l.step (.task i e) = some l') :
    (∃ out, LogFlushEffect l.buffer e (l.held i) l'.buffer (l'.held i) out) ∧
    (∀ j, j ≠ i → l'.held j = l.held j) ∧ l'.recorded = l.recorded := by
  simp only [LogLane.step, Option.bind_eq_bind, Option.bind_eq_some_iff] at h
  obtain ⟨p, hp, ⟨b, p', out⟩, hstep, h⟩ := h
  cases h
  obtain ⟨hi, _⟩ := List.getElem?_eq_some_iff.mp hp
  refine ⟨⟨out, ?_⟩, ?_, rfl⟩
  · have hset : (l.tasks.set i p')[i]? = some p' := List.getElem?_set_self hi
    simp only [LogLane.held, hp, hset, Option.bind_some]
    exact logFlushStep_effect hstep
  · intro j hj
    simp only [LogLane.held, List.getElem?_set_ne hj.symm]

/-- A step of a flush task other than a completed send. -/
lemma onLane_effect {s s' : LogSessions} {i : ℕ} {e : LogFlushEvent} (hsent : e ≠ .sent)
    (h : s.onLane (.task i e) = some s') : Effect s s' := by
  obtain ⟨lane, hstep, rfl⟩ := Option.map_eq_some_iff.mp h
  obtain ⟨⟨out, he⟩, hother, hr⟩ := lane_task hstep
  have hbuf : lane.buffer = s.lane.buffer ∨ lane.buffer = s.lane.buffer.drain.2 := by
    generalize s.lane.held i = held at he
    generalize lane.held i = held' at he
    generalize lane.buffer = b at he ⊢
    cases he with
    | took d hpos hd => exact Or.inr rfl
    | tookNothing hlines hdropped => exact Or.inr rfl
    | handedOver d => exact Or.inl rfl
    | lost e d he => exact Or.inl rfl
    | idle => exact Or.inl rfl
  by_cases hi : ∃ o, s.live = some o ∧ o.task = i
  · obtain ⟨o, ho, rfl⟩ := hi
    have hfly : s.flying = s.lane.held o.task := by simp [flying, ho]
    have hfly' : flying { s with lane := lane } = lane.held o.task := by simp [flying, ho]
    have hq : queued { s with lane := lane } = s.queued := rfl
    generalize s.lane.held o.task = held at he hfly
    generalize lane.held o.task = held' at he hfly'
    generalize hb : lane.buffer = b at he
    cases he with
    | took d hpos hd =>
      replace hd : d = s.lane.buffer.drained := hd
      refine .took (hd ▸ hpos) ?_ hb hr
      rw [batches, batches, hfly, hfly', hq, hd]
      simp
    | tookNothing hlines hdropped =>
      refine .moved ?_ hbuf hr
      rw [batches, batches, hfly, hfly', hq]
    | handedOver d => exact absurd rfl hsent
    | lost e d he =>
      refine .moved ?_ hbuf hr
      rw [batches, batches, hfly, hfly', hq]
      simp
    | idle =>
      refine .moved ?_ hbuf hr
      rw [batches, batches, hfly, hfly', hq]
  · -- A task of a session that is over: what the open one sends is not its own.
    have hfly : flying { s with lane := lane } = s.flying := by
      cases ho : s.live with
      | none => simp [flying, ho]
      | some o =>
        simp only [flying, ho, Option.bind_some]
        exact hother o.task fun heq => hi ⟨o, ho, heq⟩
    refine .moved ?_ hbuf hr
    rw [batches, batches, hfly]
    exact List.Sublist.refl _

lemma step_effect {s s' : LogSessions} {e : LogSessionEvent} (h : s.step e = some s') :
    Effect s s' := by
  cases e with
  | record line =>
    cases h
    exact .record line rfl rfl rfl
  | opens =>
    simp only [step] at h
    split at h
    · cases h
    · next hlive =>
      cases h
      refine .moved ?_ (Or.inl rfl) rfl
      simp [batches, queued, flying, hlive, LogLane.held, LogFlushPhase.inFlight]
  | task i e =>
    cases e with
    | sent =>
      simp only [step, Option.bind_eq_bind, Option.bind_eq_some_iff] at h
      obtain ⟨o, ho, d, hd, lane, hlane, h⟩ := h
      split at h
      · next htask =>
        cases h
        subst htask
        obtain ⟨⟨out, he⟩, -, hr⟩ := lane_task hlane
        rw [hd] at he
        generalize hheld' : lane.held o.task = held' at he
        generalize hb : lane.buffer = b at he
        cases he with
        | handedOver d =>
          refine .moved ?_ (Or.inl hb) hr
          simp [batches, queued, flying, ho, hd, hheld']
        | lost e d he => simp at he
      · cases h
    | tick => exact onLane_effect (by simp) h
    | sendFails | abort =>
      simp only [step] at h
      split at h
      · cases h
      · exact onLane_effect (by simp) h
  | take =>
    simp only [step, Option.bind_eq_bind, Option.bind_eq_some_iff] at h
    obtain ⟨o, ho, h⟩ := h
    split at h
    · cases h
    · next d q hq =>
      cases h
      refine .moved ?_ (Or.inl rfl) rfl
      simp [batches, queued, flying, ho, hq]
  | ends =>
    simp only [step, Option.bind_eq_bind, Option.bind_eq_some_iff] at h
    obtain ⟨o, ho, h⟩ := h
    cases h
    refine .moved ?_ (Or.inl rfl) rfl
    simp [batches, queued, flying]

/-! ### Order -/

/-- The lines in the batches and then in the ring are recorded lines in their order, and the batches
are numbered in theirs. No batch is empty. -/
structure InOrder (s : LogSessions) : Prop where
  lines  : (s.batches.flatMap LogDrained.lines ++ s.lane.buffer.buf).Sublist s.lane.recorded
  seqs   : (s.batches.map LogDrained.seq).Pairwise (· < ·)
  bound  : ∀ d ∈ s.batches, d.seq ≤ s.lane.buffer.seq
  filled : ∀ d ∈ s.batches, 0 < d.size

lemma record_buf_sublist (b : LogBuffer) (line : LogLineSample) :
    (b.record line).buf.Sublist (b.buf ++ [line]) := by
  rw [LogBuffer.record]
  split
  · exact (List.drop_sublist 1 b.buf).append (List.Sublist.refl _)
  · exact List.Sublist.refl _

lemma record_seq (b : LogBuffer) (line : LogLineSample) : (b.record line).seq = b.seq := by
  rw [LogBuffer.record]
  split <;> rfl

lemma Effect.inOrder {s s' : LogSessions} (h : Effect s s') (hs : s.InOrder) : s'.InOrder := by
  cases h with
  | record line hb hbuf hr =>
    refine ⟨?_, by rw [hb]; exact hs.seqs, ?_, by rw [hb]; exact hs.filled⟩
    · have hgrown : (s.batches.flatMap LogDrained.lines ++ (s.lane.buffer.record line).buf).Sublist
          ((s.batches.flatMap LogDrained.lines ++ s.lane.buffer.buf) ++ [line]) := by
        rw [List.append_assoc]
        exact (List.Sublist.refl _).append (record_buf_sublist _ line)
      rw [hb, hbuf, hr]
      exact hgrown.trans (hs.lines.append (List.Sublist.refl _))
    · rw [hb, hbuf, record_seq]
      exact hs.bound
  | took hpos hb hbuf hr =>
    refine ⟨?_, ?_, ?_, ?_⟩
    · rw [hb, hbuf, hr, List.flatMap_append, List.flatMap_singleton, List.append_assoc,
        s.lane.buffer.drained_append]
      exact hs.lines
    · rw [hb, List.map_append, List.pairwise_append]
      refine ⟨hs.seqs, List.pairwise_singleton _ _, ?_⟩
      intro q hq q' hq'
      obtain ⟨d, hd, rfl⟩ := List.mem_map.mp hq
      obtain rfl := List.mem_singleton.mp hq'
      exact Nat.lt_succ_of_le (hs.bound d hd)
    · intro d hd
      rw [hb] at hd
      rw [hbuf]
      rcases List.mem_append.mp hd with hd | hd
      · exact Nat.le_succ_of_le (hs.bound d hd)
      · rw [List.mem_singleton.mp hd]
        exact le_rfl
    · intro d hd
      rw [hb] at hd
      rcases List.mem_append.mp hd with hd | hd
      · exact hs.filled d hd
      · rw [List.mem_singleton.mp hd]
        exact hpos
  | moved hb hbuf hr =>
    refine ⟨?_, hs.seqs.sublist (hb.map _), ?_, fun d hd => hs.filled d (hb.subset hd)⟩
    · rw [hr]
      refine ((hb.flatMap _).append ?_).trans hs.lines
      rcases hbuf with hbuf | hbuf
      · rw [hbuf]
      · rw [hbuf]
        exact List.drop_sublist _ _
    · intro d hd
      have hle := hs.bound d (hb.subset hd)
      rcases hbuf with hbuf | hbuf
      · rwa [hbuf]
      · rw [hbuf]
        exact Nat.le_succ_of_le hle

lemma init_inOrder (cap batchCap : ℕ) : (init cap batchCap).InOrder where
  lines := List.Sublist.refl _
  seqs := List.Pairwise.nil
  bound := List.forall_mem_nil _
  filled := List.forall_mem_nil _

lemma exec_inOrder {cap batchCap : ℕ} {es : List LogSessionEvent} {s : LogSessions}
    (h : exec step (init cap batchCap) es = some s) : s.InOrder :=
  exec_invariant (fun _ _ _ hs hstep => (step_effect hstep).inOrder hs) (init_inOrder cap batchCap) h

lemma taken_sublist_batches (s : LogSessions) : s.taken.Sublist s.batches := by
  rw [batches, List.append_assoc]
  exact List.sublist_append_left _ _

/-- However sessions end and flush tasks linger, the lines in the log batches that the transport takes
are recorded lines in the order of their recording, each at most once, and the batches come in the
order of their numbers. -/
theorem log_lines_in_order (cap batchCap : ℕ) (es : List LogSessionEvent) (s : LogSessions)
    (h : exec step (init cap batchCap) es = some s) :
    (s.taken.flatMap LogDrained.lines).Sublist s.lane.recorded ∧
    (s.taken.map LogDrained.seq).Pairwise (· < ·) := by
  have hs := exec_inOrder h
  have htaken := s.taken_sublist_batches
  constructor
  · exact ((htaken.flatMap _).trans (List.sublist_append_left _ _)).trans hs.lines
  · exact hs.seqs.sublist (htaken.map _)

/-- The task of the first session lingers and drains a line that goes nowhere. -/
def lingeringDrain : List LogSessionEvent :=
  [.record (LogLane.sampleLine "m0"), .opens, .task 0 .tick, .task 0 .sent, .take, .ends,
    .record (LogLane.sampleLine "m1"), .record (LogLane.sampleLine "m2"), .task 0 .tick, .opens,
    .task 1 .tick, .task 1 .sent, .take]

theorem log_lines_in_order_lingering :
    ∃ s, exec step (init 10 1) lingeringDrain = some s ∧
      (s.taken.flatMap LogDrained.lines).map LogLineSample.message = ["m0", "m2"] ∧
      (s.taken.flatMap LogDrained.lines).Sublist s.lane.recorded ∧
      (s.taken.map LogDrained.seq).Pairwise (· < ·) :=
  ⟨_, rfl, rfl, log_lines_in_order 10 1 lingeringDrain _ rfl⟩

end LogSessions

end ControlPlaneClient
