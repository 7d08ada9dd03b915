import ControlPlaneClient.Lib.Tasks
import ControlPlaneClient.Lib.Transition
import ControlPlaneClient.Logs

/-!
# The log lane

`flush_loop` of `logs.rs` with the callers of `record`. A session spawns an instance of the loop and
aborts it when it ends; the next session spawns another. An instance holds a drained batch while it
awaits the send, in a local variable and not in a guard: when the send fails, or the task is aborted
there, the batch is gone.
-/

namespace ControlPlaneClient

open Transition

/-- What `LogBuffer::drain` returns. -/
structure LogDrained where
  lines   : List LogLineSample
  dropped : ℕ
  seq     : ℕ

/-- The lines that a batch accounts for. -/
def LogDrained.size (d : LogDrained) : ℕ := d.lines.length + d.dropped

/-- Where an instance of `flush_loop` stands. -/
inductive LogFlushPhase
  /-- Awaiting the ticker. -/
  | waiting
  /-- Awaiting the send of a batch. -/
  | sending (batch : LogDrained)
  /-- Returned or aborted. -/
  | stopped

inductive LogFlushEvent
  /-- The ticker fires and the loop drains. -/
  | tick
  | sent
  | sendFails
  | abort

/-- The batch that an instance is sending. -/
def LogFlushPhase.inFlight : LogFlushPhase → Option LogDrained
  | .sending d => some d
  | _          => none

/-- One step of an instance, with the batches it hands to the outbound channel. -/
def logFlushStep (b : LogBuffer) :
    LogFlushPhase → LogFlushEvent → Option (LogBuffer × LogFlushPhase × List LogDrained)
  | .waiting, .tick =>
    let ((lines, dropped, seq), b) := b.drain
    if lines.isEmpty && dropped == 0 then some (b, .waiting, [])
    else some (b, .sending ⟨lines, dropped, seq⟩, [])
  | .sending d, .sent     => some (b, .waiting, [d])
  | .sending _, .sendFails => some (b, .stopped, [])
  | .sending _, .abort    => some (b, .stopped, [])
  | .waiting, .abort      => some (b, .stopped, [])
  | _, _                  => none

/-- The log buffer with the instances of `flush_loop` that share it, and the history of the recorded
lines and of the batches handed over. -/
structure LogLane where
  buffer   : LogBuffer
  tasks    : List LogFlushPhase
  recorded : List LogLineSample
  handed   : List LogDrained

inductive LogLaneEvent
  | record (line : LogLineSample)
  | spawn
  | task (i : ℕ) (e : LogFlushEvent)

namespace LogLane

def init (cap batchCap : ℕ) : LogLane := ⟨.withCaps cap batchCap, [], [], []⟩

def step (l : LogLane) : LogLaneEvent → Option LogLane
  | .record line =>
    some { l with buffer := l.buffer.record line, recorded := l.recorded ++ [line] }
  | .spawn => some { l with tasks := l.tasks ++ [.waiting] }
  | .task i e => do
    let p ← l.tasks[i]?
    let (b, p, out) ← logFlushStep l.buffer p e
    some { l with buffer := b, tasks := l.tasks.set i p, handed := l.handed ++ out }

/-- The batches being sent. -/
def outstanding (l : LogLane) : List LogDrained := l.tasks.filterMap LogFlushPhase.inFlight

/-- The batch that a task is sending. -/
def held (l : LogLane) (i : ℕ) : Option LogDrained := l.tasks[i]?.bind LogFlushPhase.inFlight

end LogLane

/-! ### What a step does -/

/-- All that a step of an instance can do. -/
inductive LogFlushEffect (b : LogBuffer) : LogFlushEvent → Option LogDrained →
    LogBuffer → Option LogDrained → List LogDrained → Prop
  | took (d : LogDrained) (h : 0 < d.size) (hd : d = ⟨b.drain.1.1, b.drain.1.2.1, b.drain.1.2.2⟩) :
      LogFlushEffect b .tick none b.drain.2 (some d) []
  | tookNothing (hlines : b.drain.1.1 = []) (hdropped : b.drain.1.2.1 = 0) :
      LogFlushEffect b .tick none b.drain.2 none []
  | handedOver (d : LogDrained) : LogFlushEffect b .sent (some d) b none [d]
  | lost (e : LogFlushEvent) (d : LogDrained) (he : e = .sendFails ∨ e = .abort) :
      LogFlushEffect b e (some d) b none []
  | idle : LogFlushEffect b .abort none b none []

lemma logFlushStep_effect {b b' : LogBuffer} {p p' : LogFlushPhase} {e : LogFlushEvent}
    {out : List LogDrained} (h : logFlushStep b p e = some (b', p', out)) :
    LogFlushEffect b e p.inFlight b' p'.inFlight out := by
  cases p with
  | waiting =>
    cases e with
    | tick =>
      replace h : (if b.drain.1.1.isEmpty && b.drain.1.2.1 == 0 then some (b.drain.2, .waiting, [])
        else some (b.drain.2, .sending ⟨b.drain.1.1, b.drain.1.2.1, b.drain.1.2.2⟩, [])) =
          some (b', p', out) := h
      split_ifs at h with hempty
      · cases h
        simp only [Bool.and_eq_true, List.isEmpty_iff, beq_iff_eq] at hempty
        exact .tookNothing hempty.1 hempty.2
      · cases h
        refine .took _ ?_ rfl
        simp only [Bool.and_eq_true, List.isEmpty_iff, beq_iff_eq, not_and] at hempty
        by_cases hlines : b.drain.1.1 = []
        · exact Nat.add_pos_right _ (Nat.pos_of_ne_zero (hempty hlines))
        · exact Nat.add_pos_left (List.length_pos_iff.mpr hlines) _
    | abort => cases h; exact .idle
    | _ => cases h
  | sending d =>
    cases e with
    | sent => cases h; exact .handedOver d
    | sendFails => cases h; exact .lost _ d (.inl rfl)
    | abort => cases h; exact .lost _ d (.inr rfl)
    | tick => cases h
  | stopped => cases e <;> cases h

namespace LogLane

/-- All that a step of the lane can do. -/
inductive Effect (l : LogLane) : LogLaneEvent → LogLane → Prop
  | record (line : LogLineSample) {l' : LogLane} (hb : l'.buffer = l.buffer.record line)
      (ho : l'.outstanding = l.outstanding) (hr : l'.recorded = l.recorded ++ [line])
      (hh : l'.handed = l.handed) : Effect l (.record line) l'
  | spawn {l' : LogLane} (hb : l'.buffer = l.buffer) (ho : l'.outstanding = l.outstanding)
      (hr : l'.recorded = l.recorded) (hh : l'.handed = l.handed) : Effect l .spawn l'
  | task (i : ℕ) (e : LogFlushEvent) (held held' : Option LogDrained) (out xs ys : List LogDrained)
      {l' : LogLane} (hheld : l.held i = held)
      (he : LogFlushEffect l.buffer e held l'.buffer held' out)
      (ho : l.outstanding = xs ++ held.toList ++ ys)
      (ho' : l'.outstanding = xs ++ held'.toList ++ ys)
      (hr : l'.recorded = l.recorded) (hh : l'.handed = l.handed ++ out) :
      Effect l (.task i e) l'

lemma step_effect {l l' : LogLane} {e : LogLaneEvent} (h : l.step e = some l') :
    Effect l e l' := by
  cases e with
  | record line => cases h; exact .record line rfl rfl rfl rfl
  | spawn =>
    cases h
    exact .spawn rfl (by simp [outstanding, LogFlushPhase.inFlight]) rfl rfl
  | task i e =>
    simp only [step, Option.bind_eq_bind, Option.bind_eq_some_iff] at h
    obtain ⟨p, hp, ⟨b, p', out⟩, hstep, h⟩ := h
    cases h
    obtain ⟨xs, ys, ho, ho'⟩ := Tasks.filterMap_set_split hp LogFlushPhase.inFlight
    exact .task i e _ _ out xs ys (by rw [held, hp, Option.bind_some]) (logFlushStep_effect hstep)
      ho (ho' p') rfl rfl

end LogLane

/-! ### Capacities -/

namespace LogBuffer

/-- The batch that `drain` takes. -/
def drained (b : LogBuffer) : LogDrained := ⟨b.drain.1.1, b.drain.1.2.1, b.drain.1.2.2⟩

/-- What holds of a buffer that was created with the two capacities. -/
structure WellFormed (cap batchCap : ℕ) (b : LogBuffer) : Prop where
  cap_eq      : b.cap = cap
  batchCap_eq : b.batchCap = batchCap
  length      : b.buf.length ≤ max cap 1

lemma drained_length (b : LogBuffer) : b.drained.lines.length = min b.buf.length b.batchCap := by
  simp [drained, drain]

lemma drained_append (b : LogBuffer) : b.drained.lines ++ b.drain.2.buf = b.buf :=
  List.take_append_drop _ _

lemma drain_length (b : LogBuffer) : b.drain.2.buf.length = b.buf.length - b.batchCap := by
  simp only [drain, List.length_drop]
  omega

namespace WellFormed

variable {cap batchCap : ℕ} {b : LogBuffer}

lemma record (h : b.WellFormed cap batchCap) (line : LogLineSample) :
    (b.record line).WellFormed cap batchCap := by
  have hlen := h.length
  have hcap := h.cap_eq
  rw [LogBuffer.record]
  split_ifs with hfull
  · refine ⟨h.cap_eq, h.batchCap_eq, ?_⟩
    simp only [List.length_append, List.length_drop, List.length_singleton]
    omega
  · refine ⟨h.cap_eq, h.batchCap_eq, ?_⟩
    simp only [List.length_append, List.length_singleton]
    omega

lemma drain (h : b.WellFormed cap batchCap) : b.drain.2.WellFormed cap batchCap := by
  refine ⟨h.cap_eq, h.batchCap_eq, ?_⟩
  rw [drain_length]
  exact (Nat.sub_le _ _).trans h.length

end WellFormed

end LogBuffer

lemma LogFlushEffect.wellFormed {b b' : LogBuffer} {e : LogFlushEvent} {cap batchCap : ℕ}
    {held held' : Option LogDrained} {out : List LogDrained} (h : LogFlushEffect b e held b' held' out)
    (hb : b.WellFormed cap batchCap) : b'.WellFormed cap batchCap := by
  cases h with
  | took d hpos hd => exact hb.drain
  | tookNothing hlines hdropped => exact hb.drain
  | handedOver d => exact hb
  | lost e d he => exact hb
  | idle => exact hb

lemma LogLane.exec_wellFormed {cap batchCap : ℕ} {es : List LogLaneEvent} {l : LogLane}
    (h : exec step (init cap batchCap) es = some l) : l.buffer.WellFormed cap batchCap := by
  apply exec_invariant (I := fun l => l.buffer.WellFormed cap batchCap) _ _ h
  · intro l e l' hl hstep
    cases step_effect hstep with
    | record line hb ho hr hh => rw [hb]; exact hl.record line
    | spawn hb ho hr hh => rw [hb]; exact hl
    | task i e held held' out xs ys hheld he ho ho' hr hh => exact he.wellFormed hl
  · exact ⟨rfl, rfl, Nat.zero_le _⟩

/-! ### Accounting -/

namespace LogBuffer

/-- The lines that a buffer accounts for. -/
def size (b : LogBuffer) : ℕ := b.buf.length + b.droppedOverflow

@[simp] lemma record_cap (b : LogBuffer) (line : LogLineSample) : (b.record line).cap = b.cap := by
  rw [record]; split <;> rfl

/-- With room for a line at all, a record adds one to the account. -/
lemma record_size {b : LogBuffer} (hcap : 1 ≤ b.cap) (line : LogLineSample) :
    (b.record line).size = b.size + 1 := by
  rw [record]
  split_ifs with hfull
  · simp only [size, List.length_append, List.length_drop, List.length_singleton]
    omega
  · simp only [size, List.length_append, List.length_singleton]
    omega

lemma drain_size (b : LogBuffer) : b.drain.1.1.length + b.drain.1.2.1 + b.drain.2.size = b.size := by
  simp only [drain, size, List.length_take, List.length_drop]
  omega

end LogBuffer

/-- The lines that some batches account for. -/
def logSizes (ds : List LogDrained) : ℕ := (ds.map LogDrained.size).sum

@[simp] lemma logSizes_nil : logSizes [] = 0 := rfl

@[simp] lemma logSizes_singleton (d : LogDrained) : logSizes [d] = d.size := by simp [logSizes]

@[simp] lemma logSizes_append (xs ys : List LogDrained) :
    logSizes (xs ++ ys) = logSizes xs + logSizes ys := by
  simp [logSizes]

namespace LogLane

/-- The lines that the lane still accounts for. -/
def accounted (l : LogLane) : ℕ := logSizes l.handed + logSizes l.outstanding + l.buffer.size

/-- No send of a batch fails or is cut off. -/
def SendsComplete (l : LogLane) : LogLaneEvent → Prop
  | .task i .sendFails | .task i .abort => l.held i = none
  | _                                   => True

/-- What holds in every state of a run. -/
structure Sound (cap : ℕ) (l : LogLane) : Prop where
  cap      : l.buffer.cap = cap
  bound    : l.accounted ≤ l.recorded.length
  nonempty : ∀ d ∈ l.outstanding, 0 < d.size

/-- What a step of a task does to the account: it loses the batch of a send that is cut off. -/
lemma task_accounted {l l' : LogLane} {i : ℕ} {e : LogFlushEvent} {held held' : Option LogDrained}
    {out xs ys : List LogDrained} (he : LogFlushEffect l.buffer e held l'.buffer held' out)
    (ho : l.outstanding = xs ++ held.toList ++ ys) (ho' : l'.outstanding = xs ++ held'.toList ++ ys)
    (hh : l'.handed = l.handed ++ out) (hheld : l.held i = held) :
    (l'.accounted = l.accounted ∧ l.SendsComplete (.task i e)) ∨
    ∃ d, held = some d ∧ l'.accounted + d.size = l.accounted ∧ ¬ l.SendsComplete (.task i e) := by
  rw [accounted, accounted, ho, ho', hh]
  generalize l'.buffer = b' at he
  cases he with
  | took d hpos hd =>
    left
    have hsum := l.buffer.drain_size
    subst hd
    refine ⟨?_, trivial⟩
    simp only [Option.toList, logSizes_append, logSizes_nil, logSizes_singleton, LogDrained.size]
    omega
  | tookNothing hlines hdropped =>
    left
    have hsum := l.buffer.drain_size
    rw [hlines, hdropped] at hsum
    refine ⟨?_, trivial⟩
    simp only [List.length_nil] at hsum
    simp only [Option.toList, logSizes_append, logSizes_nil]
    omega
  | handedOver d =>
    left
    refine ⟨?_, trivial⟩
    simp only [Option.toList, logSizes_append, logSizes_nil, logSizes_singleton]
    omega
  | lost e d hcause =>
    right
    refine ⟨d, rfl, ?_, ?_⟩
    · simp only [Option.toList, logSizes_append, logSizes_nil, logSizes_singleton]
      omega
    · rcases hcause with rfl | rfl
      · simp [SendsComplete, hheld]
      · simp [SendsComplete, hheld]
  | idle =>
    left
    exact ⟨by simp only [Option.toList, logSizes_append, logSizes_nil, Nat.add_zero], hheld⟩

lemma Effect.sound {l l' : LogLane} {e : LogLaneEvent} {cap : ℕ} (hcap : 1 ≤ cap)
    (h : Effect l e l') (hl : l.Sound cap) : l'.Sound cap := by
  have hbound := hl.bound
  cases h with
  | record line hb ho hr hh =>
    constructor
    · rw [hb, LogBuffer.record_cap, hl.cap]
    · rw [accounted, hb, ho, hh, LogBuffer.record_size (by rw [hl.cap]; exact hcap), hr,
        List.length_append, List.length_singleton]
      rw [accounted] at hbound
      omega
    · rw [ho]
      exact hl.nonempty
  | spawn hb ho hr hh =>
    constructor
    · rw [hb, hl.cap]
    · rw [accounted, hb, ho, hh, hr]
      exact hbound
    · rw [ho]
      exact hl.nonempty
  | task i e held held' out xs ys hheld he ho ho' hr hh =>
    have hcases := task_accounted he ho ho' hh hheld
    have hnonempty := hl.nonempty
    rw [ho] at hnonempty
    constructor
    · rw [← hl.cap]
      generalize l'.buffer = b' at he
      cases he <;> rfl
    · rw [hr]
      rcases hcases with ⟨heq, -⟩ | ⟨d, -, heq, -⟩
      · omega
      · omega
    · intro d hd
      rw [ho', List.append_assoc] at hd
      rw [List.append_assoc] at hnonempty
      rcases List.mem_append.mp hd with hd | hd
      · exact hnonempty d (List.mem_append_left _ hd)
      rcases List.mem_append.mp hd with hd | hd
      · generalize l'.buffer = b' at he
        cases he with
        | took d' hpos hd' =>
          rw [List.mem_singleton.mp hd]
          exact hpos
        | _ => cases hd
      · exact hnonempty d (List.mem_append_right _ (List.mem_append_right _ hd))

/-- A batch whose send is cut off is lost for good, and nothing else is. -/
lemma Effect.accounted_iff {l l' : LogLane} {e : LogLaneEvent} {cap : ℕ} (hcap : 1 ≤ cap)
    (h : Effect l e l') (hl : l.Sound cap) :
    l'.recorded.length = l'.accounted ↔ l.recorded.length = l.accounted ∧ l.SendsComplete e := by
  have hbound := hl.bound
  cases h with
  | record line hb ho hr hh =>
    have hsize := LogBuffer.record_size (by rw [hl.cap]; exact hcap) line
    simp only [accounted, hb, ho, hh, hsize, hr, List.length_append, List.length_singleton,
      SendsComplete, and_true]
    omega
  | spawn hb ho hr hh => simp only [accounted, hb, ho, hh, hr, SendsComplete, and_true]
  | task i e held held' out xs ys hheld he ho ho' hr hh =>
    rw [hr]
    rcases task_accounted he ho ho' hh hheld with ⟨heq, hdone⟩ | ⟨d, hd, heq, hcut⟩
    · simp only [heq, hdone, and_true]
    · have hpos : 0 < d.size := hl.nonempty d (by rw [ho, hd]; simp)
      simp only [hcut, and_false, iff_false]
      omega

/-- Every recorded line is in a batch handed over, or being sent, or in the ring, or counted as
dropped in one of them, exactly when no send of a batch failed or was cut off. -/
theorem lines_accounted_iff (cap batchCap : ℕ) (hcap : 1 ≤ cap) (es : List LogLaneEvent)
    (l : LogLane) (h : exec step (init cap batchCap) es = some l) :
    l.recorded.length =
        (l.handed.map fun d => d.lines.length + d.dropped).sum +
        (l.outstanding.map fun d => d.lines.length + d.dropped).sum +
        (l.buffer.buf.length + l.buffer.droppedOverflow) ↔
      StepsMeet step SendsComplete (init cap batchCap) es := by
  have hiff := exec_iff_stepsMeet (I := Sound cap) (P := fun l => l.recorded.length = l.accounted)
    (fun _ _ _ hl hstep => (step_effect hstep).sound hcap hl)
    (fun _ _ _ hl hstep => (step_effect hstep).accounted_iff hcap hl)
    ⟨rfl, le_rfl, by simp [init, outstanding]⟩ h
  have hstart : (init cap batchCap).recorded.length = (init cap batchCap).accounted := rfl
  rw [and_iff_right hstart] at hiff
  exact hiff

instance (l : LogLane) : ∀ e, Decidable (l.SendsComplete e)
  | .task i .sendFails | .task i .abort =>
    decidable_of_iff ((l.held i).isNone = true) Option.isNone_iff_eq_none
  | .task _ .tick | .task _ .sent | .record _ | .spawn => .isTrue trivial

/-- A line of the sample target. -/
def sampleLine (message : String) : LogLineSample := ⟨0, .info, "mcpg::test", message, none⟩

/-- Three lines into a ring of two: the batch with the count of the dropped one is sent. -/
theorem lines_accounted_iff_sent :
    let es : List LogLaneEvent := [.record (sampleLine "m0"), .record (sampleLine "m1"),
      .record (sampleLine "m2"), .spawn, .task 0 .tick, .task 0 .sent, .task 0 .abort]
    ∃ l, exec step (init 2 2) es = some l ∧ StepsMeet step SendsComplete (init 2 2) es ∧
      l.recorded.length =
        (l.handed.map fun d => d.lines.length + d.dropped).sum +
        (l.outstanding.map fun d => d.lines.length + d.dropped).sum +
        (l.buffer.buf.length + l.buffer.droppedOverflow) := by
  intro es
  have hrun : ∃ l, exec step (init 2 2) es = some l := ⟨_, rfl⟩
  obtain ⟨l, hl⟩ := hrun
  have hmeet : StepsMeet step SendsComplete (init 2 2) es := by decide
  exact ⟨l, hl, hmeet, (lines_accounted_iff 2 2 (by decide) es l hl).mpr hmeet⟩

/-- The same batch is being sent when the session ends: its two lines and the count of the dropped
one are gone. -/
theorem aborted_send_loses_lines :
    ∃ l, exec step (init 2 2) [.record (sampleLine "m0"), .record (sampleLine "m1"),
        .record (sampleLine "m2"), .spawn, .task 0 .tick, .task 0 .abort] = some l ∧
      l.recorded.length = 3 ∧ l.handed.length = 0 ∧ l.outstanding.length = 0 ∧
      l.buffer.buf.length = 0 ∧ l.buffer.droppedOverflow = 0 ∧
      l.recorded.length ≠
        (l.handed.map fun d => d.lines.length + d.dropped).sum +
        (l.outstanding.map fun d => d.lines.length + d.dropped).sum +
        (l.buffer.buf.length + l.buffer.droppedOverflow) :=
  ⟨_, rfl, rfl, rfl, rfl, rfl, rfl, by decide⟩

end LogLane

end ControlPlaneClient
