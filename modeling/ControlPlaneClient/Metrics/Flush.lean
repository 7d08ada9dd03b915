import ControlPlaneClient.Lib.Tasks
import ControlPlaneClient.Lib.Transition
import ControlPlaneClient.Metrics.Ledger

/-!
# The metrics flush loop

`flush_loop` of `metrics.rs` as a state machine with one phase per point where it can be
suspended, and the lane it works in: the buffer, the callers of `record` and any number of
instances of the loop, interleaved step by step. An instance holds a drained batch only while
it awaits the send, in the `InFlight` guard, and gives it back when the send fails or the task
is aborted there.

Time is left out: a tick and the end of a sleep may come at any moment.
-/

namespace ControlPlaneClient

open Transition

variable {σ : Type*} [HasOutcome σ]

/-! ### One instance of the loop -/

/-- Where an instance of `flush_loop` stands. -/
inductive FlushPhase (σ : Type*)
  /-- Before the first, immediate tick. -/
  | starting
  /-- About to drain, with `left` more batches allowed after this one. -/
  | flushing (left : ℕ)
  /-- Awaiting the send of a batch, the guard armed. -/
  | sending (left : ℕ) (batch : Drained σ)
  /-- In the `select!` between the ticker and the early wake. -/
  | waiting
  /-- Woken early, sleeping until the spacing has passed. -/
  | spacing
  /-- Returned or aborted. -/
  | stopped

inductive FlushEvent
  | tick
  | early
  | spaced
  | drain (now : DateTime)
  | sent
  | sendFails
  | abort

/-- The batch that an instance holds in its `InFlight` guard. -/
def FlushPhase.inFlight : FlushPhase σ → Option (Drained σ)
  | .sending _ d => some d
  | _            => none

/-- A full buffer is this many batches. -/
def MetricsBuffer.batchesPerTick (b : MetricsBuffer σ) : ℕ :=
  let m := max b.batchCap 1
  max ((b.cap + (m - 1)) / m) 1

/-- `InFlight::drop` of an armed guard. -/
def MetricsBuffer.dropInFlight (b : MetricsBuffer σ) (d : Drained σ) : MetricsBuffer σ :=
  if d.isEmpty then b else b.requeueFront d

/-- Where the loop goes once a batch of `n` samples is settled. -/
def MetricsBuffer.afterBatch (b : MetricsBuffer σ) (n left : ℕ) : FlushPhase σ :=
  if n < b.batchCap then .waiting
  else match left with
    | 0        => .waiting
    | left + 1 => .flushing left

/-- One step of an instance, with the batches it hands to the outbound channel. -/
def flushStep (b : MetricsBuffer σ) :
    FlushPhase σ → FlushEvent → Option (MetricsBuffer σ × FlushPhase σ × List (Drained σ))
  | .starting, .tick         => some (b, .flushing (b.batchesPerTick - 1), [])
  | .waiting, .tick          => some (b, .flushing (b.batchesPerTick - 1), [])
  | .waiting, .early         =>
    if b.flushEarly then some ({ b with flushEarly := false }, .spacing, []) else none
  | .spacing, .spaced        => some (b, .flushing (b.batchesPerTick - 1), [])
  | .flushing left, .drain now =>
    let (batch, b) := b.drain now
    if batch.isEmpty then some (b, b.afterBatch batch.samples.length left, [])
    else some (b, .sending left batch, [])
  | .sending left batch, .sent => some (b, b.afterBatch batch.samples.length left, [batch])
  | .sending _ batch, .sendFails => some (b.dropInFlight batch, .stopped, [])
  | .sending _ batch, .abort => some (b.dropInFlight batch, .stopped, [])
  | .starting, .abort        => some (b, .stopped, [])
  | .flushing _, .abort      => some (b, .stopped, [])
  | .waiting, .abort         => some (b, .stopped, [])
  | .spacing, .abort         => some (b, .stopped, [])
  | _, _                     => none

omit [HasOutcome σ] in
@[simp] lemma afterBatch_inFlight (b : MetricsBuffer σ) (n left : ℕ) :
    (b.afterBatch n left).inFlight = none := by
  simp only [MetricsBuffer.afterBatch]
  split
  · rfl
  · cases left <;> rfl

/-- All that a step of an instance can do to the buffer, to the batch it holds and to the
outbound channel. -/
inductive FlushEffect (b : MetricsBuffer σ) : FlushEvent → Option (Drained σ) →
    MetricsBuffer σ → Option (Drained σ) → List (Drained σ) → Prop
  | idle (e : FlushEvent) (permit : Bool) :
      FlushEffect b e none { b with flushEarly := permit } none []
  | took (now : DateTime) (h : (b.drained now).isEmpty = false) :
      FlushEffect b (.drain now) none b.afterDrain (some (b.drained now)) []
  | tookNothing (now : DateTime) (h : (b.drained now).isEmpty = true) :
      FlushEffect b (.drain now) none b.afterDrain none []
  | handedOver (d : Drained σ) : FlushEffect b .sent (some d) b none [d]
  | returned (e : FlushEvent) (d : Drained σ) (he : e = .sendFails ∨ e = .abort) :
      FlushEffect b e (some d) (b.dropInFlight d) none []

lemma flushStep_effect {b b' : MetricsBuffer σ} {p p' : FlushPhase σ} {e : FlushEvent}
    {out : List (Drained σ)} (h : flushStep b p e = some (b', p', out)) :
    FlushEffect b e p.inFlight b' p'.inFlight out := by
  cases p with
  | starting =>
    cases e <;> simp only [flushStep, Option.some.injEq, Prod.mk.injEq, reduceCtorEq] at h <;>
      obtain ⟨rfl, rfl, rfl⟩ := h <;> exact .idle _ b.flushEarly
  | waiting =>
    cases e with
    | early =>
      simp only [flushStep] at h
      split at h
      · cases h; exact .idle _ false
      · cases h
    | tick => cases h; exact .idle _ b.flushEarly
    | abort => cases h; exact .idle _ b.flushEarly
    | _ => cases h
  | spacing =>
    cases e <;> simp only [flushStep, Option.some.injEq, Prod.mk.injEq, reduceCtorEq] at h <;>
      obtain ⟨rfl, rfl, rfl⟩ := h <;> exact .idle _ b.flushEarly
  | flushing left =>
    cases e with
    | drain now =>
      replace h : (if (b.drained now).isEmpty then
          some (b.afterDrain, b.afterDrain.afterBatch (b.drained now).samples.length left, [])
        else some (b.afterDrain, .sending left (b.drained now), [])) = some (b', p', out) := h
      split_ifs at h with hempty
      · cases h; rw [afterBatch_inFlight]; exact .tookNothing now hempty
      · cases h; exact .took now (Bool.eq_false_iff.mpr hempty)
    | abort => cases h; exact .idle _ b.flushEarly
    | _ => cases h
  | sending left batch =>
    cases e with
    | sent => cases h; rw [afterBatch_inFlight]; exact .handedOver batch
    | sendFails => cases h; exact .returned _ batch (.inl rfl)
    | abort => cases h; exact .returned _ batch (.inr rfl)
    | _ => cases h
  | stopped => cases e <;> cases h

/-! ### The lane -/

/-- A recorded sample, numbered by the order of the `record` calls. The number is ghost data:
the buffer cannot read it. -/
structure Arrival where
  number : ℕ
  sample : ToolCallSample

instance : HasOutcome Arrival := ⟨fun a => a.sample.outcome⟩

/-- The buffer with the instances of `flush_loop` that share it. `recorded` and `handed` are the
history: every recorded sample, and every batch handed to the outbound channel, in order. -/
structure Lane where
  buffer   : MetricsBuffer Arrival
  tasks    : List (FlushPhase Arrival)
  recorded : List Arrival
  handed   : List (Drained Arrival)

inductive LaneEvent
  | record (s : ToolCallSample)
  | recordEvents (now : DateTime) (eventName mode : String) (counts : EventCounts)
  | spawn
  | task (i : ℕ) (e : FlushEvent)

def LaneEvent.isDrain : LaneEvent → Bool
  | .task _ (.drain _) => true
  | _                  => false

namespace Lane

def init (cap batchCap : ℕ) : Lane := ⟨.withCaps cap batchCap, [], [], []⟩

/-- The sample of the next `record` call. -/
def arrival (l : Lane) (s : ToolCallSample) : Arrival := ⟨l.recorded.length, s⟩

def step (l : Lane) : LaneEvent → Option Lane
  | .record s =>
    some { l with
      buffer := l.buffer.record (l.arrival s)
      recorded := l.recorded ++ [l.arrival s] }
  | .recordEvents now eventName mode counts =>
    some { l with buffer := l.buffer.recordEvents now eventName mode counts }
  | .spawn => some { l with tasks := l.tasks ++ [.starting] }
  | .task i e => do
    let p ← l.tasks[i]?
    let (b, p, out) ← flushStep l.buffer p e
    some { l with buffer := b, tasks := l.tasks.set i p, handed := l.handed ++ out }

/-- The batches drained but not yet handed over or returned. -/
def outstanding (l : Lane) : List (Drained Arrival) := l.tasks.filterMap FlushPhase.inFlight

/-- The batch that a task holds. -/
def held (l : Lane) (i : ℕ) : Option (Drained Arrival) := l.tasks[i]?.bind FlushPhase.inFlight

/-- All that a step of the lane can do. A step of a task leaves the batches of the other tasks,
`xs` before it and `ys` after it, as they are. -/
inductive Effect (l : Lane) : LaneEvent → Lane → Prop
  | record (s : ToolCallSample) {l' : Lane} (hb : l'.buffer = l.buffer.record (l.arrival s))
      (ho : l'.outstanding = l.outstanding) (hr : l'.recorded = l.recorded ++ [l.arrival s])
      (hh : l'.handed = l.handed) : Effect l (.record s) l'
  | recordEvents (now : DateTime) (n m : String) (c : EventCounts) {l' : Lane}
      (hb : l'.buffer = l.buffer.recordEvents now n m c) (ho : l'.outstanding = l.outstanding)
      (hr : l'.recorded = l.recorded) (hh : l'.handed = l.handed) :
      Effect l (.recordEvents now n m c) l'
  | spawn {l' : Lane} (hb : l'.buffer = l.buffer) (ho : l'.outstanding = l.outstanding)
      (hr : l'.recorded = l.recorded) (hh : l'.handed = l.handed) : Effect l .spawn l'
  | task (i : ℕ) (e : FlushEvent) (held held' : Option (Drained Arrival))
      (out xs ys : List (Drained Arrival)) {l' : Lane}
      (hheld : l.held i = held) (he : FlushEffect l.buffer e held l'.buffer held' out)
      (ho : l.outstanding = xs ++ held.toList ++ ys)
      (ho' : l'.outstanding = xs ++ held'.toList ++ ys)
      (hr : l'.recorded = l.recorded) (hh : l'.handed = l.handed ++ out) :
      Effect l (.task i e) l'

lemma step_effect {l l' : Lane} {e : LaneEvent} (h : l.step e = some l') : Effect l e l' := by
  cases e with
  | record s => cases h; exact .record s rfl rfl rfl rfl
  | recordEvents now n m c => cases h; exact .recordEvents now n m c rfl rfl rfl rfl
  | spawn =>
    cases h
    exact .spawn rfl (by simp [outstanding, FlushPhase.inFlight]) rfl rfl
  | task i e =>
    simp only [step, Option.bind_eq_bind, Option.bind_eq_some_iff] at h
    obtain ⟨p, hp, ⟨b, p', out⟩, hstep, h⟩ := h
    cases h
    obtain ⟨xs, ys, ho, ho'⟩ := Tasks.filterMap_set_split hp FlushPhase.inFlight
    exact .task i e _ _ out xs ys (by rw [held, hp, Option.bind_some]) (flushStep_effect hstep) ho
      (ho' p') rfl rfl

end Lane

end ControlPlaneClient
