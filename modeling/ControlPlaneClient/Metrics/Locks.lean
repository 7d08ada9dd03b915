import ControlPlaneClient.Lib.Simulation
import ControlPlaneClient.Metrics.Buffer

/-!
# The locks of the metrics buffer

The buffer of `metrics.rs` is shared by all the dispatch paths of the gateway and by the flush
loops. Here its operations are taken apart into their single accesses to `Inner`, and any number
of threads interleave between any two of them. The ring and the three atomic counters are accessed
under the lock of the ring, the rollup of MCP Events usage under a lock of its own, which `drain`
and `requeue_front` take while they hold the first, and `record_events` alone; the permit of the
early wake is accessed under no lock by the loop that waits for it.

The sequential buffer, whose calls take effect in one step each, is `MetricsBuffer.apply`. In it too
the clock that closes the window of a drain is read after the drain, when the call returns.
-/

namespace ControlPlaneClient

open Transition

/-! ### The sequential buffer -/

/-- A call of the buffer. -/
inductive BufferOp (σ : Type*)
  | record (s : σ)
  | recordEvents (eventName mode : String) (counts : EventCounts)
  | drain
  | requeueFront (batch : Drained σ)
  | buffered
  /-- A poll of `flush_early.notified()`. -/
  | notified

inductive BufferAnswer (σ : Type*)
  | unit
  | batch (d : Drained σ)
  | len (n : ℕ)
  | woken (permit : Bool)

variable {ι σ : Type*} [HasOutcome σ]

/-- What a call does to the buffer and what it answers. -/
def MetricsBuffer.apply (b : MetricsBuffer σ) :
    BufferOp σ → DateTime → MetricsBuffer σ × (DateTime → BufferAnswer σ)
  | .record s, _                  => (b.record s, fun _ => .unit)
  | .recordEvents n m counts, now => (b.recordEvents now n m counts, fun _ => .unit)
  | .drain, _                     => (b.afterDrain, fun now => .batch (b.drained now))
  | .requeueFront batch, _        => (b.requeueFront batch, fun _ => .unit)
  | .buffered, _                  => (b, fun _ => .len b.buffered)
  | .notified, _                  => ({ b with flushEarly := false }, fun _ => .woken b.flushEarly)

/-! ### The threads -/

/-- Where a thread stands in the code of a call. -/
inductive Pc (σ : Type*)
  | idle
  -- `record`: before the lock, at the wake, at the check for room, at a count, at the push
  | record (s : σ)
  | recordWake (s : σ)
  | recordRoom (s : σ)
  | recordDrop (o : SampleOutcome) (next : Option σ)
  | recordPush (s : σ)
  -- `record_events`: before the lock, at the start of the window, at the counts
  | recordEvents (eventName mode : String) (counts : EventCounts)
  | eventsSince (eventName mode : String) (counts : EventCounts)
  | eventsCount (eventName mode : String) (counts : EventCounts)
  | eventsUnlock
  -- `drain`: the ring, the rollup under its own lock, the clock, then the three counters
  | drain
  | drainSamples
  | drainLock (samples : List σ)
  | drainTake (samples : List σ)
  | drainUnlock (samples : List σ) (rollup : EventsRollup)
  | drainClock (samples : List σ) (rollup : EventsRollup)
  | drainOverflow (samples : List σ) (events : List EventUsage)
  | drainNonBillable (samples : List σ) (events : List EventUsage) (overflow : ℕ)
  | drainSeq (samples : List σ) (events : List EventUsage) (overflow nonBillable : ℕ)
  -- `requeue_front`: the samples that are left, the two counters, then the rows that are left
  | requeue (batch : Drained σ)
  | requeueSamples (left : List σ) (batch : Drained σ)
  | requeueOverflow (batch : Drained σ)
  | requeueNonBillable (batch : Drained σ)
  | requeueLock (batch : Drained σ)
  | requeueRows (left : List EventUsage)
  -- `buffered`, and the poll of the permit
  | buffered
  | bufferedLen
  | notified
  -- the end of a call that holds the lock of the ring, and of any call
  | unlock (answer : BufferAnswer σ)
  | finished (answer : BufferAnswer σ)

/-- Where the code of a call begins. -/
def BufferOp.entry : BufferOp σ → Pc σ
  | .record s                => .record s
  | .recordEvents n m counts => .recordEvents n m counts
  | .drain                   => .drain
  | .requeueFront batch      => .requeue batch
  | .buffered                => .buffered
  | .notified                => .notified

namespace Pc

/-- The thread holds the lock of the ring. -/
def holdsRing : Pc σ → Bool
  | .recordWake _ | .recordRoom _ | .recordDrop _ _ | .recordPush _ => true
  | .drainSamples | .drainLock _ | .drainTake _ | .drainUnlock _ _ | .drainClock _ _ => true
  | .drainOverflow _ _ | .drainNonBillable _ _ _ | .drainSeq _ _ _ _ => true
  | .requeueSamples _ _ | .requeueOverflow _ | .requeueNonBillable _ => true
  | .requeueLock _ | .requeueRows _ => true
  | .bufferedLen | .unlock _ => true
  | _ => false

/-- The thread holds the lock of the rollup. -/
def holdsEvents : Pc σ → Bool
  | .eventsSince _ _ _ | .eventsCount _ _ _ | .eventsUnlock => true
  | .drainTake _ | .drainUnlock _ _ | .requeueRows _ => true
  | _ => false

/-- The thread has no call in progress, or only its answer to return. -/
def settled : Pc σ → Bool
  | .idle | .finished _ => true
  | _ => false

end Pc

/-- The buffer with its two locks and the threads that use it. The fields of `mem` are cells:
each access reads or writes some of them. -/
structure LockedBuffer (ι σ : Type*) where
  mem    : MetricsBuffer σ
  ring   : Option ι
  events : Option ι
  pc     : ι → Pc σ

inductive ThreadEvent (ι σ : Type*)
  | call (i : ι) (op : BufferOp σ)
  /-- The next access of a call; `now` is what the clock shows. -/
  | go (i : ι) (now : DateTime)
  | ret (i : ι)

namespace LockedBuffer

variable [DecidableEq ι]

def init (cap batchCap : ℕ) : LockedBuffer ι σ :=
  ⟨.withCaps cap batchCap, none, none, fun _ => .idle⟩

/-- The thread goes on to `p`. -/
def move (c : LockedBuffer ι σ) (i : ι) (p : Pc σ) : LockedBuffer ι σ :=
  { c with pc := Function.update c.pc i p }

def lockRing (c : LockedBuffer ι σ) (i : ι) (p : Pc σ) : Option (LockedBuffer ι σ) :=
  if c.ring.isNone then some { c.move i p with ring := some i } else none

def lockEvents (c : LockedBuffer ι σ) (i : ι) (p : Pc σ) : Option (LockedBuffer ι σ) :=
  if c.events.isNone then some { c.move i p with events := some i } else none

/-- The next access of thread `i`. -/
def go (c : LockedBuffer ι σ) (i : ι) (now : DateTime) : Option (LockedBuffer ι σ) :=
  match c.pc i with
  | .idle => none
  | .record s => c.lockRing i (.recordWake s)
  | .recordWake s => some { c.move i (.recordRoom s) with mem := c.mem.notifyFlush }
  | .recordRoom s =>
    if c.mem.cap ≤ c.mem.buf.samples.length then
      if !billable s then some (c.move i (.recordDrop (outcome s) none))
      else
        match c.mem.buf.remove (MetricsBuffer.victim c.mem.buf) with
        | some (dropped, ring) =>
          some { c.move i (.recordDrop (outcome dropped) (some s)) with
            mem := { c.mem with buf := ring } }
        | none => some (c.move i (.recordPush s))
    else some (c.move i (.recordPush s))
  | .recordDrop o none => some { c.move i (.unlock .unit) with mem := c.mem.countDrop o }
  | .recordDrop o (some s) => some { c.move i (.recordPush s) with mem := c.mem.countDrop o }
  | .recordPush s =>
    some { c.move i (.unlock .unit) with mem := { c.mem with buf := c.mem.buf.pushBack s } }
  | .recordEvents n m counts =>
    if counts = {} then some (c.move i (.finished .unit))
    else c.lockEvents i (.eventsSince n m counts)
  | .eventsSince n m counts =>
    let events := { c.mem.events with since := some (c.mem.events.since.getD now) }
    some { c.move i (.eventsCount n m counts) with mem := { c.mem with events := events } }
  | .eventsCount n m counts =>
    some { c.move i .eventsUnlock with
      mem := { c.mem with events := c.mem.events.count n m counts } }
  | .eventsUnlock => some { c.move i (.finished .unit) with events := none }
  | .drain => c.lockRing i .drainSamples
  | .drainSamples =>
    let n := min c.mem.buf.samples.length c.mem.batchCap
    let samples := c.mem.buf.samples.take n
    let drainedNonBillable := samples.countP fun s => !billable s
    some { c.move i (.drainLock samples) with
      mem := { c.mem with
        buf := ⟨c.mem.buf.samples.drop n, c.mem.buf.nonBillable - drainedNonBillable⟩ } }
  | .drainLock samples => c.lockEvents i (.drainTake samples)
  | .drainTake samples =>
    some { c.move i (.drainUnlock samples c.mem.events) with mem := { c.mem with events := {} } }
  | .drainUnlock samples rollup =>
    some { c.move i (.drainClock samples rollup) with events := none }
  | .drainClock samples rollup =>
    some (c.move i (.drainOverflow samples (MetricsBuffer.usageRows rollup now)))
  | .drainOverflow samples rows =>
    some { c.move i (.drainNonBillable samples rows c.mem.droppedOverflow) with
      mem := { c.mem with droppedOverflow := 0 } }
  | .drainNonBillable samples rows overflow =>
    some { c.move i (.drainSeq samples rows overflow c.mem.droppedNonBillable) with
      mem := { c.mem with droppedNonBillable := 0 } }
  | .drainSeq samples rows overflow nonBillable =>
    let batch := .batch ⟨samples, overflow, nonBillable, c.mem.seq + 1, rows⟩
    some { c.move i (.unlock batch) with mem := { c.mem with seq := c.mem.seq + 1 } }
  | .requeue batch => c.lockRing i (.requeueSamples batch.samples.reverse batch)
  | .requeueSamples [] batch => some (c.move i (.requeueOverflow batch))
  | .requeueSamples (s :: left) batch =>
    some { c.move i (.requeueSamples left batch) with mem := MetricsBuffer.requeueSample s c.mem }
  | .requeueOverflow batch =>
    some { c.move i (.requeueNonBillable batch) with
      mem := { c.mem with droppedOverflow := c.mem.droppedOverflow + batch.droppedOverflow } }
  | .requeueNonBillable batch =>
    some { c.move i (.requeueLock batch) with
      mem := { c.mem with
        droppedNonBillable := c.mem.droppedNonBillable + batch.droppedNonBillable } }
  | .requeueLock batch => c.lockEvents i (.requeueRows batch.events)
  -- The guards go in reverse order, that of the rollup first.
  | .requeueRows [] => some { c.move i (.unlock .unit) with events := none }
  | .requeueRows (u :: left) =>
    some { c.move i (.requeueRows left) with
      mem := { c.mem with events := MetricsBuffer.requeueUsage c.mem.events u } }
  | .buffered => c.lockRing i .bufferedLen
  | .bufferedLen => some (c.move i (.unlock (.len c.mem.buffered)))
  | .notified =>
    some { c.move i (.finished (.woken c.mem.flushEarly)) with
      mem := { c.mem with flushEarly := false } }
  | .unlock answer => some { c.move i (.finished answer) with ring := none }
  | .finished _ => none

def step (c : LockedBuffer ι σ) : ThreadEvent ι σ → Option (LockedBuffer ι σ)
  | .call i op =>
    match c.pc i with
    | .idle => some (c.move i op.entry)
    | _     => none
  | .go i now => c.go i now
  | .ret i =>
    match c.pc i with
    | .finished _ => some (c.move i .idle)
    | _           => none

/-- The calls and the returns with their answers. -/
def seen (c : LockedBuffer ι σ) :
    ThreadEvent ι σ → List (Atomic.Seen ι (BufferOp σ) (BufferAnswer σ))
  | .call i op => [.call i op]
  | .go _ _    => []
  | .ret i     =>
    match c.pc i with
    | .finished answer => [.ret i answer]
    | _                => []

end LockedBuffer

end ControlPlaneClient
