import ControlPlaneClient.Lib.SortedMap
import ControlPlaneClient.Wire

/-!
# The metrics buffer

`MetricsBuffer` of `metrics.rs`: a bounded ring of samples, two counters of what was dropped on
overflow, and a rollup of MCP Events usage. Every operation holds the ring's lock from its first
to its last access, so each is one step here.

The ring reads nothing of a sample but its outcome. It is therefore modelled over any type of
samples with an outcome; the gateway records `ToolCallSample`s.

The `AtomicU64` counters (`dropped_overflow`, `dropped_non_billable`, `seq`) are natural numbers.
The counts of `EventCounts`, which the source adds with saturation, are `UInt64`s.
-/

namespace ControlPlaneClient

/-! ### Samples -/

inductive SampleOutcome
  | ok | clientError | serverError | policyDenied | quotaExceeded | idempotentReplay
  deriving DecidableEq

/-- Whether a call with this outcome counts toward billing and quota. -/
def SampleOutcome.isBillable : SampleOutcome → Bool
  | .policyDenied | .quotaExceeded | .idempotentReplay => false
  | .ok | .clientError | .serverError                  => true

def SampleOutcome.toProto : SampleOutcome → ToolOutcome
  | .ok               => .ok
  | .clientError      => .clientError
  | .serverError      => .serverError
  | .policyDenied     => .policyDenied
  | .quotaExceeded    => .quotaExceeded
  | .idempotentReplay => .idempotentReplay

structure ToolCallSample where
  pluginId         : String
  toolName         : String
  bindingId        : Option String
  startedAt        : DateTime
  duration         : Duration
  outcome          : SampleOutcome
  errorCode        : Option String
  errorHash        : Option String
  requestId        : Option String
  callerSubject    : Option String
  requestPayload   : Option Bytes
  responsePayload  : Option Bytes
  payloadEncrypted : Bool
  dekVersion       : UInt32
  deriving DecidableEq

/-- A sample with no optional field set. -/
def ToolCallSample.plain (pluginId toolName : String) (outcome : SampleOutcome)
    (duration : Duration) : ToolCallSample where
  pluginId := pluginId
  toolName := toolName
  bindingId := none
  startedAt := 0
  duration := duration
  outcome := outcome
  errorCode := none
  errorHash := none
  requestId := none
  callerSubject := none
  requestPayload := none
  responsePayload := none
  payloadEncrypted := false
  dekVersion := 0

/-- What the buffer reads of a sample. -/
class HasOutcome (σ : Type*) where
  outcome : σ → SampleOutcome

export HasOutcome (outcome)

instance : HasOutcome ToolCallSample := ⟨ToolCallSample.outcome⟩

variable {σ : Type*} [HasOutcome σ]

/-- Whether the sample is billable. -/
def billable (s : σ) : Bool := (outcome s).isBillable

/-! ### MCP Events usage -/

def maxU64 : UInt64 := 0xFFFFFFFFFFFFFFFF

def saturatingAdd (a b : UInt64) : UInt64 :=
  if a.toNat + b.toNat < 2 ^ 64 then a + b else maxU64

structure EventCounts where
  delivered : UInt64 := 0
  abandoned : UInt64 := 0
  ingested  : UInt64 := 0
  bytes     : UInt64 := 0
  deriving DecidableEq

def EventCounts.add (c other : EventCounts) : EventCounts where
  delivered := saturatingAdd c.delivered other.delivered
  abandoned := saturatingAdd c.abandoned other.abandoned
  ingested  := saturatingAdd c.ingested other.ingested
  bytes     := saturatingAdd c.bytes other.bytes

/-- MCP Events usage counted per (event type, mode) since `since`. -/
structure EventsRollup where
  since  : Option DateTime := none
  counts : SortedMap (String ×ₗ String) EventCounts := .empty

/-- `counts.entry((event_name, mode)).or_default().add(c)`. -/
def EventsRollup.count (r : EventsRollup) (eventName mode : String) (c : EventCounts) :
    EventsRollup :=
  { r with counts := r.counts.upsert (toLex (eventName, mode)) fun old => (old.getD {}).add c }

/-- One MCP Events rollup row of a report. -/
structure EventUsage where
  eventName   : String
  mode        : String
  counts      : EventCounts
  windowStart : DateTime
  windowEnd   : DateTime
  deriving DecidableEq

/-! ### The ring -/

/-- The buffered samples, oldest first, and how many of them are non-billable. -/
structure Ring (σ : Type*) where
  samples     : List σ
  nonBillable : ℕ

def Ring.pushBack (r : Ring σ) (s : σ) : Ring σ :=
  ⟨r.samples ++ [s], r.nonBillable + (!billable s).toNat⟩

def Ring.pushFront (r : Ring σ) (s : σ) : Ring σ :=
  ⟨s :: r.samples, r.nonBillable + (!billable s).toNat⟩

/-- Remove the sample at an index; `none`, and no change, when there is none. -/
def Ring.remove (r : Ring σ) (i : ℕ) : Option (σ × Ring σ) :=
  r.samples[i]?.map fun s => (s, ⟨r.samples.eraseIdx i, r.nonBillable - (!billable s).toNat⟩)

/-! ### The buffer -/

structure MetricsBuffer (σ : Type*) where
  buf                : Ring σ
  cap                : ℕ
  batchCap           : ℕ
  /-- Buffered samples at which the flush loop is woken before its tick. -/
  flushEarlyAt       : ℕ
  /-- The permit of the `Notify` that wakes the flush loop early. -/
  flushEarly         : Bool
  droppedOverflow    : ℕ
  droppedNonBillable : ℕ
  seq                : ℕ
  events             : EventsRollup

/-- Samples drained for one `MetricsReport`, with the drops counted since the previous drain. -/
structure Drained (σ : Type*) where
  samples            : List σ
  droppedOverflow    : ℕ
  droppedNonBillable : ℕ
  seq                : ℕ
  events             : List EventUsage

/-- Nothing to report: no samples, no drops and no event deliveries. -/
def Drained.isEmpty (d : Drained σ) : Bool :=
  d.samples.isEmpty && d.droppedOverflow == 0 && d.droppedNonBillable == 0 && d.events.isEmpty

namespace MetricsBuffer

def withCaps (cap batchCap : ℕ) : MetricsBuffer σ where
  buf := ⟨[], 0⟩
  cap := cap
  batchCap := batchCap
  flushEarlyAt := max (cap - cap / 5) 1
  flushEarly := false
  droppedOverflow := 0
  droppedNonBillable := 0
  seq := 0
  events := {}

def defaultBufferCap : ℕ := 5_000

def defaultBatchCap : ℕ := 500

def new : MetricsBuffer σ := withCaps defaultBufferCap defaultBatchCap

/-- Count MCP Events usage into the next report. `now` is the clock, read only when the rollup
has no start yet. -/
def recordEvents (b : MetricsBuffer σ) (now : DateTime) (eventName mode : String)
    (counts : EventCounts) : MetricsBuffer σ :=
  if counts = {} then b
  else
    let events := { b.events with since := some (b.events.since.getD now) }
    { b with events := events.count eventName mode counts }

def countDrop (b : MetricsBuffer σ) (o : SampleOutcome) : MetricsBuffer σ :=
  if o.isBillable then { b with droppedOverflow := b.droppedOverflow + 1 }
  else { b with droppedNonBillable := b.droppedNonBillable + 1 }

/-- The wake that precedes a record: past the high-water mark the flush loop gets a permit. -/
def notifyFlush (b : MetricsBuffer σ) : MetricsBuffer σ :=
  if b.flushEarlyAt ≤ b.buf.samples.length + 1 then { b with flushEarly := true } else b

/-- The index of the sample that a full ring gives up to an arriving billable one. -/
def victim (r : Ring σ) : ℕ :=
  if 0 < r.nonBillable then (r.samples.findIdx? fun s => !billable s).getD 0 else 0

/-- Give up one sample and count it. A ring with nothing to give up is left alone. -/
def evict (b : MetricsBuffer σ) : MetricsBuffer σ :=
  match b.buf.remove (victim b.buf) with
  | some (dropped, ring) => { b with buf := ring }.countDrop (outcome dropped)
  | none                 => b

/-- Record one sample. -/
def record (b : MetricsBuffer σ) (s : σ) : MetricsBuffer σ :=
  let b := b.notifyFlush
  if b.cap ≤ b.buf.samples.length then
    -- A flood of refusals is dropped on arrival, without a scan.
    if !billable s then b.countDrop (outcome s)
    else
      let b := b.evict
      { b with buf := b.buf.pushBack s }
  else { b with buf := b.buf.pushBack s }

/-- The rows of a rollup drained at `now`, in key order. -/
def usageRows (r : EventsRollup) (now : DateTime) : List EventUsage :=
  r.counts.entries.map fun e =>
    ⟨(ofLex e.1).1, (ofLex e.1).2, e.2, r.since.getD now, now⟩

/-- The batch that `drain` takes. -/
def drained (b : MetricsBuffer σ) (now : DateTime) : Drained σ where
  samples := b.buf.samples.take (min b.buf.samples.length b.batchCap)
  droppedOverflow := b.droppedOverflow
  droppedNonBillable := b.droppedNonBillable
  seq := b.seq + 1
  events := usageRows b.events now

/-- What `drain` leaves. -/
def afterDrain (b : MetricsBuffer σ) : MetricsBuffer σ :=
  let n := min b.buf.samples.length b.batchCap
  let drainedNonBillable := (b.buf.samples.take n).countP fun s => !billable s
  { b with
    buf := ⟨b.buf.samples.drop n, b.buf.nonBillable - drainedNonBillable⟩
    droppedOverflow := 0
    droppedNonBillable := 0
    seq := b.seq + 1
    events := {} }

/-- Drain up to `batch_cap` oldest samples and the drops counted since the previous drain,
resetting both counters. -/
def drain (b : MetricsBuffer σ) (now : DateTime) : Drained σ × MetricsBuffer σ :=
  (b.drained now, b.afterDrain)

/-- Put one sample of a returned batch back at the front, or count it when it does not fit. -/
def requeueSample (s : σ) (b : MetricsBuffer σ) : MetricsBuffer σ :=
  if b.cap ≤ b.buf.samples.length then b.countDrop (outcome s)
  else { b with buf := b.buf.pushFront s }

/-- Merge one row of a returned batch into the rollup. -/
def requeueUsage (r : EventsRollup) (u : EventUsage) : EventsRollup :=
  let since := r.since.getD u.windowStart
  { r with since := some (min since u.windowStart) }.count u.eventName u.mode u.counts

/-- Put a drained batch back at the front of the buffer, oldest first, and restore its dropped
counts. Samples that no longer fit are counted as dropped. -/
def requeueFront (b : MetricsBuffer σ) (batch : Drained σ) : MetricsBuffer σ :=
  -- In reverse, because each push puts its sample ahead of the last.
  let b := batch.samples.foldr requeueSample b
  { b with
    droppedOverflow := b.droppedOverflow + batch.droppedOverflow
    droppedNonBillable := b.droppedNonBillable + batch.droppedNonBillable
    events := batch.events.foldl requeueUsage b.events }

/-- Samples waiting for the next flush. -/
def buffered (b : MetricsBuffer σ) : ℕ := b.buf.samples.length

end MetricsBuffer

/-! ### Reports -/

def maxU32 : ℕ := 2 ^ 32 - 1

def ToolCallSample.toInvocation (s : ToolCallSample) : ToolInvocationSample where
  pluginId := s.pluginId
  toolName := s.toolName
  bindingId := s.bindingId.getD ""
  startedAt := timestamp s.startedAt
  durationMs := min (s.duration / 1_000_000) maxU32
  outcome := s.outcome.toProto
  errorCode := s.errorCode.getD ""
  errorHash := s.errorHash.getD ""
  requestId := s.requestId.getD ""
  callerSubject := s.callerSubject.getD ""
  requestPayload := s.requestPayload.getD []
  responsePayload := s.responsePayload.getD []
  payloadEncrypted := s.payloadEncrypted
  -- A plaintext payload is never labelled with a key version.
  dekVersion := if s.payloadEncrypted then s.dekVersion else 0

def EventUsage.toSample (u : EventUsage) : EventUsageSample where
  eventName := u.eventName
  mode := u.mode
  delivered := u.counts.delivered
  abandoned := u.counts.abandoned
  ingested := u.counts.ingested
  bytes := u.counts.bytes
  windowStart := timestamp u.windowStart
  windowEnd := timestamp u.windowEnd

def Drained.toReport (d : Drained ToolCallSample) (now : DateTime) : MetricsReport where
  sentAt := stampSeconds now
  seq := d.seq
  invocations := d.samples.map ToolCallSample.toInvocation
  droppedOverflow := d.droppedOverflow
  droppedNonBillable := d.droppedNonBillable
  events := d.events.map EventUsage.toSample

/-- `metrics::batch_to_message`: nothing is sent for an empty batch, but drops alone are. -/
def Drained.toMessage (d : Drained ToolCallSample) (now : DateTime) : Option AgentMessage :=
  if d.isEmpty then none else some (.metricsReport (d.toReport now))

end ControlPlaneClient
