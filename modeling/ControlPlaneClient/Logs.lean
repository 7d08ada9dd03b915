import ControlPlaneClient.Wire

/-!
# The log buffer

`LogBuffer` of `logs.rs`: a bounded ring of recent log lines that drops the oldest line when it
is full. The `AtomicU64` counters are natural numbers, as in the metrics buffer.
-/

namespace ControlPlaneClient

inductive LogLevel
  | trace | debug | info | warn | error
  deriving DecidableEq

def LogLevel.toProto : LogLevel → ProtoLevel
  | .trace => .trace
  | .debug => .debug
  | .info  => .info
  | .warn  => .warn
  | .error => .error

structure LogLineSample where
  loggedAt : DateTime
  level    : LogLevel
  target   : String
  message  : String
  pluginId : Option String
  deriving DecidableEq

structure LogBuffer where
  buf             : List LogLineSample
  cap             : ℕ
  batchCap        : ℕ
  droppedOverflow : ℕ
  seq             : ℕ

namespace LogBuffer

def withCaps (cap batchCap : ℕ) : LogBuffer := ⟨[], cap, batchCap, 0, 0⟩

def defaultLogBufferCap : ℕ := 5_000

def defaultLogBatchCap : ℕ := 500

def new : LogBuffer := withCaps defaultLogBufferCap defaultLogBatchCap

/-- Record one line. A full buffer counts a drop whether or not it had a line to drop. -/
def record (b : LogBuffer) (line : LogLineSample) : LogBuffer :=
  if b.cap ≤ b.buf.length then
    { b with buf := b.buf.drop 1 ++ [line], droppedOverflow := b.droppedOverflow + 1 }
  else { b with buf := b.buf ++ [line] }

/-- Drain up to `batch_cap` oldest lines, the dropped count since the last drain and the next
sequence number. -/
def drain (b : LogBuffer) : (List LogLineSample × ℕ × ℕ) × LogBuffer :=
  let n := min b.buf.length b.batchCap
  ((b.buf.take n, b.droppedOverflow, b.seq + 1),
    { b with buf := b.buf.drop n, droppedOverflow := 0, seq := b.seq + 1 })

end LogBuffer

def LogLineSample.toLine (l : LogLineSample) : LogLine where
  loggedAt := timestamp l.loggedAt
  level := l.level.toProto
  target := l.target
  message := l.message
  pluginId := l.pluginId.getD ""

/-- `logs::batch_to_message`. -/
def logBatchToMessage (lines : List LogLineSample) (dropped seq : ℕ) (now : DateTime) :
    Option AgentMessage :=
  if lines.isEmpty && dropped == 0 then none
  else some (.logBatch ⟨stampSeconds now, seq, lines.map LogLineSample.toLine, dropped⟩)

end ControlPlaneClient
