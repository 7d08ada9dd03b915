import ControlPlaneClient.Logs.Sessions
import ControlPlaneClient.Metrics.OnWire

/-!
# What the log batches say

What can be read out of the `LogBatch`es that the transport takes: the lines themselves, up to a plugin
id that is set to nothing.
-/

namespace ControlPlaneClient

open Transition

def ProtoLevel.read : ProtoLevel → LogLevel
  | .trace => .trace
  | .debug => .debug
  | .info  => .info
  | .warn  => .warn
  | .error => .error

def LogLine.read (l : LogLine) : LogLineSample where
  loggedAt := l.loggedAt.read
  level := l.level.read
  target := l.target
  message := l.message
  pluginId := readField "" l.pluginId

/-- The line as a batch says it. -/
def LogLineSample.onWire (l : LogLineSample) : LogLineSample :=
  { l with pluginId := trimField "" l.pluginId }

/-- The message that a drained batch is sent as. -/
def LogDrained.toMessage (d : LogDrained) (now : DateTime) : Option AgentMessage :=
  logBatchToMessage d.lines d.dropped d.seq now

/-- The lines that can be read out of a message. -/
def AgentMessage.logLines : AgentMessage → List LogLineSample
  | .logBatch b => b.lines.map LogLine.read
  | _           => []

/-- How many lines a message says were dropped. -/
def AgentMessage.logDropped : AgentMessage → ℕ
  | .logBatch b => b.droppedOverflow
  | _           => 0

lemma read_toProto_level (l : LogLevel) : l.toProto.read = l := by cases l <;> rfl

lemma read_toLine (l : LogLineSample) : l.toLine.read = l.onWire := by
  rw [LogLineSample.toLine, LogLine.read, read_timestamp, read_toProto_level, readField_getD]
  rfl

/-- A batch with something to say is sent, and its lines and its drops can be read again. -/
lemma LogDrained.toMessage_of_size_pos {d : LogDrained} (h : 0 < d.size) (now : DateTime) :
    ∃ m, d.toMessage now = some m ∧ m.logLines = d.lines.map LogLineSample.onWire ∧
      m.logDropped = d.dropped := by
  have hsend : (d.lines.isEmpty && d.dropped == 0) = false := by
    by_contra hempty
    simp only [Bool.not_eq_false, Bool.and_eq_true, List.isEmpty_iff, beq_iff_eq] at hempty
    simp [size, hempty] at h
  refine ⟨_, by rw [toMessage, logBatchToMessage, hsend]; rfl, ?_, rfl⟩
  rw [AgentMessage.logLines, List.map_map]
  exact List.map_congr_left fun l _ => read_toLine l

/-- Reading a message for each of some batches reads the batches. -/
lemma exists_messages {ds : List LogDrained} (h : ∀ d ∈ ds, 0 < d.size) (clock : ℕ → DateTime) :
    ∃ ms : List AgentMessage, ds.map (fun d => d.toMessage (clock d.seq)) = ms.map some ∧
      ms.flatMap AgentMessage.logLines = (ds.flatMap LogDrained.lines).map LogLineSample.onWire ∧
      ms.map AgentMessage.logDropped = ds.map LogDrained.dropped := by
  induction ds with
  | nil => exact ⟨[], rfl, rfl, rfl⟩
  | cons d ds ih =>
    rw [List.forall_mem_cons] at h
    obtain ⟨m, hm, hlines, hdropped⟩ := LogDrained.toMessage_of_size_pos h.1 (clock d.seq)
    obtain ⟨ms, hms, hmslines, hmsdropped⟩ := ih h.2
    refine ⟨m :: ms, ?_, ?_, ?_⟩
    · rw [List.map_cons, List.map_cons, hm, hms]
    · rw [List.flatMap_cons, List.flatMap_cons, List.map_append, hlines, hmslines]
    · rw [List.map_cons, List.map_cons, hdropped, hmsdropped]

/-! ### The account -/

lemma logSizes_le_of_sublist {ds ds' : List LogDrained} (h : ds.Sublist ds') :
    logSizes ds ≤ logSizes ds' :=
  (h.map LogDrained.size).sum_le_sum fun _ _ => Nat.zero_le _

lemma logSizes_eq (ds : List LogDrained) :
    logSizes ds = (ds.flatMap LogDrained.lines).length + (ds.map LogDrained.dropped).sum := by
  induction ds with
  | nil => rfl
  | cons d ds ih =>
    rw [logSizes] at ih ⊢
    simp only [List.map_cons, List.sum_cons, ih, List.flatMap_cons, List.length_append,
      LogDrained.size]
    omega

namespace LogSessions

variable {cap batchCap : ℕ}

/-- The batches and the ring account for no more lines than were recorded. -/
structure Counted (cap : ℕ) (s : LogSessions) : Prop where
  cap  : s.lane.buffer.cap = cap
  told : logSizes s.batches + s.lane.buffer.size ≤ s.lane.recorded.length

lemma Effect.counted {s s' : LogSessions} (h : Effect s s') (hcap : 1 ≤ cap) (hs : s.Counted cap) :
    s'.Counted cap := by
  have htold := hs.told
  have hdrain := s.lane.buffer.drain_size
  cases h with
  | record line hb hbuf hr =>
    have hone := LogBuffer.record_size (hs.cap.symm ▸ hcap) line
    constructor
    · rw [hbuf, LogBuffer.record_cap, hs.cap]
    · rw [hb, hbuf, hr, hone, List.length_append, List.length_singleton, ← Nat.add_assoc]
      exact Nat.succ_le_succ htold
  | took hpos hb hbuf hr =>
    constructor
    · rw [hbuf]
      exact hs.cap
    · have hsize : s.lane.buffer.drained.size + s.lane.buffer.drain.2.size = s.lane.buffer.size :=
        hdrain
      rw [hb, hbuf, hr, logSizes_append, logSizes_singleton, Nat.add_assoc, hsize]
      exact htold
  | moved hb hbuf hr =>
    have hle := logSizes_le_of_sublist hb
    rw [← hr] at htold
    rcases hbuf with hbuf | hbuf
    · exact ⟨hbuf ▸ hs.cap, by rw [hbuf]; omega⟩
    · exact ⟨by rw [hbuf]; exact hs.cap, by rw [hbuf]; omega⟩

lemma init_counted (cap batchCap : ℕ) : (init cap batchCap).Counted cap := ⟨rfl, Nat.zero_le _⟩

/-- However sessions end and flush tasks linger: every log batch that the transport takes is a message,
whenever it is made. What is read out of the messages is recorded lines in the order of their
recording, and with the lines that they say were dropped it is no more than was recorded. -/
theorem log_messages_read_back (cap batchCap : ℕ) (hcap : 1 ≤ cap) (es : List LogSessionEvent)
    (s : LogSessions) (h : exec step (init cap batchCap) es = some s) (clock : ℕ → DateTime) :
    ∃ ms : List AgentMessage, s.taken.map (fun d => d.toMessage (clock d.seq)) = ms.map some ∧
      (ms.flatMap AgentMessage.logLines).Sublist (s.lane.recorded.map LogLineSample.onWire) ∧
      (ms.flatMap AgentMessage.logLines).length + (ms.map AgentMessage.logDropped).sum ≤
        s.lane.recorded.length := by
  have horder := exec_inOrder h
  have hcounted : s.Counted cap := exec_invariant
    (fun _ _ _ hs hstep => (step_effect hstep).counted hcap hs) (init_counted cap batchCap) h
  have htaken := s.taken_sublist_batches
  obtain ⟨ms, hms, hlines, hdropped⟩ :=
    exists_messages (fun d hd => horder.filled d (htaken.subset hd)) clock
  refine ⟨ms, hms, ?_, ?_⟩
  · rw [hlines]
    exact (((htaken.flatMap _).trans (List.sublist_append_left _ _)).trans horder.lines).map _
  · rw [hlines, hdropped, List.length_map, ← logSizes_eq]
    calc logSizes s.taken ≤ logSizes s.batches := logSizes_le_of_sublist htaken
      _ ≤ logSizes s.batches + s.lane.buffer.size := Nat.le_add_right _ _
      _ ≤ s.lane.recorded.length := hcounted.told

/-- Two lines in a ring for one, and a third that the next session sends. -/
def overflowing : List LogSessionEvent :=
  [.record (LogLane.sampleLine "m0"), .record (LogLane.sampleLine "m1"), .opens, .task 0 .tick,
    .task 0 .sent, .take, .ends, .record (LogLane.sampleLine "m2"), .opens, .task 1 .tick,
    .task 1 .sent, .take]

theorem log_messages_read_back_overflowing :
    ∃ (s : LogSessions) (ms : List AgentMessage), exec step (init 1 1) overflowing = some s ∧
      s.taken.map LogDrained.dropped = [1, 0] ∧
      s.taken.map (fun d => d.toMessage 0) = ms.map some ∧
      (ms.flatMap AgentMessage.logLines).Sublist (s.lane.recorded.map LogLineSample.onWire) ∧
      (ms.flatMap AgentMessage.logLines).length + (ms.map AgentMessage.logDropped).sum ≤
        s.lane.recorded.length := by
  obtain ⟨ms, hms, hlines, hcount⟩ :=
    log_messages_read_back 1 1 le_rfl overflowing _ rfl fun _ => 0
  exact ⟨_, ms, rfl, rfl, hms, hlines, hcount⟩

end LogSessions

end ControlPlaneClient
