import ControlPlaneClient.Metrics.Buffer

/-!
# What a report says

What can be read out of the `MetricsReport` made of a batch: everything, up to an optional field that is
set to nothing, the part of a duration below the millisecond or above the largest `u32`, and the key
version of a payload that is not encrypted.
-/

namespace ControlPlaneClient

/-! ### Reading a report -/

/-- The instant that a time stamp names. -/
def Timestamp.read (t : Timestamp) : DateTime := t.seconds * nanosPerSec + t.nanos

/-- A field of the wire is optional by being empty. -/
def readField {α : Type} [DecidableEq α] (empty x : α) : Option α := if x = empty then none else some x

def ToolOutcome.read : ToolOutcome → SampleOutcome
  | .ok               => .ok
  | .clientError      => .clientError
  | .serverError      => .serverError
  | .policyDenied     => .policyDenied
  | .quotaExceeded    => .quotaExceeded
  | .idempotentReplay => .idempotentReplay

def ToolInvocationSample.read (i : ToolInvocationSample) : ToolCallSample where
  pluginId := i.pluginId
  toolName := i.toolName
  bindingId := readField "" i.bindingId
  startedAt := i.startedAt.read
  duration := Duration.ofMillis i.durationMs
  outcome := i.outcome.read
  errorCode := readField "" i.errorCode
  errorHash := readField "" i.errorHash
  requestId := readField "" i.requestId
  callerSubject := readField "" i.callerSubject
  requestPayload := readField [] i.requestPayload
  responsePayload := readField [] i.responsePayload
  payloadEncrypted := i.payloadEncrypted
  dekVersion := i.dekVersion

def EventUsageSample.read (u : EventUsageSample) : EventUsage where
  eventName := u.eventName
  mode := u.mode
  counts := ⟨u.delivered, u.abandoned, u.ingested, u.bytes⟩
  windowStart := u.windowStart.read
  windowEnd := u.windowEnd.read

def MetricsReport.read (r : MetricsReport) : Drained ToolCallSample where
  samples := r.invocations.map ToolInvocationSample.read
  droppedOverflow := r.droppedOverflow
  droppedNonBillable := r.droppedNonBillable
  seq := r.seq
  events := r.events.map EventUsageSample.read

/-! ### What is left of a sample -/

/-- An optional field, set only when there is something in it. -/
def trimField {α : Type} [DecidableEq α] (empty : α) (x : Option α) : Option α :=
  x.bind (readField empty)

/-- The part of a duration that a report has room for. -/
def Duration.wholeMillis (d : Duration) : Duration := Duration.ofMillis (min (d / 1_000_000) maxU32)

/-- The sample as a report says it. -/
def ToolCallSample.onWire (s : ToolCallSample) : ToolCallSample where
  pluginId := s.pluginId
  toolName := s.toolName
  bindingId := trimField "" s.bindingId
  startedAt := s.startedAt
  duration := s.duration.wholeMillis
  outcome := s.outcome
  errorCode := trimField "" s.errorCode
  errorHash := trimField "" s.errorHash
  requestId := trimField "" s.requestId
  callerSubject := trimField "" s.callerSubject
  requestPayload := trimField [] s.requestPayload
  responsePayload := trimField [] s.responsePayload
  payloadEncrypted := s.payloadEncrypted
  dekVersion := if s.payloadEncrypted then s.dekVersion else 0

def Drained.onWire (d : Drained ToolCallSample) : Drained ToolCallSample :=
  { d with samples := d.samples.map ToolCallSample.onWire }

section Fields

variable {α : Type} [DecidableEq α] (empty : α) (x : Option α)

lemma readField_getD : readField empty (x.getD empty) = trimField empty x := by
  cases x with
  | none => simp [readField, trimField]
  | some a => rfl

lemma trimField_getD : (trimField empty x).getD empty = x.getD empty := by
  cases x with
  | none => rfl
  | some a => by_cases ha : a = empty <;> simp [readField, trimField, ha]

end Fields

lemma read_timestamp (t : DateTime) : (timestamp t).read = t := Int.fdiv_mul_add_fmod t nanosPerSec

lemma read_toProto (o : SampleOutcome) : o.toProto.read = o := by cases o <;> rfl

lemma Duration.wholeMillis_le (d : Duration) : d.wholeMillis ≤ d := by
  have hmillis : min (d / 1_000_000) maxU32 ≤ d / 1_000_000 := Nat.min_le_left _ _
  calc d.wholeMillis ≤ d / 1_000_000 * 1_000_000 := Nat.mul_le_mul_right 1_000_000 hmillis
    _ ≤ d := Nat.div_mul_le_self d 1_000_000

/-- Less than a millisecond is lost of a duration that has room. -/
lemma Duration.lt_wholeMillis_add {d : Duration} (h : d / 1_000_000 ≤ maxU32) :
    d < d.wholeMillis + 1_000_000 := by
  rw [wholeMillis, Nat.min_eq_left h, ofMillis]
  exact Nat.lt_div_mul_add (by decide)

lemma wholeMillis_div (d : Duration) :
    min (d.wholeMillis / 1_000_000) maxU32 = min (d / 1_000_000) maxU32 := by
  rw [Duration.wholeMillis, Duration.ofMillis, Nat.mul_div_cancel _ (by decide), min_assoc, min_self]

/-- What is read of the invocation that a sample is sent as. -/
lemma read_toInvocation (s : ToolCallSample) : s.toInvocation.read = s.onWire := by
  simp only [ToolCallSample.toInvocation, ToolInvocationSample.read, ToolCallSample.onWire,
    readField_getD, read_timestamp, read_toProto, Duration.wholeMillis]

/-- What is left of a sample is sent in the same way. -/
lemma toInvocation_onWire (s : ToolCallSample) : s.onWire.toInvocation = s.toInvocation := by
  by_cases hencrypted : s.payloadEncrypted <;>
    simp [ToolCallSample.toInvocation, ToolCallSample.onWire, trimField_getD, wholeMillis_div,
      hencrypted]

lemma read_toSample (u : EventUsage) : u.toSample.read = u := by
  simp only [EventUsage.toSample, EventUsageSample.read, read_timestamp]

/-! ### Batches -/

lemma read_toReport (d : Drained ToolCallSample) (now : DateTime) : (d.toReport now).read = d.onWire := by
  have hsamples : d.samples.map (ToolInvocationSample.read ∘ ToolCallSample.toInvocation) =
      d.samples.map ToolCallSample.onWire := List.map_congr_left fun s _ => read_toInvocation s
  have hevents : d.events.map (EventUsageSample.read ∘ EventUsage.toSample) = d.events :=
    (List.map_congr_left fun u _ => read_toSample u).trans (List.map_id d.events)
  rw [Drained.toReport, MetricsReport.read, List.map_map, List.map_map, hsamples, hevents]
  rfl

lemma toReport_onWire (d : Drained ToolCallSample) (now : DateTime) :
    d.onWire.toReport now = d.toReport now := by
  have hsamples : d.samples.map (ToolCallSample.toInvocation ∘ ToolCallSample.onWire) =
      d.samples.map ToolCallSample.toInvocation := List.map_congr_left fun s _ => toInvocation_onWire s
  rw [Drained.toReport, Drained.onWire, List.map_map, hsamples]
  rfl

/-- What is said of a sample keeps its outcome, so it is billed as the sample is, the instant it started
at, and its duration to the millisecond if that fits. -/
lemma onWire_keeps (s : ToolCallSample) :
    billable s.onWire = billable s ∧ s.onWire.startedAt = s.startedAt ∧
      s.onWire.duration ≤ s.duration ∧
      (s.duration / 1_000_000 ≤ maxU32 → s.duration < s.onWire.duration + 1_000_000) :=
  ⟨rfl, rfl, s.duration.wholeMillis_le, Duration.lt_wholeMillis_add⟩

/-- Two batches are sent as the same message exactly if both are empty and nothing is sent, or neither
is, they are sent in the same second and they agree up to what a report leaves out. -/
theorem toMessage_eq_iff (d d' : Drained ToolCallSample) (now now' : DateTime) :
    d.toMessage now = d'.toMessage now' ↔
      d.isEmpty = true ∧ d'.isEmpty = true ∨
      d.isEmpty = false ∧ d'.isEmpty = false ∧ now.timestamp = now'.timestamp ∧
        d.onWire = d'.onWire := by
  constructor
  · intro h
    rw [Drained.toMessage, Drained.toMessage] at h
    cases hd : d.isEmpty with
    | true =>
      cases hd' : d'.isEmpty with
      | true => exact Or.inl ⟨rfl, rfl⟩
      | false => simp [hd, hd'] at h
    | false =>
      cases hd' : d'.isEmpty with
      | true => simp [hd, hd'] at h
      | false =>
        have hreport : d.toReport now = d'.toReport now' := by simpa [hd, hd'] using h
        refine Or.inr ⟨rfl, rfl, ?_, ?_⟩
        · have hstamp := congrArg MetricsReport.sentAt hreport
          exact congrArg Timestamp.seconds hstamp
        · rw [← read_toReport d now, hreport, read_toReport]
  · rintro (⟨hd, hd'⟩ | ⟨hd, hd', hnow, hwire⟩)
    · rw [Drained.toMessage, Drained.toMessage, hd, hd']
      rfl
    · have hreport : d.toReport now = d'.toReport now' := by
        rw [← toReport_onWire d, ← toReport_onWire d', hwire, Drained.toReport, Drained.toReport,
          stampSeconds, stampSeconds, hnow]
      rw [Drained.toMessage, Drained.toMessage, hd, hd', hreport]

end ControlPlaneClient
