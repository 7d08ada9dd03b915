import ControlPlaneClient.Metrics.Flush

/-!
# Conservation in the metrics lane

Every recorded sample is, at every moment, in exactly one place: reported, drained and on its
way, or still owed by the buffer, as a sample or as one unit of its class's drop count. This holds
for the billable and for the non-billable samples separately, whatever the capacities are and
however many instances of the flush loop take part.
-/

namespace ControlPlaneClient

open Transition

variable {σ : Type*} [HasOutcome σ]

/-! ### Reports -/

/-- `ToolOutcome::counts_toward_usage` of the control plane. -/
def ToolOutcome.countsTowardUsage : ToolOutcome → Bool
  | .policyDenied | .quotaExceeded | .idempotentReplay => false
  | .ok | .clientError | .serverError                  => true

/-- Invocations of a class in a report. -/
def MetricsReport.count (r : MetricsReport) (c : Bool) : ℕ :=
  r.invocations.countP fun i => i.outcome.countsTowardUsage == c

/-- The drop count of a class in a report. -/
def MetricsReport.dropped (r : MetricsReport) (c : Bool) : ℕ :=
  if c then r.droppedOverflow else r.droppedNonBillable

/-- The batch without the ghost numbers of its samples. -/
def Drained.erase (d : Drained Arrival) : Drained ToolCallSample :=
  { d with samples := d.samples.map Arrival.sample }

lemma toProto_countsTowardUsage (o : SampleOutcome) :
    o.toProto.countsTowardUsage = o.isBillable := by
  cases o <;> rfl

/-- A report carries what its batch owes. -/
lemma toReport_owed (d : Drained Arrival) (now : DateTime) (c : Bool) :
    (d.erase.toReport now).count c + (d.erase.toReport now).dropped c = d.owed c := by
  have hcount : (d.erase.toReport now).count c = count c d.samples := by
    simp only [MetricsReport.count, Drained.toReport, Drained.erase, List.map_map, count,
      List.countP_map]
    congr 1
    funext a
    simp [ToolCallSample.toInvocation, toProto_countsTowardUsage, billable, outcome]
  rw [hcount, Drained.owed]
  cases c <;> rfl

/-! ### Batches -/

/-- What a list of batches owes of a class. -/
def owedAll (ds : List (Drained σ)) (c : Bool) : ℕ := (ds.map fun d => d.owed c).sum

@[simp] lemma owedAll_nil (c : Bool) : owedAll ([] : List (Drained σ)) c = 0 := rfl

@[simp] lemma owedAll_singleton (d : Drained σ) (c : Bool) : owedAll [d] c = d.owed c := by
  simp [owedAll]

@[simp] lemma owedAll_append (ds es : List (Drained σ)) (c : Bool) :
    owedAll (ds ++ es) c = owedAll ds c + owedAll es c := by
  simp [owedAll]

@[simp] lemma recordEvents_owed (b : MetricsBuffer σ) (now : DateTime) (n m : String)
    (k : EventCounts) (c : Bool) : (b.recordEvents now n m k).owed c = b.owed c := by
  rw [MetricsBuffer.recordEvents]
  split <;> rfl

lemma dropInFlight_owed (b : MetricsBuffer σ) (d : Drained σ) (c : Bool) :
    (b.dropInFlight d).owed c = b.owed c + d.owed c := by
  rw [MetricsBuffer.dropInFlight]
  split
  · rw [Drained.owed_eq_zero_of_isEmpty ‹_›, Nat.add_zero]
  · exact b.requeueFront_owed d c

/-- An instance of the flush loop moves what is owed between the buffer, its guard and the
outbound channel. -/
lemma FlushEffect.owed {b b' : MetricsBuffer σ} {e : FlushEvent} {held held' : Option (Drained σ)}
    {out : List (Drained σ)} (h : FlushEffect b e held b' held' out) (c : Bool) :
    b'.owed c + owedAll held'.toList c + owedAll out c = b.owed c + owedAll held.toList c := by
  cases h with
  | idle e permit => rfl
  | took now hne =>
    have := b.drain_owed now c
    simp only [Option.toList, owedAll_singleton, owedAll_nil]
    omega
  | tookNothing now hempty =>
    have := b.drain_owed now c
    rw [Drained.owed_eq_zero_of_isEmpty hempty] at this
    simp only [Option.toList, owedAll_nil]
    omega
  | handedOver d => simp
  | returned e d he => simp [dropInFlight_owed]

/-! ### The lane -/

namespace Lane

/-- Every recorded sample is accounted for. -/
def Conserved (l : Lane) : Prop :=
  ∀ c, count c l.recorded = owedAll l.handed c + owedAll l.outstanding c + l.buffer.owed c

/-- A step adds to the recorded samples what it adds to the accounts. -/
lemma Effect.balance {l l' : Lane} {e : LaneEvent} (h : Effect l e l') (c : Bool) :
    count c l'.recorded + (owedAll l.handed c + owedAll l.outstanding c + l.buffer.owed c) =
      count c l.recorded +
        (owedAll l'.handed c + owedAll l'.outstanding c + l'.buffer.owed c) := by
  cases h with
  | record s hb ho hr hh =>
    rw [hb, ho, hr, hh, MetricsBuffer.record_owed, count_append]
    simp only [count_cons, count_nil]
    omega
  | recordEvents now n m k hb ho hr hh => rw [hb, ho, hr, hh, recordEvents_owed]
  | spawn hb ho hr hh => rw [hb, ho, hr, hh]
  | task i e held held' out xs ys hheld he ho ho' hr hh =>
    have hmove := he.owed c
    rw [hr, hh, ho, ho']
    simp only [owedAll_append]
    omega

lemma Effect.conserved {l l' : Lane} {e : LaneEvent} (h : Effect l e l') (hl : l.Conserved) :
    l'.Conserved := by
  intro c
  have hc := hl c
  have hbalance := h.balance c
  omega

lemma init_conserved (cap batchCap : ℕ) : (init cap batchCap).Conserved := by
  intro c
  cases c <;> rfl

lemma exec_conserved {cap batchCap : ℕ} {es : List LaneEvent} {l : Lane}
    (h : exec step (init cap batchCap) es = some l) : l.Conserved :=
  exec_invariant (fun _ _ _ hl hstep => (step_effect hstep).conserved hl)
    (init_conserved cap batchCap) h

/-- The reports handed to the outbound channel, built at `now`. -/
def reports (l : Lane) (now : DateTime) : List MetricsReport :=
  l.handed.map fun d => d.erase.toReport now

/-- The samples of a class recorded so far are those in the handed-over reports, in the batches on
their way and in the ring, each with the drop counts of the class. -/
theorem recorded_eq_reported_add_owed (cap batchCap : ℕ) (es : List LaneEvent) (l : Lane)
    (h : exec step (init cap batchCap) es = some l) (now : DateTime) (c : Bool) :
    count c l.recorded =
      ((l.reports now).map fun r => r.count c + r.dropped c).sum +
      (l.outstanding.map fun d => count c d.samples + d.dropped c).sum +
      count c l.buffer.buf.samples + l.buffer.dropped c := by
  have hreports : ((l.reports now).map fun r => r.count c + r.dropped c).sum =
      owedAll l.handed c := by
    rw [reports, List.map_map, owedAll]
    exact congrArg List.sum (List.map_congr_left fun d _ => toReport_owed d now c)
  rw [hreports, exec_conserved h c, Nat.add_assoc _ (count c l.buffer.buf.samples)]
  rfl

/-- A one-slot buffer that drops a refusal on arrival, ships one report, and then overflows when
an aborted flush returns its batch. -/
theorem recorded_eq_reported_add_owed_one_slot :
    let call (o : SampleOutcome) : LaneEvent := .record (.plain "github" "list_repos" o 5)
    let es := [call .ok, call .quotaExceeded, call .serverError, .spawn, .task 0 .tick,
      .task 0 (.drain 0), .task 0 .sent, call .ok, .spawn, .task 1 .tick, .task 1 (.drain 0),
      call .clientError, .task 1 .abort]
    ∃ l, exec step (init 1 1) es = some l ∧ l.buffer.droppedOverflow = 1 ∧
      count true l.recorded =
        ((l.reports 0).map fun r => r.count true + r.dropped true).sum +
        (l.outstanding.map fun d => count true d.samples + d.dropped true).sum +
        count true l.buffer.buf.samples + l.buffer.dropped true := by
  intro call es
  have hrun : ∃ l, exec step (init 1 1) es = some l ∧ l.buffer.droppedOverflow = 1 :=
    ⟨_, rfl, rfl⟩
  obtain ⟨l, hl, hdrop⟩ := hrun
  exact ⟨l, hl, hdrop, recorded_eq_reported_add_owed 1 1 es l hl 0 true⟩

end Lane

end ControlPlaneClient
