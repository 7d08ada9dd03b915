import ControlPlaneClient.Metrics.Traffic

/-!
# MCP Events usage

What a rollup and the rows of a batch hold per event type and mode, and how `record_events`,
`drain` and `requeue_front` change it. A returned batch is merged into a rollup that may have
gained newer counts in the meantime: counts add, and the start becomes the earlier of the two.

`Rolls` and `Covers` relate a rollup and the rows of a batch to the calls they count: the counts
are their sums, and the window of a row has all of them in it.
-/

namespace ControlPlaneClient

variable {σ : Type*}

/-! ### Amounts -/

/-- What `EventCounts` counts. -/
inductive UsageField
  | delivered | abandoned | ingested | bytes
  deriving DecidableEq

def EventCounts.field (c : EventCounts) : UsageField → ℕ
  | .delivered => c.delivered.toNat
  | .abandoned => c.abandoned.toNat
  | .ingested  => c.ingested.toNat
  | .bytes     => c.bytes.toNat

/-- A call of `record_events`, with the clock at the call. -/
structure EventCall where
  time      : DateTime
  eventName : String
  mode      : String
  counts    : EventCounts
  deriving DecidableEq

def EventCall.key (c : EventCall) : String ×ₗ String := toLex (c.eventName, c.mode)

def EventUsage.key (u : EventUsage) : String ×ₗ String := toLex (u.eventName, u.mode)

/-- What a list of calls counted under a key. -/
def countedBy (k : String ×ₗ String) (f : UsageField) (calls : List EventCall) : ℕ :=
  ((calls.filter fun c => c.key = k).map fun c => c.counts.field f).sum

/-- What the rows of a batch say of a key. -/
def reported (k : String ×ₗ String) (f : UsageField) (rows : List EventUsage) : ℕ :=
  ((rows.filter fun u => u.key = k).map fun u => u.counts.field f).sum

/-- What a rollup holds of a key. -/
def EventsRollup.amount (r : EventsRollup) (k : String ×ₗ String) (f : UsageField) : ℕ :=
  (r.counts.get? k).elim 0 fun c => c.field f

@[simp] lemma countedBy_nil (k : String ×ₗ String) (f : UsageField) : countedBy k f [] = 0 := rfl

@[simp] lemma countedBy_append (k : String ×ₗ String) (f : UsageField) (cs ds : List EventCall) :
    countedBy k f (cs ++ ds) = countedBy k f cs + countedBy k f ds := by
  simp [countedBy]

@[simp] lemma reported_cons (k : String ×ₗ String) (f : UsageField) (u : EventUsage)
    (rows : List EventUsage) :
    reported k f (u :: rows) = (if u.key = k then u.counts.field f else 0) + reported k f rows := by
  by_cases hu : u.key = k
  · simp [reported, hu]
  · simp [reported, hu]

lemma toNat_saturatingAdd (a b : UInt64) :
    (saturatingAdd a b).toNat = min (a.toNat + b.toNat) (2 ^ 64 - 1) := by
  rw [saturatingAdd]
  split_ifs with h
  · rw [UInt64.toNat_add, Nat.mod_eq_of_lt h]
    omega
  · have hmax : maxU64.toNat = 2 ^ 64 - 1 := rfl
    omega

lemma EventCounts.field_add (c d : EventCounts) (f : UsageField) :
    (c.add d).field f = min (c.field f + d.field f) (2 ^ 64 - 1) := by
  cases f <;> exact toNat_saturatingAdd _ _

@[simp] lemma EventCounts.field_default (f : UsageField) : ({} : EventCounts).field f = 0 := by
  cases f <;> rfl

namespace EventsRollup

/-- Counts add up, unless the sum does not fit. -/
lemma amount_count (r : EventsRollup) (n m : String) (c : EventCounts) (k : String ×ₗ String)
    (f : UsageField)
    (hfits : r.amount k f + (if toLex (n, m) = k then c.field f else 0) ≤ 2 ^ 64 - 1) :
    (r.count n m c).amount k f = r.amount k f + if toLex (n, m) = k then c.field f else 0 := by
  simp only [amount, count, SortedMap.get?_upsert]
  by_cases hk : toLex (n, m) = k
  · subst hk
    rw [if_pos rfl] at hfits
    simp only [if_true, Option.elim_some, EventCounts.field_add]
    cases hold : r.counts.get? (toLex (n, m)) with
    | none =>
      simp only [amount, hold, Option.elim_none] at hfits
      simpa using hfits
    | some old =>
      simp only [amount, hold, Option.elim_some] at hfits
      exact min_eq_left hfits
  · rw [if_neg (Ne.symm hk), if_neg hk, Nat.add_zero]

/-- The rollup counts since `t` or earlier. -/
def StartsBy (r : EventsRollup) (t : DateTime) : Prop := ∃ s, r.since = some s ∧ s ≤ t

/-- The rollup has an entry for the key. -/
def Has (r : EventsRollup) (k : String ×ₗ String) : Prop := ∃ c, r.counts.get? k = some c

lemma StartsBy.mono {r : EventsRollup} {t t' : DateTime} (h : r.StartsBy t) (ht : t ≤ t') :
    r.StartsBy t' := by
  obtain ⟨s, hs, hle⟩ := h
  exact ⟨s, hs, hle.trans ht⟩

lemma has_count (r : EventsRollup) (n m : String) (c : EventCounts) (k : String ×ₗ String) :
    (r.count n m c).Has k ↔ k = toLex (n, m) ∨ r.Has k := by
  simp only [Has, count, SortedMap.get?_upsert]
  by_cases hk : k = toLex (n, m)
  · simp [hk]
  · simp [hk]

end EventsRollup

/-! ### Returned batches -/

namespace MetricsBuffer

@[simp] lemma countDrop_events (b : MetricsBuffer σ) (o : SampleOutcome) :
    (b.countDrop o).events = b.events := by
  rw [countDrop]; split <;> rfl

@[simp] lemma notifyFlush_events (b : MetricsBuffer σ) : b.notifyFlush.events = b.events := by
  rw [notifyFlush]; split <;> rfl

variable [HasOutcome σ]

@[simp] lemma evict_events (b : MetricsBuffer σ) : b.evict.events = b.events :=
  evict_frame events countDrop_events (fun _ _ => rfl) b

@[simp] lemma record_events (b : MetricsBuffer σ) (s : σ) : (b.record s).events = b.events := by
  simp only [record]
  split_ifs <;> simp

lemma requeueSamples_events (xs : List σ) (b : MetricsBuffer σ) :
    (xs.foldr requeueSample b).events = b.events :=
  requeueSamples_frame events countDrop_events (fun _ _ => rfl) xs b

lemma requeueFront_events (b : MetricsBuffer σ) (d : Drained σ) :
    (b.requeueFront d).events = d.events.foldl requeueUsage b.events := by
  simp only [requeueFront, requeueSamples_events]

lemma requeueUsage_startsBy (r : EventsRollup) (u : EventUsage) :
    (requeueUsage r u).StartsBy u.windowStart :=
  ⟨_, rfl, min_le_right _ _⟩

lemma requeueUsage_startsBy_of {r : EventsRollup} {t : DateTime} (h : r.StartsBy t)
    (u : EventUsage) : (requeueUsage r u).StartsBy t := by
  obtain ⟨s, hs, hle⟩ := h
  refine ⟨_, rfl, ?_⟩
  rw [hs]
  exact (min_le_left _ _).trans hle

lemma foldl_requeueUsage_startsBy {r : EventsRollup} {t : DateTime} (h : r.StartsBy t)
    (rows : List EventUsage) : (rows.foldl requeueUsage r).StartsBy t := by
  induction rows generalizing r with
  | nil => exact h
  | cons u rows ih => exact ih (requeueUsage_startsBy_of h u)

/-- The start of the rollup is no later than that of any row merged into it. -/
lemma foldl_requeueUsage_startsBy_of_mem (r : EventsRollup) {rows : List EventUsage}
    {u : EventUsage} (hu : u ∈ rows) : (rows.foldl requeueUsage r).StartsBy u.windowStart := by
  induction rows generalizing r with
  | nil => cases hu
  | cons v rows ih =>
    rcases List.mem_cons.mp hu with rfl | hu
    · exact foldl_requeueUsage_startsBy (requeueUsage_startsBy r u) rows
    · exact ih (requeueUsage r v) hu

lemma foldl_requeueUsage_has (r : EventsRollup) (rows : List EventUsage) (k : String ×ₗ String) :
    (rows.foldl requeueUsage r).Has k ↔ (∃ u ∈ rows, u.key = k) ∨ r.Has k := by
  induction rows generalizing r with
  | nil => simp
  | cons u rows ih =>
    have hone : (requeueUsage r u).Has k ↔ u.key = k ∨ r.Has k := by
      rw [requeueUsage, EventsRollup.has_count, eq_comm]
      rfl
    rw [List.foldl_cons, ih, hone, List.exists_mem_cons_iff, or_assoc, or_left_comm]

lemma foldl_requeueUsage_begun {r : EventsRollup} {rows : List EventUsage} {t : DateTime}
    (h : ∀ s, r.since = some s → s ≤ t) (hrows : ∀ u ∈ rows, u.windowStart ≤ t) :
    ∀ s, (rows.foldl requeueUsage r).since = some s → s ≤ t := by
  induction rows generalizing r with
  | nil => exact h
  | cons u rows ih =>
    rw [List.forall_mem_cons] at hrows
    refine ih ?_ hrows.2
    intro s hs
    cases hs
    exact (min_le_right _ _).trans hrows.1

/-- A batch adds what its rows say, unless a sum does not fit. -/
lemma foldl_requeueUsage_amount {r : EventsRollup} {rows : List EventUsage}
    {k : String ×ₗ String} {f : UsageField}
    (hfits : r.amount k f + reported k f rows ≤ 2 ^ 64 - 1) :
    (rows.foldl requeueUsage r).amount k f = r.amount k f + reported k f rows := by
  induction rows generalizing r with
  | nil => rfl
  | cons u rows ih =>
    rw [reported_cons, ← Nat.add_assoc] at hfits
    have hone : (requeueUsage r u).amount k f =
        r.amount k f + if u.key = k then u.counts.field f else 0 :=
      EventsRollup.amount_count _ _ _ _ _ _ ((Nat.le_add_right _ _).trans hfits)
    rw [List.foldl_cons, ih (by rwa [hone]), hone, reported_cons, Nat.add_assoc]

/-! ### Drained batches -/

lemma mem_usageRows {r : EventsRollup} {now : DateTime} {u : EventUsage}
    (hu : u ∈ usageRows r now) :
    r.counts.get? u.key = some u.counts ∧ u.windowStart = r.since.getD now ∧ u.windowEnd = now := by
  obtain ⟨⟨k, c⟩, he, rfl⟩ := List.mem_map.mp hu
  refine ⟨?_, rfl, rfl⟩
  have hmem : (k, c) ∈ r.counts.entries.filter fun e => e.1 = k :=
    List.mem_filter.mpr ⟨he, by simp⟩
  rw [SortedMap.filter_key, List.mem_map] at hmem
  obtain ⟨c', hc', heq⟩ := hmem
  cases heq
  exact Option.mem_toList.mp hc'

lemma exists_mem_usageRows {r : EventsRollup} {k : String ×ₗ String} (h : r.Has k)
    (now : DateTime) : ∃ u ∈ usageRows r now, u.key = k := by
  obtain ⟨c, hc⟩ := h
  have hmem : (k, c) ∈ r.counts.entries.filter fun e => e.1 = k := by
    rw [SortedMap.filter_key, hc]
    simp
  exact ⟨_, List.mem_map.mpr ⟨_, List.mem_of_mem_filter hmem, rfl⟩, rfl⟩

/-- The rows of a drained rollup say what it held. -/
lemma reported_usageRows (r : EventsRollup) (now : DateTime) (k : String ×ₗ String)
    (f : UsageField) : reported k f (usageRows r now) = r.amount k f := by
  have hrows : (usageRows r now).filter (fun u => u.key = k) =
      (r.counts.entries.filter fun e => e.1 = k).map fun e =>
        ⟨(ofLex e.1).1, (ofLex e.1).2, e.2, r.since.getD now, now⟩ := by
    rw [usageRows, List.filter_map]
    rfl
  rw [reported, hrows, SortedMap.filter_key, EventsRollup.amount]
  cases r.counts.get? k <;> simp

end MetricsBuffer

/-! ### Calls behind the counts -/

/-- The rollup counts these calls, all made by `clock`. -/
structure Rolls (clock : DateTime) (calls : List EventCall) (r : EventsRollup) : Prop where
  amount : ∀ k f, r.amount k f = countedBy k f calls
  has    : ∀ c ∈ calls, r.Has c.key
  starts : ∀ c ∈ calls, r.StartsBy c.time
  begun  : ∀ s, r.since = some s → s ≤ clock
  past   : ∀ c ∈ calls, c.time ≤ clock

/-- The rows count these calls, and each call was made within the window of each row. -/
structure Covers (clock : DateTime) (rows : List EventUsage) (calls : List EventCall) : Prop where
  amount : ∀ k f, reported k f rows = countedBy k f calls
  row    : ∀ u ∈ rows, ∀ f, u.counts.field f = countedBy u.key f calls
  has    : ∀ c ∈ calls, ∃ u ∈ rows, u.key = c.key
  window : ∀ u ∈ rows, ∀ c ∈ calls, u.windowStart ≤ c.time ∧ c.time ≤ u.windowEnd
  begun  : ∀ u ∈ rows, u.windowStart ≤ clock
  past   : ∀ c ∈ calls, c.time ≤ clock

lemma Covers.mono {clock now : DateTime} {rows : List EventUsage} {calls : List EventCall}
    (h : Covers clock rows calls) (hnow : clock ≤ now) : Covers now rows calls :=
  { h with
    begun := fun u hu => (h.begun u hu).trans hnow
    past := fun c hc => (h.past c hc).trans hnow }

namespace Rolls

variable {clock now : DateTime} {calls calls' : List EventCall} {r : EventsRollup}

lemma mono (h : Rolls clock calls r) (hnow : clock ≤ now) : Rolls now calls r :=
  { h with
    begun := fun s hs => (h.begun s hs).trans hnow
    past := fun c hc => (h.past c hc).trans hnow }

lemma nil (clock : DateTime) : Rolls clock [] {} where
  amount k f := rfl
  has c hc := by cases hc
  starts c hc := by cases hc
  begun s hs := by cases hs
  past c hc := by cases hc

/-- `record_events` counts its call. -/
lemma recordEvents {b : MetricsBuffer σ} {n m : String} {c : EventCounts}
    (h : Rolls clock calls b.events) (hc : c ≠ {}) (hnow : clock ≤ now)
    (hfits : ∀ k f, countedBy k f (calls ++ [⟨now, n, m, c⟩]) ≤ 2 ^ 64 - 1) :
    Rolls now (calls ++ [⟨now, n, m, c⟩]) (b.recordEvents now n m c).events := by
  have hone : ∀ k f, countedBy k f [⟨now, n, m, c⟩] =
      if toLex (n, m) = k then c.field f else 0 := by
    intro k f
    by_cases hk : toLex (n, m) = k
    · simp [countedBy, EventCall.key, hk]
    · simp [countedBy, EventCall.key, hk]
  have hstart : b.events.since.getD now ≤ now := by
    cases hs : b.events.since with
    | none => exact le_rfl
    | some s => exact (h.begun s hs).trans hnow
  rw [MetricsBuffer.recordEvents, if_neg hc]
  constructor
  · intro k f
    have hfits := hfits k f
    rw [countedBy_append, hone, ← h.amount] at hfits
    rw [countedBy_append, hone, ← h.amount]
    exact EventsRollup.amount_count _ _ _ _ _ _ hfits
  · intro d hd
    rw [EventsRollup.has_count]
    rcases List.mem_append.mp hd with hd | hd
    · exact Or.inr (h.has d hd)
    · rw [List.mem_singleton.mp hd]
      exact Or.inl rfl
  · intro d hd
    rcases List.mem_append.mp hd with hd | hd
    · obtain ⟨s, hs, hle⟩ := h.starts d hd
      refine ⟨s, ?_, hle⟩
      simp [EventsRollup.count, hs]
    · rw [List.mem_singleton.mp hd]
      exact ⟨_, rfl, hstart⟩
  · intro s hs
    cases hs
    exact hstart
  · intro d hd
    rcases List.mem_append.mp hd with hd | hd
    · exact (h.past d hd).trans hnow
    · rw [List.mem_singleton.mp hd]

/-- The rows of a drain cover the calls of the rollup. -/
lemma covers (h : Rolls clock calls r) (hnow : clock ≤ now) :
    Covers now (MetricsBuffer.usageRows r now) calls := by
  constructor
  · intro k f
    rw [MetricsBuffer.reported_usageRows, h.amount]
  · intro u hu f
    rw [← h.amount, EventsRollup.amount, (MetricsBuffer.mem_usageRows hu).1]
    rfl
  · intro c hc
    exact MetricsBuffer.exists_mem_usageRows (h.has c hc) now
  · intro u hu c hc
    obtain ⟨-, hstart, hend⟩ := MetricsBuffer.mem_usageRows hu
    obtain ⟨s, hs, hle⟩ := h.starts c hc
    rw [hstart, hend, hs]
    exact ⟨hle, (h.past c hc).trans hnow⟩
  · intro u hu
    obtain ⟨-, hstart, -⟩ := MetricsBuffer.mem_usageRows hu
    rw [hstart]
    cases hs : r.since with
    | none => exact le_rfl
    | some s => exact (h.begun s hs).trans hnow
  · intro c hc
    exact (h.past c hc).trans hnow

/-- A returned batch brings its calls back. -/
lemma requeue {rows : List EventUsage} (h : Rolls clock calls r) (hrows : Covers clock rows calls')
    (hfits : ∀ k f, countedBy k f calls + countedBy k f calls' ≤ 2 ^ 64 - 1) :
    Rolls clock (calls ++ calls') (rows.foldl MetricsBuffer.requeueUsage r) := by
  constructor
  · intro k f
    have hfits := hfits k f
    rw [← h.amount, ← hrows.amount] at hfits
    rw [MetricsBuffer.foldl_requeueUsage_amount hfits, countedBy_append, h.amount, hrows.amount]
  · intro c hc
    rw [MetricsBuffer.foldl_requeueUsage_has]
    rcases List.mem_append.mp hc with hc | hc
    · exact Or.inr (h.has c hc)
    · exact Or.inl (hrows.has c hc)
  · intro c hc
    rcases List.mem_append.mp hc with hc | hc
    · exact MetricsBuffer.foldl_requeueUsage_startsBy (h.starts c hc) rows
    · obtain ⟨u, hu, -⟩ := hrows.has c hc
      have hstarts := MetricsBuffer.foldl_requeueUsage_startsBy_of_mem r hu
      exact hstarts.mono (hrows.window u hu c hc).1
  · exact MetricsBuffer.foldl_requeueUsage_begun h.begun hrows.begun
  · intro c hc
    rcases List.mem_append.mp hc with hc | hc
    · exact h.past c hc
    · exact hrows.past c hc

end Rolls

end ControlPlaneClient
