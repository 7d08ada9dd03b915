import ControlPlaneClient.Metrics.Conservation
import ControlPlaneClient.Metrics.Linearizable

/-!
# Threads at the metrics buffer

Two consequences of the order in which the locks are taken, first the ring and then the rollup, and
of the atomicity of the operations. A call never waits for good: as long as some call is in progress
some thread can make an access, and each access leaves less to do. And the balance of samples and
drops holds in any interleaving of the accesses.
-/

namespace ControlPlaneClient

open Transition

variable {ι σ : Type*} [HasOutcome σ]

/-! ### Every call finishes -/

namespace Pc

/-- The accesses that a call has before it at most. -/
def work : Pc σ → ℕ
  | .idle | .finished _ => 0
  | .unlock _ => 1
  | .record _ => 6
  | .recordWake _ => 5
  | .recordRoom _ => 4
  | .recordDrop _ none => 2
  | .recordDrop _ (some _) => 3
  | .recordPush _ => 2
  | .recordEvents _ _ _ => 4
  | .eventsSince _ _ _ => 3
  | .eventsCount _ _ _ => 2
  | .eventsUnlock => 1
  | .drain => 10
  | .drainSamples => 9
  | .drainLock _ => 8
  | .drainTake _ => 7
  | .drainUnlock _ _ => 6
  | .drainClock _ _ => 5
  | .drainOverflow _ _ => 4
  | .drainNonBillable _ _ _ => 3
  | .drainSeq _ _ _ _ => 2
  | .requeue batch => batch.samples.length + batch.events.length + 7
  | .requeueSamples left batch => left.length + batch.events.length + 6
  | .requeueOverflow batch => batch.events.length + 5
  | .requeueNonBillable batch => batch.events.length + 4
  | .requeueLock batch => batch.events.length + 3
  | .requeueRows left => left.length + 2
  | .buffered => 3
  | .bufferedLen => 2
  | .notified => 1

/-- The next access takes the lock of the ring. -/
def wantsRing : Pc σ → Bool
  | .record _ | .drain | .requeue _ | .buffered => true
  | _ => false

/-- The next access takes the lock of the rollup. -/
def wantsEvents : Pc σ → Bool
  | .recordEvents _ _ _ | .drainLock _ | .requeueLock _ => true
  | _ => false

omit [HasOutcome σ] in
/-- The ring is not waited for by who holds a lock. -/
lemma wantsRing_of_holds {p : Pc σ} (h : p.holdsRing = true ∨ p.holdsEvents = true) :
    p.wantsRing = false ∧ p.settled = false := by
  cases p <;> simp_all [holdsRing, holdsEvents, wantsRing, settled]

omit [HasOutcome σ] in
/-- Who holds the rollup waits for nothing. -/
lemma wantsEvents_of_holdsEvents {p : Pc σ} (h : p.holdsEvents = true) :
    p.wantsEvents = false := by
  cases p <;> simp_all [holdsEvents, wantsEvents]

end Pc

namespace LockedBuffer

open Atomic

variable [DecidableEq ι] {c : LockedBuffer ι σ} {i : ι}

/-- Only a lock can hold a call up. -/
lemma go_isSome (now : DateTime) (hopen : (c.pc i).settled = false)
    (hring : (c.pc i).wantsRing = true → c.ring = none)
    (hevents : (c.pc i).wantsEvents = true → c.events = none) : (c.go i now).isSome := by
  cases hp : c.pc i with
  | idle => rw [hp] at hopen; cases hopen
  | finished r => rw [hp] at hopen; cases hopen
  | record s | drain | requeue batch | buffered =>
    rw [hp] at hring
    simp [go, hp, lockRing, hring rfl]
  | recordEvents n m counts =>
    rw [hp] at hevents
    simp only [go, hp]
    split
    · rfl
    · simp [lockEvents, hevents rfl]
  | drainLock samples | requeueLock batch =>
    rw [hp] at hevents
    simp [go, hp, lockEvents, hevents rfl]
  | recordRoom s =>
    simp only [go, hp]
    split_ifs
    · rfl
    · cases c.mem.buf.remove (MetricsBuffer.victim c.mem.buf) <;> rfl
    · rfl
  | recordDrop d next => cases next <;> simp [go, hp]
  | requeueSamples left batch => cases left <;> simp [go, hp]
  | requeueRows left => cases left <;> simp [go, hp]
  | _ => simp [go, hp]

/-- An access moves its thread on, and no other. -/
lemma go_pc {now : DateTime} {c' : LockedBuffer ι σ} (h : c.go i now = some c') :
    ∃ p, c'.pc = Function.update c.pc i p ∧ p.work < (c.pc i).work := by
  have hlock : ∀ p, c.lockRing i p = some c' → c'.pc = Function.update c.pc i p := by
    intro p hp
    rw [lockRing] at hp
    split at hp <;> cases hp
    rfl
  cases hp : c.pc i with
  | idle => simp [go, hp] at h
  | finished r => simp [go, hp] at h
  | record s | drain | buffered =>
    simp only [go, hp] at h
    refine ⟨_, hlock _ h, ?_⟩
    simp [Pc.work]
  | requeue batch =>
    simp only [go, hp] at h
    refine ⟨_, hlock _ h, ?_⟩
    simp [Pc.work]
  | recordEvents n m counts =>
    simp only [go, hp] at h
    split at h
    · cases h
      exact ⟨_, rfl, by simp [Pc.work]⟩
    · obtain ⟨_, rfl⟩ := of_lockEvents h
      exact ⟨_, rfl, by simp [Pc.work]⟩
  | drainLock samples | requeueLock batch =>
    simp only [go, hp] at h
    obtain ⟨_, rfl⟩ := of_lockEvents h
    exact ⟨_, rfl, by simp [Pc.work]⟩
  | recordRoom s =>
    simp only [go, hp] at h
    split_ifs at h
    · cases h
      exact ⟨_, rfl, by simp [Pc.work]⟩
    · cases hvictim : c.mem.buf.remove (MetricsBuffer.victim c.mem.buf) with
      | none =>
        rw [hvictim] at h
        cases h
        exact ⟨_, rfl, by simp [Pc.work]⟩
      | some r =>
        rw [hvictim] at h
        cases h
        exact ⟨_, rfl, by simp [Pc.work]⟩
    · cases h
      exact ⟨_, rfl, by simp [Pc.work]⟩
  | recordDrop d next =>
    cases next <;> simp only [go, hp] at h <;> cases h <;> exact ⟨_, rfl, by simp [Pc.work]⟩
  | requeueSamples left batch =>
    cases left <;> simp only [go, hp] at h <;> cases h <;> exact ⟨_, rfl, by simp [Pc.work]⟩
  | requeueRows left =>
    cases left <;> simp only [go, hp] at h <;> cases h <;> exact ⟨_, rfl, by simp [Pc.work]⟩
  | _ =>
    simp only [go, hp] at h
    cases h
    exact ⟨_, rfl, by simp [Pc.work]⟩

section Progress

variable [Fintype ι]

/-- The accesses that the calls in progress have before them at most. -/
def work (c : LockedBuffer ι σ) : ℕ := ∑ i, (c.pc i).work

lemma go_work {now : DateTime} {c' : LockedBuffer ι σ} (h : c.go i now = some c') :
    c'.work < c.work := by
  obtain ⟨p, hpc, hlt⟩ := go_pc h
  apply Finset.sum_lt_sum
  · intro j _
    rw [hpc]
    by_cases hj : j = i
    · subst hj
      rw [Function.update_self]
      exact hlt.le
    · rw [Function.update_of_ne hj]
  · refine ⟨i, Finset.mem_univ i, ?_⟩
    rw [hpc, Function.update_self]
    exact hlt

/-- The accesses that the scheduler picks, each with what the clock shows. -/
def access (c : LockedBuffer ι σ) (e : ι × DateTime) : Option (LockedBuffer ι σ) := c.go e.1 e.2

lemma length_le_work {t : LockedBuffer ι σ} {es : List (ι × DateTime)}
    (h : exec access c es = some t) : es.length + t.work ≤ c.work := by
  induction es generalizing c with
  | nil => cases h; simp
  | cons e es ih =>
    obtain ⟨c', hc', ht⟩ := exec_cons_eq_some.mp h
    have hrest := ih ht
    have hlt : c'.work < c.work := go_work hc'
    rw [List.length_cons]
    omega

omit [Fintype ι] in
/-- As long as some call is in progress, some thread can go on. -/
lemma Rel.exists_go {o : Object ι (MetricsBuffer σ) (BufferOp σ) DateTime (BufferAnswer σ)}
    (h : Rel c o) (hopen : (c.pc i).settled = false) (now : DateTime) :
    ∃ j, (c.go j now).isSome := by
  cases hev : c.events with
  | some j =>
    -- Who holds the rollup is waiting for nothing.
    have hheld := (h.events j).mpr hev
    have hwants := Pc.wantsRing_of_holds (Or.inr hheld)
    refine ⟨j, go_isSome now hwants.2 ?_ ?_⟩
    · rw [hwants.1]
      exact fun h => absurd h Bool.false_ne_true
    · rw [Pc.wantsEvents_of_holdsEvents hheld]
      exact fun h => absurd h Bool.false_ne_true
  | none =>
    cases hring : c.ring with
    | some j =>
      -- Who holds the ring can wait for the rollup only, which is free.
      have hwants := Pc.wantsRing_of_holds (Or.inl ((h.ring j).mpr hring))
      refine ⟨j, go_isSome now hwants.2 ?_ fun _ => hev⟩
      rw [hwants.1]
      exact fun h => absurd h Bool.false_ne_true
    | none => exact ⟨i, go_isSome now hopen (fun _ => hring) fun _ => hev⟩

/-- The threads never wait for each other in a circle, and however they are scheduled they come to
the end of their calls: from a reachable state they have at most `work` accesses to make, and are
not stuck before every call has its answer. -/
theorem every_call_finishes (cap batchCap : ℕ) (es : List (ThreadEvent ι σ))
    (c : LockedBuffer ι σ) (h : exec step (init cap batchCap) es = some c)
    (gos : List (ι × DateTime)) (t : LockedBuffer ι σ) (ht : exec access c gos = some t) :
    gos.length ≤ c.work ∧
    ((∀ i, (t.pc i).settled = true) ∨ ∀ now, ∃ i t', t.go i now = some t') := by
  constructor
  · exact (Nat.le_add_right _ _).trans (length_le_work ht)
  · have hrun : exec step (init cap batchCap) (es ++ gos.map fun e => .go e.1 e.2) = some t := by
      rw [exec_append_of_some h]
      clear h
      induction gos generalizing c with
      | nil => exact ht
      | cons e gos ih =>
        obtain ⟨c', hc', ht⟩ := exec_cons_eq_some.mp ht
        exact exec_cons_eq_some.mpr ⟨c', hc', ih c' ht⟩
    obtain ⟨_, o, _, _, hrel⟩ := simulation.run (init_rel cap batchCap) hrun
    by_cases hall : ∀ i, (t.pc i).settled = true
    · exact Or.inl hall
    · right
      intro now
      obtain ⟨i, hi⟩ := not_forall.mp hall
      obtain ⟨j, hj⟩ := Rel.exists_go hrel (Bool.eq_false_iff.mpr hi) now
      obtain ⟨t', ht'⟩ := Option.isSome_iff_exists.mp hj
      exact ⟨j, t', ht'⟩

/-- A drain waits at the lock of the rollup while a delivery is counted. -/
theorem every_call_finishes_two_threads :
    let es : List (ThreadEvent (Fin 2) ToolCallSample) := [.call 0 .drain,
      .call 1 (.recordEvents "issue.opened" "webhook" { delivered := 1 }), .go 0 0, .go 0 0, .go 1 0]
    ∃ c t, exec step (init 2 1) es = some c ∧ c.go 0 0 = none ∧
      exec access c [(1, 7), (1, 7)] = some t ∧ 2 ≤ c.work ∧ ((∀ i, (t.pc i).settled = true) ∨ ∀ now, ∃ i t', t.go i now = some t') := by
  intro es
  have hrun : ∃ c t, exec step (init 2 1) es = some c ∧ c.go 0 0 = none ∧
    exec access c [(1, 7), (1, 7)] = some t := ⟨_, _, rfl, rfl, rfl⟩
  obtain ⟨c, t, hc, hwait, ht⟩ := hrun
  exact ⟨c, t, hc, hwait, ht, every_call_finishes 2 1 es c hc _ t ht⟩

end Progress

end LockedBuffer

/-! ### Nothing is lost between the accesses -/

/-- The samples of a class that a call hands to the buffer, with the drops of a returned batch. -/
def BufferOp.brings (cls : Bool) : BufferOp σ → ℕ
  | .record s           => (billable s == cls).toNat
  | .requeueFront batch => batch.owed cls
  | _                   => 0

/-- The samples and drops of a class that an answer takes out. -/
def BufferAnswer.takes (cls : Bool) : BufferAnswer σ → ℕ
  | .batch d => d.owed cls
  | _        => 0

lemma MetricsBuffer.apply_owed (cls : Bool) (b : MetricsBuffer σ) (op : BufferOp σ)
    (x y : DateTime) :
    (b.apply op x).1.owed cls + ((b.apply op x).2 y).takes cls = b.owed cls + op.brings cls := by
  cases op with
  | record s => exact b.record_owed s cls
  | recordEvents n m counts => exact recordEvents_owed b x n m counts cls
  | drain => exact (Nat.add_comm _ _).trans (b.drain_owed y cls)
  | requeueFront batch => exact b.requeueFront_owed batch cls
  | buffered => rfl
  | notified => rfl

namespace LockedBuffer

open Atomic

variable [DecidableEq ι] [Fintype ι]

/-- In any interleaving of the accesses, once no call is in progress, the calls recorded and put
back are those drained and those that the buffer still owes, in each class. -/
theorem interleaved_conserved (cap batchCap : ℕ) (es : List (ThreadEvent ι σ))
    (c : LockedBuffer ι σ) (h : exec step (init cap batchCap) es = some c)
    (hidle : ∀ i, c.pc i = .idle) (cls : Bool) :
    ((observed step seen (init cap batchCap) es).map (Seen.brought (BufferOp.brings cls))).sum =
      ((observed step seen (init cap batchCap) es).map (Seen.taken (BufferAnswer.takes cls))).sum +
        c.mem.owed cls := by
  obtain ⟨es', o, ho, hseen, hrel⟩ := simulation.run (init_rel cap batchCap) h
  obtain ⟨hstate, hslots⟩ := Rel.of_idle hrel hidle
  have hbalance := Object.balance (BufferOp.brings cls) (BufferAnswer.takes cls)
    (fun b => b.owed cls) 0 (MetricsBuffer.apply_owed cls) ho fun _ => trivial
  have hnone : (MetricsBuffer.withCaps cap batchCap : MetricsBuffer σ).owed cls = 0 := by
    cases cls <;> rfl
  rw [hseen] at hbalance
  simpa [Object.init, hnone, hstate, hslots] using hbalance

/-- A call is recorded between the first access of a drain and its last. -/
theorem interleaved_conserved_two_threads :
    let go (i : Fin 2) : ThreadEvent (Fin 2) ToolCallSample := .go i 0
    let es := [.call 0 .drain, .call 1 (.record (.plain "github" "list_repos" .ok 5)), go 0, go 0,
      go 0, go 0, go 0, go 0, go 0, go 0, go 0, go 0, go 1, go 1, .ret 0, go 1, go 1, go 1, .ret 1]
    ∃ c, exec step (init 2 1) es = some c ∧
      ((observed step seen (init 2 1) es).map (Seen.brought (BufferOp.brings true))).sum =
        ((observed step seen (init 2 1) es).map (Seen.taken (BufferAnswer.takes true))).sum +
          c.mem.owed true := by
  intro go es
  have hrun : ∃ c, exec step (init 2 1) es = some c ∧ ∀ i, c.pc i = .idle := by
    refine ⟨_, rfl, ?_⟩
    intro i
    fin_cases i <;> rfl
  obtain ⟨c, hc, hidle⟩ := hrun
  exact ⟨c, hc, interleaved_conserved 2 1 es c hc hidle true⟩

end LockedBuffer

end ControlPlaneClient
