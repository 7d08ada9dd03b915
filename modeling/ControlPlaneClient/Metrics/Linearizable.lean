import ControlPlaneClient.Metrics.FailedFlush
import ControlPlaneClient.Metrics.Locks

/-!
# The operations of the metrics buffer are atomic

The sequential buffer simulates the one with the locks. Each call takes effect at one of its
accesses: a `record` at its wake, where it holds the ring, a `drain` where it takes the rollup, a
`requeue_front` where it locks it, a `record_events` at the start of the window. Between that access
and the others the thread that holds a lock is the only one to see the cells under it, and the
relation says what it has done to them ahead of the effect or has yet to do.
-/

namespace ControlPlaneClient

open Transition

variable {ι σ : Type*} [HasOutcome σ]

/-! ### The state under the lock of the ring -/

namespace MetricsBuffer

/-- The cells that are accessed under the lock of the ring. -/
def core (b : MetricsBuffer σ) : MetricsBuffer σ := { b with events := {}, flushEarly := false }

/-- What `record` does after the wake. -/
def recordRest (b : MetricsBuffer σ) (s : σ) : MetricsBuffer σ :=
  if b.cap ≤ b.buf.samples.length then
    if !billable s then b.countDrop (outcome s)
    else { b.evict with buf := b.evict.buf.pushBack s }
  else { b with buf := b.buf.pushBack s }

lemma record_eq (b : MetricsBuffer σ) (s : σ) : b.record s = b.notifyFlush.recordRest s := rfl

section RecordRest

variable {b : MetricsBuffer σ} {s : σ}

lemma recordRest_of_room (hroom : ¬ b.cap ≤ b.buf.samples.length) :
    b.recordRest s = { b with buf := b.buf.pushBack s } :=
  if_neg hroom

lemma recordRest_of_refusal (hfull : b.cap ≤ b.buf.samples.length) (hs : billable s = false) :
    b.recordRest s = b.countDrop (outcome s) := by
  simp [recordRest, hfull, hs]

lemma recordRest_of_victim (hfull : b.cap ≤ b.buf.samples.length) (hs : billable s = true)
    {dropped : σ} {ring : Ring σ} (hvictim : b.buf.remove (victim b.buf) = some (dropped, ring)) :
    b.recordRest s = { ({ b with buf := ring } : MetricsBuffer σ).countDrop (outcome dropped) with
      buf := (({ b with buf := ring } : MetricsBuffer σ).countDrop
        (outcome dropped)).buf.pushBack s } := by
  simp [recordRest, hfull, hs, evict, hvictim]

lemma recordRest_of_empty (hfull : b.cap ≤ b.buf.samples.length) (hs : billable s = true)
    (hvictim : b.buf.remove (victim b.buf) = none) :
    b.recordRest s = { b with buf := b.buf.pushBack s } := by
  simp [recordRest, hfull, hs, evict, hvictim]

end RecordRest

omit [HasOutcome σ] in
lemma countDrop_core (b : MetricsBuffer σ) (o : SampleOutcome) :
    (b.countDrop o).core = b.core.countDrop o := by
  simp only [countDrop]
  split <;> rfl

omit [HasOutcome σ] in
@[simp] lemma notifyFlush_core (b : MetricsBuffer σ) : b.notifyFlush.core = b.core := by
  rw [notifyFlush]
  split <;> rfl

lemma evict_core (b : MetricsBuffer σ) : b.evict.core = b.core.evict := by
  simp only [evict]
  have hbuf : b.core.buf = b.buf := rfl
  rw [hbuf]
  cases b.buf.remove (victim b.buf) with
  | none => rfl
  | some r => exact countDrop_core _ _

lemma recordRest_core (b : MetricsBuffer σ) (s : σ) :
    (b.recordRest s).core = b.core.recordRest s := by
  have hevict := evict_core b
  simp only [recordRest, ← hevict]
  show core (if b.cap ≤ b.buf.samples.length then _ else _) =
    if b.cap ≤ b.buf.samples.length then _ else _
  by_cases hfull : b.cap ≤ b.buf.samples.length
  · rw [if_pos hfull, if_pos hfull]
    by_cases hbill : billable s
    · simp only [hbill]
      rfl
    · simp only [hbill]
      exact countDrop_core b _
  · rw [if_neg hfull, if_neg hfull]
    rfl

lemma requeueSample_core (s : σ) (b : MetricsBuffer σ) :
    (requeueSample s b).core = requeueSample s b.core := by
  simp only [requeueSample]
  show core (if b.cap ≤ b.buf.samples.length then _ else _) =
    if b.cap ≤ b.buf.samples.length then _ else _
  by_cases hfull : b.cap ≤ b.buf.samples.length
  · rw [if_pos hfull, if_pos hfull]
    exact countDrop_core b _
  · rw [if_neg hfull, if_neg hfull]
    rfl

lemma requeueSamples_core (xs : List σ) (b : MetricsBuffer σ) :
    (xs.foldr requeueSample b).core = xs.foldr requeueSample b.core := by
  induction xs with
  | nil => rfl
  | cons s xs ih => rw [List.foldr_cons, List.foldr_cons, requeueSample_core, ih]

end MetricsBuffer

/-! ### The simulation -/

open Atomic in
/-- A call whose answer is `r`, whatever clock it reads. -/
def Answers (slot : Slot (BufferOp σ) DateTime (BufferAnswer σ)) (r : BufferAnswer σ) : Prop :=
  ∃ answer now, slot = .answered answer ∧ answer now = r

namespace Pc

open Atomic MetricsBuffer

/-- How the cells `x` under the lock of the ring stand to those of the sequential buffer, `y`, and
to the call there, while a thread is at `p`. A `record` takes effect at its wake and a `drain` when
it takes the rollup, so the cells have some of the effect to come; a `requeue_front` takes effect
when it locks the rollup, so that the cells are ahead until then. -/
def Meets : Pc σ → MetricsBuffer σ → MetricsBuffer σ →
    Slot (BufferOp σ) DateTime (BufferAnswer σ) → Prop
  | .idle, _, _, slot => slot = .idle
  | .record s, _, _, slot => slot = .called (.record s)
  | .recordWake s, x, y, slot => y = x ∧ slot = .called (.record s)
  | .recordRoom s, x, y, slot => y = x.recordRest s ∧ slot = .answered fun _ => .unit
  | .recordDrop o none, x, y, slot => y = x.countDrop o ∧ slot = .answered fun _ => .unit
  | .recordDrop o (some s), x, y, slot =>
    y = { x.countDrop o with buf := (x.countDrop o).buf.pushBack s } ∧
      slot = .answered fun _ => .unit
  | .recordPush s, x, y, slot =>
    y = { x with buf := x.buf.pushBack s } ∧ slot = .answered fun _ => .unit
  | .recordEvents n m counts, _, _, slot => slot = .called (.recordEvents n m counts)
  | .eventsSince n m counts, _, _, slot =>
    slot = .called (.recordEvents n m counts) ∧ counts ≠ {}
  | .eventsCount _ _ _, _, _, slot => slot = .answered fun _ => .unit
  | .eventsUnlock, _, _, slot => slot = .answered fun _ => .unit
  | .drain, _, _, slot => slot = .called .drain
  | .drainSamples, x, y, slot => y = x ∧ slot = .called .drain
  | .drainLock samples, x, y, slot | .drainTake samples, x, y, slot =>
    x = { y with buf := y.afterDrain.buf } ∧ samples = (y.drained 0).samples ∧
      slot = .called .drain
  | .drainUnlock samples rollup, x, y, slot | .drainClock samples rollup, x, y, slot =>
    y = { x with droppedOverflow := 0, droppedNonBillable := 0, seq := x.seq + 1 } ∧
      slot = .answered fun now => .batch
        ⟨samples, x.droppedOverflow, x.droppedNonBillable, x.seq + 1, usageRows rollup now⟩
  | .drainOverflow samples rows, x, y, slot =>
    y = { x with droppedOverflow := 0, droppedNonBillable := 0, seq := x.seq + 1 } ∧
      Answers slot (.batch ⟨samples, x.droppedOverflow, x.droppedNonBillable, x.seq + 1, rows⟩)
  | .drainNonBillable samples rows overflow, x, y, slot =>
    y = { x with droppedNonBillable := 0, seq := x.seq + 1 } ∧
      Answers slot (.batch ⟨samples, overflow, x.droppedNonBillable, x.seq + 1, rows⟩)
  | .drainSeq samples rows overflow nonBillable, x, y, slot =>
    y = { x with seq := x.seq + 1 } ∧
      Answers slot (.batch ⟨samples, overflow, nonBillable, x.seq + 1, rows⟩)
  | .requeue batch, _, _, slot => slot = .called (.requeueFront batch)
  | .requeueSamples left batch, x, y, slot =>
    slot = .called (.requeueFront batch) ∧
      ∃ back, batch.samples = left.reverse ++ back ∧ x = back.foldr requeueSample y
  | .requeueOverflow batch, x, y, slot =>
    slot = .called (.requeueFront batch) ∧ x = batch.samples.foldr requeueSample y
  | .requeueNonBillable batch, x, y, slot =>
    slot = .called (.requeueFront batch) ∧
      ∃ z, z = batch.samples.foldr requeueSample y ∧
        x = { z with droppedOverflow := z.droppedOverflow + batch.droppedOverflow }
  | .requeueLock batch, x, y, slot =>
    slot = .called (.requeueFront batch) ∧
      ∃ z, z = batch.samples.foldr requeueSample y ∧
        x = { z with
          droppedOverflow := z.droppedOverflow + batch.droppedOverflow
          droppedNonBillable := z.droppedNonBillable + batch.droppedNonBillable }
  | .requeueRows _, x, y, slot => y = x ∧ slot = .answered fun _ => .unit
  | .buffered, _, _, slot => slot = .called .buffered
  | .bufferedLen, x, y, slot => y = x ∧ slot = .called .buffered
  | .notified, _, _, slot => slot = .called .notified
  | .unlock r, x, y, slot => y = x ∧ Answers slot r
  | .finished r, _, _, slot => Answers slot r

/-- What is left to do to the rollup of a call that has taken effect. -/
def completed : Pc σ → EventsRollup → EventsRollup
  | .eventsCount n m counts, r => r.count n m counts
  | .requeueRows left, r       => left.foldl requeueUsage r
  | _, r                       => r

lemma Meets.of_free {p : Pc σ} {x y x' y' : MetricsBuffer σ}
    {slot : Slot (BufferOp σ) DateTime (BufferAnswer σ)} (h : p.Meets x y slot)
    (hfree : p.holdsRing = false) : p.Meets x' y' slot := by
  cases p <;> first | exact h | cases hfree

end Pc

/-- What a step of thread `i` does to a lock: nothing, take it or give it back. -/
inductive LockMove (i : ι) : Option ι → Option ι → Bool → Bool → Prop
  | keep (l : Option ι) (b : Bool) : LockMove i l l b b
  | take : LockMove i none (some i) false true
  | give : LockMove i (some i) none true false

omit [HasOutcome σ] in
lemma LockMove.exclusive [DecidableEq ι] {i : ι} {l l' : Option ι} {pc : ι → Pc σ} {p : Pc σ}
    {holds : Pc σ → Bool} (h : LockMove i l l' (holds (pc i)) (holds p))
    (hl : ∀ j, holds (pc j) = true ↔ l = some j) (j : ι) :
    holds (Function.update pc i p j) = true ↔ l' = some j := by
  have hlj := hl j
  by_cases hj : j = i
  · subst hj
    rw [Function.update_self]
    generalize holds (pc j) = b at h hlj
    generalize holds p = b' at h
    cases h with
    | keep => exact hlj
    | take => simp
    | give => simp
  · rw [Function.update_of_ne hj]
    generalize holds (pc i) = b at h
    generalize holds p = b' at h
    cases h with
    | keep => exact hlj
    | take => simp [hlj, Ne.symm hj]
    | give => simp [hlj, Ne.symm hj]

namespace LockedBuffer

open Atomic

variable [DecidableEq ι]

/-- The rollup once the call that holds its lock, and has taken effect, is done with it. -/
def rollup (c : LockedBuffer ι σ) : EventsRollup :=
  c.events.elim c.mem.events fun i => (c.pc i).completed c.mem.events

structure Rel (c : LockedBuffer ι σ)
    (o : Object ι (MetricsBuffer σ) (BufferOp σ) DateTime (BufferAnswer σ)) : Prop where
  ring   : ∀ i, (c.pc i).holdsRing = true ↔ c.ring = some i
  events : ∀ i, (c.pc i).holdsEvents = true ↔ c.events = some i
  meets  : ∀ i, (c.pc i).Meets c.mem.core o.state.core (o.slot i)
  free   : c.ring = none → o.state.core = c.mem.core
  rollup : o.state.events = c.rollup
  permit : o.state.flushEarly = c.mem.flushEarly

variable {c : LockedBuffer ι σ}
  {o : Object ι (MetricsBuffer σ) (BufferOp σ) DateTime (BufferAnswer σ)} {i : ι}

omit [DecidableEq ι] in
/-- The thread that holds the ring has it alone. -/
lemma Rel.holdsRing_eq_false (h : Rel c o) (hi : (c.pc i).holdsRing = true) {j : ι} (hj : j ≠ i) :
    (c.pc j).holdsRing = false := by
  rw [Bool.eq_false_iff]
  intro hheld
  have hri := (h.ring i).mp hi
  have hrj := (h.ring j).mp hheld
  rw [hri] at hrj
  exact hj (Option.some.inj hrj).symm

/-- A step of thread `i`. Only who holds the ring changes what is under its lock. -/
lemma Rel.update (h : Rel c o) {p : Pc σ} {mem state : MetricsBuffer σ} {ring events : Option ι}
    {slot : Slot (BufferOp σ) DateTime (BufferAnswer σ)}
    (hring : LockMove i c.ring ring (c.pc i).holdsRing p.holdsRing)
    (hevents : LockMove i c.events events (c.pc i).holdsEvents p.holdsEvents)
    (hcore : (c.pc i).holdsRing = true ∨ mem.core = c.mem.core ∧ state.core = o.state.core)
    (hmeets : p.Meets mem.core state.core slot)
    (hfree : ring = none → state.core = mem.core)
    (hrollup : state.events = (⟨mem, ring, events, Function.update c.pc i p⟩ :
      LockedBuffer ι σ).rollup)
    (hpermit : state.flushEarly = mem.flushEarly) :
    Rel ⟨mem, ring, events, Function.update c.pc i p⟩ ⟨state, Function.update o.slot i slot⟩ := by
  refine ⟨hring.exclusive h.ring, hevents.exclusive h.events, ?_, hfree, hrollup, hpermit⟩
  intro j
  by_cases hj : j = i
  · subst hj
    simpa using hmeets
  · have hmeetsj := h.meets j
    simp only [Function.update_of_ne hj]
    rcases hcore with hi | ⟨hm, hs⟩
    · exact hmeetsj.of_free (h.holdsRing_eq_false hi hj)
    · rw [hm, hs]
      exact hmeetsj

/-- A thread that has nothing to do with the rollup leaves it as it is. -/
lemma Rel.rollup_frame (h : Rel c o) {p : Pc σ} {mem : MetricsBuffer σ} {ring : Option ι}
    (hi : (c.pc i).holdsEvents = false) (hmem : mem.events = c.mem.events) :
    o.state.events =
      (⟨mem, ring, c.events, Function.update c.pc i p⟩ : LockedBuffer ι σ).rollup := by
  rw [h.rollup, LockedBuffer.rollup, LockedBuffer.rollup]
  cases hev : c.events with
  | none => exact hmem.symm
  | some j =>
    have hj : j ≠ i := by
      rintro rfl
      rw [(h.events j).mpr hev] at hi
      cases hi
    simp only [Option.elim_some, Function.update_of_ne hj, hmem]

omit [DecidableEq ι] in
/-- Nobody holds the rollup. -/
lemma Rel.rollup_free (h : Rel c o) (hev : c.events = none) : o.state.events = c.mem.events := by
  rw [h.rollup, LockedBuffer.rollup, hev, Option.elim_none]

omit [DecidableEq ι] in
/-- Thread `i` holds the rollup. -/
lemma Rel.rollup_held (h : Rel c o) (hi : (c.pc i).holdsEvents = true) :
    o.state.events = (c.pc i).completed c.mem.events := by
  rw [h.rollup, LockedBuffer.rollup, (h.events i).mp hi, Option.elim_some]

omit [HasOutcome σ] in
lemma rollup_of_held (mem : MetricsBuffer σ) (ring : Option ι) (i : ι) (pc : ι → Pc σ) (p : Pc σ) :
    (⟨mem, ring, some i, Function.update pc i p⟩ : LockedBuffer ι σ).rollup =
      p.completed mem.events := by
  simp [LockedBuffer.rollup]

/-- A step of the thread that holds the ring, away from the rollup. -/
lemma Rel.held (h : Rel c o) {p : Pc σ} {mem state : MetricsBuffer σ}
    {slot : Slot (BufferOp σ) DateTime (BufferAnswer σ)}
    (hring : (c.pc i).holdsRing = true) (hring' : p.holdsRing = true)
    (hfar : (c.pc i).holdsEvents = false) (hfar' : p.holdsEvents = false)
    (hmeets : p.Meets mem.core state.core slot) (hmem : mem.events = c.mem.events)
    (hstate : state.events = o.state.events) (hpermit : state.flushEarly = mem.flushEarly) :
    Rel { c.move i p with mem := mem } ⟨state, Function.update o.slot i slot⟩ := by
  apply h.update
  · rw [hring, hring']
    exact .keep _ _
  · rw [hfar, hfar']
    exact .keep _ _
  · exact Or.inl hring
  · exact hmeets
  · intro hfree
    have hself : c.ring = some i := (h.ring i).mp hring
    exact absurd (hself.symm.trans hfree) (Option.some_ne_none i)
  · rw [hstate]
    exact h.rollup_frame hfar hmem
  · exact hpermit

/-- A thread takes the lock of the ring. -/
lemma Rel.lockRing (h : Rel c o) {p : Pc σ} (hfree : c.ring = none)
    (hring : (c.pc i).holdsRing = false) (hring' : p.holdsRing = true)
    (hfar : (c.pc i).holdsEvents = false) (hfar' : p.holdsEvents = false)
    (hmeets : p.Meets c.mem.core c.mem.core (o.slot i)) :
    Rel { c.move i p with ring := some i } ⟨o.state, Function.update o.slot i (o.slot i)⟩ := by
  apply h.update
  · rw [hring, hring', hfree]
    exact .take
  · rw [hfar, hfar']
    exact .keep _ _
  · exact Or.inr ⟨rfl, rfl⟩
  · rw [h.free hfree]
    exact hmeets
  · exact fun hnone => absurd hnone (Option.some_ne_none i)
  · exact h.rollup_frame hfar rfl
  · exact h.permit

/-! ### Each access is answered -/

/-- The sequential buffer answers a step to `c'` that nobody sees. -/
def Answered (o : Object ι (MetricsBuffer σ) (BufferOp σ) DateTime (BufferAnswer σ))
    (c' : LockedBuffer ι σ) : Prop :=
  ∃ es o', exec (Object.step MetricsBuffer.apply) o es = some o' ∧
    observed (Object.step MetricsBuffer.apply) Object.seen o es = [] ∧ Rel c' o'

/-- The step changes nothing there. -/
lemma answered_of_silent {c' : LockedBuffer ι σ}
    (h : Rel c' ⟨o.state, Function.update o.slot i (o.slot i)⟩) : Answered o c' := by
  rw [Function.update_eq_self] at h
  exact ⟨[], o, rfl, rfl, h⟩

/-- With the step, the call takes effect there. -/
lemma answered_of_effect {op : BufferOp σ} {c' : LockedBuffer ι σ}
    (hslot : o.slot i = .called op) (now : DateTime)
    (h : Rel c' ⟨(o.state.apply op now).1,
      Function.update o.slot i (.answered (o.state.apply op now).2)⟩) : Answered o c' := by
  have hstep : Object.step MetricsBuffer.apply o (.effect i now) = some _ :=
    Object.step_effect hslot now
  refine ⟨[.effect i now], _, exec_cons_eq_some.mpr ⟨_, hstep, rfl⟩, ?_, h⟩
  rw [observed_cons hstep]
  rfl

lemma Rel.go_recordWake (h : Rel c o) {s : σ} (hp : c.pc i = .recordWake s) :
    Answered o { c.move i (.recordRoom s) with mem := c.mem.notifyFlush } := by
  have hmeets := h.meets i
  rw [hp] at hmeets
  obtain ⟨hcore, hslot⟩ := hmeets
  apply answered_of_effect hslot 0
  apply h.held (by rw [hp]; rfl) rfl (by rw [hp]; rfl) rfl
  · refine ⟨?_, rfl⟩
    show (o.state.record s).core = _
    rw [MetricsBuffer.record_eq, MetricsBuffer.recordRest_core, MetricsBuffer.notifyFlush_core,
      MetricsBuffer.notifyFlush_core, hcore]
  · exact MetricsBuffer.notifyFlush_events c.mem
  · exact MetricsBuffer.record_events o.state s
  · show (o.state.record s).flushEarly = _
    have hbuf : o.state.buf = c.mem.buf := congrArg (fun b => b.buf) hcore
    have hmark : o.state.flushEarlyAt = c.mem.flushEarlyAt := congrArg (fun b => b.flushEarlyAt) hcore
    rw [MetricsBuffer.record_flushEarly, MetricsBuffer.notifyFlush, MetricsBuffer.notifyFlush, hbuf,
      hmark]
    split
    · rfl
    · exact h.permit

/-- A step of the thread that holds the ring, away from the rollup and the permit, with no effect
there. -/
lemma Rel.go_held (h : Rel c o) {q p : Pc σ} {mem : MetricsBuffer σ} (hp : c.pc i = q)
    (hring : q.holdsRing = true) (hring' : p.holdsRing = true) (hfar : q.holdsEvents = false)
    (hfar' : p.holdsEvents = false)
    (hmeets : q.Meets c.mem.core o.state.core (o.slot i) →
      p.Meets mem.core o.state.core (o.slot i))
    (hmem : mem.events = c.mem.events) (hpermit : mem.flushEarly = c.mem.flushEarly) :
    Answered o { c.move i p with mem := mem } := by
  subst hp
  apply answered_of_silent
  apply h.held hring hring' hfar hfar' (hmeets (h.meets i)) hmem rfl
  rw [hpermit]
  exact h.permit

/-- A thread takes the lock of the ring, if it is free. -/
lemma Rel.go_lockRing (h : Rel c o) {q p : Pc σ} {c' : LockedBuffer ι σ} (hp : c.pc i = q)
    (hgo : c.lockRing i p = some c')
    (hring : q.holdsRing = false) (hring' : p.holdsRing = true) (hfar : q.holdsEvents = false)
    (hfar' : p.holdsEvents = false)
    (hmeets : ∀ x y, q.Meets x y (o.slot i) → p.Meets x x (o.slot i)) : Answered o c' := by
  subst hp
  rw [LockedBuffer.lockRing] at hgo
  split at hgo
  · next hfree =>
    cases hgo
    rw [Option.isNone_iff_eq_none] at hfree
    apply answered_of_silent
    exact h.lockRing hfree hring hring' hfar hfar' (hmeets _ _ (h.meets i))
  · cases hgo

lemma Rel.go_recordRoom (h : Rel c o) {s : σ} {c' : LockedBuffer ι σ} {now : DateTime}
    (hp : c.pc i = .recordRoom s) (hgo : c.go i now = some c') : Answered o c' := by
  simp only [LockedBuffer.go, hp] at hgo
  by_cases hfull : c.mem.cap ≤ c.mem.buf.samples.length
  · rw [if_pos hfull] at hgo
    cases hbill : billable s with
    | true =>
      simp only [hbill, Bool.not_true, Bool.false_eq_true, if_false] at hgo
      cases hvictim : c.mem.buf.remove (MetricsBuffer.victim c.mem.buf) with
      | none =>
        rw [hvictim] at hgo
        cases hgo
        apply h.go_held hp rfl rfl rfl rfl
        · rintro ⟨hcore, hslot⟩
          exact ⟨hcore.trans (MetricsBuffer.recordRest_of_empty hfull hbill hvictim), hslot⟩
        · rfl
        · rfl
      | some r =>
        rw [hvictim] at hgo
        cases hgo
        apply h.go_held hp rfl rfl rfl rfl
        · rintro ⟨hcore, hslot⟩
          have hrest := MetricsBuffer.recordRest_of_victim (b := c.mem.core) hfull hbill hvictim
          exact ⟨hcore.trans hrest, hslot⟩
        · rfl
        · rfl
    | false =>
      simp only [hbill, Bool.not_false, if_true] at hgo
      cases hgo
      apply h.go_held hp rfl rfl rfl rfl
      · rintro ⟨hcore, hslot⟩
        exact ⟨hcore.trans (MetricsBuffer.recordRest_of_refusal hfull hbill), hslot⟩
      · rfl
      · rfl
  · rw [if_neg hfull] at hgo
    cases hgo
    apply h.go_held hp rfl rfl rfl rfl
    · rintro ⟨hcore, hslot⟩
      exact ⟨hcore.trans (MetricsBuffer.recordRest_of_room hfull), hslot⟩
    · rfl
    · rfl

lemma Rel.go_recordDrop (h : Rel c o) {d : SampleOutcome} {next : Option σ}
    {c' : LockedBuffer ι σ} {now : DateTime} (hp : c.pc i = .recordDrop d next)
    (hgo : c.go i now = some c') : Answered o c' := by
  have hev : (c.mem.countDrop d).events = c.mem.events := MetricsBuffer.countDrop_events _ _
  have hpermit : (c.mem.countDrop d).flushEarly = c.mem.flushEarly :=
    MetricsBuffer.countDrop_flushEarly _ _
  simp only [LockedBuffer.go, hp] at hgo
  cases next with
  | none =>
    cases hgo
    apply h.go_held hp rfl rfl rfl rfl
    · rintro ⟨hcore, hslot⟩
      rw [MetricsBuffer.countDrop_core]
      exact ⟨hcore, _, 0, hslot, rfl⟩
    · exact hev
    · exact hpermit
  | some s =>
    cases hgo
    apply h.go_held hp rfl rfl rfl rfl
    · rintro ⟨hcore, hslot⟩
      rw [MetricsBuffer.countDrop_core]
      exact ⟨hcore, hslot⟩
    · exact hev
    · exact hpermit

/-! #### `record_events` -/

omit [HasOutcome σ] in
/-- A thread takes the lock of the rollup, if it is free. -/
lemma of_lockEvents {p : Pc σ} {c' : LockedBuffer ι σ} (hgo : c.lockEvents i p = some c') :
    c.events = none ∧ c' = { c.move i p with events := some i } := by
  rw [LockedBuffer.lockEvents] at hgo
  split at hgo
  · next hfree =>
    cases hgo
    exact ⟨Option.isNone_iff_eq_none.mp hfree, rfl⟩
  · cases hgo

lemma Rel.go_recordEvents (h : Rel c o) {n m : String} {counts : EventCounts}
    {c' : LockedBuffer ι σ} {now : DateTime} (hp : c.pc i = .recordEvents n m counts)
    (hgo : c.go i now = some c') : Answered o c' := by
  have hslot := h.meets i
  rw [hp] at hslot
  simp only [LockedBuffer.go, hp] at hgo
  by_cases hzero : counts = {}
  · rw [if_pos hzero] at hgo
    cases hgo
    have hnop : o.state.recordEvents now n m counts = o.state := if_pos hzero
    apply answered_of_effect hslot now
    show Rel _ ⟨o.state.recordEvents now n m counts, _⟩
    rw [hnop]
    apply h.update
    · rw [hp]; exact .keep _ _
    · rw [hp]; exact .keep _ _
    · exact Or.inr ⟨rfl, rfl⟩
    · exact ⟨_, 0, rfl, rfl⟩
    · exact h.free
    · exact h.rollup_frame (by rw [hp]; rfl) rfl
    · exact h.permit
  · rw [if_neg hzero] at hgo
    obtain ⟨hfree, rfl⟩ := of_lockEvents hgo
    apply answered_of_silent
    apply h.update
    · rw [hp]; exact .keep _ _
    · rw [hp, hfree]; exact .take
    · exact Or.inr ⟨rfl, rfl⟩
    · exact ⟨hslot, hzero⟩
    · exact h.free
    · rw [h.rollup_free hfree]
      exact (rollup_of_held c.mem c.ring i c.pc (.eventsSince n m counts)).symm
    · exact h.permit

/-- A step of a thread that holds the rollup, and not the ring. -/
lemma Rel.inRollup (h : Rel c o) {p : Pc σ} {mem state : MetricsBuffer σ}
    {slot : Slot (BufferOp σ) DateTime (BufferAnswer σ)}
    (hring : (c.pc i).holdsRing = false) (hring' : p.holdsRing = false)
    (hin : (c.pc i).holdsEvents = true) (hin' : p.holdsEvents = true)
    (hmeets : p.Meets mem.core state.core slot) (hmem : mem.core = c.mem.core)
    (hstate : state.core = o.state.core) (hrollup : state.events = p.completed mem.events)
    (hpermit : state.flushEarly = mem.flushEarly) :
    Rel { c.move i p with mem := mem } ⟨state, Function.update o.slot i slot⟩ := by
  apply h.update
  · rw [hring, hring']
    exact .keep _ _
  · rw [hin, hin']
    exact .keep _ _
  · exact Or.inr ⟨hmem, hstate⟩
  · exact hmeets
  · intro hfree
    rw [hstate, hmem]
    exact h.free hfree
  · have hself : c.events = some i := (h.events i).mp hin
    rw [hrollup]
    show _ = LockedBuffer.rollup ⟨mem, c.ring, c.events, Function.update c.pc i p⟩
    rw [hself, rollup_of_held]
  · exact hpermit

lemma Rel.go_eventsSince (h : Rel c o) {n m : String} {counts : EventCounts}
    {c' : LockedBuffer ι σ} {now : DateTime} (hp : c.pc i = .eventsSince n m counts)
    (hgo : c.go i now = some c') : Answered o c' := by
  have hmeets := h.meets i
  rw [hp] at hmeets
  obtain ⟨hslot, hsome⟩ := hmeets
  have hevents : o.state.events = c.mem.events := by
    rw [h.rollup_held (by rw [hp]; rfl), hp]
    rfl
  simp only [LockedBuffer.go, hp] at hgo
  cases hgo
  have heff : o.state.recordEvents now n m counts = { o.state with
      events := ({ o.state.events with since := some (o.state.events.since.getD now) } :
        EventsRollup).count n m counts } := if_neg hsome
  apply answered_of_effect hslot now
  show Rel _ ⟨o.state.recordEvents now n m counts, _⟩
  rw [heff]
  apply h.inRollup (by rw [hp]; rfl) rfl (by rw [hp]; rfl) rfl
  · rfl
  · rfl
  · rfl
  · rw [hevents]
    rfl
  · exact h.permit

lemma Rel.go_eventsCount (h : Rel c o) {n m : String} {counts : EventCounts}
    {c' : LockedBuffer ι σ} {now : DateTime} (hp : c.pc i = .eventsCount n m counts)
    (hgo : c.go i now = some c') : Answered o c' := by
  have hslot := h.meets i
  rw [hp] at hslot
  have hevents : o.state.events = c.mem.events.count n m counts := by
    rw [h.rollup_held (by rw [hp]; rfl), hp]
    rfl
  simp only [LockedBuffer.go, hp] at hgo
  cases hgo
  apply answered_of_silent
  apply h.inRollup (by rw [hp]; rfl) rfl (by rw [hp]; rfl) rfl
  · exact hslot
  · rfl
  · rfl
  · exact hevents
  · exact h.permit

lemma Rel.go_eventsUnlock (h : Rel c o) {c' : LockedBuffer ι σ} {now : DateTime}
    (hp : c.pc i = .eventsUnlock) (hgo : c.go i now = some c') : Answered o c' := by
  have hslot := h.meets i
  rw [hp] at hslot
  have hself : c.events = some i := (h.events i).mp (by rw [hp]; rfl)
  have hevents : o.state.events = c.mem.events := by
    rw [h.rollup_held (by rw [hp]; rfl), hp]
    rfl
  simp only [LockedBuffer.go, hp] at hgo
  cases hgo
  apply answered_of_silent
  apply h.update
  · rw [hp]; exact .keep _ _
  · rw [hp, hself]; exact .give
  · exact Or.inr ⟨rfl, rfl⟩
  · exact ⟨_, 0, hslot, rfl⟩
  · exact h.free
  · exact hevents
  · exact h.permit

/-! #### `drain` -/

/-- A thread that holds both locks gives the rollup back. -/
lemma Rel.unlockEvents (h : Rel c o) {p : Pc σ}
    (hring : (c.pc i).holdsRing = true) (hring' : p.holdsRing = true)
    (hin : (c.pc i).holdsEvents = true) (hout : p.holdsEvents = false)
    (hmeets : p.Meets c.mem.core o.state.core (o.slot i))
    (hdone : (c.pc i).completed c.mem.events = c.mem.events) :
    Rel { c.move i p with events := none } ⟨o.state, Function.update o.slot i (o.slot i)⟩ := by
  have hself : c.events = some i := (h.events i).mp hin
  apply h.update
  · rw [hring, hring']
    exact .keep _ _
  · rw [hin, hout, hself]
    exact .give
  · exact Or.inl hring
  · exact hmeets
  · intro hfree
    have hself : c.ring = some i := (h.ring i).mp hring
    exact absurd (hself.symm.trans hfree) (Option.some_ne_none i)
  · exact (h.rollup_held hin).trans hdone
  · exact h.permit

/-- A thread that holds the ring takes the lock of the rollup. -/
lemma Rel.takeEvents (h : Rel c o) {p : Pc σ} {state : MetricsBuffer σ}
    {slot : Slot (BufferOp σ) DateTime (BufferAnswer σ)} (hfree : c.events = none)
    (hring : (c.pc i).holdsRing = true) (hring' : p.holdsRing = true)
    (hout : (c.pc i).holdsEvents = false) (hin : p.holdsEvents = true)
    (hmeets : p.Meets c.mem.core state.core slot)
    (hrollup : state.events = p.completed c.mem.events)
    (hpermit : state.flushEarly = o.state.flushEarly) :
    Rel { c.move i p with events := some i } ⟨state, Function.update o.slot i slot⟩ := by
  apply h.update
  · rw [hring, hring']
    exact .keep _ _
  · rw [hout, hin, hfree]
    exact .take
  · exact Or.inl hring
  · exact hmeets
  · intro hnone
    have hself : c.ring = some i := (h.ring i).mp hring
    exact absurd (hself.symm.trans hnone) (Option.some_ne_none i)
  · rw [hrollup]
    exact (rollup_of_held c.mem c.ring i c.pc p).symm
  · rw [hpermit]
    exact h.permit

lemma Rel.go_drainSamples (h : Rel c o) {c' : LockedBuffer ι σ} {now : DateTime}
    (hp : c.pc i = .drainSamples) (hgo : c.go i now = some c') : Answered o c' := by
  simp only [LockedBuffer.go, hp] at hgo
  cases hgo
  apply h.go_held hp rfl rfl rfl rfl
  · rintro ⟨hcore, hslot⟩
    refine ⟨?_, ?_, hslot⟩
    · rw [hcore]
      rfl
    · rw [hcore]
      rfl
  · rfl
  · rfl

lemma Rel.go_drainLock (h : Rel c o) {samples : List σ} {c' : LockedBuffer ι σ} {now : DateTime}
    (hp : c.pc i = .drainLock samples) (hgo : c.go i now = some c') : Answered o c' := by
  have hmeets := h.meets i
  rw [hp] at hmeets
  simp only [LockedBuffer.go, hp] at hgo
  obtain ⟨hfree, rfl⟩ := of_lockEvents hgo
  apply answered_of_silent
  apply h.takeEvents hfree (by rw [hp]; rfl) rfl (by rw [hp]; rfl) rfl
  · exact hmeets
  · exact h.rollup_free hfree
  · rfl

lemma Rel.go_drainTake (h : Rel c o) {samples : List σ} {c' : LockedBuffer ι σ} {now : DateTime}
    (hp : c.pc i = .drainTake samples) (hgo : c.go i now = some c') : Answered o c' := by
  have hmeets := h.meets i
  rw [hp] at hmeets
  obtain ⟨hcore, hsamples, hslot⟩ := hmeets
  have hring : c.ring = some i := (h.ring i).mp (by rw [hp]; rfl)
  have hself : c.events = some i := (h.events i).mp (by rw [hp]; rfl)
  have hevents : o.state.events = c.mem.events := by
    rw [h.rollup_held (by rw [hp]; rfl), hp]
    rfl
  simp only [LockedBuffer.go, hp] at hgo
  cases hgo
  apply answered_of_effect hslot now
  apply h.update
  · rw [hp]; exact .keep _ _
  · rw [hp]; exact .keep _ _
  · left; rw [hp]; rfl
  · constructor
    · show o.state.afterDrain.core =
        { c.mem.core with droppedOverflow := 0, droppedNonBillable := 0, seq := c.mem.core.seq + 1 }
      rw [hcore]
      rfl
    · show Slot.answered (fun now => BufferAnswer.batch (o.state.drained now)) =
        .answered fun now => BufferAnswer.batch
          ⟨samples, c.mem.core.droppedOverflow, c.mem.core.droppedNonBillable, c.mem.core.seq + 1,
            MetricsBuffer.usageRows c.mem.events now⟩
      rw [hsamples, hcore, ← hevents]
      rfl
  · exact fun hnone => absurd (hring.symm.trans hnone) (Option.some_ne_none i)
  · show o.state.afterDrain.events = LockedBuffer.rollup ⟨_, c.ring, c.events, Function.update c.pc i _⟩
    rw [hself, rollup_of_held]
    rfl
  · exact h.permit

lemma Rel.go_drainUnlock (h : Rel c o) {samples : List σ} {rows : EventsRollup}
    {c' : LockedBuffer ι σ} {now : DateTime} (hp : c.pc i = .drainUnlock samples rows)
    (hgo : c.go i now = some c') : Answered o c' := by
  have hmeets := h.meets i
  rw [hp] at hmeets
  simp only [LockedBuffer.go, hp] at hgo
  cases hgo
  apply answered_of_silent
  apply h.unlockEvents (by rw [hp]; rfl) rfl (by rw [hp]; rfl) rfl
  · exact hmeets
  · rw [hp]
    rfl

lemma Rel.go_drainClock (h : Rel c o) {samples : List σ} {rows : EventsRollup}
    {c' : LockedBuffer ι σ} {now : DateTime} (hp : c.pc i = .drainClock samples rows)
    (hgo : c.go i now = some c') : Answered o c' := by
  simp only [LockedBuffer.go, hp] at hgo
  cases hgo
  apply h.go_held hp rfl rfl rfl rfl
  · rintro ⟨hcore, hslot⟩
    exact ⟨hcore, _, now, hslot, rfl⟩
  · rfl
  · rfl

lemma Rel.go_drainOverflow (h : Rel c o) {samples : List σ} {rows : List EventUsage}
    {c' : LockedBuffer ι σ} {now : DateTime} (hp : c.pc i = .drainOverflow samples rows)
    (hgo : c.go i now = some c') : Answered o c' := by
  simp only [LockedBuffer.go, hp] at hgo
  cases hgo
  apply h.go_held hp rfl rfl rfl rfl
  · exact id
  · rfl
  · rfl

lemma Rel.go_drainNonBillable (h : Rel c o) {samples : List σ} {rows : List EventUsage}
    {overflow : ℕ} {c' : LockedBuffer ι σ} {now : DateTime}
    (hp : c.pc i = .drainNonBillable samples rows overflow) (hgo : c.go i now = some c') :
    Answered o c' := by
  simp only [LockedBuffer.go, hp] at hgo
  cases hgo
  apply h.go_held hp rfl rfl rfl rfl
  · exact id
  · rfl
  · rfl

lemma Rel.go_drainSeq (h : Rel c o) {samples : List σ} {rows : List EventUsage}
    {overflow nonBillable : ℕ} {c' : LockedBuffer ι σ} {now : DateTime}
    (hp : c.pc i = .drainSeq samples rows overflow nonBillable) (hgo : c.go i now = some c') :
    Answered o c' := by
  simp only [LockedBuffer.go, hp] at hgo
  cases hgo
  apply h.go_held hp rfl rfl rfl rfl
  · exact id
  · rfl
  · rfl

/-! #### `requeue_front` -/

lemma Rel.go_requeueSamples (h : Rel c o) {left : List σ} {batch : Drained σ}
    {c' : LockedBuffer ι σ} {now : DateTime} (hp : c.pc i = .requeueSamples left batch)
    (hgo : c.go i now = some c') : Answered o c' := by
  simp only [LockedBuffer.go, hp] at hgo
  cases left with
  | nil =>
    cases hgo
    apply h.go_held hp rfl rfl rfl rfl
    · rintro ⟨hslot, back, hback, hcore⟩
      obtain rfl : batch.samples = back := hback
      exact ⟨hslot, hcore⟩
    · rfl
    · rfl
  | cons s left =>
    cases hgo
    apply h.go_held hp rfl rfl rfl rfl
    · rintro ⟨hslot, back, hback, hcore⟩
      refine ⟨hslot, s :: back, ?_, ?_⟩
      · rw [hback, List.reverse_cons, List.append_assoc, List.singleton_append]
      · rw [MetricsBuffer.requeueSample_core, hcore, List.foldr_cons]
    · exact MetricsBuffer.requeueSamples_events [s] c.mem
    · exact MetricsBuffer.requeueSamples_flushEarly [s] c.mem

lemma Rel.go_requeueOverflow (h : Rel c o) {batch : Drained σ} {c' : LockedBuffer ι σ}
    {now : DateTime} (hp : c.pc i = .requeueOverflow batch) (hgo : c.go i now = some c') :
    Answered o c' := by
  simp only [LockedBuffer.go, hp] at hgo
  cases hgo
  apply h.go_held hp rfl rfl rfl rfl
  · rintro ⟨hslot, hcore⟩
    refine ⟨hslot, _, rfl, ?_⟩
    rw [← hcore]
    rfl
  · rfl
  · rfl

lemma Rel.go_requeueNonBillable (h : Rel c o) {batch : Drained σ} {c' : LockedBuffer ι σ}
    {now : DateTime} (hp : c.pc i = .requeueNonBillable batch) (hgo : c.go i now = some c') :
    Answered o c' := by
  simp only [LockedBuffer.go, hp] at hgo
  cases hgo
  apply h.go_held hp rfl rfl rfl rfl
  · rintro ⟨hslot, z, hz, hcore⟩
    refine ⟨hslot, z, hz, ?_⟩
    show { c.mem.core with
      droppedNonBillable := c.mem.core.droppedNonBillable + batch.droppedNonBillable } = _
    rw [hcore]
  · rfl
  · rfl

lemma Rel.go_requeueLock (h : Rel c o) {batch : Drained σ} {c' : LockedBuffer ι σ}
    {now : DateTime} (hp : c.pc i = .requeueLock batch) (hgo : c.go i now = some c') :
    Answered o c' := by
  have hmeets := h.meets i
  rw [hp] at hmeets
  obtain ⟨hslot, z, hz, hcore⟩ := hmeets
  simp only [LockedBuffer.go, hp] at hgo
  obtain ⟨hfree, rfl⟩ := of_lockEvents hgo
  apply answered_of_effect hslot now
  apply h.takeEvents hfree (by rw [hp]; rfl) rfl (by rw [hp]; rfl) rfl
  · refine ⟨?_, rfl⟩
    rw [← MetricsBuffer.requeueSamples_core] at hz
    rw [hcore, hz]
    rfl
  · show (o.state.requeueFront batch).events = batch.events.foldl MetricsBuffer.requeueUsage _
    rw [MetricsBuffer.requeueFront_events, h.rollup_free hfree]
  · exact MetricsBuffer.requeueSamples_flushEarly batch.samples o.state

lemma Rel.go_requeueRows (h : Rel c o) {left : List EventUsage} {c' : LockedBuffer ι σ}
    {now : DateTime} (hp : c.pc i = .requeueRows left) (hgo : c.go i now = some c') :
    Answered o c' := by
  have hmeets := h.meets i
  rw [hp] at hmeets
  obtain ⟨hcore, hslot⟩ := hmeets
  have hring : c.ring = some i := (h.ring i).mp (by rw [hp]; rfl)
  have hself : c.events = some i := (h.events i).mp (by rw [hp]; rfl)
  have hevents := h.rollup_held (i := i) (by rw [hp]; rfl)
  rw [hp] at hevents
  simp only [LockedBuffer.go, hp] at hgo
  cases left with
  | nil =>
    cases hgo
    apply answered_of_silent
    apply h.unlockEvents (by rw [hp]; rfl) rfl (by rw [hp]; rfl) rfl
    · exact ⟨hcore, _, 0, hslot, rfl⟩
    · rw [hp]
      rfl
  | cons u left =>
    cases hgo
    apply answered_of_silent
    apply h.update
    · rw [hp]; exact .keep _ _
    · rw [hp]; exact .keep _ _
    · left; rw [hp]; rfl
    · exact ⟨hcore, hslot⟩
    · exact fun hnone => absurd (hring.symm.trans hnone) (Option.some_ne_none i)
    · show _ = LockedBuffer.rollup ⟨_, c.ring, c.events, Function.update c.pc i _⟩
      rw [hself, rollup_of_held]
      exact hevents
    · exact h.permit

/-! #### The rest, and a whole run -/

lemma Rel.go_bufferedLen (h : Rel c o) {c' : LockedBuffer ι σ} {now : DateTime}
    (hp : c.pc i = .bufferedLen) (hgo : c.go i now = some c') : Answered o c' := by
  have hmeets := h.meets i
  rw [hp] at hmeets
  obtain ⟨hcore, hslot⟩ := hmeets
  simp only [LockedBuffer.go, hp] at hgo
  cases hgo
  apply answered_of_effect hslot now
  apply h.held (by rw [hp]; rfl) rfl (by rw [hp]; rfl) rfl
  · have hbuf : o.state.buf = c.mem.buf := congrArg (fun b => b.buf) hcore
    refine ⟨hcore, _, 0, rfl, ?_⟩
    show BufferAnswer.len o.state.buf.samples.length = .len c.mem.buf.samples.length
    rw [hbuf]
  · rfl
  · rfl
  · exact h.permit

lemma Rel.go_notified (h : Rel c o) {c' : LockedBuffer ι σ} {now : DateTime}
    (hp : c.pc i = .notified) (hgo : c.go i now = some c') : Answered o c' := by
  have hslot := h.meets i
  rw [hp] at hslot
  simp only [LockedBuffer.go, hp] at hgo
  cases hgo
  apply answered_of_effect hslot now
  apply h.update
  · rw [hp]; exact .keep _ _
  · rw [hp]; exact .keep _ _
  · exact Or.inr ⟨rfl, rfl⟩
  · refine ⟨_, 0, rfl, ?_⟩
    show BufferAnswer.woken o.state.flushEarly = .woken c.mem.flushEarly
    rw [h.permit]
  · exact h.free
  · exact h.rollup_frame (by rw [hp]; rfl) rfl
  · rfl

lemma Rel.go_unlock (h : Rel c o) {answer : BufferAnswer σ} {c' : LockedBuffer ι σ}
    {now : DateTime} (hp : c.pc i = .unlock answer) (hgo : c.go i now = some c') :
    Answered o c' := by
  have hmeets := h.meets i
  rw [hp] at hmeets
  obtain ⟨hcore, hanswers⟩ := hmeets
  have hring : c.ring = some i := (h.ring i).mp (by rw [hp]; rfl)
  simp only [LockedBuffer.go, hp] at hgo
  cases hgo
  apply answered_of_silent
  apply h.update
  · rw [hp, hring]; exact .give
  · rw [hp]; exact .keep _ _
  · exact Or.inr ⟨rfl, rfl⟩
  · exact hanswers
  · exact fun _ => hcore
  · exact h.rollup_frame (by rw [hp]; rfl) rfl
  · exact h.permit

/-- Each access of a thread is answered. -/
lemma Rel.go (h : Rel c o) {c' : LockedBuffer ι σ} {now : DateTime}
    (hgo : c.go i now = some c') : Answered o c' := by
  cases hp : c.pc i with
  | idle => simp [LockedBuffer.go, hp] at hgo
  | finished r => simp [LockedBuffer.go, hp] at hgo
  | record s =>
    simp only [LockedBuffer.go, hp] at hgo
    exact h.go_lockRing hp hgo rfl rfl rfl rfl fun _ _ hslot => ⟨rfl, hslot⟩
  | drain =>
    simp only [LockedBuffer.go, hp] at hgo
    exact h.go_lockRing hp hgo rfl rfl rfl rfl fun _ _ hslot => ⟨rfl, hslot⟩
  | requeue batch =>
    simp only [LockedBuffer.go, hp] at hgo
    apply h.go_lockRing hp hgo rfl rfl rfl rfl
    intro _ _ hslot
    refine ⟨hslot, [], ?_, rfl⟩
    rw [List.reverse_reverse, List.append_nil]
  | buffered =>
    simp only [LockedBuffer.go, hp] at hgo
    exact h.go_lockRing hp hgo rfl rfl rfl rfl fun _ _ hslot => ⟨rfl, hslot⟩
  | recordWake s =>
    simp only [LockedBuffer.go, hp] at hgo
    cases hgo
    exact h.go_recordWake hp
  | recordRoom s => exact h.go_recordRoom hp hgo
  | recordDrop d next => exact h.go_recordDrop hp hgo
  | recordPush s =>
    simp only [LockedBuffer.go, hp] at hgo
    cases hgo
    apply h.go_held hp rfl rfl rfl rfl
    · rintro ⟨hcore, hslot⟩
      exact ⟨hcore, _, 0, hslot, rfl⟩
    · rfl
    · rfl
  | recordEvents n m counts => exact h.go_recordEvents hp hgo
  | eventsSince n m counts => exact h.go_eventsSince hp hgo
  | eventsCount n m counts => exact h.go_eventsCount hp hgo
  | eventsUnlock => exact h.go_eventsUnlock hp hgo
  | drainSamples => exact h.go_drainSamples hp hgo
  | drainLock samples => exact h.go_drainLock hp hgo
  | drainTake samples => exact h.go_drainTake hp hgo
  | drainUnlock samples rows => exact h.go_drainUnlock hp hgo
  | drainClock samples rows => exact h.go_drainClock hp hgo
  | drainOverflow samples rows => exact h.go_drainOverflow hp hgo
  | drainNonBillable samples rows overflow => exact h.go_drainNonBillable hp hgo
  | drainSeq samples rows overflow nonBillable => exact h.go_drainSeq hp hgo
  | requeueSamples left batch => exact h.go_requeueSamples hp hgo
  | requeueOverflow batch => exact h.go_requeueOverflow hp hgo
  | requeueNonBillable batch => exact h.go_requeueNonBillable hp hgo
  | requeueLock batch => exact h.go_requeueLock hp hgo
  | requeueRows left => exact h.go_requeueRows hp hgo
  | bufferedLen => exact h.go_bufferedLen hp hgo
  | notified => exact h.go_notified hp hgo
  | unlock answer => exact h.go_unlock hp hgo

lemma Rel.call (h : Rel c o) (hp : c.pc i = .idle) (op : BufferOp σ) :
    Rel (c.move i op.entry) ⟨o.state, Function.update o.slot i (.called op)⟩ := by
  apply h.update
  · rw [hp]
    cases op <;> exact .keep _ _
  · rw [hp]
    cases op <;> exact .keep _ _
  · exact Or.inr ⟨rfl, rfl⟩
  · cases op <;> rfl
  · exact h.free
  · exact h.rollup_frame (by rw [hp]; rfl) rfl
  · exact h.permit

lemma Rel.ret (h : Rel c o) {answer : BufferAnswer σ} (hp : c.pc i = .finished answer) :
    Rel (c.move i .idle) ⟨o.state, Function.update o.slot i .idle⟩ := by
  apply h.update
  · rw [hp]; exact .keep _ _
  · rw [hp]; exact .keep _ _
  · exact Or.inr ⟨rfl, rfl⟩
  · rfl
  · exact h.free
  · exact h.rollup_frame (by rw [hp]; rfl) rfl
  · exact h.permit

/-- The sequential buffer simulates the one with the locks. -/
def simulation : Simulation (step (ι := ι) (σ := σ)) seen (Object.step MetricsBuffer.apply)
    Object.seen where
  rel := Rel
  sim := by
    intro c c' o e h hstep
    cases e with
    | go i now => exact h.go hstep
    | call i op =>
      simp only [step] at hstep
      split at hstep
      · next hp =>
        cases hstep
        have hslot : o.slot i = .idle := by
          have hmeets := h.meets i
          rwa [hp] at hmeets
        have hcall : Object.step MetricsBuffer.apply o (.call i op) = some _ := Object.step_call hslot
        refine ⟨[.call i op], _, exec_cons_eq_some.mpr ⟨_, hcall, rfl⟩, ?_, h.call hp op⟩
        rw [observed_cons hcall]
        rfl
      · cases hstep
    | ret i =>
      simp only [step] at hstep
      split at hstep
      · next answer hp =>
        cases hstep
        obtain ⟨f, now, hslot, hanswer⟩ : Answers (o.slot i) answer := by
          have hmeets := h.meets i
          rwa [hp] at hmeets
        have hret : Object.step MetricsBuffer.apply o (.ret i now) = some _ :=
          Object.step_ret hslot now
        refine ⟨[.ret i now], _, exec_cons_eq_some.mpr ⟨_, hret, rfl⟩, ?_, h.ret hp⟩
        rw [observed_cons hret, Object.seen_ret hslot, hanswer]
        simp [observed, seen, hp]
      · cases hstep

omit [DecidableEq ι] in
lemma init_rel (cap batchCap : ℕ) :
    Rel (ι := ι) (σ := σ) (init cap batchCap) (Object.init (.withCaps cap batchCap)) := by
  constructor
  · simp [init, Pc.holdsRing]
  · simp [init, Pc.holdsEvents]
  · exact fun _ => rfl
  · exact fun _ => rfl
  · rfl
  · rfl

omit [DecidableEq ι] in
/-- With no call in progress both locks are free. -/
lemma Rel.free_of_idle (h : Rel c o) (hidle : ∀ i, c.pc i = .idle) :
    c.ring = none ∧ c.events = none := by
  constructor
  · cases hr : c.ring with
    | none => rfl
    | some i =>
      have hheld := (h.ring i).mpr hr
      rw [hidle i] at hheld
      cases hheld
  · cases he : c.events with
    | none => rfl
    | some i =>
      have hheld := (h.events i).mpr he
      rw [hidle i] at hheld
      cases hheld

omit [DecidableEq ι] in
/-- With no call in progress nothing is ahead and nothing is left to do. -/
lemma Rel.of_idle (h : Rel c o) (hidle : ∀ i, c.pc i = .idle) :
    o.state = c.mem ∧ ∀ i, o.slot i = .idle := by
  obtain ⟨hring, hevents⟩ := h.free_of_idle hidle
  have hcore := h.free hring
  constructor
  · calc o.state
        = { o.state.core with events := o.state.events, flushEarly := o.state.flushEarly } := rfl
      _ = { c.mem.core with events := c.mem.events, flushEarly := c.mem.flushEarly } := by
        rw [hcore, h.rollup_free hevents, h.permit]
      _ = c.mem := rfl
  · intro i
    have hmeets := h.meets i
    rwa [hidle i] at hmeets

/-- Whatever the threads see of the buffer, in any interleaving of their accesses, is what they can
see of a buffer whose operations take effect one at a time, each between its call and its return.
Once no call is in progress the two buffers are the same. -/
theorem linearizable (cap batchCap : ℕ) (es : List (ThreadEvent ι σ)) (c : LockedBuffer ι σ)
    (h : exec step (init cap batchCap) es = some c) :
    ∃ es' o, exec (Object.step MetricsBuffer.apply) (Object.init (.withCaps cap batchCap)) es' =
        some o ∧
      observed (Object.step MetricsBuffer.apply) Object.seen (Object.init (.withCaps cap batchCap))
        es' = observed step seen (init cap batchCap) es ∧
      ((∀ i, c.pc i = .idle) → o.state = c.mem) := by
  obtain ⟨es', o, ho, hseen, hrel⟩ := simulation.run (init_rel cap batchCap) h
  exact ⟨es', o, ho, hseen, fun hidle => (Rel.of_idle hrel hidle).1⟩

/-- A call is recorded and a delivery counted side by side, and a drain waits for both. -/
theorem linearizable_three_threads :
    let go (i : Fin 3) : ThreadEvent (Fin 3) ToolCallSample := .go i 7
    let es := [.call 0 (.record (.plain "github" "list_repos" .ok 5)),
      .call 1 (.recordEvents "issue.opened" "webhook" { delivered := 1 }), .call 2 .drain,
      go 0, go 1, go 0, go 1, go 0, go 0, go 1, go 0, go 2, go 2, go 1, .ret 0, go 2, go 2, go 2,
      go 2, go 2, go 2, go 2, go 2, .ret 1, .ret 2]
    ∃ c, exec step (init 2 1) es = some c ∧ c.mem.seq = 1 ∧
      ∃ es' o, exec (Object.step MetricsBuffer.apply) (Object.init (.withCaps 2 1)) es' = some o ∧
        observed (Object.step MetricsBuffer.apply) Object.seen (Object.init (.withCaps 2 1)) es' =
          observed step seen (init 2 1) es ∧
        ((∀ i, c.pc i = .idle) → o.state = c.mem) := by
  intro go es
  have hrun : ∃ c, exec step (init 2 1) es = some c ∧ c.mem.seq = 1 := ⟨_, rfl, rfl⟩
  obtain ⟨c, hc, hseq⟩ := hrun
  exact ⟨c, hc, hseq, linearizable 2 1 es c hc⟩

end LockedBuffer

end ControlPlaneClient
