import ControlPlaneClient.Metrics.Order
import ControlPlaneClient.Session.Reconnect

/-!
# The reports of all sessions

Across sessions, with flush tasks that linger after theirs is over, the metrics lane keeps no order of
arrival: a lingering task may return its batch once newer calls are reported. Two things hold all the
same. No call is in two places, so none is reported twice. And the control plane sees the reports in
the order of their numbers, because only the task of the open session sends, and what it drains is
numbered past all that was drained before. A shutdown is not among the ends of a session here.
-/

namespace ControlPlaneClient

open Transition

/-! ### No call in two places -/

namespace Lane

/-- What left the buffer or is in it was recorded, and is there once for each record. -/
def Once (l : Lane) : Prop := l.trail.Subperm l.recorded

lemma trail_perm_of_took {l l' : Lane} {d : Drained Arrival} {xs ys : List (Drained Arrival)}
    (hh : l'.handed = l.handed) (ho : l.outstanding = xs ++ ys)
    (ho' : l'.outstanding = xs ++ [d] ++ ys)
    (hbuf : d.samples ++ l'.buffer.buf.samples = l.buffer.buf.samples) :
    l'.trail.Perm l.trail := by
  rw [trail, trail, hh, ho, ho', ← hbuf, ← Multiset.coe_eq_coe]
  simp only [List.flatMap_append, List.flatMap_singleton, ← Multiset.coe_add]
  abel

lemma trail_perm_of_handedOver {l l' : Lane} {d : Drained Arrival}
    {xs ys : List (Drained Arrival)} (hh : l'.handed = l.handed ++ [d])
    (ho : l.outstanding = xs ++ [d] ++ ys) (ho' : l'.outstanding = xs ++ ys)
    (hb : l'.buffer = l.buffer) : l'.trail.Perm l.trail := by
  rw [trail, trail, hh, ho, ho', hb, ← Multiset.coe_eq_coe]
  simp only [List.flatMap_append, List.flatMap_singleton, ← Multiset.coe_add]
  abel

lemma trail_subperm_of_returned {l l' : Lane} {d : Drained Arrival}
    {xs ys : List (Drained Arrival)} (hh : l'.handed = l.handed)
    (ho : l.outstanding = xs ++ [d] ++ ys) (ho' : l'.outstanding = xs ++ ys)
    (hbuf : l'.buffer.buf.samples.Sublist (d.samples ++ l.buffer.buf.samples)) :
    l'.trail.Subperm l.trail := by
  have hsub : l'.trail.Sublist (l.handed.flatMap Drained.samples ++
      (xs ++ ys).flatMap Drained.samples ++ (d.samples ++ l.buffer.buf.samples)) := by
    rw [trail, hh, ho']
    exact (List.Sublist.refl _).append hbuf
  apply hsub.subperm.trans
  apply List.Perm.subperm
  rw [trail, ho, ← Multiset.coe_eq_coe]
  simp only [List.flatMap_append, List.flatMap_singleton, ← Multiset.coe_add]
  abel

lemma trail_sublist_of_frame {l l' : Lane} {xs : List Arrival} (hh : l'.handed = l.handed)
    (ho : l'.outstanding = l.outstanding)
    (hbuf : l'.buffer.buf.samples.Sublist (l.buffer.buf.samples ++ xs)) :
    l'.trail.Sublist (l.trail ++ xs) := by
  rw [trail, trail, hh, ho, List.append_assoc _ l.buffer.buf.samples]
  exact (List.Sublist.refl _).append hbuf

lemma Effect.once {l l' : Lane} {e : LaneEvent} (h : Effect l e l') (hl : l.Once) : l'.Once := by
  cases h with
  | record s hb ho hr hh =>
    have hsub : l'.trail.Sublist (l.trail ++ [l.arrival s]) := by
      apply trail_sublist_of_frame hh ho
      rw [hb]
      exact l.buffer.record_sublist (l.arrival s)
    rw [Once, hr]
    exact hsub.subperm.trans ((List.subperm_append_right _).mpr hl)
  | recordEvents now n m k hb ho hr hh =>
    have hsub : l'.trail.Sublist (l.trail ++ []) := by
      apply trail_sublist_of_frame hh ho
      rw [hb, MetricsBuffer.recordEvents_buf, List.append_nil]
    rw [List.append_nil] at hsub
    rw [Once, hr]
    exact hsub.subperm.trans hl
  | spawn hb ho hr hh =>
    rw [Once, hr, trail, hh, ho, hb]
    exact hl
  | task i e held held' out xs ys hheld he ho ho' hr hh =>
    rw [Once, hr]
    refine List.Subperm.trans ?_ hl
    generalize hb' : l'.buffer = b' at he
    cases he with
    | idle e permit =>
      rw [List.append_nil] at hh
      rw [trail, hh, ho'.trans ho.symm, hb']
      exact (List.Sublist.refl _).subperm
    | took now hne =>
      rw [List.append_nil] at hh
      apply (trail_perm_of_took hh (ho.trans (by simp)) ho' ?_).subperm
      rw [hb']
      exact MetricsBuffer.drained_append_afterDrain _ now
    | tookNothing now hempty =>
      rw [List.append_nil] at hh
      rw [trail, hh, ho'.trans ho.symm, hb']
      exact ((List.Sublist.refl _).append (List.drop_sublist _ _)).subperm
    | handedOver d => exact (trail_perm_of_handedOver hh ho (ho'.trans (by simp)) hb').subperm
    | returned e d he =>
      rw [List.append_nil] at hh
      apply trail_subperm_of_returned hh ho (ho'.trans (by simp))
      rw [hb']
      exact l.buffer.dropInFlight_sublist d

/-! ### What the tasks hold -/

/-- A step of a task changes what it holds, and not what the others do. -/
lemma step_task_held {l l' : Lane} {i : ℕ} {e : FlushEvent} (h : l.step (.task i e) = some l') :
    (∃ out, FlushEffect l.buffer e (l.held i) l'.buffer (l'.held i) out) ∧
    ∀ j, j ≠ i → l'.held j = l.held j := by
  simp only [step, Option.bind_eq_bind, Option.bind_eq_some_iff] at h
  obtain ⟨p, hp, ⟨b, p', out⟩, hstep, h⟩ := h
  cases h
  obtain ⟨hi, _⟩ := List.getElem?_eq_some_iff.mp hp
  constructor
  · have hset : (l.tasks.set i p')[i]? = some p' := List.getElem?_set_self hi
    refine ⟨out, ?_⟩
    simp only [held, hp, hset, Option.bind_some]
    exact flushStep_effect hstep
  · intro j hj
    simp only [held, List.getElem?_set_ne hj.symm]

lemma held_spawn {l l' : Lane} (h : l.step .spawn = some l') :
    l'.buffer = l.buffer ∧ l'.held l.tasks.length = none := by
  cases h
  simp [held, FlushPhase.inFlight]

end Lane

lemma FlushEffect.seq_le {σ : Type*} [HasOutcome σ] {b b' : MetricsBuffer σ} {e : FlushEvent}
    {held held' : Option (Drained σ)} {out : List (Drained σ)}
    (h : FlushEffect b e held b' held' out) : b.seq ≤ b'.seq := by
  cases h with
  | idle e permit => exact le_rfl
  | took now hne => exact Nat.le_succ _
  | tookNothing now hempty => exact Nat.le_succ _
  | handedOver d => exact le_rfl
  | returned e d he => rw [MetricsBuffer.dropInFlight_seq]

/-! ### The open session -/

namespace Sessions

/-- The batch that the flush task of the open session is sending. -/
def flying (s : Sessions) : Option (Drained Arrival) :=
  s.live.bind fun o => s.lane.held o.task

/-- The reports that the transport took, those in the queue and the one on its way there. -/
def reports (s : Sessions) : List (Drained Arrival) := s.taken ++ s.queued ++ s.flying.toList

/-- The reports are in the order of their numbers, and the next drain is numbered past them. -/
structure Increasing (s : Sessions) : Prop where
  order : (s.reports.map Drained.seq).Pairwise (· < ·)
  bound : ∀ d ∈ s.reports, d.seq ≤ s.lane.buffer.seq

lemma Increasing.of_sublist {s s' : Sessions} (hs : s.Increasing)
    (hsub : s'.reports.Sublist s.reports) (hseq : s.lane.buffer.seq ≤ s'.lane.buffer.seq) :
    s'.Increasing := by
  constructor
  · exact hs.order.sublist (hsub.map _)
  · intro d hd
    exact (hs.bound d (hsub.subset hd)).trans hseq

lemma Increasing.took {s s' : Sessions} {d : Drained Arrival} (hs : s.Increasing)
    (hreports : s'.reports = s.reports ++ [d]) (hd : d.seq = s.lane.buffer.seq + 1)
    (hseq : s'.lane.buffer.seq = s.lane.buffer.seq + 1) : s'.Increasing := by
  constructor
  · rw [hreports, List.map_append, List.pairwise_append]
    refine ⟨hs.order, List.pairwise_singleton _ _, ?_⟩
    intro q hq q' hq'
    obtain ⟨e, he, rfl⟩ := List.mem_map.mp hq
    obtain rfl := List.mem_singleton.mp hq'
    rw [hd]
    exact Nat.lt_succ_of_le (hs.bound e he)
  · intro e he
    rw [hreports] at he
    rcases List.mem_append.mp he with he | he
    · rw [hseq]
      exact Nat.le_succ_of_le (hs.bound e he)
    · rw [List.mem_singleton.mp he, hd, hseq]

/-- A step of a flush task other than a completed send. -/
lemma Increasing.task {s s' : Sessions} {i : ℕ} {e : FlushEvent} (hs : s.Increasing)
    (hsent : e ≠ .sent) (h : s.onLane (.task i e) = some s') : s'.Increasing := by
  obtain ⟨lane, hstep, rfl⟩ := Option.map_eq_some_iff.mp h
  obtain ⟨⟨out, he⟩, hother⟩ := Lane.step_task_held hstep
  rcases Option.eq_none_or_eq_some s.live with hlive | ⟨o, hlive⟩
  · apply hs.of_sublist
    · simp [reports, queued, flying, hlive]
    · exact he.seq_le
  · by_cases hi : o.task = i
    · subst hi
      have hfly : s.flying = s.lane.held o.task := by simp [flying, hlive]
      have hfly' : Sessions.flying { s with lane := lane } = lane.held o.task := by
        simp [flying, hlive]
      have hq : Sessions.queued { s with lane := lane } = s.queued := rfl
      generalize s.lane.held o.task = held at he hfly
      generalize lane.held o.task = held' at he hfly'
      generalize hb : lane.buffer = b at he
      cases he with
      | idle e permit =>
        apply hs.of_sublist
        · rw [reports, reports, hfly, hfly', hq]
        · exact (congrArg MetricsBuffer.seq hb).ge
      | took now hne =>
        apply hs.took (d := s.lane.buffer.drained now)
        · rw [reports, reports, hfly, hfly', hq]
          simp
        · rfl
        · exact congrArg MetricsBuffer.seq hb
      | tookNothing now hempty =>
        apply hs.of_sublist
        · rw [reports, reports, hfly, hfly', hq]
        · exact (Nat.le_succ _).trans (congrArg MetricsBuffer.seq hb).ge
      | handedOver d => exact absurd rfl hsent
      | returned e d he =>
        apply hs.of_sublist
        · rw [reports, reports, hfly, hfly', hq]
          simp
        · exact (s.lane.buffer.dropInFlight_seq d).ge.trans (congrArg MetricsBuffer.seq hb).ge
    · -- The task lingers: it numbers its batches past the reports, and sends none.
      have hfly : Sessions.flying { s with lane := lane } = s.flying := by
        simp only [flying, hlive, Option.bind_some]
        exact hother o.task hi
      apply hs.of_sublist
      · rw [reports, reports, hfly]
        exact List.Sublist.refl _
      · exact he.seq_le

lemma step_increasing {s s' : Sessions} {e : SessionEvent} (h : s.step e = some s')
    (hs : s.Increasing) : s'.Increasing := by
  cases e with
  | record x =>
    cases h
    apply hs.of_sublist
    · exact List.Sublist.refl _
    · exact (s.lane.buffer.record_seq _).ge
  | recordEvents now n m c =>
    cases h
    apply hs.of_sublist
    · exact List.Sublist.refl _
    · exact (s.lane.buffer.recordEvents_seq now n m c).ge
  | opens =>
    simp only [step] at h
    split at h
    · cases h
    · next hlive =>
      obtain ⟨lane, hspawn, h⟩ := Option.bind_eq_some_iff.mp h
      cases h
      obtain ⟨hb, hheld⟩ := Lane.held_spawn hspawn
      apply hs.of_sublist
      · simp [reports, queued, flying, hlive, hheld]
      · exact (congrArg MetricsBuffer.seq hb).ge
  | task i fe =>
    by_cases hsent : fe = .sent
    · subst hsent
      simp only [step, Option.bind_eq_bind, Option.bind_eq_some_iff] at h
      obtain ⟨o, ho, d, hd, lane, hlane, h⟩ := h
      split at h
      · next hroom =>
        cases h
        obtain ⟨⟨out, he⟩, _⟩ := Lane.step_task_held hlane
        obtain ⟨rfl, _⟩ := hroom
        rw [hd] at he
        generalize hheld' : lane.held o.task = held' at he
        generalize hb : lane.buffer = b at he
        cases he with
        | handedOver d =>
          apply hs.of_sublist
          · simp [reports, queued, flying, ho, hd, hheld', Outbound.batch?]
          · exact (congrArg MetricsBuffer.seq hb).ge
        | returned e d he => simp at he
      · cases h
    · apply hs.task hsent (i := i)
      cases fe with
      | sent => exact absurd rfl hsent
      | sendFails | abort =>
        simp only [step] at h
        split at h
        · cases h
        · exact h
      | _ => exact h
  | enqueue m =>
    simp only [step, Option.bind_eq_bind, Option.bind_eq_some_iff] at h
    obtain ⟨o, ho, h⟩ := h
    split at h <;> cases h
    apply hs.of_sublist
    · simp [reports, queued, flying, ho, Outbound.batch?]
    · exact le_rfl
  | take =>
    simp only [step, Option.bind_eq_bind, Option.bind_eq_some_iff] at h
    obtain ⟨o, ho, h⟩ := h
    split at h
    · cases h
    · next m q hq =>
      cases h
      apply hs.of_sublist
      · cases m <;>
          simp [reports, queued, flying, ho, hq, List.filterMap_cons, Outbound.batch?]
      · exact le_rfl
  | ends =>
    simp only [step, Option.bind_eq_bind, Option.bind_eq_some_iff] at h
    obtain ⟨o, ho, h⟩ := h
    cases h
    apply hs.of_sublist
    · simp [reports, queued, flying]
    · exact le_rfl

/-- What the transport took or has before it was handed over, in this order. -/
structure Traced (s : Sessions) : Prop where
  once     : s.lane.Once
  numbered : s.lane.Numbered
  handed   : (s.taken ++ s.queued).Sublist s.lane.handed

lemma Effect.traced {s s' : Sessions} {e : SessionEvent} (h : Effect s e s') (hs : s.Traced) :
    s'.Traced := by
  have hhanded := hs.handed
  cases h with
  | lane e le hstep hh hq ht he =>
    refine ⟨(Lane.step_effect hstep).once hs.once, (Lane.step_effect hstep).numbered hs.numbered, ?_⟩
    rwa [hh, hq, ht]
  | sent i d hstep hh hq ht =>
    refine ⟨(Lane.step_effect hstep).once hs.once, (Lane.step_effect hstep).numbered hs.numbered, ?_⟩
    rw [hh, hq, ht, ← List.append_assoc]
    exact hhanded.append_right [d]
  | enqueue m hl hq ht =>
    exact ⟨hl ▸ hs.once, hl ▸ hs.numbered, by rwa [hl, hq, ht]⟩
  | take ds hl hq ht =>
    refine ⟨hl ▸ hs.once, hl ▸ hs.numbered, ?_⟩
    rwa [hl, ht, List.append_assoc, ← hq]
  | ends hl hq ht =>
    refine ⟨hl ▸ hs.once, hl ▸ hs.numbered, ?_⟩
    rw [hl, ht, hq, List.append_nil]
    exact (List.sublist_append_left _ _).trans hhanded

lemma init_traced (cap batchCap : ℕ) : (init cap batchCap).Traced where
  once := List.Subperm.refl _
  numbered := fun n a ha => by simp [init, Lane.init] at ha
  handed := List.Sublist.refl _

lemma Traced.taken_subperm {s : Sessions} (hs : s.Traced) :
    (s.taken.flatMap Drained.samples).Subperm s.lane.recorded := by
  have hhanded : s.taken.Sublist s.lane.handed :=
    (List.sublist_append_left _ _).trans hs.handed
  apply List.Subperm.trans _ hs.once
  apply List.Sublist.subperm
  rw [Lane.trail, List.append_assoc]
  exact (hhanded.flatMap _).trans (List.sublist_append_left _ _)

/-- However sessions end and flush tasks linger, the transport takes the reports in the order of
their numbers, each number once, and no call is in two of them or twice in one. -/
theorem reports_once_in_order (cap batchCap : ℕ) (es : List SessionEvent) (s : Sessions)
    (h : exec step (init cap batchCap) es = some s) :
    (s.taken.map Drained.seq).Pairwise (· < ·) ∧
    ((s.taken.flatMap Drained.samples).map Arrival.number).Nodup ∧
    ∀ a ∈ s.taken.flatMap Drained.samples, s.lane.recorded[a.number]? = some a := by
  have hinit : (init cap batchCap).Increasing := ⟨List.Pairwise.nil, fun d hd => by cases hd⟩
  have hinc : s.Increasing :=
    exec_invariant (fun _ _ _ hs hstep => step_increasing hstep hs) hinit h
  have htraced : s.Traced := exec_invariant
    (fun _ _ _ hs hstep => (step_effect hstep).traced hs) (init_traced cap batchCap) h
  have hsub := htraced.taken_subperm
  refine ⟨?_, ?_, ?_⟩
  · have horder := hinc.order
    rw [reports, List.append_assoc, List.map_append, List.pairwise_append] at horder
    exact horder.1
  · have hle := Multiset.map_le_map (f := Arrival.number) (Multiset.coe_le.mpr hsub)
    rw [Multiset.map_coe, Multiset.map_coe] at hle
    exact Multiset.coe_nodup.mp
      (Multiset.nodup_of_le hle (Multiset.coe_nodup.mpr htraced.numbered.pairwise.nodup))
  · intro a ha
    obtain ⟨n, hn, rfl⟩ := List.mem_iff_getElem.mp (hsub.subset ha)
    have hget := List.getElem?_eq_getElem hn
    rw [htraced.numbered n _ hget]
    exact hget

/-- A task lingers with a call in flight while the next session reports a newer one; the call is
returned and reported last. -/
theorem reports_once_in_order_lingering :
    let call : SessionEvent := .record (.plain "github" "list_repos" .ok 5)
    let es := [.opens, call, .task 0 .tick, .task 0 (.drain 0), .ends, .opens, call, .task 1 .tick,
      .task 1 (.drain 0), .task 1 .sent, .task 0 .abort, .take, .task 1 .tick, .task 1 (.drain 0),
      .task 1 .sent, .take]
    ∃ s, exec step (init 5000 500) es = some s ∧
      (s.taken.flatMap Drained.samples).map Arrival.number = [1, 0] ∧
      (s.taken.map Drained.seq).Pairwise (· < ·) ∧
      ((s.taken.flatMap Drained.samples).map Arrival.number).Nodup ∧
      ∀ a ∈ s.taken.flatMap Drained.samples, s.lane.recorded[a.number]? = some a := by
  intro call es
  have hrun : ∃ s, exec step (init 5000 500) es = some s ∧
    (s.taken.flatMap Drained.samples).map Arrival.number = [1, 0] := ⟨_, rfl, rfl⟩
  obtain ⟨s, hs, hnumbers⟩ := hrun
  exact ⟨s, hs, hnumbers, reports_once_in_order 5000 500 es s hs⟩

end Sessions

end ControlPlaneClient
