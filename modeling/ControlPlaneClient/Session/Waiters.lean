import ControlPlaneClient.Session.RunLoop

/-!
# The waiters of `finished`

`AgentShutdown::finished`, called any number of times on any clones of the handle, against a
`run_loop` that sets `shutdown_finished` and then notifies `shutdown_done`. A caller looks at the flag,
creates its `Notified` future, looks at the flag again and awaits the future. A flag that is set by the
second look ends the wait; one that is set after it is followed by a notification to the future.
-/

namespace ControlPlaneClient

open Transition

/-- Where a call of `finished` stands. -/
inductive FinishedPc
  /-- About to look at the flag. -/
  | checking
  /-- About to create the future. -/
  | registering
  /-- About to look at the flag again. -/
  | rechecking (waiter : Notify.Notified)
  /-- Awaiting the future. -/
  | waiting (waiter : Notify.Notified)
  | returned

/-- The future of a call. -/
def FinishedPc.waiter : FinishedPc → Option Notify.Notified
  | .rechecking w | .waiting w => some w
  | _                          => none

/-- The next step of a call of `finished`. -/
def finishedStep (finished : Bool) (done : Notify) : FinishedPc → Option FinishedPc
  | .checking     => some (if finished then .returned else .registering)
  | .registering  => some (.rechecking done.notified)
  | .rechecking w => some (if finished then .returned else .waiting w)
  | .waiting w    => if done.delivered w then some .returned else none
  | .returned     => none

/-- The loop and the calls of `finished`. -/
structure Waiters (QuotaStatus : Type) where
  loop  : RunLoop QuotaStatus
  calls : List FinishedPc

inductive WaitersEvent
  | loop (e : LoopEvent)
  /-- Some clone of the handle calls `finished`. -/
  | call
  /-- A call makes its next step. -/
  | advance (i : ℕ)

namespace Waiters

variable {QuotaStatus : Type} (env : LoopEnv)

def start (creds : Option StoredCreds) : Waiters QuotaStatus := ⟨.start env creds, []⟩

def step (s : Waiters QuotaStatus) : WaitersEvent → Option (Waiters QuotaStatus)
  | .loop e => (s.loop.step env e).map fun loop => { s with loop := loop }
  | .call   => some { s with calls := s.calls ++ [.checking] }
  | .advance i => do
    let pc ← s.calls[i]?
    let pc ← finishedStep s.loop.finished s.loop.done pc
    some { s with calls := s.calls.set i pc }

/-- A call awaits a notification, and none was delivered to it. -/
def Stranded (s : Waiters QuotaStatus) : Prop :=
  ∃ w, FinishedPc.waiting w ∈ s.calls ∧ s.loop.done.delivered w = false

end Waiters

/-! ### The loop -/

/-- `run_loop` has set `shutdown_finished`. -/
def LoopPc.hasFinished : LoopPc → Bool
  | .announcing | .stopped => true
  | _                      => false

namespace RunLoop

variable {QuotaStatus : Type} {env : LoopEnv}

/-- All that a step can do to the flag and the notification. -/
inductive FinishMove (s : RunLoop QuotaStatus) : RunLoop QuotaStatus → Prop
  | away {s' : RunLoop QuotaStatus} (hf : s'.finished = s.finished) (hd : s'.done = s.done)
      (hpc : s'.pc = s.pc ∨ (s.pc.hasFinished = false ∧ s'.pc.hasFinished = false)) : FinishMove s s'
  | sets {s' : RunLoop QuotaStatus} (hf : s'.finished = true) (hd : s'.done = s.done)
      (hpc : s'.pc = .announcing) : FinishMove s s'
  | notifies {s' : RunLoop QuotaStatus} (hf : s'.finished = s.finished)
      (hd : s'.done = s.done.notifyWaiters) (hpc : s.pc = .announcing) (hpc' : s'.pc = .stopped) :
      FinishMove s s'

lemma settle_finishMove {s : RunLoop QuotaStatus} {result : SessionResult}
    (hpc : s.pc = .ended result) : FinishMove s (settle env s result) := by
  have hnot : s.pc.hasFinished = false := by rw [hpc]; rfl
  exact settle_induction env s result (.away rfl rfl (.inr ⟨hnot, rfl⟩))
    fun _ _ => .away rfl rfl (.inr ⟨hnot, rfl⟩)

lemma Effect.finishMove {s s' : RunLoop QuotaStatus} {e : LoopEvent} (h : Effect env s e s') :
    FinishMove s s' := by
  cases h with
  | triggerStore => exact .away rfl rfl (.inl rfl)
  | triggerNotify h => exact .away rfl rfl (.inl rfl)
  | registerUnreached reached next hpc hc => exact .away rfl rfl (.inl rfl)
  | rotation cr stored wait hpc hjwt => exact .away rfl rfl (.inl rfl)
  | rotationIgnored cr stored wait hpc hjwt => exact .away rfl rfl (.inl rfl)
  | settle result hpc => exact settle_finishMove hpc
  | finish hpc => exact .sets rfl rfl rfl
  | announce hpc => exact .notifies rfl rfl hpc rfl
  | check hpc =>
    refine .away rfl rfl (.inr ⟨by rw [hpc]; rfl, ?_⟩)
    dsimp only
    split <;> rfl
  | expiry expired hpc =>
    refine .away rfl rfl (.inr ⟨by rw [hpc]; rfl, ?_⟩)
    dsimp only
    split <;> rfl
  | registered resp now next hpc =>
    exact .away rfl rfl (.inr ⟨by rw [hpc]; rfl, by cases next <;> rfl⟩)
  | teardown result hpc =>
    refine .away rfl rfl (.inr ⟨by rw [hpc]; rfl, ?_⟩)
    dsimp only
    split <;> rfl
  | wake register hpc =>
    exact .away rfl rfl (.inr ⟨by rw [hpc]; rfl, by cases register <;> rfl⟩)
  | registerConnect _ _ _ hpc | registerFails _ hpc | connectFails _ hpc | connectNoToken _ _ hpc
  | connect _ _ _ _ hpc | openFails _ _ _ hpc | opened _ _ hpc | park hpc | inboundEnds _ _ hpc
  | notified _ hpc | flushed _ hpc =>
    exact .away rfl rfl (.inr ⟨by rw [hpc]; rfl, rfl⟩)

end RunLoop

/-! ### The calls -/

namespace Waiters

variable {QuotaStatus : Type} {env : LoopEnv}

/-- The flag is set once the loop is past it, every future was created by now, and a call that awaits
its future after the last notification has received it. -/
structure Served (s : Waiters QuotaStatus) : Prop where
  flag      : s.loop.finished = s.loop.pc.hasFinished
  known     : ∀ c ∈ s.calls, ∀ w ∈ c.waiter, s.loop.done.Knows w
  delivered : s.loop.pc = .stopped → ∀ w, FinishedPc.waiting w ∈ s.calls →
    s.loop.done.delivered w = true

lemma start_served (creds : Option StoredCreds) :
    (start env creds : Waiters QuotaStatus).Served := by
  have hpc : (RunLoop.start env creds : RunLoop QuotaStatus).pc.hasFinished = false := by
    cases creds with
    | none =>
      simp only [RunLoop.start]
      split <;> rfl
    | some creds => rfl
  exact ⟨hpc.symm, by simp [start], by simp [start]⟩

lemma Served.loop {s : Waiters QuotaStatus} {loop : RunLoop QuotaStatus} (hs : s.Served)
    (h : s.loop.FinishMove loop) : ({ s with loop := loop } : Waiters QuotaStatus).Served := by
  cases h with
  | away hf hd hpc =>
    constructor
    · rcases hpc with hpc | ⟨hpc, hpc'⟩
      · rw [hf, hpc, hs.flag]
      · rw [hf, hpc', hs.flag, hpc]
    · rw [hd]
      exact hs.known
    · intro hstop
      rw [hd]
      rcases hpc with hpc | ⟨-, hpc'⟩
      · exact hs.delivered (hpc.symm.trans hstop)
      · rw [hstop] at hpc'
        cases hpc'
  | sets hf hd hpc =>
    constructor
    · rw [hf, hpc]
      rfl
    · rw [hd]
      exact hs.known
    · intro hstop
      rw [hpc] at hstop
      cases hstop
  | notifies hf hd hpc hpc' =>
    constructor
    · rw [hf, hs.flag, hpc, hpc']
      rfl
    · intro c hc w hw
      rw [hd]
      exact (hs.known c hc w hw).notifyWaiters
    · -- The notification comes after every future there is.
      intro _ w hw
      rw [hd]
      exact (hs.known _ hw w rfl).delivered_notifyWaiters

lemma Served.advance {s : Waiters QuotaStatus} {i : ℕ} {pc pc' : FinishedPc} (hs : s.Served)
    (hpc : s.calls[i]? = some pc) (h : finishedStep s.loop.finished s.loop.done pc = some pc') :
    ({ s with calls := s.calls.set i pc' } : Waiters QuotaStatus).Served := by
  have hmem := List.mem_of_getElem? hpc
  constructor
  · exact hs.flag
  · intro c hc w hw
    rcases List.mem_or_eq_of_mem_set hc with hc | rfl
    · exact hs.known c hc w hw
    · cases pc with
      | checking =>
        simp only [finishedStep, Option.some.injEq] at h
        subst h
        split at hw <;> cases hw
      | registering =>
        cases h
        cases hw
        exact s.loop.done.knows_notified
      | rechecking w' =>
        simp only [finishedStep, Option.some.injEq] at h
        subst h
        split at hw
        · cases hw
        · cases hw
          exact hs.known _ hmem w rfl
      | waiting w' =>
        simp only [finishedStep] at h
        split at h
        · cases h; cases hw
        · cases h
      | returned => cases h
  · intro hstop w hw
    -- The flag is set, so no call starts to wait now.
    have hset : s.loop.finished = true := by rw [hs.flag, hstop]; rfl
    rcases List.mem_or_eq_of_mem_set hw with hw | rfl
    · exact hs.delivered hstop w hw
    · cases pc with
      | rechecking w' => simp [finishedStep, hset] at h
      | checking => simp [finishedStep, hset] at h
      | waiting w' =>
        simp only [finishedStep] at h
        split at h <;> cases h
      | registering => cases h
      | returned => cases h

lemma step_served {s s' : Waiters QuotaStatus} {e : WaitersEvent} (hs : s.Served)
    (h : s.step env e = some s') : s'.Served := by
  cases e with
  | loop e =>
    obtain ⟨loop, hstep, rfl⟩ := Option.map_eq_some_iff.mp h
    exact hs.loop (RunLoop.step_effect env hstep).finishMove
  | call =>
    cases h
    constructor
    · exact hs.flag
    · intro c hc w hw
      rcases List.mem_append.mp hc with hc | hc
      · exact hs.known c hc w hw
      · rw [List.mem_singleton.mp hc] at hw
        cases hw
    · intro hstop w hw
      rcases List.mem_append.mp hw with hw | hw
      · exact hs.delivered hstop w hw
      · cases List.mem_singleton.mp hw
  | advance i =>
    simp only [step, Option.bind_eq_bind, Option.bind_eq_some_iff] at h
    obtain ⟨pc, hpc, pc', hstep, h⟩ := h
    cases h
    exact hs.advance hpc hstep

variable (env) in
/-- Once `run_loop` has returned, no call of `finished` awaits a notification that it will not get. -/
theorem no_waiter_stranded (creds : Option StoredCreds) (es : List WaitersEvent)
    (s : Waiters QuotaStatus) (h : exec (step env) (start env creds) es = some s)
    (hstopped : s.loop.pc = .stopped) : ¬ s.Stranded := by
  have hs : s.Served :=
    exec_invariant (fun _ _ _ hs hstep => step_served hs hstep) (start_served creds) h
  rintro ⟨w, hw, hnot⟩
  rw [hs.delivered hstopped w hw] at hnot
  cases hnot

/-- One call awaits its future before the loop stops, and another is about to look at the flag again
when it does. -/
theorem no_waiter_stranded_two_calls :
    let es : List WaitersEvent := [.call, .advance 0, .advance 0, .advance 0, .call, .advance 1,
      .loop .triggerStore, .loop .check, .advance 1, .loop .finish, .loop .announce]
    ∃ s : Waiters Unit, exec (step RunLoop.sampleLoop)
        (start RunLoop.sampleLoop (some sampleCreds)) es = some s ∧
      s.calls = [.waiting ⟨0⟩, .rechecking ⟨0⟩] ∧ s.loop.pc = .stopped ∧ ¬ s.Stranded := by
  intro es
  have hrun : ∃ s : Waiters Unit, exec (step RunLoop.sampleLoop)
      (start RunLoop.sampleLoop (some sampleCreds)) es = some s ∧
      s.calls = [.waiting ⟨0⟩, .rechecking ⟨0⟩] ∧ s.loop.pc = .stopped := ⟨_, rfl, rfl, rfl⟩
  obtain ⟨s, hs, hcalls, hstopped⟩ := hrun
  exact ⟨s, hs, hcalls, hstopped,
    no_waiter_stranded RunLoop.sampleLoop (some sampleCreds) es s hs hstopped⟩

end Waiters

end ControlPlaneClient
