import ControlPlaneClient.Session.RunLoop

/-!
# The shutdown request

`trigger` sets `stopping` and then wakes the waiters that exist. `run_loop` reads `stopping` at the
top of its loop and creates its wait only when the Channel is established. A notification in
between finds nobody, and the session waits for one that never comes.
-/

namespace ControlPlaneClient

open Transition

/-- `run_loop` has found `stopping` unset and not yet created its wait. -/
def LoopPc.checked : LoopPc → Bool
  | .expiry | .registering .session | .requesting .session | .connecting | .opening _ _
  | .established => true
  | _            => false

namespace RunLoop

variable {QuotaStatus : Type} (env : LoopEnv)

/-- A shutdown is requested, every `trigger` has returned, and the session waits without a
notification. -/
def Lost (s : RunLoop QuotaStatus) : Prop :=
  s.stopping = true ∧ s.triggering = 0 ∧
    ∃ wait, s.pc = .parked wait ∧ s.shutdown.delivered wait = false

/-- `trigger` does not notify between the check and the wait. -/
def NotInGap (s : RunLoop QuotaStatus) (e : LoopEvent) : Prop :=
  e.isNotify = true → s.pc.checked = false

instance (s : RunLoop QuotaStatus) (e : LoopEvent) : Decidable (s.NotInGap e) :=
  inferInstanceAs (Decidable (_ → _))

/-- The waits of the session are known to the `Notify`, and once all calls of `trigger` have
returned, the loop is not past its check without a notification. -/
structure Signalled (s : RunLoop QuotaStatus) : Prop where
  knows : ∀ wait, s.pc = .parked wait → s.shutdown.Knows wait
  heard : s.stopping = true → s.triggering = 0 → s.pc.checked = false ∧
    ∀ wait, s.pc = .parked wait → s.shutdown.delivered wait = true

/-- What a step of the loop itself does: it enters the stretch between the check and the wait only
by a check that finds `stopping` unset, and parks only from there. -/
structure LoopMove (s s' : RunLoop QuotaStatus) : Prop where
  stopping   : s'.stopping = s.stopping
  triggering : s'.triggering = s.triggering
  shutdown   : s'.shutdown = s.shutdown
  checked    : s'.pc.checked = true → s.pc.checked = true ∨ s.stopping = false
  parked     : ∀ wait, s'.pc = .parked wait →
    s.pc = .parked wait ∨ (s.pc.checked = true ∧ wait = s.shutdown.notified)

/-- A step to a point that is neither between the check and the wait nor the wait itself. -/
lemma LoopMove.away {s s' : RunLoop QuotaStatus} (hs : s'.stopping = s.stopping)
    (ht : s'.triggering = s.triggering) (hn : s'.shutdown = s.shutdown)
    (hc : s'.pc.checked = false) (hp : ∀ wait, s'.pc ≠ .parked wait) : LoopMove s s' :=
  ⟨hs, ht, hn, fun h => by simp [hc] at h, fun wait h => absurd h (hp wait)⟩

/-- A step from one point between the check and the wait to another. -/
lemma LoopMove.on {s s' : RunLoop QuotaStatus} (hs : s'.stopping = s.stopping)
    (ht : s'.triggering = s.triggering) (hn : s'.shutdown = s.shutdown)
    (hc : s.pc.checked = true) (hp : ∀ wait, s'.pc ≠ .parked wait) : LoopMove s s' :=
  ⟨hs, ht, hn, fun _ => .inl hc, fun wait h => absurd h (hp wait)⟩

/-- A step that stays where it is. -/
lemma LoopMove.stay {s s' : RunLoop QuotaStatus} (hs : s'.stopping = s.stopping)
    (ht : s'.triggering = s.triggering) (hn : s'.shutdown = s.shutdown) (hpc : s'.pc = s.pc) :
    LoopMove s s' :=
  ⟨hs, ht, hn, fun h => .inl (hpc ▸ h), fun _ h => .inl (hpc ▸ h)⟩

lemma checked_registering (next : Next) :
    (LoopPc.registering next).checked = (LoopPc.requesting next).checked := by
  cases next <;> rfl

lemma checked_next (next : Next) : next.pc.checked = (LoopPc.requesting next).checked := by
  cases next <;> rfl

lemma next_ne_parked (next : Next) (wait : Notify.Notified) : next.pc ≠ .parked wait := by
  cases next <;> nofun

lemma settle_loopMove (s : RunLoop QuotaStatus) (result : SessionResult) :
    LoopMove s (settle env s result) :=
  settle_induction env s result (.away rfl rfl rfl rfl nofun)
    fun _ _ => .away rfl rfl rfl rfl nofun

lemma Effect.loopMove {s s' : RunLoop QuotaStatus} {e : LoopEvent} (h : Effect env s e s')
    (hstore : e ≠ .triggerStore) (hnotify : e ≠ .triggerNotify) : LoopMove s s' := by
  cases h with
  | triggerStore => exact absurd rfl hstore
  | triggerNotify h => exact absurd rfl hnotify
  | check hpc =>
    refine ⟨rfl, rfl, rfl, fun hc => .inr ?_, fun wait hp => ?_⟩
    · cases hs : s.stopping with
      | false => rfl
      | true => simp [hs, LoopPc.checked] at hc
    · dsimp only at hp
      split at hp <;> cases hp
  | expiry expired hpc =>
    refine .on rfl rfl rfl (by rw [hpc]; rfl) ?_
    intro wait hp
    dsimp only at hp
    split at hp <;> cases hp
  | registerConnect reached next client hpc hc =>
    refine ⟨rfl, rfl, rfl, fun h => .inl ?_, nofun⟩
    rw [hpc, checked_registering]
    exact h
  | registerUnreached reached next hpc hc => exact .stay rfl rfl rfl rfl
  | registerFails next hpc =>
    refine ⟨rfl, rfl, rfl, fun h => .inl ?_, nofun⟩
    rw [hpc, ← checked_registering]
    exact h
  | registered resp now next hpc =>
    refine ⟨rfl, rfl, rfl, fun h => .inl ?_, fun wait hp => absurd hp (next_ne_parked next wait)⟩
    rw [hpc, ← checked_next]
    exact h
  | connectFails reached hpc hc => exact .away rfl rfl rfl rfl nofun
  | connectNoToken reached client hpc hc ha => exact .away rfl rfl rfl rfl nofun
  | connect reached client t jwt hpc hc ha => exact .on rfl rfl rfl (by rw [hpc]; rfl) nofun
  | openFails e t jwt hpc => exact .away rfl rfl rfl rfl nofun
  | opened t jwt hpc => exact .on rfl rfl rfl (by rw [hpc]; rfl) nofun
  | park hpc =>
    refine ⟨rfl, rfl, rfl, nofun, fun wait hp => .inr ⟨by rw [hpc]; rfl, ?_⟩⟩
    cases hp
    rfl
  | rotation cr stored wait hpc hjwt => exact .stay rfl rfl rfl rfl
  | rotationIgnored cr stored wait hpc hjwt => exact .stay rfl rfl rfl rfl
  | inboundEnds result wait hpc => exact .away rfl rfl rfl rfl nofun
  | notified wait hpc hd => exact .away rfl rfl rfl rfl nofun
  | teardown result hpc =>
    refine ⟨rfl, rfl, rfl, ?_, ?_⟩
    · intro hc
      dsimp only at hc
      split at hc <;> cases hc
    · intro wait hp
      dsimp only at hp
      split at hp <;> cases hp
  | flushed result hpc => exact .away rfl rfl rfl rfl nofun
  | settle result hpc => exact settle_loopMove env s result
  | wake register hpc =>
    refine .away rfl rfl rfl ?_ ?_
    · cases register <;> rfl
    · intro wait hp
      cases register <;> cases hp
  | finish hpc => exact .away rfl rfl rfl rfl nofun
  | announce hpc => exact .away rfl rfl rfl rfl nofun

/-- The steps that meet the condition keep the invariant. -/
lemma step_signalled {s s' : RunLoop QuotaStatus} {e : LoopEvent} (hs : s.Signalled)
    (he : s.NotInGap e) (h : s.step env e = some s') : s'.Signalled := by
  have heffect := step_effect env h
  by_cases hstore : e = .triggerStore
  · subst hstore
    cases heffect with
    | triggerStore => exact ⟨hs.knows, fun _ h0 => absurd h0 (Nat.succ_ne_zero _)⟩
  by_cases hnotify : e = .triggerNotify
  · subst hnotify
    cases heffect with
    | triggerNotify hpos =>
      exact ⟨fun wait hp => (hs.knows wait hp).notifyWaiters,
        fun _ _ => ⟨he rfl, fun wait hp => (hs.knows wait hp).delivered_notifyWaiters⟩⟩
  have hmove := heffect.loopMove env hstore hnotify
  constructor
  · intro wait hp
    rw [hmove.shutdown]
    rcases hmove.parked wait hp with hp | ⟨-, rfl⟩
    · exact hs.knows wait hp
    · exact s.shutdown.knows_notified
  · intro hstop htrig
    rw [hmove.stopping] at hstop
    rw [hmove.triggering] at htrig
    obtain ⟨hunchecked, hdelivered⟩ := hs.heard hstop htrig
    refine ⟨Bool.eq_false_iff.mpr fun hc => ?_, fun wait hp => ?_⟩
    · rcases hmove.checked hc with hc | hc
      · simp [hunchecked] at hc
      · simp [hstop] at hc
    · rw [hmove.shutdown]
      rcases hmove.parked wait hp with hp | ⟨hc, -⟩
      · exact hdelivered wait hp
      · simp [hunchecked] at hc

lemma start_signalled (creds : Option StoredCreds) :
    (start env creds : RunLoop QuotaStatus).Signalled := by
  refine ⟨?_, nofun⟩
  intro wait hp
  simp only [start] at hp
  split at hp
  · cases hp
  · split at hp <;> cases hp

/-- No shutdown request is lost in a run in which no `trigger` notifies between the check of
`stopping` and the creation of the wait. -/
theorem no_lost_shutdown (creds : Option StoredCreds) (es : List LoopEvent)
    (s : RunLoop QuotaStatus) (h : exec (step env) (start env creds) es = some s)
    (hmeet : StepsMeet (step env) NotInGap (start env creds : RunLoop QuotaStatus) es) :
    ¬ s.Lost := by
  have hs : s.Signalled := exec_induction (fun _ _ _ hI hC hstep => step_signalled env hI hC hstep)
    (start_signalled env creds) hmeet h
  rintro ⟨hstop, htrig, wait, hp, hd⟩
  rw [(hs.heard hstop htrig).2 wait hp] at hd
  cases hd

/-- A shutdown requested during the session wakes it. -/
theorem no_lost_shutdown_in_session :
    let es : List LoopEvent := [.check, .expiry false, .connect true, .opened, .park,
      .triggerStore, .triggerNotify]
    ∃ s : RunLoop Unit, exec (step sampleLoop) (start sampleLoop (some sampleCreds)) es = some s ∧
      StepsMeet (step sampleLoop) NotInGap (start sampleLoop (some sampleCreds) : RunLoop Unit)
        es ∧
      s.stopping = true ∧ ¬ s.Lost := by
  intro es
  have hrun : ∃ s : RunLoop Unit,
      exec (step sampleLoop) (start sampleLoop (some sampleCreds)) es = some s ∧
        s.stopping = true := ⟨_, rfl, rfl⟩
  obtain ⟨s, hs, hstop⟩ := hrun
  have hmeet : StepsMeet (step sampleLoop) NotInGap
      (start sampleLoop (some sampleCreds) : RunLoop Unit) es := by decide
  exact ⟨s, hs, hmeet, hstop, no_lost_shutdown sampleLoop (some sampleCreds) es s hs hmeet⟩

/-- A shutdown requested while the Channel is being opened is lost. -/
theorem shutdown_lost_while_opening :
    ∃ s : RunLoop Unit, exec (step sampleLoop) (start sampleLoop (some sampleCreds))
        [.check, .expiry false, .connect true, .triggerStore, .triggerNotify, .opened, .park] =
          some s ∧
      s.Lost :=
  ⟨_, rfl, rfl, rfl, _, rfl, rfl⟩

end RunLoop

end ControlPlaneClient
