import ControlPlaneClient.Agent.Reinstall
import ControlPlaneClient.Session.RunLoop

/-!
# Winding down

What `run_loop` still does once `stopping` is set. It finishes the session that it is in or on the way
to, and no other one begins: the loop reads `stopping` before each session. Only the control plane can
hold it up, by not answering a registration, and a parked session by not ending.
-/

namespace ControlPlaneClient

open Transition

/-- The steps of `run_loop` itself. Of a registration only the answer counts: it may connect and fail any
number of times before, and the connect that leads to the answer is not counted either. Nor are the
rotations that a session handles. -/
@[simp] def LoopEvent.isOwn : LoopEvent → Bool
  | .triggerStore | .triggerNotify | .registerConnect _ | .registerFails | .rotation _ _ => false
  | _ => true

@[simp] def LoopEvent.opensChannel : LoopEvent → Bool
  | .opened => true
  | _       => false

@[simp] def LoopEvent.registers : LoopEvent → Bool
  | .registered _ _ => true
  | _               => false

/-- A call of `trigger` makes the step. -/
def LoopEvent.isTrigger : LoopEvent → Bool
  | .triggerStore | .triggerNotify => true
  | _                              => false

namespace LoopPc

/-- The own steps that are left once `stopping` is set. -/
@[simp] def stepsLeft : LoopPc → ℕ
  | .stopped | .failed                             => 0
  | .announcing                                    => 1
  | .finishing                                     => 2
  | .top                                           => 3
  | .registering .top | .requesting .top           => 4
  | .sleeping register                             => if register then 5 else 4
  | .ended _                                       => 6
  | .flushing _                                    => 7
  | .tearingDown _                                 => 8
  | .parked _                                      => 9
  | .established                                   => 10
  | .opening _ _                                   => 11
  | .connecting                                    => 12
  | .registering .session | .requesting .session   => 13
  | .expiry                                        => 14

/-- The Channels that are still opened. -/
@[simp] def opensLeft : LoopPc → ℕ
  | .expiry | .registering .session | .requesting .session | .connecting | .opening _ _ => 1
  | _ => 0

/-- The registrations that are still answered. -/
@[simp] def registersLeft : LoopPc → ℕ
  | .expiry | .registering .session | .requesting .session => 2
  | .registering .top | .requesting .top | .connecting | .opening _ _ | .established | .parked _
  | .tearingDown _ | .flushing _ | .ended _ | .sleeping true => 1
  | _ => 0

end LoopPc

namespace RunLoop

variable {QuotaStatus : Type} {env : LoopEnv}

/-- `stopping` is never taken back. -/
lemma Effect.stopping {s s' : RunLoop QuotaStatus} {e : LoopEvent} (h : Effect env s e s')
    (hs : s.stopping = true) : s'.stopping = true := by
  cases h with
  | triggerStore => rfl
  | settle result hpc => exact settle_induction env s result hs fun _ _ => hs
  | _ => exact hs

/-- What a step takes from what is left. -/
structure Spends (pc pc' : LoopPc) (e : LoopEvent) : Prop where
  steps     : pc'.stepsLeft + e.isOwn.toNat ≤ pc.stepsLeft
  opens     : pc'.opensLeft + e.opensChannel.toNat ≤ pc.opensLeft
  registers : pc'.registersLeft + e.registers.toNat ≤ pc.registersLeft

lemma settle_spends (s : RunLoop QuotaStatus) (result : SessionResult) :
    Spends (.ended result) (settle env s result).pc .settle := by
  match result with
  | .ok () => constructor <;> simp [settle]
  | .error .rejected => constructor <;> cases henv : env.hasToken <;> simp [settle, henv]
  | .error .slotHeld => constructor <;> simp [settle]
  | .error .other => constructor <;> simp [settle]

lemma Effect.spends {s s' : RunLoop QuotaStatus} {e : LoopEvent} (h : Effect env s e s')
    (hs : s.stopping = true) : Spends s.pc s'.pc e := by
  cases h with
  | triggerStore => constructor <;> simp
  | triggerNotify h => constructor <;> simp
  | check hpc =>
    -- The only step that looks at `stopping` before a session.
    rw [hpc, hs]
    constructor <;> simp
  | expiry expired hpc =>
    rw [hpc]
    dsimp only
    split <;> constructor <;> simp
  | registerConnect reached next client hpc hc =>
    rw [hpc]
    cases next <;> constructor <;> simp
  | registerUnreached reached next hpc hc => constructor <;> simp
  | registerFails next hpc =>
    rw [hpc]
    cases next <;> constructor <;> simp
  | registered resp now next hpc =>
    rw [hpc]
    cases next <;> constructor <;> simp [Next.pc]
  | connectFails reached hpc hc =>
    rw [hpc]
    constructor <;> simp
  | connectNoToken reached client hpc hc ha =>
    rw [hpc]
    constructor <;> simp
  | connect reached client t jwt hpc hc ha =>
    rw [hpc]
    constructor <;> simp
  | openFails e t jwt hpc =>
    rw [hpc]
    constructor <;> simp
  | opened t jwt hpc =>
    rw [hpc]
    constructor <;> simp
  | park hpc =>
    rw [hpc]
    constructor <;> simp
  | rotation cr stored wait hpc hjwt => constructor <;> simp
  | rotationIgnored cr stored wait hpc hjwt => constructor <;> simp
  | inboundEnds result wait hpc =>
    rw [hpc]
    constructor <;> simp
  | notified wait hpc hd =>
    rw [hpc]
    constructor <;> simp
  | teardown result hpc =>
    rw [hpc]
    dsimp only
    split <;> constructor <;> simp
  | flushed result hpc =>
    rw [hpc]
    constructor <;> simp
  | settle result hpc =>
    rw [hpc]
    exact settle_spends s result
  | wake register hpc =>
    rw [hpc]
    cases register <;> constructor <;> simp
  | finish hpc =>
    rw [hpc]
    constructor <;> simp
  | announce hpc =>
    rw [hpc]
    constructor <;> simp

/-- The loop has come to its end, or there is something that can happen to it. -/
lemma exists_step (s : RunLoop QuotaStatus) (hstopped : s.pc ≠ .stopped) (hfailed : s.pc ≠ .failed) :
    ∃ e, e.isTrigger = false ∧ (s.step env e).isSome = true := by
  cases hpc : s.pc with
  | top => exact ⟨.check, rfl, by simp [step, hpc]⟩
  | expiry => exact ⟨.expiry false, rfl, by simp [step, hpc]⟩
  | registering next =>
    refine ⟨.registerConnect true, rfl, ?_⟩
    simp only [step, hpc]
    split <;> rfl
  | requesting next => exact ⟨.registerFails, rfl, by simp [step, hpc]⟩
  | connecting =>
    refine ⟨.connect true, rfl, ?_⟩
    simp only [step, hpc]
    split
    · rfl
    · split <;> rfl
  | opening transport jwt => exact ⟨.opened, rfl, by simp [step, hpc]⟩
  | established => exact ⟨.park, rfl, by simp [step, hpc]⟩
  | parked wait => exact ⟨.inboundEnds (.ok ()), rfl, by simp [step, hpc]⟩
  | tearingDown result => exact ⟨.teardown, rfl, by simp [step, hpc]⟩
  | flushing result => exact ⟨.flushed, rfl, by simp [step, hpc]⟩
  | ended result => exact ⟨.settle, rfl, by simp [step, hpc]⟩
  | sleeping register => exact ⟨.wake, rfl, by simp [step, hpc]⟩
  | finishing => exact ⟨.finish, rfl, by simp [step, hpc]⟩
  | announcing => exact ⟨.announce, rfl, by simp [step, hpc]⟩
  | stopped => exact absurd hpc hstopped
  | failed => exact absurd hpc hfailed

/-- What is left bounds what is still done. -/
lemma exec_left {s t : RunLoop QuotaStatus} {es : List LoopEvent} (hs : s.stopping = true)
    (h : exec (step env) s es = some t) :
    t.pc.stepsLeft + es.countP LoopEvent.isOwn ≤ s.pc.stepsLeft ∧
    t.pc.opensLeft + es.countP LoopEvent.opensChannel ≤ s.pc.opensLeft ∧
    t.pc.registersLeft + es.countP LoopEvent.registers ≤ s.pc.registersLeft := by
  have hstep : ∀ (s : RunLoop QuotaStatus) e s', s.stopping = true → s.step env e = some s' →
      s'.stopping = true ∧ Spends s.pc s'.pc e := by
    intro s e s' hs hstep
    have heff := step_effect env hstep
    exact ⟨heff.stopping hs, heff.spends hs⟩
  refine ⟨?_, ?_, ?_⟩
  · refine exec_countP_le (fun s => s.stopping = true) (fun s => s.pc.stepsLeft) _ ?_ hs h
    exact fun s e s' hs h => ⟨(hstep s e s' hs h).1, (hstep s e s' hs h).2.steps⟩
  · refine exec_countP_le (fun s => s.stopping = true) (fun s => s.pc.opensLeft) _ ?_ hs h
    exact fun s e s' hs h => ⟨(hstep s e s' hs h).1, (hstep s e s' hs h).2.opens⟩
  · refine exec_countP_le (fun s => s.stopping = true) (fun s => s.pc.registersLeft) _ ?_ hs h
    exact fun s e s' hs h => ⟨(hstep s e s' hs h).1, (hstep s e s' hs h).2.registers⟩

lemma stepsLeft_le (pc : LoopPc) : pc.stepsLeft ≤ 14 := by
  cases pc with
  | registering next => cases next <;> simp
  | requesting next => cases next <;> simp
  | sleeping register => cases register <;> simp
  | _ => simp

lemma opensLeft_le (pc : LoopPc) : pc.opensLeft ≤ 1 := by
  cases pc with
  | registering next => cases next <;> simp
  | requesting next => cases next <;> simp
  | _ => simp

lemma registersLeft_le (pc : LoopPc) : pc.registersLeft ≤ 2 := by
  cases pc with
  | registering next => cases next <;> simp
  | requesting next => cases next <;> simp
  | sleeping register => cases register <;> simp
  | _ => simp

variable (env)

/-- Once `stopping` is set, wherever the loop is, it opens one more Channel at most and takes at most
two answers to a registration. Not counting the rotations and what a registration takes besides its
answer, which is its connects and its failures, it makes no more than fourteen steps, and until it has
come to its end there is a step that it can make. -/
theorem winds_down (s t : RunLoop QuotaStatus) (hs : s.stopping = true) (es : List LoopEvent)
    (h : exec (step env) s es = some t) :
    es.countP LoopEvent.opensChannel ≤ 1 ∧ es.countP LoopEvent.registers ≤ 2 ∧
    es.countP LoopEvent.isOwn ≤ 14 ∧
    (t.pc = .stopped ∨ t.pc = .failed ∨ ∃ e, e.isTrigger = false ∧ (t.step env e).isSome = true) := by
  obtain ⟨hsteps, hopens, hregisters⟩ := exec_left hs h
  refine ⟨?_, ?_, ?_, ?_⟩
  · exact (Nat.le_of_add_left_le hopens).trans (opensLeft_le s.pc)
  · exact (Nat.le_of_add_left_le hregisters).trans (registersLeft_le s.pc)
  · exact (Nat.le_of_add_left_le hsteps).trans (stepsLeft_le s.pc)
  · by_cases hstopped : t.pc = .stopped
    · exact Or.inl hstopped
    · by_cases hfailed : t.pc = .failed
      · exact Or.inr (Or.inl hfailed)
      · exact Or.inr (Or.inr (exists_step t hstopped hfailed))

/-- The events after a shutdown that is asked for when the loop is about to look at the token: the
agent still enrols, its Channel is opened, its new token is rejected, and it enrols again. -/
def rejectedOnceMore : List LoopEvent :=
  [.expiry true, .registerConnect true, .registered keylessResponse 0, .connect true, .opened, .park,
    .inboundEnds (.error .rejected), .teardown, .flushed, .settle, .wake, .registerConnect true,
    .registered keylessResponse 0, .check, .finish, .announce]

/-- There the bounds are reached. Two of the sixteen steps are the connects of the registrations. -/
theorem winds_down_rejected :
    ∃ s t : RunLoop Unit,
      exec (step sampleLoop) (start sampleLoop (some sampleCreds)) [.check, .triggerStore] = some s ∧
      exec (step sampleLoop) s rejectedOnceMore = some t ∧
      rejectedOnceMore.countP LoopEvent.opensChannel = 1 ∧
      rejectedOnceMore.countP LoopEvent.registers = 2 ∧
      rejectedOnceMore.countP LoopEvent.isOwn = 14 ∧
      (t.pc = .stopped ∨ t.pc = .failed ∨
        ∃ e, e.isTrigger = false ∧ (t.step sampleLoop e).isSome = true) := by
  have hrun : (exec (step sampleLoop) (start sampleLoop (some sampleCreds) : RunLoop Unit)
      ([.check, .triggerStore] ++ rejectedOnceMore)).isSome = true := by
    decide +kernel
  obtain ⟨t, ht⟩ := Option.isSome_iff_exists.mp hrun
  obtain ⟨s, hs, hstopping⟩ : ∃ s, exec (step sampleLoop)
      (start sampleLoop (some sampleCreds) : RunLoop Unit) [.check, .triggerStore] = some s ∧
      s.stopping = true := ⟨_, rfl, rfl⟩
  rw [exec_append_of_some hs] at ht
  obtain ⟨-, -, -, hgoes⟩ := winds_down sampleLoop s t hstopping rejectedOnceMore ht
  exact ⟨s, t, hs, ht, by decide, by decide, by decide, hgoes⟩

end RunLoop

end ControlPlaneClient
