import ControlPlaneClient.Session.RunLoop

/-!
# The transport and the mTLS material

`connect` returns at once when a transport is cached, and `set_tls` leaves the cached one alone. So
a rotated certificate is used only if something resets the client before the next session. A
failed and a rejected session do, and so does a registration; a session that ends cleanly and a
held slot do not.
-/

namespace ControlPlaneClient

open Transition

/-- The cached transport, if any, was built from the material the client holds. -/
def AgentClient.Fresh (c : AgentClient) : Prop := ∀ t, c.channel = some t → t.material = c.tls

namespace AgentClient

lemma fresh_reset (c : AgentClient) : c.reset.Fresh := nofun

lemma Fresh.setJwt {c : AgentClient} (h : c.Fresh) (jwt : String) : (c.setJwt jwt).Fresh := h

/-- A connect leaves a transport that was built from the current material. -/
lemma Fresh.connect {c c' : AgentClient} {reached : Bool} (h : c.Fresh)
    (hc : c.connect reached = some c') : c'.Fresh := by
  rw [AgentClient.connect] at hc
  split at hc
  · cases hc; exact h
  · split at hc
    · cases hc
      rintro t ⟨⟩
      rfl
    · cases hc

lemma fresh_installCreds {QuotaStatus : Type} (base64 : Base64.Engine) (creds : StoredCreds)
    {r : AgentRunner QuotaStatus} (h : r.client.Fresh) :
    (installCreds base64 creds r).client.Fresh := by
  simp only [installCreds]
  split
  · exact fresh_reset _
  · exact h.setJwt creds.instanceJwt

lemma fresh_boot {QuotaStatus : Type} (cfg : AgentRunnerConfig) :
    (boot cfg : AgentRunner QuotaStatus).client.Fresh := by
  intro t h
  rw [boot] at h
  split at h <;> cases h

end AgentClient

/-- Outside a session: what is cached now is what the next connect will use. -/
def LoopPc.outside : LoopPc → Bool
  | .top | .expiry | .registering _ | .requesting _ | .connecting | .sleeping _ => true
  | _                                                                          => false

def LoopPc.isOpening : LoopPc → Bool
  | .opening _ _ => true
  | _            => false

/-- The session ended in a way after which the transport is kept. -/
def LoopPc.keepsTransport : LoopPc → Bool
  | .ended (.ok ()) | .ended (.error .slotHeld) => true
  | _                                           => false

instance (c : AgentClient) : Decidable c.Fresh :=
  decidable_of_iff (∀ t ∈ c.channel, t.material = c.tls) Iff.rfl

namespace RunLoop

variable {QuotaStatus : Type} (env : LoopEnv)

/-- A session that ends cleanly or because the slot is held leaves the client with the material that
its transport was built from. -/
def MaterialKept (s : RunLoop QuotaStatus) (e : LoopEvent) : Prop :=
  e.isSettle = true → s.pc.keepsTransport = true → s.runner.client.Fresh

instance (s : RunLoop QuotaStatus) (e : LoopEvent) : Decidable (s.MaterialKept e) :=
  inferInstanceAs (Decidable (_ → _ → _))

/-- The transport in use, or the one to be used next, was built from the current material. -/
structure UpToDate (s : RunLoop QuotaStatus) : Prop where
  outside : s.pc.outside = true → s.runner.client.Fresh
  opening : ∀ t jwt, s.pc = .opening t jwt →
    s.runner.client.channel = some t ∧ t.material = s.runner.client.tls

lemma UpToDate.of_fresh {s : RunLoop QuotaStatus} (hf : s.runner.client.Fresh)
    (hp : s.pc.isOpening = false) : s.UpToDate := by
  refine ⟨fun _ => hf, ?_⟩
  intro t jwt h
  rw [h] at hp
  cases hp

lemma UpToDate.of_inside {s : RunLoop QuotaStatus} (ho : s.pc.outside = false)
    (hp : s.pc.isOpening = false) : s.UpToDate := by
  constructor
  · intro h
    rw [ho] at h
    cases h
  · intro t jwt h
    rw [h] at hp
    cases hp

lemma settle_upToDate {s : RunLoop QuotaStatus} {result : SessionResult}
    (hpc : s.pc = .ended result) (hkept : s.MaterialKept .settle) :
    (settle env s result).UpToDate := by
  have hfresh : (LoopPc.ended result).keepsTransport = true → s.runner.client.Fresh :=
    fun h => hkept rfl (hpc ▸ h)
  match result with
  | .ok () => exact .of_fresh (hfresh rfl) rfl
  | .error .rejected => exact .of_fresh (AgentClient.fresh_reset _) rfl
  | .error .slotHeld => exact .of_fresh (hfresh rfl) rfl
  | .error .other => exact .of_fresh (AgentClient.fresh_reset _) rfl

lemma Effect.upToDate {s s' : RunLoop QuotaStatus} {e : LoopEvent} (h : Effect env s e s')
    (hs : s.UpToDate) (hkept : s.MaterialKept e) : s'.UpToDate := by
  have hout : ∀ pc, s.pc = pc → pc.outside = true → s.runner.client.Fresh :=
    fun pc hpc ho => hs.outside (hpc ▸ ho)
  cases h with
  | triggerStore => exact ⟨hs.outside, hs.opening⟩
  | triggerNotify h => exact ⟨hs.outside, hs.opening⟩
  | check hpc =>
    refine .of_fresh (hout _ hpc rfl) ?_
    dsimp only
    split <;> rfl
  | expiry expired hpc =>
    refine .of_fresh (hout _ hpc rfl) ?_
    dsimp only
    split <;> rfl
  | registerConnect reached next client hpc hc =>
    exact .of_fresh ((hout _ hpc rfl).connect hc) rfl
  | registerUnreached reached next hpc hc => exact hs
  | registerFails next hpc => exact .of_fresh (hout _ hpc rfl) rfl
  | registered resp now next hpc =>
    refine .of_fresh (AgentClient.fresh_installCreds env.base64 _ (hout _ hpc rfl)) ?_
    cases next <;> rfl
  | connectFails reached hpc hc => exact .of_inside rfl rfl
  | connectNoToken reached client hpc hc ha => exact .of_inside rfl rfl
  | connect reached client t jwt hpc hc ha =>
    have hchannel := (AgentClient.authedClient_eq_some_iff.mp ha).1
    have hfresh := (hout _ hpc rfl).connect hc
    refine ⟨nofun, ?_⟩
    intro t' jwt' hp
    cases hp
    exact ⟨hchannel, hfresh t hchannel⟩
  | openFails e t jwt hpc => exact .of_inside rfl rfl
  | opened t jwt hpc => exact .of_inside rfl rfl
  | park hpc => exact .of_inside rfl rfl
  | rotation cr stored wait hpc hjwt =>
    exact .of_inside (by rw [hpc]; rfl) (by rw [hpc]; rfl)
  | rotationIgnored cr stored wait hpc hjwt => exact hs
  | inboundEnds result wait hpc => exact .of_inside rfl rfl
  | notified wait hpc hd => exact .of_inside rfl rfl
  | teardown result hpc =>
    apply UpToDate.of_inside
    · dsimp only
      split <;> rfl
    · dsimp only
      split <;> rfl
  | flushed result hpc => exact .of_inside rfl rfl
  | settle result hpc => exact settle_upToDate env hpc hkept
  | wake register hpc =>
    refine .of_fresh (hout _ hpc rfl) ?_
    cases register <;> rfl
  | finish hpc => exact .of_inside rfl rfl
  | announce hpc => exact .of_inside rfl rfl

lemma start_upToDate (creds : Option StoredCreds) :
    (start env creds : RunLoop QuotaStatus).UpToDate := by
  cases creds with
  | some creds =>
    exact .of_fresh (AgentClient.fresh_installCreds env.base64 creds
      (AgentClient.fresh_boot env.cfg)) rfl
  | none =>
    refine .of_fresh (AgentClient.fresh_boot env.cfg) ?_
    simp only [start]
    split <;> rfl

/-- Every Channel is opened over a transport built from the current material, in a run in which no
session that changed the material ends cleanly or because the slot is held. -/
theorem opens_with_current_material (creds : Option StoredCreds) (es : List LoopEvent)
    (s : RunLoop QuotaStatus) (h : exec (step env) (start env creds) es = some s)
    (hmeet : StepsMeet (step env) MaterialKept (start env creds : RunLoop QuotaStatus) es)
    (t : Transport) (jwt : String) (hpc : s.pc = .opening t jwt) :
    s.runner.client.channel = some t ∧ t.material = s.runner.client.tls :=
  (exec_induction (fun _ _ _ hI hC hstep => (step_effect env hstep).upToDate env hI hC)
    (start_upToDate env creds) hmeet h).opening t jwt hpc

/-- A rotation of the sample creds, while the file has them. -/
def sampleRotationEvent : LoopEvent :=
  .rotation (sampleRotation "cert-2" "key-2" []) (some sampleCreds)

/-- The session with the rotation fails, and the next one presents the new certificate. -/
theorem opens_with_current_material_after_error :
    let es : List LoopEvent := [.check, .expiry false, .connect true, .opened, .park,
      sampleRotationEvent, .inboundEnds (.error .other), .teardown, .settle, .wake, .check,
      .expiry false, .connect true]
    ∃ (s : RunLoop Unit) (t : Transport) (jwt : String),
      exec (step sampleLoop) (start sampleLoop (some sampleCreds)) es = some s ∧
      StepsMeet (step sampleLoop) MaterialKept
        (start sampleLoop (some sampleCreds) : RunLoop Unit) es ∧
      s.pc = .opening t jwt ∧ s.runner.client.tls = some ⟨"ca-1", "cert-2", "key-2", none⟩ ∧
      s.runner.client.channel = some t ∧ t.material = s.runner.client.tls := by
  intro es
  have hrun : ∃ (s : RunLoop Unit) (t : Transport) (jwt : String),
      exec (step sampleLoop) (start sampleLoop (some sampleCreds)) es = some s ∧
      s.pc = .opening t jwt ∧ s.runner.client.tls = some ⟨"ca-1", "cert-2", "key-2", none⟩ :=
    ⟨_, _, _, rfl, rfl, rfl⟩
  obtain ⟨s, t, jwt, hs, hpc, htls⟩ := hrun
  have hmeet : StepsMeet (step sampleLoop) MaterialKept
      (start sampleLoop (some sampleCreds) : RunLoop Unit) es := by decide
  exact ⟨s, t, jwt, hs, hmeet, hpc, htls,
    opens_with_current_material sampleLoop (some sampleCreds) es s hs hmeet t jwt hpc⟩

/-- The session with the rotation ends cleanly, and the next one is opened over the transport with
the old certificate. -/
theorem opens_with_old_certificate :
    ∃ (s : RunLoop Unit) (t : Transport) (jwt : String),
      exec (step sampleLoop) (start sampleLoop (some sampleCreds)) [.check, .expiry false,
        .connect true, .opened, .park, sampleRotationEvent, .inboundEnds (.ok ()), .teardown,
        .settle, .check, .expiry false, .connect true] = some s ∧
      s.pc = .opening t jwt ∧ s.runner.client.endpoint = "https://cp.example:7844" ∧
      t.material = some ⟨"ca-1", "cert-1", "key-1", none⟩ ∧
      s.runner.client.tls = some ⟨"ca-1", "cert-2", "key-2", none⟩ ∧
      t.material ≠ s.runner.client.tls :=
  ⟨_, _, _, rfl, rfl, rfl, rfl, rfl, by decide⟩

end RunLoop

end ControlPlaneClient
