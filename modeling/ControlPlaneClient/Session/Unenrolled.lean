import ControlPlaneClient.Session.StateDir

/-!
# Agents that cannot enrol

Without an enrollment token the creds file cannot be replaced, and it is all the agent has. Nothing
leads to a registration then, so the file is touched by rotations only.
-/

namespace ControlPlaneClient

open FileSystem Transition

/-- A registration is going on, or is to follow. -/
def LoopPc.enrols : LoopPc → Bool
  | .registering _ | .requesting _ | .sleeping true => true
  | _ => false

namespace RunLoop

variable {QuotaStatus : Type} {env : LoopEnv}

lemma start_enrols (htoken : env.hasToken = false) (creds : Option StoredCreds) :
    (start env creds : RunLoop QuotaStatus).pc.enrols = false := by
  cases creds with
  | some creds => rfl
  | none =>
    simp only [start, htoken]
    rfl

/-- Without a token nothing leads to a registration. -/
lemma step_enrols {s s' : RunLoop QuotaStatus} {e : LoopEvent} (htoken : env.hasToken = false)
    (hs : s.pc.enrols = false) (h : s.step env e = some s') : s'.pc.enrols = false := by
  cases step_effect env h with
  | triggerStore => exact hs
  | triggerNotify h => exact hs
  | check hpc =>
    dsimp only
    split <;> rfl
  | expiry expired hpc =>
    rw [htoken, Bool.and_false]
    rfl
  | registerConnect reached next client hpc hc =>
    rw [hpc] at hs
    cases hs
  | registerUnreached reached next hpc hc => exact hs
  | registerFails next hpc =>
    rw [hpc] at hs
    cases hs
  | registered resp now next hpc =>
    rw [hpc] at hs
    cases hs
  | connectFails reached hpc hc => rfl
  | connectNoToken reached client hpc hc ha => rfl
  | connect reached client t jwt hpc hc ha => rfl
  | openFails e t jwt hpc => rfl
  | opened t jwt hpc => rfl
  | park hpc => rfl
  | rotation cr stored wait hpc hjwt => exact hs
  | rotationIgnored cr stored wait hpc hjwt => exact hs
  | inboundEnds result wait hpc => rfl
  | notified wait hpc hd => rfl
  | teardown result hpc =>
    dsimp only
    split <;> rfl
  | flushed result hpc => rfl
  | settle result hpc =>
    match result with
    | .ok () => rfl
    | .error .rejected =>
      simp only [settle, htoken]
      rfl
    | .error .slotHeld => rfl
    | .error .other => rfl
  | wake register hpc =>
    cases register with
    | true =>
      rw [hpc] at hs
      cases hs
    | false => rfl
  | finish hpc => rfl
  | announce hpc => rfl

end RunLoop

section Unenrolled

variable {Bundle QuotaStatus : Type} {env : HostEnv Bundle} {process : Option (Process QuotaStatus)}
  {e : HostEvent Bundle QuotaStatus} {x : Prog StateFile (Option (Process QuotaStatus))}

/-- Without a token, a step of the run loop leaves the files alone. -/
lemma loopFiles_of_unenrolled {p : Process QuotaStatus} {e : LoopEvent} {loop : RunLoop QuotaStatus}
    (htoken : env.loop.hasToken = false) (hpc : p.loop.pc.enrols = false)
    (h : p.loop.step env.loop e = some loop) : loopFiles env p.loop.pc e = pure () := by
  unfold loopFiles
  split
  · cases RunLoop.step_effect env.loop h with
    | registered resp now next hreq =>
      rw [hreq] at hpc
      cases hpc
  · split
    · rw [htoken]
      rfl
    · rfl
  · rfl

/-- What becomes of the creds when the process cannot enrol: they stay, or a rotation replaces
them. -/
lemma does_credsMeet {P : StoredCreds → Prop} {creds : StoredCreds} {d : Disk StateFile}
    (htoken : env.loop.hasToken = false)
    (hpc : ∀ p, process = some p → p.loop.pc.enrols = false)
    (hx : Does env process e x) (h : storedCreds env.agent d.files = some creds)
    (hP : P creds)
    (hrotate : ∀ binding cr out, e = .message binding (.credentialRotation cr) out →
      P (creds.rotate env.agent.base64 out.writtenAt cr)) (as : List Answer) :
    CredsMeet env.agent P (runFaulty x as d).2 := by
  have habout := aboutCreds_credsMeet env.agent P
  have hd : CredsMeet env.agent P d := ⟨creds, h, hP⟩
  cases hx with
  | boot =>
    refine maintains_bind (maintains_run_bind maintains_createDirAll fun _ => ?_)
      (fun _ => maintains_pure _) d hd as
    exact maintains_attempt (maintains_readStoredCreds env.agent)
  | preload p fresh htop hfirst =>
    exact maintains_bind (maintains_loadBundle (maintains_nodeSecret_other habout (by decide) _ fresh))
      (fun _ => maintains_pure _) d hd as
  | loop p e loop hloop =>
    rw [loopFiles_of_unenrolled htoken (hpc p rfl) hloop]
    exact hd
  | message p binding msg out wait hparked =>
    refine runFaulty_bind_disk ?_ fun _ => maintains_pure _
    refine handle_credsMeet env.agent binding p.loop.runner as h hP ?_
    intro cr hmsg _
    exact hrotate binding cr out (hmsg ▸ rfl)
  | exit p => exact hd

lemma does_enrols {d : Disk StateFile} {as : List Answer} {p' : Process QuotaStatus}
    (htoken : env.loop.hasToken = false)
    (hpc : ∀ p, process = some p → p.loop.pc.enrols = false)
    (hx : Does env process e x) (h : (runFaulty x as d).1.bind Prod.fst = some p') :
    p'.loop.pc.enrols = false := by
  cases hx with
  | boot =>
    obtain ⟨creds, hcreds⟩ := exists_of_process h
    obtain ⟨creds, -, rfl⟩ := Option.map_eq_some_iff.mp hcreds
    exact RunLoop.start_enrols htoken creds
  | preload p fresh htop hfirst =>
    obtain ⟨bundle, hbundle⟩ := exists_of_process h
    cases hbundle
    rw [Process.preload_pc]
    exact hpc p rfl
  | loop p e loop hloop =>
    obtain ⟨-, hp'⟩ := exists_of_process h
    cases hp'
    exact RunLoop.step_enrols htoken (hpc p rfl) hloop
  | message p binding msg out wait hparked =>
    obtain ⟨result, hresult⟩ := exists_of_process h
    cases hresult
    simp only [Process.received]
    split
    · rfl
    · exact hpc p rfl
  | exit p => cases h

end Unenrolled

/-- The creds of the same instance, with its own token or one that was rotated in. -/
def StoredCreds.Descends (creds₀ : StoredCreds) (rotated : List String) (creds : StoredCreds) : Prop :=
  creds.instanceId = creds₀.instanceId ∧ creds.cpEndpoint = creds₀.cpEndpoint ∧
    creds.caChainPem = creds₀.caChainPem ∧
    (creds.instanceJwt = creds₀.instanceJwt ∨ creds.instanceJwt ∈ rotated)

namespace StateDir

variable {Bundle QuotaStatus : Type} {env : HostEnv Bundle}

/-- No process registers or is about to. -/
def Idle (s : StateDir QuotaStatus) : Prop :=
  ∀ p, s.process = some p → p.loop.pc.enrols = false

lemma step_idle {s s' : StateDir QuotaStatus} {item : HostEvent Bundle QuotaStatus × List Answer}
    (htoken : env.loop.hasToken = false) (hs : s.Idle) (h : s.step env item = some s') :
    s'.Idle := by
  intro p hp
  obtain ⟨x, hx, hprocess, -, -⟩ := step_eq_some h
  rw [hprocess] at hp
  exact does_enrols htoken hs hx hp

/-- The creds are there, and no process is about to replace them. -/
structure Kept (env : HostEnv Bundle) (creds₀ : StoredCreds) (s : StateDir QuotaStatus) : Prop where
  file    : ∃ creds, storedCreds env.agent s.files = some creds ∧ creds₀.Descends s.rotated creds
  process : ∀ p, s.process = some p → p.loop.pc.enrols = false

lemma step_kept {creds₀ : StoredCreds} {s s' : StateDir QuotaStatus}
    {item : HostEvent Bundle QuotaStatus × List Answer} (htoken : env.loop.hasToken = false)
    (hs : s.Kept env creds₀) (h : s.step env item = some s') : s'.Kept env creds₀ := by
  obtain ⟨x, hx, -, hfiles, hrotated⟩ := step_eq_some h
  obtain ⟨creds, hcreds, hid, hendpoint, hca, hjwt⟩ := hs.file
  constructor
  · rw [hfiles, hrotated]
    refine does_credsMeet (d := ⟨s.files, []⟩) htoken hs.process hx hcreds ?_ ?_ item.2
    · exact ⟨hid, hendpoint, hca, hjwt.imp_right (List.mem_append_left _)⟩
    · intro binding cr out he
      refine ⟨?_, ?_, ?_, Or.inr ?_⟩
      · rw [rotate_instanceId, hid]
      · rw [rotate_cpEndpoint, hendpoint]
      · rw [rotate_caChainPem, hca]
      · rw [rotate_instanceJwt, he]
        exact List.mem_append_right _ (List.mem_singleton_self _)
  · exact step_idle htoken hs.process h

variable (env)

/-- Creds that cannot be replaced are never lost. Without a token to enrol with, on a state
directory whose creds file is readable, the file stays readable whatever happens: with the instance,
the endpoint and the CA chain that it had, and with its own token or one that was rotated in. -/
theorem creds_never_lost (creds₀ : StoredCreds) (files : Files StateFile)
    (items : List (HostEvent Bundle QuotaStatus × List Answer)) (s : StateDir QuotaStatus)
    (htoken : ∃ e, extractToken env.enrollmentUrl = .error e)
    (hfile : (eval (readStoredCreds env.agent.creds) files).1 = some creds₀)
    (h : exec (step env) (start files) items = some s) :
    ∃ creds, (eval (readStoredCreds env.agent.creds) s.files).1 = some creds ∧
      creds.instanceId = creds₀.instanceId ∧ creds.cpEndpoint = creds₀.cpEndpoint ∧
      creds.caChainPem = creds₀.caChainPem ∧
      (creds.instanceJwt = creds₀.instanceJwt ∨ creds.instanceJwt ∈ s.rotated) := by
  have hnone : env.loop.hasToken = false := by
    obtain ⟨e, he⟩ := htoken
    simp only [HostEnv.loop, he]
    rfl
  rw [eval_readStoredCreds] at hfile
  have hstart : (start files : StateDir QuotaStatus).Kept env creds₀ := by
    refine ⟨⟨creds₀, hfile, rfl, rfl, rfl, Or.inl rfl⟩, ?_⟩
    intro p hp
    cases hp
  have hkept : s.Kept env creds₀ :=
    exec_invariant (fun _ _ _ hs hstep => step_kept hnone hs hstep) hstart h
  obtain ⟨creds, hcreds, hdescends⟩ := hkept.file
  rw [eval_readStoredCreds]
  exact ⟨creds, hcreds, hdescends⟩

/-- The token is about to expire, the Channel opens all the same, and the process is gone in the
middle of a rotation. -/
def tornRotation : List (HostEvent Bytes Unit × List Answer) :=
  [(.boot, [.ok, .ok]), (.preload (sampleOutside (.ok ())).nodeSecret, [.ok]),
    (.loop .check, []), (.loop (.expiry true), []), (.loop (.connect true), []),
    (.loop .opened, []), (.loop .park, []),
    (.message ⟨"nonce", "uid"⟩
      (.credentialRotation (sampleRotation "cert-2" "key-2" (List.replicate 32 9)))
      (sampleOutside (.ok ())), [.ok, .crash (some 5)])]

lemma exec_tornRotation (codec : Codec StoredCreds Bytes) :
    ∃ s, exec (step (sampleHost codec "")) (start (sampleWorld codec).files) tornRotation = some s ∧
      s.rotated = ["h.p2.s"] := by
  rw [tornRotation, exec, start, step_boot (sampleWorld_storedCreds codec)]
  refine ⟨_, rfl, ?_⟩
  rfl

/-- The creds of the sample node survive that. -/
theorem creds_never_lost_torn_rotation :
    ∃ s, exec (step (sampleHost rotatedCodec "")) (start (sampleWorld rotatedCodec).files)
        tornRotation = some s ∧ s.rotated = ["h.p2.s"] ∧
      ∃ creds, (eval (readStoredCreds rotatedCodec) s.files).1 = some creds ∧
        creds.instanceId = "inst-1" ∧ creds.cpEndpoint = "https://cp.example:7844" ∧
        creds.caChainPem = "ca-1" ∧
        (creds.instanceJwt = "h.p1.s" ∨ creds.instanceJwt ∈ s.rotated) := by
  have htoken : ∃ e, extractToken "" = .error e := ⟨_, rfl⟩
  obtain ⟨s, hs, hrotated⟩ := exec_tornRotation rotatedCodec
  exact ⟨s, hs, hrotated, creds_never_lost (sampleHost rotatedCodec "") sampleCreds _ _ s
    htoken (sampleHost_readStoredCreds rotatedCodec "") hs⟩

end StateDir

end ControlPlaneClient
