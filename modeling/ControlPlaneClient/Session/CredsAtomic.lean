import ControlPlaneClient.Session.StateDir

/-!
# Replacing the creds file

Two operations put new creds into the creds file. A rotation writes them to a temporary file and
renames it. A registration writes them over the creds that are there, which are still good when the
token is merely about to expire, and a process that is gone in the middle of that has no creds at all.
-/

namespace ControlPlaneClient

open FileSystem Transition

variable {Bundle QuotaStatus : Type}

/-- The creds that an event puts in the place of the old ones. -/
def HostEvent.writes (env : HostEnv Bundle) (old : StoredCreds) :
    HostEvent Bundle QuotaStatus → Option StoredCreds
  | .loop (.registered resp now) => some (resp.toCreds env.agent.base64 now)
  | .message _ (.credentialRotation cr) out =>
    if cr.instanceJwt ≠ "" then some (old.rotate env.agent.base64 out.writtenAt cr) else none
  | _ => none

namespace StateDir

variable (env : HostEnv Bundle)

/-- What `read_stored_creds` finds. -/
def readBack (s : StateDir QuotaStatus) : Option StoredCreds :=
  (eval (readStoredCreds env.agent.creds) s.files).1

/-- If the process is gone in the middle of writing new creds over old ones, either the old ones or
the new ones are left. -/
def CrashAtomic (s : StateDir QuotaStatus) (item : HostEvent Bundle QuotaStatus × List Answer) :
    Prop :=
  ∀ s' old new, s.step env item = some s' → s'.process = none → s.readBack env = some old →
    item.1.writes env old = some new →
    s'.readBack env = some old ∨ s'.readBack env = some new

/-- A registration is cut short while it overwrites creds that can be read. -/
def Overwritten (s : StateDir QuotaStatus) (item : HostEvent Bundle QuotaStatus × List Answer) :
    Prop :=
  (s.readBack env).isSome = true ∧
    match item.1 with
    | .loop (.registered resp now) =>
      CutShort (env.agent.creds.encode (resp.toCreds env.agent.base64 now)).length item.2
    | _ => False

variable {env}

lemma readBack_eq (s : StateDir QuotaStatus) : s.readBack env = storedCreds env.agent s.files := by
  rw [readBack, eval_readStoredCreds]

lemma credsMeet_pair {old new : StoredCreds} {d : Disk StateFile} :
    CredsMeet env.agent (fun c => c = old ∨ c = new) d ↔
      storedCreds env.agent d.files = some old ∨ storedCreds env.agent d.files = some new := by
  constructor
  · rintro ⟨c, hc, rfl | rfl⟩
    · exact Or.inl hc
    · exact Or.inr hc
  · rintro (h | h)
    · exact ⟨old, h, Or.inl rfl⟩
    · exact ⟨new, h, Or.inr rfl⟩

/-- What a registration leaves is what its write leaves, and the process is gone with it. -/
lemma step_registered {s s' : StateDir QuotaStatus} {resp : RegisterResponse} {now : DateTime}
    {faults : List Answer} (h : s.step env (.loop (.registered resp now), faults) = some s') :
    let out := runFaulty (storeFreshCreds env.agent.creds
      (resp.toCreds env.agent.base64 now)).run faults ⟨s.files, []⟩
    s'.files = out.2.files ∧ (s'.process = none ↔ out.1 = none) := by
  obtain ⟨x, hx, hprocess, hfiles, -⟩ := step_eq_some h
  generalize s.process = process at hx
  cases hx with
  | loop p e loop hloop =>
    rw [runFaulty_bind_pure] at hprocess hfiles
    refine ⟨hfiles, ?_⟩
    rw [hprocess, loopFiles]
    generalize (runFaulty (storeFreshCreds env.agent.creds _).run faults ⟨s.files, []⟩).1 = result
    cases result with
    | none => exact ⟨fun _ => rfl, fun _ => rfl⟩
    | some r => exact ⟨nofun, nofun⟩

/-- A registration replaces the creds at once exactly when it is not cut short. -/
lemma registered_crashAtomic_iff {s s' : StateDir QuotaStatus} {resp : RegisterResponse}
    {now : DateTime} {faults : List Answer}
    (hjson : ∀ creds, ∀ n < (env.agent.creds.encode creds).length,
      env.agent.creds.decode ((env.agent.creds.encode creds).take n) = none)
    (h : s.step env (.loop (.registered resp now), faults) = some s') :
    CrashAtomic env s (.loop (.registered resp now), faults) ↔
      ¬ Overwritten env s (.loop (.registered resp now), faults) := by
  obtain ⟨hfiles, hprocess⟩ := step_registered h
  constructor
  · rintro hatomic ⟨hsome, hcut⟩
    obtain ⟨old, hold⟩ := Option.isSome_iff_exists.mp hsome
    have hcreds : storedCreds env.agent s.files = some old := by rw [← readBack_eq, hold]
    refine (storeFreshCreds_credsMeet_iff env.agent (d := ⟨s.files, []⟩) faults hcreds
      (hjson _)).mp ?_ hcut
    intro hgone
    have hleft := hatomic s' old _ h (hprocess.mpr hgone) hold rfl
    rw [readBack_eq, hfiles] at hleft
    exact credsMeet_pair.mpr hleft
  · intro hnot s'' old new h' hgone hold hnew
    rw [h] at h'
    cases h'
    cases hnew
    have hcreds : storedCreds env.agent s.files = some old := by rw [← readBack_eq, hold]
    have hcut : ¬ CutShort _ faults := fun hcut => hnot ⟨Option.isSome_of_eq_some hold, hcut⟩
    rw [readBack_eq, hfiles]
    exact credsMeet_pair.mp ((storeFreshCreds_credsMeet_iff env.agent (d := ⟨s.files, []⟩) faults
      hcreds (hjson _)).mpr hcut (hprocess.mp hgone))

/-- A rotation replaces the creds at once. -/
lemma rotation_crashAtomic (s : StateDir QuotaStatus) (binding : ChannelBinding)
    (cr : CredentialRotation) (out : Outside) (faults : List Answer) :
    CrashAtomic env s (.message binding (.credentialRotation cr) out, faults) := by
  intro s' old new h _ hold hnew
  have hcreds : storedCreds env.agent s.files = some old := by rw [← readBack_eq, hold]
  obtain ⟨x, hx, -, hfiles, -⟩ := step_eq_some h
  rw [readBack_eq, hfiles]
  apply credsMeet_pair.mp
  generalize s.process = process at hx
  cases hx with
  | message p binding msg out wait hparked =>
    refine runFaulty_bind_disk ?_ fun _ => maintains_pure _
    refine handle_credsMeet env.agent binding p.loop.runner faults hcreds (Or.inl rfl) ?_
    intro cr' hmsg hjwt
    cases hmsg
    simp only [HostEvent.writes, if_pos hjwt, Option.some.injEq] at hnew
    exact Or.inr hnew

lemma step_crashAtomic_iff {s s' : StateDir QuotaStatus}
    {item : HostEvent Bundle QuotaStatus × List Answer}
    (hjson : ∀ creds, ∀ n < (env.agent.creds.encode creds).length,
      env.agent.creds.decode ((env.agent.creds.encode creds).take n) = none)
    (h : s.step env item = some s') : CrashAtomic env s item ↔ ¬ Overwritten env s item := by
  obtain ⟨e, faults⟩ := item
  have hother : (∀ old, e.writes env old = none) → CrashAtomic env s (e, faults) := by
    intro hnone s' old new _ _ _ hnew
    rw [hnone] at hnew
    cases hnew
  cases e with
  | loop e =>
    cases e with
    | registered resp now => exact registered_crashAtomic_iff hjson h
    | _ => exact ⟨fun _ hover => hover.2, fun _ => hother fun _ => rfl⟩
  | message binding msg out =>
    cases msg with
    | credentialRotation cr =>
      exact ⟨fun _ hover => hover.2, fun _ => rotation_crashAtomic s binding cr out faults⟩
    | _ => exact ⟨fun _ hover => hover.2, fun _ => hother fun _ => rfl⟩
  | _ => exact ⟨fun _ hover => hover.2, fun _ => hother fun _ => rfl⟩

variable (env)

/-- In every run, a crash in an operation that writes the creds file leaves the old creds or the new
ones, exactly when no registration is cut short while it overwrites readable creds. `hjson` says that
nothing is read from a part of a JSON text. -/
theorem crash_atomic_iff (files : Files StateFile)
    (items : List (HostEvent Bundle QuotaStatus × List Answer)) (s : StateDir QuotaStatus)
    (hjson : ∀ creds, ∀ n < (env.agent.creds.encode creds).length,
      env.agent.creds.decode ((env.agent.creds.encode creds).take n) = none)
    (h : exec (step env) (start files) items = some s) :
    StepsMeet (step env) (CrashAtomic env) (start files) items ↔
      StepsMeet (step env) (fun s item => ¬ Overwritten env s item) (start files) items :=
  stepsMeet_congr (I := fun _ => True) (fun _ _ _ _ _ => trivial)
    (fun _ _ _ _ hstep => step_crashAtomic_iff hjson hstep) trivial h

/-! ### A registration before the token expires -/

def reissuedCreds : StoredCreds := { sampleCreds with instanceJwt := "h.p2.s" }

/-- The control plane's answer with those creds. -/
def sampleResponse : RegisterResponse where
  instanceId := "inst-1"
  instanceJwt := "h.p2.s"
  cpEndpoint := "https://cp.example:7844"
  clientCertPem := "cert-1"
  clientKeyPem := "key-1"
  caChainPem := "ca-1"
  payloadDek := List.replicate 32 7
  payloadDekVersion := 1

lemma sampleResponse_toCreds : sampleResponse.toCreds Base64.standard 0 = reissuedCreds := by
  decide +kernel

lemma epochCredsJson_eq_cons (c : StoredCreds) :
    epochCredsJson c = 123 :: utf8Bytes (epochCredsFields c) := by
  have hbrace : utf8Bytes "\x7b" = [123] := by decide
  rw [epochCredsJson, utf8Bytes_append, hbrace, List.singleton_append]

lemma terminated_decode_epochCredsJson (c : StoredCreds) :
    (Codec.terminated : Codec StoredCreds Bytes).decode (epochCredsJson c) = none := by
  rw [epochCredsJson_eq_cons]
  exact Codec.terminated_decode_eq_none (by decide) (by decide)

lemma epochCredsJson_reissued_inj : ∀ a ∈ [sampleCreds, reissuedCreds],
    ∀ b ∈ [sampleCreds, reissuedCreds], epochCredsJson a = epochCredsJson b → a = b := by
  have hne : epochCredsJson sampleCreds ≠ epochCredsJson reissuedCreds := by decide +kernel
  simp [hne, hne.symm]

/-- serde's JSON on the sample creds and on the reissued ones. -/
def reissuedCodec : Codec StoredCreds Bytes :=
  Codec.terminated.override epochCredsJson [sampleCreds, reissuedCreds] epochCredsJson_reissued_inj
    fun a _ => terminated_decode_epochCredsJson a

lemma reissuedCodec_encode {c : StoredCreds} (h : c ∈ [sampleCreds, reissuedCreds]) :
    reissuedCodec.encode c = epochCredsJson c := if_pos h

lemma length_epochCredsJson_of_mem {a b : StoredCreds} (ha : a ∈ [sampleCreds, reissuedCreds])
    (hb : b ∈ [sampleCreds, reissuedCreds]) :
    (epochCredsJson a).length = (epochCredsJson b).length := by
  have hsame : (epochCredsJson sampleCreds).length = (epochCredsJson reissuedCreds).length := by
    decide +kernel
  simp only [List.mem_cons, List.not_mem_nil, or_false] at ha hb
  rcases ha with rfl | rfl <;> rcases hb with rfl | rfl
  · rfl
  · exact hsame
  · exact hsame.symm
  · rfl

/-- Nothing is read from a part of an encoding. -/
lemma reissuedCodec_take (creds : StoredCreds) (n : ℕ) (h : n < (reissuedCodec.encode creds).length) :
    reissuedCodec.decode ((reissuedCodec.encode creds).take n) = none := by
  by_cases hmem : creds ∈ [sampleCreds, reissuedCreds]
  · rw [reissuedCodec_encode hmem] at h ⊢
    refine Codec.override_decode_eq_none epochCredsJson_reissued_inj _ ?_ ?_
    · intro a ha heq
      have hlen := congrArg List.length heq
      rw [List.length_take, length_epochCredsJson_of_mem ha hmem] at hlen
      omega
    · rw [epochCredsJson_eq_cons]
      cases n with
      | zero => exact Codec.terminated_decode_replicate 0
      | succ n => exact Codec.terminated_decode_eq_none (by decide) (by decide)
  · have hencode : reissuedCodec.encode creds = Codec.terminated.encode creds := if_neg hmem
    rw [hencode] at h ⊢
    rw [Codec.terminated_take creds h]
    refine Codec.override_decode_eq_none epochCredsJson_reissued_inj _ ?_ (Codec.terminated_decode_replicate n)
    intro a _ heq
    rw [epochCredsJson_eq_cons] at heq
    have hzero := List.eq_of_mem_replicate (heq ▸ List.mem_cons_self ..)
    cases hzero

/-- The token is about to expire, and the control plane is asked for a new one. -/
def reenrolling : List (HostEvent Bytes Unit × List Answer) :=
  [(.boot, [.ok, .ok]), (.preload (sampleOutside (.ok ())).nodeSecret, [.ok]),
    (.loop .check, []), (.loop (.expiry true), []), (.loop (.registerConnect true), [])]

lemma exec_reenrolling (codec : Codec StoredCreds Bytes) (url : String)
    (htoken : (extractToken url).isOk = true) :
    ∃ s p, exec (step (sampleHost codec url)) (start (sampleWorld codec).files) reenrolling =
        some s ∧ s.process = some p ∧ p.loop.pc = .requesting .session ∧
      s.files = (sampleWorld codec).files := by
  rw [reenrolling, exec, start, step_boot (sampleWorld_storedCreds codec)]
  simp only [exec, step, program, Process.loopStep, sampleHost_loop codec htoken]
  refine ⟨_, _, rfl, rfl, ?_⟩
  exact ⟨rfl, rfl⟩

/-- The answer comes, with what happens to the file operations then. -/
def reenrolled (faults : List Answer) : HostEvent Bytes Unit × List Answer :=
  (.loop (.registered sampleResponse 0), faults)

lemma step_reenrolled (codec : Codec StoredCreds Bytes) (url : String) {s : StateDir Unit}
    {p : Process Unit} (hp : s.process = some p) (hpc : p.loop.pc = .requesting .session)
    (faults : List Answer) : ∃ s', s.step (sampleHost codec url) (reenrolled faults) = some s' := by
  simp only [step, hp, reenrolled, program, Process.loopStep, RunLoop.step, hpc, Option.map_some]
  exact ⟨_, rfl⟩

def sampleUrl : String := "https://cp.example/enroll/v1#token=ENROL-1"

/-- The process is gone once the new creds are written. -/
theorem crash_atomic_iff_written :
    let step' := step (sampleHost reissuedCodec sampleUrl)
    let items := reenrolling ++ [reenrolled [.ok, .crash none]]
    ∃ s, exec step' (start (sampleWorld reissuedCodec).files) items = some s ∧
      StepsMeet step' (fun s item => ¬ Overwritten (sampleHost reissuedCodec sampleUrl) s item)
        (start (sampleWorld reissuedCodec).files) items ∧
      StepsMeet step' (CrashAtomic (sampleHost reissuedCodec sampleUrl))
        (start (sampleWorld reissuedCodec).files) items := by
  intro step' items
  obtain ⟨s, p, hs, hp, hpc, -⟩ := exec_reenrolling reissuedCodec sampleUrl (by decide)
  obtain ⟨s', hs'⟩ := step_reenrolled reissuedCodec sampleUrl hp hpc [.ok, .crash none]
  have hrun : exec step' (start (sampleWorld reissuedCodec).files) items = some s' := by
    rw [exec_append_of_some hs, exec, hs']
    rfl
  have hmeet : StepsMeet step' (fun s item =>
      ¬ Overwritten (sampleHost reissuedCodec sampleUrl) s item)
      (start (sampleWorld reissuedCodec).files) items :=
    ⟨fun h => h.2, fun _ _ => ⟨fun h => h.2, fun _ _ => ⟨fun h => h.2, fun _ _ =>
      ⟨fun h => h.2, fun _ _ => ⟨fun h => h.2, fun _ _ => ⟨fun h => h.2, fun _ _ => trivial⟩⟩⟩⟩⟩⟩
  exact ⟨s', hrun, hmeet, (crash_atomic_iff (sampleHost reissuedCodec sampleUrl) _ items s'
    reissuedCodec_take hrun).mpr hmeet⟩

/-- The process is gone after five bytes of the new creds. The old ones could be read before, and
nothing can be read now. -/
theorem creds_lost_in_registration :
    let env := sampleHost reissuedCodec sampleUrl
    ∃ s s', exec (step env) (start (sampleWorld reissuedCodec).files) reenrolling = some s ∧
      s.readBack env = some sampleCreds ∧
      (reenrolled [.crash (some 5)]).1.writes env sampleCreds = some reissuedCreds ∧
      s.step env (reenrolled [.crash (some 5)]) = some s' ∧ s'.process = none ∧
      s'.readBack env ≠ some sampleCreds ∧ s'.readBack env ≠ some reissuedCreds := by
  intro env
  obtain ⟨s, p, hs, hp, hpc, hfiles⟩ := exec_reenrolling reissuedCodec sampleUrl (by decide)
  obtain ⟨s', hs'⟩ := step_reenrolled reissuedCodec sampleUrl hp hpc [.crash (some 5)]
  obtain ⟨hfiles', hprocess'⟩ := step_registered hs'
  have hlen : 5 < (reissuedCodec.encode (sampleResponse.toCreds Base64.standard 0)).length := by
    rw [sampleResponse_toCreds, reissuedCodec_encode (by simp)]
    decide +kernel
  have hread : s.readBack env = some sampleCreds := by
    rw [readBack, hfiles]
    exact sampleHost_readStoredCreds reissuedCodec sampleUrl
  have hlost : s'.readBack env = none := by
    rw [readBack_eq, hfiles']
    change storedCreds (sampleEnv reissuedCodec)
      ((⟨s.files, []⟩ : Disk StateFile).put .creds ((reissuedCodec.encode _).take 5)).files = none
    rw [storedCreds, Disk.put_self, Option.bind_some]
    exact reissuedCodec_take _ 5 hlen
  have hwrites : (reenrolled [.crash (some 5)]).1.writes env sampleCreds = some reissuedCreds :=
    congrArg some sampleResponse_toCreds
  refine ⟨s, s', hs, hread, hwrites, hs', hprocess'.mpr rfl, ?_, ?_⟩
  · rw [hlost]
    exact Option.some_ne_none sampleCreds |>.symm
  · rw [hlost]
    exact Option.some_ne_none reissuedCreds |>.symm

end StateDir

end ControlPlaneClient
