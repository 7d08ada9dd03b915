import ControlPlaneClient.Agent.CredsCrash
import ControlPlaneClient.Session.RunLoop

/-!
# The state directory

The processes that run one after the other on a state directory, each with the file operations of
`run`, `run_loop` and `read_inbound`. An operation may fail, and the process may be gone at any
point. A handler that the shutdown drops leaves the files as a process that is gone at that point.
-/

namespace ControlPlaneClient

open FileSystem Transition

/-- What the processes are configured with. -/
structure HostEnv (Bundle : Type) where
  agent         : AgentEnv Bundle
  enrollmentUrl : String

def HostEnv.loop {Bundle : Type} (env : HostEnv Bundle) : LoopEnv where
  base64 := env.agent.base64
  cfg := env.agent.cfg
  hasToken := (extractToken env.enrollmentUrl).isOk

/-- A process that has read the creds file. -/
structure Process (QuotaStatus : Type) where
  loop      : RunLoop QuotaStatus
  /-- The last-known-good config was looked at, and `run_loop` is entered. -/
  preloaded : Bool

/-- The state directory, with the process that runs on it, if there is one. -/
structure StateDir (QuotaStatus : Type) where
  process : Option (Process QuotaStatus)
  files   : Files StateFile
  /-- The tokens of the rotations that were received. -/
  rotated : List String

inductive HostEvent (Bundle QuotaStatus : Type)
  /-- A process calls `run`. -/
  | boot
  | preload (fresh : NodeSecret)
  | loop (e : LoopEvent)
  | message (binding : ChannelBinding) (msg : ServerMessage Bundle QuotaStatus) (out : Outside)
  /-- The process is gone. -/
  | exit

section Programs

variable {Bundle QuotaStatus : Type} (env : HostEnv Bundle)

/-- `run` up to the creds. It fails without a state directory. -/
def openStateDir : FileM StateFile (Option StoredCreds) := do
  createDirAll
  attempt (readStoredCreds env.agent.creds)

/-- The process with what `load_bundle` returned. -/
def Process.preload (p : Process QuotaStatus) (bundle : Option (Option (String × Bundle))) :
    Process QuotaStatus :=
  match bundle with
  | some (some (hash, _)) =>
    ⟨{ p.loop with runner := { p.loop.runner with appliedConfigHash := some hash } }, true⟩
  | _ => { p with preloaded := true }

@[simp] lemma Process.preload_pc (p : Process QuotaStatus)
    (bundle : Option (Option (String × Bundle))) : (p.preload bundle).loop.pc = p.loop.pc := by
  unfold Process.preload
  split <;> rfl

/-- The file operations of a step of the run loop. -/
def loopFiles (pc : LoopPc) : LoopEvent → FileM StateFile Unit
  | .registered resp now => storeFreshCreds env.agent.creds (resp.toCreds env.agent.base64 now)
  | .settle =>
    match pc with
    | .ended (.error .rejected) => if env.loop.hasToken then discardStoredCreds else pure ()
    | _ => pure ()
  | _ => pure ()

/-- A step of the run loop. The rotations come with the other messages, and the loop is not entered
before the preload. -/
def Process.loopStep (p : Process QuotaStatus) : LoopEvent → Option (RunLoop QuotaStatus)
  | .rotation _ _ => none
  | .check        => if p.preloaded then p.loop.step env.loop .check else none
  | e             => p.loop.step env.loop e

/-- The process after a message, which may have ended the session. -/
def Process.received (p : Process QuotaStatus) (r : AgentRunner QuotaStatus)
    (ended : Option String) : Process QuotaStatus :=
  { p with
    loop :=
      { p.loop with
        runner := r
        pc := if ended.isSome then .tearingDown (.error .other) else p.loop.pc } }

/-- What is done at an event, if it can happen: the program, and the process after it. -/
def program :
    Option (Process QuotaStatus) → HostEvent Bundle QuotaStatus →
    Option (Prog StateFile (Option (Process QuotaStatus)))
  | none, .boot => some do
    let creds ← (openStateDir env).run
    pure (creds.map fun creds => ⟨.start env.loop creds, false⟩)
  | some p, .preload fresh =>
    match p.loop.pc, p.preloaded with
    | .top, false => some do
      let bundle ← (loadBundle env.agent.lkg fresh).run
      pure (some (p.preload bundle))
    | _, _ => none
  | some p, .loop e => (p.loopStep env e).map fun loop => do
    let _ ← (loopFiles env p.loop.pc e).run
    pure (some { p with loop := loop })
  | some p, .message binding msg out =>
    match p.loop.pc with
    | .parked _ => some do
      let result ← handle env.agent binding msg out p.loop.runner
      pure (some (p.received result.1 result.2.2))
    | _ => none
  | some _, .exit => some (pure none)
  | _, _ => none

/-- All that can be done at an event. -/
inductive Does : Option (Process QuotaStatus) → HostEvent Bundle QuotaStatus →
    Prog StateFile (Option (Process QuotaStatus)) → Prop
  | boot :
      Does none .boot do
        let creds ← (openStateDir env).run
        pure (creds.map fun creds => ⟨.start env.loop creds, false⟩)
  | preload (p : Process QuotaStatus) (fresh : NodeSecret) (hpc : p.loop.pc = .top)
      (h : p.preloaded = false) :
      Does (some p) (.preload fresh) do
        let bundle ← (loadBundle env.agent.lkg fresh).run
        pure (some (p.preload bundle))
  | loop (p : Process QuotaStatus) (e : LoopEvent) (loop : RunLoop QuotaStatus)
      (h : p.loop.step env.loop e = some loop) :
      Does (some p) (.loop e) do
        let _ ← (loopFiles env p.loop.pc e).run
        pure (some { p with loop := loop })
  | message (p : Process QuotaStatus) (binding : ChannelBinding)
      (msg : ServerMessage Bundle QuotaStatus) (out : Outside) (wait : Notify.Notified)
      (hpc : p.loop.pc = .parked wait) :
      Does (some p) (.message binding msg out) do
        let result ← handle env.agent binding msg out p.loop.runner
        pure (some (p.received result.1 result.2.2))
  | exit (p : Process QuotaStatus) : Does (some p) .exit (pure none)

variable {env}

lemma Process.step_of_loopStep {p : Process QuotaStatus} {e : LoopEvent}
    {loop : RunLoop QuotaStatus} (h : p.loopStep env e = some loop) :
    p.loop.step env.loop e = some loop := by
  unfold Process.loopStep at h
  split at h
  · cases h
  · split at h
    · exact h
    · cases h
  · exact h

lemma program_does {process : Option (Process QuotaStatus)} {e : HostEvent Bundle QuotaStatus}
    {x : Prog StateFile (Option (Process QuotaStatus))} (h : program env process e = some x) :
    Does env process e x := by
  unfold program at h
  split at h
  · cases h
    exact .boot
  · split at h
    · cases h
      exact .preload _ _ ‹_› ‹_›
    · cases h
  · obtain ⟨loop, hloop, rfl⟩ := Option.map_eq_some_iff.mp h
    exact .loop _ _ loop (Process.step_of_loopStep hloop)
  · split at h
    · cases h
      exact .message _ _ _ _ _ ‹_›
    · cases h
  · cases h
    exact .exit _
  · cases h

end Programs

/-- The tokens that a message rotates in. -/
def HostEvent.rotates {Bundle QuotaStatus : Type} : HostEvent Bundle QuotaStatus → List String
  | .message _ (.credentialRotation cr) _ => [cr.instanceJwt]
  | _                                     => []

/-- The process after a program that ends with it. -/
lemma exists_of_process {α QuotaStatus : Type} {y : Prog StateFile α} {f : α → Option (Process QuotaStatus)}
    {as : List Answer} {d : Disk StateFile} {p' : Process QuotaStatus}
    (h : (runFaulty (y >>= fun a => pure (f a)) as d).1.bind Prod.fst = some p') :
    ∃ a, f a = some p' := by
  rw [runFaulty_bind_pure] at h
  cases hy : (runFaulty y as d).1 with
  | none =>
    rw [hy] at h
    cases h
  | some out =>
    rw [hy] at h
    exact ⟨out.1, h⟩

namespace StateDir

variable {Bundle QuotaStatus : Type} (env : HostEnv Bundle)

/-- No process runs yet. -/
def start (files : Files StateFile) : StateDir QuotaStatus := ⟨none, files, []⟩

/-- An event, with what happens to its file operations. -/
def step (s : StateDir QuotaStatus) (item : HostEvent Bundle QuotaStatus × List Answer) :
    Option (StateDir QuotaStatus) :=
  (program env s.process item.1).map fun x =>
    let (result, d) := runFaulty x item.2 ⟨s.files, []⟩
    ⟨result.bind Prod.fst, d.files, s.rotated ++ item.1.rotates⟩

variable {env}

lemma step_eq_some {s s' : StateDir QuotaStatus}
    {item : HostEvent Bundle QuotaStatus × List Answer} (h : s.step env item = some s') :
    ∃ x, Does env s.process item.1 x ∧
      s'.process = (runFaulty x item.2 ⟨s.files, []⟩).1.bind Prod.fst ∧
      s'.files = (runFaulty x item.2 ⟨s.files, []⟩).2.files ∧
      s'.rotated = s.rotated ++ item.1.rotates := by
  obtain ⟨x, hx, rfl⟩ := Option.map_eq_some_iff.mp h
  exact ⟨x, program_does hx, rfl, rfl, rfl⟩

/-- A process that can read its creds starts with them. -/
lemma step_boot {files : Files StateFile} {creds : StoredCreds}
    (h : storedCreds env.agent files = some creds) (rotated : List String) :
    step env ⟨none, files, rotated⟩ ((.boot : HostEvent Bundle QuotaStatus), [.ok, .ok]) =
      some ⟨some ⟨.start env.loop (some creds), false⟩, files, rotated⟩ := by
  have hread := runFaulty_readStoredCreds env.agent (d := ⟨files, []⟩) h []
  have hopen : runFaulty (openStateDir env).run [.ok, .ok] ⟨files, []⟩ =
      (some (some (some creds), []), ⟨files, []⟩) := by
    change runFaulty ((readStoredCreds env.agent.creds).run.bind fun r => .done (some r)) [.ok] _ = _
    rw [runFaulty_bind, hread]
    rfl
  simp only [step, program, Option.map_some, runFaulty_bind_pure, hopen, HostEvent.rotates,
    List.append_nil]
  rfl

end StateDir

/-- The agent on the sample node. -/
def sampleHost (codec : Codec StoredCreds Bytes) (enrollmentUrl : String) : HostEnv Bytes :=
  ⟨sampleEnv codec, enrollmentUrl⟩

lemma sampleHost_loop (codec : Codec StoredCreds Bytes) {url : String}
    (htoken : (extractToken url).isOk = true) : (sampleHost codec url).loop =
      ⟨Base64.standard, ⟨"https://cp.example:7844", none⟩, true⟩ := by
  rw [HostEnv.loop, sampleHost, htoken]
  rfl

lemma sampleHost_readStoredCreds (codec : Codec StoredCreds Bytes) (enrollmentUrl : String) :
    (eval (readStoredCreds (sampleHost codec enrollmentUrl).agent.creds)
      (sampleWorld codec).files).1 = some sampleCreds := by
  rw [eval_readStoredCreds]
  exact sampleWorld_storedCreds codec

end ControlPlaneClient
