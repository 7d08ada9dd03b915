import ControlPlaneClient.Agent.License
import ControlPlaneClient.Agent.Lkg
import ControlPlaneClient.Lib.Transition

/-!
# The server's messages

`read_inbound` of `agent.rs`: what the agent does with each message of the Channel, in memory and
on disk.
-/

namespace ControlPlaneClient

open FileSystem

inductive AgentEvent
  | registered (instanceId : String)
  | channelConnected
  | channelDisconnected (reason : String)
  | heartbeatSent (seq : ℕ)
  | configReceived (hash : String)
  | error (message : String)
  deriving DecidableEq

/-- What the handler does besides changing the agent and the files, in order. -/
inductive Action (Bundle : Type)
  | send (m : AgentMessage)
  | event (e : AgentEvent)
  | apply (b : Bundle)
  | applyLicense (d : LicenseDelivery)

/-- What the agent was built with. -/
structure AgentEnv (Bundle : Type) where
  cfg            : AgentRunnerConfig
  creds          : Codec StoredCreds Bytes
  base64         : Base64.Engine
  lkg            : LkgEnv Bundle
  license        : Codec LicenseDelivery Bytes
  /-- A `ConfigApplier` is wired. -/
  configApplier  : Bool
  /-- A `LicenseApplier` is wired. -/
  licenseApplier : Bool

/-- What the outside answers while one message is handled. -/
structure Outside where
  /-- The clock, when the files are written and when the message is done with. -/
  writtenAt  : DateTime
  now        : DateTime
  /-- The outcome of the `ConfigApplier`, if it is called. -/
  applied    : Except String Unit
  nonce      : Nonce
  nodeSecret : NodeSecret

/-- What is fixed when the Channel is opened. -/
structure ChannelBinding where
  nonce       : String
  instanceUid : String

section Handler

variable {Bundle QuotaStatus : Type} (env : AgentEnv Bundle)

/-! ### Config updates -/

/-- The outcome of an update. Without a bundle or without an applier it counts as applied. -/
def applyOutcome (u : ConfigUpdate Bundle) (out : Outside) : Except String Unit :=
  match u.bundle, env.configApplier with
  | some _, true => out.applied
  | _, _         => .ok ()

/-- The applied state and the error of the ack. -/
def appliedState : Except String Unit → String × String
  | .ok ()   => ("active", "")
  | .error e => ("error", e)

def configAck (u : ConfigUpdate Bundle) (out : Outside) : ConfigAck where
  configHash := u.configHash
  appliedAt := stampSeconds out.now
  appliedState := (appliedState (applyOutcome env u out)).1
  error := (appliedState (applyOutcome env u out)).2

/-- The calls of the host hook. -/
def applyCalls (u : ConfigUpdate Bundle) : List (Action Bundle) :=
  match u.bundle, env.configApplier with
  | some b, true => [.apply b]
  | _, _         => []

/-- The hash that the process runs after an update. -/
def noteApplied (u : ConfigUpdate Bundle) (out : Outside) (r : AgentRunner QuotaStatus) :
    AgentRunner QuotaStatus :=
  if (appliedState (applyOutcome env u out)).1 = "active" ∧ u.configHash ≠ "" then
    { r with appliedConfigHash := some u.configHash }
  else r

/-- The bundle goes to disk before it is applied, so that a crash in between still finds it. -/
def saveLkg (u : ConfigUpdate Bundle) (out : Outside) : FileM StateFile Unit :=
  match u.bundle with
  | some b => save env.lkg out.nodeSecret out.nonce out.writtenAt u.configHash b
  | none   => pure ()

/-- What an update makes the handler do: apply the bundle, tell the host, send the ack. -/
def configActions (u : ConfigUpdate Bundle) (out : Outside) : List (Action Bundle) :=
  applyCalls env u ++
    [.event (.configReceived u.configHash), .send (.configAck (configAck env u out))]

def handleConfigUpdate (u : ConfigUpdate Bundle) (out : Outside) (r : AgentRunner QuotaStatus) :
    Prog StateFile (AgentRunner QuotaStatus × List (Action Bundle)) := do
  let _ ← (saveLkg env u out).run
  pure (noteApplied env u out r, configActions env u out)

/-! ### Credential rotations -/

/-- Refresh the mTLS material, with the CA chain of the creds on disk, when they can be read. -/
def refreshTls (cr : CredentialRotation) (stored : Option StoredCreds) (c : AgentClient) :
    AgentClient :=
  match stored with
  | some stored =>
    if cr.clientCertPem ≠ "" then
      c.setTls (some ⟨stored.caChainPem, cr.clientCertPem, cr.clientKeyPem, none⟩)
    else c
  | none => c

/-- Refresh the payload key. No key, or one that is rejected, leaves the slot alone. -/
def refreshDek (cr : CredentialRotation) (slot : Option DekHandle) : Option DekHandle :=
  if cr.payloadDek ≠ [] then
    storeDek slot (DekHandle.fromProto cr.payloadDek cr.payloadDekVersion)
  else slot

/-- What a rotation changes in memory. -/
def rotateRunner (cr : CredentialRotation) (stored : Option StoredCreds)
    (r : AgentRunner QuotaStatus) : AgentRunner QuotaStatus :=
  { r with
    client := refreshTls cr stored (r.client.setJwt cr.instanceJwt)
    payloadDek := refreshDek cr r.payloadDek }

/-- The creds on disk, read back when there is a certificate to put beside their CA chain. -/
def rereadCreds (cr : CredentialRotation) : Prog StateFile (Option StoredCreds) :=
  if cr.clientCertPem ≠ "" then (readStoredCreds env.creds).run else pure none

def handleCredentialRotation (cr : CredentialRotation) (out : Outside)
    (r : AgentRunner QuotaStatus) : Prog StateFile (AgentRunner QuotaStatus) :=
  if cr.instanceJwt ≠ "" then do
    let _ ← (persistRotatedCreds env.creds env.base64 out.writtenAt cr).run
    let stored ← rereadCreds env cr
    pure (rotateRunner cr stored r)
  else pure r

/-! ### Licence deliveries -/

def delivery (binding : ChannelBinding) (u : LicenseUpdate) : LicenseDelivery where
  licenseJwt := u.licenseJwt
  orgSlug := u.orgSlug
  refreshFailing := u.refreshFailing
  deliveryProof := u.deliveryProof
  channelNonce := binding.nonce
  instanceUid := binding.instanceUid

def handleLicenseUpdate (binding : ChannelBinding) (u : LicenseUpdate) :
    Prog StateFile (List (Action Bundle)) := do
  let _ ← (saveCached env.license (delivery binding u)).run
  pure (if env.licenseApplier then [.applyLicense (delivery binding u)] else [])

/-! ### The loop -/

/-- One message: the agent after it, what was done, and the error that ends the session. -/
def handle (binding : ChannelBinding) (msg : ServerMessage Bundle QuotaStatus) (out : Outside)
    (r : AgentRunner QuotaStatus) :
    Prog StateFile (AgentRunner QuotaStatus × List (Action Bundle) × Option String) :=
  match msg with
  | .configUpdate u => do
    let (r, actions) ← handleConfigUpdate env u out r
    pure (r, actions, none)
  | .credentialRotation cr => do
    let r ← handleCredentialRotation env cr out r
    pure (r, [], none)
  | .quarantine reason => pure (r, [], some s!"quarantined: {reason}")
  | .quotaStatus qs => pure ({ r with quotaStatus := some qs }, [], none)
  | .licenseUpdate u => do
    let actions ← handleLicenseUpdate env binding u
    pure (r, actions, none)
  | .command _ | .diagnosticRequest | .logRequest | .none => pure (r, [], none)

/-- An item of the stream: a message with what the outside answers to it, or an error. -/
abbrev StreamItem (Bundle QuotaStatus : Type) :=
  Except String (ServerMessage Bundle QuotaStatus × Outside)

/-- Handle the messages until the stream ends or fails, or a message ends the session. -/
def readInbound (binding : ChannelBinding) :
    List (StreamItem Bundle QuotaStatus) → AgentRunner QuotaStatus →
    Prog StateFile (AgentRunner QuotaStatus × List (Action Bundle) × Except String Unit)
  | [], r => pure (r, [], .ok ())
  | .error e :: _, r => pure (r, [], .error e)
  | .ok (msg, out) :: rest, r => do
    let (r, actions, ended) ← handle env binding msg out r
    match ended with
    | some e => pure (r, actions, .error e)
    | none   => do
      let (r, more, result) ← readInbound binding rest r
      pure (r, actions ++ more, result)

/-! ### Runs -/

/-- The running agent with the files under its state directory. -/
structure World (QuotaStatus : Type) where
  runner : AgentRunner QuotaStatus
  files  : Files StateFile

/-- One round of the loop, undefined when the message ends the session. -/
def receive (binding : ChannelBinding) (w : World QuotaStatus)
    (item : ServerMessage Bundle QuotaStatus × Outside) : Option (World QuotaStatus) :=
  match run (handle env binding item.1 item.2 w.runner) w.files with
  | ((r, _, none), fs)   => some ⟨r, fs⟩
  | ((_, _, some _), _) => none

/-- A message that does not end the session is followed by the rest of the stream. -/
lemma run_readInbound_cons {binding : ChannelBinding} {msg : ServerMessage Bundle QuotaStatus}
    {out : Outside} {rest : List (StreamItem Bundle QuotaStatus)} {r r' r'' : AgentRunner QuotaStatus}
    {fs fs' fs'' : Files StateFile} {actions more : List (Action Bundle)}
    {result : Except String Unit}
    (hhandle : run (handle env binding msg out r) fs = ((r', actions, none), fs'))
    (hrest : run (readInbound env binding rest r') fs' = ((r'', more, result), fs'')) :
    run (readInbound env binding (.ok (msg, out) :: rest) r) fs =
      ((r'', actions ++ more, result), fs'') := by
  rw [readInbound, run_bind_eq, hhandle]
  dsimp only
  rw [run_bind_eq, hrest]
  rfl

/-- Messages that do not end the session are handled one by one. -/
lemma run_readInbound {binding : ChannelBinding} {w w' : World QuotaStatus}
    {items : List (ServerMessage Bundle QuotaStatus × Outside)}
    (h : Transition.exec (receive env binding) w items = some w') :
    ∃ actions, run (readInbound env binding (items.map .ok) w.runner) w.files =
      ((w'.runner, actions, .ok ()), w'.files) := by
  induction items generalizing w with
  | nil => cases h; exact ⟨[], rfl⟩
  | cons item items ih =>
    obtain ⟨w₁, hstep, hrest⟩ := Transition.exec_cons_eq_some.mp h
    obtain ⟨more, hmore⟩ := ih hrest
    rw [receive] at hstep
    split at hstep
    · rename_i r actions fs hrun
      cases hstep
      exact ⟨actions ++ more, run_readInbound_cons env hrun hmore⟩
    · cases hstep

lemma run_handle_configUpdate (binding : ChannelBinding) (u : ConfigUpdate Bundle) (out : Outside)
    (r : AgentRunner QuotaStatus) (fs : Files StateFile) :
    run (handle env binding (.configUpdate u) out r) fs =
      ((noteApplied env u out r, configActions env u out, none), (eval (saveLkg env u out) fs).2) := by
  rw [handle, run_bind_eq, handleConfigUpdate, run_bind_eq]
  rfl

end Handler

/-- An agent with both host hooks, on the sample node. -/
def sampleEnv (creds : Codec StoredCreds Bytes) : AgentEnv Bytes where
  cfg := ⟨"https://cp.example:7844", none⟩
  creds := creds
  base64 := Base64.standard
  lkg := sampleLkg
  license := Codec.unary
  configApplier := true
  licenseApplier := true

/-- The clock at the epoch and a sample nonce. -/
def sampleOutside (applied : Except String Unit) : Outside where
  writtenAt := 0
  now := 0
  applied := applied
  nonce := sampleNonce
  nodeSecret := ⟨List.replicate 32 0, rfl⟩

end ControlPlaneClient
