import ControlPlaneClient.Agent.Client
import ControlPlaneClient.Lib.Base64
import ControlPlaneClient.Lib.FileSystem

/-!
# Stored credentials

The creds file `agent-creds.json`, what installs its contents into the running agent, and what
rewrites it when the control plane rotates the credentials. The JSON codec and base64 are
parameters.
-/

namespace ControlPlaneClient

open FileSystem

/-- The files under `state_dir`. -/
inductive StateFile
  | creds | credsTmp | lkg | lkgTmp | nodeSecret | license | licenseTmp
  deriving DecidableEq

/-! ### The payload key -/

/-- The per-tenant data encryption key, with the version stamped on every blob. -/
structure DekHandle where
  raw        : Bytes
  version    : UInt32
  raw_length : raw.length = 32
  version_ne : version ≠ 0
  deriving DecidableEq

inductive DekError
  | badKeyLen (len : ℕ)
  | zeroVersion
  deriving DecidableEq

/-- `none` when the control plane sent no key. -/
def DekHandle.fromProto (raw : Bytes) (version : UInt32) : Except DekError (Option DekHandle) :=
  if raw = [] then .ok none
  else if hlen : raw.length = 32 then
    if hver : version = 0 then .error .zeroVersion
    else .ok (some ⟨raw, version, hlen, hver⟩)
  else .error (.badKeyLen raw.length)

/-- Store an accepted key; leave the slot alone when there is none or it is rejected. -/
def storeDek (slot : Option DekHandle) : Except DekError (Option DekHandle) → Option DekHandle
  | .ok (some h) => some h
  | .ok none     => slot
  | .error _     => slot

lemma fromProto_nil (version : UInt32) : DekHandle.fromProto [] version = .ok none := rfl

/-- A key is accepted or rejected by its length and its version alone. -/
lemma fromProto_accepts {raw : Bytes} {version : UInt32} (hlen : raw.length = 32)
    (hver : version ≠ 0) :
    DekHandle.fromProto raw version = .ok (some ⟨raw, version, hlen, hver⟩) := by
  have hne : raw ≠ [] := by
    rintro rfl
    cases hlen
  simp [DekHandle.fromProto, hne, hlen, hver]

lemma fromProto_rejects {raw : Bytes} (version : UInt32) (hne : raw ≠ [])
    (h : raw.length ≠ 32 ∨ version = 0) : ∃ e, DekHandle.fromProto raw version = .error e := by
  by_cases hlen : raw.length = 32
  · have hver : version = 0 := h.resolve_left (not_not_intro hlen)
    exact ⟨.zeroVersion, by simp [DekHandle.fromProto, hne, hlen, hver]⟩
  · exact ⟨.badKeyLen raw.length, by simp [DekHandle.fromProto, hne, hlen]⟩

/-! ### The creds file -/

structure StoredCreds where
  instanceId        : String
  instanceJwt       : String
  cpEndpoint        : String
  issuedAt          : DateTime
  clientCertPem     : String
  clientKeyPem      : String
  caChainPem        : String
  payloadDekB64     : String
  payloadDekVersion : UInt32
  deriving DecidableEq, Encodable

/-- The parts of the running agent that the credentials and the server's messages change. -/
structure AgentRunner (QuotaStatus : Type) where
  client            : AgentClient
  quotaStatus       : Option QuotaStatus
  payloadDek        : Option DekHandle
  appliedConfigHash : Option String

/-- The enrollment token, in the fragment of the enrollment URL. -/
def extractToken (url : String) : Except String String :=
  match url.toList.dropWhile (· ≠ '#') with
  | []        => .error "enrollment URL missing fragment"
  | _ :: frag =>
    match (frag.splitOn '&').findSome? (·.dropPrefix? "token=".toList) with
    | some token => .ok (String.ofList token)
    | none       => .error "enrollment URL missing token=..."

/-- What `run` reads of the configuration before the loop. -/
structure AgentRunnerConfig where
  cpEndpoint     : String
  bootstrapCaPem : Option String

variable {QuotaStatus : Type}

def AgentRunner.new (cfg : AgentRunnerConfig) : AgentRunner QuotaStatus :=
  ⟨.new cfg.cpEndpoint, none, none, none⟩

section Codecs

variable (json : Codec StoredCreds Bytes) (base64 : Base64.Engine)

def readStoredCreds : FileM StateFile StoredCreds := do
  let bytes ← read .creds
  match json.decode bytes with
  | some creds => pure creds
  | none       => failure

/-- The creds with the fields of a rotation that are set. -/
def StoredCreds.rotate (creds : StoredCreds) (now : DateTime) (cr : CredentialRotation) :
    StoredCreds :=
  let creds := { creds with instanceJwt := cr.instanceJwt, issuedAt := now }
  let creds := if cr.clientCertPem ≠ "" then { creds with clientCertPem := cr.clientCertPem }
    else creds
  let creds := if cr.clientKeyPem ≠ "" then { creds with clientKeyPem := cr.clientKeyPem }
    else creds
  if cr.payloadDek ≠ [] ∧ cr.payloadDekVersion ≠ 0 then
    { creds with
      payloadDekB64 := base64.encode cr.payloadDek
      payloadDekVersion := cr.payloadDekVersion }
  else creds

/-- Rewrite the creds file with the fields of a rotation, through a temporary file. -/
def persistRotatedCreds (now : DateTime) (cr : CredentialRotation) : FileM StateFile Unit := do
  let creds ← readStoredCreds json
  write .credsTmp (json.encode (creds.rotate base64 now cr))
  let _ ← attempt (setPermissions .credsTmp)
  rename .credsTmp .creds

/-- What `register_fresh` does on disk with the issued creds. It goes on whether or not they could
be written. -/
def storeFreshCreds (creds : StoredCreds) : FileM StateFile Unit := do
  let _ ← attempt (write .creds (json.encode creds))
  let _ ← attempt (setPermissions .creds)

/-- Remove the creds file so that a restart enrols anew. Best-effort. -/
def discardStoredCreds : FileM StateFile Unit := do
  let _ ← attempt (removeFile .creds)

/-- The creds that `register_fresh` makes of the control plane's answer. -/
def RegisterResponse.toCreds (resp : RegisterResponse) (now : DateTime) : StoredCreds where
  instanceId := resp.instanceId
  instanceJwt := resp.instanceJwt
  cpEndpoint := resp.cpEndpoint
  issuedAt := now
  clientCertPem := resp.clientCertPem
  clientKeyPem := resp.clientKeyPem
  caChainPem := resp.caChainPem
  payloadDekB64 := if resp.payloadDek = [] then "" else base64.encode resp.payloadDek
  payloadDekVersion := resp.payloadDekVersion

/-- Decode the persisted key into the slot. -/
def installPayloadDekFromCreds (creds : StoredCreds) (slot : Option DekHandle) :
    Option DekHandle :=
  if creds.payloadDekB64 = "" then slot
  else
    match base64.decode creds.payloadDekB64 with
    | none     => slot
    | some raw => storeDek slot (DekHandle.fromProto raw creds.payloadDekVersion)

/-- The material in the creds, if it can be used. -/
def StoredCreds.tlsMaterial (creds : StoredCreds) : Option ClientTlsMaterial :=
  if creds.clientCertPem ≠ "" ∧ creds.caChainPem ≠ "" then
    some ⟨creds.caChainPem, creds.clientCertPem, creds.clientKeyPem, none⟩
  else none

/-- Make `creds` the ones the client presents. -/
def installCreds (creds : StoredCreds) (r : AgentRunner QuotaStatus) : AgentRunner QuotaStatus :=
  let client := r.client.setJwt creds.instanceJwt
  { r with
    payloadDek := installPayloadDekFromCreds base64 creds r.payloadDek
    client :=
      match creds.tlsMaterial with
      | some m => (client.setTls (some m)).reset
      | none   => client }

/-- `run` up to the creds: the agent before it has any. -/
def boot (cfg : AgentRunnerConfig) : AgentRunner QuotaStatus :=
  let r := AgentRunner.new cfg
  match cfg.bootstrapCaPem with
  | some ca => { r with client := r.client.setTls (some ⟨ca, "", "", none⟩) }
  | none    => r

/-- What a process started on these files installs from the creds it finds. It registers when there
are none. -/
def restarted (cfg : AgentRunnerConfig) (fs : Files StateFile) :
    Option (AgentRunner QuotaStatus) :=
  (eval (readStoredCreds json) fs).1.map fun creds => installCreds base64 creds (boot cfg)

end Codecs

end ControlPlaneClient
