import ControlPlaneClient.Wire

/-!
# The gRPC client

`AgentClient` of `client.rs`: the endpoint, the cached transport channel, the instance JWT and the
mTLS material. `connect` is lazy: with a transport cached it returns at once, and the material it
reads is that of the moment it builds one.
-/

namespace ControlPlaneClient

/-- mTLS material the agent presents once the control plane has issued it. -/
structure ClientTlsMaterial where
  caPem         : String
  clientCertPem : String
  clientKeyPem  : String
  /-- Host name for SNI and certificate verification. -/
  serverName    : Option String
  deriving DecidableEq

/-- `tonic::transport::ClientTlsConfig`. -/
structure ClientTlsConfig where
  caCertificate : Option String
  identity      : Option (String × String)
  domainName    : Option String
  deriving DecidableEq

/-- A transport channel. `material` is what `connect` read when it built the channel. -/
structure Transport where
  tlsConfig : Option ClientTlsConfig
  material  : Option ClientTlsMaterial
  deriving DecidableEq

structure AgentClient where
  endpoint : String
  channel  : Option Transport
  jwt      : Option String
  tls      : Option ClientTlsMaterial
  deriving DecidableEq

/-- The TLS configuration of an `https` endpoint. -/
def clientTlsConfig : Option ClientTlsMaterial → ClientTlsConfig
  | some m =>
    { caCertificate := some m.caPem
      identity :=
        if m.clientCertPem ≠ "" ∧ m.clientKeyPem ≠ "" then some (m.clientCertPem, m.clientKeyPem)
        else none
      domainName := m.serverName }
  | none => ⟨none, none, none⟩

namespace AgentClient

def new (endpoint : String) : AgentClient := ⟨endpoint, none, none, none⟩

/-- The cached transport stays as it is. -/
def setTls (c : AgentClient) (material : Option ClientTlsMaterial) : AgentClient :=
  { c with tls := material }

def setJwt (c : AgentClient) (token : String) : AgentClient := { c with jwt := some token }

/-- Drop the cached transport. -/
def reset (c : AgentClient) : AgentClient := { c with channel := none }

def isHttps (c : AgentClient) : Bool := c.endpoint.startsWith "https://"

/-- The transport that `connect` builds. -/
def build (c : AgentClient) : Transport where
  tlsConfig := if c.isHttps then some (clientTlsConfig c.tls) else none
  material := c.tls

/-- Connect unless a transport is cached. `reached` says whether the endpoint can be built and
reached; a failure leaves the client as it is. -/
def connect (c : AgentClient) (reached : Bool) : Option AgentClient :=
  match c.channel with
  | some _ => some c
  | none   => if reached then some { c with channel := some c.build } else none

/-- The transport and the token that `authed_client` wraps. -/
def authedClient (c : AgentClient) : Option (Transport × String) := do
  let ch ← c.channel
  let jwt ← c.jwt
  some (ch, jwt)

lemma authedClient_eq_some_iff {c : AgentClient} {t : Transport} {jwt : String} :
    c.authedClient = some (t, jwt) ↔ c.channel = some t ∧ c.jwt = some jwt := by
  simp [authedClient, Option.bind_eq_some_iff]

/-- A connect keeps the token. -/
lemma connect_jwt {c c' : AgentClient} {reached : Bool} (h : c.connect reached = some c') :
    c'.jwt = c.jwt := by
  rw [connect] at h
  split at h
  · cases h; rfl
  · split at h
    · cases h; rfl
    · cases h

end AgentClient

end ControlPlaneClient
