import Mathlib

/-!
# The messages of the Channel

The parts of the `mcpg.cp.v1` contract that the agent fills in or reads. The message types are
declared in `mcpg-control-plane-core`, outside this repository; the fields below are the ones
the client names. `ConfigBundle` and `QuotaStatus` pass through the agent unread and are
parameters.

Instants are counted in nanoseconds since the Unix epoch and durations in nanoseconds.
-/

namespace ControlPlaneClient

/-- `chrono::DateTime<Utc>`. -/
abbrev DateTime := ℤ

/-- `std::time::Duration`. -/
abbrev Duration := ℕ

abbrev Bytes := List UInt8

def nanosPerSec : ℕ := 1_000_000_000

def Duration.ofSecs (n : ℕ) : Duration := n * nanosPerSec

def Duration.ofMillis (n : ℕ) : Duration := n * 1_000_000

/-- `Duration::MAX`. -/
def Duration.max : Duration := 2 ^ 64 * nanosPerSec - 1

def Duration.saturatingMul (d : Duration) (k : ℕ) : Duration := min (d * k) Duration.max

def Duration.asSecs (d : Duration) : ℕ := d / nanosPerSec

/-- `DateTime::timestamp`: whole seconds, rounded down. -/
def DateTime.timestamp (t : DateTime) : ℤ := Int.fdiv t nanosPerSec

def DateTime.timestampSubsecNanos (t : DateTime) : ℤ := Int.fmod t nanosPerSec

structure Timestamp where
  seconds : ℤ
  nanos   : ℤ
  deriving DecidableEq

/-- `metrics::timestamp`. -/
def timestamp (t : DateTime) : Timestamp := ⟨t.timestamp, t.timestampSubsecNanos⟩

/-- The `at` of a message, stamped in whole seconds when it is built. -/
def stampSeconds (now : DateTime) : Timestamp := ⟨now.timestamp, 0⟩

/-! ### From the agent -/

inductive ToolOutcome
  | ok | clientError | serverError | policyDenied | quotaExceeded | idempotentReplay
  deriving DecidableEq

structure ToolInvocationSample where
  pluginId         : String
  toolName         : String
  bindingId        : String
  startedAt        : Timestamp
  durationMs       : ℕ
  outcome          : ToolOutcome
  errorCode        : String
  errorHash        : String
  requestId        : String
  callerSubject    : String
  requestPayload   : Bytes
  responsePayload  : Bytes
  payloadEncrypted : Bool
  dekVersion       : UInt32

structure EventUsageSample where
  eventName   : String
  mode        : String
  delivered   : UInt64
  abandoned   : UInt64
  ingested    : UInt64
  bytes       : UInt64
  windowStart : Timestamp
  windowEnd   : Timestamp

structure MetricsReport where
  sentAt             : Timestamp
  seq                : ℕ
  invocations        : List ToolInvocationSample
  droppedOverflow    : ℕ
  droppedNonBillable : ℕ
  events             : List EventUsageSample

inductive ProtoLevel
  | trace | debug | info | warn | error
  deriving DecidableEq

structure LogLine where
  loggedAt : Timestamp
  level    : ProtoLevel
  target   : String
  message  : String
  pluginId : String

structure LogBatch where
  sentAt          : Timestamp
  seq             : ℕ
  lines           : List LogLine
  droppedOverflow : ℕ

structure PluginStatus where
  id          : String
  version     : String
  state       : String
  error       : String
  invocations : UInt64

structure ClusterStatus where
  kind      : String
  backendUp : Option Bool
  peers     : Option UInt32

structure DeliveryRefusal where
  reason   : String
  proofKid : String

structure StatusReport where
  sentAt          : Timestamp
  configHash      : String
  plugins         : List PluginStatus
  warnings        : List String
  cluster         : Option ClusterStatus
  secretsDigest   : String
  deliveryRefusal : Option DeliveryRefusal

structure ConfigAck where
  configHash   : String
  appliedAt    : Timestamp
  appliedState : String
  error        : String
  deriving DecidableEq

structure Heartbeat where
  sentAt : Timestamp
  seq    : ℕ
  health : String

/-- `agent_message::Kind`. -/
inductive AgentMessage
  | heartbeat (h : Heartbeat)
  | metricsReport (r : MetricsReport)
  | logBatch (b : LogBatch)
  | statusReport (r : StatusReport)
  | configAck (a : ConfigAck)

/-! ### From the control plane -/

structure ConfigUpdate (Bundle : Type) where
  configHash : String
  bundle     : Option Bundle
  deriving DecidableEq

structure CredentialRotation where
  instanceJwt       : String
  clientCertPem     : String
  clientKeyPem      : String
  payloadDek        : Bytes
  payloadDekVersion : UInt32
  deriving DecidableEq

structure LicenseUpdate where
  licenseJwt     : String
  orgSlug        : String
  refreshFailing : Bool
  deliveryProof  : String
  deriving DecidableEq

structure RegisterResponse where
  instanceId        : String
  instanceJwt       : String
  cpEndpoint        : String
  clientCertPem     : String
  clientKeyPem      : String
  caChainPem        : String
  payloadDek        : Bytes
  payloadDekVersion : UInt32
  deriving DecidableEq

/-- `server_message::Kind`, with `none` for a message that carries no kind. -/
inductive ServerMessage (Bundle QuotaStatus : Type)
  | configUpdate (u : ConfigUpdate Bundle)
  | command (commandId : String)
  | credentialRotation (cr : CredentialRotation)
  | quarantine (reason : String)
  | diagnosticRequest
  | logRequest
  | quotaStatus (qs : QuotaStatus)
  | licenseUpdate (u : LicenseUpdate)
  | none

end ControlPlaneClient
