import ControlPlaneClient.Agent.Credentials

/-!
# Status reports

The host's snapshot of the running process, and the `StatusReport` built from it. The report's
config hash is stamped by the agent.
-/

namespace ControlPlaneClient

structure PluginStatusSample where
  id          : String
  version     : String
  state       : String
  error       : String
  invocations : UInt64

structure ClusterStatusSample where
  kind      : String
  backendUp : Option Bool
  peers     : Option UInt32

structure DeliveryRefusalSample where
  reason   : String
  proofKid : String

/-- Host snapshot for one report. -/
structure StatusSnapshot where
  plugins         : List PluginStatusSample
  warnings        : List String
  cluster         : Option ClusterStatusSample
  secretsDigest   : String
  deliveryRefusal : Option DeliveryRefusalSample

def snapshotToMessage (snap : StatusSnapshot) (configHash : String) (now : DateTime) :
    StatusReport where
  sentAt := stampSeconds now
  configHash := configHash
  plugins := snap.plugins.map fun p => ⟨p.id, p.version, p.state, p.error, p.invocations⟩
  warnings := snap.warnings
  cluster := snap.cluster.map fun c => ⟨c.kind, c.backendUp, c.peers⟩
  secretsDigest := snap.secretsDigest
  deliveryRefusal := snap.deliveryRefusal.map fun r => ⟨r.reason, r.proofKid⟩

/-- The report of one tick of `status_loop`. -/
def AgentRunner.statusReport {QuotaStatus : Type} (r : AgentRunner QuotaStatus)
    (snap : StatusSnapshot) (now : DateTime) : StatusReport :=
  snapshotToMessage snap (r.appliedConfigHash.getD "") now

end ControlPlaneClient
