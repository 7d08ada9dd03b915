import ControlPlaneClient.Metrics.UsageTrail
import ControlPlaneClient.Metrics.Checked
import ControlPlaneClient.Metrics.Interleaved
import ControlPlaneClient.Metrics.OnWire
import ControlPlaneClient.Metrics.Rate
import ControlPlaneClient.Logs.Mirror
import ControlPlaneClient.Logs.OnWire
import ControlPlaneClient.Agent.ConfigPush
import ControlPlaneClient.Agent.Expiry
import ControlPlaneClient.Agent.Kinds
import ControlPlaneClient.Session.Reports
import ControlPlaneClient.Session.StopSignal
import ControlPlaneClient.Session.Certificates
import ControlPlaneClient.Session.Tokens
import ControlPlaneClient.Session.Finished
import ControlPlaneClient.Session.FlushRemaining
import ControlPlaneClient.Session.Waiters
import ControlPlaneClient.Session.Enrollment
import ControlPlaneClient.Session.Licences
import ControlPlaneClient.Session.HostStream
import ControlPlaneClient.Session.PayloadKeys
import ControlPlaneClient.Session.PerChannel
import ControlPlaneClient.Session.Retry
import ControlPlaneClient.Session.UplinkOrder
import ControlPlaneClient.Session.WindDown
import ControlPlaneClient.Config
