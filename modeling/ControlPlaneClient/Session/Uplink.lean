import ControlPlaneClient.Agent.Inbound
import ControlPlaneClient.Agent.Status
import ControlPlaneClient.Lib.Mailbox
import ControlPlaneClient.Lib.Simulation
import ControlPlaneClient.Session.Reconnect

/-!
# What goes up the Channels

The tasks of `run_session` that share its outbound queue: the heartbeat ticker, `status_loop`, the
reader with its acks, the two flush loops and the flush of a shutdown. A process opens one Channel
after the other; each has tasks and a queue of its own. The hash of the applied config outlives the
Channels.

What a Channel has not sent when it ends is discarded. That is an assumption about the transport, which
may still deliver it as long as the other side keeps reading.

A task is taken apart where it awaits: between the arrival of an update and its ack the host may be
asked for a snapshot, and between the making of a message and the moment the queue has room for it
any other task may run.
-/

namespace ControlPlaneClient

open Transition

/-- A message, with the number of hashes that had been in force when it was made. -/
structure Sent where
  message : AgentMessage
  version : ℕ

/-- The tasks that flush. What they await besides the queue is not followed here. -/
inductive FlushTask
  | metrics | logs
  /-- `flush_remaining`. -/
  | shutdown
  deriving DecidableEq

/-- The tasks that send. -/
inductive Sender
  | heartbeat | status | reader
  | flush (t : FlushTask)
  deriving DecidableEq

/-- Where the heartbeat ticker stands, with the number of its last heartbeat. -/
inductive HeartbeatPhase
  | ticking (seq : ℕ)
  | sending (seq : ℕ)

/-- Where `status_loop` stands. -/
inductive StatusPhase
  | ticking
  /-- Awaiting the host's snapshot. -/
  | snapshotting
  | sending

/-- Where `read_inbound` stands, as far as config updates go. -/
inductive ReaderPhase (Bundle : Type)
  | reading
  /-- Awaiting the host's applier. -/
  | applying (u : ConfigUpdate Bundle)
  | acking

/-- The tasks of an open Channel. -/
structure ChannelTasks (Bundle : Type) where
  heartbeat : HeartbeatPhase
  /-- `none` when no `StatusSource` is wired. -/
  status    : Option StatusPhase
  reader    : ReaderPhase Bundle

/-- A process and its Channels. `applied` is the history of the hashes in force and `updates` that of
the config updates, each with its Channel. -/
structure Uplink (Bundle QuotaStatus : Type) where
  runner   : AgentRunner QuotaStatus
  tasks    : Option (ChannelTasks Bundle)
  outbound : Mailbox Sender Sent
  applied  : List String
  updates  : List (ℕ × ConfigUpdate Bundle)
  events   : List AgentEvent

inductive UplinkEvent (Bundle : Type)
  | opens
  /-- The Channel is over, however it came to that. -/
  | ends
  /-- The transport takes the next message. -/
  | take
  | flush (t : FlushTask) (m : MetricsReport ⊕ LogBatch)
  | flushSent (t : FlushTask)
  /-- The heartbeat ticker fires. -/
  | beat (now : DateTime)
  | beatSent
  | statusTick
  /-- The host answers with a snapshot. -/
  | snapshot (snap : StatusSnapshot) (now : DateTime)
  | reported
  | update (u : ConfigUpdate Bundle)
  /-- The host's applier answers, if there is one to ask. -/
  | applied (out : Outside)
  | acked

/-- `u64::saturating_add` of one. -/
def nextSeq (seq : ℕ) : ℕ := min (seq + 1) (2 ^ 64 - 1)

namespace Uplink

variable {Bundle QuotaStatus : Type} (env : AgentEnv Bundle) (statusSource : Bool)

/-- A process that has not opened a Channel yet. The hash in force is that of the preloaded config. -/
def init (r : AgentRunner QuotaStatus) : Uplink Bundle QuotaStatus :=
  ⟨r, none, .new outboundCap, r.appliedConfigHash.toList, [], []⟩

/-- What the tasks of a Channel start with. -/
def freshTasks : ChannelTasks Bundle :=
  ⟨.ticking 0, if statusSource then some .ticking else none, .reading⟩

/-- A message made now. -/
def sent (s : Uplink Bundle QuotaStatus) (m : AgentMessage) : Sent := ⟨m, s.applied.length⟩

/-- The update has the process run its hash. -/
def applies (u : ConfigUpdate Bundle) (out : Outside) : Bool :=
  (appliedState (applyOutcome env u out)).1 = "active" ∧ u.configHash ≠ ""

/-- The hashes in force after an update. -/
def note (u : ConfigUpdate Bundle) (out : Outside) (applied : List String) : List String :=
  if applies env u out then applied ++ [u.configHash] else applied

def step (s : Uplink Bundle QuotaStatus) (e : UplinkEvent Bundle) :
    Option (Uplink Bundle QuotaStatus) :=
  match e, s.tasks with
  | .opens, none => do
    let outbound ← s.outbound.step .opens
    some { s with outbound := outbound, tasks := some (freshTasks statusSource) }
  | .ends, some _ => do
    let outbound ← s.outbound.step .closes
    some { s with outbound := outbound, tasks := none }
  | .take, some _ => do
    let outbound ← s.outbound.step .take
    some { s with outbound := outbound }
  | .flush t m, some _ => do
    let outbound ← s.outbound.step (.send (.flush t) (s.sent (m.elim .metricsReport .logBatch)))
    some { s with outbound := outbound }
  | .flushSent t, some _ => do
    let outbound ← s.outbound.step (.push (.flush t))
    some { s with outbound := outbound }
  | .beat now, some ⟨.ticking seq, status, reader⟩ => do
    let h : Heartbeat := ⟨stampSeconds now, nextSeq seq, "ok"⟩
    let outbound ← s.outbound.step (.send .heartbeat (s.sent (.heartbeat h)))
    some { s with outbound := outbound, tasks := some ⟨.sending h.seq, status, reader⟩ }
  | .beatSent, some ⟨.sending seq, status, reader⟩ => do
    let outbound ← s.outbound.step (.push .heartbeat)
    some { s with
      outbound := outbound
      tasks := some ⟨.ticking seq, status, reader⟩
      events := s.events ++ [.heartbeatSent seq] }
  | .statusTick, some ⟨heartbeat, some .ticking, reader⟩ =>
    some { s with tasks := some ⟨heartbeat, some .snapshotting, reader⟩ }
  | .snapshot snap now, some ⟨heartbeat, some .snapshotting, reader⟩ => do
    let outbound ← s.outbound.step
      (.send .status (s.sent (.statusReport (s.runner.statusReport snap now))))
    some { s with outbound := outbound, tasks := some ⟨heartbeat, some .sending, reader⟩ }
  | .reported, some ⟨heartbeat, some .sending, reader⟩ => do
    let outbound ← s.outbound.step (.push .status)
    some { s with outbound := outbound, tasks := some ⟨heartbeat, some .ticking, reader⟩ }
  | .update u, some ⟨heartbeat, status, .reading⟩ =>
    some { s with
      tasks := some ⟨heartbeat, status, .applying u⟩
      updates := s.updates ++ [(s.outbound.round, u)] }
  | .applied out, some ⟨heartbeat, status, .applying u⟩ => do
    let applied := note env u out s.applied
    let outbound ← s.outbound.step
      (.send .reader ⟨.configAck (configAck env u out), applied.length⟩)
    some { s with
      runner := noteApplied env u out s.runner
      tasks := some ⟨heartbeat, status, .acking⟩
      outbound := outbound
      applied := applied
      events := s.events ++ [.configReceived u.configHash] }
  | .acked, some ⟨heartbeat, status, .acking⟩ => do
    let outbound ← s.outbound.step (.push .reader)
    some { s with outbound := outbound, tasks := some ⟨heartbeat, status, .reading⟩ }
  | _, _ => none

/-! ### What a step does -/

/-- All that a step can do, by the event. -/
inductive Effect (s : Uplink Bundle QuotaStatus) :
    UplinkEvent Bundle → Uplink Bundle QuotaStatus → Prop
  | opens {o : Mailbox Sender Sent} (ht : s.tasks = none) (ho : s.outbound.step .opens = some o) :
      Effect s .opens { s with outbound := o, tasks := some (freshTasks statusSource) }
  | ends {o : Mailbox Sender Sent} (ho : s.outbound.step .closes = some o) :
      Effect s .ends { s with outbound := o, tasks := none }
  | take {o : Mailbox Sender Sent} (ho : s.outbound.step .take = some o) :
      Effect s .take { s with outbound := o }
  | flush (t : FlushTask) (m : MetricsReport ⊕ LogBatch) {o : Mailbox Sender Sent}
      (ho : s.outbound.step
        (.send (.flush t) (s.sent (m.elim .metricsReport .logBatch))) = some o) :
      Effect s (.flush t m) { s with outbound := o }
  | flushSent (t : FlushTask) {o : Mailbox Sender Sent}
      (ho : s.outbound.step (.push (.flush t)) = some o) :
      Effect s (.flushSent t) { s with outbound := o }
  | beat (now : DateTime) {seq : ℕ} {status : Option StatusPhase} {reader : ReaderPhase Bundle}
      {o : Mailbox Sender Sent} (ht : s.tasks = some ⟨.ticking seq, status, reader⟩)
      (ho : s.outbound.step (.send .heartbeat
        (s.sent (.heartbeat ⟨stampSeconds now, nextSeq seq, "ok"⟩))) = some o) :
      Effect s (.beat now)
        { s with outbound := o, tasks := some ⟨.sending (nextSeq seq), status, reader⟩ }
  | beatSent {seq : ℕ} {status : Option StatusPhase} {reader : ReaderPhase Bundle}
      {o : Mailbox Sender Sent} (ht : s.tasks = some ⟨.sending seq, status, reader⟩)
      (ho : s.outbound.step (.push .heartbeat) = some o) :
      Effect s .beatSent { s with
        outbound := o
        tasks := some ⟨.ticking seq, status, reader⟩
        events := s.events ++ [.heartbeatSent seq] }
  | statusTick {heartbeat : HeartbeatPhase} {reader : ReaderPhase Bundle}
      (ht : s.tasks = some ⟨heartbeat, some .ticking, reader⟩) :
      Effect s .statusTick { s with tasks := some ⟨heartbeat, some .snapshotting, reader⟩ }
  | snapshot (snap : StatusSnapshot) (now : DateTime) {heartbeat : HeartbeatPhase}
      {reader : ReaderPhase Bundle} {o : Mailbox Sender Sent}
      (ht : s.tasks = some ⟨heartbeat, some .snapshotting, reader⟩)
      (ho : s.outbound.step
        (.send .status (s.sent (.statusReport (s.runner.statusReport snap now)))) = some o) :
      Effect s (.snapshot snap now)
        { s with outbound := o, tasks := some ⟨heartbeat, some .sending, reader⟩ }
  | reported {heartbeat : HeartbeatPhase} {reader : ReaderPhase Bundle} {o : Mailbox Sender Sent}
      (ht : s.tasks = some ⟨heartbeat, some .sending, reader⟩)
      (ho : s.outbound.step (.push .status) = some o) :
      Effect s .reported
        { s with outbound := o, tasks := some ⟨heartbeat, some .ticking, reader⟩ }
  | update (u : ConfigUpdate Bundle) {heartbeat : HeartbeatPhase} {status : Option StatusPhase}
      (ht : s.tasks = some ⟨heartbeat, status, .reading⟩) :
      Effect s (.update u) { s with
        tasks := some ⟨heartbeat, status, .applying u⟩
        updates := s.updates ++ [(s.outbound.round, u)] }
  | applied (out : Outside) {heartbeat : HeartbeatPhase} {status : Option StatusPhase}
      {u : ConfigUpdate Bundle} {o : Mailbox Sender Sent}
      (ht : s.tasks = some ⟨heartbeat, status, .applying u⟩)
      (ho : s.outbound.step (.send .reader
        ⟨.configAck (configAck env u out), (note env u out s.applied).length⟩) = some o) :
      Effect s (.applied out) { s with
        runner := noteApplied env u out s.runner
        tasks := some ⟨heartbeat, status, .acking⟩
        outbound := o
        applied := note env u out s.applied
        events := s.events ++ [.configReceived u.configHash] }
  | acked {heartbeat : HeartbeatPhase} {status : Option StatusPhase} {o : Mailbox Sender Sent}
      (ht : s.tasks = some ⟨heartbeat, status, .acking⟩)
      (ho : s.outbound.step (.push .reader) = some o) :
      Effect s .acked { s with outbound := o, tasks := some ⟨heartbeat, status, .reading⟩ }

variable {env statusSource}

lemma step_effect {s s' : Uplink Bundle QuotaStatus} {e : UplinkEvent Bundle}
    (h : s.step env statusSource e = some s') : Effect env statusSource s e s' := by
  unfold step at h
  split at h
  case h_1 ht => obtain ⟨o, ho, h⟩ := Option.bind_eq_some_iff.mp h; cases h; exact .opens ht ho
  case h_2 => obtain ⟨o, ho, h⟩ := Option.bind_eq_some_iff.mp h; cases h; exact .ends ho
  case h_3 => obtain ⟨o, ho, h⟩ := Option.bind_eq_some_iff.mp h; cases h; exact .take ho
  case h_4 t m ht =>
    obtain ⟨o, ho, h⟩ := Option.bind_eq_some_iff.mp h; cases h; exact .flush _ _ ho
  case h_5 => obtain ⟨o, ho, h⟩ := Option.bind_eq_some_iff.mp h; cases h; exact .flushSent _ ho
  case h_6 ht =>
    obtain ⟨o, ho, h⟩ := Option.bind_eq_some_iff.mp h; cases h; exact .beat _ ht ho
  case h_7 ht =>
    obtain ⟨o, ho, h⟩ := Option.bind_eq_some_iff.mp h; cases h; exact .beatSent ht ho
  case h_8 ht => cases h; exact .statusTick ht
  case h_9 ht =>
    obtain ⟨o, ho, h⟩ := Option.bind_eq_some_iff.mp h; cases h; exact .snapshot _ _ ht ho
  case h_10 ht =>
    obtain ⟨o, ho, h⟩ := Option.bind_eq_some_iff.mp h; cases h; exact .reported ht ho
  case h_11 ht => cases h; exact .update _ ht
  case h_12 ht =>
    obtain ⟨o, ho, h⟩ := Option.bind_eq_some_iff.mp h; cases h; exact .applied _ ht ho
  case h_13 ht =>
    obtain ⟨o, ho, h⟩ := Option.bind_eq_some_iff.mp h; cases h; exact .acked ht ho
  case h_14 => cases h

/-- The queues of the Channels are one mailbox, and each step leaves it alone or is one of its own. -/
def toMailbox : Simulation (@step Bundle QuotaStatus env statusSource) (fun _ _ => ([] : List Unit))
    (@Mailbox.step Sender Sent _) (fun _ _ => []) where
  rel s b := s.outbound = b
  sim {s s' b e} hrel h := by
    subst hrel
    cases step_effect h with
    | statusTick ht => exact ⟨[], _, rfl, rfl, rfl⟩
    | update u ht => exact ⟨[], _, rfl, rfl, rfl⟩
    | opens _ ho | ends ho | take ho | flush _ _ ho | flushSent _ ho | beat _ _ ho | beatSent _ ho
    | snapshot _ _ _ ho | reported _ ho | applied _ _ ho | acked _ ho =>
      exact ⟨[_], _, exec_cons_eq_some.mpr ⟨_, ho, rfl⟩, by simp [observed, ho], rfl⟩

/-- The outbound queues of a run are a run of the mailbox. -/
lemma exec_outbound {r : AgentRunner QuotaStatus} {es : List (UplinkEvent Bundle)}
    {s : Uplink Bundle QuotaStatus} (h : exec (step env statusSource) (init r) es = some s) :
    ∃ bes, exec Mailbox.step (.new outboundCap) bes = some s.outbound := by
  have hrel : (@toMailbox Bundle QuotaStatus env statusSource).rel (init r) (.new outboundCap) := rfl
  obtain ⟨bes, b, hb, -, rfl⟩ := toMailbox.run hrel h
  exact ⟨bes, hb⟩

end Uplink

end ControlPlaneClient
