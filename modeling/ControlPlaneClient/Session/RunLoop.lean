import ControlPlaneClient.Agent.Rotation
import ControlPlaneClient.Lib.Notify

/-!
# The run loop

`run_loop` and `run_session` of `agent.rs` with the calls of `AgentShutdown::trigger`, interleaved
at every point where one of them can be suspended or reads what the other writes. What the network,
the clock and the files answer is part of the events, so every answer is possible.

Of the server's messages only the credential rotations change what is modelled here.
-/

namespace ControlPlaneClient

/-- How `run_loop` tells the errors of a session apart. -/
inductive SessionError
  /-- `is_credential_rejection`. -/
  | rejected
  /-- `slot_retry_in`: another Channel of the instance holds its slot. -/
  | slotHeld
  | other
  deriving DecidableEq

abbrev SessionResult := Except SessionError Unit

/-- What follows a registration: the top of the loop, or the session that it was made for. -/
inductive Next
  | top | session
  deriving DecidableEq

/-- Where `run_loop` stands. -/
inductive LoopPc
  /-- At the top of the loop, about to read `stopping`. -/
  | top
  /-- About to look at the expiry of the token. -/
  | expiry
  /-- In `register_fresh`, about to connect. -/
  | registering (next : Next)
  /-- The Register call is in flight. -/
  | requesting (next : Next)
  /-- In `authed_client`, about to connect. -/
  | connecting
  /-- The Channel is being opened over a transport, with a token. -/
  | opening (transport : Transport) (jwt : String)
  /-- The Channel is established; the wait for a shutdown does not exist yet. -/
  | established
  /-- In the `select!` between the server's messages and the shutdown. -/
  | parked (wait : Notify.Notified)
  /-- The tasks are aborted; about to read `stopping`. -/
  | tearingDown (result : SessionResult)
  /-- In `flush_remaining`. -/
  | flushing (result : SessionResult)
  /-- `run_session` has returned. -/
  | ended (result : SessionResult)
  /-- In a backoff or slot sleep, with a registration to follow or not. -/
  | sleeping (register : Bool)
  /-- About to set `shutdown_finished`. -/
  | finishing
  /-- About to notify `shutdown_done`. -/
  | announcing
  /-- `run_loop` has returned `Ok`. -/
  | stopped
  /-- `run` has returned an error: there is nothing to register with. -/
  | failed

def Next.pc : Next → LoopPc
  | .top     => .top
  | .session => .connecting

structure RunLoop (QuotaStatus : Type) where
  pc         : LoopPc
  runner     : AgentRunner QuotaStatus
  stopping   : Bool
  shutdown   : Notify
  /-- The calls of `trigger` that have set `stopping` and not yet notified. -/
  triggering : ℕ
  finished   : Bool
  done       : Notify

inductive LoopEvent
  /-- A call of `trigger` sets `stopping`. -/
  | triggerStore
  /-- It notifies the waiters. -/
  | triggerNotify
  | check
  /-- The token is expired or about to. -/
  | expiry (expired : Bool)
  | registerConnect (reached : Bool)
  | registerFails
  | registered (resp : RegisterResponse) (now : DateTime)
  | connect (reached : Bool)
  | openFails (e : SessionError)
  | opened
  /-- `select!` creates the wait for the shutdown. -/
  | park
  /-- A rotation arrives; `stored` is what reading the creds file back gives. -/
  | rotation (cr : CredentialRotation) (stored : Option StoredCreds)
  | inboundEnds (result : SessionResult)
  /-- The wait for the shutdown is over. -/
  | notified
  | teardown
  | flushed
  /-- `run_loop` acts on the result of the session. -/
  | settle
  | wake
  | finish
  | announce

def LoopEvent.isNotify : LoopEvent → Bool
  | .triggerNotify => true
  | _              => false

def LoopEvent.isSettle : LoopEvent → Bool
  | .settle => true
  | _       => false

/-- What `run_loop` knows from the configuration. -/
structure LoopEnv where
  base64   : Base64.Engine
  cfg      : AgentRunnerConfig
  /-- `extract_token` finds a token in the enrollment URL. -/
  hasToken : Bool

namespace RunLoop

variable {QuotaStatus : Type} (env : LoopEnv)

/-- `run` with the creds it finds on disk. -/
def start (creds : Option StoredCreds) : RunLoop QuotaStatus where
  pc :=
    match creds with
    | some _ => .top
    | none   => if env.hasToken then .registering .top else .failed
  runner :=
    match creds with
    | some creds => installCreds env.base64 creds (boot env.cfg)
    | none       => boot env.cfg
  stopping := false
  shutdown := .new
  triggering := 0
  finished := false
  done := .new

def withClient (s : RunLoop QuotaStatus) (client : AgentClient) : RunLoop QuotaStatus :=
  { s with runner := { s.runner with client := client } }

/-- What `run_loop` does after a session. A clean end and a held slot keep the transport. -/
def settle (s : RunLoop QuotaStatus) : SessionResult → RunLoop QuotaStatus
  | .ok () => { s with pc := .top }
  | .error .rejected =>
    { s.withClient s.runner.client.reset with pc := .sleeping env.hasToken }
  | .error .slotHeld => { s with pc := .sleeping false }
  | .error .other => { s.withClient s.runner.client.reset with pc := .sleeping false }

def step (s : RunLoop QuotaStatus) (e : LoopEvent) : Option (RunLoop QuotaStatus) :=
  match e, s.pc with
  | .triggerStore, _ => some { s with stopping := true, triggering := s.triggering + 1 }
  | .triggerNotify, _ =>
    if 0 < s.triggering then
      some { s with shutdown := s.shutdown.notifyWaiters, triggering := s.triggering - 1 }
    else none
  | .check, .top => some { s with pc := if s.stopping then .finishing else .expiry }
  | .expiry expired, .expiry =>
    some { s with pc := if expired && env.hasToken then .registering .session else .connecting }
  | .registerConnect reached, .registering next =>
    match s.runner.client.connect reached with
    | some client => some { s.withClient client with pc := .requesting next }
    | none        => some s
  | .registerFails, .requesting next => some { s with pc := .registering next }
  | .registered resp now, .requesting next =>
    some { s with
      runner := installCreds env.base64 (resp.toCreds env.base64 now) s.runner
      pc := next.pc }
  | .connect reached, .connecting =>
    match s.runner.client.connect reached with
    | none        => some { s with pc := .ended (.error .other) }
    | some client =>
      match client.authedClient with
      | some (transport, jwt) => some { s.withClient client with pc := .opening transport jwt }
      | none                  => some { s.withClient client with pc := .ended (.error .other) }
  | .openFails e, .opening _ _ => some { s with pc := .ended (.error e) }
  | .opened, .opening _ _ => some { s with pc := .established }
  | .park, .established => some { s with pc := .parked s.shutdown.notified }
  | .rotation cr stored, .parked _ =>
    if cr.instanceJwt ≠ "" then some { s with runner := rotateRunner cr stored s.runner } else some s
  | .inboundEnds result, .parked _ => some { s with pc := .tearingDown result }
  | .notified, .parked wait =>
    if s.shutdown.delivered wait then some { s with pc := .tearingDown (.ok ()) } else none
  | .teardown, .tearingDown result =>
    some { s with pc := if s.stopping then .flushing result else .ended result }
  | .flushed, .flushing result => some { s with pc := .ended result }
  | .settle, .ended result => some (settle env s result)
  | .wake, .sleeping register =>
    some { s with pc := if register then .registering .top else .top }
  | .finish, .finishing => some { s with finished := true, pc := .announcing }
  | .announce, .announcing => some { s with done := s.done.notifyWaiters, pc := .stopped }
  | _, _ => none

/-! ### What a step does -/

/-- A session leaves the loop at its top or asleep, with nothing else changed but the client. -/
@[elab_as_elim]
lemma settle_induction {motive : RunLoop QuotaStatus → Prop} (s : RunLoop QuotaStatus)
    (result : SessionResult) (top : motive { s with pc := .top })
    (sleeping : ∀ client register,
      motive { s.withClient client with pc := .sleeping register }) :
    motive (s.settle env result) := by
  match result with
  | .ok () => exact top
  | .error .rejected => exact sleeping s.runner.client.reset env.hasToken
  | .error .slotHeld => exact sleeping s.runner.client false
  | .error .other => exact sleeping s.runner.client.reset false

/-- All that a step can do, by the event. -/
inductive Effect (s : RunLoop QuotaStatus) : LoopEvent → RunLoop QuotaStatus → Prop
  | triggerStore :
      Effect s .triggerStore { s with stopping := true, triggering := s.triggering + 1 }
  | triggerNotify (h : 0 < s.triggering) :
      Effect s .triggerNotify
        { s with shutdown := s.shutdown.notifyWaiters, triggering := s.triggering - 1 }
  | check (hpc : s.pc = .top) :
      Effect s .check { s with pc := if s.stopping then .finishing else .expiry }
  | expiry (expired : Bool) (hpc : s.pc = .expiry) :
      Effect s (.expiry expired)
        { s with pc := if expired && env.hasToken then .registering .session else .connecting }
  | registerConnect (reached : Bool) (next : Next) (client : AgentClient)
      (hpc : s.pc = .registering next) (hc : s.runner.client.connect reached = some client) :
      Effect s (.registerConnect reached) { s.withClient client with pc := .requesting next }
  | registerUnreached (reached : Bool) (next : Next) (hpc : s.pc = .registering next)
      (hc : s.runner.client.connect reached = none) : Effect s (.registerConnect reached) s
  | registerFails (next : Next) (hpc : s.pc = .requesting next) :
      Effect s .registerFails { s with pc := .registering next }
  | registered (resp : RegisterResponse) (now : DateTime) (next : Next)
      (hpc : s.pc = .requesting next) :
      Effect s (.registered resp now) { s with
        runner := installCreds env.base64 (resp.toCreds env.base64 now) s.runner
        pc := next.pc }
  | connectFails (reached : Bool) (hpc : s.pc = .connecting)
      (hc : s.runner.client.connect reached = none) :
      Effect s (.connect reached) { s with pc := .ended (.error .other) }
  | connectNoToken (reached : Bool) (client : AgentClient) (hpc : s.pc = .connecting)
      (hc : s.runner.client.connect reached = some client) (ha : client.authedClient = none) :
      Effect s (.connect reached) { s.withClient client with pc := .ended (.error .other) }
  | connect (reached : Bool) (client : AgentClient) (transport : Transport) (jwt : String)
      (hpc : s.pc = .connecting) (hc : s.runner.client.connect reached = some client)
      (ha : client.authedClient = some (transport, jwt)) :
      Effect s (.connect reached) { s.withClient client with pc := .opening transport jwt }
  | openFails (e : SessionError) (transport : Transport) (jwt : String)
      (hpc : s.pc = .opening transport jwt) :
      Effect s (.openFails e) { s with pc := .ended (.error e) }
  | opened (transport : Transport) (jwt : String) (hpc : s.pc = .opening transport jwt) :
      Effect s .opened { s with pc := .established }
  | park (hpc : s.pc = .established) :
      Effect s .park { s with pc := .parked s.shutdown.notified }
  | rotation (cr : CredentialRotation) (stored : Option StoredCreds) (wait : Notify.Notified)
      (hpc : s.pc = .parked wait) (hjwt : cr.instanceJwt ≠ "") :
      Effect s (.rotation cr stored) { s with runner := rotateRunner cr stored s.runner }
  | rotationIgnored (cr : CredentialRotation) (stored : Option StoredCreds)
      (wait : Notify.Notified) (hpc : s.pc = .parked wait) (hjwt : cr.instanceJwt = "") :
      Effect s (.rotation cr stored) s
  | inboundEnds (result : SessionResult) (wait : Notify.Notified) (hpc : s.pc = .parked wait) :
      Effect s (.inboundEnds result) { s with pc := .tearingDown result }
  | notified (wait : Notify.Notified) (hpc : s.pc = .parked wait)
      (hd : s.shutdown.delivered wait = true) :
      Effect s .notified { s with pc := .tearingDown (.ok ()) }
  | teardown (result : SessionResult) (hpc : s.pc = .tearingDown result) :
      Effect s .teardown { s with pc := if s.stopping then .flushing result else .ended result }
  | flushed (result : SessionResult) (hpc : s.pc = .flushing result) :
      Effect s .flushed { s with pc := .ended result }
  | settle (result : SessionResult) (hpc : s.pc = .ended result) :
      Effect s .settle (settle env s result)
  | wake (register : Bool) (hpc : s.pc = .sleeping register) :
      Effect s .wake { s with pc := if register then .registering .top else .top }
  | finish (hpc : s.pc = .finishing) :
      Effect s .finish { s with finished := true, pc := .announcing }
  | announce (hpc : s.pc = .announcing) :
      Effect s .announce { s with done := s.done.notifyWaiters, pc := .stopped }

lemma step_effect {s s' : RunLoop QuotaStatus} {e : LoopEvent} (h : s.step env e = some s') :
    Effect env s e s' := by
  unfold step at h
  split at h
  case h_1 => cases h; exact .triggerStore
  case h_2 =>
    split at h
    · cases h; exact .triggerNotify ‹_›
    · cases h
  case h_3 hpc => cases h; exact .check hpc
  case h_4 expired hpc => cases h; exact .expiry expired hpc
  case h_5 reached next hpc =>
    split at h
    · cases h; exact .registerConnect reached next _ hpc ‹_›
    · cases h; exact .registerUnreached reached next hpc ‹_›
  case h_6 next hpc => cases h; exact .registerFails next hpc
  case h_7 resp now next hpc => cases h; exact .registered resp now next hpc
  case h_8 reached hpc =>
    split at h
    · cases h; exact .connectFails reached hpc ‹_›
    · split at h
      · cases h; exact .connect reached _ _ _ hpc ‹_› ‹_›
      · cases h; exact .connectNoToken reached _ hpc ‹_› ‹_›
  case h_9 e t j hpc => cases h; exact .openFails e t j hpc
  case h_10 t j hpc => cases h; exact .opened t j hpc
  case h_11 hpc => cases h; exact .park hpc
  case h_12 cr stored wait hpc =>
    split at h
    · cases h; exact .rotation cr stored wait hpc ‹_›
    · cases h; exact .rotationIgnored cr stored wait hpc (not_not.mp ‹_›)
  case h_13 result wait hpc => cases h; exact .inboundEnds result wait hpc
  case h_14 wait hpc =>
    split at h
    · cases h; exact .notified wait hpc ‹_›
    · cases h
  case h_15 result hpc => cases h; exact .teardown result hpc
  case h_16 result hpc => cases h; exact .flushed result hpc
  case h_17 result hpc => cases h; exact .settle result hpc
  case h_18 register hpc => cases h; exact .wake register hpc
  case h_19 hpc => cases h; exact .finish hpc
  case h_20 hpc => cases h; exact .announce hpc
  case h_21 => cases h

/-- An agent with an enrollment token, on an `https` endpoint. -/
def sampleLoop : LoopEnv := ⟨Base64.standard, ⟨"https://cp.example:7844", none⟩, true⟩

end RunLoop

end ControlPlaneClient
