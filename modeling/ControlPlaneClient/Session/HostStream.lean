import ControlPlaneClient.Agent.Inbound
import ControlPlaneClient.Lib.Simulation
import ControlPlaneClient.Session.Delays
import ControlPlaneClient.Session.Errors

/-!
# What the host is told of the sessions

The run loop with the errors themselves in the place of their kinds, and with what it tells the host:
the `AgentEvent`s of the connection, and `channel_slot_held` of the `LicenseApplier`. It is the run
loop with its delays when the errors are forgotten, so what holds of that holds here.
-/

namespace ControlPlaneClient

open Transition

/-- The session result that an error, or none, stands for. -/
def toResult (header : String) : Option AnyError → SessionResult
  | none   => .ok ()
  | some e => .error (sessionError header e)

/-- What `run_loop` knows besides, to tell the host. -/
structure HostLoopEnv where
  loop           : LoopEnv
  /-- The name of the header with the retry time. -/
  header         : String
  /-- A `LicenseApplier` is wired. -/
  licenseApplier : Bool

/-- The run loop and what it has told the host. `sessions` is the history of the sessions that have
ended, with their errors. -/
structure HostLoop (QuotaStatus : Type) where
  delay    : DelayLoop QuotaStatus
  /-- What the session under way ends with, once that is known. -/
  error    : Option AnyError
  events   : List AgentEvent
  slotHeld : List Duration
  sessions : List (EndedSession × Option AnyError)

inductive HostLoopEvent
  /-- A connect, and the error it fails with if it does. -/
  | connect (reached : Bool) (e : AnyError)
  | openFails (e : AnyError)
  | opened
  | registered (resp : RegisterResponse) (now : DateTime)
  | inboundEnds (error : Option AnyError)
  | settle (factor : ℚ)
  /-- Any other step of the loop. -/
  | plain (e : LoopEvent)

/-- The steps that tell the host nothing and meet no error. -/
def LoopEvent.isPlain : LoopEvent → Bool
  | .connect _ | .openFails _ | .opened | .registered _ _ | .inboundEnds _ | .settle => false
  | _ => true

/-- What a session that has come to its end, or is about to, ends with. -/
def LoopPc.result? : LoopPc → Option SessionResult
  | .tearingDown r | .flushing r | .ended r => some r
  | _                                       => none

namespace HostLoop

variable {QuotaStatus : Type} (env : HostLoopEnv) (initial max : Duration)

def start (creds : Option StoredCreds) : HostLoop QuotaStatus :=
  ⟨.start env.loop initial max creds, none, [], [], []⟩

/-- A step of the loop with its delays. -/
def onDelay (s : HostLoop QuotaStatus) (e : DelayEvent) : Option (HostLoop QuotaStatus) :=
  (s.delay.step env.loop e).map fun delay => { s with delay := delay }

/-- How long a held slot is waited for. -/
def retryIn (s : HostLoop QuotaStatus) : Duration :=
  (s.error.bind (slotRetryIn env.header)).getD 0

/-- The reason the host gets for the end of a session: none for a clean one. -/
def disconnected : Option AnyError → List AgentEvent
  | none   => []
  | some e => [.channelDisconnected (describeSessionError e)]

/-- What `channel_slot_held` is called with. -/
def held (s : HostLoop QuotaStatus) : List Duration :=
  if env.licenseApplier && toResult env.header s.error == .error .slotHeld then [s.retryIn env]
  else []

def step (s : HostLoop QuotaStatus) : HostLoopEvent → Option (HostLoop QuotaStatus)
  | .connect reached e =>
    -- Neither a transport error nor a missing token is a status.
    if e.status?.isSome then none
    else do
      let s ← s.onDelay env (.other (.connect reached))
      some { s with error := if s.delay.loop.pc.result?.isSome then some e else none }
  | .openFails e => do
    let s ← s.onDelay env (.other (.openFails (sessionError env.header e)))
    some { s with error := some e }
  | .opened => do
    let s ← s.onDelay env (.other .opened)
    some { s with events := s.events ++ [.channelConnected] }
  | .registered resp now => do
    let s ← s.onDelay env (.other (.registered resp now))
    some { s with events := s.events ++ [.registered resp.instanceId] }
  | .inboundEnds error => do
    let s ← s.onDelay env (.other (.inboundEnds (toResult env.header error)))
    some { s with error := error }
  | .settle factor => do
    let t ← s.onDelay env (.settle factor (s.retryIn env))
    let session ← t.delay.ended.head?
    some { t with
      error := none
      events := s.events ++ disconnected s.error
      slotHeld := s.slotHeld ++ s.held env
      sessions := s.sessions ++ [(session, s.error)] }
  | .plain e => if e.isPlain then s.onDelay env (.other e) else none

/-- Without the errors and the host it is the loop with its delays. -/
def toDelayLoop : Simulation (@step QuotaStatus env) (fun _ _ => ([] : List Unit))
    (@DelayLoop.step QuotaStatus env.loop) (fun _ _ => []) where
  rel s d := s.delay = d
  sim {s s' d e} hrel h := by
    subst hrel
    have hone : ∃ de, s.delay.step env.loop de = some s'.delay := by
      cases e with
      | connect reached e =>
        simp only [step, onDelay] at h
        split at h
        · cases h
        · obtain ⟨t, ht, h⟩ := Option.bind_eq_some_iff.mp h
          obtain ⟨d, hd, rfl⟩ := Option.map_eq_some_iff.mp ht
          cases h
          exact ⟨_, hd⟩
      | plain e =>
        simp only [step] at h
        split at h
        · obtain ⟨d, hd, rfl⟩ := Option.map_eq_some_iff.mp h
          exact ⟨_, hd⟩
        · cases h
      | settle factor =>
        obtain ⟨t, ht, h⟩ := Option.bind_eq_some_iff.mp h
        obtain ⟨d, hd, rfl⟩ := Option.map_eq_some_iff.mp ht
        obtain ⟨_, _, h⟩ := Option.bind_eq_some_iff.mp h
        cases h
        exact ⟨_, hd⟩
      | openFails | opened | registered | inboundEnds =>
        obtain ⟨t, ht, h⟩ := Option.bind_eq_some_iff.mp h
        obtain ⟨d, hd, rfl⟩ := Option.map_eq_some_iff.mp ht
        cases h
        exact ⟨_, hd⟩
    obtain ⟨de, hde⟩ := hone
    exact ⟨[de], s'.delay, exec_cons_eq_some.mpr ⟨_, hde, rfl⟩, by simp [observed, hde], rfl⟩

/-! ### What the host is told -/

end HostLoop

/-- The session has established its Channel and is not over yet. -/
def LoopPc.afterOpen : LoopPc → Bool
  | .established | .parked _ | .tearingDown _ | .flushing _ | .ended _ => true
  | _                                                                  => false

/-- A plain step keeps the result of a session, or finds that it was stopped, and does not end it. -/
lemma RunLoop.Effect.plain {QuotaStatus : Type} {env : LoopEnv} {l l' : RunLoop QuotaStatus}
    {e : LoopEvent} (h : RunLoop.Effect env l e l') (he : e.isPlain = true) :
    (l'.pc.result? = l.pc.result? ∨ l.pc.result? = none ∧ l'.pc.result? = some (.ok ())) ∧
    (l.pc.afterOpen = true → l'.pc.afterOpen = true) := by
  cases h with
  | triggerStore => exact ⟨Or.inl rfl, id⟩
  | triggerNotify h => exact ⟨Or.inl rfl, id⟩
  | check hpc =>
    rw [hpc]
    refine ⟨Or.inl ?_, nofun⟩
    dsimp only
    split <;> rfl
  | expiry expired hpc =>
    rw [hpc]
    refine ⟨Or.inl ?_, nofun⟩
    dsimp only
    split <;> rfl
  | registerConnect reached next client hpc hc => rw [hpc]; exact ⟨Or.inl rfl, nofun⟩
  | registerUnreached reached next hpc hc => exact ⟨Or.inl rfl, id⟩
  | registerFails next hpc => rw [hpc]; exact ⟨Or.inl rfl, nofun⟩
  | park hpc => rw [hpc]; exact ⟨Or.inl rfl, fun _ => rfl⟩
  | rotation cr stored wait hpc hjwt => exact ⟨Or.inl rfl, id⟩
  | rotationIgnored cr stored wait hpc hjwt => exact ⟨Or.inl rfl, id⟩
  | notified wait hpc hd => rw [hpc]; exact ⟨Or.inr ⟨rfl, rfl⟩, fun _ => rfl⟩
  | teardown result hpc =>
    rw [hpc]
    dsimp only
    split
    · exact ⟨Or.inl rfl, fun _ => rfl⟩
    · exact ⟨Or.inl rfl, fun _ => rfl⟩
  | flushed result hpc => rw [hpc]; exact ⟨Or.inl rfl, fun _ => rfl⟩
  | wake register hpc =>
    rw [hpc]
    refine ⟨Or.inl ?_, nofun⟩
    dsimp only
    split <;> rfl
  | finish hpc => rw [hpc]; exact ⟨Or.inl rfl, nofun⟩
  | announce hpc => rw [hpc]; exact ⟨Or.inl rfl, nofun⟩
  | registered | connectFails | connectNoToken | connect | openFails | opened | inboundEnds | settle =>
    cases he

def AgentEvent.isConnection : AgentEvent → Bool
  | .channelConnected | .channelDisconnected _ => true
  | _                                          => false

namespace HostLoop

variable {QuotaStatus : Type} {env : HostLoopEnv} {initial max : Duration}

/-- What the host is told of a session that has ended. -/
def told (p : EndedSession × Option AnyError) : List AgentEvent :=
  (if p.1.established then [.channelConnected] else []) ++ disconnected p.2

/-- What the host is told of the session under way. -/
def telling (d : DelayLoop QuotaStatus) : List AgentEvent :=
  if d.established then [.channelConnected] else []

/-- A session that found its slot held slept as long as its error says. -/
def Waits (header : String) (p : EndedSession × Option AnyError) : Prop :=
  p.1.slotHeld = true →
    ∃ e d, p.2 = some e ∧ slotRetryIn header e = some d ∧ p.1.slept = (d : ℚ)

/-- The host knows of every session, with its error. -/
structure Told (env : HostLoopEnv) (s : HostLoop QuotaStatus) : Prop where
  ending  : ∀ r, s.delay.loop.pc.result? = some r → r = toResult env.header s.error
  running : s.delay.loop.pc.result? = none → s.error = none
  fresh   : s.delay.established = true → s.delay.loop.pc.afterOpen = true
  ended   : s.sessions.map Prod.fst = s.delay.ended.reverse
  results : ∀ p ∈ s.sessions, p.1.result = toResult env.header p.2
  waits   : ∀ p ∈ s.sessions, Waits env.header p
  stream  : s.events.filter AgentEvent.isConnection = s.sessions.flatMap told ++ telling s.delay
  held    : env.licenseApplier = true → s.slotHeld.map (fun d : Duration => (d : ℚ)) =
    (s.sessions.filter fun p => p.1.slotHeld).map fun p => p.1.slept

/-- What a step other than the end of a session leaves. -/
def moved (s : HostLoop QuotaStatus) (loop : RunLoop QuotaStatus) (opened : Bool)
    (error : Option AnyError) (events : List AgentEvent) : HostLoop QuotaStatus :=
  ⟨⟨loop, s.delay.backoff, s.delay.established || opened, s.delay.ended⟩, error, events,
    s.slotHeld, s.sessions⟩

/-- What the end of a session leaves. -/
def settled (env : HostLoopEnv) (s : HostLoop QuotaStatus) (delay : DelayLoop QuotaStatus)
    (session : EndedSession) : HostLoop QuotaStatus :=
  ⟨delay, none, s.events ++ disconnected s.error, s.slotHeld ++ s.held env,
    s.sessions ++ [(session, s.error)]⟩

/-- All that a step can do, by the event. -/
inductive Effect (env : HostLoopEnv) (s : HostLoop QuotaStatus) : HostLoopEvent → HostLoop QuotaStatus → Prop
  | connect (reached : Bool) (e : AnyError) (loop : RunLoop QuotaStatus)
      (hstatus : e.status?.isSome = false)
      (hloop : RunLoop.Effect env.loop s.delay.loop (.connect reached) loop) :
      Effect env s (.connect reached e)
        (s.moved loop false (if loop.pc.result?.isSome then some e else none) s.events)
  | openFails (e : AnyError) (loop : RunLoop QuotaStatus)
      (hloop : RunLoop.Effect env.loop s.delay.loop (.openFails (sessionError env.header e)) loop) :
      Effect env s (.openFails e) (s.moved loop false (some e) s.events)
  | opened (loop : RunLoop QuotaStatus)
      (hloop : RunLoop.Effect env.loop s.delay.loop .opened loop) :
      Effect env s .opened (s.moved loop true s.error (s.events ++ [.channelConnected]))
  | registered (resp : RegisterResponse) (now : DateTime) (loop : RunLoop QuotaStatus)
      (hloop : RunLoop.Effect env.loop s.delay.loop (.registered resp now) loop) :
      Effect env s (.registered resp now)
        (s.moved loop false s.error (s.events ++ [.registered resp.instanceId]))
  | inboundEnds (error : Option AnyError) (loop : RunLoop QuotaStatus)
      (hloop : RunLoop.Effect env.loop s.delay.loop
        (.inboundEnds (toResult env.header error)) loop) :
      Effect env s (.inboundEnds error) (s.moved loop false error s.events)
  | settle (factor : ℚ) (result : SessionResult) (delay : DelayLoop QuotaStatus)
      (hpc : s.delay.loop.pc = .ended result)
      (hloop : delay.loop = RunLoop.settle env.loop s.delay.loop result)
      (hest : delay.established = false)
      (hended : delay.ended = ⟨s.delay.established, result, factor,
        (DelayLoop.delayAfter s.delay.backoff factor (s.retryIn env) result).1⟩ :: s.delay.ended) :
      Effect env s (.settle factor) (s.settled env delay ⟨s.delay.established, result, factor,
        (DelayLoop.delayAfter s.delay.backoff factor (s.retryIn env) result).1⟩)
  | plain (e : LoopEvent) (loop : RunLoop QuotaStatus) (he : e.isPlain = true)
      (hloop : RunLoop.Effect env.loop s.delay.loop e loop) :
      Effect env s (.plain e) (s.moved loop e.isOpened s.error s.events)

/-- A step of the loop other than the end of a session. -/
lemma onDelay_other {s t : HostLoop QuotaStatus} {e : LoopEvent}
    (h : s.onDelay env (.other e) = some t) :
    ∃ loop, RunLoop.Effect env.loop s.delay.loop e loop ∧
      t = s.moved loop e.isOpened s.error s.events := by
  obtain ⟨d, hd, rfl⟩ := Option.map_eq_some_iff.mp h
  unfold DelayLoop.step at hd
  split at hd
  · next heq => cases heq
  · cases hd
  · next e' hne heq =>
    cases heq
    obtain ⟨loop, hloop, hd⟩ := Option.bind_eq_some_iff.mp hd
    cases hd
    exact ⟨loop, RunLoop.step_effect env.loop hloop, rfl⟩

/-- The end of a session. -/
lemma onDelay_settle {s t : HostLoop QuotaStatus} {factor : ℚ} {retryIn : Duration}
    (h : s.onDelay env (.settle factor retryIn) = some t) :
    ∃ result loop, s.delay.loop.pc = .ended result ∧
      loop = RunLoop.settle env.loop s.delay.loop result ∧
      t = { s with delay := ⟨loop, (DelayLoop.delayAfter s.delay.backoff factor retryIn result).2,
        false, ⟨s.delay.established, result, factor,
          (DelayLoop.delayAfter s.delay.backoff factor retryIn result).1⟩ :: s.delay.ended⟩ } := by
  obtain ⟨d, hd, rfl⟩ := Option.map_eq_some_iff.mp h
  simp only [DelayLoop.step] at hd
  split at hd
  · next result hpc =>
    split at hd
    · obtain ⟨loop, hloop, hd⟩ := Option.bind_eq_some_iff.mp hd
      cases hd
      refine ⟨result, loop, hpc, ?_, rfl⟩
      cases RunLoop.step_effect env.loop hloop with
      | settle result' hpc' =>
        rw [hpc] at hpc'
        cases hpc'
        rfl
    · cases hd
  · cases hd

lemma step_effect {s s' : HostLoop QuotaStatus} {e : HostLoopEvent} (h : s.step env e = some s') :
    Effect env s e s' := by
  cases e with
  | connect reached e =>
    simp only [step] at h
    split at h
    · cases h
    · next hstatus =>
      obtain ⟨t, ht, h⟩ := Option.bind_eq_some_iff.mp h
      obtain ⟨loop, heff, rfl⟩ := onDelay_other ht
      cases h
      exact .connect reached e loop (by simpa using hstatus) heff
  | openFails e =>
    obtain ⟨t, ht, h⟩ := Option.bind_eq_some_iff.mp h
    obtain ⟨loop, heff, rfl⟩ := onDelay_other ht
    cases h
    exact .openFails e loop heff
  | opened =>
    obtain ⟨t, ht, h⟩ := Option.bind_eq_some_iff.mp h
    obtain ⟨loop, heff, rfl⟩ := onDelay_other ht
    cases h
    exact .opened loop heff
  | registered resp now =>
    obtain ⟨t, ht, h⟩ := Option.bind_eq_some_iff.mp h
    obtain ⟨loop, heff, rfl⟩ := onDelay_other ht
    cases h
    exact .registered resp now loop heff
  | inboundEnds error =>
    obtain ⟨t, ht, h⟩ := Option.bind_eq_some_iff.mp h
    obtain ⟨loop, heff, rfl⟩ := onDelay_other ht
    cases h
    exact .inboundEnds error loop heff
  | settle factor =>
    obtain ⟨t, ht, h⟩ := Option.bind_eq_some_iff.mp h
    obtain ⟨result, loop, hpc, hloop, rfl⟩ := onDelay_settle ht
    cases h
    exact .settle factor result _ hpc hloop rfl rfl
  | plain e =>
    simp only [step] at h
    split at h
    · next he =>
      obtain ⟨loop, heff, rfl⟩ := onDelay_other h
      exact .plain e loop he heff
    · cases h

/-! ### What one step keeps -/

/-- Before its Channel is established a session has not counted as such. -/
lemma Told.not_established {s : HostLoop QuotaStatus} (hs : s.Told env)
    (hpc : s.delay.loop.pc.afterOpen = false) : s.delay.established = false := by
  by_contra hest
  rw [hs.fresh (by simpa using hest)] at hpc
  cases hpc

/-- A step that ends no session. -/
lemma Told.onward {s : HostLoop QuotaStatus} {loop : RunLoop QuotaStatus} {opened : Bool}
    {error : Option AnyError} {events : List AgentEvent} (hs : s.Told env)
    (hending : ∀ r, loop.pc.result? = some r → r = toResult env.header error)
    (hrunning : loop.pc.result? = none → error = none)
    (hfresh : (s.delay.established || opened) = true → loop.pc.afterOpen = true)
    (hstream : events.filter AgentEvent.isConnection =
      s.sessions.flatMap told ++ telling (s.moved loop opened error events).delay) :
    (s.moved loop opened error events).Told env :=
  ⟨hending, hrunning, hfresh, hs.ended, hs.results, hs.waits, hstream, hs.held⟩

/-- A step that tells the host nothing of a Channel. -/
lemma Told.silent {s : HostLoop QuotaStatus} {loop : RunLoop QuotaStatus}
    {error : Option AnyError} {events : List AgentEvent} (hs : s.Told env)
    (hending : ∀ r, loop.pc.result? = some r → r = toResult env.header error)
    (hrunning : loop.pc.result? = none → error = none)
    (hfresh : s.delay.established = true → loop.pc.afterOpen = true)
    (hevents : events.filter AgentEvent.isConnection = s.events.filter AgentEvent.isConnection) :
    (s.moved loop false error events).Told env := by
  have hsame : (s.delay.established || false) = s.delay.established := Bool.or_false _
  apply hs.onward hending hrunning
  · rw [hsame]
    exact hfresh
  · rw [hevents, hs.stream, telling, telling, moved, hsame]

lemma step_told_connect {s : HostLoop QuotaStatus} {reached : Bool} {e : AnyError}
    {loop : RunLoop QuotaStatus} (hs : s.Told env) (hstatus : e.status?.isSome = false)
    (hloop : RunLoop.Effect env.loop s.delay.loop (.connect reached) loop) :
    (s.moved loop false (if loop.pc.result?.isSome then some e else none) s.events).Told env := by
  have hfailed : toResult env.header (some e) = .error .other := by
    have hnone : e.status? = none := by simpa using hstatus
    simp [toResult, sessionError, isCredentialRejection, slotRetryIn, hnone]
  cases hloop with
  | connectFails reached hpc hc =>
    refine hs.silent ?_ ?_ (fun _ => rfl) rfl
    · intro r hr
      cases hr
      exact hfailed.symm
    · intro hnone
      cases hnone
  | connectNoToken reached client hpc hc ha =>
    refine hs.silent ?_ ?_ (fun _ => rfl) rfl
    · intro r hr
      cases hr
      exact hfailed.symm
    · intro hnone
      cases hnone
  | connect reached client transport jwt hpc hc ha =>
    refine hs.silent ?_ (fun _ => rfl) ?_ rfl
    · intro r hr
      cases hr
    · intro hest
      rw [hs.not_established (by rw [hpc]; rfl)] at hest
      cases hest

lemma step_told_opened {s : HostLoop QuotaStatus} {loop : RunLoop QuotaStatus} (hs : s.Told env)
    (hloop : RunLoop.Effect env.loop s.delay.loop .opened loop) :
    (s.moved loop true s.error (s.events ++ [.channelConnected])).Told env := by
  cases hloop with
  | opened transport jwt hpc =>
    have hest := hs.not_established (by rw [hpc]; rfl)
    refine hs.onward nofun ?_ ?_ ?_
    · intro _
      exact hs.running (by rw [hpc]; rfl)
    · intro _
      rfl
    · simp [hs.stream, telling, moved, hest, AgentEvent.isConnection]

/-- A step of the loop that is neither an end of a session nor one that the host is told of. -/
lemma step_told_plain {s : HostLoop QuotaStatus} {e : LoopEvent} {loop : RunLoop QuotaStatus}
    (hs : s.Told env) (he : e.isPlain = true)
    (hloop : RunLoop.Effect env.loop s.delay.loop e loop) :
    (s.moved loop e.isOpened s.error s.events).Told env := by
  have hopened : e.isOpened = false := by
    cases e <;> first | rfl | cases he
  obtain ⟨hresult, hafter⟩ := hloop.plain he
  rw [hopened]
  apply hs.silent _ _ (fun hest => hafter (hs.fresh hest)) rfl
  · intro r hr
    rcases hresult with hsame | ⟨hnone, hclean⟩
    · exact hs.ending r (hsame ▸ hr)
    · rw [hclean] at hr
      cases hr
      rw [hs.running hnone]
      rfl
  · intro hnone
    rcases hresult with hsame | ⟨_, hclean⟩
    · exact hs.running (hsame ▸ hnone)
    · rw [hclean] at hnone
      cases hnone

/-- The sleep after a session that found its slot held, and its record. -/
lemma Told.waits_new {s : HostLoop QuotaStatus} (hs : s.Told env) {result : SessionResult}
    (hpc : s.delay.loop.pc = .ended result) (established : Bool) (factor : ℚ) :
    Waits env.header (⟨established, result, factor,
      (DelayLoop.delayAfter s.delay.backoff factor (s.retryIn env) result).1⟩, s.error) := by
  intro hslot
  have hresult : result = .error .slotHeld := by simpa [EndedSession.slotHeld] using hslot
  have herror := hs.ending result (by rw [hpc]; rfl)
  rw [hresult] at herror
  cases he : s.error with
  | none =>
    rw [he] at herror
    cases herror
  | some e =>
    rw [he] at herror
    obtain ⟨d, hd⟩ := sessionError_eq_slotHeld_iff.mp (Except.error.inj herror).symm
    refine ⟨e, d, rfl, hd, ?_⟩
    rw [hresult, DelayLoop.delayAfter, retryIn, he, Option.bind_some, hd, Option.getD_some]

lemma step_told_settle {s : HostLoop QuotaStatus} {factor : ℚ} {result : SessionResult}
    {delay : DelayLoop QuotaStatus} (hs : s.Told env) (hpc : s.delay.loop.pc = .ended result)
    (hloop : delay.loop = RunLoop.settle env.loop s.delay.loop result)
    (hest : delay.established = false)
    (hended : delay.ended = ⟨s.delay.established, result, factor,
      (DelayLoop.delayAfter s.delay.backoff factor (s.retryIn env) result).1⟩ :: s.delay.ended) :
    (s.settled env delay ⟨s.delay.established, result, factor,
      (DelayLoop.delayAfter s.delay.backoff factor (s.retryIn env) result).1⟩).Told env := by
  have hresult := hs.ending result (by rw [hpc]; rfl)
  have hnone : delay.loop.pc.result? = none := by
    rw [hloop]
    exact RunLoop.settle_induction env.loop s.delay.loop result rfl fun _ _ => rfl
  have hwaits := hs.waits_new hpc s.delay.established factor
  refine ⟨?_, fun _ => rfl, ?_, ?_, ?_, ?_, ?_, ?_⟩
  · intro r hr
    rw [settled, hnone] at hr
    cases hr
  · rw [settled, hest]
    nofun
  · simp [settled, hended, hs.ended]
  · intro p hp
    rcases List.mem_append.mp hp with hp | hp
    · exact hs.results p hp
    · cases List.mem_singleton.mp hp
      exact hresult
  · intro p hp
    rcases List.mem_append.mp hp with hp | hp
    · exact hs.waits p hp
    · cases List.mem_singleton.mp hp
      exact hwaits
  · have hconn : (disconnected s.error).filter AgentEvent.isConnection = disconnected s.error := by
      cases s.error <;> rfl
    simp [settled, hs.stream, telling, told, hest, hconn]
  · intro hwired
    rw [settled, List.map_append, hs.held hwired, List.filter_append, List.map_append]
    congr 1
    rw [HostLoop.held, hwired, ← hresult]
    by_cases hslot : result = .error .slotHeld
    · subst hslot
      simp [EndedSession.slotHeld, DelayLoop.delayAfter]
    · simp [EndedSession.slotHeld, hslot]

lemma step_told {s s' : HostLoop QuotaStatus} {e : HostLoopEvent} (hs : s.Told env)
    (h : s.step env e = some s') : s'.Told env := by
  cases step_effect h with
  | connect reached e loop hstatus hloop => exact step_told_connect hs hstatus hloop
  | openFails e loop hloop =>
    cases hloop with
    | openFails _ transport jwt hpc =>
      refine hs.silent ?_ nofun (fun _ => rfl) rfl
      intro r hr
      cases hr
      rfl
  | opened loop hloop => exact step_told_opened hs hloop
  | registered resp now loop hloop =>
    cases hloop with
    | registered _ _ next hpc =>
      have hnone : next.pc.result? = none := by cases next <;> rfl
      refine hs.silent ?_ (fun _ => hs.running (by rw [hpc]; rfl)) ?_ ?_
      · intro r hr
        rw [hnone] at hr
        cases hr
      · intro hest
        rw [hs.not_established (by rw [hpc]; rfl)] at hest
        cases hest
      · simp [AgentEvent.isConnection]
  | inboundEnds error loop hloop =>
    cases hloop with
    | inboundEnds _ wait hpc =>
      refine hs.silent ?_ nofun (fun _ => rfl) rfl
      intro r hr
      cases hr
      rfl
  | settle factor result delay hpc hloop hest hended =>
    exact step_told_settle hs hpc hloop hest hended
  | plain e loop he hloop => exact step_told_plain hs he hloop

lemma start_told (env : HostLoopEnv) (initial max : Duration) (creds : Option StoredCreds) :
    (start env initial max creds : HostLoop QuotaStatus).Told env := by
  have hnone : (RunLoop.start env.loop creds : RunLoop QuotaStatus).pc.result? = none := by
    cases creds with
    | some creds => rfl
    | none =>
      rw [RunLoop.start]
      dsimp only
      split <;> rfl
  rw [start, DelayLoop.start]
  constructor
  case ending =>
    intro r hr
    rw [hnone] at hr
    cases hr
  all_goals simp [telling]

variable (env)

lemma exec_told {creds : Option StoredCreds} {es : List HostLoopEvent} {s : HostLoop QuotaStatus}
    (h : exec (step env) (start env initial max creds) es = some s) : s.Told env :=
  exec_invariant (fun _ _ _ hs hstep => step_told hs hstep) (start_told env initial max creds) h

/-- In every run the host hears of each session once and in order: that its Channel connected, if it
did, and unless it ended cleanly the reason of its own error. The sessions are those of the loop, each
with the result that its error stands for, and a run of the loop with its delays leads there. A wired
`LicenseApplier` is told of every refused session how long the loop sleeps. -/
theorem told_in_order (initial max : Duration) (creds : Option StoredCreds) (es : List HostLoopEvent)
    (s : HostLoop QuotaStatus) (h : exec (step env) (start env initial max creds) es = some s) :
    s.events.filter AgentEvent.isConnection = s.sessions.flatMap told ++ telling s.delay ∧
    s.sessions.map Prod.fst = s.delay.ended.reverse ∧
    (∀ p ∈ s.sessions, p.1.result = toResult env.header p.2) ∧
    (∃ ds, exec (DelayLoop.step env.loop) (.start env.loop initial max creds) ds = some s.delay) ∧
    (env.licenseApplier = true → s.slotHeld.map (fun d : Duration => (d : ℚ)) =
      (s.sessions.filter fun p => p.1.slotHeld).map fun p => p.1.slept) := by
  have hs := exec_told env h
  obtain ⟨ds, d, hrun, -, rfl⟩ := (toDelayLoop env).run rfl h
  exact ⟨hs.stream, hs.ended, hs.results, ⟨ds, hrun⟩, hs.held⟩

/-- A wired `LicenseApplier`. -/
def wiredHost : HostLoopEnv := ⟨RunLoop.sampleLoop, "retry-after", true⟩

/-- The refusal of a second Channel, with the time to wait. -/
def refusal : AnyError :=
  AnyError.context ⟨.status ⟨.alreadyExists, "slot", [("retry-after", " 1500".toUTF8.toList)]⟩, []⟩
    "channel"

/-- A session whose stream ends in an error, and one that is refused. -/
def refused : List HostLoopEvent :=
  [.plain .check, .plain (.expiry false), .connect true ⟨.other "", []⟩, .opened, .plain .park,
    .inboundEnds (some ⟨.other "stream closed", []⟩), .plain .teardown, .settle 1, .plain .wake,
    .plain .check, .plain (.expiry false), .connect true ⟨.other "", []⟩, .openFails refusal,
    .settle 1]

/-- The sessions of that run. -/
lemma exec_refused : (exec (step wiredHost) (start wiredHost (Duration.ofSecs 1)
    (Duration.ofSecs 60) (some sampleCreds) : HostLoop Unit) refused).map sessions =
      some [(⟨true, .error .other, 1, 1_000_000_000⟩, some ⟨.other "stream closed", []⟩),
        (⟨false, .error .slotHeld, 1, 1_750_000_000⟩, some refusal)] := by
  decide +kernel

theorem told_in_order_refused :
    ∃ s : HostLoop Unit, exec (step wiredHost) (start wiredHost (Duration.ofSecs 1)
        (Duration.ofSecs 60) (some sampleCreds)) refused = some s ∧
      s.events.filter AgentEvent.isConnection = s.sessions.flatMap told ++ telling s.delay ∧
      s.sessions.flatMap told = [.channelConnected, .channelDisconnected "stream closed",
        .channelDisconnected "AlreadyExists: slot"] ∧
      s.slotHeld.map (fun d : Duration => (d : ℚ)) = [1_750_000_000] := by
  obtain ⟨s, hs, hsessions⟩ := Option.map_eq_some_iff.mp exec_refused
  obtain ⟨hstream, -, -, -, hheld⟩ := told_in_order wiredHost _ _ _ _ s hs
  refine ⟨s, hs, hstream, ?_, ?_⟩
  · rw [hsessions]
    decide +kernel
  · rw [hheld rfl, hsessions]
    decide +kernel

/-- A session that the control plane refused because another Channel holds the slot is always taken for
that, wherever in its error the status lies. The loop then sleeps no longer than it may, and past the
time named, however it is padded, unless that is too long. -/
theorem refused_session_waits (initial max : Duration) (creds : Option StoredCreds)
    (es : List HostLoopEvent) (s : HostLoop QuotaStatus)
    (h : exec (step env) (start env initial max creds) es = some s) (x : EndedSession) (e : AnyError)
    (status : Status) (hx : (x, some e) ∈ s.sessions) (hstatus : e.status? = some status)
    (hcode : status.code = .alreadyExists) :
    x.slotHeld = true ∧ (slotRetryMargin : ℚ) ≤ x.slept ∧ x.slept ≤ (maxSlotRetry : ℚ) ∧
    ∀ value l r freesIn, status.metadata.lookup env.header = some value →
      headerText value = some (l ++ Nat.toDigits 10 freesIn ++ r) →
      (∀ c ∈ l, c.isWhitespace) → (∀ c ∈ r, c.isWhitespace) →
      Duration.ofMillis freesIn < maxSlotRetry → (Duration.ofMillis freesIn : ℚ) < x.slept := by
  have hs := exec_told env h
  have hretry : slotRetryIn env.header e = some (status.slotFreesIn env.header) :=
    slotRetryIn_eq_some_iff.mpr ⟨status, hstatus, hcode, rfl⟩
  have hslot : x.slotHeld = true := by
    have hresult : x.result = toResult env.header (some e) := hs.results _ hx
    rw [toResult, sessionError_of_slotRetryIn hretry] at hresult
    simp [EndedSession.slotHeld, hresult]
  have hslept : x.slept = (status.slotFreesIn env.header : ℚ) := by
    obtain ⟨e', d, he', hd, hslept⟩ := hs.waits _ hx hslot
    cases he'
    rw [hretry] at hd
    cases hd
    exact hslept
  rw [hslept]
  refine ⟨hslot, ?_, ?_, ?_⟩
  · exact Nat.cast_le.mpr (margin_le_slotFreesIn env.header status)
  · exact Nat.cast_le.mpr (slotFreesIn_le env.header status)
  · intro value l r freesIn hvalue htext hl hr hshort
    have hbound : freesIn < 2 ^ 64 := by
      have hnanos : freesIn * 1_000_000 < 125 * 1_000_000_000 := hshort
      omega
    have hnamed : status.retryAfter env.header = some freesIn := by
      rw [Status.retryAfter, hvalue, Option.bind_eq_bind, Option.bind_some, htext,
        Option.bind_eq_bind, Option.bind_some]
      exact Decimal.parse_trim_toDigits hbound hl hr
    exact Nat.cast_lt.mpr (named_lt_slotFreesIn hnamed hshort)

theorem refused_session_waits_named :
    ∃ (s : HostLoop Unit) (x : EndedSession), exec (step wiredHost) (start wiredHost
        (Duration.ofSecs 1) (Duration.ofSecs 60) (some sampleCreds)) refused = some s ∧
      (x, some refusal) ∈ s.sessions ∧ (Duration.ofMillis 1500 : ℚ) < x.slept := by
  obtain ⟨s, hs, hsessions⟩ := Option.map_eq_some_iff.mp exec_refused
  have hmem : (⟨false, .error .slotHeld, 1, 1_750_000_000⟩, some refusal) ∈ s.sessions := by
    rw [hsessions]
    simp
  obtain ⟨-, -, -, hpast⟩ := refused_session_waits wiredHost _ _ _ _ s hs _ refusal
    ⟨.alreadyExists, "slot", [("retry-after", " 1500".toUTF8.toList)]⟩ hmem rfl rfl
  refine ⟨s, _, hs, hmem, hpast " 1500".toUTF8.toList [' '] [] 1500 rfl ?_ ?_ nofun ?_⟩
  · decide +kernel
  · simp [Char.isWhitespace]
  · decide

end HostLoop

end ControlPlaneClient
