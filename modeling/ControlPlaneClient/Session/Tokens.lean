import ControlPlaneClient.Agent.Token
import ControlPlaneClient.Session.RunLoop

/-!
# The tokens that are presented

`run_loop` looks at the expiry of its token once in each iteration, before the session. The token
itself can change in three places: with the creds found at boot, by a registration, and by a
rotation in the middle of a session. Every way from one of them to the next Channel leads through
that look.
-/

namespace ControlPlaneClient

open Transition

/-- The run loop with the clock of its iteration and the tokens registered in it. -/
structure TokenLoop (QuotaStatus : Type) where
  loop   : RunLoop QuotaStatus
  /-- The reading of the clock, in seconds. -/
  now    : ℤ
  issued : List String

inductive TokenEvent
  /-- The look at the token, when the clock shows `now`. -/
  | expiry (now : DateTime)
  | other (e : LoopEvent)

/-- The tokens registered in the iteration, after an event. The check begins a new iteration. -/
def LoopEvent.issuedAfter (issued : List String) : LoopEvent → List String
  | .check             => []
  | .registered resp _ => resp.instanceJwt :: issued
  | _                  => issued

namespace TokenLoop

variable {QuotaStatus : Type} (env : LoopEnv) (reader : TokenReader) (heartbeatInterval : Duration)

def start (creds : Option StoredCreds) : TokenLoop QuotaStatus := ⟨.start env creds, 0, []⟩

/-- Whether the token of the client has to be replaced. -/
def expired (c : AgentClient) (now : ℤ) : Bool :=
  expiresWithin (c.jwt.bind (jwtExp reader)) now (tokenRefreshWindow heartbeatInterval)

def step (s : TokenLoop QuotaStatus) : TokenEvent → Option (TokenLoop QuotaStatus)
  | .expiry now => do
    let loop ← s.loop.step env
      (.expiry (expired reader heartbeatInterval s.loop.runner.client now.timestamp))
    some { s with loop := loop, now := now.timestamp }
  | .other (.expiry _) => none
  | .other e => do
    let loop ← s.loop.step env e
    some { s with loop := loop, issued := e.issuedAfter s.issued }

/-- The token may be presented: it is valid beyond the window, or was registered just now. -/
def Presentable (s : TokenLoop QuotaStatus) (jwt : String) : Prop :=
  (∃ exp, jwtExp reader jwt = some exp ∧
    ((tokenRefreshWindow heartbeatInterval).asSecs : ℤ) < exp - s.now) ∨ jwt ∈ s.issued

/-- The token was looked at, and the Channel is not open yet. -/
def presents : LoopPc → Bool
  | .connecting | .opening _ _ => true
  | _ => false

/-- Past the look at the token, the client has one that may be presented. -/
structure Current (s : TokenLoop QuotaStatus) : Prop where
  connecting : s.loop.pc = .connecting → ∀ jwt, s.loop.runner.client.jwt = some jwt →
    s.Presentable reader heartbeatInterval jwt
  opening    : ∀ t jwt, s.loop.pc = .opening t jwt → s.Presentable reader heartbeatInterval jwt

section Invariant

variable {env reader heartbeatInterval}

lemma Current.away {s : TokenLoop QuotaStatus} (h : presents s.loop.pc = false) :
    s.Current reader heartbeatInterval := by
  constructor
  · intro hpc
    rw [hpc] at h
    cases h
  · intro t jwt hpc
    rw [hpc] at h
    cases h

lemma expiry_current {s : TokenLoop QuotaStatus} {loop : RunLoop QuotaStatus} {now : DateTime}
    (htoken : env.hasToken = true) (hwindow : (tokenRefreshWindow heartbeatInterval).asSecs < 2 ^ 63)
    (h : s.loop.step env
      (.expiry (expired reader heartbeatInterval s.loop.runner.client now.timestamp)) = some loop) :
    ({ s with loop := loop, now := now.timestamp } : TokenLoop QuotaStatus).Current reader
      heartbeatInterval := by
  cases RunLoop.step_effect env h with
  | expiry expired hpc =>
    rw [htoken, Bool.and_true]
    cases hexp : expired reader heartbeatInterval s.loop.runner.client now.timestamp with
    | true => exact .away rfl
    | false =>
      obtain ⟨exp, hread, hlt⟩ := lt_sub_of_not_expiresWithin hwindow hexp
      refine ⟨?_, nofun⟩
      intro hpc jwt hjwt
      dsimp only at hjwt
      rw [hjwt] at hread
      exact Or.inl ⟨exp, hread, hlt⟩

lemma jwt_installCreds (base64 : Base64.Engine) (creds : StoredCreds)
    (r : AgentRunner QuotaStatus) :
    (installCreds base64 creds r).client.jwt = some creds.instanceJwt := by
  simp only [installCreds]
  split <;> rfl

/-- Steps that issue no token and begin no iteration. -/
lemma Current.frame {s : TokenLoop QuotaStatus} (h : s.Current reader heartbeatInterval)
    {loop : RunLoop QuotaStatus} (hpc : loop.pc = s.loop.pc)
    (hjwt : loop.runner.client.jwt = s.loop.runner.client.jwt) :
    ({ s with loop := loop } : TokenLoop QuotaStatus).Current reader heartbeatInterval := by
  constructor
  · intro hconnecting jwt hj
    exact h.connecting (hpc.symm.trans hconnecting) jwt (hjwt.symm.trans hj)
  · intro t jwt hopening
    exact h.opening t jwt (hpc.symm.trans hopening)

lemma Current.other {s : TokenLoop QuotaStatus} {e : LoopEvent} {loop : RunLoop QuotaStatus}
    (hs : s.Current reader heartbeatInterval) (hlook : ∀ expired, e ≠ .expiry expired)
    (h : RunLoop.Effect env s.loop e loop) :
    ({ s with loop := loop, issued := e.issuedAfter s.issued } : TokenLoop QuotaStatus).Current
      reader heartbeatInterval := by
  cases h with
  | triggerStore => exact hs.frame rfl rfl
  | triggerNotify h => exact hs.frame rfl rfl
  | check hpc =>
    apply Current.away
    dsimp only
    split <;> rfl
  | expiry expired hpc => exact absurd rfl (hlook expired)
  | registerConnect reached next client hpc hc => exact .away rfl
  | registerUnreached reached next hpc hc => exact hs.frame rfl rfl
  | registerFails next hpc => exact .away rfl
  | registered resp now next hpc =>
    cases next with
    | top => exact .away rfl
    | session =>
      -- The token is the one that was just issued.
      refine ⟨?_, nofun⟩
      intro _ jwt hjwt
      dsimp only at hjwt
      rw [jwt_installCreds] at hjwt
      cases hjwt
      exact Or.inr (List.mem_cons_self ..)
  | connectFails reached hpc hc => exact .away rfl
  | connectNoToken reached client hpc hc ha => exact .away rfl
  | connect reached client t jwt hpc hc ha =>
    refine ⟨nofun, ?_⟩
    intro t' jwt' hopening
    cases hopening
    refine hs.connecting hpc jwt ?_
    rw [← AgentClient.connect_jwt hc]
    exact (AgentClient.authedClient_eq_some_iff.mp ha).2
  | openFails e t jwt hpc => exact .away rfl
  | opened t jwt hpc => exact .away rfl
  | park hpc => exact .away rfl
  | rotation cr stored wait hpc hjwt =>
    apply Current.away
    dsimp only
    rw [hpc]
    rfl
  | rotationIgnored cr stored wait hpc hjwt => exact hs.frame rfl rfl
  | inboundEnds result wait hpc => exact .away rfl
  | notified wait hpc hd => exact .away rfl
  | teardown result hpc =>
    apply Current.away
    dsimp only
    split <;> rfl
  | flushed result hpc => exact .away rfl
  | settle result hpc =>
    exact RunLoop.settle_induction env _ result (.away rfl) fun _ _ => .away rfl
  | wake register hpc => cases register <;> exact .away rfl
  | finish hpc => exact .away rfl
  | announce hpc => exact .away rfl

lemma step_current {s s' : TokenLoop QuotaStatus} {e : TokenEvent} (htoken : env.hasToken = true)
    (hwindow : (tokenRefreshWindow heartbeatInterval).asSecs < 2 ^ 63)
    (hs : s.Current reader heartbeatInterval)
    (h : s.step env reader heartbeatInterval e = some s') :
    s'.Current reader heartbeatInterval := by
  unfold step at h
  split at h
  · obtain ⟨loop, hloop, h⟩ := Option.bind_eq_some_iff.mp h
    cases h
    exact expiry_current htoken hwindow hloop
  · cases h
  · rename_i e hlook
    obtain ⟨loop, hloop, h⟩ := Option.bind_eq_some_iff.mp h
    cases h
    exact hs.other hlook (RunLoop.step_effect env hloop)

lemma start_current (creds : Option StoredCreds) :
    (start env creds : TokenLoop QuotaStatus).Current reader heartbeatInterval := by
  cases creds with
  | some creds => exact .away rfl
  | none =>
    apply Current.away
    simp only [start, RunLoop.start]
    split <;> rfl

end Invariant

/-- A stale token is never presented. With a token to enrol with, whenever a Channel is opened, the
token it presents has a readable `exp` further off than the refresh window, by the clock of the
iteration, or was issued by a registration of that iteration. -/
theorem presents_fresh_token (htoken : env.hasToken = true)
    (hheartbeat : heartbeatInterval < Duration.ofSecs (2 ^ 61)) (creds : Option StoredCreds)
    (es : List TokenEvent) (s : TokenLoop QuotaStatus)
    (h : exec (step env reader heartbeatInterval) (start env creds) es = some s) (t : Transport)
    (jwt : String) (hpc : s.loop.pc = .opening t jwt) :
    (∃ exp, jwtExp reader jwt = some exp ∧
      exp - s.now > ((tokenRefreshWindow heartbeatInterval).asSecs : ℤ)) ∨ jwt ∈ s.issued := by
  have hwindow := tokenRefreshWindow_asSecs_lt hheartbeat
  have hcurrent : s.Current reader heartbeatInterval :=
    exec_invariant (fun _ _ _ hs hstep => step_current htoken hwindow hs hstep)
      (start_current creds) h
  exact hcurrent.opening t jwt hpc

/-- The claims of a token that expires at 5000 seconds. -/
def sampleClaims : Bytes := utf8Bytes "\x7b\"exp\":5000\x7d"

/-- The decoders on the payload of that token. -/
def sampleReader : TokenReader where
  urlSafe payload := if payload = "eyJleHAiOjUwMDB9" then some sampleClaims else none
  json bytes :=
    if bytes = sampleClaims then some (.object [("exp", .number (.posInt 5000))]) else none

/-- Creds with that token. -/
def expiringCreds : StoredCreds := { sampleCreds with instanceJwt := "e30.eyJleHAiOjUwMDB9.c2ln" }

/-- At 1000 seconds the token is presented as it is. -/
theorem presents_fresh_token_from_disk :
    ∃ (s : TokenLoop Unit) (t : Transport),
      exec (step RunLoop.sampleLoop sampleReader (Duration.ofSecs 15))
        (start RunLoop.sampleLoop (some expiringCreds))
        [.other .check, .expiry 1_000_000_000_000, .other (.connect true)] = some s ∧
      s.loop.pc = .opening t "e30.eyJleHAiOjUwMDB9.c2ln" ∧ s.issued = [] ∧
      ((∃ exp, jwtExp sampleReader "e30.eyJleHAiOjUwMDB9.c2ln" = some exp ∧
        exp - s.now > ((tokenRefreshWindow (Duration.ofSecs 15)).asSecs : ℤ)) ∨
        "e30.eyJleHAiOjUwMDB9.c2ln" ∈ s.issued) := by
  have hrun : ∃ (s : TokenLoop Unit) (t : Transport),
      exec (step RunLoop.sampleLoop sampleReader (Duration.ofSecs 15))
        (start RunLoop.sampleLoop (some expiringCreds))
        [.other .check, .expiry 1_000_000_000_000, .other (.connect true)] = some s ∧
      s.loop.pc = .opening t "e30.eyJleHAiOjUwMDB9.c2ln" ∧ s.issued = [] :=
    ⟨_, _, rfl, rfl, rfl⟩
  obtain ⟨s, t, hs, hpc, hissued⟩ := hrun
  exact ⟨s, t, hs, hpc, hissued, presents_fresh_token RunLoop.sampleLoop sampleReader
    (Duration.ofSecs 15) rfl (by decide) (some expiringCreds) _ s hs t _ hpc⟩

end TokenLoop

end ControlPlaneClient
