import ControlPlaneClient.Agent.LicenseCrash
import ControlPlaneClient.Agent.Token
import ControlPlaneClient.Session.StateDir

/-!
# Licences and their Channels

The proof of a delivery names the nonce of the Channel that it came down and the instance which that
Channel was authenticated as. `run_session` puts the nonce into its request. The token goes in later,
from the client that `authed_client` made, and the uid is read from the token that the agent holds
after that. Rotations replace that token in the middle of a session.
-/

namespace ControlPlaneClient

open FileSystem Transition

def JsonValue.asStr : JsonValue → Option String
  | .string s => some s
  | _         => none

/-- The `instance_uid` claim of a token. -/
def jwtInstanceUid (reader : TokenReader) (jwt : String) : Option String := do
  let claims ← jwtClaims reader jwt
  let claim ← claims.get "instance_uid"
  let uid ← claim.asStr
  if trim uid ≠ "" then some (trim uid) else none

/-! ### The request -/

inductive MetadataKey
  | deliveryNonce | agentVersion | agentProcess | agentHeartbeat | instanceToken
  deriving DecidableEq

/-- `tonic::metadata::MetadataMap`. -/
abbrev Metadata := MetadataKey → Option String

/-- What the agent tells the control plane when it opens a Channel. -/
structure ChannelMetadata where
  nonce     : String
  version   : String
  process   : String
  heartbeat : Duration

/-- What the sessions use from outside. -/
structure ChannelEnv (Bundle : Type) where
  host   : HostEnv Bundle
  reader : TokenReader
  /-- `MetadataValue::try_from` takes the value. It refuses control characters, and takes what is
  beyond ASCII. -/
  ascii  : String → Bool

section Request

variable {Bundle : Type} (env : ChannelEnv Bundle)

/-- A value that `MetadataValue::try_from` refuses is not sent. -/
def insertAscii (metadata : Metadata) (entry : MetadataKey × String) : Metadata :=
  if env.ascii entry.2 then Function.update metadata entry.1 (some entry.2) else metadata

def insertChannelMetadata (metadata : Metadata) (channel : ChannelMetadata) : Metadata :=
  [(.deliveryNonce, channel.nonce), (.agentVersion, channel.version),
    (.agentProcess, channel.process),
    (.agentHeartbeat, toString (channel.heartbeat / 1_000_000))].foldl (insertAscii env) metadata

/-- `JwtInterceptor::call`. -/
def jwtInterceptor (jwt : String) (metadata : Metadata) : Option Metadata :=
  if env.ascii jwt then some (Function.update metadata .instanceToken (some jwt)) else none

/-- A value as it is sent, if it can be. -/
def sendable (value : String) : Option String := if env.ascii value then some value else none

lemma insertAscii_of_ne {metadata : Metadata} {key other : MetadataKey} {value : String}
    (h : key ≠ other) : insertAscii env metadata (other, value) key = metadata key := by
  rw [insertAscii]
  split_ifs
  · exact Function.update_of_ne h ..
  · rfl

lemma insertChannelMetadata_nonce (channel : ChannelMetadata) :
    insertChannelMetadata env (fun _ => none) channel .deliveryNonce =
      sendable env channel.nonce := by
  simp only [insertChannelMetadata, List.foldl_cons, List.foldl_nil]
  rw [insertAscii_of_ne env (by decide), insertAscii_of_ne env (by decide),
    insertAscii_of_ne env (by decide), insertAscii, sendable]
  split_ifs
  · exact Function.update_self ..
  · rfl

lemma jwtInterceptor_eq_some {jwt : String} {metadata sent : Metadata}
    (h : jwtInterceptor env jwt metadata = some sent) :
    sent .instanceToken = some jwt ∧ sent .deliveryNonce = metadata .deliveryNonce := by
  rw [jwtInterceptor] at h
  split_ifs at h
  cases h
  exact ⟨Function.update_self .., Function.update_of_ne (by decide) ..⟩

end Request

/-! ### Sessions -/

/-- How far `run_session` is with its Channel. -/
inductive Opening
  | idle
  /-- The request is built, and `authed_client` was called. -/
  | requested (nonce : String) (request : Metadata)
  /-- The uid is read. -/
  | identified (nonce instanceUid : String) (request : Metadata)
  /-- The Channel is open, and `sent` is what the control plane got with it. -/
  | opened (binding : ChannelBinding) (sent : Metadata)

/-- The processes on a state directory with their Channels. -/
structure Channels (Bundle QuotaStatus : Type) where
  dir     : StateDir QuotaStatus
  opening : Opening
  /-- The messages, each with what was sent when its Channel was opened. -/
  arrived : List (Metadata × ServerMessage Bundle QuotaStatus)
  /-- What was handed to the `LicenseApplier`, each with the message that was handled then. -/
  applied : List ((Metadata × ServerMessage Bundle QuotaStatus) × LicenseDelivery)

inductive ChannelEvent (Bundle QuotaStatus : Type)
  /-- `run_session` draws a nonce, builds its request and calls `authed_client`. -/
  | connect (channel : ChannelMetadata) (reached : Bool)
  /-- It reads the uid of the token that the agent holds. -/
  | identify
  | opened
  | openFails (e : SessionError)
  | message (msg : ServerMessage Bundle QuotaStatus) (out : Outside)
  | other (e : HostEvent Bundle QuotaStatus)

namespace Channels

variable {Bundle QuotaStatus : Type} (env : ChannelEnv Bundle)

def start (files : Files StateFile) : Channels Bundle QuotaStatus := ⟨.start files, .idle, [], []⟩

def loopPc (s : Channels Bundle QuotaStatus) : Option LoopPc := s.dir.process.map (·.loop.pc)

/-- What one message makes the agent hand to the host. -/
def hands (s : Channels Bundle QuotaStatus) (binding : ChannelBinding)
    (msg : ServerMessage Bundle QuotaStatus) (out : Outside) (answers : List Answer) :
    List LicenseDelivery :=
  match s.dir.process with
  | some p =>
    match (runFaulty (handle env.host.agent binding msg out p.loop.runner) answers
        ⟨s.dir.files, []⟩).1 with
    | some ((_, actions, _), _) => handed actions
    | none                      => []
  | none => []

/-- An event, with what happens to its file operations. -/
def step (s : Channels Bundle QuotaStatus) :
    ChannelEvent Bundle QuotaStatus × List Answer → Option (Channels Bundle QuotaStatus)
  | (.connect channel reached, answers) => do
    let dir ← s.dir.step env.host (.loop (.connect reached), answers)
    some { s with
      dir := dir
      opening := .requested channel.nonce (insertChannelMetadata env (fun _ => none) channel) }
  | (.identify, _) =>
    match s.opening, s.dir.process with
    | .requested nonce request, some p =>
      match p.loop.pc with
      | .opening _ _ =>
        let uid := (p.loop.runner.client.jwt.bind (jwtInstanceUid env.reader)).getD ""
        some { s with opening := .identified nonce uid request }
      | _ => none
    | _, _ => none
  | (.opened, answers) =>
    match s.opening, s.loopPc with
    | .identified nonce uid request, some (.opening _ jwt) => do
      let sent ← jwtInterceptor env jwt request
      let dir ← s.dir.step env.host (.loop .opened, answers)
      some { s with dir := dir, opening := .opened ⟨nonce, uid⟩ sent }
    | _, _ => none
  | (.openFails e, answers) =>
    match s.opening with
    | .identified _ _ _ => do
      let dir ← s.dir.step env.host (.loop (.openFails e), answers)
      some { s with dir := dir }
    | _ => none
  | (.message msg out, answers) =>
    match s.opening with
    | .opened binding sent => do
      let dir ← s.dir.step env.host (.message binding msg out, answers)
      some { s with
        dir := dir
        arrived := s.arrived ++ [(sent, msg)]
        applied := s.applied ++ (s.hands env binding msg out answers).map ((sent, msg), ·) }
    | _ => none
  | (.other (.loop (.connect _)), _) | (.other (.loop .opened), _)
  | (.other (.loop (.openFails _)), _) | (.other (.message _ _ _), _) => none
  | (.other e, answers) => do
    let dir ← s.dir.step env.host (e, answers)
    some { s with dir := dir }

end Channels

/-! ### What is tied to a Channel -/

section Tied

variable {Bundle QuotaStatus : Type} (env : ChannelEnv Bundle)

/-- The binding is made of what was sent: of the nonce, which is sent if it can be, and of the token
that was presented. -/
structure ChannelBinding.Of (binding : ChannelBinding) (sent : Metadata) : Prop where
  nonce       : sent .deliveryNonce = sendable env binding.nonce
  instanceUid : ∃ jwt, sent .instanceToken = some jwt ∧
    binding.instanceUid = (jwtInstanceUid env.reader jwt).getD ""

/-- The delivery is the update with the nonce that was sent when its Channel was opened and the uid
of the token that was presented then. -/
structure LicenseDelivery.Bound (d : LicenseDelivery) (sent : Metadata) (u : LicenseUpdate) :
    Prop where
  update      : d.licenseJwt = u.licenseJwt ∧ d.orgSlug = u.orgSlug ∧
    d.refreshFailing = u.refreshFailing ∧ d.deliveryProof = u.deliveryProof
  nonce       : sent .deliveryNonce = sendable env d.channelNonce
  instanceUid : ∃ jwt, sent .instanceToken = some jwt ∧
    d.instanceUid = (jwtInstanceUid env.reader jwt).getD ""

variable {env}

lemma ChannelBinding.Of.bound {binding : ChannelBinding} {sent : Metadata} (h : binding.Of env sent)
    (u : LicenseUpdate) : (delivery binding u).Bound env sent u :=
  ⟨⟨rfl, rfl, rfl, rfl⟩, h.nonce, h.instanceUid⟩

/-- A Channel is about to be opened with a token by a step of the connection, which takes the one
that the client holds, or was so before and the agent is the same. -/
lemma RunLoop.step_opening {env : LoopEnv} {s s' : RunLoop QuotaStatus} {e : LoopEvent}
    {t : Transport} {jwt : String} (h : s.step env e = some s') (hpc : s'.pc = .opening t jwt) :
    (∃ reached, e = .connect reached) ∧ s'.runner.client.jwt = some jwt ∨
      s.pc = .opening t jwt ∧ s'.runner = s.runner := by
  cases step_effect env h with
  | triggerStore => exact Or.inr ⟨hpc, rfl⟩
  | triggerNotify _ => exact Or.inr ⟨hpc, rfl⟩
  | connect reached client t' jwt' hconnecting hc ha =>
    cases hpc
    exact Or.inl ⟨⟨reached, rfl⟩, (AgentClient.authedClient_eq_some_iff.mp ha).2⟩
  | registered resp now next hreq => cases next <;> cases hpc
  | registerUnreached reached next hreg hc =>
    rw [hreg] at hpc
    cases hpc
  | rotation cr stored wait hparked hjwt =>
    cases hparked.symm.trans hpc
  | rotationIgnored cr stored wait hparked hjwt =>
    cases hparked.symm.trans hpc
  | check _ | expiry _ _ | teardown _ _ | wake _ _ =>
    dsimp only at hpc
    split at hpc <;> cases hpc
  | settle result hended =>
    exact absurd hpc (settle_induction env s result nofun fun _ _ => nofun)
  | registerConnect _ _ _ _ _ | registerFails _ _ | connectFails _ _ _ | connectNoToken _ _ _ _ _
  | openFails _ _ _ _ | opened _ _ _ | park _ | inboundEnds _ _ _ | notified _ _ _
  | flushed _ _ | finish _ | announce _ => cases hpc

end Tied

namespace StateDir

variable {Bundle QuotaStatus : Type} {env : HostEnv Bundle} {s s' : StateDir QuotaStatus}
  {item : HostEvent Bundle QuotaStatus × List Answer}

lemma step_opening {p' : Process QuotaStatus} {t : Transport} {jwt : String}
    (h : s.step env item = some s') (hp' : s'.process = some p')
    (hpc : p'.loop.pc = .opening t jwt) :
    (∃ reached, item.1 = .loop (.connect reached)) ∧ p'.loop.runner.client.jwt = some jwt ∨
      ∃ p, s.process = some p ∧ p.loop.pc = .opening t jwt ∧ p'.loop.runner = p.loop.runner := by
  obtain ⟨x, hx, hprocess, -, -⟩ := step_eq_some h
  rw [hprocess] at hp'
  generalize hs : s.process = process at hx ⊢
  generalize item.1 = e at hx ⊢
  cases hx with
  | boot =>
    obtain ⟨creds, hcreds⟩ := exists_of_process hp'
    obtain ⟨creds, -, rfl⟩ := Option.map_eq_some_iff.mp hcreds
    exfalso
    cases creds with
    | some creds => cases hpc
    | none =>
      simp only [RunLoop.start] at hpc
      split at hpc <;> cases hpc
  | preload p fresh htop hfirst =>
    obtain ⟨bundle, hbundle⟩ := exists_of_process hp'
    cases hbundle
    rw [Process.preload_pc, htop] at hpc
    cases hpc
  | loop p e loop hloop =>
    obtain ⟨-, heq⟩ := exists_of_process hp'
    cases heq
    rcases RunLoop.step_opening hloop hpc with ⟨⟨reached, rfl⟩, hjwt⟩ | ⟨hopening, hsame⟩
    · exact Or.inl ⟨⟨reached, rfl⟩, hjwt⟩
    · exact Or.inr ⟨p, rfl, hopening, hsame⟩
  | message p binding msg out wait hparked =>
    obtain ⟨result, hresult⟩ := exists_of_process hp'
    cases hresult
    exfalso
    simp only [Process.received] at hpc
    split at hpc
    · cases hpc
    · cases hparked.symm.trans hpc
  | exit p => cases hp'

/-- The programs of the agent leave the licence file, save for the handling of a licence update. -/
lemma step_licenseMeets {P : LicenseDelivery → Prop} (h : s.step env item = some s')
    (hs : LicenseMeets env.agent P ⟨s.files, []⟩)
    (hP : ∀ binding u out, item.1 = .message binding (.licenseUpdate u) out →
      P (delivery binding u)) : LicenseMeets env.agent P ⟨s'.files, []⟩ := by
  have habout := aboutFile_licenseMeets env.agent P
  obtain ⟨x, hx, -, hfiles, -⟩ := step_eq_some h
  have hmaintains : Maintains (LicenseMeets env.agent P) x := by
    generalize s.process = process at hx
    generalize item.1 = e at hx hP
    cases hx with
    | boot =>
      refine maintains_bind (maintains_run_bind maintains_createDirAll fun _ => ?_) fun _ =>
        maintains_pure _
      exact maintains_attempt (maintains_readStoredCreds env.agent)
    | preload p fresh htop hfirst =>
      exact maintains_bind (maintains_loadBundle (maintains_nodeSecret_other habout (by decide) _ _))
        fun _ => maintains_pure _
    | loop p e loop hloop =>
      refine maintains_bind ?_ fun _ => maintains_pure _
      unfold loopFiles
      split
      · exact maintains_storeFreshCreds habout (by decide) _ _
      · split
        · split_ifs
          · exact maintains_discardStoredCreds habout (by decide)
          · exact maintains_run_pure _
        · exact maintains_run_pure _
      · exact maintains_run_pure _
    | message p binding msg out wait hparked =>
      refine maintains_bind (maintains_handle_licenseMeets env.agent out _ ?_) fun _ =>
        maintains_pure _
      rintro u rfl
      exact hP binding u out rfl
    | exit p => exact maintains_pure _
  rw [hfiles]
  exact hmaintains _ hs item.2

end StateDir

namespace Channels

variable {Bundle QuotaStatus : Type} (env : ChannelEnv Bundle)

/-- What the variables of `run_session` are tied to. A uid that is read is that of the token which
is about to be presented. -/
def OpeningTied (dir : StateDir QuotaStatus) : Opening → Prop
  | .idle => True
  | .requested nonce request => request .deliveryNonce = sendable env nonce
  | .identified nonce uid request =>
    request .deliveryNonce = sendable env nonce ∧
      ∀ p t jwt, dir.process = some p → p.loop.pc = .opening t jwt →
        uid = (jwtInstanceUid env.reader jwt).getD ""
  | .opened binding sent => binding.Of env sent

/-- The delivery came with one of the messages, and is bound to the Channel of that message. -/
def CameWith (s : Channels Bundle QuotaStatus) (d : LicenseDelivery) : Prop :=
  ∃ sent u, (sent, .licenseUpdate u) ∈ s.arrived ∧ d.Bound env sent u

structure Tied (s : Channels Bundle QuotaStatus) : Prop where
  token   : ∀ p t jwt, s.dir.process = some p → p.loop.pc = .opening t jwt →
    p.loop.runner.client.jwt = some jwt
  opening : OpeningTied env s.dir s.opening
  applied : ∀ x ∈ s.applied, x.1 ∈ s.arrived ∧
    ∃ u, x.1.2 = .licenseUpdate u ∧ x.2.Bound env x.1.1 u
  file    : LicenseMeets env.host.agent (s.CameWith env) ⟨s.dir.files, []⟩

variable {env} {s s' : Channels Bundle QuotaStatus} {dir : StateDir QuotaStatus}
  {e : HostEvent Bundle QuotaStatus} {answers : List Answer}

lemma start_tied {files : Files StateFile} (h : files .license = none) :
    (start files : Channels Bundle QuotaStatus).Tied env := by
  refine ⟨?_, trivial, ?_, ?_⟩
  · intro p t jwt hp
    cases hp
  · intro x hx
    cases hx
  · intro bytes hbytes
    change files .license = some bytes at hbytes
    rw [h] at hbytes
    cases hbytes

/-- The token that is about to be presented is the one that the agent holds, after any step. -/
lemma Tied.token_of_step (hs : s.Tied env) (h : s.dir.step env.host (e, answers) = some dir)
    (p : Process QuotaStatus) (t : Transport) (jwt : String) (hp : dir.process = some p)
    (hpc : p.loop.pc = .opening t jwt) : p.loop.runner.client.jwt = some jwt := by
  rcases StateDir.step_opening h hp hpc with ⟨-, hjwt⟩ | ⟨p₀, hp₀, hopening, hsame⟩
  · exact hjwt
  · rw [hsame]
    exact hs.token p₀ t jwt hp₀ hopening

lemma Tied.file_of_step (hs : s.Tied env) (h : s.dir.step env.host (e, answers) = some dir)
    (he : ∀ binding msg out, e ≠ .message binding msg out) :
    LicenseMeets env.host.agent (s.CameWith env) ⟨dir.files, []⟩ :=
  StateDir.step_licenseMeets h hs.file fun _ _ _ heq => absurd heq (he _ _ _)

/-- A step that has nothing to do with the opening of a Channel or with its messages. -/
lemma Tied.other (hs : s.Tied env) (h : s.dir.step env.host (e, answers) = some dir)
    (hconnect : ∀ reached, e ≠ .loop (.connect reached))
    (he : ∀ binding msg out, e ≠ .message binding msg out) : ({ s with dir := dir }).Tied env := by
  refine ⟨hs.token_of_step h, ?_, hs.applied, hs.file_of_step h he⟩
  have hopening := hs.opening
  dsimp only
  cases hcase : s.opening with
  | idle => trivial
  | requested nonce request =>
    rw [hcase] at hopening
    exact hopening
  | identified nonce uid request =>
    rw [hcase] at hopening
    refine ⟨hopening.1, ?_⟩
    intro p t jwt hp hpc
    rcases StateDir.step_opening h hp hpc with ⟨⟨reached, heq⟩, -⟩ | ⟨p₀, hp₀, hpc₀, -⟩
    · exact absurd heq (hconnect reached)
    · exact hopening.2 p₀ t jwt hp₀ hpc₀
  | opened binding sent =>
    rw [hcase] at hopening
    exact hopening

lemma Tied.connect (hs : s.Tied env) {reached : Bool}
    (h : s.dir.step env.host (.loop (.connect reached), answers) = some dir)
    (channel : ChannelMetadata) :
    ({ s with
      dir := dir
      opening := .requested channel.nonce (insertChannelMetadata env (fun _ => none) channel) }).Tied
      env :=
  ⟨hs.token_of_step h, insertChannelMetadata_nonce env channel, hs.applied,
    hs.file_of_step h nofun⟩

/-- The uid is read from the token that is about to be presented. -/
lemma Tied.identify (hs : s.Tied env) {nonce : String} {request : Metadata}
    {p : Process QuotaStatus} {t : Transport} {jwt : String}
    (hopening : s.opening = .requested nonce request) (hp : s.dir.process = some p)
    (hpc : p.loop.pc = .opening t jwt) :
    ({ s with
      opening := .identified nonce
        ((p.loop.runner.client.jwt.bind (jwtInstanceUid env.reader)).getD "") request }).Tied env := by
  refine ⟨hs.token, ⟨?_, ?_⟩, hs.applied, hs.file⟩
  · have htied := hs.opening
    rw [hopening] at htied
    exact htied
  · intro p' t' jwt' hp' hpc'
    cases hp.symm.trans hp'
    cases hpc.symm.trans hpc'
    rw [hs.token p t jwt hp hpc]
    rfl

lemma Tied.opened (hs : s.Tied env) {nonce uid jwt : String} {request sent : Metadata}
    {p : Process QuotaStatus} {t : Transport}
    (hopening : s.opening = .identified nonce uid request) (hp : s.dir.process = some p)
    (hpc : p.loop.pc = .opening t jwt) (hsent : jwtInterceptor env jwt request = some sent)
    (h : s.dir.step env.host (.loop .opened, answers) = some dir) :
    ({ s with dir := dir, opening := .opened ⟨nonce, uid⟩ sent }).Tied env := by
  have htied := hs.opening
  rw [hopening] at htied
  obtain ⟨htoken, hnonce⟩ := jwtInterceptor_eq_some env hsent
  refine ⟨hs.token_of_step h, ⟨?_, ?_⟩, hs.applied, hs.file_of_step h nofun⟩
  · rw [hnonce]
    exact htied.1
  · exact ⟨jwt, htoken, htied.2 p t jwt hp hpc⟩

/-- What is handed to the host is made of the message that is handled, and of the binding. -/
lemma mem_hands {binding : ChannelBinding} {msg : ServerMessage Bundle QuotaStatus} {out : Outside}
    {d : LicenseDelivery} (h : d ∈ s.hands env binding msg out answers) :
    ∃ u, msg = .licenseUpdate u ∧ d = delivery binding u := by
  unfold hands at h
  split at h
  · split at h
    · rename_i p _ r actions ended rest hrun
      exact handle_handed env.host.agent hrun h
    · cases h
  · cases h

lemma Tied.message (hs : s.Tied env) {binding : ChannelBinding} {sent : Metadata}
    {msg : ServerMessage Bundle QuotaStatus} {out : Outside}
    (hopening : s.opening = .opened binding sent)
    (h : s.dir.step env.host (.message binding msg out, answers) = some dir) :
    ({ s with
      dir := dir
      arrived := s.arrived ++ [(sent, msg)]
      applied := s.applied ++ (s.hands env binding msg out answers).map ((sent, msg), ·) }).Tied
      env := by
  have hof : binding.Of env sent := by
    have htied := hs.opening
    rw [hopening] at htied
    exact htied
  refine ⟨hs.token_of_step h, ?_, ?_, ?_⟩
  · dsimp only
    rw [hopening]
    exact hof
  · intro x hx
    rcases List.mem_append.mp hx with hx | hx
    · obtain ⟨harrived, hbound⟩ := hs.applied x hx
      exact ⟨List.mem_append_left _ harrived, hbound⟩
    · obtain ⟨d, hd, rfl⟩ := List.mem_map.mp hx
      obtain ⟨u, rfl, rfl⟩ := mem_hands hd
      exact ⟨List.mem_append_right _ (List.mem_singleton_self _), u, rfl, hof.bound u⟩
  · refine StateDir.step_licenseMeets h ?_ ?_
    · intro bytes hbytes
      obtain ⟨d, hd, sent', u, harrived, hbound⟩ := hs.file bytes hbytes
      exact ⟨d, hd, sent', u, List.mem_append_left _ harrived, hbound⟩
    · intro binding' u out' heq
      cases heq
      exact ⟨sent, u, List.mem_append_right _ (List.mem_singleton_self _), hof.bound u⟩

lemma step_tied {item : ChannelEvent Bundle QuotaStatus × List Answer} (hs : s.Tied env)
    (h : s.step env item = some s') : s'.Tied env := by
  unfold step at h
  split at h
  case h_1 channel reached answers =>
    obtain ⟨dir, hdir, heq⟩ := Option.bind_eq_some_iff.mp h
    cases heq
    exact hs.connect hdir channel
  case h_2 answers =>
    split at h
    · split at h
      · cases h
        exact hs.identify ‹_› ‹_› ‹_›
      · cases h
    · cases h
  case h_3 answers =>
    split at h
    · rename_i nonce uid request t jwt hopening hpc
      obtain ⟨p, hp, hpc⟩ := Option.map_eq_some_iff.mp hpc
      obtain ⟨sent, hsent, h⟩ := Option.bind_eq_some_iff.mp h
      obtain ⟨dir, hdir, heq⟩ := Option.bind_eq_some_iff.mp h
      cases heq
      exact hs.opened hopening hp hpc hsent hdir
    · cases h
  case h_4 e answers =>
    split at h
    · obtain ⟨dir, hdir, heq⟩ := Option.bind_eq_some_iff.mp h
      cases heq
      exact hs.other hdir nofun nofun
    · cases h
  case h_5 msg out answers =>
    split at h
    · obtain ⟨dir, hdir, heq⟩ := Option.bind_eq_some_iff.mp h
      cases heq
      exact hs.message ‹_› hdir
    · cases h
  case h_10 e answers hconnect hopened hfails hmessage =>
    obtain ⟨dir, hdir, heq⟩ := Option.bind_eq_some_iff.mp h
    cases heq
    exact hs.other hdir hconnect hmessage
  all_goals cases h

variable (env)

/-- A delivery is bound to its Channel. In every run on a state directory without a licence file,
over any number of sessions and processes, with rotations anywhere and whatever becomes of the file
operations: each delivery that is handed to the host, and each one that `load_cached` returns, has the
nonce that was sent when the Channel of its update was opened, the uid of the token that was presented
then, and the fields of that update. -/
theorem deliveries_bound_to_channel (files : Files StateFile) (hfile : files .license = none)
    (items : List (ChannelEvent Bundle QuotaStatus × List Answer)) (s : Channels Bundle QuotaStatus)
    (h : exec (step env) (start files) items = some s) :
    (∀ sent msg d, ((sent, msg), d) ∈ s.applied →
        (sent, msg) ∈ s.arrived ∧ ∃ u, msg = .licenseUpdate u ∧ d.Bound env sent u) ∧
      ∀ d, (eval (loadCached env.host.agent.license) s.dir.files).1 = some d →
        ∃ sent u, (sent, .licenseUpdate u) ∈ s.arrived ∧ d.Bound env sent u := by
  have htied : s.Tied env :=
    exec_invariant (fun _ _ _ hs hstep => step_tied hs hstep) (start_tied hfile) h
  constructor
  · intro sent msg d hd
    exact htied.applied _ hd
  · intro d hd
    exact loadCached_of_licenseMeets env.host.agent htied.file hd

/-! ### Two sessions -/

/-- A token with a uid. -/
def gatewayJwt : String := "e30.eyJpbnN0YW5jZV91aWQiOiJndy0xIn0.c2ln"

/-- Its claims. -/
def gatewayClaims : Bytes := utf8Bytes "\x7b\"instance_uid\":\"gw-1\"\x7d"

def gatewayReader : TokenReader where
  urlSafe payload :=
    if payload = "eyJpbnN0YW5jZV91aWQiOiJndy0xIn0" then some gatewayClaims else none
  json bytes :=
    if bytes = gatewayClaims then some (.object [("instance_uid", .string "gw-1")]) else none

def gatewayCodec : Codec StoredCreds Bytes :=
  sampleCodec { sampleCreds with instanceJwt := gatewayJwt } (by decide +kernel)

def sampleUpdate : LicenseUpdate := ⟨"l.i.c", "acme", false, "p.r.f"⟩

/-- What the update is made into on two Channels. -/
def firstDelivery : LicenseDelivery := delivery ⟨"nonce-1", ""⟩ sampleUpdate

def secondDelivery : LicenseDelivery := delivery ⟨"nonce-2", "gw-1"⟩ sampleUpdate

/-- The JSON of a delivery after the opening brace. -/
def deliveryFields (d : LicenseDelivery) : String :=
  "\"license_jwt\":\"" ++ d.licenseJwt ++ "\",\"org_slug\":\"" ++ d.orgSlug ++
    "\",\"refresh_failing\":" ++ toString d.refreshFailing ++
    ",\"delivery_proof\":\"" ++ d.deliveryProof ++ "\",\"channel_nonce\":\"" ++ d.channelNonce ++
    "\",\"instance_uid\":\"" ++ d.instanceUid ++ "\"\x7d"

def deliveryJson (d : LicenseDelivery) : Bytes := utf8Bytes ("\x7b" ++ deliveryFields d)

/-- serde's JSON on the two deliveries. -/
def licenseCodec : Codec LicenseDelivery Bytes :=
  have hjson : deliveryJson firstDelivery ≠ deliveryJson secondDelivery := by decide +kernel
  Codec.unary.override deliveryJson [firstDelivery, secondDelivery] (by simp [hjson, hjson.symm])
    fun _ _ => Codec.unary_decode_eq_none (utf8Bytes_brace_all _)

/-- The agent of the sample node, whose token has no readable uid. -/
def gatewayEnv : ChannelEnv Bytes where
  host := ⟨{ sampleEnv gatewayCodec with license := licenseCodec }, ""⟩
  reader := gatewayReader
  ascii value := value.toList.all fun c => c = '\t' || (32 ≤ c.toNat && c.toNat != 127)

/-- The uid comes with a rotation in the first session, before the delivery of that session. -/
def twoSessions : List (ChannelEvent Bytes Unit × List Answer) :=
  [(.other .boot, [.ok, .ok]), (.other (.preload (sampleOutside (.ok ())).nodeSecret), [.ok]),
    (.other (.loop .check), []), (.other (.loop (.expiry false)), []),
    (.connect ⟨"nonce-1", "1.0.0", "process-1", Duration.ofSecs 15⟩ true, []), (.identify, []),
    (.opened, []), (.other (.loop .park), []),
    (.message (.credentialRotation ⟨gatewayJwt, "", "", [], 0⟩) (sampleOutside (.ok ())),
      [.ok, .ok, .ok, .ok]),
    (.message (.licenseUpdate sampleUpdate) (sampleOutside (.ok ())), [.ok, .ok, .ok, .ok]),
    (.other (.loop (.inboundEnds (.ok ()))), []), (.other (.loop .teardown), []),
    (.other (.loop .settle), []), (.other (.loop .check), []), (.other (.loop (.expiry false)), []),
    (.connect ⟨"nonce-2", "1.0.0", "process-1", Duration.ofSecs 15⟩ true, []), (.identify, []),
    (.opened, []), (.other (.loop .park), []),
    (.message (.licenseUpdate sampleUpdate) (sampleOutside (.ok ())), [.ok, .ok, .ok, .ok])]

lemma exec_twoSessions :
    (exec (step gatewayEnv) (start (sampleWorld gatewayCodec).files) twoSessions).map (fun s =>
        (s.applied.map Prod.snd, (eval (loadCached licenseCodec) s.dir.files).1)) =
      some ([firstDelivery, secondDelivery], some secondDelivery) := by decide +kernel

/-- The first delivery has no uid, as the token that its Channel was opened with, though the agent
has another one by then. The second one has the uid of that other token. -/
theorem deliveries_bound_two_sessions :
    (sampleWorld gatewayCodec).files .license = none ∧
      ∃ s, exec (step gatewayEnv) (start (sampleWorld gatewayCodec).files) twoSessions = some s ∧
        s.applied.map Prod.snd = [firstDelivery, secondDelivery] ∧
        (eval (loadCached licenseCodec) s.dir.files).1 = some secondDelivery ∧
        (∀ sent msg d, ((sent, msg), d) ∈ s.applied →
          (sent, msg) ∈ s.arrived ∧ ∃ u, msg = .licenseUpdate u ∧ d.Bound gatewayEnv sent u) ∧
        ∀ d, (eval (loadCached licenseCodec) s.dir.files).1 = some d →
          ∃ sent u, (sent, .licenseUpdate u) ∈ s.arrived ∧ d.Bound gatewayEnv sent u := by
  have hfile : (sampleWorld gatewayCodec).files .license = none := rfl
  obtain ⟨s, hs, heq⟩ := Option.map_eq_some_iff.mp exec_twoSessions
  obtain ⟨happlied, hcached⟩ := Prod.mk.inj heq
  obtain ⟨hbound, hcache⟩ := deliveries_bound_to_channel gatewayEnv _ hfile _ s hs
  exact ⟨hfile, s, hs, happlied, hcached, hbound, hcache⟩

end Channels

end ControlPlaneClient
