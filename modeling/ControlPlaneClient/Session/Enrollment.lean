import ControlPlaneClient.Lib.Segments
import ControlPlaneClient.Session.Unenrolled

/-!
# Enrollment URLs

What `extract_token` accepts, and what hangs on it. The stored creds are discarded when something
can replace them, and a registration is made with a token. `extract_token` also accepts a URL whose
token is empty, which is no token.
-/

namespace ControlPlaneClient

open FileSystem Transition Segments

/-- The first `token=` of the fragment has this value. -/
def FirstToken (url value : String) : Prop :=
  ∃ base frag segs, url.toList = base ++ '#' :: frag ∧ '#' ∉ base ∧ Cuts '&' frag segs ∧
    First "token=".toList segs value.toList

/-- The URL carries this token. -/
def CarriesToken (url token : String) : Prop := FirstToken url token ∧ token ≠ ""

lemma extractToken_eq_ok_iff {url value : String} :
    extractToken url = .ok value ↔ FirstToken url value := by
  unfold extractToken
  constructor
  · intro h
    split at h
    · cases h
    · rename_i c frag hfrag
      obtain ⟨-, base, hbase, hfree⟩ := dropWhile_ne_eq_cons_iff.mp hfrag
      split at h
      · rename_i token htoken
        cases h
        refine ⟨base, frag, _, hbase, hfree, splitOn_eq_iff.mp rfl, ?_⟩
        rw [String.toList_ofList (l := token)]
        exact findSome_dropPrefix_iff.mp htoken
      · cases h
  · rintro ⟨base, frag, segs, hbase, hfree, hcuts, hfirst⟩
    obtain rfl := splitOn_eq_iff.mpr hcuts
    simp only [dropWhile_ne_eq_cons_iff.mpr ⟨rfl, base, hbase, hfree⟩,
      findSome_dropPrefix_iff.mpr hfirst, String.ofList_toList]

lemma firstToken_unique {url v w : String} (hv : FirstToken url v) (hw : FirstToken url w) :
    v = w := by
  rw [← extractToken_eq_ok_iff] at hv hw
  exact Except.ok.inj (hv.symm.trans hw)

/-- A URL whose first token is not empty is read as it says. -/
lemma extractToken_carries {url : String} (h : ¬ FirstToken url "") (token : String) :
    extractToken url = .ok token ↔ CarriesToken url token := by
  rw [extractToken_eq_ok_iff, CarriesToken, iff_self_and]
  rintro hfirst rfl
  exact h hfirst

namespace StateDir

variable {Bundle QuotaStatus : Type} {env : HostEnv Bundle}

/-- What is done in this state with a token, is done with one that can be presented: a registration
that is going on or is to follow, and the end of a session that takes the stored creds away. -/
structure NeedsToken (env : HostEnv Bundle) (s : StateDir QuotaStatus) : Prop where
  registers : ∀ p, s.process = some p → p.loop.pc.enrols = true →
    ∃ token, extractToken env.enrollmentUrl = .ok token ∧ token ≠ ""
  discards  : ∀ answers s', s.step env (.loop .settle, answers) = some s' →
    s'.files .creds ≠ s.files .creds →
    ∃ token, extractToken env.enrollmentUrl = .ok token ∧ token ≠ ""

lemma exec_idle {files : Files StateFile} {items : List (HostEvent Bundle QuotaStatus × List Answer)}
    {s : StateDir QuotaStatus} (htoken : env.loop.hasToken = false)
    (h : exec (step env) (start files) items = some s) : s.Idle := by
  have hstart : (start files : StateDir QuotaStatus).Idle := by
    intro p hp
    cases hp
  exact exec_invariant (fun _ _ _ hs hstep => step_idle htoken hs hstep) hstart h

/-- The end of a session leaves the files of a process that cannot enrol. -/
lemma settle_files_of_idle {s s' : StateDir QuotaStatus} {answers : List Answer}
    (htoken : env.loop.hasToken = false) (hs : s.Idle)
    (h : s.step env (.loop .settle, answers) = some s') : s'.files = s.files := by
  obtain ⟨x, hx, -, hfiles, -⟩ := step_eq_some h
  rw [hfiles]
  generalize hprocess : s.process = process at hx
  cases hx with
  | loop p e loop hloop =>
    rw [loopFiles_of_unenrolled htoken (hs p hprocess) hloop]
    rfl

lemma exists_token_or (env : HostEnv Bundle) (h : ¬ FirstToken env.enrollmentUrl "") :
    (∃ token, extractToken env.enrollmentUrl = .ok token ∧ token ≠ "") ∨
      env.loop.hasToken = false := by
  cases htoken : extractToken env.enrollmentUrl with
  | ok token => exact Or.inl ⟨token, rfl, ((extractToken_carries h token).mp htoken).2⟩
  | error e =>
    refine Or.inr ?_
    simp only [HostEnv.loop, htoken]
    rfl

lemma exec_needsToken {files : Files StateFile}
    {items : List (HostEvent Bundle QuotaStatus × List Answer)} {s : StateDir QuotaStatus}
    (hurl : ¬ FirstToken env.enrollmentUrl "")
    (h : exec (step env) (start files) items = some s) : s.NeedsToken env := by
  rcases exists_token_or env hurl with htoken | htoken
  · exact ⟨fun _ _ _ => htoken, fun _ _ _ _ => htoken⟩
  · have hidle : s.Idle := exec_idle htoken h
    constructor
    · intro p hp henrols
      rw [hidle p hp] at henrols
      cases henrols
    · intro answers s' hstep hne
      exact absurd (congrFun (settle_files_of_idle htoken hidle hstep) .creds) hne

/-- A process that finds nothing on disk registers with whatever `extract_token` gives. -/
lemma exec_boot_registers (QuotaStatus : Type) {token : String}
    (h : extractToken env.enrollmentUrl = .ok token) :
    ∃ (s : StateDir QuotaStatus) (p : Process QuotaStatus),
      exec (step env) (start fun _ => none) [(.boot, [.ok, .ok])] = some s ∧
      s.process = some p ∧ p.loop.pc.enrols = true := by
  have hloop : env.loop.hasToken = true := by
    simp only [HostEnv.loop, h]
    rfl
  refine ⟨_, _, rfl, rfl, ?_⟩
  simp only [RunLoop.start, hloop]
  rfl

/-- `extract_token` accepts exactly the URLs that carry a token, and a token is presented wherever
one is needed, on any files and in any run: each of the two holds if and only if the first `token=`
of the fragment, if there is one, is not empty. -/
theorem extract_token_exact_iff (env : HostEnv Bundle) :
    ((∀ token, extractToken env.enrollmentUrl = .ok token ↔ CarriesToken env.enrollmentUrl token) ↔
        ¬ FirstToken env.enrollmentUrl "") ∧
      ((∀ files items (s : StateDir QuotaStatus),
          exec (step env) (start files) items = some s → s.NeedsToken env) ↔
        ¬ FirstToken env.enrollmentUrl "") := by
  refine ⟨⟨?_, extractToken_carries⟩, ⟨?_, fun hurl files items s h => exec_needsToken hurl h⟩⟩
  · intro h hfirst
    exact ((h "").mp (extractToken_eq_ok_iff.mpr hfirst)).2 rfl
  · intro h hfirst
    obtain ⟨s, p, hs, hp, henrols⟩ :=
      exec_boot_registers QuotaStatus (extractToken_eq_ok_iff.mpr hfirst)
    obtain ⟨token, htoken, hne⟩ := (h _ _ s hs).registers p hp henrols
    exact hne (firstToken_unique (extractToken_eq_ok_iff.mp htoken) hfirst)

/-- The token after the `=` was left out. -/
def bareUrl : String := "https://cp.example/enroll/v1#token="

lemma extractToken_bareUrl : extractToken bareUrl = .ok "" := by decide

/-- The creds of the sample node are rejected. -/
def rejected : List (HostEvent Bytes Unit × List Answer) :=
  [(.boot, [.ok, .ok]), (.preload (sampleOutside (.ok ())).nodeSecret, [.ok]),
    (.loop .check, []), (.loop (.expiry false), []), (.loop (.connect true), []),
    (.loop (.openFails .rejected), [])]

lemma exec_rejected (codec : Codec StoredCreds Bytes) :
    ∃ s p, exec (step (sampleHost codec bareUrl)) (start (sampleWorld codec).files) rejected =
        some s ∧ s.process = some p ∧ p.loop.pc = .ended (.error .rejected) ∧
      s.files = (sampleWorld codec).files := by
  have htoken : (extractToken bareUrl).isOk = true := by
    rw [extractToken_bareUrl]
    rfl
  rw [rejected, exec, start, step_boot (sampleWorld_storedCreds codec)]
  simp only [exec, step, program, Process.loopStep, sampleHost_loop codec htoken]
  refine ⟨_, _, rfl, rfl, ?_⟩
  exact ⟨rfl, rfl⟩

lemma settle_discards {s : StateDir QuotaStatus} {p : Process QuotaStatus}
    (htoken : env.loop.hasToken = true) (hp : s.process = some p)
    (hpc : p.loop.pc = .ended (.error .rejected)) :
    ∃ s', s.step env (.loop .settle, [.ok]) = some s' ∧ s'.files .creds = none := by
  have hfiles : loopFiles env p.loop.pc .settle = discardStoredCreds := by
    rw [hpc]
    exact if_pos htoken
  simp only [step, hp, program, Process.loopStep, RunLoop.step, hpc, Option.map_some]
  rw [hpc] at hfiles
  refine ⟨_, rfl, ?_⟩
  simp only [hfiles]
  rfl

/-- The first `token=` of this URL has nothing after it, and `extract_token` accepts that. When the
creds of the sample node are rejected, they are discarded with nothing to enrol anew with. -/
theorem rejected_creds_discarded_for_empty_token :
    extractToken bareUrl = .ok "" ∧ (∀ token, ¬ CarriesToken bareUrl token) ∧
      ∃ s s', exec (step (sampleHost rotatedCodec bareUrl)) (start (sampleWorld rotatedCodec).files)
          rejected = some s ∧
        (eval (readStoredCreds rotatedCodec) s.files).1 = some sampleCreds ∧
        s.step (sampleHost rotatedCodec bareUrl) (.loop .settle, [.ok]) = some s' ∧
        s'.files .creds = none := by
  have hfirst : FirstToken bareUrl "" := extractToken_eq_ok_iff.mp extractToken_bareUrl
  refine ⟨extractToken_bareUrl, ?_, ?_⟩
  · rintro token ⟨htoken, hne⟩
    exact hne (firstToken_unique htoken hfirst)
  · obtain ⟨s, p, hs, hp, hpc, hfiles⟩ := exec_rejected rotatedCodec
    have htoken : (sampleHost rotatedCodec bareUrl).loop.hasToken = true :=
      congrArg Except.isOk extractToken_bareUrl
    obtain ⟨s', hs', hnone⟩ := settle_discards htoken hp hpc
    refine ⟨s, s', hs, ?_, hs', hnone⟩
    rw [hfiles]
    exact sampleHost_readStoredCreds rotatedCodec bareUrl

end StateDir

end ControlPlaneClient
