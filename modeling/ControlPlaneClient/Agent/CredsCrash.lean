import ControlPlaneClient.Agent.LkgCrash
import ControlPlaneClient.Agent.Rotation

/-!
# The creds file after a crash

What the programs of the agent leave in the creds file when their operations fail or the process is
gone in between. The cache, the licence and the node secret are other files. A rotation replaces the
creds file by a rename, a registration writes it in place.
-/

namespace ControlPlaneClient

open FileSystem

/-- What `I` says is about one file alone. -/
def AboutFile (file : StateFile) (I : Disk StateFile → Prop) : Prop :=
  ∀ d d', d'.files file = d.files file → I d → I d'

/-- What `I` says is about the creds file alone. -/
def AboutCreds (I : Disk StateFile → Prop) : Prop := AboutFile .creds I

section Others

variable {Bundle QuotaStatus : Type} {file : StateFile} {I : Disk StateFile → Prop}
  (hI : AboutFile file I)

include hI

/-! ### The other files -/

lemma maintains_write_other {p : StateFile} (hp : file ≠ p) (b : Bytes) :
    Maintains I (write p b).run :=
  maintains_write fun d content => hI d _ (d.put_of_ne hp content)

lemma maintains_rename_other {src dst : StateFile} (hsrc : file ≠ src) (hdst : file ≠ dst) :
    Maintains I (rename src dst).run :=
  maintains_rename fun d content => hI d _ (d.move_of_ne hsrc hdst content)

lemma maintains_nodeSecret_other (hfile : file ≠ .nodeSecret) (env : LkgEnv Bundle)
    (fresh : NodeSecret) : Maintains I (nodeSecret env fresh).run := by
  have hstored : Maintains I storedSecret.run := by
    refine maintains_run_bind maintains_pathExists ?_
    intro found
    cases found with
    | false => exact maintains_run_pure _
    | true => exact maintains_run_bind maintains_read fun _ => maintains_run_pure _
  cases hid : machineSecret env with
  | some secret =>
    simp only [nodeSecret, hid]
    exact maintains_run_pure _
  | none =>
    simp only [nodeSecret, hid]
    refine maintains_run_bind hstored ?_
    intro stored
    cases stored with
    | some secret => exact maintains_run_pure _
    | none =>
      refine maintains_run_bind maintains_createDirAll fun _ => ?_
      refine maintains_run_bind (maintains_write_other hI hfile _) fun _ => ?_
      exact maintains_run_bind maintains_setPermissions fun _ => maintains_run_pure _

lemma maintains_save (hfile : file ∉ [.nodeSecret, .lkgTmp, .lkg]) (env : LkgEnv Bundle)
    (fresh : NodeSecret) (nonce : Nonce) (now : DateTime) (hash : String) (bundle : Bundle) :
    Maintains I (save env fresh nonce now hash bundle).run := by
  simp only [List.mem_cons, List.not_mem_nil, or_false, not_or] at hfile
  obtain ⟨hsecret, htmp, hlkg⟩ := hfile
  refine maintains_run_bind maintains_createDirAll fun _ => ?_
  have hencrypt : ∀ plain, Maintains I (encrypt env fresh nonce plain).run := by
    intro plain
    refine maintains_run_bind (maintains_deriveKey (maintains_nodeSecret_other hI hsecret env fresh))
      fun key => ?_
    split
    · exact maintains_run_pure _
    · exact maintains_run_failure
  refine maintains_run_bind (hencrypt _) fun sealed => ?_
  refine maintains_run_bind (maintains_write_other hI htmp _) fun _ => ?_
  refine maintains_run_bind (maintains_rename_other hI htmp hlkg) fun _ => ?_
  exact maintains_run_bind (maintains_attempt maintains_setPermissions) fun _ => maintains_run_pure _

lemma maintains_saveCached (htmp : file ≠ .licenseTmp) (hlicense : file ≠ .license)
    (json : Codec LicenseDelivery Bytes) (delivery : LicenseDelivery) :
    Maintains I (saveCached json delivery).run := by
  refine maintains_run_bind maintains_createDirAll fun _ => ?_
  refine maintains_run_bind (maintains_write_other hI htmp _) fun _ => ?_
  refine maintains_run_bind maintains_setPermissions fun _ => ?_
  exact maintains_rename_other hI htmp hlicense

lemma maintains_handleConfigUpdate (hfile : file ∉ [.nodeSecret, .lkgTmp, .lkg])
    (env : AgentEnv Bundle) (u : ConfigUpdate Bundle) (out : Outside) (r : AgentRunner QuotaStatus) :
    Maintains I (handleConfigUpdate env u out r) := by
  refine maintains_bind ?_ fun _ => maintains_pure _
  rw [saveLkg]
  split
  · exact maintains_save hI hfile _ _ _ _ _ _
  · exact maintains_run_pure _

end Others

/-! ### Rotations -/

section Rotation

variable {Bundle QuotaStatus : Type} (env : AgentEnv Bundle)

lemma maintains_readStoredCreds {I : Disk StateFile → Prop} :
    Maintains I (readStoredCreds env.creds).run := by
  refine maintains_run_bind maintains_read fun bytes => ?_
  split
  · exact maintains_run_pure _
  · exact maintains_run_failure

lemma holds_readStoredCreds {creds : StoredCreds} {d : Disk StateFile}
    (h : storedCreds env d.files = some creds) :
    Holds (readStoredCreds env.creds) d (fun r d' => r = creds ∧ d' = d) fun d' => d' = d := by
  refine holds_bind (holds_read rfl ?_)
  intro bytes hbytes
  have hdecode : env.creds.decode bytes = some creds := by
    rw [storedCreds, hbytes] at h
    exact h
  rw [hdecode]
  exact holds_pure ⟨rfl, rfl⟩

lemma runFaulty_readStoredCreds {creds : StoredCreds} {d : Disk StateFile}
    (h : storedCreds env d.files = some creds) (as : List Answer) :
    runFaulty (readStoredCreds env.creds).run (.ok :: as) d = (some (some creds, as), d) := by
  obtain ⟨bytes, hbytes, hdecode⟩ := Option.bind_eq_some_iff.mp h
  change runFaulty (Prog.bind (.done (d.files .creds)) _) as d = _
  rw [hbytes]
  simp only [Prog.bind, hdecode]
  rfl

/-- A rotation that is persisted leaves the rotated creds. One that fails or is cut off leaves those
that were there. -/
lemma holds_persistRotatedCreds {creds : StoredCreds} {d : Disk StateFile} (now : DateTime)
    (cr : CredentialRotation) (h : storedCreds env d.files = some creds) :
    Holds (persistRotatedCreds env.creds env.base64 now cr) d
      (fun _ d' => storedCreds env d'.files = some (creds.rotate env.base64 now cr))
      fun d' => storedCreds env d'.files = some creds := by
  refine holds_bind ((holds_readStoredCreds env h).mono ?_ ?_)
  · rintro creds d ⟨rfl, rfl⟩
    -- The creds are replaced by the rename alone.
    have htmp : ∀ bytes, storedCreds env (d.put .credsTmp bytes).files = some creds := by
      intro bytes
      rw [storedCreds, d.put_of_ne (by decide)]
      exact h
    have hrename : Holds (rename .credsTmp .creds)
        (d.put .credsTmp (env.creds.encode (creds.rotate env.base64 now cr)))
        (fun _ d' => storedCreds env d'.files = some (creds.rotate env.base64 now cr))
        fun d' => storedCreds env d'.files = some creds := by
      refine holds_rename (htmp _) ?_
      intro b hb
      rw [Disk.put_self] at hb
      cases hb
      rw [storedCreds, Disk.move_dst _ (by decide)]
      exact env.creds.decode_encode _
    refine holds_bind (holds_write h (fun _ => htmp _) ?_)
    refine holds_bind (holds_attempt (J := fun d' => d' = d.put .credsTmp _)
      (holds_setPermissions rfl ?_) ?_ ?_)
    · exact hrename
    · rintro d' rfl
      exact hrename
    · rintro d' rfl
      exact htmp _
  · rintro d' rfl
    exact h

/-- The file holds creds with `P`. -/
def CredsMeet (P : StoredCreds → Prop) (d : Disk StateFile) : Prop :=
  ∃ creds, storedCreds env d.files = some creds ∧ P creds

lemma aboutCreds_credsMeet (P : StoredCreds → Prop) : AboutCreds (CredsMeet env P) := by
  rintro d d' hsame ⟨creds, hcreds, hP⟩
  refine ⟨creds, ?_, hP⟩
  rw [storedCreds, hsame]
  exact hcreds

variable {creds : StoredCreds} {P : StoredCreds → Prop} {d : Disk StateFile}

/-- Handling a rotation leaves the creds or the rotated creds, wherever it is cut off. -/
lemma handleCredentialRotation_credsMeet {cr : CredentialRotation} {out : Outside}
    (r : AgentRunner QuotaStatus) (as : List Answer) (h : storedCreds env d.files = some creds)
    (hP : P creds) (hrotate : cr.instanceJwt ≠ "" → P (creds.rotate env.base64 out.writtenAt cr)) :
    CredsMeet env P (runFaulty (handleCredentialRotation env cr out r) as d).2 := by
  rw [handleCredentialRotation]
  split_ifs with hjwt
  · have hpersist : Holds (persistRotatedCreds env.creds env.base64 out.writtenAt cr) d
        (fun _ => CredsMeet env P) (CredsMeet env P) :=
      (holds_persistRotatedCreds env out.writtenAt cr h).mono
        (fun _ _ hd' => ⟨_, hd', hrotate hjwt⟩) fun _ hd' => ⟨_, hd', hP⟩
    refine runFaulty_bind_disk (hpersist.disk as) fun _ => maintains_bind ?_ fun _ =>
      maintains_pure _
    rw [rereadCreds]
    split_ifs
    · exact maintains_readStoredCreds env
    · exact maintains_pure _
  · exact ⟨creds, h, hP⟩

/-- A message other than a rotation has nothing to do with the creds file. -/
lemma handle_credsMeet (binding : ChannelBinding) {msg : ServerMessage Bundle QuotaStatus}
    {out : Outside} (r : AgentRunner QuotaStatus) (as : List Answer)
    (h : storedCreds env d.files = some creds) (hP : P creds)
    (hrotate : ∀ cr, msg = .credentialRotation cr → cr.instanceJwt ≠ "" →
      P (creds.rotate env.base64 out.writtenAt cr)) :
    CredsMeet env P (runFaulty (handle env binding msg out r) as d).2 := by
  have habout := aboutCreds_credsMeet env P
  have hd : CredsMeet env P d := ⟨creds, h, hP⟩
  cases msg with
  | configUpdate u =>
    exact maintains_bind (maintains_handleConfigUpdate habout (by decide) env u out r)
      (fun _ => maintains_pure _) d hd as
  | credentialRotation cr =>
    exact runFaulty_bind_disk (handleCredentialRotation_credsMeet env r as h hP (hrotate cr rfl))
      fun _ => maintains_pure _
  | licenseUpdate u =>
    have hsave := maintains_saveCached habout (by decide) (by decide) env.license (delivery binding u)
    exact maintains_bind (maintains_bind hsave fun _ => maintains_pure _)
      (fun _ => maintains_pure _) d hd as
  | quarantine reason => exact hd
  | quotaStatus qs => exact hd
  | command _ => exact hd
  | diagnosticRequest => exact hd
  | logRequest => exact hd
  | none => exact hd

end Rotation

/-! ### Registrations -/

section Registration

variable {Bundle : Type} (env : AgentEnv Bundle)

/-- What a registration does on disk after its write. -/
def permissionsOnly : Prog StateFile (Option Unit) :=
  .setPermissions .creds fun _ => .done (some ())

lemma runFaulty_permissionsOnly (as : List Answer) (d : Disk StateFile) :
    (runFaulty permissionsOnly as d).2 = d ∧
      ((runFaulty permissionsOnly as d).1 = none ↔ ∃ written, (nextAnswer as).1 = .crash written) := by
  simp only [permissionsOnly, runFaulty]
  rcases nextAnswer as with ⟨_ | _ | written, as'⟩
  · simp
  · simp
  · simp

/-- A registration does not look at the answers. -/
lemma run_storeFreshCreds (json : Codec StoredCreds Bytes) (creds : StoredCreds) :
    (storeFreshCreds json creds).run =
      .write .creds (json.encode creds) fun _ => permissionsOnly := rfl

/-- The process is gone when a write of `len` bytes has begun and is not complete, or right after
the write has failed at such a point. -/
def CutShort (len : ℕ) : List Answer → Prop
  | .crash (some n) :: _  => n < len
  | .fails (some n) :: as => n < len ∧ ∃ written, (nextAnswer as).1 = .crash written
  | _                     => False

variable {creds old : StoredCreds} {d : Disk StateFile}

lemma credsMeet_put {P : StoredCreds → Prop} (bytes : Bytes) :
    CredsMeet env P (d.put .creds bytes) ↔ ∃ c, env.creds.decode bytes = some c ∧ P c := by
  rw [CredsMeet, storedCreds, Disk.put_self, Option.bind_some]

/-- The write of the new creds, as far as it got. -/
lemma credsMeet_cut_iff (written : Option ℕ) (h : storedCreds env d.files = some old)
    (hjson : ∀ n < (env.creds.encode creds).length,
      env.creds.decode ((env.creds.encode creds).take n) = none) :
    CredsMeet env (fun c => c = old ∨ c = creds) (d.cut .creds (env.creds.encode creds) written) ↔
      ¬ ∃ n, written = some n ∧ n < (env.creds.encode creds).length := by
  cases written with
  | none => exact ⟨fun _ => nofun, fun _ => ⟨old, h, Or.inl rfl⟩⟩
  | some n =>
    rw [Disk.cut, credsMeet_put]
    by_cases hn : n < (env.creds.encode creds).length
    · rw [hjson n hn]
      exact ⟨nofun, fun hcut => absurd ⟨n, rfl, hn⟩ hcut⟩
    · rw [List.take_of_length_le (Nat.le_of_not_lt hn), env.creds.decode_encode]
      refine ⟨?_, fun _ => ⟨creds, rfl, Or.inr rfl⟩⟩
      rintro - ⟨m, hm, hlt⟩
      cases hm
      exact hn hlt

/-- A crash in a registration leaves the old creds or the new ones unless the write is cut short. -/
lemma storeFreshCreds_credsMeet_iff (as : List Answer) (h : storedCreds env d.files = some old)
    (hjson : ∀ n < (env.creds.encode creds).length,
      env.creds.decode ((env.creds.encode creds).take n) = none) :
    ((runFaulty (storeFreshCreds env.creds creds).run as d).1 = none →
      CredsMeet env (fun c => c = old ∨ c = creds)
        (runFaulty (storeFreshCreds env.creds creds).run as d).2) ↔
      ¬ CutShort (env.creds.encode creds).length as := by
  have hold : CredsMeet env (fun c => c = old ∨ c = creds) d := ⟨old, h, Or.inl rfl⟩
  have hnew : CredsMeet env (fun c => c = old ∨ c = creds)
      (d.put .creds (env.creds.encode creds)) :=
    (credsMeet_put env _).mpr ⟨creds, env.creds.decode_encode creds, Or.inr rfl⟩
  rw [run_storeFreshCreds]
  match as with
  | [] => exact ⟨fun _ => id, fun _ _ => hold⟩
  | .ok :: as =>
    refine ⟨fun _ => id, fun _ _ => ?_⟩
    change CredsMeet env _ (runFaulty permissionsOnly as _).2
    rw [(runFaulty_permissionsOnly as _).1]
    exact hnew
  | .crash written :: as =>
    refine Iff.trans ⟨fun hcrash => hcrash rfl, fun hmeet _ => hmeet⟩
      ((credsMeet_cut_iff env written h hjson).trans (not_congr ?_))
    cases written with
    | none => exact ⟨nofun, nofun⟩
    | some n => exact ⟨fun ⟨m, hm, hlt⟩ => Option.some.inj hm ▸ hlt, fun hlt => ⟨n, rfl, hlt⟩⟩
  | .fails written :: as =>
    change ((runFaulty permissionsOnly as _).1 = none →
      CredsMeet env _ (runFaulty permissionsOnly as _).2) ↔ _
    rw [(runFaulty_permissionsOnly as _).1, (runFaulty_permissionsOnly as _).2,
      credsMeet_cut_iff env written h hjson]
    cases written with
    | none => exact ⟨fun _ => id, fun _ _ => nofun⟩
    | some n =>
      constructor
      · rintro hgone ⟨hlt, hcrash⟩
        exact hgone hcrash ⟨n, rfl, hlt⟩
      · rintro hcut hcrash ⟨m, hm, hlt⟩
        cases hm
        exact hcut ⟨hlt, hcrash⟩

end Registration

end ControlPlaneClient
