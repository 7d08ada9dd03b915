import ControlPlaneClient.Agent.CredsCrash

/-!
# The licence file after a crash

What the programs of the agent leave in the file of the latest delivery when their operations fail
or the process is gone in between, and which deliveries they hand to the host. The file is replaced
by the rename of a file that was written in full, so it holds a delivery whenever it is there.
-/

namespace ControlPlaneClient

open FileSystem

/-! ### The programs on the creds -/

section Others

variable {Bundle : Type} {file : StateFile} {I : Disk StateFile → Prop} (hI : AboutFile file I)

include hI

lemma maintains_storeFreshCreds (hfile : file ≠ .creds) (json : Codec StoredCreds Bytes)
    (creds : StoredCreds) : Maintains I (storeFreshCreds json creds).run := by
  refine maintains_run_bind (maintains_attempt (maintains_write_other hI hfile _)) fun _ => ?_
  exact maintains_run_bind (maintains_attempt maintains_setPermissions) fun _ => maintains_run_pure _

lemma maintains_discardStoredCreds (hfile : file ≠ .creds) : Maintains I discardStoredCreds.run := by
  refine maintains_run_bind (maintains_attempt (maintains_removeFile ?_)) fun _ =>
    maintains_run_pure _
  exact fun d => hI d _ (d.remove_of_ne hfile)

lemma maintains_handleCredentialRotation {QuotaStatus : Type} (htmp : file ≠ .credsTmp)
    (hfile : file ≠ .creds) (env : AgentEnv Bundle) (cr : CredentialRotation) (out : Outside)
    (r : AgentRunner QuotaStatus) : Maintains I (handleCredentialRotation env cr out r) := by
  have hpersist : Maintains I (persistRotatedCreds env.creds env.base64 out.writtenAt cr).run := by
    refine maintains_run_bind (maintains_readStoredCreds env) fun creds => ?_
    refine maintains_run_bind (maintains_write_other hI htmp _) fun _ => ?_
    refine maintains_run_bind (maintains_attempt maintains_setPermissions) fun _ => ?_
    exact maintains_rename_other hI htmp hfile
  rw [handleCredentialRotation]
  split_ifs
  · refine maintains_bind hpersist fun _ => maintains_bind ?_ fun _ => maintains_pure _
    rw [rereadCreds]
    split_ifs
    · exact maintains_readStoredCreds env
    · exact maintains_pure _
  · exact maintains_pure _

end Others

/-! ### The licence file -/

section License

variable {Bundle QuotaStatus : Type} (env : AgentEnv Bundle) {P : LicenseDelivery → Prop}

/-- The file, if it is there, holds a delivery with `P`. -/
def LicenseMeets (P : LicenseDelivery → Prop) (d : Disk StateFile) : Prop :=
  ∀ bytes, d.files .license = some bytes → ∃ delivery, env.license.encode delivery = bytes ∧ P delivery

lemma aboutFile_licenseMeets (P : LicenseDelivery → Prop) :
    AboutFile .license (LicenseMeets env P) := by
  intro d d' hsame hd bytes hbytes
  exact hd bytes (hsame ▸ hbytes)

lemma maintains_saveCached_licenseMeets {delivery : LicenseDelivery} (hP : P delivery) :
    Maintains (LicenseMeets env P) (saveCached env.license delivery).run := by
  refine Holds.maintains fun d hd => ?_
  have htmp : ∀ bytes, LicenseMeets env P (d.put .licenseTmp bytes) := fun bytes =>
    aboutFile_licenseMeets env P d _ (d.put_of_ne (by decide) bytes) hd
  refine holds_bind (holds_createDirAll hd ?_)
  refine holds_bind (holds_write hd (fun n => htmp _) ?_)
  refine holds_bind (holds_setPermissions (htmp _) ?_)
  refine holds_rename (htmp _) ?_
  intro b hb bytes hbytes
  rw [Disk.put_self] at hb
  cases hb
  rw [Disk.move_dst _ (by decide)] at hbytes
  exact ⟨delivery, Option.some.inj hbytes, hP⟩

/-- A message leaves what was there, or the delivery that it is made into. -/
lemma maintains_handle_licenseMeets {binding : ChannelBinding}
    {msg : ServerMessage Bundle QuotaStatus} (out : Outside) (r : AgentRunner QuotaStatus)
    (hP : ∀ u, msg = .licenseUpdate u → P (delivery binding u)) :
    Maintains (LicenseMeets env P) (handle env binding msg out r) := by
  have habout := aboutFile_licenseMeets env P
  cases msg with
  | configUpdate u =>
    exact maintains_bind (maintains_handleConfigUpdate habout (by decide) env u out r)
      fun _ => maintains_pure _
  | credentialRotation cr =>
    exact maintains_bind
      (maintains_handleCredentialRotation habout (by decide) (by decide) env cr out r)
      fun _ => maintains_pure _
  | licenseUpdate u =>
    exact maintains_bind
      (maintains_bind (maintains_saveCached_licenseMeets env (hP u rfl)) fun _ => maintains_pure _)
      fun _ => maintains_pure _
  | quarantine reason => exact maintains_pure _
  | quotaStatus qs => exact maintains_pure _
  | command _ => exact maintains_pure _
  | diagnosticRequest => exact maintains_pure _
  | logRequest => exact maintains_pure _
  | none => exact maintains_pure _

/-- What `load_cached` returns is what the file holds. -/
lemma loadCached_of_licenseMeets {files : Files StateFile} {d : LicenseDelivery}
    (h : LicenseMeets env P ⟨files, []⟩) (hd : (eval (loadCached env.license) files).1 = some d) :
    P d := by
  rw [loadCached, eval_bind, eval_read] at hd
  cases hfile : files .license with
  | none =>
    rw [hfile] at hd
    cases hd
  | some bytes =>
    obtain ⟨delivery, rfl, hP⟩ := h bytes hfile
    rw [hfile] at hd
    dsimp only at hd
    rw [env.license.decode_encode] at hd
    cases hd
    exact hP

/-! ### The host -/

/-- The deliveries that are handed to the `LicenseApplier`. -/
def handed : List (Action Bundle) → List LicenseDelivery :=
  List.filterMap fun
    | .applyLicense d => some d
    | _               => none

/-- Only a licence update is handed on, as the delivery that it is made into. -/
lemma handle_handed {binding : ChannelBinding} {msg : ServerMessage Bundle QuotaStatus}
    {out : Outside} {r r' : AgentRunner QuotaStatus} {actions : List (Action Bundle)}
    {ended : Option String} {as as' : List Answer} {disk : Disk StateFile} {d : LicenseDelivery}
    (h : (runFaulty (handle env binding msg out r) as disk).1 = some ((r', actions, ended), as'))
    (hd : d ∈ handed actions) : ∃ u, msg = .licenseUpdate u ∧ d = delivery binding u := by
  cases msg with
  | configUpdate u =>
    obtain ⟨⟨r₁, actions₁⟩, h₁, heq⟩ := exists_of_bind_pure h
    obtain ⟨saved, -, hconfig⟩ := exists_of_bind_pure h₁
    cases heq
    cases hconfig
    have hnone : handed (configActions env u out) = [] := by
      rw [configActions, applyCalls]
      split <;> rfl
    rw [hnone] at hd
    cases hd
  | credentialRotation cr =>
    obtain ⟨r₁, -, heq⟩ := exists_of_bind_pure h
    cases heq
    cases hd
  | licenseUpdate u =>
    obtain ⟨actions₁, h₁, heq⟩ := exists_of_bind_pure h
    obtain ⟨saved, -, hlicense⟩ := exists_of_bind_pure h₁
    cases heq
    cases hlicense
    refine ⟨u, rfl, ?_⟩
    split at hd
    · exact List.mem_singleton.mp hd
    · cases hd
  | quarantine reason => cases h; cases hd
  | quotaStatus qs => cases h; cases hd
  | command _ => cases h; cases hd
  | diagnosticRequest => cases h; cases hd
  | logRequest => cases h; cases hd
  | none => cases h; cases hd

end License

end ControlPlaneClient
