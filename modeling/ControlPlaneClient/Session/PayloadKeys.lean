import ControlPlaneClient.Session.CredsAtomic

/-!
# Where the payload keys come from

`DekHandle::encrypt` and `decrypt_for_test` of `payload_dek.rs`, and the keys that processes seal
payloads with over their whole lives: each one was issued by the control plane, together with the
version that the host stamps on what it seals. AES-256-GCM is a parameter.
-/

namespace ControlPlaneClient

open FileSystem Transition

/-! ### Sealing -/

/-- An AEAD with associated data, keyed and nonced by byte strings. -/
structure PayloadCipher where
  encrypt (key nonce aad plain : Bytes) : Option Bytes
  decrypt (key nonce aad ct : Bytes) : Option Bytes
  decrypt_encrypt {key nonce aad plain ct : Bytes} (h : encrypt key nonce aad plain = some ct) :
    decrypt key nonce aad ct = some plain

namespace DekHandle

/-- The domain separator. -/
def aad : Bytes := utf8Bytes "mcpg-payload-source-v1"

/-- The nonce, and the ciphertext after it. -/
def encrypt (cipher : PayloadCipher) (nonce : Nonce) (k : DekHandle) (plaintext : Bytes) :
    Option Bytes :=
  (cipher.encrypt k.raw nonce aad plaintext).map fun ct => nonce.val ++ ct

/-- `None` for a blob that is shorter than a nonce. -/
def decryptForTest (cipher : PayloadCipher) (k : DekHandle) (blob : Bytes) : Option Bytes :=
  if blob.length < nonceLen then none
  else cipher.decrypt k.raw (blob.take nonceLen) aad (blob.drop nonceLen)

lemma decryptForTest_encrypt {cipher : PayloadCipher} {nonce : Nonce} {k : DekHandle}
    {plaintext blob : Bytes} (h : k.encrypt cipher nonce plaintext = some blob) :
    k.decryptForTest cipher blob = some plaintext := by
  obtain ⟨ct, hct, rfl⟩ := Option.map_eq_some_iff.mp h
  obtain ⟨nonce, hlen⟩ := nonce
  have hlong : ¬ (nonce ++ ct).length < nonceLen := by simp [hlen]
  rw [decryptForTest, if_neg hlong, List.take_left' hlen, List.drop_left' hlen]
  exact cipher.decrypt_encrypt hct

/-- A key with its version. -/
def issue (k : DekHandle) : Bytes × UInt32 := (k.raw, k.version)

end DekHandle

/-! ### Keys and their versions -/

section Keys

variable (base64 : Base64.Engine)

/-- The key that creds state, with its version. -/
def StoredCreds.payloadKey (creds : StoredCreds) : Option (Bytes × UInt32) :=
  if creds.payloadDekB64 = "" then none
  else (base64.decode creds.payloadDekB64).map fun raw => (raw, creds.payloadDekVersion)

/-- Creds that state no key, or one of these. -/
def StoredCreds.KeyIn (keys : List (Bytes × UInt32)) (creds : StoredCreds) : Prop :=
  ∀ k, creds.payloadKey base64 = some k → k ∈ keys

/-- A slot that is empty or holds one of these keys. -/
def SlotIn (keys : List (Bytes × UInt32)) (slot : Option DekHandle) : Prop :=
  ∀ k, slot = some k → k.issue ∈ keys

/-- The keys that a message or an answer of the control plane issues. -/
def CredentialRotation.issues (cr : CredentialRotation) : List (Bytes × UInt32) :=
  [(cr.payloadDek, cr.payloadDekVersion)]

def LoopEvent.issues : LoopEvent → List (Bytes × UInt32)
  | .registered resp _ => [(resp.payloadDek, resp.payloadDekVersion)]
  | .rotation cr _     => cr.issues
  | _                  => []

def HostEvent.issues {Bundle QuotaStatus : Type} : HostEvent Bundle QuotaStatus →
    List (Bytes × UInt32)
  | .loop e                                => e.issues
  | .message _ (.credentialRotation cr) _  => cr.issues
  | _                                      => []

variable {base64} {keys more : List (Bytes × UInt32)} {slot : Option DekHandle}
  {creds : StoredCreds}

lemma SlotIn.mono (h : SlotIn keys slot) (hsub : keys ⊆ more) : SlotIn more slot :=
  fun k hk => hsub (h k hk)

lemma StoredCreds.KeyIn.mono (h : creds.KeyIn base64 keys) (hsub : keys ⊆ more) :
    creds.KeyIn base64 more := fun k hk => hsub (h k hk)

/-- A handle carries the key and the version that it was made of. -/
lemma fromProto_issue {raw : Bytes} {version : UInt32} {k : DekHandle}
    (h : DekHandle.fromProto raw version = .ok (some k)) : k.issue = (raw, version) := by
  unfold DekHandle.fromProto at h
  split at h
  · cases h
  · split at h
    · split at h
      · cases h
      · cases h
        rfl
    · cases h

lemma SlotIn.store {raw : Bytes} {version : UInt32} (h : SlotIn keys slot)
    (hmem : (raw, version) ∈ keys) : SlotIn keys (storeDek slot (DekHandle.fromProto raw version)) := by
  cases hproto : DekHandle.fromProto raw version with
  | error e => exact h
  | ok accepted =>
    cases accepted with
    | none => exact h
    | some k =>
      intro k' hk'
      cases hk'
      rw [fromProto_issue hproto]
      exact hmem

lemma SlotIn.install (h : SlotIn keys slot) (hcreds : creds.KeyIn base64 keys) :
    SlotIn keys (installPayloadDekFromCreds base64 creds slot) := by
  rw [installPayloadDekFromCreds]
  split
  · exact h
  · next hne =>
    cases hraw : base64.decode creds.payloadDekB64 with
    | none => exact h
    | some raw =>
      apply h.store
      apply hcreds
      rw [StoredCreds.payloadKey, if_neg hne, hraw, Option.map_some]

lemma SlotIn.refresh {cr : CredentialRotation} (h : SlotIn keys slot)
    (hmem : (cr.payloadDek, cr.payloadDekVersion) ∈ keys) : SlotIn keys (refreshDek cr slot) := by
  rw [refreshDek]
  split
  · exact h.store hmem
  · exact h

/-- What encodes a key states that key. -/
lemma payloadKey_of_encode {raw : Bytes} (hraw : raw ≠ [])
    (h : creds.payloadDekB64 = base64.encode raw) :
    creds.payloadKey base64 = some (raw, creds.payloadDekVersion) := by
  rw [StoredCreds.payloadKey, h, if_neg (base64.encode_ne_empty hraw), base64.decode_encode,
    Option.map_some]

/-- A rotation replaces the key together with its version, or neither. -/
lemma StoredCreds.KeyIn.rotate {cr : CredentialRotation} {now : DateTime}
    (h : creds.KeyIn base64 keys) (hmem : (cr.payloadDek, cr.payloadDekVersion) ∈ keys) :
    (creds.rotate base64 now cr).KeyIn base64 keys := by
  intro k hk
  by_cases hset : cr.payloadDek ≠ [] ∧ cr.payloadDekVersion ≠ 0
  · rw [payloadKey_of_encode hset.1 (by rw [rotate_payloadDekB64, if_pos hset]),
      rotate_payloadDekVersion, if_pos hset] at hk
    cases hk
    exact hmem
  · rw [StoredCreds.payloadKey, rotate_payloadDekB64, rotate_payloadDekVersion, if_neg hset,
      if_neg hset] at hk
    exact h k hk

lemma keyIn_toCreds {resp : RegisterResponse} {now : DateTime}
    (hmem : (resp.payloadDek, resp.payloadDekVersion) ∈ keys) :
    (resp.toCreds base64 now).KeyIn base64 keys := by
  intro k hk
  by_cases hdek : resp.payloadDek = []
  · simp [StoredCreds.payloadKey, RegisterResponse.toCreds, hdek] at hk
  · rw [payloadKey_of_encode hdek (by simp [RegisterResponse.toCreds, hdek])] at hk
    cases hk
    exact hmem

end Keys

/-! ### The creds file -/

section Files

variable {Bundle QuotaStatus : Type} (env : AgentEnv Bundle)

/-- Creds that can be read have `P`. -/
def CredsOnlyMeet (P : StoredCreds → Prop) (d : Disk StateFile) : Prop :=
  ∀ creds, storedCreds env d.files = some creds → P creds

variable {env} {P : StoredCreds → Prop} {d : Disk StateFile}

lemma aboutCreds_credsOnlyMeet : AboutCreds (CredsOnlyMeet env P) := by
  intro d d' hsame h creds hcreds
  apply h
  rw [storedCreds, ← hsame]
  exact hcreds

lemma CredsMeet.only (h : CredsMeet env P d) : CredsOnlyMeet env P d := by
  obtain ⟨creds, hcreds, hP⟩ := h
  intro creds' hcreds'
  rw [hcreds] at hcreds'
  cases hcreds'
  exact hP

/-- What is read is what the file holds. -/
lemma holds_readStoredCreds_stored (d : Disk StateFile) :
    Holds (readStoredCreds env.creds) d
      (fun creds d' => d' = d ∧ storedCreds env d.files = some creds) fun d' => d' = d := by
  apply holds_bind
  refine holds_read rfl ?_
  intro bytes hbytes
  cases hdecode : env.creds.decode bytes with
  | none => exact holds_failure rfl
  | some creds =>
    apply holds_pure
    refine ⟨rfl, ?_⟩
    rw [storedCreds, hbytes, Option.bind_some, hdecode]

/-- A rotation that finds nothing to read writes nothing. -/
lemma maintains_persistRotatedCreds_none (now : DateTime) (cr : CredentialRotation) :
    Maintains (fun d => storedCreds env d.files = none)
      (persistRotatedCreds env.creds env.base64 now cr).run := by
  apply Holds.maintains
  intro d hd
  apply holds_bind
  refine (holds_readStoredCreds_stored d).mono ?_ ?_
  · rintro creds d' ⟨-, hcreds⟩
    rw [hd] at hcreds
    cases hcreds
  · rintro d' rfl
    exact hd

lemma handleCredentialRotation_credsOnlyMeet {cr : CredentialRotation} {out : Outside}
    (r : AgentRunner QuotaStatus) (as : List Answer) (h : CredsOnlyMeet env P d)
    (hrotate : ∀ creds, P creds → P (creds.rotate env.base64 out.writtenAt cr)) :
    CredsOnlyMeet env P (runFaulty (handleCredentialRotation env cr out r) as d).2 := by
  cases hcreds : storedCreds env d.files with
  | some creds =>
    have hP := h creds hcreds
    exact (handleCredentialRotation_credsMeet env r as hcreds hP fun _ => hrotate creds hP).only
  | none =>
    have hnone : Maintains (fun d => storedCreds env d.files = none)
        (handleCredentialRotation env cr out r) := by
      rw [handleCredentialRotation]
      split
      · apply maintains_bind (maintains_persistRotatedCreds_none out.writtenAt cr)
        intro _
        refine maintains_bind ?_ fun _ => maintains_pure _
        rw [rereadCreds]
        split
        · exact maintains_readStoredCreds env
        · exact maintains_pure _
      · exact maintains_pure _
    intro creds hcreds'
    rw [hnone d hcreds as] at hcreds'
    cases hcreds'

lemma handle_credsOnlyMeet (binding : ChannelBinding) {msg : ServerMessage Bundle QuotaStatus}
    {out : Outside} (r : AgentRunner QuotaStatus) (as : List Answer) (h : CredsOnlyMeet env P d)
    (hrotate : ∀ cr, msg = .credentialRotation cr →
      ∀ creds, P creds → P (creds.rotate env.base64 out.writtenAt cr)) :
    CredsOnlyMeet env P (runFaulty (handle env binding msg out r) as d).2 := by
  have habout : AboutCreds (CredsOnlyMeet env P) := aboutCreds_credsOnlyMeet
  cases msg with
  | configUpdate u =>
    exact maintains_bind (maintains_handleConfigUpdate habout (by decide) env u out r)
      (fun _ => maintains_pure _) d h as
  | credentialRotation cr =>
    exact runFaulty_bind_disk (handleCredentialRotation_credsOnlyMeet r as h (hrotate cr rfl))
      fun _ => maintains_pure _
  | licenseUpdate u =>
    have hsave := maintains_saveCached habout (by decide) (by decide) env.license (delivery binding u)
    exact maintains_bind (maintains_bind hsave fun _ => maintains_pure _)
      (fun _ => maintains_pure _) d h as
  | quarantine reason => exact h
  | quotaStatus qs => exact h
  | command _ => exact h
  | diagnosticRequest => exact h
  | logRequest => exact h
  | none => exact h

/-- Where nothing is read from a part of a JSON text, a registration that is cut short leaves no
creds at all. -/
lemma storeFreshCreds_credsOnlyMeet {creds : StoredCreds}
    (hjson : ∀ n < (env.creds.encode creds).length,
      env.creds.decode ((env.creds.encode creds).take n) = none) (hP : P creds) :
    Maintains (CredsOnlyMeet env P) (storeFreshCreds env.creds creds).run := by
  have hput : ∀ d : Disk StateFile,
      CredsOnlyMeet env P (d.put .creds (env.creds.encode creds)) := by
    intro d c hc
    rw [storedCreds, Disk.put_self, Option.bind_some, env.creds.decode_encode] at hc
    cases hc
    exact hP
  have hwrite : Maintains (CredsOnlyMeet env P) (write .creds (env.creds.encode creds)).run := by
    apply Holds.maintains
    intro d hd
    apply holds_write hd _ (hput d)
    intro n
    by_cases hn : n < (env.creds.encode creds).length
    · intro c hc
      rw [storedCreds, Disk.put_self, Option.bind_some, hjson n hn] at hc
      cases hc
    · rw [List.take_of_length_le (Nat.le_of_not_lt hn)]
      exact hput d
  apply maintains_run_bind (maintains_attempt hwrite)
  intro _
  exact maintains_run_bind (maintains_attempt maintains_setPermissions) fun _ =>
    maintains_run_pure _

lemma discardStoredCreds_credsOnlyMeet : Maintains (CredsOnlyMeet env P) discardStoredCreds.run := by
  refine maintains_run_bind (maintains_attempt (maintains_removeFile ?_)) fun _ =>
    maintains_run_pure _
  intro d _ creds hcreds
  simp [storedCreds, Disk.remove] at hcreds

end Files

/-! ### The slot -/

section Slot

variable {Bundle QuotaStatus : Type} {keys : List (Bytes × UInt32)}

/-- Only a registration and a rotation touch the slot. -/
lemma RunLoop.Effect.slotIn {env : LoopEnv} {s s' : RunLoop QuotaStatus} {e : LoopEvent}
    (h : RunLoop.Effect env s e s') (hs : SlotIn keys s.runner.payloadDek)
    (hissues : e.issues ⊆ keys) : SlotIn keys s'.runner.payloadDek := by
  cases h with
  | registered resp now next hpc => exact hs.install (keyIn_toCreds (hissues (by simp [LoopEvent.issues])))
  | rotation cr stored wait hpc hjwt =>
    exact hs.refresh (hissues (by simp [LoopEvent.issues, CredentialRotation.issues]))
  | settle result hpc => exact RunLoop.settle_induction env s result hs fun _ _ => hs
  | _ => exact hs

lemma start_slotIn {env : LoopEnv} {creds : Option StoredCreds}
    (h : ∀ c, creds = some c → c.KeyIn env.base64 keys) :
    SlotIn keys (RunLoop.start env creds : RunLoop QuotaStatus).runner.payloadDek := by
  have hboot : SlotIn keys (boot env.cfg : AgentRunner QuotaStatus).payloadDek := by
    unfold boot
    split <;> nofun
  cases creds with
  | some creds => exact hboot.install (h creds rfl)
  | none => exact hboot

lemma preload_slotIn {p : Process QuotaStatus} {bundle : Option (Option (String × Bundle))}
    (h : SlotIn keys p.loop.runner.payloadDek) :
    SlotIn keys (p.preload bundle).loop.runner.payloadDek := by
  unfold Process.preload
  split <;> exact h

lemma handle_slotIn (env : AgentEnv Bundle) (binding : ChannelBinding)
    {msg : ServerMessage Bundle QuotaStatus} {out : Outside} {r : AgentRunner QuotaStatus}
    (hs : SlotIn keys r.payloadDek)
    (hissues : ∀ cr, msg = .credentialRotation cr → cr.issues ⊆ keys) :
    Returns (handle env binding msg out r) fun result => SlotIn keys result.1.payloadDek := by
  cases msg with
  | configUpdate u =>
    have hupdate : Returns (handleConfigUpdate env u out r) fun result =>
        SlotIn keys result.1.payloadDek := by
      apply returns_bind
      intro saved
      apply returns_pure
      unfold noteApplied
      split <;> exact hs
    exact hupdate.map fun _ h => h
  | credentialRotation cr =>
    have hrotation : Returns (handleCredentialRotation env cr out r) fun r =>
        SlotIn keys r.payloadDek := by
      rw [handleCredentialRotation]
      split
      · apply returns_bind
        intro persisted
        apply returns_bind
        intro stored
        apply returns_pure
        exact hs.refresh (hissues cr rfl List.mem_cons_self)
      · exact returns_pure hs
    exact hrotation.map fun _ h => h
  | licenseUpdate u =>
    apply returns_bind
    intro actions
    exact returns_pure hs
  | quarantine reason => exact returns_pure hs
  | quotaStatus qs => exact returns_pure hs
  | command _ => exact returns_pure hs
  | diagnosticRequest => exact returns_pure hs
  | logRequest => exact returns_pure hs
  | none => exact returns_pure hs

/-- The creds that a process starts with are those of the file. -/
lemma holds_openStateDir (env : HostEnv Bundle) (d : Disk StateFile) :
    Holds (openStateDir env) d
      (fun r _ => ∀ creds, r = some creds → storedCreds env.agent d.files = some creds)
      fun _ => True := by
  apply holds_bind
  refine holds_createDirAll trivial ?_
  refine holds_attempt (J := fun _ => True)
    ((holds_readStoredCreds_stored d).mono ?_ fun _ _ => trivial) ?_ fun _ _ => trivial
  · rintro creds d' ⟨-, hcreds⟩ creds' hsame
    cases hsame
    exact hcreds
  · nofun

end Slot

/-! ### A step of the state directory -/

section Step

variable {Bundle QuotaStatus : Type} {env : HostEnv Bundle} {process : Option (Process QuotaStatus)}
  {e : HostEvent Bundle QuotaStatus} {x : Prog StateFile (Option (Process QuotaStatus))}
  {keys : List (Bytes × UInt32)} {d : Disk StateFile}

lemma loopFiles_credsOnlyMeet (pc : LoopPc) (e : LoopEvent)
    (hjson : ∀ creds, ∀ n < (env.agent.creds.encode creds).length,
      env.agent.creds.decode ((env.agent.creds.encode creds).take n) = none)
    (hissues : e.issues ⊆ keys) :
    Maintains (CredsOnlyMeet env.agent (StoredCreds.KeyIn env.agent.base64 keys))
      (loopFiles env pc e).run := by
  unfold loopFiles
  split
  · next resp now =>
    refine storeFreshCreds_credsOnlyMeet (hjson _) ?_
    exact keyIn_toCreds (hissues (by simp [LoopEvent.issues]))
  · split
    · split
      · exact discardStoredCreds_credsOnlyMeet
      · exact maintains_run_pure _
    · exact maintains_run_pure _
  · exact maintains_run_pure _

lemma does_credsOnlyMeet
    (hjson : ∀ creds, ∀ n < (env.agent.creds.encode creds).length,
      env.agent.creds.decode ((env.agent.creds.encode creds).take n) = none)
    (hx : Does env process e x)
    (h : CredsOnlyMeet env.agent (StoredCreds.KeyIn env.agent.base64 keys) d)
    (hissues : e.issues ⊆ keys) (as : List Answer) :
    CredsOnlyMeet env.agent (StoredCreds.KeyIn env.agent.base64 keys) (runFaulty x as d).2 := by
  have habout : AboutCreds
      (CredsOnlyMeet env.agent (StoredCreds.KeyIn env.agent.base64 keys)) :=
    aboutCreds_credsOnlyMeet
  cases hx with
  | boot =>
    refine maintains_bind (maintains_run_bind maintains_createDirAll fun _ => ?_)
      (fun _ => maintains_pure _) d h as
    exact maintains_attempt (maintains_readStoredCreds env.agent)
  | preload p fresh htop hfirst =>
    exact maintains_bind (maintains_loadBundle (maintains_nodeSecret_other habout (by decide) _ fresh))
      (fun _ => maintains_pure _) d h as
  | loop p e loop hloop =>
    exact maintains_bind (loopFiles_credsOnlyMeet p.loop.pc e hjson hissues)
      (fun _ => maintains_pure _) d h as
  | message p binding msg out wait hparked =>
    refine runFaulty_bind_disk ?_ fun _ => maintains_pure _
    apply handle_credsOnlyMeet binding p.loop.runner as h
    rintro cr rfl creds hcreds
    exact hcreds.rotate (hissues List.mem_cons_self)
  | exit p => exact h

lemma does_slotIn (hx : Does env process e x)
    (hfile : CredsOnlyMeet env.agent (StoredCreds.KeyIn env.agent.base64 keys) d)
    (hslot : ∀ p, process = some p → SlotIn keys p.loop.runner.payloadDek)
    (hissues : e.issues ⊆ keys) {as : List Answer} {p' : Process QuotaStatus}
    (h : (runFaulty x as d).1.bind Prod.fst = some p') : SlotIn keys p'.loop.runner.payloadDek := by
  obtain ⟨r, hr, hp'⟩ := Option.bind_eq_some_iff.mp h
  cases hx with
  | boot =>
    obtain ⟨creds, hcreds, hr⟩ := exists_of_bind_pure hr
    rw [← hr] at hp'
    obtain ⟨creds, rfl, rfl⟩ := Option.map_eq_some_iff.mp hp'
    have hread := holds_openStateDir env d as
    generalize runFaulty (openStateDir env).run as d = out at hcreds hread
    obtain ⟨result, d'⟩ := out
    cases hcreds
    apply start_slotIn
    intro creds hcreds
    exact hfile creds (hread creds hcreds)
  | preload p fresh htop hfirst =>
    obtain ⟨bundle, -, hr⟩ := exists_of_bind_pure hr
    rw [← hr] at hp'
    cases hp'
    exact preload_slotIn (hslot p rfl)
  | loop p e loop hloop =>
    obtain ⟨-, -, hr⟩ := exists_of_bind_pure hr
    rw [← hr] at hp'
    cases hp'
    exact (RunLoop.step_effect env.loop hloop).slotIn (hslot p rfl) hissues
  | message p binding msg out wait hparked =>
    obtain ⟨result, hresult, hr⟩ := exists_of_bind_pure hr
    rw [← hr] at hp'
    cases hp'
    refine handle_slotIn env.agent binding (hslot p rfl) ?_ as d _ hresult
    rintro cr rfl
    exact hissues
  | exit p =>
    cases hr
    cases hp'

end Step

namespace StateDir

variable {Bundle QuotaStatus : Type} {env : HostEnv Bundle} {keys : List (Bytes × UInt32)}

/-- The creds file and the slot of the process, if there is one, hold one of these keys or none. -/
structure Issued (env : HostEnv Bundle) (keys : List (Bytes × UInt32)) (s : StateDir QuotaStatus) :
    Prop where
  file : CredsOnlyMeet env.agent (StoredCreds.KeyIn env.agent.base64 keys) ⟨s.files, []⟩
  slot : ∀ p, s.process = some p → SlotIn keys p.loop.runner.payloadDek

lemma Issued.mono {s : StateDir QuotaStatus} {more : List (Bytes × UInt32)} (hs : s.Issued env keys)
    (hsub : keys ⊆ more) : s.Issued env more :=
  ⟨fun creds hcreds => (hs.file creds hcreds).mono hsub, fun p hp => (hs.slot p hp).mono hsub⟩

lemma step_issued {s s' : StateDir QuotaStatus} {item : HostEvent Bundle QuotaStatus × List Answer}
    (hjson : ∀ creds, ∀ n < (env.agent.creds.encode creds).length,
      env.agent.creds.decode ((env.agent.creds.encode creds).take n) = none)
    (hs : s.Issued env keys) (hissues : item.1.issues ⊆ keys) (h : s.step env item = some s') :
    s'.Issued env keys := by
  obtain ⟨x, hx, hprocess, hfiles, -⟩ := step_eq_some h
  constructor
  · rw [hfiles]
    exact does_credsOnlyMeet hjson hx hs.file hissues item.2
  · intro p hp
    rw [hprocess] at hp
    exact does_slotIn hx hs.file hs.slot hissues hp

lemma exec_issued {items : List (HostEvent Bundle QuotaStatus × List Answer)}
    {s s' : StateDir QuotaStatus}
    (hjson : ∀ creds, ∀ n < (env.agent.creds.encode creds).length,
      env.agent.creds.decode ((env.agent.creds.encode creds).take n) = none)
    (hs : s.Issued env keys) (h : exec (step env) s items = some s') :
    s'.Issued env (keys ++ items.flatMap fun item => item.1.issues) := by
  induction items generalizing s keys with
  | nil =>
    cases h
    rw [List.flatMap_nil, List.append_nil]
    exact hs
  | cons item items ih =>
    obtain ⟨t, ht, hrest⟩ := exec_cons_eq_some.mp h
    rw [List.flatMap_cons, ← List.append_assoc]
    refine ih ?_ hrest
    exact step_issued hjson (hs.mono (List.subset_append_left _ _)) (List.subset_append_right _ _) ht

variable (env)

/-- The key that the creds file states at the start. -/
def initialKey (files : Files StateFile) : List (Bytes × UInt32) :=
  ((storedCreds env.agent files).bind (StoredCreds.payloadKey env.agent.base64)).toList

/-- Through any number of processes, with operations that fail and processes that are gone at any
point, the key in the slot is one that the creds file stated at the start or that the control plane
has issued since, with the version it was issued under; whoever has that key opens what is sealed.
`hjson` says that nothing is read from a part of a JSON text. -/
theorem payload_key_issued (files : Files StateFile)
    (items : List (HostEvent Bundle QuotaStatus × List Answer)) (s : StateDir QuotaStatus)
    (hjson : ∀ creds, ∀ n < (env.agent.creds.encode creds).length,
      env.agent.creds.decode ((env.agent.creds.encode creds).take n) = none)
    (h : exec (step env) (start files) items = some s) (p : Process QuotaStatus)
    (hp : s.process = some p) (k : DekHandle) (hk : p.loop.runner.payloadDek = some k) :
    ∃ raw version opener,
      (raw, version) ∈ initialKey env files ++ items.flatMap (fun item => item.1.issues) ∧
      DekHandle.fromProto raw version = .ok (some opener) ∧ k.version = version ∧
      ∀ cipher nonce plaintext blob, k.encrypt cipher nonce plaintext = some blob →
        opener.decryptForTest cipher blob = some plaintext := by
  have hstart : (start files : StateDir QuotaStatus).Issued env (initialKey env files) := by
    constructor
    · intro creds hcreds key hkey
      have hstored : storedCreds env.agent files = some creds := hcreds
      rw [initialKey, hstored, Option.bind_some, hkey]
      exact List.mem_singleton_self key
    · intro p hp
      cases hp
  have hissued := (exec_issued hjson hstart h).slot p hp k hk
  refine ⟨k.raw, k.version, k, hissued, fromProto_accepts k.raw_length k.version_ne, rfl, ?_⟩
  intro cipher nonce plaintext blob hblob
  exact DekHandle.decryptForTest_encrypt hblob

/-- The key that the sample answer issues. -/
def sampleKey : DekHandle := ⟨List.replicate 32 7, 1, by decide, by decide⟩

lemma install_sampleResponse (slot : Option DekHandle) :
    installPayloadDekFromCreds Base64.standard (sampleResponse.toCreds Base64.standard 0) slot =
      some sampleKey := by
  have hdecode : Base64.standard.decode reissuedCreds.payloadDekB64 = some (List.replicate 32 7) := by
    decide +kernel
  have hne : reissuedCreds.payloadDekB64 ≠ "" := by decide
  rw [sampleResponse_toCreds, installPayloadDekFromCreds, if_neg hne, hdecode]
  rfl

/-- A process seals with the key that its registration issued. -/
theorem payload_key_issued_reenrolled :
    let env := sampleHost reissuedCodec sampleUrl
    let items := reenrolling ++ [reenrolled [.ok, .ok]]
    ∃ s p, exec (step env) (start (sampleWorld reissuedCodec).files) items = some s ∧
      s.process = some p ∧ p.loop.runner.payloadDek = some sampleKey ∧
      ∃ raw version opener, (raw, version) ∈ initialKey env (sampleWorld reissuedCodec).files ++
          items.flatMap (fun item => item.1.issues) ∧
        DekHandle.fromProto raw version = .ok (some opener) ∧ sampleKey.version = version ∧
        ∀ cipher nonce plaintext blob, sampleKey.encrypt cipher nonce plaintext = some blob →
          opener.decryptForTest cipher blob = some plaintext := by
  intro env items
  obtain ⟨s, p, hs, hp, hpc, -⟩ := exec_reenrolling reissuedCodec sampleUrl (by decide)
  have hstep : ∃ s' p', s.step env (reenrolled [.ok, .ok]) = some s' ∧ s'.process = some p' ∧
      p'.loop.runner.payloadDek = some sampleKey := by
    simp only [step, hp, reenrolled, program, Process.loopStep, RunLoop.step, hpc, Option.map_some]
    refine ⟨_, _, rfl, rfl, ?_⟩
    have hbase : env.loop.base64 = Base64.standard := by
      rw [sampleHost_loop reissuedCodec (by decide)]
    show installPayloadDekFromCreds env.loop.base64 (sampleResponse.toCreds env.loop.base64 0)
      p.loop.runner.payloadDek = some sampleKey
    rw [hbase]
    exact install_sampleResponse p.loop.runner.payloadDek
  obtain ⟨s', p', hs', hp', hkey⟩ := hstep
  have hrun : exec (step env) (start (sampleWorld reissuedCodec).files) items = some s' := by
    rw [exec_append_of_some hs, exec, hs']
    rfl
  exact ⟨s', p', hrun, hp', hkey, payload_key_issued env _ items s' reissuedCodec_take hrun p' hp'
    sampleKey hkey⟩

end StateDir

end ControlPlaneClient
