import ControlPlaneClient.Agent.Inbound

/-!
# Credential rotations

What a `CredentialRotation` leaves in memory and what it leaves on disk, compared with what a
process restarted on that disk would install. The file operations succeed.
-/

namespace ControlPlaneClient

open FileSystem Transition

variable {Bundle QuotaStatus : Type} (env : AgentEnv Bundle)

/-! ### The rotated creds -/

section Rotate

variable (base64 : Base64.Engine) (creds : StoredCreds) (now : DateTime) (cr : CredentialRotation)

@[simp] lemma rotate_instanceId : (creds.rotate base64 now cr).instanceId = creds.instanceId := by
  simp only [StoredCreds.rotate]
  split_ifs <;> rfl

@[simp] lemma rotate_instanceJwt : (creds.rotate base64 now cr).instanceJwt = cr.instanceJwt := by
  simp only [StoredCreds.rotate]
  split_ifs <;> rfl

@[simp] lemma rotate_cpEndpoint : (creds.rotate base64 now cr).cpEndpoint = creds.cpEndpoint := by
  simp only [StoredCreds.rotate]
  split_ifs <;> rfl

@[simp] lemma rotate_caChainPem : (creds.rotate base64 now cr).caChainPem = creds.caChainPem := by
  simp only [StoredCreds.rotate]
  split_ifs <;> rfl

lemma rotate_clientCertPem : (creds.rotate base64 now cr).clientCertPem =
    if cr.clientCertPem ≠ "" then cr.clientCertPem else creds.clientCertPem := by
  simp only [StoredCreds.rotate]
  split_ifs <;> rfl

lemma rotate_clientKeyPem : (creds.rotate base64 now cr).clientKeyPem =
    if cr.clientKeyPem ≠ "" then cr.clientKeyPem else creds.clientKeyPem := by
  simp only [StoredCreds.rotate]
  split_ifs <;> rfl

lemma rotate_payloadDekB64 : (creds.rotate base64 now cr).payloadDekB64 =
    if cr.payloadDek ≠ [] ∧ cr.payloadDekVersion ≠ 0 then base64.encode cr.payloadDek
    else creds.payloadDekB64 := by
  simp only [StoredCreds.rotate]
  split_ifs <;> rfl

lemma rotate_payloadDekVersion : (creds.rotate base64 now cr).payloadDekVersion =
    if cr.payloadDek ≠ [] ∧ cr.payloadDekVersion ≠ 0 then cr.payloadDekVersion
    else creds.payloadDekVersion := by
  simp only [StoredCreds.rotate]
  split_ifs <;> rfl

end Rotate

/-! ### The creds file -/

/-- The creds that the file holds. -/
def storedCreds (fs : Files StateFile) : Option StoredCreds := (fs .creds).bind env.creds.decode

lemma eval_readStoredCreds (fs : Files StateFile) :
    eval (readStoredCreds env.creds) fs = (storedCreds env fs, fs) := by
  rw [readStoredCreds, eval_bind, eval_read, storedCreds]
  cases fs .creds with
  | none => rfl
  | some bytes => cases h : env.creds.decode bytes <;> simp [h]

/-- The files after the creds file was rewritten through its temporary file. -/
def withCreds (creds : StoredCreds) (fs : Files StateFile) : Files StateFile :=
  Function.update (Function.update fs .creds (some (env.creds.encode creds))) .credsTmp none

@[simp] lemma storedCreds_withCreds (creds : StoredCreds) (fs : Files StateFile) :
    storedCreds env (withCreds env creds fs) = some creds := by
  simp [storedCreds, withCreds, env.creds.decode_encode]

lemma eval_persistRotatedCreds {fs : Files StateFile} {creds : StoredCreds} (now : DateTime)
    (cr : CredentialRotation) (h : storedCreds env fs = some creds) :
    eval (persistRotatedCreds env.creds env.base64 now cr) fs =
      (some (), withCreds env (creds.rotate env.base64 now cr) fs) := by
  have hread : eval (readStoredCreds env.creds) fs = (some creds, fs) := by
    rw [eval_readStoredCreds, h]
  rw [persistRotatedCreds, eval_bind_of_some hread, eval_bind_of_some (eval_write _ _ _),
    eval_bind_of_some (eval_attempt _ _), eval_setPermissions (by simp),
    eval_rename (Function.update_self _ _ _), eval_write_rename (by decide)]
  rfl

/-- A rotation rewrites the creds file, and refreshes the memory from what it wrote. -/
lemma run_handleCredentialRotation {fs : Files StateFile} {creds : StoredCreds} (out : Outside)
    {cr : CredentialRotation} (r : AgentRunner QuotaStatus) (hjwt : cr.instanceJwt ≠ "")
    (h : storedCreds env fs = some creds) :
    run (handleCredentialRotation env cr out r) fs =
      (rotateRunner cr (some (creds.rotate env.base64 out.writtenAt cr)) r,
        withCreds env (creds.rotate env.base64 out.writtenAt cr) fs) := by
  have hpersist : run (persistRotatedCreds env.creds env.base64 out.writtenAt cr).run fs = _ :=
    eval_persistRotatedCreds env out.writtenAt cr h
  have hread : run (readStoredCreds env.creds).run _ = _ :=
    eval_readStoredCreds env (withCreds env (creds.rotate env.base64 out.writtenAt cr) fs)
  rw [handleCredentialRotation, if_pos hjwt, run_bind_eq, hpersist, run_bind_eq, rereadCreds]
  by_cases hcert : cr.clientCertPem = ""
  · simp [hcert, rotateRunner, refreshTls]
  · rw [if_pos hcert, hread, storedCreds_withCreds, run_pure]

/-- The round of the loop that handles a rotation. -/
lemma receive_credentialRotation_eq (binding : ChannelBinding) {w : World QuotaStatus}
    {creds : StoredCreds} (out : Outside) {cr : CredentialRotation} (hjwt : cr.instanceJwt ≠ "")
    (hcreds : storedCreds env w.files = some creds) :
    receive env binding w (.credentialRotation cr, out) =
      some ⟨(run (handleCredentialRotation env cr out w.runner) w.files).1,
        withCreds env (creds.rotate env.base64 out.writtenAt cr) w.files⟩ := by
  have hrun := run_handleCredentialRotation env out w.runner hjwt hcreds
  simp only [receive, handle, run_bind_eq, hrun, run_pure]

/-- The world after a rotation. -/
lemma receive_credentialRotation {binding : ChannelBinding} {w w' : World QuotaStatus}
    {creds : StoredCreds} {out : Outside} {cr : CredentialRotation} (hjwt : cr.instanceJwt ≠ "")
    (hcreds : storedCreds env w.files = some creds)
    (h : receive env binding w (.credentialRotation cr, out) = some w') :
    storedCreds env w'.files = some (creds.rotate env.base64 out.writtenAt cr) ∧
    w'.runner.payloadDek = refreshDek cr w.runner.payloadDek ∧
    w'.runner.client.tls =
      if cr.clientCertPem ≠ "" then
        some ⟨creds.caChainPem, cr.clientCertPem, cr.clientKeyPem, none⟩
      else w.runner.client.tls := by
  have hrun := run_handleCredentialRotation env out w.runner hjwt hcreds
  rw [receive_credentialRotation_eq env binding out hjwt hcreds, Option.some.injEq, hrun] at h
  subst h
  refine ⟨storedCreds_withCreds env _ _, rfl, ?_⟩
  simp only [rotateRunner, refreshTls, rotate_caChainPem]
  split_ifs <;> rfl

/-! ### A sample creds file -/

/-- The pretty-printed JSON of creds issued at the epoch, after the opening brace. -/
def epochCredsFields (c : StoredCreds) : String :=
  "\n  \"instance_id\": \"" ++ c.instanceId ++
    "\",\n  \"instance_jwt\": \"" ++ c.instanceJwt ++
    "\",\n  \"cp_endpoint\": \"" ++ c.cpEndpoint ++
    "\",\n  \"issued_at\": \"1970-01-01T00:00:00Z\",\n  \"client_cert_pem\": \"" ++
    c.clientCertPem ++ "\",\n  \"client_key_pem\": \"" ++ c.clientKeyPem ++
    "\",\n  \"ca_chain_pem\": \"" ++ c.caChainPem ++
    "\",\n  \"payload_dek_b64\": \"" ++ c.payloadDekB64 ++
    "\",\n  \"payload_dek_version\": " ++ toString c.payloadDekVersion.toNat ++ "\n\x7d"

def epochCredsJson (c : StoredCreds) : Bytes := utf8Bytes ("\x7b" ++ epochCredsFields c)

def sampleCreds : StoredCreds where
  instanceId := "inst-1"
  instanceJwt := "h.p1.s"
  cpEndpoint := "https://cp.example:7844"
  issuedAt := 0
  clientCertPem := "cert-1"
  clientKeyPem := "key-1"
  caChainPem := "ca-1"
  payloadDekB64 := "BwcHBwcHBwcHBwcHBwcHBwcHBwcHBwcHBwcHBwcHBwc="
  payloadDekVersion := 1

/-- A rotation of the sample creds. -/
def sampleRotation (cert key : String) (dek : Bytes) : CredentialRotation where
  instanceJwt := "h.p2.s"
  clientCertPem := cert
  clientKeyPem := key
  payloadDek := dek
  payloadDekVersion := 2

/-- serde's JSON on the sample creds and on the creds that a rotation makes of them. -/
def sampleCodec (rotated : StoredCreds)
    (hne : epochCredsFields sampleCreds ≠ epochCredsFields rotated) : Codec StoredCreds Bytes :=
  have hjson : epochCredsJson sampleCreds ≠ epochCredsJson rotated := fun h =>
    hne ((String.append_right_inj "\x7b").mp (utf8Bytes_injective h))
  Codec.unary.override epochCredsJson [sampleCreds, rotated] (by simp [hjson, hjson.symm])
    fun _ _ => Codec.unary_decode_eq_none (utf8Bytes_brace_all _)

/-- An agent that runs on the sample creds file. -/
def sampleWorld (codec : Codec StoredCreds Bytes) : World Unit where
  runner := installCreds Base64.standard sampleCreds (boot ⟨"https://cp.example:7844", none⟩)
  files p := if p = .creds then some (codec.encode sampleCreds) else none

lemma sampleWorld_storedCreds (codec : Codec StoredCreds Bytes) :
    storedCreds (sampleEnv codec) (sampleWorld codec).files = some sampleCreds :=
  codec.decode_encode sampleCreds

/-! ### The payload key -/

/-- What a restarted process installs from the creds on disk. -/
lemma restarted_eq {fs : Files StateFile} {creds : StoredCreds}
    (h : storedCreds env fs = some creds) :
    (restarted env.creds env.base64 env.cfg fs : Option (AgentRunner QuotaStatus)) =
      some (installCreds env.base64 creds (boot env.cfg)) := by
  rw [restarted, eval_readStoredCreds, h, Option.map_some]

lemma boot_payloadDek (cfg : AgentRunnerConfig) :
    (boot cfg : AgentRunner QuotaStatus).payloadDek = none := by
  rw [boot]
  cases cfg.bootstrapCaPem <;> rfl

lemma restarted_payloadDek {fs : Files StateFile} {creds : StoredCreds}
    (h : storedCreds env fs = some creds) :
    (restarted env.creds env.base64 env.cfg fs : Option (AgentRunner QuotaStatus)).map
      AgentRunner.payloadDek = some (installPayloadDekFromCreds env.base64 creds none) := by
  rw [restarted_eq env h, Option.map_some, installCreds, boot_payloadDek]

lemma installPayloadDek_congr (base64 : Base64.Engine) {creds creds' : StoredCreds}
    (hkey : creds'.payloadDekB64 = creds.payloadDekB64)
    (hversion : creds'.payloadDekVersion = creds.payloadDekVersion) (slot : Option DekHandle) :
    installPayloadDekFromCreds base64 creds' slot =
      installPayloadDekFromCreds base64 creds slot := by
  rw [installPayloadDekFromCreds, installPayloadDekFromCreds, hkey, hversion]

/-- A stored key is installed exactly when `from_proto` takes it. -/
lemma installPayloadDek_encode (base64 : Base64.Engine) {creds : StoredCreds} {key : Bytes}
    (hne : key ≠ []) (hkey : creds.payloadDekB64 = base64.encode key) (slot : Option DekHandle) :
    installPayloadDekFromCreds base64 creds slot =
      storeDek slot (DekHandle.fromProto key creds.payloadDekVersion) := by
  rw [installPayloadDekFromCreds, hkey, if_neg (base64.encode_ne_empty hne),
    base64.decode_encode]

/-- The file and the slot take the same view of a rotated key: there is none, its version is zero
and both ignore it, its length is right, or it is the one that the file has already. -/
def DekTakenAlike (base64 : Base64.Engine) (creds : StoredCreds) (cr : CredentialRotation) : Prop :=
  cr.payloadDek = [] ∨ cr.payloadDekVersion = 0 ∨ cr.payloadDek.length = 32 ∨
    (creds.payloadDekB64 = base64.encode cr.payloadDek ∧
      creds.payloadDekVersion = cr.payloadDekVersion)

/-- A rotation keeps the slot and the creds file in agreement, and a rejected key changes neither,
exactly when both take the same view of the key. -/
theorem rotated_dek_agrees_iff (binding : ChannelBinding) (w w' : World QuotaStatus)
    (creds : StoredCreds) (cr : CredentialRotation) (out : Outside) (hjwt : cr.instanceJwt ≠ "")
    (hcreds : storedCreds env w.files = some creds)
    (hslot : w.runner.payloadDek = installPayloadDekFromCreds env.base64 creds none)
    (h : receive env binding w (.credentialRotation cr, out) = some w') :
    (∃ creds', storedCreds env w'.files = some creds' ∧
      (restarted env.creds env.base64 env.cfg w'.files : Option (AgentRunner QuotaStatus)).map
        AgentRunner.payloadDek = some w'.runner.payloadDek ∧
      ((∃ e, DekHandle.fromProto cr.payloadDek cr.payloadDekVersion = .error e) →
        w'.runner.payloadDek = w.runner.payloadDek ∧
        creds'.payloadDekB64 = creds.payloadDekB64 ∧
        creds'.payloadDekVersion = creds.payloadDekVersion)) ↔
      DekTakenAlike env.base64 creds cr := by
  obtain ⟨hcreds', hdek, -⟩ := receive_credentialRotation env hjwt hcreds h
  have hkey := rotate_payloadDekB64 env.base64 creds out.writtenAt cr
  have hversion := rotate_payloadDekVersion env.base64 creds out.writtenAt cr
  generalize creds.rotate env.base64 out.writtenAt cr = rotated at hcreds' hkey hversion
  rw [restarted_payloadDek env hcreds', hdek]
  simp only [hcreds', Option.some.injEq, exists_eq_left', refreshDek, DekTakenAlike]
  by_cases hne : cr.payloadDek = []
  · simp only [hne, ne_eq, not_true_eq_false, false_and, if_false] at hkey hversion
    simp [hne, hslot, installPayloadDek_congr env.base64 hkey hversion, fromProto_nil]
  by_cases hzero : cr.payloadDekVersion = 0
  · simp only [hzero, ne_eq, not_true_eq_false, and_false, if_false] at hkey hversion
    obtain ⟨e, he⟩ := fromProto_rejects 0 hne (.inr rfl)
    simp [hne, hzero, he, storeDek, hslot, installPayloadDek_congr env.base64 hkey hversion,
      hkey, hversion]
  rw [if_pos ⟨hne, hzero⟩] at hkey hversion
  rw [installPayloadDek_encode env.base64 hne hkey, hversion]
  by_cases hlen : cr.payloadDek.length = 32
  · simp [fromProto_accepts hlen hzero, storeDek, hne, hlen]
  · obtain ⟨e, he⟩ := fromProto_rejects cr.payloadDekVersion hne (.inl hlen)
    simp only [he, storeDek, hne, hzero, hlen, hkey, if_true, ne_eq, not_false_eq_true,
      false_or, true_and, Except.error.injEq, exists_eq', forall_const]
    -- Here the file takes the key and the slot does not.
    constructor
    · rintro ⟨-, hsame, hsame'⟩
      exact ⟨hsame.symm, hsame'.symm⟩
    · rintro ⟨hsame, hsame'⟩
      have hnone : w.runner.payloadDek = none := by
        rw [hslot, installPayloadDek_encode env.base64 hne hsame, hsame', he, storeDek]
      exact ⟨hnone.symm, hsame.symm, hsame'.symm⟩

/-- The sample creds with the certificate, the key and the payload key rotated. -/
def rotatedCreds : StoredCreds where
  instanceId := "inst-1"
  instanceJwt := "h.p2.s"
  cpEndpoint := "https://cp.example:7844"
  issuedAt := 0
  clientCertPem := "cert-2"
  clientKeyPem := "key-2"
  caChainPem := "ca-1"
  payloadDekB64 := "CQkJCQkJCQkJCQkJCQkJCQkJCQkJCQkJCQkJCQkJCQk="
  payloadDekVersion := 2

def rotatedCodec : Codec StoredCreds Bytes := sampleCodec rotatedCreds (by decide +kernel)

/-- A key of the right length replaces the one in use, in memory and on disk. -/
theorem rotated_dek_agrees_iff_new_key :
    let env := sampleEnv rotatedCodec
    let w := sampleWorld rotatedCodec
    let cr := sampleRotation "cert-2" "key-2" (List.replicate 32 9)
    ∃ w', receive env ⟨"nonce", "uid"⟩ w (.credentialRotation cr, sampleOutside (.ok ())) =
        some w' ∧
      storedCreds env w'.files = some rotatedCreds ∧
      ∃ creds', storedCreds env w'.files = some creds' ∧
        (restarted env.creds env.base64 env.cfg w'.files : Option (AgentRunner Unit)).map
          AgentRunner.payloadDek = some w'.runner.payloadDek ∧
        ((∃ e, DekHandle.fromProto cr.payloadDek cr.payloadDekVersion = .error e) →
          w'.runner.payloadDek = w.runner.payloadDek ∧
          creds'.payloadDekB64 = sampleCreds.payloadDekB64 ∧
          creds'.payloadDekVersion = sampleCreds.payloadDekVersion) := by
  intro env w cr
  have hjwt : cr.instanceJwt ≠ "" := by decide
  have hcreds := sampleWorld_storedCreds rotatedCodec
  have hstep := receive_credentialRotation_eq env ⟨"nonce", "uid"⟩ (sampleOutside (.ok ())) hjwt
    hcreds
  have hrotated : sampleCreds.rotate Base64.standard 0 cr = rotatedCreds := by decide +kernel
  refine ⟨_, hstep, ?_, ?_⟩
  · rw [(receive_credentialRotation env hjwt hcreds hstep).1, ← hrotated]
    rfl
  · exact (rotated_dek_agrees_iff env _ _ _ sampleCreds cr _ hjwt hcreds rfl hstep).mpr
      (.inr (.inr (.inl rfl)))

/-- The sample creds with a payload key of three bytes. -/
def shortKeyCreds : StoredCreds :=
  { sampleCreds with instanceJwt := "h.p2.s", payloadDekB64 := "AQID", payloadDekVersion := 2 }

def shortKeyCodec : Codec StoredCreds Bytes := sampleCodec shortKeyCreds (by decide +kernel)

/-- A key of three bytes is rejected in memory and stored on disk: the running agent keeps its key,
and a restarted one has none. -/
theorem short_dek_persisted :
    let env := sampleEnv shortKeyCodec
    let w := sampleWorld shortKeyCodec
    let cr := sampleRotation "" "" [1, 2, 3]
    storedCreds env w.files = some sampleCreds ∧
    w.runner.payloadDek = installPayloadDekFromCreds env.base64 sampleCreds none ∧
    ∃ w', receive env ⟨"nonce", "uid"⟩ w (.credentialRotation cr, sampleOutside (.ok ())) =
        some w' ∧
      storedCreds env w'.files = some shortKeyCreds ∧
      w'.runner.payloadDek.isSome = true ∧
      (restarted env.creds env.base64 env.cfg w'.files : Option (AgentRunner Unit)).map
        AgentRunner.payloadDek = some none ∧
      (restarted env.creds env.base64 env.cfg w'.files : Option (AgentRunner Unit)).map
        AgentRunner.payloadDek ≠ some w'.runner.payloadDek := by
  intro env w cr
  have hjwt : cr.instanceJwt ≠ "" := by decide
  have hcreds := sampleWorld_storedCreds shortKeyCodec
  have hstep := receive_credentialRotation_eq env ⟨"nonce", "uid"⟩ (sampleOutside (.ok ())) hjwt
    hcreds
  obtain ⟨hcreds', hdek, -⟩ := receive_credentialRotation env hjwt hcreds hstep
  have hrotated : sampleCreds.rotate Base64.standard 0 cr = shortKeyCreds := by decide +kernel
  have hinstalled : installPayloadDekFromCreds Base64.standard shortKeyCreds none = none := by
    decide +kernel
  have hkept : (refreshDek cr (installPayloadDekFromCreds Base64.standard sampleCreds
      none)).isSome = true := by decide +kernel
  have hcreds'' : storedCreds env _ = some shortKeyCreds :=
    hcreds'.trans (congrArg some hrotated)
  refine ⟨hcreds, rfl, _, hstep, hcreds'', ?_⟩
  rw [restarted_payloadDek env hcreds'', hdek]
  refine ⟨hkept, congrArg some hinstalled, ?_⟩
  intro hsame
  have hnone := hinstalled.symm.trans (Option.some.inj hsame)
  have hsome : (none : Option DekHandle).isSome = true := hnone ▸ hkept
  cases hsome

/-! ### The mTLS material -/

/-- A run of rotations, with the pairs of certificate and key that were issued so far, by the
registration and by each rotation. -/
structure Rotations (QuotaStatus : Type) where
  world  : World QuotaStatus
  issued : List (String × String)

/-- Handle a rotation that carries a JWT. -/
def rotationStep (binding : ChannelBinding) (s : Rotations QuotaStatus)
    (item : CredentialRotation × Outside) : Option (Rotations QuotaStatus) :=
  if item.1.instanceJwt ≠ "" then
    (receive env binding s.world (.credentialRotation item.1, item.2)).map fun w =>
      ⟨w, s.issued ++ [(item.1.clientCertPem, item.1.clientKeyPem)]⟩
  else none

/-- The material in memory is what a restarted process would install, and in both places the
certificate and the key were issued together. -/
def TlsAgrees (s : Rotations QuotaStatus) : Prop :=
  (restarted env.creds env.base64 env.cfg s.world.files : Option (AgentRunner QuotaStatus)).map
      (fun r => r.client.tls) = some s.world.runner.client.tls ∧
    (∃ m, s.world.runner.client.tls = some m ∧ (m.clientCertPem, m.clientKeyPem) ∈ s.issued) ∧
    ∃ creds, storedCreds env s.world.files = some creds ∧
      (creds.clientCertPem, creds.clientKeyPem) ∈ s.issued

/-- The rotation carries a certificate and a key or neither of them, or it carries no certificate
and the key that the file has already. -/
def PairWhole (s : Rotations QuotaStatus) (item : CredentialRotation × Outside) : Prop :=
  (item.1.clientCertPem = "" ↔ item.1.clientKeyPem = "") ∨
    (item.1.clientCertPem = "" ∧
      (storedCreds env s.world.files).map StoredCreds.clientKeyPem = some item.1.clientKeyPem)

/-- The file holds creds with which mTLS works. -/
def HasTls (s : Rotations QuotaStatus) : Prop :=
  ∃ creds, storedCreds env s.world.files = some creds ∧ creds.clientCertPem ≠ "" ∧
    creds.clientKeyPem ≠ "" ∧ creds.caChainPem ≠ ""

lemma installCreds_tls {creds : StoredCreds} (hcert : creds.clientCertPem ≠ "")
    (hca : creds.caChainPem ≠ "") (r : AgentRunner QuotaStatus) :
    (installCreds env.base64 creds r).client.tls =
      some ⟨creds.caChainPem, creds.clientCertPem, creds.clientKeyPem, none⟩ := by
  simp [installCreds, StoredCreds.tlsMaterial, hcert, hca, AgentClient.setTls, AgentClient.reset]

lemma restarted_tls {fs : Files StateFile} {creds : StoredCreds}
    (h : storedCreds env fs = some creds) (hcert : creds.clientCertPem ≠ "")
    (hca : creds.caChainPem ≠ "") :
    (restarted env.creds env.base64 env.cfg fs : Option (AgentRunner QuotaStatus)).map
        (fun r => r.client.tls) =
      some (some ⟨creds.caChainPem, creds.clientCertPem, creds.clientKeyPem, none⟩) := by
  rw [restarted_eq env h, Option.map_some, installCreds_tls env hcert hca]

lemma rotationStep_eq_some {binding : ChannelBinding} {s s' : Rotations QuotaStatus}
    {item : CredentialRotation × Outside} (h : rotationStep env binding s item = some s') :
    item.1.instanceJwt ≠ "" ∧
    receive env binding s.world (.credentialRotation item.1, item.2) = some s'.world ∧
    s'.issued = s.issued ++ [(item.1.clientCertPem, item.1.clientKeyPem)] := by
  simp only [rotationStep] at h
  split at h
  · obtain ⟨w, hw, rfl⟩ := Option.map_eq_some_iff.mp h
    exact ⟨‹_›, hw, rfl⟩
  · cases h

lemma rotationStep_hasTls {binding : ChannelBinding} {s s' : Rotations QuotaStatus}
    {item : CredentialRotation × Outside} (hs : HasTls env s)
    (h : rotationStep env binding s item = some s') : HasTls env s' := by
  obtain ⟨creds, hcreds, hcert, hkey, hca⟩ := hs
  obtain ⟨hjwt, hw, -⟩ := rotationStep_eq_some env h
  obtain ⟨hcreds', -, -⟩ := receive_credentialRotation env hjwt hcreds hw
  refine ⟨_, hcreds', ?_, ?_, by simpa⟩
  · rw [rotate_clientCertPem]
    split_ifs with hc <;> assumption
  · rw [rotate_clientKeyPem]
    split_ifs with hk <;> assumption

/-- With working creds on disk, agreement is about one pair only. -/
lemma tlsAgrees_iff {s : Rotations QuotaStatus} {creds : StoredCreds}
    (hcreds : storedCreds env s.world.files = some creds) (hcert : creds.clientCertPem ≠ "")
    (hca : creds.caChainPem ≠ "") :
    TlsAgrees env s ↔
      s.world.runner.client.tls =
        some ⟨creds.caChainPem, creds.clientCertPem, creds.clientKeyPem, none⟩ ∧
      (creds.clientCertPem, creds.clientKeyPem) ∈ s.issued := by
  rw [TlsAgrees, restarted_tls env hcreds hcert hca, Option.some.injEq]
  constructor
  · rintro ⟨htls, -, creds', hcreds', hissued⟩
    rw [hcreds, Option.some.injEq] at hcreds'
    subst hcreds'
    exact ⟨htls.symm, hissued⟩
  · rintro ⟨htls, hissued⟩
    exact ⟨htls.symm, ⟨_, htls, hissued⟩, creds, hcreds, hissued⟩

lemma rotationStep_tlsAgrees_iff {binding : ChannelBinding} {s s' : Rotations QuotaStatus}
    {item : CredentialRotation × Outside} (hs : HasTls env s) (hagrees : TlsAgrees env s)
    (h : rotationStep env binding s item = some s') :
    TlsAgrees env s' ↔ PairWhole env s item := by
  obtain ⟨creds, hcreds, hcert, hkey, hca⟩ := hs
  obtain ⟨hjwt, hw, hissued⟩ := rotationStep_eq_some env h
  obtain ⟨hcreds', -, htls⟩ := receive_credentialRotation env hjwt hcreds hw
  obtain ⟨htls₀, hissued₀⟩ := (tlsAgrees_iff env hcreds hcert hca).mp hagrees
  have hcert' := rotate_clientCertPem env.base64 creds item.2.writtenAt item.1
  have hkey' := rotate_clientKeyPem env.base64 creds item.2.writtenAt item.1
  have hne : (creds.rotate env.base64 item.2.writtenAt item.1).clientCertPem ≠ "" := by
    rw [hcert']
    split_ifs with hc <;> assumption
  rw [tlsAgrees_iff env hcreds' hne (by simpa), htls, htls₀, hissued, hcert', hkey',
    rotate_caChainPem, PairWhole, hcreds, Option.map_some]
  by_cases hc : item.1.clientCertPem = "" <;> by_cases hk : item.1.clientKeyPem = ""
  · simp [hc, hk, hissued₀]
  · -- The file takes the key and leaves the memory with the old one.
    simp only [hc, hk, ne_eq, not_true_eq_false, not_false_eq_true, if_false, if_true,
      Option.some.injEq, ClientTlsMaterial.mk.injEq, true_and, and_true, iff_false, false_or]
    refine ⟨fun hand => hand.1, fun hsame => ⟨hsame, ?_⟩⟩
    rw [← hsame]
    exact List.mem_append_left _ hissued₀
  · -- The memory loses the key and the file keeps the old one.
    simp [hc, hk, hkey.symm]
  · simp [hc, hk]

/-- The mTLS material in memory and on disk agree throughout a run of rotations, and stay pairs that
were issued together, exactly when every rotation carries a whole pair or none. -/
theorem rotated_tls_agrees_iff (binding : ChannelBinding) (creds : StoredCreds)
    (r : AgentRunner QuotaStatus) (fs : Files StateFile)
    (items : List (CredentialRotation × Outside)) (s : Rotations QuotaStatus)
    (hcert : creds.clientCertPem ≠ "") (hkey : creds.clientKeyPem ≠ "")
    (hca : creds.caChainPem ≠ "") (hfile : storedCreds env fs = some creds)
    (h : exec (rotationStep env binding) ⟨⟨installCreds env.base64 creds r, fs⟩,
      [(creds.clientCertPem, creds.clientKeyPem)]⟩ items = some s) :
    Throughout (rotationStep env binding) (TlsAgrees env) ⟨⟨installCreds env.base64 creds r, fs⟩,
        [(creds.clientCertPem, creds.clientKeyPem)]⟩ items ↔
      StepsMeet (rotationStep env binding) (PairWhole env)
        ⟨⟨installCreds env.base64 creds r, fs⟩, [(creds.clientCertPem, creds.clientKeyPem)]⟩
        items := by
  refine throughout_iff_stepsMeet (fun _ _ _ hs hstep => rotationStep_hasTls env hs hstep)
    (fun _ _ _ hs hagrees hstep => rotationStep_tlsAgrees_iff env hs hagrees hstep)
    ⟨creds, hfile, hcert, hkey, hca⟩ ?_ h
  exact (tlsAgrees_iff env hfile hcert hca).mpr
    ⟨installCreds_tls env hcert hca r, List.mem_singleton_self _⟩

/-- A rotation of the certificate and the key together. -/
theorem rotated_tls_agrees_iff_whole_pair :
    let env := sampleEnv rotatedCodec
    let step : Rotations Unit → _ → _ := rotationStep env ⟨"nonce", "uid"⟩
    let items := [(sampleRotation "cert-2" "key-2" (List.replicate 32 9), sampleOutside (.ok ()))]
    let start : Rotations Unit := ⟨sampleWorld rotatedCodec, [("cert-1", "key-1")]⟩
    (∃ s, exec step start items = some s) ∧ StepsMeet step (PairWhole env) start items ∧
      Throughout step (TlsAgrees env) start items := by
  intro env step items start
  have hcreds := sampleWorld_storedCreds rotatedCodec
  have hstep : ∃ s, exec step start items = some s := by
    simp only [exec, step, items, rotationStep]
    rw [if_pos (by decide), receive_credentialRotation_eq env _ _ (by decide) hcreds]
    exact ⟨_, rfl⟩
  obtain ⟨s, hs⟩ := hstep
  have hmeet : StepsMeet step (PairWhole env) start items :=
    ⟨.inl (by decide), fun _ _ => trivial⟩
  exact ⟨⟨s, hs⟩, hmeet, (rotated_tls_agrees_iff env _ sampleCreds
    (boot ⟨"https://cp.example:7844", none⟩) (sampleWorld rotatedCodec).files items s (by decide)
    (by decide) (by decide) hcreds hs).mpr hmeet⟩

/-- The sample creds with the certificate rotated alone. -/
def certOnlyCreds : StoredCreds :=
  { sampleCreds with instanceJwt := "h.p2.s", clientCertPem := "cert-2" }

def certOnlyCodec : Codec StoredCreds Bytes := sampleCodec certOnlyCreds (by decide +kernel)

/-- A rotation with a certificate and no key: the running agent has no key any more, and a restarted
one has the new certificate with the old key. -/
theorem cert_without_key_disagrees :
    let env := sampleEnv certOnlyCodec
    let w := sampleWorld certOnlyCodec
    let cr := sampleRotation "cert-2" "" []
    storedCreds env w.files = some sampleCreds ∧
    w.runner = installCreds env.base64 sampleCreds (boot env.cfg) ∧
    ∃ w', receive env ⟨"nonce", "uid"⟩ w (.credentialRotation cr, sampleOutside (.ok ())) =
        some w' ∧
      w'.runner.client.tls = some ⟨"ca-1", "cert-2", "", none⟩ ∧
      (restarted env.creds env.base64 env.cfg w'.files : Option (AgentRunner Unit)).map
        (fun r => r.client.tls) = some (some ⟨"ca-1", "cert-2", "key-1", none⟩) ∧
      (restarted env.creds env.base64 env.cfg w'.files : Option (AgentRunner Unit)).map
        (fun r => r.client.tls) ≠ some w'.runner.client.tls := by
  intro env w cr
  have hjwt : cr.instanceJwt ≠ "" := by decide
  have hcreds := sampleWorld_storedCreds certOnlyCodec
  have hstep := receive_credentialRotation_eq env ⟨"nonce", "uid"⟩ (sampleOutside (.ok ())) hjwt
    hcreds
  obtain ⟨hcreds', -, htls⟩ := receive_credentialRotation env hjwt hcreds hstep
  have hrotated : sampleCreds.rotate Base64.standard 0 cr = certOnlyCreds := by decide +kernel
  have hcreds'' : storedCreds env _ = some certOnlyCreds :=
    hcreds'.trans (congrArg some hrotated)
  rw [if_pos (by decide)] at htls
  refine ⟨hcreds, rfl, _, hstep, htls, ?_⟩
  rw [restarted_tls env hcreds'' (by decide) (by decide), htls]
  exact ⟨rfl, by decide⟩

end ControlPlaneClient
