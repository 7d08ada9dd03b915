import ControlPlaneClient.Agent.Rotation

/-!
# Installing creds over earlier ones

`install_creds` runs at boot, into an empty key slot, and on every re-enrollment, into the slot of the
creds before. Of the four exits of `install_payload_dek_from_creds` only the one with an accepted key
writes the slot. The other three leave in it what the earlier creds have put there.
-/

namespace ControlPlaneClient

variable {QuotaStatus : Type} (base64 : Base64.Engine)

namespace StoredCreds

/-- What the creds say the key is: the one that `from_proto` accepts, or none if they carry no key or
a malformed one. -/
def statedDek (creds : StoredCreds) : Option DekHandle :=
  match (base64.decode creds.payloadDekB64).map
    (fun raw => DekHandle.fromProto raw creds.payloadDekVersion) with
  | some (.ok h) => h
  | _            => none

/-- The creds carry a key of 32 bytes with a version. -/
def CarriesKey (creds : StoredCreds) : Prop :=
  ∃ raw, base64.decode creds.payloadDekB64 = some raw ∧ raw.length = 32 ∧
    creds.payloadDekVersion ≠ 0

variable {base64}

/-- Installing writes the stated key over the slot, and leaves the slot alone when there is none. -/
lemma installPayloadDekFromCreds_eq (creds : StoredCreds) (slot : Option DekHandle) :
    installPayloadDekFromCreds base64 creds slot = (creds.statedDek base64).or slot := by
  rw [installPayloadDekFromCreds, statedDek]
  by_cases hempty : creds.payloadDekB64 = ""
  · rw [if_pos hempty, hempty, base64.decode_empty, Option.map_some, fromProto_nil]
    rfl
  · rw [if_neg hempty]
    cases hraw : base64.decode creds.payloadDekB64 with
    | none => rfl
    | some raw =>
      dsimp only [Option.map_some]
      cases DekHandle.fromProto raw creds.payloadDekVersion with
      | error e => rfl
      | ok h => cases h <;> rfl

lemma statedDek_isSome_iff (creds : StoredCreds) :
    (creds.statedDek base64).isSome = true ↔ creds.CarriesKey base64 := by
  rw [statedDek, CarriesKey]
  cases hraw : base64.decode creds.payloadDekB64 with
  | none => simp
  | some raw =>
    simp only [Option.map_some, Option.some.injEq, exists_eq_left']
    by_cases hok : raw.length = 32 ∧ creds.payloadDekVersion ≠ 0
    · rw [fromProto_accepts hok.1 hok.2]
      exact ⟨fun _ => hok, fun _ => rfl⟩
    · have hnone : ∀ h, DekHandle.fromProto raw creds.payloadDekVersion = .ok h → h = none := by
        intro h hh
        by_cases hnil : raw = []
        · rw [hnil, fromProto_nil] at hh
          cases hh
          rfl
        · obtain ⟨e, he⟩ := fromProto_rejects creds.payloadDekVersion hnil (by tauto)
          rw [he] at hh
          cases hh
      refine ⟨fun hsome => ?_, fun h => absurd h hok⟩
      cases hh : DekHandle.fromProto raw creds.payloadDekVersion with
      | error e => rw [hh] at hsome; cases hsome
      | ok h => rw [hh, hnone h hh] at hsome; cases hsome

end StoredCreds

/-- Whatever the slot held before, installing creds leaves the key that they state, exactly if they
carry one or the slot was empty. -/
theorem reinstall_independent_iff (creds : StoredCreds) (r r' : AgentRunner QuotaStatus) :
    ((installCreds base64 creds r).payloadDek = creds.statedDek base64 ∧
      (installCreds base64 creds r').payloadDek = creds.statedDek base64) ↔
    creds.CarriesKey base64 ∨ (r.payloadDek = none ∧ r'.payloadDek = none) := by
  have hslot : ∀ r : AgentRunner QuotaStatus, (installCreds base64 creds r).payloadDek =
      (creds.statedDek base64).or r.payloadDek := by
    intro r
    exact creds.installPayloadDekFromCreds_eq r.payloadDek
  rw [hslot r, hslot r', ← creds.statedDek_isSome_iff]
  cases creds.statedDek base64 with
  | none => simp
  | some h => simp

/-- A Register response without a payload key. -/
def keylessResponse : RegisterResponse where
  instanceId := "inst-2"
  instanceJwt := "h.p9.s"
  cpEndpoint := "https://cp.example:7844"
  clientCertPem := ""
  clientKeyPem := ""
  caChainPem := ""
  payloadDek := []
  payloadDekVersion := 0

/-- An agent that is enrolled anew, with a response that carries no key, goes on with the key of its
first enrollment. A new agent has none after the same response. -/
theorem reenrollment_keeps_old_key :
    let first : AgentRunner Unit :=
      installCreds Base64.standard sampleCreds (boot ⟨"https://cp.example:7844", none⟩)
    let fresh : AgentRunner Unit := boot ⟨"https://cp.example:7844", none⟩
    let creds := keylessResponse.toCreds Base64.standard 0
    creds.statedDek Base64.standard = none ∧
      (installCreds Base64.standard creds first).payloadDek.map DekHandle.version = some 1 ∧
      (installCreds Base64.standard creds fresh).payloadDek = none ∧
      ¬ ((installCreds Base64.standard creds first).payloadDek = creds.statedDek Base64.standard ∧
        (installCreds Base64.standard creds fresh).payloadDek =
          creds.statedDek Base64.standard) := by
  intro first fresh creds
  have hstated : creds.statedDek Base64.standard = none := by decide +kernel
  have hfirst : (installCreds Base64.standard creds first).payloadDek.map DekHandle.version =
      some 1 := by decide +kernel
  refine ⟨hstated, hfirst, by decide +kernel, ?_⟩
  rintro ⟨h, -⟩
  rw [h, hstated] at hfirst
  cases hfirst

end ControlPlaneClient
