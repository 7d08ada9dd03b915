import ControlPlaneClient.Agent.Credentials

/-!
# The last-known-good config cache

`LkgCache` of `lkg.rs`. The bundle on disk is sealed with an AEAD under a key that is derived from
a secret of the node: the machine id when there is one, else a random secret kept beside the cache.
The cryptography, the codecs, the clock and the randomness are parameters.

A load may have to create the node secret too, so it is a program that writes.
-/

namespace ControlPlaneClient

open FileSystem

def fileVersion : UInt8 := 1

def nonceLen : ℕ := 12

def nodeSecretLen : ℕ := 32

def hkdfSalt : Bytes := utf8Bytes "mcpg-lkg-cache-v1"

def hkdfInfo : Bytes := utf8Bytes "aes-256-gcm:lkg-bundle"

abbrev Nonce := { bytes : Bytes // bytes.length = nonceLen }

abbrev NodeSecret := { bytes : Bytes // bytes.length = nodeSecretLen }

/-- An AEAD, keyed and nonced by byte strings. -/
structure Aead where
  encrypt : Bytes → Bytes → Bytes → Option Bytes
  decrypt : Bytes → Bytes → Bytes → Option Bytes
  decrypt_encrypt {key nonce plain ct : Bytes} (h : encrypt key nonce plain = some ct) :
    decrypt key nonce ct = some plain

structure LkgEntry where
  configHash  : String
  /-- Protobuf-encoded `ConfigBundle`. -/
  bundleProto : Bytes
  writtenAt   : DateTime
  deriving DecidableEq, Encodable

/-- What the cache uses from outside. -/
structure LkgEnv (Bundle : Type) where
  /-- `/etc/machine-id`, when it can be read as text. -/
  machineId : Option String
  /-- HKDF-SHA256 of a salt, a secret and an info string, 32 bytes long. -/
  hkdf      : Bytes → Bytes → Bytes → Bytes
  aead      : Aead
  json      : Codec LkgEntry Bytes
  proto     : Codec Bundle Bytes

/-- `char::is_whitespace`. -/
def isWhitespace (c : Char) : Bool :=
  let n := c.toNat
  (9 ≤ n && n ≤ 13) || n == 0x20 || n == 0x85 || n == 0xA0 || n == 0x1680 ||
    (0x2000 ≤ n && n ≤ 0x200A) || n == 0x2028 || n == 0x2029 || n == 0x202F || n == 0x205F ||
    n == 0x3000

/-- `str::trim`. -/
def trim (s : String) : String :=
  String.ofList ((s.toList.dropWhile isWhitespace).reverse.dropWhile isWhitespace).reverse

section Cache

variable {Bundle : Type} (env : LkgEnv Bundle)

/-! ### The node secret -/

/-- The secret that the machine id gives. -/
def machineSecret : Option Bytes :=
  match env.machineId with
  | some s => if trim s ≠ "" then some (utf8Bytes (trim s)) else none
  | none   => none

/-- The secret kept beside the cache, if it has the right length. -/
def storedSecret : FileM StateFile (Option Bytes) := do
  if ← pathExists .nodeSecret then
    let bytes ← read .nodeSecret
    pure (if bytes.length = nodeSecretLen then some bytes else none)
  else pure none

/-- The node secret, created from `fresh` when there is none yet. -/
def nodeSecret (fresh : NodeSecret) : FileM StateFile Bytes :=
  match machineSecret env with
  | some secret => pure secret
  | none        => do
    match ← storedSecret with
    | some bytes => pure bytes
    | none       =>
      createDirAll
      write .nodeSecret fresh.1
      setPermissions .nodeSecret
      pure fresh.1

def deriveKey (fresh : NodeSecret) : FileM StateFile Bytes := do
  let secret ← nodeSecret env fresh
  pure (env.hkdf hkdfSalt secret hkdfInfo)

/-! ### Sealing -/

def encrypt (fresh : NodeSecret) (nonce : Nonce) (plaintext : Bytes) : FileM StateFile Bytes := do
  let key ← deriveKey env fresh
  match env.aead.encrypt key nonce.1 plaintext with
  | some ct => pure (fileVersion :: (nonce.1 ++ ct))
  | none    => failure

def decrypt (fresh : NodeSecret) : Bytes → FileM StateFile Bytes
  | []             => failure
  | ver :: payload =>
    if ver ≠ fileVersion then failure
    else if payload.length < nonceLen then failure
    else do
      let key ← deriveKey env fresh
      match env.aead.decrypt key (payload.take nonceLen) (payload.drop nonceLen) with
      | some plain => pure plain
      | none       => failure

/-! ### The cache -/

/-- The entry on disk; `none` when there is no file. -/
def load (fresh : NodeSecret) : FileM StateFile (Option LkgEntry) := do
  if ← pathExists .lkg then
    let bytes ← read .lkg
    let plain ← decrypt env fresh bytes
    match env.json.decode plain with
    | some entry => pure (some entry)
    | none       => failure
  else pure none

def loadBundle (fresh : NodeSecret) : FileM StateFile (Option (String × Bundle)) := do
  match ← load env fresh with
  | none       => pure none
  | some entry =>
    match env.proto.decode entry.bundleProto with
    | some bundle => pure (some (entry.configHash, bundle))
    | none        => failure

def save (fresh : NodeSecret) (nonce : Nonce) (now : DateTime) (hash : String) (bundle : Bundle) :
    FileM StateFile Unit := do
  createDirAll
  let entry : LkgEntry := ⟨hash, env.proto.encode bundle, now⟩
  let sealed ← encrypt env fresh nonce (env.json.encode entry)
  write .lkgTmp sealed
  rename .lkgTmp .lkg
  let _ ← attempt (setPermissions .lkg)

/-! ### What is saved is loaded -/

/-- The node secret is `secret` and needs not be created any more. -/
def SecretSettled (fs : Files StateFile) (secret : Bytes) : Prop :=
  machineSecret env = some secret ∨
    (machineSecret env = none ∧ fs .nodeSecret = some secret ∧ secret.length = nodeSecretLen)

lemma eval_storedSecret (fs : Files StateFile) :
    eval storedSecret fs =
      (some ((fs .nodeSecret).filter fun bytes => bytes.length = nodeSecretLen), fs) := by
  rw [storedSecret, eval_bind_of_some (eval_pathExists _ _)]
  cases h : fs .nodeSecret with
  | none => rfl
  | some bytes =>
    have hread : eval (read .nodeSecret) fs = (some bytes, fs) := by rw [eval_read, h]
    rw [Option.isSome_some, if_pos rfl, eval_bind_of_some hread, eval_pure]
    split_ifs with hlen <;> simp [Option.filter, hlen]

lemma eval_nodeSecret_of_settled {fs : Files StateFile} {secret : Bytes}
    (h : SecretSettled env fs secret) (fresh : NodeSecret) :
    eval (nodeSecret env fresh) fs = (some secret, fs) := by
  rcases h with hid | ⟨hid, hfile, hlen⟩
  · simp [nodeSecret, hid]
  · have hstored : eval storedSecret fs = (some (some secret), fs) := by
      rw [eval_storedSecret, hfile]
      simp [hlen]
    simp only [nodeSecret, hid]
    rw [eval_bind_of_some hstored, eval_pure]

/-- Asking for the node secret settles it, and touches no other file. -/
lemma eval_nodeSecret (fresh : NodeSecret) (fs : Files StateFile) :
    ∃ secret fs', eval (nodeSecret env fresh) fs = (some secret, fs') ∧
      SecretSettled env fs' secret := by
  cases hid : machineSecret env with
  | some secret =>
    exact ⟨secret, fs, eval_nodeSecret_of_settled env (.inl hid) fresh, .inl hid⟩
  | none =>
    cases hstored : (fs .nodeSecret).filter fun bytes => bytes.length = nodeSecretLen with
    | some secret =>
      obtain ⟨hfile, hlen⟩ := Option.filter_eq_some_iff.mp hstored
      have hsettled : SecretSettled env fs secret :=
        .inr ⟨hid, hfile, of_decide_eq_true hlen⟩
      exact ⟨secret, fs, eval_nodeSecret_of_settled env hsettled fresh, hsettled⟩
    | none =>
      have hread := eval_storedSecret fs
      rw [hstored] at hread
      refine ⟨fresh.1, Function.update fs .nodeSecret (some fresh.1), ?_,
        .inr ⟨hid, Function.update_self _ _ _, fresh.2⟩⟩
      simp only [nodeSecret, hid]
      rw [eval_bind_of_some hread, eval_bind_of_some (eval_createDirAll _),
        eval_bind_of_some (eval_write _ _ _), eval_bind_of_some (eval_setPermissions (by simp)),
        eval_pure]

/-- Wherever the secret is settled, the bytes decrypt to the plaintext. -/
def Opens (secret sealed plain : Bytes) : Prop :=
  ∀ fs fresh, SecretSettled env fs secret → eval (decrypt env fresh sealed) fs = (some plain, fs)

/-- What was sealed under the key of a secret opens again. -/
lemma opens_of_encrypt {secret plain ct : Bytes} {nonce : Nonce}
    (hct : env.aead.encrypt (env.hkdf hkdfSalt secret hkdfInfo) nonce.1 plain = some ct) :
    Opens env secret (fileVersion :: (nonce.1 ++ ct)) plain := by
  intro fs fresh hsettled
  have hlen : ¬ (nonce.1 ++ ct).length < nonceLen := by
    rw [List.length_append, nonce.2]
    omega
  have hkey : eval (deriveKey env fresh) fs = (some (env.hkdf hkdfSalt secret hkdfInfo), fs) := by
    rw [deriveKey, eval_bind_of_some (eval_nodeSecret_of_settled env hsettled fresh), eval_pure]
  simp only [decrypt, ne_eq, not_true_eq_false, if_false, hlen]
  rw [eval_bind_of_some hkey, List.take_left' nonce.2, List.drop_left' nonce.2,
    env.aead.decrypt_encrypt hct]
  rfl

/-- What `encrypt` sealed, `decrypt` opens again, wherever the secret is still the same. -/
lemma eval_encrypt {fresh : NodeSecret} {nonce : Nonce} {plain sealed : Bytes}
    {fs fs₁ : Files StateFile} (h : eval (encrypt env fresh nonce plain) fs = (some sealed, fs₁)) :
    ∃ secret, SecretSettled env fs₁ secret ∧ Opens env secret sealed plain := by
  obtain ⟨secret, fs₂, hsecret, hsettled⟩ := eval_nodeSecret env fresh fs
  rw [encrypt, deriveKey, eval_bind, eval_bind_of_some hsecret, eval_pure] at h
  dsimp only at h
  split at h
  · rename_i ct hct
    cases h
    exact ⟨secret, hsettled, opens_of_encrypt env hct⟩
  · cases h

/-- When files can be written, a save fails only if the AEAD does. -/
lemma eval_save (haead : ∀ key nonce plain, (env.aead.encrypt key nonce plain).isSome = true)
    (fresh : NodeSecret) (nonce : Nonce) (now : DateTime) (hash : String) (bundle : Bundle)
    (fs : Files StateFile) : (eval (save env fresh nonce now hash bundle) fs).1 = some () := by
  obtain ⟨secret, fs₁, hsecret, -⟩ := eval_nodeSecret env fresh fs
  obtain ⟨ct, hct⟩ := Option.isSome_iff_exists.mp (haead (env.hkdf hkdfSalt secret hkdfInfo) nonce.1
    (env.json.encode ⟨hash, env.proto.encode bundle, now⟩))
  have hseal : eval (encrypt env fresh nonce
      (env.json.encode ⟨hash, env.proto.encode bundle, now⟩)) fs =
      (some (fileVersion :: (nonce.1 ++ ct)), fs₁) := by
    rw [encrypt, deriveKey, eval_bind, eval_bind_of_some hsecret, eval_pure]
    simp only [hct]
    rfl
  rw [save, eval_bind_of_some (eval_createDirAll _), eval_bind_of_some hseal,
    eval_bind_of_some (eval_write _ _ _),
    eval_bind_of_some (eval_rename (Function.update_self _ _ _)),
    eval_bind_of_some (eval_attempt _ _), eval_pure]

/-- An entry in place, sealed under the secret that is still the same, is loaded. -/
lemma eval_loadBundle_of_opens {secret sealed : Bytes} {now : DateTime} {hash : String}
    {bundle : Bundle} {fs : Files StateFile} (hfile : fs .lkg = some sealed)
    (hsettled : SecretSettled env fs secret)
    (hopens : Opens env secret sealed (env.json.encode ⟨hash, env.proto.encode bundle, now⟩))
    (fresh : NodeSecret) :
    eval (loadBundle env fresh) fs = (some (some (hash, bundle)), fs) := by
  have hexists : eval (pathExists .lkg) fs = (some true, fs) := by
    rw [eval_pathExists, hfile]
    rfl
  have hread : eval (read .lkg) fs = (some sealed, fs) := by rw [eval_read, hfile]
  have hload : eval (load env fresh) fs =
      (some (some ⟨hash, env.proto.encode bundle, now⟩), fs) := by
    rw [load, eval_bind_of_some hexists, if_pos rfl, eval_bind_of_some hread,
      eval_bind_of_some (hopens fs fresh hsettled), env.json.decode_encode]
    rfl
  rw [loadBundle, eval_bind_of_some hload]
  simp only [env.proto.decode_encode]
  rfl

/-- A save that succeeds is what every later load returns. -/
lemma eval_loadBundle_of_save {fresh : NodeSecret} {nonce : Nonce} {now : DateTime} {hash : String}
    {bundle : Bundle} {fs fs' : Files StateFile}
    (h : eval (save env fresh nonce now hash bundle) fs = (some (), fs')) (fresh' : NodeSecret) :
    eval (loadBundle env fresh') fs' = (some (some (hash, bundle)), fs') := by
  rw [save, eval_bind_of_some (eval_createDirAll _)] at h
  dsimp only at h
  rw [eval_bind] at h
  split at h
  · rename_i sealed fs₁ hseal
    obtain ⟨secret, hsettled, hopen⟩ := eval_encrypt env hseal
    rw [eval_bind_of_some (eval_write _ _ _),
      eval_bind_of_some (eval_rename (Function.update_self _ _ _)),
      eval_write_rename (by decide), eval_bind_of_some (eval_attempt _ _),
      eval_setPermissions (by simp), eval_pure, Prod.mk.injEq, and_iff_right rfl] at h
    have hfile : fs' .lkg = some sealed := by
      rw [← h]
      simp
    have hsettled' : SecretSettled env fs' secret := by
      rw [← h]
      simpa [SecretSettled] using hsettled
    exact eval_loadBundle_of_opens env hfile hsettled' hopen fresh'
  · cases h

end Cache

/-! ### A sample node -/

/-- A node with a machine id, its key, and one entry sealed with it. -/
def sampleMachineId : String := "0123456789abcdef0123456789abcdef\n"

def sampleKey : Bytes :=
  [92, 36, 46, 212, 68, 121, 148, 249, 72, 206, 209, 29, 189, 205, 246, 84, 229, 167, 74, 82, 60,
    76, 234, 101, 194, 124, 94, 221, 53, 252, 189, 103]

def sampleNonce : Nonce := ⟨[0, 1, 2, 3, 4, 5, 6, 7, 8, 9, 10, 11], rfl⟩

def sampleEntry : LkgEntry := ⟨"hash-1", [8, 1], 0⟩

def sampleEntryJson : Bytes :=
  utf8Bytes ("\x7b\"config_hash\":\"hash-1\",\"bundle_proto\":\"CAE=\"," ++
    "\"written_at\":\"1970-01-01T00:00:00Z\"\x7d")

def sampleSealed : Bytes :=
  [249, 84, 169, 29, 34, 133, 7, 231, 44, 31, 207, 208, 231, 0, 120, 62, 200, 88, 153, 133, 243, 50,
    115, 142, 208, 23, 52, 37, 40, 24, 224, 163, 77, 247, 179, 82, 205, 81, 182, 198, 173, 183, 151,
    63, 199, 31, 16, 26, 12, 111, 182, 92, 3, 50, 114, 132, 97, 231, 88, 246, 229, 165, 204, 16, 87,
    43, 161, 236, 6, 7, 81, 97, 214, 213, 7, 116, 1, 48, 184, 209, 24, 25, 20, 40, 203, 197, 221,
    109, 65, 225, 151, 42, 175, 103, 188, 60, 245, 28]

/-- AES-256-GCM on the sample entry, and some other AEAD elsewhere. -/
def sampleAead : Aead where
  encrypt key nonce plain :=
    if (key, nonce, plain) = (sampleKey, sampleNonce.1, sampleEntryJson) then some sampleSealed
    else some (0 :: plain)
  decrypt key nonce ct :=
    if (key, nonce, ct) = (sampleKey, sampleNonce.1, sampleSealed) then some sampleEntryJson
    else match ct with
      | 0 :: plain => some plain
      | _          => none
  decrypt_encrypt := by
    intro key nonce plain ct h
    split_ifs at h with heq
    · cases h
      simp only [Prod.mk.injEq] at heq
      simp [heq]
    · cases h
      have hne : (0 :: plain : Bytes) ≠ sampleSealed := by
        intro hct
        cases List.cons.inj hct with
        | intro h0 _ => exact absurd h0 (by decide)
      simp [hne]

/-- HKDF-SHA256 on the sample secret. -/
def sampleHkdf (salt secret info : Bytes) : Bytes :=
  if (salt, secret, info) =
      (hkdfSalt, utf8Bytes "0123456789abcdef0123456789abcdef", hkdfInfo) then sampleKey
  else List.replicate 32 0

/-- The bundles are given by their protobuf encoding. -/
def sampleLkg : LkgEnv Bytes where
  machineId := some sampleMachineId
  hkdf := sampleHkdf
  aead := sampleAead
  json := Codec.unary.override (fun _ => sampleEntryJson) [sampleEntry] (by simp)
    fun _ _ => Codec.unary_decode_eq_none (by decide +kernel)
  proto := ⟨id, some, fun _ => rfl⟩

end ControlPlaneClient
