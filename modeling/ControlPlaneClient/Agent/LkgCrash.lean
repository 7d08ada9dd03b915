import ControlPlaneClient.Agent.Lkg
import ControlPlaneClient.Lib.Faults

/-!
# The cache after a crash

Saves and loads of the last-known-good config, any of which may fail or be cut off between two of
its file operations. A save may leave a node secret that is half written, and the next one makes a
new secret then. It does not once a sealed bundle is in place: that bundle was sealed under a
secret which had its full length on disk.
-/

namespace ControlPlaneClient

open FileSystem

section Cache

variable {Bundle : Type} (env : LkgEnv Bundle)

/-- Neither a rename was made nor the sealed bundle touched, and a settled secret is still settled. -/
structure CacheKept (d d' : Disk StateFile) : Prop where
  renames : d'.renames = d.renames
  lkg     : d'.files .lkg = d.files .lkg
  secret  : ∀ secret, SecretSettled env d.files secret → SecretSettled env d'.files secret

lemma CacheKept.refl (d : Disk StateFile) : CacheKept env d d := ⟨rfl, rfl, fun _ => id⟩

variable {env}

lemma CacheKept.trans {d d' d'' : Disk StateFile} (h : CacheKept env d d')
    (h' : CacheKept env d' d'') : CacheKept env d d'' :=
  ⟨h'.renames.trans h.renames, h'.lkg.trans h.lkg, fun secret hs => h'.secret secret (h.secret secret hs)⟩

/-- A secret that has to be made is not settled yet. -/
lemma not_secretSettled {fs : Files StateFile} (hid : machineSecret env = none)
    (hfile : ((fs .nodeSecret).filter fun bytes => bytes.length = nodeSecretLen) = none)
    (secret : Bytes) : ¬ SecretSettled env fs secret := by
  rintro (h | ⟨-, h, hlen⟩)
  · rw [hid] at h
    cases h
  · rw [h] at hfile
    simp [hlen] at hfile

variable (env)

/-! ### The programs -/

lemma holds_storedSecret (d : Disk StateFile) :
    Holds storedSecret d (fun r d' => d' = d ∧
      r = (d.files .nodeSecret).filter fun bytes => bytes.length = nodeSecretLen) fun d' => d' = d := by
  refine holds_bind (holds_pathExists rfl ?_)
  cases hfile : d.files .nodeSecret with
  | none => exact holds_pure ⟨rfl, rfl⟩
  | some bytes =>
    refine holds_bind (holds_read rfl ?_)
    intro b hb
    rw [hfile] at hb
    cases hb
    refine holds_pure ⟨rfl, ?_⟩
    rw [Option.filter_some]
    by_cases hlen : bytes.length = nodeSecretLen
    · simp [hlen]
    · simp [hlen]

/-- The node secret is settled once it is known, and is not made anew once it is settled. -/
lemma holds_nodeSecret (fresh : NodeSecret) (d : Disk StateFile) :
    Holds (nodeSecret env fresh) d
      (fun secret d' => CacheKept env d d' ∧ SecretSettled env d'.files secret)
      (CacheKept env d) := by
  cases hid : machineSecret env with
  | some secret =>
    simp only [nodeSecret, hid]
    exact holds_pure ⟨.refl env d, Or.inl hid⟩
  | none =>
    simp only [nodeSecret, hid]
    refine holds_bind ((holds_storedSecret d).mono ?_ ?_)
    · rintro r d' ⟨rfl, rfl⟩
      cases hfile : (d'.files .nodeSecret).filter fun bytes => bytes.length = nodeSecretLen with
      | some secret =>
        obtain ⟨hsome, hlen⟩ := Option.filter_eq_some_iff.mp hfile
        exact holds_pure ⟨.refl env d', Or.inr ⟨hid, hsome, of_decide_eq_true hlen⟩⟩
      | none =>
        -- No secret was settled, so what becomes of the file does not matter.
        have hkept : ∀ bytes, CacheKept env d' (d'.put .nodeSecret bytes) := fun bytes =>
          ⟨rfl, d'.put_of_ne (by decide) bytes,
            fun secret hs => absurd hs (not_secretSettled hid hfile secret)⟩
        refine holds_bind (holds_createDirAll (.refl env d') ?_)
        refine holds_bind (holds_write (.refl env d') (fun n => hkept _) ?_)
        refine holds_bind (holds_setPermissions (hkept _) ?_)
        exact holds_pure ⟨hkept _, Or.inr ⟨hid, d'.put_self _ _, fresh.2⟩⟩
    · rintro d' rfl
      exact .refl env d'

lemma holds_deriveKey (fresh : NodeSecret) (d : Disk StateFile) :
    Holds (deriveKey env fresh) d
      (fun key d' => CacheKept env d d' ∧ ∃ secret, SecretSettled env d'.files secret ∧
        key = env.hkdf hkdfSalt secret hkdfInfo)
      (CacheKept env d) := by
  refine holds_bind ((holds_nodeSecret env fresh d).mono ?_ fun _ => id)
  rintro secret d' ⟨hkept, hsettled⟩
  exact holds_pure ⟨hkept, secret, hsettled, rfl⟩

lemma holds_encrypt (fresh : NodeSecret) (nonce : Nonce) (plain : Bytes) (d : Disk StateFile) :
    Holds (encrypt env fresh nonce plain) d
      (fun sealed d' => CacheKept env d d' ∧ ∃ secret, SecretSettled env d'.files secret ∧
        Opens env secret sealed plain)
      (CacheKept env d) := by
  refine holds_bind ((holds_deriveKey env fresh d).mono ?_ fun _ => id)
  rintro key d' ⟨hkept, secret, hsettled, rfl⟩
  split
  · rename_i ct hct
    exact holds_pure ⟨hkept, secret, hsettled, opens_of_encrypt env hct⟩
  · exact holds_failure hkept

/-! ### Loads -/

section Secret

variable {env} {I : Disk StateFile → Prop} {fresh : NodeSecret}
  (hsecret : Maintains I (nodeSecret env fresh).run)

include hsecret

lemma maintains_deriveKey : Maintains I (deriveKey env fresh).run :=
  maintains_run_bind hsecret fun _ => maintains_run_pure _

lemma maintains_decrypt (sealed : Bytes) : Maintains I (decrypt env fresh sealed).run := by
  cases sealed with
  | nil => exact maintains_run_failure
  | cons ver payload =>
    simp only [decrypt]
    split_ifs
    · exact maintains_run_failure
    · exact maintains_run_failure
    · refine maintains_run_bind (maintains_deriveKey hsecret) fun key => ?_
      split
      · exact maintains_run_pure _
      · exact maintains_run_failure

/-- A load does to the disk what the node secret does to it. -/
lemma maintains_loadBundle : Maintains I (loadBundle env fresh).run := by
  have hload : Maintains I (load env fresh).run := by
    refine maintains_run_bind maintains_pathExists fun found => ?_
    split
    · refine maintains_run_bind maintains_read fun bytes => ?_
      refine maintains_run_bind (maintains_decrypt hsecret bytes) fun plain => ?_
      split
      · exact maintains_run_pure _
      · exact maintains_run_failure
    · exact maintains_run_pure _
  refine maintains_run_bind hload fun entry => ?_
  cases entry with
  | none => exact maintains_run_pure _
  | some entry =>
    dsimp only
    split
    · exact maintains_run_pure _
    · exact maintains_run_failure

end Secret

/-- A load leaves the cache as it is. -/
lemma loadBundle_cacheKept (fresh : NodeSecret) (d : Disk StateFile) (faults : List Answer) :
    CacheKept env d (runFaulty (loadBundle env fresh).run faults d).2 := by
  refine maintains_loadBundle (Holds.maintains ?_) d (.refl env d) faults
  intro d' hkept
  refine (holds_nodeSecret env fresh d').mono ?_ fun _ => hkept.trans
  rintro secret d'' ⟨hkept', -⟩
  exact hkept.trans hkept'

/-! ### Saves -/

/-- What a save leaves, whether or not it succeeds: the cache as it was, if it made no rename, and
else the new entry sealed under a settled secret. -/
def Saved (d : Disk StateFile) (plain : Bytes) (d' : Disk StateFile) : Prop :=
  CacheKept env d d' ∨
    d'.renames = d.renames ++ [(.lkgTmp, .lkg)] ∧
      ∃ secret sealed, SecretSettled env d'.files secret ∧ d'.files .lkg = some sealed ∧
        Opens env secret sealed plain

lemma holds_save (fresh : NodeSecret) (nonce : Nonce) (now : DateTime) (hash : String)
    (bundle : Bundle) (d : Disk StateFile) :
    Holds (save env fresh nonce now hash bundle) d
      (fun _ d' => Saved env d (env.json.encode ⟨hash, env.proto.encode bundle, now⟩) d')
      (Saved env d (env.json.encode ⟨hash, env.proto.encode bundle, now⟩)) := by
  refine holds_bind (holds_createDirAll (Or.inl (.refl env d)) ?_)
  dsimp only
  refine holds_bind ((holds_encrypt env fresh nonce _ d).mono ?_ fun _ => Or.inl)
  rintro sealed d₁ ⟨hkept, secret, hsettled, hopens⟩
  -- The temporary file is no part of the cache.
  have htmp : ∀ bytes, CacheKept env d (d₁.put .lkgTmp bytes) := fun bytes =>
    hkept.trans ⟨rfl, d₁.put_of_ne (by decide) bytes, fun s hs => by
      simpa [SecretSettled] using hs⟩
  refine holds_bind (holds_write (Or.inl hkept) (fun n => Or.inl (htmp _)) ?_)
  refine holds_bind (holds_rename (Or.inl (htmp _)) ?_)
  intro b hb
  rw [Disk.put_self] at hb
  cases hb
  have hsaved : Saved env d (env.json.encode ⟨hash, env.proto.encode bundle, now⟩)
      ((d₁.put .lkgTmp sealed).move .lkgTmp .lkg sealed) := by
    refine Or.inr ⟨?_, secret, sealed, ?_, Disk.move_dst _ (by decide) _, hopens⟩
    · rw [Disk.move, Disk.put_renames, hkept.renames]
    · rcases hsettled with h | ⟨hid, hfile, hlen⟩
      · exact Or.inl h
      · refine Or.inr ⟨hid, ?_, hlen⟩
        rw [Disk.move_of_ne _ (by decide) (by decide), Disk.put_of_ne _ (by decide)]
        exact hfile
  refine holds_bind (holds_attempt (J := Saved env d _) ?_ ?_ fun _ => id)
  · exact holds_setPermissions hsaved (holds_pure hsaved)
  · intro d' hd'
    exact holds_pure hd'

/-! ### Runs -/

/-- The state directory, and the last save whose rename was made. -/
structure LkgHistory (Bundle : Type) where
  files : Files StateFile
  last  : Option (String × Bundle)

/-- A call of the cache, with what happens to its file operations. -/
inductive LkgCall (Bundle : Type)
  | save (fresh : NodeSecret) (nonce : Nonce) (now : DateTime) (hash : String) (bundle : Bundle)
      (faults : List Answer)
  | load (fresh : NodeSecret) (faults : List Answer)

namespace LkgHistory

/-- An empty state directory. -/
def init : LkgHistory Bundle := ⟨fun _ => none, none⟩

def step (s : LkgHistory Bundle) : LkgCall Bundle → LkgHistory Bundle
  | .save fresh nonce now hash bundle faults =>
    let d := (runFaulty (ControlPlaneClient.save env fresh nonce now hash bundle).run faults
      ⟨s.files, []⟩).2
    ⟨d.files, if (.lkgTmp, .lkg) ∈ d.renames then some (hash, bundle) else s.last⟩
  | .load fresh faults =>
    { s with files := (runFaulty (loadBundle env fresh).run faults ⟨s.files, []⟩).2.files }

/-- The last save is on disk, sealed under a secret that is settled. -/
def Intact (s : LkgHistory Bundle) : Prop :=
  match s.last with
  | none => s.files .lkg = none
  | some (hash, bundle) => ∃ secret sealed now, SecretSettled env s.files secret ∧
    s.files .lkg = some sealed ∧
    Opens env secret sealed (env.json.encode ⟨hash, env.proto.encode bundle, now⟩)

variable {env}

lemma Intact.kept {s : LkgHistory Bundle} (h : s.Intact env) {d' : Disk StateFile}
    (hkept : CacheKept env ⟨s.files, []⟩ d') :
    ({ s with files := d'.files } : LkgHistory Bundle).Intact env := by
  unfold Intact at h ⊢
  dsimp only
  split at h
  · exact hkept.lkg.trans h
  · obtain ⟨secret, sealed, now, hsettled, hfile, hopens⟩ := h
    exact ⟨secret, sealed, now, hkept.secret secret hsettled, hkept.lkg.trans hfile, hopens⟩

lemma step_intact {s : LkgHistory Bundle} (h : s.Intact env) (call : LkgCall Bundle) :
    (s.step env call).Intact env := by
  cases call with
  | save fresh nonce now hash bundle faults =>
    have hsaved := (holds_save env fresh nonce now hash bundle ⟨s.files, []⟩).disk faults
    rw [step]
    generalize (runFaulty (ControlPlaneClient.save env fresh nonce now hash bundle).run faults
      ⟨s.files, []⟩).2 = d' at hsaved ⊢
    rcases hsaved with hkept | ⟨hrenames, secret, sealed, hsettled, hfile, hopens⟩
    · have hnone : d'.renames = [] := hkept.renames
      simp only [hnone, List.not_mem_nil, if_false]
      exact h.kept hkept
    · have hone : d'.renames = [(.lkgTmp, .lkg)] := hrenames
      simp only [hone, List.mem_singleton, if_true]
      exact ⟨secret, sealed, now, hsettled, hfile, hopens⟩
  | load fresh faults =>
    exact h.kept (loadBundle_cacheKept env fresh ⟨s.files, []⟩ faults)

lemma foldl_intact {s : LkgHistory Bundle} (h : s.Intact env) (calls : List (LkgCall Bundle)) :
    (calls.foldl (step env) s).Intact env := by
  induction calls generalizing s with
  | nil => exact h
  | cons call calls ih => exact ih (step_intact h call)

/-- What is on disk is what a load returns. -/
lemma Intact.loadBundle {s : LkgHistory Bundle} (h : s.Intact env) (fresh : NodeSecret) :
    eval (loadBundle env fresh) s.files = (some s.last, s.files) := by
  unfold Intact at h
  split at h
  · rename_i hlast
    have hexists : eval (pathExists .lkg) s.files = (some false, s.files) := by
      rw [eval_pathExists, h]
      rfl
    have hload : eval (load env fresh) s.files = (some none, s.files) := by
      rw [load, eval_bind_of_some hexists]
      rfl
    rw [ControlPlaneClient.loadBundle, eval_bind_of_some hload, hlast]
    rfl
  · rename_i hash bundle hlast
    obtain ⟨secret, sealed, now, hsettled, hfile, hopens⟩ := h
    rw [eval_loadBundle_of_opens env hfile hsettled hopens fresh, hlast]

variable (env)

/-- From an empty state directory, after any saves and loads, each of which may fail or be cut off
anywhere, `load_bundle` returns what the last save that reached its rename had saved, and nothing if
none did. It is assumed that `Path::exists` answers truthfully; the real one also says no when the
file cannot be examined. -/
theorem loadBundle_returns_last (calls : List (LkgCall Bundle)) (fresh : NodeSecret) :
    (eval (loadBundle env fresh) (calls.foldl (step env) init).files).1 =
      some (calls.foldl (step env) init).last := by
  have hstart : (init : LkgHistory Bundle).Intact env := rfl
  rw [(foldl_intact hstart calls).loadBundle fresh]

end LkgHistory

end Cache

end ControlPlaneClient
