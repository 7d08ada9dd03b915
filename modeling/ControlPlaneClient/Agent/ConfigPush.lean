import ControlPlaneClient.Agent.Inbound
import ControlPlaneClient.Agent.Status

/-!
# Config pushes

Sequences of `ConfigUpdate` messages: the acks they are answered with, the hash that the status
reports carry, and what they leave in the last-known-good cache.
-/

namespace ControlPlaneClient

open FileSystem Transition

variable {Bundle QuotaStatus : Type} (env : AgentEnv Bundle)

/-! ### Acks and the applied hash -/

/-- The updates as items of the server's stream. -/
def configStream (items : List (ConfigUpdate Bundle × Outside)) :
    List (StreamItem Bundle QuotaStatus) :=
  items.map fun item => .ok (.configUpdate item.1, item.2)

/-- `read_inbound` over the updates: the agent after them, what was done, and the result. -/
def configRun (binding : ChannelBinding) (items : List (ConfigUpdate Bundle × Outside))
    (r : AgentRunner QuotaStatus) (fs : Files StateFile) :
    AgentRunner QuotaStatus × List (Action Bundle) × Except String Unit :=
  (run (readInbound env binding (configStream items) r) fs).1

/-- The acks among the actions, in the order they were sent. -/
def acks (actions : List (Action Bundle)) : List ConfigAck :=
  actions.filterMap fun
    | .send (.configAck a) => some a
    | _                    => none

/-- The agent after the updates. -/
def runnerAfter (items : List (ConfigUpdate Bundle × Outside)) (r : AgentRunner QuotaStatus) :
    AgentRunner QuotaStatus :=
  items.foldl (fun r item => noteApplied env item.1 item.2 r) r

lemma acks_configActions (u : ConfigUpdate Bundle) (out : Outside) :
    acks (configActions env u out) = [configAck env u out] := by
  rw [configActions, applyCalls]
  split <;> rfl

lemma acks_append (xs ys : List (Action Bundle)) : acks (xs ++ ys) = acks xs ++ acks ys :=
  List.filterMap_append

/-- The loop over a stream of updates answers each with its ack. -/
lemma configRun_eq (binding : ChannelBinding) (items : List (ConfigUpdate Bundle × Outside))
    (r : AgentRunner QuotaStatus) (fs : Files StateFile) :
    ∃ actions, configRun env binding items r fs = (runnerAfter env items r, actions, .ok ()) ∧
      acks actions = items.map fun item => configAck env item.1 item.2 := by
  induction items generalizing r fs with
  | nil => exact ⟨[], rfl, rfl⟩
  | cons item items ih =>
    have hhandle := run_handle_configUpdate env binding item.1 item.2 r fs
    obtain ⟨more, hrun, hacks⟩ := ih (noteApplied env item.1 item.2 r)
      (eval (saveLkg env item.1 item.2) fs).2
    refine ⟨configActions env item.1 item.2 ++ more, ?_, ?_⟩
    · exact congrArg Prod.fst (run_readInbound_cons env hhandle (Prod.ext hrun rfl))
    · rw [acks_append, acks_configActions, hacks]
      rfl

/-- The update puts its hash into effect: its bundle was applied, and it names a hash. -/
def TakesEffect (item : ConfigUpdate Bundle × Outside) : Prop :=
  item.2.applied = .ok () ∧ item.1.configHash ≠ ""

instance (item : ConfigUpdate Bundle × Outside) : Decidable (TakesEffect item) :=
  match h : item.2.applied with
  | .ok ()   => decidable_of_iff (item.1.configHash ≠ "") (by simp [TakesEffect, h])
  | .error _ => .isFalse (by simp [TakesEffect, h])

section Wired

variable (hwired : env.configApplier = true)

include hwired

lemma applyOutcome_eq {u : ConfigUpdate Bundle} (hbundle : u.bundle.isSome = true)
    (out : Outside) : applyOutcome env u out = out.applied := by
  obtain ⟨b, hb⟩ := Option.isSome_iff_exists.mp hbundle
  rw [applyOutcome, hb, hwired]

/-- The ack of a bundle says what the applier said. -/
lemma configAck_active_iff {u : ConfigUpdate Bundle} (hbundle : u.bundle.isSome = true)
    (out : Outside) :
    (configAck env u out).appliedState = "active" ↔ out.applied = .ok () := by
  rw [configAck, applyOutcome_eq env hwired hbundle]
  cases out.applied <;> simp [appliedState]

lemma noteApplied_hash {item : ConfigUpdate Bundle × Outside}
    (hbundle : item.1.bundle.isSome = true) (r : AgentRunner QuotaStatus) :
    (noteApplied env item.1 item.2 r).appliedConfigHash =
      if TakesEffect item then some item.1.configHash else r.appliedConfigHash := by
  have hcond : (appliedState (applyOutcome env item.1 item.2)).1 = "active" ∧
      item.1.configHash ≠ "" ↔ TakesEffect item :=
    and_congr_left' (configAck_active_iff env hwired hbundle item.2)
  by_cases heffect : TakesEffect item
  · rw [noteApplied, if_pos (hcond.mpr heffect), if_pos heffect]
  · rw [noteApplied, if_neg (mt hcond.mp heffect), if_neg heffect]

/-- With a bundle in every update, the hash is that of the last one that took effect. -/
lemma runnerAfter_hash {items : List (ConfigUpdate Bundle × Outside)}
    (hbundles : ∀ item ∈ items, item.1.bundle.isSome = true) (r : AgentRunner QuotaStatus) :
    (runnerAfter env items r).appliedConfigHash =
      ((items.filter fun item => TakesEffect item).getLast?.map fun item =>
        item.1.configHash).or r.appliedConfigHash := by
  induction items using List.reverseRecOn with
  | nil => rfl
  | append_singleton items item ih =>
    have hitem := hbundles item (List.mem_append_right _ (List.mem_singleton_self _))
    have hprev := ih fun x hx => hbundles x (List.mem_append_left _ hx)
    rw [runnerAfter] at hprev
    rw [runnerAfter, List.foldl_append, List.foldl_cons, List.foldl_nil,
      noteApplied_hash env hwired hitem, List.filter_append]
    split_ifs with heffect
    · simp [heffect]
    · simpa [heffect] using hprev

/-- Every update is acknowledged once and in order, under its own hash, and for an update with a
bundle the ack is active exactly when the applier took the bundle. An update with a bundle changes
the applied hash exactly when it takes effect, so that in a stream of bundles the hash is that of
the last update that did. The status reports carry it. -/
theorem config_updates_acknowledged (binding : ChannelBinding)
    (items : List (ConfigUpdate Bundle × Outside)) (r : AgentRunner QuotaStatus)
    (fs : Files StateFile) :
    let after := configRun env binding items r fs
    after.2.2 = .ok () ∧
    List.Forall₂ (fun item ack => ack.configHash = item.1.configHash ∧
        (item.1.bundle.isSome = true → (ack.appliedState = "active" ↔ item.2.applied = .ok ())))
      items (acks after.2.1) ∧
    (∀ item, item.1.bundle.isSome = true →
      (configRun env binding (items ++ [item]) r fs).1.appliedConfigHash =
        if TakesEffect item then some item.1.configHash else after.1.appliedConfigHash) ∧
    ((∀ item ∈ items, item.1.bundle.isSome = true) → after.1.appliedConfigHash =
      ((items.filter fun item => TakesEffect item).getLast?.map fun item =>
        item.1.configHash).or r.appliedConfigHash) ∧
    ∀ snap now, (after.1.statusReport snap now).configHash =
      after.1.appliedConfigHash.getD "" := by
  obtain ⟨actions, hrun, hacks⟩ := configRun_eq env binding items r fs
  rw [hrun]
  refine ⟨rfl, ?_, ?_, fun hbundles => runnerAfter_hash env hwired hbundles r, fun _ _ => rfl⟩
  · rw [hacks, List.forall₂_map_right_iff, List.forall₂_same]
    exact fun item _ => ⟨rfl, fun hbundle => configAck_active_iff env hwired hbundle item.2⟩
  · intro item hbundle
    obtain ⟨actions', hrun', -⟩ := configRun_eq env binding (items ++ [item]) r fs
    rw [hrun', runnerAfter, List.foldl_append]
    exact noteApplied_hash env hwired hbundle _

end Wired

/-- Two bundles, the second of which is refused. -/
def refusedPush : List (ConfigUpdate Bytes × Outside) :=
  [(⟨"hash-1", some [8, 1]⟩, sampleOutside (.ok ())),
    (⟨"hash-2", some [8, 2]⟩, sampleOutside (.error "bad plugin"))]

theorem config_updates_acknowledged_refused :
    (sampleEnv Codec.unary).configApplier = true ∧
    ∃ after : AgentRunner Unit × List (Action Bytes) × Except String Unit,
      configRun (sampleEnv Codec.unary) ⟨"nonce", "uid"⟩ refusedPush
        (boot (sampleEnv Codec.unary).cfg) (fun _ => none) = after ∧
      (acks after.2.1).length = refusedPush.length ∧
      after.1.appliedConfigHash = some "hash-1" := by
  obtain ⟨-, hacks, -, hhash, -⟩ := config_updates_acknowledged (sampleEnv Codec.unary) rfl
    ⟨"nonce", "uid"⟩ refusedPush (boot (sampleEnv Codec.unary).cfg : AgentRunner Unit)
    (fun _ => none)
  refine ⟨rfl, _, rfl, hacks.length_eq.symm, ?_⟩
  rw [hhash (by simp [refusedPush])]
  simp [refusedPush, TakesEffect, sampleOutside]

/-- An update without a bundle is acknowledged as active and its hash reported as applied, and a
bundle that was applied under an empty hash leaves the reported hash as it was. -/
theorem config_ack_without_bundle :
    let env := sampleEnv Codec.unary
    let start : AgentRunner Unit := { boot env.cfg with appliedConfigHash := some "hash-0" }
    let after (u : ConfigUpdate Bytes) :=
      configRun env ⟨"nonce", "uid"⟩ [(u, sampleOutside (.ok ()))] start fun _ => none
    env.configApplier = true ∧
    (acks (after ⟨"hash-1", none⟩).2.1).map ConfigAck.appliedState = ["active"] ∧
    (after ⟨"hash-1", none⟩).1.appliedConfigHash = some "hash-1" ∧
    (acks (after ⟨"", some [8, 1]⟩).2.1).map ConfigAck.appliedState = ["active"] ∧
    (after ⟨"", some [8, 1]⟩).1.appliedConfigHash = some "hash-0" := by
  intro env start after
  obtain ⟨actions, hrun, hacks⟩ := configRun_eq env ⟨"nonce", "uid"⟩
    [(⟨"hash-1", none⟩, sampleOutside (.ok ()))] start fun _ => none
  obtain ⟨actions', hrun', hacks'⟩ := configRun_eq env ⟨"nonce", "uid"⟩
    [(⟨"", some [8, 1]⟩, sampleOutside (.ok ()))] start fun _ => none
  simp only [after, hrun, hrun', hacks, hacks']
  exact ⟨rfl, rfl, rfl, rfl, rfl⟩

/-! ### The cache -/

/-- An update with a bundle, and what the outside answers to it. -/
structure Push (Bundle : Type) where
  hash   : String
  bundle : Bundle
  out    : Outside

def Push.update (p : Push Bundle) : ConfigUpdate Bundle := ⟨p.hash, some p.bundle⟩

/-- What `load_bundle` returns, should it have to create the node secret from `fresh`. -/
def cached (fs : Files StateFile) (fresh : NodeSecret) : Option (Option (String × Bundle)) :=
  (eval (loadBundle env.lkg fresh) fs).1

/-- A run of pushes, with what the cache should return: the last bundle that was applied. -/
structure CacheRun (Bundle QuotaStatus : Type) where
  world : World QuotaStatus
  good  : NodeSecret → Option (Option (String × Bundle))

/-- Handle a push whose cache write succeeds. -/
def pushStep (binding : ChannelBinding) (s : CacheRun Bundle QuotaStatus) (p : Push Bundle) :
    Option (CacheRun Bundle QuotaStatus) :=
  if (eval (saveLkg env p.update p.out) s.world.files).1 = some () then
    (receive env binding s.world (.configUpdate p.update, p.out)).map fun w =>
      ⟨w, match applyOutcome env p.update p.out with
        | .ok ()   => fun _ => some (some (p.hash, p.bundle))
        | .error _ => s.good⟩
  else none

/-- The cache returns the last bundle that was applied. -/
def CacheGood (s : CacheRun Bundle QuotaStatus) : Prop :=
  ∀ fresh, cached env s.world.files fresh = s.good fresh

/-- The bundle is applied, or it is the one that the cache has already. -/
def AppliedOrCached (s : CacheRun Bundle QuotaStatus) (p : Push Bundle) : Prop :=
  p.out.applied = .ok () ∨
    ∀ fresh, cached env s.world.files fresh = some (some (p.hash, p.bundle))

/-- A push leaves its own bundle in the cache, whatever the applier says to it. -/
lemma pushStep_cached {binding : ChannelBinding} {s s' : CacheRun Bundle QuotaStatus}
    {p : Push Bundle} (h : pushStep env binding s p = some s') (fresh : NodeSecret) :
    cached env s'.world.files fresh = some (some (p.hash, p.bundle)) := by
  simp only [pushStep, receive, run_handle_configUpdate] at h
  split at h
  · rename_i hsaved
    cases h
    have hload : eval (loadBundle env.lkg fresh) (eval (saveLkg env p.update p.out)
        s.world.files).2 = _ := eval_loadBundle_of_save env.lkg (Prod.ext hsaved rfl) fresh
    exact congrArg Prod.fst hload
  · cases h

lemma pushStep_good {binding : ChannelBinding} {s s' : CacheRun Bundle QuotaStatus}
    {p : Push Bundle} (h : pushStep env binding s p = some s') :
    s'.good = match applyOutcome env p.update p.out with
      | .ok ()   => fun _ => some (some (p.hash, p.bundle))
      | .error _ => s.good := by
  simp only [pushStep] at h
  split at h
  · obtain ⟨w, -, rfl⟩ := Option.map_eq_some_iff.mp h
    rfl
  · cases h

lemma pushStep_cacheGood_iff (hwired : env.configApplier = true) {binding : ChannelBinding}
    {s s' : CacheRun Bundle QuotaStatus} {p : Push Bundle} (hs : CacheGood env s)
    (h : pushStep env binding s p = some s') : CacheGood env s' ↔ AppliedOrCached env s p := by
  have hgood := pushStep_good env h
  rw [applyOutcome_eq env hwired rfl] at hgood
  simp only [CacheGood, AppliedOrCached, pushStep_cached env h, hgood, hs _]
  cases p.out.applied with
  | ok u => simp
  | error e => simp [eq_comm]

/-- The cache returns the last applied bundle throughout a run of pushes exactly when every bundle
that is pushed is applied, or was in the cache already. -/
theorem cache_good_iff (hwired : env.configApplier = true) (binding : ChannelBinding)
    (w : World QuotaStatus) (pushes : List (Push Bundle)) (s : CacheRun Bundle QuotaStatus)
    (h : exec (pushStep env binding) ⟨w, cached env w.files⟩ pushes = some s) :
    Throughout (pushStep env binding) (CacheGood env) ⟨w, cached env w.files⟩ pushes ↔
      StepsMeet (pushStep env binding) (AppliedOrCached env) ⟨w, cached env w.files⟩ pushes :=
  throughout_iff_stepsMeet (I := fun _ => True) (fun _ _ _ _ _ => trivial)
    (fun _ _ _ _ hs hstep => pushStep_cacheGood_iff env hwired hs hstep) trivial (fun _ => rfl) h

/-- The sample entry, pushed to an agent with an empty state directory. -/
def samplePush (applied : Except String Unit) : Push Bytes :=
  ⟨"hash-1", [8, 1], sampleOutside applied⟩

def emptyWorld : World Unit := ⟨boot (sampleEnv Codec.unary).cfg, fun _ => none⟩

lemma pushStep_samplePush (applied : Except String Unit) (s : CacheRun Bytes Unit) :
    ∃ s', pushStep (sampleEnv Codec.unary) ⟨"nonce", "uid"⟩ s (samplePush applied) = some s' := by
  have haead : ∀ key nonce plain, (sampleAead.encrypt key nonce plain).isSome = true := by
    intro key nonce plain
    simp only [sampleAead]
    split_ifs <;> rfl
  have hsaved : (eval (saveLkg (sampleEnv Codec.unary) (samplePush applied).update
      (samplePush applied).out) s.world.files).1 = some () :=
    eval_save sampleLkg haead _ _ _ _ _ _
  exact ⟨_, by rw [pushStep, if_pos hsaved, receive, run_handle_configUpdate]; rfl⟩

/-- The first bundle that is applied is cached. -/
theorem cache_good_iff_applied :
    let env := sampleEnv Codec.unary
    let start : CacheRun Bytes Unit := ⟨emptyWorld, cached env emptyWorld.files⟩
    (∃ s, exec (pushStep env ⟨"nonce", "uid"⟩) start [samplePush (.ok ())] = some s) ∧
      StepsMeet (pushStep env ⟨"nonce", "uid"⟩) (AppliedOrCached env) start
        [samplePush (.ok ())] ∧
      Throughout (pushStep env ⟨"nonce", "uid"⟩) (CacheGood env) start
        [samplePush (.ok ())] := by
  intro env start
  obtain ⟨s, hs⟩ := pushStep_samplePush (.ok ()) start
  have hrun : exec (pushStep env ⟨"nonce", "uid"⟩) start [samplePush (.ok ())] = some s := by
    rw [exec, hs]
    rfl
  have hmeet : StepsMeet (pushStep env ⟨"nonce", "uid"⟩) (AppliedOrCached env) start
      [samplePush (.ok ())] := ⟨.inl rfl, fun _ _ => trivial⟩
  exact ⟨⟨s, hrun⟩, hmeet,
    (cache_good_iff env rfl ⟨"nonce", "uid"⟩ emptyWorld _ s hrun).mpr hmeet⟩

/-- A bundle that the applier refuses is what the cache returns afterwards, on an agent that never
applied one. -/
theorem refused_bundle_cached :
    let env := sampleEnv Codec.unary
    let start : CacheRun Bytes Unit := ⟨emptyWorld, cached env emptyWorld.files⟩
    env.configApplier = true ∧ (∀ fresh, cached env emptyWorld.files fresh = some none) ∧
    ∃ s, exec (pushStep env ⟨"nonce", "uid"⟩) start [samplePush (.error "bad plugin")] = some s ∧
      (∀ fresh, s.good fresh = some none) ∧
      (∀ fresh, cached env s.world.files fresh = some (some ("hash-1", [8, 1]))) ∧
      ¬ CacheGood env s := by
  intro env start
  have hempty : ∀ fresh, cached env emptyWorld.files fresh = some none := fun _ => rfl
  obtain ⟨s, hs⟩ := pushStep_samplePush (.error "bad plugin") start
  have hgood : ∀ fresh, s.good fresh = some none := fun fresh =>
    (congrFun (pushStep_good env hs) fresh).trans (hempty fresh)
  have hcached := pushStep_cached env hs
  refine ⟨rfl, hempty, s, ?_, hgood, hcached, ?_⟩
  · rw [exec, hs]
    rfl
  · intro h
    have hfresh := h (sampleOutside (.ok ())).nodeSecret
    rw [hcached, hgood] at hfresh
    cases hfresh

end ControlPlaneClient
