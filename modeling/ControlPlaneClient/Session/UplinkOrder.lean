import ControlPlaneClient.Session.Uplink

/-!
# The config hashes that the control plane sees

The outbound queues keep the order of each task, and a message is overtaken by at most one message of
each other task. So the config hashes in the status reports never go back, and at most one report that
follows an ack is older than it.
-/

namespace ControlPlaneClient

open Transition Mailbox

def AgentMessage.report? : AgentMessage → Option StatusReport
  | .statusReport r => some r
  | _               => none

lemma message_of_report? {m : AgentMessage} {r : StatusReport} (h : m.report? = some r) :
    m = .statusReport r := by
  cases m <;> simp [AgentMessage.report?] at h
  rw [h]

/-- In a sorted list with at most one element below `v`, only the first can be. -/
lemma le_of_mem_drop_one {l : List ℕ} {v : ℕ} (hsorted : l.Pairwise (· ≤ ·))
    (hone : l.countP (· < v) ≤ 1) : ∀ w ∈ l.drop 1, v ≤ w := by
  intro w hw
  cases l with
  | nil => cases hw
  | cons x l =>
    rw [List.pairwise_cons] at hsorted
    have hxw := hsorted.1 w hw
    by_contra hlt
    have hw' : 0 < l.countP (· < v) :=
      List.countP_pos_iff.mpr ⟨w, hw, by simpa using hlt⟩
    rw [List.countP_cons_of_pos (by simpa using hxw.trans_lt (not_le.mp hlt))] at hone
    omega

/-- The hash in force after the first `v` hashes; before the first one a report names none. -/
def hashAfter (applied : List String) (v : ℕ) : String := (applied.take v).getLast?.getD ""

/-- The status reports among messages. -/
def reports (ms : List (Item Sender Sent)) : List StatusReport :=
  ms.filterMap fun m => m.body.message.report?

/-- When they were made. -/
def reportVersions (ms : List (Item Sender Sent)) : List ℕ :=
  ms.filterMap fun m => m.body.message.report?.map fun _ => m.body.version

/-- What a message says of the applied config was so when it was made. -/
structure Truthful (applied : List String) (m : Item Sender Sent) : Prop where
  bound  : m.body.version ≤ applied.length
  report : ∀ r, m.body.message = .statusReport r →
    m.sender = .status ∧ r.configHash = hashAfter applied m.body.version
  ack    : ∀ a, m.body.message = .configAck a → a.appliedState = "active" → a.configHash ≠ "" →
    (applied.take m.body.version).getLast? = some a.configHash

lemma Truthful.mono {applied applied' : List String} {m : Item Sender Sent}
    (h : Truthful applied m) (hle : applied <+: applied') : Truthful applied' m := by
  have htake : applied'.take m.body.version = applied.take m.body.version := by
    obtain ⟨more, rfl⟩ := hle
    exact List.take_append_of_le_length h.bound
  refine ⟨h.bound.trans hle.length_le, ?_, ?_⟩
  · intro r hr
    obtain ⟨hsender, hhash⟩ := h.report r hr
    exact ⟨hsender, by rw [hhash, hashAfter, hashAfter, htake]⟩
  · intro a ha hactive hne
    rw [htake]
    exact h.ack a ha hactive hne

/-- The reports name the hashes of their versions. -/
lemma reports_eq {applied : List String} {ms : List (Item Sender Sent)}
    (h : ∀ m ∈ ms, Truthful applied m) :
    (reports ms).map StatusReport.configHash = (reportVersions ms).map (hashAfter applied) := by
  induction ms with
  | nil => rfl
  | cons m ms ih =>
    rw [List.forall_mem_cons] at h
    have hrest := ih h.2
    rw [reports, reportVersions] at hrest ⊢
    cases hr : m.body.message.report? with
    | none => simpa [hr] using hrest
    | some r =>
      simp [hr, hrest, (h.1.report r (message_of_report? hr)).2]

namespace Uplink

variable {Bundle QuotaStatus : Type} {env : AgentEnv Bundle} {statusSource : Bool}

lemma note_extends (env : AgentEnv Bundle) (u : ConfigUpdate Bundle) (out : Outside)
    (applied : List String) : applied <+: note env u out applied := by
  rw [note]
  split
  · exact List.prefix_append _ _
  · exact List.prefix_rfl

lemma noteApplied_hash {u : ConfigUpdate Bundle} {out : Outside} {applied : List String}
    {r : AgentRunner QuotaStatus} (h : r.appliedConfigHash = applied.getLast?) :
    (noteApplied env u out r).appliedConfigHash = (note env u out applied).getLast? := by
  by_cases hu : (appliedState (applyOutcome env u out)).1 = "active" ∧ u.configHash ≠ ""
  · rw [noteApplied, note, if_pos hu, if_pos (by simpa [applies] using hu)]
    simp
  · rw [noteApplied, note, if_neg hu, if_neg (by simpa [applies] using hu), h]

/-- An active ack is made when its hash is the one in force. -/
lemma note_getLast {u : ConfigUpdate Bundle} {out : Outside} (applied : List String)
    (hactive : (configAck env u out).appliedState = "active")
    (hne : (configAck env u out).configHash ≠ "") :
    (note env u out applied).getLast? = some (configAck env u out).configHash := by
  have hu : applies env u out = true := by
    rw [applies, decide_eq_true_eq]
    exact ⟨hactive, hne⟩
  rw [note, if_pos hu]
  simp [configAck]

/-- The messages made so far, in the order of their making, are true. -/
structure Stamped (s : Uplink Bundle QuotaStatus) : Prop where
  hash     : s.runner.appliedConfigHash = s.applied.getLast?
  truthful : ∀ m ∈ s.outbound.made, Truthful s.applied m
  order    : s.outbound.made.Pairwise fun a b => a.body.version ≤ b.body.version

/-- One more message, true at this moment. -/
lemma Stamped.say {s s' : Uplink Bundle QuotaStatus} (hs : s.Stamped)
    (happlied : s.applied <+: s'.applied)
    (hhash : s'.runner.appliedConfigHash = s'.applied.getLast?) {e : Mailbox.Event Sender Sent}
    (ho : s.outbound.step e = some s'.outbound)
    (hsaid : ∀ m ∈ s.outbound.said e, Truthful s'.applied m ∧ m.body.version = s'.applied.length) :
    s'.Stamped := by
  have hmade := step_made ho
  constructor
  · exact hhash
  · intro m hm
    rw [hmade] at hm
    rcases List.mem_append.mp hm with hm | hm
    · exact (hs.truthful m hm).mono happlied
    · exact (hsaid m hm).1
  · rw [hmade, List.pairwise_append]
    refine ⟨hs.order, ?_, ?_⟩
    · cases e with
      | send k body => exact List.pairwise_singleton _ _
      | opens | closes | push | take => exact List.Pairwise.nil
    · intro a ha b hb
      rw [(hsaid b hb).2]
      exact (hs.truthful a ha).bound.trans happlied.length_le

lemma Stamped.silent {s s' : Uplink Bundle QuotaStatus} (hs : s.Stamped)
    (happlied : s'.applied = s.applied) (hrunner : s'.runner = s.runner)
    {e : Mailbox.Event Sender Sent} (ho : s.outbound.step e = some s'.outbound)
    (hsilent : s.outbound.said e = []) : s'.Stamped := by
  apply hs.say (happlied ▸ List.prefix_rfl) _ ho
  · rw [hsilent]
    exact List.forall_mem_nil _
  · rw [hrunner, happlied]
    exact hs.hash

/-- A message that names no config is true whenever it is made. -/
lemma truthful_sent (s : Uplink Bundle QuotaStatus) {k : Sender} {m : AgentMessage} (round number : ℕ)
    (hreport : ∀ r, m = .statusReport r →
      k = .status ∧ r.configHash = hashAfter s.applied s.applied.length)
    (hack : ∀ a, m ≠ .configAck a) :
    Truthful s.applied ⟨k, round, number, s.sent m⟩ ∧ (s.sent m).version = s.applied.length :=
  ⟨⟨le_rfl, hreport, fun a ha => absurd ha (hack a)⟩, rfl⟩

lemma step_stamped {s s' : Uplink Bundle QuotaStatus} {e : UplinkEvent Bundle}
    (h : s.step env statusSource e = some s') (hs : s.Stamped) : s'.Stamped := by
  cases step_effect h with
  | opens ht ho => exact hs.silent rfl rfl ho rfl
  | ends ho => exact hs.silent rfl rfl ho rfl
  | take ho => exact hs.silent rfl rfl ho rfl
  | flush t m ho =>
    refine hs.say List.prefix_rfl hs.hash ho ?_
    intro x hx
    rw [List.mem_singleton.mp hx]
    cases m with
    | inl r => exact truthful_sent s _ _ nofun nofun
    | inr b => exact truthful_sent s _ _ nofun nofun
  | flushSent t ho => exact hs.silent rfl rfl ho rfl
  | beat now ht ho =>
    refine hs.say List.prefix_rfl hs.hash ho ?_
    intro x hx
    rw [List.mem_singleton.mp hx]
    exact truthful_sent s _ _ nofun nofun
  | beatSent ht ho => exact hs.silent rfl rfl ho rfl
  | statusTick ht => exact ⟨hs.hash, hs.truthful, hs.order⟩
  | snapshot snap now ht ho =>
    refine hs.say List.prefix_rfl hs.hash ho ?_
    intro x hx
    rw [List.mem_singleton.mp hx]
    refine truthful_sent s _ _ ?_ nofun
    intro r hr
    cases hr
    refine ⟨rfl, ?_⟩
    rw [hashAfter, List.take_length, ← hs.hash]
    rfl
  | reported ht ho => exact hs.silent rfl rfl ho rfl
  | update u ht => exact ⟨hs.hash, hs.truthful, hs.order⟩
  | @applied out heartbeat status u o ht ho =>
    refine hs.say (note_extends env u out s.applied) (noteApplied_hash hs.hash) ho ?_
    intro x hx
    rw [List.mem_singleton.mp hx]
    refine ⟨⟨le_rfl, nofun, ?_⟩, rfl⟩
    intro a ha hactive hne
    cases ha
    rw [List.take_length]
    exact note_getLast s.applied hactive hne
  | acked ht ho => exact hs.silent rfl rfl ho rfl

lemma init_stamped (r : AgentRunner QuotaStatus) : (init r : Uplink Bundle QuotaStatus).Stamped where
  hash := by cases h : r.appliedConfigHash <;> simp [init, h]
  truthful := List.forall_mem_nil _
  order := List.Pairwise.nil

section Runs

variable {r : AgentRunner QuotaStatus} {es : List (UplinkEvent Bundle)}
  {s : Uplink Bundle QuotaStatus}

lemma exec_stamped (h : exec (step env statusSource) (init r) es = some s) : s.Stamped :=
  exec_invariant (fun _ _ _ hs hstep => step_stamped hstep hs) (init_stamped r) h

/-- The transport gets what was made, and of each task in the order of the making. -/
lemma taken_truthful (h : exec (step env statusSource) (init r) es = some s) :
    ∀ m ∈ s.outbound.taken, m ∈ s.outbound.made ∧ Truthful s.applied m := by
  obtain ⟨bes, hbox⟩ := exec_outbound h
  have hsound := exec_sound hbox
  intro m hm
  have hmade := hsound.known m.sender m ((taken_prefix_line _ _).subset hm)
  exact ⟨hmade, (exec_stamped h).truthful m hmade⟩

/-- Of two messages the one with the smaller number has the smaller version. -/
lemma version_le_of_number_lt (h : exec (step env statusSource) (init r) es = some s)
    {a b : Item Sender Sent} (ha : a ∈ s.outbound.made) (hb : b ∈ s.outbound.made)
    (hlt : a.number < b.number) : a.body.version ≤ b.body.version := by
  obtain ⟨bes, hbox⟩ := exec_outbound h
  have hnumbers := (exec_sound hbox).numbers
  obtain ⟨i, hi, rfl⟩ := List.mem_iff_getElem.mp ha
  obtain ⟨j, hj, rfl⟩ := List.mem_iff_getElem.mp hb
  rw [hnumbers i _ (List.getElem?_eq_getElem hi), hnumbers j _ (List.getElem?_eq_getElem hj)] at hlt
  exact List.pairwise_iff_getElem.mp (exec_stamped h).order i j hi hj hlt

/-- The versions of the reports among messages in the order of the transport. -/
lemma reportVersions_sorted (h : exec (step env statusSource) (init r) es = some s)
    {ms : List (Item Sender Sent)} (hms : ms.Sublist s.outbound.taken) :
    (reportVersions ms).Pairwise (· ≤ ·) := by
  obtain ⟨bes, hbox⟩ := exec_outbound h
  have horder := (taken_in_order hbox).sublist hms
  rw [reportVersions, List.pairwise_filterMap]
  apply horder.imp_of_mem
  intro a b ha hb hab v hv w hw
  obtain ⟨hamade, hatrue⟩ := taken_truthful h a (hms.subset ha)
  obtain ⟨hbmade, hbtrue⟩ := taken_truthful h b (hms.subset hb)
  obtain ⟨ra, hra, rfl⟩ := Option.map_eq_some_iff.mp hv
  obtain ⟨rb, hrb, rfl⟩ := Option.map_eq_some_iff.mp hw
  have hsender : a.sender = b.sender := by
    rw [(hatrue.report ra (message_of_report? hra)).1, (hbtrue.report rb (message_of_report? hrb)).1]
  exact version_le_of_number_lt h hamade hbmade (hab hsender)

/-- Over all the Channels of a process, whatever the config updates and however the tasks interleave:
the config hashes in the status reports are, in their order, hashes that were in force at moments that
never go back. -/
theorem reported_hashes_never_go_back (env : AgentEnv Bundle) (statusSource : Bool)
    (r : AgentRunner QuotaStatus) (es : List (UplinkEvent Bundle)) (s : Uplink Bundle QuotaStatus)
    (h : exec (step env statusSource) (init r) es = some s) :
    ∃ moments : List ℕ, moments.Pairwise (· ≤ ·) ∧ (∀ v ∈ moments, v ≤ s.applied.length) ∧
      (reports s.outbound.taken).map StatusReport.configHash = moments.map (hashAfter s.applied) := by
  have htrue : ∀ m ∈ s.outbound.taken, Truthful s.applied m := fun m hm => (taken_truthful h m hm).2
  refine ⟨reportVersions s.outbound.taken, ?_, ?_, reports_eq htrue⟩
  · exact reportVersions_sorted h (List.Sublist.refl _)
  · intro v hv
    obtain ⟨m, hm, hmv⟩ := List.mem_filterMap.mp hv
    obtain ⟨_, _, rfl⟩ := Option.map_eq_some_iff.mp hmv
    exact (htrue m hm).bound

/-- Of the status reports that the transport takes after the ack of an update that was applied, at
most the first one was made before the update took effect, and the others name what was in force
later. The moments are the number of hashes that had been in force when a message was made, so they
tell an update from an earlier one with the same hash. -/
theorem one_stale_report_after_ack (env : AgentEnv Bundle) (statusSource : Bool)
    (r : AgentRunner QuotaStatus) (es : List (UplinkEvent Bundle)) (s : Uplink Bundle QuotaStatus)
    (h : exec (step env statusSource) (init r) es = some s) (before after : List (Item Sender Sent))
    (m : Item Sender Sent) (hm : s.outbound.taken = before ++ m :: after) (a : ConfigAck)
    (ha : m.body.message = .configAck a) (hactive : a.appliedState = "active")
    (hne : a.configHash ≠ "") :
    (s.applied.take m.body.version).getLast? = some a.configHash ∧
    (reports after).map StatusReport.configHash = (reportVersions after).map (hashAfter s.applied) ∧
    (reportVersions after).Pairwise (· ≤ ·) ∧
    ∀ w ∈ (reportVersions after).drop 1, m.body.version ≤ w := by
  obtain ⟨bes, hbox⟩ := exec_outbound h
  have hmem : m ∈ s.outbound.taken := by simp [hm]
  have hafter : after.Sublist s.outbound.taken := by
    rw [hm]
    exact (List.sublist_cons_self m after).trans (List.sublist_append_right _ _)
  have htrue : ∀ x ∈ after, Truthful s.applied x := fun x hx =>
    (taken_truthful h x (hafter.subset hx)).2
  obtain ⟨hmade, hmtrue⟩ := taken_truthful h m hmem
  have hsorted := reportVersions_sorted h hafter
  refine ⟨hmtrue.ack a ha hactive hne, reports_eq htrue, hsorted, ?_⟩
  -- A report of an earlier version was made earlier, so it was overtaken by the ack.
  have hstale : (reportVersions after).countP (· < m.body.version) ≤
      after.countP fun x => decide (x.sender = .status ∧ x.number < m.number) := by
    rw [reportVersions, List.countP_filterMap]
    apply List.countP_mono_left
    intro x hx hold
    cases hr : x.body.message.report? with
    | none => simp [hr] at hold
    | some report =>
      have hlt : x.body.version < m.body.version := by simpa [hr] using hold
      obtain ⟨hxmade, hxtrue⟩ := taken_truthful h x (hafter.subset hx)
      rw [decide_eq_true_eq]
      refine ⟨(hxtrue.report report (message_of_report? hr)).1, ?_⟩
      by_contra hge
      rcases Nat.lt_or_eq_of_le (not_lt.mp hge) with hnumber | hnumber
      · exact absurd (version_le_of_number_lt h hmade hxmade hnumber) (not_le.mpr hlt)
      · have hsame := (exec_sound hbox).eq_of_number hmade hxmade hnumber
        rw [hsame] at hlt
        exact lt_irrefl _ hlt
  have hone := hstale.trans ((overtaken_once hbox .status).countP_le hm)
  exact le_of_mem_drop_one hsorted hone

/-- A report is made before an update is applied and queued after its ack; the next one names the new
hash. -/
def overtakenReport : List (UplinkEvent Bytes) :=
  let snap : StatusSnapshot := ⟨[], [], none, "", none⟩
  [.opens, .statusTick, .snapshot snap 0, .update ⟨"hash-1", some [8, 1]⟩,
    .applied (sampleOutside (.ok ())), .acked, .reported, .statusTick, .snapshot snap 0, .reported,
    .take, .take, .take]

/-- A process that has preloaded a config. -/
def preloaded : AgentRunner Unit := ⟨.new "https://cp.example:7844", none, none, some "hash-0"⟩

theorem reported_hashes_never_go_back_overtaken :
    ∃ s, exec (step (sampleEnv Codec.unary) true) (init preloaded) overtakenReport = some s ∧
      (reports s.outbound.taken).map StatusReport.configHash = ["hash-0", "hash-1"] ∧
      ∃ moments : List ℕ, moments.Pairwise (· ≤ ·) ∧ (∀ v ∈ moments, v ≤ s.applied.length) ∧
        (reports s.outbound.taken).map StatusReport.configHash =
          moments.map (hashAfter s.applied) := by
  refine ⟨_, rfl, rfl, ?_⟩
  exact reported_hashes_never_go_back (sampleEnv Codec.unary) true preloaded overtakenReport _ rfl

/-- A report of an update is overtaken by the ack of the next one, which goes back to the config from
before. -/
def rolledBack : List (UplinkEvent Bytes) :=
  let snap : StatusSnapshot := ⟨[], [], none, "", none⟩
  [.opens, .update ⟨"hash-1", some [8, 1]⟩, .applied (sampleOutside (.ok ())), .acked, .statusTick,
    .snapshot snap 0, .update ⟨"hash-0", some [8, 0]⟩, .applied (sampleOutside (.ok ())), .acked,
    .reported, .statusTick, .snapshot snap 0, .reported, .take, .take, .take, .take]

/-- The report that follows the second ack is stale, the next one is not, though the hash it names was
in force before. -/
lemma exec_rolledBack :
    ∃ s first m after, exec (step (sampleEnv Codec.unary) true) (init preloaded) rolledBack = some s ∧
      s.applied = ["hash-0", "hash-1", "hash-0"] ∧ s.outbound.taken = [first] ++ m :: after ∧
      m.body = ⟨.configAck ⟨"hash-0", ⟨0, 0⟩, "active", ""⟩, 3⟩ ∧
      (reports after).map StatusReport.configHash = ["hash-1", "hash-0"] ∧
      reportVersions after = [2, 3] :=
  ⟨_, _, _, _, rfl, rfl, rfl, rfl, rfl, rfl⟩

theorem one_stale_report_after_ack_rolled_back :
    ∃ s first m after, exec (step (sampleEnv Codec.unary) true) (init preloaded) rolledBack = some s ∧
      s.outbound.taken = [first] ++ m :: after ∧ m.body.version = 3 ∧
      reportVersions after = [2, 3] ∧ (s.applied.take m.body.version).getLast? = some "hash-0" ∧
      (reports after).map StatusReport.configHash =
        (reportVersions after).map (hashAfter s.applied) ∧
      (reportVersions after).Pairwise (· ≤ ·) ∧
      ∀ w ∈ (reportVersions after).drop 1, m.body.version ≤ w := by
  obtain ⟨s, first, m, after, hs, -, htaken, hack, -, hversions⟩ := exec_rolledBack
  refine ⟨s, first, m, after, hs, htaken, congrArg Sent.version hack, hversions, ?_⟩
  exact one_stale_report_after_ack (sampleEnv Codec.unary) true preloaded rolledBack s hs
    [first] after m htaken ⟨"hash-0", ⟨0, 0⟩, "active", ""⟩ (congrArg Sent.message hack) rfl (by decide)

end Runs

end Uplink

end ControlPlaneClient
