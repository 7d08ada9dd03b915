import ControlPlaneClient.Session.Uplink

/-!
# The heartbeats and the acks of a Channel

On each Channel the control plane gets the heartbeats with the numbers from one on, without a gap, and
one ack for each of the first config updates it sent down, in their order.
-/

namespace ControlPlaneClient

open Transition Mailbox

/-- The numbers of the first `n` heartbeats of a Channel. -/
def heartbeatSeqs (n : ℕ) : List ℕ := (List.range n).map fun i => min (i + 1) (2 ^ 64 - 1)

lemma heartbeatSeqs_succ (n : ℕ) :
    heartbeatSeqs (n + 1) = heartbeatSeqs n ++ [nextSeq (min n (2 ^ 64 - 1))] := by
  have hseq : nextSeq (min n (2 ^ 64 - 1)) = min (n + 1) (2 ^ 64 - 1) := by
    rw [nextSeq]
    omega
  rw [hseq]
  simp [heartbeatSeqs, List.range_succ]

lemma take_heartbeatSeqs {k n : ℕ} (h : k ≤ n) : (heartbeatSeqs n).take k = heartbeatSeqs k := by
  rw [heartbeatSeqs, heartbeatSeqs, ← List.map_take, List.take_range, min_eq_left h]

def HeartbeatPhase.seq : HeartbeatPhase → ℕ
  | .ticking seq => seq
  | .sending seq => seq

/-- The update that waits for its ack to be made. -/
def ReaderPhase.unanswered {Bundle : Type} : ReaderPhase Bundle → List (ConfigUpdate Bundle)
  | .applying u => [u]
  | _           => []

namespace Uplink

variable {Bundle QuotaStatus : Type} {env : AgentEnv Bundle} {statusSource : Bool}
  {s s' : Uplink Bundle QuotaStatus}

lemma step_sound {e : UplinkEvent Bundle} (h : s.step env statusSource e = some s')
    (hs : s.outbound.Sound) : s'.outbound.Sound := by
  have hrel : (@toMailbox Bundle QuotaStatus env statusSource).rel s s.outbound := rfl
  obtain ⟨bes, b, hb, -, rfl⟩ := toMailbox.sim hrel h
  exact exec_invariant (fun _ _ _ hb hstep => hb.step hstep) hs hb

/-! ### Heartbeats -/

/-- Heartbeats numbered from one. -/
def Numbered (ms : List (Item Sender Sent)) : Prop :=
  ∃ hs : List Heartbeat, ms.map (fun m => m.body.message) = hs.map .heartbeat ∧
    hs.map Heartbeat.seq = heartbeatSeqs hs.length

lemma Numbered.initial {ms ms' : List (Item Sender Sent)} (h : Numbered ms) (hle : ms' <+: ms) :
    Numbered ms' := by
  obtain ⟨hs, hmessages, hseqs⟩ := h
  have hlen : ms.length = hs.length := by simpa using congrArg List.length hmessages
  have hle' : ms'.length ≤ hs.length := hlen ▸ hle.length_le
  refine ⟨hs.take ms'.length, ?_, ?_⟩
  · rw [List.map_take, ← hmessages, ← List.map_take, ← List.prefix_iff_eq_take.mp hle]
  · rw [List.map_take, hseqs, take_heartbeatSeqs hle', List.length_take, min_eq_left hle']

/-- The heartbeats made on each Channel are numbered from one, and the ticker of the open one knows the
last number. -/
structure Beating (s : Uplink Bundle QuotaStatus) : Prop where
  beats : ∀ c, Numbered (s.outbound.madeOn .heartbeat c)
  last  : ∀ t, s.tasks = some t →
    t.heartbeat.seq = min (s.outbound.madeOn .heartbeat s.outbound.round).length (2 ^ 64 - 1)

/-- A step that makes no heartbeat and leaves the ticker's number alone. -/
lemma Beating.silent (hs : s.Beating) {e : Mailbox.Event Sender Sent}
    (ho : s.outbound.step e = some s'.outbound) (hopen : e.opening = 0)
    (hk : e.sender? ≠ some .heartbeat)
    (htasks : ∀ t', s'.tasks = some t' →
      ∃ t, s.tasks = some t ∧ t'.heartbeat.seq = t.heartbeat.seq) : s'.Beating := by
  have hmade := madeOn_of_silent ho hk
  constructor
  · intro c
    rw [hmade]
    exact hs.beats c
  · intro t' ht'
    obtain ⟨t, ht, hseq⟩ := htasks t' ht'
    rw [hmade, step_round ho, hopen, hseq]
    exact hs.last t ht

/-- The next heartbeat has the next number. -/
lemma Beating.beat (hs : s.Beating) {seq : ℕ} {now : DateTime}
    {t t' : ChannelTasks Bundle} (ht : s.tasks = some t) (hseq : t.heartbeat.seq = seq)
    (ht' : s'.tasks = some t') (hseq' : t'.heartbeat.seq = nextSeq seq)
    (ho : s.outbound.step
      (.send .heartbeat (s.sent (.heartbeat ⟨stampSeconds now, nextSeq seq, "ok"⟩))) =
        some s'.outbound) : s'.Beating := by
  have hmade := madeOn_of_send ho
  have hlast := hs.last t ht
  rw [hseq] at hlast
  constructor
  · intro c
    obtain ⟨beats, hbeats, hseqs⟩ := hs.beats c
    rw [hmade]
    split
    · next hc =>
      subst hc
      have hlen : (s.outbound.madeOn .heartbeat s.outbound.round).length = beats.length := by
        simpa using congrArg List.length hbeats
      refine ⟨beats ++ [⟨stampSeconds now, nextSeq seq, "ok"⟩], ?_, ?_⟩
      · rw [List.map_append, List.map_append, hbeats]
        rfl
      · rw [List.map_append, hseqs, List.length_append, List.length_singleton, heartbeatSeqs_succ,
          ← hlen, ← hlast]
        rfl
    · rw [List.append_nil]
      exact ⟨beats, hbeats, hseqs⟩
  · intro t₁ ht₁
    rw [ht'] at ht₁
    cases ht₁
    have hround : s'.outbound.round = s.outbound.round := step_round ho
    rw [hseq', hmade, hround, if_pos rfl, List.length_append, List.length_singleton, hlast, nextSeq]
    omega

lemma step_beating {e : UplinkEvent Bundle} (h : s.step env statusSource e = some s')
    (hsound : s.outbound.Sound) (hs : s.Beating) : s'.Beating := by
  cases step_effect h with
  | @opens o ht ho =>
    have hmade : ∀ c, o.madeOn .heartbeat c = s.outbound.madeOn .heartbeat c :=
      madeOn_of_silent ho nofun
    constructor
    · intro c
      rw [hmade]
      exact hs.beats c
    · intro t htasks
      cases htasks
      have hround : o.round = s.outbound.round + 1 := step_round ho
      rw [hmade, hround, hsound.made_of_next_round]
      rfl
  | ends ho => exact hs.silent ho rfl nofun nofun
  | take ho => exact hs.silent ho rfl nofun fun t ht => ⟨t, ht, rfl⟩
  | flush t m ho => exact hs.silent ho rfl nofun fun t ht => ⟨t, ht, rfl⟩
  | flushSent t ho => exact hs.silent ho rfl nofun fun t ht => ⟨t, ht, rfl⟩
  | beat now ht ho => exact hs.beat ht rfl rfl rfl ho
  | beatSent ht ho => exact hs.silent ho rfl nofun fun t h => by cases h; exact ⟨_, ht, rfl⟩
  | statusTick ht =>
    have hlast := hs.last _ ht
    exact ⟨hs.beats, fun t h => by cases h; exact hlast⟩
  | snapshot snap now ht ho =>
    exact hs.silent ho rfl nofun fun t h => by cases h; exact ⟨_, ht, rfl⟩
  | reported ht ho => exact hs.silent ho rfl nofun fun t h => by cases h; exact ⟨_, ht, rfl⟩
  | update u ht =>
    have hlast := hs.last _ ht
    exact ⟨hs.beats, fun t h => by cases h; exact hlast⟩
  | applied out ht ho => exact hs.silent ho rfl nofun fun t h => by cases h; exact ⟨_, ht, rfl⟩
  | acked ht ho => exact hs.silent ho rfl nofun fun t h => by cases h; exact ⟨_, ht, rfl⟩

/-! ### Acks -/

/-- The updates that came down a Channel. -/
def updatesOn (s : Uplink Bundle QuotaStatus) (c : ℕ) : List (ConfigUpdate Bundle) :=
  (s.updates.filter fun p => p.1 = c).map Prod.snd

/-- The message is the ack of the update, whatever the host made of it. -/
def Acks (env : AgentEnv Bundle) (m : Item Sender Sent) (u : ConfigUpdate Bundle) : Prop :=
  ∃ out, m.body.message = .configAck (configAck env u out)

/-- The acks made on a Channel answer the updates that came down it, but for the one that the reader of
the open one is at. -/
structure Answering (env : AgentEnv Bundle) (s : Uplink Bundle QuotaStatus) : Prop where
  acks    : ∀ c, ∃ us, us <+: s.updatesOn c ∧
    List.Forall₂ (Acks env) (s.outbound.madeOn .reader c) us
  current : ∀ t, s.tasks = some t → ∃ us,
    s.updatesOn s.outbound.round = us ++ t.reader.unanswered ∧
    List.Forall₂ (Acks env) (s.outbound.madeOn .reader s.outbound.round) us
  known   : ∀ p ∈ s.updates, p.1 ≤ s.outbound.round

lemma updatesOn_concat {u : ConfigUpdate Bundle} (updates : List (ℕ × ConfigUpdate Bundle)) (n c : ℕ)
    (hupdates : s'.updates = updates ++ [(n, u)]) :
    s'.updatesOn c =
      ((updates.filter fun p => p.1 = c).map Prod.snd) ++ if c = n then [u] else [] := by
  rw [updatesOn, hupdates, List.filter_append, List.map_append]
  by_cases hc : c = n
  · simp [hc]
  · simp [hc, Ne.symm hc]

/-- A step that makes no ack and gets no update. -/
lemma Answering.silent (hs : s.Answering env) {e : Mailbox.Event Sender Sent}
    (ho : s.outbound.step e = some s'.outbound) (hopen : e.opening = 0)
    (hk : e.sender? ≠ some .reader) (hupdates : s'.updates = s.updates)
    (htasks : ∀ t', s'.tasks = some t' →
      ∃ t, s.tasks = some t ∧ t'.reader.unanswered = t.reader.unanswered) : s'.Answering env := by
  have hmade := madeOn_of_silent ho hk
  have hon : ∀ c, s'.updatesOn c = s.updatesOn c := fun c => by rw [updatesOn, hupdates, updatesOn]
  have hround : s'.outbound.round = s.outbound.round := by rw [step_round ho, hopen, Nat.add_zero]
  constructor
  · intro c
    rw [hmade, hon]
    exact hs.acks c
  · intro t' ht'
    obtain ⟨t, ht, hreader⟩ := htasks t' ht'
    rw [hmade, hon, hround, hreader]
    exact hs.current t ht
  · rw [hupdates, hround]
    exact hs.known

lemma step_answering {e : UplinkEvent Bundle} (h : s.step env statusSource e = some s')
    (hsound : s.outbound.Sound) (hs : s.Answering env) : s'.Answering env := by
  cases step_effect h with
  | @opens o ht ho =>
    have hmade : ∀ c, o.madeOn .reader c = s.outbound.madeOn .reader c := madeOn_of_silent ho nofun
    have hround : o.round = s.outbound.round + 1 := step_round ho
    refine ⟨?_, ?_, ?_⟩
    · intro c
      rw [hmade]
      exact hs.acks c
    · intro t htasks
      cases htasks
      have hnone : s.updatesOn o.round = [] := by
        rw [updatesOn, List.map_eq_nil_iff, List.filter_eq_nil_iff]
        intro p hp hround'
        have hle := hs.known p hp
        rw [hround, decide_eq_true_eq] at hround'
        omega
      refine ⟨[], ?_, ?_⟩
      · exact hnone
      · rw [hmade, hround, hsound.made_of_next_round]
        exact List.Forall₂.nil
    · intro p hp
      rw [hround]
      exact (hs.known p hp).trans (Nat.le_succ _)
  | ends ho => exact hs.silent ho rfl nofun rfl nofun
  | take ho => exact hs.silent ho rfl nofun rfl fun t ht => ⟨t, ht, rfl⟩
  | flush t m ho => exact hs.silent ho rfl nofun rfl fun t ht => ⟨t, ht, rfl⟩
  | flushSent t ho => exact hs.silent ho rfl nofun rfl fun t ht => ⟨t, ht, rfl⟩
  | beat now ht ho => exact hs.silent ho rfl nofun rfl fun t h => by cases h; exact ⟨_, ht, rfl⟩
  | beatSent ht ho => exact hs.silent ho rfl nofun rfl fun t h => by cases h; exact ⟨_, ht, rfl⟩
  | statusTick ht =>
    have hcurrent := hs.current _ ht
    exact ⟨hs.acks, fun t h => by cases h; exact hcurrent, hs.known⟩
  | snapshot snap now ht ho =>
    exact hs.silent ho rfl nofun rfl fun t h => by cases h; exact ⟨_, ht, rfl⟩
  | reported ht ho => exact hs.silent ho rfl nofun rfl fun t h => by cases h; exact ⟨_, ht, rfl⟩
  | @update u heartbeat status ht =>
    have hon : ∀ c, Uplink.updatesOn { s with
        tasks := some ⟨heartbeat, status, .applying u⟩
        updates := s.updates ++ [(s.outbound.round, u)] } c =
          s.updatesOn c ++ if c = s.outbound.round then [u] else [] :=
      fun c => updatesOn_concat s.updates s.outbound.round c rfl
    refine ⟨?_, ?_, ?_⟩
    · intro c
      obtain ⟨us, hle, hacks⟩ := hs.acks c
      refine ⟨us, ?_, hacks⟩
      rw [hon]
      exact hle.trans (List.prefix_append _ _)
    · intro t htasks
      cases htasks
      obtain ⟨us, hus, hacks⟩ := hs.current _ ht
      refine ⟨us, ?_, hacks⟩
      rw [hon, hus, if_pos rfl]
      simp [ReaderPhase.unanswered]
    · intro p hp
      rcases List.mem_append.mp hp with hp | hp
      · exact hs.known p hp
      · rw [List.mem_singleton.mp hp]
  | @applied out heartbeat status u o ht ho =>
    have hmade := madeOn_of_send ho
    have hround : o.round = s.outbound.round := step_round ho
    obtain ⟨us, hus, hacks⟩ := hs.current _ ht
    have hanswered : List.Forall₂ (Acks env) (o.madeOn .reader s.outbound.round) (us ++ [u]) := by
      rw [hmade, if_pos rfl]
      exact List.rel_append hacks (List.Forall₂.cons ⟨out, rfl⟩ List.Forall₂.nil)
    refine ⟨?_, ?_, ?_⟩
    · intro c
      by_cases hc : c = s.outbound.round
      · subst hc
        exact ⟨us ++ [u], hus ▸ List.prefix_rfl, hanswered⟩
      · rw [hmade, if_neg hc, List.append_nil]
        exact hs.acks c
    · intro t htasks
      cases htasks
      rw [hround]
      exact ⟨us ++ [u], hus.trans (List.append_nil _).symm, hanswered⟩
    · rw [hround]
      exact hs.known
  | acked ht ho => exact hs.silent ho rfl nofun rfl fun t h => by cases h; exact ⟨_, ht, rfl⟩

/-! ### Runs -/

/-- On every Channel that a process opens, whatever else is sent: the transport takes the heartbeats
with the numbers 1, 2, 3 and so on, and takes acks for the first updates that came down the Channel,
one for each, in their order. -/
theorem heartbeats_and_acks_in_step (env : AgentEnv Bundle) (statusSource : Bool)
    (r : AgentRunner QuotaStatus) (es : List (UplinkEvent Bundle)) (s : Uplink Bundle QuotaStatus)
    (h : exec (step env statusSource) (init r) es = some s) (c : ℕ) :
    (∃ hs : List Heartbeat,
      (s.outbound.taken.filter (Item.isOf .heartbeat c)).map (fun m => m.body.message) =
        hs.map .heartbeat ∧
      hs.map Heartbeat.seq = heartbeatSeqs hs.length) ∧
    ∃ us, us <+: s.updatesOn c ∧
      List.Forall₂ (Acks env) (s.outbound.taken.filter (Item.isOf .reader c)) us := by
  obtain ⟨bes, hbox⟩ := exec_outbound h
  have hinv : s.outbound.Sound ∧ s.Beating ∧ s.Answering env := by
    apply exec_invariant (I := fun s => s.outbound.Sound ∧ s.Beating ∧ s.Answering env) _ _ h
    · rintro s e s' ⟨hsound, hbeating, hanswering⟩ hstep
      exact ⟨step_sound hstep hsound, step_beating hstep hsound hbeating,
        step_answering hstep hsound hanswering⟩
    · exact ⟨Mailbox.Sound.new outboundCap, ⟨fun c => ⟨[], rfl, rfl⟩, nofun⟩,
        ⟨fun c => ⟨[], List.prefix_rfl, List.Forall₂.nil⟩, nofun, nofun⟩⟩
  constructor
  · exact (hinv.2.1.beats c).initial (taken_first_made hbox .heartbeat c)
  · obtain ⟨us, hle, hacks⟩ := hinv.2.2.acks c
    have htaken := taken_first_made hbox .reader c
    refine ⟨us.take (s.outbound.taken.filter (Item.isOf .reader c)).length, ?_, ?_⟩
    · apply List.IsPrefix.trans _ hle
      apply List.take_prefix
    · have htake := List.forall₂_take (s.outbound.taken.filter (Item.isOf .reader c)).length hacks
      rwa [← List.prefix_iff_eq_take.mp htaken] at htake

/-- Two Channels, the first of which ends with its second heartbeat in the queue. -/
def twoChannels : List (UplinkEvent Bytes) :=
  [.opens, .beat 0, .beatSent, .update ⟨"hash-1", none⟩, .applied (sampleOutside (.ok ())), .acked,
    .take, .take, .beat 0, .beatSent, .update ⟨"hash-2", none⟩, .ends, .opens, .beat 0, .beatSent, .take]

theorem heartbeats_and_acks_in_step_two_channels :
    ∃ s : Uplink Bytes Unit, exec (step (sampleEnv Codec.unary) false)
        (init (boot (sampleEnv Codec.unary).cfg)) twoChannels = some s ∧
      ∀ c, (∃ hs : List Heartbeat,
          (s.outbound.taken.filter (Item.isOf .heartbeat c)).map (fun m => m.body.message) =
            hs.map .heartbeat ∧
          hs.map Heartbeat.seq = heartbeatSeqs hs.length) ∧
        ∃ us, us <+: s.updatesOn c ∧ List.Forall₂ (Acks (sampleEnv Codec.unary))
          (s.outbound.taken.filter (Item.isOf .reader c)) us := by
  refine ⟨_, rfl, ?_⟩
  exact heartbeats_and_acks_in_step (sampleEnv Codec.unary) false
    (boot (sampleEnv Codec.unary).cfg : AgentRunner Unit) twoChannels _ rfl

end Uplink

end ControlPlaneClient
