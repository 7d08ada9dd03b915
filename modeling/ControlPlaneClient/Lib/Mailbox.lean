import ControlPlaneClient.Lib.AtMostAfter
import ControlPlaneClient.Lib.Transition

/-!
# A bounded queue with several senders

Each sender has at most one send under way. A send waits until the queue has room, and the sends that
wait complete in any order. The queue can be closed, which discards what is in it and what waits,
and opened again, which starts another round.

The items are numbered as their sends begin. Whatever the senders, the receiver and the closings do,
what is received of a sender is in the order of the numbers, on each round it is a prefix of what was
sent, and an item is overtaken by at most one item of each sender.
-/

open Transition

variable {κ M : Type*}

namespace Mailbox

structure Item (κ M : Type*) where
  sender : κ
  round  : ℕ
  number : ℕ
  body   : M

/-- The items of a sender on a round. -/
def Item.isOf [DecidableEq κ] (k : κ) (c : ℕ) (m : Item κ M) : Bool := m.sender = k ∧ m.round = c

end Mailbox

/-- `made` is the history of the sends, `taken` that of the receipts. -/
structure Mailbox (κ M : Type*) where
  cap     : ℕ
  round   : ℕ
  isOpen  : Bool
  pending : κ → Option (Mailbox.Item κ M)
  queue   : List (Mailbox.Item κ M)
  taken   : List (Mailbox.Item κ M)
  made    : List (Mailbox.Item κ M)

namespace Mailbox

inductive Event (κ M : Type*)
  | opens
  | closes
  | send (k : κ) (body : M)
  | push (k : κ)
  | take

def new (cap : ℕ) : Mailbox κ M := ⟨cap, 0, false, fun _ => none, [], [], []⟩

variable [DecidableEq κ]

def step (b : Mailbox κ M) : Event κ M → Option (Mailbox κ M)
  | .opens =>
    if b.isOpen then none
    else some { b with isOpen := true, round := b.round + 1 }
  | .closes =>
    if b.isOpen then some { b with isOpen := false, queue := [], pending := fun _ => none }
    else none
  | .send k body =>
    match b.isOpen, b.pending k with
    | true, none =>
      let m : Item κ M := ⟨k, b.round, b.made.length, body⟩
      some { b with made := b.made ++ [m], pending := Function.update b.pending k (some m) }
    | _, _ => none
  | .push k =>
    match b.pending k with
    | some m =>
      if b.queue.length < b.cap then
        some { b with queue := b.queue ++ [m], pending := Function.update b.pending k none }
      else none
    | none => none
  | .take =>
    match b.queue with
    | []     => none
    | m :: q => some { b with queue := q, taken := b.taken ++ [m] }

/-- What was received and what stands in the queue, with the item that `k` waits with. -/
def line (b : Mailbox κ M) (k : κ) : List (Item κ M) := b.taken ++ b.queue ++ (b.pending k).toList

/-! ### What a step does -/

/-- All that a step can do. -/
inductive Effect (b : Mailbox κ M) : Event κ M → Mailbox κ M → Prop
  | opens (h : b.isOpen = false) :
      Effect b .opens { b with isOpen := true, round := b.round + 1 }
  | closes (h : b.isOpen = true) :
      Effect b .closes { b with isOpen := false, queue := [], pending := fun _ => none }
  | send (k : κ) (body : M) (h : b.isOpen = true) (hk : b.pending k = none) :
      Effect b (.send k body) { b with
        made := b.made ++ [⟨k, b.round, b.made.length, body⟩]
        pending := Function.update b.pending k (some ⟨k, b.round, b.made.length, body⟩) }
  | push (k : κ) (m : Item κ M) (hk : b.pending k = some m) (hroom : b.queue.length < b.cap) :
      Effect b (.push k)
        { b with queue := b.queue ++ [m], pending := Function.update b.pending k none }
  | take (m : Item κ M) (q : List (Item κ M)) (hq : b.queue = m :: q) :
      Effect b .take { b with queue := q, taken := b.taken ++ [m] }

lemma step_effect {b b' : Mailbox κ M} {e : Event κ M} (h : b.step e = some b') : Effect b e b' := by
  cases e with
  | opens =>
    simp only [step] at h
    split at h
    · cases h
    · next hopen =>
      cases h
      exact .opens (by simpa using hopen)
  | closes =>
    simp only [step] at h
    split at h
    · cases h; exact .closes ‹_›
    · cases h
  | send k body =>
    simp only [step] at h
    split at h
    · cases h; exact .send k body ‹_› ‹_›
    · cases h
  | push k =>
    simp only [step] at h
    split at h
    · split at h
      · cases h; exact .push k _ ‹_› ‹_›
      · cases h
    · cases h
  | take =>
    simp only [step] at h
    split at h
    · cases h
    · cases h; exact .take _ _ ‹_›

/-- What a step sends. -/
def said (b : Mailbox κ M) : Event κ M → List (Item κ M)
  | .send k body => [⟨k, b.round, b.made.length, body⟩]
  | _            => []

lemma step_made {b b' : Mailbox κ M} {e : Event κ M} (h : b.step e = some b') :
    b'.made = b.made ++ b.said e := by
  cases step_effect h with
  | send k body hopen hk => rfl
  | opens | closes | push | take => exact (List.append_nil _).symm

/-- Only an opening starts a round. -/
def Event.opening : Event κ M → ℕ
  | .opens => 1
  | _      => 0

omit [DecidableEq κ] in
lemma step_round [DecidableEq κ] {b b' : Mailbox κ M} {e : Event κ M} (h : b.step e = some b') :
    b'.round = b.round + e.opening := by
  cases step_effect h with
  | opens | closes | send | push | take => rfl

/-- Who begins a send. -/
def Event.sender? : Event κ M → Option κ
  | .send k _ => some k
  | _         => none

/-- What a sender has sent on a round. -/
def madeOn (b : Mailbox κ M) (k : κ) (c : ℕ) : List (Item κ M) := b.made.filter (Item.isOf k c)

lemma madeOn_step {b b' : Mailbox κ M} {e : Event κ M} (h : b.step e = some b') (k : κ) (c : ℕ) :
    b'.madeOn k c = b.madeOn k c ++ (b.said e).filter (Item.isOf k c) := by
  rw [madeOn, step_made h, List.filter_append, madeOn]

lemma madeOn_of_send {b b' : Mailbox κ M} {k : κ} {body : M} (h : b.step (.send k body) = some b')
    (c : ℕ) :
    b'.madeOn k c =
      b.madeOn k c ++ if c = b.round then [⟨k, b.round, b.made.length, body⟩] else [] := by
  rw [madeOn_step h]
  by_cases hc : c = b.round
  · simp [said, Item.isOf, hc]
  · simp [said, Item.isOf, hc, Ne.symm hc]

/-- Who does not begin a send has sent what it had. -/
lemma madeOn_of_silent {b b' : Mailbox κ M} {e : Event κ M} {k : κ} (h : b.step e = some b')
    (hk : e.sender? ≠ some k) (c : ℕ) : b'.madeOn k c = b.madeOn k c := by
  rw [madeOn_step h]
  cases e with
  | send j body =>
    have hj : j ≠ k := fun hj => hk (congrArg some hj)
    simp [said, Item.isOf, hj]
  | opens | closes | push | take => exact List.append_nil _

/-! ### The line -/

section Line

variable {b : Mailbox κ M} {k : κ} {m : Item κ M}

/-- An item that starts to wait is the last one in the line of its sender. -/
lemma line_send (made : List (Item κ M)) (hk : b.pending k = none) (j : κ) :
    line { b with made := made, pending := Function.update b.pending k (some m) } j =
      if j = k then b.line j ++ [m] else b.line j := by
  by_cases hj : j = k
  · subst hj
    simp [line, hk]
  · simp [line, hj]

/-- A push leaves the line of its sender as it is, and goes ahead of the items that wait. -/
lemma line_push (hk : b.pending k = some m) (j : κ) :
    line { b with queue := b.queue ++ [m], pending := Function.update b.pending k none } j =
      if j = k then b.line j else b.taken ++ b.queue ++ [m] ++ (b.pending j).toList := by
  by_cases hj : j = k
  · subst hj
    simp [line, hk]
  · simp [line, hj]

omit [DecidableEq κ] in
lemma line_take {q : List (Item κ M)} (hq : b.queue = m :: q) (j : κ) :
    line { b with queue := q, taken := b.taken ++ [m] } j = b.line j := by
  simp [line, hq]

omit [DecidableEq κ] in
lemma taken_prefix_line (b : Mailbox κ M) (k : κ) : b.taken <+: b.line k := by
  rw [line, List.append_assoc]
  exact List.prefix_append _ _

omit [DecidableEq κ] in
lemma mem_line_of_pending (hk : b.pending k = some m) : m ∈ b.line k := by simp [line, hk]

end Line

/-! ### The invariant -/

/-- What the numbers say, and where the items are. -/
structure Sound (b : Mailbox κ M) : Prop where
  bounded  : b.queue.length ≤ b.cap
  numbers  : ∀ (i : ℕ) (m : Item κ M), b.made[i]? = some m → m.number = i
  rounds   : ∀ m ∈ b.made, m.round ≤ b.round
  known    : ∀ k, ∀ m ∈ b.line k, m ∈ b.made
  waiting  : ∀ k m, b.pending k = some m → m.sender = k
  closed   : b.isOpen = false → b.queue = [] ∧ ∀ k, b.pending k = none
  prefixes : ∀ k c, (b.line k).filter (Item.isOf k c) <+: b.made.filter (Item.isOf k c)
  whole    : b.isOpen = true → ∀ k,
    (b.line k).filter (Item.isOf k b.round) = b.made.filter (Item.isOf k b.round)

namespace Sound

variable {b b' : Mailbox κ M}

lemma number_lt (h : b.Sound) {m : Item κ M} (hm : m ∈ b.made) : m.number < b.made.length := by
  obtain ⟨i, hi⟩ := List.mem_iff_getElem?.mp hm
  rw [h.numbers i m hi]
  exact (List.getElem?_eq_some_iff.mp hi).1

/-- The numbers tell the items apart. -/
lemma eq_of_number (h : b.Sound) {m m' : Item κ M} (hm : m ∈ b.made) (hm' : m' ∈ b.made)
    (heq : m.number = m'.number) : m = m' := by
  obtain ⟨i, hi⟩ := List.mem_iff_getElem?.mp hm
  obtain ⟨j, hj⟩ := List.mem_iff_getElem?.mp hm'
  rw [h.numbers i m hi, h.numbers j m' hj] at heq
  rw [heq, hj] at hi
  exact (Option.some.inj hi).symm

lemma isOf_of_ne {k j : κ} {c : ℕ} {m : Item κ M} (hm : m.sender = k) (hj : j ≠ k) :
    m.isOf j c = false := by
  simp [Item.isOf, hm, hj.symm]

/-- Nothing was sent on a round that has not begun. -/
lemma made_of_next_round (h : b.Sound) (k : κ) :
    b.madeOn k (b.round + 1) = [] := by
  rw [madeOn, List.filter_eq_nil_iff]
  intro m hm
  have hround := h.rounds m hm
  simp only [Item.isOf, decide_eq_true_eq, not_and]
  omega

lemma opens (h : b.Sound) (hopen : b.isOpen = false) :
    Sound { b with isOpen := true, round := b.round + 1 } := by
  obtain ⟨hq, hp⟩ := h.closed hopen
  refine ⟨h.bounded, h.numbers, ?_, h.known, h.waiting, nofun, h.prefixes, ?_⟩
  · exact fun m hm => (h.rounds m hm).trans (Nat.le_succ _)
  · intro _ k
    have hmade := h.made_of_next_round k
    have hline := h.prefixes k (b.round + 1)
    rw [madeOn] at hmade
    rw [hmade, List.prefix_nil] at hline
    exact hline.trans hmade.symm

lemma closes (h : b.Sound) :
    Sound { b with isOpen := false, queue := [], pending := fun _ => none } := by
  have hline : ∀ k, line { b with isOpen := false, queue := [], pending := fun _ => none } k =
      b.taken := fun k => by simp [line]
  refine ⟨Nat.zero_le _, h.numbers, h.rounds, ?_, nofun, fun _ => ⟨rfl, fun _ => rfl⟩, ?_, nofun⟩
  · intro k m hm
    rw [hline] at hm
    exact h.known k m ((b.taken_prefix_line k).subset hm)
  · intro k c
    rw [hline]
    exact ((b.taken_prefix_line k).filter _).trans (h.prefixes k c)

lemma send (h : b.Sound) {k : κ} (body : M) (hopen : b.isOpen = true) (hk : b.pending k = none) :
    Sound { b with
      made := b.made ++ [⟨k, b.round, b.made.length, body⟩]
      pending := Function.update b.pending k (some ⟨k, b.round, b.made.length, body⟩) } := by
  have hline := line_send (m := ⟨k, b.round, b.made.length, body⟩)
    (b.made ++ [⟨k, b.round, b.made.length, body⟩]) hk
  constructor
  · exact h.bounded
  · intro i m hm
    rw [List.getElem?_append] at hm
    split at hm
    · exact h.numbers i m hm
    · next hi =>
      obtain ⟨hlt, rfl⟩ := List.getElem?_eq_some_iff.mp hm
      simp only [List.length_singleton] at hlt
      simp only [List.getElem_singleton]
      omega
  · intro m hm
    rcases List.mem_append.mp hm with hm | hm
    · exact h.rounds m hm
    · rw [List.mem_singleton.mp hm]
  · intro j m hm
    rw [hline] at hm
    split at hm
    · rcases List.mem_append.mp hm with hm | hm
      · exact List.mem_append_left _ (h.known j m hm)
      · exact List.mem_append_right _ hm
    · exact List.mem_append_left _ (h.known j m hm)
  · intro j m hm
    by_cases hj : j = k
    · subst hj
      simp only [Function.update_self, Option.some.injEq] at hm
      rw [← hm]
    · simp only [Function.update_of_ne hj] at hm
      exact h.waiting j m hm
  · intro hclosed
    rw [hopen] at hclosed
    cases hclosed
  · intro j c
    rw [hline, List.filter_append]
    split
    · next hj =>
      subst hj
      rw [List.filter_append]
      by_cases hc : c = b.round
      · subst hc
        rw [h.whole hopen]
      · have hnot : Item.isOf j c (⟨j, b.round, b.made.length, body⟩ : Item κ M) = false := by
          simp [Item.isOf, Ne.symm hc]
        simpa [hnot] using h.prefixes j c
    · exact (h.prefixes j c).trans (List.prefix_append _ _)
  · intro _ j
    rw [hline, List.filter_append]
    split
    · rw [List.filter_append, h.whole hopen]
    · next hj =>
      rw [h.whole hopen j, List.filter_singleton, isOf_of_ne rfl hj]
      simp

lemma push (h : b.Sound) {k : κ} {m : Item κ M} (hk : b.pending k = some m)
    (hroom : b.queue.length < b.cap) :
    Sound { b with queue := b.queue ++ [m], pending := Function.update b.pending k none } := by
  have hline := line_push hk
  have hsender : m.sender = k := h.waiting k m hk
  -- The items of the other senders stay where they are.
  have hfilter : ∀ j c, ((if j = k then b.line j else
      b.taken ++ b.queue ++ [m] ++ (b.pending j).toList).filter (Item.isOf j c)) =
        (b.line j).filter (Item.isOf j c) := by
    intro j c
    split
    · rfl
    · next hj =>
      simp [line, List.filter_append, isOf_of_ne hsender hj]
  constructor
  · simpa using hroom
  · exact h.numbers
  · exact h.rounds
  · intro j x hx
    rw [hline] at hx
    split at hx
    · exact h.known j x hx
    · have hmem : x ∈ b.line j ∨ x = m := by
        simp only [line, List.mem_append, List.mem_singleton] at hx ⊢
        tauto
      rcases hmem with hx | rfl
      · exact h.known j x hx
      · exact h.known k x (mem_line_of_pending hk)
  · intro j x hx
    by_cases hj : j = k
    · subst hj
      simp at hx
    · simp only [Function.update_of_ne hj] at hx
      exact h.waiting j x hx
  · intro hclosed
    rw [(h.closed hclosed).2 k] at hk
    cases hk
  · intro j c
    rw [hline, hfilter]
    exact h.prefixes j c
  · intro hopen j
    rw [hline, hfilter]
    exact h.whole hopen j

lemma take (h : b.Sound) {m : Item κ M} {q : List (Item κ M)} (hq : b.queue = m :: q) :
    Sound { b with queue := q, taken := b.taken ++ [m] } := by
  have hline := line_take hq
  have hlen := h.bounded
  rw [hq, List.length_cons] at hlen
  refine ⟨(Nat.le_succ _).trans hlen, h.numbers, h.rounds, ?_, h.waiting, ?_, ?_, ?_⟩
  · intro k x hx
    rw [hline] at hx
    exact h.known k x hx
  · intro hclosed
    rw [(h.closed hclosed).1] at hq
    cases hq
  · intro k c
    rw [hline]
    exact h.prefixes k c
  · intro hopen k
    rw [hline]
    exact h.whole hopen k

lemma step (h : b.Sound) {e : Event κ M} (hstep : b.step e = some b') : b'.Sound := by
  cases step_effect hstep with
  | opens hopen => exact h.opens hopen
  | closes hopen => exact h.closes
  | send k body hopen hk => exact h.send body hopen hk
  | push k m hk hroom => exact h.push hk hroom
  | take m q hq => exact h.take hq

lemma new (cap : ℕ) : (new cap : Mailbox κ M).Sound where
  bounded := Nat.zero_le _
  numbers := nofun
  rounds := nofun
  known := nofun
  waiting := nofun
  closed := fun _ => ⟨rfl, fun _ => rfl⟩
  prefixes := fun _ _ => List.prefix_rfl
  whole := nofun

/-! ### Order -/

/-- No relation grows in the line of `k` that holds only of a later item of `k` with a number that is
no greater, unless it is to the one item that waits. -/
lemma atMostAfter_step (h : b.Sound) {k : κ} {n : ℕ} {p : Item κ M → Item κ M → Bool}
    (hp : ∀ a x, p a x → x.sender = k ∧ x.number ≤ a.number)
    (hn : ∀ a x, p a x → a.sender ≠ k → 0 < n) (hl : (b.line k).AtMostAfter n p)
    {e : Event κ M} (hstep : b.step e = some b') : (b'.line k).AtMostAfter n p := by
  cases step_effect hstep with
  | opens hopen => exact hl
  | closes hopen =>
    apply hl.sublist
    simp [line]
  | send j body hopen hj =>
    rw [line_send _ hj]
    split
    · apply hl.concat
      intro a ha
      by_contra hpa
      have hle := (hp _ _ (by simpa using hpa)).2
      exact absurd (h.number_lt (h.known k a ha)) (not_lt.mpr hle)
    · exact hl
  | push j m hj hroom =>
    rw [line_push hj]
    split
    · exact hl
    · next hkj =>
      have hsender : m.sender ≠ k := by
        rw [h.waiting j m hj]
        exact Ne.symm hkj
      have hpm : ∀ a ∈ b.taken ++ b.queue, p a m = false := by
        intro a _
        by_contra hpa
        exact hsender (hp a m (by simpa using hpa)).1
      cases hk : b.pending k with
      | none =>
        rw [line, hk, Option.toList_none, List.append_nil] at hl
        rw [Option.toList_none, List.append_nil]
        exact hl.concat hpm
      | some y =>
        rw [line, hk, Option.toList_some] at hl
        rw [Option.toList_some]
        exact hl.concat_before hpm fun hpy => hn m y hpy hsender
  | take m q hq => rwa [line_take hq]

end Sound

/-! ### Runs -/

section Runs

variable {cap : ℕ} {es : List (Event κ M)} {b : Mailbox κ M}

theorem exec_sound (h : exec step (new cap) es = some b) : b.Sound :=
  exec_invariant (fun _ _ _ hb hstep => hb.step hstep) (Sound.new cap) h

/-- What was received of a sender on a round is a prefix of what it sent. -/
theorem taken_first_made (h : exec step (new cap) es = some b) (k : κ) (c : ℕ) :
    b.taken.filter (Item.isOf k c) <+: b.madeOn k c :=
  ((b.taken_prefix_line k).filter _).trans ((exec_sound h).prefixes k c)

lemma exec_atMostAfter (h : exec step (new cap) es = some b) {k : κ} {n : ℕ}
    {p : Item κ M → Item κ M → Bool} (hp : ∀ a x, p a x → x.sender = k ∧ x.number ≤ a.number)
    (hn : ∀ a x, p a x → a.sender ≠ k → 0 < n) : b.taken.AtMostAfter n p := by
  have hboth : b.Sound ∧ (b.line k).AtMostAfter n p := by
    apply exec_invariant (I := fun b => Sound b ∧ (b.line k).AtMostAfter n p) _ _ h
    · exact fun b e b' hb hstep => ⟨hb.1.step hstep, hb.1.atMostAfter_step hp hn hb.2 hstep⟩
    · exact ⟨Sound.new cap, trivial⟩
  exact hboth.2.sublist (b.taken_prefix_line k).sublist

/-- The items of a sender are received in the order in which it sent them. -/
theorem taken_in_order (h : exec step (new cap) es = some b) :
    b.taken.Pairwise fun a x => a.sender = x.sender → a.number < x.number := by
  have hall : ∀ k, b.taken.Pairwise fun a x =>
      (decide (a.sender = k ∧ x.sender = k ∧ x.number ≤ a.number)) = false := by
    intro k
    rw [← List.atMostAfter_zero (p := fun a x : Item κ M =>
      decide (a.sender = k ∧ x.sender = k ∧ x.number ≤ a.number))]
    apply exec_atMostAfter h (k := k)
    · intro a x hax
      exact (of_decide_eq_true hax).2
    · intro a x hax ha
      exact absurd (of_decide_eq_true hax).1 ha
  rw [List.pairwise_iff_getElem]
  intro i j hi hj hij hsender
  have hpair := List.pairwise_iff_getElem.mp (hall b.taken[j].sender) i j hi hj hij
  simpa [hsender] using hpair

/-- An item is overtaken by at most one item of each sender: among those received after it, at most
one was sent before it. -/
theorem overtaken_once (h : exec step (new cap) es = some b) (k : κ) :
    b.taken.AtMostAfter 1 fun a x => decide (x.sender = k ∧ x.number < a.number) := by
  apply exec_atMostAfter h (k := k)
  · intro a x hax
    obtain ⟨hk, hlt⟩ := of_decide_eq_true hax
    exact ⟨hk, hlt.le⟩
  · intro a x hax ha
    exact Nat.one_pos

end Runs

end Mailbox
