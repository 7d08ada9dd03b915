import Mathlib

/-!
# Bounded queues that spare one class of elements

A queue holds at most `cap` elements. Some elements, those with `p`, are to be kept as long as
anything else can go. `keep` is the policy that does it: once the queue is full an element without
`p` is turned away, and one with `p` takes the place of the oldest element without, or else of the
oldest of all.

What a whole sequence of arrivals leaves in the queue has a closed form, and no policy with the
same capacity loses fewer elements with `p`.
-/

namespace Sparing

variable {α : Type*} (p : α → Bool)

/-- What the queue holds after one more arrival. -/
def keep (cap : ℕ) (r : List α) (x : α) : List α :=
  if r.length < cap then r ++ [x]
  else if !p x then r
  else if r.all p then r.tail ++ [x]
  else r.eraseP (fun y => !p y) ++ [x]

/-- What the queue holds after a sequence of arrivals. -/
def kept (cap : ℕ) (xs : List α) : List α := xs.foldl (keep p cap) []

variable {p} {cap : ℕ}

@[simp] lemma kept_nil : kept p cap [] = [] := rfl

@[simp] lemma kept_concat (xs : List α) (x : α) :
    kept p cap (xs ++ [x]) = keep p cap (kept p cap xs) x := by
  simp [kept]

/-! ### Erasing the first element of a class -/

lemma filter_eraseP (q : α → Bool) (r : List α) :
    (r.eraseP q).filter q = (r.filter q).tail := by
  induction r with
  | nil => rfl
  | cons y r ih =>
    by_cases hy : q y
    · rw [List.eraseP_cons_of_pos hy, List.filter_cons_of_pos hy, List.tail_cons]
    · rw [List.eraseP_cons_of_neg hy, List.filter_cons_of_neg hy, List.filter_cons_of_neg hy, ih]

lemma filter_eraseP_not (r : List α) : (r.eraseP fun y => !p y).filter p = r.filter p := by
  induction r with
  | nil => rfl
  | cons y r ih =>
    by_cases hy : p y
    · rw [List.eraseP_cons_of_neg (by simp [hy]), List.filter_cons_of_pos hy,
        List.filter_cons_of_pos hy, ih]
    · rw [List.eraseP_cons_of_pos (by simp [hy]), List.filter_cons_of_neg hy]

lemma length_filter_add (r : List α) :
    (r.filter p).length + (r.filter fun y => !p y).length = r.length := by
  have h := List.length_eq_length_filter_add (l := r) p
  simpa using h.symm

lemma filter_not_eq_nil {r : List α} (h : r.all p = true) : (r.filter fun y => !p y) = [] := by
  rw [List.filter_eq_nil_iff]
  intro y hy
  simp [List.all_eq_true.mp h y hy]

lemma filter_not_ne_nil {r : List α} (h : ¬ r.all p = true) : (r.filter fun y => !p y) ≠ [] := by
  intro hnil
  apply h
  rw [List.all_eq_true]
  intro y hy
  simpa using List.filter_eq_nil_iff.mp hnil y hy

/-! ### One arrival -/

lemma keep_sublist (r : List α) (x : α) : (keep p cap r x).Sublist (r ++ [x]) := by
  rw [keep]
  split_ifs
  · exact List.Sublist.refl _
  · exact List.sublist_append_left _ _
  · exact (List.tail_sublist r).append_right _
  · exact List.eraseP_sublist.append_right _

/-- The queue grows by one until it is full. -/
lemma keep_length (hcap : 1 ≤ cap) {r : List α} (hr : r.length ≤ cap) (x : α) :
    (keep p cap r x).length = min (r.length + 1) cap := by
  rw [keep]
  split_ifs with hroom hx hall
  · rw [List.length_append, List.length_singleton]
    omega
  · omega
  · rw [List.length_append, List.length_singleton, List.length_tail]
    omega
  · obtain ⟨y, hy, hny⟩ : ∃ y ∈ r, (!p y) = true := by simpa using hall
    rw [List.length_append, List.length_singleton, List.length_eraseP_of_mem hy hny]
    omega

lemma keep_of_room {r : List α} (h : r.length < cap) (x : α) : keep p cap r x = r ++ [x] :=
  if_pos h

/-- A full queue turns away an element without `p`. -/
lemma keep_of_not {r : List α} (h : cap ≤ r.length) {x : α} (hx : p x = false) :
    keep p cap r x = r := by
  simp [keep, not_lt.mpr h, hx]

/-- A full queue with something else to give up loses nothing with `p`. -/
lemma keep_of_mixed {r : List α} (h : cap ≤ r.length) {x : α} (hx : p x = true)
    (hmixed : ¬ r.all p = true) : keep p cap r x = r.eraseP (fun y => !p y) ++ [x] := by
  rw [keep, if_neg (not_lt.mpr h), if_neg (by simp [hx]), if_neg hmixed]

lemma keep_of_all {r : List α} (h : cap ≤ r.length) {x : α} (hx : p x = true)
    (hall : r.all p = true) : keep p cap r x = r.tail ++ [x] := by
  rw [keep, if_neg (not_lt.mpr h), if_neg (by simp [hx]), if_pos hall]

/-! ### The closed form -/

/-- The last `n` elements, when there are no more than `n`. -/
lemma rtake_of_length_le {l : List α} {n : ℕ} (h : l.length ≤ n) : l.rtake n = l := by
  rw [List.rtake, Nat.sub_eq_zero_of_le h, List.drop_zero]

lemma rtake_min_length (l : List α) (n : ℕ) : l.rtake (min l.length n) = l.rtake n := by
  rw [List.rtake, List.rtake]
  congr 1
  omega

lemma length_rtake (l : List α) (n : ℕ) : (l.rtake n).length = min n l.length := by
  rw [List.rtake, List.length_drop]
  omega

/-- Dropping the oldest of the last `n + 1` leaves the last `n`. -/
lemma tail_rtake {l : List α} {n : ℕ} (h : n < l.length) : (l.rtake (n + 1)).tail = l.rtake n := by
  rw [List.rtake, List.rtake, List.tail_drop]
  congr 1
  omega

lemma kept_sublist (xs : List α) : (kept p cap xs).Sublist xs := by
  induction xs using List.reverseRecOn with
  | nil => exact List.Sublist.refl _
  | append_singleton xs x ih =>
    rw [kept_concat]
    exact (keep_sublist _ x).trans (ih.append_right [x])

lemma kept_length (hcap : 1 ≤ cap) (xs : List α) : (kept p cap xs).length = min xs.length cap := by
  induction xs using List.reverseRecOn with
  | nil => simp
  | append_singleton xs x ih =>
    rw [kept_concat, keep_length hcap (by rw [ih]; exact min_le_right _ _), ih, List.length_append,
      List.length_singleton]
    omega

lemma kept_of_length_le (hcap : 1 ≤ cap) {xs : List α} (h : xs.length ≤ cap) :
    kept p cap xs = xs :=
  (kept_sublist xs).eq_of_length (by rw [kept_length hcap, min_eq_left h])

/-- Of the elements with `p` the queue holds the last ones, as many as it has room for. The others
in it are the last ones that came while it was filling, as many as there is room for besides. -/
structure Closed (p : α → Bool) (cap : ℕ) (xs r : List α) : Prop where
  spared : r.filter p = (xs.filter p).rtake cap
  others : (r.filter fun y => !p y) =
    ((xs.take cap).filter fun y => !p y).rtake (cap - (xs.filter p).length)

/-- While it has room, the queue holds all that came. -/
lemma closed_self {xs : List α} (h : xs.length ≤ cap) : Closed p cap xs xs := by
  have hsplit := length_filter_add (p := p) xs
  constructor
  · exact (rtake_of_length_le (by omega)).symm
  · rw [List.take_of_length_le h]
    exact (rtake_of_length_le (by omega)).symm

section Arrival

variable {xs r : List α} {x : α} (h : Closed p cap xs r) (hfull : r.length = cap)
  (hxs : cap ≤ xs.length)

include h

lemma Closed.length_spared : (r.filter p).length = min cap (xs.filter p).length := by
  rw [h.spared, length_rtake]

include hxs in
/-- An element without `p` is turned away. -/
lemma Closed.turnedAway (hx : p x = false) : Closed p cap (xs ++ [x]) r := by
  have hxs' : (xs ++ [x]).filter p = xs.filter p := by simp [hx]
  constructor
  · rw [hxs', h.spared]
  · rw [hxs', List.take_append_of_le_length hxs, h.others]

include hfull hxs

/-- Nothing else is left: the oldest element with `p` goes. -/
lemma Closed.tail (hcap : 1 ≤ cap) (hx : p x = true) (hall : r.all p = true) :
    Closed p cap (xs ++ [x]) (r.tail ++ [x]) := by
  have hxs' : (xs ++ [x]).filter p = xs.filter p ++ [x] := by simp [hx]
  have hself : r.filter p = r := List.filter_eq_self.mpr (List.all_eq_true.mp hall)
  have hlen := h.length_spared
  rw [hself] at hlen
  have htail : (r.tail ++ [x]).all p = true := by
    rw [List.all_append, Bool.and_eq_true, List.all_eq_true]
    exact ⟨fun y hy => List.all_eq_true.mp hall y (List.mem_of_mem_tail hy), by simp [hx]⟩
  constructor
  · obtain ⟨n, rfl⟩ : ∃ n, cap = n + 1 := ⟨cap - 1, by omega⟩
    rw [hxs', List.rtake_concat_succ, List.filter_eq_self.mpr (List.all_eq_true.mp htail), ← hself,
      h.spared, tail_rtake (by omega)]
  · rw [hxs', List.take_append_of_le_length hxs, filter_not_eq_nil htail, List.length_append,
      List.length_singleton, show cap - ((xs.filter p).length + 1) = 0 by omega, List.rtake_zero]

/-- The oldest of the others goes. -/
lemma Closed.eraseP (hx : p x = true) (hmixed : ¬ r.all p = true) :
    Closed p cap (xs ++ [x]) (r.eraseP (fun y => !p y) ++ [x]) := by
  have hxs' : (xs ++ [x]).filter p = xs.filter p ++ [x] := by simp [hx]
  have hx' : ([x].filter fun y => !p y) = [] := by simp [hx]
  have hx'' : [x].filter p = [x] := by simp [hx]
  have hsplit := length_filter_add (p := p) r
  have hspared := h.length_spared
  have hothers := congrArg List.length h.others
  have hne := List.length_pos_iff.mpr (filter_not_ne_nil hmixed)
  rw [length_rtake] at hothers
  constructor
  · rw [hxs', List.filter_append, hx'', filter_eraseP_not, h.spared,
      rtake_of_length_le (l := xs.filter p) (by omega),
      rtake_of_length_le (by rw [List.length_append, List.length_singleton]; omega)]
  · rw [hxs', List.take_append_of_le_length hxs, List.filter_append, hx', List.append_nil,
      filter_eraseP, h.others, List.length_append, List.length_singleton]
    obtain ⟨n, hn⟩ : ∃ n, cap - (xs.filter p).length = n + 1 :=
      ⟨cap - (xs.filter p).length - 1, by omega⟩
    rw [hn, show cap - ((xs.filter p).length + 1) = n by omega]
    exact tail_rtake (by omega)

/-- One more arrival at a full queue. -/
lemma Closed.keep (hcap : 1 ≤ cap) (x : α) : Closed p cap (xs ++ [x]) (keep p cap r x) := by
  cases hx : p x with
  | false =>
    rw [keep_of_not hfull.ge hx]
    exact h.turnedAway hxs hx
  | true =>
    by_cases hall : r.all p = true
    · rw [keep_of_all hfull.ge hx hall]
      exact h.tail hfull hxs hcap hx hall
    · rw [keep_of_mixed hfull.ge hx hall]
      exact h.eraseP hfull hxs hx hall

end Arrival

theorem kept_closed (hcap : 1 ≤ cap) (xs : List α) : Closed p cap xs (kept p cap xs) := by
  induction xs using List.reverseRecOn with
  | nil => exact closed_self (Nat.zero_le _)
  | append_singleton xs x ih =>
    by_cases hroom : xs.length < cap
    · have hle : (xs ++ [x]).length ≤ cap := by
        rw [List.length_append, List.length_singleton]
        exact hroom
      rw [kept_of_length_le hcap hle]
      exact closed_self hle
    · have hxs := not_lt.mp hroom
      rw [kept_concat]
      exact ih.keep (by rw [kept_length hcap, min_eq_right hxs]) hxs hcap x

/-! ### Other policies -/

/-- A way to hold a queue of at most `cap` elements: what is in it after an arrival was in it before,
or has just arrived. -/
structure Policy (α : Type*) (cap : ℕ) where
  take  : List α → α → List α
  keeps : ∀ r x, (take r x).Subperm (r ++ [x])
  fits  : ∀ r x, r.length ≤ cap → (take r x).length ≤ cap

/-- The elements with `p` that a policy gives up over a sequence of arrivals. -/
def Policy.drops (q : Policy α cap) (p : α → Bool) : List α → List α → ℕ
  | _, []      => 0
  | r, x :: xs => ((r ++ [x]).countP p - (q.take r x).countP p) + q.drops p (q.take r x) xs

/-- What a policy gives up and what it holds in the end make up what came. -/
lemma Policy.drops_add_countP (q : Policy α cap) (r xs : List α) :
    q.drops p r xs + (xs.foldl q.take r).countP p = r.countP p + xs.countP p := by
  induction xs generalizing r with
  | nil => simp [Policy.drops]
  | cons x xs ih =>
    have hle := (q.keeps r x).countP_le (p := p)
    have hsplit : (r ++ [x]).countP p = r.countP p + [x].countP p := List.countP_append
    have hcons : (x :: xs).countP p = [x].countP p + xs.countP p :=
      @List.countP_append _ p [x] xs
    have := ih (q.take r x)
    rw [Policy.drops, List.foldl_cons]
    omega

lemma Policy.length_foldl (q : Policy α cap) {r : List α} (h : r.length ≤ cap) (xs : List α) :
    (xs.foldl q.take r).length ≤ cap := by
  induction xs generalizing r with
  | nil => exact h
  | cons x xs ih => exact ih (q.fits r x h)

/-- No policy holds more than `cap` elements. -/
lemma Policy.le_drops (q : Policy α cap) (xs : List α) :
    xs.countP p - min (xs.countP p) cap ≤ q.drops p [] xs := by
  have hsum := q.drops_add_countP (p := p) [] xs
  have hlen := q.length_foldl (r := []) (Nat.zero_le cap) xs
  have hcount := List.countP_le_length (p := p) (l := xs.foldl q.take [])
  rw [List.countP_nil, Nat.zero_add] at hsum
  omega

/-- `keep` as a policy. -/
def sparing (p : α → Bool) (cap : ℕ) (hcap : 1 ≤ cap) : Policy α cap where
  take := keep p cap
  keeps r x := (keep_sublist r x).subperm
  fits r x h := by
    rw [keep_length hcap h]
    exact min_le_right _ _

/-- No policy loses fewer elements with `p` than `keep`. -/
theorem drops_isLeast (hcap : 1 ≤ cap) (xs : List α) :
    IsLeast (Set.range fun q : Policy α cap => q.drops p [] xs)
      (xs.countP p - min (xs.countP p) cap) := by
  constructor
  · refine ⟨sparing p cap hcap, ?_⟩
    have hsum := (sparing p cap hcap).drops_add_countP (p := p) [] xs
    have hkept : (kept p cap xs).countP p = min (xs.countP p) cap := by
      rw [List.countP_eq_length_filter, (kept_closed hcap xs).spared, length_rtake,
        ← List.countP_eq_length_filter]
      exact min_comm _ _
    rw [List.countP_nil, Nat.zero_add] at hsum
    change _ + (kept p cap xs).countP p = _ at hsum
    dsimp only
    omega
  · rintro _ ⟨q, rfl⟩
    exact q.le_drops xs

end Sparing
