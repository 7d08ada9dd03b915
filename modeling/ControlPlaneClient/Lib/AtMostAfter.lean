import Mathlib

/-!
# At most so many later elements

`AtMostAfter n p l` says of a list that each of its elements has at most `n` later ones that `p` relates
it to. For `n = 0` these are the lists whose elements are `Pairwise` unrelated. It is the invariant of
a line into which someone with a value in hand still puts what was read before.
-/

namespace List

variable {α : Type*} {n : ℕ} {p : α → α → Bool} {l l' : List α}

def AtMostAfter (n : ℕ) (p : α → α → Bool) : List α → Prop
  | []      => True
  | a :: as => as.countP (p a) ≤ n ∧ AtMostAfter n p as

lemma atMostAfter_cons {a : α} {as : List α} :
    AtMostAfter n p (a :: as) ↔ as.countP (p a) ≤ n ∧ AtMostAfter n p as := Iff.rfl

lemma AtMostAfter.sublist (hsub : l'.Sublist l) (h : l.AtMostAfter n p) : l'.AtMostAfter n p := by
  induction hsub with
  | slnil => trivial
  | cons a _ ih => exact ih h.2
  | cons_cons a hsub ih => exact ⟨(hsub.countP_le).trans h.1, ih h.2⟩

/-- What is put at the end counts against each element that is related to it. -/
lemma atMostAfter_concat {x : α} :
    (l ++ [x]).AtMostAfter n p ↔
      l.AtMostAfter n p ∧ ∀ xs a ys, l = xs ++ a :: ys → p a x → ys.countP (p a) + 1 ≤ n := by
  induction l with
  | nil => simp [AtMostAfter]
  | cons b l ih =>
    simp only [cons_append, atMostAfter_cons, ih, countP_append, countP_singleton]
    constructor
    · rintro ⟨hb, hl, hrest⟩
      refine ⟨⟨(Nat.le_add_right _ _).trans hb, hl⟩, ?_⟩
      intro xs a ys heq hp
      cases xs with
      | nil =>
        simp only [nil_append, cons.injEq] at heq
        obtain ⟨rfl, rfl⟩ := heq
        rwa [if_pos hp] at hb
      | cons x xs =>
        simp only [cons_append, cons.injEq] at heq
        exact hrest xs a ys heq.2 hp
    · rintro ⟨⟨hb, hl⟩, hrest⟩
      refine ⟨?_, hl, fun xs a ys heq => hrest (b :: xs) a ys (by rw [heq, cons_append])⟩
      by_cases hp : p b x
      · rw [if_pos hp]
        exact hrest [] b l rfl hp
      · rwa [if_neg hp]

/-- What no element is related to can be put at the end. -/
lemma AtMostAfter.concat {x : α} (h : l.AtMostAfter n p) (hx : ∀ a ∈ l, p a x = false) :
    (l ++ [x]).AtMostAfter n p := by
  rw [atMostAfter_concat]
  refine ⟨h, ?_⟩
  rintro xs a ys rfl hp
  rw [hx a (by simp)] at hp
  cases hp

/-- It can also be put before the last one. With room for one later element, that may be one that it
is itself related to. -/
lemma AtMostAfter.concat_before {x y : α} (h : (l ++ [y]).AtMostAfter n p)
    (hx : ∀ a ∈ l, p a x = false) (hn : p x y → 0 < n) : (l ++ [x] ++ [y]).AtMostAfter n p := by
  rw [atMostAfter_concat] at h ⊢
  obtain ⟨hl, hy⟩ := h
  refine ⟨hl.concat hx, ?_⟩
  intro xs a ys heq hp
  rcases List.eq_nil_or_concat ys with rfl | ⟨ys, z, rfl⟩
  · obtain ⟨-, ha⟩ := List.append_inj' heq rfl
    obtain rfl := List.singleton_inj.mp ha
    rw [countP_nil, Nat.zero_add]
    exact hn hp
  · have heq' : l ++ [x] = (xs ++ a :: ys) ++ [z] := by simpa using heq
    obtain ⟨hl', hz⟩ := List.append_inj' heq' rfl
    obtain rfl := List.singleton_inj.mp hz
    have hnot : p a x = false := hx a (by rw [hl']; simp)
    simpa [countP_append, hnot] using hy xs a ys hl' hp

lemma atMostAfter_zero : l.AtMostAfter 0 p ↔ l.Pairwise fun a b => p a b = false := by
  induction l with
  | nil => simp [AtMostAfter]
  | cons a l ih => simp [atMostAfter_cons, ih]

lemma AtMostAfter.countP_le {xs ys : List α} {a : α} (h : l.AtMostAfter n p)
    (heq : l = xs ++ a :: ys) : ys.countP (p a) ≤ n := by
  have hsub : (a :: ys).Sublist l := by
    rw [heq]
    exact sublist_append_right xs (a :: ys)
  exact (h.sublist hsub).1

end List
