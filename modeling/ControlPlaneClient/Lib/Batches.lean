import Mathlib

/-!
# Lists shipped in batches

`Batches n xs cs` says that `cs` is `xs` cut into pieces of `n` elements, of which the last one may
be shorter. In a `Shipment` each piece travels in a batch that may carry something else besides: the
first batch carries all of it, and no batch is sent for nothing.
-/

variable {α D : Type*}

/-- A list cut into pieces. -/
structure Batches (n : ℕ) (xs : List α) (cs : List (List α)) : Prop where
  joined  : cs.flatten = xs
  bounded : ∀ c ∈ cs, c.length ≤ n
  full    : ∀ c ∈ cs.dropLast, c.length = n

namespace Batches

lemma nil (n : ℕ) : Batches n ([] : List α) [] :=
  ⟨rfl, fun _ hc => absurd hc List.not_mem_nil, fun _ hc => absurd hc List.not_mem_nil⟩

/-- A full batch, or any batch with none after it, in front. -/
lemma cons {n : ℕ} {c xs : List α} {cs : List (List α)} (h : Batches n xs cs) (hc : c.length ≤ n)
    (hfull : cs ≠ [] → c.length = n) : Batches n (c ++ xs) (c :: cs) := by
  constructor
  · rw [List.flatten_cons, h.joined]
  · intro a ha
    rcases List.mem_cons.mp ha with rfl | ha
    · exact hc
    · exact h.bounded a ha
  · intro a ha
    cases cs with
    | nil => exact absurd ha List.not_mem_nil
    | cons d cs =>
      rw [List.dropLast_cons_cons] at ha
      rcases List.mem_cons.mp ha with rfl | ha
      · exact hfull (List.cons_ne_nil d cs)
      · exact h.full a ha

end Batches

/-- A list shipped in batches. `all` and `nothing` say of a batch what it carries besides its
items. -/
structure Shipment (items : D → List α) (n : ℕ) (xs : List α) (all nothing : D → Prop)
    (sent : List D) : Prop where
  batches : Batches n xs (sent.map items)
  first   : ∀ d ∈ sent.head?, all d
  others  : ∀ d ∈ sent.tail, nothing d
  filled  : ∀ d ∈ sent, items d = [] → ¬ nothing d

namespace Shipment

variable {items : D → List α} {n : ℕ} {xs : List α} {all nothing : D → Prop} {sent : List D}

lemma nil : Shipment items n [] all nothing [] :=
  ⟨Batches.nil n, by simp, by simp, by simp⟩

/-- Nothing is sent for nothing. -/
lemma eq_nil (h : Shipment items n [] nothing nothing sent) : sent = [] := by
  cases sent with
  | nil => rfl
  | cons d ds =>
    have hjoined := h.batches.joined
    rw [List.map_cons, List.flatten_cons, List.append_eq_nil_iff] at hjoined
    exact absurd (h.first d rfl) (h.filled d (by simp) hjoined.1)

/-- A batch in front of a shipment that carries nothing else. -/
lemma cons {d : D} (h : Shipment items n xs nothing nothing sent) (hlen : (items d).length ≤ n)
    (hlast : (items d).length < n → xs = []) (hall : all d) (hd : items d = [] → ¬ nothing d) :
    Shipment items n (items d ++ xs) all nothing (d :: sent) := by
  constructor
  · rw [List.map_cons]
    apply h.batches.cons hlen
    intro hne
    by_contra hshort
    rw [hlast (lt_of_le_of_ne hlen hshort)] at h
    apply hne
    rw [h.eq_nil, List.map_nil]
  · simpa using hall
  · intro e he
    rw [List.tail_cons] at he
    cases sent with
    | nil => exact absurd he List.not_mem_nil
    | cons x xs =>
      rcases List.mem_cons.mp he with rfl | he
      · exact h.first e rfl
      · exact h.others e he
  · intro e he
    rcases List.mem_cons.mp he with rfl | he
    · exact hd
    · exact h.filled e he

end Shipment
