import Mathlib

/-!
# Finite maps kept sorted by key

An association list whose keys increase strictly, so that a map has one representation only and
its entries come out in key order. `upsert` is the update through an entry: it replaces what
the key holds, or inserts the key in its place.
-/

variable {K V : Type*} [LinearOrder K]

/-- A finite map, as the list of its entries in increasing order of keys. -/
@[ext]
structure SortedMap (K V : Type*) [LinearOrder K] where
  entries : List (K × V)
  sorted  : (entries.map Prod.fst).Pairwise (· < ·)

namespace SortedMap

/-- The map with no entries. -/
def empty : SortedMap K V := ⟨[], List.Pairwise.nil⟩

instance : Inhabited (SortedMap K V) := ⟨empty⟩

/-- What the key holds in a list of entries. -/
def lookup (k : K) : List (K × V) → Option V
  | []           => none
  | (a, v) :: es => if k = a then some v else lookup k es

/-- What the key holds. -/
def get? (m : SortedMap K V) (k : K) : Option V := lookup k m.entries

/-- Replace what `k` holds in a sorted list of entries by `f` of it. -/
def upsertEntries (k : K) (f : Option V → V) : List (K × V) → List (K × V)
  | []           => [(k, f none)]
  | (a, v) :: es =>
    if k < a then (k, f none) :: (a, v) :: es
    else if k = a then (a, f (some v)) :: es
    else (a, v) :: upsertEntries k f es

lemma mem_keys_upsertEntries (k : K) (f : Option V → V) (es : List (K × V)) {b : K}
    (hb : b ∈ (upsertEntries k f es).map Prod.fst) : b = k ∨ b ∈ es.map Prod.fst := by
  induction es with
  | nil => simpa [upsertEntries] using hb
  | cons e es ih =>
    obtain ⟨a, v⟩ := e
    simp only [upsertEntries] at hb
    split_ifs at hb with hlt heq
    · simpa using hb
    · exact Or.inr (by simpa using hb)
    · rcases List.mem_cons.mp hb with rfl | hb
      · exact Or.inr (by simp)
      · exact (ih hb).imp_right fun h => List.mem_cons_of_mem _ h

lemma pairwise_upsertEntries (k : K) (f : Option V → V) (es : List (K × V))
    (h : (es.map Prod.fst).Pairwise (· < ·)) :
    ((upsertEntries k f es).map Prod.fst).Pairwise (· < ·) := by
  induction es with
  | nil => simp [upsertEntries]
  | cons e es ih =>
    obtain ⟨a, v⟩ := e
    simp only [List.map_cons, List.pairwise_cons] at h
    simp only [upsertEntries]
    split_ifs with hlt heq
    · simp only [List.map_cons, List.pairwise_cons]
      refine ⟨?_, h⟩
      intro b hb
      rcases List.mem_cons.mp hb with rfl | hb
      · exact hlt
      · exact hlt.trans (h.1 b hb)
    · simpa only [List.map_cons, List.pairwise_cons] using h
    · simp only [List.map_cons, List.pairwise_cons]
      refine ⟨?_, ih h.2⟩
      intro b hb
      rcases mem_keys_upsertEntries k f es hb with rfl | hb
      · exact lt_of_le_of_ne (not_lt.mp hlt) (Ne.symm heq)
      · exact h.1 b hb

/-- Replace what `k` holds by `f` of it, inserting `k` if it holds nothing. -/
def upsert (m : SortedMap K V) (k : K) (f : Option V → V) : SortedMap K V :=
  ⟨upsertEntries k f m.entries, pairwise_upsertEntries k f m.entries m.sorted⟩

/-- A key above all others goes to the end. -/
lemma upsertEntries_of_lt {k : K} {es : List (K × V)} (h : ∀ b ∈ es.map Prod.fst, b < k)
    (f : Option V → V) : upsertEntries k f es = es ++ [(k, f none)] := by
  induction es with
  | nil => rfl
  | cons e es ih =>
    obtain ⟨a, v⟩ := e
    simp only [List.map_cons, List.forall_mem_cons] at h
    rw [upsertEntries, if_neg (not_lt.mpr h.1.le), if_neg h.1.ne', ih h.2, List.cons_append]

/-! ### Lookups -/

/-- A key below all others is not there. -/
lemma lookup_eq_none_of_lt {k : K} {es : List (K × V)} (h : ∀ b ∈ es.map Prod.fst, k < b) :
    lookup k es = none := by
  induction es with
  | nil => rfl
  | cons e es ih =>
    obtain ⟨a, v⟩ := e
    simp only [List.map_cons, List.forall_mem_cons] at h
    rw [lookup, if_neg h.1.ne]
    exact ih h.2

lemma lookup_upsertEntries (k k' : K) (f : Option V → V) (es : List (K × V))
    (h : (es.map Prod.fst).Pairwise (· < ·)) :
    lookup k' (upsertEntries k f es) =
      if k' = k then some (f (lookup k es)) else lookup k' es := by
  induction es with
  | nil => rfl
  | cons e es ih =>
    obtain ⟨a, v⟩ := e
    simp only [List.map_cons, List.pairwise_cons] at h
    rcases lt_trichotomy k a with hlt | rfl | hgt
    · have hnone : lookup k ((a, v) :: es) = none := by
        apply lookup_eq_none_of_lt
        simp only [List.map_cons, List.forall_mem_cons]
        exact ⟨hlt, fun b hb => hlt.trans (h.1 b hb)⟩
      rw [upsertEntries, if_pos hlt, hnone]
      rfl
    · rw [upsertEntries, if_neg (lt_irrefl k), if_pos rfl]
      simp only [lookup, if_true]
      split_ifs <;> rfl
    · rw [upsertEntries, if_neg (not_lt.mpr hgt.le), if_neg hgt.ne']
      simp only [lookup, ih h.2, if_neg hgt.ne']
      split_ifs with ha hk
      · exact absurd (hk.symm.trans ha) hgt.ne'
      · rfl
      · rfl
      · rfl

/-- What a key holds after an update: the new value at `k`, what it held elsewhere. -/
lemma get?_upsert (m : SortedMap K V) (k k' : K) (f : Option V → V) :
    (m.upsert k f).get? k' = if k' = k then some (f (m.get? k)) else m.get? k' :=
  lookup_upsertEntries k k' f m.entries m.sorted

lemma filter_entries (k : K) (es : List (K × V)) (h : (es.map Prod.fst).Pairwise (· < ·)) :
    (es.filter fun e => e.1 = k) = (lookup k es).toList.map fun v => (k, v) := by
  induction es with
  | nil => rfl
  | cons e es ih =>
    obtain ⟨a, v⟩ := e
    simp only [List.map_cons, List.pairwise_cons] at h
    rw [List.filter_cons, lookup, ih h.2]
    by_cases ha : k = a
    · subst ha
      rw [lookup_eq_none_of_lt h.1]
      simp
    · simp [ha, Ne.symm ha]

/-- The entries with a key are what it holds. -/
lemma filter_key (m : SortedMap K V) (k : K) :
    (m.entries.filter fun e => e.1 = k) = (m.get? k).toList.map fun v => (k, v) :=
  filter_entries k m.entries m.sorted

end SortedMap
