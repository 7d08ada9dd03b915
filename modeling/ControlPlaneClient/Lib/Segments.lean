import Mathlib

/-!
# Texts with separators

What a text says when it is cut at the first occurrence of a separator, or at each of them: stated
by how the pieces make up the text, and equivalent to the functions that compute them.
-/

namespace Segments

variable {α : Type*} {sep : α} {text frag : List α} {segs : List (List α)}

/-- The pieces of a text between the separators. -/
structure Cuts (sep : α) (text : List α) (segs : List (List α)) : Prop where
  nonempty : segs ≠ []
  free     : ∀ seg ∈ segs, sep ∉ seg
  joined   : [sep].intercalate segs = text

/-- The first piece that starts with the key, without the key. -/
def First (key : List α) (segs : List (List α)) (value : List α) : Prop :=
  ∃ before after, segs = before ++ (key ++ value) :: after ∧ ∀ seg ∈ before, ¬ key <+: seg

variable [DecidableEq α]

/-- The text after the first separator. -/
lemma dropWhile_ne_eq_cons_iff {c : α} :
    text.dropWhile (· ≠ sep) = c :: frag ↔
      c = sep ∧ ∃ base, text = base ++ sep :: frag ∧ sep ∉ base := by
  induction text with
  | nil => simp
  | cons a text ih =>
    by_cases ha : a = sep
    · subst ha
      rw [List.dropWhile_cons_of_neg (by simp), List.cons.injEq]
      constructor
      · rintro ⟨rfl, rfl⟩
        exact ⟨rfl, [], rfl, List.not_mem_nil⟩
      · rintro ⟨rfl, base, hbase, hfree⟩
        cases base with
        | nil => exact ⟨rfl, (List.cons.inj hbase).2⟩
        | cons b base =>
          obtain ⟨rfl, -⟩ := List.cons.inj hbase
          exact absurd (List.mem_cons_self ..) hfree
    · rw [List.dropWhile_cons_of_pos (by simpa using ha), ih]
      refine and_congr_right fun _ => ?_
      constructor
      · rintro ⟨base, rfl, hfree⟩
        exact ⟨a :: base, rfl, List.not_mem_cons_of_ne_of_not_mem (Ne.symm ha) hfree⟩
      · rintro ⟨base, hbase, hfree⟩
        cases base with
        | nil => exact absurd (List.cons.inj hbase).1 ha
        | cons b base =>
          exact ⟨base, (List.cons.inj hbase).2, fun h => hfree (List.mem_cons_of_mem _ h)⟩

lemma not_mem_of_mem_splitOn : ∀ seg ∈ text.splitOn sep, sep ∉ seg := by
  induction text with
  | nil => simp
  | cons a text ih =>
    intro seg hseg
    rw [List.splitOn_cons_eq_if_modifyHead] at hseg
    obtain ⟨first, rest, hsplit⟩ := List.exists_cons_of_ne_nil (List.splitOn_ne_nil sep text)
    rw [hsplit] at hseg ih
    split at hseg
    · rcases List.mem_cons.mp hseg with rfl | hseg
      · exact List.not_mem_nil
      · exact ih seg hseg
    · rename_i ha
      rcases List.mem_cons.mp hseg with rfl | hseg
      · refine List.not_mem_cons_of_ne_of_not_mem ?_ (ih first (List.mem_cons_self ..))
        intro h
        exact ha (by simp [h])
      · exact ih seg (List.mem_cons_of_mem _ hseg)

lemma splitOn_eq_iff : text.splitOn sep = segs ↔ Cuts sep text segs := by
  constructor
  · rintro rfl
    exact ⟨List.splitOn_ne_nil sep text, not_mem_of_mem_splitOn, List.intercalate_splitOn sep⟩
  · intro h
    rw [← h.joined]
    exact List.splitOn_intercalate sep h.free h.nonempty

lemma dropPrefix_eq_some_iff {key seg value : List α} :
    seg.dropPrefix? key = some value ↔ seg = key ++ value := by
  simp [List.dropPrefix?_eq_some_iff]

lemma dropPrefix_eq_none_iff {key seg : List α} :
    seg.dropPrefix? key = none ↔ ¬ key <+: seg := by
  rw [Option.eq_none_iff_forall_ne_some]
  constructor
  · rintro h ⟨value, rfl⟩
    exact h value (dropPrefix_eq_some_iff.mpr rfl)
  · intro h value hvalue
    exact h ⟨value, (dropPrefix_eq_some_iff.mp hvalue).symm⟩

lemma findSome_dropPrefix_iff {key value : List α} :
    segs.findSome? (·.dropPrefix? key) = some value ↔ First key segs value := by
  rw [List.findSome?_eq_some_iff]
  constructor
  · rintro ⟨before, seg, after, rfl, hseg, hbefore⟩
    obtain rfl := dropPrefix_eq_some_iff.mp hseg
    exact ⟨before, after, rfl, fun seg hmem => dropPrefix_eq_none_iff.mp (hbefore seg hmem)⟩
  · rintro ⟨before, after, rfl, hbefore⟩
    exact ⟨before, _, after, rfl, dropPrefix_eq_some_iff.mpr rfl,
      fun seg hmem => dropPrefix_eq_none_iff.mpr (hbefore seg hmem)⟩

end Segments
