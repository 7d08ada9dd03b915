import Mathlib

/-!
# Decimal numbers

Reading a natural number from text: white space around it is dropped, a plus sign may stand before the
digits, leading zeros do not matter, and a number that does not fit below a bound is refused.
-/

namespace Decimal

/-- The text without the white space at its ends. -/
def trim (s : List Char) : List Char := (s.dropWhile Char.isWhitespace).rdropWhile Char.isWhitespace

/-- The text without a plus sign before it. -/
def unsigned : List Char → List Char
  | '+' :: s => s
  | s        => s

def parse (bound : ℕ) (s : List Char) : Option ℕ :=
  let digits := unsigned s
  if digits ≠ [] ∧ digits.all Char.isDigit ∧ Nat.ofDigitChars 10 digits 0 < bound then
    some (Nat.ofDigitChars 10 digits 0)
  else none

lemma trim_padded {l s r : List Char} (hl : ∀ c ∈ l, c.isWhitespace) (hr : ∀ c ∈ r, c.isWhitespace)
    (hs : ∀ c ∈ s, c.isWhitespace = false) (hne : s ≠ []) : trim (l ++ s ++ r) = s := by
  have hdrop : (l ++ s ++ r).dropWhile Char.isWhitespace = s ++ r := by
    rw [List.append_assoc, List.dropWhile_append_of_pos hl]
    cases s with
    | nil => exact absurd rfl hne
    | cons c s => rw [List.cons_append, List.dropWhile_cons_of_neg (by simp [hs c])]
  rw [trim, hdrop, List.rdropWhile, List.reverse_append,
    List.dropWhile_append_of_pos (by simpa using hr)]
  obtain ⟨s', c, rfl⟩ := List.eq_nil_or_concat s |>.resolve_left hne
  simp [hs c]

/-! ### What is a number -/

lemma not_isDigit_plus : Char.isDigit '+' = false := by decide

lemma isWhitespace_of_isDigit {c : Char} (h : c.isDigit) : c.isWhitespace = false := by
  by_contra hspace
  simp only [Char.isWhitespace, Bool.not_eq_false, Bool.or_eq_true, decide_eq_true_eq] at hspace
  rcases hspace with ((rfl | rfl) | rfl) | rfl <;> exact absurd h (by decide)

lemma unsigned_of_digits {ds : List Char} (h : ∀ c ∈ ds, c.isDigit) : unsigned ds = ds := by
  cases ds with
  | nil => rfl
  | cons c ds =>
    have hne : c ≠ '+' := by
      rintro rfl
      have hplus := h '+' List.mem_cons_self
      rw [not_isDigit_plus] at hplus
      cases hplus
    simp [unsigned, hne]

/-- A digit is the numeral of its value. -/
lemma singleton_eq_toDigits {c : Char} (h : c.isDigit) :
    [c] = Nat.toDigits 10 (c.toNat - '0'.toNat) ∧ c.toNat - '0'.toNat < 10 := by
  have hrange : 48 ≤ c.toNat ∧ c.toNat ≤ 57 := by
    simpa [Char.isDigit, UInt32.le_iff_toNat_le] using h
  have hlt : c.toNat - '0'.toNat < 10 := by
    show c.toNat - 48 < 10
    omega
  refine ⟨?_, hlt⟩
  rw [Nat.toDigits_of_lt_base hlt]
  congr 1
  apply Char.toNat_inj.mp
  rw [Nat.toNat_digitChar_of_lt_ten hlt]
  show c.toNat = 48 + (c.toNat - 48)
  omega

/-- Digits are the numeral of their value, with zeros before it. -/
lemma eq_zeros_append_toDigits (ds : List Char) (h : ∀ c ∈ ds, c.isDigit) (hne : ds ≠ []) :
    ∃ z, ds = List.replicate z '0' ++ Nat.toDigits 10 (Nat.ofDigitChars 10 ds 0) := by
  induction ds using List.reverseRecOn with
  | nil => exact absurd rfl hne
  | append_singleton ds c ih =>
    obtain ⟨hc, hlt⟩ := singleton_eq_toDigits (h c (by simp))
    have hvalue : Nat.ofDigitChars 10 (ds ++ [c]) 0 =
        10 * Nat.ofDigitChars 10 ds 0 + (c.toNat - '0'.toNat) := by
      rw [Nat.ofDigitChars_append, Nat.ofDigitChars_cons, Nat.ofDigitChars_nil]
    rw [hvalue]
    by_cases hds : ds = []
    · subst hds
      exact ⟨0, by simpa using hc⟩
    · obtain ⟨z, hz⟩ := ih (fun c hc => h c (List.mem_append_left _ hc)) hds
      rcases Nat.eq_zero_or_pos (Nat.ofDigitChars 10 ds 0) with hzero | hpos
      · refine ⟨z + 1, ?_⟩
        rw [hzero, Nat.toDigits_zero] at hz
        rw [hzero, Nat.mul_zero, Nat.zero_add, ← hc, List.replicate_succ', ← hz]
      · refine ⟨z, ?_⟩
        rw [← Nat.toDigits_append_toDigits (by decide) hpos hlt, ← hc, ← List.append_assoc, ← hz]

/-- What is read as a number is a numeral below the bound, with zeros or a plus sign before it. -/
theorem parse_eq_some_iff {bound n : ℕ} {s : List Char} :
    parse bound s = some n ↔
      n < bound ∧ ∃ z, unsigned s = List.replicate z '0' ++ Nat.toDigits 10 n := by
  rw [parse]
  constructor
  · intro h
    split at h
    · next hs =>
      obtain ⟨hne, hdigits, hlt⟩ := hs
      cases h
      exact ⟨hlt, eq_zeros_append_toDigits _ (List.all_eq_true.mp hdigits) hne⟩
    · cases h
  · rintro ⟨hlt, z, hs⟩
    have hvalue : Nat.ofDigitChars 10 (unsigned s) 0 = n := by
      rw [hs, Nat.ofDigitChars_append, Nat.ofDigitChars_replicate_zero, Nat.mul_zero,
        Nat.ofDigitChars_ten_toDigits]
    have hdigits : (unsigned s).all Char.isDigit := by
      rw [hs, List.all_append, Bool.and_eq_true, List.all_eq_true, List.all_eq_true]
      constructor
      · intro c hc
        rw [List.eq_of_mem_replicate hc]
        decide
      · exact fun c hc => Nat.isDigit_of_mem_toDigits (by decide) (by decide) hc
    have hne : unsigned s ≠ [] := by
      rw [hs]
      simp
    rw [hvalue]
    exact if_pos ⟨hne, hdigits, hlt⟩

/-- A number is read back from its numeral, whatever white space stands around it. -/
theorem parse_trim_toDigits {bound n : ℕ} (h : n < bound) {l r : List Char}
    (hl : ∀ c ∈ l, c.isWhitespace) (hr : ∀ c ∈ r, c.isWhitespace) :
    parse bound (trim (l ++ Nat.toDigits 10 n ++ r)) = some n := by
  have hdigits : ∀ c ∈ Nat.toDigits 10 n, c.isDigit := fun c hc =>
    Nat.isDigit_of_mem_toDigits (by decide) (by decide) hc
  rw [trim_padded hl hr (fun c hc => isWhitespace_of_isDigit (hdigits c hc)) Nat.toDigits_ne_nil, parse_eq_some_iff]
  exact ⟨h, 0, unsigned_of_digits hdigits⟩

end Decimal
