import Mathlib

/-!
# Codecs

A codec is an encoder with a decoder that undoes it. What else the decoder accepts is not said.

`Codec.override` changes a codec at some values, so that a codec known only by some of its
encodings has a model.
-/

structure Codec (α β : Type*) where
  encode : α → β
  decode : β → Option α
  decode_encode (a : α) : decode (encode a) = some a

namespace Codec

variable {α β : Type*}

/-- `c` with the encodings of the `known` values changed to those that `render` gives, which encode
nothing in `c`. -/
def override [DecidableEq α] [DecidableEq β] (c : Codec α β) (render : α → β) (known : List α)
    (hinj : ∀ a ∈ known, ∀ b ∈ known, render a = render b → a = b)
    (hfresh : ∀ a ∈ known, c.decode (render a) = none) : Codec α β where
  encode a := if a ∈ known then render a else c.encode a
  decode b := (known.find? fun a => render a = b).or (c.decode b)
  decode_encode a := by
    split_ifs with ha
    · have hsome : (known.find? fun x => render x = render a).isSome := by
        rw [List.find?_isSome]
        exact ⟨a, ha, by simp⟩
      obtain ⟨x, hx⟩ := Option.isSome_iff_exists.mp hsome
      have hrender := List.find?_some hx
      rw [hx, hinj x (List.mem_of_find?_eq_some hx) a ha (by simpa using hrender)]
      rfl
    · have hnone : (known.find? fun x => render x = c.encode a) = none := by
        rw [List.find?_eq_none]
        intro x hx heq
        have hdecode := c.decode_encode a
        rw [← of_decide_eq_true heq, hfresh x hx] at hdecode
        cases hdecode
      rw [hnone, Option.none_or, c.decode_encode]

/-- Nothing is read from what is neither rendered nor encoded. -/
lemma override_decode_eq_none [DecidableEq α] [DecidableEq β] {c : Codec α β} {render : α → β}
    {known : List α} (hinj : ∀ a ∈ known, ∀ b ∈ known, render a = render b → a = b)
    (hfresh : ∀ a ∈ known, c.decode (render a) = none) {b : β} (hb : ∀ a ∈ known, render a ≠ b)
    (hc : c.decode b = none) : (c.override render known hinj hfresh).decode b = none := by
  have hnone : (known.find? fun a => render a = b) = none := by
    rw [List.find?_eq_none]
    intro a ha heq
    exact hb a ha (of_decide_eq_true heq)
  simp only [override, hnone, hc, Option.or_none]

/-- A codec for any encodable type: a run of zero bytes. With `override` it serves where only a
few encodings matter. -/
def unary [Encodable α] : Codec α (List UInt8) where
  encode a := List.replicate (Encodable.encode a) 0
  decode bs := if bs.all (· == 0) then Encodable.decode bs.length else none
  decode_encode a := by simp

lemma unary_decode_eq_none [Encodable α] {bs : List UInt8} (h : bs.all (· == 0) = false) :
    (unary : Codec α (List UInt8)).decode bs = none := by
  simp only [unary, h, Bool.false_eq_true, if_false]

/-- Likewise, with a byte at the end that the decoder waits for. -/
def terminated [Encodable α] : Codec α (List UInt8) where
  encode a := List.replicate (Encodable.encode a) 0 ++ [1]
  decode bs := if bs.getLast? = some 1 ∧ bs.dropLast.all (· == 0) then
    Encodable.decode bs.dropLast.length else none
  decode_encode a := by simp

lemma terminated_decode_eq_none [Encodable α] {b : UInt8} {bs : List UInt8} (hzero : b ≠ 0)
    (hone : b ≠ 1) : (terminated : Codec α (List UInt8)).decode (b :: bs) = none := by
  refine if_neg ?_
  rintro ⟨hlast, hall⟩
  cases bs with
  | nil => exact hone (by simpa using hlast)
  | cons b' bs => exact hzero (by simpa using List.all_eq_true.mp hall b (by simp))

lemma terminated_take [Encodable α] (a : α) {n : ℕ}
    (h : n < ((terminated : Codec α (List UInt8)).encode a).length) :
    ((terminated : Codec α (List UInt8)).encode a).take n = List.replicate n 0 := by
  have hn : n ≤ Encodable.encode a := by simpa [terminated] using h
  rw [terminated, List.take_append_of_le_length (by simpa using hn), List.take_replicate,
    Nat.min_eq_left hn]

lemma terminated_decode_replicate [Encodable α] (n : ℕ) :
    (terminated : Codec α (List UInt8)).decode (List.replicate n 0) = none := by
  refine if_neg ?_
  rintro ⟨hlast, -⟩
  have hone := List.eq_of_mem_replicate (List.mem_of_getLast? hlast)
  cases hone

end Codec

instance encodableChar : Encodable Char :=
  Encodable.ofLeftInverse Char.toNat Char.ofNat Char.ofNat_toNat

instance encodableString : Encodable String :=
  Encodable.ofLeftInverse String.toList String.ofList fun s => by simp

instance encodableUInt8 : Encodable UInt8 :=
  Encodable.ofLeftInverse UInt8.toNat UInt8.ofNat fun n => by simp

instance encodableUInt32 : Encodable UInt32 :=
  Encodable.ofLeftInverse UInt32.toNat UInt32.ofNat fun n => by simp

/-! ### Texts -/

/-- The UTF-8 bytes of a text. -/
def utf8Bytes (s : String) : List UInt8 := s.toByteArray.data.toList

lemma utf8Bytes_injective : Function.Injective utf8Bytes := by
  intro s t h
  exact String.toByteArray_inj.mp (ByteArray.ext (Array.toList_inj.mp h))

lemma utf8Bytes_append (s t : String) : utf8Bytes (s ++ t) = utf8Bytes s ++ utf8Bytes t := by
  simp [utf8Bytes]

/-- A text that opens with a brace is no run of zero bytes. -/
lemma utf8Bytes_brace_all (s : String) : (utf8Bytes ("\x7b" ++ s)).all (· == 0) = false := by
  have hbrace : (utf8Bytes "\x7b").all (· == 0) = false := by decide
  rw [utf8Bytes_append, List.all_append, hbrace, Bool.false_and]
