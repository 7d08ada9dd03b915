import ControlPlaneClient.Lib.Codec

/-!
# Standard base64

Three bytes make four symbols, and a short last group is padded with `=`. The decoder is the strict
one: the padding must be there and the unused bits of the last symbol must be zero.
-/

namespace Base64

def alphabet : List Char := "ABCDEFGHIJKLMNOPQRSTUVWXYZabcdefghijklmnopqrstuvwxyz0123456789+/".toList

def symbol (n : ℕ) : Char := alphabet.getD n 'A'

def value (c : Char) : Option ℕ := alphabet.idxOf? c

lemma value_symbol {n : ℕ} (h : n < 64) : value (symbol n) = some n := by
  revert n
  decide +kernel

lemma symbol_ne_pad {n : ℕ} (h : n < 64) : symbol n ≠ '=' := by
  revert n
  decide +kernel

def encode : List UInt8 → List Char
  | [] => []
  | [a] => [symbol (a.toNat / 4), symbol (a.toNat % 4 * 16), '=', '=']
  | [a, b] =>
    [symbol (a.toNat / 4), symbol (a.toNat % 4 * 16 + b.toNat / 16), symbol (b.toNat % 16 * 4), '=']
  | a :: b :: c :: rest =>
    symbol (a.toNat / 4) :: symbol (a.toNat % 4 * 16 + b.toNat / 16) ::
      symbol (b.toNat % 16 * 4 + c.toNat / 64) :: symbol (c.toNat % 64) :: encode rest

/-- The one byte of a group that ends in two pads. -/
def decodeOne (w x : ℕ) : Option (List UInt8) :=
  if x % 16 = 0 then some [UInt8.ofNat (w * 4 + x / 16)] else none

/-- The two bytes of a group that ends in one pad. -/
def decodeTwo (w x y : ℕ) : Option (List UInt8) :=
  if y % 4 = 0 then some [UInt8.ofNat (w * 4 + x / 16), UInt8.ofNat (x % 16 * 16 + y / 4)] else none

/-- The bytes of a full group. -/
def decodeThree (w x y z : ℕ) : List UInt8 :=
  [UInt8.ofNat (w * 4 + x / 16), UInt8.ofNat (x % 16 * 16 + y / 4), UInt8.ofNat (y % 4 * 64 + z)]

def decode : List Char → Option (List UInt8)
  | [] => some []
  | w :: x :: y :: z :: rest => do
    let w ← value w
    let x ← value x
    if z = '=' then
      if rest ≠ [] then none
      else if y = '=' then decodeOne w x
      else decodeTwo w x (← value y)
    else
      let y ← value y
      let z ← value z
      let bytes ← decode rest
      some (decodeThree w x y z ++ bytes)
  | _ => none

lemma ofNat_eq {a : UInt8} {n : ℕ} (h : n = a.toNat) : UInt8.ofNat n = a := by
  rw [h, UInt8.ofNat_toNat]

lemma toNat_lt (a : UInt8) : a.toNat < 256 := a.toNat_lt

lemma decode_encode (bytes : List UInt8) : decode (encode bytes) = some bytes := by
  induction bytes using encode.induct with
  | case1 => rfl
  | case2 a =>
    have ha := toNat_lt a
    have hw : a.toNat / 4 < 64 := by omega
    have hx : a.toNat % 4 * 16 < 64 := by omega
    simp only [encode, decode, value_symbol hw, value_symbol hx, Option.bind_eq_bind,
      Option.bind_some, ne_eq, not_true_eq_false, if_true, if_false, decodeOne]
    rw [if_pos (by omega), ofNat_eq (a := a) (by omega)]
  | case3 a b =>
    have ha := toNat_lt a
    have hb := toNat_lt b
    have hw : a.toNat / 4 < 64 := by omega
    have hx : a.toNat % 4 * 16 + b.toNat / 16 < 64 := by omega
    have hy : b.toNat % 16 * 4 < 64 := by omega
    simp only [encode, decode, value_symbol hw, value_symbol hx, value_symbol hy,
      symbol_ne_pad hy, Option.bind_eq_bind, Option.bind_some, ne_eq, not_true_eq_false, if_true,
      if_false, decodeTwo]
    rw [if_pos (by omega), ofNat_eq (a := a) (by omega), ofNat_eq (a := b) (by omega)]
  | case4 a b c rest ih =>
    have ha := toNat_lt a
    have hb := toNat_lt b
    have hc := toNat_lt c
    have hw : a.toNat / 4 < 64 := by omega
    have hx : a.toNat % 4 * 16 + b.toNat / 16 < 64 := by omega
    have hy : b.toNat % 16 * 4 + c.toNat / 64 < 64 := by omega
    have hz : c.toNat % 64 < 64 := by omega
    simp only [encode, decode, value_symbol hw, value_symbol hx, value_symbol hy, value_symbol hz,
      symbol_ne_pad hz, Option.bind_eq_bind, Option.bind_some, if_false, ih, decodeThree]
    rw [ofNat_eq (a := a) (by omega), ofNat_eq (a := b) (by omega), ofNat_eq (a := c) (by omega)]
    rfl

/-- A base64 codec on strings, as far as its users rely on it. -/
structure Engine extends Codec (List UInt8) String where
  decode_empty : decode "" = some []

lemma Engine.encode_ne_empty (e : Engine) {bytes : List UInt8} (h : bytes ≠ []) :
    e.encode bytes ≠ "" := by
  intro hempty
  have hdecode := e.decode_encode bytes
  rw [hempty, e.decode_empty] at hdecode
  exact h (Option.some.inj hdecode).symm

def standard : Engine where
  encode bytes := String.ofList (encode bytes)
  decode s := decode s.toList
  decode_encode bytes := by rw [String.toList_ofList, decode_encode]
  decode_empty := rfl

end Base64
