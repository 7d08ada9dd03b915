import ControlPlaneClient.Wire

/-!
# The expiry of the instance token

`token_refresh_window`, `jwt_exp` and `expires_within` of `agent.rs`. The token's claims are read
without checking its signature. URL-safe base64 and the JSON parser are parameters.

Machine integers are `ℤ` with the clamping and the wrapping of the source written out.
-/

namespace ControlPlaneClient

/-! ### Fixed-width arithmetic -/

def i64Min : ℤ := -2 ^ 63

def i64Max : ℤ := 2 ^ 63 - 1

/-- The nearest `i64`. -/
def clampI64 (x : ℤ) : ℤ := max i64Min (min x i64Max)

/-- `i64::saturating_sub`. -/
def saturatingSubI64 (a b : ℤ) : ℤ := clampI64 (a - b)

/-- `u64 as i64`. -/
def asI64 (n : ℕ) : ℤ := Int.bmod n (2 ^ 64)

/-- `f64 as i64`: towards zero, to the nearest `i64`. -/
def truncI64 (q : ℚ) : ℤ := clampI64 (q.num.tdiv q.den)

lemma asI64_eq {n : ℕ} (h : n < 2 ^ 63) : asI64 n = n := by
  apply Int.bmod_eq_of_le
  · exact (neg_nonpos.mpr (by decide)).trans (Int.natCast_nonneg n)
  · exact_mod_cast h

lemma bmod_upper_half {x : ℤ} {m : ℕ} (h : m ≤ 2 * x) (hlt : x < m) : x.bmod m = x - m := by
  rw [← Int.sub_bmod_right]
  exact Int.bmod_eq_of_le (by omega) (by omega)

/-- The upper half of the `u64`s are the negative numbers. -/
lemma asI64_wraps {n : ℕ} (h : 2 ^ 63 ≤ n) (hlt : n < 2 ^ 64) : asI64 n = n - 2 ^ 64 :=
  bmod_upper_half (m := 2 ^ 64) (by omega) (by exact_mod_cast hlt)

/-- What the clamping changes in a comparison: only a bound at the top holds of every number. -/
lemma clampI64_le_iff {x w : ℤ} (hw : i64Min ≤ w) : clampI64 x ≤ w ↔ x ≤ w ∨ i64Max ≤ w := by
  rw [clampI64, max_le_iff, min_le_iff]
  exact and_iff_right hw

/-- Saturation does not bring a difference above a bound that is not negative. -/
lemma lt_sub_of_lt_saturatingSubI64 {a b w : ℤ} (hw : 0 ≤ w) (h : w < saturatingSubI64 a b) :
    w < a - b := by
  have hmin : i64Min ≤ w := le_trans (by decide) hw
  rw [← not_le, saturatingSubI64, clampI64_le_iff hmin, not_or] at h
  exact not_le.mp h.1

/-! ### Claims -/

/-- `serde_json::Number`. A float is the rational number it stands for. -/
inductive JsonNumber
  | posInt (n : UInt64)
  | negInt (n : ℤ)
  | float (q : ℚ)

/-- `serde_json::Value`. -/
inductive JsonValue
  | null
  | bool (b : Bool)
  | number (n : JsonNumber)
  | string (s : String)
  | array (vs : List JsonValue)
  | object (fields : List (String × JsonValue))

namespace JsonValue

def get : JsonValue → String → Option JsonValue
  | .object fields, key => fields.lookup key
  | _,              _   => none

def asI64 : JsonValue → Option ℤ
  | .number (.posInt n) => if (n.toNat : ℤ) ≤ i64Max then some n.toNat else none
  | .number (.negInt n) => some n
  | _                   => none

/-- An integer as a float is taken exactly. It is read as one only above `i64Max`, where the
rounding does not show after the cast back. -/
def asF64 : JsonValue → Option ℚ
  | .number (.posInt n) => some n.toNat
  | .number (.negInt n) => some n
  | .number (.float q)  => some q
  | _                   => none

end JsonValue

/-- The decoders that read a token. -/
structure TokenReader where
  /-- `URL_SAFE_NO_PAD.decode`. -/
  urlSafe : String → Option Bytes
  /-- `serde_json::from_slice`. -/
  json    : Bytes → Option JsonValue

variable (reader : TokenReader)

/-- The payload of a token, unverified. -/
def jwtClaims (jwt : String) : Option JsonValue := do
  let payload ← (jwt.toList.splitOn '.')[1]?
  let bytes ← reader.urlSafe (String.ofList (payload.rdropWhile (· = '=')))
  reader.json bytes

/-- The `exp` claim of a token. -/
def jwtExp (jwt : String) : Option ℤ := do
  let claims ← jwtClaims reader jwt
  let exp ← claims.get "exp"
  exp.asI64 <|> exp.asF64.map truncI64

/-! ### Refresh -/

/-- Floor on how much validity a token must have left before a connect. -/
def minTokenRefreshWindow : Duration := Duration.ofSecs (5 * 60)

/-- A token due to expire within this window is replaced before it is presented. -/
def tokenRefreshWindow (heartbeatInterval : Duration) : Duration :=
  max minTokenRefreshWindow (heartbeatInterval.saturatingMul 3)

/-- Whether a token with this `exp` must be replaced before use. An unreadable `exp` counts as
expired. -/
def expiresWithin (exp : Option ℤ) (now : ℤ) (window : Duration) : Bool :=
  match exp with
  | some exp => decide (saturatingSubI64 exp now ≤ asI64 window.asSecs)
  | none     => true

/-- For a heartbeat interval below 2^61 seconds the window fits in an `i64`. -/
lemma tokenRefreshWindow_asSecs_lt {heartbeatInterval : Duration}
    (h : heartbeatInterval < Duration.ofSecs (2 ^ 61)) :
    (tokenRefreshWindow heartbeatInterval).asSecs < 2 ^ 63 := by
  have hwindow : tokenRefreshWindow heartbeatInterval < 2 ^ 63 * nanosPerSec := by
    rw [tokenRefreshWindow, max_lt_iff, Duration.saturatingMul, min_lt_iff]
    constructor
    · decide
    · left
      calc heartbeatInterval * 3
          < 2 ^ 61 * nanosPerSec * 3 := Nat.mul_lt_mul_of_pos_right h (by decide)
        _ ≤ 2 ^ 63 * nanosPerSec := by decide
  exact Nat.div_lt_of_lt_mul (by rwa [Nat.mul_comm])

/-- What a token that need not be replaced is: its `exp` is readable and further off than the
window. -/
lemma lt_sub_of_not_expiresWithin {exp : Option ℤ} {now : ℤ} {window : Duration}
    (hwindow : window.asSecs < 2 ^ 63) (h : expiresWithin exp now window = false) :
    ∃ e, exp = some e ∧ (window.asSecs : ℤ) < e - now := by
  cases exp with
  | none => cases h
  | some e =>
    rw [expiresWithin, decide_eq_false_iff_not, not_le, asI64_eq hwindow] at h
    exact ⟨e, rfl, lt_sub_of_lt_saturatingSubI64 (Int.natCast_nonneg _) h⟩

end ControlPlaneClient
