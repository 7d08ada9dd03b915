import ControlPlaneClient.Wire

/-!
# The plugin configuration

`config.rs`: the configuration of the plugin and how it is read and written. What serde derives is
written out over a tree of values, whatever format it has on disk. `humantime::parse_duration` is a
parameter.

Durations are written as whole seconds and read in any form that `humantime` knows.
-/

namespace ControlPlaneClient

/-- A duration that `std::time::Duration` can hold. -/
abbrev BoundedDuration := {d : Duration // d ≤ Duration.max}

def BoundedDuration.fromSecs (n : ℕ) (h : n < 2 ^ 64) : BoundedDuration :=
  ⟨Duration.ofSecs n, by
    have hmul : n * nanosPerSec ≤ (2 ^ 64 - 1) * nanosPerSec :=
      Nat.mul_le_mul_right _ (Nat.le_pred_of_lt h)
    exact hmul.trans (by decide)⟩

lemma BoundedDuration.asSecs_lt (d : BoundedDuration) : d.val.asSecs < 2 ^ 64 := by
  rw [Duration.asSecs, Nat.div_lt_iff_lt_mul (by decide)]
  exact Nat.lt_of_le_of_lt d.property (by decide)

namespace Config

/-! ### Values -/

/-- What the configuration is read from and written to. -/
inductive Value
  | str (s : String)
  | bool (b : Bool)
  | map (fields : List (String × Value))

inductive ConfigError
  | missingField (name : String)
  | unknownVariant (name : String)
  | invalidType
  | invalidDuration (text : String)
  deriving DecidableEq

abbrev Decoded := Except ConfigError

def Value.asStr : Value → Decoded String
  | .str s => .ok s
  | _      => .error .invalidType

def Value.asBool : Value → Decoded Bool
  | .bool b => .ok b
  | _       => .error .invalidType

def Value.asMap : Value → Decoded (List (String × Value))
  | .map fields => .ok fields
  | _           => .error .invalidType

variable {α : Type}

/-- A field that has to be there. -/
def required (fields : List (String × Value)) (name : String) (decode : Value → Decoded α) :
    Decoded α :=
  match fields.lookup name with
  | some v => decode v
  | none   => .error (.missingField name)

/-- A field with `#[serde(default)]`. -/
def defaulted (fields : List (String × Value)) (name : String) (default : α)
    (decode : Value → Decoded α) : Decoded α :=
  match fields.lookup name with
  | some v => decode v
  | none   => .ok default

/-! ### `humantime_serde` -/

namespace HumantimeSerde

def serialize (d : BoundedDuration) : Value := .str (toString d.val.asSecs ++ "s")

def deserialize (parse : String → Option BoundedDuration) (v : Value) : Decoded BoundedDuration := do
  let s ← v.asStr
  match parse s with
  | some d => .ok d
  | none   => .error (.invalidDuration s)

end HumantimeSerde

/-! ### The configuration -/

inductive EnrollmentSource
  | env (name : String)
  | file (path : String)
  | inline (url : String)
  deriving DecidableEq

def EnrollmentSource.serialize : EnrollmentSource → Value
  | .env name   => .map [("kind", .str "env"), ("name", .str name)]
  | .file path  => .map [("kind", .str "file"), ("path", .str path)]
  | .inline url => .map [("kind", .str "inline"), ("url", .str url)]

def EnrollmentSource.deserialize (v : Value) : Decoded EnrollmentSource := do
  let fields ← v.asMap
  let kind ← required fields "kind" Value.asStr
  if kind = "env" then .env <$> required fields "name" Value.asStr
  else if kind = "file" then .file <$> required fields "path" Value.asStr
  else if kind = "inline" then .inline <$> required fields "url" Value.asStr
  else .error (.unknownVariant kind)

structure Backoff where
  initial : BoundedDuration
  max     : BoundedDuration
  jitter  : Bool
  deriving DecidableEq

structure ControlPlaneClientConfig where
  endpoint   : String
  enrollment : EnrollmentSource
  stateDir   : String
  heartbeat  : BoundedDuration
  backoff    : Backoff
  deriving DecidableEq

def defaultStateDir : String := "/var/lib/mcpg/cp-client"
def defaultHeartbeat : BoundedDuration := .fromSecs 30 (by decide)
def defaultBackoffInitial : BoundedDuration := .fromSecs 1 (by decide)
def defaultBackoffMax : BoundedDuration := .fromSecs 60 (by decide)
def defaultBackoffJitter : Bool := true

/-- `Backoff::default`. -/
def Backoff.default : Backoff := ⟨defaultBackoffInitial, defaultBackoffMax, defaultBackoffJitter⟩

def Backoff.serialize (b : Backoff) : Value :=
  .map [("initial", HumantimeSerde.serialize b.initial), ("max", HumantimeSerde.serialize b.max),
    ("jitter", .bool b.jitter)]

def ControlPlaneClientConfig.serialize (c : ControlPlaneClientConfig) : Value :=
  .map [("endpoint", .str c.endpoint), ("enrollment", c.enrollment.serialize),
    ("state_dir", .str c.stateDir), ("heartbeat", HumantimeSerde.serialize c.heartbeat),
    ("backoff", c.backoff.serialize)]

section Humantime

variable (parse : String → Option BoundedDuration)

def Backoff.deserialize (v : Value) : Decoded Backoff := do
  let fields ← v.asMap
  let initial ← defaulted fields "initial" defaultBackoffInitial (HumantimeSerde.deserialize parse)
  let max ← defaulted fields "max" defaultBackoffMax (HumantimeSerde.deserialize parse)
  let jitter ← defaulted fields "jitter" defaultBackoffJitter Value.asBool
  return ⟨initial, max, jitter⟩

def ControlPlaneClientConfig.deserialize (v : Value) : Decoded ControlPlaneClientConfig := do
  let fields ← v.asMap
  let endpoint ← required fields "endpoint" Value.asStr
  let enrollment ← required fields "enrollment" EnrollmentSource.deserialize
  let stateDir ← defaulted fields "state_dir" defaultStateDir Value.asStr
  let heartbeat ← defaulted fields "heartbeat" defaultHeartbeat (HumantimeSerde.deserialize parse)
  let backoff ← defaulted fields "backoff" Backoff.default (Backoff.deserialize parse)
  return ⟨endpoint, enrollment, stateDir, heartbeat, backoff⟩

end Humantime

/-! ### A write and a read -/

/-- What is left of a duration that is written in whole seconds. -/
def truncated (d : BoundedDuration) : BoundedDuration := .fromSecs d.val.asSecs d.asSecs_lt

def WholeSeconds (d : BoundedDuration) : Prop := nanosPerSec ∣ d.val

instance (d : BoundedDuration) : Decidable (WholeSeconds d) := inferInstanceAs (Decidable (_ ∣ _))

lemma truncated_eq_iff (d : BoundedDuration) : truncated d = d ↔ WholeSeconds d := by
  rw [Subtype.ext_iff, WholeSeconds]
  exact (Nat.dvd_iff_div_mul_eq d.val nanosPerSec).symm

lemma EnrollmentSource.deserialize_serialize (e : EnrollmentSource) :
    deserialize e.serialize = .ok e := by
  cases e <;> rfl

section Humantime

variable {parse : String → Option BoundedDuration}
  (hparse : ∀ n (h : n < 2 ^ 64), parse (toString n ++ "s") = some (.fromSecs n h))

include hparse

lemma HumantimeSerde.deserialize_serialize (d : BoundedDuration) :
    deserialize parse (serialize d) = .ok (truncated d) := by
  simp only [deserialize, serialize, Value.asStr, bind, Except.bind, hparse _ d.asSecs_lt]
  rfl

lemma Backoff.deserialize_serialize (b : Backoff) :
    deserialize parse b.serialize = .ok ⟨truncated b.initial, truncated b.max, b.jitter⟩ := by
  have hinitial := HumantimeSerde.deserialize_serialize hparse b.initial
  have hmax := HumantimeSerde.deserialize_serialize hparse b.max
  simp [deserialize, serialize, Value.asMap, defaulted, List.lookup, hinitial, hmax, Value.asBool,
    bind, Except.bind, pure, Except.pure]

/-- A write and a read cut the durations to whole seconds and keep all else. -/
lemma ControlPlaneClientConfig.deserialize_serialize (c : ControlPlaneClientConfig) :
    deserialize parse c.serialize = .ok { c with
      heartbeat := truncated c.heartbeat
      backoff := ⟨truncated c.backoff.initial, truncated c.backoff.max, c.backoff.jitter⟩ } := by
  have hheartbeat := HumantimeSerde.deserialize_serialize hparse c.heartbeat
  have hbackoff := Backoff.deserialize_serialize hparse c.backoff
  have henrollment := c.enrollment.deserialize_serialize
  simp [deserialize, serialize, Value.asMap, Value.asStr, required, defaulted, List.lookup, hheartbeat,
    hbackoff, henrollment, bind, Except.bind, pure, Except.pure]

omit hparse in
/-- The three durations survive a write and a read exactly if they are whole seconds. -/
theorem durations_survive_iff (parse : String → Option BoundedDuration)
    (hparse : ∀ n (h : n < 2 ^ 64), parse (toString n ++ "s") = some (.fromSecs n h))
    (c : ControlPlaneClientConfig) :
    (∃ c', ControlPlaneClientConfig.deserialize parse c.serialize = .ok c' ∧
      c'.heartbeat = c.heartbeat ∧ c'.backoff.initial = c.backoff.initial ∧
      c'.backoff.max = c.backoff.max) ↔
    WholeSeconds c.heartbeat ∧ WholeSeconds c.backoff.initial ∧ WholeSeconds c.backoff.max := by
  rw [c.deserialize_serialize hparse]
  simp only [Except.ok.injEq, exists_eq_left', truncated_eq_iff]

end Humantime

/-! ### Samples -/

/-- `humantime` on a number of seconds. -/
def readSeconds (s : String) : Option BoundedDuration :=
  match s.toList.reverse with
  | 's' :: digits =>
    (String.ofList digits.reverse).toNat?.bind fun n =>
      if h : n < 2 ^ 64 then some (.fromSecs n h) else none
  | _ => none

lemma readSeconds_toString (n : ℕ) (h : n < 2 ^ 64) :
    readSeconds (toString n ++ "s") = some (.fromSecs n h) := by
  have hrev : (toString n ++ "s").toList.reverse = 's' :: (toString n).toList.reverse := by
    simp [String.toList_append]
  have hnat : (toString n).toNat? = some n := Nat.toNat?_repr n
  rw [readSeconds, hrev]
  simp only [List.reverse_reverse, String.ofList_toList, hnat, Option.bind_some, dif_pos h]

def sampleConfig (initial : BoundedDuration) : ControlPlaneClientConfig :=
  ⟨"https://cp.example", .env "MCPG_ENROLLMENT_URL", defaultStateDir, defaultHeartbeat,
    ⟨initial, defaultBackoffMax, true⟩⟩

theorem durations_survive_default :
    ∃ c', ControlPlaneClientConfig.deserialize readSeconds
        (sampleConfig defaultBackoffInitial).serialize = .ok c' ∧
      c'.heartbeat = defaultHeartbeat ∧ c'.backoff.initial = defaultBackoffInitial ∧
      c'.backoff.max = defaultBackoffMax :=
  (durations_survive_iff readSeconds readSeconds_toString (sampleConfig defaultBackoffInitial)).mpr
    (by decide)

/-- Half a second, a `humantime` string that the configuration may hold, is written as no time. -/
theorem half_second_becomes_zero :
    let half : BoundedDuration := ⟨Duration.ofMillis 500, by decide⟩
    ∃ c', ControlPlaneClientConfig.deserialize readSeconds (sampleConfig half).serialize = .ok c' ∧
      c'.backoff.initial.val = 0 ∧
      ¬ ∃ c', ControlPlaneClientConfig.deserialize readSeconds (sampleConfig half).serialize = .ok c' ∧
        c'.heartbeat = (sampleConfig half).heartbeat ∧
        c'.backoff.initial = (sampleConfig half).backoff.initial ∧
        c'.backoff.max = (sampleConfig half).backoff.max := by
  intro half
  have hread := (sampleConfig half).deserialize_serialize readSeconds_toString
  refine ⟨_, hread, by decide, ?_⟩
  rintro ⟨c', hc', -, hinitial, -⟩
  rw [hread] at hc'
  cases hc'
  have hval := congrArg Subtype.val hinitial
  revert hval
  decide

end Config

end ControlPlaneClient
