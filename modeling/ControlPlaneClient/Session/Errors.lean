import ControlPlaneClient.Lib.Decimal
import ControlPlaneClient.Session.RunLoop

/-!
# The errors of a session

`describe_session_error`, `slot_retry_in` and `is_credential_rejection` of `agent.rs`: how `run_loop`
tells apart what ended a session. An error is the chain of its causes, the outermost first, and the
first gRPC status in the chain decides. The name of the header with the retry time is declared in
`mcpg-control-plane-core` and is a parameter.
-/

namespace ControlPlaneClient

/-- `tonic::Code`. -/
inductive Code
  | ok | cancelled | unknown | invalidArgument | deadlineExceeded | notFound | alreadyExists
  | permissionDenied | resourceExhausted | failedPrecondition | aborted | outOfRange | unimplemented
  | internal | unavailable | dataLoss | unauthenticated
  deriving DecidableEq

/-- The name of a code, as it is printed for debugging. -/
def Code.debug : Code → String
  | .ok                 => "Ok"
  | .cancelled          => "Cancelled"
  | .unknown            => "Unknown"
  | .invalidArgument    => "InvalidArgument"
  | .deadlineExceeded   => "DeadlineExceeded"
  | .notFound           => "NotFound"
  | .alreadyExists      => "AlreadyExists"
  | .permissionDenied   => "PermissionDenied"
  | .resourceExhausted  => "ResourceExhausted"
  | .failedPrecondition => "FailedPrecondition"
  | .aborted            => "Aborted"
  | .outOfRange         => "OutOfRange"
  | .unimplemented      => "Unimplemented"
  | .internal           => "Internal"
  | .unavailable        => "Unavailable"
  | .dataLoss           => "DataLoss"
  | .unauthenticated    => "Unauthenticated"

/-- `tonic::Status`. -/
structure Status where
  code     : Code
  message  : String
  metadata : List (String × Bytes)
  deriving DecidableEq

/-- One error of a chain, with what it prints as when it is not a status. -/
inductive Cause
  | status (s : Status)
  | other (text : String)
  deriving DecidableEq

def Cause.status? : Cause → Option Status
  | .status s => some s
  | .other _  => none

/-- `anyhow::Error`: the outermost error and the causes under it. -/
structure AnyError where
  error  : Cause
  causes : List Cause
  deriving DecidableEq

namespace AnyError

def chain (e : AnyError) : List Cause := e.error :: e.causes

/-- `anyhow::Error::context`. -/
def context (e : AnyError) (text : String) : AnyError := ⟨.other text, e.chain⟩

/-- The first status in the chain. -/
def status? (e : AnyError) : Option Status := e.chain.findSome? Cause.status?

/-- What an error prints as that is no status itself. -/
def text (e : AnyError) : String :=
  match e.error with
  | .other text => text
  | .status s   => s.message

end AnyError

/-- `HeaderValue::to_str`: visible ASCII and tabs. -/
def headerText (value : Bytes) : Option (List Char) :=
  if value.all fun b => (32 ≤ b && b < 127) || b == 9 then
    some (value.map fun b => Char.ofNat b.toNat)
  else none

/-- The disconnect reason an operator sees. -/
def describeSessionError (e : AnyError) : String :=
  match e.status? with
  | some s => s.code.debug ++ ": " ++ s.message
  | none   => e.text

/-- The longest a refused Channel waits for its instance's slot. -/
def maxSlotRetry : Duration := Duration.ofSecs 125

/-- Past the time the control plane names, so the retry lands after the slot frees. -/
def slotRetryMargin : Duration := Duration.ofMillis 250

/-- The time that a status names, in milliseconds. -/
def Status.retryAfter (header : String) (s : Status) : Option ℕ := do
  let value ← s.metadata.lookup header
  let text ← headerText value
  Decimal.parse (2 ^ 64) (Decimal.trim text)

/-- Just after the time that a status names, or the longest wait when it names none. -/
def Status.slotFreesIn (header : String) (s : Status) : Duration :=
  (s.retryAfter header).elim maxSlotRetry fun freesIn =>
    min (Duration.ofMillis freesIn + slotRetryMargin) maxSlotRetry

/-- When to open the Channel again after it was refused because another one of the instance holds the
slot. `none` for any other error. -/
def slotRetryIn (header : String) (e : AnyError) : Option Duration := do
  let s ← e.status?
  if s.code ≠ .alreadyExists then none
  else some (s.slotFreesIn header)

/-- `str::contains`. -/
def mentions (text part : List Char) : Bool := decide (part <:+: text)

/-- Whether the control plane refused the presented instance credentials. -/
def isCredentialRejection (e : AnyError) : Bool :=
  match e.status? with
  | none   => false
  | some s =>
    match s.code with
    | .unauthenticated  => true
    | .permissionDenied =>
      let message := s.message.toList.map Char.toLower
      mentions message "instance-token".toList || mentions message "instance token".toList
    | _ => false

/-- The branch that `run_loop` takes. -/
def sessionError (header : String) (e : AnyError) : SessionError :=
  if isCredentialRejection e then .rejected
  else if (slotRetryIn header e).isSome then .slotHeld
  else .other

/-! ### Context -/

section Context

variable (header : String) (e : AnyError)

@[simp] lemma status?_context (text : String) : (e.context text).status? = e.status? := rfl

lemma slotRetryIn_context (text : String) :
    slotRetryIn header (e.context text) = slotRetryIn header e := by
  rw [slotRetryIn, status?_context, slotRetryIn]

lemma isCredentialRejection_context (text : String) :
    isCredentialRejection (e.context text) = isCredentialRejection e := by
  rw [isCredentialRejection, status?_context, isCredentialRejection]

/-- Context put around an error does not change what is made of it. -/
lemma sessionError_context (text : String) :
    sessionError header (e.context text) = sessionError header e := by
  rw [sessionError, isCredentialRejection_context, slotRetryIn_context, sessionError]

/-- The reason names the status, however deep it lies. -/
lemma describeSessionError_context (text : String) (h : e.status?.isSome) :
    describeSessionError (e.context text) = describeSessionError e := by
  obtain ⟨s, hs⟩ := Option.isSome_iff_exists.mp h
  rw [describeSessionError, describeSessionError, status?_context, hs]

end Context

/-! ### The slot -/

section Slot

variable {header : String} {e : AnyError} {d : Duration}

lemma slotRetryIn_eq_some_iff :
    slotRetryIn header e = some d ↔
      ∃ s, e.status? = some s ∧ s.code = .alreadyExists ∧ s.slotFreesIn header = d := by
  rw [slotRetryIn]
  cases hs : e.status? with
  | none => simp
  | some s =>
    by_cases hcode : s.code = .alreadyExists
    · simp [hcode]
    · simp [hcode]

/-- A held slot is never taken for rejected credentials. -/
lemma sessionError_of_slotRetryIn (h : slotRetryIn header e = some d) :
    sessionError header e = .slotHeld := by
  obtain ⟨s, hs, hcode, -⟩ := slotRetryIn_eq_some_iff.mp h
  have hrejected : isCredentialRejection e = false := by
    simp [isCredentialRejection, hs, hcode]
  simp [sessionError, hrejected, h]

lemma sessionError_eq_slotHeld_iff :
    sessionError header e = .slotHeld ↔ ∃ d, slotRetryIn header e = some d := by
  constructor
  · intro h
    rw [sessionError] at h
    split at h
    · cases h
    · split at h
      · next hsome => exact Option.isSome_iff_exists.mp hsome
      · cases h
  · rintro ⟨d, hd⟩
    exact sessionError_of_slotRetryIn hd

lemma slotRetryMargin_pos : 0 < slotRetryMargin := by decide

lemma slotRetryMargin_le : slotRetryMargin ≤ maxSlotRetry := by decide

lemma slotFreesIn_le (header : String) (s : Status) : s.slotFreesIn header ≤ maxSlotRetry := by
  rw [Status.slotFreesIn]
  -- As numerals the durations would be counted down one by one.
  generalize maxSlotRetry = longest
  cases s.retryAfter header with
  | none => exact le_rfl
  | some freesIn =>
    rw [Option.elim_some]
    exact Nat.min_le_right _ _

lemma margin_le_slotFreesIn (header : String) (s : Status) :
    slotRetryMargin ≤ s.slotFreesIn header := by
  have hmargin := slotRetryMargin_le
  rw [Status.slotFreesIn]
  generalize slotRetryMargin = margin at hmargin ⊢
  generalize maxSlotRetry = longest at hmargin ⊢
  cases s.retryAfter header with
  | none => exact hmargin
  | some freesIn =>
    rw [Option.elim_some]
    exact Nat.le_min.mpr ⟨Nat.le_add_left _ _, hmargin⟩

/-- The wait is past the time that the control plane names, unless that is too long to wait. -/
lemma named_lt_slotFreesIn {s : Status} {freesIn : ℕ} (h : s.retryAfter header = some freesIn)
    (hshort : Duration.ofMillis freesIn < maxSlotRetry) :
    Duration.ofMillis freesIn < s.slotFreesIn header := by
  have hmargin := slotRetryMargin_pos
  rw [Status.slotFreesIn, h, Option.elim_some]
  generalize slotRetryMargin = margin at hmargin ⊢
  generalize maxSlotRetry = longest at hshort ⊢
  exact Nat.lt_min.mpr ⟨Nat.lt_add_of_pos_right hmargin, hshort⟩

end Slot

end ControlPlaneClient
