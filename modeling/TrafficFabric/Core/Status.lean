import TrafficFabric.Library.Enumeration

/-
  Status codes and fallible results.
-/

namespace TrafficFabric

/- Deterministic outcome codes. -/
inductive StatusCode
| ok
| invalidArgument
| outOfRange
| notFound
| alreadyExists
| boundsExceeded
| integrityMismatch
| malformedInput
| trailingGarbage
| unsupportedVersion
| unsupported
| staleGeneration
| staleEpoch
| staleAuthority
| cancelled
| conflict
| notAuthorized
| capacityExhausted
| invalidTransition
| policyInvalid
| evidenceUnknown
| evidenceStale
| revalidationRequired
| replayRejected
| closed
| shuttingDown
| ioError
| internal
| duplicateIgnored
| refused
deriving DecidableEq, Inhabited

instance : Enumeration StatusCode where
  listed :=
    [.ok, .invalidArgument, .outOfRange, .notFound,
      .alreadyExists, .boundsExceeded, .integrityMismatch,
      .malformedInput, .trailingGarbage,
      .unsupportedVersion, .unsupported, .staleGeneration,
      .staleEpoch, .staleAuthority, .cancelled, .conflict,
      .notAuthorized, .capacityExhausted,
      .invalidTransition, .policyInvalid, .evidenceUnknown,
      .evidenceStale, .revalidationRequired,
      .replayRejected, .closed, .shuttingDown, .ioError,
      .internal, .duplicateIgnored, .refused]

/- The text a code is printed as. -/
def StatusCode.label : StatusCode → String
| .ok => "OK"
| .invalidArgument => "INVALID_ARGUMENT"
| .outOfRange => "OUT_OF_RANGE"
| .notFound => "NOT_FOUND"
| .alreadyExists => "ALREADY_EXISTS"
| .boundsExceeded => "BOUNDS_EXCEEDED"
| .integrityMismatch => "INTEGRITY_MISMATCH"
| .malformedInput => "MALFORMED_INPUT"
| .trailingGarbage => "TRAILING_GARBAGE"
| .unsupportedVersion => "UNSUPPORTED_VERSION"
| .unsupported => "UNSUPPORTED"
| .staleGeneration => "STALE_GENERATION"
| .staleEpoch => "STALE_EPOCH"
| .staleAuthority => "STALE_AUTHORITY"
| .cancelled => "CANCELLED"
| .conflict => "CONFLICT"
| .notAuthorized => "NOT_AUTHORIZED"
| .capacityExhausted => "CAPACITY_EXHAUSTED"
| .invalidTransition => "INVALID_TRANSITION"
| .policyInvalid => "POLICY_INVALID"
| .evidenceUnknown => "EVIDENCE_UNKNOWN"
| .evidenceStale => "EVIDENCE_STALE"
| .revalidationRequired => "REVALIDATION_REQUIRED"
| .replayRejected => "REPLAY_REJECTED"
| .closed => "CLOSED"
| .shuttingDown => "SHUTTING_DOWN"
| .ioError => "IO_ERROR"
| .internal => "INTERNAL"
| .duplicateIgnored => "DUPLICATE_IGNORED"
| .refused => "REFUSED"

/- A failure: its code and its diagnostic text. -/
structure Status where
  code : StatusCode
  message : String
deriving DecidableEq

/- The text a failure is printed as. -/
def Status.toString (status : Status) : String :=
  if status.message.isEmpty then status.code.label
  else status.code.label ++ ": " ++ status.message

/- Either a value or a failure. -/
abbrev Result (α : Type) :=
  Except Status α

end TrafficFabric

namespace Except

variable {ε α β : Type}

/- A guarded computation succeeds behind its guard. -/
theorem guard_eq_ok_iff (guard : Prop) [Decidable guard]
    (failure : ε) (rest : Except ε α) (value : α) :
    (if guard then .error failure else rest) = .ok value ↔ ¬ guard ∧ rest = .ok value := by
  by_cases hGuard : guard
  · simp [hGuard]
  · simp [hGuard]

/- A sequence succeeds when both of its parts do. -/
theorem bind_eq_ok_iff (first : Except ε α) (next : α → Except ε β) (value : β) :
    (first >>= next) = .ok value ↔ ∃ middle, first = .ok middle ∧ next middle = .ok value := by
  cases first with
  | error | ok => simp [bind, Except.bind]

/- A sequence fails where its first failing part does. -/
theorem bind_eq_error_iff (first : Except ε α) (next : α → Except ε β) (failure : ε) :
    (first >>= next) = .error failure ↔
      first = .error failure ∨ ∃ middle, first = .ok middle ∧ next middle = .error failure := by
  cases first with
  | error | ok => simp [bind, Except.bind]

/- A check in front of a computation has to pass. -/
theorem check_bind_eq_ok_iff (check : Except ε Unit) (next : Unit → Except ε β) (value : β) :
    (check >>= next) = .ok value ↔ check = .ok () ∧ next () = .ok value := by
  cases check with
  | error | ok => simp [bind, Except.bind]

/- A loop of checks passes when every check passes. -/
theorem forM_eq_ok_iff (check : α → Except ε Unit) (items : List α) :
    items.forM check = .ok () ↔ ∀ item ∈ items, check item = .ok () := by
  induction items with
  | nil => simp [pure, Except.pure]
  | cons item rest ih =>
    change (check item >>= fun _ => rest.forM check) = .ok () ↔ _
    rw [check_bind_eq_ok_iff, ih]
    simp

/- A loop of checks fails where one of them does. -/
theorem exists_of_forM_eq_error {check : α → Except ε Unit} {items : List α} {failure : ε}
    (hFails : items.forM check = .error failure) : ∃ item ∈ items, check item = .error failure := by
  induction items with
  | nil => cases hFails
  | cons item rest ih =>
    rcases (bind_eq_error_iff _ _ _).mp hFails with hFirst | ⟨-, -, hRest⟩
    · exact ⟨item, by simp, hFirst⟩
    · rcases ih hRest with ⟨later, hMem, hLater⟩
      exact ⟨later, by simp [hMem], hLater⟩

end Except

namespace TrafficFabric

namespace Result

variable {α : Type}
variable (code : StatusCode) (message : String)

/- A failure with the given code and text. -/
def failure (code : StatusCode) (message : String) : Result α :=
  .error ⟨code, message⟩

@[simp] theorem isOk_ok (value : α) :
    (.ok value : Result α).isOk = true := rfl

@[simp] theorem isOk_error (status : Status) :
    (.error status : Result α).isOk = false := rfl

@[simp] theorem isOk_failure :
    (failure code message : Result α).isOk = false := rfl

@[simp] theorem failure_ne_ok (value : α) : (failure code message : Result α) ≠ .ok value := by
  intro hEq
  cases hEq

/- A guarded result is a success behind its guard. -/
theorem guard_eq_ok_iff (guard : Prop) [Decidable guard]
    (code : StatusCode) (message : String) (rest : Result α) (value : α) :
    (if guard then failure code message else rest) = .ok value ↔ ¬ guard ∧ rest = .ok value :=
  Except.guard_eq_ok_iff guard (Status.mk code message) rest value

/- A guard that fails otherwise was passed. -/
theorem guard_eq_failure_iff (guard : Prop) [Decidable guard] {code other : StatusCode}
    (hCode : code ≠ other) (message text : String) (rest : Result α) :
    (if guard then failure code message else rest) = failure other text ↔
      ¬ guard ∧ rest = failure other text := by
  by_cases hGuard : guard
  · simp [hGuard, failure, hCode]
  · simp [hGuard]

theorem isOk_iff_exists (result : Result α) : result.isOk = true ↔ ∃ value, result = .ok value := by
  cases result with
  | ok | error => simp

end Result

end TrafficFabric
