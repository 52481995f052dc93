import ThrevoActions.Models

/-!
# Exceptions

The exceptions the modelled code raises, catches or lets through. Where the source tells
exceptions apart only by their Python class (`except (KeyError, ValueError)`), the class relation
is the predicate below; messages are kept where a caller can observe them.
-/

namespace ThrevoActions

inductive Exn
  /-- `asyncio.CancelledError`, a `BaseException` that is not an `Exception`. -/
  | cancelled
  | keyError
  | valueError (message : String)
  /-- `pydantic.ValidationError`, a `ValueError`. -/
  | validationError
  /-- `CanonicalizationError`, a `ValueError`. -/
  | canonicalization (message : String)
  /-- `UnicodeEncodeError`, a `ValueError`. -/
  | unicodeEncode
  | proposalNotFound
  | authorizationDenied (reasonCode : String)
  /-- `InvalidAuthorityEvidenceError`, a `ValueError`. -/
  | invalidAuthorityEvidence (message : String)
  | invalidActionResult (message : String)
  | retentionStoreUnavailable (message : String)
  | proposalPersistenceOutcomeUnknown (proposalIdentity : ProposalIdentity)
  | proposalAlreadyExists
  | storeInvariant (message : String)
  | stripeBoundary (message : String)
  | stripePostgresHost (message : String)
  /-- Any other exception of host code, by class name. -/
  | host (className : String)
  deriving DecidableEq, Repr

namespace Exn

/-- `isinstance(exc, (KeyError, ValueError))`. -/
def isKeyOrValueError : Exn → Bool
  | .keyError | .valueError _ | .validationError | .canonicalization _ | .unicodeEncode
  | .invalidAuthorityEvidence _ => true
  | _ => false

/-- `isinstance(exc, Exception)`. -/
def isException : Exn → Bool
  | .cancelled => false
  | _ => true

end Exn

/-- A sequence succeeds exactly when both its parts do. -/
theorem Except.bind_eq_ok {ε α β : Type} {x : Except ε α} {f : α → Except ε β} {b : β} :
    x >>= f = .ok b ↔ ∃ a, x = .ok a ∧ f a = .ok b := by
  cases x with
  | error e => simp [bind, Except.bind]
  | ok a => simp [bind, Except.bind]

end ThrevoActions
