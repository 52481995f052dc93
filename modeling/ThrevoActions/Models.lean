import Mathlib.Data.Nat.Notation
import Mathlib.Data.Int.Notation
import Mathlib.Tactic.Common

/-!
# Framework-neutral action boundary models

The vocabulary shared by every other module: action types, proposal identities, the closed
lifecycle and the participants of an action. The names are those of `models.py`; a participant's
literal `kind` is its Lean type.

Timestamps are aware datetimes, compared as instants: a timestamp is its number of microseconds
since the epoch, a duration a number of microseconds.
-/

namespace ThrevoActions

/-- A syntactically constrained reference. Only its identity matters to the runtime. -/
abbrev SafeReference := String

/-- An aware datetime, as microseconds since the epoch. -/
abbrev Timestamp := ℤ

/-- A timedelta, in microseconds. -/
abbrev Duration := ℤ

/-- The declared shape of an effect. -/
inductive EffectKind
  | single
  | itemized
  deriving DecidableEq, Repr

/-- A host-defined action name with an explicit contract version. -/
structure ActionType where
  actionNamespace : String
  name : String
  version : ℕ
  version_pos : 1 ≤ version
  deriving DecidableEq

/-- Complete tenant-scoped identity of a durable action proposal. -/
structure ProposalIdentity where
  tenantReference : SafeReference
  proposalReference : SafeReference
  deriving DecidableEq, Repr

/-- Closed lifecycle vocabulary for proposal execution and verification. -/
inductive LifecycleStatus
  | awaitingAuthority
  | denied
  | expired
  | authorized
  | blocked
  | stale
  | superseded
  | executing
  | failedKnown
  | failedUnknown
  | verificationPending
  | verificationUnresolved
  | partiallySucceeded
  | verified
  deriving DecidableEq, Repr

/-- The enumeration values of the source, used in messages. -/
def LifecycleStatus.value : LifecycleStatus → String
  | .awaitingAuthority => "awaiting_authority"
  | .denied => "denied"
  | .expired => "expired"
  | .authorized => "authorized"
  | .blocked => "blocked"
  | .stale => "stale"
  | .superseded => "superseded"
  | .executing => "executing"
  | .failedKnown => "failed_known"
  | .failedUnknown => "failed_unknown"
  | .verificationPending => "verification_pending"
  | .verificationUnresolved => "verification_unresolved"
  | .partiallySucceeded => "partially_succeeded"
  | .verified => "verified"

structure RequestingPrincipal where
  reference : SafeReference
  deriving DecidableEq, Repr

structure ProposingAgent where
  reference : SafeReference
  deriving DecidableEq, Repr

structure ConfirmingAuthority where
  reference : SafeReference
  deriving DecidableEq, Repr

structure GovernedExecutor where
  reference : SafeReference
  deriving DecidableEq, Repr

structure AuthoritativeTarget where
  reference : SafeReference
  deriving DecidableEq, Repr

structure EvidenceConsumer where
  reference : SafeReference
  deriving DecidableEq, Repr

/-- Trusted host operator who authorizes another observation after review. -/
structure RecoveryOperator where
  reference : SafeReference
  deriving DecidableEq, Repr

end ThrevoActions
