import BhDic.Library.Json
import BhDic.Python.DateTime

/-!
# Approval models

The record one pending write is, and its statuses.
-/

namespace BhDic.Approvals

open BhDic.Library BhDic.Python

inductive ActionStatus
  | pending | partiallyApproved | approved | executing | succeeded | failed | rejected | expired
  | stale | unknownRequiresReconciliation | reconciledNotApplied
  deriving DecidableEq, Repr

def ActionStatus.value : ActionStatus → String
  | .pending => "PENDING"
  | .partiallyApproved => "PARTIALLY_APPROVED"
  | .approved => "APPROVED"
  | .executing => "EXECUTING"
  | .succeeded => "SUCCEEDED"
  | .failed => "FAILED"
  | .rejected => "REJECTED"
  | .expired => "EXPIRED"
  | .stale => "STALE"
  | .unknownRequiresReconciliation => "UNKNOWN_REQUIRES_RECONCILIATION"
  | .reconciledNotApplied => "RECONCILED_NOT_APPLIED"

def ActionStatus.all : List ActionStatus :=
  [.pending, .partiallyApproved, .approved, .executing, .succeeded, .failed, .rejected, .expired,
    .stale, .unknownRequiresReconciliation, .reconciledNotApplied]

/-- `ActionStatus(value)`. -/
def ActionStatus.ofValue (value : String) : Except Exn ActionStatus :=
  match ActionStatus.all.find? (fun status => status.value == value) with
  | some status => .ok status
  | none => .error ⟨.valueError, "'" ++ value ++ "' is not a valid ActionStatus"⟩

/-- The value a status is stored as reads back as that status. -/
@[simp] theorem ActionStatus.ofValue_value (status : ActionStatus) :
    ActionStatus.ofValue status.value = .ok status := by
  cases status <;> rfl

/-- `TERMINAL_STATUSES`. -/
def terminalStatuses : List ActionStatus :=
  [.succeeded, .failed, .rejected, .expired, .stale, .reconciledNotApplied]

/-- The statuses in which an action can still be confirmed, approved, rejected or expired. -/
def activeStatuses : List ActionStatus := [.pending, .partiallyApproved, .approved]

/-- The statuses that presuppose a claim of the idempotency key. -/
def executionStatuses : List ActionStatus :=
  [.executing, .succeeded, .failed, .unknownRequiresReconciliation, .reconciledNotApplied]

/-- The statuses that say how an execution ended. -/
def outcomeStatuses : List ActionStatus := [.succeeded, .failed, .reconciledNotApplied]

abbrev Bytes := List UInt8

structure ApprovalRecord where
  approverId : String
  approvedAt : Instant
  deriving DecidableEq, Repr

/-- One pending write. -/
structure PendingAction where
  actionId : String
  correlationId : String
  functionId : String
  requesterId : String
  guildId : String
  channelId : String
  targetEmployeeId : Option String
  encryptedParameters : Bytes
  redactedDiff : List (String × Json)
  motivation : Option String
  stateFingerprint : String
  status : ActionStatus
  createdAt : Instant
  expiresAt : Instant
  approvalsRequired : Nat
  approvals : List ApprovalRecord
  confirmationSalt : Bytes
  confirmationDigest : Bytes
  confirmationConsumedAt : Option Instant
  idempotencyKey : String
  executionResult : Option String := none
  postconditionResult : Option String := none
  rejectionReason : Option String := none
  rejectedBy : Option String := none
  rejectedAt : Option Instant := none
  version : Nat := 1

def PendingAction.confirmed (a : PendingAction) : Bool := a.confirmationConsumedAt.isSome

def PendingAction.approvedBy (a : PendingAction) : List String := a.approvals.map (·.approverId)

/-- What `prepare` returns: the only place the confirmation code exists. -/
structure PreparedAction where
  action : PendingAction
  confirmationCode : String
  requiredTextConfirmation : Option String

/-! ## Equality up to the order of approvals -/

/-- `b` is `a` with its approvals in some order. A store that keeps approvals as rows returns
them in an order of its own. -/
def PendingAction.SameUpToOrder (a b : PendingAction) : Prop :=
  ∃ approvals, approvals.Perm a.approvals ∧ b = { a with approvals := approvals }

namespace PendingAction.SameUpToOrder

theorem refl (a : PendingAction) : a.SameUpToOrder a := ⟨_, List.Perm.refl _, rfl⟩

theorem symm {a b : PendingAction} : a.SameUpToOrder b → b.SameUpToOrder a := by
  rintro ⟨approvals, hperm, rfl⟩
  exact ⟨a.approvals, hperm.symm, rfl⟩

theorem trans {a b c : PendingAction} : a.SameUpToOrder b → b.SameUpToOrder c →
    a.SameUpToOrder c := by
  rintro ⟨l, hl, rfl⟩ ⟨m, hm, rfl⟩
  exact ⟨m, hm.trans hl, rfl⟩

theorem perm {a b : PendingAction} : a.SameUpToOrder b → b.approvals.Perm a.approvals := by
  rintro ⟨approvals, hperm, rfl⟩
  exact hperm

theorem actionId {a b : PendingAction} : a.SameUpToOrder b → b.actionId = a.actionId := by
  rintro ⟨_, _, rfl⟩
  rfl

theorem idempotencyKey {a b : PendingAction} : a.SameUpToOrder b →
    b.idempotencyKey = a.idempotencyKey := by
  rintro ⟨_, _, rfl⟩
  rfl

theorem version {a b : PendingAction} : a.SameUpToOrder b → b.version = a.version := by
  rintro ⟨_, _, rfl⟩
  rfl

theorem status {a b : PendingAction} : a.SameUpToOrder b → b.status = a.status := by
  rintro ⟨_, _, rfl⟩
  rfl

end PendingAction.SameUpToOrder

end BhDic.Approvals
