import BhDic.Dic.PlaywrightAdapter
import BhDic.Policies.Catalog

/-!
# The DIC service

The last checks of a claimed action before it reaches the adapter.
-/

namespace BhDic.Dic

open BhDic.Approvals BhDic.Library BhDic.Policies BhDic.Python
open BhDic.Library.Prog (require)

/-- The checks `_build_prepared` makes of the action alone, by what it is built for. -/
def requireEligible (pending : PendingAction) (forExecution : Bool) : Boundary Unit :=
  if forExecution then do
    read (.requireEnabled pending.functionId)
    require (pending.status = .executing)
      ⟨.dicApprovalError, "action must be atomically claimed as EXECUTING first"⟩
    let now ← read .clock
    require (now < pending.expiresAt) ⟨.dicApprovalError, "approved action is expired"⟩
  else
    require (pending.status ∈ [.executing, .unknownRequiresReconciliation])
      ⟨.dicApprovalError, "action is not eligible for reconciliation"⟩

/-- `_build_prepared`. -/
def buildPrepared (pending : PendingAction) (parameters : Parameters) (forExecution : Bool) :
    Boundary PreparedAction := do
  requireEligible pending forExecution
  require (pending.confirmed = true)
    ⟨.dicApprovalError, "action confirmation has not been consumed"⟩
  require (pending.approvalsRequired ≤ pending.approvedBy.dedup.length)
    ⟨.dicApprovalError, "action does not have enough distinct approvers"⟩
  match getFunctionSpec pending.functionId with
  | none => .throw ⟨.dicValidationError, "unknown DIC Function ID"⟩
  | some spec =>
      require (pending.approvalsRequired = spec.approvalsRequired)
        ⟨.dicInvalidPreparedActionError, "approval requirement differs from policy catalog"⟩
      require (spec.requiresTarget = true → pending.targetEmployeeId ≠ none)
        ⟨.dicInvalidPreparedActionError, "approved action has no stable employee target"⟩
      let validated ← read (.catalogValidatedParameters pending parameters)
      let prepared : PreparedAction := {
        actionId := pending.actionId
        functionId := pending.functionId
        employeeId := pending.targetEmployeeId
        parameters := validated
        idempotencyKey := pending.idempotencyKey
        correlationId := pending.correlationId
        requiredApprovals := pending.approvalsRequired
        createdAt := pending.createdAt
        expiresAt := pending.expiresAt }
      read (.validate prepared)
      return prepared

/-- `DicService.execute`. -/
def execute (adapter : DicAdapter) (pending : PendingAction) (parameters : Parameters) :
    Boundary ExecutionResult := do
  let prepared ← buildPrepared pending parameters true
  adapter.executePrepared prepared

/-- `DicService.reconcile`. -/
def reconcilePending (adapter : DicAdapter) (pending : PendingAction) (parameters : Parameters) :
    Boundary ReconciliationResult := do
  let prepared ← buildPrepared pending parameters false
  adapter.reconcile prepared

end BhDic.Dic
