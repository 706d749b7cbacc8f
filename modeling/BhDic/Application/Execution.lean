import BhDic.Approvals.Service
import BhDic.Dic.Service

/-!
# Executing an approved write

`BHApplicationCoordinator.approve` and everything it runs once an action is approved. The programs
call the approval repository and the boundary; the two locks of the source are left out, so that
executions of any actions interleave between their calls. What `asyncio` cancels is an exception
that is no `Exception`, or a program that stops.
-/

namespace BhDic.Application

open BhDic.Approvals BhDic.Audit BhDic.Dic BhDic.Library BhDic.Policies BhDic.Python
open BhDic.Library.Prog (require ofExcept attempt)

abbrev executionEffect : Effect := repositoryEffect.sum boundaryEffect

abbrev Execution (α : Type) := Prog executionEffect Exn α

/-- A method of the approval service. -/
def approvals {α : Type} (p : Approval α) : Execution α := p.inl

/-- A call on the boundary. -/
def boundary {α : Type} (p : Boundary α) : Execution α := p.inr

/-- What the coordinator is built with. `jsonDumps` is `json.dumps(value, sort_keys=True)`. -/
structure Coordinator where
  approvals : ApprovalService
  adapter : DicAdapter
  jsonDumps : Json → String

structure ResponseAttachment where
  filename : String
  contentType : String
  content : Bytes

structure InteractionResult where
  title : String
  description : String
  correlationId : Option String := none
  actionId : Option String := none
  attachments : List ResponseAttachment := []
  success : Bool := true

/-- `_execution_parameters`. -/
def executionParametersOf (functionId : String) (parameters : Parameters) : Boundary Parameters :=
  if functionId ≠ "EMP-DOC-002" then return parameters else read (.claimCleanUpload parameters)

/-- `_persist_uncertain_and_reconcile`. -/
def persistUncertainAndReconcile (c : Coordinator) (action : PendingAction)
    (executionParameters : Parameters) (result : String) : Execution PendingAction := do
  let uncertain ← approvals (completeFailure action.actionId result true)
  match ← (boundary (reconcilePending c.adapter uncertain executionParameters)).attempt with
  | .error e => if e.isA .exception then return uncertain else .throw e
  | .ok reconciliation =>
      -- A reading that the write is not applied is never final.
      if reconciliation.state ≠ .confirmedApplied then return uncertain
      else
        match ← (approvals (reconcile action.actionId true reconciliation.detail)).attempt with
        | .ok completed => return completed
        | .error e => if e.isA .exception then return uncertain else .throw e

/-- The handlers around the execution itself. -/
def onExecutionError (c : Coordinator) (action : PendingAction) (executionParameters : Parameters)
    (generatedExport : Option GeneratedExport) (e : Exn) :
    Execution (PendingAction × Option GeneratedExport) :=
  if e.isA .dicAmbiguousWriteOutcomeError || e.isA .dicReconciliationRequiredError then do
    let completed ← persistUncertainAndReconcile c action executionParameters
      "write outcome uncertain; reconciliation required"
    return (completed, generatedExport)
  else if e.isA .exception then do
    let _ ← approvals (completeFailure action.actionId
      "deterministic execution failed before a verified result" false)
    .throw e
  else .throw e

def claimedForOperator : Exn :=
  ⟨.applicationError, "verified write outcome remains claimed for operator reconciliation"⟩

/-- `result.model_dump(mode="json")`. -/
def modelDump (result : ExecutionResult) : Json :=
  .obj [("action_id", .str result.actionId), ("function_id", .str result.functionId),
    ("status", .str result.status.value), ("changed", .bool result.changed),
    ("postcondition_verified", .bool result.postconditionVerified),
    ("message", .str result.message), ("correlation_id", .str result.correlationId),
    ("details", .obj result.details)]

/-- The `else` of the execution: the adapter has returned a result, which is to be recorded. -/
def recordResult (c : Coordinator) (action : PendingAction) (executionParameters : Parameters)
    (result : ExecutionResult) : Execution PendingAction := do
  let recorded ← (approvals (completeSuccess action.actionId (c.jsonDumps (modelDump result))
    result.message result.postconditionVerified)).attempt
  match recorded with
  | .ok completed => return completed
  | .error persistenceError =>
      if persistenceError.isA .exception then do
        let persisted ← (persistUncertainAndReconcile c action executionParameters
          "verified write result could not be persisted").attempt
        match persisted with
        | .ok completed =>
            if completed.status = .executing then .throw claimedForOperator else return completed
        | .error e => if e.isA .exception then .throw claimedForOperator else .throw e
      else .throw persistenceError

def exportPayload (generated : GeneratedExport) : Json :=
  .obj [("filename", .str generated.filename), ("record_count", .int generated.recordCount),
    ("media_type", .str generated.mediaType)]

/-- The branch of `EMP-EXPORT-001`, which never reaches the adapter. -/
def executeExport (c : Coordinator) (action : PendingAction) (parameters : Parameters)
    (executionParameters : Parameters) : Execution (PendingAction × Option GeneratedExport) := do
  match ← (boundary (read (.generateEmployeeExport action parameters))).attempt with
  | .error e => onExecutionError c action executionParameters none e
  | .ok generated =>
      let recorded ← (approvals (completeSuccess action.actionId
        (c.jsonDumps (exportPayload generated)) "export generated and validated in memory"
        true)).attempt
      match recorded with
      | .ok completed => return (completed, some generated)
      | .error e => onExecutionError c action executionParameters (some generated) e

/-- The branch of every other function. -/
def executeWrite (c : Coordinator) (action executing : PendingAction)
    (executionParameters : Parameters) : Execution (PendingAction × Option GeneratedExport) := do
  match ← (boundary (execute c.adapter executing executionParameters)).attempt with
  | .error e => onExecutionError c action executionParameters none e
  | .ok result =>
      let completed ← recordResult c action executionParameters result
      return (completed, none)

/-- `_execute_write_critical_section`. -/
def executeWriteCriticalSection (c : Coordinator) (action : PendingAction)
    (parameters : Parameters) (r : Readings) :
    Execution (PendingAction × Option GeneratedExport) := do
  let currentFingerprint ← boundary
    (read (.stateFingerprint action.functionId action.targetEmployeeId parameters))
  let executing ← approvals (beginExecution action.actionId currentFingerprint r)
  match ← (boundary (executionParametersOf action.functionId parameters)).attempt with
  | .error e =>
      if e.isA .exception then do
        let _ ← approvals (completeFailure action.actionId
          "deterministic preparation failed before dispatch" false)
        .throw e
      else .throw e
  | .ok executionParameters =>
      if action.functionId = "EMP-EXPORT-001" then
        executeExport c action parameters executionParameters
      else executeWrite c action executing executionParameters

/-- The event and the outcome an execution is audited with. -/
def auditOfStatus : ActionStatus → String × AuditOutcome
  | .unknownRequiresReconciliation => ("write.uncertain", .uncertain)
  | .succeeded => ("write.completed", .success)
  | _ => ("write.reconciled_not_applied", .failed)

def exportSuffix : Option GeneratedExport → String
  | none => ""
  | some generated => " · export completo con " ++ toString generated.recordCount ++ " record."

def exportAttachments (applied : Bool) : Option GeneratedExport → List ResponseAttachment
  | none => []
  | some generated =>
      if applied then [⟨generated.filename, generated.mediaType, generated.content⟩] else []

/-- `_execute_approved`. -/
def executeApproved (c : Coordinator) (actor : DiscordActor) (action : PendingAction)
    (r : Readings) : Execution InteractionResult := do
  let parameters ← boundary (read (.authorizedParameters action))
  let (completed, generatedExport) ← executeWriteCriticalSection c action parameters r
  let (eventType, outcome) := auditOfStatus completed.status
  let applied := decide (completed.status = .succeeded)
  boundary (read (.audit actor action.correlationId eventType action.functionId outcome
    action.targetEmployeeId
    [("action_id", .str action.actionId), ("status", .str completed.status.value)]))
  return {
    title := "Esito azione"
    description := "\x60" ++ action.actionId ++ "\x60: " ++ completed.status.value ++
      exportSuffix generatedExport
    correlationId := some action.correlationId
    attachments := exportAttachments applied generatedExport
    success := applied }

/-- What `approve` registers before anything is executed: the requester's confirmation, or
another's approval. -/
def register (c : Coordinator) (actor : DiscordActor) (actionId confirmationCode : String)
    (targetConfirmation : Option String) (r : Readings) : Execution PendingAction := do
  let action ← approvals (Approvals.get actionId)
  if toString actor.userId = action.requesterId then
    approvals (confirm c.approvals actionId (toString actor.userId) confirmationCode
      targetConfirmation r)
  else do
    require (c.approvals.unicode.upper (stripChars confirmationCode.toList) = "APPROVE".toList)
      ⟨.applicationError, "l'approvatore deve inserire APPROVE"⟩
    approvals (Approvals.approve actionId (toString actor.userId) actor.logicalRoles r)

/-- `BHApplicationCoordinator.approve`. -/
def approve (c : Coordinator) (actor : DiscordActor) (actionId confirmationCode : String)
    (targetConfirmation : Option String) (registration execution : Readings) :
    Execution InteractionResult := do
  let action ← register c actor actionId confirmationCode targetConfirmation registration
  if action.status = .approved then executeApproved c actor action execution
  else return {
    title := "Approvazione registrata"
    description := "Azione \x60" ++ action.actionId ++ "\x60: " ++
      toString action.approvals.length ++ "/" ++ toString action.approvalsRequired ++
      " approvazioni."
    actionId := some action.actionId }

/-! ## One request -/

/-- What clients ask for: an approval, which may execute the action, or any other call of the
approval service that records no outcome. -/
inductive Request
  | approve (actor : DiscordActor) (actionId confirmationCode : String)
      (targetConfirmation : Option String) (registration execution : Readings)
  | service (call : ServiceCall) (notOutcome : call.recordsOutcome = false)

inductive Response
  | interaction (result : InteractionResult)
  | service (result : ServiceResult)

def Request.body (c : Coordinator) : Request → Execution Response
  | .approve actor actionId confirmationCode targetConfirmation registration execution =>
      return .interaction (← Application.approve c actor actionId confirmationCode
        targetConfirmation registration execution)
  | .service call _ => return .service (← approvals (call.body c.approvals))

end BhDic.Application
