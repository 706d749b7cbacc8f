import BhDic.Approvals.Models
import BhDic.Audit.Models
import BhDic.Library.Prog

/-!
# What lies outside the application

The calls the coordinator, the DIC service and the DIC adapter make on everything but the approval
repository. A read may return anything or raise anything. A write also says whether the dispatching
click was made, which no program can see: it is what the results about dispatched writes are
stated on.
-/

namespace BhDic.Dic

open BhDic.Approvals BhDic.Audit BhDic.Library BhDic.Python

/-! ## Data -/

abbrev Parameters := List (String × Json)

/-- The claimed action as the adapter gets it. -/
structure PreparedAction where
  actionId : String
  functionId : String
  employeeId : Option String
  parameters : Parameters
  idempotencyKey : String
  correlationId : String
  requiredApprovals : Nat
  createdAt : Instant
  expiresAt : Instant

inductive ReconciliationState
  | confirmedApplied | confirmedNotApplied | unknown
  deriving DecidableEq, Repr

structure ReconciliationResult where
  actionId : String
  state : ReconciliationState
  detail : String

inductive OperationStatus
  | prepared | succeeded | rejected | reconciliationRequired
  deriving DecidableEq, Repr

def OperationStatus.value : OperationStatus → String
  | .prepared => "prepared"
  | .succeeded => "succeeded"
  | .rejected => "rejected"
  | .reconciliationRequired => "reconciliation_required"

structure ExecutionResult where
  actionId : String
  functionId : String
  status : OperationStatus
  changed : Bool
  postconditionVerified : Bool
  message : String
  correlationId : String
  details : List (String × Json) := []

/-- `_WriteBaseline`. -/
structure WriteBaseline where
  stableIds : List String
  digest : Option String := none

structure GeneratedExport where
  filename : String
  mediaType : String
  content : Bytes
  recordCount : Nat

structure DiscordActor where
  userId : Nat
  guildId : Nat
  channelId : Nat
  logicalRoles : List String

/-! ## Calls -/

/-- Calls that change nothing in DIC. -/
inductive ReadOp
  /-- What `_execute_approved` does before it takes the locks: decode the stored parameters,
  validate them, and check the requester's authorization. -/
  | authorizedParameters (action : PendingAction)
  | stateFingerprint (functionId : String) (employeeId : Option String) (parameters : Parameters)
  /-- Claim the upload the parameters name, and put what it resolves to in its place. -/
  | claimCleanUpload (parameters : Parameters)
  | generateEmployeeExport (action : PendingAction) (parameters : Parameters)
  | audit (actor : DiscordActor) (correlationId eventType functionId : String)
      (outcome : AuditOutcome) (employeeId : Option String) (payload : List (String × Json))
  | requireEnabled (functionId : String)
  | clock
  | catalogValidatedParameters (pending : PendingAction) (parameters : Parameters)
  /-- What the checks of the `PreparedAction` model raise. -/
  | validate (action : PreparedAction)
  | ensureOpen
  | captureWriteBaseline (action : PreparedAction)
  | reconcileDirect (action : PreparedAction) (baseline : Option WriteBaseline)
  /-- `reconcile` of an adapter other than the Playwright one. -/
  | adapterReconcile (action : PreparedAction)

@[reducible] def ReadOp.Returns : ReadOp → Type
  | .authorizedParameters _ => Parameters
  | .stateFingerprint .. => String
  | .claimCleanUpload _ => Parameters
  | .generateEmployeeExport .. => GeneratedExport
  | .audit .. => Unit
  | .requireEnabled _ => Unit
  | .clock => Instant
  | .catalogValidatedParameters .. => Parameters
  | .validate _ => Unit
  | .ensureOpen => Unit
  | .captureWriteBaseline _ => Option WriteBaseline
  | .reconcileDirect .. => ReconciliationResult
  | .adapterReconcile _ => ReconciliationResult

/-- Calls that may change something in DIC. -/
inductive WriteOp
  /-- `run_write` on the authenticated write of one page. -/
  | runWrite (action : PreparedAction)
  /-- `execute_prepared` of an adapter other than the Playwright one. -/
  | adapterExecute (action : PreparedAction)

def WriteOp.action : WriteOp → PreparedAction
  | .runWrite action | .adapterExecute action => action

@[reducible] def WriteOp.Returns : WriteOp → Type
  | .runWrite _ => Unit
  | .adapterExecute _ => ExecutionResult

/-- How a write went: whether the dispatching click was made, and what came back. -/
structure WriteReport (α : Type) where
  dispatched : Bool
  result : Except Exn α

inductive BoundaryOp
  | read (o : ReadOp)
  | write (o : WriteOp)

@[reducible] def BoundaryOp.Answer : BoundaryOp → Type
  | .read o => Except Exn o.Returns
  | .write o => WriteReport o.Returns

abbrev boundaryEffect : Effect where
  Op := BoundaryOp
  Ans := BoundaryOp.Answer

abbrev Boundary (α : Type) := Prog boundaryEffect Exn α

def read (o : ReadOp) : Boundary o.Returns :=
  (Prog.ask (E := boundaryEffect) (.read o)).bind Prog.ofExcept

def write (o : WriteOp) : Boundary o.Returns :=
  (Prog.ask (E := boundaryEffect) (.write o)).bind fun report => Prog.ofExcept report.result

end BhDic.Dic
