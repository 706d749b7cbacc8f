import BhDic.Approvals.Confirmation
import BhDic.Approvals.Storage
import BhDic.Policies.Catalog
import BhDic.Security.Sanitization

/-!
# The approval service

Each method is a program over the calls of a repository. What it reads from elsewhere comes with
the call: the kill switch, the clock, and for `prepare` the values of the random source. The lock
that keeps two methods of one process apart is left out, so that any two may interleave between
their repository calls.
-/

namespace BhDic.Approvals

open BhDic.Library BhDic.Policies BhDic.Python BhDic.Security
open BhDic.Library.Prog (require ofExcept)

/-- What `ApprovalService` is built with. -/
structure ApprovalService where
  confirmation : ConfirmationHasher
  unicode : UnicodeData
  defaultTtl : Duration

/-- What a method reads besides the repository. -/
structure Readings where
  writesEnabled : Bool
  clock : DateTime

/-- The values the random source gives one `prepare`. -/
structure RandomReadings where
  actionId : String
  confirmationCode : String
  confirmationSalt : Bytes
  token : String

/-- The arguments of `prepare`. -/
structure PrepareRequest where
  functionId : String
  correlationId : String
  requesterId : String
  guildId : String
  channelId : String
  targetEmployeeId : Option String
  encryptedParameters : Bytes
  redactedDiff : List (String × Json)
  stateFingerprint : String
  motivation : Option String := none
  ttl : Option Duration := none
  idempotencyKey : Option String := none

abbrev Approval (α : Type) := Prog repositoryEffect Exn α

/-- Make one repository call, raising what it raises. -/
def repository (o : RepositoryOp) : Approval o.Returns :=
  (Prog.ask (E := repositoryEffect) o).bind ofExcept

/-- `_now`. -/
def Readings.now (r : Readings) : Except Exn Instant :=
  match r.clock.astimezoneUtc? with
  | some t => .ok t
  | none => .error ⟨.valueError, "approval clock must return a timezone-aware datetime"⟩

/-- `_require_writes_enabled`. -/
def requireWritesEnabled (r : Readings) : Approval Unit :=
  require (r.writesEnabled = true) ⟨.writeDisabledError, "global write kill switch is disabled"⟩

/-- `_require_function_spec`. -/
def requireFunctionSpec (action : PendingAction) : Except Exn FunctionSpec :=
  match getFunctionSpec action.functionId with
  | some spec =>
      if spec.isWrite then .ok spec
      else .error ⟨.invalidStateError, "pending action references an unknown write function"⟩
  | none => .error ⟨.invalidStateError, "pending action references an unknown write function"⟩

/-- `expected_version=action.version` and the replacement an update made of the action. -/
def replaceWith (action updated : PendingAction) : Approval PendingAction := do
  let _ ← repository (.replace updated action.version)
  return updated

/-! ## The updates -/

namespace PendingAction

def expire (a : PendingAction) : PendingAction :=
  { a with status := .expired, version := a.version + 1 }

def confirm (a : PendingAction) (now : Instant) : PendingAction :=
  { a with
    confirmationConsumedAt := some now
    status := if a.approvalsRequired = 0 then .approved else .pending
    version := a.version + 1 }

def approve (a : PendingAction) (record : ApprovalRecord) : PendingAction :=
  let approvals := a.approvals ++ [record]
  { a with
    approvals := approvals
    status := if approvals.length ≥ a.approvalsRequired then .approved else .partiallyApproved
    version := a.version + 1 }

def reject (a : PendingAction) (actorId reason : String) (now : Instant) : PendingAction :=
  { a with
    status := .rejected
    rejectionReason := some reason
    rejectedBy := some actorId
    rejectedAt := some now
    version := a.version + 1 }

def markStale (a : PendingAction) : PendingAction :=
  { a with status := .stale, version := a.version + 1 }

def begin (a : PendingAction) : PendingAction :=
  { a with status := .executing, version := a.version + 1 }

def succeed (a : PendingAction) (executionResult postconditionResult : String)
    (postconditionVerified : Bool) : PendingAction :=
  { a with
    status := if postconditionVerified then .succeeded else .unknownRequiresReconciliation
    executionResult := some executionResult
    postconditionResult := some postconditionResult
    version := a.version + 1 }

def fail (a : PendingAction) (result : String) (outcomeUncertain : Bool) : PendingAction :=
  { a with
    status := if outcomeUncertain then .unknownRequiresReconciliation else .failed
    executionResult := some result
    version := a.version + 1 }

def reconcile (a : PendingAction) (postconditionMet : Bool) (result : String) : PendingAction :=
  { a with
    status := if postconditionMet then .succeeded else .reconciledNotApplied
    postconditionResult := some result
    version := a.version + 1 }

end PendingAction

/-! ## The methods -/

/-- `get`. -/
def get (actionId : String) : Approval PendingAction := do
  match ← repository (.get actionId) with
  | none => .throw ⟨.actionNotFoundError, "pending action does not exist"⟩
  | some action => return action

/-- `_require_active`: an action past its time is expired on the way. -/
def requireActive (action : PendingAction) (now : Instant) : Approval PendingAction :=
  if now ≥ action.expiresAt ∧ action.status ∈ activeStatuses then do
    let _ ← replaceWith action action.expire
    .throw ⟨.expiredActionError, "pending action expired"⟩
  else if action.status ∉ activeStatuses then
    .throw ⟨.invalidStateError, "action is not active: " ++ action.status.value⟩
  else return action

/-- `normalize_text(motivation, ...) if motivation else None`. -/
def cleanMotivation (u : UnicodeData) (motivation : Option String) :
    Except Exn (Option String) :=
  match motivation with
  | none => .ok none
  | some motivation =>
      if motivation = "" then .ok none else some <$> normalizeText u motivation 500 true

/-- `ttl or self._default_ttl`. -/
def effectiveTtl (svc : ApprovalService) (ttl : Option Duration) : Duration :=
  match ttl with
  | none => svc.defaultTtl
  | some ttl => if ttl = 0 then svc.defaultTtl else ttl

/-- `idempotency_key or secrets.token_urlsafe(32)`. -/
def effectiveIdempotencyKey (random : RandomReadings) (idempotencyKey : Option String) : String :=
  match idempotencyKey with
  | none => random.token
  | some key => if key = "" then random.token else key

/-- The record `prepare` inserts. -/
def newAction (svc : ApprovalService) (req : PrepareRequest) (random : RandomReadings)
    (spec : FunctionSpec) (motivation : Option String) (now : Instant)
    (material : ConfirmationMaterial) : PendingAction where
  actionId := random.actionId
  correlationId := req.correlationId
  functionId := req.functionId
  requesterId := req.requesterId
  guildId := req.guildId
  channelId := req.channelId
  targetEmployeeId := req.targetEmployeeId
  encryptedParameters := req.encryptedParameters
  redactedDiff := req.redactedDiff
  motivation := motivation
  stateFingerprint := req.stateFingerprint
  status := .pending
  createdAt := now
  expiresAt := now + effectiveTtl svc req.ttl
  approvalsRequired := spec.approvalsRequired
  approvals := []
  confirmationSalt := material.salt
  confirmationDigest := material.digest
  confirmationConsumedAt := none
  idempotencyKey := effectiveIdempotencyKey random req.idempotencyKey

/-- The spec of a known write function, as `prepare` asks for it. -/
def requireWriteSpec (functionId : String) : Except Exn FunctionSpec :=
  match getFunctionSpec functionId with
  | some spec =>
      if spec.isWrite then .ok spec
      else .error ⟨.valueError, "pending actions require a known write Function ID"⟩
  | none => .error ⟨.valueError, "pending actions require a known write Function ID"⟩

/-- What `prepare` does before it calls the repository. -/
def preparedAction (svc : ApprovalService) (req : PrepareRequest) (random : RandomReadings)
    (r : Readings) : Except Exn PreparedAction := do
  let spec ← requireWriteSpec req.functionId
  ensure (spec.requiresTarget = true → req.targetEmployeeId.getD "" ≠ "")
    ⟨.valueError, "target employee ID is required"⟩
  ensure (∀ text ∈ [req.correlationId, req.requesterId, req.guildId, req.channelId,
    req.stateFingerprint], text ≠ "") ⟨.valueError, "pending action context cannot be empty"⟩
  let motivation ← cleanMotivation svc.unicode req.motivation
  ensure (spec.destructive = true → motivation.getD "" ≠ "")
    ⟨.valueError, "critical actions require a motivation"⟩
  ensure (req.encryptedParameters ≠ [])
    ⟨.valueError, "encrypted pending parameters cannot be empty"⟩
  ensure (0 < effectiveTtl svc req.ttl) ⟨.valueError, "approval TTL must be positive"⟩
  let now ← r.now
  let material ← svc.confirmation.create random.actionId random.confirmationCode
    random.confirmationSalt
  let key := effectiveIdempotencyKey random req.idempotencyKey
  ensure (16 ≤ key.length ∧ key.length ≤ 200)
    ⟨.valueError, "idempotency key must contain 16..200 characters"⟩
  return {
    action := newAction svc req random spec motivation now material
    confirmationCode := material.code
    requiredTextConfirmation := spec.textConfirmationTemplate.map fun template =>
      template.format req.targetEmployeeId }

/-- What was found out on the way to a prepared action. -/
theorem preparedAction_eq_ok {svc : ApprovalService} {req : PrepareRequest}
    {random : RandomReadings} {r : Readings} {prepared : PreparedAction}
    (h : preparedAction svc req random r = .ok prepared) :
    ∃ spec motivation now material, requireWriteSpec req.functionId = .ok spec ∧
      cleanMotivation svc.unicode req.motivation = .ok motivation ∧ r.now = .ok now ∧
      (spec.destructive = true → motivation.getD "" ≠ "") ∧
      prepared.action = newAction svc req random spec motivation now material := by
  simp only [preparedAction, bind_eq_ok, ensure_eq_ok] at h
  obtain ⟨spec, hspec, _, -, _, -, motivation, hmotivation, _, hdestructive, h⟩ := h
  obtain ⟨_, -, _, -, now, hnow, material, -, _, -, h⟩ := h
  cases h
  exact ⟨spec, motivation, now, material, hspec, hmotivation, hnow, hdestructive, rfl⟩

/-- `prepare`. -/
def prepare (svc : ApprovalService) (req : PrepareRequest) (random : RandomReadings)
    (r : Readings) : Approval PreparedAction := do
  requireWritesEnabled r
  let prepared ← ofExcept (preparedAction svc req random r)
  let _ ← repository (.insert prepared.action)
  return prepared

/-- The text confirmation of a function that asks for one. -/
def requireTextConfirmation (spec : FunctionSpec) (action : PendingAction)
    (textConfirmation : Option String) : Approval Unit :=
  match spec.textConfirmationTemplate with
  | none => return ()
  | some template =>
      require (textConfirmation = some (template.format action.targetEmployeeId))
        ⟨.invalidConfirmationError, "explicit target confirmation does not match"⟩

/-- `confirm`. -/
def confirm (svc : ApprovalService) (actionId requesterId confirmationCode : String)
    (textConfirmation : Option String) (r : Readings) : Approval PendingAction := do
  requireWritesEnabled r
  let found ← get actionId
  let now ← ofExcept r.now
  let action ← requireActive found now
  require (requesterId = action.requesterId)
    ⟨.authorizationError, "only the requester can consume the confirmation code"⟩
  require (action.confirmed = false)
    ⟨.invalidConfirmationError, "confirmation code was already consumed"⟩
  let verified ← ofExcept (svc.confirmation.verify action.actionId action.confirmationSalt
    action.confirmationDigest confirmationCode)
  require (verified = true) ⟨.invalidConfirmationError, "invalid confirmation code"⟩
  let spec ← ofExcept (requireFunctionSpec action)
  requireTextConfirmation spec action textConfirmation
  replaceWith action (action.confirm now)

/-- `normalize_roles`, with its `ValueError` turned into an authorization error. -/
def approverRoles (roles : List String) : Except Exn (Finset LogicalRole) :=
  match normalizeRoles roles with
  | .ok roles => .ok roles
  | .error _ => .error ⟨.authorizationError, "unknown logical approver role"⟩

/-- `approve`. -/
def approve (actionId approverId : String) (roles : List String) (r : Readings) :
    Approval PendingAction := do
  requireWritesEnabled r
  let found ← get actionId
  let now ← ofExcept r.now
  let action ← requireActive found now
  require (action.confirmed = true)
    ⟨.invalidStateError, "requester confirmation is required first"⟩
  require (action.approvalsRequired ≠ 0)
    ⟨.invalidStateError, "this action does not require an approver"⟩
  require (action.status ≠ .approved) ⟨.invalidStateError, "action is already fully approved"⟩
  require (approverId ≠ action.requesterId)
    ⟨.authorizationError, "requester cannot approve their own action"⟩
  require (approverId ∉ action.approvedBy) ⟨.authorizationError, "approver already recorded"⟩
  let spec ← ofExcept (requireFunctionSpec action)
  let normalized ← ofExcept (approverRoles roles)
  require (spec.admits normalized = true)
    ⟨.authorizationError, "actor does not have an eligible approver role"⟩
  replaceWith action (action.approve ⟨approverId, now⟩)

/-- `reject`. -/
def reject (svc : ApprovalService) (actionId actorId : String) (roles : List String)
    (reason : String) (r : Readings) : Approval PendingAction := do
  let found ← get actionId
  let now ← ofExcept r.now
  let action ← requireActive found now
  let spec ← ofExcept (requireFunctionSpec action)
  let normalized ← ofExcept (approverRoles roles)
  require (actorId ∉ action.approvedBy)
    ⟨.invalidStateError, "a recorded approval cannot be changed to rejection"⟩
  require (actorId = action.requesterId ∨ spec.admits normalized = true)
    ⟨.authorizationError, "actor cannot reject this action"⟩
  let cleanedReason ← ofExcept (normalizeText svc.unicode reason 500 true)
  require (cleanedReason ≠ "") ⟨.valueError, "rejection reason must contain 1..500 characters"⟩
  replaceWith action (action.reject actorId cleanedReason now)

/-- The statuses in which `begin_execution` takes the action for already claimed. -/
def claimedStatuses : List ActionStatus :=
  [.executing, .succeeded, .unknownRequiresReconciliation, .reconciledNotApplied]

/-- The end of `begin_execution`: the idempotency key is claimed before the record is replaced. -/
def claimAndBegin (action : PendingAction) : Approval PendingAction := do
  let claimed : Bool ← repository (.claimIdempotency action.idempotencyKey action.actionId)
  require (claimed = true) ⟨.duplicateExecutionError, "idempotency key was already claimed"⟩
  replaceWith action action.begin

/-- `begin_execution`. -/
def beginExecution (actionId currentStateFingerprint : String) (r : Readings) :
    Approval PendingAction := do
  requireWritesEnabled r
  let found ← get actionId
  require (found.status ∉ claimedStatuses)
    ⟨.duplicateExecutionError, "action execution was already claimed"⟩
  let now ← ofExcept r.now
  let action ← requireActive found now
  require (action.status = .approved) ⟨.invalidStateError, "action is not fully approved"⟩
  if currentStateFingerprint ≠ action.stateFingerprint then
    let _ ← replaceWith action action.markStale
    .throw ⟨.staleTargetError, "target state changed after preview"⟩
  else
    claimAndBegin action

/-- `complete_success`. -/
def completeSuccess (actionId executionResult postconditionResult : String)
    (postconditionVerified : Bool) : Approval PendingAction := do
  let action ← get actionId
  require (action.status = .executing)
    ⟨.invalidStateError, "only an executing action can complete"⟩
  replaceWith action (action.succeed executionResult postconditionResult postconditionVerified)

/-- `complete_failure`. -/
def completeFailure (actionId result : String) (outcomeUncertain : Bool) :
    Approval PendingAction := do
  let action ← get actionId
  require (action.status = .executing) ⟨.invalidStateError, "only an executing action can fail"⟩
  replaceWith action (action.fail result outcomeUncertain)

/-- `reconcile`. -/
def reconcile (actionId : String) (postconditionMet : Bool) (result : String) :
    Approval PendingAction := do
  let action ← get actionId
  require (action.status = .unknownRequiresReconciliation)
    ⟨.invalidStateError, "only an uncertain action can be reconciled"⟩
  replaceWith action (action.reconcile postconditionMet result)

/-- Whether `expire_pending` expires an action. -/
def PendingAction.due (a : PendingAction) (now : Instant) : Bool :=
  a.status ∈ activeStatuses && a.expiresAt ≤ now

/-- One round of the loop of `expire_pending`. -/
def expireIfDue (now : Instant) (action : PendingAction) : Approval Unit :=
  if action.due now then do
    let _ ← replaceWith action action.expire
    return ()
  else return ()

/-- `expire_pending`. When the loop ends every due action has been counted once. -/
def expirePending (r : Readings) : Approval Nat := do
  let now ← ofExcept r.now
  let actions ← repository .listActions
  Prog.forEach (expireIfDue now) actions
  return actions.countP (·.due now)

/-! ## One call -/

/-- A call of one method of the service, with everything it reads. -/
inductive ServiceCall
  | prepare (req : PrepareRequest) (random : RandomReadings) (r : Readings)
  | get (actionId : String)
  | confirm (actionId requesterId confirmationCode : String) (textConfirmation : Option String)
      (r : Readings)
  | approve (actionId approverId : String) (roles : List String) (r : Readings)
  | reject (actionId actorId : String) (roles : List String) (reason : String) (r : Readings)
  | beginExecution (actionId currentStateFingerprint : String) (r : Readings)
  | completeSuccess (actionId executionResult postconditionResult : String)
      (postconditionVerified : Bool)
  | completeFailure (actionId result : String) (outcomeUncertain : Bool)
  | reconcile (actionId : String) (postconditionMet : Bool) (result : String)
  | expirePending (r : Readings)

/-- The calls that record how an execution ended. -/
def ServiceCall.recordsOutcome : ServiceCall → Bool
  | .completeSuccess .. | .completeFailure .. | .reconcile .. => true
  | _ => false

/-- What a method returns. -/
inductive ServiceResult
  | prepared (prepared : PreparedAction)
  | action (action : PendingAction)
  | count (expired : Nat)

/-- The program of a call. -/
def ServiceCall.body (svc : ApprovalService) : ServiceCall → Approval ServiceResult
  | .prepare req random r => return .prepared (← Approvals.prepare svc req random r)
  | .get actionId => return .action (← Approvals.get actionId)
  | .confirm actionId requesterId confirmationCode textConfirmation r =>
      return .action
        (← Approvals.confirm svc actionId requesterId confirmationCode textConfirmation r)
  | .approve actionId approverId roles r =>
      return .action (← Approvals.approve actionId approverId roles r)
  | .reject actionId actorId roles reason r =>
      return .action (← Approvals.reject svc actionId actorId roles reason r)
  | .beginExecution actionId currentStateFingerprint r =>
      return .action (← Approvals.beginExecution actionId currentStateFingerprint r)
  | .completeSuccess actionId executionResult postconditionResult postconditionVerified =>
      return .action (← Approvals.completeSuccess actionId executionResult postconditionResult
        postconditionVerified)
  | .completeFailure actionId result outcomeUncertain =>
      return .action (← Approvals.completeFailure actionId result outcomeUncertain)
  | .reconcile actionId postconditionMet result =>
      return .action (← Approvals.reconcile actionId postconditionMet result)
  | .expirePending r => return .count (← Approvals.expirePending r)

end BhDic.Approvals
