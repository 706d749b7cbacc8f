import BhDic.Approvals.Storage

/-!
# Approval storage over a database

`SqlAlchemyApprovalRepository` keeps an action in three tables: a row of its own, one row for each
decision on it, and one for its execution once the idempotency key is claimed. A read puts the
record together again.

Every column keeps the value written to it, except that a driver may drop the time zone of a
timestamp. A transaction that raises leaves the tables as they were. The primary keys drawn from
`uuid4` are taken to be new each time.
-/

namespace BhDic.Approvals

open BhDic.Library BhDic.Python

/-- What the repository reads besides its tables: the values of `uuid4` and of the clock, by how
many were drawn before, and whether the driver returns timestamps with their zone. -/
structure SqlEnvironment where
  uuid4 : Nat → String
  now : Nat → Instant
  keepsZone : Bool

/-- A UTC timestamp as it comes back from a column. -/
def SqlEnvironment.column (env : SqlEnvironment) (t : Instant) : DateTime :=
  if env.keepsZone then .ofInstant t else .naive t

/-- `_aware`, for a timestamp that is there. -/
def aware (value : DateTime) : Instant :=
  match value.utcoffset with
  | none => value.wall
  | some offset => value.wall - offset

@[simp] theorem aware_column (env : SqlEnvironment) (t : Instant) : aware (env.column t) = t := by
  unfold SqlEnvironment.column
  split <;> simp [aware, DateTime.ofInstant, DateTime.naive]

/-- `_encode_result`. -/
def encodeResult (value : Option String) : Option (List (String × Json)) :=
  value.map fun summary => [("summary", .str summary)]

/-- `_decode_result`, for what a JSON object column can hold. -/
def decodeResult : Option (List (String × Json)) → Except Exn (Option String)
  | none => .ok none
  | some fields =>
      match fields.find? (·.1 == "summary") with
      | some (_, .str summary) => .ok (some summary)
      | _ => .error ⟨.valueError, "invalid persisted approval result"⟩

@[simp] theorem decodeResult_encodeResult (value : Option String) :
    decodeResult (encodeResult value) = .ok value := by
  cases value <;> rfl

/-! ## Tables -/

/-- A row of `pending_actions`. -/
structure PendingActionRow where
  actionId : String
  correlationId : String
  functionId : String
  requesterDiscordId : String
  guildId : String
  channelId : String
  targetEmployeeId : Option String
  encryptedParameters : Bytes
  redactedDiff : List (String × Json)
  motivation : Option String
  stateFingerprint : String
  status : String
  createdAt : DateTime
  expiresAt : DateTime
  approvalsRequired : Nat
  approvalsReceived : Nat
  confirmationSalt : Bytes
  confirmationDigest : Bytes
  confirmationConsumedAt : Option DateTime
  idempotencyKey : String
  executionResult : Option (List (String × Json))
  postconditionResult : Option (List (String × Json))
  rejectionReason : Option String
  version : Nat

/-- A row of `approvals`: a decision on an action. -/
structure DecisionRow where
  approvalId : String
  actionId : String
  approverDiscordId : String
  decision : String
  redactedReason : Option String := none
  createdAt : DateTime

/-- A row of `action_executions`. -/
structure ActionExecutionRow where
  executionId : String
  actionId : String
  idempotencyKey : String
  status : String
  startedAt : DateTime
  completedAt : Option DateTime := none
  result : Option (List (String × Json)) := none
  postcondition : Option (List (String × Json)) := none
  uncertainOutcome : Bool

structure SqlStore where
  pendingActions : List PendingActionRow := []
  decisions : List DecisionRow := []
  executions : List ActionExecutionRow := []
  /-- How many values `uuid4` and the clock have given so far. -/
  drawn : Nat := 0

/-- The decisions on one action. -/
def SqlStore.decisionsOn (s : SqlStore) (actionId : String) : List DecisionRow :=
  s.decisions.filter (·.actionId == actionId)

namespace SqlEnvironment

variable (env : SqlEnvironment)

/-! ## Rows of a record -/

/-- The column values of a record, as `insert` and `replace` write them. -/
def rowOf (a : PendingAction) : PendingActionRow where
  actionId := a.actionId
  correlationId := a.correlationId
  functionId := a.functionId
  requesterDiscordId := a.requesterId
  guildId := a.guildId
  channelId := a.channelId
  targetEmployeeId := a.targetEmployeeId
  encryptedParameters := a.encryptedParameters
  redactedDiff := a.redactedDiff
  motivation := a.motivation
  stateFingerprint := a.stateFingerprint
  status := a.status.value
  createdAt := env.column a.createdAt
  expiresAt := env.column a.expiresAt
  approvalsRequired := a.approvalsRequired
  approvalsReceived := a.approvals.length
  confirmationSalt := a.confirmationSalt
  confirmationDigest := a.confirmationDigest
  confirmationConsumedAt := a.confirmationConsumedAt.map env.column
  idempotencyKey := a.idempotencyKey
  executionResult := encodeResult a.executionResult
  postconditionResult := encodeResult a.postconditionResult
  rejectionReason := a.rejectionReason
  version := a.version

/-- `_approval_row`, drawing the `n`-th id. -/
def approvalRow (n : Nat) (actionId : String) (record : ApprovalRecord) : DecisionRow where
  approvalId := env.uuid4 n
  actionId := actionId
  approverDiscordId := record.approverId
  decision := "APPROVED"
  createdAt := env.column record.approvedAt

/-- `_rejection_row`, drawing the `n`-th id. -/
def rejectionRow (n : Nat) (a : PendingAction) (rejectedBy : String) : DecisionRow where
  approvalId := env.uuid4 n
  actionId := a.actionId
  approverDiscordId := rejectedBy
  decision := "REJECTED"
  redactedReason := a.rejectionReason
  createdAt := env.column (a.rejectedAt.getD (env.now n))

/-- The order `_to_domain` sorts decisions in. -/
def before (r r' : DecisionRow) : Prop :=
  r.createdAt.wall < r'.createdAt.wall ∨
    (r.createdAt.wall = r'.createdAt.wall ∧ r.approvalId ≤ r'.approvalId)

instance : DecidableRel before := fun r r' => by unfold before; infer_instance

/-- `sorted(row.approvals, key=...)`, the approvals among them, as records. -/
def approvalsOf (rows : List DecisionRow) : List ApprovalRecord :=
  ((rows.insertionSort before).filter (·.decision == "APPROVED")).map fun row =>
    { approverId := row.approverDiscordId, approvedAt := aware row.createdAt }

/-- `_to_domain`: the record of a row and the decisions on it. -/
def toDomain (row : PendingActionRow) (rows : List DecisionRow) : Except Exn PendingAction := do
  let rejection := rows.find? (·.decision == "REJECTED")
  let status ← ActionStatus.ofValue row.status
  let executionResult ← decodeResult row.executionResult
  let postconditionResult ← decodeResult row.postconditionResult
  return {
    actionId := row.actionId
    correlationId := row.correlationId
    functionId := row.functionId
    requesterId := row.requesterDiscordId
    guildId := row.guildId
    channelId := row.channelId
    targetEmployeeId := row.targetEmployeeId
    encryptedParameters := row.encryptedParameters
    redactedDiff := row.redactedDiff
    motivation := row.motivation
    stateFingerprint := row.stateFingerprint
    status := status
    createdAt := aware row.createdAt
    expiresAt := aware row.expiresAt
    approvalsRequired := row.approvalsRequired
    approvals := approvalsOf rows
    confirmationSalt := row.confirmationSalt
    confirmationDigest := row.confirmationDigest
    confirmationConsumedAt := row.confirmationConsumedAt.map aware
    idempotencyKey := row.idempotencyKey
    executionResult := executionResult
    postconditionResult := postconditionResult
    rejectionReason := row.rejectionReason
    rejectedBy := rejection.map (·.approverDiscordId)
    rejectedAt := rejection.map fun row => aware row.createdAt
    version := row.version }

/-! ## Calls -/

/-- `(approver, decision) not in existing`. -/
def missing (existing : List DecisionRow) (approver decision : String) : Bool :=
  !existing.any fun row => row.approverDiscordId == approver && row.decision == decision

/-- The approvals of a record that have no row yet. -/
def missingApprovals (a : PendingAction) (existing : List DecisionRow) : List ApprovalRecord :=
  a.approvals.filter fun record => missing existing record.approverId "APPROVED"

/-- The rows `_sync_decisions` adds, drawing ids from the `n`-th on. -/
def newDecisions (n : Nat) (a : PendingAction) (existing : List DecisionRow) : List DecisionRow :=
  let approved := missingApprovals a existing
  (approved.zipIdx n).map (fun (record, i) => env.approvalRow i a.actionId record) ++
    match a.rejectedBy with
    | some actor =>
        if missing existing actor "REJECTED" then
          [env.rejectionRow (n + approved.length) a actor]
        else []
    | none => []

/-- The unique constraint on the approver of an action. -/
def approversUnique (rows : List DecisionRow) : Prop := (rows.map (·.approverDiscordId)).Nodup

instance (rows : List DecisionRow) : Decidable (approversUnique rows) := by
  unfold approversUnique
  infer_instance

def integrityError (constraint : String) : Exn := ⟨.integrityError, constraint⟩

/-- `insert`. -/
def insert (s : SqlStore) (a : PendingAction) : Except Exn Unit × SqlStore :=
  if s.pendingActions.any (·.actionId == a.actionId) then
    (.error (integrityError "pk_pending_actions"), s)
  else if s.pendingActions.any (·.idempotencyKey == a.idempotencyKey) then
    (.error (integrityError "uq_pending_actions_idempotency_key"), s)
  else
    let rows := env.newDecisions s.drawn a []
    if ¬approversUnique rows then (.error (integrityError "uq_approval_action_approver"), s)
    else
      (.ok (), { s with
        pendingActions := s.pendingActions ++ [env.rowOf a]
        decisions := s.decisions ++ rows
        drawn := s.drawn + rows.length })

/-- `get`. -/
def get (s : SqlStore) (actionId : String) : Except Exn (Option PendingAction) :=
  match s.pendingActions.find? (·.actionId == actionId) with
  | none => .ok none
  | some row => some <$> toDomain row (s.decisionsOn actionId)

/-- What `_sync_execution` makes of the execution row of an action. -/
def syncExecution (n : Nat) (a : PendingAction) (row : ActionExecutionRow) : ActionExecutionRow :=
  { row with
    status := if a.status = .executing then "STARTED" else a.status.value
    result := encodeResult a.executionResult
    postcondition := encodeResult a.postconditionResult
    uncertainOutcome := a.status = .unknownRequiresReconciliation
    completedAt := if a.status = .executing then none else some (env.column (env.now n)) }

/-- `replace`: one conditional update, then the decision and execution rows. -/
def replace (s : SqlStore) (a : PendingAction) (expectedVersion : Nat) :
    Except Exn Unit × SqlStore :=
  if a.version ≠ expectedVersion + 1 then
    (.error ⟨.valueError, "replacement must increment version exactly once"⟩, s)
  else if ¬s.pendingActions.any
      (fun row => row.actionId == a.actionId && row.version == expectedVersion) then
    (.error ⟨.runtimeError, "concurrent approval update"⟩, s)
  else if s.pendingActions.any
      (fun row => row.actionId != a.actionId && row.idempotencyKey == a.idempotencyKey) then
    (.error (integrityError "uq_pending_actions_idempotency_key"), s)
  else
    let existing := s.decisionsOn a.actionId
    let rows := env.newDecisions s.drawn a existing
    if ¬approversUnique (existing ++ rows) then
      (.error (integrityError "uq_approval_action_approver"), s)
    else
      let updated : SqlStore := { s with
        pendingActions := s.pendingActions.map fun row =>
          if row.actionId = a.actionId ∧ row.version = expectedVersion then env.rowOf a else row
        decisions := s.decisions ++ rows
        drawn := s.drawn + rows.length + 1 }
      if a.status ∉ executionStatuses then (.ok (), updated)
      else if ¬s.executions.any (·.actionId == a.actionId) then
        (.error ⟨.runtimeError, "execution state exists without an idempotency claim"⟩, s)
      else
        (.ok (), { updated with
          executions := s.executions.map fun row =>
            if row.actionId = a.actionId then env.syncExecution s.drawn a row else row })

/-- `claim_idempotency`. -/
def claimIdempotency (s : SqlStore) (key actionId : String) : Bool × SqlStore :=
  if ¬s.pendingActions.any (fun row => row.actionId == actionId && row.idempotencyKey == key) then
    (false, s)
  else if s.executions.any (fun row => row.actionId == actionId || row.idempotencyKey == key) then
    (false, s)
  else
    (true, { s with
      executions := s.executions ++ [{
        executionId := env.uuid4 s.drawn
        actionId := actionId
        idempotencyKey := key
        status := "CLAIMED"
        startedAt := env.column (env.now s.drawn)
        uncertainOutcome := false }]
      drawn := s.drawn + 1 })

/-- The order `list_actions` asks for. -/
def listedBefore (r r' : PendingActionRow) : Prop :=
  r.createdAt.wall < r'.createdAt.wall ∨
    (r.createdAt.wall = r'.createdAt.wall ∧ r.actionId ≤ r'.actionId)

instance : DecidableRel listedBefore := fun r r' => by unfold listedBefore; infer_instance

/-- `list_actions`. -/
def listActions (s : SqlStore) : Except Exn (List PendingAction) :=
  (s.pendingActions.insertionSort listedBefore).mapM fun row =>
    toDomain row (s.decisionsOn row.actionId)

/-- `SqlAlchemyApprovalRepository`. -/
def repository : Repository SqlStore
  | .insert action, s => env.insert s action
  | .get actionId, s => (get s actionId, s)
  | .replace action expectedVersion, s => env.replace s action expectedVersion
  | .claimIdempotency key actionId, s =>
      let (claimed, s') := env.claimIdempotency s key actionId
      (.ok claimed, s')
  | .listActions, s => (listActions s, s)

end SqlEnvironment

/-- Numbers for ids, a clock that ticks once a draw, and a driver that drops the zone. -/
def sampleEnvironment : SqlEnvironment where
  uuid4 n := toString n
  now n := n
  keepsZone := false

end BhDic.Approvals
