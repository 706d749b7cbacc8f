import BhDic.Library.Trace
import BhDic.ModelUsage.Models
import Mathlib

/-!
# The model usage repository

`SqlAlchemyModelUsageRepository` as programs that call a database and the clock. Each database call
is one transaction. A database error other than `IntegrityError` is not caught anywhere, so it ends
the program at that call.
-/

namespace BhDic.ModelUsage

open BhDic.Library BhDic.Python
open BhDic.Library.Prog (require)

/-- A row of `model_usage_events`. -/
structure UsageRow where
  usageId : String
  correlationId : String
  purpose : String
  ordinal : Int
  provider : String
  model : String
  status : String
  inputTokens : Option Int
  outputTokens : Option Int
  totalTokens : Option Int
  createdAt : DateTime
  completedAt : Option DateTime
  deriving DecidableEq

/-- The columns `complete` updates. -/
structure CompletionValues where
  status : String
  completedAt : DateTime
  inputTokens : Option Int
  outputTokens : Option Int
  totalTokens : Option Int
  deriving DecidableEq

/-- What `totals` selects. A sum over no rows is NULL. -/
structure Aggregates where
  total : Nat
  started : Option Nat
  reported : Option Nat
  unavailable : Option Nat
  unknown : Option Nat
  inputTokens : Option Int
  outputTokens : Option Int
  totalTokens : Option Int
  firstRecordedAt : Option DateTime
  lastCompletedAt : Option DateTime

/-- The calls of the repository. `insert` answers whether the row was committed: if not, it raised
`IntegrityError`. `updateStarted` answers the number of rows it changed. -/
inductive UsageOp
  | now
  | newUuid
  | insert (row : UsageRow)
  | selectByKey (key : ModelUsageKey)
  | selectLatest
  | updateStarted (key : ModelUsageKey) (values : CompletionValues)
  | aggregate (correlationId : Option String)
  deriving DecidableEq

abbrev UsageOp.Returns : UsageOp → Type
  | .now => Instant
  | .newUuid => Uuid
  | .insert _ => Bool
  | .selectByKey _ | .selectLatest => Option UsageRow
  | .updateStarted _ _ => Nat
  | .aggregate _ => Aggregates

abbrev usageEffect : Effect := ⟨UsageOp, UsageOp.Returns⟩

abbrev UsageProg := Prog usageEffect Exn

def perform (o : UsageOp) : UsageProg o.Returns := Prog.ask (E := usageEffect) o

/-- `_aware`. -/
def aware (value : Option DateTime) : Option DateTime :=
  value.map fun d => match d.utcoffset with
    | none => ⟨d.wall, some 0⟩
    | some offset => ⟨d.wall - offset, some 0⟩

def conflict (message : String) : Exn := ⟨.foreign "ModelUsageConflictError", message⟩

namespace SqlAlchemyModelUsageRepository

variable (u : UnicodeData)

/-- The counters of a reported row. -/
def rowUsage (row : UsageRow) : Except Exn (Option ProviderTokenUsage) :=
  if row.status = ModelUsageStatus.reported.value then
    match row.inputTokens, row.outputTokens, row.totalTokens with
    | some input, some output, some total =>
        (ProviderTokenUsage.create input output total).map some
    | _, _, _ => .error ⟨.valueError, "reported model usage counters are incomplete"⟩
  else .ok none

/-- `_to_domain`. The column `created_at` is never NULL. -/
def toDomain (row : UsageRow) : Except Exn ModelUsageEvent := do
  let usage ← rowUsage row
  let createdAt ← match aware (some row.createdAt) with
    | some createdAt => .ok createdAt
    | none => .error ⟨.valueError, "model usage created_at is missing"⟩
  let key ← ModelUsageKey.create row.correlationId row.purpose row.ordinal
  let status ← ModelUsageStatus.ofValue row.status
  ModelUsageEvent.create u row.usageId key row.provider row.model status usage createdAt
    (aware row.completedAt)

def get (key : ModelUsageKey) : UsageProg (Option ModelUsageEvent) := do
  let row ← perform (.selectByKey key)
  match row with
  | none => return none
  | some row => return some (← Prog.ofExcept (toDomain u row))

def latest : UsageProg (Option ModelUsageEvent) := do
  let row ← perform .selectLatest
  match row with
  | none => return none
  | some row => return some (← Prog.ofExcept (toDomain u row))

/-- The row `start` adds. -/
def startedRow (record : ModelUsageStart) (createdAt : Instant) (usageId : Uuid) : UsageRow where
  usageId := usageId.str
  correlationId := record.key.correlationId
  purpose := record.key.purpose
  ordinal := record.key.ordinal
  provider := record.provider
  model := record.model
  status := ModelUsageStatus.started.value
  inputTokens := none
  outputTokens := none
  totalTokens := none
  createdAt := .ofInstant createdAt
  completedAt := none

def start (record : ModelUsageStart) : UsageProg ModelUsageEvent := do
  let createdAt ← perform .now
  let usageId ← perform .newUuid
  let row := startedRow record createdAt usageId
  let committed ← perform (.insert row)
  if committed then
    Prog.ofExcept (toDomain u row)
  else
    match ← get u record.key with
    | none => .throw (conflict "model usage start conflicted")
    | some existing =>
        if existing.provider ≠ record.provider ∨ existing.model ≠ record.model then
          .throw (conflict "model usage key metadata conflicted")
        else
          return existing

def completionValues (status : ModelUsageStatus) (usage : Option ProviderTokenUsage)
    (completedAt : Instant) : CompletionValues where
  status := status.value
  completedAt := .ofInstant completedAt
  inputTokens := usage.map (·.inputTokens)
  outputTokens := usage.map (·.outputTokens)
  totalTokens := usage.map (·.totalTokens)

def complete (key : ModelUsageKey) (status : ModelUsageStatus)
    (usage : Option ProviderTokenUsage) : UsageProg ModelUsageEvent := do
  require (status ≠ .started) ⟨.valueError, "completion status must be terminal"⟩
  require (status = .reported ↔ usage.isSome)
    ⟨.valueError, "only REPORTED completion accepts exact counters"⟩
  let completedAt ← perform .now
  let rowcount ← perform (.updateStarted key (completionValues status usage completedAt))
  match ← get u key with
  | none => .throw ⟨.keyError, "model usage call is not started"⟩
  | some current =>
      if rowcount = 1 then return current
      else if current.status = status ∧ current.usage = usage then return current
      else .throw (conflict "model usage call is already terminal")

def totals (correlationId : Option String) : UsageProg ModelUsageTotals := do
  let row ← perform (.aggregate correlationId)
  let usage ← Prog.ofExcept <|
    if row.total = 0 then .ok zeroTokenUsage
    else ProviderTokenUsage.create (row.inputTokens.getD 0) (row.outputTokens.getD 0)
      (row.totalTokens.getD 0)
  Prog.ofExcept <| ModelUsageTotals.create row.total (row.started.getD 0) (row.reported.getD 0)
    (row.unavailable.getD 0) (row.unknown.getD 0) usage (aware row.firstRecordedAt)
    (aware row.lastCompletedAt)

end SqlAlchemyModelUsageRepository

/-! ## The database -/

namespace UsageRow

def hasKey (row : UsageRow) (key : ModelUsageKey) : Bool :=
  row.correlationId = key.correlationId ∧ row.purpose = key.purpose ∧ row.ordinal = key.ordinal

/-- The rows `complete` updates. -/
def startedWith (row : UsageRow) (key : ModelUsageKey) : Bool :=
  row.hasKey key ∧ row.status = ModelUsageStatus.started.value

def update (row : UsageRow) (values : CompletionValues) : UsageRow :=
  { row with
    status := values.status, completedAt := some values.completedAt,
    inputTokens := values.inputTokens, outputTokens := values.outputTokens,
    totalTokens := values.totalTokens }

/-- The checks `ordinal_positive`, `status_allowed` and `lifecycle_consistent` of the table. -/
def checks (row : UsageRow) : Bool :=
  1 ≤ row.ordinal ∧
    ((row.status = "STARTED" ∧ row.completedAt = none ∧ row.inputTokens = none ∧
        row.outputTokens = none ∧ row.totalTokens = none) ∨
      (row.status = "REPORTED" ∧ row.completedAt ≠ none ∧
        (∃ input ∈ row.inputTokens, 0 ≤ input ∧ ∃ output ∈ row.outputTokens, 0 ≤ output ∧
          row.totalTokens = some (input + output))) ∨
      ((row.status = "UNAVAILABLE" ∨ row.status = "UNKNOWN") ∧ row.completedAt ≠ none ∧
        row.inputTokens = none ∧ row.outputTokens = none ∧ row.totalTokens = none))

/-- The primary key or the unique constraint of the table refuses two rows. -/
def clashes (row row' : UsageRow) : Bool :=
  row.usageId = row'.usageId ∨
    (row.correlationId = row'.correlationId ∧ row.purpose = row'.purpose ∧
      row.ordinal = row'.ordinal)

/-- What `latest` orders by; NULL is the smallest value. -/
def recency (row : UsageRow) : Int ×ₗ WithBot Int ×ₗ String :=
  toLex (row.createdAt.wall, toLex (row.completedAt.map (·.wall), row.usageId))

def newer (row row' : UsageRow) : Prop := row'.recency ≤ row.recency

instance : DecidableRel newer := fun row row' =>
  inferInstanceAs (Decidable (row'.recency ≤ row.recency))

end UsageRow

/-- A timestamp as it comes back from a column of a driver that keeps the zone, or drops it. -/
def column (keepsZone : Bool) (t : DateTime) : DateTime :=
  if keepsZone then t else .naive t.wall

/-- The rows, and every call so far with its answer. -/
structure UsageWorld where
  rows : List UsageRow := []
  log : List usageEffect.Answered := []

namespace UsageWorld

variable (keepsZone : Bool) (w : UsageWorld)

/-- A row as it is stored. -/
def stored (row : UsageRow) : UsageRow :=
  { row with
    createdAt := column keepsZone row.createdAt
    completedAt := row.completedAt.map (column keepsZone) }

def admits (row : UsageRow) : Bool := row.checks ∧ ∀ row' ∈ w.rows, row.clashes row' = false

def latest : Option UsageRow := (w.rows.insertionSort UsageRow.newer).head?

def updated (key : ModelUsageKey) (values : CompletionValues) : List UsageRow :=
  w.rows.map fun row =>
    if row.startedWith key then stored keepsZone (row.update values) else row

/-- The order of the timestamps as they are stored. -/
local instance (priority := high) wallOrder : Preorder Instant :=
  Int.instLinearOrder.toPartialOrder.toPreorder

def aggregate (correlationId : Option String) : Aggregates :=
  let rows := w.rows.filter fun row => correlationId.all (row.correlationId = ·)
  let sum {α : Type} [Add α] [Zero α] (f : UsageRow → α) : Option α :=
    if rows = [] then none else some (rows.map f).sum
  let count (status : ModelUsageStatus) :=
    sum fun row => if row.status = status.value then 1 else 0
  let tokens (column : UsageRow → Option Int) :=
    sum fun row =>
      if row.status = ModelUsageStatus.reported.value then (column row).getD 0 else 0
  { total := rows.length
    started := count .started
    reported := count .reported
    unavailable := count .unavailable
    unknown := count .unknown
    inputTokens := tokens (·.inputTokens)
    outputTokens := tokens (·.outputTokens)
    totalTokens := tokens (·.totalTokens)
    firstRecordedAt := (rows.map (·.createdAt)).argmin (·.wall)
    lastCompletedAt := (rows.filterMap (·.completedAt)).argmax (·.wall) }

/-- What a call that raises nothing but `IntegrityError` answers, and the rows it leaves. The checks
of the table never refuse an update (`LedgerOk.checks`). -/
def Exec : (o : UsageOp) → o.Returns → List UsageRow → Prop
  | .now, _, rows | .newUuid, _, rows => rows = w.rows
  | .insert row, committed, rows => committed = w.admits row ∧
      rows = if committed then w.rows ++ [stored keepsZone row] else w.rows
  | .selectByKey key, answer, rows => answer = w.rows.find? (·.hasKey key) ∧ rows = w.rows
  | .selectLatest, answer, rows => answer = w.latest ∧ rows = w.rows
  | .updateStarted key values, rowcount, rows => rowcount = w.rows.countP (·.startedWith key) ∧
      rows = w.updated keepsZone key values
  | .aggregate correlationId, answer, rows => answer = w.aggregate correlationId ∧ rows = w.rows

end UsageWorld

end BhDic.ModelUsage
