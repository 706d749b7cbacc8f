import BhDic.ModelUsage.Repository

/-!
# The usage ledger

What the table is for: one entry for each logical call, opened once and completed at most once. A
row is the entry written out column by column, and it can be loaded exactly when the entry was not
completed before it was opened.
-/

namespace BhDic.ModelUsage

open BhDic.Library BhDic.Python
open SqlAlchemyModelUsageRepository

/-- How a call ended. -/
inductive Outcome
  | reported (usage : ProviderTokenUsage)
  | unavailable
  | unknown
  deriving DecidableEq

namespace Outcome

def status : Outcome → ModelUsageStatus
  | .reported _ => .reported
  | .unavailable => .unavailable
  | .unknown => .unknown

def usage : Outcome → Option ProviderTokenUsage
  | .reported usage => some usage
  | _ => none

theorem status_ne_started (o : Outcome) : o.status ≠ .started := by
  cases o <;> simp [status]

/-- The arguments `complete` accepts are those of an outcome. -/
theorem exists_of_guards {status : ModelUsageStatus} {usage : Option ProviderTokenUsage}
    (hterminal : status ≠ .started) (hcounters : status = .reported ↔ usage.isSome) :
    ∃ o : Outcome, o.status = status ∧ o.usage = usage := by
  cases status with
  | started => exact absurd rfl hterminal
  | reported =>
      cases usage with
      | none => simp at hcounters
      | some usage => exact ⟨.reported usage, rfl, rfl⟩
  | unavailable =>
      cases usage with
      | none => exact ⟨.unavailable, rfl, rfl⟩
      | some usage => simp at hcounters
  | unknown =>
      cases usage with
      | none => exact ⟨.unknown, rfl, rfl⟩
      | some usage => simp at hcounters

end Outcome

structure Completion where
  outcome : Outcome
  completedAt : Instant
  deriving DecidableEq

def Completion.values (c : Completion) : CompletionValues :=
  completionValues c.outcome.status c.outcome.usage c.completedAt

structure UsageEntry where
  usageId : Uuid
  start : ModelUsageStart
  createdAt : Instant
  completion : Option Completion
  deriving DecidableEq

namespace UsageEntry

variable (e : UsageEntry)

def key : ModelUsageKey := e.start.key

def status : ModelUsageStatus := e.completion.elim .started (·.outcome.status)

def usage : Option ProviderTokenUsage := e.completion.bind (·.outcome.usage)

/-- The tokens an entry adds to the totals. -/
def tokens : Int := e.usage.elim 0 (·.totalTokens)

/-- The entry was not completed before it was opened. -/
def InOrder : Prop := ∀ c ∈ e.completion, e.createdAt ≤ c.completedAt

instance : Decidable e.InOrder := inferInstanceAs (Decidable (∀ c ∈ e.completion, _))

/-- The row of an entry, as a driver that keeps the zone of timestamps returns it, or one that does
not. -/
def row (keepsZone : Bool) : UsageRow where
  usageId := e.usageId.str
  correlationId := e.key.correlationId
  purpose := e.key.purpose
  ordinal := e.key.ordinal
  provider := e.start.provider
  model := e.start.model
  status := e.status.value
  inputTokens := e.usage.map (·.inputTokens)
  outputTokens := e.usage.map (·.outputTokens)
  totalTokens := e.usage.map (·.totalTokens)
  createdAt := column keepsZone (.ofInstant e.createdAt)
  completedAt := e.completion.map fun c => column keepsZone (.ofInstant c.completedAt)

/-- Complete the entry of a key, if it is open. -/
def complete (key : ModelUsageKey) (c : Completion) : UsageEntry :=
  if e.key = key ∧ e.completion = none then { e with completion := some c } else e

variable {e}

theorem status_started : e.status = .started ↔ e.completion = none := by
  cases h : e.completion with
  | none => simp [status, h]
  | some c => simp [status, h, c.outcome.status_ne_started]

@[simp] theorem key_complete (key : ModelUsageKey) (c : Completion) :
    (e.complete key c).key = e.key := by
  unfold complete
  split <;> rfl

/-! ## Rows -/

section Rows

variable (keepsZone : Bool)

theorem column_column (t : DateTime) :
    column keepsZone (column keepsZone t) = column keepsZone t := by
  cases keepsZone <;> simp [column, DateTime.naive]

theorem hasKey_row (key : ModelUsageKey) : (e.row keepsZone).hasKey key ↔ e.key = key := by
  simp only [UsageRow.hasKey, decide_eq_true_eq]
  obtain ⟨_, ⟨⟨_, _, _, _, _, _⟩, _, _, _, _⟩, _, _⟩ := e
  obtain ⟨_, _, _, _, _, _⟩ := key
  simp [row, UsageEntry.key]

theorem startedWith_row (key : ModelUsageKey) :
    (e.row keepsZone).startedWith key ↔ e.key = key ∧ e.completion = none := by
  have hstatus : (e.row keepsZone).status = ModelUsageStatus.started.value ↔
      e.completion = none := by
    rw [← status_started]
    exact ⟨ModelUsageStatus.value_injective, congrArg ModelUsageStatus.value⟩
  simp [UsageRow.startedWith, hasKey_row, hstatus]

theorem stored_startedRow (usageId : Uuid) (start : ModelUsageStart) (createdAt : Instant) :
    UsageWorld.stored keepsZone (startedRow start createdAt usageId) =
      row ⟨usageId, start, createdAt, none⟩ keepsZone := rfl

/-- Updating the row of an open entry gives the row of the completed one. -/
theorem updated_row (key : ModelUsageKey) (c : Completion) :
    (if (e.row keepsZone).startedWith key then
        UsageWorld.stored keepsZone ((e.row keepsZone).update c.values)
      else e.row keepsZone) = (e.complete key c).row keepsZone := by
  by_cases h : e.key = key ∧ e.completion = none
  · rw [if_pos ((startedWith_row keepsZone key).mpr h), complete, if_pos h]
    simp [UsageWorld.stored, UsageRow.update, row, Completion.values, completionValues, status,
      usage, column_column, UsageEntry.key]
  · rw [if_neg (mt (startedWith_row keepsZone key).mp h), complete, if_neg h]

/-- No check of the table refuses the row of an entry. -/
theorem checks_row : (e.row keepsZone).checks = true := by
  have hordinal := e.key.ordinal_pos
  cases hc : e.completion with
  | none =>
      simp [UsageRow.checks, row, hordinal, status, usage, hc, ModelUsageStatus.value]
  | some c =>
      cases ho : c.outcome with
      | reported usage =>
          have hok := usage.ok
          simp [UsageRow.checks, row, hordinal, status, UsageEntry.usage, hc, ho, Outcome.status,
            Outcome.usage, ModelUsageStatus.value, hok.input.1, hok.output.1, hok.sum]
      | unavailable | unknown =>
          simp [UsageRow.checks, row, hordinal, status, UsageEntry.usage, hc, ho, Outcome.status,
            Outcome.usage, ModelUsageStatus.value]

end Rows

/-! ## Loading -/

section Loading

variable (u : UnicodeData) (keepsZone : Bool)

@[simp] theorem aware_column (t : Instant) :
    aware (some (column keepsZone (.ofInstant t))) = some (.ofInstant t) := by
  cases keepsZone <;> simp [aware, column, DateTime.ofInstant, DateTime.naive]

/-- What the validators of an event say of an entry. -/
theorem lifecycleError_eq : lifecycleError e.status e.usage e.createdAt
    (e.completion.map (·.completedAt)) =
      if e.InOrder then none else some "completed_at cannot precede created_at" := by
  cases hc : e.completion with
  | none => simp [lifecycleError, status, usage, InOrder, hc]
  | some c =>
      by_cases horder : e.createdAt ≤ c.completedAt
      · cases ho : c.outcome <;>
          simp [lifecycleError, status, usage, InOrder, hc, ho, Outcome.status, Outcome.usage,
            horder]
      · have hlt : c.completedAt < e.createdAt := lt_of_not_ge horder
        simp [lifecycleError, status, InOrder, hc, c.outcome.status_ne_started, hlt]

/-- The event of an entry. -/
def event (e : UsageEntry) (h : e.InOrder) : ModelUsageEvent where
  usageId := e.usageId
  key := e.key
  provider := e.start.provider
  model := e.start.model
  status := e.status
  usage := e.usage
  createdAt := e.createdAt
  completedAt := e.completion.map (·.completedAt)
  lifecycle := by rw [lifecycleError_eq, if_pos h]

theorem trim_str (x : Uuid) : trim x.str = x.str := by
  have hdigit : ∀ d : Fin 16, isWhiteSpace (Nat.digitChar d) = false := by decide
  apply trim_eq_self
  intro c hc
  rcases mem_str hc with rfl | ⟨d, rfl⟩
  · rfl
  · exact hdigit d

end Loading

end UsageEntry

end BhDic.ModelUsage
