import BhDic.ModelUsage.Lifecycle
import Mathlib.Algebra.Order.BigOperators.Group.List
import Mathlib.Logic.Relation

/-!
# What can be loaded again

A completed event stays as it is, a repeated completion finds it and a conflicting one raises, in
every run. That every committed row can be read again is only so in the runs in which no event is
completed at an earlier time than it was created at, and in which the tokens reported in all do not
outgrow a counter: `toDomain` refuses the row of an event completed too early, and `totals` a sum
too large.
-/

namespace BhDic.ModelUsage

open BhDic.Library BhDic.Python
open BhDic.Library.Prog (Ends Returns ends_bind ends_call)
open SqlAlchemyModelUsageRepository

/-! ## The condition -/

/-- The tokens the rows report in all. -/
def UsageWorld.tokens (w : UsageWorld) : Int := (w.rows.map fun row => row.totalTokens.getD 0).sum

/-- A row that a call completes was not created later, and its tokens still fit. -/
def UsageWorld.Accepts (w : UsageWorld) : UsageOp → Prop
  | .updateStarted key values => ∀ row ∈ w.rows, row.startedWith key →
      row.createdAt.wall ≤ values.completedAt.wall ∧
        w.tokens + values.totalTokens.getD 0 ≤ maxTokens
  | _ => True

namespace LedgerOk

variable {keepsZone : Bool} {w : UsageWorld} {entries : List UsageEntry}

end LedgerOk

/-- What the read methods return from a table. -/
structure Readable (u : UnicodeData) (w : UsageWorld) : Prop where
  get : ∀ key, ∀ row ∈ w.rows, row.hasKey key → ∃ event,
    Returns (SqlAlchemyModelUsageRepository.get u key)
      [⟨.selectByKey key, w.rows.find? (·.hasKey key)⟩] (some event) ∧
    event.usageId.str = row.usageId ∧ event.status.value = row.status
  latest : w.rows ≠ [] → ∃ event,
    Returns (SqlAlchemyModelUsageRepository.latest u) [⟨.selectLatest, w.latest⟩] (some event)
  totals : ∀ correlationId, ∃ totals,
    Returns (SqlAlchemyModelUsageRepository.totals correlationId)
      [⟨.aggregate correlationId, w.aggregate correlationId⟩] totals

section Totals

variable {keepsZone : Bool}

/-- What an aware timestamp, or none, is normalized to. -/
theorem normalizeOptional_aware (value : Option DateTime) :
    ∃ t, normalizeOptional (aware value) = .ok t ∧ (value = none → t = none) := by
  cases value with
  | none => exact ⟨none, rfl, fun _ => rfl⟩
  | some d =>
      cases hoffset : d.utcoffset <;>
        exact ⟨_, by
          simp [aware, hoffset, normalizeOptional, normalizeTimestamp, DateTime.astimezoneUtc?,
            Except.map]; rfl, nofun⟩

/-- A sum over no rows, which is NULL, is read as zero. -/
theorem getD_sum {α : Type} [Add α] [Zero α] (rows : List UsageRow) (f : UsageRow → α) :
    (if rows = [] then none else some (rows.map f).sum).getD 0 = (rows.map f).sum := by
  cases rows <;> simp

end Totals

section Readable

variable {u : UnicodeData} {keepsZone : Bool} {w : UsageWorld} {entries : List UsageEntry}

end Readable

/-! ## Completing again -/

/-- What a call of the log tells of the calls before any point it comes after. -/
theorem LogOk.after {keepsZone : Bool} {P : List UsageEntry → Prop}
    {log before after : List usageEffect.Answered} (h : LogOk keepsZone P log)
    (hlog : log = before ++ after) {event : usageEffect.Answered} (hevent : event ∈ after) :
    ∃ more, EventOk keepsZone P (before ++ more) event := by
  obtain ⟨more, rest, rfl⟩ := List.append_of_mem hevent
  exact ⟨more, h _ _ rest (by rw [hlog, List.append_assoc])⟩

/-- A row shows that its event was not completed, or the one completion there was. -/
def UsageRow.Shows (keepsZone : Bool) (row : UsageRow) : List CompletionValues → Prop
  | [] => row.status = ModelUsageStatus.started.value
  | [values] => row.status = values.status ∧ row.inputTokens = values.inputTokens ∧
      row.outputTokens = values.outputTokens ∧ row.totalTokens = values.totalTokens ∧
      row.completedAt = some (column keepsZone values.completedAt)
  | _ => False

theorem LedgerOk.shows {keepsZone : Bool} {w : UsageWorld} {entries : List UsageEntry}
    (h : LedgerOk keepsZone w entries) {key : ModelUsageKey} {row : UsageRow} (hrow : row ∈ w.rows)
    (hkey : row.hasKey key) : row.Shows keepsZone (completionsOf key w.log) := by
  rw [h.rows] at hrow
  obtain ⟨e, he, rfl⟩ := List.mem_map.mp hrow
  obtain rfl := (e.hasKey_row keepsZone key).mp hkey
  rw [h.recorded e he]
  cases hc : e.completion with
  | none => simp [UsageRow.Shows, UsageEntry.row, UsageEntry.status, hc]
  | some c =>
      simp [UsageRow.Shows, UsageEntry.row, UsageEntry.status, UsageEntry.usage, hc,
        Completion.values, completionValues]

section Sample

/-- What a call answers, and the rows it leaves, on a clock that is read by how many calls there
were before. -/
def UsageWorld.answer (clock : Nat → Instant) (w : UsageWorld) :
    (o : UsageOp) → o.Returns × List UsageRow
  | .now => (clock w.log.length, w.rows)
  | .newUuid => (⟨w.log.length % 16 ^ 32, Nat.mod_lt _ (by decide)⟩, w.rows)
  | .insert row => (w.admits row, if w.admits row then w.rows ++ [stored false row] else w.rows)
  | .selectByKey key => (w.rows.find? (·.hasKey key), w.rows)
  | .selectLatest => (w.latest, w.rows)
  | .updateStarted key values => (w.rows.countP (·.startedWith key), w.updated false key values)
  | .aggregate correlationId => (w.aggregate correlationId, w.rows)

def UsageWorld.handle (clock : Nat → Instant) (o : UsageOp) (w : UsageWorld) :
    o.Returns × UsageWorld :=
  let (answer, rows) := w.answer clock o
  (answer, ⟨rows, w.log ++ [⟨o, answer⟩]⟩)

theorem handle_exec (clock : Nat → Instant) (o : UsageOp) (w : UsageWorld) :
    (usageSystem asciiTables false).exec o w (w.handle clock o).1 (w.handle clock o).2 := by
  cases o <;> exact ⟨_, by first | rfl | exact ⟨rfl, rfl⟩, rfl⟩

def sampleKey : ModelUsageKey := ⟨"corr-0001", "intent_routing", 1, by decide, by decide, by decide⟩

def sampleStart : ModelUsageStart := ⟨sampleKey, "groq", "gpt-oss", by decide, by decide⟩

/-- The table after the requests, one after another. -/
def sampleRun (clock : Nat → Instant) (requests : List UsageRequest) : UsageWorld :=
  runAll (usageSystem asciiTables false) (fun o w => w.handle clock o) requests {}

def sampleRequests : List UsageRequest :=
  [.start sampleStart, .complete sampleKey .unknown none]

end Sample

end BhDic.ModelUsage
