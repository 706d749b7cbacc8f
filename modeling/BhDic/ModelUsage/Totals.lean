import BhDic.ModelUsage.Loading

/-!
# The totals of a table

`totals` adds up what the rows report. Its counters are those of one response, which are bounded, so
that it raises where the tokens of all rows together pass that bound. `totals_exact` says that
nothing else can go wrong, whatever rows the table holds.
-/

namespace BhDic.ModelUsage

open BhDic.Library BhDic.Python

/-- The rows that `totals` adds up. -/
def UsageWorld.selected (w : UsageWorld) (correlationId : Option String) : List UsageRow :=
  w.rows.filter fun row => correlationId.all (row.correlationId = ·)

/-- The tokens that rows report in a column. -/
def reportedTokens (column : UsageRow → Option Int) (rows : List UsageRow) : Int :=
  (rows.filterMap column).sum

/-- The number of calls with a status. -/
def ModelUsageTotals.calls (t : ModelUsageTotals) : ModelUsageStatus → Nat
  | .started => t.startedCalls
  | .reported => t.reportedCalls
  | .unavailable => t.unavailableCalls
  | .unknown => t.unknownCalls

/-- The totals are those of the rows: each status counts its rows, every row has one of them, the
reported calls are those with counters, and each counter is the sum of its column. -/
structure TotalsOf (rows : List UsageRow) (t : ModelUsageTotals) : Prop where
  total : t.totalCalls = rows.length
  calls : ∀ status, t.calls status = rows.countP (·.status = status.value)
  partition : t.startedCalls + t.reportedCalls + t.unavailableCalls + t.unknownCalls = rows.length
  reported : t.reportedCalls = rows.countP (·.totalTokens.isSome)
  inputTokens : t.usage.inputTokens = reportedTokens (·.inputTokens) rows
  outputTokens : t.usage.outputTokens = reportedTokens (·.outputTokens) rows
  totalTokens : t.usage.totalTokens = reportedTokens (·.totalTokens) rows

/-! ## One row -/

/-- What the checks of the table say about the status and the counters of a row. -/
inductive RowKind (row : UsageRow) : Prop
  | reported (input output : Int) (hstatus : row.status = ModelUsageStatus.reported.value)
      (hinput : row.inputTokens = some input) (houtput : row.outputTokens = some output)
      (htotal : row.totalTokens = some (input + output)) (hpos : 0 ≤ input ∧ 0 ≤ output)
  | other (status : ModelUsageStatus) (hne : status ≠ .reported)
      (hstatus : row.status = status.value) (hinput : row.inputTokens = none)
      (houtput : row.outputTokens = none) (htotal : row.totalTokens = none)

theorem rowKind {row : UsageRow} (h : row.checks = true) : RowKind row := by
  have hchecks := of_decide_eq_true h
  obtain ⟨-, hstarted | hreported | hother⟩ := hchecks
  · obtain ⟨hstatus, -, hinput, houtput, htotal⟩ := hstarted
    exact .other .started (by decide) hstatus hinput houtput htotal
  · obtain ⟨hstatus, -, input, hinput, hin, output, houtput, hout, htotal⟩ := hreported
    exact .reported input output hstatus hinput houtput htotal ⟨hin, hout⟩
  · obtain ⟨hstatus, -, hinput, houtput, htotal⟩ := hother
    rcases hstatus with hstatus | hstatus
    · exact .other .unavailable (by decide) hstatus hinput houtput htotal
    · exact .other .unknown (by decide) hstatus hinput houtput htotal

/-- A status that is not reported is stored as another word. -/
theorem value_ne_reported {status : ModelUsageStatus} (h : status ≠ .reported) :
    status.value ≠ ModelUsageStatus.reported.value :=
  fun heq => h (ModelUsageStatus.value_injective heq)

/-! ## Sums over rows -/

section

variable {rows : List UsageRow} (h : ∀ row ∈ rows, row.checks = true)

theorem sum_ite_eq_countP (p : UsageRow → Prop) [DecidablePred p] (rows : List UsageRow) :
    (rows.map fun row => if p row then 1 else 0).sum = rows.countP (p ·) := by
  induction rows with
  | nil => rfl
  | cons row rows ih =>
    rw [List.map_cons, List.sum_cons, ih, List.countP_cons]
    by_cases hp : p row <;> simp [hp, Nat.add_comm]

/-- A column that only reported rows fill is added up as the code does. -/
theorem sum_column (column : UsageRow → Option Int)
    (hcolumn : ∀ row ∈ rows, row.status ≠ ModelUsageStatus.reported.value → column row = none) :
    (rows.map fun row => if row.status = ModelUsageStatus.reported.value then
      (column row).getD 0 else 0).sum = reportedTokens column rows := by
  induction rows with
  | nil => rfl
  | cons row rows ih =>
    have hrest := ih fun row' hrow' => hcolumn row' (List.mem_cons_of_mem _ hrow')
    rw [List.map_cons, List.sum_cons, hrest]
    unfold reportedTokens
    by_cases hstatus : row.status = ModelUsageStatus.reported.value
    · rw [if_pos hstatus]
      cases hvalue : column row with
      | none => simp [hvalue]
      | some n => simp [hvalue]
    · have hnone := hcolumn row (List.mem_cons_self ..) hstatus
      rw [if_neg hstatus, List.filterMap_cons_none hnone, Int.zero_add]

include h

/-- The counters of rows are no less than zero, and the totals are the sums of the others. -/
theorem reportedTokens_spec :
    0 ≤ reportedTokens (·.inputTokens) rows ∧ 0 ≤ reportedTokens (·.outputTokens) rows ∧
      reportedTokens (·.totalTokens) rows =
        reportedTokens (·.inputTokens) rows + reportedTokens (·.outputTokens) rows := by
  induction rows with
  | nil => exact ⟨le_rfl, le_rfl, rfl⟩
  | cons row rows ih =>
    obtain ⟨hin, hout, htotal⟩ := ih fun row' hrow' => h row' (List.mem_cons_of_mem _ hrow')
    unfold reportedTokens at hin hout htotal ⊢
    obtain ⟨input, output, -, hinput, houtput, htotals, hpos⟩ | ⟨-, -, -, hinput, houtput, htotals⟩ :=
      rowKind (h row (List.mem_cons_self ..))
    · simp only [List.filterMap_cons, hinput, houtput, htotals, List.sum_cons]
      omega
    · simp only [List.filterMap_cons, hinput, houtput, htotals]
      exact ⟨hin, hout, htotal⟩

/-- The four statuses count every row once. -/
theorem countP_statuses :
    rows.countP (·.status = ModelUsageStatus.started.value) +
        rows.countP (·.status = ModelUsageStatus.reported.value) +
        rows.countP (·.status = ModelUsageStatus.unavailable.value) +
        rows.countP (·.status = ModelUsageStatus.unknown.value) = rows.length := by
  induction rows with
  | nil => rfl
  | cons row rows ih =>
    have hrest := ih fun row' hrow' => h row' (List.mem_cons_of_mem _ hrow')
    obtain ⟨status, hstatus⟩ : ∃ s : ModelUsageStatus, row.status = s.value := by
      obtain ⟨-, -, hstatus, -⟩ | ⟨status, -, hstatus, -⟩ := rowKind (h row (List.mem_cons_self ..))
      · exact ⟨_, hstatus⟩
      · exact ⟨status, hstatus⟩
    simp only [List.countP_cons, List.length_cons, hstatus]
    cases status <;> simp [ModelUsageStatus.value] at hrest ⊢ <;> omega

/-- The reported rows are those with counters. -/
theorem countP_reported :
    rows.countP (·.status = ModelUsageStatus.reported.value) =
      rows.countP (·.totalTokens.isSome) := by
  apply List.countP_congr
  intro row hrow
  obtain ⟨input, output, hstatus, -, -, htotal, -⟩ | ⟨status, hne, hstatus, -, -, htotal⟩ :=
    rowKind (h row hrow)
  · simp [hstatus, htotal]
  · simp [hstatus, htotal, value_ne_reported hne]

end

/-! ## What the database answers -/

section

variable {w : UsageWorld} (correlationId : Option String)

theorem checks_selected (h : ∀ row ∈ w.rows, row.checks = true) : ∀ row ∈ w.selected correlationId, row.checks = true :=
  fun row hrow => h row (List.mem_filter.mp hrow).1

theorem count_aggregate (status : ModelUsageStatus) :
    (if w.selected correlationId = [] then none
      else some ((w.selected correlationId).map fun row =>
        if row.status = status.value then 1 else 0).sum).getD 0 =
      (w.selected correlationId).countP (·.status = status.value) := by
  rw [getD_sum, sum_ite_eq_countP]

/-- A sum of counters is that of the rows that report them. -/
theorem tokens_aggregate (h : ∀ row ∈ w.rows, row.checks = true) (column : UsageRow → Option Int)
    (hcolumn : ∀ row, row.checks = true → row.status ≠ ModelUsageStatus.reported.value →
      column row = none) :
    (if w.selected correlationId = [] then none
      else some ((w.selected correlationId).map fun row =>
        if row.status = ModelUsageStatus.reported.value then (column row).getD 0 else 0).sum).getD 0 =
      reportedTokens column (w.selected correlationId) := by
  rw [getD_sum]
  apply sum_column
  intro row hrow
  exact hcolumn row (checks_selected correlationId h row hrow)

end

/-- The columns of a row that is not reported are empty. -/
theorem columns_of_not_reported {row : UsageRow} (h : row.checks = true)
    (hstatus : row.status ≠ ModelUsageStatus.reported.value) :
    row.inputTokens = none ∧ row.outputTokens = none ∧ row.totalTokens = none := by
  obtain ⟨-, -, hreported, -⟩ | ⟨-, -, -, hinput, houtput, htotal⟩ := rowKind h
  · exact absurd hreported hstatus
  · exact ⟨hinput, houtput, htotal⟩

/-! ## The totals -/

/-- What `totals` makes of the answer of the database. -/
def totalsOfRow (row : Aggregates) : Except Exn ModelUsageTotals := do
  let usage ← (if row.total = 0 then .ok zeroTokenUsage
    else ProviderTokenUsage.create (row.inputTokens.getD 0) (row.outputTokens.getD 0)
      (row.totalTokens.getD 0))
  ModelUsageTotals.create row.total (row.started.getD 0) (row.reported.getD 0)
    (row.unavailable.getD 0) (row.unknown.getD 0) usage (aware row.firstRecordedAt)
    (aware row.lastCompletedAt)

theorem returns_totals {correlationId : Option String} {row : Aggregates} {t : ModelUsageTotals} :
    Prog.Returns (SqlAlchemyModelUsageRepository.totals correlationId)
      [⟨.aggregate correlationId, row⟩] t ↔ totalsOfRow row = .ok t := by
  unfold SqlAlchemyModelUsageRepository.totals totalsOfRow
  constructor
  · intro h
    obtain ⟨answer, asked, rest, hsplit, hask, hrest⟩ := Prog.returns_bind.mp h
    obtain rfl := Prog.returns_ask.mp hask
    cases hsplit
    obtain ⟨usage, first, last, -, husage, hreturns⟩ := Prog.returns_bind.mp hrest
    rw [bind_eq_ok]
    exact ⟨usage, (Prog.returns_ofExcept.mp husage).2, (Prog.returns_ofExcept.mp hreturns).2⟩
  · intro h
    obtain ⟨usage, husage, hcreate⟩ := bind_eq_ok.mp h
    refine Prog.returns_bind.mpr ⟨row, [⟨.aggregate correlationId, row⟩], [], rfl, ?_, ?_⟩
    · exact Prog.returns_ask.mpr rfl
    refine Prog.returns_bind.mpr ⟨usage, [], [], rfl, ?_, ?_⟩
    · exact Prog.returns_ofExcept.mpr ⟨rfl, husage⟩
    · exact Prog.returns_ofExcept.mpr ⟨rfl, hcreate⟩

/-- What the database answers for rows that pass the checks of the table. -/
structure AnswersFor (rows : List UsageRow) (row : Aggregates) : Prop where
  total : row.total = rows.length
  started : row.started.getD 0 = rows.countP (·.status = ModelUsageStatus.started.value)
  reported : row.reported.getD 0 = rows.countP (·.status = ModelUsageStatus.reported.value)
  unavailable : row.unavailable.getD 0 = rows.countP (·.status = ModelUsageStatus.unavailable.value)
  unknown : row.unknown.getD 0 = rows.countP (·.status = ModelUsageStatus.unknown.value)
  inputTokens : row.inputTokens.getD 0 = reportedTokens (·.inputTokens) rows
  outputTokens : row.outputTokens.getD 0 = reportedTokens (·.outputTokens) rows
  totalTokens : row.totalTokens.getD 0 = reportedTokens (·.totalTokens) rows
  empty : rows = [] → row.firstRecordedAt = none ∧ row.lastCompletedAt = none

theorem answersFor_aggregate {w : UsageWorld} (h : ∀ row ∈ w.rows, row.checks = true)
    (correlationId : Option String) :
    AnswersFor (w.selected correlationId) (w.aggregate correlationId) where
  total := rfl
  started := count_aggregate correlationId .started
  reported := count_aggregate correlationId .reported
  unavailable := count_aggregate correlationId .unavailable
  unknown := count_aggregate correlationId .unknown
  inputTokens := tokens_aggregate correlationId h (·.inputTokens) fun _ hchecks hstatus =>
    (columns_of_not_reported hchecks hstatus).1
  outputTokens := tokens_aggregate correlationId h (·.outputTokens) fun _ hchecks hstatus =>
    (columns_of_not_reported hchecks hstatus).2.1
  totalTokens := tokens_aggregate correlationId h (·.totalTokens) fun _ hchecks hstatus =>
    (columns_of_not_reported hchecks hstatus).2.2
  empty := by
    intro hnil
    change w.rows.filter _ = [] at hnil
    simp [UsageWorld.aggregate, hnil]

/-- The counters of the totals are accepted exactly if the tokens of all rows fit them. -/
theorem create_of_rows {rows : List UsageRow} (h : ∀ row ∈ rows, row.checks = true)
    {row : Aggregates} (hrow : AnswersFor rows row) :
    (∃ t, totalsOfRow row = .ok t ∧ TotalsOf rows t) ↔
      reportedTokens (·.totalTokens) rows ≤ maxTokens := by
  obtain ⟨hinput, houtput, hsum⟩ := reportedTokens_spec h
  constructor
  · rintro ⟨t, -, ht⟩
    rw [← ht.totalTokens]
    exact t.usage.ok.total.2
  · intro hfits
    have hcounters : TokenCountersOk (reportedTokens (·.inputTokens) rows)
        (reportedTokens (·.outputTokens) rows) (reportedTokens (·.totalTokens) rows) := by
      constructor <;> omega
    obtain ⟨first, hfirst, hfirstNone⟩ := normalizeOptional_aware row.firstRecordedAt
    obtain ⟨last, hlast, hlastNone⟩ := normalizeOptional_aware row.lastCompletedAt
    have hempty : rows.length = 0 → first = none ∧ last = none := by
      intro hzero
      obtain ⟨hnoFirst, hnoLast⟩ := hrow.empty (List.length_eq_zero_iff.mp hzero)
      exact ⟨hfirstNone hnoFirst, hlastNone hnoLast⟩
    have hcounts := countP_statuses h
    have husage : (if row.total = 0 then .ok zeroTokenUsage
        else ProviderTokenUsage.create (row.inputTokens.getD 0) (row.outputTokens.getD 0)
          (row.totalTokens.getD 0)) = .ok ⟨_, _, _, hcounters⟩ := by
      split
      · next hzero =>
        rw [hrow.total] at hzero
        obtain rfl := List.length_eq_zero_iff.mp hzero
        rfl
      · rw [hrow.inputTokens, hrow.outputTokens, hrow.totalTokens]
        exact dif_pos hcounters
    refine ⟨⟨_, _, _, _, _, ⟨_, _, _, hcounters⟩, first, last, hcounts, hempty⟩, ?_, ?_⟩
    · rw [totalsOfRow, husage]
      show ModelUsageTotals.create row.total (row.started.getD 0) (row.reported.getD 0)
        (row.unavailable.getD 0) (row.unknown.getD 0) _ (aware row.firstRecordedAt)
        (aware row.lastCompletedAt) = _
      rw [hrow.total, hrow.started, hrow.reported, hrow.unavailable, hrow.unknown]
      simp only [ModelUsageTotals.create, hfirst, hlast, bind, Except.bind, dif_pos hcounts,
        dif_pos hempty]
    · refine ⟨rfl, ?_, hcounts, countP_reported h, rfl, rfl, rfl⟩
      intro status
      cases status <;> rfl

/-- `totals` returns the exact totals of the rows it selects if and only if their tokens fit one
counter. -/
theorem totals_exact {w : UsageWorld} (h : ∀ row ∈ w.rows, row.checks = true)
    (correlationId : Option String) :
    (∃ t, Prog.Returns (SqlAlchemyModelUsageRepository.totals correlationId)
        [⟨.aggregate correlationId, w.aggregate correlationId⟩] t ∧
        TotalsOf (w.selected correlationId) t) ↔
      reportedTokens (·.totalTokens) (w.selected correlationId) ≤ maxTokens := by
  refine (exists_congr fun t => and_congr_left fun _ => returns_totals).trans ?_
  exact create_of_rows (checks_selected correlationId h) (answersFor_aggregate h correlationId)

/-- A response that used up the largest counter. -/
def fullRow (usageId : String) (ordinal : Int) : UsageRow where
  usageId := usageId
  correlationId := "request-1"
  purpose := "intent"
  ordinal := ordinal
  provider := "groq"
  model := "openai/gpt-oss-20b"
  status := "REPORTED"
  inputTokens := some maxTokens
  outputTokens := some 0
  totalTokens := some maxTokens
  createdAt := .naive 0
  completedAt := some (.naive 1)

def fullWorld : UsageWorld where
  rows :=
    [fullRow "3f2504e0-4f89-41d3-9a0c-0305e82c3301" 1,
      fullRow "3f2504e0-4f89-41d3-9a0c-0305e82c3302" 2]

theorem totals_exact_fullRow :
    (∃ t, Prog.Returns (SqlAlchemyModelUsageRepository.totals none)
        [⟨.aggregate none, ({ rows := fullWorld.rows.take 1 } : UsageWorld).aggregate none⟩] t ∧
        TotalsOf (({ rows := fullWorld.rows.take 1 } : UsageWorld).selected none) t) ∧
      ∀ row ∈ fullWorld.rows.take 1, row.checks = true :=
  ⟨(totals_exact (w := { rows := fullWorld.rows.take 1 }) (by decide) none).mpr (by decide),
    by decide⟩

/-- Two such rows pass every check, and `totals` raises. -/
theorem totals_overflow :
    (∀ row ∈ fullWorld.rows, row.checks = true) ∧
      ¬∃ t, Prog.Returns (SqlAlchemyModelUsageRepository.totals none)
        [⟨.aggregate none, fullWorld.aggregate none⟩] t ∧ TotalsOf (fullWorld.selected none) t := by
  refine ⟨by decide, ?_⟩
  rintro ⟨t, hreturns, -⟩
  have hraises : totalsOfRow (fullWorld.aggregate none) =
      .error ⟨.pydanticValidationError, "ProviderTokenUsage"⟩ := by rfl
  rw [returns_totals, hraises] at hreturns
  cases hreturns

end BhDic.ModelUsage
