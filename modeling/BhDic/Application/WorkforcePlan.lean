import BhDic.Application.CompoundPlan
import BhDic.Exports.Chunks
import BhDic.Python.Loops
import BhDic.Query.Accounting

/-!
# The table of the workforce

`_execute_workforce_contract_payroll_table` reads the contracts of every employee of a roster of at
most 200, and for each of them one year of payrolls or up to three. Of a roster within its limit no
plan over the roster exceeds the budget of its tracker (`accounting_exact`).
-/

namespace BhDic.Application

open BhDic.Audit BhDic.Dic BhDic.Exports BhDic.HrAssistant BhDic.Library BhDic.Policies BhDic.Python
open BhDic.Query BhDic.Security

/-! ## What a plan is executed with -/

structure WorkforceEmployee extends ListedEmployee where
  currentContractValidTo : Option Date

structure PayrollMetadata extends PayrollReading where
  publishedAt : Option String
  netCents : Option Nat

/-- The adapter and the rest of the coordinator, of one actor. In one run no page, no employee and no
year of an employee is read twice, so that the readings are functions. -/
structure WorkforceEnvironment where
  unicode : UnicodeData
  /-- `str` of a collection -/
  collectionText : Json → String
  /-- `policy.evaluate`, in the actor's context -/
  evaluate : (functionId : String) → (target : Option String) → PolicyDecision
  audit : (eventType functionId : String) → AuditOutcome → Except Exn Unit
  listEmployees : EmployeeListQuery → Except Exn EmployeeListResult
  /-- An item of a page, with all that the page says of it. -/
  describe : EmployeeListItem → WorkforceEmployee
  describe_item : ∀ item, (describe item).toEmployeeListItem = item
  getContracts : (employeeId : String) → Except Exn (List ContractRecord)
  getPayrollMetadata : (employeeId : String) → (year : Int) → Except Exn (List PayrollMetadata)
  today : Date
  /-- `datetime.now(UTC).isoformat()` -/
  now : String
  /-- `datetime.now(UTC).strftime("%Y-%m-%d_%H%M%S")` -/
  timestamp : String
  responseAttachmentMaxBytes : Nat

structure FullRoster where
  items : List WorkforceEmployee
  total : Nat

structure WorkforceResponse where
  response : AskResponse
  messages : List (List Char)

namespace WorkforceEnvironment

variable (env : WorkforceEnvironment)

/-- `dic.list_all_employees`. -/
def listAllEmployees (query : EmployeeListQuery) (maxRecords : Nat) : Except Exn FullRoster := do
  let result ← (Prog.run (E := rosterEffect) (fun query s => (env.listEmployees query, s))
    (Dic.listAllEmployees query 500 maxRecords) ()).1
  return ⟨result.items.map env.describe, result.total⟩

/-! ## What a plan asks -/

/-- The year and the month that a plan names, if it names any. -/
def selectedPeriod (plan : HRQueryPlan) : Except Exn (Option (Int × Int)) :=
  match (filterOf plan "payroll_year").bind (·.value),
    (filterOf plan "payroll_month").bind (·.value) with
  | none, none => .ok none
  | some (.int year), some (.int month) => do
      ensure ((2000 ≤ year ∧ year ≤ 2200) ∧ 1 ≤ month ∧ month ≤ 12)
        (applicationError "workforce payroll period is invalid")
      return some (year, month)
  | some _, some _ => .error (applicationError "workforce payroll period is invalid")
  | _, _ => .error (applicationError "workforce payroll period is incomplete")

/-- One function of a plan, for one target or for none. -/
def authorize (functionId : String) (target : Option String) : Except Exn Unit :=
  let decision := env.evaluate functionId target
  if decision.allowed then .ok ()
  else do
    let denied ← directIntent functionId target []
    env.audit "policy.denied" denied.functionId .denied
    .error ⟨.applicationPolicyDenied, decision.reason⟩

/-- The functions that have no target, or those that have one. -/
def authorizeAll (target : Option String) : List String → Except Exn Unit
  | [] => .ok ()
  | functionId :: rest => do
      let spec ← specOf functionId
      if spec.requiresTarget = target.isSome then env.authorize functionId target
      authorizeAll target rest

/-! ## The readings -/

/-- `max` with a key, the first one of the greatest: `before x y` says that the key of `x` is less. -/
def greatest {α : Type} (before : α → α → Bool) : List α → Option α
  | [] => none
  | first :: rest => some (rest.foldl (fun best x => if before best x then x else best) first)

/-- `(_parse_dic_date(value) if value else None) or date.min`, by its digits. -/
def dateOrMin (value : Option String) : Nat :=
  (value.bind (parseDicDate env.unicode)).elim 10101 (·.digits)

/-- The order of `_current_contract`: an open end last, then the end, the start and the identifier. -/
def contractBefore (x y : ContractRecord) : Bool :=
  let key (c : ContractRecord) := (env.dateOrMin c.endDate, env.dateOrMin c.startDate)
  if x.endDate.isNone ≠ y.endDate.isNone then y.endDate.isNone
  else if (key x).1 ≠ (key y).1 then (key x).1 < (key y).1
  else if (key x).2 ≠ (key y).2 then (key x).2 < (key y).2
  else x.contractId < y.contractId

/-- `_current_contract`. -/
def currentContract (contracts : List ContractRecord) : Option ContractRecord :=
  greatest env.contractBefore contracts

/-- What the second step reads of an employee. -/
def readCurrentContract (functionIds : List String) (employee : WorkforceEmployee) :
    Except Exn (WorkforceEmployee × Option ContractRecord) := do
  env.authorizeAll (some employee.employeeId) functionIds
  let contracts ← env.getContracts employee.employeeId
  ensure (∀ contract ∈ contracts, contract.employeeId = employee.employeeId)
    (applicationError "contract resource identity changed during query plan")
  return (employee, env.currentContract contracts)

def payrollBefore (x y : PayrollMetadata) : Bool :=
  if x.year ≠ y.year then x.year < y.year
  else if x.month.getD 0 ≠ y.month.getD 0 then x.month.getD 0 < y.month.getD 0
  else x.publishedAt.getD "" < y.publishedAt.getD ""

/-- The payrolls of a year that state a net, and of the month where one is asked for. -/
def usable (month : Option Int) (current : List PayrollMetadata) : List PayrollMetadata :=
  current.filter fun item => item.netCents.isSome && (month.isNone || item.month == month)

/-- The years read, one after the other, with what was read before them. Where no year is asked for,
the first year with a payroll is the last one read. -/
def readYears (employeeId : String) (period : Option (Int × Int)) :
    List Int → List PayrollMetadata → Nat → Except Exn (List PayrollMetadata × Nat)
  | [], records, reads => .ok (records, reads)
  | candidateYear :: years, records, reads => do
      let current ← env.getPayrollMetadata employeeId candidateYear
      ensure (∀ item ∈ current, item.employeeId = employeeId ∧ item.year = candidateYear)
        (applicationError "payroll resource identity changed during query plan")
      let records := records ++ usable (period.map (·.2)) current
      if records ≠ [] ∧ period.isNone then return (records, reads + 1)
      else readYears employeeId period years records (reads + 1)

def candidateYears (period : Option (Int × Int)) : List Int :=
  match period with
  | some (year, _) => [year]
  | none => [(env.today.year : Int), env.today.year - 1, env.today.year - 2]

/-- `_payroll_for_workforce_row`: the last payroll, and how many years were read for it. -/
def payrollForWorkforceRow (employeeId : String) (period : Option (Int × Int)) :
    Except Exn (Option PayrollMetadata × Nat) := do
  let (records, reads) ← env.readYears employeeId period (env.candidateYears period) [] 0
  return (greatest payrollBefore records, reads)

/-! ## The rows -/

/-- `" · ".join` of what is not blank, or nothing. -/
def contractTypeOf (employee : WorkforceEmployee) (current : Option ContractRecord) :
    Option String :=
  let values := [current.bind (·.contractType), current.bind (·.workRegime), employee.contractLabel]
  let text := " · ".intercalate (values.filterMap (·.filter fun value => strip value ≠ ""))
  if text = "" then none else some text

def contractExpiryOf (employee : WorkforceEmployee) (current : Option ContractRecord) :
    Option Date :=
  ((current.bind (·.endDate)).bind (parseDicDate env.unicode)).or employee.currentContractValidTo

/-- `Decimal(cents) / Decimal(100)`, which has no zeros at its end. -/
def centsToDecimal (cents : Nat) : Decimal :=
  if cents % 100 = 0 then .finite false (cents / 100) 0
  else if cents % 10 = 0 then .finite false (cents / 10) (-1)
  else .finite false cents (-2)

/-- The two names of a row. -/
def namesOf (employee : WorkforceEmployee) : Option String × Option String :=
  let firstName := (employee.firstName.map strip).filter (· ≠ "")
  let lastName := (employee.lastName.map strip).filter (· ≠ "")
  if firstName = none ∧ lastName = none then
    ((some (employeeDisplayName env.unicode employee.toListedEmployee)).filter (· ≠ ""), none)
  else (firstName, lastName)

def workforceRow (employee : WorkforceEmployee) (current : Option ContractRecord)
    (payroll : Option PayrollMetadata) : EmployeeExportRow where
  firstName := (env.namesOf employee).1
  lastName := (env.namesOf employee).2
  employeeId := employee.employeeId
  status := employee.employeeState.value
  contractExpiry := env.contractExpiryOf employee current
  contractType := contractTypeOf employee current
  monthlyNet := (payroll.bind (·.netCents)).map centsToDecimal

structure WorkforceRow where
  row : EmployeeExportRow
  hasContract : Bool
  hasPayroll : Bool
  payrollReads : Nat

/-- What the third step reads of an employee. -/
def readRow (period : Option (Int × Int))
    (reading : WorkforceEmployee × Option ContractRecord) : Except Exn WorkforceRow := do
  let (payroll, reads) ← env.payrollForWorkforceRow reading.1.employeeId period
  return {
    row := env.workforceRow reading.1 reading.2 payroll
    hasContract := reading.2.isSome
    hasPayroll := payroll.isSome
    payrollReads := reads }

/-- The order of the rows, by names and identifier. -/
def rowLe (x y : EmployeeExportRow) : Bool :=
  let folded (name : Option String) : List Char := env.unicode.casefold (name.getD "").toList
  if folded x.lastName ≠ folded y.lastName then folded x.lastName < folded y.lastName
  else if folded x.firstName ≠ folded y.firstName then folded x.firstName < folded y.firstName
  else !decide (y.employeeId < x.employeeId)

/-! ## The answer -/

def periodLabel : Option (Int × Int) → String
  | some (year, month) => twoDigits month ++ "/" ++ toString year
  | none => "ultima busta paga con netto disponibile"

def workforceResponse (period : Option (Int × Int)) (total : Nat) (rows : List WorkforceRow)
    (table : List Char) (chunks : List (List Char)) (evidence : QueryPlanEvidence) :
    WorkforceResponse where
  response := {
    result := {
      title := "Organico, contratti e netto — dati DiC completi"
      description :=
        "Ho attraversato in modo verificato Elenco dipendenti, Contratti e Buste paga. Record: " ++
          toString total ++ "; periodo paga: " ++ periodLabel period ++
          "; contratti non disponibili: " ++ toString (rows.countP (!·.hasContract)) ++
          "; netti non disponibili: " ++ toString (rows.countP (!·.hasPayroll)) ++
          ". I valori mancanti sono N/D e non vengono stimati. La tabella completa è allegata. " ++
          "Letture verificate: " ++ toString evidence.resourceReads ++ ". Completezza: COMPLETE."
      attachments := [{
        filename := "organico_contratti_netto_" ++ env.timestamp ++ ".txt"
        contentType := "text/plain; charset=utf-8"
        content := encodeUtf8 (String.ofList (table ++ ['\n'])) }] } }
  messages := chunks.take 10

/-- `_execute_workforce_contract_payroll_table`. -/
def executeWorkforceContractPayrollTable (plan : HRQueryPlan) : Except Exn WorkforceResponse := do
  let functionIds := (plan.steps.map (·.functionId)).eraseDups
  env.authorizeAll none functionIds
  let period ← selectedPeriod plan
  let employees ← env.listAllEmployees
    { employeeFilter := .all, sortBy := .name, sortDirection := .asc, page := 1, pageSize := 100 }
    200
  let tracker ← QueryPlanTracker.create plan (1 + 4 * 200) 200
  let tracker ← tracker.completeStep "step_1" 1 (some employees.total) none
  let readings ← employees.items.mapM (env.readCurrentContract functionIds)
  let tracker ← tracker.completeStep "step_2" employees.total none none
  let rows ← readings.mapM (env.readRow period)
  let tracker ← tracker.completeStep "step_3" (rows.map (·.payrollReads)).sum none
    (some rows.length)
  let evidence ← tracker.verify.mapError fun _ =>
    applicationError "HR query objective could not be verified"
  let table := asciiTable ((rows.map (·.row)).insertionSort (env.rowLe · ·))
  ensure ((encodeUtf8 (String.ofList (table ++ ['\n']))).length ≤ env.responseAttachmentMaxBytes)
    (applicationError "workforce table exceeds the configured attachment limit")
  let chunks ← splitAsciiForDiscord table 1900
  env.audit "query_plan.completed" "EMP-PAY-001" .success
  return env.workforceResponse period employees.total rows table chunks evidence

/-- The coordinator, as it executes the plan that compares contracts and payrolls. -/
def toPlanEnvironment : PlanEnvironment where
  unicode := env.unicode
  collectionText := env.collectionText
  evaluate functionId := env.evaluate functionId none
  audit := env.audit
  listAllEmployees query maxRecords := do
    let roster ← env.listAllEmployees query maxRecords
    return ⟨roster.items.map (·.toListedEmployee), roster.total⟩
  getContracts := env.getContracts
  getPayrollMetadata employeeId year := do
    let payrolls ← env.getPayrollMetadata employeeId year
    return payrolls.map (·.toPayrollReading)
  now := env.now
  responseAttachmentMaxBytes := env.responseAttachmentMaxBytes
  executeWorkforceContractPayrollTable plan := do
    let table ← env.executeWorkforceContractPayrollTable plan
    return table.response

end WorkforceEnvironment

/-! ## What a plan raises -/

/-- An error of the tracker, or what is raised in its place where the verification fails. -/
def TrackerError (e : Exn) : Prop :=
  e.cls = .foreign "QueryPlanExecutionError" ∨
    e = applicationError "HR query objective could not be verified"

/-- The identifiers of the steps of a plan over the roster. -/
def ThreeSteps (plan : HRQueryPlan) : Prop :=
  plan.steps.map (·.stepId) = ["step_1", "step_2", "step_3"]

namespace WorkforceEnvironment

/-- An error of the adapter, of the roster or of the audit. -/
inductive Raised (env : WorkforceEnvironment) : Exn → Prop
  | audit {eventType functionId : String} {outcome : AuditOutcome} {e : Exn}
      (h : env.audit eventType functionId outcome = .error e) : env.Raised e
  | roster {query : EmployeeListQuery} {maxRecords : Nat} {e : Exn}
      (h : env.listAllEmployees query maxRecords = .error e) : env.Raised e
  | contracts {employeeId : String} {e : Exn} (h : env.getContracts employeeId = .error e) :
      env.Raised e
  | payrolls {employeeId : String} {year : Int} {e : Exn}
      (h : env.getPayrollMetadata employeeId year = .error e) : env.Raised e

/-- The coordinator raises nothing of its tracker. -/
def Untracked (env : WorkforceEnvironment) (e : Exn) : Prop := env.Raised e ∨ ¬TrackerError e

variable {env : WorkforceEnvironment}

theorem untracked_applicationError {message : String}
    (h : message ≠ "HR query objective could not be verified") :
    env.Untracked (applicationError message) := by
  right
  intro herror
  rcases herror with hcls | heq
  · cases hcls
  · exact h (congrArg Exn.message heq)

theorem untracked_of_cls {e : Exn} (h : e.cls ≠ .foreign "QueryPlanExecutionError")
    (h' : e.cls ≠ .applicationError) : env.Untracked e := by
  right
  intro herror
  rcases herror with hcls | rfl
  · exact h hcls
  · exact h' rfl

theorem specOf_within {functionId : String} : RaisesWithin env.Untracked (specOf functionId) := by
  rw [specOf]
  split
  · exact raisesWithin_ok
  · exact raisesWithin_error (untracked_applicationError (by decide))

theorem directIntent_within {functionId : String} {target : Option String}
    {parameters : ContextParameters} :
    RaisesWithin env.Untracked (directIntent functionId target parameters) := by
  apply specOf_within.bind
  intro spec _
  apply RaisesWithin.bind (raisesWithin_ensure (untracked_of_cls (by simp) (by simp)))
  intro _ _
  exact raisesWithin_ok

theorem audit_within {eventType functionId : String} {outcome : AuditOutcome} :
    RaisesWithin env.Untracked (env.audit eventType functionId outcome) :=
  fun _ h => .inl (.audit h)

theorem listAllEmployees_within {query : EmployeeListQuery} {maxRecords : Nat} :
    RaisesWithin env.Untracked (env.listAllEmployees query maxRecords) :=
  fun _ h => .inl (.roster h)

theorem getContracts_within {employeeId : String} :
    RaisesWithin env.Untracked (env.getContracts employeeId) :=
  fun _ h => .inl (.contracts h)

theorem getPayrollMetadata_within {employeeId : String} {year : Int} :
    RaisesWithin env.Untracked (env.getPayrollMetadata employeeId year) :=
  fun _ h => .inl (.payrolls h)

theorem authorize_within {functionId : String} {target : Option String} :
    RaisesWithin env.Untracked (env.authorize functionId target) := by
  unfold authorize
  dsimp only
  split
  · exact raisesWithin_ok
  · apply directIntent_within.bind
    intro denied _
    apply audit_within.bind
    intro _ _
    exact raisesWithin_error (untracked_of_cls (by simp) (by simp))

theorem authorizeAll_within {target : Option String} {functionIds : List String} :
    RaisesWithin env.Untracked (env.authorizeAll target functionIds) := by
  induction functionIds with
  | nil => exact raisesWithin_ok
  | cons functionId rest ih =>
    apply specOf_within.bind
    intro spec _
    split
    · exact authorize_within.bind fun _ _ => ih
    · exact ih

theorem selectedPeriod_within {plan : HRQueryPlan} :
    RaisesWithin env.Untracked (selectedPeriod plan) := by
  unfold selectedPeriod
  split
  · exact raisesWithin_ok
  · apply RaisesWithin.bind (raisesWithin_ensure (untracked_applicationError (by decide)))
    intro _ _
    exact raisesWithin_ok
  · exact raisesWithin_error (untracked_applicationError (by decide))
  · exact raisesWithin_error (untracked_applicationError (by decide))

theorem readCurrentContract_within {functionIds : List String} {employee : WorkforceEmployee} :
    RaisesWithin env.Untracked (env.readCurrentContract functionIds employee) := by
  apply authorizeAll_within.bind
  intro _ _
  apply getContracts_within.bind
  intro contracts _
  apply RaisesWithin.bind (raisesWithin_ensure (untracked_applicationError (by decide)))
  intro _ _
  exact raisesWithin_ok

theorem readYears_within {employeeId : String} {period : Option (Int × Int)} {years : List Int}
    {records : List PayrollMetadata} {reads : Nat} :
    RaisesWithin env.Untracked (env.readYears employeeId period years records reads) := by
  induction years generalizing records reads with
  | nil => exact raisesWithin_ok
  | cons year years ih =>
    apply getPayrollMetadata_within.bind
    intro current _
    apply RaisesWithin.bind (raisesWithin_ensure (untracked_applicationError (by decide)))
    intro _ _
    dsimp only
    split
    · exact raisesWithin_ok
    · exact ih

theorem readRow_within {period : Option (Int × Int)}
    {reading : WorkforceEmployee × Option ContractRecord} :
    RaisesWithin env.Untracked (env.readRow period reading) := by
  apply RaisesWithin.bind
  · apply readYears_within.bind
    intro _ _
    exact raisesWithin_ok
  · intro _ _
    exact raisesWithin_ok

/-! ## What a plan reads -/

/-- The total of a roster is the number of its items, and within the limit. -/
theorem listAllEmployees_ok {query : EmployeeListQuery} {maxRecords : Nat} {roster : FullRoster}
    (h : env.listAllEmployees query maxRecords = .ok roster) :
    roster.items.length = roster.total ∧ roster.total ≤ maxRecords := by
  obtain ⟨result, hrun, h⟩ := bind_eq_ok.mp h
  cases h
  have hlog := Prog.run_log (E := rosterEffect) (fun query s => (env.listEmployees query, s))
    (Dic.listAllEmployees query 500 maxRecords) ()
  rw [hrun] at hlog
  simpa using listAllEmployees_total hlog

/-- No more years are read than there are. -/
theorem readYears_reads {employeeId : String} {period : Option (Int × Int)} {years : List Int}
    {records : List PayrollMetadata} {reads : Nat} {result : List PayrollMetadata × Nat}
    (h : env.readYears employeeId period years records reads = .ok result) :
    result.2 ≤ reads + years.length := by
  induction years generalizing records reads with
  | nil =>
    cases h
    exact Nat.le_refl _
  | cons year years ih =>
    rw [readYears] at h
    obtain ⟨current, _, h⟩ := bind_eq_ok.mp h
    obtain ⟨_, _, h⟩ := bind_eq_ok.mp h
    dsimp only at h
    split at h
    · cases h
      simp
    · have := ih h
      simp only [List.length_cons]
      omega

theorem readRow_reads {period : Option (Int × Int)}
    {reading : WorkforceEmployee × Option ContractRecord} {row : WorkforceRow}
    (h : env.readRow period reading = .ok row) : row.payrollReads ≤ 3 := by
  obtain ⟨payroll, hpayroll, h⟩ := bind_eq_ok.mp h
  obtain ⟨records, hrecords, hpayroll⟩ := bind_eq_ok.mp hpayroll
  cases h
  cases hpayroll
  have hreads := readYears_reads hrecords
  have hyears : (env.candidateYears period).length ≤ 3 := by
    cases period <;> simp [candidateYears]
  show records.2 ≤ 3
  omega

theorem sum_reads_le {period : Option (Int × Int)}
    {readings : List (WorkforceEmployee × Option ContractRecord)} {rows : List WorkforceRow}
    (h : readings.mapM (env.readRow period) = .ok rows) :
    (rows.map (·.payrollReads)).sum ≤ 3 * readings.length := by
  have hrows := mapM_eq_ok.mp h
  clear h
  induction hrows with
  | nil => simp
  | cons hrow _ ih =>
    have := readRow_reads hrow
    simp only [List.map_cons, List.sum_cons, List.length_cons]
    omega

/-! ## The budgets -/

theorem splitAsciiForDiscord_within {table : List Char} {maximum : Nat} :
    RaisesWithin env.Untracked (splitAsciiForDiscord table maximum) := by
  apply RaisesWithin.bind (raisesWithin_ensure (untracked_of_cls (by simp) (by simp)))
  intro _ _
  apply RaisesWithin.bind
  · apply raisesWithin_foldlM
    intro p line
    apply RaisesWithin.bind (raisesWithin_ensure (untracked_of_cls (by decide) (by decide)))
    intro _ _
    dsimp only
    split
    · exact raisesWithin_ok
    · exact raisesWithin_ok
  · intro _ _
    exact raisesWithin_ok

theorem executeWorkforceContractPayrollTable_within {plan : HRQueryPlan}
    (hsteps : ThreeSteps plan) :
    RaisesWithin env.Untracked (env.executeWorkforceContractPayrollTable plan) := by
  unfold ThreeSteps at hsteps
  apply authorizeAll_within.bind
  intro _ _
  apply selectedPeriod_within.bind
  intro period _
  apply listAllEmployees_within.bind
  intro employees hroster
  obtain ⟨hlength, hlimit⟩ := listAllEmployees_ok hroster
  refine RaisesWithin.of_ok (QueryPlanTracker.create_eq (by omega) (by omega)) ?_
  refine RaisesWithin.of_ok (QueryPlanTracker.completeStep_eq (by simp [hsteps]) (by simp)
    (by simpa using hlimit) (by simp)) ?_
  apply (raisesWithin_mapM fun _ _ => readCurrentContract_within).bind
  intro readings hreadings
  have hreadingsLength := (mapM_eq_ok.mp hreadings).length_eq
  refine RaisesWithin.of_ok (QueryPlanTracker.completeStep_eq (by simp [hsteps])
    (by dsimp only; omega) (by simp) (by simp)) ?_
  apply (raisesWithin_mapM fun _ _ => readRow_within).bind
  intro rows hrows
  have hrowsLength := (mapM_eq_ok.mp hrows).length_eq
  have hreads := sum_reads_le hrows
  -- four reads of each employee at most, and one of the roster
  refine RaisesWithin.of_ok (QueryPlanTracker.completeStep_eq (by simp [hsteps])
    (by dsimp only; omega) (by simp) (by intro n hn; cases hn; dsimp only; omega)) ?_
  refine RaisesWithin.of_ok (mapError_eq_ok.mpr
    (QueryPlanTracker.verify_eq hsteps.symm rfl rfl (by omega))) ?_
  apply RaisesWithin.bind (raisesWithin_ensure (untracked_applicationError (by decide)))
  intro _ _
  apply splitAsciiForDiscord_within.bind
  intro chunks _
  apply audit_within.bind
  intro _ _
  exact raisesWithin_ok

/-! ## The comparison of contracts and payrolls -/

theorem authorizePlan_within {functionIds : List String} :
    RaisesWithin env.Untracked (authorizePlan env.toPlanEnvironment functionIds) := by
  induction functionIds with
  | nil => exact raisesWithin_ok
  | cons functionId rest ih =>
    apply specOf_within.bind
    intro spec _
    split
    · exact ih
    · dsimp only
      split
      · exact ih
      · apply directIntent_within.bind
        intro denied _
        apply audit_within.bind
        intro _ _
        exact raisesWithin_error (untracked_of_cls (by simp) (by simp))

theorem comparisonOf_within {plan : HRQueryPlan} :
    RaisesWithin env.Untracked (comparisonOf env.toPlanEnvironment plan) := by
  unfold comparisonOf
  split
  · exact raisesWithin_error (untracked_applicationError (by decide))
  · split
    · apply RaisesWithin.bind (raisesWithin_ensure (untracked_applicationError (by decide)))
      intro _ _
      apply RaisesWithin.bind (raisesWithin_ensure (untracked_applicationError (by decide)))
      intro _ _
      exact raisesWithin_ok
    · exact raisesWithin_error (untracked_applicationError (by decide))

theorem readContracts_within {employee : ListedEmployee} :
    RaisesWithin env.Untracked (readContracts env.toPlanEnvironment employee) := by
  show RaisesWithin env.Untracked (env.getContracts employee.employeeId >>= fun _ => _)
  apply getContracts_within.bind
  intro contracts _
  apply RaisesWithin.bind (raisesWithin_ensure (untracked_applicationError (by decide)))
  intro _ _
  exact raisesWithin_ok

theorem readPayroll_within {q : Comparison} {candidate : Candidate} :
    RaisesWithin env.Untracked (readPayroll env.toPlanEnvironment q candidate) := by
  apply RaisesWithin.bind
  · show RaisesWithin env.Untracked
      (env.getPayrollMetadata candidate.employee.employeeId q.year >>= fun _ => _)
    apply getPayrollMetadata_within.bind
    intro payrolls _
    exact raisesWithin_ok
  · intro payrolls _
    apply RaisesWithin.bind (raisesWithin_ensure (untracked_applicationError (by decide)))
    intro _ _
    exact raisesWithin_ok

theorem executeComparison_within {plan : HRQueryPlan} (hsteps : ThreeSteps plan) :
    RaisesWithin env.Untracked (executeComparison env.toPlanEnvironment plan) := by
  unfold ThreeSteps at hsteps
  apply authorizePlan_within.bind
  intro _ _
  apply comparisonOf_within.bind
  intro q _
  refine RaisesWithin.of_ok (QueryPlanTracker.create_eq (by omega) (by omega)) ?_
  apply RaisesWithin.bind
  · show RaisesWithin env.Untracked (env.listAllEmployees _ 500 >>= fun _ => _)
    apply listAllEmployees_within.bind
    intro roster _
    exact raisesWithin_ok
  intro employees hemployees
  obtain ⟨roster, hroster, hemployees⟩ := bind_eq_ok.mp hemployees
  obtain ⟨hlength, hlimit⟩ := listAllEmployees_ok hroster
  cases hemployees
  refine RaisesWithin.of_ok (QueryPlanTracker.completeStep_eq (by simp [hsteps]) (by simp)
    (by simpa using hlimit) (by simp)) ?_
  apply (raisesWithin_mapM fun _ _ => readContracts_within).bind
  intro readings hreadings
  have hreadingsLength : readings.length ≤ roster.total := by
    rw [← (mapM_eq_ok.mp hreadings).length_eq, ← hlength]
    exact (List.length_filter_le _ _).trans (List.length_map _).le
  refine RaisesWithin.of_ok (QueryPlanTracker.completeStep_eq (by simp [hsteps])
    (by dsimp only; omega) (by simp) (by simp)) ?_
  apply (raisesWithin_mapM fun _ _ => readPayroll_within).bind
  intro payrolls hpayrolls
  have hpayrollsLength : payrolls.length ≤ readings.length := by
    rw [← (mapM_eq_ok.mp hpayrolls).length_eq]
    exact List.length_filterMap_le _ _
  have hrowsLength := List.length_filter_le (fun row => row.available == q.wanted) payrolls
  -- two reads of each employee at most, and one of the roster
  refine RaisesWithin.of_ok (QueryPlanTracker.completeStep_eq (by simp [hsteps])
    (by dsimp only; omega) (by simp) (by intro n hn; cases hn; dsimp only; omega)) ?_
  refine RaisesWithin.of_ok (mapError_eq_ok.mpr
    (QueryPlanTracker.verify_eq hsteps.symm rfl rfl (by dsimp only; omega))) ?_
  apply RaisesWithin.bind (raisesWithin_ensure (untracked_applicationError (by decide)))
  intro _ _
  show RaisesWithin env.Untracked (env.audit "query_plan.completed" "EMP-PAY-002" .success >>=
    fun _ => _)
  apply audit_within.bind
  intro _ _
  exact raisesWithin_ok

end WorkforceEnvironment

/-! ## Main results -/

section Planned

variable {u : UnicodeData} {today : Date} {request : List Char}

theorem compoundContractPayrollPlan_steps {plan : HRQueryPlan}
    (h : Planner.compoundContractPayrollPlan u today request = .ok (some plan)) :
    ∃ functionIds, plan.steps = stepsOf functionIds := by
  rw [Planner.compoundContractPayrollPlan] at h
  split at h
  · split at h
    · cases h
    · obtain ⟨period, _, h⟩ := bind_eq_ok.mp h
      split at h
      · cases h
      · obtain ⟨_, _, h⟩ := bind_eq_ok.mp h
        obtain ⟨_, _, h⟩ := bind_eq_ok.mp h
        obtain ⟨_, _, h⟩ := bind_eq_ok.mp h
        cases h
        exact ⟨_, rfl⟩
  · cases h

theorem workforceContractPayrollTable_steps {plan : HRQueryPlan}
    (h : Planner.workforceContractPayrollTable u today request = .ok (some plan)) :
    ∃ functionIds, plan.steps = stepsOf functionIds := by
  rw [Planner.workforceContractPayrollTable] at h
  split at h
  · obtain ⟨_, _, h⟩ := bind_eq_ok.mp h
    cases h
    exact ⟨_, rfl⟩
  · cases h

theorem legacyPlan_steps {planned : LocalPlannedRequest}
    (h : Planner.legacyPlan u today request = .ok (some planned)) :
    ∃ functionIds, planned.plan.steps = stepsOf functionIds := by
  obtain ⟨dossier, hdossier, h⟩ := bind_eq_ok.mp h
  cases dossier with
  | some dossier =>
    cases h
    rw [Planner.employeeHrDossier] at hdossier
    split at hdossier
    · obtain ⟨legacy, _, hdossier⟩ := bind_eq_ok.mp hdossier
      cases legacy with
      | none => cases hdossier
      | some legacy =>
        dsimp only at hdossier
        split at hdossier
        · cases hdossier
        · cases hdossier
          exact ⟨_, rfl⟩
    · cases hdossier
  | none =>
    obtain ⟨legacy, _, h⟩ := bind_eq_ok.mp h
    obtain ⟨single, _, rfl⟩ := Option.map_eq_some_iff.mp (Except.ok.inj h)
    exact ⟨_, rfl⟩

/-- The steps of a plan are numbered. -/
theorem buildLocalHrQueryPlan_steps {planned : LocalPlannedRequest}
    (h : Planner.buildLocalHrQueryPlan u today request = .ok (some planned)) :
    ∃ functionIds, planned.plan.steps = stepsOf functionIds := by
  obtain ⟨compound, hcompound, h⟩ := bind_eq_ok.mp h
  cases compound with
  | some plan =>
    cases h
    exact compoundContractPayrollPlan_steps hcompound
  | none =>
    obtain ⟨workforce, hworkforce, h⟩ := bind_eq_ok.mp h
    cases workforce with
    | some plan =>
      cases h
      exact workforceContractPayrollTable_steps hworkforce
    | none => exact legacyPlan_steps h

theorem threeSteps_of_length {plan : HRQueryPlan} {functionIds : List String}
    (hsteps : plan.steps = stepsOf functionIds) (hlength : plan.steps.length = 3) :
    ThreeSteps plan := by
  rw [hsteps] at hlength
  rw [ThreeSteps, hsteps]
  match functionIds, hlength with
  | [first, second, third], _ => rfl

end Planned

/-- **Plans are accounted for.** A verification, after any calls of the tracker of any plan, has seen
each step of the plan in order and both counts, and what the steps read is in the budget; a plan over
the roster, executed against any adapter, raises no error of its tracker. -/
theorem accounting_exact (plan : HRQueryPlan) (maxResourceReads maxSourceRecords : Int)
    (calls : List StepCall) (env : WorkforceEnvironment) (u : UnicodeData) (today : Date)
    (request : List Char) :
    (∀ tracker evidence,
      QueryPlanTracker.start plan maxResourceReads maxSourceRecords = .ok tracker →
      (tracker.after calls).verify = .ok evidence →
      QueryPlanTracker.VerifiedRun plan maxResourceReads (QueryPlanTracker.history tracker calls)
        evidence) ∧
    ∀ planned, Planner.buildLocalHrQueryPlan u today request = .ok (some planned) →
      RaisesWithin env.Untracked (executeQueryPlan env.toPlanEnvironment planned.plan) := by
  constructor
  · intro tracker evidence hstart hverify
    exact QueryPlanTracker.verifiedRun_of_verify hstart hverify
  · intro planned hplanned
    obtain ⟨functionIds, hsteps⟩ := buildLocalHrQueryPlan_steps hplanned
    rw [executeQueryPlan]
    split
    · rename_i hintent
      apply RaisesWithin.bind (WorkforceEnvironment.executeWorkforceContractPayrollTable_within
        (threeSteps_of_length hsteps hintent.2))
      intro table _
      exact raisesWithin_ok
    · split
      · exact raisesWithin_error (WorkforceEnvironment.untracked_applicationError (by decide))
      · rename_i hintent
        push Not at hintent
        exact WorkforceEnvironment.executeComparison_within
          (threeSteps_of_length hsteps hintent.2)

/-! ## Samples -/

section Samples

/-- Nobody is employed. -/
def emptyWorkforce : WorkforceEnvironment where
  unicode := asciiTables
  collectionText _ := "[]"
  evaluate functionId _ := .allow functionId
  audit _ _ _ := .ok ()
  listEmployees query := .ok ⟨[], query.page, query.pageSize, 0, false⟩
  describe item := { workforceMember item.employeeId with
    toEmployeeListItem := item
    currentContractValidTo := none }
  describe_item _ := rfl
  getContracts _ := .ok []
  getPayrollMetadata _ _ := .ok []
  today := july.dateFrom
  now := "2026-07-01T08:00:00+00:00"
  timestamp := "2026-07-01_080000"
  responseAttachmentMaxBytes := 8000000

/-- The second step is called out of turn, and then with another source. -/
def julyCalls : List StepCall :=
  [⟨"step_2", 1, none, none⟩, ⟨"step_1", 1, some 2, none⟩, ⟨"step_2", 2, some 3, none⟩,
    ⟨"step_2", 2, none, none⟩, ⟨"step_3", 1, none, some 1⟩]

def julyTracker : QueryPlanTracker where
  planIntent := julyPlan.intent
  expected := julyPlan.steps.map (·.stepId)
  maxResourceReads := 10
  maxSourceRecords := 5

theorem accounting_july :
    QueryPlanTracker.VerifiedRun julyPlan 10 (QueryPlanTracker.history julyTracker julyCalls)
        ⟨julyPlan.intent, ["step_1", "step_2", "step_3"], 6, 2, 1⟩ ∧
      ∃ planned, Planner.buildLocalHrQueryPlan asciiTables emptyWorkforce.today
          "tabella contratti netti".toList = .ok (some planned) ∧
        RaisesWithin emptyWorkforce.Untracked
          (executeQueryPlan emptyWorkforce.toPlanEnvironment planned.plan) := by
  have haccounted := accounting_exact julyPlan 10 5 julyCalls emptyWorkforce asciiTables
    emptyWorkforce.today "tabella contratti netti".toList
  refine ⟨haccounted.1 julyTracker _ rfl rfl, ?_⟩
  have hplanned : (Planner.buildLocalHrQueryPlan asciiTables emptyWorkforce.today
      "tabella contratti netti".toList).toOption.join.isSome = true := by decide +kernel
  generalize hbuild : Planner.buildLocalHrQueryPlan asciiTables emptyWorkforce.today
    "tabella contratti netti".toList = built at hplanned
  match built, hplanned with
  | .ok (some planned), _ => exact ⟨planned, rfl, haccounted.2 planned hbuild⟩

end Samples

end BhDic.Application
