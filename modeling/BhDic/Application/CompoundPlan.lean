import BhDic.Application.Ask
import BhDic.Application.Masking
import BhDic.Dic.Roster
import BhDic.Query.Execution

/-!
# Contracts compared with payrolls

`_execute_query_plan` of the plan that compares the contracts that end within a range with the
payrolls of a month. The answer says that it is complete, always; a contract whose end date is no
date that `_parse_dic_date` reads is left out of it (`comparison_complete_iff`).
-/

namespace BhDic.Application

open BhDic.Audit BhDic.Dic BhDic.HrAssistant BhDic.Library BhDic.Policies BhDic.Python BhDic.Query
open BhDic.Security

/-! ## End dates -/

/-- The pattern of `strptime` for `%d/%m/%Y`. -/
def dayMonthYear (u : UnicodeData) : Regex :=
  u.reAnyCase
    [r"(?P<d>3[0-1]|[1-2]\d|0[1-9]|[1-9]| [1-9])/(?P<m>1[0-2]|0[1-9]|[1-9])/(?P<Y>\d\d\d\d)"]

/-- `datetime.strptime(text, "%d/%m/%Y").date()`: nothing may follow the year. -/
def strptimeDayMonthYear (u : UnicodeData) (text : List Char) : Option Date :=
  match ((dayMonthYear u).results { before := [], after := text }).head? with
  | none => none
  | some stop =>
      if stop.after = [] then do
        let day ← readInt u ((stop.group 1).elim [] (·.text))
        let month ← readInt u ((stop.group 2).elim [] (·.text))
        let year ← readInt u ((stop.group 3).elim [] (·.text))
        Date.make? year.toNat month.toNat day.toNat
      else none

/-- `_parse_dic_date`. -/
def parseDicDate (u : UnicodeData) (value : String) : Option Date :=
  let candidate := strip value
  (Date.fromisoformat candidate).or (strptimeDayMonthYear u candidate.toList)

/-! ## What a plan is executed with -/

/-- What is read of a `PayrollMetadata`. -/
structure PayrollReading where
  employeeId : String
  year : Int
  month : Option Int

structure WorkforceRoster where
  items : List ListedEmployee
  total : Nat

/-- The adapter and the rest of the coordinator, of one actor. A roster names nobody twice, so that
each employee is read once and the readings are functions. -/
structure PlanEnvironment where
  unicode : UnicodeData
  /-- `str` of a collection -/
  collectionText : Json → String
  /-- `policy.evaluate`, in the actor's context -/
  evaluate : (functionId : String) → PolicyDecision
  audit : (eventType functionId : String) → AuditOutcome → Except Exn Unit
  listAllEmployees : EmployeeListQuery → (maxRecords : Nat) → Except Exn WorkforceRoster
  getContracts : (employeeId : String) → Except Exn (List ContractRecord)
  getPayrollMetadata : (employeeId : String) → (year : Int) → Except Exn (List PayrollReading)
  /-- `datetime.now(UTC).isoformat()` -/
  now : String
  responseAttachmentMaxBytes : Nat
  executeWorkforceContractPayrollTable : HRQueryPlan → Except Exn AskResponse

variable (env : PlanEnvironment)

/-! ## What a plan asks -/

/-- `filters.get(field)`: the last filter of a field. -/
def filterOf (plan : HRQueryPlan) (field : String) : Option HRFilter :=
  plan.filters.reverse.find? fun filter => filter.field == field

/-- `str(value)` of the value of a filter. -/
def filterText : Option Json → String
  | none => "None"
  | some (.str text) => text
  | some (.int n) => toString n
  | some (.bool b) => if b then "True" else "False"
  | some value => env.collectionText value

/-- The range of the end dates, the month of the payroll, whether it has to exist, and the casefolded
group. -/
structure Comparison where
  range : HRDateRange
  month : Int
  year : Int
  wanted : Bool
  group : Option (List Char)

/-- What the plan says of them, or the error it is refused with. -/
def comparisonOf (plan : HRQueryPlan) : Except Exn Comparison :=
  match plan.dateRange with
  | none => .error (applicationError "compound contract plan requires a date range")
  | some range =>
      match (filterOf plan "payroll_month").bind (·.value),
        (filterOf plan "payroll_year").bind (·.value), filterOf plan "payroll" with
      | some (.int month), some (.int year), some payroll => do
          ensure (payroll.operator = .exists_ ∨ payroll.operator = .notExists)
            (applicationError "compound payroll filters are incomplete")
          ensure ((1 ≤ month ∧ month ≤ 12) ∧ 2000 ≤ year ∧ year ≤ 2200)
            (applicationError "compound payroll period is invalid")
          return {
            range := range
            month := month
            year := year
            wanted := payroll.operator = .exists_
            group := (filterOf plan "group").map fun filter =>
              env.unicode.casefold (strip (filterText env filter.value)).toList }
      | _, _, _ => .error (applicationError "compound payroll filters are incomplete")

/-- A plan may be executed when each of its functions that has no target is allowed. -/
def authorizePlan : List String → Except Exn Unit
  | [] => .ok ()
  | functionId :: rest => do
      let spec ← specOf functionId
      if spec.requiresTarget then authorizePlan rest
      else
        let decision := env.evaluate functionId
        if decision.allowed then authorizePlan rest
        else do
          let denied ← directIntent functionId none []
          env.audit "policy.denied" denied.functionId .denied
          .error ⟨.applicationPolicyDenied, decision.reason⟩

/-! ## The readings -/

/-- Whether the contracts of an employee are read. -/
def inGroup (group : Option (List Char)) (employee : ListedEmployee) : Bool :=
  group.all fun value =>
    containsText value (env.unicode.casefold (strip (employee.groupName.getD "")).toList)

/-- The contracts of one employee. -/
def readContracts (employee : ListedEmployee) :
    Except Exn (ListedEmployee × List ContractRecord) := do
  let contracts ← env.getContracts employee.employeeId
  ensure (∀ contract ∈ contracts, contract.employeeId = employee.employeeId)
    (applicationError "contract resource identity changed during query plan")
  return (employee, contracts)

/-- The end of a contract, when it can be read and lies in the range. -/
def endWithin (range : HRDateRange) (contract : ContractRecord) : Option Date :=
  (contract.endDate.bind (parseDicDate env.unicode)).filter fun date =>
    range.dateFrom ≤ date ∧ date ≤ range.dateTo

structure ContractEnd where
  contract : ContractRecord
  date : Date

/-- `matching_contracts`. -/
def matchingContracts (range : HRDateRange) (contracts : List ContractRecord) : List ContractEnd :=
  contracts.filterMap fun contract => (endWithin env range contract).map (⟨contract, ·⟩)

/-- The order of the keys `(date, contract_id)`. -/
def ContractEnd.before (x y : ContractEnd) : Bool :=
  x.date.digits < y.date.digits ||
    (x.date.digits == y.date.digits && x.contract.contractId < y.contract.contractId)

/-- `min`, the first one of the least. -/
def firstToEnd : List ContractEnd → Option ContractEnd
  | [] => none
  | first :: rest => some (rest.foldl (fun least x => if x.before least then x else least) first)

structure Candidate where
  employee : ListedEmployee
  ending : ContractEnd

def candidateOf (range : HRDateRange) (reading : ListedEmployee × List ContractRecord) :
    Option Candidate :=
  (firstToEnd (matchingContracts env range reading.2)).map (⟨reading.1, ·⟩)

structure ComparisonRow extends Candidate where
  available : Bool

/-- The payrolls of one candidate. -/
def readPayroll (q : Comparison) (candidate : Candidate) : Except Exn ComparisonRow := do
  let payrolls ← env.getPayrollMetadata candidate.employee.employeeId q.year
  ensure (∀ record ∈ payrolls, record.employeeId = candidate.employee.employeeId ∧
      record.year = q.year)
    (applicationError "payroll resource identity changed during query plan")
  return { toCandidate := candidate, available := payrolls.any (·.month = some q.month) }

/-! ## The answer -/

/-- A line of the attachment. -/
def rowText (row : ComparisonRow) : String :=
  "\t".intercalate [employeeDisplayName env.unicode row.employee, row.employee.employeeId,
    String.ofList row.ending.date.isoformat, if row.available then "sì" else "no"]

def tableText (rows : List ComparisonRow) : String :=
  "\n".intercalate ("Nome\tEmployee ID\tScadenza contratto\tBusta paga disponibile" ::
    rows.map (rowText env)) ++ "\n"

/-- `f"{month:02d}"`. -/
def twoDigits (month : Int) : String := String.ofList (padDigits 2 month.toNat)

def comparisonTable (q : Comparison) (rows : List ComparisonRow) : ResponseAttachment where
  filename := "contratti_payroll_" ++ toString q.year ++ "_" ++ twoDigits q.month ++ ".tsv"
  contentType := "text/tab-separated-values; charset=utf-8"
  content := encodeUtf8 (tableText env rows)

def rowField (q : Comparison) (row : ComparisonRow) : String × String :=
  (employeeDisplayName env.unicode row.employee ++ " · ID " ++ row.employee.employeeId,
    "Scadenza: " ++ String.ofList row.ending.date.isoformat ++ " · busta paga " ++
      twoDigits q.month ++ "/" ++ toString q.year ++ ": " ++
      (if row.available then "presente" else "assente"))

/-- The description up to its last words. -/
def comparisonSummary (q : Comparison) (total candidates : Nat) (rows : List ComparisonRow)
    (evidence : QueryPlanEvidence) : String :=
  "Dipendenti completi acquisiti: " ++ toString total ++
    "; candidati con contratto in scadenza: " ++ toString candidates ++
    "; risultati: " ++ toString rows.length ++
    ". Periodo contratti: " ++ String.ofList q.range.dateFrom.isoformat ++ " → " ++
    String.ofList q.range.dateTo.isoformat ++ "; periodo paga: " ++ twoDigits q.month ++ "/" ++
    toString q.year ++
    ((q.group.filter (· ≠ [])).elim "" fun value => " · gruppo contiene: " ++ String.ofList value) ++
    ". Mostrati nel messaggio: " ++ toString (rows.take 25).length ++
    "; il dataset completo è allegato. Acquisizione UTC: " ++ env.now ++
    ". Letture verificate: " ++ toString evidence.resourceReads

def comparisonResponse (q : Comparison) (total candidates : Nat) (rows : List ComparisonRow)
    (evidence : QueryPlanEvidence) : AskResponse where
  result := {
    title := "Contratti e buste paga — confronto completo"
    description :=
      comparisonSummary env q total candidates rows evidence ++ ". Completezza: COMPLETE."
    attachments := [comparisonTable env q rows] }
  fields := (rows.take 25).map (rowField env q)

/-- The plan that compares contracts and payrolls. -/
def executeComparison (plan : HRQueryPlan) : Except Exn AskResponse := do
  authorizePlan env (plan.steps.map (·.functionId)).eraseDups
  let q ← comparisonOf env plan
  let tracker ← QueryPlanTracker.create plan (1 + 2 * 500) 500
  let employees ← env.listAllEmployees ({ employeeFilter := .all } : EmployeeListQuery) 500
  let tracker ← tracker.completeStep "step_1" 1 (some employees.total) none
  let readings ← (employees.items.filter (inGroup env q.group)).mapM (readContracts env)
  let candidates := readings.filterMap (candidateOf env q.range)
  let tracker ← tracker.completeStep "step_2" readings.length none none
  let payrolls ← candidates.mapM (readPayroll env q)
  let rows := payrolls.filter fun row => row.available == q.wanted
  let tracker ← tracker.completeStep "step_3" payrolls.length none (some rows.length)
  let evidence ← tracker.verify.mapError fun _ =>
    applicationError "HR query objective could not be verified"
  ensure ((encodeUtf8 (tableText env rows)).length ≤ env.responseAttachmentMaxBytes)
    (applicationError "compound result exceeds the configured attachment limit")
  env.audit "query_plan.completed" "EMP-PAY-002" .success
  return comparisonResponse env q employees.total candidates.length rows evidence

/-- `_execute_query_plan`. -/
def executeQueryPlan (plan : HRQueryPlan) : Except Exn AskResponse :=
  if plan.intent = "workforce_contract_payroll_table" ∧ plan.steps.length = 3 then
    env.executeWorkforceContractPayrollTable plan
  else if plan.intent ≠ "contract_expiry_payroll_comparison" ∨ plan.steps.length ≠ 3 then
    .error (applicationError "validated HR query plan is not locally executable")
  else executeComparison env plan

/-! ## What the readings say -/

/-- The contracts of an employee, as they were read. -/
def contractsOf (employee : ListedEmployee) : List ContractRecord :=
  (env.getContracts employee.employeeId).toOption.getD []

def payrollsOf (year : Int) (employee : ListedEmployee) : List PayrollReading :=
  (env.getPayrollMetadata employee.employeeId year).toOption.getD []

/-- The end date of a contract is empty, or a date. -/
def Interpretable (u : UnicodeData) (contract : ContractRecord) : Prop :=
  ∀ text ∈ contract.endDate, text ≠ "" → (parseDicDate u text).isSome

/-- What is asked of an employee: the group, a contract that ends in the range, and whether there is
a payroll of the month. -/
structure Satisfies (q : Comparison) (employee : ListedEmployee) : Prop where
  group : inGroup env q.group employee = true
  contract : ∃ contract ∈ contractsOf env employee, ∃ text ∈ contract.endDate,
    ∃ date ∈ parseDicDate env.unicode text, q.range.dateFrom ≤ date ∧ date ≤ q.range.dateTo
  payroll : (∃ record ∈ payrollsOf env q.year employee, record.month = some q.month) ↔
    q.wanted = true

/-- A row tells what was read. -/
structure ComparisonRow.IsRead (q : Comparison) (row : ComparisonRow) : Prop where
  contract : row.ending.contract ∈ contractsOf env row.employee
  date : row.ending.contract.endDate.bind (parseDicDate env.unicode) = some row.ending.date
  payroll : row.available = true ↔
    ∃ record ∈ payrollsOf env q.year row.employee, record.month = some q.month

/-- The answer says that it is complete. -/
def AskResponse.SaysComplete (response : AskResponse) : Prop :=
  "Completezza: COMPLETE.".toList <:+: response.result.description.toList

open Classical in
/-- An answer that says that it is complete lists the employees that satisfy the question, and left
no end date out. -/
structure AnswersCompletely (q : Comparison) (roster : WorkforceRoster) (response : AskResponse) :
    Prop where
  lists : response.SaysComplete → ∃ rows : List ComparisonRow,
    rows.map (·.employee) = roster.items.filter (fun employee => Satisfies env q employee) ∧
      (∀ row ∈ rows, row.IsRead env q) ∧
      response.result.attachments = [comparisonTable env q rows]
  interpreted : response.SaysComplete → ∀ employee ∈ roster.items,
    inGroup env q.group employee = true →
      ∀ contract ∈ contractsOf env employee, Interpretable env.unicode contract

/-! ## The loops -/

section Loops

variable {env} {q : Comparison} {employee : ListedEmployee}

theorem eq_of_readContracts {reading : ListedEmployee × List ContractRecord}
    (h : readContracts env employee = .ok reading) : reading = (employee, contractsOf env employee) := by
  simp only [readContracts, bind_eq_ok] at h
  obtain ⟨contracts, hcontracts, _, _, h⟩ := h
  cases h
  simp [contractsOf, hcontracts, Except.toOption]

/-- The rows of the candidates, before those that are not wanted go. -/
def rowOf (env : PlanEnvironment) (q : Comparison) (candidate : Candidate) : ComparisonRow where
  toCandidate := candidate
  available := (payrollsOf env q.year candidate.employee).any (·.month = some q.month)

theorem eq_of_readPayroll {candidate : Candidate} {row : ComparisonRow}
    (h : readPayroll env q candidate = .ok row) : row = rowOf env q candidate := by
  simp only [readPayroll, bind_eq_ok] at h
  obtain ⟨payrolls, hpayrolls, _, _, h⟩ := h
  cases h
  simp [rowOf, payrollsOf, hpayrolls, Except.toOption]

theorem mem_matchingContracts {range : HRDateRange} {contracts : List ContractRecord}
    {ending : ContractEnd} :
    ending ∈ matchingContracts env range contracts ↔
      ending.contract ∈ contracts ∧ endWithin env range ending.contract = some ending.date := by
  simp only [matchingContracts, List.mem_filterMap, Option.map_eq_some_iff]
  constructor
  · rintro ⟨contract, hmem, date, hdate, rfl⟩
    exact ⟨hmem, hdate⟩
  · rintro ⟨hmem, hdate⟩
    exact ⟨ending.contract, hmem, ending.date, hdate, rfl⟩

theorem endWithin_eq_some {range : HRDateRange} {contract : ContractRecord} {date : Date} :
    endWithin env range contract = some date ↔
      contract.endDate.bind (parseDicDate env.unicode) = some date ∧
        range.dateFrom ≤ date ∧ date ≤ range.dateTo := by
  simp [endWithin, Option.filter_eq_some_iff]

/-- The least of the ends is one of them. -/
theorem firstToEnd_mem {ends : List ContractEnd} {ending : ContractEnd}
    (h : firstToEnd ends = some ending) : ending ∈ ends := by
  cases ends with
  | nil => cases h
  | cons first rest =>
    obtain rfl := Option.some.inj h
    clear h
    -- the fold keeps one of the two it compares
    induction rest generalizing first with
    | nil => simp
    | cons x rest ih =>
      rw [List.foldl_cons]
      have hmem := ih (if x.before first then x else first)
      grind

theorem firstToEnd_isSome {ends : List ContractEnd} : (firstToEnd ends).isSome ↔ ends ≠ [] := by
  cases ends <;> simp [firstToEnd]

/-- The candidate of one employee, and its row when that is wanted. -/
def listed (env : PlanEnvironment) (q : Comparison) (employee : ListedEmployee) :
    Option ComparisonRow :=
  ((candidateOf env q.range (employee, contractsOf env employee)).map (rowOf env q)).filter
    fun row => row.available == q.wanted

theorem listed_employee {row : ComparisonRow} (h : listed env q employee = some row) :
    row.employee = employee ∧ row.IsRead env q := by
  obtain ⟨h, _⟩ := Option.filter_eq_some_iff.mp h
  obtain ⟨candidate, hcandidate, rfl⟩ := Option.map_eq_some_iff.mp h
  obtain ⟨ending, hending, rfl⟩ := Option.map_eq_some_iff.mp hcandidate
  obtain ⟨hmem, hwithin⟩ := mem_matchingContracts.mp (firstToEnd_mem hending)
  refine ⟨rfl, hmem, (endWithin_eq_some.mp hwithin).1, ?_⟩
  simp [rowOf]

/-- An employee of the group has a row when it satisfies the question. -/
theorem listed_isSome (hgroup : inGroup env q.group employee = true) :
    (listed env q employee).isSome ↔ Satisfies env q employee := by
  have hcontract : (firstToEnd (matchingContracts env q.range (contractsOf env employee))).isSome ↔
      ∃ contract ∈ contractsOf env employee, ∃ text ∈ contract.endDate,
        ∃ date ∈ parseDicDate env.unicode text, q.range.dateFrom ≤ date ∧ date ≤ q.range.dateTo := by
    rw [firstToEnd_isSome]
    constructor
    · intro hends
      obtain ⟨ending, hending⟩ := List.exists_mem_of_ne_nil _ hends
      obtain ⟨hmem, hwithin⟩ := mem_matchingContracts.mp hending
      obtain ⟨hdate, hrange⟩ := endWithin_eq_some.mp hwithin
      obtain ⟨text, htext, hparse⟩ := Option.bind_eq_some_iff.mp hdate
      exact ⟨_, hmem, text, htext, _, hparse, hrange⟩
    · rintro ⟨contract, hmem, text, htext, date, hparse, hrange⟩
      apply List.ne_nil_of_mem (a := ⟨contract, date⟩)
      apply mem_matchingContracts.mpr
      refine ⟨hmem, ?_⟩
      exact endWithin_eq_some.mpr ⟨Option.bind_eq_some_iff.mpr ⟨text, htext, hparse⟩, hrange⟩
  constructor
  · intro h
    obtain ⟨row, hrow⟩ := Option.isSome_iff_exists.mp h
    obtain ⟨hmap, hwanted⟩ := Option.filter_eq_some_iff.mp hrow
    obtain ⟨candidate, hcandidate, rfl⟩ := Option.map_eq_some_iff.mp hmap
    obtain ⟨ending, hending, rfl⟩ := Option.map_eq_some_iff.mp hcandidate
    refine ⟨hgroup, hcontract.mp (by rw [hending]; rfl), ?_⟩
    have hsame : (rowOf env q ⟨employee, ending⟩).available = q.wanted := by simpa using hwanted
    rw [← hsame]
    simp [rowOf]
  · intro h
    obtain ⟨ending, hending⟩ := Option.isSome_iff_exists.mp (hcontract.mpr h.contract)
    have hwanted : (rowOf env q ⟨employee, ending⟩).available = q.wanted := by
      have hpayroll := h.payroll
      rw [Bool.eq_iff_iff, ← hpayroll]
      simp [rowOf]
    simp [listed, candidateOf, hending, hwanted]

/-- The rows are those of the employees of the roster, in its order. -/
theorem rows_eq {items : List ListedEmployee} {readings : List (ListedEmployee × List ContractRecord)}
    {payrolls : List ComparisonRow}
    (hreadings : (items.filter (inGroup env q.group)).mapM (readContracts env) = .ok readings)
    (hpayrolls : (readings.filterMap (candidateOf env q.range)).mapM (readPayroll env q) =
      .ok payrolls) :
    payrolls.filter (fun row => row.available == q.wanted) =
      (items.filter (inGroup env q.group)).filterMap (listed env q) := by
  have hread := map_of_mapM_eq_ok (fun _ _ => eq_of_readContracts) hreadings
  have hpaid := map_of_mapM_eq_ok (fun _ _ => eq_of_readPayroll) hpayrolls
  rw [hpaid, hread]
  clear hread hpaid hreadings hpayrolls
  induction items.filter (inGroup env q.group) with
  | nil => rfl
  | cons employee group ih =>
    rw [List.filterMap_cons, ← ih, List.map_cons, List.filterMap_cons]
    cases hcandidate : candidateOf env q.range (employee, contractsOf env employee) with
    | none => simp [listed, hcandidate]
    | some candidate =>
      by_cases hwanted : (rowOf env q candidate).available = q.wanted <;>
        simp [listed, hcandidate, hwanted, Option.filter_some]

open Classical in
theorem rows_employees {items : List ListedEmployee} :
    ((items.filter (inGroup env q.group)).filterMap (listed env q)).map (·.employee) =
      items.filter (fun employee => Satisfies env q employee) := by
  induction items with
  | nil => rfl
  | cons employee items ih =>
    by_cases hgroup : inGroup env q.group employee = true
    · rw [List.filter_cons_of_pos hgroup, List.filterMap_cons]
      cases hlisted : listed env q employee with
      | none =>
        have hnot : ¬Satisfies env q employee := by
          rw [← listed_isSome hgroup, hlisted]
          simp
        simp [hnot, ih]
      | some row =>
        have hsatisfies : Satisfies env q employee := by
          rw [← listed_isSome hgroup, hlisted]
          rfl
        simp [hsatisfies, ih, (listed_employee hlisted).1]
    · have hnot : ¬Satisfies env q employee := fun h => hgroup h.group
      simp [hgroup, hnot, ih]

end Loops

/-! ## Main results -/

section Answers

variable {env} {plan : HRQueryPlan} {q : Comparison} {roster : WorkforceRoster}
  {response : AskResponse}

/-- The evidence of an answer: every step of the plan, within its budget. -/
def Verified (plan : HRQueryPlan) (evidence : QueryPlanEvidence) : Prop :=
  evidence.completedSteps = plan.steps.map (·.stepId) ∧ evidence.resourceReads ≤ 1 + 2 * 500 ∧
    evidence.resultRecords ≤ evidence.sourceRecords

/-- What an answer is made of. -/
theorem executeComparison_eq_ok (hq : comparisonOf env plan = .ok q)
    (hroster : env.listAllEmployees ({ employeeFilter := .all } : EmployeeListQuery) 500 = .ok roster)
    (h : executeComparison env plan = .ok response) :
    ∃ candidates evidence, Verified plan evidence ∧
      response = comparisonResponse env q roster.total candidates
        ((roster.items.filter (inGroup env q.group)).filterMap (listed env q)) evidence := by
  simp only [executeComparison, bind_eq_ok, hq, hroster] at h
  obtain ⟨_, _, _, hq', t₀, hcreate, _, hroster', t₁, hstep₁, readings, hreadings, t₂, hstep₂,
    payrolls, hpayrolls, t₃, hstep₃, evidence, hverify, _, _, _, _, h⟩ := h
  obtain rfl := Except.ok.inj hq'
  obtain rfl := Except.ok.inj hroster'
  obtain rfl := Except.ok.inj h
  have hstart := QueryPlanTracker.within_create hcreate
  obtain ⟨hwithin₁, hkeep₁⟩ := QueryPlanTracker.completeStep_within hstart hstep₁
  obtain ⟨hwithin₂, hkeep₂⟩ := QueryPlanTracker.completeStep_within hwithin₁ hstep₂
  obtain ⟨hwithin₃, hkeep₃⟩ := QueryPlanTracker.completeStep_within hwithin₂ hstep₃
  have hevidence := QueryPlanTracker.verify_within hwithin₃ (mapError_eq_ok.mp hverify)
  rw [hkeep₃.1, hkeep₂.1, hkeep₁.1, hkeep₃.2, hkeep₂.2, hkeep₁.2,
    (QueryPlanTracker.declared_of_create hcreate).1,
    (QueryPlanTracker.declared_of_create hcreate).2] at hevidence
  exact ⟨_, evidence, hevidence, by rw [rows_eq hreadings hpayrolls]⟩

theorem saysComplete_comparisonResponse {total candidates : Nat} {rows : List ComparisonRow}
    {evidence : QueryPlanEvidence} :
    (comparisonResponse env q total candidates rows evidence).SaysComplete := by
  show "Completezza: COMPLETE.".toList <:+:
    (comparisonSummary env q total candidates rows evidence ++ ". Completezza: COMPLETE.").toList
  rw [String.toList_append]
  exact ⟨(comparisonSummary env q total candidates rows evidence).toList ++ ". ".toList, [], by simp⟩

/-- An answer is complete, as it says, when each end date that was read is empty or a date. -/
theorem comparison_complete_iff (hintent : plan.intent = "contract_expiry_payroll_comparison")
    (hq : comparisonOf env plan = .ok q)
    (hroster : env.listAllEmployees ({ employeeFilter := .all } : EmployeeListQuery) 500 = .ok roster)
    (h : executeQueryPlan env plan = .ok response) :
    AnswersCompletely env q roster response ↔
      ∀ employee ∈ roster.items, inGroup env q.group employee = true →
        ∀ contract ∈ contractsOf env employee, Interpretable env.unicode contract := by
  have hexecuted : executeComparison env plan = .ok response := by
    rw [executeQueryPlan, if_neg (by rw [hintent]; simp)] at h
    split at h
    · cases h
    · exact h
  obtain ⟨candidates, evidence, _, rfl⟩ := executeComparison_eq_ok hq hroster hexecuted
  constructor
  · intro hcomplete
    exact hcomplete.interpreted saysComplete_comparisonResponse
  · intro hinterpretable
    refine ⟨fun _ => ⟨_, rows_employees, ?_, rfl⟩, fun _ => hinterpretable⟩
    intro row hrow
    obtain ⟨employee, _, hlisted⟩ := List.mem_filterMap.mp hrow
    obtain ⟨hemployee, hread⟩ := listed_employee hlisted
    exact hread

end Answers

/-! ## Samples -/

section Samples

def workforceMember (employeeId : String) : ListedEmployee where
  employeeId := employeeId
  accountState := .connected
  employeeState := .active
  displayName := none
  firstName := none
  lastName := none
  displayNameRedacted := "M. R."
  emailRedacted := none
  taxCodeRedacted := none
  jobTitle := none
  groupName := some "Cucina"
  payrollNumber := none
  contractLabel := none
  contractState := none
  workplace := none

def contractEnding (endDate : String) : ContractRecord where
  contractId := "c1"
  employeeId := "41"
  stableIdentifier := true
  actionable := true
  schedule := none
  flexibility := none
  permanent := some false
  startDate := none
  endDate := some endDate
  ccnlLevel := none
  workRegime := none
  description := none
  contractType := none
  status := none
  period := none

def workforce : WorkforceRoster := ⟨[workforceMember "41"], 1⟩

/-- One employee with one contract and no payroll. -/
def oneContract (endDate : String) : PlanEnvironment where
  unicode := asciiTables
  collectionText _ := "[]"
  evaluate functionId := .allow functionId
  audit _ _ _ := .ok ()
  listAllEmployees _ _ := .ok workforce
  getContracts _ := .ok [contractEnding endDate]
  getPayrollMetadata _ _ := .ok []
  now := "2026-07-01T08:00:00+00:00"
  responseAttachmentMaxBytes := 8000000
  executeWorkforceContractPayrollTable _ := .ok (refusal "" "")

def july : HRDateRange := ⟨⟨2026, 7, 1, by decide⟩, ⟨2026, 7, 31, by decide⟩⟩

/-- Who has a contract that ends in July, and no payroll of June? -/
def julyPlan : HRQueryPlan where
  intent := "contract_expiry_payroll_comparison"
  filters := [⟨"payroll", .notExists, none⟩, ⟨"payroll_month", .eq, some (.int 6)⟩,
    ⟨"payroll_year", .eq, some (.int 2026)⟩]
  dateRange := some july
  steps := stepsOf ["EMP-READ-001", "EMP-CONTRACT-001", "EMP-PAY-002"]

def julyComparison : Comparison where
  range := july
  month := 6
  year := 2026
  wanted := false
  group := none

theorem comparisonOf_julyPlan {endDate : String} :
    comparisonOf (oneContract endDate) julyPlan = .ok julyComparison := rfl

theorem answered_of_isOk {x : Except Exn AskResponse} (h : x.toBool = true) :
    ∃ response, x = .ok response := by
  cases x with
  | error e => cases h
  | ok response => exact ⟨response, rfl⟩

/-- A contract that ends on the last of July is interpreted. -/
theorem comparison_complete_july :
    ∃ response, executeQueryPlan (oneContract "31/07/2026") julyPlan = .ok response ∧
      AnswersCompletely (oneContract "31/07/2026") julyComparison workforce response := by
  obtain ⟨response, hresponse⟩ := answered_of_isOk
    (x := executeQueryPlan (oneContract "31/07/2026") julyPlan) (by decide +kernel)
  refine ⟨response, hresponse, ?_⟩
  apply (comparison_complete_iff rfl comparisonOf_julyPlan rfl hresponse).mpr
  intro employee _ _ contract hcontract text htext _
  obtain rfl := List.mem_singleton.mp hcontract
  obtain rfl := Option.some.inj htext
  show (parseDicDate asciiTables "31/07/2026").isSome = true
  decide +kernel

/-- An end date with dots is left out of an answer that says that it is complete. -/
theorem comparison_unreadDate :
    ∃ response, executeQueryPlan (oneContract "31.07.2026") julyPlan = .ok response ∧
      response.SaysComplete ∧
      ¬Interpretable asciiTables (contractEnding "31.07.2026") ∧
      ¬AnswersCompletely (oneContract "31.07.2026") julyComparison workforce response := by
  obtain ⟨response, hresponse⟩ := answered_of_isOk
    (x := executeQueryPlan (oneContract "31.07.2026") julyPlan) (by decide +kernel)
  have hcomplete : response.SaysComplete := by
    obtain ⟨_, _, _, rfl⟩ := executeComparison_eq_ok comparisonOf_julyPlan rfl hresponse
    exact saysComplete_comparisonResponse
  have hunread : ¬Interpretable asciiTables (contractEnding "31.07.2026") := by
    intro hread
    have hdate : (parseDicDate asciiTables "31.07.2026").isSome = true :=
      hread "31.07.2026" rfl (by decide)
    revert hdate
    decide +kernel
  refine ⟨response, hresponse, hcomplete, hunread, ?_⟩
  intro hanswers
  exact hunread (hanswers.interpreted hcomplete (workforceMember "41") List.mem_cons_self rfl _
    List.mem_cons_self)

end Samples

end BhDic.Application
