import BhDic.HrAssistant.LocalIntent

/-!
# The local planner

`build_local_hr_query_plan`. Two plans over the whole roster are recognised by their words alone,
before anything else; the other plans are made of what the local parser recognises. Of a plan only
what is executed is kept.
-/

namespace BhDic.Query

open BhDic.Application (Intent LocalIntent)
open BhDic.HrAssistant BhDic.Library BhDic.Policies BhDic.Python

/-! ## Plans -/

inductive FilterOperator
  | eq | between | exists_ | notExists
  deriving DecidableEq, Repr

structure HRFilter where
  field : String
  operator : FilterOperator
  value : Option Json := none

structure HRDateRange where
  dateFrom : Date
  dateTo : Date

structure HRQueryStep where
  stepId : String
  functionId : String
  deriving DecidableEq, Repr

/-- `HRQueryPlan`: what a plan is called, and what its execution reads. -/
structure HRQueryPlan where
  intent : String
  targetEntities : List String := []
  filters : List HRFilter := []
  dateRange : Option HRDateRange := none
  steps : List HRQueryStep

structure LocalPlannedRequest where
  plan : HRQueryPlan
  legacyIntent : Option LocalIntent := none

/-- What `ask` reads of a planned request. -/
def LocalPlannedRequest.toQueryPlan (p : LocalPlannedRequest) : Application.QueryPlan where
  manySteps := 1 < p.plan.steps.length && p.plan.targetEntities.isEmpty
  legacyIntent := p.legacyIntent

/-- The steps, one after the other. -/
def stepsOf (functionIds : List String) : List HRQueryStep :=
  functionIds.zipIdx.map fun (functionId, index) => ⟨"step_" ++ toString (index + 1), functionId⟩

namespace Planner

variable (u : UnicodeData)

/-! ## Patterns -/

/-- `_CONTRACT`. -/
def contract : Regex := u.re [r"(?i)\bcontratt\w*\b"]

/-- `_PAYROLL`. -/
def payroll : Regex := u.re [r"(?i)\b(?:bust[ae]\s+pag[ae]|cedolin\w*|payroll)\b"]

/-- `_MISSING`. -/
def missing : Regex := u.re [r"(?i)\b(?:senza|non\s+(?:ha|hanno|risulta|risultano))\b"]

/-- `_NEXT_DAYS`. -/
def nextDays : Regex := u.re [r"(?i)\bprossim[ei]\s+(?P<days>[1-9][0-9]{0,2})\s+giorn[oi]\b"]

/-- `_GROUP`. -/
def groupPattern : Regex := u.re [r"(?i)\b(?:reparto|gruppo|team)\s+(?P<group>[\wÀ-ÿ'-]{2,64})\b"]

/-- `_WORKFORCE_TABLE`. -/
def workforceTable : Regex :=
  u.re [r"(?i)\b(?:tabella|elenc\w*|lista|stampa\w*|mostra\w*|riporta\w*)\b"]

/-- `_NET_PAY`. -/
def netPay : Regex :=
  u.re
    [r"(?i)\b(?:nett[oi]?\s+mensil[ei]|stipendi\w*\s+nett\w*|nett[oi]?|",
      r"bust[ae]\s+pag[ae]|cedolin\w*)\b"]

/-- `_COMPLETE_EMPLOYEE_DOSSIER`. -/
def completeEmployeeDossier : Regex :=
  u.re
    [r"(?i)\b(?:dossier(?:\s+hr)?(?:\s+complet[oa])?|tutti\s+i\s+dati|",
      r"tutte\s+le\s+informazioni(?:\s+disponibili)?|",
      r"tutto\s+quello\s+che\s+sai)\b"]

/-- A year that is named. -/
def explicitYear : Regex := u.re [r"\b(20[0-9]{2}|21[0-9]{2}|2200)\b"]

/-- A name of `_MONTHS`, as a word. -/
def monthLabel (label : String) : Regex := u.re [r"\b", label, r"\b"]

/-! ## The two plans over the roster -/

variable (today : Date) (request : List Char)

/-- The first month of `_MONTHS` that a request names. -/
def namedMonth : Option (String × Nat) :=
  monthNumberByName.find? fun entry => found (monthLabel u entry.1) (u.casefold request)

/-- `_payroll_period`: a month still to come is one of the year before. -/
def payrollPeriod : Except Exn (Option (Int × Nat)) :=
  match namedMonth u request with
  | none => .ok none
  | some (_, month) =>
      match (explicitYear u).search (u.casefold request) with
      | some m => do
          let year ← intOf u ((groupOf m 1).getD [])
          return some (year, month)
      | none =>
          .ok (some (if today.month < month then (today.year : Int) - 1 else today.year, month))

/-- The group of a request, as the value of a filter. -/
def groupFilter : Except Exn (List HRFilter) :=
  match (groupPattern u).search request with
  | none => .ok []
  | some m => do
      let value := u.casefold ((groupOf m 1).getD [])
      ensure (stripChars value ≠ [] ∧ value.length ≤ 128)
        ⟨.pydanticValidationError, "invalid filter value"⟩
      return [⟨"group", .eq, some (.str (String.ofList value))⟩]

/-- `_compound_contract_payroll_plan`. -/
def compoundContractPayrollPlan : Except Exn (Option HRQueryPlan) :=
  if found (contract u) request && found (payroll u) request then
    match (nextDays u).search request with
    | none => .ok none
    | some m => do
        match ← payrollPeriod u today request with
        | none => return none
        | some (year, month) =>
            let days ← intOf u ((groupOf m 1).getD [])
            let dateTo ← inCalendar (today.plusDays? days.toNat)
            let group ← groupFilter u request
            return some {
              intent := "contract_expiry_payroll_comparison"
              filters :=
                [⟨"contract_end_date", .between, some (.arr [isoText today, isoText dateTo])⟩,
                  ⟨"payroll", if found (missing u) request then .notExists else .exists_, none⟩,
                  ⟨"payroll_month", .eq, some (.int month)⟩,
                  ⟨"payroll_year", .eq, some (.int year)⟩] ++ group
              dateRange := some ⟨today, dateTo⟩
              steps := stepsOf ["EMP-READ-001", "EMP-CONTRACT-001", "EMP-PAY-002"] }
  else .ok none

/-- `_workforce_contract_payroll_table`. -/
def workforceContractPayrollTable : Except Exn (Option HRQueryPlan) :=
  if found (workforceTable u) request && found (contract u) request && found (netPay u) request then
    do
      let period ← payrollPeriod u today request
      return some {
        intent := "workforce_contract_payroll_table"
        filters := period.elim [] fun (year, month) =>
          [⟨"payroll_year", .eq, some (.int year)⟩, ⟨"payroll_month", .eq, some (.int month)⟩]
        steps := stepsOf ["EMP-READ-001", "EMP-CONTRACT-001", "EMP-PAY-001"] }
  else .ok none

/-! ## The plans of the parser -/

def employeeTarget : String := "EMPLOYEE_TARGET_1"

/-- `_employee_hr_dossier`. -/
def employeeHrDossier : Except Exn (Option LocalPlannedRequest) :=
  if found (completeEmployeeDossier u) request then do
    match ← parseLocalOperationalIntent u today request with
    | none => return none
    | some legacy =>
        if legacy.intent.functionId ≠ "EMP-READ-002" then return none
        else return some {
          plan := {
            intent := "employee_hr_dossier"
            targetEntities := [employeeTarget]
            steps := stepsOf ["EMP-READ-002", "EMP-CONTRACT-001", "EMP-RBAC-001", "EMP-TIME-001",
              "EMP-MAT-001", "EMP-BAL-001", "EMP-PAY-001", "EMP-DOC-001"] }
          legacyIntent := some { legacy with
            intent := { legacy.intent with
              parameters := mapping
                [("query_plan", .str "employee_hr_dossier"), ("year", .int today.year)] } } }
  else .ok none

/-- The functions of `_FUNCTION_RESOURCE`. -/
def plannedFunctions : List String :=
  ["EMP-READ-001", "EMP-READ-002", "EMP-SEARCH-001", "EMP-FILTER-001", "EMP-SORT-001",
    "EMP-PAGE-001", "EMP-CONTRACT-001", "EMP-RBAC-001", "EMP-TIME-001", "EMP-MAT-001",
    "EMP-BAL-001", "EMP-PAY-001", "EMP-PAY-002", "EMP-DOC-001"]

/-- `function_id.lower().replace("-", "_")`. -/
def intentName (functionId : String) : String :=
  String.ofList (functionId.toList.map fun c => if c = '-' then '_' else c.toLower)

/-- The plan of one step. -/
def singleStep (legacy : LocalIntent) : LocalPlannedRequest where
  plan := {
    intent := intentName legacy.intent.functionId
    targetEntities := if legacy.targetQuery.getD "" = "" then [] else [employeeTarget]
    steps := stepsOf [legacy.intent.functionId] }
  legacyIntent := some legacy

/-- What is planned where no plan over the roster is. -/
def legacyPlan : Except Exn (Option LocalPlannedRequest) := do
  match ← employeeHrDossier u today request with
  | some planned => return some planned
  | none => do
      let legacy ← parseLocalOperationalIntent u today request
      return (legacy.filter (·.intent.functionId ∈ plannedFunctions)).map singleStep

/-- `build_local_hr_query_plan`. -/
def buildLocalHrQueryPlan : Except Exn (Option LocalPlannedRequest) := do
  match ← compoundContractPayrollPlan u today request with
  | some plan => return some { plan }
  | none =>
      match ← workforceContractPayrollTable u today request with
      | some plan => return some { plan }
      | none => legacyPlan u today request

/-! ## Writes and the roster -/

section Writes

variable {u : UnicodeData} {today : Date} {request : List Char}

/-- The words of `_compound_contract_payroll_plan`. -/
def SpeaksOfExpiries (u : UnicodeData) (request : List Char) : Prop :=
  found (contract u) request = true ∧ found (payroll u) request = true ∧
    found (nextDays u) request = true ∧ (namedMonth u request).isSome = true

/-- The words of `_workforce_contract_payroll_table`. -/
def SpeaksOfWorkforce (u : UnicodeData) (request : List Char) : Prop :=
  found (workforceTable u) request = true ∧ found (contract u) request = true ∧
    found (netPay u) request = true

theorem payrollPeriod_eq_none :
    payrollPeriod u today request = .ok none ↔ namedMonth u request = none := by
  rw [payrollPeriod]
  cases namedMonth u request with
  | none => simp
  | some entry =>
      dsimp only
      cases (explicitYear u).search (u.casefold request) with
      | none => simp
      | some m => simp [map_eq_ok]

theorem compoundContractPayrollPlan_eq_none (today : Date) :
    compoundContractPayrollPlan u today request = .ok none ↔ ¬SpeaksOfExpiries u request := by
  rw [compoundContractPayrollPlan, SpeaksOfExpiries]
  by_cases hwords : found (contract u) request = true ∧ found (payroll u) request = true
  · have hdays : found (nextDays u) request = ((nextDays u).search request).isSome := rfl
    rw [if_pos (by simp [hwords]), hdays]
    cases (nextDays u).search request with
    | none => simp
    | some m =>
        simp only [bind_eq_ok, Option.isSome_some, hwords, true_and]
        constructor
        · rintro ⟨period, hperiod, h⟩
          cases period with
          | none => simp [payrollPeriod_eq_none.mp hperiod]
          | some period => simp [map_eq_ok] at h
        · intro hmonth
          exact ⟨none, payrollPeriod_eq_none.mpr (by simpa using hmonth), rfl⟩
  · rw [if_neg (by simpa using hwords)]
    simp only [true_iff]
    exact fun h => hwords ⟨h.1, h.2.1⟩

theorem workforceContractPayrollTable_eq_none (today : Date) :
    workforceContractPayrollTable u today request = .ok none ↔ ¬SpeaksOfWorkforce u request := by
  rw [workforceContractPayrollTable, SpeaksOfWorkforce]
  by_cases hwords : found (workforceTable u) request = true ∧ found (contract u) request = true ∧
      found (netPay u) request = true
  · rw [if_pos (by simp [hwords])]
    simp [hwords, map_eq_ok]
  · rw [if_neg (by simpa [and_assoc] using hwords)]
    simpa using hwords

/-- Nothing else is planned for a function that no step reads. -/
theorem legacyPlan_eq_none {legacy : LocalIntent}
    (h : parseLocalOperationalIntent u today request = .ok (some legacy))
    (hfunction : legacy.intent.functionId ∉ plannedFunctions) :
    legacyPlan u today request = .ok none := by
  have hdossier : employeeHrDossier u today request = .ok none := by
    rw [employeeHrDossier]
    split
    · rw [h]
      show ite _ _ _ = _
      apply if_pos
      rintro heq
      exact hfunction (heq ▸ by decide)
    · rfl
  rw [legacyPlan, hdossier]
  show (parseLocalOperationalIntent u today request >>= fun legacy => _) = _
  rw [h]
  show Except.ok ((Option.filter _ (some legacy)).map singleStep) = _
  simp [Option.filter, hfunction]

/-- A request for a function that no step reads is planned just where its words are those of a plan
over the roster. -/
theorem buildLocalHrQueryPlan_eq_none {legacy : LocalIntent}
    (h : parseLocalOperationalIntent u today request = .ok (some legacy))
    (hfunction : legacy.intent.functionId ∉ plannedFunctions) :
    buildLocalHrQueryPlan u today request = .ok none ↔
      ¬SpeaksOfExpiries u request ∧ ¬SpeaksOfWorkforce u request := by
  rw [← compoundContractPayrollPlan_eq_none today, ← workforceContractPayrollTable_eq_none today,
    buildLocalHrQueryPlan, bind_eq_ok]
  constructor
  · intro ⟨compound, hcompound, hrest⟩
    cases compound with
    | some plan => cases hrest
    | none =>
        obtain ⟨workforce, hworkforce, hrest⟩ := bind_eq_ok.mp hrest
        cases workforce with
        | some plan => cases hrest
        | none => exact ⟨hcompound, hworkforce⟩
  · intro ⟨hcompound, hworkforce⟩
    refine ⟨none, hcompound, ?_⟩
    dsimp only
    rw [hworkforce]
    exact legacyPlan_eq_none h hfunction

end Writes

end Planner

end BhDic.Query
