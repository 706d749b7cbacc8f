import BhDic.Dic.EmployeeResources
import BhDic.Dic.PaginatedCapture
import Mathlib.Data.List.Infix

/-!
# Live reads of an employee's resources

Contracts, maturations and documents are read in one way: a response is captured, the pages after it
are collected, and every item of theirs is projected. What comes out belongs to the employee, once.
-/

namespace BhDic.Dic.EmployeeResource

open BhDic.Library BhDic.Python PaginatedCapture

/-! ## The endpoints -/

/-- `CONTRACTS_ENDPOINT`. -/
def contractsEndpoint : PaginatedEndpointContract where
  resource := "employees.contracts"
  endpointPath := "/backend_apiV2/contracts"
  allowedQueryKeys :=
    ["employee_id", "filter_type", "page", "per_page", "search", "search_fields"]
  employeeQueryKey := some "employee_id"
  requiredItemKeys :=
    ["id", "employee", "flexible_workinghours", "hours_type", "ongoing", "part_time_percentage",
      "permanent", "valid_from", "valid_to"]
  resource_name := by decide
  endpoint_backend := by decide
  employeeKey_allowed := by decide
  paginator_valid := by decide
  required_ne := by decide

/-- `DOCUMENTS_ENDPOINT`. -/
def documentsEndpoint : PaginatedEndpointContract where
  resource := "employees.documents"
  endpointPath := "/backend_apiV2/documents"
  allowedQueryKeys :=
    ["employee_ids", "filter[0][field]", "filter[0][op]", "filter[0][value]", "filter_type",
      "filter_validity", "page", "per_page", "search", "search_fields", "sort"]
  employeeQueryKey := some "employee_ids"
  requiredItemKeys :=
    ["id", "employee_id", "title", "category", "date", "expiration_date", "requested"]
  resource_name := by decide
  endpoint_backend := by decide
  employeeKey_allowed := by decide
  paginator_valid := by decide
  required_ne := by decide

/-! ## The projections -/

variable (d : CaptureData)

/-- The percentage of a part time. -/
def workPercentage (resource : String) : Json → Except Exn (Option Int)
  | .null => .ok none
  | .int n =>
      if 0 ≤ n ∧ n ≤ 100 then .ok (some n)
      else .error (projectionFailure resource "invalid work percentage")
  | _ => .error (projectionFailure resource "invalid work percentage")

/-- How a contract's hours are described. -/
def workRegime (hoursType : String) : Option Int → String
  | none => hoursType
  | some percentage =>
      if percentage = 100 then "tempo pieno" else "part-time " ++ toString percentage ++ "%"

/-- One round of the loop of `contracts_from_items`. -/
def contractOf (employeeId : String) (identifiers : List String) (item : PageItem) :
    Except Exn ContractRecord := do
  let resource := contractsEndpoint.resource
  match ← itemField item "employee" with
  | .obj employee => do
      employeeMatches d resource employeeId (fieldOf employee "id")
      let identifier ← positiveId resource (← itemField item "id")
      ensure (identifier ∉ identifiers) (projectionFailure resource "duplicate stable identifier")
      let permanent ← strictBool resource (← itemField item "permanent")
      let flexible ← strictBool resource (← itemField item "flexible_workinghours")
      let ongoing ← strictBool resource (← itemField item "ongoing")
      let percentage ← workPercentage resource (← itemField item "part_time_percentage")
      let validFrom ← boundedText resource 32 (← itemField item "valid_from")
      let validTo ← optionalText resource 32 (← itemField item "valid_to")
      let hoursType ← boundedText resource 128 (← itemField item "hours_type")
      let level ← optionalText resource 128 (fieldOf item "level")
      let note ← optionalText resource 512 (fieldOf item "note")
      checkIdentifiers resource "invalid contract projection" identifier employeeId
      return {
        contractId := identifier
        employeeId := employeeId
        stableIdentifier := true
        actionable := false
        schedule := some hoursType
        flexibility := some (if flexible then "flessibile" else "non flessibile")
        permanent := some permanent
        startDate := some validFrom
        endDate := validTo
        ccnlLevel := level
        workRegime := some (workRegime hoursType percentage)
        description := note.map fun _ => "[REDACTED]"
        contractType := some (if permanent then "tempo indeterminato" else "tempo determinato")
        status := some (if ongoing then "in corso" else "concluso")
        period := some (validFrom ++ " → " ++ validTo.getD "indeterminato") }
  | _ => throw (projectionFailure resource "invalid employee reference")

/-- `contracts_from_items`. -/
def contractsFromItems (employeeId : String) (items : List PageItem) :
    Except Exn (List ContractRecord) :=
  projectAll (contractOf d employeeId) (·.contractId) [] items

/-- Which documents are asked for. -/
inductive DocumentState
  | uploaded | pending
  deriving DecidableEq, Repr

def DocumentState.value : DocumentState → String
  | .uploaded => "uploaded"
  | .pending => "pending"

structure DocumentQuery where
  query : Option String
  /-- None is asked for by `all`. -/
  state : Option DocumentState
  category : Option String

/-- What is looked for in the titles. -/
def DocumentQuery.needle (q : DocumentQuery) : List Char :=
  d.unicode.casefold (stripChars (q.query.getD "").toList)

/-- Whether the loop goes on with a document, or with the next one. -/
def DocumentQuery.keeps (q : DocumentQuery) (title : String) (category : Option String)
    (state : DocumentState) : Bool :=
  decide (q.needle d <:+: d.unicode.casefold title.toList) &&
    (q.category.all fun asked => asked == "" ||
      d.unicode.casefold (category.getD "").toList == d.unicode.casefold asked.toList) &&
    q.state.all (· == state)

/-- The category of a document: a blank one is none. -/
def documentCategory (resource : String) : Json → Except Exn (Option String)
  | .obj fields =>
      match fieldOf fields "name" with
      | .str text => if strip text = "" then .ok none else optionalText resource 128 (.str text)
      | value => optionalText resource 128 value
  | _ => .error (projectionFailure resource "invalid category")

/-- `bool(value)`. -/
def truthy : Json → Bool
  | .null | .bool false | .int 0 | .arr [] | .obj [] => false
  | .str text => text != ""
  | .float f => d.floats.integer f != some 0
  | _ => true

/-- One round of the loop of `documents_from_items`: the identifier, and the document unless the
query leaves it out. -/
def documentOf (employeeId : String) (query : DocumentQuery) (identifiers : List String)
    (item : PageItem) : Except Exn (String × Option DocumentMetadata) := do
  let resource := documentsEndpoint.resource
  employeeMatches d resource employeeId (← itemField item "employee_id")
  let identifier ← positiveId resource (← itemField item "id")
  ensure (identifier ∉ identifiers) (projectionFailure resource "duplicate stable identifier")
  let title ← boundedText resource 256 (← itemField item "title")
  let category ← documentCategory resource (← itemField item "category")
  let requested ← strictBool resource (← itemField item "requested")
  let state : DocumentState := if requested then .pending else .uploaded
  if query.keeps d title category state then do
    let uploadedAt ← boundedText resource 64 (← itemField item "date")
    let expiry ← optionalText resource 32 (← itemField item "expiration_date")
    checkIdentifiers resource "invalid document projection" identifier employeeId
    return (identifier, some {
      documentId := identifier
      employeeId := employeeId
      stableIdentifier := true
      actionable := false
      titleRedacted := "[REDACTED]"
      category := category
      expiryDate := expiry
      uploadedAt := some uploadedAt
      uploadedByRedacted :=
        if truthy d (fieldOf item "creator") then some "[PERSON_REDACTED]" else none
      state := state.value })
  else return (identifier, none)

variable (p : PaginatedData) (employeeId : String) (response : Response)

/-- What the `read`s have in common: a captured response, the pages after it, and a projection. -/
def readItems {R : Type} (endpoint : PaginatedEndpointContract)
    (project : List PageItem → Except Exn (List R)) : Prog pageEvaluator Exn (List R) :=
  (readCollection p endpoint (some employeeId) none response).bind fun items =>
    Prog.ofExcept (project items)

/-- `EmployeeContractsPage.read`, once a response is captured. -/
def readContracts : Prog pageEvaluator Exn (List ContractRecord) :=
  readItems p employeeId response contractsEndpoint (contractsFromItems p.toCaptureData employeeId)

section Projections

variable {d employeeId}

end Projections

/-! ## What is read -/

section Reads

variable {p employeeId response} {answers : List pageEvaluator.Answered}

end Reads

end BhDic.Dic.EmployeeResource
