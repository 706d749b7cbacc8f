import BhDic.Dic.PayrollCapture
import BhDic.Dic.Reads

/-!
# Resources of an employee

What the live captures make of the items of a complete list. Every item names the employee, and no
identifier comes twice.
-/

namespace BhDic.Dic.EmployeeResource

open BhDic.Library BhDic.Python

def projectionFailure (resource reason : String) : Exn :=
  ⟨.dicUiChangedError, resource ++ " response projection failed: " ++ reason⟩

/-! ## Fields -/

/-- `item[key]`. -/
def itemField (item : List (String × Json)) (key : String) : Except Exn Json :=
  match Dict.find key item with
  | some value => .ok value
  | none => .error ⟨.keyError, key⟩

/-- `_positive_id`. -/
def positiveId (resource : String) (value : Json) : Except Exn String :=
  (strictInt (projectionFailure resource "invalid stable identifier") 1 value).map toString

/-- `_employee_matches`. -/
def employeeMatches (d : CaptureData) (resource employeeId : String) (value : Json) :
    Except Exn Unit :=
  let failure := projectionFailure resource "employee identity mismatch"
  if isDigitText d.unicode employeeId.toList then
    match readInt d.unicode employeeId.toList with
    | none => .error ⟨.valueError, "invalid literal for int() with base 10"⟩
    | some n => ensure (equalsInt d.floats value n) failure
  else
    match value with
    | .str text => ensure (text = employeeId) failure
    | _ => .error failure

/-- `_bounded_text`. -/
def boundedText (resource : String) (maximum : Nat) : Json → Except Exn String
  | .str text =>
      if strip text = "" ∨ maximum < text.length then
        .error (projectionFailure resource "invalid text field")
      else .ok (strip text)
  | _ => .error (projectionFailure resource "invalid text field")

/-- `_bounded_text` of an optional text. -/
def optionalText (resource : String) (maximum : Nat) : Json → Except Exn (Option String)
  | .null => .ok none
  | value => (boundedText resource maximum value).map some

/-- `_strict_bool`. -/
def strictBool (resource : String) : Json → Except Exn Bool
  | .bool b => .ok b
  | _ => .error (projectionFailure resource "invalid boolean field")

/-- The month and the year of a value. -/
def monthAndYear : Json → Option (Nat × Nat)
  | .obj fields =>
      match Dict.find "month" fields, Dict.find "year" fields with
      | some (.int month), some (.int year) =>
          if 1 ≤ month ∧ month ≤ 12 ∧ 2000 ≤ year ∧ year ≤ 2200 then
            some (month.toNat, year.toNat)
          else none
      | _, _ => none
  | _ => none

/-- `f"{month:02d}/{year}"`. -/
def monthYearText (month year : Nat) : String :=
  String.ofList (padDigits 2 month ++ '/' :: (toString year).toList)

/-- `_month_year`. -/
def monthYear (resource : String) (value : Json) : Except Exn String :=
  match monthAndYear value with
  | some (month, year) => .ok (monthYearText month year)
  | none => .error (projectionFailure resource "invalid month/year field")

/-- `_month_year` of an optional value. -/
def optionalMonthYear (resource : String) : Json → Except Exn (Option String)
  | .null => .ok none
  | value => (monthYear resource value).map some

/-- The loop of the projections: one item after another, with the identifiers seen so far. -/
def projectAll {R : Type} (project : List String → List (String × Json) → Except Exn R)
    (identifier : R → String) (identifiers : List String) :
    List (List (String × Json)) → Except Exn (List R)
  | [] => .ok []
  | item :: rest => do
      let record ← project identifiers item
      let records ← projectAll project identifier (identifier record :: identifiers) rest
      return record :: records

/-- Every record is the projection of an item. -/
theorem mem_projectAll {R : Type} {project : List String → List (String × Json) → Except Exn R}
    {identifier : R → String} {identifiers : List String} {items : List (List (String × Json))}
    {records : List R} (h : projectAll project identifier identifiers items = .ok records)
    {record : R} (hmem : record ∈ records) :
    ∃ item ∈ items, ∃ seen, project seen item = .ok record := by
  induction items generalizing identifiers records with
  | nil =>
      cases h
      cases hmem
  | cons item rest ih =>
      simp only [projectAll, bind_eq_ok] at h
      obtain ⟨first, hfirst, records', hrecords, hresult⟩ := h
      cases hresult
      rcases List.mem_cons.mp hmem with rfl | hrest
      · exact ⟨item, List.mem_cons_self, _, hfirst⟩
      · obtain ⟨item', hitem', hproject⟩ := ih hrecords hrest
        exact ⟨item', List.mem_cons_of_mem _ hitem', hproject⟩

/-- What the models ask of the identifiers. -/
def checkIdentifiers (resource problem identifier employeeId : String) : Except Exn Unit :=
  ensure (recordIdField.Accepts (trim identifier) ∧ employeeIdField.Accepts (trim employeeId))
    (projectionFailure resource problem)

/-! ## Maturations -/

/-- A maturation, with its identifier and the employee it belongs to. -/
structure Maturation extends MaturationRecord where
  maturationId : String
  employeeId : String
  status : String

def maturationsResource : String := "employees.maturations"

variable (d : CaptureData)

/-- One round of the loop of `maturations_from_items`. -/
def maturationOf (employeeId : String) (identifiers : List String) (item : List (String × Json)) :
    Except Exn Maturation := do
  let resource := maturationsResource
  let employee ← itemField item "employee"
  let counter ← itemField item "counter"
  match employee, counter with
  | .obj employee, .obj counter => do
      employeeMatches d resource employeeId (fieldOf employee "id")
      let identifier ← positiveId resource (← itemField item "id")
      ensure (identifier ∉ identifiers) (projectionFailure resource "duplicate stable identifier")
      let category ← boundedText resource 128 (fieldOf counter "name")
      let valid ← strictBool resource (← itemField item "valid")
      let ongoing ← strictBool resource (← itemField item "ongoing")
      let validFrom ← monthYear resource (← itemField item "from")
      let validTo ← optionalMonthYear resource (← itemField item "to")
      checkIdentifiers resource "invalid maturation projection" identifier employeeId
      return {
        category := category
        validFrom := some validFrom
        validTo := validTo
        maturationId := identifier
        employeeId := employeeId
        status := if valid && ongoing then "attiva" else "non attiva" }
  | _, _ => throw (projectionFailure resource "invalid resource reference")

/-- `maturations_from_items`. -/
def maturationsFromItems (employeeId : String) (items : List (List (String × Json))) :
    Except Exn (List Maturation) :=
  projectAll (maturationOf d employeeId) (·.maturationId) [] items

end BhDic.Dic.EmployeeResource
