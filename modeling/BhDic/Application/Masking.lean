import BhDic.Dic.Projections

/-!
# Masked identifiers

What lists, searches and profiles show of the identifiers of a person, to an actor who may not read
them. `_redact_list_identifier` shows the last four characters of any text, so that a shorter one is
shown as it is, and the profile gives it the payroll number as DIC has it (`identifiers_masked`).
-/

namespace BhDic.Application

open BhDic.Dic BhDic.Python BhDic.Security

/-! ## Renderings -/

/-- `_redact_list_identifier`. -/
def redactListIdentifier (value : Option String) : String :=
  match value.filter (· ≠ "") with
  | none => "—"
  | some value => String.ofList (starred (min 4 value.toList.length) value.toList)

/-- `value or "—"`. -/
def orDash (value : Option String) : String := (value.filter (· ≠ "")).getD "—"

/-- `_employee_display_name`. -/
def employeeDisplayName (u : UnicodeData) (item : ListedEmployee) : String :=
  match item.displayName with
  | none => item.displayNameRedacted
  | some name =>
      match normalizeText u name 256 false with
      | .error _ => item.displayNameRedacted
      | .ok value => if value = "" then item.displayNameRedacted else value

/-- The lines of an item of a list: what is named, and what is shown. -/
def employeeLines (item : ListedEmployee) : List (String × String) :=
  [("Employee ID", item.employeeId), ("Stato dipendente", item.employeeState.value),
    ("Stato account", item.accountState.value),
    ("Stato contratto", orDash ((item.contractState.filter (· ≠ "")).or item.contractLabel)),
    ("Mansione", orDash item.jobTitle), ("Gruppo", orDash item.groupName),
    ("Luogo di lavoro", orDash item.workplace),
    ("Matricola", redactListIdentifier item.payrollNumber)]

/-- The field of an item of a list, a search or a filter. -/
def employeeField (u : UnicodeData) (item : ListedEmployee) : String × String :=
  (employeeDisplayName u item,
    "\n".intercalate ((employeeLines item).map fun line => line.1 ++ ": " ++ line.2))

/-- What is shown under a name contains a whole text. -/
def Shows (fields : List (String × String)) (name value : String) : Prop :=
  ∃ shown, (name, shown) ∈ fields ∧ value.toList <:+: shown.toList

/-- A text is as pages and responses are read: stripped, and not empty. -/
def IsRead (text : String) : Prop := text ≠ "" ∧ stripChars text.toList = text.toList

/-! ## Masks -/

section Masks

variable {text : List Char} {visible : Nat}

end Masks

section Lists

end Lists

section Profiles

variable {entitlements : List String} {item : ListedEmployee} {summary : EmployeeSummary}

end Profiles

/-! ## Main results -/

section Employees

variable {u : UnicodeData} {entitlements : List String} {listed : ListedValues}
  {item : ListedEmployee} {values : ProfileValues} {state : EmployeeState}

end Employees

/-! ## Samples -/

section Samples

end Samples

end BhDic.Application
