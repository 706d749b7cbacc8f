import BhDic.Dic.Reads
import BhDic.Python.Patterns
import BhDic.Security.Sanitization

/-!
# What is kept of an employee

The summary of a profile page and the items of a list, with the identifiers of a person masked. The
pages and the captured responses have a masking function each; they differ on white space only.
-/

namespace BhDic.Dic

open BhDic.Python BhDic.Security

/-! ## Masks -/

/-- All but the last characters of a text, starred. -/
def starred (visible : Nat) (text : List Char) : List Char :=
  List.replicate (text.length - visible) '*' ++ text.drop (text.length - visible)

/-- A text of no more than the visible characters is starred as a whole. -/
def tailOf (visible : Nat) (text : List Char) : List Char :=
  if text.length ≤ visible then List.replicate text.length '*' else starred visible text

/-- `BaseDicPage.redact_tail`. -/
def redactTail (value : Option String) (visible : Nat) : Option String :=
  (value.filter (· ≠ "")).map fun value =>
    String.ofList (tailOf visible (stripChars value.toList))

/-- `redact_name`: the initials. -/
def redactName (u : UnicodeData) (value : Option String) : Option String :=
  (value.filter (· ≠ "")).map fun value =>
    " ".intercalate ((splitWords value.toList).map fun part =>
      String.ofList (u.upper (part.take 1)) ++ ".")

/-- The parts of `value.split("@", 1)`, of a text with an "@". -/
def splitAddress (value : String) : Option (String × String) :=
  if '@' ∈ value.toList then
    some (String.ofList (value.toList.takeWhile (· ≠ '@')),
      String.ofList ((value.toList.dropWhile (· ≠ '@')).drop 1))
  else none

/-- `BaseDicPage.redact_email`. -/
def redactEmail (value : Option String) : Option String :=
  (value.filter (· ≠ "")).map fun value =>
    match splitAddress value with
    | some (name, domain) => String.ofList (name.toList.take 1) ++ "***@" ++ domain
    | none => "[REDACTED]"

/-- `"[REDACTED]" if value else None`. -/
def redacted (value : Option String) : Option String :=
  (value.filter (· ≠ "")).map fun _ => "[REDACTED]"

/-- An item of a list, with what is rendered of it. -/
structure ListedEmployee extends EmployeeListItem where
  displayName : Option String
  firstName : Option String
  lastName : Option String
  displayNameRedacted : String
  emailRedacted : Option String
  taxCodeRedacted : Option String
  jobTitle : Option String
  groupName : Option String
  payrollNumber : Option String
  contractLabel : Option String
  contractState : Option String
  workplace : Option String

/-- An employee as a list names it, in a captured response or in a row of the page: the texts are
stripped and not empty. -/
structure ListedValues where
  employeeId : String
  accountState : AccountState
  employeeState : EmployeeState
  fullName : Option String
  firstName : Option String
  lastName : Option String
  email : Option String
  taxCode : Option String
  number : Option String
  jobTitle : Option String
  groupName : Option String
  contractLabel : Option String
  contractState : Option String
  workplace : Option String

/-- `value or "[REDACTED]"`. -/
def orRedacted (value : Option String) : String := (value.filter (· ≠ "")).getD "[REDACTED]"

/-- `_read_row`: the names of a row are not kept. -/
def readRow (u : UnicodeData) (values : ListedValues) : ListedEmployee where
  employeeId := values.employeeId
  accountState := values.accountState
  employeeState := values.employeeState
  displayName := none
  firstName := none
  lastName := none
  displayNameRedacted := orRedacted (redactName u values.fullName)
  emailRedacted := redactEmail values.email
  taxCodeRedacted := redactTail values.taxCode 4
  jobTitle := values.jobTitle
  groupName := values.groupName
  payrollNumber := redactTail values.number 4
  contractLabel := values.contractLabel
  contractState := values.contractState
  workplace := values.workplace

end BhDic.Dic
