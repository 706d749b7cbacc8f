import BhDic.Approvals.Models
import BhDic.Files.Models
import BhDic.Library.Dict
import BhDic.Library.Trace

/-!
# What a write is previewed against

The reads of the DIC service and of the upload store that a snapshot of a write's target makes, and
the fields of their results it looks at. Every read may raise.
-/

namespace BhDic.Dic

open BhDic.Files BhDic.Library BhDic.Python

inductive AccountState
  | connected | invited | notConnected | unknown
  deriving DecidableEq, Repr

def AccountState.value : AccountState → String
  | .connected => "connected"
  | .invited => "invited"
  | .notConnected => "not_connected"
  | .unknown => "unknown"

inductive EmployeeState
  | active | inactive | unknown
  deriving DecidableEq, Repr

def EmployeeState.value : EmployeeState → String
  | .active => "active"
  | .inactive => "inactive"
  | .unknown => "unknown"

structure EmployeeListItem where
  employeeId : String
  accountState : AccountState
  employeeState : EmployeeState

structure EmployeeListResult where
  items : List EmployeeListItem
  page : Nat
  pageSize : Nat
  total : Nat
  hasNext : Bool

structure NotificationRecord where
  notificationId : Int
  read : Bool

structure EmployeeSummary where
  employeeId : String
  firstNameRedacted : Option String
  lastNameRedacted : Option String
  payrollNumber : Option String
  taxCodeRedacted : Option String
  birthDateRedacted : Option String
  ibanRedacted : Option String
  jobTitle : Option String
  phoneRedacted : Option String
  businessEmailRedacted : Option String
  addressRedacted : Option String
  workplace : Option String
  notesRedacted : Option String
  state : EmployeeState

structure ContractRecord where
  contractId : String
  employeeId : String
  stableIdentifier : Bool
  actionable : Bool
  schedule : Option String
  flexibility : Option String
  permanent : Option Bool
  startDate : Option String
  endDate : Option String
  ccnlLevel : Option String
  workRegime : Option String
  description : Option String
  contractType : Option String
  status : Option String
  period : Option String

structure MaturationRecord where
  category : String
  validFrom : Option String
  validTo : Option String

structure BalanceCorrectionState where
  year : Int
  month : Int
  category : String
  currentValue : String

structure RoleAssignment where
  name : String
  enabled : Bool

structure DocumentMetadata where
  documentId : String
  employeeId : String
  stableIdentifier : Bool
  actionable : Bool
  titleRedacted : String
  category : Option String
  expiryDate : Option String
  uploadedAt : Option String
  uploadedByRedacted : Option String
  state : String

/-! ## As JSON -/

/-- An optional text as a JSON value. -/
def jsonText : Option String → Json
  | none => .null
  | some text => .str text

/-- `model_dump(mode="json", exclude_none=False)`. -/
def ContractRecord.modelDump (c : ContractRecord) : List (String × Json) :=
  [("contract_id", .str c.contractId), ("employee_id", .str c.employeeId),
    ("stable_identifier", .bool c.stableIdentifier), ("actionable", .bool c.actionable),
    ("schedule", jsonText c.schedule), ("flexibility", jsonText c.flexibility),
    ("permanent", c.permanent.elim .null .bool), ("start_date", jsonText c.startDate),
    ("end_date", jsonText c.endDate), ("ccnl_level", jsonText c.ccnlLevel),
    ("work_regime", jsonText c.workRegime), ("description", jsonText c.description),
    ("contract_type", jsonText c.contractType), ("status", jsonText c.status),
    ("period", jsonText c.period)]

@[inherit_doc ContractRecord.modelDump]
def DocumentMetadata.modelDump (d : DocumentMetadata) : List (String × Json) :=
  [("document_id", .str d.documentId), ("employee_id", .str d.employeeId),
    ("stable_identifier", .bool d.stableIdentifier), ("actionable", .bool d.actionable),
    ("title_redacted", .str d.titleRedacted), ("category", jsonText d.category),
    ("expiry_date", jsonText d.expiryDate), ("uploaded_at", jsonText d.uploadedAt),
    ("uploaded_by_redacted", jsonText d.uploadedByRedacted), ("state", .str d.state)]

/-- `employee_current`: the fields of an employee an update can change. -/
def EmployeeSummary.current (s : EmployeeSummary) : List (String × Json) :=
  [("first_name", jsonText s.firstNameRedacted), ("last_name", jsonText s.lastNameRedacted),
    ("payroll_number", jsonText s.payrollNumber), ("tax_code", jsonText s.taxCodeRedacted),
    ("birth_date", jsonText s.birthDateRedacted), ("iban", jsonText s.ibanRedacted),
    ("job_title", jsonText s.jobTitle), ("phone", jsonText s.phoneRedacted),
    ("business_email", jsonText s.businessEmailRedacted), ("address", jsonText s.addressRedacted),
    ("workplace", jsonText s.workplace), ("notes", jsonText s.notesRedacted)]

/-! ## The reads -/

inductive ReadsOp
  | getStateDigest (functionId : String) (employeeId : Option String)
      (parameters : Dict String Json)
  | listEmployees (query : Option String) (pageSize : Nat)
  | listNotifications
  | getEmployeeSummary (employeeId : String)
  | getContracts (employeeId : String)
  | getMaturations (employeeId : String)
  | getBalanceCorrectionState (employeeId : String) (year month : Int) (category : String)
  | getRoles (employeeId : String)
  | getDocumentMetadata (employeeId : String)
  | resolveCleanUpload (uploadId : String)

@[reducible] def ReadsOp.Returns : ReadsOp → Type
  | .getStateDigest .. => String
  | .listEmployees .. => EmployeeListResult
  | .listNotifications => List NotificationRecord
  | .getEmployeeSummary _ => EmployeeSummary
  | .getContracts _ => List ContractRecord
  | .getMaturations _ => List MaturationRecord
  | .getBalanceCorrectionState .. => BalanceCorrectionState
  | .getRoles _ => List RoleAssignment
  | .getDocumentMetadata _ => List DocumentMetadata
  | .resolveCleanUpload _ => ResolvedUpload

abbrev readsEffect : Effect where
  Op := ReadsOp
  Ans o := Except Exn o.Returns

abbrev Reads (α : Type) := Prog readsEffect Exn α

/-- Make one read, raising what it raises. -/
def reads (o : ReadsOp) : Reads o.Returns :=
  (Prog.ask (E := readsEffect) o).bind Prog.ofExcept

/-- A read returns what it is answered. -/
theorem returns_reads {o : ReadsOp} {x : o.Returns} {answers : List readsEffect.Answered} :
    Prog.Returns (reads o) answers x ↔ answers = [⟨o, .ok x⟩] := by
  constructor
  · rintro ⟨answer, _, rfl, h⟩
    obtain ⟨rfl, rfl⟩ := Prog.returns_ofExcept.mp h
    rfl
  · rintro rfl
    exact ⟨.ok x, [], rfl, rfl, rfl⟩

end BhDic.Dic
