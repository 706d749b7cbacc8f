import BhDic.Policies.Roles

/-!
# The function catalog

Every function the bot can run, with what it needs and what it accepts. Sets of the source that
are only searched are lists here, in the order the source writes them.
-/

namespace BhDic.Policies

inductive ActionClass
  | read | search | filter | prepareWrite | fileUpload | export
  deriving DecidableEq, Repr

inductive Sensitivity
  | low | medium | high | critical
  deriving DecidableEq, Repr

inductive WriteParameterKind
  | text | integer | boolean | decimal | date
  deriving DecidableEq, Repr

/-- The two syntax patterns a text parameter can have to match: `_IDENTIFIER` is
`[A-Za-z0-9][A-Za-z0-9._:-]{0,127}`, `_UPLOAD_ID` is `[0-9a-f]{32}`. -/
inductive TextPattern
  | identifier | uploadId
  deriving DecidableEq, Repr

/-- `re.fullmatch`. -/
def TextPattern.fullmatch : TextPattern → String → Bool
  | .identifier, value =>
      match value.toList with
      | [] => false
      | first :: rest => first.isAlphanum && rest.length ≤ 127 &&
          rest.all (fun c => c.isAlphanum || c ∈ ['.', '_', ':', '-'])
  | .uploadId, value =>
      value.toList.length == 32 &&
        value.toList.all (fun c => c.isDigit || ('a' ≤ c && c ≤ 'f'))

/-- `WriteParameterSpec`: one input of a write. -/
structure WriteParameterSpec where
  name : String
  kind : WriteParameterKind
  required : Bool := true
  minLength : Option Nat := none
  maxLength : Option Nat := none
  minValue : Option Int := none
  maxValue : Option Int := none
  maxIntegerDigits : Option Nat := none
  maxDecimalPlaces : Option Nat := none
  pattern : Option TextPattern := none
  choices : List String := []
  deriving DecidableEq, Repr

inductive ResourceSnapshotKind
  | employee | employeeCreate | contract | maturationCollection | balanceCorrection | account
  | role | document | documentCollection | exportSource | notification
  deriving DecidableEq, Repr

/-- A text confirmation template: every one the catalog has is a verb, a blank and
`{employee_id}`. -/
structure TextConfirmationTemplate where
  verb : String
  deriving DecidableEq, Repr

/-- `template.format(employee_id=target_employee_id)`. -/
def TextConfirmationTemplate.format (template : TextConfirmationTemplate)
    (targetEmployeeId : Option String) : String :=
  template.verb ++ " " ++ targetEmployeeId.getD "None"

structure FunctionSpec where
  functionId : String
  title : String
  actionClass : ActionClass
  sensitivity : Sensitivity
  featureFlags : List String
  roleRules : List ScopedRoleRule
  confirmationRequired : Bool := false
  approvalsRequired : Nat := 0
  approverRoles : List LogicalRole := []
  requiresTarget : Bool := false
  destructive : Bool := false
  exposeToModel : Bool := true
  enabledByDefault : Bool := false
  requiredCapabilities : List String := []
  textConfirmationTemplate : Option TextConfirmationTemplate := none
  writeParameters : List WriteParameterSpec := []
  writeRequiredAny : List String := []
  writeSelectors : List String := []
  resourceSnapshot : Option ResourceSnapshotKind := none
  fixedPreviewAfter : List (String × String) := []
  deletesResource : Bool := false
  alwaysEffectful : Bool := false
  operatorLiveAvailable : Bool := true
  adapterManaged : Bool := true
  deriving DecidableEq, Repr

def FunctionSpec.isWrite (spec : FunctionSpec) : Bool :=
  spec.actionClass ∈ [.prepareWrite, .fileUpload, .export]

/-- `role_rule`: the rule of the scope, or else the default one. -/
def FunctionSpec.roleRule (spec : FunctionSpec) (scope : String) : Option RoleRule :=
  match spec.roleRules.find? (fun r => r.scope == scope) with
  | some r => some r.rule
  | none => (spec.roleRules.find? (fun r => r.scope == "default")).map (·.rule)

/-- `spec.approver_roles.isdisjoint(roles)` fails: one of the roles may approve. -/
def FunctionSpec.admits (spec : FunctionSpec) (roles : Finset LogicalRole) : Bool :=
  spec.approverRoles.any (· ∈ roles)

/-! ## How the entries are written -/

/-- `_rule` with its defaults: roles of which one is enough, in the default scope. -/
def rule (roles : List LogicalRole) : ScopedRoleRule :=
  ⟨"default", { allOf := [], anyOf := roles, entitlements := [] }⟩

def ScopedRoleRule.inScope (r : ScopedRoleRule) (scope : String) : ScopedRoleRule :=
  { r with scope := scope }

def ScopedRoleRule.entitled (r : ScopedRoleRule) (entitlements : List String) : ScopedRoleRule :=
  { r with rule.entitlements := entitlements }

/-- `_rule(all_of=roles)`. -/
def ruleAllOf (roles : List LogicalRole) : ScopedRoleRule :=
  ⟨"default", { allOf := roles, anyOf := [], entitlements := [] }⟩

/-- The keyword arguments of `_read` and their defaults. -/
structure ReadOptions where
  actionClass : ActionClass := .read
  sensitivity : Sensitivity := .medium
  target : Bool := false
  expose : Bool := true
  capabilities : List String := []
  adapterManaged : Bool := true

/-- `_read`. -/
def read (functionId title : String) (roleRules : List ScopedRoleRule) (o : ReadOptions) :
    FunctionSpec where
  functionId := functionId
  title := title
  actionClass := o.actionClass
  sensitivity := o.sensitivity
  featureFlags := ["ENABLE_READ_ACTIONS"]
  roleRules := roleRules
  requiresTarget := o.target
  enabledByDefault := true
  exposeToModel := o.expose
  requiredCapabilities := o.capabilities
  adapterManaged := o.adapterManaged

/-- The keyword arguments of `_write` and their defaults. -/
structure WriteOptions where
  approvals : Nat := 0
  approverRoles : List LogicalRole := [.approver]
  sensitivity : Sensitivity := .high
  target : Bool := true
  destructive : Bool := false
  expose : Bool := true
  actionClass : ActionClass := .prepareWrite
  capabilities : List String := []
  confirmationTemplate : Option TextConfirmationTemplate := none
  writeParameters : List WriteParameterSpec
  writeRequiredAny : List String := []
  writeSelectors : List String := []
  resourceSnapshot : ResourceSnapshotKind
  fixedPreviewAfter : List (String × String) := []
  deletesResource : Bool := false
  alwaysEffectful : Bool := false
  operatorLiveAvailable : Bool := true

/-- `_write`. -/
def write (functionId title flag : String) (roles : List ScopedRoleRule) (o : WriteOptions) :
    FunctionSpec where
  functionId := functionId
  title := title
  actionClass := o.actionClass
  sensitivity := o.sensitivity
  featureFlags := ["ENABLE_WRITE_ACTIONS", flag]
  roleRules := roles
  confirmationRequired := true
  approvalsRequired := o.approvals
  approverRoles := if o.approvals = 0 then [] else o.approverRoles
  requiresTarget := o.target
  destructive := o.destructive
  exposeToModel := o.expose
  requiredCapabilities := o.capabilities
  textConfirmationTemplate := o.confirmationTemplate
  writeParameters := o.writeParameters
  writeRequiredAny := o.writeRequiredAny
  writeSelectors := o.writeSelectors
  resourceSnapshot := some o.resourceSnapshot
  fixedPreviewAfter := o.fixedPreviewAfter
  deletesResource := o.deletesResource
  alwaysEffectful := o.alwaysEffectful
  operatorLiveAvailable := o.operatorLiveAvailable

def hrRead : List ScopedRoleRule := [rule [.hrRead]]
def payrollRead : List ScopedRoleRule := [(rule [.hrRead]).entitled ["payroll:read"]]
def hrWrite : List ScopedRoleRule := [rule [.hrWrite]]
def iam : List ScopedRoleRule := [rule [.iamOperator]]
def docs : List ScopedRoleRule := [rule [.documentOperator]]
def docsRead : List ScopedRoleRule := [(rule [.documentOperator]).entitled ["documents:metadata"]]
def approvers : List LogicalRole := [.approver, .systemAdmin]

def requiredMotivation : WriteParameterSpec :=
  { name := "motivation", kind := .text, minLength := some 3, maxLength := some 500 }

def optionalMotivation : WriteParameterSpec := { requiredMotivation with required := false }

/-- `_text(name, max_length=maxLength)`; `required`, `pattern` and `choices` are updated where an
entry gives them. -/
def text (name : String) (maxLength : Nat) : WriteParameterSpec :=
  { name := name, kind := .text, required := false, minLength := some 1,
    maxLength := some maxLength }

/-- `_text(name, required=True, max_length=maxLength)`. -/
def requiredText (name : String) (maxLength : Nat) : WriteParameterSpec :=
  { text name maxLength with required := true }

/-- `_date(name)`. -/
def date (name : String) : WriteParameterSpec := { name := name, kind := .date, required := false }

/-- `_EMPLOYEE_FIELDS[2:]`, which a creation shares with an update. -/
def sharedEmployeeFields : List WriteParameterSpec :=
  [text "payroll_number" 64, text "tax_code" 32, date "birth_date", text "iban" 64,
    text "job_title" 128, text "phone" 64, text "business_email" 320, text "address" 256,
    text "workplace" 128, text "notes" 512]

/-- `_EMPLOYEE_FIELDS`. -/
def employeeFields : List WriteParameterSpec :=
  [text "first_name" 128, text "last_name" 128] ++ sharedEmployeeFields

/-- A decimal of at most nine integer digits and four places. -/
def amountDecimal (name : String) : WriteParameterSpec :=
  { name := name, kind := .decimal, maxIntegerDigits := some 9, maxDecimalPlaces := some 4 }

def confirmTemplate : TextConfirmationTemplate := ⟨"CONFIRM"⟩

/-! ## The catalog -/

/-- The reads of `_SPECS`. -/
def readSpecs : List FunctionSpec :=
  [ read "EMP-READ-001" "Elenco e conteggio dipendenti"
      [(rule [.readOnly]).inScope "aggregate", (rule [.readOnly]).inScope "exposure",
        rule [.hrRead]]
      { sensitivity := .low },
    read "EMP-READ-002" "Dettaglio anagrafico redatto" hrRead { target := true },
    read "EMP-SEARCH-001" "Ricerca dipendente" hrRead { actionClass := .search },
    read "EMP-FILTER-001" "Filtri elenco" hrRead { actionClass := .filter },
    read "EMP-SORT-001" "Ordinamento elenco" hrRead { actionClass := .filter },
    read "EMP-PAGE-001" "Paginazione" hrRead { actionClass := .filter },
    read "EMP-CONTRACT-001" "Consultazione contratti" hrRead {},
    read "EMP-RBAC-001" "Consultazione gruppi e ruoli" hrRead { target := true },
    read "EMP-TIME-001" "Consultazione timbratura" hrRead { target := true },
    read "EMP-MAT-001" "Consultazione maturazioni" hrRead { target := true },
    read "EMP-BAL-001" "Consultazione bilancio" [(rule [.hrRead]).entitled ["balances:read"]]
      { sensitivity := .high, target := true },
    read "EMP-PAY-001" "Metadati e netto buste paga" payrollRead
      { sensitivity := .high, target := true },
    read "EMP-PAY-002" "Ricerca dipendenti con busta paga per mese" payrollRead
      { sensitivity := .high },
    read "EMP-NOTIF-001" "Notifiche Dipendenti in Cloud" hrRead { sensitivity := .high },
    read "EMP-DOC-001" "Metadati documenti" docsRead { sensitivity := .high, target := true },
    read "EMP-ONBOARD-001" "Estrazione locale documento per bozza dipendente" hrWrite
      { sensitivity := .critical, expose := false,
        capabilities := ["clamav", "tesseract_ita_eng"], adapterManaged := false } ]

/-- The writes of `_SPECS`. -/
def writeSpecs : List FunctionSpec :=
  [ write "EMP-UPDATE-001" "Modifica dati dipendente" "ENABLE_EMPLOYEE_UPDATE" hrWrite
      { writeParameters := employeeFields ++ [optionalMotivation],
        writeRequiredAny := employeeFields.map (·.name),
        resourceSnapshot := .employee },
    write "EMP-CREATE-001" "Creazione dipendente" "ENABLE_EMPLOYEE_CREATE" hrWrite
      { target := false,
        writeParameters :=
          [{ text "creation_mode" 16 with choices := ["manual"] }, requiredText "first_name" 128,
            requiredText "last_name" 128] ++ sharedEmployeeFields ++ [optionalMotivation],
        resourceSnapshot := .employeeCreate },
    write "EMP-CONTRACT-002" "Creazione o modifica contratto" "ENABLE_CONTRACT_WRITE" hrWrite
      { approvals := 1, approverRoles := [.hrWrite, .approver],
        writeParameters :=
          [{ text "contract_id" 128 with pattern := some .identifier }, text "schedule" 128,
            text "flexibility" 128, { name := "permanent", kind := .boolean, required := false },
            date "start_date", date "end_date", text "ccnl_level" 128, text "work_regime" 128,
            text "description" 256, text "contract_type" 128, optionalMotivation],
        writeRequiredAny :=
          ["schedule", "flexibility", "permanent", "start_date", "end_date", "ccnl_level",
            "work_regime", "description", "contract_type"],
        writeSelectors := ["contract_id"],
        resourceSnapshot := .contract },
    write "EMP-MAT-002" "Nuova maturazione" "ENABLE_MATURATION_WRITE" hrWrite
      { approvals := 1, approverRoles := [.hrWrite, .approver],
        writeParameters :=
          [requiredText "category" 128, date "valid_from", date "valid_to", optionalMotivation],
        resourceSnapshot := .maturationCollection },
    write "EMP-BAL-002" "Correzione bilancio" "ENABLE_BALANCE_CORRECTION" hrWrite
      { approvals := 2, approverRoles := approvers, sensitivity := .critical, destructive := true,
        expose := false, confirmationTemplate := some confirmTemplate,
        writeParameters :=
          [{ name := "year", kind := .integer, minValue := some 2000, maxValue := some 2100 },
            { name := "month", kind := .integer, minValue := some 1, maxValue := some 12 },
            requiredText "category" 64, amountDecimal "previous_value", amountDecimal "amount",
            requiredMotivation],
        writeSelectors := ["year", "month", "category", "previous_value"],
        resourceSnapshot := .balanceCorrection },
    write "EMP-CONNECT-001" "Collegamento dipendente" "ENABLE_ACCOUNT_CONNECT" iam
      { approvals := 1, approverRoles := [.iamOperator, .hrWrite, .approver],
        writeParameters := [optionalMotivation], resourceSnapshot := .account,
        fixedPreviewAfter := [("account_state", "connected")] },
    write "EMP-CONNECT-002" "Scollegamento dipendente" "ENABLE_ACCOUNT_DISCONNECT" iam
      { approvals := 2, approverRoles := approvers, sensitivity := .critical, destructive := true,
        confirmationTemplate := some confirmTemplate, writeParameters := [requiredMotivation],
        resourceSnapshot := .account,
        fixedPreviewAfter := [("account_state", "not_connected")] },
    write "EMP-INVITE-001" "Reinvio invito" "ENABLE_INVITE_ACTIONS" iam
      { writeParameters := [optionalMotivation], resourceSnapshot := .account,
        fixedPreviewAfter := [("account_state", "invited")], alwaysEffectful := true,
        operatorLiveAvailable := false },
    write "EMP-INVITE-002" "Annullamento invito" "ENABLE_INVITE_ACTIONS" iam
      { writeParameters := [optionalMotivation], resourceSnapshot := .account,
        fixedPreviewAfter := [("account_state", "not_connected")] },
    write "EMP-RBAC-002" "Modifica permessi e ruoli" "ENABLE_RBAC_WRITE"
      [ruleAllOf [.iamOperator, .approver]]
      { approvals := 2, approverRoles := approvers, sensitivity := .critical, destructive := true,
        expose := false, confirmationTemplate := some confirmTemplate,
        writeParameters :=
          [requiredMotivation, requiredText "role_name" 128,
            { name := "enabled", kind := .boolean }],
        writeSelectors := ["role_name"], resourceSnapshot := .role },
    write "EMP-STATUS-001" "Disattivazione dipendente" "ENABLE_STATUS_CHANGE"
      [ruleAllOf [.hrWrite, .approver]]
      { approvals := 2, approverRoles := approvers, sensitivity := .critical, destructive := true,
        confirmationTemplate := some confirmTemplate, writeParameters := [requiredMotivation],
        resourceSnapshot := .account, fixedPreviewAfter := [("employee_state", "inactive")] },
    write "EMP-STATUS-002" "Riattivazione dipendente" "ENABLE_STATUS_CHANGE" hrWrite
      { approvals := 1, approverRoles := [.approver, .systemAdmin],
        writeParameters := [optionalMotivation], resourceSnapshot := .account,
        fixedPreviewAfter := [("employee_state", "active")] },
    write "EMP-NOTIF-002" "Modifica stato lettura notifica DIC" "ENABLE_NOTIFICATION_STATE_CHANGE"
      hrWrite
      { target := false, expose := false,
        writeParameters :=
          [{ name := "notification_id", kind := .integer, minValue := some 1,
             maxValue := some 9007199254740991 },
            { name := "read", kind := .boolean }],
        writeSelectors := ["notification_id"], resourceSnapshot := .notification },
    write "EMP-DOC-002" "Upload documento" "ENABLE_DOCUMENT_UPLOAD" docs
      { actionClass := .fileUpload, capabilities := ["clamav"],
        writeParameters :=
          [{ requiredText "upload_id" 32 with pattern := some .uploadId },
            requiredText "category" 128, date "expiry_date", optionalMotivation],
        writeSelectors := ["upload_id"], resourceSnapshot := .documentCollection },
    write "EMP-DOC-004" "Modifica metadati documento" "ENABLE_DOCUMENT_UPDATE" docs
      { writeParameters :=
          [{ requiredText "document_id" 128 with pattern := some .identifier },
            text "category" 128, date "expiry_date", optionalMotivation],
        writeRequiredAny := ["category", "expiry_date"], writeSelectors := ["document_id"],
        resourceSnapshot := .document },
    write "EMP-DOC-005" "Eliminazione documento" "ENABLE_DOCUMENT_DELETE" docs
      { approvals := 2, approverRoles := approvers, sensitivity := .critical, destructive := true,
        confirmationTemplate := some confirmTemplate,
        writeParameters :=
          [{ requiredText "document_id" 128 with pattern := some .identifier },
            requiredMotivation],
        writeSelectors := ["document_id"], resourceSnapshot := .document, deletesResource := true,
        operatorLiveAvailable := false },
    write "EMP-EXPORT-001" "Esportazione locale protetta" "ENABLE_EXPORT"
      [(rule [.hrRead, .documentOperator]).inScope "exposure",
        (rule [.hrRead]).inScope "employees",
        ((rule [.hrRead]).inScope "balances").entitled ["balances:read"],
        (rule [.documentOperator]).inScope "documents"]
      { actionClass := .export, target := false,
        writeParameters :=
          [{ requiredText "scope" 16 with choices := ["employees", "balances", "documents"] },
            { requiredText "format" 8 with choices := ["pdf", "docx", "xlsx"] },
            { requiredText "dataset" 32 with choices := ["employees", "contracts_expiring"] },
            { requiredText "status" 16 with choices := ["active", "inactive", "all"] },
            date "date_from", date "date_to",
            { name := "year", kind := .integer, required := false, minValue := some 2000,
              maxValue := some 2100 },
            optionalMotivation],
        resourceSnapshot := .exportSource, alwaysEffectful := true },
    write "EMP-DOC-003" "Download documento in area locale protetta" "ENABLE_DOCUMENT_DOWNLOAD"
      docs
      { approvals := 2, approverRoles := approvers, sensitivity := .critical, destructive := true,
        expose := false, confirmationTemplate := some confirmTemplate,
        writeParameters :=
          [{ requiredText "document_id" 128 with pattern := some .identifier },
            requiredMotivation],
        writeSelectors := ["document_id"], resourceSnapshot := .document, alwaysEffectful := true,
        operatorLiveAvailable := false },
    write "EMP-DELETE-001" "Eliminazione definitiva dipendente" "ENABLE_EMPLOYEE_DELETE"
      [rule [.systemAdmin]]
      { approvals := 2, approverRoles := approvers, sensitivity := .critical, destructive := true,
        expose := false, confirmationTemplate := some ⟨"DELETE"⟩,
        writeParameters := [requiredMotivation], resourceSnapshot := .employee,
        deletesResource := true },
    write "EMP-CONTRACT-003" "Eliminazione contratto" "ENABLE_CONTRACT_DELETE" hrWrite
      { approvals := 2, approverRoles := approvers, sensitivity := .critical, destructive := true,
        expose := false, confirmationTemplate := some confirmTemplate,
        writeParameters :=
          [{ requiredText "contract_id" 128 with pattern := some .identifier },
            requiredMotivation],
        writeSelectors := ["contract_id"], resourceSnapshot := .contract, deletesResource := true,
        operatorLiveAvailable := false } ]

/-- `FUNCTION_CATALOG`, in the order of `_SPECS`. -/
def functionCatalog : List FunctionSpec := readSpecs ++ writeSpecs

/-- `get_function_spec`. -/
def getFunctionSpec (functionId : String) : Option FunctionSpec :=
  functionCatalog.find? (fun spec => spec.functionId == functionId)

theorem getFunctionSpec_some {functionId : String} {spec : FunctionSpec}
    (h : getFunctionSpec functionId = some spec) :
    spec ∈ functionCatalog ∧ spec.functionId = functionId :=
  ⟨List.mem_of_find?_eq_some h, by simpa using List.find?_some h⟩

theorem isWrite_read (functionId title : String) (roleRules : List ScopedRoleRule)
    (o : ReadOptions) (h : o.actionClass ∈ [.read, .search, .filter]) :
    (read functionId title roleRules o).isWrite = false := by
  simp only [List.mem_cons, List.not_mem_nil, or_false] at h
  rcases h with h | h | h <;> simp [FunctionSpec.isWrite, read, h]

/-- What `_build_catalog` checks about approvals before the process starts. -/
theorem functionCatalog_approvals : ∀ spec ∈ functionCatalog,
    spec.approvalsRequired ≤ 2 ∧ (spec.approvalsRequired ≠ 0 → spec.approverRoles ≠ []) := by
  decide

/-- What `_build_catalog` checks about a critical write. -/
theorem functionCatalog_destructive : ∀ spec ∈ functionCatalog,
    spec.destructive → requiredMotivation ∈ spec.writeParameters := by
  decide

/-- Parameter names are distinct within a function. -/
theorem functionCatalog_parameterNames : ∀ spec ∈ functionCatalog,
    (spec.writeParameters.map (·.name)).Nodup := by
  decide

end BhDic.Policies
