import BhDic.Approvals.Service
import BhDic.Dic.Reads
import BhDic.Library.JsonText
import BhDic.Library.Trace
import BhDic.Policies.Parameters

/-!
# The state a write is bound to

`_target_snapshot` reads the target of a write between two samples of an opaque digest of its state,
and hashes both into the fingerprint an approval is bound to. The snapshot of each kind of resource
is a function of its own, and all of them are what `writeResourceSnapshot` chooses from.
-/

namespace BhDic.Application

open BhDic.Approvals BhDic.Dic BhDic.Library BhDic.Policies BhDic.Python
open BhDic.Library.Prog (require ofExcept attempt)

/-- What the coordinator takes snapshots with: `sha256` is `hashlib.sha256(data).hexdigest()`. -/
structure Snapshots where
  unicode : UnicodeData
  hasFiles : Bool
  sha256 : Bytes → String

/-- `resource_before`, `local_cas` and `target`. -/
structure ResourceSnapshot where
  before : Dict String Json
  cas : Dict String Json
  target : String

def applicationError (message : String) : Exn := ⟨.applicationError, message⟩

/-! ## The snapshot of each kind of resource -/

/-- `_spec`. -/
def specOf (functionId : String) : Except Exn FunctionSpec :=
  match getFunctionSpec functionId with
  | some spec => .ok spec
  | none => .error (applicationError "unknown Function ID")

def employeeCreateSnapshot (parameters : Dict String Json) : Reads ResourceSnapshot := do
  let result ← reads (.listEmployees none 1)
  let before := (parameters.filterKeys (· != "creation_mode")).mapKeys fun _ => .str "[NOT_SET]"
  return {
    before := before.set "existing_employee_count" (.int result.total)
    cas := .empty
    target := "Nuovo dipendente - elenco sorgente verificato" }

def exportSnapshot (parameters : Dict String Json) : Reads ResourceSnapshot :=
  match parameters.get? "scope" with
  | some (.str scope) => do
      let before : Dict String Json := (Dict.empty.set "scope" (.str scope)).set "source_state"
        (.str "[VERIFIED_OPAQUE]")
      let target := "Export protetto - ambito " ++ scope
      if scope = "employees" then do
        let result ← reads (.listEmployees none 1)
        return ⟨before.set "record_count" (.int result.total), .empty, target⟩
      else return ⟨before, .empty, target⟩
  | _ => .throw (applicationError "export scope is invalid")

/-- The identity and the state of a notification: its preview and its compare-and-swap data. -/
def notificationState (notificationId : Int) (read : Bool) : Dict String Json :=
  (Dict.empty.set "notification_id" (.int notificationId)).set "read" (.bool read)

def notificationSnapshot (parameters : Dict String Json) : Reads ResourceSnapshot :=
  match parameters.get? "notification_id", parameters.get? "read" with
  | some (.int notificationId), some (.bool _) => do
      let items ← reads .listNotifications
      match items.filter (·.notificationId = notificationId) with
      | [item] => return {
          before := notificationState notificationId item.read
          cas := notificationState notificationId item.read
          target := "Notifica DIC #" ++ toString notificationId }
      | _ => .throw (applicationError "notification target must identify one current record")
  | _, _ => .throw (applicationError "notification state parameters are invalid")

def redactedName (summary : EmployeeSummary) : String :=
  " ".intercalate (([summary.firstNameRedacted, summary.lastNameRedacted].filterMap id).filter
    (· ≠ ""))

/-- `redacted_name or "[NOME REDATTO]"`. -/
def shownName (summary : EmployeeSummary) : String :=
  if redactedName summary = "" then "[NOME REDATTO]" else redactedName summary

def targetLabel (summary : EmployeeSummary) : String :=
  summary.employeeId ++ " - " ++ shownName summary

def employeeSnapshot (spec : FunctionSpec) (summary : EmployeeSummary)
    (parameters : Dict String Json) : Reads ResourceSnapshot :=
  if spec.deletesResource then
    let before : Dict String Json := ((Dict.empty.set "employee_id" (.str summary.employeeId)).set
      "employee_state" (.str summary.state.value)).set "name" (.str (shownName summary))
    return ⟨before, .empty, targetLabel summary⟩
  else do
    let before ← ofExcept (parameters.traverse fun key _ =>
      match Dict.find key summary.current with
      | some value => .ok value
      | none => .error ⟨.keyError, key⟩)
    return ⟨before, .empty, targetLabel summary⟩

/-- `_employee_list_item`. -/
def employeeListItem (employeeId : String) : Reads EmployeeListItem := do
  let result ← reads (.listEmployees (some employeeId) 100)
  match result.items.filter (·.employeeId = employeeId) with
  | [item] => return item
  | _ => .throw (applicationError "employee target must identify exactly one current row")

def accountSnapshot (spec : FunctionSpec) (target employeeId : String) :
    Reads ResourceSnapshot := do
  let item ← employeeListItem employeeId
  match spec.fixedPreviewAfter.head?.map Prod.fst with
  | some "account_state" =>
      return ⟨Dict.empty.set "account_state" (.str item.accountState.value), .empty, target⟩
  | some "employee_state" =>
      return ⟨Dict.empty.set "employee_state" (.str item.employeeState.value), .empty, target⟩
  | _ => .throw (applicationError "account action has no fixed state transition")

/-- The fields of a contract, its description redacted. -/
def contractCurrent (contract : ContractRecord) : List (String × Json) :=
  contract.modelDump.map fun field =>
    if field.1 = "description" ∧ contract.description.isSome then (field.1, .str "[REDACTED]")
    else field

def contractSnapshot (target employeeId : String) (parameters : Dict String Json) :
    Reads ResourceSnapshot := do
  let contracts ← reads (.getContracts employeeId)
  match parameters.get? "contract_id" with
  | none | some .null =>
      let before := parameters.mapKeys fun _ => .str "[NOT_SET]"
      return ⟨before.set "existing_contract_count" (.int contracts.length), .empty, target⟩
  | some (.str contractId) =>
      match contracts.filter (·.contractId = contractId) with
      | [contract] =>
          let before := parameters.mapKeys fun key =>
            (Dict.find key (contractCurrent contract)).getD .null
          return ⟨before.set "contract_status" (jsonText contract.status), .empty, target⟩
      | _ =>
          .throw (applicationError "contract target must identify exactly one current record")
  | some _ => .throw (applicationError "contract target is invalid")

/-- An optional text equals a parameter that may be absent. -/
def sameText (text : Option String) (value : Option Json) : Bool :=
  match text, value with
  | none, none | none, some .null => true
  | some text, some (.str value) => text == value
  | _, _ => false

/-- `str(value)`, for the texts, integers and booleans a validated parameter can be. -/
def textOf : Option Json → String
  | some (.str text) => text
  | some (.int n) => toString n
  | some (.bool true) => "True"
  | some (.bool false) => "False"
  | _ => "None"

def casefolded (u : UnicodeData) (text : String) : List Char := u.casefold text.toList

def maturationSnapshot (c : Snapshots) (target employeeId : String) (parameters : Dict String Json)
    (validatePrecondition : Bool) : Reads ResourceSnapshot := do
  let records ← reads (.getMaturations employeeId)
  let duplicate := records.any fun record =>
    casefolded c.unicode record.category ==
        casefolded c.unicode (textOf (parameters.get? "category")) &&
      sameText record.validFrom (parameters.get? "valid_from") &&
      sameText record.validTo (parameters.get? "valid_to")
  require (¬(duplicate = true ∧ validatePrecondition = true))
    (applicationError "maturation already exists with the approved values")
  let before := parameters.mapKeys fun _ => .str "[NOT_SET]"
  return ⟨before.set "existing_maturation_count" (.int records.length), .empty, target⟩

/-- `canonical_decimal_text(parameters.get("previous_value"))`. -/
def expectedPrevious (u : UnicodeData) : Option Json → Except Exn String
  | some (.str text) =>
      match canonicalDecimalText u text 9 4 with
      | .ok previous => .ok previous
      | .error _ => .error (applicationError "invalid previous balance value")
  | _ => .error (applicationError "invalid previous balance value")

def balanceSnapshot (c : Snapshots) (target employeeId : String) (parameters : Dict String Json)
    (validatePrecondition : Bool) : Reads ResourceSnapshot :=
  match parameters.get? "year", parameters.get? "month", parameters.get? "category" with
  | some (.int year), some (.int month), some (.str category) => do
      let state ← reads (.getBalanceCorrectionState employeeId year month category)
      let previous ← ofExcept (expectedPrevious c.unicode (parameters.get? "previous_value"))
      require (¬(validatePrecondition = true ∧ state.currentValue ≠ previous))
        (applicationError "previous balance value does not match the current resource")
      return {
        before := ((((Dict.empty.set "year" (.int state.year)).set "month" (.int state.month)).set
          "category" (.str state.category)).set "previous_value" (.str state.currentValue)).set
          "amount" (.str state.currentValue)
        cas := .empty
        target := target }
  | _, _, _ => .throw (applicationError "invalid balance correction target")

def roleSnapshot (c : Snapshots) (target employeeId : String) (parameters : Dict String Json) :
    Reads ResourceSnapshot :=
  match parameters.get? "role_name" with
  | some (.str roleName) => do
      let roles ← reads (.getRoles employeeId)
      match roles.filter fun role =>
          casefolded c.unicode role.name = casefolded c.unicode roleName with
      | [role] =>
          return ⟨(Dict.empty.set "role_name" (.str role.name)).set "enabled" (.bool role.enabled),
            .empty, target⟩
      | _ => .throw (applicationError "role target must identify exactly one current role")
  | _ => .throw (applicationError "invalid role target")

def documentSnapshot (target employeeId : String) (parameters : Dict String Json) :
    Reads ResourceSnapshot :=
  match parameters.get? "document_id" with
  | some (.str documentId) => do
      let documents ← reads (.getDocumentMetadata employeeId)
      match documents.filter (·.documentId = documentId) with
      | [document] =>
          let before := parameters.mapKeys fun key =>
            (Dict.find key document.modelDump).getD .null
          return ⟨(before.set "state" (.str document.state)).set "title"
            (.str document.titleRedacted), .empty, target⟩
      | _ =>
          .throw (applicationError "document target must identify exactly one metadata record")
  | _ => .throw (applicationError "invalid document target")

/-- The compare-and-swap data of an upload: what is delivered is what was approved. -/
def uploadCas (resolved : Files.ResolvedUpload) : Dict String Json :=
  (((Dict.empty.set "upload_id" (.str resolved.uploadId)).set "sha256" (.str resolved.sha256)).set
    "size" (.int resolved.sizeBytes)).set "detected_mime" (.str resolved.detectedMime)

def uploadSnapshot (c : Snapshots) (target employeeId : String) (parameters : Dict String Json) :
    Reads ResourceSnapshot := do
  require (c.hasFiles = true) (applicationError "file delivery boundary is unavailable")
  match parameters.get? "upload_id" with
  | some (.str uploadId) => do
      let resolved ← reads (.resolveCleanUpload uploadId)
      let documents ← reads (.getDocumentMetadata employeeId)
      let before := parameters.mapKeys fun _ => .str "[NOT_SET]"
      return {
        before := ((before.set "upload_state" (.str "CLEAN")).set "upload_size"
          (.int resolved.sizeBytes)).set "existing_document_count" (.int documents.length)
        cas := uploadCas resolved
        target := target }
  | _ => .throw (applicationError "upload identifier is invalid")

/-- The kinds that belong to one employee. -/
def employeeResourceSnapshot (c : Snapshots) (spec : FunctionSpec) (kind : ResourceSnapshotKind)
    (employeeId : String) (parameters : Dict String Json) (validatePrecondition : Bool) :
    Reads ResourceSnapshot := do
  let summary ← reads (.getEmployeeSummary employeeId)
  let target := targetLabel summary
  match kind with
  | .employee => employeeSnapshot spec summary parameters
  | .account => accountSnapshot spec target employeeId
  | .contract => contractSnapshot target employeeId parameters
  | .maturationCollection =>
      maturationSnapshot c target employeeId parameters validatePrecondition
  | .balanceCorrection => balanceSnapshot c target employeeId parameters validatePrecondition
  | .role => roleSnapshot c target employeeId parameters
  | .document => documentSnapshot target employeeId parameters
  | .documentCollection => uploadSnapshot c target employeeId parameters
  | _ => .throw (applicationError "write resource snapshot kind is unsupported")

/-- `_write_resource_snapshot`. -/
def writeResourceSnapshot (c : Snapshots) (spec : FunctionSpec) (employeeId : Option String)
    (parameters : Dict String Json) (validatePrecondition : Bool) : Reads ResourceSnapshot :=
  match spec.resourceSnapshot with
  | none => .throw (applicationError "write has no resource snapshot plan")
  | some .employeeCreate => employeeCreateSnapshot parameters
  | some .exportSource => exportSnapshot parameters
  | some .notification => notificationSnapshot parameters
  | some kind =>
      match employeeId with
      | none => .throw (applicationError "write resource requires employee_id")
      | some employeeId =>
          employeeResourceSnapshot c spec kind employeeId parameters validatePrecondition

/-! ## The fingerprint -/

/-- What the coordinator takes for a digest: 64 lower-case hexadecimal characters. -/
def isHexDigest (digest : String) : Bool :=
  digest.length == 64 && digest.toList.all fun c => c ∈ "0123456789abcdef".toList

/-- `_opaque_state_digest`. -/
def opaqueStateDigest (functionId : String) (employeeId : Option String)
    (parameters : Dict String Json) (validatePrecondition : Bool) : Reads String := do
  match ← (reads (.getStateDigest functionId employeeId parameters)).attempt with
  | .ok digest =>
      if isHexDigest digest then return digest
      else .throw (applicationError "adapter returned an invalid opaque resource digest")
  | .error e =>
      if e.isA .dicNotFoundError || e.isA .dicValidationError then
        if validatePrecondition then
          .throw (applicationError "opaque resource snapshot is unavailable")
        else return "UNAVAILABLE"
      else .throw e

/-- What stands in for a resource that cannot be read at execution. -/
def unavailableState : Dict String Json := Dict.empty.set "resource_state" (.str "UNAVAILABLE")

/-- `employee_id or "Operazione senza singolo target"`. -/
def unavailableTarget (employeeId : Option String) : String :=
  match employeeId with
  | some employeeId => if employeeId = "" then "Operazione senza singolo target" else employeeId
  | none => "Operazione senza singolo target"

/-- The resource between the two samples, or what stands in for it. -/
def resourceOrSentinel (c : Snapshots) (spec : FunctionSpec) (employeeId : Option String)
    (parameters : Dict String Json) (validatePrecondition : Bool) : Reads ResourceSnapshot := do
  let read := writeResourceSnapshot c spec employeeId parameters validatePrecondition
  match ← read.attempt with
  | .ok resource => return resource
  | .error e =>
      if e.isA .dicNotFoundError || e.isA .dicValidationError || e.isA .uploadResolutionError then
        if validatePrecondition then
          .throw (applicationError "write resource is unavailable or ambiguous")
        else return ⟨unavailableState, unavailableState, unavailableTarget employeeId⟩
      else .throw e

/-- `material`. -/
def fingerprintMaterial (functionId : String) (employeeId : Option String) (digest : String)
    (cas : Dict String Json) : Json :=
  .obj [("version", .int 2), ("function_id", .str functionId),
    ("employee_id", jsonText employeeId), ("opaque_state_digest", .str digest),
    ("local_cas", .obj cas.items)]

/-- What a fingerprint is taken of, and what is shown of the target. -/
structure TargetSnapshot where
  material : Json
  target : String
  before : Dict String Json

/-- `canonical`: the bytes that are hashed. -/
def TargetSnapshot.canonical (s : TargetSnapshot) : Bytes :=
  encodeUtf8 (String.ofList (dumps true s.material))

def Snapshots.fingerprint (c : Snapshots) (s : TargetSnapshot) : String := c.sha256 s.canonical

/-- `_target_snapshot`, up to the hash. -/
def targetSnapshot (c : Snapshots) (functionId : String) (employeeId : Option String)
    (parameters : Dict String Json) (validatePrecondition : Bool) : Reads TargetSnapshot := do
  let spec ← ofExcept (specOf functionId)
  let first ← opaqueStateDigest functionId employeeId parameters validatePrecondition
  let resource ← resourceOrSentinel c spec employeeId parameters validatePrecondition
  let second ← opaqueStateDigest functionId employeeId parameters validatePrecondition
  require (¬(first ≠ second ∧ validatePrecondition = true))
    (applicationError "write resource changed while preparing its preview")
  let digest := if first ≠ second then "UNSTABLE" else second
  return {
    material := fingerprintMaterial functionId employeeId digest resource.cas
    target := resource.target
    before := resource.before }

/-- `_state_fingerprint`, and the `begin_execution` it is taken for. -/
def beginFresh (c : Snapshots) (action : PendingAction) (parameters : Dict String Json)
    (r : Readings) : Prog (repositoryEffect.sum readsEffect) Exn PendingAction := do
  let current ←
    (targetSnapshot c action.functionId action.targetEmployeeId parameters false).inr
  (beginExecution action.actionId (c.fingerprint current) r).inl

/-! ## What a snapshot says -/

/-- No resource has compare-and-swap data that could be taken for the sentinel. -/
def NoSentinel (resource : ResourceSnapshot) : Prop :=
  resource.cas.get? "resource_state" = none

theorem employeeResourceSnapshot_noSentinel (c : Snapshots) (spec : FunctionSpec)
    (kind : ResourceSnapshotKind) (employeeId : String) (parameters : Dict String Json)
    (validatePrecondition : Bool) :
    Prog.Ensures NoSentinel
      (employeeResourceSnapshot c spec kind employeeId parameters validatePrecondition) := by
  have hempty : (Dict.empty : Dict String Json).get? "resource_state" = none := rfl
  refine Prog.Ensures.bind _ fun summary => ?_
  cases kind with
  | employee =>
      simp only [employeeSnapshot]
      split
      · exact hempty
      · exact Prog.Ensures.bind _ fun before => hempty
  | account =>
      refine Prog.Ensures.bind _ fun item => ?_
      split
      · exact hempty
      · exact hempty
      · trivial
  | contract =>
      refine Prog.Ensures.bind _ fun contracts => ?_
      split
      · exact hempty
      · exact hempty
      · split
        · exact hempty
        · trivial
      · trivial
  | maturationCollection =>
      refine Prog.Ensures.bind _ fun records => ?_
      exact Prog.Ensures.bind _ fun _ => hempty
  | balanceCorrection =>
      simp only [balanceSnapshot]
      split
      · refine Prog.Ensures.bind _ fun state => ?_
        refine Prog.Ensures.bind _ fun previous => ?_
        exact Prog.Ensures.bind _ fun _ => hempty
      · trivial
  | role =>
      simp only [roleSnapshot]
      split
      · refine Prog.Ensures.bind _ fun roles => ?_
        split
        · exact hempty
        · trivial
      · trivial
  | document =>
      simp only [documentSnapshot]
      split
      · refine Prog.Ensures.bind _ fun documents => ?_
        split
        · exact hempty
        · trivial
      · trivial
  | documentCollection =>
      refine Prog.Ensures.bind _ fun _ => ?_
      split
      · refine Prog.Ensures.bind _ fun resolved => ?_
        exact Prog.Ensures.bind _ fun documents => rfl
      · trivial
  | _ => trivial

theorem writeResourceSnapshot_noSentinel (c : Snapshots) (spec : FunctionSpec)
    (employeeId : Option String) (parameters : Dict String Json) (validatePrecondition : Bool) :
    Prog.Ensures NoSentinel
      (writeResourceSnapshot c spec employeeId parameters validatePrecondition) := by
  have hempty : (Dict.empty : Dict String Json).get? "resource_state" = none := rfl
  unfold writeResourceSnapshot
  split
  · trivial
  · exact Prog.Ensures.bind _ fun result => hempty
  · simp only [exportSnapshot]
    split
    · split
      · exact Prog.Ensures.bind _ fun result => hempty
      · exact hempty
    · trivial
  · simp only [notificationSnapshot]
    split
    · refine Prog.Ensures.bind _ fun items => ?_
      split
      · rfl
      · trivial
    · trivial
  · split
    · trivial
    · exact employeeResourceSnapshot_noSentinel c spec _ _ parameters validatePrecondition

section Sampled

variable {c : Snapshots} {functionId : String} {employeeId : Option String}
  {parameters : Dict String Json} {validatePrecondition : Bool}
  {answers : List readsEffect.Answered}

/-- A sample of the digest that was answered with `digest`. -/
def sample (functionId : String) (employeeId : Option String) (parameters : Dict String Json)
    (digest : String) : readsEffect.Answered :=
  ⟨.getStateDigest functionId employeeId parameters, .ok digest⟩

theorem returns_opaqueStateDigest {digest : String}
    (h : Prog.Returns (opaqueStateDigest functionId employeeId parameters validatePrecondition)
      answers digest) :
    (answers = [sample functionId employeeId parameters digest] ∧ isHexDigest digest = true) ∨
      (validatePrecondition = false ∧ digest = "UNAVAILABLE") := by
  rw [opaqueStateDigest, Prog.bind_def, Prog.returns_bind] at h
  obtain ⟨answer, first, rest, rfl, hread, h⟩ := h
  rw [Prog.returns_attempt] at hread
  cases answer with
  | ok x =>
      obtain rfl := returns_reads.mp hread
      dsimp only at h
      split at h
      · rename_i hhex
        obtain ⟨rfl, rfl⟩ := h
        exact .inl ⟨rfl, hhex⟩
      · exact h.elim
  | error e =>
      dsimp only at h
      split at h
      · split at h
        · exact h.elim
        · rename_i hvalidate
          obtain ⟨rfl, rfl⟩ := h
          exact .inr ⟨Bool.eq_false_iff.mpr hvalidate, rfl⟩
      · exact h.elim

theorem returns_resourceOrSentinel {spec : FunctionSpec} {resource : ResourceSnapshot}
    (h : Prog.Returns (resourceOrSentinel c spec employeeId parameters validatePrecondition)
      answers resource) :
    Prog.Returns (writeResourceSnapshot c spec employeeId parameters validatePrecondition) answers
        resource ∨
      (validatePrecondition = false ∧ resource.cas = unavailableState) := by
  rw [resourceOrSentinel, Prog.bind_def, Prog.returns_bind] at h
  obtain ⟨answer, first, rest, rfl, hread, h⟩ := h
  rw [Prog.returns_attempt] at hread
  cases answer with
  | ok x =>
      obtain ⟨rfl, rfl⟩ := h
      rw [List.append_nil]
      exact .inl hread
  | error e =>
      dsimp only at h
      split at h
      · split at h
        · exact h.elim
        · rename_i hvalidate
          obtain ⟨rfl, rfl⟩ := h
          exact .inr ⟨Bool.eq_false_iff.mpr hvalidate, rfl⟩
      · exact h.elim

/-- The target was read, and both samples around that read were available and equal. -/
structure Sampled (c : Snapshots) (functionId : String) (employeeId : Option String)
    (parameters : Dict String Json) (validatePrecondition : Bool)
    (answers : List readsEffect.Answered) (digest : String) (cas : Dict String Json) : Prop where
  available : isHexDigest digest = true
  read : ∃ spec resource between, specOf functionId = .ok spec ∧
    Prog.Returns (writeResourceSnapshot c spec employeeId parameters validatePrecondition) between
      resource ∧ resource.cas = cas ∧
    answers = sample functionId employeeId parameters digest ::
      (between ++ [sample functionId employeeId parameters digest])

/-- A snapshot either was sampled, or carries a sentinel; at preparation it was sampled. -/
theorem returns_targetSnapshot {snapshot : TargetSnapshot}
    (h : Prog.Returns (targetSnapshot c functionId employeeId parameters validatePrecondition)
      answers snapshot) :
    ∃ digest cas, snapshot.material = fingerprintMaterial functionId employeeId digest cas ∧
      (Sampled c functionId employeeId parameters validatePrecondition answers digest cas ∨
        (validatePrecondition = false ∧
          (digest = "UNAVAILABLE" ∨ digest = "UNSTABLE" ∨ cas = unavailableState))) := by
  simp only [targetSnapshot, Prog.bind_def, Prog.pure_def, Prog.returns_bind,
    Prog.returns_ofExcept, Prog.returns_require, Prog.returns_pure] at h
  obtain ⟨spec, _, rest, rfl, ⟨rfl, hspec⟩, first, firstReads, rest, rfl, hfirst, h⟩ := h
  obtain ⟨resource, between, rest, rfl, hresource, second, secondReads, rest, rfl, hsecond, h⟩ := h
  obtain ⟨_, _, _, rfl, ⟨rfl, hstable⟩, rfl, rfl⟩ := h
  refine ⟨_, _, rfl, ?_⟩
  by_cases hchanged : first ≠ second
  · -- The two samples differ: only an execution goes on, with a sentinel.
    have hexecution : validatePrecondition = false := by
      cases validatePrecondition with
      | false => rfl
      | true => exact absurd ⟨hchanged, rfl⟩ hstable
    exact .inr ⟨hexecution, .inr (.inl (if_pos hchanged))⟩
  · rw [if_neg hchanged]
    rw [not_not] at hchanged
    subst hchanged
    rcases returns_opaqueStateDigest hfirst with ⟨rfl, hhex⟩ | ⟨hexecution, rfl⟩
    · rcases returns_opaqueStateDigest hsecond with ⟨rfl, -⟩ | ⟨hexecution, rfl⟩
      · rcases returns_resourceOrSentinel hresource with hread | ⟨hexecution, hcas⟩
        · refine .inl ⟨hhex, spec, resource, between, hspec, hread, rfl, ?_⟩
          simp
        · exact .inr ⟨hexecution, .inr (.inr hcas)⟩
      · exact .inr ⟨hexecution, .inl rfl⟩
    · exact .inr ⟨hexecution, .inl rfl⟩

/-- Materials that are the same document agree in every field. -/
theorem fingerprintMaterial_same {functionId' : String} {employeeId' : Option String}
    {digest digest' : String} {cas cas' : Dict String Json}
    (h : (fingerprintMaterial functionId employeeId digest cas).Same
      (fingerprintMaterial functionId' employeeId' digest' cas')) :
    functionId = functionId' ∧ employeeId = employeeId' ∧ digest = digest' ∧
      (Json.obj cas.items).Same (.obj cas'.items) := by
  have hnodup : ([("version", Json.int 2), ("function_id", .str functionId),
      ("employee_id", jsonText employeeId), ("opaque_state_digest", .str digest),
      ("local_cas", .obj cas.items)].map (·.1)).Nodup := by simp
  have hfield := Json.Same.find hnodup h
  have hfunction : Option.Rel Json.Same (some (.str functionId)) (some (.str functionId')) :=
    hfield "function_id"
  have hemployee : Option.Rel Json.Same (some (jsonText employeeId)) (some (jsonText employeeId')) :=
    hfield "employee_id"
  have hdigest : Option.Rel Json.Same (some (.str digest)) (some (.str digest')) :=
    hfield "opaque_state_digest"
  have hcas : Option.Rel Json.Same (some (.obj cas.items)) (some (.obj cas'.items)) :=
    hfield "local_cas"
  refine ⟨?_, ?_, ?_, ?_⟩
  · cases hfunction with
    | some h => exact same_str.mp h
  · cases hemployee with
    | some h =>
        cases employeeId <;> cases employeeId'
        · rfl
        · cases h
        · cases h
        · exact congrArg some (same_str.mp h)
  · cases hdigest with
    | some h => exact same_str.mp h
  · cases hcas with
    | some h => exact h

end Sampled

end BhDic.Application
