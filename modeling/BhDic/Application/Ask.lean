import BhDic.Application.Execution
import BhDic.Application.Snapshot
import BhDic.Policies.Engine
import BhDic.Query.Context

/-!
# Asking the assistant

`BHApplicationCoordinator.ask` and `select_employee`: a message is read against the conversation
context, interpreted, given a target, authorised and carried out. The context store is called one
method at a time; the parsers, the provider, the policy engine, the roster and what finally carries
the request out are calls on the environment.
-/

namespace BhDic.Query

open BhDic.Library

/-! ## What is read off a context -/

def Scalar.toJson : Scalar → Json
  | .int n => .int n
  | .bool b => .bool b
  | .text s => .str s

/-- `dict(...)` of the parameters of a context. -/
def dictOf (parameters : ContextParameters) : Dict String Json :=
  parameters.foldl (fun d p => d.set p.1 p.2.toJson) .empty

namespace StoreAnswer

variable {T : Type}

def choice : StoreAnswer T → Option (String × ConversationContext T)
  | .selected choice => choice
  | _ => none

def candidates : StoreAnswer T → Option (ConversationContext T)
  | .context remembered => remembered
  | _ => none

def target : StoreAnswer T → Option (PendingEmployeeTarget T)
  | .pending target => target
  | _ => none

def current : StoreAnswer T → Option String
  | .employee id => id
  | _ => none

def isTrue : StoreAnswer T → Bool
  | .flag b => b
  | _ => false

end StoreAnswer

end BhDic.Query

namespace BhDic.Application

open BhDic.Audit BhDic.Dic BhDic.Library BhDic.Policies BhDic.Python BhDic.Query BhDic.Security
open BhDic.Library.Prog (require ask)

/-! ## Intents -/

/-- `IntentEnvelope`, as far as `ask` reads it. No action class is `UNSUPPORTED`. -/
structure Intent where
  functionId : String
  actionClass : Option ActionClass
  employeeId : Option String := none
  query : Option String := none
  parameters : Dict String Json
  dateFrom : Option Date := none
  dateTo : Option Date := none
  requiresClarification : Bool := false
  clarificationQuestion : Option String := none

/-- `_EMPLOYEE_ID_RE`. -/
def isEnvelopeEmployeeId (text : String) : Bool :=
  match text.toList with
  | [] => false
  | first :: rest => first.isAlphanum && rest.length ≤ 63 &&
      rest.all fun c => c.isAlphanum || c == '_' || c == '-'

/-- `_direct_intent`, of parameters that are scalars: the envelope asks for a well-formed target and
for at most 32 parameters. -/
def directIntent (functionId : String) (employeeId : Option String)
    (parameters : ContextParameters) : Except Exn Intent := do
  let spec ← specOf functionId
  ensure ((∀ id ∈ employeeId, isEnvelopeEmployeeId id = true) ∧ (dictOf parameters).items.length ≤ 32)
    ⟨.pydanticValidationError, "IntentEnvelope"⟩
  return {
    functionId := functionId
    actionClass := some spec.actionClass
    employeeId := employeeId
    parameters := dictOf parameters }

/-- The words that make a follow-up ask for something else than the remembered function. -/
def followupMarkers : List (List String × String) :=
  [(["mostrami tutto", "dettaglio", "profilo"], "EMP-READ-002"), (["document"], "EMP-DOC-001"),
    (["ruolo", "permess"], "EMP-RBAC-001"), (["timbr", "presenz"], "EMP-TIME-001"),
    (["maturaz"], "EMP-MAT-001"), (["bilancio", "saldo", "contator"], "EMP-BAL-001"),
    (["busta paga", "cedolino", "netto"], "EMP-PAY-001")]

/-- Whether a text is found in another. -/
def containsText (marker text : List Char) : Bool := text.tails.any marker.isPrefixOf

/-- `_context_followup_intent`. -/
def contextFollowupIntent {T : Type} (u : UnicodeData) (request employeeId : String)
    (remembered : ConversationContext T) : Except Exn Intent :=
  let folded := u.casefold request.toList
  let asked := followupMarkers.find? fun markers => markers.1.any (containsText ·.toList folded)
  directIntent ((asked.map (·.2)).getD remembered.functionId) (some employeeId)
    remembered.parameters

/-- What a local parser makes of a request: an intent, and the name of its target. -/
structure LocalIntent where
  intent : Intent
  targetQuery : Option String

/-- `build_local_hr_query_plan`: a plan of several steps without a target, or the intent of its one
step. -/
structure QueryPlan where
  manySteps : Bool
  legacyIntent : Option LocalIntent

/-- An entry of the roster, with `_employee_display_name`. -/
structure RosterEntry where
  item : EmployeeListItem
  displayName : String

/-! ## Responses -/

/-- What `ask` returns: an `InteractionResult` with its fields and its selection menu. -/
structure AskResponse where
  result : InteractionResult
  fields : List (String × String) := []
  employeeSelection : List (String × String) := []
  selectionContextId : Option String := none

/-- A response that nothing was done for. -/
def refusal (title description : String) : AskResponse where
  result := { title := title, description := description, success := false }

def RosterEntry.label (entry : RosterEntry) : String :=
  entry.displayName ++ " · ID " ++ entry.item.employeeId ++ " · " ++ entry.item.employeeState.value

def notFoundResponse (restricted : Bool) : AskResponse :=
  refusal "Dipendente non trovato" (
    if restricted then
      "La risposta non identifica una delle persone proposte. Usa il menu, " ++
        "l'Employee ID mostrato oppure un cognome presente nell'elenco."
    else "Nessun dipendente corrisponde alla ricerca indicata.")

def ambiguousResponse (candidates : List RosterEntry) (suggestionsOnly : Bool)
    (contextId : String) : AskResponse where
  result := {
    title :=
      if suggestionsOnly && candidates.length == 1 then "Conferma il dipendente simile"
      else "Risultato non univoco"
    description := "Ho trovato " ++ toString candidates.length ++ " possibil" ++
      (if candidates.length = 1 then "e corrispondenza" else "i corrispondenze") ++ ". " ++
      "Conferma dal menu oppure rispondi con il cognome, l'Employee ID o un " ++
      "ordinale come \x60il secondo\x60."
    success := false }
  fields := (candidates.take 25).map fun entry =>
    (entry.displayName, "ID: " ++ entry.item.employeeId ++ " · stato: " ++
      entry.item.employeeState.value)
  employeeSelection := (candidates.take 25).map fun entry => (entry.item.employeeId, entry.label)
  selectionContextId := some contextId

/-! ## Calls -/

/-- What `ask` calls. A call on the store is made at once, every other one is awaited. -/
inductive AskOp
  | store (method : StoreMethod)
  /-- `uuid.uuid4().hex`, in `remember_candidates` -/
  | newContextId
  /-- `visible_function_ids`, of the actor -/
  | visibleFunctionIds
  /-- `capabilities` -/
  | capabilities
  /-- `_execute_query_plan` -/
  | executeQueryPlan (request : String)
  /-- the provider, or its local fallback, on a minimised request -/
  | routeByProvider (request : String) (visible : List String)
  /-- `_infer_unique_employee_mention` -/
  | inferUniqueEmployeeMention (request : String)
  /-- the roster and `_employee_candidates` -/
  | employeeCandidates (query : String) (allowed : Option (List String))
  /-- `policy.evaluate`, in the actor's context -/
  | evaluate (functionId : String) (target : Option String) (scope : String)
  /-- `_execute_employee_hr_dossier`, `_prepare_write` or `_dispatch_read` -/
  | executeEmployeeHrDossier (employeeId : String) (year : Int)
  | prepareWrite (intent : Intent)
  | dispatchRead (intent : Intent) (scope : String)
  | audit (eventType : String) (functionId : Option String) (outcome : AuditOutcome)
      (target : Option String)

/-- What a call returns when it does not raise. -/
def AskOp.Returns (T : Type) : AskOp → Type
  | .store _ => StoreAnswer T
  | .newContextId => String
  | .visibleFunctionIds => List String
  | .routeByProvider _ _ => Intent ⊕ AskResponse
  | .inferUniqueEmployeeMention _ => Option RosterEntry
  | .employeeCandidates _ _ => List RosterEntry × Bool
  | .evaluate _ _ _ => PolicyDecision
  | .audit _ _ _ _ => Unit
  | _ => AskResponse

abbrev askEffect (T : Type) : Effect := ⟨AskOp, fun o => Except Exn (o.Returns T)⟩

abbrev AskProg (T : Type) (α : Type) := Prog (askEffect T) Exn α

/-- What the coordinator interprets requests with. -/
structure Interpreter where
  unicode : UnicodeData
  isCapabilitiesRequest : String → Bool
  isEmployeeAggregateRequest : String → Bool
  buildLocalHrQueryPlan : String → Option QueryPlan
  parseLocalOperationalIntent : String → Option LocalIntent

section Coordinator

variable {T : Type}

/-- Make a call, raising what it raises. -/
def await (o : AskOp) : AskProg T (o.Returns T) := (ask o).bind Prog.ofExcept

variable (c : Interpreter)

/-! ## Interpreting a request -/

/-- An intent and the name of its target, or a response at once. -/
abbrev Routed := LocalIntent ⊕ AskResponse

/-- What the local parsers recognised, or else what the provider makes of a request. -/
def localOrProvider (normalized : String) (visible : List String) :
    Option LocalIntent → AskProg T Routed
  | some found => return .inl found
  | none => do
      let routed : Intent ⊕ AskResponse ← await (.routeByProvider normalized visible)
      return routed.map (⟨·, none⟩) id

/-- What is asked for: the follow-up of a selection, the operation that waits for a target, or what
the request itself says. -/
def route (normalized : String) (contextIntent : Option Intent)
    (pending : Option (PendingEmployeeTarget T)) (visible : List String) : AskProg T Routed :=
  match contextIntent, pending with
  | some intent, _ => return .inl ⟨intent, none⟩
  | none, some target => do
      let intent ← Prog.ofExcept (directIntent target.functionId none target.parameters)
      return .inl ⟨intent, some normalized⟩
  | none, none =>
      match c.buildLocalHrQueryPlan normalized with
      | none => localOrProvider normalized visible (c.parseLocalOperationalIntent normalized)
      | some plan =>
          if plan.manySteps then do
            let response : AskResponse ← await (.executeQueryPlan normalized)
            return .inr response
          else localOrProvider normalized visible plan.legacyIntent

/-- `_CURRENT_EMPLOYEE_READ_FUNCTIONS`. -/
def currentEmployeeReadFunctions : List String :=
  ["EMP-READ-002", "EMP-DOC-001", "EMP-RBAC-001", "EMP-TIME-001", "EMP-MAT-001", "EMP-BAL-001",
    "EMP-CONTRACT-001", "EMP-PAY-001"]

def Intent.requiresTarget (intent : Intent) : Bool :=
  (getFunctionSpec intent.functionId).any (·.requiresTarget)

def Intent.withTarget (intent : Intent) (employeeId : String) : Intent :=
  { intent with
    employeeId := some employeeId
    requiresClarification := false
    clarificationQuestion := none }

/-- The current employee, for the reads that may be about it. -/
def rememberedEmployee (intent : Intent) : AskProg T (Option String) :=
  if intent.actionClass = some .read ∧ intent.functionId ∈ currentEmployeeReadFunctions then do
    let answer : StoreAnswer T ← await (.store .currentEmployee)
    return answer.current
  else return none

/-- The one person the request mentions, or else a clarification. -/
def inferTarget (normalized : String) (intent : Intent) :
    AskProg T (Intent × Option RosterEntry) := do
  let inferred : Option RosterEntry ← await (.inferUniqueEmployeeMention normalized)
  match inferred with
  | some entry => return (intent.withTarget entry.item.employeeId, some entry)
  | none =>
      if intent.requiresClarification then return (intent, none)
      else return ({ intent with
        requiresClarification := true
        clarificationQuestion :=
          some "Indica il nome, il cognome oppure l'Employee ID della persona." }, none)

/-- The target of a request that needs one and names none. -/
def supplyTarget (normalized : String) (intent : Intent) (targetQuery : Option String) :
    AskProg T (Intent × Option RosterEntry) :=
  if intent.requiresTarget = true ∧ intent.employeeId = none ∧ targetQuery = none then do
    match ← rememberedEmployee intent with
    | some employeeId => return (intent.withTarget employeeId, none)
    | none => inferTarget normalized intent
  else return (intent, none)

/-- An operation that lacks its target is remembered. -/
def rememberTarget (intent : Intent) : AskProg T Unit :=
  if intent.requiresTarget = true ∧ intent.employeeId = none then do
    let _ ← await (.store (.rememberPendingTarget intent.functionId intent.parameters))
    return ()
  else return ()

/-- A request that is not clear. -/
def clarify (intent : Intent) : AskProg T AskResponse := do
  rememberTarget intent
  await (.audit "intent.clarification"
    (if intent.functionId = "UNSUPPORTED" then none else some intent.functionId) .denied
    intent.employeeId)
  return refusal "Chiarimento necessario"
    ((intent.clarificationQuestion.filter (· ≠ "")).getD "Specifica meglio la richiesta.")

/-- The candidates are remembered with the operation, and so is the operation by itself. -/
def offerCandidates (intent : Intent) (candidates : List RosterEntry) (suggestionsOnly : Bool) :
    AskProg T AskResponse := do
  let contextId : String ← await .newContextId
  let ids := (candidates.take 100).map (·.item.employeeId)
  let _ ← await (.store (.rememberCandidates ids intent.functionId intent.parameters contextId))
  -- a name that follows is looked up again, and never kept in the context
  let _ ← await (.store (.rememberPendingTarget intent.functionId intent.parameters))
  return ambiguousResponse candidates suggestionsOnly contextId

/-- What a search comes to: one person, or a response. -/
def concludeSearch (intent : Intent) (restricted : Bool) :
    List RosterEntry × Bool → AskProg T (RosterEntry ⊕ AskResponse)
  | ([], _) => return .inr (notFoundResponse restricted)
  | ([entry], false) => return .inl entry
  | (candidates, suggestionsOnly) => do
      let response ← offerCandidates intent candidates suggestionsOnly
      return .inr response

/-- `_resolve_employee_target`. -/
def resolveEmployeeTarget (query : String) (intent : Intent) (allowed : Option (List String)) :
    AskProg T (RosterEntry ⊕ AskResponse) := do
  let normalized ← Prog.ofExcept (normalizeText c.unicode query 128 false)
  let found : List RosterEntry × Bool ← await (.employeeCandidates normalized allowed)
  concludeSearch intent allowed.isSome found

/-! ## Carrying a request out -/

/-- `_operation_scope`. -/
def operationScope (intent : Intent) (request : String) : String :=
  match intent.functionId, intent.parameters.get? "scope" with
  | "EMP-EXPORT-001", some (.str scope) =>
      if scope ∈ ["employees", "balances", "documents"] then scope else "default"
  | _, _ =>
      if intent.functionId = "EMP-READ-001" ∧ c.isEmployeeAggregateRequest request = true then
        "aggregate"
      else "default"

/-- The state an employee already has when nothing is to be changed. -/
def alreadyInState (intent : Intent) (resolved : Option RosterEntry) : Option AskResponse :=
  if intent.functionId ∈ ["EMP-STATUS-001", "EMP-STATUS-002"] then
    let desired := if intent.functionId = "EMP-STATUS-001" then "inactive" else "active"
    (resolved.filter (·.item.employeeState.value = desired)).map fun entry =>
      { result := {
          title := "Nessuna modifica necessaria"
          description := entry.displayName ++ ", ID " ++ entry.item.employeeId ++
            ", risulta già " ++ desired ++ "." } }
  else none

/-- The year of a dossier: the parameters are `query_plan` and `year`, and no others. -/
def dossierYear (parameters : Dict String Json) : Except Exn Int := do
  ensure (parameters.items.length = 2 ∧ parameters.contains "year" = true)
    (applicationError "employee dossier parameters are invalid")
  match parameters.get? "year" with
  | some (.int year) => do
      ensure (2000 ≤ year ∧ year ≤ 2200) (applicationError "employee dossier year is invalid")
      return year
  | _ => .error (applicationError "employee dossier year is invalid")

/-- `_require_employee`. -/
def Intent.requireEmployee (intent : Intent) : Except Exn String :=
  match intent.employeeId with
  | some employeeId => .ok employeeId
  | none => .error (applicationError "employee_id is required")

/-- The query plan that reads every section of one employee. -/
def Intent.isDossier (intent : Intent) : Bool :=
  match intent.parameters.get? "query_plan" with
  | some (.str plan) => plan == "employee_hr_dossier"
  | _ => false

def perform (intent : Intent) (scope : String) : AskProg T AskResponse :=
  if intent.isDossier then do
    let year ← Prog.ofExcept (dossierYear intent.parameters)
    let employeeId ← Prog.ofExcept intent.requireEmployee
    await (.executeEmployeeHrDossier employeeId year)
  else if intent.actionClass ∈ [some .prepareWrite, some .fileUpload, some .export] then
    await (.prepareWrite intent)
  else await (.dispatchRead intent scope)

/-- The employee of a successful read is the current one. -/
def rememberRead (intent : Intent) (response : AskResponse) : AskProg T Unit :=
  match intent.employeeId with
  | some employeeId =>
      if intent.actionClass = some .read ∧ response.result.success = true then do
        let _ ← await (.store (.rememberCurrentEmployee employeeId))
        return ()
      else return ()
  | none => return ()

/-- The policy decision, and what follows it. -/
def authorizeAndPerform (normalized : String) (intent : Intent) (resolved : Option RosterEntry) :
    AskProg T AskResponse := do
  let scope := operationScope c intent normalized
  let decision : PolicyDecision ← await (.evaluate intent.functionId intent.employeeId scope)
  if decision.allowed = false then do
    await (.audit "policy.denied" (some intent.functionId) .denied intent.employeeId)
    .throw ⟨.applicationPolicyDenied, decision.reason⟩
  else
    match alreadyInState intent resolved with
    | some response => return response
    | none => do
        let response ← perform intent scope
        rememberRead intent response
        await (.audit "request.completed" (some intent.functionId)
          (if response.result.actionId.any (· ≠ "") then .pending else .success) intent.employeeId)
        return response

/-- The employee found for a request takes away the operation that waits for one. -/
def proceedWith (normalized : String) (intent : Intent) :
    RosterEntry ⊕ AskResponse → AskProg T AskResponse
  | .inr response => return response
  | .inl entry => do
      let _ ← await (.store .clearPendingTarget)
      authorizeAndPerform c normalized { intent with employeeId := some entry.item.employeeId }
        (some entry)

/-- What is done about an intent, once its target is supplied. -/
def settle (normalized : String) (intent : Intent) (targetQuery : Option String)
    (resolved : Option RosterEntry) (visible : List String)
    (candidates : Option (ConversationContext T)) : AskProg T AskResponse :=
  if intent.requiresClarification then clarify intent
  else if intent.functionId = "UNSUPPORTED" then
    return refusal "Funzione non disponibile"
      "La richiesta non corrisponde a una funzione autorizzata."
  else
    match targetQuery with
    | some query =>
        if intent.functionId ∈ visible then do
          let found ← resolveEmployeeTarget c query intent
            (candidates.map (·.candidateEmployeeIds))
          proceedWith c normalized intent found
        else authorizeAndPerform c normalized intent resolved
    | none => authorizeAndPerform c normalized intent resolved

/-- The intent of a message that selects a remembered candidate. -/
def selectedIntent (normalized : String) :
    Option (String × ConversationContext T) → Except Exn (Option Intent)
  | none => .ok none
  | some (employeeId, remembered) =>
      (contextFollowupIntent c.unicode normalized employeeId remembered).map some

/-- A routed request, until its response. -/
def pursue (normalized : String) (visible : List String)
    (candidates : Option (ConversationContext T)) : Routed → AskProg T AskResponse
  | .inr response => return response
  | .inl routed => do
      let supplied ← supplyTarget normalized routed.intent routed.targetQuery
      settle c normalized supplied.1 routed.targetQuery supplied.2 visible candidates

/-- `ask`. -/
def askAssistant (request : String) : AskProg T AskResponse := do
  let normalized ← Prog.ofExcept (normalizeText c.unicode request 2000 true)
  let selection : StoreAnswer T ← await (.store (.selection normalized))
  let candidates : StoreAnswer T ← await (.store (.candidateContext normalized))
  let pending : StoreAnswer T ← await (.store (.pendingTarget normalized))
  let contextIntent ← Prog.ofExcept (selectedIntent c normalized selection.choice)
  if c.isCapabilitiesRequest normalized then await .capabilities
  else do
    let visible : List String ← await .visibleFunctionIds
    let routed ← route c normalized contextIntent pending.target visible
    pursue c normalized visible candidates.candidates routed

/-- `select_employee`. -/
def selectEmployee (contextId employeeId : String) : AskProg T AskResponse := do
  let activated : StoreAnswer T ← await (.store (.activateSelectionContext contextId employeeId))
  if activated.isTrue then
    askAssistant c ("employee id " ++ employeeId)
  else
    return (refusal "Selezione non disponibile" (
      "Il menu è scaduto, appartiene a un'altra richiesta oppure il dipendente " ++
        "non è tra le opzioni autorizzate. Ripeti la domanda."))

end Coordinator

end BhDic.Application
