import BhDic.Application.EmployeeResolution
import BhDic.Application.OwnOperation
import BhDic.Application.SensitiveProfile
import BhDic.Application.WorkforcePlan

/-!
# What a denied request tells of the roster

Two runs of `ask`, over two rosters and with all else the same, of an actor whom the policy does not
allow what is asked for. They are the same where the roster is not looked at before the decision; but
the name of a target is looked up before it, and so is a name that the request may only mention.
-/

namespace BhDic.Application

open BhDic.Dic BhDic.Library BhDic.Policies BhDic.Python BhDic.Query BhDic.Security
open BhDic.Library.Prog (OnlyCalls onlyCalls_ofExcept)

/-! ## The environment -/

/-- What is read of DIC, and what is done there once a request is allowed. -/
structure DicReadings where
  listEmployees : EmployeeListQuery → Except Exn EmployeeListResult
  describe : EmployeeListItem → WorkforceEmployee
  describe_item : ∀ item, (describe item).toEmployeeListItem = item
  getContracts : (employeeId : String) → Except Exn (List ContractRecord)
  getPayrollMetadata : (employeeId : String) → (year : Int) → Except Exn (List PayrollMetadata)
  executeEmployeeHrDossier : (employeeId : String) → (year : Int) → Except Exn AskResponse
  prepareWrite : Intent → Except Exn AskResponse
  dispatchRead : Intent → (scope : String) → Except Exn AskResponse

/-- The coordinator and all that it calls, of one actor: only what is read of DIC depends on the
roster. The provider and the adapter are deterministic, and the audit log takes every event. -/
structure Deployment where
  interpreter : Interpreter
  directory : Directory
  scope : ApplicationScope
  flags : FeatureFlags
  actor : Requester
  contextId : String
  capabilities : Except Exn AskResponse
  routeByProvider : (request : String) → (visible : List String) → Except Exn (Intent ⊕ AskResponse)
  planOf : (request : String) → HRQueryPlan
  dic : List RosterEntry → DicReadings
  collectionText : Json → String
  today : Date
  now : String
  timestamp : String
  responseAttachmentMaxBytes : Nat

namespace Deployment

variable {T : Type} (d : Deployment)

/-- `policy.evaluate`, in the actor's context. -/
def decision (functionId : String) (target : Option String) (operationScope : String) :
    PolicyDecision :=
  evaluate (d.scope.context d.flags d.actor functionId .prepare target operationScope)

/-- What plans are executed with. -/
def plans (roster : List RosterEntry) : WorkforceEnvironment where
  unicode := d.interpreter.unicode
  collectionText := d.collectionText
  evaluate functionId target := d.decision functionId target "default"
  audit _ _ _ := .ok ()
  listEmployees := (d.dic roster).listEmployees
  describe := (d.dic roster).describe
  describe_item := (d.dic roster).describe_item
  getContracts := (d.dic roster).getContracts
  getPayrollMetadata := (d.dic roster).getPayrollMetadata
  today := d.today
  now := d.now
  timestamp := d.timestamp
  responseAttachmentMaxBytes := d.responseAttachmentMaxBytes

/-- What the calls of `ask` are answered, but for those on the context store. -/
def answers (roster : List RosterEntry) : (o : AskOp) → (askEffect T).Ans o
  | .store _ => .ok .nothing
  | .newContextId => .ok d.contextId
  | .visibleFunctionIds => .ok (visibleFunctionIds
      (d.scope.context d.flags d.actor "EMP-READ-001" .exposure none "aggregate"))
  | .capabilities => d.capabilities
  | .executeQueryPlan request =>
      executeQueryPlan (d.plans roster).toPlanEnvironment (d.planOf request)
  | .routeByProvider request visible => d.routeByProvider request visible
  | .inferUniqueEmployeeMention request =>
      .ok (inferUniqueEmployeeMention d.interpreter.unicode d.directory request roster)
  | .employeeCandidates query allowed =>
      .ok (employeeCandidates d.interpreter.unicode d.directory query (available allowed roster)
        allowed.isNone)
  | .evaluate functionId target operationScope => .ok (d.decision functionId target operationScope)
  | .executeEmployeeHrDossier employeeId year =>
      (d.dic roster).executeEmployeeHrDossier employeeId year
  | .prepareWrite intent => (d.dic roster).prepareWrite intent
  | .dispatchRead intent operationScope => (d.dic roster).dispatchRead intent operationScope
  | .audit _ _ _ _ => .ok ()

variable [LinearOrder T] (c : StoreSettings T) (key : ConversationKey) (clock : Nat → T)

/-- The environment over a roster. The state is the number of calls made, and the store. -/
def env (roster : List RosterEntry) (o : AskOp) (state : Nat × ConversationContextStore T) :
    (askEffect T).Ans o × Nat × ConversationContextStore T :=
  clocked c key clock (d.answers roster) o state

/-- What `ask` answers over a roster, and the conversation contexts it leaves. -/
def asked (s : ConversationContextStore T) (request : String) (roster : List RosterEntry) :
    Except Exn AskResponse × ConversationContextStore T :=
  let result := Prog.run (d.env c key clock roster) (askAssistant d.interpreter request) (0, s)
  (result.1, result.2.2)

end Deployment

/-! ## What is requested -/

/-- What a message comes to, before the roster is looked at: a response, a plan, or a function and
the name of its target. -/
inductive Front (T : Type)
  | response (response : AskResponse)
  | plan (normalized : String)
  | intent (normalized : String) (visible : List String)
      (candidates : Option (ConversationContext T)) (routed : LocalIntent)

section Fronts

variable {T : Type} (i : Interpreter)

/-- What the local parsers or the provider recognised. -/
def frontOf (normalized : String) (visible : List String)
    (candidates : Option (ConversationContext T)) : Routed → Front T
  | .inl routed => .intent normalized visible candidates routed
  | .inr response => .response response

/-- `route`, up to a plan. -/
def routeFront (normalized : String) (contextIntent : Option Intent)
    (pending : Option (PendingEmployeeTarget T)) (visible : List String)
    (candidates : Option (ConversationContext T)) : AskProg T (Front T) :=
  match contextIntent, pending with
  | none, none =>
      match i.buildLocalHrQueryPlan normalized with
      | none => do
          let routed ← localOrProvider normalized visible (i.parseLocalOperationalIntent normalized)
          return frontOf normalized visible candidates routed
      | some plan =>
          if plan.manySteps then return .plan normalized
          else do
            let routed ← localOrProvider normalized visible plan.legacyIntent
            return frontOf normalized visible candidates routed
  | some intent, _ => return .intent normalized visible candidates ⟨intent, none⟩
  | none, some target => do
      let intent ← Prog.ofExcept (directIntent target.functionId none target.parameters)
      return .intent normalized visible candidates ⟨intent, some normalized⟩

/-- The beginning of `ask`. -/
def front (request : String) : AskProg T (Front T) := do
  let normalized ← Prog.ofExcept (normalizeText i.unicode request 2000 true)
  let selection : StoreAnswer T ← await (.store (.selection normalized))
  let candidates : StoreAnswer T ← await (.store (.candidateContext normalized))
  let pending : StoreAnswer T ← await (.store (.pendingTarget normalized))
  let contextIntent ← Prog.ofExcept (selectedIntent i normalized selection.choice)
  if i.isCapabilitiesRequest normalized then do
    let response : AskResponse ← await .capabilities
    return .response response
  else do
    let visible : List String ← await .visibleFunctionIds
    routeFront i normalized contextIntent pending.target visible candidates.candidates

/-- The rest of `ask`. -/
def finish : Front T → AskProg T AskResponse
  | .response response => return response
  | .plan normalized => await (.executeQueryPlan normalized)
  | .intent normalized visible candidates routed =>
      pursue i normalized visible candidates (.inl routed)

theorem bind_frontOf (normalized : String) (visible : List String)
    (candidates : Option (ConversationContext T)) (p : AskProg T Routed) :
    p.bind (pursue i normalized visible candidates) =
      (p.bind fun routed => .pure (frontOf normalized visible candidates routed)).bind
        (finish i) := by
  apply Prog.bind_eq_bind
  intro routed
  cases routed <;> rfl

theorem bind_routeFront (normalized : String) (contextIntent : Option Intent)
    (pending : Option (PendingEmployeeTarget T)) (visible : List String)
    (candidates : Option (ConversationContext T)) :
    (route i normalized contextIntent pending visible).bind (pursue i normalized visible candidates) =
      (routeFront i normalized contextIntent pending visible candidates).bind (finish i) := by
  unfold routeFront route
  cases contextIntent with
  | some intent => rfl
  | none =>
      cases pending with
      | some target =>
          show ((Prog.ofExcept _).bind _).bind _ = ((Prog.ofExcept _).bind _).bind _
          rw [Prog.bind_assoc, Prog.bind_assoc]
          rfl
      | none =>
          cases i.buildLocalHrQueryPlan normalized with
          | none => exact bind_frontOf i normalized visible candidates _
          | some plan =>
              dsimp only
              split
              · exact (Prog.bind_assoc (await _) _ _).trans (Prog.bind_pure _)
              · exact bind_frontOf i normalized visible candidates _

/-- `ask` is its beginning and its rest. -/
theorem askAssistant_front (request : String) :
    askAssistant (T := T) i request = (front i request).bind (finish i) := by
  refine Prog.bind_eq_bind fun normalized => ?_
  refine Prog.bind_eq_bind fun selection => ?_
  refine Prog.bind_eq_bind fun candidates => ?_
  refine Prog.bind_eq_bind fun pending => ?_
  refine Prog.bind_eq_bind fun contextIntent => ?_
  by_cases hcapabilities : i.isCapabilitiesRequest normalized = true
  · rw [if_pos hcapabilities]
    refine (if_pos hcapabilities).trans ?_
    exact ((Prog.bind_assoc (await _) _ _).trans (Prog.bind_pure _)).symm
  · rw [if_neg hcapabilities]
    refine (if_neg hcapabilities).trans (Prog.bind_eq_bind fun visible => ?_)
    exact bind_routeFront i normalized contextIntent _ visible _

end Fronts

/-! ## Denial -/

namespace Deployment

section Denial

variable {T : Type} (d : Deployment)

/-- The policy allows the function for no target, in the scope of the request. -/
def DeniesIntent (normalized : String) (intent : Intent) : Prop :=
  ∀ target, (d.decision intent.functionId target
    (operationScope d.interpreter intent normalized)).allowed = false

/-- What is requested is not allowed. Of a plan it is enough that one function is not that is about
no single target. -/
def Denies : Front T → Prop
  | .response _ => True
  | .plan normalized => ∃ functionId ∈ (d.planOf normalized).steps.map (·.functionId), ∃ spec,
      getFunctionSpec functionId = some spec ∧ spec.requiresTarget = false ∧
        (d.decision functionId none "default").allowed = false
  | .intent normalized _ _ routed => d.DeniesIntent normalized routed.intent

/-- The name of a target is looked up among employees that may be meant. -/
structure Searches (visible : List String) (candidates : Option (ConversationContext T))
    (intent : Intent) (targetQuery : Option String) : Prop where
  clear : intent.requiresClarification = false
  supported : intent.functionId ≠ "UNSUPPORTED"
  visible : intent.functionId ∈ visible
  named : ∃ query, targetQuery = some query ∧
    ∃ normalized, normalizeText d.interpreter.unicode query 128 false = .ok normalized
  candidates : candidates.map (·.candidateEmployeeIds) ≠ some []

variable [LinearOrder T] (c : StoreSettings T) (key : ConversationKey) (clock : Nat → T)

/-- A target is missing, no employee is remembered, and a word of the request that counts can be that
of a name. -/
structure Mentions (state : Nat × ConversationContextStore T) (normalized : String)
    (routed : LocalIntent) : Prop where
  targeted : routed.intent.requiresTarget = true
  missing : routed.intent.employeeId = none ∧ routed.targetQuery = none
  forgotten : (Prog.run (d.env c key clock []) (rememberedEmployee routed.intent) state).1 = .ok none
  named : ∃ entry, sharesToken d.interpreter.unicode d.directory normalized entry = true

/-- The roster is looked at before the decision, and can make a difference. -/
def Consults (state : Nat × ConversationContextStore T) : Front T → Prop
  | .intent normalized visible candidates routed =>
      d.Mentions c key clock state normalized routed ∨
        d.Searches visible candidates routed.intent routed.targetQuery
  | _ => False

end Denial

end Deployment

/-! ## Calls that the roster does not answer -/

def AskOp.Blind : AskOp → Prop
  | .store _ | .newContextId | .visibleFunctionIds | .capabilities | .routeByProvider _ _
  | .evaluate _ _ _ | .audit _ _ _ _ => True
  | _ => False

section Blind

variable {T : Type}

theorem blind_await {o : AskOp} (h : o.Blind) :
    OnlyCalls AskOp.Blind (await o : AskProg T (o.Returns T)) :=
  ⟨h, fun x => onlyCalls_ofExcept _ x⟩

theorem blind_bind {o : AskOp} {α : Type} {f : o.Returns T → AskProg T α} (h : o.Blind)
    (hf : ∀ x, OnlyCalls AskOp.Blind (f x)) : OnlyCalls AskOp.Blind ((await o).bind f) :=
  (blind_await h).bind hf

theorem blind_localOrProvider (normalized : String) (visible : List String)
    (found : Option LocalIntent) :
    OnlyCalls AskOp.Blind (localOrProvider (T := T) normalized visible found) := by
  cases found with
  | some found => trivial
  | none => exact blind_bind (by trivial) fun routed => trivial

theorem blind_routeFront (i : Interpreter) (normalized : String) (contextIntent : Option Intent)
    (pending : Option (PendingEmployeeTarget T)) (visible : List String)
    (candidates : Option (ConversationContext T)) :
    OnlyCalls AskOp.Blind
      (routeFront i normalized contextIntent pending visible candidates) := by
  unfold routeFront
  cases contextIntent with
  | some intent => trivial
  | none =>
      cases pending with
      | some target => exact (onlyCalls_ofExcept _ _).bind fun intent => trivial
      | none =>
          cases i.buildLocalHrQueryPlan normalized with
          | none => exact (blind_localOrProvider _ _ _).bind fun routed => trivial
          | some plan =>
              dsimp only
              split
              · trivial
              · exact (blind_localOrProvider _ _ _).bind fun routed => trivial

theorem blind_front (i : Interpreter) (request : String) :
    OnlyCalls AskOp.Blind (front (T := T) i request) := by
  refine (onlyCalls_ofExcept _ _).bind fun normalized => ?_
  refine blind_bind (by trivial) fun selection => ?_
  refine blind_bind (by trivial) fun candidates => ?_
  refine blind_bind (by trivial) fun pending => ?_
  refine (onlyCalls_ofExcept _ _).bind fun contextIntent => ?_
  split
  · exact blind_bind (by trivial) fun response => trivial
  · exact blind_bind (by trivial) fun visible => blind_routeFront i _ _ _ _ _

theorem blind_rememberedEmployee (intent : Intent) :
    OnlyCalls AskOp.Blind (rememberedEmployee (T := T) intent) := by
  unfold rememberedEmployee
  split
  · exact blind_bind (by trivial) fun answer => trivial
  · trivial

theorem blind_clarify (intent : Intent) :
    OnlyCalls AskOp.Blind (clarify (T := T) intent) := by
  refine OnlyCalls.bind ?_ fun _ => blind_bind (by trivial) fun _ => trivial
  unfold rememberTarget
  split
  · exact blind_bind (by trivial) fun _ => trivial
  · trivial

end Blind

namespace Deployment

variable {T : Type} [LinearOrder T] {d : Deployment} {c : StoreSettings T} {key : ConversationKey}
  {clock : Nat → T} {r r' : List RosterEntry} {state : Nat × ConversationContextStore T}

omit [LinearOrder T] in
theorem answers_blind {o : AskOp} (h : o.Blind) :
    d.answers (T := T) r o = d.answers (T := T) r' o := by
  cases o with
  | executeQueryPlan | inferUniqueEmployeeMention | employeeCandidates | executeEmployeeHrDossier
  | prepareWrite | dispatchRead => exact h.elim
  | _ => rfl

theorem clocked_answers {answers : (o : AskOp) → (askEffect T).Ans o} {o : AskOp}
    (h : ¬o.IsStore) (state : Nat × ConversationContextStore T) :
    clocked c key clock answers o state = (answers o, state.1 + 1, state.2) := by
  cases o with
  | store method => exact absurd trivial h
  | _ => rfl

theorem env_answers {o : AskOp} (h : ¬o.IsStore) (state : Nat × ConversationContextStore T) :
    d.env c key clock r o state = (d.answers r o, state.1 + 1, state.2) :=
  clocked_answers h state

theorem env_store (method : StoreMethod) (state : Nat × ConversationContextStore T) :
    d.env c key clock r (.store method) state =
      ((state.2.step c (clock state.1) key method).1, state.1 + 1,
        (state.2.step c (clock state.1) key method).2) :=
  clocked_store method state.1

theorem env_blind {o : AskOp} (h : o.Blind) (state : Nat × ConversationContextStore T) :
    d.env c key clock r o state = d.env c key clock r' o state := by
  by_cases hstore : o.IsStore
  · cases o with
    | store method => rw [env_store, env_store]
    | _ => exact hstore.elim
  · rw [env_answers hstore, env_answers hstore, answers_blind h]

/-- Programs that look at no roster run alike over all of them. -/
theorem run_blind {α : Type} {p : AskProg T α} (h : OnlyCalls AskOp.Blind p)
    (state : Nat × ConversationContextStore T) :
    Prog.run (d.env c key clock r) p state = Prog.run (d.env c key clock r') p state :=
  h.run_eq (fun _ ho state => env_blind ho state) state

/-! ## Once the target is supplied -/

def denied (d : Deployment) (normalized : String) (intent : Intent) : Exn :=
  ⟨.applicationPolicyDenied, (d.decision intent.functionId intent.employeeId
    (operationScope d.interpreter intent normalized)).reason⟩

/-- A run goes on from the answer to a call. -/
theorem run_awaited {α : Type} (o : AskOp) (k : o.Returns T → AskProg T α)
    (state : Nat × ConversationContextStore T) :
    Prog.run (d.env c key clock r) ((await o).bind k) state =
      Prog.run (d.env c key clock r) ((Prog.ofExcept (d.env c key clock r o state).1).bind k)
        (d.env c key clock r o state).2 := by
  show Prog.run _ (Prog.call (E := askEffect T) o fun answer => (Prog.ofExcept answer).bind k) state =
    _
  rw [Prog.run_call]

/-- A denied request ends with the denial. -/
theorem run_authorizeAndPerform {normalized : String} {intent : Intent}
    (h : d.DeniesIntent normalized intent) (resolved : Option RosterEntry) :
    Prog.run (d.env c key clock r) (authorizeAndPerform d.interpreter normalized intent resolved)
        state =
      (.error (d.denied normalized intent), state.1 + 2, state.2) := by
  have hdecided : d.env c key clock r (.evaluate intent.functionId intent.employeeId
      (operationScope d.interpreter intent normalized)) state =
        (.ok (d.decision intent.functionId intent.employeeId
          (operationScope d.interpreter intent normalized)), state.1 + 1, state.2) :=
    env_answers (by exact fun h => h) state
  have haudited : d.env c key clock r (.audit "policy.denied" (some intent.functionId) .denied
      intent.employeeId) (state.1 + 1, state.2) = (.ok (), state.1 + 2, state.2) :=
    env_answers (by exact fun h => h) _
  refine (run_awaited _ _ _).trans ?_
  rw [hdecided]
  show Prog.run _ (if (d.decision intent.functionId intent.employeeId
    (operationScope d.interpreter intent normalized)).allowed = false then _ else _) _ = _
  rw [if_pos (h intent.employeeId)]
  refine (run_awaited _ _ _).trans ?_
  rw [haudited]
  rfl

/-- The search for a target, once its name is read. -/
theorem run_search {normalized query name : String} {intent : Intent}
    (hname : normalizeText d.interpreter.unicode query 128 false = .ok name)
    (allowed : Option (List String)) :
    Prog.run (d.env c key clock r)
        ((resolveEmployeeTarget d.interpreter query intent allowed).bind
          (proceedWith d.interpreter normalized intent)) state =
      Prog.run (d.env c key clock r)
        ((concludeSearch intent allowed.isSome
          (employeeCandidates d.interpreter.unicode d.directory name (available allowed r)
            allowed.isNone)).bind (proceedWith d.interpreter normalized intent))
        (state.1 + 1, state.2) := by
  unfold resolveEmployeeTarget
  rw [hname]
  rfl

theorem candidates_nil (query : String) (allowFuzzy : Bool) :
    employeeCandidates d.interpreter.unicode d.directory query [] allowFuzzy = ([], false) := by
  unfold employeeCandidates
  cases allowFuzzy <;> simp [suggestions, scored]

theorem available_nil (allowed : Option (List String)) : available allowed [] = [] := rfl

theorem available_none_allowed (roster : List RosterEntry) : available (some []) roster = [] := by
  simp [available]

/-- Where no name is looked up, a denied request ends alike over all rosters. -/
theorem run_settle {normalized : String} {visible : List String}
    {candidates : Option (ConversationContext T)} {intent : Intent} {targetQuery : Option String}
    (hdenied : d.DeniesIntent normalized intent)
    (hsearch : ¬d.Searches visible candidates intent targetQuery) (resolved : Option RosterEntry) :
    Prog.run (d.env c key clock r)
        (settle d.interpreter normalized intent targetQuery resolved visible candidates) state =
      Prog.run (d.env c key clock r')
        (settle d.interpreter normalized intent targetQuery resolved visible candidates) state := by
  unfold settle
  by_cases hclear : intent.requiresClarification = true
  · rw [if_pos hclear]
    exact run_blind (blind_clarify intent) state
  rw [if_neg hclear]
  by_cases hsupported : intent.functionId = "UNSUPPORTED"
  · rw [if_pos hsupported]
    exact run_blind (by trivial) state
  rw [if_neg hsupported]
  cases targetQuery with
  | none =>
      dsimp only
      rw [run_authorizeAndPerform hdenied, run_authorizeAndPerform hdenied]
  | some query =>
      dsimp only
      by_cases hvisible : intent.functionId ∈ visible
      · simp only [if_pos hvisible]
        cases hname : normalizeText d.interpreter.unicode query 128 false with
        | error e =>
            unfold resolveEmployeeTarget
            rw [hname]
            exact run_blind (by trivial) state
        | ok name =>
            have hcandidates : candidates.map (·.candidateEmployeeIds) = some [] := by
              by_contra hcandidates
              exact hsearch ⟨Bool.eq_false_iff.mpr hclear, hsupported, hvisible,
                ⟨query, rfl, name, hname⟩, hcandidates⟩
            rw [hcandidates]
            refine (run_search hname (some [])).trans (Eq.trans ?_ (run_search hname (some [])).symm)
            rw [available_none_allowed, available_none_allowed, candidates_nil]
            exact run_blind (by trivial) _
      · simp only [if_neg hvisible]
        rw [run_authorizeAndPerform hdenied, run_authorizeAndPerform hdenied]

/-! ## The target -/

/-- The intent, with a question for its target. -/
def clarified (intent : Intent) : Intent :=
  if intent.requiresClarification then intent
  else { intent with
    requiresClarification := true
    clarificationQuestion :=
      some "Indica il nome, il cognome oppure l'Employee ID della persona." }

/-- The target is inferred from the roster, or else a clarification is asked for. -/
theorem run_inferTarget (normalized : String) (intent : Intent) :
    Prog.run (d.env c key clock r) (inferTarget normalized intent) state =
      (.ok (match inferUniqueEmployeeMention d.interpreter.unicode d.directory normalized r with
        | some entry => (intent.withTarget entry.item.employeeId, some entry)
        | none => (clarified intent, none)), state.1 + 1, state.2) := by
  show Prog.run _ (match inferUniqueEmployeeMention d.interpreter.unicode d.directory normalized r
    with
    | some entry => return (intent.withTarget entry.item.employeeId, some entry)
    | none =>
        if intent.requiresClarification then return (intent, none)
        else return ({ intent with
          requiresClarification := true
          clarificationQuestion :=
            some "Indica il nome, il cognome oppure l'Employee ID della persona." }, none))
    (state.1 + 1, state.2) = _
  cases inferUniqueEmployeeMention d.interpreter.unicode d.directory normalized r with
  | some entry => rfl
  | none =>
      unfold clarified
      cases intent.requiresClarification <;> rfl

/-- Whom a request mentions shares a word with it. -/
theorem infer_none {normalized : String}
    (h : ∀ entry, sharesToken d.interpreter.unicode d.directory normalized entry = false) :
    inferUniqueEmployeeMention d.interpreter.unicode d.directory normalized r = none := by
  cases hinfer : inferUniqueEmployeeMention d.interpreter.unicode d.directory normalized r with
  | none => rfl
  | some entry =>
      have hshares := (infer_shares hinfer).symm.trans (h entry)
      cases hshares

theorem DeniesIntent.withTarget {normalized : String} {intent : Intent}
    (h : d.DeniesIntent normalized intent) (employeeId : String) :
    d.DeniesIntent normalized (intent.withTarget employeeId) := h

theorem DeniesIntent.clarified {normalized : String} {intent : Intent}
    (h : d.DeniesIntent normalized intent) : d.DeniesIntent normalized (clarified intent) := by
  unfold Deployment.clarified
  split <;> exact h

/-- **A denied request ends alike over all rosters**, where none is looked at to any effect. -/
theorem run_pursue {normalized : String} {visible : List String}
    {candidates : Option (ConversationContext T)} {routed : LocalIntent}
    (hdenied : d.DeniesIntent normalized routed.intent)
    (hmention : ¬d.Mentions c key clock state normalized routed)
    (hsearch : ¬d.Searches visible candidates routed.intent routed.targetQuery) :
    Prog.run (d.env c key clock r)
        (pursue d.interpreter normalized visible candidates (.inl routed)) state =
      Prog.run (d.env c key clock r')
        (pursue d.interpreter normalized visible candidates (.inl routed)) state := by
  show Prog.run _ ((supplyTarget normalized routed.intent routed.targetQuery).bind _) state =
    Prog.run _ ((supplyTarget normalized routed.intent routed.targetQuery).bind _) state
  unfold supplyTarget
  by_cases hmissing : routed.intent.requiresTarget = true ∧ routed.intent.employeeId = none ∧
      routed.targetQuery = none
  · rw [if_pos hmissing]
    have hquery : ∀ intent : Intent, ¬d.Searches visible candidates intent routed.targetQuery := by
      intro intent h
      obtain ⟨query, hquery, -⟩ := h.named
      rw [hmissing.2.2] at hquery
      cases hquery
    have hblind : ∀ roster, Prog.run (d.env c key clock roster) (rememberedEmployee routed.intent)
        state = Prog.run (d.env c key clock r') (rememberedEmployee routed.intent) state :=
      fun roster => run_blind (blind_rememberedEmployee routed.intent) state
    show Prog.run _ (((rememberedEmployee routed.intent).bind _).bind _) state =
      Prog.run _ (((rememberedEmployee routed.intent).bind _).bind _) state
    rw [Prog.bind_assoc, Prog.run_bind, Prog.run_bind, hblind r]
    generalize hremembered : Prog.run (d.env c key clock r') (rememberedEmployee routed.intent)
      state = remembered
    obtain ⟨answer, state'⟩ := remembered
    cases answer with
    | error e => rfl
    | ok found =>
        cases found with
        | some employeeId => exact run_settle (hdenied.withTarget employeeId) (hquery _) none
        | none =>
            -- a name is looked for, and none can be found
            have hnames : ∀ entry,
                sharesToken d.interpreter.unicode d.directory normalized entry = false := by
              intro entry
              apply Bool.eq_false_iff.mpr
              intro hshares
              exact hmention ⟨hmissing.1, hmissing.2, by rw [hblind [], hremembered], entry, hshares⟩
            show Prog.run _ ((inferTarget normalized routed.intent).bind _) state' =
              Prog.run _ ((inferTarget normalized routed.intent).bind _) state'
            rw [Prog.run_bind, Prog.run_bind, run_inferTarget, run_inferTarget, infer_none hnames,
              infer_none hnames]
            exact run_settle hdenied.clarified (hquery _) none
  · rw [if_neg hmissing]
    exact run_settle hdenied hsearch none

/-! ## Where two rosters differ -/

/-- What a clarification ends with is no denial. -/
theorem run_clarify_ne (intent : Intent) (message : String) :
    (Prog.run (d.env c key clock r) (clarify intent) state).1 ≠
      .error ⟨.applicationPolicyDenied, message⟩ := by
  intro hdenied
  have hremember : ∀ e, (Prog.run (d.env c key clock r) (rememberTarget intent) state).1 =
      .error e → e.cls = .valueError := by
    intro e he
    unfold rememberTarget at he
    split at he
    · have hstep : Prog.run (d.env c key clock r)
          ((await (.store (.rememberPendingTarget intent.functionId intent.parameters))).bind
            fun _ => .pure ()) (state.1, state.2) = _ := run_await _ _ _
      replace he := (congrArg Prod.fst hstep).symm.trans he
      cases hanswer : (state.2.step c (clock state.1) key
          (.rememberPendingTarget intent.functionId intent.parameters)).1 with
      | ok answer =>
          rw [hanswer] at he
          cases he
      | error e' =>
          rw [hanswer] at he
          cases he
          exact rememberPendingTarget_error _ _ hanswer
    · cases he
  generalize hrun : Prog.run (d.env c key clock r) (rememberTarget intent) state = ended
    at hremember
  have hclarify := Prog.run_bind (d.env c key clock r) (rememberTarget intent) (fun _ =>
    (await (.audit "intent.clarification"
      (if intent.functionId = "UNSUPPORTED" then none else some intent.functionId) .denied
      intent.employeeId)).bind fun _ => .pure (refusal "Chiarimento necessario"
        ((intent.clarificationQuestion.filter (· ≠ "")).getD "Specifica meglio la richiesta.")))
    state
  rw [hrun] at hclarify
  rw [show Prog.run _ (clarify intent) state = _ from hclarify] at hdenied
  obtain ⟨answer, state'⟩ := ended
  cases answer with
  | ok u => cases hdenied
  | error e =>
      cases hdenied
      cases hremember _ rfl

theorem run_pursue_forgotten {normalized : String} {visible : List String}
    {candidates : Option (ConversationContext T)} {routed : LocalIntent}
    (hmissing : routed.intent.requiresTarget = true ∧ routed.intent.employeeId = none ∧
      routed.targetQuery = none) {state' : Nat × ConversationContextStore T}
    (hforgotten : Prog.run (d.env c key clock r) (rememberedEmployee routed.intent) state =
      (.ok none, state')) :
    Prog.run (d.env c key clock r)
        (pursue d.interpreter normalized visible candidates (.inl routed)) state =
      match inferUniqueEmployeeMention d.interpreter.unicode d.directory normalized r with
      | some entry => Prog.run (d.env c key clock r)
          (settle d.interpreter normalized (routed.intent.withTarget entry.item.employeeId) none
            (some entry) visible candidates) (state'.1 + 1, state'.2)
      | none => Prog.run (d.env c key clock r)
          (settle d.interpreter normalized (clarified routed.intent) none none visible candidates)
          (state'.1 + 1, state'.2) := by
  show Prog.run _ ((supplyTarget normalized routed.intent routed.targetQuery).bind _) state = _
  unfold supplyTarget
  rw [if_pos hmissing]
  show Prog.run _ (((rememberedEmployee routed.intent).bind _).bind _) state = _
  rw [Prog.bind_assoc, Prog.run_bind_ok _ hforgotten]
  show Prog.run _ ((inferTarget normalized routed.intent).bind _) state' = _
  rw [Prog.run_bind, run_inferTarget, hmissing.2.2]
  cases inferUniqueEmployeeMention d.interpreter.unicode d.directory normalized r <;> rfl

/-- A request that mentions somebody is denied over one roster, and asks for its target over the
empty one. -/
theorem mentions_differs {normalized : String} {visible : List String}
    {candidates : Option (ConversationContext T)} {routed : LocalIntent}
    (hdenied : d.DeniesIntent normalized routed.intent)
    (h : d.Mentions c key clock state normalized routed) :
    ∃ r, (Prog.run (d.env c key clock [])
        (pursue d.interpreter normalized visible candidates (.inl routed)) state).1 ≠
      (Prog.run (d.env c key clock r)
        (pursue d.interpreter normalized visible candidates (.inl routed)) state).1 := by
  obtain ⟨entry, hshares⟩ := h.named
  have hmissing := And.intro h.targeted h.missing
  obtain ⟨state', hforgotten⟩ : ∃ state', Prog.run (d.env c key clock [])
      (rememberedEmployee routed.intent) state = (.ok none, state') :=
    ⟨_, Prod.ext h.forgotten rfl⟩
  have hforgotten' : Prog.run (d.env c key clock [entry]) (rememberedEmployee routed.intent) state =
      (.ok none, state') :=
    (run_blind (blind_rememberedEmployee routed.intent) state).trans hforgotten
  refine ⟨[entry], ?_⟩
  rw [run_pursue_forgotten hmissing hforgotten, run_pursue_forgotten hmissing hforgotten',
    infer_nil, infer_single hshares]
  dsimp only
  have hclarified : (clarified routed.intent).requiresClarification = true := by
    unfold clarified
    split
    · assumption
    · rfl
  have hsupported : (routed.intent.withTarget entry.item.employeeId).functionId ≠ "UNSUPPORTED" := by
    intro hunsupported
    have htargeted := h.targeted
    rw [Intent.requiresTarget, show routed.intent.functionId = "UNSUPPORTED" from hunsupported]
      at htargeted
    exact absurd htargeted (by decide)
  have hdecided : settle d.interpreter normalized (routed.intent.withTarget entry.item.employeeId)
      none (some entry) visible candidates = authorizeAndPerform d.interpreter normalized
        (routed.intent.withTarget entry.item.employeeId) (some entry) :=
    (if_neg Bool.false_ne_true).trans (if_neg hsupported)
  have hasked : settle d.interpreter normalized (clarified routed.intent) none none visible
      candidates = clarify (clarified routed.intent) := if_pos hclarified
  rw [hdecided, hasked, run_authorizeAndPerform (hdenied.withTarget entry.item.employeeId)]
  exact run_clarify_ne _ _

/-- A name that is looked up is not found in the empty roster, and the request is denied where it
is found. -/
theorem searches_differs {normalized : String} {visible : List String}
    {candidates : Option (ConversationContext T)} {routed : LocalIntent}
    (hdenied : d.DeniesIntent normalized routed.intent)
    (h : d.Searches visible candidates routed.intent routed.targetQuery) :
    ∃ r, (Prog.run (d.env c key clock [])
        (pursue d.interpreter normalized visible candidates (.inl routed)) state).1 ≠
      (Prog.run (d.env c key clock r)
        (pursue d.interpreter normalized visible candidates (.inl routed)) state).1 := by
  obtain ⟨query, hquery, name, hname⟩ := h.named
  -- an employee that may be meant, and has just the name that is looked up
  obtain ⟨entry, hexact, hallowed⟩ : ∃ entry : RosterEntry, entry.displayName = name ∧
      available (candidates.map (·.candidateEmployeeIds)) [entry] = [entry] := by
    cases candidates with
    | none => exact ⟨member "1" name, rfl, rfl⟩
    | some context =>
        cases hids : context.candidateEmployeeIds with
        | nil => exact absurd (by rw [Option.map_some, hids]) h.candidates
        | cons id ids =>
            refine ⟨member id name, rfl, ?_⟩
            rw [Option.map_some, hids]
            simp [available, member]
  have hfound : ∀ allowFuzzy, employeeCandidates d.interpreter.unicode d.directory name [entry]
      allowFuzzy = ([entry], false) := by
    intro allowFuzzy
    have hfilter : [entry].filter (isExact d.interpreter.unicode name) = [entry] := by
      simp [isExact, hexact]
    rw [employeeCandidates, hfilter, if_pos (List.cons_ne_nil _ _)]
  have hsettle : ∀ r, Prog.run (d.env c key clock r)
      (pursue d.interpreter normalized visible candidates (.inl routed)) state =
        Prog.run (d.env c key clock r)
          ((resolveEmployeeTarget d.interpreter query routed.intent
            (candidates.map (·.candidateEmployeeIds))).bind
              (proceedWith d.interpreter normalized routed.intent)) state := by
    intro r
    have hsupplied : supplyTarget (T := T) normalized routed.intent routed.targetQuery =
        .pure (routed.intent, none) := by
      apply if_neg
      rw [hquery]
      rintro ⟨-, -, hmissing⟩
      cases hmissing
    show Prog.run _ ((supplyTarget normalized routed.intent routed.targetQuery).bind _) state = _
    rw [hsupplied, hquery]
    show Prog.run _ (settle d.interpreter normalized routed.intent (some query) none visible
      candidates) state = _
    unfold settle
    rw [if_neg (Bool.eq_false_iff.mp h.clear), if_neg h.supported]
    simp only [if_pos h.visible]
    rfl
  refine ⟨[entry], ?_⟩
  rw [hsettle, hsettle, run_search hname, run_search hname, available_nil, candidates_nil, hallowed,
    hfound]
  have hcleared : Prog.run (d.env c key clock [entry])
      ((concludeSearch (T := T) routed.intent (candidates.map (·.candidateEmployeeIds)).isSome
        ([entry], false)).bind (proceedWith d.interpreter normalized routed.intent))
      (state.1 + 1, state.2) =
        Prog.run (d.env c key clock [entry])
          (authorizeAndPerform d.interpreter normalized
            { routed.intent with employeeId := some entry.item.employeeId } (some entry))
          (state.1 + 2, (state.2.clearPendingTarget key).2) := rfl
  have hlast : d.DeniesIntent normalized
      { routed.intent with employeeId := some entry.item.employeeId } := hdenied
  rw [hcleared, run_authorizeAndPerform hlast]
  intro hsame
  cases hsame

/-! ## Plans -/

theorem authorizeAll_same (r r' : List RosterEntry) (target : Option String)
    (functionIds : List String) :
    (d.plans r).authorizeAll target functionIds = (d.plans r').authorizeAll target functionIds := by
  induction functionIds with
  | nil => rfl
  | cons functionId rest ih =>
      unfold WorkforceEnvironment.authorizeAll
      rw [ih]
      rfl

theorem authorizePlan_same (r r' : List RosterEntry) (functionIds : List String) :
    authorizePlan (d.plans r).toPlanEnvironment functionIds =
      authorizePlan (d.plans r').toPlanEnvironment functionIds := by
  induction functionIds with
  | nil => rfl
  | cons functionId rest ih =>
      unfold authorizePlan
      rw [ih]
      rfl

theorem authorize_denied {functionId : String} {target : Option String}
    (h : (d.decision functionId target "default").allowed = false) :
    ∃ e, (d.plans r).authorize functionId target = .error e := by
  unfold WorkforceEnvironment.authorize
  rw [show (d.plans r).evaluate functionId target = d.decision functionId target "default" from rfl]
  dsimp only
  rw [if_neg (by rw [h]; exact Bool.false_ne_true)]
  cases directIntent functionId target [] with
  | error e => exact ⟨e, rfl⟩
  | ok denied => exact ⟨_, rfl⟩

section Refused

variable {functionIds : List String} {functionId : String} {spec : FunctionSpec}

/-- A plan whose functions are not all allowed is refused before the roster is read. -/
theorem authorizeAll_denied (hmem : functionId ∈ functionIds)
    (hspec : getFunctionSpec functionId = some spec) (hroster : spec.requiresTarget = false)
    (hdenied : (d.decision functionId none "default").allowed = false) :
    ∃ e, (d.plans r).authorizeAll none functionIds = .error e := by
  induction functionIds with
  | nil => cases hmem
  | cons first rest ih =>
      unfold WorkforceEnvironment.authorizeAll
      cases hfirst : specOf first with
      | error e => exact ⟨e, rfl⟩
      | ok firstSpec =>
          rcases List.mem_cons.mp hmem with rfl | hrest
          · have hsame : firstSpec = spec := by
              rw [specOf, hspec] at hfirst
              exact (Except.ok.inj hfirst).symm
            obtain ⟨e, he⟩ := authorize_denied (r := r) hdenied
            refine ⟨e, ?_⟩
            show (if firstSpec.requiresTarget = false then _ else _) = _
            rw [if_pos (by rw [hsame]; exact hroster), he]
            rfl
          · obtain ⟨e, he⟩ := ih hrest
            show ∃ e, (if firstSpec.requiresTarget = false then _ else _) = _
            split
            · cases (d.plans r).authorize first none with
              | error e' => exact ⟨e', rfl⟩
              | ok u => exact ⟨e, he⟩
            · exact ⟨e, he⟩

theorem authorizePlan_denied (hmem : functionId ∈ functionIds)
    (hspec : getFunctionSpec functionId = some spec) (hroster : spec.requiresTarget = false)
    (hdenied : (d.decision functionId none "default").allowed = false) :
    ∃ e, authorizePlan (d.plans r).toPlanEnvironment functionIds = .error e := by
  induction functionIds with
  | nil => cases hmem
  | cons first rest ih =>
      unfold authorizePlan
      cases hfirst : specOf first with
      | error e => exact ⟨e, rfl⟩
      | ok firstSpec =>
          show ∃ e, (if firstSpec.requiresTarget = true then
              authorizePlan (d.plans r).toPlanEnvironment rest
            else if (d.decision first none "default").allowed = true then
              authorizePlan (d.plans r).toPlanEnvironment rest
            else (do
              let denied ← directIntent first none []
              (d.plans r).toPlanEnvironment.audit "policy.denied" denied.functionId .denied
              .error ⟨.applicationPolicyDenied, (d.decision first none "default").reason⟩)) =
                .error e
          rcases List.mem_cons.mp hmem with rfl | hrest
          · have hsame : firstSpec = spec := by
              rw [specOf, hspec] at hfirst
              exact (Except.ok.inj hfirst).symm
            rw [hsame, hroster, hdenied, if_neg Bool.false_ne_true, if_neg Bool.false_ne_true]
            cases directIntent functionId none [] with
            | error e => exact ⟨e, rfl⟩
            | ok denied => exact ⟨_, rfl⟩
          · obtain ⟨e, he⟩ := ih hrest
            split
            · exact ⟨e, he⟩
            · split
              · exact ⟨e, he⟩
              · cases directIntent first none [] with
                | error e' => exact ⟨e', rfl⟩
                | ok denied => exact ⟨_, rfl⟩

end Refused

theorem workforce_refused {env : WorkforceEnvironment} {plan : HRQueryPlan} {e : Exn}
    (h : env.authorizeAll none (plan.steps.map (·.functionId)).eraseDups = .error e) :
    env.executeWorkforceContractPayrollTable plan = .error e := by
  show (env.authorizeAll none (plan.steps.map (·.functionId)).eraseDups >>= _) = _
  rw [h]
  rfl

theorem comparison_refused {env : PlanEnvironment} {plan : HRQueryPlan} {e : Exn}
    (h : authorizePlan env (plan.steps.map (·.functionId)).eraseDups = .error e) :
    executeComparison env plan = .error e := by
  show (authorizePlan env (plan.steps.map (·.functionId)).eraseDups >>= _) = _
  rw [h]
  rfl

/-- **A plan that is not allowed is refused alike over all rosters.** -/
theorem executeQueryPlan_same {plan : HRQueryPlan}
    (h : ∃ functionId ∈ plan.steps.map (·.functionId), ∃ spec,
      getFunctionSpec functionId = some spec ∧ spec.requiresTarget = false ∧
        (d.decision functionId none "default").allowed = false) :
    executeQueryPlan (d.plans r).toPlanEnvironment plan =
      executeQueryPlan (d.plans r').toPlanEnvironment plan := by
  obtain ⟨functionId, hmem, spec, hspec, hroster, hdenied⟩ := h
  have hstep : functionId ∈ (plan.steps.map (·.functionId)).eraseDups := List.mem_eraseDups.mpr hmem
  unfold executeQueryPlan
  split
  · obtain ⟨e, he⟩ := authorizeAll_denied (r := r) hstep hspec hroster hdenied
    have he' := (authorizeAll_same r' r none _).trans he
    show ((d.plans r).executeWorkforceContractPayrollTable plan >>= _) =
      ((d.plans r').executeWorkforceContractPayrollTable plan >>= _)
    rw [workforce_refused he, workforce_refused he']
  · split
    · rfl
    · obtain ⟨e, he⟩ := authorizePlan_denied (r := r) hstep hspec hroster hdenied
      have he' := (authorizePlan_same r' r _).trans he
      rw [comparison_refused he, comparison_refused he']

theorem run_plan {normalized : String} (h : d.Denies (.plan normalized : Front T)) :
    Prog.run (d.env c key clock r) (finish d.interpreter (.plan normalized)) state =
      Prog.run (d.env c key clock r') (finish d.interpreter (.plan normalized)) state := by
  have hanswer : d.env c key clock r (.executeQueryPlan normalized) state =
      d.env c key clock r' (.executeQueryPlan normalized) state := by
    apply congrArg (·, state.1 + 1, state.2)
    exact executeQueryPlan_same h
  show Prog.run _ (await (.executeQueryPlan normalized)) state =
    Prog.run _ (await (.executeQueryPlan normalized)) state
  refine (Prog.run_call _ _ _ _).trans (Eq.trans ?_ (Prog.run_call _ _ _ _).symm)
  rw [hanswer]
  exact run_blind (onlyCalls_ofExcept _ _) _

/-! ## The whole of `ask` -/

variable (d c key clock) in
/-- What a message comes to, and where, before the roster is looked at. -/
def ComesTo (s : ConversationContextStore T) (request : String) (f : Front T)
    (state : Nat × ConversationContextStore T) : Prop :=
  Prog.run (d.env c key clock []) (front d.interpreter request) (0, s) = (.ok f, state)

theorem run_ask {s : ConversationContextStore T} {request : String} {f : Front T}
    {state : Nat × ConversationContextStore T} (h : d.ComesTo c key clock s request f state)
    (r : List RosterEntry) :
    Prog.run (d.env c key clock r) (askAssistant d.interpreter request) (0, s) =
      Prog.run (d.env c key clock r) (finish d.interpreter f) state := by
  rw [askAssistant_front]
  exact Prog.run_bind_ok _ ((run_blind (blind_front d.interpreter request) (0, s)).trans h)

/-- **What a denied request tells of the roster**: nothing, in the response and in the contexts it
leaves, exactly where no name is looked for before the decision that can be found. -/
theorem denied_tells_nothing_iff {s : ConversationContextStore T} {request : String}
    (hdenied : ∀ f state, d.ComesTo c key clock s request f state → d.Denies f) :
    (∀ r r', d.asked c key clock s request r = d.asked c key clock s request r') ↔
      ∀ f state, d.ComesTo c key clock s request f state → ¬d.Consults c key clock state f := by
  constructor
  · intro hsame f state hcomes hconsults
    have hfinish : ∀ r, (Prog.run (d.env c key clock []) (finish d.interpreter f) state).1 =
        (Prog.run (d.env c key clock r) (finish d.interpreter f) state).1 := by
      intro r
      rw [← run_ask hcomes, ← run_ask hcomes]
      show (d.asked c key clock s request []).1 = (d.asked c key clock s request r).1
      rw [hsame [] r]
    cases f with
    | response response => exact hconsults
    | plan normalized => exact hconsults
    | intent normalized visible candidates routed =>
        have hintent : d.DeniesIntent normalized routed.intent := hdenied _ _ hcomes
        rcases hconsults with hmentions | hsearches
        · obtain ⟨r, hne⟩ := mentions_differs hintent hmentions
          exact hne (hfinish r)
        · obtain ⟨r, hne⟩ := searches_differs hintent hsearches
          exact hne (hfinish r)
  · intro hblind r r'
    have hrun : Prog.run (d.env c key clock r) (askAssistant d.interpreter request) (0, s) =
        Prog.run (d.env c key clock r') (askAssistant d.interpreter request) (0, s) := by
      cases hfront : Prog.run (d.env c key clock []) (front d.interpreter request) (0, s) with
      | mk answer state =>
          cases answer with
          | error e =>
              have hfails : ∀ roster, Prog.run (d.env c key clock roster)
                  (askAssistant d.interpreter request) (0, s) = (.error e, state) := by
                intro roster
                rw [askAssistant_front, Prog.run_bind,
                  (run_blind (blind_front d.interpreter request) (0, s)).trans hfront]
              rw [hfails, hfails]
          | ok f =>
              have hcomes : d.ComesTo c key clock s request f state := hfront
              rw [run_ask hcomes, run_ask hcomes]
              cases f with
              | response response => exact run_blind (by trivial) state
              | plan normalized =>
                  exact run_plan (hdenied _ _ hcomes)
              | intent normalized visible candidates routed =>
                  have hconsults := hblind _ _ hcomes
                  exact run_pursue (hdenied _ _ hcomes) (fun h => hconsults (.inl h))
                    fun h => hconsults (.inr h)
    unfold asked
    rw [hrun]

end Deployment

/-! A reader who may read aggregates only asks for the profile of somebody, and for the list of the
employees. -/

/-- DIC fails on every reading. -/
def noReadings : DicReadings where
  listEmployees _ := .error ⟨.dicNotFoundError, ""⟩
  describe item := {
    item with
    displayName := none
    firstName := none
    lastName := none
    displayNameRedacted := ""
    emailRedacted := none
    taxCodeRedacted := none
    jobTitle := none
    groupName := none
    payrollNumber := none
    contractLabel := none
    contractState := none
    workplace := none
    currentContractValidTo := none }
  describe_item _ := rfl
  getContracts _ := .error ⟨.dicNotFoundError, ""⟩
  getPayrollMetadata _ _ := .error ⟨.dicNotFoundError, ""⟩
  executeEmployeeHrDossier _ _ := .error ⟨.dicNotFoundError, ""⟩
  prepareWrite _ := .error ⟨.dicNotFoundError, ""⟩
  dispatchRead _ _ := .error ⟨.dicNotFoundError, ""⟩

def readerInterpreter : Interpreter where
  unicode := asciiTables
  isCapabilitiesRequest _ := false
  isEmployeeAggregateRequest _ := false
  buildLocalHrQueryPlan _ := none
  parseLocalOperationalIntent request := some {
    intent := {
      functionId := if request = "elenco" then "EMP-READ-001" else "EMP-READ-002"
      actionClass := some .read
      parameters := .empty }
    targetQuery := none }

def readerDeployment : Deployment where
  interpreter := readerInterpreter
  directory := plainDirectory
  scope := ibanScope
  flags _ := true
  actor := ⟨1, 2, 3, ["READ_ONLY"], []⟩
  contextId := menuOne
  capabilities := .ok (refusal "" "")
  routeByProvider _ _ := .ok (.inr (refusal "" ""))
  planOf _ := { intent := "", steps := [] }
  dic _ := noReadings
  collectionText _ := ""
  today := ferragosto
  now := ""
  timestamp := ""
  responseAttachmentMaxBytes := 0

/-- The function of what a message comes to, and whether a target is named for it. -/
def Front.summary {T : Type} : Front T → Option (String × Bool)
  | .intent _ _ _ routed => some (routed.intent.functionId, routed.targetQuery.isSome)
  | _ => none

def readerFront (request : String) : Except Exn (Front Nat) :=
  (Prog.run (readerDeployment.env smallStore channelOne (fun _ => 10) [])
    (front readerInterpreter request) (0, {})).1

set_option maxRecDepth 20000 in
theorem readerFront_list :
    (readerFront "elenco").toOption.bind Front.summary = some ("EMP-READ-001", false) := by
  rfl

set_option maxRecDepth 20000 in
theorem readerFront_profile :
    (readerFront "profilo rossi").toOption.bind Front.summary = some ("EMP-READ-002", false) := by
  rfl

theorem reader_comesTo {request functionId : String} {f : Front Nat}
    {state : Nat × ConversationContextStore Nat}
    (hfront : (readerFront request).toOption.bind Front.summary = some (functionId, false))
    (h : readerDeployment.ComesTo smallStore channelOne (fun _ => 10) {} request f state) :
    ∃ normalized visible candidates routed, f = .intent normalized visible candidates routed ∧
      routed.intent.functionId = functionId ∧ routed.targetQuery = none := by
  have hcomes : readerFront request = .ok f := congrArg Prod.fst h
  rw [hcomes] at hfront
  cases f with
  | response response => cases hfront
  | plan normalized => cases hfront
  | intent normalized visible candidates routed =>
      obtain ⟨hfunction, hquery⟩ := Prod.mk.inj (Option.some.inj hfront)
      exact ⟨_, _, _, routed, rfl, hfunction,
        Option.isNone_iff_eq_none.mp (Option.isSome_eq_false_iff.mp hquery)⟩

theorem reader_denied (normalized : String) (intent : Intent)
    (h : intent.functionId = "EMP-READ-001" ∨ intent.functionId = "EMP-READ-002") :
    readerDeployment.DeniesIntent normalized intent := by
  intro target
  have hscope : operationScope readerInterpreter intent normalized = "default" := by
    unfold operationScope
    rcases h with h | h <;> simp [h, readerInterpreter]
  show (readerDeployment.decision intent.functionId target
    (operationScope readerInterpreter intent normalized)).allowed = false
  rw [hscope]
  rcases h with h | h <;> rw [h] <;> rfl

/-- The list of the employees is refused alike, whoever is employed. -/
theorem denied_tells_nothing_list :
    readerDeployment.asked smallStore channelOne (fun _ => 10) {} "elenco" [] =
      readerDeployment.asked smallStore channelOne (fun _ => 10) {} "elenco"
        [member "71" "Mario Rossi"] := by
  apply (Deployment.denied_tells_nothing_iff ?_).mpr
  · intro f state hcomes hconsults
    obtain ⟨normalized, visible, candidates, routed, rfl, hfunction, hquery⟩ :=
      reader_comesTo readerFront_list hcomes
    rcases hconsults with hmentions | hsearches
    · have htargeted := hmentions.targeted
      rw [Intent.requiresTarget, hfunction] at htargeted
      exact absurd htargeted (by decide)
    · obtain ⟨query, hnamed, -⟩ := hsearches.named
      rw [hquery] at hnamed
      cases hnamed
  · intro f state hcomes
    obtain ⟨normalized, visible, candidates, routed, rfl, hfunction, -⟩ :=
      reader_comesTo readerFront_list hcomes
    exact reader_denied normalized routed.intent (.inl hfunction)

set_option maxRecDepth 20000 in
/-- The profile of somebody is refused, or asked for again, depending on who is employed. -/
theorem denied_profile_tells :
    readerDeployment.asked smallStore channelOne (fun _ => 10) {} "profilo rossi" [] ≠
      readerDeployment.asked smallStore channelOne (fun _ => 10) {} "profilo rossi"
        [member "71" "Mario Rossi"] := by
  intro hsame
  have hasked : (readerDeployment.asked smallStore channelOne (fun _ => 10) {} "profilo rossi"
      []).1.toOption.isSome = true := by rfl
  have hrefused : (readerDeployment.asked smallStore channelOne (fun _ => 10) {} "profilo rossi"
      [member "71" "Mario Rossi"]).1.toOption.isSome = false := by decide +kernel
  rw [hsame, hrefused] at hasked
  cases hasked

end BhDic.Application
