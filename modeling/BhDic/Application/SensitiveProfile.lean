import BhDic.Application.Execution
import BhDic.Application.MaturationGuard
import BhDic.Policies.Engine

/-!
# Sensitive profile updates

The engine denies an update of the profile that it is told to be sensitive, while the flag of such
updates is off. `_context` is where it would be told, when a write is prepared and again when it is
executed, and `_context` leaves the field as it is. No list of sensitive fields is anywhere in the
code, so all that follows is about any such list.
-/

namespace BhDic.Application

open BhDic.Approvals BhDic.Dic BhDic.Library BhDic.Policies BhDic.Python BhDic.Security

/-! ## Authorization -/

/-- What `_context` reads of `ApplicationScope`. -/
structure ApplicationScope where
  allowedGuildIds : List String
  allowedChannelIds : List String
  currentTenantId : Option String
  allowedTenantIds : List String
  capabilities : List String

/-- `_context`. -/
def ApplicationScope.context (scope : ApplicationScope) (flags : FeatureFlags) (actor : Requester)
    (functionId : String) (phase : PolicyPhase) (target : Option String)
    (operationScope : String) : PolicyContext where
  functionId := functionId
  userId := toString actor.userId
  guildId := toString actor.guildId
  channelId := toString actor.channelId
  allowedGuildIds := scope.allowedGuildIds
  allowedChannelIds := scope.allowedChannelIds
  roles := actor.logicalRoles
  flags := flags
  currentTenantId := scope.currentTenantId
  allowedTenantIds := scope.allowedTenantIds
  phase := phase
  operationScope := operationScope
  entitlements := actor.entitlements
  targetEmployeeId := target
  systemCapabilities := scope.capabilities

/-- What is raised unless the engine allows the request. -/
def authorize (context : PolicyContext) : Except Exn Unit :=
  let decision := evaluate context
  ensure (decision.allowed = true) ⟨.applicationPolicyDenied, decision.reason⟩

/-- What `ask` and `prepare_operator_action` make of a write: it is authorized, then prepared. -/
def prepareAuthorized (c : Preparer) (scope : ApplicationScope) (flags : FeatureFlags)
    (actor : Requester) (correlationId : String) (intent : Intent) (operationScope : String)
    (nonce : Bytes) (random : RandomReadings) (r : Readings) : Preparation AskResponse := do
  Prog.ofExcept (authorize
    (scope.context flags actor intent.functionId .prepare intent.employeeId operationScope))
  prepareWrite c actor correlationId intent nonce random r

/-- `requester_actor_resolver`, of a coordinator that has one. -/
abbrev RequesterResolver := Option (PendingAction → Except Exn Requester)

/-- `execution_scope`. -/
def executionScope (functionId : String) (parameters : Dict String Json) : String :=
  if functionId = "EMP-EXPORT-001" then
    match parameters.get? "scope" with
    | none => "default"
    | some value => textOf (some value)
  else "default"

/-- `requester`: whom the resolver finds, or else whoever is stored. -/
def requesterNow (resolver : RequesterResolver) (action : PendingAction) (stored : Requester) :
    Except Exn Requester :=
  match resolver with
  | none => .ok stored
  | some resolve => resolve action

/-- What `_execute_approved` does before it takes the locks. -/
def authorizedParameters (c : Preparer) (scope : ApplicationScope) (flags : FeatureFlags)
    (resolver : RequesterResolver) (action : PendingAction) : Except Exn Parameters := do
  let (parameters, stored) ← recoverParameters c action
  let requester ← requesterNow resolver action stored
  validateRequesterBinding requester action
  authorize (scope.context flags requester action.functionId .execute action.targetEmployeeId
    (executionScope action.functionId parameters))
  return parameters.items

/-! ## Runs -/

/-- What has come of an action, with the flags that were set then. -/
inductive Milestone
  | prepared (flags : FeatureFlags) (action : PendingAction)
  | dispatched (flags : FeatureFlags) (action : PendingAction) (write : WriteOp)

/-- The flags of the configuration, the actions that were stored, and what has come of them. -/
structure Coordination where
  flags : FeatureFlags
  stored : List PendingAction := []
  log : List Milestone := []

/-- What can happen: the coordinator starts over with other flags, a write is asked for, or an
action is executed. -/
inductive WriteTurn
  | configure (flags : FeatureFlags)
  | prepare (actor : Requester) (correlationId : String) (intent : Intent)
      (operationScope : String) (nonce : Bytes) (random : RandomReadings) (r : Readings)
  | execute (coordinator : Coordinator) (resolver : RequesterResolver) (actor : DiscordActor)
      (action : PendingAction) (r : Readings)

/-- One turn. A write that is prepared ends in the insertion of its action; one that is dispatched
is that of an action stored before, whatever has happened to it since. -/
inductive WriteTurn.Leads (c : Preparer) (scope : ApplicationScope) (w : Coordination) :
    WriteTurn → Coordination → Prop
  | configure (flags : FeatureFlags) : WriteTurn.Leads c scope w (.configure flags)
      { w with flags := flags }
  | prepare {actor : Requester} {correlationId : String} {intent : Intent}
      {operationScope : String} {nonce : Bytes} {random : RandomReadings} {r : Readings}
      {answers : List (repositoryEffect.sum readsEffect).Answered} {a : PendingAction} :
      Prog.Calls (prepareAuthorized c scope w.flags actor correlationId intent operationScope nonce
        random r) answers (.inl (.insert a)) →
      WriteTurn.Leads c scope w
        (.prepare actor correlationId intent operationScope nonce random r)
        { w with stored := a :: w.stored, log := .prepared w.flags a :: w.log }
  | execute {coordinator : Coordinator} {resolver : RequesterResolver} {actor : DiscordActor}
      {granted : Grants} {a b : PendingAction} {r : Readings}
      {answers : List executionEffect.Answered} {write : WriteOp} :
      a ∈ w.stored → Relation.ReflTransGen (Transition granted) a b →
      (∀ x, ⟨.inr (.read (.authorizedParameters b)), x⟩ ∈ answers →
        x = authorizedParameters c scope w.flags resolver b) →
      Prog.Calls (executeApproved coordinator actor b r) answers (.inr (.write write)) →
      WriteTurn.Leads c scope w (.execute coordinator resolver actor b r)
        { w with log := .dispatched w.flags b write :: w.log }

/-! ## The gate -/

section Gate

variable (sensitive : List String)

/-- The parameters name a sensitive field. -/
def Touches (parameters : Dict String Json) : Prop :=
  ∃ name ∈ sensitive, (parameters.get? name).isSome = true

instance (parameters : Dict String Json) : Decidable (Touches sensitive parameters) :=
  inferInstanceAs (Decidable (∃ name ∈ sensitive, (parameters.get? name).isSome = true))

def sensitiveFlag : String := "ENABLE_SENSITIVE_PROFILE_UPDATE"

/-- An action is no update of a sensitive field, unless the flag is on. -/
def GatedAction (c : Preparer) (flags : FeatureFlags) (action : PendingAction) : Prop :=
  action.functionId = "EMP-UPDATE-001" → ∀ parameters requester,
    decodePendingPayload c action = .ok (parameters, requester) → Touches sensitive parameters →
      flags sensitiveFlag = true

def Milestone.Gated (c : Preparer) : Milestone → Prop
  | .prepared flags action => GatedAction sensitive c flags action
  | .dispatched flags action _ => GatedAction sensitive c flags action

/-- The engine is not told: the update names a sensitive field and the flag is off, but every other
gate is open. -/
def Untold (context : PolicyContext) (parameters : Dict String Json) : Prop :=
  context.functionId = "EMP-UPDATE-001" ∧ Touches sensitive parameters ∧
    context.flags sensitiveFlag = false ∧
    ∃ spec, getFunctionSpec "EMP-UPDATE-001" = some spec ∧ spec.Permits context

/-- The branch that goes wrong is not taken: no update that the engine is not told of. -/
def WriteTurn.Told (c : Preparer) (scope : ApplicationScope) (flags : FeatureFlags) :
    WriteTurn → Prop
  | .configure _ => True
  | .prepare actor _ intent operationScope _ _ _ =>
      ¬Untold sensitive
        (scope.context flags actor intent.functionId .prepare intent.employeeId operationScope)
        (intent.parameters.erase "motivation")
  | .execute _ resolver _ action _ => ∀ parameters stored requester,
      decodePendingPayload c action = .ok (parameters, stored) →
      requesterNow resolver action stored = .ok requester →
      ¬Untold sensitive
        (scope.context flags requester action.functionId .execute action.targetEmployeeId "default")
        parameters

end Gate

/-! ## One decision -/

section Decision

variable {sensitive : List String} {scope : ApplicationScope} {context : PolicyContext}

theorem authorize_eq_ok {u : Unit} :
    authorize context = .ok u ↔ (evaluate context).allowed = true := ensure_eq_ok

/-- To tell the engine is to ask for one more flag. -/
theorem evaluate_told (hnot : context.sensitiveProfile = false) (told : Bool) :
    (evaluate { context with sensitiveProfile := told }).allowed = true ↔
      (evaluate context).allowed = true ∧ (told = true → context.flags sensitiveFlag = true) := by
  rw [evaluate_allowed, evaluate_allowed]
  constructor
  · rintro ⟨spec, hspec, hpermits⟩
    refine ⟨⟨spec, hspec, ?_⟩, hpermits.sensitive⟩
    exact { hpermits with sensitive := fun h => by rw [hnot] at h; cases h }
  · rintro ⟨⟨spec, hspec, hpermits⟩, htold⟩
    exact ⟨spec, hspec, { hpermits with sensitive := htold }⟩

/-- The engine decides as it would if it were told, exactly where it need not be told. -/
theorem not_untold_iff (hid : context.functionId = "EMP-UPDATE-001")
    (hnot : context.sensitiveProfile = false) (parameters : Dict String Json) :
    (evaluate { context with sensitiveProfile := decide (Touches sensitive parameters) }).allowed =
      (evaluate context).allowed ↔ ¬Untold sensitive context parameters := by
  rw [Bool.eq_iff_iff, evaluate_told hnot, decide_eq_true_eq, and_iff_left_iff_imp, Untold,
    ← hid, ← evaluate_allowed]
  constructor
  · rintro h ⟨-, htouches, hoff, hallowed⟩
    rw [h hallowed htouches] at hoff
    cases hoff
  · intro h hallowed htouches
    apply Bool.of_not_eq_false
    intro hoff
    exact h ⟨rfl, htouches, hoff, hallowed⟩

/-- What is let through is gated, if nothing goes untold. -/
theorem gated_of_allowed {parameters : Dict String Json}
    (hid : context.functionId = "EMP-UPDATE-001") (hallowed : (evaluate context).allowed = true)
    (htold : ¬Untold sensitive context parameters) (htouches : Touches sensitive parameters) :
    context.flags sensitiveFlag = true := by
  apply Bool.of_not_eq_false
  intro hoff
  exact htold ⟨hid, htouches, hoff, hid ▸ evaluate_allowed.mp hallowed⟩

end Decision

/-! ## One turn -/

section Turns

variable {sensitive : List String} {c : Preparer} {scope : ApplicationScope} {flags : FeatureFlags}

/-- The stored parameters name nothing but what the request names. -/
theorem StoredFor.decoded {actor : Requester} {functionId : String} {spec : FunctionSpec}
    {parameters validated p : Dict String Json} {a : PendingAction} {requester : Requester}
    (h : StoredFor c actor functionId validated a)
    (hvalidated : validateWriteParameters c.snapshots.unicode spec parameters = .ok validated)
    (hdecode : decodePendingPayload c a = .ok (p, requester)) (htouches : Touches sensitive p) :
    Touches sensitive (parameters.erase "motivation") := by
  obtain ⟨p', hdecode', hsame⟩ := h.decodes hvalidated
  cases hdecode.symm.trans hdecode'
  obtain ⟨name, hname, hsome⟩ := htouches
  refine ⟨name, hname, ?_⟩
  rw [hsame, Dict.get?_erase] at hsome
  rw [Dict.get?_erase]
  split at hsome
  · cases hsome
  · obtain ⟨out, hout⟩ := Option.isSome_iff_exists.mp hsome
    obtain ⟨value, hvalue, -⟩ := (get?_validateWriteParameters hvalidated).mp hout
    rw [if_neg ‹_›, hvalue]
    rfl

/-- A write that is prepared was authorized before. -/
theorem prepareAuthorized_calls {actor : Requester} {correlationId : String} {intent : Intent}
    {operationScope : String} {nonce : Bytes} {random : RandomReadings} {r : Readings}
    {answers : List (repositoryEffect.sum readsEffect).Answered} {a : PendingAction}
    (h : Prog.Calls (prepareAuthorized c scope flags actor correlationId intent operationScope nonce
      random r) answers (.inl (.insert a))) :
    (evaluate (scope.context flags actor intent.functionId .prepare intent.employeeId
      operationScope)).allowed = true ∧
    ∃ rest, Prog.Calls (prepareWrite c actor correlationId intent nonce random r) rest
      (.inl (.insert a)) := by
  rcases Prog.calls_bind.mp h with h | ⟨_, _, rest, -, hauthorized, h⟩
  · exact (Prog.calls_ofExcept.mp h).elim
  · exact ⟨authorize_eq_ok.mp (Prog.returns_ofExcept.mp hauthorized).2, rest, h⟩

/-- A write that is dispatched was authorized before, for whoever the requester is by then. -/
theorem executeApproved_calls {coordinator : Coordinator} {resolver : RequesterResolver}
    {actor : DiscordActor} {b : PendingAction} {r : Readings}
    {answers : List executionEffect.Answered} {write : WriteOp}
    (hanswers : ∀ x, ⟨.inr (.read (.authorizedParameters b)), x⟩ ∈ answers →
      x = authorizedParameters c scope flags resolver b)
    (h : Prog.Calls (executeApproved coordinator actor b r) answers (.inr (.write write))) :
    ∃ parameters, authorizedParameters c scope flags resolver b = .ok parameters := by
  -- the parameters are asked for before anything else
  rcases h with ⟨-, h⟩ | ⟨x, rest, rfl, h⟩
  · cases h
  · have hx := hanswers x List.mem_cons_self
    cases x with
    | error e => exact h.elim
    | ok parameters => exact ⟨parameters, hx.symm⟩

theorem authorizedParameters_eq_ok {resolver : RequesterResolver} {b : PendingAction}
    {authorized : Parameters}
    (h : authorizedParameters c scope flags resolver b = .ok authorized) :
    ∃ parameters stored requester operationScope,
      decodePendingPayload c b = .ok (parameters, stored) ∧
      requesterNow resolver b stored = .ok requester ∧
      (b.functionId ≠ "EMP-EXPORT-001" → operationScope = "default") ∧
      (evaluate (scope.context flags requester b.functionId .execute b.targetEmployeeId
        operationScope)).allowed = true := by
  obtain ⟨⟨recovered, stored⟩, hrecovered, h⟩ := bind_eq_ok.mp h
  obtain ⟨⟨parameters, stored'⟩, hdecode, hrecovered⟩ := bind_eq_ok.mp hrecovered
  obtain ⟨spec, -, hrecovered⟩ := bind_eq_ok.mp hrecovered
  obtain ⟨validated, -, hrecovered⟩ := bind_eq_ok.mp hrecovered
  cases hrecovered
  obtain ⟨requester, hrequester, h⟩ := bind_eq_ok.mp h
  obtain ⟨_, -, h⟩ := bind_eq_ok.mp h
  obtain ⟨_, hauthorized, -⟩ := bind_eq_ok.mp h
  exact ⟨parameters, _, requester, _, hdecode, hrequester, fun hid => if_neg hid,
    authorize_eq_ok.mp hauthorized⟩

/-- **What one turn adds is gated**, if the turn leaves nothing untold. -/
theorem WriteTurn.Leads.gated {t : WriteTurn} {w w' : Coordination} (h : t.Leads c scope w w')
    (htold : t.Told sensitive c scope w.flags) (hw : ∀ m ∈ w.log, m.Gated sensitive c) :
    ∀ m ∈ w'.log, m.Gated sensitive c := by
  cases h with
  | configure flags => exact hw
  | prepare hcalls =>
      obtain ⟨hallowed, rest, hcalls⟩ := prepareAuthorized_calls hcalls
      obtain ⟨spec, validated, -, hvalidated, hstored⟩ := prepareWrite_calls hcalls
      refine List.forall_mem_cons.mpr ⟨?_, hw⟩
      intro hid parameters requester hdecode htouches
      rw [hstored.functionId] at hid
      exact gated_of_allowed hid hallowed htold (hstored.decoded hvalidated hdecode htouches)
  | execute hmem hlater hanswers hcalls =>
      obtain ⟨authorized, hauthorized⟩ := executeApproved_calls hanswers hcalls
      obtain ⟨parameters, stored, requester, operationScope, hdecode, hrequester, hscope,
        hallowed⟩ := authorizedParameters_eq_ok hauthorized
      refine List.forall_mem_cons.mpr ⟨?_, hw⟩
      intro hid parameters' requester' hdecode' htouches
      cases hdecode.symm.trans hdecode'
      rw [hscope (by rw [hid]; decide)] at hallowed
      exact gated_of_allowed hid hallowed (htold _ _ _ hdecode hrequester) htouches

end Turns

/-! ## Runs -/

/-- The states a coordinator comes to from its start, in turns that leave nothing untold. -/
def ToldRun (sensitive : List String) (c : Preparer) (scope : ApplicationScope)
    (flags : FeatureFlags) : Coordination → Prop :=
  Relation.ReflTransGen
    (fun w w' => ∃ t : WriteTurn, t.Told sensitive c scope w.flags ∧ t.Leads c scope w w')
    ⟨flags, [], []⟩

/-- **Sensitive updates are gated where the engine need not be told**: a decision of the coordinator
is the one that the engine would take if it were told, unless the update names a sensitive field, its
flag is off and every other gate is open; and in every run without such an update, nothing sensitive
is prepared or dispatched while the flag is off. -/
theorem sensitiveUpdates_gated (sensitive : List String) (c : Preparer) (scope : ApplicationScope) :
    (∀ flags actor phase target operationScope parameters,
      let context := scope.context flags actor "EMP-UPDATE-001" phase target operationScope
      (evaluate { context with
        sensitiveProfile := decide (Touches sensitive parameters) }).allowed =
          (evaluate context).allowed ↔ ¬Untold sensitive context parameters) ∧
    ∀ flags w, ToldRun sensitive c scope flags w → ∀ m ∈ w.log, m.Gated sensitive c := by
  refine ⟨?_, ?_⟩
  · intro flags actor phase target operationScope parameters
    exact not_untold_iff rfl rfl parameters
  · intro flags w hrun
    induction hrun with
    | refl => exact fun m hm => nomatch hm
    | tail _ hturn ih =>
        obtain ⟨t, htold, hleads⟩ := hturn
        exact hleads.gated htold ih

/-! An IBAN, updated while the flag of sensitive updates is off, and while it is on. -/

def ibanParameters : Dict String Json := Dict.empty.set "iban" (.str "IT60X0542811101000000123456")

def ibanIntent : Intent where
  functionId := "EMP-UPDATE-001"
  actionClass := some .prepareWrite
  employeeId := some "31"
  parameters := ibanParameters

def hrWriter : Requester := ⟨1, 2, 3, ["HR_WRITE"], []⟩

/-- A cipher, on the one document that is encrypted here. -/
def ibanCipher : PayloadCipher where
  encryptJson nonce payload :=
    if dumps true payload = dumps true (pendingPayload hrWriter ibanParameters) then
      .ok (0 :: nonce)
    else .error ⟨.valueError, "unknown document"⟩
  decryptJson _ := .ok (pendingPayload hrWriter ibanParameters)
  roundTrips := by
    intro nonce payload token h
    split at h
    · exact ⟨_, rfl, dumps_injective.mp ‹_›⟩
    · cases h

def ibanPreparer : Preparer := { exportPreparer with cipher := ibanCipher }

def ibanScope : ApplicationScope := ⟨["2"], ["3"], some "t", ["t"], []⟩

/-- Writes are enabled, and sensitive ones as given. -/
def ibanFlags (sensitive : Bool) : FeatureFlags := fun flag =>
  flag ∈ ["ENABLE_WRITE_ACTIONS", "ENABLE_EMPLOYEE_UPDATE"] || (flag = sensitiveFlag && sensitive)

def ibanTurn : WriteTurn :=
  .prepare hrWriter "c-1" ibanIntent "default" [7] ⟨"a-1", "ABCDEFGH", [0], "0123456789abcdef"⟩
    ⟨true, .ofInstant 0⟩

set_option maxRecDepth 20000 in
theorem ibanTurn_leads (sensitive : Bool) : ∃ a,
    decodePendingPayload ibanPreparer a = .ok (ibanParameters, hrWriter) ∧
      a.functionId = "EMP-UPDATE-001" ∧
      ibanTurn.Leads ibanPreparer ibanScope ⟨ibanFlags sensitive, [], []⟩
        ⟨ibanFlags sensitive, [a], [.prepared (ibanFlags sensitive) a]⟩ := by
  have hallowed : (evaluate (ibanScope.context (ibanFlags sensitive) hrWriter "EMP-UPDATE-001"
      .prepare (some "31") "default")).allowed = true := by
    cases sensitive <;> decide
  -- the state is sampled twice, around the read of the summary, and the action inserted
  obtain ⟨answers, a, hcalls, ha⟩ : ∃ answers a, Prog.Calls (prepareWrite ibanPreparer hrWriter "c-1"
      ibanIntent [7] ⟨"a-1", "ABCDEFGH", [0], "0123456789abcdef"⟩ ⟨true, .ofInstant 0⟩) answers
        (.inl (.insert a)) ∧ decodePendingPayload ibanPreparer a = .ok (ibanParameters, hrWriter) ∧
        a.functionId = "EMP-UPDATE-001" := by
    refine ⟨_, _, .inr ⟨.ok exportDigest, _, rfl, .inr ⟨.ok sampleSummary, _, rfl,
      .inr ⟨.ok exportDigest, _, rfl, .inl ⟨rfl, rfl⟩⟩⟩⟩, rfl, rfl⟩
  have hprepare : Prog.Calls (prepareAuthorized ibanPreparer ibanScope (ibanFlags sensitive) hrWriter
      "c-1" ibanIntent "default" [7] ⟨"a-1", "ABCDEFGH", [0], "0123456789abcdef"⟩
      ⟨true, .ofInstant 0⟩) answers (.inl (.insert a)) := by
    apply Prog.calls_bind.mpr
    refine .inr ⟨(), [], answers, rfl, ?_, hcalls⟩
    exact Prog.returns_ofExcept.mpr ⟨rfl, authorize_eq_ok.mpr hallowed⟩
  exact ⟨a, ha.1, ha.2, .prepare hprepare⟩

/-- With the flag off an IBAN is updated all the same. -/
theorem sensitiveUpdate_ungated : ∃ w, Relation.ReflTransGen
    (fun w w' => ∃ t : WriteTurn, t.Leads ibanPreparer ibanScope w w') ⟨ibanFlags false, [], []⟩ w ∧
      ∃ m ∈ w.log, ¬m.Gated ["iban"] ibanPreparer := by
  obtain ⟨a, hdecode, hid, hleads⟩ := ibanTurn_leads false
  refine ⟨_, .single ⟨_, hleads⟩, _, List.mem_singleton_self _, ?_⟩
  intro hgated
  have htouches : Touches ["iban"] ibanParameters := ⟨"iban", List.mem_singleton_self _, rfl⟩
  exact absurd (hgated hid _ _ hdecode htouches) (by decide)

/-- With the flag on nothing is untold. -/
theorem sensitiveUpdates_gated_iban : ∃ a, (Milestone.prepared (ibanFlags true) a).Gated ["iban"]
    ibanPreparer := by
  obtain ⟨a, -, -, hleads⟩ := ibanTurn_leads true
  refine ⟨a, (sensitiveUpdates_gated ["iban"] ibanPreparer ibanScope).2 (ibanFlags true) _
    (.single ⟨_, ?_, hleads⟩) _ (List.mem_singleton_self _)⟩
  rintro ⟨-, -, hoff, -⟩
  exact absurd hoff (by decide)

end BhDic.Application
