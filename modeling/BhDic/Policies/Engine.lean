import BhDic.Policies.Catalog
import BhDic.Policies.FeatureFlags

/-!
# The policy engine

`evaluate` asks every gate in turn and denies at the first that is closed. What it allows is exactly
what passes all of them, so it can be read as one conjunction; that it grows with roles, capabilities
and flags, and that what is shown to the model could be allowed, follow from that reading.
-/

namespace BhDic.Policies

open BhDic.Python

inductive PolicyPhase
  | exposure | prepare | execute
  deriving DecidableEq, Repr

inductive DecisionCode
  | allowed | unknownFunction | invalidContext | guildDenied | channelDenied | tenantDenied
  | roleDenied | featureDisabled | systemDegraded | targetRequired | targetAmbiguous
  | capabilityUnavailable | notExposedToModel
  deriving DecidableEq, Repr

structure PolicyDecision where
  allowed : Bool
  code : DecisionCode
  functionId : String
  reason : String
  deriving DecidableEq, Repr

def PolicyDecision.allow (functionId : String) : PolicyDecision :=
  ⟨true, .allowed, functionId, "policy checks passed"⟩

def PolicyDecision.deny (functionId : String) (code : DecisionCode) (reason : String) :
    PolicyDecision :=
  ⟨false, code, functionId, reason⟩

structure PolicyContext where
  functionId : String
  userId : String
  guildId : String
  channelId : String
  allowedGuildIds : List String
  allowedChannelIds : List String
  roles : List String
  flags : FeatureFlags
  currentTenantId : Option String
  allowedTenantIds : List String
  phase : PolicyPhase := .prepare
  operationScope : String := "default"
  entitlements : List String := []
  targetEmployeeId : Option String := none
  targetAmbiguous : Bool := false
  sensitiveProfile : Bool := false
  systemState : String := "HEALTHY"
  systemCapabilities : List String := []

/-! ## The gates -/

/-- Why a request is denied. -/
abbrev Denial := DecisionCode × String

/-- Deny unless `c` holds. -/
def gate (c : Prop) [Decidable c] (code : DecisionCode) (reason : String) : Except Denial Unit :=
  if c then .ok () else .error (code, reason)

@[simp] theorem gate_eq_ok {c : Prop} [Decidable c] {code : DecisionCode} {reason : String}
    {u : Unit} : gate c code reason = .ok u ↔ c := by
  by_cases hc : c <;> simp [gate, hc]

/-- `if not value`, of an optional text. -/
def isGiven (value : Option String) : Bool := value.any (· != "")

/-- The flags of a function, in order. -/
def checkFlags (flags : FeatureFlags) : List String → Except Denial Unit
  | [] => .ok ()
  | flag :: rest => do
      gate (flags flag = true) .featureDisabled ("required feature flag is disabled: " ++ flag)
      checkFlags flags rest

theorem checkFlags_eq_ok {flags : FeatureFlags} {required : List String} {u : Unit} :
    checkFlags flags required = .ok u ↔ ∀ flag ∈ required, flags flag = true := by
  induction required with
  | nil => simp [checkFlags]
  | cons flag rest ih => simp [checkFlags, ih]

/-- The roles of the actor, and whether the rule of the operation's scope takes them. -/
def checkRoles (spec : FunctionSpec) (c : PolicyContext) : Except Denial Unit :=
  match normalizeRoles c.roles with
  | .error _ => .error (.roleDenied, "unknown logical role")
  | .ok roles =>
      match spec.roleRule c.operationScope with
      | none => .error (.roleDenied, "logical role policy denied")
      | some rule =>
          gate (rule.matches roles c.entitlements = true) .roleDenied "logical role policy denied"

/-- What is asked about the target, outside of exposure. -/
def checkTarget (spec : FunctionSpec) (c : PolicyContext) : Except Denial Unit :=
  if c.phase = .exposure then .ok ()
  else do
    gate (spec.requiresTarget = true → isGiven c.targetEmployeeId = true) .targetRequired
      "employee ID is required"
    gate (¬(spec.isWrite = true ∧ c.targetAmbiguous = true)) .targetAmbiguous
      "ambiguous write target"

/-- The checks on a known function, in the order of `evaluate`. -/
def checkGates (spec : FunctionSpec) (c : PolicyContext) : Except Denial Unit := do
  gate (c.userId ≠ "" ∧ c.guildId ≠ "" ∧ c.channelId ≠ "") .invalidContext "missing actor context"
  gate (c.guildId ∈ c.allowedGuildIds) .guildDenied "guild is not allowlisted"
  gate (c.channelId ∈ c.allowedChannelIds) .channelDenied "channel is not allowlisted"
  gate (∃ tenant ∈ c.currentTenantId, tenant ∈ c.allowedTenantIds) .tenantDenied
    "tenant is not verified"
  gate (c.systemState = "HEALTHY") .systemDegraded "system is not healthy"
  gate (¬(c.phase = .exposure ∧ spec.exposeToModel = false)) .notExposedToModel
    "critical function is not exposed to the model"
  checkFlags c.flags spec.featureFlags
  gate (c.sensitiveProfile = true → c.flags "ENABLE_SENSITIVE_PROFILE_UPDATE" = true)
    .featureDisabled "sensitive profile updates are disabled"
  gate (∀ capability ∈ spec.requiredCapabilities, capability ∈ c.systemCapabilities)
    .capabilityUnavailable "required system capability is unavailable"
  checkRoles spec c
  checkTarget spec c

/-- `evaluate`. -/
def evaluate (c : PolicyContext) : PolicyDecision :=
  match getFunctionSpec c.functionId with
  | none => .deny c.functionId .unknownFunction "unknown Function ID"
  | some spec =>
      match checkGates spec c with
      | .ok () => .allow c.functionId
      | .error (code, reason) => .deny c.functionId code reason

/-- What `visible_function_ids` evaluates for one function. -/
def PolicyContext.candidate (c : PolicyContext) (functionId : String) : PolicyContext :=
  { c with
    functionId := functionId
    phase := .exposure
    operationScope := "exposure"
    targetEmployeeId := none
    targetAmbiguous := false
    sensitiveProfile := false }

/-- `visible_function_ids`. -/
def visibleFunctionIds (c : PolicyContext) : List String :=
  (functionCatalog.map (·.functionId)).filter fun functionId =>
    (evaluate (c.candidate functionId)).allowed

/-! ## What is allowed -/

/-- All that has to hold of a request for a function. -/
structure FunctionSpec.Permits (spec : FunctionSpec) (c : PolicyContext) : Prop where
  actor : c.userId ≠ "" ∧ c.guildId ≠ "" ∧ c.channelId ≠ ""
  guild : c.guildId ∈ c.allowedGuildIds
  channel : c.channelId ∈ c.allowedChannelIds
  tenant : ∃ tenant, c.currentTenantId = some tenant ∧ tenant ∈ c.allowedTenantIds
  healthy : c.systemState = "HEALTHY"
  exposed : c.phase = .exposure → spec.exposeToModel = true
  flags : ∀ flag ∈ spec.featureFlags, c.flags flag = true
  sensitive : c.sensitiveProfile = true → c.flags "ENABLE_SENSITIVE_PROFILE_UPDATE" = true
  capabilities : ∀ capability ∈ spec.requiredCapabilities, capability ∈ c.systemCapabilities
  roles : ∃ known rule, normalizeRoles c.roles = .ok known ∧
    spec.roleRule c.operationScope = some rule ∧ rule.matches known c.entitlements = true
  target : c.phase ≠ .exposure → spec.requiresTarget = true →
    ∃ target, c.targetEmployeeId = some target ∧ target ≠ ""
  unambiguous : c.phase ≠ .exposure → spec.isWrite = true → c.targetAmbiguous = false

theorem checkRoles_eq_ok {spec : FunctionSpec} {c : PolicyContext} {u : Unit} :
    checkRoles spec c = .ok u ↔ ∃ known rule, normalizeRoles c.roles = .ok known ∧
      spec.roleRule c.operationScope = some rule ∧ rule.matches known c.entitlements = true := by
  unfold checkRoles
  cases hroles : normalizeRoles c.roles with
  | error e => simp
  | ok known =>
      cases hrule : spec.roleRule c.operationScope with
      | none => simp
      | some rule => simp

theorem isGiven_eq_true {value : Option String} :
    isGiven value = true ↔ ∃ text, value = some text ∧ text ≠ "" := by
  cases value <;> simp [isGiven]

theorem checkTarget_eq_ok {spec : FunctionSpec} {c : PolicyContext} {u : Unit} :
    checkTarget spec c = .ok u ↔ (c.phase ≠ .exposure → spec.requiresTarget = true →
        ∃ target, c.targetEmployeeId = some target ∧ target ≠ "") ∧
      (c.phase ≠ .exposure → spec.isWrite = true → c.targetAmbiguous = false) := by
  unfold checkTarget
  by_cases hphase : c.phase = .exposure
  · simp [hphase]
  · simp [hphase, isGiven_eq_true]

theorem checkGates_eq_ok {spec : FunctionSpec} {c : PolicyContext} {u : Unit} :
    checkGates spec c = .ok u ↔ spec.Permits c := by
  simp only [checkGates, bind_eq_ok, gate_eq_ok, checkFlags_eq_ok, checkRoles_eq_ok,
    checkTarget_eq_ok, exists_const]
  constructor
  · rintro ⟨hactor, hguild, hchannel, ⟨tenant, htenant, hallowed⟩, hhealthy, hexposed, hflags,
      hsensitive, hcapabilities, hroles, htarget, hunambiguous⟩
    refine ⟨hactor, hguild, hchannel, ⟨tenant, htenant, hallowed⟩, hhealthy, ?_, hflags,
      hsensitive, hcapabilities, hroles, htarget, hunambiguous⟩
    intro hphase
    cases hspec : spec.exposeToModel with
    | true => rfl
    | false => exact absurd ⟨hphase, hspec⟩ hexposed
  · intro h
    obtain ⟨tenant, htenant, hallowed⟩ := h.tenant
    refine ⟨h.actor, h.guild, h.channel, ⟨tenant, htenant, hallowed⟩, h.healthy, ?_, h.flags,
      h.sensitive, h.capabilities, h.roles, h.target, h.unambiguous⟩
    rintro ⟨hphase, hhidden⟩
    rw [h.exposed hphase] at hhidden
    cases hhidden

/-- **What is allowed is a known function that permits the request.** -/
theorem evaluate_allowed {c : PolicyContext} :
    (evaluate c).allowed = true ↔
      ∃ spec, getFunctionSpec c.functionId = some spec ∧ spec.Permits c := by
  unfold evaluate
  cases hspec : getFunctionSpec c.functionId with
  | none => simp [PolicyDecision.deny]
  | some spec =>
      cases hgates : checkGates spec c with
      | ok u =>
          have hpermits := checkGates_eq_ok.mp hgates
          simp [hgates, PolicyDecision.allow, hpermits]
      | error denial =>
          have hnot : ¬spec.Permits c := by
            intro hpermits
            rw [(checkGates_eq_ok (u := ())).mpr hpermits] at hgates
            cases hgates
          simp [hgates, PolicyDecision.deny, hnot]

/-! ## More of anything never denies -/

/-- `c'` is `c` with more known roles, more capabilities and more flags. -/
structure PolicyContext.Grows (c c' : PolicyContext) : Prop where
  same : c' = { c with
    roles := c'.roles, systemCapabilities := c'.systemCapabilities, flags := c'.flags }
  roles : c.roles ⊆ c'.roles
  known : ∀ role ∈ c'.roles, role ∈ c.roles ∨ ∃ known, LogicalRole.ofValue role = .ok known
  capabilities : c.systemCapabilities ⊆ c'.systemCapabilities
  flags : ∀ flag, c.flags flag = true → c'.flags flag = true

theorem normalizeRoles_mono {values values' : List String} {roles : Finset LogicalRole}
    (hsub : values ⊆ values')
    (hknown : ∀ value ∈ values', value ∈ values ∨ ∃ role, LogicalRole.ofValue value = .ok role)
    (h : normalizeRoles values = .ok roles) :
    ∃ roles', normalizeRoles values' = .ok roles' ∧ roles ⊆ roles' := by
  obtain ⟨parsed, hparsed, rfl⟩ := normalizeRoles_eq_ok.mp h
  have hall := mapM_eq_ok.mp hparsed
  have hparse : ∀ value ∈ values', ∃ role, LogicalRole.ofValue value = .ok role := by
    intro value hvalue
    rcases hknown value hvalue with hold | hnew
    · obtain ⟨i, hi, rfl⟩ := List.getElem_of_mem hold
      exact ⟨_, hall.get hi (hall.length_eq ▸ hi)⟩
    · exact hnew
  have hsome : Nonempty LogicalRole := ⟨.readOnly⟩
  choose! parse hparse using hparse
  have hall' : List.Forall₂ (fun value role => LogicalRole.ofValue value = .ok role) values'
      (values'.map parse) := by
    rw [List.forall₂_map_right_iff, List.forall₂_same]
    exact hparse
  refine ⟨_, normalizeRoles_eq_ok.mpr ⟨_, mapM_eq_ok.mpr hall', rfl⟩, impliedClosure_mono ?_⟩
  intro role hrole
  rw [List.mem_toFinset] at hrole ⊢
  obtain ⟨i, hi, rfl⟩ := List.getElem_of_mem hrole
  have hvalue := hall.get (hall.length_eq ▸ hi) hi
  have hmem : values.get ⟨i, hall.length_eq ▸ hi⟩ ∈ values' := hsub (List.get_mem _ _)
  rw [hparse _ hmem, Except.ok.injEq] at hvalue
  exact List.mem_map.mpr ⟨_, hmem, hvalue⟩

theorem FunctionSpec.Permits.grows {spec : FunctionSpec} {c c' : PolicyContext}
    (hgrows : c.Grows c') (h : spec.Permits c) : spec.Permits c' := by
  obtain ⟨known, rule, hknown, hrule, hmatches⟩ := h.roles
  obtain ⟨known', hknown', hsub⟩ := normalizeRoles_mono hgrows.roles hgrows.known hknown
  rw [hgrows.same]
  exact {
    h with
    flags := fun flag hflag => hgrows.flags flag (h.flags flag hflag)
    sensitive := fun hprofile => hgrows.flags _ (h.sensitive hprofile)
    capabilities := fun capability hmem => hgrows.capabilities (h.capabilities capability hmem)
    roles := ⟨known', rule, hknown', hrule, RoleRule.matches_mono hsub hmatches⟩ }

theorem evaluate_grows {c c' : PolicyContext} (hgrows : c.Grows c')
    (h : (evaluate c).allowed = true) : (evaluate c').allowed = true := by
  obtain ⟨spec, hspec, hpermits⟩ := evaluate_allowed.mp h
  have hfunction : c'.functionId = c.functionId := by rw [hgrows.same]
  exact evaluate_allowed.mpr ⟨spec, hfunction ▸ hspec, hpermits.grows hgrows⟩

/-! ## Overrides never enable -/

/-- A flag of the function is off in the configuration. -/
def RuntimeFeatureFlags.Withholds (f : RuntimeFeatureFlags) (functionId : String) : Prop :=
  ∃ spec, getFunctionSpec functionId = some spec ∧
    ∃ flag ∈ spec.featureFlags, f.baseline.get? flag ≠ some true

theorem RuntimeFeatureFlags.Withholds.denied {f : RuntimeFeatureFlags} {c : PolicyContext}
    (h : f.Withholds c.functionId) (overrides : List RuntimeFeatureFlags.Override) :
    (evaluate { c with
      flags := (overrides.foldl RuntimeFeatureFlags.override f).enabled }).allowed = false := by
  obtain ⟨spec, hspec, flag, hflag, hoff⟩ := h
  rw [Bool.eq_false_iff]
  intro hallowed
  obtain ⟨spec', hspec', hpermits⟩ := evaluate_allowed.mp hallowed
  cases hspec.symm.trans hspec'
  have hon : (overrides.foldl RuntimeFeatureFlags.override f).enabled flag = true :=
    hpermits.flags flag hflag
  rw [RuntimeFeatureFlags.enabled_foldl_of_baseline hoff overrides] at hon
  cases hon

/-! ## What is shown could be allowed -/

/-- The rule the function has for exposure alone, if any, asks for one of some roles, each of which
is enough in a scope of its own. -/
def FunctionSpec.ExposesNoMore (spec : FunctionSpec) : Prop :=
  ∀ rule, spec.roleRules.find? (fun r => r.scope == "exposure") = some rule →
    rule.rule.allOf = [] ∧ rule.rule.anyOf ≠ [] ∧ ∀ role ∈ rule.rule.anyOf,
      ∃ other ∈ spec.roleRules, other.scope ≠ "exposure" ∧
        spec.roleRule other.scope = some other.rule ∧ other.rule.allOf = [] ∧
        role ∈ other.rule.anyOf ∧ other.rule.entitlements = []

instance (spec : FunctionSpec) : Decidable spec.ExposesNoMore :=
  match h : spec.roleRules.find? (fun r => r.scope == "exposure") with
  | none => isTrue fun rule hrule => by rw [h] at hrule; cases hrule
  | some rule =>
      decidable_of_iff (rule.rule.allOf = [] ∧ rule.rule.anyOf ≠ [] ∧ ∀ role ∈ rule.rule.anyOf,
          ∃ other ∈ spec.roleRules, other.scope ≠ "exposure" ∧
            spec.roleRule other.scope = some other.rule ∧ other.rule.allOf = [] ∧
            role ∈ other.rule.anyOf ∧ other.rule.entitlements = []) (by
        rw [FunctionSpec.ExposesNoMore, h]
        simp only [Option.some.injEq, forall_eq'])

theorem functionCatalog_exposesNoMore : ∀ spec ∈ functionCatalog, spec.ExposesNoMore := by
  decide

/-- A rule that takes the actor for exposure has a counterpart in a scope of operations. -/
theorem FunctionSpec.ExposesNoMore.scope {spec : FunctionSpec} (h : spec.ExposesNoMore)
    {rule : RoleRule} (hrule : spec.roleRule "exposure" = some rule) {roles : Finset LogicalRole}
    {entitlements : List String} (hmatches : rule.matches roles entitlements = true) :
    ∃ scope rule', scope ≠ "exposure" ∧ spec.roleRule scope = some rule' ∧
      rule'.matches roles entitlements = true := by
  cases hfind : spec.roleRules.find? (fun r => r.scope == "exposure") with
  | none =>
      refine ⟨"default", rule, by decide, ?_, hmatches⟩
      rw [FunctionSpec.roleRule, hfind] at hrule
      obtain ⟨first, hfirst, rfl⟩ := Option.map_eq_some_iff.mp hrule
      rw [FunctionSpec.roleRule, hfirst]
  | some first =>
      rw [FunctionSpec.roleRule, hfind, Option.some.injEq] at hrule
      subst hrule
      obtain ⟨hall, hany, hroles⟩ := h first hfind
      simp only [RoleRule.matches, hall, Bool.and_eq_true, Bool.or_eq_true,
        List.isEmpty_iff, hany, false_or, List.any_eq_true, decide_eq_true_eq] at hmatches
      obtain ⟨⟨-, role, hrole, hin⟩, -⟩ := hmatches
      obtain ⟨other, -, hscope, hother, hall', hmem, hentitled⟩ := hroles role hrole
      refine ⟨other.scope, other.rule, hscope, hother, ?_⟩
      simp only [RoleRule.matches, hall', hentitled, List.all_nil, Bool.true_and, Bool.and_true,
        Bool.or_eq_true, List.any_eq_true, decide_eq_true_eq]
      exact .inr ⟨role, hmem, hin⟩

/-- A request of the same actor for a function, about a target, in a scope of operations. -/
def PolicyContext.request (c : PolicyContext) (functionId scope target : String)
    (phase : PolicyPhase) : PolicyContext :=
  { c with
    functionId := functionId
    phase := phase
    operationScope := scope
    targetEmployeeId := some target
    targetAmbiguous := false
    sensitiveProfile := false }

theorem visible_allowed {c : PolicyContext} {functionId : String}
    (h : functionId ∈ visibleFunctionIds c) :
    ∃ scope target, scope ≠ "exposure" ∧
      ∀ phase, (evaluate (c.request functionId scope target phase)).allowed = true := by
  have hallowed := (List.mem_filter.mp h).2
  obtain ⟨spec, hspec, hpermits⟩ := evaluate_allowed.mp hallowed
  obtain ⟨known, rule, hknown, hrule, hmatches⟩ := hpermits.roles
  have hcatalog := functionCatalog_exposesNoMore spec (getFunctionSpec_some hspec).1
  obtain ⟨scope, rule', hscope, hrule', hmatches'⟩ := hcatalog.scope hrule hmatches
  refine ⟨scope, "1", hscope, fun phase => evaluate_allowed.mpr ⟨spec, hspec, ?_⟩⟩
  exact {
    actor := hpermits.actor
    guild := hpermits.guild
    channel := hpermits.channel
    tenant := hpermits.tenant
    healthy := hpermits.healthy
    exposed := fun _ => hpermits.exposed rfl
    flags := hpermits.flags
    sensitive := fun hprofile => by cases hprofile
    capabilities := hpermits.capabilities
    roles := ⟨known, rule', hknown, hrule', hmatches'⟩
    target := fun _ _ => ⟨"1", rfl, by decide⟩
    unambiguous := fun _ _ => rfl }

/-! ## The engine as a whole -/

/-- **The policy is fail-closed and monotone.** Only what passes every gate is allowed; more roles,
capabilities or flags never turn that into a denial; overrides never enable what the configuration
withholds; and what is shown to the model is allowed in some scope of operations. -/
theorem policy_failClosed_monotone :
    (∀ c, (evaluate c).allowed = true ↔
      ∃ spec, getFunctionSpec c.functionId = some spec ∧ spec.Permits c) ∧
    (∀ c c' : PolicyContext, c.Grows c' → (evaluate c).allowed = true →
      (evaluate c').allowed = true) ∧
    (∀ (f : RuntimeFeatureFlags) (c : PolicyContext)
      (overrides : List RuntimeFeatureFlags.Override), f.Withholds c.functionId →
      (evaluate { c with
        flags := (overrides.foldl RuntimeFeatureFlags.override f).enabled }).allowed = false) ∧
    ∀ (c : PolicyContext) (functionId : String), functionId ∈ visibleFunctionIds c →
      ∃ scope target, scope ≠ "exposure" ∧
        ∀ phase, (evaluate (c.request functionId scope target phase)).allowed = true := by
  refine ⟨?_, ?_, ?_, ?_⟩
  · intro c
    exact evaluate_allowed
  · intro c c' hgrows hallowed
    exact evaluate_grows hgrows hallowed
  · intro f c overrides hwithheld
    exact hwithheld.denied overrides
  · intro c functionId hvisible
    exact visible_allowed hvisible

/-- An actor who reads, in an allowed channel of an allowed guild. -/
def sampleContext : PolicyContext where
  functionId := "EMP-READ-001"
  userId := "1"
  guildId := "2"
  channelId := "3"
  allowedGuildIds := ["2"]
  allowedChannelIds := ["3"]
  roles := ["HR_READ"]
  flags := fun flag => flag == "ENABLE_READ_ACTIONS"
  currentTenantId := some "4"
  allowedTenantIds := ["4"]

theorem policy_failClosed_monotone_reader :
    (evaluate { sampleContext with roles := ["HR_READ", "APPROVER"] }).allowed = true ∧
    (evaluate { sampleContext with
      flags := ([RuntimeFeatureFlags.Override.set "ENABLE_READ_ACTIONS" true].foldl
        RuntimeFeatureFlags.override ⟨.empty, .empty⟩).enabled }).allowed = false ∧
    ∃ scope target, scope ≠ "exposure" ∧ ∀ phase,
      (evaluate (sampleContext.request "EMP-READ-001" scope target phase)).allowed = true := by
  obtain ⟨_, hgrows, hwithheld, hvisible⟩ := policy_failClosed_monotone
  refine ⟨?_, ?_, ?_⟩
  · refine hgrows sampleContext _ ⟨rfl, ?_, ?_, fun _ h => h, fun _ h => h⟩ (by decide)
    · simp [sampleContext]
    · intro role hrole
      simp only [List.mem_cons, List.not_mem_nil, or_false] at hrole
      rcases hrole with rfl | rfl
      · exact .inr ⟨.hrRead, rfl⟩
      · exact .inr ⟨.approver, rfl⟩
  · refine hwithheld _ sampleContext _ ⟨_, rfl, "ENABLE_READ_ACTIONS", ?_, ?_⟩
    · exact List.mem_singleton_self _
    · decide
  · apply hvisible
    refine List.mem_filter.mpr ⟨?_, ?_⟩
    · decide
    · decide

end BhDic.Policies
