import BhDic.Approvals.Service

/-!
# The life of one pending action

`Transition` is the abstract state machine of an action: one constructor for each thing a call may
do to a record, with the conditions under which it may. `lifecycle` is the discipline the service
keeps towards its repository: it only inserts fresh records, and only replaces a record it has
read by a transition of it.

`body_guarded` connects the two. It is proved method by method, from the source's order of checks,
and is all the later modules know of the methods.
-/

namespace BhDic.Approvals

open BhDic.Library BhDic.Policies BhDic.Python BhDic.Security
open BhDic.Library.Prog

/-! ## Transitions -/

/-- Which approvals were granted: for an action id and its function, by whom and when. -/
abbrev Grants := String → String → ApprovalRecord → Prop

/-- What may happen to the record `a`, when `granted` says which approvals were granted. -/
inductive Transition (granted : Grants) (a : PendingAction) : PendingAction → Prop
  | expire : a.status ∈ activeStatuses → Transition granted a a.expire
  | confirm (now : Instant) : a.status ∈ activeStatuses → now < a.expiresAt →
      a.confirmed = false → Transition granted a (a.confirm now)
  | approve (record : ApprovalRecord) : a.status ∈ activeStatuses →
      record.approvedAt < a.expiresAt → a.confirmed = true → a.approvalsRequired ≠ 0 →
      a.status ≠ .approved → record.approverId ≠ a.requesterId →
      record.approverId ∉ a.approvedBy → granted a.actionId a.functionId record →
      Transition granted a (a.approve record)
  | reject (actorId reason : String) (now : Instant) : a.status ∈ activeStatuses →
      actorId ∉ a.approvedBy → Transition granted a (a.reject actorId reason now)
  | markStale : a.status = .approved → Transition granted a a.markStale
  | begin : a.status = .approved → Transition granted a a.begin
  | succeed (executionResult postconditionResult : String) (postconditionVerified : Bool) :
      a.status = .executing →
      Transition granted a (a.succeed executionResult postconditionResult postconditionVerified)
  | fail (result : String) (outcomeUncertain : Bool) : a.status = .executing →
      Transition granted a (a.fail result outcomeUncertain)
  | reconcile (postconditionMet : Bool) (result : String) :
      a.status = .unknownRequiresReconciliation →
      Transition granted a (a.reconcile postconditionMet result)

/-- A record as `prepare` inserts it. -/
structure Fresh (a : PendingAction) : Prop where
  status : a.status = .pending
  approvals : a.approvals = []
  notConfirmed : a.confirmationConsumedAt = none
  notRejected : a.rejectedBy = none ∧ a.rejectedAt = none

namespace Transition

variable {granted : Grants} {a b : PendingAction}

theorem mono {granted' : Grants} (hmono : ∀ id functionId record, granted id functionId record →
    granted' id functionId record) (h : Transition granted a b) : Transition granted' a b := by
  cases h with
  | expire hs => exact .expire hs
  | confirm now hs hnow hc => exact .confirm now hs hnow hc
  | approve record hs ht hc hr ha hq hn hg => exact .approve record hs ht hc hr ha hq hn (hmono _ _ _ hg)
  | reject actorId reason now hs hn => exact .reject actorId reason now hs hn
  | markStale hs => exact .markStale hs
  | begin hs => exact .begin hs
  | succeed e p v hs => exact .succeed e p v hs
  | fail r u hs => exact .fail r u hs
  | reconcile v r hs => exact .reconcile v r hs

theorem actionId (h : Transition granted a b) : b.actionId = a.actionId := by
  cases h <;> rfl

theorem idempotencyKey (h : Transition granted a b) : b.idempotencyKey = a.idempotencyKey := by
  cases h <;> rfl

theorem version (h : Transition granted a b) : b.version = a.version + 1 := by
  cases h <;> rfl

/-- **No transition leaves a terminal status.** -/
theorem not_terminal (h : Transition granted a b) : a.status ∉ terminalStatuses := by
  intro hterminal
  have hactive : ∀ s ∈ terminalStatuses, s ∉ activeStatuses := by decide
  cases h with
  | expire hs | confirm _ hs | approve _ hs | reject _ _ _ hs => exact hactive _ hterminal hs
  | markStale hs | begin hs | succeed _ _ _ hs | fail _ _ hs | reconcile _ _ hs =>
      rw [hs] at hterminal
      revert hterminal
      decide

/-- An action in an execution status got there by `begin`, or was in one before. -/
theorem execution (h : Transition granted a b) (hb : b.status ∈ executionStatuses) :
    b.status = .executing ∨ a.status ∈ executionStatuses := by
  cases h with
  | begin => exact .inl rfl
  | expire | reject | markStale =>
      simp [PendingAction.expire, PendingAction.reject, PendingAction.markStale,
        executionStatuses] at hb
  | confirm now =>
      simp only [PendingAction.confirm] at hb
      split at hb <;> simp [executionStatuses] at hb
  | approve record =>
      simp only [PendingAction.approve] at hb
      split at hb <;> simp [executionStatuses] at hb
  | succeed _ _ _ hs | fail _ _ hs | reconcile _ _ hs => exact .inr (by rw [hs]; decide)

/-- An action that was once executing stays in the statuses of executions. -/
theorem stays_execution (h : Transition granted a b) (ha : a.status ∈ executionStatuses) :
    b.status ∈ executionStatuses := by
  have hactive : ∀ s ∈ activeStatuses, s ∉ executionStatuses := by decide
  cases h with
  | expire hs | confirm _ hs | approve _ hs | reject _ _ _ hs => exact absurd ha (hactive _ hs)
  | markStale hs | begin hs =>
      rw [hs] at ha
      exact absurd ha (by decide)
  | succeed _ _ v => cases v <;> simp [PendingAction.succeed, executionStatuses]
  | fail _ u => cases u <;> simp [PendingAction.fail, executionStatuses]
  | reconcile v => cases v <;> simp [PendingAction.reconcile, executionStatuses]

/-- The decisions on an action only grow: by one approval, by one rejection, or not at all. -/
theorem decisions (h : Transition granted a b) :
    (b.status ≠ .rejected ∧ b.rejectedBy = a.rejectedBy ∧ b.rejectedAt = a.rejectedAt ∧
      (b.approvals = a.approvals ∨ ∃ record, b.approvals = a.approvals ++ [record] ∧
        record.approverId ∉ a.approvedBy)) ∨
    (b.status = .rejected ∧ b.approvals = a.approvals ∧ ∃ actor now, b.rejectedBy = some actor ∧
      b.rejectedAt = some now ∧ actor ∉ a.approvedBy) := by
  cases h with
  | expire | markStale | begin => exact .inl ⟨nofun, rfl, rfl, .inl rfl⟩
  | reject actorId reason now _ hnew => exact .inr ⟨rfl, rfl, actorId, now, rfl, rfl, hnew⟩
  | confirm now =>
      refine .inl ⟨?_, rfl, rfl, .inl rfl⟩
      simp only [PendingAction.confirm]
      split <;> nofun
  | approve record _ _ _ _ _ _ hnew =>
      refine .inl ⟨?_, rfl, rfl, .inr ⟨record, rfl, hnew⟩⟩
      simp only [PendingAction.approve]
      split <;> nofun
  | succeed _ _ v => exact .inl ⟨by cases v <;> nofun, rfl, rfl, .inl rfl⟩
  | fail _ u => exact .inl ⟨by cases u <;> nofun, rfl, rfl, .inl rfl⟩
  | reconcile v => exact .inl ⟨by cases v <;> nofun, rfl, rfl, .inl rfl⟩

/-- Only `begin` starts an execution. -/
theorem executing (h : Transition granted a b) (hb : b.status = .executing) :
    a.status = .approved ∧ b = a.begin := by
  cases h with
  | begin hs => exact ⟨hs, rfl⟩
  | expire | reject | markStale => cases hb
  | confirm now =>
      simp only [PendingAction.confirm] at hb
      split at hb <;> cases hb
  | approve record =>
      simp only [PendingAction.approve] at hb
      split at hb <;> cases hb
  | succeed _ _ v => cases v <;> cases hb
  | fail _ u => cases u <;> cases hb
  | reconcile v => cases v <;> cases hb

end Transition

/-! ## Executions -/

/-- How far the execution that a call has begun has got. -/
inductive Phase
  /-- Nothing was dispatched yet. -/
  | claimed
  /-- Nothing was dispatched, an outcome was recorded, and nothing will be dispatched. -/
  | closed
  /-- The write was dispatched. -/
  | dispatched
  /-- The write was dispatched, and was found applied. -/
  | applied
  /-- The write was dispatched, and what was reported of it is no evidence. -/
  | unreliable
  deriving DecidableEq

/-- The outcomes that may be recorded in each phase. -/
def Phase.allows : Phase → ActionStatus → Prop
  | .claimed, status | .closed, status | .unreliable, status => status ≠ .reconciledNotApplied
  | .dispatched, _ => False
  | .applied, status => status = .succeeded

/-- An execution that a call has begun: the record it set executing, and how far it got. -/
structure Hold where
  action : PendingAction
  phase : Phase

/-- Once an outcome is recorded, nothing is dispatched any more. -/
def Hold.close (h : Hold) : Hold :=
  match h.phase with
  | .claimed => { h with phase := .closed }
  | _ => h

@[simp] theorem Hold.close_action (h : Hold) : h.close.action = h.action := by
  unfold Hold.close
  split <;> rfl

theorem Hold.close_allows (h : Hold) (status : ActionStatus) :
    h.close.phase.allows status ↔ h.phase.allows status := by
  obtain ⟨action, phase⟩ := h
  cases phase <;> exact Iff.rfl

/-! ## The discipline of the service -/

/-- What a running call knows: the approvals it may grant, whether it may record any outcome it is
told, the records it has read, the idempotency keys it has claimed and for which action, and the
execution it has begun. -/
structure Knowledge where
  grants : Grants
  anyOutcome : Bool := false
  seen : List PendingAction := []
  claims : List (String × String) := []
  hold : Option Hold := none

/-- The call may record this outcome of the action. -/
def Knowledge.MayRecord (k : Knowledge) (actionId : String) (status : ActionStatus) : Prop :=
  k.anyOutcome = true ∨
    ∃ h, k.hold = some h ∧ h.action.actionId = actionId ∧ h.phase.allows status

/-- What is known once a status has been recorded, or might have been. -/
def Knowledge.recorded (k : Knowledge) (status : ActionStatus) : Knowledge :=
  if status ∈ outcomeStatuses then { k with hold := k.hold.map Hold.close } else k

/-- What an answer adds. -/
def Knowledge.learn (k : Knowledge) : (o : RepositoryOp) → Except Exn o.Returns → Knowledge
  | .get _, .ok (some action) => { k with seen := action :: k.seen }
  | .listActions, .ok actions => { k with seen := actions ++ k.seen }
  | .claimIdempotency key actionId, .ok true => { k with claims := (key, actionId) :: k.claims }
  | .replace action _, .ok _ =>
      if action.status = .executing then { k with hold := some ⟨action, .claimed⟩ }
      else k.recorded action.status
  | .replace action _, .error _ => k.recorded action.status
  | _, _ => k

/-- The calls the service makes: it replaces only what it has read, by a transition, sets an
action executing only once it holds the claim on its key, and records an outcome only where it
may. -/
def Knowledge.permits (k : Knowledge) : RepositoryOp → Prop
  | .insert action => Fresh action
  | .get _ => True
  | .replace action expectedVersion => ∃ old ∈ k.seen, expectedVersion = old.version ∧
      Transition k.grants old action ∧
      (action.status = .executing → (old.idempotencyKey, old.actionId) ∈ k.claims) ∧
      (action.status ∈ outcomeStatuses → k.MayRecord action.actionId action.status)
  | .claimIdempotency key actionId =>
      ∃ old ∈ k.seen, key = old.idempotencyKey ∧ actionId = old.actionId
  | .listActions => True

/-- What a repository promises about its answers. -/
def Promised : (o : RepositoryOp) → Except Exn o.Returns → Prop
  | .get actionId, .ok (some action) => action.actionId = actionId
  | _, _ => True

def lifecycle : Discipline repositoryEffect Knowledge where
  permits := Knowledge.permits
  promises := Promised
  learn := Knowledge.learn

/-- No answer adds to the approvals a call may grant. -/
theorem Knowledge.learn_grants (k : Knowledge) (o : RepositoryOp) (answer : Except Exn o.Returns) :
    (k.learn o answer).grants = k.grants := by
  have hrecorded : ∀ status, (k.recorded status).grants = k.grants := by
    intro status
    unfold Knowledge.recorded
    split <;> rfl
  cases o with
  | replace a v =>
      cases answer with
      | error e => exact hrecorded a.status
      | ok u =>
          rw [Knowledge.learn]
          split
          · rfl
          · exact hrecorded a.status
  | insert a => cases answer <;> rfl
  | get id => rcases answer with _ | _ | _ <;> rfl
  | claimIdempotency key id => rcases answer with _ | _ | _ <;> rfl
  | listActions => cases answer <;> rfl

/-! ## The methods keep it -/

section Methods

variable {k : Knowledge} {svc : ApprovalService}

theorem guarded_repository {o : RepositoryOp} {Q : Except Exn o.Returns → Knowledge → Prop} :
    Guarded lifecycle (repository o) Q k ↔
      k.permits o ∧ ∀ answer, Promised o answer → Q answer (k.learn o answer) := by
  rw [repository, guarded_bind, guarded_ask]
  simp only [guarded_ofExcept]
  rfl

theorem guarded_get {actionId : String} {Q : Except Exn PendingAction → Knowledge → Prop}
    (hok : ∀ a, a.actionId = actionId → Q (.ok a) { k with seen := a :: k.seen })
    (herr : ∀ e, Q (.error e) k) : Guarded lifecycle (get actionId) Q k := by
  rw [get, bind_def, guarded_bind, guarded_repository]
  refine ⟨trivial, ?_⟩
  rintro (e | _ | a) hpromised
  · exact herr e
  · exact herr _
  · exact hok a hpromised

/-- Replacing a record that has been read, by a transition that starts no execution. -/
theorem guarded_record {a b : PendingAction}
    {Q : Except Exn PendingAction → Knowledge → Prop} (hseen : a ∈ k.seen)
    (htransition : Transition k.grants a b) (hstatus : b.status ≠ .executing)
    (houtcome : b.status ∈ outcomeStatuses → k.MayRecord b.actionId b.status)
    (hok : Q (.ok b) (k.recorded b.status)) (herr : ∀ e, Q (.error e) (k.recorded b.status)) :
    Guarded lifecycle (replaceWith a b) Q k := by
  rw [replaceWith, bind_def, guarded_bind, guarded_repository]
  refine ⟨⟨a, hseen, rfl, htransition, fun h => absurd h hstatus, houtcome⟩, ?_⟩
  rintro (e | u) -
  · exact herr e
  · show Q (.ok b) (k.learn _ _)
    rw [Knowledge.learn, if_neg hstatus]
    exact hok

/-- The same, where the transition has nothing to do with an execution. -/
theorem guarded_replaceWith {a b : PendingAction}
    {Q : Except Exn PendingAction → Knowledge → Prop} (hseen : a ∈ k.seen)
    (htransition : Transition k.grants a b) (hstatus : b.status ∉ executionStatuses)
    (hok : Q (.ok b) k) (herr : ∀ e, Q (.error e) k) :
    Guarded lifecycle (replaceWith a b) Q k := by
  have hexecuting : b.status ≠ .executing := by
    intro h
    rw [h] at hstatus
    exact hstatus (by decide)
  have houtcome : b.status ∉ outcomeStatuses := by
    have hsub : outcomeStatuses ⊆ executionStatuses := by decide
    exact fun h => hstatus (hsub h)
  have hrecorded : k.recorded b.status = k := if_neg houtcome
  refine guarded_record hseen htransition hexecuting (fun h => absurd h houtcome) ?_ ?_
  · rwa [hrecorded]
  · rwa [hrecorded]

theorem guarded_requireActive {a : PendingAction} {now : Instant}
    {Q : Except Exn PendingAction → Knowledge → Prop} (hseen : a ∈ k.seen)
    (hok : a.status ∈ activeStatuses → now < a.expiresAt → Q (.ok a) k)
    (herr : ∀ e, Q (.error e) k) : Guarded lifecycle (requireActive a now) Q k := by
  rw [requireActive]
  split
  · rename_i hdue
    rw [bind_def, guarded_bind]
    exact guarded_replaceWith hseen (.expire hdue.2)
      (by simp [PendingAction.expire, executionStatuses]) (herr _) herr
  · rename_i hdue
    split
    · exact herr _
    · rename_i hactive
      have hactive : a.status ∈ activeStatuses := not_not.mp hactive
      exact hok hactive (not_le.mp fun h => hdue ⟨h, hactive⟩)

theorem guarded_requireWritesEnabled {r : Readings} {Q : Except Exn Unit → Knowledge → Prop}
    (hok : Q (.ok ()) k) (herr : ∀ e, Q (.error e) k) :
    Guarded lifecycle (requireWritesEnabled r) Q k := by
  rw [requireWritesEnabled, guarded_require]
  exact ⟨fun _ => hok, fun _ => herr _⟩

/-- The request of `prepare` is checked before the store is called, and what is inserted is
fresh. -/
theorem preparedAction_fresh {svc : ApprovalService} {req : PrepareRequest}
    {random : RandomReadings} {r : Readings} {prepared : PreparedAction}
    (h : preparedAction svc req random r = .ok prepared) : Fresh prepared.action := by
  obtain ⟨_, _, _, _, -, -, -, -, haction⟩ := preparedAction_eq_ok h
  rw [haction]
  exact ⟨rfl, rfl, rfl, rfl, rfl⟩

theorem guarded_prepare {req : PrepareRequest} {random : RandomReadings} {r : Readings} :
    Guarded lifecycle (prepare svc req random r) (fun _ _ => True) k := by
  simp only [prepare, bind_def, guarded_bind, guarded_ofExcept]
  refine guarded_requireWritesEnabled ?_ (fun _ => trivial)
  cases hprepared : preparedAction svc req random r with
  | error e => trivial
  | ok prepared =>
      refine guarded_repository.mpr ⟨preparedAction_fresh hprepared, ?_⟩
      rintro (e | u) - <;> trivial

theorem guarded_confirm {actionId requesterId code : String} {text : Option String}
    {r : Readings} :
    Guarded lifecycle (confirm svc actionId requesterId code text r) (fun _ _ => True) k := by
  simp only [confirm, bind_def, guarded_bind, guarded_ofExcept, guarded_require, implies_true,
    and_true]
  refine guarded_requireWritesEnabled ?_ (fun _ => trivial)
  refine guarded_get (fun a _ => ?_) (fun _ => trivial)
  cases r.now with
  | error e => trivial
  | ok now =>
      refine guarded_requireActive List.mem_cons_self (fun hactive hnow => ?_) (fun _ => trivial)
      intro _ hunconfirmed
      have hreplace : Guarded lifecycle (replaceWith a (a.confirm now)) (fun _ _ => True)
          { k with seen := a :: k.seen } := by
        refine guarded_replaceWith List.mem_cons_self (.confirm now hactive hnow hunconfirmed) ?_
          trivial (fun _ => trivial)
        simp only [PendingAction.confirm]
        split <;> simp [executionStatuses]
      split
      · intro _
        split
        · rw [requireTextConfirmation]
          split
          · exact hreplace
          · exact (guarded_require _ _ _ _).mpr ⟨fun _ => hreplace, fun _ => trivial⟩
        · trivial
      · trivial

/-- The functions an approver with these roles may approve. -/
def Eligible (functionId : String) (roles : List String) : Prop :=
  ∃ spec normalized, getFunctionSpec functionId = some spec ∧ spec.isWrite = true ∧
    normalizeRoles roles = .ok normalized ∧ spec.admits normalized = true

theorem requireFunctionSpec_eq_ok {a : PendingAction} {spec : FunctionSpec}
    (h : requireFunctionSpec a = .ok spec) :
    getFunctionSpec a.functionId = some spec ∧ spec.isWrite = true := by
  unfold requireFunctionSpec at h
  split at h
  · rename_i hspec
    split at h
    · cases h
      exact ⟨hspec, by assumption⟩
    · cases h
  · cases h

theorem approverRoles_eq_ok {roles : List String} {normalized : Finset LogicalRole}
    (h : approverRoles roles = .ok normalized) : normalizeRoles roles = .ok normalized := by
  unfold approverRoles at h
  split at h <;> cases h
  assumption

theorem guarded_approve {actionId approverId : String} {roles : List String} {r : Readings}
    (hgrants : ∀ functionId now, r.now = .ok now → Eligible functionId roles →
      k.grants actionId functionId ⟨approverId, now⟩) :
    Guarded lifecycle (approve actionId approverId roles r) (fun _ _ => True) k := by
  simp only [approve, bind_def, guarded_bind, guarded_ofExcept, guarded_require, implies_true,
    and_true]
  refine guarded_requireWritesEnabled ?_ (fun _ => trivial)
  refine guarded_get (fun a hid => ?_) (fun _ => trivial)
  cases hnow : r.now with
  | error e => trivial
  | ok now =>
      refine guarded_requireActive List.mem_cons_self (fun hactive hlt => ?_) (fun _ => trivial)
      intro hconfirmed hrequired hstatus hrequester hrecorded
      split
      · rename_i spec hspec
        obtain ⟨hfound, hwrite⟩ := requireFunctionSpec_eq_ok hspec
        split
        · rename_i normalized hroles
          intro hadmits
          have heligible : Eligible a.functionId roles :=
            ⟨spec, normalized, hfound, hwrite, approverRoles_eq_ok hroles, hadmits⟩
          have hgranted := hgrants a.functionId now hnow heligible
          rw [← hid] at hgranted
          refine guarded_replaceWith List.mem_cons_self (.approve _ hactive hlt hconfirmed hrequired
            hstatus hrequester hrecorded hgranted) ?_ trivial (fun _ => trivial)
          simp only [PendingAction.approve]
          split <;> simp [executionStatuses]
        · trivial
      · trivial

theorem guarded_reject {actionId actorId : String} {roles : List String} {reason : String}
    {r : Readings} :
    Guarded lifecycle (reject svc actionId actorId roles reason r) (fun _ _ => True) k := by
  simp only [reject, bind_def, guarded_bind, guarded_ofExcept, guarded_require, implies_true,
    and_true]
  refine guarded_get (fun a _ => ?_) (fun _ => trivial)
  cases r.now with
  | error e => trivial
  | ok now =>
      refine guarded_requireActive List.mem_cons_self (fun hactive _ => ?_) (fun _ => trivial)
      dsimp only
      split
      · split
        · intro hrecorded _
          split
          · intro _
            exact guarded_replaceWith List.mem_cons_self (.reject actorId _ now hactive hrecorded)
              (by simp [PendingAction.reject, executionStatuses]) trivial (fun _ => trivial)
          · trivial
        · trivial
      · trivial

/-- Claiming the key and setting the action executing leaves the execution with this call. -/
theorem guarded_claimAndBegin {a : PendingAction} (hseen : a ∈ k.seen)
    (happroved : a.status = .approved) :
    Guarded lifecycle (claimAndBegin a)
      (OnOk fun b k' => b = a.begin ∧ k'.hold = some ⟨b, .claimed⟩) k := by
  have hstatus : a.begin.status = .executing := rfl
  have houtcome : a.begin.status ∉ outcomeStatuses := by
    rw [hstatus]
    decide
  simp only [claimAndBegin, bind_def, guarded_bind, guarded_require]
  refine guarded_repository.mpr ⟨⟨a, hseen, rfl, rfl⟩, ?_⟩
  rintro (e | _ | _) -
  · trivial
  · exact ⟨fun h => absurd h Bool.false_ne_true, fun _ => trivial⟩
  · refine ⟨fun _ => ?_, fun h => absurd rfl h⟩
    rw [replaceWith, bind_def, guarded_bind]
    refine guarded_repository.mpr ⟨⟨a, hseen, rfl, .begin happroved, fun _ => List.mem_cons_self,
      fun h => absurd h houtcome⟩, ?_⟩
    rintro (e | u) -
    · trivial
    · exact ⟨rfl, rfl⟩

/-- A successful `begin_execution` has set the action executing, and this call is the one that
has. -/
theorem guarded_beginExecution {actionId fingerprint : String} {r : Readings} :
    Guarded lifecycle (beginExecution actionId fingerprint r)
      (OnOk fun b k' => b.actionId = actionId ∧ k'.hold = some ⟨b, .claimed⟩) k := by
  simp only [beginExecution, bind_def, guarded_bind, guarded_ofExcept, guarded_require]
  refine guarded_requireWritesEnabled ?_ (fun _ => trivial)
  refine guarded_get (fun a hid => ⟨fun _ => ?_, fun _ => trivial⟩) (fun _ => trivial)
  cases r.now with
  | error e => trivial
  | ok now =>
      refine guarded_requireActive List.mem_cons_self (fun hactive _ => ?_) (fun _ => trivial)
      refine ⟨fun happroved => ?_, fun _ => trivial⟩
      split
      · rw [guarded_bind]
        exact guarded_replaceWith List.mem_cons_self (.markStale happroved)
          (by simp [PendingAction.markStale, executionStatuses]) trivial (fun _ => trivial)
      · refine guarded_mono ?_ (guarded_claimAndBegin List.mem_cons_self happroved)
        rintro (e | b) k' hb
        · trivial
        · obtain ⟨rfl, hhold⟩ := hb
          exact ⟨hid, hhold⟩

/-- The call goes on with the execution of the action it has begun. -/
def Knowledge.Holding (k : Knowledge) (actionId : String) : Prop :=
  ∃ h, k.hold = some h ∧ h.action.actionId = actionId

/-- The call still holds what it held and may still record what it might. -/
structure Knowledge.Continues (k k' : Knowledge) : Prop where
  holding : ∀ {id}, k.Holding id → k'.Holding id
  mayRecord : ∀ {id status}, k.MayRecord id status → k'.MayRecord id status

theorem Knowledge.continues_refl (k : Knowledge) : k.Continues k := ⟨id, id⟩

theorem Knowledge.continues_recorded (k : Knowledge) (status : ActionStatus) :
    k.Continues (k.recorded status) := by
  unfold Knowledge.recorded
  split
  · constructor
    · rintro id ⟨h, hsome, hid⟩
      exact ⟨h.close, by simp [hsome], by rw [Hold.close_action, hid]⟩
    · rintro id status' (hany | ⟨h, hsome, hid, hallows⟩)
      · exact .inl hany
      · exact .inr ⟨h.close, by simp [hsome], by rw [Hold.close_action, hid],
          (h.close_allows status').mpr hallows⟩
  · exact k.continues_refl

/-- The three methods that end an execution: each reads the record, checks its status, and records
an outcome that must be allowed. -/
theorem guarded_complete (status : ActionStatus) (update : PendingAction → PendingAction)
    {actionId : String} {e : Exn}
    (htransition : ∀ a, a.status = status → Transition k.grants a (update a))
    (hstatus : ∀ a, (update a).status ≠ .executing)
    (houtcome : ∀ a, (update a).status ∈ outcomeStatuses →
      k.MayRecord actionId (update a).status) :
    Guarded lifecycle
      (get actionId >>= fun a => require (a.status = status) e >>= fun _ => replaceWith a (update a))
      (fun r k' => k.Continues k' ∧
        OnOk (fun b _ => ∃ a, a.actionId = actionId ∧ b = update a) r k') k := by
  simp only [bind_def, guarded_bind, guarded_require]
  -- What is read on the way changes nothing of what is held.
  have hread : ∀ a k', Knowledge.Continues { k with seen := a :: k.seen } k' → k.Continues k' :=
    fun _ _ h => ⟨h.holding, h.mayRecord⟩
  refine guarded_get (fun a hid => ⟨fun ha => ?_, fun _ => ⟨hread a _ (Knowledge.continues_refl _), trivial⟩⟩)
    (fun _ => ⟨k.continues_refl, trivial⟩)
  have hsame : (update a).actionId = actionId := (htransition a ha).actionId.trans hid
  refine guarded_record List.mem_cons_self (htransition a ha) (hstatus a) ?_ ?_ ?_
  · rw [hsame]
    exact houtcome a
  · exact ⟨hread a _ (Knowledge.continues_recorded _ _), a, hid, rfl⟩
  · exact fun _ => ⟨hread a _ (Knowledge.continues_recorded _ _), trivial⟩

theorem guarded_completeSuccess {actionId executionResult postconditionResult : String}
    {postconditionVerified : Bool}
    (hallowed : postconditionVerified = true → k.MayRecord actionId .succeeded) :
    Guarded lifecycle
      (completeSuccess actionId executionResult postconditionResult postconditionVerified)
      (fun _ k' => k.Continues k') k := by
  refine guarded_mono (fun _ _ h => h.1) (guarded_complete .executing
    (·.succeed executionResult postconditionResult postconditionVerified)
    (fun _ => .succeed _ _ _) ?_ ?_)
  · intro a
    cases postconditionVerified <;> nofun
  · intro a
    cases postconditionVerified with
    | false => simp [PendingAction.succeed, outcomeStatuses]
    | true => exact fun _ => hallowed rfl

theorem guarded_completeFailure {actionId result : String} {outcomeUncertain : Bool}
    (hallowed : outcomeUncertain = false → k.MayRecord actionId .failed) :
    Guarded lifecycle (completeFailure actionId result outcomeUncertain)
      (fun r k' => k.Continues k' ∧ OnOk (fun b _ => b.actionId = actionId) r k') k := by
  refine guarded_mono ?_ (guarded_complete .executing (·.fail result outcomeUncertain)
    (fun _ => .fail _ _) ?_ ?_)
  · rintro (e | b) k' ⟨hcontinues, hok⟩
    · exact ⟨hcontinues, trivial⟩
    · obtain ⟨a, hid, rfl⟩ := hok
      exact ⟨hcontinues, hid⟩
  · intro a
    cases outcomeUncertain <;> nofun
  · intro a
    cases outcomeUncertain with
    | false => exact fun _ => hallowed rfl
    | true => simp [PendingAction.fail, outcomeStatuses]

theorem guarded_reconcile {actionId result : String} {postconditionMet : Bool}
    (hallowed : k.MayRecord actionId (if postconditionMet then .succeeded else .reconciledNotApplied)) :
    Guarded lifecycle (reconcile actionId postconditionMet result) (fun _ _ => True) k := by
  refine guarded_mono (fun _ _ _ => trivial) (guarded_complete .unknownRequiresReconciliation
    (·.reconcile postconditionMet result) (fun _ => .reconcile _ _) ?_ fun a _ => hallowed)
  intro a
  cases postconditionMet <;> nofun

theorem guarded_expirePending {r : Readings} :
    Guarded lifecycle (expirePending r) (fun _ _ => True) k := by
  simp only [expirePending, bind_def, guarded_bind, guarded_ofExcept]
  cases r.now with
  | error e => trivial
  | ok now =>
      refine guarded_repository.mpr ⟨trivial, ?_⟩
      rintro (e | actions) -
      · trivial
      · -- Every listed action has been read, and stays so while the loop runs.
        refine guarded_mono (Q := fun _ k' => ∀ a ∈ actions, a ∈ k'.seen) ?_ (guarded_forEach ?_ ?_)
        · rintro (e | u) k' - <;> trivial
        · intro a ha k' hseen
          rw [expireIfDue]
          split
          · rename_i hdue
            rw [PendingAction.due, Bool.and_eq_true, decide_eq_true_eq] at hdue
            rw [bind_def, guarded_bind]
            exact guarded_replaceWith (hseen a ha) (.expire hdue.1)
              (by simp [PendingAction.expire, executionStatuses]) hseen (fun _ => hseen)
          · exact hseen
        · exact fun a ha => List.mem_append_left _ ha

end Methods

/-- The knowledge a call starts with: an approval call may grant the approval it is about, to an
action its giver is eligible for, and a call that records an outcome takes its caller's word. -/
def ServiceCall.knowledge (call : ServiceCall) : Knowledge where
  grants := match call with
    | .approve actionId approverId roles r => fun id functionId record =>
        id = actionId ∧ record.approverId = approverId ∧ r.now = .ok record.approvedAt ∧
          Eligible functionId roles
    | _ => fun _ _ _ => False
  anyOutcome := call.recordsOutcome

/-- **Every method of the service keeps to the life of an action.** -/
theorem body_guarded (svc : ApprovalService) (call : ServiceCall) :
    Guarded lifecycle (call.body svc) (fun _ _ => True) call.knowledge := by
  have hpost : ∀ {α : Type} {p : Approval α} {Q : Except Exn α → Knowledge → Prop}
      {f : α → ServiceResult} {k : Knowledge}, Guarded lifecycle p Q k →
      Guarded lifecycle (p.bind fun a => .pure (f a)) (fun _ _ => True) k := by
    intro α p Q f k hp
    refine guarded_bind.mpr (guarded_mono ?_ hp)
    rintro (e | a) k' - <;> trivial
  cases call with
  | prepare => exact hpost guarded_prepare
  | get => exact hpost (guarded_get (Q := fun _ _ => True) (fun _ _ => trivial) fun _ => trivial)
  | confirm => exact hpost guarded_confirm
  | approve =>
      exact hpost (guarded_approve fun functionId now hnow heligible => ⟨rfl, rfl, hnow, heligible⟩)
  | reject => exact hpost guarded_reject
  | beginExecution => exact hpost guarded_beginExecution
  | completeSuccess => exact hpost (guarded_completeSuccess fun _ => .inl rfl)
  | completeFailure => exact hpost (guarded_completeFailure fun _ => .inl rfl)
  | reconcile => exact hpost (guarded_reconcile (.inl rfl))
  | expirePending => exact hpost guarded_expirePending

end BhDic.Approvals
