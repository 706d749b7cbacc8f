import BhDic.Application.Execution
import BhDic.Approvals.Lifecycle

/-!
# When a write may be dispatched, and what may be recorded of it

`execution` is the discipline of the coordinator. Towards the repository it is `lifecycle`; a write
is dispatched only for an execution the same call has begun and has dispatched nothing for. What
is reported of the write moves the execution on to its next phase, and the phase says which
outcomes may be recorded.

The programs keep it whatever the boundary answers: `guarded_executePrepared` for the adapter,
`guarded_executeWriteCriticalSection` for the coordinator, `request_guarded` for every request.
-/

namespace BhDic.Application

open BhDic.Approvals BhDic.Dic BhDic.Library BhDic.Python
open BhDic.Library.Prog

/-! ## What was answered -/

/-- A call on the boundary, and its answer. -/
abbrev Event := (o : BoundaryOp) × o.Answer

/-- The write may have been applied, as far as the exception tells, and the handlers above the call
take it so. -/
def leavesOpen (o : WriteOp) (e : Exn) : Bool :=
  e.isA .dicAmbiguousWriteOutcomeError || e.isA .dicReconciliationRequiredError ||
    !e.isA .exception ||
    match o with
    | .runWrite _ => failedAfterDispatch e
    | .adapterExecute _ => false

/-- The event dispatched the write of the action. -/
def Event.dispatches (actionId : String) : Event → Bool
  | ⟨.write o, report⟩ => o.action.actionId = actionId && report.dispatched
  | ⟨.read _, _⟩ => false

/-- The event dispatched the write of the action, and raised something that is taken to say the
write was not dispatched. -/
def Event.misreports (actionId : String) : Event → Bool
  | ⟨.write o, report⟩ =>
      o.action.actionId = actionId && report.dispatched &&
        match report.result with
        | .ok _ => false
        | .error e => !leavesOpen o e
  | ⟨.read _, _⟩ => false

/-- The event established that the write of the action was applied. -/
def Event.establishes (actionId : String) : Event → Bool
  | ⟨.read (.reconcileDirect action _), .ok result⟩ =>
      action.actionId = actionId && result.state = .confirmedApplied
  | ⟨.read (.adapterReconcile action), .ok result⟩ =>
      action.actionId = actionId && result.state = .confirmedApplied
  | ⟨.write (.adapterExecute action), ⟨_, .ok result⟩⟩ =>
      action.actionId = actionId && result.postconditionVerified
  | _ => false

/-- The event established that the write of the action was not applied. -/
def Event.refutes (actionId : String) : Event → Bool
  | ⟨.read (.reconcileDirect action _), .ok result⟩ =>
      action.actionId = actionId && result.state = .confirmedNotApplied
  | ⟨.read (.adapterReconcile action), .ok result⟩ =>
      action.actionId = actionId && result.state = .confirmedNotApplied
  | ⟨.write o, ⟨_, .error e⟩⟩ => o.action.actionId = actionId && e.isA .dicValidationError
  | _ => false

/-! ## The discipline -/

/-- The phase of an execution once its write has been answered. -/
def phaseAfter (o : WriteOp) (report : WriteReport o.Returns) : Phase :=
  let event : Event := ⟨.write o, report⟩
  if report.dispatched = false then .closed
  else if event.misreports o.action.actionId then .unreliable
  else if event.establishes o.action.actionId then .applied
  else .dispatched

/-- What an answer of the boundary says of an execution. -/
def observe (h : Hold) : Event → Hold
  | ⟨.write o, report⟩ => { h with phase := phaseAfter o report }
  | ⟨.read o, answer⟩ =>
      let event : Event := ⟨.read o, answer⟩
      if h.phase = .dispatched ∧ event.establishes h.action.actionId then
        { h with phase := .applied }
      else h

def observed (k : Knowledge) (event : Event) : Knowledge :=
  { k with hold := k.hold.map (observe · event) }

/-- The write is that of the execution the call has begun, and nothing was dispatched for it. -/
def MayDispatch (k : Knowledge) (action : Dic.PreparedAction) : Prop :=
  ∃ a, k.hold = some ⟨a, .claimed⟩ ∧ action.actionId = a.actionId ∧
    action.idempotencyKey = a.idempotencyKey

def execution : Discipline executionEffect Knowledge where
  permits
    | k, .inl o => k.permits o
    | _, .inr (.read _) => True
    | k, .inr (.write o) => MayDispatch k o.action
  promises
    | .inl o, answer => Promised o answer
    | .inr _, _ => True
  learn
    | k, .inl o, answer => k.learn o answer
    | k, .inr o, answer => observed k ⟨o, answer⟩

section Programs

variable {k : Knowledge} {id : String}

theorem guarded_approvals {α : Type} {p : Approval α} {Q : Except Exn α → Knowledge → Prop} :
    Guarded execution (approvals p) Q k ↔ Guarded lifecycle p Q k := guarded_inl

theorem guarded_boundary {α : Type} {p : Boundary α} {Q : Except Exn α → Knowledge → Prop} :
    Guarded execution (boundary p) Q k ↔ Guarded execution.right p Q k := guarded_inr

theorem guarded_read {o : ReadOp} {Q : Except Exn o.Returns → Knowledge → Prop} :
    Guarded execution.right (read o) Q k ↔
      ∀ answer, Q answer (observed k ⟨.read o, answer⟩) := by
  rw [Dic.read, guarded_bind, guarded_ask]
  simp only [guarded_ofExcept]
  exact ⟨fun h answer => h.2 answer trivial, fun h => ⟨trivial, fun answer _ => h answer⟩⟩

theorem guarded_write {o : WriteOp} {Q : Except Exn o.Returns → Knowledge → Prop}
    (hmay : MayDispatch k o.action)
    (hQ : ∀ report, Q report.result (observed k ⟨.write o, report⟩)) :
    Guarded execution.right (write o) Q k := by
  rw [Dic.write, guarded_bind, guarded_ask]
  simp only [guarded_ofExcept]
  exact ⟨hmay, fun report _ => hQ report⟩

/-! ## What an execution keeps while it reads -/

theorem observe_action (h : Hold) (event : Event) : (observe h event).action = h.action := by
  obtain ⟨o | o, answer⟩ := event
  · simp only [observe]
    split <;> rfl
  · rfl

theorem holding_observed (hk : k.Holding id) (event : Event) : (observed k event).Holding id := by
  obtain ⟨h, hsome, hid⟩ := hk
  exact ⟨observe h event, by simp [observed, hsome], by rw [observe_action, hid]⟩

/-- Reading adds no dispatch. -/
theorem mayDispatch_observed {action : Dic.PreparedAction} {o : ReadOp}
    (hk : MayDispatch k action) (answer : Except Exn o.Returns) :
    MayDispatch (observed k ⟨.read o, answer⟩) action := by
  obtain ⟨a, hsome, hid, hkey⟩ := hk
  exact ⟨a, by simp [observed, hsome, observe], hid, hkey⟩

theorem MayDispatch.holding {action : Dic.PreparedAction} (hk : MayDispatch k action) :
    k.Holding action.actionId := by
  obtain ⟨a, hsome, hid, -⟩ := hk
  exact ⟨_, hsome, hid.symm⟩

/-- Until something is dispatched, a failure may be recorded. -/
theorem MayDispatch.mayRecord {action : Dic.PreparedAction} {status : ActionStatus}
    (hk : MayDispatch k action) (hstatus : status ≠ .reconciledNotApplied) :
    k.MayRecord action.actionId status := by
  obtain ⟨a, hsome, hid, -⟩ := hk
  exact .inr ⟨_, hsome, hid.symm, hstatus⟩

/-- Evidence that the write was applied makes room for a success. -/
theorem mayRecord_of_establishes {o : ReadOp} {answer : Except Exn o.Returns}
    (hk : k.Holding id) (hevent : Event.establishes id ⟨.read o, answer⟩ = true) :
    (observed k ⟨.read o, answer⟩).MayRecord id .succeeded := by
  obtain ⟨⟨a, phase⟩, hsome, rfl⟩ := hk
  refine .inr ⟨_, by rw [observed, hsome]; rfl, by rw [observe_action], ?_⟩
  cases phase with
  | dispatched => simp [observe, hevent, Phase.allows]
  | applied => simp [observe, Phase.allows]
  | _ => simp [observe, Phase.allows]

/-! ## The adapter -/

/-- What a reconciliation leaves behind. -/
def Reconciled (id : String) : Except Exn ReconciliationResult → Knowledge → Prop
  | .ok result, k => k.Holding id ∧ (result.state = .confirmedApplied → k.MayRecord id .succeeded)
  | .error _, k => k.Holding id

theorem guarded_reconcileDirect {action : Dic.PreparedAction} {baseline : Option WriteBaseline}
    (hk : k.Holding action.actionId) :
    Guarded execution.right (read (.reconcileDirect action baseline))
      (Reconciled action.actionId) k := by
  refine guarded_read.mpr fun answer => ?_
  have hholding := holding_observed hk ⟨.read (.reconcileDirect action baseline), answer⟩
  cases answer with
  | error e => exact hholding
  | ok result =>
      refine ⟨hholding, fun hstate => mayRecord_of_establishes hk ?_⟩
      simp [Event.establishes, hstate]

theorem guarded_reconcile {action : Dic.PreparedAction} (hk : k.Holding action.actionId) :
    Guarded execution.right (Dic.reconcile action) (Reconciled action.actionId) k := by
  simp only [Dic.reconcile, bind_def, guarded_bind, guarded_attempt]
  refine guarded_read.mpr ?_
  rintro (e | u)
  · exact holding_observed hk _
  · refine guarded_mono ?_ (guarded_reconcileDirect (holding_observed hk _))
    rintro (e | result) k' h
    · dsimp only
      split
      · exact h
      · split
        · exact h
        · exact h
    · exact h

/-- Whether the coordinator takes the outcome for uncertain. -/
def uncertain (e : Exn) : Bool :=
  e.isA .dicAmbiguousWriteOutcomeError || e.isA .dicReconciliationRequiredError

@[simp] theorem uncertain_ambiguous (message : String) :
    uncertain ⟨.dicAmbiguousWriteOutcomeError, message⟩ = true := rfl

@[simp] theorem uncertain_required (message : String) :
    uncertain ⟨.dicReconciliationRequiredError, message⟩ = true := rfl

/-- What the execution of a write leaves behind: a verified result allows a success, and an error
allows a failure unless it says that the outcome is uncertain, or goes through every handler. -/
def Settled (id : String) : Except Exn ExecutionResult → Knowledge → Prop
  | .ok result, k =>
      k.Holding id ∧ (result.postconditionVerified = true → k.MayRecord id .succeeded)
  | .error e, k =>
      k.Holding id ∧ (uncertain e = false → e.isA .exception = true → k.MayRecord id .failed)

theorem guarded_reconcileAfterDispatch {action : Dic.PreparedAction}
    {baseline : Option WriteBaseline} (hk : k.Holding action.actionId) :
    Guarded execution.right (reconcileAfterDispatch action baseline)
      (fun r k' => Reconciled action.actionId r k' ∧
        ∀ e, r = .error e → e.isA .exception = true → uncertain e = true) k := by
  simp only [reconcileAfterDispatch, bind_def, guarded_bind, guarded_attempt]
  apply guarded_mono (Q := Reconciled action.actionId)
  rotate_left
  · cases baseline with
    | none => exact guarded_reconcile hk
    | some baseline => exact guarded_reconcileDirect hk
  rintro (e | result) k' h
  · dsimp only
    split
    · refine ⟨h, ?_⟩
      rintro _ ⟨⟩ _
      rfl
    · rename_i hexception
      refine ⟨h, ?_⟩
      rintro _ ⟨⟩ he
      exact absurd he hexception
  · refine ⟨h, ?_⟩
    rintro _ ⟨⟩

/-- Anything may still be recorded, except that a write was reconciled as not applied. -/
theorem MayDispatch.settled_error {action : Dic.PreparedAction} (hk : MayDispatch k action)
    (e : Exn) : Settled action.actionId (.error e) k :=
  ⟨hk.holding, fun _ _ => hk.mayRecord nofun⟩

/-- An exception that is taken to say the write was not dispatched makes room for a failure. If it
was dispatched after all, the report is unreliable. -/
theorem mayRecord_of_closing {o : WriteOp} {report : WriteReport o.Returns} {e : Exn}
    (hk : MayDispatch k o.action) (he : report.result = .error e) (hopen : leavesOpen o e = false) :
    (observed k ⟨.write o, report⟩).MayRecord o.action.actionId .failed := by
  obtain ⟨a, hsome, hid, -⟩ := hk
  refine .inr ⟨_, by rw [observed, hsome]; rfl, by rw [observe_action, ← hid], ?_⟩
  by_cases hdispatched : report.dispatched
  · simp [observe, phaseAfter, hdispatched, Event.misreports, he, hopen, Phase.allows]
  · simp [observe, phaseAfter, hdispatched, Phase.allows]

theorem guarded_executePrepared {liveWritesEnabled : Bool} {action : Dic.PreparedAction}
    (hk : MayDispatch k action) :
    Guarded execution.right (Dic.executePrepared liveWritesEnabled action)
      (Settled action.actionId) k := by
  simp only [Dic.executePrepared, bind_def, guarded_bind, guarded_attempt, guarded_require]
  refine guarded_read.mpr ?_
  rintro (e | u)
  · exact (mayDispatch_observed hk _).settled_error e
  have hk₁ := mayDispatch_observed hk (.ok u)
  refine ⟨fun _ => ⟨fun _ => ?_, fun _ => hk₁.settled_error _⟩, fun _ => hk₁.settled_error _⟩
  refine guarded_read.mpr ?_
  rintro (e | baseline)
  · exact (mayDispatch_observed hk₁ _).settled_error e
  have hk₂ := mayDispatch_observed hk₁ (.ok baseline)
  refine guarded_write hk₂ fun report => ?_
  have hholding := holding_observed hk₂.holding ⟨.write (.runWrite action), report⟩
  cases hresult : report.result with
  | error e =>
      dsimp only
      split
      · -- The write may have been dispatched: what was read afterwards decides.
        rw [guarded_bind]
        refine guarded_mono ?_ (guarded_reconcileAfterDispatch hholding)
        rintro (e' | outcome) k' ⟨hreconciled, herror⟩
        · refine ⟨hreconciled, fun hcertain hexception => ?_⟩
          rw [herror e' rfl hexception] at hcertain
          cases hcertain
        · dsimp only
          cases hstate : outcome.state with
          | confirmedApplied => exact ⟨hreconciled.1, fun _ => hreconciled.2 hstate⟩
          | confirmedNotApplied | unknown =>
              exact ⟨hreconciled.1, fun hcertain => absurd hcertain (by simp)⟩
      · rename_i hnot
        refine ⟨hholding, fun hcertain hexception => ?_⟩
        refine mayRecord_of_closing (o := .runWrite action) hk₂ hresult ?_
        simp only [uncertain, Bool.or_eq_false_iff] at hcertain
        simp [leavesOpen, hcertain, hexception, hnot]
  | ok u =>
      dsimp only
      rw [guarded_bind]
      refine guarded_mono ?_ (guarded_reconcileAfterDispatch hholding)
      rintro (e' | outcome) k' ⟨hreconciled, herror⟩
      · refine ⟨hreconciled, fun hcertain hexception => ?_⟩
        rw [herror e' rfl hexception] at hcertain
        cases hcertain
      · simp only [guarded_bind, guarded_require]
        refine ⟨fun hstate => ⟨hreconciled.1, fun _ => hreconciled.2 hstate⟩, fun _ => ?_⟩
        exact ⟨hreconciled.1, fun hcertain => absurd hcertain (by simp)⟩

/-- The same of an adapter that is one call: it says itself whether the outcome is verified. -/
theorem guarded_adapterExecute {action : Dic.PreparedAction} (hk : MayDispatch k action) :
    Guarded execution.right (write (.adapterExecute action)) (Settled action.actionId) k := by
  refine guarded_write hk fun report => ?_
  have hholding := holding_observed hk.holding ⟨.write (.adapterExecute action), report⟩
  obtain ⟨dispatched, result⟩ := report
  cases result with
  | error e =>
      refine ⟨hholding, fun hcertain hexception => ?_⟩
      refine mayRecord_of_closing (o := .adapterExecute action) hk rfl ?_
      simp only [uncertain, Bool.or_eq_false_iff] at hcertain
      simp [leavesOpen, hcertain, hexception]
  | ok result =>
      refine ⟨hholding, fun hverified => ?_⟩
      obtain ⟨a, hsome, hid, -⟩ := hk
      refine .inr ⟨_, by rw [observed, hsome]; rfl, by rw [observe_action, hid], ?_⟩
      cases dispatched with
      | false => simp [observe, phaseAfter, Phase.allows]
      | true =>
          simp [observe, phaseAfter, Event.misreports, Event.establishes, hverified,
            WriteOp.action, Phase.allows]

theorem guarded_adapter {adapter : DicAdapter} {action : Dic.PreparedAction}
    (hk : MayDispatch k action) :
    Guarded execution.right (adapter.executePrepared action) (Settled action.actionId) k := by
  cases adapter with
  | playwright => exact guarded_executePrepared hk
  | other => exact guarded_adapterExecute hk

theorem guarded_adapterReconcile {adapter : DicAdapter} {action : Dic.PreparedAction}
    (hk : k.Holding action.actionId) :
    Guarded execution.right (adapter.reconcile action) (Reconciled action.actionId) k := by
  cases adapter with
  | playwright => exact guarded_reconcile hk
  | other =>
      refine guarded_read.mpr fun answer => ?_
      have hholding := holding_observed hk ⟨.read (.adapterReconcile action), answer⟩
      cases answer with
      | error e => exact hholding
      | ok result =>
          refine ⟨hholding, fun hstate => mayRecord_of_establishes hk ?_⟩
          simp [Event.establishes, hstate]

/-! ## The service -/

/-- What reading cannot change. -/
def ReadStable (P : Knowledge → Prop) : Prop :=
  ∀ k (o : ReadOp) answer, P k → P (observed k ⟨.read o, answer⟩)

theorem readStable_holding : ReadStable (·.Holding id) := fun _ _ _ h => holding_observed h _

theorem readStable_mayDispatch {a : PendingAction} :
    ReadStable (·.hold = some ⟨a, .claimed⟩) := by
  intro k o answer h
  simp [observed, h, observe]

theorem guarded_requireEligible {P : Knowledge → Prop} (hP : ReadStable P)
    {pending : PendingAction} {forExecution : Bool} (hk : P k) :
    Guarded execution.right (requireEligible pending forExecution) (fun _ => P) k := by
  unfold requireEligible
  split
  · simp only [bind_def, guarded_bind, guarded_require]
    refine guarded_read.mpr ?_
    rintro (e | u)
    · exact hP _ _ _ hk
    have hk₁ := hP _ _ (.ok u) hk
    refine ⟨fun _ => ?_, fun _ => hk₁⟩
    refine guarded_read.mpr ?_
    rintro (e | now)
    · exact hP _ _ _ hk₁
    have hk₂ := hP _ _ (.ok now) hk₁
    exact ⟨fun _ => hk₂, fun _ => hk₂⟩
  · exact (guarded_require _ _ _ _).mpr ⟨fun _ => hk, fun _ => hk⟩

/-- Building the action for the adapter only reads, and keeps its id and its key. -/
theorem guarded_buildPrepared {P : Knowledge → Prop} (hP : ReadStable P)
    {pending : PendingAction} {parameters : Parameters} {forExecution : Bool} (hk : P k) :
    Guarded execution.right (buildPrepared pending parameters forExecution)
      (fun r k' => P k' ∧ OnOk (fun prepared _ => prepared.actionId = pending.actionId ∧
        prepared.idempotencyKey = pending.idempotencyKey) r k') k := by
  simp only [buildPrepared, bind_def, guarded_bind, guarded_require]
  refine guarded_mono ?_ (guarded_requireEligible hP hk)
  rintro (e | u) k₁ hk₁
  · exact ⟨hk₁, trivial⟩
  refine ⟨fun _ => ⟨fun _ => ?_, fun _ => ⟨hk₁, trivial⟩⟩, fun _ => ⟨hk₁, trivial⟩⟩
  split
  · exact ⟨hk₁, trivial⟩
  rename_i spec _
  simp only [guarded_bind, guarded_require]
  refine ⟨fun _ => ⟨fun _ => ?_, fun _ => ⟨hk₁, trivial⟩⟩, fun _ => ⟨hk₁, trivial⟩⟩
  refine guarded_read.mpr ?_
  rintro (e | validated)
  · exact ⟨hP _ _ _ hk₁, trivial⟩
  have hk₂ := hP _ _ (.ok validated) hk₁
  refine guarded_read.mpr ?_
  rintro (e | u)
  · exact ⟨hP _ _ _ hk₂, trivial⟩
  · exact ⟨hP _ _ _ hk₂, rfl, rfl⟩

theorem guarded_execute {adapter : DicAdapter} {executing : PendingAction}
    {parameters : Parameters} (hk : k.hold = some ⟨executing, .claimed⟩) :
    Guarded execution.right (Dic.execute adapter executing parameters)
      (Settled executing.actionId) k := by
  rw [Dic.execute, bind_def, guarded_bind]
  refine guarded_mono ?_ (guarded_buildPrepared readStable_mayDispatch hk)
  rintro (e | prepared) k' ⟨hk', hprepared⟩
  · exact ⟨⟨_, hk', rfl⟩, fun _ _ => .inr ⟨_, hk', rfl, nofun⟩⟩
  · obtain ⟨hid, hkey⟩ := hprepared
    rw [← hid]
    exact guarded_adapter ⟨executing, hk', hid, hkey⟩

theorem guarded_reconcilePending {adapter : DicAdapter} {pending : PendingAction}
    {parameters : Parameters} (hk : k.Holding pending.actionId) :
    Guarded execution.right (reconcilePending adapter pending parameters)
      (Reconciled pending.actionId) k := by
  rw [reconcilePending, bind_def, guarded_bind]
  refine guarded_mono ?_ (guarded_buildPrepared readStable_holding hk)
  rintro (e | prepared) k' ⟨hk', hprepared⟩
  · exact hk'
  · rw [← hprepared.1] at hk' ⊢
    exact guarded_adapterReconcile hk'

/-! ## The coordinator -/

theorem guarded_persistUncertainAndReconcile {c : Coordinator} {action : PendingAction}
    {parameters : Parameters} {result : String} (hk : k.Holding action.actionId) :
    Guarded execution (persistUncertainAndReconcile c action parameters result)
      (fun _ _ => True) k := by
  simp only [persistUncertainAndReconcile, bind_def, guarded_bind, guarded_attempt]
  refine guarded_approvals.mpr (guarded_mono ?_ (guarded_completeFailure nofun))
  rintro (e | uncertain) k₁ ⟨hcontinues, hid⟩
  · trivial
  have hk₁ := hcontinues.holding hk
  rw [← show uncertain.actionId = action.actionId from hid] at hk₁ ⊢
  refine guarded_boundary.mpr (guarded_mono ?_ (guarded_reconcilePending hk₁))
  rintro (e | reconciliation) k₂ hreconciled
  · dsimp only
    split <;> trivial
  dsimp only
  split
  · trivial
  rename_i hstate
  simp only [guarded_bind, guarded_attempt]
  refine guarded_approvals.mpr (guarded_mono ?_
    (Approvals.guarded_reconcile (hreconciled.2 (not_not.mp hstate))))
  rintro (e | completed) k₃ -
  · dsimp only
    split <;> trivial
  · trivial

/-- The handlers record a failure only of an error that says what happened. -/
theorem guarded_onExecutionError {c : Coordinator} {action : PendingAction}
    {parameters : Parameters} {generatedExport : Option GeneratedExport} {e : Exn}
    (hk : Settled action.actionId (.error e) k) :
    Guarded execution (onExecutionError c action parameters generatedExport e)
      (fun _ _ => True) k := by
  obtain ⟨hholding, hfailed⟩ := hk
  have hpost : ∀ {α β : Type} {p : Execution α} {f : α → Execution β} {k : Knowledge},
      Guarded execution p (fun _ _ => True) k →
      (∀ a k, Guarded execution (f a) (fun _ _ => True) k) →
      Guarded execution (p.bind f) (fun _ _ => True) k := by
    intro α β p f k hp hf
    refine guarded_bind.mpr (guarded_mono ?_ hp)
    rintro (e | a) k' -
    · trivial
    · exact hf a k'
  unfold onExecutionError
  split
  · exact hpost (guarded_persistUncertainAndReconcile hholding) fun _ _ => trivial
  · rename_i hcertain
    split
    · rename_i hexception
      refine hpost (guarded_approvals.mpr (guarded_mono (fun _ _ _ => trivial)
        (guarded_completeFailure fun _ => ?_))) fun _ _ => trivial
      exact hfailed (Bool.eq_false_iff.mpr hcertain) hexception
    · trivial

theorem guarded_recordResult {c : Coordinator} {action : PendingAction}
    {parameters : Parameters} {result : ExecutionResult}
    (hk : Settled action.actionId (.ok result) k) :
    Guarded execution (recordResult c action parameters result) (fun _ _ => True) k := by
  obtain ⟨hholding, hsucceeded⟩ := hk
  simp only [recordResult, bind_def, guarded_bind, guarded_attempt]
  refine guarded_approvals.mpr (guarded_mono ?_ (guarded_completeSuccess hsucceeded))
  rintro (e | completed) k' hk'
  · dsimp only
    split
    · simp only [guarded_bind, guarded_attempt]
      refine guarded_mono ?_ (guarded_persistUncertainAndReconcile (hk'.holding hholding))
      rintro (e' | persisted) k'' - <;> (dsimp only; split <;> trivial)
    · trivial
  · trivial

theorem guarded_executeExport {c : Coordinator} {action : PendingAction}
    {parameters executionParameters : Parameters} {a : PendingAction}
    (hk : k.hold = some ⟨a, .claimed⟩) (hid : a.actionId = action.actionId) :
    Guarded execution (executeExport c action parameters executionParameters)
      (fun _ _ => True) k := by
  simp only [executeExport, bind_def, guarded_bind, guarded_attempt]
  refine guarded_boundary.mpr (guarded_read.mpr fun answer => ?_)
  have hk₁ := readStable_mayDispatch _ (.generateEmployeeExport action parameters) answer hk
  have hholding : (observed k _).Holding action.actionId := ⟨_, hk₁, hid⟩
  cases answer with
  | error e => exact guarded_onExecutionError ⟨hholding, fun _ _ => .inr ⟨_, hk₁, hid, nofun⟩⟩
  | ok generated =>
      dsimp only
      simp only [guarded_bind, guarded_attempt]
      refine guarded_approvals.mpr (guarded_mono ?_
        (guarded_completeSuccess fun _ => .inr ⟨_, hk₁, hid, nofun⟩))
      rintro (e | completed) k₂ hk₂
      · exact guarded_onExecutionError
          ⟨hk₂.holding hholding, fun _ _ => hk₂.mayRecord (.inr ⟨_, hk₁, hid, nofun⟩)⟩
      · trivial

theorem guarded_executeWrite {c : Coordinator} {action executing : PendingAction}
    {executionParameters : Parameters} (hk : k.hold = some ⟨executing, .claimed⟩)
    (hid : executing.actionId = action.actionId) :
    Guarded execution (executeWrite c action executing executionParameters) (fun _ _ => True) k := by
  simp only [executeWrite, bind_def, guarded_bind, guarded_attempt]
  refine guarded_boundary.mpr (guarded_mono ?_ (guarded_execute hk))
  rw [hid]
  rintro (e | result) k' hsettled
  · exact guarded_onExecutionError hsettled
  · dsimp only
    rw [guarded_bind]
    refine guarded_mono ?_ (guarded_recordResult hsettled)
    rintro (e | completed) k'' - <;> trivial

/-- **The critical section.** Only an execution it has begun is dispatched, once, and what it
records is what it was told of the write. -/
theorem guarded_executeWriteCriticalSection {c : Coordinator} {action : PendingAction}
    {parameters : Parameters} {r : Readings} :
    Guarded execution (executeWriteCriticalSection c action parameters r) (fun _ _ => True) k := by
  simp only [executeWriteCriticalSection, bind_def, guarded_bind, guarded_attempt]
  refine guarded_boundary.mpr (guarded_read.mpr ?_)
  rintro (e | currentFingerprint)
  · trivial
  refine guarded_approvals.mpr (guarded_mono ?_ guarded_beginExecution)
  rintro (e | executing) k₁ hbegun
  · trivial
  obtain ⟨hid, hhold⟩ := hbegun
  have hparameters : Guarded execution.right (executionParametersOf action.functionId parameters)
      (fun _ k' => k'.hold = some ⟨executing, .claimed⟩) k₁ := by
    unfold executionParametersOf
    split
    · exact hhold
    · exact guarded_read.mpr fun answer => readStable_mayDispatch _ _ answer hhold
  refine guarded_boundary.mpr (guarded_mono ?_ hparameters)
  rintro (e | executionParameters) k₂ hk₂
  · dsimp only
    split
    · rw [guarded_bind]
      refine guarded_approvals.mpr (guarded_mono ?_
        (guarded_completeFailure fun _ => .inr ⟨_, hk₂, hid, nofun⟩))
      rintro (e' | u) k₃ - <;> trivial
    · trivial
  · dsimp only
    split
    · exact guarded_executeExport hk₂ hid
    · exact guarded_executeWrite hk₂ hid

theorem guarded_executeApproved {c : Coordinator} {actor : DiscordActor} {action : PendingAction}
    {r : Readings} :
    Guarded execution (executeApproved c actor action r) (fun _ _ => True) k := by
  simp only [executeApproved, bind_def, guarded_bind]
  refine guarded_boundary.mpr (guarded_read.mpr ?_)
  rintro (e | parameters)
  · trivial
  refine guarded_mono ?_ guarded_executeWriteCriticalSection
  rintro (e | ⟨completed, generatedExport⟩) k' -
  · trivial
  refine guarded_boundary.mpr (guarded_read.mpr ?_)
  rintro (e | u) <;> trivial

theorem guarded_register {c : Coordinator} {actor : DiscordActor} {actionId code : String}
    {targetConfirmation : Option String} {r : Readings}
    (hgrants : ∀ functionId now, r.now = .ok now → Eligible functionId actor.logicalRoles →
      k.grants actionId functionId ⟨toString actor.userId, now⟩) :
    Guarded execution (register c actor actionId code targetConfirmation r) (fun _ _ => True) k := by
  simp only [register, bind_def, guarded_bind]
  refine guarded_approvals.mpr (guarded_get (fun a _ => ?_) (fun _ => trivial))
  dsimp only
  split
  · exact guarded_approvals.mpr guarded_confirm
  · simp only [guarded_bind, guarded_require, implies_true, and_true]
    exact fun _ => guarded_approvals.mpr (guarded_approve hgrants)

end Programs

/-- The knowledge a request starts with. An approval may grant what it is about. -/
def Request.knowledge : Request → Knowledge
  | .approve actor actionId _ _ registration _ =>
      (ServiceCall.approve actionId (toString actor.userId) actor.logicalRoles
        registration).knowledge
  | .service serviceCall _ => serviceCall.knowledge

/-- **Every request keeps the discipline**, whatever the repository and the boundary answer. -/
theorem request_guarded (c : Coordinator) (request : Request) :
    Guarded execution (request.body c) (fun _ _ => True) request.knowledge := by
  cases request with
  | approve actor actionId code targetConfirmation registration later =>
      simp only [Request.body, Application.approve, bind_def, guarded_bind]
      refine guarded_mono ?_ (guarded_register fun functionId now hnow heligible =>
        ⟨rfl, rfl, hnow, heligible⟩)
      rintro (e | action) k -
      · trivial
      dsimp only
      split
      · refine guarded_mono ?_ guarded_executeApproved
        rintro (e | result) k' - <;> trivial
      · trivial
  | service serviceCall notOutcome =>
      simp only [Request.body, bind_def, guarded_bind]
      refine guarded_approvals.mpr (guarded_mono ?_ (body_guarded c.approvals serviceCall))
      rintro (e | result) k - <;> trivial

end BhDic.Application
