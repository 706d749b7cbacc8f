import BhDic.Dic.Boundary

/-!
# The write path of the Playwright adapter

One write is dispatched at most once; whatever goes wrong afterwards is reconciled by reading. The
exceptions a handler of the source does not name go through it.
-/

namespace BhDic.Dic

open BhDic.Library BhDic.Python
open BhDic.Library.Prog (require attempt)

/-- `_LIVE_WRITE_NOT_VERIFIABLE`. -/
def liveWriteNotVerifiable : List String :=
  ["EMP-INVITE-001", "EMP-CONTRACT-003", "EMP-DOC-003", "EMP-DOC-005", "EMP-EXPORT-001"]

/-- `reconcile`. -/
def reconcile (action : PreparedAction) : Boundary ReconciliationResult := do
  read .ensureOpen
  match ← (read (.reconcileDirect action none)).attempt with
  | .ok result => return result
  | .error e =>
      if e.isA .dicReconciliationRequiredError then .throw e
      else if e.isA .exception then
        .throw ⟨.dicReconciliationRequiredError,
          "reconciliation failed; write outcome remains unknown"⟩
      else .throw e

/-- `_reconcile_after_dispatch`. -/
def reconcileAfterDispatch (action : PreparedAction) (baseline : Option WriteBaseline) :
    Boundary ReconciliationResult := do
  let reading : Boundary ReconciliationResult :=
    match baseline with
    | none => reconcile action
    | some baseline => read (.reconcileDirect action (some baseline))
  match ← reading.attempt with
  | .ok result => return result
  | .error e =>
      if e.isA .exception then
        .throw ⟨.dicReconciliationRequiredError,
          "post-dispatch reconciliation failed; write outcome is unknown"⟩
      else .throw e

/-- The result of a write that was found applied. -/
def verifiedResult (action : PreparedAction) (message : String) : ExecutionResult where
  actionId := action.actionId
  functionId := action.functionId
  status := .succeeded
  changed := true
  postconditionVerified := true
  message := message
  correlationId := action.correlationId

/-- The exceptions of a write after which `execute_prepared` reconciles. -/
def failedAfterDispatch (e : Exn) : Bool :=
  e.isA .timeoutError || e.isA .connectionError || e.isA .playwrightError ||
    e.isA .dicUiChangedError

/-- `execute_prepared`. -/
def executePrepared (liveWritesEnabled : Bool) (action : PreparedAction) :
    Boundary ExecutionResult := do
  read .ensureOpen
  require (liveWritesEnabled = true)
    ⟨.dicWriteDisabledError, "Playwright live writes are disabled at adapter boundary"⟩
  require (action.functionId ∉ liveWriteNotVerifiable)
    ⟨.dicWriteDisabledError,
      "live write has no exhaustive observable postcondition and is unavailable"⟩
  let baseline ← read (.captureWriteBaseline action)
  match ← (write (.runWrite action)).attempt with
  | .error e =>
      if failedAfterDispatch e then do
        let outcome ← reconcileAfterDispatch action baseline
        match outcome.state with
        | .confirmedApplied =>
            return verifiedResult action "write applied; response recovered by reconciliation"
        | .confirmedNotApplied =>
            .throw ⟨.dicAmbiguousWriteOutcomeError,
              "write failed after dispatch; automatic retry is prohibited"⟩
        | .unknown => .throw ⟨.dicReconciliationRequiredError, outcome.detail⟩
      else .throw e
  | .ok () =>
      let outcome ← reconcileAfterDispatch action baseline
      require (outcome.state = .confirmedApplied)
        ⟨.dicReconciliationRequiredError, outcome.detail⟩
      return verifiedResult action "write applied and postcondition verified"

/-- `DipendentiInCloudAdapter`: the Playwright adapter, or any other that implements the
protocol. -/
inductive DicAdapter
  | playwright (liveWritesEnabled : Bool)
  | other

def DicAdapter.executePrepared (adapter : DicAdapter) (action : PreparedAction) :
    Boundary ExecutionResult :=
  match adapter with
  | .playwright liveWritesEnabled => Dic.executePrepared liveWritesEnabled action
  | .other => write (.adapterExecute action)

def DicAdapter.reconcile (adapter : DicAdapter) (action : PreparedAction) :
    Boundary ReconciliationResult :=
  match adapter with
  | .playwright _ => Dic.reconcile action
  | .other => read (.adapterReconcile action)

end BhDic.Dic
