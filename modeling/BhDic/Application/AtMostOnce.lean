import BhDic.Application.Runs
import BhDic.Approvals.Invariant
import BhDic.Approvals.SqlLawful

/-!
# At most once

However requests interleave, fail and stop, the write of an action is asked of the adapter at most
once, and so is that of an idempotency key. Every replacement that succeeds takes the version it
expected one further, and no terminal action is ever touched again.
-/

namespace BhDic.Application

open BhDic.Approvals BhDic.Dic BhDic.Library BhDic.Python
open BhDic.Library.Prog

/-- The event asked the adapter for a write under the idempotency key. -/
def Event.writesUnder (key : String) (event : Event) : Bool :=
  event.written.any (·.idempotencyKey = key)

/-- Two stored actions never share a key, so what is written under a key is written for one
action. -/
theorem ExecutionOk.onceUnder {S : ActionMap} {log : List Event} {ks : List Knowledge}
    (h : ExecutionOk S log ks) (key : String) : log.countP (Event.writesUnder key) ≤ 1 := by
  by_cases hnone : ∃ event ∈ log, event.writesUnder key = true
  · obtain ⟨event, hevent, hunder⟩ := hnone
    obtain ⟨action, hwritten, hkey⟩ := (Option.any_eq_true _ _).mp hunder
    obtain ⟨a, ha, hakey, -⟩ := h.written event hevent action hwritten
    refine le_trans (List.countP_mono_left fun e he hunder' => ?_) (h.once action.actionId)
    obtain ⟨action', hwritten', hkey'⟩ := (Option.any_eq_true _ _).mp hunder'
    obtain ⟨b, hb, hbkey, -⟩ := h.written e he action' hwritten'
    rw [decide_eq_true_eq] at hkey hkey'
    have hsame := S.key_injective ha hb (by rw [hakey, hbkey, hkey, hkey'])
    simp [Event.writes, hwritten', hsame]
  · have hzero : log.countP (Event.writesUnder key) = 0 :=
      List.countP_eq_zero.mpr fun e he hunder => hnone ⟨e, he, hunder⟩
    omega

/-- A terminal record stays as it is. -/
theorem record_of_terminal {granted : Grants} {o : RepositoryOp} {a : PendingAction}
    {next : Option PendingAction} (hstep : RecordStep granted o (some a) next)
    (hterminal : a.status ∈ terminalStatuses) : next = some a := by
  cases hstep with
  | same => rfl
  | replaced _ htransition _ => exact absurd hterminal htransition.not_terminal

section Theorems

variable {σ : Type} {R : LawfulRepository σ} {coordinator : Coordinator} {s₀ : σ}
  {c c' : Config executionEffect Exn Response Request (World σ)}

/-- A replacement that succeeds finds the version it expects and stores the next one. -/
theorem replace_version (h₀ : R.Represents s₀ .empty)
    (h : Reachable (executionSystem R coordinator) ⟨s₀, []⟩ c)
    {ts₁ ts₂ : List (Execution Response)} {action : PendingAction} {expectedVersion : Nat}
    {k : Except Exn Unit → Execution Response}
    (htasks : c.tasks = ts₁ ++ .call (.inl (.replace action expectedVersion)) k :: ts₂) {s' : σ}
    (hexec : R.exec (.replace action expectedVersion) c.shared.store (.ok ()) s') :
    ∃ cur next, R.stored c.shared.store action.actionId = some cur ∧
      cur.version = expectedVersion ∧ R.stored s' action.actionId = some next ∧
      next.version = expectedVersion + 1 := by
  obtain ⟨ks₁, κ, ks₂, ⟨S, hrep, hok⟩, hpermits⟩ :=
    h.permitted (runOk_isInvariant R coordinator) (runOk_start h₀) htasks
  have hk := hok.sound κ (mem_middle.mpr (.inl rfl))
  obtain ⟨S', hrep', hstep⟩ := exec_step (o := .replace action expectedVersion) hrep hk hpermits hexec
  obtain ⟨cur, next, hcur, hv, hversion, hnext, hsame⟩ := hstep.replaced
  refine ⟨cur, next, ?_, hv, ?_, ?_⟩
  · rw [R.stored_eq hrep, hcur]
  · rw [R.stored_eq hrep', hnext]
  · rw [hsame.version, hversion]

/-- No step touches a terminal action. -/
theorem terminal_step (h₀ : R.Represents s₀ .empty)
    (h : Reachable (executionSystem R coordinator) ⟨s₀, []⟩ c)
    (hstep : Step (executionSystem R coordinator) c c') {id : String} {a : PendingAction}
    (ha : R.stored c.shared.store id = some a) (hterminal : a.status ∈ terminalStatuses) :
    R.stored c'.shared.store id = some a := by
  refine h.step_shared (runOk_isInvariant R coordinator) (runOk_start h₀)
    (R := fun w w' => R.stored w.store id = some a → R.stored w'.store id = some a)
    (fun _ h => h) ?_ hstep ha
  rintro w w' started ks₁ κ ks₂ o answer ⟨S, hrep, hok⟩ hpermits hexec hstored
  cases o with
  | inl o =>
      have hk := hok.sound κ (mem_middle.mpr (.inl rfl))
      obtain ⟨S', hrep', hstep⟩ := exec_step (o := o) hrep hk hpermits hexec.1
      rw [R.stored_eq hrep] at hstored
      rw [R.stored_eq hrep']
      have hrecord := hstep.records id
      rw [hstored] at hrecord
      exact record_of_terminal hrecord hterminal
  | inr o =>
      rw [hexec.1]
      exact hstored

/-- **At-most-once execution**, over any lawful repository and in every interleaving of requests
that starts from an empty store. -/
theorem execution_atMostOnce (h₀ : R.Represents s₀ .empty)
    (h : Reachable (executionSystem R coordinator) ⟨s₀, []⟩ c) :
    (∀ id, c.shared.log.countP (Event.writes id) ≤ 1) ∧
    (∀ key, c.shared.log.countP (Event.writesUnder key) ≤ 1) ∧
    (∀ ts₁ action expectedVersion k ts₂,
      c.tasks = ts₁ ++ .call (.inl (.replace action expectedVersion)) k :: ts₂ →
      ∀ s', R.exec (.replace action expectedVersion) c.shared.store (.ok ()) s' →
        ∃ cur next, R.stored c.shared.store action.actionId = some cur ∧
          cur.version = expectedVersion ∧ R.stored s' action.actionId = some next ∧
          next.version = expectedVersion + 1) ∧
    (∀ c', Step (executionSystem R coordinator) c c' → ∀ id a,
      R.stored c.shared.store id = some a → a.status ∈ terminalStatuses →
      R.stored c'.shared.store id = some a) := by
  obtain ⟨ks, S, -, hok⟩ := h.invariant (runOk_isInvariant R coordinator) (runOk_start h₀)
  refine ⟨hok.once, hok.onceUnder, ?_, ?_⟩
  · intro ts₁ action expectedVersion k ts₂ htasks s' hexec
    exact replace_version h₀ h htasks hexec
  · intro c' hstep id a ha hterminal
    exact terminal_step h₀ h hstep ha hterminal

end Theorems

/-! A run over the database store: an action is prepared, and its requester confirms it twice. -/

/-- Requests answered by the repository as it is, and by fixed answers of the boundary. -/
def answeredBy {σ : Type} (R : LawfulRepository σ) (answers : (o : BoundaryOp) → o.Answer) :
    (o : executionEffect.Op) → World σ → executionEffect.Ans o × World σ
  | .inl o, w => ((R.handle o w.store).1, { w with store := (R.handle o w.store).2 })
  | .inr o, w => (answers o, { w with log := w.log ++ [⟨o, answers o⟩] })

theorem answeredBy_exec {σ : Type} (R : LawfulRepository σ) (coordinator : Coordinator)
    (answers : (o : BoundaryOp) → o.Answer) (o : executionEffect.Op) (w : World σ) :
    (executionSystem R coordinator).exec o w (answeredBy R answers o w).1
      (answeredBy R answers o w).2 := by
  cases o with
  | inl o => exact ⟨.inl rfl, rfl⟩
  | inr o => exact ⟨rfl, rfl⟩

/-- A boundary on which everything goes well but, perhaps, the write of a page. -/
def sampleAnswers (report : WriteReport Unit) : (o : BoundaryOp) → o.Answer
  | .read (.authorizedParameters _) => .ok []
  | .read (.stateFingerprint ..) => .ok "f"
  | .read (.claimCleanUpload parameters) => .ok parameters
  | .read (.generateEmployeeExport ..) => .ok ⟨"dipendenti.csv", "text/csv", [], 0⟩
  | .read (.audit ..) => .ok ()
  | .read (.requireEnabled _) => .ok ()
  | .read .clock => .ok 30
  | .read (.catalogValidatedParameters _ parameters) => .ok parameters
  | .read (.validate _) => .ok ()
  | .read .ensureOpen => .ok ()
  | .read (.captureWriteBaseline _) => .ok (some { stableIds := ["7"] })
  | .read (.reconcileDirect action _) => .ok ⟨action.actionId, .confirmedApplied, "checked"⟩
  | .read (.adapterReconcile action) => .ok ⟨action.actionId, .confirmedApplied, "checked"⟩
  | .write (.runWrite _) => report
  | .write (.adapterExecute action) => ⟨true, .ok (verifiedResult action "written")⟩

def sampleCoordinator : Coordinator where
  approvals := sampleService
  adapter := .playwright true
  jsonDumps _ := ""

def sampleActor : DiscordActor where
  userId := 1
  guildId := 2
  channelId := 3
  logicalRoles := ["HR_WRITE"]

def sampleRequests : List Request :=
  [ .service (.prepare
      { functionId := "EMP-NOTIF-002", correlationId := "c-1", requesterId := "1", guildId := "2",
        channelId := "3", targetEmployeeId := none, encryptedParameters := [1],
        redactedDiff := [], stateFingerprint := "f" }
      { actionId := "a-1", confirmationCode := "ABCDEFGH", confirmationSalt := [0],
        token := "0123456789abcdef" }
      { writesEnabled := true, clock := .ofInstant 0 }) rfl,
    .approve sampleActor "a-1" "ABCDEFGH" none { writesEnabled := true, clock := .ofInstant 10 }
      { writesEnabled := true, clock := .ofInstant 20 },
    .approve sampleActor "a-1" "ABCDEFGH" none { writesEnabled := true, clock := .ofInstant 10 }
      { writesEnabled := true, clock := .ofInstant 20 } ]

def sampleWorld {σ : Type} (R : LawfulRepository σ) (s₀ : σ) (report : WriteReport Unit) : World σ :=
  runAll (executionSystem R sampleCoordinator) (answeredBy R (sampleAnswers report))
    sampleRequests ⟨s₀, []⟩

theorem sampleWorld_reachable {σ : Type} (R : LawfulRepository σ) (s₀ : σ)
    (report : WriteReport Unit) :
    Reachable (executionSystem R sampleCoordinator) ⟨s₀, []⟩
      ⟨sampleWorld R s₀ report, sampleRequests, []⟩ :=
  Reachable.init.runAll (answeredBy_exec R sampleCoordinator (sampleAnswers report)) sampleRequests

theorem execution_atMostOnce_sampleWorld :
    let w := sampleWorld (sampleEnvironment.sqlAlchemy) {} ⟨true, .ok ()⟩
    w.log.countP (Event.writes "a-1") = 1 ∧ ∀ key, w.log.countP (Event.writesUnder key) ≤ 1 :=
  ⟨by decide, (execution_atMostOnce SqlEnvironment.represents_empty (sampleWorld_reachable _ _ _)).2.1⟩

end BhDic.Application
