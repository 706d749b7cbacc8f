import BhDic.Approvals.Runs

/-!
# The invariant of every run

What holds of every stored action in every interleaving of service calls: an action that got as
far as approved was confirmed in time by its requester and approved in time by enough distinct
others, each of whom held an eligible role.
-/

namespace BhDic.Approvals

open BhDic.Library BhDic.Policies BhDic.Python
open BhDic.Library.Prog

/-- The statuses an action reaches only after it was fully approved. -/
def passedStatuses : List ActionStatus :=
  [.approved, .executing, .stale, .succeeded, .failed, .unknownRequiresReconciliation,
    .reconciledNotApplied]

/-- The invariant of one record. Its first six fields hold in every status. -/
structure RecordOk (granted : Grants) (a : PendingAction) : Prop where
  confirmedInTime : ∀ t, a.confirmationConsumedAt = some t → t < a.expiresAt
  approvedInTime : ∀ record ∈ a.approvals, record.approvedAt < a.expiresAt
  distinct : a.approvedBy.Nodup
  notRequester : ∀ record ∈ a.approvals, record.approverId ≠ a.requesterId
  granted : ∀ record ∈ a.approvals, granted a.actionId a.functionId record
  confirmedFirst : a.approvals ≠ [] → a.confirmed = true
  pending : a.status = .pending → a.approvals = []
  partially : a.status = .partiallyApproved →
    0 < a.approvals.length ∧ a.approvals.length < a.approvalsRequired
  passed : a.status ∈ passedStatuses →
    a.confirmed = true ∧ a.approvalsRequired ≤ a.approvals.length

namespace RecordOk

variable {granted granted' : Grants} {a b : PendingAction}

theorem mono (hmono : ∀ id functionId record, granted id functionId record →
    granted' id functionId record) (h : RecordOk granted a) : RecordOk granted' a :=
  { h with granted := fun record hrecord => hmono _ _ _ (h.granted record hrecord) }

theorem of_fresh (h : Fresh a) : RecordOk granted a := by
  obtain ⟨hstatus, happrovals, hconfirmed, -⟩ := h
  constructor <;>
    simp [hstatus, happrovals, hconfirmed, PendingAction.approvedBy, passedStatuses]

theorem sameUpToOrder (h : RecordOk granted a) (hsame : a.SameUpToOrder b) :
    RecordOk granted b := by
  obtain ⟨l, hperm, rfl⟩ := hsame
  have hmem : ∀ {record}, record ∈ l → record ∈ a.approvals := fun hr => hperm.mem_iff.mp hr
  constructor
  · exact h.confirmedInTime
  · exact fun record hr => h.approvedInTime record (hmem hr)
  · exact (hperm.map _).nodup_iff.mpr h.distinct
  · exact fun record hr => h.notRequester record (hmem hr)
  · exact fun record hr => h.granted record (hmem hr)
  · exact fun hne => h.confirmedFirst fun hnil => hne (List.perm_nil.mp (hnil ▸ hperm))
  · exact fun hs => List.perm_nil.mp (h.pending hs ▸ hperm)
  · exact fun hs => hperm.length_eq ▸ h.partially hs
  · exact fun hs => hperm.length_eq ▸ h.passed hs

/-- A change of status that leaves confirmation and approvals alone. -/
private theorem of_status (h : RecordOk granted a)
    (hsame : b.approvals = a.approvals ∧ b.confirmationConsumedAt = a.confirmationConsumedAt ∧
      b.expiresAt = a.expiresAt ∧ b.requesterId = a.requesterId ∧ b.actionId = a.actionId ∧
      b.functionId = a.functionId ∧ b.approvalsRequired = a.approvalsRequired)
    (hstatus : b.status ≠ .pending ∧ b.status ≠ .partiallyApproved ∧
      (b.status ∈ passedStatuses → a.status ∈ passedStatuses)) : RecordOk granted b := by
  obtain ⟨happrovals, hconfirmed, hexpires, hrequester, hid, hfunction, hrequired⟩ := hsame
  have hc : b.confirmed = a.confirmed := by simp only [PendingAction.confirmed, hconfirmed]
  constructor
  · rw [hconfirmed, hexpires]
    exact h.confirmedInTime
  · rw [happrovals, hexpires]
    exact h.approvedInTime
  · rw [PendingAction.approvedBy, happrovals]
    exact h.distinct
  · rw [happrovals, hrequester]
    exact h.notRequester
  · rw [happrovals, hid, hfunction]
    exact h.granted
  · rw [happrovals, hc]
    exact h.confirmedFirst
  · exact fun hs => absurd hs hstatus.1
  · exact fun hs => absurd hs hstatus.2.1
  · rw [happrovals, hc, hrequired]
    exact fun hs => h.passed (hstatus.2.2 hs)

private theorem confirm (h : RecordOk granted a) {now : Instant} (hnow : now < a.expiresAt)
    (hunconfirmed : a.confirmed = false) :
    RecordOk granted (a.confirm now) := by
  have hnone : a.approvals = [] := by
    by_contra hne
    exact absurd (h.confirmedFirst hne) (by simp [hunconfirmed])
  constructor
  · rintro t ⟨⟩
    exact hnow
  · exact h.approvedInTime
  · exact h.distinct
  · exact h.notRequester
  · exact h.granted
  · exact fun _ => rfl
  · exact fun _ => hnone
  · intro hs
    simp only [PendingAction.confirm] at hs
    split at hs <;> cases hs
  · intro hs
    refine ⟨rfl, ?_⟩
    by_cases hzero : a.approvalsRequired = 0
    · show a.approvalsRequired ≤ _
      omega
    · simp [PendingAction.confirm, hzero, passedStatuses] at hs

private theorem approve (h : RecordOk granted a) {record : ApprovalRecord}
    (htime : record.approvedAt < a.expiresAt) (hconfirmed : a.confirmed = true)
    (hrequester : record.approverId ≠ a.requesterId) (hnew : record.approverId ∉ a.approvedBy)
    (hgranted : granted a.actionId a.functionId record) : RecordOk granted (a.approve record) := by
  have hall : ∀ {P : ApprovalRecord → Prop}, (∀ r ∈ a.approvals, P r) → P record →
      ∀ r ∈ a.approvals ++ [record], P r := by
    intro P hold hrecord r hr
    rcases List.mem_append.mp hr with hr | hr
    · exact hold r hr
    · rw [List.mem_singleton.mp hr]
      exact hrecord
  have hlength : (a.approve record).approvals.length = a.approvals.length + 1 :=
    List.length_append
  constructor
  · exact h.confirmedInTime
  · exact hall h.approvedInTime htime
  · show ((a.approvals ++ [record]).map (·.approverId)).Nodup
    rw [List.map_append]
    refine List.nodup_append.mpr ⟨h.distinct, List.nodup_singleton _, ?_⟩
    rintro x hx y hy rfl
    rw [List.mem_singleton.mp hy] at hx
    exact hnew hx
  · exact hall h.notRequester hrequester
  · exact hall h.granted hgranted
  · exact fun _ => hconfirmed
  · intro hs
    simp only [PendingAction.approve] at hs
    split at hs <;> cases hs
  · intro hs
    rw [hlength]
    refine ⟨Nat.succ_pos _, ?_⟩
    simp only [PendingAction.approve] at hs
    split at hs
    · cases hs
    · rename_i hlt
      rw [List.length_append] at hlt
      exact not_le.mp hlt
  · intro hs
    refine ⟨hconfirmed, ?_⟩
    rw [hlength]
    simp only [PendingAction.approve] at hs
    split at hs
    · rename_i hle
      rwa [List.length_append] at hle
    · simp [passedStatuses] at hs

/-- **Every transition keeps the invariant.** -/
theorem transition (h : RecordOk granted a) (ht : Transition granted a b) : RecordOk granted b := by
  have hpassed : ∀ s ∈ [ActionStatus.approved, .executing, .unknownRequiresReconciliation],
      s ∈ passedStatuses := by decide
  cases ht with
  | expire | reject =>
      refine h.of_status ⟨rfl, rfl, rfl, rfl, rfl, rfl, rfl⟩ ⟨(by cases ·), (by cases ·), fun hs => absurd hs ?_⟩
      simp [PendingAction.expire, PendingAction.reject, passedStatuses]
  | confirm now _ hnow hunconfirmed => exact h.confirm hnow hunconfirmed
  | approve record _ htime hconfirmed _ _ hrequester hnew hgranted =>
      exact h.approve htime hconfirmed hrequester hnew hgranted
  | markStale hs | begin hs =>
      exact h.of_status ⟨rfl, rfl, rfl, rfl, rfl, rfl, rfl⟩
        ⟨(by cases ·), (by cases ·), fun _ => hpassed _ (by rw [hs]; decide)⟩
  | succeed _ _ v hs =>
      refine h.of_status ⟨rfl, rfl, rfl, rfl, rfl, rfl, rfl⟩
        ⟨?_, ?_, fun _ => hpassed _ (by rw [hs]; decide)⟩ <;> cases v <;> intro hs <;> cases hs
  | fail _ u hs =>
      refine h.of_status ⟨rfl, rfl, rfl, rfl, rfl, rfl, rfl⟩
        ⟨?_, ?_, fun _ => hpassed _ (by rw [hs]; decide)⟩ <;> cases u <;> intro hs <;> cases hs
  | reconcile v _ hs =>
      refine h.of_status ⟨rfl, rfl, rfl, rfl, rfl, rfl, rfl⟩
        ⟨?_, ?_, fun _ => hpassed _ (by rw [hs]; decide)⟩ <;> cases v <;> intro hs <;> cases hs

end RecordOk

/-! ## Runs -/

/-- The approval was given by a call that was started, at the time it was recorded, by someone who
held a role the function's approvers need. -/
def GrantedBy (started : List ServiceCall) : Grants := fun actionId functionId record =>
  ∃ roles r, .approve actionId record.approverId roles r ∈ started ∧
    r.now = .ok record.approvedAt ∧ Eligible functionId roles

theorem grantedBy_append {started : List ServiceCall} {call : ServiceCall} {id functionId : String}
    {record : ApprovalRecord} (h : GrantedBy started id functionId record) :
    GrantedBy (started ++ [call]) id functionId record := by
  obtain ⟨roles, r, hmem, hnow, heligible⟩ := h
  exact ⟨roles, r, List.mem_append_left _ hmem, hnow, heligible⟩

/-- A call may grant only the approval it is itself. -/
theorem grantedBy_knowledge {call : ServiceCall} {id functionId : String} {record : ApprovalRecord}
    (h : call.knowledge.grants id functionId record) : GrantedBy [call] id functionId record := by
  cases call with
  | approve actionId approverId roles r =>
      obtain ⟨rfl, rfl, hnow, heligible⟩ := h
      exact ⟨roles, r, List.mem_singleton_self _, hnow, heligible⟩
  | _ => exact h.elim

theorem grantedBy_mono {started started' : List ServiceCall} (h : started ⊆ started')
    {id functionId : String} {record : ApprovalRecord}
    (hg : GrantedBy started id functionId record) : GrantedBy started' id functionId record := by
  obtain ⟨roles, r, hmem, hnow, heligible⟩ := hg
  exact ⟨roles, r, h hmem, hnow, heligible⟩

/-- The invariant of a configuration: the store represents records that are in order, and what
each running call knows is true and within what was granted. -/
structure RunOk {σ : Type} (R : LawfulRepository σ) (s : σ) (started : List ServiceCall)
    (ks : List Knowledge) : Prop where
  store : ∃ S, R.Represents s S ∧
    (∀ id a, S.record id = some a → RecordOk (GrantedBy started) a) ∧ ∀ k ∈ ks, k.Sound S
  grants : ∀ k ∈ ks, ∀ id functionId record, k.grants id functionId record →
    GrantedBy started id functionId record

theorem RecordStep.recordOk {granted granted' : Grants} {o : RepositoryOp}
    {r r' : Option PendingAction} (h : RecordStep granted o r r')
    (hmono : ∀ id functionId record, granted id functionId record →
      granted' id functionId record)
    (hr : ∀ a, r = some a → RecordOk granted' a) : ∀ a, r' = some a → RecordOk granted' a := by
  cases h with
  | same => exact hr
  | created a _ hfresh =>
      rintro _ ⟨⟩
      exact .of_fresh hfresh
  | replaced _ htransition hsame =>
      rintro _ ⟨⟩
      refine RecordOk.sameUpToOrder ?_ hsame
      exact (hr _ rfl).transition (htransition.mono hmono)

theorem runOk_isInvariant {σ : Type} (R : LawfulRepository σ) (svc : ApprovalService) :
    IsInvariant (approvalSystem R svc) lifecycle ServiceCall.knowledge (RunOk R) where
  body_guarded := body_guarded svc
  start := by
    intro s started ks call h
    obtain ⟨S, hrep, hrecords, hsound⟩ := h.store
    refine ⟨⟨S, hrep, fun id a ha => (hrecords id a ha).mono fun _ _ _ => grantedBy_append, ?_⟩, ?_⟩
    · intro k hk
      rcases List.mem_append.mp hk with hk | hk
      · exact hsound k hk
      · rw [List.mem_singleton.mp hk]
        exact call.knowledge_sound S
    · intro k hk id functionId record hg
      rcases List.mem_append.mp hk with hk | hk
      · exact grantedBy_append (h.grants k hk _ _ _ hg)
      · rw [List.mem_singleton.mp hk] at hg
        exact grantedBy_mono (List.subset_append_right _ _) (grantedBy_knowledge hg)
  call := by
    intro s s' started ks₁ k ks₂ o answer h hpermits hexec
    obtain ⟨S, hrep, hrecords, hsound⟩ := h.store
    have hk : k ∈ ks₁ ++ k :: ks₂ := List.mem_append_right _ List.mem_cons_self
    obtain ⟨S', hrep', hstep⟩ := exec_step hrep (hsound k hk) hpermits hexec
    refine ⟨hstep.promised, ⟨S', hrep', fun id a ha => ?_, ?_⟩, ?_⟩
    · exact (hstep.records id).recordOk (h.grants k hk) (hrecords id) a ha
    · intro k' hk'
      rcases List.mem_append.mp hk' with hk' | hk'
      · exact hstep.others k' (hsound k' (List.mem_append_left _ hk'))
      · rcases List.mem_cons.mp hk' with rfl | hk'
        · exact hstep.learned
        · exact hstep.others k' (hsound k' (List.mem_append_right _ (List.mem_cons_of_mem _ hk')))
    · intro k' hk'
      rcases List.mem_append.mp hk' with hk' | hk'
      · exact h.grants k' (List.mem_append_left _ hk')
      · rcases List.mem_cons.mp hk' with rfl | hk'
        · show ∀ id functionId record, (k.learn o answer).grants id functionId record → _
          rw [k.learn_grants]
          exact h.grants k hk
        · exact h.grants k' (List.mem_append_right _ (List.mem_cons_of_mem _ hk'))
  crash := by
    intro s started ks₁ k ks₂ h
    obtain ⟨S, hrep, hrecords, hsound⟩ := h.store
    have hsub : ks₁ ++ ks₂ ⊆ ks₁ ++ k :: ks₂ :=
      ((List.sublist_cons_self k ks₂).append_left ks₁).subset
    exact ⟨⟨S, hrep, hrecords, fun k' hk' => hsound k' (hsub hk')⟩,
      fun k' hk' => h.grants k' (hsub hk')⟩

/-- What the invariant says to a reader, of one stored action after the calls in `started`. -/
structure ApprovedInOrder (started : List ServiceCall) (a : PendingAction) : Prop where
  /-- Past approval, the requester's confirmation was consumed in time, and enough distinct
  others, each eligible, approved in time. -/
  passed : a.status ∈ passedStatuses →
    (∃ t, a.confirmationConsumedAt = some t ∧ t < a.expiresAt) ∧
    a.approvalsRequired ≤ a.approvals.length ∧
    a.approvedBy.Nodup ∧
    ∀ record ∈ a.approvals, record.approverId ≠ a.requesterId ∧ record.approvedAt < a.expiresAt ∧
      ∃ roles r, .approve a.actionId record.approverId roles r ∈ started ∧
        r.now = .ok record.approvedAt ∧ Eligible a.functionId roles
  partially : a.status = .partiallyApproved →
    0 < a.approvals.length ∧ a.approvals.length < a.approvalsRequired

theorem RecordOk.approvedInOrder {started : List ServiceCall} {a : PendingAction}
    (h : RecordOk (GrantedBy started) a) : ApprovedInOrder started a := by
  refine ⟨fun hs => ?_, h.partially⟩
  obtain ⟨hconfirmed, hrequired⟩ := h.passed hs
  obtain ⟨t, ht⟩ := Option.isSome_iff_exists.mp hconfirmed
  refine ⟨⟨t, ht, h.confirmedInTime t ht⟩, hrequired, h.distinct, fun record hr => ?_⟩
  exact ⟨h.notRequester record hr, h.approvedInTime record hr, h.granted record hr⟩

/-- **The approval run invariant**, over any lawful repository: whatever a reachable store
represents holds only actions whose approvals are in order. -/
theorem reachable_approvedInOrder {σ : Type} {R : LawfulRepository σ} {svc : ApprovalService}
    {s₀ : σ} (h₀ : R.Represents s₀ .empty)
    {c : Config repositoryEffect Exn ServiceResult ServiceCall σ}
    (h : Reachable (approvalSystem R svc) s₀ c) :
    ∃ S, R.Represents c.shared S ∧
      ∀ id a, S.record id = some a → ApprovedInOrder c.started a := by
  have hstart : RunOk R s₀ [] [] :=
    ⟨⟨.empty, h₀, fun _ _ ha => absurd ha.symm (Option.some_ne_none _), fun _ hk => by cases hk⟩,
      fun _ hk => by cases hk⟩
  obtain ⟨ks, hrun⟩ := h.invariant (runOk_isInvariant R svc) hstart
  obtain ⟨S, hrep, hrecords, -⟩ := hrun.store
  exact ⟨S, hrep, fun id a ha => (hrecords id a ha).approvedInOrder⟩

/-- **The approval run invariant** of the in-memory store: in every interleaving of service calls
from the empty store, every stored action has its approvals in order. -/
theorem inMemory_approvedInOrder (svc : ApprovalService)
    {c : Config repositoryEffect Exn ServiceResult ServiceCall InMemoryStore}
    (h : Reachable (approvalSystem inMemory svc) {} c) {id : String} {a : PendingAction}
    (ha : c.shared.get id = some a) : ApprovedInOrder c.started a := by
  obtain ⟨S, hrep, hall⟩ := reachable_approvedInOrder InMemoryStore.represents_empty h
  refine hall id a ?_
  rw [← hrep.record]
  exact ha

/-! A run that gets an action approved: prepared, confirmed by its requester, approved by another. -/

def sampleService : ApprovalService where
  confirmation := ⟨asciiTables, fun payload => payload⟩
  unicode := asciiTables
  defaultTtl := 600000000

def sampleRun : List ServiceCall :=
  [ .prepare
      { functionId := "EMP-MAT-002", correlationId := "c-1", requesterId := "1", guildId := "2",
        channelId := "3", targetEmployeeId := some "7", encryptedParameters := [1],
        redactedDiff := [], stateFingerprint := "f" }
      { actionId := "a-1", confirmationCode := "ABCDEFGH", confirmationSalt := [0],
        token := "0123456789abcdef" }
      { writesEnabled := true, clock := .ofInstant 0 },
    .confirm "a-1" "1" " abcd efgh " none { writesEnabled := true, clock := .ofInstant 10 },
    .approve "a-1" "4" ["APPROVER"] { writesEnabled := true, clock := .ofInstant 20 } ]

theorem inMemory_approvedInOrder_sampleRun :
    ∃ a, (runAll (approvalSystem inMemory sampleService) inMemoryRepository sampleRun {}).get
        "a-1" = some a ∧ a.status = .approved ∧ ApprovedInOrder sampleRun a := by
  have hstatus : ((runAll (approvalSystem inMemory sampleService) inMemoryRepository sampleRun
      {}).get "a-1").map (·.status) = some .approved := by decide
  obtain ⟨a, ha, hs⟩ := Option.map_eq_some_iff.mp hstatus
  have hinit : Reachable (approvalSystem inMemory sampleService) {} ⟨{}, [], []⟩ := .init
  have hreach := hinit.runAll (h := inMemoryRepository) (fun _ _ => Or.inl rfl) sampleRun
  exact ⟨a, ha, hs, inMemory_approvedInOrder sampleService hreach ha⟩

end BhDic.Approvals
