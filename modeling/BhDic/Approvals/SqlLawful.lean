import BhDic.Approvals.Repository
import BhDic.Approvals.SqlStorage

/-!
# The database repository is lawful

The tables represent an abstract store when a read of each id gives its record, and the decision
and execution rows are the ones that record accounts for. `sqlAlchemy` shows that every call keeps
it so and answers as the abstract store does, the approvals coming back in the order of their
timestamps.
-/

namespace BhDic.Approvals

open BhDic.Library BhDic.Policies BhDic.Python

namespace SqlEnvironment

variable {env : SqlEnvironment}

/-! ## Putting a record together -/

/-- Reading the row of a record gives its columns back, and the decisions there are. -/
theorem toDomain_rowOf (a : PendingAction) (rows : List DecisionRow) :
    toDomain (env.rowOf a) rows = .ok { a with
      approvals := approvalsOf rows
      rejectedBy := (rows.find? (·.decision == "REJECTED")).map (·.approverDiscordId)
      rejectedAt := (rows.find? (·.decision == "REJECTED")).map fun row => aware row.createdAt } := by
  have hconfirmed : (a.confirmationConsumedAt.map env.column).map aware =
      a.confirmationConsumedAt := by
    rw [Option.map_map]
    cases a.confirmationConsumedAt with
    | none => rfl
    | some t => exact congrArg some (aware_column env t)
  simp only [toDomain, rowOf, ActionStatus.ofValue_value, decodeResult_encodeResult, aware_column,
    hconfirmed]
  rfl

/-- The approvals among some rows, as records. -/
theorem perm_approvalsOf (rows : List DecisionRow) :
    (approvalsOf rows).Perm ((rows.filter (·.decision == "APPROVED")).map fun row =>
      { approverId := row.approverDiscordId, approvedAt := aware row.createdAt }) :=
  ((List.perm_insertionSort before rows).filter _).map _

theorem perm_approvalsOf_append (rows rows' : List DecisionRow) :
    (approvalsOf (rows ++ rows')).Perm (approvalsOf rows ++ approvalsOf rows') := by
  refine (perm_approvalsOf _).trans ?_
  rw [List.filter_append, List.map_append]
  exact ((perm_approvalsOf rows).append (perm_approvalsOf rows')).symm

theorem mem_approvalsOf {rows : List DecisionRow} {record : ApprovalRecord} :
    record ∈ approvalsOf rows ↔ ∃ row ∈ rows, row.decision = "APPROVED" ∧
      record = ⟨row.approverDiscordId, aware row.createdAt⟩ := by
  rw [(perm_approvalsOf rows).mem_iff]
  simp only [List.mem_map, List.mem_filter, beq_iff_eq]
  constructor
  · rintro ⟨row, ⟨hmem, hdecision⟩, rfl⟩
    exact ⟨row, hmem, hdecision, rfl⟩
  · rintro ⟨row, hmem, hdecision, rfl⟩
    exact ⟨row, ⟨hmem, hdecision⟩, rfl⟩

theorem before_total (r r' : DecisionRow) : before r r' ∨ before r' r := by
  unfold before
  have hid := le_total r.approvalId r'.approvalId
  grind

theorem before_trans {r₁ r₂ r₃ : DecisionRow} (h : before r₁ r₂) (h' : before r₂ r₃) :
    before r₁ r₃ := by
  rcases h with h | ⟨h, hid⟩ <;> rcases h' with h' | ⟨h', hid'⟩
  · exact .inl (h.trans h')
  · exact .inl (h' ▸ h)
  · exact .inl (h ▸ h')
  · exact .inr ⟨h.trans h', hid.trans hid'⟩

instance : Std.Total before := ⟨before_total⟩

instance : IsTrans DecisionRow before := ⟨fun _ _ _ => before_trans⟩

/-- A read returns the approvals in the order of their timestamps. -/
theorem approvalsOf_chronological {rows : List DecisionRow}
    (hcolumns : ∀ row ∈ rows, ∃ t, row.createdAt = env.column t) :
    (approvalsOf rows).Pairwise fun r r' => r.approvedAt ≤ r'.approvedAt := by
  have hwall : ∀ row ∈ rows, aware row.createdAt = row.createdAt.wall := by
    intro row hrow
    obtain ⟨t, ht⟩ := hcolumns row hrow
    rw [ht, aware_column, column]
    split <;> rfl
  have hsorted := (List.pairwise_insertionSort before rows).filter (·.decision == "APPROVED")
  rw [approvalsOf, List.pairwise_map]
  refine hsorted.imp_of_mem fun {r r'} hr hr' hbefore => ?_
  have hmem : ∀ row ∈ (rows.insertionSort before).filter (·.decision == "APPROVED"), row ∈ rows :=
    fun row hrow => (List.perm_insertionSort before rows).mem_iff.mp (List.mem_of_mem_filter hrow)
  show aware r.createdAt ≤ aware r'.createdAt
  rw [hwall r (hmem r hr), hwall r' (hmem r' hr')]
  rcases hbefore with h | ⟨h, -⟩
  · exact h.le
  · exact h.le

/-! ## What the tables represent -/

/-- The tables hold the abstract store `S`. -/
structure Represents (env : SqlEnvironment) (s : SqlStore) (S : ActionMap) : Prop where
  ids : (s.pendingActions.map (·.actionId)).Nodup
  row : ∀ id a, S.record id = some a → env.rowOf a ∈ s.pendingActions
  record : ∀ row ∈ s.pendingActions, ∃ a, S.record row.actionId = some a ∧ row = env.rowOf a
  decided : ∀ id a, S.record id = some a → approversUnique (s.decisionsOn id) ∧
    toDomain (env.rowOf a) (s.decisionsOn id) = .ok a
  undecided : ∀ id, S.record id = none → s.decisionsOn id = []
  rejected : ∀ id a, S.record id = some a → a.status ≠ .rejected →
    ∀ row ∈ s.decisionsOn id, row.decision = "APPROVED"
  columns : ∀ row ∈ s.decisions, ∃ t, row.createdAt = env.column t
  owner : ∀ key id, S.owner key = some id ↔
    ∃ row ∈ s.executions, row.idempotencyKey = key ∧ row.actionId = id

theorem represents_empty : Represents env {} .empty where
  ids := List.nodup_nil
  row _ _ h := absurd h.symm (Option.some_ne_none _)
  record _ h := absurd h List.not_mem_nil
  decided _ _ h := absurd h.symm (Option.some_ne_none _)
  undecided _ _ := rfl
  rejected _ _ h := absurd h.symm (Option.some_ne_none _)
  columns _ h := absurd h List.not_mem_nil
  owner _ _ := ⟨fun h => absurd h.symm (Option.some_ne_none _),
    fun ⟨_, h, _⟩ => absurd h List.not_mem_nil⟩

section Represented

variable {s : SqlStore} {S : ActionMap}

/-- There is a row for an id exactly when there is a record. -/
theorem Represents.any_id (h : Represents env s S) (id : String) :
    s.pendingActions.any (·.actionId == id) = (S.record id).isSome := by
  rw [Bool.eq_iff_iff, List.any_eq_true, Option.isSome_iff_exists]
  constructor
  · rintro ⟨row, hrow, hid⟩
    obtain ⟨a, ha, -⟩ := h.record row hrow
    rw [beq_iff_eq] at hid
    exact ⟨a, by rw [← hid, ha]⟩
  · rintro ⟨a, ha⟩
    exact ⟨_, h.row id a ha, by simpa [rowOf] using S.record_id ha⟩

theorem Represents.any_key (h : Represents env s S) (key : String) :
    s.pendingActions.any (·.idempotencyKey == key) = true ↔ ¬S.KeyUnused key := by
  rw [List.any_eq_true]
  constructor
  · rintro ⟨row, hrow, hkey⟩ hunused
    obtain ⟨a, ha, rfl⟩ := h.record row hrow
    exact hunused _ a ha (by simpa [rowOf] using hkey)
  · intro hused
    simp only [ActionMap.KeyUnused, not_forall, not_not] at hused
    obtain ⟨id, a, ha, hkey⟩ := hused
    exact ⟨_, h.row id a ha, by simpa [rowOf] using hkey⟩

/-- A read finds the record of an id, or none. -/
theorem Represents.get (h : Represents env s S) (id : String) :
    SqlEnvironment.get s id = .ok (S.record id) := by
  unfold SqlEnvironment.get
  cases hrecord : S.record id with
  | none =>
      have hnone : s.pendingActions.find? (·.actionId == id) = none := by
        rw [List.find?_eq_none]
        intro row hrow hid
        have hany := h.any_id id
        rw [hrecord, Option.isSome_none, List.any_eq_false] at hany
        exact hany row hrow hid
      rw [hnone]
  | some a =>
      have hsome : s.pendingActions.find? (·.actionId == id) = some (env.rowOf a) :=
        (find?_key_eq_some (·.actionId) h.ids).mpr
          ⟨h.row id a hrecord, by simpa [rowOf] using S.record_id hrecord⟩
      rw [hsome]
      show some <$> toDomain (env.rowOf a) (s.decisionsOn id) = _
      rw [(h.decided id a hrecord).2]
      rfl

/-- The approvals of a record are those among its decision rows. -/
theorem Represents.approvals (h : Represents env s S) {id : String} {a : PendingAction}
    (ha : S.record id = some a) : a.approvals = approvalsOf (s.decisionsOn id) := by
  have hread := (h.decided id a ha).2
  rw [toDomain_rowOf] at hread
  exact (congrArg PendingAction.approvals (Except.ok.inj hread)).symm

/-- Where nothing is rejected, every decision row is by an approver of the record. -/
theorem Represents.approvedBy (h : Represents env s S) {id : String} {a : PendingAction}
    (ha : S.record id = some a) (hstatus : a.status ≠ .rejected) {actor : String} :
    actor ∈ a.approvedBy ↔ ∃ row ∈ s.decisionsOn id, row.approverDiscordId = actor := by
  rw [PendingAction.approvedBy, h.approvals ha, List.mem_map]
  constructor
  · rintro ⟨record, hrecord, rfl⟩
    obtain ⟨row, hrow, -, rfl⟩ := mem_approvalsOf.mp hrecord
    exact ⟨row, hrow, rfl⟩
  · rintro ⟨row, hrow, rfl⟩
    exact ⟨_, mem_approvalsOf.mpr ⟨row, hrow, h.rejected id a ha hstatus row hrow, rfl⟩, rfl⟩

/-- An action that is not rejected has no rejection in its record. -/
theorem Represents.notRejected (h : Represents env s S) {id : String} {a : PendingAction}
    (ha : S.record id = some a) (hstatus : a.status ≠ .rejected) :
    a.rejectedBy = none ∧ a.rejectedAt = none := by
  have hread := (h.decided id a ha).2
  have hnone : (s.decisionsOn id).find? (·.decision == "REJECTED") = none := by
    rw [List.find?_eq_none]
    intro row hrow
    rw [h.rejected id a ha hstatus row hrow]
    decide
  rw [toDomain_rowOf, hnone] at hread
  have heq := Except.ok.inj hread
  exact ⟨(congrArg PendingAction.rejectedBy heq).symm, (congrArg PendingAction.rejectedAt heq).symm⟩

/-! ## What a replacement adds -/

theorem Represents.missing_old (h : Represents env s S) {id : String} {a : PendingAction}
    (ha : S.record id = some a) {record : ApprovalRecord} (hrecord : record ∈ a.approvals) :
    missing (s.decisionsOn id) record.approverId "APPROVED" = false := by
  rw [h.approvals ha] at hrecord
  obtain ⟨row, hrow, hdecision, rfl⟩ := mem_approvalsOf.mp hrecord
  simp only [missing, Bool.not_eq_false', List.any_eq_true]
  exact ⟨row, hrow, by simp [hdecision]⟩

theorem Represents.missing_new (h : Represents env s S) {id : String} {a : PendingAction}
    (ha : S.record id = some a) (hstatus : a.status ≠ .rejected) {actor : String}
    (hactor : actor ∉ a.approvedBy) (decision : String) :
    missing (s.decisionsOn id) actor decision = true := by
  simp only [missing, Bool.not_eq_true', List.any_eq_false, Bool.and_eq_true, beq_iff_eq, not_and]
  intro row hrow hrowactor
  exact absurd ((h.approvedBy ha hstatus).mpr ⟨row, hrow, hrowactor⟩) hactor

/-- The decisions a transition adds are of its action, by users who had not decided yet, and give
the new record back. -/
structure DecisionsStep (env : SqlEnvironment) (a : PendingAction) (rows new : List DecisionRow) :
    Prop where
  action : ∀ row ∈ new, row.actionId = a.actionId
  unique : approversUnique (rows ++ new)
  read : ∃ b, toDomain (env.rowOf a) (rows ++ new) = .ok b ∧ a.SameUpToOrder b
  rejected : a.status ≠ .rejected → ∀ row ∈ rows ++ new, row.decision = "APPROVED"

theorem Represents.unique_append (h : Represents env s S) {id : String} {a : PendingAction}
    (ha : S.record id = some a) (hstatus : a.status ≠ .rejected) {row : DecisionRow}
    (hnew : row.approverDiscordId ∉ a.approvedBy) :
    approversUnique (s.decisionsOn id ++ [row]) := by
  unfold approversUnique
  rw [List.map_append]
  refine List.nodup_append.mpr ⟨(h.decided id a ha).1, List.nodup_singleton _, ?_⟩
  intro x hx y hy hxy
  obtain ⟨row', hrow', rfl⟩ := List.mem_map.mp hx
  rw [List.map_singleton, List.mem_singleton] at hy
  exact hnew ((h.approvedBy ha hstatus).mpr ⟨row', hrow', by rw [hxy, hy]⟩)

theorem Represents.decisionsStep (h : Represents env s S) {granted : Grants} {id : String}
    {cur a : PendingAction} (hcur : S.record id = some cur) (ht : Transition granted cur a)
    (n : Nat) :
    DecisionsStep env a (s.decisionsOn id) (env.newDecisions n a (s.decisionsOn id)) := by
  have hstatus : cur.status ≠ .rejected := by
    intro hrejected
    exact ht.not_terminal (by rw [hrejected]; decide)
  obtain ⟨hby, hat⟩ := h.notRejected hcur hstatus
  have hold : ∀ {l}, l = cur.approvals →
      l.filter (fun record => missing (s.decisionsOn id) record.approverId "APPROVED") = [] := by
    intro l hl
    subst hl
    rw [List.filter_eq_nil_iff]
    intro record hrecord
    rw [h.missing_old hcur hrecord]
    decide
  have happroved := h.rejected id cur hcur hstatus
  have hnone : ∀ {rows : List DecisionRow}, (∀ row ∈ rows, row.decision = "APPROVED") →
      rows.find? (·.decision == "REJECTED") = none := by
    intro rows hrows
    rw [List.find?_eq_none]
    intro row hrow
    rw [hrows row hrow]
    decide
  obtain ⟨hstatus', hby', hat', happrovals | ⟨record, happrovals, hnew⟩⟩ |
    ⟨hstatus', happrovals, actor, now, hby', hat', hnew⟩ := ht.decisions
  · -- No decision is added.
    have hempty : env.newDecisions n a (s.decisionsOn id) = [] := by
      simp only [newDecisions, missingApprovals, hold happrovals, hby', hby]
      rfl
    rw [hempty]
    refine ⟨nofun, ?_, ⟨a, ?_, .refl a⟩, ?_⟩
    · rw [List.append_nil]
      exact (h.decided id cur hcur).1
    · rw [List.append_nil, toDomain_rowOf, hnone happroved, ← h.approvals hcur, ← happrovals]
      simp only [Option.map_none, ← hby, ← hat, ← hby', ← hat']
    · rw [List.append_nil]
      exact fun _ => happroved
  · -- One approval is added.
    have hone : env.newDecisions n a (s.decisionsOn id) = [env.approvalRow n a.actionId record] := by
      simp only [newDecisions, missingApprovals, happrovals, List.filter_append, hold rfl, hby', hby,
        List.filter_singleton, h.missing_new hcur hstatus hnew]
      rfl
    rw [hone]
    have hall : ∀ row ∈ s.decisionsOn id ++ [env.approvalRow n a.actionId record],
        row.decision = "APPROVED" := by
      intro row hrow
      rcases List.mem_append.mp hrow with hrow | hrow
      · exact happroved row hrow
      · rw [List.mem_singleton.mp hrow]
        rfl
    refine ⟨?_, h.unique_append hcur hstatus hnew, ?_, fun _ => hall⟩
    · intro row hrow
      rw [List.mem_singleton.mp hrow]
      rfl
    · have hperm := perm_approvalsOf_append (s.decisionsOn id) [env.approvalRow n a.actionId record]
      have hsingle : approvalsOf [env.approvalRow n a.actionId record] = [record] := by
        simp [approvalsOf, approvalRow]
      rw [hsingle, ← h.approvals hcur, ← happrovals] at hperm
      refine ⟨_, toDomain_rowOf a _, _, hperm, ?_⟩
      rw [hnone hall]
      simp only [Option.map_none, ← hby, ← hat, ← hby', ← hat']
  · -- One rejection is added.
    have hone : env.newDecisions n a (s.decisionsOn id) = [env.rejectionRow n a actor] := by
      simp only [newDecisions, missingApprovals, hold happrovals, hby',
        h.missing_new hcur hstatus hnew]
      rfl
    rw [hone]
    have hfind : (s.decisionsOn id ++ [env.rejectionRow n a actor]).find?
        (·.decision == "REJECTED") = some (env.rejectionRow n a actor) := by
      rw [List.find?_append, hnone happroved]
      rfl
    refine ⟨?_, h.unique_append hcur hstatus hnew, ?_, fun hne => absurd hstatus' hne⟩
    · intro row hrow
      rw [List.mem_singleton.mp hrow]
      rfl
    · have hperm := perm_approvalsOf_append (s.decisionsOn id) [env.rejectionRow n a actor]
      have hsingle : approvalsOf [env.rejectionRow n a actor] = [] := by
        simp [approvalsOf, rejectionRow]
      rw [hsingle, List.append_nil, ← h.approvals hcur, ← happrovals] at hperm
      refine ⟨_, toDomain_rowOf a _, _, hperm, ?_⟩
      rw [hfind]
      simp only [Option.map_some, rejectionRow, hat', Option.getD_some, aware_column, ← hby']

/-- The approvals of a record come back in the order of their timestamps. -/
theorem Represents.chronological (h : Represents env s S) {id : String} {a : PendingAction}
    (ha : S.record id = some a) :
    a.approvals.Pairwise fun r r' => r.approvedAt ≤ r'.approvedAt := by
  have hread := (h.decided id a ha).2
  rw [toDomain_rowOf, Except.ok.injEq] at hread
  rw [← hread]
  exact approvalsOf_chronological fun row hrow => h.columns row (List.mem_of_mem_filter hrow)

/-! ## The calls -/

/-- Adding decision rows of one action changes the decisions on that action only. -/
theorem decisionsOn_append {s s' : SqlStore} {rows : List DecisionRow} {actionId : String}
    (hs' : s'.decisions = s.decisions ++ rows) (hrows : ∀ row ∈ rows, row.actionId = actionId)
    (id : String) :
    s'.decisionsOn id = if id = actionId then s.decisionsOn id ++ rows else s.decisionsOn id := by
  rw [SqlStore.decisionsOn, hs', List.filter_append]
  split
  · rename_i hid
    have hall : rows.filter (·.actionId == id) = rows := by
      rw [List.filter_eq_self]
      intro row hrow
      rw [hrows row hrow, hid]
      exact beq_self_eq_true _
    rw [hall]
    rfl
  · rename_i hid
    have hnone : rows.filter (·.actionId == id) = [] := by
      rw [List.filter_eq_nil_iff]
      intro row hrow heq
      rw [hrows row hrow, beq_iff_eq] at heq
      exact hid heq.symm
    rw [hnone, List.append_nil]
    rfl

/-- A new decision row has a timestamp of the store's. -/
private theorem newDecisions_columns {n : Nat} {a : PendingAction} {existing : List DecisionRow} :
    ∀ row ∈ env.newDecisions n a existing, ∃ t, row.createdAt = env.column t := by
  intro row hrow
  rw [newDecisions, List.mem_append] at hrow
  rcases hrow with hrow | hrow
  · obtain ⟨⟨record, i⟩, -, rfl⟩ := List.mem_map.mp hrow
    exact ⟨record.approvedAt, rfl⟩
  · split at hrow
    · split at hrow
      · rw [List.mem_singleton] at hrow
        rw [hrow]
        exact ⟨_, rfl⟩
      · cases hrow
    · cases hrow

private theorem newDecisions_fresh {a : PendingAction} (hfresh : Fresh a) (n : Nat) :
    env.newDecisions n a [] = [] := by
  simp only [newDecisions, missingApprovals, hfresh.approvals, hfresh.notRejected.1]
  rfl

private theorem answers_insert (h : Represents env s S) {a : PendingAction} (hfresh : Fresh a) :
    ∃ S', Answers (.insert a) S (env.insert s a).1 S' ∧ Represents env (env.insert s a).2 S' := by
  unfold SqlEnvironment.insert
  rw [h.any_id]
  split
  · rename_i hid
    refine ⟨S, .insertRefused ?_, h⟩
    rintro ⟨hnone, -⟩
    rw [hnone] at hid
    cases hid
  · rename_i hid
    rw [Option.not_isSome_iff_eq_none] at hid
    split
    · rename_i hkey
      refine ⟨S, .insertRefused ?_, h⟩
      rintro ⟨-, hunused⟩
      exact (h.any_key _).mp hkey hunused
    · rename_i hkey
      have hunused : S.KeyUnused a.idempotencyKey := not_not.mp (mt (h.any_key _).mpr hkey)
      rw [newDecisions_fresh hfresh, if_neg (by simp [approversUnique])]
      refine ⟨_, .insert hid hunused hfresh.status, ?_⟩
      have hnew : ∀ {id b}, S.record id = some b → id ≠ a.actionId := by
        rintro id b hb rfl
        rw [hid] at hb
        cases hb
      have hdecisions : ∀ id, SqlStore.decisionsOn { s with
          pendingActions := s.pendingActions ++ [env.rowOf a], decisions := s.decisions ++ [],
          drawn := s.drawn + ([] : List DecisionRow).length } id = s.decisionsOn id := by
        intro id
        simp only [SqlStore.decisionsOn, List.append_nil]
      constructor
      · show ((s.pendingActions ++ [env.rowOf a]).map (·.actionId)).Nodup
        rw [List.map_append]
        refine List.nodup_append.mpr ⟨h.ids, List.nodup_singleton _, ?_⟩
        intro x hx y hy hxy
        obtain ⟨row, hrow, rfl⟩ := List.mem_map.mp hx
        obtain ⟨b, hb, -⟩ := h.record row hrow
        rw [List.map_singleton, List.mem_singleton] at hy
        exact hnew hb (hxy.trans hy)
      · intro id b hb
        simp only [ActionMap.insert] at hb
        split at hb
        · cases hb
          exact List.mem_append_right _ (List.mem_singleton_self _)
        · exact List.mem_append_left _ (h.row id b hb)
      · intro row hrow
        simp only [ActionMap.insert]
        rcases List.mem_append.mp hrow with hrow | hrow
        · obtain ⟨b, hb, heq⟩ := h.record row hrow
          exact ⟨b, by rw [if_neg (hnew hb), hb], heq⟩
        · rw [List.mem_singleton.mp hrow]
          exact ⟨a, if_pos rfl, rfl⟩
      · intro id b hb
        rw [hdecisions]
        simp only [ActionMap.insert] at hb
        split at hb
        · rename_i heq
          cases hb
          rw [heq, h.undecided _ hid]
          refine ⟨List.nodup_nil, ?_⟩
          rw [toDomain_rowOf]
          have happrovals := hfresh.approvals
          obtain ⟨hby, hat⟩ := hfresh.notRejected
          cases a
          simp only at happrovals hby hat
          subst happrovals hby hat
          rfl
        · exact h.decided id b hb
      · intro id hnone
        rw [hdecisions]
        simp only [ActionMap.insert] at hnone
        split at hnone
        · cases hnone
        · exact h.undecided id hnone
      · intro id b hb hstatus
        rw [hdecisions]
        simp only [ActionMap.insert] at hb
        split at hb
        · rename_i heq
          rw [heq, h.undecided _ hid]
          exact fun _ hrow => absurd hrow List.not_mem_nil
        · exact h.rejected id b hb hstatus
      · intro row hrow
        exact h.columns row (by simpa using hrow)
      · exact h.owner

theorem rowOf_sameUpToOrder {a b : PendingAction} (h : a.SameUpToOrder b) :
    env.rowOf b = env.rowOf a := by
  obtain ⟨l, hperm, rfl⟩ := h
  simp only [rowOf, hperm.length_eq]

/-- A conditional update changes the row of one action, to that of a record with the same id. -/
private theorem represents_put (h : Represents env s S) {cur a b : PendingAction}
    {new : List DecisionRow} {s' : SqlStore} {v : Nat}
    (hcur : S.record b.actionId = some cur) (hv : cur.version = v)
    (hkey : b.idempotencyKey = cur.idempotencyKey)
    (howned : b.status ∈ executionStatuses → S.owner b.idempotencyKey = some b.actionId)
    (hsame : a.SameUpToOrder b) (hstep : DecisionsStep env a (s.decisionsOn b.actionId) new)
    (hread : toDomain (env.rowOf a) (s.decisionsOn b.actionId ++ new) = .ok b)
    (hrows : s'.pendingActions = s.pendingActions.map fun row =>
      if row.actionId = a.actionId ∧ row.version = v then env.rowOf a else row)
    (hdecisions : s'.decisions = s.decisions ++ new)
    (hcolumns : ∀ row ∈ new, ∃ t, row.createdAt = env.column t)
    (hexecutions : ∀ key id,
      (∃ row ∈ s'.executions, row.idempotencyKey = key ∧ row.actionId = id) ↔
        ∃ row ∈ s.executions, row.idempotencyKey = key ∧ row.actionId = id) :
    Represents env s' (S.put b hcur hkey howned) := by
  have hrow : env.rowOf b = env.rowOf a := rowOf_sameUpToOrder hsame
  have hon := decisionsOn_append hdecisions hstep.action
  rw [← hsame.actionId] at hrows hon
  rw [← hrow] at hrows hread
  -- The version of the row with this id is the expected one, so the update is by id alone.
  have hupdated : s'.pendingActions = s.pendingActions.map fun row =>
      if row.actionId = b.actionId then env.rowOf b else row := by
    rw [hrows]
    refine List.map_congr_left fun row hmem => ?_
    by_cases hid : row.actionId = b.actionId
    · obtain ⟨c, hc, heq⟩ := h.record row hmem
      rw [hid, hcur] at hc
      cases hc
      have hversion : row.version = v := by rw [heq, ← hv]; rfl
      simp only [hid, hversion, and_self, if_true]
    · simp only [hid, false_and, if_false]
  constructor
  · have hids : s'.pendingActions.map (·.actionId) = s.pendingActions.map (·.actionId) := by
      rw [hupdated, List.map_map]
      refine List.map_congr_left fun row _ => ?_
      simp only [Function.comp]
      split
      · rename_i hid
        exact hid.symm
      · rfl
    rw [hids]
    exact h.ids
  · intro id c hc
    rw [hupdated, List.mem_map]
    simp only [ActionMap.put] at hc
    split at hc
    · rename_i hid
      cases hc
      have hmem := h.row _ _ hcur
      have hcid : (env.rowOf cur).actionId = b.actionId := S.record_id hcur
      exact ⟨_, hmem, if_pos hcid⟩
    · rename_i hid
      have hcid : (env.rowOf c).actionId ≠ b.actionId := by
        show c.actionId ≠ _
        rw [S.record_id hc]
        exact hid
      exact ⟨_, h.row id c hc, if_neg hcid⟩
  · intro row hmem
    rw [hupdated, List.mem_map] at hmem
    obtain ⟨old, hold, rfl⟩ := hmem
    simp only [ActionMap.put]
    split
    · exact ⟨b, if_pos rfl, rfl⟩
    · rename_i hid
      obtain ⟨c, hc, heq⟩ := h.record old hold
      exact ⟨c, hc, heq⟩
  · intro id c hc
    rw [hon]
    simp only [ActionMap.put] at hc
    split at hc
    · rename_i hid
      cases hc
      rw [if_pos hid, hid]
      exact ⟨hstep.unique, hread⟩
    · rename_i hid
      rw [if_neg hid]
      exact h.decided id c hc
  · intro id hnone
    rw [hon]
    simp only [ActionMap.put] at hnone
    split at hnone
    · cases hnone
    · rename_i hid
      rw [if_neg hid]
      exact h.undecided id hnone
  · intro id c hc hstatus
    rw [hon]
    simp only [ActionMap.put] at hc
    split at hc
    · rename_i hid
      cases hc
      rw [if_pos hid, hid]
      exact hstep.rejected (hsame.status ▸ hstatus)
    · rename_i hid
      rw [if_neg hid]
      exact h.rejected id c hc hstatus
  · intro row hmem
    rw [hdecisions, List.mem_append] at hmem
    rcases hmem with hmem | hmem
    · exact h.columns row hmem
    · exact hcolumns row hmem
  · intro key id
    rw [hexecutions]
    exact h.owner key id

private theorem answers_replace (h : Represents env s S) {a : PendingAction} {v : Nat}
    (hallowed : Allowed S (.replace a v)) :
    ∃ S', Answers (.replace a v) S (env.replace s a v).1 S' ∧
      Represents env (env.replace s a v).2 S' := by
  have hcurrent : s.pendingActions.any (fun row => row.actionId == a.actionId &&
      row.version == v) = true ↔ ∃ cur, S.record a.actionId = some cur ∧ cur.version = v := by
    rw [List.any_eq_true]
    constructor
    · rintro ⟨row, hrow, hmatch⟩
      rw [Bool.and_eq_true, beq_iff_eq, beq_iff_eq] at hmatch
      obtain ⟨cur, hcur, rfl⟩ := h.record row hrow
      exact ⟨cur, by rw [← hmatch.1, hcur], hmatch.2⟩
    · rintro ⟨cur, hcur, hv⟩
      exact ⟨_, h.row _ _ hcur, by simp [rowOf, S.record_id hcur, hv]⟩
  unfold SqlEnvironment.replace
  split
  · rename_i hnext
    exact ⟨S, .replaceRefused fun _ _ _ => hnext, h⟩
  · rename_i hnext
    rw [not_not] at hnext
    split
    · rename_i hconflict
      refine ⟨S, .replaceRefused fun cur hcur hv => ?_, h⟩
      exact absurd (hcurrent.mpr ⟨cur, hcur, hv⟩) hconflict
    · rename_i hconflict
      obtain ⟨cur, hcur, hv⟩ := hcurrent.mp (not_not.mp hconflict)
      obtain ⟨⟨granted, ht⟩, howned⟩ := hallowed cur hcur hv
      have hkey := ht.idempotencyKey
      have hstep := h.decisionsStep hcur ht s.drawn
      obtain ⟨b, hread, hsame⟩ := hstep.read
      -- The key is that of the record already there, so no other row has it.
      have hunique : s.pendingActions.any (fun row => row.actionId != a.actionId &&
          row.idempotencyKey == a.idempotencyKey) = false := by
        rw [List.any_eq_false]
        intro row hrow hother
        rw [Bool.and_eq_true, bne_iff_ne, beq_iff_eq] at hother
        obtain ⟨c, hc, rfl⟩ := h.record row hrow
        exact hother.1 (S.key_injective hc hcur (hother.2.trans hkey))
      rw [hunique, if_neg Bool.false_ne_true]
      simp only [hstep.unique, not_true_eq_false, if_false]
      rw [← hsame.actionId] at hcur howned hstep hread
      rw [← hsame.status, ← hsame.idempotencyKey] at howned
      have hkeyb : b.idempotencyKey = cur.idempotencyKey := hsame.idempotencyKey.trans hkey
      split
      · refine ⟨_, .replace hcur hkeyb howned hv hnext hsame, ?_⟩
        refine represents_put h hcur hv hkeyb howned hsame hstep hread rfl ?_
          newDecisions_columns fun _ _ => Iff.rfl
        rw [hsame.actionId]
      · rename_i hexec
        rw [not_not, ← hsame.status] at hexec
        -- The claim that `owned` speaks of is the execution row asked for.
        obtain ⟨row, hrow, -, hrowid⟩ := (h.owner _ _).mp (howned hexec)
        have hclaimed : s.executions.any (·.actionId == a.actionId) = true :=
          List.any_eq_true.mpr ⟨row, hrow, by rw [hrowid, hsame.actionId]; exact beq_self_eq_true _⟩
        rw [hclaimed]
        simp only [not_true_eq_false, if_false]
        refine ⟨_, .replace hcur hkeyb howned hv hnext hsame, ?_⟩
        refine represents_put h hcur hv hkeyb howned hsame hstep hread rfl ?_
          newDecisions_columns fun key id => ?_
        · rw [hsame.actionId]
        · constructor
          · rintro ⟨row', hrow', hk, hi⟩
            obtain ⟨old, hold, rfl⟩ := List.mem_map.mp hrow'
            refine ⟨old, hold, ?_, ?_⟩
            · rw [← hk]; split <;> rfl
            · rw [← hi]; split <;> rfl
          · rintro ⟨old, hold, hk, hi⟩
            refine ⟨_, List.mem_map_of_mem hold, ?_, ?_⟩
            · rw [← hk]; split <;> rfl
            · rw [← hi]; split <;> rfl

private theorem answers_claim (h : Represents env s S) {key id : String}
    (hallowed : Allowed S (.claimIdempotency key id)) :
    ∃ S', Answers (.claimIdempotency key id) S (.ok (env.claimIdempotency s key id).1) S' ∧
      Represents env (env.claimIdempotency s key id).2 S' := by
  obtain ⟨a, ha, hkey⟩ := hallowed
  have hrow : s.pendingActions.any (fun row => row.actionId == id && row.idempotencyKey == key) =
      true :=
    List.any_eq_true.mpr ⟨_, h.row id a ha, by simp [rowOf, S.record_id ha, hkey]⟩
  have hclaimed : s.executions.any (fun row => row.actionId == id || row.idempotencyKey == key) =
      true ↔ S.owner key ≠ none := by
    rw [List.any_eq_true]
    constructor
    · rintro ⟨row, hmem, hmatch⟩ hnone
      have howner := (h.owner _ _).mpr ⟨row, hmem, rfl, rfl⟩
      obtain ⟨c, hc, hckey⟩ := S.owner_key howner
      rw [Bool.or_eq_true, beq_iff_eq, beq_iff_eq] at hmatch
      rcases hmatch with hid | hk
      · -- The action of the row is this one, so its key is this key.
        rw [hid, ha] at hc
        cases hc
        rw [← hckey, hkey, hnone] at howner
        cases howner
      · rw [hk, hnone] at howner
        cases howner
    · intro hsome
      obtain ⟨id', hid'⟩ := Option.ne_none_iff_exists'.mp hsome
      obtain ⟨row, hmem, hk, -⟩ := (h.owner _ _).mp hid'
      exact ⟨row, hmem, by simp [hk]⟩
  unfold SqlEnvironment.claimIdempotency
  rw [hrow]
  simp only [not_true_eq_false, if_false]
  split
  · rename_i hany
    exact ⟨S, .claimRefused (hclaimed.mp hany), h⟩
  · rename_i hany
    have hfree : S.owner key = none := not_not.mp (mt hclaimed.mpr hany)
    refine ⟨_, .claim ha hkey hfree,
      { h with owner := fun k i => ?_ }⟩
    simp only [ActionMap.claim, List.mem_append, List.mem_singleton]
    split
    · rename_i hk
      constructor
      · rintro ⟨⟩
        exact ⟨_, .inr rfl, hk.symm, rfl⟩
      · rintro ⟨row, hmem | rfl, hrowkey, rfl⟩
        · have howner := (h.owner _ _).mpr ⟨row, hmem, rfl, rfl⟩
          rw [hrowkey, hk, hfree] at howner
          cases howner
        · rfl
    · rename_i hk
      rw [h.owner]
      constructor
      · rintro ⟨row, hmem, hrowkey, hrowid⟩
        exact ⟨row, .inl hmem, hrowkey, hrowid⟩
      · rintro ⟨row, hmem | rfl, hrowkey, hrowid⟩
        · exact ⟨row, hmem, hrowkey, hrowid⟩
        · exact absurd hrowkey.symm hk

/-- The record a row stands for. -/
private theorem mapM_toDomain (h : Represents env s S) {rows : List PendingActionRow}
    (hrows : ∀ row ∈ rows, row ∈ s.pendingActions) :
    ∃ l, (rows.mapM fun row => toDomain row (s.decisionsOn row.actionId)) = .ok l ∧
      l.map (·.actionId) = rows.map (·.actionId) ∧
      ∀ a, a ∈ l ↔ ∃ row ∈ rows, S.record row.actionId = some a := by
  induction rows with
  | nil => exact ⟨[], rfl, rfl, fun a => by simp⟩
  | cons row rows ih =>
      obtain ⟨l, hl, hids, hmem⟩ := ih fun r hr => hrows r (List.mem_cons_of_mem _ hr)
      obtain ⟨a, ha, hrow⟩ := h.record row (hrows row List.mem_cons_self)
      have hread := (h.decided _ a ha).2
      rw [← hrow] at hread
      refine ⟨a :: l, ?_, ?_, fun b => ?_⟩
      · rw [List.mapM_cons, hread, hl]
        rfl
      · rw [List.map_cons, List.map_cons, hids, S.record_id ha]
      · simp only [List.mem_cons, hmem, exists_eq_or_imp, ha, Option.some.injEq]
        rw [eq_comm]

private theorem answers_listActions (h : Represents env s S) :
    ∃ l, SqlEnvironment.listActions s = .ok l ∧ Answers .listActions S (.ok l) S := by
  have hperm := List.perm_insertionSort listedBefore s.pendingActions
  obtain ⟨l, hl, hids, hmem⟩ := mapM_toDomain h
    fun row (hrow : row ∈ s.pendingActions.insertionSort listedBefore) => hperm.mem_iff.mp hrow
  refine ⟨l, hl, .listActions ?_ fun a => ?_⟩
  · rw [hids]
    exact ((hperm.map _).nodup_iff).mpr h.ids
  · rw [hmem]
    constructor
    · rintro ⟨row, -, ha⟩
      rw [S.record_id ha]
      exact ha
    · intro ha
      exact ⟨_, hperm.mem_iff.mpr (h.row _ _ ha), ha⟩

end Represented

/-- `SqlAlchemyApprovalRepository` is lawful. -/
def sqlAlchemy (env : SqlEnvironment) : LawfulRepository SqlStore where
  handle := env.repository
  Represents := Represents env
  answers := by
    intro s S o h hallowed
    cases o with
    | insert a => exact answers_insert h hallowed
    | get id =>
        refine ⟨S, ?_, h⟩
        show Answers (.get id) S (SqlEnvironment.get s id) S
        rw [h.get]
        exact .get
    | replace a v => exact answers_replace h hallowed
    | claimIdempotency key id => exact answers_claim h hallowed
    | listActions =>
        obtain ⟨l, hl, hanswers⟩ := answers_listActions h
        refine ⟨S, ?_, h⟩
        show Answers .listActions S (SqlEnvironment.listActions s) S
        rw [hl]
        exact hanswers

end SqlEnvironment

end BhDic.Approvals
