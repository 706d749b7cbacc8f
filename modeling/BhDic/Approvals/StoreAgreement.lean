import BhDic.Approvals.Invariant
import BhDic.Approvals.Refinement

/-!
# The two stores agree

The same sequence of calls over the in-memory repository and over the database: every call succeeds
over both or fails over both, and afterwards both find the same actions, up to the order of their
approvals. The database returns approvals in the order of their instants. The memory keeps them in
the order they came, which is the same order as long as the clock never steps back;
`clockStepsBack` is a run in which it does.
-/

namespace BhDic.Approvals

open BhDic.Library BhDic.Policies BhDic.Python
open BhDic.Library.Prog

/-! ## One call over one repository -/

/-- What a program of the service raises or returns over `R`, and the store it leaves. -/
def LawfulRepository.run {σ α : Type} (R : LawfulRepository σ) (p : Approval α) (s : σ) :
    Except Exn α × σ :=
  Prog.run (E := repositoryEffect) R.handle p s

section Expire

variable {σ α β : Type} {R : LawfulRepository σ} {s : σ} {S : ActionMap}

theorem LawfulRepository.run_bind_ok {p : Approval α} {f : α → Approval β} {s' : σ} {a : α}
    (hp : R.run p s = (.ok a, s')) : R.run (p.bind f) s = R.run (f a) s' :=
  Prog.run_bind_ok (E := repositoryEffect) R.handle hp

theorem run_repository (o : RepositoryOp) (s : σ) : R.run (repository o) s = R.handle o s := by
  show Prog.run (E := repositoryEffect) R.handle (Prog.ofExcept (R.handle o s).1) (R.handle o s).2
    = R.handle o s
  generalize R.handle o s = outcome
  obtain ⟨r, s'⟩ := outcome
  cases r <;> rfl

/-- A record that is found is the stored one. -/
theorem run_get (hrep : R.Represents s S) (id : String) :
    ∃ s', R.run (repository (.get id)) s = (.ok (S.record id), s') ∧ R.Represents s' S := by
  obtain ⟨S', hanswers, hrep'⟩ := R.answers (o := .get id) hrep trivial
  have hcall := run_repository (R := R) (.get id) s
  generalize R.handle (.get id) s = outcome at hcall hanswers hrep'
  obtain ⟨answer, s'⟩ := outcome
  cases hanswers
  exact ⟨s', hcall, hrep'⟩

/-- A transition of a stored record is stored, as long as it begins no execution. -/
theorem run_replaceWith (hrep : R.Represents s S) {granted : Grants} {a b : PendingAction}
    (ha : S.record a.actionId = some a) (htransition : Transition granted a b)
    (hstatus : b.status ∉ executionStatuses) :
    ∃ s' S', R.run (replaceWith a b) s = (.ok b, s') ∧ R.Represents s' S' ∧
      S'.owner = S.owner ∧ (∀ id ≠ a.actionId, S'.record id = S.record id) ∧
      ∃ kept, S'.record a.actionId = some kept ∧ b.SameUpToOrder kept := by
  have hid := htransition.actionId
  have hallowed : Allowed S (.replace b a.version) := by
    intro cur hcur _
    rw [hid, ha] at hcur
    cases hcur
    exact ⟨⟨granted, htransition⟩, fun hexecution => absurd hexecution hstatus⟩
  obtain ⟨S', hanswers, hrep'⟩ := R.answers hrep hallowed
  have hcall := run_repository (R := R) (.replace b a.version) s
  generalize R.handle (.replace b a.version) s = outcome at hcall hanswers hrep'
  obtain ⟨r, s'⟩ := outcome
  cases hanswers with
  | @replace _ _ kept _ _ hcur hkey howned hv hnext hsame =>
      have hkept : kept.actionId = a.actionId := hsame.actionId.trans hid
      refine ⟨s', _, R.run_bind_ok hcall, hrep', rfl, fun id hne => ?_, kept, ?_, hsame⟩
      · apply if_neg
        rw [hkept]
        exact hne
      · rw [← hkept]
        exact if_pos rfl
  | replaceRefused hrefused =>
      exact absurd htransition.version (hrefused a (by rw [hid]; exact ha) rfl)

/-- What `expire_pending` makes of a record. -/
def expireDue (now : Instant) (a : PendingAction) : PendingAction :=
  if a.due now then a.expire else a

theorem expireDue_sameUpToOrder {a b : PendingAction} (h : a.SameUpToOrder b) (now : Instant) :
    (expireDue now a).SameUpToOrder (expireDue now b) := by
  obtain ⟨l, hperm, rfl⟩ := h
  unfold expireDue PendingAction.due
  dsimp only
  split
  · exact ⟨l, hperm, rfl⟩
  · exact ⟨l, hperm, rfl⟩

/-- One round of the loop changes one record, if it is due. -/
theorem run_expireIfDue (hrep : R.Represents s S) {a : PendingAction}
    (ha : S.record a.actionId = some a) (now : Instant) :
    ∃ s' S', R.run (expireIfDue now a) s = (.ok (), s') ∧ R.Represents s' S' ∧
      S'.owner = S.owner ∧ (∀ id ≠ a.actionId, S'.record id = S.record id) ∧
      ∃ b, S'.record a.actionId = some b ∧ (expireDue now a).SameUpToOrder b := by
  unfold expireIfDue expireDue
  split
  · rename_i hdue
    have hactive : a.status ∈ activeStatuses := by
      rw [PendingAction.due, Bool.and_eq_true, decide_eq_true_eq] at hdue
      exact hdue.1
    have hstatus : a.expire.status ∉ executionStatuses := by
      simp [PendingAction.expire, executionStatuses]
    have hexpire : Transition (fun _ _ _ => False) a a.expire := .expire hactive
    obtain ⟨s', S', hreplace, hrep', howner, hothers, kept⟩ :=
      run_replaceWith hrep ha hexpire hstatus
    exact ⟨s', S', R.run_bind_ok hreplace, hrep', howner, hothers, kept⟩
  · exact ⟨s, S, rfl, hrep, rfl, fun _ _ => rfl, a, ha, .refl a⟩

/-- The loop does the same to every record it goes through, in whatever order. -/
theorem run_expireAll (now : Instant) {actions : List PendingAction} (hrep : R.Represents s S)
    (hstored : ∀ a ∈ actions, S.record a.actionId = some a)
    (hnodup : (actions.map (·.actionId)).Nodup) :
    ∃ s' S', R.run (forEach (expireIfDue now) actions) s = (.ok (), s') ∧ R.Represents s' S' ∧
      S'.owner = S.owner ∧
      (∀ id, id ∉ actions.map (·.actionId) → S'.record id = S.record id) ∧
      ∀ a ∈ actions, ∃ b, S'.record a.actionId = some b ∧
        (expireDue now a).SameUpToOrder b := by
  induction actions generalizing s S with
  | nil => exact ⟨s, S, rfl, hrep, rfl, fun _ _ => rfl, fun _ h => absurd h List.not_mem_nil⟩
  | cons a actions ih =>
      rw [List.map_cons, List.nodup_cons] at hnodup
      have ha := hstored a List.mem_cons_self
      obtain ⟨s₁, S₁, hrun₁, hrep₁, howner₁, hsame₁, b, hb, hab⟩ := run_expireIfDue hrep ha now
      have hstored₁ : ∀ c ∈ actions, S₁.record c.actionId = some c := by
        intro c hc
        rw [hsame₁]
        · exact hstored c (List.mem_cons_of_mem _ hc)
        · intro hid
          exact hnodup.1 (hid ▸ List.mem_map_of_mem hc)
      obtain ⟨s₂, S₂, hrun₂, hrep₂, howner₂, hsame₂, hall₂⟩ := ih hrep₁ hstored₁ hnodup.2
      refine ⟨s₂, S₂, (R.run_bind_ok hrun₁).trans hrun₂, hrep₂, howner₂.trans howner₁, ?_, ?_⟩
      · intro id hid
        rw [List.map_cons, List.mem_cons, not_or] at hid
        rw [hsame₂ id hid.2, hsame₁ id hid.1]
      · intro c hc
        rcases List.mem_cons.mp hc with rfl | hc
        · exact ⟨b, by rw [hsame₂ _ hnodup.1, hb], hab⟩
        · exact hall₂ c hc

/-- `expire_pending` expires what is due and leaves the rest. -/
theorem run_expirePending (hrep : R.Represents s S) {r : Readings} {now : Instant}
    (hnow : r.now = .ok now) :
    ∃ n s' S', R.run (expirePending r) s = (.ok n, s') ∧ R.Represents s' S' ∧
      S'.owner = S.owner ∧
      ∀ id, Option.Rel PendingAction.SameUpToOrder ((S.record id).map (expireDue now))
        (S'.record id) := by
  obtain ⟨S₀, hlist, hrep₀⟩ := R.answers (o := .listActions) hrep trivial
  have hcall := run_repository (R := R) .listActions s
  generalize R.handle .listActions s = listed at hcall hlist hrep₀
  obtain ⟨answer, s₀⟩ := listed
  have hclock : R.run (Prog.ofExcept r.now) s = (.ok now, s) := by
    rw [hnow]
    rfl
  cases hlist with
  | @listActions _ actions hnodup hmem =>
      obtain ⟨s', S', hrun, hrep', howner, hsame, hall⟩ :=
        run_expireAll now hrep₀ (fun a ha => (hmem a).mp ha) hnodup
      have hlisted : R.run (expirePending r) s = (.ok (actions.countP (·.due now)), s') := by
        refine (R.run_bind_ok hclock).trans ?_
        refine (R.run_bind_ok hcall).trans ?_
        exact R.run_bind_ok hrun
      refine ⟨_, s', S', hlisted, hrep', howner, fun id => ?_⟩
      cases ha : S.record id with
      | none =>
          rw [hsame, ha]
          · exact .none
          · intro hid
            obtain ⟨a, ha', rfl⟩ := List.mem_map.mp hid
            rw [(hmem a).mp ha'] at ha
            cases ha
      | some a =>
          have hid := S.record_id ha
          obtain ⟨b, hb, hab⟩ := hall a ((hmem a).mpr (by rw [hid, ha]))
          rw [← hid, hb]
          exact .some hab

end Expire

/-! ## One call over two repositories -/

section Alike

variable {σ τ : Type} {R : LawfulRepository σ} {R' : LawfulRepository τ} {s : σ} {t : τ}
  {S T : ActionMap} {svc : ApprovalService}

/-- The two stores represent similar ones, of which the two runs of a call know the truth. -/
def SideBySide (R : LawfulRepository σ) (R' : LawfulRepository τ) (s : σ) (k : Knowledge) (t : τ)
    (l : Knowledge) : Prop :=
  ∃ S T, R.Represents s S ∧ R'.Represents t T ∧ S.Similar T ∧ k.Sound S ∧ l.Sound T

/-- A call that both runs may make is answered alike and leaves the stores similar. -/
theorem SideBySide.step {k l : Knowledge} {o o' : RepositoryOp} (h : SideBySide R R' s k t l)
    (hk : k.permits o) (hl : l.permits o') (ho : SameCall o o') :
    Promised o (R.handle o s).1 ∧ Promised o' (R'.handle o' t).1 ∧
      Alike (SameValue o o') (R.handle o s).1 (R'.handle o' t).1 ∧
      SideBySide R R' (R.handle o s).2 (k.learn o (R.handle o s).1) (R'.handle o' t).2
        (l.learn o' (R'.handle o' t).1) := by
  obtain ⟨S, T, hrep, hrep', hST, hkS, hlT⟩ := h
  obtain ⟨S', hS, hrepS⟩ := R.answers hrep (hkS.allowed hk)
  obtain ⟨T', hT, hrepT⟩ := R'.answers hrep' (hlT.allowed hl)
  obtain ⟨halike, hsimilar⟩ := Answers.similar hST ho hS hT
  have hlearnS := (hkS.step hS (hkS.justified hk)).learn hS
  have hlearnT := (hlT.step hT (hlT.justified hl)).learn hT
  exact ⟨hS.promised, hT.promised, halike, S', T', hrepS, hrepT, hsimilar, hlearnS, hlearnT⟩

/-- The results of the same call over the two repositories, and the stores afterwards. -/
def RunsAlike (R : LawfulRepository σ) (R' : LawfulRepository τ) (s : σ) (t : τ)
    {α : Type} (p : Approval α) : Prop :=
  (R.run p s).1.isOk = (R'.run p t).1.isOk ∧
    ∃ S T, R.Represents (R.run p s).2 S ∧ R'.Represents (R'.run p t).2 T ∧ S.Similar T

theorem Alike.isOk {α β : Type} {V : α → β → Prop} {x : Except Exn α} {y : Except Exn β}
    (h : Alike V x y) : x.isOk = y.isOk := by
  cases x <;> cases y
  · rfl
  · exact h.elim
  · exact h.elim
  · rfl

/-- A method that goes on in step with itself runs alike over similar stores. -/
theorem InStep.runsAlike {call : ServiceCall} {V : ServiceResult → ServiceResult → Prop}
    (hinStep : InStep V (call.body svc) (call.body svc)) (hrep : R.Represents s S)
    (hrep' : R'.Represents t T) (hST : S.Similar T) : RunsAlike R R' s t (call.body svc) := by
  have hstart : SideBySide R R' s call.knowledge t call.knowledge :=
    ⟨S, T, hrep, hrep', hST, call.knowledge_sound S, call.knowledge_sound T⟩
  have hguarded := body_guarded svc call
  have hrun : Alike V (R.run (call.body svc) s).1 (R'.run (call.body svc) t).1 ∧
      ∃ k l, SideBySide R R' (R.run (call.body svc) s).2 k (R'.run (call.body svc) t).2 l :=
    run_related (E := repositoryEffect) (D := lifecycle) (M := sameCalls)
      (fun _ _ _ _ _ _ h hk hl ho => h.step hk hl ho) hinStep hstart hguarded hguarded
  obtain ⟨halike, k, l, S', T', hS, hT, hsimilar, -, -⟩ := hrun
  exact ⟨halike.isOk, S', T', hS, hT, hsimilar⟩

/-- `expire_pending` runs alike, although the two listings come in different orders. -/
theorem expirePending_runsAlike (r : Readings) (hrep : R.Represents s S)
    (hrep' : R'.Represents t T) (hST : S.Similar T) :
    RunsAlike R R' s t ((ServiceCall.expirePending r).body svc) := by
  cases hnow : r.now with
  | error e =>
      have hraise : (ServiceCall.expirePending r).body svc = .throw e := by
        show ((Prog.ofExcept r.now).bind _).bind _ = _
        rw [hnow]
        rfl
      rw [hraise]
      exact ⟨rfl, S, T, hrep, hrep', hST⟩
  | ok now =>
      obtain ⟨n, s', S', hrun, hS, hownerS, hrecordS⟩ := run_expirePending hrep hnow
      obtain ⟨m, t', T', hrun', hT, hownerT, hrecordT⟩ := run_expirePending hrep' hnow
      have hbody : R.run ((ServiceCall.expirePending r).body svc) s = (.ok (.count n), s') :=
        R.run_bind_ok hrun
      have hbody' : R'.run ((ServiceCall.expirePending r).body svc) t = (.ok (.count m), t') :=
        R'.run_bind_ok hrun'
      unfold RunsAlike
      rw [hbody, hbody']
      refine ⟨rfl, S', T', hS, hT, fun id => ?_, fun key => ?_⟩
      · have h := hST.record id
        have hs := hrecordS id
        have ht := hrecordT id
        revert h hs ht
        generalize S.record id = a, T.record id = b, S'.record id = a', T'.record id = b'
        intro h hs ht
        cases h with
        | none =>
            cases hs
            cases ht
            exact .none
        | some hab =>
            cases hs with
            | some ha =>
                cases ht with
                | some hb =>
                    exact .some ((ha.symm.trans (expireDue_sameUpToOrder hab now)).trans hb)
      · rw [hownerS, hownerT, hST.owner]

/-- **Every call runs alike over similar stores.** -/
theorem body_runsAlike (svc : ApprovalService) (call : ServiceCall) (hrep : R.Represents s S)
    (hrep' : R'.Represents t T) (hST : S.Similar T) : RunsAlike R R' s t (call.body svc) := by
  have hpure : ∀ {α : Type} {V : α → α → Prop} {f : α → ServiceResult} {p : Approval α},
      InStep V p p → InStep (fun _ _ => True) (p.bind fun a => .pure (f a))
        (p.bind fun a => .pure (f a)) :=
    fun h => h.bind fun _ _ _ => .pure trivial
  cases call with
  | prepare => exact InStep.runsAlike (hpure inStep_prepare) hrep hrep' hST
  | get => exact InStep.runsAlike (hpure (inStep_get _)) hrep hrep' hST
  | confirm => exact InStep.runsAlike (hpure inStep_confirm) hrep hrep' hST
  | approve => exact InStep.runsAlike (hpure inStep_approve) hrep hrep' hST
  | reject => exact InStep.runsAlike (hpure inStep_reject) hrep hrep' hST
  | beginExecution => exact InStep.runsAlike (hpure inStep_beginExecution) hrep hrep' hST
  | completeSuccess => exact InStep.runsAlike (hpure inStep_completeSuccess) hrep hrep' hST
  | completeFailure => exact InStep.runsAlike (hpure inStep_completeFailure) hrep hrep' hST
  | reconcile => exact InStep.runsAlike (hpure inStep_reconcile) hrep hrep' hST
  | expirePending r => exact expirePending_runsAlike r hrep hrep' hST

/-- The store after some calls, one after another. -/
def LawfulRepository.after (R : LawfulRepository σ) (svc : ApprovalService)
    (calls : List ServiceCall) (s : σ) : σ :=
  runAll (approvalSystem R svc) R.handle calls s

/-- Similar stores stay similar. -/
theorem after_similar (svc : ApprovalService) (calls : List ServiceCall) (hrep : R.Represents s S)
    (hrep' : R'.Represents t T) (hST : S.Similar T) :
    ∃ S' T', R.Represents (R.after svc calls s) S' ∧ R'.Represents (R'.after svc calls t) T' ∧
      S'.Similar T' := by
  induction calls generalizing s t S T with
  | nil => exact ⟨S, T, hrep, hrep', hST⟩
  | cons call calls ih =>
      obtain ⟨-, S', T', hS, hT, hsimilar⟩ := body_runsAlike svc call hrep hrep' hST
      exact ih hS hT hsimilar

end Alike

/-! ## The order of the approvals -/

/-- The approvals stand in the order of their instants. -/
def PendingAction.Chronological (a : PendingAction) : Prop :=
  a.approvals.Pairwise fun r r' => r.approvedAt ≤ r'.approvedAt

/-- The same records up to the order of approvals recorded at the same instant. -/
def PendingAction.SameUpToTies (a b : PendingAction) : Prop :=
  a.SameUpToOrder b ∧ a.approvals.map (·.approvedAt) = b.approvals.map (·.approvedAt)

theorem PendingAction.SameUpToOrder.upToTies {a b : PendingAction} (h : a.SameUpToOrder b)
    (ha : a.Chronological) (hb : b.Chronological) : a.SameUpToTies b := by
  have hsorted : (a.approvals.map (·.approvedAt)).Pairwise (· ≤ ·) := List.pairwise_map.mpr ha
  have hsorted' : (b.approvals.map (·.approvedAt)).Pairwise (· ≤ ·) := List.pairwise_map.mpr hb
  exact ⟨h, List.Perm.eq_of_pairwise' hsorted hsorted' (h.perm.symm.map _)⟩

/-- The approvals stand in the order of their instants, and none is later than `now`. -/
def PendingAction.ChronologicalUntil (now : Instant) (a : PendingAction) : Prop :=
  a.Chronological ∧ ∀ record ∈ a.approvals, record.approvedAt ≤ now

/-- A transition that grants approvals at `now` only keeps them in order. -/
theorem Transition.chronological {granted : Grants} {a b : PendingAction} {now : Instant}
    (ht : Transition granted a b)
    (hgranted : ∀ id functionId record, granted id functionId record → record.approvedAt = now)
    (ha : a.ChronologicalUntil now) : b.ChronologicalUntil now := by
  cases ht with
  | approve record _ _ _ _ _ _ _ hg =>
      have hnow := hgranted _ _ _ hg
      constructor
      · refine List.pairwise_append.mpr ⟨ha.1, List.pairwise_singleton _ _, fun r hr r' hr' => ?_⟩
        rw [List.mem_singleton.mp hr', hnow]
        exact ha.2 r hr
      · intro r hr
        rcases List.mem_append.mp hr with hr | hr
        · exact ha.2 r hr
        · rw [List.mem_singleton.mp hr, hnow]
  | _ => exact ha

/-- A record in memory was there before the call, or is the one the call brought. -/
theorem inMemoryRepository_get? {o : RepositoryOp} {s : InMemoryStore} {id : String}
    {a : PendingAction} (ha : (inMemoryRepository o s).2.actions.get? id = some a) :
    s.actions.get? id = some a ∨ o = .insert a ∨
      ∃ cur, o = .replace a cur.version ∧ s.actions.get? a.actionId = some cur := by
  cases o with
  | get | listActions => exact .inl ha
  | claimIdempotency key owner =>
      simp only [inMemoryRepository, InMemoryStore.claimIdempotency] at ha
      split at ha <;> exact .inl ha
  | insert b =>
      simp only [inMemoryRepository, InMemoryStore.insert] at ha
      split at ha
      · exact .inl ha
      · split at ha
        · exact .inl ha
        · rw [Dict.get?_set] at ha
          split at ha
          · cases ha
            exact .inr (.inl rfl)
          · exact .inl ha
  | replace b v =>
      simp only [inMemoryRepository, InMemoryStore.replace] at ha
      split at ha
      · exact .inl ha
      · rename_i cur hcur
        split at ha
        · exact .inl ha
        · rename_i hversion
          split at ha
          · exact .inl ha
          · rw [Dict.get?_set] at ha
            split at ha
            · cases ha
              exact .inr (.inr ⟨cur, by rw [not_not.mp hversion], hcur⟩)
            · exact .inl ha

/-- Every record in memory has its approvals in order, none later than `now`. -/
def InMemoryStore.ChronologicalUntil (now : Instant) (s : InMemoryStore) : Prop :=
  ∀ id a, s.actions.get? id = some a → a.ChronologicalUntil now

/-- A call whose approvals, if any, are given at `now` keeps the memory in order. -/
theorem body_chronological {svc : ApprovalService} {s : InMemoryStore} {S : ActionMap}
    {now : Instant} (call : ServiceCall) (hrep : inMemory.Represents s S)
    (hgranted : ∀ id functionId record, call.knowledge.grants id functionId record →
      record.approvedAt = now)
    (hs : s.ChronologicalUntil now) :
    (inMemory.run (call.body svc) s).2.ChronologicalUntil now := by
  -- What holds at each repository call; the grants are those the call started with.
  let I : InMemoryStore → Knowledge → Prop := fun s k =>
    (∃ S, inMemory.Represents s S ∧ k.Sound S) ∧ s.ChronologicalUntil now ∧
      k.grants = call.knowledge.grants
  have hstep : ∀ s k o, I s k → lifecycle.permits k o →
      lifecycle.promises o (inMemory.handle o s).1 ∧
        I (inMemory.handle o s).2 (lifecycle.learn k o (inMemory.handle o s).1) := by
    intro s k o ⟨⟨S, hrep, hk⟩, hs, hgrants⟩ hpermits
    obtain ⟨S', hrep', hstep⟩ := exec_step hrep hk hpermits (.inl rfl)
    refine ⟨hstep.promised, ⟨S', hrep', hstep.learned⟩, fun id a ha => ?_, ?_⟩
    · rcases inMemoryRepository_get? ha with hold | rfl | ⟨cur, rfl, hcur⟩
      · exact hs id a hold
      · have hfresh : Fresh a := hpermits
        refine ⟨?_, ?_⟩
        · rw [PendingAction.Chronological, hfresh.approvals]
          exact List.Pairwise.nil
        · rw [hfresh.approvals]
          exact fun _ hr => absurd hr List.not_mem_nil
      · have hrecord : S.record a.actionId = some cur := by
          rw [← hrep.record]
          exact hcur
        have hreplace : k.permits (.replace a cur.version) := hpermits
        have htransition := hk.justified hreplace cur hrecord rfl
        rw [hgrants] at htransition
        exact htransition.chronological hgranted (hs _ _ hcur)
    · exact (k.learn_grants o _).trans hgrants
  have hstart : I s call.knowledge := ⟨⟨S, hrep, call.knowledge_sound S⟩, hs, rfl⟩
  obtain ⟨k, ⟨-, hend, -⟩, -⟩ := run_guarded hstep hstart (body_guarded svc call)
  exact hend

/-- When a call gives its approval, if it is one. -/
def ServiceCall.approvedAt : ServiceCall → Option Instant
  | .approve _ _ _ r => r.now.toOption
  | _ => none

theorem ServiceCall.grants_approvedAt {call : ServiceCall} {id functionId : String}
    {record : ApprovalRecord} (h : call.knowledge.grants id functionId record) :
    call.approvedAt = some record.approvedAt := by
  cases call with
  | approve actionId approverId roles r =>
      obtain ⟨-, -, hnow, -⟩ := h
      rw [ServiceCall.approvedAt, hnow]
      rfl
  | _ => exact h.elim

/-- The clock readings of the approvals never decrease. -/
def ClockInOrder (calls : List ServiceCall) : Prop :=
  (calls.filterMap (·.approvedAt)).Pairwise (· ≤ ·)

/-- While the clock does not step back, the memory keeps the approvals in order. -/
theorem after_chronological (svc : ApprovalService) {s : InMemoryStore} {S : ActionMap}
    {now : Instant} {calls : List ServiceCall} (hrep : inMemory.Represents s S)
    (hclock : (now :: calls.filterMap (·.approvedAt)).Pairwise (· ≤ ·))
    (hs : s.ChronologicalUntil now) {id : String} {a : PendingAction}
    (ha : (inMemory.after svc calls s).actions.get? id = some a) : a.Chronological := by
  induction calls generalizing s S now with
  | nil => exact (hs id a ha).1
  | cons call calls ih =>
      obtain ⟨-, S', -, hrep', -⟩ := body_runsAlike svc call hrep hrep (.refl S)
      cases happroved : call.approvedAt with
      | none =>
          rw [List.filterMap_cons_none happroved] at hclock
          refine ih hrep' hclock (body_chronological call hrep (fun id' f record hg => ?_) hs) ha
          rw [call.grants_approvedAt hg] at happroved
          cases happroved
      | some t =>
          rw [List.filterMap_cons_some happroved] at hclock
          obtain ⟨hnow, hlater⟩ := List.pairwise_cons.mp hclock
          have hle : now ≤ t := hnow t List.mem_cons_self
          have hs' : s.ChronologicalUntil t := fun id' b hb =>
            ⟨(hs id' b hb).1, fun record hr => ((hs id' b hb).2 record hr).trans hle⟩
          refine ih hrep' hlater (body_chronological call hrep (fun id' f record hg => ?_) hs') ha
          rw [call.grants_approvedAt hg, Option.some.injEq] at happroved
          exact happroved

/-! ## The agreement -/

/-- What `list_actions` returns. -/
def LawfulRepository.listed {σ : Type} (R : LawfulRepository σ) (s : σ) :
    Except Exn (List PendingAction) :=
  (R.handle .listActions s).1

/-- Every `get` finds the same over both, and the lists hold the same actions, each once. -/
structure StoresAgree {σ τ : Type} (Same : PendingAction → PendingAction → Prop)
    (R : LawfulRepository σ) (R' : LawfulRepository τ) (s : σ) (t : τ) : Prop where
  get : ∀ id, Option.Rel Same (R.stored s id) (R'.stored t id)
  list : ∃ l l', R.listed s = .ok l ∧ R'.listed t = .ok l' ∧
    (l.map (·.actionId)).Nodup ∧ (l'.map (·.actionId)).Nodup ∧
    (∀ a ∈ l, ∃ b ∈ l', Same a b) ∧ ∀ b ∈ l', ∃ a ∈ l, Same a b

theorem LawfulRepository.listed_eq {σ : Type} {R : LawfulRepository σ} {s : σ} {S : ActionMap}
    (hrep : R.Represents s S) : ∃ l, R.listed s = .ok l ∧ (l.map (·.actionId)).Nodup ∧
      ∀ a, a ∈ l ↔ S.record a.actionId = some a := by
  obtain ⟨S', ha, -⟩ := R.answers (o := .listActions) hrep trivial
  unfold listed
  generalize (R.handle .listActions s).1 = answer at ha
  cases ha with
  | listActions hnodup hmem => exact ⟨_, rfl, hnodup, hmem⟩

theorem storesAgree {σ τ : Type} {Same : PendingAction → PendingAction → Prop}
    {R : LawfulRepository σ} {R' : LawfulRepository τ} {s : σ} {t : τ} {S T : ActionMap}
    (hrep : R.Represents s S) (hrep' : R'.Represents t T)
    (hsame : ∀ id, Option.Rel Same (S.record id) (T.record id)) : StoresAgree Same R R' s t := by
  obtain ⟨l, hl, hnodup, hmem⟩ := LawfulRepository.listed_eq hrep
  obtain ⟨l', hl', hnodup', hmem'⟩ := LawfulRepository.listed_eq hrep'
  refine ⟨fun id => ?_, l, l', hl, hl', hnodup, hnodup', fun a ha => ?_, fun b hb => ?_⟩
  · rw [LawfulRepository.stored_eq hrep, LawfulRepository.stored_eq hrep']
    exact hsame id
  · have h := hsame a.actionId
    rw [(hmem a).mp ha] at h
    generalize hb : T.record a.actionId = found at h
    cases h with
    | @some _ b hab =>
        refine ⟨b, (hmem' b).mpr ?_, hab⟩
        rw [T.record_id hb, hb]
  · have h := hsame b.actionId
    rw [(hmem' b).mp hb] at h
    generalize ha : S.record b.actionId = found at h
    cases h with
    | @some a _ hab =>
        refine ⟨a, (hmem a).mpr ?_, hab⟩
        rw [S.record_id ha, ha]

/-- The two stores of the source after the same calls. -/
def memoryAfter (svc : ApprovalService) (calls : List ServiceCall) : InMemoryStore :=
  inMemory.after svc calls {}

@[inherit_doc memoryAfter]
def sqlAfter (env : SqlEnvironment) (svc : ApprovalService) (calls : List ServiceCall) : SqlStore :=
  env.sqlAlchemy.after svc calls {}

/-- What a `get` over the database returns has its approvals in the order of their instants. -/
theorem sql_chronological {env : SqlEnvironment} {t : SqlStore} {T : ActionMap}
    (hrep : env.sqlAlchemy.Represents t T) {id : String} {a : PendingAction}
    (ha : env.sqlAlchemy.stored t id = some a) : a.Chronological := by
  rw [LawfulRepository.stored_eq hrep] at ha
  exact hrep.chronological ha

/-- **The database refines the memory.** After any calls, the next one succeeds over both or fails
over both, and both hold the same actions up to the order of approvals, which the database returns
in the order of their instants. If the clock never steps back between approvals, only approvals
recorded at the same instant may change places. -/
theorem sql_refines_memory (env : SqlEnvironment) (svc : ApprovalService)
    (calls : List ServiceCall) :
    (∀ call : ServiceCall, (inMemory.run (call.body svc) (memoryAfter svc calls)).1.isOk =
      (env.sqlAlchemy.run (call.body svc) (sqlAfter env svc calls)).1.isOk) ∧
    StoresAgree PendingAction.SameUpToOrder inMemory env.sqlAlchemy (memoryAfter svc calls)
      (sqlAfter env svc calls) ∧
    (∀ id a, env.sqlAlchemy.stored (sqlAfter env svc calls) id = some a → a.Chronological) ∧
    (ClockInOrder calls →
      StoresAgree PendingAction.SameUpToTies inMemory env.sqlAlchemy (memoryAfter svc calls)
        (sqlAfter env svc calls)) := by
  have hempty : inMemory.Represents {} .empty := InMemoryStore.represents_empty
  have hempty' : env.sqlAlchemy.Represents {} .empty := SqlEnvironment.represents_empty
  obtain ⟨S, T, hrep, hrep', hST⟩ :=
    after_similar svc calls hempty hempty' (.refl .empty)
  refine ⟨fun call => (body_runsAlike svc call hrep hrep' hST).1, storesAgree hrep hrep' hST.record,
    fun id a => sql_chronological hrep', fun hclock => storesAgree hrep hrep' fun id => ?_⟩
  have hsame := hST.record id
  cases ha : S.record id with
  | none =>
      rw [hST.none_left ha]
      exact .none
  | some a =>
      rw [ha] at hsame
      generalize hb : T.record id = found at hsame
      cases hsame with
      | some hab =>
          refine .some (hab.upToTies ?_ (hrep'.chronological hb))
          -- Any instant before the first approval will do to start from.
          have hstart : ∀ times : List Instant, times.Pairwise (· ≤ ·) →
              ∃ now, (now :: times).Pairwise (· ≤ ·) := by
            intro times htimes
            cases times with
            | nil => exact ⟨0, List.pairwise_singleton _ _⟩
            | cons t times =>
                refine ⟨t, List.pairwise_cons.mpr ⟨fun t' ht' => ?_, htimes⟩⟩
                rcases List.mem_cons.mp ht' with rfl | ht'
                · exact le_rfl
                · exact (List.pairwise_cons.mp htimes).1 t' ht'
          obtain ⟨now, hnow⟩ := hstart _ hclock
          rw [← hrep.record] at ha
          exact after_chronological svc hempty hnow (fun _ _ h => by cases h) ha

/-! Two approvals of one action, the second read from a clock that has stepped back. -/

def steppedBackRun : List ServiceCall :=
  [ .prepare
      { functionId := "EMP-CONNECT-002", correlationId := "c-1", requesterId := "1", guildId := "2",
        channelId := "3", targetEmployeeId := some "7", encryptedParameters := [1],
        redactedDiff := [], stateFingerprint := "f", motivation := some "left" }
      { actionId := "a-1", confirmationCode := "ABCDEFGH", confirmationSalt := [0],
        token := "0123456789abcdef" }
      { writesEnabled := true, clock := .ofInstant 0 },
    .confirm "a-1" "1" "ABCDEFGH" (some "CONFIRM 7")
      { writesEnabled := true, clock := .ofInstant 10 },
    .approve "a-1" "4" ["APPROVER"] { writesEnabled := true, clock := .ofInstant 20 },
    .approve "a-1" "5" ["APPROVER"] { writesEnabled := true, clock := .ofInstant 15 } ]

/-- The memory returns the approvals in the order they came, the database in that of the clock. -/
theorem clockStepsBack :
    ¬StoresAgree PendingAction.SameUpToTies inMemory sampleEnvironment.sqlAlchemy
      (memoryAfter sampleService steppedBackRun)
      (sqlAfter sampleEnvironment sampleService steppedBackRun) := by
  intro h
  have hmemory : (inMemory.stored (memoryAfter sampleService steppedBackRun) "a-1").map
      (fun a => a.approvals.map (·.approvedAt)) = some [20, 15] := by decide
  have hsql : (sampleEnvironment.sqlAlchemy.stored
      (sqlAfter sampleEnvironment sampleService steppedBackRun) "a-1").map
      (fun a => a.approvals.map (·.approvedAt)) = some [15, 20] := by decide
  have hget := h.get "a-1"
  generalize inMemory.stored (memoryAfter sampleService steppedBackRun) "a-1" = x at hget hmemory
  generalize sampleEnvironment.sqlAlchemy.stored
    (sqlAfter sampleEnvironment sampleService steppedBackRun) "a-1" = y at hget hsql
  cases hget with
  | none => cases hmemory
  | some hsame =>
      rw [Option.map_some, Option.some.injEq] at hmemory hsql
      have htimes := hsame.2
      rw [hmemory, hsql] at htimes
      exact absurd htimes (by decide)

end BhDic.Approvals
