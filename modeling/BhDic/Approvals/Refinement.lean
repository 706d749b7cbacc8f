import BhDic.Approvals.Runs
import BhDic.Approvals.SqlLawful

/-!
# One service over two repositories

Two lawful repositories that represent similar stores, that is, the same up to the order of
approvals, answer the same calls alike and stay similar. A method of the service makes the same
calls on both and goes on alike, since nothing it decides depends on that order: `Related` says so
method by method. The one exception is `expire_pending`, which goes through the listing in an order
the repository chooses; there the two runs are compared by what they do to each record.
-/

namespace BhDic.Approvals

open BhDic.Library BhDic.Policies BhDic.Python BhDic.Security
open BhDic.Library.Prog

/-! ## Alike -/

/-- Both returned, related values, or both raised. -/
def Alike {α β : Type} (V : α → β → Prop) : Except Exn α → Except Exn β → Prop
  | .ok a, .ok b => V a b
  | .error _, .error _ => True
  | _, _ => False

/-- The same records up to the order of approvals, and the same owners. -/
structure ActionMap.Similar (S T : ActionMap) : Prop where
  record : ∀ id, Option.Rel PendingAction.SameUpToOrder (S.record id) (T.record id)
  owner : ∀ key, S.owner key = T.owner key

def SameCall : RepositoryOp → RepositoryOp → Prop
  | .insert a, .insert b => a.SameUpToOrder b
  | .get id, .get id' => id = id'
  | .replace a v, .replace b v' => a.SameUpToOrder b ∧ v = v'
  | .claimIdempotency key id, .claimIdempotency key' id' => key = key' ∧ id = id'
  | .listActions, .listActions => True
  | _, _ => False

/-- What the same call returns over two similar stores. -/
def SameValue : (o o' : RepositoryOp) → o.Returns → o'.Returns → Prop
  | .get _, .get _, found, found' => Option.Rel PendingAction.SameUpToOrder found found'
  | .claimIdempotency .., .claimIdempotency .., claimed, claimed' => claimed = claimed'
  | _, _, _, _ => True

/-- The same calls, answered alike. -/
def sameCalls : Matching repositoryEffect where
  op := SameCall
  ans o o' := Alike (SameValue o o')

namespace ActionMap.Similar

variable {S T : ActionMap}

theorem refl (S : ActionMap) : S.Similar S := by
  refine ⟨fun id => ?_, fun _ => rfl⟩
  cases S.record id with
  | none => exact .none
  | some a => exact .some (.refl a)

theorem symm (h : S.Similar T) : T.Similar S := by
  refine ⟨fun id => ?_, fun key => (h.owner key).symm⟩
  have hid := h.record id
  revert hid
  generalize S.record id = a
  generalize T.record id = b
  rintro (hsame | _)
  · exact .some hsame.symm
  · exact .none

theorem some_left (h : S.Similar T) {id : String} {a : PendingAction} (ha : S.record id = some a) :
    ∃ b, T.record id = some b ∧ a.SameUpToOrder b := by
  have hid := h.record id
  rw [ha] at hid
  generalize T.record id = found at hid
  cases hid with
  | some hsame => exact ⟨_, rfl, hsame⟩

theorem none_left (h : S.Similar T) {id : String} (ha : S.record id = none) :
    T.record id = none := by
  have hid := h.record id
  rw [ha] at hid
  generalize T.record id = found at hid
  cases hid
  rfl

theorem keyUnused (h : S.Similar T) {key : String} (hS : S.KeyUnused key) : T.KeyUnused key := by
  intro id b hb hkey
  obtain ⟨a, ha, hsame⟩ := h.symm.some_left hb
  exact hS id a ha (hsame.idempotencyKey.trans hkey)

theorem insertable (h : S.Similar T) {a b : PendingAction} (hab : a.SameUpToOrder b)
    (hS : S.record a.actionId = none ∧ S.KeyUnused a.idempotencyKey) :
    T.record b.actionId = none ∧ T.KeyUnused b.idempotencyKey := by
  rw [hab.actionId, hab.idempotencyKey]
  exact ⟨h.none_left hS.1, h.keyUnused hS.2⟩

end ActionMap.Similar

/-- Two answers to the same call over similar stores are alike and keep the stores similar. -/
theorem Answers.similar {S T S' T' : ActionMap} {o o' : RepositoryOp}
    {x : Except Exn o.Returns} {y : Except Exn o'.Returns} (hST : S.Similar T)
    (ho : SameCall o o') (hS : Answers o S x S') (hT : Answers o' T y T') :
    Alike (SameValue o o') x y ∧ S'.Similar T' := by
  cases hS with
  | @insert _ a hid hkey hstatus =>
      cases hT with
      | @insert _ b hid' hkey' hstatus' =>
          refine ⟨trivial, fun id => ?_, hST.owner⟩
          have hsame : a.SameUpToOrder b := ho
          simp only [ActionMap.insert, hsame.actionId]
          split
          · exact .some hsame
          · exact hST.record id
      | insertRefused hrefused => exact absurd (hST.insertable ho ⟨hid, hkey⟩) hrefused
      | _ => exact ho.elim
  | insertRefused hrefused =>
      cases hT with
      | insert hid' hkey' =>
          exact absurd (hST.symm.insertable (PendingAction.SameUpToOrder.symm ho) ⟨hid', hkey'⟩)
            hrefused
      | insertRefused => exact ⟨trivial, hST⟩
      | _ => exact ho.elim
  | get =>
      cases hT with
      | get =>
          cases ho
          exact ⟨hST.record _, hST⟩
      | _ => exact ho.elim
  | @replace _ a b v cur hcur hkey howned hv hnext hsame =>
      cases hT with
      | @replace _ a' b' v' cur' hcur' hkey' howned' hv' hnext' hsame' =>
          obtain ⟨haa', rfl⟩ := ho
          have hbb' : b.SameUpToOrder b' := (hsame.symm.trans haa').trans hsame'
          refine ⟨trivial, fun id => ?_, hST.owner⟩
          simp only [ActionMap.put, hbb'.actionId]
          split
          · exact .some hbb'
          · exact hST.record id
      | replaceRefused hrefused =>
          obtain ⟨haa', rfl⟩ := ho
          obtain ⟨cur', hcur', hcurs⟩ := hST.some_left hcur
          rw [hsame.actionId, ← haa'.actionId] at hcur'
          refine absurd ?_ (hrefused cur' hcur' ?_)
          · rw [haa'.version, hnext]
          · rw [hcurs.version, hv]
      | _ => exact ho.elim
  | @replaceRefused _ a v e hrefused =>
      cases hT with
      | @replace _ a' b' v' cur' hcur' hkey' howned' hv' hnext' hsame' =>
          obtain ⟨haa', rfl⟩ := ho
          obtain ⟨cur, hcur, hcurs⟩ := hST.symm.some_left hcur'
          rw [hsame'.actionId, haa'.actionId] at hcur
          refine absurd ?_ (hrefused cur hcur ?_)
          · rw [← haa'.version, hnext']
          · rw [hcurs.version, hv']
      | replaceRefused => exact ⟨trivial, hST⟩
      | _ => exact ho.elim
  | @claim _ a key id ha hkey hfree =>
      cases hT with
      | claim ha' hkey' hfree' =>
          obtain ⟨rfl, rfl⟩ := ho
          refine ⟨rfl, hST.record, fun k => ?_⟩
          simp only [ActionMap.claim]
          split
          · rfl
          · exact hST.owner k
      | claimRefused htaken =>
          obtain ⟨rfl, rfl⟩ := ho
          rw [hST.owner] at hfree
          exact absurd hfree htaken
      | _ => exact ho.elim
  | claimRefused htaken =>
      cases hT with
      | claim ha' hkey' hfree' =>
          obtain ⟨rfl, rfl⟩ := ho
          rw [← hST.owner] at hfree'
          exact absurd hfree' htaken
      | claimRefused => exact ⟨rfl, hST⟩
      | _ => exact ho.elim
  | listActions =>
      cases hT with
      | listActions => exact ⟨trivial, hST⟩
      | _ => exact ho.elim

/-! ## The methods go on alike -/

section Methods

variable {α β γ δ : Type} {V : α → β → Prop} {W : γ → δ → Prop} {svc : ApprovalService}

/-- The two programs make the same calls and end alike, as long as they are answered alike. -/
abbrev InStep (V : α → β → Prop) (p : Approval α) (q : Approval β) : Prop :=
  Related sameCalls (Alike V) p q

theorem InStep.bind {p : Approval α} {q : Approval β} {f : α → Approval γ} {g : β → Approval δ}
    (h : InStep V p q) (hfg : ∀ a b, V a b → InStep W (f a) (g b)) :
    InStep W (p.bind f) (q.bind g) :=
  Related.bind h hfg fun _ _ _ => trivial

theorem inStep_throw (e e' : Exn) : InStep V (.throw e) (.throw e') := .throw trivial

theorem inStep_require {c c' : Prop} [Decidable c] [Decidable c'] (h : c ↔ c') (e e' : Exn) :
    InStep (fun _ _ => True) (require c e) (require c' e') := by
  unfold require
  by_cases hc : c
  · rw [if_pos hc, if_pos (h.mp hc)]
    exact .pure trivial
  · rw [if_neg hc, if_neg (mt h.mpr hc)]
    exact .throw trivial

theorem inStep_ofExcept (r : Except Exn α) : InStep (· = ·) (ofExcept r) (ofExcept r) := by
  cases r with
  | error e => exact .throw trivial
  | ok a => exact .pure rfl

theorem inStep_repository {o o' : RepositoryOp} (h : SameCall o o') :
    InStep (SameValue o o') (repository o) (repository o') := by
  refine .call h fun x y hxy => ?_
  cases x <;> cases y
  · exact .throw trivial
  · exact hxy.elim
  · exact hxy.elim
  · exact .pure hxy

/-- Two records that agree up to the order of approvals, as the methods see them. -/
theorem inStep_get (actionId : String) :
    InStep PendingAction.SameUpToOrder (Approvals.get actionId) (Approvals.get actionId) := by
  have hcall : SameCall (.get actionId) (.get actionId) := rfl
  refine (inStep_repository hcall).bind ?_
  rintro _ _ (hsame | _)
  · exact .pure hsame
  · exact inStep_throw _ _

variable {a a' : PendingAction}

theorem inStep_replaceWith (update : PendingAction → PendingAction) (ha : a.SameUpToOrder a')
    (hupdate : (update a).SameUpToOrder (update a')) :
    InStep PendingAction.SameUpToOrder (replaceWith a (update a)) (replaceWith a' (update a')) := by
  have hcall : SameCall (.replace (update a) a.version) (.replace (update a') a'.version) :=
    ⟨hupdate, ha.version.symm⟩
  exact (inStep_repository hcall).bind fun _ _ _ => .pure hupdate

theorem inStep_requireActive (ha : a.SameUpToOrder a') (now : Instant) :
    InStep PendingAction.SameUpToOrder (requireActive a now) (requireActive a' now) := by
  obtain ⟨l, hperm, rfl⟩ := ha
  unfold requireActive
  dsimp only
  split
  · refine (inStep_replaceWith (·.expire) ⟨l, hperm, rfl⟩ ⟨l, hperm, rfl⟩).bind fun _ _ _ => ?_
    exact inStep_throw _ _
  · split
    · exact inStep_throw _ _
    · exact .pure ⟨l, hperm, rfl⟩

theorem inStep_confirm {actionId requesterId code : String} {text : Option String} {r : Readings} :
    InStep PendingAction.SameUpToOrder (confirm svc actionId requesterId code text r)
      (confirm svc actionId requesterId code text r) := by
  simp only [confirm, bind_def]
  refine (inStep_require Iff.rfl _ _).bind fun _ _ _ => ?_
  refine (inStep_get actionId).bind fun found found' hfound => ?_
  refine (inStep_ofExcept r.now).bind ?_
  rintro now _ rfl
  refine (inStep_requireActive hfound now).bind ?_
  rintro a _ ⟨l, hperm, rfl⟩
  refine (inStep_require Iff.rfl _ _).bind fun _ _ _ => ?_
  refine (inStep_require Iff.rfl _ _).bind fun _ _ _ => ?_
  refine (inStep_ofExcept _).bind ?_
  rintro verified _ rfl
  refine (inStep_require Iff.rfl _ _).bind fun _ _ _ => ?_
  refine (inStep_ofExcept (requireFunctionSpec a)).bind ?_
  rintro spec _ rfl
  have htext : InStep (fun _ _ => True) (requireTextConfirmation spec a text)
      (requireTextConfirmation spec { a with approvals := l } text) := by
    unfold requireTextConfirmation
    split
    · exact .pure trivial
    · exact inStep_require Iff.rfl _ _
  exact htext.bind fun _ _ _ => inStep_replaceWith (·.confirm now) ⟨l, hperm, rfl⟩ ⟨l, hperm, rfl⟩

theorem approvedBy_mem_iff (ha : a.SameUpToOrder a') (approverId : String) :
    approverId ∈ a.approvedBy ↔ approverId ∈ a'.approvedBy :=
  ((ha.perm.map _).mem_iff).symm

theorem approve_sameUpToOrder (ha : a.SameUpToOrder a') (record : ApprovalRecord) :
    (a.approve record).SameUpToOrder (a'.approve record) := by
  obtain ⟨l, hperm, rfl⟩ := ha
  refine ⟨l ++ [record], hperm.append_right _, ?_⟩
  have hlength : (l ++ [record]).length = (a.approvals ++ [record]).length := by
    simp [hperm.length_eq]
  simp only [PendingAction.approve, hlength]

theorem inStep_approve {actionId approverId : String} {roles : List String} {r : Readings} :
    InStep PendingAction.SameUpToOrder (approve actionId approverId roles r)
      (approve actionId approverId roles r) := by
  simp only [approve, bind_def]
  refine (inStep_require Iff.rfl _ _).bind fun _ _ _ => ?_
  refine (inStep_get actionId).bind fun found found' hfound => ?_
  refine (inStep_ofExcept r.now).bind ?_
  rintro now _ rfl
  refine (inStep_requireActive hfound now).bind fun a a' ha => ?_
  have hmem := approvedBy_mem_iff ha approverId
  have happrove := approve_sameUpToOrder ha ⟨approverId, now⟩
  obtain ⟨l, hperm, rfl⟩ := ha
  refine (inStep_require Iff.rfl _ _).bind fun _ _ _ => ?_
  refine (inStep_require Iff.rfl _ _).bind fun _ _ _ => ?_
  refine (inStep_require Iff.rfl _ _).bind fun _ _ _ => ?_
  refine (inStep_require Iff.rfl _ _).bind fun _ _ _ => ?_
  refine (inStep_require (not_congr hmem) _ _).bind fun _ _ _ => ?_
  refine (inStep_ofExcept (requireFunctionSpec a)).bind ?_
  rintro spec _ rfl
  refine (inStep_ofExcept (approverRoles roles)).bind ?_
  rintro normalized _ rfl
  refine (inStep_require Iff.rfl _ _).bind fun _ _ _ => ?_
  exact inStep_replaceWith (·.approve ⟨approverId, now⟩) ⟨l, hperm, rfl⟩ happrove

theorem inStep_reject {actionId actorId : String} {roles : List String} {reason : String}
    {r : Readings} :
    InStep PendingAction.SameUpToOrder (reject svc actionId actorId roles reason r)
      (reject svc actionId actorId roles reason r) := by
  simp only [reject, bind_def]
  refine (inStep_get actionId).bind fun found found' hfound => ?_
  refine (inStep_ofExcept r.now).bind ?_
  rintro now _ rfl
  refine (inStep_requireActive hfound now).bind fun a a' ha => ?_
  have hmem := approvedBy_mem_iff ha actorId
  obtain ⟨l, hperm, rfl⟩ := ha
  refine (inStep_ofExcept (requireFunctionSpec a)).bind ?_
  rintro spec _ rfl
  refine (inStep_ofExcept (approverRoles roles)).bind ?_
  rintro normalized _ rfl
  refine (inStep_require (not_congr hmem) _ _).bind fun _ _ _ => ?_
  refine (inStep_require Iff.rfl _ _).bind fun _ _ _ => ?_
  refine (inStep_ofExcept _).bind ?_
  rintro cleanedReason _ rfl
  refine (inStep_require Iff.rfl _ _).bind fun _ _ _ => ?_
  exact inStep_replaceWith (·.reject actorId cleanedReason now) ⟨l, hperm, rfl⟩ ⟨l, hperm, rfl⟩

theorem inStep_beginExecution {actionId fingerprint : String} {r : Readings} :
    InStep PendingAction.SameUpToOrder (beginExecution actionId fingerprint r)
      (beginExecution actionId fingerprint r) := by
  simp only [beginExecution, bind_def]
  refine (inStep_require Iff.rfl _ _).bind fun _ _ _ => ?_
  refine (inStep_get actionId).bind ?_
  rintro found _ ⟨m, hm, rfl⟩
  refine (inStep_require Iff.rfl _ _).bind fun _ _ _ => ?_
  refine (inStep_ofExcept r.now).bind ?_
  rintro now _ rfl
  refine (inStep_requireActive ⟨m, hm, rfl⟩ now).bind ?_
  rintro a _ ⟨l, hperm, rfl⟩
  refine (inStep_require Iff.rfl _ _).bind fun _ _ _ => ?_
  dsimp only
  split
  · exact (inStep_replaceWith (·.markStale) ⟨l, hperm, rfl⟩ ⟨l, hperm, rfl⟩).bind
      fun _ _ _ => inStep_throw _ _
  · simp only [claimAndBegin, bind_def]
    have hclaim : SameCall (.claimIdempotency a.idempotencyKey a.actionId)
        (.claimIdempotency a.idempotencyKey a.actionId) := ⟨rfl, rfl⟩
    refine (inStep_repository hclaim).bind ?_
    rintro claimed _ rfl
    refine (inStep_require Iff.rfl _ _).bind fun _ _ _ => ?_
    exact inStep_replaceWith (·.begin) ⟨l, hperm, rfl⟩ ⟨l, hperm, rfl⟩

/-- The methods that record an outcome: each reads, checks the status, and updates the record in a
way that does not depend on its approvals. -/
theorem inStep_complete (actionId : String) (status : ActionStatus) (e : Exn)
    (update : PendingAction → PendingAction)
    (hupdate : ∀ {a a'}, a.SameUpToOrder a' → (update a).SameUpToOrder (update a')) :
    InStep PendingAction.SameUpToOrder
      ((Approvals.get actionId).bind fun a =>
        (require (a.status = status) e).bind fun _ => replaceWith a (update a))
      ((Approvals.get actionId).bind fun a =>
        (require (a.status = status) e).bind fun _ => replaceWith a (update a)) := by
  refine (inStep_get actionId).bind fun a a' ha => ?_
  refine (inStep_require (by rw [ha.status]) _ _).bind fun _ _ _ => ?_
  exact inStep_replaceWith update ha (hupdate ha)

theorem inStep_completeSuccess {actionId executionResult postconditionResult : String}
    {postconditionVerified : Bool} :
    InStep PendingAction.SameUpToOrder
      (completeSuccess actionId executionResult postconditionResult postconditionVerified)
      (completeSuccess actionId executionResult postconditionResult postconditionVerified) := by
  refine inStep_complete _ _ _
    (·.succeed executionResult postconditionResult postconditionVerified) ?_
  rintro a _ ⟨l, hperm, rfl⟩
  exact ⟨l, hperm, rfl⟩

theorem inStep_completeFailure {actionId result : String} {outcomeUncertain : Bool} :
    InStep PendingAction.SameUpToOrder (completeFailure actionId result outcomeUncertain)
      (completeFailure actionId result outcomeUncertain) := by
  refine inStep_complete _ _ _ (·.fail result outcomeUncertain) ?_
  rintro a _ ⟨l, hperm, rfl⟩
  exact ⟨l, hperm, rfl⟩

theorem inStep_reconcile {actionId result : String} {postconditionMet : Bool} :
    InStep PendingAction.SameUpToOrder (reconcile actionId postconditionMet result)
      (reconcile actionId postconditionMet result) := by
  refine inStep_complete _ _ _ (·.reconcile postconditionMet result) ?_
  rintro a _ ⟨l, hperm, rfl⟩
  exact ⟨l, hperm, rfl⟩

theorem inStep_prepare {req : PrepareRequest} {random : RandomReadings} {r : Readings} :
    InStep (· = ·) (prepare svc req random r) (prepare svc req random r) := by
  simp only [prepare, bind_def]
  refine (inStep_require Iff.rfl _ _).bind fun _ _ _ => ?_
  refine (inStep_ofExcept _).bind ?_
  rintro prepared _ rfl
  have hcall : SameCall (.insert prepared.action) (.insert prepared.action) := .refl _
  exact (inStep_repository hcall).bind fun _ _ _ => .pure rfl

end Methods

end BhDic.Approvals
