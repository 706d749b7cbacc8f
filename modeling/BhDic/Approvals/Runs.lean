import BhDic.Approvals.Repository
import BhDic.Library.Interleaving

/-!
# Runs of the service over a store

Any number of calls run at once over one lawful repository. Each repository call is one step; it
may also fail for a reason of its own, before or after the store took it in, and a call may stop
for good between two of its repository calls.

What a step can do to one record is `RecordStep`: nothing, create it, or take it through one
transition. That a replacement is a transition of the record *in the store*, and not only of the
one the call has read, is the compare-and-swap argument: `Seen` says that a record someone has read
is the stored one as long as the versions agree.
-/

namespace BhDic.Approvals

open BhDic.Library BhDic.Policies BhDic.Python
open BhDic.Library.Prog

/-! ## Steps of one record -/

/-- What the repository call `o` can do to the record under an id. -/
inductive RecordStep (granted : Grants) (o : RepositoryOp) :
    Option PendingAction → Option PendingAction → Prop
  | same (r : Option PendingAction) : RecordStep granted o r r
  | created (a : PendingAction) : o = .insert a → Fresh a → RecordStep granted o none (some a)
  | replaced {a b c : PendingAction} {v : Nat} : o = .replace b v → Transition granted a b →
      b.SameUpToOrder c → RecordStep granted o (some a) (some c)

/-- A replacement is justified when it is a transition of what is stored. -/
def Justified (granted : Grants) (S : ActionMap) : RepositoryOp → Prop
  | .insert action => Fresh action
  | .replace action expectedVersion => ∀ cur, S.record action.actionId = some cur →
      cur.version = expectedVersion → Transition granted cur action
  | _ => True

section Steps

variable {granted : Grants} {S S' : ActionMap} {o : RepositoryOp} {answer : Except Exn o.Returns}

theorem Answers.recordStep (h : Answers o S answer S') (hj : Justified granted S o) (id : String) :
    RecordStep granted o (S.record id) (S'.record id) := by
  cases h with
  | @insert _ a hid =>
      simp only [ActionMap.insert]
      split
      · rename_i heq
        rw [heq, hid]
        exact .created a rfl hj
      · exact .same _
  | replace hcur _ _ hv _ hsame =>
      simp only [ActionMap.put]
      split
      · rename_i heq
        rw [heq, hcur]
        rw [hsame.actionId] at hcur
        exact .replaced rfl (hj _ hcur hv) hsame
      · exact .same _
  | _ => exact .same _

theorem Answers.owner_mono (h : Answers o S answer S') {key id : String}
    (howner : S.owner key = some id) : S'.owner key = some id := by
  cases h with
  | claim _ _ hfree =>
      simp only [ActionMap.claim]
      split
      · rename_i heq
        rw [heq, hfree] at howner
        cases howner
      · exact howner
  | _ => exact howner

end Steps

/-! ## What has been read -/

/-- `old` has been read from the store: the store still has the action, under the same key, and
at the same version it is the same record. -/
def ActionMap.Seen (S : ActionMap) (old : PendingAction) : Prop :=
  ∃ cur, S.record old.actionId = some cur ∧ cur.idempotencyKey = old.idempotencyKey ∧
    old.version ≤ cur.version ∧ (cur.version = old.version → cur = old)

theorem ActionMap.seen_of_record {S : ActionMap} {id : String} {a : PendingAction}
    (h : S.record id = some a) : S.Seen a :=
  ⟨a, by rw [S.record_id h, h], rfl, le_rfl, fun _ => rfl⟩

theorem ActionMap.Seen.step {granted : Grants} {S S' : ActionMap} {old : PendingAction}
    {o : RepositoryOp} (hseen : S.Seen old)
    (hstep : ∀ id, RecordStep granted o (S.record id) (S'.record id)) :
    S'.Seen old := by
  obtain ⟨cur, hcur, hkey, hle, heq⟩ := hseen
  have h := hstep old.actionId
  rw [hcur] at h
  generalize hnext : S'.record old.actionId = next at h
  cases h with
  | same => exact ⟨cur, hnext, hkey, hle, heq⟩
  | replaced _ htransition hsame =>
      -- The version has grown past what was read, so nothing is claimed of the record itself.
      have hversion := hsame.version.trans htransition.version
      have hkey' := (hsame.idempotencyKey.trans htransition.idempotencyKey).trans hkey
      exact ⟨_, hnext, hkey', by omega, fun h => by omega⟩

/-- What a call knows is true of the store. -/
structure Knowledge.Sound (k : Knowledge) (S : ActionMap) : Prop where
  seen : ∀ old ∈ k.seen, S.Seen old
  claims : ∀ c ∈ k.claims, S.owner c.1 = some c.2

section Sound

variable {granted : Grants} {S S' : ActionMap} {k : Knowledge} {o : RepositoryOp}
  {answer : Except Exn o.Returns}

theorem Knowledge.Sound.step (hk : k.Sound S) (ha : Answers o S answer S')
    (hj : Justified granted S o) : k.Sound S' :=
  ⟨fun old hold => (hk.seen old hold).step (ha.recordStep hj),
    fun c hc => ha.owner_mono (hk.claims c hc)⟩

theorem Knowledge.Sound.recorded (hk : k.Sound S) (status : ActionStatus) :
    (k.recorded status).Sound S := by
  unfold Knowledge.recorded
  split
  · exact ⟨hk.seen, hk.claims⟩
  · exact hk

theorem Knowledge.Sound.learn_error (hk : k.Sound S) (o : RepositoryOp) (e : Exn) :
    (k.learn o (.error e)).Sound S := by
  cases o with
  | replace a v => exact hk.recorded a.status
  | _ => exact hk

/-- What a call adds to its knowledge is true as well. -/
theorem Knowledge.Sound.learn (hk : k.Sound S') (ha : Answers o S answer S') :
    (k.learn o answer).Sound S' := by
  cases ha with
  | @get _ id =>
      cases hget : S.record id with
      | none => exact hk
      | some a =>
          refine ⟨fun old hold => ?_, hk.claims⟩
          rcases List.mem_cons.mp hold with rfl | hold
          · exact ActionMap.seen_of_record hget
          · exact hk.seen old hold
  | listActions _ hmem =>
      refine ⟨fun old hold => ?_, hk.claims⟩
      rcases List.mem_append.mp hold with hold | hold
      · exact ActionMap.seen_of_record ((hmem old).mp hold)
      · exact hk.seen old hold
  | claim =>
      refine ⟨hk.seen, fun c hc => ?_⟩
      rcases List.mem_cons.mp hc with rfl | hc
      · exact if_pos rfl
      · exact hk.claims c hc
  | replace =>
      simp only [Knowledge.learn]
      split
      · exact ⟨hk.seen, hk.claims⟩
      · exact hk.recorded _
  | replaceRefused => exact hk.learn_error _ _
  | _ => exact hk

/-- A permitted call is justified: compare-and-swap makes the record read the one replaced. -/
theorem Knowledge.Sound.justified (hk : k.Sound S) (hpermits : k.permits o) :
    Justified k.grants S o := by
  cases o with
  | insert a => exact hpermits
  | replace a v =>
      intro cur hcur hv
      obtain ⟨old, hold, rfl, htransition, -⟩ := hpermits
      obtain ⟨cur', hcur', -, -, heq⟩ := hk.seen old hold
      rw [← htransition.actionId, hcur] at hcur'
      cases hcur'
      rw [heq hv]
      exact htransition
  | _ => trivial

/-- A permitted call uses the repository as it may be used. -/
theorem Knowledge.Sound.allowed (hk : k.Sound S) (hpermits : k.permits o) : Allowed S o := by
  have hj := hk.justified hpermits
  cases o with
  | insert a => exact hpermits
  | replace a v =>
      intro cur hcur hv
      have htransition := hj cur hcur hv
      refine ⟨⟨k.grants, htransition⟩, fun hexec => ?_⟩
      rcases htransition.execution hexec with hbegin | hbefore
      · obtain ⟨old, hold, rfl, hold', hclaim, -⟩ := hpermits
        have howner := hk.claims _ (hclaim hbegin)
        rw [← hold'.idempotencyKey, ← hold'.actionId] at howner
        exact howner
      · rw [htransition.idempotencyKey]
        exact S.owned hcur hbefore
  | claimIdempotency key id =>
      obtain ⟨old, hold, rfl, rfl⟩ := hpermits
      obtain ⟨cur, hcur, hkey, -⟩ := hk.seen old hold
      exact ⟨cur, hcur, hkey⟩
  | _ => trivial

end Sound

/-- A call that has just started knows nothing of the store. -/
theorem ServiceCall.knowledge_sound (call : ServiceCall) (S : ActionMap) :
    call.knowledge.Sound S := by
  refine ⟨fun old hold => ?_, fun c hc => ?_⟩
  · cases hold
  · cases hc

/-! ## The system -/

/-- A repository call as it can turn out: as the repository handles it, or with an error of its
own, raised before or after the store took the call in. -/
def LawfulRepository.exec {σ : Type} (R : LawfulRepository σ) (o : RepositoryOp) (s : σ)
    (answer : Except Exn o.Returns) (s' : σ) : Prop :=
  (answer, s') = R.handle o s ∨ ∃ e, answer = .error e ∧ (s' = s ∨ s' = (R.handle o s).2)

/-- Calls of the service in any interleaving. -/
def approvalSystem {σ : Type} (R : LawfulRepository σ) (svc : ApprovalService) :
    System repositoryEffect Exn ServiceResult ServiceCall σ where
  body := ServiceCall.body svc
  exec := R.exec

theorem promised_error (o : RepositoryOp) (e : Exn) : Promised o (.error e) := by
  cases o <;> trivial

theorem Answers.promised {S S' : ActionMap} {o : RepositoryOp} {answer : Except Exn o.Returns}
    (h : Answers o S answer S') : Promised o answer := by
  cases h with
  | @get _ id =>
      cases hget : S.record id with
      | none => trivial
      | some a => exact S.record_id hget
  | _ => trivial

/-- A replacement that succeeded found the version it expected, and left the next one. -/
def Replaced (S S' : ActionMap) : (o : RepositoryOp) → Except Exn o.Returns → Prop
  | .replace action expectedVersion, .ok _ => ∃ cur b, S.record action.actionId = some cur ∧
      cur.version = expectedVersion ∧ action.version = expectedVersion + 1 ∧
      S'.record action.actionId = some b ∧ action.SameUpToOrder b
  | _, _ => True

theorem Answers.replaced {S S' : ActionMap} {o : RepositoryOp} {answer : Except Exn o.Returns}
    (h : Answers o S answer S') : Replaced S S' o answer := by
  cases h with
  | replace hcur _ _ hv hnext hsame =>
      have hid := hsame.actionId
      refine ⟨_, _, ?_, hv, hnext, ?_, hsame⟩
      · rw [← hid, hcur]
      · rw [← hid]
        exact if_pos rfl
  | _ => trivial

theorem replaced_error (S S' : ActionMap) (o : RepositoryOp) (e : Exn) :
    Replaced S S' o (.error e) := by
  cases o <;> trivial

/-- What the repository call `o`, made with the knowledge `k`, did to the abstract store. -/
structure StoreStep (k : Knowledge) (S S' : ActionMap) (o : RepositoryOp)
    (answer : Except Exn o.Returns) : Prop where
  promised : Promised o answer
  learned : (k.learn o answer).Sound S'
  others : ∀ k' : Knowledge, k'.Sound S → k'.Sound S'
  records : ∀ id, RecordStep k.grants o (S.record id) (S'.record id)
  replaced : Replaced S S' o answer

/-- What a permitted call does, however it turns out. -/
theorem exec_step {σ : Type} {R : LawfulRepository σ} {s s' : σ} {S : ActionMap}
    {o : RepositoryOp} {answer : Except Exn o.Returns} {k : Knowledge}
    (hrep : R.Represents s S) (hk : k.Sound S) (hpermits : k.permits o)
    (hexec : R.exec o s answer s') :
    ∃ S', R.Represents s' S' ∧ StoreStep k S S' o answer := by
  obtain ⟨S', ha, hrep'⟩ := R.answers hrep (hk.allowed hpermits)
  have hj := hk.justified hpermits
  have hsound : ∀ k' : Knowledge, k'.Sound S → k'.Sound S' := fun k' hk' => hk'.step ha hj
  rcases hexec with h | ⟨e, rfl, rfl | rfl⟩
  · have hanswer : answer = (R.handle o s).1 := congrArg Prod.fst h
    have hstate : s' = (R.handle o s).2 := congrArg Prod.snd h
    subst hanswer hstate
    exact ⟨S', hrep', ha.promised, (hsound k hk).learn ha, hsound, ha.recordStep hj, ha.replaced⟩
  · exact ⟨S, hrep, promised_error o e, hk.learn_error o e, fun _ h => h, fun _ => .same _,
      replaced_error S S o e⟩
  · exact ⟨S', hrep', promised_error o e, (hsound k hk).learn_error o e, hsound,
      ha.recordStep hj, replaced_error S S' o e⟩

/-- What `get` finds, as the repository itself answers it. -/
def LawfulRepository.stored {σ : Type} (R : LawfulRepository σ) (s : σ) (actionId : String) :
    Option PendingAction :=
  match (R.handle (.get actionId) s).1 with
  | .ok found => found
  | .error _ => none

theorem LawfulRepository.stored_eq {σ : Type} {R : LawfulRepository σ} {s : σ} {S : ActionMap}
    (hrep : R.Represents s S) (actionId : String) : R.stored s actionId = S.record actionId := by
  obtain ⟨S', ha, -⟩ := R.answers (o := .get actionId) hrep trivial
  unfold stored
  generalize (R.handle (.get actionId) s).1 = answer at ha
  cases ha
  rfl

end BhDic.Approvals
