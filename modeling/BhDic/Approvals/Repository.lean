import BhDic.Approvals.Lifecycle

/-!
# What an approval repository is for

`ActionMap` is the abstract store: one record for each action id, and for each idempotency key the
action that claimed it. Its fields say what every store must keep. `Answers` says what each call
does to it and returns, and a `LawfulRepository` is a store with calls that do just that, as long
as they are used as `Allowed` says.

The in-memory repository is lawful (`inMemory`); the one over a database is shown to be in
`SqlStorage`.
-/

namespace BhDic.Approvals

open BhDic.Library BhDic.Policies BhDic.Python

/-! ## The abstract store -/

/-- Records by action id, and the action that owns each claimed idempotency key. -/
@[ext]
structure ActionMap where
  record : String → Option PendingAction
  owner : String → Option String
  record_id : ∀ {id a}, record id = some a → a.actionId = id
  key_injective : ∀ {id id' a b}, record id = some a → record id' = some b →
    a.idempotencyKey = b.idempotencyKey → id = id'
  owner_key : ∀ {key id}, owner key = some id → ∃ a, record id = some a ∧ a.idempotencyKey = key
  owned : ∀ {id a}, record id = some a → a.status ∈ executionStatuses →
    owner a.idempotencyKey = some id

namespace ActionMap

/-- The empty store. -/
def empty : ActionMap where
  record _ := none
  owner _ := none
  record_id := nofun
  key_injective := nofun
  owner_key := nofun
  owned := nofun

/-- No action has this key yet. -/
def KeyUnused (S : ActionMap) (key : String) : Prop :=
  ∀ id b, S.record id = some b → b.idempotencyKey ≠ key

/-- A new action, under a new id and with a new key. -/
def insert (S : ActionMap) (a : PendingAction) (hid : S.record a.actionId = none)
    (hkey : S.KeyUnused a.idempotencyKey) (hstatus : a.status = .pending) : ActionMap where
  record id := if id = a.actionId then some a else S.record id
  owner := S.owner
  record_id := by
    intro id b h
    split at h
    · cases h
      exact Eq.symm ‹_›
    · exact S.record_id h
  key_injective := by
    intro id id' b c hb hc heq
    split at hb <;> split at hc
    · rename_i h h'
      rw [h, h']
    · cases hb
      exact absurd heq.symm (hkey _ _ hc)
    · cases hc
      exact absurd heq (hkey _ _ hb)
    · exact S.key_injective hb hc heq
  owner_key := by
    intro key id h
    obtain ⟨b, hb, hbkey⟩ := S.owner_key h
    refine ⟨b, ?_, hbkey⟩
    rw [if_neg]
    · exact hb
    · rintro rfl
      rw [hid] at hb
      cases hb
  owned := by
    intro id b h hexec
    split at h
    · cases h
      rw [hstatus] at hexec
      exact absurd hexec (by decide)
    · exact S.owned h hexec

/-- Put a new record in place of the one under its id. -/
def put (S : ActionMap) {cur : PendingAction} (b : PendingAction)
    (hcur : S.record b.actionId = some cur) (hkey : b.idempotencyKey = cur.idempotencyKey)
    (howned : b.status ∈ executionStatuses → S.owner b.idempotencyKey = some b.actionId) :
    ActionMap where
  record id := if id = b.actionId then some b else S.record id
  owner := S.owner
  record_id := by
    intro id a h
    split at h
    · cases h
      exact Eq.symm ‹_›
    · exact S.record_id h
  key_injective := by
    intro id id' a c ha hc heq
    split at ha <;> split at hc
    · rename_i h h'
      rw [h, h']
    · rename_i h _
      cases ha
      rw [h]
      exact S.key_injective hcur hc (hkey.symm.trans heq)
    · rename_i _ h
      cases hc
      rw [h]
      exact S.key_injective ha hcur (heq.trans hkey)
    · exact S.key_injective ha hc heq
  owner_key := by
    intro key id h
    obtain ⟨a, ha, hakey⟩ := S.owner_key h
    split
    · rename_i hid
      rw [hid, hcur] at ha
      cases ha
      exact ⟨b, rfl, hkey.trans hakey⟩
    · exact ⟨a, ha, hakey⟩
  owned := by
    intro id a h hexec
    split at h
    · rename_i hid
      cases h
      rw [hid]
      exact howned hexec
    · exact S.owned h hexec

/-- Give an unclaimed key to the action it belongs to. -/
def claim (S : ActionMap) {a : PendingAction} (key id : String) (ha : S.record id = some a)
    (hkey : a.idempotencyKey = key) (hfree : S.owner key = none) : ActionMap where
  record := S.record
  owner k := if k = key then some id else S.owner k
  record_id := S.record_id
  key_injective := S.key_injective
  owner_key := by
    intro k id' h
    split at h
    · rename_i hk
      cases h
      exact ⟨a, ha, by rw [hk, hkey]⟩
    · exact S.owner_key h
  owned := by
    intro id' b hb hexec
    have howner := S.owned hb hexec
    rw [if_neg]
    · exact howner
    · rintro rfl
      rw [hfree] at howner
      cases howner

end ActionMap

/-! ## What the calls do -/

/-- How a repository may be used: insertions are fresh, a record is only replaced by a transition
of it, and a key is only claimed for the action that has it. -/
def Allowed (S : ActionMap) : RepositoryOp → Prop
  | .insert action => Fresh action
  | .get _ => True
  | .replace action expectedVersion => ∀ cur, S.record action.actionId = some cur →
      cur.version = expectedVersion →
      (∃ granted, Transition granted cur action) ∧
        (action.status ∈ executionStatuses →
          S.owner action.idempotencyKey = some action.actionId)
  | .claimIdempotency key actionId =>
      ∃ a, S.record actionId = some a ∧ a.idempotencyKey = key
  | .listActions => True

/-- What each call answers and what becomes of the store. A replacement is kept up to the order of
its approvals, and the listing comes in any order. -/
inductive Answers : (o : RepositoryOp) → ActionMap → Except Exn o.Returns → ActionMap → Prop
  | insert {S a} (hid : S.record a.actionId = none) (hkey : S.KeyUnused a.idempotencyKey)
      (hstatus : a.status = .pending) :
      Answers (.insert a) S (.ok ()) (S.insert a hid hkey hstatus)
  | insertRefused {S a e} : ¬(S.record a.actionId = none ∧ S.KeyUnused a.idempotencyKey) →
      Answers (.insert a) S (.error e) S
  | get {S id} : Answers (.get id) S (.ok (S.record id)) S
  | replace {S a b v cur} (hcur : S.record b.actionId = some cur) (hkey howned)
      (hv : cur.version = v) (hnext : a.version = v + 1) (hsame : a.SameUpToOrder b) :
      Answers (.replace a v) S (.ok ()) (S.put b hcur hkey howned)
  | replaceRefused {S a v e} :
      (∀ cur, S.record a.actionId = some cur → cur.version = v → a.version ≠ v + 1) →
      Answers (.replace a v) S (.error e) S
  | claim {S a key id} (ha : S.record id = some a) (hkey : a.idempotencyKey = key)
      (hfree : S.owner key = none) :
      Answers (.claimIdempotency key id) S (.ok true) (S.claim key id ha hkey hfree)
  | claimRefused {S key id} : S.owner key ≠ none →
      Answers (.claimIdempotency key id) S (.ok false) S
  | listActions {S l} (hnodup : (l.map (·.actionId)).Nodup)
      (hmem : ∀ a, a ∈ l ↔ S.record a.actionId = some a) : Answers .listActions S (.ok l) S

/-- A repository whose store represents an abstract one that its calls keep in step. -/
structure LawfulRepository (σ : Type) where
  handle : Repository σ
  Represents : σ → ActionMap → Prop
  answers : ∀ {s S o}, Represents s S → Allowed S o →
    ∃ S', Answers o S (handle o s).1 S' ∧ Represents (handle o s).2 S'

/-! ## The in-memory repository is lawful -/

/-- The dictionaries hold an abstract store: `actions` its records, `idempotency` its owners, and
`pendingIdempotency` the keys in use. -/
structure InMemoryStore.Represents (s : InMemoryStore) (S : ActionMap) : Prop where
  record : ∀ id, s.actions.get? id = S.record id
  owner : ∀ key, s.idempotency.get? key = S.owner key
  keys : ∀ key, s.pendingIdempotency.get? key = none ↔ S.KeyUnused key

namespace InMemoryStore

variable {s : InMemoryStore} {S : ActionMap}

theorem represents_empty : InMemoryStore.Represents {} .empty where
  record _ := rfl
  owner _ := rfl
  keys _ := ⟨fun _ _ _ h => absurd h.symm (Option.some_ne_none _), fun _ => rfl⟩

private theorem answers_insert (h : s.Represents S) {a : PendingAction} (hfresh : Fresh a) :
    ∃ S', Answers (.insert a) S (s.insert a).1 S' ∧ (s.insert a).2.Represents S' := by
  unfold InMemoryStore.insert
  split
  · rename_i hid
    refine ⟨S, .insertRefused ?_, h⟩
    rintro ⟨hnone, -⟩
    rw [h.record, hnone] at hid
    cases hid
  · rename_i hid
    split
    · rename_i hkey
      refine ⟨S, .insertRefused ?_, h⟩
      rintro ⟨-, hunused⟩
      rw [(h.keys _).mpr hunused] at hkey
      cases hkey
    · rename_i hkey
      rw [Option.not_isSome_iff_eq_none] at hid hkey
      have hnone : S.record a.actionId = none := by rw [← h.record, hid]
      have hunused := (h.keys _).mp hkey
      refine ⟨_, .insert hnone hunused hfresh.status, ?_, h.owner, ?_⟩
      · intro id
        show (s.actions.set a.actionId a).get? id = _
        rw [Dict.get?_set, h.record]
        rfl
      · intro key
        show (s.pendingIdempotency.set _ _).get? key = none ↔ _
        rw [Dict.get?_set]
        split
        · rename_i heq
          refine ⟨fun hsome => absurd hsome (Option.some_ne_none _), fun hall => ?_⟩
          exact absurd heq.symm (hall a.actionId a (if_pos rfl))
        · rename_i hne
          rw [h.keys]
          constructor
          · intro hall id b hb
            simp only [ActionMap.insert] at hb
            split at hb
            · cases hb
              exact Ne.symm hne
            · exact hall id b hb
          · intro hall id b hb
            refine hall id b ?_
            simp only [ActionMap.insert]
            rw [if_neg]
            · exact hb
            · rintro rfl
              rw [hnone] at hb
              cases hb

private theorem answers_replace (h : s.Represents S) {a : PendingAction} {v : Nat}
    (hallowed : Allowed S (.replace a v)) :
    ∃ S', Answers (.replace a v) S (s.replace a v).1 S' ∧ (s.replace a v).2.Represents S' := by
  unfold InMemoryStore.replace
  split
  · rename_i hnone
    rw [h.record] at hnone
    refine ⟨S, .replaceRefused fun cur hcur => ?_, h⟩
    rw [hnone] at hcur
    cases hcur
  · rename_i cur hcur
    rw [h.record] at hcur
    split
    · rename_i hversion
      refine ⟨S, .replaceRefused fun cur' hcur' hv => ?_, h⟩
      rw [hcur] at hcur'
      cases hcur'
      exact absurd hv hversion
    · rename_i hversion
      rw [not_not] at hversion
      split
      · rename_i hnext
        exact ⟨S, .replaceRefused fun _ _ _ => hnext, h⟩
      · rename_i hnext
        rw [not_not] at hnext
        obtain ⟨⟨granted, htransition⟩, howned⟩ := hallowed cur hcur hversion
        have hkey := htransition.idempotencyKey
        refine ⟨_, .replace hcur hkey howned hversion hnext (.refl a), ?_, h.owner, ?_⟩
        · intro id
          show (s.actions.set a.actionId a).get? id = _
          rw [Dict.get?_set, h.record]
          rfl
        · intro key
          refine (h.keys key).trans ⟨fun hall id b hb => ?_, fun hall id b hb => ?_⟩
          · simp only [ActionMap.put] at hb
            split at hb
            · cases hb
              rw [hkey]
              exact hall _ _ hcur
            · exact hall id b hb
          · by_cases hid : id = a.actionId
            · subst hid
              rw [hcur] at hb
              cases hb
              rw [← hkey]
              exact hall a.actionId a (if_pos rfl)
            · exact hall id b ((if_neg hid).trans hb)

private theorem answers_claim (h : s.Represents S) {key id : String}
    (hallowed : Allowed S (.claimIdempotency key id)) :
    ∃ S', Answers (.claimIdempotency key id) S (.ok (s.claimIdempotency key id).1) S' ∧
      (s.claimIdempotency key id).2.Represents S' := by
  obtain ⟨a, ha, hkey⟩ := hallowed
  unfold InMemoryStore.claimIdempotency
  split
  · rename_i howner
    refine ⟨S, .claimRefused ?_, h⟩
    rw [← h.owner]
    exact Option.isSome_iff_ne_none.mp howner
  · rename_i howner
    rw [Option.not_isSome_iff_eq_none, h.owner] at howner
    refine ⟨_, .claim ha hkey howner, h.record, ?_, h.keys⟩
    intro k
    show (s.idempotency.set key id).get? k = _
    rw [Dict.get?_set, h.owner]
    rfl

private theorem answers_listActions (h : s.Represents S) :
    Answers .listActions S (.ok s.listActions) S := by
  refine .listActions ?_ fun a => ?_
  · have hids : s.actions.values.map (·.actionId) = s.actions.items.map Prod.fst := by
      rw [Dict.values, List.map_map]
      refine List.map_congr_left fun item hitem => ?_
      obtain ⟨id, a⟩ := item
      have hget : s.actions.get? id = some a := (Dict.find_eq_some s.actions.nodup).mpr hitem
      rw [h.record] at hget
      exact S.record_id hget
    rw [InMemoryStore.listActions, hids]
    exact s.actions.nodup
  · rw [InMemoryStore.listActions, Dict.mem_values]
    constructor
    · rintro ⟨id, hid⟩
      rw [h.record] at hid
      rw [S.record_id hid]
      exact hid
    · intro ha
      exact ⟨a.actionId, by rw [h.record, ha]⟩

end InMemoryStore

/-- `InMemoryApprovalRepository` is lawful. -/
def inMemory : LawfulRepository InMemoryStore where
  handle := inMemoryRepository
  Represents := InMemoryStore.Represents
  answers := by
    intro s S o h hallowed
    cases o with
    | insert a => exact InMemoryStore.answers_insert h hallowed
    | get id =>
        refine ⟨S, ?_, h⟩
        show Answers (.get id) S (.ok (s.actions.get? id)) S
        rw [h.record]
        exact .get
    | replace a v => exact InMemoryStore.answers_replace h hallowed
    | claimIdempotency key id => exact InMemoryStore.answers_claim h hallowed
    | listActions => exact ⟨S, InMemoryStore.answers_listActions h, h⟩

end BhDic.Approvals
