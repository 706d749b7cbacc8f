import BhDic.Approvals.Models
import BhDic.Library.Dict
import BhDic.Library.Prog

/-!
# Approval storage

The calls an approval repository answers, and the repository that keeps everything in memory. A
call is answered under the repository's lock, so it is one atomic step.
-/

namespace BhDic.Approvals

open BhDic.Library BhDic.Python

/-- `ApprovalRepository`: its methods and their arguments. -/
inductive RepositoryOp
  | insert (action : PendingAction)
  | get (actionId : String)
  | replace (action : PendingAction) (expectedVersion : Nat)
  | claimIdempotency (key actionId : String)
  | listActions

/-- What each method returns, unless it raises. -/
@[reducible] def RepositoryOp.Returns : RepositoryOp → Type
  | .insert _ => Unit
  | .get _ => Option PendingAction
  | .replace _ _ => Unit
  | .claimIdempotency _ _ => Bool
  | .listActions => List PendingAction

/-- Calls on a repository; every one of them may raise. -/
abbrev repositoryEffect : Effect where
  Op := RepositoryOp
  Ans o := Except Exn o.Returns

/-- A repository over the store `σ`. -/
abbrev Repository (σ : Type) := (o : RepositoryOp) → σ → Except Exn o.Returns × σ

/-! ## In memory -/

/-- The dictionaries of `InMemoryApprovalRepository`. -/
structure InMemoryStore where
  actions : Dict String PendingAction := .empty
  idempotency : Dict String String := .empty
  pendingIdempotency : Dict String String := .empty

namespace InMemoryStore

def insert (s : InMemoryStore) (action : PendingAction) : Except Exn Unit × InMemoryStore :=
  if (s.actions.get? action.actionId).isSome then
    (.error ⟨.valueError, "duplicate action_id"⟩, s)
  else if (s.pendingIdempotency.get? action.idempotencyKey).isSome then
    (.error ⟨.valueError, "duplicate idempotency key"⟩, s)
  else
    (.ok (), { s with
      actions := s.actions.set action.actionId action
      pendingIdempotency := s.pendingIdempotency.set action.idempotencyKey action.actionId })

def get (s : InMemoryStore) (actionId : String) : Option PendingAction := s.actions.get? actionId

def replace (s : InMemoryStore) (action : PendingAction) (expectedVersion : Nat) :
    Except Exn Unit × InMemoryStore :=
  match s.actions.get? action.actionId with
  | none => (.error ⟨.keyError, action.actionId⟩, s)
  | some current =>
      if current.version ≠ expectedVersion then
        (.error ⟨.runtimeError, "concurrent approval update"⟩, s)
      else if action.version ≠ expectedVersion + 1 then
        (.error ⟨.valueError, "replacement must increment version exactly once"⟩, s)
      else (.ok (), { s with actions := s.actions.set action.actionId action })

def claimIdempotency (s : InMemoryStore) (key actionId : String) : Bool × InMemoryStore :=
  if (s.idempotency.get? key).isSome then (false, s)
  else (true, { s with idempotency := s.idempotency.set key actionId })

def listActions (s : InMemoryStore) : List PendingAction := s.actions.values

end InMemoryStore

/-- `InMemoryApprovalRepository`. -/
def inMemoryRepository : Repository InMemoryStore
  | .insert action, s => s.insert action
  | .get actionId, s => (.ok (s.get actionId), s)
  | .replace action expectedVersion, s => s.replace action expectedVersion
  | .claimIdempotency key actionId, s =>
      let (claimed, s') := s.claimIdempotency key actionId
      (.ok claimed, s')
  | .listActions, s => (.ok s.listActions, s)

end BhDic.Approvals
