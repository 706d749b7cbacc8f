import BhDic.Application.AtMostOnce

/-!
# What is recorded of a dispatched write

`OutcomeSound` is what a record promises its reader: a dispatched write is recorded as failed or as
not applied only on evidence against it, and as succeeded only on evidence for it. Every run keeps
it for an action whose write was not misreported, that is, unless the page raised, after its
dispatching click, an exception that the handlers take to come from before it. `misreported` is a
run in which that happens.
-/

namespace BhDic.Application

open BhDic.Approvals BhDic.Dic BhDic.Library BhDic.Python
open BhDic.Library.Prog

/-- What a stored action may say of its write, once that may have been dispatched. -/
def OutcomeSound (log : List Event) (a : PendingAction) : Prop :=
  (∃ event ∈ log, event.dispatches a.actionId) →
    (a.status = .failed ∨ a.status = .reconciledNotApplied →
      ∃ event ∈ log, event.refutes a.actionId) ∧
    (a.status = .succeeded → ∃ event ∈ log, event.establishes a.actionId)

theorem OutcomeOk.outcomeSound {log : List Event} {a : PendingAction} (h : OutcomeOk log a)
    (hreported : ∀ event ∈ log, ¬event.misreports a.actionId) : OutcomeSound log a := by
  intro hdispatched
  constructor
  · intro hstatus
    have houtcome : a.status ∈ outcomeStatuses := by
      rcases hstatus with hstatus | hstatus <;> rw [hstatus] <;> decide
    obtain ⟨hsucceeded, -⟩ := h houtcome hdispatched hreported
    rw [hsucceeded] at hstatus
    rcases hstatus with hstatus | hstatus <;> cases hstatus
  · intro hstatus
    have houtcome : a.status ∈ outcomeStatuses := by
      rw [hstatus]
      decide
    exact (h houtcome hdispatched hreported).2

/-- **Sound outcomes.** In every interleaving of requests, whatever the adapter and the repository
answer, a stored action is recorded soundly if no write of it was misreported. -/
theorem execution_outcomeSound {σ : Type} {R : LawfulRepository σ} {coordinator : Coordinator}
    {s₀ : σ} (h₀ : R.Represents s₀ .empty)
    {c : Config executionEffect Exn Response Request (World σ)}
    (h : Reachable (executionSystem R coordinator) ⟨s₀, []⟩ c) {id : String} {a : PendingAction}
    (ha : R.stored c.shared.store id = some a)
    (hreported : ∀ event ∈ c.shared.log, ¬event.misreports a.actionId) :
    OutcomeSound c.shared.log a := by
  obtain ⟨ks, S, hrep, hok⟩ := h.invariant (runOk_isInvariant R coordinator) (runOk_start h₀)
  rw [R.stored_eq hrep] at ha
  exact (hok.outcomes id a ha).outcomeSound hreported

/-- The write goes well: the action succeeds on the evidence of the reconciliation. -/
theorem execution_outcomeSound_sampleWorld :
    let w := sampleWorld inMemory {} ⟨true, .ok ()⟩
    ∃ a, inMemory.stored w.store "a-1" = some a ∧ a.status = .succeeded ∧
      OutcomeSound w.log a := by
  have hstatus : (inMemory.stored (sampleWorld inMemory {} ⟨true, .ok ()⟩).store "a-1").map
      (fun a => (a.status, a.actionId)) = some (.succeeded, "a-1") := by decide
  obtain ⟨a, ha, hsucceeded⟩ := Option.map_eq_some_iff.mp hstatus
  obtain ⟨hsucceeded, hid⟩ := Prod.mk.inj hsucceeded
  refine ⟨a, ha, hsucceeded, execution_outcomeSound InMemoryStore.represents_empty
    (sampleWorld_reachable _ _ _) ha ?_⟩
  rw [hid]
  decide

/-- What a page raises when it reads a response nested too deeply, after the click. -/
def deepResponse : Exn :=
  ⟨.recursionError, "maximum recursion depth exceeded while decoding a JSON array"⟩

/-- A run in which the write is dispatched and, without any evidence against it, recorded as
failed. -/
theorem misreported :
    ∃ c, Reachable (executionSystem inMemory sampleCoordinator) ⟨{}, []⟩ c ∧
      ∃ id a, inMemory.stored c.shared.store id = some a ∧ ¬OutcomeSound c.shared.log a := by
  refine ⟨_, sampleWorld_reachable inMemory {} ⟨true, .error deepResponse⟩, "a-1", ?_⟩
  have hstatus : (inMemory.stored (sampleWorld inMemory {} ⟨true, .error deepResponse⟩).store
      "a-1").map (fun a => (a.status, a.actionId)) = some (.failed, "a-1") := by decide
  obtain ⟨a, ha, hfailed⟩ := Option.map_eq_some_iff.mp hstatus
  obtain ⟨hfailed, hid⟩ := Prod.mk.inj hfailed
  refine ⟨a, ha, fun hsound => ?_⟩
  have hdispatched : ∃ event ∈ (sampleWorld inMemory {} ⟨true, .error deepResponse⟩).log,
      event.dispatches "a-1" := by decide
  have hrefuted : ¬∃ event ∈ (sampleWorld inMemory {} ⟨true, .error deepResponse⟩).log,
      event.refutes "a-1" := by decide
  rw [OutcomeSound, hid] at hsound
  exact hrefuted ((hsound hdispatched).1 (.inl hfailed))

end BhDic.Application
