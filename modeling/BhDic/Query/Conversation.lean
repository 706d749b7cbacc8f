import BhDic.Query.Context

/-!
# One conversation

What the store is for a single key: the abstract model of a conversation that has the store to
itself. Its entries expire, but there are no other keys and there is no capacity.
-/

namespace BhDic.Query

open BhDic.Library BhDic.Python BhDic.Security

variable {T : Type} [LinearOrder T]

@[ext]
structure Conversation (T : Type) where
  context : Option (ConversationContext T) := none
  pendingTarget : Option (PendingEmployeeTarget T) := none
  currentEmployee : Option (CurrentEmployeeContext T) := none
  menus : String → Option (ConversationContext T) := fun _ => none

namespace Conversation

/-- What has not expired. -/
def alive (now : T) (v : Conversation T) : Conversation T where
  context := v.context.filter fun entry => now < entry.expiresAt
  pendingTarget := v.pendingTarget.filter fun entry => now < entry.expiresAt
  currentEmployee := v.currentEmployee.filter fun entry => now < entry.expiresAt
  menus id := (v.menus id).filter fun entry => now < entry.expiresAt

/-- A call, at a time. What a removal returns is left out: it tells of expired entries too. -/
def step (c : StoreSettings T) (now : T) (v : Conversation T) :
    StoreMethod → Except Exn (StoreAnswer T) × Conversation T
  | .rememberCandidates candidateEmployeeIds functionId parameters contextId =>
      match newContext c now candidateEmployeeIds functionId parameters with
      | .error e => (.error e, v)
      | .ok context => (.ok (.contextId contextId), { v.alive now with
          context := some context
          pendingTarget := none
          menus := fun id => if id = contextId then some context else (v.alive now).menus id })
  | .rememberPendingTarget functionId parameters =>
      if isFunctionId functionId then
        match newPendingTarget c now functionId parameters with
        | .error e => (.error e, v.alive now)
        | .ok target => (.ok .nothing, { v.alive now with pendingTarget := some target })
      else (.error ⟨.valueError, "invalid context function identifier"⟩, v)
  | .pendingTarget request =>
      if isBareReference c.unicode request then
        (.ok (.pending (v.alive now).pendingTarget), v.alive now)
      else (.ok (.pending none), v)
  | .clearPendingTarget => (.ok .nothing, { v with pendingTarget := none })
  | .rememberCurrentEmployee employeeId =>
      match newCurrentEmployee c now employeeId with
      | .error e => (.error e, v.alive now)
      | .ok current => (.ok .nothing, { v.alive now with currentEmployee := some current })
  | .currentEmployee =>
      (.ok (.employee ((v.alive now).currentEmployee.map (·.employeeId))), v.alive now)
  | .selection request =>
      match (v.alive now).context with
      | none => (.ok (.selected none), v.alive now)
      | some context =>
          ((selectedCandidate c.unicode request context.candidateEmployeeIds).map fun choice =>
            .selected (choice.map fun selected => (selected, context)), v.alive now)
  | .activateSelectionContext contextId employeeId =>
      if isSelectionContextId contextId then
        match validateEmployeeId c.unicode employeeId with
        | .error _ => (.ok (.flag false), v)
        | .ok selected =>
            match (v.alive now).menus contextId with
            | none => (.ok (.flag false), v.alive now)
            | some context =>
                if selected ∈ context.candidateEmployeeIds then
                  (.ok (.flag true), { v.alive now with context := some context })
                else (.ok (.flag false), v.alive now)
      else (.ok (.flag false), v)
  | .candidateContext request =>
      if isBareReference c.unicode request then
        (.ok (.context (v.alive now).context), v.alive now)
      else (.ok (.context none), v)
  | .clear => (.ok .nothing, {})

theorem filter_filter {α : Type} (o : Option α) {p q : α → Bool} (h : ∀ x, q x → p x) :
    (o.filter p).filter q = o.filter q := by
  rw [Option.filter_filter]
  congr 1
  funext x
  exact Bool.and_eq_right_iff_imp.mpr (h x)

/-- What is alive later is alive now. -/
theorem alive_alive {now later : T} (h : now ≤ later) (v : Conversation T) :
    (v.alive now).alive later = v.alive later := by
  have hlt : ∀ t : T, decide (later < t) = true → decide (now < t) = true := by
    intro t ht
    exact decide_eq_true (lt_of_le_of_lt h (of_decide_eq_true ht))
  ext1
  · exact filter_filter _ fun _ => hlt _
  · exact filter_filter _ fun _ => hlt _
  · exact filter_filter _ fun _ => hlt _
  · funext id
    exact filter_filter _ fun _ => hlt _

/-- A call depends on what is alive, and keeps what is alive apart from its own effect. -/
theorem step_congr (c : StoreSettings T) {now : T} {v w : Conversation T}
    (h : v.alive now = w.alive now) (method : StoreMethod) :
    (v.step c now method).1 = (w.step c now method).1 ∧
      (v.step c now method).2.alive now = (w.step c now method).2.alive now := by
  cases method with
  | rememberCandidates candidateEmployeeIds functionId parameters contextId =>
      simp only [step, h]
      split
      · exact ⟨rfl, h⟩
      · exact ⟨rfl, rfl⟩
  | rememberPendingTarget functionId parameters =>
      simp only [step, h]
      split
      · exact ⟨rfl, rfl⟩
      · exact ⟨rfl, h⟩
  | pendingTarget request =>
      simp only [step, h]
      split
      · exact ⟨rfl, rfl⟩
      · exact ⟨rfl, h⟩
  | clearPendingTarget =>
      refine ⟨rfl, ?_⟩
      have hcontext := congrArg context h
      have hcurrent := congrArg currentEmployee h
      have hmenus := congrArg menus h
      ext1
      · exact hcontext
      · rfl
      · exact hcurrent
      · exact hmenus
  | rememberCurrentEmployee employeeId =>
      simp only [step, h, and_self]
  | currentEmployee => simp only [step, h, and_self]
  | selection request => simp only [step, h, and_self]
  | activateSelectionContext contextId employeeId =>
      simp only [step, h]
      split
      · split
        · exact ⟨rfl, h⟩
        · exact ⟨rfl, rfl⟩
      · exact ⟨rfl, h⟩
  | candidateContext request =>
      simp only [step, h]
      split
      · exact ⟨rfl, rfl⟩
      · exact ⟨rfl, h⟩
  | clear => exact ⟨rfl, rfl⟩

end Conversation

end BhDic.Query
