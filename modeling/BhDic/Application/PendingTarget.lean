import BhDic.Application.Ask
import BhDic.Query.Capacity
import BhDic.Query.Provenance
import BhDic.Library.Trace

/-!
# The operation that waits for a target

A conversation is a sequence of messages and menu selections, each carried through before the next
one starts, beside any use other conversations make of the store. `pending_target` says that it
consumes what a follow-up selects; what it hands out is in fact spent by `clear_pending_target`,
which only the search for a named employee calls. An ordinal, an identifier or a menu resolves the
same operation and leaves its entry behind.
-/

namespace BhDic.Application

open BhDic.Library BhDic.Python BhDic.Query BhDic.Security
open BhDic.Library.Prog (Discipline Guarded)

variable {T : Type}

/-! ## Conversations -/

/-- A message, or a choice from a menu. -/
inductive Turn
  | message (request : String)
  | menuSelection (contextId employeeId : String)

def Turn.body (i : Interpreter) : Turn → AskProg T AskResponse
  | .message request => askAssistant i request
  | .menuSelection contextId employeeId => selectEmployee i contextId employeeId

/-- A call with its answer, and the turn, the time and the store it was made at. -/
structure Observed (T : Type) where
  turn : Nat
  time : T
  store : ConversationContextStore T
  call : (askEffect T).Answered

/-- How far a conversation has come. -/
structure Conversing (T : Type) where
  turns : Nat := 0
  seen : List (Observed T) := []
  store : ConversationContextStore T := {}
  task : Option (AskProg T AskResponse) := none

def AskOp.IsStore : AskOp → Prop
  | .store _ => True
  | _ => False

/-- A turn ends at its last call, and may be cancelled where it awaits. -/
def MayStop : AskProg T AskResponse → Prop
  | .call o _ => ¬o.IsStore
  | _ => True

/-- The turn makes the call `o`, and goes on with its answer. -/
def Conversing.answered (w : Conversing T) (now : T) (o : AskOp) (answer : (askEffect T).Ans o)
    (store : ConversationContextStore T) (rest : AskProg T AskResponse) : Conversing T where
  turns := w.turns
  seen := w.seen ++ [⟨w.turns, now, w.store, o, answer⟩]
  store := store
  task := some rest

/-- What a conversation with the key `key` can come to. -/
inductive Conversed [LinearOrder T] (c : StoreSettings T) (i : Interpreter)
    (key : ConversationKey) : Conversing T → Prop
  | initial : Conversed c i key {}
  /-- Another conversation uses the store. -/
  | elsewhere {w : Conversing T} (e : StoreEvent T) : Conversed c i key w → e.key ≠ key →
      Conversed c i key { w with store := w.store.after c e }
  | turn {w : Conversing T} (turn : Turn) : Conversed c i key w → w.task = none →
      Conversed c i key { w with turns := w.turns + 1, task := some (turn.body i) }
  | store {w : Conversing T} {method : StoreMethod}
      {k : (askEffect T).Ans (.store method) → AskProg T AskResponse} (now : T) :
      Conversed c i key w → w.task = some (.call (.store method) k) →
      Conversed c i key (w.answered now (.store method) (w.store.step c now key method).1
        (w.store.step c now key method).2 (k (w.store.step c now key method).1))
  | await {w : Conversing T} {o : AskOp} {k : (askEffect T).Ans o → AskProg T AskResponse}
      (now : T) (answer : (askEffect T).Ans o) :
      Conversed c i key w → w.task = some (.call o k) → ¬o.IsStore →
      Conversed c i key (w.answered now o answer w.store (k answer))
  /-- A search that finds one person remembers it, before it is answered. -/
  | found {w : Conversing T} {o : AskOp} {k : (askEffect T).Ans o → AskProg T AskResponse}
      (now : T) (employeeId : String) :
      Conversed c i key w → w.task = some (.call o k) → ¬o.IsStore →
      Conversed c i key
        { w with store := (w.store.step c now key (.rememberCurrentEmployee employeeId)).2 }
  | stop {w : Conversing T} {p : AskProg T AskResponse} : Conversed c i key w →
      w.task = some p → MayStop p → Conversed c i key { w with task := none }

/-! ## Spending an operation -/

/-- Whether a call at a time records an entry. -/
def Records (c : StoreSettings T) (now : T) (target : PendingEmployeeTarget T) :
    StoreMethod → Prop
  | .rememberPendingTarget functionId parameters =>
      isFunctionId functionId = true ∧ newPendingTarget c now functionId parameters = .ok target
  | _ => False

/-- `remember_pending_target` stored the entry. -/
def Observed.Stores (c : StoreSettings T) (x : Observed T) (target : PendingEmployeeTarget T) :
    Prop :=
  ∃ method, x.call.1 = .store method ∧ Records c x.time target method

/-- `pending_target` returned the entry. -/
def Observed.HandsOut (x : Observed T) (target : PendingEmployeeTarget T) : Prop :=
  ∃ request, x.call = ⟨.store (.pendingTarget request), .ok (.pending (some target))⟩

/-- An employee was found for the operation: one of its candidates was selected, or a search by name
found a single person. -/
def Observed.Resolves (x : Observed T) (target : PendingEmployeeTarget T) : Prop :=
  (∃ request employeeId context,
    x.call = ⟨.store (.selection request), .ok (.selected (some (employeeId, context)))⟩ ∧
      context.functionId = target.functionId ∧ context.parameters = target.parameters) ∨
  ∃ query allowed entry, x.call = ⟨.employeeCandidates query allowed, .ok ([entry], false)⟩

/-- No message gets an entry back for whose operation an earlier message has found an employee since
the entry was stored. -/
def SpentOnce (c : StoreSettings T) (seen : List (Observed T)) : Prop :=
  ∀ (target : PendingEmployeeTarget T) (before : List (Observed T)) (stored : Observed T)
    (since : List (Observed T)) (returned : Observed T) (after : List (Observed T)),
    seen = before ++ stored :: (since ++ returned :: after) →
    stored.Stores c target → (∀ x ∈ since, ∀ other, ¬x.Stores c other) → returned.HandsOut target →
    ∀ x ∈ since, x.turn < returned.turn → ¬x.Resolves target

/-- A message selects one of the candidates remembered for the very operation that is still waiting
for a target. -/
def Observed.SelectsPending [LinearOrder T] (c : StoreSettings T) (key : ConversationKey)
    (x : Observed T) : Prop :=
  ∃ request context employeeId target,
    x.call.1 = .store (.selection request) ∧
    (x.store.purgeExpired x.time).items.get? key = some context ∧
    selectedCandidate c.unicode request context.candidateEmployeeIds = .ok (some employeeId) ∧
    (x.store.purgeExpired x.time).pendingTargets.get? key = some target ∧
    context.functionId = target.functionId ∧ context.parameters = target.parameters

/-! ## The programs -/

/-- A search that found one person owes the entry's removal, which comes next. -/
def spending (T : Type) : Discipline (askEffect T) Bool where
  permits owed o := owed = true → o = .store .clearPendingTarget
  promises _ _ := True
  learn _ o a :=
    match o, a with
    | .employeeCandidates _ _, .ok ([_], false) => true
    | _, _ => false

/-- Nothing is owed after a program, if nothing is before it. -/
def OwesNothing {α : Type} (p : AskProg T α) : Prop :=
  Guarded (spending T) p (fun _ owed => owed = false) false

namespace OwesNothing

variable {α β : Type}

theorem pure (a : α) : OwesNothing (.pure a : AskProg T α) := rfl

theorem throw (e : Exn) : OwesNothing (.throw e : AskProg T α) := rfl

theorem bind {p : AskProg T α} {f : α → AskProg T β} (hp : OwesNothing p)
    (hf : ∀ a, OwesNothing (f a)) : OwesNothing (p.bind f) := by
  show Guarded _ _ _ _
  rw [Prog.guarded_bind]
  refine Prog.guarded_mono ?_ hp
  intro r owed howed
  subst howed
  cases r with
  | ok a => exact hf a
  | error e => rfl

theorem ofExcept (r : Except Exn α) : OwesNothing (Prog.ofExcept r : AskProg T α) := by
  cases r <;> rfl

theorem require (condition : Prop) [Decidable condition] (e : Exn) :
    OwesNothing (Prog.require condition e : AskProg T Unit) := by
  unfold Prog.require
  split
  · exact pure ()
  · exact throw e

theorem ite (condition : Prop) [Decidable condition] {p q : AskProg T α} (hp : OwesNothing p)
    (hq : OwesNothing q) : OwesNothing (if condition then p else q) := by
  split
  · exact hp
  · exact hq

end OwesNothing

theorem guarded_await {K : Type} {D : Discipline (askEffect T) K} {o : AskOp} {k : K}
    {Q : Except Exn (o.Returns T) → K → Prop} :
    Guarded D (await o) Q k ↔
      D.permits k o ∧ ∀ a, D.promises o a → Q a (D.learn k o a) := by
  rw [await, Prog.guarded_bind, Prog.guarded_ask]
  exact and_congr Iff.rfl (forall_congr' fun a => imp_congr Iff.rfl (Prog.guarded_ofExcept _ _ _))

/-- Only a search for candidates makes anything owed. -/
theorem owesNothing_await {o : AskOp} (h : ∀ a, (spending T).learn false o a = false) :
    OwesNothing (T := T) (await o) :=
  guarded_await.mpr ⟨fun howed => Bool.noConfusion howed, fun a _ => h a⟩

theorem owesNothing_localOrProvider (normalized : String) (visible : List String)
    (found : Option LocalIntent) :
    OwesNothing (T := T) (localOrProvider normalized visible found) := by
  cases found with
  | some found => exact .pure _
  | none => exact .bind (owesNothing_await fun _ => rfl) fun _ => .pure _

theorem owesNothing_route (i : Interpreter) (normalized : String) (contextIntent : Option Intent)
    (pending : Option (PendingEmployeeTarget T)) (visible : List String) :
    OwesNothing (route i normalized contextIntent pending visible) := by
  unfold route
  split
  · exact .pure _
  · exact .bind (.ofExcept _) fun _ => .pure _
  · split
    · exact owesNothing_localOrProvider _ _ _
    · apply OwesNothing.ite
      · exact .bind (owesNothing_await fun _ => rfl) fun _ => .pure _
      · exact owesNothing_localOrProvider _ _ _

theorem owesNothing_rememberedEmployee (intent : Intent) :
    OwesNothing (T := T) (rememberedEmployee intent) := by
  apply OwesNothing.ite
  · exact .bind (owesNothing_await fun _ => rfl) fun _ => .pure _
  · exact .pure _

theorem owesNothing_inferTarget (normalized : String) (intent : Intent) :
    OwesNothing (T := T) (inferTarget normalized intent) := by
  apply OwesNothing.bind (owesNothing_await fun _ => rfl)
  intro inferred
  cases inferred with
  | some entry => exact .pure _
  | none => exact .ite _ (.pure _) (.pure _)

theorem owesNothing_supplyTarget (normalized : String) (intent : Intent)
    (targetQuery : Option String) :
    OwesNothing (T := T) (supplyTarget normalized intent targetQuery) := by
  apply OwesNothing.ite
  · apply OwesNothing.bind (owesNothing_rememberedEmployee intent)
    intro remembered
    cases remembered with
    | some employeeId => exact .pure _
    | none => exact owesNothing_inferTarget normalized intent
  · exact .pure _

theorem owesNothing_clarify (intent : Intent) : OwesNothing (T := T) (clarify intent) := by
  have hremember : OwesNothing (T := T) (rememberTarget intent) := by
    apply OwesNothing.ite
    · exact .bind (owesNothing_await fun _ => rfl) fun _ => .pure _
    · exact .pure _
  apply OwesNothing.bind hremember
  intro _
  exact .bind (owesNothing_await fun _ => rfl) fun _ => .pure _

theorem owesNothing_perform (intent : Intent) (scope : String) :
    OwesNothing (T := T) (perform intent scope) := by
  apply OwesNothing.ite
  · apply OwesNothing.bind (.ofExcept _)
    intro year
    exact .bind (.ofExcept _) fun _ => owesNothing_await fun _ => rfl
  apply OwesNothing.ite
  · exact owesNothing_await fun _ => rfl
  · exact owesNothing_await fun _ => rfl

theorem owesNothing_rememberRead (intent : Intent) (response : AskResponse) :
    OwesNothing (T := T) (rememberRead intent response) := by
  unfold rememberRead
  split
  · apply OwesNothing.ite
    · exact .bind (owesNothing_await fun _ => rfl) fun _ => .pure _
    · exact .pure _
  · exact .pure _

theorem owesNothing_authorizeAndPerform (i : Interpreter) (normalized : String) (intent : Intent)
    (resolved : Option RosterEntry) :
    OwesNothing (T := T) (authorizeAndPerform i normalized intent resolved) := by
  apply OwesNothing.bind (owesNothing_await fun _ => rfl)
  intro decision
  apply OwesNothing.ite
  · exact .bind (owesNothing_await fun _ => rfl) fun _ => .throw _
  · split
    · exact .pure _
    · apply OwesNothing.bind (owesNothing_perform _ _)
      intro response
      apply OwesNothing.bind (owesNothing_rememberRead _ _)
      intro _
      exact .bind (owesNothing_await fun _ => rfl) fun _ => .pure _

theorem owesNothing_offerCandidates (intent : Intent) (candidates : List RosterEntry)
    (suggestionsOnly : Bool) :
    OwesNothing (T := T) (offerCandidates intent candidates suggestionsOnly) := by
  apply OwesNothing.bind (owesNothing_await fun _ => rfl)
  intro contextId
  apply OwesNothing.bind (owesNothing_await fun _ => rfl)
  intro _
  exact .bind (owesNothing_await fun _ => rfl) fun _ => .pure _

/-- When one person is found the removal is owed, and the search is over. -/
theorem guarded_concludeSearch (intent : Intent) (restricted : Bool) (query : String)
    (allowed : Option (List String)) (found : List RosterEntry × Bool) :
    Guarded (spending T) (concludeSearch intent restricted found)
      (fun r owed => owed = true → ∃ entry, r = .ok (.inl entry))
      ((spending T).learn false (.employeeCandidates query allowed) (.ok found)) := by
  have hoffered : OwesNothing (T := T) (do
      let response ← offerCandidates intent found.1 found.2
      return (.inr response : RosterEntry ⊕ AskResponse)) :=
    .bind (owesNothing_offerCandidates _ _ _) fun _ => .pure _
  have hnone : ∀ r : Except Exn (RosterEntry ⊕ AskResponse), ∀ owed : Bool, owed = false →
      owed = true → ∃ entry, r = .ok (.inl entry) := by
    intro r owed hfalse htrue
    exact absurd (hfalse.symm.trans htrue) Bool.false_ne_true
  obtain ⟨candidates, suggestionsOnly⟩ := found
  rcases candidates with _ | ⟨first, _ | ⟨second, rest⟩⟩
  · exact fun howed => Bool.noConfusion howed
  · cases suggestionsOnly with
    | false => exact fun _ => ⟨first, rfl⟩
    | true => exact Prog.guarded_mono hnone hoffered
  · exact Prog.guarded_mono hnone hoffered

theorem guarded_resolveEmployeeTarget (i : Interpreter) (query : String) (intent : Intent)
    (allowed : Option (List String)) :
    Guarded (spending T) (resolveEmployeeTarget i query intent allowed)
      (fun r owed => owed = true → ∃ entry, r = .ok (.inl entry)) false := by
  refine Prog.guarded_bind.mpr ((Prog.guarded_ofExcept _ _ _).mpr ?_)
  cases normalizeText i.unicode query 128 false with
  | error e => exact fun howed => Bool.noConfusion howed
  | ok normalized =>
      refine Prog.guarded_bind.mpr (guarded_await.mpr ⟨fun howed => Bool.noConfusion howed, ?_⟩)
      intro answer _
      cases answer with
      | error e => exact fun howed => Bool.noConfusion howed
      | ok found => exact guarded_concludeSearch intent _ normalized allowed found

/-- What is owed is settled first. -/
theorem guarded_proceedWith (i : Interpreter) (normalized : String) (intent : Intent) {owed : Bool}
    {found : RosterEntry ⊕ AskResponse} (h : owed = true → ∃ entry, found = .inl entry) :
    Guarded (spending T) (proceedWith i normalized intent found) (fun _ owed => owed = false)
      owed := by
  cases found with
  | inr response =>
      show owed = false
      by_contra howed
      obtain ⟨entry, hentry⟩ := h (Bool.not_eq_false _ ▸ howed)
      cases hentry
  | inl entry =>
      refine Prog.guarded_bind.mpr (guarded_await.mpr ⟨fun _ => rfl, ?_⟩)
      intro answer _
      cases answer with
      | error e => rfl
      | ok _ => exact owesNothing_authorizeAndPerform i normalized _ _

theorem owesNothing_settle (i : Interpreter) (normalized : String) (intent : Intent)
    (targetQuery : Option String) (resolved : Option RosterEntry) (visible : List String)
    (candidates : Option (ConversationContext T)) :
    OwesNothing (settle i normalized intent targetQuery resolved visible candidates) := by
  apply OwesNothing.ite
  · exact owesNothing_clarify intent
  apply OwesNothing.ite
  · exact .pure _
  cases targetQuery with
  | none => exact owesNothing_authorizeAndPerform i normalized intent resolved
  | some query =>
      apply OwesNothing.ite
      · refine Prog.guarded_bind.mpr (Prog.guarded_mono ?_
          (guarded_resolveEmployeeTarget i query intent _))
        intro r owed howed
        cases r with
        | error e =>
            show owed = false
            by_contra htrue
            obtain ⟨entry, hentry⟩ := howed (Bool.not_eq_false _ ▸ htrue)
            cases hentry
        | ok found =>
            apply guarded_proceedWith i normalized intent
            intro htrue
            obtain ⟨entry, hentry⟩ := howed htrue
            exact ⟨entry, Except.ok.inj hentry⟩
      · exact owesNothing_authorizeAndPerform i normalized intent resolved

theorem owesNothing_pursue (i : Interpreter) (normalized : String) (visible : List String)
    (candidates : Option (ConversationContext T)) (routed : Routed) :
    OwesNothing (pursue i normalized visible candidates routed) := by
  cases routed with
  | inr response => exact .pure _
  | inl routed =>
      exact .bind (owesNothing_supplyTarget _ _ _) fun _ => owesNothing_settle i _ _ _ _ _ _

theorem owesNothing_askAssistant (i : Interpreter) (request : String) :
    OwesNothing (T := T) (askAssistant i request) := by
  apply OwesNothing.bind (.ofExcept _)
  intro normalized
  apply OwesNothing.bind (owesNothing_await fun _ => rfl)
  intro selection
  apply OwesNothing.bind (owesNothing_await fun _ => rfl)
  intro candidates
  apply OwesNothing.bind (owesNothing_await fun _ => rfl)
  intro pending
  apply OwesNothing.bind (.ofExcept _)
  intro contextIntent
  apply OwesNothing.ite
  · exact owesNothing_await fun _ => rfl
  · apply OwesNothing.bind (owesNothing_await fun _ => rfl)
    intro visible
    exact .bind (owesNothing_route i _ _ _ _) fun _ => owesNothing_pursue i _ _ _ _

theorem owesNothing_body (i : Interpreter) (turn : Turn) :
    OwesNothing (T := T) (turn.body i) := by
  cases turn with
  | message request => exact owesNothing_askAssistant i request
  | menuSelection contextId employeeId =>
      apply OwesNothing.bind (owesNothing_await fun _ => rfl)
      intro activated
      apply OwesNothing.ite
      · exact owesNothing_askAssistant i _
      · exact .pure _

/-! ## The store -/

section Store

variable [LinearOrder T] {c : StoreSettings T} {s : ConversationContextStore T} {now : T}
  {key key' : ConversationKey} {target : PendingEmployeeTarget T}

/-- A selection takes nothing that is pending away. -/
theorem pendingTargets_selection (c : StoreSettings T) (key : ConversationKey) (request : String) :
    (s.selection c now key request).2.pendingTargets = (s.purgeExpired now).pendingTargets := by
  simp only [ConversationContextStore.selection]
  split
  · rfl
  · split <;> rfl

/-- An entry that is pending after a call was recorded by it, or was pending before. -/
theorem get?_pendingTargets_step {method : StoreMethod}
    (h : (s.step c now key method).2.pendingTargets.get? key' = some target) :
    (key' = key ∧ Records c now target method) ∨ s.pendingTargets.get? key' = some target := by
  have hpurged : (s.purgeExpired now).pendingTargets.get? key' = some target →
      s.pendingTargets.get? key' = some target := Dict.get?_of_filterValues
  cases method with
  | rememberCandidates candidateEmployeeIds functionId parameters contextId =>
      simp only [ConversationContextStore.step] at h
      split at h
      · exact .inr h
      · exact .inr (hpurged (Dict.get?_of_erase h))
  | rememberPendingTarget functionId parameters =>
      simp only [ConversationContextStore.step] at h
      split at h
      · rename_i hid
        split at h
        · exact .inr (hpurged h)
        · rename_i recorded hrecorded
          rcases get?_rememberLast_some h with ⟨rfl, rfl⟩ | hkept
          · exact .inl ⟨rfl, hid, hrecorded⟩
          · exact .inr (hpurged hkept)
      · exact .inr h
  | pendingTarget request =>
      simp only [ConversationContextStore.step] at h
      split at h
      · exact .inr (hpurged ((Dict.get?_moveToEnd _ _ _).symm.trans h))
      · exact .inr h
  | clearPendingTarget => exact .inr (Dict.get?_of_erase h)
  | rememberCurrentEmployee employeeId =>
      simp only [ConversationContextStore.step] at h
      split at h
      · exact .inr (hpurged h)
      · exact .inr (hpurged h)
  | currentEmployee => exact .inr (hpurged h)
  | selection request =>
      apply Or.inr
      apply hpurged
      rw [← pendingTargets_selection c key request]
      exact h
  | activateSelectionContext contextId employeeId =>
      simp only [ConversationContextStore.step] at h
      split at h
      · split at h
        · exact .inr h
        · simp only [ConversationContextStore.activate] at h
          split at h
          · exact .inr (hpurged h)
          · split at h
            · exact .inr (hpurged h)
            · exact .inr (hpurged h)
      · exact .inr h
  | candidateContext request =>
      simp only [ConversationContextStore.step] at h
      split at h
      · exact .inr (hpurged h)
      · exact .inr h
  | clear => exact .inr (Dict.get?_of_erase h)

/-- What a call records replaces what was pending. -/
theorem records_of_get?_step {method : StoreMethod} {other : PendingEmployeeTarget T}
    (h : (s.step c now key method).2.pendingTargets.get? key = some target)
    (hrecords : Records c now other method) : Records c now target method := by
  cases method with
  | rememberPendingTarget functionId parameters =>
      obtain ⟨hid, hother⟩ := hrecords
      simp only [ConversationContextStore.step, hid, hother, if_true] at h
      have hget := Dict.get?_trim h
      rw [Dict.get?_moveToEnd, Dict.get?_set, if_pos rfl] at hget
      exact ⟨hid, Option.some.inj hget ▸ hother⟩
  | _ => exact hrecords.elim

/-- What a selection returns. -/
theorem selection_eq_some {request employeeId : String} {context : ConversationContext T}
    (h : (s.step c now key (.selection request)).1 = .ok (.selected (some (employeeId, context)))) :
    (s.purgeExpired now).items.get? key = some context ∧
      selectedCandidate c.unicode request context.candidateEmployeeIds = .ok (some employeeId) := by
  simp only [ConversationContextStore.step, ConversationContextStore.selection] at h
  split at h
  · simp [Except.map] at h
  · rename_i found hfound
    split at h
    · simp [Except.map] at h
    · simp [Except.map] at h
    · rename_i selected hselected
      obtain ⟨rfl, rfl⟩ : selected = employeeId ∧ found = context := by
        simpa [Except.map] using h
      exact ⟨hfound, hselected⟩

/-- What `pending_target` hands out is pending. -/
theorem pendingTarget_eq_some {request : String}
    (h : (s.step c now key (.pendingTarget request)).1 = .ok (.pending (some target))) :
    s.pendingTargets.get? key = some target := by
  simp only [ConversationContextStore.step] at h
  split at h
  · have hget : (s.purgeExpired now).pendingTargets.get? key = some target := by
      simpa [ConversationContextStore.pendingTarget] using h
    exact Dict.get?_of_filterValues hget
  · simp at h

end Store

/-! ## Histories -/

section Histories

variable {c : StoreSettings T} {seen : List (Observed T)} {x : Observed T}
  {target : PendingEmployeeTarget T}

/-- The entry was stored, and since then no other was, and no employee was found for its operation. -/
def Outstanding (c : StoreSettings T) (seen : List (Observed T))
    (target : PendingEmployeeTarget T) : Prop :=
  ∃ before stored since, seen = before ++ stored :: since ∧ stored.Stores c target ∧
    (∀ y ∈ since, ∀ other, ¬y.Stores c other) ∧ ∀ y ∈ since, ¬y.Resolves target

theorem outstanding_of_stores (h : x.Stores c target) : Outstanding c (seen ++ [x]) target :=
  ⟨seen, x, [], rfl, h, by simp, by simp⟩

theorem Outstanding.append (h : Outstanding c seen target) (hstores : ∀ other, ¬x.Stores c other)
    (hresolves : ¬x.Resolves target) : Outstanding c (seen ++ [x]) target := by
  obtain ⟨before, stored, since, rfl, hstored, hquiet, hopen⟩ := h
  refine ⟨before, stored, since ++ [x], by simp, hstored, ?_, ?_⟩
  · intro y hy
    rcases List.mem_append.mp hy with hy | hy
    · exact hquiet y hy
    · exact List.mem_singleton.mp hy ▸ hstores
  · intro y hy
    rcases List.mem_append.mp hy with hy | hy
    · exact hopen y hy
    · exact List.mem_singleton.mp hy ▸ hresolves

/-- A history has one place where it was last stored to. -/
theorem since_unique {α : Type} {P : α → Prop} {before before' since since' : List α} {y y' : α}
    (h : before ++ y :: since = before' ++ y' :: since') (hy : P y) (hy' : P y')
    (hsince : ∀ z ∈ since, ¬P z) (hsince' : ∀ z ∈ since', ¬P z) : since = since' := by
  rcases List.append_eq_append_iff.mp h with ⟨middle, -, heq⟩ | ⟨middle, -, heq⟩
  · cases middle with
    | nil => exact (List.cons.inj heq).2
    | cons z middle =>
        have hmem : y' ∈ since := by
          rw [(List.cons.inj heq).2]
          simp
        exact absurd hy' (hsince y' hmem)
  · cases middle with
    | nil => exact (List.cons.inj heq).2.symm
    | cons z middle =>
        have hmem : y ∈ since' := by
          rw [(List.cons.inj heq).2]
          simp
        exact absurd hy (hsince' y hmem)

/-- What is handed out last must be outstanding. -/
theorem SpentOnce.append (h : SpentOnce c seen)
    (hx : ∀ target, x.HandsOut target → Outstanding c seen target) :
    SpentOnce c (seen ++ [x]) := by
  intro target before stored since returned after heq hstored hquiet hreturned y hy hturn
  rcases after.eq_nil_or_concat with rfl | ⟨after, last, rfl⟩
  · -- the entry is handed out by `x`
    have hsplit : seen ++ [x] = (before ++ stored :: since) ++ [returned] := by simpa using heq
    obtain ⟨hseen, hlast⟩ := List.append_inj' hsplit rfl
    obtain rfl := List.singleton_inj.mp hlast
    obtain ⟨before', stored', since', hseen', hstored', hquiet', hopen⟩ := hx target hreturned
    have hsince : since' = since :=
      since_unique (P := fun z : Observed T => ∃ other, z.Stores c other) (hseen'.symm.trans hseen)
        ⟨target, hstored'⟩ ⟨target, hstored⟩ (fun z hz hex => hex.elim (hquiet' z hz))
        fun z hz hex => hex.elim (hquiet z hz)
    exact hopen y (hsince ▸ hy)
  · have hsplit : seen ++ [x] =
        (before ++ stored :: (since ++ returned :: after)) ++ [last] := by simpa using heq
    obtain ⟨hseen, -⟩ := List.append_inj' hsplit rfl
    exact h target before stored since returned after hseen hstored hquiet hreturned y hy hturn

end Histories

/-! ## Runs -/

section Tidy

variable {c : StoreSettings T} {key : ConversationKey} {w : Conversing T} {owed : Bool}

/-- Unless a removal is owed, what is pending is outstanding. -/
structure Tidy (c : StoreSettings T) (key : ConversationKey) (w : Conversing T) (owed : Bool) :
    Prop where
  task : ∀ p, w.task = some p → Guarded (spending T) p (fun _ owed => owed = false) owed
  idle : w.task = none → owed = false
  pending : owed = false → ∀ target, w.store.pendingTargets.get? key = some target →
    Outstanding c w.seen target
  spent : SpentOnce c w.seen

/-- A change of the store that adds nothing pending. -/
theorem Tidy.shrink (h : Tidy c key w owed) {s : ConversationContextStore T}
    (hs : ∀ target, s.pendingTargets.get? key = some target →
      w.store.pendingTargets.get? key = some target) : Tidy c key { w with store := s } owed where
  task := h.task
  idle := h.idle
  pending howed target hget := h.pending howed target (hs target hget)
  spent := h.spent

/-- When a removal is owed, it is the next call. -/
theorem Tidy.owes_nothing (h : Tidy c key w owed) {o : AskOp}
    {k : (askEffect T).Ans o → AskProg T AskResponse} (htask : w.task = some (.call o k))
    (hclear : o ≠ .store .clearPendingTarget) : owed = false := by
  have hpermits := (h.task _ htask).1
  cases owed with
  | false => rfl
  | true => exact absurd (hpermits rfl) hclear

theorem ne_clear_of_not_isStore {o : AskOp} (h : ¬o.IsStore) :
    o ≠ .store .clearPendingTarget := by
  intro heq
  exact h (heq ▸ trivial)

theorem Tidy.await (h : Tidy c key w owed) {o : AskOp} {now : T}
    {k : (askEffect T).Ans o → AskProg T AskResponse} (answer : (askEffect T).Ans o)
    (htask : w.task = some (.call o k)) (hstore : ¬o.IsStore) :
    Tidy c key (w.answered now o answer w.store (k answer))
      ((spending T).learn false o answer) := by
  have howed := h.owes_nothing htask (ne_clear_of_not_isStore hstore)
  subst howed
  have hnone : ∀ method, o ≠ .store method := fun method heq => hstore (heq ▸ trivial)
  constructor
  case task =>
    intro p hp
    obtain rfl := Option.some.inj hp
    exact (h.task _ htask).2 _ trivial
  case idle =>
    intro hidle
    cases hidle
  case spent =>
    apply h.spent.append
    intro target hreturned
    obtain ⟨request, hcall⟩ := hreturned
    exact absurd (congrArg Sigma.fst hcall) (hnone _)
  case pending =>
    intro howes target hget
    apply (h.pending rfl target hget).append
    · intro other hstores
      obtain ⟨method, hcall, -⟩ := hstores
      exact hnone method hcall
    · intro hresolves
      rcases hresolves with ⟨request, employeeId, context, hcall, -⟩ | ⟨_, _, _, hcall⟩
      · exact hnone _ (congrArg Sigma.fst hcall)
      · -- finding one person leaves its removal owed
        have hlearn : (spending T).learn false o answer = true :=
          congrArg (fun x : (askEffect T).Answered => (spending T).learn false x.1 x.2) hcall
        exact Bool.noConfusion (howes.symm.trans hlearn)

end Tidy

section Runs

variable [LinearOrder T] {c : StoreSettings T} {i : Interpreter} {key : ConversationKey}
  {w : Conversing T} {owed : Bool}

theorem Tidy.store (h : Tidy c key w owed) {method : StoreMethod} {now : T}
    {k : (askEffect T).Ans (.store method) → AskProg T AskResponse}
    (htask : w.task = some (.call (.store method) k))
    (hselects : ¬Observed.SelectsPending c key
      ⟨w.turns, now, w.store, .store method, (w.store.step c now key method).1⟩) :
    Tidy c key (w.answered now (.store method) (w.store.step c now key method).1
      (w.store.step c now key method).2 (k (w.store.step c now key method).1)) false := by
  constructor
  case task =>
    intro p hp
    obtain rfl := Option.some.inj hp
    exact (h.task _ htask).2 _ trivial
  case idle =>
    intro hidle
    cases hidle
  case spent =>
    apply h.spent.append
    intro target hreturned
    obtain ⟨request, hcall⟩ := hreturned
    obtain rfl : method = .pendingTarget request := by simpa using congrArg Sigma.fst hcall
    have howed := h.owes_nothing htask (by simp)
    have hanswer : (w.store.step c now key (.pendingTarget request)).1 =
        .ok (.pending (some target)) := eq_of_heq (Sigma.mk.inj hcall).2
    exact h.pending howed target (pendingTarget_eq_some hanswer)
  case pending =>
    intro _ target hget
    by_cases hrecords : ∃ other, Records c now other method
    · obtain ⟨other, hother⟩ := hrecords
      exact outstanding_of_stores ⟨method, rfl, records_of_get?_step hget hother⟩
    · rcases get?_pendingTargets_step hget with ⟨-, hrecorded⟩ | hbefore
      · exact absurd ⟨target, hrecorded⟩ hrecords
      have hclear : method ≠ .clearPendingTarget := by
        rintro rfl
        exact Dict.ne_of_get?_erase hget rfl
      have howed := h.owes_nothing htask (by simpa using hclear)
      apply (h.pending howed target hbefore).append
      · intro other hstores
        obtain ⟨method', hcall, hother⟩ := hstores
        obtain rfl : method = method' := by simpa using hcall
        exact hrecords ⟨other, hother⟩
      · intro hresolves
        rcases hresolves with ⟨request, employeeId, context, hcall, hop⟩ | ⟨_, _, _, hcall⟩
        · obtain rfl : method = .selection request := by simpa using congrArg Sigma.fst hcall
          have hanswer : (w.store.step c now key (.selection request)).1 =
              .ok (.selected (some (employeeId, context))) := eq_of_heq (Sigma.mk.inj hcall).2
          obtain ⟨hcontext, hselected⟩ := selection_eq_some hanswer
          have halive : (w.store.purgeExpired now).pendingTargets.get? key = some target := by
            rw [← pendingTargets_selection c key request]
            exact hget
          exact hselects ⟨request, context, employeeId, target, rfl, hcontext, hselected, halive, hop⟩
        · cases congrArg Sigma.fst hcall

/-- Every step keeps the conversation tidy, if no message selects a candidate of the operation that
still waits for one. -/
theorem Conversed.tidy (h : Conversed c i key w) (hcalls : ∀ x ∈ w.seen, ¬x.SelectsPending c key) :
    ∃ owed, Tidy c key w owed := by
  induction h with
  | initial =>
      refine ⟨false, nofun, fun _ => rfl, nofun, ?_⟩
      intro target before stored since returned after heq
      simp at heq
  | elsewhere e h hkey ih =>
      obtain ⟨owed, htidy⟩ := ih hcalls
      refine ⟨owed, htidy.shrink ?_⟩
      intro target hget
      rcases get?_pendingTargets_step hget with ⟨rfl, -⟩ | hbefore
      · exact absurd rfl hkey
      · exact hbefore
  | turn turn h htask ih =>
      obtain ⟨owed, htidy⟩ := ih hcalls
      obtain rfl := htidy.idle htask
      refine ⟨false, ?_, fun _ => rfl, htidy.pending, htidy.spent⟩
      intro p hp
      exact Option.some.inj hp ▸ owesNothing_body i turn
  | store now h htask ih =>
      obtain ⟨owed, htidy⟩ := ih fun x hx => hcalls x (List.mem_append_left _ hx)
      exact ⟨false, htidy.store htask (hcalls _ (List.mem_append_right _ (List.mem_singleton_self _)))⟩
  | await now answer h htask hstore ih =>
      obtain ⟨owed, htidy⟩ := ih fun x hx => hcalls x (List.mem_append_left _ hx)
      exact ⟨_, htidy.await answer htask hstore⟩
  | found now employeeId h htask hstore ih =>
      obtain ⟨owed, htidy⟩ := ih hcalls
      refine ⟨owed, htidy.shrink ?_⟩
      intro target hget
      rcases get?_pendingTargets_step hget with ⟨-, hrecords⟩ | hbefore
      · exact hrecords.elim
      · exact hbefore
  | @stop w p h htask hstop ih =>
      obtain ⟨owed, htidy⟩ := ih hcalls
      have howed : owed = false := by
        cases p with
        | pure response => exact htidy.task _ htask
        | throw e => exact htidy.task _ htask
        | call o k => exact htidy.owes_nothing htask (ne_clear_of_not_isStore hstop)
      exact ⟨owed, nofun, fun _ => howed, htidy.pending, htidy.spent⟩

/-- As long as no message picks one of the candidates of the operation that still waits for a
target, an operation is resumed once. -/
theorem pendingTarget_spentOnce (h : Conversed c i key w)
    (hcalls : ∀ x ∈ w.seen, ¬x.SelectsPending c key) : SpentOnce c w.seen := by
  obtain ⟨owed, htidy⟩ := h.tidy hcalls
  exact htidy.spent

end Runs

/-! ## Conversations by script -/

section Script

variable [LinearOrder T] (c : StoreSettings T) (i : Interpreter) (key : ConversationKey)

/-- Calls answered by the store at a time, and otherwise as a script has it. -/
def scripted (now : T) (answers : (o : AskOp) → (askEffect T).Ans o) (o : AskOp)
    (s : ConversationContextStore T) : (askEffect T).Ans o × ConversationContextStore T :=
  match o with
  | .store method => s.step c now key method
  | o => (answers o, s)

/-- What is seen of a turn whose calls are answered so. -/
def observations (turns : Nat) (now : T) (answers : (o : AskOp) → (askEffect T).Ans o) :
    AskProg T AskResponse → ConversationContextStore T → List (Observed T)
  | .call o k, s =>
      ⟨turns, now, s, o, (scripted c key now answers o s).1⟩ ::
        observations turns now answers (k (scripted c key now answers o s).1)
          (scripted c key now answers o s).2
  | .pure _, _ => []
  | .throw _, _ => []

/-- A conversation after one more turn. -/
def Conversing.then (w : Conversing T) (now : T) (answers : (o : AskOp) → (askEffect T).Ans o)
    (turn : Turn) : Conversing T where
  turns := w.turns + 1
  seen := w.seen ++ observations c key (w.turns + 1) now answers (turn.body i) w.store
  store := (Prog.run (scripted c key now answers) (turn.body i) w.store).2

variable {c i key} {w : Conversing T} {now : T} {answers : (o : AskOp) → (askEffect T).Ans o}

theorem Conversed.carried_through {p : AskProg T AskResponse} (h : Conversed c i key w)
    (htask : w.task = some p) :
    Conversed c i key
      { turns := w.turns
        seen := w.seen ++ observations c key w.turns now answers p w.store
        store := (Prog.run (scripted c key now answers) p w.store).2 } := by
  induction p generalizing w with
  | pure response =>
      rw [observations, List.append_nil]
      exact h.stop htask trivial
  | throw e =>
      rw [observations, List.append_nil]
      exact h.stop htask trivial
  | call o k ih =>
      have hnext : Conversed c i key (w.answered now o (scripted c key now answers o w.store).1
          (scripted c key now answers o w.store).2 (k (scripted c key now answers o w.store).1)) := by
        cases o with
        | store method => exact h.store now htask
        | _ => exact h.await now _ htask fun hstore => hstore
      have hrest := ih _ hnext rfl
      rw [show (w.answered now o _ _ _).seen = w.seen ++ _ from rfl, List.append_assoc] at hrest
      exact hrest

theorem Conversed.then (h : Conversed c i key w) (hidle : w.task = none) (turn : Turn) :
    Conversed c i key (w.then c i key now answers turn) :=
  (h.turn turn hidle).carried_through rfl

end Script

/-! ## An operation resumed twice -/

def rossi (id name : String) : RosterEntry where
  item := { employeeId := id, accountState := .connected, employeeState := .active }
  displayName := name

/-- It knows one request, for the contracts of whoever is called Rossi. -/
def contractsInterpreter : Interpreter where
  unicode := asciiTables
  isCapabilitiesRequest _ := false
  isEmployeeAggregateRequest _ := false
  buildLocalHrQueryPlan _ := none
  parseLocalOperationalIntent request :=
    if request = "contratti di rossi" then some {
      intent := { functionId := "EMP-CONTRACT-001", actionClass := some .read, parameters := .empty }
      targetQuery := some "rossi" }
    else none

/-- Two persons are called Rossi. -/
def rossiAnswers : (o : AskOp) → (askEffect Nat).Ans o
  | .store _ => .ok .nothing
  | .newContextId => .ok menuOne
  | .visibleFunctionIds => .ok ["EMP-CONTRACT-001"]
  | .routeByProvider _ _ => .ok (.inr (refusal "" ""))
  | .inferUniqueEmployeeMention _ => .ok none
  | .employeeCandidates query _ =>
      .ok (if query = "rossi" then [rossi "71" "Mario Rossi", rossi "72" "Luigi Rossi"]
        else [rossi "72" "Luigi Rossi"], false)
  | .evaluate functionId _ _ => .ok (.allow functionId)
  | .audit _ _ _ _ => .ok ()
  | .capabilities => .ok (refusal "" "")
  | .executeQueryPlan _ => .ok (refusal "" "")
  | .executeEmployeeHrDossier _ _ => .ok (refusal "" "")
  | .prepareWrite _ => .ok (refusal "" "")
  | .dispatchRead _ _ => .ok { result := { title := "Contratti", description := "" } }

/-- What a user says, a while after what was said before. -/
def rossiConversation (texts : List String) : Conversing Nat :=
  texts.foldl
    (fun w text => w.then smallStore contractsInterpreter channelOne (w.turns * 10) rossiAnswers
      (.message text)) {}

theorem conversed_rossi (texts : List String) :
    Conversed smallStore contractsInterpreter channelOne (rossiConversation texts) := by
  have hfold : ∀ w : Conversing Nat, Conversed smallStore contractsInterpreter channelOne w →
      w.task = none → Conversed smallStore contractsInterpreter channelOne (texts.foldl
        (fun w text => w.then smallStore contractsInterpreter channelOne (w.turns * 10) rossiAnswers
          (.message text)) w) := by
    induction texts with
    | nil => exact fun w h _ => h
    | cons text texts ih => exact fun w h hidle => ih _ (h.then hidle _) rfl
  exact hfold {} .initial rfl

/-- The operation that the first message leaves waiting. -/
def contractsPending : PendingEmployeeTarget Nat where
  functionId := "EMP-CONTRACT-001"
  parameters := []
  expiresAt := 900

/-- The contracts are read of the first Rossi by an ordinal, and then of the second one by name. -/
theorem resumed_twice :
    Conversed smallStore contractsInterpreter channelOne
        (rossiConversation ["contratti di rossi", "il primo", "luigi"]) ∧
      ¬SpentOnce smallStore (rossiConversation ["contratti di rossi", "il primo", "luigi"]).seen := by
  refine ⟨conversed_rossi _, fun h => ?_⟩
  have hspent := h contractsPending [_, _, _, _, _, _, _] _ [_, _, _, _, _, _, _, _, _, _] _
    [_, _, _, _, _, _, _] rfl ⟨_, rfl, rfl, rfl⟩
  refine hspent ?_ ⟨_, rfl⟩ _ List.mem_cons_self (by decide) (.inl ⟨_, _, _, rfl, rfl, rfl⟩)
  -- nothing is stored between the first message and the third
  intro x hx other hstores
  obtain ⟨method, hcall, hrecords⟩ := hstores
  simp only [List.mem_cons, List.not_mem_nil, or_false] at hx
  rcases hx with rfl | rfl | rfl | rfl | rfl | rfl | rfl | rfl | rfl | rfl <;> cases hcall <;>
    exact hrecords

theorem pendingTarget_spentOnce_byName :
    SpentOnce smallStore (rossiConversation ["contratti di rossi", "luigi"]).seen := by
  apply pendingTarget_spentOnce (conversed_rossi _)
  intro x hx hselects
  obtain ⟨request, context, employeeId, target, hcall, hcontext, hselected, -⟩ := hselects
  have hseen : x ∈ [_, _, _, _, _, _, _, _, _, _, _, _, _, _, _, _, _, _] := hx
  simp only [List.mem_cons, List.not_mem_nil, or_false] at hseen
  -- of the calls, the first of each message is a selection
  rcases hseen with rfl | rfl | rfl | rfl | rfl | rfl | rfl | rfl | rfl | rfl | rfl | rfl | rfl |
    rfl | rfl | rfl | rfl | rfl <;> cases hcall
  · cases hcontext
  · cases hcontext
    cases hselected

end BhDic.Application
