import BhDic.Query.Conversation

/-!
# Isolation of the conversations

As long as none of its entries is evicted, a conversation in the store goes through the states it
would go through alone, and its calls get the answers they would get alone.
-/

namespace BhDic.Query

open BhDic.Library BhDic.Python BhDic.Security

variable {T : Type}

/-- What the store holds for a key. -/
def ConversationContextStore.conversation (s : ConversationContextStore T) (key : ConversationKey) :
    Conversation T where
  context := s.items.get? key
  pendingTarget := s.pendingTargets.get? key
  currentEmployee := s.currentEmployees.get? key
  menus id := ((s.selectionContexts.get? id).filter (·.key = key)).map (·.context)

/-! ## Eviction -/

/-- The items that `rememberLast` evicts. -/
def evictedLast {κ ν : Type} [DecidableEq κ] (d : Dict κ ν) (key : κ) (value : ν) (most : Nat) :
    List (κ × ν) :=
  ((d.set key value).moveToEnd key).overflow most

section RememberLast

variable {κ ν : Type} [DecidableEq κ] {d : Dict κ ν} {key key' : κ} {value : ν} {most : Nat}

theorem get?_rememberLast_some {value' : ν}
    (h : (rememberLast d key value most).get? key' = some value') :
    (key' = key ∧ value' = value) ∨ d.get? key' = some value' := by
  have hset := Dict.get?_trim h
  rw [Dict.get?_moveToEnd, Dict.get?_set] at hset
  split at hset
  · rename_i hkey
    exact .inl ⟨hkey, (Option.some.inj hset).symm⟩
  · exact .inr hset

theorem filter_get?_rememberLast {test : ν → Bool}
    (hkept : ∀ v, test v = true → (key', v) ∉ evictedLast d key value most) :
    ((rememberLast d key value most).get? key').filter test =
      (if key' = key then some value else d.get? key').filter test := by
  rw [rememberLast, Dict.filter_get?_trim hkept, Dict.get?_moveToEnd, Dict.get?_set]

theorem get?_rememberLast (hkept : key' ∉ (evictedLast d key value most).map Prod.fst) :
    (rememberLast d key value most).get? key' =
      if key' = key then some value else d.get? key' := by
  have hfilter : ((rememberLast d key value most).get? key').filter (fun _ => true) =
      (if key' = key then some value else d.get? key').filter (fun _ => true) :=
    filter_get?_rememberLast fun v _ hmem => hkept (List.mem_map_of_mem hmem)
  have htrue : ∀ o : Option ν, o.filter (fun _ => true) = o := by
    intro o
    cases o <;> rfl
  rwa [htrue, htrue] at hfilter

end RememberLast

variable [LinearOrder T]

/-- The keys whose entries a call evicts. -/
def ConversationContextStore.evicted (c : StoreSettings T) (s : ConversationContextStore T)
    (e : StoreEvent T) : List ConversationKey :=
  let live := s.purgeExpired e.time
  match e.method with
  | .rememberCandidates candidateEmployeeIds functionId parameters contextId =>
      match newContext c e.time candidateEmployeeIds functionId parameters with
      | .error _ => []
      | .ok context =>
          (evictedLast live.items e.key context c.maxConversations).map (·.1) ++
            (evictedLast live.selectionContexts contextId ⟨e.key, context⟩
              c.maxConversations).map (·.2.key)
  | .rememberPendingTarget functionId parameters =>
      if isFunctionId functionId then
        match newPendingTarget c e.time functionId parameters with
        | .error _ => []
        | .ok target =>
            (evictedLast live.pendingTargets e.key target c.maxConversations).map (·.1)
      else []
  | .rememberCurrentEmployee employeeId =>
      match newCurrentEmployee c e.time employeeId with
      | .error _ => []
      | .ok current =>
          (evictedLast live.currentEmployees e.key current c.maxConversations).map (·.1)
  | _ => []

/-! ## What a call does to the conversations -/

section Step

variable {c : StoreSettings T} {s : ConversationContextStore T} {now : T}
  {key key' : ConversationKey}

theorem conversation_purgeExpired (s : ConversationContextStore T) (now : T)
    (key : ConversationKey) :
    (s.purgeExpired now).conversation key = (s.conversation key).alive now := by
  ext1
  · exact Dict.get?_filterValues _ _ _
  · exact Dict.get?_filterValues _ _ _
  · exact Dict.get?_filterValues _ _ _
  · funext id
    show (((s.selectionContexts.filterValues _).get? id).filter _).map _ = _
    rw [Dict.get?_filterValues]
    simp only [Conversation.alive, ConversationContextStore.conversation]
    cases s.selectionContexts.get? id with
    | none => rfl
    | some snapshot =>
        by_cases hkey : snapshot.key = key <;> by_cases hlive : now < snapshot.context.expiresAt <;>
          simp [Option.filter, hkey, hlive]

omit [LinearOrder T] in
theorem menus_rememberLast {d : Dict String (EmployeeSelectionContext T)} {most : Nat}
    {contextId id : String} {context : ConversationContext T}
    (hkept : key' ∉ (evictedLast d contextId ⟨key, context⟩ most).map (·.2.key))
    (hfresh : key' ≠ key → d.get? contextId = none) :
    (((rememberLast d contextId ⟨key, context⟩ most).get? id).filter (·.key = key')).map
        (·.context) =
      if key' = key ∧ id = contextId then some context
      else ((d.get? id).filter (·.key = key')).map (·.context) := by
  rw [filter_get?_rememberLast]
  · by_cases hid : id = contextId
    · subst hid
      by_cases hkey : key' = key
      · simp [hkey]
      · simp [hkey, Ne.symm hkey, hfresh hkey]
    · simp [hid]
  · intro snapshot hsnapshot hmem
    exact hkept (List.mem_map.mpr ⟨_, hmem, of_decide_eq_true hsnapshot⟩)

/-- Another key's menus do not use an identifier that is about to be made. -/
def FreshMenu (s : ConversationContextStore T) (e : StoreEvent T) : Prop :=
  match e.method with
  | .rememberCandidates _ _ _ contextId => s.selectionContexts.get? contextId = none
  | _ => True

theorem conversation_rememberCandidates {context : ConversationContext T} {contextId : String}
    (hitems : key' ∉ (evictedLast (s.purgeExpired now).items key context
      c.maxConversations).map (·.1))
    (hmenus : key' ∉ (evictedLast (s.purgeExpired now).selectionContexts contextId ⟨key, context⟩
      c.maxConversations).map (·.2.key))
    (hfresh : key' ≠ key → s.selectionContexts.get? contextId = none) :
    (s.rememberCandidates c now key context contextId).conversation key' =
      if key' = key then
        { (s.conversation key').alive now with
          context := some context
          pendingTarget := none
          menus := fun id => if id = contextId then some context
            else ((s.conversation key').alive now).menus id }
      else (s.conversation key').alive now := by
  have hlive : key' ≠ key → (s.purgeExpired now).selectionContexts.get? contextId = none := by
    intro hkey
    show (s.selectionContexts.filterValues _).get? contextId = none
    rw [Dict.get?_filterValues, hfresh hkey]
    rfl
  rw [← conversation_purgeExpired]
  by_cases hkey : key' = key
  · rw [if_pos hkey]
    ext1
    · show (rememberLast _ _ _ _).get? key' = _
      rw [get?_rememberLast hitems, if_pos hkey]
    · show (Dict.erase _ _).get? key' = _
      rw [Dict.get?_erase, if_pos hkey]
    · rfl
    · funext id
      show (((rememberLast _ _ _ _).get? id).filter _).map _ = _
      rw [menus_rememberLast hmenus hlive]
      simp only [hkey, true_and]
      rfl
  · rw [if_neg hkey]
    ext1
    · show (rememberLast _ _ _ _).get? key' = _
      rw [get?_rememberLast hitems, if_neg hkey]
      rfl
    · show (Dict.erase _ _).get? key' = _
      rw [Dict.get?_erase, if_neg hkey]
      rfl
    · rfl
    · funext id
      show (((rememberLast _ _ _ _).get? id).filter _).map _ = _
      rw [menus_rememberLast hmenus hlive]
      simp only [hkey, false_and, if_false]
      rfl

theorem conversation_rememberPendingTarget {target : PendingEmployeeTarget T}
    (hkept : key' ∉ (evictedLast (s.purgeExpired now).pendingTargets key target
      c.maxConversations).map (·.1)) :
    (s.rememberPendingTarget c now key target).conversation key' =
      if key' = key then { (s.conversation key').alive now with pendingTarget := some target }
      else (s.conversation key').alive now := by
  rw [← conversation_purgeExpired]
  have hget := get?_rememberLast hkept
  split
  · rename_i hkey
    rw [if_pos hkey] at hget
    ext1
    · rfl
    · exact hget
    · rfl
    · rfl
  · rename_i hkey
    rw [if_neg hkey] at hget
    ext1
    · rfl
    · exact hget
    · rfl
    · rfl

theorem conversation_rememberCurrentEmployee {current : CurrentEmployeeContext T}
    (hkept : key' ∉ (evictedLast (s.purgeExpired now).currentEmployees key current
      c.maxConversations).map (·.1)) :
    (s.rememberCurrentEmployee c now key current).conversation key' =
      if key' = key then { (s.conversation key').alive now with currentEmployee := some current }
      else (s.conversation key').alive now := by
  rw [← conversation_purgeExpired]
  have hget := get?_rememberLast hkept
  split
  · rename_i hkey
    rw [if_pos hkey] at hget
    ext1
    · rfl
    · rfl
    · exact hget
    · rfl
  · rename_i hkey
    rw [if_neg hkey] at hget
    ext1
    · rfl
    · rfl
    · exact hget
    · rfl

theorem conversation_pendingTarget :
    (s.pendingTarget now key).2.conversation key' = (s.conversation key').alive now := by
  rw [← conversation_purgeExpired]
  ext1
  · rfl
  · exact Dict.get?_moveToEnd _ _ _
  · rfl
  · rfl

theorem conversation_currentEmployee :
    (s.currentEmployee now key).2.conversation key' = (s.conversation key').alive now := by
  rw [← conversation_purgeExpired]
  ext1
  · rfl
  · rfl
  · exact Dict.get?_moveToEnd _ _ _
  · rfl

theorem conversation_candidateContext :
    (s.candidateContext now key).2.conversation key' = (s.conversation key').alive now := by
  rw [← conversation_purgeExpired]
  ext1
  · exact Dict.get?_moveToEnd _ _ _
  · rfl
  · rfl
  · rfl

theorem conversation_selection (c : StoreSettings T) (s : ConversationContextStore T) (now : T)
    (key key' : ConversationKey) (request : String) :
    (s.selection c now key request).2.conversation key' = (s.conversation key').alive now := by
  simp only [ConversationContextStore.selection]
  split
  · exact conversation_purgeExpired _ _ _
  · split
    · exact conversation_purgeExpired _ _ _
    · exact conversation_purgeExpired _ _ _
    · exact conversation_candidateContext

omit [LinearOrder T] in
theorem conversation_clearPendingTarget (s : ConversationContextStore T)
    (key key' : ConversationKey) :
    (s.clearPendingTarget key).2.conversation key' =
      if key' = key then { s.conversation key' with pendingTarget := none }
      else s.conversation key' := by
  have hget := s.pendingTargets.get?_erase key key'
  split
  · rename_i hkey
    rw [if_pos hkey] at hget
    ext1
    · rfl
    · exact hget
    · rfl
    · rfl
  · rename_i hkey
    rw [if_neg hkey] at hget
    ext1
    · rfl
    · exact hget
    · rfl
    · rfl

omit [LinearOrder T] in
theorem conversation_clear (s : ConversationContextStore T) (key key' : ConversationKey) :
    (s.clear key).2.conversation key' = if key' = key then {} else s.conversation key' := by
  have hmenus : ∀ id, ((s.clear key).2.conversation key').menus id =
      if key' = key then none else (s.conversation key').menus id := by
    intro id
    show (((Dict.filterValues _ _).get? id).filter _).map _ = _
    rw [Dict.get?_filterValues]
    simp only [ConversationContextStore.conversation]
    cases s.selectionContexts.get? id with
    | none => simp
    | some snapshot =>
        by_cases hsame : snapshot.key = key
        · simp [Option.filter, hsame, eq_comm]
        · by_cases hkey : key' = key
          · simp [Option.filter, hsame, hkey]
          · simp [Option.filter, hsame, hkey]
  have hitems := s.items.get?_erase key key'
  have hpending := s.pendingTargets.get?_erase key key'
  have hcurrent := s.currentEmployees.get?_erase key key'
  split
  · rename_i hkey
    simp only [if_pos hkey] at hitems hpending hcurrent hmenus
    ext1
    · exact hitems
    · exact hpending
    · exact hcurrent
    · exact funext hmenus
  · rename_i hkey
    simp only [if_neg hkey] at hitems hpending hcurrent hmenus
    ext1
    · exact hitems
    · exact hpending
    · exact hcurrent
    · exact funext hmenus

omit [LinearOrder T] in
theorem conversation_reinstated (context : ConversationContext T) (contextId : String) :
    ({ s with
      selectionContexts := s.selectionContexts.moveToEnd contextId
      items := (s.items.set key context).moveToEnd key } :
        ConversationContextStore T).conversation key' =
      if key' = key then { s.conversation key' with context := some context }
      else s.conversation key' := by
  have hitems : ((s.items.set key context).moveToEnd key).get? key' =
      if key' = key then some context else s.items.get? key' := by
    rw [Dict.get?_moveToEnd, Dict.get?_set]
  have hmenus : ∀ id, (s.selectionContexts.moveToEnd contextId).get? id =
      s.selectionContexts.get? id := fun id => Dict.get?_moveToEnd _ _ _
  split
  · rename_i hkey
    rw [if_pos hkey] at hitems
    ext1
    · exact hitems
    · rfl
    · rfl
    · funext id
      simp only [ConversationContextStore.conversation, hmenus]
  · rename_i hkey
    rw [if_neg hkey] at hitems
    ext1
    · exact hitems
    · rfl
    · rfl
    · funext id
      simp only [ConversationContextStore.conversation, hmenus]

/-- The selection of a menu looks at the menus of its own key only. -/
theorem activate_self (contextId selected : String) :
    s.activate now key contextId selected =
      match ((s.conversation key).alive now).menus contextId with
      | none => (false, s.purgeExpired now)
      | some context =>
          if selected ∈ context.candidateEmployeeIds then
            (true, { s.purgeExpired now with
              selectionContexts := (s.purgeExpired now).selectionContexts.moveToEnd contextId
              items := ((s.purgeExpired now).items.set key context).moveToEnd key })
          else (false, s.purgeExpired now) := by
  rw [← conversation_purgeExpired]
  simp only [ConversationContextStore.activate, ConversationContextStore.conversation]
  cases (s.purgeExpired now).selectionContexts.get? contextId with
  | none => rfl
  | some snapshot =>
      by_cases hkey : snapshot.key = key
      · simp [Option.filter, hkey]
      · simp [Option.filter, hkey]

theorem conversation_activate_other (hkey : key' ≠ key) (contextId selected : String) :
    (s.activate now key contextId selected).2.conversation key' =
      (s.conversation key').alive now := by
  rw [activate_self]
  split
  · exact conversation_purgeExpired _ _ _
  · split
    · show ConversationContextStore.conversation _ key' = _
      rw [conversation_reinstated, if_neg hkey, conversation_purgeExpired]
    · exact conversation_purgeExpired _ _ _

/-- Two calls that remove entries answer whether there was one, expired or not. -/
def StoreMethod.observed (method : StoreMethod) (answer : Except Exn (StoreAnswer T)) :
    Except Exn (StoreAnswer T) :=
  match method with
  | .clearPendingTarget | .clear => .ok .nothing
  | _ => answer

/-- A call that does not evict its own key does to it what it does to a conversation alone. -/
theorem step_self {method : StoreMethod} (hkept : key ∉ s.evicted c ⟨now, key, method⟩) :
    method.observed (s.step c now key method).1 = ((s.conversation key).step c now method).1 ∧
      (s.step c now key method).2.conversation key =
        ((s.conversation key).step c now method).2 := by
  have hpurge := conversation_purgeExpired s now key
  cases method with
  | rememberCandidates candidateEmployeeIds functionId parameters contextId =>
      simp only [ConversationContextStore.evicted] at hkept
      simp only [ConversationContextStore.step, Conversation.step, StoreMethod.observed]
      cases hcontext : newContext c now candidateEmployeeIds functionId parameters with
      | error e => exact ⟨rfl, rfl⟩
      | ok context =>
          rw [hcontext, List.mem_append, not_or] at hkept
          have hafter := conversation_rememberCandidates hkept.1 hkept.2 fun hne => absurd rfl hne
          rw [if_pos rfl] at hafter
          exact ⟨rfl, hafter⟩
  | rememberPendingTarget functionId parameters =>
      simp only [ConversationContextStore.evicted] at hkept
      simp only [ConversationContextStore.step, Conversation.step, StoreMethod.observed]
      by_cases hid : isFunctionId functionId
      · simp only [if_pos hid] at hkept ⊢
        cases htarget : newPendingTarget c now functionId parameters with
        | error e => exact ⟨rfl, hpurge⟩
        | ok target =>
            rw [htarget] at hkept
            have hafter := conversation_rememberPendingTarget hkept
            rw [if_pos rfl] at hafter
            exact ⟨rfl, hafter⟩
      · simp only [if_neg hid, and_self]
  | pendingTarget request =>
      simp only [ConversationContextStore.step, Conversation.step, StoreMethod.observed]
      split
      · refine ⟨?_, conversation_pendingTarget⟩
        rw [← hpurge]
        rfl
      · exact ⟨rfl, rfl⟩
  | clearPendingTarget =>
      have hafter := conversation_clearPendingTarget s key key
      rw [if_pos rfl] at hafter
      exact ⟨rfl, hafter⟩
  | rememberCurrentEmployee employeeId =>
      simp only [ConversationContextStore.evicted] at hkept
      simp only [ConversationContextStore.step, Conversation.step, StoreMethod.observed]
      cases hcurrent : newCurrentEmployee c now employeeId with
      | error e => exact ⟨rfl, hpurge⟩
      | ok current =>
          rw [hcurrent] at hkept
          have hafter := conversation_rememberCurrentEmployee hkept
          rw [if_pos rfl] at hafter
          exact ⟨rfl, hafter⟩
  | currentEmployee =>
      simp only [ConversationContextStore.step, Conversation.step, StoreMethod.observed]
      refine ⟨?_, conversation_currentEmployee⟩
      rw [← hpurge]
      rfl
  | selection request =>
      refine ⟨?_, ?_⟩
      · simp only [ConversationContextStore.step, Conversation.step, StoreMethod.observed, ← hpurge,
          ConversationContextStore.selection]
        cases hitem : (s.purgeExpired now).items.get? key with
        | none => simp [ConversationContextStore.conversation, hitem, Except.map]
        | some context =>
            simp only [ConversationContextStore.conversation, hitem]
            cases selectedCandidate c.unicode request context.candidateEmployeeIds with
            | error e => rfl
            | ok choice => cases choice <;> rfl
      · refine Eq.trans (conversation_selection c s now key key request) ?_
        simp only [Conversation.step]
        split <;> rfl
  | activateSelectionContext contextId employeeId =>
      simp only [ConversationContextStore.step, Conversation.step, StoreMethod.observed]
      by_cases hid : isSelectionContextId contextId
      · simp only [if_pos hid]
        cases validateEmployeeId c.unicode employeeId with
        | error e => exact ⟨rfl, rfl⟩
        | ok selected =>
            simp only [activate_self]
            cases ((s.conversation key).alive now).menus contextId with
            | none => exact ⟨rfl, hpurge⟩
            | some context =>
                by_cases hchosen : selected ∈ context.candidateEmployeeIds
                · simp only [if_pos hchosen]
                  refine ⟨trivial, ?_⟩
                  rw [conversation_reinstated, if_pos rfl, hpurge]
                · simp only [if_neg hchosen]
                  exact ⟨trivial, hpurge⟩
      · simp only [if_neg hid, and_self]
  | candidateContext request =>
      simp only [ConversationContextStore.step, Conversation.step, StoreMethod.observed]
      split
      · refine ⟨?_, conversation_candidateContext⟩
        rw [← hpurge]
        rfl
      · exact ⟨rfl, rfl⟩
  | clear =>
      have hafter := conversation_clear s key key
      rw [if_pos rfl] at hafter
      exact ⟨rfl, hafter⟩

/-- A call does nothing to another key that it does not evict, but forget what has expired. -/
theorem step_other {method : StoreMethod} (hkey : key' ≠ key)
    (hkept : key' ∉ s.evicted c ⟨now, key, method⟩) (hfresh : FreshMenu s ⟨now, key, method⟩) :
    ((s.step c now key method).2.conversation key').alive now =
      (s.conversation key').alive now := by
  have hpurge : ((s.purgeExpired now).conversation key').alive now =
      (s.conversation key').alive now := by
    rw [conversation_purgeExpired, Conversation.alive_alive le_rfl]
  have halive := Conversation.alive_alive (le_refl now) (s.conversation key')
  cases method with
  | rememberCandidates candidateEmployeeIds functionId parameters contextId =>
      simp only [ConversationContextStore.evicted] at hkept
      simp only [ConversationContextStore.step]
      cases hcontext : newContext c now candidateEmployeeIds functionId parameters with
      | error e => rfl
      | ok context =>
          rw [hcontext, List.mem_append, not_or] at hkept
          have hafter := conversation_rememberCandidates hkept.1 hkept.2 fun _ => hfresh
          rw [if_neg hkey] at hafter
          exact (congrArg (Conversation.alive now) hafter).trans halive
  | rememberPendingTarget functionId parameters =>
      simp only [ConversationContextStore.evicted] at hkept
      simp only [ConversationContextStore.step]
      by_cases hid : isFunctionId functionId
      · simp only [if_pos hid] at hkept ⊢
        cases htarget : newPendingTarget c now functionId parameters with
        | error e => exact hpurge
        | ok target =>
            rw [htarget] at hkept
            have hafter := conversation_rememberPendingTarget hkept
            rw [if_neg hkey] at hafter
            exact (congrArg (Conversation.alive now) hafter).trans halive
      · simp only [if_neg hid]
  | pendingTarget request =>
      simp only [ConversationContextStore.step]
      split
      · exact (congrArg (Conversation.alive now) conversation_pendingTarget).trans halive
      · rfl
  | clearPendingTarget =>
      have hafter := conversation_clearPendingTarget s key key'
      rw [if_neg hkey] at hafter
      exact congrArg (Conversation.alive now) hafter
  | rememberCurrentEmployee employeeId =>
      simp only [ConversationContextStore.evicted] at hkept
      simp only [ConversationContextStore.step]
      cases hcurrent : newCurrentEmployee c now employeeId with
      | error e => exact hpurge
      | ok current =>
          rw [hcurrent] at hkept
          have hafter := conversation_rememberCurrentEmployee hkept
          rw [if_neg hkey] at hafter
          exact (congrArg (Conversation.alive now) hafter).trans halive
  | currentEmployee =>
      exact (congrArg (Conversation.alive now) conversation_currentEmployee).trans halive
  | selection request =>
      have hafter := conversation_selection c s now key key' request
      exact (congrArg (Conversation.alive now) hafter).trans halive
  | activateSelectionContext contextId employeeId =>
      simp only [ConversationContextStore.step]
      by_cases hid : isSelectionContextId contextId
      · simp only [if_pos hid]
        cases validateEmployeeId c.unicode employeeId with
        | error e => rfl
        | ok selected =>
            simp only [conversation_activate_other hkey]
            exact halive
      · simp only [if_neg hid]
  | candidateContext request =>
      simp only [ConversationContextStore.step]
      split
      · exact (congrArg (Conversation.alive now) conversation_candidateContext).trans halive
      · rfl
  | clear =>
      have hafter := conversation_clear s key key'
      rw [if_neg hkey] at hafter
      exact congrArg (Conversation.alive now) hafter

end Step

/-! ## Answers in a run -/

/-- The answers that the calls on one key get in a run. -/
def answersFor (c : StoreSettings T) (key : ConversationKey) :
    ConversationContextStore T → List (StoreEvent T) → List (Except Exn (StoreAnswer T))
  | _, [] => []
  | s, e :: events =>
      if e.key = key then
        e.method.observed (s.step c e.time e.key e.method).1 :: answersFor c key (s.after c e) events
      else answersFor c key (s.after c e) events

/-- The answers to a run of calls on a conversation alone. -/
def Conversation.answers (c : StoreSettings T) :
    Conversation T → List (StoreEvent T) → List (Except Exn (StoreAnswer T))
  | _, [] => []
  | v, e :: events =>
      (v.step c e.time e.method).1 :: (v.step c e.time e.method).2.answers c events

/-- A call evicts nothing of a key, and makes a menu identifier that is not in use. -/
def Undisturbed (c : StoreSettings T) (key : ConversationKey) (s : ConversationContextStore T)
    (e : StoreEvent T) : Prop :=
  key ∉ s.evicted c e ∧ FreshMenu s e

/-- The clock of a run never goes back. -/
def NonDecreasing (events : List (StoreEvent T)) : Prop := events.Pairwise (·.time ≤ ·.time)

/-- A key that is not evicted gets the answers it would get alone. -/
theorem answersFor_eq_answers {c : StoreSettings T} {key : ConversationKey}
    {events : List (StoreEvent T)} (hclock : NonDecreasing events) {now : T}
    (hnow : ∀ e ∈ events, now ≤ e.time) {s : ConversationContextStore T} {v : Conversation T}
    (hsame : (s.conversation key).alive now = v.alive now)
    (hcalls : EveryCall c (Undisturbed c key) s events) :
    answersFor c key s events = v.answers c (events.filter (·.key = key)) := by
  induction events generalizing now s v with
  | nil => rfl
  | cons e events ih =>
      obtain ⟨time, key', method⟩ := e
      obtain ⟨⟨hkept, hfresh⟩, hrest⟩ := hcalls
      obtain ⟨hlater, hclock⟩ := List.pairwise_cons.mp hclock
      have hnow : now ≤ time := hnow _ List.mem_cons_self
      -- what both hold alive at the time of the call
      have halive : (s.conversation key).alive time = v.alive time := by
        rw [← Conversation.alive_alive hnow, hsame, Conversation.alive_alive hnow]
      by_cases hkey : key' = key
      · subst hkey
        obtain ⟨hanswer, hafter⟩ := step_self hkept
        obtain ⟨hanswer', hafter'⟩ := Conversation.step_congr c halive method
        rw [← hafter] at hafter'
        have hnext : answersFor c key' (s.after c ⟨time, key', method⟩) events = _ :=
          ih hclock hlater hafter' hrest
        simp only [answersFor, if_pos, List.filter_cons, decide_true, Conversation.answers,
          hanswer, hanswer', hnext]
      · have hother := step_other (Ne.symm hkey) hkept hfresh
        have hnext : answersFor c key (s.after c ⟨time, key', method⟩) events = _ :=
          ih hclock hlater (hother.trans halive) hrest
        simp [answersFor, hkey, hnext]

end BhDic.Query
