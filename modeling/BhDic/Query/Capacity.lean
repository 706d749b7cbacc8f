import BhDic.Query.Context

/-!
# How many conversations are kept

Every method that adds an entry evicts the oldest ones, except `activate_selection_context`: it puts
a conversation back without looking at how many there are. The store stays within its capacity
exactly as long as no menu brings back a conversation that a full store has evicted.
-/

namespace BhDic.Query

open BhDic.Library BhDic.Python BhDic.Security

variable {T : Type} [LinearOrder T]

/-- No map holds more than `max_conversations` entries. -/
structure WithinCapacity (c : StoreSettings T) (s : ConversationContextStore T) : Prop where
  items : s.items.items.length ≤ c.maxConversations
  pendingTargets : s.pendingTargets.items.length ≤ c.maxConversations
  currentEmployees : s.currentEmployees.items.length ≤ c.maxConversations
  selectionContexts : s.selectionContexts.items.length ≤ c.maxConversations

/-- The menu a call brings a conversation back from, if it does. -/
def reinstated (c : StoreSettings T) (s : ConversationContextStore T) (e : StoreEvent T) :
    Option (EmployeeSelectionContext T) :=
  match e.method with
  | .activateSelectionContext contextId employeeId =>
      if isSelectionContextId contextId then
        match validateEmployeeId c.unicode employeeId with
        | .error _ => none
        | .ok selected =>
            ((s.purgeExpired e.time).selectionContexts.get? contextId).filter fun snapshot =>
              snapshot.key = e.key ∧ selected ∈ snapshot.context.candidateEmployeeIds
      else none
  | _ => none

/-- Where a call brings a conversation back from a menu, the conversation is still there or there is
room for one more. -/
def HasRoom (c : StoreSettings T) (s : ConversationContextStore T) (e : StoreEvent T) : Prop :=
  reinstated c s e ≠ none → (s.purgeExpired e.time).items.contains e.key = true ∨
    (s.purgeExpired e.time).items.items.length < c.maxConversations

/-! ## One call -/

section Step

variable {c : StoreSettings T} {s : ConversationContextStore T} {now : T} {key : ConversationKey}

theorem WithinCapacity.purgeExpired (h : WithinCapacity c s) :
    WithinCapacity c (s.purgeExpired now) where
  items := (Dict.length_filterValues _ _).trans h.items
  pendingTargets := (Dict.length_filterValues _ _).trans h.pendingTargets
  currentEmployees := (Dict.length_filterValues _ _).trans h.currentEmployees
  selectionContexts := (Dict.length_filterValues _ _).trans h.selectionContexts

theorem length_rememberLast {κ ν : Type} [DecidableEq κ] (d : Dict κ ν) (key : κ) (value : ν)
    (most : Nat) : (rememberLast d key value most).items.length ≤ most :=
  Dict.length_trim _ _

theorem WithinCapacity.rememberCandidates (h : WithinCapacity c s)
    (context : ConversationContext T) (contextId : String) :
    WithinCapacity c (s.rememberCandidates c now key context contextId) where
  items := length_rememberLast _ _ _ _
  pendingTargets := (Dict.length_erase _ _).trans h.purgeExpired.pendingTargets
  currentEmployees := h.purgeExpired.currentEmployees
  selectionContexts := length_rememberLast _ _ _ _

theorem WithinCapacity.rememberPendingTarget (h : WithinCapacity c s)
    (target : PendingEmployeeTarget T) :
    WithinCapacity c (s.rememberPendingTarget c now key target) :=
  { h.purgeExpired with pendingTargets := length_rememberLast _ _ _ _ }

theorem WithinCapacity.rememberCurrentEmployee (h : WithinCapacity c s)
    (current : CurrentEmployeeContext T) :
    WithinCapacity c (s.rememberCurrentEmployee c now key current) :=
  { h.purgeExpired with currentEmployees := length_rememberLast _ _ _ _ }

theorem WithinCapacity.pendingTarget (h : WithinCapacity c s) :
    WithinCapacity c (s.pendingTarget now key).2 :=
  { h.purgeExpired with
    pendingTargets := (Dict.length_moveToEnd _ _).trans_le h.purgeExpired.pendingTargets }

theorem WithinCapacity.currentEmployee (h : WithinCapacity c s) :
    WithinCapacity c (s.currentEmployee now key).2 :=
  { h.purgeExpired with
    currentEmployees := (Dict.length_moveToEnd _ _).trans_le h.purgeExpired.currentEmployees }

omit [LinearOrder T] in
theorem WithinCapacity.moveItemToEnd (h : WithinCapacity c s) :
    WithinCapacity c { s with items := s.items.moveToEnd key } :=
  { h with items := (Dict.length_moveToEnd _ _).trans_le h.items }

theorem WithinCapacity.selection (h : WithinCapacity c s) (request : String) :
    WithinCapacity c (s.selection c now key request).2 := by
  simp only [ConversationContextStore.selection]
  split
  · exact h.purgeExpired
  · split
    · exact h.purgeExpired
    · exact h.purgeExpired
    · exact h.purgeExpired.moveItemToEnd

omit [LinearOrder T] in
theorem WithinCapacity.clear (h : WithinCapacity c s) : WithinCapacity c (s.clear key).2 where
  items := (Dict.length_erase _ _).trans h.items
  pendingTargets := (Dict.length_erase _ _).trans h.pendingTargets
  currentEmployees := (Dict.length_erase _ _).trans h.currentEmployees
  selectionContexts := (Dict.length_filterValues _ _).trans h.selectionContexts

omit [LinearOrder T] in
/-- Putting a conversation back keeps the capacity just when there is room for it. -/
theorem WithinCapacity.reinstate (h : WithinCapacity c s) (snapshot : EmployeeSelectionContext T)
    (contextId : String) :
    WithinCapacity c { s with
      selectionContexts := s.selectionContexts.moveToEnd contextId
      items := (s.items.set key snapshot.context).moveToEnd key } ↔
      s.items.contains key = true ∨ s.items.items.length < c.maxConversations := by
  have hlength : ((s.items.set key snapshot.context).moveToEnd key).items.length =
      if s.items.contains key then s.items.items.length else s.items.items.length + 1 := by
    rw [Dict.length_moveToEnd, Dict.length_set]
  have hmost := h.items
  constructor
  · intro hafter
    have hitems := hafter.items
    rw [hlength] at hitems
    split at hitems
    · rename_i hcontains
      exact .inl hcontains
    · exact .inr (by omega)
  · intro hroom
    refine { h with
      items := ?_
      selectionContexts := (Dict.length_moveToEnd _ _).trans_le h.selectionContexts }
    rw [hlength]
    split
    · exact hmost
    · grind

/-- What a selection of a menu does to the store: nothing but forget what has expired, or bring the
conversation back. -/
theorem after_activateSelectionContext {e : StoreEvent T} {contextId employeeId : String}
    (hmethod : e.method = .activateSelectionContext contextId employeeId) :
    (reinstated c s e = none ∧ (s.after c e = s ∨ s.after c e = s.purgeExpired e.time)) ∨
      ∃ snapshot, reinstated c s e = some snapshot ∧
        s.after c e = { s.purgeExpired e.time with
          selectionContexts := (s.purgeExpired e.time).selectionContexts.moveToEnd contextId
          items := ((s.purgeExpired e.time).items.set e.key snapshot.context).moveToEnd e.key } := by
  simp only [reinstated, ConversationContextStore.after, ConversationContextStore.step, hmethod]
  by_cases hid : isSelectionContextId contextId
  · simp only [if_pos hid]
    cases validateEmployeeId c.unicode employeeId with
    | error _ => simp
    | ok selected =>
        simp only [ConversationContextStore.activate]
        cases (s.purgeExpired e.time).selectionContexts.get? contextId with
        | none => exact .inl ⟨rfl, .inr rfl⟩
        | some snapshot =>
            by_cases hchosen :
                snapshot.key = e.key ∧ selected ∈ snapshot.context.candidateEmployeeIds
            · refine .inr ⟨snapshot, ?_, ?_⟩
              · simp [hchosen]
              · simp [hchosen]
            · refine .inl ⟨?_, .inr ?_⟩
              · simpa using hchosen
              · simp only [if_neg hchosen]
  · simp [if_neg hid]

/-- Every call but the selection of a menu keeps the capacity, whatever there is room for. -/
theorem WithinCapacity.after (h : WithinCapacity c s) {e : StoreEvent T}
    (hmethod : ∀ contextId employeeId,
      e.method ≠ .activateSelectionContext contextId employeeId) :
    WithinCapacity c (s.after c e) := by
  obtain ⟨now, key, method⟩ := e
  simp only [ConversationContextStore.after, ConversationContextStore.step]
  cases method with
  | rememberCandidates candidateEmployeeIds functionId parameters contextId =>
      dsimp only
      split
      · exact h
      · exact h.rememberCandidates _ _
  | rememberPendingTarget functionId parameters =>
      dsimp only
      split
      · split
        · exact h.purgeExpired
        · exact h.rememberPendingTarget _
      · exact h
  | pendingTarget request =>
      dsimp only
      split
      · exact h.pendingTarget
      · exact h
  | clearPendingTarget =>
      exact { h with pendingTargets := (Dict.length_erase _ _).trans h.pendingTargets }
  | rememberCurrentEmployee employeeId =>
      dsimp only
      split
      · exact h.purgeExpired
      · exact h.rememberCurrentEmployee _
  | currentEmployee => exact h.currentEmployee
  | selection request => exact h.selection request
  | activateSelectionContext contextId employeeId => exact absurd rfl (hmethod _ _)
  | candidateContext request =>
      dsimp only
      split
      · exact h.purgeExpired.moveItemToEnd
      · exact h
  | clear => exact h.clear

/-- From a store within its capacity, a call keeps it just when it has room. -/
theorem WithinCapacity.after_iff (h : WithinCapacity c s) (e : StoreEvent T) :
    WithinCapacity c (s.after c e) ↔ HasRoom c s e := by
  by_cases hmenu : ∃ contextId employeeId, e.method = .activateSelectionContext contextId employeeId
  · obtain ⟨contextId, employeeId, hmethod⟩ := hmenu
    obtain ⟨hnone, hafter⟩ | ⟨snapshot, hsome, hafter⟩ :=
      after_activateSelectionContext (c := c) (s := s) hmethod
    · refine ⟨fun _ hback => absurd hnone hback, fun _ => ?_⟩
      obtain hafter | hafter := hafter
      · rwa [hafter]
      · rw [hafter]
        exact h.purgeExpired
    · rw [hafter, h.purgeExpired.reinstate]
      exact ⟨fun hroom _ => hroom, fun hroom => hroom (by simp [hsome])⟩
  · have hmethod : ∀ contextId employeeId,
        e.method ≠ .activateSelectionContext contextId employeeId :=
      fun contextId employeeId heq => hmenu ⟨contextId, employeeId, heq⟩
    refine ⟨fun _ hback => ?_, fun _ => h.after hmethod⟩
    unfold reinstated at hback
    split at hback
    · rename_i contextId employeeId heq
      exact absurd heq (hmethod _ _)
    · exact absurd rfl hback

end Step

/-! ## Runs -/

theorem WithinCapacity.runs_iff {c : StoreSettings T} {s : ConversationContextStore T}
    (h : WithinCapacity c s) (events : List (StoreEvent T)) :
    (∀ n, WithinCapacity c (s.runs c (events.take n))) ↔ EveryCall c (HasRoom c) s events := by
  induction events generalizing s with
  | nil => simpa [EveryCall, ConversationContextStore.runs] using h
  | cons e events ih =>
      constructor
      · intro hall
        have hafter : WithinCapacity c (s.after c e) := hall 1
        exact ⟨(h.after_iff e).mp hafter, (ih hafter).mp fun n => hall (n + 1)⟩
      · rintro ⟨hroom, hrest⟩ n
        have hafter := (h.after_iff e).mpr hroom
        cases n with
        | zero => exact h
        | succ n => exact (ih hafter).mpr hrest n

omit [LinearOrder T] in
theorem withinCapacity_empty (c : StoreSettings T) : WithinCapacity c {} where
  items := Nat.zero_le _
  pendingTargets := Nat.zero_le _
  currentEmployees := Nat.zero_le _
  selectionContexts := Nat.zero_le _

/-- The store stays within its capacity in every state of a run just when every selection of a menu
finds its conversation still there, or room for it. -/
theorem withinCapacity_iff_hasRoom (c : StoreSettings T) (events : List (StoreEvent T)) :
    (∀ n, WithinCapacity c (ConversationContextStore.runs c (events.take n) {})) ↔
      EveryCall c (HasRoom c) {} events :=
  (withinCapacity_empty c).runs_iff events

/-! ## A conversation that comes back to a full store -/

section Reinstated

def menuOne : String := "11111111111111111111111111111111"
def menuTwo : String := "22222222222222222222222222222222"
def menuThree : String := "33333333333333333333333333333333"

/-- Three ambiguous answers in three channels. The second conversation is older than the first menu,
so the third answer evicts the first conversation and the second menu. -/
def reinstatingRun : List (StoreEvent Nat) :=
  [⟨0, channelOne, .rememberCandidates ["71", "72"] "EMP-READ-001" .empty menuOne⟩,
    ⟨1, channelTwo, .rememberCandidates ["81", "82"] "EMP-READ-001" .empty menuTwo⟩,
    ⟨2, channelOne, .activateSelectionContext menuOne "71"⟩,
    ⟨3, channelTwo, .selection "id 81"⟩,
    ⟨4, channelThree, .rememberCandidates ["91", "92"] "EMP-READ-001" .empty menuThree⟩,
    ⟨5, channelOne, .activateSelectionContext menuOne "71"⟩]

/-- The first menu brings its conversation back as a third one. -/
theorem reinstated_overflow :
    ¬ WithinCapacity smallStore (ConversationContextStore.runs smallStore reinstatingRun {}) := by
  intro h
  have hlength :
      (ConversationContextStore.runs smallStore reinstatingRun {}).items.items.length = 3 := by
    decide
  have hitems := h.items
  rw [hlength] at hitems
  exact absurd hitems (by decide)

end Reinstated

end BhDic.Query
