import BhDic.Application.OwnOperation

/-!
# Resuming a request

A request whose employee is missing or ambiguous is remembered, and taken up again when one is
named or chosen. The store keeps scalars of bounded length and no dates (`Storable`); a request
comes back as it was just where it has no more than that (`resumable`).
-/

namespace BhDic.Query

open BhDic.Library BhDic.Python

/-! ## What a context keeps -/

end BhDic.Query

namespace BhDic.Application

open BhDic.Library BhDic.Policies BhDic.Python BhDic.Query BhDic.Security

variable {T : Type}

/-! ## Requests that come back -/

/-- The request is an envelope of a function of the catalogue: the envelope has at most 32
parameters. -/
structure Enveloped (intent : Intent) : Prop where
  known : (getFunctionSpec intent.functionId).isSome = true
  fewParameters : intent.parameters.items.length ≤ 32

theorem functionCatalog_functionId :
    ∀ spec ∈ functionCatalog, isFunctionId spec.functionId = true := by
  decide

theorem Enveloped.isFunctionId {intent : Intent} (h : Enveloped intent) :
    isFunctionId intent.functionId = true := by
  obtain ⟨spec, hspec⟩ := Option.isSome_iff_exists.mp h.known
  obtain ⟨hmem, hid⟩ := getFunctionSpec_some hspec
  rw [← hid]
  exact functionCatalog_functionId spec hmem

section Store

variable [LinearOrder T] (c : StoreSettings T) (key : ConversationKey)

end Store

section Entries

variable {c : StoreSettings T} {key : ConversationKey} {now later : T} {intent : Intent}
  {s : ConversationContextStore T}

variable [LinearOrder T]

end Entries

/-! ## A missing employee -/

section Runs

variable [LinearOrder T] (c : StoreSettings T) (key : ConversationKey) (clock : Nat → T)
  (answers : (o : AskOp) → (askEffect T).Ans o) (intent : Intent)
  (s : ConversationContextStore T)

end Runs

section Missing

variable [LinearOrder T] {c : StoreSettings T} {key : ConversationKey} {clock : Nat → T}
  {answers : (o : AskOp) → (askEffect T).Ans o} {intent : Intent}
  {s : ConversationContextStore T} {later : T} {name : String}

end Missing

/-! ## Several employees -/

/-- Candidates are entries of a roster, whose identifiers are valid and distinct, and the store has
room for those that are remembered. -/
structure OffersRoster (c : StoreSettings T) (candidates : List RosterEntry) : Prop where
  room : 100 ≤ c.maxCandidates
  notEmpty : candidates ≠ []
  valid : ∀ entry ∈ candidates,
    validateEmployeeId c.unicode entry.item.employeeId = .ok entry.item.employeeId
  distinct : (candidates.map (·.item.employeeId)).Nodup

/-- The identifiers that are remembered. -/
def offeredIds (candidates : List RosterEntry) : List String :=
  (candidates.take 100).map (·.item.employeeId)

theorem OffersRoster.validated {c : StoreSettings T} {candidates : List RosterEntry}
    (h : OffersRoster c candidates) {id : String} (hid : id ∈ offeredIds candidates) :
    validateEmployeeId c.unicode id = .ok id := by
  obtain ⟨entry, hentry, rfl⟩ := List.mem_map.mp hid
  exact h.valid entry (List.mem_of_mem_take hentry)

section Contexts

variable {c : StoreSettings T} {key : ConversationKey} {now : T} {intent : Intent}
  {candidates : List RosterEntry}

/-- What a conversation and its menu choose from. -/
structure OnlyContext (key : ConversationKey) (contextId : String)
    (context : ConversationContext T) (s : ConversationContextStore T) : Prop where
  items : ∀ remembered, s.items.get? key = some remembered → remembered = context
  menu : ∀ snapshot, s.selectionContexts.get? contextId = some snapshot → snapshot = ⟨key, context⟩

variable [LinearOrder T] {s : ConversationContextStore T} {contextId : String}
  {context : ConversationContext T}

theorem OnlyContext.purgeExpired (h : OnlyContext key contextId context s) (now : T) :
    OnlyContext key contextId context (s.purgeExpired now) where
  items _ hget := h.items _ (Dict.get?_of_filterValues hget)
  menu _ hget := h.menu _ (Dict.get?_of_filterValues hget)

theorem OnlyContext.rememberPendingTarget (h : OnlyContext key contextId context s)
    (c : StoreSettings T) (now : T) (intent : Intent) :
    OnlyContext key contextId context
      (s.step c now key (.rememberPendingTarget intent.functionId intent.parameters)).2 := by
  simp only [ConversationContextStore.step]
  split
  · cases newPendingTarget c now intent.functionId intent.parameters with
    | error e => exact h.purgeExpired now
    | ok target => exact ⟨(h.purgeExpired now).items, (h.purgeExpired now).menu⟩
  · exact h

/-- A choice from the menu leaves the same to choose from. -/
theorem OnlyContext.activate (h : OnlyContext key contextId context s) (employeeId : String) :
    OnlyContext key contextId context
      (s.step c now key (.activateSelectionContext contextId employeeId)).2 := by
  simp only [ConversationContextStore.step]
  split
  · cases validateEmployeeId c.unicode employeeId with
    | error e => exact h
    | ok selected =>
        simp only [ConversationContextStore.activate]
        split
        · exact h.purgeExpired now
        · rename_i snapshot hsnapshot
          obtain rfl := (h.purgeExpired now).menu snapshot hsnapshot
          split
          · constructor
            · intro remembered hremembered
              rw [Dict.get?_moveToEnd, Dict.get?_set, if_pos rfl] at hremembered
              exact (Option.some.inj hremembered).symm
            · intro other hother
              rw [Dict.get?_moveToEnd] at hother
              exact (h.purgeExpired now).menu other hother
          · exact h.purgeExpired now
  · exact h

end Contexts

section Ambiguous

variable [LinearOrder T] {c : StoreSettings T} {key : ConversationKey} {clock : Nat → T}
  {answers : (o : AskOp) → (askEffect T).Ans o} {intent : Intent}
  {s : ConversationContextStore T} {later : T} {name : String} {candidates : List RosterEntry}
  {suggestionsOnly : Bool} {contextId : String}

end Ambiguous

/-! ## Requests that come back changed -/

end BhDic.Application
