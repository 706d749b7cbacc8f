import BhDic.Library.Json
import BhDic.Python.Patterns
import BhDic.Security.Sanitization

/-!
# Conversation contexts

`ConversationContextStore` keeps, for each user, guild and channel, what a follow-up message may
refer to: the candidates of the last ambiguous answer, the operation that waits for a target, the
current employee, and a snapshot for each selection menu. Entries expire, and the oldest are evicted
when there are too many. Times are of any linearly ordered type.
-/

namespace BhDic.Query

open BhDic.Library BhDic.Python BhDic.Security
open BhDic.Library.Regex (sequence choice optional star plus)

/-! ## Patterns -/

/-- `_FUNCTION_ID`: `[A-Z][A-Z0-9-]{2,31}`. -/
def isFunctionId (text : String) : Bool :=
  match text.toList with
  | [] => false
  | first :: rest => first.isUpper && 2 ≤ rest.length && rest.length ≤ 31 &&
      rest.all fun c => c.isUpper || c.isDigit || c == '-'

/-- `_SAFE_PARAMETER`: `[a-z][a-z0-9_]{0,63}`. -/
def isSafeParameter (text : String) : Bool :=
  match text.toList with
  | [] => false
  | first :: rest => first.isLower && rest.length ≤ 63 &&
      rest.all fun c => c.isLower || c.isDigit || c == '_'

/-- `_SELECTION_CONTEXT_ID`: `[0-9a-f]{32}`. -/
def isSelectionContextId (text : String) : Bool :=
  text.toList.length == 32 && text.toList.all fun c => c.isDigit || ('a' ≤ c && c ≤ 'f')

/-- `_ORDINALS`. -/
def ordinals : List (String × Nat) :=
  [("primo", 1), ("prima", 1), ("secondo", 2), ("seconda", 2), ("terzo", 3), ("terza", 3),
    ("quarto", 4), ("quarta", 4), ("quinto", 5), ("quinta", 5)]

def apostrophes : List Char := ['\'', '\u2019']

/-- `_ORDINAL`. -/
def ordinalPattern (u : UnicodeData) : Regex :=
  sequence
    [.textStart,
      optional (sequence [u.anyWord ["apri", "usa", "scegli", "seleziona"], plus space]),
      optional (choice [u.word "il", u.word "la", sequence [u.word "l", among apostrophes]]),
      star space, .group 1 (u.anyWord (ordinals.map Prod.fst)), .textEnd]

/-- `_DIRECT_EMPLOYEE_ID`. -/
def directEmployeeId (u : UnicodeData) : Regex :=
  sequence
    [.textStart,
      optional (choice
        [sequence [u.anyWord ["employee", "dipendente"], star space, u.word "id"], u.word "id"]),
      star space, optional (among [':', '#']), star space,
      .group 1 (.repeated 1 (some 64) true (u.amongAnyCase identifierChars)), .textEnd]

/-- One name of `_BARE_EMPLOYEE_REFERENCE`. -/
def barePersonName : Regex :=
  sequence
    [.chars isLatinLetter,
      star (.chars fun c => isLatinLetter c || c ∈ apostrophes || c == '-')]

/-- `_BARE_EMPLOYEE_REFERENCE`. -/
def bareEmployeeReference : Regex :=
  sequence
    [.textStart,
      choice
        [sequence [.chars Char.isAlphanum, .repeated 0 (some 63) true (.chars isIdentifierChar)],
          sequence
            [barePersonName, .repeated 0 (some 5) true (sequence [plus space, barePersonName])]],
      .textEnd]

/-- `_NEW_REQUEST_MARKERS`. -/
def newRequestMarkers : List String :=
  ["apri", "capacita", "capacità", "cerca", "come", "dimmi", "elenca", "mostra", "quale", "quali",
    "quanti", "segna", "stampa", "status", "trova", "visualizza"]

/-- Whether a message can only be a name or an identifier: the test `pending_target` and
`candidate_context` begin with. -/
def isBareReference (u : UnicodeData) (request : String) : Bool :=
  let normalized := collapseSpaces request
  let firstWord := u.casefold ((splitWords normalized).headD [])
  normalized ≠ [] && normalized.length ≤ 128 &&
    (bareEmployeeReference.fullmatch normalized).isSome &&
    String.ofList firstWord ∉ newRequestMarkers

/-! ## Entries -/

structure ConversationKey where
  userId : Nat
  guildId : Nat
  channelId : Nat
  positive : 0 < userId ∧ 0 < guildId ∧ 0 < channelId
  deriving DecidableEq

/-- `int | bool | str`. -/
inductive Scalar
  | int (n : Int)
  | bool (b : Bool)
  | text (s : String)
  deriving DecidableEq, Repr

abbrev ContextParameters := List (String × Scalar)

structure ConversationContext (T : Type) where
  candidateEmployeeIds : List String
  functionId : String
  parameters : ContextParameters
  expiresAt : T
  deriving DecidableEq

structure PendingEmployeeTarget (T : Type) where
  functionId : String
  parameters : ContextParameters
  expiresAt : T
  deriving DecidableEq

structure CurrentEmployeeContext (T : Type) where
  employeeId : String
  expiresAt : T
  deriving DecidableEq

structure EmployeeSelectionContext (T : Type) where
  key : ConversationKey
  context : ConversationContext T
  deriving DecidableEq

/-! ## The store -/

/-- What a store is made with, and the tables it reads texts with: `expiry now` is
`now + self._ttl_seconds`. -/
structure StoreSettings (T : Type) where
  unicode : UnicodeData
  expiry : T → T
  maxConversations : Nat
  maxCandidates : Nat
  conversationsInBounds : 1 ≤ maxConversations ∧ maxConversations ≤ 10000
  candidatesInBounds : 1 ≤ maxCandidates ∧ maxCandidates ≤ 500

structure ConversationContextStore (T : Type) where
  items : Dict ConversationKey (ConversationContext T) := .empty
  pendingTargets : Dict ConversationKey (PendingEmployeeTarget T) := .empty
  currentEmployees : Dict ConversationKey (CurrentEmployeeContext T) := .empty
  selectionContexts : Dict String (EmployeeSelectionContext T) := .empty

/-- Put an entry last and evict the oldest ones. -/
def rememberLast {κ ν : Type} [DecidableEq κ] (d : Dict κ ν) (key : κ) (value : ν) (most : Nat) :
    Dict κ ν :=
  ((d.set key value).moveToEnd key).trim most

def scalarOf : Json → Except Exn Scalar
  | .int n => .ok (.int n)
  | .bool b => .ok (.bool b)
  | .str s => do
      ensure (s ≠ "" ∧ s.length ≤ 64) ⟨.valueError, "context parameter string is invalid"⟩
      return .text s
  | _ => .error ⟨.valueError, "context parameters must be scalar"⟩

/-- `_validated_context_parameters`. -/
def validatedContextParameters (parameters : Dict String Json) : Except Exn ContextParameters := do
  let scalars ← parameters.traverse fun name value => do
    ensure (isSafeParameter name = true) ⟨.valueError, "invalid context parameter name"⟩
    scalarOf value
  return scalars.items.insertionSort fun a b => a.1 ≤ b.1

theorem scalarOf_error {value : Json} {e : Exn} (h : scalarOf value = .error e) :
    e.cls = .valueError := by
  cases value with
  | str text =>
      by_cases hbound : text ≠ "" ∧ text.length ≤ 64
      · simp only [scalarOf, ensure, if_pos hbound] at h
        cases h
      · simp only [scalarOf, ensure, if_neg hbound] at h
        cases h
        rfl
  | int n => cases h
  | bool b => cases h
  | _ =>
      cases h
      rfl

theorem validatedContextParameters_error {parameters : Dict String Json} {e : Exn}
    (h : validatedContextParameters parameters = .error e) : e.cls = .valueError := by
  unfold validatedContextParameters at h
  cases htraverse : parameters.traverse fun name value => do
      ensure (isSafeParameter name = true) ⟨.valueError, "invalid context parameter name"⟩
      scalarOf value with
  | ok scalars =>
      rw [htraverse] at h
      cases h
  | error e' =>
      rw [htraverse] at h
      cases h
      obtain ⟨item, -, hitem⟩ := Dict.traverseItems_error (Dict.traverse_error htraverse)
      by_cases hname : isSafeParameter item.1 = true
      · simp only [ensure, if_pos hname] at hitem
        exact scalarOf_error hitem
      · simp only [ensure, if_neg hname] at hitem
        cases hitem
        rfl

section Operations

variable {T : Type} [LinearOrder T] (c : StoreSettings T) (now : T)

namespace ConversationContextStore

variable (s : ConversationContextStore T)

/-- `_purge_expired`. -/
def purgeExpired : ConversationContextStore T where
  items := s.items.filterValues fun v => now < v.expiresAt
  pendingTargets := s.pendingTargets.filterValues fun v => now < v.expiresAt
  currentEmployees := s.currentEmployees.filterValues fun v => now < v.expiresAt
  selectionContexts := s.selectionContexts.filterValues fun v => now < v.context.expiresAt

end ConversationContextStore

/-- The context `remember_candidates` records, once its arguments are validated. -/
def newContext (candidateEmployeeIds : List String) (functionId : String)
    (parameters : Dict String Json) : Except Exn (ConversationContext T) := do
  ensure (candidateEmployeeIds ≠ [] ∧ candidateEmployeeIds.length ≤ c.maxCandidates)
    ⟨.valueError, "candidate result set is empty or exceeds the bound"⟩
  let validated ← candidateEmployeeIds.mapM (validateEmployeeId c.unicode)
  ensure validated.Nodup ⟨.valueError, "candidate result set contains duplicate identifiers"⟩
  ensure (isFunctionId functionId = true) ⟨.valueError, "invalid context function identifier"⟩
  let safe ← validatedContextParameters parameters
  return {
    candidateEmployeeIds := validated
    functionId := functionId
    parameters := safe
    expiresAt := c.expiry now }

/-- The entry `remember_pending_target` records. -/
def newPendingTarget (functionId : String) (parameters : Dict String Json) :
    Except Exn (PendingEmployeeTarget T) := do
  let safe ← validatedContextParameters parameters
  return { functionId := functionId, parameters := safe, expiresAt := c.expiry now }

/-- The entry `remember_current_employee` records. -/
def newCurrentEmployee (employeeId : String) : Except Exn (CurrentEmployeeContext T) := do
  let validated ← validateEmployeeId c.unicode employeeId
  return { employeeId := validated, expiresAt := c.expiry now }

/-- Which candidate a message selects, by ordinal or by identifier. -/
def selectedCandidate (u : UnicodeData) (request : String) (candidates : List String) :
    Except Exn (Option String) :=
  let normalized := collapseSpaces request
  match (ordinalPattern u).fullmatch normalized with
  | some m =>
      let name := String.ofList (u.casefold ((m.group 1).elim [] (·.text)))
      match ordinals.find? (·.1 == name) with
      | none => .error ⟨.keyError, name⟩
      | some (_, ordinal) => .ok candidates[ordinal - 1]?
  | none =>
      match (directEmployeeId u).fullmatch normalized with
      | none => .ok none
      | some m =>
          let text := String.ofList ((m.group 1).elim [] (·.text))
          match validateEmployeeId u text with
          | .error _ => .ok (if "" ∈ candidates then some "" else none)
          | .ok candidate => .ok (if candidate ∈ candidates then some candidate else none)

namespace ConversationContextStore

variable (s : ConversationContextStore T)

/-- `remember_candidates`, given the identifier `uuid.uuid4().hex` makes. -/
def rememberCandidates (key : ConversationKey) (context : ConversationContext T)
    (contextId : String) : ConversationContextStore T :=
  let s := s.purgeExpired now
  { s with
    items := rememberLast s.items key context c.maxConversations
    pendingTargets := s.pendingTargets.erase key
    selectionContexts := rememberLast s.selectionContexts contextId ⟨key, context⟩
      c.maxConversations }

/-- `remember_pending_target`. -/
def rememberPendingTarget (key : ConversationKey) (target : PendingEmployeeTarget T) :
    ConversationContextStore T :=
  let s := s.purgeExpired now
  { s with pendingTargets := rememberLast s.pendingTargets key target c.maxConversations }

/-- `remember_current_employee`. -/
def rememberCurrentEmployee (key : ConversationKey) (current : CurrentEmployeeContext T) :
    ConversationContextStore T :=
  let s := s.purgeExpired now
  { s with currentEmployees := rememberLast s.currentEmployees key current c.maxConversations }

/-- `pending_target`, of a message that is a bare reference. -/
def pendingTarget (key : ConversationKey) :
    Option (PendingEmployeeTarget T) × ConversationContextStore T :=
  let s := s.purgeExpired now
  (s.pendingTargets.get? key, { s with pendingTargets := s.pendingTargets.moveToEnd key })

/-- `current_employee`. -/
def currentEmployee (key : ConversationKey) : Option String × ConversationContextStore T :=
  let s := s.purgeExpired now
  ((s.currentEmployees.get? key).map (·.employeeId),
    { s with currentEmployees := s.currentEmployees.moveToEnd key })

/-- `candidate_context`, of a message that is a bare reference. -/
def candidateContext (key : ConversationKey) :
    Option (ConversationContext T) × ConversationContextStore T :=
  let s := s.purgeExpired now
  (s.items.get? key, { s with items := s.items.moveToEnd key })

/-- `selection`. -/
def selection (key : ConversationKey) (request : String) :
    Except Exn (Option (String × ConversationContext T)) × ConversationContextStore T :=
  let s := s.purgeExpired now
  match s.items.get? key with
  | none => (.ok none, s)
  | some context =>
      match selectedCandidate c.unicode request context.candidateEmployeeIds with
      | .error e => (.error e, s)
      | .ok none => (.ok none, s)
      | .ok (some selected) =>
          (.ok (some (selected, context)), { s with items := s.items.moveToEnd key })

/-- `activate_selection_context`, of a well-formed context identifier and a valid employee. -/
def activate (key : ConversationKey) (contextId selected : String) :
    Bool × ConversationContextStore T :=
  let s := s.purgeExpired now
  match s.selectionContexts.get? contextId with
  | none => (false, s)
  | some snapshot =>
      if snapshot.key = key ∧ selected ∈ snapshot.context.candidateEmployeeIds then
        (true, { s with
          selectionContexts := s.selectionContexts.moveToEnd contextId
          items := (s.items.set key snapshot.context).moveToEnd key })
      else (false, s)

/-- `clear_pending_target`. -/
def clearPendingTarget (key : ConversationKey) : Bool × ConversationContextStore T :=
  (s.pendingTargets.contains key, { s with pendingTargets := s.pendingTargets.erase key })

/-- `clear`. -/
def clear (key : ConversationKey) : Bool × ConversationContextStore T :=
  (s.items.contains key || s.pendingTargets.contains key || s.currentEmployees.contains key ||
      s.selectionContexts.values.any (·.key = key),
    { items := s.items.erase key
      pendingTargets := s.pendingTargets.erase key
      currentEmployees := s.currentEmployees.erase key
      selectionContexts := s.selectionContexts.filterValues (·.key ≠ key) })

end ConversationContextStore

/-! ## Calls -/

/-- A call of one of the methods, on the key of a conversation. -/
inductive StoreMethod
  | rememberCandidates (candidateEmployeeIds : List String) (functionId : String)
      (parameters : Dict String Json) (contextId : String)
  | rememberPendingTarget (functionId : String) (parameters : Dict String Json)
  | pendingTarget (request : String)
  | clearPendingTarget
  | rememberCurrentEmployee (employeeId : String)
  | currentEmployee
  | selection (request : String)
  | activateSelectionContext (contextId employeeId : String)
  | candidateContext (request : String)
  | clear

/-- What a call returns. -/
inductive StoreAnswer (T : Type)
  | nothing
  | flag (b : Bool)
  | contextId (id : String)
  | pending (target : Option (PendingEmployeeTarget T))
  | employee (id : Option String)
  | selected (choice : Option (String × ConversationContext T))
  | context (context : Option (ConversationContext T))
  deriving DecidableEq

/-- A call at a time, from a state. -/
def ConversationContextStore.step (s : ConversationContextStore T) (key : ConversationKey) :
    StoreMethod → Except Exn (StoreAnswer T) × ConversationContextStore T
  | .rememberCandidates candidateEmployeeIds functionId parameters contextId =>
      match newContext c now candidateEmployeeIds functionId parameters with
      | .error e => (.error e, s)
      | .ok context =>
          (.ok (.contextId contextId), s.rememberCandidates c now key context contextId)
  | .rememberPendingTarget functionId parameters =>
      if isFunctionId functionId then
        match newPendingTarget c now functionId parameters with
        | .error e => (.error e, s.purgeExpired now)
        | .ok target => (.ok .nothing, s.rememberPendingTarget c now key target)
      else (.error ⟨.valueError, "invalid context function identifier"⟩, s)
  | .pendingTarget request =>
      if isBareReference c.unicode request then
        let (target, s) := s.pendingTarget now key
        (.ok (.pending target), s)
      else (.ok (.pending none), s)
  | .clearPendingTarget =>
      let (removed, s) := s.clearPendingTarget key
      (.ok (.flag removed), s)
  | .rememberCurrentEmployee employeeId =>
      match newCurrentEmployee c now employeeId with
      | .error e => (.error e, s.purgeExpired now)
      | .ok current => (.ok .nothing, s.rememberCurrentEmployee c now key current)
  | .currentEmployee =>
      let (employee, s) := s.currentEmployee now key
      (.ok (.employee employee), s)
  | .selection request =>
      let (choice, s) := s.selection c now key request
      (choice.map .selected, s)
  | .activateSelectionContext contextId employeeId =>
      if isSelectionContextId contextId then
        match validateEmployeeId c.unicode employeeId with
        | .error _ => (.ok (.flag false), s)
        | .ok selected =>
            let (activated, s) := s.activate now key contextId selected
            (.ok (.flag activated), s)
      else (.ok (.flag false), s)
  | .candidateContext request =>
      if isBareReference c.unicode request then
        let (context, s) := s.candidateContext now key
        (.ok (.context context), s)
      else (.ok (.context none), s)
  | .clear =>
      let (removed, s) := s.clear key
      (.ok (.flag removed), s)

/-- An operation that cannot wait for its target is a `ValueError`. -/
theorem rememberPendingTarget_error {s : ConversationContextStore T} {key : ConversationKey}
    {functionId : String} {parameters : Dict String Json} {e : Exn}
    (h : (s.step c now key (.rememberPendingTarget functionId parameters)).1 = .error e) :
    e.cls = .valueError := by
  unfold ConversationContextStore.step at h
  dsimp only at h
  split at h
  · cases htarget : newPendingTarget c now functionId parameters with
    | ok target =>
        rw [htarget] at h
        cases h
    | error e' =>
        rw [htarget] at h
        cases h
        unfold newPendingTarget at htarget
        cases hsafe : validatedContextParameters parameters with
        | ok safe =>
            rw [hsafe] at htarget
            cases htarget
        | error e'' =>
            rw [hsafe] at htarget
            cases htarget
            exact validatedContextParameters_error hsafe
  · cases h
    rfl

end Operations

/-! ## Runs -/

section Runs

variable {T : Type} [LinearOrder T]

/-- A call on a conversation, at a time. -/
structure StoreEvent (T : Type) where
  time : T
  key : ConversationKey
  method : StoreMethod

/-- The store after a call. -/
def ConversationContextStore.after (c : StoreSettings T) (s : ConversationContextStore T)
    (e : StoreEvent T) : ConversationContextStore T :=
  (s.step c e.time e.key e.method).2

/-- The store after a run of calls. -/
def ConversationContextStore.runs (c : StoreSettings T) (events : List (StoreEvent T))
    (s : ConversationContextStore T) : ConversationContextStore T :=
  events.foldl (ConversationContextStore.after c) s

/-- Every call of a run finds the store in a state where `P` holds of the call. -/
def EveryCall (c : StoreSettings T) (P : ConversationContextStore T → StoreEvent T → Prop)
    (s : ConversationContextStore T) : List (StoreEvent T) → Prop
  | [] => True
  | e :: events => P s e ∧ EveryCall c P (s.after c e) events

end Runs

/-- A store of two conversations, with times in seconds. -/
def smallStore : StoreSettings Nat where
  unicode := asciiTables
  expiry now := now + 900
  maxConversations := 2
  maxCandidates := 100
  conversationsInBounds := by decide
  candidatesInBounds := by decide

def channelOne : ConversationKey := ⟨7, 9, 1, by decide⟩
def channelTwo : ConversationKey := ⟨7, 9, 2, by decide⟩
def channelThree : ConversationKey := ⟨7, 9, 3, by decide⟩

end BhDic.Query
