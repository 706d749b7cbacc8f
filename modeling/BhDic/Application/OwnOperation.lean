import BhDic.Application.PendingTarget
import BhDic.Query.Planner

/-!
# What a message asks for by itself

The local parsers as the interpreter of `ask`. A message that they recognise is an operation of its
own, but two readings come before them: a bare word is the name that a pending operation waits for
(`ownOperation_answered`), and some words are a plan over the roster whatever else the message says
(`write_dispatched`).
-/

namespace BhDic.Application

open BhDic.HrAssistant BhDic.Library BhDic.Policies BhDic.Python BhDic.Query

variable {T : Type}

/-- The parsers of `hr_assistant.py` and `planner.py`, at a date. A request that one of them raises
on is not interpreted any further; only requests on which they return are spoken of here. -/
def localInterpreter (u : UnicodeData) (today : Date) : Interpreter where
  unicode := u
  isCapabilitiesRequest request := HrAssistant.isCapabilitiesRequest u request.toList
  isEmployeeAggregateRequest request := HrAssistant.isEmployeeAggregateRequest u request.toList
  buildLocalHrQueryPlan request :=
    (Planner.buildLocalHrQueryPlan u today request.toList).toOption.join.map (·.toQueryPlan)
  parseLocalOperationalIntent request :=
    (parseLocalOperationalIntent u today request.toList).toOption.join

/-- What a message asks for: a plan over the roster, or one function. -/
inductive OwnOperation
  | rosterPlan
  | intent (found : LocalIntent)

/-- What the local parsers recognise. -/
def ownOperation (u : UnicodeData) (today : Date) (request : List Char) :
    Except Exn (Option OwnOperation) := do
  match ← Planner.buildLocalHrQueryPlan u today request with
  | some planned =>
      if planned.toQueryPlan.manySteps then return some .rosterPlan
      else return planned.legacyIntent.map .intent
  | none =>
      let found ← parseLocalOperationalIntent u today request
      return found.map .intent

/-! ## The rest of `ask` -/

/-- A message, once the conversation context has been read. -/
def interpret (i : Interpreter) (normalized : String) (contextIntent : Option Intent)
    (candidates : Option (ConversationContext T)) (pending : Option (PendingEmployeeTarget T)) :
    AskProg T AskResponse :=
  if i.isCapabilitiesRequest normalized then await .capabilities
  else do
    let visible : List String ← await .visibleFunctionIds
    let routed ← route i normalized contextIntent pending visible
    pursue i normalized visible candidates routed

theorem askAssistant_eq (i : Interpreter) (request : String) :
    askAssistant (T := T) i request = (do
      let normalized ← Prog.ofExcept (Security.normalizeText i.unicode request 2000 true)
      let selection : StoreAnswer T ← await (.store (.selection normalized))
      let candidates : StoreAnswer T ← await (.store (.candidateContext normalized))
      let pending : StoreAnswer T ← await (.store (.pendingTarget normalized))
      let contextIntent ← Prog.ofExcept (selectedIntent i normalized selection.choice)
      interpret i normalized contextIntent candidates.candidates pending.target) := rfl

/-- The answer to the operation that a message asks for by itself. -/
def answerOwn (i : Interpreter) (normalized : String)
    (candidates : Option (ConversationContext T)) (operation : OwnOperation) :
    AskProg T AskResponse := do
  let visible : List String ← await .visibleFunctionIds
  match operation with
  | .rosterPlan => await (.executeQueryPlan normalized)
  | .intent found => pursue i normalized visible candidates (.inl found)

/-- What the store answers about a message, before the message is interpreted. -/
structure Readings (T : Type) where
  selection : Except Exn (StoreAnswer T)
  candidates : Except Exn (StoreAnswer T)
  pending : Except Exn (StoreAnswer T)

/-- The three readings, each at the time its call is made. -/
def readings [LinearOrder T] (c : StoreSettings T) (key : ConversationKey) (clock : Nat → T)
    (normalized : String) (s : ConversationContextStore T) : Readings T :=
  let selection := s.step c (clock 0) key (.selection normalized)
  let candidates := selection.2.step c (clock 1) key (.candidateContext normalized)
  { selection := selection.1
    candidates := candidates.1
    pending := (candidates.2.step c (clock 2) key (.pendingTarget normalized)).1 }

/-- How a message is answered that was read so. -/
def answered (i : Interpreter) (normalized : String) (r : Readings T) : AskProg T AskResponse := do
  let selection ← Prog.ofExcept r.selection
  let candidates ← Prog.ofExcept r.candidates
  let pending ← Prog.ofExcept r.pending
  let contextIntent ← Prog.ofExcept (selectedIntent i normalized selection.choice)
  interpret i normalized contextIntent candidates.candidates pending.target

/-- The answer to a message that asks for an operation by itself. A request for the capabilities,
and a choice among the candidates that were shown, come first. -/
def answeredByItself (i : Interpreter) (normalized : String) (operation : OwnOperation)
    (r : Readings T) : AskProg T AskResponse := do
  let selection ← Prog.ofExcept r.selection
  let candidates ← Prog.ofExcept r.candidates
  let contextIntent ← Prog.ofExcept (selectedIntent i normalized selection.choice)
  if i.isCapabilitiesRequest normalized then await .capabilities
  else
    match contextIntent with
    | some _ => interpret i normalized contextIntent candidates.candidates none
    | none => answerOwn i normalized candidates.candidates operation

/-- The message is taken for the name that an operation waits for. -/
structure TakenForName (i : Interpreter) (normalized : String) (r : Readings T) : Prop where
  noCapabilities : i.isCapabilitiesRequest normalized = false
  noSelection : r.selection = .ok (.selected none)
  handedOut : ∃ target, r.pending = .ok (.pending (some target))

section Reading

variable {u : UnicodeData} {today : Date} {normalized : String} {operation : OwnOperation}

/-- With no other reading, a message is routed to what the parsers recognise. -/
theorem route_own (h : ownOperation u today normalized.toList = .ok (some operation))
    (visible : List String) :
    route (T := T) (localInterpreter u today) normalized none none visible =
      match operation with
      | .rosterPlan => (await (.executeQueryPlan normalized)).bind fun response =>
          .pure (.inr response)
      | .intent found => .pure (.inl found) := by
  rw [ownOperation, bind_eq_ok] at h
  obtain ⟨planned, hplanned, h⟩ := h
  have hbuild : (localInterpreter u today).buildLocalHrQueryPlan normalized =
      planned.map (·.toQueryPlan) := by
    show (Planner.buildLocalHrQueryPlan u today normalized.toList).toOption.join.map _ = _
    rw [hplanned]
    rfl
  rw [route, hbuild]
  cases planned with
  | none =>
      dsimp only at h
      rw [bind_eq_ok] at h
      obtain ⟨found, hfound, h⟩ := h
      have hparse : (localInterpreter u today).parseLocalOperationalIntent normalized = found := by
        show (parseLocalOperationalIntent u today normalized.toList).toOption.join = _
        rw [hfound]
        rfl
      cases found with
      | none => cases h
      | some found =>
          cases h
          dsimp only [Option.map_none]
          rw [hparse]
          rfl
  | some planned =>
      dsimp only at h
      dsimp only [Option.map_some]
      split at h
      · rename_i hmany
        cases h
        rw [if_pos hmany]
        rfl
      · rename_i hmany
        rw [if_neg hmany]
        show localOrProvider normalized visible planned.legacyIntent = _
        cases hlegacy : planned.legacyIntent with
        | none =>
            rw [hlegacy] at h
            cases h
        | some found =>
            rw [hlegacy] at h
            cases h
            rfl

/-- With no other reading, a message is answered as what it asks for. -/
theorem interpret_own (h : ownOperation u today normalized.toList = .ok (some operation))
    (candidates : Option (ConversationContext T)) :
    interpret (localInterpreter u today) normalized none candidates none =
      if (localInterpreter u today).isCapabilitiesRequest normalized then await .capabilities
      else answerOwn (localInterpreter u today) normalized candidates operation := by
  rw [interpret]
  congr 1
  show (await .visibleFunctionIds).bind _ = (await .visibleFunctionIds).bind _
  congr 1
  funext visible
  show (route _ _ _ _ _).bind _ = _
  rw [route_own h]
  cases operation with
  | intent found => rfl
  | rosterPlan =>
      show ((await _).bind _).bind _ = _
      rw [Prog.bind_assoc]
      exact Prog.bind_pure _

end Reading

/-! ## Conversations where an operation waits -/

/-- The conversation, without the operation that waits for a target. -/
def withoutPending (key : ConversationKey) (s : ConversationContextStore T) :
    ConversationContextStore T :=
  { s with pendingTargets := s.pendingTargets.erase key }

/-- An operation that waits for a target while a message is read. -/
structure Waits [LinearOrder T] (key : ConversationKey) (clock : Nat → T)
    (s : ConversationContextStore T) (target : PendingEmployeeTarget T) : Prop where
  recorded : s.pendingTargets.get? key = some target
  live : ∀ call ≤ 2, clock call < target.expiresAt

section Store

variable [LinearOrder T] {c : StoreSettings T} {key : ConversationKey} {clock : Nat → T}
  {normalized : String} {s s' : ConversationContextStore T} {target : PendingEmployeeTarget T}

/-- A selection is read off the candidates alone. -/
theorem selection_items (key : ConversationKey) (h : s.items = s'.items) (now : T)
    (request : String) :
    (s.selection c now key request).1 = (s'.selection c now key request).1 ∧
      (s.selection c now key request).2.items = (s'.selection c now key request).2.items := by
  have hpurged : (s.purgeExpired now).items = (s'.purgeExpired now).items := by
    simp only [ConversationContextStore.purgeExpired, h]
  simp only [ConversationContextStore.selection, hpurged]
  split
  · exact ⟨rfl, hpurged⟩
  · split
    · exact ⟨rfl, hpurged⟩
    · exact ⟨rfl, hpurged⟩
    · exact ⟨rfl, rfl⟩

/-- What is pending is left alone by the readings that come before its own. -/
theorem get?_pendingTargets_selection (h : s.pendingTargets.get? key = some target) {now : T}
    (hlive : now < target.expiresAt) (request : String) :
    (s.step c now key (.selection request)).2.pendingTargets.get? key = some target := by
  show (s.selection c now key request).2.pendingTargets.get? key = some target
  rw [pendingTargets_selection]
  show (s.pendingTargets.filterValues _).get? key = _
  rw [Dict.get?_filterValues, h]
  simp [hlive]

theorem get?_pendingTargets_candidateContext (h : s.pendingTargets.get? key = some target) {now : T}
    (hlive : now < target.expiresAt) (request : String) :
    (s.step c now key (.candidateContext request)).2.pendingTargets.get? key = some target := by
  simp only [ConversationContextStore.step]
  split
  · show (s.pendingTargets.filterValues _).get? key = _
    rw [Dict.get?_filterValues, h]
    simp [hlive]
  · exact h

theorem step_pendingTarget (h : s.pendingTargets.get? key = some target) {now : T}
    (hlive : now < target.expiresAt) (request : String) :
    (s.step c now key (.pendingTarget request)).1 =
      .ok (.pending (if isBareReference c.unicode request then some target else none)) := by
  simp only [ConversationContextStore.step]
  split
  · show Except.ok (StoreAnswer.pending ((s.pendingTargets.filterValues _).get? key)) = _
    rw [Dict.get?_filterValues, h]
    simp [hlive]
  · rfl

theorem Waits.pending (h : Waits key clock s target) :
    (readings c key clock normalized s).pending =
      .ok (.pending (if isBareReference c.unicode normalized then some target else none)) := by
  apply step_pendingTarget _ (h.live 2 (by omega))
  apply get?_pendingTargets_candidateContext _ (h.live 1 (by omega))
  exact get?_pendingTargets_selection h.recorded (h.live 0 (by omega)) normalized

/-- A call that records nothing leaves nothing pending where nothing was. -/
theorem get?_pendingTargets_step_none {method : StoreMethod} {now : T}
    (h : s.pendingTargets.get? key = none) (hrecords : ∀ target, ¬Records c now target method) :
    (s.step c now key method).2.pendingTargets.get? key = none := by
  apply Option.eq_none_iff_forall_not_mem.mpr
  intro target htarget
  rcases get?_pendingTargets_step htarget with ⟨-, hrecorded⟩ | hbefore
  · exact hrecords target hrecorded
  · rw [h] at hbefore
    cases hbefore

theorem selection_readings : (readings c key clock normalized s).selection =
    (s.step c (clock 0) key (.selection normalized)).1 := rfl

/-- The readings of the same conversation where nothing waits. -/
theorem readings_withoutPending :
    readings c key clock normalized (withoutPending key s) =
      { readings c key clock normalized s with pending := .ok (.pending none) } := by
  have hitems : (withoutPending key s).items = s.items := rfl
  have hselection := selection_items (c := c) key hitems (clock 0) normalized
  have hnone : (withoutPending key s).pendingTargets.get? key = none := by
    show (s.pendingTargets.erase key).get? key = none
    rw [Dict.get?_erase, if_pos rfl]
  have hbetween : ((withoutPending key s).step c (clock 0) key
      (.selection normalized)).2.pendingTargets.get? key = none :=
    get?_pendingTargets_step_none hnone fun _ hrecords => hrecords
  have hafter : (((withoutPending key s).step c (clock 0) key (.selection normalized)).2.step c
      (clock 1) key (.candidateContext normalized)).2.pendingTargets.get? key = none :=
    get?_pendingTargets_step_none hbetween fun _ hrecords => hrecords
  simp only [readings, Readings.mk.injEq]
  refine ⟨?_, ?_, ?_⟩
  · exact congrArg (Except.map StoreAnswer.selected) hselection.1
  · simp only [ConversationContextStore.step, ConversationContextStore.candidateContext,
      ConversationContextStore.purgeExpired, hselection.2]
    split <;> rfl
  · generalize (ConversationContextStore.step c (clock 1) _ key
      (.candidateContext normalized)).2 = last at hafter ⊢
    simp only [ConversationContextStore.step]
    split
    · show Except.ok (StoreAnswer.pending ((last.pendingTargets.filterValues _).get? key)) = _
      rw [Dict.get?_filterValues, hafter]
      rfl
    · rfl

/-- What a selection answers is always a choice. -/
theorem selection_selected {now : T} {request : String} {answer : StoreAnswer T}
    (h : (s.step c now key (.selection request)).1 = .ok answer) :
    ∃ choice, answer = .selected choice := by
  simp only [ConversationContextStore.step] at h
  cases hchoice : (s.selection c now key request).1 with
  | error e => simp [hchoice, Except.map] at h
  | ok choice =>
      simp only [hchoice, Except.map, Except.ok.injEq] at h
      exact ⟨choice, h.symm⟩

end Store

/-! ## The readings of a run -/

section Run

variable [LinearOrder T] {c : StoreSettings T} {key : ConversationKey} {clock : Nat → T}
  {s : ConversationContextStore T} {answers : (o : AskOp) → (askEffect T).Ans o}

/-- As `scripted`, each call at the next reading of the clock. -/
def clocked (c : StoreSettings T) (key : ConversationKey) (clock : Nat → T)
    (answers : (o : AskOp) → (askEffect T).Ans o) (o : AskOp)
    (state : Nat × ConversationContextStore T) :
    (askEffect T).Ans o × Nat × ConversationContextStore T :=
  let answered := scripted c key (clock state.1) answers o state.2
  (answered.1, state.1 + 1, answered.2)

/-- The store after the three readings. -/
def afterReadings (c : StoreSettings T) (key : ConversationKey) (clock : Nat → T)
    (normalized : String) (s : ConversationContextStore T) : ConversationContextStore T :=
  s.runs c [⟨clock 0, key, .selection normalized⟩, ⟨clock 1, key, .candidateContext normalized⟩,
    ⟨clock 2, key, .pendingTarget normalized⟩]

theorem clocked_store (method : StoreMethod) (n : Nat) :
    clocked c key clock answers (.store method) (n, s) =
      ((s.step c (clock n) key method).1, n + 1, (s.step c (clock n) key method).2) := rfl

theorem run_await (method : StoreMethod) {α : Type} (k : StoreAnswer T → AskProg T α) (n : Nat) :
    Prog.run (clocked c key clock answers) ((await (.store method)).bind k) (n, s) =
      Prog.run (clocked c key clock answers)
        ((Prog.ofExcept (s.step c (clock n) key method).1).bind k)
        (n + 1, (s.step c (clock n) key method).2) := by
  show Prog.run _ (Prog.call (E := askEffect T) (AskOp.store method)
    fun answer => (Prog.ofExcept answer).bind k) (n, s) = _
  rw [Prog.run_call, clocked_store]
  rfl

/-- A run of `ask` goes on from what the three readings answer. -/
theorem run_askAssistant (i : Interpreter) {request normalized : String}
    (h : Security.normalizeText i.unicode request 2000 true = .ok normalized) :
    (Prog.run (clocked c key clock answers) (askAssistant i request) (0, s)).1 =
      (Prog.run (clocked c key clock answers)
        (answered i normalized (readings c key clock normalized s))
        (3, afterReadings c key clock normalized s)).1 := by
  rw [askAssistant_eq, h]
  show (Prog.run _ ((await (.store (.selection normalized))).bind _) (0, s)).1 = _
  rw [run_await, answered, selection_readings]
  cases (s.step c (clock 0) key (.selection normalized)).1 with
  | error e => rfl
  | ok selection =>
      show (Prog.run _ ((await (.store (.candidateContext normalized))).bind _) (1, _)).1 = _
      rw [run_await]
      show _ = (Prog.run _ ((Prog.ofExcept (ConversationContextStore.step c (clock 1) _ key
        (.candidateContext normalized)).1).bind _) _).1
      cases hcandidates : (ConversationContextStore.step c (clock 1) _ key
          (.candidateContext normalized)).1 with
      | error e => rfl
      | ok candidates =>
          show (Prog.run _ ((await (.store (.pendingTarget normalized))).bind _) (2, _)).1 = _
          rw [run_await]
          rfl

end Run

/-! ## A complete request and a name -/

section Names

variable {today : Date} {normalized : String} {operation : OwnOperation}

theorem answered_eq (i : Interpreter) {r : Readings T} {target : Option (PendingEmployeeTarget T)}
    (hpending : r.pending = .ok (.pending target)) :
    answered i normalized r =
      (Prog.ofExcept r.selection).bind fun selection =>
        (Prog.ofExcept r.candidates).bind fun candidates =>
          (Prog.ofExcept (selectedIntent i normalized selection.choice)).bind fun contextIntent =>
            interpret i normalized contextIntent candidates.candidates target := by
  rw [answered, hpending]
  rfl

/-- The operation that waits is resumed, whatever the message asks for. -/
theorem TakenForName.answered {i : Interpreter} {r : Readings T}
    (h : TakenForName i normalized r) : ∃ target : PendingEmployeeTarget T,
    Application.answered i normalized r = (do
      let candidates ← Prog.ofExcept r.candidates
      let visible : List String ← await .visibleFunctionIds
      let intent ← Prog.ofExcept (directIntent target.functionId none target.parameters)
      pursue i normalized visible candidates.candidates (.inl ⟨intent, some normalized⟩)) := by
  obtain ⟨target, hpending⟩ := h.handedOut
  refine ⟨target, ?_⟩
  rw [answered_eq i hpending, h.noSelection]
  show (Prog.ofExcept r.candidates).bind _ = (Prog.ofExcept r.candidates).bind _
  apply congrArg (Prog.bind _)
  funext candidates
  show interpret i normalized none _ (some target) = (await .visibleFunctionIds).bind _
  rw [interpret]
  refine (if_neg (by simp [h.noCapabilities])).trans ?_
  apply congrArg (Prog.bind _)
  funext visible
  exact Prog.bind_assoc _ _ _

/-- Where nothing is handed out, a message is answered as what it asks for. -/
theorem answered_own {u : UnicodeData}
    (h : ownOperation u today normalized.toList = .ok (some operation)) {r : Readings T}
    (hpending : r.pending = .ok (.pending none)) :
    answered (localInterpreter u today) normalized r =
      answeredByItself (localInterpreter u today) normalized operation r := by
  rw [answered_eq _ hpending]
  apply congrArg (Prog.bind _)
  funext selection
  apply congrArg (Prog.bind _)
  funext candidates
  apply congrArg (Prog.bind _)
  funext contextIntent
  cases contextIntent with
  | none => exact interpret_own h candidates.candidates
  | some intent =>
      by_cases hcapabilities : (localInterpreter u today).isCapabilitiesRequest normalized = true
      · exact (if_pos hcapabilities).trans (if_pos hcapabilities).symm
      · exact (if_neg hcapabilities).symm

/-- What waits for a name makes no difference where the message asks for the capabilities, or makes
a choice. -/
theorem answered_pending (i : Interpreter) {r : Readings T}
    {target : Option (PendingEmployeeTarget T)} (hpending : r.pending = .ok (.pending target))
    (h : i.isCapabilitiesRequest normalized = true ∨ r.selection ≠ .ok (.selected none))
    (hselected : ∀ answer, r.selection = .ok answer → ∃ choice, answer = .selected choice) :
    answered i normalized r = answered i normalized { r with pending := .ok (.pending none) } := by
  have hnone : Readings.pending { r with pending := .ok (.pending none) } =
      .ok (.pending none) := rfl
  rw [answered_eq i hpending, answered_eq i hnone]
  cases hselection : r.selection with
  | error e => rfl
  | ok answer =>
      obtain ⟨choice, rfl⟩ := hselected answer hselection
      show (Prog.ofExcept r.candidates).bind _ = (Prog.ofExcept r.candidates).bind _
      apply congrArg (Prog.bind _)
      funext candidates
      rcases h with hcapabilities | hchosen
      · apply congrArg (Prog.bind _)
        funext contextIntent
        exact (if_pos hcapabilities).trans (if_pos hcapabilities).symm
      · cases choice with
        | none => exact absurd hselection hchosen
        | some choice =>
            -- the follow-up of the choice is an intent, which comes before what waits
            show (Prog.ofExcept ((contextFollowupIntent _ _ _ _).map some)).bind _ =
              (Prog.ofExcept ((contextFollowupIntent _ _ _ _).map some)).bind _
            cases contextFollowupIntent i.unicode normalized choice.1 choice.2 with
            | error e => rfl
            | ok intent => rfl

variable [LinearOrder T] {c : StoreSettings T} {key : ConversationKey} {clock : Nat → T}
  {s : ConversationContextStore T} {target : PendingEmployeeTarget T}

/-- A message that asks for an operation by itself is not taken for the name that another operation
waits for, exactly where it has not the shape of a name, asks for the capabilities, or makes a
choice among the candidates that were shown. -/
theorem ownOperation_answered
    (h : ownOperation c.unicode today normalized.toList = .ok (some operation))
    (hwaits : Waits key clock s target) :
    (¬TakenForName (localInterpreter c.unicode today) normalized
          (readings c key clock normalized s) ∧
        answered (localInterpreter c.unicode today) normalized
            (readings c key clock normalized s) =
          answeredByItself (localInterpreter c.unicode today) normalized operation
            (readings c key clock normalized s) ∧
        answered (localInterpreter c.unicode today) normalized
            (readings c key clock normalized s) =
          answered (localInterpreter c.unicode today) normalized
            (readings c key clock normalized (withoutPending key s))) ↔
      isBareReference c.unicode normalized = false ∨
        HrAssistant.isCapabilitiesRequest c.unicode normalized.toList = true ∨
        (s.step c (clock 0) key (.selection normalized)).1 ≠ .ok (.selected none) := by
  rw [readings_withoutPending, ← selection_readings]
  show _ ↔ _ ∨ (localInterpreter c.unicode today).isCapabilitiesRequest normalized = true ∨ _
  constructor
  · rintro ⟨hname, -, -⟩
    by_contra hnone
    simp only [not_or, Bool.not_eq_false, Bool.not_eq_true, not_not] at hnone
    apply hname
    obtain ⟨hbare, hcapabilities, hselection⟩ := hnone
    refine ⟨hcapabilities, hselection, target, ?_⟩
    rw [hwaits.pending, if_pos hbare]
  · intro hcase
    have hsame : answered (localInterpreter c.unicode today) normalized
          (readings c key clock normalized s) =
        answered (localInterpreter c.unicode today) normalized
          { readings c key clock normalized s with pending := .ok (.pending none) } := by
      rcases hcase with hshape | hearlier
      · have hnone : (readings c key clock normalized s).pending = .ok (.pending none) := by
          rw [hwaits.pending, hshape]
          rfl
        rw [← hnone]
      · apply answered_pending _ hwaits.pending hearlier
        intro answer hanswer
        rw [selection_readings] at hanswer
        exact selection_selected hanswer
    refine ⟨fun hname => ?_, ?_, hsame⟩
    · obtain ⟨hcapabilities, hselection, other, hother⟩ := hname
      rcases hcase with hshape | htrue | hchosen
      · rw [hwaits.pending, hshape] at hother
        cases hother
      · rw [htrue] at hcapabilities
        cases hcapabilities
      · exact hchosen hselection
    · rw [hsame, answered_own h rfl]
      rfl

end Names

/-! ## A word that is a request -/

def ferragosto : Date where
  year := 2026
  month := 8
  day := 15
  isDate := by decide

/-- The contracts of somebody are asked for, and the name is still to come. -/
def contractsWaiting : ConversationContextStore Nat :=
  ConversationContextStore.rememberPendingTarget smallStore 0 {} channelOne contractsPending

theorem waits_contracts : Waits channelOne (fun _ => 10) contractsWaiting contractsPending where
  recorded := rfl
  live _ _ := by decide

theorem toOption_join_eq_some {ε α : Type} {r : Except ε (Option α)} {a : α} :
    r.toOption.join = some a ↔ r = .ok (some a) := by
  cases r with
  | error e => simp [Except.toOption]
  | ok found => cases found <;> simp [Except.toOption]

theorem ownOperation_of_isSome {u : UnicodeData} {today : Date} {request : List Char}
    (h : (ownOperation u today request).toOption.join.isSome = true) :
    ∃ operation, ownOperation u today request = .ok (some operation) := by
  obtain ⟨operation, hown⟩ := Option.isSome_iff_exists.mp h
  exact ⟨operation, toOption_join_eq_some.mp hown⟩

/-- The list of the notifications is a word, and is taken for the name of somebody. -/
theorem notifications_takenForName :
    (∃ operation, ownOperation asciiTables ferragosto "notifiche".toList = .ok (some operation)) ∧
      TakenForName (localInterpreter asciiTables ferragosto) "notifiche"
        (readings smallStore channelOne (fun _ => 10) "notifiche" contractsWaiting) := by
  refine ⟨ownOperation_of_isSome (by decide +kernel), by decide +kernel, rfl, contractsPending, ?_⟩
  rw [waits_contracts.pending]
  rw [if_pos (by decide +kernel)]

theorem notifications_answered :
    ∃ operation, ownOperation asciiTables ferragosto "notifiche?".toList = .ok (some operation) ∧
      answered (localInterpreter asciiTables ferragosto) "notifiche?"
          (readings smallStore channelOne (fun _ => 10) "notifiche?" contractsWaiting) =
        answeredByItself (localInterpreter asciiTables ferragosto) "notifiche?" operation
          (readings smallStore channelOne (fun _ => 10) "notifiche?" contractsWaiting) := by
  have hsome : (ownOperation asciiTables ferragosto "notifiche?".toList).toOption.join.isSome =
      true := by decide +kernel
  obtain ⟨operation, hown⟩ := ownOperation_of_isSome hsome
  exact ⟨operation, hown,
    ((ownOperation_answered (c := smallStore) hown waits_contracts).mpr
      (.inl (by decide +kernel))).2.1⟩

/-! ## Writes and plans over the roster -/

/-- Activation, deactivation, the state of a notification, and the export. -/
def writtenFunctions : List String :=
  ["EMP-STATUS-001", "EMP-STATUS-002", "EMP-NOTIF-002", "EMP-EXPORT-001"]

theorem not_planned {functionId : String} (h : functionId ∈ writtenFunctions) :
    functionId ∉ Planner.plannedFunctions := by
  revert functionId
  decide

/-- A write that the parser recognises is dispatched as it is, with its target and its parameters,
exactly where its words are not those of a plan over the roster. -/
theorem write_dispatched {u : UnicodeData} {today : Date} {normalized : String}
    {found : LocalIntent}
    (h : parseLocalOperationalIntent u today normalized.toList = .ok (some found))
    (hwrite : found.intent.functionId ∈ writtenFunctions) :
    (Planner.buildLocalHrQueryPlan u today normalized.toList = .ok none ∧
        ∀ visible, route (T := T) (localInterpreter u today) normalized none none visible =
          .pure (.inl found)) ↔
      ¬Planner.SpeaksOfExpiries u normalized.toList ∧
        ¬Planner.SpeaksOfWorkforce u normalized.toList := by
  rw [← Planner.buildLocalHrQueryPlan_eq_none h (not_planned hwrite)]
  refine ⟨And.left, fun hplan => ⟨hplan, fun visible => ?_⟩⟩
  have hown : ownOperation u today normalized.toList = .ok (some (.intent found)) := by
    rw [ownOperation, hplan]
    show (parseLocalOperationalIntent u today normalized.toList >>= _) = _
    rw [h]
    rfl
  exact route_own hown visible

/-- What the parser makes of a write, as far as it is compared here. -/
def LocalIntent.summary (found : LocalIntent) : String × Option String :=
  (found.intent.functionId, found.targetQuery)

theorem parsed_of_summary {u : UnicodeData} {today : Date} {request : List Char}
    {summary : String × Option String}
    (h : (parseLocalOperationalIntent u today request).toOption.join.map LocalIntent.summary =
      some summary) :
    ∃ found, parseLocalOperationalIntent u today request = .ok (some found) ∧
      found.summary = summary := by
  obtain ⟨found, hfound, hsummary⟩ := Option.map_eq_some_iff.mp h
  exact ⟨found, toOption_join_eq_some.mp hfound, hsummary⟩

/-- A notification is to be marked as read, and a table of the whole staff is planned. -/
theorem notification_planned :
    (∃ found, parseLocalOperationalIntent asciiTables ferragosto
        "segna notifica 5 come letta lista contratti netto".toList = .ok (some found) ∧
      found.summary = ("EMP-NOTIF-002", none)) ∧
    Planner.buildLocalHrQueryPlan asciiTables ferragosto
      "segna notifica 5 come letta lista contratti netto".toList ≠ .ok none := by
  have hwords : Planner.SpeaksOfWorkforce asciiTables
      "segna notifica 5 come letta lista contratti netto".toList := by
    refine ⟨?_, ?_, ?_⟩ <;> decide +kernel
  have hparsed : (parseLocalOperationalIntent asciiTables ferragosto
      "segna notifica 5 come letta lista contratti netto".toList).toOption.join.map
        LocalIntent.summary = some ("EMP-NOTIF-002", none) := by decide +kernel
  obtain ⟨found, hfound, hsummary⟩ := parsed_of_summary hparsed
  refine ⟨⟨found, hfound, hsummary⟩, fun hnone => ?_⟩
  apply ((Planner.buildLocalHrQueryPlan_eq_none hfound (not_planned _)).mp hnone).2 hwords
  rw [show found.intent.functionId = "EMP-NOTIF-002" from congrArg Prod.fst hsummary]
  decide

theorem notification_dispatched :
    ∃ found, parseLocalOperationalIntent asciiTables ferragosto
        "segna notifica 5 come letta".toList = .ok (some found) ∧
      route (T := Nat) (localInterpreter asciiTables ferragosto)
        "segna notifica 5 come letta" none none [] = .pure (.inl found) := by
  have hparsed : (parseLocalOperationalIntent asciiTables ferragosto
      "segna notifica 5 come letta".toList).toOption.join.map LocalIntent.summary =
        some ("EMP-NOTIF-002", none) := by decide +kernel
  obtain ⟨found, hfound, hsummary⟩ := parsed_of_summary hparsed
  have hwrite : found.intent.functionId ∈ writtenFunctions := by
    rw [show found.intent.functionId = "EMP-NOTIF-002" from congrArg Prod.fst hsummary]
    decide
  refine ⟨found, hfound, ((write_dispatched hfound hwrite).mpr ⟨?_, ?_⟩).2 []⟩
  · rw [Planner.SpeaksOfExpiries]
    decide +kernel
  · rw [Planner.SpeaksOfWorkforce]
    decide +kernel

end BhDic.Application
