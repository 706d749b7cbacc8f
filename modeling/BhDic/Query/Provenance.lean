import BhDic.Query.Isolation

/-!
# Where an answer comes from

Whatever is evicted, expired or brought back, an answer hands out only what was stored under its own
key since that key was last cleared.
-/

namespace BhDic.Query

open BhDic.Library BhDic.Python BhDic.Security

section SinceClear

variable {T : Type} {history : List (StoreEvent T)} {e e' : StoreEvent T} {key : ConversationKey}

/-- The calls on a key since it was last cleared. -/
def sinceClear (key : ConversationKey) (history : List (StoreEvent T)) : List (StoreEvent T) :=
  history.foldl
    (fun calls e =>
      if e.key = key then
        match e.method with
        | .clear => []
        | _ => calls ++ [e]
      else calls) []

theorem sinceClear_append_other (hkey : e.key ≠ key) :
    sinceClear key (history ++ [e]) = sinceClear key history := by
  simp [sinceClear, List.foldl_append, hkey]

theorem sinceClear_append_self (hmethod : e.method ≠ .clear) :
    sinceClear e.key (history ++ [e]) = sinceClear e.key history ++ [e] := by
  -- the second branch of the match applies by `hmethod`
  simp only [sinceClear, List.foldl_append, List.foldl_cons, List.foldl_nil, if_true]

theorem mem_sinceClear_append (hmethod : e.method ≠ .clear) (h : e' ∈ sinceClear key history) :
    e' ∈ sinceClear key (history ++ [e]) := by
  by_cases hkey : e.key = key
  · subst hkey
    rw [sinceClear_append_self hmethod]
    exact List.mem_append_left _ h
  · rwa [sinceClear_append_other hkey]

end SinceClear

variable {T : Type} [LinearOrder T]

/-- The menu and the context that a call stores. -/
def StoreEvent.newMenu? (c : StoreSettings T) (e : StoreEvent T) :
    Option (String × ConversationContext T) :=
  match e.method with
  | .rememberCandidates candidateEmployeeIds functionId parameters contextId =>
      (newContext c e.time candidateEmployeeIds functionId parameters).toOption.map
        fun context => (contextId, context)
  | _ => none

/-- The pending operation that a call stores. -/
def StoreEvent.newTarget? (c : StoreSettings T) (e : StoreEvent T) :
    Option (PendingEmployeeTarget T) :=
  match e.method with
  | .rememberPendingTarget functionId parameters =>
      (newPendingTarget c e.time functionId parameters).toOption
  | _ => none

/-- The current employee that a call stores. -/
def StoreEvent.newCurrent? (c : StoreSettings T) (e : StoreEvent T) :
    Option (CurrentEmployeeContext T) :=
  match e.method with
  | .rememberCurrentEmployee employeeId => (newCurrentEmployee c e.time employeeId).toOption
  | _ => none

section Invariant

variable {c : StoreSettings T} {s : ConversationContextStore T} {history : List (StoreEvent T)}
  {e : StoreEvent T} {key : ConversationKey} {now : T}

/-- Every entry was stored under its key since the key was last cleared. -/
structure Provenance (c : StoreSettings T) (history : List (StoreEvent T))
    (s : ConversationContextStore T) : Prop where
  items : ∀ key context, s.items.get? key = some context →
    ∃ e ∈ sinceClear key history, ∃ contextId, e.newMenu? c = some (contextId, context)
  pendingTargets : ∀ key target, s.pendingTargets.get? key = some target →
    ∃ e ∈ sinceClear key history, e.newTarget? c = some target
  currentEmployees : ∀ key current, s.currentEmployees.get? key = some current →
    ∃ e ∈ sinceClear key history, e.newCurrent? c = some current
  selectionContexts : ∀ contextId snapshot, s.selectionContexts.get? contextId = some snapshot →
    ∃ e ∈ sinceClear snapshot.key history, e.newMenu? c = some (contextId, snapshot.context)

omit [LinearOrder T] in
theorem Provenance.append (h : Provenance c history s) (hmethod : e.method ≠ .clear) :
    Provenance c (history ++ [e]) s where
  items key context hget := by
    obtain ⟨e', hmem, hnew⟩ := h.items key context hget
    exact ⟨e', mem_sinceClear_append hmethod hmem, hnew⟩
  pendingTargets key target hget := by
    obtain ⟨e', hmem, hnew⟩ := h.pendingTargets key target hget
    exact ⟨e', mem_sinceClear_append hmethod hmem, hnew⟩
  currentEmployees key current hget := by
    obtain ⟨e', hmem, hnew⟩ := h.currentEmployees key current hget
    exact ⟨e', mem_sinceClear_append hmethod hmem, hnew⟩
  selectionContexts contextId snapshot hget := by
    obtain ⟨e', hmem, hnew⟩ := h.selectionContexts contextId snapshot hget
    exact ⟨e', mem_sinceClear_append hmethod hmem, hnew⟩

theorem Provenance.purgeExpired (h : Provenance c history s) :
    Provenance c history (s.purgeExpired now) where
  items key context hget :=
    h.items key context (Dict.get?_of_filterValues hget)
  pendingTargets key target hget :=
    h.pendingTargets key target (Dict.get?_of_filterValues hget)
  currentEmployees key current hget :=
    h.currentEmployees key current (Dict.get?_of_filterValues hget)
  selectionContexts contextId snapshot hget :=
    h.selectionContexts contextId snapshot (Dict.get?_of_filterValues hget)

theorem Provenance.rememberCandidates (h : Provenance c history s)
    (hmem : e ∈ sinceClear key history) {contextId : String} {context : ConversationContext T}
    (hnew : e.newMenu? c = some (contextId, context)) :
    Provenance c history (s.rememberCandidates c now key context contextId) where
  items key' context' hget := by
    obtain ⟨rfl, rfl⟩ | hget := get?_rememberLast_some hget
    · exact ⟨e, hmem, contextId, hnew⟩
    · exact h.purgeExpired.items key' context' hget
  pendingTargets key' target hget :=
    h.purgeExpired.pendingTargets key' target (Dict.get?_of_erase hget)
  currentEmployees := h.purgeExpired.currentEmployees
  selectionContexts contextId' snapshot hget := by
    obtain ⟨rfl, rfl⟩ | hget := get?_rememberLast_some hget
    · exact ⟨e, hmem, hnew⟩
    · exact h.purgeExpired.selectionContexts contextId' snapshot hget

theorem Provenance.rememberPendingTarget (h : Provenance c history s)
    (hmem : e ∈ sinceClear key history) {target : PendingEmployeeTarget T}
    (hnew : e.newTarget? c = some target) :
    Provenance c history (s.rememberPendingTarget c now key target) :=
  { h.purgeExpired with
    pendingTargets := by
      intro key' target' hget
      obtain ⟨rfl, rfl⟩ | hget := get?_rememberLast_some hget
      · exact ⟨e, hmem, hnew⟩
      · exact h.purgeExpired.pendingTargets key' target' hget }

theorem Provenance.rememberCurrentEmployee (h : Provenance c history s)
    (hmem : e ∈ sinceClear key history) {current : CurrentEmployeeContext T}
    (hnew : e.newCurrent? c = some current) :
    Provenance c history (s.rememberCurrentEmployee c now key current) :=
  { h.purgeExpired with
    currentEmployees := by
      intro key' current' hget
      obtain ⟨rfl, rfl⟩ | hget := get?_rememberLast_some hget
      · exact ⟨e, hmem, hnew⟩
      · exact h.purgeExpired.currentEmployees key' current' hget }

theorem Provenance.pendingTarget (h : Provenance c history s) :
    Provenance c history (s.pendingTarget now key).2 :=
  { h.purgeExpired with
    pendingTargets := by
      intro key' target hget
      exact h.purgeExpired.pendingTargets key' target ((Dict.get?_moveToEnd _ _ _).symm.trans hget) }

theorem Provenance.currentEmployee (h : Provenance c history s) :
    Provenance c history (s.currentEmployee now key).2 :=
  { h.purgeExpired with
    currentEmployees := by
      intro key' current hget
      exact h.purgeExpired.currentEmployees key' current
        ((Dict.get?_moveToEnd _ _ _).symm.trans hget) }

theorem Provenance.candidateContext (h : Provenance c history s) :
    Provenance c history (s.candidateContext now key).2 :=
  { h.purgeExpired with
    items := by
      intro key' context hget
      exact h.purgeExpired.items key' context ((Dict.get?_moveToEnd _ _ _).symm.trans hget) }

theorem Provenance.selection (h : Provenance c history s) (request : String) :
    Provenance c history (s.selection c now key request).2 := by
  simp only [ConversationContextStore.selection]
  split
  · exact h.purgeExpired
  · split
    · exact h.purgeExpired
    · exact h.purgeExpired
    · exact h.candidateContext

omit [LinearOrder T] in
theorem Provenance.clearPendingTarget (h : Provenance c history s) :
    Provenance c history (s.clearPendingTarget key).2 :=
  { h with
    pendingTargets := by
      intro key' target hget
      exact h.pendingTargets key' target (Dict.get?_of_erase hget) }

/-- A menu brings back a context that was stored under its own key. -/
theorem Provenance.activate (h : Provenance c history s) (contextId selected : String) :
    Provenance c history (s.activate now key contextId selected).2 := by
  simp only [ConversationContextStore.activate]
  split
  · exact h.purgeExpired
  · rename_i snapshot hsnapshot
    split
    · rename_i hchosen
      obtain ⟨rfl, -⟩ := hchosen
      obtain ⟨e, hmem, hnew⟩ := h.purgeExpired.selectionContexts _ _ hsnapshot
      exact { h.purgeExpired with
        items := by
          intro key' context hget
          rw [Dict.get?_moveToEnd, Dict.get?_set] at hget
          split at hget
          · rename_i hkey
            rw [hkey, ← Option.some.inj hget]
            exact ⟨e, hmem, contextId, hnew⟩
          · exact h.purgeExpired.items key' context hget
        selectionContexts := by
          intro contextId' snapshot' hget
          rw [Dict.get?_moveToEnd] at hget
          exact h.purgeExpired.selectionContexts contextId' snapshot' hget }
    · exact h.purgeExpired

omit [LinearOrder T] in
theorem Provenance.clear (h : Provenance c history s) (hkey : e.key = key)  :
    Provenance c (history ++ [e]) (s.clear key).2 where
  items key' context hget := by
    have hne := Dict.ne_of_get?_erase hget
    rw [sinceClear_append_other (hkey ▸ Ne.symm hne)]
    exact h.items key' context (Dict.get?_of_erase hget)
  pendingTargets key' target hget := by
    have hne := Dict.ne_of_get?_erase hget
    rw [sinceClear_append_other (hkey ▸ Ne.symm hne)]
    exact h.pendingTargets key' target (Dict.get?_of_erase hget)
  currentEmployees key' current hget := by
    have hne := Dict.ne_of_get?_erase hget
    rw [sinceClear_append_other (hkey ▸ Ne.symm hne)]
    exact h.currentEmployees key' current (Dict.get?_of_erase hget)
  selectionContexts contextId snapshot hget := by
    have hne : snapshot.key ≠ key := by
      have hfilter : ((s.selectionContexts.get? contextId).filter (·.key ≠ key)) = some snapshot :=
        (Dict.get?_filterValues _ _ _).symm.trans hget
      simpa using (Option.filter_eq_some_iff.mp hfilter).2
    rw [sinceClear_append_other (hkey ▸ Ne.symm hne)]
    exact h.selectionContexts contextId snapshot (Dict.get?_of_filterValues hget)

/-- A call keeps the provenance of every entry. -/
theorem Provenance.after (h : Provenance c history s) :
    Provenance c (history ++ [e]) (s.after c e) := by
  by_cases hclear : e.method = .clear
  · have hafter : s.after c e = (s.clear e.key).2 := by
      simp only [ConversationContextStore.after, ConversationContextStore.step, hclear]
    rw [hafter]
    exact h.clear rfl
  · have h := h.append hclear
    have hmem : e ∈ sinceClear e.key (history ++ [e]) := by
      rw [sinceClear_append_self hclear]
      exact List.mem_append_right _ (List.mem_singleton_self e)
    obtain ⟨time, key, method⟩ := e
    unfold ConversationContextStore.after ConversationContextStore.step
    cases method with
    | rememberCandidates candidateEmployeeIds functionId parameters contextId =>
        dsimp only
        split
        · exact h
        · rename_i context hcontext
          exact h.rememberCandidates hmem (by simp [StoreEvent.newMenu?, hcontext, Except.toOption])
    | rememberPendingTarget functionId parameters =>
        dsimp only
        split
        · split
          · exact h.purgeExpired
          · rename_i target htarget
            exact h.rememberPendingTarget hmem
              (by simp [StoreEvent.newTarget?, htarget, Except.toOption])
        · exact h
    | pendingTarget request =>
        dsimp only
        split
        · exact h.pendingTarget
        · exact h
    | clearPendingTarget => exact h.clearPendingTarget
    | rememberCurrentEmployee employeeId =>
        dsimp only
        split
        · exact h.purgeExpired
        · rename_i current hcurrent
          exact h.rememberCurrentEmployee hmem
            (by simp [StoreEvent.newCurrent?, hcurrent, Except.toOption])
    | currentEmployee => exact h.currentEmployee
    | selection request => exact h.selection request
    | activateSelectionContext contextId employeeId =>
        dsimp only
        split
        · split
          · exact h
          · exact h.activate _ _
        · exact h
    | candidateContext request =>
        dsimp only
        split
        · exact h.candidateContext
        · exact h
    | clear => exact absurd rfl hclear

theorem provenance_runs (c : StoreSettings T) (events : List (StoreEvent T)) :
    Provenance c events (ConversationContextStore.runs c events {}) := by
  induction events using List.reverseRecOn with
  | nil => exact ⟨nofun, nofun, nofun, nofun⟩
  | append_singleton events e ih =>
      rw [ConversationContextStore.runs, List.foldl_append]
      exact ih.after

end Invariant

/-! ## Answers -/

/-- What an answer to a call hands out is unexpired and comes from a call on the same key since the
key was last cleared, and an employee it selects is one of the candidates. -/
def Sound (c : StoreSettings T) (history : List (StoreEvent T)) (e : StoreEvent T) :
    StoreAnswer T → Prop
  | .pending (some target) =>
      e.time < target.expiresAt ∧ ∃ e' ∈ sinceClear e.key history, e'.newTarget? c = some target
  | .employee (some employeeId) =>
      ∃ current, current.employeeId = employeeId ∧ e.time < current.expiresAt ∧
        ∃ e' ∈ sinceClear e.key history, e'.newCurrent? c = some current
  | .selected (some (employeeId, context)) =>
      employeeId ∈ context.candidateEmployeeIds ∧ e.time < context.expiresAt ∧
        ∃ e' ∈ sinceClear e.key history, ∃ contextId, e'.newMenu? c = some (contextId, context)
  | .context (some context) =>
      e.time < context.expiresAt ∧
        ∃ e' ∈ sinceClear e.key history, ∃ contextId, e'.newMenu? c = some (contextId, context)
  | .flag true =>
      ∀ contextId employeeId, e.method = .activateSelectionContext contextId employeeId →
        ∃ selected context, validateEmployeeId c.unicode employeeId = .ok selected ∧
          selected ∈ context.candidateEmployeeIds ∧ e.time < context.expiresAt ∧
          ∃ e' ∈ sinceClear e.key history, e'.newMenu? c = some (contextId, context)
  | _ => True

theorem selectedCandidate_mem {u : UnicodeData} {request : String} {candidates : List String}
    {selected : String} (h : selectedCandidate u request candidates = .ok (some selected)) :
    selected ∈ candidates := by
  simp only [selectedCandidate] at h
  split at h
  · split at h
    · cases h
    · exact List.mem_of_getElem? (Except.ok.inj h)
  · split at h
    · cases h
    · split at h
      · split at h
        · rename_i hmem
          cases h
          exact hmem
        · cases h
      · split at h
        · rename_i hmem
          cases h
          exact hmem
        · cases h

section Sound

variable {c : StoreSettings T} {s : ConversationContextStore T} {history : List (StoreEvent T)}
  {now : T} {key : ConversationKey}

theorem items_alive {context : ConversationContext T}
    (h : (s.purgeExpired now).items.get? key = some context) : now < context.expiresAt := by
  have hfilter := (Dict.get?_filterValues _ _ _).symm.trans h
  simpa using (Option.filter_eq_some_iff.mp hfilter).2

theorem pendingTargets_alive {target : PendingEmployeeTarget T}
    (h : (s.purgeExpired now).pendingTargets.get? key = some target) : now < target.expiresAt := by
  have hfilter := (Dict.get?_filterValues _ _ _).symm.trans h
  simpa using (Option.filter_eq_some_iff.mp hfilter).2

theorem currentEmployees_alive {current : CurrentEmployeeContext T}
    (h : (s.purgeExpired now).currentEmployees.get? key = some current) :
    now < current.expiresAt := by
  have hfilter := (Dict.get?_filterValues _ _ _).symm.trans h
  simpa using (Option.filter_eq_some_iff.mp hfilter).2

theorem selectionContexts_alive {contextId : String} {snapshot : EmployeeSelectionContext T}
    (h : (s.purgeExpired now).selectionContexts.get? contextId = some snapshot) :
    now < snapshot.context.expiresAt := by
  have hfilter := (Dict.get?_filterValues _ _ _).symm.trans h
  simpa using (Option.filter_eq_some_iff.mp hfilter).2

theorem sound_pendingTarget (h : Provenance c history s) (method : StoreMethod) :
    Sound c history ⟨now, key, method⟩ (.pending (s.pendingTarget now key).1) := by
  cases htarget : (s.pendingTarget now key).1 with
  | none => trivial
  | some target =>
      exact ⟨pendingTargets_alive htarget, h.purgeExpired.pendingTargets key target htarget⟩

theorem sound_currentEmployee (h : Provenance c history s) (method : StoreMethod) :
    Sound c history ⟨now, key, method⟩ (.employee (s.currentEmployee now key).1) := by
  cases hemployee : (s.currentEmployee now key).1 with
  | none => trivial
  | some employeeId =>
      obtain ⟨current, hget, hid⟩ := Option.map_eq_some_iff.mp hemployee
      exact ⟨current, hid, currentEmployees_alive hget,
        h.purgeExpired.currentEmployees key current hget⟩

theorem sound_candidateContext (h : Provenance c history s) (method : StoreMethod) :
    Sound c history ⟨now, key, method⟩ (.context (s.candidateContext now key).1) := by
  cases hcontext : (s.candidateContext now key).1 with
  | none => trivial
  | some context =>
      exact ⟨items_alive hcontext, h.purgeExpired.items key context hcontext⟩

theorem sound_selection (h : Provenance c history s) {request : String} (method : StoreMethod)
    {choice : Option (String × ConversationContext T)}
    (hchoice : (s.selection c now key request).1 = .ok choice) :
    Sound c history ⟨now, key, method⟩ (.selected choice) := by
  simp only [ConversationContextStore.selection] at hchoice
  split at hchoice
  · cases hchoice
    trivial
  · rename_i context hcontext
    split at hchoice
    · cases hchoice
    · cases hchoice
      trivial
    · rename_i selected hselected
      cases hchoice
      exact ⟨selectedCandidate_mem hselected, items_alive hcontext,
        h.purgeExpired.items key context hcontext⟩

theorem sound_activate (h : Provenance c history s) {contextId employeeId selected : String}
    (hselected : validateEmployeeId c.unicode employeeId = .ok selected) :
    Sound c history ⟨now, key, .activateSelectionContext contextId employeeId⟩
      (.flag (s.activate now key contextId selected).1) := by
  simp only [ConversationContextStore.activate]
  split
  · trivial
  · rename_i snapshot hsnapshot
    split
    · rename_i hchosen
      obtain ⟨rfl, hmem⟩ := hchosen
      intro contextId' employeeId' heq
      cases heq
      exact ⟨selected, snapshot.context, hselected, hmem, selectionContexts_alive hsnapshot,
        h.purgeExpired.selectionContexts _ snapshot hsnapshot⟩
    · trivial

/-- A removal hands nothing out. -/
theorem sound_flag_of_ne {method : StoreMethod} (b : Bool)
    (hmethod : ∀ contextId employeeId,
      method ≠ .activateSelectionContext contextId employeeId) :
    Sound c history ⟨now, key, method⟩ (.flag b) := by
  cases b with
  | false => trivial
  | true =>
      intro contextId employeeId heq
      exact absurd heq (hmethod contextId employeeId)

theorem sound_step (h : Provenance c history s) {e : StoreEvent T} {answer : StoreAnswer T}
    (hanswer : (s.step c e.time e.key e.method).1 = .ok answer) : Sound c history e answer := by
  obtain ⟨now, key, method⟩ := e
  unfold ConversationContextStore.step at hanswer
  cases method with
  | rememberCandidates candidateEmployeeIds functionId parameters contextId =>
      dsimp only at hanswer
      split at hanswer
      · cases hanswer
      · cases hanswer
        trivial
  | rememberPendingTarget functionId parameters =>
      dsimp only at hanswer
      split at hanswer
      · split at hanswer
        · cases hanswer
        · cases hanswer
          trivial
      · cases hanswer
  | pendingTarget request =>
      dsimp only at hanswer
      split at hanswer
      · cases hanswer
        exact sound_pendingTarget h _
      · cases hanswer
        trivial
  | clearPendingTarget =>
      cases hanswer
      exact sound_flag_of_ne _ nofun
  | rememberCurrentEmployee employeeId =>
      dsimp only at hanswer
      split at hanswer
      · cases hanswer
      · cases hanswer
        trivial
  | currentEmployee =>
      cases hanswer
      exact sound_currentEmployee h _
  | selection request =>
      dsimp only at hanswer
      cases hchoice : (s.selection c now key request).1 with
      | error e =>
          rw [hchoice] at hanswer
          cases hanswer
      | ok choice =>
          rw [hchoice] at hanswer
          cases hanswer
          exact sound_selection h _ hchoice
  | activateSelectionContext contextId employeeId =>
      dsimp only at hanswer
      split at hanswer
      · split at hanswer
        · cases hanswer
          trivial
        · rename_i selected hselected
          cases hanswer
          exact sound_activate h hselected
      · cases hanswer
        trivial
  | candidateContext request =>
      dsimp only at hanswer
      split at hanswer
      · cases hanswer
        exact sound_candidateContext h _
      · cases hanswer
        trivial
  | clear =>
      cases hanswer
      exact sound_flag_of_ne _ nofun

end Sound

/-- An answer hands out only what was stored under its own key since the key was last cleared and
has not expired; and the calls on other keys change what a key is answered only by evicting its
entries, or through an identifier made twice. -/
theorem conversations_isolated (c : StoreSettings T) :
    (∀ history e answer,
      ((ConversationContextStore.runs c history {}).step c e.time e.key e.method).1 = .ok answer →
        Sound c history e answer) ∧
    (∀ key events events', NonDecreasing events → NonDecreasing events' →
      events.filter (·.key = key) = events'.filter (·.key = key) →
      EveryCall c (Undisturbed c key) {} events → EveryCall c (Undisturbed c key) {} events' →
        answersFor c key {} events = answersFor c key {} events') := by
  constructor
  · intro history e answer hanswer
    exact sound_step (provenance_runs c history) hanswer
  · intro key events events' hclock hclock' hsame hcalls hcalls'
    -- both runs answer the key as a conversation that has the store to itself
    have halone : ∀ events : List (StoreEvent T), NonDecreasing events →
        EveryCall c (Undisturbed c key) {} events →
        answersFor c key {} events =
          ({} : Conversation T).answers c (events.filter (·.key = key)) := by
      intro events hclock hcalls
      cases events with
      | nil => rfl
      | cons e events =>
          have hfirst : ∀ e' ∈ e :: events, e.time ≤ e'.time := by
            intro e' hmem
            obtain rfl | hmem := List.mem_cons.mp hmem
            · exact le_rfl
            · exact (List.pairwise_cons.mp hclock).1 e' hmem
          exact answersFor_eq_answers hclock hfirst rfl hcalls
    rw [halone events hclock hcalls, halone events' hclock' hcalls', hsame]

section Sample

/-- A channel remembers an employee, and is asked for it later. -/
def quietRun : List (StoreEvent Nat) :=
  [⟨0, channelOne, .rememberCurrentEmployee "71"⟩, ⟨800, channelOne, .currentEmployee⟩]

/-- The same, while another channel does as much. -/
def busyRun : List (StoreEvent Nat) :=
  [⟨0, channelOne, .rememberCurrentEmployee "71"⟩,
    ⟨10, channelTwo, .rememberCurrentEmployee "81"⟩,
    ⟨20, channelTwo, .currentEmployee⟩, ⟨800, channelOne, .currentEmployee⟩,
    ⟨810, channelTwo, .clear⟩]

theorem conversations_isolated_busyRun :
    Sound smallStore (busyRun.take 3) ⟨800, channelOne, .currentEmployee⟩
        (.employee (some "71")) ∧
      answersFor smallStore channelOne {} quietRun =
        answersFor smallStore channelOne {} busyRun := by
  refine ⟨(conversations_isolated smallStore).1 (busyRun.take 3)
    ⟨800, channelOne, .currentEmployee⟩ _ rfl, ?_⟩
  apply (conversations_isolated smallStore).2 channelOne quietRun busyRun
  · unfold NonDecreasing
    decide
  · unfold NonDecreasing
    decide
  · rfl
  · exact ⟨⟨by decide, trivial⟩, ⟨by decide, trivial⟩, trivial⟩
  · exact ⟨⟨by decide, trivial⟩, ⟨by decide, trivial⟩, ⟨by decide, trivial⟩, ⟨by decide, trivial⟩,
      ⟨by decide, trivial⟩, trivial⟩

/-- Whether `clear` finds an expired entry depends on whether a call on another key purged it. -/
theorem clear_tells_of_purge :
    ((ConversationContextStore.runs smallStore [⟨0, channelOne, .rememberCurrentEmployee "71"⟩]
        {}).step smallStore 900 channelOne .clear).1 = .ok (.flag true) ∧
      ((ConversationContextStore.runs smallStore [⟨0, channelOne, .rememberCurrentEmployee "71"⟩,
        ⟨900, channelTwo, .currentEmployee⟩] {}).step smallStore 900 channelOne .clear).1 =
          .ok (.flag false) ∧
      EveryCall smallStore (fun s e => s.evicted smallStore e = []) {}
        [⟨0, channelOne, .rememberCurrentEmployee "71"⟩, ⟨900, channelTwo, .currentEmployee⟩] :=
  ⟨rfl, rfl, by decide, by decide, trivial⟩

end Sample

end BhDic.Query
