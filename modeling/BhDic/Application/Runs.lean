import BhDic.Application.Dispatch
import BhDic.Approvals.Runs

/-!
# Runs of the application

Any number of requests run at once over one lawful approval repository and one boundary. Every
call is one step; a repository call may fail for a reason of its own, before or after the store
took it in, the boundary may answer anything, and a request may stop for good between two calls.

`ExecutionOk` is the invariant of every run: whoever holds an execution is the only one, what is
stored of its action and what was dispatched for it agree with the phase it is in, and an outcome
is recorded only on the evidence for it.
-/

namespace BhDic.Application

open BhDic.Approvals BhDic.Dic BhDic.Library BhDic.Python
open BhDic.Library.Prog

/-! ## The system -/

/-- What all requests share: the store, and the boundary, of which only its answers so far are
kept. -/
structure World (σ : Type) where
  store : σ
  log : List Event := []

def executionSystem {σ : Type} (R : LawfulRepository σ) (c : Coordinator) :
    System executionEffect Exn Response Request (World σ) where
  body := Request.body c
  exec
    | .inl o, w, answer, w' => R.exec o w.store answer w'.store ∧ w'.log = w.log
    | .inr o, w, answer, w' => w'.store = w.store ∧ w'.log = w.log ++ [⟨o, answer⟩]

/-- The write an event asked the adapter for. -/
def Event.written : Event → Option Dic.PreparedAction
  | ⟨.write o, _⟩ => some o.action
  | ⟨.read _, _⟩ => none

/-- The event asked the adapter for the write of the action. -/
def Event.writes (actionId : String) (event : Event) : Bool :=
  event.written.any (·.actionId = actionId)

theorem Event.writes_of_dispatches {id : String} {event : Event}
    (h : event.dispatches id = true) : event.writes id = true := by
  obtain ⟨o | o, answer⟩ := event
  · cases h
  · simp only [dispatches, Bool.and_eq_true, decide_eq_true_eq] at h
    simp [writes, written, h.1]

theorem Event.writes_of_misreports {id : String} {event : Event}
    (h : event.misreports id = true) : event.writes id = true := by
  obtain ⟨o | o, answer⟩ := event
  · cases h
  · simp only [misreports, Bool.and_eq_true, decide_eq_true_eq] at h
    simp [writes, written, h.1.1]

/-! ## The invariant -/

/-- The call holds the execution of the action. -/
def holds (actionId : String) (k : Knowledge) : Bool :=
  k.hold.any (·.action.actionId = actionId)

/-- The action is stored under the key, and has been executing. -/
def Executing (S : ActionMap) (actionId key : String) : Prop :=
  ∃ a, S.record actionId = some a ∧ a.idempotencyKey = key ∧ a.status ∈ executionStatuses

/-- What the phase of an execution says of the store and of what was answered. -/
structure HoldOk (S : ActionMap) (log : List Event) (h : Hold) : Prop where
  executing : Executing S h.action.actionId h.action.idempotencyKey
  unsettled : h.phase = .claimed → ∀ a, S.record h.action.actionId = some a →
    a.status ∉ outcomeStatuses
  unwritten : h.phase = .claimed → ∀ event ∈ log, ¬event.writes h.action.actionId
  undispatched : h.phase = .closed → ∀ event ∈ log, ¬event.dispatches h.action.actionId
  applied : h.phase = .applied → ∃ event ∈ log, event.establishes h.action.actionId
  unreliable : h.phase = .unreliable → ∃ event ∈ log, event.misreports h.action.actionId

/-- What a recorded outcome says of a dispatched write, unless it was misreported. -/
def OutcomeOk (log : List Event) (a : PendingAction) : Prop :=
  a.status ∈ outcomeStatuses → (∃ event ∈ log, event.dispatches a.actionId) →
    (∀ event ∈ log, ¬event.misreports a.actionId) →
    a.status = .succeeded ∧ ∃ event ∈ log, event.establishes a.actionId

structure ExecutionOk (S : ActionMap) (log : List Event) (ks : List Knowledge) : Prop where
  sound : ∀ k ∈ ks, k.Sound S
  restricted : ∀ k ∈ ks, k.anyOutcome = false
  holdOk : ∀ k ∈ ks, ∀ h, k.hold = some h → HoldOk S log h
  oneHolder : ∀ id, ks.countP (holds id) ≤ 1
  written : ∀ event ∈ log, ∀ action, event.written = some action →
    Executing S action.actionId action.idempotencyKey
  once : ∀ id, log.countP (Event.writes id) ≤ 1
  outcomes : ∀ id a, S.record id = some a → OutcomeOk log a

/-! ## A repository call -/

section RepositoryStep

variable {granted : Grants} {S S' : ActionMap} {log : List Event} {o : RepositoryOp}

theorem Executing.step {id key : String} (h : Executing S id key)
    (hstep : RecordStep granted o (S.record id) (S'.record id)) : Executing S' id key := by
  obtain ⟨a, ha, hkey, hstatus⟩ := h
  rw [ha] at hstep
  generalize hnext : S'.record id = next at hstep
  cases hstep with
  | same => exact ⟨a, hnext, hkey, hstatus⟩
  | replaced _ htransition hsame =>
      refine ⟨_, hnext, (hsame.idempotencyKey.trans htransition.idempotencyKey).trans hkey, ?_⟩
      rw [hsame.status]
      exact htransition.stays_execution hstatus

/-- A call that records no outcome of the action leaves what is known of its execution. -/
theorem HoldOk.step {h : Hold} (hk : HoldOk S log h)
    (hstep : RecordStep granted o (S.record h.action.actionId) (S'.record h.action.actionId))
    (hquiet : h.phase = .claimed → ∀ b v, o = .replace b v → b.actionId = h.action.actionId →
      b.status ∉ outcomeStatuses) : HoldOk S' log h := by
  refine ⟨hk.executing.step hstep, fun hphase a ha => ?_, hk.unwritten, hk.undispatched, hk.applied,
    hk.unreliable⟩
  obtain ⟨cur, hcur, -⟩ := hk.executing
  have hid := S.record_id hcur
  rw [hcur, ha] at hstep
  generalize hsome : some cur = before at hstep
  cases hstep with
  | same => exact hk.unsettled hphase a (by rw [hcur, hsome])
  | created => cases hsome
  | replaced ho htransition hsame =>
      cases hsome
      rw [hsame.status]
      exact hquiet hphase _ _ ho (htransition.actionId.trans hid)

theorem HoldOk.close {h : Hold} (hk : HoldOk S log h) : HoldOk S log h.close := by
  obtain ⟨a, phase⟩ := h
  cases phase with
  | claimed =>
      refine ⟨hk.executing, nofun, nofun, fun _ event hevent hdispatches => ?_, nofun, nofun⟩
      exact hk.unwritten rfl event hevent (Event.writes_of_dispatches hdispatches)
  | _ => exact hk

/-- What may be recorded of an execution is right in each phase. -/
theorem HoldOk.outcomeOk {h : Hold} (hk : HoldOk S log h) {a : PendingAction}
    (hid : a.actionId = h.action.actionId) (hallows : h.phase.allows a.status) :
    OutcomeOk log a := by
  rw [OutcomeOk, hid]
  rintro - ⟨event, hevent, hdispatches⟩ hreliable
  obtain ⟨action, phase⟩ := h
  cases phase with
  | claimed =>
      exact absurd (Event.writes_of_dispatches hdispatches) (hk.unwritten rfl event hevent)
  | closed => exact absurd hdispatches (hk.undispatched rfl event hevent)
  | dispatched => exact hallows.elim
  | applied => exact ⟨hallows, hk.applied rfl⟩
  | unreliable =>
      obtain ⟨event', hevent', hmisreports⟩ := hk.unreliable rfl
      exact absurd hmisreports (hreliable event' hevent')

variable {k : Knowledge} {ks₁ ks₂ : List Knowledge} {answer : Except Exn o.Returns}

theorem holds_iff {id : String} : holds id k = true ↔ k.Holding id := by
  simp only [holds, Option.any_eq_true, decide_eq_true_eq, Knowledge.Holding]

/-- Two calls cannot hold the execution of one action. -/
theorem not_holds_of_oneHolder {id : String}
    (hone : (ks₁ ++ k :: ks₂).countP (holds id) ≤ 1) (hk : holds id k = true) :
    ∀ k' ∈ ks₁ ++ ks₂, holds id k' = false := by
  rw [List.countP_append, List.countP_cons_of_pos hk] at hone
  intro k' hk'
  rw [← Bool.not_eq_true]
  intro hholds
  have hpos : 0 < (ks₁ ++ ks₂).countP (holds id) := List.countP_pos_iff.mpr ⟨k', hk', hholds⟩
  rw [List.countP_append] at hpos
  omega

/-- What a repository call leaves held: an execution it has begun, what was held before, or that
with the execution closed. -/
inductive Learned (k : Knowledge) (S S' : ActionMap) (o : RepositoryOp) : Option Hold → Prop
  | began {b cur next : PendingAction} : o = .replace b cur.version → b.status = .executing →
      S.record b.actionId = some cur → b.version = cur.version + 1 →
      S'.record b.actionId = some next → b.SameUpToOrder next →
      Learned k S S' o (some ⟨b, .claimed⟩)
  | kept : (∀ b v, o = .replace b v → b.status ∉ outcomeStatuses) → Learned k S S' o k.hold
  | closed : Learned k S S' o (k.hold.map Hold.close)

theorem learned_recorded {b : PendingAction} {v : Nat} :
    Learned k S S' (.replace b v) (k.recorded b.status).hold := by
  unfold Knowledge.recorded
  split
  · exact .closed
  · refine .kept ?_
    rintro _ _ ⟨⟩
    assumption

theorem learnedHold (hstep : StoreStep k S S' o answer) :
    Learned k S S' o (k.learn o answer).hold := by
  cases o with
  | replace b v =>
      cases answer with
      | error e => exact learned_recorded
      | ok u =>
          simp only [Knowledge.learn]
          split
          · rename_i hexecuting
            obtain ⟨cur, next, hcur, rfl, hversion, hnext, hsame⟩ := hstep.replaced
            exact .began rfl hexecuting hcur hversion hnext hsame
          · exact learned_recorded
  | insert a => exact .kept fun _ _ h => by cases h
  | get id => rcases answer with e | _ | a <;> exact .kept fun _ _ h => by cases h
  | claimIdempotency key id =>
      rcases answer with e | _ | _ <;> exact .kept fun _ _ h => by cases h
  | listActions => cases answer <;> exact .kept fun _ _ h => by cases h

theorem learn_anyOutcome (k : Knowledge) (o : RepositoryOp) (answer : Except Exn o.Returns) :
    (k.learn o answer).anyOutcome = k.anyOutcome := by
  have hrecorded : ∀ status, (k.recorded status).anyOutcome = k.anyOutcome := by
    intro status
    unfold Knowledge.recorded
    split <;> rfl
  unfold Knowledge.learn
  split
  · rfl
  · rfl
  · rfl
  · split
    · rfl
    · exact hrecorded _
  · exact hrecorded _
  · rfl

/-- Whoever records an outcome holds the execution, in a phase that allows it. -/
theorem ExecutionOk.recording (h : ExecutionOk S log (ks₁ ++ k :: ks₂)) {b : PendingAction}
    {v : Nat} (hpermits : k.permits (.replace b v)) (houtcome : b.status ∈ outcomeStatuses) :
    ∃ hold, k.hold = some hold ∧ hold.action.actionId = b.actionId ∧
      hold.phase.allows b.status := by
  obtain ⟨_, _, _, _, _, hmay⟩ := hpermits
  rcases hmay houtcome with hany | hhold
  · rw [h.restricted k (List.mem_append_right _ List.mem_cons_self)] at hany
    cases hany
  · exact hhold

/-- An action about to be executed was approved, so that nobody holds it and nothing was written
for it. -/
theorem ExecutionOk.beginning {ks : List Knowledge} (h : ExecutionOk S log ks)
    {cur : PendingAction} {id : String} (hcur : S.record id = some cur)
    (happroved : cur.status = .approved) :
    (∀ k' ∈ ks, holds id k' = false) ∧ ∀ event ∈ log, ¬event.writes id := by
  have hnot : ∀ key, ¬Executing S id key := by
    rintro key ⟨a, ha, -, hstatus⟩
    rw [hcur] at ha
    cases ha
    rw [happroved] at hstatus
    revert hstatus
    decide
  constructor
  · intro k' hk'
    rw [← Bool.not_eq_true, holds_iff]
    rintro ⟨hold, hhold, rfl⟩
    exact hnot _ (h.holdOk k' hk' hold hhold).executing
  · intro event hevent hwrites
    simp only [Event.writes, Option.any_eq_true, decide_eq_true_eq] at hwrites
    obtain ⟨action, hwritten, rfl⟩ := hwrites
    exact hnot _ (h.written event hevent action hwritten)

/-- The record a begun execution replaced was approved. -/
theorem approved_of_begun (hstep : StoreStep k S S' o answer) {b cur next : PendingAction}
    {v : Nat} (ho : o = .replace b v) (hexecuting : b.status = .executing)
    (hcur : S.record b.actionId = some cur) (hversion : b.version = cur.version + 1)
    (hnext : S'.record b.actionId = some next) (hsame : b.SameUpToOrder next) :
    cur.status = .approved := by
  have hrecord := hstep.records b.actionId
  rw [hcur, hnext] at hrecord
  generalize hbefore : some cur = before at hrecord
  generalize hafter : some next = after at hrecord
  cases hrecord with
  | same =>
      cases hbefore
      cases hafter
      have := hsame.version
      omega
  | created => cases hbefore
  | replaced ho' htransition _ =>
      cases hbefore
      rw [ho] at ho'
      cases ho'
      exact (htransition.executing hexecuting).1

theorem holds_of_hold {k' : Knowledge} {id : String} {hold : Hold} (h : k'.hold = some hold) :
    holds id k' = decide (hold.action.actionId = id) := by
  simp [holds, h]

theorem countP_middle (p : Knowledge → Bool) :
    (ks₁ ++ k :: ks₂).countP p = (ks₁ ++ ks₂).countP p + if p k then 1 else 0 := by
  simp only [List.countP_append, List.countP_cons]
  omega

theorem mem_middle {k' : Knowledge} :
    k' ∈ ks₁ ++ k :: ks₂ ↔ k' = k ∨ k' ∈ ks₁ ++ ks₂ := by
  simp only [List.mem_append, List.mem_cons]
  tauto

/-- **A repository call keeps the invariant.** -/
theorem ExecutionOk.repositoryStep (h : ExecutionOk S log (ks₁ ++ k :: ks₂))
    (hpermits : k.permits o) (hstep : StoreStep k S S' o answer) :
    ExecutionOk S' log (ks₁ ++ k.learn o answer :: ks₂) := by
  have hk : k ∈ ks₁ ++ k :: ks₂ := List.mem_append_right _ List.mem_cons_self
  have hmem : ∀ {k'}, k' ∈ ks₁ ++ ks₂ → k' ∈ ks₁ ++ k :: ks₂ := fun h => mem_middle.mpr (.inr h)
  -- Only this call can have recorded an outcome, and only of the execution it holds.
  have hothers : ∀ k' ∈ ks₁ ++ ks₂, ∀ hold, k'.hold = some hold → HoldOk S' log hold := by
    intro k' hk' hold hhold
    refine (h.holdOk k' (hmem hk') hold hhold).step (hstep.records _) ?_
    rintro - b v rfl hid houtcome
    obtain ⟨own, hown, hownId, -⟩ := h.recording hpermits houtcome
    have hheld : holds b.actionId k = true := by rw [holds_of_hold hown]; simp [hownId]
    have hfree := not_holds_of_oneHolder (h.oneHolder b.actionId) hheld k' hk'
    rw [holds_of_hold hhold, hid] at hfree
    simp at hfree
  have hwritten : ∀ event ∈ log, ∀ action, event.written = some action →
      Executing S' action.actionId action.idempotencyKey := fun event hevent action hw =>
    (h.written event hevent action hw).step (hstep.records _)
  have houtcomes : ∀ id a, S'.record id = some a → OutcomeOk log a := by
    intro id a ha
    have hrecord := hstep.records id
    rw [ha] at hrecord
    generalize hbefore : S.record id = before at hrecord
    cases hrecord with
    | same => exact h.outcomes id a hbefore
    | created _ _ hfresh =>
        intro hstatus
        rw [hfresh.status] at hstatus
        exact absurd hstatus (by decide)
    | @replaced cur b _ _ ho _ hsame =>
        by_cases houtcome : b.status ∈ outcomeStatuses
        · subst ho
          obtain ⟨own, hown, hownId, hallows⟩ := h.recording hpermits houtcome
          refine (h.holdOk k hk own hown).outcomeOk ?_ ?_
          · rw [hsame.actionId, hownId]
          · rw [hsame.status]
            exact hallows
        · intro hstatus
          rw [hsame.status] at hstatus
          exact absurd hstatus houtcome
  have hsound : ∀ k' ∈ ks₁ ++ k.learn o answer :: ks₂, k'.Sound S' := by
    intro k' hk'
    rcases mem_middle.mp hk' with rfl | hk'
    · exact hstep.learned
    · exact hstep.others k' (h.sound k' (hmem hk'))
  have hrestricted : ∀ k' ∈ ks₁ ++ k.learn o answer :: ks₂, k'.anyOutcome = false := by
    intro k' hk'
    rcases mem_middle.mp hk' with rfl | hk'
    · rw [learn_anyOutcome]
      exact h.restricted k hk
    · exact h.restricted k' (hmem hk')
  have hown : ∀ hold, (k.learn o answer).hold = some hold → HoldOk S' log hold := by
    intro hold hhold
    have hlearned := learnedHold hstep
    rw [hhold] at hlearned
    generalize hsome : some hold = now at hlearned
    cases hlearned with
    | @began b cur next ho hexecuting hcur hversion hnext hsame =>
        cases hsome
        have happroved := approved_of_begun hstep ho hexecuting hcur hversion hnext hsame
        have hfree := h.beginning hcur happroved
        refine ⟨⟨next, hnext, hsame.idempotencyKey, ?_⟩, fun _ a ha => ?_, fun _ => hfree.2, nofun,
          nofun, nofun⟩
        · rw [hsame.status, hexecuting]
          decide
        · rw [hnext] at ha
          cases ha
          rw [hsame.status, hexecuting]
          decide
    | kept hquiet =>
        exact (h.holdOk k hk hold hsome.symm).step (hstep.records _)
          fun _ b v ho _ => hquiet b v ho
    | closed =>
        obtain ⟨before, hbefore, rfl⟩ := Option.map_eq_some_iff.mp hsome.symm
        refine (h.holdOk k hk before hbefore).close.step (hstep.records _) fun hphase => ?_
        obtain ⟨a, phase⟩ := before
        cases phase <;> cases hphase
  have honeHolder : ∀ id, (ks₁ ++ k.learn o answer :: ks₂).countP (holds id) ≤ 1 := by
    intro id
    have hbefore := h.oneHolder id
    rw [countP_middle] at hbefore ⊢
    have hlearned := learnedHold hstep
    generalize hnow : (k.learn o answer).hold = now at hlearned
    cases hlearned with
    | @began b cur next ho hexecuting hcur hversion hnext hsame =>
        have happroved := approved_of_begun hstep ho hexecuting hcur hversion hnext hsame
        rw [holds_of_hold hnow]
        by_cases hid : b.actionId = id
        · have hnone : (ks₁ ++ ks₂).countP (holds id) = 0 := by
            refine List.countP_eq_zero.mpr fun k' hk' => ?_
            rw [← hid, (h.beginning hcur happroved).1 k' (hmem hk')]
            exact Bool.false_ne_true
          rw [hnone]
          split <;> simp
        · simp only [hid, decide_false, Bool.false_eq_true, if_false]
          omega
    | kept =>
        have hsame : holds id (k.learn o answer) = holds id k := by simp only [holds, hnow]
        rw [hsame]
        exact hbefore
    | closed =>
        have hsame : holds id (k.learn o answer) = holds id k := by
          simp only [holds, hnow]
          cases k.hold <;> simp
        rw [hsame]
        exact hbefore
  refine ⟨hsound, hrestricted, fun k' hk' => ?_, honeHolder, hwritten, h.once, houtcomes⟩
  rcases mem_middle.mp hk' with rfl | hk'
  · exact hown
  · exact hothers k' hk'

end RepositoryStep

/-! ## A boundary call -/

section BoundaryStep

variable {S : ActionMap} {log : List Event} {k : Knowledge} {ks₁ ks₂ : List Knowledge}

theorem OutcomeOk.append {a : PendingAction} (h : OutcomeOk log a) {event : Event}
    (hdispatches : event.dispatches a.actionId = true → ∃ e ∈ log, e.dispatches a.actionId) :
    OutcomeOk (log ++ [event]) a := by
  rintro hstatus ⟨e, he, hdispatched⟩ hreliable
  have hold : ∃ e ∈ log, e.dispatches a.actionId := by
    rcases List.mem_append.mp he with he | he
    · exact ⟨e, he, hdispatched⟩
    · rw [List.mem_singleton.mp he] at hdispatched
      exact hdispatches hdispatched
  obtain ⟨hsucceeded, e', he', hestablishes⟩ :=
    h hstatus hold fun e he => hreliable e (List.mem_append_left _ he)
  exact ⟨hsucceeded, e', List.mem_append_left _ he', hestablishes⟩

/-- An event that does not write for the action leaves what is known of its execution. -/
theorem HoldOk.append {h : Hold} (hk : HoldOk S log h) {event : Event}
    (hevent : ¬event.writes h.action.actionId) : HoldOk S (log ++ [event]) h := by
  have hall : ∀ {P : Event → Prop}, (∀ e ∈ log, P e) → P event → ∀ e ∈ log ++ [event], P e := by
    intro P hlog hP e he
    rcases List.mem_append.mp he with he | he
    · exact hlog e he
    · rw [List.mem_singleton.mp he]
      exact hP
  have hex : ∀ {P : Event → Prop}, (∃ e ∈ log, P e) → ∃ e ∈ log ++ [event], P e :=
    fun ⟨e, he, hP⟩ => ⟨e, List.mem_append_left _ he, hP⟩
  refine ⟨hk.executing, hk.unsettled, fun hphase => hall (hk.unwritten hphase) hevent,
    fun hphase => hall (hk.undispatched hphase) ?_, fun hphase => hex (hk.applied hphase),
    fun hphase => hex (hk.unreliable hphase)⟩
  exact fun hdispatches => hevent (Event.writes_of_dispatches hdispatches)

theorem writes_read {id : String} {o : ReadOp} {answer : Except Exn o.Returns} :
    ¬Event.writes id ⟨.read o, answer⟩ := Bool.false_ne_true

theorem writes_write {id : String} {o : WriteOp} {report : WriteReport o.Returns} :
    Event.writes id ⟨.write o, report⟩ ↔ o.action.actionId = id := by
  simp [Event.writes, Event.written]

/-- Reading can only add evidence that a dispatched write was applied. -/
theorem HoldOk.read {h : Hold} (hk : HoldOk S log h) {o : ReadOp}
    (answer : Except Exn o.Returns) :
    HoldOk S (log ++ [⟨.read o, answer⟩]) (observe h ⟨.read o, answer⟩) := by
  have happend : HoldOk S (log ++ [⟨.read o, answer⟩]) h := hk.append writes_read
  simp only [observe]
  split
  · rename_i hevidence
    refine ⟨happend.executing, (by cases ·), (by cases ·), (by cases ·), fun _ => ?_, (by cases ·)⟩
    exact ⟨_, List.mem_append_right _ (List.mem_singleton_self _), hevidence.2⟩
  · exact happend

/-- The phase after a write says what was reported of it. -/
theorem HoldOk.write {a : PendingAction} (hk : HoldOk S log ⟨a, .claimed⟩) {o : WriteOp}
    (hid : o.action.actionId = a.actionId) (report : WriteReport o.Returns) :
    HoldOk S (log ++ [⟨.write o, report⟩]) ⟨a, phaseAfter o report⟩ := by
  have hmem : (⟨.write o, report⟩ : Event) ∈ log ++ [⟨.write o, report⟩] :=
    List.mem_append_right _ (List.mem_singleton_self _)
  have hold : ∀ e ∈ log, ¬e.dispatches a.actionId := fun e he hdispatches =>
    hk.unwritten rfl e he (Event.writes_of_dispatches hdispatches)
  unfold phaseAfter
  split
  · rename_i hnot
    refine ⟨hk.executing, nofun, nofun, fun _ e he hdispatches => ?_, nofun, nofun⟩
    rcases List.mem_append.mp he with he | he
    · exact hold e he hdispatches
    · rw [List.mem_singleton.mp he] at hdispatches
      simp [Event.dispatches, hnot] at hdispatches
  · dsimp only
    split
    · rename_i hmisreports
      rw [hid] at hmisreports
      exact ⟨hk.executing, nofun, nofun, nofun, nofun, fun _ => ⟨_, hmem, hmisreports⟩⟩
    · split
      · rename_i hestablishes
        rw [hid] at hestablishes
        exact ⟨hk.executing, nofun, nofun, nofun, fun _ => ⟨_, hmem, hestablishes⟩, nofun⟩
      · exact ⟨hk.executing, nofun, nofun, nofun, nofun, nofun⟩

theorem holds_observed {id : String} {event : Event} : holds id (observed k event) = holds id k := by
  simp only [holds, observed]
  cases k.hold with
  | none => rfl
  | some h => simp [observe_action]

/-- What every boundary call keeps: only the hold of the caller and the log change. -/
theorem ExecutionOk.observed (h : ExecutionOk S log (ks₁ ++ k :: ks₂)) {event : Event}
    (hown : ∀ hold, k.hold = some hold → HoldOk S (log ++ [event]) (observe hold event))
    (hothers : ∀ k' ∈ ks₁ ++ ks₂, ∀ hold, k'.hold = some hold → HoldOk S (log ++ [event]) hold)
    (hwritten : ∀ action, event.written = some action →
      Executing S action.actionId action.idempotencyKey)
    (honce : ∀ id, event.writes id → log.countP (Event.writes id) = 0)
    (houtcomes : ∀ id a, S.record id = some a → OutcomeOk (log ++ [event]) a) :
    ExecutionOk S (log ++ [event]) (ks₁ ++ Application.observed k event :: ks₂) := by
  have hmem : ∀ {k'}, k' ∈ ks₁ ++ ks₂ → k' ∈ ks₁ ++ k :: ks₂ := fun h => mem_middle.mpr (.inr h)
  refine ⟨fun k' hk' => ?_, fun k' hk' => ?_, fun k' hk' => ?_, fun id => ?_, ?_, fun id => ?_,
    houtcomes⟩
  · rcases mem_middle.mp hk' with rfl | hk'
    · exact ⟨(h.sound k (mem_middle.mpr (.inl rfl))).seen,
        (h.sound k (mem_middle.mpr (.inl rfl))).claims⟩
    · exact h.sound k' (hmem hk')
  · rcases mem_middle.mp hk' with rfl | hk'
    · exact h.restricted k (mem_middle.mpr (.inl rfl))
    · exact h.restricted k' (hmem hk')
  · rcases mem_middle.mp hk' with rfl | hk'
    · intro hold hhold
      obtain ⟨before, hbefore, rfl⟩ := Option.map_eq_some_iff.mp hhold
      exact hown before hbefore
    · exact hothers k' hk'
  · have hbefore := h.oneHolder id
    rw [countP_middle] at hbefore ⊢
    rw [holds_observed]
    exact hbefore
  · intro e he action haction
    rcases List.mem_append.mp he with he | he
    · exact h.written e he action haction
    · rw [List.mem_singleton.mp he] at haction
      exact hwritten action haction
  · rw [List.countP_append, List.countP_singleton]
    split
    · rename_i hwrites
      rw [honce id hwrites]
    · exact h.once id

/-- **A boundary call keeps the invariant.** -/
theorem ExecutionOk.boundaryStep (h : ExecutionOk S log (ks₁ ++ k :: ks₂)) {o : BoundaryOp}
    (hpermits : execution.permits k (.inr o)) (answer : o.Answer) :
    ExecutionOk S (log ++ [⟨o, answer⟩]) (ks₁ ++ Application.observed k ⟨o, answer⟩ :: ks₂) := by
  have hk : k ∈ ks₁ ++ k :: ks₂ := mem_middle.mpr (.inl rfl)
  have hmem : ∀ {k'}, k' ∈ ks₁ ++ ks₂ → k' ∈ ks₁ ++ k :: ks₂ := fun h => mem_middle.mpr (.inr h)
  cases o with
  | read o =>
      refine h.observed (fun hold hhold => (h.holdOk k hk hold hhold).read answer)
        (fun k' hk' hold hhold => (h.holdOk k' (hmem hk') hold hhold).append writes_read)
        nofun (fun id hwrites => absurd hwrites writes_read)
        fun id a ha => (h.outcomes id a ha).append fun hdispatches => ?_
      exact absurd (Event.writes_of_dispatches hdispatches) writes_read
  | write o =>
      obtain ⟨a, hhold, hid, hkey⟩ := hpermits
      have hclaimed := h.holdOk k hk _ hhold
      have hheld : holds o.action.actionId k = true := by rw [holds_of_hold hhold]; simp [hid]
      have hfree := not_holds_of_oneHolder (h.oneHolder o.action.actionId) hheld
      refine h.observed ?_ (fun k' hk' hold hhold' => ?_) ?_ (fun id hwrites => ?_)
        (fun id b hb => ?_)
      · intro hold hhold'
        rw [hhold] at hhold'
        cases hhold'
        exact hclaimed.write hid answer
      · refine (h.holdOk k' (hmem hk') hold hhold').append fun hwrites => ?_
        have hother := hfree k' hk'
        rw [holds_of_hold hhold', writes_write.mp hwrites] at hother
        simp at hother
      · rintro _ ⟨⟩
        rw [hid, hkey]
        exact hclaimed.executing
      · rw [← writes_write.mp hwrites, hid]
        exact List.countP_eq_zero.mpr (hclaimed.unwritten rfl)
      · -- Nothing is recorded yet of an action whose write is being dispatched.
        by_cases hsame : o.action.actionId = b.actionId
        · intro hstatus
          have hrecord : S.record a.actionId = some b := by rw [← hid, hsame, S.record_id hb, hb]
          exact absurd hstatus (hclaimed.unsettled rfl b hrecord)
        · refine (h.outcomes id b hb).append fun hdispatches => ?_
          exact absurd (writes_write.mp (Event.writes_of_dispatches hdispatches)) hsame

end BoundaryStep

/-! ## All runs -/

/-- A configuration is in order: its store represents records in step with the calls that hold
executions and with what the boundary has answered. -/
def RunOk {σ : Type} (R : LawfulRepository σ) (w : World σ) (_ : List Request)
    (ks : List Knowledge) : Prop :=
  ∃ S, R.Represents w.store S ∧ ExecutionOk S w.log ks

theorem request_knowledge (request : Request) :
    request.knowledge.hold = none ∧ request.knowledge.anyOutcome = false ∧
      ∀ S, request.knowledge.Sound S := by
  cases request with
  | approve actor actionId _ _ registration _ =>
      exact ⟨rfl, rfl, (ServiceCall.approve actionId (toString actor.userId) actor.logicalRoles
        registration).knowledge_sound⟩
  | service serviceCall notOutcome => exact ⟨rfl, notOutcome, serviceCall.knowledge_sound⟩

theorem ExecutionOk.start {S : ActionMap} {log : List Event} {ks : List Knowledge}
    (h : ExecutionOk S log ks) (request : Request) :
    ExecutionOk S log (ks ++ [request.knowledge]) := by
  obtain ⟨hhold, hrestricted, hsound⟩ := request_knowledge request
  have hall : ∀ {P : Knowledge → Prop}, (∀ k ∈ ks, P k) → P request.knowledge →
      ∀ k ∈ ks ++ [request.knowledge], P k := by
    intro P hks hP k hk
    rcases List.mem_append.mp hk with hk | hk
    · exact hks k hk
    · rw [List.mem_singleton.mp hk]
      exact hP
  refine ⟨hall h.sound (hsound S), hall h.restricted hrestricted, hall h.holdOk ?_, fun id => ?_,
    h.written, h.once, h.outcomes⟩
  · intro hold hsome
    rw [hhold] at hsome
    cases hsome
  · have hfree : holds id request.knowledge = false := by simp [holds, hhold]
    rw [List.countP_append, List.countP_singleton, hfree]
    exact h.oneHolder id

theorem ExecutionOk.crash {S : ActionMap} {log : List Event} {k : Knowledge}
    {ks₁ ks₂ : List Knowledge} (h : ExecutionOk S log (ks₁ ++ k :: ks₂)) :
    ExecutionOk S log (ks₁ ++ ks₂) := by
  have hmem : ∀ {k'}, k' ∈ ks₁ ++ ks₂ → k' ∈ ks₁ ++ k :: ks₂ := fun h => mem_middle.mpr (.inr h)
  refine ⟨fun k' hk' => h.sound k' (hmem hk'), fun k' hk' => h.restricted k' (hmem hk'),
    fun k' hk' => h.holdOk k' (hmem hk'), fun id => ?_, h.written, h.once, h.outcomes⟩
  have hbefore := h.oneHolder id
  rw [countP_middle] at hbefore
  omega

/-- **`RunOk` holds in every run.** -/
theorem runOk_isInvariant {σ : Type} (R : LawfulRepository σ) (c : Coordinator) :
    IsInvariant (executionSystem R c) execution Request.knowledge (RunOk R) where
  body_guarded := request_guarded c
  start := by
    rintro w started ks request ⟨S, hrep, hok⟩
    exact ⟨S, hrep, hok.start request⟩
  call := by
    rintro w w' started ks₁ k ks₂ o answer ⟨S, hrep, hok⟩ hpermits hexec
    cases o with
    | inl o =>
        obtain ⟨hexec, hlog⟩ := hexec
        have hk := hok.sound k (mem_middle.mpr (.inl rfl))
        obtain ⟨S', hrep', hstep⟩ := exec_step hrep hk hpermits hexec
        refine ⟨hstep.promised, S', hrep', ?_⟩
        rw [hlog]
        exact hok.repositoryStep hpermits hstep
    | inr o =>
        obtain ⟨hstore, hlog⟩ := hexec
        refine ⟨trivial, S, ?_, ?_⟩
        · rw [hstore]
          exact hrep
        · rw [hlog]
          exact hok.boundaryStep hpermits answer
  crash := by
    rintro w started ks₁ k ks₂ ⟨S, hrep, hok⟩
    exact ⟨S, hrep, hok.crash⟩

theorem runOk_start {σ : Type} {R : LawfulRepository σ} {s₀ : σ} (h₀ : R.Represents s₀ .empty) :
    RunOk R ⟨s₀, []⟩ [] [] := by
  refine ⟨.empty, h₀, List.forall_mem_nil _, List.forall_mem_nil _, List.forall_mem_nil _,
    fun _ => Nat.zero_le _, List.forall_mem_nil _, fun _ => Nat.zero_le _, ?_⟩
  intro id a ha
  exact absurd ha.symm (Option.some_ne_none a)

end BhDic.Application
