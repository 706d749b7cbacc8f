import BhDic.Services.BrowserQueue

/-!
# Runs of the queue

In every run the operations of one key exclude each other and each is invoked at most once. Two more
things are only so in some runs: an operation cancelled in time is not invoked, unless it was
cancelled while its worker waited for a lock, since the worker looks at the future before it
waits; and every worker goes on, unless an operation ends with an exception that is not an
`Exception`, which no handler of the worker catches.
-/

namespace BhDic.Services

open BhDic.Library BhDic.Python
open BrowserCoordinator

/-! ## How often an operation calls the browser -/

/-- Whatever it is answered, the program calls `operate` at most so many times. -/
def OperatesAtMost {T : Type} : BrowserProg T → Nat → Prop
  | .pure _, _ => True
  | .throw _, _ => True
  | .call o k, n =>
      if o = .operate then ∃ m, n = m + 1 ∧ ∀ answer, OperatesAtMost (k answer) m
      else ∀ answer, OperatesAtMost (k answer) n

theorem operatesAtMost_once (T : Type) : OperatesAtMost (executeOnce : BrowserProg T) 1 := by
  intro asked
  cases asked with
  | error e => trivial
  | ok _ =>
      refine ⟨0, rfl, ?_⟩
      intro result
      cases result with
      | ok result => exact fun _ => trivial
      | error e =>
          show OperatesAtMost (ite _ _ _) 0
          split
          · cases circuitFailure e <;> exact fun _ => trivial
          · trivial

/-! ## What holds of the items in each place -/

section Items

variable {T : Type}

/-- The operation was not invoked yet. -/
structure WorkItem.Fresh (item : WorkItem T) : Prop where
  invoked : item.invoked = 0
  operated : item.operated = 0

/-- The operation was invoked once, and what is left of a write calls the browser only if the part
before did not. -/
structure RunningOk (item : WorkItem T) (program : BrowserProg T) : Prop where
  invoked : item.invoked = 1
  operated : item.kind = .write →
    item.operated ≤ 1 ∧ OperatesAtMost program (1 - item.operated)

structure WorkItem.SettledOk (item : WorkItem T) : Prop where
  invoked : item.invoked ≤ 1
  operated : item.kind = .write → item.operated ≤ 1

def WorkerOk : Worker T → Prop
  | .waiting item => item.Fresh
  | .running item program => RunningOk item program
  | _ => True

variable {item : WorkItem T}

theorem WorkItem.Fresh.cancel (h : item.Fresh) : item.cancel.Fresh := ⟨h.invoked, h.operated⟩

theorem WorkItem.Fresh.settledOk (h : item.Fresh) : item.SettledOk := by
  constructor <;> simp [h.invoked, h.operated]

theorem WorkItem.Fresh.begin (h : item.Fresh) :
    RunningOk item.invoke (item.kind.operation T) := by
  constructor
  · simp [WorkItem.invoke, h.invoked]
  · intro hkind
    have hkind : item.kind = .write := hkind
    simp only [WorkItem.invoke, h.operated, hkind]
    exact ⟨Nat.zero_le 1, operatesAtMost_once T⟩

theorem RunningOk.proceed {o : BrowserOp} {k : (browserEffect T).Ans o → BrowserProg T}
    (h : RunningOk item (.call o k)) (answer : (browserEffect T).Ans o) :
    RunningOk (item.count o) (k answer) := by
  by_cases ho : o = .operate
  · constructor
    · simp [WorkItem.count, ho, h.invoked]
    · intro hkind
      obtain ⟨hle, hrest⟩ := h.operated (by simpa [WorkItem.count, ho] using hkind)
      rw [OperatesAtMost, if_pos ho] at hrest
      obtain ⟨m, hm, hrest⟩ := hrest
      have hzero : item.operated = 0 := by omega
      have hm : m = 0 := by omega
      subst hm
      simp only [WorkItem.count, ho, if_true, hzero]
      exact ⟨Nat.le_refl 1, hrest answer⟩
  · have hsame : item.count o = item := if_neg ho
    rw [hsame]
    constructor
    · exact h.invoked
    · intro hkind
      obtain ⟨hle, hrest⟩ := h.operated hkind
      rw [OperatesAtMost, if_neg ho] at hrest
      exact ⟨hle, hrest answer⟩

theorem RunningOk.settledOk {program : BrowserProg T} (h : RunningOk item program) :
    item.SettledOk := by
  constructor
  · exact Nat.le_of_eq h.invoked
  · intro hkind
    exact (h.operated hkind).1

theorem WorkItem.SettledOk.settle (h : item.SettledOk) (result : Except Exn T) :
    (item.settle result).SettledOk := by
  unfold WorkItem.settle
  split
  · exact ⟨h.invoked, h.operated⟩
  · exact h

end Items

/-! ## Every run -/

section Runs

variable {c : QueueSettings} {T : Type} {q q' : BrowserOperationQueue T} {event : QueueEvent}

/-- The keys whose operations are running. -/
def BrowserOperationQueue.runningKeys (q : BrowserOperationQueue T) : List String :=
  q.workers.filterMap Worker.runningKey

/-- The items are where they are because of what happened to them. -/
structure ItemsOk (q : BrowserOperationQueue T) : Prop where
  putting : ∀ item ∈ q.putting, item.Fresh
  queue : ∀ item, some item ∈ q.queue → item.Fresh
  workers : ∀ w ∈ q.workers, WorkerOk w
  settled : ∀ item ∈ q.settled, item.SettledOk

/-- The locks that are held are those of the running operations, one for each. -/
structure LocksOk (q : BrowserOperationQueue T) : Prop where
  keys : q.runningKeys.Nodup
  locked : ∀ key, key ∈ q.locked ↔ key ∈ q.runningKeys

/-- The keys of the workers, those of one worker among them. -/
theorem runningKeys_split {front back : List (Worker T)} {w : Worker T}
    (h : q.workers = front ++ w :: back) : q.runningKeys =
      front.filterMap Worker.runningKey ++ w.runningKey.toList ++
        back.filterMap Worker.runningKey := by
  rw [BrowserOperationQueue.runningKeys, h, List.filterMap_append, List.filterMap_cons]
  cases w.runningKey <;> simp

/-! ### Locks -/

section Locks

variable {front back : List (Worker T)} {w w' : Worker T} {key : String}

theorem LocksOk.same (h : LocksOk q) (hkeys : q'.runningKeys = q.runningKeys)
    (hlocked : q'.locked = q.locked) : LocksOk q' := by
  constructor
  · rw [hkeys]
    exact h.keys
  · rw [hkeys, hlocked]
    exact h.locked

theorem LocksOk.sameKey (h : LocksOk q) (hw : q.workers = front ++ w :: back)
    (hw' : q'.workers = front ++ w' :: back) (hkey : w'.runningKey = w.runningKey)
    (hlocked : q'.locked = q.locked) : LocksOk q' := by
  apply h.same _ hlocked
  rw [runningKeys_split hw, runningKeys_split hw', hkey]

/-- A worker takes a free lock. -/
theorem LocksOk.take (h : LocksOk q) (hw : q.workers = front ++ w :: back)
    (hw' : q'.workers = front ++ w' :: back) (hnone : w.runningKey = none)
    (hkey : w'.runningKey = some key) (hfree : key ∉ q.locked)
    (hlocked : q'.locked = key :: q.locked) : LocksOk q' := by
  have hkeys := h.keys
  have hold := runningKeys_split hw
  have hnew := runningKeys_split hw'
  simp only [hnone, hkey, Option.toList_none, Option.toList_some, List.append_nil,
    List.append_assoc, List.singleton_append] at hold hnew
  constructor
  · rw [hnew, List.nodup_middle, List.nodup_cons, ← hold]
    exact ⟨mt (h.locked key).mpr hfree, hkeys⟩
  · intro other
    rw [hlocked, hnew, List.mem_cons, h.locked other, hold]
    simp only [List.mem_append, List.mem_cons]
    tauto

/-- A worker gives its lock back. -/
theorem LocksOk.release (h : LocksOk q) (hw : q.workers = front ++ w :: back)
    (hw' : q'.workers = front ++ w' :: back) (hkey : w.runningKey = some key)
    (hnone : w'.runningKey = none) (hlocked : q'.locked = q.unlock key) : LocksOk q' := by
  have hkeys := h.keys
  have hold := runningKeys_split hw
  have hnew := runningKeys_split hw'
  simp only [hnone, hkey, Option.toList_none, Option.toList_some, List.append_nil,
    List.append_assoc, List.singleton_append] at hold hnew
  rw [hold, List.nodup_middle, List.nodup_cons, ← hnew] at hkeys
  constructor
  · exact hkeys.2
  · intro other
    rw [hlocked, BrowserOperationQueue.unlock, List.mem_filter, decide_eq_true_eq, h.locked other,
      hold]
    have hnot := hkeys.1
    rw [hnew] at hnot ⊢
    simp only [List.mem_append, List.mem_cons] at hnot ⊢
    constructor
    · tauto
    · intro hother
      refine ⟨by tauto, ?_⟩
      rintro rfl
      exact hnot hother

theorem LocksOk.step (h : LocksOk q) (hstep : QueueStep c q event q') : LocksOk q' := by
  cases hstep with
  | submit key kind hkey hclosing =>
      refine h.same ?_ rfl
      show (q.ensureStarted c).filterMap _ = q.workers.filterMap _
      unfold BrowserOperationQueue.ensureStarted
      split
      · rename_i hnil
        rw [hnil]
        simp [Worker.runningKey]
      · rfl
  | enqueue | cancelPutting | cancelQueued | skip | close | join | putSentinel =>
      exact h.same rfl rfl
  | cancelWaiting front back item hw => exact h.sameKey hw rfl rfl rfl
  | cancelRunning front back item program hw => exact h.sameKey hw rfl rfl rfl
  | begin front back item rest hw hqueue hfuture hfree => exact h.take hw rfl rfl rfl hfree rfl
  | await front back item rest hw => exact h.sameKey hw rfl rfl rfl
  | acquire front back item hw hfree => exact h.take hw rfl rfl rfl hfree rfl
  | proceed front back item o k answer hw =>
      refine h.sameKey hw rfl ?_ rfl
      simp only [Worker.runningKey, WorkItem.count]
      split <;> rfl
  | succeed front back item result hw => exact h.release hw rfl rfl rfl rfl
  | fail front back item e hw => exact h.release hw rfl rfl rfl rfl
  | die front back item e hw => exact h.release hw rfl rfl rfl rfl
  | finish front back rest hw => exact h.sameKey hw rfl rfl rfl

end Locks

/-! ### Items -/

section Items

variable {front back : List (Worker T)} {w w' : Worker T}

theorem ItemsOk.worker (h : ItemsOk q) (hw : q.workers = front ++ w :: back) : WorkerOk w :=
  h.workers w (by simp [hw])

/-- One worker goes on to something else. -/
theorem ItemsOk.replaced {u : Worker T} (h : ItemsOk q) (hw : q.workers = front ++ w :: back)
    (hu : WorkerOk u) : ∀ v ∈ front ++ u :: back, WorkerOk v := by
  intro v hv
  have hworkers := h.workers
  rw [hw] at hworkers
  simp only [List.mem_append, List.mem_cons] at hv hworkers
  rcases hv with hfront | rfl | hback
  · exact hworkers v (.inl hfront)
  · exact hu
  · exact hworkers v (.inr (.inr hback))

theorem ItemsOk.settle (h : ItemsOk q) {item : WorkItem T} (hitem : item.SettledOk) :
    ∀ other ∈ q.settled ++ [item], other.SettledOk := by
  intro other hother
  rcases List.mem_append.mp hother with hold | hnew
  · exact h.settled other hold
  · rw [List.mem_singleton.mp hnew]
    exact hitem

/-- What is left of the queue after its head. -/
theorem ItemsOk.rest (h : ItemsOk q) {head : Option (WorkItem T)}
    {rest : List (Option (WorkItem T))} (hqueue : q.queue = head :: rest) :
    ∀ item, some item ∈ rest → item.Fresh :=
  fun item hitem => h.queue item (by simp [hqueue, hitem])

theorem ItemsOk.head (h : ItemsOk q) {item : WorkItem T} {rest : List (Option (WorkItem T))}
    (hqueue : q.queue = some item :: rest) : item.Fresh :=
  h.queue item (by simp [hqueue])

theorem ItemsOk.step (h : ItemsOk q) (hstep : QueueStep c q event q') : ItemsOk q' := by
  cases hstep with
  | submit key kind hkey hclosing =>
      refine ⟨?_, h.queue, ?_, h.settled⟩
      · intro item hitem
        rcases List.mem_append.mp hitem with hold | hnew
        · exact h.putting item hold
        · rw [List.mem_singleton.mp hnew]
          exact ⟨rfl, rfl⟩
      · intro w hw
        have hw : w ∈ q.ensureStarted c := hw
        unfold BrowserOperationQueue.ensureStarted at hw
        split at hw
        · rw [List.eq_of_mem_replicate hw]
          trivial
        · exact h.workers w hw
  | enqueue front back item hputting hroom =>
      have hfresh := h.putting
      rw [hputting] at hfresh
      refine ⟨?_, ?_, h.workers, h.settled⟩
      · intro other hother
        apply hfresh
        simp only [List.mem_append, List.mem_cons] at hother ⊢
        tauto
      · intro other hother
        rcases List.mem_append.mp hother with hold | hnew
        · exact h.queue other hold
        · cases List.mem_singleton.mp hnew
          exact hfresh item (by simp)
  | cancelPutting front back item hputting =>
      have hfresh := h.putting
      rw [hputting] at hfresh
      refine ⟨?_, h.queue, h.workers, h.settle (hfresh item (by simp)).cancel.settledOk⟩
      intro other hother
      apply hfresh
      simp only [List.mem_append, List.mem_cons] at hother ⊢
      tauto
  | cancelQueued front back item hqueue hpending =>
      have hfresh := h.queue
      rw [hqueue] at hfresh
      refine ⟨h.putting, ?_, h.workers, h.settled⟩
      intro other hother
      simp only [List.mem_append, List.mem_cons, Option.some.injEq] at hother
      rcases hother with hfront | rfl | hback
      · exact hfresh other (by simp [hfront])
      · exact (hfresh item (by simp)).cancel
      · exact hfresh other (by simp [hback])
  | cancelWaiting front back item hw hpending =>
      have hfresh : item.Fresh := h.worker hw
      exact ⟨h.putting, h.queue, h.replaced hw (u := .waiting item.cancel) hfresh.cancel, h.settled⟩
  | cancelRunning front back item program hw hpending =>
      have hrunning : RunningOk item program := h.worker hw
      exact ⟨h.putting, h.queue, h.replaced hw (u := .running item.cancel program)
        ⟨hrunning.invoked, hrunning.operated⟩, h.settled⟩
  | skip front back item rest hw hqueue hcancelled =>
      exact ⟨h.putting, h.rest hqueue, h.workers, h.settle (h.head hqueue).settledOk⟩
  | begin front back item rest hw hqueue hfuture hfree =>
      exact ⟨h.putting, h.rest hqueue, h.replaced hw (u := .running item.invoke _)
        (h.head hqueue).begin, h.settled⟩
  | await front back item rest hw hqueue =>
      exact ⟨h.putting, h.rest hqueue, h.replaced hw (u := .waiting item) (h.head hqueue),
        h.settled⟩
  | acquire front back item hw hfree =>
      have hfresh : item.Fresh := h.worker hw
      exact ⟨h.putting, h.queue, h.replaced hw (u := .running item.invoke _) hfresh.begin,
        h.settled⟩
  | proceed front back item o k answer hw =>
      have hrunning : RunningOk item (.call o k) := h.worker hw
      exact ⟨h.putting, h.queue, h.replaced hw (u := .running (item.count o) _)
        (hrunning.proceed answer), h.settled⟩
  | succeed front back item result hw =>
      have hrunning : RunningOk item (.pure result) := h.worker hw
      exact ⟨h.putting, h.queue, h.replaced hw (u := .idle) trivial,
        h.settle (hrunning.settledOk.settle _)⟩
  | fail front back item e hw =>
      have hrunning : RunningOk item (.throw e) := h.worker hw
      exact ⟨h.putting, h.queue, h.replaced hw (u := .idle) trivial,
        h.settle (hrunning.settledOk.settle _)⟩
  | die front back item e hw =>
      have hrunning : RunningOk item (.throw e) := h.worker hw
      exact ⟨h.putting, h.queue, h.replaced hw (u := .died) trivial, h.settle hrunning.settledOk⟩
  | close | join => exact ⟨h.putting, h.queue, h.workers, h.settled⟩
  | putSentinel n hsentinels hroom =>
      refine ⟨h.putting, ?_, h.workers, h.settled⟩
      intro item hitem
      rcases List.mem_append.mp hitem with hold | hnew
      · exact h.queue item hold
      · cases List.mem_singleton.mp hnew
  | finish front back rest hw hqueue =>
      exact ⟨h.putting, h.rest hqueue, h.replaced hw (u := .returned) trivial, h.settled⟩

end Items

/-- The item a worker holds. -/
def Worker.item : Worker T → Option (WorkItem T)
  | .waiting item | .running item _ => some item
  | _ => none

/-- The items somebody still holds or has settled. -/
def BrowserOperationQueue.items (q : BrowserOperationQueue T) : List (WorkItem T) :=
  q.putting ++ q.queue.filterMap id ++ q.workers.filterMap Worker.item ++ q.settled

theorem BrowserOperationQueue.mem_items {item : WorkItem T} :
    item ∈ q.items ↔ item ∈ q.putting ∨ some item ∈ q.queue ∨
      (∃ w ∈ q.workers, w.item = some item) ∨ item ∈ q.settled := by
  simp [BrowserOperationQueue.items]

/-- Every operation was invoked at most once, and a write called the browser at most once. -/
theorem ItemsOk.settledOk (h : ItemsOk q) {item : WorkItem T} (hitem : item ∈ q.items) :
    item.SettledOk := by
  rcases BrowserOperationQueue.mem_items.mp hitem with hputting | hqueue | ⟨w, hw, heq⟩ | hsettled
  · exact (h.putting item hputting).settledOk
  · exact (h.queue item hqueue).settledOk
  · have hok := h.workers w hw
    cases w with
    | waiting other =>
        cases heq
        have hfresh : item.Fresh := hok
        exact hfresh.settledOk
    | running other program =>
        cases heq
        have hrunning : RunningOk item program := hok
        exact hrunning.settledOk
    | idle | returned | died => cases heq
  · exact h.settled item hsettled

/-- An item cancelled before its operation was invoked is still in the queue, or it was dropped
there. -/
structure EarlyOk (q : BrowserOperationQueue T) : Prop where
  putting : ∀ item ∈ q.putting, item.cancelledEarly = false
  queue : ∀ item, some item ∈ q.queue → item.cancelledEarly = true → item.future = .cancelled
  workers : ∀ w ∈ q.workers, ∀ item, w.item = some item → item.cancelledEarly = false
  settled : ∀ item ∈ q.settled, item.cancelledEarly = true → item.invoked = 0

section Early

variable {front back : List (Worker T)} {w w' : Worker T} {item : WorkItem T}

theorem EarlyOk.worker (h : EarlyOk q) (hw : q.workers = front ++ w :: back)
    (hitem : w.item = some item) : item.cancelledEarly = false :=
  h.workers w (by simp [hw]) item hitem

theorem EarlyOk.replaced {u : Worker T} (h : EarlyOk q) (hw : q.workers = front ++ w :: back)
    (hu : ∀ item, u.item = some item → item.cancelledEarly = false) :
    ∀ v ∈ front ++ u :: back, ∀ item, v.item = some item → item.cancelledEarly = false := by
  intro v hv
  have hworkers := h.workers
  rw [hw] at hworkers
  simp only [List.mem_append, List.mem_cons] at hv hworkers
  rcases hv with hfront | rfl | hback
  · exact hworkers v (.inl hfront)
  · exact hu
  · exact hworkers v (.inr (.inr hback))

theorem EarlyOk.settle (h : EarlyOk q) (hitem : item.cancelledEarly = true → item.invoked = 0) :
    ∀ other ∈ q.settled ++ [item], other.cancelledEarly = true → other.invoked = 0 := by
  intro other hother
  rcases List.mem_append.mp hother with hold | hnew
  · exact h.settled other hold
  · rw [List.mem_singleton.mp hnew]
    exact hitem

theorem EarlyOk.rest (h : EarlyOk q) {head : Option (WorkItem T)}
    {rest : List (Option (WorkItem T))} (hqueue : q.queue = head :: rest) :
    ∀ item, some item ∈ rest → item.cancelledEarly = true → item.future = .cancelled :=
  fun item hitem => h.queue item (by simp [hqueue, hitem])

/-- An item at the head of the queue that was not cancelled was not cancelled early. -/
theorem EarlyOk.head (h : EarlyOk q) {rest : List (Option (WorkItem T))}
    (hqueue : q.queue = some item :: rest) (hfuture : item.future ≠ .cancelled) :
    item.cancelledEarly = false := by
  cases hearly : item.cancelledEarly with
  | false => rfl
  | true => exact absurd (h.queue item (by simp [hqueue]) hearly) hfuture

theorem WorkItem.settle_early (result : Except Exn T) :
    (item.settle result).cancelledEarly = item.cancelledEarly := by
  unfold WorkItem.settle
  split <;> rfl

/-- What a worker gives back was not cancelled early. -/
theorem EarlyOk.settleRunning (h : EarlyOk q) (hw : q.workers = front ++ w :: back)
    (hitem : w.item = some item) (result : Except Exn T) :
    ∀ other ∈ q.settled ++ [item.settle result],
      other.cancelledEarly = true → other.invoked = 0 := by
  apply h.settle
  rw [WorkItem.settle_early, h.worker hw hitem]
  simp

theorem EarlyOk.step (h : EarlyOk q) (hitems : ItemsOk q) (hstep : QueueStep c q event q')
    (hevent : event ≠ .cancelled true) : EarlyOk q' := by
  cases hstep with
  | submit key kind hkey hclosing =>
      refine ⟨?_, h.queue, ?_, h.settled⟩
      · intro item hitem
        rcases List.mem_append.mp hitem with hold | hnew
        · exact h.putting item hold
        · rw [List.mem_singleton.mp hnew]
      · intro w hw
        have hw : w ∈ q.ensureStarted c := hw
        unfold BrowserOperationQueue.ensureStarted at hw
        split at hw
        · rw [List.eq_of_mem_replicate hw]
          intro item hitem
          cases hitem
        · exact h.workers w hw
  | enqueue front back item hputting hroom =>
      have hearly := h.putting
      rw [hputting] at hearly
      refine ⟨?_, ?_, h.workers, h.settled⟩
      · intro other hother
        apply hearly
        simp only [List.mem_append, List.mem_cons] at hother ⊢
        tauto
      · intro other hother
        rcases List.mem_append.mp hother with hold | hnew
        · exact h.queue other hold
        · cases List.mem_singleton.mp hnew
          rw [hearly item (by simp)]
          simp
  | cancelPutting front back item hputting =>
      have hearly := h.putting
      rw [hputting] at hearly
      refine ⟨?_, h.queue, h.workers, h.settle fun _ => ?_⟩
      · intro other hother
        apply hearly
        simp only [List.mem_append, List.mem_cons] at hother ⊢
        tauto
      · exact (hitems.putting item (by simp [hputting])).invoked
  | cancelQueued front back item hqueue hpending =>
      have hearly := h.queue
      rw [hqueue] at hearly
      refine ⟨h.putting, ?_, h.workers, h.settled⟩
      intro other hother
      simp only [List.mem_append, List.mem_cons, Option.some.injEq] at hother
      rcases hother with hfront | rfl | hback
      · exact hearly other (by simp [hfront])
      · exact fun _ => rfl
      · exact hearly other (by simp [hback])
  | cancelWaiting => exact absurd rfl hevent
  | cancelRunning front back item program hw hpending =>
      -- its operation was invoked, so the cancellation is not early
      have hrunning : RunningOk item program := hitems.worker hw
      refine ⟨h.putting, h.queue, h.replaced hw ?_, h.settled⟩
      intro other hother
      cases hother
      simp [WorkItem.cancel, hrunning.invoked]
  | skip front back item rest hw hqueue hcancelled =>
      have hfresh := hitems.head hqueue
      exact ⟨h.putting, h.rest hqueue, h.workers, h.settle fun _ => hfresh.invoked⟩
  | begin front back item rest hw hqueue hfuture hfree =>
      refine ⟨h.putting, h.rest hqueue, h.replaced hw ?_, h.settled⟩
      intro other hother
      cases hother
      show item.cancelledEarly = false
      exact h.head hqueue hfuture
  | await front back item rest hw hqueue hfuture =>
      refine ⟨h.putting, h.rest hqueue, h.replaced hw ?_, h.settled⟩
      intro other hother
      cases hother
      exact h.head hqueue hfuture
  | acquire front back item hw hfree =>
      refine ⟨h.putting, h.queue, h.replaced hw ?_, h.settled⟩
      intro other hother
      cases hother
      show item.cancelledEarly = false
      exact h.worker hw rfl
  | proceed front back item o k answer hw =>
      refine ⟨h.putting, h.queue, h.replaced hw ?_, h.settled⟩
      intro other hother
      cases hother
      have hearly := h.worker hw rfl
      unfold WorkItem.count
      split <;> exact hearly
  | succeed front back item result hw =>
      exact ⟨h.putting, h.queue, h.replaced hw (u := .idle) (fun _ h => by cases h),
        h.settleRunning hw rfl _⟩
  | fail front back item e hw =>
      exact ⟨h.putting, h.queue, h.replaced hw (u := .idle) (fun _ h => by cases h),
        h.settleRunning hw rfl _⟩
  | die front back item e hw =>
      refine ⟨h.putting, h.queue, h.replaced hw (u := .died) (fun _ h => by cases h),
        h.settle ?_⟩
      rw [h.worker hw rfl]
      simp
  | close | join => exact ⟨h.putting, h.queue, h.workers, h.settled⟩
  | putSentinel n hsentinels hroom =>
      refine ⟨h.putting, ?_, h.workers, h.settled⟩
      intro item hitem
      rcases List.mem_append.mp hitem with hold | hnew
      · exact h.queue item hold
      · cases List.mem_singleton.mp hnew
  | finish front back rest hw hqueue =>
      exact ⟨h.putting, h.rest hqueue, h.replaced hw (u := .returned) (fun _ h => by cases h),
        h.settled⟩

theorem EarlyOk.invoked (h : EarlyOk q) (hok : ItemsOk q) (hitem : item ∈ q.items)
    (hearly : item.cancelledEarly = true) : item.invoked = 0 := by
  rcases BrowserOperationQueue.mem_items.mp hitem with hputting | hqueue | ⟨w, hw, heq⟩ | hsettled
  · exact (hok.putting item hputting).invoked
  · exact (hok.queue item hqueue).invoked
  · rw [h.workers w hw item heq] at hearly
    cases hearly
  · exact h.settled item hsettled hearly

end Early

end Runs

end BhDic.Services
