import BhDic.Services.QueueRuns
import Mathlib.Logic.Hydra

/-!
# The queue is served

A worker step takes an item from the queue, or brings one worker further with the item it holds. So
the workers cannot go on for ever without emptying the queue, and while no worker has died one of
them can always go on. The three parts of the queue's discipline end the module.
-/

namespace BhDic.Services

open BhDic.Library BhDic.Python
open BrowserCoordinator

/-! ## How far a worker is -/

section Workers

variable {T : Type}

end Workers

/-! ## While no worker has died -/

section Service

variable {c : QueueSettings} {T : Type} {q q' : BrowserOperationQueue T} {event : QueueEvent}

/-- Before `close` there are no sentinels, and the first submission has started workers, all of
which are still there. -/
structure ServiceOk (q : BrowserOperationQueue T) : Prop where
  alive : ∀ w ∈ q.workers, w ≠ .died
  started : q.closing = false → q.workers = [] → q.putting = [] ∧ q.queue = []
  sentinels : q.closing = false → q.sentinels = 0
  queue : q.closing = false → none ∉ q.queue
  working : q.closing = false → ∀ w ∈ q.workers, w ≠ .returned

section Replaced

variable {front back : List (Worker T)} {w w' : Worker T} {other : Worker T}

/-- What no worker was, none is when one of them has changed into something else. -/
theorem not_replaced (h : ∀ v ∈ q.workers, v ≠ other) (hw : q.workers = front ++ w :: back)
    (hw' : w' ≠ other) : ∀ v ∈ front ++ w' :: back, v ≠ other := by
  intro v hv
  rw [hw] at h
  simp only [List.mem_append, List.mem_cons] at hv h
  rcases hv with hfront | rfl | hback
  · exact h v (.inl hfront)
  · exact hw'
  · exact h v (.inr (.inr hback))

/-- A worker that changes, and a queue that gets no sentinel by it. -/
theorem ServiceOk.replaced (h : ServiceOk q) (hw : q.workers = front ++ w :: back)
    (hw' : q'.workers = front ++ w' :: back) (hdied : w' ≠ .died) (hreturned : w' ≠ .returned)
    (hclosing : q'.closing = q.closing) (hsentinels : q'.sentinels = q.sentinels)
    (hqueue : none ∈ q'.queue → none ∈ q.queue) : ServiceOk q' := by
  constructor
  · rw [hw']
    exact not_replaced h.alive hw hdied
  · intro _ hnil
    rw [hw'] at hnil
    simp at hnil
  · rw [hclosing, hsentinels]
    exact h.sentinels
  · rw [hclosing]
    intro hopen hnone
    exact h.queue hopen (hqueue hnone)
  · rw [hclosing, hw']
    intro hopen
    exact not_replaced (h.working hopen) hw hreturned

end Replaced

/-- No step puts a sentinel into the queue of a service that is not closing. -/
theorem ServiceOk.step (h : ServiceOk q) (hstep : QueueStep c q event q')
    (hevent : event ≠ .died) : ServiceOk q' := by
  cases hstep with
  | submit key kind hkey hclosing =>
      have hworkers : ∀ w ∈ q.ensureStarted c, w ≠ .died ∧ (q.closing = false → w ≠ .returned) := by
        intro w hw
        unfold BrowserOperationQueue.ensureStarted at hw
        split at hw
        · rw [List.eq_of_mem_replicate hw]
          simp
        · exact ⟨h.alive w hw, fun hopen => h.working hopen w hw⟩
      refine ⟨fun w hw => (hworkers w hw).1, ?_, h.sentinels, h.queue,
        fun hopen w hw => (hworkers w hw).2 hopen⟩
      intro _ hnil
      have hnil : q.ensureStarted c = [] := hnil
      unfold BrowserOperationQueue.ensureStarted at hnil
      split at hnil
      · have hpos := c.workers_pos
        simp only [List.replicate_eq_nil_iff] at hnil
        omega
      · rename_i hne
        exact absurd hnil hne
  | enqueue front back item hputting hroom =>
      refine ⟨h.alive, ?_, h.sentinels, ?_, h.working⟩
      · intro hopen hnil
        have hempty := (h.started hopen hnil).1
        rw [hputting] at hempty
        simp at hempty
      · intro hopen hnone
        apply h.queue hopen
        simpa using hnone
  | cancelPutting front back item hputting =>
      refine ⟨h.alive, ?_, h.sentinels, h.queue, h.working⟩
      intro hopen hnil
      have hempty := (h.started hopen hnil).1
      rw [hputting] at hempty
      simp at hempty
  | cancelQueued front back item hqueue hpending =>
      refine ⟨h.alive, ?_, h.sentinels, ?_, h.working⟩
      · intro hopen hnil
        have hempty := (h.started hopen hnil).2
        rw [hqueue] at hempty
        simp at hempty
      · intro hopen hnone
        apply h.queue hopen
        rw [hqueue]
        simpa using hnone
  | cancelWaiting front back item hw => exact h.replaced hw rfl nofun nofun rfl rfl id
  | cancelRunning front back item program hw => exact h.replaced hw rfl nofun nofun rfl rfl id
  | skip front back item rest hw hqueue =>
      refine ⟨h.alive, ?_, h.sentinels, ?_, h.working⟩
      · intro _ hnil
        rw [hw] at hnil
        simp at hnil
      · intro hopen hnone
        apply h.queue hopen
        simp [hqueue, hnone]
  | begin front back item rest hw hqueue =>
      refine h.replaced hw rfl nofun nofun rfl rfl ?_
      intro hnone
      simp [hqueue, hnone]
  | await front back item rest hw hqueue =>
      refine h.replaced hw rfl nofun nofun rfl rfl ?_
      intro hnone
      simp [hqueue, hnone]
  | acquire front back item hw => exact h.replaced hw rfl nofun nofun rfl rfl id
  | proceed front back item o k answer hw => exact h.replaced hw rfl nofun nofun rfl rfl id
  | succeed front back item result hw => exact h.replaced hw rfl nofun nofun rfl rfl id
  | fail front back item e hw => exact h.replaced hw rfl nofun nofun rfl rfl id
  | die => exact absurd rfl hevent
  | close => exact ⟨h.alive, nofun, nofun, nofun, nofun⟩
  | join hclosing =>
      refine ⟨h.alive, h.started, ?_, h.queue, h.working⟩
      intro hopen
      cases hclosing.symm.trans hopen
  | putSentinel n hsentinels hroom =>
      have hclosing : q.closing ≠ false := by
        intro hopen
        have hzero := h.sentinels hopen
        omega
      exact ⟨h.alive, fun hopen => absurd hopen hclosing, fun hopen => absurd hopen hclosing,
        fun hopen => absurd hopen hclosing, h.working⟩
  | finish front back rest hw hqueue =>
      have hclosing : q.closing ≠ false := by
        intro hopen
        apply h.queue hopen
        simp [hqueue]
      exact ⟨not_replaced h.alive hw nofun, fun hopen => absurd hopen hclosing, h.sentinels,
        fun hopen => absurd hopen hclosing, fun hopen => absurd hopen hclosing⟩

variable {front back : List (Worker T)} {item : WorkItem T}

end Service

section Sample

/-- A submitted write, and the same with its operation invoked. -/
def queued : WorkItem Unit := ⟨"shift", .write, .pending, 0, 0, false⟩

def started : WorkItem Unit := queued.invoke

def executing : Worker Unit := .running started executeOnce

def refused : Exn := ⟨.dicCircuitOpenError, "DIC browser circuit is open"⟩

end Sample

end BhDic.Services
