import BhDic.Services.CircuitBreaker
import Mathlib.Data.List.Basic
import Mathlib.Data.List.Nodup

/-!
# The browser operation queue

`BrowserOperationQueue` as the steps of its workers, of the callers that submit to it, and of
`close`. An item is moved from place to place: its caller waits for room, it waits in the queue, a
worker holds it, and in the end it is settled. What lies between two suspensions is one step: a
worker that takes an item looks whether its future is cancelled, and starts the operation at once
if the lock of the key is free. Which of several workers waiting for one lock gets it next is left
open, and so is what the breaker answers.
-/

namespace BhDic.Services

open BhDic.Library BhDic.Python
open BrowserCoordinator

structure QueueSettings where
  maxQueueSize : Nat
  workers : Nat
  maxQueueSize_pos : 1 ≤ maxQueueSize
  workers_pos : 1 ≤ workers

/-- The methods of the coordinator that submit. -/
inductive WorkKind
  | read (policy : ReadRetryPolicy)
  | once
  | write
  | reconciliation

/-- The operation each of them submits. -/
def WorkKind.operation (T : Type) : WorkKind → BrowserProg T
  | .read policy => executeRead policy
  | .once | .write => executeOnce
  | .reconciliation => executeReconciliation

inductive Future (T : Type)
  | pending
  | cancelled
  | done (result : Except Exn T)

/-- `_WorkItem`, and three things only the proofs keep: how often its operation was invoked, how
often that called the browser, and whether its caller cancelled it before it was invoked. -/
structure WorkItem (T : Type) where
  key : String
  kind : WorkKind
  future : Future T := .pending
  invoked : Nat := 0
  operated : Nat := 0
  cancelledEarly : Bool := false

namespace WorkItem

variable {T : Type} (item : WorkItem T)

/-- `future.cancel()`, for a future that is pending. -/
def cancel : WorkItem T := { item with future := .cancelled, cancelledEarly := item.invoked == 0 }

def invoke : WorkItem T := { item with invoked := item.invoked + 1 }

/-- One call of the running operation. -/
def count (o : BrowserOp) : WorkItem T :=
  if o = .operate then { item with operated := item.operated + 1 } else item

/-- Set the result or the exception, unless the future is done. -/
def settle (result : Except Exn T) : WorkItem T :=
  match item.future with
  | .pending => { item with future := .done result }
  | _ => item

end WorkItem

/-- What a worker is doing: waiting for an item, waiting for the lock of one, or running one. A
worker that met a sentinel has returned; one that an exception went through has died. -/
inductive Worker (T : Type)
  | idle
  | waiting (item : WorkItem T)
  | running (item : WorkItem T) (program : BrowserProg T)
  | returned
  | died

/-- The key whose lock a worker holds. -/
def Worker.runningKey {T : Type} : Worker T → Option String
  | .running item _ => some item.key
  | _ => none

/-- The item a worker has taken. -/
def Worker.busy {T : Type} : Worker T → Bool
  | .waiting _ | .running _ _ => true
  | _ => false

structure BrowserOperationQueue (T : Type) where
  closing : Bool := false
  /-- Items whose callers wait for room in the queue. -/
  putting : List (WorkItem T) := []
  /-- The queue; `none` is the sentinel of `close`. -/
  queue : List (Option (WorkItem T)) := []
  workers : List (Worker T) := []
  /-- The keys whose locks are held. -/
  locked : List String := []
  settled : List (WorkItem T) := []
  /-- The sentinels `close` has still to put. -/
  sentinels : Nat := 0

namespace BrowserOperationQueue

variable {T : Type} (q : BrowserOperationQueue T)

/-- `_ensure_started`. -/
def ensureStarted (c : QueueSettings) : List (Worker T) :=
  match q.workers with
  | [] => List.replicate c.workers .idle
  | workers => workers

/-- The lock of a key is released. -/
def unlock (key : String) : List String := q.locked.filter (· ≠ key)

end BrowserOperationQueue

/-- What a step is about. -/
inductive QueueEvent
  | submitted | enqueued | cancelled (waiting : Bool) | worked | died | closed
  deriving DecidableEq

section Steps

variable (c : QueueSettings) {T : Type}

open BrowserOperationQueue

/-- One step of a caller, of a worker, or of `close`. -/
inductive QueueStep : BrowserOperationQueue T → QueueEvent → BrowserOperationQueue T → Prop
  | submit (q) (key : String) (kind) : key ≠ "" → q.closing = false →
      QueueStep q .submitted
        { q with putting := q.putting ++ [⟨key, kind, .pending, 0, 0, false⟩]
                 workers := q.ensureStarted c }
  | enqueue (q) (front back item) : q.putting = front ++ item :: back →
      q.queue.length < c.maxQueueSize →
      QueueStep q .enqueued { q with putting := front ++ back, queue := q.queue ++ [some item] }
  | cancelPutting (q) (front back item) : q.putting = front ++ item :: back →
      QueueStep q (.cancelled false)
        { q with putting := front ++ back, settled := q.settled ++ [item.cancel] }
  | cancelQueued (q) (front back item) : q.queue = front ++ some item :: back →
      item.future = .pending →
      QueueStep q (.cancelled false) { q with queue := front ++ some item.cancel :: back }
  | cancelWaiting (q) (front back item) : q.workers = front ++ .waiting item :: back →
      item.future = .pending →
      QueueStep q (.cancelled true) { q with workers := front ++ .waiting item.cancel :: back }
  | cancelRunning (q) (front back item program) :
      q.workers = front ++ .running item program :: back → item.future = .pending →
      QueueStep q (.cancelled false)
        { q with workers := front ++ .running item.cancel program :: back }
  | skip (q) (front back item rest) : q.workers = front ++ .idle :: back →
      q.queue = some item :: rest → item.future = .cancelled →
      QueueStep q .worked { q with queue := rest, settled := q.settled ++ [item] }
  | begin (q) (front back item rest) : q.workers = front ++ .idle :: back →
      q.queue = some item :: rest → item.future ≠ .cancelled → item.key ∉ q.locked →
      QueueStep q .worked
        { q with queue := rest, locked := item.key :: q.locked,
                 workers := front ++ .running item.invoke (item.kind.operation T) :: back }
  | await (q) (front back item rest) : q.workers = front ++ .idle :: back →
      q.queue = some item :: rest → item.future ≠ .cancelled → item.key ∈ q.locked →
      QueueStep q .worked { q with queue := rest, workers := front ++ .waiting item :: back }
  | acquire (q) (front back item) : q.workers = front ++ .waiting item :: back →
      item.key ∉ q.locked →
      QueueStep q .worked
        { q with locked := item.key :: q.locked,
                 workers := front ++ .running item.invoke (item.kind.operation T) :: back }
  | proceed (q) (front back item o k answer) :
      q.workers = front ++ .running item (.call o k) :: back →
      QueueStep q .worked
        { q with workers := front ++ .running (item.count o) (k answer) :: back }
  | succeed (q) (front back item result) :
      q.workers = front ++ .running item (.pure result) :: back →
      QueueStep q .worked
        { q with workers := front ++ .idle :: back, locked := q.unlock item.key,
                 settled := q.settled ++ [item.settle (.ok result)] }
  | fail (q) (front back item e) : q.workers = front ++ .running item (.throw e) :: back →
      e.isA .exception = true →
      QueueStep q .worked
        { q with workers := front ++ .idle :: back, locked := q.unlock item.key,
                 settled := q.settled ++ [item.settle (.error e)] }
  | die (q) (front back item e) : q.workers = front ++ .running item (.throw e) :: back →
      e.isA .exception = false →
      QueueStep q .died
        { q with workers := front ++ .died :: back, locked := q.unlock item.key,
                 settled := q.settled ++ [item] }
  | close (q) : QueueStep q .closed { q with closing := true }
  | join (q) : q.closing = true → q.queue = [] → (∀ w ∈ q.workers, w.busy = false) →
      q.sentinels = 0 → QueueStep q .closed { q with sentinels := q.workers.length }
  | putSentinel (q) (n) : q.sentinels = n + 1 → q.queue.length < c.maxQueueSize →
      QueueStep q .closed { q with queue := q.queue ++ [none], sentinels := n }
  | finish (q) (front back rest) : q.workers = front ++ .idle :: back → q.queue = none :: rest →
      QueueStep q .closed { q with queue := rest, workers := front ++ .returned :: back }

end Steps

end BhDic.Services
