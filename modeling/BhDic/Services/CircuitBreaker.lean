import BhDic.Library.Prog
import BhDic.Python.DateTime

/-!
# The circuit breaker

`CircuitBreaker` and the bodies `BrowserCoordinator` puts into its queue. The methods of the
breaker suspend nowhere: its lock is never held across an `await`, so each of them is one step. The
clock is read in whole units.
-/

namespace BhDic.Services

open BhDic.Library BhDic.Python

inductive CircuitState
  | closed | opened | halfOpen
  deriving DecidableEq, Repr

/-- The settings of a breaker that could be built. -/
structure BreakerSettings where
  failureThreshold : Nat
  recoveryTimeout : Duration
  failureThreshold_pos : 1 ≤ failureThreshold
  recoveryTimeout_pos : 0 < recoveryTimeout

structure CircuitBreaker where
  state : CircuitState := .closed
  failures : Nat := 0
  openedAt : Option Instant := none
  halfOpenInFlight : Bool := false
  deriving DecidableEq

namespace CircuitBreaker

variable (c : BreakerSettings) (now : Instant) (b : CircuitBreaker)

/-- The last lines of `before_call`. -/
def beginProbe : Except Exn Unit × CircuitBreaker :=
  if b.halfOpenInFlight then
    (.error ⟨.dicCircuitOpenError, "DIC browser half-open probe is already running"⟩, b)
  else (.ok (), { b with halfOpenInFlight := true })

def beforeCall : Except Exn Unit × CircuitBreaker :=
  match b.state with
  | .closed => (.ok (), b)
  | .opened =>
      match b.openedAt with
      | none => (.error ⟨.runtimeError, "open circuit has no opening timestamp"⟩, b)
      | some openedAt =>
          if now - openedAt < c.recoveryTimeout then
            (.error ⟨.dicCircuitOpenError, "DIC browser circuit is open"⟩, b)
          else beginProbe { b with state := .halfOpen }
  | .halfOpen => beginProbe b

/-- Everything is as in a new breaker. -/
def recordSuccess (b : CircuitBreaker) : CircuitBreaker :=
  { b with state := .closed, failures := 0, openedAt := none, halfOpenInFlight := false }

def recordFailure : CircuitBreaker :=
  let b := { b with halfOpenInFlight := false, failures := b.failures + 1 }
  if b.state = .halfOpen ∨ c.failureThreshold ≤ b.failures then
    { b with state := .opened, openedAt := some now }
  else b

end CircuitBreaker

/-! ## Calls through the browser -/

structure ReadRetryPolicy where
  attempts : Nat
  attempts_pos : 1 ≤ attempts

/-- What a body in the queue does that others may notice. `operate` is the browser operation under
its timeout, and answers what that raised or returned. -/
inductive BrowserOp
  | beforeCall
  | operate
  | recordSuccess
  | recordFailure
  | sleep (attempt : Nat)
  deriving DecidableEq

section Coordinator

variable (T : Type)

abbrev browserEffect : Effect where
  Op := BrowserOp
  Ans
    | .beforeCall => Except Exn Unit
    | .operate => Except Exn T
    | .recordSuccess | .recordFailure | .sleep _ => Unit

abbrev BrowserProg := Prog (browserEffect T) Exn T

end Coordinator

/-- `_retryable`. -/
def retryable (e : Exn) : Bool :=
  e.isA .dicTransientError || e.isA .timeoutError || e.isA .connectionError

/-- `_circuit_failure`. -/
def circuitFailure (e : Exn) : Bool :=
  e.isA .dicAmbiguousWriteOutcomeError || e.isA .dicTransientError || e.isA .dicUiChangedError ||
    e.isA .timeoutError || e.isA .connectionError

namespace BrowserCoordinator

variable {T : Type}

/-- Report a failure to the breaker if `failed`, else a success, and raise. -/
def reportAndRaise (failed : Bool) (e : Exn) : BrowserProg T :=
  .call (if failed then .recordFailure else .recordSuccess) fun _ => .throw e

/-- The operation of `run_once` and `run_write`, once admitted. What is not an `Exception` passes
unreported. -/
def operateOnce : BrowserProg T :=
  .call .operate fun
    | .error e => if e.isA .exception then reportAndRaise (circuitFailure e) e else .throw e
    | .ok result => .call .recordSuccess fun _ => .pure result

/-- The body of `run_once` and of `run_write`. -/
def executeOnce : BrowserProg T :=
  .call .beforeCall fun
    | .error e => .throw e
    | .ok () => operateOnce

/-- The rest of the loop of `run_read`, from an attempt on. -/
def attemptRead (lastError : Option Exn) (attempt : Nat) : Nat → BrowserProg T
  | 0 => .throw (lastError.getD
      ⟨.dicTransientError, "read retry loop ended without a result"⟩)
  | remaining + 1 =>
    .call .beforeCall fun
      | .error e => .throw e
      | .ok () => .call .operate fun
        | .error e =>
            if e.isA .exception then
              if retryable e then
                .call .recordFailure fun _ =>
                  if remaining = 0 then .throw e
                  else .call (.sleep attempt) fun _ => attemptRead (some e) (attempt + 1) remaining
              else reportAndRaise (circuitFailure e) e
            else .throw e
        | .ok result => .call .recordSuccess fun _ => .pure result

/-- The body of `run_read`. -/
def executeRead (policy : ReadRetryPolicy) : BrowserProg T := attemptRead none 1 policy.attempts

/-- The body of `run_reconciliation`, which asks no breaker. -/
def executeReconciliation : BrowserProg T :=
  .call .operate fun
    | .error e => if e.isA .exception then reportAndRaise true e else .throw e
    | .ok result => .call .recordSuccess fun _ => .pure result

end BrowserCoordinator

end BhDic.Services
