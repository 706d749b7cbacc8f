import BhDic.Dic.Authenticator

/-!
# Reconnecting

What stands around a login: `PlaywrightDicAdapter` runs it once through the queue of the browser,
and `reconnect_dic_session` remembers for the rest of the process that the outcome of a submit is
not known. Who waits for the queue may be cancelled while the worker goes on.
-/

namespace BhDic.Dic.Auth

open BhDic.Library BhDic.Python Authenticator

/-! ## The process around the page -/

/-- What is raised around the page. -/
inductive RuntimeFault
  | circuitOpen
  | sessionVault
  | raised (fault : Fault)
  deriving DecidableEq, Repr

def RuntimeFault.exn : RuntimeFault → AuthExn
  | .circuitOpen => .circuitOpen
  | .sessionVault => .sessionVault "verified DIC session could not be persisted safely"
  | .raised fault => fault.exn

/-- What is asked of the rest of the process. `recorded` asks whether the worker comes through its
report to the circuit breaker, and `abandoned` whether who waits for the worker is cancelled first. -/
inductive RuntimeOp
  | acquire
  | isClosed
  | enqueue
  | beforeCall
  | recorded
  | abandoned
  | verifiedSession
  | persist
  | mockSession
  | waiting
  deriving DecidableEq, Repr

abbrev runtimeEffect : Effect where
  Op := RuntimeOp
  Ans
    | .acquire | .enqueue => Except Fault Unit
    | .isClosed | .recorded | .abandoned => Bool
    | .beforeCall | .verifiedSession | .persist => Except RuntimeFault Unit
    | .mockSession => Except RuntimeFault SessionState
    | .waiting => Empty

abbrev sessionEffect : Effect := pageEffect.sum runtimeEffect

abbrev SessionProg := Prog sessionEffect AuthExn

/-- What the page is asked, among the rest. -/
def onPage {α : Type} (p : PageProg α) : SessionProg α := p.inl

def refuse {α : Type} : Except RuntimeFault α → SessionProg α
  | .ok a => .pure a
  | .error fault => .throw fault.exn

namespace Runtime

def acquire : SessionProg Unit :=
  (Prog.ask (E := sessionEffect) (.inr .acquire)).bind fun r => onPage (answer r)
def isClosed : SessionProg Bool := Prog.ask (E := sessionEffect) (.inr .isClosed)
def enqueue : SessionProg Unit :=
  (Prog.ask (E := sessionEffect) (.inr .enqueue)).bind fun r => onPage (answer r)
def beforeCall : SessionProg Unit :=
  (Prog.ask (E := sessionEffect) (.inr .beforeCall)).bind refuse
def recorded : SessionProg Bool := Prog.ask (E := sessionEffect) (.inr .recorded)
def abandoned : SessionProg Bool := Prog.ask (E := sessionEffect) (.inr .abandoned)
def verifiedSession : SessionProg Unit :=
  (Prog.ask (E := sessionEffect) (.inr .verifiedSession)).bind refuse
def persist : SessionProg Unit := (Prog.ask (E := sessionEffect) (.inr .persist)).bind refuse
def mockSession : SessionProg SessionState :=
  (Prog.ask (E := sessionEffect) (.inr .mockSession)).bind refuse
def wait {α : Type} : SessionProg α :=
  (Prog.ask (E := sessionEffect) (.inr .waiting)).bind fun x => nomatch x

end Runtime

/-! ## Once through the queue -/

/-- `asyncio.wait_for` of an operation that is more than the page. -/
def waitForOperation {α : Type} (timeout : ℚ) (p : SessionProg α) : SessionProg α :=
  if timeout ≤ 0 then onPage cancelledWithin
  else p.attempt.bind fun
    | .error .cancelled => onPage cancelledWithin
    | r => Prog.ofExcept r

/-- The report to the circuit breaker, in which a worker may be cancelled. -/
def report : SessionProg Unit := do
  if (← Runtime.recorded) then return else .throw .cancelled

/-- `execute_once` of `run_once`. -/
def executeOnce {α : Type} (timeout : ℚ) (p : SessionProg α) : SessionProg α := do
  Runtime.beforeCall
  match (← (waitForOperation timeout p).attempt) with
  | .ok result => do
      report
      return result
  | .error e => do
      if e.isException then report
      .throw e

variable (a : Authenticator) (rounds : Nat)

def ensureOpen : SessionProg Unit := do
  if (← Runtime.isClosed) then .throw (.validation "Playwright DIC adapter is closed") else return

variable (settings : ReconnectSettings)

end BhDic.Dic.Auth
