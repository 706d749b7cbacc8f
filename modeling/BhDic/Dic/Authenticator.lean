import BhDic.Dic.AuthRoutes
import BhDic.Library.Trace
import BhDic.Python.Integer
import Mathlib.Data.Rat.Defs

/-!
# The login

`PlaywrightAuthenticator` as a program over a page. Everything the page shows is an answer of the
environment, which may differ each time it is looked at, and everything it is asked for may raise or
be cancelled. Times are in seconds. A loop that polls the page is given the number of its rounds,
and is left waiting when there are no more of them.
-/

namespace BhDic.Dic.Auth

open BhDic.Library BhDic.Python

/-! ## The page -/

/-- What comes back from the page, as far as its type is looked at. -/
inductive PyValue
  | none
  | bool (b : Bool)
  | int (n : Int)
  | str (text : String)
  | other
  deriving DecidableEq, Repr

/-- What is raised by the page itself. -/
inductive Fault
  | raised
  | timedOut
  | cancelled
  deriving DecidableEq, Repr

def Fault.exn : Fault → AuthExn
  | .raised => .foreign
  | .timedOut => .timeout
  | .cancelled => .cancelled

/-- A control: one of the elements a selector matches. -/
structure Control where
  selector : SelectorCandidate
  index : Nat
  deriving DecidableEq, Repr

/-- What is asked of the page and of the clock. `expired` asks whether a cancellation is the one of
a timeout; `waiting` is not answered any more. -/
inductive PageOp
  | url
  | monotonic
  | goto (url : String)
  | waitForLoadState
  | sleep (seconds : ℚ)
  | locator (selector : SelectorCandidate)
  | count (selector : SelectorCandidate)
  | nth (control : Control)
  | isVisible (control : Control)
  | inputValue (control : Control)
  | fill (control : Control) (value : String)
  | click (control : Control)
  | fillSecret (control : Control) (username secret : String)
  | submitSecret (control : Control) (username : String)
  | addListener
  | removeListener
  | companyResponse
  | responseMethod
  | responseStatus
  | responseHeader (name : String)
  | responseBody
  | expired
  | waiting

abbrev pageEffect : Effect where
  Op := PageOp
  Ans
    | .url => Except Fault String
    | .monotonic => ℚ
    | .goto _ | .waitForLoadState | .sleep _ | .locator _ | .nth _ | .fill _ _ | .click _
    | .addListener | .removeListener => Except Fault Unit
    | .count _ | .isVisible _ | .inputValue _ | .fillSecret _ _ _ | .submitSecret _ _ =>
        Except Fault PyValue
    | .companyResponse | .responseMethod => Except Fault String
    | .responseStatus => Except Fault Int
    | .responseHeader _ => Except Fault (Option String)
    | .responseBody => Except Fault (List UInt8)
    | .expired => Bool
    | .waiting => Empty

abbrev PageProg := Prog pageEffect AuthExn

/-- Raise what the page raised. -/
def answer {α : Type} : Except Fault α → PageProg α
  | .ok a => .pure a
  | .error fault => .throw fault.exn

namespace Page

def url : PageProg String := (Prog.ask (E := pageEffect) .url).bind answer
def monotonic : PageProg ℚ := Prog.ask (E := pageEffect) .monotonic
def goto (url : String) : PageProg Unit := (Prog.ask (E := pageEffect) (.goto url)).bind answer
def waitForLoadState : PageProg Unit := (Prog.ask (E := pageEffect) .waitForLoadState).bind answer
def sleep (seconds : ℚ) : PageProg Unit := (Prog.ask (E := pageEffect) (.sleep seconds)).bind answer
def locator (s : SelectorCandidate) : PageProg Unit :=
  (Prog.ask (E := pageEffect) (.locator s)).bind answer
def count (s : SelectorCandidate) : PageProg PyValue :=
  (Prog.ask (E := pageEffect) (.count s)).bind answer
def nth (c : Control) : PageProg Unit := (Prog.ask (E := pageEffect) (.nth c)).bind answer
def isVisible (c : Control) : PageProg PyValue :=
  (Prog.ask (E := pageEffect) (.isVisible c)).bind answer
def inputValue (c : Control) : PageProg PyValue :=
  (Prog.ask (E := pageEffect) (.inputValue c)).bind answer
def fill (c : Control) (value : String) : PageProg Unit :=
  (Prog.ask (E := pageEffect) (.fill c value)).bind answer
def click (c : Control) : PageProg Unit := (Prog.ask (E := pageEffect) (.click c)).bind answer
def fillSecret (c : Control) (username secret : String) : PageProg PyValue :=
  (Prog.ask (E := pageEffect) (.fillSecret c username secret)).bind answer
def submitSecret (c : Control) (username : String) : PageProg PyValue :=
  (Prog.ask (E := pageEffect) (.submitSecret c username)).bind answer
def addListener : PageProg Unit := (Prog.ask (E := pageEffect) .addListener).bind answer
def removeListener : PageProg Unit := (Prog.ask (E := pageEffect) .removeListener).bind answer
def companyResponse : PageProg String := (Prog.ask (E := pageEffect) .companyResponse).bind answer
def responseMethod : PageProg String := (Prog.ask (E := pageEffect) .responseMethod).bind answer
def responseStatus : PageProg Int := (Prog.ask (E := pageEffect) .responseStatus).bind answer
def responseHeader (name : String) : PageProg (Option String) :=
  (Prog.ask (E := pageEffect) (.responseHeader name)).bind answer
def responseBody : PageProg (List UInt8) := (Prog.ask (E := pageEffect) .responseBody).bind answer
def expired : PageProg Bool := Prog.ask (E := pageEffect) .expired

/-- Wait without end. -/
def wait {α : Type} : PageProg α := (Prog.ask (E := pageEffect) .waiting).bind fun x => nomatch x

end Page

/-! ## Timeouts and handlers -/

/-- A cancellation that reaches a timeout is its own or another's. -/
def cancelledWithin {α : Type} : PageProg α := do
  if (← Page.expired) then .throw .timeout else .throw .cancelled

/-- `asyncio.wait_for`. Without time left nothing is begun. -/
def waitFor {α : Type} (timeout : ℚ) (p : PageProg α) : PageProg α :=
  if timeout ≤ 0 then cancelledWithin
  else p.attempt.bind fun
    | .error .cancelled => cancelledWithin
    | r => Prog.ofExcept r

/-- `try: … except Exception`, with nothing left of what was raised. -/
def tried {α : Type} (p : PageProg α) : PageProg (Option α) :=
  p.attempt.bind fun
    | .ok a => .pure (some a)
    | .error e => if e.isException then .pure none else .throw e

/-- `try: … except Exception: raise e`. -/
def orRaise {α : Type} (e : AuthExn) (p : PageProg α) : PageProg α :=
  (tried p).bind fun
    | some a => .pure a
    | none => .throw e

/-! ## The authenticator -/

/-- What an authenticator is made with, and the tables and readers of the response it attests. -/
structure Authenticator where
  data : CaptureData
  baseUrl : String
  expectedTenantId : Option String
  loginTimeoutMs : ℚ

/-- A credential as it is configured. -/
structure DicCredentials where
  username : String
  password : String

/-- How the candidates for a control are looked at. -/
structure ProbeMode where
  allowMultiple : Bool := false
  strictProbeErrors : Bool := false
  completionDeadline : Bool := false

namespace Authenticator

variable (a : Authenticator)

def loginTimeoutSeconds : ℚ := a.loginTimeoutMs / 1000

/-- `_control_deadline`, inside a login that has a deadline of its own or outside one. -/
def controlDeadline (flow : Option ℚ) : PageProg ℚ := do
  let now ← Page.monotonic
  match flow with
  | none => return now + a.loginTimeoutSeconds
  | some deadline => return min (now + a.loginTimeoutSeconds) deadline

def raiseIfDeadlineReached (deadline : ℚ) (stage : DicAuthStage) (completion : Bool) :
    PageProg Unit := do
  let now ← Page.monotonic
  if now < deadline then return
  else if completion then .throw (.completion stage)
  else .throw (.uiChanged stage)

/-- Sleep for a poll, if there is time left. -/
def pollAgain (deadline : ℚ) (e : AuthExn) : PageProg Unit := do
  let now ← Page.monotonic
  if deadline - now ≤ 0 then .throw e else Page.sleep (min (1 / 10) (deadline - now))

/-! ### Routes -/

def raiseIfPasswordExpired (url : String) (stage : DicAuthStage) : PageProg Unit := do
  if (← Prog.ofExcept (isExactRoute a.data.toUrlData url teamsystemOrigin
      teamsystemSecretRenewalPath true)) then .throw (.passwordExpired stage)
  else return

/-- Whether the page is at one of the routes, each of which looks at the page anew. -/
def atAnyRoute : List (String × String) → PageProg Bool
  | [] => return false
  | (origin, path) :: routes => do
      let url ← Page.url
      if (← Prog.ofExcept (isExactRoute a.data.toUrlData url origin path true)) then return true
      else atAnyRoute routes

inductive TeamSystemEntry
  | email | credential | authenticated | pending
  deriving DecidableEq, Repr

/-- What was found among the elements that a selector matches. -/
inductive Scan
  | returned (control : Control)
  | failed
  | scanned (visible : Option Control)

/-- The elements from an index on. -/
def scanControls (mode : ProbeMode) (stage : DicAuthStage) (deadline : ℚ)
    (selector : SelectorCandidate) (visible : Option Control) (index : Nat) : Nat → PageProg Scan
  | 0 => return .scanned visible
  | left + 1 => do
      raiseIfDeadlineReached deadline stage mode.completionDeadline
      match (← tried (Page.nth ⟨selector, index⟩)) with
      | none => return .failed
      | some () => do
          raiseIfDeadlineReached deadline stage mode.completionDeadline
          let now ← Page.monotonic
          match (← tried (waitFor (deadline - now) (Page.isVisible ⟨selector, index⟩))) with
          | none => return .failed
          | some (.bool false) =>
              scanControls mode stage deadline selector visible (index + 1) left
          | some (.bool true) =>
              if mode.allowMultiple then do
                raiseIfDeadlineReached deadline stage mode.completionDeadline
                return .returned ⟨selector, index⟩
              else if visible.isSome then .throw (.uiChanged stage)
              else
                scanControls mode stage deadline selector (some ⟨selector, index⟩) (index + 1) left
          | some _ => .throw (.uiChanged stage)

def probeFailed {α : Type} (mode : ProbeMode) (stage : DicAuthStage) : PageProg α :=
  .throw (if mode.strictProbeErrors then .uiChanged stage else .probePending)

/-- The rest of the candidates of `_candidate_visible`. -/
def firstVisible (mode : ProbeMode) (stage : DicAuthStage) (deadline : ℚ) :
    List SelectorCandidate → PageProg (Option Control)
  | [] => do
      raiseIfDeadlineReached deadline stage mode.completionDeadline
      return none
  | selector :: selectors => do
      raiseIfDeadlineReached deadline stage mode.completionDeadline
      match (← tried (Page.locator selector)) with
      | none => probeFailed mode stage
      | some () => do
          raiseIfDeadlineReached deadline stage mode.completionDeadline
          let now ← Page.monotonic
          match (← tried (waitFor (deadline - now) (Page.count selector))) with
          | none => probeFailed mode stage
          | some (.int n) => do
              Prog.require (0 ≤ n ∧ n ≤ 128) (.uiChanged stage)
              match (← scanControls mode stage deadline selector none 0 n.toNat) with
              | .returned control => return some control
              | .failed => probeFailed mode stage
              | .scanned (some control) => do
                  raiseIfDeadlineReached deadline stage mode.completionDeadline
                  return some control
              | .scanned none => firstVisible mode stage deadline selectors
          | some _ => .throw (.uiChanged stage)

def candidateVisible (key : String) (mode : ProbeMode) (stage : DicAuthStage) (deadline : ℚ) :
    PageProg (Option Control) := do
  let selectors ← Prog.ofExcept (candidates key)
  firstVisible mode stage deadline selectors

/-- `try: … except _AuthProbePending: pass`. -/
def unlessPending {α : Type} (p : PageProg (Option α)) : PageProg (Option α) :=
  p.attempt.bind fun
    | .ok r => .pure r
    | .error .probePending => .pure none
    | .error e => .throw e

/-- An entry that is not waited for any longer. -/
def TeamSystemEntry.settled (emailIsPending : Bool) (state : TeamSystemEntry) : Bool :=
  state != .pending && !(emailIsPending && state == .email)

/-- `text.strip().casefold()`. -/
def accountName (text : String) : List Char := a.data.unicode.casefold (stripChars text.toList)

def tenantEndpointPath : String := "/backend_apiV2/company/info"
def maxTenantResponseBytes : Nat := 64 * 1024

def authorizationFailure (reason : String) : AuthExn :=
  .authorization s!"authenticated DIC tenant attestation failed: {reason}"

/-- The response is at the company endpoint, with nothing after its path. -/
def checkCompanyEndpoint (url : String) : Except AuthExn Unit :=
  match urlsplit a.data.toUrlData url with
  | none => .error (authorizationFailure "invalid endpoint metadata")
  | some parsed =>
      if isEndpoint tenantEndpointPath parsed && parsed.query.isEmpty then .ok ()
      else .error (authorizationFailure "unexpected endpoint metadata")

/-- The identifier of the company in a document. -/
def companyId : Json → Option Json
  | .obj root =>
      match fieldOf root "data" with
      | .obj data =>
          match fieldOf data "company" with
          | .obj company => Dict.find "id" company
          | _ => none
      | _ => none
  | _ => none

/-- The document is that of the tenant. -/
def namesTenant (tenant : String) (document : Json) : Except AuthExn Unit :=
  match companyId document with
  | none => .error (authorizationFailure "required tenant field unavailable")
  | some (.int n) =>
      if n ≤ 0 then .error (authorizationFailure "tenant field has an invalid type")
      else if toString n ≠ tenant then
        .error (authorizationFailure "tenant does not match configuration")
      else .ok ()
  | some _ => .error (authorizationFailure "tenant field has an invalid type")

/-- A declared size that passes. -/
def checkDeclaredLength : Option String → Except AuthExn Unit
  | none => .ok ()
  | some text =>
      match readInt a.data.unicode text.toList with
      | none => .error (authorizationFailure "invalid response size metadata")
      | some n =>
          if n < 0 ∨ maxTenantResponseBytes < n then
            .error (authorizationFailure "response exceeds the attestation limit")
          else .ok ()

def checkBody (tenant : String) (body : List UInt8) : Except AuthExn Unit :=
  if maxTenantResponseBytes < body.length then
    .error (authorizationFailure "response exceeds the attestation limit")
  else
    match a.data.loads body with
    | none => .error (authorizationFailure "invalid response document")
    | some document => namesTenant tenant document

/-- `attest_tenant_response`, of the response that was captured. -/
def attestTenantResponse (tenant url : String) : PageProg Unit := do
  Prog.ofExcept (checkCompanyEndpoint a url)
  let unavailable := authorizationFailure "response metadata unavailable"
  let method ← orRaise unavailable Page.responseMethod
  let status ← orRaise unavailable Page.responseStatus
  Prog.require (method = "GET" ∧ status = 200)
    (authorizationFailure "unexpected response metadata")
  let contentType ← orRaise unavailable (Page.responseHeader "content-type")
  let contentLength ← orRaise unavailable (Page.responseHeader "content-length")
  Prog.require (contentType.any (isJsonType a.data) = true)
    (authorizationFailure "unexpected response media type")
  Prog.ofExcept (checkDeclaredLength a contentLength)
  let body ← orRaise (authorizationFailure "response body unavailable") Page.responseBody
  Prog.ofExcept (checkBody a tenant body)

/-- `TenantResponseCapture.attest`. -/
def attest (tenant : String) (timeout : ℚ) : PageProg Unit := do
  let captured ← (waitFor timeout Page.companyResponse).attempt
  match captured with
  | .ok url => attestTenantResponse a tenant url
  | .error .timeout => .throw (authorizationFailure "company response timed out")
  | .error e => .throw e

/-! ### The probe of a session -/

def navigate (path : String) : PageProg Unit := do
  Page.goto (a.baseUrl ++ path)
  Page.waitForLoadState

def probePendingRoutes : List (String × String) :=
  [(dicOrigin, loginPath), (dicOrigin, dicAuthCallbackPath),
    (teamsystemOrigin, teamsystemRootEmailPath), (teamsystemOrigin, teamsystemEmailPath),
    (teamsystemOrigin, teamsystemSecretEntryPath), (teamsystemOrigin, teamsystemAuthorizePath),
    (teamsystemOrigin, teamsystemAuthorizeCallbackPath)]

def sessionProbeIsOnTargetRoute : PageProg Bool := do
  raiseIfPasswordExpired a (← Page.url) .sessionProbe
  if (← atAnyRoute a probePendingRoutes) then return false
  else if (← Prog.ofExcept (isExactRoute a.data.toUrlData (← Page.url) dicOrigin employeesPath
      false)) then return true
  else .throw (.authentication "DIC session probe reached an unexpected route")

/-- The loop of `_wait_for_authenticated_marker`. -/
def pollMarker (deadline : ℚ) : Nat → PageProg Bool
  | 0 => Page.wait
  | rounds + 1 => do
      let stage := DicAuthStage.sessionProbe
      raiseIfDeadlineReached deadline stage false
      if (← sessionProbeIsOnTargetRoute a) then
        match (← unlessPending (candidateVisible "auth.authenticated" { allowMultiple := true } stage
          deadline)) with
        | some _ => do
            raiseIfDeadlineReached deadline stage false
            sessionProbeIsOnTargetRoute a
        | none => do
            pollAgain deadline (.uiChanged stage)
            pollMarker deadline rounds
      else return false

/-- What is begun with an empty page. -/
def resetPage : PageProg Unit := do
  Page.goto "about:blank"
  Page.waitForLoadState
  Page.sleep 0

/-- `with TenantResponseCapture(...)`. -/
def capturing {α : Type} (p : PageProg α) : PageProg α := do
  Page.addListener
  let result ← p.attempt
  Page.removeListener
  Prog.ofExcept result

def remainingUntil (deadline : ℚ) (e : AuthExn) : PageProg ℚ := do
  let now ← Page.monotonic
  if deadline - now ≤ 0 then .throw e else return deadline - now

/-- `asyncio.wait_for(capture.attest(...))`, whose timeout is an error of its own. -/
def attestInTime (tenant : String) (remaining : ℚ) : PageProg Unit :=
  (waitFor remaining (attest a tenant remaining)).attempt.bind fun
    | .error .timeout => .throw (.authentication "DIC session probe timed out")
    | r => Prog.ofExcept r

/-- The probe of a session whose page is empty. -/
def probeFromBlank (rounds : Nat) (flow : Option ℚ) (tenant : String) : PageProg Bool :=
  capturing do
    let deadline ← a.controlDeadline flow
    let remaining ← remainingUntil deadline (.uiChanged .sessionProbe)
    orRaise (.authentication "DIC session probe navigation failed")
      (waitFor remaining (navigate a employeesPath))
    if (← pollMarker a deadline rounds) then do
      let remaining ← remainingUntil deadline (.uiChanged .sessionProbe)
      attestInTime a tenant remaining
      return true
    else return false

def probeAuthenticatedSession (rounds : Nat) (flow : Option ℚ) : PageProg Bool :=
  match a.expectedTenantId with
  | none => .throw (.configuration "expected DIC tenant is not configured")
  | some tenant => do
      orRaise (.authentication "DIC session probe reset failed") resetPage
      let url ← Page.url
      Prog.require (url = "about:blank")
        (.authentication "DIC session probe reset reached an unexpected route")
      probeFromBlank a rounds flow tenant

inductive SessionState
  | authenticated | expired | missing | unknown
  deriving DecidableEq, Repr

/-- `PlaywrightAuthenticator.status`. -/
def status (rounds : Nat) : PageProg SessionState := do
  if (← probeAuthenticatedSession a rounds none) then return .authenticated else return .unknown

/-! ### The login -/

def atomicControlOk : PyValue := .str "CONTROL_OK"
def atomicControlInvalid : PyValue := .str "CONTROL_INVALID"
end Authenticator

end BhDic.Dic.Auth
