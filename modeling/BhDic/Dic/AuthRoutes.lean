import BhDic.Dic.Responses

/-!
# The routes of a login

What can be raised in a login, and how the URL of the page is told apart: the login of DIC, the
pages of TeamSystem, and the application. A route counts only at its exact origin.
-/

namespace BhDic.Dic.Auth

open BhDic.Library BhDic.Python

inductive DicAuthStage
  | unclassified | dicEmail | dicSubmit | teamsystemEmail | teamsystemEmailSubmit
  | teamsystemCredential | teamsystemCredentialSubmit | credentialSubmit | sessionProbe
  deriving DecidableEq, Repr

/-- What is raised in a login, by the name of its class. `foreign` stands for what a browser or a
store raises that has no class of its own here. -/
inductive AuthExn
  | uiChanged (stage : DicAuthStage)
  | captchaRequired (stage : DicAuthStage)
  | passwordExpired (stage : DicAuthStage)
  | mfaRequired (stage : DicAuthStage)
  | completion (stage : DicAuthStage)
  | outcomeUnknown (stage : DicAuthStage)
  | authentication (message : String)
  | authorization (message : String)
  | configuration (message : String)
  | validation (message : String)
  | sessionVault (message : String)
  | circuitOpen
  | probePending
  | timeout
  | cancelled
  | foreign
  deriving DecidableEq, Repr

/-- `except Exception` catches all but a cancellation. -/
def AuthExn.isException : AuthExn → Bool
  | .cancelled => false
  | _ => true

def dicOrigin : String := "https://secure.dipendentincloud.it"
def teamsystemOrigin : String := "https://identity.teamsystem.com"
def loginPath : String := "/it/login"
def employeesPath : String := "/it/app/employees/list"
def teamsystemEmailPath : String := "/Account/LoginEmail"
def teamsystemRootEmailPath : String := "/"
def teamsystemSecretEntryPath : String := "/Account/LoginPassword"
def teamsystemSecretRenewalPath : String := "/Account/LoginPasswordExpired"
def teamsystemAuthorizePath : String := "/connect/authorize"
def teamsystemAuthorizeCallbackPath : String := "/connect/authorize/callback"
def dicAuthCallbackPath : String := "/it/callback"

/-- The port as it is written in a location without user information. -/
def portText (netloc : List Char) : List Char :=
  match Python.partition '[' netloc with
  | (_, some bracketed) =>
      (((Python.partition ']' bracketed).2.bind fun rest => (Python.partition ':' rest).2).getD [])
  | (_, none) => (Python.partition ':' netloc).2.getD []

section Routes

variable (d : UrlData)

/-- What `_origin_and_path` lets pass: no user name, no password and no port. -/
def splitRoute (url : String) : Except AuthExn SplitResult :=
  match urlsplit d url with
  | none => .error (.authentication "authentication reached an invalid route")
  | some parsed =>
      if '@' ∈ parsed.netloc ∨ portText parsed.netloc ≠ [] then
        .error (.authentication "authentication reached an invalid route")
      else .ok parsed

def originOf (parsed : SplitResult) : String :=
  String.ofList (parsed.scheme ++ "://".toList ++ parsed.netloc)

def isExactRoute (url origin path : String) (allowQuery : Bool) : Except AuthExn Bool :=
  (splitRoute d url).map fun parsed =>
    originOf parsed == origin && parsed.path == path.toList && parsed.scheme == "https".toList &&
      (allowQuery || parsed.query.isEmpty) && parsed.fragment.isEmpty

end Routes

/-! ## Selectors -/

inductive SelectorKind
  | role | label | placeholder | testId | text | css
  deriving DecidableEq, Repr

structure SelectorCandidate where
  kind : SelectorKind
  value : String
  name : Option String := none
  exact : Bool := false
  deriving DecidableEq, Repr

def css (value : String) : SelectorCandidate := { kind := .css, value }

def testId (value : String) : SelectorCandidate := { kind := .testId, value }

/-- The controls of a login, the strongest candidate first. -/
def defaultSelectors : List (String × List SelectorCandidate) :=
  [("auth.mfa", [{ kind := .label, value := "Codice di verifica" },
      { kind := .label, value := "Codice OTP" }, css "input[autocomplete='one-time-code']"]),
    ("auth.captcha", [testId "captcha", css "iframe[src*='captcha'], [class*='captcha']"]),
    ("auth.authenticated", [css "dic-navbar", css "a[href='/it/app/employees']",
      { kind := .role, value := "navigation", name := some "Menu principale" },
      testId "app-sidebar", css "nav a[href='/it/app/employees/list']"]),
    ("auth.dic_email", [css "[data-testid='login-email'] input"]),
    ("auth.dic_submit", [testId "login-submit",
      { kind := .role, value := "button", name := some "Accedi", exact := true }]),
    ("auth.teamsystem_email", [css "#EmailAddress_Email"]),
    ("auth.teamsystem_email_submit", [css "#submitEmailBtn"]),
    ("auth.teamsystem_password", [css "#selectPassword"]),
    ("auth.teamsystem_password_submit", [css "#submitBtn"])]

/-- `SelectorRegistry.candidates`. -/
def candidates (key : String) : Except AuthExn (List SelectorCandidate) :=
  match defaultSelectors.find? (·.1 == key) with
  | some entry => .ok entry.2
  | none => .error (.configuration s!"unknown selector registry key: {key}")

/-- `_TEAMSYSTEM_ACCOUNT_SELECTOR`. -/
def accountSelector : SelectorCandidate := css "#Login_Email"

def maxTeamsystemAccountControls : Nat := 4

end BhDic.Dic.Auth
