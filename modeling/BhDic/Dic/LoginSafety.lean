import BhDic.Dic.LoginAnswers

/-!
# What a login can come to

Whatever the page shows and whenever it is cancelled: the secret is filled in only after each
control of the account has read back the account, the submit is started at most once, a session
counts as authenticated only if the tenant was attested after the page had been emptied, and what is
raised after the submit tells that its outcome is unknown, or which of the few known ones it is.
-/

namespace BhDic.Dic.Auth

open BhDic.Library BhDic.Python

namespace Authenticator

variable {a : Authenticator}

/-! ## What may be done with the secret -/

/-- An error that tells what became of a submit, or that nobody knows. -/
def TellsOutcome (history : History) : AuthExn → Prop
  | .outcomeUnknown _ | .captchaRequired _ | .mfaRequired _ | .passwordExpired _ => True
  | .uiChanged _ => .ok atomicControlInvalid ∈ submissions history
  | _ => False

section Login

variable {credentials : DicCredentials}

/-- The account was bound and nothing was submitted yet. -/
structure Ready (a : Authenticator) (username : String) (history : History) : Prop where
  bound : AccountBound a username history
  unsubmitted : submissions history = []

theorem Ready.append {username : String} {h h' : History} (hready : Ready a username h)
    (hquiet : ∀ x ∈ h', IsQuiet x.1) : Ready a username (h ++ h') where
  bound := hready.bound.append (accountReads_quiet hquiet)
  unsubmitted := by
    rw [submissions_append, hready.unsubmitted, submissions_quiet hquiet]
    rfl

/-- The secret was filled in. -/
def Filled (credentials : DicCredentials) (history : History) : Prop :=
  ∃ control, ⟨.fillSecret control credentials.username credentials.password, .ok atomicControlOk⟩ ∈
    history

end Login

end Authenticator

end BhDic.Dic.Auth
