import BhDic.Dic.LoginSafety
import BhDic.Dic.Reconnect

/-!
# What a reconnection can come to

In the life of a process, whatever the page shows and whenever it is cancelled: a reconnection
submits the credentials at most once, and one that did so and does not know what came of it is the
last one that touches them.
-/

namespace BhDic.Dic.Auth

open BhDic.Library BhDic.Python Authenticator

/-! ## What is known of the page -/

abbrev SessionHistory := List sessionEffect.Answered

/-- What the page answered, among all that was answered. -/
def pageAnswers (answers : SessionHistory) : History :=
  answers.filterMap fun
    | ⟨.inl o, x⟩ => some ⟨o, x⟩
    | ⟨.inr _, _⟩ => none

section Session

variable {a : Authenticator} {credentials : DicCredentials} {rounds : Nat}
  {settings : ReconnectSettings}

/-- What a reconnection comes to: it submits once, knows what came of that or says that it does not,
and remembers that it does not. -/
def Settled (outcomeUnknown : Bool) (result : Except AuthExn SessionState) (remembered : Bool)
    (history : History) : Prop :=
  (submissions history).length ≤ 1 ∧
    (submissions history ≠ [] → match result with
      | .ok state => state = .authenticated
      | .error e => TellsOutcome history e) ∧
    (∀ stage, result = .error (.outcomeUnknown stage) → remembered = true) ∧
    (outcomeUnknown = true → remembered = true)

/-- A reconnection that is over. -/
structure Reconnection where
  answers : SessionHistory
  result : Except AuthExn SessionState

/-- What the page answered to a reconnection. -/
def Reconnection.page (r : Reconnection) : History := pageAnswers r.answers

end Session

end BhDic.Dic.Auth
