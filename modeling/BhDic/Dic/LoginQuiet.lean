import BhDic.Dic.Authenticator

/-!
# What a login leaves alone

All of a login but three of its parts is quiet: it neither reads an account back nor touches the
secret, and none of its errors leaves the outcome of a submit open.
-/

namespace BhDic.Dic.Auth

open BhDic.Library BhDic.Python

/-- A call that neither reads an account back nor touches the secret. -/
def IsQuiet : PageOp → Prop
  | .inputValue _ | .fillSecret _ _ _ | .submitSecret _ _ => False
  | _ => True

/-- An error after which it is known what became of a submit. -/
def IsKnown : AuthExn → Prop
  | .outcomeUnknown _ => False
  | _ => True

abbrev Quiet {α : Type} (p : PageProg α) : Prop := Prog.Within IsQuiet IsKnown p

section Rules

variable {α β : Type}

theorem quiet_pure (x : α) : Quiet (.pure x : PageProg α) := trivial

end Rules

/-! ## Routes -/

namespace Authenticator

variable {a : Authenticator}

end Authenticator

end BhDic.Dic.Auth
