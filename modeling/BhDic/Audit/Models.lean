import BhDic.Python.Exceptions

/-!
# Audit models
-/

namespace BhDic.Audit

inductive AuditOutcome
  | success | denied | failed | pending | uncertain
  deriving DecidableEq, Repr

end BhDic.Audit
