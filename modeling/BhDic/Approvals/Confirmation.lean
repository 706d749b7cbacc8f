import BhDic.Approvals.Models
import BhDic.Python.Text

/-!
# Confirmation codes

A code is issued once, when an action is prepared; what is stored is a salted digest of it. The
keyed hash is a parameter.
-/

namespace BhDic.Approvals

open BhDic.Python

/-- `_ALPHABET`: capital letters without `I` and `O`, and the digits from 2. -/
def confirmationAlphabet : List Char := "ABCDEFGHJKLMNPQRSTUVWXYZ23456789".toList

structure ConfirmationMaterial where
  code : String
  salt : Bytes
  digest : Bytes

/-- `ConfirmationHasher`: `hmac` is HMAC-SHA256 under its key. -/
structure ConfirmationHasher where
  unicode : UnicodeData
  hmac : Bytes → Bytes

namespace ConfirmationHasher

/-- `text.encode("ascii")`. -/
def encodeAscii (text : String) : Except Exn Bytes :=
  if text.toList.all isAscii then .ok (encodeUtf8 text)
  else .error ⟨.unicodeEncodeError, "'ascii' codec can't encode characters"⟩

/-- `_digest`. -/
def digest (h : ConfirmationHasher) (actionId : String) (salt : Bytes) (code : String) :
    Except Exn Bytes := do
  let encoded ← encodeAscii code
  return h.hmac (encodeUtf8 actionId ++ [0] ++ salt ++ [0] ++ encoded)

/-- `create`, given the characters and the salt the random source chose. -/
def create (h : ConfirmationHasher) (actionId code : String) (salt : Bytes) :
    Except Exn ConfirmationMaterial := do
  return ⟨code, salt, ← h.digest actionId salt code⟩

/-- The candidate as it is compared: stripped, in capitals, without white space. -/
def normalizeCandidate (h : ConfirmationHasher) (candidate : String) : String :=
  String.ofList (squeeze (h.unicode.upper (stripChars candidate.toList)))

/-- `verify`. -/
def verify (h : ConfirmationHasher) (actionId : String) (salt expected : Bytes)
    (candidate : String) : Except Exn Bool := do
  let actual ← h.digest actionId salt (h.normalizeCandidate candidate)
  return actual == expected

end ConfirmationHasher

end BhDic.Approvals
