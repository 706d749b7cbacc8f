import BhDic.Python.Re

/-!
# Redaction of texts

`redact_text`: five kinds of secrets and personal data are replaced, one after the other, so that a
later pattern sees what an earlier one has left.
-/

namespace BhDic.OpenAI

open BhDic.Library BhDic.Python

variable (u : UnicodeData)

/-- `_EMAIL`. -/
def emailPattern : Regex := u.re [r"(?i)\b[A-Z0-9._%+-]+@[A-Z0-9.-]+\.[A-Z]{2,}\b"]

/-- `_IBAN`. -/
def ibanPattern : Regex := u.re [r"(?i)\bIT\d{2}[A-Z]\d{10}[A-Z0-9]{12}\b"]

/-- `_ITALIAN_FISCAL_CODE`. -/
def fiscalCodePattern : Regex := u.re [r"(?i)\b[A-Z]{6}\d{2}[A-Z]\d{2}[A-Z]\d{3}[A-Z]\b"]

/-- `_PHONE`. -/
def phonePattern : Regex :=
  u.re [r"(?<!\w)(?:\+?39[ .-]?)?(?:0\d{1,3}|3\d{2})[ .-]?\d(?:[ .-]?\d){5,9}(?!\w)"]

/-- `_SECRET`. -/
def secretPattern : Regex :=
  u.re [r"(?i)(?:\bBearer\s+[A-Za-z0-9._~+/=-]+|",
    r"\b(?:sk-|gsk_|ghp_|github_pat_)[A-Za-z0-9_-]{12,}|",
    r"\b(?:token|password|secret|cookie|api[\s_-]?key)\s*(?:[:=]|\bis\b|\bè\b)\s*\S+)"]

/-- `redact_text`. -/
def redactText (value : List Char) : List Char :=
  let value := (secretPattern u).sub "[SECRET_REDACTED]".toList value
  let value := (ibanPattern u).sub "[IBAN_REDACTED]".toList value
  let value := (fiscalCodePattern u).sub "[FISCAL_CODE_REDACTED]".toList value
  let value := (emailPattern u).sub "[EMAIL_REDACTED]".toList value
  (phonePattern u).sub "[PHONE_REDACTED]".toList value

end BhDic.OpenAI
