import BhDic.Library.RegexSyntax
import BhDic.Python.Patterns

/-!
# The module `re`

Patterns are kept as the source writes them, piece by piece.
-/

namespace BhDic.Python

open BhDic.Library

namespace UnicodeData

variable (u : UnicodeData)

/-- How `re` reads the classes of a pattern. -/
def alphabet : Alphabet where
  isWord := u.isWord
  isDigit c := (u.decimalValue c).isSome
  isSpace := isSpace
  sameLetter := u.sameIgnoringCase

/-- `re.compile(pattern)`. -/
def re (pieces : List String) : Regex := u.alphabet.regex false pieces

/-- `re.compile(pattern, re.IGNORECASE)`. -/
def reAnyCase (pieces : List String) : Regex := u.alphabet.regex true pieces

end UnicodeData

/-- `pattern.search(text) is not None`. -/
def found (r : Regex) (text : List Char) : Bool := (r.search text).isSome

/-- `match.group(n)`, where the group took part. -/
def groupOf (m : Regex.Match) (n : Nat) : Option (List Char) := (m.stop.group n).map (·.text)

end BhDic.Python
