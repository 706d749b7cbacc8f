import BhDic.Library.Regex
import BhDic.Python.Text

/-!
# Pieces of patterns

What the patterns of the source are put together from. Those with `re.IGNORECASE` read each
character through `sameIgnoringCase`.
-/

namespace BhDic.Python

open BhDic.Library
open BhDic.Library.Regex (sequence choice)

/-- `\s`. -/
def space : Regex := .chars isSpace

/-- One of the characters. -/
def among (members : List Char) : Regex := .chars (· ∈ members)

/-- `A-Za-zÀ-ÖØ-öø-ÿ`. -/
def isLatinLetter (c : Char) : Bool :=
  c.isAlpha || ('À' ≤ c && c ≤ 'Ö') || ('Ø' ≤ c && c ≤ 'ö') || ('ø' ≤ c && c ≤ 'ÿ')

/-- `A-Za-z0-9_-`. -/
def isIdentifierChar (c : Char) : Bool := c.isAlphanum || c == '_' || c == '-'

def identifierChars : List Char :=
  "ABCDEFGHIJKLMNOPQRSTUVWXYZabcdefghijklmnopqrstuvwxyz0123456789_-".toList

namespace UnicodeData

variable (u : UnicodeData)

/-- `\d`. -/
def digit : Regex := .chars fun c => (u.decimalValue c).isSome

/-- `\b`. -/
def wordBoundary : Regex := .boundary u.isWord

/-- One of the characters, in either case. -/
def amongAnyCase (members : List Char) : Regex :=
  .chars fun c => members.any (u.sameIgnoringCase c)

/-- A word, in any case. -/
def word (text : String) : Regex := sequence (text.toList.map fun c => u.amongAnyCase [c])

/-- One of the words, in any case. -/
def anyWord (texts : List String) : Regex := choice (texts.map u.word)

end UnicodeData

/-! ## Words -/

/-- `text.split()`. -/
def splitWords (cs : List Char) : List (List Char) := (cs.splitOnP isSpace).filter (· ≠ [])

/-- `" ".join(text.strip().split())`. -/
def collapseSpaces (text : String) : List Char := [' '].intercalate (splitWords text.toList)

end BhDic.Python
