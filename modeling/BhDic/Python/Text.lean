import BhDic.Python.Exceptions
import Mathlib.Algebra.GroupWithZero.Nat
import Mathlib.Data.List.DropRight

/-!
# Text

The parts of `str` and `unicodedata` the repository relies on. Which characters are white space is
short enough to write out; the larger tables of the Unicode database are the fields of
`UnicodeData`, and every result holds whatever they contain.
-/

namespace BhDic.Python

/-- The tables of the Unicode database that `unicodedata`, `str.upper` and their like read. -/
structure UnicodeData where
  /-- `unicodedata.category`, one letter for the group and one for the kind. -/
  category : Char → String
  /-- `unicodedata.normalize("NFKC", text)`. -/
  nfkc : List Char → List Char
  /-- `str.upper`. -/
  upper : List Char → List Char
  /-- `str.lower`. -/
  lower : List Char → List Char
  /-- `str.isdigit` on one character. -/
  isDigit : Char → Bool
  /-- The value `int` and `decimal.Decimal` read a character as, where they take it for a digit. -/
  decimalValue : Char → Option (Fin 10)
  /-- `str.isprintable` on one character. -/
  isPrintable : Char → Bool
  /-- `str.casefold`. -/
  casefold : List Char → List Char
  /-- `\w` on one character. -/
  isWord : Char → Bool
  /-- Whether `re.IGNORECASE` takes two characters for the same. -/
  sameIgnoringCase : Char → Char → Bool
  isDigit_digitChar : ∀ d : Fin 10, isDigit (Nat.digitChar d) = true
  decimalValue_digitChar : ∀ d : Fin 10, decimalValue (Nat.digitChar d) = some d

instance lawfulBEq_chars : LawfulBEq (List Char) := inferInstance

/-- `str.isspace` on one character. -/
def isSpace (c : Char) : Bool :=
  let n := c.toNat
  (0x09 ≤ n && n ≤ 0x0d) || (0x1c ≤ n && n ≤ 0x20) || n == 0x85 || n == 0xa0 || n == 0x1680 ||
    (0x2000 ≤ n && n ≤ 0x200a) || n == 0x2028 || n == 0x2029 || n == 0x202f || n == 0x205f ||
    n == 0x3000

/-- `str.strip` on the characters of a text. -/
def stripChars (cs : List Char) : List Char := (cs.dropWhile isSpace).rdropWhile isSpace

/-- `str.strip`. -/
def strip (s : String) : String := String.ofList (stripChars s.toList)

/-- `"".join(text.split())`: splitting at white space and joining drops exactly the white
space. -/
def squeeze (cs : List Char) : List Char := cs.filter (fun c => !isSpace c)

/-- `str.isascii` on one character, which is what `encode("ascii")` asks of each. -/
def isAscii (c : Char) : Bool := c.toNat < 128

/-- `text.encode("utf-8")`. -/
def encodeUtf8 (text : String) : List UInt8 := text.toUTF8.data.toList

theorem encodeUtf8_injective {s t : String} (h : encodeUtf8 s = encodeUtf8 t) : s = t := by
  have hdata : s.toUTF8.data = t.toUTF8.data := Array.toList_inj.mp h
  exact String.toByteArray_inj.mp (ByteArray.ext hdata)

/-! ## `repr` -/

/-- The last `width` hexadecimal digits of a number. -/
def padHex (width n : Nat) : List Char :=
  (List.range width).reverse.map fun i => Nat.digitChar (n / 16 ^ i % 16)

/-- How `repr` writes one character of a text between `quote`s. -/
def reprChar (u : UnicodeData) (quote c : Char) : List Char :=
  if c = quote ∨ c = '\\' then ['\\', c]
  else if c = '\t' then ['\\', 't']
  else if c = '\n' then ['\\', 'n']
  else if c = '\r' then ['\\', 'r']
  else if isAscii c ∧ 0x20 ≤ c.toNat ∧ c.toNat ≠ 0x7f then [c]
  else if ¬isAscii c ∧ u.isPrintable c then [c]
  else if c.toNat < 0x100 then '\\' :: 'x' :: padHex 2 c.toNat
  else if c.toNat < 0x10000 then '\\' :: 'u' :: padHex 4 c.toNat
  else '\\' :: 'U' :: padHex 8 c.toNat

/-- `repr(text)`. -/
def reprText (u : UnicodeData) (text : String) : String :=
  let cs := text.toList
  let quote := if '\'' ∈ cs ∧ '"' ∉ cs then '"' else '\''
  String.ofList (quote :: cs.flatMap (reprChar u quote) ++ [quote])

/-- `repr` of a list of texts, as an f-string writes it. -/
def reprTexts (u : UnicodeData) (texts : List String) : String :=
  "[" ++ ", ".intercalate (texts.map (reprText u)) ++ "]"

/-! ## Facts about `strip` -/

/-- The text starts with something other than white space. -/
theorem head_stripChars {cs : List Char} {c : Char} (h : (stripChars cs).head? = some c) :
    isSpace c = false := by
  have hpre : stripChars cs <+: cs.dropWhile isSpace := List.rdropWhile_prefix _ _
  obtain ⟨rest, hrest⟩ := hpre
  have hhead : (cs.dropWhile isSpace).head? = some c := by
    rw [← hrest, List.head?_append, h]
    rfl
  have := List.head?_dropWhile_not isSpace cs
  rw [hhead] at this
  simpa using this

theorem stripChars_eq_self {cs : List Char} (hhead : ∀ c, cs.head? = some c → isSpace c = false)
    (hlast : ∀ c, cs.getLast? = some c → isSpace c = false) : stripChars cs = cs := by
  have hdrop : cs.dropWhile isSpace = cs := by
    cases cs with
    | nil => rfl
    | cons c cs => rw [List.dropWhile_cons_of_neg (by simp [hhead c rfl])]
  rw [stripChars, hdrop, List.rdropWhile_eq_self_iff]
  intro hne
  simpa using hlast _ (List.getLast?_eq_some_getLast hne)

theorem last_stripChars {cs : List Char} {c : Char} (h : (stripChars cs).getLast? = some c) :
    isSpace c = false := by
  have hne : stripChars cs ≠ [] := by
    intro hnil
    rw [hnil] at h
    cases h
  rw [List.getLast?_eq_some_getLast hne] at h
  cases h
  simpa [stripChars] using List.rdropWhile_last_not isSpace (cs.dropWhile isSpace) hne

/-- Stripping a stripped text changes nothing. -/
@[simp] theorem stripChars_stripChars (cs : List Char) :
    stripChars (stripChars cs) = stripChars cs :=
  stripChars_eq_self (fun _ => head_stripChars) (fun _ => last_stripChars)

@[simp] theorem strip_strip (s : String) : strip (strip s) = strip s := by
  simp [strip]

/-- The category of an ASCII character, and of the zero-width space. -/
def asciiCategory (c : Char) : String :=
  if c.toNat < 0x20 ∨ c.toNat = 0x7f then "Cc"
  else if c.isLower then "Ll"
  else if c.isUpper then "Lu"
  else if c.isDigit then "Nd"
  else if c = ' ' then "Zs"
  else if c = '-' then "Pd"
  else if c = '_' then "Pc"
  else if c = '$' then "Sc"
  else if c ∈ "([\x7b".toList then "Ps"
  else if c ∈ ")]\x7d".toList then "Pe"
  else if c ∈ "+<=>|~".toList then "Sm"
  else if c ∈ "^\x60".toList then "Sk"
  else if isAscii c then "Po"
  else if c = '\u200b' then "Cf"
  else "Cn"

local instance neZero_ten : NeZero 10 := ⟨by decide⟩

/-- The tables, right for ASCII and the zero-width space. -/
def asciiTables : UnicodeData where
  category := asciiCategory
  nfkc cs := cs
  upper cs := cs.map Char.toUpper
  lower cs := cs.map Char.toLower
  isDigit c := c.isDigit
  decimalValue c := if c.isDigit then some (Fin.ofNat 10 (c.toNat - 48)) else none
  isPrintable c := asciiCategory c ≠ "Cc" && asciiCategory c ≠ "Cf" && asciiCategory c ≠ "Cn"
  casefold cs := cs.map Char.toLower
  isWord c := c.isAlphanum || c == '_'
  sameIgnoringCase c d := c.toLower == d.toLower
  isDigit_digitChar := by decide
  decimalValue_digitChar := by decide

end BhDic.Python
