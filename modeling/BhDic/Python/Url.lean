import BhDic.Python.Text

/-!
# URLs

`urllib.parse.urlsplit` and `parse_qsl`. What a bracketed host may be and how bytes that are not
UTF-8 are replaced are the fields of `UrlData`, and every result holds whatever they are.
-/

namespace BhDic.Python

structure UrlData where
  /-- `unicodedata`, of which only the NFKC form is read. -/
  unicode : UnicodeData
  /-- Whether `_check_bracketed_netloc` lets a location with brackets pass. -/
  bracketedNetloc : List Char → Bool
  /-- `bytes.decode("utf-8", "replace")`. -/
  decodeReplace : List UInt8 → List Char

/-- `text.partition(c)`: what is before the first `c`, and what is after it if there is one. -/
def partition (c : Char) (cs : List Char) : List Char × Option (List Char) :=
  (cs.takeWhile (· != c), (cs.dropWhile (· != c)).tail?)

/-! ## Splitting -/

structure SplitResult where
  scheme : List Char
  netloc : List Char
  path : List Char
  query : List Char
  fragment : List Char

/-- A tab or the end of a line, which are dropped wherever they are. -/
def isUnsafeInUrl (c : Char) : Bool := c == '\t' || c == '\r' || c == '\n'

def cleanUrl (cs : List Char) : List Char :=
  (cs.dropWhile fun c => c.toNat ≤ 0x20).filter fun c => !isUnsafeInUrl c

def isSchemeChar (c : Char) : Bool := c.isAlphanum || c == '+' || c == '-' || c == '.'

/-- The scheme, in lower case, and what is after its colon. -/
def splitScheme (cs : List Char) : List Char × List Char :=
  match partition ':' cs with
  | (c :: scheme, some rest) =>
      if c.isAlpha && scheme.all isSchemeChar then ((c :: scheme).map Char.toLower, rest)
      else ([], cs)
  | _ => ([], cs)

/-- `/`, `?` or `#`, which end a location. -/
def endsNetloc (c : Char) : Bool := c == '/' || c == '?' || c == '#'

/-- `_splitnetloc`, where there is one. -/
def splitNetloc : List Char → List Char × List Char
  | '/' :: '/' :: rest => (rest.takeWhile (!endsNetloc ·), rest.dropWhile (!endsNetloc ·))
  | cs => ([], cs)

variable (d : UrlData)

/-- `_checknetloc`: no separator comes out of the normal form. -/
def checkNetloc (netloc : List Char) : Bool :=
  let plain := netloc.filter (· ∉ "@:#?".toList)
  netloc.all isAscii || d.unicode.nfkc plain == plain ||
    (d.unicode.nfkc plain).all (· ∉ "/?#@:".toList)

def netlocAllowed (netloc : List Char) : Bool :=
  (netloc.contains '[' == netloc.contains ']') &&
    (!netloc.contains '[' || d.bracketedNetloc netloc) && checkNetloc d netloc

/-- `urlsplit`, where it does not raise `ValueError`. -/
def urlsplit (url : String) : Option SplitResult :=
  let (scheme, rest) := splitScheme (cleanUrl url.toList)
  let (netloc, rest) := splitNetloc rest
  let (rest, fragment) := partition '#' rest
  let (path, query) := partition '?' rest
  if netlocAllowed d netloc then some ⟨scheme, netloc, path, query.getD [], fragment.getD []⟩
  else none

/-! ## Queries -/

/-- A hexadecimal digit of an escape. -/
def escapeDigit (c : Char) : Option Nat :=
  if c.isDigit then some (c.toNat - '0'.toNat)
  else if 'a' ≤ c ∧ c ≤ 'f' then some (c.toNat - 'a'.toNat + 10)
  else if 'A' ≤ c ∧ c ≤ 'F' then some (c.toNat - 'A'.toNat + 10)
  else none

/-- `unquote_to_bytes`, on ASCII characters. -/
def unquoteToBytes : List Char → List UInt8
  | [] => []
  | '%' :: high :: low :: rest =>
      match escapeDigit high, escapeDigit low with
      | some h, some l => UInt8.ofNat (16 * h + l) :: unquoteToBytes rest
      | _, _ => UInt8.ofNat '%'.toNat :: unquoteToBytes (high :: low :: rest)
  | c :: rest => UInt8.ofNat c.toNat :: unquoteToBytes rest

/-- `unquote`: the runs of ASCII characters are decoded, and what is between them stays. -/
def unquote (cs : List Char) : List Char :=
  if '%' ∈ cs then
    (cs.splitBy fun a b => isAscii a == isAscii b).flatMap fun run =>
      if run.all isAscii then d.decodeReplace (unquoteToBytes run) else run
  else cs

/-- `unquote_plus`. -/
def unquotePlus (cs : List Char) : List Char := unquote d (cs.map fun c => if c = '+' then ' ' else c)

/-- A field of a query under `strict_parsing`, before its escapes are read. -/
def splitField (field : List Char) : Option (List Char × List Char) :=
  match partition '=' field with
  | (name, some value) => some (name, value)
  | (_, none) => none

/-- `parse_qsl` under `strict_parsing`, where it does not raise `ValueError`. -/
def parseQsl (keepBlankValues : Bool) (maxNumFields : Nat) (query : List Char) :
    Option (List (String × String)) :=
  if query = [] then some []
  else if maxNumFields < 1 + query.count '&' then none
  else ((query.splitOn '&').mapM splitField).map fun fields =>
    (fields.filter fun field => keepBlankValues || !field.2.isEmpty).map fun field =>
      (String.ofList (unquotePlus d field.1), String.ofList (unquotePlus d field.2))

end BhDic.Python
