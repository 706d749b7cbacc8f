import BhDic.Library.Regex

/-!
# Patterns as they are written

The notation of backtracking patterns, read into a `Regex`: literals, classes with ranges and
escapes, groups of all kinds, repetitions in both manners, anchors, and the flags `i` and `s`, for
the whole pattern or for a group. A pattern is first split into tokens, and the groups are then put
together on a stack.

`charsOf_cons` takes a literal apart: its characters are known to the elaborator, so that a written
pattern can be evaluated.
-/

namespace BhDic.Library

/-- How the classes of a pattern are read, and which characters are one letter. -/
structure Alphabet where
  isWord : Char → Bool
  isDigit : Char → Bool
  isSpace : Char → Bool
  sameLetter : Char → Char → Bool

namespace RegexSyntax

/-! ## Tokens -/

/-- A member of a class. -/
inductive Item
  | char (c : Char)
  | range (low high : Char)
  | word | digit | space | notSpace
  deriving DecidableEq

inductive GroupKind
  | plain | capturing | ahead | notAhead | notBehind
  /-- `(?i:...)`. -/
  | anyCase
  deriving DecidableEq

inductive Token
  | one (negated : Bool) (items : List Item)
  | any | textStart | textEnd | boundary
  | openGroup (kind : GroupKind)
  | closeGroup
  | bar
  | repeated (least : Nat) (most : Option Nat) (greedy : Bool)
  deriving DecidableEq

/-- The value of hexadecimal digits. -/
def hexValue (digits : List Char) : Nat :=
  digits.foldl (fun n c => 16 * n + (if c.isDigit then c.toNat - 48 else c.toLower.toNat - 87)) 0

/-- The value of decimal digits. -/
def decimalValue (digits : List Char) : Nat := digits.foldl (fun n c => 10 * n + (c.toNat - 48)) 0

/-- One character of a pattern, escaped or not, and what follows. -/
def itemOf : List Char → Option (Item × List Char)
  | [] => none
  | '\\' :: 'w' :: rest => some (.word, rest)
  | '\\' :: 'd' :: rest => some (.digit, rest)
  | '\\' :: 's' :: rest => some (.space, rest)
  | '\\' :: 'S' :: rest => some (.notSpace, rest)
  | '\\' :: 'n' :: rest => some (.char '\n', rest)
  | '\\' :: 'x' :: a :: b :: rest => some (.char (Char.ofNat (hexValue [a, b])), rest)
  | '\\' :: 'u' :: a :: b :: c :: d :: rest =>
      some (.char (Char.ofNat (hexValue [a, b, c, d])), rest)
  | '\\' :: c :: rest => some (.char c, rest)
  | c :: rest => some (.char c, rest)

/-- The members of a class up to its bracket. -/
def classItems : (fuel : Nat) → List Char → Option (List Item × List Char)
  | 0, _ => none
  | _ + 1, ']' :: rest => some ([], rest)
  | fuel + 1, cs =>
      match itemOf cs with
      | none => none
      | some (.char low, '-' :: ']' :: rest) => some ([.char low, .char '-'], rest)
      | some (.char low, '-' :: rest) =>
          match itemOf rest with
          | some (.char high, rest) =>
              (classItems fuel rest).map fun (items, rest) => (.range low high :: items, rest)
          | _ => none
      | some (item, rest) =>
          (classItems fuel rest).map fun (items, rest) => (item :: items, rest)

/-- The bounds of a counted repetition. -/
def boundsOf (text : List Char) : Nat × Option Nat :=
  match text.splitOn ',' with
  | [low, []] => (decimalValue low, none)
  | [low, high] => (decimalValue low, some (decimalValue high))
  | _ => (decimalValue text, some (decimalValue text))

/-- A repetition, which a question mark makes reluctant. -/
def repetition (least : Nat) (most : Option Nat) : List Char → Token × List Char
  | '?' :: rest => (.repeated least most false, rest)
  | rest => (.repeated least most true, rest)

/-- The first token and what follows. -/
def tokenOf : List Char → Option (Token × List Char)
  | [] => none
  | '(' :: '?' :: ':' :: rest => some (.openGroup .plain, rest)
  | '(' :: '?' :: '=' :: rest => some (.openGroup .ahead, rest)
  | '(' :: '?' :: '!' :: rest => some (.openGroup .notAhead, rest)
  | '(' :: '?' :: '<' :: '!' :: rest => some (.openGroup .notBehind, rest)
  | '(' :: '?' :: 'i' :: ':' :: rest => some (.openGroup .anyCase, rest)
  -- the name of a group is not kept: groups are known by their numbers
  | '(' :: '?' :: 'P' :: rest => some (.openGroup .capturing, (rest.dropWhile (· ≠ '>')).drop 1)
  | '(' :: '?' :: _ => none
  | '(' :: rest => some (.openGroup .capturing, rest)
  | ')' :: rest => some (.closeGroup, rest)
  | '|' :: rest => some (.bar, rest)
  | '.' :: rest => some (.any, rest)
  | '^' :: rest => some (.textStart, rest)
  | '$' :: rest => some (.textEnd, rest)
  | '*' :: rest => some (repetition 0 none rest)
  | '+' :: rest => some (repetition 1 none rest)
  | '?' :: rest => some (repetition 0 (some 1) rest)
  | '\x7b' :: rest =>
      let (least, most) := boundsOf (rest.takeWhile (· ≠ '\x7d'))
      some (repetition least most ((rest.dropWhile (· ≠ '\x7d')).drop 1))
  | '\\' :: 'b' :: rest => some (.boundary, rest)
  | '[' :: '^' :: rest =>
      (classItems rest.length rest).map fun (items, rest) => (.one true items, rest)
  | '[' :: rest => (classItems rest.length rest).map fun (items, rest) => (.one false items, rest)
  | cs => (itemOf cs).map fun (item, rest) => (.one false [item], rest)

def tokens : (fuel : Nat) → List Char → Option (List Token)
  | _, [] => some []
  | 0, _ => none
  | fuel + 1, cs =>
      match tokenOf cs with
      | none => none
      | some (token, rest) => (tokens fuel rest).map (token :: ·)

/-! ## Groups -/

structure Flags where
  ignoreCase : Bool := false
  dotAll : Bool := false
  deriving DecidableEq

variable (a : Alphabet)

def Item.accepts (ignoreCase : Bool) (x : Char) : Item → Bool
  | .char c => if ignoreCase then a.sameLetter x c else x == c
  | .range low high =>
      if ignoreCase then
        (List.range' low.toNat (high.toNat + 1 - low.toNat)).any fun n =>
          a.sameLetter x (Char.ofNat n)
      else low ≤ x && x ≤ high
  | .word => a.isWord x
  | .digit => a.isDigit x
  | .space => a.isSpace x
  | .notSpace => !a.isSpace x

/-- A group that is still open: the alternatives before, and what stands in the last one so far,
last first. -/
structure Frame where
  kind : GroupKind
  flags : Flags
  number : Nat
  alternatives : List Regex := []
  atoms : List Regex := []

namespace Frame

def push (f : Frame) (r : Regex) : Frame := { f with atoms := r :: f.atoms }

def bar (f : Frame) : Frame :=
  { f with alternatives := Regex.sequence f.atoms.reverse :: f.alternatives, atoms := [] }

/-- What stands in the group. -/
def body (f : Frame) : Regex := Regex.choice f.bar.alternatives.reverse

/-- The group as a whole. -/
def close (f : Frame) : Option Regex :=
  match f.kind, f.body with
  | .plain, r | .anyCase, r => some r
  | .capturing, r => some (.group f.number r)
  | .ahead, r => some (Regex.ahead r)
  | .notAhead, r => some (.notAhead r)
  | .notBehind, .chars accepts => some (.notBehind accepts)
  | .notBehind, _ => none

end Frame

/-- The pattern of a token that is no bracket, no bar and no repetition. -/
def atomOf (flags : Flags) : Token → Regex
  | .one negated items => .chars fun x => (items.any (Item.accepts a flags.ignoreCase x)) != negated
  | .any => .chars fun x => flags.dotAll || x != '\n'
  | .textStart => .textStart
  | .textEnd => .textEnd
  | .boundary => .boundary a.isWord
  | _ => .empty

/-- The pattern of the tokens, with `groups` capturing groups opened so far. -/
def build (groups : Nat) (frame : Frame) (outer : List Frame) : List Token → Option Regex
  | [] => if outer.isEmpty then some frame.body else none
  | .openGroup kind :: rest =>
      let groups' := if kind = .capturing then groups + 1 else groups
      let flags := if kind = .anyCase then { frame.flags with ignoreCase := true } else frame.flags
      build groups' { kind, flags, number := groups' } (frame :: outer) rest
  | .closeGroup :: rest =>
      match frame.close, outer with
      | some r, frame' :: outer' => build groups (frame'.push r) outer' rest
      | _, _ => none
  | .bar :: rest => build groups frame.bar outer rest
  | .repeated least most greedy :: rest =>
      match frame.atoms with
      | [] => none
      | r :: atoms =>
          build groups { frame with atoms := .repeated least most greedy r :: atoms } outer rest
  | token :: rest => build groups (frame.push (atomOf a frame.flags token)) outer rest

/-- The flags that a pattern begins with. -/
def inlineFlags : List Char → Flags × List Char
  | '(' :: '?' :: 'i' :: ')' :: rest => (⟨true, false⟩, rest)
  | '(' :: '?' :: 'i' :: 's' :: ')' :: rest => (⟨true, true⟩, rest)
  | cs => ({}, cs)

/-- The pattern that is written as `cs`, if it is one. -/
def parse (ignoreCase : Bool) (cs : List Char) : Option Regex :=
  let (flags, rest) := inlineFlags cs
  let flags := { flags with ignoreCase := flags.ignoreCase || ignoreCase }
  (tokens rest.length rest).bind (build a 0 { kind := .plain, flags, number := 0 } [])

end RegexSyntax

/-- The characters of a pattern that is written in pieces. -/
def RegexSyntax.charsOf (pieces : List String) : List Char := pieces.flatMap String.toList

theorem RegexSyntax.charsOf_cons (cs : List Char) (pieces : List String) :
    charsOf (String.ofList cs :: pieces) = cs ++ charsOf pieces := by
  simp [charsOf]

/-- `re.compile(pattern)`, of a pattern in pieces. What is no pattern matches nothing. -/
def Alphabet.regex (a : Alphabet) (ignoreCase : Bool) (pieces : List String) : Regex :=
  (RegexSyntax.parse a ignoreCase (RegexSyntax.charsOf pieces)).getD (.chars fun _ => false)

end BhDic.Library
