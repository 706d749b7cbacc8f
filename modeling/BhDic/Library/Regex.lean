import Mathlib.Data.List.Basic

/-!
# Backtracking patterns

Patterns with the semantics of a backtracking engine: at a place in a text a pattern has a list of
results, in the order in which the engine would try them, and the match is the first. What a
character class accepts is a predicate, so letter case and the classes of a character set are the
business of whoever writes the pattern.
-/

namespace BhDic.Library

/-- A text captured by a group, and where it starts. -/
structure Capture where
  group : Nat
  start : Nat
  text : List Char
  deriving DecidableEq

/-- A place in a text, with what has been captured on the way there: the characters before it, last
one first, and those after it. -/
structure Cursor where
  before : List Char
  after : List Char
  captures : List Capture := []
  deriving DecidableEq

namespace Cursor

/-- The offset of the place. -/
def offset (c : Cursor) : Nat := c.before.length

/-- Past the next character. -/
def advance (c : Cursor) (x : Char) (rest : List Char) : Cursor :=
  { c with before := x :: c.before, after := rest }

/-- What the group with this number captured last. -/
def group (c : Cursor) (n : Nat) : Option Capture := c.captures.find? (·.group == n)

/-- Record what lies between two places as captured. -/
def capture (c : Cursor) (n : Nat) (start : Cursor) : Cursor :=
  { c with captures :=
      ⟨n, start.offset, start.after.take (start.after.length - c.after.length)⟩ :: c.captures }

end Cursor

inductive Regex
  | empty
  | chars (accepts : Char → Bool)
  | seq (r s : Regex)
  | alt (r s : Regex)
  | repeated (least : Nat) (most : Option Nat) (greedy : Bool) (r : Regex)
  | group (n : Nat) (r : Regex)
  | textStart
  | textEnd
  | boundary (isWord : Char → Bool)
  | notAhead (r : Regex)
  | notBehind (accepts : Char → Bool)

namespace Regex

/-! ## Results -/

/-- `step` exactly `n` times. -/
def times (step : Cursor → List Cursor) : Nat → Cursor → List Cursor
  | 0, c => [c]
  | n + 1, c => (step c).flatMap (times step n)

/-- `step` up to `n` times, each time consuming something. -/
def upTo (step : Cursor → List Cursor) (greedy : Bool) : Nat → Cursor → List Cursor
  | 0, c => [c]
  | n + 1, c =>
      let more := (step c).flatMap fun c' =>
        if c'.after.length < c.after.length then upTo step greedy n c' else []
      if greedy then more ++ [c] else c :: more

/-- Whether a word character is on exactly one side. -/
def atBoundary (isWord : Char → Bool) (c : Cursor) : Bool :=
  c.before.head?.any isWord != c.after.head?.any isWord

/-- The places where a match that starts at `c` can end, in the order they are tried. -/
def results : Regex → Cursor → List Cursor
  | .empty, c => [c]
  | .chars accepts, c =>
      match c.after with
      | [] => []
      | x :: rest => if accepts x then [c.advance x rest] else []
  | .seq r s, c => (results r c).flatMap (results s)
  | .alt r s, c => results r c ++ results s c
  | .repeated least most greedy r, c =>
      (times (results r) least c).flatMap fun c' =>
        upTo (results r) greedy (most.elim c'.after.length (· - least)) c'
  | .group n r, c => (results r c).map fun c' => c'.capture n c
  | .textStart, c => if c.before = [] then [c] else []
  | .textEnd, c => if c.after = [] ∨ c.after = ['\n'] then [c] else []
  | .boundary isWord, c => if atBoundary isWord c then [c] else []
  | .notAhead r, c => if results r c = [] then [c] else []
  | .notBehind accepts, c => if c.before.head?.any accepts then [] else [c]

/-! ## Combinators -/

/-- One pattern after the other. -/
def sequence : List Regex → Regex
  | [] => .empty
  | [r] => r
  | r :: rest => .seq r (sequence rest)

/-- The first that matches. -/
def choice : List Regex → Regex
  | [] => .chars fun _ => false
  | [r] => r
  | r :: rest => .alt r (choice rest)

/-- `r?`. -/
def optional (r : Regex) : Regex := .repeated 0 (some 1) true r

/-- `r*`. -/
def star (r : Regex) : Regex := .repeated 0 none true r

/-- `r+`. -/
def plus (r : Regex) : Regex := .repeated 1 none true r

/-- `r` matches here, and nothing is consumed. -/
def ahead (r : Regex) : Regex := .notAhead (.notAhead r)

/-! ## Matching -/

/-- `pattern.fullmatch(text)`: the first result that consumes everything. -/
def fullmatch (r : Regex) (text : List Char) : Option Cursor :=
  (results r { before := [], after := text }).find? (·.after.isEmpty)

/-- Where a match starts, and where it ends. -/
structure Match where
  start : Cursor
  stop : Cursor

/-- The leftmost match at or after a place. -/
def searchFrom (r : Regex) (before : List Char) : List Char → Option Match
  | [] => (results r { before, after := [] }).head?.map fun stop => ⟨{ before, after := [] }, stop⟩
  | x :: rest =>
      match (results r { before, after := x :: rest }).head? with
      | some stop => some ⟨{ before, after := x :: rest }, stop⟩
      | none => searchFrom r (x :: before) rest

/-- `pattern.search(text)`. -/
def search (r : Regex) (text : List Char) : Option Match := searchFrom r [] text

/-- The matches at or after a place, from left to right, each after the end of the one before. The
patterns it is used for match no empty text; `fuel` bounds how many matches there can be. -/
def matchesFrom (r : Regex) : (fuel : Nat) → (before after : List Char) → List Match
  | 0, _, _ => []
  | fuel + 1, before, after =>
      match searchFrom r before after with
      | none => []
      | some m => m :: matchesFrom r fuel m.stop.before m.stop.after

/-- `pattern.finditer(text)`. -/
def finditer (r : Regex) (text : List Char) : List Match :=
  matchesFrom r (text.length + 1) [] text

/-- What `pattern.sub` makes of the text after a place. -/
def subFrom (r : Regex) (replacement : List Char) : (fuel : Nat) → (before after : List Char) →
    List Char
  | 0, _, after => after
  | fuel + 1, before, after =>
      match searchFrom r before after with
      | none => after
      | some m =>
          after.take (after.length - m.start.after.length) ++ replacement ++
            subFrom r replacement fuel m.stop.before m.stop.after

/-- `pattern.sub(replacement, text)`, for a replacement without references to groups. -/
def sub (r : Regex) (replacement text : List Char) : List Char :=
  subFrom r replacement (text.length + 1) [] text

end Regex

end BhDic.Library
