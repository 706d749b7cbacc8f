import BhDic.Python.Text

/-!
# UUIDs

`UUID(text)` reads any text of 32 hexadecimal digits, however hyphens and braces are placed in it;
`str` writes the one canonical text, which reads back.
-/

namespace BhDic.Python

@[ext]
structure Uuid where
  int : Nat
  lt : int < 16 ^ 32
  deriving DecidableEq

/-! ## Reading -/

/-- The text without any occurrence of a pattern, the first of those that overlap going first.
`skip` counts the characters of an occurrence still to drop. -/
def removeText (pattern : List Char) : Nat → List Char → List Char
  | _, [] => []
  | skip + 1, _ :: cs => removeText pattern skip cs
  | 0, c :: cs =>
      if pattern.isPrefixOf (c :: cs) then removeText pattern (pattern.length - 1) cs
      else c :: removeText pattern 0 cs

/-- `text.strip("\x7b\x7d")`. -/
def stripBraces (cs : List Char) : List Char :=
  let brace := fun c : Char => c == '\x7b' || c == '\x7d'
  (cs.dropWhile brace).rdropWhile brace

section Read

variable (u : UnicodeData)

/-- The value `int(text, 16)` reads a character as. -/
def hexValue (c : Char) : Option Nat :=
  if 'a' ≤ c ∧ c ≤ 'f' then some (c.toNat - 'a'.toNat + 10)
  else if 'A' ≤ c ∧ c ≤ 'F' then some (c.toNat - 'A'.toNat + 10)
  else (u.decimalValue c).map Fin.val

/-- The rest of a hexadecimal numeral after a digit, given the value so far. -/
def readHexRest (acc : Nat) : List Char → Option Nat
  | [] => some acc
  | '_' :: c :: rest => (hexValue u c).bind fun d => readHexRest (16 * acc + d) rest
  | c :: rest => (hexValue u c).bind fun d => readHexRest (16 * acc + d) rest

def readHexDigits : List Char → Option Nat
  | [] => none
  | c :: rest => (hexValue u c).bind fun d => readHexRest u d rest

/-- A numeral with the prefix `0x`, or without. -/
def readPrefixedHex : List Char → Option Nat
  | '0' :: 'x' :: '_' :: rest | '0' :: 'X' :: '_' :: rest => readHexDigits u rest
  | '0' :: 'x' :: rest | '0' :: 'X' :: rest => readHexDigits u rest
  | cs => readHexDigits u cs

/-- `int(text, 16)`. A text with a minus does not get here. -/
def readHex (cs : List Char) : Option Nat :=
  match stripChars cs with
  | '+' :: rest => readPrefixedHex u rest
  | cs => readPrefixedHex u cs

/-- `UUID(text)`. -/
def Uuid.parse (text : String) : Option Uuid :=
  let hex := removeText "uuid:".toList 0 (removeText "urn:".toList 0 text.toList)
  let hex := (stripBraces hex).filter (· ≠ '-')
  if hex.length = 32 then
    (readHex u hex).bind fun n => if h : n < 16 ^ 32 then some ⟨n, h⟩ else none
  else none

end Read

/-! ## Writing -/

/-- The 32 digits of a UUID. -/
def Uuid.hex (x : Uuid) : List Char := padHex 32 x.int

/-- `str(uuid)`. -/
def Uuid.str (x : Uuid) : String :=
  String.ofList (x.hex.take 8 ++ '-' :: (x.hex.drop 8).take 4 ++ '-' :: (x.hex.drop 12).take 4 ++
    '-' :: (x.hex.drop 16).take 4 ++ '-' :: x.hex.drop 20)

/-! ## Reading back what was written -/

/-- A digit `padHex` writes. -/
def isHexDigit (c : Char) : Prop := ∃ d : Fin 16, c = Nat.digitChar d

theorem padHex_succ (width n : Nat) :
    padHex (width + 1) n = Nat.digitChar (n / 16 ^ width % 16) :: padHex width n := by
  simp [padHex, List.range_succ]

theorem isHexDigit_of_mem_padHex {width n : Nat} {c : Char} (h : c ∈ padHex width n) :
    isHexDigit c := by
  simp only [padHex, List.mem_map] at h
  obtain ⟨i, -, rfl⟩ := h
  exact ⟨⟨n / 16 ^ i % 16, Nat.mod_lt _ (by omega)⟩, rfl⟩

@[simp] theorem length_padHex (width n : Nat) : (padHex width n).length = width := by
  simp [padHex]

variable (u : UnicodeData)

/-- What a hexadecimal digit is not. -/
structure PlainDigit (c : Char) : Prop where
  space : isSpace c = false
  brace : (c == '\x7b' || c == '\x7d') = false
  mark : c ≠ '+' ∧ c ≠ '-' ∧ c ≠ '_' ∧ c ≠ ':' ∧ c ≠ 'x' ∧ c ≠ 'X'

theorem isHexDigit.plain {c : Char} (h : isHexDigit c) : PlainDigit c := by
  obtain ⟨d, rfl⟩ := h
  have hspace : ∀ d : Fin 16, isSpace (Nat.digitChar d) = false := by decide
  have hbrace : ∀ d : Fin 16,
      (Nat.digitChar d == '\x7b' || Nat.digitChar d == '\x7d') = false := by decide
  have hmark : ∀ d : Fin 16, Nat.digitChar d ≠ '+' ∧ Nat.digitChar d ≠ '-' ∧
      Nat.digitChar d ≠ '_' ∧ Nat.digitChar d ≠ ':' ∧ Nat.digitChar d ≠ 'x' ∧
      Nat.digitChar d ≠ 'X' := by decide
  exact ⟨hspace d, hbrace d, hmark d⟩

theorem hexValue_digitChar (d : Fin 16) : hexValue u (Nat.digitChar d) = some d.val := by
  by_cases h : d.val < 10
  · have hnot : ∀ d : Fin 16, d.val < 10 → ¬('a' ≤ Nat.digitChar d ∧ Nat.digitChar d ≤ 'f') ∧
        ¬('A' ≤ Nat.digitChar d ∧ Nat.digitChar d ≤ 'F') := by decide
    rw [hexValue, if_neg (hnot d h).1, if_neg (hnot d h).2]
    rw [u.decimalValue_digitChar ⟨d.val, h⟩]
    rfl
  · have hletter : ∀ d : Fin 16, ¬d.val < 10 →
        ('a' ≤ Nat.digitChar d ∧ Nat.digitChar d ≤ 'f') ∧
          (Nat.digitChar d).toNat - 'a'.toNat + 10 = d.val := by decide
    rw [hexValue, if_pos (hletter d h).1, (hletter d h).2]

theorem readHexRest_cons {c : Char} {rest : List Char} (hc : isHexDigit c) (acc : Nat) :
    readHexRest u acc (c :: rest) =
      (hexValue u c).bind fun d => readHexRest u (16 * acc + d) rest := by
  rw [readHexRest]
  intro _ _ heq _
  exact hc.plain.mark.2.2.1 heq

theorem readHexRest_padHex (width n acc : Nat) :
    readHexRest u acc (padHex width n) = some (16 ^ width * acc + n % 16 ^ width) := by
  induction width generalizing acc with
  | zero => simp [padHex, readHexRest, Nat.mod_one]
  | succ width ih =>
      let d : Fin 16 := ⟨n / 16 ^ width % 16, Nat.mod_lt _ (by omega)⟩
      have hvalue := hexValue_digitChar u d
      -- the leading digit and the rest are the two parts of the number
      have hsplit : n % 16 ^ (width + 1) = n % 16 ^ width + 16 ^ width * d := by
        rw [Nat.pow_succ, Nat.mod_mul]
      show readHexRest u acc (padHex (width + 1) n) = _
      rw [padHex_succ, readHexRest_cons u ⟨d, rfl⟩, hvalue, Option.bind_some, ih, hsplit]
      congr 1
      have hmul : 16 ^ width * (16 * acc) = 16 ^ width * 16 * acc := (Nat.mul_assoc ..).symm
      rw [Nat.pow_succ, Nat.mul_add, hmul]
      omega

theorem readHexDigits_padHex (width n : Nat) :
    readHexDigits u (padHex (width + 1) n) = some (n % 16 ^ (width + 1)) := by
  have hrest := readHexRest_padHex u (width + 1) n 0
  let d : Fin 16 := ⟨n / 16 ^ width % 16, Nat.mod_lt _ (by omega)⟩
  rw [padHex_succ, readHexRest_cons u ⟨d, rfl⟩] at hrest
  rw [padHex_succ]
  simpa [readHexDigits] using hrest

/-- Digits alone are read as they stand: there is no white space, sign or prefix among them. -/
theorem readHex_padHex (width n : Nat) :
    readHex u (padHex (width + 1) n) = some (n % 16 ^ (width + 1)) := by
  have hread := readHexDigits_padHex u width n
  have hdigits : ∀ c ∈ padHex (width + 1) n, isHexDigit c := fun c => isHexDigit_of_mem_padHex
  generalize padHex (width + 1) n = cs at hread hdigits
  have hstrip : stripChars cs = cs := by
    apply stripChars_eq_self
    · intro c hc
      exact (hdigits c (List.mem_of_head? hc)).plain.space
    · intro c hc
      exact (hdigits c (List.mem_of_getLast? hc)).plain.space
  have hprefixed : readPrefixedHex u cs = readHexDigits u cs := by
    unfold readPrefixedHex
    split
    · exact absurd rfl (hdigits 'x' (by simp)).plain.mark.2.2.2.2.1
    · exact absurd rfl (hdigits 'X' (by simp)).plain.mark.2.2.2.2.2
    · exact absurd rfl (hdigits 'x' (by simp)).plain.mark.2.2.2.2.1
    · exact absurd rfl (hdigits 'X' (by simp)).plain.mark.2.2.2.2.2
    · rfl
  rw [readHex, hstrip]
  split
  · exact absurd rfl (hdigits '+' (by simp)).plain.mark.1
  · rw [hprefixed, hread]

/-- No occurrence of a pattern with a colon is found in a text without one. -/
theorem removeText_eq_self {pattern cs : List Char} (hpattern : ':' ∈ pattern)
    (hcs : ':' ∉ cs) : removeText pattern 0 cs = cs := by
  induction cs with
  | nil => rfl
  | cons c cs ih =>
      have hnot : pattern.isPrefixOf (c :: cs) = false := by
        rw [Bool.eq_false_iff]
        intro hpre
        exact hcs ((List.isPrefixOf_iff_prefix.mp hpre).subset hpattern)
      rw [removeText, if_neg (by simp [hnot]), ih fun h => hcs (List.mem_cons_of_mem _ h)]

theorem stripBraces_eq_self {cs : List Char}
    (h : ∀ c ∈ cs, (c == '\x7b' || c == '\x7d') = false) : stripBraces cs = cs := by
  have hdrop : cs.dropWhile (fun c => c == '\x7b' || c == '\x7d') = cs := by
    cases cs with
    | nil => rfl
    | cons c cs => rw [List.dropWhile_cons_of_neg (by simp [h c])]
  rw [stripBraces, hdrop, List.rdropWhile_eq_self_iff]
  intro hne
  simp [h _ (List.getLast_mem hne)]

/-- The canonical text is the digits with hyphens between them. -/
theorem mem_str {x : Uuid} {c : Char} (h : c ∈ x.str.toList) : c = '-' ∨ isHexDigit c := by
  have hdigit : ∀ c ∈ x.hex, isHexDigit c := fun c => isHexDigit_of_mem_padHex
  simp only [Uuid.str, String.toList_ofList, List.mem_append, List.mem_cons] at h
  grind [List.mem_of_mem_take, List.mem_of_mem_drop]

theorem filter_str (x : Uuid) : x.str.toList.filter (· ≠ '-') = x.hex := by
  have hdigits : x.hex.filter (fun c => decide (c ≠ '-')) = x.hex := by
    rw [List.filter_eq_self]
    intro c hc
    simpa using (isHexDigit_of_mem_padHex hc).plain.mark.2.1
  have hsplit : x.hex.take 8 ++ (x.hex.drop 8).take 4 ++ (x.hex.drop 12).take 4 ++
      (x.hex.drop 16).take 4 ++ x.hex.drop 20 = x.hex := by
    have h20 := List.take_append_drop 4 (x.hex.drop 16)
    have h16 := List.take_append_drop 4 (x.hex.drop 12)
    have h12 := List.take_append_drop 4 (x.hex.drop 8)
    have h8 := List.take_append_drop 8 x.hex
    simp only [List.drop_drop] at h20 h16 h12
    simp only [List.append_assoc, h20, h16, h12, h8]
  have hparts : x.str.toList.filter (· ≠ '-') = x.hex.filter (fun c => decide (c ≠ '-')) := by
    rw [← congrArg (List.filter _) hsplit]
    simp [Uuid.str, String.toList_ofList, List.filter_append]
  rw [hparts, hdigits]

/-- `UUID(str(uuid)) == uuid`. -/
@[simp] theorem Uuid.parse_str (x : Uuid) : Uuid.parse u x.str = some x := by
  have hcolon : ':' ∉ x.str.toList := by
    intro h
    rcases mem_str h with h | h
    · cases h
    · exact absurd rfl h.plain.mark.2.2.2.1
  have hbraces : stripBraces x.str.toList = x.str.toList := by
    apply stripBraces_eq_self
    intro c hc
    rcases mem_str hc with rfl | h
    · rfl
    · exact h.plain.brace
  have hread : readHex u x.hex = some x.int := by
    rw [Uuid.hex, readHex_padHex, Nat.mod_eq_of_lt x.lt]
  simp only [Uuid.parse, removeText_eq_self (show ':' ∈ "urn:".toList by decide) hcolon,
    removeText_eq_self (show ':' ∈ "uuid:".toList by decide) hcolon, hbraces, filter_str, hread]
  rw [if_pos (by simp [Uuid.hex])]
  exact dif_pos x.lt

end BhDic.Python
