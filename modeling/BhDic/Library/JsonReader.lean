import BhDic.Library.JsonText

/-!
# Reading JSON

`loads` reads a document: blanks, escapes, numbers and all. `loads_dumps` is that it reads back what
`dumps` writes, of every value that a writer can have written: with distinct names in each object,
and with floats that are numerals.

No number of characters is a lone surrogate, so that an escape which is one is not read here.
-/

namespace BhDic.Library

/-! ## Strings -/

def isBlank (c : Char) : Bool := c ∈ [' ', '\t', '\n', '\r']

def skipBlanks (cs : List Char) : List Char := cs.dropWhile isBlank

def hexValue? (c : Char) : Option Nat :=
  if c.isDigit then some (c.toNat - 48)
  else if 'a' ≤ c ∧ c ≤ 'f' then some (c.toNat - 87)
  else if 'A' ≤ c ∧ c ≤ 'F' then some (c.toNat - 55)
  else none

/-- Four hexadecimal digits. -/
def readHex : List Char → Option (Nat × List Char)
  | a :: b :: c :: d :: rest => do
      let a ← hexValue? a
      let b ← hexValue? b
      let c ← hexValue? c
      let d ← hexValue? d
      return (4096 * a + 256 * b + 16 * c + d, rest)
  | _ => none

/-- The character with this number. -/
def charOf? (n : Nat) : Option Char := if h : n.isValidChar then some (Char.ofNatAux n h) else none

/-- What an escape stands for, after its backslash. The escapes of two surrogates are one
character. -/
def readEscape : List Char → Option (Char × List Char)
  | [] => none
  | '/' :: rest => some ('/', rest)
  | 'u' :: rest => do
      let (n, rest) ← readHex rest
      if 0xd800 ≤ n ∧ n ≤ 0xdbff then
        match rest with
        | '\\' :: 'u' :: rest => do
            let (m, rest) ← readHex rest
            if 0xdc00 ≤ m ∧ m ≤ 0xdfff then
              (charOf? (0x10000 + (n - 0xd800) * 0x400 + (m - 0xdc00))).map (·, rest)
            else none
        | _ => none
      else (charOf? n).map (·, rest)
  | e :: rest => (unescape e).map (·, rest)

/-- One character of a string, escaped or not. Control characters have to be escaped. -/
def readChar : List Char → Option (Char × List Char)
  | [] => none
  | c :: rest =>
      if c = '\\' then readEscape rest
      else if c.toNat < 0x20 then none
      else some (c, rest)

/-- The characters of a string up to its closing quote. -/
def readChars : (fuel : Nat) → List Char → Option (List Char × List Char)
  | 0, _ => none
  | _ + 1, [] => none
  | fuel + 1, c :: rest =>
      if c = '"' then some ([], rest)
      else do
        let (x, rest) ← readChar (c :: rest)
        let (text, rest) ← readChars fuel rest
        return (x :: text, rest)

/-! ## Numbers -/

/-- The digits that a text begins with, and what follows. -/
def spanDigits (cs : List Char) : List Char × List Char :=
  (cs.takeWhile Char.isDigit, cs.dropWhile Char.isDigit)

/-- The whole part: a zero, or digits that do not begin with one. -/
def readWhole : List Char → List Char × List Char
  | '0' :: rest => (['0'], rest)
  | cs => spanDigits cs

def readFraction : List Char → List Char × List Char
  | '.' :: rest =>
      let (digits, after) := spanDigits rest
      if digits = [] then ([], '.' :: rest) else ('.' :: digits, after)
  | cs => ([], cs)

def readSign : List Char → List Char × List Char
  | '+' :: rest => (['+'], rest)
  | '-' :: rest => (['-'], rest)
  | cs => ([], cs)

def readExponent : List Char → List Char × List Char
  | [] => ([], [])
  | c :: rest =>
      if c = 'e' ∨ c = 'E' then
        let (sign, rest') := readSign rest
        let (digits, after) := spanDigits rest'
        if digits = [] then ([], c :: rest) else ('e' :: (sign ++ digits), after)
      else ([], c :: rest)

/-- A float that is written with these characters, if one can be. -/
def FloatText.ofChars? (cs : List Char) : Option FloatText :=
  if h : cs.head?.any (fun c => c.isDigit || c ∈ ['-', 'I', 'N']) = true ∧
      cs.all isNumberChar = true ∧ cs.any (· ∈ ['.', 'e', 'I', 'N']) = true then
    some {
      chars := cs
      starts := by
        obtain ⟨h, -, -⟩ := h
        cases cs with
        | nil => cases h
        | cons c rest => exact ⟨c, rest, rfl, by simpa using h⟩
      numeral := List.all_eq_true.mp h.2.1
      marked := by simpa using h.2.2 }
  else none

/-- The integer that digits denote, after a minus or not. -/
def intOfDigits (negative : Bool) (digits : List Char) : Int :=
  let n : Int := Nat.ofDigitChars 10 digits 0
  if negative then -n else n

/-- A number. An integer has no fraction and no exponent, and at most `limit` digits. -/
def readNumber (limit : Nat) (cs : List Char) : Option (Json × List Char) :=
  let negative := cs.head? == some '-'
  let (whole, rest) := readWhole (if negative then cs.drop 1 else cs)
  let (fraction, rest) := readFraction rest
  let (exponent, rest) := readExponent rest
  if whole = [] then none
  else if fraction = [] ∧ exponent = [] then
    if whole.length ≤ limit then some (.int (intOfDigits negative whole), rest) else none
  else
    (FloatText.ofChars? ((if negative then ['-'] else []) ++ whole ++ fraction ++ exponent)).map
      fun f => (.float f, rest)

/-! ## Values -/

/-- The rest of a word. -/
def readWord (word : List Char) (v : Json) (cs : List Char) : Option (Json × List Char) :=
  if word.isPrefixOf cs then some (v, cs.drop word.length) else none

def nanText : FloatText where
  chars := ['N', 'a', 'N']
  starts := ⟨_, _, rfl, by decide⟩
  numeral := List.all_eq_true.mp (by decide)
  marked := ⟨'N', .head _, by decide⟩

def infinityText (negative : Bool) : FloatText where
  chars := (if negative then ['-'] else []) ++ ['I', 'n', 'f', 'i', 'n', 'i', 't', 'y']
  starts := by cases negative <;> exact ⟨_, _, rfl, by decide⟩
  numeral := List.all_eq_true.mp (by cases negative <;> decide)
  marked := ⟨'I', List.mem_append_right _ (.head _), by decide⟩

/-- A dictionary of pairs: the last value of a name, in the place of the first. -/
def dictOf (fields : List (String × Json)) : List (String × Json) :=
  fields.foldl (fun d f => Dict.put f.1 f.2 d) []

variable (limit : Nat)

mutual

def readValue : (fuel : Nat) → List Char → Option (Json × List Char)
  | 0, _ => none
  | _ + 1, [] => none
  | fuel + 1, c :: rest =>
      if c = '"' then
        (readChars (rest.length + 1) rest).map fun (text, rest) => (.str (String.ofList text), rest)
      else if c = '[' then
        match skipBlanks rest with
        | ']' :: rest => some (.arr [], rest)
        | rest => (readItems fuel rest).map fun (items, rest) => (.arr items, rest)
      else if c = '\x7b' then
        match skipBlanks rest with
        | '\x7d' :: rest => some (.obj [], rest)
        | rest => (readFields fuel rest).map fun (fields, rest) => (.obj (dictOf fields), rest)
      else if c = 'n' then readWord ['u', 'l', 'l'] .null rest
      else if c = 't' then readWord ['r', 'u', 'e'] (.bool true) rest
      else if c = 'f' then readWord ['a', 'l', 's', 'e'] (.bool false) rest
      else if c = 'N' then readWord ['a', 'N'] (.float nanText) rest
      else if c = 'I' then
        readWord ['n', 'f', 'i', 'n', 'i', 't', 'y'] (.float (infinityText false)) rest
      else if c = '-' ∧ rest.head? = some 'I' then
        readWord ['I', 'n', 'f', 'i', 'n', 'i', 't', 'y'] (.float (infinityText true)) rest
      else readNumber limit (c :: rest)

/-- The items of an array that has some, up to and including its closing bracket. -/
def readItems : (fuel : Nat) → List Char → Option (List Json × List Char)
  | 0, _ => none
  | fuel + 1, cs =>
      (readValue fuel cs).bind fun (v, rest) =>
        match skipBlanks rest with
        | ']' :: rest => some ([v], rest)
        | ',' :: rest => (readItems fuel (skipBlanks rest)).map fun (vs, rest) => (v :: vs, rest)
        | _ => none

/-- The fields of an object that has some, up to and including its closing brace. -/
def readFields : (fuel : Nat) → List Char → Option (List (String × Json) × List Char)
  | 0, _ => none
  | fuel + 1, '"' :: cs =>
      (readChars (cs.length + 1) cs).bind fun (name, rest) =>
        match skipBlanks rest with
        | ':' :: rest =>
            (readValue fuel (skipBlanks rest)).bind fun (v, rest) =>
              match skipBlanks rest with
              | '\x7d' :: rest => some ([(String.ofList name, v)], rest)
              | ',' :: rest =>
                  (readFields fuel (skipBlanks rest)).map fun (fields, rest) =>
                    ((String.ofList name, v) :: fields, rest)
              | _ => none
        | _ => none
  | _ + 1, _ => none

end

/-- `json.loads`: one value, with blanks around it. -/
def loads (text : List Char) : Option Json :=
  (readValue limit (text.length + 1) (skipBlanks text)).bind fun (v, rest) =>
    if skipBlanks rest = [] then some v else none

/-! ## Strings that were written -/

theorem hexValue?_hexDigit : ∀ n < 16, hexValue? (hexDigit n) = some n := by
  decide

theorem readHex_unicodeEscape {n : Nat} (h : n < 0x10000) (rest : List Char) :
    readHex ((unicodeEscape n).drop 2 ++ rest) = some (n, rest) := by
  have hdigit : ∀ k, hexValue? (hexDigit (k % 16)) = some (k % 16) := fun k =>
    hexValue?_hexDigit _ (Nat.mod_lt _ (by decide))
  have hsum : 4096 * (n / 4096 % 16) + 256 * (n / 256 % 16) + 16 * (n / 16 % 16) + n % 16 = n := by
    omega
  simp only [unicodeEscape, List.drop_succ_cons, List.drop_zero, List.cons_append, List.nil_append,
    readHex, hdigit, Option.bind_eq_bind, Option.bind_some, hsum]
  rfl

theorem charOf?_toNat (c : Char) : charOf? c.toNat = some c := dif_pos c.valid

theorem readEscape_letter {e c : Char} (h : unescape e = some c) (rest : List Char) :
    readEscape (e :: rest) = some (c, rest) := by
  unfold readEscape
  split
  · next heq => cases heq
  · next heq =>
      cases heq
      cases h
  · next heq =>
      cases heq
      cases h
  · next heq =>
      cases heq
      rw [h]
      rfl

/-- A written character is read. -/
theorem readChar_escapeChar (c : Char) (rest : List Char) :
    readChar (escapeChar false c ++ rest) = some (c, rest) := by
  unfold escapeChar
  split
  · next e he => exact readEscape_letter (unescape_shortEscape he) rest
  · next hnone =>
      have hslash : c ≠ '\\' := by
        rintro rfl
        cases hnone
      split
      · next hcontrol =>
          have hhex := readHex_unicodeEscape (show c.toNat < 0x10000 by omega) rest
          have hplain : ¬(0xd800 ≤ c.toNat ∧ c.toNat ≤ 0xdbff) := by omega
          show (readHex ((unicodeEscape c.toNat).drop 2 ++ rest)).bind _ = _
          rw [hhex, Option.bind_some]
          show (if _ then _ else _) = _
          rw [if_neg hplain, charOf?_toNat]
          rfl
      · next hcontrol =>
          show (if c = '\\' then _ else _) = _
          rw [if_neg hslash]
          exact if_neg hcontrol

theorem escapeChar_head (c : Char) :
    ∃ e rest, escapeChar false c = e :: rest ∧ e ≠ '"' := by
  unfold escapeChar
  split
  · exact ⟨_, _, rfl, by decide⟩
  · next hnone =>
      split
      · exact ⟨_, _, rfl, by decide⟩
      · refine ⟨c, [], rfl, ?_⟩
        rintro rfl
        cases hnone

/-- **A written string is read.** -/
theorem readChars_quote (cs rest : List Char) {fuel : Nat} (h : cs.length < fuel) :
    readChars fuel (cs.flatMap (escapeChar false) ++ '"' :: rest) = some (cs, rest) := by
  induction cs generalizing fuel with
  | nil =>
      obtain ⟨fuel, rfl⟩ := Nat.exists_eq_add_of_lt h
      rfl
  | cons c cs ih =>
      obtain ⟨fuel, rfl⟩ : ∃ k, fuel = k + 1 := ⟨fuel - 1, by omega⟩
      obtain ⟨e, tail, he, hquote⟩ := escapeChar_head c
      have hchar := readChar_escapeChar c (cs.flatMap (escapeChar false) ++ '"' :: rest)
      rw [List.flatMap_cons, List.append_assoc]
      rw [he, List.cons_append] at hchar ⊢
      rw [readChars, if_neg hquote, hchar]
      show (readChars fuel _).bind _ = _
      rw [ih (by simpa using h)]
      rfl

theorem length_le_flatMap_escapeChar (cs : List Char) :
    cs.length ≤ (cs.flatMap (escapeChar false)).length := by
  induction cs with
  | nil => exact Nat.le_refl _
  | cons c cs ih =>
      obtain ⟨e, tail, he, -⟩ := escapeChar_head c
      rw [List.flatMap_cons, he, List.length_append, List.length_cons, List.length_cons]
      omega

/-! ## Numbers that were written -/

/-- Nothing, or a character that is none of these. -/
def NoHead (p : Char → Bool) (cs : List Char) : Prop := ∀ c, cs.head? = some c → p c = false

theorem Stops.noHead {r : List Char} (h : Stops r) {p : Char → Bool} (hcomma : p ',' = false)
    (hbracket : p ']' = false) (hbrace : p '\x7d' = false) : NoHead p r := by
  intro c hc
  rcases h c hc with rfl | rfl | rfl
  · exact hcomma
  · exact hbracket
  · exact hbrace

theorem spanDigits_append {digits r : List Char} (hdigits : ∀ c ∈ digits, c.isDigit = true)
    (hr : NoHead Char.isDigit r) : spanDigits (digits ++ r) = (digits, r) := by
  have htake : r.takeWhile Char.isDigit = [] := by
    cases r with
    | nil => rfl
    | cons c r => rw [List.takeWhile_cons_of_neg (by simp [hr c rfl])]
  have hdrop : r.dropWhile Char.isDigit = r := by
    cases r with
    | nil => rfl
    | cons c r => rw [List.dropWhile_cons_of_neg (by simp [hr c rfl])]
  rw [spanDigits, List.takeWhile_append_of_pos hdigits, List.dropWhile_append_of_pos hdigits, htake,
    hdrop, List.append_nil]

/-- The whole part of a number. -/
def IsWhole (cs : List Char) : Prop :=
  cs = ['0'] ∨ cs ≠ [] ∧ cs.head? ≠ some '0' ∧ ∀ c ∈ cs, c.isDigit = true

def IsFraction (cs : List Char) : Prop :=
  cs = [] ∨ ∃ digits, cs = '.' :: digits ∧ digits ≠ [] ∧ ∀ c ∈ digits, c.isDigit = true

def IsExponent (cs : List Char) : Prop :=
  cs = [] ∨ ∃ sign digits, cs = 'e' :: (sign ++ digits) ∧ sign ∈ [[], ['+'], ['-']] ∧ digits ≠ [] ∧
    ∀ c ∈ digits, c.isDigit = true

/-- A float that is written as a number, as all are but the infinities and `NaN`. -/
def FloatText.IsNumeral (f : FloatText) : Prop :=
  ∃ (negative : Bool) (whole fraction exponent : List Char),
    IsWhole whole ∧ IsFraction fraction ∧ IsExponent exponent ∧
    ¬(fraction = [] ∧ exponent = []) ∧
    f.chars = (if negative then ['-'] else []) ++ whole ++ fraction ++ exponent

theorem readWhole_append {whole r : List Char} (h : IsWhole whole) (hr : NoHead Char.isDigit r) :
    readWhole (whole ++ r) = (whole, r) := by
  rcases h with rfl | ⟨hne, hhead, hdigits⟩
  · rfl
  · cases whole with
    | nil => exact absurd rfl hne
    | cons c whole =>
        have hzero : c ≠ '0' := by
          rintro rfl
          exact hhead rfl
        rw [← spanDigits_append hdigits hr, List.cons_append]
        unfold readWhole
        split
        · next heq =>
            cases heq
            exact absurd rfl hzero
        · rfl

theorem readFraction_append {fraction r : List Char} (h : IsFraction fraction)
    (hr : NoHead (fun c => c.isDigit || c == '.') r) :
    readFraction (fraction ++ r) = (fraction, r) := by
  rcases h with rfl | ⟨digits, rfl, hne, hdigits⟩
  · rw [List.nil_append]
    unfold readFraction
    split
    · have hpoint := hr '.' rfl
      cases hpoint
    · rfl
  · have hspan := spanDigits_append hdigits
      (fun c hc => (Bool.or_eq_false_iff.mp (hr c hc)).1)
    rw [List.cons_append, readFraction, hspan]
    exact if_neg hne

theorem readSign_append {sign digits r : List Char} (h : sign ∈ [[], ['+'], ['-']])
    (hne : digits ≠ []) (hdigits : ∀ c ∈ digits, c.isDigit = true) :
    readSign (sign ++ (digits ++ r)) = (sign, digits ++ r) := by
  simp only [List.mem_cons, List.not_mem_nil, or_false] at h
  rcases h with rfl | rfl | rfl
  · cases digits with
    | nil => exact absurd rfl hne
    | cons d digits =>
        have hd := hdigits d List.mem_cons_self
        unfold readSign
        split
        · next heq =>
            cases heq
            cases hd
        · next heq =>
            cases heq
            cases hd
        · rfl
  · rfl
  · rfl

theorem readExponent_append {exponent r : List Char} (h : IsExponent exponent)
    (hr : NoHead (fun c => c.isDigit || c == 'e' || c == 'E') r) :
    readExponent (exponent ++ r) = (exponent, r) := by
  rcases h with rfl | ⟨sign, digits, rfl, hsign, hne, hdigits⟩
  · rw [List.nil_append]
    cases r with
    | nil => rfl
    | cons c r =>
        have hc := hr c rfl
        have hletter : ¬(c = 'e' ∨ c = 'E') := by
          simp only [Bool.or_eq_false_iff, beq_eq_false_iff_ne] at hc
          exact fun h => h.elim hc.1.2 hc.2
        rw [readExponent, if_neg hletter]
  · have hspan := @spanDigits_append digits r hdigits (by
      intro c hc
      have hnone := hr c hc
      simp only [Bool.or_eq_false_iff] at hnone
      exact hnone.1.1)
    rw [List.cons_append, List.append_assoc, readExponent, if_pos (.inl rfl),
      readSign_append hsign hne hdigits]
    dsimp only
    rw [hspan]
    exact if_neg hne

theorem IsWhole.spec {whole : List Char} (h : IsWhole whole) :
    whole ≠ [] ∧ ∀ c ∈ whole, c.isDigit = true := by
  rcases h with rfl | ⟨hne, -, hdigits⟩
  · exact ⟨by simp, by simp⟩
  · exact ⟨hne, hdigits⟩

/-- What a number is read as, part by part. -/
theorem readNumber_append {negative : Bool} {whole fraction exponent r : List Char}
    (hwhole : IsWhole whole) (hfraction : IsFraction fraction) (hexponent : IsExponent exponent)
    (hr : Stops r) :
    readNumber limit ((if negative then ['-'] else []) ++ whole ++ fraction ++ exponent ++ r) =
      if fraction = [] ∧ exponent = [] then
        if whole.length ≤ limit then some (.int (intOfDigits negative whole), r) else none
      else
        (FloatText.ofChars? ((if negative then ['-'] else []) ++ whole ++ fraction ++ exponent)).map
          fun f => (.float f, r) := by
  have hexponentHead : NoHead (fun c => c.isDigit || c == '.') (exponent ++ r) := by
    rcases hexponent with rfl | ⟨sign, digits, rfl, -⟩
    · exact hr.noHead rfl rfl rfl
    · rintro c ⟨⟩
      rfl
  have hfractionHead : NoHead Char.isDigit (fraction ++ (exponent ++ r)) := by
    rcases hfraction with rfl | ⟨digits, rfl, -⟩
    · exact fun c hc => (Bool.or_eq_false_iff.mp (hexponentHead c hc)).1
    · rintro c ⟨⟩
      rfl
  have hsign : ∀ cs,
      cs = (if negative then ['-'] else []) ++ (whole ++ (fraction ++ (exponent ++ r))) →
      (cs.head? == some '-') = negative ∧
        (if negative = true then cs.drop 1 else cs) = whole ++ (fraction ++ (exponent ++ r)) := by
    rintro cs rfl
    obtain ⟨hne, hdigits⟩ := hwhole.spec
    cases negative with
    | true => exact ⟨rfl, rfl⟩
    | false =>
        cases whole with
        | nil => exact absurd rfl hne
        | cons c whole =>
            have hc := hdigits c List.mem_cons_self
            have hminus : (some c == some '-') = false := by
              rw [beq_eq_false_iff_ne]
              rintro ⟨⟩
              cases hc
            exact ⟨hminus, rfl⟩
  obtain ⟨hminus, hrest⟩ := hsign _ rfl
  rw [List.append_assoc, List.append_assoc, List.append_assoc, readNumber]
  dsimp only
  rw [hminus, hrest, readWhole_append hwhole hfractionHead]
  dsimp only
  rw [readFraction_append hfraction hexponentHead]
  dsimp only
  rw [readExponent_append hexponent (hr.noHead rfl rfl rfl)]
  dsimp only
  rw [if_neg hwhole.spec.1, List.append_assoc, List.append_assoc]

theorem toDigits_head {n : Nat} (h : 0 < n) : (Nat.toDigits 10 n).head? ≠ some '0' := by
  induction n using Nat.strong_induction_on with
  | _ n ih =>
      rcases Nat.lt_or_ge n 10 with hlt | hge
      · have hall : ∀ d : Fin 10, 0 < d.val → [Nat.digitChar d.val].head? ≠ some '0' := by decide
        rw [Nat.toDigits_of_lt_base hlt]
        exact hall ⟨n, hlt⟩ h
      · rw [Nat.toDigits_of_base_le (by decide) hge, List.head?_append]
        have hhead := ih (n / 10) (by omega) (by omega)
        cases hdigits : Nat.toDigits 10 (n / 10) with
        | nil => exact absurd hdigits Nat.toDigits_ne_nil
        | cons c digits =>
            rw [hdigits] at hhead
            simpa using hhead

theorem isWhole_toDigits (n : Nat) : IsWhole (Nat.toDigits 10 n) := by
  rcases Nat.eq_zero_or_pos n with rfl | hpos
  · exact .inl rfl
  · refine .inr ⟨Nat.toDigits_ne_nil, toDigits_head hpos, ?_⟩
    intro c hc
    exact Nat.isDigit_of_mem_toDigits (by decide) (by decide) hc

/-- **A written integer is read**, up to the limit on its digits. -/
theorem readNumber_renderInt {n : Int} (hn : (Nat.toDigits 10 n.natAbs).length ≤ limit)
    {r : List Char} (hr : Stops r) :
    readNumber limit (renderInt n ++ r) = some (.int n, r) := by
  have hvalue : Nat.ofDigitChars 10 (Nat.toDigits 10 n.natAbs) 0 = n.natAbs :=
    Nat.ofDigitChars_ten_toDigits
  have hread : readNumber limit ((if decide (n < 0) then ['-'] else []) ++
      Nat.toDigits 10 n.natAbs ++ [] ++ [] ++ r) =
      some (.int (intOfDigits (decide (n < 0)) (Nat.toDigits 10 n.natAbs)), r) := by
    rw [readNumber_append limit (isWhole_toDigits _) (.inl rfl) (.inl rfl) hr]
    exact (if_pos ⟨rfl, rfl⟩).trans (if_pos hn)
  rw [List.append_nil, List.append_nil, intOfDigits, hvalue] at hread
  rw [renderInt]
  by_cases hneg : n < 0
  · have hsigned : -((n.natAbs : Nat) : Int) = n := by omega
    simpa only [hneg, decide_true, if_true, List.singleton_append, hsigned] using hread
  · have hsigned : ((n.natAbs : Nat) : Int) = n := by omega
    simpa only [hneg, decide_false, if_false, Bool.false_eq_true, List.nil_append, hsigned]
      using hread

theorem FloatText.ofChars?_chars (f : FloatText) : FloatText.ofChars? f.chars = some f := by
  obtain ⟨c, rest, hchars, hc⟩ := f.starts
  have hmarked : f.chars.any (· ∈ ['.', 'e', 'I', 'N']) = true := by
    simpa using f.marked
  apply dif_pos
  refine ⟨?_, List.all_eq_true.mpr f.numeral, hmarked⟩
  rw [hchars]
  simpa using hc

/-- **A written float is read.** -/
theorem readNumber_chars {f : FloatText} (hf : f.IsNumeral) {r : List Char} (hr : Stops r) :
    readNumber limit (f.chars ++ r) = some (.float f, r) := by
  obtain ⟨negative, whole, fraction, exponent, hwhole, hfraction, hexponent, hparts, hchars⟩ := hf
  have hread := @readNumber_append limit negative _ _ _ r hwhole hfraction hexponent hr
  rw [if_neg hparts, ← hchars, f.ofChars?_chars] at hread
  exact hread

/-! ## Values that were written -/

mutual

/-- What a writer can have written: integers within the limit, floats that are numerals, and
distinct names in each object. -/
def Json.Readable : Json → Prop
  | .int n => (Nat.toDigits 10 n.natAbs).length ≤ limit
  | .float f => f.IsNumeral
  | .arr items => readableItems items
  | .obj fields => (fields.map Prod.fst).Nodup ∧ readableFields fields
  | _ => True

def readableItems : List Json → Prop
  | [] => True
  | v :: vs => v.Readable ∧ readableItems vs

def readableFields : List (String × Json) → Prop
  | [] => True
  | (_, v) :: rest => v.Readable ∧ readableFields rest

end

theorem put_new {key : String} {value : Json} {items : List (String × Json)}
    (h : key ∉ items.map Prod.fst) : Dict.put key value items = items ++ [(key, value)] := by
  induction items with
  | nil => rfl
  | cons item items ih =>
      rw [List.map_cons, List.mem_cons, not_or] at h
      rw [Dict.put, if_neg (Ne.symm h.1), ih h.2]
      rfl

/-- Distinct names stay as they are. -/
theorem dictOf_eq {fields : List (String × Json)} (h : (fields.map Prod.fst).Nodup) :
    dictOf fields = fields := by
  have hfold : ∀ (fields acc : List (String × Json)), ((acc ++ fields).map Prod.fst).Nodup →
      fields.foldl (fun d f => Dict.put f.1 f.2 d) acc = acc ++ fields := by
    intro fields
    induction fields with
    | nil => simp
    | cons field fields ih =>
        intro acc hnodup
        have hnew : field.1 ∉ acc.map Prod.fst := by
          rw [List.map_append, List.map_cons, List.nodup_middle, List.nodup_cons] at hnodup
          exact fun hmem => hnodup.1 (List.mem_append_left _ hmem)
        rw [List.foldl_cons, put_new hnew]
        rw [ih _ (by simpa using hnodup)]
        simp
  exact hfold fields [] h

theorem mem_dictOf {fields : List (String × Json)} {f : String × Json} (h : f ∈ dictOf fields) :
    f ∈ fields := by
  have hput : ∀ (g : String × Json) (acc : List (String × Json)), f ∈ Dict.put g.1 g.2 acc →
      f = g ∨ f ∈ acc := by
    intro g acc
    induction acc with
    | nil => simp [Dict.put]
    | cons item acc ih =>
        rw [Dict.put]
        split
        · rename_i hkey
          intro hmem
          rcases List.mem_cons.mp hmem with rfl | hmem
          · exact .inl (Prod.ext hkey rfl)
          · exact .inr (List.mem_cons_of_mem _ hmem)
        · intro hmem
          rcases List.mem_cons.mp hmem with rfl | hmem
          · exact .inr (List.mem_cons_self ..)
          · exact (ih hmem).imp_right (List.mem_cons_of_mem _)
  have hfold : ∀ (fields acc : List (String × Json)),
      f ∈ fields.foldl (fun d g => Dict.put g.1 g.2 d) acc → f ∈ acc ∨ f ∈ fields := by
    intro fields
    induction fields with
    | nil => exact fun acc hmem => .inl hmem
    | cons g fields ih =>
        intro acc hmem
        rcases ih _ hmem with hmem | hmem
        · rcases hput g acc hmem with rfl | hmem
          · exact .inr (List.mem_cons_self ..)
          · exact .inl hmem
        · exact .inr (List.mem_cons_of_mem _ hmem)
  exact (hfold fields [] h).resolve_left (List.not_mem_nil)

/-- A dictionary has each name once. -/
theorem nodup_dictOf (fields : List (String × Json)) :
    ((dictOf fields).map Prod.fst).Nodup := by
  have hfold : ∀ (fields acc : List (String × Json)), (acc.map Prod.fst).Nodup →
      ((fields.foldl (fun d g => Dict.put g.1 g.2 d) acc).map Prod.fst).Nodup := by
    intro fields
    induction fields with
    | nil => exact fun acc h => h
    | cons g fields ih => exact fun acc h => ih _ (Dict.nodup_put h)
  exact hfold fields [] List.nodup_nil

theorem skipBlanks_cons {c : Char} {rest : List Char} (h : isBlank c = false) :
    skipBlanks (c :: rest) = c :: rest := List.dropWhile_cons_of_neg (by simp [h])

/-- A value's text begins with what is no blank and no closing bracket. -/
theorem render_cons (v : Json) :
    ∃ c rest, v.render false = c :: rest ∧ isBlank c = false ∧ c ≠ ']' := by
  obtain ⟨c, rest, hrender, hkind⟩ := render_head false v
  have hless : kind v ≠ 7 := by
    cases v with
    | bool b => cases b <;> decide
    | _ => simp [kind]
  have hother : kindOfChar c ≠ 7 := by rwa [hkind]
  refine ⟨c, rest, hrender, ?_, ?_⟩
  · by_contra hblank
    have htrue : isBlank c = true := by simpa only [Bool.not_eq_false] using hblank
    have hmem : c ∈ [' ', '\t', '\n', '\r'] := of_decide_eq_true htrue
    have hall : [' ', '\t', '\n', '\r'].all fun d => kindOfChar d == 7 := by decide
    exact hother (eq_of_beq (List.all_eq_true.mp hall c hmem))
  · rintro rfl
    exact hother (by decide)

theorem renderItems_cons (v : Json) (vs : List Json) :
    renderItems false true (v :: vs) = v.render false ++ renderItems false false vs := rfl

/-- The beginning of a number that is no infinity. -/
def NumberStart (cs : List Char) : Prop :=
  ∃ c rest, cs = c :: rest ∧ (c.isDigit = true ∨ c = '-' ∧ rest.head? ≠ some 'I')

theorem readValue_number {cs : List Char} (h : NumberStart cs) (fuel : Nat) :
    readValue limit (fuel + 1) cs = readNumber limit cs := by
  obtain ⟨c, rest, rfl, hc⟩ := h
  have hne : ∀ d ∈ ['"', '[', '\x7b', 'n', 't', 'f', 'N', 'I'], c ≠ d := by
    have hall : ['"', '[', '\x7b', 'n', 't', 'f', 'N', 'I'].all fun d => !d.isDigit && d != '-' := by
      decide
    intro d hd hcd
    have hd := List.all_eq_true.mp hall d hd
    simp only [Bool.and_eq_true, Bool.not_eq_true', bne_iff_ne] at hd
    obtain ⟨hdigit, hminus⟩ := hd
    rcases hc with hc | ⟨hc, -⟩
    · rw [hcd, hdigit] at hc
      cases hc
    · exact hminus (hcd.symm.trans hc)
  have hinfinity : ¬(c = '-' ∧ rest.head? = some 'I') := by
    intro ⟨hminus, hhead⟩
    rcases hc with hc | ⟨-, hc⟩
    · rw [hminus] at hc
      cases hc
    · exact hc hhead
  simp only [List.mem_cons, List.not_mem_nil, or_false, forall_eq_or_imp, forall_eq] at hne
  obtain ⟨h₁, h₂, h₃, h₄, h₅, h₆, h₇, h₈⟩ := hne
  rw [readValue, if_neg h₁, if_neg h₂, if_neg h₃, if_neg h₄, if_neg h₅, if_neg h₆, if_neg h₇,
    if_neg h₈, if_neg hinfinity]

theorem numberStart_whole {negative : Bool} {whole r : List Char} (h : IsWhole whole) :
    NumberStart ((if negative then ['-'] else []) ++ whole ++ r) := by
  obtain ⟨hne, hdigits⟩ := h.spec
  cases whole with
  | nil => exact absurd rfl hne
  | cons c whole =>
      have hc := hdigits c List.mem_cons_self
      cases negative with
      | false => exact ⟨c, _, rfl, .inl hc⟩
      | true =>
          refine ⟨'-', _, rfl, .inr ⟨rfl, ?_⟩⟩
          rintro ⟨⟩
          cases hc

theorem numberStart_renderInt (n : Int) (r : List Char) : NumberStart (renderInt n ++ r) := by
  have hstart := @numberStart_whole (decide (n < 0)) _ r (isWhole_toDigits n.natAbs)
  unfold renderInt
  by_cases hneg : n < 0
  · simpa [hneg] using hstart
  · simpa [hneg] using hstart

theorem numberStart_chars {f : FloatText} (hf : f.IsNumeral) (r : List Char) :
    NumberStart (f.chars ++ r) := by
  obtain ⟨negative, whole, fraction, exponent, hwhole, -, -, -, hchars⟩ := hf
  rw [hchars, List.append_assoc, List.append_assoc]
  exact numberStart_whole hwhole

mutual

/-- A written value is read, with as much fuel as it has characters. The induction is on the
value. -/
theorem readValue_render : ∀ {v : Json} {fuel : Nat} {r : List Char}, v.Readable limit → Stops r →
    (v.render false).length ≤ fuel → readValue limit fuel (v.render false ++ r) = some (v, r)
  | .null, fuel, r, _, _, h => by
      obtain ⟨fuel, rfl⟩ : ∃ k, fuel = k + 1 := ⟨fuel - 1, by simp [Json.render] at h; omega⟩
      rfl
  | .bool b, fuel, r, _, _, h => by
      obtain ⟨fuel, rfl⟩ : ∃ k, fuel = k + 1 :=
        ⟨fuel - 1, by cases b <;> simp [Json.render] at h <;> omega⟩
      cases b with
      | true => rfl
      | false => rfl
  | .int n, fuel, r, hv, hr, h => by
      have hstart := numberStart_renderInt n []
      obtain ⟨c, rest, hrender, -⟩ := hstart
      rw [List.append_nil] at hrender
      obtain ⟨fuel, rfl⟩ : ∃ k, fuel = k + 1 :=
        ⟨fuel - 1, by rw [Json.render, hrender] at h; simp at h; omega⟩
      show readValue limit (fuel + 1) (renderInt n ++ r) = _
      rw [readValue_number limit (numberStart_renderInt n r), readNumber_renderInt limit hv hr]
  | .float f, fuel, r, hv, hr, h => by
      obtain ⟨c, rest, hchars, -⟩ := f.starts
      obtain ⟨fuel, rfl⟩ : ∃ k, fuel = k + 1 :=
        ⟨fuel - 1, by rw [Json.render, hchars] at h; simp at h; omega⟩
      show readValue limit (fuel + 1) (f.chars ++ r) = _
      rw [readValue_number limit (numberStart_chars hv r), readNumber_chars limit hv hr]
  | .str s, fuel, r, _, _, h => by
      obtain ⟨fuel, rfl⟩ : ∃ k, fuel = k + 1 := ⟨fuel - 1, by simp [Json.render, quote] at h; omega⟩
      have hlength := length_le_flatMap_escapeChar s.toList
      have htext : (Json.str s).render false ++ r =
          '"' :: (s.toList.flatMap (escapeChar false) ++ '"' :: r) := by
        simp [Json.render, quote]
      rw [htext, readValue, if_pos rfl, readChars_quote]
      · simp
      · rw [List.length_append]
        omega
  | .arr [], fuel, r, _, _, h => by
      obtain ⟨fuel, rfl⟩ : ∃ k, fuel = k + 1 :=
        ⟨fuel - 1, by simp [Json.render, renderItems] at h; omega⟩
      rfl
  | .arr (v :: vs), fuel, r, hv, _, h => by
      obtain ⟨fuel, rfl⟩ : ∃ k, fuel = k + 1 := ⟨fuel - 1, by simp [Json.render] at h; omega⟩
      obtain ⟨hv, hvs⟩ := hv
      obtain ⟨c, rest, hrender, hblank, hbracket⟩ := render_cons v
      have hitems := @readItems_render (v :: vs) fuel r (List.cons_ne_nil _ _) ⟨hv, hvs⟩
        (Nat.le_of_succ_le_succ h)
      rw [renderItems_cons, hrender, List.cons_append, List.cons_append] at hitems
      show (match skipBlanks ((v.render false ++ renderItems false false vs) ++ r) with
        | ']' :: rest => some (Json.arr [], rest)
        | rest => (readItems limit fuel rest).map fun (items, rest) => (.arr items, rest)) = _
      rw [hrender, List.cons_append, List.cons_append, skipBlanks_cons hblank]
      split
      · next heq =>
          obtain ⟨rfl, -⟩ := List.cons.inj heq
          exact absurd rfl hbracket
      · rw [hitems]
        rfl
  | .obj [], fuel, r, _, _, h => by
      obtain ⟨fuel, rfl⟩ : ∃ k, fuel = k + 1 :=
        ⟨fuel - 1, by simp [Json.render, renderFields] at h; omega⟩
      rfl
  | .obj ((name, v) :: fields), fuel, r, hv, _, h => by
      obtain ⟨fuel, rfl⟩ : ∃ k, fuel = k + 1 := ⟨fuel - 1, by simp [Json.render] at h; omega⟩
      obtain ⟨hnodup, hv, hfields⟩ := hv
      have hread := @readFields_render ((name, v) :: fields) fuel r (List.cons_ne_nil _ _)
        ⟨hv, hfields⟩ (Nat.le_of_succ_le_succ h)
      have hblank : skipBlanks (renderFields false true ((name, v) :: fields) ++ r) =
          renderFields false true ((name, v) :: fields) ++ r := skipBlanks_cons rfl
      show (match skipBlanks (renderFields false true ((name, v) :: fields) ++ r) with
        | '\x7d' :: rest => some (Json.obj [], rest)
        | rest => (readFields limit fuel rest).map fun (fields, rest) =>
            (.obj (dictOf fields), rest)) = _
      rw [hblank]
      split
      · next heq => cases (List.cons.inj heq).1
      · rw [hread, Option.map_some]
        dsimp only
        rw [dictOf_eq hnodup]

theorem readItems_render : ∀ {items : List Json} {fuel : Nat} {r : List Char}, items ≠ [] →
    readableItems limit items → (renderItems false true items).length ≤ fuel →
    readItems limit fuel (renderItems false true items ++ r) = some (items, r)
  | [], _, _, h, _, _ => absurd rfl h
  | [v], fuel, r, _, hv, h => by
      obtain ⟨fuel, rfl⟩ : ∃ k, fuel = k + 1 := ⟨fuel - 1, by simp [renderItems] at h; omega⟩
      have hread := @readValue_render v fuel (']' :: r) hv.1 (stops_renderItems false [] r)
        (by simp [renderItems, comma] at h; omega)
      have htext : renderItems false true [v] ++ r = v.render false ++ ']' :: r := by
        simp [renderItems, comma]
      rw [htext, readItems, hread]
      rfl
  | v :: w :: vs, fuel, r, _, hv, h => by
      obtain ⟨fuel, rfl⟩ : ∃ k, fuel = k + 1 :=
        ⟨fuel - 1, by simp [renderItems, comma] at h; omega⟩
      obtain ⟨c, rest, hrender, hblank, -⟩ := render_cons w
      have hread := @readValue_render v fuel (renderItems false false (w :: vs) ++ r) hv.1
        (stops_renderItems false _ r) (by simp [renderItems, comma] at h; omega)
      have hitems := @readItems_render (w :: vs) fuel r (List.cons_ne_nil _ _) hv.2
        (by simp [renderItems, comma] at h ⊢; omega)
      have htext : renderItems false true (v :: w :: vs) ++ r =
          v.render false ++ (renderItems false false (w :: vs) ++ r) := by
        rw [renderItems_cons, List.append_assoc]
      have hskip : skipBlanks (renderItems false true (w :: vs) ++ r) =
          renderItems false true (w :: vs) ++ r := by
        rw [renderItems_cons, hrender, List.cons_append, List.cons_append, skipBlanks_cons hblank]
      rw [htext, readItems, hread, Option.bind_some]
      show (readItems limit fuel (skipBlanks (renderItems false true (w :: vs) ++ r))).map _ = _
      rw [hskip, hitems]
      rfl

theorem readFields_render : ∀ {fields : List (String × Json)} {fuel : Nat} {r : List Char},
    fields ≠ [] → readableFields limit fields → (renderFields false true fields).length ≤ fuel →
    readFields limit fuel (renderFields false true fields ++ r) = some (fields, r)
  | [], _, _, h, _, _ => absurd rfl h
  | (name, v) :: fields, fuel, r, _, hv, h => by
      obtain ⟨hv, hfields⟩ := hv
      obtain ⟨fuel, rfl⟩ : ∃ k, fuel = k + 1 :=
        ⟨fuel - 1, by simp [renderFields, comma, quote] at h; omega⟩
      obtain ⟨c, rest, hrender, hblank, -⟩ := render_cons v
      have hname := length_le_flatMap_escapeChar name.toList
      have hread := @readValue_render v fuel (renderFields false false fields ++ r) hv
        (stops_renderFields false _ r)
        (by
          simp only [renderFields, List.length_append, List.length_cons] at h
          omega)
      rw [hrender, List.cons_append] at hread
      have htext : renderFields false true ((name, v) :: fields) ++ r =
          '"' :: (name.toList.flatMap (escapeChar false) ++
            '"' :: (':' :: (v.render false ++ (renderFields false false fields ++ r)))) := by
        simp [renderFields, comma, quote]
      have hvalue : (readValue limit fuel
          (skipBlanks (v.render false ++ (renderFields false false fields ++ r)))) =
          some (v, renderFields false false fields ++ r) := by
        rw [hrender, List.cons_append, skipBlanks_cons hblank, hread]
      rw [htext, readFields, readChars_quote]
      · rw [Option.bind_some]
        show (readValue limit fuel
          (skipBlanks (v.render false ++ (renderFields false false fields ++ r)))).bind _ = _
        rw [hvalue, Option.bind_some]
        cases fields with
        | nil =>
            show some ([(String.ofList name.toList, v)], r) = _
            rw [String.ofList_toList]
        | cons field fields =>
            obtain ⟨name', w⟩ := field
            have hlater := @readFields_render ((name', w) :: fields) fuel r (List.cons_ne_nil _ _)
              hfields
              (by
                simp only [renderFields, comma, List.length_append, List.length_cons] at h ⊢
                omega)
            show (readFields limit fuel
              (skipBlanks (renderFields false true ((name', w) :: fields) ++ r))).map _ = _
            have hquote : skipBlanks (renderFields false true ((name', w) :: fields) ++ r) =
                renderFields false true ((name', w) :: fields) ++ r := skipBlanks_cons rfl
            rw [hquote, hlater, Option.map_some, String.ofList_toList]
      · rw [List.length_append]
        omega

end

/-! ## Documents that were written -/

theorem readableFields_iff {fields : List (String × Json)} :
    readableFields limit fields ↔ ∀ f ∈ fields, f.2.Readable limit := by
  induction fields with
  | nil => simp [readableFields]
  | cons f fields ih => rw [readableFields, ih, List.forall_mem_cons]

theorem readableItems_iff {items : List Json} :
    readableItems limit items ↔ ∀ v ∈ items, v.Readable limit := by
  induction items with
  | nil => simp [readableItems]
  | cons v items ih => rw [readableItems, ih, List.forall_mem_cons]

theorem perm_sortFields (fields : List (String × Json)) : (sortFields fields).Perm fields :=
  List.perm_insertionSort _ _

theorem keys_canonFields (fields : List (String × Json)) :
    (canonFields fields).map Prod.fst = fields.map Prod.fst := by
  rw [canonFields_eq_map, List.map_map]
  rfl

mutual

theorem readable_canon : ∀ {v : Json}, v.Readable limit → v.canon.Readable limit
  | .null, _ | .bool _, _ | .str _, _ => trivial
  | .int _, h | .float _, h => h
  | .arr _, h => readableItems_canon h
  | .obj fields, ⟨hnodup, hfields⟩ => by
      have hperm := perm_sortFields (canonFields fields)
      constructor
      · rw [(hperm.map Prod.fst).nodup_iff, keys_canonFields]
        exact hnodup
      · rw [readableFields_iff]
        intro f hf
        exact (readableFields_iff limit).mp (readableFields_canon hfields) f (hperm.subset hf)

theorem readableItems_canon : ∀ {items : List Json}, readableItems limit items →
    readableItems limit (canonItems items)
  | [], _ => trivial
  | _ :: _, h => ⟨readable_canon h.1, readableItems_canon h.2⟩

theorem readableFields_canon : ∀ {fields : List (String × Json)}, readableFields limit fields →
    readableFields limit (canonFields fields)
  | [], _ => trivial
  | _ :: _, h => ⟨readable_canon h.1, readableFields_canon h.2⟩

end

/-- **What is written is read.** -/
theorem loads_dumps {v : Json} (h : v.Readable limit) :
    loads limit (dumps false v) = some v.canon := by
  obtain ⟨c, rest, hrender, hblank, -⟩ := render_cons v.canon
  have hread := @readValue_render limit v.canon ((dumps false v).length + 1) []
    (readable_canon limit h) (fun _ h => by cases h) (Nat.le_succ _)
  rw [List.append_nil] at hread
  have hskip : skipBlanks (dumps false v) = v.canon.render false := by
    rw [dumps, hrender, skipBlanks_cons hblank]
  rw [loads, hskip, hread]
  rfl

end BhDic.Library
