import BhDic.Python.Text

/-!
# Canonical scalar values

`canonicalDecimalText` writes a decimal text in the one way the application compares. The digits of
its argument may be those of any script, so the text is read to digits first.
-/

namespace BhDic.Dic

open BhDic.Python

/-- The text up to the first point, and what follows it, if there is one. -/
def partitionPoint : List Char → List Char × Option (List Char)
  | [] => ([], none)
  | c :: cs =>
      if c = '.' then ([], some cs)
      else
        let (integer, fraction) := partitionPoint cs
        (c :: integer, fraction)

/-- `str.isdigit` on a text. -/
def isDigitText (u : UnicodeData) (cs : List Char) : Bool := !cs.isEmpty && cs.all u.isDigit

/-- The digits `Decimal` reads, or nothing where it refuses a character. -/
def decimalDigits (u : UnicodeData) (cs : List Char) : Option (List (Fin 10)) :=
  cs.mapM u.decimalValue

def digitChars (digits : List (Fin 10)) : List Char := digits.map fun d : Fin 10 => Nat.digitChar d

/-- The integer digits `format(number, "f")` writes: no leading zero but a lone one. -/
def integerDigits (digits : List (Fin 10)) : List (Fin 10) :=
  match digits.dropWhile (· = 0) with
  | [] => [0]
  | digits => digits

/-- The fraction digits that remain after `rstrip("0")`. -/
def fractionDigits (digits : List (Fin 10)) : List (Fin 10) := digits.rdropWhile (· = 0)

/-- A canonical text without its sign. -/
def unsignedChars (integer fraction : List (Fin 10)) : List Char :=
  if fraction = [] then digitChars integer else digitChars integer ++ '.' :: digitChars fraction

/-- A canonical text; there is no negative zero. -/
def writeDecimal (negative : Bool) (integer fraction : List (Fin 10)) : List Char :=
  if negative ∧ ¬(integer = [0] ∧ fraction = []) then '-' :: unsignedChars integer fraction
  else unsignedChars integer fraction

/-- Whether a text starts with a minus sign, and the rest of it. -/
def readSign : List Char → Bool × List Char
  | '-' :: cs => (true, cs)
  | cs => (false, cs)

def canonicalDecimalError : Exn :=
  ⟨.valueError, "decimal value must use canonical base-10 notation"⟩

/-- What `canonical_decimal_text` asks of the syntax of an unsigned text. -/
def decimalSyntax (u : UnicodeData) (maxIntegerDigits maxDecimalPlaces : Nat)
    (integer : List Char) (fraction : Option (List Char)) : Prop :=
  isDigitText u integer ∧ ¬(integer.length > 1 ∧ integer.head? = some '0') ∧
    integer.length ≤ maxIntegerDigits ∧
    ∀ cs ∈ fraction, isDigitText u cs ∧ cs.length ≤ maxDecimalPlaces

instance (u : UnicodeData) (i d : Nat) (integer : List Char) (fraction : Option (List Char)) :
    Decidable (decimalSyntax u i d integer fraction) := by
  unfold decimalSyntax
  infer_instance

/-- `canonical_decimal_text`, for a text. -/
def canonicalDecimalText (u : UnicodeData) (value : String) (maxIntegerDigits maxDecimalPlaces : Nat) :
    Except Exn String :=
  let (negative, unsigned) := readSign (stripChars value.toList)
  let (integer, fraction) := partitionPoint unsigned
  if ¬decimalSyntax u maxIntegerDigits maxDecimalPlaces integer fraction then
    .error canonicalDecimalError
  else
    match decimalDigits u integer, decimalDigits u (fraction.getD []) with
    | some integer, some fraction =>
        .ok (String.ofList (writeDecimal negative (integerDigits integer)
          (fractionDigits fraction)))
    | _, _ => .error ⟨.valueError, "invalid decimal value"⟩

/-! ## A canonical text is read back as it is -/

section Canonical

variable {u : UnicodeData}

theorem digitChar_plain (d : Fin 10) :
    isSpace (Nat.digitChar d) = false ∧ Nat.digitChar d ≠ '-' ∧ Nat.digitChar d ≠ '.' := by
  revert d
  decide

theorem mem_digitChars {digits : List (Fin 10)} {c : Char} (h : c ∈ digitChars digits) :
    u.isDigit c = true ∧ isSpace c = false := by
  obtain ⟨d, -, rfl⟩ := List.mem_map.mp h
  exact ⟨u.isDigit_digitChar d, (digitChar_plain d).1⟩

theorem length_digitChars (digits : List (Fin 10)) : (digitChars digits).length = digits.length :=
  List.length_map _

theorem decimalDigits_digitChars (digits : List (Fin 10)) :
    decimalDigits u (digitChars digits) = some digits := by
  induction digits with
  | nil => rfl
  | cons d digits ih =>
      rw [decimalDigits] at ih
      rw [decimalDigits, digitChars, List.map_cons, List.mapM_cons, u.decimalValue_digitChar]
      show (do let ds ← (digitChars digits).mapM u.decimalValue; pure (d :: ds)) = some (d :: digits)
      rw [ih]
      rfl

theorem length_decimalDigits {cs : List Char} {digits : List (Fin 10)}
    (h : decimalDigits u cs = some digits) : digits.length = cs.length := by
  induction cs generalizing digits with
  | nil =>
      cases h
      rfl
  | cons c cs ih =>
      rw [decimalDigits, List.mapM_cons] at h
      cases hc : u.decimalValue c with
      | none =>
          rw [hc] at h
          cases h
      | some d =>
          cases hcs : cs.mapM u.decimalValue with
          | none =>
              rw [hc, hcs] at h
              cases h
          | some ds =>
              rw [hc, hcs] at h
              cases h
              rw [List.length_cons, List.length_cons, ih hcs]

theorem partitionPoint_digitChars (digits : List (Fin 10)) (rest : List Char) :
    partitionPoint (digitChars digits ++ '.' :: rest) = (digitChars digits, some rest) := by
  induction digits with
  | nil => rfl
  | cons d digits ih =>
      rw [digitChars, List.map_cons, List.cons_append, partitionPoint,
        if_neg (digitChar_plain d).2.2, ← digitChars, ih]

theorem partitionPoint_integer (digits : List (Fin 10)) :
    partitionPoint (digitChars digits) = (digitChars digits, none) := by
  induction digits with
  | nil => rfl
  | cons d digits ih =>
      rw [digitChars, List.map_cons, partitionPoint, if_neg (digitChar_plain d).2.2,
        ← digitChars, ih]

/-- What `format` and `rstrip` leave: the integer digits of a number without leading zeros. -/
structure Canonical (integer fraction : List (Fin 10)) : Prop where
  nonempty : integer ≠ []
  leading : integer.length > 1 → integer.head? ≠ some 0
  trailing : fraction.getLast? ≠ some 0

theorem canonical_digits (integer fraction : List (Fin 10)) :
    Canonical (integerDigits integer) (fractionDigits fraction) := by
  refine ⟨?_, ?_, ?_⟩
  · unfold integerDigits
    split
    · exact List.cons_ne_nil _ _
    · rename_i h
      exact fun hnil => h hnil
  · intro hlength
    unfold integerDigits at hlength ⊢
    split
    · rename_i h
      rw [h] at hlength
      exact absurd hlength (by decide)
    · rename_i h
      have hhead := List.head?_dropWhile_not (fun d : Fin 10 => decide (d = 0)) integer
      intro heq
      rw [heq] at hhead
      simp at hhead
  · intro hlast
    have hne : fractionDigits fraction ≠ [] := by
      intro hnil
      rw [hnil] at hlast
      cases hlast
    have hnot := List.rdropWhile_last_not (fun d : Fin 10 => decide (d = 0)) fraction hne
    rw [List.getLast?_eq_some_getLast hne, Option.some.injEq] at hlast
    exact hnot (decide_eq_true hlast)

theorem Canonical.integerDigits {integer fraction : List (Fin 10)}
    (h : Canonical integer fraction) : integerDigits integer = integer := by
  obtain ⟨hne, hleading, -⟩ := h
  cases integer with
  | nil => exact absurd rfl hne
  | cons d digits =>
      by_cases hd : d = 0
      · -- A leading zero stands alone.
        cases digits with
        | nil =>
            subst hd
            rfl
        | cons d' digits => exact absurd (by rw [hd]; rfl) (hleading (by simp))
      · simp [Dic.integerDigits, hd]

theorem Canonical.fractionDigits {integer fraction : List (Fin 10)}
    (h : Canonical integer fraction) : fractionDigits fraction = fraction := by
  rw [Dic.fractionDigits, List.rdropWhile_eq_self_iff]
  intro hne hzero
  apply h.trailing
  rw [List.getLast?_eq_some_getLast hne]
  simpa using hzero

theorem length_integerDigits {digits : List (Fin 10)} (h : digits ≠ []) :
    (Dic.integerDigits digits).length ≤ digits.length := by
  have hdrop := (List.dropWhile_sublist (l := digits) fun d => decide (d = 0)).length_le
  unfold Dic.integerDigits
  split
  · exact List.length_pos_of_ne_nil h
  · exact hdrop

theorem length_fractionDigits (digits : List (Fin 10)) :
    (Dic.fractionDigits digits).length ≤ digits.length :=
  (List.rdropWhile_prefix _ _).length_le

/-- The fraction `partitionPoint` finds in a canonical text. -/
def fractionPart (fraction : List (Fin 10)) : Option (List Char) :=
  if fraction = [] then none else some (digitChars fraction)

theorem partitionPoint_unsignedChars (integer fraction : List (Fin 10)) :
    partitionPoint (unsignedChars integer fraction) =
      (digitChars integer, fractionPart fraction) := by
  unfold unsignedChars fractionPart
  split
  · exact partitionPoint_integer integer
  · exact partitionPoint_digitChars integer _

theorem unsignedChars_head {integer fraction : List (Fin 10)} (h : integer ≠ []) :
    ∃ d : Fin 10, ∃ cs, unsignedChars integer fraction = Nat.digitChar d :: cs := by
  cases integer with
  | nil => exact absurd rfl h
  | cons d digits =>
      unfold unsignedChars
      split
      · exact ⟨d, _, rfl⟩
      · exact ⟨d, _, rfl⟩

theorem notSpace_unsignedChars {integer fraction : List (Fin 10)} {c : Char}
    (h : c ∈ unsignedChars integer fraction) : isSpace c = false := by
  have hdigits : ∀ {digits : List (Fin 10)}, c ∈ digitChars digits → isSpace c = false := by
    intro digits hc
    obtain ⟨d, -, rfl⟩ := List.mem_map.mp hc
    exact (digitChar_plain d).1
  unfold unsignedChars at h
  split at h
  · exact hdigits h
  · rcases List.mem_append.mp h with h | h
    · exact hdigits h
    · rcases List.mem_cons.mp h with rfl | h
      · decide
      · exact hdigits h

/-- A text without white space is already stripped. -/
theorem stripChars_writeDecimal (negative : Bool) (integer fraction : List (Fin 10)) :
    stripChars (writeDecimal negative integer fraction) = writeDecimal negative integer fraction := by
  have hplain : ∀ c ∈ writeDecimal negative integer fraction, isSpace c = false := by
    intro c hc
    unfold writeDecimal at hc
    split at hc
    · rcases List.mem_cons.mp hc with rfl | hc
      · decide
      · exact notSpace_unsignedChars hc
    · exact notSpace_unsignedChars hc
  refine stripChars_eq_self (fun c hc => hplain c ?_) (fun c hc => hplain c ?_)
  · exact List.mem_of_mem_head? hc
  · exact List.mem_of_getLast? hc

theorem readSign_unsignedChars {integer fraction : List (Fin 10)} (h : integer ≠ []) :
    readSign (unsignedChars integer fraction) = (false, unsignedChars integer fraction) := by
  obtain ⟨d, rest, hhead⟩ : ∃ d : Fin 10, ∃ cs,
      unsignedChars integer fraction = Nat.digitChar d :: cs := unsignedChars_head h
  rw [hhead]
  unfold readSign
  split
  · rename_i cs heq
    exact absurd (List.cons.inj heq).1 (digitChar_plain d).2.1
  · rfl

/-- The sign of a canonical text is read back. -/
theorem readSign_writeDecimal {negative : Bool} {integer fraction : List (Fin 10)}
    (h : integer ≠ []) :
    readSign (writeDecimal negative integer fraction) =
      (negative && !(decide (integer = [0] ∧ fraction = [])), unsignedChars integer fraction) := by
  unfold writeDecimal
  split
  · rename_i hsign
    simp [readSign, hsign]
  · rename_i hsign
    rw [readSign_unsignedChars h]
    cases negative
    · rfl
    · simp only [true_and, not_not] at hsign
      simp [hsign]

/-- Digits read, and trimmed to a canonical text, pass the syntax check again. -/
theorem decimalSyntax_canonical {i d : Nat} {integer : List Char} {fraction : Option (List Char)}
    {integral fractional : List (Fin 10)} (h : decimalSyntax u i d integer fraction)
    (hinteger : decimalDigits u integer = some integral)
    (hfraction : decimalDigits u (fraction.getD []) = some fractional) :
    decimalSyntax u i d (digitChars (integerDigits integral))
      (fractionPart (fractionDigits fractional)) := by
  have hcanonical := canonical_digits integral fractional
  have hdigits : ∀ {digits : List (Fin 10)}, digits ≠ [] →
      isDigitText u (digitChars digits) = true := by
    intro digits hne
    rw [isDigitText, Bool.and_eq_true, List.all_eq_true]
    refine ⟨?_, fun c hc => (mem_digitChars hc).1⟩
    cases digits with
    | nil => exact absurd rfl hne
    | cons d digits => rfl
  have hnonempty : integral ≠ [] := by
    rintro rfl
    have hlength := length_decimalDigits hinteger
    have htext := h.1
    rw [List.length_nil, eq_comm, List.length_eq_zero_iff] at hlength
    rw [hlength] at htext
    cases htext
  refine ⟨hdigits hcanonical.nonempty, ?_, ?_, ?_⟩
  · rintro ⟨hlength, hhead⟩
    rw [length_digitChars] at hlength
    apply hcanonical.leading hlength
    rw [digitChars, List.head?_map] at hhead
    obtain ⟨d, hd, hzero⟩ := Option.map_eq_some_iff.mp hhead
    have hinjective : ∀ d : Fin 10, Nat.digitChar d = '0' → d = 0 := by decide
    rw [hd, hinjective d hzero]
  · rw [length_digitChars]
    refine (length_integerDigits hnonempty).trans ?_
    rw [length_decimalDigits hinteger]
    exact h.2.2.1
  · intro cs hcs
    unfold fractionPart at hcs
    split at hcs
    · cases hcs
    · rename_i hne
      rw [Option.mem_def, Option.some.injEq] at hcs
      subst hcs
      refine ⟨hdigits hne, ?_⟩
      rw [length_digitChars]
      refine (length_fractionDigits _).trans ?_
      rw [length_decimalDigits hfraction]
      cases fraction with
      | none => exact Nat.zero_le _
      | some cs => exact (h.2.2.2 cs rfl).2

theorem decimalDigits_fractionPart (fraction : List (Fin 10)) :
    decimalDigits u ((fractionPart fraction).getD []) = some fraction := by
  unfold fractionPart
  split
  · rename_i h
    rw [h]
    rfl
  · exact decimalDigits_digitChars fraction

/-- **A canonical text is its own canonical text**, under the same bounds. -/
theorem canonicalDecimalText_idempotent {value text : String} {i d : Nat}
    (h : canonicalDecimalText u value i d = .ok text) :
    canonicalDecimalText u text i d = .ok text := by
  unfold canonicalDecimalText at h
  simp only at h
  split at h
  · cases h
  · rename_i hsyntax
    split at h
    · rename_i integral fractional hinteger hfraction
      cases h
      have hcanonical := canonical_digits integral fractional
      have hagain := decimalSyntax_canonical (not_not.mp hsyntax) hinteger hfraction
      unfold canonicalDecimalText
      rw [String.toList_ofList, stripChars_writeDecimal, readSign_writeDecimal hcanonical.nonempty]
      simp only [partitionPoint_unsignedChars, hagain, not_true_eq_false, if_false,
        decimalDigits_digitChars, decimalDigits_fractionPart, hcanonical.integerDigits,
        hcanonical.fractionDigits]
      generalize (readSign (stripChars value.toList)).1 = negative
      unfold writeDecimal
      by_cases hzero : integerDigits integral = [0] ∧ fractionDigits fractional = []
      · simp [hzero]
      · simp [hzero]
    · cases h

end Canonical

end BhDic.Dic
