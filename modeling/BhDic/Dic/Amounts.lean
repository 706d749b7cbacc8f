import BhDic.Dic.Values
import BhDic.Python.Integer
import Mathlib.Algebra.Order.Field.Rat
import Mathlib.Data.Nat.Digits.Lemmas
import Mathlib.Tactic.FieldSimp
import Mathlib.Tactic.Ring

/-!
# The amount a text writes

Writing a decimal text canonically keeps its amount (`canonicalDecimalText_amount`).
-/

namespace BhDic.Dic

open BhDic.Python

/-- The number that digits write, the first the most significant. -/
def digitsNumber (digits : List (Fin 10)) : Nat := Nat.ofDigits 10 (digits.reverse.map Fin.val)

/-- What a sign, integer digits and fraction digits write. -/
def amountOf (negative : Bool) (integer fraction : List (Fin 10)) : ℚ :=
  (if negative then -1 else 1) * ((digitsNumber (integer ++ fraction) : ℚ) / 10 ^ fraction.length)

/-- The amount of a text `-?digits(.digits)?`. -/
def amount (u : UnicodeData) (text : List Char) : Option ℚ :=
  let (negative, unsigned) := readSign text
  let (integer, fraction) := partitionPoint unsigned
  match decimalDigits u integer, decimalDigits u (fraction.getD []) with
  | some integer, some fraction => some (amountOf negative integer fraction)
  | _, _ => none

/-! ## Digits -/

theorem digitsNumber_append (ds es : List (Fin 10)) :
    digitsNumber (ds ++ es) = digitsNumber ds * 10 ^ es.length + digitsNumber es := by
  simp only [digitsNumber, List.reverse_append, List.map_append, Nat.ofDigits_append,
    List.length_map, List.length_reverse]
  ring

theorem digitsNumber_zeros {ds : List (Fin 10)} (h : ∀ d ∈ ds, d = 0) : digitsNumber ds = 0 := by
  induction ds with
  | nil => rfl
  | cons d ds ih =>
    rw [← List.singleton_append, digitsNumber_append, ih fun e he => h e (by simp [he]),
      h d (by simp)]
    simp [digitsNumber]

/-- Zeros in front count for nothing. -/
theorem digitsNumber_integerDigits (ds : List (Fin 10)) :
    digitsNumber (integerDigits ds) = digitsNumber ds := by
  have hsplit : ds.takeWhile (· = 0) ++ ds.dropWhile (· = 0) = ds := List.takeWhile_append_dropWhile
  have hzeros : digitsNumber (ds.takeWhile (· = 0)) = 0 := by
    apply digitsNumber_zeros
    intro d hd
    simpa using List.mem_takeWhile_imp hd
  have hdrop : digitsNumber (ds.dropWhile (· = 0)) = digitsNumber ds := by
    conv_rhs => rw [← hsplit, digitsNumber_append, hzeros]
    simp
  rw [← hdrop, integerDigits]
  split
  · rename_i hnil
    rw [hnil]
    rfl
  · rfl

theorem amountOf_integerDigits (negative : Bool) (integer fraction : List (Fin 10)) :
    amountOf negative (integerDigits integer) fraction = amountOf negative integer fraction := by
  rw [amountOf, amountOf, digitsNumber_append, digitsNumber_append, digitsNumber_integerDigits]

/-- Nor do zeros at the end of a fraction. -/
theorem amountOf_fractionDigits (negative : Bool) (integer fraction : List (Fin 10)) :
    amountOf negative integer (fractionDigits fraction) = amountOf negative integer fraction := by
  have hsplit : fractionDigits fraction ++ fraction.rtakeWhile (· = 0) = fraction :=
    List.rdropWhile_append_rtakeWhile
  have hzeros : digitsNumber (fraction.rtakeWhile (· = 0)) = 0 := by
    apply digitsNumber_zeros
    intro d hd
    simpa using List.mem_rtakeWhile_imp hd
  have hnumber : digitsNumber (integer ++ fraction) =
      digitsNumber (integer ++ fractionDigits fraction) *
        10 ^ (fraction.rtakeWhile (· = 0)).length := by
    conv_lhs => rw [← hsplit, ← List.append_assoc, digitsNumber_append, hzeros]
    simp
  have hlength : fraction.length =
      (fractionDigits fraction).length + (fraction.rtakeWhile (· = 0)).length := by
    conv_lhs => rw [← hsplit, List.length_append]
  rw [amountOf, amountOf, hnumber, hlength]
  push_cast
  rw [pow_add]
  field_simp

/-! ## Texts -/

theorem amount_writeDecimal (u : UnicodeData) (negative : Bool) {integer fraction : List (Fin 10)}
    (h : integer ≠ []) :
    amount u (writeDecimal negative integer fraction) = some (amountOf negative integer fraction) := by
  rw [amount, readSign_writeDecimal h]
  simp only [partitionPoint_unsignedChars, decimalDigits_digitChars]
  have hfraction : decimalDigits u ((fractionPart fraction).getD []) = some fraction :=
    decimalDigits_fractionPart fraction
  rw [hfraction]
  by_cases hzero : integer = [0] ∧ fraction = []
  · obtain ⟨rfl, rfl⟩ := hzero
    have hnone : digitsNumber [0] = 0 := rfl
    simp [amountOf, hnone]
  · simp [hzero]

/-- The canonical text of a decimal text writes the same amount. -/
theorem canonicalDecimalText_amount {u : UnicodeData} {value text : String} {i d : Nat}
    (h : canonicalDecimalText u value i d = .ok text) :
    (amount u text.toList).isSome ∧ amount u text.toList = amount u (stripChars value.toList) := by
  unfold canonicalDecimalText at h
  simp only at h
  split at h
  · cases h
  · split at h
    · rename_i integer fraction hinteger hfraction
      cases h
      have hne := (canonical_digits integer fraction).nonempty
      rw [String.toList_ofList, amount_writeDecimal u _ hne, amountOf_fractionDigits,
        amountOf_integerDigits]
      refine ⟨rfl, ?_⟩
      rw [amount]
      simp only
      rw [hinteger, hfraction]
    · cases h

theorem partitionPoint_of_not_mem {text : List Char} (h : '.' ∉ text) :
    partitionPoint text = (text, none) := by
  induction text with
  | nil => rfl
  | cons c text ih =>
    simp only [List.mem_cons, not_or] at h
    rw [partitionPoint, if_neg (Ne.symm h.1), ih h.2]

theorem decimalDigits_isDigit (u : UnicodeData) {text : List Char}
    (h : ∀ c ∈ text, c.isDigit = true) :
    ∃ digits, decimalDigits u text = some digits ∧
      digitsNumber digits = Nat.ofDigitChars 10 text 0 := by
  induction text using List.reverseRecOn with
  | nil => exact ⟨[], rfl, rfl⟩
  | append_singleton text c ih =>
    obtain ⟨digits, hdigits, hnumber⟩ := ih fun c hc => h c (by simp [hc])
    obtain ⟨d, hd, hvalue⟩ := eq_digitChar_of_isDigit (h c (by simp))
    refine ⟨digits ++ [d], ?_, ?_⟩
    · rw [decimalDigits] at hdigits ⊢
      rw [List.mapM_append, hdigits, hd]
      simp [u.decimalValue_digitChar]
    · rw [digitsNumber_append, hnumber, Nat.ofDigitChars_append, Nat.ofDigitChars_cons,
        Nat.ofDigitChars_nil, hvalue]
      simp [digitsNumber, Nat.mul_comm]

/-- What `str` writes of a natural number is that amount. -/
theorem amount_toDigits (u : UnicodeData) (n : Nat) (negative : Bool) :
    amount u ((if negative then ['-'] else []) ++ Nat.toDigits 10 n) =
      some ((if negative then -1 else 1) * (n : ℚ)) := by
  have hdigits : ∀ c ∈ Nat.toDigits 10 n, c.isDigit = true := fun c hc =>
    Nat.isDigit_of_mem_toDigits (by decide) (by decide) hc
  have hsign : readSign ((if negative then ['-'] else []) ++ Nat.toDigits 10 n) =
      (negative, Nat.toDigits 10 n) := by
    cases negative with
    | true => rfl
    | false =>
      simp only [Bool.false_eq_true, if_false, List.nil_append]
      unfold readSign
      split
      · rename_i cs heq
        exact absurd (hdigits '-' (by rw [heq]; exact List.mem_cons_self)) (by decide)
      · rfl
  have hpoint : partitionPoint (Nat.toDigits 10 n) = (Nat.toDigits 10 n, none) := by
    apply partitionPoint_of_not_mem
    intro hmem
    exact absurd (hdigits '.' hmem) (by decide)
  obtain ⟨digits, hread, hnumber⟩ := decimalDigits_isDigit u hdigits
  have hnil : decimalDigits u ((none : Option (List Char)).getD []) = some [] := rfl
  rw [Nat.ofDigitChars_ten_toDigits] at hnumber
  rw [amount, hsign]
  simp only
  rw [hpoint]
  simp only
  rw [hread, hnil]
  simp [amountOf, hnumber]

/-- What `str` writes of an integer is that amount. -/
theorem amount_toString (u : UnicodeData) (n : Int) :
    amount u (toString n).toList = some (n : ℚ) := by
  rw [Int.toString_eq_repr, Int.repr_eq_if]
  split
  · rename_i hn
    have hamount := amount_toDigits u n.toNat false
    rw [Nat.repr_eq_ofList_toDigits, String.toList_ofList]
    simp only [Bool.false_eq_true, if_false, List.nil_append, one_mul] at hamount
    rw [hamount, ← Int.cast_natCast, Int.toNat_of_nonneg hn]
  · rename_i hn
    have htext : ("-" ++ (-n).toNat.repr).toList = '-' :: Nat.toDigits 10 (-n).toNat := by
      rw [Nat.repr_eq_ofList_toDigits]
      simp
    have hamount := amount_toDigits u (-n).toNat true
    simp only [if_true, List.singleton_append] at hamount
    rw [htext, hamount, ← Int.cast_natCast, Int.toNat_of_nonneg (by omega)]
    push_cast
    ring_nf

/-! ## What a canonical text looks like -/

theorem length_writeDecimal (negative : Bool) (integer fraction : List (Fin 10)) :
    (writeDecimal negative integer fraction).length ≤ integer.length + fraction.length + 2 := by
  have hunsigned : (unsignedChars integer fraction).length ≤
      integer.length + fraction.length + 1 := by
    unfold unsignedChars
    split
    · rw [length_digitChars]
      omega
    · simp [length_digitChars]
      omega
  unfold writeDecimal
  split
  · simp only [List.length_cons]
    omega
  · omega

theorem notSpace_writeDecimal {negative : Bool} {integer fraction : List (Fin 10)} {c : Char}
    (h : c ∈ writeDecimal negative integer fraction) : isSpace c = false := by
  unfold writeDecimal at h
  split at h
  · rcases List.mem_cons.mp h with rfl | h
    · decide
    · exact notSpace_unsignedChars h
  · exact notSpace_unsignedChars h

/-- A canonical text is short and holds no white space. -/
theorem canonicalDecimalText_short {u : UnicodeData} {value text : String} {i d : Nat}
    (h : canonicalDecimalText u value i d = .ok text) :
    text.length ≤ i + d + 2 ∧ ∀ c ∈ text.toList, isSpace c = false := by
  unfold canonicalDecimalText at h
  simp only at h
  split at h
  · cases h
  · rename_i hsyntax
    obtain ⟨hdigits, -, hlong, hplaces⟩ := not_not.mp hsyntax
    split at h
    · rename_i integer fraction hinteger hfraction
      cases h
      constructor
      · have hne : integer ≠ [] := by
          rintro rfl
          have hlength := length_decimalDigits hinteger
          have hnil : (partitionPoint (readSign (stripChars value.toList)).2).1 = [] :=
            List.length_eq_zero_iff.mp hlength.symm
          rw [hnil] at hdigits
          cases hdigits
        have hwrite := length_writeDecimal (readSign (stripChars value.toList)).1
          (integerDigits integer) (fractionDigits fraction)
        have hint := length_integerDigits hne
        have hfrac := length_fractionDigits fraction
        have hint' := length_decimalDigits hinteger
        have hfrac' := length_decimalDigits hfraction
        have hbound : fraction.length ≤ d := by
          rw [hfrac']
          cases hpart : (partitionPoint (readSign (stripChars value.toList)).2).2 with
          | none => simp
          | some cs => exact (hplaces cs hpart).2
        rw [String.length_ofList]
        omega
      · intro c hc
        rw [String.toList_ofList] at hc
        exact notSpace_writeDecimal hc
    · cases h

end BhDic.Dic
