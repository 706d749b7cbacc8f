import BhDic.Python.Text

/-!
# Integers and their texts

`int(text)` takes a sign, white space around, the digits of any script, and single underscores
between digits. What `str` writes of an integer it reads back.
-/

namespace BhDic.Python

variable (u : UnicodeData)

/-- The rest of a numeral after a digit, given the value so far. -/
def readNumeral (acc : Nat) : List Char → Option Nat
  | [] => some acc
  | '_' :: c :: rest => (u.decimalValue c).bind fun d => readNumeral (10 * acc + d) rest
  | c :: rest => (u.decimalValue c).bind fun d => readNumeral (10 * acc + d) rest

/-- An unsigned numeral. -/
def readNat : List Char → Option Nat
  | [] => none
  | c :: rest => (u.decimalValue c).bind fun d => readNumeral u d rest

/-- `int(text)`, on the characters of a text. -/
def readInt (cs : List Char) : Option Int :=
  match stripChars cs with
  | '-' :: rest => (readNat u rest).map fun n : Nat => -(n : Int)
  | '+' :: rest => (readNat u rest).map fun n : Nat => (n : Int)
  | cs => (readNat u cs).map fun n : Nat => (n : Int)

/-! ## Reading back what was written -/

theorem eq_digitChar_of_isDigit {c : Char} (h : c.isDigit = true) :
    ∃ d : Fin 10, c = Nat.digitChar d ∧ c.toNat - '0'.toNat = d := by
  have hall : ∀ n : Fin 128, (Char.ofNat n).isDigit = true →
      ∃ d : Fin 10, Char.ofNat n = Nat.digitChar d ∧ (Char.ofNat n).toNat - '0'.toNat = d := by
    decide
  have hlt : c.toNat < 128 := by
    simp only [Char.isDigit, Bool.and_eq_true, decide_eq_true_eq] at h
    have hle : c.toNat ≤ '9'.toNat := h.2
    exact lt_of_le_of_lt hle (by decide)
  have hc := hall ⟨c.toNat, hlt⟩
  rw [Char.ofNat_toNat] at hc
  exact hc h

theorem readNumeral_digits {cs : List Char} (h : ∀ c ∈ cs, c.isDigit = true) (acc : Nat) :
    readNumeral u acc cs = some (Nat.ofDigitChars 10 cs acc) := by
  induction cs generalizing acc with
  | nil => rfl
  | cons c cs ih =>
      obtain ⟨hc, hcs⟩ := List.forall_mem_cons.mp h
      obtain ⟨d, hd, hvalue⟩ := eq_digitChar_of_isDigit hc
      have hne : c ≠ '_' := by
        rintro rfl
        cases hc
      have hread : readNumeral u acc (c :: cs) =
          (u.decimalValue c).bind fun d => readNumeral u (10 * acc + d) cs := by
        rw [readNumeral]
        intro _ _ heq _
        exact hne heq
      rw [hread, hd, u.decimalValue_digitChar, Option.bind_some, ih hcs, ← hd,
        Nat.ofDigitChars_cons, hvalue]

theorem readNat_toDigits (n : Nat) : readNat u (Nat.toDigits 10 n) = some n := by
  have hdigits : ∀ c ∈ Nat.toDigits 10 n, c.isDigit = true := fun c hc =>
    Nat.isDigit_of_mem_toDigits (by decide) (by decide) hc
  have hvalue : Nat.ofDigitChars 10 (Nat.toDigits 10 n) 0 = n := Nat.ofDigitChars_ten_toDigits
  have hne : Nat.toDigits 10 n ≠ [] := Nat.toDigits_ne_nil
  generalize Nat.toDigits 10 n = cs at hdigits hvalue hne
  cases cs with
  | nil => exact absurd rfl hne
  | cons c cs =>
      obtain ⟨hc, hcs⟩ := List.forall_mem_cons.mp hdigits
      obtain ⟨d, hd, hdvalue⟩ := eq_digitChar_of_isDigit hc
      rw [Nat.ofDigitChars_cons, hdvalue, Nat.mul_zero, Nat.zero_add] at hvalue
      rw [readNat, hd, u.decimalValue_digitChar, Option.bind_some, readNumeral_digits u hcs, hvalue]

theorem isSpace_of_isDigit {c : Char} (h : c.isDigit = true) : isSpace c = false := by
  obtain ⟨d, rfl, -⟩ := eq_digitChar_of_isDigit h
  revert d
  decide

/-- A numeral has no white space around it, and no sign. -/
theorem readInt_toDigits (n : Nat) : readInt u (Nat.toDigits 10 n) = some (n : Int) := by
  have hdigits : ∀ c ∈ Nat.toDigits 10 n, c.isDigit = true := fun c hc =>
    Nat.isDigit_of_mem_toDigits (by decide) (by decide) hc
  have hread := readNat_toDigits u n
  generalize Nat.toDigits 10 n = cs at hdigits hread
  have hstrip : stripChars cs = cs := by
    apply stripChars_eq_self
    · intro c hc
      exact isSpace_of_isDigit (hdigits c (List.mem_of_head? hc))
    · intro c hc
      exact isSpace_of_isDigit (hdigits c (List.mem_of_getLast? hc))
  rw [readInt, hstrip]
  split
  · cases hdigits '-' List.mem_cons_self
  · cases hdigits '+' List.mem_cons_self
  · rw [hread]
    rfl

theorem readInt_minus_toDigits (n : Nat) :
    readInt u ('-' :: Nat.toDigits 10 n) = some (-(n : Int)) := by
  have hdigits : ∀ c ∈ Nat.toDigits 10 n, c.isDigit = true := fun c hc =>
    Nat.isDigit_of_mem_toDigits (by decide) (by decide) hc
  have hstrip : stripChars ('-' :: Nat.toDigits 10 n) = '-' :: Nat.toDigits 10 n := by
    apply stripChars_eq_self
    · intro c hc
      obtain rfl := Option.some.inj hc
      decide
    · intro c hc
      rw [List.getLast?_cons_of_ne_nil Nat.toDigits_ne_nil] at hc
      exact isSpace_of_isDigit (hdigits c (List.mem_of_getLast? hc))
  rw [readInt, hstrip]
  simp only [readNat_toDigits, Option.map_some]

theorem readInt_toString (n : Int) : readInt u (toString n).toList = some n := by
  rw [Int.toString_eq_repr, Int.repr_eq_if]
  split
  · rename_i hn
    rw [Nat.repr_eq_ofList_toDigits, String.toList_ofList, readInt_toDigits,
      Int.toNat_of_nonneg hn]
  · rename_i hn
    have htext : ("-" ++ (-n).toNat.repr).toList = '-' :: Nat.toDigits 10 (-n).toNat := by
      rw [Nat.repr_eq_ofList_toDigits]
      simp
    rw [htext, readInt_minus_toDigits, Int.toNat_of_nonneg (by omega), Int.neg_neg]

end BhDic.Python
