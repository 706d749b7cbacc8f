import BhDic.Python.Integer

/-!
# Digits of other scripts

`\d` and `int` take the decimal digits of every script, `str.isdigit` also others such as
superscripts. What the Unicode database says of them is enough to know which texts `int` reads.
-/

namespace BhDic.Python

variable (u : UnicodeData)

/-- What the Unicode database says of digits: on ASCII they are the ten, white space is none, and
what `int` reads as a digit is one. -/
structure HasDigits : Prop where
  ascii : ∀ c, isAscii c = true → u.isDigit c = c.isDigit
  space : ∀ c, isSpace c = true → u.isDigit c = false
  decimal : ∀ c, (u.decimalValue c).isSome = true → u.isDigit c = true

theorem asciiTables_hasDigits : HasDigits asciiTables where
  ascii _ _ := rfl
  space c h := by
    show c.isDigit = false
    by_contra hdigit
    rw [isSpace_of_isDigit (by simpa using hdigit)] at h
    cases h
  decimal c h := by
    show c.isDigit = true
    by_contra hdigit
    have hnone : asciiTables.decimalValue c = none := if_neg hdigit
    rw [hnone] at h
    cases h

section Digits

variable {u} (h : HasDigits u) {cs : List Char}
include h

/-- A sign, an underscore or a white space is no digit. -/
theorem HasDigits.ne_of_isDigit {c d : Char} (hc : u.isDigit c = true) (hascii : isAscii d = true)
    (hd : d.isDigit = false) : c ≠ d := by
  rintro rfl
  rw [h.ascii c hascii, hd] at hc
  cases hc

theorem HasDigits.readNumeral_isSome (hcs : ∀ c ∈ cs, u.isDigit c = true) (acc : Nat) :
    (readNumeral u acc cs).isSome = true ↔ ∀ c ∈ cs, (u.decimalValue c).isSome = true := by
  induction cs generalizing acc with
  | nil => simp [readNumeral]
  | cons c cs ih =>
      obtain ⟨hc, hrest⟩ := List.forall_mem_cons.mp hcs
      have hread : readNumeral u acc (c :: cs) =
          (u.decimalValue c).bind fun d => readNumeral u (10 * acc + d) cs := by
        rw [readNumeral]
        intro _ _ heq _
        exact h.ne_of_isDigit hc (by decide) (by decide) heq
      rw [hread, List.forall_mem_cons]
      cases u.decimalValue c with
      | none => simp
      | some d => simpa using ih hrest _

/-- Of a text of digits, `int` reads just the decimal ones. -/
theorem HasDigits.readInt_eq (hne : cs ≠ []) (hcs : ∀ c ∈ cs, u.isDigit c = true) :
    readInt u cs = (readNat u cs).map fun n : Nat => (n : Int) := by
  have hstrip : stripChars cs = cs := by
    have hspace : ∀ c ∈ cs, isSpace c = false := by
      intro c hc
      by_contra hspace
      have hdigit := hcs c hc
      rw [h.space c (by simpa using hspace)] at hdigit
      cases hdigit
    exact stripChars_eq_self (fun c hc => hspace c (List.mem_of_head? hc))
      (fun c hc => hspace c (List.mem_of_getLast? hc))
  rw [readInt, hstrip]
  split
  · exact absurd rfl (h.ne_of_isDigit (hcs '-' List.mem_cons_self) (by decide) (by decide))
  · exact absurd rfl (h.ne_of_isDigit (hcs '+' List.mem_cons_self) (by decide) (by decide))
  · rfl

/-- A text of decimal digits is a numeral. -/
theorem HasDigits.exists_readNat (hne : cs ≠ [])
    (hcs : ∀ c ∈ cs, (u.decimalValue c).isSome = true) : ∃ n, readNat u cs = some n := by
  cases cs with
  | nil => exact absurd rfl hne
  | cons c cs =>
      obtain ⟨hc, hrest⟩ := List.forall_mem_cons.mp hcs
      obtain ⟨d, hd⟩ := Option.isSome_iff_exists.mp hc
      have hsome := (h.readNumeral_isSome (fun c hc => h.decimal c (hrest c hc)) d.val).mpr hrest
      obtain ⟨n, hn⟩ := Option.isSome_iff_exists.mp hsome
      refine ⟨n, ?_⟩
      rw [readNat, hd, Option.bind_some]
      exact hn

/-- Other digits than the decimal ones make no numeral. -/
theorem HasDigits.decimal_of_readNat {n : Nat} (hcs : ∀ c ∈ cs, u.isDigit c = true)
    (hread : readNat u cs = some n) : ∀ c ∈ cs, (u.decimalValue c).isSome = true := by
  cases cs with
  | nil => cases hread
  | cons c cs =>
      obtain ⟨d, hd, hrest⟩ := Option.bind_eq_some_iff.mp hread
      rw [List.forall_mem_cons]
      constructor
      · rw [hd]
        rfl
      · apply (h.readNumeral_isSome (List.forall_mem_cons.mp hcs).2 d.val).mp
        rw [hrest]
        rfl

end Digits

end BhDic.Python
