import BhDic.Python.Text
import Mathlib.Data.Nat.ModEq
import Mathlib.Tactic.Ring

/-!
# Calendar dates

`datetime.date`, its `isoformat`, and `fromisoformat`, which reads that form back and also the basic
and the week forms of ISO 8601.
-/

namespace BhDic.Python

/-! ## Digits -/

/-- The value of an ASCII digit. -/
def digitValue? (c : Char) : Option Nat := if c.isDigit then some (c.toNat - 48) else none

/-- Read exactly `n` digits, after a number already read. -/
def readDigits : Nat → Nat → List Char → Option (Nat × List Char)
  | 0, acc, cs => some (acc, cs)
  | _ + 1, _, [] => none
  | n + 1, acc, c :: cs =>
      match digitValue? c with
      | some d => readDigits n (acc * 10 + d) cs
      | none => none

/-- The last `width` digits of a number, leading zeros included. -/
def padDigits : Nat → Nat → List Char
  | 0, _ => []
  | width + 1, n => Nat.digitChar (n / 10 ^ width % 10) :: padDigits width n

theorem digitValue?_digitChar {d : Nat} (h : d < 10) : digitValue? (Nat.digitChar d) = some d := by
  have hall : ∀ d : Fin 10, digitValue? (Nat.digitChar d) = some d.val := by decide
  exact hall ⟨d, h⟩

theorem readDigits_padDigits (width acc n : Nat) (cs : List Char) :
    readDigits width acc (padDigits width n ++ cs) = some (acc * 10 ^ width + n % 10 ^ width, cs) := by
  induction width generalizing acc with
  | zero => simp [readDigits, padDigits, Nat.mod_one]
  | succ width ih =>
      have hdigit : n / 10 ^ width % 10 < 10 := Nat.mod_lt _ (by decide)
      have hsplit : n % 10 ^ (width + 1) = n % 10 ^ width + 10 ^ width * (n / 10 ^ width % 10) :=
        Nat.mod_pow_succ
      simp only [padDigits, List.cons_append, readDigits, digitValue?_digitChar hdigit, ih, hsplit]
      congr 2
      ring

theorem length_padDigits (width n : Nat) : (padDigits width n).length = width := by
  induction width with
  | zero => rfl
  | succ width ih => rw [padDigits, List.length_cons, ih]

theorem mem_padDigits {width n : Nat} {c : Char} (h : c ∈ padDigits width n) :
    ∃ d : Fin 10, c = Nat.digitChar d := by
  induction width with
  | zero => cases h
  | succ width ih =>
      rcases List.mem_cons.mp h with rfl | h
      · exact ⟨⟨_, Nat.mod_lt _ (by decide)⟩, rfl⟩
      · exact ih h

/-! ## Dates -/

def isLeap (year : Nat) : Bool := year % 4 == 0 && (year % 100 != 0 || year % 400 == 0)

def daysInMonth (year month : Nat) : Nat :=
  if month = 2 then if isLeap year then 29 else 28
  else if month ∈ [4, 6, 9, 11] then 30
  else 31

/-- What the constructor of `date` checks. -/
def IsDate (year month day : Nat) : Prop :=
  (1 ≤ year ∧ year ≤ 9999) ∧ (1 ≤ month ∧ month ≤ 12) ∧ 1 ≤ day ∧ day ≤ daysInMonth year month

instance (year month day : Nat) : Decidable (IsDate year month day) := by
  unfold IsDate
  infer_instance

@[ext]
structure Date where
  year : Nat
  month : Nat
  day : Nat
  isDate : IsDate year month day

/-- `date(year, month, day)`. -/
def Date.make? (year month day : Nat) : Option Date :=
  if h : IsDate year month day then some ⟨year, month, day, h⟩ else none

/-- `isoformat`, as characters. -/
def Date.isoformat (d : Date) : List Char :=
  padDigits 4 d.year ++ '-' :: padDigits 2 d.month ++ '-' :: padDigits 2 d.day

/-! ## Weeks -/

/-- The ordinal of the first of January: 1 is the first day of the year 1. -/
def firstOfYear (year : Nat) : Nat :=
  let y := year - 1
  y * 365 + y / 4 - y / 100 + y / 400 + 1

/-- The month and day of the `n`-th day, from 0, of the months given. -/
def monthAndDay (year : Nat) : List Nat → Nat → Nat × Nat
  | [], n => (13, n + 1)
  | month :: months, n =>
      if n < daysInMonth year month then (month, n + 1)
      else monthAndDay year months (n - daysInMonth year month)

/-- `_ord2ymd`. -/
def ofOrdinal (ordinal : Nat) : Nat × Nat × Nat :=
  let n := ordinal - 1
  let (n400, n) := (n / 146097, n % 146097)
  let (n100, n) := (n / 36524, n % 36524)
  let (n4, n) := (n / 1461, n % 1461)
  let (n1, n) := (n / 365, n % 365)
  let year := n400 * 400 + n100 * 100 + n4 * 4 + n1 + 1
  if n1 = 4 ∨ n100 = 4 then (year - 1, 12, 31)
  else (year, monthAndDay year (List.range' 1 12) n)

/-- Which day of the week the year begins on, from Monday as 0. -/
def firstWeekday (year : Nat) : Nat := (firstOfYear year + 6) % 7

/-- `_isoweek1monday`. -/
def isoWeek1Monday (year : Nat) : Nat :=
  let monday := firstOfYear year - firstWeekday year
  if firstWeekday year > 3 then monday + 7 else monday

/-- A year has a week 53 if it begins on a Thursday, or on a Wednesday and is a leap year. -/
def hasWeek53 (year : Nat) : Bool :=
  firstWeekday year == 3 || (firstWeekday year == 2 && isLeap year)

/-- `_isoweek_to_gregorian`, and the constructor on its result. -/
def Date.ofIsoWeek? (year week day : Nat) : Option Date :=
  if 1 ≤ year ∧ year ≤ 9999 ∧ 1 ≤ week ∧ (week ≤ 52 ∨ (week = 53 ∧ hasWeek53 year)) ∧ 1 ≤ day ∧
      day ≤ 7 then
    let (y, m, d) := ofOrdinal (isoWeek1Monday year + (week - 1) * 7 + (day - 1))
    Date.make? y m d
  else none

/-! ## Reading -/

/-- The separator between two parts, if the form uses it. -/
def skipSeparator (usesSeparator : Bool) (cs : List Char) : Option (List Char) :=
  if usesSeparator then
    match cs with
    | '-' :: cs => some cs
    | _ => none
  else some cs

/-- The rest of a week form, after the `W`. -/
def readWeek (usesSeparator : Bool) (year : Nat) (cs : List Char) : Option Date := do
  let (week, cs) ← readDigits 2 0 cs
  if cs = [] then Date.ofIsoWeek? year week 1
  else
    let cs ← skipSeparator usesSeparator cs
    let (day, _) ← readDigits 1 0 cs
    Date.ofIsoWeek? year week day

/-- The rest of a month form. -/
def readMonth (usesSeparator : Bool) (year : Nat) (cs : List Char) : Option Date := do
  let (month, cs) ← readDigits 2 0 cs
  let cs ← skipSeparator usesSeparator cs
  let (day, _) ← readDigits 2 0 cs
  Date.make? year month day

/-- `fromisoformat`. The length is that of the encoded text; what follows the day is not looked
at. -/
def Date.fromisoformat (text : String) : Option Date :=
  if text.utf8ByteSize ∉ [7, 8, 10] then none
  else do
    let (year, cs) ← readDigits 4 0 text.toList
    let (usesSeparator, cs) := match cs with
      | '-' :: cs => (true, cs)
      | cs => (false, cs)
    match cs with
    | 'W' :: cs => readWeek usesSeparator year cs
    | cs => readMonth usesSeparator year cs

/-- A text of ASCII characters is as long encoded as it is in characters. -/
theorem utf8ByteSize_ofList {cs : List Char} (h : ∀ c ∈ cs, c.toNat < 128) :
    (String.ofList cs).utf8ByteSize = cs.length := by
  induction cs with
  | nil => rfl
  | cons c cs ih =>
      have hc := h c List.mem_cons_self
      have hsize : c.utf8Size = 1 := by
        rw [Char.utf8Size_eq_one_iff]
        exact UInt32.le_iff_toNat_le.mpr (by simpa using Nat.le_of_lt_succ hc)
      rw [← List.singleton_append, String.ofList_append, String.utf8ByteSize_append,
        ih fun c' hc' => h c' (List.mem_cons_of_mem _ hc')]
      simp [hsize, Nat.add_comm]

/-- A written date is digits and separators. -/
theorem Date.mem_isoformat {d : Date} {c : Char} (h : c ∈ d.isoformat) :
    c = '-' ∨ ∃ d : Fin 10, c = Nat.digitChar d := by
  simp only [Date.isoformat, List.append_assoc, List.mem_append, List.mem_cons,
    List.cons_append] at h
  rcases h with h | h | h | h | h
  · exact .inr (mem_padDigits h)
  · exact .inl h
  · exact .inr (mem_padDigits h)
  · exact .inl h
  · exact .inr (mem_padDigits h)

theorem Date.isoformat_ascii (d : Date) : ∀ c ∈ d.isoformat, c.toNat < 128 := by
  intro c hc
  have hall : ∀ d : Fin 10, (Nat.digitChar d).toNat < 128 := by decide
  rcases d.mem_isoformat hc with rfl | ⟨digit, rfl⟩
  · decide
  · exact hall digit

/-- A written date has no white space. -/
theorem Date.stripChars_isoformat (d : Date) : stripChars d.isoformat = d.isoformat := by
  have hplain : ∀ c ∈ d.isoformat, isSpace c = false := by
    intro c hc
    have hall : ∀ d : Fin 10, isSpace (Nat.digitChar d) = false := by decide
    rcases d.mem_isoformat hc with rfl | ⟨digit, rfl⟩
    · decide
    · exact hall digit
  exact stripChars_eq_self (fun c hc => hplain c (List.mem_of_mem_head? hc))
    (fun c hc => hplain c (List.mem_of_getLast? hc))

/-- A month form is not taken for a week form: its next character is a digit. -/
theorem ne_week_of_padDigits {width n : Nat} {rest cs : List Char} (hwidth : 0 < width) :
    padDigits width n ++ rest ≠ 'W' :: cs := by
  intro h
  have hall : ∀ d : Fin 10, Nat.digitChar d ≠ 'W' := by decide
  cases width with
  | zero => exact absurd hwidth (Nat.lt_irrefl 0)
  | succ width => exact hall ⟨_, Nat.mod_lt _ (by decide)⟩ (List.cons.inj h).1

theorem readMonth_isoformat (d : Date) :
    readMonth true d.year (padDigits 2 d.month ++ '-' :: padDigits 2 d.day) = some d := by
  obtain ⟨year, month, day, hdate⟩ := d
  obtain ⟨-, ⟨-, hmonth⟩, -, hday⟩ := id hdate
  have hdays : day ≤ 31 := by
    refine hday.trans ?_
    unfold daysInMonth
    split
    · split <;> decide
    · split <;> decide
  have hm : month % 10 ^ 2 = month := Nat.mod_eq_of_lt (by omega)
  have hd : day % 10 ^ 2 = day := Nat.mod_eq_of_lt (by omega)
  have hlast := readDigits_padDigits 2 0 day []
  rw [List.append_nil] at hlast
  simp only [readMonth, readDigits_padDigits, skipSeparator, hlast, hm, hd, Nat.zero_mul,
    Nat.zero_add, Option.bind_eq_bind, Option.bind_some, if_true]
  exact dif_pos hdate

/-- **Reading a written date gives it back.** -/
theorem Date.fromisoformat_isoformat (d : Date) :
    Date.fromisoformat (String.ofList d.isoformat) = some d := by
  have hlength : d.isoformat.length = 10 := by
    simp [Date.isoformat, length_padDigits]
  have hsize : (String.ofList d.isoformat).utf8ByteSize = 10 := by
    rw [utf8ByteSize_ofList d.isoformat_ascii, hlength]
  have hyear : d.year % 10 ^ 4 = d.year :=
    Nat.mod_eq_of_lt (Nat.lt_succ_of_le d.isDate.1.2)
  have hread : readDigits 4 0 (String.ofList d.isoformat).toList =
      some (d.year, '-' :: (padDigits 2 d.month ++ '-' :: padDigits 2 d.day)) := by
    rw [String.toList_ofList, Date.isoformat, List.append_assoc, List.cons_append,
      readDigits_padDigits, hyear, Nat.zero_mul, Nat.zero_add]
  have hmonth := readMonth_isoformat d
  rw [Date.fromisoformat, if_neg (by rw [hsize]; decide), hread]
  simp only [Option.bind_eq_bind, Option.bind_some]
  split
  · rename_i cs heq
    exact absurd heq (ne_week_of_padDigits (by decide))
  · exact hmonth

end BhDic.Python
