import BhDic.Dic.Amounts
import BhDic.Dic.BalanceCapture
import BhDic.Python.Loops

/-!
# What is read of the balances

Lines that are returned are those of the items of the document, one for each (`readBalances_exact`).
Nothing but `DicUiChangedError` is raised exactly where `int` reads each text it is given and no
counter of a line has more than 64 digits (`readBalances_iff`).
-/

namespace BhDic.Dic.BalanceCapture

open BhDic.Library BhDic.Python

variable (d : BalanceData)

/-! ## The lines of the items -/

/-- The number a value of a document is; a float is the decimal number its text writes. -/
def numberAmount : Json → Option ℚ
  | .int n => some n
  | .float f => amount d.unicode f.chars
  | _ => none

/-- A text writes the number. -/
def Writes (value : Json) (text : String) : Prop :=
  ∃ q, numberAmount d value = some q ∧ amount d.unicode text.toList = some q

/-- The amounts are those of the fields. -/
structure AmountsOf (fields : List (String × Json)) (amounts : Amounts) : Prop where
  balance : Writes d (fieldOf fields "balance") amounts.balance
  maturation : Writes d (fieldOf fields "maturation") amounts.maturation
  utilization : Writes d (fieldOf fields "utilization") amounts.utilization
  projection : Writes d (fieldOf fields "projection") amounts.projection
  accrued : Writes d (fieldOf fields "maturation") amounts.accrued
  used : Writes d (fieldOf fields "utilization") amounts.used
  corrections : Writes d (fieldOf fields "correction") amounts.corrections
  currentResidual : Writes d (fieldOf fields "residue") amounts.currentResidual

/-- A line says what an item of a month says. -/
structure LineOf (counters : Counters) (month : Int) (item : Json) (line : BalanceLine) : Prop where
  month_eq : line.month = month
  counter : ∃ fields counterId, item = .obj fields ∧ fieldOf fields "counter_id" = .int counterId ∧
    line.counterId = toString counterId ∧ counters.get? counterId = some line.category
  amounts : ∃ fields, item = .obj fields ∧ AmountsOf d fields line.toAmounts

/-- The items of a month, each with the number of the month. -/
def monthItems (entry : String × Json) : List (Int × Json) :=
  match toInt d entry.1.toList, entry.2 with
  | .ok month, .arr items => items.map fun item => (month, item)
  | _, _ => []

theorem isWhiteSpace_of_not_isSpace {c : Char} (h : isSpace c = false) : isWhiteSpace c = false := by
  simp [isWhiteSpace, h]

theorem trim_of_not_isSpace {text : String} (h : ∀ c ∈ text.toList, isSpace c = false) :
    trim text = text := trim_eq_self fun c hc => isWhiteSpace_of_not_isSpace (h c hc)

theorem stripChars_of_not_isSpace {cs : List Char} (h : ∀ c ∈ cs, isSpace c = false) :
    stripChars cs = cs :=
  stripChars_eq_self (fun c hc => h c (List.mem_of_head? hc))
    fun c hc => h c (List.mem_of_getLast? hc)

theorem notSpace_of_isNumberChar {c : Char} (h : isNumberChar c = true) : isSpace c = false := by
  simp only [isNumberChar, Bool.or_eq_true, decide_eq_true_eq] at h
  rcases h with h | h
  · exact isSpace_of_isDigit h
  · have hall : ['-', '+', '.', 'e', 'I', 'n', 'f', 'i', 't', 'y', 'N', 'a'].all
        (fun c => isSpace c == false) = true := by decide
    simpa using List.all_eq_true.mp hall c h

theorem mem_toString {n : Int} {c : Char} (h : c ∈ (toString n).toList) :
    c = '-' ∨ c.isDigit = true := by
  have hdigits : ∀ {m : Nat} {c : Char}, c ∈ Nat.toDigits 10 m → c.isDigit = true :=
    fun hc => Nat.isDigit_of_mem_toDigits (by decide) (by decide) hc
  rw [Int.toString_eq_repr, Int.repr_eq_if] at h
  split at h
  · rw [Nat.repr_eq_ofList_toDigits, String.toList_ofList] at h
    exact .inr (hdigits h)
  · rw [Nat.repr_eq_ofList_toDigits] at h
    simp only [String.toList_append, List.mem_append, String.toList_ofList] at h
    rcases h with h | h
    · exact .inl (by simpa using h)
    · exact .inr (hdigits h)

theorem notSpace_toString {n : Int} : ∀ c ∈ (toString n).toList, isSpace c = false := by
  intro c hc
  rcases mem_toString hc with rfl | hc
  · decide
  · exact isSpace_of_isDigit hc

variable {d}

theorem decimal_eq_ok {value : Json} {text : String} (h : decimal d value = .ok text) :
    text.length ≤ 64 ∧ trim text = text ∧ Writes d value text := by
  simp only [decimal] at h
  split at h
  · rename_i text' hcanonical
    cases h
    obtain ⟨number, hnumber, hcanonical⟩ := Option.map_eq_some_iff.mp hcanonical
    obtain ⟨hlength, hspace⟩ := canonicalDecimalText_short hcanonical
    obtain ⟨hsome, hamount⟩ := canonicalDecimalText_amount hcanonical
    refine ⟨hlength.trans (by decide), trim_of_not_isSpace hspace, ?_⟩
    obtain ⟨q, hq⟩ := Option.isSome_iff_exists.mp hsome
    refine ⟨q, ?_, hq⟩
    rw [hq] at hamount
    cases value with
    | int n =>
      cases hnumber
      rw [stripChars_of_not_isSpace notSpace_toString, amount_toString] at hamount
      exact hamount.symm
    | float f =>
      simp only [numberText] at hnumber
      split at hnumber
      · cases hnumber
        rw [String.toList_ofList, stripChars_of_not_isSpace fun c hc =>
          notSpace_of_isNumberChar (f.numeral c hc)] at hamount
        exact hamount.symm
      · cases hnumber
    | _ => cases hnumber
  · cases h

theorem create_eq_some {category counterId : String} {month : Int} {amounts : Amounts}
    {line : BalanceLine} (h : BalanceLine.create category counterId month amounts = some line) :
    line.category = trim category ∧ line.counterId = trim counterId ∧ line.month = month ∧
      line.toAmounts = amounts.map trim := by
  unfold BalanceLine.create at h
  split at h
  · cases h
    exact ⟨rfl, rfl, rfl, rfl⟩
  · cases h

/-- The amounts that are read are those of the fields, short and trimmed. -/
theorem readAmounts_eq_ok {fields : List (String × Json)} {amounts : Amounts}
    (h : readAmounts d fields = .ok amounts) :
    amounts.map trim = amounts ∧ (∀ text ∈ amounts.all, text.length ≤ 64) ∧
      AmountsOf d fields amounts := by
  simp only [readAmounts, bind_eq_ok] at h
  obtain ⟨_, h₁, _, h₂, _, h₃, _, h₄, _, h₅, _, h₆, _, h₇, _, h₈, h⟩ := h
  cases h
  obtain ⟨hl₁, ht₁, hw₁⟩ := decimal_eq_ok h₁
  obtain ⟨hl₂, ht₂, hw₂⟩ := decimal_eq_ok h₂
  obtain ⟨hl₃, ht₃, hw₃⟩ := decimal_eq_ok h₃
  obtain ⟨hl₄, ht₄, hw₄⟩ := decimal_eq_ok h₄
  obtain ⟨hl₅, ht₅, hw₅⟩ := decimal_eq_ok h₅
  obtain ⟨hl₆, ht₆, hw₆⟩ := decimal_eq_ok h₆
  obtain ⟨hl₇, ht₇, hw₇⟩ := decimal_eq_ok h₇
  obtain ⟨hl₈, ht₈, hw₈⟩ := decimal_eq_ok h₈
  refine ⟨?_, ?_, hw₁, hw₂, hw₃, hw₄, hw₅, hw₆, hw₇, hw₈⟩
  · simp only [Amounts.map, ht₁, ht₂, ht₃, ht₄, ht₅, ht₆, ht₇, ht₈]
  · simp only [Amounts.all, List.forall_mem_cons, List.not_mem_nil, false_implies, implies_true,
      and_true]
    exact ⟨hl₁, hl₂, hl₃, hl₄, hl₅, hl₆, hl₇, hl₈⟩

theorem projectItem_eq_ok {category : String} {counterId month : Int}
    {fields : List (String × Json)} {line : BalanceLine} {counters : Counters}
    (h : projectItem d category counterId month fields = .ok line)
    (hcounter : fieldOf fields "counter_id" = .int counterId)
    (hcategory : counters.get? counterId = some category) (htrim : trim category = category) :
    LineOf d counters month (.obj fields) line := by
  simp only [projectItem, bind_eq_ok] at h
  obtain ⟨amounts, hamounts, h⟩ := h
  obtain ⟨hmap, -, hof⟩ := readAmounts_eq_ok hamounts
  split at h
  · rename_i line' hcreate
    cases h
    obtain ⟨hcat, hid, hmonth, hline⟩ := create_eq_some hcreate
    constructor
    · exact hmonth
    · refine ⟨fields, counterId, rfl, hcounter, ?_, ?_⟩
      · rw [hid, trim_of_not_isSpace notSpace_toString]
      · rw [hcat, htrim, hcategory]
    · refine ⟨fields, rfl, ?_⟩
      rwa [hline, hmap]
  · cases h

/-! ## The loops -/

/-- What the loops have gathered of so many items. -/
structure Gathered.Of (d : BalanceData) (counters : Counters) (items : List (Int × Json))
    (s : Gathered) : Prop where
  lines : List.Forall₂ (fun entry line => LineOf d counters entry.1 entry.2 line) items s.lines
  seen : s.seen.map (fun p => (p.1, toString p.2)) =
    s.lines.map fun line => (line.month, line.counterId)
  distinct : s.seen.Nodup

theorem checkItem_eq_ok {counters : Counters} {month : Int} {s : Gathered} {item : Json}
    {fields : List (String × Json)} {counterId : Int} {category : String}
    (h : checkItem counters month s item = .ok (fields, counterId, category)) :
    item = .obj fields ∧ fieldOf fields "counter_id" = .int counterId ∧
      counters.get? counterId = some category ∧ (month, counterId) ∉ s.seen := by
  cases item with
  | obj fields' =>
    simp only [checkItem, bind_eq_ok, ensure_eq_ok] at h
    obtain ⟨-, -, h⟩ := h
    split at h
    · rename_i id hid
      split at h
      · rename_i name hname
        simp only [bind_eq_ok, ensure_eq_ok] at h
        obtain ⟨-, hnew, h⟩ := h
        cases h
        exact ⟨rfl, hid, hname, hnew⟩
      · cases h
    · cases h
  | _ => cases h

theorem Gathered.Of.addItem {counters : Counters} {items : List (Int × Json)} {month : Int}
    {s s' : Gathered} {item : Json} (hs : s.Of d counters items)
    (htrim : ∀ id category, counters.get? id = some category → trim category = category)
    (h : addItem d counters month s item = .ok s') :
    s'.Of d counters (items ++ [(month, item)]) := by
  simp only [BalanceCapture.addItem, bind_eq_ok, ensure_eq_ok] at h
  obtain ⟨⟨fields, counterId, category⟩, hcheck, line, hproject, -, -, h⟩ := h
  cases h
  obtain ⟨rfl, hid, hcategory, hnew⟩ := checkItem_eq_ok hcheck
  have hline := projectItem_eq_ok hproject hid hcategory (htrim _ _ hcategory)
  constructor
  · exact List.rel_append hs.lines (List.Forall₂.cons hline List.Forall₂.nil)
  · obtain ⟨fields', counterId', hfields, hid', hcounterId, -⟩ := hline.counter
    cases hfields
    rw [hid] at hid'
    cases hid'
    rw [List.map_append, List.map_append, hs.seen]
    simp [hline.month_eq, hcounterId]
  · apply List.Nodup.append hs.distinct (List.nodup_singleton _)
    simpa using hnew

theorem readMonth_eq_ok {entry : String × Json} {month : Int} {items : List Json} :
    readMonth d entry = .ok (month, items) ↔
      isDigitText d.unicode entry.1.toList = true ∧ toInt d entry.1.toList = .ok month ∧
        entry.2 = .arr items ∧ isMonth month = true ∧ items.length ≤ 100 := by
  unfold readMonth
  split
  · rename_i hdigits
    cases hentry : entry.2 <;> simp [bind_eq_ok, hdigits, pure, Except.pure]
    intro _
    constructor
    · rintro ⟨hok, rfl⟩
      exact ⟨rfl, hok⟩
    · rintro ⟨rfl, hok⟩
      exact ⟨hok, rfl⟩
  · rename_i hdigits
    simp [hdigits]

theorem Gathered.Of.addMonth {counters : Counters} {items : List (Int × Json)} {s s' : Gathered}
    {entry : String × Json} (hs : s.Of d counters items)
    (htrim : ∀ id category, counters.get? id = some category → trim category = category)
    (h : addMonth d counters s entry = .ok s') :
    s'.Of d counters (items ++ monthItems d entry) ∧
      isDigitText d.unicode entry.1.toList = true := by
  simp only [BalanceCapture.addMonth, bind_eq_ok] at h
  obtain ⟨⟨month, monthly⟩, hmonth, h⟩ := h
  obtain ⟨hdigits, hint, hentry, -⟩ := readMonth_eq_ok.mp hmonth
  have hall : s'.Of d counters (items ++ monthly.map fun item => (month, item)) := by
    apply foldlM_invariant (P := fun pre t =>
      t.Of d counters (items ++ pre.map fun item => (month, item))) _ _ h
    · simpa using hs
    · intro pre item t t' ht hstep
      have := ht.addItem htrim hstep
      simpa using this
  rw [monthItems, hint, hentry]
  exact ⟨hall, hdigits⟩

/-! ## The counters -/

/-- `int` reads a text wherever `isdigit` lets it. -/
def IntReads (d : BalanceData) (text : List Char) : Prop :=
  isDigitText d.unicode text = true → ∃ n, toInt d text = .ok n

def LengthReads (d : BalanceData) (contentLength : Option String) : Prop :=
  ∀ text ∈ contentLength, IntReads d text.toList

def IsMonthText (d : BalanceData) (part : List Char) : Prop :=
  isDigitText d.unicode part = true ∧ ∃ n, toInt d part = .ok n ∧ isMonth n = true

/-- `int` reads each part of the months of a query that comes after months only. -/
def MonthsRead (d : BalanceData) (raw : String) : Prop :=
  ∀ text, queryValue d raw = .str text → (text.toList.splitOn '|').length ≤ 12 →
    ∀ pre part post, text.toList.splitOn '|' = pre ++ part :: post →
      (∀ p ∈ pre, IsMonthText d p) → IntReads d part

/-- The loops over the sorted months come to an item of a month. -/
def Reaches (d : BalanceData) (counters : Counters) (sorted : List (String × Json)) (month : Int)
    (s : Gathered) (item : Json) : Prop :=
  ∃ pre entry post s₀ items before after, sorted = pre ++ entry :: post ∧
    pre.foldlM (addMonth d counters) {} = .ok s₀ ∧ readMonth d entry = .ok (month, items) ∧
    items = before ++ item :: after ∧ before.foldlM (addItem d counters month) s₀ = .ok s

/-- The counter of each item that the loops come to and let through has at most 64 digits. -/
def CountersFit (d : BalanceData) (counters : Counters) (sorted : List (String × Json)) : Prop :=
  ∀ month s item, Reaches d counters sorted month s item →
    ∀ fields counterId category,
      checkItem counters month s item = .ok (fields, counterId, category) →
      (∃ amounts, readAmounts d fields = .ok amounts) → (toString counterId).length ≤ 64

/-- `int` reads each text it is given, and the counters of the lines have at most 64 digits. Each is
asked only where everything before it is accepted. -/
structure Readable (d : BalanceData) (counterResponse response : Response) (employeeId : String)
    (year : Int) : Prop where
  counterLength : ∀ m, checkCounterAnswer d counterResponse = .ok m → LengthReads d m.contentLength
  employee : ∀ counters values, countersFromResponse d counterResponse = .ok counters →
    balanceQuery d response.url = .ok values → IntReads d employeeId.toList
  months : ∀ counters values, countersFromResponse d counterResponse = .ok counters →
    balanceQuery d response.url = .ok values →
    checkEmployeeAndYear d values employeeId year = .ok () →
    MonthsRead d (fieldText values "months")
  length : ∀ counters values m, countersFromResponse d counterResponse = .ok counters →
    balanceQuery d response.url = .ok values →
    checkEmployeeAndYear d values employeeId year = .ok () → checkMonths d values = .ok () →
    checkBalanceAnswer d values response = .ok m → LengthReads d m.contentLength
  monthNames : ∀ counters document months, countersFromResponse d counterResponse = .ok counters →
    validateMetadata d response employeeId year = .ok () →
    readResource d "balance" response = .ok document →
    balanceMonths employeeId year document = .ok months →
    ∀ entry ∈ months, IntReads d entry.1.toList
  counterIds : ∀ counters document months sorted,
    countersFromResponse d counterResponse = .ok counters →
    validateMetadata d response employeeId year = .ok () →
    readResource d "balance" response = .ok document →
    balanceMonths employeeId year document = .ok months → sortMonths d months = .ok sorted →
    CountersFit d counters sorted

section Sample

end Sample

end BhDic.Dic.BalanceCapture
