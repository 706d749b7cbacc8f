import BhDic.HrAssistant.LocalIntent
import BhDic.Library.RegexCaptures
import BhDic.Python.Digits
import BhDic.Python.Ordinals

/-!
# Intervals of contracts

What `_supported_contract_interval` makes of a request: a whole month, or the time from the
reference date to some days or months later. It keeps what its wordings say, but for a count that
is a word of `_MONTH_COUNT` to `re.IGNORECASE` and not to `str.casefold`: `dıeci`, with a dotless i,
is found by the pattern and then missing in the table.
-/

namespace BhDic.HrAssistant

open BhDic.Dic (isDigitText)
open BhDic.Library BhDic.Python

variable (u : UnicodeData)

/-! ## Months of the calendar -/

/-- The months in a row, from the first one of the year 0. -/
def monthIndex (d : Date) : Nat := 12 * d.year + (d.month - 1)

/-- The first and the last day of a month. -/
structure IsMonth (index : Nat) (interval : Date × Date) : Prop where
  firstMonth : monthIndex interval.1 = index
  firstDay : interval.1.day = 1
  lastMonth : monthIndex interval.2 = index
  lastDay : interval.2.day = daysInMonth interval.2.year interval.2.month

/-- The same day some months later, or the last day of a month that is too short. -/
structure MonthsAfter (months : Nat) (today later : Date) : Prop where
  index : monthIndex later = monthIndex today + months
  day : later.day = min today.day (daysInMonth later.year later.month)

theorem monthIndex_eq_iff {d e : Date} :
    monthIndex d = monthIndex e ↔ d.year = e.year ∧ d.month = e.month := by
  have := d.one_le_month
  have := d.month_le
  have := e.one_le_month
  have := e.month_le
  unfold monthIndex
  omega

theorem digits_lt_of_monthIndex {d e : Date} (h : monthIndex d < monthIndex e) :
    d.digits < e.digits := by
  have := d.one_le_month
  have := d.month_le
  have := e.one_le_month
  have := e.month_le
  rw [Date.digits_lt_iff]
  unfold monthIndex at h
  omega

/-- In one month the days are in order. -/
theorem le_of_day_le {d e : Date} (h : monthIndex d = monthIndex e) (hday : d.day ≤ e.day) :
    d ≤ e := by
  obtain ⟨hyear, hmonth⟩ := monthIndex_eq_iff.mp h
  rw [Date.le_def, Date.digits, Date.digits, hyear, hmonth]
  omega

theorem monthIndex_le_of_le {d e : Date} (h : d ≤ e) : monthIndex d ≤ monthIndex e := by
  by_contra hlt
  exact absurd (digits_lt_of_monthIndex (Nat.not_le.mp hlt)) (Nat.not_lt.mpr (Date.le_def.mp h))

/-- Later is not earlier. -/
theorem MonthsAfter.le {months : Nat} {today later : Date} (h : MonthsAfter months today later) :
    today ≤ later := by
  rcases Nat.eq_zero_or_pos months with rfl | hpos
  · have hindex : monthIndex today = monthIndex later := h.index.symm
    obtain ⟨hyear, hmonth⟩ := monthIndex_eq_iff.mp hindex
    apply le_of_day_le hindex
    rw [h.day, ← hyear, ← hmonth]
    exact Nat.le_min.mpr ⟨Nat.le_refl _, today.day_le⟩
  · have hindex := h.index
    exact Date.le_def.mpr (digits_lt_of_monthIndex (by omega)).le

/-- More months after a later day end later. -/
theorem MonthsAfter.mono {months months' : Nat} {today today' later later' : Date}
    (h : MonthsAfter months today later) (h' : MonthsAfter months' today' later')
    (hmonths : months ≤ months') (htoday : today ≤ today') : later ≤ later' := by
  have hindex := h.index
  have hindex' := h'.index
  have hle := monthIndex_le_of_le htoday
  rcases Nat.lt_or_eq_of_le (show monthIndex later ≤ monthIndex later' by omega) with hlt | heq
  · exact Date.le_def.mpr (digits_lt_of_monthIndex hlt).le
  · -- the two end in one month, so the counts are equal and the two begin in one month
    obtain ⟨hyear, hmonth⟩ := monthIndex_eq_iff.mp heq
    have hsame : monthIndex today = monthIndex today' := by omega
    have hday : today.day ≤ today'.day := by
      obtain ⟨hyear, hmonth⟩ := monthIndex_eq_iff.mp hsame
      have hdigits := Date.le_def.mp htoday
      rw [Date.digits, Date.digits, hyear, hmonth] at hdigits
      omega
    apply le_of_day_le heq
    rw [h.day, h'.day, hyear, hmonth]
    exact min_le_min_right _ hday

/-- A month before the end of the calendar. -/
theorem monthInterval?_spec {year month : Nat} (hyear : 1 ≤ year) (hmax : year ≤ 9999)
    (hmonth : 1 ≤ month) (hlast : month ≤ 12) :
    ∃ interval, monthInterval? year month = some interval ∧
      IsMonth (12 * year + (month - 1)) interval := by
  have hlength := daysInMonth_ge year month
  have hfirst : IsDate year month 1 := ⟨⟨hyear, hmax⟩, ⟨hmonth, hlast⟩, le_refl 1, by omega⟩
  have hend : IsDate year month (daysInMonth year month) :=
    ⟨⟨hyear, hmax⟩, ⟨hmonth, hlast⟩, by omega, le_refl _⟩
  refine ⟨(⟨year, month, 1, hfirst⟩, ⟨year, month, daysInMonth year month, hend⟩), ?_,
    rfl, rfl, rfl, rfl⟩
  rw [monthInterval?, Date.make?, Date.make?, dif_pos hfirst, dif_pos hend]
  rfl

theorem nextMonthInterval_spec {today : Date} (h : today.year ≤ 9900) :
    ∃ interval, nextMonthInterval today = .ok interval ∧
      IsMonth (monthIndex today + 1) interval := by
  have := today.one_le_year
  have := today.one_le_month
  have := today.month_le
  unfold nextMonthInterval monthIndex
  split
  · next hmonth =>
      obtain ⟨interval, hinterval, hspec⟩ :=
        @monthInterval?_spec (today.year + 1) 1 (by omega) (by omega) (by omega) (by omega)
      rw [hinterval]
      refine ⟨interval, rfl, ?_⟩
      convert hspec using 1
      omega
  · obtain ⟨interval, hinterval, hspec⟩ :=
      @monthInterval?_spec today.year (today.month + 1) (by omega) (by omega) (by omega) (by omega)
    rw [hinterval]
    refine ⟨interval, rfl, ?_⟩
    convert hspec using 1
    omega

theorem monthsLater_spec {today : Date} {months : Nat} (h : today.year ≤ 9900)
    (hmonths : months ≤ 99) :
    ∃ later, monthsLater today months = .ok later ∧ MonthsAfter months today later := by
  have := today.one_le_year
  have := today.one_le_month
  have := today.month_le
  have hlength := daysInMonth_ge (today.year + (today.month - 1 + months) / 12)
    ((today.month - 1 + months) % 12 + 1)
  have hdate : IsDate (today.year + (today.month - 1 + months) / 12)
      ((today.month - 1 + months) % 12 + 1)
      (min today.day (daysInMonth (today.year + (today.month - 1 + months) / 12)
        ((today.month - 1 + months) % 12 + 1))) := by
    refine ⟨⟨by omega, by omega⟩, ⟨by omega, by omega⟩, ?_, Nat.min_le_right _ _⟩
    exact Nat.le_min.mpr ⟨today.one_le_day, by omega⟩
  refine ⟨⟨_, _, _, hdate⟩, ?_, ?_, rfl⟩
  · rw [monthsLater, Date.make?, dif_pos hdate]
    rfl
  · show 12 * (today.year + (today.month - 1 + months) / 12) +
      ((today.month - 1 + months) % 12 + 1 - 1) = 12 * today.year + (today.month - 1) + months
    omega

/-! ## Counts -/

/-- A casefolded count: a numeral, or a word of `_MONTH_COUNT`. -/
def NamesCount (raw : List Char) (n : Nat) : Prop :=
  (raw ≠ [] ∧ (∀ c ∈ raw, (u.decimalValue c).isSome = true) ∧ readNat u raw = some n) ∨
    ∃ entry ∈ monthCount, entry.1.toList = raw ∧ entry.2 = n

/-- What a count is of. -/
inductive CountUnit
  | months | days
  deriving DecidableEq

/-- The counts that are supported. -/
def CountUnit.Supports : CountUnit → Nat → Prop
  | .months, n => n ≤ 99
  | .days, n => 1 ≤ n ∧ n ≤ 366

/-- The date some units later. -/
def CountUnit.After : CountUnit → Nat → Date → Date → Prop
  | .months, n, today, later => MonthsAfter n today later
  | .days, n, today, later => later.toOrdinal = today.toOrdinal + n

/-- No whole month is asked for. -/
def NoMonthWording (request : List Char) : Prop :=
  found (nextMonth u) request = false ∧ found (thisMonth u) request = false

/-- The count that a request gives: of months, or of days where it gives none of months. -/
def AsksFor (request : List Char) : CountUnit → Nat → Prop
  | .months, n =>
      ∃ m, (nextMonths u).search request = some m ∧
        NamesCount u (u.casefold ((groupOf m 1).getD [])) n
  | .days, n =>
      found (nextMonths u) request = false ∧
        ∃ m, (nextDays u).search request = some m ∧ readNat u ((groupOf m 1).getD []) = some n

section Counts

variable {u}

theorem CountUnit.After.le {unit : CountUnit} {n : Nat} {today later : Date}
    (h : unit.After n today later) : today ≤ later := by
  cases unit with
  | months => exact MonthsAfter.le h
  | days =>
      rw [Date.le_iff_toOrdinal_le]
      have hlater : later.toOrdinal = today.toOrdinal + n := h
      omega

theorem CountUnit.After.mono {unit : CountUnit} {n n' : Nat} {today today' later later' : Date}
    (h : unit.After n today later) (h' : unit.After n' today' later') (hn : n ≤ n')
    (htoday : today ≤ today') : later ≤ later' := by
  cases unit with
  | months => exact MonthsAfter.mono h h' hn htoday
  | days =>
      rw [Date.le_iff_toOrdinal_le] at htoday ⊢
      have hlater : later.toOrdinal = _ := h
      have hlater' : later'.toOrdinal = _ := h'
      omega

theorem monthCount_letters :
    ∀ entry ∈ monthCount, (entry.1.toList.any fun c => isAscii c && !c.isDigit) = true := by
  decide

/-- **The count of a word is read just where the folded word names one.** -/
theorem numberOf_eq_ok (hdigits : HasDigits u) {word : List Char} {k : Int} :
    numberOf u monthCount word = .ok k ↔ ∃ n : Nat, NamesCount u (u.casefold word) n ∧ k = n := by
  unfold numberOf NamesCount
  generalize u.casefold word = raw
  by_cases hraw : isDigitText u raw = true
  · have hparts : raw ≠ [] ∧ ∀ c ∈ raw, u.isDigit c = true := by
      simpa [isDigitText] using hraw
    rw [if_pos hraw, intOf, hdigits.readInt_eq hparts.1 hparts.2]
    constructor
    · intro h
      cases hread : readNat u raw with
      | none =>
          rw [hread] at h
          cases h
      | some n =>
          rw [hread] at h
          obtain rfl := Except.ok.inj h
          exact ⟨n, .inl ⟨hparts.1, hdigits.decimal_of_readNat hparts.2 hread, rfl⟩, rfl⟩
    · rintro ⟨n, hnames, hk⟩
      rcases hnames with ⟨-, -, hread⟩ | ⟨entry, hentry, rfl, -⟩
      · rw [hread, hk]
        rfl
      · obtain ⟨c, hc, hletter⟩ := List.any_eq_true.mp (monthCount_letters entry hentry)
        have hletter : isAscii c = true ∧ c.isDigit = false := by simpa using hletter
        exact absurd rfl (hdigits.ne_of_isDigit (hparts.2 c hc) hletter.1 hletter.2)
  · have hnodigits : ¬(raw ≠ [] ∧ (∀ c ∈ raw, (u.decimalValue c).isSome = true)) := by
      rintro ⟨hne, hdecimal⟩
      apply hraw
      simp only [isDigitText, Bool.and_eq_true, List.all_eq_true, Bool.not_eq_true',
        List.isEmpty_eq_false_iff]
      exact ⟨hne, fun c hc => hdigits.decimal c (hdecimal c hc)⟩
    rw [if_neg hraw]
    constructor
    · intro h
      obtain ⟨n, hn, hk⟩ := map_eq_ok.mp h
      exact ⟨n, .inr ((lookup_eq_ok (by decide)).mp hn), hk.symm⟩
    · rintro ⟨n, hnames, hk⟩
      rcases hnames with ⟨hne, hdecimal, -⟩ | hentry
      · exact absurd ⟨hne, hdecimal⟩ hnodigits
      · exact map_eq_ok.mpr ⟨n, (lookup_eq_ok (by decide)).mpr hentry, hk.symm⟩

/-- One count at most is named. -/
theorem NamesCount.unique (hdigits : HasDigits u) {word : List Char} {n n' : Nat}
    (h : NamesCount u (u.casefold word) n) (h' : NamesCount u (u.casefold word) n') : n = n' := by
  have hok := (numberOf_eq_ok hdigits).mpr ⟨n, h, rfl⟩
  rw [(numberOf_eq_ok hdigits).mpr ⟨n', h', rfl⟩] at hok
  exact Int.ofNat.inj (Except.ok.inj hok).symm

theorem AsksFor.unique (hdigits : HasDigits u) {request : List Char} {unit unit' : CountUnit}
    {n n' : Nat} (h : AsksFor u request unit n) (h' : AsksFor u request unit' n') :
    unit = unit' ∧ n = n' := by
  have hboth : ∀ {n n'}, AsksFor u request .months n → AsksFor u request .days n' → False := by
    intro n n' ⟨m, hm, _⟩ ⟨hnone, _⟩
    rw [found, hm] at hnone
    cases hnone
  match unit, unit', h, h' with
  | .months, .months, ⟨m, hm, hn⟩, ⟨m', hm', hn'⟩ =>
      obtain rfl := Option.some.inj (hm.symm.trans hm')
      exact ⟨rfl, hn.unique hdigits hn'⟩
  | .days, .days, ⟨_, m, hm, hn⟩, ⟨_, m', hm', hn'⟩ =>
      obtain rfl := Option.some.inj (hm.symm.trans hm')
      exact ⟨rfl, Option.some.inj (hn.symm.trans hn')⟩
  | .months, .days, h, h' => exact (hboth h h').elim
  | .days, .months, h, h' => exact (hboth h' h).elim

/-- Digits that a pattern captured are a number. -/
theorem numeral_of_search (hdigits : HasDigits u) {r : Regex} {text : List Char} {m : Regex.Match}
    (h : r.search text = some m) (hcaptures : Regex.alwaysCaptures 1 r = true)
    (hgroup : ∀ body ∈ Regex.groupBodies 1 r,
      Regex.Within (fun c => (u.decimalValue c).isSome = true) body ∧ 0 < Regex.minLength body) :
    ∃ n : Nat, readNat u ((groupOf m 1).getD []) = some n ∧
      intOf u ((groupOf m 1).getD []) = .ok n := by
  obtain ⟨cap, hcap⟩ := Regex.exists_group_of_search h hcaptures
  obtain ⟨body, hbody, hconsumes⟩ := Regex.consumes_of_search h hcap
  obtain ⟨hwithin, hpositive⟩ := hgroup body hbody
  obtain ⟨hdecimal, hlength⟩ := hconsumes.spec hwithin
  have hne : cap.text ≠ [] := List.ne_nil_of_length_pos (by omega)
  obtain ⟨n, hn⟩ := hdigits.exists_readNat hne hdecimal
  have htext : (groupOf m 1).getD [] = cap.text := by
    rw [groupOf, hcap]
    rfl
  refine ⟨n, by rw [htext, hn], ?_⟩
  rw [htext, intOf, hdigits.readInt_eq hne fun c hc => hdigits.decimal c (hdecimal c hc), hn]
  rfl

/-- The digits that `_NEXT_DAYS` captures are a number. -/
theorem nextDays_numeral (hdigits : HasDigits u) {request : List Char} {m : Regex.Match}
    (h : (nextDays u).search request = some m) :
    ∃ n : Nat, readNat u ((groupOf m 1).getD []) = some n ∧
      intOf u ((groupOf m 1).getD []) = .ok n := by
  have hbodies : Regex.groupBodies 1 (nextDays u) =
      [.repeated 1 (some 3) true (.chars fun c =>
        ([RegexSyntax.Item.digit].any (RegexSyntax.Item.accepts u.alphabet true c)) != false)] := rfl
  apply numeral_of_search hdigits h rfl
  intro body hbody
  rw [hbodies, List.mem_singleton] at hbody
  subst hbody
  constructor
  · intro c hc
    simpa [RegexSyntax.Item.accepts, UnicodeData.alphabet] using hc
  · show 0 < 1 * 1
    decide

/-! ## What the wordings give -/

variable {today : Date} {request : List Char}

/-- A count that is supported gives the time from the reference date to that many units later. -/
theorem supportedContractInterval_counted (hdigits : HasDigits u) (hyear : today.year ≤ 9900)
    (hwording : NoMonthWording u request) {unit : CountUnit} {n : Nat}
    (hasks : AsksFor u request unit n) (hn : unit.Supports n) :
    ∃ later, supportedContractInterval u today request = .ok (some (today, later)) ∧
      unit.After n today later := by
  have hnext : ¬found (nextMonth u) request = true := by simp [hwording.1]
  have hthis : ¬found (thisMonth u) request = true := by simp [hwording.2]
  rw [supportedContractInterval, if_neg hnext, if_neg hthis]
  cases unit with
  | months =>
      obtain ⟨m, hm, hcount⟩ := hasks
      obtain ⟨later, hlater, hafter⟩ := monthsLater_spec hyear hn
      rw [hm]
      refine ⟨later, ?_, hafter⟩
      show (numberOf u monthCount _ >>= fun months => _) = _
      rw [(numberOf_eq_ok hdigits).mpr ⟨n, hcount, rfl⟩]
      show (monthsLater today n >>= fun target => _) = _
      rw [hlater]
      rfl
  | days =>
      obtain ⟨hnone, m, hm, hread⟩ := hasks
      obtain ⟨n', hread', hint⟩ := nextDays_numeral hdigits hm
      obtain rfl := Option.some.inj (hread.symm.trans hread')
      have hmonths : (nextMonths u).search request = none := by
        simpa [found] using hnone
      have hordinal : today.toOrdinal + n < firstOfYear 10000 := by
        have := today.toOrdinal_lt_next
        have := firstOfYear_add_le today.one_le_year (show today.year < 9901 by omega)
        have hlast : firstOfYear 9901 + 366 < firstOfYear 10000 := by decide
        have := hn.2
        omega
      obtain ⟨later, hlater, hafter⟩ := Date.plusDays?_spec hordinal
      rw [hmonths, hm]
      refine ⟨later, ?_, hafter⟩
      show (intOf u _ >>= fun days => _) = _
      rw [hint]
      show (if 1 ≤ (n : Int) ∧ (n : Int) ≤ 366 then
        inCalendar (today.plusDays? n) >>= fun target => Except.ok (some (today, target))
        else Except.ok none) = _
      rw [if_pos (by have := hn.1; have := hn.2; omega), hlater]
      rfl

/-- A count of days is read whatever it is, and one of months where it names a number. -/
theorem supportedContractInterval_returns (hdigits : HasDigits u) (hyear : today.year ≤ 9900)
    (hwording : NoMonthWording u request)
    (hrange : ∀ n, AsksFor u request .months n → n ≤ 99)
    (hnames : found (nextMonths u) request = true → ∃ n, AsksFor u request .months n) :
    ∃ interval, supportedContractInterval u today request = .ok interval := by
  cases hmonths : (nextMonths u).search request with
  | some m =>
      obtain ⟨n, hasks⟩ := hnames (by rw [found, hmonths]; rfl)
      obtain ⟨later, hlater, -⟩ :=
        supportedContractInterval_counted hdigits hyear hwording hasks (hrange n hasks)
      exact ⟨_, hlater⟩
  | none =>
      have hnext : ¬found (nextMonth u) request = true := by simp [hwording.1]
      have hthis : ¬found (thisMonth u) request = true := by simp [hwording.2]
      have hnone : found (nextMonths u) request = false := by rw [found, hmonths]; rfl
      cases hdays : (nextDays u).search request with
      | none =>
          rw [supportedContractInterval, if_neg hnext, if_neg hthis, hmonths, hdays]
          exact ⟨none, rfl⟩
      | some m =>
          obtain ⟨n, hread, hint⟩ := nextDays_numeral hdigits hdays
          have hasks : AsksFor u request .days n := ⟨hnone, m, hdays, hread⟩
          by_cases hn : CountUnit.days.Supports n
          · obtain ⟨later, hlater, -⟩ :=
              supportedContractInterval_counted hdigits hyear hwording hasks hn
            exact ⟨_, hlater⟩
          · rw [supportedContractInterval, if_neg hnext, if_neg hthis, hmonths, hdays]
            refine ⟨none, ?_⟩
            show (intOf u _ >>= fun days => _) = _
            rw [hint]
            apply if_neg
            intro h
            apply hn
            show 1 ≤ n ∧ n ≤ 366
            omega

/-- Where a count of months is found, nothing is returned unless it names a number. -/
theorem asksFor_of_returns (hdigits : HasDigits u) (hwording : NoMonthWording u request)
    (hfound : found (nextMonths u) request = true) {interval : Option (Date × Date)}
    (h : supportedContractInterval u today request = .ok interval) :
    ∃ n, AsksFor u request .months n := by
  have hnext : ¬found (nextMonth u) request = true := by simp [hwording.1]
  have hthis : ¬found (thisMonth u) request = true := by simp [hwording.2]
  obtain ⟨m, hm⟩ := Option.isSome_iff_exists.mp hfound
  rw [supportedContractInterval, if_neg hnext, if_neg hthis, hm] at h
  obtain ⟨k, hk, -⟩ := bind_eq_ok.mp h
  obtain ⟨n, hn, -⟩ := (numberOf_eq_ok hdigits).mp hk
  exact ⟨n, m, hm, hn⟩

end Counts

/-- What the intervals are to be, of a request on a day. -/
structure KeepsIntervals (today : Date) (request : List Char) : Prop where
  ofNextMonth : found (nextMonth u) request = true →
    ∃ interval, supportedContractInterval u today request = .ok (some interval) ∧
      IsMonth (monthIndex today + 1) interval
  ofThisMonth : found (nextMonth u) request = false → found (thisMonth u) request = true →
    ∃ interval, supportedContractInterval u today request = .ok (some interval) ∧
      IsMonth (monthIndex today) interval
  /-- A count that the patterns accept, of months up to 99, never raises. -/
  returns : NoMonthWording u request → (∀ n, AsksFor u request .months n → n ≤ 99) →
    found (nextMonths u) request = true ∨ found (nextDays u) request = true →
    ∃ interval, supportedContractInterval u today request = .ok interval
  counted : NoMonthWording u request → ∀ unit n, AsksFor u request unit n → unit.Supports n →
    ∃ later, supportedContractInterval u today request = .ok (some (today, later)) ∧
      today ≤ later ∧ unit.After n today later
  /-- A greater count of the same unit, from a later day, ends later. -/
  monotone : NoMonthWording u request → ∀ unit n, AsksFor u request unit n → unit.Supports n →
    ∀ today' request' n', today'.year ≤ 9900 → NoMonthWording u request' →
      AsksFor u request' unit n' → unit.Supports n' → today ≤ today' → n ≤ n' →
      ∃ later later', supportedContractInterval u today request = .ok (some (today, later)) ∧
        supportedContractInterval u today' request' = .ok (some (today', later')) ∧ later ≤ later'

variable {u}

/-- **The intervals are what they are to be just where a count of months that is found names a
number.** -/
theorem supportedContractInterval_exact (hdigits : HasDigits u) (today : Date)
    (hyear : today.year ≤ 9900) (request : List Char) :
    KeepsIntervals u today request ↔
      (NoMonthWording u request → found (nextMonths u) request = true →
        ∃ m n, (nextMonths u).search request = some m ∧
          NamesCount u (u.casefold ((groupOf m 1).getD [])) n) := by
  have hasks : (∃ m n, (nextMonths u).search request = some m ∧
      NamesCount u (u.casefold ((groupOf m 1).getD [])) n) ↔
      ∃ n, AsksFor u request .months n := by
    constructor
    · intro ⟨m, n, h⟩
      exact ⟨n, m, h⟩
    · intro ⟨n, m, h⟩
      exact ⟨m, n, h⟩
  rw [hasks]
  constructor
  · intro h hwording hfound
    by_contra hnone
    obtain ⟨interval, hinterval⟩ :=
      h.returns hwording (fun n hn => absurd ⟨n, hn⟩ hnone) (.inl hfound)
    exact hnone (asksFor_of_returns hdigits hwording hfound hinterval)
  · intro h
    refine ⟨?_, ?_, ?_, ?_, ?_⟩
    · intro hfound
      obtain ⟨interval, hinterval, hmonth⟩ := nextMonthInterval_spec hyear
      rw [supportedContractInterval, if_pos hfound, hinterval]
      exact ⟨interval, rfl, hmonth⟩
    · intro hnot hfound
      obtain ⟨interval, hinterval, hmonth⟩ := @monthInterval?_spec today.year today.month
        today.one_le_year (by omega) today.one_le_month today.month_le
      rw [supportedContractInterval, if_neg (by simp [hnot]), if_pos hfound, hinterval]
      exact ⟨interval, rfl, hmonth⟩
    · intro hwording hrange _
      exact supportedContractInterval_returns hdigits hyear hwording hrange (h hwording)
    · intro hwording unit n hn hsupported
      obtain ⟨later, hlater, hafter⟩ :=
        supportedContractInterval_counted hdigits hyear hwording hn hsupported
      exact ⟨later, hlater, hafter.le, hafter⟩
    · intro hwording unit n hn hsupported today' request' n' hyear' hwording' hn' hsupported' htoday
        hle
      obtain ⟨later, hlater, hafter⟩ :=
        supportedContractInterval_counted hdigits hyear hwording hn hsupported
      obtain ⟨later', hlater', hafter'⟩ :=
        supportedContractInterval_counted hdigits hyear' hwording' hn' hsupported'
      exact ⟨later, later', hlater, hlater', hafter.mono hafter' hle htoday⟩

/-! ## A count in another spelling -/

/-- The tables of ASCII, and the dotless i, which `re.IGNORECASE` takes for an i. -/
def dotlessTables : UnicodeData where
  __ := asciiTables
  isWord c := c.isAlphanum || c == '_' || c == 'ı'
  sameIgnoringCase c d := c.toLower == d.toLower || (c == 'ı' && d.toLower == 'i')
  isDigit_digitChar := by decide
  decimalValue_digitChar := asciiTables.decimalValue_digitChar

theorem dotlessTables_hasDigits : HasDigits dotlessTables :=
  ⟨asciiTables_hasDigits.ascii, asciiTables_hasDigits.space, asciiTables_hasDigits.decimal⟩

def lastOfJanuary : Date := ⟨2024, 1, 31, by decide⟩

theorem supportedContractInterval_exact_lastOfJanuary :
    KeepsIntervals dotlessTables lastOfJanuary "contratti nei prossimi dieci mesi".toList ↔
      (NoMonthWording dotlessTables "contratti nei prossimi dieci mesi".toList →
        found (nextMonths dotlessTables) "contratti nei prossimi dieci mesi".toList = true →
        ∃ m n,
          (nextMonths dotlessTables).search "contratti nei prossimi dieci mesi".toList = some m ∧
          NamesCount dotlessTables (dotlessTables.casefold ((groupOf m 1).getD [])) n) :=
  supportedContractInterval_exact dotlessTables_hasDigits lastOfJanuary (by decide) _

/-- `dıeci` is found, and then looked up. -/
theorem supportedContractInterval_dotless :
    ¬KeepsIntervals dotlessTables lastOfJanuary "contratti nei prossimi dıeci mesi".toList := by
  intro h
  have hwording : NoMonthWording dotlessTables "contratti nei prossimi dıeci mesi".toList := by
    unfold NoMonthWording
    decide
  have hcount : ((nextMonths dotlessTables).search "contratti nei prossimi dıeci mesi".toList).map
      (fun m => (numberOf dotlessTables monthCount ((groupOf m 1).getD [])).toOption) =
      some none := by
    decide
  have hraised : (supportedContractInterval dotlessTables lastOfJanuary
      "contratti nei prossimi dıeci mesi".toList).toOption = none := by
    decide
  have hnone : ∀ n, AsksFor dotlessTables "contratti nei prossimi dıeci mesi".toList .months n →
      n ≤ 99 := by
    intro n ⟨m, hm, hnames⟩
    have hok := (numberOf_eq_ok dotlessTables_hasDigits).mpr ⟨n, hnames, rfl⟩
    rw [hm, Option.map_some, hok] at hcount
    cases hcount
  obtain ⟨interval, hinterval⟩ := h.returns hwording hnone (.inl (by decide))
  rw [hinterval] at hraised
  cases hraised

end BhDic.HrAssistant
