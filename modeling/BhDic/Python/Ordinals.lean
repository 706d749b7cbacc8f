import BhDic.Python.Calendar

/-!
# The days in a row

`toOrdinal` numbers the days of the calendar one after the other, in the order of the dates, and
`ofOrdinal` reads the numbering backwards. So moving a date by days is addition.
-/

namespace BhDic.Python

/-! ## Months of a year -/

theorem daysInMonth_ge (year month : Nat) : 28 ≤ daysInMonth year month := by
  unfold daysInMonth
  grind

theorem daysInMonth_le (year month : Nat) : daysInMonth year month ≤ 31 := by
  unfold daysInMonth
  grind

/-- The days of a year before a month, as `_days_before_month` adds them up. -/
def daysBefore (year month : Nat) : Nat :=
  ((List.range' 1 (month - 1)).map (daysInMonth year)).sum

theorem daysBefore_succ (year : Nat) {month : Nat} (h : 1 ≤ month) :
    daysBefore year (month + 1) = daysBefore year month + daysInMonth year month := by
  obtain ⟨k, rfl⟩ : ∃ k, month = k + 1 := ⟨month - 1, by omega⟩
  show ((List.range' 1 (k + 1)).map (daysInMonth year)).sum =
    ((List.range' 1 k).map (daysInMonth year)).sum + daysInMonth year (k + 1)
  rw [List.range'_concat, List.map_append, List.sum_append]
  simp [Nat.add_comm]

/-- A month ends before a later one begins. -/
theorem daysBefore_add_le (year : Nat) {month later : Nat} (h : 1 ≤ month) (hlt : month < later) :
    daysBefore year month + daysInMonth year month ≤ daysBefore year later := by
  induction later with
  | zero => omega
  | succ later ih =>
      rw [daysBefore_succ year (by omega)]
      rcases Nat.lt_succ_iff_lt_or_eq.mp hlt with hlt | rfl
      · have := ih hlt
        omega
      · omega

/-- The length of a year. -/
def daysInYear (year : Nat) : Nat := if isLeap year then 366 else 365

theorem daysBefore_end (year : Nat) : daysBefore year 13 = daysInYear year := by
  have hsum : ∀ february,
      ((List.range' 1 12).map fun month =>
        if month = 2 then february else if month ∈ [4, 6, 9, 11] then 30 else 31).sum =
      337 + february := by
    intro february
    simp [List.range'_succ]
    omega
  rw [daysInYear]
  have h := hsum (if isLeap year then 29 else 28)
  show ((List.range' 1 12).map (daysInMonth year)).sum = _
  unfold daysInMonth
  rw [h]
  split
  · rfl
  · rfl

/-- A year ends where the next one begins. -/
theorem firstOfYear_succ {year : Nat} (h : 1 ≤ year) :
    firstOfYear (year + 1) = firstOfYear year + daysInYear year := by
  obtain ⟨y, rfl⟩ : ∃ y, year = y + 1 := ⟨year - 1, by omega⟩
  have h4 := @Nat.succ_div y 4
  have h100 := @Nat.succ_div y 100
  have h400 := @Nat.succ_div y 400
  have hle : y / 100 ≤ y / 4 := Nat.div_le_div_left (by decide) (by decide)
  have hcentury : 100 ∣ y + 1 → 4 ∣ y + 1 := (Dvd.dvd.trans (by decide) ·)
  have hera : 400 ∣ y + 1 → 100 ∣ y + 1 := (Dvd.dvd.trans (by decide) ·)
  have hleap : isLeap (y + 1) = true ↔ 4 ∣ y + 1 ∧ (¬100 ∣ y + 1 ∨ 400 ∣ y + 1) := by
    simp [isLeap, Nat.dvd_iff_mod_eq_zero]
  simp only [firstOfYear, daysInYear, Nat.add_sub_cancel, h4, h100, h400]
  grind

theorem one_le_firstOfYear (year : Nat) : 1 ≤ firstOfYear year := Nat.le_add_left _ _

theorem firstOfYear_add_le {year later : Nat} (h : 1 ≤ year) (hlt : year < later) :
    firstOfYear year + daysInYear year ≤ firstOfYear later := by
  induction later with
  | zero => omega
  | succ later ih =>
      rw [firstOfYear_succ (by omega)]
      rcases Nat.lt_succ_iff_lt_or_eq.mp hlt with hlt | rfl
      · have := ih hlt
        omega
      · omega

/-! ## The order of the dates -/

namespace Date

theorem toOrdinal_eq (d : Date) :
    d.toOrdinal = firstOfYear d.year + daysBefore d.year d.month + d.day - 1 := rfl

theorem day_le (d : Date) : d.day ≤ daysInMonth d.year d.month := d.isDate.2.2.2

theorem one_le_day (d : Date) : 1 ≤ d.day := d.isDate.2.2.1

theorem one_le_month (d : Date) : 1 ≤ d.month := d.isDate.2.1.1

theorem month_le (d : Date) : d.month ≤ 12 := d.isDate.2.1.2

theorem one_le_year (d : Date) : 1 ≤ d.year := d.isDate.1.1

/-- A date lies in its year. -/
theorem toOrdinal_lt_next (d : Date) : d.toOrdinal < firstOfYear d.year + daysInYear d.year := by
  have hmonth := daysBefore_add_le d.year d.one_le_month (Nat.lt_succ_of_le d.month_le)
  rw [Nat.succ_eq_add_one, daysBefore_end] at hmonth
  have := d.day_le
  have := d.one_le_day
  have hfirst := one_le_firstOfYear d.year
  rw [toOrdinal_eq]
  omega

theorem firstOfYear_le_toOrdinal (d : Date) : firstOfYear d.year ≤ d.toOrdinal := by
  have := d.one_le_day
  rw [toOrdinal_eq]
  omega

/-- An earlier date, part by part. -/
theorem digits_lt_iff {d e : Date} :
    d.digits < e.digits ↔ d.year < e.year ∨ d.year = e.year ∧ (d.month < e.month ∨
      d.month = e.month ∧ d.day < e.day) := by
  have hd := d.day_le.trans (daysInMonth_le _ _)
  have he := e.day_le.trans (daysInMonth_le _ _)
  have := d.month_le
  have := e.month_le
  unfold digits
  omega

theorem toOrdinal_lt {d e : Date} (h : d.digits < e.digits) : d.toOrdinal < e.toOrdinal := by
  rcases digits_lt_iff.mp h with hyear | ⟨hyear, hmonth | ⟨hmonth, hday⟩⟩
  · calc d.toOrdinal < firstOfYear d.year + daysInYear d.year := d.toOrdinal_lt_next
      _ ≤ firstOfYear e.year := firstOfYear_add_le d.one_le_year hyear
      _ ≤ e.toOrdinal := e.firstOfYear_le_toOrdinal
  · have hbefore := daysBefore_add_le d.year d.one_le_month hmonth
    have := d.day_le
    have := d.one_le_day
    have := e.one_le_day
    rw [toOrdinal_eq, toOrdinal_eq, ← hyear]
    omega
  · have := d.one_le_day
    rw [toOrdinal_eq, toOrdinal_eq, ← hyear, ← hmonth]
    omega

/-- **The numbering is in the order of the dates.** -/
theorem le_iff_toOrdinal_le {d e : Date} : d ≤ e ↔ d.toOrdinal ≤ e.toOrdinal := by
  constructor
  · intro h
    rcases Nat.lt_or_eq_of_le (le_def.mp h) with hlt | heq
    · exact (toOrdinal_lt hlt).le
    · have hparts : d.year = e.year ∧ d.month = e.month ∧ d.day = e.day := by
        have hd := mt digits_lt_iff.mpr (Nat.not_lt.mpr heq.ge)
        have he := mt digits_lt_iff.mpr (Nat.not_lt.mpr heq.le)
        omega
      rw [toOrdinal_eq, toOrdinal_eq, hparts.1, hparts.2.1, hparts.2.2]
  · intro h
    by_contra hlt
    exact absurd (toOrdinal_lt (Nat.not_le.mp (mt le_def.mpr hlt))) (Nat.not_lt.mpr h)

end Date

/-! ## Backwards -/

/-- The `n`-th day of the months given, from 0, is a day of one of them. -/
theorem monthAndDay_spec (year : Nat) {first count n : Nat}
    (h : n < ((List.range' first count).map (daysInMonth year)).sum) :
    ∃ k day, k < count ∧ 1 ≤ day ∧ day ≤ daysInMonth year (first + k) ∧
      monthAndDay year (List.range' first count) n = (first + k, day) ∧
      ((List.range' first k).map (daysInMonth year)).sum + day = n + 1 := by
  induction count generalizing first n with
  | zero => simp at h
  | succ count ih =>
      rw [List.range'_succ, List.map_cons, List.sum_cons] at h
      rw [List.range'_succ, monthAndDay]
      by_cases hn : n < daysInMonth year first
      · rw [if_pos hn]
        exact ⟨0, n + 1, by omega, by omega, hn, rfl, by simp⟩
      · obtain ⟨k, day, hk, hone, hday, hresult, hsum⟩ :=
          @ih (first + 1) (n - daysInMonth year first) (by omega)
        rw [if_neg hn, hresult]
        refine ⟨k + 1, day, by omega, hone, ?_, ?_, ?_⟩
        · rwa [Nat.add_right_comm, Nat.add_assoc] at hday
        · rw [Nat.add_right_comm, Nat.add_assoc]
        · rw [List.range'_succ, List.map_cons, List.sum_cons]
          omega

/-- The day after `n` others of a year, as a date. -/
theorem exists_date {year n : Nat} (hyear : 1 ≤ year) (hmax : year ≤ 9999)
    (hn : n < daysInYear year) :
    ∃ d : Date, d.toOrdinal = firstOfYear year + n ∧ d.year = year ∧
      monthAndDay year (List.range' 1 12) n = (d.month, d.day) := by
  rw [← daysBefore_end] at hn
  obtain ⟨k, day, hk, hone, hday, hresult, hsum⟩ := monthAndDay_spec year hn
  refine ⟨⟨year, 1 + k, day, ⟨hyear, hmax⟩, ⟨by omega, by omega⟩, hone, hday⟩, ?_, rfl, hresult⟩
  rw [Date.toOrdinal_eq, daysBefore]
  dsimp only
  rw [Nat.add_sub_cancel_left]
  omega

/-- The last day of a leap year. -/
theorem monthAndDay_last {year : Nat} (h : isLeap year = true) :
    monthAndDay year (List.range' 1 12) 365 = (12, 31) := by
  simp [List.range'_succ, monthAndDay, daysInMonth, h]

/-- Where a year begins, by its place among the centuries and the leap years. -/
theorem firstOfYear_parts (n400 : Nat) {n100 n4 n1 : Nat} (h100 : n100 ≤ 3) (h4 : n4 ≤ 24)
    (h1 : n1 ≤ 3) :
    firstOfYear (n400 * 400 + n100 * 100 + n4 * 4 + n1 + 1) =
      n400 * 146097 + n100 * 36524 + n4 * 1461 + n1 * 365 + 1 := by
  have hleaps : (n400 * 400 + n100 * 100 + n4 * 4 + n1) / 4 = n400 * 100 + n100 * 25 + n4 := by
    omega
  have hcenturies : (n400 * 400 + n100 * 100 + n4 * 4 + n1) / 100 = n400 * 4 + n100 := by omega
  have heras : (n400 * 400 + n100 * 100 + n4 * 4 + n1) / 400 = n400 := by omega
  simp only [firstOfYear, Nat.add_sub_cancel, hleaps, hcenturies, heras]
  omega

/-- The year of a day's number, and the days of that year before it. The leap day at the end of four
years, or of four centuries, is where the divisions leave one year too many. -/
theorem ofOrdinal_eq {n : Nat} (h : 1 ≤ n) :
    ∃ year rest, 1 ≤ year ∧ rest < daysInYear year ∧ firstOfYear year + rest = n ∧
      ofOrdinal n = (year, monthAndDay year (List.range' 1 12) rest) := by
  obtain ⟨m, rfl⟩ : ∃ m, n = m + 1 := ⟨n - 1, by omega⟩
  obtain ⟨n400, m400, hn400, hm400⟩ : ∃ a b, a = m / 146097 ∧ b = m % 146097 := ⟨_, _, rfl, rfl⟩
  obtain ⟨n100, m100, hn100, hm100⟩ : ∃ a b, a = m400 / 36524 ∧ b = m400 % 36524 := ⟨_, _, rfl, rfl⟩
  obtain ⟨n4, m4, hn4, hm4⟩ : ∃ a b, a = m100 / 1461 ∧ b = m100 % 1461 := ⟨_, _, rfl, rfl⟩
  obtain ⟨n1, rest, hn1, hrest⟩ : ∃ a b, a = m4 / 365 ∧ b = m4 % 365 := ⟨_, _, rfl, rfl⟩
  have hresult : ofOrdinal (m + 1) =
      if n1 = 4 ∨ n100 = 4 then (n400 * 400 + n100 * 100 + n4 * 4 + n1, 12, 31)
      else (n400 * 400 + n100 * 100 + n4 * 4 + n1 + 1,
        monthAndDay (n400 * 400 + n100 * 100 + n4 * 4 + n1 + 1) (List.range' 1 12) rest) := by
    simp only [ofOrdinal, Nat.add_sub_cancel, hn400, hn100, hn4, hn1, hm400, hm100, hm4, hrest]
  rw [hresult]
  by_cases hlast : n1 = 4 ∨ n100 = 4
  · have hleap : isLeap (n400 * 400 + n100 * 100 + n4 * 4 + n1) = true := by
      simp only [isLeap, Bool.and_eq_true, Bool.or_eq_true, beq_iff_eq, bne_iff_ne]
      omega
    refine ⟨n400 * 400 + n100 * 100 + n4 * 4 + n1, 365, by omega, ?_, ?_, ?_⟩
    · rw [daysInYear, if_pos hleap]
      omega
    · by_cases hera : n100 = 4
      · have hyear : n400 * 400 + n100 * 100 + n4 * 4 + n1 =
            n400 * 400 + 3 * 100 + 24 * 4 + 3 + 1 := by
          omega
        have hfirst := firstOfYear_parts n400 (le_refl 3) (le_refl 24) (le_refl 3)
        rw [← hyear] at hfirst
        omega
      · have hyear : n400 * 400 + n100 * 100 + n4 * 4 + n1 =
            n400 * 400 + n100 * 100 + n4 * 4 + 3 + 1 := by
          omega
        have hfirst := @firstOfYear_parts n400 n100 n4 3 (by omega) (by omega) (le_refl 3)
        rw [← hyear] at hfirst
        omega
    · rw [if_pos hlast, monthAndDay_last hleap]
  · refine ⟨n400 * 400 + n100 * 100 + n4 * 4 + n1 + 1, rest, by omega, ?_, ?_, ?_⟩
    · unfold daysInYear
      grind
    · rw [firstOfYear_parts n400 (by omega) (by omega) (by omega)]
      omega
    · rw [if_neg hlast]

namespace Date

/-- **A number before the end of the calendar is that of a date.** -/
theorem ofOrdinal?_spec {n : Nat} (h : 1 ≤ n) (hmax : n < firstOfYear 10000) :
    ∃ d, ofOrdinal? n = some d ∧ d.toOrdinal = n := by
  obtain ⟨year, rest, hyear, hrest, hn, hresult⟩ := ofOrdinal_eq h
  have hyears : year ≤ 9999 := by
    by_contra hlate
    rcases Nat.lt_or_eq_of_le (show 10000 ≤ year by omega) with hlt | rfl
    · have := firstOfYear_add_le (by decide) hlt
      omega
    · omega
  obtain ⟨d, hd, rfl, hparts⟩ := exists_date hyear hyears hrest
  refine ⟨d, ?_, hd.trans hn⟩
  rw [ofOrdinal?, hresult, hparts]
  exact dif_pos d.isDate

/-- Some days later, before the end of the calendar. -/
theorem plusDays?_spec {d : Date} {days : Nat} (h : d.toOrdinal + days < firstOfYear 10000) :
    ∃ later, d.plusDays? days = some later ∧ later.toOrdinal = d.toOrdinal + days := by
  have := one_le_firstOfYear d.year
  have := d.firstOfYear_le_toOrdinal
  exact ofOrdinal?_spec (by omega) h

end Date

end BhDic.Python
