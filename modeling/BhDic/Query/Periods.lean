import BhDic.HrAssistant.ContractIntervals
import BhDic.Query.Planner

/-!
# Periods of payrolls

The planner and the local parser both read the month of a payroll out of a request. They take the
same month where the month that stands first in the text is the earliest one of the year that the
text names, and they part where no year is named: the planner never goes beyond the current month,
the local parser stays in the current year.
-/

namespace BhDic.Query

open BhDic.HrAssistant BhDic.Library BhDic.Python

namespace Planner

variable (u : UnicodeData) (today : Date) (request : List Char)

/-! ## What each of the two reads -/

/-- The year that the planner finds. -/
def plannedYear : Option Nat :=
  ((explicitYear u).search (u.casefold request)).bind fun m => readNat u ((groupOf m 1).getD [])

/-- The year that the local parser finds. -/
def localYear : Option Nat :=
  ((payrollYear u).search request).bind fun m => readNat u ((groupOf m 1).getD [])

/-- The year of the latest such month that is not after the reference date. -/
def latestYear (month : Nat) : Nat := if today.month < month then today.year - 1 else today.year

/-- Not after the month of the reference date. -/
def NotAfter (period : Int × Nat) : Prop :=
  period.1 < today.year ∨ period.1 = today.year ∧ period.2 ≤ today.month

/-- What the two promise: one period where both find a month, and without a year none that is still
to come. -/
structure PeriodsAgree : Prop where
  same : (namedMonth u request).isSome = true → found (payrollMonth u) request = true →
    ∃ period, payrollPeriod u today request = .ok (some period) ∧
      localPayrollPresencePeriod u today request = .ok (some period)
  notAfter : plannedYear u request = none → localYear u request = none → ∀ period,
    payrollPeriod u today request = .ok (some period) ∨
      localPayrollPresencePeriod u today request = .ok (some period) →
    NotAfter today period

/-- What a request has to be for that. -/
structure NamesOnePeriod : Prop where
  /-- The month that stands first in the request, casefolded, is the earliest of the year among those
  that the casefolded request names. -/
  month : ∀ entry, namedMonth u request = some entry →
    ∀ m, (payrollMonth u).search request = some m →
      u.casefold ((groupOf m 1).getD []) = entry.1.toList
  /-- The two patterns for years find one year, or the one that finds a year finds what the other
  takes without one. -/
  year : ∀ entry, namedMonth u request = some entry → found (payrollMonth u) request = true →
    match plannedYear u request, localYear u request with
    | none, none => True
    | some year, some year' => year = year'
    | some year, none => year = today.year
    | none, some year => year = latestYear today entry.2
  /-- A month without a year is not after that of the reference date. -/
  past : plannedYear u request = none → localYear u request = none →
    ∀ m, (payrollMonth u).search request = some m →
    ∀ entry ∈ monthNumberByName, u.casefold ((groupOf m 1).getD []) = entry.1.toList →
      entry.2 ≤ today.month

section Readings

variable {u today request}

/-- A member of a class without flags. -/
def oneOf (u : UnicodeData) (item : RegexSyntax.Item) : Regex :=
  RegexSyntax.atomOf u.alphabet {} (.one false [item])

theorem within_digit {item : RegexSyntax.Item}
    (h : item ∈ [.digit, .range '0' '9', .char '0', .char '1', .char '2']) :
    Regex.Within (fun c => (u.decimalValue c).isSome = true) (oneOf u item) := by
  intro c hc
  have haccepts : item.accepts u.alphabet false c = true := by
    simpa using hc
  have hascii : c.isDigit = true → (u.decimalValue c).isSome = true := by
    intro hdigit
    obtain ⟨d, rfl, -⟩ := eq_digitChar_of_isDigit hdigit
    rw [u.decimalValue_digitChar]
    rfl
  simp only [List.mem_cons, List.not_mem_nil, or_false] at h
  rcases h with rfl | rfl | rfl | rfl | rfl
  · exact haccepts
  · apply hascii
    simpa [RegexSyntax.Item.accepts, Char.isDigit, Char.le_def] using haccepts
  all_goals
    apply hascii
    obtain rfl : c = _ := by simpa [RegexSyntax.Item.accepts] using haccepts
    decide

theorem explicitYear_numeral (hdigits : HasDigits u) {text : List Char} {m : Regex.Match}
    (h : (explicitYear u).search text = some m) :
    ∃ n : Nat, readNat u ((groupOf m 1).getD []) = some n ∧
      intOf u ((groupOf m 1).getD []) = .ok n := by
  have hbodies : Regex.groupBodies 1 (explicitYear u) = [Regex.choice
      [Regex.sequence [oneOf u (.char '2'), oneOf u (.char '0'),
        .repeated 2 (some 2) true (oneOf u (.range '0' '9'))],
      Regex.sequence [oneOf u (.char '2'), oneOf u (.char '1'),
        .repeated 2 (some 2) true (oneOf u (.range '0' '9'))],
      Regex.sequence ([.char '2', .char '2', .char '0', .char '0'].map (oneOf u))]] := rfl
  apply numeral_of_search hdigits h rfl
  intro body hbody
  rw [hbodies, List.mem_singleton] at hbody
  subst hbody
  have hzero := @within_digit u (.char '0') (by decide)
  have hone := @within_digit u (.char '1') (by decide)
  have htwo := @within_digit u (.char '2') (by decide)
  have hrange := @within_digit u (.range '0' '9') (by decide)
  refine ⟨⟨⟨htwo, hzero, hrange⟩, ⟨htwo, hone, hrange⟩, htwo, htwo, hzero, hzero⟩, ?_⟩
  exact Nat.lt_of_lt_of_eq (show 0 < 4 by decide) rfl

theorem payrollYear_numeral (hdigits : HasDigits u) {text : List Char} {m : Regex.Match}
    (h : (payrollYear u).search text = some m) :
    ∃ n : Nat, readNat u ((groupOf m 1).getD []) = some n ∧
      intOf u ((groupOf m 1).getD []) = .ok n := by
  have hbodies : Regex.groupBodies 1 (payrollYear u) =
      [Regex.sequence [oneOf u (.char '2'), oneOf u (.char '0'),
        .repeated 2 (some 2) true (oneOf u .digit)]] := rfl
  apply numeral_of_search hdigits h rfl
  intro body hbody
  rw [hbodies, List.mem_singleton] at hbody
  subst hbody
  have hzero := @within_digit u (.char '0') (by decide)
  have htwo := @within_digit u (.char '2') (by decide)
  have hdigit := @within_digit u .digit (by decide)
  refine ⟨⟨htwo, hzero, hdigit⟩, ?_⟩
  exact Nat.lt_of_lt_of_eq (show 0 < 4 by decide) rfl

/-- **The period of the planner.** -/
theorem payrollPeriod_eq (hdigits : HasDigits u) {entry : String × Nat}
    (h : namedMonth u request = some entry) :
    payrollPeriod u today request =
      .ok (some (((plannedYear u request).getD (latestYear today entry.2) : Nat), entry.2)) := by
  rw [payrollPeriod, h]
  dsimp only
  unfold plannedYear
  cases hyear : (explicitYear u).search (u.casefold request) with
  | some m =>
      obtain ⟨n, hread, hint⟩ := explicitYear_numeral hdigits hyear
      dsimp only
      rw [hint, Option.bind_some, hread]
      rfl
  | none =>
      rw [Option.bind_none, Option.getD_none, latestYear]
      by_cases hlater : today.month < entry.2
      · simp only [if_pos hlater, Int.ofNat_sub today.one_le_year]
        rfl
      · simp only [if_neg hlater]

/-- **The period of the local parser**, where the table has the month. -/
theorem localPayrollPresencePeriod_eq (hdigits : HasDigits u) {m : Regex.Match}
    (h : (payrollMonth u).search request = some m) :
    localPayrollPresencePeriod u today request =
      (lookup monthNumberByName (u.casefold ((groupOf m 1).getD []))).map fun month =>
        some ((((localYear u request).getD today.year : Nat) : Int), month) := by
  have hyear :
      yearOf u today request = .ok (((localYear u request).getD today.year : Nat) : Int) := by
    unfold yearOf localYear
    cases hyear : (payrollYear u).search request with
    | some m =>
        obtain ⟨n, hread, hint⟩ := payrollYear_numeral hdigits hyear
        dsimp only
        rw [hint, Option.bind_some, hread]
        rfl
    | none => rfl
  rw [localPayrollPresencePeriod, h]
  show (yearOf u today request >>= fun year => _) = _
  rw [hyear]
  cases lookup monthNumberByName (u.casefold ((groupOf m 1).getD [])) with
  | ok month => rfl
  | error e => rfl

theorem localPayrollPresencePeriod_eq_some (hdigits : HasDigits u) {m : Regex.Match}
    (h : (payrollMonth u).search request = some m) {period : Int × Nat} :
    localPayrollPresencePeriod u today request = .ok (some period) ↔
      ∃ entry ∈ monthNumberByName, entry.1.toList = u.casefold ((groupOf m 1).getD []) ∧
        period = ((((localYear u request).getD today.year : Nat) : Int), entry.2) := by
  rw [localPayrollPresencePeriod_eq hdigits h]
  constructor
  · intro hresult
    obtain ⟨month, hmonth, hperiod⟩ := map_eq_ok.mp hresult
    obtain ⟨entry, hentry, hname, rfl⟩ := (lookup_eq_ok (by decide)).mp hmonth
    exact ⟨entry, hentry, hname, (Option.some.inj hperiod).symm⟩
  · intro ⟨entry, hentry, hname, hperiod⟩
    apply map_eq_ok.mpr
    exact ⟨entry.2, (lookup_eq_ok (by decide)).mpr ⟨entry, hentry, hname, rfl⟩, by rw [hperiod]⟩

theorem namedMonth_mem {entry : String × Nat} (h : namedMonth u request = some entry) :
    entry ∈ monthNumberByName := List.mem_of_find?_eq_some h

/-- A month has one name. -/
theorem monthNumberByName_injective :
    ∀ entry ∈ monthNumberByName, ∀ entry' ∈ monthNumberByName,
      entry.2 = entry'.2 → entry = entry' := by
  decide

/-! ## Where they agree -/

/-- One period where both find a month, said of what they find. -/
theorem same_iff (hdigits : HasDigits u) {entry : String × Nat}
    (hentry : namedMonth u request = some entry) {m : Regex.Match}
    (hm : (payrollMonth u).search request = some m) :
    (∃ period, payrollPeriod u today request = .ok (some period) ∧
        localPayrollPresencePeriod u today request = .ok (some period)) ↔
      u.casefold ((groupOf m 1).getD []) = entry.1.toList ∧
        (plannedYear u request).getD (latestYear today entry.2) =
          (localYear u request).getD today.year := by
  rw [payrollPeriod_eq hdigits hentry]
  constructor
  · intro ⟨period, hplanned, hlocal⟩
    obtain ⟨entry', hentry', hname, hperiod⟩ :=
      (localPayrollPresencePeriod_eq_some hdigits hm).mp hlocal
    rw [hperiod] at hplanned
    obtain ⟨hyears, hmonths⟩ := Prod.mk.inj (Option.some.inj (Except.ok.inj hplanned))
    obtain rfl := monthNumberByName_injective entry (namedMonth_mem hentry) entry' hentry' hmonths
    exact ⟨hname.symm, Int.ofNat.inj hyears⟩
  · intro ⟨hname, hyears⟩
    refine ⟨_, rfl, (localPayrollPresencePeriod_eq_some hdigits hm).mpr ?_⟩
    exact ⟨entry, namedMonth_mem hentry, hname.symm, by rw [hyears]⟩

theorem latestYear_eq_iff {month : Nat} : latestYear today month = today.year ↔
    month ≤ today.month := by
  have := today.one_le_year
  unfold latestYear
  grind

theorem notAfter_latestYear (month : Nat) : NotAfter today (latestYear today month, month) := by
  have := today.one_le_year
  unfold NotAfter latestYear
  grind

/-- **The two parsers agree on a period, and without a year take none to come, just where the request
names one period to both.** -/
theorem periodsAgree_iff (hdigits : HasDigits u) (today : Date) (request : List Char) :
    PeriodsAgree u today request ↔ NamesOnePeriod u today request := by
  constructor
  · intro h
    have hsame : ∀ entry m, namedMonth u request = some entry →
        (payrollMonth u).search request = some m →
        u.casefold ((groupOf m 1).getD []) = entry.1.toList ∧
          (plannedYear u request).getD (latestYear today entry.2) =
            (localYear u request).getD today.year := by
      intro entry m hentry hm
      apply (same_iff hdigits hentry hm).mp
      apply h.same
      · rw [hentry]
        rfl
      · rw [found, hm]
        rfl
    refine ⟨?_, ?_, ?_⟩
    · intro entry hentry m hm
      exact (hsame entry m hentry hm).1
    · intro entry hentry hfound
      obtain ⟨m, hm⟩ := Option.isSome_iff_exists.mp hfound
      have hyears := (hsame entry m hentry hm).2
      cases hplanned : plannedYear u request with
      | none =>
          cases hlocal : localYear u request with
          | none => trivial
          | some year => simpa [hplanned, hlocal] using hyears.symm
      | some year =>
          cases hlocal : localYear u request with
          | none => simpa [hplanned, hlocal] using hyears
          | some year' => simpa [hplanned, hlocal] using hyears
    · intro hplanned hlocal m hm entry hentry hname
      have hresult := (@localPayrollPresencePeriod_eq_some u today request hdigits m hm
        ((((localYear u request).getD today.year : Nat) : Int), entry.2)).mpr
        ⟨entry, hentry, hname.symm, rfl⟩
      have hpast := h.notAfter hplanned hlocal _ (.inr hresult)
      rw [hlocal] at hpast
      rcases hpast with hyear | ⟨-, hmonth⟩
      · exact absurd hyear (lt_irrefl _)
      · exact hmonth
  · intro h
    refine ⟨?_, ?_⟩
    · intro hnamed hfound
      obtain ⟨entry, hentry⟩ := Option.isSome_iff_exists.mp hnamed
      obtain ⟨m, hm⟩ := Option.isSome_iff_exists.mp hfound
      have hmonth := h.month entry hentry m hm
      apply (same_iff hdigits hentry hm).mpr
      refine ⟨hmonth, ?_⟩
      have hyear := h.year entry hentry hfound
      cases hplanned : plannedYear u request with
      | none =>
          cases hlocal : localYear u request with
          | none =>
              exact latestYear_eq_iff.mpr
                (h.past hplanned hlocal m hm entry (namedMonth_mem hentry) hmonth)
          | some year =>
              rw [hplanned, hlocal] at hyear
              exact hyear.symm
      | some year =>
          cases hlocal : localYear u request with
          | none =>
              rw [hplanned, hlocal] at hyear
              exact hyear
          | some year' =>
              rw [hplanned, hlocal] at hyear
              exact hyear
    · intro hplanned hlocal period hperiod
      rcases hperiod with hperiod | hperiod
      · cases hnamed : namedMonth u request with
        | none =>
            rw [payrollPeriod_eq_none.mpr hnamed] at hperiod
            cases hperiod
        | some entry =>
            rw [payrollPeriod_eq hdigits hnamed, hplanned] at hperiod
            obtain rfl := Option.some.inj (Except.ok.inj hperiod)
            exact notAfter_latestYear entry.2
      · cases hm : (payrollMonth u).search request with
        | none =>
            rw [localPayrollPresencePeriod, hm] at hperiod
            cases hperiod
        | some m =>
            obtain ⟨entry, hentry, hname, rfl⟩ :=
              (localPayrollPresencePeriod_eq_some hdigits hm).mp hperiod
            rw [hlocal]
            exact .inr ⟨rfl, h.past hplanned hlocal m hm entry hentry hname.symm⟩

end Readings

/-! ## A month to come -/

theorem isDate_firstOfJuly : IsDate 2026 7 1 := by decide

def firstOfJuly : Date := ⟨2026, 7, 1, isDate_firstOfJuly⟩

theorem periodsAgree_iff_december :
    PeriodsAgree asciiTables firstOfJuly "buste paga di dicembre".toList ↔
      NamesOnePeriod asciiTables firstOfJuly "buste paga di dicembre".toList :=
  periodsAgree_iff asciiTables_hasDigits firstOfJuly _

/-- In July the December of a payroll is the last one to the planner, and the next one to the local
parser. -/
theorem periods_december :
    ¬PeriodsAgree asciiTables firstOfJuly "buste paga di dicembre".toList := by
  intro h
  have hplanned : (payrollPeriod asciiTables firstOfJuly "buste paga di dicembre".toList).toOption =
      some (some (2025, 12)) := by
    decide
  have hlocal : (localPayrollPresencePeriod asciiTables firstOfJuly
      "buste paga di dicembre".toList).toOption = some (some (2026, 12)) := by
    decide
  obtain ⟨period, hperiod, hperiod'⟩ := h.same (by decide) (by decide)
  rw [hperiod] at hplanned
  rw [hperiod'] at hlocal
  have hyears := (Option.some.inj (Option.some.inj hplanned)).symm.trans
    (Option.some.inj (Option.some.inj hlocal))
  exact absurd hyears (by decide)

end Planner

end BhDic.Query
