import BhDic.Dic.Amounts
import BhDic.Dic.Boundary
import BhDic.Dic.Roster
import Mathlib.Tactic.Linarith
import Mathlib.Tactic.Positivity

/-!
# Canonical decimals are compared as numbers

Two canonical texts are the same exactly if they write the same amount, so that the comparison of a
balance before a correction, and of what is read back after one, is a comparison of numbers.
-/

namespace BhDic.Dic

open BhDic.Library BhDic.Python

/-! ## Digits are determined by their number -/

theorem digitsNumber_lt (ds : List (Fin 10)) : digitsNumber ds < 10 ^ ds.length := by
  have hlt := Nat.ofDigits_lt_base_pow_length (b := 10) (l := ds.reverse.map Fin.val) (by decide) (by
    intro n hn
    obtain ⟨d, -, rfl⟩ := List.mem_map.mp hn
    exact d.isLt)
  simpa [digitsNumber] using hlt

theorem digitsNumber_singleton (d : Fin 10) : digitsNumber [d] = d.val := by
  simp [digitsNumber]

theorem digitsNumber_injective {ds es : List (Fin 10)} (hlength : ds.length = es.length)
    (h : digitsNumber ds = digitsNumber es) : ds = es := by
  induction ds using List.reverseRecOn generalizing es with
  | nil => exact (List.eq_nil_of_length_eq_zero hlength.symm).symm
  | append_singleton ds d ih =>
    obtain rfl | ⟨es, e, rfl⟩ := List.eq_nil_or_concat' es
    · simp at hlength
    · rw [digitsNumber_append, digitsNumber_append, digitsNumber_singleton,
        digitsNumber_singleton] at h
      have hd := d.isLt
      have he := e.isLt
      simp only [List.length_singleton, pow_one] at h
      have hlast : d = e := Fin.ext (by omega)
      have hfront : digitsNumber ds = digitsNumber es := by omega
      rw [ih (by simpa using hlength) hfront, hlast]

/-- A digit that is not zero in front makes a number as long as it is written. -/
theorem pow_le_digitsNumber {d : Fin 10} (ds : List (Fin 10)) (h : d ≠ 0) :
    10 ^ ds.length ≤ digitsNumber (d :: ds) := by
  rw [← List.singleton_append, digitsNumber_append, digitsNumber_singleton]
  have hpos : 1 ≤ d.val := by
    have := Fin.val_ne_of_ne h
    simp only [Fin.val_zero] at this
    omega
  calc 10 ^ ds.length = 1 * 10 ^ ds.length := (Nat.one_mul _).symm
    _ ≤ d.val * 10 ^ ds.length := Nat.mul_le_mul_right _ hpos
    _ ≤ _ := Nat.le_add_right _ _

/-- Integer digits without leading zeros are determined by their number. -/
theorem integer_injective {ds es : List (Fin 10)} (hds : ds ≠ []) (hes : es ≠ [])
    (hd : ds.length > 1 → ds.head? ≠ some 0) (he : es.length > 1 → es.head? ≠ some 0)
    (h : digitsNumber ds = digitsNumber es) : ds = es := by
  -- a list of digits with more than one digit is longer than any that writes a smaller number
  have hshort : ∀ {xs ys : List (Fin 10)}, xs ≠ [] → ys ≠ [] →
      (ys.length > 1 → ys.head? ≠ some 0) → digitsNumber xs = digitsNumber ys →
      ys.length ≤ xs.length := by
    intro xs ys hxs hys hlead heq
    by_contra hlong
    obtain ⟨y, ys, rfl⟩ := List.exists_cons_of_ne_nil hys
    have hxlength := List.length_pos_iff.mpr hxs
    have hy : y ≠ 0 := by
      rintro rfl
      exact hlead (by omega) rfl
    have hlow := pow_le_digitsNumber ys hy
    have hhigh := digitsNumber_lt xs
    have hpow : 10 ^ xs.length ≤ 10 ^ ys.length := by
      apply Nat.pow_le_pow_right (by decide)
      simp only [List.length_cons] at hlong
      omega
    omega
  exact digitsNumber_injective (le_antisymm (hshort hes hds hd h.symm) (hshort hds hes he h)) h

/-! ## Canonical digits are determined by their amount -/

section

variable {integer fraction integer' fraction' : List (Fin 10)}

/-- A fraction without trailing zeros does not end in the number of a shorter one. -/
theorem digitsNumber_mod_ne_zero (ds : List (Fin 10)) {fraction : List (Fin 10)}
    (hne : fraction ≠ []) (h : fraction.getLast? ≠ some 0) :
    digitsNumber (ds ++ fraction) % 10 ≠ 0 := by
  obtain rfl | ⟨front, d, rfl⟩ := List.eq_nil_or_concat' fraction
  · exact absurd rfl hne
  · rw [← List.append_assoc, digitsNumber_append, digitsNumber_singleton]
    have hd : d.val ≠ 0 := by
      intro hzero
      have hdigit : d = 0 := Fin.ext hzero
      rw [List.getLast?_concat, hdigit] at h
      exact h rfl
    have := d.isLt
    simp only [List.length_singleton, pow_one]
    omega

/-- Of two canonical texts with the same absolute amount none has more decimal places. -/
theorem places_le (h : Canonical integer fraction)
    (hsame : digitsNumber (integer ++ fraction) * 10 ^ fraction'.length =
      digitsNumber (integer' ++ fraction') * 10 ^ fraction.length) :
    fraction.length ≤ fraction'.length := by
  by_contra hlong
  have hne : fraction ≠ [] := by
    rintro rfl
    simp at hlong
  apply digitsNumber_mod_ne_zero integer hne h.trailing
  obtain ⟨k, hk⟩ : ∃ k, fraction.length = fraction'.length + (k + 1) :=
    ⟨fraction.length - fraction'.length - 1, by omega⟩
  have hnumber : digitsNumber (integer ++ fraction) =
      digitsNumber (integer' ++ fraction') * 10 ^ (k + 1) := by
    have hpos : 0 < 10 ^ fraction'.length := by positivity
    apply Nat.eq_of_mul_eq_mul_right hpos
    rw [hsame, hk, pow_add]
    ring
  rw [hnumber, pow_succ, ← Nat.mul_assoc]
  exact Nat.mul_mod_left _ _

theorem digits_injective (h : Canonical integer fraction) (h' : Canonical integer' fraction')
    (hsame : digitsNumber (integer ++ fraction) * 10 ^ fraction'.length =
      digitsNumber (integer' ++ fraction') * 10 ^ fraction.length) :
    integer = integer' ∧ fraction = fraction' := by
  have hplaces : fraction.length = fraction'.length :=
    le_antisymm (places_le h hsame) (places_le h' hsame.symm)
  have hnumber : digitsNumber (integer ++ fraction) = digitsNumber (integer' ++ fraction') := by
    rw [hplaces] at hsame
    exact Nat.eq_of_mul_eq_mul_right (by positivity) hsame
  rw [digitsNumber_append, digitsNumber_append, hplaces] at hnumber
  have hlow := digitsNumber_lt fraction
  have hlow' := digitsNumber_lt fraction'
  rw [hplaces] at hlow
  have hfraction : digitsNumber fraction = digitsNumber fraction' := by
    have := congrArg (· % 10 ^ fraction'.length) hnumber
    simpa [Nat.mul_add_mod_of_lt, Nat.mod_eq_of_lt hlow, Nat.mod_eq_of_lt hlow'] using this
  have hinteger : digitsNumber integer = digitsNumber integer' := by
    rw [hfraction] at hnumber
    exact Nat.eq_of_mul_eq_mul_right (by positivity) (Nat.add_right_cancel hnumber)
  exact ⟨integer_injective h.nonempty h'.nonempty h.leading h'.leading hinteger,
    digitsNumber_injective hplaces hfraction⟩

theorem canonical_zero : Canonical [0] [] := ⟨by decide, by decide, by decide⟩

theorem abs_amountOf (negative : Bool) (integer fraction : List (Fin 10)) :
    |amountOf negative integer fraction| =
      (digitsNumber (integer ++ fraction) : ℚ) / 10 ^ fraction.length := by
  have hpos : (0 : ℚ) ≤ (digitsNumber (integer ++ fraction) : ℚ) / 10 ^ fraction.length := by
    positivity
  cases negative
  · simp [amountOf, abs_of_nonneg hpos]
  · simp only [amountOf, if_true, neg_one_mul, abs_neg, abs_of_nonneg hpos]

theorem same_digits_of_abs {negative negative' : Bool} (h : Canonical integer fraction)
    (h' : Canonical integer' fraction')
    (hsame : |amountOf negative integer fraction| = |amountOf negative' integer' fraction'|) :
    integer = integer' ∧ fraction = fraction' := by
  rw [abs_amountOf, abs_amountOf, div_eq_div_iff (by positivity) (by positivity)] at hsame
  apply digits_injective h h'
  exact_mod_cast hsame

/-- **Canonical texts of one amount are one text.** -/
theorem writeDecimal_eq_iff {negative negative' : Bool} (h : Canonical integer fraction)
    (h' : Canonical integer' fraction') :
    writeDecimal negative integer fraction = writeDecimal negative' integer' fraction' ↔
      amountOf negative integer fraction = amountOf negative' integer' fraction' := by
  constructor
  · intro heq
    have hamount := @amount_writeDecimal asciiTables negative integer fraction h.nonempty
    rw [heq, amount_writeDecimal asciiTables negative' h'.nonempty] at hamount
    exact (Option.some.inj hamount).symm
  · intro heq
    obtain ⟨rfl, rfl⟩ := same_digits_of_abs h h' (congrArg abs heq)
    by_cases hzero : integer = [0] ∧ fraction = []
    · simp [writeDecimal, hzero]
    · -- the amount is not zero, so that it has one sign only
      have hne : digitsNumber (integer ++ fraction) ≠ 0 := by
        intro hnone
        apply hzero
        apply digits_injective h canonical_zero
        have hone : digitsNumber ([0] ++ []) = 0 := rfl
        rw [hnone, hone, Nat.zero_mul, Nat.zero_mul]
      have hpos : (0 : ℚ) < (digitsNumber (integer ++ fraction) : ℚ) / 10 ^ fraction.length := by
        have : (0 : ℚ) < (digitsNumber (integer ++ fraction) : ℚ) := by
          exact_mod_cast Nat.pos_of_ne_zero hne
        positivity
      have hsign : negative = negative' := by
        unfold amountOf at heq
        cases negative <;> cases negative'
        · rfl
        · simp only [Bool.false_eq_true, if_true, if_false] at heq
          linarith
        · simp only [Bool.false_eq_true, if_true, if_false] at heq
          linarith
        · rfl
      rw [hsign]

end

/-! ## Texts -/

/-- The number a text denotes. -/
def denotes (u : UnicodeData) (text : String) : Option ℚ := amount u (stripChars text.toList)

/-- What an accepted text is written as. -/
theorem canonicalDecimalText_eq_ok {u : UnicodeData} {value text : String} {i d : Nat}
    (h : canonicalDecimalText u value i d = .ok text) :
    ∃ negative integer fraction, Canonical integer fraction ∧
      text = String.ofList (writeDecimal negative integer fraction) ∧
      denotes u value = some (amountOf negative integer fraction) := by
  have hamount := (canonicalDecimalText_amount h).2
  unfold canonicalDecimalText at h
  simp only at h
  split at h
  · cases h
  · split at h
    · rename_i integral fractional _ _
      cases h
      have hcanonical := canonical_digits integral fractional
      refine ⟨_, _, _, hcanonical, rfl, ?_⟩
      rw [denotes, ← hamount, String.toList_ofList, amount_writeDecimal u _ hcanonical.nonempty]
    · cases h

theorem denotes_canonical {u : UnicodeData} {value text : String} {i d : Nat}
    (h : canonicalDecimalText u value i d = .ok text) : denotes u text = denotes u value := by
  obtain ⟨negative, integer, fraction, hcanonical, rfl, hvalue⟩ := canonicalDecimalText_eq_ok h
  rw [hvalue, denotes, String.toList_ofList, stripChars_writeDecimal,
    amount_writeDecimal u negative hcanonical.nonempty]

/-- Two accepted texts have one canonical text exactly if they denote one number. -/
theorem canonical_eq_iff {u : UnicodeData} {a b x y : String} {i d i' d' : Nat}
    (ha : canonicalDecimalText u a i d = .ok x) (hb : canonicalDecimalText u b i' d' = .ok y) :
    x = y ↔ denotes u a = denotes u b := by
  obtain ⟨negative, integer, fraction, hcanonical, rfl, hvalue⟩ := canonicalDecimalText_eq_ok ha
  obtain ⟨negative', integer', fraction', hcanonical', rfl, hvalue'⟩ := canonicalDecimalText_eq_ok hb
  rw [hvalue, hvalue', Option.some.injEq, ← writeDecimal_eq_iff hcanonical hcanonical']
  constructor
  · intro heq
    simpa using congrArg String.toList heq
  · exact congrArg String.ofList

/-! ## The balance of a correction -/

/-- What a row of the balance page shows: its category and its corrections. -/
structure CorrectionRow where
  category : Option String
  corrections : Option String

/-- The rows of the page of an employee, for a year and a month. -/
abbrev BalancePage := String → Int → Int → List CorrectionRow

section

variable (u : UnicodeData) (page : BalancePage)

/-- `canonical_decimal_text`, of what may be no text. -/
def canonicalOptional : Option String → Except Exn String
  | some text => canonicalDecimalText u text 9 4
  | none => .error ⟨.valueError, "decimal value must be supplied as text"⟩

/-- A parameter, where it is a text. -/
def textParameter (parameters : Dict String Json) (name : String) : Option String :=
  match parameters.get? name with
  | some (.str text) => some text
  | _ => none

/-- The row of a category, if there is exactly one. -/
def correctionRow (category : String) (rows : List CorrectionRow) : Option CorrectionRow :=
  match rows.filter fun row => u.casefold (row.category.getD "").toList =
      u.casefold (stripChars category.toList) with
  | [row] => some row
  | _ => none

/-- `read_correction_state`. -/
def readCorrectionState (employeeId : String) (year month : Int) (category : String) :
    Except Exn BalanceCorrectionState := do
  ensure (2000 ≤ year ∧ year ≤ 2200) (validationError "year must be between 2000 and 2200")
  ensure (1 ≤ month ∧ month ≤ 12) (validationError "month must be between 1 and 12")
  ensure (u.casefold (stripChars category.toList) ≠ []) (validationError "category is required")
  match correctionRow u category (page employeeId year month) with
  | none => .error (validationError "balance category must identify exactly one row")
  | some row =>
      match canonicalOptional u row.corrections with
      | .error _ =>
          .error (validationError "current balance correction is not a canonical decimal")
      | .ok current =>
          return { year, month, category := strip category, currentValue := current }

/-- The year, the month and the category of a correction. -/
def correctionTarget (parameters : Dict String Json) : Option (Int × Int × String) :=
  match parameters.get? "year", parameters.get? "month", parameters.get? "category" with
  | some (.int year), some (.int month), some (.str category) => some (year, month, category)
  | _, _, _ => none

/-- What `_state_digest_direct` asks of the balance before a correction. -/
def checkBalanceState (employeeId : String) (parameters : Dict String Json) : Except Exn Unit :=
  match correctionTarget parameters with
  | none => .error (validationError "balance state target is incomplete")
  | some (year, month, category) => do
      let state ← readCorrectionState u page employeeId year month category
      match canonicalOptional u (textParameter parameters "previous_value"),
          canonicalOptional u (textParameter parameters "amount") with
      | .ok expectedPrevious, .ok expectedAmount =>
          ensure (state.currentValue = expectedPrevious)
            (validationError "balance correction precondition changed")
          ensure (state.currentValue ≠ expectedAmount)
            (validationError "balance correction would not change state")
      | _, _ => .error (validationError "balance state parameters are incomplete")

/-- The state that `_reconcile_direct` finds a correction in. -/
def reconcileBalance (employeeId : String) (parameters : Dict String Json) : ReconciliationState :=
  match correctionTarget parameters with
  | none => .unknown
  | some (year, month, category) =>
      match canonicalOptional u (textParameter parameters "amount"),
          readCorrectionState u page employeeId year month category with
      | .ok expectedAmount, .ok state =>
          if state.currentValue = expectedAmount then .confirmedApplied else .confirmedNotApplied
      | _, _ => .unknown

/-- The page shows a text as the corrections of the target, the parameters have the texts of the
previous value and of the amount, and all three are accepted. -/
structure ShowsBalance (employeeId : String) (parameters : Dict String Json)
    (raw previous amount : String) : Prop where
  read : ∃ year month category row state,
    correctionTarget parameters = some (year, month, category) ∧
      correctionRow u category (page employeeId year month) = some row ∧
      row.corrections = some raw ∧
      readCorrectionState u page employeeId year month category = .ok state
  previous_eq : textParameter parameters "previous_value" = some previous
  amount_eq : textParameter parameters "amount" = some amount
  previous_ok : ∃ text, canonicalDecimalText u previous 9 4 = .ok text
  amount_ok : ∃ text, canonicalDecimalText u amount 9 4 = .ok text

end

/-- What is read of a balance is the canonical text of what the page shows. -/
theorem readCorrectionState_eq_ok {u : UnicodeData} {page : BalancePage} {employeeId : String}
    {year month : Int} {category raw : String} {row : CorrectionRow} {state : BalanceCorrectionState}
    (hrow : correctionRow u category (page employeeId year month) = some row)
    (hraw : row.corrections = some raw)
    (h : readCorrectionState u page employeeId year month category = .ok state) :
    canonicalDecimalText u raw 9 4 = .ok state.currentValue := by
  unfold readCorrectionState at h
  simp only [bind_eq_ok, ensure_eq_ok, hrow, hraw, canonicalOptional] at h
  obtain ⟨-, -, -, -, -, -, h⟩ := h
  cases hcanonical : canonicalDecimalText u raw 9 4 with
  | error e =>
    rw [hcanonical] at h
    cases h
  | ok current =>
    rw [hcanonical] at h
    cases h
    rfl

/-- What the canonical texts of a character set promise. -/
structure ComparesNumbers (u : UnicodeData) : Prop where
  equal : ∀ {a b x y : String} {i d i' d' : Nat}, canonicalDecimalText u a i d = .ok x →
    canonicalDecimalText u b i' d' = .ok y → (x = y ↔ denotes u a = denotes u b)
  same : ∀ {value text : String} {i d : Nat}, canonicalDecimalText u value i d = .ok text →
    (denotes u value).isSome ∧ denotes u text = denotes u value
  again : ∀ {value text : String} {i d : Nat}, canonicalDecimalText u value i d = .ok text →
    canonicalDecimalText u text i d = .ok text
  precondition : ∀ {page : BalancePage} {employeeId : String} {parameters : Dict String Json}
    {raw previous amount : String}, ShowsBalance u page employeeId parameters raw previous amount →
    (checkBalanceState u page employeeId parameters = .ok () ↔
      denotes u raw = denotes u previous ∧ denotes u raw ≠ denotes u amount)
  written : ∀ {page : BalancePage} {employeeId : String} {parameters : Dict String Json}
    {raw previous amount : String}, ShowsBalance u page employeeId parameters raw previous amount →
    (reconcileBalance u page employeeId parameters = .confirmedApplied ↔
      denotes u raw = denotes u amount) ∧
    (reconcileBalance u page employeeId parameters = .confirmedNotApplied ↔
      denotes u raw ≠ denotes u amount)

theorem checkBalanceState_iff {u : UnicodeData} {page : BalancePage} {employeeId : String}
    {parameters : Dict String Json} {raw previous amount : String}
    (h : ShowsBalance u page employeeId parameters raw previous amount) :
    checkBalanceState u page employeeId parameters = .ok () ↔
      denotes u raw = denotes u previous ∧ denotes u raw ≠ denotes u amount := by
  obtain ⟨year, month, category, row, state, htarget, hrow, hraw, hstate⟩ := h.read
  obtain ⟨expectedPrevious, hprevious⟩ := h.previous_ok
  obtain ⟨expectedAmount, hamount⟩ := h.amount_ok
  have hcurrent := readCorrectionState_eq_ok hrow hraw hstate
  rw [← canonical_eq_iff hcurrent hprevious, ne_eq, ← canonical_eq_iff hcurrent hamount]
  simp only [checkBalanceState, htarget, bind_eq_ok, hstate, h.previous_eq, h.amount_eq,
    canonicalOptional, hprevious, hamount, ensure_eq_ok, Except.ok.injEq]
  constructor
  · rintro ⟨_, rfl, -, hsame, hchange⟩
    exact ⟨hsame, hchange⟩
  · rintro ⟨hsame, hchange⟩
    exact ⟨state, rfl, (), hsame, hchange⟩

theorem reconcileBalance_eq {u : UnicodeData} {page : BalancePage} {employeeId : String}
    {parameters : Dict String Json} {raw previous amount : String}
    (h : ShowsBalance u page employeeId parameters raw previous amount) :
    reconcileBalance u page employeeId parameters =
      if denotes u raw = denotes u amount then .confirmedApplied else .confirmedNotApplied := by
  obtain ⟨year, month, category, row, state, htarget, hrow, hraw, hstate⟩ := h.read
  obtain ⟨expectedAmount, hamount⟩ := h.amount_ok
  have hcurrent := readCorrectionState_eq_ok hrow hraw hstate
  simp only [reconcileBalance, htarget, h.amount_eq, canonicalOptional, hamount, hstate,
    canonical_eq_iff hcurrent hamount]

/-- Canonical texts are compared as numbers, whatever the spelling of what they were made of. -/
theorem comparesNumbers (u : UnicodeData) : ComparesNumbers u where
  equal := canonical_eq_iff
  same h := by
    obtain ⟨_, _, _, -, -, hvalue⟩ := canonicalDecimalText_eq_ok h
    exact ⟨by rw [hvalue]; rfl, denotes_canonical h⟩
  again := canonicalDecimalText_idempotent
  precondition := checkBalanceState_iff
  written h := by
    rw [reconcileBalance_eq h]
    constructor <;> split <;> simp_all

/-- A request that spells the balance otherwise than the page. -/
def spelledParameters : Dict String Json :=
  ((((Dict.empty.set "year" (.int 2026)).set "month" (.int 7)).set "category" (.str "Ferie")).set
    "previous_value" (.str "-0.0")).set "amount" (.str "1.50")

def shownPage : BalancePage := fun _ _ _ => [⟨some "FERIE", some "0"⟩, ⟨some "ROL", none⟩]

theorem comparesNumbers_sample :
    ShowsBalance asciiTables shownPage "1" spelledParameters "0" "-0.0" "1.50" ∧
      (checkBalanceState asciiTables shownPage "1" spelledParameters = .ok () ↔
        denotes asciiTables "0" = denotes asciiTables "-0.0" ∧
          denotes asciiTables "0" ≠ denotes asciiTables "1.50") := by
  have hshows : ShowsBalance asciiTables shownPage "1" spelledParameters "0" "-0.0" "1.50" := by
    refine ⟨⟨2026, 7, "Ferie", ⟨some "FERIE", some "0"⟩, ⟨2026, 7, "Ferie", "0"⟩, rfl, rfl, rfl, ?_⟩,
      rfl, rfl, ⟨"0", ?_⟩, ⟨"1.5", ?_⟩⟩ <;> rfl
  exact ⟨hshows, (comparesNumbers asciiTables).precondition hshows⟩

end BhDic.Dic
