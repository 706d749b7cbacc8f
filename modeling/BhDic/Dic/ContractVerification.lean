import BhDic.Dic.Boundary
import BhDic.Policies.Parameters
import BhDic.Python.Equality

/-!
# Whether a contract was written

After a contract was created or changed the table of contracts is read again and compared with what
was approved. The cell of the permanent flag is text, and is taken for true when the letters of one
of four words occur in it, also inside another word. `contract_verdict` says exactly when that
misleads the verdict.
-/

namespace BhDic.Dic

open BhDic.Library BhDic.Policies BhDic.Python

/-! ## The table -/

/-- A row of the table: its `data-contract-id`, and what its cells show, under the suffixes of their
selectors. -/
structure ContractRow where
  id : Option String
  cell : String → Option String

/-- `read_text`. -/
def ContractRow.readText (row : ContractRow) (suffix : String) : Option String :=
  match row.cell suffix with
  | none => none
  | some raw => if strip raw = "" then none else some (strip raw)

/-- The parameters that are compared, and the suffixes of their cells. -/
def comparedCells : List (String × String) :=
  [("schedule", "schedule"), ("flexibility", "flexibility"), ("start_date", "start_date"),
    ("end_date", "end_date"), ("ccnl_level", "ccnl_level"), ("work_regime", "work_regime"),
    ("description", "description"), ("contract_type", "type"), ("permanent", "permanent")]

def permanentWords : List String := ["sì", "si", "true", "yes"]

/-- What is observed of a cell. -/
inductive Observed
  | nothing
  | text (text : String)
  | flag (b : Bool)

/-- `text.strip().casefold()`. -/
def foldedText (u : UnicodeData) (text : String) : List Char := u.casefold (stripChars text.toList)

/-- `_expected_value_matches`. -/
def expectedValueMatches (u : UnicodeData) (d : FloatData) : Observed → Json → Bool
  | .text actual, .str expected => foldedText u actual == foldedText u expected
  | .nothing, .null => true
  | .flag actual, expected => equalsInt d expected actual.toNat
  | _, _ => false

section Row

variable (u : UnicodeData) (d : FloatData) (row : ContractRow)

/-- `normalized`: the cell of the permanent flag. -/
def ContractRow.permanentCell : List Char := foldedText u ((row.readText "permanent").getD "")

/-- The letters of one of the words occur in the cell. -/
def ContractRow.hasLetters : Bool :=
  permanentWords.any fun word => decide (word.toList <:+: row.permanentCell u)

/-- `observed[parameter]`. -/
def ContractRow.observe (parameter suffix : String) : Observed :=
  if parameter = "permanent" then
    if row.permanentCell u = [] then .nothing else .flag (row.hasLetters u)
  else
    match row.readText suffix with
    | some text => .text text
    | none => .nothing

/-- Everything expected is observed. -/
def ContractRow.matchesExpected (expected : Dict String Json) : Bool :=
  expected.items.all fun (name, value) =>
    match Dict.find name comparedCells with
    | some suffix => expectedValueMatches u d (row.observe u name suffix) value
    | none => false

end Row

/-! ## The verdict -/

/-- `_is_fallback_record_id`. -/
def isFallbackRecordId (value pre : String) : Bool :=
  let digits := value.toList.drop (pre.length + 1)
  value.toList.take (pre.length + 1) == pre.toList ++ ['-'] && digits.length == 16 &&
    digits.all fun c => c.isDigit || ('a' ≤ c && c ≤ 'f')

/-- The parameters that are compared. -/
def expectedOf (parameters : Dict String Json) : Dict String Json :=
  parameters.filterKeys fun name => (Dict.find name comparedCells).isSome

/-- Something is expected, and nothing that is not compared but these. -/
def comparable (parameters : Dict String Json) (others : List String) : Bool :=
  !(expectedOf parameters).items.isEmpty && parameters.items.all fun (name, _) =>
    (Dict.find name comparedCells).isSome || name ∈ others

section Verdict

variable (u : UnicodeData) (d : FloatData)

/-- A row of a contract that is not in the baseline. -/
def ContractRow.isNew (baselineIds : List String) (row : ContractRow) : Bool :=
  match row.id with
  | some id => id != "" && id ∉ baselineIds
  | none => false

/-- `verify_created_contract`. -/
def verifyCreatedContract (baselineIds : List String) (parameters : Dict String Json)
    (rows : List ContractRow) : Option Bool :=
  if comparable parameters [] then
    match rows.filter (ContractRow.isNew baselineIds) with
    | [row] => some (row.matchesExpected u d (expectedOf parameters))
    | _ => none
  else none

/-- The loop of `verify_expected`, with the matches so far. -/
def countExpected (contractId : String) (expected : Dict String Json) (matched : Nat) :
    List ContractRow → Option Nat
  | [] => some matched
  | row :: rows =>
      if row.id ≠ some contractId then countExpected contractId expected matched rows
      else if contractId = "" then none
      else if row.matchesExpected u d expected then
        countExpected contractId expected (matched + 1) rows
      else countExpected contractId expected matched rows

/-- `verify_expected`. -/
def verifyExpected (contractId : Option String) (parameters : Dict String Json)
    (rows : List ContractRow) : Option Bool :=
  if contractId.any fun id => isFallbackRecordId id "CON" then none
  else if comparable parameters ["contract_id"] then
    match contractId with
    | none => none
    | some id => (countExpected u d id (expectedOf parameters) 0 rows).map (· == 1)
  else none

/-- What `_reconcile_direct` verifies of a contract that was created or changed, given the table and
the digest of the page that are read then. -/
def contractVerified (baseline : Option WriteBaseline) (parameters : Dict String Json)
    (rows : List ContractRow) (currentDigest : String) : Option Bool :=
  match baseline, parameters.get? "contract_id" with
  | none, _ => none
  | some baseline, some (.str contractId) =>
      match verifyExpected u d (some contractId) parameters rows with
      | some true => some (baseline.digest.any fun digest => currentDigest != digest)
      | verified => verified
  | some baseline, _ => verifyCreatedContract u d baseline.stableIds parameters rows

/-- `_reconcile_direct`, for a contract that was created or changed. -/
def reconcileContract (actionId : String) (employeeId : Option String)
    (baseline : Option WriteBaseline) (parameters : Dict String Json) (rows : List ContractRow)
    (currentDigest : String) : ReconciliationResult :=
  match employeeId with
  | none => ⟨actionId, .unknown, "action has no stable employee target"⟩
  | some _ =>
      let verified := contractVerified u d baseline parameters rows currentDigest
      ⟨actionId, if verified = some true then .confirmedApplied else .unknown,
        "contract transition and exact expected values were compared"⟩

end Verdict

/-! ## What was approved is shown -/

/-- The word occurs in the text with no word character beside it. -/
def occursAsWord (u : UnicodeData) (word text : List Char) : Bool :=
  text.tails.any fun rest =>
    let before := text.take (text.length - rest.length)
    word.isPrefixOf rest && before.getLast?.all (fun c => !u.isWord c) &&
      (rest.drop word.length).head?.all fun c => !u.isWord c

section Shows

variable (u : UnicodeData) (row : ContractRow) (parameters : Dict String Json)

/-- The cell of the permanent flag, read word by word. -/
def ContractRow.saysPermanent : Bool :=
  permanentWords.any fun word => occursAsWord u word.toList (row.permanentCell u)

/-- The row shows every approved text, up to white space around it and letter case. -/
def ContractRow.showsTexts : Bool :=
  comparedCells.all fun (name, suffix) =>
    match parameters.get? name with
    | some (.str approved) =>
        (row.readText suffix).any fun text => foldedText u text == foldedText u approved
    | _ => true

/-- The row agrees with the approved flag, if there is one. -/
def ContractRow.agreesPermanent : Bool :=
  match parameters.get? "permanent" with
  | some (.bool approved) => row.permanentCell u != [] && row.saysPermanent u == approved
  | _ => true

def ContractRow.shows : Bool := row.showsTexts u parameters && row.agreesPermanent u parameters

/-- The rows the approved contract may be in: that of its id, or for a new contract those outside
the baseline. -/
def ContractRow.concerns (baseline : WriteBaseline) : Bool :=
  match parameters.get? "contract_id" with
  | some (.str contractId) => row.id == some contractId
  | _ => row.isNew baseline.stableIds

/-- The letters of a word occur in the cell, but only inside other words. -/
def ContractRow.misread : Bool := row.hasLetters u && !row.saysPermanent u

end Shows

/-! ## Accepted parameters -/

section Accepted

variable {u : UnicodeData} {parameters : Dict String Json} {name : String} {value : Json}

/-- Parameters a contract is created or changed with. -/
def AcceptedForContract (u : UnicodeData) (parameters : Dict String Json) : Prop :=
  ∃ spec raw, getFunctionSpec "EMP-CONTRACT-002" = some spec ∧
    validateWriteParameters u spec raw = .ok parameters

/-- The permanent flag is a boolean, everything else text or a date. -/
theorem contract_kinds : ∀ spec ∈ getFunctionSpec "EMP-CONTRACT-002", ∀ p ∈ spec.writeParameters,
    if p.name = "permanent" then p.kind = .boolean
    else (p.kind = .text ∧ ∃ n ∈ p.minLength, 1 ≤ n) ∨ p.kind = .date ∧ p.name ≠ "contract_id" := by
  decide

theorem accepted_value (h : AcceptedForContract u parameters)
    (hget : parameters.get? name = some value) :
    if name = "permanent" then ∃ b, value = .bool b
    else ∃ text, value = .str text ∧ (name = "contract_id" → text ≠ "") := by
  obtain ⟨spec, raw, hspec, hvalidated⟩ := h
  obtain ⟨given, -, hnamed⟩ := (get?_validateWriteParameters hvalidated).mp hget
  unfold FunctionSpec.validateNamed at hnamed
  split at hnamed
  · rename_i p hp
    have hname : p.name = name := by simpa using List.find?_some hp
    have hkind := contract_kinds spec hspec p (List.mem_of_find?_eq_some hp)
    obtain ⟨hsame, hscalar⟩ := validateParameter_idempotent hnamed
    rw [validateParameter_of_scalar hscalar] at hsame
    rw [hname] at hkind
    split at hkind
    · rename_i hpermanent
      rw [if_pos hpermanent]
      simp only [hkind] at hsame
      cases value with
      | bool b => exact ⟨b, rfl⟩
      | _ => cases hsame
    · rename_i hother
      rw [if_neg hother]
      rcases hkind with ⟨hkind, n, hn, hpos⟩ | ⟨hkind, hnot⟩
      · simp only [hkind] at hsame
        cases value with
        | str text =>
            refine ⟨text, rfl, ?_⟩
            rintro - rfl
            simp only [validateText, bind_eq_ok, ensure_eq_ok] at hsame
            obtain ⟨_, hmin, -⟩ := hsame
            have hle := hmin n hn
            have hzero : (strip "").length = 0 := rfl
            omega
        | _ => cases hsame
      · simp only [hkind] at hsame
        cases value with
        | str text => exact ⟨text, rfl, fun hid => absurd hid hnot⟩
        | _ => cases hsame
  · cases hnamed

end Accepted

/-! ## What the code compares -/

section Compared

variable {u : UnicodeData} {d : FloatData} {parameters : Dict String Json}

/-- The flag as the code reads it agrees with the approved one. -/
def ContractRow.agreesLetters (u : UnicodeData) (row : ContractRow)
    (parameters : Dict String Json) : Bool :=
  match parameters.get? "permanent" with
  | some (.bool approved) => row.permanentCell u != [] && row.hasLetters u == approved
  | _ => true

theorem observe_permanent (row : ContractRow) (suffix : String) (approved : Bool) :
    expectedValueMatches u d (row.observe u "permanent" suffix) (.bool approved) =
      (row.permanentCell u != [] && row.hasLetters u == approved) := by
  unfold ContractRow.observe
  rw [if_pos rfl]
  split
  · rename_i hblank
    simp [hblank, expectedValueMatches]
  · rename_i hcell
    simp [hcell, expectedValueMatches]

theorem observe_text (row : ContractRow) {name : String} (hname : name ≠ "permanent")
    (suffix approved : String) :
    expectedValueMatches u d (row.observe u name suffix) (.str approved) =
      (row.readText suffix).any fun text => foldedText u text == foldedText u approved := by
  unfold ContractRow.observe
  rw [if_neg hname]
  cases row.readText suffix <;> rfl

theorem find_comparedCells {name suffix : String} :
    Dict.find name comparedCells = some suffix ↔ (name, suffix) ∈ comparedCells :=
  Dict.find_eq_some (by decide)

theorem mem_expectedOf {name : String} {value : Json} :
    (name, value) ∈ (expectedOf parameters).items ↔
      parameters.get? name = some value ∧ ∃ suffix, (name, suffix) ∈ comparedCells := by
  simp only [expectedOf, Dict.filterKeys, List.mem_filter, Option.isSome_iff_exists,
    find_comparedCells, Dict.get?_eq_some]

/-- Comparing what is expected with a row is comparing the texts and the flag. -/
theorem matchesExpected_iff (h : AcceptedForContract u parameters) (row : ContractRow) :
    row.matchesExpected u d (expectedOf parameters) = true ↔
      row.showsTexts u parameters = true ∧ row.agreesLetters u parameters = true := by
  have hall : row.matchesExpected u d (expectedOf parameters) = true ↔
      ∀ name suffix value, (name, suffix) ∈ comparedCells → parameters.get? name = some value →
        expectedValueMatches u d (row.observe u name suffix) value = true := by
    simp only [ContractRow.matchesExpected, List.all_eq_true]
    constructor
    · intro hitems name suffix value hcell hget
      have hitem := hitems (name, value) (mem_expectedOf.mpr ⟨hget, suffix, hcell⟩)
      simpa only [find_comparedCells.mpr hcell] using hitem
    · intro hcells item hitem
      obtain ⟨hget, suffix, hcell⟩ := mem_expectedOf.mp hitem
      simp only [find_comparedCells.mpr hcell]
      exact hcells _ _ _ hcell hget
  rw [hall]
  constructor
  · intro hcells
    constructor
    · simp only [ContractRow.showsTexts, List.all_eq_true]
      rintro ⟨name, suffix⟩ hcell
      simp only
      split
      · rename_i approved hget
        have hvalue := accepted_value h hget
        split at hvalue
        · obtain ⟨b, hb⟩ := hvalue
          cases hb
        · rename_i hname
          rw [← observe_text (d := d) row hname]
          exact hcells _ _ _ hcell hget
      · rfl
    · unfold ContractRow.agreesLetters
      split
      · rename_i approved hget
        rw [← observe_permanent (d := d) row "permanent"]
        exact hcells _ _ _ (by decide) hget
      · rfl
  · rintro ⟨htexts, hflag⟩ name suffix value hcell hget
    have hvalue := accepted_value h hget
    split at hvalue
    · rename_i hname
      subst hname
      obtain ⟨approved, rfl⟩ := hvalue
      rw [observe_permanent]
      simpa only [ContractRow.agreesLetters, hget] using hflag
    · rename_i hname
      obtain ⟨approved, rfl, -⟩ := hvalue
      rw [observe_text row hname]
      have htext := List.all_eq_true.mp htexts (name, suffix) hcell
      simpa only [hget] using htext

end Compared

/-! ## When the verdict misleads -/

section Verdict

variable {u : UnicodeData} {d : FloatData} {parameters : Dict String Json}
  {rows : List ContractRow} {baseline : WriteBaseline}

/-- A word that occurs as a word occurs. -/
theorem isInfix_of_occursAsWord {word text : List Char} (h : occursAsWord u word text = true) :
    word <:+: text := by
  simp only [occursAsWord, List.any_eq_true, List.mem_tails, Bool.and_eq_true,
    List.isPrefixOf_iff_prefix] at h
  obtain ⟨rest, hsuffix, ⟨hpre, -⟩, -⟩ := h
  exact hpre.isInfix.trans hsuffix.isInfix

theorem hasLetters_of_saysPermanent {row : ContractRow} (h : row.saysPermanent u = true) :
    row.hasLetters u = true := by
  simp only [ContractRow.saysPermanent, List.any_eq_true] at h
  obtain ⟨word, hword, hoccurs⟩ := h
  simp only [ContractRow.hasLetters, List.any_eq_true, decide_eq_true_eq]
  exact ⟨word, hword, isInfix_of_occursAsWord hoccurs⟩

/-- A blank cell has no letters. -/
theorem permanentCell_of_hasLetters {row : ContractRow} (h : row.hasLetters u = true) :
    row.permanentCell u ≠ [] := by
  simp only [ContractRow.hasLetters, List.any_eq_true, decide_eq_true_eq] at h
  obtain ⟨word, hword, hinfix⟩ := h
  intro hblank
  rw [hblank, List.infix_nil] at hinfix
  have hwords : ∀ word ∈ permanentWords, word.toList ≠ [] := by decide
  exact hwords word hword hinfix

/-- The rows concerned that show the approved texts. -/
def shownRows (u : UnicodeData) (parameters : Dict String Json) (baseline : WriteBaseline)
    (rows : List ContractRow) : List ContractRow :=
  rows.filter fun row => row.concerns parameters baseline && row.showsTexts u parameters

/-- Where the permanent flag is to be true: the only row shown that has the letters has them inside
other words. Where it is to be false: one row shown has a cell without the letters, but another has
them inside other words. -/
def Deceived (u : UnicodeData) (parameters : Dict String Json) (shown : List ContractRow) : Prop :=
  match parameters.get? "permanent" with
  | some (.bool true) => ∃ row, shown.filter (·.hasLetters u) = [row] ∧ row.misread u = true
  | some (.bool false) =>
      shown.countP (fun row => row.permanentCell u != [] && !row.hasLetters u) = 1 ∧
        ∃ row ∈ shown, row.misread u = true
  | _ => False

/-- The rows whose cell, read by letters or word by word, says so. -/
def countSaying (u : UnicodeData) (approved : Bool) (reading : ContractRow → Bool)
    (shown : List ContractRow) : Nat :=
  shown.countP fun row => row.permanentCell u != [] && reading row == approved

/-- With `true` approved the code takes too many rows to agree. -/
theorem deceived_true (shown : List ContractRow) :
    countSaying u true (·.hasLetters u) shown = 1 ∧ countSaying u true (·.saysPermanent u) shown ≠ 1
      ↔ ∃ row, shown.filter (·.hasLetters u) = [row] ∧ row.misread u = true := by
  have hletters : countSaying u true (·.hasLetters u) shown =
      (shown.filter (·.hasLetters u)).length := by
    rw [← List.countP_eq_length_filter]
    apply List.countP_congr
    intro row _
    simpa using permanentCell_of_hasLetters
  have hcount : countSaying u true (·.saysPermanent u) shown =
      (shown.filter (·.hasLetters u)).countP (·.saysPermanent u) := by
    rw [List.countP_filter]
    apply List.countP_congr
    intro row _
    have hof : row.saysPermanent u = true → row.hasLetters u = true := hasLetters_of_saysPermanent
    have hcell : row.hasLetters u = true → row.permanentCell u ≠ [] := permanentCell_of_hasLetters
    simp only [Bool.and_eq_true, bne_iff_ne, beq_iff_eq]
    tauto
  rw [hletters, hcount, List.length_eq_one_iff]
  constructor
  · rintro ⟨⟨row, hrow⟩, hcount⟩
    refine ⟨row, hrow, ?_⟩
    have hmem : row ∈ shown.filter (·.hasLetters u) := by simp [hrow]
    rw [hrow] at hcount
    simpa [ContractRow.misread, (List.mem_filter.mp hmem).2] using hcount
  · rintro ⟨row, hrow, hmisread⟩
    simp only [ContractRow.misread, Bool.and_eq_true, Bool.not_eq_true'] at hmisread
    exact ⟨⟨row, hrow⟩, by simp [hrow, hmisread.2]⟩

/-- With `false` approved it takes too few. -/
theorem countSaying_false (shown : List ContractRow) :
    countSaying u false (·.saysPermanent u) shown =
      countSaying u false (·.hasLetters u) shown + shown.countP (·.misread u) := by
  induction shown with
  | nil => rfl
  | cons row rest ih =>
      simp only [countSaying, List.countP_cons, ContractRow.misread] at ih ⊢
      rw [ih]
      have hof : row.saysPermanent u = true → row.hasLetters u = true := hasLetters_of_saysPermanent
      have hcell : row.hasLetters u = true → row.permanentCell u ≠ [] := permanentCell_of_hasLetters
      cases hletters : row.hasLetters u
      · have hcount : row.saysPermanent u = false := by simpa [hletters] using hof
        simp only [hcount]
        split <;> simp
        all_goals omega
      · have hne := hcell hletters
        cases row.saysPermanent u <;> simp [hne]
        all_goals omega

theorem deceived_iff (shown : List ContractRow) :
    shown.countP (·.agreesLetters u parameters) = 1 ∧
        shown.countP (·.agreesPermanent u parameters) ≠ 1 ↔
      Deceived u parameters shown := by
  unfold ContractRow.agreesLetters ContractRow.agreesPermanent Deceived
  cases hflag : parameters.get? "permanent" with
  | none => simp
  | some flag =>
      cases flag with
      | bool approved =>
          cases approved with
          | true => exact deceived_true shown
          | false =>
              have hcount := countSaying_false (u := u) shown
              simp only [countSaying, beq_false] at hcount
              simp only [beq_false, hcount]
              constructor
              · rintro ⟨hone, hmore⟩
                rw [hone] at hmore
                have hpos : 0 < shown.countP (·.misread u) := by omega
                exact ⟨hone, List.countP_pos_iff.mp hpos⟩
              · rintro ⟨hone, hmisread⟩
                have hpos : 0 < shown.countP (·.misread u) := List.countP_pos_iff.mpr hmisread
                refine ⟨hone, ?_⟩
                omega
      | null | int | float | str | arr | obj => simp

/-- Where the code compares the table with what was approved: for a change, of a contract with an
identifier of the site's own and if the page is not what it was; for a creation, if there is one new
contract. -/
def Compared (baseline : WriteBaseline) (parameters : Dict String Json) (rows : List ContractRow)
    (currentDigest : String) : Prop :=
  match parameters.get? "contract_id" with
  | some (.str contractId) =>
      isFallbackRecordId contractId "CON" = false ∧ comparable parameters ["contract_id"] = true ∧
        ∃ digest ∈ baseline.digest, currentDigest ≠ digest
  | _ => comparable parameters [] = true ∧
      rows.countP (fun row => row.concerns parameters baseline) = 1

theorem countExpected_eq {contractId : String} (hne : contractId ≠ "") (expected : Dict String Json)
    (matched : Nat) : countExpected u d contractId expected matched rows =
      some (matched + rows.countP fun row =>
        row.id == some contractId && row.matchesExpected u d expected) := by
  induction rows generalizing matched with
  | nil => rfl
  | cons row rows ih =>
      simp only [countExpected, List.countP_cons]
      by_cases hid : row.id = some contractId
      · rw [if_neg (not_not.mpr hid), if_neg hne]
        cases hmatch : row.matchesExpected u d expected <;> simp [ih, hid]
        omega
      · rw [if_pos hid, ih]
        simp [hid]

/-- The rows that match what is expected, among those shown. -/
theorem countP_matches (h : AcceptedForContract u parameters) :
    (rows.countP fun row => row.concerns parameters baseline &&
        row.matchesExpected u d (expectedOf parameters)) =
      (shownRows u parameters baseline rows).countP (·.agreesLetters u parameters) := by
  rw [shownRows, List.countP_filter]
  apply List.countP_congr
  intro row _
  simp only [Bool.and_eq_true, matchesExpected_iff h]
  tauto

theorem countP_shows :
    (rows.countP fun row => row.concerns parameters baseline && row.shows u parameters) =
      (shownRows u parameters baseline rows).countP (·.agreesPermanent u parameters) := by
  rw [shownRows, List.countP_filter]
  apply List.countP_congr
  intro row _
  simp only [ContractRow.shows, Bool.and_eq_true]
  tauto

theorem verified_change {contractId digest : String} (h : AcceptedForContract u parameters)
    (hid : parameters.get? "contract_id" = some (.str contractId)) :
    contractVerified u d (some baseline) parameters rows digest = some true ↔
      Compared baseline parameters rows digest ∧
        (shownRows u parameters baseline rows).countP (·.agreesLetters u parameters) = 1 := by
  have hne : contractId ≠ "" := by
    obtain ⟨text, htext, hne⟩ := accepted_value h hid
    cases htext
    exact hne rfl
  rw [← countP_matches (d := d) h]
  simp only [contractVerified, Compared, verifyExpected, ContractRow.concerns, hid, Option.any_some,
    countExpected_eq hne, Option.map_some, Nat.zero_add]
  generalize rows.countP (fun row => row.id == some contractId &&
    row.matchesExpected u d (expectedOf parameters)) = matched
  cases isFallbackRecordId contractId "CON" <;> cases comparable parameters ["contract_id"] <;>
    cases baseline.digest <;> by_cases hone : matched = 1 <;> simp [hone]

theorem verified_creation {digest : String} (h : AcceptedForContract u parameters)
    (hid : ∀ contractId, parameters.get? "contract_id" ≠ some (.str contractId)) :
    contractVerified u d (some baseline) parameters rows digest = some true ↔
      Compared baseline parameters rows digest ∧
        (shownRows u parameters baseline rows).countP (·.agreesLetters u parameters) = 1 := by
  have hconcerns : ∀ row : ContractRow, row.concerns parameters baseline =
      row.isNew baseline.stableIds := by
    intro row
    unfold ContractRow.concerns
    split
    · rename_i contractId hget
      exact absurd hget (hid contractId)
    · rfl
  have hverified : contractVerified u d (some baseline) parameters rows digest =
      verifyCreatedContract u d baseline.stableIds parameters rows := by
    unfold contractVerified
    split
    · rename_i hnone
      cases hnone
    · rename_i hget
      exact absurd hget (hid _)
    · rename_i heq _
      cases heq
      rfl
  have hcompared : Compared baseline parameters rows digest ↔ comparable parameters [] = true ∧
      (rows.filter (ContractRow.isNew baseline.stableIds)).length = 1 := by
    unfold Compared
    split
    · rename_i contractId hget
      exact absurd hget (hid contractId)
    · simp only [hconcerns, List.countP_eq_length_filter]
  rw [hverified, hcompared, ← countP_matches (d := d) h, verifyCreatedContract]
  simp only [hconcerns]
  cases comparable parameters [] with
  | false => simp
  | true =>
      simp only [if_true, true_and]
      have hcount : (rows.countP fun row => row.isNew baseline.stableIds &&
          row.matchesExpected u d (expectedOf parameters)) =
          (rows.filter (ContractRow.isNew baseline.stableIds)).countP
            (·.matchesExpected u d (expectedOf parameters)) := by
        simp only [List.countP_filter, Bool.and_comm]
      rw [hcount]
      constructor
      · intro hverdict
        split at hverdict
        · rename_i row hrow
          simp only [hrow]
          simpa using hverdict
        · cases hverdict
      · rintro ⟨hlength, hcount⟩
        obtain ⟨row, hrow⟩ := List.length_eq_one_iff.mp hlength
        simp only [hrow] at hcount ⊢
        simpa using hcount

/-- **The verdict on a contract.** It is sound exactly where the cell of the permanent flag does not
deceive: if the code confirms the write, exactly one of the rows concerned shows every approved text
and agrees with the flag word by word. -/
theorem contract_verdict (h : AcceptedForContract u parameters) (actionId : String)
    (employeeId : Option String) (baseline : Option WriteBaseline) (rows : List ContractRow)
    (digest : String) :
    ((reconcileContract u d actionId employeeId baseline parameters rows digest).state =
        .confirmedApplied →
      ∃ b ∈ baseline, rows.countP
        (fun row => row.concerns parameters b && row.shows u parameters) = 1) ↔
    ∀ b ∈ baseline, employeeId.isSome → Compared b parameters rows digest →
      ¬Deceived u parameters (shownRows u parameters b rows) := by
  have hverified : ∀ b, contractVerified u d (some b) parameters rows digest = some true ↔
      Compared b parameters rows digest ∧
        (shownRows u parameters b rows).countP (·.agreesLetters u parameters) = 1 := by
    intro b
    by_cases hid : ∃ contractId, parameters.get? "contract_id" = some (.str contractId)
    · obtain ⟨contractId, hid⟩ := hid
      exact verified_change h hid
    · exact verified_creation h (not_exists.mp hid)
  cases employeeId with
  | none => simp [reconcileContract]
  | some employeeId =>
      cases baseline with
      | none => simp [reconcileContract, contractVerified]
      | some b =>
          have hstate : (reconcileContract u d actionId (some employeeId) (some b) parameters rows
              digest).state = .confirmedApplied ↔
              contractVerified u d (some b) parameters rows digest = some true := by
            simp only [reconcileContract]
            split <;> simp_all
          rw [hstate, hverified b]
          simp only [Option.mem_def, Option.some.injEq, exists_eq_left', forall_eq',
            Option.isSome_some, true_imp_iff, countP_shows, ← deceived_iff]
          tauto

end Verdict

/-! A cell in which the letters stand inside another word. -/

section Sample

/-- Floats are not looked at. -/
def noFloats : FloatData := ⟨fun _ => none⟩

def sampleBaseline : WriteBaseline := ⟨["7"], none⟩

def approvedPermanent : Dict String Json := Dict.empty.set "permanent" (.bool true)

/-- A new contract that is suspended. -/
def suspendedRow : ContractRow where
  id := some "8"
  cell suffix := if suffix = "permanent" then some "In sospensione" else none

theorem accepted_permanent : AcceptedForContract asciiTables approvedPermanent :=
  ⟨_, approvedPermanent, rfl, rfl⟩

/-- The creation of a permanent contract is confirmed by a cell that says nothing of the kind. -/
theorem contract_misread :
    AcceptedForContract asciiTables approvedPermanent ∧
    (reconcileContract asciiTables noFloats "a1" (some "31") (some sampleBaseline)
      approvedPermanent [suspendedRow] "").state = .confirmedApplied ∧
    suspendedRow.saysPermanent asciiTables = false ∧
    [suspendedRow].countP (fun row => row.concerns approvedPermanent sampleBaseline &&
      row.shows asciiTables approvedPermanent) = 0 :=
  ⟨accepted_permanent, by decide, by decide, by decide⟩

/-- What does not speak of permanence is confirmed rightly. -/
theorem contract_verdict_schedule :
    ∃ b ∈ some sampleBaseline, [ContractRow.mk (some "8") fun _ => some " 40H "].countP
      (fun row => row.concerns (Dict.empty.set "schedule" (.str "40h")) b &&
        row.shows asciiTables (Dict.empty.set "schedule" (.str "40h"))) = 1 :=
  (contract_verdict (d := noFloats) ⟨_, Dict.empty.set "schedule" (.str "40h"), rfl, rfl⟩ "a1"
    (some "31") (some sampleBaseline) _ "").mpr (fun _ _ _ _ hdeceived => hdeceived.elim)
    (by decide)

end Sample

end BhDic.Dic
