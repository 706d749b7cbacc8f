import BhDic.Application.Recovery
import BhDic.Dic.EmployeeResources

/-!
# The maturation that already exists

The creation of a maturation is refused where an existing one has its category and its period. The
captured periods are written `month/year` and the approved ones are ISO dates, so that no period is
ever found again; `maturation_guard` says what is left of the guard.
-/

namespace BhDic.Application

open BhDic.Dic BhDic.Dic.EmployeeResource BhDic.Library BhDic.Policies BhDic.Python

/-- A parameter is a day of the month. -/
def InMonth (value : Option Json) (month year : Nat) : Prop :=
  ∃ date : Date, value = some (.str (String.ofList date.isoformat)) ∧ date.month = month ∧
    date.year = year

/-- A captured item is the maturation that the parameters ask for: the same kind and the same
period. -/
structure Denotes (u : UnicodeData) (item : List (String × Json)) (parameters : Dict String Json) :
    Prop where
  kind : ∃ counter name category, Dict.find "counter" item = some (.obj counter) ∧
    Dict.find "name" counter = some (.str name) ∧
    parameters.get? "category" = some (.str category) ∧
    casefolded u (strip name) = casefolded u category
  validFrom : ∃ value month year, Dict.find "from" item = some value ∧
    monthAndYear value = some (month, year) ∧ InMonth (parameters.get? "valid_from") month year
  validTo : (Dict.find "to" item = some .null ∧ parameters.get? "valid_to" = none) ∨
    ∃ value month year, Dict.find "to" item = some value ∧
      monthAndYear value = some (month, year) ∧ InMonth (parameters.get? "valid_to") month year

/-- The request is refused as a duplicate once the summary and the maturations of the employee have
been read. -/
def RefusedAsDuplicate (prepared : Preparation AskResponse) (employeeId : String)
    (parameters : Dict String Json) (digest : String) (summary : EmployeeSummary)
    (records : List MaturationRecord) : Prop :=
  Prog.Raises prepared
    [⟨.inr (.getStateDigest "EMP-MAT-002" (some employeeId) parameters), .ok digest⟩,
      ⟨.inr (.getEmployeeSummary employeeId), .ok summary⟩,
      ⟨.inr (.getMaturations employeeId), .ok records⟩]
    (applicationError "maturation already exists with the approved values")

/-! ## No period is found again -/

/-- A month and a year, as captured, are no date. -/
theorem monthYearText_ne_isoformat (month year : Nat) (date : Date) :
    monthYearText month year ≠ String.ofList date.isoformat := by
  intro heq
  have hchars := congrArg String.toList heq
  rw [monthYearText, String.toList_ofList, String.toList_ofList] at hchars
  have hslash : '/' ∈ date.isoformat := by
    rw [← hchars]
    simp
  rcases date.mem_isoformat hslash with h | ⟨digit, h⟩
  · cases h
  · have hall : ∀ digit : Fin 10, '/' ≠ Nat.digitChar digit := by decide
    exact hall digit h

section Guard

variable {u : UnicodeData} {parameters validated : Dict String Json}

def maturationSpec : FunctionSpec := (getFunctionSpec "EMP-MAT-002").get (by decide)

/-- The beginning of the period is a date, where it is given. -/
theorem validFrom_validated
    (hvalidated : validateWriteParameters u maturationSpec parameters = .ok validated) {out : Json}
    (hout : validated.get? "valid_from" = some out) :
    ∃ date : Date, out = .str (String.ofList date.isoformat) := by
  obtain ⟨value, -, hvalue⟩ := (get?_validateWriteParameters hvalidated).mp hout
  have hdate : validateParameter u (Policies.date "valid_from") value = .ok out := hvalue
  cases value with
  | str text =>
      simp only [validateParameter, Policies.date, validateDate] at hdate
      split at hdate
      · rename_i date _
        cases hdate
        exact ⟨date, rfl⟩
      · cases hdate
  | _ => cases hdate

variable {d : CaptureData} {employeeId : String} {items : List (List (String × Json))}
  {records : List Maturation}

/-- Every captured maturation begins in a month. -/
theorem validFrom_projected (hrecords : maturationsFromItems d employeeId items = .ok records) :
    ∀ record ∈ records, ∃ month year, record.validFrom = some (monthYearText month year) := by
  intro record hmem
  obtain ⟨item, -, seen, hitem⟩ := mem_projectAll hrecords hmem
  simp only [maturationOf, bind_eq_ok] at hitem
  obtain ⟨employee, -, counter, -, hitem⟩ := hitem
  split at hitem
  · simp only [bind_eq_ok] at hitem
    obtain ⟨_, -, _, -, _, -, _, -, _, -, _, -, _, -, _, -, _, -, from_, -, validFrom, hfrom, _, -,
      _, -, _, -, hitem⟩ := hitem
    cases hitem
    unfold monthYear at hfrom
    split at hfrom
    · rename_i month year _
      cases hfrom
      exact ⟨month, year, rfl⟩
    · cases hfrom
  · cases hitem

theorem not_sameText_validFrom
    (hvalidated : validateWriteParameters u maturationSpec parameters = .ok validated)
    (month year : Nat) :
    sameText (some (monthYearText month year)) (validated.get? "valid_from") = false := by
  cases hout : validated.get? "valid_from" with
  | none => rfl
  | some out =>
      obtain ⟨date, rfl⟩ := validFrom_validated hvalidated hout
      simp [sameText, monthYearText_ne_isoformat month year date]

/-- Nothing that is captured is found again. -/
theorem no_duplicate
    (hvalidated : validateWriteParameters u maturationSpec parameters = .ok validated)
    (hrecords : maturationsFromItems d employeeId items = .ok records) (c : Snapshots) :
    ((records.map (·.toMaturationRecord)).any fun record =>
      casefolded c.unicode record.category ==
          casefolded c.unicode (textOf ((validated.erase "motivation").get? "category")) &&
        sameText record.validFrom ((validated.erase "motivation").get? "valid_from") &&
        sameText record.validTo ((validated.erase "motivation").get? "valid_to")) = false := by
  rw [List.any_eq_false]
  intro record hmem
  obtain ⟨maturation, hmaturation, rfl⟩ := List.mem_map.mp hmem
  obtain ⟨month, year, hfrom⟩ := validFrom_projected hrecords maturation hmaturation
  have hget : (validated.erase "motivation").get? "valid_from" = validated.get? "valid_from" := by
    rw [Dict.get?_erase]
    rfl
  rw [hget, hfrom, not_sameText_validFrom hvalidated]
  simp

variable {c : Preparer} {actor : Requester} {correlationId : String} {intent : Intent}
  {nonce : Approvals.Bytes} {random : Approvals.RandomReadings} {r : Approvals.Readings}

theorem not_refusedAsDuplicate (hfunction : intent.functionId = "EMP-MAT-002")
    (hemployee : intent.employeeId = some employeeId)
    (hvalidated : validateWriteParameters c.snapshots.unicode maturationSpec intent.parameters =
      .ok validated)
    (hrecords : maturationsFromItems d employeeId items = .ok records) (digest : String)
    (summary : EmployeeSummary) :
    ¬RefusedAsDuplicate (prepareWrite c actor correlationId intent nonce random r) employeeId
      (validated.erase "motivation") digest summary (records.map (·.toMaturationRecord)) := by
  intro h
  have hspec : specOf intent.functionId = .ok maturationSpec := by
    rw [hfunction]
    rfl
  have hwrite : validatedForWrite c.snapshots.unicode maturationSpec intent.parameters =
      .ok validated := by
    rw [validatedForWrite, hvalidated]
  rw [RefusedAsDuplicate, prepareWrite, hspec] at h
  change Prog.Raises (Prog.bind (Prog.ofExcept (validatedForWrite _ maturationSpec _)) _) _ _ at h
  rw [hwrite] at h
  change Prog.Raises (ite _ _ _) _ _ at h
  split at h
  · exact h
  change Prog.Raises (ite _ _ _) _ _ at h
  split at h
  · exact h
  change Prog.Raises (ite _ _ _) _ _ at h
  split at h
  · exact h
  rw [storePrepared, hfunction, hemployee] at h
  obtain ⟨x, rest, heq, h⟩ := h
  cases heq
  cases hhex : isHexDigest digest with
  | false =>
      simp only [Prog.bind, Prog.ofExcept, Prog.attempt, hhex, Bool.false_eq_true, if_false,
        Prog.inr] at h
      exact absurd h.1 (List.cons_ne_nil _ _)
  | true =>
      simp only [Prog.bind, Prog.ofExcept, Prog.attempt, hhex, if_true, Prog.pure_def] at h
      obtain ⟨x, rest, heq, h⟩ := h
      cases heq
      obtain ⟨x, rest, heq, h⟩ := h
      cases heq
      -- no record has the period, so that the state is read for the second time
      simp only [Prog.bind, Prog.ofExcept, Prog.require, Prog.pure_def,
        no_duplicate hvalidated hrecords c.snapshots, Bool.false_eq_true, false_and, not_false_eq_true,
        if_true, Prog.bind_def, Prog.attempt, opaqueStateDigest] at h
      obtain ⟨x, rest, heq, -⟩ := h
      cases heq

/-- Creations are refused as duplicates exactly of the maturations they repeat, if and only if they
repeat none. -/
theorem maturation_guard (hfunction : intent.functionId = "EMP-MAT-002")
    (hemployee : intent.employeeId = some employeeId)
    (hvalidated : validateWriteParameters c.snapshots.unicode maturationSpec intent.parameters =
      .ok validated)
    (hrecords : maturationsFromItems d employeeId items = .ok records) (digest : String)
    (summary : EmployeeSummary) :
    ((∃ item ∈ items, Denotes c.snapshots.unicode item (validated.erase "motivation")) ↔
        RefusedAsDuplicate (prepareWrite c actor correlationId intent nonce random r) employeeId
          (validated.erase "motivation") digest summary (records.map (·.toMaturationRecord))) ↔
      ¬∃ item ∈ items, Denotes c.snapshots.unicode item (validated.erase "motivation") := by
  rw [iff_iff_implies_and_implies]
  have hrefused : ¬RefusedAsDuplicate (prepareWrite c actor correlationId intent nonce random r) _ _
      _ _ _ := not_refusedAsDuplicate hfunction hemployee hvalidated hrecords digest summary
  constructor
  · intro h hpresent
    exact hrefused (h.1 hpresent)
  · intro hnone
    exact ⟨fun hpresent => absurd hpresent hnone, fun h => absurd h hrefused⟩

end Guard

/-! ## Holidays of January -/

def sampleItem (kind : String) : List (String × Json) :=
  [("id", .int 5), ("employee", .obj [("id", .int 31)]), ("counter", .obj [("name", .str kind)]),
    ("from", .obj [("month", .int 1), ("year", .int 2026)]), ("to", .null), ("valid", .bool true),
    ("ongoing", .bool true)]

def sampleRecord (kind : String) : Maturation where
  category := kind
  validFrom := some "01/2026"
  validTo := none
  maturationId := "5"
  employeeId := "31"
  status := "attiva"

def sampleParameters : Dict String Json :=
  ⟨[("category", .str "Ferie"), ("valid_from", .str "2026-01-01")], by simp⟩

def sampleCreation : Intent where
  functionId := "EMP-MAT-002"
  actionClass := some .prepareWrite
  employeeId := some "31"
  parameters := sampleParameters

def samplePrepared : Preparation AskResponse :=
  prepareWrite exportPreparer exporter "c-1" sampleCreation [7]
    ⟨"a-1", "ABCDEFGH", [0], "0123456789abcdef"⟩ ⟨true, .ofInstant 0⟩

def sampleSummary : EmployeeSummary where
  employeeId := "31"
  firstNameRedacted := some "M***"
  lastNameRedacted := some "R***"
  payrollNumber := none
  taxCodeRedacted := none
  birthDateRedacted := none
  ibanRedacted := none
  jobTitle := none
  phoneRedacted := none
  businessEmailRedacted := none
  addressRedacted := none
  workplace := none
  notesRedacted := none
  state := .active

theorem validated_sample : validateWriteParameters exportPreparer.snapshots.unicode maturationSpec
    sampleCreation.parameters = .ok sampleParameters := by
  rfl

theorem maturationsFromItems_ferie :
    maturationsFromItems (Dic.sampleCapture []) "31" [sampleItem "Ferie"] =
      .ok [sampleRecord "Ferie"] := by
  rfl

theorem maturationsFromItems_permessi :
    maturationsFromItems (Dic.sampleCapture []) "31" [sampleItem "Permessi"] =
      .ok [sampleRecord "Permessi"] := by
  rfl

theorem erase_sampleParameters : sampleParameters.erase "motivation" = sampleParameters := by
  rfl

/-- The holidays from January are there, and are not found. -/
theorem maturation_repeated :
    validateWriteParameters asciiTables maturationSpec sampleParameters = .ok sampleParameters ∧
      Denotes asciiTables (sampleItem "Ferie") sampleParameters ∧
      ¬RefusedAsDuplicate samplePrepared "31" sampleParameters exportDigest sampleSummary
        ([sampleRecord "Ferie"].map (·.toMaturationRecord)) := by
  refine ⟨validated_sample, ⟨⟨[("name", .str "Ferie")], "Ferie", "Ferie", rfl, rfl, rfl, by decide⟩,
    ⟨_, 1, 2026, rfl, rfl, ?_⟩, .inl ⟨rfl, rfl⟩⟩, ?_⟩
  · have hday : "2026-01-01" = String.ofList (Date.isoformat ⟨2026, 1, 1, by decide⟩) := by decide
    exact ⟨⟨2026, 1, 1, by decide⟩, congrArg (fun text => some (Json.str text)) hday, rfl, rfl⟩
  · rw [← erase_sampleParameters]
    exact not_refusedAsDuplicate rfl rfl validated_sample maturationsFromItems_ferie exportDigest
      sampleSummary

/-- Nothing is refused where permits are all there is. -/
theorem maturation_guard_permits :
    (∃ item ∈ [sampleItem "Permessi"], Denotes asciiTables item sampleParameters) ↔
      RefusedAsDuplicate samplePrepared "31" sampleParameters exportDigest sampleSummary
        ([sampleRecord "Permessi"].map (·.toMaturationRecord)) := by
  rw [← erase_sampleParameters]
  apply (maturation_guard rfl rfl validated_sample maturationsFromItems_permessi exportDigest
    sampleSummary).mpr
  rintro ⟨item, hmem, hdenotes⟩
  cases List.mem_singleton.mp hmem
  obtain ⟨counter, name, category, hcounter, hname, hcategory, hsame⟩ := hdenotes.kind
  cases hcounter
  cases hname
  cases hcategory
  exact absurd hsame (by decide)

end BhDic.Application
