import BhDic.Dic.Values
import BhDic.Library.Dict
import BhDic.Library.Json
import BhDic.Policies.Catalog
import BhDic.Python.Date

/-!
# Write parameters

`validateWriteParameters` is the one allowlist of what a write may be given. It normalises as it
validates: texts are stripped, dates and decimals written canonically. What it returns it accepts
again unchanged (`validateParameter_idempotent`).
-/

namespace BhDic.Policies

open BhDic.Dic BhDic.Library BhDic.Python

def invalidParameters (message : String) : Exn := ⟨.writeParameterValidationError, message⟩

def WriteParameterSpec.error (p : WriteParameterSpec) (problem : String) : Exn :=
  invalidParameters ("write parameter " ++ p.name ++ " " ++ problem)

/-! ## One parameter -/

def validateText (p : WriteParameterSpec) : Json → Except Exn Json
  | .str text => do
      let normalized := strip text
      ensure (∀ n ∈ p.minLength, n ≤ normalized.length) (p.error "is too short")
      ensure (∀ n ∈ p.maxLength, normalized.length ≤ n) (p.error "is too long")
      ensure (∀ pattern ∈ p.pattern, pattern.fullmatch normalized = true)
        (p.error "has invalid syntax")
      ensure (p.choices ≠ [] → normalized ∈ p.choices) (p.error "is not allowed")
      return .str normalized
  | _ => .error (p.error "must be text")

def validateDate (p : WriteParameterSpec) : Json → Except Exn Json
  | .str text =>
      match Date.fromisoformat (strip text) with
      | some date => .ok (.str (String.ofList date.isoformat))
      | none => .error (p.error "must be an ISO date")
  | _ => .error (p.error "must be an ISO date")

def validateInteger (p : WriteParameterSpec) : Json → Except Exn Json
  | .int n => do
      ensure (∀ least ∈ p.minValue, least ≤ n) (p.error "is below its minimum")
      ensure (∀ most ∈ p.maxValue, n ≤ most) (p.error "exceeds its maximum")
      return .int n
  | _ => .error (p.error "must be an integer")

def validateBoolean (p : WriteParameterSpec) : Json → Except Exn Json
  | .bool b => .ok (.bool b)
  | _ => .error (p.error "must be boolean")

/-- `bound or default`. -/
def effectiveBound (bound : Option Nat) (default : Nat) : Nat :=
  match bound with
  | none => default
  | some n => if n = 0 then default else n

def validateDecimal (u : UnicodeData) (p : WriteParameterSpec) : Json → Except Exn Json
  | .str text =>
      match canonicalDecimalText u text (effectiveBound p.maxIntegerDigits 9)
          (effectiveBound p.maxDecimalPlaces 4) with
      | .ok canonical => .ok (.str canonical)
      | .error _ => .error (p.error "must be a canonical decimal")
  | _ => .error (p.error "must be a canonical decimal")

/-- One round of the loop of `validate_write_parameters`. -/
def validateParameter (u : UnicodeData) (p : WriteParameterSpec) (value : Json) :
    Except Exn Json :=
  match value with
  | .null => .error (p.error "cannot be null")
  | value =>
      match p.kind with
      | .text => validateText p value
      | .date => validateDate p value
      | .integer => validateInteger p value
      | .boolean => validateBoolean p value
      | .decimal => validateDecimal u p value

/-! ## All of them -/

def FunctionSpec.parameterNames (spec : FunctionSpec) : List String :=
  spec.writeParameters.map (·.name)

/-- `sorted` on a set of names. -/
def sortedNames (names : List String) : List String := names.insertionSort (· ≤ ·)

/-- Validate the value given under a name. -/
def FunctionSpec.validateNamed (u : UnicodeData) (spec : FunctionSpec) (name : String)
    (value : Json) : Except Exn Json :=
  match spec.writeParameters.find? (·.name == name) with
  | some p => validateParameter u p value
  | none => .error ⟨.keyError, name⟩

/-- `validate_write_parameters`. -/
def validateWriteParameters (u : UnicodeData) (spec : FunctionSpec)
    (parameters : Dict String Json) : Except Exn (Dict String Json) := do
  ensure (spec.isWrite = true) (invalidParameters "Function ID is not a write")
  let names := parameters.items.map Prod.fst
  let unexpected := names.filter fun name => name ∉ spec.parameterNames
  ensure (unexpected = [])
    (invalidParameters ("unsupported write parameters: " ++ reprTexts u (sortedNames unexpected)))
  let missing := (spec.writeParameters.filter fun p => p.required && p.name ∉ names).map (·.name)
  ensure (missing = [])
    (invalidParameters ("missing write parameters: " ++ reprTexts u (sortedNames missing)))
  let validated ← parameters.traverse (spec.validateNamed u)
  ensure (spec.writeRequiredAny ≠ [] → ∃ name ∈ spec.writeRequiredAny, validated.contains name)
    (invalidParameters ("one write parameter is required from: " ++
      reprTexts u (sortedNames spec.writeRequiredAny)))
  return validated

/-! ## What is accepted is accepted again, unchanged -/

section Idempotent

variable {u : UnicodeData} {p : WriteParameterSpec} {value out : Json}

/-- A text, an integer or a boolean. -/
def IsScalar : Json → Prop
  | .str _ | .int _ | .bool _ => True
  | _ => False

theorem validateText_idempotent (h : validateText p value = .ok out) :
    validateText p out = .ok out ∧ IsScalar out := by
  cases value with
  | str text =>
      simp only [validateText, bind_eq_ok, ensure_eq_ok] at h
      obtain ⟨_, hmin, _, hmax, _, hpattern, _, hchoices, h⟩ := h
      cases h
      refine ⟨?_, trivial⟩
      simp only [validateText, strip_strip, bind_eq_ok, ensure_eq_ok]
      exact ⟨(), hmin, (), hmax, (), hpattern, (), hchoices, rfl⟩
  | _ => cases h

theorem validateDate_idempotent (h : validateDate p value = .ok out) :
    validateDate p out = .ok out ∧ IsScalar out := by
  cases value with
  | str text =>
      simp only [validateDate] at h
      split at h
      · rename_i date hdate
        cases h
        refine ⟨?_, trivial⟩
        have hstrip : strip (String.ofList date.isoformat) = String.ofList date.isoformat := by
          rw [strip, String.toList_ofList, date.stripChars_isoformat]
        simp only [validateDate, hstrip, date.fromisoformat_isoformat]
      · cases h
  | _ => cases h

theorem validateInteger_idempotent (h : validateInteger p value = .ok out) :
    validateInteger p out = .ok out ∧ IsScalar out := by
  cases value with
  | int n =>
      have hsame := h
      simp only [validateInteger, bind_eq_ok, ensure_eq_ok] at h
      obtain ⟨_, -, _, -, h⟩ := h
      cases h
      exact ⟨hsame, trivial⟩
  | _ => cases h

theorem validateBoolean_idempotent (h : validateBoolean p value = .ok out) :
    validateBoolean p out = .ok out ∧ IsScalar out := by
  cases value with
  | bool b =>
      cases h
      exact ⟨rfl, trivial⟩
  | _ => cases h

theorem validateDecimal_idempotent (h : validateDecimal u p value = .ok out) :
    validateDecimal u p out = .ok out ∧ IsScalar out := by
  cases value with
  | str text =>
      simp only [validateDecimal] at h
      split at h
      · rename_i canonical hcanonical
        cases h
        refine ⟨?_, trivial⟩
        simp only [validateDecimal, canonicalDecimalText_idempotent hcanonical]
      · cases h
  | _ => cases h

theorem validateParameter_of_scalar (h : IsScalar value) :
    validateParameter u p value = match p.kind with
      | .text => validateText p value
      | .date => validateDate p value
      | .integer => validateInteger p value
      | .boolean => validateBoolean p value
      | .decimal => validateDecimal u p value := by
  cases value with
  | null => exact h.elim
  | _ => rfl

/-- **A validated value is validated to itself.** -/
theorem validateParameter_idempotent (h : validateParameter u p value = .ok out) :
    validateParameter u p out = .ok out ∧ IsScalar out := by
  have hcases : (match p.kind with
      | .text => validateText p out
      | .date => validateDate p out
      | .integer => validateInteger p out
      | .boolean => validateBoolean p out
      | .decimal => validateDecimal u p out) = .ok out ∧ IsScalar out := by
    cases value with
    | null => cases h
    | _ =>
        simp only [validateParameter] at h
        revert h
        cases p.kind <;> intro h
        · exact validateText_idempotent h
        · exact validateInteger_idempotent h
        · exact validateBoolean_idempotent h
        · exact validateDecimal_idempotent h
        · exact validateDate_idempotent h
  rw [validateParameter_of_scalar hcases.2]
  exact hcases

end Idempotent

/-! ## What is accepted, by what is given under each name -/

section Lookups

variable {u : UnicodeData} {spec : FunctionSpec} {parameters validated : Dict String Json}

/-- What is given under each name is what the function asks for. -/
structure FunctionSpec.Accepts (u : UnicodeData) (spec : FunctionSpec)
    (given : String → Option Json) : Prop where
  isWrite : spec.isWrite = true
  valid : ∀ name value, given name = some value →
    ∃ out, spec.validateNamed u name value = .ok out
  required : ∀ p ∈ spec.writeParameters, p.required = true → ∃ value, given p.name = some value
  requiredAny : spec.writeRequiredAny ≠ [] →
    ∃ name ∈ spec.writeRequiredAny, ∃ value, given name = some value

theorem mem_parameterNames_of_validateNamed {name : String} {value out : Json}
    (h : spec.validateNamed u name value = .ok out) : name ∈ spec.parameterNames := by
  unfold FunctionSpec.validateNamed at h
  split at h
  · rename_i p hp
    have hname : p.name = name := by simpa using List.find?_some hp
    exact List.mem_map.mpr ⟨p, List.mem_of_find?_eq_some hp, hname⟩
  · cases h

/-- What was validated, and to what. -/
theorem get?_validateWriteParameters (h : validateWriteParameters u spec parameters = .ok validated)
    {name : String} {out : Json} : validated.get? name = some out ↔
      ∃ value, parameters.get? name = some value ∧ spec.validateNamed u name value = .ok out := by
  simp only [validateWriteParameters, bind_eq_ok, ensure_eq_ok] at h
  obtain ⟨_, -, _, -, _, -, traversed, htraverse, _, -, h⟩ := h
  cases h
  exact Dict.get?_traverse htraverse

theorem exists_validateWriteParameters :
    (∃ validated, validateWriteParameters u spec parameters = .ok validated) ↔
      spec.Accepts u parameters.get? := by
  simp only [validateWriteParameters, bind_eq_ok, ensure_eq_ok]
  constructor
  · rintro ⟨_, _, hwrite, _, -, _, hmissing, validated, htraverse, _, hany, -⟩
    refine ⟨hwrite, Dict.exists_traverse.mp ⟨_, htraverse⟩, ?_, ?_⟩
    · intro p hp hrequired
      rw [← Dict.mem_keys_iff]
      by_contra hmem
      have hin : p.name ∈ ([] : List String) := by
        rw [← hmissing]
        exact List.mem_map.mpr ⟨p, List.mem_filter.mpr ⟨hp, by simpa [hrequired] using hmem⟩, rfl⟩
      cases hin
    · intro hne
      obtain ⟨name, hname, hcontains⟩ := hany hne
      obtain ⟨out, hout⟩ := Dict.contains_eq_true.mp hcontains
      obtain ⟨value, hvalue, -⟩ := (Dict.get?_traverse htraverse).mp hout
      exact ⟨name, hname, value, hvalue⟩
  · intro h
    obtain ⟨validated, htraverse⟩ := Dict.exists_traverse.mpr h.valid
    refine ⟨validated, (), h.isWrite, (), ?_, (), ?_, validated, htraverse, (), ?_, rfl⟩
    · rw [List.filter_eq_nil_iff]
      intro name hname
      obtain ⟨value, hvalue⟩ := (Dict.mem_keys_iff _ _).mp hname
      obtain ⟨out, hout⟩ := h.valid name value hvalue
      simpa using mem_parameterNames_of_validateNamed hout
    · rw [List.map_eq_nil_iff, List.filter_eq_nil_iff]
      intro p hp hfilter
      simp only [Bool.and_eq_true, decide_eq_true_eq] at hfilter
      exact hfilter.2 ((Dict.mem_keys_iff _ _).mpr (h.required p hp hfilter.1))
    · intro hne
      obtain ⟨name, hname, value, hvalue⟩ := h.requiredAny hne
      obtain ⟨out, hout⟩ := h.valid name value hvalue
      exact ⟨name, hname, Dict.contains_eq_true.mpr
        ⟨out, (Dict.get?_traverse htraverse).mpr ⟨value, hvalue, hout⟩⟩⟩

/-- A validated value is accepted again, unchanged. -/
theorem validateNamed_validated {name : String} {value out : Json}
    (h : spec.validateNamed u name value = .ok out) :
    spec.validateNamed u name out = .ok out ∧ IsScalar out := by
  unfold FunctionSpec.validateNamed at h ⊢
  split at h
  · exact validateParameter_idempotent h
  · cases h

end Lookups

end BhDic.Policies
