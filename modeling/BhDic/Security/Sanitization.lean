import BhDic.Python.Text

/-!
# Sanitization

`normalizeText` folds a text to its compatibility form, drops control characters and strips what
is left.
-/

namespace BhDic.Security

open BhDic.Python

/-- `_CONTROL_WHITESPACE`. -/
def controlWhitespace : List Char := ['\t', '\n', '\r']

/-- What the loop of `normalize_text` appends for one character. -/
def normalizeCharacter (u : UnicodeData) (allowNewlines : Bool) (c : Char) : List Char :=
  if (u.category c).toList.head? = some 'C' then
    if allowNewlines ∧ c ∈ controlWhitespace then
      if c ∈ ['\n', '\r'] then ['\n'] else [' ']
    else []
  else [c]

/-- The cleaned characters, before the length is checked. -/
def cleanedCharacters (u : UnicodeData) (allowNewlines : Bool) (value : String) : List Char :=
  stripChars ((u.nfkc value.toList).flatMap (normalizeCharacter u allowNewlines))

/-- `normalize_text`. -/
def normalizeText (u : UnicodeData) (value : String) (maxLength : Nat) (allowNewlines : Bool) :
    Except Exn String :=
  let cleaned := cleanedCharacters u allowNewlines value
  if cleaned.length > maxLength then
    .error ⟨.inputValidationError, "text exceeds " ++ toString maxLength ++ " characters"⟩
  else .ok (String.ofList cleaned)

theorem normalizeText_eq_ok {u : UnicodeData} {value cleaned : String} {maxLength : Nat}
    {allowNewlines : Bool} :
    normalizeText u value maxLength allowNewlines = .ok cleaned ↔
      cleaned.toList = cleanedCharacters u allowNewlines value ∧
        cleaned.toList.length ≤ maxLength := by
  by_cases hlong : (cleanedCharacters u allowNewlines value).length > maxLength
  · simp only [normalizeText, if_pos hlong]
    refine ⟨fun h => (by cases h), fun ⟨h, hle⟩ => ?_⟩
    rw [h] at hle
    exact absurd hle (by omega)
  · simp only [normalizeText, if_neg hlong]
    constructor
    · intro h
      cases h
      simpa using hlong
    · rintro ⟨h, _⟩
      rw [← h, String.ofList_toList]

/-- A normalised text is already stripped. -/
theorem strip_normalizeText {u : UnicodeData} {value cleaned : String} {maxLength : Nat}
    {allowNewlines : Bool} (h : normalizeText u value maxLength allowNewlines = .ok cleaned) :
    strip cleaned = cleaned := by
  obtain ⟨h, _⟩ := normalizeText_eq_ok.mp h
  rw [strip, h, cleanedCharacters, stripChars_stripChars, ← cleanedCharacters, ← h,
    String.ofList_toList]

/-! ## Employee identifiers -/

/-- `_EMPLOYEE_ID`. -/
def isEmployeeId (text : String) : Bool :=
  match text.toList with
  | [] => false
  | first :: rest => first.isAlphanum && rest.length ≤ 63 &&
      rest.all fun c => c.isAlphanum || c ∈ ['_', '-']

/-- `validate_employee_id`. -/
def validateEmployeeId (u : UnicodeData) (value : String) : Except Exn String := do
  let normalized ← normalizeText u value 64 false
  ensure (isEmployeeId normalized = true) ⟨.inputValidationError, "invalid employee ID"⟩
  return normalized

/-! ## File names -/

/-- `contains_path_traversal`. A text without slashes is one path component, and has a Windows drive
where its second character is a colon. -/
def containsPathTraversal (u : UnicodeData) (value : String) : Bool :=
  let normalized := stripChars (u.nfkc value.toList)
  '\x00' ∈ value.toList || normalized.isEmpty || '/' ∈ normalized || '\\' ∈ normalized ||
    normalized[1]? = some ':' || normalized = ['.', '.']

/-- `sanitize_filename_metadata`. -/
def sanitizeFilenameMetadata (u : UnicodeData) (value : String) : Except Exn String := do
  let unsafeName : Exn := ⟨.inputValidationError, "unsafe attachment filename"⟩
  ensure (containsPathTraversal u value = false) unsafeName
  let normalized ← normalizeText u value 255 false
  ensure (containsPathTraversal u normalized = false) unsafeName
  ensure (normalized ∉ [".", ".."]) unsafeName
  return normalized

end BhDic.Security
