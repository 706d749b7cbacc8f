import BhDic.Library.Dict
import BhDic.Python.Exceptions
import BhDic.Python.Text

/-!
# Drafts of an onboarding

What is observed of a field in a document, the observations that disagree, and the draft they are
merged into. A draft that contradicts itself cannot be built.
-/

namespace BhDic.Onboarding

open BhDic.Library BhDic.Python

/-- `_SOURCE_ID`. -/
def isSourceId (text : String) : Bool :=
  match text.toList with
  | [] => false
  | first :: rest => first.isAlphanum && rest.length ≤ 63 &&
      rest.all fun c => c.isAlphanum || c == '_' || c == '-'

/-- `_FIELD_NAME`. -/
def isFieldName (text : String) : Bool :=
  match text.toList with
  | [] => false
  | first :: rest => first.isLower && rest.length ≤ 63 &&
      rest.all fun c => c.isLower || c.isDigit || c == '_'

/-- One observation of a field. The confidence is in hundredths. -/
structure FieldEvidence where
  value : String
  confidence : Nat
  source : String
  valueLength : 1 ≤ value.length ∧ value.length ≤ 512
  confidenceBound : confidence ≤ 100
  sourceId : isSourceId source = true
  deriving DecidableEq

/-- The constructor. -/
def FieldEvidence.create (value : String) (confidence : Nat) (source : String) :
    Except Exn FieldEvidence :=
  if h : (1 ≤ value.length ∧ value.length ≤ 512) ∧ confidence ≤ 100 ∧ isSourceId source = true then
    .ok ⟨value, confidence, source, h.1, h.2.1, h.2.2⟩
  else .error ⟨.pydanticValidationError, "FieldEvidence"⟩

/-- Observations that disagree. -/
structure FieldConflict where
  fieldName : String
  candidates : List FieldEvidence
  deriving DecidableEq

/-- What `validate_draft` asks of a draft. -/
structure IsDraft (fields : Dict String FieldEvidence) (conflicts : List FieldConflict)
    (missingRequired : List String) : Prop where
  apart : ∀ conflict ∈ conflicts, fields.contains conflict.fieldName = false
  distinct : (conflicts.map (·.fieldName)).Nodup
  names : ∀ name ∈ fields.items.map Prod.fst ++ conflicts.map (·.fieldName) ++ missingRequired,
    isFieldName name = true
  missing : ∀ name ∈ missingRequired, fields.contains name = false

theorem isDraft_iff {fields : Dict String FieldEvidence} {conflicts : List FieldConflict}
    {missingRequired : List String} : IsDraft fields conflicts missingRequired ↔
      (∀ conflict ∈ conflicts, fields.contains conflict.fieldName = false) ∧
      (conflicts.map (·.fieldName)).Nodup ∧
      (∀ name ∈ fields.items.map Prod.fst ++ conflicts.map (·.fieldName) ++ missingRequired,
        isFieldName name = true) ∧
      ∀ name ∈ missingRequired, fields.contains name = false :=
  ⟨fun h => ⟨h.apart, h.distinct, h.names, h.missing⟩, fun h => ⟨h.1, h.2.1, h.2.2.1, h.2.2.2⟩⟩

instance (fields : Dict String FieldEvidence) (conflicts : List FieldConflict)
    (missingRequired : List String) : Decidable (IsDraft fields conflicts missingRequired) :=
  decidable_of_iff _ isDraft_iff.symm

/-- A merged draft: the fields that disagree are not among its fields. -/
structure DocumentDraft where
  fields : Dict String FieldEvidence
  conflicts : List FieldConflict
  missingRequired : List String
  valid : IsDraft fields conflicts missingRequired

/-- The constructor. -/
def DocumentDraft.create (fields : Dict String FieldEvidence) (conflicts : List FieldConflict)
    (missingRequired : List String) : Except Exn DocumentDraft :=
  if h : IsDraft fields conflicts missingRequired then .ok ⟨fields, conflicts, missingRequired, h⟩
  else .error ⟨.pydanticValidationError, "DocumentDraft"⟩

end BhDic.Onboarding
