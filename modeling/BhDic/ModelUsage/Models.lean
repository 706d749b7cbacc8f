import BhDic.Python.DateTime
import BhDic.Python.Pydantic
import BhDic.Python.Uuid
import Mathlib.Algebra.Ring.Int.Defs

/-!
# Model usage events

The validated values of `model_usage/models.py`, and the token counters they carry. A value that
could be built satisfies its validators: they are fields of its structure.
-/

namespace BhDic.ModelUsage

open BhDic.Python

inductive ModelUsageStatus
  | started | reported | unavailable | unknown
  deriving DecidableEq, Repr

def ModelUsageStatus.value : ModelUsageStatus → String
  | .started => "STARTED"
  | .reported => "REPORTED"
  | .unavailable => "UNAVAILABLE"
  | .unknown => "UNKNOWN"

/-- `ModelUsageStatus(value)`. -/
def ModelUsageStatus.ofValue (value : String) : Except Exn ModelUsageStatus :=
  if value = "STARTED" then .ok .started
  else if value = "REPORTED" then .ok .reported
  else if value = "UNAVAILABLE" then .ok .unavailable
  else if value = "UNKNOWN" then .ok .unknown
  else .error ⟨.valueError, value ++ " is not a valid ModelUsageStatus"⟩

@[simp] theorem ModelUsageStatus.ofValue_value (s : ModelUsageStatus) : ofValue s.value = .ok s := by
  cases s <;> rfl

theorem ModelUsageStatus.value_injective {s t : ModelUsageStatus} (h : s.value = t.value) :
    s = t := by
  have := congrArg ofValue h
  simpa using this

/-! ## Token counters -/

/-- The largest counter: `2**63 - 1`. -/
def maxTokens : Int := 2 ^ 63 - 1

/-- What `ProviderTokenUsage` checks. -/
structure TokenCountersOk (inputTokens outputTokens totalTokens : Int) : Prop where
  input : 0 ≤ inputTokens ∧ inputTokens ≤ maxTokens
  output : 0 ≤ outputTokens ∧ outputTokens ≤ maxTokens
  total : 0 ≤ totalTokens ∧ totalTokens ≤ maxTokens
  sum : totalTokens = inputTokens + outputTokens

theorem tokenCountersOk_iff {i o t : Int} : TokenCountersOk i o t ↔
    (0 ≤ i ∧ i ≤ maxTokens) ∧ (0 ≤ o ∧ o ≤ maxTokens) ∧ (0 ≤ t ∧ t ≤ maxTokens) ∧ t = i + o :=
  ⟨fun h => ⟨h.input, h.output, h.total, h.sum⟩, fun h => ⟨h.1, h.2.1, h.2.2.1, h.2.2.2⟩⟩

instance (i o t : Int) : Decidable (TokenCountersOk i o t) :=
  decidable_of_iff' _ tokenCountersOk_iff

structure ProviderTokenUsage where
  inputTokens : Int
  outputTokens : Int
  totalTokens : Int
  ok : TokenCountersOk inputTokens outputTokens totalTokens
  deriving DecidableEq

def ProviderTokenUsage.create (inputTokens outputTokens totalTokens : Int) :
    Except Exn ProviderTokenUsage :=
  if h : TokenCountersOk inputTokens outputTokens totalTokens then .ok ⟨_, _, _, h⟩
  else .error ⟨.pydanticValidationError, "ProviderTokenUsage"⟩

def zeroTokenUsage : ProviderTokenUsage := ⟨0, 0, 0, by decide⟩

/-! ## Keys and starts -/

def isLower (c : Char) : Bool := 'a' ≤ c && c ≤ 'z'

def isAsciiAlphanum (c : Char) : Bool := isLower c || ('A' ≤ c && c ≤ 'Z') || ('0' ≤ c && c ≤ '9')

/-- 8 to 64 of `A-Za-z0-9._:-`. -/
def correlationIdField : TextField :=
  let member := fun c => isAsciiAlphanum c || c ∈ ['.', '_', ':', '-']
  ⟨8, 64, member, member⟩

def purposeField : TextField where
  minLength := 1
  maxLength := 64
  pattern := ⟨isLower, fun c => isLower c || ('0' ≤ c && c ≤ '9') || c ∈ ['_', '.', '-']⟩

def providerField : TextField where
  minLength := 1
  maxLength := 32
  pattern := ⟨isLower, fun c => isLower c || ('0' ≤ c && c ≤ '9') || c ∈ ['_', '-']⟩

def modelField : TextField where
  minLength := 1
  maxLength := 120
  pattern :=
    ⟨isAsciiAlphanum, fun c => isAsciiAlphanum c || c ∈ ['.', '_', '/', '+', ':', '-']⟩

/-- What `_TOKEN_PREFIX` finds at the start of a text, in either case. -/
def tokenPrefixes : List String :=
  ["bearer", "sk-", "gsk_", "gho_", "ghp_", "ghu_", "ghs_", "ghr_", "github_pat_", "xoxb-",
    "xoxa-", "xoxp-", "xoxr-", "xoxs-"]

/-- `_TOKEN_PREFIX.match(value)`, for a value of ASCII characters. -/
def hasTokenPrefix (value : String) : Bool :=
  tokenPrefixes.any fun p => p.toList.isPrefixOf (value.toList.map Char.toLower)

structure ModelUsageKey where
  correlationId : String
  purpose : String
  ordinal : Int
  correlationId_ok : correlationIdField.Accepts correlationId
  purpose_ok : purposeField.Accepts purpose
  ordinal_pos : 1 ≤ ordinal
  deriving DecidableEq

def ModelUsageKey.create (correlationId purpose : String) (ordinal : Int) :
    Except Exn ModelUsageKey :=
  if h : correlationIdField.Accepts (trim correlationId) ∧ purposeField.Accepts (trim purpose) ∧
      1 ≤ ordinal then .ok ⟨_, _, _, h.1, h.2.1, h.2.2⟩
  else .error ⟨.pydanticValidationError, "ModelUsageKey"⟩

structure ModelUsageStart where
  key : ModelUsageKey
  provider : String
  model : String
  provider_ok : providerField.Accepts provider
  model_ok : modelField.Accepts model ∧ hasTokenPrefix model = false
  deriving DecidableEq

section Fields

theorem isAsciiAlphanum_visible {c : Char} (h : isAsciiAlphanum c = true) : isVisible c = true := by
  simp only [isAsciiAlphanum, isLower, Bool.or_eq_true, Bool.and_eq_true, decide_eq_true_eq] at h
  simp only [isVisible, Bool.and_eq_true, decide_eq_true_eq]
  rcases h with (⟨hlow, hhigh⟩ | ⟨hlow, hhigh⟩) | ⟨hlow, hhigh⟩ <;>
    exact ⟨le_trans (by decide) (Char.le_def.mp hlow), le_trans (Char.le_def.mp hhigh) (by decide)⟩

/-- Letters, digits and some marks. -/
theorem member_visible {c : Char} {marks : List Char} (hmarks : marks.all isVisible = true)
    (h : (isAsciiAlphanum c || c ∈ marks) = true) : isVisible c = true := by
  simp only [Bool.or_eq_true, decide_eq_true_eq] at h
  rcases h with h | h
  · exact isAsciiAlphanum_visible h
  · exact List.all_eq_true.mp hmarks c h

theorem correlationIdField_solid : correlationIdField.pattern.Solid :=
  FieldPattern.solid_of_visible (fun _ => member_visible (by decide))
    (fun _ => member_visible (by decide))

end Fields

/-- What `validate_lifecycle` objects to, if anything. -/
def lifecycleError (status : ModelUsageStatus) (usage : Option ProviderTokenUsage)
    (createdAt : Instant) (completedAt : Option Instant) : Option String :=
  if status = .started then
    if completedAt ≠ none ∨ usage ≠ none then some "STARTED usage must not be completed" else none
  else
    match completedAt with
    | none => some "terminal usage requires completed_at"
    | some completedAt =>
        if completedAt < createdAt then some "completed_at cannot precede created_at"
        else if status = .reported then
          if usage = none then some "REPORTED usage requires exact counters" else none
        else if usage ≠ none then some "unreported usage must not contain counters"
        else none

structure ModelUsageEvent where
  usageId : Uuid
  key : ModelUsageKey
  provider : String
  model : String
  status : ModelUsageStatus
  usage : Option ProviderTokenUsage
  createdAt : Instant
  completedAt : Option Instant
  lifecycle : lifecycleError status usage createdAt completedAt = none
  deriving DecidableEq

/-- A text field of a model without a pattern. -/
def lengthChecked (maxLength : Nat) (text : String) : Except Exn String :=
  if 1 ≤ (trim text).length ∧ (trim text).length ≤ maxLength then .ok (trim text)
  else .error ⟨.pydanticValidationError, "ModelUsageEvent"⟩

/-- `normalize_timestamp`. -/
def normalizeTimestamp (value : DateTime) : Except Exn Instant :=
  match value.astimezoneUtc? with
  | some t => .ok t
  | none => .error ⟨.pydanticValidationError, "usage timestamps must be timezone-aware"⟩

/-- A timestamp that may be absent. -/
def normalizeOptional : Option DateTime → Except Exn (Option Instant)
  | none => .ok none
  | some value => (normalizeTimestamp value).map some

def ModelUsageEvent.create (u : UnicodeData) (usageId : String) (key : ModelUsageKey)
    (provider model : String) (status : ModelUsageStatus) (usage : Option ProviderTokenUsage)
    (createdAt : DateTime) (completedAt : Option DateTime) : Except Exn ModelUsageEvent := do
  let usageId ← match Uuid.parse u (trim usageId) with
    | some usageId => .ok usageId
    | none => .error ⟨.pydanticValidationError, "usage_id must be a UUID"⟩
  let provider ← lengthChecked 32 provider
  let model ← lengthChecked 120 model
  let createdAt ← normalizeTimestamp createdAt
  let completedAt ← normalizeOptional completedAt
  match h : lifecycleError status usage createdAt completedAt with
  | none => .ok ⟨usageId, key, provider, model, status, usage, createdAt, completedAt, h⟩
  | some message => .error ⟨.pydanticValidationError, message⟩

/-! ## Totals -/

structure ModelUsageTotals where
  totalCalls : Nat
  startedCalls : Nat
  reportedCalls : Nat
  unavailableCalls : Nat
  unknownCalls : Nat
  usage : ProviderTokenUsage
  firstRecordedAt : Option Instant
  lastCompletedAt : Option Instant
  counts : startedCalls + reportedCalls + unavailableCalls + unknownCalls = totalCalls
  empty : totalCalls = 0 → firstRecordedAt = none ∧ lastCompletedAt = none

def ModelUsageTotals.create (total started reported unavailable unknown : Nat)
    (usage : ProviderTokenUsage) (firstRecordedAt lastCompletedAt : Option DateTime) :
    Except Exn ModelUsageTotals := do
  let firstRecordedAt ← normalizeOptional firstRecordedAt
  let lastCompletedAt ← normalizeOptional lastCompletedAt
  if counts : started + reported + unavailable + unknown = total then
    if empty : total = 0 → firstRecordedAt = none ∧ lastCompletedAt = none then
      .ok ⟨total, started, reported, unavailable, unknown, usage, firstRecordedAt, lastCompletedAt,
        counts, empty⟩
    else .error ⟨.pydanticValidationError, "empty aggregates must not contain timestamps"⟩
  else .error ⟨.pydanticValidationError, "status call counts must equal total_calls"⟩

end BhDic.ModelUsage
