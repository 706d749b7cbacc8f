import Mathlib.Data.List.Forall2

/-!
# Exceptions

A raised exception is its class and its message. `except C:` catches `C` and its subclasses, so
each class lists its bases; a handler asks `Exn.isA`.
-/

namespace BhDic.Python

/-- The exception classes the modelled code raises or catches by name. `foreign` stands for any
other subclass of `Exception`. -/
inductive ExnClass
  -- built in
  | baseException | exception | valueError | typeError | keyError | runtimeError | osError
  | recursionError
  | timeoutError | connectionError | cancelledError | unicodeEncodeError
  -- third party
  | integrityError | playwrightError | pydanticValidationError
  -- `approvals/service.py`
  | approvalError | actionNotFoundError | invalidStateError | authorizationError
  | expiredActionError | invalidConfirmationError | duplicateExecutionError
  | writeDisabledError | staleTargetError
  -- `errors.py`, `dic/`, `application.py`
  | bhDicError | dicError | dicConfigurationError | dicAuthenticationError | dicMfaRequiredError
  | dicCaptchaRequiredError | dicPasswordExpiredError | dicSessionExpiredError
  | dicSessionVaultError | dicAuthorizationError | dicNotFoundError | dicAmbiguousTargetError
  | dicValidationError | dicUiChangedError | dicTransientError | dicCircuitOpenError
  | dicWriteDisabledError | dicApprovalError | dicInvalidPreparedActionError
  | dicAmbiguousWriteOutcomeError | dicReconciliationRequiredError
  | mismatch | responseMismatch
  | applicationError | applicationPolicyDenied
  -- `policies/catalog.py`, `security/`, `files/service.py`
  | writeParameterValidationError | inputValidationError | payloadDecryptionError
  | uploadResolutionError
  -- `hr_assistant.py`
  | hrRequestInputError
  | foreign (name : String)
  deriving DecidableEq, Repr

/-- The direct base class, or nothing for the root. -/
def ExnClass.base : ExnClass → Option ExnClass
  | .baseException => none
  | .exception | .cancelledError => some .baseException
  | .valueError | .typeError | .keyError | .runtimeError | .osError | .integrityError
  | .playwrightError | .bhDicError | .foreign _ => some .exception
  | .timeoutError | .connectionError => some .osError
  | .recursionError => some .runtimeError
  | .unicodeEncodeError | .pydanticValidationError | .writeParameterValidationError
  | .inputValidationError | .payloadDecryptionError | .uploadResolutionError
  | .hrRequestInputError => some .valueError
  | .approvalError | .applicationError => some .runtimeError
  | .actionNotFoundError | .invalidStateError | .authorizationError | .expiredActionError
  | .invalidConfirmationError | .duplicateExecutionError | .writeDisabledError
  | .staleTargetError => some .approvalError
  | .applicationPolicyDenied => some .applicationError
  | .dicError => some .bhDicError
  | .dicConfigurationError | .dicAuthenticationError | .dicSessionVaultError
  | .dicAuthorizationError | .dicNotFoundError | .dicAmbiguousTargetError | .dicValidationError
  | .dicUiChangedError | .dicTransientError | .dicAmbiguousWriteOutcomeError
  | .dicReconciliationRequiredError => some .dicError
  | .dicMfaRequiredError | .dicCaptchaRequiredError | .dicPasswordExpiredError
  | .dicSessionExpiredError => some .dicAuthenticationError
  | .dicCircuitOpenError => some .dicTransientError
  | .dicWriteDisabledError | .dicApprovalError => some .dicAuthorizationError
  | .dicInvalidPreparedActionError => some .dicValidationError
  | .mismatch | .responseMismatch => some .dicUiChangedError

/-- The class and all its bases. No class is more than five steps below the root. -/
def ExnClass.mro (c : ExnClass) : List ExnClass :=
  go 6 c
where
  go : Nat → ExnClass → List ExnClass
    | 0, _ => []
    | n + 1, c => c :: (c.base.elim [] (go n))

/-- A raised exception. -/
structure Exn where
  cls : ExnClass
  message : String
  deriving DecidableEq, Repr

/-- Whether `except c:` catches `e`. -/
def Exn.isA (e : Exn) (c : ExnClass) : Bool := c ∈ e.cls.mro

/-- `if not condition: raise e`. -/
def ensure (condition : Prop) [Decidable condition] (e : Exn) : Except Exn Unit :=
  if condition then .ok () else .error e

@[simp] theorem ensure_eq_ok {condition : Prop} [Decidable condition] {e : Exn} {u : Unit} :
    ensure condition e = .ok u ↔ condition := by
  unfold ensure
  split <;> simp [*]

/-- What a computation returned, step by step. -/
@[simp] theorem bind_eq_ok {ε α β : Type} {x : Except ε α} {f : α → Except ε β} {b : β} :
    (x >>= f) = .ok b ↔ ∃ a, x = .ok a ∧ f a = .ok b := by
  cases x with
  | error e => exact ⟨fun h => (by cases h), fun ⟨_, h, _⟩ => (by cases h)⟩
  | ok a => exact ⟨fun h => ⟨a, rfl, h⟩, fun ⟨_, h, hf⟩ => (by cases h; exact hf)⟩

theorem map_eq_ok {ε α β : Type} {x : Except ε α} {f : α → β} {b : β} :
    f <$> x = .ok b ↔ ∃ a, x = .ok a ∧ f a = b := by
  cases x with
  | error e => exact ⟨fun h => (by cases h), fun ⟨_, h, _⟩ => (by cases h)⟩
  | ok a => exact ⟨fun h => ⟨a, rfl, by cases h; rfl⟩, fun ⟨_, h, hf⟩ => (by cases h; cases hf; rfl)⟩

theorem mapError_eq_ok {ε ε' α : Type} {x : Except ε α} {f : ε → ε'} {a : α} :
    x.mapError f = .ok a ↔ x = .ok a := by
  cases x with
  | error e => exact ⟨fun h => (by cases h), fun h => (by cases h)⟩
  | ok b => exact ⟨fun h => (by cases h; rfl), fun h => (by cases h; rfl)⟩

/-- A list of results is what each element gives. -/
theorem mapM_eq_ok {ε α β : Type} {f : α → Except ε β} {as : List α} {bs : List β} :
    as.mapM f = .ok bs ↔ List.Forall₂ (fun a b => f a = .ok b) as bs := by
  induction as generalizing bs with
  | nil =>
      simp only [List.mapM_nil, List.forall₂_nil_left_iff]
      constructor
      · intro h
        cases h
        rfl
      · rintro rfl
        rfl
  | cons a as ih =>
      simp only [List.mapM_cons, bind_eq_ok, ih, List.forall₂_cons_left_iff]
      constructor
      · rintro ⟨b, hb, rest, hrest, h⟩
        cases h
        exact ⟨b, rest, hb, hrest, rfl⟩
      · rintro ⟨b, rest, hb, hrest, rfl⟩
        exact ⟨b, hb, rest, hrest, rfl⟩

/-- A list of results is a map, when each result is. -/
theorem map_of_mapM_eq_ok {ε α β : Type} {f : α → Except ε β} {g : α → β} {as : List α}
    {bs : List β} (hf : ∀ a b, f a = .ok b → b = g a) (h : as.mapM f = .ok bs) :
    bs = as.map g := by
  have hall := mapM_eq_ok.mp h
  clear h
  induction hall with
  | nil => rfl
  | cons hab _ ih => rw [List.map_cons, hf _ _ hab, ih]

end BhDic.Python
