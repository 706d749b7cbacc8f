import BhDic.Library.Dict
import BhDic.Python.Exceptions

/-!
# Feature flags

The flags of the process configuration, and runtime overrides over them. An override can switch a
feature off, and switch it back on, but never one the configuration leaves off.
-/

namespace BhDic.Policies

open BhDic.Library BhDic.Python

/-- The `FeatureFlags` protocol: `enabled` of each flag. -/
abbrev FeatureFlags := String → Bool

structure RuntimeFeatureFlags where
  baseline : Dict String Bool
  runtime : Dict String Bool

namespace RuntimeFeatureFlags

def enabled (f : RuntimeFeatureFlags) : FeatureFlags := fun name =>
  (f.baseline.get? name).getD false && (f.runtime.get? name).getD true

def setRuntime (f : RuntimeFeatureFlags) (name : String) (enabled : Bool) :
    Except Exn RuntimeFeatureFlags :=
  if f.baseline.contains name then .ok { f with runtime := f.runtime.set name enabled }
  else .error ⟨.keyError, "unknown feature flag: " ++ name⟩

def clearRuntime (f : RuntimeFeatureFlags) (name : String) : RuntimeFeatureFlags :=
  { f with runtime := f.runtime.filterKeys (· != name) }

/-- One change of the overrides. -/
inductive Override
  | set (name : String) (enabled : Bool)
  | clear (name : String)

/-- The flags after an override; one that is refused changes nothing. -/
def override (f : RuntimeFeatureFlags) : Override → RuntimeFeatureFlags
  | .set name enabled =>
      match f.setRuntime name enabled with
      | .ok f' => f'
      | .error _ => f
  | .clear name => f.clearRuntime name

/-- No override touches the configuration. -/
@[simp] theorem baseline_override (f : RuntimeFeatureFlags) (o : Override) :
    (f.override o).baseline = f.baseline := by
  cases o with
  | set name enabled =>
      rw [override, setRuntime]
      by_cases hknown : f.baseline.contains name = true <;> simp [hknown]
  | clear name => rfl

theorem baseline_foldl (f : RuntimeFeatureFlags) (overrides : List Override) :
    (overrides.foldl override f).baseline = f.baseline := by
  induction overrides generalizing f with
  | nil => rfl
  | cons o overrides ih => rw [List.foldl_cons, ih, baseline_override]

/-- A flag the configuration leaves off stays off, whatever the overrides. -/
theorem enabled_foldl_of_baseline {f : RuntimeFeatureFlags} {name : String}
    (hoff : f.baseline.get? name ≠ some true) (overrides : List Override) :
    (overrides.foldl override f).enabled name = false := by
  rw [enabled, baseline_foldl]
  cases hname : f.baseline.get? name with
  | none => rfl
  | some on =>
      cases on with
      | false => rfl
      | true => exact absurd hname hoff

end RuntimeFeatureFlags

end BhDic.Policies
