import BhDic.Python.Exceptions
import Mathlib.Data.Fintype.Card
import Mathlib.Data.Finset.Union

/-!
# Logical roles

Roles as they arrive are strings; `normalizeRoles` turns them into logical roles and adds the
roles they imply. Its loop runs until a round adds nothing.
-/

namespace BhDic.Policies

open BhDic.Python

inductive LogicalRole
  | readOnly | hrRead | hrWrite | iamOperator | documentOperator | approver | securityAdmin
  | systemAdmin
  deriving DecidableEq, Repr

def LogicalRole.value : LogicalRole → String
  | .readOnly => "READ_ONLY"
  | .hrRead => "HR_READ"
  | .hrWrite => "HR_WRITE"
  | .iamOperator => "IAM_OPERATOR"
  | .documentOperator => "DOCUMENT_OPERATOR"
  | .approver => "APPROVER"
  | .securityAdmin => "SECURITY_ADMIN"
  | .systemAdmin => "SYSTEM_ADMIN"

def LogicalRole.all : List LogicalRole :=
  [.readOnly, .hrRead, .hrWrite, .iamOperator, .documentOperator, .approver, .securityAdmin,
    .systemAdmin]

instance : Fintype LogicalRole where
  elems := LogicalRole.all.toFinset
  complete role := by cases role <;> decide

/-- `LogicalRole(value)`. -/
def LogicalRole.ofValue (value : String) : Except Exn LogicalRole :=
  match LogicalRole.all.find? (fun role => role.value == value) with
  | some role => .ok role
  | none => .error ⟨.valueError, "'" ++ value ++ "' is not a valid LogicalRole"⟩

/-- `_IMPLIED_ROLES`. -/
def impliedRoles : LogicalRole → Finset LogicalRole
  | .hrRead => {.readOnly}
  | .hrWrite => {.hrRead, .readOnly}
  | _ => ∅

/-- One round of the loop of `normalize_roles`. -/
def expandRound (roles : Finset LogicalRole) : Finset LogicalRole :=
  roles ∪ roles.biUnion impliedRoles

/-- The loop itself, stopping at the first round that changes nothing. -/
def expandRoles : Nat → Finset LogicalRole → Finset LogicalRole
  | 0, roles => roles
  | n + 1, roles => if expandRound roles = roles then roles else expandRoles n (expandRound roles)

/-- `normalize_roles`. Each round that changes something adds a role, so as many rounds as there
are roles are enough. -/
def normalizeRoles (values : List String) : Except Exn (Finset LogicalRole) := do
  let roles ← values.mapM LogicalRole.ofValue
  return expandRoles (Fintype.card LogicalRole) roles.toFinset

theorem subset_expandRound (roles : Finset LogicalRole) : roles ⊆ expandRound roles :=
  Finset.subset_union_left

/-- The loop has enough fuel: where it stops, a further round adds nothing. -/
theorem expandRound_expandRoles {n : Nat} {roles : Finset LogicalRole}
    (h : Fintype.card LogicalRole ≤ roles.card + n) :
    expandRound (expandRoles n roles) = expandRoles n roles := by
  induction n generalizing roles with
  | zero =>
      have huniv : roles = Finset.univ :=
        Finset.eq_univ_of_card _ (le_antisymm (Finset.card_le_univ _) h)
      subst huniv
      exact Finset.Subset.antisymm (Finset.subset_univ _) (subset_expandRound _)
  | succ n ih =>
      rw [expandRoles]
      split
      · assumption
      · rename_i hne
        have hlt : roles.card < (expandRound roles).card :=
          Finset.card_lt_card (lt_of_le_of_ne (subset_expandRound roles) (Ne.symm hne))
        exact ih (by omega)

/-- The roles `normalizeRoles` returns are closed under implication. -/
theorem normalizeRoles_closed {values : List String} {roles : Finset LogicalRole}
    (h : normalizeRoles values = .ok roles) : roles.biUnion impliedRoles ⊆ roles := by
  simp only [normalizeRoles, bind, Except.bind] at h
  split at h
  · cases h
  · cases h
    rename_i parsed _
    have hround : expandRound (expandRoles (Fintype.card LogicalRole) parsed.toFinset) =
        expandRoles (Fintype.card LogicalRole) parsed.toFinset :=
      expandRound_expandRoles (Nat.le_add_left _ _)
    exact Finset.union_eq_left.mp hround

/-! ## What the loop computes -/

theorem expandRoles_subset {n : Nat} {roles closed : Finset LogicalRole} (hsub : roles ⊆ closed)
    (hclosed : closed.biUnion impliedRoles ⊆ closed) : expandRoles n roles ⊆ closed := by
  induction n generalizing roles with
  | zero => exact hsub
  | succ n ih =>
      rw [expandRoles]
      split
      · exact hsub
      · apply ih
        apply Finset.union_subset hsub
        exact (Finset.biUnion_subset_biUnion_of_subset_left _ hsub).trans hclosed

theorem subset_expandRoles (n : Nat) (roles : Finset LogicalRole) : roles ⊆ expandRoles n roles := by
  induction n generalizing roles with
  | zero => exact Finset.Subset.refl _
  | succ n ih =>
      rw [expandRoles]
      split
      · exact Finset.Subset.refl _
      · exact (subset_expandRound roles).trans (ih _)

/-- `roles` with everything they imply. -/
def impliedClosure (roles : Finset LogicalRole) : Finset LogicalRole :=
  expandRoles (Fintype.card LogicalRole) roles

theorem impliedClosure_closed (roles : Finset LogicalRole) :
    (impliedClosure roles).biUnion impliedRoles ⊆ impliedClosure roles :=
  Finset.union_eq_left.mp (expandRound_expandRoles (Nat.le_add_left _ _))

/-- More roles imply more. -/
theorem impliedClosure_mono {roles roles' : Finset LogicalRole} (h : roles ⊆ roles') :
    impliedClosure roles ⊆ impliedClosure roles' :=
  expandRoles_subset (h.trans (subset_expandRoles _ _)) (impliedClosure_closed _)

theorem normalizeRoles_eq_ok {values : List String} {roles : Finset LogicalRole} :
    normalizeRoles values = .ok roles ↔
      ∃ parsed, values.mapM LogicalRole.ofValue = .ok parsed ∧
        roles = impliedClosure parsed.toFinset := by
  simp only [normalizeRoles, bind_eq_ok]
  constructor
  · rintro ⟨parsed, hparsed, h⟩
    cases h
    exact ⟨parsed, hparsed, rfl⟩
  · rintro ⟨parsed, hparsed, rfl⟩
    exact ⟨parsed, hparsed, rfl⟩

/-- `RoleRule`: every role of `allOf`, some role of `anyOf` if there are any, and every
entitlement. -/
structure RoleRule where
  allOf : List LogicalRole
  anyOf : List LogicalRole
  entitlements : List String
  deriving DecidableEq, Repr

/-- `RoleRule.matches`. -/
def RoleRule.matches (rule : RoleRule) (roles : Finset LogicalRole) (entitlements : List String) :
    Bool :=
  let expanded := impliedClosure roles
  rule.allOf.all (· ∈ expanded) &&
    (rule.anyOf.isEmpty || rule.anyOf.any (· ∈ expanded)) &&
    rule.entitlements.all (· ∈ entitlements)

theorem RoleRule.matches_mono {rule : RoleRule} {roles roles' : Finset LogicalRole}
    {entitlements : List String} (hroles : roles ⊆ roles')
    (h : rule.matches roles entitlements = true) : rule.matches roles' entitlements = true := by
  have hmono := impliedClosure_mono hroles
  simp only [RoleRule.matches, Bool.and_eq_true, List.all_eq_true, Bool.or_eq_true,
    List.any_eq_true, decide_eq_true_eq] at h ⊢
  obtain ⟨⟨hall, hany⟩, hentitled⟩ := h
  refine ⟨⟨fun role hrole => hmono (hall role hrole), ?_⟩, hentitled⟩
  rcases hany with hnone | ⟨role, hrole, hin⟩
  · exact .inl hnone
  · exact .inr ⟨role, hrole, hmono hin⟩

/-- `ScopedRoleRule`: the rule an operation's scope selects. -/
structure ScopedRoleRule where
  scope : String
  rule : RoleRule
  deriving DecidableEq, Repr

end BhDic.Policies
