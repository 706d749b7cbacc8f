import BhDic.Query.Planner

/-!
# Tracking the execution of a plan

`QueryPlanTracker` counts what the steps of a plan read, in the declared order and within a budget,
and hands out evidence once the last step is complete.
-/

namespace BhDic.Query

open BhDic.Python

def planExecutionError (message : String) : Exn :=
  ⟨.foreign "QueryPlanExecutionError", message⟩

structure QueryPlanEvidence where
  planIntent : String
  completedSteps : List String
  resourceReads : Nat
  sourceRecords : Nat
  resultRecords : Nat

structure QueryPlanTracker where
  planIntent : String
  expected : List String
  maxResourceReads : Nat
  maxSourceRecords : Nat
  completed : List String := []
  resourceReads : Nat := 0
  sourceRecords : Option Nat := none
  resultRecords : Option Nat := none

namespace QueryPlanTracker

/-- The constructor. -/
def create (plan : HRQueryPlan) (maxResourceReads maxSourceRecords : Nat) :
    Except Exn QueryPlanTracker := do
  ensure (1 ≤ maxResourceReads ∧ 1 ≤ maxSourceRecords)
    ⟨.valueError, "query plan budgets must be positive"⟩
  return {
    planIntent := plan.intent
    expected := plan.steps.map (·.stepId)
    maxResourceReads := maxResourceReads
    maxSourceRecords := maxSourceRecords }

variable (t : QueryPlanTracker)

def addSource (sourceRecords : Option Nat) : Except Exn QueryPlanTracker :=
  match sourceRecords with
  | none => .ok t
  | some records => do
      ensure (records ≤ t.maxSourceRecords)
        (planExecutionError "query plan exceeded the source-record budget")
      ensure (∀ known ∈ t.sourceRecords, known = records)
        (planExecutionError "query plan source cardinality changed")
      return { t with sourceRecords := some records }

def addResult (resultRecords : Option Nat) : Except Exn QueryPlanTracker :=
  match resultRecords with
  | none => .ok t
  | some records => do
      ensure (records ≤ t.maxSourceRecords)
        (planExecutionError "query plan result cardinality is invalid")
      return { t with resultRecords := some records }

/-- `complete_step`, of counts that are not negative. -/
def completeStep (stepId : String) (resourceReads : Nat) (sourceRecords resultRecords : Option Nat) :
    Except Exn QueryPlanTracker := do
  ensure (t.expected[t.completed.length]? = some stepId)
    (planExecutionError "query plan step order changed during execution")
  let t := { t with resourceReads := t.resourceReads + resourceReads }
  ensure (t.resourceReads ≤ t.maxResourceReads)
    (planExecutionError "query plan exceeded the resource-read budget")
  let t ← t.addSource sourceRecords
  let t ← t.addResult resultRecords
  return { t with completed := t.completed ++ [stepId] }

def verify : Except Exn QueryPlanEvidence := do
  ensure (t.completed = t.expected)
    (planExecutionError "query plan objective is not fully verified")
  match t.sourceRecords, t.resultRecords with
  | some sourceRecords, some resultRecords => do
      ensure (resultRecords ≤ sourceRecords)
        (planExecutionError "query plan result exceeds its verified source")
      return {
        planIntent := t.planIntent
        completedSteps := t.completed
        resourceReads := t.resourceReads
        sourceRecords := sourceRecords
        resultRecords := resultRecords }
  | _, _ =>
      .error (planExecutionError "query plan cardinality evidence is incomplete")

/-! ## The budget -/

/-- The steps completed are the first ones of the plan, and what they read is in the budget. -/
structure Within : Prop where
  order : t.completed <+: t.expected
  reads : t.resourceReads ≤ t.maxResourceReads
  source : ∀ records ∈ t.sourceRecords, records ≤ t.maxSourceRecords
  result : ∀ records ∈ t.resultRecords, records ≤ t.maxSourceRecords

/-- Two trackers of one plan, with one budget. -/
def Declares (t' t : QueryPlanTracker) : Prop :=
  t'.expected = t.expected ∧ t'.maxResourceReads = t.maxResourceReads

variable {t}

theorem within_create {plan : HRQueryPlan} {maxResourceReads maxSourceRecords : Nat}
    (h : create plan maxResourceReads maxSourceRecords = .ok t) : t.Within := by
  simp only [create, bind_eq_ok, ensure_eq_ok] at h
  obtain ⟨_, _, h⟩ := h
  cases h
  exact ⟨List.nil_prefix, Nat.zero_le _, by simp, by simp⟩

theorem declared_of_create {plan : HRQueryPlan} {maxResourceReads maxSourceRecords : Nat}
    (h : create plan maxResourceReads maxSourceRecords = .ok t) :
    t.expected = plan.steps.map (·.stepId) ∧ t.maxResourceReads = maxResourceReads := by
  simp only [create, bind_eq_ok, ensure_eq_ok] at h
  obtain ⟨_, _, h⟩ := h
  cases h
  exact ⟨rfl, rfl⟩

theorem addSource_within {t' : QueryPlanTracker} {records : Option Nat} (ht : t.Within)
    (h : t.addSource records = .ok t') :
    t'.Within ∧ t'.completed = t.completed ∧ t'.Declares t := by
  cases records with
  | none =>
    cases h
    exact ⟨ht, rfl, rfl, rfl⟩
  | some records =>
    simp only [addSource, bind_eq_ok, ensure_eq_ok] at h
    obtain ⟨_, hrecords, _, _, h⟩ := h
    cases h
    refine ⟨⟨ht.order, ht.reads, ?_, ht.result⟩, rfl, rfl, rfl⟩
    intro known hknown
    cases hknown
    exact hrecords

theorem addResult_within {t' : QueryPlanTracker} {records : Option Nat} (ht : t.Within)
    (h : t.addResult records = .ok t') :
    t'.Within ∧ t'.completed = t.completed ∧ t'.Declares t := by
  cases records with
  | none =>
    cases h
    exact ⟨ht, rfl, rfl, rfl⟩
  | some records =>
    simp only [addResult, bind_eq_ok, ensure_eq_ok] at h
    obtain ⟨_, hrecords, h⟩ := h
    cases h
    refine ⟨⟨ht.order, ht.reads, ht.source, ?_⟩, rfl, rfl, rfl⟩
    intro known hknown
    cases hknown
    exact hrecords

theorem append_prefix_of_getElem? {α : Type} {xs ys : List α} {x : α} (h : xs <+: ys)
    (hx : ys[xs.length]? = some x) : xs ++ [x] <+: ys := by
  obtain ⟨rest, rfl⟩ := h
  rw [List.getElem?_append_right (Nat.le_refl _), Nat.sub_self] at hx
  cases rest with
  | nil => simp at hx
  | cons y rest =>
    obtain rfl : y = x := by simpa using hx
    exact ⟨rest, by simp⟩

theorem completeStep_within {t' : QueryPlanTracker} {stepId : String} {reads : Nat}
    {source result : Option Nat} (ht : t.Within)
    (h : t.completeStep stepId reads source result = .ok t') : t'.Within ∧ t'.Declares t := by
  simp only [completeStep, bind_eq_ok, ensure_eq_ok] at h
  obtain ⟨_, hstep, _, hreads, t₁, hsource, t₂, hresult, h⟩ := h
  cases h
  have hbudget : Within { t with resourceReads := t.resourceReads + reads } :=
    ⟨ht.order, hreads, ht.source, ht.result⟩
  obtain ⟨hwithin₁, hcompleted₁, hexpected₁, hmax₁⟩ := addSource_within hbudget hsource
  obtain ⟨hwithin₂, hcompleted₂, hexpected₂, hmax₂⟩ := addResult_within hwithin₁ hresult
  refine ⟨⟨?_, hwithin₂.reads, hwithin₂.source, hwithin₂.result⟩, hexpected₂.trans hexpected₁,
    hmax₂.trans hmax₁⟩
  show t₂.completed ++ [stepId] <+: t₂.expected
  rw [hcompleted₂, hcompleted₁, hexpected₂, hexpected₁]
  exact append_prefix_of_getElem? ht.order hstep

theorem create_eq {plan : HRQueryPlan} {maxResourceReads maxSourceRecords : Nat}
    (hreads : 1 ≤ maxResourceReads) (hsource : 1 ≤ maxSourceRecords) :
    create plan maxResourceReads maxSourceRecords = .ok {
      planIntent := plan.intent
      expected := plan.steps.map (·.stepId)
      maxResourceReads := maxResourceReads
      maxSourceRecords := maxSourceRecords } := by
  rw [create, ensure, if_pos ⟨hreads, hsource⟩]
  rfl

/-- A step whose turn it is, within the budget. -/
theorem completeStep_eq {stepId : String} {reads : Nat} {source result : Option Nat}
    (horder : t.expected[t.completed.length]? = some stepId)
    (hreads : t.resourceReads + reads ≤ t.maxResourceReads)
    (hsource : ∀ n ∈ source, n ≤ t.maxSourceRecords ∧ t.sourceRecords = none)
    (hresult : ∀ n ∈ result, n ≤ t.maxSourceRecords) :
    t.completeStep stepId reads source result = .ok { t with
      resourceReads := t.resourceReads + reads
      sourceRecords := source.or t.sourceRecords
      resultRecords := result.or t.resultRecords
      completed := t.completed ++ [stepId] } := by
  simp only [completeStep, bind_eq_ok, ensure_eq_ok]
  refine ⟨(), horder, (), hreads, { t with
    resourceReads := t.resourceReads + reads
    sourceRecords := source.or t.sourceRecords }, ?_, { t with
    resourceReads := t.resourceReads + reads
    sourceRecords := source.or t.sourceRecords
    resultRecords := result.or t.resultRecords }, ?_, rfl⟩
  · cases source with
    | none => rfl
    | some n =>
      simp only [addSource, bind_eq_ok, ensure_eq_ok]
      obtain ⟨hn, hnone⟩ := hsource n rfl
      exact ⟨(), hn, (), by simp [hnone], rfl⟩
  · cases result with
    | none => rfl
    | some n =>
      simp only [addResult, bind_eq_ok, ensure_eq_ok]
      exact ⟨(), hresult n rfl, rfl⟩

/-- The evidence of a tracker that has everything. -/
theorem verify_eq {source result : Nat} (hcompleted : t.completed = t.expected)
    (hsource : t.sourceRecords = some source) (hresult : t.resultRecords = some result)
    (hbounded : result ≤ source) :
    t.verify = .ok ⟨t.planIntent, t.completed, t.resourceReads, source, result⟩ := by
  simp only [verify, bind_eq_ok, ensure_eq_ok, hsource, hresult]
  exact ⟨(), hcompleted, (), hbounded, rfl⟩

/-- Evidence is of every step, and of no more than the budget. -/
theorem verify_within {evidence : QueryPlanEvidence} (ht : t.Within)
    (h : t.verify = .ok evidence) :
    evidence.completedSteps = t.expected ∧ evidence.resourceReads ≤ t.maxResourceReads ∧
      evidence.resultRecords ≤ evidence.sourceRecords := by
  simp only [verify, bind_eq_ok, ensure_eq_ok] at h
  obtain ⟨_, hcompleted, h⟩ := h
  split at h
  · obtain ⟨_, hresult, h⟩ := bind_eq_ok.mp h
    cases h
    exact ⟨hcompleted, ht.reads, ensure_eq_ok.mp hresult⟩
  · cases h

end QueryPlanTracker

end BhDic.Query
