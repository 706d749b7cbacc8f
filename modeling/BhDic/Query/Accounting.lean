import BhDic.Query.Execution

/-!
# A tracker through its calls

A call of `complete_step` may raise after it has changed the tracker: what its step read stays
counted, and the source that it states stays recorded. A verification speaks of all the calls before
it, those that raised included (`verifiedRun_of_verify`).
-/

namespace BhDic.Query

open BhDic.Python

/-- The arguments of `complete_step`. -/
structure StepCall where
  stepId : String
  resourceReads : Int
  sourceRecords : Option Int := none
  resultRecords : Option Int := none

namespace QueryPlanTracker

/-- The constructor, of any budgets. -/
def start (plan : HRQueryPlan) (maxResourceReads maxSourceRecords : Int) :
    Except Exn QueryPlanTracker :=
  create plan maxResourceReads.toNat maxSourceRecords.toNat

section Calls

variable (t : QueryPlanTracker)

def recordSource (sourceRecords : Option Int) : QueryPlanTracker × Option Exn :=
  match sourceRecords with
  | none => (t, none)
  | some records =>
      if records < 0 ∨ t.maxSourceRecords < records then
        (t, some (planExecutionError "query plan exceeded the source-record budget"))
      else if ∃ known ∈ t.sourceRecords, (known : Int) ≠ records then
        (t, some (planExecutionError "query plan source cardinality changed"))
      else ({ t with sourceRecords := some records.toNat }, none)

def recordResult (resultRecords : Option Int) : QueryPlanTracker × Option Exn :=
  match resultRecords with
  | none => (t, none)
  | some records =>
      if records < 0 ∨ t.maxSourceRecords < records then
        (t, some (planExecutionError "query plan result cardinality is invalid"))
      else ({ t with resultRecords := some records.toNat }, none)

/-- `complete_step`: the tracker it leaves, and what it raises. -/
def callStep (c : StepCall) : QueryPlanTracker × Option Exn :=
  if t.expected[t.completed.length]? ≠ some c.stepId then
    (t, some (planExecutionError "query plan step order changed during execution"))
  else if c.resourceReads < 0 then
    (t, some (planExecutionError "query plan reported an invalid read count"))
  else
    let t := { t with resourceReads := t.resourceReads + c.resourceReads.toNat }
    if t.maxResourceReads < t.resourceReads then
      (t, some (planExecutionError "query plan exceeded the resource-read budget"))
    else
      match t.recordSource c.sourceRecords with
      | (t, some e) => (t, some e)
      | (t, none) =>
          match t.recordResult c.resultRecords with
          | (t, some e) => (t, some e)
          | (t, none) => ({ t with completed := t.completed ++ [c.stepId] }, none)

/-- The tracker after some calls, whatever they raised. -/
def after (calls : List StepCall) : QueryPlanTracker :=
  calls.foldl (fun t c => (t.callStep c).1) t

/-- The calls, each with the tracker that it found. -/
def history : QueryPlanTracker → List StepCall → List (QueryPlanTracker × StepCall)
  | _, [] => []
  | t, c :: calls => (t, c) :: history (t.callStep c).1 calls

/-- A call that raised nothing. -/
def Accepts (c : StepCall) : Prop := (t.callStep c).2 = none

/-- A call of the step whose turn it is. -/
def InTurn (c : StepCall) : Prop :=
  t.expected[t.completed.length]? = some c.stepId ∧ 0 ≤ c.resourceReads

instance (c : StepCall) : Decidable (t.Accepts c) :=
  inferInstanceAs (Decidable ((t.callStep c).2 = none))

instance (c : StepCall) : Decidable (t.InTurn c) :=
  inferInstanceAs (Decidable (_ ∧ _))

end Calls

/-- The evidence of a run is that each step of the plan was completed, in order, that its counts
were stated by calls of the run, and that everything the steps read lies in the budget. -/
structure VerifiedRun (plan : HRQueryPlan) (maxResourceReads : Int)
    (run : List (QueryPlanTracker × StepCall)) (evidence : QueryPlanEvidence) : Prop where
  steps : evidence.completedSteps = plan.steps.map (·.stepId)
  completed : (run.filter fun p => p.1.Accepts p.2).map (·.2.stepId) = plan.steps.map (·.stepId)
  source : ∃ p ∈ run, p.2.sourceRecords = some evidence.sourceRecords
  result : ∃ p ∈ run, p.2.resultRecords = some evidence.resultRecords
  bounded : evidence.resultRecords ≤ evidence.sourceRecords
  reads : evidence.resourceReads = ((run.filter fun p => p.1.InTurn p.2).map
    (·.2.resourceReads)).sum
  budget : evidence.resourceReads ≤ maxResourceReads

/-! ## One call -/

/-- A count that is kept, or that a call states. -/
def Stated (before after : Option Nat) (stated : Option Int) : Prop :=
  after = before ∨ ∃ n : Nat, after = some n ∧ stated = some (n : Int)

/-- What the recording of counts does to a tracker. -/
structure Records (t : QueryPlanTracker) (source result : Option Int) (t' : QueryPlanTracker) :
    Prop where
  declares : t'.Declares t
  completed : t'.completed = t.completed
  reads : t'.resourceReads = t.resourceReads
  source : Stated t.sourceRecords t'.sourceRecords source
  result : Stated t.resultRecords t'.resultRecords result

/-- What a call does to a tracker. -/
structure CalledWith (t : QueryPlanTracker) (c : StepCall) (t' : QueryPlanTracker) : Prop where
  declares : t'.Declares t
  reads : t'.resourceReads = t.resourceReads + if t.InTurn c then c.resourceReads.toNat else 0
  accepted : t.Accepts c → t.InTurn c ∧ t'.completed = t.completed ++ [c.stepId] ∧
    t'.resourceReads ≤ t.maxResourceReads
  refused : ¬t.Accepts c → t'.completed = t.completed
  source : Stated t.sourceRecords t'.sourceRecords c.sourceRecords
  result : Stated t.resultRecords t'.resultRecords c.resultRecords

variable {t t' : QueryPlanTracker} {raised : Option Exn}

theorem records_of_recordSource {records : Option Int}
    (h : t.recordSource records = (t', raised)) : t.Records records none t' := by
  cases records with
  | none =>
    cases h
    exact ⟨⟨rfl, rfl⟩, rfl, rfl, .inl rfl, .inl rfl⟩
  | some n =>
    rw [recordSource] at h
    split at h
    · cases h
      exact ⟨⟨rfl, rfl⟩, rfl, rfl, .inl rfl, .inl rfl⟩
    · rename_i hn
      split at h
      · cases h
        exact ⟨⟨rfl, rfl⟩, rfl, rfl, .inl rfl, .inl rfl⟩
      · cases h
        refine ⟨⟨rfl, rfl⟩, rfl, rfl, .inr ⟨n.toNat, rfl, ?_⟩, .inl rfl⟩
        rw [Int.toNat_of_nonneg (by omega)]

theorem records_of_recordResult {records : Option Int}
    (h : t.recordResult records = (t', raised)) : t.Records none records t' := by
  cases records with
  | none =>
    cases h
    exact ⟨⟨rfl, rfl⟩, rfl, rfl, .inl rfl, .inl rfl⟩
  | some n =>
    rw [recordResult] at h
    split at h
    · cases h
      exact ⟨⟨rfl, rfl⟩, rfl, rfl, .inl rfl, .inl rfl⟩
    · cases h
      refine ⟨⟨rfl, rfl⟩, rfl, rfl, .inl rfl, .inr ⟨n.toNat, rfl, ?_⟩⟩
      rw [Int.toNat_of_nonneg (by omega)]

/-- A source is recorded first, a result then. -/
theorem Records.trans {t₁ t₂ : QueryPlanTracker} {source result : Option Int}
    (h : t.Records source none t₁) (h' : t₁.Records none result t₂) :
    t.Records source result t₂ := by
  have hsource : t₂.sourceRecords = t₁.sourceRecords := h'.source.resolve_right (by simp)
  have hresult : t₁.resultRecords = t.resultRecords := h.result.resolve_right (by simp)
  refine ⟨⟨h'.declares.1.trans h.declares.1, h'.declares.2.trans h.declares.2⟩,
    h'.completed.trans h.completed, h'.reads.trans h.reads, ?_, ?_⟩
  · rw [hsource]
    exact h.source
  · rw [← hresult]
    exact h'.result

/-- A call out of turn leaves the tracker as it is. -/
theorem callStep_of_not_inTurn {c : StepCall} (h : ¬t.InTurn c) :
    (t.callStep c).1 = t ∧ ¬t.Accepts c := by
  unfold Accepts callStep
  split
  · simp
  · rename_i horder
    rw [if_pos]
    · simp
    · by_contra hreads
      exact h ⟨not_not.mp horder, by omega⟩

/-- A call in turn counts what its step read, and completes the step unless it raises. -/
theorem calledWith_of_inTurn {c : StepCall} (h : t.InTurn c) :
    t.CalledWith c (t.callStep c).1 := by
  have hreads : t.resourceReads + c.resourceReads.toNat =
      t.resourceReads + if t.InTurn c then c.resourceReads.toNat else 0 := by rw [if_pos h]
  generalize hcall : t.callStep c = called
  have haccepts : t.Accepts c ↔ called.2 = none := by rw [Accepts, hcall]
  rw [callStep, if_neg (not_not.mpr h.1), if_neg (by have := h.2; omega)] at hcall
  dsimp only at hcall
  split at hcall
  · subst hcall
    refine ⟨⟨rfl, rfl⟩, hreads, fun ha => ?_, fun _ => rfl, .inl rfl, .inl rfl⟩
    cases haccepts.mp ha
  · rename_i hbudget
    -- the step is counted: what is left can only raise, or complete it
    split at hcall
    · rename_i hsource
      have hrecords := records_of_recordSource hsource
      subst hcall
      refine ⟨hrecords.declares, hrecords.reads.trans hreads, fun ha => ?_,
        fun _ => hrecords.completed, hrecords.source, ?_⟩
      · cases haccepts.mp ha
      · exact .inl (hrecords.result.resolve_right (by simp))
    · rename_i hsource
      split at hcall
      all_goals
        rename_i hresult
        have hrecords := (records_of_recordSource hsource).trans (records_of_recordResult hresult)
        subst hcall
      · refine ⟨hrecords.declares, hrecords.reads.trans hreads, fun ha => ?_,
          fun _ => hrecords.completed, hrecords.source, hrecords.result⟩
        cases haccepts.mp ha
      · refine ⟨hrecords.declares, hrecords.reads.trans hreads, fun _ => ⟨h, ?_, ?_⟩,
          fun hr => absurd (haccepts.mpr rfl) hr, hrecords.source, hrecords.result⟩
        · show _ ++ [c.stepId] = t.completed ++ [c.stepId]
          rw [hrecords.completed]
        · have hcount := hrecords.reads
          dsimp only at hcount ⊢
          omega

theorem calledWith_callStep (t : QueryPlanTracker) (c : StepCall) :
    t.CalledWith c (t.callStep c).1 := by
  by_cases hturn : t.InTurn c
  · exact calledWith_of_inTurn hturn
  · obtain ⟨hcall, hraises⟩ := callStep_of_not_inTurn hturn
    rw [hcall]
    exact ⟨⟨rfl, rfl⟩, by simp [hturn], fun h => absurd h hraises, fun _ => rfl, .inl rfl, .inl rfl⟩

/-! ## Counts that are not negative -/

/-- What a call returns, or what it raises. -/
def returned : QueryPlanTracker × Option Exn → Except Exn QueryPlanTracker
  | (t, none) => .ok t
  | (_, some e) => .error e

theorem returned_recordSource {source : Option Nat} :
    returned (t.recordSource (source.map Int.ofNat)) = t.addSource source := by
  cases source with
  | none => rfl
  | some n =>
    simp only [recordSource, addSource, Option.map_some, ensure]
    by_cases hbudget : n ≤ t.maxSourceRecords
    · rw [if_neg (by simp; omega), if_pos hbudget]
      by_cases hknown : ∀ known ∈ t.sourceRecords, known = n
      · rw [if_neg (by simpa using hknown), if_pos hknown]
        rfl
      · rw [if_pos (by simpa using hknown), if_neg hknown]
        rfl
    · rw [if_pos (by simp; omega), if_neg hbudget]
      rfl

theorem returned_recordResult {result : Option Nat} :
    returned (t.recordResult (result.map Int.ofNat)) = t.addResult result := by
  cases result with
  | none => rfl
  | some n =>
    simp only [recordResult, addResult, Option.map_some, ensure]
    by_cases hbudget : n ≤ t.maxSourceRecords
    · rw [if_neg (by simp; omega), if_pos hbudget]
      rfl
    · rw [if_pos (by simp; omega), if_neg hbudget]
      rfl

/-- Of counts that are not negative, a call returns what `completeStep` says. -/
theorem returned_callStep {stepId : String} {reads : Nat} {source result : Option Nat} :
    returned (t.callStep ⟨stepId, reads, source.map Int.ofNat, result.map Int.ofNat⟩) =
      t.completeStep stepId reads source result := by
  simp only [callStep, completeStep, ensure]
  by_cases horder : t.expected[t.completed.length]? = some stepId
  · rw [if_neg (not_not.mpr horder), if_pos horder, if_neg (by omega)]
    by_cases hbudget : t.resourceReads + reads ≤ t.maxResourceReads
    · rw [if_neg (by simpa using hbudget), Int.toNat_natCast]
      show _ = (ensure _ _ >>= fun _ => _)
      rw [ensure, if_pos hbudget]
      generalize ({ t with resourceReads := t.resourceReads + reads } : QueryPlanTracker) = counted
      show _ = (counted.addSource source >>= fun t₁ => _)
      rw [← returned_recordSource]
      rcases counted.recordSource (source.map Int.ofNat) with ⟨t₁, _ | e⟩
      · show _ = (t₁.addResult result >>= fun t₂ => _)
        rw [← returned_recordResult]
        dsimp only
        rcases t₁.recordResult (result.map Int.ofNat) with ⟨t₂, _ | e⟩
        · rfl
        · rfl
      · rfl
    · rw [if_pos (by simpa using hbudget)]
      show _ = (ensure _ _ >>= fun _ => _)
      rw [ensure, if_neg hbudget]
      rfl
  · rw [if_pos horder, if_neg horder]
    rfl

/-! ## All the calls -/

/-- What a tracker says of the calls that led to it. -/
structure Accounts (t₀ : QueryPlanTracker) (run : List (QueryPlanTracker × StepCall))
    (t : QueryPlanTracker) : Prop where
  declares : t.Declares t₀
  order : t.completed <+: t.expected
  completed : t.completed = (run.filter fun p => p.1.Accepts p.2).map (·.2.stepId)
  reads : t.resourceReads = ((run.filter fun p => p.1.InTurn p.2).map (·.2.resourceReads)).sum
  budget : t.resourceReads ≤ t.maxResourceReads ∨ t.completed.length < t.expected.length
  source : ∀ n ∈ t.sourceRecords, ∃ p ∈ run, p.2.sourceRecords = some (n : Int)
  result : ∀ n ∈ t.resultRecords, ∃ p ∈ run, p.2.resultRecords = some (n : Int)

/-- What each call preserves holds after all of them. -/
theorem run_invariant {P : List (QueryPlanTracker × StepCall) → QueryPlanTracker → Prop}
    (hstep : ∀ run t c, P run t → P (run ++ [(t, c)]) (t.callStep c).1) :
    ∀ (calls : List StepCall) (run : List (QueryPlanTracker × StepCall)) (t : QueryPlanTracker),
      P run t → P (run ++ history t calls) (t.after calls) := by
  intro calls
  induction calls with
  | nil =>
    intro run t h
    simpa [history, after] using h
  | cons c calls ih =>
    intro run t h
    simpa [history, after] using ih _ _ (hstep run t c h)

theorem InTurn.lt_length {c : StepCall} (h : t.InTurn c) :
    t.completed.length < t.expected.length := (List.getElem?_eq_some_iff.mp h.1).1

/-- What one more call counts. -/
theorem sum_reads_append {run : List (QueryPlanTracker × StepCall)} {c : StepCall} :
    (((run ++ [(t, c)]).filter fun p => p.1.InTurn p.2).map (·.2.resourceReads)).sum =
      ((run.filter fun p => p.1.InTurn p.2).map (·.2.resourceReads)).sum +
        if t.InTurn c then c.resourceReads.toNat else 0 := by
  by_cases hturn : t.InTurn c
  · have hnonneg := hturn.2
    simp [List.filter_append, hturn]
    omega
  · simp [List.filter_append, hturn]

theorem exists_stated {run : List (QueryPlanTracker × StepCall)} {c : StepCall}
    {stated : StepCall → Option Int} {before after : Option Nat}
    (h : ∀ n ∈ before, ∃ p ∈ run, stated p.2 = some (n : Int))
    (hstated : Stated before after (stated c)) :
    ∀ n ∈ after, ∃ p ∈ run ++ [(t, c)], stated p.2 = some (n : Int) := by
  intro n hn
  rcases hstated with rfl | ⟨m, rfl, hm⟩
  · obtain ⟨p, hp, heq⟩ := h n hn
    exact ⟨p, List.mem_append_left _ hp, heq⟩
  · cases hn
    exact ⟨(t, c), by simp, hm⟩

/-- The step of the invariant. -/
theorem Accounts.callStep {t₀ : QueryPlanTracker} {run : List (QueryPlanTracker × StepCall)}
    (h : Accounts t₀ run t) (c : StepCall) :
    Accounts t₀ (run ++ [(t, c)]) (t.callStep c).1 := by
  have hcall := calledWith_callStep t c
  generalize (t.callStep c).1 = t' at hcall ⊢
  obtain ⟨hexpected, hmax⟩ := hcall.declares
  refine ⟨⟨hexpected.trans h.declares.1, hmax.trans h.declares.2⟩, ?_, ?_, ?_, ?_,
    exists_stated h.source hcall.source, exists_stated h.result hcall.result⟩
  · rw [hexpected]
    by_cases haccepts : t.Accepts c
    · obtain ⟨hturn, hcompleted, _⟩ := hcall.accepted haccepts
      rw [hcompleted]
      exact append_prefix_of_getElem? h.order hturn.1
    · rw [hcall.refused haccepts]
      exact h.order
  · by_cases haccepts : t.Accepts c
    · rw [(hcall.accepted haccepts).2.1, h.completed]
      simp [List.filter_append, haccepts]
    · rw [hcall.refused haccepts, h.completed]
      simp [List.filter_append, haccepts]
  · rw [sum_reads_append, hcall.reads, ← h.reads]
    push_cast
    rfl
  · rw [hexpected, hmax]
    by_cases haccepts : t.Accepts c
    · exact .inl (hcall.accepted haccepts).2.2
    · rw [hcall.refused haccepts]
      by_cases hturn : t.InTurn c
      · exact .inr hturn.lt_length
      · rw [hcall.reads, if_neg hturn]
        exact h.budget

theorem start_eq_ok {plan : HRQueryPlan} {maxResourceReads maxSourceRecords : Int}
    (h : start plan maxResourceReads maxSourceRecords = .ok t) :
    Accounts t [] t ∧ t.expected = plan.steps.map (·.stepId) ∧
      t.maxResourceReads ≤ maxResourceReads := by
  simp only [start, create, bind_eq_ok, ensure_eq_ok] at h
  obtain ⟨_, hpositive, h⟩ := h
  cases h
  refine ⟨⟨⟨rfl, rfl⟩, List.nil_prefix, rfl, rfl, .inl (Nat.zero_le _), by simp, by simp⟩, rfl, ?_⟩
  show ((maxResourceReads.toNat : Nat) : Int) ≤ _
  omega

/-- A verification after any calls. -/
theorem verifiedRun_of_verify {plan : HRQueryPlan} {maxResourceReads maxSourceRecords : Int}
    {calls : List StepCall} {evidence : QueryPlanEvidence}
    (hstart : start plan maxResourceReads maxSourceRecords = .ok t)
    (h : (t.after calls).verify = .ok evidence) :
    VerifiedRun plan maxResourceReads (history t calls) evidence := by
  obtain ⟨haccounts, hexpected, hmax⟩ := start_eq_ok hstart
  have hrun := run_invariant (P := Accounts t) (fun _ _ c hp => hp.callStep c) calls [] t haccounts
  rw [List.nil_append] at hrun
  simp only [verify, bind_eq_ok, ensure_eq_ok] at h
  obtain ⟨_, hcompleted, h⟩ := h
  have hsteps : (t.after calls).completed = plan.steps.map (·.stepId) := by
    rw [hcompleted, hrun.declares.1, hexpected]
  split at h
  · rename_i source result hsource hresult
    obtain ⟨_, hbounded, h⟩ := bind_eq_ok.mp h
    cases h
    refine ⟨hsteps, hrun.completed.symm.trans hsteps, hrun.source source hsource,
      hrun.result result hresult, ensure_eq_ok.mp hbounded, hrun.reads, ?_⟩
    have hbudget : (t.after calls).resourceReads ≤ (t.after calls).maxResourceReads :=
      hrun.budget.resolve_right (by rw [hcompleted]; omega)
    have hkept := hrun.declares.2
    show ((t.after calls).resourceReads : Int) ≤ maxResourceReads
    omega
  · cases h

end QueryPlanTracker

end BhDic.Query
