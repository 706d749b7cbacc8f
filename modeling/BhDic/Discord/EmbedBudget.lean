import BhDic.Discord.Embeds

/-!
# The budget of an embed

A round of `_fair_allocations` grants no text more than it desires and takes what it grants off the
budget, so that the loop ends and the sum is bounded. `compactLengths_spec` puts the passes of
`_compact_embed` together.
-/

namespace BhDic.Discord

/-! ## Cutting a text -/

theorem orDash_ne_nil (value : List Char) : orDash value ≠ [] := by
  unfold orDash
  split <;> simp_all

theorem truncate_ne_nil (value : List Char) (maximum : Nat) : truncate value maximum ≠ [] := by
  unfold truncate
  split
  · exact orDash_ne_nil value
  · split <;> simp

theorem length_orDash (value : List Char) : (orDash value).length = max value.length 1 := by
  unfold orDash
  split
  · next h => simp [h]
  · next h =>
    have := List.length_pos_iff.mpr h
    omega

theorem one_le_length_truncate (value : List Char) (maximum : Nat) :
    1 ≤ (truncate value maximum).length :=
  List.length_pos_iff.mpr (truncate_ne_nil value maximum)

theorem length_truncate_le (value : List Char) {maximum : Nat} (h : 1 ≤ maximum) :
    (truncate value maximum).length ≤ maximum := by
  unfold truncate
  split
  · rw [length_orDash]
    omega
  · split
    · simpa using h
    · rw [List.length_append, List.length_take]
      simp only [List.length_singleton]
      omega

theorem truncate_of_le {value : List Char} {maximum : Nat} (h : value.length ≤ maximum) :
    truncate value maximum = orDash value := if_pos h

theorem truncate_of_lt {value : List Char} {maximum : Nat} (h : maximum < value.length) :
    truncate value maximum = value.take (maximum - 1) ++ ['…'] := by
  rw [truncate, if_neg (by omega)]
  split
  · have : maximum - 1 = 0 := by omega
    rw [this]
    rfl
  · rfl

/-! ## What a grant leaves -/

/-- A grant within what is missing keeps every text within what it desires, and the sum grows by
it. -/
theorem forall₂_modify {allocations desired : List Nat}
    (h : List.Forall₂ (· ≤ ·) allocations desired) (index granted : Nat)
    (hgranted : granted ≤ desired.getD index 0 - allocations.getD index 0) :
    List.Forall₂ (· ≤ ·) (allocations.modify index (· + granted)) desired ∧
      (allocations.modify index (· + granted)).sum = allocations.sum + granted := by
  induction h generalizing index with
  | nil =>
    have : granted = 0 := by simpa using hgranted
    simp [this]
  | @cons current maximum allocations desired hle _ ih =>
    cases index with
    | zero =>
      have hwithin : granted ≤ maximum - current := by simpa using hgranted
      have hcurrent : current + granted ≤ maximum := by omega
      refine ⟨List.Forall₂.cons hcurrent ‹_›, ?_⟩
      simp only [List.modify_zero_cons, List.sum_cons]
      omega
    | succ index =>
      obtain ⟨hall, hsum⟩ := ih index (by simpa using hgranted)
      refine ⟨List.Forall₂.cons hle hall, ?_⟩
      simp only [List.modify_succ_cons, List.sum_cons, hsum]
      omega

/-- What a round grants stays within the desires and is taken off the budget. -/
theorem grantRound_spec {desired : List Nat} (share : Nat) (active : List Nat)
    {allocations : List Nat} (budget : Nat) (h : List.Forall₂ (· ≤ ·) allocations desired) :
    List.Forall₂ (· ≤ ·) (grantRound desired share active allocations budget).1 desired ∧
      (grantRound desired share active allocations budget).1.sum +
          (grantRound desired share active allocations budget).2 =
        allocations.sum + budget ∧
      (grantRound desired share active allocations budget).2 ≤ budget := by
  induction active generalizing allocations budget with
  | nil => exact ⟨h, rfl, le_rfl⟩
  | cons index active ih =>
    simp only [grantRound]
    generalize hgranted :
      min (min (desired.getD index 0 - allocations.getD index 0) share) budget = granted
    obtain ⟨hall, hsum⟩ := forall₂_modify h index granted (by omega)
    have hle : granted ≤ budget := by omega
    split
    · exact ⟨hall, by simp only [hsum]; omega, Nat.sub_le _ _⟩
    · obtain ⟨hrest, hconserved, hless⟩ := ih (budget - granted) hall
      exact ⟨hrest, by rw [hconserved, hsum]; omega, by omega⟩

/-- A round whose first text misses something spends something. -/
theorem grantRound_lt {desired allocations : List Nat} (share : Nat) {index budget : Nat}
    (active : List Nat) (hshare : 0 < share) (hbudget : 0 < budget)
    (hmissing : allocations.getD index 0 < desired.getD index 0)
    (h : List.Forall₂ (· ≤ ·) allocations desired) :
    (grantRound desired share (index :: active) allocations budget).2 < budget := by
  simp only [grantRound]
  generalize hgranted :
    min (min (desired.getD index 0 - allocations.getD index 0) share) budget = granted
  obtain ⟨hall, hsum⟩ := forall₂_modify h index granted (by omega)
  have hpos : 0 < granted := by omega
  split
  · show budget - granted < budget
    omega
  · obtain ⟨-, -, hless⟩ := grantRound_spec share active (budget - granted) hall
    omega

theorem forall₂_zero (desired : List Nat) :
    List.Forall₂ (· ≤ ·) (List.replicate desired.length 0) desired := by
  induction desired with
  | nil => exact List.Forall₂.nil
  | cons maximum desired ih => exact List.Forall₂.cons (Nat.zero_le _) ih

/-- The loop ends by itself: more fuel than the budget changes nothing. -/
theorem fairRounds_fuel {desired : List Nat} {fuel : Nat} (more : Nat) {active allocations : List Nat}
    {budget : Nat} (hfuel : budget ≤ fuel) (h : List.Forall₂ (· ≤ ·) allocations desired)
    (hactive : ∀ index ∈ active, allocations.getD index 0 < desired.getD index 0) :
    fairRounds desired (fuel + more) active allocations budget =
      fairRounds desired fuel active allocations budget := by
  induction fuel generalizing active allocations budget with
  | zero =>
    have hbudget : budget = 0 := by omega
    cases more <;> simp [fairRounds, hbudget]
  | succ fuel ih =>
    rw [show fuel + 1 + more = fuel + more + 1 by omega, fairRounds, fairRounds]
    split
    · next hgo =>
      obtain ⟨hbudget, hne⟩ := hgo
      obtain ⟨index, rest, rfl⟩ := List.exists_cons_of_ne_nil hne
      obtain ⟨hall, -, -⟩ := grantRound_spec (max 1 (budget / (index :: rest).length))
        (index :: rest) budget h
      have hless := grantRound_lt (max 1 (budget / (index :: rest).length)) rest
        (by omega) hbudget (hactive index (List.mem_cons_self ..)) h
      refine ih (Nat.lt_succ_iff.mp (hless.trans_le hfuel)) hall fun i hi => ?_
      simpa using (List.mem_filter.mp hi).2
    · rfl

/-- No bound on the rounds of `_fair_allocations` is ever reached. -/
theorem fairAllocations_eq (desired : List Nat) (budget more : Nat) :
    fairAllocations desired budget =
      fairRounds desired (budget + more)
        ((List.range desired.length).filter fun index => 0 < desired.getD index 0)
        (List.replicate desired.length 0) budget := by
  refine (fairRounds_fuel more le_rfl (forall₂_zero desired) fun index hindex => ?_).symm
  have hpos : 0 < desired.getD index 0 := by simpa using (List.mem_filter.mp hindex).2
  have hzero : (List.replicate desired.length 0).getD index 0 = 0 := by
    simp [List.getD_eq_getElem?_getD, List.getElem?_replicate]
    split <;> rfl
  rw [hzero]
  exact hpos

/-- The loop keeps within the desires and the budget. -/
theorem fairRounds_spec {desired : List Nat} (fuel : Nat) (active : List Nat)
    {allocations : List Nat} (budget : Nat) (h : List.Forall₂ (· ≤ ·) allocations desired) :
    List.Forall₂ (· ≤ ·) (fairRounds desired fuel active allocations budget) desired ∧
      (fairRounds desired fuel active allocations budget).sum ≤ allocations.sum + budget := by
  induction fuel generalizing active allocations budget with
  | zero => exact ⟨h, Nat.le_add_right _ _⟩
  | succ fuel ih =>
    rw [fairRounds]
    split
    · obtain ⟨hall, hsum, -⟩ := grantRound_spec (max 1 (budget / active.length)) active budget h
      obtain ⟨hrest, hle⟩ := ih _ _ hall
      exact ⟨hrest, hle.trans_eq hsum⟩
    · exact ⟨h, Nat.le_add_right _ _⟩

theorem fairAllocations_spec (desired : List Nat) (budget : Nat) :
    List.Forall₂ (· ≤ ·) (fairAllocations desired budget) desired ∧
      (fairAllocations desired budget).sum ≤ budget := by
  obtain ⟨hall, hsum⟩ := fairRounds_spec budget _ budget (forall₂_zero desired)
  refine ⟨hall, ?_⟩
  simpa [fairAllocations] using hsum

/-- Additions within the deficits lead to allocations between the old ones and the desires. -/
theorem forall₂_add {allocations desired additions : List Nat}
    (h : List.Forall₂ (· ≤ ·) allocations desired)
    (hadd : List.Forall₂ (· ≤ ·) additions
      (List.zipWith (fun current maximum => maximum - current) allocations desired)) :
    List.Forall₂ (· ≤ ·) (List.zipWith (· + ·) allocations additions) desired ∧
      List.Forall₂ (· ≤ ·) allocations (List.zipWith (· + ·) allocations additions) ∧
      (List.zipWith (· + ·) allocations additions).sum = allocations.sum + additions.sum := by
  induction h generalizing additions with
  | nil =>
    cases hadd
    exact ⟨List.Forall₂.nil, List.Forall₂.nil, rfl⟩
  | @cons current maximum allocations desired hle _ ih =>
    obtain _ | @⟨addition, _, additions, _, hone, hrest⟩ := hadd
    obtain ⟨hupper, hlower, hsum⟩ := ih hrest
    change addition ≤ maximum - current at hone
    have hwithin : current + addition ≤ maximum := by omega
    refine ⟨List.Forall₂.cons hwithin hupper,
      List.Forall₂.cons (Nat.le_add_right _ _) hlower, ?_⟩
    simp only [List.zipWith_cons_cons, List.sum_cons, hsum]
    omega

/-- `_add_allocations` adds within the desires, takes nothing away and conserves the budget. -/
theorem addAllocations_spec {allocations desired : List Nat} (budget : Nat)
    (h : List.Forall₂ (· ≤ ·) allocations desired) :
    List.Forall₂ (· ≤ ·) (addAllocations allocations desired budget).1 desired ∧
      List.Forall₂ (· ≤ ·) allocations (addAllocations allocations desired budget).1 ∧
      (addAllocations allocations desired budget).1.sum +
          (addAllocations allocations desired budget).2 =
        allocations.sum + budget := by
  obtain ⟨hadd, hsum⟩ := fairAllocations_spec
    (List.zipWith (fun current maximum => maximum - current) allocations desired) budget
  obtain ⟨hupper, hlower, htotal⟩ := forall₂_add h hadd
  refine ⟨hupper, hlower, ?_⟩
  simp only [addAllocations, htotal]
  omega

/-! ## The lengths of a compacted embed -/

/-- A length for the description and one for each name and value: each at least one and at most
what there is to show. -/
structure IsAllotment (available descriptionLength : Nat) (components : List Nat)
    (lengths : Nat × List Nat) : Prop where
  description_pos : 1 ≤ lengths.1
  description_le : lengths.1 ≤ descriptionLength
  positive : List.Forall₂ (· ≤ ·) (List.replicate components.length 1) lengths.2
  within : List.Forall₂ (· ≤ ·) lengths.2 components
  total : lengths.1 + lengths.2.sum ≤ available

theorem forall₂_one {components : List Nat} (h : ∀ c ∈ components, 1 ≤ c) :
    List.Forall₂ (· ≤ ·) (List.replicate components.length 1) components := by
  induction components with
  | nil => exact List.Forall₂.nil
  | cons c components ih =>
    exact List.Forall₂.cons (h c (List.mem_cons_self ..))
      (ih fun c' hc' => h c' (List.mem_cons_of_mem _ hc'))

theorem forall₂_targets {components : List Nat} (h : ∀ c ∈ components, 1 ≤ c)
    (target : Nat → Nat) (htarget : ∀ index, 1 ≤ target index) :
    List.Forall₂ (· ≤ ·) (List.replicate components.length 1)
        (components.mapIdx fun index length => min length (target index)) ∧
      List.Forall₂ (· ≤ ·) (components.mapIdx fun index length => min length (target index))
        components := by
  induction components generalizing target with
  | nil => exact ⟨List.Forall₂.nil, List.Forall₂.nil⟩
  | cons c components ih =>
    obtain ⟨hlower, hupper⟩ := ih (fun c' hc' => h c' (List.mem_cons_of_mem _ hc'))
      (fun index => target (index + 1)) (fun index => htarget _)
    have hone : 1 ≤ min c (target 0) := le_min (h c (List.mem_cons_self ..)) (htarget 0)
    rw [List.mapIdx_cons]
    exact ⟨List.Forall₂.cons hone hlower, List.Forall₂.cons (min_le_left _ _) hupper⟩

theorem forall₂_le_trans {xs ys zs : List Nat} (h : List.Forall₂ (· ≤ ·) xs ys)
    (h' : List.Forall₂ (· ≤ ·) ys zs) : List.Forall₂ (· ≤ ·) xs zs := by
  induction h generalizing zs with
  | nil => exact h'
  | cons hle _ ih =>
    obtain _ | ⟨hle', hrest⟩ := h'
    exact List.Forall₂.cons (hle.trans hle') (ih hrest)

/-- `_compact_embed` gives every text at least one character and no more than is available, and the
description of a successful result as much as is reserved for it. -/
theorem compactLengths_spec (success : Bool) (available : Nat) {descriptionLength : Nat}
    {components : List Nat} (hdescription : 1 ≤ descriptionLength)
    (hcomponents : ∀ c ∈ components, 1 ≤ c) (havailable : components.length < available) :
    IsAllotment available descriptionLength components
      (compactLengths success available descriptionLength components) ∧
      min (min descriptionLength 1024) (available - components.length) ≤
        (compactLengths success available descriptionLength components).1 := by
  simp only [compactLengths]
  generalize hshown :
    (if success = true then min (min descriptionLength 1024) (available - components.length)
      else min descriptionLength (available - components.length)) = shown
  have hpos : 1 ≤ shown := by
    rw [← hshown]
    split <;> omega
  have hle : shown ≤ descriptionLength := by
    rw [← hshown]
    split <;> omega
  have hroom : shown ≤ available - components.length := by
    rw [← hshown]
    split <;> omega
  have hreserved : min (min descriptionLength 1024) (available - components.length) ≤ shown := by
    rw [← hshown]
    split <;> omega
  -- what the first pass leaves: one character for each text, then up to the initial targets
  obtain ⟨hlower, hupper⟩ := forall₂_targets hcomponents
    (fun index => if index % 2 = 0 then 128 else 64) (fun index => by split <;> omega)
  generalize htargets : (components.mapIdx fun index length =>
    min length (if index % 2 = 0 then 128 else 64)) = targets at hlower hupper
  obtain ⟨hwithin, hkept, htotal⟩ :=
    addAllocations_spec (available - shown - components.length) hlower
  generalize addAllocations (List.replicate components.length 1) targets
    (available - shown - components.length) = first at hwithin hkept htotal
  obtain ⟨allocations, left⟩ := first
  have hcomponents' := forall₂_le_trans hwithin hupper
  have hsum : allocations.sum + left + shown = available := by
    have : (List.replicate components.length 1).sum = components.length := by simp
    simp only at htotal
    omega
  split
  · -- a successful result: what is left goes to the description and the fields
    obtain ⟨hall, hmore, hall_total⟩ := addAllocations_spec left
      (List.Forall₂.cons (R := (· ≤ ·)) hle hcomponents')
    generalize addAllocations (shown :: allocations) (descriptionLength :: components) left =
      combined at hall hmore hall_total
    obtain ⟨lengths, rest⟩ := combined
    obtain _ | @⟨d, _, lengths, _, hd, hlengths⟩ := hall
    obtain _ | ⟨hshown', hlengths'⟩ := hmore
    simp only [List.sum_cons] at hall_total
    refine ⟨⟨hpos.trans hshown', hd, forall₂_le_trans hkept hlengths', hlengths, ?_⟩,
      hreserved.trans hshown'⟩
    show d + lengths.sum ≤ available
    omega
  · split
    · -- an error keeps its description, and what is left goes to the fields
      obtain ⟨hall, hmore, htotal'⟩ := addAllocations_spec left hcomponents'
      refine ⟨⟨hpos, hle, forall₂_le_trans hkept hmore, hall, ?_⟩, hreserved⟩
      change (addAllocations allocations components left).1.sum +
        (addAllocations allocations components left).2 = allocations.sum + left at htotal'
      show shown + (addAllocations allocations components left).1.sum ≤ available
      omega
    · refine ⟨⟨hpos, hle, hkept, hcomponents', ?_⟩, hreserved⟩
      show shown + allocations.sum ≤ available
      omega

end BhDic.Discord
