import BhDic.Onboarding.Drafts
import BhDic.Python.Loops

/-!
# The completion of a draft

A form is accepted from the actor of a live draft without conflicts, and only when it names exactly
the first five fields that are missing; a form that is refused changes no draft. So each accepted
form makes the list of missing fields five shorter, until it is empty (`drafts_exact`).
-/

namespace BhDic.Onboarding

open BhDic.Library BhDic.Python

variable {T : Type}

/-! ## What is said of it -/

/-- The fields that a form has to give. -/
def StoredOnboardingDraft.asked (stored : StoredOnboardingDraft T) : List String :=
  stored.draft.missingRequired.take 5

/-- The draft that an accepted form makes of a stored one: the fields asked for have the values of
the form, and nothing else changes. -/
structure Filled (u : UnicodeData) (today : Date) (values : Dict String Json)
    (stored updated : StoredOnboardingDraft T) : Prop where
  owner : updated.draftId = stored.draftId ∧ updated.key = stored.key ∧
    updated.expiresAt = stored.expiresAt
  conflicts : updated.draft.conflicts = stored.draft.conflicts
  missing : updated.draft.missingRequired =
    stored.draft.missingRequired.filter fun name => name ∉ stored.asked
  filled : ∀ name ∈ stored.asked, ∃ raw evidence, values.get? name = some raw ∧
    updated.draft.fields.get? name = some evidence ∧
    validateValue u today name raw = .ok evidence.value ∧
    evidence.confidence = 100 ∧ evidence.source = "discord_form"
  kept : ∀ name ∉ stored.asked,
    updated.draft.fields.get? name = stored.draft.fields.get? name

section Calls

variable [LinearOrder T]

/-- Nothing is in a store that was not in it before, and what has not expired is still there. -/
structure KeepsDrafts (now : T) (s s' : OnboardingDraftStore T) : Prop where
  old : ∀ draftId stored, s'.get? draftId = some stored → s.get? draftId = some stored
  live : ∀ draftId stored, s.get? draftId = some stored → now < stored.expiresAt →
    s'.get? draftId = some stored

def IsRefusal (e : Exn) : Prop := e.cls = .foreign "OnboardingDraftError"

/-- A call that `fill_missing` has to refuse, where the draft is `stored`. -/
def Refusable (now : T) (key : OnboardingDraftKey) (values : Dict String Json)
    (stored : StoredOnboardingDraft T) : Prop :=
  stored.key ≠ key ∨ stored.expiresAt ≤ now ∨ stored.draft.conflicts ≠ [] ∨
    ¬∀ name, values.contains name = true ↔ name ∈ stored.asked

/-- What a call of `fill_missing` does. -/
structure FillsExactly (c : DraftSettings T) (s : OnboardingDraftStore T) (now : T) (today : Date)
    (key : OnboardingDraftKey) (draftId : String) (values : Dict String Json)
    (outcome : Except Exn (StoredOnboardingDraft T)) (s' : OnboardingDraftStore T) : Prop where
  refuses : ∀ stored, s.get? draftId = some stored → Refusable now key values stored →
    ∃ e, outcome = .error e
  refused : ∀ e, outcome = .error e → IsRefusal e ∧ KeepsDrafts now s s'
  fills : ∀ updated, outcome = .ok updated → ∃ stored, s.get? draftId = some stored ∧
    s'.get? draftId = some updated ∧ Filled c.unicode today values stored updated
  others : ∀ id ≠ draftId, ∀ stored, s.get? id = some stored → now < stored.expiresAt →
    s'.get? id = some stored

end Calls

/-- The identifier of the draft that a call creates. -/
def DraftCall.creates : DraftCall T → Option String
  | .create _ draftId _ _ => some draftId
  | _ => none

/-! ## Values -/

section Values

variable {u : UnicodeData} {today : Date} {name : String} {raw : Json}

theorem refusal_onboardingDraftError {message : String} :
    IsRefusal (onboardingDraftError message) := rfl

theorem checkValue_within {value : List Char} :
    RaisesWithin IsRefusal (checkValue u today name value) := by
  unfold checkValue
  split
  · exact raisesWithin_ensure refusal_onboardingDraftError
  · split
    · exact raisesWithin_ensure refusal_onboardingDraftError
    · split
      · exact raisesWithin_ensure refusal_onboardingDraftError
      · split
        · exact raisesWithin_ensure refusal_onboardingDraftError
        · split
          · split
            · exact raisesWithin_error refusal_onboardingDraftError
            · exact raisesWithin_ensure refusal_onboardingDraftError
          · exact raisesWithin_ok

theorem validateValue_within : RaisesWithin IsRefusal (validateValue u today name raw) := by
  unfold validateValue
  split
  · apply RaisesWithin.bind (raisesWithin_ensure refusal_onboardingDraftError)
    intro _ _
    apply RaisesWithin.bind (raisesWithin_ensure refusal_onboardingDraftError)
    intro _ _
    apply checkValue_within.bind
    intro _ _
    exact raisesWithin_ok
  · exact raisesWithin_error refusal_onboardingDraftError

/-- A value that is accepted can be an observation. -/
theorem create_of_validateValue {value : String} (h : validateValue u today name raw = .ok value) :
    isFieldName name = true ∧
      ∃ evidence, FieldEvidence.create value 100 "discord_form" = .ok evidence ∧
        evidence.value = value ∧ evidence.confidence = 100 ∧ evidence.source = "discord_form" := by
  unfold validateValue at h
  split at h
  · rename_i text
    simp only [bind_eq_ok, ensure_eq_ok] at h
    obtain ⟨_, hname, _, ⟨hne, hlength, _⟩, _, _, h⟩ := h
    cases h
    refine ⟨hname, ?_⟩
    have hpositive := List.length_pos_of_ne_nil hne
    have hok : (1 ≤ (String.ofList (collapseSpaces text)).length ∧
        (String.ofList (collapseSpaces text)).length ≤ 512) ∧ 100 ≤ 100 ∧
        isSourceId "discord_form" = true := by
      rw [String.length_ofList]
      exact ⟨⟨hpositive, by omega⟩, le_refl _, by decide⟩
    exact ⟨⟨_, 100, "discord_form", hok.1, hok.2.1, hok.2.2⟩, dif_pos hok, rfl, rfl, rfl⟩
  · cases h

end Values

/-! ## Filling a draft -/

section Fill

variable {c : DraftSettings T} {today : Date} {values : Dict String Json}
  {stored updated : StoredOnboardingDraft T}

theorem fillField_within {u : UnicodeData} {fields : Dict String FieldEvidence}
    {item : String × Json} : RaisesWithin IsRefusal (fillField u today fields item) := by
  apply validateValue_within.bind
  intro value hvalue
  obtain ⟨_, evidence, hevidence, _⟩ := create_of_validateValue hvalue
  refine RaisesWithin.of_ok hevidence ?_
  exact raisesWithin_ok

/-- A field has what its value gives. -/
def IsFilled (u : UnicodeData) (today : Date) (fields : Dict String FieldEvidence) (name : String)
    (raw : Json) : Prop :=
  ∃ evidence, fields.get? name = some evidence ∧
    validateValue u today name raw = .ok evidence.value ∧
    evidence.confidence = 100 ∧ evidence.source = "discord_form"

theorem fillField_eq_ok {u : UnicodeData} {fields fields' : Dict String FieldEvidence}
    {item : String × Json} (h : fillField u today fields item = .ok fields') :
    isFieldName item.1 = true ∧ IsFilled u today fields' item.1 item.2 ∧
      ∀ name ≠ item.1, fields'.get? name = fields.get? name := by
  obtain ⟨value, hvalue, h⟩ := bind_eq_ok.mp h
  obtain ⟨hname, evidence, hevidence, heq, hconfidence, hsource⟩ := create_of_validateValue hvalue
  obtain ⟨evidence', hevidence', h⟩ := bind_eq_ok.mp h
  obtain rfl : evidence = evidence' := Except.ok.inj (hevidence.symm.trans hevidence')
  cases h
  refine ⟨hname, ⟨evidence, ?_, ?_, hconfidence, hsource⟩, ?_⟩
  · rw [Dict.get?_set, if_pos rfl]
  · rw [heq]
    exact hvalue
  · intro name hne
    rw [Dict.get?_set, if_neg hne]

/-- The fields after all the values. -/
theorem foldlM_fillField {u : UnicodeData} {fields fields' : Dict String FieldEvidence}
    {items : List (String × Json)} (hnodup : (items.map Prod.fst).Nodup)
    (h : items.foldlM (fillField u today) fields = .ok fields') :
    (∀ item ∈ items, isFieldName item.1 = true ∧ IsFilled u today fields' item.1 item.2) ∧
      ∀ name ∉ items.map Prod.fst, fields'.get? name = fields.get? name := by
  revert hnodup
  refine foldlM_invariant (P := fun pre t => (pre.map Prod.fst).Nodup →
    (∀ item ∈ pre, isFieldName item.1 = true ∧ IsFilled u today t item.1 item.2) ∧
      ∀ name ∉ pre.map Prod.fst, t.get? name = fields.get? name) ?_ ?_ h
  · intro _
    exact ⟨by simp, fun _ _ => rfl⟩
  · intro pre item t t' ih hstep hnodup
    rw [List.map_append, List.nodup_append] at hnodup
    obtain ⟨hpre, _, hnew⟩ := hnodup
    obtain ⟨hfilled, hkept⟩ := ih hpre
    obtain ⟨hname, hitem, hothers⟩ := fillField_eq_ok hstep
    have hne : ∀ old ∈ pre, old.1 ≠ item.1 := fun old hold =>
      hnew old.1 (List.mem_map_of_mem hold) item.1 (by simp)
    constructor
    · intro old hold
      rcases List.mem_append.mp hold with hold | hold
      · obtain ⟨hold', evidence, hget, hrest⟩ := hfilled old hold
        exact ⟨hold', evidence, (hothers _ (hne old hold)).trans hget, hrest⟩
      · rw [List.mem_singleton.mp hold]
        exact ⟨hname, hitem⟩
    · intro name hname'
      rw [List.map_append, List.mem_append] at hname'
      push Not at hname'
      rw [hothers name (by simpa using hname'.2), hkept name hname'.1]

/-- The fields of a form and those of the draft make a draft without conflicts. -/
theorem isDraft_filled {u : UnicodeData} {draft : DocumentDraft}
    {fields : Dict String FieldEvidence} (hconflicts : draft.conflicts = [])
    (h : values.items.foldlM (fillField u today) draft.fields = .ok fields) :
    IsDraft fields draft.conflicts
      (draft.missingRequired.filter fun name => !fields.contains name) := by
  obtain ⟨hfilled, hkept⟩ := foldlM_fillField values.nodup h
  rw [hconflicts]
  refine ⟨by simp, by simp, ?_, fun name hname => by simpa using (List.mem_filter.mp hname).2⟩
  intro name hname
  rw [List.map_nil, List.append_nil, List.mem_append] at hname
  rcases hname with hname | hname
  · by_cases hitem : name ∈ values.items.map Prod.fst
    · obtain ⟨item, hmem, rfl⟩ := List.mem_map.mp hitem
      exact (hfilled item hmem).1
    · obtain ⟨evidence, hevidence⟩ := (Dict.mem_keys_iff fields name).mp hname
      rw [hkept name hitem] at hevidence
      have hold : name ∈ draft.fields.items.map Prod.fst :=
        (Dict.mem_keys_iff draft.fields name).mpr ⟨evidence, hevidence⟩
      apply draft.valid.names
      simp only [List.mem_append]
      exact .inl (.inl hold)
  · apply draft.valid.names
    exact List.mem_append_right _ (List.mem_of_mem_filter hname)

theorem fill_within : RaisesWithin IsRefusal (stored.fill c today values) := by
  rw [StoredOnboardingDraft.fill]
  apply RaisesWithin.bind (raisesWithin_ensure refusal_onboardingDraftError)
  intro _ hconflicts
  apply RaisesWithin.bind (raisesWithin_ensure refusal_onboardingDraftError)
  intro _ _
  apply RaisesWithin.bind (raisesWithin_ensure refusal_onboardingDraftError)
  intro _ _
  apply (raisesWithin_foldlM (fun _ _ => fillField_within) _ _).bind
  intro fields hfields
  refine RaisesWithin.of_ok (dif_pos (isDraft_filled (ensure_eq_ok.mp hconflicts) hfields)) ?_
  exact raisesWithin_ok

/-- A form that is accepted names the fields that are asked for, and fills them. -/
theorem fill_eq_ok (h : stored.fill c today values = .ok updated) :
    stored.draft.conflicts = [] ∧
      (∀ name, values.contains name = true ↔ name ∈ stored.asked) ∧
      Filled c.unicode today values stored updated := by
  simp only [StoredOnboardingDraft.fill, bind_eq_ok, ensure_eq_ok] at h
  obtain ⟨_, hconflicts, _, _, _, ⟨honly, hall⟩, fields, hfields, draft, hdraft, h⟩ := h
  rw [DocumentDraft.create, dif_pos (isDraft_filled hconflicts hfields)] at hdraft
  cases hdraft
  cases h
  have hnames : ∀ name, values.contains name = true ↔ name ∈ stored.asked := by
    intro name
    constructor
    · intro hname
      obtain ⟨raw, hraw⟩ := Dict.contains_eq_true.mp hname
      exact honly _ (Dict.get?_eq_some.mp hraw)
    · exact hall name
  have hkeys : ∀ name, name ∈ values.items.map Prod.fst ↔ name ∈ stored.asked := by
    intro name
    rw [← hnames name, Dict.contains_eq_true, Dict.mem_keys_iff]
  obtain ⟨hfilled, hkept⟩ := foldlM_fillField values.nodup hfields
  have hasked : ∀ name ∈ stored.asked, ∃ raw, values.get? name = some raw ∧
      IsFilled c.unicode today fields name raw := by
    intro name hname
    obtain ⟨raw, hraw⟩ := Dict.contains_eq_true.mp ((hnames name).mpr hname)
    exact ⟨raw, hraw, (hfilled _ (Dict.get?_eq_some.mp hraw)).2⟩
  refine ⟨hconflicts, hnames, ⟨rfl, rfl, rfl⟩, rfl, ?_, ?_, ?_⟩
  · apply List.filter_congr
    intro name hname
    by_cases hwanted : name ∈ stored.asked
    · obtain ⟨raw, _, evidence, hevidence, _⟩ := hasked name hwanted
      simp [hwanted, Dict.contains_eq_true.mpr ⟨evidence, hevidence⟩]
    · have hnone := stored.draft.valid.missing name hname
      rw [← Bool.not_eq_true, Dict.contains_eq_true,
        ← hkept name (by rw [hkeys]; exact hwanted), ← Dict.contains_eq_true] at hnone
      simp [hwanted, hnone]
  · intro name hname
    obtain ⟨raw, hraw, evidence, hevidence, hrest⟩ := hasked name hname
    exact ⟨raw, evidence, hraw, hevidence, hrest⟩
  · intro name hname
    exact hkept name (by rw [hkeys]; exact hname)

/-- An accepted form leaves five fields fewer to fill, or none. -/
theorem Filled.shorter {u : UnicodeData} (h : Filled u today values stored updated) :
    updated.draft.missingRequired.length ≤ stored.draft.missingRequired.length - 5 := by
  rw [h.missing]
  conv_lhs => rw [← List.take_append_drop 5 stored.draft.missingRequired, List.filter_append]
  have hnone : (stored.draft.missingRequired.take 5).filter (fun name => name ∉ stored.asked) =
      [] := by
    apply List.filter_eq_nil_iff.mpr
    intro name hname
    rw [decide_eq_true_eq, not_not]
    exact hname
  rw [hnone, List.nil_append]
  exact (List.length_filter_le _ _).trans (List.length_drop).le

end Fill

/-! ## One call -/

section Store

variable [LinearOrder T] {c : DraftSettings T} {s s' : OnboardingDraftStore T} {now : T}
  {today : Date} {key : OnboardingDraftKey} {draftId : String} {values : Dict String Json}
  {stored : StoredOnboardingDraft T}

theorem keepsDrafts_self : KeepsDrafts now s s := ⟨fun _ _ h => h, fun _ _ h _ => h⟩

theorem get?_purge {stored : StoredOnboardingDraft T} :
    (s.purge now).get? draftId = some stored ↔
      s.get? draftId = some stored ∧ now < stored.expiresAt := by
  rw [OnboardingDraftStore.purge, Dict.get?_filterValues, Option.filter_eq_some_iff,
    decide_eq_true_eq]

theorem keepsDrafts_purge : KeepsDrafts now s (s.purge now) :=
  ⟨fun _ _ h => (get?_purge.mp h).1, fun _ _ h hlive => get?_purge.mpr ⟨h, hlive⟩⟩

theorem KeepsDrafts.moveToEnd (h : KeepsDrafts now s s') (id : String) :
    KeepsDrafts now s (s'.moveToEnd id) := by
  constructor
  · intro draftId stored hget
    rw [Dict.get?_moveToEnd] at hget
    exact h.old draftId stored hget
  · intro draftId stored hget hlive
    rw [Dict.get?_moveToEnd]
    exact h.live draftId stored hget hlive

/-- `get` returns a live draft of its actor. -/
theorem get_eq_ok (h : s.get now key draftId = (.ok stored, s')) :
    s.get? draftId = some stored ∧ now < stored.expiresAt ∧ stored.key = key ∧
      s' = (s.purge now).moveToEnd draftId := by
  rw [OnboardingDraftStore.get] at h
  split at h
  · dsimp only at h
    split at h
    · cases h
    · rename_i found hfound
      split at h
      · cases h
      · rename_i hkey
        cases h
        obtain ⟨hget, hlive⟩ := get?_purge.mp hfound
        exact ⟨hget, hlive, not_not.mp hkey, rfl⟩
  · cases h

theorem get_keeps (s : OnboardingDraftStore T) (now : T) (key : OnboardingDraftKey)
    (draftId : String) : KeepsDrafts now s (s.get now key draftId).2 := by
  rw [OnboardingDraftStore.get]
  split
  · dsimp only
    split
    · exact keepsDrafts_purge
    · split
      · exact keepsDrafts_purge
      · exact keepsDrafts_purge.moveToEnd draftId
  · exact keepsDrafts_self

theorem get_within : RaisesWithin IsRefusal (s.get now key draftId).1 := by
  rw [OnboardingDraftStore.get]
  split
  · dsimp only
    split
    · exact raisesWithin_error refusal_onboardingDraftError
    · split
      · exact raisesWithin_error refusal_onboardingDraftError
      · exact raisesWithin_ok
  · exact raisesWithin_error refusal_onboardingDraftError

/-- What a call of `fill_missing` comes to. -/
theorem fillMissing_cases (c : DraftSettings T) (s : OnboardingDraftStore T) (now : T) (today : Date)
    (key : OnboardingDraftKey) (draftId : String) (values : Dict String Json) :
    (∃ e s', s.fillMissing c now today key draftId values = (.error e, s') ∧ IsRefusal e ∧
      KeepsDrafts now s s') ∨
    ∃ stored updated, s.get? draftId = some stored ∧ now < stored.expiresAt ∧ stored.key = key ∧
      stored.fill c today values = .ok updated ∧
      s.fillMissing c now today key draftId values = (.ok updated,
        (((s.purge now).moveToEnd draftId).set draftId updated).moveToEnd draftId) := by
  generalize hget : s.get now key draftId = found
  obtain ⟨stored | stored, s'⟩ := found
  · left
    refine ⟨stored, s', by rw [OnboardingDraftStore.fillMissing, hget], ?_, ?_⟩
    · exact get_within _ (by rw [hget])
    · have hkeeps := get_keeps s now key draftId
      rwa [hget] at hkeeps
  · obtain ⟨hstored, hlive, hkey, rfl⟩ := get_eq_ok hget
    cases hfill : stored.fill c today values with
    | error e =>
      left
      refine ⟨e, (s.purge now).moveToEnd draftId, ?_, fill_within e hfill, ?_⟩
      · rw [OnboardingDraftStore.fillMissing, hget]
        simp only [hfill]
      · exact keepsDrafts_purge.moveToEnd draftId
    | ok updated =>
      right
      exact ⟨stored, updated, hstored, hlive, hkey, hfill, by
        rw [OnboardingDraftStore.fillMissing, hget]
        simp only [hfill]⟩

/-- The draft that was filled is put in place of the one there was. -/
theorem get?_filled {updated : StoredOnboardingDraft T} {id : String} :
    Dict.get? ((((s.purge now).moveToEnd draftId).set draftId updated).moveToEnd draftId) id =
      if id = draftId then some updated else (s.purge now).get? id := by
  rw [Dict.get?_moveToEnd, Dict.get?_set, Dict.get?_moveToEnd]

theorem fillsExactly_fillMissing :
    FillsExactly c s now today key draftId values (s.fillMissing c now today key draftId values).1
      (s.fillMissing c now today key draftId values).2 := by
  rcases fillMissing_cases c s now today key draftId values with
    ⟨e, s', heq, hrefusal, hkeeps⟩ | ⟨stored, updated, hstored, hlive, hkey, hfill, heq⟩
  · rw [heq]
    refine ⟨fun _ _ _ => ⟨e, rfl⟩, ?_, fun _ h => (by cases h), fun id _ stored h hlive =>
      hkeeps.live id stored h hlive⟩
    intro e' h
    cases h
    exact ⟨hrefusal, hkeeps⟩
  · obtain ⟨hconflicts, hnames, hfilled⟩ := fill_eq_ok hfill
    rw [heq]
    refine ⟨?_, fun _ h => (by cases h), ?_, ?_⟩
    · intro stored' hstored' hrefusable
      obtain rfl : stored = stored' := Option.some.inj (hstored.symm.trans hstored')
      rcases hrefusable with hkey' | hexpired | hconflicts' | hnames'
      · exact absurd hkey hkey'
      · exact absurd hlive (not_lt.mpr hexpired)
      · exact absurd hconflicts hconflicts'
      · exact absurd hnames hnames'
    · intro updated' h
      cases h
      exact ⟨stored, hstored, by rw [get?_filled, if_pos rfl], hfilled⟩
    · intro id hne stored' hstored' hlive'
      rw [get?_filled, if_neg hne]
      exact get?_purge.mpr ⟨hstored', hlive'⟩

/-! ## Runs -/

/-- A draft after a call was there before it, or was filled by the call. -/
theorem get?_apply {call : DraftCall T} (hcreates : call.creates ≠ some draftId)
    (h : (call.apply c s).get? draftId = some stored) :
    (call.Fills c s draftId = false ∧ s.get? draftId = some stored) ∨
      (call.Fills c s draftId = true ∧ ∃ before today values, s.get? draftId = some before ∧
        before.fill c today values = .ok stored) := by
  cases call with
  | create now id key draft =>
    left
    refine ⟨rfl, ?_⟩
    have hne : draftId ≠ id := fun heq => hcreates (congrArg some heq.symm)
    have htrim := Dict.get?_trim h
    rw [Dict.get?_set, if_neg hne] at htrim
    exact (get?_purge.mp htrim).1
  | get now key id => exact .inl ⟨rfl, (get_keeps s now key id).old _ _ h⟩
  | fillMissing now today key id values =>
    change Dict.get? (s.fillMissing c now today key id values).2 draftId = some stored at h
    rcases fillMissing_cases c s now today key id values with
      ⟨e, s', heq, _, hkeeps⟩ | ⟨before, updated, hbefore, hlive, hkey, hfill, heq⟩
    · rw [heq] at h
      refine .inl ⟨?_, hkeeps.old _ _ h⟩
      simp [DraftCall.Fills, heq, Except.toBool]
    · rw [heq, get?_filled] at h
      by_cases hid : draftId = id
      · subst hid
        rw [if_pos rfl] at h
        cases h
        exact .inr ⟨by simp [DraftCall.Fills, heq, Except.toBool], before, today, values, hbefore,
          hfill⟩
      · rw [if_neg hid] at h
        refine .inl ⟨?_, (get?_purge.mp h).1⟩
        simp [DraftCall.Fills, Ne.symm hid]
  | discard now key id =>
    refine .inl ⟨rfl, ?_⟩
    change Dict.get? (s.discard now key id) draftId = some stored at h
    rw [OnboardingDraftStore.discard] at h
    have hkeeps := get_keeps s now key id
    split at h
    · rename_i heq
      rw [heq] at hkeeps
      exact hkeeps.old _ _ h
    · rename_i heq
      rw [heq] at hkeeps
      exact hkeeps.old _ _ (Dict.get?_of_erase h)
  | purgeExpired now => exact .inl ⟨rfl, (get?_purge.mp h).1⟩
  | expireScheduled now id expiresAt =>
    refine .inl ⟨rfl, ?_⟩
    change Dict.get? (s.expireIfCurrent now id expiresAt) draftId = some stored at h
    rw [OnboardingDraftStore.expireIfCurrent] at h
    split at h
    · exact h
    · split at h
      · exact Dict.get?_of_erase h
      · exact h

/-- After a run there are five fields fewer to fill for each accepted form, or none. -/
theorem missing_run {calls : List (DraftCall T)} {after : StoredOnboardingDraft T}
    (hcreates : ∀ call ∈ calls, call.creates ≠ some draftId)
    (h : (DraftCall.run c calls s).get? draftId = some after) :
    ∃ before, s.get? draftId = some before ∧ after.draft.missingRequired.length ≤
      before.draft.missingRequired.length - 5 * DraftCall.fills c draftId calls s := by
  induction calls generalizing s with
  | nil => exact ⟨after, h, by simp [DraftCall.fills]⟩
  | cons call calls ih =>
    obtain ⟨mid, hmid, hle⟩ := ih (fun call' hcall' =>
      hcreates call' (List.mem_cons_of_mem _ hcall')) h
    rw [DraftCall.fills]
    rcases get?_apply (hcreates call List.mem_cons_self) hmid with
      ⟨hfills, hsame⟩ | ⟨hfills, before, today, values, hbefore, hfill⟩
    · refine ⟨mid, hsame, ?_⟩
      rw [hfills]
      simpa using hle
    · have hshorter := (fill_eq_ok hfill).2.2.shorter
      refine ⟨before, hbefore, ?_⟩
      rw [hfills, if_pos rfl]
      omega

theorem length_get_le (now : T) (key : OnboardingDraftKey) (draftId : String)
    (h : s.items.length ≤ c.maxDrafts) :
    (s.get now key draftId).2.items.length ≤ c.maxDrafts := by
  have hpurge := (Dict.length_filterValues s fun stored => decide (now < stored.expiresAt)).trans h
  rw [OnboardingDraftStore.get]
  split
  · dsimp only
    split
    · exact hpurge
    · split
      · exact hpurge
      · rw [Dict.length_moveToEnd]
        exact hpurge
  · exact h

theorem length_apply_le (call : DraftCall T) (h : s.items.length ≤ c.maxDrafts) :
    (call.apply c s).items.length ≤ c.maxDrafts := by
  cases call with
  | create now id key draft => exact Dict.length_trim _ _
  | get now key id => exact length_get_le now key id h
  | fillMissing now today key id values =>
    show (s.fillMissing c now today key id values).2.items.length ≤ c.maxDrafts
    have hget := length_get_le now key id h
    generalize hfound : s.get now key id = found at hget
    obtain ⟨e | stored, s'⟩ := found
    · rw [OnboardingDraftStore.fillMissing, hfound]
      exact hget
    · rw [OnboardingDraftStore.fillMissing, hfound]
      dsimp only
      split
      · exact hget
      · -- the draft is there already, so setting it adds nothing
        obtain ⟨hstored, hlive, _, rfl⟩ := get_eq_ok hfound
        rw [Dict.length_moveToEnd, Dict.length_set, if_pos]
        · exact hget
        · rw [Dict.contains_eq_true]
          exact ⟨stored, by rw [Dict.get?_moveToEnd]; exact get?_purge.mpr ⟨hstored, hlive⟩⟩
  | discard now key id =>
    show (s.discard now key id).items.length ≤ c.maxDrafts
    have hget := length_get_le now key id h
    rw [OnboardingDraftStore.discard]
    split
    · rename_i heq
      rwa [heq] at hget
    · rename_i heq
      rw [heq] at hget
      exact (Dict.length_erase _ _).trans hget
  | purgeExpired now => exact (Dict.length_filterValues _ _).trans h
  | expireScheduled now id expiresAt =>
    show (s.expireIfCurrent now id expiresAt).items.length ≤ c.maxDrafts
    rw [OnboardingDraftStore.expireIfCurrent]
    split
    · exact h
    · split
      · exact (Dict.length_erase _ _).trans h
      · exact h

theorem length_run_le (calls : List (DraftCall T)) (h : s.items.length ≤ c.maxDrafts) :
    (DraftCall.run c calls s).items.length ≤ c.maxDrafts := by
  induction calls generalizing s with
  | nil => exact h
  | cons call calls ih => exact ih (length_apply_le call h)

/-! ## Main results -/

/-- What holds of a store after any calls: its bound, what the next form does, and how many forms a
draft takes as long as no other draft is given its identifier. -/
structure Completes (c : DraftSettings T) (s : OnboardingDraftStore T) : Prop where
  bounded : s.items.length ≤ c.maxDrafts
  form : ∀ now today key draftId values,
    FillsExactly c s now today key draftId values (s.fillMissing c now today key draftId values).1
      (s.fillMissing c now today key draftId values).2
  finishes : ∀ draftId before calls after, s.get? draftId = some before →
    (∀ call ∈ calls, DraftCall.creates call ≠ some draftId) →
    (DraftCall.run c calls s).get? draftId = some after →
    (before.draft.missingRequired.length + 4) / 5 ≤ DraftCall.fills c draftId calls s →
    after.draft.missingRequired = []

/-- **Drafts are completed form by form.** After any calls of a store, made by anyone at any time, a
form is accepted only from the actor of a live draft without conflicts and only for the first five
missing fields; it fills exactly these, a refused one changes no draft, and the store holds no more
drafts than it may. -/
theorem drafts_exact (c : DraftSettings T) (calls : List (DraftCall T)) :
    Completes c (DraftCall.run c calls .empty) := by
  refine ⟨length_run_le calls (Nat.zero_le _), fun _ _ _ _ _ => fillsExactly_fillMissing, ?_⟩
  intro draftId before later after hbefore hcreates hafter hforms
  obtain ⟨before', hbefore', hle⟩ := missing_run hcreates hafter
  obtain rfl : before = before' := Option.some.inj (hbefore.symm.trans hbefore')
  apply List.eq_nil_of_length_eq_zero
  omega

end Store

/-! ## Sample -/

section Sample

def draftSettings : DraftSettings Nat where
  unicode := asciiTables
  expiry now := now + 900
  maxDrafts := 100
  inBounds := by decide

def hrOperator : OnboardingDraftKey := ⟨1, 2, 3, by decide⟩

/-- A draft that lacks a name and a telephone number. -/
def twoMissing : DocumentDraft where
  fields := .empty
  conflicts := []
  missingRequired := ["first_name", "phone"]
  valid := by decide

def twoValues : Dict String Json :=
  ⟨[("first_name", .str "Anna  Maria"), ("phone", .str "+39 055 1234567")], by decide⟩

def twoId : String := "0123456789abcdef0123456789abcdef"

theorem isDate_fillTwo : IsDate 2026 7 1 := by decide

def fillTwo (now : Nat) : DraftCall Nat :=
  .fillMissing now ⟨2026, 7, 1, isDate_fillTwo⟩ hrOperator twoId twoValues

/-- The form is accepted once, and then there is nothing left to fill. -/
example : DraftCall.fills draftSettings twoId [fillTwo 5, fillTwo 6]
    (DraftCall.run draftSettings [.create 0 twoId hrOperator twoMissing] .empty) = 1 := by
  decide +kernel

end Sample

end BhDic.Onboarding
