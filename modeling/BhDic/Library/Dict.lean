import Mathlib.Data.List.Forall2
import Mathlib.Data.List.Nodup
import Mathlib.Data.List.Perm.Subperm

/-!
# Keyed lists and insertion-ordered dictionaries

A dictionary is its items in insertion order, with each key once. Setting a key that is there
replaces its value in place; setting a new one appends. A table is a list of rows of which one
column is a key.
-/

namespace BhDic.Library

/-- Searching a table by its key finds the one row that has it. -/
theorem find?_key_eq_some {κ ρ : Type} [BEq κ] [LawfulBEq κ] (key : ρ → κ) {rows : List ρ}
    (hnodup : (rows.map key).Nodup) {k : κ} {row : ρ} :
    rows.find? (fun r => key r == k) = some row ↔ row ∈ rows ∧ key row = k := by
  constructor
  · intro h
    exact ⟨List.mem_of_find?_eq_some h, by simpa using List.find?_some h⟩
  · rintro ⟨hmem, rfl⟩
    cases h : rows.find? (fun r => key r == key row) with
    | none =>
        have hnone := List.find?_eq_none.mp h row hmem
        simp at hnone
    | some row' =>
        have hkey : key row' = key row := by simpa using List.find?_some h
        rw [List.inj_on_of_nodup_map hnodup (List.mem_of_find?_eq_some h) hmem hkey]

/-- A dictionary from `κ` to `ν`. -/
structure Dict (κ ν : Type) where
  items : List (κ × ν)
  nodup : (items.map Prod.fst).Nodup

/-- What is related to a list from the right is related to one of its members. -/
theorem exists_of_forall₂ {α β : Type*} {R : α → β → Prop} {xs : List α} {ys : List β} {y : β}
    (h : List.Forall₂ R xs ys) (hy : y ∈ ys) : ∃ x ∈ xs, R x y := by
  induction h with
  | nil => cases hy
  | @cons x y' _ _ hxy _ ih =>
      rcases List.mem_cons.mp hy with rfl | hmem
      · exact ⟨x, List.mem_cons_self, hxy⟩
      · obtain ⟨x', hx', hR⟩ := ih hmem
        exact ⟨x', List.mem_cons_of_mem _ hx', hR⟩

namespace Dict

variable {κ ν μ : Type} [DecidableEq κ]

/-- Look a key up in a list of items. -/
def find (key : κ) : List (κ × ν) → Option ν
  | [] => none
  | (k, v) :: rest => if k = key then some v else find key rest

/-- Put a value under a key in a list of items. -/
def put (key : κ) (value : ν) : List (κ × ν) → List (κ × ν)
  | [] => [(key, value)]
  | (k, v) :: rest => if k = key then (k, value) :: rest else (k, v) :: put key value rest

theorem keys_put (key : κ) (value : ν) (items : List (κ × ν)) :
    (put key value items).map Prod.fst =
      if key ∈ items.map Prod.fst then items.map Prod.fst else items.map Prod.fst ++ [key] := by
  induction items with
  | nil => rfl
  | cons item rest ih =>
      obtain ⟨k, v⟩ := item
      simp only [put]
      split
      · rename_i h
        simp [h]
      · rename_i h
        simp only [List.map_cons, ih, List.mem_cons, Ne.symm h, false_or]
        split <;> rfl

theorem nodup_put {key : κ} {value : ν} {items : List (κ × ν)}
    (h : (items.map Prod.fst).Nodup) : ((put key value items).map Prod.fst).Nodup := by
  rw [keys_put]
  split
  · exact h
  · rename_i hnew
    exact List.nodup_append.mpr ⟨h, List.nodup_singleton _, by
      intro a ha b hb
      rw [List.mem_singleton.mp hb]
      rintro rfl
      exact hnew ha⟩

theorem find_put (key key' : κ) (value : ν) (items : List (κ × ν)) :
    find key' (put key value items) = if key' = key then some value else find key' items := by
  induction items with
  | nil => simp only [put, find, eq_comm]
  | cons item rest ih =>
      obtain ⟨k, v⟩ := item
      simp only [put]
      split
      · rename_i h
        subst h
        simp only [find]
        split <;> split <;> first | rfl | (exfalso; simp_all)
      · rename_i h
        simp only [find, ih]
        split
        · rename_i hk
          rw [if_neg (hk ▸ h)]
        · rfl

theorem find_eq_some {key : κ} {value : ν} {items : List (κ × ν)}
    (hnodup : (items.map Prod.fst).Nodup) :
    find key items = some value ↔ (key, value) ∈ items := by
  induction items with
  | nil => simp [find]
  | cons item rest ih =>
      obtain ⟨k, v⟩ := item
      rw [List.map_cons, List.nodup_cons] at hnodup
      simp only [find, List.mem_cons, Prod.mk.injEq]
      split
      · rename_i h
        subst h
        refine ⟨fun hv => .inl ⟨rfl, (Option.some.inj hv).symm⟩, ?_⟩
        rintro (⟨-, rfl⟩ | hmem)
        · rfl
        · exact absurd (List.mem_map_of_mem (f := Prod.fst) hmem) hnodup.1
      · rename_i h
        rw [ih hnodup.2]
        refine ⟨.inr, ?_⟩
        rintro (⟨rfl, -⟩ | hmem)
        · exact absurd rfl h
        · exact hmem

/-- Looking up is the same in any order of the items. -/
theorem find_perm {items items' : List (κ × ν)} (hnodup : (items.map Prod.fst).Nodup)
    (h : items.Perm items') (key : κ) : find key items = find key items' := by
  have hnodup' := (h.map Prod.fst).nodup_iff.mp hnodup
  cases hv : find key items' with
  | none =>
      by_contra hne
      obtain ⟨v, hv'⟩ := Option.ne_none_iff_exists'.mp hne
      have hmem := h.mem_iff.mp ((find_eq_some hnodup).mp hv')
      rw [(find_eq_some hnodup').mpr hmem] at hv
      cases hv
  | some v => exact (find_eq_some hnodup).mpr (h.mem_iff.mpr ((find_eq_some hnodup').mp hv))

theorem find_mapValues (f : ν → μ) (items : List (κ × ν)) (key : κ) :
    find key (items.map fun item => (item.1, f item.2)) = (find key items).map f := by
  induction items with
  | nil => rfl
  | cons item rest ih =>
      obtain ⟨k, v⟩ := item
      rw [List.map_cons, find, find, ih]
      split <;> rfl

/-- `{}`. -/
def empty : Dict κ ν := ⟨[], List.nodup_nil⟩

/-- `d.get(key)`. -/
def get? (d : Dict κ ν) (key : κ) : Option ν := find key d.items

/-- `d[key] = value`. -/
def set (d : Dict κ ν) (key : κ) (value : ν) : Dict κ ν :=
  ⟨put key value d.items, nodup_put d.nodup⟩

/-- `d.values()`. -/
def values (d : Dict κ ν) : List ν := d.items.map Prod.snd

@[simp] theorem get?_empty (key : κ) : (empty : Dict κ ν).get? key = none := rfl

theorem get?_set (d : Dict κ ν) (key key' : κ) (value : ν) :
    (d.set key value).get? key' = if key' = key then some value else d.get? key' :=
  find_put key key' value d.items

theorem mem_values {d : Dict κ ν} {value : ν} :
    value ∈ d.values ↔ ∃ key, d.get? key = some value := by
  simp only [values, List.mem_map, get?, find_eq_some d.nodup]
  constructor
  · rintro ⟨⟨k, v⟩, hmem, rfl⟩
    exact ⟨k, hmem⟩
  · rintro ⟨k, hmem⟩
    exact ⟨(k, value), hmem, rfl⟩

/-! ## Transforming the values -/

section Traverse

variable {ε : Type}

/-- Apply `f` to each item in order, stopping at the first error. -/
def traverseItems (f : κ → ν → Except ε μ) : List (κ × ν) → Except ε (List (κ × μ))
  | [] => .ok []
  | (k, v) :: rest => do
      let w ← f k v
      let rest ← traverseItems f rest
      return (k, w) :: rest

omit [DecidableEq κ] in
theorem traverseItems_forall₂ {f : κ → ν → Except ε μ} {items : List (κ × ν)}
    {items' : List (κ × μ)} (h : traverseItems f items = .ok items') :
    List.Forall₂ (fun item item' => item'.1 = item.1 ∧ f item.1 item.2 = .ok item'.2) items items' := by
  induction items generalizing items' with
  | nil =>
      cases h
      exact .nil
  | cons item rest ih =>
      obtain ⟨k, v⟩ := item
      rw [traverseItems] at h
      cases hw : f k v with
      | error e =>
          rw [hw] at h
          cases h
      | ok w =>
          cases hrest : traverseItems f rest with
          | error e =>
              rw [hw, hrest] at h
              cases h
          | ok rest' =>
              rw [hw, hrest] at h
              cases h
              exact .cons ⟨rfl, hw⟩ (ih hrest)

omit [DecidableEq κ] in
theorem keys_traverseItems {f : κ → ν → Except ε μ} {items : List (κ × ν)}
    {items' : List (κ × μ)} (h : traverseItems f items = .ok items') :
    items'.map Prod.fst = items.map Prod.fst := by
  have hall := traverseItems_forall₂ h
  clear h
  induction hall with
  | nil => rfl
  | cons hitem _ ih => rw [List.map_cons, List.map_cons, hitem.1, ih]

/-- `{key: f(key, value) for key, value in d.items()}`. -/
def traverse (d : Dict κ ν) (f : κ → ν → Except ε μ) : Except ε (Dict κ μ) :=
  match h : traverseItems f d.items with
  | .ok items => .ok ⟨items, by rw [keys_traverseItems h]; exact d.nodup⟩
  | .error e => .error e

omit [DecidableEq κ] in
theorem traverse_eq_ok {d : Dict κ ν} {f : κ → ν → Except ε μ} {d' : Dict κ μ} :
    d.traverse f = .ok d' ↔ traverseItems f d.items = .ok d'.items := by
  unfold traverse
  split
  · rename_i items h
    constructor
    · intro heq
      cases heq
      exact h
    · intro heq
      have hitems := h.symm.trans heq
      cases hitems
      rfl
  · rename_i e h
    constructor
    · intro heq
      cases heq
    · intro heq
      have hitems := h.symm.trans heq
      cases hitems

omit [DecidableEq κ] in
/-- Where an item of the result comes from. -/
theorem mem_traverse {d : Dict κ ν} {f : κ → ν → Except ε μ} {d' : Dict κ μ}
    (h : d.traverse f = .ok d') {key : κ} {w : μ} :
    (key, w) ∈ d'.items ↔ ∃ v, (key, v) ∈ d.items ∧ f key v = .ok w := by
  have hall := traverseItems_forall₂ (traverse_eq_ok.mp h)
  clear h
  generalize d.items = items, d'.items = items' at hall
  induction hall with
  | nil => simp
  | @cons item item' rest rest' hitem _ ih =>
      obtain ⟨k, v⟩ := item
      obtain ⟨k', w'⟩ := item'
      obtain ⟨hkey, hf⟩ := hitem
      simp only at hkey hf
      subst hkey
      simp only [List.mem_cons, Prod.mk.injEq, ih]
      constructor
      · rintro (⟨rfl, rfl⟩ | ⟨v', hmem, hv'⟩)
        · exact ⟨v, .inl ⟨rfl, rfl⟩, hf⟩
        · exact ⟨v', .inr hmem, hv'⟩
      · rintro ⟨v', ⟨rfl, rfl⟩ | hmem, hv'⟩
        · rw [hf, Except.ok.injEq] at hv'
          exact .inl ⟨rfl, hv'.symm⟩
        · exact .inr ⟨v', hmem, hv'⟩

omit [DecidableEq κ] in
theorem traverse_eq_self {d : Dict κ ν} {f : κ → ν → Except ε ν}
    (h : ∀ item ∈ d.items, f item.1 item.2 = .ok item.2) : d.traverse f = .ok d := by
  refine traverse_eq_ok.mpr ?_
  generalize d.items = items at h
  induction items with
  | nil => rfl
  | cons item rest ih =>
      obtain ⟨k, v⟩ := item
      rw [traverseItems, h (k, v) List.mem_cons_self,
        ih fun item' h' => h item' (List.mem_cons_of_mem _ h')]
      rfl

omit [DecidableEq κ] in
/-- An item that `f` refuses. -/
theorem traverseItems_error {f : κ → ν → Except ε μ} {items : List (κ × ν)} {e : ε}
    (h : traverseItems f items = .error e) :
    ∃ item ∈ items, f item.1 item.2 = .error e := by
  induction items with
  | nil => cases h
  | cons item rest ih =>
      rw [traverseItems] at h
      cases hitem : f item.1 item.2 with
      | error e' =>
          rw [hitem] at h
          cases h
          exact ⟨item, List.mem_cons_self, hitem⟩
      | ok w =>
          rw [hitem] at h
          cases hrest : traverseItems f rest with
          | error e' =>
              rw [hrest] at h
              cases h
              obtain ⟨other, hother, hf⟩ := ih hrest
              exact ⟨other, List.mem_cons_of_mem _ hother, hf⟩
          | ok rest' =>
              rw [hrest] at h
              cases h

omit [DecidableEq κ] in
theorem traverse_error {f : κ → ν → Except ε μ} {d : Dict κ ν} {e : ε}
    (h : d.traverse f = .error e) : traverseItems f d.items = .error e := by
  unfold traverse at h
  split at h
  · cases h
  · rename_i e' he
    cases h
    exact he

end Traverse

/-- `{key: f(key) for key in d}`. -/
def mapKeys (d : Dict κ ν) (f : κ → μ) : Dict κ μ :=
  ⟨d.items.map fun item => (item.1, f item.1), by
    rw [List.map_map]
    exact d.nodup⟩

/-- `{key: value for key, value in d.items() if keep(key)}`. -/
def filterKeys (d : Dict κ ν) (keep : κ → Bool) : Dict κ ν :=
  ⟨d.items.filter fun item => keep item.1,
    d.nodup.sublist ((List.filter_sublist).map Prod.fst)⟩

/-- `key in d`. -/
def contains (d : Dict κ ν) (key : κ) : Bool := key ∈ d.items.map Prod.fst

/-! ## Order, age and removal -/

section Order

variable (d : Dict κ ν) (key : κ)

/-- `d.pop(key, None)`. -/
def erase : Dict κ ν := d.filterKeys (· ≠ key)

/-- The dictionary without the values that fail a test. -/
def filterValues (keep : ν → Bool) : Dict κ ν :=
  ⟨d.items.filter fun item => keep item.2,
    d.nodup.sublist ((List.filter_sublist).map Prod.fst)⟩

/-- `d.move_to_end(key)`, for a key that is there. -/
def moveToEnd : Dict κ ν :=
  match d.get? key with
  | none => d
  | some value =>
      ⟨(d.erase key).items ++ [(key, value)], by
        rw [List.map_append]
        refine List.nodup_append.mpr ⟨(d.erase key).nodup, List.nodup_singleton _, ?_⟩
        rintro a ha b hb rfl
        obtain ⟨item, hitem, rfl⟩ := List.mem_map.mp ha
        have hne := (List.mem_filter.mp hitem).2
        simp at hb hne
        exact hne hb⟩

/-- `while len(d) > n: d.popitem(last=False)`. -/
def trim (n : Nat) : Dict κ ν :=
  ⟨d.items.drop (d.items.length - n), d.nodup.sublist ((List.drop_sublist _ _).map Prod.fst)⟩

/-- The items `trim` removes. -/
def overflow (n : Nat) : List (κ × ν) := d.items.take (d.items.length - n)

theorem get?_eq_some {d : Dict κ ν} {key : κ} {value : ν} :
    d.get? key = some value ↔ (key, value) ∈ d.items :=
  find_eq_some d.nodup

theorem get?_erase (key' : κ) :
    (d.erase key).get? key' = if key' = key then none else d.get? key' := by
  apply Option.ext
  intro value
  simp only [get?_eq_some, erase, filterKeys, List.mem_filter]
  by_cases hkey : key' = key
  · simp [hkey]
  · simp [hkey, get?_eq_some]

theorem get?_filterValues (keep : ν → Bool) :
    (d.filterValues keep).get? key = (d.get? key).filter keep := by
  apply Option.ext
  intro value
  simp only [get?_eq_some, filterValues, List.mem_filter, Option.filter_eq_some_iff]

theorem get?_of_erase {d : Dict κ ν} {key key' : κ} {value : ν}
    (h : (d.erase key').get? key = some value) : d.get? key = some value :=
  get?_eq_some.mpr (List.mem_of_mem_filter (get?_eq_some.mp h))

theorem ne_of_get?_erase {d : Dict κ ν} {key key' : κ} {value : ν}
    (h : (d.erase key').get? key = some value) : key ≠ key' := by
  intro hkey
  rw [get?_erase, if_pos hkey] at h
  cases h

theorem get?_of_filterValues {d : Dict κ ν} {key : κ} {value : ν} {keep : ν → Bool}
    (h : (d.filterValues keep).get? key = some value) : d.get? key = some value :=
  get?_eq_some.mpr (List.mem_of_mem_filter (get?_eq_some.mp h))

theorem get?_moveToEnd (key' : κ) : (d.moveToEnd key).get? key' = d.get? key' := by
  unfold moveToEnd
  split
  · rfl
  · rename_i value hvalue
    apply Option.ext
    intro value'
    simp only [get?_eq_some, List.mem_append, List.mem_singleton, erase,
      filterKeys, List.mem_filter, Prod.mk.injEq, decide_eq_true_eq]
    have hmem := get?_eq_some.mp hvalue
    constructor
    · rintro (⟨h, -⟩ | ⟨rfl, rfl⟩)
      · exact h
      · exact hmem
    · intro h
      by_cases hkey : key' = key
      · subst hkey
        have hsame := (get?_eq_some.mpr h).symm.trans hvalue
        exact .inr ⟨rfl, Option.some.inj hsame⟩
      · exact .inl ⟨h, hkey⟩

theorem get?_trim {n : Nat} {d : Dict κ ν} {key : κ} {value : ν}
    (h : (d.trim n).get? key = some value) : d.get? key = some value :=
  get?_eq_some.mpr (List.mem_of_mem_drop (get?_eq_some.mp h))

/-- What is not among the removed items is still there. -/
theorem get?_trim_of_not_overflow {n : Nat} {d : Dict κ ν} {key : κ} {value : ν}
    (h : d.get? key = some value) (hkept : (key, value) ∉ d.overflow n) :
    (d.trim n).get? key = some value := by
  have hmem := get?_eq_some.mp h
  rw [← List.take_append_drop (d.items.length - n) d.items, List.mem_append] at hmem
  exact get?_eq_some.mpr (hmem.resolve_left hkept)

/-- Among the values that pass a test, only those removed are missing. -/
theorem filter_get?_trim {n : Nat} {d : Dict κ ν} {key : κ} {test : ν → Bool}
    (hkept : ∀ value, test value = true → (key, value) ∉ d.overflow n) :
    ((d.trim n).get? key).filter test = (d.get? key).filter test := by
  apply Option.ext
  intro value
  simp only [Option.filter_eq_some_iff]
  constructor
  · intro h
    exact ⟨get?_trim h.1, h.2⟩
  · intro h
    exact ⟨get?_trim_of_not_overflow h.1 (hkept value h.2), h.2⟩

omit [DecidableEq κ] in
theorem length_trim (n : Nat) : (d.trim n).items.length ≤ n := by
  simp only [trim, List.length_drop]
  omega

theorem length_erase : (d.erase key).items.length ≤ d.items.length := List.length_filter_le _ _

omit [DecidableEq κ] in
theorem length_filterValues (keep : ν → Bool) :
    (d.filterValues keep).items.length ≤ d.items.length := List.length_filter_le _ _

theorem mem_keys_iff : key ∈ d.items.map Prod.fst ↔ ∃ value, d.get? key = some value := by
  simp only [List.mem_map, get?_eq_some]
  constructor
  · rintro ⟨⟨k, v⟩, hmem, rfl⟩
    exact ⟨v, hmem⟩
  · rintro ⟨v, hmem⟩
    exact ⟨(key, v), hmem, rfl⟩

theorem length_set (value : ν) : (d.set key value).items.length =
    if d.contains key then d.items.length else d.items.length + 1 := by
  have hlength := congrArg List.length (keys_put key value d.items)
  rw [List.length_map] at hlength
  rw [set, hlength, contains]
  by_cases hkey : key ∈ d.items.map Prod.fst <;> simp [hkey]

theorem length_erase_of_mem {d : Dict κ ν} {key : κ} (h : key ∈ d.items.map Prod.fst) :
    (d.erase key).items.length + 1 = d.items.length := by
  have hone : (d.items.map Prod.fst).count key = 1 := List.count_eq_one_of_mem d.nodup h
  rw [List.count, List.countP_map] at hone
  have hsplit := List.length_eq_countP_add_countP (l := d.items) fun item => item.1 ≠ key
  simp only [decide_eq_true_eq, Decidable.not_not] at hsplit
  rw [erase, filterKeys, ← List.countP_eq_length_filter, hsplit]
  exact congrArg _ (by simpa [Function.comp_def, beq_eq_decide] using hone.symm)

theorem length_moveToEnd : (d.moveToEnd key).items.length = d.items.length := by
  unfold moveToEnd
  split
  · rfl
  · rename_i value hvalue
    rw [List.length_append, List.length_singleton]
    exact length_erase_of_mem ((mem_keys_iff d key).mpr ⟨value, hvalue⟩)

end Order

/-! ## Lookups -/

section Lookups

variable {ε : Type} {d : Dict κ ν} {key : κ}

theorem contains_eq_true : d.contains key = true ↔ ∃ value, d.get? key = some value := by
  rw [contains, decide_eq_true_eq, mem_keys_iff]

/-- What is found in a traversed dictionary. -/
theorem get?_traverse {f : κ → ν → Except ε μ} {d' : Dict κ μ} (h : d.traverse f = .ok d')
    {w : μ} : d'.get? key = some w ↔ ∃ v, d.get? key = some v ∧ f key v = .ok w := by
  simp only [get?_eq_some, mem_traverse h]

/-- A dictionary is traversed when each of its values is. -/
theorem exists_traverse {f : κ → ν → Except ε μ} :
    (∃ d', d.traverse f = .ok d') ↔ ∀ key v, d.get? key = some v → ∃ w, f key v = .ok w := by
  constructor
  · rintro ⟨d', h⟩ key v hv
    have hall := traverseItems_forall₂ (traverse_eq_ok.mp h)
    rw [get?_eq_some] at hv
    obtain ⟨i, hi, hitem⟩ := List.getElem_of_mem hv
    have hget := hall.get hi (hall.length_eq ▸ hi)
    simp only [List.get_eq_getElem, hitem] at hget
    exact ⟨_, hget.2⟩
  · intro h
    simp only [get?_eq_some] at h
    suffices ∃ items, traverseItems f d.items = .ok items by
      obtain ⟨items, hitems⟩ := this
      refine ⟨⟨items, ?_⟩, traverse_eq_ok.mpr hitems⟩
      rw [keys_traverseItems hitems]
      exact d.nodup
    generalize d.items = rest at h
    induction rest with
    | nil => exact ⟨[], rfl⟩
    | cons item rest ih =>
        obtain ⟨w, hw⟩ := h item.1 item.2 List.mem_cons_self
        obtain ⟨items, hitems⟩ := ih fun key v hmem => h key v (List.mem_cons_of_mem _ hmem)
        refine ⟨(item.1, w) :: items, ?_⟩
        rw [traverseItems, hw, hitems]
        rfl

end Lookups

/-! ## Filling a dictionary -/

/-- Two dictionaries with the same lookups have the same items, in some order. -/
theorem items_perm {d d' : Dict κ ν} (h : ∀ key, d.get? key = d'.get? key) :
    d.items.Perm d'.items := by
  apply (List.perm_ext_iff_of_nodup d.nodup.of_map d'.nodup.of_map).mpr
  intro ⟨key, value⟩
  rw [← get?_eq_some, ← get?_eq_some, h]

/-- `d == d'`, which does not look at the order of the items. -/
def equals [DecidableEq ν] (d d' : Dict κ ν) : Bool :=
  d.items.length == d'.items.length && d.items.all fun item => d'.get? item.1 == some item.2

theorem equals_iff [DecidableEq ν] {d d' : Dict κ ν} :
    d.equals d' = true ↔ ∀ key, d.get? key = d'.get? key := by
  constructor
  · intro h
    simp only [equals, Bool.and_eq_true, beq_iff_eq, List.all_eq_true] at h
    have hsub : d.items ⊆ d'.items := fun item hitem => get?_eq_some.mp (h.2 item hitem)
    have hperm : d.items.Perm d'.items :=
      (d.nodup.of_map.subperm hsub).perm_of_length_le (Nat.le_of_eq h.1.symm)
    intro key
    apply Option.ext
    intro value
    rw [get?_eq_some, get?_eq_some]
    exact hperm.mem_iff
  · intro h
    simp only [equals, Bool.and_eq_true, beq_iff_eq, List.all_eq_true]
    refine ⟨(items_perm h).length_eq, ?_⟩
    intro item hitem
    rw [← h]
    exact get?_eq_some.mpr hitem

end Dict

end BhDic.Library
