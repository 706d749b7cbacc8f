import BhDic.Library.Dict
import Mathlib.Data.List.Sort
import Mathlib.Data.String.Basic

/-!
# JSON values

`Json` holds the values a JSON document can hold; the fields of an object keep their order. `canon`
sorts the fields of every object, and two values are the same document up to field order when
their canonical forms agree.
-/

namespace BhDic.Library

/-! ## Values -/

/-- The characters a float can be written with, `Infinity` and `NaN` included. -/
def isNumberChar (c : Char) : Bool :=
  c.isDigit || c ∈ ['-', '+', '.', 'e', 'I', 'n', 'f', 'i', 't', 'y', 'N', 'a']

/-- A float, as the text that denotes it. One of its characters tells it from an integer. -/
structure FloatText where
  chars : List Char
  starts : ∃ c rest, chars = c :: rest ∧ (c.isDigit ∨ c ∈ ['-', 'I', 'N'])
  numeral : ∀ c ∈ chars, isNumberChar c
  marked : ∃ c ∈ chars, c ∈ ['.', 'e', 'I', 'N']

/-- A float other than an infinity or `NaN`. -/
def FloatText.isFinite (f : FloatText) : Bool := !(f.chars.contains 'I' || f.chars.contains 'N')

inductive Json
  | null
  | bool (b : Bool)
  | int (n : Int)
  | float (f : FloatText)
  | str (s : String)
  | arr (items : List Json)
  | obj (fields : List (String × Json))

/-! ## Canonical form -/

/-- Sort the fields of an object by name. -/
def sortFields (fields : List (String × Json)) : List (String × Json) :=
  fields.insertionSort (fun a b => a.1 ≤ b.1)

mutual

/-- The value with the fields of every object in it sorted. -/
def Json.canon : Json → Json
  | .arr items => .arr (canonItems items)
  | .obj fields => .obj (sortFields (canonFields fields))
  | v => v

def canonItems : List Json → List Json
  | [] => []
  | v :: vs => v.canon :: canonItems vs

def canonFields : List (String × Json) → List (String × Json)
  | [] => []
  | (k, v) :: rest => (k, v.canon) :: canonFields rest

end

/-- The same document, whatever the order of the fields. -/
def Json.Same (v w : Json) : Prop := v.canon = w.canon

theorem canonFields_eq_map (fields : List (String × Json)) :
    canonFields fields = fields.map (fun f => (f.1, f.2.canon)) := by
  induction fields with
  | nil => rfl
  | cons f fields ih => simp only [canonFields, List.map_cons, ih]

theorem canonItems_eq_map (items : List Json) : canonItems items = items.map Json.canon := by
  induction items with
  | nil => rfl
  | cons v items ih => simp only [canonItems, List.map_cons, ih]

theorem Json.Same.refl (v : Json) : v.Same v := rfl

/-- Objects are the same exactly when their fields are, up to order. The field names have to be
distinct for the sorted order to be determined. -/
theorem same_obj_iff {fields fields' : List (String × Json)}
    (hnodup : (fields.map (·.1)).Nodup) :
    (Json.obj fields).Same (.obj fields') ↔
      (fields.map (fun f => (f.1, f.2.canon))).Perm (fields'.map (fun f => (f.1, f.2.canon))) := by
  simp only [Json.Same, Json.canon, Json.obj.injEq, sortFields, ← canonFields_eq_map]
  constructor
  · intro h
    have hperm := (List.perm_insertionSort (fun a b => a.1 ≤ b.1) (canonFields fields)).symm
    rw [h] at hperm
    exact hperm.trans (List.perm_insertionSort _ _)
  · intro h
    have hperm := ((List.perm_insertionSort (fun a b => a.1 ≤ b.1) (canonFields fields)).trans
      h).trans (List.perm_insertionSort (fun a b => a.1 ≤ b.1) (canonFields fields')).symm
    have htotal : Std.Total (fun a b : String × Json => a.1 ≤ b.1) := ⟨fun a b => le_total _ _⟩
    have htrans : IsTrans (String × Json) (fun a b => a.1 ≤ b.1) := ⟨fun a b c => le_trans⟩
    refine hperm.eq_of_pairwise ?_ (List.pairwise_insertionSort _ _)
      (List.pairwise_insertionSort _ _)
    intro a b ha hb hab hba
    -- Equal names are the same field, since no name occurs twice.
    have ha' := (List.perm_insertionSort _ _).mem_iff.mp ha
    have hb' := h.mem_iff.mpr ((List.perm_insertionSort _ _).mem_iff.mp hb)
    refine List.inj_on_of_nodup_map (f := Prod.fst) ?_ ha' hb' (le_antisymm hab hba)
    rw [canonFields_eq_map, List.map_map]
    exact hnodup

/-- The same objects hold the same under each name. -/
theorem Json.Same.find {fields fields' : List (String × Json)}
    (hnodup : (fields.map (·.1)).Nodup) (h : (Json.obj fields).Same (.obj fields')) (key : String) :
    Option.Rel Json.Same (Dict.find key fields) (Dict.find key fields') := by
  have hperm := (same_obj_iff hnodup).mp h
  have hnodup' : ((fields.map fun f => (f.1, f.2.canon)).map Prod.fst).Nodup := by
    rw [List.map_map]
    exact hnodup
  have hfind := Dict.find_perm hnodup' hperm key
  rw [Dict.find_mapValues, Dict.find_mapValues] at hfind
  revert hfind
  generalize Dict.find key fields = v, Dict.find key fields' = w
  intro hfind
  cases v with
  | none =>
      cases w with
      | none => exact .none
      | some w => cases hfind
  | some v =>
      cases w with
      | none => cases hfind
      | some w => exact .some (Option.some.inj hfind)

/-- What is the same as an object with distinct names is one. -/
theorem same_obj_left {fields : List (String × Json)} {w : Json}
    (hnodup : (fields.map (·.1)).Nodup) (h : (Json.obj fields).Same w) :
    ∃ fields', w = .obj fields' ∧ (fields'.map (·.1)).Nodup := by
  cases w with
  | obj fields' =>
      have hperm := ((same_obj_iff hnodup).mp h).map Prod.fst
      rw [List.map_map, List.map_map] at hperm
      exact ⟨fields', rfl, hperm.nodup_iff.mp hnodup⟩
  | _ => cases h

@[simp] theorem same_str {s t : String} : (Json.str s).Same (.str t) ↔ s = t := by
  simp [Json.Same, Json.canon]

end BhDic.Library
