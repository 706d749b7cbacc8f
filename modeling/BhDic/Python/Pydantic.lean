import BhDic.Python.Text

/-!
# Constrained text fields

A text field of a model with `str_strip_whitespace` is stripped first; then its length is checked,
and its pattern if it has one. Every pattern here asks one thing of the first character and one of
each later one.
-/

namespace BhDic.Python

/-- White space as Unicode has it, without the four separators `str.strip` also drops. -/
def isWhiteSpace (c : Char) : Bool := isSpace c && !(0x1c ≤ c.toNat && c.toNat ≤ 0x1f)

def trimChars (cs : List Char) : List Char :=
  (cs.dropWhile isWhiteSpace).rdropWhile isWhiteSpace

/-- What `str_strip_whitespace` makes of a text. -/
def trim (text : String) : String := String.ofList (trimChars text.toList)

/-- The first character kept is the one that stopped the dropping. -/
theorem dropWhile_eq_self_of_prefix {p : Char → Bool} {kept cs : List Char}
    (h : kept <+: cs.dropWhile p) : kept.dropWhile p = kept := by
  cases kept with
  | nil => rfl
  | cons c kept =>
      obtain ⟨rest, hrest⟩ := h
      have hstop := @List.head_dropWhile_not _ p cs (by simp [← hrest])
      simp only [← hrest, List.cons_append, List.head_cons] at hstop
      exact List.dropWhile_cons_of_neg (by simp [hstop])

/-- What is stripped has nothing left to strip. -/
theorem trimChars_trimChars (cs : List Char) : trimChars (trimChars cs) = trimChars cs := by
  have hhead : (trimChars cs).dropWhile isWhiteSpace = trimChars cs :=
    dropWhile_eq_self_of_prefix (List.rdropWhile_prefix _ _)
  have hlast : (trimChars cs).rdropWhile isWhiteSpace = trimChars cs :=
    List.rdropWhile_idempotent _ _
  show ((trimChars cs).dropWhile isWhiteSpace).rdropWhile isWhiteSpace = trimChars cs
  rw [hhead, hlast]

@[simp] theorem trim_trim (text : String) : trim (trim text) = trim text := by
  rw [trim, trim, String.toList_ofList, trimChars_trimChars]

/-- The pattern `^[first][rest]*$`. -/
structure FieldPattern where
  first : Char → Bool
  rest : Char → Bool

def FieldPattern.accepts (p : FieldPattern) : List Char → Bool
  | [] => false
  | c :: cs => p.first c && cs.all p.rest

/-- The constraints on a text field. -/
structure TextField where
  minLength : Nat
  maxLength : Nat
  pattern : FieldPattern

/-- A stripped text meets the constraints. -/
def TextField.Accepts (f : TextField) (text : String) : Prop :=
  f.minLength ≤ text.length ∧ text.length ≤ f.maxLength ∧ f.pattern.accepts text.toList

instance (f : TextField) (text : String) : Decidable (f.Accepts text) :=
  inferInstanceAs (Decidable (_ ∧ _))

/-- Nothing is stripped from a text without white space. -/
theorem trim_eq_self {text : String} (h : ∀ c ∈ text.toList, isWhiteSpace c = false) :
    trim text = text := by
  have hdrop : text.toList.dropWhile isWhiteSpace = text.toList := by
    cases hcs : text.toList with
    | nil => rfl
    | cons c cs =>
        have hc := h c (by simp [hcs])
        simp [hc]
  have hchars : trimChars text.toList = text.toList := by
    rw [trimChars, hdrop, List.rdropWhile_eq_self_iff]
    intro hne
    simp [h _ (List.getLast_mem hne)]
  rw [trim, hchars, String.ofList_toList]

/-- The pattern lets no white space through. -/
def FieldPattern.Solid (p : FieldPattern) : Prop :=
  ∀ c, isWhiteSpace c = true → p.first c = false ∧ p.rest c = false

theorem TextField.Accepts.trim_eq_self {f : TextField} (hsolid : f.pattern.Solid) {text : String}
    (h : f.Accepts text) : trim text = text := by
  apply Python.trim_eq_self
  intro c hc
  by_contra hspace
  simp only [Bool.not_eq_false] at hspace
  have haccepts := h.2.2
  cases hcs : text.toList with
  | nil => simp [hcs] at hc
  | cons d ds =>
      rw [hcs] at hc haccepts
      simp only [FieldPattern.accepts, Bool.and_eq_true, List.all_eq_true] at haccepts
      rcases List.mem_cons.mp hc with rfl | hds
      · simp [(hsolid c hspace).1] at haccepts
      · have := haccepts.2 c hds
        simp [(hsolid c hspace).2] at this

/-- Between `!` and `~`. -/
def isVisible (c : Char) : Bool := 0x21 ≤ c.toNat && c.toNat ≤ 0x7e

theorem isWhiteSpace_of_isVisible {c : Char} (h : isVisible c = true) : isWhiteSpace c = false := by
  simp only [isVisible, Bool.and_eq_true, decide_eq_true_eq] at h
  obtain ⟨hlow, hhigh⟩ := h
  have hspace : isSpace c = false := by
    simp only [isSpace, Bool.or_eq_false_iff, Bool.and_eq_false_iff, decide_eq_false_iff_not,
      beq_eq_false_iff_ne]
    refine ⟨⟨⟨⟨⟨⟨⟨⟨⟨⟨.inr ?_, .inr ?_⟩, ?_⟩, ?_⟩, ?_⟩, .inl ?_⟩, ?_⟩, ?_⟩, ?_⟩, ?_⟩, ?_⟩ <;> omega
  simp [isWhiteSpace, hspace]

theorem FieldPattern.solid_of_visible {p : FieldPattern}
    (hfirst : ∀ c, p.first c = true → isVisible c = true)
    (hrest : ∀ c, p.rest c = true → isVisible c = true) : p.Solid := by
  intro c hspace
  have hout : isVisible c = false := by
    cases hc : isVisible c with
    | false => rfl
    | true => simp [isWhiteSpace_of_isVisible hc] at hspace
  constructor
  · cases hc : p.first c with
    | false => rfl
    | true => simp [hfirst c hc] at hout
  · cases hc : p.rest c with
    | false => rfl
    | true => simp [hrest c hc] at hout

end BhDic.Python
