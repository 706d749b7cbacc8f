import BhDic.Discord.EmbedBudget
import BhDic.Library.Dict

/-!
# What an embed leaves out

An embed stays within the limits of Discord, and its texts are shown in full or cut with an
ellipsis, with a notice in the footer. The decoration of a profile breaks this: it drops the flag of
what it cuts, and it redacts once more a footer that is redacted already. `resultEmbed_exact` says
that nothing else does.
-/

namespace BhDic.Discord

open BhDic.Library (exists_of_forall₂)
open BhDic.Python

/-! ## Texts and what is shown of them -/

/-- A text after redaction, and what an embed shows of it. -/
structure Shown where
  original : List Char
  shown : List Char

namespace Shown

/-- In full, where a dash stands for no text. -/
def Full (s : Shown) : Prop := s.shown = orDash s.original

instance (s : Shown) : Decidable s.Full := inferInstanceAs (Decidable (_ = _))

/-- A beginning, with an ellipsis for the rest. -/
def Cut (s : Shown) : Prop := ∃ n < s.original.length, s.shown = s.original.take n ++ ['…']

/-- The text within a shorter limit. -/
def within (s : Shown) (maximum : Nat) : Shown := { s with shown := truncate s.shown maximum }

end Shown

structure ShownField where
  name : Shown
  value : Shown
  inline : Bool

def ShownField.embedField (f : ShownField) : EmbedField := ⟨f.name.shown, f.value.shown, f.inline⟩

/-- The texts of an embed, each at its place. -/
structure Layout where
  title : Shown
  opening : Option Shown := none
  description : Shown
  fields : List ShownField
  /-- Whether the footer has the notice. -/
  reduced : Bool
  closing : Option Shown := none
  correlation : Option Shown
  author : Option Shown := none
  color : Color

namespace Layout

def texts (l : Layout) : List Shown :=
  l.title :: l.description :: (l.fields.flatMap fun f => [f.name, f.value]) ++ l.correlation.toList ++
    (l.opening.toList ++ l.closing.toList ++ l.author.toList)

def footerParts (l : Layout) : List (List Char) :=
  (if l.reduced then [reductionNotice] else []) ++ (l.closing.map (·.shown)).toList ++
    (l.correlation.map (correlationLabel ++ ·.shown)).toList

/-- The embed with these texts. -/
def embed (l : Layout) : Embed where
  title := l.title.shown
  description := l.opening.elim [] (·.shown ++ "\n\n".toList) ++ l.description.shown
  fields := l.fields.map (·.embedField)
  footer := joinFooter l.footerParts
  author := l.author.map (·.shown)
  color := l.color

end Layout

/-! ## The layout of a result -/

section

variable (u : UnicodeData) (result : InteractionResult)

/-- `_bounded`, with the text it was made of. -/
def boundedText (value : List Char) (maximum : Nat) : Shown :=
  ⟨redacted u value, safe u value maximum⟩

def fieldLayout (field : ResultField) : ShownField where
  name := boundedText u field.name.toList maxFieldName
  value := boundedText u field.value.toList maxFieldValue
  inline := field.inline

/-- The correlation id, as the footer shows it. -/
def correlationText : Option Shown :=
  (result.correlationId.filter (· ≠ "")).map (boundedText u ·.toList 128)

/-- Each text within its own limit. -/
def plainLayout : Layout :=
  let title := boundedText u result.title.toList maxTitle
  let description := boundedText u result.description.toList maxDescription
  let fields := (result.fields.take maxFields).map (fieldLayout u)
  let l : Layout :=
    { title, description, fields, correlation := correlationText u result, reduced := false
      color := if result.success then .green else .red }
  { l with reduced := maxFields < result.fields.length || l.texts.any fun s => ¬s.Full }

/-- The fields within the lengths of their names and values, in turn. -/
def fitFields : List ShownField → List Nat → List ShownField
  | f :: fields, nameLength :: valueLength :: lengths =>
      { f with name := f.name.within nameLength, value := f.value.within valueLength } ::
        fitFields fields lengths
  | _, _ => []

/-- The lengths for a layout whose texts are too long together. -/
def Layout.allotted (l : Layout) (success : Bool) : Nat × List Nat :=
  compactLengths success (maxTotal - l.title.shown.length - (l.embed.footer.getD []).length)
    l.description.shown.length (componentLengths (l.fields.map (·.embedField)))

def Layout.withNotice (l : Layout) : Layout := { l with reduced := true }

/-- The layout within the limit for the whole, with the notice. -/
def Layout.compact (l : Layout) (success : Bool) : Layout :=
  let lengths := l.withNotice.allotted success
  { l.withNotice with
      description := l.description.within lengths.1
      fields := fitFields l.fields lengths.2 }

/-- The layout before decoration. -/
def baseLayout : Layout :=
  let l := plainLayout u result
  if maxTotal < l.embed.length then l.compact result.success else l

variable (profile : BotLanguageProfile)

/-- The layout with the texts of a profile. -/
def Layout.decorated (l : Layout) : Layout :=
  { l with
      opening := ((openingOf result profile).filter fun opening =>
        (safe u opening maxDecoration ++ "\n\n".toList ++ l.description.shown).length ≤
          maxDescription).map (boundedText u · maxDecoration)
      closing := (closingOf result profile).map (boundedText u · maxDecoration)
      author :=
        if authorOf result profile = [] then none
        else some (boundedText u (authorOf result profile) maxAuthorName) }

/-- A result is decorated where nothing is missing and the whole still fits. -/
def IsDecorated : Prop :=
  (baseEmbed u result).2 = false ∧
    (decoratedCopy u result profile (baseEmbed u result).1).length ≤ maxTotal

instance : Decidable (IsDecorated u result profile) := inferInstanceAs (Decidable (_ ∧ _))

/-- The layout that `result_embed` follows. -/
def resultLayout (result : InteractionResult) (profile : Option BotLanguageProfile) : Layout :=
  let l := baseLayout u result
  match profile with
  | none => l
  | some profile =>
      if IsDecorated u result profile then l.decorated u result profile else l

/-! ## What is promised -/

/-- The limits of Discord. -/
structure WithinLimits (embed : Embed) : Prop where
  title_le : embed.title.length ≤ 256
  description_le : embed.description.length ≤ 4096
  fields_le : embed.fields.length ≤ 25
  field_bounds : ∀ field ∈ embed.fields, field.name ≠ [] ∧ field.name.length ≤ 256 ∧
    field.value ≠ [] ∧ field.value.length ≤ 1024
  total_le : embed.length ≤ 6000

/-- The embed has the texts of the layout, which are those of the result and the profile after
redaction: each in full or cut, and with the notice where one is cut or a field is missing. -/
structure Tells (profile : Option BotLanguageProfile) (l : Layout) (embed : Embed) : Prop where
  embed_eq : embed = l.embed
  title_eq : l.title.original = redacted u result.title.toList
  description_eq : l.description.original = redacted u result.description.toList
  fields_eq : l.fields.map (fun f => (f.name.original, f.value.original, f.inline)) =
    (result.fields.take 25).map fun field =>
      (redacted u field.name.toList, redacted u field.value.toList, field.inline)
  correlation_eq : l.correlation.map (·.original) =
    (result.correlationId.filter (· ≠ "")).map (redacted u ·.toList)
  opening_eq : ∀ s ∈ l.opening, ∃ p ∈ profile, ∃ text ∈ openingOf result p,
    s.original = redacted u text
  closing_eq : ∀ s ∈ l.closing, ∃ p ∈ profile, ∃ text ∈ closingOf result p,
    s.original = redacted u text
  author_eq : ∀ s ∈ l.author, ∃ p ∈ profile, s.original = redacted u (authorOf result p)
  shown : ∀ s ∈ l.texts, s.Full ∨ s.Cut
  notice : (∃ s ∈ l.texts, ¬s.Full) ∨ 25 < result.fields.length → l.reduced = true

/-- Redaction leaves the texts of the profile within their limits, and the footer put together with
them as it is. -/
structure DecorationFits (profile : BotLanguageProfile) : Prop where
  opening_le : ∀ text ∈ openingOf result profile,
    (safe u text maxDecoration ++ "\n\n".toList ++
      safe u result.description.toList maxDescription).length ≤ maxDescription →
    (redacted u text).length ≤ maxDecoration
  closing_le : ∀ text ∈ closingOf result profile, (redacted u text).length ≤ maxDecoration
  author_le : authorOf result profile ≠ [] →
    (redacted u (authorOf result profile)).length ≤ maxAuthorName
  footer_eq : ∀ text ∈ joinFooter (decoratedParts u result profile), safe u text maxFooter = text

end

/-! ## One text -/

section

variable {u : UnicodeData}

theorem safe_eq (value : List Char) (maximum : Nat) :
    safe u value maximum = truncate (redacted u value) maximum := rfl

theorem truncate_eq_orDash {value : List Char} {maximum : Nat} (h : 1 ≤ maximum) :
    truncate value maximum = orDash value ↔ value.length ≤ maximum := by
  constructor
  · intro hfull
    by_contra hlong
    have hle := length_truncate_le value h
    rw [hfull, length_orDash] at hle
    omega
  · exact truncate_of_le

variable (u) in
theorem full_boundedText (value : List Char) {maximum : Nat} (h : 1 ≤ maximum) :
    (boundedText u value maximum).Full ↔ (redacted u value).length ≤ maximum := by
  rw [Shown.Full, boundedText, safe_eq]
  exact truncate_eq_orDash h

theorem full_or_cut_truncate (original : List Char) {maximum : Nat} :
    Shown.Full ⟨original, truncate original maximum⟩ ∨
      Shown.Cut ⟨original, truncate original maximum⟩ := by
  by_cases h : original.length ≤ maximum
  · exact Or.inl (truncate_of_le h)
  · refine Or.inr ⟨maximum - 1, ?_, truncate_of_lt (by omega)⟩
    show maximum - 1 < original.length
    omega

theorem full_or_cut_boundedText (value : List Char) (maximum : Nat) :
    (boundedText u value maximum).Full ∨ (boundedText u value maximum).Cut := by
  rw [boundedText, safe_eq]
  exact full_or_cut_truncate _

/-- A text that is cut once more is still a beginning of the original. -/
theorem full_or_cut_within {s : Shown} (h : s.Full ∨ s.Cut) {maximum : Nat}
    (hle : maximum ≤ s.shown.length) (hpos : 1 ≤ maximum) :
    (s.within maximum).Full ∨ (s.within maximum).Cut := by
  obtain ⟨original, shown⟩ := s
  change maximum ≤ shown.length at hle
  by_cases hall : shown.length ≤ maximum
  · -- nothing is taken
    have hne : shown ≠ [] := List.length_pos_iff.mp (by omega)
    have hsame : truncate shown maximum = shown := by
      rw [truncate_of_le hall, orDash, if_neg hne]
    simp only [Shown.within, hsame]
    exact h
  · have hcut : truncate shown maximum = shown.take (maximum - 1) ++ ['…'] :=
      truncate_of_lt (by omega)
    simp only [Shown.within, hcut]
    refine Or.inr ?_
    obtain hfull | ⟨n, hn, hcut'⟩ := h
    · change shown = orDash original at hfull
      by_cases hnil : original = []
      · rw [hfull, orDash, if_pos hnil] at hall
        simp only [List.length_singleton] at hall
        omega
      · rw [orDash, if_neg hnil] at hfull
        refine ⟨maximum - 1, ?_, by rw [hfull]⟩
        show maximum - 1 < original.length
        rw [← hfull]
        omega
    · change n < original.length at hn
      change shown = original.take n ++ ['…'] at hcut'
      have hlength : shown.length = n + 1 := by
        rw [hcut', List.length_append, List.length_take]
        simp only [List.length_singleton]
        omega
      refine ⟨maximum - 1, ?_, ?_⟩
      · show maximum - 1 < original.length
        omega
      · show shown.take (maximum - 1) ++ ['…'] = original.take (maximum - 1) ++ ['…']
        rw [hcut', List.take_append_of_le_length (by rw [List.length_take]; omega),
          List.take_take, min_eq_left (by omega)]

end

/-! ## Fields within their lengths -/

theorem map_fitFields (fields : List ShownField) (lengths : List Nat) :
    (fitFields fields lengths).map (·.embedField) =
      compactFields (fields.map (·.embedField)) lengths := by
  induction fields generalizing lengths with
  | nil => cases lengths <;> rfl
  | cons f fields ih =>
    match lengths with
    | [] => rfl
    | [_] => rfl
    | a :: b :: lengths => exact congrArg (_ :: ·) (ih lengths)

/-- Lengths that are there for every name and value, and no longer than these are. -/
def Allots (fields : List ShownField) (lengths : List Nat) : Prop :=
  List.Forall₂ (fun length component => 1 ≤ length ∧ length ≤ component) lengths
    (componentLengths (fields.map (·.embedField)))

theorem allots_cons {f : ShownField} {fields : List ShownField} {lengths : List Nat} :
    Allots (f :: fields) lengths ↔ ∃ a b rest, lengths = a :: b :: rest ∧
      (1 ≤ a ∧ a ≤ f.name.shown.length) ∧ (1 ≤ b ∧ b ≤ f.value.shown.length) ∧
      Allots fields rest := by
  constructor
  · intro h
    change List.Forall₂ _ lengths (f.name.shown.length :: f.value.shown.length ::
      componentLengths (fields.map (·.embedField))) at h
    obtain _ | ⟨ha, _ | ⟨hb, hrest⟩⟩ := h
    exact ⟨_, _, _, rfl, ha, hb, hrest⟩
  · rintro ⟨a, b, rest, rfl, ha, hb, hrest⟩
    exact List.Forall₂.cons ha (List.Forall₂.cons hb hrest)

/-- What fitting does to one field. -/
structure FitsInto (f f' : ShownField) : Prop where
  name_eq : ∃ a, 1 ≤ a ∧ a ≤ f.name.shown.length ∧ f'.name = f.name.within a
  value_eq : ∃ b, 1 ≤ b ∧ b ≤ f.value.shown.length ∧ f'.value = f.value.within b
  inline_eq : f'.inline = f.inline

theorem forall₂_fitFields {fields : List ShownField} {lengths : List Nat}
    (h : Allots fields lengths) : List.Forall₂ FitsInto fields (fitFields fields lengths) := by
  induction fields generalizing lengths with
  | nil => cases lengths <;> exact List.Forall₂.nil
  | cons f fields ih =>
    obtain ⟨a, b, rest, rfl, ha, hb, hrest⟩ := allots_cons.mp h
    exact List.Forall₂.cons ⟨⟨a, ha.1, ha.2, rfl⟩, ⟨b, hb.1, hb.2, rfl⟩, rfl⟩ (ih hrest)

/-- The characters of the fields of an embed. -/
def fieldsLength (fields : List EmbedField) : Nat :=
  (fields.map fun field => field.name.length + field.value.length).sum

theorem fieldsLength_fitFields {fields : List ShownField} {lengths : List Nat}
    (h : Allots fields lengths) :
    fieldsLength ((fitFields fields lengths).map (·.embedField)) ≤ lengths.sum := by
  induction fields generalizing lengths with
  | nil => cases lengths <;> exact Nat.zero_le _
  | cons f fields ih =>
    obtain ⟨a, b, rest, rfl, ha, hb, hrest⟩ := allots_cons.mp h
    have hname := length_truncate_le f.name.shown ha.1
    have hvalue := length_truncate_le f.value.shown hb.1
    have hfields := ih hrest
    show (truncate f.name.shown a).length + (truncate f.value.shown b).length +
      fieldsLength ((fitFields fields rest).map (·.embedField)) ≤ a + (b + rest.sum)
    omega

theorem IsAllotment.allots {available descriptionLength : Nat} {lengths : Nat × List Nat}
    {fields : List ShownField}
    (h : IsAllotment available descriptionLength
      (componentLengths (fields.map (·.embedField))) lengths) : Allots fields lengths.2 := by
  obtain ⟨-, -, hpos, hle, -⟩ := h
  obtain ⟨d, lengths⟩ := lengths
  change List.Forall₂ _ _ lengths at hpos
  change List.Forall₂ _ lengths _ at hle
  show Allots fields lengths
  unfold Allots
  generalize componentLengths (fields.map (·.embedField)) = components at hpos hle
  induction hle with
  | nil => exact List.Forall₂.nil
  | @cons length component lengths components hle _ ih =>
    obtain _ | ⟨hone, hrest⟩ := hpos
    exact List.Forall₂.cons ⟨hone, hle⟩ (ih hrest)

/-! ## The footer -/

section

variable (u : UnicodeData) (result : InteractionResult)

theorem footer_fst (reduced : Bool) :
    (footer u result.correlationId reduced).1 =
      joinFooter ((if reduced then [reductionNotice] else []) ++
        ((correlationText u result).map (correlationLabel ++ ·.shown)).toList) := by
  unfold footer correlationText
  cases result.correlationId.filter (· ≠ "") with
  | none => simp
  | some id => rfl

theorem footer_snd (reduced : Bool) :
    (footer u result.correlationId reduced).2 =
      (correlationText u result).toList.any fun s => ¬s.Full := by
  unfold footer correlationText
  cases result.correlationId.filter (· ≠ "") with
  | none => rfl
  | some id =>
    have := full_boundedText u id.toList (show 1 ≤ 128 by omega)
    simp only [bounded, Option.map_some, Option.toList_some, List.any_cons, List.any_nil, this,
      Bool.or_false, not_le]

end

theorem length_joinFooter_le {parts : List (List Char)} {bound : Nat}
    (h : ∀ part ∈ parts, part.length ≤ bound) (hcount : parts.length ≤ 2) :
    ((joinFooter parts).getD []).length ≤ 2 * bound + 3 := by
  match parts with
  | [] => exact Nat.zero_le _
  | [a] =>
    have := h a (by simp)
    simp only [joinFooter, List.cons_ne_nil, if_false, Option.getD_some,
      List.intercalate_singleton]
    omega
  | [a, b] =>
    have ha := h a (by simp)
    have hb := h b (by simp)
    have : bullet.length = 3 := rfl
    simp only [joinFooter, List.cons_ne_nil, if_false, Option.getD_some,
      List.intercalate_cons_cons, List.intercalate_singleton, List.length_append]
    omega

/-! ## Before decoration -/

section

variable (u : UnicodeData) (result : InteractionResult)

/-- Every text as it is bounded by itself, and what the code takes for a reduction. -/
theorem plainLayout_reduced :
    (plainLayout u result).reduced =
      (decide (maxTitle < (redacted u result.title.toList).length) ||
        decide (maxDescription < (redacted u result.description.toList).length) ||
        (decide (maxFields < result.fields.length) ||
          ((result.fields.take maxFields).map (boundedField u)).any (·.2)) ||
        ((correlationText u result).toList.any fun s => ¬s.Full)) := by
  have hfields : ∀ fields : List ResultField,
      (((fields.map (fieldLayout u)).flatMap fun f => [f.name, f.value]).any fun s => ¬s.Full) =
        (fields.map (boundedField u)).any (·.2) := by
    intro fields
    induction fields with
    | nil => rfl
    | cons field fields ih =>
      have hname := full_boundedText u field.name.toList
        (show 1 ≤ maxFieldName by decide)
      have hvalue := full_boundedText u field.value.toList
        (show 1 ≤ maxFieldValue by decide)
      rw [List.map_cons, List.flatMap_cons, List.any_append, ih, List.map_cons, List.any_cons]
      simp only [fieldLayout, List.any_cons, List.any_nil, hname, hvalue, boundedField, bounded,
        Bool.or_false, not_le]
  have htitle := full_boundedText u result.title.toList
    (show 1 ≤ maxTitle by decide)
  have hdescription := full_boundedText u result.description.toList
    (show 1 ≤ maxDescription by decide)
  simp only [plainLayout, Layout.texts, Option.toList_none, List.append_nil, List.any_append,
    List.any_cons, hfields, htitle, hdescription, not_le]
  rw [Bool.eq_iff_iff]
  simp only [Bool.or_eq_true, decide_eq_true_eq]
  clear hfields htitle hdescription
  tauto

/-- The texts of the footer before decoration. -/
theorem footerParts_plain (reduced : Bool) (l : Layout) (hclosing : l.closing = none)
    (hcorrelation : l.correlation = correlationText u result)
    (hreduced : l.reduced = reduced) :
    joinFooter l.footerParts = (footer u result.correlationId reduced).1 := by
  rw [footer_fst, Layout.footerParts, hclosing, hcorrelation, hreduced]
  simp

theorem length_footer_le (reduced : Bool) :
    ((footer u result.correlationId reduced).1.getD []).length ≤ 300 := by
  rw [footer_fst]
  have hparts : ∀ part ∈ (if reduced then [reductionNotice] else []) ++
      ((correlationText u result).map (correlationLabel ++ ·.shown)).toList,
      part.length ≤ 144 := by
    intro part hpart
    rcases List.mem_append.mp hpart with hnotice | hid
    · have : reductionNotice.length = 39 := rfl
      cases reduced <;> simp_all
    · unfold correlationText at hid
      cases hfilter : result.correlationId.filter (· ≠ "") with
      | none =>
        rw [hfilter] at hid
        simp at hid
      | some id =>
        rw [hfilter] at hid
        have hpart : part = correlationLabel ++ truncate (redacted u id.toList) 128 := by
          simpa [boundedText, safe, bounded] using hid
        have hlabel : correlationLabel.length = 16 := rfl
        have := length_truncate_le (redacted u id.toList) (show 1 ≤ 128 by omega)
        rw [hpart, List.length_append]
        omega
  refine (length_joinFooter_le hparts ?_).trans (by omega)
  have : ∀ o : Option (List Char), o.toList.length ≤ 1 := by
    intro o
    cases o <;> simp
  have hid := this ((correlationText u result).map (correlationLabel ++ ·.shown))
  cases reduced
  · exact hid.trans (by omega)
  · exact Nat.succ_le_succ hid

/-- A text after redaction, shown within a limit. -/
structure Shows (original : List Char) (limit : Nat) (s : Shown) : Prop where
  original_eq : s.original = original
  ne_nil : s.shown ≠ []
  length_le : s.shown.length ≤ limit
  shown : s.Full ∨ s.Cut

theorem shows_boundedText (value : List Char) {limit : Nat} (h : 1 ≤ limit) :
    Shows (redacted u value) limit (boundedText u value limit) := by
  refine ⟨rfl, ?_, ?_, full_or_cut_boundedText _ _⟩
  · rw [boundedText, safe_eq]
    exact truncate_ne_nil _ _
  · rw [boundedText, safe_eq]
    exact length_truncate_le _ h

theorem Shows.within {original : List Char} {limit maximum : Nat} {s : Shown}
    (h : Shows original limit s) (hpos : 1 ≤ maximum) (hle : maximum ≤ s.shown.length) :
    Shows original limit (s.within maximum) where
  original_eq := h.original_eq
  ne_nil := truncate_ne_nil _ _
  length_le := (length_truncate_le _ hpos).trans (hle.trans h.length_le)
  shown := full_or_cut_within h.shown hle hpos

/-- A field of the result, as the embed shows it. -/
structure ShowsField (field : ResultField) (f : ShownField) : Prop where
  name : Shows (redacted u field.name.toList) maxFieldName f.name
  value : Shows (redacted u field.value.toList) maxFieldValue f.value
  inline_eq : f.inline = field.inline

/-- A layout before decoration, each text within its own limit. -/
structure Layout.IsBounded (l : Layout) : Prop where
  title_eq : l.title = boundedText u result.title.toList maxTitle
  opening_eq : l.opening = none
  closing_eq : l.closing = none
  author_eq : l.author = none
  correlation_eq : l.correlation = correlationText u result
  color_eq : l.color = if result.success then .green else .red
  description : Shows (redacted u result.description.toList) maxDescription l.description
  fields : List.Forall₂ (ShowsField u) (result.fields.take maxFields) l.fields

theorem isBounded_plainLayout : (plainLayout u result).IsBounded u result where
  title_eq := rfl
  opening_eq := rfl
  closing_eq := rfl
  author_eq := rfl
  correlation_eq := rfl
  color_eq := rfl
  description := shows_boundedText u _ (by decide)
  fields := by
    apply List.forall₂_map_right_iff.mpr
    apply List.forall₂_same.mpr
    intro field _
    exact ⟨shows_boundedText u _ (by decide), shows_boundedText u _ (by decide), rfl⟩

variable {u result}

theorem Layout.IsBounded.fieldsLength_pos {l : Layout} (h : l.IsBounded u result) :
    ∀ c ∈ componentLengths (l.fields.map (·.embedField)), 1 ≤ c := by
  intro c hc
  obtain ⟨e, he, hce⟩ := List.mem_flatMap.mp hc
  obtain ⟨f, hf, rfl⟩ := List.mem_map.mp he
  obtain ⟨field, -, hfield⟩ := exists_of_forall₂ h.fields hf
  have hname := List.length_pos_iff.mpr hfield.name.ne_nil
  have hvalue := List.length_pos_iff.mpr hfield.value.ne_nil
  have hcases : c = f.name.shown.length ∨ c = f.value.shown.length := by
    simpa [ShownField.embedField] using hce
  omega

/-- The notice and the correlation id take little room. -/
theorem Layout.IsBounded.footer_le {l : Layout} (h : l.IsBounded u result) :
    (l.embed.footer.getD []).length ≤ 300 := by
  show ((joinFooter l.footerParts).getD []).length ≤ 300
  rw [footerParts_plain u result l.reduced l h.closing_eq h.correlation_eq rfl]
  exact length_footer_le u result l.reduced

theorem Layout.IsBounded.length_components {l : Layout} (h : l.IsBounded u result) :
    (componentLengths (l.fields.map (·.embedField))).length ≤ 50 := by
  have hcount : l.fields.length ≤ 25 := by
    rw [← h.fields.length_eq, List.length_take]
    exact min_le_left _ _
  have htwo : ∀ fields : List EmbedField, (componentLengths fields).length = 2 * fields.length := by
    intro fields
    induction fields with
    | nil => rfl
    | cons field fields ih =>
      show (componentLengths fields).length + 2 = 2 * (fields.length + 1)
      omega
  rw [htwo, List.length_map]
  omega

theorem Layout.IsBounded.title_le {l : Layout} (h : l.IsBounded u result) :
    l.title.shown.length ≤ 256 := by
  rw [h.title_eq]
  exact (shows_boundedText u _ (by decide)).length_le

theorem Layout.IsBounded.withNotice {l : Layout} (h : l.IsBounded u result) :
    l.withNotice.IsBounded u result :=
  ⟨h.title_eq, h.opening_eq, h.closing_eq, h.author_eq, h.correlation_eq, h.color_eq,
    h.description, h.fields⟩

/-- The lengths of a compacted layout fit, and the description keeps what is reserved for it. -/
theorem Layout.IsBounded.allotted {l : Layout} (h : l.IsBounded u result) (success : Bool) :
    IsAllotment (maxTotal - l.title.shown.length - (l.embed.footer.getD []).length)
      l.description.shown.length (componentLengths (l.fields.map (·.embedField)))
      (l.allotted success) ∧ min l.description.shown.length 1024 ≤ (l.allotted success).1 := by
  have htitle := h.title_le
  have hfooter := h.footer_le
  have hcount := h.length_components
  have htotal : maxTotal = 6000 := rfl
  obtain ⟨hallotment, hreserved⟩ := compactLengths_spec success
    (maxTotal - l.title.shown.length - (l.embed.footer.getD []).length)
    (List.length_pos_iff.mpr h.description.ne_nil) h.fieldsLength_pos (by omega)
  refine ⟨hallotment, le_trans ?_ hreserved⟩
  omega

theorem Layout.IsBounded.compact {l : Layout} (h : l.IsBounded u result) (success : Bool) :
    (l.compact success).IsBounded u result := by
  obtain ⟨hallotment, -⟩ := h.withNotice.allotted success
  refine ⟨h.title_eq, h.opening_eq, h.closing_eq, h.author_eq, h.correlation_eq, h.color_eq,
    h.description.within hallotment.description_pos hallotment.description_le, ?_⟩
  have hfit := forall₂_fitFields hallotment.allots
  show List.Forall₂ (ShowsField u) (result.fields.take maxFields)
    (fitFields l.withNotice.fields (l.withNotice.allotted success).2)
  generalize fitFields l.withNotice.fields (l.withNotice.allotted success).2 = fitted at hfit
  have hfields : List.Forall₂ (ShowsField u) (result.fields.take maxFields) l.withNotice.fields :=
    h.fields
  clear hallotment
  generalize l.withNotice.fields = fields at hfit hfields
  generalize result.fields.take maxFields = originals at hfields
  induction hfields generalizing fitted with
  | nil =>
    cases hfit
    exact List.Forall₂.nil
  | @cons field f originals fields hshows _ ih =>
    obtain _ | ⟨hone, hrest⟩ := hfit
    obtain ⟨⟨a, ha, hale, hname⟩, ⟨b, hb, hble, hvalue⟩, hinline⟩ := hone
    refine List.Forall₂.cons ⟨?_, ?_, hinline.trans hshows.inline_eq⟩ (ih _ hrest)
    · rw [hname]
      exact hshows.name.within ha hale
    · rw [hvalue]
      exact hshows.value.within hb hble

/-- The characters of an embed without decoration. -/
theorem Layout.IsBounded.length_embed {l : Layout} (h : l.IsBounded u result) :
    l.embed.length = l.title.shown.length + l.description.shown.length +
      fieldsLength (l.fields.map (·.embedField)) + (l.embed.footer.getD []).length := by
  have hopening := h.opening_eq
  have hauthor := h.author_eq
  simp only [Embed.length, Layout.embed, hopening, hauthor, Option.elim_none, List.nil_append,
    Option.map_none, Option.getD_none, List.length_nil, fieldsLength, Nat.add_zero]

theorem Layout.IsBounded.length_compact_le {l : Layout} (h : l.IsBounded u result)
    (success : Bool) : (l.compact success).embed.length ≤ maxTotal := by
  obtain ⟨hallotment, -⟩ := h.withNotice.allotted success
  have hdescription := length_truncate_le l.description.shown hallotment.description_pos
  have hfields := fieldsLength_fitFields hallotment.allots
  have htotal := hallotment.total
  have htitle := h.title_le
  have hfooter := h.withNotice.footer_le
  have hmax : maxTotal = 6000 := rfl
  rw [(h.compact success).length_embed]
  show l.title.shown.length + (truncate l.description.shown _).length +
    fieldsLength ((fitFields l.withNotice.fields _).map (·.embedField)) +
      (l.withNotice.embed.footer.getD []).length ≤ maxTotal
  change _ ≤ maxTotal - l.title.shown.length - (l.withNotice.embed.footer.getD []).length at htotal
  omega

variable (u result) in
theorem fields_plainLayout :
    ((result.fields.take maxFields).map (boundedField u)).map (·.1) =
      (plainLayout u result).fields.map (·.embedField) := by
  show _ = ((result.fields.take maxFields).map (fieldLayout u)).map (·.embedField)
  rw [List.map_map, List.map_map]
  rfl

theorem ite_footer (reduced : Bool) :
    (if (footer u result.correlationId reduced).2 = true then
        (footer u result.correlationId true).1
      else (footer u result.correlationId reduced).1) =
      (footer u result.correlationId (reduced || (footer u result.correlationId reduced).2)).1 := by
  cases (footer u result.correlationId reduced).2 <;> simp

/-- An embed without fields needs no compaction. -/
theorem Layout.IsBounded.fields_ne_nil {l : Layout} (h : l.IsBounded u result)
    (hlong : maxTotal < l.embed.length) : l.fields.map (·.embedField) ≠ [] := by
  intro hnil
  have htitle := h.title_le
  have hfooter := h.footer_le
  have hdescription := h.description.length_le
  have hmax : maxTotal = 6000 := rfl
  have hmaxDescription : maxDescription = 4096 := rfl
  rw [h.length_embed, hnil] at hlong
  have : fieldsLength [] = 0 := rfl
  omega

theorem compactEmbed_eq {l : Layout} (h : l.IsBounded u result)
    (hlong : maxTotal < l.embed.length) (success : Bool) :
    compactEmbed l.title.shown l.description.shown (l.fields.map (·.embedField))
        ((footer u result.correlationId true).1.getD reductionNotice) l.color success =
      (l.compact success).embed := by
  have hfooter : l.withNotice.embed.footer = (footer u result.correlationId true).1 :=
    footerParts_plain u result true l.withNotice h.closing_eq h.correlation_eq rfl
  obtain ⟨text, htext⟩ : ∃ text, (footer u result.correlationId true).1 = some text := by
    rw [footer_fst]
    exact ⟨_, if_neg (by simp)⟩
  have hlengths : compactLengths success (maxTotal - l.title.shown.length - text.length)
      l.description.shown.length (componentLengths (l.fields.map (·.embedField))) =
      l.withNotice.allotted success := by
    rw [Layout.allotted, hfooter, htext]
    rfl
  have hcompact : buildEmbed l.title.shown
      (truncate l.description.shown (l.withNotice.allotted success).1)
      (compactFields (l.fields.map (·.embedField)) (l.withNotice.allotted success).2)
      (some text) l.color = (l.compact success).embed := by
    have hopening : (l.compact success).opening = none := h.opening_eq
    have hauthor : (l.compact success).author = none := h.author_eq
    have hsame : (l.compact success).embed.footer = some text := (hfooter.trans htext)
    have hembed : (l.compact success).embed =
        { title := l.title.shown
          description := (l.compact success).opening.elim [] (·.shown ++ "\n\n".toList) ++
            (l.compact success).description.shown
          fields := (l.compact success).fields.map (·.embedField)
          footer := (l.compact success).embed.footer
          author := (l.compact success).author.map (·.shown)
          color := l.color } := rfl
    rw [hembed, hopening, hauthor, hsame, ← map_fitFields]
    rfl
  rw [htext, Option.getD_some, compactEmbed, if_neg (h.fields_ne_nil hlong)]
  simp only [hlengths]
  rw [hcompact, if_neg (by have := h.length_compact_le success; omega)]

/-- `result_embed` before decoration has the texts of the layout. -/
theorem baseEmbed_eq :
    baseEmbed u result = ((baseLayout u result).embed, (baseLayout u result).reduced) := by
  have hplain := isBounded_plainLayout u result
  generalize hreduced0 : (decide (maxTitle < (redacted u result.title.toList).length) ||
        decide (maxDescription < (redacted u result.description.toList).length) ||
        (decide (maxFields < result.fields.length) ||
          ((result.fields.take maxFields).map (boundedField u)).any (·.2))) = reduced0
  have hreduced : (plainLayout u result).reduced =
      (reduced0 || (footer u result.correlationId reduced0).2) := by
    rw [plainLayout_reduced, hreduced0, footer_snd]
  have hembed : buildEmbed (safe u result.title.toList maxTitle)
      (safe u result.description.toList maxDescription)
      (((result.fields.take maxFields).map (boundedField u)).map (·.1))
      (footer u result.correlationId (plainLayout u result).reduced).1
      (if result.success then .green else .red) = (plainLayout u result).embed := by
    rw [fields_plainLayout, ← footerParts_plain u result _ (plainLayout u result) rfl rfl rfl]
    rfl
  have hcode : baseEmbed u result =
      if maxTotal < (plainLayout u result).embed.length then
        (compactEmbed (safe u result.title.toList maxTitle)
          (safe u result.description.toList maxDescription)
          (((result.fields.take maxFields).map (boundedField u)).map (·.1))
          ((footer u result.correlationId true).1.getD reductionNotice)
          (if result.success then .green else .red) result.success, true)
      else ((plainLayout u result).embed, (plainLayout u result).reduced) := by
    rw [← hembed, hreduced, ← ite_footer]
    unfold baseEmbed
    simp only [bounded, safe, hreduced0]
    rfl
  rw [hcode, baseLayout]
  split
  · next hlong =>
    rw [← compactEmbed_eq hplain hlong, fields_plainLayout]
    rfl
  · rfl

theorem isBounded_baseLayout (u : UnicodeData) (result : InteractionResult) :
    (baseLayout u result).IsBounded u result := by
  unfold baseLayout
  simp only
  split
  · exact (isBounded_plainLayout u result).compact _
  · exact isBounded_plainLayout u result

theorem length_baseLayout_le (u : UnicodeData) (result : InteractionResult) :
    (baseLayout u result).embed.length ≤ maxTotal := by
  unfold baseLayout
  simp only
  split
  · exact (isBounded_plainLayout u result).length_compact_le _
  · next h => exact Nat.le_of_not_lt h

/-- A layout without a notice is the plain one. -/
theorem baseLayout_of_not_reduced (h : (baseLayout u result).reduced = false) :
    baseLayout u result = plainLayout u result := by
  unfold baseLayout at h ⊢
  simp only at h ⊢
  split at h
  · cases h
  · next hshort => rw [if_neg hshort]

theorem mem_texts {l : Layout} {s : Shown} :
    s ∈ l.texts ↔ s = l.title ∨ s = l.description ∨ (∃ f ∈ l.fields, s = f.name ∨ s = f.value) ∨
      s ∈ l.correlation ∨ s ∈ l.opening ∨ s ∈ l.closing ∨ s ∈ l.author := by
  simp only [Layout.texts, List.mem_append, List.mem_cons, List.mem_flatMap, Option.mem_toList,
    Option.mem_def, List.not_mem_nil, or_false, or_assoc]

/-- What is missing from a layout before decoration is told. -/
theorem notice_baseLayout
    (h : (∃ s ∈ (baseLayout u result).texts, ¬s.Full) ∨ 25 < result.fields.length) :
    (baseLayout u result).reduced = true := by
  by_contra hreduced
  rw [Bool.not_eq_true] at hreduced
  rw [baseLayout_of_not_reduced hreduced] at h hreduced
  have hflags : (decide (maxFields < result.fields.length) ||
      (plainLayout u result).texts.any fun s => ¬s.Full) = false := hreduced
  rw [Bool.or_eq_false_iff, decide_eq_false_iff_not, List.any_eq_false] at hflags
  obtain ⟨s, hs, hfull⟩ | hfields := h
  · exact hflags.2 s hs (by simpa using hfull)
  · exact hflags.1 hfields

theorem Layout.IsBounded.shown {l : Layout} (h : l.IsBounded u result) {s : Shown}
    (hs : s ∈ l.texts) : s.Full ∨ s.Cut := by
  rw [mem_texts] at hs
  obtain rfl | rfl | ⟨f, hf, hname⟩ | hcorrelation | hopening | hclosing | hauthor := hs
  · rw [h.title_eq]
    exact full_or_cut_boundedText _ _
  · exact h.description.shown
  · obtain ⟨field, -, hfield⟩ := exists_of_forall₂ h.fields hf
    rcases hname with rfl | rfl
    · exact hfield.name.shown
    · exact hfield.value.shown
  · rw [h.correlation_eq, correlationText] at hcorrelation
    obtain ⟨id, -, rfl⟩ := Option.map_eq_some_iff.mp hcorrelation
    exact full_or_cut_boundedText _ _
  · rw [h.opening_eq] at hopening
    cases hopening
  · rw [h.closing_eq] at hclosing
    cases hclosing
  · rw [h.author_eq] at hauthor
    cases hauthor

theorem Layout.IsBounded.field_bounds {l : Layout} (h : l.IsBounded u result) {e : EmbedField}
    (he : e ∈ l.fields.map (·.embedField)) :
    e.name ≠ [] ∧ e.name.length ≤ 256 ∧ e.value ≠ [] ∧ e.value.length ≤ 1024 := by
  obtain ⟨f, hf, rfl⟩ := List.mem_map.mp he
  obtain ⟨field, -, hfield⟩ := exists_of_forall₂ h.fields hf
  exact ⟨hfield.name.ne_nil, hfield.name.length_le, hfield.value.ne_nil, hfield.value.length_le⟩

theorem Layout.IsBounded.fields_le {l : Layout} (h : l.IsBounded u result) :
    (l.fields.map (·.embedField)).length ≤ 25 := by
  rw [List.length_map, ← h.fields.length_eq, List.length_take]
  exact min_le_left _ _

theorem Layout.IsBounded.withinLimits {l : Layout} (h : l.IsBounded u result)
    (hlength : l.embed.length ≤ maxTotal) : WithinLimits l.embed where
  title_le := h.title_le
  description_le := by
    show (l.opening.elim [] (·.shown ++ "\n\n".toList) ++ l.description.shown).length ≤ 4096
    rw [h.opening_eq]
    exact h.description.length_le
  fields_le := h.fields_le
  field_bounds := fun _ => h.field_bounds
  total_le := hlength

theorem Layout.IsBounded.fields_eq {l : Layout} (h : l.IsBounded u result) :
    l.fields.map (fun f => (f.name.original, f.value.original, f.inline)) =
      (result.fields.take 25).map fun field =>
        (redacted u field.name.toList, redacted u field.value.toList, field.inline) := by
  have hfields := h.fields
  change List.Forall₂ _ (result.fields.take 25) _ at hfields
  generalize result.fields.take 25 = originals at hfields
  generalize l.fields = fields at hfields
  induction hfields with
  | nil => rfl
  | cons hshows _ ih =>
    rw [List.map_cons, List.map_cons, ih, hshows.name.original_eq, hshows.value.original_eq,
      hshows.inline_eq]

theorem Layout.IsBounded.correlation_original {l : Layout} (h : l.IsBounded u result) :
    l.correlation.map (·.original) =
      (result.correlationId.filter (· ≠ "")).map (redacted u ·.toList) := by
  rw [h.correlation_eq, correlationText, Option.map_map]
  rfl

/-- Without decoration an embed tells what is missing. -/
theorem tells_baseLayout (u : UnicodeData) (result : InteractionResult)
    (profile : Option BotLanguageProfile) :
    Tells u result profile (baseLayout u result) (baseLayout u result).embed := by
  have h := isBounded_baseLayout u result
  refine ⟨rfl, by rw [h.title_eq]; rfl, h.description.original_eq, h.fields_eq,
    h.correlation_original, ?_, ?_, ?_, fun s => h.shown, notice_baseLayout⟩
  · intro s hs
    rw [h.opening_eq] at hs
    cases hs
  · intro s hs
    rw [h.closing_eq] at hs
    cases hs
  · intro s hs
    rw [h.author_eq] at hs
    cases hs

end

/-! ## With a decoration -/

section

variable {u : UnicodeData} {result : InteractionResult} {profile : BotLanguageProfile}

/-- The decorated description is that of the layout. -/
theorem decoratedDescription_eq (l : Layout) :
    decoratedDescription u result profile l.description.shown =
      (l.decorated u result profile).opening.elim [] (·.shown ++ "\n\n".toList) ++
        l.description.shown := by
  unfold decoratedDescription Layout.decorated
  simp only
  cases openingOf result profile with
  | none => rfl
  | some opening =>
    simp only [Option.filter_some, decide_eq_true_eq]
    split <;> rfl

theorem length_decoratedDescription_le {description : List Char}
    (h : description.length ≤ maxDescription) :
    (decoratedDescription u result profile description).length ≤ maxDescription := by
  unfold decoratedDescription
  split
  · exact h
  · simp only
    split
    · next hfits => exact hfits
    · exact h

/-- The parts of the footer of a decorated layout. -/
theorem footerParts_decorated {l : Layout} (h : l.IsBounded u result) (hreduced : l.reduced = false) :
    (l.decorated u result profile).footerParts = decoratedParts u result profile := by
  have hcorrelation := h.correlation_eq
  unfold Layout.footerParts Layout.decorated decoratedParts
  simp only [hreduced, hcorrelation, correlationText, Option.map_map, Bool.false_eq_true, if_false,
    List.nil_append]
  rfl

theorem joinFooter_eq_none {parts : List (List Char)} : joinFooter parts = none ↔ parts = [] := by
  unfold joinFooter
  split <;> simp_all

/-- A decorated embed is that of the layout if its footer is as it was put together. -/
theorem decoratedCopy_eq_iff (profile : BotLanguageProfile) {l : Layout} (h : l.IsBounded u result)
    (hreduced : l.reduced = false) :
    decoratedCopy u result profile l.embed = (l.decorated u result profile).embed ↔
      ∀ text ∈ joinFooter (decoratedParts u result profile), safe u text maxFooter = text := by
  have hdescription : l.embed.description = l.description.shown := by
    show l.opening.elim [] (·.shown ++ "\n\n".toList) ++ l.description.shown = _
    rw [h.opening_eq]
    rfl
  have hauthor : l.embed.author = none := by
    show l.author.map (·.shown) = none
    rw [h.author_eq]
    rfl
  have hnewAuthor : (if authorOf result profile = [] then l.embed.author
      else some (safe u (authorOf result profile) maxAuthorName)) =
      (l.decorated u result profile).embed.author := by
    show _ = Option.map (·.shown) (if authorOf result profile = [] then none
      else some (boundedText u (authorOf result profile) maxAuthorName))
    rw [hauthor]
    split <;> rfl
  have hfooter : (l.decorated u result profile).embed.footer =
      joinFooter (decoratedParts u result profile) :=
    congrArg joinFooter (footerParts_decorated h hreduced)
  have hcopy : decoratedCopy u result profile l.embed =
      { (l.decorated u result profile).embed with
          footer := (joinFooter (decoratedParts u result profile)).elim l.embed.footer
            fun text => some (safe u text maxFooter) } := by
    unfold decoratedCopy
    rw [hdescription, decoratedDescription_eq, hnewAuthor]
    cases joinFooter (decoratedParts u result profile) <;> rfl
  have hsame : decoratedCopy u result profile l.embed = (l.decorated u result profile).embed ↔
      ((joinFooter (decoratedParts u result profile)).elim l.embed.footer
        fun text => some (safe u text maxFooter)) =
        joinFooter (decoratedParts u result profile) := by
    rw [hcopy, ← hfooter]
    constructor
    · intro heq
      exact congrArg Embed.footer heq
    · intro heq
      rw [heq]
  rw [hsame]
  cases hjoin : joinFooter (decoratedParts u result profile) with
  | none =>
    -- without parts there was no footer before either
    rw [joinFooter_eq_none, decoratedParts, List.append_eq_nil_iff] at hjoin
    have hnone : l.embed.footer = none := by
      show joinFooter l.footerParts = none
      rw [joinFooter_eq_none, Layout.footerParts, hreduced, h.closing_eq, h.correlation_eq]
      have hid : result.correlationId.filter (· ≠ "") = none := by
        cases hid : result.correlationId.filter (· ≠ "") with
        | none => rfl
        | some id =>
          rw [hid] at hjoin
          simp at hjoin
      rw [correlationText, hid]
      rfl
    simp [hnone]
  | some text => simp

/-- What the profile adds to the texts. -/
theorem mem_texts_decorated {l : Layout} (h : l.IsBounded u result) {s : Shown} :
    s ∈ (l.decorated u result profile).texts ↔
      s ∈ l.texts ∨ s ∈ (l.decorated u result profile).opening ∨
        s ∈ (l.decorated u result profile).closing ∨ s ∈ (l.decorated u result profile).author := by
  have hopening := h.opening_eq
  have hclosing := h.closing_eq
  have hauthor := h.author_eq
  rw [mem_texts, mem_texts, hopening, hclosing, hauthor]
  show (s = l.title ∨ s = l.description ∨ (∃ f ∈ l.fields, s = f.name ∨ s = f.value) ∨
    s ∈ l.correlation ∨ _) ↔ _
  simp only [Option.mem_def, reduceCtorEq, or_false, or_assoc]

theorem mem_opening_decorated {l : Layout} {s : Shown} :
    s ∈ (l.decorated u result profile).opening ↔ ∃ text ∈ openingOf result profile,
      (safe u text maxDecoration ++ "\n\n".toList ++ l.description.shown).length ≤ maxDescription ∧
        boundedText u text maxDecoration = s := by
  simp only [Layout.decorated, Option.mem_def, Option.map_eq_some_iff, Option.filter_eq_some_iff,
    decide_eq_true_eq, and_assoc]

theorem mem_closing_decorated {l : Layout} {s : Shown} :
    s ∈ (l.decorated u result profile).closing ↔
      ∃ text ∈ closingOf result profile, boundedText u text maxDecoration = s := by
  simp only [Layout.decorated, Option.mem_def, Option.map_eq_some_iff]

theorem mem_author_decorated {l : Layout} {s : Shown} :
    s ∈ (l.decorated u result profile).author ↔
      authorOf result profile ≠ [] ∧ boundedText u (authorOf result profile) maxAuthorName = s := by
  simp only [Layout.decorated, Option.mem_def]
  split <;> simp_all

/-- A decorated embed tells what is missing exactly if its decoration fits. -/
theorem tells_decorated (hreduced : (baseLayout u result).reduced = false) :
    Tells u result (some profile) ((baseLayout u result).decorated u result profile)
        (decoratedCopy u result profile (baseLayout u result).embed) ↔
      DecorationFits u result profile := by
  have h := isBounded_baseLayout u result
  have hcopy := decoratedCopy_eq_iff profile h hreduced
  have hdescription : (baseLayout u result).description.shown =
      safe u result.description.toList maxDescription := by
    rw [baseLayout_of_not_reduced hreduced]
    rfl
  constructor
  · intro ht
    have hfull : ∀ s ∈ ((baseLayout u result).decorated u result profile).texts, s.Full := by
      intro s hs
      by_contra hcut
      have hnotice := ht.notice (Or.inl ⟨s, hs, hcut⟩)
      exact absurd hnotice (by
        show (baseLayout u result).reduced ≠ true
        rw [hreduced]
        decide)
    refine ⟨fun text htext hfits => ?_, fun text htext => ?_, fun hne => ?_, hcopy.mp ht.embed_eq⟩
    · rw [← hdescription] at hfits
      refine (full_boundedText u _ (by decide)).mp (hfull _ ((mem_texts_decorated h).mpr ?_))
      exact Or.inr (Or.inl (mem_opening_decorated.mpr ⟨text, htext, hfits, rfl⟩))
    · refine (full_boundedText u _ (by decide)).mp (hfull _ ((mem_texts_decorated h).mpr ?_))
      exact Or.inr (Or.inr (Or.inl (mem_closing_decorated.mpr ⟨text, htext, rfl⟩)))
    · refine (full_boundedText u _ (by decide)).mp (hfull _ ((mem_texts_decorated h).mpr ?_))
      exact Or.inr (Or.inr (Or.inr (mem_author_decorated.mpr ⟨hne, rfl⟩)))
  · intro hfits
    have hbase := tells_baseLayout u result (some profile)
    have hfull : ∀ s ∈ ((baseLayout u result).decorated u result profile).texts, s.Full := by
      intro s hs
      obtain hs | hs | hs | hs := (mem_texts_decorated h).mp hs
      · by_contra hcut
        have hnotice := hbase.notice (Or.inl ⟨s, hs, hcut⟩)
        rw [hreduced] at hnotice
        cases hnotice
      · obtain ⟨text, htext, hcandidate, rfl⟩ := mem_opening_decorated.mp hs
        rw [hdescription] at hcandidate
        exact (full_boundedText u _ (by decide)).mpr (hfits.opening_le text htext hcandidate)
      · obtain ⟨text, htext, rfl⟩ := mem_closing_decorated.mp hs
        exact (full_boundedText u _ (by decide)).mpr (hfits.closing_le text htext)
      · obtain ⟨hne, rfl⟩ := mem_author_decorated.mp hs
        exact (full_boundedText u _ (by decide)).mpr (hfits.author_le hne)
    refine ⟨hcopy.mpr hfits.footer_eq, hbase.title_eq, hbase.description_eq, hbase.fields_eq,
      hbase.correlation_eq, ?_, ?_, ?_, fun s hs => Or.inl (hfull s hs), ?_⟩
    · intro s hs
      obtain ⟨text, htext, -, rfl⟩ := mem_opening_decorated.mp hs
      exact ⟨profile, rfl, text, htext, rfl⟩
    · intro s hs
      obtain ⟨text, htext, rfl⟩ := mem_closing_decorated.mp hs
      exact ⟨profile, rfl, text, htext, rfl⟩
    · intro s hs
      obtain ⟨-, rfl⟩ := mem_author_decorated.mp hs
      exact ⟨profile, rfl, rfl⟩
    · rintro (⟨s, hs, hcut⟩ | hmany)
      · exact absurd (hfull s hs) hcut
      · exact hbase.notice (Or.inr hmany)

theorem withinLimits_decorated
    (hlength : (decoratedCopy u result profile (baseLayout u result).embed).length ≤ maxTotal) :
    WithinLimits (decoratedCopy u result profile (baseLayout u result).embed) := by
  have hbase := (isBounded_baseLayout u result).withinLimits (length_baseLayout_le u result)
  exact ⟨hbase.title_le, length_decoratedDescription_le hbase.description_le, hbase.fields_le,
    hbase.field_bounds, hlength⟩

end

/-! ## Every result and every profile -/

theorem resultEmbed_some (u : UnicodeData) (result : InteractionResult)
    (profile : BotLanguageProfile) :
    resultEmbed u result (some profile) =
      if IsDecorated u result profile then
        decoratedCopy u result profile (baseLayout u result).embed
      else (baseLayout u result).embed := by
  unfold resultEmbed IsDecorated
  simp only [baseEmbed_eq]
  by_cases hreduced : (baseLayout u result).reduced = false
  · simp only [hreduced, if_true, true_and]
  · simp [hreduced]

/-- The embed of a result is within the limits and tells what it leaves out, if and only if the
decoration fits where there is one. -/
theorem resultEmbed_exact (u : UnicodeData) (result : InteractionResult)
    (profile : Option BotLanguageProfile) :
    (WithinLimits (resultEmbed u result profile) ∧
        Tells u result profile (resultLayout u result profile) (resultEmbed u result profile)) ↔
      ∀ p ∈ profile, IsDecorated u result p → DecorationFits u result p := by
  have hbase := tells_baseLayout u result profile
  have hlimits := (isBounded_baseLayout u result).withinLimits (length_baseLayout_le u result)
  cases profile with
  | none =>
    have hembed : resultEmbed u result none = (baseLayout u result).embed := by
      simp only [resultEmbed, baseEmbed_eq]
    rw [hembed]
    constructor
    · intro _ p hp
      cases hp
    · intro _
      exact ⟨hlimits, hbase⟩
  | some profile =>
    rw [resultEmbed_some, resultLayout]
    by_cases hdecorated : IsDecorated u result profile
    · have hreduced : (baseLayout u result).reduced = false := by
        simpa only [baseEmbed_eq] using hdecorated.1
      have hlength := hdecorated.2
      rw [baseEmbed_eq] at hlength
      simp only [if_pos hdecorated]
      rw [tells_decorated hreduced]
      constructor
      · rintro ⟨-, hfits⟩ p hp -
        cases hp
        exact hfits
      · intro hfits
        exact ⟨withinLimits_decorated hlength, hfits profile rfl hdecorated⟩
    · simp only [if_neg hdecorated]
      constructor
      · rintro - p hp hdec
        cases hp
        exact absurd hdec hdecorated
      · intro _
        exact ⟨hlimits, hbase⟩

/-- Seven words that redaction makes longer. -/
def longerProfile : BotLanguageProfile where
  opening := some "token:a token:a token:a token:a token:a token:a token:a"
  opening_le := by decide

theorem opening_cut_without_notice :
    ¬(WithinLimits (resultEmbed asciiTables { title := "Esito", description := "Dati" }
          (some longerProfile)) ∧
        Tells asciiTables { title := "Esito", description := "Dati" } (some longerProfile)
          (resultLayout asciiTables { title := "Esito", description := "Dati" } (some longerProfile))
          (resultEmbed asciiTables { title := "Esito", description := "Dati" }
            (some longerProfile))) := by
  intro h
  have hlayout : ∀ l, resultLayout asciiTables { title := "Esito", description := "Dati" }
      (some longerProfile) = l → (l.texts.any fun s => ¬s.Full) ∧ l.reduced = false := by
    rintro _ rfl
    decide +kernel
  obtain ⟨hcut, hreduced⟩ := hlayout _ rfl
  obtain ⟨s, hs, hfull⟩ := List.any_eq_true.mp hcut
  have hnotice := h.2.notice (Or.inl ⟨s, hs, of_decide_eq_true hfull⟩)
  rw [hreduced] at hnotice
  cases hnotice

end BhDic.Discord
