import BhDic.Python.Decimal
import BhDic.Python.Lines

/-!
# The employee table

`ascii_table` pads every cell to the width of its column. Where no cell holds a line break, the
table tells the cells of two lists apart up to the spaces at their ends (`asciiTable_eq_iff`), so it
is lossless exactly for lists that differ in more than that (`lossless_iff`).
-/

namespace BhDic.Exports

open BhDic.Python

structure EmployeeExportRow where
  firstName : Option String
  lastName : Option String
  employeeId : String
  status : String
  contractExpiry : Option Date
  contractType : Option String
  monthlyNet : Option Decimal := none

/-- `_HEADERS`. -/
def headers : List (List Char) :=
  ["Nome".toList, "Cognome".toList, "ID DiC".toList, "Stato".toList, "Scadenza contratto".toList,
    "Tipologia contratto".toList, "Netto mensile".toList]

def notAvailable : List Char := "N/D".toList

/-- `_text`. -/
def text : Option String → List Char
  | some value => if value = "" then notAvailable else value.toList
  | none => notAvailable

/-- `_date`. -/
def date : Option Date → List Char
  | some value => padDigits 2 value.day ++ '/' :: padDigits 2 value.month ++
      '/' :: padDigits 4 value.year
  | none => notAvailable

/-- Commas and points changed for one another. -/
def swapSeparators (c : Char) : Char := if c = ',' then '.' else if c = '.' then ',' else c

/-- `_money`. -/
def money : Option Decimal → List Char
  | some value => "EUR ".toList ++ value.formatTwoPlaces.map swapSeparators
  | none => notAvailable

def EmployeeExportRow.cells (row : EmployeeExportRow) : List (List Char) :=
  [text row.firstName, text row.lastName, row.employeeId.toList, row.status.toList,
    date row.contractExpiry, text row.contractType, money row.monthlyNet]

/-- `_rows`. -/
def tableCells (rows : List EmployeeExportRow) : List (List (List Char)) :=
  rows.map EmployeeExportRow.cells

/-! ## The table -/

/-- The widths of the columns after one more row. -/
def widen (widths : List Nat) (values : List (List Char)) : List Nat :=
  widths.zipWith (fun width value => max width value.length) values

def columnWidths (body : List (List (List Char))) : List Nat :=
  body.foldl widen (headers.map List.length)

/-- Cells between separators. -/
def framed (separator : Char) (cells : List (List Char)) : List Char :=
  [separator] ++ [separator].intercalate cells ++ [separator]

def border (widths : List Nat) : List Char :=
  framed '+' (widths.map fun width => List.replicate (width + 2) '-')

/-- `f"{value:<{width}}"`. -/
def padded (value : List Char) (width : Nat) : List Char :=
  value ++ List.replicate (width - value.length) ' '

def line (widths : List Nat) (values : List (List Char)) : List Char :=
  framed '|' (values.zipWith (fun value width => ' ' :: padded value width ++ [' ']) widths)

def tableLines (rows : List EmployeeExportRow) : List (List Char) :=
  let body := tableCells rows
  let widths := columnWidths body
  [border widths, line widths headers, border widths] ++ body.map (line widths) ++ [border widths]

/-- `ascii_table`. -/
def asciiTable (rows : List EmployeeExportRow) : List Char := ['\n'].intercalate (tableLines rows)

/-! ## What is said of it -/

/-- `n + 4` physical lines of one length. -/
structure Aligned (rows : List EmployeeExportRow) : Prop where
  count : (splitlines (asciiTable rows)).length = rows.length + 4
  even : ∀ l ∈ splitlines (asciiTable rows), ∀ l' ∈ splitlines (asciiTable rows),
    l.length = l'.length

/-- Two lists whose tables are aligned, and different where their cells are. -/
structure Lossless (rows rows' : List EmployeeExportRow) : Prop where
  left : Aligned rows
  right : Aligned rows'
  injective : tableCells rows ≠ tableCells rows' → asciiTable rows ≠ asciiTable rows'

/-- No cell holds a line break. -/
def PlainCells (rows : List EmployeeExportRow) : Prop :=
  ∀ values ∈ tableCells rows, ∀ value ∈ values, IsPlain value

instance (rows : List EmployeeExportRow) : Decidable (PlainCells rows) :=
  inferInstanceAs (Decidable (∀ values ∈ tableCells rows, ∀ value ∈ values, IsPlain value))

/-- A cell without the spaces at its end. -/
def trimmed (value : List Char) : List Char := value.rdropWhile (· = ' ')

/-- Cells that only the spaces at their ends tell apart, in columns of the same widths. -/
structure SameLayout (rows rows' : List EmployeeExportRow) : Prop where
  widths : columnWidths (tableCells rows) = columnWidths (tableCells rows')
  cells : (tableCells rows).map (·.map trimmed) = (tableCells rows').map (·.map trimmed)

/-! ## Padding -/

theorem length_padded {value : List Char} {width : Nat} (h : value.length ≤ width) :
    (padded value width).length = width := by
  simp [padded]
  omega

/-- A text is its trimmed text and then spaces. -/
theorem trimmed_append (value : List Char) :
    value = trimmed value ++ List.replicate (value.length - (trimmed value).length) ' ' := by
  have hspaces : ∀ c ∈ value.rtakeWhile (· = ' '), c = ' ' := fun c hc => by
    simpa using List.mem_rtakeWhile_imp hc
  have hsplit : trimmed value ++ value.rtakeWhile (· = ' ') = value :=
    List.rdropWhile_append_rtakeWhile
  have hlength : (value.rtakeWhile (· = ' ')).length = value.length - (trimmed value).length := by
    have := congrArg List.length hsplit
    simp only [List.length_append] at this
    omega
  rw [← hlength, ← List.eq_replicate_of_mem hspaces, hsplit]

theorem length_trimmed (value : List Char) : (trimmed value).length ≤ value.length :=
  (List.rdropWhile_prefix _ _).length_le

/-- Padding does not see the spaces at the end. -/
theorem padded_eq {value : List Char} {width : Nat} (h : value.length ≤ width) :
    padded value width =
      trimmed value ++ List.replicate (width - (trimmed value).length) ' ' := by
  have hle := length_trimmed value
  have hsum : width - (trimmed value).length =
      value.length - (trimmed value).length + (width - value.length) := by omega
  rw [hsum, List.replicate_add, ← List.append_assoc, ← trimmed_append, padded]

theorem trimmed_append_spaces (value : List Char) (n : Nat) :
    trimmed (value ++ List.replicate n ' ') = trimmed value := by
  induction n with
  | zero => simp
  | succ n ih =>
    rw [List.replicate_succ', ← List.append_assoc, trimmed, List.rdropWhile_concat_pos _ _ _ rfl]
    exact ih

theorem padded_eq_iff {value value' : List Char} {width : Nat} (h : value.length ≤ width)
    (h' : value'.length ≤ width) :
    padded value width = padded value' width ↔ trimmed value = trimmed value' := by
  constructor
  · intro heq
    have := congrArg trimmed heq
    rwa [padded, padded, trimmed_append_spaces, trimmed_append_spaces] at this
  · intro heq
    rw [padded_eq h, padded_eq h', heq]

/-! ## The widths -/

/-- Every value fits its column. -/
def Fits (widths : List Nat) (values : List (List Char)) : Prop :=
  List.Forall₂ (fun width value => value.length ≤ width) widths values

theorem fits_widen {widths : List Nat} {values : List (List Char)}
    (h : values.length = widths.length) : Fits (widen widths values) values := by
  induction widths generalizing values with
  | nil =>
    rw [List.length_eq_zero_iff.mp h]
    exact List.Forall₂.nil
  | cons width widths ih =>
    cases values with
    | nil => cases h
    | cons value values =>
      exact List.Forall₂.cons (Nat.le_max_right _ _) (ih (by simpa using h))

theorem Fits.widen {widths : List Nat} {values values' : List (List Char)} (h : Fits widths values)
    (hlength : values'.length = widths.length) : Fits (widen widths values') values := by
  induction h generalizing values' with
  | nil =>
    rw [List.length_eq_zero_iff.mp hlength]
    exact List.Forall₂.nil
  | cons hle _ ih =>
    cases values' with
    | nil => cases hlength
    | cons value' values' =>
      exact List.Forall₂.cons (hle.trans (Nat.le_max_left _ _)) (ih (by simpa using hlength))

theorem length_widen {widths : List Nat} {values : List (List Char)}
    (h : values.length = widths.length) : (widen widths values).length = widths.length := by
  simp [Exports.widen, h]

/-- What fits before a run of rows fits after it, and so does each row. -/
theorem fits_foldl (body : List (List (List Char))) (widths : List Nat)
    (h : ∀ values ∈ body, values.length = widths.length) :
    (body.foldl widen widths).length = widths.length ∧
      (∀ values, Fits widths values → Fits (body.foldl widen widths) values) ∧
      ∀ values ∈ body, Fits (body.foldl widen widths) values := by
  induction body generalizing widths with
  | nil => simp
  | cons first body ih =>
    have hfirst : first.length = widths.length := h first (by simp)
    have hlength := length_widen hfirst
    obtain ⟨hlen, hkept, hrows⟩ := ih (Exports.widen widths first) fun values hv => by
      rw [hlength]
      exact h values (by simp [hv])
    refine ⟨hlen.trans hlength, fun values hv => hkept _ (hv.widen hfirst), ?_⟩
    intro values hv
    rcases List.mem_cons.mp hv with rfl | hv
    · exact hkept _ (fits_widen hfirst)
    · exact hrows values hv

theorem EmployeeExportRow.length_cells (row : EmployeeExportRow) : row.cells.length = 7 := rfl

variable (rows rows' : List EmployeeExportRow)

theorem length_of_mem_tableCells {values : List (List Char)} (h : values ∈ tableCells rows) :
    values.length = 7 := by
  obtain ⟨row, -, rfl⟩ := List.mem_map.mp h
  exact row.length_cells

theorem fits_columnWidths : (columnWidths (tableCells rows)).length = 7 ∧
    Fits (columnWidths (tableCells rows)) headers ∧
    ∀ values ∈ tableCells rows, Fits (columnWidths (tableCells rows)) values := by
  obtain ⟨hlength, hkept, hrows⟩ := fits_foldl (tableCells rows) (headers.map List.length)
    fun values hv => length_of_mem_tableCells rows hv
  refine ⟨hlength, hkept headers ?_, hrows⟩
  rw [Fits, List.forall₂_map_left_iff]
  exact List.forall₂_same.mpr fun _ _ => le_rfl

/-! ## Lines and cells -/

section Framed

variable {separator : Char} {cells cells' : List (List Char)}

theorem framed_eq (h : cells ≠ []) :
    framed separator cells = cells.flatMap (separator :: ·) ++ [separator] := by
  have hjoin : ∀ first rest, [separator] ++ [separator].intercalate (first :: rest) =
      (first :: rest).flatMap (separator :: ·) := by
    intro first rest
    induction rest generalizing first with
    | nil => simp
    | cons second rest ih =>
      rw [List.intercalate_cons_cons, List.flatMap_cons, ← ih second]
      simp
  obtain ⟨first, rest, rfl⟩ := List.exists_cons_of_ne_nil h
  rw [framed, hjoin]

theorem length_framed (h : cells ≠ []) :
    (framed separator cells).length = (cells.map List.length).sum + cells.length + 1 := by
  rw [framed_eq h]
  have : ∀ l : List (List Char),
      (l.flatMap (separator :: ·)).length = (l.map List.length).sum + l.length := by
    intro l
    induction l with
    | nil => rfl
    | cons cell l ih => simp [ih]; omega
  simp [this]

/-- Cells of known lengths come back from their frame. -/
theorem framed_injective (hlengths : cells.map List.length = cells'.map List.length)
    (h : framed separator cells = framed separator cells') : cells = cells' := by
  have hflat : ∀ l l' : List (List Char), l.map List.length = l'.map List.length →
      l.flatMap (separator :: ·) = l'.flatMap (separator :: ·) → l = l' := by
    intro l
    induction l with
    | nil =>
      intro l' hlengths _
      simpa using hlengths.symm
    | cons cell l ih =>
      intro l' hlengths heq
      cases l' with
      | nil => simp at hlengths
      | cons cell' l' =>
        simp only [List.map_cons, List.cons.injEq] at hlengths
        simp only [List.flatMap_cons, List.cons_append, List.cons.injEq, true_and] at heq
        obtain ⟨hcell, hrest⟩ := List.append_inj heq hlengths.1
        rw [hcell, ih l' hlengths.2 hrest]
  rcases eq_or_ne cells [] with rfl | hne
  · simpa using hlengths.symm
  · have hne' : cells' ≠ [] := by
      rintro rfl
      exact hne (by simpa using hlengths)
    rw [framed_eq hne, framed_eq hne'] at h
    exact hflat cells cells' hlengths (List.append_cancel_right h)

theorem isPlain_framed (hseparator : isLineBreak separator = false) (h : cells ≠ []) :
    IsPlain (framed separator cells) ↔ ∀ cell ∈ cells, IsPlain cell := by
  rw [framed_eq h]
  constructor
  · intro hplain cell hcell c hc
    apply hplain c
    exact List.mem_append_left _ (List.mem_flatMap.mpr ⟨cell, hcell, List.mem_cons_of_mem _ hc⟩)
  · intro hplain c hc
    simp only [List.mem_append, List.mem_flatMap, List.mem_cons,
      List.not_mem_nil, or_false] at hc
    rcases hc with ⟨cell, hcell, rfl | hc⟩ | rfl
    · exact hseparator
    · exact hplain cell hcell c hc
    · exact hseparator

end Framed

/-- The border shows the widths. -/
theorem border_injective {widths widths' : List Nat} (hne : widths ≠ []) (hne' : widths' ≠ [])
    (h : border widths = border widths') : widths = widths' := by
  have hsplit : ∀ ws : List Nat, ws ≠ [] → ((['+'].intercalate
      (ws.map fun width => List.replicate (width + 2) '-')).splitOn '+') =
      ws.map fun width => List.replicate (width + 2) '-' := by
    intro ws hws
    apply List.splitOn_intercalate
    · intro dashes hdashes hplus
      obtain ⟨width, -, rfl⟩ := List.mem_map.mp hdashes
      exact absurd (List.eq_of_mem_replicate hplus) (by decide)
    · simpa using hws
  have hjoin := List.append_cancel_left (List.append_cancel_right h)
  have hdashes := congrArg (List.splitOn '+') hjoin
  rw [hsplit widths hne, hsplit widths' hne'] at hdashes
  exact (List.map_injective_iff.mpr fun m n hmn => by
    simpa using congrArg List.length hmn) hdashes

/-- The cells of a line, padded. -/
def paddedCells (widths : List Nat) (values : List (List Char)) : List (List Char) :=
  values.zipWith (fun value width => ' ' :: padded value width ++ [' ']) widths

theorem paddedCells_cons (width : Nat) (widths : List Nat) (value : List Char)
    (values : List (List Char)) : paddedCells (width :: widths) (value :: values) =
      (' ' :: padded value width ++ [' ']) :: paddedCells widths values := rfl

theorem Fits.lengths {widths : List Nat} {values : List (List Char)} (h : Fits widths values) :
    (paddedCells widths values).map List.length = widths.map (· + 2) := by
  induction h with
  | nil => rfl
  | cons hle _ ih =>
    rw [paddedCells_cons, List.map_cons, ih]
    simp [length_padded hle]

theorem Fits.paddedCells_eq_iff {widths : List Nat} {values values' : List (List Char)}
    (h : Fits widths values) (h' : Fits widths values') :
    paddedCells widths values = paddedCells widths values' ↔
      values.map trimmed = values'.map trimmed := by
  induction h generalizing values' with
  | nil => cases h'; simp [paddedCells]
  | cons hle _ ih =>
    cases h' with
    | cons hle' h' =>
      rw [paddedCells_cons, paddedCells_cons, List.cons.injEq, ih h']
      simp [padded_eq_iff hle hle']

theorem Fits.paddedCells_plain {widths : List Nat} {values : List (List Char)}
    (h : Fits widths values) :
    (∀ cell ∈ paddedCells widths values, IsPlain cell) ↔ ∀ value ∈ values, IsPlain value := by
  induction h with
  | nil => simp [paddedCells]
  | @cons width value _ _ _ _ ih =>
    have hcell : IsPlain (' ' :: padded value width ++ [' ']) ↔ IsPlain value := by
      have hspace : isLineBreak ' ' = false := by decide
      simp [padded, IsPlain, or_imp, forall_and, hspace]
    rw [paddedCells_cons, List.forall_mem_cons, List.forall_mem_cons, hcell, ih]

/-! ## The lines of a table -/

theorem headers_plain : ∀ value ∈ headers, IsPlain value := by decide

theorem columnWidths_ne_nil : columnWidths (tableCells rows) ≠ [] := by
  intro h
  have := (fits_columnWidths rows).1
  rw [h] at this
  cases this

/-- What the lines of a table have in common, `plain` saying which of them hold no break. -/
structure TableLine (widths : List Nat) (plain : Prop) (l : List Char) : Prop where
  length : l.length = (widths.map (· + 2)).sum + widths.length + 1
  last : ∃ start x, l = start ++ [x] ∧ isLineBreak x = false
  plain_iff : IsPlain l ↔ plain

theorem tableLine_border {widths : List Nat} (h : widths ≠ []) :
    TableLine widths True (border widths) where
  length := by
    rw [border, length_framed (by simpa using h)]
    simp [Function.comp_def]
  last := ⟨_, '+', rfl, by decide⟩
  plain_iff := by
    rw [border, isPlain_framed (by decide) (by simpa using h)]
    simp only [List.forall_mem_map, iff_true]
    intro width _ c hc
    rw [List.eq_of_mem_replicate hc]
    decide

theorem Fits.tableLine {widths : List Nat} {values : List (List Char)} (hfits : Fits widths values)
    (h : widths ≠ []) :
    TableLine widths (∀ value ∈ values, IsPlain value) (line widths values) := by
  have hlengths := hfits.lengths
  have hne : paddedCells widths values ≠ [] := by
    intro hnil
    rw [hnil] at hlengths
    exact h (by simpa using hlengths.symm)
  constructor
  · show (framed '|' (paddedCells widths values)).length = _
    rw [length_framed hne, hlengths]
    have := congrArg List.length hlengths
    simp only [List.length_map] at this
    rw [this]
  · exact ⟨_, '|', rfl, by decide⟩
  · show IsPlain (framed '|' (paddedCells widths values)) ↔ _
    rw [isPlain_framed (by decide) hne, hfits.paddedCells_plain]

/-- Every line of a table has the length of its border and ends in a plain character. -/
theorem tableLine_of_mem {l : List Char} (h : l ∈ tableLines rows) :
    ∃ plain, TableLine (columnWidths (tableCells rows)) plain l := by
  obtain ⟨-, hheaders, hrows⟩ := fits_columnWidths rows
  have hne := columnWidths_ne_nil rows
  simp only [tableLines, List.mem_append, List.mem_cons, List.not_mem_nil, or_false,
    List.mem_map] at h
  rcases h with ((rfl | rfl | rfl) | ⟨values, hvalues, rfl⟩) | rfl
  · exact ⟨_, tableLine_border hne⟩
  · exact ⟨_, hheaders.tableLine hne⟩
  · exact ⟨_, tableLine_border hne⟩
  · exact ⟨_, (hrows values hvalues).tableLine hne⟩
  · exact ⟨_, tableLine_border hne⟩

theorem length_tableLines : (tableLines rows).length = rows.length + 4 := by
  simp [tableLines, tableCells]

/-- The lines hold no break exactly where the cells hold none. -/
theorem tableLines_plain_iff : (∀ l ∈ tableLines rows, IsPlain l) ↔ PlainCells rows := by
  obtain ⟨-, hheaders, hrows⟩ := fits_columnWidths rows
  have hne := columnWidths_ne_nil rows
  have hborder : IsPlain (border (columnWidths (tableCells rows))) :=
    (tableLine_border hne).plain_iff.mpr trivial
  have hheader : IsPlain (line (columnWidths (tableCells rows)) headers) :=
    (hheaders.tableLine hne).plain_iff.mpr headers_plain
  have hline : ∀ values ∈ tableCells rows,
      (IsPlain (line (columnWidths (tableCells rows)) values) ↔
        ∀ value ∈ values, IsPlain value) :=
    fun values hvalues => ((hrows values hvalues).tableLine hne).plain_iff
  constructor
  · intro h values hvalues
    apply (hline values hvalues).mp
    apply h
    simp only [tableLines, List.mem_append, List.mem_map]
    exact .inl (.inr ⟨values, hvalues, rfl⟩)
  · intro h l hl
    simp only [tableLines, List.mem_append, List.mem_cons, List.not_mem_nil, or_false,
      List.mem_map] at hl
    rcases hl with ((rfl | rfl | rfl) | ⟨values, hvalues, rfl⟩) | rfl
    · exact hborder
    · exact hheader
    · exact hborder
    · exact (hline values hvalues).mpr (h values hvalues)
    · exact hborder

/-- The lines of a plain table are those it was joined from. -/
theorem splitlines_asciiTable (h : PlainCells rows) :
    splitlines (asciiTable rows) = tableLines rows := by
  apply splitlines_join ((tableLines_plain_iff rows).mpr h)
  intro l hl hnil
  obtain ⟨_, htable⟩ := tableLine_of_mem rows (List.mem_of_mem_getLast? hl)
  have := htable.length
  rw [hnil] at this
  simp at this

/-- A table is aligned exactly where no cell holds a line break. -/
theorem aligned_iff : Aligned rows ↔ PlainCells rows := by
  constructor
  · intro h
    -- the count of lines leaves no room for a break within one
    have hcount : (splitlines (asciiTable rows)).length =
        ((tableLines rows).map lineBreaks).sum + (tableLines rows).length := by
      apply length_splitlines_join (by simp [tableLines])
      intro l hl
      obtain ⟨_, htable⟩ := tableLine_of_mem rows hl
      exact htable.last
    have hsum : ((tableLines rows).map lineBreaks).sum = 0 := by
      have hlines := h.count
      have htotal := length_tableLines rows
      omega
    apply (tableLines_plain_iff rows).mp
    intro l hl
    apply lineBreaks_eq_zero.mp
    exact List.sum_eq_zero_iff_forall_eq_nat.mp hsum _ (List.mem_map_of_mem hl)
  · intro h
    have hsplit := splitlines_asciiTable rows h
    constructor
    · rw [hsplit, length_tableLines]
    · intro l hl l' hl'
      rw [hsplit] at hl hl'
      obtain ⟨_, htable⟩ := tableLine_of_mem rows hl
      obtain ⟨_, htable'⟩ := tableLine_of_mem rows hl'
      rw [htable.length, htable'.length]

/-! ## Reading the cells back -/

/-- Lines of the same widths are equal where their cells are, up to the spaces at their ends. -/
theorem Fits.line_eq_iff {widths : List Nat} {values values' : List (List Char)}
    (h : Fits widths values) (h' : Fits widths values') :
    line widths values = line widths values' ↔ values.map trimmed = values'.map trimmed := by
  rw [← h.paddedCells_eq_iff h']
  constructor
  · intro heq
    exact framed_injective (h.lengths.trans h'.lengths.symm) heq
  · intro heq
    show framed '|' (paddedCells widths values) = framed '|' (paddedCells widths values')
    rw [heq]

theorem map_eq_map_iff_of_eq_iff {α β γ : Type} {f : α → β} {g : α → γ} {as bs : List α}
    (h : ∀ a ∈ as, ∀ b ∈ bs, f a = f b ↔ g a = g b) :
    as.map f = bs.map f ↔ as.map g = bs.map g := by
  induction as generalizing bs with
  | nil => simp
  | cons a as ih =>
    cases bs with
    | nil => simp
    | cons b bs =>
      have ih := ih fun a' ha' b' (hb' : b' ∈ bs) => h a' (by simp [ha']) b' (by simp [hb'])
      simp only [List.map_cons, List.cons.injEq]
      rw [h a (by simp) b (by simp), ih]

/-- The tables of two plain lists are equal where the lists have one layout. -/
theorem asciiTable_eq_iff (h : PlainCells rows) (h' : PlainCells rows') :
    asciiTable rows = asciiTable rows' ↔ SameLayout rows rows' := by
  have hbody : columnWidths (tableCells rows) = columnWidths (tableCells rows') →
      ((tableCells rows).map (line (columnWidths (tableCells rows))) =
          (tableCells rows').map (line (columnWidths (tableCells rows))) ↔
        (tableCells rows).map (·.map trimmed) = (tableCells rows').map (·.map trimmed)) := by
    intro hwidths
    apply map_eq_map_iff_of_eq_iff
    intro values hvalues values' hvalues'
    have hfits' := (fits_columnWidths rows').2.2 values' hvalues'
    rw [← hwidths] at hfits'
    exact ((fits_columnWidths rows).2.2 values hvalues).line_eq_iff hfits'
  constructor
  · intro heq
    have hlines : tableLines rows = tableLines rows' := by
      rw [← splitlines_asciiTable rows h, ← splitlines_asciiTable rows' h', heq]
    simp only [tableLines, List.cons_append, List.nil_append, List.cons.injEq] at hlines
    obtain ⟨hborder, -, -, hrest⟩ := hlines
    have hwidths := border_injective (columnWidths_ne_nil rows) (columnWidths_ne_nil rows') hborder
    rw [← hwidths] at hrest
    exact ⟨hwidths, (hbody hwidths).mp (List.append_cancel_right hrest)⟩
  · intro hsame
    have hrest := (hbody hsame.widths).mpr hsame.cells
    have hlines : tableLines rows = tableLines rows' := by
      simp only [tableLines]
      rw [hrest, hsame.widths]
    rw [asciiTable, asciiTable, hlines]

/-- Tables are lossless exactly for plain lists that differ in more than the spaces at the ends of
their cells, or in a width. -/
theorem lossless_iff : Lossless rows rows' ↔
    PlainCells rows ∧ PlainCells rows' ∧
      (SameLayout rows rows' → tableCells rows = tableCells rows') := by
  constructor
  · intro h
    have hplain := (aligned_iff rows).mp h.left
    have hplain' := (aligned_iff rows').mp h.right
    refine ⟨hplain, hplain', fun hsame => ?_⟩
    by_contra hne
    exact h.injective hne ((asciiTable_eq_iff rows rows' hplain hplain').mpr hsame)
  · rintro ⟨hplain, hplain', hsame⟩
    refine ⟨(aligned_iff rows).mpr hplain, (aligned_iff rows').mpr hplain', fun hne heq => ?_⟩
    exact hne (hsame ((asciiTable_eq_iff rows rows' hplain hplain').mp heq))

section Sample

def named (firstName : String) : EmployeeExportRow where
  firstName := some firstName
  lastName := some "Rossi"
  employeeId := "1001"
  status := "active"
  contractExpiry := none
  contractType := none

/-- A space at the end of a short name is lost, and a line break in a name is a line more. -/
theorem lossless_eva :
    ¬Lossless [named "Eva"] [named "Eva "] ∧ ¬Lossless [named "Eva\nMaria"] [named "Eva"] := by
  constructor
  · intro h
    have hsame : SameLayout [named "Eva"] [named "Eva "] := ⟨by decide, by decide⟩
    exact h.injective (by decide)
      ((asciiTable_eq_iff _ _ (by decide) (by decide)).mpr hsame)
  · intro h
    exact absurd ((aligned_iff _).mp h.left) (by decide)

end Sample

end BhDic.Exports
