import BhDic.Python.Text

/-!
# Physical lines

`str.splitlines`. Lines that hold no line break come back from their join; otherwise there is one
line more for each break (`length_splitlines`).
-/

namespace BhDic.Python

/-- The characters `str.splitlines` ends a line at. -/
def isLineBreak (c : Char) : Bool :=
  let n := c.toNat
  (0x0a ≤ n && n ≤ 0x0d) || (0x1c ≤ n && n ≤ 0x1e) || n == 0x85 || n == 0x2028 || n == 0x2029

/-- A carriage return and the line feed after it end one line. -/
def isSplitReturn (c : Char) (rest : List Char) : Bool := c == '\r' && rest.head? == some '\n'

/-- `str.splitlines`, after the characters of a line that is not finished. -/
def splitlinesFrom (line : List Char) : List Char → List (List Char)
  | [] => if line = [] then [] else [line]
  | c :: rest =>
      if isSplitReturn c rest then splitlinesFrom line rest
      else if isLineBreak c then line :: splitlinesFrom [] rest
      else splitlinesFrom (line ++ [c]) rest

/-- `text.splitlines()`. -/
def splitlines (text : List Char) : List (List Char) := splitlinesFrom [] text

/-- A text without line breaks. -/
def IsPlain (text : List Char) : Prop := ∀ c ∈ text, isLineBreak c = false

instance (text : List Char) : Decidable (IsPlain text) :=
  decidable_of_iff (text.all fun c => !isLineBreak c) (by simp [IsPlain])

/-- How often `splitlines` ends a line. -/
def lineBreaks : List Char → Nat
  | [] => 0
  | c :: rest => (if isLineBreak c && !isSplitReturn c rest then 1 else 0) + lineBreaks rest

/-! ## The lines -/

theorem isSplitReturn_of_plain {c : Char} (h : isLineBreak c = false) (rest : List Char) :
    isSplitReturn c rest = false := by
  have hne : c ≠ '\r' := by
    rintro rfl
    exact absurd h (by decide)
  simp [isSplitReturn, hne]

theorem isPlain_append {s t : List Char} : IsPlain (s ++ t) ↔ IsPlain s ∧ IsPlain t := by
  simp [IsPlain, or_imp, forall_and]

theorem splitlinesFrom_plain {text : List Char} (h : IsPlain text) (line rest : List Char) :
    splitlinesFrom line (text ++ rest) = splitlinesFrom (line ++ text) rest := by
  induction text generalizing line with
  | nil => simp
  | cons c text ih =>
    have hc : isLineBreak c = false := h c (by simp)
    rw [List.cons_append, splitlinesFrom, isSplitReturn_of_plain hc]
    simp only [hc, Bool.false_eq_true, if_false]
    rw [ih fun d hd => h d (by simp [hd])]
    simp

/-- The lines hold no line breaks. -/
theorem isPlain_of_mem_splitlinesFrom {text line : List Char} (hline : IsPlain line)
    {l : List Char} (h : l ∈ splitlinesFrom line text) : IsPlain l := by
  induction text generalizing line with
  | nil =>
    rw [splitlinesFrom] at h
    split at h
    · cases h
    · rw [List.mem_singleton.mp h]
      exact hline
  | cons c text ih =>
    rw [splitlinesFrom] at h
    split at h
    · exact ih hline h
    · split at h
      · rcases List.mem_cons.mp h with rfl | h
        · exact hline
        · exact ih (by simp [IsPlain]) h
      · rename_i hc
        exact ih (isPlain_append.mpr ⟨hline, by simpa [IsPlain] using hc⟩) h

theorem isPlain_of_mem_splitlines {text l : List Char} (h : l ∈ splitlines text) : IsPlain l :=
  isPlain_of_mem_splitlinesFrom (by simp [IsPlain]) h

/-- Lines come back from their join, unless the last is empty. -/
theorem splitlines_join {lines : List (List Char)} (hplain : ∀ l ∈ lines, IsPlain l)
    (hlast : ∀ l, lines.getLast? = some l → l ≠ []) :
    splitlines (['\n'].intercalate lines) = lines := by
  induction lines with
  | nil => rfl
  | cons l lines ih =>
    have hl : IsPlain l := hplain l (by simp)
    cases lines with
    | nil =>
      have hne : l ≠ [] := hlast l rfl
      have hrun := splitlinesFrom_plain hl [] []
      simpa [splitlines, splitlinesFrom, hne] using hrun
    | cons m lines =>
      have ih := ih (fun l' hl' => hplain l' (by simp [hl']))
        fun l' hl' => hlast l' (by simpa using hl')
      rw [splitlines, List.intercalate_cons_cons, List.append_assoc, splitlinesFrom_plain hl,
        List.singleton_append, splitlinesFrom]
      show l :: splitlines (['\n'].intercalate (m :: lines)) = l :: m :: lines
      rw [ih]

/-! ## How many lines there are -/

/-- A text that does not end in a line break has one line more than it has breaks. -/
theorem length_splitlinesFrom {x : Char} (hx : isLineBreak x = false) (text line : List Char) :
    (splitlinesFrom line (text ++ [x])).length = lineBreaks (text ++ [x]) + 1 := by
  induction text generalizing line with
  | nil => simp [splitlinesFrom, lineBreaks, hx, isSplitReturn_of_plain hx]
  | cons c text ih =>
    rw [List.cons_append, splitlinesFrom, lineBreaks]
    split
    · rename_i hreturn
      simp [hreturn, ih]
    · rename_i hreturn
      split
      · rename_i hc
        simp [hreturn, hc, ih]
        omega
      · rename_i hc
        simp [hc, ih]

theorem lineBreaks_append {x : Char} (hx : isLineBreak x = false) (s t : List Char) :
    lineBreaks (s ++ x :: t) = lineBreaks s + lineBreaks t := by
  induction s with
  | nil => simp [lineBreaks, hx]
  | cons c s ih =>
    have hreturn : isSplitReturn c (s ++ x :: t) = isSplitReturn c s := by
      cases s with
      | nil =>
        have hne : x ≠ '\n' := by
          rintro rfl
          exact absurd hx (by decide)
        simp [isSplitReturn, hne]
      | cons d s => rfl
    rw [List.cons_append, lineBreaks, lineBreaks, hreturn, ih]
    omega

theorem lineBreaks_eq_zero {text : List Char} : lineBreaks text = 0 ↔ IsPlain text := by
  induction text with
  | nil => simp [lineBreaks, IsPlain]
  | cons c text ih =>
    constructor
    · intro h
      rw [lineBreaks] at h
      have htext : IsPlain text := ih.mp (by omega)
      have hc : isLineBreak c = false := by
        by_contra hbreak
        have hreturn : isSplitReturn c text = true := by
          by_contra hno
          simp [hno, hbreak] at h
        -- the line feed after a carriage return is itself a break
        cases text with
        | nil => simp [isSplitReturn] at hreturn
        | cons d text =>
          have hd : d = '\n' := by
            simp only [isSplitReturn, Bool.and_eq_true, beq_iff_eq, List.head?_cons,
              Option.some.injEq] at hreturn
            exact hreturn.2
          exact absurd (htext d (by simp)) (by rw [hd]; decide)
      simpa [IsPlain, hc] using htext
    · intro h
      have hc : isLineBreak c = false := h c (by simp)
      rw [lineBreaks, ih.mpr fun d hd => h d (by simp [hd])]
      simp [hc]

/-- What the lines of a join add up to, when each of them ends in a plain character. -/
theorem lineBreaks_join {lines : List (List Char)}
    (hlast : ∀ l ∈ lines, ∃ start x, l = start ++ [x] ∧ isLineBreak x = false) :
    lineBreaks (['\n'].intercalate lines) + 1 =
      (lines.map lineBreaks).sum + max 1 lines.length := by
  induction lines with
  | nil => rfl
  | cons l lines ih =>
    obtain ⟨start, x, rfl, hx⟩ := hlast l (by simp)
    cases lines with
    | nil => simp
    | cons m lines =>
      have ih := ih fun l' hl' => hlast l' (by simp [hl'])
      have hjoin : ['\n'].intercalate ((start ++ [x]) :: m :: lines) =
          start ++ x :: '\n' :: ['\n'].intercalate (m :: lines) := by
        simp [List.intercalate_cons_cons]
      have hfeed : lineBreaks ('\n' :: ['\n'].intercalate (m :: lines)) =
          1 + lineBreaks (['\n'].intercalate (m :: lines)) := rfl
      rw [hjoin, lineBreaks_append hx, hfeed]
      have hstart : lineBreaks (start ++ [x]) = lineBreaks start := by
        rw [lineBreaks_append hx]
        rfl
      simp only [List.map_cons, List.sum_cons, List.length_cons] at ih ⊢
      rw [hstart]
      omega

/-- A join ends as its last line does. -/
theorem join_last {lines : List (List Char)} (hne : lines ≠ [])
    (hlast : ∀ l ∈ lines, ∃ start x, l = start ++ [x] ∧ isLineBreak x = false) :
    ∃ start x, ['\n'].intercalate lines = start ++ [x] ∧ isLineBreak x = false := by
  induction lines with
  | nil => exact absurd rfl hne
  | cons l lines ih =>
    cases lines with
    | nil =>
      rw [List.intercalate_singleton]
      exact hlast l (by simp)
    | cons m lines =>
      obtain ⟨start, x, hjoin, hx⟩ := ih (by simp) fun l' hl' => hlast l' (by simp [hl'])
      refine ⟨l ++ '\n' :: start, x, ?_, hx⟩
      rw [List.intercalate_cons_cons, hjoin]
      simp

/-- The lines a text is joined from, and one more for each break within one of them. -/
theorem length_splitlines_join {lines : List (List Char)} (hne : lines ≠ [])
    (hlast : ∀ l ∈ lines, ∃ start x, l = start ++ [x] ∧ isLineBreak x = false) :
    (splitlines (['\n'].intercalate lines)).length =
      (lines.map lineBreaks).sum + lines.length := by
  obtain ⟨start, x, hjoin, hx⟩ := join_last hne hlast
  have hcount := length_splitlinesFrom hx start []
  have hbreaks := lineBreaks_join hlast
  rw [← hjoin] at hcount
  have hpos : 0 < lines.length := List.length_pos_of_ne_nil hne
  rw [splitlines, hcount, hbreaks]
  omega

end BhDic.Python
