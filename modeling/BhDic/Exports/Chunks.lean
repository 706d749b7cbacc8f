import BhDic.Exports.Tables

/-!
# A table in messages

`split_ascii_for_discord` packs the lines of a table into code blocks. It leaves eight characters
for the fence, which takes twelve and saves one line feed; so a block can be three characters too
long, and the messages are right exactly where no run of lines fills those three (`splits_iff`).
-/

namespace BhDic.Exports

open BhDic.Python

def exportGenerationError (message : String) : Exn := ⟨.foreign "ExportGenerationError", message⟩

def fenceOpen : List Char := "```text\n".toList

def fenceClose : List Char := "\n```".toList

/-- A code block around a body. -/
def codeBlock (body : List Char) : List Char := fenceOpen ++ body ++ fenceClose

/-- The lines that are packed: the finished chunks, the current one and its size. -/
structure Packing where
  chunks : List (List (List Char)) := []
  current : List (List Char) := []
  currentSize : Nat := 0

/-- The body of the loop. -/
def packLine (maximum : Nat) (p : Packing) (line : List Char) : Except Exn Packing := do
  ensure (line.length + 1 ≤ maximum - 8)
    (exportGenerationError "one table row exceeds the Discord message limit")
  let addition := line.length + 1
  if p.current ≠ [] ∧ maximum - 8 < p.currentSize + addition then
    return ⟨p.chunks ++ [p.current], [line], addition⟩
  else return ⟨p.chunks, p.current ++ [line], p.currentSize + addition⟩

/-- The chunks once the lines are packed. -/
def Packing.all (p : Packing) : List (List (List Char)) :=
  if p.current = [] then p.chunks else p.chunks ++ [p.current]

/-- `split_ascii_for_discord`. -/
def splitAsciiForDiscord (table : List Char) (maximum : Nat) : Except Exn (List (List Char)) := do
  ensure (256 ≤ maximum) ⟨.valueError, "Discord table chunk limit is too small"⟩
  let p ← (splitlines table).foldlM (packLine maximum) {}
  return p.all.map fun chunk => codeBlock (['\n'].intercalate chunk)

/-! ## What is asked of it -/

/-- Messages within the limit whose bodies, read line by line, are the lines of the table. -/
structure Splits (maximum : Nat) (table : List Char) (messages : List (List Char)) : Prop where
  bounded : ∀ message ∈ messages, message.length ≤ maximum
  lines : ∃ bodies : List (List Char), messages = bodies.map codeBlock ∧
    bodies.flatMap (List.splitOn '\n') = splitlines table

/-- The table is split, or has a line that is too long for any message. -/
def SplitsOrRejects (maximum : Nat) (table : List Char) : Prop :=
  match splitAsciiForDiscord table maximum with
  | .ok messages => Splits maximum table messages
  | .error _ => ∃ line ∈ splitlines table, maximum < (codeBlock line).length

/-- What lines take when each is followed by a line feed. -/
def size (lines : List (List Char)) : Nat := (lines.map fun line => line.length + 1).sum

/-- A run of lines fills the room from the front of the lines: it fits, and it would not with the
next line. -/
structure Fills (room : Nat) (run rest : List (List Char)) : Prop where
  nonempty : run ≠ []
  fits : size run ≤ room
  full : ∀ line after, rest = line :: after → room < size run + (line.length + 1)

/-- The runs that fill the room one after another. -/
inductive FilledRuns (room : Nat) : List (List Char) → List (List (List Char)) → Prop
  | nil : FilledRuns room [] []
  | cons {run rest runs} : Fills room run rest → FilledRuns room rest runs →
      FilledRuns room (run ++ rest) (run :: runs)

/-- Some line is too long for the room, or no run that fills it comes within three characters of
its end. -/
def LeavesThree (room : Nat) (lines : List (List Char)) : Prop :=
  (∃ line ∈ lines, room < line.length + 1) ∨
    ∀ runs, FilledRuns room lines runs → ∀ run ∈ runs, size run + 3 ≤ room

/-! ## The runs -/

@[simp] theorem size_append (lines lines' : List (List Char)) :
    size (lines ++ lines') = size lines + size lines' := by simp [size]

theorem size_cons (line : List Char) (lines : List (List Char)) :
    size (line :: lines) = line.length + 1 + size lines := by simp [size]

@[simp] theorem size_singleton (line : List Char) : size [line] = line.length + 1 := by simp [size]

/-- Two runs that fill the room from the same lines are the same run. -/
theorem Fills.unique {room : Nat} {run rest run' rest' : List (List Char)} (h : Fills room run rest)
    (h' : Fills room run' rest') (heq : run ++ rest = run' ++ rest') :
    run = run' ∧ rest = rest' := by
  have hshort : ∀ {run rest run' rest' : List (List Char)}, Fills room run rest →
      Fills room run' rest' → run ++ rest = run' ++ rest' → ∀ more, run' = run ++ more →
      more = [] := by
    intro run rest run' rest' h h' heq more hmore
    cases more with
    | nil => rfl
    | cons line after =>
      -- the longer run holds the line that did not fit the shorter one
      rw [hmore, List.append_assoc, List.append_cancel_left_eq] at heq
      have hfull := h.full line (after ++ rest') heq
      have hfits := h'.fits
      rw [hmore, ← List.singleton_append, size_append, size_append, size_singleton] at hfits
      omega
  rcases List.append_eq_append_iff.mp heq with ⟨more, hrun, -⟩ | ⟨more, hrun, -⟩
  · have hnil := hshort h h' heq more hrun
    have hruns : run = run' := by rw [hrun, hnil, List.append_nil]
    exact ⟨hruns, List.append_cancel_left (hruns ▸ heq)⟩
  · have hnil := hshort h' h heq.symm more hrun
    have hruns : run = run' := by rw [hrun, hnil, List.append_nil]
    exact ⟨hruns, List.append_cancel_left (hruns ▸ heq)⟩

theorem FilledRuns.unique {room : Nat} {lines : List (List Char)}
    {runs runs' : List (List (List Char))} (h : FilledRuns room lines runs)
    (h' : FilledRuns room lines runs') : runs = runs' := by
  induction h generalizing runs' with
  | nil =>
    generalize hlines : ([] : List (List Char)) = lines at h'
    cases h' with
    | nil => rfl
    | cons hfills _ =>
      exact absurd (List.append_eq_nil_iff.mp hlines.symm).1 hfills.nonempty
  | @cons run rest runs hfills _ ih =>
    generalize hlines : run ++ rest = lines at h'
    cases h' with
    | nil => exact absurd (List.append_eq_nil_iff.mp hlines).1 hfills.nonempty
    | cons hfills' hrest' =>
      obtain ⟨rfl, rfl⟩ := hfills.unique hfills' hlines
      rw [ih hrest']

theorem FilledRuns.flatten {room : Nat} {lines : List (List Char)}
    {runs : List (List (List Char))} (h : FilledRuns room lines runs) : runs.flatten = lines := by
  induction h with
  | nil => rfl
  | cons _ _ ih => rw [List.flatten_cons, ih]

theorem FilledRuns.nonempty {room : Nat} {lines : List (List Char)}
    {runs : List (List (List Char))} (h : FilledRuns room lines runs) : ∀ run ∈ runs, run ≠ [] := by
  induction h with
  | nil => simp
  | cons hfills _ ih => exact List.forall_mem_cons.mpr ⟨hfills.nonempty, ih⟩

/-! ## The loop packs filled runs -/

/-- Packing from a current chunk that fits: the chunks grow by the runs that fill the room from the
current chunk and the lines. -/
theorem foldlM_packLine {maximum : Nat} {lines : List (List Char)}
    (hlines : ∀ line ∈ lines, line.length + 1 ≤ maximum - 8) (chunks : List (List (List Char)))
    (current : List (List Char)) (hcurrent : size current ≤ maximum - 8) :
    ∃ p runs, lines.foldlM (packLine maximum) ⟨chunks, current, size current⟩ = .ok p ∧
      FilledRuns (maximum - 8) (current ++ lines) runs ∧ p.all = chunks ++ runs := by
  induction lines generalizing chunks current with
  | nil =>
    rcases eq_or_ne current [] with rfl | hne
    · exact ⟨_, [], rfl, FilledRuns.nil, by simp [Packing.all]⟩
    · refine ⟨_, [current], rfl, ?_, by simp [Packing.all, hne]⟩
      exact FilledRuns.cons ⟨hne, hcurrent, by simp⟩ FilledRuns.nil
  | cons line lines ih =>
    have hline : line.length + 1 ≤ maximum - 8 := hlines line (by simp)
    have ih := ih fun l hl => hlines l (by simp [hl])
    rw [List.foldlM_cons]
    by_cases hfull : current ≠ [] ∧ maximum - 8 < size current + (line.length + 1)
    · obtain ⟨p, runs, hrun, hruns, hall⟩ := ih (chunks ++ [current]) [line] (by simpa using hline)
      refine ⟨p, current :: runs, ?_, ?_, by simp [hall]⟩
      · have hstep : packLine maximum ⟨chunks, current, size current⟩ line =
            .ok ⟨chunks ++ [current], [line], size [line]⟩ := by
          simp [packLine, ensure, hline, hfull]
        rw [hstep]
        exact hrun
      · refine FilledRuns.cons ⟨hfull.1, hcurrent, ?_⟩ hruns
        intro next after hnext
        cases hnext
        exact hfull.2
    · have hfits : size (current ++ [line]) ≤ maximum - 8 := by
        rw [size_append, size_singleton]
        by_contra hlarge
        have hnil : current = [] := by
          by_contra hne
          exact hfull ⟨hne, by omega⟩
        rw [hnil] at hlarge
        simp [size] at hlarge
        omega
      obtain ⟨p, runs, hrun, hruns, hall⟩ := ih chunks (current ++ [line]) hfits
      refine ⟨p, runs, ?_, by simpa using hruns, hall⟩
      have hstep : packLine maximum ⟨chunks, current, size current⟩ line =
          .ok ⟨chunks, current ++ [line], size (current ++ [line])⟩ := by
        simp only [packLine, ensure, hline, if_true]
        show (if _ then _ else _) = _
        rw [if_neg hfull, size_append, size_singleton]
        rfl
      rw [hstep]
      exact hrun

/-- A line that does not fit the room is refused. -/
theorem foldlM_packLine_error {maximum : Nat} {lines : List (List Char)} {line : List Char}
    (hline : line ∈ lines) (hlong : maximum - 8 < line.length + 1) (p : Packing) :
    ∃ e, lines.foldlM (packLine maximum) p = .error e := by
  induction lines generalizing p with
  | nil => cases hline
  | cons first lines ih =>
    rw [List.foldlM_cons]
    cases hstep : packLine maximum p first with
    | error e => exact ⟨e, rfl⟩
    | ok p' =>
      rcases List.mem_cons.mp hline with rfl | hline
      · have hnot : ¬line.length + 1 ≤ maximum - 8 := by omega
        simp [packLine, ensure, hnot] at hstep
      · exact ih hline p'

/-! ## The messages -/

theorem length_codeBlock (body : List Char) : (codeBlock body).length = body.length + 12 := by
  have hopen : fenceOpen.length = 8 := by decide
  have hclose : fenceClose.length = 4 := by decide
  rw [codeBlock, List.length_append, List.length_append, hopen, hclose]
  omega

/-- The lines of a run, joined, take one line feed less than its size. -/
theorem length_join {run : List (List Char)} (h : run ≠ []) :
    (['\n'].intercalate run).length + 1 = size run := by
  induction run with
  | nil => exact absurd rfl h
  | cons line run ih =>
    cases run with
    | nil => simp [size]
    | cons next run =>
      have ih := ih (by simp)
      rw [List.intercalate_cons_cons, size_cons, ← ih]
      simp
      omega

/-- The bodies of runs of lines, read line by line, are the lines. -/
theorem flatMap_splitOn_join {runs : List (List (List Char))} (hne : ∀ run ∈ runs, run ≠ [])
    (hplain : ∀ line ∈ runs.flatten, IsPlain line) :
    (runs.map (['\n'].intercalate ·)).flatMap (List.splitOn '\n') = runs.flatten := by
  induction runs with
  | nil => rfl
  | cons run runs ih =>
    have hrun : (['\n'].intercalate run).splitOn '\n' = run := by
      apply List.splitOn_intercalate _ _ (hne run (by simp))
      intro line hline hfeed
      have hbreak := hplain line (by simp [hline]) '\n' hfeed
      exact absurd hbreak (by decide)
    have ih := ih (fun run' hrun' => hne run' (by simp [hrun'])) fun line hline =>
      hplain line (by simp only [List.flatten_cons, List.mem_append]; exact .inr hline)
    rw [List.map_cons, List.flatMap_cons, hrun, ih, List.flatten_cons]

/-- What the code makes of lines that fit the room. -/
theorem splitAsciiForDiscord_eq {maximum : Nat} (hmaximum : 256 ≤ maximum) {table : List Char}
    (hlines : ∀ line ∈ splitlines table, line.length + 1 ≤ maximum - 8) :
    ∃ runs, FilledRuns (maximum - 8) (splitlines table) runs ∧
      splitAsciiForDiscord table maximum =
        .ok (runs.map fun run => codeBlock (['\n'].intercalate run)) := by
  obtain ⟨p, runs, hrun, hruns, hall⟩ := foldlM_packLine hlines [] [] (by simp [size])
  have hrun : (splitlines table).foldlM (packLine maximum) {} = .ok p := hrun
  refine ⟨runs, by simpa using hruns, ?_⟩
  rw [List.nil_append] at hall
  rw [splitAsciiForDiscord, ensure, if_pos hmaximum, hrun, ← hall]
  rfl

/-- Messages made of the runs that fill the room split the table where none of the runs comes
within three characters of its end. -/
theorem splits_runs_iff {maximum : Nat} (hmaximum : 256 ≤ maximum) {table : List Char}
    {runs : List (List (List Char))} (hruns : FilledRuns (maximum - 8) (splitlines table) runs) :
    Splits maximum table (runs.map fun run => codeBlock (['\n'].intercalate run)) ↔
      ∀ run ∈ runs, size run + 3 ≤ maximum - 8 := by
  have hlength : ∀ run ∈ runs,
      (codeBlock (['\n'].intercalate run)).length = size run + 11 := by
    intro run hrun
    rw [length_codeBlock, ← length_join (hruns.nonempty run hrun)]
  constructor
  · intro h run hrun
    have hle := h.bounded _ (List.mem_map_of_mem hrun)
    rw [hlength run hrun] at hle
    omega
  · intro h
    constructor
    · intro message hmessage
      obtain ⟨run, hrun, rfl⟩ := List.mem_map.mp hmessage
      have := h run hrun
      rw [hlength run hrun]
      omega
    · refine ⟨runs.map (['\n'].intercalate ·), by simp, ?_⟩
      rw [flatMap_splitOn_join hruns.nonempty, hruns.flatten]
      intro line hline
      rw [hruns.flatten] at hline
      exact isPlain_of_mem_splitlines hline

/-- The messages are right exactly where a line is too long for the room, or no run that fills it
comes within three characters of its end. -/
theorem splits_iff (maximum : Nat) (hmaximum : 256 ≤ maximum) (table : List Char) :
    SplitsOrRejects maximum table ↔ LeavesThree (maximum - 8) (splitlines table) := by
  by_cases hlong : ∃ line ∈ splitlines table, maximum - 8 < line.length + 1
  · obtain ⟨line, hline, hlength⟩ := hlong
    obtain ⟨e, he⟩ := foldlM_packLine_error hline hlength {}
    have hsplit : splitAsciiForDiscord table maximum = .error e := by
      rw [splitAsciiForDiscord, ensure, if_pos hmaximum, he]
      rfl
    constructor
    · intro _
      exact .inl ⟨line, hline, hlength⟩
    · intro _
      rw [SplitsOrRejects, hsplit]
      refine ⟨line, hline, ?_⟩
      rw [length_codeBlock]
      omega
  · have hlines : ∀ line ∈ splitlines table, line.length + 1 ≤ maximum - 8 := by
      intro line hline
      by_contra hlength
      exact hlong ⟨line, hline, by omega⟩
    obtain ⟨runs, hruns, hsplit⟩ := splitAsciiForDiscord_eq hmaximum hlines
    rw [SplitsOrRejects, hsplit]
    show Splits maximum table _ ↔ _
    rw [splits_runs_iff hmaximum hruns]
    constructor
    · intro h
      apply Or.inr
      intro runs' hruns' run hrun
      rw [hruns'.unique hruns] at hrun
      exact h run hrun
    · rintro (h | h)
      · exact absurd h hlong
      · exact h runs hruns

section Sample

/-- A short table is split at the least limit. -/
theorem splits_short : SplitsOrRejects 256 "a\nb".toList ↔
    LeavesThree 248 (splitlines "a\nb".toList) :=
  splits_iff 256 (by decide) _

/-- One line of 247 characters makes a message of 259. -/
theorem splits_longLine : ¬SplitsOrRejects 256 (List.replicate 247 'x') := by
  have hlong : ∀ line : List Char, IsPlain line → line.length = 247 →
      ¬SplitsOrRejects 256 line := by
    intro line hplain hlength h
    have hne : line ≠ [] := List.ne_nil_of_length_pos (by omega)
    have hlines : splitlines line = [line] := by
      have hjoin : splitlines (['\n'].intercalate [line]) = [line] :=
        splitlines_join (by simpa using hplain) (by simpa using hne)
      rwa [List.intercalate_singleton] at hjoin
    have hfits : line.length + 1 ≤ 256 - 8 := by omega
    have hsplit : splitAsciiForDiscord line 256 = .ok [codeBlock line] := by
      rw [splitAsciiForDiscord, hlines]
      simp [ensure, packLine, hfits, Packing.all]
    rw [SplitsOrRejects, hsplit] at h
    have hbounded := Splits.bounded h (codeBlock line) (by simp)
    rw [length_codeBlock] at hbounded
    omega
  apply hlong
  · intro c hc
    rw [List.eq_of_mem_replicate hc]
    decide
  · exact List.length_replicate

end Sample

end BhDic.Exports
