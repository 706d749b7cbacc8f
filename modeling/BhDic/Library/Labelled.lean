import BhDic.Library.Trace

/-!
# Calls with the name of their caller

In a log of many programs it matters who made a call. Labelling a program puts its label on each of
its calls; what is promised or permitted may then depend on the caller, and the answers one program
got are read off a common log.
-/

namespace BhDic.Library

/-- The calls of `E`, each with the label of the program that makes it. -/
abbrev Effect.labelled (E : Effect) (L : Type) : Effect := ⟨L × E.Op, fun o => E.Ans o.2⟩

namespace Prog

variable {E : Effect} {ε α L K : Type}

/-- A program with its label on every call. -/
def label (l : L) : Prog E ε α → Prog (E.labelled L) ε α
  | .pure a => .pure a
  | .throw e => .throw e
  | .call o k => .call (l, o) fun a => label l (k a)

/-- What a discipline on labelled calls asks of the calls of one label. -/
def Discipline.at (D : Discipline (E.labelled L) K) (l : L) : Discipline E K where
  permits k o := D.permits k (l, o)
  promises o a := D.promises (l, o) a
  learn k o a := D.learn k (l, o) a

theorem guarded_label {D : Discipline (E.labelled L) K} {l : L} {p : Prog E ε α}
    {Q : Except ε α → K → Prop} {k : K} :
    Guarded D (p.label l) Q k ↔ Guarded (D.at l) p Q k := by
  induction p generalizing k with
  | pure a => rfl
  | throw e => rfl
  | call o c ih => exact and_congr Iff.rfl (forall_congr' fun a => imp_congr Iff.rfl (ih a))

/-- The answers that the program of one label got. -/
def answersOf [DecidableEq L] (l : L) (log : List (E.labelled L).Answered) : List E.Answered :=
  log.filterMap fun x => if x.1.1 = l then some ⟨x.1.2, x.2⟩ else none

theorem mem_answersOf [DecidableEq L] {l : L} {log : List (E.labelled L).Answered}
    {o : E.Op} {a : E.Ans o} :
    (⟨o, a⟩ : E.Answered) ∈ answersOf l log ↔ (⟨(l, o), a⟩ : (E.labelled L).Answered) ∈ log := by
  simp only [answersOf, List.mem_filterMap]
  constructor
  · rintro ⟨⟨⟨l', o'⟩, a'⟩, hmem, h⟩
    split at h
    · rename_i hl
      cases hl
      cases h
      exact hmem
    · cases h
  · intro hmem
    exact ⟨_, hmem, by simp⟩

end Prog

end BhDic.Library
