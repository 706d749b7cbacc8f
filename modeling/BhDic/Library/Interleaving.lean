import BhDic.Library.Prog
import Mathlib.Data.List.Forall2

/-!
# Interleaved programs over one shared state

Any number of programs run at once. At each step a new one starts, one of those running makes its
next call, or one stops for good between two calls. The calls are atomic; their effect on the
shared state is a relation, so an environment may answer in several ways.

`Reachable.invariant` is the rule for invariants of all interleavings. Each running program carries
(in the proof only) the knowledge its `Discipline` gives it, and the invariant may speak of the
knowledge of all of them at once.
-/

namespace BhDic.Library

open Prog

/-- What is shared by all interleavings of one system: the program each label starts, and what a
call may answer and do to the shared state. -/
structure System (E : Effect) (ε α L σ : Type) where
  body : L → Prog E ε α
  exec : (o : E.Op) → σ → E.Ans o → σ → Prop

/-- The shared state, every label started so far, and the programs still running. -/
structure Config (E : Effect) (ε α L σ : Type) where
  shared : σ
  started : List L
  tasks : List (Prog E ε α)

variable {E : Effect} {ε α L σ : Type} {S : System E ε α L σ}

/-- One step of the system. `crash` drops a program at whatever call it had reached. -/
inductive Step (S : System E ε α L σ) : Config E ε α L σ → Config E ε α L σ → Prop
  | start (l : L) (s : σ) (ls : List L) (ts : List (Prog E ε α)) :
      Step S ⟨s, ls, ts⟩ ⟨s, ls ++ [l], ts ++ [S.body l]⟩
  | call (s s' : σ) (ls : List L) (ts₁ ts₂ : List (Prog E ε α)) (o : E.Op)
      (k : E.Ans o → Prog E ε α) (a : E.Ans o) : S.exec o s a s' →
      Step S ⟨s, ls, ts₁ ++ .call o k :: ts₂⟩ ⟨s', ls, ts₁ ++ k a :: ts₂⟩
  | crash (s : σ) (ls : List L) (ts₁ ts₂ : List (Prog E ε α)) (p : Prog E ε α) :
      Step S ⟨s, ls, ts₁ ++ p :: ts₂⟩ ⟨s, ls, ts₁ ++ ts₂⟩

/-- The configurations that some run from the shared state `s₀`, with nothing started, reaches. -/
inductive Reachable (S : System E ε α L σ) (s₀ : σ) : Config E ε α L σ → Prop
  | init : Reachable S s₀ ⟨s₀, [], []⟩
  | step {c c'} : Reachable S s₀ c → Step S c c' → Reachable S s₀ c'

/-- The runs of a system all of whose calls meet a condition on the state they find. -/
def System.within (S : System E ε α L σ) (allowed : σ → E.Op → Prop) : System E ε α L σ where
  body := S.body
  exec o s a s' := allowed s o ∧ S.exec o s a s'

/-- A system whose calls do more reaches more. -/
theorem Reachable.mono {T : System E ε α L σ} (hbody : ∀ l, S.body l = T.body l)
    (hexec : ∀ o s a s', S.exec o s a s' → T.exec o s a s') {s₀ : σ} {c : Config E ε α L σ}
    (h : Reachable S s₀ c) : Reachable T s₀ c := by
  induction h with
  | init => exact .init
  | step _ hstep ih =>
      apply Reachable.step ih
      cases hstep with
      | start l s ls ts =>
          rw [hbody l]
          exact .start l s ls ts
      | call s s' ls ts₁ ts₂ o k a h => exact .call s s' ls ts₁ ts₂ o k a (hexec o s a s' h)
      | crash s ls ts₁ ts₂ p => exact .crash s ls ts₁ ts₂ p

/-! ## Runs of one program after another -/

section Sequential

variable {h : (o : E.Op) → σ → E.Ans o × σ} {s₀ : σ}

/-- A program that runs alone, on calls answered by a handler, is one of the interleavings. -/
theorem Reachable.run_alone (hexec : ∀ o s, S.exec o s (h o s).1 (h o s).2) {s : σ} {ls : List L}
    {p : Prog E ε α} (hreach : Reachable S s₀ ⟨s, ls, [p]⟩) :
    Reachable S s₀ ⟨(run h p s).2, ls, []⟩ := by
  induction p generalizing s with
  | pure a => exact .step hreach (.crash s ls [] [] _)
  | throw e => exact .step hreach (.crash s ls [] [] _)
  | call o k ih => exact ih _ (.step hreach (.call s _ ls [] [] o k _ (hexec o s)))

/-- A program and the state after at most so many of its calls. -/
def advance (h : (o : E.Op) → σ → E.Ans o × σ) : Nat → Prog E ε α → σ → Prog E ε α × σ
  | n + 1, .call o k, s => advance h n (k (h o s).1) (h o s).2
  | _, p, s => (p, s)

theorem Reachable.advance (hexec : ∀ o s, S.exec o s (h o s).1 (h o s).2) (n : Nat) {s : σ}
    {ls : List L} {p : Prog E ε α} (hreach : Reachable S s₀ ⟨s, ls, [p]⟩) :
    Reachable S s₀ ⟨(advance h n p s).2, ls, [(advance h n p s).1]⟩ := by
  induction n generalizing p s with
  | zero =>
      cases p <;> exact hreach
  | succ n ih =>
      cases p with
      | pure a => exact hreach
      | throw e => exact hreach
      | call o k => exact ih (.step hreach (.call s _ ls [] [] o k _ (hexec o s)))

/-- The state after running the programs of some labels one after another. -/
def runAll (S : System E ε α L σ) (h : (o : E.Op) → σ → E.Ans o × σ) : List L → σ → σ
  | [], s => s
  | l :: ls, s => runAll S h ls (run h (S.body l) s).2

theorem Reachable.runAll (hexec : ∀ o s, S.exec o s (h o s).1 (h o s).2) {s : σ} {ls : List L}
    (ls' : List L) (hreach : Reachable S s₀ ⟨s, ls, []⟩) :
    Reachable S s₀ ⟨Library.runAll S h ls' s, ls ++ ls', []⟩ := by
  induction ls' generalizing s ls with
  | nil => rwa [List.append_nil]
  | cons l ls' ih =>
      have hstart := Reachable.step hreach (.start l s ls [])
      have hnext := ih (hstart.run_alone hexec)
      rwa [List.append_assoc] at hnext

end Sequential

/-! ## Invariants -/

/-- What an invariant must satisfy to hold in every reachable configuration. `k₀ l` is what the
program of label `l` knows when it starts. -/
structure IsInvariant {K : Type} (S : System E ε α L σ) (D : Discipline E K) (k₀ : L → K)
    (I : σ → List L → List K → Prop) : Prop where
  body_guarded : ∀ l, Guarded D (S.body l) (fun _ _ => True) (k₀ l)
  start : ∀ {s ls ks} l, I s ls ks → I s (ls ++ [l]) (ks ++ [k₀ l])
  call : ∀ {s s' ls ks₁ k ks₂ o a}, I s ls (ks₁ ++ k :: ks₂) → D.permits k o → S.exec o s a s' →
    D.promises o a ∧ I s' ls (ks₁ ++ D.learn k o a :: ks₂)
  crash : ∀ {s ls ks₁ k ks₂}, I s ls (ks₁ ++ k :: ks₂) → I s ls (ks₁ ++ ks₂)

/-- A second invariant, each of whose steps may use the first. -/
theorem IsInvariant.and {K : Type} {D : Discipline E K} {k₀ : L → K} {I J : σ → List L → List K → Prop}
    (hI : IsInvariant S D k₀ I)
    (hstart : ∀ {s ls ks} l, I s ls ks → J s ls ks → J s (ls ++ [l]) (ks ++ [k₀ l]))
    (hcall : ∀ {s s' ls ks₁ k ks₂ o a}, I s ls (ks₁ ++ k :: ks₂) → J s ls (ks₁ ++ k :: ks₂) →
      D.permits k o → S.exec o s a s' → J s' ls (ks₁ ++ D.learn k o a :: ks₂))
    (hcrash : ∀ {s ls ks₁ k ks₂}, J s ls (ks₁ ++ k :: ks₂) → J s ls (ks₁ ++ ks₂)) :
    IsInvariant S D k₀ fun s ls ks => I s ls ks ∧ J s ls ks where
  body_guarded := hI.body_guarded
  start l h := ⟨hI.start l h.1, hstart l h.1 h.2⟩
  call h hpermits hexec := by
    obtain ⟨hpromise, hi⟩ := hI.call h.1 hpermits hexec
    exact ⟨hpromise, hi, hcall h.1 h.2 hpermits hexec⟩
  crash h := ⟨hI.crash h.1, hcrash h.2⟩

section Invariant

variable {K : Type} {D : Discipline E K} {k₀ : L → K} {I : σ → List L → List K → Prop}

/-- The annotation carried through a run: every task is guarded from its own knowledge. -/
private def Annotated (D : Discipline E K) (ts : List (Prog E ε α)) (ks : List K) : Prop :=
  List.Forall₂ (fun p k => Guarded D p (fun _ _ => True) k) ts ks

private theorem annotated_split {ts₁ ts₂ : List (Prog E ε α)} {p : Prog E ε α} {ks : List K}
    (h : Annotated D (ts₁ ++ p :: ts₂) ks) :
    ∃ ks₁ k ks₂, ks = ks₁ ++ k :: ks₂ ∧ Annotated D ts₁ ks₁ ∧
      Guarded D p (fun _ _ => True) k ∧ Annotated D ts₂ ks₂ := by
  induction ts₁ generalizing ks with
  | nil =>
      cases h with
      | cons hp hts => exact ⟨[], _, _, rfl, .nil, hp, hts⟩
  | cons q ts₁ ih =>
      cases h with
      | cons hq hts =>
          obtain ⟨ks₁, k, ks₂, rfl, h₁, hp, h₂⟩ := ih hts
          exact ⟨_ :: ks₁, k, ks₂, rfl, .cons hq h₁, hp, h₂⟩

private theorem annotated_append {ts₁ ts₂ : List (Prog E ε α)} {ks₁ ks₂ : List K}
    (h₁ : Annotated D ts₁ ks₁) (h₂ : Annotated D ts₂ ks₂) :
    Annotated D (ts₁ ++ ts₂) (ks₁ ++ ks₂) := by
  induction h₁ with
  | nil => exact h₂
  | cons h _ ih => exact .cons h ih

private theorem step_annotated (hI : IsInvariant S D k₀ I) {c c' : Config E ε α L σ}
    (hstep : Step S c c') {ks : List K} (ha : Annotated D c.tasks ks)
    (hi : I c.shared c.started ks) :
    ∃ ks', Annotated D c'.tasks ks' ∧ I c'.shared c'.started ks' := by
  cases hstep with
  | start l s ls ts =>
      exact ⟨ks ++ [k₀ l], annotated_append ha (.cons (hI.body_guarded l) .nil), hI.start l hi⟩
  | call s s' ls ts₁ ts₂ o k a hexec =>
      obtain ⟨ks₁, κ, ks₂, rfl, h₁, hp, h₂⟩ := annotated_split ha
      obtain ⟨hpromise, hi'⟩ := hI.call hi hp.1 hexec
      exact ⟨_, annotated_append h₁ (.cons (hp.2 a hpromise) h₂), hi'⟩
  | crash s ls ts₁ ts₂ p =>
      obtain ⟨ks₁, κ, ks₂, rfl, h₁, -, h₂⟩ := annotated_split ha
      exact ⟨_, annotated_append h₁ h₂, hI.crash hi⟩

private theorem reachable_annotated (hI : IsInvariant S D k₀ I) {s₀ : σ} (h₀ : I s₀ [] [])
    {c : Config E ε α L σ} (h : Reachable S s₀ c) :
    ∃ ks, Annotated D c.tasks ks ∧ I c.shared c.started ks := by
  induction h with
  | init => exact ⟨[], .nil, h₀⟩
  | step _ hstep ih =>
      obtain ⟨ks, ha, hi⟩ := ih
      exact step_annotated hI hstep ha hi

/-- **The invariant rule.** An invariant that holds at the start, with nothing running, holds in
every reachable configuration, for some knowledge of the tasks still running. -/
theorem Reachable.invariant (hI : IsInvariant S D k₀ I) {s₀ : σ} (h₀ : I s₀ [] [])
    {c : Config E ε α L σ} (h : Reachable S s₀ c) : ∃ ks, I c.shared c.started ks := by
  obtain ⟨ks, -, hi⟩ := reachable_annotated hI h₀ h
  exact ⟨ks, hi⟩

/-- The next call of every running program is permitted by what the program knows. -/
theorem Reachable.permitted (hI : IsInvariant S D k₀ I) {s₀ : σ} (h₀ : I s₀ [] [])
    {c : Config E ε α L σ} (h : Reachable S s₀ c) {ts₁ ts₂ : List (Prog E ε α)} {o : E.Op}
    {k : E.Ans o → Prog E ε α} (htasks : c.tasks = ts₁ ++ .call o k :: ts₂) :
    ∃ ks₁ κ ks₂, I c.shared c.started (ks₁ ++ κ :: ks₂) ∧ D.permits κ o := by
  obtain ⟨ks, ha, hi⟩ := reachable_annotated hI h₀ h
  rw [htasks] at ha
  obtain ⟨ks₁, κ, ks₂, rfl, -, hp, -⟩ := annotated_split ha
  exact ⟨ks₁, κ, ks₂, hi, hp.1⟩

/-- A relation between shared states that every permitted call respects holds across each step. -/
theorem Reachable.step_shared (hI : IsInvariant S D k₀ I) {s₀ : σ} (h₀ : I s₀ [] [])
    {R : σ → σ → Prop} (refl : ∀ s, R s s)
    (hcall : ∀ {s s' ls ks₁ k ks₂ o a}, I s ls (ks₁ ++ k :: ks₂) → D.permits k o →
      S.exec o s a s' → R s s')
    {c c' : Config E ε α L σ} (h : Reachable S s₀ c) (hstep : Step S c c') :
    R c.shared c'.shared := by
  obtain ⟨ks, ha, hi⟩ := reachable_annotated hI h₀ h
  cases hstep with
  | start | crash => exact refl _
  | call s s' ls ts₁ ts₂ o k a hexec =>
      obtain ⟨ks₁, κ, ks₂, rfl, -, hp, -⟩ := annotated_split ha
      exact hcall hi hp.1 hexec

end Invariant

end BhDic.Library

