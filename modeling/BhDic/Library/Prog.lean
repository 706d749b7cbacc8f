/-!
# Programs that call their environment

A `Prog` is a finite computation that either returns, raises, or makes one call on its environment
and continues with the answer. The environment is left open: a handler runs a program to its
result (`Prog.run`), and a scheduler can hold many programs suspended at their next call
(`Interleaving`). Every call is one atomic step; what lies between two calls is pure.

Three ways to reason about a program, none of which fixes the environment:

* `Prog.Guarded` — a weakest precondition against *every* promised answer: each call is permitted
  by what the program has learned so far, and the result satisfies a postcondition.
* `Prog.Related` — two programs make related calls and, on related answers, keep doing so.
* `Prog.run_guarded`, `Prog.run_related` — what the two give once a handler is chosen.
-/

namespace BhDic.Library

/-- The calls a program can make, and the type of the answer to each. -/
structure Effect where
  Op : Type
  Ans : Op → Type

/-- The calls of `E` and those of `F`. -/
abbrev Effect.sum (E F : Effect) : Effect where
  Op := E.Op ⊕ F.Op
  Ans := Sum.elim E.Ans F.Ans

/-- A finite program over the calls of `E`, raising errors from `ε` and returning from `α`. -/
inductive Prog (E : Effect) (ε α : Type) where
  | pure (a : α)
  | throw (e : ε)
  | call (o : E.Op) (k : E.Ans o → Prog E ε α)

namespace Prog

variable {E : Effect} {ε α β γ : Type}

/-- Sequencing: an error skips the continuation. -/
def bind : Prog E ε α → (α → Prog E ε β) → Prog E ε β
  | .pure a, f => f a
  | .throw e, _ => .throw e
  | .call o k, f => .call o fun a => bind (k a) f

/-- Run a program and return what it raised, if it raised: a `try` whose handler comes next. -/
def attempt : Prog E ε α → Prog E ε (Except ε α)
  | .pure a => .pure (.ok a)
  | .throw e => .pure (.error e)
  | .call o k => .call o fun a => attempt (k a)

instance : Monad (Prog E ε) where
  pure := Prog.pure
  bind := Prog.bind

/-- One call, returning its answer. -/
def ask (o : E.Op) : Prog E ε (E.Ans o) := .call o .pure

/-- Raise `e` unless `c` holds. -/
def require (c : Prop) [Decidable c] (e : ε) : Prog E ε Unit := if c then .pure () else .throw e

/-- Return an `Except` value, raising its error. -/
def ofExcept : Except ε α → Prog E ε α
  | .ok a => .pure a
  | .error e => .throw e

/-- Apply `f` to each element in order, stopping at the first error. -/
def forEach (f : α → Prog E ε Unit) : List α → Prog E ε Unit
  | [] => .pure ()
  | a :: as => bind (f a) fun _ => forEach f as

@[simp] theorem bind_def (p : Prog E ε α) (f : α → Prog E ε β) : (p >>= f) = p.bind f := rfl

@[simp] theorem pure_def (a : α) : (Pure.pure a : Prog E ε α) = .pure a := rfl

theorem bind_assoc (p : Prog E ε α) (f : α → Prog E ε β) (g : β → Prog E ε γ) :
    (p.bind f).bind g = p.bind fun a => (f a).bind g := by
  induction p with
  | pure a => rfl
  | throw e => rfl
  | call o k ih => exact congrArg (Prog.call o) (funext ih)

theorem bind_pure (p : Prog E ε α) : p.bind .pure = p := by
  induction p with
  | pure a => rfl
  | throw e => rfl
  | call o k ih => exact congrArg (Prog.call o) (funext ih)

/-- Two sequences that begin alike and go on alike. -/
theorem bind_eq_bind {p : Prog E ε α} {f : α → Prog E ε β} {g : α → Prog E ε γ}
    {k : β → Prog E ε γ} (h : ∀ a, g a = (f a).bind k) : p.bind g = (p.bind f).bind k := by
  rw [bind_assoc]
  exact congrArg (Prog.bind p) (funext h)

/-! ## Running against a handler -/

/-- Run `p` from the state `s`, answering each call with `h`. -/
def run {σ : Type} (h : (o : E.Op) → σ → E.Ans o × σ) : Prog E ε α → σ → Except ε α × σ
  | .pure a, s => (.ok a, s)
  | .throw e, s => (.error e, s)
  | .call o k, s => run h (k (h o s).1) (h o s).2

section Run

variable {σ : Type} (h : (o : E.Op) → σ → E.Ans o × σ)

@[simp] theorem run_pure (a : α) (s : σ) : run h (.pure a : Prog E ε α) s = (.ok a, s) := rfl

@[simp] theorem run_throw (e : ε) (s : σ) : run h (.throw e : Prog E ε α) s = (.error e, s) := rfl

@[simp] theorem run_call (o : E.Op) (k : E.Ans o → Prog E ε α) (s : σ) :
    run h (.call o k) s = run h (k (h o s).1) (h o s).2 := rfl

theorem run_bind (p : Prog E ε α) (f : α → Prog E ε β) (s : σ) :
    run h (p.bind f) s =
      match run h p s with
      | (.ok a, s') => run h (f a) s'
      | (.error e, s') => (.error e, s') := by
  induction p generalizing s with
  | pure a => rfl
  | throw e => rfl
  | call o k ih => simp only [bind, run_call, ih]

/-- Sequencing after a return. -/
theorem run_bind_ok {p : Prog E ε α} {f : α → Prog E ε β} {s s' : σ} {a : α}
    (hp : run h p s = (.ok a, s')) : run h (p.bind f) s = run h (f a) s' := by
  rw [run_bind, hp]

end Run

/-! ## What a program may do, whatever it is answered -/

/-- A discipline on calls: which calls are permitted given what is known, which answers to a call
the environment may give, and what each answer adds to the knowledge. -/
structure Discipline (E : Effect) (K : Type) where
  permits : K → E.Op → Prop
  promises : (o : E.Op) → E.Ans o → Prop
  learn : K → (o : E.Op) → E.Ans o → K

section Guarded

variable {K : Type} {D : Discipline E K}

/-- Starting from the knowledge `k`, every call of `p` is permitted whatever the earlier promised
answers were, and its result satisfies `Q` together with the knowledge it ends with. -/
def Guarded (D : Discipline E K) : Prog E ε α → (Except ε α → K → Prop) → K → Prop
  | .pure a, Q, k => Q (.ok a) k
  | .throw e, Q, k => Q (.error e) k
  | .call o c, Q, k =>
      D.permits k o ∧ ∀ a, D.promises o a → Guarded D (c a) Q (D.learn k o a)

/-- The postcondition that asks something of a return only. -/
def OnOk (P : α → K → Prop) : Except ε α → K → Prop
  | .ok a, k => P a k
  | .error _, _ => True

@[simp] theorem guarded_pure (a : α) (Q : Except ε α → K → Prop) (k : K) :
    Guarded D (.pure a) Q k ↔ Q (.ok a) k := Iff.rfl

@[simp] theorem guarded_throw (e : ε) (Q : Except ε α → K → Prop) (k : K) :
    Guarded D (.throw e) Q k ↔ Q (.error e) k := Iff.rfl

@[simp] theorem guarded_call (o : E.Op) (c : E.Ans o → Prog E ε α) (Q : Except ε α → K → Prop)
    (k : K) :
    Guarded D (.call o c) Q k ↔
      D.permits k o ∧ ∀ a, D.promises o a → Guarded D (c a) Q (D.learn k o a) := Iff.rfl

theorem guarded_mono {p : Prog E ε α} {Q Q' : Except ε α → K → Prop}
    (hQ : ∀ r k, Q r k → Q' r k) {k : K} (hp : Guarded D p Q k) : Guarded D p Q' k := by
  induction p generalizing k with
  | pure a => exact hQ _ _ hp
  | throw e => exact hQ _ _ hp
  | call o c ih => exact ⟨hp.1, fun a ha => ih a (hp.2 a ha)⟩

/-- The rule for sequencing: the continuation must be fine after a return, and the postcondition
must already hold after an error. -/
theorem guarded_bind {p : Prog E ε α} {f : α → Prog E ε β} {Q : Except ε β → K → Prop} {k : K} :
    Guarded D (p.bind f) Q k ↔
      Guarded D p (fun r k' => match r with
        | .ok a => Guarded D (f a) Q k'
        | .error e => Q (.error e) k') k := by
  induction p generalizing k with
  | pure a => rfl
  | throw e => rfl
  | call o c ih => simp only [bind, guarded_call, ih]

/-- The rule for `try`: whatever the program does is a return. -/
theorem guarded_attempt {p : Prog E ε α} {Q : Except ε (Except ε α) → K → Prop} {k : K} :
    Guarded D p.attempt Q k ↔ Guarded D p (fun r k' => Q (.ok r) k') k := by
  induction p generalizing k with
  | pure a => rfl
  | throw e => rfl
  | call o c ih => simp only [attempt, guarded_call, ih]

@[simp] theorem guarded_ask (o : E.Op) (Q : Except ε (E.Ans o) → K → Prop) (k : K) :
    Guarded D (ask o) Q k ↔
      D.permits k o ∧ ∀ a, D.promises o a → Q (.ok a) (D.learn k o a) := Iff.rfl

@[simp] theorem guarded_require (c : Prop) [Decidable c] (e : ε) (Q : Except ε Unit → K → Prop)
    (k : K) :
    Guarded D (require c e) Q k ↔ (c → Q (.ok ()) k) ∧ (¬c → Q (.error e) k) := by
  by_cases hc : c <;> simp [require, hc]

@[simp] theorem guarded_ofExcept (r : Except ε α) (Q : Except ε α → K → Prop) (k : K) :
    Guarded D (ofExcept r) Q k ↔ Q r k := by
  cases r <;> rfl

/-- A loop keeps the invariant `J` of the knowledge if each round does. -/
theorem guarded_forEach {f : α → Prog E ε Unit} {J : K → Prop} {as : List α}
    (hf : ∀ a ∈ as, ∀ k, J k → Guarded D (f a) (fun _ k' => J k') k) {k : K} (hk : J k) :
    Guarded D (forEach f as) (fun _ k' => J k') k := by
  induction as generalizing k with
  | nil => exact hk
  | cons a as ih =>
      rw [forEach, guarded_bind]
      refine guarded_mono ?_ (hf a List.mem_cons_self k hk)
      rintro (e | u) k' hk'
      · exact hk'
      · exact ih (fun b hb => hf b (List.mem_cons_of_mem _ hb)) hk'

/-- Running a guarded program: an invariant tying the state to the knowledge holds at the end, if
every permitted call keeps it and is answered as promised. -/
theorem run_guarded {σ : Type} {h : (o : E.Op) → σ → E.Ans o × σ} {I : σ → K → Prop}
    (step : ∀ s k o, I s k → D.permits k o →
      D.promises o (h o s).1 ∧ I (h o s).2 (D.learn k o (h o s).1))
    {p : Prog E ε α} {Q : Except ε α → K → Prop} {s : σ} {k : K} (hs : I s k)
    (hp : Guarded D p Q k) : ∃ k', I (run h p s).2 k' ∧ Q (run h p s).1 k' := by
  induction p generalizing s k with
  | pure a => exact ⟨k, hs, hp⟩
  | throw e => exact ⟨k, hs, hp⟩
  | call o c ih =>
      obtain ⟨ha, hs'⟩ := step s k o hs hp.1
      exact ih _ hs' (hp.2 _ ha)

end Guarded

/-! ## Programs over two effects -/

/-- A program over `E` among programs that may also call `F`. -/
def inl {F : Effect} : Prog E ε α → Prog (E.sum F) ε α
  | .pure a => .pure a
  | .throw e => .throw e
  | .call o k => .call (.inl o) fun a => inl (k a)

/-- A program over `E` among programs that may call `F` first. -/
def inr {F : Effect} : Prog E ε α → Prog (F.sum E) ε α
  | .pure a => .pure a
  | .throw e => .throw e
  | .call o k => .call (.inr o) fun a => inr (k a)

section Sum

variable {F : Effect} {K : Type}

/-- What a discipline on both effects asks of the calls of the first. -/
def Discipline.left (D : Discipline (E.sum F) K) : Discipline E K where
  permits k o := D.permits k (.inl o)
  promises o a := D.promises (.inl o) a
  learn k o a := D.learn k (.inl o) a

/-- What it asks of the calls of the second. -/
def Discipline.right (D : Discipline (E.sum F) K) : Discipline F K where
  permits k o := D.permits k (.inr o)
  promises o a := D.promises (.inr o) a
  learn k o a := D.learn k (.inr o) a

theorem guarded_inl {D : Discipline (E.sum F) K} {p : Prog E ε α} {Q : Except ε α → K → Prop}
    {k : K} : Guarded D (p.inl (F := F)) Q k ↔ Guarded D.left p Q k := by
  induction p generalizing k with
  | pure a => rfl
  | throw e => rfl
  | call o c ih => exact and_congr Iff.rfl (forall_congr' fun a => imp_congr Iff.rfl (ih a))

theorem guarded_inr {D : Discipline (F.sum E) K} {p : Prog E ε α} {Q : Except ε α → K → Prop}
    {k : K} : Guarded D (p.inr (F := F)) Q k ↔ Guarded D.right p Q k := by
  induction p generalizing k with
  | pure a => rfl
  | throw e => rfl
  | call o c ih => exact and_congr Iff.rfl (forall_congr' fun a => imp_congr Iff.rfl (ih a))

end Sum

/-! ## Two programs in step -/

/-- When two programs count as making the same calls: which calls match, and which answers to
matching calls match. -/
structure Matching (E : Effect) where
  op : E.Op → E.Op → Prop
  ans : (o o' : E.Op) → E.Ans o → E.Ans o' → Prop

/-- `p` and `q` return related results after making matching calls, as long as the answers they
get match. -/
inductive Related (M : Matching E) (R : Except ε α → Except ε β → Prop) :
    Prog E ε α → Prog E ε β → Prop
  | pure {a b} : R (.ok a) (.ok b) → Related M R (.pure a) (.pure b)
  | throw {e e'} : R (.error e) (.error e') → Related M R (.throw e) (.throw e')
  | call {o o' k k'} : M.op o o' → (∀ a a', M.ans o o' a a' → Related M R (k a) (k' a')) →
      Related M R (.call o k) (.call o' k')

section Related

variable {M : Matching E} {δ : Type}

/-- Sequencing related programs. A program that raises on one side raises on the other. -/
theorem Related.bind {R : Except ε α → Except ε β → Prop} {R' : Except ε γ → Except ε δ → Prop}
    {p : Prog E ε α} {q : Prog E ε β} {f : α → Prog E ε γ} {g : β → Prog E ε δ}
    (h : Related M R p q) (hok : ∀ a b, R (.ok a) (.ok b) → Related M R' (f a) (g b))
    (herr : ∀ e e', R (.error e) (.error e') → R' (.error e) (.error e')) :
    Related M R' (p.bind f) (q.bind g) := by
  induction h with
  | pure h => exact hok _ _ h
  | throw h => exact .throw (herr _ _ h)
  | call ho _ ih => exact .call ho ih

/-- Running related programs on two handlers gives related results, if matching calls that both
sides permit get matching answers and keep the two states in step. -/
theorem run_related {K σ τ : Type} {D : Discipline E K} {h : (o : E.Op) → σ → E.Ans o × σ}
    {h' : (o : E.Op) → τ → E.Ans o × τ} {S : σ → K → τ → K → Prop}
    (step : ∀ s k t l o o', S s k t l → D.permits k o → D.permits l o' → M.op o o' →
      D.promises o (h o s).1 ∧ D.promises o' (h' o' t).1 ∧ M.ans o o' (h o s).1 (h' o' t).1 ∧
        S (h o s).2 (D.learn k o (h o s).1) (h' o' t).2 (D.learn l o' (h' o' t).1))
    {R : Except ε α → Except ε β → Prop} {p : Prog E ε α} {q : Prog E ε β}
    (hpq : Related M R p q) {Q : Except ε α → K → Prop} {Q' : Except ε β → K → Prop} {s : σ} {t : τ}
    {k l : K} (hs : S s k t l)
    (hp : Guarded D p Q k) (hq : Guarded D q Q' l) :
    R (run h p s).1 (run h' q t).1 ∧ ∃ k' l', S (run h p s).2 k' (run h' q t).2 l' := by
  induction hpq generalizing s t k l with
  | pure hr => exact ⟨hr, k, l, hs⟩
  | throw hr => exact ⟨hr, k, l, hs⟩
  | call ho _ ih =>
      obtain ⟨ha, ha', hmatch, hs'⟩ := step s k t l _ _ hs hp.1 hq.1 ho
      exact ih _ _ hmatch hs' (hp.2 _ ha) (hq.2 _ ha')

end Related

end Prog

end BhDic.Library
