import BhDic.Library.Prog

/-!
# Programs and the answers they were given

What a program does is determined by the answers to its calls. `Returns p answers a` says that `p`,
given just these answers in order, returns `a`; `Raises` that it raises, and `Calls` that its next
call is `o`. The rules take a program apart along its sequencing, so that a fact about a run is read
off the run itself, whatever environment gave the answers.
-/

namespace BhDic.Library

/-- A call and the answer it got. -/
abbrev Effect.Answered (E : Effect) := Σ o : E.Op, E.Ans o

namespace Prog

variable {E : Effect} {ε α β : Type}

def Returns : Prog E ε α → List E.Answered → α → Prop
  | .pure b, answers, a => answers = [] ∧ b = a
  | .throw _, _, _ => False
  | .call o k, answers, a => ∃ x rest, answers = ⟨o, x⟩ :: rest ∧ Returns (k x) rest a

def Raises : Prog E ε α → List E.Answered → ε → Prop
  | .pure _, _, _ => False
  | .throw e', answers, e => answers = [] ∧ e' = e
  | .call o k, answers, e => ∃ x rest, answers = ⟨o, x⟩ :: rest ∧ Raises (k x) rest e

def Calls : Prog E ε α → List E.Answered → E.Op → Prop
  | .pure _, _, _ => False
  | .throw _, _, _ => False
  | .call o k, answers, o' =>
      (answers = [] ∧ o = o') ∨ ∃ x rest, answers = ⟨o, x⟩ :: rest ∧ Calls (k x) rest o'

variable {answers : List E.Answered}

/-! ## Rules -/

@[simp] theorem returns_pure (a b : α) :
    Returns (.pure b : Prog E ε α) answers a ↔ answers = [] ∧ b = a := Iff.rfl

@[simp] theorem returns_throw (e : ε) (a : α) :
    Returns (.throw e : Prog E ε α) answers a ↔ False := Iff.rfl

@[simp] theorem calls_pure (b : α) (o : E.Op) :
    Calls (.pure b : Prog E ε α) answers o ↔ False := Iff.rfl

@[simp] theorem calls_throw (e : ε) (o : E.Op) :
    Calls (.throw e : Prog E ε α) answers o ↔ False := Iff.rfl

theorem returns_bind {p : Prog E ε α} {f : α → Prog E ε β} {b : β} :
    Returns (p.bind f) answers b ↔
      ∃ a first rest, answers = first ++ rest ∧ Returns p first a ∧ Returns (f a) rest b := by
  induction p generalizing answers with
  | pure a =>
      constructor
      · intro h
        exact ⟨a, [], answers, rfl, ⟨rfl, rfl⟩, h⟩
      · rintro ⟨_, _, rest, rfl, ⟨rfl, rfl⟩, h⟩
        exact h
  | throw e =>
      constructor
      · intro h
        exact h.elim
      · rintro ⟨_, _, _, -, h, -⟩
        exact h.elim
  | call o k ih =>
      constructor
      · rintro ⟨x, tail, rfl, h⟩
        obtain ⟨a, first, rest, rfl, hp, hf⟩ := (ih x).mp h
        exact ⟨a, ⟨o, x⟩ :: first, rest, rfl, ⟨x, first, rfl, hp⟩, hf⟩
      · rintro ⟨a, _, rest, rfl, ⟨x, first, rfl, hp⟩, hf⟩
        exact ⟨x, first ++ rest, rfl, (ih x).mpr ⟨a, first, rest, rfl, hp, hf⟩⟩

theorem calls_bind {p : Prog E ε α} {f : α → Prog E ε β} {o : E.Op} :
    Calls (p.bind f) answers o ↔ Calls p answers o ∨
      ∃ a first rest, answers = first ++ rest ∧ Returns p first a ∧ Calls (f a) rest o := by
  induction p generalizing answers with
  | pure a =>
      constructor
      · intro h
        exact .inr ⟨a, [], answers, rfl, ⟨rfl, rfl⟩, h⟩
      · rintro (h | ⟨_, _, rest, rfl, ⟨rfl, rfl⟩, h⟩)
        · exact h.elim
        · exact h
  | throw e =>
      constructor
      · intro h
        exact h.elim
      · rintro (h | ⟨_, _, _, -, h, -⟩)
        · exact h.elim
        · exact h.elim
  | call o' k ih =>
      constructor
      · rintro (h | ⟨x, tail, rfl, h⟩)
        · exact .inl (.inl h)
        · rcases (ih x).mp h with h | ⟨a, first, rest, rfl, hp, hf⟩
          · exact .inl (.inr ⟨x, tail, rfl, h⟩)
          · exact .inr ⟨a, ⟨o', x⟩ :: first, rest, rfl, ⟨x, first, rfl, hp⟩, hf⟩
      · rintro ((h | ⟨x, tail, rfl, h⟩) | ⟨a, _, rest, rfl, ⟨x, first, rfl, hp⟩, hf⟩)
        · exact .inl h
        · exact .inr ⟨x, tail, rfl, (ih x).mpr (.inl h)⟩
        · exact .inr ⟨x, first ++ rest, rfl, (ih x).mpr (.inr ⟨a, first, rest, rfl, hp, hf⟩)⟩

theorem returns_ask {o : E.Op} {x : E.Ans o} :
    Returns (ask o : Prog E ε (E.Ans o)) answers x ↔ answers = [⟨o, x⟩] := by
  constructor
  · rintro ⟨y, _, rfl, rfl, rfl⟩
    rfl
  · rintro rfl
    exact ⟨x, [], rfl, rfl, rfl⟩

theorem calls_ask {o o' : E.Op} :
    Calls (ask o : Prog E ε (E.Ans o)) answers o' ↔ answers = [] ∧ o = o' := by
  constructor
  · rintro (h | ⟨_, _, -, h⟩)
    · exact h
    · exact h.elim
  · exact .inl

@[simp] theorem returns_require {c : Prop} [Decidable c] {e : ε} {u : Unit} :
    Returns (require c e : Prog E ε Unit) answers u ↔ answers = [] ∧ c := by
  by_cases hc : c <;> simp [require, hc]

@[simp] theorem calls_require {c : Prop} [Decidable c] {e : ε} {o : E.Op} :
    Calls (require c e : Prog E ε Unit) answers o ↔ False := by
  by_cases hc : c <;> simp [require, hc]

@[simp] theorem returns_ofExcept {r : Except ε α} {a : α} :
    Returns (ofExcept r : Prog E ε α) answers a ↔ answers = [] ∧ r = .ok a := by
  cases r with
  | error e => simp [ofExcept]
  | ok b => simp [ofExcept]

@[simp] theorem calls_ofExcept {r : Except ε α} {o : E.Op} :
    Calls (ofExcept r : Prog E ε α) answers o ↔ False := by
  cases r <;> rfl

/-- What a `try` makes of a program is what the program did. -/
theorem returns_attempt {p : Prog E ε α} {r : Except ε α} :
    Returns p.attempt answers r ↔ match r with
      | .ok a => Returns p answers a
      | .error e => Raises p answers e := by
  induction p generalizing answers with
  | pure a =>
      cases r with
      | ok b => simp [attempt]
      | error e => simp [attempt, Raises]
  | throw e =>
      cases r with
      | ok b => simp [attempt]
      | error e' => simp [attempt, Raises]
  | call o k ih =>
      simp only [attempt, Returns, ih]
      cases r <;> rfl

/-- The answers determine what is returned. -/
theorem Returns.unique {p : Prog E ε α} {a b : α} (ha : Returns p answers a)
    (hb : Returns p answers b) : a = b := by
  induction p generalizing answers with
  | pure c => exact ha.2.symm.trans hb.2
  | throw e => exact ha.elim
  | call o k ih =>
      obtain ⟨x, rest, rfl, ha⟩ := ha
      obtain ⟨y, rest', heq, hb⟩ := hb
      cases heq
      exact ih x ha hb

/-! ## How a program ends -/

/-- The program, given just these answers, returns or raises. -/
def Ends (p : Prog E ε α) (answers : List E.Answered) : Except ε α → Prop
  | .ok a => Returns p answers a
  | .error e => Raises p answers e

@[simp] theorem ends_pure (a : α) (r : Except ε α) :
    Ends (.pure a : Prog E ε α) answers r ↔ answers = [] ∧ r = .ok a := by
  cases r <;> simp [Ends, Raises, eq_comm]

@[simp] theorem ends_throw (e : ε) (r : Except ε α) :
    Ends (.throw e : Prog E ε α) answers r ↔ answers = [] ∧ r = .error e := by
  cases r <;> simp [Ends, Raises, eq_comm]

theorem ends_call {o : E.Op} {k : E.Ans o → Prog E ε α} {r : Except ε α} :
    Ends (.call o k) answers r ↔ ∃ x rest, answers = ⟨o, x⟩ :: rest ∧ Ends (k x) rest r := by
  cases r <;> rfl

@[simp] theorem ends_ofExcept {r r' : Except ε α} :
    Ends (ofExcept r : Prog E ε α) answers r' ↔ answers = [] ∧ r' = r := by
  cases r <;> simp [ofExcept]

theorem ends_bind {p : Prog E ε α} {f : α → Prog E ε β} {r : Except ε β} :
    Ends (p.bind f) answers r ↔
      (∃ a first rest, answers = first ++ rest ∧ Ends p first (.ok a) ∧ Ends (f a) rest r) ∨
        ∃ e, Ends p answers (.error e) ∧ r = .error e := by
  induction p generalizing answers with
  | pure a =>
      constructor
      · intro h
        exact .inl ⟨a, [], answers, rfl, ⟨rfl, rfl⟩, h⟩
      · rintro (⟨_, _, rest, rfl, ⟨rfl, rfl⟩, h⟩ | ⟨e, h, -⟩)
        · exact h
        · exact h.elim
  | throw e =>
      constructor
      · intro h
        obtain ⟨rfl, rfl⟩ := (ends_throw e r).mp h
        exact .inr ⟨e, ⟨rfl, rfl⟩, rfl⟩
      · rintro (⟨_, _, _, -, h, -⟩ | ⟨_, ⟨rfl, rfl⟩, rfl⟩)
        · exact h.elim
        · exact ⟨rfl, rfl⟩
  | call o k ih =>
      simp only [Prog.bind, ends_call, ih]
      constructor
      · rintro ⟨x, tail, rfl, ⟨a, first, rest, rfl, hp, hf⟩ | ⟨e, hp, rfl⟩⟩
        · exact .inl ⟨a, ⟨o, x⟩ :: first, rest, rfl, ⟨x, first, rfl, hp⟩, hf⟩
        · exact .inr ⟨e, ⟨x, tail, rfl, hp⟩, rfl⟩
      · rintro (⟨a, _, rest, rfl, ⟨x, first, rfl, hp⟩, hf⟩ | ⟨e, ⟨x, tail, rfl, hp⟩, rfl⟩)
        · exact ⟨x, first ++ rest, rfl, .inl ⟨a, first, rest, rfl, hp, hf⟩⟩
        · exact ⟨x, tail, rfl, .inr ⟨e, hp, rfl⟩⟩

/-- Whatever the answers, what is returned satisfies `P`. -/
def Ensures (P : α → Prop) : Prog E ε α → Prop
  | .pure a => P a
  | .throw _ => True
  | .call _ k => ∀ x, Ensures P (k x)

theorem Ensures.returns {P : α → Prop} {p : Prog E ε α} (h : Ensures P p) {a : α}
    (hp : Returns p answers a) : P a := by
  induction p generalizing answers with
  | pure b =>
      obtain ⟨-, rfl⟩ := hp
      exact h
  | throw e => exact hp.elim
  | call o k ih =>
      obtain ⟨x, rest, -, hp⟩ := hp
      exact ih x (h x) hp

/-- Sequencing: what the continuation ensures, the whole ensures. -/
theorem Ensures.bind {P : β → Prop} (p : Prog E ε α) {f : α → Prog E ε β}
    (h : ∀ a, Ensures P (f a)) : Ensures P (p.bind f) := by
  induction p with
  | pure a => exact h a
  | throw e => trivial
  | call o k ih => exact fun x => ih x

/-- A guarded program ends with the postcondition, together with what the answers have taught. -/
theorem Guarded.ends {K : Type} {D : Discipline E K} {Q : Except ε α → K → Prop} {k : K}
    {p : Prog E ε α} (h : Guarded D p Q k) (hpromises : ∀ x ∈ answers, D.promises x.1 x.2)
    {r : Except ε α} (hp : Ends p answers r) :
    Q r (answers.foldl (fun k x => D.learn k x.1 x.2) k) := by
  induction p generalizing answers k with
  | pure b =>
      obtain ⟨rfl, rfl⟩ := (ends_pure b r).mp hp
      exact h
  | throw e =>
      obtain ⟨rfl, rfl⟩ := (ends_throw e r).mp hp
      exact h
  | call o c ih =>
      obtain ⟨x, rest, rfl, hends⟩ := ends_call.mp hp
      obtain ⟨hx, hrest⟩ := List.forall_mem_cons.mp hpromises
      exact ih x (k := D.learn k o x) (h.2 x hx) hrest hends

/-- What a guarded program returns satisfies the postcondition, together with what the answers have
taught. -/
theorem Guarded.returns {K : Type} {D : Discipline E K} {Q : Except ε α → K → Prop} {k : K}
    {p : Prog E ε α} (h : Guarded D p Q k) (hpromises : ∀ x ∈ answers, D.promises x.1 x.2) {a : α}
    (hp : Returns p answers a) : Q (.ok a) (answers.foldl (fun k x => D.learn k x.1 x.2) k) :=
  h.ends hpromises (r := .ok a) hp

/-! ## Runs -/

section Runs

variable {σ : Type} (h : (o : E.Op) → σ → E.Ans o × σ)

/-- The answers a handler gives to the calls of a program. -/
def log : Prog E ε α → σ → List E.Answered
  | .pure _, _ => []
  | .throw _, _ => []
  | .call o k, s => ⟨o, (h o s).1⟩ :: log (k (h o s).1) (h o s).2

/-- A run is determined by its log. -/
theorem run_log (p : Prog E ε α) (s : σ) :
    match (run h p s).1 with
    | .ok a => Returns p (log h p s) a
    | .error e => Raises p (log h p s) e := by
  induction p generalizing s with
  | pure a => exact ⟨rfl, rfl⟩
  | throw e => exact ⟨rfl, rfl⟩
  | call o k ih =>
      rw [run_call]
      have hk := ih (h o s).1 (h o s).2
      cases hr : (run h (k (h o s).1) (h o s).2).1 with
      | ok a =>
          rw [hr] at hk
          exact ⟨_, _, rfl, hk⟩
      | error e =>
          rw [hr] at hk
          exact ⟨_, _, rfl, hk⟩

theorem ends_log (p : Prog E ε α) (s : σ) : Ends p (log h p s) (run h p s).1 := by
  have hlog := run_log h p s
  cases hr : (run h p s).1 with
  | ok a =>
      rw [hr] at hlog
      exact hlog
  | error e =>
      rw [hr] at hlog
      exact hlog

end Runs

/-! ## Which calls -/

/-- Whatever the answers, only calls that satisfy `P` are made. -/
def OnlyCalls (P : E.Op → Prop) : Prog E ε α → Prop
  | .pure _ => True
  | .throw _ => True
  | .call o k => P o ∧ ∀ x, OnlyCalls P (k x)

theorem OnlyCalls.bind {P : E.Op → Prop} {p : Prog E ε α} {f : α → Prog E ε β}
    (hp : OnlyCalls P p) (hf : ∀ a, OnlyCalls P (f a)) : OnlyCalls P (p.bind f) := by
  induction p with
  | pure a => exact hf a
  | throw e => trivial
  | call o k ih => exact ⟨hp.1, fun x => ih x (hp.2 x)⟩

theorem onlyCalls_ofExcept (P : E.Op → Prop) (r : Except ε α) : OnlyCalls P (ofExcept r) := by
  cases r <;> trivial

/-- Environments that answer these calls alike cannot be told apart. -/
theorem OnlyCalls.run_eq {σ : Type} {h h' : (o : E.Op) → σ → E.Ans o × σ} {P : E.Op → Prop}
    {p : Prog E ε α} (hp : OnlyCalls P p) (hagree : ∀ o, P o → ∀ s, h o s = h' o s) (s : σ) :
    run h p s = run h' p s := by
  induction p generalizing s with
  | pure a => rfl
  | throw e => rfl
  | call o k ih =>
      rw [run_call, run_call, hagree o hp.1 s]
      exact ih _ (hp.2 _) _

/-! ## Which calls and which errors -/

/-- Whatever the answers, only calls that satisfy `C` are made, and what is raised satisfies `R`. -/
def Within (C : E.Op → Prop) (R : ε → Prop) : Prog E ε α → Prop
  | .pure _ => True
  | .throw e => R e
  | .call o k => C o ∧ ∀ x, Within C R (k x)

section Within

variable {C : E.Op → Prop} {R : ε → Prop}

theorem Within.bind {p : Prog E ε α} {f : α → Prog E ε β} (hp : Within C R p)
    (hf : ∀ a, Within C R (f a)) : Within C R (p.bind f) := by
  induction p with
  | pure a => exact hf a
  | throw e => exact hp
  | call o k ih => exact ⟨hp.1, fun x => ih x (hp.2 x)⟩

theorem Within.mono {p : Prog E ε α} {C' : E.Op → Prop} {R' : ε → Prop} (hp : Within C R p)
    (hC : ∀ o, C o → C' o) (hR : ∀ e, R e → R' e) : Within C' R' p := by
  induction p with
  | pure a => trivial
  | throw e => exact hR e hp
  | call o k ih => exact ⟨hC o hp.1, fun x => ih x (hp.2 x)⟩

theorem Within.calls {p : Prog E ε α} (hp : Within C R p) {answers : List E.Answered} {o : E.Op}
    (h : Calls p answers o) : C o ∧ ∀ x ∈ answers, C x.1 := by
  induction p generalizing answers with
  | pure a => exact h.elim
  | throw e => exact h.elim
  | call o' k ih =>
      rcases h with ⟨rfl, rfl⟩ | ⟨x, rest, rfl, h⟩
      · exact ⟨hp.1, List.forall_mem_nil _⟩
      · obtain ⟨ho, hrest⟩ := ih x (hp.2 x) h
        exact ⟨ho, List.forall_mem_cons.mpr ⟨hp.1, hrest⟩⟩

theorem Within.ends {p : Prog E ε α} (hp : Within C R p) {answers : List E.Answered}
    {r : Except ε α} (h : Ends p answers r) :
    (∀ x ∈ answers, C x.1) ∧ ∀ e, r = .error e → R e := by
  induction p generalizing answers with
  | pure a =>
      obtain ⟨rfl, rfl⟩ := (ends_pure a r).mp h
      exact ⟨List.forall_mem_nil _, fun _ he => by cases he⟩
  | throw e =>
      obtain ⟨rfl, rfl⟩ := (ends_throw e r).mp h
      refine ⟨List.forall_mem_nil _, fun _ he => ?_⟩
      cases he
      exact hp
  | call o k ih =>
      obtain ⟨x, rest, rfl, hends⟩ := ends_call.mp h
      obtain ⟨hrest, hr⟩ := ih x (hp.2 x) hends
      exact ⟨List.forall_mem_cons.mpr ⟨hp.1, hrest⟩, hr⟩

end Within

/-! ## What the answers so far permit -/

/-- The discipline that remembers every answer. -/
def history (permits : List E.Answered → E.Op → Prop) : Discipline E (List E.Answered) where
  permits := permits
  promises _ _ := True
  learn answers o x := answers ++ [⟨o, x⟩]

section History

variable {permits : List E.Answered → E.Op → Prop} {Q : Except ε α → List E.Answered → Prop}
  {before : List E.Answered}

end History

/-! ## How many calls -/

/-- No run makes more than `n` calls. -/
def CallsAtMost : Prog E ε α → Nat → Prop
  | .pure _, _ => True
  | .throw _, _ => True
  | .call _ k, n => ∃ m, n = m + 1 ∧ ∀ x, CallsAtMost (k x) m

theorem CallsAtMost.mono {p : Prog E ε α} {m n : Nat} (h : CallsAtMost p m) (hle : m ≤ n) :
    CallsAtMost p n := by
  induction p generalizing m n with
  | pure a => trivial
  | throw e => trivial
  | call o k ih =>
      obtain ⟨m, rfl, hk⟩ := h
      obtain ⟨n, rfl⟩ : ∃ l, n = l + 1 := ⟨n - 1, by omega⟩
      exact ⟨n, rfl, fun x => ih x (hk x) (by omega)⟩

theorem CallsAtMost.bind {p : Prog E ε α} {f : α → Prog E ε β} {m n : Nat}
    (hp : CallsAtMost p m) (hf : ∀ a, CallsAtMost (f a) n) : CallsAtMost (p.bind f) (m + n) := by
  induction p generalizing m with
  | pure a => exact (hf a).mono (Nat.le_add_left _ _)
  | throw e => trivial
  | call o k ih =>
      obtain ⟨m, rfl, hk⟩ := hp
      exact ⟨m + n, by omega, fun x => ih x (hk x)⟩

theorem callsAtMost_ask (o : E.Op) : CallsAtMost (ask o : Prog E ε (E.Ans o)) 1 :=
  ⟨0, rfl, fun _ => trivial⟩

theorem callsAtMost_ofExcept (r : Except ε α) : CallsAtMost (ofExcept r : Prog E ε α) 0 := by
  cases r <;> trivial

theorem callsAtMost_require (c : Prop) [Decidable c] (e : ε) :
    CallsAtMost (require c e : Prog E ε Unit) 0 := by
  by_cases hc : c <;> simp [require, hc, CallsAtMost]

theorem CallsAtMost.log_length {σ : Type} {h : (o : E.Op) → σ → E.Ans o × σ} {p : Prog E ε α}
    {n : Nat} (hp : CallsAtMost p n) (s : σ) : (log h p s).length ≤ n := by
  induction p generalizing n s with
  | pure a => exact Nat.zero_le _
  | throw e => exact Nat.zero_le _
  | call o k ih =>
      obtain ⟨m, rfl, hk⟩ := hp
      exact Nat.succ_le_succ (ih _ (hk _) _)

/-! ## Programs over two effects -/

section Sum

variable {F : Effect}

/-- An answer of the first effect among those of both. -/
def answeredLeft (F : Effect) (x : E.Answered) : (E.sum F).Answered := ⟨.inl x.1, x.2⟩

def answeredRight (F : Effect) (x : E.Answered) : (F.sum E).Answered := ⟨.inr x.1, x.2⟩

theorem returns_inl {p : Prog E ε α} {answers : List (E.sum F).Answered} {a : α} :
    Returns (p.inl (F := F)) answers a ↔
      ∃ own, answers = own.map (answeredLeft F) ∧ Returns p own a := by
  induction p generalizing answers with
  | pure b =>
      constructor
      · rintro ⟨rfl, rfl⟩
        exact ⟨[], rfl, rfl, rfl⟩
      · rintro ⟨_, rfl, rfl, rfl⟩
        exact ⟨rfl, rfl⟩
  | throw e =>
      constructor
      · intro h
        exact h.elim
      · rintro ⟨_, -, h⟩
        exact h.elim
  | call o k ih =>
      constructor
      · rintro ⟨x, rest, rfl, h⟩
        obtain ⟨own, rfl, hp⟩ := (ih x).mp h
        exact ⟨⟨o, x⟩ :: own, rfl, x, own, rfl, hp⟩
      · rintro ⟨_, rfl, x, own, rfl, hp⟩
        exact ⟨x, own.map (answeredLeft F), rfl, (ih x).mpr ⟨own, rfl, hp⟩⟩

theorem returns_inr {p : Prog E ε α} {answers : List (F.sum E).Answered} {a : α} :
    Returns (p.inr (F := F)) answers a ↔
      ∃ own, answers = own.map (answeredRight F) ∧ Returns p own a := by
  induction p generalizing answers with
  | pure b =>
      constructor
      · rintro ⟨rfl, rfl⟩
        exact ⟨[], rfl, rfl, rfl⟩
      · rintro ⟨_, rfl, rfl, rfl⟩
        exact ⟨rfl, rfl⟩
  | throw e =>
      constructor
      · intro h
        exact h.elim
      · rintro ⟨_, -, h⟩
        exact h.elim
  | call o k ih =>
      constructor
      · rintro ⟨x, rest, rfl, h⟩
        obtain ⟨own, rfl, hp⟩ := (ih x).mp h
        exact ⟨⟨o, x⟩ :: own, rfl, x, own, rfl, hp⟩
      · rintro ⟨_, rfl, x, own, rfl, hp⟩
        exact ⟨x, own.map (answeredRight F), rfl, (ih x).mpr ⟨own, rfl, hp⟩⟩

theorem calls_inl {p : Prog E ε α} {answers : List (E.sum F).Answered} {o : E.Op} :
    Calls (p.inl (F := F)) answers (.inl o) ↔
      ∃ own, answers = own.map (answeredLeft F) ∧ Calls p own o := by
  induction p generalizing answers with
  | pure b =>
      constructor
      · intro h
        exact h.elim
      · rintro ⟨_, -, h⟩
        exact h.elim
  | throw e =>
      constructor
      · intro h
        exact h.elim
      · rintro ⟨_, -, h⟩
        exact h.elim
  | call o' k ih =>
      constructor
      · rintro (⟨rfl, h⟩ | ⟨x, rest, rfl, h⟩)
        · exact ⟨[], rfl, .inl ⟨rfl, Sum.inl.inj h⟩⟩
        · obtain ⟨own, rfl, hp⟩ := (ih x).mp h
          exact ⟨⟨o', x⟩ :: own, rfl, .inr ⟨x, own, rfl, hp⟩⟩
      · rintro ⟨_, rfl, ⟨rfl, rfl⟩ | ⟨x, own, rfl, hp⟩⟩
        · exact .inl ⟨rfl, rfl⟩
        · exact .inr ⟨x, own.map (answeredLeft F), rfl, (ih x).mpr ⟨own, rfl, hp⟩⟩

/-- A program over the other effect makes none of these calls. -/
theorem not_calls_inr {p : Prog E ε α} {answers : List (F.sum E).Answered} {o : F.Op} :
    ¬Calls (p.inr (F := F)) answers (.inl o) := by
  induction p generalizing answers with
  | pure b => exact fun h => h
  | throw e => exact fun h => h
  | call o' k ih =>
      rintro (⟨-, h⟩ | ⟨x, rest, -, h⟩)
      · cases h
      · exact ih x h

end Sum

end Prog

end BhDic.Library
