import BhDic.Python.Exceptions

/-!
# Loops that may raise

`foldlM` in `Except` is a `for` loop over a state. What one pass of the body preserves holds after
the loop, and the loop raises where a pass of its body does.
-/

namespace BhDic.Python

variable {ε α σ : Type} {f : σ → α → Except ε σ}

/-- The step and the run of a loop, over what has been looped through. -/
theorem foldlM_invariant {P : List α → σ → Prop} {s s' : σ} {as : List α} (hstart : P [] s)
    (hstep : ∀ pre a t t', P pre t → f t a = .ok t' → P (pre ++ [a]) t')
    (h : as.foldlM f s = .ok s') : P as s' := by
  have hrun : ∀ bs pre t, P pre t → List.foldlM f t bs = .ok s' → P (pre ++ bs) s' := by
    intro bs
    induction bs with
    | nil =>
      intro pre t ht h
      cases h
      simpa using ht
    | cons b bs ih =>
      intro pre t ht h
      rw [List.foldlM_cons] at h
      obtain ⟨t', hf, hrest⟩ := bind_eq_ok.mp h
      simpa using ih (pre ++ [b]) t' (hstep pre b t t' ht hf) hrest
  simpa using hrun as [] s hstart h

/-! ## What a computation raises -/

/-- A computation raises nothing but what `P` says. -/
def RaisesWithin {α : Type} (P : Exn → Prop) (x : Except Exn α) : Prop :=
  ∀ e, x = .error e → P e

section RaisesWithin

variable {β : Type} {P : Exn → Prop}

theorem raisesWithin_ok {a : α} : RaisesWithin P (.ok a : Except Exn α) := by
  intro e h
  cases h

theorem raisesWithin_error {e : Exn} (he : P e) : RaisesWithin P (.error e : Except Exn α) := by
  intro e' h
  cases h
  exact he

theorem RaisesWithin.bind {x : Except Exn α} {g : α → Except Exn β} (hx : RaisesWithin P x)
    (hg : ∀ a, x = .ok a → RaisesWithin P (g a)) : RaisesWithin P (x >>= g) := by
  cases x with
  | error e => exact raisesWithin_error (hx e rfl)
  | ok a => exact hg a rfl

theorem RaisesWithin.of_ok {x : Except Exn α} {g : α → Except Exn β} {a : α} (hx : x = .ok a)
    (hg : RaisesWithin P (g a)) : RaisesWithin P (x >>= g) := by
  rw [hx]
  exact hg

theorem raisesWithin_ensure {condition : Prop} [Decidable condition] {e : Exn} (he : P e) :
    RaisesWithin P (ensure condition e) := by
  unfold ensure
  split
  · exact raisesWithin_ok
  · exact raisesWithin_error he

theorem raisesWithin_mapM {g : α → Except Exn β} {as : List α}
    (hg : ∀ a ∈ as, RaisesWithin P (g a)) : RaisesWithin P (as.mapM g) := by
  induction as with
  | nil => exact raisesWithin_ok
  | cons a as ih =>
    rw [List.mapM_cons]
    apply RaisesWithin.bind (hg a List.mem_cons_self)
    intro b _
    apply RaisesWithin.bind (ih fun a' ha' => hg a' (List.mem_cons_of_mem a ha'))
    intro bs _
    exact raisesWithin_ok

theorem raisesWithin_foldlM {g : σ → α → Except Exn σ} (hg : ∀ s a, RaisesWithin P (g s a))
    (as : List α) (s : σ) : RaisesWithin P (as.foldlM g s) := by
  induction as generalizing s with
  | nil => exact raisesWithin_ok
  | cons a as ih =>
    rw [List.foldlM_cons]
    exact (hg s a).bind fun s' _ => ih s'

end RaisesWithin

/-! ## Exceptions of one class -/

section RaisesOnly

variable {β : Type} {c : ExnClass}

end RaisesOnly

end BhDic.Python
