import Mathlib.Data.List.Forall2
import Mathlib.Data.List.Range

/-!
# Hash chains

A log in which each entry carries its number, the hash of the entry before it, and its own hash,
which a digest of the entry has to be. What the last hash commits to is the whole log: two logs of
one length that end in the same hash agree entry by entry, as far as the digest tells entries apart.
-/

namespace BhDic.Library

/-- How an entry of a chain is read, and the digest its hash has to be. -/
structure ChainOf (E H : Type) where
  sequence : E → Nat
  previous : E → H
  hash : E → H
  digest : E → H

namespace ChainOf

variable {E H : Type} (c : ChainOf E H)

/-- The entries are numbered from `start` on and linked from `genesis` on. -/
def Linked : (start : Nat) → (genesis : H) → List E → Prop
  | _, _, [] => True
  | start, genesis, e :: es =>
      c.sequence e = start ∧ c.previous e = genesis ∧ c.hash e = c.digest e ∧
        Linked (start + 1) (c.hash e) es

/-- The hash a chain ends in. -/
def head : (genesis : H) → List E → H
  | genesis, [] => genesis
  | _, e :: es => head (c.hash e) es

variable {c} {start : Nat} {genesis : H} {e : E} {es es' : List E}

@[simp] theorem head_append : c.head genesis (es ++ [e]) = c.hash e := by
  induction es generalizing genesis with
  | nil => rfl
  | cons f es ih => exact ih

/-- A chain goes on with an entry that has the next number and the last hash. -/
theorem linked_append :
    c.Linked start genesis (es ++ [e]) ↔
      c.Linked start genesis es ∧ c.sequence e = start + es.length ∧
        c.previous e = c.head genesis es ∧ c.hash e = c.digest e := by
  induction es generalizing start genesis with
  | nil => simp [Linked, head]
  | cons f es ih =>
    rw [List.cons_append, Linked, Linked, ih, List.length_cons, head,
      show start + 1 + es.length = start + (es.length + 1) by omega]
    tauto

theorem Linked.sequences (h : c.Linked start genesis es) :
    es.map c.sequence = List.range' start es.length := by
  induction es generalizing start genesis with
  | nil => rfl
  | cons f es ih =>
    rw [List.map_cons, List.length_cons, List.range'_succ, h.1, ih h.2.2.2]

/-- Each entry carries its digest. -/
theorem Linked.hash_eq (h : c.Linked start genesis es) (he : e ∈ es) : c.hash e = c.digest e := by
  induction es generalizing start genesis with
  | nil => cases he
  | cons f es ih =>
    rcases List.mem_cons.mp he with rfl | he
    · exact h.2.2.1
    · exact ih h.2.2.2 he

/-- **Commitment.** Chains of one length that end in one hash are related entry by entry, when
entries with one digest are related and follow the same hash. The induction is from the last entry
back. -/
theorem Linked.commits {R : E → E → Prop} (h : c.Linked start genesis es)
    (h' : c.Linked start genesis es') (hlength : es.length = es'.length)
    (hhead : c.head genesis es = c.head genesis es')
    (hdigest : ∀ e ∈ es, ∀ e' ∈ es', c.digest e = c.digest e' →
      R e e' ∧ c.previous e = c.previous e') :
    List.Forall₂ R es es' := by
  induction es using List.reverseRecOn generalizing es' with
  | nil =>
    obtain rfl := List.eq_nil_of_length_eq_zero hlength.symm
    exact .nil
  | append_singleton es e ih =>
    rcases List.eq_nil_or_concat' es' with rfl | ⟨es', e', rfl⟩
    · simp at hlength
    obtain ⟨hes, _, hprevious, hhash⟩ := linked_append.mp h
    obtain ⟨hes', _, hprevious', hhash'⟩ := linked_append.mp h'
    rw [head_append, head_append, hhash, hhash'] at hhead
    obtain ⟨hrelated, hsame⟩ := hdigest e (by simp) e' (by simp) hhead
    rw [hprevious, hprevious'] at hsame
    have hrest : List.Forall₂ R es es' := by
      apply ih hes hes' (by simpa using hlength) hsame
      intro f hf f' hf'
      exact hdigest f (List.mem_append_left _ hf) f' (List.mem_append_left _ hf')
    exact List.rel_append hrest (.cons hrelated .nil)

end ChainOf

end BhDic.Library
