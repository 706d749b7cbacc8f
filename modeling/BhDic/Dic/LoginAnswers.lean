import BhDic.Dic.LoginQuiet

/-!
# What the answers of a login tell

When a part of a login returns, the answers it was given tell why: the account was read back from
each of its controls, the page was seen at the password, and the tenant was attested by a response
that came after the page had been emptied.
-/

namespace BhDic.Dic.Auth

open BhDic.Library BhDic.Python

/-! ## Histories -/

abbrev History := List pageEffect.Answered

/-- The accounts that were read back. -/
def accountReads (history : History) : List (Control × Except Fault PyValue) :=
  history.filterMap fun
    | ⟨.inputValue control, read⟩ => some (control, read)
    | _ => none

/-- The submits that were started, and what came of them. -/
def submissions (history : History) : List (Except Fault PyValue) :=
  history.filterMap fun
    | ⟨.submitSecret _ _, result⟩ => some result
    | _ => none

@[simp] theorem accountReads_append (h h' : History) :
    accountReads (h ++ h') = accountReads h ++ accountReads h' := List.filterMap_append

@[simp] theorem submissions_append (h h' : History) :
    submissions (h ++ h') = submissions h ++ submissions h' := List.filterMap_append

theorem accountReads_quiet {h : History} (hquiet : ∀ x ∈ h, IsQuiet x.1) : accountReads h = [] := by
  apply List.filterMap_eq_nil_iff.mpr
  rintro ⟨o, x⟩ hx
  have ho := hquiet _ hx
  cases o <;> first | rfl | exact ho.elim

theorem submissions_quiet {h : History} (hquiet : ∀ x ∈ h, IsQuiet x.1) : submissions h = [] := by
  apply List.filterMap_eq_nil_iff.mpr
  rintro ⟨o, x⟩ hx
  have ho := hquiet _ hx
  cases o <;> first | rfl | exact ho.elim

/-! ## What was answered -/

section Answers

variable {α : Type} {answers : History}

end Answers

/-! ## The account -/

namespace Authenticator

variable {a : Authenticator} {answers : History}

/-- The page was seen at the password of TeamSystem. -/
def SeenAtSecretEntry (a : Authenticator) (history : History) : Prop :=
  ∃ url, ⟨.url, .ok url⟩ ∈ history ∧
    isExactRoute a.data.toUrlData url teamsystemOrigin teamsystemSecretEntryPath true = .ok true

/-- A control of the account has read back the account. -/
def ReadsBack (a : Authenticator) (username : String) (index : Nat)
    (read : Control × Except Fault PyValue) : Prop :=
  read.1 = ⟨accountSelector, index⟩ ∧
    ∃ text, read.2 = .ok (.str text) ∧ accountName a text = accountName a username

/-- Each control of the account, of which there are one to four, has read back the account, and the
page was seen at the password afterwards. -/
def AccountBound (a : Authenticator) (username : String) (history : History) : Prop :=
  ∃ (before reads after : History) (n : Nat), history =
      before ++ ⟨.count accountSelector, .ok (.int n)⟩ :: reads ++ after ∧
    1 ≤ n ∧ n ≤ maxTeamsystemAccountControls ∧
    accountReads before = [] ∧ accountReads after = [] ∧
    List.Forall₂ (ReadsBack a username) (List.range n) (accountReads reads) ∧
    SeenAtSecretEntry a after

theorem AccountBound.append {username : String} {h h' : History}
    (hbound : AccountBound a username h) (hreads : accountReads h' = []) :
    AccountBound a username (h ++ h') := by
  obtain ⟨before, reads, after, n, rfl, hn, hmax, hbefore, hafter, hreads', url, hurl, hexact⟩ :=
    hbound
  refine ⟨before, reads, after ++ h', n, ?_, hn, hmax, hbefore, ?_, hreads', url, ?_, hexact⟩
  · simp only [List.append_assoc, List.cons_append]
  · rw [accountReads_append, hafter, hreads, List.append_nil]
  · exact List.mem_append_left _ hurl

end Authenticator

end BhDic.Dic.Auth
