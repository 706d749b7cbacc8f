import BhDic.Library.Dict
import BhDic.Library.Interleaving
import BhDic.ModelUsage.Ledger

/-!
# The life of a usage event in every run

Any number of starts, completions and reads run at once over one table. In every run the rows are
those of a ledger: each key has one entry, which an effective completion closes for good. Loading a
row is another matter: it fails for an entry completed, by a clock set back, before it was opened.
-/

namespace BhDic.ModelUsage

open BhDic.Library BhDic.Python
open SqlAlchemyModelUsageRepository

/-- What the repository can be asked to do. -/
inductive UsageRequest
  | start (record : ModelUsageStart)
  | get (key : ModelUsageKey)
  | latest
  | complete (key : ModelUsageKey) (status : ModelUsageStatus) (usage : Option ProviderTokenUsage)
  | totals (correlationId : Option String)

/-- The program of a request; what it returns is left out. -/
def UsageRequest.program (u : UnicodeData) : UsageRequest → UsageProg Unit
  | .start record => do
      let _ ← SqlAlchemyModelUsageRepository.start u record
  | .get key => do
      let _ ← SqlAlchemyModelUsageRepository.get u key
  | .latest => do
      let _ ← SqlAlchemyModelUsageRepository.latest u
  | .complete key status usage => do
      let _ ← SqlAlchemyModelUsageRepository.complete u key status usage
  | .totals correlationId => do
      let _ ← SqlAlchemyModelUsageRepository.totals correlationId

/-- The repository over one table. The clock may answer any time. -/
def usageSystem (u : UnicodeData) (keepsZone : Bool) :
    System usageEffect Exn Unit UsageRequest UsageWorld where
  body := UsageRequest.program u
  exec o w answer w' := ∃ rows, w.Exec keepsZone o answer rows ∧ w' = ⟨rows, w.log ++ [⟨o, answer⟩]⟩

/-- What an update that changed a row wrote, if the call is one, on this key. -/
def effective (key : ModelUsageKey) : usageEffect.Answered → Option CompletionValues
  | ⟨.updateStarted key' values, rowcount⟩ =>
      if key' = key ∧ (rowcount : Nat) ≠ 0 then some values else none
  | _ => none

/-- The completions of a key that took effect, in order. -/
def completionsOf (key : ModelUsageKey) (log : List usageEffect.Answered) : List CompletionValues :=
  log.filterMap (effective key)

@[simp] theorem completionsOf_append (key : ModelUsageKey) (log : List usageEffect.Answered)
    (event : usageEffect.Answered) :
    completionsOf key (log ++ [event]) = completionsOf key log ++ (effective key event).toList := by
  cases h : effective key event <;> simp [completionsOf, h]

/-! ## The ledger behind the table -/

/-- The rows are those of the entries, and what the calls so far completed is what is recorded. -/
structure LedgerOk (keepsZone : Bool) (w : UsageWorld) (entries : List UsageEntry) : Prop where
  rows : w.rows = entries.map (·.row keepsZone)
  nodup : (entries.map (·.key)).Nodup
  recorded : ∀ e ∈ entries,
    completionsOf e.key w.log = (e.completion.map Completion.values).toList
  unrecorded : ∀ key, (∀ e ∈ entries, e.key ≠ key) → completionsOf key w.log = []

namespace LedgerOk

variable {keepsZone : Bool} {w : UsageWorld} {entries : List UsageEntry}

theorem checks (h : LedgerOk keepsZone w entries) : ∀ row ∈ w.rows, row.checks = true := by
  intro row hrow
  rw [h.rows] at hrow
  obtain ⟨e, -, rfl⟩ := List.mem_map.mp hrow
  exact e.checks_row keepsZone

theorem eq_of_key (h : LedgerOk keepsZone w entries) {e e' : UsageEntry} (he : e ∈ entries)
    (he' : e' ∈ entries) (hkey : e.key = e'.key) : e = e' :=
  List.inj_on_of_nodup_map h.nodup he he' hkey

/-- Selecting by key finds the row of the entry. -/
theorem find_row (h : LedgerOk keepsZone w entries) {e : UsageEntry} (he : e ∈ entries) :
    w.rows.find? (·.hasKey e.key) = some (e.row keepsZone) := by
  have hsame : (fun e' : UsageEntry => (e'.row keepsZone).hasKey e.key) =
      fun e' => e'.key == e.key := by
    funext e'
    rw [Bool.eq_iff_iff, UsageEntry.hasKey_row, beq_iff_eq]
  rw [h.rows, List.find?_map]
  show Option.map _ (entries.find? fun e' => (e'.row keepsZone).hasKey e.key) = _
  rw [hsame, (find?_key_eq_some UsageEntry.key h.nodup).mpr ⟨he, rfl⟩, Option.map_some]

theorem countP_startedWith (h : LedgerOk keepsZone w entries) (key : ModelUsageKey) :
    w.rows.countP (·.startedWith key) =
      entries.countP fun e => e.key = key ∧ e.completion = none := by
  rw [h.rows, List.countP_map]
  apply List.countP_congr
  intro e _
  simp [UsageEntry.startedWith_row]

theorem updated_rows (h : LedgerOk keepsZone w entries) (key : ModelUsageKey) (c : Completion) :
    w.updated keepsZone key c.values = (entries.map (·.complete key c)).map (·.row keepsZone) := by
  rw [UsageWorld.updated, h.rows, List.map_map, List.map_map]
  apply List.map_congr_left
  intro e _
  exact e.updated_row keepsZone key c

/-- What was completed is recorded. -/
theorem exists_completion (h : LedgerOk keepsZone w entries) {key : ModelUsageKey}
    {values : CompletionValues} (hvalues : values ∈ completionsOf key w.log) :
    ∃ e ∈ entries, e.key = key ∧ ∃ c, e.completion = some c ∧ c.values = values := by
  by_cases hkey : ∃ e ∈ entries, e.key = key
  · obtain ⟨e, he, rfl⟩ := hkey
    rw [h.recorded e he] at hvalues
    cases hc : e.completion with
    | none => simp [hc] at hvalues
    | some c =>
        have hsame : values = c.values := by simpa [hc] using hvalues
        exact ⟨e, he, rfl, c, hc, hsame.symm⟩
  · push Not at hkey
    simp [h.unrecorded key hkey] at hvalues

/-! ### What a call does to it -/

/-- A call that changes no row. -/
theorem quiet (h : LedgerOk keepsZone w entries) {event : usageEffect.Answered}
    (hevent : ∀ key, effective key event = none) :
    LedgerOk keepsZone ⟨w.rows, w.log ++ [event]⟩ entries where
  rows := h.rows
  nodup := h.nodup
  recorded e he := by simp [hevent, h.recorded e he]
  unrecorded key hkey := by simp [hevent, h.unrecorded key hkey]

/-- A start whose key is new opens an entry. -/
theorem inserted (h : LedgerOk keepsZone w entries) {usageId : Uuid} {record : ModelUsageStart}
    {createdAt : Instant} {event : usageEffect.Answered}
    (hevent : ∀ key, effective key event = none)
    (hadmits : w.admits (startedRow record createdAt usageId) = true) :
    LedgerOk keepsZone
      ⟨w.rows ++ [UsageWorld.stored keepsZone (startedRow record createdAt usageId)],
        w.log ++ [event]⟩
      (entries ++ [⟨usageId, record, createdAt, none⟩]) := by
  have hnew : ∀ e ∈ entries, e.key ≠ record.key := by
    intro e he hkey
    simp only [UsageWorld.admits, decide_eq_true_eq] at hadmits
    have hclash := hadmits.2 (e.row keepsZone) (by rw [h.rows]; exact List.mem_map_of_mem he)
    simp [UsageRow.clashes, startedRow, UsageEntry.row, hkey] at hclash
  refine ⟨?_, ?_, ?_, ?_⟩
  · simp [h.rows, UsageEntry.stored_startedRow]
  · rw [List.map_append, List.nodup_append]
    refine ⟨h.nodup, List.nodup_singleton _, ?_⟩
    intro key hkey key' hkey'
    obtain ⟨e, he, rfl⟩ := List.mem_map.mp hkey
    rw [List.map_singleton, List.mem_singleton] at hkey'
    rw [hkey']
    exact hnew e he
  · intro e he
    rcases List.mem_append.mp he with he | he
    · simp [hevent, h.recorded e he]
    · obtain rfl := List.mem_singleton.mp he
      simp [hevent, h.unrecorded record.key hnew, UsageEntry.key]
  · intro key hkey
    have hold : ∀ e ∈ entries, e.key ≠ key := fun e he => hkey e (List.mem_append_left _ he)
    simp [hevent, h.unrecorded key hold]

/-- A completion closes the entry of its key, if that is open, and does nothing else. -/
theorem completed (h : LedgerOk keepsZone w entries) (key : ModelUsageKey) (c : Completion) :
    LedgerOk keepsZone
      ⟨w.updated keepsZone key c.values,
        w.log ++ [⟨.updateStarted key c.values, w.rows.countP (·.startedWith key)⟩]⟩
      (entries.map (·.complete key c)) := by
  have hcount := h.countP_startedWith key
  refine ⟨h.updated_rows key c, ?_, ?_, ?_⟩
  · rw [List.map_map]
    have hkeys : (fun e => e.key) ∘ (fun e : UsageEntry => e.complete key c) = fun e => e.key := by
      funext e
      simp
    rw [hkeys]
    exact h.nodup
  · intro e' he'
    obtain ⟨e, he, rfl⟩ := List.mem_map.mp he'
    simp only [completionsOf_append, UsageEntry.key_complete, h.recorded e he]
    by_cases hopen : e.key = key ∧ e.completion = none
    · have hpos : w.rows.countP (·.startedWith key) ≠ 0 := by
        rw [hcount, ← Nat.pos_iff_ne_zero, List.countP_pos_iff]
        exact ⟨e, he, by simpa using hopen⟩
      simp [effective, UsageEntry.complete, hopen, hpos]
    · have hnone : effective e.key
          ⟨.updateStarted key c.values, w.rows.countP (·.startedWith key)⟩ = none := by
        apply if_neg
        rintro ⟨hkey, hpos⟩
        apply hpos
        rw [hcount, List.countP_eq_zero]
        intro e' he'
        simp only [decide_eq_true_eq]
        rintro ⟨hkey', hopen'⟩
        -- the open entry of the key would be this one, which is not open
        have hsame := h.eq_of_key he he' (hkey.symm.trans hkey'.symm)
        rw [← hsame] at hopen'
        exact hopen ⟨hkey.symm, hopen'⟩
      simp [hnone, UsageEntry.complete, hopen]
  · intro key' hkey'
    have hold : ∀ e ∈ entries, e.key ≠ key' := by
      intro e he
      have := hkey' _ (List.mem_map_of_mem he)
      rwa [UsageEntry.key_complete] at this
    have hnone : effective key'
        ⟨.updateStarted key c.values, w.rows.countP (·.startedWith key)⟩ = none := by
      apply if_neg
      rintro ⟨rfl, hpos⟩
      apply hpos
      rw [hcount, List.countP_eq_zero]
      intro e he
      simp [hold e he]
    simp [h.unrecorded key' hold, hnone]

end LedgerOk

/-! ## What a program writes -/

/-- A program adds only new rows, and completes only with an outcome. -/
def wellFormed : Prog.Discipline usageEffect Unit where
  permits _
    | .insert row => ∃ record createdAt usageId, row = startedRow record createdAt usageId
    | .updateStarted _ values => ∃ c : Completion, values = c.values
    | _ => True
  promises _ _ := True
  learn k _ _ := k

section Guarded

variable (u : UnicodeData)

/-- Leaving out what a program returns. -/
theorem guarded_drop {α : Type} {p : UsageProg α}
    (h : Prog.Guarded wellFormed p (fun _ _ => True) ()) :
    Prog.Guarded wellFormed (do let _ ← p) (fun _ _ => True) () := by
  show Prog.Guarded wellFormed (p.bind fun _ => .pure ()) _ ()
  rw [Prog.guarded_bind]
  apply Prog.guarded_mono _ h
  rintro (e | a) _ _ <;> trivial

theorem guarded_load (row : UsageRow) : Prog.Guarded wellFormed
    ((Prog.ofExcept (toDomain u row)).bind fun event => .pure (some event))
    (fun _ _ => True) () := by
  simp [Prog.guarded_bind]
  split <;> trivial

theorem guarded_get (key : ModelUsageKey) :
    Prog.Guarded wellFormed (SqlAlchemyModelUsageRepository.get u key) (fun _ _ => True) () := by
  refine ⟨trivial, ?_⟩
  intro row _
  cases row with
  | none => trivial
  | some row => exact guarded_load u row

theorem guarded_start (record : ModelUsageStart) :
    Prog.Guarded wellFormed (SqlAlchemyModelUsageRepository.start u record)
      (fun _ _ => True) () := by
  simp only [SqlAlchemyModelUsageRepository.start, Prog.bind_def, Prog.guarded_bind]
  refine ⟨trivial, ?_⟩
  intro createdAt _
  refine ⟨trivial, ?_⟩
  intro usageId _
  constructor
  · exact ⟨record, createdAt, usageId, rfl⟩
  intro committed _
  cases committed with
  | true => simp only [Prog.guarded_pure, if_true, Prog.guarded_ofExcept]
  | false =>
      simp only [Prog.guarded_pure, Bool.false_eq_true, if_false, Prog.guarded_bind]
      apply Prog.guarded_mono _ (guarded_get u record.key)
      rintro (e | _ | existing) _ _
      · trivial
      · trivial
      · show Prog.Guarded wellFormed (ite _ _ _) _ ()
        split <;> trivial

theorem guarded_complete (key : ModelUsageKey) (status : ModelUsageStatus)
    (usage : Option ProviderTokenUsage) :
    Prog.Guarded wellFormed (SqlAlchemyModelUsageRepository.complete u key status usage)
      (fun _ _ => True) () := by
  simp only [SqlAlchemyModelUsageRepository.complete, Prog.bind_def, Prog.guarded_bind,
    Prog.guarded_require]
  refine ⟨?_, fun _ => trivial⟩
  intro hterminal
  refine ⟨?_, fun _ => trivial⟩
  intro hcounters
  obtain ⟨o, rfl, rfl⟩ := Outcome.exists_of_guards hterminal hcounters
  refine ⟨trivial, fun completedAt _ => ⟨⟨⟨o, completedAt⟩, rfl⟩, fun rowcount _ => ?_⟩⟩
  apply Prog.guarded_mono _ (guarded_get u key)
  rintro (e | _ | current) _ _
  · trivial
  · trivial
  · show Prog.Guarded wellFormed (ite _ _ (ite _ _ _)) _ ()
    split
    · trivial
    · split <;> trivial

theorem guarded_program (l : UsageRequest) :
    Prog.Guarded wellFormed (l.program u) (fun _ _ => True) () := by
  cases l with
  | start record => exact guarded_drop (guarded_start u record)
  | get key => exact guarded_drop (guarded_get u key)
  | latest =>
      apply guarded_drop
      refine ⟨trivial, ?_⟩
      intro row _
      cases row with
      | none => trivial
      | some row => exact guarded_load u row
  | complete key status usage => exact guarded_drop (guarded_complete u key status usage)
  | totals correlationId =>
      apply guarded_drop
      refine ⟨trivial, ?_⟩
      intro row _
      simp [Prog.guarded_bind]
      split <;> simp

end Guarded

/-! ## Every run -/

/-- What a call tells that finds its key already completed. `P` is what is known of every ledger. -/
def EventOk (keepsZone : Bool) (P : List UsageEntry → Prop) (before : List usageEffect.Answered) :
    usageEffect.Answered → Prop
  | ⟨.updateStarted key _, rowcount⟩ => completionsOf key before ≠ [] → (rowcount : Nat) = 0
  | ⟨.selectByKey key, answer⟩ => ∀ values ∈ completionsOf key before,
      ∃ entries, P entries ∧ ∃ e ∈ entries, e.key = key ∧
        (∃ c, e.completion = some c ∧ c.values = values) ∧ answer = some (e.row keepsZone)
  | _ => True

/-- Each call of the log tells so of the calls before it. -/
def LogOk (keepsZone : Bool) (P : List UsageEntry → Prop) (log : List usageEffect.Answered) :
    Prop :=
  ∀ before event after, log = before ++ event :: after → EventOk keepsZone P before event

theorem LogOk.append {keepsZone : Bool} {P : List UsageEntry → Prop}
    {log : List usageEffect.Answered} {event : usageEffect.Answered} (h : LogOk keepsZone P log)
    (hevent : EventOk keepsZone P log event) : LogOk keepsZone P (log ++ [event]) := by
  intro before event' after heq
  rcases List.eq_nil_or_concat after with rfl | ⟨after, last, rfl⟩
  · obtain ⟨rfl, hlast⟩ := List.append_inj' heq rfl
    cases hlast
    exact hevent
  · rw [List.concat_eq_append, ← List.cons_append, ← List.append_assoc] at heq
    exact h before event' after (List.append_inj' heq rfl).1

/-- What every ledger satisfies, if the calls are allowed. -/
structure KeptWhen (keepsZone : Bool) (allowed : UsageWorld → UsageOp → Prop)
    (P : List UsageEntry → Prop) : Prop where
  empty : P []
  opened : ∀ {entries usageId start createdAt}, P entries →
    P (entries ++ [⟨usageId, start, createdAt, none⟩])
  completed : ∀ {w entries key} {c : Completion}, LedgerOk keepsZone w entries → P entries →
    allowed w (.updateStarted key c.values) → P (entries.map (·.complete key c))

def UsageWorldOk (keepsZone : Bool) (P : List UsageEntry → Prop) (w : UsageWorld) : Prop :=
  ∃ entries, LedgerOk keepsZone w entries ∧ P entries ∧ LogOk keepsZone P w.log

section Invariant

variable {u : UnicodeData} {keepsZone : Bool} {allowed : UsageWorld → UsageOp → Prop}
  {P : List UsageEntry → Prop}

theorem UsageWorldOk.call (hP : KeptWhen keepsZone allowed P) {w w' : UsageWorld} {o : UsageOp}
    {answer : o.Returns} (h : UsageWorldOk keepsZone P w) (hpermits : wellFormed.permits () o)
    (hexec : ((usageSystem u keepsZone).within allowed).exec o w answer w') :
    UsageWorldOk keepsZone P w' := by
  obtain ⟨entries, hledger, hentries, hlog⟩ := h
  obtain ⟨hallowed, rows, hexec, rfl⟩ := hexec
  cases o with
  | now | newUuid =>
      cases hexec
      exact ⟨entries, hledger.quiet fun _ => rfl, hentries, hlog.append trivial⟩
  | selectLatest | aggregate =>
      obtain ⟨-, rfl⟩ := hexec
      exact ⟨entries, hledger.quiet fun _ => rfl, hentries, hlog.append trivial⟩
  | selectByKey key =>
      obtain ⟨rfl, rfl⟩ := hexec
      refine ⟨entries, hledger.quiet fun _ => rfl, hentries, hlog.append ?_⟩
      intro values hvalues
      obtain ⟨e, he, rfl, hc⟩ := hledger.exists_completion hvalues
      exact ⟨entries, hentries, e, he, rfl, hc, hledger.find_row he⟩
  | insert row =>
      obtain ⟨record, createdAt, usageId, rfl⟩ := hpermits
      obtain ⟨rfl, rfl⟩ := hexec
      split
      · rename_i hadmits
        exact ⟨_, hledger.inserted (fun _ => rfl) hadmits, hP.opened hentries, hlog.append trivial⟩
      · exact ⟨entries, hledger.quiet fun _ => rfl, hentries, hlog.append trivial⟩
  | updateStarted key values =>
      obtain ⟨c, rfl⟩ := hpermits
      obtain ⟨rfl, rfl⟩ := hexec
      refine ⟨_, hledger.completed key c, hP.completed hledger hentries hallowed, hlog.append ?_⟩
      intro hcompleted
      rw [hledger.countP_startedWith, List.countP_eq_zero]
      intro e he
      simp only [decide_eq_true_eq]
      rintro ⟨rfl, hopen⟩
      simp [hledger.recorded e he, hopen] at hcompleted

end Invariant

end BhDic.ModelUsage
