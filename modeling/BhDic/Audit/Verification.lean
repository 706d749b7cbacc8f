import BhDic.Audit.Service

/-!
# Verification of any content

What `verify` does with tables that were not written by `append`. It reads every row through the
models first, and a row that they refuse raises; so do a payload that cannot be written, where the
chain before it is intact, and a stored hash outside of ASCII, where the whole chain is. What the
models strip or rewrite before the hash is taken goes unnoticed.
-/

namespace BhDic.Audit

open BhDic.Library BhDic.Python

/-! ## When the loop raises -/

section Loop

variable {u : UnicodeData} {hmac : HmacSha256} {key : ByteString} {seq eventCount : Nat}
  {previous stateHash : String} {stateSequence : Int} {e : AuditEventView u}
  {es : List (AuditEventView u)}

end Loop

/-! ## What append can write -/

/-- Two rows that no constraint of the table forbids together. -/
def AuditRow.Distinct (row row' : AuditRow) : Prop :=
  row.sequence ≠ row'.sequence ∧ row.eventId ≠ row'.eventId ∧ row.eventHash ≠ row'.eventHash

theorem AuditRow.Distinct.symm {row row' : AuditRow} (h : row.Distinct row') : row'.Distinct row :=
  ⟨h.1.symm, h.2.1.symm, h.2.2.symm⟩

section Written

variable {u : UnicodeData} {service : AuditService} {keepsZone : Bool}

/-- The columns are those that some run of appends leaves. -/
def AuditTables.Written (u : UnicodeData) (service : AuditService) (keepsZone : Bool)
    (tables : AuditTables) : Prop :=
  ∃ w : AuditWorld u Unit, AuditReachable service keepsZone w ∧
    w.tables.events = tables.ordered ∧ w.tables.state = tables.state

/-- A row of written tables is one that `append` writes. -/
theorem AuditTables.Written.rows {tables : AuditTables} (h : tables.Written u service keepsZone) :
    ∀ row ∈ tables.events, ∃ e : AuditEventView u, row = e.row keepsZone e.eventHash := by
  intro row hrow
  obtain ⟨w, hw, hevents, -⟩ := h
  have hmem : row ∈ w.tables.events := by
    rw [hevents]
    exact (List.perm_insertionSort _ _).mem_iff.mpr hrow
  rw [(auditOk_of_reachable hw).tables] at hmem
  obtain ⟨e, -, rfl⟩ := List.mem_map.mp hmem
  exact ⟨e, rfl⟩

end Written

/-! ## Tables with one row -/

/-- The row of the read event. -/
def readRow : AuditRow := countThenPage.row false countThenPage.eventHash

end BhDic.Audit
