import BhDic.Files.CustodyRuns
import Mathlib.Data.List.Infix

/-!
# Retention

After a purge nothing is left of an expired upload, provided that every move of its file was
recorded, that no file was created after the purge had deleted it, and that no call of the purge on
this upload, or on one listed before it, raised.
-/

namespace BhDic.Files

open BhDic.Library BhDic.Python
open BhDic.Library.Prog

/-- The upload a call is about. -/
def FileOp.subject : FileOp → Option String
  | .insert record | .replace record _ | .event _ record => some record.uploadId
  | .get id | .claimSha256 _ id | .create id | .fill id _ | .exists _ id | .rename id _ _
  | .chmod _ id | .unlink _ id | .readStored _ id | .detect id | .scan id => some id
  | .listRecords | .now | .restart => none

/-! ## What a purge does -/

section Purge

variable {now : Instant} {record : UploadRecord} {answers : List fileEffect.Answered}

/-- A call on the upload raised. -/
def Failed (uploadId : String) (answers : List fileEffect.Answered) : Prop :=
  ∃ o e, (⟨o, .error e⟩ : fileEffect.Answered) ∈ answers ∧ o.subject = some uploadId

/-- The upload was recorded as deleted. -/
def RecordedDeleted (uploadId : String) (answers : List fileEffect.Answered) : Prop :=
  ∃ deleted version, (⟨.replace deleted version, .ok ()⟩ : fileEffect.Answered) ∈ answers ∧
    deleted.uploadId = uploadId ∧ deleted.status = .deleted

theorem Failed.mono {uploadId : String} {answers' : List fileEffect.Answered}
    (h : Failed uploadId answers) (hsub : answers ⊆ answers') : Failed uploadId answers' := by
  obtain ⟨o, e, hmem, hsubject⟩ := h
  exact ⟨o, e, hsub hmem, hsubject⟩

theorem RecordedDeleted.mono {uploadId : String} {answers' : List fileEffect.Answered}
    (h : RecordedDeleted uploadId answers) (hsub : answers ⊆ answers') :
    RecordedDeleted uploadId answers' := by
  obtain ⟨deleted, version, hmem, hdeleted⟩ := h
  exact ⟨deleted, version, hsub hmem, hdeleted⟩

theorem ends_perform {o : FileOp} {r : Except Exn o.Returns} :
    Ends (perform o) answers r ↔ answers = [⟨o, r⟩] := by
  simp only [perform, ask, Prog.bind, ends_call, ends_ofExcept]
  constructor
  · rintro ⟨x, _, rfl, rfl, rfl⟩
    rfl
  · rintro rfl
    exact ⟨r, [], rfl, rfl, rfl⟩

/-- The part of a purge that writes the record. -/
theorem recordedDeleted_of_ends {deleted : UploadRecord} {version : Nat}
    {result : Except Exn (Option String)} (hdeleted : deleted.status = .deleted)
    (h : Ends (do
      perform (.replace deleted version)
      perform (.event "FILE_RETENTION_DELETED" deleted)
      return some deleted.uploadId) answers result) :
    (∃ purged, result = .ok purged) ∧ RecordedDeleted deleted.uploadId answers ∨
      Failed deleted.uploadId answers := by
  obtain ⟨_, _, rest, rfl, hreplace, h⟩ | ⟨e, hreplace, -⟩ := ends_bind.mp h
  · rw [ends_perform.mp hreplace]
    obtain ⟨_, _, _, rfl, -, h⟩ | ⟨e, hevent, -⟩ := ends_bind.mp h
    · obtain ⟨rfl, rfl⟩ := (ends_pure _ _).mp h
      exact .inl ⟨⟨_, rfl⟩, deleted, version, List.mem_cons_self, rfl, hdeleted⟩
    · rw [ends_perform.mp hevent]
      exact .inr ⟨.event "FILE_RETENTION_DELETED" deleted, e,
        List.mem_cons_of_mem _ (List.mem_singleton_self _), rfl⟩
  · rw [ends_perform.mp hreplace]
    exact .inr ⟨.replace deleted version, e, List.mem_singleton_self _, rfl⟩

/-- A purge that does not fail on a record goes on, and if the record is due it is recorded as
deleted. -/
theorem recordedDeleted_of_ends_purge {result : Except Exn (Option String)}
    (h : Ends (FileRetentionService.purge now record) answers result) :
    (∃ purged, result = .ok purged) ∧
        (record.status ≠ .deleted → record.expiresAt ≤ now →
          RecordedDeleted record.uploadId answers) ∨
      Failed record.uploadId answers := by
  unfold FileRetentionService.purge at h
  split at h
  · rename_i hskip
    obtain ⟨rfl, rfl⟩ := (ends_pure _ _).mp h
    refine .inl ⟨⟨_, rfl⟩, fun hstatus hexpired => ?_⟩
    obtain hdeleted | hnot := hskip
    · exact absurd hdeleted hstatus
    · exact absurd hexpired (Int.not_le.mpr hnot)
  · cases hbucket : record.bucket with
    | none =>
        rw [hbucket] at h
        obtain ⟨hok, hdeleted⟩ | hfailed := recordedDeleted_of_ends rfl h
        · exact .inl ⟨hok, fun _ _ => hdeleted⟩
        · exact .inr hfailed
    | some bucket =>
        rw [hbucket] at h
        obtain ⟨_, first, rest, rfl, -, h⟩ | ⟨e, h, -⟩ := ends_bind.mp h
        · have hsub : rest ⊆ first ++ rest := List.subset_append_right _ _
          obtain ⟨hok, hdeleted⟩ | hfailed := recordedDeleted_of_ends rfl h
          · exact .inl ⟨hok, fun _ _ => hdeleted.mono hsub⟩
          · exact .inr (hfailed.mono hsub)
        · rw [ends_perform.mp h]
          exact .inr ⟨.unlink bucket record.uploadId, e, List.mem_singleton_self _, rfl⟩

/-- The records are purged in order, up to the first that fails. -/
theorem recordedDeleted_of_ends_purgeAll {before after : List UploadRecord}
    {result : Except Exn (List String)}
    (h : Ends (FileRetentionService.purgeAll now (before ++ record :: after)) answers result)
    (hfailed : ∀ r ∈ before ++ [record], ¬Failed r.uploadId answers)
    (hstatus : record.status ≠ .deleted) (hexpired : record.expiresAt ≤ now) :
    RecordedDeleted record.uploadId answers := by
  induction before generalizing answers result with
  | nil =>
      obtain ⟨_, first, rest, rfl, h, -⟩ | ⟨e, h, -⟩ := ends_bind.mp h
      · have hsub : first ⊆ first ++ rest := List.subset_append_left _ _
        obtain ⟨-, hdeleted⟩ | hfailed' := recordedDeleted_of_ends_purge h
        · exact (hdeleted hstatus hexpired).mono hsub
        · exact absurd (hfailed'.mono hsub) (hfailed record (by simp))
      · obtain ⟨-, hdeleted⟩ | hfailed' := recordedDeleted_of_ends_purge h
        · exact hdeleted hstatus hexpired
        · exact absurd hfailed' (hfailed record (by simp))
  | cons r before ih =>
      obtain ⟨_, first, rest, rfl, -, h⟩ | ⟨e, h, -⟩ := ends_bind.mp h
      · have hsub : rest ⊆ first ++ rest := List.subset_append_right _ _
        have hrest : ∀ r ∈ before ++ [record], ¬Failed r.uploadId rest := fun r hmem hfailed' =>
          hfailed r (List.mem_cons_of_mem _ hmem) (hfailed'.mono hsub)
        obtain ⟨_, first', rest', rfl, h, -⟩ | ⟨e, h, -⟩ := ends_bind.mp h
        · apply RecordedDeleted.mono _ hsub
          apply RecordedDeleted.mono _ (List.subset_append_left first' rest')
          exact ih h fun r hmem hfailed' =>
            hrest r hmem (hfailed'.mono (List.subset_append_left first' rest'))
        · exact (ih h hrest).mono hsub
      · obtain ⟨⟨purged, hok⟩, -⟩ | hfailed' := recordedDeleted_of_ends_purge h
        · cases hok
        · exact absurd hfailed' (hfailed r (by simp))

end Purge

/-! ## What is left -/

/-- A record that is deleted has no file left, but for one whose move was not recorded or that was
created after the purge. -/
theorem WorldOk.not_has {w : FileWorld} (h : WorldOk w) {uploadId : String} {record : UploadRecord}
    (hrecord : w.records.get? uploadId = some record) (hdeleted : record.status = .deleted)
    (hrecorded : ∀ bucket, ¬Unrecorded w.log uploadId bucket) (hrevived : ¬Revived w.log uploadId)
    (bucket : Bucket) : ¬w.has bucket uploadId := by
  intro hhas
  obtain hplace | hunrecorded | ⟨-, hrevived'⟩ := h.placed bucket uploadId record hrecord hhas
  · rw [h.deletedBucket uploadId record hrecord hdeleted] at hplace
    cases hplace
  · exact hrecorded bucket hunrecorded
  · exact hrevived hrevived'

/-- **Retention**, in every interleaving: once a purge has ended, in whatever way, no file is left
of an upload it listed as expired. -/
theorem purgeExpired_leaves_no_file {c : FileSettings}
    {cfg : Config requestEffect Exn Unit FileRequest FileWorld}
    (h : Reachable (fileSystem c) {} cfg) {number : Nat} {now : Instant}
    {before after : List UploadRecord} {record : UploadRecord}
    {answers : List fileEffect.Answered} {result : Except Exn (List String)}
    (hanswers : answersOf (.purge number now) cfg.shared.log =
      ⟨.listRecords, .ok (before ++ record :: after)⟩ :: answers)
    (hends : Ends (FileRetentionService.purgeExpired now)
      (answersOf (.purge number now) cfg.shared.log) result)
    (hexpired : record.expiresAt ≤ now)
    (hfailed : ∀ r ∈ before ++ [record], ¬Failed r.uploadId answers)
    (hrecorded : ∀ bucket, ¬Unrecorded cfg.shared.log record.uploadId bucket)
    (hrevived : ¬Revived cfg.shared.log record.uploadId) (bucket : Bucket) :
    ¬cfg.shared.has bucket record.uploadId := by
  obtain ⟨ks, hcustody⟩ := h.invariant (custody_isInvariant c) custody_start
  have hworld := hcustody.world
  suffices hgone : ∃ current, cfg.shared.records.get? record.uploadId = some current ∧
      current.status = .deleted by
    obtain ⟨current, hcurrent, hdeleted⟩ := hgone
    exact hworld.not_has hcurrent hdeleted hrecorded hrevived bucket
  by_cases hstatus : record.status = .deleted
  · have hlisted : (⟨(.purge number now, .listRecords), .ok (before ++ record :: after)⟩ :
        FileEvent) ∈ cfg.shared.log := by
      rw [← mem_answersOf, hanswers]
      exact List.mem_cons_self
    obtain ⟨current, hcurrent, -, -, hfinal⟩ := hworld.listed _ _ hlisted record (by simp)
    exact ⟨current, hcurrent, hfinal hstatus⟩
  · rw [hanswers] at hends
    have hpurged : RecordedDeleted record.uploadId answers := by
      obtain ⟨records, first, rest, heq, hlist, hends⟩ | ⟨e, hlist, -⟩ := ends_bind.mp hends
      · rw [ends_perform.mp hlist] at heq
        obtain ⟨hanswer, rfl⟩ := List.cons.inj heq
        cases hanswer
        exact recordedDeleted_of_ends_purgeAll hends hfailed hstatus hexpired
      · cases ends_perform.mp hlist
    obtain ⟨deleted, version, hmem, hid, hdeleted⟩ := hpurged
    apply hworld.deletedFinal record.uploadId (.purge number now)
    refine ⟨deleted, version, ?_, hid, hdeleted⟩
    rw [← mem_answersOf, hanswers]
    exact List.mem_cons_of_mem _ hmem

/-! ## Logs that can be checked -/

section Check

variable (uploadId : String) (bucket : Bucket)

instance (event : FileEvent) : Decidable (event.records uploadId bucket) :=
  decidable_of_iff
    ((match event with
      | ⟨(_, .insert record), .ok _⟩ | ⟨(_, .replace record _), .ok _⟩ =>
          decide (record.uploadId = uploadId ∧ record.bucket = some bucket)
      | _ => false) = true) (by
    obtain ⟨⟨l, o⟩, answer⟩ := event
    cases o <;> cases answer <;> simp [FileEvent.records])

instance (event : FileEvent) : Decidable (event.unlinks uploadId) :=
  decidable_of_iff
    ((match event with
      | ⟨(_, .unlink source id), .ok _⟩ => decide (source = .quarantine ∧ id = uploadId)
      | _ => false) = true) (by
    obtain ⟨⟨l, o⟩, answer⟩ := event
    cases o <;> cases answer <;> simp [FileEvent.unlinks])

/-- The first of the events moves the file to the bucket, and no later one records it there. -/
def movesFirst : List FileEvent → Bool
  | ⟨(_, .rename id _ destination), .ok _⟩ :: after =>
      id = uploadId && destination = bucket &&
        after.all fun event => ¬event.records uploadId bucket
  | _ => false

theorem movesFirst_iff {events : List FileEvent} :
    movesFirst uploadId bucket events = true ↔ ∃ l source after,
      events = ⟨(l, .rename uploadId source bucket), .ok ()⟩ :: after ∧
        ∀ event ∈ after, ¬event.records uploadId bucket := by
  constructor
  · intro h
    unfold movesFirst at h
    split at h
    · simp only [Bool.and_eq_true, decide_eq_true_eq, List.all_eq_true] at h
      obtain ⟨⟨rfl, rfl⟩, hafter⟩ := h
      exact ⟨_, _, _, rfl, hafter⟩
    · cases h
  · rintro ⟨l, source, after, rfl, hafter⟩
    simpa [movesFirst] using hafter

instance (log : List FileEvent) : Decidable (Unrecorded log uploadId bucket) :=
  decidable_of_iff (∃ events ∈ log.tails, movesFirst uploadId bucket events = true) (by
    simp only [movesFirst_iff, List.mem_tails]
    constructor
    · rintro ⟨_, ⟨before, rfl⟩, l, source, after, rfl, hafter⟩
      exact ⟨before, l, source, after, rfl, hafter⟩
    · rintro ⟨before, l, source, after, rfl, hafter⟩
      exact ⟨_, ⟨before, rfl⟩, l, source, after, rfl, hafter⟩)

end Check

theorem not_failed_of_isOk {uploadId : String} {answers : List fileEffect.Answered}
    (h : ∀ answer ∈ answers, (answer.2 : Except Exn answer.1.Returns).isOk = true) :
    ¬Failed uploadId answers := by
  rintro ⟨o, e, hmem, -⟩
  cases h _ hmem

theorem Revived.unlinks {log : List FileEvent} {uploadId : String} (h : Revived log uploadId) :
    ∃ event ∈ log, event.unlinks uploadId := by
  obtain ⟨caller, ⟨before, l, after, rfl, hunlink, -⟩, -⟩ := h
  exact ⟨_, List.mem_append_left _ hunlink, rfl, rfl⟩

/-! A curriculum vitae is uploaded, claimed and, when it has expired, purged. -/

section Sample

def sampleUploads : List FileRequest :=
  [.ingest vitae "cv.pdf" (some "application/pdf") [.bytes [1, 2]], .claim vitae, .purge 1 20]

def twoUploads : List FileRequest :=
  [.ingest vitae "cv.pdf" (some "application/pdf") [.bytes [1, 2]],
    .ingest letter "letter.pdf" (some "application/pdf") [.bytes [1, 2, 3]], .purge 1 20]

/-- The record of a claimed file is not let be written. -/
def claimNotRecorded (_ : FileRequest) : FileOp → Bool
  | .replace record _ => record.status = .processed
  | _ => false

/-- The purge is not let delete one file. -/
def fileKept : FileRequest → FileOp → Bool
  | .purge .., .unlink _ uploadId => uploadId = vitae
  | _, _ => false

theorem purgeExpired_leaves_no_file_sampleUploads :
    ¬(sampleFileWorld noFailure sampleUploads).has .processed vitae := by
  have hok : ∀ answer ∈ answersOf (.purge 1 20) (sampleFileWorld noFailure sampleUploads).log,
      (answer.2 : Except Exn answer.1.Returns).isOk = true := by decide
  have hrecorded : ∀ bucket,
      ¬Unrecorded (sampleFileWorld noFailure sampleUploads).log vitae bucket := by
    intro bucket
    cases bucket <;> decide
  have hrevived : ¬Revived (sampleFileWorld noFailure sampleUploads).log vitae :=
    fun h => absurd h.unlinks (by decide)
  exact @purgeExpired_leaves_no_file sampleFiles _ (sampleFileWorld_reachable noFailure sampleUploads)
    1 20 [] [] _ _ (.ok [vitae]) rfl ⟨_, _, rfl, _, _, rfl, _, _, rfl, _, _, rfl, rfl, rfl⟩
    (by decide) (fun _ _ => not_failed_of_isOk fun _ hmem => hok _ (List.mem_cons_of_mem _ hmem))
    hrecorded hrevived .processed

/-- The file of a claim that was not recorded outlives the purge, which deletes nothing where the
record says it is; and a purge that cannot delete one file leaves the others. -/
theorem purgeExpired_leaves_files :
    (∃ cfg, Reachable (fileSystem sampleFiles) {} cfg ∧ cfg.tasks = [] ∧
      Ends (FileRetentionService.purgeExpired 20) (answersOf (.purge 1 20) cfg.shared.log)
        (.ok [vitae]) ∧ cfg.shared.has .processed vitae) ∧
    ∃ cfg, Reachable (fileSystem sampleFiles) {} cfg ∧ cfg.tasks = [] ∧
      Ends (FileRetentionService.purgeExpired 20) (answersOf (.purge 1 20) cfg.shared.log)
        (.error ⟨.osError, "refused"⟩) ∧
      (∀ answer ∈ answersOf (.purge 1 20) cfg.shared.log, answer.1.subject ≠ some letter) ∧
      cfg.shared.has .clean letter := by
  constructor
  · exact ⟨_, sampleFileWorld_reachable claimNotRecorded sampleUploads, rfl,
      ⟨_, _, rfl, _, _, rfl, _, _, rfl, _, _, rfl, rfl, rfl⟩, rfl⟩
  · refine ⟨_, sampleFileWorld_reachable fileKept twoUploads, rfl, ⟨_, _, rfl, _, _, rfl, rfl, rfl⟩,
      ?_, rfl⟩
    decide

end Sample

end BhDic.Files
