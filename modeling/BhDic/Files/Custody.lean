import BhDic.Files.Runs

/-!
# Where the file of an upload is

A file lies in the bucket its record names, except where a rename has not been recorded, or where a
file was created after retention had deleted it. `Custody` is the invariant of every run that says
so, together with what each running program may count on.
-/

namespace BhDic.Files

open BhDic.Library BhDic.Python
open BhDic.Library.Prog

/-! ## What the log says of an upload -/

/-- The event records that the upload is in the bucket. -/
def FileEvent.records (uploadId : String) (bucket : Bucket) : FileEvent → Prop
  | ⟨(_, .insert record), .ok _⟩ => record.uploadId = uploadId ∧ record.bucket = some bucket
  | ⟨(_, .replace record _), .ok _⟩ => record.uploadId = uploadId ∧ record.bucket = some bucket
  | _ => False

/-- The event deletes the file of the upload from the quarantine. -/
def FileEvent.unlinks (uploadId : String) : FileEvent → Prop
  | ⟨(_, .unlink bucket id), .ok _⟩ => bucket = .quarantine ∧ id = uploadId
  | _ => False

section Log

variable (log : List FileEvent) (uploadId : String)

/-- The file was moved to the bucket, and no later event records that it is there. -/
def Unrecorded (bucket : Bucket) : Prop :=
  ∃ before l source after, log = before ++ ⟨(l, .rename uploadId source bucket), .ok ()⟩ :: after ∧
    ∀ event ∈ after, ¬FileEvent.records uploadId bucket event

/-- The file was created after the caller had deleted it from the quarantine, and has not been
deleted from there since. -/
def CreatedAfter (caller : FileRequest) : Prop :=
  ∃ before l after, log = before ++ ⟨(l, .create uploadId), .ok ()⟩ :: after ∧
    ⟨(caller, .unlink .quarantine uploadId), .ok ()⟩ ∈ before ∧
    ∀ event ∈ after, ¬FileEvent.unlinks uploadId event

/-- The caller has recorded the upload as deleted. -/
def Deleted (caller : FileRequest) : Prop :=
  ∃ record version, ⟨(caller, .replace record version), .ok ()⟩ ∈ log ∧
    record.uploadId = uploadId ∧ record.status = .deleted

/-- The file was created after a purge had deleted it, and the purge recorded the upload as
deleted. -/
def Revived : Prop := ∃ caller, CreatedAfter log uploadId caller ∧ Deleted log uploadId caller

/-- A purge has deleted the file from the quarantine and recorded the upload as deleted. -/
def Retired : Prop :=
  ∃ caller, ⟨(caller, .unlink .quarantine uploadId), .ok ()⟩ ∈ log ∧ Deleted log uploadId caller

end Log

section Append

variable {log : List FileEvent} {uploadId : String} {event : FileEvent}

theorem Unrecorded.append {bucket : Bucket} (h : Unrecorded log uploadId bucket)
    (hevent : ¬event.records uploadId bucket) : Unrecorded (log ++ [event]) uploadId bucket := by
  obtain ⟨before, l, source, after, rfl, hafter⟩ := h
  refine ⟨before, l, source, after ++ [event], by simp, ?_⟩
  intro event' hmem
  obtain hmem | hmem := List.mem_append.mp hmem
  · exact hafter event' hmem
  · rw [List.mem_singleton.mp hmem]
    exact hevent

theorem unrecorded_rename (log : List FileEvent) (uploadId : String) (l : FileRequest)
    (source destination : Bucket) :
    Unrecorded (log ++ [⟨(l, .rename uploadId source destination), .ok ()⟩]) uploadId destination :=
  ⟨log, l, source, [], rfl, by simp⟩

theorem CreatedAfter.append {caller : FileRequest} (h : CreatedAfter log uploadId caller)
    (hevent : ¬event.unlinks uploadId) : CreatedAfter (log ++ [event]) uploadId caller := by
  obtain ⟨before, l, after, rfl, hunlink, hafter⟩ := h
  refine ⟨before, l, after ++ [event], by simp, hunlink, ?_⟩
  intro event' hmem
  obtain hmem | hmem := List.mem_append.mp hmem
  · exact hafter event' hmem
  · rw [List.mem_singleton.mp hmem]
    exact hevent

theorem Deleted.append {caller : FileRequest} (h : Deleted log uploadId caller) :
    Deleted (log ++ [event]) uploadId caller := by
  obtain ⟨record, version, hmem, hrecord⟩ := h
  exact ⟨record, version, List.mem_append_left _ hmem, hrecord⟩

theorem Revived.append (h : Revived log uploadId) (hevent : ¬event.unlinks uploadId) :
    Revived (log ++ [event]) uploadId := by
  obtain ⟨caller, hcreated, hdeleted⟩ := h
  exact ⟨caller, hcreated.append hevent, hdeleted.append⟩

theorem Retired.append (h : Retired log uploadId) : Retired (log ++ [event]) uploadId := by
  obtain ⟨caller, hunlink, hdeleted⟩ := h
  exact ⟨caller, List.mem_append_left _ hunlink, hdeleted.append⟩

theorem createdAfter_create {caller : FileRequest} (l : FileRequest)
    (hunlink : ⟨(caller, .unlink .quarantine uploadId), .ok ()⟩ ∈ log) :
    CreatedAfter (log ++ [⟨(l, .create uploadId), .ok ()⟩]) uploadId caller :=
  ⟨log, l, [], rfl, hunlink, by simp⟩

theorem Retired.create (h : Retired log uploadId) (l : FileRequest) :
    Revived (log ++ [⟨(l, .create uploadId), .ok ()⟩]) uploadId := by
  obtain ⟨caller, hunlink, hdeleted⟩ := h
  exact ⟨caller, createdAfter_create l hunlink, hdeleted.append⟩

end Append

/-! ## What a running program knows -/

/-- What a program has learned: the upload it ingests, whether it may still create the file, whether
it has claimed the content, the last record it read or wrote, whether it found the quarantine
without the file, where it has moved the file without having recorded it, and what a purge has
listed and deleted. -/
structure Knowledge where
  label : FileRequest
  owner : Option String := none
  uncreated : Bool := false
  claimed : Bool := false
  record : Option UploadRecord := none
  absent : Bool := false
  moved : Option Bucket := none
  listing : List UploadRecord := []
  unlinked : Option (Bucket × String) := none

/-- The record of the upload is one the program knows. -/
def Knowledge.Holds (k : Knowledge) (uploadId : String) (record : UploadRecord) : Prop :=
  k.record = some record ∧ record.uploadId = uploadId

/-- What may be written over the record that is known. -/
structure Knowledge.MayWrite (k : Knowledge) (record : UploadRecord) (current : UploadRecord) :
    Prop where
  known : k.record = some current
  sameUpload : record.uploadId = current.uploadId
  notDeleted : record.status ≠ .deleted
  bucket : record.bucket = k.moved ∧ k.moved ≠ none ∨
    k.moved = none ∧ (record.bucket = current.bucket ∨ record.bucket = none ∧ k.absent = true ∧
      current.bucket = some .quarantine ∧ k.owner = some current.uploadId)
  ownerOrClean :
    k.owner = some current.uploadId ∧ k.uncreated = false ∧ current.status = .quarantined ∨
      k.owner = none ∧ current.status = .clean

/-- What a purge may write over a record it has listed. -/
structure Knowledge.MayDelete (k : Knowledge) (record : UploadRecord) (current : UploadRecord) :
    Prop where
  notOwner : k.owner = none
  listed : current ∈ k.listing
  sameUpload : record.uploadId = current.uploadId
  deleted : record.status = .deleted
  bucket : record.bucket = none
  unlinked : ∀ bucket, current.bucket = some bucket →
    k.unlinked = some (bucket, current.uploadId)

/-- Which calls the programs make, and what they learn. -/
def custody : Discipline requestEffect Knowledge where
  permits
    | k, (l, .insert record) =>
        k.label = l ∧ k.owner = none ∧ k.moved = none ∧ k.absent = false ∧
        (record.status = .quarantined ∧ record.bucket = some .quarantine ∨
          record.status = .rejected ∧ record.bucket = none)
    | k, (l, .create uploadId) => k.label = l ∧ k.owner = some uploadId ∧ k.uncreated = true
    | k, (l, .rename uploadId source destination) => k.label = l ∧ k.moved = none ∧
        destination ≠ .quarantine ∧ source ≠ destination ∧ ∃ record, k.Holds uploadId record ∧
          record.bucket = some source ∧
          (k.owner = some uploadId ∧ k.uncreated = false ∨ k.owner = none ∧ source = .clean)
    | k, (l, .replace record version) => k.label = l ∧ ∃ current, version = current.version ∧
        (k.MayWrite record current ∨ k.MayDelete record current)
    | k, (l, .claimSha256 _ uploadId) => k.label = l ∧ k.owner = some uploadId ∧
        k.claimed = false ∧ ∃ record, k.Holds uploadId record ∧ record.status = .quarantined
    | k, (l, .unlink bucket uploadId) => k.label = l ∧
        (k.owner = some uploadId ∧ bucket = .quarantine ∨
          ∃ record ∈ k.listing, record.uploadId = uploadId ∧ record.bucket = some bucket)
    | k, (l, .listRecords) => k.label = l ∧ k.unlinked = none
    | k, (l, _) => k.label = l
  promises _ _ := True
  learn
    | k, (_, .insert record), .ok () =>
        { k with
          owner := some record.uploadId
          uncreated := record.bucket = some .quarantine
          record := some record }
    | k, (_, .create _), _ => { k with uncreated := false }
    | k, (_, .claimSha256 _ _), _ => { k with claimed := true }
    | k, (_, .exists .quarantine uploadId), .ok (present : Bool) =>
        if present = false ∧ k.owner = some uploadId ∧ k.uncreated = false then
          { k with absent := true }
        else k
    | k, (_, .rename _ _ destination), .ok () => { k with moved := some destination }
    | k, (_, .replace record _), .ok () =>
        if record.status = .deleted then k
        else { k with record := some record, moved := none }
    | k, (_, .get _), .ok (found : Option UploadRecord) =>
        if k.owner = none then { k with record := found, moved := none } else k
    | k, (_, .listRecords), .ok (records : List UploadRecord) => { k with listing := records }
    | k, (_, .unlink bucket uploadId), .ok () => { k with unlinked := some (bucket, uploadId) }
    | k, _, _ => k

/-! ## The invariant -/

/-- The file of the upload is in the bucket. -/
def FileWorld.has (w : FileWorld) (bucket : Bucket) (uploadId : String) : Prop :=
  (w.files.get? (bucket, uploadId)).isSome = true

/-- What is stored is the record, or a later one. -/
def Known (w : FileWorld) (record : UploadRecord) : Prop :=
  ∃ current, w.records.get? record.uploadId = some current ∧ record.version ≤ current.version ∧
    (record.version = current.version →
      current.status = record.status ∧ current.bucket = record.bucket) ∧
    (record.status = .deleted → current.status = .deleted)

/-- What is stored is still the record. -/
def Current (w : FileWorld) (record : UploadRecord) : Prop :=
  ∃ current, w.records.get? record.uploadId = some current ∧ record.version = current.version

structure WorldOk (w : FileWorld) : Prop where
  keyed : ∀ id record, w.records.get? id = some record → record.uploadId = id
  recorded : ∀ bucket id, w.has bucket id → ∃ record, w.records.get? id = some record
  placed : ∀ bucket id record, w.records.get? id = some record → w.has bucket id →
    record.bucket = some bucket ∨ Unrecorded w.log id bucket ∨
      bucket = .quarantine ∧ Revived w.log id
  deletedBucket : ∀ id record, w.records.get? id = some record → record.status = .deleted →
    record.bucket = none
  deletedFinal : ∀ id caller, Deleted w.log id caller →
    ∃ record, w.records.get? id = some record ∧ record.status = .deleted
  listed : ∀ l (records : List UploadRecord), ⟨(l, .listRecords), .ok records⟩ ∈ w.log →
    ∀ record ∈ records, Known w record

structure KnowledgeOk (w : FileWorld) (k : Knowledge) : Prop where
  known : ∀ record, k.record = some record → Known w record
  listed : ∀ record ∈ k.listing, Known w record
  owned : ∀ id, k.owner = some id → ∃ record, w.records.get? id = some record
  uncreated : ∀ id, k.owner = some id → k.uncreated = true →
    k.moved = none ∧ (∀ bucket, ¬w.has bucket id) ∧ ∃ record, w.records.get? id = some record ∧
      (record.bucket = some .quarantine ∧ record.status = .quarantined ∨ Retired w.log id)
  quarantined : ∀ id record, k.owner = some id → k.record = some record →
    record.status = .quarantined → ∃ current, w.records.get? id = some current ∧
      (current.status = .quarantined ∨ current.status = .deleted)
  absent : ∀ id, k.owner = some id → k.absent = true →
    k.uncreated = false ∧ ¬w.has .quarantine id
  moved : ∀ record bucket, k.moved ≠ none → k.record = some record →
    record.bucket = some bucket → (bucket = .quarantine → k.owner = some record.uploadId) ∧
      (Current w record → ¬w.has bucket record.uploadId ∨ Unrecorded w.log record.uploadId bucket)
  unlinked : ∀ bucket id, k.unlinked = some (bucket, id) →
    ⟨(k.label, .unlink bucket id), .ok ()⟩ ∈ w.log ∧ ∀ record ∈ k.listing, record.uploadId = id →
      Current w record → ¬w.has bucket id ∨ Unrecorded w.log id bucket ∨
        bucket = .quarantine ∧ CreatedAfter w.log id k.label

/-- The program ingests the upload. -/
def owns (uploadId : String) (k : Knowledge) : Bool := k.owner = some uploadId

structure Custody (w : FileWorld) (ks : List Knowledge) : Prop where
  world : WorldOk w
  knowledge : ∀ k ∈ ks, KnowledgeOk w k
  oneOwner : ∀ id, ks.countP (owns id) ≤ 1

/-! ## Calls that leave the records -/

/-- A call leaves the records as they are, and a file is only where it was, where it was moved to or
where it was created. -/
structure FilesChange (w w' : FileWorld) (event : FileEvent) : Prop where
  records : w'.records = w.records
  log : w'.log = w.log ++ [event]
  silent : ∀ id bucket, ¬event.records id bucket
  unlinks : ∀ id, event.unlinks id → ¬w'.has .quarantine id
  unlisted : ∀ l (records : List UploadRecord), event = ⟨(l, .listRecords), .ok records⟩ →
    ∀ record ∈ records, Known w record
  undeleted : ∀ id caller, Deleted w'.log id caller → Deleted w.log id caller
  appears : ∀ bucket id, w'.has bucket id → w.has bucket id ∨
    bucket ≠ .quarantine ∧ (∃ l source, event = ⟨(l, .rename id source bucket), .ok ()⟩) ∨
    bucket = .quarantine ∧ ∃ l, event = ⟨(l, .create id), .ok ()⟩
  renames : ∀ l id source bucket, event = ⟨(l, .rename id source bucket), .ok ()⟩ →
    ∃ bucket', w.has bucket' id

section FilesChange

variable {w w' : FileWorld} {event : FileEvent} {k : Knowledge}

theorem FilesChange.known (hc : FilesChange w w' event) {record : UploadRecord} :
    Known w' record ↔ Known w record := by
  rw [Known, Known, hc.records]

theorem FilesChange.current (hc : FilesChange w w' event) {record : UploadRecord} :
    Current w' record ↔ Current w record := by
  rw [Current, Current, hc.records]

theorem FilesChange.unrecorded (hc : FilesChange w w' event) {id : String} {bucket : Bucket}
    (h : Unrecorded w.log id bucket) : Unrecorded w'.log id bucket := by
  rw [hc.log]
  exact h.append (hc.silent id bucket)

theorem FilesChange.unrecorded_of_rename (hc : FilesChange w w' event) {l : FileRequest}
    {id : String} {source bucket : Bucket}
    (hevent : event = ⟨(l, .rename id source bucket), .ok ()⟩) :
    Unrecorded w'.log id bucket := by
  rw [hc.log, hevent]
  exact unrecorded_rename _ _ _ _ _

/-- A program that does not create the file keeps what it knows. -/
theorem KnowledgeOk.filesChange (h : KnowledgeOk w k) (hc : FilesChange w w' event)
    (hcreate : ∀ l id, event = ⟨(l, .create id), .ok ()⟩ → k.owner ≠ some id) :
    KnowledgeOk w' k where
  known record hrecord := hc.known.mpr (h.known record hrecord)
  listed record hmem := hc.known.mpr (h.listed record hmem)
  owned := by
    rw [hc.records]
    exact h.owned
  uncreated id howner huncreated := by
    obtain ⟨hmoved, hnone, record, hrecord, hplace⟩ := h.uncreated id howner huncreated
    refine ⟨hmoved, fun bucket hhas => ?_, record, by rwa [hc.records], ?_⟩
    · obtain hhas | ⟨-, l, source, hevent⟩ | ⟨-, l, hevent⟩ := hc.appears bucket id hhas
      · exact hnone bucket hhas
      · obtain ⟨bucket', hhas'⟩ := hc.renames l id source bucket hevent
        exact hnone bucket' hhas'
      · exact hcreate l id hevent howner
    · rw [hc.log]
      exact hplace.imp_right Retired.append
  quarantined := by
    rw [hc.records]
    exact h.quarantined
  absent id howner habsent := by
    obtain ⟨hcreated, hnot⟩ := h.absent id howner habsent
    refine ⟨hcreated, fun hhas => ?_⟩
    obtain hhas | ⟨hne, -⟩ | ⟨-, l, hevent⟩ := hc.appears _ id hhas
    · exact hnot hhas
    · exact hne rfl
    · exact hcreate l id hevent howner
  moved record bucket hmoved hrecord hbucket := by
    obtain ⟨howner, hplace⟩ := h.moved record bucket hmoved hrecord hbucket
    refine ⟨howner, fun hcurrent => ?_⟩
    obtain hnot | hunrecorded := hplace (hc.current.mp hcurrent)
    · by_cases hhas : w'.has bucket record.uploadId
      · obtain hhas | ⟨-, l, source, hevent⟩ | ⟨hquarantine, l, hevent⟩ :=
          hc.appears bucket _ hhas
        · exact absurd hhas hnot
        · exact .inr (hc.unrecorded_of_rename hevent)
        · exact absurd (howner hquarantine) (hcreate l _ hevent)
      · exact .inl hhas
    · exact .inr (hc.unrecorded hunrecorded)
  unlinked bucket id hunlinked := by
    obtain ⟨hmem, hplace⟩ := h.unlinked bucket id hunlinked
    refine ⟨by rw [hc.log]; exact List.mem_append_left _ hmem, ?_⟩
    intro record hrecord hid hcurrent
    by_cases hhas : w'.has bucket id
    · obtain hhas' | ⟨-, l, source, hevent⟩ | ⟨rfl, l, hevent⟩ := hc.appears bucket _ hhas
      · obtain hnot | hunrecorded | ⟨rfl, hcreated⟩ := hplace record hrecord hid
          (hc.current.mp hcurrent)
        · exact absurd hhas' hnot
        · exact .inr (.inl (hc.unrecorded hunrecorded))
        · refine .inr (.inr ⟨rfl, ?_⟩)
          rw [hc.log]
          exact hcreated.append fun hunlinks => hc.unlinks id hunlinks hhas
      · exact .inr (.inl (hc.unrecorded_of_rename hevent))
      · refine .inr (.inr ⟨rfl, ?_⟩)
        rw [hc.log, hevent]
        exact createdAfter_create l hmem
    · exact .inl hhas

theorem WorldOk.filesChange (h : WorldOk w) (hc : FilesChange w w' event)
    (hcreate : ∀ l id, event = ⟨(l, .create id), .ok ()⟩ →
      ∃ record, w.records.get? id = some record ∧
        (record.bucket = some .quarantine ∨ Retired w.log id)) : WorldOk w' where
  keyed := by
    rw [hc.records]
    exact h.keyed
  recorded bucket id hhas := by
    rw [hc.records]
    obtain hhas | ⟨-, l, source, hevent⟩ | ⟨-, l, hevent⟩ := hc.appears bucket id hhas
    · exact h.recorded bucket id hhas
    · obtain ⟨bucket', hhas'⟩ := hc.renames l id source bucket hevent
      exact h.recorded bucket' id hhas'
    · obtain ⟨record, hrecord, -⟩ := hcreate l id hevent
      exact ⟨record, hrecord⟩
  placed bucket id record hrecord hhas := by
    rw [hc.records] at hrecord
    obtain hhas' | ⟨-, l, source, hevent⟩ | ⟨rfl, l, hevent⟩ := hc.appears bucket id hhas
    · obtain hplace | hunrecorded | ⟨rfl, hrevived⟩ := h.placed bucket id record hrecord hhas'
      · exact .inl hplace
      · exact .inr (.inl (hc.unrecorded hunrecorded))
      · refine .inr (.inr ⟨rfl, ?_⟩)
        rw [hc.log]
        exact hrevived.append fun hunlinks => hc.unlinks id hunlinks hhas
    · exact .inr (.inl (hc.unrecorded_of_rename hevent))
    · obtain ⟨record', hrecord', hplace | hretired⟩ := hcreate l id hevent
      · rw [hrecord, Option.some.injEq] at hrecord'
        subst hrecord'
        exact .inl hplace
      · refine .inr (.inr ⟨rfl, ?_⟩)
        rw [hc.log, hevent]
        exact hretired.create l
  deletedBucket := by
    rw [hc.records]
    exact h.deletedBucket
  deletedFinal id caller hdeleted := by
    rw [hc.records]
    exact h.deletedFinal id caller (hc.undeleted id caller hdeleted)
  listed l records hmem record hrecord := by
    rw [hc.log, List.mem_append, List.mem_singleton] at hmem
    rw [hc.known]
    obtain hmem | hevent := hmem
    · exact h.listed l records hmem record hrecord
    · exact hc.unlisted l records hevent.symm record hrecord

end FilesChange

/-! ## A new record -/

section Inserted

variable {c : FileSettings} {w : FileWorld} {k : Knowledge} {l : FileRequest}
  {record : UploadRecord}

/-- The world after a record is inserted. -/
def FileWorld.inserted (c : FileSettings) (w : FileWorld) (l : FileRequest)
    (record : UploadRecord) : FileWorld :=
  { w.store c record with log := w.log ++ [⟨(l, .insert record), .ok ()⟩] }

theorem get?_inserted (hnew : w.records.get? record.uploadId = none) {id : String}
    (hold : ∃ old, w.records.get? id = some old) :
    (w.inserted c l record).records.get? id = w.records.get? id := by
  show (w.records.set _ _).get? id = _
  rw [Dict.get?_set, if_neg]
  rintro rfl
  obtain ⟨old, hold⟩ := hold
  rw [hnew] at hold
  cases hold

theorem Unrecorded.inserted (hnew : w.records.get? record.uploadId = none) {id : String}
    (hold : ∃ old, w.records.get? id = some old) {bucket : Bucket}
    (h : Unrecorded w.log id bucket) : Unrecorded (w.inserted c l record).log id bucket := by
  refine h.append fun hrecords => ?_
  obtain ⟨old, hold⟩ := hold
  rw [← hrecords.1, hnew] at hold
  cases hold

theorem Known.inserted (hnew : w.records.get? record.uploadId = none) {known : UploadRecord}
    (h : Known w known) : Known (w.inserted c l record) known := by
  obtain ⟨current, hcurrent, hknown⟩ := h
  exact ⟨current, by rwa [get?_inserted hnew ⟨current, hcurrent⟩], hknown⟩

theorem Known.of_current_inserted (hnew : w.records.get? record.uploadId = none)
    {known : UploadRecord} (h : Known w known) (hcurrent : Current (w.inserted c l record) known) :
    Current w known := by
  obtain ⟨current, hget, -⟩ := h
  obtain ⟨current', hget', hversion⟩ := hcurrent
  rw [get?_inserted hnew ⟨current, hget⟩] at hget'
  exact ⟨current', hget', hversion⟩

theorem KnowledgeOk.inserted (h : KnowledgeOk w k)
    (hnew : w.records.get? record.uploadId = none) : KnowledgeOk (w.inserted c l record) k where
  known known hknown := (h.known known hknown).inserted hnew
  listed known hmem := (h.listed known hmem).inserted hnew
  owned id howner := by
    rw [get?_inserted hnew (h.owned id howner)]
    exact h.owned id howner
  uncreated id howner huncreated := by
    obtain ⟨hmoved, hnone, old, hold, hplace⟩ := h.uncreated id howner huncreated
    exact ⟨hmoved, hnone, old, by rwa [get?_inserted hnew ⟨old, hold⟩],
      hplace.imp_right Retired.append⟩
  quarantined id known howner hknown hstatus := by
    rw [get?_inserted hnew (h.owned id howner)]
    exact h.quarantined id known howner hknown hstatus
  absent := h.absent
  moved known bucket hmoved hknown hbucket := by
    obtain ⟨howner, hplace⟩ := h.moved known bucket hmoved hknown hbucket
    refine ⟨howner, fun hcurrent => ?_⟩
    obtain ⟨current, hget, -⟩ := h.known known hknown
    exact (hplace ((h.known known hknown).of_current_inserted hnew hcurrent)).imp_right
      (Unrecorded.inserted hnew ⟨current, hget⟩)
  unlinked bucket id hunlinked := by
    obtain ⟨hmem, hplace⟩ := h.unlinked bucket id hunlinked
    refine ⟨List.mem_append_left _ hmem, fun known hknown hid hcurrent => ?_⟩
    obtain ⟨current, hget, -⟩ := h.listed known hknown
    subst hid
    obtain hnot | hunrecorded | ⟨hbucket, hcreated⟩ := hplace known hknown rfl
      ((h.listed known hknown).of_current_inserted hnew hcurrent)
    · exact .inl hnot
    · exact .inr (.inl (hunrecorded.inserted hnew ⟨current, hget⟩))
    · exact .inr (.inr ⟨hbucket, hcreated.append fun hunlinks => hunlinks⟩)

theorem WorldOk.inserted (h : WorldOk w) (hnew : w.records.get? record.uploadId = none)
    (hstatus : record.status ≠ .deleted) : WorldOk (w.inserted c l record) where
  keyed id known hget := by
    have hset := (Dict.get?_set w.records record.uploadId id (persisted c.unicode record)).symm.trans
      hget
    split at hset
    · rename_i hid
      rw [hid, ← Option.some.inj hset]
      rfl
    · exact h.keyed id known hset
  recorded bucket id hhas := by
    obtain ⟨old, hold⟩ := h.recorded bucket id hhas
    exact ⟨old, by rwa [get?_inserted hnew ⟨old, hold⟩]⟩
  placed bucket id known hget hhas := by
    obtain ⟨old, hold⟩ := h.recorded bucket id hhas
    rw [get?_inserted hnew ⟨old, hold⟩] at hget
    obtain hplace | hunrecorded | ⟨hbucket, hrevived⟩ := h.placed bucket id known hget hhas
    · exact .inl hplace
    · exact .inr (.inl (hunrecorded.inserted hnew ⟨old, hold⟩))
    · exact .inr (.inr ⟨hbucket, hrevived.append fun hunlinks => hunlinks⟩)
  deletedBucket id known hget hdeleted := by
    have hset := (Dict.get?_set w.records record.uploadId id (persisted c.unicode record)).symm.trans
      hget
    split at hset
    · rw [← Option.some.inj hset] at hdeleted
      exact absurd hdeleted hstatus
    · exact h.deletedBucket id known hset hdeleted
  deletedFinal id caller hdeleted := by
    obtain ⟨deleted, version, hmem, hdeleted⟩ := hdeleted
    have hmem : ⟨(caller, .replace deleted version), .ok ()⟩ ∈ w.log := by
      obtain hmem | hevent := List.mem_append.mp hmem
      · exact hmem
      · cases List.mem_singleton.mp hevent
    obtain ⟨old, hold, hfinal⟩ := h.deletedFinal id caller ⟨deleted, version, hmem, hdeleted⟩
    exact ⟨old, by rwa [get?_inserted hnew ⟨old, hold⟩], hfinal⟩
  listed l' records hmem known hknown := by
    have hmem : ⟨(l', .listRecords), .ok records⟩ ∈ w.log := by
      obtain hmem | hevent := List.mem_append.mp hmem
      · exact hmem
      · cases List.mem_singleton.mp hevent
    exact (h.listed l' records hmem known hknown).inserted hnew

end Inserted

/-! ## A record replaced -/

section Replaced

variable {c : FileSettings} {w : FileWorld} {k : Knowledge} {l : FileRequest}
  {record current : UploadRecord} {version : Nat}

/-- The world after a record is replaced. -/
def FileWorld.replaced (c : FileSettings) (w : FileWorld) (l : FileRequest)
    (record : UploadRecord) (version : Nat) : FileWorld :=
  { w.store c record with log := w.log ++ [⟨(l, .replace record version), .ok ()⟩] }

/-- What a replacement may do to the stored record. -/
structure Replaces (w : FileWorld) (record current : UploadRecord) : Prop where
  stored : w.records.get? record.uploadId = some current
  version : record.version = current.version + 1
  final : current.status = .deleted → record.status = .deleted

theorem get?_replaced (id : String) :
    (w.replaced c l record version).records.get? id =
      if id = record.uploadId then some (persisted c.unicode record) else w.records.get? id :=
  Dict.get?_set _ _ _ _

theorem Unrecorded.replaced {id : String} {bucket : Bucket} (h : Unrecorded w.log id bucket)
    (hplace : record.uploadId = id → record.bucket ≠ some bucket) :
    Unrecorded (w.replaced c l record version).log id bucket :=
  h.append fun hrecords => hplace hrecords.1 hrecords.2

theorem Known.replaced (hr : Replaces w record current) {known : UploadRecord}
    (h : Known w known) : Known (w.replaced c l record version) known := by
  obtain ⟨stored, hstored, hle, hsame, hfinal⟩ := h
  rw [Known, get?_replaced]
  split
  · rename_i hid
    rw [hid, hr.stored, Option.some.injEq] at hstored
    subst hstored
    have hversion : (persisted c.unicode record).version = current.version + 1 := hr.version
    refine ⟨_, rfl, by omega, fun heq => absurd heq (by omega), fun hdeleted => ?_⟩
    exact hr.final (hfinal hdeleted)
  · exact ⟨stored, hstored, hle, hsame, hfinal⟩

/-- A record known before a replacement is not the stored one any more. -/
theorem Known.of_current_replaced (hr : Replaces w record current) {known : UploadRecord}
    (h : Known w known) (hcurrent : Current (w.replaced c l record version) known) :
    known.uploadId ≠ record.uploadId ∧ Current w known := by
  obtain ⟨stored, hstored, hle, -⟩ := h
  obtain ⟨current', hget, hversion⟩ := hcurrent
  rw [get?_replaced] at hget
  split at hget
  · rename_i hid
    rw [hid, hr.stored, Option.some.injEq] at hstored
    subst hstored
    have hnext : current'.version = current.version + 1 := by
      rw [← Option.some.inj hget]
      exact hr.version
    omega
  · rename_i hid
    exact ⟨hid, current', hget, hversion⟩

theorem KnowledgeOk.replaced (h : KnowledgeOk w k) (hr : Replaces w record current)
    (hother : k.owner = some record.uploadId →
      current.status = .quarantined ∨ current.status = .deleted →
      record.status = .deleted ∧ (current.bucket = some .quarantine →
        ⟨(l, .unlink .quarantine record.uploadId), .ok ()⟩ ∈ w.log)) :
    KnowledgeOk (w.replaced c l record version) k where
  known known hknown := (h.known known hknown).replaced hr
  listed known hmem := (h.listed known hmem).replaced hr
  owned id howner := by
    rw [get?_replaced]
    split
    · exact ⟨_, rfl⟩
    · exact h.owned id howner
  uncreated id howner huncreated := by
    obtain ⟨hmoved, hnone, old, hold, hplace⟩ := h.uncreated id howner huncreated
    refine ⟨hmoved, hnone, ?_⟩
    rw [get?_replaced]
    split
    · rename_i hid
      subst hid
      refine ⟨_, rfl, .inr ?_⟩
      rw [hr.stored, Option.some.injEq] at hold
      subst hold
      obtain ⟨hbucket, hstatus⟩ | hretired := hplace
      · obtain ⟨hdeleted, hunlink⟩ := hother howner (.inl hstatus)
        exact ⟨l, List.mem_append_left _ (hunlink hbucket), record, version,
          List.mem_append_right _ (List.mem_singleton_self _), rfl, hdeleted⟩
      · exact hretired.append
    · exact ⟨old, hold, hplace.imp_right Retired.append⟩
  quarantined id known howner hknown hstatus := by
    obtain ⟨stored, hstored, hplace⟩ := h.quarantined id known howner hknown hstatus
    rw [get?_replaced]
    split
    · rename_i hid
      subst hid
      rw [hr.stored, Option.some.injEq] at hstored
      subst hstored
      exact ⟨_, rfl, .inr (hother howner hplace).1⟩
    · exact ⟨stored, hstored, hplace⟩
  absent := h.absent
  moved known bucket hmoved hknown hbucket := by
    obtain ⟨howner, hplace⟩ := h.moved known bucket hmoved hknown hbucket
    refine ⟨howner, fun hcurrent => ?_⟩
    obtain ⟨hne, hcurrent⟩ := (h.known known hknown).of_current_replaced hr hcurrent
    exact (hplace hcurrent).imp_right fun hunrecorded =>
      hunrecorded.replaced fun heq => absurd heq.symm hne
  unlinked bucket id hunlinked := by
    obtain ⟨hmem, hplace⟩ := h.unlinked bucket id hunlinked
    refine ⟨List.mem_append_left _ hmem, fun known hknown hid hcurrent => ?_⟩
    obtain ⟨hne, hcurrent⟩ := (h.listed known hknown).of_current_replaced hr hcurrent
    obtain hnot | hunrecorded | ⟨hbucket, hcreated⟩ := hplace known hknown hid hcurrent
    · exact .inl hnot
    · exact .inr (.inl (hunrecorded.replaced fun heq => absurd (hid.trans heq.symm) hne))
    · exact .inr (.inr ⟨hbucket, hcreated.append fun hunlinks => hunlinks⟩)

theorem WorldOk.replaced (h : WorldOk w) (hr : Replaces w record current)
    (hplaced : ∀ bucket, w.has bucket record.uploadId → current.bucket = some bucket →
      record.bucket ≠ some bucket → Unrecorded w.log record.uploadId bucket ∨
        bucket = .quarantine ∧ CreatedAfter w.log record.uploadId l ∧ record.status = .deleted)
    (hbucket : record.status = .deleted → record.bucket = none) :
    WorldOk (w.replaced c l record version) where
  keyed id known hget := by
    rw [get?_replaced] at hget
    split at hget
    · rename_i hid
      rw [hid, ← Option.some.inj hget]
      rfl
    · exact h.keyed id known hget
  recorded bucket id hhas := by
    rw [get?_replaced]
    split
    · exact ⟨_, rfl⟩
    · exact h.recorded bucket id hhas
  placed bucket id known hget hhas := by
    rw [get?_replaced] at hget
    split at hget
    · rename_i hid
      subst hid
      rw [← Option.some.inj hget]
      by_cases hsame : record.bucket = some bucket
      · exact .inl hsame
      · right
        obtain hplace | hunrecorded | ⟨hquarantine, hrevived⟩ :=
          h.placed bucket _ current hr.stored hhas
        · obtain hunrecorded | ⟨hquarantine, hcreated, hdeleted⟩ :=
            hplaced bucket hhas hplace hsame
          · exact .inl (hunrecorded.replaced fun _ => hsame)
          · exact .inr ⟨hquarantine, l, hcreated.append fun hunlinks => hunlinks, record, version,
              List.mem_append_right _ (List.mem_singleton_self _), rfl, hdeleted⟩
        · exact .inl (hunrecorded.replaced fun _ => hsame)
        · exact .inr ⟨hquarantine, hrevived.append fun hunlinks => hunlinks⟩
    · rename_i hid
      obtain hplace | hunrecorded | ⟨hquarantine, hrevived⟩ := h.placed bucket id known hget hhas
      · exact .inl hplace
      · exact .inr (.inl (hunrecorded.replaced fun heq => absurd heq.symm hid))
      · exact .inr (.inr ⟨hquarantine, hrevived.append fun hunlinks => hunlinks⟩)
  deletedBucket id known hget hdeleted := by
    rw [get?_replaced] at hget
    split at hget
    · rw [← Option.some.inj hget] at hdeleted ⊢
      exact hbucket hdeleted
    · exact h.deletedBucket id known hget hdeleted
  deletedFinal id caller hdeleted := by
    obtain ⟨deleted, version', hmem, hid, hdeleted⟩ := hdeleted
    rw [get?_replaced]
    obtain hmem | hevent := List.mem_append.mp hmem
    · obtain ⟨old, hold, hfinal⟩ := h.deletedFinal id caller ⟨deleted, version', hmem, hid, hdeleted⟩
      split
      · rename_i hid'
        rw [hid', hr.stored, Option.some.injEq] at hold
        subst hold
        exact ⟨_, rfl, hr.final hfinal⟩
      · exact ⟨old, hold, hfinal⟩
    · cases List.mem_singleton.mp hevent
      rw [if_pos hid.symm]
      exact ⟨_, rfl, hdeleted⟩
  listed l' records hmem known hknown := by
    have hmem : ⟨(l', .listRecords), .ok records⟩ ∈ w.log := by
      obtain hmem | hevent := List.mem_append.mp hmem
      · exact hmem
      · cases List.mem_singleton.mp hevent
    exact (h.listed l' records hmem known hknown).replaced hr

end Replaced

end BhDic.Files
