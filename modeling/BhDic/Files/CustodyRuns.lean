import BhDic.Files.Custody

/-!
# Custody in every run

Each call keeps `Custody`, every program makes only the calls that `custody` permits, and so the
invariant holds in every run.
-/

namespace BhDic.Files

open BhDic.Library BhDic.Python BhDic.Security
open BhDic.Library.Prog

/-! ## One call -/

/-- The event changes neither the records nor where a file is. -/
def FileEvent.quiet : FileEvent → Prop
  | ⟨(_, .insert _), .ok _⟩ => False
  | ⟨(_, .replace _ _), .ok _⟩ => False
  | ⟨(_, .create _), .ok _⟩ => False
  | ⟨(_, .rename _ _ _), .ok _⟩ => False
  | ⟨(_, .unlink _ _), .ok _⟩ => False
  | _ => True

section Call

variable {c : FileSettings} {w w' : FileWorld} {k : Knowledge} {l : FileRequest}

theorem FileEvent.quiet.not_records {event : FileEvent} (h : event.quiet) (id : String)
    (bucket : Bucket) : ¬event.records id bucket := by
  obtain ⟨⟨l, o⟩, answer⟩ := event
  cases o <;> cases answer <;> first | exact fun hrecords => hrecords | exact h.elim

theorem FileEvent.quiet.not_unlinks {event : FileEvent} (h : event.quiet) (id : String) :
    ¬event.unlinks id := by
  obtain ⟨⟨l, o⟩, answer⟩ := event
  cases o <;> cases answer <;> first | exact fun hunlinks => hunlinks | exact h.elim

theorem filesChange_of_quiet {event : FileEvent} (hrecords : w'.records = w.records)
    (hhas : ∀ bucket id, w'.has bucket id → w.has bucket id) (hlog : w'.log = w.log ++ [event])
    (hquiet : event.quiet)
    (hlisted : ∀ l (records : List UploadRecord), event = ⟨(l, .listRecords), .ok records⟩ →
      ∀ record ∈ records, Known w record) : FilesChange w w' event where
  records := hrecords
  log := hlog
  silent := hquiet.not_records
  unlinks id hunlinks := absurd hunlinks (hquiet.not_unlinks id)
  unlisted := hlisted
  undeleted id caller hdeleted := by
    obtain ⟨record, version, hmem, hrecord⟩ := hdeleted
    rw [hlog, List.mem_append, List.mem_singleton] at hmem
    obtain hmem | hevent := hmem
    · exact ⟨record, version, hmem, hrecord⟩
    · rw [← hevent] at hquiet
      exact hquiet.elim
  appears bucket id hhas' := .inl (hhas bucket id hhas')
  renames l id source bucket hevent := by
    rw [hevent] at hquiet
    exact hquiet.elim

/-- Writing into a file that is there brings no other. -/
theorem has_of_set {bucket bucket' : Bucket} {uploadId id : String} {content : List UInt8}
    (hpresent : (w.files.get? (bucket', uploadId)).isSome = true)
    (h : ((w.files.set (bucket', uploadId) content).get? (bucket, id)).isSome = true) :
    w.has bucket id := by
  rw [Dict.get?_set] at h
  split at h
  · rename_i heq
    cases heq
    exact hpresent
  · exact h

/-- What a call does to the invariant, of its caller and of the others. -/
structure CallOk (w w' : FileWorld) (k k' : Knowledge) : Prop where
  world : WorldOk w'
  caller : KnowledgeOk w' k'
  others : ∀ other, KnowledgeOk w other → (∀ id, k.owner = some id → other.owner ≠ some id) →
    KnowledgeOk w' other
  owner : k'.owner = k.owner ∨
    k.owner = none ∧ ∃ id, k'.owner = some id ∧ w.records.get? id = none

/-- A quiet call, after which the caller knows as much as before. -/
theorem CallOk.of_filesChange {event : FileEvent} (hw : WorldOk w) (hk : KnowledgeOk w k)
    (hc : FilesChange w w' event) (hcreate : ∀ l id, event ≠ ⟨(l, .create id), .ok ()⟩) :
    CallOk w w' k k where
  world := hw.filesChange hc fun l id hevent => absurd hevent (hcreate l id)
  caller := hk.filesChange hc fun l id hevent => absurd hevent (hcreate l id)
  others _ hother _ := hother.filesChange hc fun l id hevent => absurd hevent (hcreate l id)
  owner := .inl rfl

theorem callOk_raised {o : FileOp} {e : Exn} {next : FileWorld} (hw : WorldOk w)
    (hk : KnowledgeOk w k) (hexec : w.ExecRaised o next) :
    CallOk w { next with log := w.log ++ [⟨(l, o), .error e⟩] } k k := by
  have hquiet : FileEvent.quiet ⟨(l, o), .error e⟩ := by cases o <;> trivial
  have hsame : next.records = w.records ∧ ∀ bucket id, next.has bucket id → w.has bucket id := by
    cases o with
    | fill uploadId content =>
        obtain rfl | ⟨content', hpresent, rfl⟩ := hexec
        · exact ⟨rfl, fun _ _ => id⟩
        · exact ⟨rfl, fun bucket id => has_of_set hpresent⟩
    | _ =>
        cases hexec
        exact ⟨rfl, fun _ _ => id⟩
  have hchange : FilesChange w { next with log := w.log ++ [⟨(l, o), .error e⟩] }
      ⟨(l, o), .error e⟩ :=
    filesChange_of_quiet hsame.1 hsame.2 rfl hquiet fun l records hevent => by cases hevent
  apply CallOk.of_filesChange hw hk hchange
  intro l id hevent
  cases hevent

/-- A quiet call that returns, and leaves the records and the files. -/
theorem callOk_quiet {o : FileOp} {answer : o.Returns} {next : FileWorld} (hw : WorldOk w)
    (hk : KnowledgeOk w k) (hrecords : next.records = w.records)
    (hhas : ∀ bucket id, next.has bucket id → w.has bucket id)
    (hquiet : FileEvent.quiet ⟨(l, o), .ok answer⟩) (hlist : o ≠ .listRecords) :
    CallOk w { next with log := w.log ++ [⟨(l, o), .ok answer⟩] } k k := by
  have hchange : FilesChange w { next with log := w.log ++ [⟨(l, o), .ok answer⟩] }
      ⟨(l, o), .ok answer⟩ := by
    refine filesChange_of_quiet hrecords hhas rfl hquiet ?_
    intro l records hevent
    cases hevent
    exact absurd rfl hlist
  apply CallOk.of_filesChange hw hk hchange
  intro l id hevent
  cases hevent
  exact hquiet

/-- A quiet call that leaves the world as it is. -/
theorem callOk_still {o : FileOp} {answer : o.Returns} (hw : WorldOk w) (hk : KnowledgeOk w k)
    (hquiet : FileEvent.quiet ⟨(l, o), .ok answer⟩) (hlist : o ≠ .listRecords) :
    CallOk w { w with log := w.log ++ [⟨(l, o), .ok answer⟩] } k k :=
  callOk_quiet hw hk rfl (fun _ _ => id) hquiet hlist

theorem callOk_insert {record : UploadRecord} (hw : WorldOk w) (hk : KnowledgeOk w k)
    (hpermits : custody.permits k (l, .insert record))
    (hnew : w.records.get? record.uploadId = none) :
    CallOk w (w.inserted c l record) k (custody.learn k (l, .insert record) (.ok ())) := by
  obtain ⟨-, howner, hmoved, habsent, hstatus⟩ := hpermits
  have hold := hk.inserted (c := c) (l := l) hnew
  have hget : (w.inserted c l record).records.get? record.uploadId =
      some (persisted c.unicode record) := by
    show (w.records.set _ _).get? _ = _
    rw [Dict.get?_set, if_pos rfl]
  refine ⟨hw.inserted hnew ?_, ?_, fun _ hother _ => hother.inserted hnew,
    .inr ⟨howner, record.uploadId, rfl, hnew⟩⟩
  · obtain ⟨hstatus, -⟩ | ⟨hstatus, -⟩ := hstatus <;> simp [hstatus]
  · refine { hold with known := ?_, owned := ?_, uncreated := ?_, quarantined := ?_, absent := ?_,
                       moved := ?_ }
    · intro known hknown
      cases hknown
      exact ⟨_, hget, le_refl record.version, fun _ => ⟨rfl, rfl⟩, id⟩
    · intro id hid
      cases hid
      exact ⟨_, hget⟩
    · intro id hid huncreated
      cases hid
      refine ⟨hmoved, fun bucket hhas => ?_, _, hget, .inl ⟨of_decide_eq_true huncreated, ?_⟩⟩
      · obtain ⟨old, hold⟩ := hw.recorded bucket record.uploadId hhas
        rw [hnew] at hold
        cases hold
      · obtain ⟨hstatus, -⟩ | ⟨-, hbucket⟩ := hstatus
        · exact hstatus
        · rw [custody] at huncreated
          simp [hbucket] at huncreated
    · intro id known hid hknown hquarantined
      cases hid
      cases hknown
      exact ⟨_, hget, .inl hquarantined⟩
    · intro id hid h
      exact absurd (habsent.symm.trans h) (by decide)
    · intro known bucket h
      exact absurd hmoved h

theorem callOk_create {uploadId : String} (hw : WorldOk w) (hk : KnowledgeOk w k)
    (hpermits : custody.permits k (l, .create uploadId)) :
    CallOk w { w with
      files := w.files.set (.quarantine, uploadId) []
      log := w.log ++ [⟨(l, .create uploadId), .ok ()⟩] } k { k with uncreated := false } := by
  obtain ⟨-, howner, huncreated⟩ := hpermits
  obtain ⟨hmoved, hnone, record, hrecord, hplace⟩ := hk.uncreated uploadId howner huncreated
  have hchange : FilesChange w { w with
      files := w.files.set (.quarantine, uploadId) []
      log := w.log ++ [⟨(l, .create uploadId), .ok ()⟩] } ⟨(l, .create uploadId), .ok ()⟩ := by
    refine ⟨rfl, rfl, fun _ _ h => h, fun _ h => h.elim, ?_, ?_, ?_, ?_⟩
    · intro l' records hevent
      cases hevent
    · rintro id caller ⟨deleted, version, hmem, hdeleted⟩
      obtain hmem | hevent := List.mem_append.mp hmem
      · exact ⟨deleted, version, hmem, hdeleted⟩
      · cases List.mem_singleton.mp hevent
    · intro bucket id hhas
      rw [FileWorld.has, Dict.get?_set] at hhas
      split at hhas
      · rename_i heq
        cases heq
        exact .inr (.inr ⟨rfl, l, rfl⟩)
      · exact .inl hhas
    · intro l' id source bucket hevent
      cases hevent
  have hcreates : ∀ l' id, (⟨(l, .create uploadId), .ok ()⟩ : FileEvent) =
      ⟨(l', .create id), .ok ()⟩ → id = uploadId := by
    intro l' id hevent
    cases hevent
    rfl
  -- without its upload, the caller is one of those that keep what they know
  have hwithout : KnowledgeOk w { k with owner := none, uncreated := false, absent := false } :=
    { hk with
      owned := fun _ h => by cases h
      uncreated := fun _ h => by cases h
      quarantined := fun _ _ h => by cases h
      absent := fun _ h => by cases h
      moved := fun _ _ h => absurd hmoved h }
  have hafter := hwithout.filesChange hchange fun _ _ _ h => by cases h
  have habsent : k.absent = false := by
    by_contra h
    obtain ⟨hfalse, -⟩ := hk.absent uploadId howner (by simpa using h)
    rw [huncreated] at hfalse
    cases hfalse
  refine ⟨hw.filesChange hchange ?_, ?_, ?_, .inl rfl⟩
  · intro l' id hevent
    obtain rfl := hcreates l' id hevent
    exact ⟨record, hrecord, hplace.imp_left And.left⟩
  · refine { hafter with owned := hk.owned, uncreated := ?_, quarantined := hk.quarantined,
                         absent := ?_, moved := ?_ }
    · intro id _ h
      cases h
    · intro id _ h
      exact absurd (habsent.symm.trans h) (by decide)
    · intro known bucket h
      exact absurd hmoved h
  · intro other hother hdistinct
    apply hother.filesChange hchange
    intro l' id hevent
    rw [hcreates l' id hevent]
    exact hdistinct uploadId howner

theorem callOk_rename {uploadId : String} {source destination : Bucket} {content : List UInt8}
    (hw : WorldOk w) (hk : KnowledgeOk w k)
    (hpermits : custody.permits k (l, .rename uploadId source destination))
    (hcontent : w.files.get? (source, uploadId) = some content) :
    CallOk w { w with
      files := (w.files.erase (source, uploadId)).set (destination, uploadId) content
      log := w.log ++ [⟨(l, .rename uploadId source destination), .ok ()⟩] } k
      { k with moved := some destination } := by
  obtain ⟨-, hmoved, hquarantine, hdistinct, record, ⟨hrecord, hid⟩, hbucket, howner⟩ := hpermits
  have hhas : ∀ bucket id, (((w.files.erase (source, uploadId)).set (destination, uploadId)
      content).get? (bucket, id)).isSome = true →
      (bucket = destination ∧ id = uploadId) ∨ w.has bucket id ∧ (bucket, id) ≠ (source, uploadId) := by
    intro bucket id h
    rw [Dict.get?_set, Dict.get?_erase] at h
    split at h
    · rename_i heq
      cases heq
      exact .inl ⟨rfl, rfl⟩
    · split at h
      · cases h
      · rename_i hne
        exact .inr ⟨h, hne⟩
  have hchange : FilesChange w { w with
      files := (w.files.erase (source, uploadId)).set (destination, uploadId) content
      log := w.log ++ [⟨(l, .rename uploadId source destination), .ok ()⟩] }
      ⟨(l, .rename uploadId source destination), .ok ()⟩ := by
    refine ⟨rfl, rfl, fun _ _ h => h, fun _ h => h.elim, ?_, ?_, ?_, ?_⟩
    · intro l' records hevent
      cases hevent
    · rintro id caller ⟨deleted, version, hmem, hdeleted⟩
      obtain hmem | hevent := List.mem_append.mp hmem
      · exact ⟨deleted, version, hmem, hdeleted⟩
      · cases List.mem_singleton.mp hevent
    · intro bucket id h
      obtain ⟨rfl, rfl⟩ | ⟨h, -⟩ := hhas bucket id h
      · exact .inr (.inl ⟨hquarantine, l, source, rfl⟩)
      · exact .inl h
    · intro l' id source' bucket hevent
      cases hevent
      exact ⟨source, by rw [FileWorld.has, hcontent]; rfl⟩
  have hcreate : ∀ l' id, (⟨(l, .rename uploadId source destination), .ok ()⟩ : FileEvent) ≠
      ⟨(l', .create id), .ok ()⟩ := by
    intro l' id hevent
    cases hevent
  have hafter := hk.filesChange hchange fun l' id hevent => absurd hevent (hcreate l' id)
  refine ⟨hw.filesChange hchange fun l' id hevent => absurd hevent (hcreate l' id), ?_,
    fun _ hother _ => hother.filesChange hchange fun l' id hevent => absurd hevent (hcreate l' id),
    .inl rfl⟩
  refine { hafter with uncreated := ?_, moved := ?_ }
  · intro id hid' huncreated
    obtain ⟨-, hcreated⟩ | ⟨hnone, -⟩ := howner
    · exact absurd (huncreated.symm.trans hcreated) (by decide)
    · exact absurd (hnone.symm.trans hid') (by simp)
  · intro known bucket _ hknown hbucket'
    obtain rfl := Option.some.inj (hrecord.symm.trans hknown)
    obtain rfl := Option.some.inj (hbucket.symm.trans hbucket')
    refine ⟨fun hsource => ?_, fun _ => .inl fun h => ?_⟩
    · obtain ⟨howner, -⟩ | ⟨-, hclean⟩ := howner
      · rw [hid]
        exact howner
      · rw [hsource] at hclean
        cases hclean
    · obtain ⟨heq, -⟩ | ⟨-, hne⟩ := hhas source record.uploadId h
      · exact hdistinct heq
      · rw [hid] at hne
        exact hne rfl

theorem callOk_unlink {uploadId : String} {bucket : Bucket} (hw : WorldOk w) (hk : KnowledgeOk w k)
    (hlabel : k.label = l) :
    CallOk w { w with
      files := w.files.erase (bucket, uploadId)
      log := w.log ++ [⟨(l, .unlink bucket uploadId), .ok ()⟩] } k
      { k with unlinked := some (bucket, uploadId) } := by
  have hhas : ∀ bucket' id, ((w.files.erase (bucket, uploadId)).get? (bucket', id)).isSome = true →
      w.has bucket' id ∧ (bucket', id) ≠ (bucket, uploadId) := by
    intro bucket' id h
    rw [Dict.get?_erase] at h
    split at h
    · cases h
    · rename_i hne
      exact ⟨h, hne⟩
  have hchange : FilesChange w { w with
      files := w.files.erase (bucket, uploadId)
      log := w.log ++ [⟨(l, .unlink bucket uploadId), .ok ()⟩] }
      ⟨(l, .unlink bucket uploadId), .ok ()⟩ := by
    refine ⟨rfl, rfl, fun _ _ h => h, ?_, ?_, ?_, fun bucket' id h => .inl (hhas bucket' id h).1, ?_⟩
    · rintro id ⟨rfl, rfl⟩ h
      exact (hhas _ _ h).2 rfl
    · intro l' records hevent
      cases hevent
    · rintro id caller ⟨deleted, version, hmem, hdeleted⟩
      obtain hmem | hevent := List.mem_append.mp hmem
      · exact ⟨deleted, version, hmem, hdeleted⟩
      · cases List.mem_singleton.mp hevent
    · intro l' id source' bucket' hevent
      cases hevent
  have hcreate : ∀ l' id, (⟨(l, .unlink bucket uploadId), .ok ()⟩ : FileEvent) ≠
      ⟨(l', .create id), .ok ()⟩ := by
    intro l' id hevent
    cases hevent
  have hafter := hk.filesChange hchange fun l' id hevent => absurd hevent (hcreate l' id)
  refine ⟨hw.filesChange hchange fun l' id hevent => absurd hevent (hcreate l' id), ?_,
    fun _ hother _ => hother.filesChange hchange fun l' id hevent => absurd hevent (hcreate l' id),
    .inl rfl⟩
  refine { hafter with unlinked := ?_ }
  rintro bucket' id heq
  cases heq
  refine ⟨List.mem_append_right _ (by rw [hlabel]; exact List.mem_singleton_self _), ?_⟩
  exact fun _ _ _ _ => .inl fun h => (hhas _ _ h).2 rfl

/-- What a permitted replacement that takes place replaces. -/
theorem Known.replaces {record current stored : UploadRecord} (h : Known w current)
    (hupload : record.uploadId = current.uploadId) (hversion : record.version = current.version + 1)
    (hstored : w.records.get? record.uploadId = some stored)
    (hexpected : stored.version = current.version)
    (hfinal : current.status = .deleted → record.status = .deleted) :
    Replaces w record stored ∧ stored.status = current.status ∧ stored.bucket = current.bucket := by
  obtain ⟨stored', hstored', -, hsame, -⟩ := h
  rw [← hupload, hstored, Option.some.injEq] at hstored'
  subst hstored'
  obtain ⟨hstatus, hbucket⟩ := hsame hexpected.symm
  exact ⟨⟨hstored, by omega, fun hdeleted => hfinal (hstatus.symm.trans hdeleted)⟩, hstatus, hbucket⟩

theorem callOk_write {record current stored : UploadRecord} (hw : WorldOk w)
    (hk : KnowledgeOk w k) (hmay : k.MayWrite record current)
    (hversion : record.version = current.version + 1)
    (hstored : w.records.get? record.uploadId = some stored)
    (hexpected : stored.version = current.version) :
    CallOk w (w.replaced c l record current.version) k
      { k with record := some record, moved := none } := by
  have hnotDeleted : current.status ≠ .deleted := by
    obtain ⟨-, -, hstatus⟩ | ⟨-, hstatus⟩ := hmay.ownerOrClean <;> simp [hstatus]
  obtain ⟨hr, hstatus, hbucket⟩ := (hk.known current hmay.known).replaces hmay.sameUpload hversion
    hstored hexpected fun h => absurd h hnotDeleted
  -- without its upload and its record, the caller is one of those that keep what they know
  have hwithout : KnowledgeOk w
      { k with owner := none, record := none, uncreated := false, absent := false, moved := none } :=
    { hk with
      known := fun _ h => by cases h
      owned := fun _ h => by cases h
      uncreated := fun _ h => by cases h
      quarantined := fun _ _ h => by cases h
      absent := fun _ h => by cases h
      moved := fun _ _ h => absurd rfl h }
  have hafter : KnowledgeOk (w.replaced c l record current.version) _ :=
    hwithout.replaced hr fun h => by cases h
  have howns : ∀ id, k.owner = some id → id = record.uploadId ∧ k.uncreated = false := by
    intro id hid
    obtain ⟨howner, huncreated, -⟩ | ⟨hnone, -⟩ := hmay.ownerOrClean
    · exact ⟨(Option.some.inj (hid.symm.trans howner)).trans hmay.sameUpload.symm, huncreated⟩
    · exact absurd (hnone.symm.trans hid) (by simp)
  have hget : (w.replaced c l record current.version).records.get? record.uploadId =
      some (persisted c.unicode record) := by
    rw [get?_replaced, if_pos rfl]
  refine ⟨hw.replaced hr ?_ fun h => absurd h hmay.notDeleted, ?_, ?_, .inl rfl⟩
  · intro bucket hhas hstoredBucket hne
    rw [hbucket] at hstoredBucket
    obtain ⟨-, hmoved⟩ | ⟨-, hsame | ⟨-, habsent, hquarantine, howner⟩⟩ := hmay.bucket
    · obtain ⟨-, hplace⟩ := hk.moved current bucket hmoved hmay.known hstoredBucket
      have hcurrent : Current w current :=
        ⟨stored, by rw [← hmay.sameUpload]; exact hstored, hexpected.symm⟩
      rw [← hmay.sameUpload] at hplace
      exact (hplace hcurrent).elim (fun h => absurd hhas h) .inl
    · exact absurd (hsame.trans hstoredBucket) hne
    · rw [hstoredBucket, Option.some.injEq] at hquarantine
      rw [hquarantine, hmay.sameUpload] at hhas
      exact absurd hhas (hk.absent _ howner habsent).2
  · refine { hafter with known := ?_, owned := ?_, uncreated := ?_, quarantined := ?_, absent := ?_,
                         moved := fun _ _ h => absurd rfl h }
    · intro known hknown
      cases hknown
      exact ⟨_, hget, le_refl record.version, fun _ => ⟨rfl, rfl⟩, id⟩
    · intro id hid
      rw [(howns id hid).1]
      exact ⟨_, hget⟩
    · intro id hid h
      exact absurd ((howns id hid).2.symm.trans h) (by decide)
    · intro id known hid hknown hquarantined
      cases hknown
      rw [(howns id hid).1]
      exact ⟨_, hget, .inl hquarantined⟩
    · exact hk.absent
  · intro other hother hdistinct
    apply hother.replaced hr
    intro hid hplace
    obtain ⟨howner, -⟩ | ⟨-, hclean⟩ := hmay.ownerOrClean
    · exact absurd (hmay.sameUpload ▸ hid) (hdistinct _ howner)
    · rw [hstatus, hclean] at hplace
      simp at hplace

theorem callOk_delete {record current stored : UploadRecord} (hw : WorldOk w)
    (hk : KnowledgeOk w k) (hlabel : k.label = l) (hmay : k.MayDelete record current)
    (hversion : record.version = current.version + 1)
    (hstored : w.records.get? record.uploadId = some stored)
    (hexpected : stored.version = current.version) :
    CallOk w (w.replaced c l record current.version) k k := by
  obtain ⟨hr, hstatus, hbucket⟩ := (hk.listed current hmay.listed).replaces hmay.sameUpload hversion
    hstored hexpected fun _ => hmay.deleted
  have hunlinked : ∀ bucket, stored.bucket = some bucket →
      ⟨(l, .unlink bucket record.uploadId), .ok ()⟩ ∈ w.log := by
    intro bucket h
    rw [hbucket] at h
    obtain ⟨hmem, -⟩ := hk.unlinked bucket _ (hmay.unlinked bucket h)
    rwa [hlabel, ← hmay.sameUpload] at hmem
  have hother : ∀ other, KnowledgeOk w other →
      KnowledgeOk (w.replaced c l record current.version) other :=
    fun _ hother => hother.replaced hr fun _ _ => ⟨hmay.deleted, hunlinked .quarantine⟩
  refine ⟨hw.replaced hr ?_ fun _ => hmay.bucket, hother k hk, fun other h _ => hother other h,
    .inl rfl⟩
  intro bucket hhas hstoredBucket _
  rw [hbucket] at hstoredBucket
  obtain ⟨-, hplace⟩ := hk.unlinked bucket _ (hmay.unlinked bucket hstoredBucket)
  have hcurrent : Current w current :=
    ⟨stored, by rw [← hmay.sameUpload]; exact hstored, hexpected.symm⟩
  have hplace := hplace current hmay.listed rfl hcurrent
  rw [← hmay.sameUpload, hlabel] at hplace
  obtain hnot | hunrecorded | ⟨hquarantine, hcreated⟩ := hplace
  · exact absurd hhas hnot
  · exact .inl hunrecorded
  · exact .inr ⟨hquarantine, hcreated, hmay.deleted⟩

/-- What is stored is known. -/
theorem WorldOk.known_of_get? (hw : WorldOk w) {id : String} {record : UploadRecord}
    (h : w.records.get? id = some record) : Known w record :=
  ⟨record, by rw [hw.keyed id record h]; exact h, le_refl _, fun _ => ⟨rfl, rfl⟩, fun h => h⟩

theorem callOk_get {uploadId : String} (hw : WorldOk w) (hk : KnowledgeOk w k) :
    CallOk w { w with
      log := w.log ++ [⟨(l, .get uploadId), .ok (w.records.get? uploadId)⟩] } k
      (custody.learn k (l, .get uploadId) (.ok (w.records.get? uploadId))) := by
  have hafter : CallOk w { w with
      log := w.log ++ [⟨(l, .get uploadId), .ok (w.records.get? uploadId)⟩] } k k :=
    callOk_quiet hw hk rfl (fun _ _ => id) trivial nofun
  by_cases howner : k.owner = none
  · refine ⟨hafter.world, ?_, hafter.others, .inl ?_⟩
    · simp only [custody, if_pos howner]
      exact { hafter.caller with
        known := fun _ hrecord => hw.known_of_get? hrecord
        uncreated := fun _ hid => absurd (howner.symm.trans hid) (by simp)
        quarantined := fun _ _ hid => absurd (howner.symm.trans hid) (by simp)
        moved := fun _ _ h => absurd rfl h }
    · simp only [custody, if_pos howner]
  · have hsame : custody.learn k (l, .get uploadId) (.ok (w.records.get? uploadId)) = k :=
      if_neg howner
    rw [hsame]
    exact hafter

theorem callOk_listRecords {records : List UploadRecord} (hw : WorldOk w) (hk : KnowledgeOk w k)
    (hunlinked : k.unlinked = none) (hrecords : records.Perm w.records.values) :
    CallOk w { w with log := w.log ++ [⟨(l, .listRecords), .ok records⟩] } k
      { k with listing := records } := by
  have hknown : ∀ record ∈ records, Known w record := by
    intro record hmem
    obtain ⟨id, hget⟩ := Dict.mem_values.mp (hrecords.mem_iff.mp hmem)
    exact hw.known_of_get? hget
  have hchange : FilesChange w { w with log := w.log ++ [⟨(l, .listRecords), .ok records⟩] }
      ⟨(l, .listRecords), .ok records⟩ := by
    refine filesChange_of_quiet rfl (fun _ _ => id) rfl trivial ?_
    intro l' records' hevent
    cases hevent
    exact hknown
  have hafter := CallOk.of_filesChange hw hk hchange fun l' id hevent => by cases hevent
  refine ⟨hafter.world, ?_, hafter.others, .inl rfl⟩
  exact { hafter.caller with
    listed := hknown
    unlinked := fun _ _ h => absurd (hunlinked.symm.trans h) (by simp) }

theorem callOk_exists {bucket : Bucket} {uploadId : String} (hw : WorldOk w)
    (hk : KnowledgeOk w k) :
    CallOk w { w with log := w.log ++ [⟨(l, .exists bucket uploadId),
        .ok (w.files.get? (bucket, uploadId)).isSome⟩] } k
      (custody.learn k (l, .exists bucket uploadId)
        (.ok (w.files.get? (bucket, uploadId)).isSome)) := by
  have hafter : CallOk w { w with
      log := w.log ++ [⟨(l, .exists bucket uploadId),
        .ok (w.files.get? (bucket, uploadId)).isSome⟩] } k k :=
    callOk_quiet hw hk rfl (fun _ _ => id) trivial nofun
  cases bucket with
  | quarantine =>
      simp only [custody]
      split
      · rename_i habsent
        obtain ⟨hnot, howner, hcreated⟩ := habsent
        refine ⟨hafter.world, ?_, hafter.others, .inl rfl⟩
        refine { hafter.caller with absent := ?_ }
        intro id hid _
        obtain rfl := Option.some.inj (hid.symm.trans howner)
        exact ⟨hcreated, fun hhas => absurd (hnot.symm.trans hhas) (by decide)⟩
      · exact hafter
  | _ => exact hafter

theorem claimSha256_frame {digest uploadId : String} {answer : Bool} {next : FileWorld}
    (h : (answer, next) = w.claimSha256 digest uploadId) :
    next.records = w.records ∧ next.files = w.files := by
  have hnext := congrArg Prod.snd h
  simp only [FileWorld.claimSha256] at hnext
  split at hnext
  · exact ⟨by rw [hnext], by rw [hnext]⟩
  · split at hnext
    · split at hnext <;> exact ⟨by rw [hnext], by rw [hnext]⟩
    · exact ⟨by rw [hnext], by rw [hnext]⟩

theorem CallOk.claimed (h : CallOk w w' k k) : CallOk w w' k { k with claimed := true } where
  world := h.world
  caller := { h.caller with known := h.caller.known }
  others := h.others
  owner := .inl rfl

/-- **Every permitted call keeps the invariant.** -/
theorem callOk {o : FileOp} {answer : Except Exn o.Returns} (hw : WorldOk w)
    (hk : KnowledgeOk w k) (hpermits : custody.permits k (l, o))
    (hexec : (fileSystem c).exec (l, o) w answer w') :
    CallOk w w' k (custody.learn k (l, o) answer) := by
  obtain ⟨next, hnext, rfl⟩ := hexec
  cases answer with
  | error e =>
      have hraised := callOk_raised (l := l) (e := e) hw hk hnext
      cases o with
      | create uploadId =>
          -- a creation that failed is not tried again
          refine ⟨hraised.world, ?_, hraised.others, .inl rfl⟩
          exact { hraised.caller with
            uncreated := fun _ _ h => by cases h
            absent := fun id howner habsent => ⟨rfl, (hraised.caller.absent id howner habsent).2⟩ }
      | claimSha256 => exact hraised.claimed
      | «exists» bucket uploadId =>
          cases bucket with
          | _ => exact hraised
      | _ => exact hraised
  | ok a =>
      cases o with
      | insert record =>
          obtain ⟨hnew, rfl⟩ := hnext
          exact callOk_insert hw hk hpermits hnew
      | get uploadId =>
          obtain ⟨rfl, rfl⟩ := hnext
          exact callOk_get hw hk
      | replace record version =>
          obtain ⟨hversion, ⟨stored, hstored, hexpected⟩, rfl⟩ := hnext
          obtain ⟨hlabel, current, rfl, hmay | hmay⟩ := hpermits
          · have hlearn : custody.learn k (l, .replace record current.version) (.ok a) =
                { k with record := some record, moved := none } := if_neg hmay.notDeleted
            rw [hlearn]
            exact callOk_write hw hk hmay hversion hstored hexpected
          · have hlearn : custody.learn k (l, .replace record current.version) (.ok a) = k :=
              if_pos hmay.deleted
            rw [hlearn]
            exact callOk_delete hw hk hlabel hmay hversion hstored hexpected
      | claimSha256 digest uploadId =>
          obtain ⟨hrecords, hfiles⟩ := claimSha256_frame hnext
          apply CallOk.claimed
          exact callOk_quiet hw hk hrecords (fun bucket id h => by rwa [FileWorld.has, ← hfiles])
            trivial fun h => by cases h
      | listRecords =>
          obtain ⟨hrecords, rfl⟩ := hnext
          exact callOk_listRecords hw hk hpermits.2 hrecords
      | create uploadId =>
          obtain ⟨-, rfl⟩ := hnext
          exact callOk_create hw hk hpermits
      | fill uploadId content =>
          have hhas : ∀ bucket id, next.has bucket id → w.has bucket id := by
            intro bucket id h
            rw [hnext] at h
            split at h
            · rename_i hpresent
              exact has_of_set hpresent h
            · exact h
          have hrecords : next.records = w.records := by
            rw [hnext]
            split <;> rfl
          exact callOk_quiet hw hk hrecords hhas trivial fun h => by cases h
      | «exists» bucket uploadId =>
          obtain ⟨rfl, rfl⟩ := hnext
          exact callOk_exists hw hk
      | rename uploadId source destination =>
          obtain ⟨content, hcontent, rfl⟩ := hnext
          exact callOk_rename hw hk hpermits hcontent
      | chmod bucket uploadId =>
          cases hnext
          exact callOk_still hw hk trivial fun h => by cases h
      | unlink bucket uploadId =>
          cases hnext
          exact callOk_unlink hw hk hpermits.1
      | readStored bucket uploadId =>
          obtain ⟨-, rfl⟩ := hnext
          exact callOk_still hw hk trivial fun h => by cases h
      | detect uploadId =>
          cases hnext
          exact callOk_still hw hk trivial fun h => by cases h
      | scan uploadId =>
          cases hnext
          exact callOk_still hw hk trivial fun h => by cases h
      | now =>
          cases hnext
          exact callOk_still hw hk trivial fun h => by cases h
      | event name record =>
          cases hnext
          exact callOk_still hw hk trivial fun h => by cases h
      | restart =>
          cases hnext
          exact callOk_quiet hw hk rfl (fun _ _ => id) trivial fun h => by cases h

end Call

/-! ## The programs -/

section Programs

variable {c : FileSettings} {l : FileRequest} {k : Knowledge} {record : UploadRecord}
  {claimed : Bool}

theorem guarded_perform {o : FileOp} {Q : Except Exn o.Returns → Knowledge → Prop} :
    Guarded (custody.at l) (perform o) Q k ↔
      custody.permits k (l, o) ∧ ∀ answer, Q answer (custody.learn k (l, o) answer) := by
  simp only [perform, guarded_bind, guarded_ofExcept]
  exact and_congr Iff.rfl (forall_congr' fun answer => forall_prop_of_true trivial)

/-- The program holds the only copy of a quarantined upload, whose file it has tried to create. -/
structure Ingesting (l : FileRequest) (claimed : Bool) (record : UploadRecord) (k : Knowledge) :
    Prop where
  label : k.label = l
  owner : k.owner = some record.uploadId
  created : k.uncreated = false
  claimed : k.claimed = claimed
  known : k.record = some record
  unmoved : k.moved = none
  status : record.status = .quarantined
  bucket : record.bucket = some .quarantine

theorem Ingesting.mayWrite (h : Ingesting l claimed record k) {next : UploadRecord}
    (hupload : next.uploadId = record.uploadId) (hstatus : next.status ≠ .deleted)
    (hbucket : next.bucket = record.bucket) : k.MayWrite next record where
  known := h.known
  sameUpload := hupload
  notDeleted := hstatus
  bucket := .inr ⟨h.unmoved, .inl hbucket⟩
  ownerOrClean := .inl ⟨h.owner, h.created, h.status⟩

theorem guarded_update {changes : UploadRecord → UploadRecord}
    {Q : Except Exn UploadRecord → Knowledge → Prop} (hlabel : k.label = l)
    (hmay : k.MayWrite { changes record with version := record.version + 1 } record)
    (hok : Q (.ok { changes record with version := record.version + 1 })
      { k with record := some { changes record with version := record.version + 1 }
               moved := none })
    (herror : ∀ e, Q (.error e) k) :
    Guarded (custody.at l) (FileService.update record changes) Q k := by
  refine guarded_bind.mpr (guarded_perform.mpr ⟨⟨hlabel, record, rfl, .inl hmay⟩, ?_⟩)
  intro answer
  cases answer with
  | error e => exact herror e
  | ok u =>
      have hlearn : custody.learn k (l, .replace { changes record with
          version := record.version + 1 } record.version) (.ok u) =
            { k with record := some { changes record with version := record.version + 1 }
                     moved := none } := if_neg hmay.notDeleted
      rw [hlearn]
      exact hok

/-- A change that leaves the file in the quarantine. -/
theorem Ingesting.guarded_update (h : Ingesting l claimed record k) {changes : UploadRecord → UploadRecord}
    {Q : Except Exn UploadRecord → Knowledge → Prop}
    (hchanges : (changes record).uploadId = record.uploadId ∧
      (changes record).status = record.status ∧ (changes record).bucket = record.bucket)
    (hok : ∀ next k', Ingesting l claimed next k' → Q (.ok next) k') (herror : ∀ e k', Q (.error e) k') :
    Guarded (custody.at l) (FileService.update record changes) Q k := by
  obtain ⟨hupload, hstatus, hbucket⟩ := hchanges
  apply Files.guarded_update h.label
  · exact h.mayWrite hupload (by simp [hstatus, h.status]) hbucket
  · apply hok
    exact ⟨h.label, h.owner.trans (congrArg some hupload.symm), h.created, h.claimed, rfl, rfl,
      hstatus.trans h.status, hbucket.trans h.bucket⟩
  · exact fun e => herror e k

theorem guarded_event {name : String} {Q : Except Exn Unit → Knowledge → Prop} (hlabel : k.label = l)
    (hQ : ∀ answer, Q answer k) :
    Guarded (custody.at l) (perform (.event name record)) Q k := by
  refine guarded_perform.mpr ⟨hlabel, fun answer => ?_⟩
  cases answer <;> exact hQ _

theorem guarded_move {uploadId : String} {source destination : Bucket}
    {Q : Except Exn Unit → Knowledge → Prop}
    (hpermits : custody.permits k (l, .rename uploadId source destination))
    (hok : Q (.ok ()) { k with moved := some destination }) (herror : ∀ e k', Q (.error e) k') :
    Guarded (custody.at l) (QuarantineStore.move uploadId source destination) Q k := by
  have hlabel : k.label = l := hpermits.1
  have hquarantine : destination ≠ .quarantine := hpermits.2.2.1
  refine guarded_bind.mpr (guarded_perform.mpr ⟨hlabel, fun occupied => ?_⟩)
  have hlearn : custody.learn k (l, .exists destination uploadId) occupied = k := by
    cases destination with
    | quarantine => exact absurd rfl hquarantine
    | _ => cases occupied <;> rfl
  rw [hlearn]
  cases occupied with
  | error e => exact herror e _
  | ok occupied =>
      cases occupied with
      | true => exact herror _ _
      | false =>
          refine guarded_bind.mpr ((guarded_require (false = false) _ _ _).mpr
            ⟨fun _ => ?_, fun h => absurd rfl h⟩)
          refine guarded_bind.mpr (guarded_perform.mpr ⟨hpermits, fun answer => ?_⟩)
          cases answer with
          | error e => exact herror e _
          | ok u =>
              refine guarded_perform.mpr ⟨hlabel, fun answer => ?_⟩
              cases answer with
              | error e => exact herror e _
              | ok u => exact hok

theorem Ingesting.guarded_moveToRejected (h : Ingesting l claimed record k)
    {Q : Except Exn Bool → Knowledge → Prop}
    (hmoved : Q (.ok true) { k with moved := some .rejected })
    (habsent : Q (.ok false) { k with absent := true }) (herror : ∀ e k', Q (.error e) k') :
    Guarded (custody.at l) (FileService.moveToRejected record) Q k := by
  unfold FileService.moveToRejected
  rw [if_neg (by simp [h.bucket])]
  refine guarded_bind.mpr (guarded_perform.mpr ⟨h.label, fun stored => ?_⟩)
  cases stored with
  | error e => exact herror e _
  | ok stored =>
      cases stored with
      | false =>
          have hlearn : custody.learn k (l, .exists .quarantine record.uploadId) (.ok false) =
              { k with absent := true } := if_pos ⟨rfl, h.owner, h.created⟩
          rw [hlearn]
          exact habsent
      | true =>
          have hlearn : custody.learn k (l, .exists .quarantine record.uploadId) (.ok true) = k :=
            by simp [custody]
          rw [hlearn]
          exact guarded_bind.mpr (guarded_move ⟨h.label, h.unmoved, by decide, by decide, record,
            ⟨h.known, rfl⟩, h.bucket, .inl ⟨h.owner, h.created⟩⟩ hmoved herror)

theorem Ingesting.guarded_reject (h : Ingesting l claimed record k) (reason : String) :
    Guarded (custody.at l) (FileService.reject record reason) (fun _ _ => True) k := by
  refine guarded_bind.mpr (h.guarded_moveToRejected ?_ ?_ fun _ _ => trivial)
  · refine guarded_bind.mpr (Files.guarded_update h.label ?_ ?_ fun _ => trivial)
    · exact ⟨h.known, rfl, by simp, .inl ⟨rfl, by simp⟩, .inl ⟨h.owner, h.created, h.status⟩⟩
    · exact guarded_bind.mpr (guarded_event h.label fun answer => by cases answer <;> trivial)
  · refine guarded_bind.mpr (Files.guarded_update h.label ?_ ?_ fun _ => trivial)
    · exact ⟨h.known, rfl, by simp, .inr ⟨h.unmoved, .inr ⟨rfl, rfl, h.bucket, h.owner⟩⟩,
        .inl ⟨h.owner, h.created, h.status⟩⟩
    · exact guarded_bind.mpr (guarded_event h.label fun answer => by cases answer <;> trivial)

/-- The upload is inserted, and its file not yet created. -/
structure Inserted (l : FileRequest) (record : UploadRecord) (k : Knowledge) : Prop where
  label : k.label = l
  owner : k.owner = some record.uploadId
  uncreated : k.uncreated = true
  unclaimed : k.claimed = false
  known : k.record = some record
  unmoved : k.moved = none
  status : record.status = .quarantined
  bucket : record.bucket = some .quarantine

theorem Inserted.guarded_write (h : Inserted l record k) (chunks : List Chunk)
    {Q : Except Exn Written → Knowledge → Prop} (hQ : ∀ r k', Ingesting l false record k' → Q r k') :
    Guarded (custody.at l) (QuarantineStore.write c record.uploadId chunks) Q k := by
  have hcreated : Ingesting l false record { k with uncreated := false } :=
    ⟨h.label, h.owner, rfl, h.unclaimed, h.known, h.unmoved, h.status, h.bucket⟩
  refine guarded_bind.mpr (guarded_perform.mpr ⟨⟨h.label, h.owner, h.uncreated⟩, fun answer => ?_⟩)
  cases answer with
  | error e => exact hQ _ _ hcreated
  | ok u =>
      obtain ⟨content, ending⟩ := writeChunks c [] chunks
      refine guarded_bind.mpr (guarded_attempt.mpr (guarded_perform.mpr ⟨h.label, fun answer => ?_⟩))
      -- a file that could not be filled is deleted
      have hunlink : ∀ e, Guarded (custody.at l)
          ((perform (.unlink .quarantine record.uploadId)).bind fun _ => .throw e) Q
          { k with uncreated := false } := by
        intro e
        refine guarded_bind.mpr (guarded_perform.mpr ⟨⟨h.label, .inl ⟨h.owner, rfl⟩⟩, fun answer => ?_⟩)
        cases answer with
        | error e' => exact hQ _ _ hcreated
        | ok u => exact hQ _ _ ⟨h.label, h.owner, rfl, h.unclaimed, h.known, h.unmoved, h.status, h.bucket⟩
      cases answer with
      | error e => exact hunlink e
      | ok u =>
          cases ending with
          | failed e => exact hunlink e
          | stored digest => exact hQ _ _ hcreated
          | sizeLimitExceeded size digest => exact hQ _ _ hcreated

theorem Ingesting.guarded_accept (h : Ingesting l claimed record k) :
    Guarded (custody.at l)
      (do
        QuarantineStore.move record.uploadId .quarantine .clean
        let clean ← FileService.update record fun record => { record with
          status := .clean, bucket := some .clean }
        perform (.event "FILE_CLEAN" clean)
        return clean) (fun _ _ => True) k := by
  refine guarded_bind.mpr (guarded_move ⟨h.label, h.unmoved, by decide, by decide, record,
    ⟨h.known, rfl⟩, h.bucket, .inl ⟨h.owner, h.created⟩⟩ ?_ fun _ _ => trivial)
  refine guarded_bind.mpr (Files.guarded_update h.label ?_ ?_ fun _ => trivial)
  · exact ⟨h.known, rfl, by simp, .inl ⟨rfl, by simp⟩, .inl ⟨h.owner, h.created, h.status⟩⟩
  · exact guarded_bind.mpr (guarded_event h.label fun answer => by cases answer <;> trivial)

theorem Ingesting.guarded_inspect (h : Ingesting l false record k) (filename : String)
    (stored : StoredDigest) :
    Guarded (custody.at l) (FileService.inspect c filename record stored) (fun _ _ => True) k := by
  refine guarded_bind.mpr (h.guarded_update ⟨rfl, rfl, rfl⟩ ?_ fun _ _ => trivial)
  clear h
  intro record k h
  refine guarded_bind.mpr (guarded_attempt.mpr (guarded_perform.mpr ⟨h.label, fun answer => ?_⟩))
  cases answer with
  | error e =>
      dsimp only
      split
      · exact h.guarded_reject _
      · trivial
  | ok answer =>
      refine guarded_bind.mpr (h.guarded_update ⟨rfl, rfl, rfl⟩ ?_ fun _ _ => trivial)
      clear h
      intro record k h
      dsimp only
      split
      · exact h.guarded_reject _
      split
      · exact h.guarded_reject _
      split
      · exact h.guarded_reject _
      refine guarded_bind.mpr (guarded_attempt.mpr (guarded_perform.mpr ⟨h.label, fun answer => ?_⟩))
      cases answer with
      | error e =>
          dsimp only
          split
          · refine guarded_bind.mpr (h.guarded_update ⟨rfl, rfl, rfl⟩ ?_ fun _ _ => trivial)
            exact fun record k h => h.guarded_reject _
          · trivial
      | ok verdict =>
          refine guarded_bind.mpr (h.guarded_update ⟨rfl, rfl, rfl⟩ ?_ fun _ _ => trivial)
          clear h
          intro record k h
          dsimp only
          split
          · exact h.guarded_reject _
          split
          · exact h.guarded_reject _
          have hclaim : custody.permits k (l, .claimSha256 stored.sha256 record.uploadId) :=
            ⟨h.label, h.owner, h.claimed, record, ⟨h.known, rfl⟩, h.status⟩
          have hclaimed : Ingesting l true record { k with claimed := true } :=
            ⟨h.label, h.owner, h.created, rfl, h.known, h.unmoved, h.status, h.bucket⟩
          refine guarded_bind.mpr (guarded_perform.mpr ⟨hclaim, fun claimed => ?_⟩)
          cases claimed with
          | error e => trivial
          | ok claimed =>
              cases claimed with
              | false => exact hclaimed.guarded_reject _
              | true => exact hclaimed.guarded_accept

theorem guarded_ingest (uploadId originalFilename : String) (claimedMime : Option String)
    (chunks : List Chunk) :
    Guarded (custody.at l) (FileService.ingest c uploadId originalFilename claimedMime chunks)
      (fun _ _ => True) { label := l } := by
  refine guarded_bind.mpr (guarded_perform.mpr ⟨rfl, fun now => ?_⟩)
  cases now with
  | error e => trivial
  | ok now =>
      dsimp only
      split
      · split
        · -- a record without a file
          refine guarded_bind.mpr (guarded_perform.mpr
            ⟨⟨rfl, rfl, rfl, rfl, .inr ⟨rfl, rfl⟩⟩, fun answer => ?_⟩)
          cases answer with
          | error e => trivial
          | ok u =>
              exact guarded_bind.mpr (guarded_event rfl fun answer => by cases answer <;> trivial)
        · trivial
      · rename_i filename _
        refine guarded_bind.mpr (guarded_perform.mpr
          ⟨⟨rfl, rfl, rfl, rfl, .inl ⟨rfl, rfl⟩⟩, fun answer => ?_⟩)
        cases answer with
        | error e => trivial
        | ok u =>
            refine guarded_bind.mpr (guarded_event rfl fun answer => ?_)
            cases answer with
            | error e => trivial
            | ok u =>
                have hinserted : Inserted l
                    (FileService.quarantinedRecord c uploadId filename claimedMime now)
                    (custody.learn { label := l } (l, .insert
                      (FileService.quarantinedRecord c uploadId filename claimedMime now)) (.ok ())) :=
                  ⟨rfl, rfl, rfl, rfl, rfl, rfl, rfl, rfl⟩
                refine guarded_bind.mpr (guarded_attempt.mpr
                  (hinserted.guarded_write chunks fun written k' h => ?_))
                cases written with
                | error e =>
                    dsimp only
                    split
                    · exact h.guarded_reject _
                    · trivial
                | ok written =>
                    cases written with
                    | failed e => trivial
                    | sizeLimitExceeded size digest =>
                        refine guarded_bind.mpr (h.guarded_update ⟨rfl, rfl, rfl⟩ ?_
                          fun _ _ => trivial)
                        exact fun record k h => h.guarded_reject _
                    | stored digest =>
                        dsimp only
                        split
                        · refine guarded_bind.mpr (h.guarded_update ⟨rfl, rfl, rfl⟩ ?_
                            fun _ _ => trivial)
                          exact fun record k h => h.guarded_reject _
                        · exact h.guarded_inspect filename digest

/-- The program has read a clean record, and ingests nothing. -/
structure Claiming (l : FileRequest) (uploadId : String) (record : UploadRecord) (k : Knowledge) :
    Prop where
  label : k.label = l
  owner : k.owner = none
  known : k.record = some record
  unmoved : k.moved = none
  upload : record.uploadId = uploadId
  status : record.status = .clean
  bucket : record.bucket = some .clean

theorem guarded_cleanRecord {uploadId : String} {Q : Except Exn UploadRecord → Knowledge → Prop}
    (hlabel : k.label = l) (howner : k.owner = none)
    (hok : ∀ record k', Claiming l uploadId record k' → Q (.ok record) k')
    (herror : ∀ e k', Q (.error e) k') :
    Guarded (custody.at l) (FileService.cleanRecord c uploadId) Q k := by
  refine guarded_bind.mpr ((guarded_require _ _ _ _).mpr ⟨fun _ => ?_, fun _ => herror _ _⟩)
  refine guarded_bind.mpr (guarded_perform.mpr ⟨hlabel, fun answer => ?_⟩)
  cases answer with
  | error e => exact herror e _
  | ok found =>
      cases found with
      | none => exact herror _ _
      | some record =>
          have hlearn : custody.learn k (l, .get uploadId) (.ok (some record)) =
              { k with record := some record, moved := none } := if_pos howner
          rw [hlearn]
          refine guarded_bind.mpr ((guarded_require _ _ _ _).mpr ⟨?_, fun _ => herror _ _⟩)
          rintro ⟨hupload, -, hstatus, hbucket, -⟩
          refine guarded_bind.mpr (guarded_perform.mpr ⟨hlabel, fun now => ?_⟩)
          cases now with
          | error e => exact herror e _
          | ok now =>
              refine guarded_bind.mpr ?_
              unfold Prog.require
              split
              · exact hok _ _ ⟨hlabel, howner, rfl, rfl, hupload, hstatus, hbucket⟩
              · exact herror _ _

theorem guarded_verifyStoredRecord {bucket : Bucket} {requireCleanStatus : Bool}
    {Q : Except Exn ResolvedUpload → Knowledge → Prop} (hlabel : k.label = l)
    (hQ : ∀ resolved, Q resolved k) :
    Guarded (custody.at l) (FileService.verifyStoredRecord record bucket requireCleanStatus) Q k := by
  refine guarded_bind.mpr ((guarded_require _ _ _ _).mpr ⟨fun _ => ?_, fun _ => hQ _⟩)
  refine guarded_bind.mpr ((guarded_require _ _ _ _).mpr ⟨fun _ => ?_, fun _ => hQ _⟩)
  refine guarded_bind.mpr (guarded_perform.mpr ⟨hlabel, fun stored => ?_⟩)
  cases stored with
  | error e => exact hQ _
  | ok stored =>
      refine guarded_bind.mpr ((guarded_require _ _ _ _).mpr ⟨fun _ => ?_, fun _ => hQ _⟩)
      cases record.detectedMime with
      | none => exact hQ _
      | some mime => exact hQ _

theorem learn_label (k : Knowledge) (o : requestEffect.Op) (answer : requestEffect.Ans o) :
    (custody.learn k o answer).label = k.label := by
  simp only [custody]
  split
  any_goals rfl
  all_goals split <;> rfl

/-- A program stays who it is. -/
theorem guarded_of_label {α : Type} {p : FileProg α} {Q : Except Exn α → Knowledge → Prop}
    (h : Guarded (custody.at l) p (fun r k' => k'.label = k.label → Q r k') k) :
    Guarded (custody.at l) p Q k := by
  have hkept : ∀ (k' : Knowledge), k'.label = k.label →
      Guarded (custody.at l) p (fun r k' => k'.label = k.label → Q r k') k' →
      Guarded (custody.at l) p Q k' := by
    clear h
    induction p with
    | pure a => exact fun k' hlabel h => h hlabel
    | throw e => exact fun k' hlabel h => h hlabel
    | call o p ih =>
        intro k' hlabel h
        exact ⟨h.1, fun answer hpromise => ih answer _ ((learn_label _ _ _).trans hlabel)
          (h.2 answer hpromise)⟩
  exact hkept k rfl h

theorem guarded_claimCleanUpload {uploadId : String}
    {Q : Except Exn ResolvedUpload → Knowledge → Prop} (hlabel : k.label = l)
    (howner : k.owner = none) (hQ : ∀ r k', k'.label = k.label → Q r k') :
    Guarded (custody.at l) (FileService.claimCleanUpload c uploadId) Q k := by
  apply guarded_of_label
  refine guarded_bind.mpr (guarded_cleanRecord hlabel howner ?_ fun e k' => hQ _ k')
  intro record k' h
  refine guarded_bind.mpr (guarded_verifyStoredRecord h.label fun resolved => ?_)
  cases resolved with
  | error e => exact hQ _ k'
  | ok resolved =>
      refine guarded_bind.mpr (guarded_attempt.mpr (guarded_move ⟨h.label, h.unmoved, by decide,
        by decide, record, ⟨h.known, h.upload⟩, h.bucket, .inr ⟨h.owner, rfl⟩⟩ ?_
        fun e k' => hQ _ k'))
      refine guarded_bind.mpr (guarded_attempt.mpr (Files.guarded_update h.label ?_ ?_
        fun e => hQ _ _))
      · exact ⟨h.known, rfl, by simp, .inl ⟨rfl, by simp⟩, .inr ⟨h.owner, h.status⟩⟩
      · refine guarded_bind.mpr (guarded_verifyStoredRecord h.label fun resolved => ?_)
        cases resolved with
        | error e => exact hQ _ _
        | ok resolved =>
            refine guarded_bind.mpr (guarded_event h.label fun answer => ?_)
            cases answer <;> exact hQ _ _

/-- A purge deletes the file of a record it has listed, and then the record. -/
theorem guarded_purge {now : Instant} {Q : Except Exn (Option String) → Knowledge → Prop}
    (hlabel : k.label = l) (howner : k.owner = none) (hlisted : record ∈ k.listing)
    (hQ : ∀ r unlinked, Q r { k with unlinked := unlinked }) :
    Guarded (custody.at l) (FileRetentionService.purge now record) Q k := by
  have hrecord : ∀ unlinked, (∀ bucket, record.bucket = some bucket →
      unlinked = some (bucket, record.uploadId)) →
      Guarded (custody.at l)
        (do
          let deleted : UploadRecord := { record with
            status := .deleted
            bucket := none
            deletedAt := some now
            version := record.version + 1 }
          perform (.replace deleted record.version)
          perform (.event "FILE_RETENTION_DELETED" deleted)
          return some record.uploadId) Q { k with unlinked := unlinked } := by
    intro unlinked hunlinked
    refine guarded_bind.mpr (guarded_perform.mpr ⟨⟨hlabel, record, rfl, .inr
      ⟨howner, hlisted, rfl, rfl, rfl, hunlinked⟩⟩, fun answer => ?_⟩)
    cases answer with
    | error e => exact hQ _ _
    | ok u =>
        refine guarded_bind.mpr (guarded_event hlabel fun answer => ?_)
        cases answer <;> exact hQ _ _
  unfold FileRetentionService.purge
  split
  · exact hQ _ k.unlinked
  · cases hbucket : record.bucket with
    | none => exact hrecord k.unlinked fun _ h => by rw [hbucket] at h; cases h
    | some bucket =>
        refine guarded_bind.mpr (guarded_perform.mpr
          ⟨⟨hlabel, .inr ⟨record, hlisted, rfl, hbucket⟩⟩, fun answer => ?_⟩)
        cases answer with
        | error e => exact hQ _ k.unlinked
        | ok u => exact hrecord _ fun bucket' h => by rw [Option.some.inj (hbucket.symm.trans h)]

theorem guarded_purgeAll {now : Instant} {records : List UploadRecord} (hlabel : k.label = l)
    (howner : k.owner = none) (hlisted : ∀ record ∈ records, record ∈ k.listing) :
    Guarded (custody.at l) (FileRetentionService.purgeAll now records) (fun _ _ => True) k := by
  induction records generalizing k with
  | nil => trivial
  | cons record records ih =>
      refine guarded_bind.mpr (guarded_purge hlabel howner (hlisted record List.mem_cons_self) ?_)
      intro purged unlinked
      cases purged with
      | error e => trivial
      | ok purged =>
          have hrest := ih (k := { k with unlinked := unlinked }) hlabel howner fun record h =>
            hlisted record (List.mem_cons_of_mem _ h)
          refine guarded_bind.mpr (guarded_mono ?_ hrest)
          intro r k' _
          cases r <;> trivial

/-- Every request makes only permitted calls. -/
theorem guarded_program (l : FileRequest) :
    Guarded custody ((l.program c).label l) (fun _ _ => True) { label := l } := by
  rw [guarded_label]
  have hdone : ∀ {α : Type} {p : FileProg α} {Q : Except Exn α → Knowledge → Prop},
      Guarded (custody.at l) p Q { label := l } →
      Guarded (custody.at l) (p.bind fun _ => .pure ()) (fun _ _ => True) { label := l } := by
    intro α p Q hp
    refine guarded_bind.mpr (guarded_mono ?_ hp)
    intro r k _
    cases r <;> trivial
  cases l with
  | ingest uploadId originalFilename claimedMime chunks => exact hdone (guarded_ingest _ _ _ _)
  | claim uploadId =>
      exact hdone (Q := fun _ _ => True) (guarded_claimCleanUpload rfl rfl fun _ _ _ => trivial)
  | markProcessed uploadId =>
      refine hdone (Q := fun _ _ => True) (guarded_bind.mpr (guarded_claimCleanUpload rfl rfl ?_))
      intro r k hlabel
      cases r with
      | error e => trivial
      | ok resolved =>
          refine guarded_bind.mpr (guarded_perform.mpr ⟨hlabel, fun found => ?_⟩)
          cases found with
          | error e => trivial
          | ok found => cases found <;> trivial
  | resolve uploadId =>
      refine hdone (Q := fun _ _ => True) (guarded_bind.mpr (guarded_cleanRecord rfl rfl ?_ ?_))
      · exact fun record k h => guarded_verifyStoredRecord h.label fun _ => trivial
      · exact fun _ _ => trivial
  | purge number now =>
      refine hdone (Q := fun _ _ => True) (guarded_bind.mpr (guarded_perform.mpr
        ⟨⟨rfl, rfl⟩, fun records => ?_⟩))
      cases records with
      | error e => trivial
      | ok records => exact guarded_purgeAll rfl rfl fun _ h => h
  | restart => exact guarded_perform.mpr ⟨rfl, fun _ => trivial⟩

end Programs

/-! ## Every run -/

theorem knowledgeOk_start (w : FileWorld) (l : FileRequest) : KnowledgeOk w { label := l } where
  known _ h := by cases h
  listed _ h := absurd h (List.not_mem_nil)
  owned _ h := by cases h
  uncreated _ h := by cases h
  quarantined _ _ h := by cases h
  absent _ h := by cases h
  moved _ _ h := absurd rfl h
  unlinked _ _ h := by cases h

/-- No other program ingests the upload of a program. -/
theorem not_owns_of_oneOwner {k : Knowledge} {ks₁ ks₂ : List Knowledge} {id : String}
    (hone : (ks₁ ++ k :: ks₂).countP (owns id) ≤ 1) (howner : k.owner = some id) :
    ∀ other ∈ ks₁ ++ ks₂, other.owner ≠ some id := by
  rw [List.countP_append, List.countP_cons_of_pos (by simp [owns, howner])] at hone
  intro other hmem hother
  have hpos : 0 < (ks₁ ++ ks₂).countP (owns id) :=
    List.countP_pos_iff.mpr ⟨other, hmem, by simp [owns, hother]⟩
  rw [List.countP_append] at hpos
  omega

/-- A program that has begun to ingest an upload is the only one to do so. -/
theorem CallOk.oneOwner {w w' : FileWorld} {k k' : Knowledge} {ks₁ ks₂ : List Knowledge}
    (h : Custody w (ks₁ ++ k :: ks₂)) (hok : CallOk w w' k k') (id : String) :
    (ks₁ ++ k' :: ks₂).countP (owns id) ≤ 1 := by
  have hone := h.oneOwner id
  rw [List.countP_append, List.countP_cons] at hone ⊢
  obtain howner | ⟨hnone, id', howner, hnew⟩ := hok.owner
  · have hsame : owns id k' = owns id k := by rw [owns, owns, howner]
    rwa [hsame]
  · by_cases hid : id' = id
    · subst hid
      -- nobody ingests an upload that has no record yet
      have hnobody : ∀ ks : List Knowledge, (∀ other ∈ ks, other ∈ ks₁ ++ k :: ks₂) →
          List.countP (owns id') ks = 0 := by
        intro ks hsub
        apply List.countP_eq_zero.mpr
        intro other hmem hother
        obtain ⟨record, hrecord⟩ :=
          (h.knowledge other (hsub other hmem)).owned id' (of_decide_eq_true hother)
        rw [hnew] at hrecord
        cases hrecord
      rw [hnobody ks₁ (by simp +contextual), hnobody ks₂ (by simp +contextual)]
      split <;> omega
    · have hnot : owns id k' = false := by simp [owns, howner, hid]
      rw [hnot]
      simp only [Bool.false_eq_true, if_false]
      omega

theorem custody_start : Custody {} [] where
  world := {
    keyed := fun _ _ h => by cases h
    recorded := fun _ _ h => by cases h
    placed := fun _ _ _ h => by cases h
    deletedBucket := fun _ _ h => by cases h
    deletedFinal := fun _ _ ⟨_, _, h, _⟩ => by cases h
    listed := fun _ _ h => by cases h }
  knowledge := fun _ h => by cases h
  oneOwner := fun _ => Nat.zero_le _

theorem custody_isInvariant (c : FileSettings) :
    IsInvariant (fileSystem c) custody (fun l => { label := l }) fun w _ ks => Custody w ks where
  body_guarded := guarded_program
  start {w _ ks} l h := by
    refine ⟨h.world, ?_, fun id => ?_⟩
    · intro k hmem
      obtain hmem | hmem := List.mem_append.mp hmem
      · exact h.knowledge k hmem
      · rw [List.mem_singleton.mp hmem]
        exact knowledgeOk_start w l
    · rw [List.countP_append]
      exact h.oneOwner id
  call {w w' _ ks₁ k ks₂ o answer} h hpermits hexec := by
    obtain ⟨l, o⟩ := o
    have hok := callOk h.world (h.knowledge k (by simp)) hpermits hexec
    have hother : ∀ other ∈ ks₁ ++ ks₂, KnowledgeOk w' other := by
      intro other hmem
      apply hok.others other (h.knowledge other ?_)
      · exact fun id howner => not_owns_of_oneOwner (h.oneOwner id) howner other hmem
      · exact (List.Sublist.append_left (List.sublist_cons_self k ks₂) ks₁).subset hmem
    refine ⟨trivial, hok.world, ?_, hok.oneOwner h⟩
    intro other hmem
    rw [List.mem_append, List.mem_cons] at hmem
    obtain hmem | rfl | hmem := hmem
    · exact hother other (List.mem_append_left _ hmem)
    · exact hok.caller
    · exact hother other (List.mem_append_right _ hmem)
  crash {w _ ks₁ k ks₂} h := by
    have hsub : (ks₁ ++ ks₂).Sublist (ks₁ ++ k :: ks₂) :=
      List.Sublist.append_left (List.sublist_cons_self k ks₂) ks₁
    exact ⟨h.world, fun other hmem => h.knowledge other (hsub.subset hmem),
      fun id => hsub.countP_le.trans (h.oneOwner id)⟩

end BhDic.Files
