import BhDic.Files.CustodyRuns

/-!
# Duplicates

An upload is rejected as a duplicate when its content cannot be claimed. What the process has
claimed is kept until the process ends, also when the upload that claimed the content was rejected,
failed or was purged. The decision is the database's exactly when the claim of another upload is
backed by one that is live.
-/

namespace BhDic.Files

open BhDic.Library BhDic.Python
open BhDic.Library.Prog

/-! ## What the answer to a claim decides -/

/-- Whether a claim has been refused. -/
def refusals : Discipline fileEffect Bool where
  permits _ _ := True
  promises _ _ := True
  learn
    | k, .claimSha256 _ _, .ok (claimed : Bool) => k || !claimed
    | k, _, _ => k

/-- A rejected record says that it is a duplicate if and only if a claim was refused. -/
def SaysDuplicate : Except Exn UploadRecord → Bool → Prop :=
  OnOk fun record refused => record.rejectionReason = some "DUPLICATE_FILE" ↔ refused = true

section Ingest

variable {c : FileSettings} {record : UploadRecord} {refused : Bool}

theorem refusals_perform {o : FileOp} {Q : Except Exn o.Returns → Bool → Prop} :
    Guarded refusals (perform o) Q refused ↔ ∀ answer, Q answer (refusals.learn refused o answer) := by
  simp only [perform, guarded_bind, guarded_ofExcept]
  constructor
  · exact fun h answer => h.2 answer trivial
  · exact fun h => ⟨trivial, fun answer _ => h answer⟩

/-- Calls that claim nothing. -/
theorem refusals_quiet {o : FileOp} {Q : Except Exn o.Returns → Bool → Prop}
    (hclaim : ∀ digest id, o ≠ .claimSha256 digest id) (hQ : ∀ answer, Q answer refused) :
    Guarded refusals (perform o) Q refused := by
  apply refusals_perform.mpr
  intro answer
  have hlearn : refusals.learn refused o answer = refused := by
    cases o with
    | claimSha256 digest id => exact absurd rfl (hclaim digest id)
    | _ => cases answer <;> rfl
  rw [hlearn]
  exact hQ answer

theorem refusals_update {changes : UploadRecord → UploadRecord}
    {Q : Except Exn UploadRecord → Bool → Prop}
    (hok : Q (.ok { changes record with version := record.version + 1 }) refused)
    (herror : ∀ e, Q (.error e) refused) :
    Guarded refusals (FileService.update record changes) Q refused := by
  refine guarded_bind.mpr (refusals_quiet nofun fun answer => ?_)
  cases answer with
  | error e => exact herror e
  | ok u => exact hok

theorem refusals_move {uploadId : String} {source destination : Bucket}
    {Q : Except Exn Unit → Bool → Prop} (hQ : ∀ r, Q r refused) :
    Guarded refusals (QuarantineStore.move uploadId source destination) Q refused := by
  refine guarded_bind.mpr (refusals_quiet nofun fun occupied => ?_)
  cases occupied with
  | error e => exact hQ _
  | ok occupied =>
      refine guarded_bind.mpr ?_
      unfold Prog.require
      split
      · refine guarded_bind.mpr (refusals_quiet nofun fun renamed => ?_)
        cases renamed with
        | error e => exact hQ _
        | ok u => exact refusals_quiet nofun hQ
      · exact hQ _

theorem refusals_moveToRejected {Q : Except Exn Bool → Bool → Prop} (hQ : ∀ r, Q r refused) :
    Guarded refusals (FileService.moveToRejected record) Q refused := by
  unfold FileService.moveToRejected
  split
  · exact hQ _
  · refine guarded_bind.mpr (refusals_quiet nofun fun stored => ?_)
    cases stored with
    | error e => exact hQ _
    | ok stored =>
        dsimp only
        split
        · exact hQ _
        · refine guarded_bind.mpr (refusals_move fun moved => ?_)
          cases moved <;> exact hQ _

/-- A rejection gives the reason it is given. -/
theorem refusals_reject {reason : String} (h : reason = "DUPLICATE_FILE" ↔ refused = true) :
    Guarded refusals (FileService.reject record reason) SaysDuplicate refused := by
  refine guarded_bind.mpr (refusals_moveToRejected fun moved => ?_)
  cases moved with
  | error e => trivial
  | ok moved =>
      refine guarded_bind.mpr (refusals_update ?_ fun _ => trivial)
      refine guarded_bind.mpr (refusals_quiet nofun fun answer => ?_)
      cases answer with
      | error e => trivial
      | ok u =>
          show some reason = some "DUPLICATE_FILE" ↔ refused = true
          rw [Option.some.injEq]
          exact h

/-- A rejection before anything is claimed. -/
theorem refusals_reject_early {reason : String} (h : reason ≠ "DUPLICATE_FILE") :
    Guarded refusals (FileService.reject record reason) SaysDuplicate false :=
  refusals_reject ⟨fun heq => absurd heq h, fun hfalse => absurd hfalse (by decide)⟩

theorem refusals_inspect (filename : String) (stored : StoredDigest)
    (hreason : record.rejectionReason = none) :
    Guarded refusals (FileService.inspect c filename record stored) SaysDuplicate false := by
  refine guarded_bind.mpr (refusals_update ?_ fun _ => trivial)
  refine guarded_bind.mpr (guarded_attempt.mpr (refusals_quiet nofun fun answer => ?_))
  cases answer with
  | error e =>
      dsimp only
      split
      · exact refusals_reject_early (by decide)
      · trivial
  | ok answer =>
      refine guarded_bind.mpr (refusals_update ?_ fun _ => trivial)
      dsimp only
      split
      · exact refusals_reject_early (by decide)
      split
      · exact refusals_reject_early (by decide)
      split
      · exact refusals_reject_early (by decide)
      refine guarded_bind.mpr (guarded_attempt.mpr (refusals_quiet nofun fun answer => ?_))
      cases answer with
      | error e =>
          dsimp only
          split
          · refine guarded_bind.mpr (refusals_update ?_ fun _ => trivial)
            exact refusals_reject_early (by decide)
          · trivial
      | ok verdict =>
          refine guarded_bind.mpr (refusals_update ?_ fun _ => trivial)
          dsimp only
          split
          · exact refusals_reject_early (by decide)
          split
          · exact refusals_reject_early (by decide)
          refine guarded_bind.mpr (refusals_perform.mpr fun claimed => ?_)
          cases claimed with
          | error e => trivial
          | ok claimed =>
              cases claimed with
              | false => exact refusals_reject ⟨fun _ => rfl, fun _ => rfl⟩
              | true =>
                  refine guarded_bind.mpr (refusals_move fun moved => ?_)
                  cases moved with
                  | error e => trivial
                  | ok u =>
                      refine guarded_bind.mpr (refusals_update ?_ fun _ => trivial)
                      refine guarded_bind.mpr (refusals_quiet nofun fun answer => ?_)
                      cases answer with
                      | error e => trivial
                      | ok u =>
                          show record.rejectionReason = some "DUPLICATE_FILE" ↔ false = true
                          simp [hreason]

theorem refusals_write {uploadId : String} (chunks : List Chunk)
    {Q : Except Exn Written → Bool → Prop} (hQ : ∀ r, Q r refused) :
    Guarded refusals (QuarantineStore.write c uploadId chunks) Q refused := by
  refine guarded_bind.mpr (refusals_quiet nofun fun answer => ?_)
  cases answer with
  | error e => exact hQ _
  | ok u =>
      obtain ⟨content, ending⟩ := writeChunks c [] chunks
      have hunlink : ∀ e, Guarded refusals
          ((perform (.unlink .quarantine uploadId)).bind fun _ => .throw e) Q refused := by
        intro e
        refine guarded_bind.mpr (refusals_quiet nofun fun answer => ?_)
        cases answer <;> exact hQ _
      refine guarded_bind.mpr (guarded_attempt.mpr (refusals_quiet nofun fun answer => ?_))
      cases answer with
      | error e => exact hunlink e
      | ok u =>
          cases ending with
          | failed e => exact hunlink e
          | stored digest => exact hQ _
          | sizeLimitExceeded size digest => exact hQ _

theorem refusals_ingest (uploadId originalFilename : String) (claimedMime : Option String)
    (chunks : List Chunk) :
    Guarded refusals (FileService.ingest c uploadId originalFilename claimedMime chunks)
      SaysDuplicate false := by
  refine guarded_bind.mpr (refusals_quiet nofun fun now => ?_)
  cases now with
  | error e => trivial
  | ok now =>
      dsimp only
      split
      · split
        · refine guarded_bind.mpr (refusals_quiet nofun fun answer => ?_)
          cases answer with
          | error e => trivial
          | ok u =>
              refine guarded_bind.mpr (refusals_quiet nofun fun answer => ?_)
              cases answer with
              | error e => trivial
              | ok u =>
                  show some "PATH_TRAVERSAL" = some "DUPLICATE_FILE" ↔ false = true
                  decide
        · trivial
      · refine guarded_bind.mpr (refusals_quiet nofun fun answer => ?_)
        cases answer with
        | error e => trivial
        | ok u =>
            refine guarded_bind.mpr (refusals_quiet nofun fun answer => ?_)
            cases answer with
            | error e => trivial
            | ok u =>
                refine guarded_bind.mpr (guarded_attempt.mpr (refusals_write chunks fun written => ?_))
                cases written with
                | error e =>
                    dsimp only
                    split
                    · exact refusals_reject_early (by decide)
                    · trivial
                | ok written =>
                    cases written with
                    | failed e => trivial
                    | sizeLimitExceeded size digest =>
                        refine guarded_bind.mpr (refusals_update ?_ fun _ => trivial)
                        exact refusals_reject_early (by decide)
                    | stored digest =>
                        dsimp only
                        split
                        · refine guarded_bind.mpr (refusals_update ?_ fun _ => trivial)
                          exact refusals_reject_early (by decide)
                        · exact refusals_inspect _ digest rfl

/-- The call is a claim that was refused. -/
def Refused (x : fileEffect.Answered) : Prop :=
  ∃ digest uploadId, x = ⟨.claimSha256 digest uploadId, .ok false⟩

theorem refusals_learn (x : fileEffect.Answered) :
    refusals.learn refused x.1 x.2 = true ↔ refused = true ∨ Refused x := by
  constructor
  · intro h
    obtain ⟨o, answer⟩ := x
    cases o with
    | claimSha256 digest uploadId =>
        cases answer with
        | error e => exact .inl h
        | ok claimed =>
            cases claimed with
            | false => exact .inr ⟨digest, uploadId, rfl⟩
            | true => exact .inl ((Bool.or_false refused).symm.trans h)
    | _ => cases answer <;> exact .inl h
  · rintro (h | ⟨digest, uploadId, rfl⟩)
    · obtain ⟨o, answer⟩ := x
      rw [h]
      cases o <;> cases answer <;> rfl
    · exact Bool.or_true refused

theorem foldl_refusals {answers : List fileEffect.Answered} :
    answers.foldl (fun k x => refusals.learn k x.1 x.2) refused = true ↔
      refused = true ∨ ∃ x ∈ answers, Refused x := by
  induction answers generalizing refused with
  | nil => simp
  | cons x answers ih =>
      rw [List.foldl_cons, ih, refusals_learn, or_assoc, List.exists_mem_cons_iff]

/-- **An upload is rejected as a duplicate if and only if its claim was refused.** -/
theorem ingest_duplicate {uploadId originalFilename : String} {claimedMime : Option String}
    {chunks : List Chunk} {answers : List fileEffect.Answered}
    (h : Returns (FileService.ingest c uploadId originalFilename claimedMime chunks) answers record) :
    record.rejectionReason = some "DUPLICATE_FILE" ↔
      ∃ x ∈ answers, Refused x := by
  have hduplicate := (refusals_ingest _ _ _ _).returns (fun _ _ => trivial) h
  rw [SaysDuplicate, OnOk, foldl_refusals] at hduplicate
  simpa using hduplicate

end Ingest

/-! ## What a claim says and what the database says -/

/-- Another record that is live has the content. -/
def FileWorld.LiveDuplicate (w : FileWorld) (digest uploadId : String) : Prop :=
  ∃ id record, w.records.get? id = some record ∧ id ≠ uploadId ∧ record.live = true ∧
    record.sha256 = some digest

/-- A claim is refused if and only if another live record has the content, also after the process
has been restarted. -/
structure DecidesByDatabase (w : FileWorld) (digest uploadId : String) : Prop where
  duplicate : (w.claimSha256 digest uploadId).1 = false ↔ w.LiveDuplicate digest uploadId
  restarted : ({ w with claims := .empty }.claimSha256 digest uploadId).1 =
    (w.claimSha256 digest uploadId).1

/-- An upload that the process knows to have claimed the content is backed by a live record. -/
def ClaimBacked (w : FileWorld) (digest uploadId : String) : Prop :=
  ∀ owner, w.claims.get? digest = some owner → owner ≠ uploadId → w.LiveDuplicate digest uploadId

section Decision

variable {w : FileWorld} {digest uploadId : String}

theorem mem_matching {record : UploadRecord} : record ∈ w.matching digest ↔
    (∃ id, w.records.get? id = some record) ∧ record.sha256 = some digest ∧ record.live = true := by
  rw [FileWorld.matching, List.mem_insertionSort, List.mem_filter, Dict.mem_values]
  simp

/-- Without a claim the database decides, as the record of the upload itself is not live. -/
theorem claimSha256_of_unclaimed (hw : WorldOk w) (hclaims : w.claims.get? digest = none)
    (hnot : ∀ record, w.records.get? uploadId = some record → record.live = false) :
    (w.claimSha256 digest uploadId).1 = false ↔ w.LiveDuplicate digest uploadId := by
  have hother : ∀ record ∈ w.matching digest, record.uploadId ≠ uploadId ∧
      w.LiveDuplicate digest uploadId := by
    intro record hmem
    obtain ⟨⟨id, hget⟩, hdigest, hlive⟩ := mem_matching.mp hmem
    have hid : record.uploadId = id := hw.keyed id record hget
    have hne : id ≠ uploadId := by
      rintro rfl
      rw [hnot record hget] at hlive
      cases hlive
    exact ⟨hid ▸ hne, id, record, hget, hne, hlive, hdigest⟩
  simp only [FileWorld.claimSha256, hclaims]
  cases hmatching : w.matching digest with
  | nil =>
      constructor
      · intro h
        cases h
      · rintro ⟨id, record, hget, -, hlive, hdigest⟩
        have hmem : record ∈ w.matching digest := mem_matching.mpr ⟨⟨id, hget⟩, hdigest, hlive⟩
        rw [hmatching] at hmem
        cases hmem
  | cons existing rest =>
      obtain ⟨hne, hlive⟩ := hother existing (by rw [hmatching]; exact List.mem_cons_self)
      simp only [List.head?_cons, if_pos hne]
      exact iff_of_true trivial hlive

theorem claimSha256_of_claimed {owner : String} (hclaims : w.claims.get? digest = some owner) :
    (w.claimSha256 digest uploadId).1 = decide (owner = uploadId) := by
  simp only [FileWorld.claimSha256, hclaims]

/-- Of an upload that has not claimed anything and is not live, the database decides exactly when
the claim is backed. -/
theorem decidesByDatabase_iff (hw : WorldOk w) (hunclaimed : w.claims.get? digest ≠ some uploadId)
    (hnot : ∀ record, w.records.get? uploadId = some record → record.live = false) :
    DecidesByDatabase w digest uploadId ↔ ClaimBacked w digest uploadId := by
  have hrestarted : ({ w with claims := .empty }.claimSha256 digest uploadId).1 = false ↔
      w.LiveDuplicate digest uploadId := by
    apply claimSha256_of_unclaimed (w := { w with claims := .empty }) _ rfl hnot
    exact { hw with keyed := hw.keyed }
  cases hclaims : w.claims.get? digest with
  | none =>
      have hdecision := claimSha256_of_unclaimed hw hclaims hnot
      refine iff_of_true ⟨hdecision, ?_⟩ fun owner howner => ?_
      · rw [Bool.eq_iff_iff, ← not_iff_not]
        simp only [Bool.not_eq_true, hrestarted, hdecision]
      · rw [hclaims] at howner
        cases howner
  | some owner =>
      have hne : owner ≠ uploadId := fun heq => hunclaimed (by rw [hclaims, heq])
      have hrefused : (w.claimSha256 digest uploadId).1 = false := by
        rw [claimSha256_of_claimed hclaims]
        exact decide_eq_false hne
      constructor
      · intro h owner' _ _
        exact h.duplicate.mp hrefused
      · intro h
        have hlive := h owner hclaims hne
        exact ⟨iff_of_true hrefused hlive, by rw [hrefused, hrestarted.mpr hlive]⟩

end Decision

/-! ## Every run -/

/-- Who has claimed a content has a record, and is not one that has not claimed anything yet. -/
structure ClaimsOk (w : FileWorld) (ks : List Knowledge) : Prop where
  recorded : ∀ digest id, w.claims.get? digest = some id → ∃ record, w.records.get? id = some record
  unclaimed : ∀ k ∈ ks, ∀ id, k.owner = some id → k.claimed = false →
    ∀ digest, w.claims.get? digest ≠ some id

section Step

variable {c : FileSettings} {w w' : FileWorld} {k k' : Knowledge} {ks₁ ks₂ : List Knowledge}
  {l : FileRequest} {o : FileOp} {answer : Except Exn o.Returns}

/-- What a call does to the claims. -/
structure ClaimsStep (w w' : FileWorld) (k k' : Knowledge) : Prop where
  recorded : ∀ id, (∃ record, w.records.get? id = some record) →
    ∃ record, w'.records.get? id = some record
  claims : ∀ digest id, w'.claims.get? digest = some id →
    w.claims.get? digest = some id ∨ k.owner = some id
  caller : k'.claimed = true ∨
    (∀ digest id, w'.claims.get? digest = some id → w.claims.get? digest = some id) ∧
    (k'.claimed = k.claimed ∧ k'.owner = k.owner ∨
      ∃ id, k'.owner = some id ∧ w.records.get? id = none)

theorem ClaimsOk.step (hcustody : Custody w (ks₁ ++ k :: ks₂)) (h : ClaimsOk w (ks₁ ++ k :: ks₂))
    (hstep : ClaimsStep w w' k k') : ClaimsOk w' (ks₁ ++ k' :: ks₂) where
  recorded digest id hclaims := by
    apply hstep.recorded
    obtain hold | howner := hstep.claims digest id hclaims
    · exact h.recorded digest id hold
    · exact (hcustody.knowledge k (by simp)).owned id howner
  unclaimed other hmem id howner hunclaimed digest hclaims := by
    have hothers : other ∈ ks₁ ++ ks₂ → False := by
      intro hmem
      obtain hold | hown := hstep.claims digest id hclaims
      · have hmem' : other ∈ ks₁ ++ k :: ks₂ :=
          (List.Sublist.append_left (List.sublist_cons_self k ks₂) ks₁).subset hmem
        exact h.unclaimed other hmem' id howner hunclaimed digest hold
      · exact not_owns_of_oneOwner (hcustody.oneOwner id) hown other hmem howner
    simp only [List.mem_append, List.mem_cons] at hmem hothers
    obtain hmem | rfl | hmem := hmem
    · exact hothers (.inl hmem)
    · obtain hclaimed | ⟨hsame, ⟨hclaimed, hown⟩ | ⟨new, hnew, hnone⟩⟩ := hstep.caller
      · rw [hunclaimed] at hclaimed
        cases hclaimed
      · exact h.unclaimed k (by simp) id (hown ▸ howner) (hclaimed ▸ hunclaimed) digest
          (hsame digest id hclaims)
      · rw [hnew, Option.some.injEq] at howner
        subst howner
        obtain ⟨record, hrecord⟩ := h.recorded digest new (hsame digest new hclaims)
        rw [hnone] at hrecord
        cases hrecord
    · exact hothers (.inr hmem)

/-- A call that leaves the records and the claims. -/
theorem claimsStep_of_same (hrecords : w'.records = w.records) (hclaims : w'.claims = w.claims)
    (hcaller : k'.claimed = true ∨ k'.claimed = k.claimed ∧ k'.owner = k.owner) :
    ClaimsStep w w' k k' where
  recorded id h := by rwa [hrecords]
  claims digest id h := by
    rw [hclaims] at h
    exact .inl h
  caller := hcaller.imp_right fun h => ⟨fun _ _ hold => by rwa [hclaims] at hold, .inl h⟩

theorem recorded_store (record : UploadRecord) (id : String)
    (h : ∃ old, w.records.get? id = some old) :
    ∃ old, (w.store c record).records.get? id = some old := by
  rw [FileWorld.store, Dict.get?_set]
  split
  · exact ⟨_, rfl⟩
  · exact h

theorem learn_claimed (k : Knowledge) (l : FileRequest) (o : FileOp) (answer : Except Exn o.Returns)
    (hinsert : ∀ record, o ≠ .insert record) :
    (custody.learn k (l, o) answer).claimed = true ∨
      (custody.learn k (l, o) answer).claimed = k.claimed ∧
        (custody.learn k (l, o) answer).owner = k.owner := by
  simp only [custody]
  split
  · exact absurd (Prod.ext_iff.mp ‹_ = (_, FileOp.insert _)›).2 (hinsert _)
  any_goals exact .inr ⟨rfl, rfl⟩
  · exact .inl rfl
  -- what a file that is not there, a write or a read teaches says nothing of a claim
  all_goals split <;> exact .inr ⟨rfl, rfl⟩

theorem claims_claimSha256 {digest uploadId : String} {claimed : Bool} {next : FileWorld}
    (h : (claimed, next) = w.claimSha256 digest uploadId) :
    next.claims = w.claims ∨
      w.claims.get? digest = none ∧ next.claims = w.claims.set digest uploadId := by
  have hnext := congrArg Prod.snd h
  simp only [FileWorld.claimSha256] at hnext
  split at hnext
  · exact .inl (by rw [hnext])
  · rename_i hnone
    split at hnext
    · split at hnext
      · exact .inl (by rw [hnext])
      · exact .inr ⟨hnone, by rw [hnext]⟩
    · exact .inr ⟨hnone, by rw [hnext]⟩

theorem claimsStep_call (hpermits : custody.permits k (l, o))
    (hexec : (fileSystem c).exec (l, o) w answer w') :
    ClaimsStep w w' k (custody.learn k (l, o) answer) := by
  obtain ⟨next, hnext, rfl⟩ := hexec
  cases answer with
  | error e =>
      have hsame : next.records = w.records ∧ next.claims = w.claims := by
        cases o with
        | fill uploadId content =>
            obtain rfl | ⟨content', -, rfl⟩ := hnext
            · exact ⟨rfl, rfl⟩
            · exact ⟨rfl, rfl⟩
        | _ =>
            cases hnext
            exact ⟨rfl, rfl⟩
      refine claimsStep_of_same hsame.1 hsame.2 ?_
      cases o with
      | insert => exact .inr ⟨rfl, rfl⟩
      | _ => exact learn_claimed k l _ _ fun _ h => by cases h
  | ok a =>
      cases o with
      | insert record =>
          obtain ⟨hnew, rfl⟩ := hnext
          exact ⟨recorded_store record, fun _ _ => .inl, .inr ⟨fun _ _ => id, .inr ⟨_, rfl, hnew⟩⟩⟩
      | replace record version =>
          obtain ⟨-, -, rfl⟩ := hnext
          exact ⟨recorded_store record, fun _ _ => .inl,
            (learn_claimed k l _ _ fun _ h => by cases h).imp_right fun h => ⟨fun _ _ => id, .inl h⟩⟩
      | claimSha256 digest uploadId =>
          refine ⟨fun id h => ?_, fun digest' id h => ?_, .inl rfl⟩
          · rwa [(claimSha256_frame hnext).1]
          · obtain hsame | ⟨-, hset⟩ := claims_claimSha256 hnext
            · rw [hsame] at h
              exact .inl h
            · rw [hset, Dict.get?_set] at h
              split at h
              · rw [← Option.some.inj h]
                exact .inr hpermits.2.1
              · exact .inl h
      | restart =>
          cases hnext
          refine ⟨fun _ => id, fun _ _ h => ?_, .inr ⟨fun _ _ h => ?_, .inl ⟨rfl, rfl⟩⟩⟩
          · cases h
          · cases h
      | fill uploadId content =>
          have hsame : next.records = w.records ∧ next.claims = w.claims := by
            rw [hnext]
            split <;> exact ⟨rfl, rfl⟩
          exact claimsStep_of_same hsame.1 hsame.2 (learn_claimed k l _ _ fun _ h => by cases h)
      | get | listRecords | create | «exists» | readStored => 
          obtain ⟨-, rfl⟩ := hnext
          exact claimsStep_of_same rfl rfl (learn_claimed k l _ _ fun _ h => by cases h)
      | rename => 
          obtain ⟨content, -, rfl⟩ := hnext
          exact claimsStep_of_same rfl rfl (learn_claimed k l _ _ fun _ h => by cases h)
      | _ => 
          cases hnext
          exact claimsStep_of_same rfl rfl (learn_claimed k l _ _ fun _ h => by cases h)

end Step

theorem claimsOk_start : ClaimsOk {} [] where
  recorded _ _ h := by cases h
  unclaimed _ h := by cases h

theorem claims_isInvariant (c : FileSettings) :
    IsInvariant (fileSystem c) custody (fun l => { label := l })
      fun w _ ks => Custody w ks ∧ ClaimsOk w ks := by
  apply (custody_isInvariant c).and
  · intro w _ ks l _ h
    refine ⟨h.recorded, fun k hmem id howner => ?_⟩
    obtain hmem | hmem := List.mem_append.mp hmem
    · exact h.unclaimed k hmem id howner
    · rw [List.mem_singleton.mp hmem] at howner
      cases howner
  · intro w w' _ ks₁ k ks₂ o answer hcustody h hpermits hexec
    exact h.step hcustody (claimsStep_call hpermits hexec)
  · intro w _ ks₁ k ks₂ h
    have hsub : (ks₁ ++ ks₂).Sublist (ks₁ ++ k :: ks₂) :=
      List.Sublist.append_left (List.sublist_cons_self k ks₂) ks₁
    exact ⟨h.recorded, fun other hmem => h.unclaimed other (hsub.subset hmem)⟩

/-- **Duplicate detection.** An upload is rejected as a duplicate if and only if its claim is
refused; and in every run the database decides a claim exactly when the claims of the process are
backed by it. -/
theorem duplicate_iff_claimBacked (c : FileSettings) :
    (∀ uploadId originalFilename claimedMime chunks answers record,
      Returns (FileService.ingest c uploadId originalFilename claimedMime chunks) answers record →
        (record.rejectionReason = some "DUPLICATE_FILE" ↔ ∃ x ∈ answers, Refused x)) ∧
    ∀ cfg, Reachable (fileSystem c) {} cfg →
      ∀ ts₁ l digest uploadId k ts₂, cfg.tasks = ts₁ ++ .call (l, .claimSha256 digest uploadId) k :: ts₂ →
        (DecidesByDatabase cfg.shared digest uploadId ↔ ClaimBacked cfg.shared digest uploadId) := by
  refine ⟨fun _ _ _ _ _ _ h => ingest_duplicate h, ?_⟩
  intro cfg h ts₁ l digest uploadId k ts₂ htasks
  have hstart : Custody {} [] ∧ ClaimsOk {} [] := ⟨custody_start, claimsOk_start⟩
  obtain ⟨ks₁, κ, ks₂, ⟨hcustody, hclaims⟩, hpermits⟩ :=
    h.permitted (claims_isInvariant c) hstart htasks
  obtain ⟨-, howner, hunclaimed, record, ⟨hknown, -⟩, hquarantined⟩ := hpermits
  have hmem : κ ∈ ks₁ ++ κ :: ks₂ := by simp
  apply decidesByDatabase_iff hcustody.world
  · exact hclaims.unclaimed κ hmem uploadId howner hunclaimed digest
  · -- what is stored of an upload that is still being examined is in quarantine, or purged
    intro stored hstored
    obtain ⟨current, hcurrent, hstatus⟩ :=
      (hcustody.knowledge κ hmem).quarantined uploadId record howner hknown hquarantined
    rw [hstored, Option.some.injEq] at hcurrent
    subst hcurrent
    obtain hstatus | hstatus := hstatus <;> simp [UploadRecord.live, hstatus]

/-! Two uploads of one content. -/

section Sample

def contentOf (uploadId : String) : FileRequest :=
  .ingest uploadId "cv.pdf" (some "application/pdf") [.bytes [1, 2]]

/-- The world and what is left of the second upload, which is about to claim what the first has
claimed. -/
def secondClaim : Prog requestEffect Exn Unit × FileWorld :=
  advance (FileAnswers.handle sampleFiles ⟨0, noFailure⟩) 10
    ((fileSystem sampleFiles).body (contentOf letter)) (sampleFileWorld noFailure [contentOf vitae])

theorem secondClaim_reachable : Reachable (fileSystem sampleFiles) {}
    ⟨secondClaim.2, [contentOf vitae, contentOf letter], [secondClaim.1]⟩ :=
  (Reachable.step (sampleFileWorld_reachable noFailure [contentOf vitae])
    (.start (contentOf letter) _ _ _)).advance (FileAnswers.handle_exec sampleFiles ⟨0, noFailure⟩) 10

theorem duplicate_iff_claimBacked_secondClaim :
    DecidesByDatabase secondClaim.2 (sampleFiles.sha256 [1, 2]) letter := by
  have hbacked : ClaimBacked secondClaim.2 (sampleFiles.sha256 [1, 2]) letter := by
    intro owner _ _
    exact ⟨vitae, _, rfl, by decide, rfl, rfl⟩
  exact ((duplicate_iff_claimBacked sampleFiles).2 _ secondClaim_reachable [] (contentOf letter)
    (sampleFiles.sha256 [1, 2]) letter _ [] rfl).mpr hbacked

/-- A content that was purged is refused although no record is live, until the process is
restarted. -/
theorem purged_content_refused :
    let requests := [contentOf vitae, .purge 1 20, contentOf letter]
    let restarted := [contentOf vitae, .purge 1 20, .restart, contentOf letter]
    Reachable (fileSystem sampleFiles) {} ⟨sampleFileWorld noFailure requests, requests, []⟩ ∧
    ((sampleFileWorld noFailure requests).records.get? letter).map (·.rejectionReason) =
      some (some "DUPLICATE_FILE") ∧
    (∀ record ∈ (sampleFileWorld noFailure requests).records.values, record.live = false) ∧
    Reachable (fileSystem sampleFiles) {} ⟨sampleFileWorld noFailure restarted, restarted, []⟩ ∧
    ((sampleFileWorld noFailure restarted).records.get? letter).map (·.status) = some .clean :=
  ⟨sampleFileWorld_reachable _ _, by decide, by decide, sampleFileWorld_reachable _ _, by decide⟩

end Sample

end BhDic.Files
