import BhDic.Files.Models
import BhDic.Library.Trace

/-!
# The file service

`FileService` and `FileRetentionService` as programs over the upload repository, the file system,
the MIME detector and the antivirus. Every call may raise; between two calls a program may stop.
-/

namespace BhDic.Files

open BhDic.Library BhDic.Python BhDic.Security
open BhDic.Library.Prog

inductive FileOp
  -- the upload repository
  | insert (record : UploadRecord)
  | get (uploadId : String)
  | replace (record : UploadRecord) (expectedVersion : Nat)
  | claimSha256 (digest uploadId : String)
  | listRecords
  -- the file system
  | create (uploadId : String)
  | fill (uploadId : String) (content : List UInt8)
  | exists (bucket : Bucket) (uploadId : String)
  | rename (uploadId : String) (source destination : Bucket)
  | chmod (bucket : Bucket) (uploadId : String)
  | unlink (bucket : Bucket) (uploadId : String)
  | readStored (bucket : Bucket) (uploadId : String)
  -- the rest of the environment
  | detect (uploadId : String)
  | scan (uploadId : String)
  | now
  | event (name : String) (record : UploadRecord)
  | restart
  deriving DecidableEq

/-- What a call returns when it does not raise. `readStored` opens the file without following links,
checks its kind and permissions, and returns its size and digest. -/
def FileOp.Returns : FileOp → Type
  | .get _ => Option UploadRecord
  | .claimSha256 _ _ => Bool
  | .listRecords => List UploadRecord
  | .exists _ _ => Bool
  | .readStored _ _ => Nat × String
  | .detect _ => String
  | .scan _ => AntivirusVerdict
  | .now => Instant
  | _ => Unit

abbrev fileEffect : Effect := ⟨FileOp, fun o => Except Exn o.Returns⟩

/-- A program of the file service. -/
abbrev FileProg (α : Type) := Prog fileEffect Exn α

/-- Make a call, raising what it raises. -/
def perform (o : FileOp) : FileProg o.Returns := (ask o).bind Prog.ofExcept

/-! ## The quarantine store -/

namespace QuarantineStore

/-- `exists`. -/
def isFile (bucket : Bucket) (uploadId : String) : FileProg Bool := perform (.exists bucket uploadId)

/-- `write`. -/
def write (c : FileSettings) (uploadId : String) (chunks : List Chunk) : FileProg Written := do
  perform (.create uploadId)
  let (content, ending) := writeChunks c [] chunks
  match ← (perform (.fill uploadId content)).attempt, ending with
  | .error e, _ | .ok _, .failed e =>
      perform (.unlink .quarantine uploadId)
      .throw e
  | .ok _, ending => return ending

/-- `move`. -/
def move (uploadId : String) (source destination : Bucket) : FileProg Unit := do
  let occupied : Bool ← perform (.exists destination uploadId)
  require (occupied = false) ⟨.osError, "opaque upload destination already exists"⟩
  perform (.rename uploadId source destination)
  perform (.chmod destination uploadId)

/-- `delete`. -/
def delete (bucket : Bucket) (uploadId : String) : FileProg Unit := perform (.unlink bucket uploadId)

end QuarantineStore

/-! ## The service -/

namespace FileService

variable (c : FileSettings)

/-- `_update`, of a record whose fields are already changed. -/
def update (record : UploadRecord) (changes : UploadRecord → UploadRecord) :
    FileProg UploadRecord := do
  let updated := { changes record with version := record.version + 1 }
  perform (.replace updated record.version)
  return updated

/-- What `_reject` does to the file: whether it was there to be moved. -/
def moveToRejected (record : UploadRecord) : FileProg Bool := do
  if record.bucket ≠ some .quarantine then return false
  let stored : Bool ← QuarantineStore.isFile .quarantine record.uploadId
  if stored = false then return false
  QuarantineStore.move record.uploadId .quarantine .rejected
  return true

/-- `_reject`. -/
def reject (record : UploadRecord) (reason : String) : FileProg UploadRecord := do
  let moved ← moveToRejected record
  let rejected ← update record fun record => { record with
    status := .rejected
    bucket := if moved then some .rejected else none
    rejectionReason := some reason }
  perform (.event "FILE_REJECTED" rejected)
  return rejected

/-- `_record_early_rejection`. -/
def recordEarlyRejection (uploadId filename : String) (claimedMime : Option String)
    (now : Instant) (reason : String) : FileProg UploadRecord := do
  let record : UploadRecord := {
    uploadId := uploadId
    originalFilename := filename
    opaqueName := uploadId
    status := .rejected
    bucket := none
    claimedMime := canonicalMime c.unicode claimedMime
    detectedMime := none
    sizeBytes := 0
    sha256 := none
    antivirusStatus := none
    rejectionReason := some reason
    createdAt := now
    expiresAt := now + c.retention }
  perform (.insert record)
  perform (.event "FILE_REJECTED" record)
  return record

/-- What `ingest` does once the file is stored: it inspects the file and accepts or rejects it. -/
def inspect (filename : String) (record : UploadRecord) (stored : StoredDigest) :
    FileProg UploadRecord := do
  let record ← update record fun record => { record with
    sizeBytes := stored.sizeBytes, sha256 := some stored.sha256 }
  match ← (perform (.detect record.uploadId)).attempt with
  | .error e => if e.isA .exception then reject record "MIME_DETECTION_FAILED" else .throw e
  | .ok (answer : String) =>
      let detected := canonicalMime c.unicode (some answer)
      let record ← update record fun record => { record with detectedMime := detected }
      if ∀ mime ∈ detected, mime ∉ c.allowedMimeTypes then reject record "MIME_NOT_ALLOWED"
      else if record.claimedMime ≠ none ∧ record.claimedMime ≠ detected then
        reject record "MIME_MISMATCH"
      else if ∀ mime ∈ detected, extensionMatchesMime c.unicode filename mime = false then
        reject record "EXTENSION_MISMATCH"
      else
        match ← (perform (.scan record.uploadId)).attempt with
        | .error e =>
            if e.isA .exception then do
              let record ← update record fun record => { record with
                antivirusStatus := some AntivirusVerdict.error.value }
              reject record "ANTIVIRUS_UNAVAILABLE"
            else .throw e
        | .ok (verdict : AntivirusVerdict) =>
            let record ← update record fun record => { record with
              antivirusStatus := some verdict.value }
            if verdict = .infected then reject record "ANTIVIRUS_INFECTED"
            else if verdict ∈ [.error, .unavailable] ∧ c.clamavRequired = true then
              reject record "ANTIVIRUS_UNAVAILABLE"
            else do
              let claimed : Bool ← perform (.claimSha256 stored.sha256 record.uploadId)
              if claimed = false then reject record "DUPLICATE_FILE"
              else do
                QuarantineStore.move record.uploadId .quarantine .clean
                let clean ← update record fun record => { record with
                  status := .clean, bucket := some .clean }
                perform (.event "FILE_CLEAN" clean)
                return clean

/-- The record `ingest` begins with. -/
def quarantinedRecord (uploadId filename : String) (claimedMime : Option String) (now : Instant) :
    UploadRecord where
  uploadId := uploadId
  originalFilename := filename
  opaqueName := uploadId
  status := .quarantined
  bucket := some .quarantine
  claimedMime := canonicalMime c.unicode claimedMime
  detectedMime := none
  sizeBytes := 0
  sha256 := none
  antivirusStatus := none
  rejectionReason := none
  createdAt := now
  expiresAt := now + c.retention

/-- `ingest`, with the identifier `uuid.uuid4().hex` makes. -/
def ingest (uploadId originalFilename : String) (claimedMime : Option String)
    (chunks : List Chunk) : FileProg UploadRecord := do
  let now : Instant ← perform .now
  match sanitizeFilenameMetadata c.unicode originalFilename with
  | .error e =>
      if e.isA .inputValidationError then
        recordEarlyRejection c uploadId "[UNSAFE_FILENAME]" claimedMime now "PATH_TRAVERSAL"
      else .throw e
  | .ok filename => do
      let record := quarantinedRecord c uploadId filename claimedMime now
      perform (.insert record)
      perform (.event "FILE_QUARANTINED" record)
      match ← (QuarantineStore.write c uploadId chunks).attempt with
      | .error e =>
          if e.isA .osError ∨ e.isA .typeError ∨ e.isA .valueError then
            reject record "QUARANTINE_WRITE_FAILED"
          else .throw e
      | .ok (.sizeLimitExceeded sizeBytes digest) => do
          let record ← update record fun record => { record with
            sizeBytes := sizeBytes, sha256 := some digest }
          reject record "SIZE_LIMIT_EXCEEDED"
      | .ok (.failed e) => .throw e
      | .ok (.stored stored) =>
          if stored.sizeBytes = 0 then do
            let record ← update record fun record => { record with sha256 := some stored.sha256 }
            reject record "EMPTY_FILE"
          else inspect c filename record stored

/-- `_clean_record`. -/
def cleanRecord (uploadId : String) : FileProg UploadRecord := do
  require (isUploadId uploadId = true) ⟨.uploadResolutionError, "invalid upload identifier"⟩
  match ← perform (.get uploadId) with
  | none => .throw ⟨.uploadResolutionError, "upload is unavailable"⟩
  | some (record : UploadRecord) => do
      let notEligible : Exn := ⟨.uploadResolutionError, "upload is not eligible for delivery"⟩
      require (record.uploadId = uploadId ∧ record.opaqueName = uploadId ∧ record.status = .clean ∧
        record.bucket = some .clean ∧ record.deletedAt = none) notEligible
      let now : Instant ← perform .now
      require (now < record.expiresAt ∧
        record.antivirusStatus = some AntivirusVerdict.clean.value ∧
        (∃ mime ∈ record.detectedMime, mime ∈ c.allowedMimeTypes) ∧ 0 < record.sizeBytes ∧
        ∃ digest ∈ record.sha256, isSha256 digest = true) notEligible
      return record

/-- `_verify_stored_record`, of a record that is in the bucket it is looked for in. -/
def verifyStoredRecord (record : UploadRecord) (bucket : Bucket)
    (requireCleanStatus : Bool := true) : FileProg ResolvedUpload := do
  require (requireCleanStatus = true → record.status = .clean)
    ⟨.uploadResolutionError, "upload state changed before delivery"⟩
  let expectedStatus : UploadStatus := if bucket = .clean then .clean else .processed
  require (record.bucket = some bucket ∧ record.status = expectedStatus)
    ⟨.uploadResolutionError, "upload metadata and storage bucket disagree"⟩
  let (observedSize, digest) : Nat × String ← perform (.readStored bucket record.uploadId)
  require (observedSize = record.sizeBytes ∧ record.sha256 = some digest)
    ⟨.uploadResolutionError, "upload integrity verification failed"⟩
  match record.detectedMime with
  | none => .throw ⟨.uploadResolutionError, "upload MIME metadata is unavailable"⟩
  | some detectedMime => return ⟨record.uploadId, digest, record.sizeBytes, detectedMime⟩

/-- `resolve_clean_upload`. -/
def resolveCleanUpload (uploadId : String) : FileProg ResolvedUpload := do
  let record ← cleanRecord c uploadId
  verifyStoredRecord record .clean

/-- `claim_clean_upload`. -/
def claimCleanUpload (uploadId : String) : FileProg ResolvedUpload := do
  let record ← cleanRecord c uploadId
  let _ ← verifyStoredRecord record .clean
  match ← (QuarantineStore.move uploadId .clean .processed).attempt with
  | .error e =>
      .throw (if e.isA .osError ∨ e.isA .valueError then
        ⟨.uploadResolutionError, "clean upload could not be claimed"⟩ else e)
  | .ok () =>
      let updating := update record fun record => { record with
        status := .processed, bucket := some .processed }
      match ← updating.attempt with
      | .error e =>
          .throw (if e.isA .exception then
            ⟨.uploadResolutionError, "upload claim metadata update failed closed"⟩ else e)
      | .ok updated => do
          let resolved ← verifyStoredRecord updated .processed false
          perform (.event "FILE_PROCESSED" updated)
          return resolved

/-- `mark_processed`. -/
def markProcessed (uploadId : String) : FileProg UploadRecord := do
  let _ ← claimCleanUpload c uploadId
  match ← perform (.get uploadId) with
  | none => .throw ⟨.keyError, uploadId⟩
  | some (record : UploadRecord) => return record

end FileService

/-! ## Retention -/

namespace FileRetentionService

/-- What `purge_expired` does with one record. -/
def purge (now : Instant) (record : UploadRecord) : FileProg (Option String) := do
  if record.status = .deleted ∨ now < record.expiresAt then return none
  if let some bucket := record.bucket then
    QuarantineStore.delete bucket record.uploadId
  let deleted : UploadRecord := { record with
    status := .deleted
    bucket := none
    deletedAt := some now
    version := record.version + 1 }
  perform (.replace deleted record.version)
  perform (.event "FILE_RETENTION_DELETED" deleted)
  return some record.uploadId

/-- The loop of `purge_expired`. -/
def purgeAll (now : Instant) : List UploadRecord → FileProg (List String)
  | [] => return []
  | record :: records => do
      let purged ← purge now record
      let rest ← purgeAll now records
      return purged.toList ++ rest

/-- `purge_expired`, with the time it is given. -/
def purgeExpired (now : Instant) : FileProg (List String) := do
  let records : List UploadRecord ← perform .listRecords
  purgeAll now records

end FileRetentionService

end BhDic.Files
