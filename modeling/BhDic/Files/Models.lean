import BhDic.Library.Dict
import BhDic.Python.DateTime
import BhDic.Security.Sanitization

/-!
# Uploads

The metadata of an upload, the buckets its file may lie in, and what is read off its name, its type
and its chunks.
-/

namespace BhDic.Files

open BhDic.Library BhDic.Python BhDic.Security

/-- `_BUCKETS`. -/
inductive Bucket
  | quarantine | clean | rejected | processed
  deriving DecidableEq, Repr

inductive UploadStatus
  | quarantined | clean | rejected | processed | deleted
  deriving DecidableEq, Repr

inductive AntivirusVerdict
  | clean | infected | error | unavailable
  deriving DecidableEq, Repr

def AntivirusVerdict.value : AntivirusVerdict → String
  | .clean => "CLEAN"
  | .infected => "INFECTED"
  | .error => "ERROR"
  | .unavailable => "UNAVAILABLE"

/-- `_UPLOAD_ID`. -/
def isUploadId (text : String) : Bool :=
  text.toList.length == 32 && text.toList.all fun c => c.isDigit || ('a' ≤ c && c ≤ 'f')

/-- `_SHA256`. -/
def isSha256 (text : String) : Bool :=
  text.toList.length == 64 && text.toList.all fun c => c.isDigit || ('a' ≤ c && c ≤ 'f')

structure UploadRecord where
  uploadId : String
  originalFilename : String
  opaqueName : String
  status : UploadStatus
  bucket : Option Bucket
  claimedMime : Option String
  detectedMime : Option String
  sizeBytes : Nat
  sha256 : Option String
  antivirusStatus : Option String
  rejectionReason : Option String
  createdAt : Instant
  expiresAt : Instant
  deletedAt : Option Instant := none
  version : Nat := 1
  deriving DecidableEq, Repr

/-- The statuses `find_by_sha256` looks for. -/
def UploadRecord.live (record : UploadRecord) : Bool :=
  record.status ∈ [.clean, .processed]

structure StoredDigest where
  sizeBytes : Nat
  sha256 : String
  deriving DecidableEq, Repr

structure ResolvedUpload where
  uploadId : String
  sha256 : String
  sizeBytes : Nat
  detectedMime : String
  deriving DecidableEq, Repr

/-- What a `FileService` is made with. -/
structure FileSettings where
  unicode : UnicodeData
  sha256 : List UInt8 → String
  maxBytes : Nat
  retention : Duration
  allowedMimeTypes : List String
  clamavRequired : Bool
  maxBytesPositive : 0 < maxBytes
  retentionPositive : 0 < retention

/-! ## Types and names -/

/-- `MIME_EXTENSIONS`. -/
def mimeExtensions : List (String × List String) :=
  [("application/pdf", [".pdf"]), ("image/jpeg", [".jpg", ".jpeg"]), ("image/png", [".png"])]

/-- `_ALIASES`. -/
def mimeAliases : List (String × String) :=
  [("image/jpg", "image/jpeg"), ("application/x-pdf", "application/pdf")]

/-- `canonical_mime`. -/
def canonicalMime (u : UnicodeData) (value : Option String) : Option String :=
  value.map fun value =>
    let normalized :=
      String.ofList (u.lower (stripChars (value.toList.takeWhile (· ≠ ';'))))
    (mimeAliases.lookup normalized).getD normalized

/-- `Path(name).suffix`, of a name that is one path component. -/
def pathSuffix (name : List Char) : List Char :=
  let tail := name.reverse.takeWhile (· ≠ '.')
  if tail.isEmpty || name.length ≤ tail.length + 1 then []
  else '.' :: tail.reverse

/-- `extension_matches_mime`. -/
def extensionMatchesMime (u : UnicodeData) (filename mimeType : String) : Bool :=
  let allowed := (mimeExtensions.lookup ((canonicalMime u (some mimeType)).getD "")).getD []
  String.ofList (u.lower (pathSuffix filename.toList)) ∈ allowed

/-- The record that a row made of a record is read back as: of the original name only its extension
is kept. -/
def persisted (u : UnicodeData) (record : UploadRecord) : UploadRecord :=
  let extension := (u.lower (pathSuffix record.originalFilename.toList)).take 16
  { record with
    originalFilename := "[REDACTED]" ++ String.ofList extension
    opaqueName := record.uploadId }

example : pathSuffix "cv.tar.gz".toList = ".gz".toList ∧ pathSuffix ".pdf".toList = [] := by decide

/-! ## Chunks -/

/-- What iterating over the chunks of an attachment may give next. -/
inductive Chunk
  | bytes (content : List UInt8)
  | notBytes
  | raises (e : Exn)
  deriving DecidableEq

/-- How the loop over the chunks ends. -/
inductive Written
  | stored (digest : StoredDigest)
  | sizeLimitExceeded (sizeBytes : Nat) (digest : String)
  | failed (e : Exn)

/-- The loop of `write` with `_write_chunk`: what reaches the file, and how it ends. -/
def writeChunks (c : FileSettings) (written : List UInt8) : List Chunk → List UInt8 × Written
  | [] => (written, .stored ⟨written.length, c.sha256 written⟩)
  | .raises e :: _ => (written, .failed e)
  | .notBytes :: _ => (written, .failed ⟨.typeError, "attachment chunks must be bytes"⟩)
  | .bytes content :: chunks =>
      let size := written.length + content.length
      if size > c.maxBytes then
        (written ++ content.take (c.maxBytes + 1 - written.length),
          .sizeLimitExceeded size (c.sha256 (written ++ content)))
      else writeChunks c (written ++ content) chunks

end BhDic.Files
