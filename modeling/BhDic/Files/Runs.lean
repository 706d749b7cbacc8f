import BhDic.Files.Service
import BhDic.Library.Interleaving
import BhDic.Library.Labelled
import Mathlib.Data.List.Sort

/-!
# Runs of the file service

Any number of uploads, claims and purges run at once over one database and one file system. Every
call is one step and may raise, and a program may stop for good between two calls. A call that
raises leaves the database and the names of the files as they are; moving a file is two calls, of
which the second, the change of its mode, may fail after the first has taken place.
-/

namespace BhDic.Files

open BhDic.Library BhDic.Python
open BhDic.Library.Prog

/-- What a process can be asked to do. The number tells purges apart; `restart` is the start of a
new process, which has no claims. -/
inductive FileRequest
  | ingest (uploadId originalFilename : String) (claimedMime : Option String) (chunks : List Chunk)
  | claim (uploadId : String)
  | markProcessed (uploadId : String)
  | resolve (uploadId : String)
  | purge (number : Nat) (now : Instant)
  | restart
  deriving DecidableEq

/-- The program of a request; what it returns is left out. -/
def FileRequest.program (c : FileSettings) : FileRequest → FileProg Unit
  | .ingest uploadId originalFilename claimedMime chunks => do
      let _ ← FileService.ingest c uploadId originalFilename claimedMime chunks
  | .claim uploadId => do
      let _ ← FileService.claimCleanUpload c uploadId
  | .markProcessed uploadId => do
      let _ ← FileService.markProcessed c uploadId
  | .resolve uploadId => do
      let _ ← FileService.resolveCleanUpload c uploadId
  | .purge _ now => do
      let _ ← FileRetentionService.purgeExpired now
  | .restart => perform .restart

abbrev requestEffect : Effect := fileEffect.labelled FileRequest

/-- A call with its caller and its answer. -/
abbrev FileEvent := requestEffect.Answered

/-- The database, the files with their content, what the process has claimed, and every call so
far. -/
structure FileWorld where
  records : Dict String UploadRecord := .empty
  files : Dict (Bucket × String) (List UInt8) := .empty
  claims : Dict String String := .empty
  log : List FileEvent := []

namespace FileWorld

variable (c : FileSettings) (w : FileWorld)

/-- Store a record. -/
def store (record : UploadRecord) : FileWorld :=
  { w with records := w.records.set record.uploadId (persisted c.unicode record) }

/-- The records `find_by_sha256` finds one of, the earliest first. -/
def matching (digest : String) : List UploadRecord :=
  (w.records.values.filter fun record => record.sha256 = some digest && record.live).insertionSort
    fun a b => a.createdAt ≤ b.createdAt

/-- `claim_sha256`. -/
def claimSha256 (digest uploadId : String) : Bool × FileWorld :=
  match w.claims.get? digest with
  | some owner => (owner = uploadId, w)
  | none =>
      match (w.matching digest).head? with
      | some existing =>
          if existing.uploadId ≠ uploadId then (false, w)
          else (true, { w with claims := w.claims.set digest uploadId })
      | none => (true, { w with claims := w.claims.set digest uploadId })

/-- What a call that does not raise returns, and the world it leaves. -/
def Exec (w : FileWorld) : (o : FileOp) → o.Returns → FileWorld → Prop
  | .insert record, _, w' => w.records.get? record.uploadId = none ∧ w' = w.store c record
  | .get uploadId, answer, w' => answer = w.records.get? uploadId ∧ w' = w
  | .replace record expectedVersion, _, w' => record.version = expectedVersion + 1 ∧
      (∃ current, w.records.get? record.uploadId = some current ∧
        current.version = expectedVersion) ∧ w' = w.store c record
  | .claimSha256 digest uploadId, answer, w' => (answer, w') = w.claimSha256 digest uploadId
  | .listRecords, answer, w' => answer.Perm w.records.values ∧ w' = w
  | .create uploadId, _, w' => w.files.get? (.quarantine, uploadId) = none ∧
      w' = { w with files := w.files.set (.quarantine, uploadId) [] }
  | .fill uploadId content, _, w' =>
      w' = if (w.files.get? (.quarantine, uploadId)).isSome
        then { w with files := w.files.set (.quarantine, uploadId) content } else w
  | .exists bucket uploadId, answer, w' =>
      answer = (w.files.get? (bucket, uploadId)).isSome ∧ w' = w
  | .rename uploadId source destination, _, w' =>
      ∃ content, w.files.get? (source, uploadId) = some content ∧
        w' = { w with
          files := (w.files.erase (source, uploadId)).set (destination, uploadId) content }
  | .unlink bucket uploadId, _, w' => w' = { w with files := w.files.erase (bucket, uploadId) }
  | .readStored bucket uploadId, answer, w' =>
      (∃ content, w.files.get? (bucket, uploadId) = some content ∧
        answer = (content.length, c.sha256 content)) ∧ w' = w
  | .restart, _, w' => w' = { w with claims := .empty }
  | _, _, w' => w' = w

/-- A call that raises may have written a part of a file. -/
def ExecRaised (w : FileWorld) : FileOp → FileWorld → Prop
  | .fill uploadId _, w' => w' = w ∨ ∃ content,
      (w.files.get? (.quarantine, uploadId)).isSome ∧
        w' = { w with files := w.files.set (.quarantine, uploadId) content }
  | _, w' => w' = w

end FileWorld

/-- The file service over one world. -/
def fileSystem (c : FileSettings) : System requestEffect Exn Unit FileRequest FileWorld where
  body l := (l.program c).label l
  exec := fun (l, o) w answer w' =>
    ∃ next : FileWorld,
      (match answer with
        | .ok a => w.Exec c o a next
        | .error _ => w.ExecRaised o next) ∧
      w' = { next with log := w.log ++ [⟨(l, o), answer⟩] }

/-! ## Runs that can be computed -/

/-- An environment that answers every call: a fixed time, a detector and an antivirus that find
nothing wrong, and the calls it lets fail. -/
structure FileAnswers where
  clock : Instant
  fails : FileRequest → FileOp → Bool

namespace FileAnswers

variable (c : FileSettings) (answers : FileAnswers)

def done {α : Type} (a : α) (w : FileWorld) : Except Exn α × FileWorld := (.ok a, w)

def refused {α : Type} (w : FileWorld) : Except Exn α × FileWorld := (.error ⟨.osError, "refused"⟩, w)

/-- A call that is not let fail. -/
def answer : (o : FileOp) → FileWorld → Except Exn o.Returns × FileWorld
  | .insert record, w =>
      if w.records.get? record.uploadId = none then done () (w.store c record) else refused w
  | .get uploadId, w => done (w.records.get? uploadId) w
  | .replace record expectedVersion, w =>
      if record.version = expectedVersion + 1 ∧
          ∃ current ∈ w.records.get? record.uploadId, current.version = expectedVersion then
        done () (w.store c record)
      else refused w
  | .claimSha256 digest uploadId, w => done (w.claimSha256 digest uploadId).1
      (w.claimSha256 digest uploadId).2
  | .listRecords, w => done w.records.values w
  | .create uploadId, w =>
      if w.files.get? (.quarantine, uploadId) = none then
        done () { w with files := w.files.set (.quarantine, uploadId) [] }
      else refused w
  | .fill uploadId content, w => done ()
      (if (w.files.get? (.quarantine, uploadId)).isSome
        then { w with files := w.files.set (.quarantine, uploadId) content } else w)
  | .exists bucket uploadId, w => done (w.files.get? (bucket, uploadId)).isSome w
  | .rename uploadId source destination, w =>
      match w.files.get? (source, uploadId) with
      | some content => done () { w with
          files := (w.files.erase (source, uploadId)).set (destination, uploadId) content }
      | none => refused w
  | .unlink bucket uploadId, w => done () { w with files := w.files.erase (bucket, uploadId) }
  | .readStored bucket uploadId, w =>
      match w.files.get? (bucket, uploadId) with
      | some content => done (content.length, c.sha256 content) w
      | none => refused w
  | .restart, w => done () { w with claims := .empty }
  | .chmod .., w => done () w
  | .detect _, w => done "application/pdf" w
  | .scan _, w => done AntivirusVerdict.clean w
  | .now, w => done answers.clock w
  | .event .., w => done () w

def handle (o : requestEffect.Op) (w : FileWorld) : requestEffect.Ans o × FileWorld :=
  let result := if answers.fails o.1 o.2 then refused w else answers.answer c o.2 w
  (result.1, { result.2 with log := w.log ++ [⟨o, result.1⟩] })

/-- The world is left as the answer says. -/
def Leaves (o : FileOp) (w : FileWorld) (result : Except Exn o.Returns × FileWorld) : Prop :=
  match result.1 with
  | .ok a => w.Exec c o a result.2
  | .error _ => w.ExecRaised o result.2

theorem leaves_refused (o : FileOp) (w : FileWorld) : Leaves c o w (refused w) := by
  cases o with
  | fill uploadId content => exact .inl rfl
  | _ => rfl

theorem leaves_answer (o : FileOp) (w : FileWorld) : Leaves c o w (answers.answer c o w) := by
  cases o with
  | insert record =>
      simp only [answer]
      split
      · exact ⟨‹_›, rfl⟩
      · exact leaves_refused c _ w
  | replace record expectedVersion =>
      simp only [answer]
      split
      · rename_i hcurrent
        exact ⟨hcurrent.1, hcurrent.2, rfl⟩
      · exact leaves_refused c _ w
  | create uploadId =>
      simp only [answer]
      split
      · exact ⟨‹_›, rfl⟩
      · exact leaves_refused c _ w
  | rename uploadId source destination =>
      simp only [answer]
      split
      · exact ⟨_, ‹_›, rfl⟩
      · exact leaves_refused c _ w
  | readStored bucket uploadId =>
      simp only [answer]
      split
      · exact ⟨⟨_, ‹_›, rfl⟩, rfl⟩
      · exact leaves_refused c _ w
  | listRecords => exact ⟨List.Perm.refl _, rfl⟩
  | get | «exists» => exact ⟨rfl, rfl⟩
  | _ => exact rfl

theorem handle_exec (o : requestEffect.Op) (w : FileWorld) :
    (fileSystem c).exec o w (answers.handle c o w).1 (answers.handle c o w).2 := by
  obtain ⟨l, o⟩ := o
  have hleaves : Leaves c o w (if answers.fails l o then refused w else answers.answer c o w) := by
    split
    · exact leaves_refused c o w
    · exact leaves_answer c answers o w
  unfold handle
  dsimp only
  generalize (if answers.fails l o then refused w else answers.answer c o w) = result at hleaves ⊢
  obtain ⟨answer, next⟩ := result
  cases answer with
  | ok a => exact ⟨next, hleaves, rfl⟩
  | error e => exact ⟨next, hleaves, rfl⟩

end FileAnswers

def sampleFiles : FileSettings where
  unicode := asciiTables
  sha256 content := String.ofList (List.replicate 64 (Nat.digitChar (content.length % 16)))
  maxBytes := 1000
  retention := 10
  allowedMimeTypes := ["application/pdf"]
  clamavRequired := true
  maxBytesPositive := by decide
  retentionPositive := by decide

/-- The world after requests made one after another. -/
def sampleFileWorld (fails : FileRequest → FileOp → Bool) (requests : List FileRequest) : FileWorld :=
  runAll (fileSystem sampleFiles) (FileAnswers.handle sampleFiles ⟨0, fails⟩) requests {}

theorem sampleFileWorld_reachable (fails : FileRequest → FileOp → Bool)
    (requests : List FileRequest) :
    Reachable (fileSystem sampleFiles) {} ⟨sampleFileWorld fails requests, requests, []⟩ :=
  Reachable.init.runAll (FileAnswers.handle_exec sampleFiles ⟨0, fails⟩) requests

def vitae : String := "0123456789abcdef0123456789abcdef"

def letter : String := "fedcba9876543210fedcba9876543210"

/-- Nothing is let fail. -/
def noFailure (_ : FileRequest) (_ : FileOp) : Bool := false

end BhDic.Files
