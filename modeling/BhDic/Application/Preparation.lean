import BhDic.Application.Ask
import BhDic.Python.Integer

/-!
# Preparing a write, and recovering it

`_prepare_write` validates what a write is given, shows what it would change and stores it: its
parameters encrypted, its motivation in the record of the action. `_execute_approved` puts the two
together again and validates them a second time.
-/

namespace BhDic.Application

open BhDic.Approvals BhDic.Dic BhDic.Library BhDic.Policies BhDic.Python BhDic.Security
open BhDic.Library.Prog (require)

/-! ## What a preparation is made with -/

/-- `DiscordActor`, with its entitlements. -/
structure Requester where
  userId : Int
  guildId : Int
  channelId : Int
  logicalRoles : List String
  entitlements : List String

/-- `PayloadCipher`, given the random bytes it encrypts with. What is decrypted is the document that
was encrypted; its fields may come back in another order. -/
structure PayloadCipher where
  encryptJson : Bytes → Json → Except Exn Bytes
  decryptJson : Bytes → Except Exn Json
  roundTrips : ∀ {nonce payload token}, encryptJson nonce payload = .ok token →
    ∃ payload', decryptJson token = .ok payload' ∧ payload.Same payload'

/-- What the coordinator prepares writes with: `sameValue` is `==` of two JSON values, `redacted` is
`redact_structure` and `written` is what an f-string writes of a value. -/
structure Preparer where
  snapshots : Snapshots
  approvals : ApprovalService
  cipher : PayloadCipher
  mockMode : Bool
  sameValue : Json → Json → Bool
  redacted : Dict String Json → Json
  written : Json → String

abbrev Preparation (α : Type) := Prog (repositoryEffect.sum readsEffect) Exn α

/-! ## Validation -/

/-- `_validate_write_parameters`. -/
def validatedForWrite (u : UnicodeData) (spec : FunctionSpec) (parameters : Dict String Json) :
    Except Exn (Dict String Json) :=
  match validateWriteParameters u spec parameters with
  | .ok validated => .ok validated
  | .error e =>
      .error (if e.isA .writeParameterValidationError then applicationError e.message else e)

/-- `motivation`: a text that is not blank, stripped. -/
def motivationOf (validated : Dict String Json) : Option String :=
  match validated.get? "motivation" with
  | some (.str text) => if strip text = "" then none else some (strip text)
  | _ => none

/-- A JSON object as a mapping, in which no name occurs twice. -/
def asMapping : Json → Option (Dict String Json)
  | .obj fields => if h : (fields.map Prod.fst).Nodup then some ⟨fields, h⟩ else none
  | _ => none

/-! ## The preview -/

/-- `PREVIEW_FIELD_MASKS`. -/
def previewFieldMasks : List (String × String) :=
  [("first_name", "[PII_REDACTED]"), ("last_name", "[PII_REDACTED]"), ("name", "[PII_REDACTED]"),
    ("payroll_number", "[PII_REDACTED]"), ("tax_code", "[PII_REDACTED]"),
    ("birth_date", "[PII_REDACTED]"), ("iban", "[PII_REDACTED]"), ("phone", "[PII_REDACTED]"),
    ("business_email", "[PII_REDACTED]"), ("address", "[PII_REDACTED]"), ("notes", "[REDACTED]"),
    ("description", "[REDACTED]"), ("title", "[REDACTED]"), ("original_filename", "[REDACTED]"),
    ("upload_id", "[REDACTED]")]

def structuralPlaceholders : List String :=
  ["[NOT_SET]", "[UNCHANGED]", "[DELETE]", "[REDACTED]", "[PII_REDACTED]"]

/-- The mask of a field, over a value that is not a placeholder already: `value not in` a set raises
for a value that cannot be hashed. -/
def maskField (name : String) (value : Json) : Except Exn Json :=
  match Dict.find name previewFieldMasks, value with
  | none, value => .ok value
  | some mask, .str text => .ok (.str (if text ∈ structuralPlaceholders then text else mask))
  | some _, .arr _ => .error ⟨.typeError, "unhashable type: 'list'"⟩
  | some _, .obj _ => .error ⟨.typeError, "unhashable type: 'dict'"⟩
  | some mask, _ => .ok (.str mask)

/-- `_redact_write_preview_values`. -/
def Preparer.redactWritePreviewValues (c : Preparer) (values : Dict String Json)
    (invalidShapeMessage : String) : Except Exn (Dict String Json) :=
  match asMapping (c.redacted values) with
  | some fields => fields.traverse maskField
  | none => .error (applicationError invalidShapeMessage)

/-- A field before and after a write. -/
structure Change where
  field : String
  before : Json
  after : Json

/-- `_build_write_preview`. -/
def buildWritePreview (spec : FunctionSpec) (parameters before : Dict String Json) : List Change :=
  let names := before.items.map Prod.fst ++ parameters.items.map Prod.fst ++
    spec.fixedPreviewAfter.map Prod.fst
  (sortedNames names.dedup).map fun name => {
    field := name
    before := (before.get? name).getD (.str "[NOT_SET]")
    after :=
      if spec.deletesResource then .str "[DELETE]"
      else
        match Dict.find name spec.fixedPreviewAfter with
        | some value => .str value
        | none => (parameters.get? name).getD (.str "[UNCHANGED]") }

def Change.toJson (change : Change) : String × Json :=
  (change.field, .obj [("before", change.before), ("after", change.after)])

/-- `_preview_changes_resource`. -/
def Preparer.previewChangesResource (c : Preparer) (spec : FunctionSpec) (preview : List Change) :
    Bool :=
  spec.deletesResource || spec.alwaysEffectful || preview.any fun change =>
    change.field ∉ spec.writeSelectors && !c.sameValue change.after (.str "[UNCHANGED]") &&
      !c.sameValue change.before change.after

/-! ## The payload -/

def textsJson (texts : List String) : Json := .arr (texts.map .str)

/-- `requester_context`. -/
def requesterContext (actor : Requester) : Json :=
  .obj [("user_id", .str (toString actor.userId)), ("guild_id", .str (toString actor.guildId)),
    ("channel_id", .str (toString actor.channelId)),
    ("logical_roles", textsJson (sortedNames actor.logicalRoles)),
    ("entitlements", textsJson (sortedNames actor.entitlements))]

/-- `pending_payload`. -/
def pendingPayload (actor : Requester) (actionParameters : Dict String Json) : Json :=
  .obj [("version", .int 1), ("parameters", .obj actionParameters.items),
    ("requester_context", requesterContext actor)]

/-! ## Preparing -/

def previewDescription (prepared : Approvals.PreparedAction) : String :=
  "Azione \x60" ++ prepared.action.actionId ++ "\x60 preparata; nessuna modifica è stata " ++
    "eseguita.\nCodice monouso: \x60" ++ prepared.confirmationCode ++ "\x60" ++
  match prepared.requiredTextConfirmation with
  | none => ""
  | some text => if text = "" then "" else "\nConferma target richiesta: \x60" ++ text ++ "\x60"

/-- The answer to a prepared write: the only place its confirmation code is shown. -/
def Preparer.previewResponse (c : Preparer) (functionId correlationId target : String)
    (diff : List Change) (prepared : Approvals.PreparedAction) : AskResponse where
  result := {
    title := "Anteprima " ++ functionId
    description := previewDescription prepared
    correlationId := some correlationId
    actionId := some prepared.action.actionId }
  fields := ("Target verificato", target) :: diff.map fun change =>
    (change.field, c.written change.before ++ " → " ++ c.written change.after)

/-- The end of `_prepare_write`: the preview, and the action that is stored. -/
def storePrepared (c : Preparer) (actor : Requester) (correlationId : String) (intent : Intent)
    (spec : FunctionSpec) (validated : Dict String Json) (nonce : Bytes) (random : RandomReadings)
    (r : Readings) : Preparation AskResponse := do
  let actionParameters := validated.erase "motivation"
  let snapshot ←
    (targetSnapshot c.snapshots intent.functionId intent.employeeId actionParameters true).inr
  require (c.previewChangesResource spec
      (buildWritePreview spec actionParameters snapshot.before) = true)
    (applicationError "write is a no-op against the current resource")
  let redacted ← Prog.ofExcept (c.redactWritePreviewValues actionParameters
    "redacted parameters must remain an object")
  let redactedBefore ← Prog.ofExcept (c.redactWritePreviewValues snapshot.before
    "redacted resource snapshot must remain an object")
  let diff := buildWritePreview spec redacted redactedBefore
  let token ← Prog.ofExcept (c.cipher.encryptJson nonce (pendingPayload actor actionParameters))
  let request : PrepareRequest := {
    functionId := intent.functionId
    correlationId := correlationId
    requesterId := toString actor.userId
    guildId := toString actor.guildId
    channelId := toString actor.channelId
    targetEmployeeId := intent.employeeId
    encryptedParameters := token
    redactedDiff := diff.map Change.toJson
    stateFingerprint := c.snapshots.fingerprint snapshot
    motivation := motivationOf validated }
  let prepared ← (prepare c.approvals request random r).inl
  return c.previewResponse intent.functionId correlationId snapshot.target diff prepared

/-- A response to a write that is not prepared. -/
def unprepared (correlationId title description : String) : AskResponse where
  result := {
    title := title
    description := description
    correlationId := some correlationId
    success := false }

/-- `_prepare_write`, of a coordinator that has an approval service and a cipher. -/
def prepareWrite (c : Preparer) (actor : Requester) (correlationId : String) (intent : Intent)
    (nonce : Bytes) (random : RandomReadings) (r : Readings) : Preparation AskResponse := do
  let spec ← Prog.ofExcept (specOf intent.functionId)
  let validated ← Prog.ofExcept (validatedForWrite c.snapshots.unicode spec intent.parameters)
  if spec.requiresTarget = true ∧ isGiven intent.employeeId = false then
    return unprepared correlationId "Employee ID necessario"
      "Le modifiche non possono usare soltanto il nome."
  else if c.mockMode = false ∧ spec.operatorLiveAvailable = false then
    return unprepared correlationId "Funzione non disponibile" ("NOT_AVAILABLE: " ++ spec.title ++
      " non dispone ancora di un percorso live verificato e fail-closed.")
  else if spec.destructive = true ∧ motivationOf validated = none then
    return unprepared correlationId "Motivazione necessaria"
      "Le azioni critiche richiedono una motivazione esplicita."
  else storePrepared c actor correlationId intent spec validated nonce random r

/-! ## Recovering -/

def asText : Json → Option String
  | .str text => some text
  | _ => none

/-- A list of texts. -/
def asTexts : Json → Option (List String)
  | .arr items => items.mapM asText
  | _ => none

/-- `int(str(value))`, of an identity of the requester. -/
def identityOf (u : UnicodeData) (context : Dict String Json) (name : String) : Except Exn Int :=
  match context.get? name with
  | some (.str text) =>
      match readInt u text.toList with
      | some n => .ok n
      | none => .error (applicationError "decrypted requester identity is malformed")
  | some (.int n) => .ok n
  | _ => .error (applicationError "decrypted requester identity is malformed")

/-- `_validate_requester_binding`. -/
def validateRequesterBinding (requester : Requester) (action : PendingAction) : Except Exn Unit :=
  ensure (toString requester.userId = action.requesterId ∧
      toString requester.guildId = action.guildId ∧
      toString requester.channelId = action.channelId)
    (applicationError "requester authorization does not match pending action")

/-- Who asked for the write. -/
def decodeRequester (u : UnicodeData) (context : Dict String Json) : Except Exn Requester :=
  match (context.get? "logical_roles").bind asTexts, (context.get? "entitlements").bind asTexts with
  | some roles, some entitlements => do
      let userId ← identityOf u context "user_id"
      let guildId ← identityOf u context "guild_id"
      let channelId ← identityOf u context "channel_id"
      return ⟨userId, guildId, channelId, roles, entitlements⟩
  | _, _ => .error (applicationError "decrypted requester authorization is malformed")

/-- `payload.get("version") == 1`. -/
def isVersionOne : Option Json → Bool
  | some (.int n) => n == 1
  | some (.bool b) => b
  | _ => false

/-- What is in a decrypted payload. -/
def decodeDocument (u : UnicodeData) (action : PendingAction) (document : Json) :
    Except Exn (Dict String Json × Requester) :=
  match (asMapping document).filter fun payload => isVersionOne (payload.get? "version") with
  | none => .error (applicationError "decrypted pending payload has an invalid version")
  | some payload =>
      match (payload.get? "parameters").bind asMapping,
        (payload.get? "requester_context").bind asMapping with
      | some parameters, some context => do
          let requester ← decodeRequester u context
          validateRequesterBinding requester action
          return (parameters, requester)
      | _, _ => .error (applicationError "decrypted pending payload is malformed")

/-- `_decode_pending_payload`. -/
def decodePendingPayload (c : Preparer) (action : PendingAction) :
    Except Exn (Dict String Json × Requester) := do
  let document ← c.cipher.decryptJson action.encryptedParameters
  decodeDocument c.snapshots.unicode action document

/-- `validation_parameters`: the stored motivation is put back. -/
def withMotivation (parameters : Dict String Json) : Option String → Dict String Json
  | none => parameters
  | some motivation => parameters.set "motivation" (.str motivation)

/-- The parameters `_execute_approved` recovers, and the stored requester. -/
def recoverParameters (c : Preparer) (action : PendingAction) :
    Except Exn (Dict String Json × Requester) := do
  let (parameters, requester) ← decodePendingPayload c action
  let spec ← specOf action.functionId
  let validated ← validatedForWrite c.snapshots.unicode spec
    (withMotivation parameters action.motivation)
  return (validated.erase "motivation", requester)

end BhDic.Application
