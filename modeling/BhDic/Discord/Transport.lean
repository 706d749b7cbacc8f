import BhDic.Library.Prog
import BhDic.Python.Text

/-!
# How a result reaches Discord

The commands of `/bh`, the controls below a message and the messages of the channel all end in one
`InteractionResult`. `BHCommandGroup.send` and `BHDiCBot.dispatchMessage` deliver it. What Discord,
the gate, the limiters and the coordinator answer is left open, and so is whether a message that is
sent gets through.
-/

namespace BhDic.Discord

open BhDic.Library BhDic.Python
open BhDic.Library.Prog (ask forEach)

/-! ## Results -/

inductive ResponseSensitivity
  | publicAggregate | sensitive
  deriving DecidableEq, Repr

structure ResultField where
  name : String
  value : String
  inline : Bool := false

structure EmployeeSelectionOption where
  employeeId : String
  label : String

structure OnboardingFormRequest where
  draftId : String
  fieldNames : List String

structure ResponseAttachment where
  filename : String
  contentType : String
  content : List UInt8

structure InteractionResult where
  title : String
  description : String
  fields : List ResultField := []
  correlationId : Option String := none
  sensitivity : ResponseSensitivity := .sensitive
  actionId : Option String := none
  messages : List String := []
  attachments : List ResponseAttachment := []
  employeeSelection : List EmployeeSelectionOption := []
  employeeSelectionContextId : Option String := none
  onboardingForm : Option OnboardingFormRequest := none
  success : Bool := true
  publicHrFallback : Bool := false

def InteractionResult.ephemeral (result : InteractionResult) : Bool :=
  result.sensitivity != .publicAggregate

/-! ## Controls below a message -/

inductive ResultView
  | approval (actionId : String)
  | employeeSelect (choices : List (String × String)) (contextId : String) (requesterUserId : Int)
  | onboardingDraft (draftId : String) (fieldNames : List String) (requesterUserId : Int)

def isLowerHex (c : Char) : Bool := c.isDigit || ('a' ≤ c && c ≤ 'f')

/-- `_ACTION_ID`. -/
def isActionId (text : String) : Bool :=
  text.length == 36 && text.toList.all fun c => isLowerHex c || ('A' ≤ c && c ≤ 'F') || c == '-'

/-- `_DRAFT_ID`. -/
def isDraftId (text : String) : Bool := text.length == 32 && text.toList.all isLowerHex

/-- What the constructor of a view checks. -/
def ResultView.build : ResultView → Except Exn ResultView
  | .approval actionId =>
      if isActionId actionId then .ok (.approval actionId)
      else .error ⟨.valueError, "action_id must be a UUID"⟩
  | .employeeSelect choices contextId requesterUserId =>
      if requesterUserId ≤ 0 then .error ⟨.valueError, "requester_user_id must be positive"⟩
      else if isDraftId contextId then .ok (.employeeSelect choices contextId requesterUserId)
      else .error ⟨.valueError, "invalid employee selection context ID"⟩
  | .onboardingDraft draftId fieldNames requesterUserId =>
      if requesterUserId ≤ 0 then .error ⟨.valueError, "requester_user_id must be positive"⟩
      else if isDraftId draftId = false then
        .error ⟨.valueError, "invalid onboarding draft ID"⟩
      else if 1 ≤ fieldNames.length ∧ fieldNames.length ≤ 5 then
        .ok (.onboardingDraft draftId fieldNames requesterUserId)
      else .error ⟨.valueError, "invalid onboarding field count"⟩

/-- `result_view`. -/
def resultView (result : InteractionResult) (requesterUserId : Int) :
    Except Exn (Option ResultView) :=
  let actionId := result.actionId.filter (· ≠ "")
  let controlCount := actionId.isSome.toNat + (!result.employeeSelection.isEmpty).toNat +
    result.onboardingForm.isSome.toNat
  if 1 < controlCount then
    .error ⟨.runtimeError, "a result cannot combine interactive control types"⟩
  else
    match actionId with
    | some actionId => some <$> (ResultView.approval actionId).build
    | none =>
        if result.employeeSelection ≠ [] then
          match result.employeeSelectionContextId with
          | none => .error ⟨.runtimeError, "employee selection is missing its immutable context"⟩
          | some contextId =>
              let choices := result.employeeSelection.map fun o => (o.employeeId, o.label)
              some <$> (ResultView.employeeSelect choices contextId requesterUserId).build
        else
          match result.onboardingForm with
          | some form =>
              some <$> (ResultView.onboardingDraft form.draftId form.fieldNames
                requesterUserId).build
          | none => .ok none

/-! ## Messages -/

/-- What is sent: a text of the bot's own, the embed of a result with files and controls, or one
part of the result's messages. -/
inductive Message
  | notice (text : String)
  | embed (result : InteractionResult) (files : List ResponseAttachment)
      (view : Option ResultView)
  | part (result : InteractionResult) (index : Nat) (chunk : String)

/-- The parts of a result, numbered from one. -/
def InteractionResult.parts (result : InteractionResult) : List Message :=
  (result.messages.zipIdx 1).map fun (chunk, index) => .part result index chunk

/-- The text of a message. -/
def Message.content : Message → Option String
  | .notice text => some text
  | .embed .. => none
  | .part result index chunk =>
      some ("Parte " ++ toString index ++ "/" ++ toString result.messages.length ++ "\n" ++ chunk)

/-! ## Calls -/

/-- `reply` is to the message that was received, `channelSend` goes to its channel and `authorSend`
to its author in private. -/
inductive DiscordOp
  | authorize
  | checkRate
  | checkGlobalRate
  | isDone
  | defer (ephemeral : Bool)
  | operation
  | editOriginal (content : String)
  | followup (ephemeral : Bool) (message : Message)
  | sendMessage (ephemeral : Bool) (message : Message)
  | reply (message : Message)
  | channelSend (message : Message)
  | authorCanReceive
  | authorSend (message : Message)
  | publicHrLocked
  | replyAsPublicHr

/-- A rate limit: whether it lets the request through, and after how many seconds it would. -/
structure RateLimitDecision where
  allowed : Bool
  retryAfterSeconds : Nat

@[reducible] def DiscordOp.Returns : DiscordOp → Type
  | .checkRate | .checkGlobalRate => Except Exn RateLimitDecision
  | .isDone | .authorCanReceive | .publicHrLocked => Bool
  | .operation => Except Exn InteractionResult
  | .authorize | .defer _ | .editOriginal _ | .followup .. | .sendMessage .. | .reply _
  | .channelSend _ | .authorSend _ | .replyAsPublicHr => Except Exn Unit

abbrev discordEffect : Effect := ⟨DiscordOp, DiscordOp.Returns⟩

abbrev DiscordProg (α : Type) := Prog discordEffect Exn α

/-- A call that may fail. -/
def attempted {α : Type} (o : DiscordOp) (h : o.Returns = Except Exn α) : DiscordProg α :=
  .call o fun answer => Prog.ofExcept (cast h answer)

def authorize : DiscordProg Unit := attempted .authorize rfl
def checkRate : DiscordProg RateLimitDecision := attempted .checkRate rfl
def checkGlobalRate : DiscordProg RateLimitDecision := attempted .checkGlobalRate rfl
def operation : DiscordProg InteractionResult := attempted .operation rfl
def defer (ephemeral : Bool) : DiscordProg Unit := attempted (.defer ephemeral) rfl
def editOriginal (content : String) : DiscordProg Unit := attempted (.editOriginal content) rfl
def followup (ephemeral : Bool) (message : Message) : DiscordProg Unit :=
  attempted (.followup ephemeral message) rfl
def sendMessage (ephemeral : Bool) (message : Message) : DiscordProg Unit :=
  attempted (.sendMessage ephemeral message) rfl
def reply (message : Message) : DiscordProg Unit := attempted (.reply message) rfl
def channelSend (message : Message) : DiscordProg Unit := attempted (.channelSend message) rfl
def authorSend (message : Message) : DiscordProg Unit := attempted (.authorSend message) rfl
def replyAsPublicHr : DiscordProg Unit := attempted .replyAsPublicHr rfl

/-! ## Configuration and entry points -/

inductive InteractionMode
  | slash | mention | channel
  deriving DecidableEq, Repr

inductive SensitiveDeliveryMode
  | ephemeralOnly | dmOrEphemeral
  deriving DecidableEq, Repr

structure BotSettings where
  interactionMode : InteractionMode
  publishSensitiveChannelResponses : Bool
  sensitiveDeliveryMode : SensitiveDeliveryMode
  /-- What is told of a denied request: its decision and correlation ID come with the exception. -/
  denialNotice : Exn → String

/-- The message a control was below: whether there was one, and whether it was ephemeral. -/
abbrev SourceMessage := Option Bool

/-- How a request comes in. A message of the guild is one of the channel or a mention, as the mode
is. -/
inductive EntryPoint
  | slashCommand
  | approvalButton (source : SourceMessage)
  | employeeMenu (source : SourceMessage)
  | onboardingForm (source : SourceMessage)
  | guildMessage
  | privateMessage
  deriving DecidableEq

section Programs

variable (c : BotSettings) (requesterUserId : Int)

/-! ## Commands and controls -/

/-- An exception of a class that is named where it is raised. -/
def isForeign (e : Exn) (names : List String) : Bool :=
  names.any fun name => e.cls == .foreign name

/-- The texts of the `except` clauses of `_send`, in their order. -/
def commandFailureNotice (e : Exn) : String :=
  if isForeign e ["DiscordAccessDenied"] then
    "Richiesta non autorizzata per questo server, canale o ruolo."
  else if isForeign e ["HrRequestInputError", "UnsafePromptError"] then
    "Per proteggere i dati HR, usa un solo Employee ID esplicito per le richieste individuali e " ++
      "non includere istruzioni tecniche o di bypass."
  else if isForeign e ["IntentProviderError"] then
    "Il servizio AI non ha completato l'interpretazione della richiesta. Nessuna operazione DIC " ++
      "è stata eseguita; riprova più tardi."
  else if isForeign e ["DicAuthOutcomeUnknownError"] then
    "L'esito del login DIC è incerto. Per sicurezza le credenziali non saranno reinviate " ++
      "automaticamente: verifica `/bh status` e la sessione web prima di un nuovo tentativo."
  else if e.isA .dicCaptchaRequiredError || e.isA .dicMfaRequiredError ||
      e.isA .dicPasswordExpiredError then
    "Il provider richiede un passaggio interattivo (MFA, CAPTCHA o rinnovo password). Completa " ++
      "la verifica amministrativa via web e poi riprova una sola volta."
  else if e.isA .dicAuthenticationError then
    "Il login DIC non è stato completato. Verifica le credenziali configurate e gli eventuali " ++
      "controlli interattivi, senza incollarli su Discord."
  else if e.isA .dicUiChangedError then
    "La sessione DIC è attiva, ma la pagina richiesta non corrisponde più al contratto UI " ++
      "verificato. Nessun dato è stato modificato; segnala la richiesta all'amministratore del bot."
  else if e.isA .dicError || e.isA .timeoutError then
    "Dipendenti in Cloud non è disponibile o la sessione verificata è scaduta. Il bot resta " ++
      "online, ma questa lettura HR non è stata completata."
  else if e.isA .applicationPolicyDenied then c.denialNotice e
  else "Operazione non completata. Usa il correlation ID nei log amministrativi."

/-- Answer the requester alone. -/
def respondPrivately (text : String) : DiscordProg Unit :=
  .call .isDone fun done =>
    if done = true then followup true (.notice text) else sendMessage true (.notice text)

/-- `max(1, int(seconds) + 1)`, in the text of the limit. -/
def rateNotice (decision : RateLimitDecision) : String :=
  "Troppe richieste. Riprova tra " ++ toString (max 1 (decision.retryAfterSeconds + 1)) ++
    " secondi."

/-- Deliver a result as follow-ups, once the interaction was deferred. -/
def deliverFollowups (publishSensitive deferredEphemeral : Bool) (result : InteractionResult) :
    DiscordProg Unit := do
  let deliveryEphemeral := result.ephemeral && !publishSensitive
  let view ← Prog.ofExcept (resultView result requesterUserId)
  if !result.ephemeral && deferredEphemeral then
    -- the deferred response stays private, so it is completed first
    editOriginal "Risultato aggregato pubblicato nel canale autorizzato."
  followup deliveryEphemeral (.embed result result.attachments view)
  forEach (followup deliveryEphemeral) result.parts

/-- The body of the `try` of `_send`. -/
def sendBody (publishSensitive : Bool) : DiscordProg Unit := do
  authorize
  let rateLimit ← checkRate
  if rateLimit.allowed = false then respondPrivately (rateNotice rateLimit)
  else
    let done ← ask (E := discordEffect) .isDone
    if done = true then
      let result ← operation
      deliverFollowups requesterUserId publishSensitive false result
    else
      defer (!publishSensitive)
      let result ← operation
      deliverFollowups requesterUserId publishSensitive (!publishSensitive) result

/-- `_send`. -/
def send (publishSensitive : Bool) : DiscordProg Unit := do
  match ← (sendBody requesterUserId publishSensitive).attempt with
  | .ok () => return
  | .error e =>
      if e.isA .exception then respondPrivately (commandFailureNotice c e) else .throw e

/-- `_component_may_publish`. -/
def componentMayPublish (source : SourceMessage) : Bool :=
  if c.publishSensitiveChannelResponses then
    match source with
    | none => false
    | some ephemeral => !ephemeral
  else false

/-! ## Messages -/

/-- The texts of the `except` clauses of `_dispatch_message`, in their order. -/
def messageFailureNotice (e : Exn) : String :=
  if isForeign e ["DiscordAccessDenied"] then
    "Richiesta non autorizzata per questo server, canale o ruolo."
  else if e.isA .applicationPolicyDenied then c.denialNotice e
  else if isForeign e ["HrRequestInputError", "UnsafePromptError"] then
    "Richiesta rifiutata localmente: usa un solo ID o nome dipendente e non includere istruzioni " ++
      "tecniche o di bypass."
  else if isForeign e ["IntentProviderError"] then
    "Il servizio AI non ha completato il routing. Nessuna operazione DIC è stata eseguita; " ++
      "riprova più tardi."
  else if e.isA .dicUiChangedError then
    "La sessione DIC è attiva, ma la pagina richiesta è cambiata. Nessun dato è stato " ++
      "modificato; segnala la richiesta all'amministratore del bot."
  else if e.isA .dicError || isForeign e ["DicAuthOutcomeUnknownError"] ||
      e.isA .timeoutError then
    "Dipendenti in Cloud non è disponibile o la sessione verificata è scaduta. Nessuna " ++
      "operazione è stata completata."
  else
    "Operazione non completata. Riprova; per un caso individuale usa `/bh ask` solo se sei " ++
      "autorizzato, altrimenti contatta HR."

/-- `except (discord.Forbidden, discord.HTTPException)`. -/
def isHttpException (e : Exn) : Bool :=
  isForeign e ["HTTPException", "Forbidden", "NotFound", "DiscordServerError"]

def withheldNotice : String :=
  "La risposta contiene dati HR sensibili. Usa `/bh ask` oppure abilita esplicitamente la " ++
    "pubblicazione nel canale HR protetto."

/-- The delivery of a sensitive result to its author in private. -/
def sendInPrivate (result : InteractionResult) : DiscordProg Unit := do
  authorSend (.embed result result.attachments none)
  reply (.notice "Ti ho inviato il risultato HR sensibile in privato.")

/-- The first branch of `_reply_with_result`. -/
def replyWithheld (result : InteractionResult) : DiscordProg Unit := do
  let canReceive ← ask (E := discordEffect) .authorCanReceive
  if c.sensitiveDeliveryMode = .dmOrEphemeral ∧ canReceive = true then
    match ← (sendInPrivate result).attempt with
    | .ok () => return
    | .error e => if isHttpException e then reply (.notice withheldNotice) else .throw e
  else reply (.notice withheldNotice)

/-- The rest of it. -/
def replyInFull (result : InteractionResult) : DiscordProg Unit := do
  let view ← Prog.ofExcept (resultView result requesterUserId)
  reply (.embed result result.attachments view)
  forEach channelSend result.parts

/-- `_reply_with_result`. -/
def replyWithResult (privateTransport : Bool) (result : InteractionResult) : DiscordProg Unit :=
  if result.ephemeral && !privateTransport && !c.publishSensitiveChannelResponses then
    replyWithheld c result
  else replyInFull requesterUserId result

/-- What follows in the mode of the channel, or in private. -/
def replyConversationally (privateTransport : Bool) (result : InteractionResult) :
    DiscordProg Unit :=
  if result.publicHrFallback then
    .call .publicHrLocked fun locked =>
      if locked = true then
        reply (.notice "L'assistente HR sta gestendo altre richieste. Riprova tra pochi secondi.")
      else replyAsPublicHr
  else replyWithResult c requesterUserId privateTransport result

/-- What follows in the mode of mentions. -/
def replyToMention (result : InteractionResult) : DiscordProg Unit :=
  if result.ephemeral then
    reply (.notice ("Per questa risposta sensibile usa `/bh ask`; la modalità messaggio non è " ++
      "ephemeral."))
  else reply (.embed result [] none)

/-- The limiters of `_dispatch_message`. -/
def checkMessageRate (privateTransport : Bool) : DiscordProg RateLimitDecision := do
  let rateLimit ← checkRate
  if rateLimit.allowed && c.interactionMode == .channel && !privateTransport then checkGlobalRate
  else return rateLimit

/-- `_dispatch_message`, once the actor is known. -/
def dispatchAuthorized (privateTransport : Bool) : DiscordProg Unit := do
  let rateLimit ← checkMessageRate c privateTransport
  if rateLimit.allowed = false then
    reply (.notice "Troppe richieste. Riprova tra pochi secondi.")
  else
    let result ← operation
    if c.interactionMode == .channel || privateTransport then
      replyConversationally c requesterUserId privateTransport result
    else replyToMention result

/-- The body of the `try` of `_dispatch_message`; in private the actor is given. -/
def dispatchBody (privateTransport : Bool) : DiscordProg Unit :=
  if privateTransport = true then dispatchAuthorized c requesterUserId privateTransport
  else authorize.bind fun _ => dispatchAuthorized c requesterUserId privateTransport

/-- `_dispatch_message`. -/
def dispatchMessage (privateTransport : Bool) : DiscordProg Unit := do
  match ← (dispatchBody c requesterUserId privateTransport).attempt with
  | .ok () => return
  | .error e =>
      if e.isA .exception then
        match ← (reply (.notice (messageFailureNotice c e))).attempt with
        | .ok () => return
        | .error e' => if e'.isA .exception then return else .throw e'
      else .throw e

/-- `_dispatch_dm_message`; `authorize` stands for the lookup of the member too. -/
def dispatchPrivateMessage : DiscordProg Unit := do
  let verified : DiscordProg Unit := do
    authorize
    dispatchMessage c requesterUserId true
  match ← verified.attempt with
  | .ok () => return
  | .error e =>
      if isForeign e ["DiscordAccessDenied"] then
        reply (.notice "Messaggio privato non autorizzato.")
      else if e.isA .exception then
        reply (.notice
          "Non posso verificare in modo sicuro la tua appartenenza e i ruoli correnti.")
      else .throw e

/-! ## Every entry point -/

/-- Whether sensitive results may be published, as each callback passes it to `_send`. -/
def EntryPoint.publishSensitive : EntryPoint → Bool
  | .approvalButton source => componentMayPublish c source
  | .employeeMenu _ => c.publishSensitiveChannelResponses
  | _ => false

def EntryPoint.program : EntryPoint → DiscordProg Unit
  | .guildMessage =>
      if c.interactionMode = .slash then return else dispatchMessage c requesterUserId false
  | .privateMessage => dispatchPrivateMessage c requesterUserId
  | entry => send c requesterUserId (entry.publishSensitive c)

end Programs

end BhDic.Discord
