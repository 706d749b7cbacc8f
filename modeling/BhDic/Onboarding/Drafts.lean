import BhDic.Library.Json
import BhDic.Onboarding.Models
import BhDic.Python.Calendar
import BhDic.Python.Re

/-!
# The store of onboarding drafts

`OnboardingDraftStore` keeps the drafts of all actors by identifier, each for its actor and until it
expires, the most recently used last. `fill_missing` completes a draft a few fields at a time.
-/

namespace BhDic.Onboarding

open BhDic.Library BhDic.Python

def onboardingDraftError (message : String) : Exn := ⟨.foreign "OnboardingDraftError", message⟩

/-- `_DRAFT_ID`. -/
def isDraftId (text : String) : Bool :=
  text.toList.length == 32 && text.toList.all fun c => c.isDigit || ('a' ≤ c && c ≤ 'f')

section Values

variable (u : UnicodeData)

/-- `_EMAIL`. -/
def emailPattern : Regex := u.reAnyCase [r"^[A-Z0-9._%+-]+@[A-Z0-9.-]+\.[A-Z]{2,63}$"]

/-- `_PHONE`. -/
def phonePattern : Regex := u.re [r"^\+?[0-9][0-9 ()/.-]{5,24}$"]

/-- `_TAX_CODE`. -/
def taxCodePattern : Regex := u.reAnyCase [r"^[A-Z0-9]{11,32}$"]

/-- `str.isalpha` on one character. -/
def isAlpha (c : Char) : Bool := (u.category c).toList.head? = some 'L'

/-- What `_validate_value` asks of the value of one field. -/
def checkValue (today : Date) (name : String) (value : List Char) : Except Exn Unit :=
  if name = "first_name" ∨ name = "last_name" then
    ensure (value.length ≤ 128 ∧ value.all fun c => isAlpha u c || c ∈ [' ', '\'', '-'])
      (onboardingDraftError "nome onboarding non valido")
  else if name = "email" then
    ensure ((emailPattern u).fullmatch value).isSome
      (onboardingDraftError "email onboarding non valida")
  else if name = "phone" then
    ensure ((phonePattern u).fullmatch value).isSome
      (onboardingDraftError "telefono onboarding non valido")
  else if name = "tax_code" then
    ensure ((taxCodePattern u).fullmatch value).isSome
      (onboardingDraftError "codice fiscale onboarding non valido")
  else if name = "date_of_birth" then
    match Date.fromisoformat (String.ofList value) with
    | none => .error (onboardingDraftError "data onboarding non valida")
    | some parsed =>
        ensure (19000101 ≤ parsed.digits ∧ parsed ≤ today)
          (onboardingDraftError "data onboarding fuori intervallo")
  else .ok ()

/-- `_validate_value`: the value without its outer and repeated white space. -/
def validateValue (today : Date) (name : String) (rawValue : Json) : Except Exn String :=
  match rawValue with
  | .str raw => do
      ensure (isFieldName name = true) (onboardingDraftError "campo onboarding non valido")
      let value := collapseSpaces raw
      ensure (value ≠ [] ∧ value.length ≤ 320 ∧ value.all fun c => 32 ≤ c.toNat)
        (onboardingDraftError "valore onboarding non valido")
      checkValue u today name value
      return String.ofList value
  | _ => .error (onboardingDraftError "campo onboarding non valido")

end Values

/-! ## The store -/

structure OnboardingDraftKey where
  userId : Nat
  guildId : Nat
  channelId : Nat
  positive : 0 < userId ∧ 0 < guildId ∧ 0 < channelId

instance : DecidableEq OnboardingDraftKey := fun key key' =>
  decidable_of_iff
    (key.userId = key'.userId ∧ key.guildId = key'.guildId ∧ key.channelId = key'.channelId) <| by
      cases key
      cases key'
      simp

structure StoredOnboardingDraft (T : Type) where
  draftId : String
  key : OnboardingDraftKey
  draft : DocumentDraft
  expiresAt : T

/-- What a store is made with: `expiry now` is `now + self._ttl_seconds`. -/
structure DraftSettings (T : Type) where
  unicode : UnicodeData
  expiry : T → T
  maxDrafts : Nat
  inBounds : 1 ≤ maxDrafts ∧ maxDrafts ≤ 1000

/-- The items of a store, the most recently used last. -/
abbrev OnboardingDraftStore (T : Type) := Dict String (StoredOnboardingDraft T)

variable {T : Type} (c : DraftSettings T)

/-- The body of the loop of `fill_missing`. -/
def fillField (u : UnicodeData) (today : Date) (fields : Dict String FieldEvidence)
    (item : String × Json) : Except Exn (Dict String FieldEvidence) := do
  let value ← validateValue u today item.1 item.2
  let evidence ← FieldEvidence.create value 100 "discord_form"
  return fields.set item.1 evidence

/-- The draft that `fill_missing` makes of a stored one. -/
def StoredOnboardingDraft.fill (stored : StoredOnboardingDraft T) (today : Date)
    (values : Dict String Json) : Except Exn (StoredOnboardingDraft T) := do
  ensure (stored.draft.conflicts = [])
    (onboardingDraftError "risolvi i conflitti documentali con un nuovo caricamento")
  ensure (values.items ≠ [] ∧ values.items.length ≤ 5)
    (onboardingDraftError "compilazione onboarding non valida")
  let allowed := stored.draft.missingRequired.take 5
  ensure ((∀ item ∈ values.items, item.1 ∈ allowed) ∧ ∀ name ∈ allowed, values.contains name = true)
    (onboardingDraftError "i campi della bozza non corrispondono")
  let fields ← values.items.foldlM (fillField c.unicode today) stored.draft.fields
  let missing := stored.draft.missingRequired.filter fun name => !fields.contains name
  let draft ← DocumentDraft.create fields stored.draft.conflicts missing
  return { stored with draft }

variable [LinearOrder T]

namespace OnboardingDraftStore

variable (s : OnboardingDraftStore T) (now : T)

/-- `_purge`. -/
def purge : OnboardingDraftStore T := s.filterValues fun stored => now < stored.expiresAt

/-- `create`, with the identifier that `uuid4` gave. -/
def create (draftId : String) (key : OnboardingDraftKey) (draft : DocumentDraft) :
    OnboardingDraftStore T :=
  ((purge s now).set draftId ⟨draftId, key, draft, c.expiry now⟩).trim c.maxDrafts

/-- `get`. -/
def get (key : OnboardingDraftKey) (draftId : String) :
    Except Exn (StoredOnboardingDraft T) × OnboardingDraftStore T :=
  if isDraftId draftId then
    let s := purge s now
    match s.get? draftId with
    | none => (.error (onboardingDraftError "bozza onboarding non disponibile"), s)
    | some stored =>
        if stored.key ≠ key then
          (.error (onboardingDraftError "bozza onboarding non disponibile"), s)
        else (.ok stored, s.moveToEnd draftId)
  else (.error (onboardingDraftError "bozza onboarding non valida"), s)

/-- `fill_missing`. -/
def fillMissing (today : Date) (key : OnboardingDraftKey) (draftId : String)
    (values : Dict String Json) :
    Except Exn (StoredOnboardingDraft T) × OnboardingDraftStore T :=
  match get s now key draftId with
  | (.error e, s) => (.error e, s)
  | (.ok stored, s) =>
      match stored.fill c today values with
      | .error e => (.error e, s)
      | .ok updated => (.ok updated, (s.set draftId updated).moveToEnd draftId)

/-- `discard`. -/
def discard (key : OnboardingDraftKey) (draftId : String) : OnboardingDraftStore T :=
  match get s now key draftId with
  | (.error _, s) => s
  | (.ok stored, s) => s.erase stored.draftId

/-- `_expire_if_current`, which a timer calls. -/
def expireIfCurrent (draftId : String) (expiresAt : T) : OnboardingDraftStore T :=
  match s.get? draftId with
  | none => s
  | some stored => if stored.expiresAt = expiresAt ∧ expiresAt ≤ now then s.erase draftId else s

end OnboardingDraftStore

/-! ## Runs -/

/-- A call of a method of the store, or of a timer, at a reading of the clock. -/
inductive DraftCall (T : Type)
  | create (now : T) (draftId : String) (key : OnboardingDraftKey) (draft : DocumentDraft)
  | get (now : T) (key : OnboardingDraftKey) (draftId : String)
  | fillMissing (now : T) (today : Date) (key : OnboardingDraftKey) (draftId : String)
      (values : Dict String Json)
  | discard (now : T) (key : OnboardingDraftKey) (draftId : String)
  | purgeExpired (now : T)
  | expireScheduled (now : T) (draftId : String) (expiresAt : T)

namespace DraftCall

open OnboardingDraftStore

/-- The store after a call. -/
def apply (s : OnboardingDraftStore T) : DraftCall T → OnboardingDraftStore T
  | .create now draftId key draft => OnboardingDraftStore.create c s now draftId key draft
  | .get now key draftId => (OnboardingDraftStore.get s now key draftId).2
  | .fillMissing now today key draftId values =>
      (OnboardingDraftStore.fillMissing c s now today key draftId values).2
  | .discard now key draftId => OnboardingDraftStore.discard s now key draftId
  | .purgeExpired now => purge s now
  | .expireScheduled now draftId expiresAt => expireIfCurrent s now draftId expiresAt

/-- The store after some calls. -/
def run (calls : List (DraftCall T)) (s : OnboardingDraftStore T) : OnboardingDraftStore T :=
  calls.foldl (apply c) s

/-- A call that fills the draft, and returns. -/
def Fills (s : OnboardingDraftStore T) (draftId : String) : DraftCall T → Bool
  | .fillMissing now today key id values =>
      id = draftId && (OnboardingDraftStore.fillMissing c s now today key id values).1.toBool
  | _ => false

/-- How many calls fill the draft. -/
def fills (draftId : String) : List (DraftCall T) → OnboardingDraftStore T → Nat
  | [], _ => 0
  | call :: calls, s =>
      (if Fills c s draftId call then 1 else 0) + fills draftId calls (apply c s call)

end DraftCall

end BhDic.Onboarding
