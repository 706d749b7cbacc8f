import BhDic.Audit.Events
import BhDic.Library.HashChain
import BhDic.Security.Cipher

/-!
# The audit chain

Each event is hashed with the hash of the one before it. `verify_events` accepts the intact chains
that end in the stored state and no others, so what it accepts is determined by the state it is
accepted against: the bytes hashed tell every field of an event.

The keyed hash is a parameter, as the hexadecimal text of its digest.
-/

namespace BhDic.Audit

open BhDic.Library BhDic.Python
open BhDic.Security (intMaxStrDigits)

abbrev ByteString := List UInt8

/-! ## `chain.py` -/

def genesisHash : String := String.ofList (List.replicate 64 '0')

theorem genesisHash_isHash : IsHash genesisHash := by decide

/-- HMAC-SHA256: the digest of a message under a key, in hexadecimal digits. -/
structure HmacSha256 where
  hexdigest : (key message : ByteString) → String
  isHash : ∀ key message, IsHash (hexdigest key message)

/-- A key as it is configured. -/
inductive HmacKey
  | bytes (key : ByteString)
  | text (key : String)
  | secret (key : String)

/-- The bytes of a key. -/
def HmacKey.raw : HmacKey → ByteString
  | .bytes key => key
  | .text key | .secret key => encodeUtf8 key

/-- `normalize_hmac_key`. -/
def normalizeHmacKey (key : HmacKey) : Except Exn ByteString :=
  if key.raw.length < 32 then
    .error ⟨.valueError, "AUDIT_HMAC_KEY must contain at least 32 bytes"⟩
  else .ok key.raw

/-- `hmac.compare_digest`, which takes ASCII texts only. -/
def compareDigest (a b : String) : Except Exn Bool :=
  if a.toList.all isAscii ∧ b.toList.all isAscii then .ok (a == b)
  else .error ⟨.typeError, "comparing strings with non-ASCII characters is not supported"⟩

/-- An optional text in a document. -/
def optionalText : Option String → Json
  | none => .null
  | some s => .str s

section Events

variable {u : UnicodeData}

/-- `event.model_dump(mode="json")`. -/
def AuditEventMaterial.jsonFields (m : AuditEventMaterial u) : List (String × Json) :=
  [("event_id", .str m.eventId.str),
    ("timestamp_utc", .str (String.ofList m.timestampUtc.isoformat)),
    ("event_type", .str m.eventType),
    ("correlation_id", .str m.correlationId),
    ("actor_discord_id", optionalText m.actorDiscordId),
    ("guild_id", optionalText m.guildId),
    ("channel_id", optionalText m.channelId),
    ("function_id", optionalText m.functionId),
    ("target_pseudonym", optionalText m.targetPseudonym),
    ("outcome", .str m.outcome.value),
    ("payload", .obj m.payload),
    ("sequence", .int m.sequence),
    ("previous_hash", .str m.previousHash)]

def AuditEventMaterial.document (m : AuditEventMaterial u) : Json := .obj m.jsonFields

/-- `json.dumps` writes the event. -/
def AuditEventMaterial.Writable (m : AuditEventMaterial u) : Prop :=
  m.document.isWritable intMaxStrDigits = true

instance (m : AuditEventMaterial u) : Decidable m.Writable := inferInstanceAs (Decidable (_ = true))

/-- The bytes of an event that can be written. -/
def AuditEventMaterial.bytes (m : AuditEventMaterial u) : ByteString :=
  encodeUtf8 (String.ofList (dumps false m.document))

/-- `canonical_event_bytes`. -/
def canonicalEventBytes (m : AuditEventMaterial u) : Except Exn ByteString := do
  ensure m.Writable ⟨.valueError, "Out of range float values are not JSON compliant"⟩
  return m.bytes

variable (hmac : HmacSha256)

/-- `compute_event_hash`. -/
def computeEventHash (key : HmacKey) (m : AuditEventMaterial u) : Except Exn String := do
  let key ← normalizeHmacKey key
  let bytes ← canonicalEventBytes m
  return hmac.hexdigest key bytes

/-- `verify_event_hash`. -/
def verifyEventHash (key : HmacKey) (m : AuditEventMaterial u) (claimedHash : String) :
    Except Exn Bool := do
  if ¬IsHash claimedHash then return false
  compareDigest (← computeEventHash hmac key m) claimedHash

/-- `AuditVerificationResult`. Every result below meets its constraints. -/
structure AuditVerificationResult where
  valid : Bool
  eventCount : Nat
  lastSequence : Nat
  lastHash : String
  failureSequence : Option Nat := none
  reason : Option String := none

/-- The result of a check that fails. -/
def failedAt (eventCount expectedSequence : Nat) (expectedPrevious : String)
    (failureSequence : Option Nat) (reason : String) : AuditVerificationResult where
  valid := false
  eventCount := eventCount
  lastSequence := expectedSequence - 1
  lastHash := expectedPrevious
  failureSequence := failureSequence
  reason := some reason

/-- The loop of `verify_events` and what follows it. -/
def verifyFrom (key : ByteString) (stateSequence : Option Int) (stateHash : Option String)
    (eventCount : Nat) (expectedSequence : Nat) (expectedPrevious : String) :
    List (AuditEventView u) → Except Exn AuditVerificationResult
  | [] => do
      let failed := failedAt eventCount expectedSequence expectedPrevious none
      if stateSequence.any (· ≠ ((expectedSequence - 1 : Nat) : Int)) then
        return failed "audit chain-state sequence mismatch"
      let sameHash ← match stateHash with
        | some stateHash => compareDigest stateHash expectedPrevious
        | none => pure true
      if ¬sameHash then return failed "audit chain-state hash mismatch"
      return { valid := true, eventCount, lastSequence := expectedSequence - 1
               lastHash := expectedPrevious }
  | event :: events => do
      let failed (n : Nat) := failedAt eventCount expectedSequence expectedPrevious (some n)
      if event.sequence ≠ expectedSequence then
        return failed expectedSequence "non-contiguous audit sequence"
      if ¬(← compareDigest event.previousHash expectedPrevious) then
        return failed event.sequence "previous hash mismatch"
      let material ← AuditEventMaterial.create u "AuditEventMaterial" event.dump event.sequence
        event.previousHash
      if ¬(← verifyEventHash hmac (.bytes key) material event.eventHash) then
        return failed event.sequence "event HMAC mismatch"
      verifyFrom key stateSequence stateHash eventCount (expectedSequence + 1) event.eventHash events

/-- `verify_events`. -/
def verifyEvents (key : HmacKey) (stateSequence : Option Int) (stateHash : Option String)
    (events : List (AuditEventView u)) : Except Exn AuditVerificationResult := do
  let key ← normalizeHmacKey key
  verifyFrom hmac key stateSequence stateHash events.length 1 genesisHash events

/-! ## What is accepted -/

/-- The events as a chain under a key. -/
def eventChain (key : ByteString) : ChainOf (AuditEventView u) String where
  sequence e := e.sequence
  previous e := e.previousHash
  hash e := e.eventHash
  digest e := hmac.hexdigest key e.bytes

theorem isAscii_of_isVisible {c : Char} (h : isVisible c = true) : isAscii c = true := by
  simp only [isVisible, Bool.and_eq_true, decide_eq_true_eq] at h
  simp only [isAscii, decide_eq_true_eq]
  omega

theorem IsHash.ascii {text : String} (h : IsHash text) : text.toList.all isAscii = true := by
  rw [List.all_eq_true]
  intro c hc
  exact isAscii_of_isVisible (isVisible_of_isHashChar (List.all_eq_true.mp h.2 c hc))

theorem compareDigest_hash {a b : String} (ha : IsHash a) (hb : IsHash b) :
    compareDigest a b = .ok (a == b) := if_pos ⟨ha.ascii, hb.ascii⟩

theorem normalizeHmacKey_eq_ok {key : HmacKey} {normalized : ByteString} :
    normalizeHmacKey key = .ok normalized ↔ 32 ≤ key.raw.length ∧ key.raw = normalized := by
  unfold normalizeHmacKey
  split
  · next hlength =>
    constructor
    · nofun
    · intro h
      omega
  · next hlength => simp [Nat.not_lt.mp hlength]

theorem normalizeHmacKey_bytes {key : ByteString} (h : 32 ≤ key.length) :
    normalizeHmacKey (.bytes key) = .ok key := normalizeHmacKey_eq_ok.mpr ⟨h, rfl⟩

theorem canonicalEventBytes_eq_ok {m : AuditEventMaterial u} {bytes : ByteString} :
    canonicalEventBytes m = .ok bytes ↔ m.Writable ∧ m.bytes = bytes := by
  rw [canonicalEventBytes, bind_eq_ok]
  constructor
  · intro ⟨_, hwritable, h⟩
    exact ⟨ensure_eq_ok.mp hwritable, Except.ok.inj h⟩
  · intro ⟨hwritable, h⟩
    exact ⟨(), ensure_eq_ok.mpr hwritable, congrArg Except.ok h⟩

theorem computeEventHash_eq_ok {key : ByteString} (hkey : 32 ≤ key.length) {m : AuditEventMaterial u}
    {hash : String} : computeEventHash hmac (.bytes key) m = .ok hash ↔
      m.Writable ∧ hmac.hexdigest key m.bytes = hash := by
  rw [computeEventHash, normalizeHmacKey_bytes hkey]
  show (canonicalEventBytes m >>= _) = _ ↔ _
  rw [bind_eq_ok]
  constructor
  · intro ⟨bytes, hbytes, h⟩
    obtain ⟨hwritable, hbytes⟩ := canonicalEventBytes_eq_ok.mp hbytes
    exact ⟨hwritable, hbytes ▸ Except.ok.inj h⟩
  · intro ⟨hwritable, h⟩
    exact ⟨m.bytes, canonicalEventBytes_eq_ok.mpr ⟨hwritable, rfl⟩, congrArg Except.ok h⟩

/-- A chain of events ends in a hash. -/
theorem head_isHash {key : ByteString} {previous : String} (hprevious : IsHash previous)
    (es : List (AuditEventView u)) : IsHash ((eventChain hmac key).head previous es) := by
  induction es generalizing previous with
  | nil => exact hprevious
  | cons e es ih => exact ih e.eventHash_ok

section Accept

variable {hmac} {key : ByteString} {stateSequence : Option Int} {stateHash : Option String}
  {eventCount seq : Nat} {previous : String} {e : AuditEventView u} {es : List (AuditEventView u)}

/-- `verify_event_hash` of an event that is asked about its own hash. -/
theorem verifyEventHash_self (hkey : 32 ≤ key.length) :
    verifyEventHash hmac (.bytes key) e.toAuditEventMaterial e.eventHash =
      if e.Writable then .ok (hmac.hexdigest key e.bytes == e.eventHash)
      else .error ⟨.valueError, "Out of range float values are not JSON compliant"⟩ := by
  rw [verifyEventHash, computeEventHash, normalizeHmacKey_bytes hkey, canonicalEventBytes]
  by_cases hwritable : e.Writable
  · rw [if_pos hwritable]
    simp only [ensure, hwritable, e.eventHash_ok, not_true_eq_false, if_true, if_false]
    exact compareDigest_hash (hmac.isHash _ _) e.eventHash_ok
  · rw [if_neg hwritable]
    simp only [ensure, hwritable, e.eventHash_ok, not_true_eq_false, if_false]
    rfl

/-- One round of the loop: the texts compared are hashes, and the event passes its validation once
more unchanged. -/
theorem verifyFrom_cons (hkey : 32 ≤ key.length) (hprevious : IsHash previous) :
    verifyFrom hmac key stateSequence stateHash eventCount seq previous (e :: es) =
      if e.sequence ≠ seq then
        .ok (failedAt eventCount seq previous (some seq) "non-contiguous audit sequence")
      else if e.previousHash ≠ previous then
        .ok (failedAt eventCount seq previous (some e.sequence) "previous hash mismatch")
      else if ¬e.Writable then
        .error ⟨.valueError, "Out of range float values are not JSON compliant"⟩
      else if e.eventHash ≠ hmac.hexdigest key e.bytes then
        .ok (failedAt eventCount seq previous (some e.sequence) "event HMAC mismatch")
      else verifyFrom hmac key stateSequence stateHash eventCount (seq + 1) e.eventHash es := by
  rw [verifyFrom, compareDigest_hash e.previousHash_ok hprevious, AuditEventMaterial.create_dump]
  show (if e.sequence ≠ seq then _ else
    if ¬(e.previousHash == previous) = true then _ else
      verifyEventHash hmac (.bytes key) e.toAuditEventMaterial e.eventHash >>= _) = _
  rw [verifyEventHash_self hkey]
  by_cases hsequence : e.sequence = seq
  · by_cases hsame : e.previousHash = previous
    · by_cases hwritable : e.Writable
      · by_cases hhash : e.eventHash = hmac.hexdigest key e.bytes
        · simp only [hsequence, hsame, hwritable, ← hhash, beq_self_eq_true, ne_eq,
            not_true_eq_false, if_false, if_true]
          rfl
        · have hne : (hmac.hexdigest key e.bytes == e.eventHash) = false :=
            beq_eq_false_iff_ne.mpr (Ne.symm hhash)
          simp only [hsequence, hsame, hwritable, hhash, hne, beq_self_eq_true, ne_eq,
            not_true_eq_false, not_false_eq_true, if_false, if_true]
          rfl
      · simp only [hsequence, hsame, hwritable, beq_self_eq_true, ne_eq, not_true_eq_false,
          not_false_eq_true, if_false, if_true]
        rfl
    · simp only [hsequence, hsame, beq_eq_false_iff_ne.mpr hsame, Bool.false_eq_true, ne_eq,
        not_true_eq_false, not_false_eq_true, if_false, if_true]
      rfl
  · simp only [hsequence, ne_eq, not_false_eq_true, if_true]
    rfl

/-- The stored state, where it is given, is that of the chain. -/
def StateMatches (stateSequence : Option Int) (stateHash : Option String) (last : Nat)
    (head : String) : Prop :=
  (∀ n ∈ stateSequence, n = last) ∧ ∀ s ∈ stateHash, s = head

/-- Events that are numbered and linked, that carry their digests and can be written. -/
structure Intact (hmac : HmacSha256) (key : ByteString) (seq : Nat) (previous : String)
    (es : List (AuditEventView u)) : Prop where
  linked : (eventChain hmac key).Linked seq previous es
  writable : ∀ e ∈ es, e.Writable

theorem intact_cons : Intact hmac key seq previous (e :: es) ↔
    (e.sequence = seq ∧ e.previousHash = previous) ∧ e.Writable ∧
      e.eventHash = hmac.hexdigest key e.bytes ∧ Intact hmac key (seq + 1) e.eventHash es := by
  constructor
  · intro ⟨⟨hsequence, hprevious, hhash, hlinked⟩, hwritable⟩
    rw [List.forall_mem_cons] at hwritable
    exact ⟨⟨hsequence, hprevious⟩, hwritable.1, hhash, hlinked, hwritable.2⟩
  · intro ⟨⟨hsequence, hprevious⟩, hwritable, hhash, hlinked, hrest⟩
    exact ⟨⟨hsequence, hprevious, hhash, hlinked⟩, List.forall_mem_cons.mpr ⟨hwritable, hrest⟩⟩

theorem verifyFrom_nil (hprevious : IsHash previous)
    (h : StateMatches stateSequence stateHash (seq - 1) previous) :
    verifyFrom hmac key stateSequence stateHash eventCount seq previous
      ([] : List (AuditEventView u)) = .ok ⟨true, eventCount, seq - 1, previous, none, none⟩ := by
  have hsequence : ¬stateSequence.any (· ≠ ((seq - 1 : Nat) : Int)) := by
    cases stateSequence with
    | none => simp
    | some n => simpa using h.1 n rfl
  rw [verifyFrom]
  show (if _ then _ else _) = _
  rw [if_neg hsequence]
  cases stateHash with
  | none => rfl
  | some s =>
      obtain rfl := h.2 s rfl
      show compareDigest s s >>= _ = _
      rw [compareDigest_hash hprevious hprevious, beq_self_eq_true]
      rfl

theorem stateMatches_of_verifyFrom_nil {r : AuditVerificationResult}
    (h : verifyFrom hmac key stateSequence stateHash eventCount seq previous
      ([] : List (AuditEventView u)) = .ok r) (hvalid : r.valid = true) :
    StateMatches stateSequence stateHash (seq - 1) previous := by
  rw [verifyFrom] at h
  change (if _ then _ else _) = _ at h
  split at h
  · cases h
    cases hvalid
  · next hsequence =>
    refine ⟨?_, ?_⟩
    · intro n hn
      cases hn
      simpa using hsequence
    · intro s hs
      cases hs
      change compareDigest s previous >>= _ = _ at h
      rw [bind_eq_ok] at h
      obtain ⟨same, hsame, h⟩ := h
      cases same with
      | false =>
          cases h
          cases hvalid
      | true =>
          unfold compareDigest at hsame
          split at hsame
          · exact eq_of_beq (Except.ok.inj hsame)
          · cases hsame

variable (eventCount) in
/-- **An intact chain that ends in the stored state is accepted.** -/
theorem Intact.verifyFrom (hkey : 32 ≤ key.length) (hpos : 1 ≤ seq) (hprevious : IsHash previous)
    (h : Intact hmac key seq previous es)
    (hstate : StateMatches stateSequence stateHash (seq - 1 + es.length)
      ((eventChain hmac key).head previous es)) :
    Audit.verifyFrom hmac key stateSequence stateHash eventCount seq previous es =
      .ok ⟨true, eventCount, seq - 1 + es.length, (eventChain hmac key).head previous es, none,
        none⟩ := by
  induction es generalizing seq previous with
  | nil => exact verifyFrom_nil hprevious hstate
  | cons e es ih =>
      obtain ⟨⟨hsequence, hsame⟩, hwritable, hhash, hrest⟩ := intact_cons.mp h
      have hlength : seq - 1 + (e :: es).length = seq + 1 - 1 + es.length := by
        rw [List.length_cons]
        omega
      rw [hlength] at hstate ⊢
      rw [verifyFrom_cons hkey hprevious, if_neg (not_not_intro hsequence),
        if_neg (not_not_intro hsame), if_neg (not_not_intro hwritable),
        if_neg (not_not_intro hhash)]
      exact ih (by omega) e.eventHash_ok hrest hstate

/-- **Nothing else is.** -/
theorem intact_of_verifyFrom (hkey : 32 ≤ key.length) (hpos : 1 ≤ seq)
    (hprevious : IsHash previous) {r : AuditVerificationResult}
    (h : verifyFrom hmac key stateSequence stateHash eventCount seq previous es = .ok r)
    (hvalid : r.valid = true) :
    Intact hmac key seq previous es ∧ StateMatches stateSequence stateHash (seq - 1 + es.length)
      ((eventChain hmac key).head previous es) := by
  induction es generalizing seq previous with
  | nil => exact ⟨⟨trivial, by simp⟩, stateMatches_of_verifyFrom_nil h hvalid⟩
  | cons e es ih =>
      have hlength : seq - 1 + (e :: es).length = seq + 1 - 1 + es.length := by
        rw [List.length_cons]
        omega
      rw [verifyFrom_cons hkey hprevious] at h
      split_ifs at h with hsequence hsame hwritable hhash
      · cases h
        cases hvalid
      · cases h
        cases hvalid
      · cases h
        cases hvalid
      · obtain ⟨hrest, hstate⟩ := ih (by omega) e.eventHash_ok h
        rw [hlength]
        exact ⟨intact_cons.mpr ⟨⟨not_not.mp hsequence, not_not.mp hsame⟩, hwritable,
          not_not.mp hhash, hrest⟩, hstate⟩

end Accept

/-! ## What the bytes tell -/

theorem optionalText_injective {a b : Option String}
    (h : (optionalText a).Same (optionalText b)) : a = b := by
  cases a with
  | none =>
      cases b with
      | none => rfl
      | some b => cases h
  | some a =>
      cases b with
      | none => cases h
      | some b => exact congrArg some (same_str.mp h)

theorem AuditOutcome.value_injective {a b : AuditOutcome} (h : a.value = b.value) : a = b := by
  have ha := ofValue?_value a
  rw [h, ofValue?_value] at ha
  exact (Option.some.inj ha).symm

theorem str_injective {x y : Uuid} (h : x.str = y.str) : x = y := by
  have hx := Uuid.parse_str asciiTables x
  rw [h, Uuid.parse_str] at hx
  exact (Option.some.inj hx).symm

/-- Two events are equal, field by field. Dictionaries that differ in the order of their names only
are equal. -/
structure AuditEventMaterial.Same (m m' : AuditEventMaterial u) : Prop where
  eventId : m.eventId = m'.eventId
  timestampUtc : m.timestampUtc = m'.timestampUtc
  eventType : m.eventType = m'.eventType
  correlationId : m.correlationId = m'.correlationId
  actorDiscordId : m.actorDiscordId = m'.actorDiscordId
  guildId : m.guildId = m'.guildId
  channelId : m.channelId = m'.channelId
  functionId : m.functionId = m'.functionId
  targetPseudonym : m.targetPseudonym = m'.targetPseudonym
  outcome : m.outcome = m'.outcome
  payload : (Json.obj m.payload).Same (.obj m'.payload)
  sequence : m.sequence = m'.sequence
  previousHash : m.previousHash = m'.previousHash

structure AuditEventView.Same (e e' : AuditEventView u) : Prop extends
    e.toAuditEventMaterial.Same e'.toAuditEventMaterial where
  eventHash : e.eventHash = e'.eventHash

/-- What two events with the same bytes hold under a name. -/
theorem same_field {m m' : AuditEventMaterial u} (h : m.bytes = m'.bytes) {v w : Json}
    (key : String) (hv : Dict.find key m.jsonFields = some v)
    (hw : Dict.find key m'.jsonFields = some w) : v.Same w := by
  have htext := String.ofList_injective (encodeUtf8_injective h)
  have hsame : m.document.Same m'.document := dumps_injective.mp htext
  have hnames : m.jsonFields.map (·.1) = ["event_id", "timestamp_utc", "event_type",
      "correlation_id", "actor_discord_id", "guild_id", "channel_id", "function_id",
      "target_pseudonym", "outcome", "payload", "sequence", "previous_hash"] := rfl
  have hrel := hsame.find (by rw [hnames]; decide) key
  rw [hv, hw] at hrel
  cases hrel with
  | some hfield => exact hfield

/-- **No two events have the same bytes.** -/
theorem same_of_bytes {m m' : AuditEventMaterial u} (h : m.bytes = m'.bytes) : m.Same m' where
  eventId := str_injective (same_str.mp (same_field h "event_id" rfl rfl))
  timestampUtc := by
    have htext := same_str.mp (same_field h "timestamp_utc" rfl rfl)
    exact CivilTime.isoformat_injective (String.ofList_injective htext)
  eventType := same_str.mp (same_field h "event_type" rfl rfl)
  correlationId := same_str.mp (same_field h "correlation_id" rfl rfl)
  actorDiscordId := optionalText_injective (same_field h "actor_discord_id" rfl rfl)
  guildId := optionalText_injective (same_field h "guild_id" rfl rfl)
  channelId := optionalText_injective (same_field h "channel_id" rfl rfl)
  functionId := optionalText_injective (same_field h "function_id" rfl rfl)
  targetPseudonym := optionalText_injective (same_field h "target_pseudonym" rfl rfl)
  outcome := AuditOutcome.value_injective (same_str.mp (same_field h "outcome" rfl rfl))
  payload := same_field h "payload" rfl rfl
  sequence := by
    have hsame : (Json.int m.sequence).Same (.int m'.sequence) := same_field h "sequence" rfl rfl
    exact Int.ofNat.inj (Json.int.inj hsame)
  previousHash := same_str.mp (same_field h "previous_hash" rfl rfl)

/-- **Tamper evidence.** Sequences of events that are accepted against the same stored state are
equal event by event, as long as the keyed hash tells the bytes of their events apart: what ends in
one hash has the same last event, and with it the same hash before. -/
theorem verifyEvents_agree (hmac : HmacSha256) (key : HmacKey) (stateSequence : Int)
    (stateHash : String) (es es' : List (AuditEventView u)) (r r' : AuditVerificationResult)
    (hinj : Set.InjOn (hmac.hexdigest key.raw) {b | ∃ e ∈ es ++ es', b = e.bytes})
    (h : verifyEvents hmac key (some stateSequence) (some stateHash) es = .ok r)
    (hvalid : r.valid = true)
    (h' : verifyEvents hmac key (some stateSequence) (some stateHash) es' = .ok r')
    (hvalid' : r'.valid = true) : List.Forall₂ AuditEventView.Same es es' := by
  simp only [verifyEvents, bind_eq_ok] at h h'
  obtain ⟨_, hkey, h⟩ := h
  obtain ⟨_, hkey', h'⟩ := h'
  obtain ⟨hlength, rfl⟩ := normalizeHmacKey_eq_ok.mp hkey
  obtain ⟨-, rfl⟩ := normalizeHmacKey_eq_ok.mp hkey'
  obtain ⟨hintact, hstate⟩ := intact_of_verifyFrom hlength le_rfl genesisHash_isHash h hvalid
  obtain ⟨hintact', hstate'⟩ := intact_of_verifyFrom hlength le_rfl genesisHash_isHash h' hvalid'
  have hcount : es.length = es'.length := by
    have hes := hstate.1 stateSequence rfl
    have hes' := hstate'.1 stateSequence rfl
    omega
  have hhead := (hstate.2 stateHash rfl).symm.trans (hstate'.2 stateHash rfl)
  refine hintact.linked.commits hintact'.linked hcount hhead ?_
  intro e he e' he' hdigest
  have hbytes : e.bytes = e'.bytes :=
    hinj ⟨e, List.mem_append_left _ he, rfl⟩ ⟨e', List.mem_append_right _ he', rfl⟩ hdigest
  have hsame := same_of_bytes hbytes
  have hhash : e.eventHash = e'.eventHash :=
    ((hintact.linked.hash_eq he).trans hdigest).trans (hintact'.linked.hash_eq he').symm
  exact ⟨⟨hsame, hhash⟩, hsame.previousHash⟩

end Events

/-- The event of a read that found one employee on page two. -/
def readEvent (payload : List (String × Json)) (h : IsAuditPayload asciiTables payload) :
    AuditEventView asciiTables where
  eventId := ⟨0x11, by decide⟩
  timestampUtc := ⟨⟨2026, 8, 14, by decide⟩, 12, 0, 0, 0⟩
  eventType := "employee.read.completed"
  correlationId := "corr-audit-001"
  functionId := some "EMP-READ-001"
  outcome := .success
  payload := payload
  texts_ok := by
    refine ⟨?_, ?_, ⟨rfl, rfl, rfl⟩, ?_, rfl⟩
    · show eventTypeField.Accepts "employee.read.completed"
      decide
    · show correlationIdField.Accepts "corr-audit-001"
      decide
    · show (some "EMP-READ-001").all (functionIdField.Accepts ·) = true
      decide
  payload_ok := h
  sequence := 1
  previousHash := genesisHash
  sequence_pos := le_rfl
  previousHash_ok := genesisHash_isHash
  eventHash := "d6f12f831bc86e6947553fdee8355cc5f12719bb892cec74c6646ac2608d2630"
  eventHash_ok := by decide

theorem countThenPage_payload :
    IsAuditPayload asciiTables [("result_count", .int 1), ("page", .int 2)] where
  stripped := rfl
  harmless := by decide +kernel

theorem pageThenCount_payload :
    IsAuditPayload asciiTables [("page", .int 2), ("result_count", .int 1)] where
  stripped := rfl
  harmless := by
    have hnames : ["result_count", "page"].all
        (fun name => !found (forbiddenAuditKey asciiTables) name.toList) = true :=
      countThenPage_payload.harmless
    show ["page", "result_count"].all
        (fun name => !found (forbiddenAuditKey asciiTables) name.toList) = true
    simp only [List.all_cons, List.all_nil, Bool.and_true] at hnames ⊢
    rw [Bool.and_comm]
    exact hnames

def countThenPage : AuditEventView asciiTables := readEvent _ countThenPage_payload

def pageThenCount : AuditEventView asciiTables := readEvent _ pageThenCount_payload

/-- HMAC-SHA256 on the one message it is given. -/
def readHmac : HmacSha256 where
  hexdigest _ _ := countThenPage.eventHash
  isHash _ _ := countThenPage.eventHash_ok

theorem verifyEvents_read {e : AuditEventView asciiTables} (hsequence : e.sequence = 1)
    (hprevious : e.previousHash = genesisHash) (hhash : e.eventHash = countThenPage.eventHash)
    (hwritable : e.Writable) :
    verifyEvents readHmac (.bytes (List.replicate 32 65)) (some 1) (some countThenPage.eventHash)
      [e] = .ok ⟨true, 1, 1, countThenPage.eventHash, none, none⟩ := by
  have hkey : 32 ≤ (List.replicate 32 (65 : UInt8)).length := by decide
  have hempty : Intact readHmac (List.replicate 32 65) 2 e.eventHash
      ([] : List (AuditEventView asciiTables)) := ⟨trivial, by simp⟩
  have hintact : Intact readHmac (List.replicate 32 65) 1 genesisHash [e] :=
    intact_cons.mpr ⟨⟨hsequence, hprevious⟩, hwritable, hhash, hempty⟩
  have hstate : StateMatches (some 1) (some countThenPage.eventHash) (1 - 1 + [e].length)
      e.eventHash := by
    refine ⟨?_, ?_⟩
    · intro n hn
      cases hn
      rfl
    · intro s hs
      cases hs
      exact hhash.symm
  have hverify := hintact.verifyFrom 1 hkey le_rfl genesisHash_isHash hstate
  rw [verifyEvents, normalizeHmacKey_bytes hkey]
  refine hverify.trans ?_
  show Except.ok (AuditVerificationResult.mk true 1 1 e.eventHash none none) = _
  rw [hhash]

/-- The order in which a payload is written is not kept, nor is it promised to be. -/
theorem verifyEvents_agree_reordered :
    List.Forall₂ AuditEventView.Same [countThenPage] [pageThenCount] := by
  have hsame : countThenPage.document.Same pageThenCount.document := rfl
  have hbytes : countThenPage.bytes = pageThenCount.bytes := by
    unfold AuditEventMaterial.bytes
    rw [dumps_injective.mpr hsame]
  have hone : ∀ b, (∃ e ∈ [countThenPage] ++ [pageThenCount], b = e.bytes) →
      b = countThenPage.bytes := by
    intro b ⟨e, he, hb⟩
    rw [List.singleton_append, List.mem_pair] at he
    rcases he with he | he
    · rw [hb, he]
    · rw [hb, he, hbytes]
  apply verifyEvents_agree readHmac (.bytes (List.replicate 32 65)) 1 countThenPage.eventHash
    [countThenPage] [pageThenCount] ⟨true, 1, 1, countThenPage.eventHash, none, none⟩
    ⟨true, 1, 1, countThenPage.eventHash, none, none⟩
  · intro b hb b' hb' _
    exact (hone b hb).trans (hone b' hb').symm
  · exact verifyEvents_read rfl rfl rfl (by decide +kernel)
  · rfl
  · exact verifyEvents_read rfl rfl rfl (by decide +kernel)
  · rfl

end BhDic.Audit
