import BhDic.Audit.Models
import BhDic.Library.JsonReader
import BhDic.Python.Ordinals
import BhDic.Python.Pydantic
import BhDic.Python.Re
import BhDic.Python.Uuid

/-!
# Audit events

`AuditEventInput` and the models that extend it. Validation strips every text, the texts and the
names inside the payload included, moves the time to UTC and reads the event id as a UUID; what it
leaves passes it once more and comes out as it went in. No name anywhere in a payload may be one of
a sensitive field.
-/

namespace BhDic.Audit

open BhDic.Library BhDic.Python

/-! ## Times -/

instance neZero_microseconds : NeZero 1000000 := ⟨by decide⟩

/-- What a `datetime` shows. -/
@[ext]
structure CivilTime where
  date : Date
  hour : Fin 24
  minute : Fin 60
  second : Fin 60
  microsecond : Fin 1000000

namespace CivilTime

/-- How a time in UTC stands in JSON: the fraction of a second only where there is one. -/
def isoformat (t : CivilTime) : List Char :=
  t.date.isoformat ++ 'T' :: padDigits 2 t.hour ++ ':' :: padDigits 2 t.minute ++
    ':' :: padDigits 2 t.second ++
    (if t.microsecond = 0 then [] else '.' :: padDigits 6 t.microsecond) ++ ['Z']

/-- The microseconds since the day before the calendar begins. -/
def toMicroseconds (t : CivilTime) : Nat :=
  t.date.toOrdinal * 86400000000 + t.hour * 3600000000 + t.minute * 60000000 +
    t.second * 1000000 + t.microsecond

/-- The time a number of microseconds stands for, if it is within the calendar. -/
def ofMicroseconds? (n : Nat) : Option CivilTime :=
  if n < 86400000000 then none
  else (Date.ofOrdinal? (n / 86400000000)).map fun date =>
    { date
      hour := ⟨n / 3600000000 % 24, Nat.mod_lt _ (by decide)⟩
      minute := ⟨n / 60000000 % 60, Nat.mod_lt _ (by decide)⟩
      second := ⟨n / 1000000 % 60, Nat.mod_lt _ (by decide)⟩
      microsecond := ⟨n % 1000000, Nat.mod_lt _ (by decide)⟩ }

theorem padDigits_injective {width n m : Nat} (hn : n < 10 ^ width) (hm : m < 10 ^ width)
    (h : padDigits width n = padDigits width m) : n = m := by
  have hread := readDigits_padDigits width 0 n []
  rw [h, readDigits_padDigits, Nat.mod_eq_of_lt hn, Nat.mod_eq_of_lt hm] at hread
  simpa using hread.symm

theorem date_injective {d e : Date} (h : d.isoformat = e.isoformat) : d = e := by
  have hread := Date.fromisoformat_isoformat d
  rw [h, Date.fromisoformat_isoformat] at hread
  exact (Option.some.inj hread).symm

theorem length_isoformat (d : Date) : d.isoformat.length = 10 := by
  simp [Date.isoformat, length_padDigits]

/-- Two times that are written alike are one. -/
theorem isoformat_injective {t s : CivilTime} (h : t.isoformat = s.isoformat) : t = s := by
  simp only [isoformat, List.append_assoc, List.cons_append] at h
  obtain ⟨hdate, h⟩ := List.append_inj h (by simp [length_isoformat])
  obtain ⟨hhour, h⟩ := List.append_inj (List.cons.inj h).2 (by simp [length_padDigits])
  obtain ⟨hminute, h⟩ := List.append_inj (List.cons.inj h).2 (by simp [length_padDigits])
  obtain ⟨hsecond, h⟩ := List.append_inj (List.cons.inj h).2 (by simp [length_padDigits])
  have hmicrosecond : t.microsecond = s.microsecond := by
    rw [List.append_cancel_right_eq] at h
    split at h <;> split at h
    · rename_i ht hs
      rw [ht, hs]
    · simp at h
    · simp at h
    · exact Fin.ext (padDigits_injective t.microsecond.isLt s.microsecond.isLt (List.cons.inj h).2)
  ext1
  · exact date_injective hdate
  · exact Fin.ext (padDigits_injective (by omega) (by omega) hhour)
  · exact Fin.ext (padDigits_injective (by omega) (by omega) hminute)
  · exact Fin.ext (padDigits_injective (by omega) (by omega) hsecond)
  · exact hmicrosecond

theorem toOrdinal_injective {d e : Date} (h : d.toOrdinal = e.toOrdinal) : d = e := by
  have hle := Date.le_def.mp (Date.le_iff_toOrdinal_le.mpr h.le)
  have hge := Date.le_def.mp (Date.le_iff_toOrdinal_le.mpr h.ge)
  have hdigits : 10000 * d.year + 100 * d.month + d.day = 10000 * e.year + 100 * e.month + e.day :=
    Nat.le_antisymm hle hge
  have := d.day_le.trans (daysInMonth_le _ _)
  have := e.day_le.trans (daysInMonth_le _ _)
  have := d.month_le
  have := e.month_le
  exact Date.ext (by omega) (by omega) (by omega)

theorem ofOrdinal?_toOrdinal (d : Date) : Date.ofOrdinal? d.toOrdinal = some d := by
  have hfirst := one_le_firstOfYear d.year
  have hlow := d.firstOfYear_le_toOrdinal
  have hhigh := d.toOrdinal_lt_next
  have hyear : d.year ≤ 9999 := d.isDate.1.2
  have hmax : d.toOrdinal < firstOfYear 10000 := by
    rw [← firstOfYear_succ d.one_le_year] at hhigh
    rcases Nat.lt_or_eq_of_le (show d.year + 1 ≤ 10000 by omega) with hlt | heq
    · have := firstOfYear_add_le (by omega) hlt
      omega
    · rwa [heq] at hhigh
  obtain ⟨e, he, hordinal⟩ := Date.ofOrdinal?_spec (by omega) hmax
  rw [he, toOrdinal_injective hordinal]

/-- The microseconds of a time are those of no other. -/
theorem ofMicroseconds?_toMicroseconds (t : CivilTime) :
    ofMicroseconds? t.toMicroseconds = some t := by
  have hordinal := one_le_firstOfYear t.date.year
  have hfirst := t.date.firstOfYear_le_toOrdinal
  have hhour := t.hour.isLt
  have hminute := t.minute.isLt
  have hsecond := t.second.isLt
  have hmicrosecond := t.microsecond.isLt
  have hdate : t.toMicroseconds / 86400000000 = t.date.toOrdinal := by
    unfold toMicroseconds
    omega
  have hhours : t.toMicroseconds / 3600000000 = t.date.toOrdinal * 24 + t.hour := by
    unfold toMicroseconds
    omega
  have hminutes : t.toMicroseconds / 60000000 =
      (t.date.toOrdinal * 24 + t.hour) * 60 + t.minute := by
    unfold toMicroseconds
    omega
  have hseconds : t.toMicroseconds / 1000000 =
      ((t.date.toOrdinal * 24 + t.hour) * 60 + t.minute) * 60 + t.second := by
    unfold toMicroseconds
    omega
  have hrest : t.toMicroseconds % 1000000 = t.microsecond := by
    unfold toMicroseconds
    omega
  have hcalendar : ¬t.toMicroseconds < 86400000000 := by
    unfold toMicroseconds
    omega
  rw [ofMicroseconds?, if_neg hcalendar, hdate, ofOrdinal?_toOrdinal]
  show some _ = some t
  congr 1
  ext1
  · rfl
  · apply Fin.ext
    show t.toMicroseconds / 3600000000 % 24 = _
    omega
  · apply Fin.ext
    show t.toMicroseconds / 60000000 % 60 = _
    omega
  · apply Fin.ext
    show t.toMicroseconds / 1000000 % 60 = _
    omega
  · exact Fin.ext hrest

attribute [irreducible] toMicroseconds ofMicroseconds?

end CivilTime

/-- A `datetime`, with its offset from UTC in microseconds; a naive one has none. -/
structure Timestamp where
  wall : CivilTime
  utcoffset : Option Int

/-- The time in UTC. -/
def Timestamp.ofUtc (t : CivilTime) : Timestamp := ⟨t, some 0⟩

/-! ## Payloads -/

mutual

/-- A JSON value with its texts and names stripped. Where two names become one, the later value
stays. -/
def stripJson : Json → Json
  | .str s => .str (trim s)
  | .arr items => .arr (stripItems items)
  | .obj fields => .obj (dictOf (stripFields fields))
  | v => v

def stripItems : List Json → List Json
  | [] => []
  | v :: vs => stripJson v :: stripItems vs

def stripFields : List (String × Json) → List (String × Json)
  | [] => []
  | (name, v) :: rest => (trim name, stripJson v) :: stripFields rest

end

mutual

/-- The names that `reject_sensitive_payload_keys` visits. -/
def visitedKeys : Json → List String
  | .arr items => itemKeys items
  | .obj fields => fieldKeys fields
  | _ => []

def itemKeys : List Json → List String
  | [] => []
  | v :: vs => visitedKeys v ++ itemKeys vs

def fieldKeys : List (String × Json) → List String
  | [] => []
  | (name, v) :: rest => name :: visitedKeys v ++ fieldKeys rest

end

theorem stripFields_eq_self {fields : List (String × Json)}
    (h : ∀ f ∈ fields, (trim f.1, stripJson f.2) = f) : stripFields fields = fields := by
  induction fields with
  | nil => rfl
  | cons f fields ih =>
      rw [List.forall_mem_cons] at h
      show (trim f.1, stripJson f.2) :: stripFields fields = f :: fields
      rw [h.1, ih h.2]

mutual

/-- What is stripped once stays as it is. -/
theorem stripJson_stripJson : ∀ v : Json, stripJson (stripJson v) = stripJson v
  | .str s => congrArg Json.str (trim_trim s)
  | .arr items => congrArg Json.arr (stripItems_stripItems items)
  | .obj fields => by
      have hfields : stripFields (dictOf (stripFields fields)) = dictOf (stripFields fields) :=
        stripFields_eq_self fun f hf => stripFields_stripFields fields f (mem_dictOf hf)
      show Json.obj (dictOf (stripFields (dictOf (stripFields fields)))) = _
      rw [hfields, dictOf_eq (nodup_dictOf _)]
      rfl
  | .null => rfl
  | .bool _ => rfl
  | .int _ => rfl
  | .float _ => rfl

theorem stripItems_stripItems : ∀ items : List Json,
    stripItems (stripItems items) = stripItems items
  | [] => rfl
  | v :: vs => congrArg₂ List.cons (stripJson_stripJson v) (stripItems_stripItems vs)

theorem stripFields_stripFields : ∀ fields : List (String × Json), ∀ f ∈ stripFields fields,
    (trim f.1, stripJson f.2) = f
  | [] => fun f hf => absurd hf List.not_mem_nil
  | (name, v) :: rest => by
      intro f hf
      rcases List.mem_cons.mp hf with rfl | hf
      · exact Prod.ext (trim_trim name) (stripJson_stripJson v)
      · exact stripFields_stripFields rest f hf

end

section Payload

variable (u : UnicodeData)

/-- `_FORBIDDEN_AUDIT_KEY`. -/
def forbiddenAuditKey : Regex :=
  u.re [r"(?i)(password|passwd|token|secret|authorization|cookie|totp|iban|codice.?fiscale|",
    r"tax.?id|e-?mail|phone|telefono|address|indirizzo|first.?name|last.?name|nome|",
    r"cognome|birth|nascita|document.?content|file.?content|storage.?state|full.?prompt)"]

/-- No name in the object is that of a sensitive field. -/
def Harmless (payload : List (String × Json)) : Prop :=
  (fieldKeys payload).all fun name => !found (forbiddenAuditKey u) name.toList

instance (payload : List (String × Json)) : Decidable (Harmless u payload) :=
  inferInstanceAs (Decidable (_ = true))

/-- The payload of an event: stripped, and with harmless names. -/
structure IsAuditPayload (payload : List (String × Json)) : Prop where
  stripped : stripJson (.obj payload) = .obj payload
  harmless : Harmless u payload

/-- What the payload becomes, if it is accepted. -/
def auditPayload? : Json → Option { payload // IsAuditPayload u payload }
  | .obj fields =>
      let payload := dictOf (stripFields fields)
      if h : Harmless u payload then some ⟨payload, stripJson_stripJson (.obj fields), h⟩ else none
  | _ => none

end Payload

/-! ## Fields -/

/-- The values of `AuditOutcome`. -/
def AuditOutcome.value : AuditOutcome → String
  | .success => "SUCCESS"
  | .denied => "DENIED"
  | .failed => "FAILED"
  | .pending => "PENDING"
  | .uncertain => "UNCERTAIN"

/-- `AuditOutcome(value)`. -/
def AuditOutcome.ofValue? (value : String) : Option AuditOutcome :=
  [AuditOutcome.success, .denied, .failed, .pending, .uncertain].find? (·.value == value)

/-- A character of `[a-f0-9]`. -/
def isHashChar (c : Char) : Bool := c.isDigit || ('a' ≤ c && c ≤ 'f')

/-- `^[a-f0-9]{64}$`. -/
def IsHash (text : String) : Prop := text.toList.length = 64 ∧ text.toList.all isHashChar

instance (text : String) : Decidable (IsHash text) := inferInstanceAs (Decidable (_ ∧ _))

/-- `^[a-z0-9][a-z0-9._-]+$`, from 3 to 128 characters. -/
def eventTypeField : TextField :=
  ⟨3, 128, ⟨fun c => c.isLower || c.isDigit,
    fun c => c.isLower || c.isDigit || c == '.' || c == '_' || c == '-'⟩⟩

/-- `^[A-Za-z0-9._:-]+$`, from 8 to 64 characters. -/
def correlationIdField : TextField :=
  let ok := fun c : Char => c.isAlphanum || c == '.' || c == '_' || c == ':' || c == '-'
  ⟨8, 64, ⟨ok, ok⟩⟩

/-- `^[0-9]{1,32}$`. -/
def discordIdField : TextField := ⟨1, 32, ⟨Char.isDigit, Char.isDigit⟩⟩

/-- `^[A-Z0-9][A-Z0-9_-]+$`, at most 64 characters. -/
def functionIdField : TextField :=
  ⟨2, 64, ⟨fun c => c.isUpper || c.isDigit,
    fun c => c.isUpper || c.isDigit || c == '_' || c == '-'⟩⟩

/-- `^emp_[a-f0-9]{8,64}$`. -/
def IsTargetPseudonym (text : String) : Prop :=
  "emp_".toList <+: text.toList ∧ (8 ≤ (text.toList.drop 4).length ∧
    (text.toList.drop 4).length ≤ 64) ∧ (text.toList.drop 4).all isHashChar

instance (text : String) : Decidable (IsTargetPseudonym text) := inferInstanceAs (Decidable (_ ∧ _))

/-- What `AuditEventInput` is built from. -/
structure EventValues where
  eventId : String
  timestampUtc : Timestamp
  eventType : String
  correlationId : String
  actorDiscordId : Option String := none
  guildId : Option String := none
  channelId : Option String := none
  functionId : Option String := none
  targetPseudonym : Option String := none
  outcome : String
  payload : Json := .obj []

/-- The fields of an event. -/
structure EventFields where
  eventId : Uuid
  timestampUtc : CivilTime
  eventType : String
  correlationId : String
  actorDiscordId : Option String := none
  guildId : Option String := none
  channelId : Option String := none
  functionId : Option String := none
  targetPseudonym : Option String := none
  outcome : AuditOutcome
  payload : List (String × Json) := []

/-- The texts of an event match their patterns. -/
def EventFields.TextsOk (e : EventFields) : Prop :=
  eventTypeField.Accepts e.eventType ∧ correlationIdField.Accepts e.correlationId ∧
    (e.actorDiscordId.all (discordIdField.Accepts ·) ∧ e.guildId.all (discordIdField.Accepts ·) ∧
      e.channelId.all (discordIdField.Accepts ·)) ∧
    e.functionId.all (functionIdField.Accepts ·) ∧
    e.targetPseudonym.all (IsTargetPseudonym ·)

instance (e : EventFields) : Decidable e.TextsOk := inferInstanceAs (Decidable (_ ∧ _))

/-- `AuditEventInput`. -/
structure AuditEventInput (u : UnicodeData) extends EventFields where
  texts_ok : toEventFields.TextsOk
  payload_ok : IsAuditPayload u payload

/-- `AuditEventMaterial`. -/
structure AuditEventMaterial (u : UnicodeData) extends AuditEventInput u where
  sequence : Nat
  previousHash : String
  sequence_pos : 1 ≤ sequence
  previousHash_ok : IsHash previousHash

/-- `AuditEventView`. -/
structure AuditEventView (u : UnicodeData) extends AuditEventMaterial u where
  eventHash : String
  eventHash_ok : IsHash eventHash

/-! ## Validation -/

/-- A model refuses what it is built from. -/
def invalid (model : String) : Exn := ⟨.pydanticValidationError, model⟩

def orInvalid {α : Type} (model : String) (value : Option α) : Except Exn α :=
  value.elim (.error (invalid model)) .ok

@[simp] theorem orInvalid_eq_ok {α : Type} {model : String} {value : Option α} {a : α} :
    orInvalid model value = .ok a ↔ value = some a := by
  cases value with
  | none => exact ⟨nofun, nofun⟩
  | some b => simp [orInvalid]

section Create

variable (u : UnicodeData) (model : String)

/-- `normalize_timestamp`. An overflow is not taken for a refusal. -/
def Timestamp.normalize (t : Timestamp) : Except Exn CivilTime :=
  match t.utcoffset with
  | none => .error (invalid model)
  | some offset =>
      (CivilTime.ofMicroseconds? (t.wall.toMicroseconds - offset).toNat).elim
        (.error ⟨.foreign "OverflowError", "date value out of range"⟩) .ok

/-- `AuditEventInput(...)`, for the model itself and those that extend it. -/
def AuditEventInput.create (v : EventValues) : Except Exn (AuditEventInput u) := do
  let timestampUtc ← v.timestampUtc.normalize model
  let eventId ← orInvalid model (Uuid.parse u (trim v.eventId))
  let outcome ← orInvalid model (AuditOutcome.ofValue? v.outcome)
  let payload ← orInvalid model (auditPayload? u v.payload)
  let e : EventFields :=
    { eventId, timestampUtc, outcome
      payload := payload.val
      eventType := trim v.eventType
      correlationId := trim v.correlationId
      actorDiscordId := v.actorDiscordId.map trim
      guildId := v.guildId.map trim
      channelId := v.channelId.map trim
      functionId := v.functionId.map trim
      targetPseudonym := v.targetPseudonym.map trim }
  if htexts : e.TextsOk then .ok ⟨e, htexts, payload.property⟩ else .error (invalid model)

/-- `AuditEventMaterial(sequence=..., previous_hash=..., ...)`. -/
def AuditEventMaterial.create (v : EventValues) (sequence : Int) (previousHash : String) :
    Except Exn (AuditEventMaterial u) := do
  let e ← AuditEventInput.create u model v
  if h : 1 ≤ sequence.toNat ∧ IsHash (trim previousHash) then
    .ok ⟨e, sequence.toNat, trim previousHash, h.1, h.2⟩
  else .error (invalid model)

/-- `AuditEventView(event_hash=..., ...)`. -/
def AuditEventView.create (v : EventValues) (sequence : Int) (previousHash eventHash : String) :
    Except Exn (AuditEventView u) := do
  let m ← AuditEventMaterial.create u model v sequence previousHash
  if h : IsHash (trim eventHash) then .ok ⟨m, trim eventHash, h⟩ else .error (invalid model)

end Create

/-! ## Validating again -/

/-- `model_dump`. -/
def EventFields.dump (e : EventFields) : EventValues where
  eventId := e.eventId.str
  timestampUtc := .ofUtc e.timestampUtc
  eventType := e.eventType
  correlationId := e.correlationId
  actorDiscordId := e.actorDiscordId
  guildId := e.guildId
  channelId := e.channelId
  functionId := e.functionId
  targetPseudonym := e.targetPseudonym
  outcome := e.outcome.value
  payload := .obj e.payload

theorem Timestamp.normalize_ofUtc (model : String) (t : CivilTime) :
    (Timestamp.ofUtc t).normalize model = .ok t := by
  have hmicroseconds : ((t.toMicroseconds : Int) - 0).toNat = t.toMicroseconds := by omega
  unfold normalize ofUtc
  dsimp only
  rw [hmicroseconds, CivilTime.ofMicroseconds?_toMicroseconds, Option.elim_some]

theorem AuditOutcome.ofValue?_value (o : AuditOutcome) : ofValue? o.value = some o := by
  cases o <;> decide

theorem IsAuditPayload.auditPayload? {u : UnicodeData} {payload : List (String × Json)}
    (h : IsAuditPayload u payload) : Audit.auditPayload? u (.obj payload) = some ⟨payload, h⟩ := by
  have hstripped : dictOf (stripFields payload) = payload := Json.obj.inj h.stripped
  have hharmless : Harmless u (dictOf (stripFields payload)) := hstripped.symm ▸ h.harmless
  rw [Audit.auditPayload?, dif_pos hharmless]
  exact congrArg some (Subtype.ext hstripped)

theorem trim_str (x : Uuid) : trim x.str = x.str := by
  have hdigit : ∀ d : Fin 16, isWhiteSpace (Nat.digitChar d) = false := by decide
  apply trim_eq_self
  intro c hc
  rcases mem_str hc with rfl | ⟨d, rfl⟩
  · rfl
  · exact hdigit d

section Solid

theorem isAlphanum_eq (c : Char) :
    c.isAlphanum = ((c.isUpper || c.isLower) || c.isDigit) := rfl

theorem isVisible_of_isAlphanum {c : Char} (h : c.isAlphanum = true) : isVisible c = true := by
  rw [isAlphanum_eq] at h
  unfold Char.isUpper Char.isLower Char.isDigit at h
  simp only [Bool.or_eq_true, Bool.and_eq_true, decide_eq_true_eq, ge_iff_le,
    UInt32.le_iff_toNat_le] at h
  have hnat : c.toNat = c.val.toNat := rfl
  simp only [isVisible, Bool.and_eq_true, decide_eq_true_eq, hnat]
  rcases h with (⟨hlow, hhigh⟩ | ⟨hlow, hhigh⟩) | ⟨hlow, hhigh⟩
  · exact ⟨le_trans (by decide) hlow, le_trans hhigh (by decide)⟩
  · exact ⟨le_trans (by decide) hlow, le_trans hhigh (by decide)⟩
  · exact ⟨le_trans (by decide) hlow, le_trans hhigh (by decide)⟩

theorem isVisible_of_isHashChar {c : Char} (h : isHashChar c = true) : isVisible c = true := by
  simp only [isHashChar, Bool.or_eq_true, Bool.and_eq_true, decide_eq_true_eq] at h
  rcases h with h | ⟨hlow, hhigh⟩
  · exact isVisible_of_isAlphanum (by simp [isAlphanum_eq, h])
  · simp only [isVisible, Bool.and_eq_true, decide_eq_true_eq]
    exact ⟨le_trans (by decide) (Char.le_def.mp hlow), le_trans (Char.le_def.mp hhigh) (by decide)⟩

/-- A letter or a digit, or one of some marks. -/
theorem isVisible_of_member {c : Char} {marks : List Char} (hmarks : marks.all isVisible = true)
    (h : c.isAlphanum = true ∨ c ∈ marks) : isVisible c = true := by
  rcases h with h | h
  · exact isVisible_of_isAlphanum h
  · exact List.all_eq_true.mp hmarks c h

theorem solid_of_members {p : FieldPattern} (marks : List Char)
    (hmarks : marks.all isVisible = true)
    (hfirst : ∀ c, p.first c = true → c.isAlphanum = true ∨ c ∈ marks)
    (hrest : ∀ c, p.rest c = true → c.isAlphanum = true ∨ c ∈ marks) : p.Solid :=
  FieldPattern.solid_of_visible (fun c h => isVisible_of_member hmarks (hfirst c h))
    (fun c h => isVisible_of_member hmarks (hrest c h))

theorem eventTypeField_solid : eventTypeField.pattern.Solid := by
  apply solid_of_members ['.', '_', '-'] (by decide)
  · intro c h
    simp only [eventTypeField, Bool.or_eq_true] at h
    simp only [isAlphanum_eq, Bool.or_eq_true]
    tauto
  · intro c h
    simp only [eventTypeField, Bool.or_eq_true, beq_iff_eq] at h
    simp only [isAlphanum_eq, Bool.or_eq_true, List.mem_cons, List.not_mem_nil, or_false]
    tauto

theorem correlationIdField_solid : correlationIdField.pattern.Solid := by
  have hmember : ∀ c : Char, (c.isAlphanum || c == '.' || c == '_' || c == ':' || c == '-') →
      c.isAlphanum = true ∨ c ∈ ['.', '_', ':', '-'] := by
    intro c h
    simp only [Bool.or_eq_true, beq_iff_eq] at h
    simp only [List.mem_cons, List.not_mem_nil, or_false]
    tauto
  exact solid_of_members _ (by decide) hmember hmember

theorem discordIdField_solid : discordIdField.pattern.Solid := by
  have hmember : ∀ c : Char, c.isDigit = true → c.isAlphanum = true ∨ c ∈ [] := by
    intro c h
    exact .inl (by simp [isAlphanum_eq, h])
  exact solid_of_members _ (by decide) hmember hmember

theorem functionIdField_solid : functionIdField.pattern.Solid := by
  apply solid_of_members ['_', '-'] (by decide)
  · intro c h
    simp only [functionIdField, Bool.or_eq_true] at h
    simp only [isAlphanum_eq, Bool.or_eq_true]
    tauto
  · intro c h
    simp only [functionIdField, Bool.or_eq_true, beq_iff_eq] at h
    simp only [isAlphanum_eq, Bool.or_eq_true, List.mem_cons, List.not_mem_nil, or_false]
    tauto

theorem trim_of_visible {text : String} (h : text.toList.all isVisible = true) :
    trim text = text := by
  apply trim_eq_self
  intro c hc
  exact isWhiteSpace_of_isVisible (List.all_eq_true.mp h c hc)

theorem IsHash.trim_eq {text : String} (h : IsHash text) : trim text = text := by
  apply trim_of_visible
  rw [List.all_eq_true]
  intro c hc
  exact isVisible_of_isHashChar (List.all_eq_true.mp h.2 c hc)

theorem IsTargetPseudonym.trim_eq {text : String} (h : IsTargetPseudonym text) :
    trim text = text := by
  obtain ⟨⟨rest, hrest⟩, -, hhash⟩ := h
  apply trim_of_visible
  rw [← hrest] at hhash ⊢
  rw [List.all_append, Bool.and_eq_true]
  refine ⟨by decide, ?_⟩
  rw [List.all_eq_true]
  intro c hc
  exact isVisible_of_isHashChar (List.all_eq_true.mp hhash c hc)

end Solid

/-- Texts that match are not stripped any further. -/
theorem map_trim_of_all {text : Option String} {P : String → Prop} [DecidablePred P]
    (h : text.all (P ·)) (htrim : ∀ s, P s → trim s = s) : text.map trim = text := by
  cases text with
  | none => rfl
  | some s => exact congrArg some (htrim s (of_decide_eq_true h))

section Again

variable {u : UnicodeData} {model : String} {v : EventValues}

/-- What `AuditEventInput` makes of the values, field by field. -/
theorem AuditEventInput.create_eq_ok {e : AuditEventInput u} :
    AuditEventInput.create u model v = .ok e ↔
      v.timestampUtc.normalize model = .ok e.timestampUtc ∧
      Uuid.parse u (trim v.eventId) = some e.eventId ∧
      AuditOutcome.ofValue? v.outcome = some e.outcome ∧
      auditPayload? u v.payload = some ⟨e.payload, e.payload_ok⟩ ∧
      (trim v.eventType = e.eventType ∧ trim v.correlationId = e.correlationId) ∧
      (v.actorDiscordId.map trim = e.actorDiscordId ∧ v.guildId.map trim = e.guildId ∧
        v.channelId.map trim = e.channelId) ∧
      v.functionId.map trim = e.functionId ∧ v.targetPseudonym.map trim = e.targetPseudonym := by
  simp only [create, bind_eq_ok, orInvalid_eq_ok]
  constructor
  · rintro ⟨t, ht, id, hid, outcome, houtcome, payload, hpayload, h⟩
    split at h
    · cases h
      exact ⟨ht, hid, houtcome, hpayload, ⟨rfl, rfl⟩, ⟨rfl, rfl, rfl⟩, rfl, rfl⟩
    · cases h
  · rintro ⟨ht, hid, houtcome, hpayload, ⟨htype, hcorrelation⟩, ⟨hactor, hguild, hchannel⟩,
      hfunction, htarget⟩
    refine ⟨_, ht, _, hid, _, houtcome, _, hpayload, ?_⟩
    obtain ⟨⟨id, t, type, correlation, actor, guild, channel, function, target, outcome, payload⟩,
      htexts, hok⟩ := e
    dsimp only at htype hcorrelation hactor hguild hchannel hfunction htarget
    subst htype hcorrelation hactor hguild hchannel hfunction htarget
    exact dif_pos htexts

/-- **Validation leaves what has been validated as it is.** -/
theorem AuditEventInput.create_dump (e : AuditEventInput u) :
    AuditEventInput.create u model e.dump = .ok e := by
  obtain ⟨htype, hcorrelation, ⟨hactor, hguild, hchannel⟩, hfunction, htarget⟩ := e.texts_ok
  have hdiscord : ∀ s, discordIdField.Accepts s → trim s = s :=
    fun s hs => hs.trim_eq_self discordIdField_solid
  rw [AuditEventInput.create_eq_ok]
  refine ⟨Timestamp.normalize_ofUtc model _, ?_, AuditOutcome.ofValue?_value _,
    e.payload_ok.auditPayload?, ⟨?_, ?_⟩, ⟨?_, ?_, ?_⟩, ?_, ?_⟩
  · show Uuid.parse u (trim e.eventId.str) = _
    rw [trim_str, Uuid.parse_str]
  · exact htype.trim_eq_self eventTypeField_solid
  · exact hcorrelation.trim_eq_self correlationIdField_solid
  · exact map_trim_of_all hactor hdiscord
  · exact map_trim_of_all hguild hdiscord
  · exact map_trim_of_all hchannel hdiscord
  · exact map_trim_of_all hfunction fun s hs => hs.trim_eq_self functionIdField_solid
  · exact map_trim_of_all htarget fun s hs => hs.trim_eq

theorem AuditEventMaterial.create_eq_ok {sequence : Int} {previousHash : String}
    {m : AuditEventMaterial u} :
    AuditEventMaterial.create u model v sequence previousHash = .ok m ↔
      AuditEventInput.create u model v = .ok m.toAuditEventInput ∧
        sequence = m.sequence ∧ trim previousHash = m.previousHash := by
  simp only [create, bind_eq_ok]
  constructor
  · rintro ⟨e, he, h⟩
    split at h
    · next hok =>
      cases h
      refine ⟨he, ?_, rfl⟩
      show sequence = (sequence.toNat : Int)
      omega
    · cases h
  · rintro ⟨he, hsequence, hprevious⟩
    refine ⟨_, he, ?_⟩
    obtain ⟨e, number, hash, hpos, hhash⟩ := m
    dsimp only at hsequence hprevious he ⊢
    subst hsequence hprevious
    exact dif_pos ⟨hpos, hhash⟩

theorem AuditEventView.create_eq_ok {sequence : Int} {previousHash eventHash : String}
    {e : AuditEventView u} :
    AuditEventView.create u model v sequence previousHash eventHash = .ok e ↔
      AuditEventMaterial.create u model v sequence previousHash = .ok e.toAuditEventMaterial ∧
        trim eventHash = e.eventHash := by
  simp only [create, bind_eq_ok]
  constructor
  · rintro ⟨m, hm, h⟩
    split at h
    · cases h
      exact ⟨hm, rfl⟩
    · cases h
  · rintro ⟨hm, hhash⟩
    refine ⟨_, hm, ?_⟩
    obtain ⟨m, hash, hok⟩ := e
    dsimp only at hhash ⊢
    subst hhash
    exact dif_pos hok

theorem AuditEventMaterial.create_dump (m : AuditEventMaterial u) :
    AuditEventMaterial.create u model m.dump m.sequence m.previousHash = .ok m :=
  create_eq_ok.mpr ⟨AuditEventInput.create_dump _, rfl, m.previousHash_ok.trim_eq⟩

theorem AuditEventView.create_dump (e : AuditEventView u) :
    AuditEventView.create u model e.dump e.sequence e.previousHash e.eventHash = .ok e :=
  create_eq_ok.mpr ⟨AuditEventMaterial.create_dump _, e.eventHash_ok.trim_eq⟩

end Again

end BhDic.Audit
