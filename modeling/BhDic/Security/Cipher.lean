import BhDic.Approvals.Models
import BhDic.Library.JsonReader
import BhDic.Python.Equality
import BhDic.Python.Text

/-!
# Encryption of payloads

`PayloadCipher` writes a payload into an envelope of its purpose, and encrypts the canonical text of
the envelope. A payload is any Python object; `_validate_json` and `json.dumps` refuse those that
are no JSON, so that what is encrypted can be read back. Encryption itself is Fernet's, of which
only is known that it is authenticated.
-/

namespace BhDic.Security

open BhDic.Approvals (Bytes)
open BhDic.Library BhDic.Python

/-! ## Texts of Python -/

/-- One code point of a `str`, which can be half of a surrogate pair. -/
abbrev CodePoint := Fin 0x110000

abbrev PyText := List CodePoint

/-- The text as `encode("utf-8")` takes it, which refuses surrogates. -/
def encodable? (text : PyText) : Option String :=
  (text.mapM fun n => charOf? n.val).map String.ofList

def codePoints (s : String) : PyText := s.toList.map fun c => ⟨c.toNat, toNat_lt c⟩

theorem toNat_of_charOf? {n : Nat} {c : Char} (h : charOf? n = some c) : c.toNat = n := by
  unfold charOf? at h
  by_cases hvalid : n.isValidChar
  · rw [dif_pos hvalid] at h
    obtain rfl := Option.some.inj h
    rfl
  · rw [dif_neg hvalid] at h
    cases h

theorem mapM_charOf? {text : PyText} {cs : List Char} :
    (text.mapM fun n => charOf? n.val) = some cs ↔ text = cs.map fun c => ⟨c.toNat, toNat_lt c⟩ := by
  induction text generalizing cs with
  | nil => cases cs <;> simp
  | cons n text ih =>
      rw [List.mapM_cons]
      constructor
      · intro h
        obtain ⟨c, hc, h⟩ := Option.bind_eq_some_iff.mp h
        obtain ⟨cs, hcs, h⟩ := Option.bind_eq_some_iff.mp h
        obtain rfl := Option.some.inj h
        rw [List.map_cons, ← ih.mp hcs]
        congr 1
        exact Fin.ext (toNat_of_charOf? hc).symm
      · intro h
        cases cs with
        | nil => cases h
        | cons c cs =>
            obtain ⟨rfl, htext⟩ := List.cons.inj h
            rw [ih.mpr htext]
            show (charOf? c.toNat).bind _ = _
            rw [charOf?_toNat]
            rfl

/-- **A text is encodable just where it is one of characters.** -/
theorem encodable?_eq_some {text : PyText} {s : String} :
    encodable? text = some s ↔ text = codePoints s := by
  rw [encodable?, Option.map_eq_some_iff, codePoints]
  constructor
  · intro ⟨cs, hcs, hs⟩
    rw [← hs, String.toList_ofList, ← mapM_charOf?, hcs]
  · intro h
    exact ⟨s.toList, mapM_charOf?.mpr h, String.ofList_toList⟩

theorem codePoints_injective {s t : String} (h : codePoints s = codePoints t) : s = t := by
  have hs := encodable?_eq_some.mpr (rfl : codePoints s = codePoints s)
  rw [h, encodable?_eq_some.mpr rfl] at hs
  exact (Option.some.inj hs).symm

/-- `bytes.decode("utf-8")`. -/
def decodeUtf8? (bytes : Bytes) : Option String := String.fromUTF8? ⟨bytes.toArray⟩

theorem decodeUtf8?_encodeUtf8 (s : String) : decodeUtf8? (encodeUtf8 s) = some s := by
  have hbytes : (⟨(encodeUtf8 s).toArray⟩ : ByteArray) = s.toByteArray := by
    simp [encodeUtf8]
  rw [decodeUtf8?, hbytes]
  exact dif_pos s.isValidUTF8

/-! ## Objects of Python -/

/-- A key of a mapping. -/
inductive PayloadKey
  | text (name : PyText)
  | other

inductive MappingKind
  | dict | other
  deriving DecidableEq

inductive SequenceKind
  | list | tuple | other
  deriving DecidableEq

/-- An object, as far as the cipher tells objects apart. `bytes` are among the others. -/
inductive PayloadValue
  | none
  | bool (b : Bool)
  | int (n : Int)
  | float (f : FloatText)
  | text (s : PyText)
  | mapping (kind : MappingKind) (entries : List (PayloadKey × PayloadValue))
  | sequence (kind : SequenceKind) (items : List PayloadValue)
  | other

namespace PayloadValue

variable {P : PayloadValue → Prop}

/-- An object has a property that its items and values hand on to it. -/
theorem induction (none : P .none) (bool : ∀ b, P (.bool b)) (int : ∀ n, P (.int n))
    (float : ∀ f, P (.float f)) (text : ∀ s, P (.text s))
    (mapping : ∀ kind entries, (∀ e ∈ entries, P e.2) → P (.mapping kind entries))
    (sequence : ∀ kind items, (∀ v ∈ items, P v) → P (.sequence kind items)) (other : P .other) :
    ∀ v, P v := by
  intro v
  refine @PayloadValue.rec P (fun entries => ∀ e ∈ entries, P e.2) (fun items => ∀ v ∈ items, P v)
    (fun e => P e.2) none bool int float text mapping sequence other ?_ ?_ ?_ ?_ ?_ v
  · simp
  · intro e entries he hentries
    exact List.forall_mem_cons.mpr ⟨he, hentries⟩
  · simp
  · intro v items hv hitems
    exact List.forall_mem_cons.mpr ⟨hv, hitems⟩
  · intro key value hvalue
    exact hvalue

end PayloadValue

/-! ## `canonical_json_bytes` -/

/-- The most digits that `int` and `str` convert. -/
def intMaxStrDigits : Nat := 4300

def tooDeep : Exn := ⟨.valueError, "JSON payload exceeds the maximum nesting depth"⟩

mutual

/-- `_validate_json`. -/
def validateJson (depth : Nat) : PayloadValue → Except Exn Unit
  | .none | .bool _ | .int _ | .text _ => ensure (depth ≤ 12) tooDeep
  | .float f => do
      ensure (depth ≤ 12) tooDeep
      ensure (f.isFinite = true) ⟨.valueError, "non-finite numbers are not valid payload values"⟩
  | .mapping _ entries => do
      ensure (depth ≤ 12) tooDeep
      validateEntries (depth + 1) entries
  | .sequence _ items => do
      ensure (depth ≤ 12) tooDeep
      validateItems (depth + 1) items
  | .other => do
      ensure (depth ≤ 12) tooDeep
      throw ⟨.valueError, "payload must contain only JSON-compatible values"⟩

def validateItems (depth : Nat) : List PayloadValue → Except Exn Unit
  | [] => .ok ()
  | v :: vs => do
      validateJson depth v
      validateItems depth vs

def validateEntries (depth : Nat) : List (PayloadKey × PayloadValue) → Except Exn Unit
  | [] => .ok ()
  | (.text _, v) :: rest => do
      validateJson depth v
      validateEntries depth rest
  | (.other, _) :: _ => .error ⟨.valueError, "JSON object keys must be strings"⟩

end

/-- The text that a string is encoded as. -/
def encodedText (text : PyText) : Except Exn String :=
  match encodable? text with
  | some s => .ok s
  | none => .error ⟨.unicodeEncodeError, "surrogates not allowed"⟩

mutual

/-- The document that `json.dumps` writes of an object and `encode` encodes, where neither refuses.
`json.dumps` takes dictionaries, lists and tuples only, and no integer that is too long for `str`. -/
def jsonOf : PayloadValue → Except Exn Json
  | .none => .ok .null
  | .bool b => .ok (.bool b)
  | .int n => do
      ensure ((Nat.toDigits 10 n.natAbs).length ≤ intMaxStrDigits)
        ⟨.valueError, "Exceeds the limit for integer string conversion"⟩
      return .int n
  | .float f => do
      ensure (f.isFinite = true) ⟨.valueError, "Out of range float values are not JSON compliant"⟩
      return .float f
  | .text s => do
      let s ← encodedText s
      return .str s
  | .mapping .dict entries => do
      let fields ← jsonFields entries
      return .obj fields
  | .sequence .list items | .sequence .tuple items => do
      let items ← jsonItems items
      return .arr items
  | .mapping .other _ | .sequence .other _ | .other =>
      .error ⟨.typeError, "Object is not JSON serializable"⟩

def jsonItems : List PayloadValue → Except Exn (List Json)
  | [] => .ok []
  | v :: vs => do
      let item ← jsonOf v
      let items ← jsonItems vs
      return item :: items

/-- The fields of a dictionary. Its keys are strings, or it would not have been valid. -/
def jsonFields : List (PayloadKey × PayloadValue) → Except Exn (List (String × Json))
  | [] => .ok []
  | (.text name, v) :: rest => do
      let name ← encodedText name
      let value ← jsonOf v
      let fields ← jsonFields rest
      return (name, value) :: fields
  | (.other, _) :: _ => .error ⟨.typeError, "keys must be str, int, float, bool or None"⟩

end

/-- `canonical_json_bytes`. -/
def canonicalJsonBytes (value : PayloadValue) : Except Exn Bytes := do
  validateJson 0 value
  let document ← jsonOf value
  return encodeUtf8 (String.ofList (dumps false document))

/-! ## `PayloadCipher` -/

/-- `Fernet` with a key. What it encrypts to depends on the time and on random bytes; decryption may
be given a time to live, with the current time. -/
structure Fernet (Entropy : Type) where
  encrypt : Entropy → Bytes → Bytes
  decrypt : Option (Int × Nat) → Bytes → Option Bytes

mutual

/-- A loaded document as an object. -/
def PayloadValue.ofJson : Json → PayloadValue
  | .null => .none
  | .bool b => .bool b
  | .int n => .int n
  | .float f => .float f
  | .str s => .text (codePoints s)
  | .arr items => .sequence .list (ofItems items)
  | .obj fields => .mapping .dict (ofFields fields)

def ofItems : List Json → List PayloadValue
  | [] => []
  | v :: vs => PayloadValue.ofJson v :: ofItems vs

def ofFields : List (String × Json) → List (PayloadKey × PayloadValue)
  | [] => []
  | (name, v) :: rest => (.text (codePoints name), PayloadValue.ofJson v) :: ofFields rest

end

variable {Entropy : Type} (floats : FloatData) (fernet : Fernet Entropy)

/-- The envelope of a payload. -/
def envelope (payload : PayloadValue) (purpose : PyText) : PayloadValue :=
  .mapping .dict [(.text (codePoints "payload"), payload),
    (.text (codePoints "purpose"), .text purpose), (.text (codePoints "version"), .int 1)]

/-- `PayloadCipher.encrypt_json`. -/
def encryptJson (entropy : Entropy) (payload : PayloadValue) (purpose : PyText) :
    Except Exn Bytes := do
  ensure (purpose ≠ [] ∧ purpose.length ≤ 128) ⟨.valueError, "invalid payload purpose"⟩
  let plaintext ← canonicalJsonBytes (envelope payload purpose)
  return fernet.encrypt entropy plaintext

/-- What an envelope of the purpose holds. -/
def opened (purpose : PyText) : Json → Option Json
  | .obj fields =>
      match Dict.find "version" fields, Dict.find "purpose" fields, Dict.find "payload" fields with
      | some version, some (.str s), some payload =>
          if equalsInt floats version 1 = true ∧ codePoints s = purpose then some payload else none
      | _, _, _ => none
  | _ => none

def decryptionError (message : String) : Exn := ⟨.payloadDecryptionError, message⟩

/-- `PayloadCipher.decrypt_json`. -/
def decryptJson (expiry : Option (Int × Nat)) (ciphertext : Bytes) (purpose : PyText) :
    Except Exn Json :=
  if ciphertext = [] then .error (decryptionError "encrypted payload is invalid")
  else
    match ((fernet.decrypt expiry ciphertext).bind decodeUtf8?).bind fun text =>
        loads intMaxStrDigits text.toList with
    | none => .error (decryptionError "encrypted payload is invalid")
    | some document =>
        match opened floats purpose document with
        | none => .error (decryptionError "encrypted payload has an invalid envelope")
        | some payload =>
            match validateJson 0 (.ofJson payload) with
            | .ok _ => .ok payload
            | .error e =>
                .error (if e.isA .valueError then decryptionError "decrypted payload is invalid"
                  else e)

end BhDic.Security
