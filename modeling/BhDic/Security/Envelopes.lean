import BhDic.Security.Cipher

/-!
# Payloads come back

What `encrypt_json` encrypts, `decrypt_json` returns: the same keys, values and types, with lists for
tuples. What is refused in between is refused before anything is encrypted. Nothing else is returned
than what an envelope of the purpose holds.
-/

namespace BhDic.Security

open BhDic.Approvals (Bytes)
open BhDic.Library BhDic.Python

/-! ## Equality as JSON -/

mutual

/-- An object and a document are equal as JSON values. -/
inductive PayloadValue.Matches : PayloadValue → Json → Prop
  | none : PayloadValue.Matches .none .null
  | bool (b : Bool) : PayloadValue.Matches (.bool b) (.bool b)
  | int (n : Int) : PayloadValue.Matches (.int n) (.int n)
  | float (f : FloatText) : PayloadValue.Matches (.float f) (.float f)
  | text (s : String) : PayloadValue.Matches (.text (codePoints s)) (.str s)
  | sequence {kind : SequenceKind} {items : List PayloadValue} {items' : List Json} :
      MatchesItems items items' → PayloadValue.Matches (.sequence kind items) (.arr items')
  /-- The order of the entries does not matter. -/
  | mapping {kind : MappingKind} {entries : List (PayloadKey × PayloadValue)}
      {fields fields' : List (String × Json)} :
      MatchesFields entries fields → fields'.Perm fields →
      PayloadValue.Matches (.mapping kind entries) (.obj fields')

inductive MatchesItems : List PayloadValue → List Json → Prop
  | nil : MatchesItems [] []
  | cons {v : PayloadValue} {w : Json} {vs : List PayloadValue} {ws : List Json} :
      PayloadValue.Matches v w → MatchesItems vs ws → MatchesItems (v :: vs) (w :: ws)

inductive MatchesFields : List (PayloadKey × PayloadValue) → List (String × Json) → Prop
  | nil : MatchesFields [] []
  | cons {name : String} {v : PayloadValue} {w : Json}
      {entries : List (PayloadKey × PayloadValue)} {fields : List (String × Json)} :
      PayloadValue.Matches v w → MatchesFields entries fields →
      MatchesFields ((.text (codePoints name), v) :: entries) ((name, w) :: fields)

end

/-! ## Objects that Python can hold -/

def PayloadKey.name? : PayloadKey → Option PyText
  | .text name => some name
  | .other => none

mutual

/-- The keys of a mapping are distinct, and `repr` of a finite float is a numeral. -/
def PayloadValue.WellFormed : PayloadValue → Prop
  | .float f => f.isFinite = true → f.IsNumeral
  | .mapping _ entries => (entries.filterMap fun e => e.1.name?).Nodup ∧ wellFormedEntries entries
  | .sequence _ items => wellFormedItems items
  | _ => True

def wellFormedItems : List PayloadValue → Prop
  | [] => True
  | v :: vs => v.WellFormed ∧ wellFormedItems vs

def wellFormedEntries : List (PayloadKey × PayloadValue) → Prop
  | [] => True
  | (_, v) :: rest => v.WellFormed ∧ wellFormedEntries rest

end

theorem wellFormedItems_iff {items : List PayloadValue} :
    wellFormedItems items ↔ ∀ v ∈ items, v.WellFormed := by
  induction items with
  | nil => simp [wellFormedItems]
  | cons v vs ih => rw [wellFormedItems, ih, List.forall_mem_cons]

theorem wellFormedEntries_iff {entries : List (PayloadKey × PayloadValue)} :
    wellFormedEntries entries ↔ ∀ e ∈ entries, e.2.WellFormed := by
  induction entries with
  | nil => simp [wellFormedEntries]
  | cons e entries ih => rw [wellFormedEntries, ih, List.forall_mem_cons]

/-! ## What is accepted -/

theorem encodedText_eq_ok {text : PyText} {s : String} :
    encodedText text = .ok s ↔ text = codePoints s := by
  rw [← encodable?_eq_some, encodedText]
  cases encodable? text with
  | none => simp
  | some t => simp

theorem jsonItems_eq_ok {items : List PayloadValue} {ws : List Json} :
    jsonItems items = .ok ws ↔ List.Forall₂ (fun v w => jsonOf v = .ok w) items ws := by
  induction items generalizing ws with
  | nil =>
      rw [List.forall₂_nil_left_iff, jsonItems]
      exact ⟨fun h => (Except.ok.inj h).symm, fun h => by rw [h]⟩
  | cons v items ih =>
      rw [jsonItems, List.forall₂_cons_left_iff, bind_eq_ok]
      constructor
      · intro ⟨w, hw, hrest⟩
        obtain ⟨ws', hws', heq⟩ := map_eq_ok.mp hrest
        exact ⟨w, ws', hw, ih.mp hws', heq.symm⟩
      · intro ⟨w, ws', hw, hws', heq⟩
        exact ⟨w, hw, map_eq_ok.mpr ⟨ws', ih.mpr hws', heq.symm⟩⟩

/-- How an entry is written. -/
def WrittenAs (e : PayloadKey × PayloadValue) (f : String × Json) : Prop :=
  e.1 = .text (codePoints f.1) ∧ jsonOf e.2 = .ok f.2

theorem jsonFields_eq_ok {entries : List (PayloadKey × PayloadValue)}
    {fields : List (String × Json)} :
    jsonFields entries = .ok fields ↔ List.Forall₂ WrittenAs entries fields := by
  induction entries generalizing fields with
  | nil =>
      rw [List.forall₂_nil_left_iff, jsonFields]
      exact ⟨fun h => (Except.ok.inj h).symm, fun h => by rw [h]⟩
  | cons e entries ih =>
      obtain ⟨key, v⟩ := e
      rw [List.forall₂_cons_left_iff]
      cases key with
      | other =>
          rw [jsonFields]
          constructor
          · intro h
            cases h
          · rintro ⟨f, _, ⟨hname, _⟩, _⟩
            cases hname
      | text name =>
          simp only [jsonFields, bind_eq_ok, encodedText_eq_ok]
          constructor
          · rintro ⟨s, hs, w, hw, fields', hfields, heq⟩
            exact ⟨(s, w), fields', ⟨by rw [hs], hw⟩, ih.mp hfields, (Except.ok.inj heq).symm⟩
          · rintro ⟨f, fields', ⟨hname, hw⟩, hfields, heq⟩
            exact ⟨f.1, PayloadKey.text.inj hname, f.2, hw, fields', ih.mpr hfields, by
              rw [heq]
              rfl⟩

theorem validateItems_eq_ok {depth : Nat} {items : List PayloadValue} :
    validateItems depth items = .ok () ↔ ∀ v ∈ items, validateJson depth v = .ok () := by
  induction items with
  | nil => simp [validateItems]
  | cons v items ih =>
      rw [validateItems, List.forall_mem_cons, ← ih, bind_eq_ok]
      exact ⟨fun ⟨_, h⟩ => h, fun h => ⟨(), h⟩⟩

theorem validateEntries_eq_ok {depth : Nat} {entries : List (PayloadKey × PayloadValue)} :
    validateEntries depth entries = .ok () ↔
      ∀ e ∈ entries, (∃ name, e.1 = .text name) ∧ validateJson depth e.2 = .ok () := by
  induction entries with
  | nil => simp [validateEntries]
  | cons e entries ih =>
      obtain ⟨key, v⟩ := e
      rw [List.forall_mem_cons, ← ih]
      cases key with
      | other =>
          rw [validateEntries]
          constructor
          · intro h
            cases h
          · intro ⟨⟨⟨name, hname⟩, _⟩, _⟩
            cases hname
      | text name =>
          rw [validateEntries, bind_eq_ok]
          constructor
          · intro ⟨_, hv, hentries⟩
            exact ⟨⟨⟨name, rfl⟩, hv⟩, hentries⟩
          · intro ⟨⟨_, hv⟩, hentries⟩
            exact ⟨(), hv, hentries⟩

/-- The names that are written are the keys. -/
theorem names_of_written {entries : List (PayloadKey × PayloadValue)}
    {fields : List (String × Json)} (h : List.Forall₂ WrittenAs entries fields) :
    entries.filterMap (fun e => e.1.name?) = fields.map fun f => codePoints f.1 := by
  induction h with
  | nil => rfl
  | cons hentry _ ih =>
      rw [List.filterMap_cons, hentry.1, List.map_cons, ← ih]
      rfl

/-- **What is written can be read back.** -/
theorem readable_of_jsonOf {v : PayloadValue} (hv : v.WellFormed) {w : Json}
    (h : jsonOf v = .ok w) : w.Readable intMaxStrDigits := by
  induction v using PayloadValue.induction generalizing w with
  | none | bool b =>
      obtain rfl := Except.ok.inj h
      trivial
  | int n =>
      simp only [jsonOf, bind_eq_ok, ensure_eq_ok] at h
      obtain ⟨_, hlength, heq⟩ := h
      obtain rfl := Except.ok.inj heq
      exact hlength
  | float f =>
      simp only [jsonOf, bind_eq_ok, ensure_eq_ok] at h
      obtain ⟨_, hfinite, heq⟩ := h
      obtain rfl := Except.ok.inj heq
      exact hv hfinite
  | text s =>
      simp only [jsonOf, bind_eq_ok] at h
      obtain ⟨_, _, heq⟩ := h
      obtain rfl := Except.ok.inj heq
      trivial
  | mapping kind entries ih =>
      cases kind with
      | other => cases h
      | dict =>
          obtain ⟨fields, hfields, heq⟩ := bind_eq_ok.mp h
          obtain rfl := Except.ok.inj heq
          have hwritten := jsonFields_eq_ok.mp hfields
          have hnames := names_of_written hwritten
          obtain ⟨hnodup, hentries⟩ := hv
          constructor
          · rw [hnames, ← Function.comp_def codePoints, ← List.map_map] at hnodup
            exact hnodup.of_map
          · rw [readableFields_iff]
            intro f hf
            obtain ⟨e, he, -, hvalue⟩ := exists_of_forall₂ hwritten hf
            exact ih e he (wellFormedEntries_iff.mp hentries e he) hvalue
  | sequence kind items ih =>
      have hitems : ∃ ws, jsonItems items = .ok ws ∧ w = .arr ws := by
        cases kind with
        | other => cases h
        | list | tuple =>
            obtain ⟨ws, hws, heq⟩ := bind_eq_ok.mp h
            exact ⟨ws, hws, (Except.ok.inj heq).symm⟩
      obtain ⟨ws, hws, rfl⟩ := hitems
      show readableItems intMaxStrDigits ws
      rw [readableItems_iff]
      intro w hw
      obtain ⟨v, hv', hvalue⟩ := exists_of_forall₂ (jsonItems_eq_ok.mp hws) hw
      exact ih v hv' (wellFormedItems_iff.mp hv v hv') hvalue
  | other => cases h

/-- **What is written is equal to the object.** -/
theorem matches_of_jsonOf {v : PayloadValue} {w : Json} (h : jsonOf v = .ok w) :
    v.Matches w.canon := by
  induction v using PayloadValue.induction generalizing w with
  | none =>
      obtain rfl := Except.ok.inj h
      exact .none
  | bool b =>
      obtain rfl := Except.ok.inj h
      exact .bool b
  | int n =>
      obtain ⟨_, _, heq⟩ := bind_eq_ok.mp h
      obtain rfl := Except.ok.inj heq
      exact .int n
  | float f =>
      obtain ⟨_, _, heq⟩ := bind_eq_ok.mp h
      obtain rfl := Except.ok.inj heq
      exact .float f
  | text s =>
      obtain ⟨t, ht, heq⟩ := bind_eq_ok.mp h
      obtain rfl := Except.ok.inj heq
      obtain rfl := encodedText_eq_ok.mp ht
      exact .text t
  | mapping kind entries ih =>
      cases kind with
      | other => cases h
      | dict =>
          obtain ⟨fields, hfields, heq⟩ := bind_eq_ok.mp h
          obtain rfl := Except.ok.inj heq
          have hall : ∀ {es : List (PayloadKey × PayloadValue)} {fs : List (String × Json)},
              List.Forall₂ WrittenAs es fs → (∀ e ∈ es, e ∈ entries) →
              MatchesFields es (canonFields fs) := by
            intro es fs hwritten hsub
            induction hwritten with
            | nil => exact .nil
            | @cons e f es fs hentry _ ihfields =>
                obtain ⟨hhead, htail⟩ := List.forall_mem_cons.mp hsub
                obtain ⟨key, v⟩ := e
                obtain ⟨rfl, hvalue⟩ := hentry
                exact .cons (ih _ hhead hvalue) (ihfields htail)
          exact .mapping (hall (jsonFields_eq_ok.mp hfields) fun _ he => he) (perm_sortFields _)
  | sequence kind items ih =>
      have hitems : ∃ ws, jsonItems items = .ok ws ∧ w = .arr ws := by
        cases kind with
        | other => cases h
        | list | tuple =>
            obtain ⟨ws, hws, heq⟩ := bind_eq_ok.mp h
            exact ⟨ws, hws, (Except.ok.inj heq).symm⟩
      obtain ⟨ws, hws, rfl⟩ := hitems
      have hall : ∀ {vs : List PayloadValue} {ws : List Json},
          List.Forall₂ (fun v w => jsonOf v = .ok w) vs ws → (∀ v ∈ vs, v ∈ items) →
          MatchesItems vs (canonItems ws) := by
        intro vs ws hwritten hsub
        induction hwritten with
        | nil => exact .nil
        | cons hvalue _ ihitems =>
            obtain ⟨hhead, htail⟩ := List.forall_mem_cons.mp hsub
            exact .cons (ih _ hhead hvalue) (ihitems htail)
      exact .sequence (hall (jsonItems_eq_ok.mp hws) fun _ hv => hv)
  | other => cases h

theorem mem_ofItems {items : List Json} {v : PayloadValue} :
    v ∈ ofItems items ↔ ∃ w ∈ items, v = .ofJson w := by
  induction items with
  | nil => simp [ofItems]
  | cons w items ih => simp [ofItems, ih]

theorem mem_ofFields {fields : List (String × Json)} {e : PayloadKey × PayloadValue} :
    e ∈ ofFields fields ↔ ∃ f ∈ fields, e = (.text (codePoints f.1), .ofJson f.2) := by
  induction fields with
  | nil => simp [ofFields]
  | cons f fields ih => simp [ofFields, ih]

/-- **What was valid is valid when it comes back**, at no greater depth. -/
theorem validateJson_ofJson {v : PayloadValue} {w : Json} (h : jsonOf v = .ok w) {depth : Nat}
    (hv : validateJson depth v = .ok ()) {depth' : Nat} (hle : depth' ≤ depth) :
    validateJson depth' (.ofJson w.canon) = .ok () := by
  induction v using PayloadValue.induction generalizing w depth depth' with
  | none | bool b =>
      obtain rfl := Except.ok.inj h
      have hdepth : depth ≤ 12 := ensure_eq_ok.mp hv
      exact ensure_eq_ok.mpr (hle.trans hdepth)
  | int n =>
      obtain ⟨_, _, heq⟩ := bind_eq_ok.mp h
      obtain rfl := Except.ok.inj heq
      have hdepth : depth ≤ 12 := ensure_eq_ok.mp hv
      exact ensure_eq_ok.mpr (hle.trans hdepth)
  | text s =>
      obtain ⟨t, _, heq⟩ := bind_eq_ok.mp h
      obtain rfl := Except.ok.inj heq
      have hdepth : depth ≤ 12 := ensure_eq_ok.mp hv
      exact ensure_eq_ok.mpr (hle.trans hdepth)
  | float f =>
      obtain ⟨_, _, heq⟩ := bind_eq_ok.mp h
      obtain rfl := Except.ok.inj heq
      obtain ⟨_, hdepth, hfinite⟩ := bind_eq_ok.mp hv
      exact bind_eq_ok.mpr ⟨(), ensure_eq_ok.mpr (hle.trans (ensure_eq_ok.mp hdepth)), hfinite⟩
  | mapping kind entries ih =>
      cases kind with
      | other => cases h
      | dict =>
          obtain ⟨fields, hfields, heq⟩ := bind_eq_ok.mp h
          obtain rfl := Except.ok.inj heq
          obtain ⟨_, hdepth, hentries⟩ := bind_eq_ok.mp hv
          refine bind_eq_ok.mpr ⟨(), ensure_eq_ok.mpr (hle.trans (ensure_eq_ok.mp hdepth)), ?_⟩
          rw [validateEntries_eq_ok] at hentries ⊢
          intro e he
          obtain ⟨f, hf, rfl⟩ := mem_ofFields.mp he
          refine ⟨⟨_, rfl⟩, ?_⟩
          have hmem := (perm_sortFields _).subset hf
          rw [canonFields_eq_map] at hmem
          obtain ⟨field, hfield, rfl⟩ := List.mem_map.mp hmem
          obtain ⟨e, he, -, hvalue⟩ := exists_of_forall₂ (jsonFields_eq_ok.mp hfields) hfield
          exact ih e he hvalue (hentries e he).2 (Nat.succ_le_succ hle)
  | sequence kind items ih =>
      have hitems : ∃ ws, jsonItems items = .ok ws ∧ w = .arr ws := by
        cases kind with
        | other => cases h
        | list | tuple =>
            obtain ⟨ws, hws, heq⟩ := bind_eq_ok.mp h
            exact ⟨ws, hws, (Except.ok.inj heq).symm⟩
      obtain ⟨ws, hws, rfl⟩ := hitems
      obtain ⟨_, hdepth, hvalues⟩ := bind_eq_ok.mp hv
      refine bind_eq_ok.mpr ⟨(), ensure_eq_ok.mpr (hle.trans (ensure_eq_ok.mp hdepth)), ?_⟩
      rw [validateItems_eq_ok] at hvalues ⊢
      intro v hv'
      obtain ⟨w, hw, rfl⟩ := mem_ofItems.mp hv'
      rw [canonItems_eq_map] at hw
      obtain ⟨item, hitem, rfl⟩ := List.mem_map.mp hw
      obtain ⟨v, hv', hvalue⟩ := exists_of_forall₂ (jsonItems_eq_ok.mp hws) hitem
      exact ih v hv' hvalue (hvalues v hv') (Nat.succ_le_succ hle)
  | other => cases h

/-! ## Round trip -/

variable {Entropy : Type}

/-- What is known of Fernet: a token opens to what was encrypted, and nothing else opens. -/
structure Fernet.Authenticated (fernet : Fernet Entropy) : Prop where
  opens : ∀ entropy plaintext,
    fernet.decrypt none (fernet.encrypt entropy plaintext) = some plaintext
  authentic : ∀ expiry token plaintext, fernet.decrypt expiry token = some plaintext →
    ∃ entropy, token = fernet.encrypt entropy plaintext
  nonempty : ∀ entropy plaintext, fernet.encrypt entropy plaintext ≠ []

section RoundTrip

variable {floats : FloatData} {fernet : Fernet Entropy}

/-- The document that a token opens to. -/
def documentOf (floats : FloatData) (plaintext : Bytes) (purpose : PyText) : Option Json :=
  (decodeUtf8? plaintext).bind fun text =>
    (loads intMaxStrDigits text.toList).bind (opened floats purpose)

/-- What is written of an envelope. -/
theorem jsonOf_envelope {payload : PayloadValue} {purpose : PyText} {written : Json}
    (h : jsonOf (envelope payload purpose) = .ok written) :
    ∃ document s, jsonOf payload = .ok document ∧ purpose = codePoints s ∧
      written = .obj [("payload", document), ("purpose", .str s), ("version", .int 1)] := by
  have hname : ∀ {name s : String}, codePoints name = codePoints s → s = name := fun h =>
    (codePoints_injective h).symm
  obtain ⟨fields, hfields, heq⟩ := bind_eq_ok.mp h
  obtain rfl := Except.ok.inj heq
  simp only [jsonFields, bind_eq_ok, encodedText_eq_ok] at hfields
  obtain ⟨name, hpayload, document, hdocument, fields₁, hfields₁, heq₁⟩ := hfields
  obtain ⟨name₁, hpurpose, value₁, hvalue₁, fields₂, hfields₂, heq₂⟩ := hfields₁
  obtain ⟨name₂, hversion, value₂, hvalue₂, fields₃, hfields₃, heq₃⟩ := hfields₂
  obtain ⟨s, hs, heq⟩ := bind_eq_ok.mp hvalue₁
  obtain ⟨_, _, heq'⟩ := bind_eq_ok.mp hvalue₂
  refine ⟨document, s, hdocument, encodedText_eq_ok.mp hs, ?_⟩
  rw [← Except.ok.inj heq₁, ← Except.ok.inj heq₂, ← Except.ok.inj heq₃, ← Except.ok.inj hfields₃,
    ← Except.ok.inj heq, ← Except.ok.inj heq', hname hpayload, hname hpurpose, hname hversion]

/-- The plaintext of an envelope, and what it is read as. -/
theorem plaintext_spec {payload : PayloadValue} (hwell : payload.WellFormed) {purpose : PyText}
    {plaintext : Bytes} (h : canonicalJsonBytes (envelope payload purpose) = .ok plaintext) :
    ∃ document, jsonOf payload = .ok document ∧ validateJson 1 payload = .ok () ∧
      ∀ purpose', documentOf floats plaintext purpose' =
        if purpose = purpose' then some document.canon else none := by
  obtain ⟨_, hvalid, h⟩ := bind_eq_ok.mp h
  obtain ⟨written, hwritten, h⟩ := bind_eq_ok.mp h
  obtain rfl := Except.ok.inj h
  have hpayload : validateJson 1 payload = .ok () := by
    obtain ⟨_, _, hentries⟩ := bind_eq_ok.mp hvalid
    exact (validateEntries_eq_ok.mp hentries _ List.mem_cons_self).2
  have henvelope : (envelope payload purpose).WellFormed := by
    refine ⟨?_, hwell, trivial, trivial, trivial⟩
    show [codePoints "payload", codePoints "purpose", codePoints "version"].Nodup
    decide
  have hread := loads_dumps intMaxStrDigits (readable_of_jsonOf henvelope hwritten)
  obtain ⟨document, s, hdocument, rfl, rfl⟩ := jsonOf_envelope hwritten
  refine ⟨document, hdocument, hpayload, ?_⟩
  intro purpose'
  have hcanon : (Json.obj [("payload", document), ("purpose", .str s), ("version", .int 1)]).canon =
      .obj [("payload", document.canon), ("purpose", .str s), ("version", .int 1)] := by
    simp [Json.canon, canonFields, sortFields]
  rw [documentOf, decodeUtf8?_encodeUtf8, Option.bind_some, String.toList_ofList, hread, hcanon]
  simp [opened, Dict.find, equalsInt]

/-- A token that encrypts an envelope of the purpose. -/
def IsSealed (floats : FloatData) (fernet : Fernet Entropy) (purpose : PyText) (token : Bytes) :
    Prop :=
  ∃ entropy plaintext payload, token = fernet.encrypt entropy plaintext ∧
    documentOf floats plaintext purpose = some payload

/-- Nothing is returned that no envelope of the purpose holds. -/
theorem isSealed_of_decryptJson (hfernet : fernet.Authenticated) {expiry : Option (Int × Nat)}
    {token : Bytes} {purpose : PyText} {payload : Json}
    (h : decryptJson floats fernet expiry token purpose = .ok payload) :
    ∃ entropy plaintext, token = fernet.encrypt entropy plaintext ∧
      documentOf floats plaintext purpose = some payload := by
  unfold decryptJson at h
  split at h
  · cases h
  · split at h
    · cases h
    · next document hdocument =>
        split at h
        · cases h
        · next opened hopened =>
            split at h
            · obtain rfl := Except.ok.inj h
              obtain ⟨text, htext, hloads⟩ := Option.bind_eq_some_iff.mp hdocument
              obtain ⟨plaintext, hplaintext, hdecoded⟩ := Option.bind_eq_some_iff.mp htext
              obtain ⟨entropy, hentropy⟩ := hfernet.authentic _ _ _ hplaintext
              refine ⟨entropy, plaintext, hentropy, ?_⟩
              rw [documentOf, hdecoded, Option.bind_some, hloads]
              exact hopened
            · cases h

/-- An envelope that was encrypted is decrypted. -/
theorem decryptJson_encrypt (hfernet : fernet.Authenticated) {entropy : Entropy}
    {plaintext : Bytes} {purpose : PyText} {payload : Json}
    (h : documentOf floats plaintext purpose = some payload)
    (hvalid : validateJson 0 (.ofJson payload) = .ok ()) :
    decryptJson floats fernet none (fernet.encrypt entropy plaintext) purpose = .ok payload := by
  obtain ⟨text, htext, h⟩ := Option.bind_eq_some_iff.mp h
  obtain ⟨document, hdocument, hopened⟩ := Option.bind_eq_some_iff.mp h
  rw [decryptJson, if_neg (hfernet.nonempty entropy plaintext), hfernet.opens, Option.bind_some,
    htext, Option.bind_some, hdocument]
  dsimp only
  rw [hopened]
  dsimp only
  rw [hvalid]

/-- **What is encrypted comes back under its purpose, and nothing comes back otherwise.** -/
theorem encryptJson_roundTrip (hfernet : fernet.Authenticated) {payload : PayloadValue}
    (hwell : payload.WellFormed) {entropy : Entropy} {purpose : PyText} {token : Bytes}
    (h : encryptJson fernet entropy payload purpose = .ok token) :
    (∃ payload', decryptJson floats fernet none token purpose = .ok payload' ∧
      payload.Matches payload') ∧
    (∀ expiry purpose', purpose' ≠ purpose →
      ∃ e, decryptJson floats fernet expiry token purpose' = .error e) ∧
    ∀ expiry altered purpose', ¬IsSealed floats fernet purpose' altered →
      ∃ e, decryptJson floats fernet expiry altered purpose' = .error e := by
  obtain ⟨_, _, h⟩ := bind_eq_ok.mp h
  obtain ⟨plaintext, hplaintext, h⟩ := bind_eq_ok.mp h
  obtain rfl := Except.ok.inj h
  obtain ⟨document, hdocument, hvalid, hopens⟩ := @plaintext_spec floats _ hwell _ _ hplaintext
  refine ⟨⟨document.canon, ?_, matches_of_jsonOf hdocument⟩, ?_, ?_⟩
  · apply decryptJson_encrypt hfernet
    · rw [hopens, if_pos rfl]
    · exact validateJson_ofJson hdocument hvalid (Nat.zero_le 1)
  · intro expiry purpose' hne
    cases hresult : decryptJson floats fernet expiry (fernet.encrypt entropy plaintext) purpose' with
    | error e => exact ⟨e, rfl⟩
    | ok payload' =>
        obtain ⟨entropy', plaintext', htoken, hpayload⟩ := isSealed_of_decryptJson hfernet hresult
        have hsame : plaintext' = plaintext := by
          have hopen := hfernet.opens entropy' plaintext'
          rw [← htoken, hfernet.opens] at hopen
          exact (Option.some.inj hopen).symm
        rw [hsame, hopens, if_neg (Ne.symm hne)] at hpayload
        cases hpayload
  · intro expiry altered purpose' hsealed
    cases hresult : decryptJson floats fernet expiry altered purpose' with
    | error e => exact ⟨e, rfl⟩
    | ok payload' =>
        obtain ⟨entropy', plaintext', htoken, hpayload⟩ := isSealed_of_decryptJson hfernet hresult
        exact absurd ⟨entropy', plaintext', payload', htoken, hpayload⟩ hsealed

end RoundTrip

/-! ## A payload with a tuple -/

section Sample

/-- A box that opens to what was put into it. -/
def boxFernet : Fernet Unit where
  encrypt _ plaintext := 0 :: plaintext
  decrypt _ token := if token.head? = some 0 then some token.tail else none

theorem boxFernet_authenticated : boxFernet.Authenticated where
  opens _ _ := rfl
  authentic _ token plaintext h := by
    refine ⟨(), ?_⟩
    cases token with
    | nil => cases h
    | cons b token =>
        by_cases hb : b = 0
        · subst hb
          have hplaintext : token = plaintext := Option.some.inj h
          rw [← hplaintext]
          rfl
        · have hnone : boxFernet.decrypt none (b :: token) = none := if_neg (by simpa using hb)
          have hsome : boxFernet.decrypt none (b :: token) = some plaintext := h
          rw [hnone] at hsome
          cases hsome
  nonempty _ _ := List.cons_ne_nil _ _

/-- `{"città": "Forlì", "turni": (1, [True, None])}`. -/
def shiftsPayload : PayloadValue :=
  .mapping .dict [(.text (codePoints "città"), .text (codePoints "Forlì")),
    (.text (codePoints "turni"),
      .sequence .tuple [.int 1, .sequence .list [.bool true, .none]])]

theorem shiftsPayload_wellFormed : shiftsPayload.WellFormed := by
  refine ⟨?_, trivial, ⟨trivial, ⟨⟨trivial, trivial, trivial⟩, trivial⟩⟩, trivial⟩
  show [codePoints "città", codePoints "turni"].Nodup
  decide

/-- No float is needed here. -/
def noFloats : FloatData where
  integer _ := none

theorem encryptJson_roundTrip_shifts :
    ∃ token, encryptJson boxFernet () shiftsPayload (codePoints "preview") = .ok token ∧
      (∃ payload', decryptJson noFloats boxFernet none token (codePoints "preview") = .ok payload' ∧
        shiftsPayload.Matches payload') ∧
      (∀ expiry purpose', purpose' ≠ codePoints "preview" →
        ∃ e, decryptJson noFloats boxFernet expiry token purpose' = .error e) ∧
      ∀ expiry altered purpose', ¬IsSealed noFloats boxFernet purpose' altered →
        ∃ e, decryptJson noFloats boxFernet expiry altered purpose' = .error e := by
  have haccepted : (encryptJson boxFernet () shiftsPayload
      (codePoints "preview")).toOption.isSome = true := by
    decide
  cases htoken : encryptJson boxFernet () shiftsPayload (codePoints "preview") with
  | error e =>
      rw [htoken] at haccepted
      cases haccepted
  | ok token =>
      exact ⟨token, rfl,
        encryptJson_roundTrip boxFernet_authenticated shiftsPayload_wellFormed htoken⟩

end Sample

end BhDic.Security
