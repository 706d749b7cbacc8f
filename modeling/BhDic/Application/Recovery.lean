import BhDic.Application.Preparation
import BhDic.Approvals.Lifecycle
import BhDic.Library.Trace

/-!
# What is recovered of a prepared write

The parameters of an action come back from its payload as they were previewed. Its motivation comes
back normalised, and is validated a second time: a motivation that loses characters on the way can
turn out too short, after the action has been confirmed and approved.
-/

namespace BhDic.Application

open BhDic.Approvals BhDic.Dic BhDic.Library BhDic.Policies BhDic.Python BhDic.Security

/-! ## Documents that come back -/

theorem eq_of_scalar_same {v w : Json} (h : IsScalar v) (hsame : v.Same w) : w = v := by
  cases v with
  | str s => cases w <;> simp_all [Json.Same, Json.canon]
  | int n => cases w <;> simp_all [Json.Same, Json.canon]
  | bool b => cases w <;> simp_all [Json.Same, Json.canon]
  | _ => exact h.elim

theorem asTexts_same {texts : List String} {w : Json} (h : (textsJson texts).Same w) :
    asTexts w = some texts := by
  cases w with
  | arr items =>
      have hcanon : canonItems (texts.map .str) = canonItems items := by
        simpa [textsJson, Json.Same, Json.canon] using h
      show items.mapM asText = some texts
      induction texts generalizing items with
      | nil =>
          cases items with
          | nil => rfl
          | cons v items => cases hcanon
      | cons text texts ih =>
          cases items with
          | nil => cases hcanon
          | cons v items =>
              obtain ⟨hv, hitems⟩ := List.cons.inj hcanon
              obtain rfl : v = .str text := eq_of_scalar_same (v := .str text) trivial hv
              have hrest : (textsJson texts).Same (.arr items) := congrArg Json.arr hitems
              rw [List.mapM_cons, ih _ hrest hitems]
              rfl
  | _ => cases h

theorem asMapping_same {d : Dict String Json} {w : Json} (h : (Json.obj d.items).Same w) :
    ∃ d', asMapping w = some d' ∧ ∀ name, Option.Rel Json.Same (d.get? name) (d'.get? name) := by
  obtain ⟨fields, rfl, hnodup⟩ := same_obj_left d.nodup h
  exact ⟨⟨fields, hnodup⟩, dif_pos hnodup, fun name => h.find d.nodup name⟩

/-- A field of the same mapping. -/
theorem get?_same {d d' : Dict String Json}
    (h : ∀ name, Option.Rel Json.Same (d.get? name) (d'.get? name)) {name : String} {v : Json}
    (hv : d.get? name = some v) : ∃ w, d'.get? name = some w ∧ v.Same w := by
  have hrel := h name
  rw [hv] at hrel
  cases hd : d'.get? name with
  | none =>
      rw [hd] at hrel
      cases hrel
  | some w =>
      rw [hd] at hrel
      cases hrel with
      | some hsame => exact ⟨w, rfl, hsame⟩


/-! ## The payload -/

section Payload

variable {c : Preparer} {actor : Requester} {p : Dict String Json}

/-- The payload as a mapping. -/
def payloadMapping (actor : Requester) (p : Dict String Json) : Dict String Json :=
  ⟨[("version", .int 1), ("parameters", .obj p.items),
    ("requester_context", requesterContext actor)], by simp⟩

def contextMapping (actor : Requester) : Dict String Json :=
  ⟨[("user_id", .str (toString actor.userId)), ("guild_id", .str (toString actor.guildId)),
    ("channel_id", .str (toString actor.channelId)),
    ("logical_roles", textsJson (sortedNames actor.logicalRoles)),
    ("entitlements", textsJson (sortedNames actor.entitlements))], by simp⟩

/-- The requester as it comes back: its roles and entitlements are sorted. -/
def Requester.sorted (actor : Requester) : Requester :=
  { actor with
    logicalRoles := sortedNames actor.logicalRoles
    entitlements := sortedNames actor.entitlements }

theorem identityOf_same {u : UnicodeData} {context : Dict String Json}
    (h : ∀ name, Option.Rel Json.Same ((contextMapping actor).get? name) (context.get? name))
    {name : String} {n : Int}
    (hname : (contextMapping actor).get? name = some (.str (toString n))) :
    identityOf u context name = .ok n := by
  obtain ⟨w, hw, hsame⟩ := get?_same h hname
  obtain rfl := eq_of_scalar_same (v := .str _) trivial hsame
  simp only [identityOf, hw, readInt_toString]

theorem decodeRequester_same {u : UnicodeData} {context : Dict String Json}
    (h : ∀ name, Option.Rel Json.Same ((contextMapping actor).get? name) (context.get? name)) :
    decodeRequester u context = .ok actor.sorted := by
  have hfield : ∀ name v, (contextMapping actor).get? name = some v →
      ∃ w, context.get? name = some w ∧ v.Same w := fun name v => get?_same h
  obtain ⟨roles, hroles, hrolesSame⟩ := hfield "logical_roles" _ rfl
  obtain ⟨entitlements, hentitlements, hentitlementsSame⟩ := hfield "entitlements" _ rfl
  have huser : identityOf u context "user_id" = .ok actor.userId := identityOf_same h rfl
  have hguild : identityOf u context "guild_id" = .ok actor.guildId := identityOf_same h rfl
  have hchannel : identityOf u context "channel_id" = .ok actor.channelId := identityOf_same h rfl
  simp only [decodeRequester, hroles, hentitlements, Option.bind_some, asTexts_same hrolesSame,
    asTexts_same hentitlementsSame, huser, hguild, hchannel]
  rfl

/-- The parameters and the requester of an action come back from its payload. -/
theorem decodePendingPayload_prepared {action : PendingAction} {nonce : Bytes}
    (hscalar : ∀ name value, p.get? name = some value → IsScalar value)
    (htoken : c.cipher.encryptJson nonce (pendingPayload actor p) = .ok action.encryptedParameters)
    (hrequester : validateRequesterBinding actor.sorted action = .ok ()) :
    ∃ p', decodePendingPayload c action = .ok (p', actor.sorted) ∧
      ∀ name, p'.get? name = p.get? name := by
  obtain ⟨document, hdecrypt, hsame⟩ := c.cipher.roundTrips htoken
  obtain ⟨payload, hpayload, hfields⟩ := asMapping_same (d := payloadMapping actor p) hsame
  have hfield : ∀ name v, (payloadMapping actor p).get? name = some v →
      ∃ w, payload.get? name = some w ∧ v.Same w := fun name v => get?_same hfields
  obtain ⟨version, hversion, hone⟩ := hfield "version" _ rfl
  obtain rfl := eq_of_scalar_same (v := .int 1) trivial hone
  obtain ⟨parameters, hparameters, hparametersSame⟩ := hfield "parameters" _ rfl
  obtain ⟨context, hcontext, hcontextSame⟩ := hfield "requester_context" _ rfl
  obtain ⟨p', hp', hvalues⟩ := asMapping_same hparametersSame
  obtain ⟨context', hcontext', hidentity⟩ :=
    asMapping_same (d := contextMapping actor) hcontextSame
  refine ⟨p', ?_, ?_⟩
  · have hfilter : (asMapping document).filter
        (fun payload => isVersionOne (payload.get? "version")) = some payload := by
      rw [hpayload, Option.filter_some, hversion]
      rfl
    rw [decodePendingPayload, hdecrypt]
    show decodeDocument _ action document = _
    simp only [decodeDocument, hfilter, hparameters, hcontext, Option.bind_some, hp', hcontext',
      decodeRequester_same hidentity]
    show (validateRequesterBinding actor.sorted action).bind _ = _
    rw [hrequester]
    rfl
  · intro name
    cases hname : p.get? name with
    | none =>
        have hrel := hvalues name
        rw [hname] at hrel
        cases hget : p'.get? name with
        | none => rfl
        | some w =>
            rw [hget] at hrel
            cases hrel
    | some value =>
        obtain ⟨w, hw, hsame⟩ := get?_same hvalues hname
        rw [hw, eq_of_scalar_same (hscalar name value hname) hsame]

end Payload

/-! ## What is stored -/

section Stored

variable {c : Preparer} {actor : Requester} {correlationId : String} {intent : Intent}
  {nonce : Bytes} {random : RandomReadings} {r : Readings}

/-- What the record of a prepared action says of the request. -/
structure StoredFor (c : Preparer) (actor : Requester) (functionId : String)
    (validated : Dict String Json) (a : PendingAction) : Prop where
  functionId : a.functionId = functionId
  payload : ∃ nonce, c.cipher.encryptJson nonce
    (pendingPayload actor (validated.erase "motivation")) = .ok a.encryptedParameters
  binding : validateRequesterBinding actor.sorted a = .ok ()
  motivation : cleanMotivation c.approvals.unicode (motivationOf validated) = .ok a.motivation

theorem validatedForWrite_eq_ok {u : UnicodeData} {spec : FunctionSpec}
    {parameters validated : Dict String Json} :
    validatedForWrite u spec parameters = .ok validated ↔
      validateWriteParameters u spec parameters = .ok validated := by
  unfold validatedForWrite
  cases validateWriteParameters u spec parameters <;> simp

theorem prepare_calls {svc : ApprovalService} {req : PrepareRequest}
    {answers : List repositoryEffect.Answered} {a : PendingAction}
    (h : Prog.Calls (prepare svc req random r) answers (.insert a)) :
    ∃ prepared, preparedAction svc req random r = .ok prepared ∧ prepared.action = a := by
  rcases Prog.calls_bind.mp h with h | ⟨_, _, _, -, -, h⟩
  · exact (Prog.calls_require.mp h).elim
  rcases Prog.calls_bind.mp h with h | ⟨prepared, _, _, -, hprepared, h⟩
  · exact (Prog.calls_ofExcept.mp h).elim
  obtain ⟨-, hprepared⟩ := Prog.returns_ofExcept.mp hprepared
  refine ⟨prepared, hprepared, ?_⟩
  rcases Prog.calls_bind.mp h with h | ⟨_, _, _, -, -, h⟩
  · rcases Prog.calls_bind.mp h with h | ⟨_, _, _, -, -, h⟩
    · obtain ⟨-, ho⟩ := Prog.calls_ask.mp h
      exact RepositoryOp.insert.inj ho
    · exact (Prog.calls_ofExcept.mp h).elim
  · exact h.elim

/-- What was computed before an action is stored. -/
theorem storePrepared_insert {spec : FunctionSpec} {validated : Dict String Json}
    {answers : List (repositoryEffect.sum readsEffect).Answered} {a : PendingAction}
    (h : Prog.Calls (storePrepared c actor correlationId intent spec validated nonce random r)
      answers (.inl (.insert a))) :
    ∃ snapshot redacted redactedBefore request prepared,
      c.previewChangesResource spec
        (buildWritePreview spec (validated.erase "motivation") snapshot.before) = true ∧
      c.redactWritePreviewValues (validated.erase "motivation")
        "redacted parameters must remain an object" = .ok redacted ∧
      c.redactWritePreviewValues snapshot.before
        "redacted resource snapshot must remain an object" = .ok redactedBefore ∧
      c.cipher.encryptJson nonce (pendingPayload actor (validated.erase "motivation")) =
        .ok request.encryptedParameters ∧
      request = {
        functionId := intent.functionId
        correlationId := correlationId
        requesterId := toString actor.userId
        guildId := toString actor.guildId
        channelId := toString actor.channelId
        targetEmployeeId := intent.employeeId
        encryptedParameters := request.encryptedParameters
        redactedDiff := (buildWritePreview spec redacted redactedBefore).map Change.toJson
        stateFingerprint := c.snapshots.fingerprint snapshot
        motivation := motivationOf validated } ∧
      preparedAction c.approvals request random r = .ok prepared ∧ prepared.action = a := by
  rcases Prog.calls_bind.mp h with h | ⟨snapshot, _, _, -, -, h⟩
  · exact (Prog.not_calls_inr h).elim
  rcases Prog.calls_bind.mp h with h | ⟨_, _, _, -, hchanges, h⟩
  · exact (Prog.calls_require.mp h).elim
  rcases Prog.calls_bind.mp h with h | ⟨redacted, _, _, -, hredacted, h⟩
  · exact (Prog.calls_ofExcept.mp h).elim
  rcases Prog.calls_bind.mp h with h | ⟨redactedBefore, _, _, -, hbefore, h⟩
  · exact (Prog.calls_ofExcept.mp h).elim
  rcases Prog.calls_bind.mp h with h | ⟨token, _, _, -, htoken, h⟩
  · exact (Prog.calls_ofExcept.mp h).elim
  rcases Prog.calls_bind.mp h with h | ⟨_, _, _, -, -, h⟩
  · obtain ⟨own, -, h⟩ := Prog.calls_inl.mp h
    obtain ⟨prepared, hprepared, ha⟩ := prepare_calls h
    exact ⟨snapshot, redacted, redactedBefore, _, prepared, (Prog.returns_require.mp hchanges).2,
      (Prog.returns_ofExcept.mp hredacted).2, (Prog.returns_ofExcept.mp hbefore).2,
      (Prog.returns_ofExcept.mp htoken).2, rfl, hprepared, ha⟩
  · exact h.elim

theorem storePrepared_calls {spec : FunctionSpec} {validated : Dict String Json}
    {answers : List (repositoryEffect.sum readsEffect).Answered} {a : PendingAction}
    (h : Prog.Calls (storePrepared c actor correlationId intent spec validated nonce random r)
      answers (.inl (.insert a))) : StoredFor c actor intent.functionId validated a := by
  obtain ⟨_, _, _, request, prepared, -, -, -, htoken, hrequest, hprepared, rfl⟩ :=
    storePrepared_insert h
  obtain ⟨spec', motivation, now, material, -, hmotivation, -, -, haction⟩ :=
    preparedAction_eq_ok hprepared
  rw [hrequest] at hmotivation
  rw [haction, hrequest]
  refine ⟨rfl, ⟨nonce, htoken⟩, ?_, hmotivation⟩
  exact ensure_eq_ok.mpr ⟨rfl, rfl, rfl⟩

/-- What `_prepare_write` stores, it has validated. -/
theorem prepareWrite_insert {answers : List (repositoryEffect.sum readsEffect).Answered}
    {a : PendingAction}
    (h : Prog.Calls (prepareWrite c actor correlationId intent nonce random r) answers
      (.inl (.insert a))) :
    ∃ spec validated rest, specOf intent.functionId = .ok spec ∧
      validateWriteParameters c.snapshots.unicode spec intent.parameters = .ok validated ∧
      Prog.Calls (storePrepared c actor correlationId intent spec validated nonce random r) rest
        (.inl (.insert a)) := by
  rcases Prog.calls_bind.mp h with h | ⟨spec, _, _, -, hspec, h⟩
  · exact (Prog.calls_ofExcept.mp h).elim
  obtain ⟨-, hspec⟩ := Prog.returns_ofExcept.mp hspec
  rcases Prog.calls_bind.mp h with h | ⟨validated, _, rest, -, hvalidated, h⟩
  · exact (Prog.calls_ofExcept.mp h).elim
  obtain ⟨-, hvalidated⟩ := Prog.returns_ofExcept.mp hvalidated
  refine ⟨spec, validated, rest, hspec, validatedForWrite_eq_ok.mp hvalidated, ?_⟩
  split at h
  · exact h.elim
  split at h
  · exact h.elim
  split at h
  · exact h.elim
  exact h

/-- What is stored by `_prepare_write` is stored for what it validated. -/
theorem prepareWrite_calls {answers : List (repositoryEffect.sum readsEffect).Answered}
    {a : PendingAction}
    (h : Prog.Calls (prepareWrite c actor correlationId intent nonce random r) answers
      (.inl (.insert a))) :
    ∃ spec validated, specOf intent.functionId = .ok spec ∧
      validateWriteParameters c.snapshots.unicode spec intent.parameters = .ok validated ∧
      StoredFor c actor intent.functionId validated a := by
  obtain ⟨spec, validated, _, hspec, hvalidated, h⟩ := prepareWrite_insert h
  exact ⟨spec, validated, hspec, hvalidated, storePrepared_calls h⟩

end Stored

/-! ## Validating a second time -/

section Revalidation

variable {u : UnicodeData} {spec : FunctionSpec} {parameters validated p : Dict String Json}

/-- There are only two parameters called `motivation`. -/
theorem functionCatalog_motivation : ∀ spec ∈ functionCatalog, ∀ p ∈ spec.writeParameters,
    p.name = "motivation" → p = requiredMotivation ∨ p = optionalMotivation := by
  decide

/-- A motivation is never one of the parameters a write asks for some of. -/
theorem functionCatalog_requiredAny : ∀ spec ∈ functionCatalog,
    "motivation" ∉ spec.writeRequiredAny := by
  decide

theorem validateText_motivation {q : WriteParameterSpec}
    (hq : q = requiredMotivation ∨ q = optionalMotivation) {text : String} {out : Json} :
    validateParameter u q (.str text) = .ok out ↔
      3 ≤ (strip text).length ∧ (strip text).length ≤ 500 ∧ out = .str (strip text) := by
  have hbounds : q.kind = .text ∧ q.minLength = some 3 ∧ q.maxLength = some 500 ∧
      q.pattern = none ∧ q.choices = [] := by
    rcases hq with rfl | rfl <;> decide
  obtain ⟨hkind, hmin, hmax, hpattern, hchoices⟩ := hbounds
  simp only [validateParameter, hkind, validateText, bind_eq_ok, ensure_eq_ok, hmin, hmax,
    hpattern, hchoices]
  constructor
  · rintro ⟨_, hshort, _, hlong, _, -, _, -, hout⟩
    exact ⟨hshort 3 rfl, hlong 500 rfl, (Except.ok.inj hout).symm⟩
  · rintro ⟨hshort, hlong, rfl⟩
    refine ⟨(), ?_, (), ?_, (), ?_, (), fun hne => absurd rfl hne, rfl⟩
    · rintro n ⟨⟩
      exact hshort
    · rintro n ⟨⟩
      exact hlong
    · rintro pattern ⟨⟩

/-- Only a text is a motivation. -/
theorem validateParameter_motivation {q : WriteParameterSpec}
    (hq : q = requiredMotivation ∨ q = optionalMotivation) {value out : Json}
    (h : validateParameter u q value = .ok out) : ∃ text, value = .str text := by
  cases value with
  | str text => exact ⟨text, rfl⟩
  | _ => rcases hq with rfl | rfl <;> cases h

theorem validateNamed_motivation (hspec : spec ∈ functionCatalog) {value out : Json}
    (h : spec.validateNamed u "motivation" value = .ok out) :
    ∃ text, value = .str text ∧ out = .str (strip text) ∧ 3 ≤ (strip text).length := by
  unfold FunctionSpec.validateNamed at h
  split at h
  · rename_i q hq
    have hname : q.name = "motivation" := by simpa using List.find?_some hq
    have hmotivation :=
      functionCatalog_motivation spec hspec q (List.mem_of_find?_eq_some hq) hname
    obtain ⟨text, rfl⟩ := validateParameter_motivation hmotivation h
    obtain ⟨hshort, -, hout⟩ := (validateText_motivation hmotivation).mp h
    exact ⟨text, rfl, hout, hshort⟩
  · cases h

/-- A motivation of the right length is one again. -/
theorem validateNamed_motivation_again (hspec : spec ∈ functionCatalog) {value out : Json}
    (h : spec.validateNamed u "motivation" value = .ok out) {text : String}
    (hstrip : strip text = text) (hlong : text.length ≤ 500) :
    (∃ out', spec.validateNamed u "motivation" (.str text) = .ok out') ↔ 3 ≤ text.length := by
  unfold FunctionSpec.validateNamed at h ⊢
  split at h
  · rename_i q hq
    have hname : q.name = "motivation" := by simpa using List.find?_some hq
    have hmotivation :=
      functionCatalog_motivation spec hspec q (List.mem_of_find?_eq_some hq) hname
    simp only [validateText_motivation hmotivation, hstrip]
    simp [hlong]
  · cases h

theorem get?_withMotivation (motivation : Option String) (name : String) :
    (withMotivation p motivation).get? name =
      if name = "motivation" ∧ motivation.isSome then motivation.map .str else p.get? name := by
  cases motivation with
  | none => simp [withMotivation]
  | some text => simp [withMotivation, Dict.get?_set]

/-- What has been validated is accepted again with another motivation if that is long enough. -/
theorem revalidated (hspec : spec ∈ functionCatalog)
    (hvalidated : validateWriteParameters u spec parameters = .ok validated)
    (hp : ∀ name, p.get? name = (validated.erase "motivation").get? name)
    {motivation : Option String}
    (hsome : motivation.isSome = (validated.get? "motivation").isSome)
    (hclean : ∀ text, motivation = some text → strip text = text ∧ text.length ≤ 500) :
    (∃ w, validateWriteParameters u spec (withMotivation p motivation) = .ok w) ↔
      ∀ text, motivation = some text → 3 ≤ text.length := by
  have hgiven : ∀ name, (withMotivation p motivation).get? name =
      if name = "motivation" then motivation.map .str else validated.get? name := by
    intro name
    rw [get?_withMotivation, hp, Dict.get?_erase]
    by_cases hname : name = "motivation"
    · cases motivation <;> simp [hname]
    · simp [hname]
  have hfirst := exists_validateWriteParameters.mp ⟨_, hvalidated⟩
  -- every value that was validated is accepted again
  have hagain : ∀ name value, validated.get? name = some value →
      spec.validateNamed u name value = .ok value := by
    intro name value hvalue
    obtain ⟨_, -, hout⟩ := (get?_validateWriteParameters hvalidated).mp hvalue
    exact (validateNamed_validated hout).1
  -- and everything that was given was validated
  have hkept : ∀ name, (∃ value, parameters.get? name = some value) →
      ∃ value, validated.get? name = some value := by
    rintro name ⟨value, hvalue⟩
    obtain ⟨out, hout⟩ := hfirst.valid name value hvalue
    exact ⟨out, (get?_validateWriteParameters hvalidated).mpr ⟨value, hvalue, hout⟩⟩
  have hmotivation : ∀ text, motivation = some text →
      ((∃ out, spec.validateNamed u "motivation" (.str text) = .ok out) ↔ 3 ≤ text.length) := by
    intro text htext
    rw [htext, Option.isSome_some] at hsome
    obtain ⟨value, hvalue⟩ := Option.isSome_iff_exists.mp hsome.symm
    obtain ⟨hstrip, hlong⟩ := hclean text htext
    exact validateNamed_motivation_again hspec (hagain _ _ hvalue) hstrip hlong
  rw [exists_validateWriteParameters]
  constructor
  · intro h text htext
    rw [← hmotivation text htext]
    apply h.valid
    rw [hgiven, if_pos rfl, htext]
    rfl
  · intro h
    constructor
    case isWrite => exact hfirst.isWrite
    case valid =>
      intro name value hvalue
      rw [hgiven] at hvalue
      split at hvalue
      · rename_i hname
        obtain ⟨text, htext, rfl⟩ := Option.map_eq_some_iff.mp hvalue
        rw [hname]
        exact (hmotivation text htext).mpr (h text htext)
      · exact ⟨value, hagain name value hvalue⟩
    case required =>
      intro q hq hrequired
      obtain ⟨value, hvalue⟩ := hkept q.name (hfirst.required q hq hrequired)
      rw [hgiven]
      split
      · rename_i hname
        rw [hname] at hvalue
        rw [hvalue, Option.isSome_some] at hsome
        obtain ⟨text, htext⟩ := Option.isSome_iff_exists.mp hsome
        exact ⟨.str text, by rw [htext]; rfl⟩
      · exact ⟨value, hvalue⟩
    case requiredAny =>
      intro hne
      obtain ⟨name, hname, hgivenName⟩ := hfirst.requiredAny hne
      obtain ⟨value, hvalue⟩ := hkept name hgivenName
      refine ⟨name, hname, value, ?_⟩
      rw [hgiven, if_neg]
      · exact hvalue
      · rintro rfl
        exact functionCatalog_requiredAny spec hspec hname

/-- Besides the motivation, what is validated again is what was validated. -/
theorem get?_revalidated (hvalidated : validateWriteParameters u spec parameters = .ok validated)
    (hp : ∀ name, p.get? name = (validated.erase "motivation").get? name)
    {motivation : Option String} {w : Dict String Json}
    (hw : validateWriteParameters u spec (withMotivation p motivation) = .ok w) {name : String}
    (hname : name ≠ "motivation") : w.get? name = validated.get? name := by
  have hgiven : (withMotivation p motivation).get? name = validated.get? name := by
    rw [get?_withMotivation, hp, Dict.get?_erase, if_neg hname, if_neg fun h => hname h.1]
  have hagain : ∀ value, validated.get? name = some value →
      spec.validateNamed u name value = .ok value := by
    intro value hvalue
    obtain ⟨_, -, hout⟩ := (get?_validateWriteParameters hvalidated).mp hvalue
    exact (validateNamed_validated hout).1
  apply Option.ext
  intro out
  rw [get?_validateWriteParameters hw, hgiven]
  constructor
  · rintro ⟨value, hvalue, hout⟩
    obtain rfl := Except.ok.inj ((hagain value hvalue).symm.trans hout)
    exact hvalue
  · intro hout
    exact ⟨out, hout, hagain out hout⟩

end Revalidation

/-! ## What is executed is what was previewed -/

section Agreement

variable {c : Preparer} {actor : Requester} {correlationId : String} {intent : Intent}
  {nonce : Bytes} {random : RandomReadings} {r : Readings} {a b : PendingAction}

/-- The parameters of a stored action are accepted again, and they are the ones that were
previewed. -/
def Recovers (c : Preparer) (intent : Intent) (a : PendingAction) : Prop :=
  ∃ spec validated recovered requester, specOf intent.functionId = .ok spec ∧
    validateWriteParameters c.snapshots.unicode spec intent.parameters = .ok validated ∧
    recoverParameters c a = .ok (recovered, requester) ∧
    ∀ name, recovered.get? name = (validated.erase "motivation").get? name

/-- Three characters of a motivation are left when it is stored. -/
def MotivationSurvives (u : UnicodeData) (parameters : Dict String Json) : Prop :=
  ∀ text, parameters.get? "motivation" = some (.str text) →
    3 ≤ (cleanedCharacters u true (strip text)).length

/-- What happens to an action changes nothing of its request. -/
theorem recoverParameters_transition {granted : Grants}
    (h : Relation.ReflTransGen (Transition granted) a b) :
    recoverParameters c b = recoverParameters c a := by
  induction h with
  | refl => rfl
  | tail _ hstep ih =>
      rw [← ih]
      cases hstep <;> rfl

theorem specOf_eq_ok {functionId : String} {spec : FunctionSpec}
    (h : specOf functionId = .ok spec) : spec ∈ functionCatalog := by
  unfold specOf at h
  split at h
  · rename_i spec' hspec
    cases h
    exact (getFunctionSpec_some hspec).1
  · cases h

/-- The stored motivation is the normalised one, if there is one. -/
theorem storedMotivation {spec : FunctionSpec} (hspec : spec ∈ functionCatalog)
    {parameters validated : Dict String Json}
    (hvalidated : validateWriteParameters c.snapshots.unicode spec parameters = .ok validated)
    {motivation : Option String}
    (hstored : cleanMotivation c.approvals.unicode (motivationOf validated) = .ok motivation) :
    (validated.get? "motivation" = none ∧ motivation = none) ∨
      ∃ text cleaned, parameters.get? "motivation" = some (.str text) ∧
        validated.get? "motivation" = some (.str (strip text)) ∧
        normalizeText c.approvals.unicode (strip text) 500 true = .ok cleaned ∧
        motivation = some cleaned := by
  cases hget : validated.get? "motivation" with
  | none =>
      rw [motivationOf, hget] at hstored
      cases hstored
      exact .inl ⟨rfl, rfl⟩
  | some out =>
      obtain ⟨value, hvalue, hout⟩ := (get?_validateWriteParameters hvalidated).mp hget
      obtain ⟨text, rfl, rfl, hshort⟩ := validateNamed_motivation hspec hout
      have hne : strip text ≠ "" := by
        intro hempty
        rw [hempty] at hshort
        exact absurd hshort (by decide)
      have hgiven : motivationOf validated = some (strip text) := by
        simp only [motivationOf, hget, strip_strip, if_neg hne]
      rw [hgiven] at hstored
      simp only [cleanMotivation, if_neg hne] at hstored
      cases hcleaned : normalizeText c.approvals.unicode (strip text) 500 true with
      | error e =>
          rw [hcleaned] at hstored
          cases hstored
      | ok cleaned =>
          rw [hcleaned] at hstored
          cases hstored
          exact .inr ⟨text, cleaned, hvalue, rfl, hcleaned, rfl⟩

/-- What a stored action decodes to. -/
theorem StoredFor.decodes {spec : FunctionSpec} {parameters validated : Dict String Json}
    {functionId : String} (h : StoredFor c actor functionId validated a)
    (hvalidated : validateWriteParameters c.snapshots.unicode spec parameters = .ok validated) :
    ∃ p, decodePendingPayload c a = .ok (p, actor.sorted) ∧
      ∀ name, p.get? name = (validated.erase "motivation").get? name := by
  have hscalar : ∀ name value, (validated.erase "motivation").get? name = some value →
      IsScalar value := by
    intro name value hvalue
    obtain ⟨_, -, hout⟩ :=
      (get?_validateWriteParameters hvalidated).mp (Dict.get?_of_erase hvalue)
    exact (validateNamed_validated hout).2
  obtain ⟨nonce, htoken⟩ := h.payload
  exact decodePendingPayload_prepared hscalar htoken h.binding

/-- What a stored action recovers to: its parameters, validated once more with the motivation that
was stored. -/
theorem StoredFor.recovers {spec : FunctionSpec} {parameters validated : Dict String Json}
    {functionId : String} (h : StoredFor c actor functionId validated a)
    (hspec : specOf functionId = .ok spec)
    (hvalidated : validateWriteParameters c.snapshots.unicode spec parameters = .ok validated) :
    ∃ p, (∀ name, p.get? name = (validated.erase "motivation").get? name) ∧
      recoverParameters c a =
        (validatedForWrite c.snapshots.unicode spec (withMotivation p a.motivation)).map
          fun again => (again.erase "motivation", actor.sorted) := by
  obtain ⟨p, hdecode, hp⟩ := h.decodes hvalidated
  refine ⟨p, hp, ?_⟩
  have hspec' : specOf a.functionId = .ok spec := by rw [h.functionId, hspec]
  show (decodePendingPayload c a >>= _) = _
  rw [hdecode]
  show (specOf a.functionId >>= _) = _
  rw [hspec']
  cases hagain : validatedForWrite c.snapshots.unicode spec (withMotivation p a.motivation) with
  | ok again =>
      show (validatedForWrite _ _ _ >>= _) = _
      rw [hagain]
      rfl
  | error e =>
      show (validatedForWrite _ _ _ >>= _) = _
      rw [hagain]
      rfl

/-- **An action recovers exactly when its motivation does**: whatever has happened to a prepared
action, its parameters are accepted again, as they were previewed, if and only if normalising left
three characters of the motivation. -/
theorem prepareWrite_recovers {answers : List (repositoryEffect.sum readsEffect).Answered}
    {granted : Grants}
    (h : Prog.Calls (prepareWrite c actor correlationId intent nonce random r) answers
      (.inl (.insert a)))
    (hlater : Relation.ReflTransGen (Transition granted) a b) :
    Recovers c intent b ↔ MotivationSurvives c.approvals.unicode intent.parameters := by
  obtain ⟨spec, validated, hspec, hvalidated, hstored⟩ := prepareWrite_calls h
  have hmem := specOf_eq_ok hspec
  obtain ⟨p, hp, hrecover⟩ := hstored.recovers hspec hvalidated
  have hmotivation := storedMotivation hmem hvalidated hstored.motivation
  have hsome : a.motivation.isSome = (validated.get? "motivation").isSome := by
    rcases hmotivation with ⟨hnone, hmot⟩ | ⟨text, cleaned, -, hget, -, hmot⟩
    · rw [hnone, hmot]
      rfl
    · rw [hget, hmot]
      rfl
  have hclean : ∀ text, a.motivation = some text → strip text = text ∧ text.length ≤ 500 := by
    intro text htext
    rcases hmotivation with ⟨-, hmot⟩ | ⟨_, cleaned, -, -, hcleaned, hmot⟩
    · rw [hmot] at htext
      cases htext
    · rw [hmot] at htext
      cases htext
      exact ⟨strip_normalizeText hcleaned, (normalizeText_eq_ok.mp hcleaned).2⟩
  have hsurvives : MotivationSurvives c.approvals.unicode intent.parameters ↔
      ∀ text, a.motivation = some text → 3 ≤ text.length := by
    rcases hmotivation with ⟨hnone, hmot⟩ | ⟨text, cleaned, hgiven, hget, hcleaned, hmot⟩
    · have hgiven : ∀ text, intent.parameters.get? "motivation" ≠ some (.str text) := by
        intro text htext
        obtain ⟨out, hout⟩ :=
          (exists_validateWriteParameters.mp ⟨_, hvalidated⟩).valid _ _ htext
        have := (get?_validateWriteParameters hvalidated).mpr ⟨_, htext, hout⟩
        rw [hnone] at this
        cases this
      rw [hmot]
      exact ⟨fun _ _ htext => (by cases htext), fun _ text htext => absurd htext (hgiven text)⟩
    · have hlength : cleaned.length =
          (cleanedCharacters c.approvals.unicode true (strip text)).length := by
        rw [← (normalizeText_eq_ok.mp hcleaned).1]
        exact String.length_toList.symm
      unfold MotivationSurvives
      rw [hmot, hgiven]
      simp [hlength]
  rw [hsurvives, ← revalidated hmem hvalidated hp hsome hclean]
  unfold Recovers
  rw [recoverParameters_transition hlater, hrecover]
  constructor
  · rintro ⟨_, _, _, _, -, -, hrecovered, -⟩
    cases hagain : validatedForWrite c.snapshots.unicode spec (withMotivation p a.motivation) with
    | ok again => exact ⟨again, validatedForWrite_eq_ok.mp hagain⟩
    | error e =>
        rw [hagain] at hrecovered
        cases hrecovered
  · rintro ⟨again, hagain⟩
    refine ⟨spec, validated, again.erase "motivation", actor.sorted, hspec, hvalidated, ?_, ?_⟩
    · rw [validatedForWrite_eq_ok.mpr hagain]
      rfl
    · intro name
      rw [Dict.get?_erase, Dict.get?_erase]
      split
      · rfl
      · exact get?_revalidated hvalidated hp hagain ‹_›

end Agreement

/-! An export of the documents, prepared with one motivation or another. -/

def exportDigest : String := "0123456789abcdef0123456789abcdef0123456789abcdef0123456789abcdef"

def exportParameters (motivation : String) : Dict String Json :=
  ⟨[("scope", .str "documents"), ("format", .str "pdf"), ("dataset", .str "employees"),
    ("status", .str "all"), ("motivation", .str motivation)], by simp⟩

def exportIntent (motivation : String) : Intent where
  functionId := "EMP-EXPORT-001"
  actionClass := some .export
  parameters := exportParameters motivation

def exporter : Requester := ⟨1, 2, 3, ["DOCUMENT_OPERATOR"], []⟩

def exportDocument : Json := pendingPayload exporter ((exportParameters "").erase "motivation")

/-- A cipher, on the one document that is encrypted here. -/
def exportCipher : PayloadCipher where
  encryptJson nonce payload :=
    if dumps true payload = dumps true exportDocument then .ok (0 :: nonce)
    else .error ⟨.valueError, "unknown document"⟩
  decryptJson _ := .ok exportDocument
  roundTrips := by
    intro nonce payload token h
    split at h
    · exact ⟨exportDocument, rfl, dumps_injective.mp ‹_›⟩
    · cases h

/-- SHA-256 is that of the one snapshot that is hashed here. -/
def exportPreparer : Preparer where
  snapshots := {
    unicode := asciiTables
    hasFiles := false
    sha256 := fun _ => "7fa1b8afbd157d70f029579b058b5bcb194f39dc663472b8cb1431a6ac563159" }
  approvals := ⟨⟨asciiTables, fun payload => payload⟩, asciiTables, 600000000⟩
  cipher := exportCipher
  mockMode := true
  sameValue v w := dumps true v == dumps true w
  redacted d := .obj d.items
  written v := String.ofList (dumps true v)

def exportPrepared (motivation : String) : Preparation AskResponse :=
  prepareWrite exportPreparer exporter "c-1" (exportIntent motivation) [7]
    ⟨"a-1", "ABCDEFGH", [0], "0123456789abcdef"⟩ ⟨true, .ofInstant 0⟩

set_option maxRecDepth 20000 in
/-- A zero-width space counts before the motivation is normalised, and not after it. -/
theorem exportPrepared_lost : ∃ answers a,
    Prog.Calls (exportPrepared "a\u200bb") answers (.inl (.insert a)) ∧
      recoverParameters exportPreparer a =
        .error (applicationError "write parameter motivation is too short") ∧
      ¬Recovers exportPreparer (exportIntent "a\u200bb") a := by
  have hlost : ∀ a, recoverParameters exportPreparer a =
        .error (applicationError "write parameter motivation is too short") →
      ¬Recovers exportPreparer (exportIntent "a\u200bb") a := by
    rintro a ha ⟨_, _, _, _, -, -, hrecovered, -⟩
    rw [ha] at hrecovered
    cases hrecovered
  -- the state is sampled twice, and the action inserted
  refine ⟨_, _, .inr ⟨.ok exportDigest, _, rfl, .inr ⟨.ok exportDigest, _, rfl, .inl ⟨rfl, rfl⟩⟩⟩,
    ?_, hlost _ ?_⟩ <;> rfl

set_option maxRecDepth 20000 in
theorem prepareWrite_recovers_export : ∃ answers a,
    Prog.Calls (exportPrepared "chiusura anno") answers (.inl (.insert a)) ∧
      Recovers exportPreparer (exportIntent "chiusura anno") a := by
  obtain ⟨answers, a, h⟩ : ∃ answers a,
      Prog.Calls (exportPrepared "chiusura anno") answers (.inl (.insert a)) :=
    ⟨_, _, .inr ⟨.ok exportDigest, _, rfl, .inr ⟨.ok exportDigest, _, rfl, .inl ⟨rfl, rfl⟩⟩⟩⟩
  have hlater := Relation.ReflTransGen.refl (r := Transition fun _ _ _ => True) (a := a)
  refine ⟨answers, a, h, (prepareWrite_recovers h hlater).mpr ?_⟩
  intro text htext
  cases htext
  decide

end BhDic.Application
