import BhDic.Approvals.StoreAgreement

/-!
# What a confirmation does

A confirmation is consumed or refused. `confirm_total` says when it is consumed, and what becomes of
the stored action when it is not. The code *and* the phrase of the function are asked for; a
candidate that leaves ASCII is not compared at all.
-/

namespace BhDic.Approvals

open BhDic.Library BhDic.Policies BhDic.Python
open BhDic.Library.Prog

/-! ## The issued code -/

namespace ConfirmationHasher

/-- What the digest of a code is taken of. -/
def payload (actionId : String) (salt : Bytes) (code : String) : Bytes :=
  encodeUtf8 actionId ++ [0] ++ salt ++ [0] ++ encodeUtf8 code

variable {h : ConfirmationHasher} {actionId code code' candidate : String} {salt expected : Bytes}

theorem payload_injective (heq : payload actionId salt code = payload actionId salt code') :
    code = code' := by
  apply encodeUtf8_injective
  exact List.append_cancel_left heq

theorem digest_eq_ok {d : Bytes} : h.digest actionId salt code = .ok d ↔
    code.toList.all isAscii = true ∧ h.hmac (payload actionId salt code) = d := by
  unfold digest encodeAscii
  split
  · rename_i hascii
    constructor
    · intro heq
      cases heq
      exact ⟨hascii, rfl⟩
    · rintro ⟨-, rfl⟩
      rfl
  · rename_i hascii
    constructor
    · intro heq
      cases heq
    · intro heq
      exact absurd heq.1 hascii

/-- A candidate passes if its normal form is the issued code, as long as the hash does not collide
on the two. -/
theorem verify_eq (hissued : h.digest actionId salt code = .ok expected)
    (hascii : (h.normalizeCandidate candidate).toList.all isAscii = true)
    (hinj : Set.InjOn h.hmac {payload actionId salt (h.normalizeCandidate candidate),
      payload actionId salt code}) :
    h.verify actionId salt expected candidate = .ok (h.normalizeCandidate candidate == code) := by
  have hactual : h.digest actionId salt (h.normalizeCandidate candidate) =
      .ok (h.hmac (payload actionId salt (h.normalizeCandidate candidate))) :=
    digest_eq_ok.mpr ⟨hascii, rfl⟩
  obtain ⟨-, rfl⟩ := digest_eq_ok.mp hissued
  rw [verify, hactual]
  show Except.ok _ = Except.ok _
  congr 1
  rw [Bool.eq_iff_iff, beq_iff_eq, beq_iff_eq]
  constructor
  · intro heq
    exact payload_injective (hinj (Set.mem_insert _ _) (Set.mem_insert_of_mem _ rfl) heq)
  · intro heq
    rw [heq]

end ConfirmationHasher

/-- The code that was issued with an action. -/
def Issued (svc : ApprovalService) (a : PendingAction) (code : String) : Prop :=
  svc.confirmation.digest a.actionId a.confirmationSalt code = .ok a.confirmationDigest

/-- The code of a prepared action is the one that its requester is shown. -/
theorem issued_preparedAction {svc : ApprovalService} {req : PrepareRequest}
    {random : RandomReadings} {r : Readings} {prepared : PreparedAction}
    (h : preparedAction svc req random r = .ok prepared) :
    Issued svc prepared.action prepared.confirmationCode := by
  simp only [preparedAction, bind_eq_ok, ensure_eq_ok, ConfirmationHasher.create] at h
  obtain ⟨spec, -, _, -, _, -, motivation, -, _, -, _, -, _, -, now, -, material, hmaterial, _, -,
    h⟩ := h
  obtain ⟨digest, hdigest, hmaterial⟩ := hmaterial
  cases hmaterial
  cases h
  exact hdigest

/-- It stays so, whatever happens to the action. -/
theorem Issued.transition {svc : ApprovalService} {granted : Grants} {a b : PendingAction}
    {code : String} (h : Issued svc a code) (htransition : Transition granted a b) :
    Issued svc b code := by
  cases htransition <;> exact h

/-! ## Consumed or refused -/

/-- Only one record has changed, into `b`. -/
structure ActionMap.Replaced (S S' : ActionMap) (b : PendingAction) : Prop where
  record : ∃ kept, S'.record b.actionId = some kept ∧ b.SameUpToOrder kept
  others : ∀ id ≠ b.actionId, S'.record id = S.record id
  owner : S'.owner = S.owner

/-- The phrase is given, where the function has one. -/
def PhraseGiven (a : PendingAction) (textConfirmation : Option String) : Prop :=
  ∃ spec, requireFunctionSpec a = .ok spec ∧ ∀ template,
    spec.textConfirmationTemplate = some template →
      textConfirmation = some (template.format a.targetEmployeeId)

/-- What a confirmation is consumed for. -/
structure Confirmable (svc : ApprovalService) (a : PendingAction)
    (code requesterId candidate : String) (textConfirmation : Option String) (now : Instant) :
    Prop where
  active : a.status ∈ activeStatuses
  unexpired : now < a.expiresAt
  requester : requesterId = a.requesterId
  unconfirmed : a.confirmed = false
  candidate : svc.confirmation.normalizeCandidate candidate = code
  phrase : PhraseGiven a textConfirmation

/-- A refusal: an error of the service, and at most an expired action is moved to `EXPIRED`. -/
def Refused (a : PendingAction) (now : Instant) (S S' : ActionMap)
    (result : Except Exn PendingAction) : Prop :=
  ∃ e, result = .error e ∧ e.isA .approvalError = true ∧
    (S' = S ∨ a.status ∈ activeStatuses ∧ a.expiresAt ≤ now ∧ S.Replaced S' a.expire)

section Confirm

variable {σ : Type} {R : LawfulRepository σ} {s : σ} {S : ActionMap} {svc : ApprovalService}
  {a : PendingAction} {code requesterId candidate : String} {textConfirmation : Option String}
  {now : Instant}

/-- `confirm`, once the action is known to be active. -/
def consume (svc : ApprovalService) (action : PendingAction) (requesterId candidate : String)
    (textConfirmation : Option String) (now : Instant) : Approval PendingAction := do
  require (requesterId = action.requesterId)
    ⟨.authorizationError, "only the requester can consume the confirmation code"⟩
  require (action.confirmed = false)
    ⟨.invalidConfirmationError, "confirmation code was already consumed"⟩
  let verified ← ofExcept (svc.confirmation.verify action.actionId action.confirmationSalt
    action.confirmationDigest candidate)
  require (verified = true) ⟨.invalidConfirmationError, "invalid confirmation code"⟩
  let spec ← ofExcept (requireFunctionSpec action)
  requireTextConfirmation spec action textConfirmation
  replaceWith action (action.confirm now)

theorem confirm_eq (actionId : String) (r : Readings) :
    confirm svc actionId requesterId candidate textConfirmation r = (do
      requireWritesEnabled r
      let found ← get actionId
      let now ← ofExcept r.now
      let action ← requireActive found now
      consume svc action requesterId candidate textConfirmation now) := rfl

theorem run_require {α : Type} {c : Prop} [Decidable c] {e : Exn} {f : Unit → Approval α} :
    R.run ((require c e).bind f) s = if c then R.run (f ()) s else (.error e, s) := by
  unfold require
  split <;> rfl

theorem run_ofExcept_ok {α β : Type} {x : Except Exn α} {f : α → Approval β} {v : α}
    (hx : x = .ok v) : R.run ((ofExcept x).bind f) s = R.run (f v) s := by
  rw [hx]
  rfl

/-- A function that is not known is refused, and so is a phrase that is not the one asked for. -/
theorem run_phrase (a : PendingAction) (textConfirmation : Option String)
    (f : Unit → Approval PendingAction) :
    R.run ((ofExcept (requireFunctionSpec a)).bind fun spec =>
        (requireTextConfirmation spec a textConfirmation).bind f) s = R.run (f ()) s ∧
      PhraseGiven a textConfirmation ∨
    (∃ e, R.run ((ofExcept (requireFunctionSpec a)).bind fun spec =>
        (requireTextConfirmation spec a textConfirmation).bind f) s = (.error e, s) ∧
      e.isA .approvalError = true) ∧ ¬PhraseGiven a textConfirmation := by
  cases hspec : requireFunctionSpec a with
  | error e =>
      refine .inr ⟨⟨e, rfl, ?_⟩, ?_⟩
      · unfold requireFunctionSpec at hspec
        repeat' split at hspec
        all_goals cases hspec
        all_goals rfl
      · rintro ⟨spec, hknown, -⟩
        rw [hspec] at hknown
        cases hknown
  | ok spec =>
      rw [run_ofExcept_ok rfl]
      cases htemplate : spec.textConfirmationTemplate with
      | none =>
          refine .inl ⟨?_, spec, hspec, ?_⟩
          · rw [requireTextConfirmation, htemplate]
            rfl
          · intro template h
            rw [htemplate] at h
            cases h
      | some template =>
          rw [requireTextConfirmation, htemplate]
          dsimp only
          rw [run_require]
          split
          · rename_i hgiven
            refine .inl ⟨rfl, spec, hspec, ?_⟩
            intro template' h
            rw [htemplate] at h
            cases h
            exact hgiven
          · rename_i hgiven
            refine .inr ⟨⟨_, rfl, rfl⟩, ?_⟩
            rintro ⟨spec', hknown, hall⟩
            rw [hspec] at hknown
            cases hknown
            exact hgiven (hall template htemplate)

/-- An active action in time is confirmed, or it is left as it was. -/
theorem run_consume (requesterId : String) (textConfirmation : Option String)
    (hrep : R.Represents s S) (ha : S.record a.actionId = some a) (hactive : a.status ∈ activeStatuses) (hunexpired : now < a.expiresAt)
    (hissued : Issued svc a code)
    (hascii : (svc.confirmation.normalizeCandidate candidate).toList.all isAscii = true)
    (hinj : Set.InjOn svc.confirmation.hmac
      {ConfirmationHasher.payload a.actionId a.confirmationSalt
          (svc.confirmation.normalizeCandidate candidate),
        ConfirmationHasher.payload a.actionId a.confirmationSalt code}) :
    (Confirmable svc a code requesterId candidate textConfirmation now ∧ ∃ s' S',
      R.run (consume svc a requesterId candidate textConfirmation now) s =
        (.ok (a.confirm now), s') ∧ R.Represents s' S' ∧ S.Replaced S' (a.confirm now)) ∨
    (¬Confirmable svc a code requesterId candidate textConfirmation now ∧ ∃ e,
      R.run (consume svc a requesterId candidate textConfirmation now) s = (.error e, s) ∧
        e.isA .approvalError = true) := by
  simp only [consume, bind_def, run_require,
    run_ofExcept_ok (ConfirmationHasher.verify_eq hissued hascii hinj)]
  split
  swap
  · rename_i hrequester
    exact .inr ⟨fun h => hrequester h.requester, _, rfl, rfl⟩
  rename_i hrequester
  split
  swap
  · rename_i hconfirmed
    exact .inr ⟨fun h => hconfirmed h.unconfirmed, _, rfl, rfl⟩
  rename_i hunconfirmed
  split
  swap
  · rename_i hcode
    exact .inr ⟨fun h => hcode (beq_iff_eq.mpr h.candidate), _, rfl, rfl⟩
  rename_i hcode
  obtain ⟨hrun, hphrase⟩ | ⟨⟨e, hrun, he⟩, hphrase⟩ := run_phrase (R := R) (s := s) a
    textConfirmation fun _ => replaceWith a (a.confirm now)
  · rw [hrun]
    have hstatus : (a.confirm now).status ∉ executionStatuses := by
      simp only [PendingAction.confirm]
      split <;> simp [executionStatuses]
    have hconfirm : Transition (fun _ _ _ => False) a (a.confirm now) :=
      .confirm now hactive hunexpired hunconfirmed
    obtain ⟨s', S', hreplace, hrep', howner, hothers, hkept⟩ :=
      run_replaceWith hrep ha hconfirm hstatus
    refine .inl ⟨⟨hactive, hunexpired, hrequester, hunconfirmed, beq_iff_eq.mp hcode, hphrase⟩,
      s', S', hreplace, hrep', hkept, hothers, howner⟩
  · exact .inr ⟨fun h => hphrase h.phrase, e, hrun, he⟩

/-- `_require_active` lets an active action in time pass, and no other one. -/
theorem run_requireActive (hrep : R.Represents s S) (ha : S.record a.actionId = some a)
    (now : Instant) (f : PendingAction → Approval PendingAction) :
    (a.status ∈ activeStatuses ∧ now < a.expiresAt ∧
      R.run ((requireActive a now).bind f) s = R.run (f a) s) ∨
    (¬(a.status ∈ activeStatuses ∧ now < a.expiresAt) ∧ ∃ s' S',
      R.Represents s' S' ∧ (R.run ((requireActive a now).bind f) s).2 = s' ∧
        Refused a now S S' (R.run ((requireActive a now).bind f) s).1) := by
  unfold requireActive
  split
  · rename_i hdue
    have hexpire : Transition (fun _ _ _ => False) a a.expire := .expire hdue.2
    have hstatus : a.expire.status ∉ executionStatuses := by
      simp [PendingAction.expire, executionStatuses]
    obtain ⟨s', S', hreplace, hrep', howner, hothers, hkept⟩ :=
      run_replaceWith hrep ha hexpire hstatus
    have hrun : R.run (((replaceWith a a.expire).bind fun _ =>
        Prog.throw ⟨.expiredActionError, "pending action expired"⟩).bind f) s =
        (.error ⟨.expiredActionError, "pending action expired"⟩, s') := by
      have hthrow : R.run ((replaceWith a a.expire).bind fun _ =>
          (Prog.throw ⟨.expiredActionError, "pending action expired"⟩ : Approval PendingAction)) s =
          (.error ⟨.expiredActionError, "pending action expired"⟩, s') := R.run_bind_ok hreplace
      rw [LawfulRepository.run, Prog.run_bind]
      rw [LawfulRepository.run] at hthrow
      rw [hthrow]
    refine .inr ⟨fun h => absurd hdue.1 (not_le_of_gt h.2), s', S', hrep', ?_, ?_⟩
    · exact congrArg Prod.snd hrun
    · exact ⟨_, congrArg Prod.fst hrun, rfl, .inr ⟨hdue.2, hdue.1, hkept, hothers, howner⟩⟩
  · rename_i hdue
    split
    · rename_i hactive
      exact .inr ⟨fun h => hactive h.1, s, S, hrep, rfl, _, rfl, rfl, .inl rfl⟩
    · rename_i hactive
      rw [not_not] at hactive
      refine .inl ⟨hactive, ?_, rfl⟩
      apply lt_of_not_ge
      intro h
      exact hdue ⟨h, hactive⟩

/-- **Confirmations are total.** A candidate with an ASCII normal form is accepted exactly where the
requester gives the issued code, and the phrase where there is one, of an active action in time. It
is refused with an error of the service everywhere else. -/
theorem confirm_total (hrep : R.Represents s S) (ha : S.record a.actionId = some a)
    (enabled : Bool) (requesterId : String) (textConfirmation : Option String) (now : Instant)
    (hissued : Issued svc a code)
    (hascii : (svc.confirmation.normalizeCandidate candidate).toList.all isAscii = true)
    (hinj : Set.InjOn svc.confirmation.hmac
      {ConfirmationHasher.payload a.actionId a.confirmationSalt
          (svc.confirmation.normalizeCandidate candidate),
        ConfirmationHasher.payload a.actionId a.confirmationSalt code}) :
    let outcome := R.run (confirm svc a.actionId requesterId candidate textConfirmation
      ⟨enabled, .ofInstant now⟩) s
    let accepts :=
      enabled = true ∧ Confirmable svc a code requesterId candidate textConfirmation now
    ∃ S', R.Represents outcome.2 S' ∧
      (accepts → outcome.1 = .ok (a.confirm now) ∧ S.Replaced S' (a.confirm now)) ∧
      (¬accepts → Refused a now S S' outcome.1) := by
  cases enabled with
  | false =>
      refine ⟨S, hrep, ?_, fun _ => ⟨_, rfl, rfl, .inl rfl⟩⟩
      rintro ⟨h, -⟩
      cases h
  | true =>
      obtain ⟨s₁, hget, hrep₁⟩ := run_get hrep a.actionId
      rw [ha] at hget
      have hfound : R.run (get a.actionId) s = (.ok a, s₁) := R.run_bind_ok hget
      have hrun : R.run (confirm svc a.actionId requesterId candidate textConfirmation
            ⟨true, .ofInstant now⟩) s =
          R.run ((requireActive a now).bind fun action =>
            consume svc action requesterId candidate textConfirmation now) s₁ := by
        have hnow : Readings.now ⟨true, .ofInstant now⟩ = .ok now := by
          simp [Readings.now, DateTime.astimezoneUtc?, DateTime.ofInstant]
        rw [confirm_eq, requireWritesEnabled, bind_def, run_require, if_pos rfl, bind_def,
          R.run_bind_ok hfound, bind_def, run_ofExcept_ok hnow, bind_def]
      rw [hrun]
      obtain ⟨hactive, hunexpired, hgo⟩ | ⟨hinactive, s', S', hrep', hstore, hrefused⟩ :=
        run_requireActive hrep₁ ha now fun action =>
          consume svc action requesterId candidate textConfirmation now
      · rw [hgo]
        obtain ⟨hconfirmable, s', S', hconsume, hrep', hreplaced⟩ | ⟨hnot, e, hconsume, he⟩ :=
          run_consume requesterId textConfirmation hrep₁ ha hactive hunexpired hissued hascii hinj
        · rw [hconsume]
          exact ⟨S', hrep', fun _ => ⟨rfl, hreplaced⟩, fun h => absurd ⟨rfl, hconfirmable⟩ h⟩
        · rw [hconsume]
          exact ⟨S, hrep₁, fun h => absurd h.2 hnot, fun _ => ⟨e, rfl, he, .inl rfl⟩⟩
      · refine ⟨S', hstore ▸ hrep', ?_, fun _ => hrefused⟩
        intro h
        exact absurd ⟨h.2.active, h.2.unexpired⟩ hinactive

end Confirm

/-! ## A disconnection, confirmed by a code and a phrase -/

def codeDigest : Bytes :=
  [184, 218, 17, 89, 53, 216, 176, 2, 239, 196, 30, 171, 38, 245, 170, 105, 114, 21, 164, 162,
    72, 162, 195, 130, 183, 143, 122, 233, 36, 202, 80, 174]

def phraseDigest : Bytes :=
  [253, 141, 179, 57, 100, 184, 191, 234, 51, 98, 214, 177, 57, 39, 21, 227, 51, 27, 234, 190,
    113, 161, 67, 187, 2, 228, 92, 253, 17, 209, 253, 174]

/-- HMAC-SHA256 under 32 zero bytes, on the two codes that are compared here. -/
def confirmingService : ApprovalService where
  confirmation := {
    unicode := asciiTables
    hmac := fun m => if m = ConfirmationHasher.payload "a-1" [0] "ABCDEFGH" then codeDigest
      else phraseDigest }
  unicode := asciiTables
  defaultTtl := 600000000

def disconnection : PendingAction where
  actionId := "a-1"
  correlationId := "c-1"
  functionId := "EMP-CONNECT-002"
  requesterId := "1"
  guildId := "2"
  channelId := "3"
  targetEmployeeId := some "7"
  encryptedParameters := [1]
  redactedDiff := []
  motivation := some "left"
  stateFingerprint := "f"
  status := .pending
  createdAt := 0
  expiresAt := 600000000
  approvalsRequired := 2
  approvals := []
  confirmationSalt := [0]
  confirmationDigest := codeDigest
  confirmationConsumedAt := none
  idempotencyKey := "0123456789abcdef"

def disconnections : InMemoryStore := (InMemoryStore.insert {} disconnection).2

theorem represents_disconnections :
    ∃ S, inMemory.Represents disconnections S ∧ S.record "a-1" = some disconnection := by
  obtain ⟨S, -, hrep⟩ := inMemory.answers (o := .insert disconnection)
    InMemoryStore.represents_empty ⟨rfl, rfl, rfl, rfl, rfl⟩
  have hrecord : disconnections.get "a-1" = some disconnection := rfl
  exact ⟨S, hrep, by rw [← hrecord]; exact (hrep.record "a-1").symm⟩

def confirming (candidate : String) (textConfirmation : Option String) :
    Except Exn PendingAction × InMemoryStore :=
  inMemory.run (confirm confirmingService "a-1" "1" candidate textConfirmation ⟨true, .ofInstant 10⟩)
    disconnections

/-- Neither the code nor the phrase is enough, and a letter with an accent is no candidate. -/
theorem confirm_notEither :
    (confirming "ABCDEFGH" none).1 =
        .error ⟨.invalidConfirmationError, "explicit target confirmation does not match"⟩ ∧
      (confirming "CONFIRM 7" (some "CONFIRM 7")).1 =
        .error ⟨.invalidConfirmationError, "invalid confirmation code"⟩ ∧
      ∃ e, (confirming "é" none).1 = .error e ∧ e.isA .approvalError = false := by
  exact ⟨rfl, rfl, _, rfl, rfl⟩

theorem confirm_total_disconnection :
    (confirming " abcd efgh " (some "CONFIRM 7")).1 = .ok (disconnection.confirm 10) := by
  obtain ⟨S, hrep, hrecord⟩ := represents_disconnections
  have hissued : Issued confirmingService disconnection "ABCDEFGH" := rfl
  have hnormal : confirmingService.confirmation.normalizeCandidate " abcd efgh " = "ABCDEFGH" := by
    decide
  have hinj : Set.InjOn confirmingService.confirmation.hmac
      {ConfirmationHasher.payload "a-1" [0]
          (confirmingService.confirmation.normalizeCandidate " abcd efgh "),
        ConfirmationHasher.payload "a-1" [0] "ABCDEFGH"} := by
    rw [hnormal, Set.pair_eq_singleton]
    exact Set.injOn_singleton _ _
  obtain ⟨S', -, haccepted, -⟩ := confirm_total hrep hrecord true "1" (some "CONFIRM 7") 10 hissued
    (by rw [hnormal]; decide) hinj
  apply (haccepted ⟨rfl, ?_⟩).1
  exact ⟨by decide, by decide, rfl, rfl, hnormal, _, rfl, by decide⟩

end BhDic.Approvals
