import BhDic.Discord.Transport
import BhDic.Library.Trace

/-!
# Who sees a result, and how much of it

A sensitive result goes to the channel only where publication is configured and the request did not
come from a private message, and a result that is sent is sent whole. Three paths of the code break
this: the menu of employees asks only for the configuration, and a message answered in private or in
the mode of mentions drops what the embed does not hold. `delivery_iff` says that nothing else does.
-/

namespace BhDic.Discord

open BhDic.Library BhDic.Python
open BhDic.Library.Prog

/-! ## What was sent to whom -/

inductive Audience
  | requester | channel
  deriving DecidableEq, Repr

def audienceOf (ephemeral : Bool) : Audience := if ephemeral then .requester else .channel

/-- The messages that got through and those that did not. `pending` is the privacy of a deferred
response that is not completed yet, which the next follow-up takes whatever it asks for. -/
structure Delivered where
  pending : Option Bool := none
  sent : List (Audience × Message) := []
  failed : List Message := []

namespace Delivered

variable (d : Delivered)

/-- The message gets through to the audience, or it does not. -/
def posted (audience : Audience) (message : Message) : Except Exn Unit → Delivered
  | .ok () => { d with sent := d.sent ++ [(audience, message)] }
  | .error _ => { d with failed := d.failed ++ [message] }

/-- A follow-up completes the deferred response, if there is one. -/
def followed (ephemeral : Bool) (message : Message) : Except Exn Unit → Delivered
  | .ok () =>
      { d with pending := none
               sent := d.sent ++ [(audienceOf (d.pending.getD ephemeral), message)] }
  | .error e => d.posted .requester message (.error e)

/-- What one call adds, in a private conversation or in the channel. -/
def learn (privateTransport : Bool) : (o : DiscordOp) → o.Returns → Delivered
  | .defer ephemeral, .ok () => { d with pending := some ephemeral }
  | .editOriginal _, .ok () => { d with pending := none }
  | .followup ephemeral message, answer => d.followed ephemeral message answer
  | .sendMessage ephemeral message, answer => d.posted (audienceOf ephemeral) message answer
  | .reply message, answer => d.posted (audienceOf privateTransport) message answer
  | .channelSend message, answer => d.posted (audienceOf privateTransport) message answer
  | .authorSend message, answer => d.posted .requester message answer
  | _, _ => d

end Delivered

def EntryPoint.isPrivate (entry : EntryPoint) : Bool := entry == .privateMessage

/-- What a run delivers, by the answers it got. -/
def EntryPoint.delivered (entry : EntryPoint) (answers : List discordEffect.Answered) : Delivered :=
  answers.foldl (fun d x => d.learn entry.isPrivate x.1 x.2) {}

def Message.isPart : Message → Bool
  | .part .. => true
  | _ => false

/-- The result a message tells of. -/
def Message.result : Message → Option InteractionResult
  | .notice _ => none
  | .embed result .. | .part result .. => some result

/-- The message the request came from, if it came from a control. -/
def EntryPoint.source : EntryPoint → SourceMessage
  | .approvalButton source | .employeeMenu source | .onboardingForm source => source
  | _ => none

section Property

variable (c : BotSettings) (entry : EntryPoint) (d : Delivered)

/-- Sensitive results reach the channel only where they may. -/
def Confined : Prop :=
  ∀ message, (Audience.channel, message) ∈ d.sent → ∀ result, message.result = some result →
    result.ephemeral = true →
      c.publishSensitiveChannelResponses = true ∧ entry.source ≠ some true

/-- With the embed of a result go all its attachments, and to the same audience every part of it,
once and in order. -/
def Complete : Prop :=
  ∀ audience result files view, (audience, Message.embed result files view) ∈ d.sent →
    files = result.attachments ∧
      d.sent.filter (·.2.isPart) = result.parts.map fun part => (audience, part)

/-- The result is one that the path it takes delivers rightly. -/
def Deliverable (result : InteractionResult) : Prop :=
  match entry with
  | .employeeMenu source => ¬(source = some true ∧ c.publishSensitiveChannelResponses = true ∧
      result.ephemeral = true)
  | .guildMessage =>
      if c.interactionMode = .mention then result.messages = [] ∧ result.attachments = []
      else result.ephemeral = true → c.publishSensitiveChannelResponses = false →
        result.messages = []
  | _ => True

end Property

/-! ## What is left when the notices are left out -/

section Summary

variable {d d' : Delivered} {audience : Audience} {message : Message}

/-- What was sent of results. -/
def Delivered.results (d : Delivered) : List (Audience × Message) :=
  d.sent.filter fun sent => sent.2.result.isSome

/-- The parts that did not get through. -/
def Delivered.lost (d : Delivered) : List Message := d.failed.filter (·.isPart)

/-- The same was delivered, but for notices. -/
structure Delivered.Same (d d' : Delivered) : Prop where
  results : d'.results = d.results
  lost : d'.lost = d.lost

theorem Delivered.Same.refl (d : Delivered) : d.Same d := ⟨rfl, rfl⟩

theorem Delivered.Same.trans {d'' : Delivered} (h : d.Same d') (h' : d'.Same d'') : d.Same d'' :=
  ⟨h'.results.trans h.results, h'.lost.trans h.lost⟩

theorem isSome_result_of_isPart (h : message.isPart = true) : message.result.isSome = true := by
  cases message with
  | part => rfl
  | notice | embed => cases h

theorem posted_notice (text : String) (r : Except Exn Unit) :
    d.Same (d.posted audience (.notice text) r) := by
  cases r <;> constructor <;> simp [Delivered.posted, Delivered.results, Delivered.lost,
    Message.result, Message.isPart]

theorem followed_notice (ephemeral : Bool) (text : String) (r : Except Exn Unit) :
    d.Same (d.followed ephemeral (.notice text) r) := by
  cases r with
  | ok => constructor <;> simp [Delivered.followed, Delivered.results, Delivered.lost,
      Message.result]
  | error e =>
      show d.Same (d.posted .requester (.notice text) (.error e))
      exact posted_notice text _

/-- A message of a result that gets through. -/
theorem results_posted (h : message.result.isSome = true) :
    (d.posted audience message (.ok ())).results = d.results ++ [(audience, message)] := by
  simp [Delivered.posted, Delivered.results, h]

theorem results_followed {ephemeral : Bool} (h : message.result.isSome = true) :
    (d.followed ephemeral message (.ok ())).results =
      d.results ++ [(audienceOf (d.pending.getD ephemeral), message)] := by
  simp [Delivered.followed, Delivered.results, h]

/-- A part that does not. -/
theorem lost_posted (e : Exn) :
    (d.posted audience message (.error e)).lost =
      d.lost ++ if message.isPart = true then [message] else [] := by
  cases h : message.isPart <;> simp [Delivered.posted, Delivered.lost, h]

end Summary

/-! ## Notices -/

section Notices

variable {entry : EntryPoint} {d : Delivered}

/-- Every call is looked at; nothing is forbidden and nothing promised. -/
def delivering (entry : EntryPoint) : Discipline discordEffect Delivered where
  permits _ _ := True
  promises _ _ := True
  learn d o answer := d.learn entry.isPrivate o answer

section Calls

variable {α : Type} {Q : Except Exn α → Delivered → Prop}

theorem guarded_attempted {o : DiscordOp} {h : o.Returns = Except Exn α} :
    Guarded (delivering entry) (attempted o h) Q d ↔
      ∀ answer, Q (cast h answer) (d.learn entry.isPrivate o answer) := by
  simp [attempted, delivering]

/-- A question changes nothing. -/
theorem guarded_question {o : DiscordOp} {k : o.Returns → DiscordProg α}
    (hsame : ∀ answer, d.learn entry.isPrivate o answer = d) :
    Guarded (delivering entry) (.call o k) Q d ↔
      ∀ answer, Guarded (delivering entry) (k answer) Q d := by
  simp [delivering, hsame]

end Calls

variable {Q : Except Exn Unit → Delivered → Prop}

theorem guarded_reply {message : Message} : Guarded (delivering entry) (reply message) Q d ↔
    ∀ r, Q r (d.posted (audienceOf entry.isPrivate) message r) := guarded_attempted

theorem guarded_channelSend {message : Message} :
    Guarded (delivering entry) (channelSend message) Q d ↔
      ∀ r, Q r (d.posted (audienceOf entry.isPrivate) message r) := guarded_attempted

theorem guarded_authorSend {message : Message} :
    Guarded (delivering entry) (authorSend message) Q d ↔
      ∀ r, Q r (d.posted .requester message r) := guarded_attempted

theorem guarded_followup {ephemeral : Bool} {message : Message} :
    Guarded (delivering entry) (followup ephemeral message) Q d ↔
      ∀ r, Q r (d.followed ephemeral message r) := guarded_attempted

theorem guarded_sendMessage {ephemeral : Bool} {message : Message} :
    Guarded (delivering entry) (sendMessage ephemeral message) Q d ↔
      ∀ r, Q r (d.posted (audienceOf ephemeral) message r) := guarded_attempted

/-- What holds whatever notices follow. -/
def Settled (Q : Delivered → Prop) : Prop := ∀ d d', d.Same d' → Q d → Q d'

variable {P : Delivered → Prop}

theorem guarded_replyNotice (hP : Settled P) {text : String} (h : P d) :
    Guarded (delivering entry) (reply (.notice text)) (fun _ d' => P d') d := by
  apply guarded_reply.mpr
  intro r
  exact hP _ _ (posted_notice text r) h

theorem guarded_respondPrivately (hP : Settled P) {text : String} (h : P d) :
    Guarded (delivering entry) (respondPrivately text) (fun _ d' => P d') d := by
  apply (guarded_question fun _ => rfl).mpr
  intro done
  split
  · apply guarded_followup.mpr
    intro r
    exact hP _ _ (followed_notice true text r) h
  · apply guarded_sendMessage.mpr
    intro r
    exact hP _ _ (posted_notice text r) h

end Notices

/-! ## Parts -/

section Parts

variable {entry : EntryPoint} {audience : Audience} {J : Delivered → Prop}
  {post : Message → DiscordProg Unit}

/-- Posting a part to an audience either adds it to what was sent or loses it. -/
def Posts (entry : EntryPoint) (audience : Audience) (J : Delivered → Prop)
    (post : Message → DiscordProg Unit) : Prop :=
  ∀ message d, message.isPart = true → J d → Guarded (delivering entry) (post message)
    (fun r d' => match r with
      | .ok _ => J d' ∧ d'.results = d.results ++ [(audience, message)] ∧ d'.lost = d.lost
      | .error _ => d'.results = d.results ∧ d'.lost = d.lost ++ [message]) d

/-- The parts are sent in order, up to one that is lost. -/
def SentUpTo (audience : Audience) (parts : List Message) (d d' : Delivered) :
    Except Exn Unit → Prop
  | .ok _ => d'.results = d.results ++ parts.map (audience, ·) ∧ d'.lost = d.lost
  | .error _ => ∃ front message back, parts = front ++ message :: back ∧
      d'.results = d.results ++ front.map (audience, ·) ∧ d'.lost = d.lost ++ [message]

theorem guarded_parts (hpost : Posts entry audience J post) {parts : List Message}
    (hparts : ∀ message ∈ parts, message.isPart = true) {d : Delivered} (hd : J d) :
    Guarded (delivering entry) (forEach post parts)
      (fun r d' => SentUpTo audience parts d d' r) d := by
  induction parts generalizing d with
  | nil => exact ⟨by simp, rfl⟩
  | cons message parts ih =>
      rw [forEach, guarded_bind]
      apply guarded_mono _ (hpost message d (hparts message List.mem_cons_self) hd)
      rintro (e | _) d' h
      · exact ⟨[], message, parts, rfl, by simpa using h.1, h.2⟩
      · obtain ⟨hJ, hresults, hlost⟩ := h
        apply guarded_mono _ (ih (fun m hm => hparts m (List.mem_cons_of_mem _ hm)) hJ)
        rintro (e | _) d'' h
        · obtain ⟨front, lost, back, rfl, hsent, hlast⟩ := h
          refine ⟨message :: front, lost, back, rfl, ?_, ?_⟩
          · rw [hsent, hresults]
            simp
          · rw [hlast, hlost]
        · obtain ⟨hsent, hnone⟩ := h
          refine ⟨?_, hnone.trans hlost⟩
          rw [hsent, hresults]
          simp

theorem isPart_of_mem_parts {result : InteractionResult} {message : Message}
    (h : message ∈ result.parts) : message.isPart = true := by
  obtain ⟨_, -, rfl⟩ := List.mem_map.mp h
  rfl

theorem posts_channelSend :
    Posts entry (audienceOf entry.isPrivate) (fun _ => True) channelSend := by
  intro message d hpart _
  apply guarded_channelSend.mpr
  rintro (e | _)
  · exact ⟨rfl, by rw [lost_posted, if_pos hpart]⟩
  · exact ⟨trivial, results_posted (isSome_result_of_isPart hpart), rfl⟩

/-- Once the deferred response is completed, a follow-up is as private as it asks to be. -/
theorem posts_followup (ephemeral : Bool) :
    Posts entry (audienceOf ephemeral) (fun d => d.pending = none) (followup ephemeral) := by
  intro message d hpart hpending
  apply guarded_followup.mpr
  rintro (e | _)
  · exact ⟨rfl, by rw [Delivered.followed, lost_posted, if_pos hpart]⟩
  · refine ⟨rfl, ?_, rfl⟩
    rw [results_followed (isSome_result_of_isPart hpart), hpending]
    rfl

end Parts

/-! ## What each path delivers -/

section Outcome

variable {c : BotSettings} {entry : EntryPoint} {d d' : Delivered}

/-- Where the results of an entry point go. -/
def EntryPoint.audience (c : BotSettings) (result : InteractionResult) : EntryPoint → Audience
  | .guildMessage =>
      audienceOf (result.ephemeral && !c.publishSensitiveChannelResponses)
  | .privateMessage => .requester
  | entry => audienceOf (result.ephemeral && !entry.publishSensitive c)

/-- The paths that send an embed without the rest. -/
inductive Bare (c : BotSettings) (result : InteractionResult) :
    EntryPoint → List ResponseAttachment → Prop
  | mention : c.interactionMode = .mention → result.ephemeral = false →
      Bare c result .guildMessage []
  | withheld : c.interactionMode ≠ .mention → result.ephemeral = true →
      c.publishSensitiveChannelResponses = false → Bare c result .guildMessage result.attachments

/-- The paths that send all of it. -/
def EntryPoint.Whole (c : BotSettings) (result : InteractionResult) : EntryPoint → Prop
  | .guildMessage => c.interactionMode ≠ .mention ∧
      (result.ephemeral = true → c.publishSensitiveChannelResponses = true)
  | _ => True

/-- Nothing of a result; an embed and the parts after it, up to one that was lost; or an embed
alone. -/
inductive Outcome (c : BotSettings) (entry : EntryPoint) (d : Delivered) : Prop
  | nothing : d.results = [] → d.lost = [] → Outcome c entry d
  | whole (result view) : entry.Whole c result →
      d.results = ((Message.embed result result.attachments view) :: result.parts).map
        (entry.audience c result, ·) →
      d.lost = [] → Outcome c entry d
  | broken (result view front message back) : result.parts = front ++ message :: back →
      d.results = ((Message.embed result result.attachments view) :: front).map
        (entry.audience c result, ·) →
      d.lost = [message] → Outcome c entry d
  | bare (result files view) : Bare c result entry files →
      d.results = [(entry.audience c result, Message.embed result files view)] →
      d.lost = [] → Outcome c entry d

theorem settled_outcome : Settled (Outcome c entry) := by
  intro d d' hsame h
  cases h with
  | nothing hresults hlost =>
      exact .nothing (hsame.results.trans hresults) (hsame.lost.trans hlost)
  | whole result view hwhole hresults hlost =>
      exact .whole result view hwhole (hsame.results.trans hresults) (hsame.lost.trans hlost)
  | broken result view front message back hparts hresults hlost =>
      exact .broken result view front message back hparts (hsame.results.trans hresults)
        (hsame.lost.trans hlost)
  | bare result files view hbare hresults hlost =>
      exact .bare result files view hbare (hsame.results.trans hresults) (hsame.lost.trans hlost)

/-- Nothing of a result was delivered yet. -/
structure Fresh (d : Delivered) : Prop where
  results : d.results = []
  lost : d.lost = []

theorem Fresh.outcome (h : Fresh d) : Outcome c entry d := .nothing h.results h.lost

theorem settled_fresh : Settled Fresh := by
  intro d d' hsame h
  exact ⟨hsame.results.trans h.results, hsame.lost.trans h.lost⟩

/-- After the embed, the parts. -/
theorem SentUpTo.outcome {result : InteractionResult} {view : Option ResultView}
    {r : Except Exn Unit} (hwhole : entry.Whole c result)
    (hresults : d.results =
      [(entry.audience c result, Message.embed result result.attachments view)])
    (hlost : d.lost = []) (h : SentUpTo (entry.audience c result) result.parts d d' r) :
    Outcome c entry d' := by
  cases r with
  | ok =>
      obtain ⟨hsent, hnone⟩ := h
      refine .whole result view hwhole ?_ (hnone.trans hlost)
      rw [hsent, hresults]
      rfl
  | error e =>
      obtain ⟨front, message, back, hparts, hsent, hlast⟩ := h
      refine .broken result view front message back hparts ?_ ?_
      · rw [hsent, hresults]
        rfl
      · rw [hlast, hlost]
        rfl

/-! ### Commands and controls -/

variable {requesterUserId : Int} {result : InteractionResult} {publish deferred : Bool}

/-- What the privacy of a follow-up is to be, and is. -/
structure Ready (ephemeral : Bool) (d : Delivered) : Prop where
  fresh : Fresh d
  pending : d.pending.getD ephemeral = ephemeral

theorem guarded_followupWhole {ephemeral : Bool} {view : Option ResultView}
    (haudience : entry.audience c result = audienceOf ephemeral) (hwhole : entry.Whole c result)
    (h : Ready ephemeral d) :
    Guarded (delivering entry)
      ((followup ephemeral (.embed result result.attachments view)).bind fun _ =>
        forEach (followup ephemeral) result.parts) (fun _ d' => Outcome c entry d') d := by
  rw [guarded_bind]
  apply guarded_followup.mpr
  rintro (e | _)
  · show Outcome c entry (d.posted .requester _ (.error e))
    refine .nothing h.fresh.results ?_
    rw [lost_posted, h.fresh.lost]
    rfl
  · have hresults : (d.followed ephemeral (.embed result result.attachments view) (.ok ())).results
        = [(entry.audience c result, Message.embed result result.attachments view)] := by
      rw [results_followed rfl, h.fresh.results, h.pending, haudience]
      rfl
    apply guarded_mono _ (guarded_parts (posts_followup ephemeral)
      (fun _ => isPart_of_mem_parts) rfl)
    intro r d' hsent
    rw [← haudience] at hsent
    exact hsent.outcome hwhole hresults h.fresh.lost

theorem guarded_deliverFollowups
    (haudience : entry.audience c result = audienceOf (result.ephemeral && !publish))
    (hwhole : entry.Whole c result) (h : Fresh d)
    (hpending : d.pending = none ∨ d.pending = some deferred ∧ deferred = !publish) :
    Guarded (delivering entry) (deliverFollowups requesterUserId publish deferred result)
      (fun _ d' => Outcome c entry d') d := by
  unfold deliverFollowups
  simp only [bind_def, guarded_bind, guarded_ofExcept]
  cases resultView result requesterUserId with
  | error e => exact h.outcome
  | ok view =>
      simp only
      have hfollow : ∀ d', Ready (result.ephemeral && !publish) d' →
          Guarded (delivering entry)
            ((followup (result.ephemeral && !publish) (.embed result result.attachments view)).bind
              fun _ => forEach (followup (result.ephemeral && !publish)) result.parts)
            (fun _ d' => Outcome c entry d') d' :=
        fun d' hready => guarded_followupWhole haudience hwhole hready
      split
      · -- the private acknowledgement is completed first
        rw [guarded_bind, editOriginal, guarded_attempted]
        rintro (e | _)
        · exact h.outcome
        · exact hfollow _ ⟨⟨h.results, h.lost⟩, rfl⟩
      · rename_i hedit
        apply hfollow
        refine ⟨h, ?_⟩
        rcases hpending with hnone | ⟨hsome, rfl⟩
        · rw [hnone]
          rfl
        · rw [hsome]
          cases hephemeral : result.ephemeral <;> simp_all

theorem guarded_sendBody
    (haudience : ∀ result, entry.audience c result = audienceOf (result.ephemeral && !publish))
    (hwhole : ∀ result, entry.Whole c result) :
    Guarded (delivering entry) (sendBody requesterUserId publish)
      (fun _ d' => Outcome c entry d') {} := by
  have hfresh : Fresh {} := ⟨rfl, rfl⟩
  unfold sendBody
  rw [bind_def, guarded_bind, authorize, guarded_attempted]
  rintro (e | _)
  · exact hfresh.outcome
  · show Guarded _ (Prog.bind _ _) _ _
    rw [guarded_bind, checkRate, guarded_attempted]
    rintro (e | rateLimit)
    · exact hfresh.outcome
    · show Guarded _ (ite _ _ _) _ _
      split
      · exact guarded_respondPrivately settled_outcome hfresh.outcome
      · apply (guarded_question fun _ => rfl).mpr
        intro done
        show Guarded _ (ite _ _ _) _ _
        split
        · rw [bind_def, guarded_bind, operation, guarded_attempted]
          rintro (e | result)
          · exact hfresh.outcome
          · exact guarded_deliverFollowups (haudience result) (hwhole result) hfresh (.inl rfl)
        · rw [bind_def, guarded_bind, defer, guarded_attempted]
          rintro (e | _)
          · exact hfresh.outcome
          · show Guarded _ (Prog.bind _ _) _ _
            rw [guarded_bind, operation, guarded_attempted]
            rintro (e | result)
            · exact Fresh.outcome ⟨rfl, rfl⟩
            · exact guarded_deliverFollowups (haudience result) (hwhole result) ⟨rfl, rfl⟩
                (.inr ⟨rfl, rfl⟩)

theorem guarded_send
    (haudience : ∀ result, entry.audience c result = audienceOf (result.ephemeral && !publish))
    (hwhole : ∀ result, entry.Whole c result) :
    Guarded (delivering entry) (send c requesterUserId publish)
      (fun _ d' => Outcome c entry d') {} := by
  unfold send
  rw [bind_def, guarded_bind, guarded_attempt]
  apply guarded_mono _ (guarded_sendBody haudience hwhole)
  rintro (e | _) d' h
  · show Guarded _ (ite _ _ _) _ _
    split
    · exact guarded_respondPrivately settled_outcome h
    · exact h
  · exact h

/-! ### Messages -/

/-- A reply with the embed, and the parts in the channel. -/
theorem guarded_replyInFull (haudience : entry.audience c result = audienceOf entry.isPrivate)
    (hwhole : entry.Whole c result) (h : Fresh d) :
    Guarded (delivering entry) (replyInFull requesterUserId result)
      (fun _ d' => Outcome c entry d') d := by
  unfold replyInFull
  rw [bind_def, guarded_bind, guarded_ofExcept]
  cases resultView result requesterUserId with
  | error e => exact h.outcome
  | ok view =>
      show Guarded _ (Prog.bind _ _) _ _
      rw [guarded_bind]
      apply guarded_reply.mpr
      rintro (e | _)
      · refine Outcome.nothing h.results ?_
        rw [lost_posted, h.lost]
        rfl
      · have hresults : (d.posted (audienceOf entry.isPrivate)
            (.embed result result.attachments view) (.ok ())).results
            = [(entry.audience c result, Message.embed result result.attachments view)] := by
          rw [results_posted rfl, h.results, haudience]
          rfl
        apply guarded_mono _ (guarded_parts posts_channelSend (fun _ => isPart_of_mem_parts)
          trivial)
        intro r d' hsent
        apply SentUpTo.outcome hwhole hresults h.lost
        rw [haudience]
        exact hsent

/-- One message with the embed and nothing after it. -/
theorem Fresh.bare {files : List ResponseAttachment} {v : Option ResultView}
    (h : Fresh d) (hbare : Bare c result entry files) (r : Except Exn Unit) :
    Outcome c entry (d.posted (entry.audience c result) (.embed result files v) r) := by
  cases r with
  | ok =>
      refine .bare result files v hbare ?_ h.lost
      rw [results_posted rfl, h.results]
      rfl
  | error e =>
      refine .nothing h.results ?_
      rw [lost_posted, h.lost]
      rfl

theorem guarded_replyWithheld (hmode : c.interactionMode ≠ .mention)
    (hephemeral : result.ephemeral = true) (hpublish : c.publishSensitiveChannelResponses = false)
    (h : Fresh d) :
    Guarded (delivering .guildMessage) (replyWithheld c result)
      (fun _ d' => Outcome c .guildMessage d') d := by
  have haudience : EntryPoint.guildMessage.audience c result = .requester := by
    simp [EntryPoint.audience, hephemeral, hpublish, audienceOf]
  apply (guarded_question fun _ => rfl).mpr
  intro canReceive
  show Guarded _ (ite _ _ _) _ _
  split
  · rw [bind_def, guarded_bind, guarded_attempt, sendInPrivate, bind_def, guarded_bind]
    apply guarded_authorSend.mpr
    intro r
    have hsent := h.bare (v := none) (Bare.withheld hmode hephemeral hpublish) r
    rw [haudience] at hsent
    cases r with
    | ok =>
        apply guarded_mono _ (guarded_replyNotice settled_outcome hsent)
        rintro (e | _) d' h
        · show Guarded _ (ite _ _ _) _ _
          split
          · exact guarded_replyNotice settled_outcome h
          · exact h
        · exact h
    | error e =>
        show Guarded _ (ite _ _ _) _ _
        split
        · exact guarded_replyNotice settled_outcome hsent
        · exact hsent
  · exact guarded_replyNotice settled_outcome h.outcome

/-- The messages of the channel are answered in full, or not, as they are withheld. -/
theorem guarded_replyWithResult (hentry : entry = .guildMessage ∧ c.interactionMode ≠ .mention ∨
      entry = .privateMessage) (h : Fresh d) :
    Guarded (delivering entry) (replyWithResult c requesterUserId entry.isPrivate result)
      (fun _ d' => Outcome c entry d') d := by
  unfold replyWithResult
  rcases hentry with ⟨rfl, hmode⟩ | rfl
  · split
    · rename_i hwithheld
      simp only [EntryPoint.isPrivate, Bool.and_eq_true, Bool.not_eq_true'] at hwithheld
      exact guarded_replyWithheld hmode hwithheld.1.1 hwithheld.2 h
    · rename_i hfull
      have hopen : (result.ephemeral && !c.publishSensitiveChannelResponses) = false := by
        simpa [EntryPoint.isPrivate] using hfull
      apply guarded_replyInFull _ _ h
      · simp only [EntryPoint.audience, hopen]
        rfl
      · exact ⟨hmode, by simpa using hopen⟩
  · rw [if_neg (by simp [EntryPoint.isPrivate])]
    exact guarded_replyInFull rfl trivial h

theorem guarded_replyConversationally
    (hentry : entry = .guildMessage ∧ c.interactionMode ≠ .mention ∨ entry = .privateMessage)
    (h : Fresh d) :
    Guarded (delivering entry) (replyConversationally c requesterUserId entry.isPrivate result)
      (fun _ d' => Outcome c entry d') d := by
  unfold replyConversationally
  split
  · apply (guarded_question fun _ => rfl).mpr
    intro locked
    split
    · exact guarded_replyNotice settled_outcome h.outcome
    · rw [replyAsPublicHr, guarded_attempted]
      exact fun _ => h.outcome
  · exact guarded_replyWithResult hentry h

theorem guarded_replyToMention (hmode : c.interactionMode = .mention) (h : Fresh d) :
    Guarded (delivering .guildMessage) (replyToMention result)
      (fun _ d' => Outcome c .guildMessage d') d := by
  unfold replyToMention
  split
  · exact guarded_replyNotice settled_outcome h.outcome
  · rename_i hephemeral
    have hephemeral : result.ephemeral = false := by simpa using hephemeral
    have haudience : EntryPoint.guildMessage.audience c result = .channel := by
      simp [EntryPoint.audience, hephemeral, audienceOf]
    apply guarded_reply.mpr
    intro r
    have hsent := h.bare (v := none) (Bare.mention hmode hephemeral) r
    rw [haudience] at hsent
    exact hsent

/-- The limiters send nothing. -/
theorem guarded_checkMessageRate {privateTransport : Bool}
    {Q : Except Exn RateLimitDecision → Delivered → Prop} (h : ∀ r, Q r d) :
    Guarded (delivering entry) (checkMessageRate c privateTransport) Q d := by
  unfold checkMessageRate
  rw [bind_def, guarded_bind, checkRate, guarded_attempted]
  rintro (e | rateLimit)
  · exact h _
  · show Guarded _ (ite _ _ _) _ _
    split
    · rw [checkGlobalRate, guarded_attempted]
      exact fun r => h r
    · exact h _

theorem guarded_dispatchAuthorized
    (hentry : entry = .guildMessage ∧ c.interactionMode ≠ .slash ∨ entry = .privateMessage)
    (h : Fresh d) :
    Guarded (delivering entry) (dispatchAuthorized c requesterUserId entry.isPrivate)
      (fun _ d' => Outcome c entry d') d := by
  unfold dispatchAuthorized
  rw [bind_def, guarded_bind]
  apply guarded_checkMessageRate
  rintro (e | rateLimit)
  · exact h.outcome
  · show Guarded _ (ite _ _ _) _ _
    split
    · exact guarded_replyNotice settled_outcome h.outcome
    · rw [bind_def, guarded_bind, operation, guarded_attempted]
      rintro (e | result)
      · exact h.outcome
      · show Guarded _ (ite _ _ _) _ _
        rcases hentry with ⟨rfl, hmode⟩ | rfl
        · split
          · rename_i hchannel
            have hchannel : c.interactionMode = .channel := by
              simpa [EntryPoint.isPrivate] using hchannel
            exact guarded_replyConversationally (.inl ⟨rfl, by simp [hchannel]⟩) h
          · rename_i hother
            have hother : c.interactionMode ≠ .channel := by
              simpa [EntryPoint.isPrivate] using hother
            have hmention : c.interactionMode = .mention := by
              cases hcases : c.interactionMode with
              | mention => rfl
              | slash => exact absurd hcases hmode
              | channel => exact absurd hcases hother
            exact guarded_replyToMention hmention h
        · rw [if_pos (by simp [EntryPoint.isPrivate])]
          exact guarded_replyConversationally (.inr rfl) h

theorem guarded_dispatchBody
    (hentry : entry = .guildMessage ∧ c.interactionMode ≠ .slash ∨ entry = .privateMessage)
    (h : Fresh d) :
    Guarded (delivering entry) (dispatchBody c requesterUserId entry.isPrivate)
      (fun _ d' => Outcome c entry d') d := by
  unfold dispatchBody
  split
  · exact guarded_dispatchAuthorized hentry h
  · rw [guarded_bind, authorize, guarded_attempted]
    rintro (e | _)
    · exact h.outcome
    · exact guarded_dispatchAuthorized hentry h

theorem guarded_dispatchMessage
    (hentry : entry = .guildMessage ∧ c.interactionMode ≠ .slash ∨ entry = .privateMessage)
    (h : Fresh d) :
    Guarded (delivering entry) (dispatchMessage c requesterUserId entry.isPrivate)
      (fun _ d' => Outcome c entry d') d := by
  unfold dispatchMessage
  rw [bind_def, guarded_bind, guarded_attempt]
  apply guarded_mono _ (guarded_dispatchBody hentry h)
  rintro (e | _) d' h
  · show Guarded _ (ite _ _ _) _ _
    split
    · rw [bind_def, guarded_bind, guarded_attempt]
      apply guarded_mono _ (guarded_replyNotice settled_outcome h)
      rintro (e' | _) d'' h
      · show Guarded _ (ite _ _ _) _ _
        split <;> exact h
      · exact h
    · exact h
  · exact h

theorem guarded_dispatchPrivateMessage :
    Guarded (delivering .privateMessage) (dispatchPrivateMessage c requesterUserId)
      (fun _ d' => Outcome c .privateMessage d') {} := by
  have hfresh : Fresh {} := ⟨rfl, rfl⟩
  have hverified : Guarded (delivering .privateMessage)
      (authorize.bind fun _ => dispatchMessage c requesterUserId true)
      (fun _ d' => Outcome c .privateMessage d') {} := by
    rw [guarded_bind, authorize, guarded_attempted]
    rintro (e | _)
    · exact hfresh.outcome
    · exact guarded_dispatchMessage (.inr rfl) hfresh
  unfold dispatchPrivateMessage
  rw [bind_def, guarded_bind, guarded_attempt]
  apply guarded_mono _ hverified
  rintro (e | _) d' h
  · show Guarded _ (ite _ _ (ite _ _ _)) _ _
    split
    · exact guarded_replyNotice settled_outcome h
    · split
      · exact guarded_replyNotice settled_outcome h
      · exact h
  · exact h

/-- **Every entry point delivers in one of four ways.** -/
theorem guarded_program : Guarded (delivering entry) (entry.program c requesterUserId)
    (fun _ d' => Outcome c entry d') {} := by
  cases entry with
  | guildMessage =>
      show Guarded _ (ite _ _ _) _ _
      split
      · exact Fresh.outcome ⟨rfl, rfl⟩
      · rename_i hmode
        exact guarded_dispatchMessage (.inl ⟨rfl, hmode⟩) ⟨rfl, rfl⟩
  | privateMessage => exact guarded_dispatchPrivateMessage
  | slashCommand | approvalButton | employeeMenu | onboardingForm =>
      exact guarded_send (fun _ => rfl) (fun _ => trivial)

/-! ## When that is right -/

theorem mem_results {audience : Audience} {message : Message} :
    (audience, message) ∈ d.results ↔
      (audience, message) ∈ d.sent ∧ message.result.isSome = true := List.mem_filter

theorem mem_results_embed {audience : Audience} {result : InteractionResult}
    {files : List ResponseAttachment} {view : Option ResultView} :
    (audience, Message.embed result files view) ∈ d.results ↔
      (audience, Message.embed result files view) ∈ d.sent :=
  mem_results.trans (and_iff_left rfl)

/-- The parts that were sent are among what was sent of results. -/
theorem filter_isPart_sent :
    d.sent.filter (·.2.isPart) = d.results.filter (·.2.isPart) := by
  rw [Delivered.results, List.filter_filter]
  apply List.filter_congr
  intro sent _
  cases hpart : sent.2.isPart with
  | false => rfl
  | true => simp [isSome_result_of_isPart hpart]

theorem lost_eq_nil : d.lost = [] ↔ ∀ message ∈ d.failed, message.isPart = false := by
  simp [Delivered.lost]

/-- An embed and parts that were all sent to one audience. -/
def sentTogether (audience : Audience) (result : InteractionResult)
    (files : List ResponseAttachment) (view : Option ResultView) (parts : List Message) :
    List (Audience × Message) :=
  ((Message.embed result files view) :: parts).map (audience, ·)

section Together

variable {audience : Audience} {files : List ResponseAttachment} {view : Option ResultView}
  {parts : List Message}

theorem mem_sentTogether_embed (hparts : ∀ part ∈ parts, part.isPart = true) {other : Audience}
    {result' : InteractionResult} {files' : List ResponseAttachment} {view' : Option ResultView} :
    (other, Message.embed result' files' view') ∈ sentTogether audience result files view parts ↔
      other = audience ∧ result' = result ∧ files' = files ∧ view' = view := by
  simp only [sentTogether, List.map_cons, List.mem_cons, List.mem_map, Prod.mk.injEq,
    Message.embed.injEq]
  constructor
  · rintro (h | ⟨part, hpart, rfl, rfl⟩)
    · exact h
    · cases hparts _ hpart
  · exact .inl

theorem result_of_mem_sentTogether (hparts : ∀ part ∈ parts, part.result = some result)
    {other : Audience} {message : Message}
    (h : (other, message) ∈ sentTogether audience result files view parts) :
    other = audience ∧ message.result = some result := by
  simp only [sentTogether, List.map_cons, List.mem_cons, List.mem_map, Prod.mk.injEq] at h
  rcases h with ⟨rfl, rfl⟩ | ⟨part, hpart, rfl, rfl⟩
  · exact ⟨rfl, rfl⟩
  · exact ⟨rfl, hparts _ hpart⟩

theorem filter_sentTogether (hparts : ∀ part ∈ parts, part.isPart = true) :
    (sentTogether audience result files view parts).filter (·.2.isPart) =
      parts.map (audience, ·) := by
  have hall : (parts.map fun part => (audience, part)).filter (·.2.isPart) =
      parts.map fun part => (audience, part) := by
    apply List.filter_eq_self.mpr
    intro sent hsent
    obtain ⟨part, hpart, rfl⟩ := List.mem_map.mp hsent
    exact hparts part hpart
  simp only [sentTogether, List.map_cons, List.filter_cons, Message.isPart]
  exact hall

theorem confined_sentTogether (hparts : ∀ part ∈ parts, part.result = some result)
    (hresults : d.results = sentTogether audience result files view parts) :
    Confined c entry d ↔ (audience = .channel → result.ephemeral = true →
      c.publishSensitiveChannelResponses = true ∧ entry.source ≠ some true) := by
  constructor
  · intro h haudience hephemeral
    subst haudience
    have hmem : (Audience.channel, Message.embed result files view) ∈ d.results := by
      rw [hresults]
      exact List.mem_cons_self
    exact h _ (mem_results.mp hmem).1 result rfl hephemeral
  · intro h message hmem result' hresult hephemeral
    have hin : (Audience.channel, message) ∈ d.results :=
      mem_results.mpr ⟨hmem, by simp [hresult]⟩
    rw [hresults] at hin
    obtain ⟨haudience, hsame⟩ := result_of_mem_sentTogether hparts hin
    cases hresult.symm.trans hsame
    exact h haudience.symm hephemeral

theorem complete_sentTogether (hparts : ∀ part ∈ parts, part.isPart = true)
    (hresults : d.results = sentTogether audience result files view parts) :
    Complete d ↔ files = result.attachments ∧ parts = result.parts := by
  have hinjective : Function.Injective fun part : Message => (audience, part) := by
    intro part part' h
    exact (Prod.mk.inj h).2
  unfold Complete
  rw [filter_isPart_sent, hresults, filter_sentTogether hparts]
  simp only [← mem_results_embed, hresults, mem_sentTogether_embed hparts]
  constructor
  · intro h
    obtain ⟨hfiles, hsame⟩ := h audience result files view ⟨rfl, rfl, rfl, rfl⟩
    exact ⟨hfiles, hinjective.list_map hsame⟩
  · rintro ⟨hfiles, hsame⟩ _ _ _ _ ⟨rfl, rfl, rfl, rfl⟩
    exact ⟨hfiles, by rw [hsame]⟩

theorem deliverable_sentTogether (hparts : ∀ part ∈ parts, part.isPart = true)
    (hresults : d.results = sentTogether audience result files view parts) :
    (∀ audience result files view, (audience, Message.embed result files view) ∈ d.sent →
      Deliverable c entry result) ↔ Deliverable c entry result := by
  simp only [← mem_results_embed, hresults, mem_sentTogether_embed hparts]
  constructor
  · intro h
    exact h audience result files view ⟨rfl, rfl, rfl, rfl⟩
  · rintro h _ _ _ _ ⟨-, rfl, -, -⟩
    exact h

end Together

theorem result_of_mem_parts {part : Message} (h : part ∈ result.parts) :
    part.result = some result := by
  obtain ⟨_, -, rfl⟩ := List.mem_map.mp h
  rfl

/-- A control may only publish what is not below an ephemeral message. -/
theorem componentMayPublish_eq_true {source : SourceMessage} :
    componentMayPublish c source = true ↔
      c.publishSensitiveChannelResponses = true ∧ source = some false := by
  unfold componentMayPublish
  rcases source with _ | ephemeral
  · simp
  · cases ephemeral <;> simp

theorem audienceOf_eq_channel {ephemeral : Bool} :
    audienceOf ephemeral = .channel ↔ ephemeral = false := by
  cases ephemeral <;> simp [audienceOf]

/-- A result that goes out whole is confined exactly where it is deliverable. -/
theorem whole_iff (hwhole : entry.Whole c result) :
    (entry.audience c result = .channel → result.ephemeral = true →
      c.publishSensitiveChannelResponses = true ∧ entry.source ≠ some true) ↔
    Deliverable c entry result := by
  cases entry with
  | slashCommand | onboardingForm =>
      simp only [EntryPoint.audience, audienceOf_eq_channel, EntryPoint.publishSensitive,
        Deliverable, iff_true]
      cases result.ephemeral <;> simp
  | privateMessage => simp [EntryPoint.audience, Deliverable]
  | approvalButton source =>
      simp only [EntryPoint.audience, audienceOf_eq_channel, EntryPoint.publishSensitive,
        EntryPoint.source, Deliverable, iff_true]
      intro hchannel hephemeral
      simp only [hephemeral, Bool.true_and, Bool.not_eq_false',
        componentMayPublish_eq_true] at hchannel
      obtain ⟨hpublish, rfl⟩ := hchannel
      exact ⟨hpublish, nofun⟩
  | employeeMenu source =>
      simp only [EntryPoint.audience, audienceOf_eq_channel, EntryPoint.publishSensitive,
        EntryPoint.source, Deliverable]
      cases result.ephemeral <;> cases c.publishSensitiveChannelResponses <;> simp
  | guildMessage =>
      obtain ⟨hmode, hopen⟩ := hwhole
      simp only [EntryPoint.source, Deliverable, if_neg hmode]
      constructor
      · intro _ hephemeral hpublish
        rw [hopen hephemeral] at hpublish
        cases hpublish
      · intro _ _ hephemeral
        exact ⟨hopen hephemeral, nofun⟩

/-- A bare embed never goes too far; it is the whole exactly where the result is deliverable. -/
theorem bare_iff {files : List ResponseAttachment} (hbare : Bare c result entry files) :
    (entry.audience c result = .channel → result.ephemeral = true →
      c.publishSensitiveChannelResponses = true ∧ entry.source ≠ some true) ∧
    ((files = result.attachments ∧ [] = result.parts) ↔ Deliverable c entry result) := by
  have hparts : [] = result.parts ↔ result.messages = [] := by
    rw [eq_comm]
    simp [InteractionResult.parts]
  rw [hparts]
  cases hbare with
  | mention hmode hephemeral =>
      constructor
      · intro _ h
        rw [hephemeral] at h
        cases h
      · simp only [Deliverable, if_pos hmode]
        rw [and_comm, eq_comm (a := [])]
  | withheld hmode hephemeral hpublish =>
      constructor
      · intro h
        simp [EntryPoint.audience, hephemeral, hpublish, audienceOf] at h
      · simp [Deliverable, if_neg hmode, hephemeral, hpublish]

/-- By cases on what was delivered. A part that was lost is missed. -/
theorem Outcome.iff (h : Outcome c entry d) :
    Confined c entry d ∧ Complete d ↔
      (∀ message ∈ d.failed, message.isPart = false) ∧
      ∀ audience result files view, (audience, Message.embed result files view) ∈ d.sent →
        Deliverable c entry result := by
  rw [← lost_eq_nil]
  cases h with
  | nothing hresults hlost =>
      have hnone : ∀ audience message, (audience, message) ∈ d.sent → message.result = none := by
        intro audience message hmem
        by_contra hsome
        have hin := mem_results.mpr ⟨hmem, Option.isSome_iff_ne_none.mpr hsome⟩
        rw [hresults] at hin
        cases hin
      constructor
      · rintro -
        exact ⟨hlost, fun _ _ _ _ hmem => nomatch hnone _ _ hmem⟩
      · rintro -
        constructor
        · intro message hmem result hresult
          rw [hnone _ _ hmem] at hresult
          cases hresult
        · exact fun _ _ _ _ hmem => nomatch hnone _ _ hmem
  | whole result view hwhole hresults hlost =>
      rw [confined_sentTogether (fun _ => result_of_mem_parts) hresults, whole_iff hwhole,
        complete_sentTogether (fun _ => isPart_of_mem_parts) hresults,
        deliverable_sentTogether (fun _ => isPart_of_mem_parts) hresults]
      simp [hlost]
  | broken result view front message back hparts hresults hlost =>
      have hfront : ∀ part ∈ front, part.isPart = true := by
        intro part hpart
        have hmem : part ∈ result.parts := by
          rw [hparts]
          exact List.mem_append_left _ hpart
        exact isPart_of_mem_parts hmem
      have hshort : front ≠ result.parts := by
        intro hsame
        have hlength := congrArg List.length hparts
        rw [← hsame, List.length_append, List.length_cons] at hlength
        omega
      rw [complete_sentTogether hfront hresults]
      simp [hlost, hshort]
  | bare result files view hbare hresults hlost =>
      have hnone : ∀ part ∈ ([] : List Message), part.isPart = true := by simp
      have hnone' : ∀ part ∈ ([] : List Message), part.result = some result := by simp
      obtain ⟨hconfined, hcomplete⟩ := bare_iff hbare
      rw [confined_sentTogether hnone' hresults, complete_sentTogether hnone hresults,
        deliverable_sentTogether hnone hresults, hcomplete]
      simp only [hlost, true_and]
      exact and_iff_right hconfined

end Outcome

/-- **Confined and complete delivery.** Whatever the environment answers, a run delivers confined
and complete exactly when no part of a result fails to get through and the result whose embed got
through is one the path delivers rightly. -/
theorem delivery_iff (c : BotSettings) (requesterUserId : Int) (entry : EntryPoint)
    (answers : List discordEffect.Answered) (r : Except Exn Unit)
    (h : Ends (entry.program c requesterUserId) answers r) :
    Confined c entry (entry.delivered answers) ∧ Complete (entry.delivered answers) ↔
      (∀ message ∈ (entry.delivered answers).failed, message.isPart = false) ∧
      ∀ audience result files view,
        (audience, Message.embed result files view) ∈ (entry.delivered answers).sent →
          Deliverable c entry result :=
  Outcome.iff (guarded_program.ends (fun _ _ => trivial) h)

/-! The three paths, with an environment in which everything succeeds. -/

section Sample

/-- Everybody is let through, every message arrives, and the coordinator answers `result`. -/
def willing (result : InteractionResult) : (o : DiscordOp) → Unit → o.Returns × Unit
  | .checkRate, _ | .checkGlobalRate, _ => (.ok ⟨true, 0⟩, ())
  | .isDone, _ | .publicHrLocked, _ => (false, ())
  | .authorCanReceive, _ => (true, ())
  | .operation, _ => (.ok result, ())
  | .authorize, _ | .defer _, _ | .editOriginal _, _ | .followup .., _ | .sendMessage .., _
  | .reply _, _ | .channelSend _, _ | .authorSend _, _ | .replyAsPublicHr, _ => (.ok (), ())

/-- The answers of that environment in a run. -/
def willingAnswers (c : BotSettings) (entry : EntryPoint) (result : InteractionResult) :
    List discordEffect.Answered :=
  log (E := discordEffect) (willing result) (entry.program c 7) ()

theorem ends_willingAnswers (c : BotSettings) (entry : EntryPoint) (result : InteractionResult) :
    ∃ r, Ends (entry.program c 7) (willingAnswers c entry result) r :=
  ⟨_, ends_log (E := discordEffect) (willing result) (entry.program c 7) ()⟩

def sampleSettings (interactionMode : InteractionMode) (publish : Bool) : BotSettings where
  interactionMode := interactionMode
  publishSensitiveChannelResponses := publish
  sensitiveDeliveryMode := .dmOrEphemeral
  denialNotice _ := "La policy applicativa non autorizza questa richiesta."

def payslip : InteractionResult := { title := "Cedolini", description := "2 cedolini" }

def longPayslip : InteractionResult := { payslip with messages := ["gennaio", "febbraio"] }

def headcount : InteractionResult :=
  { title := "Organico", description := "12 reparti", sensitivity := .publicAggregate,
    messages := ["reparti 1-6", "reparti 7-12"] }

/-- The menu below a private message answers in the channel; a sensitive list is cut to its embed in
private, and an aggregate to its embed in the mode of mentions. -/
theorem delivery_broken :
    (∃ answers r, Ends (EntryPoint.program (sampleSettings .slash true) 7
        (.employeeMenu (some true))) answers r ∧
      ¬Confined (sampleSettings .slash true) (.employeeMenu (some true))
        (EntryPoint.delivered (.employeeMenu (some true)) answers)) ∧
    (∃ answers r, Ends (EntryPoint.program (sampleSettings .channel false) 7 .guildMessage)
        answers r ∧ ¬Complete (EntryPoint.delivered .guildMessage answers)) ∧
    ∃ answers r, Ends (EntryPoint.program (sampleSettings .mention false) 7 .guildMessage)
        answers r ∧ ¬Complete (EntryPoint.delivered .guildMessage answers) := by
  refine ⟨?_, ?_, ?_⟩
  · obtain ⟨r, hends⟩ := ends_willingAnswers (sampleSettings .slash true)
      (.employeeMenu (some true)) payslip
    refine ⟨_, r, hends, ?_⟩
    intro hconfined
    obtain ⟨-, hsource⟩ := hconfined (.embed payslip [] none) List.mem_cons_self payslip rfl rfl
    exact hsource rfl
  · obtain ⟨r, hends⟩ := ends_willingAnswers (sampleSettings .channel false) .guildMessage
      longPayslip
    refine ⟨_, r, hends, ?_⟩
    intro hcomplete
    obtain ⟨-, hparts⟩ := hcomplete .requester longPayslip [] none List.mem_cons_self
    cases hparts
  · obtain ⟨r, hends⟩ := ends_willingAnswers (sampleSettings .mention false) .guildMessage
      headcount
    refine ⟨_, r, hends, ?_⟩
    intro hcomplete
    obtain ⟨-, hparts⟩ := hcomplete .channel headcount [] none List.mem_cons_self
    cases hparts

/-- A slash command delivers a list whole, to the requester. -/
theorem delivery_iff_slash :
    Confined (sampleSettings .slash true) .slashCommand
        (EntryPoint.delivered .slashCommand
          (willingAnswers (sampleSettings .slash true) .slashCommand longPayslip)) ∧
      Complete (EntryPoint.delivered .slashCommand
        (willingAnswers (sampleSettings .slash true) .slashCommand longPayslip)) := by
  obtain ⟨r, hends⟩ := ends_willingAnswers (sampleSettings .slash true) .slashCommand longPayslip
  refine (delivery_iff (sampleSettings .slash true) 7 .slashCommand _ r hends).mpr ⟨?_, ?_⟩
  · intro message hmem
    exact absurd hmem List.not_mem_nil
  · intro _ _ _ _ _
    trivial

end Sample

end BhDic.Discord
