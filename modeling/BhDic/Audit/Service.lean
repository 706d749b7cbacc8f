import BhDic.Audit.Chain
import Mathlib.Logic.Relation

/-!
# The audit service

`append` is one transaction, made of the statements of its body; `verify` reads the rows back
through the models. Writers wait for the lock on the chain state, and a writer may fail at any
statement, or while it waits. What is committed is, after every run, the chain of the events whose
append succeeded, in the order in which they were committed.

Transactions are atomic, one at a time holds the lock, and a column gives back what was stored, a
time perhaps without its zone.
-/

namespace BhDic.Audit

open BhDic.Library BhDic.Python

/-! ## Tables -/

/-- A row of `audit_events`. -/
structure AuditRow where
  sequence : Int
  eventId : String
  timestampUtc : Timestamp
  eventType : String
  correlationId : String
  actorDiscordId : Option String
  guildId : Option String
  channelId : Option String
  functionId : Option String
  targetPseudonym : Option String
  outcome : String
  payload : Json
  previousHash : String
  eventHash : String

/-- The row of `audit_chain_state`. -/
structure AuditChainState where
  lastSequence : Int
  lastHash : String

structure AuditTables where
  events : List AuditRow
  state : Option AuditChainState

/-- The state row as it is seeded. -/
def seed : AuditChainState := ⟨0, genesisHash⟩

/-- The schema as migrated. -/
def AuditTables.migrated : AuditTables := ⟨[], some seed⟩

/-- A timestamp as it comes back from a column of a driver that keeps the zone, or drops it. -/
def Timestamp.column (keepsZone : Bool) (t : Timestamp) : Timestamp :=
  if keepsZone then t else { t with utcoffset := none }

/-- The primary key, the unique constraints and the checks of `audit_events`. -/
def AuditTables.admits (tables : AuditTables) (row : AuditRow) : Bool :=
  row.previousHash.length = 64 ∧ row.eventHash.length = 64 ∧
    tables.events.all fun row' => row'.sequence ≠ row.sequence ∧ row'.eventId ≠ row.eventId ∧
      row'.eventHash ≠ row.eventHash

/-! ## `AuditService` -/

structure AuditService where
  hmac : HmacSha256
  key : ByteString
  key_ok : 32 ≤ key.length

section Service

variable (u : UnicodeData) (service : AuditService) (keepsZone : Bool)

/-- The timestamp, in UTC if it has no zone. -/
def Timestamp.zoned (t : Timestamp) : Timestamp :=
  match t.utcoffset with
  | none => .ofUtc t.wall
  | some _ => t

/-- `_view_from_row`. -/
def viewFromRow (row : AuditRow) : Except Exn (AuditEventView u) :=
  AuditEventView.create u "AuditEventView"
    { eventId := row.eventId
      timestampUtc := row.timestampUtc.zoned
      eventType := row.eventType
      correlationId := row.correlationId
      actorDiscordId := row.actorDiscordId
      guildId := row.guildId
      channelId := row.channelId
      functionId := row.functionId
      targetPseudonym := row.targetPseudonym
      outcome := row.outcome
      payload := row.payload }
    row.sequence row.previousHash row.eventHash

/-- The rows, ordered by sequence. -/
def AuditTables.ordered (tables : AuditTables) : List AuditRow :=
  tables.events.insertionSort fun row row' => row.sequence ≤ row'.sequence

/-- `verify`. -/
def AuditService.verify (tables : AuditTables) : Except Exn AuditVerificationResult := do
  let events ← tables.ordered.mapM (viewFromRow u)
  match tables.state with
  | none =>
      return { valid := false, eventCount := events.length, lastSequence := 0
               lastHash := genesisHash, reason := some "audit chain state is missing" }
  | some state =>
      verifyEvents service.hmac (.bytes service.key) (some state.lastSequence)
        (some state.lastHash) events

/-- The row `append` adds, as it is stored. -/
def AuditEventMaterial.row {u : UnicodeData} (m : AuditEventMaterial u) (eventHash : String) :
    AuditRow where
  sequence := m.sequence
  eventId := m.eventId.str
  timestampUtc := (Timestamp.ofUtc m.timestampUtc).column keepsZone
  eventType := m.eventType
  correlationId := m.correlationId
  actorDiscordId := m.actorDiscordId
  guildId := m.guildId
  channelId := m.channelId
  functionId := m.functionId
  targetPseudonym := m.targetPseudonym
  outcome := m.outcome.value
  payload := .obj m.payload
  previousHash := m.previousHash
  eventHash := eventHash

/-- How far the body of `append` has come. -/
inductive Stage (u : UnicodeData)
  | begun
  | locked (state : AuditChainState)
  | hashed (material : AuditEventMaterial u) (eventHash : String)
  | flushed (material : AuditEventMaterial u) (eventHash : String)
  | finished (view : AuditEventView u)

/-- The transaction of a writer: the event it appends, the tables it found and those it leaves if
it is committed. -/
structure Transaction (u : UnicodeData) (W : Type) where
  writer : W
  event : EventValues
  found : AuditTables
  working : AuditTables
  stage : Stage u

variable {u} in
/-- The next statements of `append`. -/
def Transaction.next {W : Type} (t : Transaction u W) : Except Exn (Transaction u W) :=
  match t.stage with
  | .begun =>
      match t.working.state with
      | some state => .ok { t with stage := .locked state }
      | none =>
          .ok { t with working := { t.working with state := some seed }, stage := .locked seed }
  | .locked state => do
      let material ← AuditEventMaterial.create u "AuditEventMaterial" t.event
        (state.lastSequence + 1) state.lastHash
      let eventHash ← computeEventHash service.hmac (.bytes service.key) material
      return { t with stage := .hashed material eventHash }
  | .hashed material eventHash => do
      let row := material.row keepsZone eventHash
      ensure (t.working.admits row = true) ⟨.integrityError, "audit_events"⟩
      return { t with
        working := ⟨t.working.events ++ [row], some ⟨material.sequence, eventHash⟩⟩
        stage := .flushed material eventHash }
  | .flushed material eventHash => do
      let view ← AuditEventView.create u "AuditEventView" material.dump material.sequence
        material.previousHash eventHash
      return { t with stage := .finished view }
  | .finished _ => .ok t

/-! ## Writers -/

/-- An append that is over: the tables it found when it had the lock, the tables after it, and the
event it appended if it was committed. -/
structure Attempt (u : UnicodeData) (W : Type) where
  writer : W
  event : EventValues
  found : AuditTables
  left : AuditTables
  appended : Option (AuditEventView u)

/-- The committed tables, the writers that wait for the lock, the transaction of the one that has
it, and the appends that are over. -/
structure AuditWorld (u : UnicodeData) (W : Type) where
  tables : AuditTables
  waiting : List (W × EventValues) := []
  current : Option (Transaction u W) := none
  attempts : List (Attempt u W) := []

/-- What can happen next. A writer that fails, by an exception of its statements or for any other
reason, is rolled back; so is one that is cancelled. -/
inductive AuditStep {u : UnicodeData} {W : Type} : AuditWorld u W → AuditWorld u W → Prop
  | request (w : AuditWorld u W) (writer : W) (event : EventValues) :
      AuditStep w { w with waiting := w.waiting ++ [(writer, event)] }
  | abandon (w : AuditWorld u W) (front back : List (W × EventValues)) (writer : W)
      (event : EventValues) (hwaiting : w.waiting = front ++ (writer, event) :: back) :
      AuditStep w { w with
        waiting := front ++ back
        attempts := w.attempts ++ [⟨writer, event, w.tables, w.tables, none⟩] }
  | lock (w : AuditWorld u W) (front back : List (W × EventValues)) (writer : W)
      (event : EventValues) (hwaiting : w.waiting = front ++ (writer, event) :: back)
      (hfree : w.current = none) :
      AuditStep w { w with
        waiting := front ++ back
        current := some ⟨writer, event, w.tables, w.tables, .begun⟩ }
  | run (w : AuditWorld u W) (t t' : Transaction u W) (hcurrent : w.current = some t)
      (hnext : t.next service keepsZone = .ok t') :
      AuditStep w { w with current := some t' }
  | fail (w : AuditWorld u W) (t : Transaction u W) (hcurrent : w.current = some t) :
      AuditStep w { w with
        current := none
        attempts := w.attempts ++ [⟨t.writer, t.event, t.found, w.tables, none⟩] }
  | commit (w : AuditWorld u W) (t : Transaction u W) (view : AuditEventView u)
      (hcurrent : w.current = some t) (hstage : t.stage = .finished view) :
      AuditStep w { w with
        tables := t.working
        current := none
        attempts := w.attempts ++ [⟨t.writer, t.event, t.found, t.working, some view⟩] }

/-- The events appended, in the order of their commits. -/
def AuditWorld.appended {u : UnicodeData} {W : Type} (w : AuditWorld u W) :
    List (AuditEventView u) := w.attempts.filterMap (·.appended)

/-- The worlds that some run from the migrated schema reaches. -/
def AuditReachable {u : UnicodeData} {W : Type} (w : AuditWorld u W) : Prop :=
  Relation.ReflTransGen (AuditStep service keepsZone) { tables := .migrated } w

/-! ## Reading back what was stored -/

variable {u service keepsZone}

theorem viewFromRow_row (e : AuditEventView u) :
    viewFromRow u (e.row keepsZone e.eventHash) = .ok e := by
  have hview : AuditEventView.create u "AuditEventView" e.dump e.sequence e.previousHash
      e.eventHash = .ok e := AuditEventView.create_dump e
  rw [← hview]
  cases keepsZone
  · rfl
  · rfl

/-- The tables after the events were appended. -/
def AuditTables.holding (keepsZone : Bool) (es : List (AuditEventView u)) (hash : String) :
    AuditTables :=
  ⟨es.map fun e => e.row keepsZone e.eventHash, some ⟨es.length, hash⟩⟩

theorem ordered_holding (keepsZone : Bool) {es : List (AuditEventView u)} (hash : String)
    (h : es.map (·.sequence) = List.range' 1 es.length) :
    (AuditTables.holding keepsZone es hash).ordered =
      es.map fun e => e.row keepsZone e.eventHash := by
  have hsorted : (es.map (·.sequence)).Pairwise (· < ·) := h ▸ List.pairwise_lt_range'
  rw [List.pairwise_map] at hsorted
  have hrows : (es.map fun e => e.row keepsZone e.eventHash).Pairwise
      fun row row' => row.sequence ≤ row'.sequence := by
    rw [List.pairwise_map]
    apply hsorted.imp
    intro e e' hlt
    exact Int.ofNat_le.mpr hlt.le
  exact hrows.insertionSort_eq

/-- The rows of events are read as the events. -/
theorem mapM_viewFromRow (es : List (AuditEventView u)) :
    (es.map fun e => e.row keepsZone e.eventHash).mapM (viewFromRow u) = .ok es := by
  rw [mapM_eq_ok, List.forall₂_map_left_iff]
  exact List.forall₂_same.mpr fun e _ => viewFromRow_row e

/-- The hash a chain of events ends in. -/
def AuditService.head (service : AuditService) (es : List (AuditEventView u)) : String :=
  (eventChain service.hmac service.key).head genesisHash es

/-- **What was appended is verified.** -/
theorem verify_holding {es : List (AuditEventView u)}
    (h : Intact service.hmac service.key 1 genesisHash es) :
    service.verify u (.holding keepsZone es (service.head es)) =
      .ok ⟨true, es.length, es.length, service.head es, none, none⟩ := by
  have hordered := ordered_holding keepsZone (service.head es) h.linked.sequences
  have hstate : StateMatches (some (es.length : Int)) (some (service.head es)) (1 - 1 + es.length)
      (service.head es) := by
    refine ⟨?_, ?_⟩
    · intro n hn
      cases hn
      omega
    · intro s hs
      cases hs
      rfl
  have hverify := h.verifyFrom es.length service.key_ok le_rfl genesisHash_isHash
    hstate
  rw [AuditService.verify, hordered, mapM_viewFromRow]
  show verifyEvents service.hmac (.bytes service.key) (some (es.length : Int))
    (some (service.head es)) es = _
  rw [verifyEvents, normalizeHmacKey_bytes service.key_ok]
  refine hverify.trans ?_
  rw [show 1 - 1 + es.length = es.length by omega]
  rfl

/-! ## One append -/

/-- An event comes next after those appended, under its hash. -/
structure Follows (service : AuditService) (es : List (AuditEventView u))
    (m : AuditEventMaterial u) (hash : String) : Prop where
  sequence : m.sequence = es.length + 1
  previous : m.previousHash = service.head es
  writable : m.Writable
  hash : hash = service.hmac.hexdigest service.key m.bytes

/-- What a transaction knows and has done at each stage. -/
def Stage.Ok (service : AuditService) (keepsZone : Bool) (es : List (AuditEventView u))
    (event : EventValues) (tables working : AuditTables) : Stage u → Prop
  | .begun => working = tables
  | .locked state => working = tables ∧ state = ⟨es.length, service.head es⟩
  | .hashed m hash => working = tables ∧ Follows service es m hash ∧
      AuditEventInput.create u "AuditEventMaterial" event = .ok m.toAuditEventInput
  | .flushed m hash => Follows service es m hash ∧
      AuditEventInput.create u "AuditEventMaterial" event = .ok m.toAuditEventInput ∧
      working = ⟨tables.events ++ [m.row keepsZone hash], some ⟨m.sequence, hash⟩⟩
  | .finished e => Follows service es e.toAuditEventMaterial e.eventHash ∧
      AuditEventInput.create u "AuditEventMaterial" event = .ok e.toAuditEventInput ∧
      working = ⟨tables.events ++ [e.row keepsZone e.eventHash], some ⟨e.sequence, e.eventHash⟩⟩

/-- A statement of `append` goes on from what the stage before it knows. -/
theorem Stage.Ok.next {W : Type} {es : List (AuditEventView u)} {tables : AuditTables}
    {t t' : Transaction u W} (hstate : tables.state = some ⟨es.length, service.head es⟩)
    (h : t.stage.Ok service keepsZone es t.event tables t.working)
    (hnext : t.next service keepsZone = .ok t') :
    t'.found = t.found ∧ t'.event = t.event ∧
      t'.stage.Ok service keepsZone es t'.event tables t'.working := by
  obtain ⟨writer, event, found, working, stage⟩ := t
  cases stage with
  | begun =>
      obtain rfl : working = tables := h
      simp only [Transaction.next, hstate] at hnext
      cases hnext
      exact ⟨rfl, rfl, rfl, rfl⟩
  | locked state =>
      obtain ⟨rfl, rfl⟩ := h
      simp only [Transaction.next, bind_eq_ok] at hnext
      obtain ⟨m, hm, hash, hhash, hnext⟩ := hnext
      cases hnext
      obtain ⟨hinput, hsequence, hprevious⟩ := AuditEventMaterial.create_eq_ok.mp hm
      obtain ⟨hwritable, hdigest⟩ := (computeEventHash_eq_ok _ service.key_ok).mp hhash
      have hhead : IsHash (service.head es) := head_isHash _ genesisHash_isHash es
      rw [hhead.trim_eq] at hprevious
      have hnumber : m.sequence = es.length + 1 := by
        apply Int.ofNat.inj
        exact hsequence.symm
      exact ⟨rfl, rfl, rfl, ⟨hnumber, hprevious.symm, hwritable, hdigest.symm⟩, hinput⟩
  | hashed m hash =>
      obtain ⟨rfl, hfollows, hinput⟩ := h
      simp only [Transaction.next, bind_eq_ok, ensure_eq_ok] at hnext
      obtain ⟨_, -, hnext⟩ := hnext
      cases hnext
      exact ⟨rfl, rfl, hfollows, hinput, rfl⟩
  | flushed m hash =>
      obtain ⟨hfollows, hinput, hworking⟩ := h
      simp only [Transaction.next, bind_eq_ok] at hnext
      obtain ⟨e, he, hnext⟩ := hnext
      cases hnext
      obtain ⟨hm, hhash⟩ := AuditEventView.create_eq_ok.mp he
      -- the material passes once more unchanged, and its digest is a hash as it stands
      obtain rfl := Except.ok.inj ((AuditEventMaterial.create_dump m).symm.trans hm)
      rw [hfollows.hash, (service.hmac.isHash _ _).trim_eq, ← hfollows.hash] at hhash
      subst hhash
      exact ⟨rfl, rfl, hfollows, hinput, hworking⟩
  | finished e =>
      cases hnext
      exact ⟨rfl, rfl, h⟩

/-! ## Runs -/

/-- An event that follows extends the chain. -/
theorem Follows.intact {es : List (AuditEventView u)} {e : AuditEventView u}
    (h : Follows service es e.toAuditEventMaterial e.eventHash)
    (hintact : Intact service.hmac service.key 1 genesisHash es) :
    Intact service.hmac service.key 1 genesisHash (es ++ [e]) where
  linked := by
    rw [ChainOf.linked_append]
    exact ⟨hintact.linked, h.sequence.trans (Nat.add_comm ..), h.previous, h.hash⟩
  writable := by
    intro e' he'
    rcases List.mem_append.mp he' with he' | he'
    · exact hintact.writable e' he'
    · rw [List.mem_singleton.mp he']
      exact h.writable

/-- What holds of every world: the tables hold the chain of the events appended, the transaction
under way is as its stage says, and what failed has left no trace. -/
structure AuditOk {W : Type} (service : AuditService) (keepsZone : Bool) (w : AuditWorld u W) :
    Prop where
  tables : w.tables = .holding keepsZone w.appended (service.head w.appended)
  intact : Intact service.hmac service.key 1 genesisHash w.appended
  current : ∀ t ∈ w.current, t.found = w.tables ∧
    t.stage.Ok service keepsZone w.appended t.event w.tables t.working
  failed : ∀ a ∈ w.attempts, a.appended = none → a.left = a.found
  input : ∀ a ∈ w.attempts, ∀ e ∈ a.appended,
    AuditEventInput.create u "AuditEventMaterial" a.event = .ok e.toAuditEventInput

variable {W : Type} {w w' : AuditWorld u W}

theorem auditOk_migrated : AuditOk service keepsZone ({ tables := .migrated } : AuditWorld u W) where
  tables := rfl
  intact := ⟨trivial, fun _ he => absurd he List.not_mem_nil⟩
  current _ ht := by cases ht
  failed _ ha := absurd ha List.not_mem_nil
  input _ ha := absurd ha List.not_mem_nil

/-- A failed append changes nothing of what is known. -/
theorem appended_of_failed {attempts : List (Attempt u W)} {a : Attempt u W}
    (h : a.appended = none) :
    (attempts ++ [a]).filterMap (·.appended) = attempts.filterMap (·.appended) := by
  rw [List.filterMap_append]
  simp [h]

/-- An append that failed is over. -/
theorem AuditOk.over_failed (h : AuditOk service keepsZone w)
    {waiting : List (W × EventValues)} {current : Option (Transaction u W)} {a : Attempt u W}
    (ha : a.appended = none) (hleft : a.left = a.found)
    (hcurrent : ∀ t ∈ current, t.found = w.tables ∧
      t.stage.Ok service keepsZone w.appended t.event w.tables t.working) :
    AuditOk service keepsZone ⟨w.tables, waiting, current, w.attempts ++ [a]⟩ := by
  have happended : (AuditWorld.mk w.tables waiting current (w.attempts ++ [a])).appended =
      w.appended := appended_of_failed ha
  constructor
  · rw [happended]
    exact h.tables
  · rw [happended]
    exact h.intact
  · rw [happended]
    exact hcurrent
  · intro b hb hnone
    rcases List.mem_append.mp hb with hb | hb
    · exact h.failed b hb hnone
    · rw [List.mem_singleton.mp hb]
      exact hleft
  · intro b hb e he
    rcases List.mem_append.mp hb with hb | hb
    · exact h.input b hb e he
    · rw [List.mem_singleton.mp hb, ha] at he
      cases he

/-- Every step preserves what holds. -/
theorem AuditOk.step (h : AuditOk service keepsZone w) (hstep : AuditStep service keepsZone w w') :
    AuditOk service keepsZone w' := by
  cases hstep with
  | request writer event => exact ⟨h.tables, h.intact, h.current, h.failed, h.input⟩
  | abandon front back writer event hwaiting =>
      exact h.over_failed rfl rfl h.current
  | lock front back writer event hwaiting hfree =>
      refine ⟨h.tables, h.intact, ?_, h.failed, h.input⟩
      intro t ht
      cases ht
      exact ⟨rfl, rfl⟩
  | run t t' hcurrent hnext =>
      refine ⟨h.tables, h.intact, ?_, h.failed, h.input⟩
      intro _ ht'
      cases ht'
      obtain ⟨hfound, hstage⟩ := h.current t hcurrent
      have hstate : w.tables.state = some ⟨w.appended.length, service.head w.appended⟩ := by
        rw [h.tables]
        rfl
      obtain ⟨hfound', -, hstage'⟩ := hstage.next hstate hnext
      exact ⟨hfound'.trans hfound, hstage'⟩
  | fail t hcurrent =>
      have hleft : w.tables = t.found := (h.current t hcurrent).1.symm
      exact h.over_failed rfl hleft fun _ ht => by cases ht
  | commit t e hcurrent hstage =>
      obtain ⟨-, hok⟩ := h.current t hcurrent
      rw [hstage] at hok
      obtain ⟨hfollows, hinput, hworking⟩ := hok
      have happended : (AuditWorld.mk t.working w.waiting none
          (w.attempts ++ [⟨t.writer, t.event, t.found, t.working, some e⟩])).appended =
          w.appended ++ [e] := by
        rw [AuditWorld.appended, List.filterMap_append]
        rfl
      constructor
      · have hhead : service.head (w.appended ++ [e]) = e.eventHash := ChainOf.head_append
        rw [happended, hhead]
        show t.working = _
        rw [hworking, h.tables, AuditTables.holding, AuditTables.holding, List.map_append,
          List.length_append, hfollows.sequence]
        rfl
      · rw [happended]
        exact hfollows.intact h.intact
      · intro _ ht
        cases ht
      · intro a ha hnone
        rcases List.mem_append.mp ha with ha | ha
        · exact h.failed a ha hnone
        · rw [List.mem_singleton.mp ha] at hnone
          cases hnone
      · intro a ha e' he'
        rcases List.mem_append.mp ha with ha | ha
        · exact h.input a ha e' he'
        · rw [List.mem_singleton.mp ha] at he' ⊢
          cases he'
          exact hinput

theorem auditOk_of_reachable (h : AuditReachable service keepsZone w) :
    AuditOk service keepsZone w := by
  induction h with
  | refl => exact auditOk_migrated
  | tail _ hstep ih => exact ih.step hstep

/-- **Appends and verification agree in every run.** The rows are those of the events appended, with
the numbers from one on in the order of the commits, each the event it was asked to append; an
append that failed left the tables as it found them; and what is stored is verified. -/
theorem audit_runs (w : AuditWorld u W) (h : AuditReachable service keepsZone w) :
    w.tables.events = w.appended.map (fun e => e.row keepsZone e.eventHash) ∧
    w.tables.events.map (·.sequence) =
      (List.range' 1 w.appended.length).map (fun n : Nat => (n : Int)) ∧
    (∀ a ∈ w.attempts, ∀ e ∈ a.appended,
      AuditEventInput.create u "AuditEventMaterial" a.event = .ok e.toAuditEventInput) ∧
    (∀ a ∈ w.attempts, a.appended = none → a.left = a.found) ∧
    ∃ hash, w.tables.state = some ⟨w.appended.length, hash⟩ ∧
      service.verify u w.tables =
        .ok ⟨true, w.appended.length, w.appended.length, hash, none, none⟩ := by
  have hok := auditOk_of_reachable h
  have hrows : w.tables.events = w.appended.map fun e => e.row keepsZone e.eventHash := by
    rw [hok.tables]
    rfl
  refine ⟨hrows, ?_, hok.input, hok.failed, service.head w.appended, ?_, ?_⟩
  · rw [hrows, ← hok.intact.linked.sequences, List.map_map, List.map_map]
    rfl
  · rw [hok.tables]
    rfl
  · rw [hok.tables]
    exact verify_holding hok.intact

/-- The statements of an append that nothing stops, from the lock on. -/
theorem runs_of_follows {e : AuditEventView u} (hwritable : e.Writable)
    (hhash : e.eventHash = service.hmac.hexdigest service.key e.bytes) {writer : W}
    (hcurrent : w.current = some ⟨writer, e.dump, w.tables, w.tables, .begun⟩)
    (hstate : w.tables.state = some ⟨(e.sequence : Int) - 1, e.previousHash⟩)
    (hadmits : w.tables.admits (e.row keepsZone e.eventHash) = true) :
    Relation.ReflTransGen (AuditStep service keepsZone) w
      { w with
        tables := ⟨w.tables.events ++ [e.row keepsZone e.eventHash],
          some ⟨e.sequence, e.eventHash⟩⟩
        current := none
        attempts := w.attempts ++ [⟨writer, e.dump, w.tables,
          ⟨w.tables.events ++ [e.row keepsZone e.eventHash], some ⟨e.sequence, e.eventHash⟩⟩,
          some e⟩] } := by
  have hnumber : (e.sequence : Int) - 1 + 1 = e.sequence := by omega
  have hdigest := (computeEventHash_eq_ok service.hmac service.key_ok).mpr ⟨hwritable, hhash.symm⟩
  let t (working : AuditTables) (stage : Stage u) : Transaction u W :=
    ⟨writer, e.dump, w.tables, working, stage⟩
  let working : AuditTables :=
    ⟨w.tables.events ++ [e.row keepsZone e.eventHash], some ⟨e.sequence, e.eventHash⟩⟩
  have hlocked : (t w.tables .begun).next service keepsZone =
      .ok (t w.tables (.locked ⟨(e.sequence : Int) - 1, e.previousHash⟩)) := by
    simp only [Transaction.next, t, hstate]
  have hhashed : (t w.tables (.locked ⟨(e.sequence : Int) - 1, e.previousHash⟩)).next service
      keepsZone = .ok (t w.tables (.hashed e.toAuditEventMaterial e.eventHash)) := by
    simp only [Transaction.next, t, hnumber]
    rw [AuditEventMaterial.create_dump]
    show computeEventHash _ _ _ >>= _ = _
    rw [hdigest]
    rfl
  have hflushed : (t w.tables (.hashed e.toAuditEventMaterial e.eventHash)).next service
      keepsZone = .ok (t working (.flushed e.toAuditEventMaterial e.eventHash)) := by
    simp only [Transaction.next, t, hadmits]
    rfl
  have hfinished : (t working (.flushed e.toAuditEventMaterial e.eventHash)).next service
      keepsZone = .ok (t working (.finished e)) := by
    simp only [Transaction.next, t]
    rw [AuditEventView.create_dump]
    rfl
  have h₁ := Relation.ReflTransGen.single (AuditStep.run w _ _ hcurrent hlocked)
  have h₂ := h₁.tail (AuditStep.run _ _ _ rfl hhashed)
  have h₃ := h₂.tail (AuditStep.run _ _ _ rfl hflushed)
  have h₄ := h₃.tail (AuditStep.run _ _ _ rfl hfinished)
  exact h₄.tail (AuditStep.commit ⟨w.tables, w.waiting, some (t working (.finished e)), w.attempts⟩
    (t working (.finished e)) e rfl rfl)

end Service

/-- The service under the key of the read event. -/
def readService : AuditService := ⟨readHmac, List.replicate 32 65, by decide⟩

/-- Of two writers of one event, the second to have the lock fails. -/
theorem audit_runs_twice : ∃ w : AuditWorld asciiTables Nat, w.attempts.length = 2 ∧
    w.appended = [countThenPage] ∧
    ∃ hash, readService.verify asciiTables w.tables = .ok ⟨true, 1, 1, hash, none, none⟩ := by
  have h₁ : AuditReachable readService false
      (⟨.migrated, [], some ⟨1, countThenPage.dump, .migrated, .migrated, .begun⟩, []⟩ :
        AuditWorld asciiTables Nat) :=
    .tail (.tail .refl (.request _ 1 countThenPage.dump)) (.lock _ [] [] 1 _ rfl rfl)
  have h₂ := h₁.trans (runs_of_follows (by decide +kernel) rfl rfl rfl rfl)
  have h₃ := h₂.tail (.request _ 2 countThenPage.dump)
  have h₄ := h₃.tail (.lock _ [] [] 2 _ rfl rfl)
  have h₅ := h₄.tail (.fail _ _ rfl)
  obtain ⟨-, -, -, -, hash, -, hverify⟩ := audit_runs _ h₅
  exact ⟨_, rfl, rfl, hash, hverify⟩

end BhDic.Audit
