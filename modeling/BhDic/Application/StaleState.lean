import BhDic.Application.Snapshot

/-!
# The stale-state guard

`begin_execution` compares the fingerprint stored at preparation with one taken just before. The two
agree only if the target could be read both times, its digest was the same at all four samples, and
function, employee and compare-and-swap data are the same: the sentinels of a snapshot that failed
match nothing a preparation can store.
-/

namespace BhDic.Application

open BhDic.Approvals BhDic.Dic BhDic.Library BhDic.Policies BhDic.Python
open BhDic.Library.Prog

/-! ## The way to the claim -/

section Repository

variable {answers : List repositoryEffect.Answered}

theorem returns_repository {o : RepositoryOp} {x : o.Returns} :
    Returns (repository o) answers x ↔ answers = [⟨o, .ok x⟩] := by
  constructor
  · rintro ⟨answer, _, rfl, h⟩
    obtain ⟨rfl, rfl⟩ := returns_ofExcept.mp h
    rfl
  · rintro rfl
    exact ⟨.ok x, [], rfl, rfl, rfl⟩

theorem calls_repository {o o' : RepositoryOp} (h : Calls (repository o) answers o') : o = o' := by
  rcases h with ⟨-, h⟩ | ⟨x, rest, -, h⟩
  · exact h
  · exact (calls_ofExcept.mp h).elim

theorem returns_get {actionId : String} {a : PendingAction}
    (h : Returns (Approvals.get actionId) answers a) :
    answers = [⟨.get actionId, .ok (some a)⟩] := by
  rw [Approvals.get, bind_def, returns_bind] at h
  obtain ⟨found, first, rest, rfl, hfound, h⟩ := h
  obtain rfl := returns_repository.mp hfound
  cases found with
  | none => exact h.elim
  | some b =>
      obtain ⟨rfl, rfl⟩ := h
      rfl

theorem calls_get {actionId : String} {o : RepositoryOp}
    (h : Calls (Approvals.get actionId) answers o) : o = .get actionId := by
  rw [Approvals.get, bind_def, calls_bind] at h
  rcases h with h | ⟨found, first, rest, -, -, h⟩
  · exact (calls_repository h).symm
  · cases found <;> exact h.elim

theorem calls_replaceWith {a b : PendingAction} {o : RepositoryOp}
    (h : Calls (replaceWith a b) answers o) : o = .replace b a.version := by
  rw [replaceWith, bind_def, calls_bind] at h
  rcases h with h | ⟨_, first, rest, -, -, h⟩
  · exact (calls_repository h).symm
  · exact h.elim

/-- An action that is let through is the one that was read. -/
theorem returns_requireActive {found a : PendingAction} {now : Instant}
    (h : Returns (requireActive found now) answers a) : found = a := by
  unfold requireActive at h
  split at h
  · rw [bind_def, returns_bind] at h
    obtain ⟨_, first, rest, -, -, h⟩ := h
    exact h.elim
  · split at h
    · exact h.elim
    · exact h.2

theorem calls_requireActive {found : PendingAction} {now : Instant} {o : RepositoryOp}
    (h : Calls (requireActive found now) answers o) : o = .replace found.expire found.version := by
  unfold requireActive at h
  split at h
  · rw [bind_def, calls_bind] at h
    rcases h with h | ⟨_, first, rest, -, -, h⟩
    · exact calls_replaceWith h
    · exact h.elim
  · split at h <;> exact h.elim

/-- The claim is made only on an action whose stored fingerprint is the current one. -/
theorem calls_beginExecution {actionId fingerprint : String} {r : Readings} {key id : String}
    (h : Calls (beginExecution actionId fingerprint r) answers (.claimIdempotency key id)) :
    ∃ stored, ⟨.get actionId, .ok (some stored)⟩ ∈ answers ∧
      stored.stateFingerprint = fingerprint := by
  simp only [beginExecution, requireWritesEnabled, bind_def, calls_bind, calls_require,
    calls_ofExcept, returns_require, returns_ofExcept, false_or] at h
  obtain ⟨_, _, _, rfl, ⟨rfl, -⟩, h⟩ := h
  rcases h with h | ⟨found, reads, rest, rfl, hfound, h⟩
  · cases calls_get h
  · obtain ⟨_, _, _, rfl, ⟨rfl, -⟩, now, _, _, rfl, ⟨rfl, -⟩, h⟩ := h
    rcases h with h | ⟨a, _, rest, rfl, hactive, h⟩
    · cases calls_requireActive h
    · obtain rfl := returns_requireActive hactive
      obtain ⟨_, _, _, rfl, ⟨rfl, -⟩, h⟩ := h
      refine ⟨found, ?_, ?_⟩
      · rw [returns_get hfound]
        exact List.mem_cons_self
      · by_contra hne
        rw [if_pos (Ne.symm hne), calls_bind] at h
        rcases h with h | ⟨_, _, _, -, -, h⟩
        · cases calls_replaceWith h
        · exact h.elim

end Repository

/-! ## The guard -/

/-- The answers of the DIC among those of both. -/
def readsOf (answers : List (repositoryEffect.sum readsEffect).Answered) :
    List readsEffect.Answered :=
  answers.filterMap fun
    | ⟨.inl _, _⟩ => none
    | ⟨.inr o, x⟩ => some ⟨o, x⟩

theorem readsOf_map (reads : List readsEffect.Answered) (own : List repositoryEffect.Answered) :
    readsOf (reads.map (answeredRight repositoryEffect) ++ own.map (answeredLeft readsEffect)) =
      reads := by
  have hleft : readsOf (own.map (answeredLeft readsEffect)) = [] := by
    induction own with
    | nil => rfl
    | cons x own ih => exact ih
  induction reads with
  | nil => exact hleft
  | cons x reads ih => exact congrArg (x :: ·) ih

variable {c : Snapshots} {functionId : String} {employeeId : Option String}
  {parameters parameters' : Dict String Json} {action : PendingAction} {r : Readings}

/-- The claim comes after a snapshot, and is made on a stored action with its fingerprint. -/
theorem calls_beginFresh {executed : List (repositoryEffect.sum readsEffect).Answered}
    {key id : String}
    (h : Calls (beginFresh c action parameters r) executed (.inl (.claimIdempotency key id))) :
    ∃ current stored, Returns (targetSnapshot c action.functionId action.targetEmployeeId
        parameters false) (readsOf executed) current ∧
      ⟨.inl (.get action.actionId), .ok (some stored)⟩ ∈ executed ∧
      stored.stateFingerprint = c.fingerprint current := by
  rw [beginFresh, bind_def, calls_bind] at h
  rcases h with h | ⟨current, first, rest, rfl, hread, h⟩
  · exact (not_calls_inr h).elim
  · obtain ⟨reads, rfl, hsnapshot⟩ := returns_inr.mp hread
    obtain ⟨own, rfl, hbegin⟩ := calls_inl.mp h
    obtain ⟨stored, hmem, hstored⟩ := calls_beginExecution hbegin
    refine ⟨current, stored, ?_, ?_, hstored⟩
    · rw [readsOf_map]
      exact hsnapshot
    · exact List.mem_append_right _ (List.mem_map_of_mem hmem)

/-- Two snapshots with the same fingerprint, one of them of a preparation, were both sampled, and
agree in everything that is hashed. -/
theorem sampled_of_fingerprint_eq {prepared current : List readsEffect.Answered}
    {functionId' : String} {employeeId' : Option String} {snapshot snapshot' : TargetSnapshot}
    (hprepare : Returns (targetSnapshot c functionId employeeId parameters true) prepared snapshot)
    (hcurrent : Returns (targetSnapshot c functionId' employeeId' parameters' false) current
      snapshot')
    (hinj : Set.InjOn c.sha256 {snapshot.canonical, snapshot'.canonical})
    (heq : c.fingerprint snapshot = c.fingerprint snapshot') :
    functionId' = functionId ∧ employeeId' = employeeId ∧ ∃ digest cas cas',
      Sampled c functionId employeeId parameters true prepared digest cas ∧
      Sampled c functionId employeeId parameters' false current digest cas' ∧
      (Json.obj cas.items).Same (.obj cas'.items) := by
  have hcanonical : snapshot.canonical = snapshot'.canonical :=
    hinj (Set.mem_insert _ _) (Set.mem_insert_of_mem _ rfl) heq
  have hmaterial : snapshot.material.Same snapshot'.material :=
    dumps_injective.mp (String.ofList_injective (encodeUtf8_injective hcanonical))
  obtain ⟨digest, cas, hmaterial₁, hsampled⟩ := returns_targetSnapshot hprepare
  obtain ⟨digest', cas', hmaterial₂, hsampled'⟩ := returns_targetSnapshot hcurrent
  rw [hmaterial₁, hmaterial₂] at hmaterial
  obtain ⟨rfl, rfl, rfl, hcas⟩ := fingerprintMaterial_same hmaterial
  rcases hsampled with hsampled | ⟨hfalse, -⟩
  · refine ⟨rfl, rfl, digest, cas, cas', hsampled, ?_, hcas⟩
    have hlength : digest.length = 64 := by
      have havailable := hsampled.available
      rw [isHexDigest, Bool.and_eq_true, beq_iff_eq] at havailable
      exact havailable.1
    rcases hsampled' with hsampled' | ⟨-, rfl | rfl | rfl⟩
    · exact hsampled'
    · exact absurd hlength (by decide)
    · exact absurd hlength (by decide)
    · -- The sentinel has a field that no resource has.
      obtain ⟨spec, resource, between, -, hread, rfl, -⟩ := hsampled.read
      have hnone : Dict.find "resource_state" resource.cas.items = none :=
        (writeResourceSnapshot_noSentinel c spec _ parameters true).returns hread
      have hsome := Json.Same.find resource.cas.nodup hcas "resource_state"
      rw [hnone] at hsome
      cases hsome
  · cases hfalse

/-- **The stale-state guard.** Once a preparation has stored its fingerprint, `begin_execution` gets
to the claim only if the target could be read at both times, between two samples of its digest that
were available and equal, with the same digest, function, employee and compare-and-swap data. -/
theorem beginFresh_sampled {prepared : List readsEffect.Answered} {snapshot : TargetSnapshot}
    {executed : List (repositoryEffect.sum readsEffect).Answered} {key id : String}
    (hprepare : Returns (targetSnapshot c functionId employeeId parameters true) prepared snapshot)
    (hbegin : Calls (beginFresh c action parameters' r) executed (.inl (.claimIdempotency key id)))
    (hstored : ∀ stored, ⟨.inl (.get action.actionId), .ok (some stored)⟩ ∈ executed →
      stored.stateFingerprint = c.fingerprint snapshot)
    (hinj : ∀ current, Returns (targetSnapshot c action.functionId action.targetEmployeeId
        parameters' false) (readsOf executed) current →
      Set.InjOn c.sha256 {snapshot.canonical, current.canonical}) :
    action.functionId = functionId ∧ action.targetEmployeeId = employeeId ∧ ∃ digest cas cas',
      Sampled c functionId employeeId parameters true prepared digest cas ∧
      Sampled c functionId employeeId parameters' false (readsOf executed) digest cas' ∧
      (Json.obj cas.items).Same (.obj cas'.items) := by
  obtain ⟨current, stored, hcurrent, hmem, hfingerprint⟩ := calls_beginFresh hbegin
  have heq : c.fingerprint snapshot = c.fingerprint current :=
    (hstored stored hmem).symm.trans hfingerprint
  exact sampled_of_fingerprint_eq hprepare hcurrent (hinj current hcurrent) heq

/-! A notification nobody touched between its preparation and its execution. -/

def sampleNotification : Dict String Json := notificationState 5 true

def sampleDigest : String := "0123456789abcdef0123456789abcdef0123456789abcdef0123456789abcdef"

def sampleReads : List readsEffect.Answered :=
  [sample "EMP-NOTIF-002" none sampleNotification sampleDigest,
    ⟨.listNotifications, .ok [⟨5, false⟩]⟩,
    sample "EMP-NOTIF-002" none sampleNotification sampleDigest]

def sampleSnapshot : TargetSnapshot where
  material := fingerprintMaterial "EMP-NOTIF-002" none sampleDigest (notificationState 5 false)
  target := "Notifica DIC #5"
  before := notificationState 5 false

/-- SHA-256, on the one document that is hashed here. -/
def sampleSnapshots : Snapshots where
  unicode := asciiTables
  hasFiles := false
  sha256 data :=
    if data = sampleSnapshot.canonical then
      "99fd189a5ae850fded20e80d492095a476d210270dd8f262e9eb7369f09626ca"
    else ""

def sampleApproved : PendingAction where
  actionId := "a-1"
  correlationId := "c-1"
  functionId := "EMP-NOTIF-002"
  requesterId := "1"
  guildId := "2"
  channelId := "3"
  targetEmployeeId := none
  encryptedParameters := [1]
  redactedDiff := []
  motivation := none
  stateFingerprint := "99fd189a5ae850fded20e80d492095a476d210270dd8f262e9eb7369f09626ca"
  status := .approved
  createdAt := 0
  expiresAt := 600000000
  approvalsRequired := 1
  approvals := [⟨"4", 20⟩]
  confirmationSalt := [0]
  confirmationDigest := [1]
  confirmationConsumedAt := some 10
  idempotencyKey := "0123456789abcdef"
  version := 3

def sampleExecuted : List (repositoryEffect.sum readsEffect).Answered :=
  sampleReads.map (answeredRight repositoryEffect) ++
    [⟨.inl (.get "a-1"), .ok (some sampleApproved)⟩]

theorem returns_opaqueStateDigest_sample (validatePrecondition : Bool) :
    Returns (opaqueStateDigest "EMP-NOTIF-002" none sampleNotification validatePrecondition)
      [sample "EMP-NOTIF-002" none sampleNotification sampleDigest] sampleDigest := by
  have hhex : isHexDigest sampleDigest = true := by decide
  refine returns_bind.mpr ⟨.ok sampleDigest, _, [], (List.append_nil _).symm, ?_, ?_⟩
  · exact returns_attempt.mpr (returns_reads.mpr rfl)
  · simp [hhex]

theorem returns_sampleReads (validatePrecondition : Bool) :
    Returns (targetSnapshot sampleSnapshots "EMP-NOTIF-002" none sampleNotification
      validatePrecondition) sampleReads sampleSnapshot := by
  obtain ⟨spec, hspec, hkind⟩ : ∃ spec, specOf "EMP-NOTIF-002" = .ok spec ∧
      spec.resourceSnapshot = some .notification := ⟨_, rfl, rfl⟩
  have hdigest := returns_opaqueStateDigest_sample validatePrecondition
  have hresource : Returns (resourceOrSentinel sampleSnapshots spec none sampleNotification
      validatePrecondition) [⟨.listNotifications, .ok [⟨5, false⟩]⟩]
      ⟨notificationState 5 false, notificationState 5 false, "Notifica DIC #5"⟩ := by
    rw [resourceOrSentinel, writeResourceSnapshot, hkind]
    exact ⟨_, _, rfl, rfl, rfl⟩
  rw [targetSnapshot, hspec]
  refine returns_bind.mpr ⟨spec, [], _, rfl, ⟨rfl, rfl⟩, ?_⟩
  refine returns_bind.mpr ⟨_, _, _, rfl, hdigest, ?_⟩
  refine returns_bind.mpr ⟨_, _, _, rfl, hresource, ?_⟩
  refine returns_bind.mpr ⟨_, _, _, (List.append_nil _).symm, hdigest, ?_⟩
  refine returns_bind.mpr ⟨(), [], [], rfl, ?_, rfl, ?_⟩
  · simp
  · simp [sampleSnapshot]

theorem beginFresh_sampled_notification :
    ∃ digest cas cas',
      Sampled sampleSnapshots "EMP-NOTIF-002" none sampleNotification true sampleReads digest cas ∧
      Sampled sampleSnapshots "EMP-NOTIF-002" none sampleNotification false
        (readsOf sampleExecuted) digest cas' ∧
      (Json.obj cas.items).Same (.obj cas'.items) := by
  have hreads : readsOf sampleExecuted = sampleReads := rfl
  have hprepare := returns_sampleReads true
  have hcurrent := returns_sampleReads false
  have hfingerprint : sampleSnapshots.fingerprint sampleSnapshot =
      sampleApproved.stateFingerprint := by
    simp only [Snapshots.fingerprint, sampleSnapshots, sampleApproved, if_true]
  have hbegin : Calls (beginFresh sampleSnapshots sampleApproved sampleNotification
      ⟨true, .ofInstant 30⟩) sampleExecuted (.inl (.claimIdempotency "0123456789abcdef" "a-1")) := by
    refine calls_bind.mpr (.inr ⟨sampleSnapshot, _, _, rfl, returns_inr.mpr ⟨_, rfl, hcurrent⟩, ?_⟩)
    refine calls_inl.mpr ⟨[⟨.get "a-1", .ok (some sampleApproved)⟩], rfl, ?_⟩
    rw [hfingerprint]
    exact .inr ⟨_, _, rfl, .inl ⟨rfl, rfl⟩⟩
  have hstored : ∀ stored, ⟨.inl (.get sampleApproved.actionId), .ok (some stored)⟩ ∈
      sampleExecuted → stored.stateFingerprint = sampleSnapshots.fingerprint sampleSnapshot := by
    intro stored hmem
    rw [hfingerprint]
    rcases List.mem_append.mp hmem with hread | hown
    · obtain ⟨x, -, hx⟩ := List.mem_map.mp hread
      cases congrArg Sigma.fst hx
    · cases List.mem_singleton.mp hown
      rfl
  refine (beginFresh_sampled hprepare hbegin hstored ?_).2.2
  intro current h
  obtain rfl := h.unique (hreads ▸ hcurrent)
  simp

end BhDic.Application
