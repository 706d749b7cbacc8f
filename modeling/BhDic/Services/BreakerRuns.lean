import BhDic.Services.CircuitBreaker
import Mathlib.Algebra.Order.Group.Int
import Mathlib.Data.List.Basic

/-!
# Runs of calls through one breaker

Any number of calls share a breaker and take their steps in any order, on a clock that does not go
back. Each call carries, for the proofs only, where it was admitted: the period, which is how often
the breaker had changed its state, and whether it was admitted as a probe.

A call may report in a later period than it was admitted in, and a call whose operation is cancelled
never reports. `Timely` excludes just these; without it the breaker lets stale outcomes through and
can refuse for ever.
-/

namespace BhDic.Services

open BhDic.Library BhDic.Python
open BrowserCoordinator

structure Admission where
  period : Nat
  probe : Bool
  deriving DecidableEq

/-- A call, with what is left of its body. -/
structure Call (T : Type) where
  program : BrowserProg T
  admission : Option Admission

/-- The call was admitted as a probe and has not come to an end. -/
def Call.isProbe {T : Type} (call : Call T) : Bool := call.admission.any (·.probe)

def Call.Running {T : Type} (call : Call T) : Prop := ∃ o k, call.program = .call o k

/-- The bodies the coordinator queues. -/
inductive IsBody {T : Type} : BrowserProg T → Prop
  | read (policy : ReadRetryPolicy) : IsBody (executeRead policy)
  | once : IsBody executeOnce
  | reconciliation : IsBody executeReconciliation

/-- The breaker, the last time its clock showed, the calls, and two things no code keeps: how often
the state has changed, and when it last became open. -/
structure BreakerWorld (T : Type) where
  breaker : CircuitBreaker
  now : Instant
  period : Nat
  lastOpened : Instant
  calls : List (Call T)

namespace BreakerWorld

variable {T : Type}

/-- Before any call, at any time. -/
def start (now : Instant) : BreakerWorld T := ⟨{}, now, 0, now, []⟩

/-- The breaker after a step at the time `t`. -/
def observe (w : BreakerWorld T) (breaker : CircuitBreaker) (t : Instant)
    (calls : List (Call T)) : BreakerWorld T where
  breaker := breaker
  now := t
  period := if breaker.state = w.breaker.state then w.period else w.period + 1
  lastOpened :=
    if breaker.state = .opened ∧ w.breaker.state ≠ .opened then t else w.lastOpened
  calls := calls

end BreakerWorld

/-- What a step is about. -/
inductive BreakerEvent
  | submitted
  | asked (admitted : Bool)
  | operated
  | cancelled (admission : Option Admission)
  | reported (admission : Option Admission) (success : Bool)
  | slept
  deriving DecidableEq

/-- One step of one call, or a new call. -/
inductive BreakerStep (c : BreakerSettings) {T : Type} :
    BreakerWorld T → BreakerEvent → BreakerWorld T → Prop
  | submit (w) (p : BrowserProg T) : IsBody p →
      BreakerStep c w .submitted { w with calls := w.calls ++ [⟨p, none⟩] }
  | pass (w : BreakerWorld T) (t front back k admission breaker) :
      w.calls = front ++ ⟨.call .beforeCall k, admission⟩ :: back → w.now ≤ t →
      w.breaker.beforeCall c t = (.ok (), breaker) →
      BreakerStep c w (.asked true) (w.observe breaker t (front ++ ⟨k (.ok ()),
        some ⟨(w.observe breaker t []).period, breaker.state = .halfOpen⟩⟩ :: back))
  | refuse (w : BreakerWorld T) (t front back k admission breaker e) :
      w.calls = front ++ ⟨.call .beforeCall k, admission⟩ :: back → w.now ≤ t →
      w.breaker.beforeCall c t = (.error e, breaker) →
      BreakerStep c w (.asked false)
        (w.observe breaker t (front ++ ⟨k (.error e), admission⟩ :: back))
  | operate (w : BreakerWorld T) (front back k admission answer) :
      w.calls = front ++ ⟨.call .operate k, admission⟩ :: back →
      (∀ e, answer = .error e → e.isA .exception = true) →
      BreakerStep c w .operated { w with calls := front ++ ⟨k answer, admission⟩ :: back }
  | cancel (w : BreakerWorld T) (front back k admission e) :
      w.calls = front ++ ⟨.call .operate k, admission⟩ :: back → e.isA .exception = false →
      BreakerStep c w (.cancelled admission)
        { w with calls := front ++ ⟨k (.error e), none⟩ :: back }
  | succeed (w : BreakerWorld T) (front back k admission) :
      w.calls = front ++ ⟨.call .recordSuccess k, admission⟩ :: back →
      BreakerStep c w (.reported admission true)
        (w.observe w.breaker.recordSuccess w.now (front ++ ⟨k (), none⟩ :: back))
  | fail (w : BreakerWorld T) (t front back k admission) :
      w.calls = front ++ ⟨.call .recordFailure k, admission⟩ :: back → w.now ≤ t →
      BreakerStep c w (.reported admission false)
        (w.observe (w.breaker.recordFailure c t) t (front ++ ⟨k (), none⟩ :: back))
  | sleep (w : BreakerWorld T) (front back attempt k admission) :
      w.calls = front ++ ⟨.call (.sleep attempt) k, admission⟩ :: back →
      BreakerStep c w .slept { w with calls := front ++ ⟨k (), admission⟩ :: back }

/-- An outcome is reported in the period the call was admitted in, unless it is a success reported
to a closed breaker that counts no failures, and no probe is cancelled. -/
def Timely {T : Type} (w : BreakerWorld T) : BreakerEvent → Prop
  | .cancelled admission => ∀ a ∈ admission, a.probe = false
  | .reported admission success => (∃ a ∈ admission, a.period = w.period) ∨
      (success = true ∧ w.breaker.state = .closed ∧ w.breaker.failures = 0)
  | _ => True

/-! ## The recovery timeout -/

section Opened

variable {c : BreakerSettings} {T : Type} {w w' : BreakerWorld T} {event : BreakerEvent}

/-- An open breaker knows a time it opened at that is not before the last one. -/
structure OpenedOk (w : BreakerWorld T) : Prop where
  now : w.lastOpened ≤ w.now
  openedAt : w.breaker.state = .opened → ∃ t, w.breaker.openedAt = some t ∧ w.lastOpened ≤ t

theorem OpenedOk.observe_same (h : OpenedOk w) {breaker : CircuitBreaker} {t : Instant}
    (ht : w.now ≤ t) (hopened : breaker.state = .opened → breaker = w.breaker ∨
      breaker.openedAt = some t) (calls : List (Call T)) :
    OpenedOk (w.observe breaker t calls) := by
  have hnow := h.now
  constructor
  · show ite _ _ _ ≤ t
    split
    · exact le_refl t
    · exact le_trans hnow ht
  · intro hstate
    rcases hopened hstate with rfl | hopenedAt
    · have hstate : w.breaker.state = .opened := hstate
      obtain ⟨s, hs, hle⟩ := h.openedAt hstate
      refine ⟨s, hs, ?_⟩
      simpa [BreakerWorld.observe, hstate] using hle
    · refine ⟨t, hopenedAt, ?_⟩
      show ite _ _ _ ≤ t
      split
      · exact le_refl t
      · exact le_trans hnow ht

/-- Asking changes a breaker only into one that is half open. -/
theorem beforeCall_same {b breaker : CircuitBreaker} {t : Instant} {r : Except Exn Unit}
    (h : b.beforeCall c t = (r, breaker)) (hstate : breaker.state ≠ .halfOpen) : breaker = b := by
  unfold CircuitBreaker.beforeCall at h
  split at h
  · cases h
    rfl
  · split at h
    · cases h
      rfl
    · split at h
      · cases h
        rfl
      · unfold CircuitBreaker.beginProbe at h
        split at h <;> cases h <;> exact absurd rfl hstate
  · rename_i hhalf
    unfold CircuitBreaker.beginProbe at h
    split at h
    · cases h
      rfl
    · cases h
      exact absurd hhalf hstate

theorem recordFailure_opened {b : CircuitBreaker} {t : Instant} :
    (b.recordFailure c t).openedAt = some t ∨
      (b.recordFailure c t).state = b.state ∧ (b.recordFailure c t).openedAt = b.openedAt := by
  unfold CircuitBreaker.recordFailure
  dsimp only
  split
  · exact .inl rfl
  · exact .inr ⟨rfl, rfl⟩

theorem OpenedOk.step (h : OpenedOk w) (hstep : BreakerStep c w event w') : OpenedOk w' := by
  cases hstep with
  | submit | operate | cancel | sleep => exact ⟨h.now, h.openedAt⟩
  | pass t front back k admission breaker hcalls ht hbefore
  | refuse t front back k admission breaker e hcalls ht hbefore =>
      exact h.observe_same ht (fun hstate => .inl (beforeCall_same hbefore (by simp [hstate]))) _
  | succeed front back k admission hcalls =>
      exact h.observe_same (le_refl _) (fun hstate => by cases hstate) _
  | fail t front back k admission hcalls ht =>
      have hnow := h.now
      rcases recordFailure_opened (c := c) (b := w.breaker) (t := t) with hopened | ⟨hstate, hsame⟩
      · exact h.observe_same ht (fun _ => .inr hopened) _
      · constructor
        · show ite _ _ _ ≤ t
          split
          · exact le_refl t
          · exact le_trans hnow ht
        · intro hopen
          have hopen' : w.breaker.state = .opened := hstate.symm.trans hopen
          obtain ⟨s, hs, hle⟩ := h.openedAt hopen'
          refine ⟨s, hsame.trans hs, ?_⟩
          simpa [BreakerWorld.observe, hopen'] using hle

end Opened

/-! ## What a body does -/

/-- What a call knows of itself is whether it was admitted and has not ended. It asks, and sleeps,
when it was not. -/
def admitted (T : Type) : Prog.Discipline (browserEffect T) Bool where
  permits k
    | .beforeCall | .sleep _ => k = false
    | _ => True
  promises _ _ := True
  learn k
    | .beforeCall, answer => match (answer : Except Exn Unit) with
      | .ok () => true
      | .error _ => false
    | .operate, answer => match (answer : Except Exn T) with
      | .ok _ => k
      | .error e => if e.isA .exception then k else false
    | .recordSuccess, _ | .recordFailure, _ => false
    | .sleep _, _ => k

/-- A call keeps to that, and was not left admitted when it ends. -/
abbrev KeepsOrder {T : Type} (p : BrowserProg T) (k : Bool) : Prop :=
  Prog.Guarded (admitted T) p (fun _ k => k = false) k

section Bodies

variable {T : Type}

theorem keepsOrder_report (failed : Bool) (e : Exn) (k : Bool) :
    KeepsOrder (reportAndRaise failed e : BrowserProg T) k := by
  cases failed <;> exact ⟨trivial, fun _ _ => rfl⟩

theorem keepsOrder_once : KeepsOrder (executeOnce : BrowserProg T) false := by
  refine ⟨rfl, ?_⟩
  intro answer _
  cases answer with
  | error e => rfl
  | ok _ =>
      refine ⟨trivial, ?_⟩
      intro result _
      cases result with
      | ok result => exact ⟨trivial, fun _ _ => rfl⟩
      | error e =>
          show KeepsOrder (ite _ _ _) (ite _ _ _)
          split
          · exact keepsOrder_report _ e _
          · rfl

theorem keepsOrder_read (lastError : Option Exn) (attempt remaining : Nat) :
    KeepsOrder (attemptRead lastError attempt remaining : BrowserProg T) false := by
  induction remaining generalizing lastError attempt with
  | zero => rfl
  | succ remaining ih =>
      refine ⟨rfl, ?_⟩
      intro answer _
      cases answer with
      | error e => rfl
      | ok _ =>
          refine ⟨trivial, ?_⟩
          intro result _
          cases result with
          | ok result => exact ⟨trivial, fun _ _ => rfl⟩
          | error e =>
              show KeepsOrder (ite _ (ite _ _ _) _) (ite _ _ _)
              split
              · split
                · refine ⟨trivial, fun _ _ => ?_⟩
                  show KeepsOrder (ite _ _ _) false
                  split
                  · rfl
                  · exact ⟨rfl, fun _ _ => ih (some e) (attempt + 1)⟩
                · exact keepsOrder_report _ e _
              · rfl

theorem keepsOrder_body {p : BrowserProg T} (h : IsBody p) : KeepsOrder p false := by
  cases h with
  | read policy => exact keepsOrder_read none 1 policy.attempts
  | once => exact keepsOrder_once
  | reconciliation =>
      refine ⟨trivial, ?_⟩
      intro result _
      cases result with
      | ok result => exact ⟨trivial, fun _ _ => rfl⟩
      | error e =>
          show KeepsOrder (ite _ _ _) (ite _ _ _)
          split
          · exact keepsOrder_report true e _
          · rfl

end Bodies

/-! ## Timely runs -/

section Timely

variable {c : BreakerSettings} {T : Type} {w w' : BreakerWorld T} {event : BreakerEvent}

/-- What a call's admission says of the breaker. -/
structure AdmissionOk (state : CircuitState) (period : Nat) (a : Admission) : Prop where
  past : a.period ≤ period
  probe : a.probe = true → a.period = period
  current : a.period = period → state ≠ .opened ∧ (a.probe = true ↔ state = .halfOpen)

/-- In a timely run the probe flag is up just while the breaker is half open, and then one probe is
running. -/
structure TimelyOk (w : BreakerWorld T) : Prop where
  flag : w.breaker.halfOpenInFlight = true ↔ w.breaker.state = .halfOpen
  probes : w.calls.countP Call.isProbe = if w.breaker.state = .halfOpen then 1 else 0
  admissions : ∀ call ∈ w.calls, ∀ a ∈ call.admission, AdmissionOk w.breaker.state w.period a
  bodies : ∀ call ∈ w.calls, KeepsOrder call.program call.admission.isSome

namespace TimelyOk

variable {front back : List (Call T)} {call call' other : Call T}

/-- The one call that takes a step, among the others. -/
theorem call_mem (hcalls : w.calls = front ++ call :: back) : call ∈ w.calls := by
  simp [hcalls]

theorem other_mem (hcalls : w.calls = front ++ call :: back) (h : other ∈ front ∨ other ∈ back) :
    other ∈ w.calls := by
  rw [hcalls]
  rcases h with h | h <;> simp [h]

theorem mem_cases (hcalls : w.calls = front ++ call :: back) (h : other ∈ w.calls) :
    (other ∈ front ∨ other ∈ back) ∨ other = call := by
  rw [hcalls, List.mem_append, List.mem_cons] at h
  tauto

/-- A step of a call after which the breaker is in the same state. -/
theorem replace (h : TimelyOk w) (hcalls : w.calls = front ++ call :: back)
    (hcalls' : w'.calls = front ++ call' :: back) (hperiod : w'.period = w.period)
    (hstate : w'.breaker.state = w.breaker.state)
    (hflag : w'.breaker.halfOpenInFlight = w.breaker.halfOpenInFlight)
    (hprobe : call'.isProbe = call.isProbe)
    (hadmission : ∀ a ∈ call'.admission, AdmissionOk w.breaker.state w.period a)
    (hbody : KeepsOrder call'.program call'.admission.isSome) : TimelyOk w' := by
  have hprobes := h.probes
  refine ⟨?_, ?_, ?_, ?_⟩
  · rw [hflag, hstate]
    exact h.flag
  · rw [hstate, ← hprobes, hcalls, hcalls']
    simp [List.countP_append, List.countP_cons, hprobe]
  · intro other hother
    rw [hstate, hperiod]
    rcases mem_cases hcalls' hother with hold | rfl
    · exact h.admissions other (other_mem hcalls hold)
    · exact hadmission
  · intro other hother
    rcases mem_cases hcalls' hother with hold | rfl
    · exact h.bodies other (other_mem hcalls hold)
    · exact hbody

/-- A step of a call after which the breaker is in another state, as a new period begins. -/
theorem change (h : TimelyOk w) (hcalls : w.calls = front ++ call :: back)
    (hcalls' : w'.calls = front ++ call' :: back) (hperiod : w'.period = w.period + 1)
    (hflag : w'.breaker.halfOpenInFlight = true ↔ w'.breaker.state = .halfOpen)
    (hothers : ∀ other ∈ front ++ back, other.isProbe = false)
    (hprobe : call'.isProbe = true ↔ w'.breaker.state = .halfOpen)
    (hadmission : ∀ a ∈ call'.admission, AdmissionOk w'.breaker.state w'.period a)
    (hbody : KeepsOrder call'.program call'.admission.isSome) : TimelyOk w' := by
  have hfront : front.countP Call.isProbe = 0 :=
    List.countP_eq_zero.mpr fun other hother => by simp [hothers other (by simp [hother])]
  have hback : back.countP Call.isProbe = 0 :=
    List.countP_eq_zero.mpr fun other hother => by simp [hothers other (by simp [hother])]
  refine ⟨hflag, ?_, ?_, ?_⟩
  · simp only [hcalls', List.countP_append, List.countP_cons, hfront, hback, hprobe]
    split <;> rfl
  · intro other hother a ha
    rcases mem_cases hcalls' hother with hold | rfl
    · -- the others were admitted earlier, and none of them as a probe
      have hpast := (h.admissions other (other_mem hcalls hold) a ha).past
      have hplain : a.probe = false := by
        have hnot := hothers other (by simpa using hold)
        rw [Option.mem_def] at ha
        simpa [Call.isProbe, ha] using hnot
      refine ⟨?_, ?_, ?_⟩
      · omega
      · simp [hplain]
      · omega
    · exact hadmission a ha
  · intro other hother
    rcases mem_cases hcalls' hother with hold | rfl
    · exact h.bodies other (other_mem hcalls hold)
    · exact hbody

/-- What is left of the body after an answer. -/
theorem body_answer (h : TimelyOk w) {o : BrowserOp} {k : (browserEffect T).Ans o → BrowserProg T}
    {admission : Option Admission} (hcalls : w.calls = front ++ ⟨.call o k, admission⟩ :: back)
    (answer : (browserEffect T).Ans o) :
    KeepsOrder (k answer) ((admitted T).learn admission.isSome o answer) :=
  (h.bodies _ (call_mem hcalls)).2 answer trivial

/-- A call that asks holds no admission. -/
theorem asking (h : TimelyOk w) {k : (browserEffect T).Ans .beforeCall → BrowserProg T}
    {admission : Option Admission}
    (hcalls : w.calls = front ++ ⟨.call .beforeCall k, admission⟩ :: back) : admission = none := by
  have hpermits : admission.isSome = false := (h.bodies _ (call_mem hcalls)).1
  simpa using hpermits

/-- While the breaker is not half open no probe is running, so no other call is one. -/
theorem no_probe (h : TimelyOk w) (hstate : w.breaker.state ≠ .halfOpen) :
    ∀ call ∈ w.calls, call.isProbe = false := by
  have hprobes := h.probes
  rw [if_neg hstate, List.countP_eq_zero] at hprobes
  intro call hcall
  simpa using hprobes call hcall

/-- The probe is the only one. -/
theorem only_probe (h : TimelyOk w) (hcalls : w.calls = front ++ call :: back)
    (hprobe : call.isProbe = true) : ∀ other ∈ front ++ back, other.isProbe = false := by
  have hprobes := h.probes
  rw [hcalls, List.countP_append, List.countP_cons, if_pos hprobe] at hprobes
  have hnone : (front ++ back).countP Call.isProbe = 0 := by
    rw [List.countP_append]
    split at hprobes <;> omega
  rw [List.countP_eq_zero] at hnone
  intro other hother
  simpa using hnone other hother

theorem observe_period_same (breaker : CircuitBreaker) (t : Instant) (calls : List (Call T))
    (h : breaker.state = w.breaker.state) : (w.observe breaker t calls).period = w.period :=
  if_pos h

theorem observe_period_next (breaker : CircuitBreaker) (t : Instant) (calls : List (Call T))
    (h : breaker.state ≠ w.breaker.state) : (w.observe breaker t calls).period = w.period + 1 :=
  if_neg h

theorem flag_of_closed (h : TimelyOk w) (hstate : w.breaker.state = .closed) :
    w.breaker.halfOpenInFlight = false := by
  have hflag := h.flag
  simpa [hstate] using hflag

theorem refused (h : TimelyOk w) {t : Instant} {breaker : CircuitBreaker} {e : Exn}
    (hbefore : w.breaker.beforeCall c t = (.error e, breaker)) : breaker = w.breaker := by
  have hflag := h.flag
  unfold CircuitBreaker.beforeCall at hbefore
  split at hbefore
  · cases hbefore
  · rename_i hstate
    have hdown : w.breaker.halfOpenInFlight = false := by simpa [hstate] using hflag
    split at hbefore
    · cases hbefore
      rfl
    · split at hbefore
      · cases hbefore
        rfl
      · simp [CircuitBreaker.beginProbe, hdown] at hbefore
  · unfold CircuitBreaker.beginProbe at hbefore
    split at hbefore <;> cases hbefore
    rfl

theorem pass (h : TimelyOk w) {k : (browserEffect T).Ans .beforeCall → BrowserProg T}
    {admission : Option Admission} {t : Instant} {breaker : CircuitBreaker}
    (hcalls : w.calls = front ++ ⟨.call .beforeCall k, admission⟩ :: back)
    (hbefore : w.breaker.beforeCall c t = (.ok (), breaker)) :
    TimelyOk (w.observe breaker t (front ++ ⟨k (.ok ()),
      some ⟨(w.observe breaker t []).period, breaker.state = .halfOpen⟩⟩ :: back)) := by
  obtain rfl := h.asking hcalls
  have hbody := h.body_answer hcalls (.ok ())
  have hflag := h.flag
  unfold CircuitBreaker.beforeCall at hbefore
  split at hbefore
  · rename_i hstate
    cases hbefore
    refine h.replace hcalls rfl (observe_period_same _ _ _ rfl) rfl rfl ?_ ?_ hbody
    · simp [Call.isProbe, hstate]
    · intro a ha
      cases ha
      rw [observe_period_same _ _ _ rfl]
      constructor <;> simp [hstate]
  · rename_i hstate
    split at hbefore
    · cases hbefore
    · split at hbefore
      · cases hbefore
      · unfold CircuitBreaker.beginProbe at hbefore
        split at hbefore <;> cases hbefore
        have hnext : CircuitState.halfOpen ≠ w.breaker.state := by simp [hstate]
        refine h.change hcalls rfl (observe_period_next _ _ _ hnext) ?_ ?_ ?_ ?_ hbody
        · simp [BreakerWorld.observe]
        · intro other hother
          exact h.no_probe (by simp [hstate]) other (other_mem hcalls (by simpa using hother))
        · simp [Call.isProbe, BreakerWorld.observe]
        · intro a ha
          cases ha
          constructor <;> simp [BreakerWorld.observe]
  · rename_i hstate
    have hup : w.breaker.halfOpenInFlight = true := hflag.mpr hstate
    simp [CircuitBreaker.beginProbe, hup] at hbefore

/-- A report that comes in the period its call was admitted in comes from a closed breaker, or from
the probe. -/
theorem report_cases (h : TimelyOk w) (hcalls : w.calls = front ++ call :: back) {success : Bool}
    (htimely : Timely w (.reported call.admission success)) :
    (w.breaker.state = .closed ∧ call.isProbe = false) ∨
      (w.breaker.state = .halfOpen ∧ call.isProbe = true) := by
  rcases htimely with ⟨a, ha, hperiod⟩ | ⟨-, hclosed, -⟩
  · have hok := (h.admissions call (call_mem hcalls) a ha).current hperiod
    rw [Option.mem_def] at ha
    cases hstate : w.breaker.state with
    | closed => exact .inl ⟨rfl, h.no_probe (by simp [hstate]) call (call_mem hcalls)⟩
    | opened => exact absurd hstate hok.1
    | halfOpen => exact .inr ⟨rfl, by simp [Call.isProbe, ha, hok.2, hstate]⟩
  · exact .inl ⟨hclosed, h.no_probe (by simp [hclosed]) call (call_mem hcalls)⟩

theorem succeed (h : TimelyOk w) {k : Unit → BrowserProg T} {admission : Option Admission}
    (hcalls : w.calls = front ++ ⟨.call .recordSuccess k, admission⟩ :: back)
    (htimely : Timely w (.reported admission true)) :
    TimelyOk (w.observe w.breaker.recordSuccess w.now (front ++ ⟨k (), none⟩ :: back)) := by
  have hbody := h.body_answer hcalls ()
  rcases h.report_cases hcalls htimely with ⟨hstate, hplain⟩ | ⟨hstate, hprobe⟩
  · refine h.replace hcalls rfl (observe_period_same _ _ _ hstate.symm) hstate.symm
      (h.flag_of_closed hstate).symm ?_ nofun hbody
    rw [hplain]
    rfl
  · have hnext : w.breaker.recordSuccess.state ≠ w.breaker.state := by
      simp [CircuitBreaker.recordSuccess, hstate]
    refine h.change hcalls rfl (observe_period_next _ _ _ hnext) ?_ (h.only_probe hcalls hprobe)
      ?_ nofun hbody
    · simp [BreakerWorld.observe, CircuitBreaker.recordSuccess]
    · simp [Call.isProbe, BreakerWorld.observe, CircuitBreaker.recordSuccess]

theorem fail (h : TimelyOk w) {k : Unit → BrowserProg T} {admission : Option Admission}
    {t : Instant} (hcalls : w.calls = front ++ ⟨.call .recordFailure k, admission⟩ :: back)
    (htimely : Timely w (.reported admission false)) :
    TimelyOk (w.observe (w.breaker.recordFailure c t) t (front ++ ⟨k (), none⟩ :: back)) := by
  have hbody := h.body_answer hcalls ()
  rcases h.report_cases hcalls htimely with ⟨hstate, hplain⟩ | ⟨hstate, hprobe⟩
  · by_cases hreached : c.failureThreshold ≤ w.breaker.failures + 1
    · have hopened : (w.breaker.recordFailure c t).state = .opened ∧
          (w.breaker.recordFailure c t).halfOpenInFlight = false := by
        simp [CircuitBreaker.recordFailure, hreached]
      have hnext : (w.breaker.recordFailure c t).state ≠ w.breaker.state := by
        simp [hopened.1, hstate]
      refine h.change hcalls rfl (observe_period_next _ _ _ hnext) ?_ ?_ ?_ nofun hbody
      · simp [BreakerWorld.observe, hopened]
      · intro other hother
        exact h.no_probe (by simp [hstate]) other (other_mem hcalls (by simpa using hother))
      · simp [Call.isProbe, BreakerWorld.observe, hopened.1]
    · have hsame : (w.breaker.recordFailure c t).state = w.breaker.state ∧
          (w.breaker.recordFailure c t).halfOpenInFlight = false := by
        simp [CircuitBreaker.recordFailure, hreached, hstate]
      refine h.replace hcalls rfl (observe_period_same _ _ _ hsame.1) hsame.1
        (hsame.2.trans (h.flag_of_closed hstate).symm) ?_ nofun hbody
      rw [hplain]
      rfl
  · have hopened : (w.breaker.recordFailure c t).state = .opened ∧
        (w.breaker.recordFailure c t).halfOpenInFlight = false := by
      simp [CircuitBreaker.recordFailure, hstate]
    have hnext : (w.breaker.recordFailure c t).state ≠ w.breaker.state := by
      simp [hopened.1, hstate]
    refine h.change hcalls rfl (observe_period_next _ _ _ hnext) ?_ (h.only_probe hcalls hprobe)
      ?_ nofun hbody
    · simp [BreakerWorld.observe, hopened]
    · simp [Call.isProbe, BreakerWorld.observe, hopened.1]

end TimelyOk

theorem TimelyOk.step (h : TimelyOk w) (hstep : BreakerStep c w event w')
    (htimely : Timely w event) : TimelyOk w' := by
  cases hstep with
  | submit p hp =>
      refine ⟨h.flag, ?_, ?_, ?_⟩
      · rw [← h.probes]
        simp [Call.isProbe]
      · intro call hcall a ha
        rcases List.mem_append.mp hcall with hold | hnew
        · exact h.admissions call hold a ha
        · rw [List.mem_singleton.mp hnew] at ha
          cases ha
      · intro call hcall
        rcases List.mem_append.mp hcall with hold | hnew
        · exact h.bodies call hold
        · rw [List.mem_singleton.mp hnew]
          exact keepsOrder_body hp
  | pass t front back k admission breaker hcalls ht hbefore => exact h.pass hcalls hbefore
  | refuse t front back k admission breaker e hcalls ht hbefore =>
      obtain rfl := h.refused hbefore
      obtain rfl := h.asking hcalls
      exact h.replace hcalls rfl (observe_period_same _ _ _ rfl) rfl rfl rfl nofun
        (h.body_answer hcalls (.error e))
  | operate front back k admission answer hcalls hraised =>
      have hadmission := h.admissions _ (call_mem hcalls)
      refine h.replace hcalls rfl rfl rfl rfl rfl hadmission ?_
      have hbody := h.body_answer hcalls answer
      cases answer with
      | ok result => exact hbody
      | error e => simpa [admitted, hraised e rfl] using hbody
  | cancel front back k admission e hcalls hcancelled =>
      refine h.replace hcalls rfl rfl rfl rfl ?_ nofun ?_
      · cases admission with
        | none => rfl
        | some a => simp [Call.isProbe, htimely a rfl]
      · have hbody := h.body_answer hcalls (.error e)
        simpa [admitted, hcancelled] using hbody
  | succeed front back k admission hcalls => exact h.succeed hcalls htimely
  | fail t front back k admission hcalls ht => exact h.fail hcalls htimely
  | sleep front back attempt k admission hcalls =>
      have hadmission := h.admissions _ (call_mem hcalls)
      exact h.replace hcalls rfl rfl rfl rfl rfl hadmission (h.body_answer hcalls ())

/-- A call that was admitted, and has not reported, has something left to do. -/
theorem TimelyOk.running (h : TimelyOk w) {call : Call T} (hcall : call ∈ w.calls)
    (hprobe : call.isProbe = true) : call.Running := by
  have hbody := h.bodies call hcall
  have hsome : call.admission.isSome = true := by
    cases hadmission : call.admission with
    | none => simp [Call.isProbe, hadmission] at hprobe
    | some a => rfl
  rw [hsome] at hbody
  cases hprogram : call.program with
  | pure result =>
      rw [hprogram] at hbody
      cases hbody
  | throw e =>
      rw [hprogram] at hbody
      cases hbody
  | call o k => exact ⟨o, k, hprogram⟩

/-- With no probe running, the breaker admits a call sooner or later. -/
theorem TimelyOk.admits (h : TimelyOk w) (hopened : OpenedOk w)
    (hnone : ∀ call ∈ w.calls, call.isProbe = false) :
    ∃ t, ∀ now, t ≤ now → (w.breaker.beforeCall c now).1 = .ok () := by
  have hflag := h.flag
  have hprobes := h.probes
  have hzero : w.calls.countP Call.isProbe = 0 :=
    List.countP_eq_zero.mpr fun call hcall => by simp [hnone call hcall]
  cases hstate : w.breaker.state with
  | closed => exact ⟨0, fun now _ => by simp [CircuitBreaker.beforeCall, hstate]⟩
  | halfOpen =>
      rw [hzero, if_pos hstate] at hprobes
      cases hprobes
  | opened =>
      obtain ⟨s, hs, -⟩ := hopened.openedAt hstate
      have hdown : w.breaker.halfOpenInFlight = false := by simpa [hstate] using hflag
      refine ⟨s + c.recoveryTimeout, ?_⟩
      intro now hnow
      have helapsed : ¬now - s < c.recoveryTimeout := by
        have hle : c.recoveryTimeout ≤ now - s := Int.le_sub_left_of_add_le hnow
        exact not_lt.mpr hle
      simp [CircuitBreaker.beforeCall, hstate, hs, helapsed, CircuitBreaker.beginProbe, hdown]

end Timely

section Sample

/-- A call before it asks, and one that was admitted at the start. -/
def waiting : Call Unit := ⟨executeOnce, none⟩

end Sample

end BhDic.Services
