import BhDic.Library.Dict
import BhDic.Python.Exceptions
import Mathlib.Data.Rat.Defs
import Mathlib.Algebra.Order.Field.Rat
import Mathlib.Tactic.Linarith

/-!
# The sliding-window rate limiter

`SlidingWindowRateLimiter` keeps the times of what it admitted for each key and forgets those that
are a window old. A denied check is told to come back once the earliest time is forgotten, which is
enough where as many times are forgotten with it as the check lacks (`limits_iff`). Clock readings
are rational numbers.
-/

namespace BhDic.Security

open BhDic.Library BhDic.Python

structure RateLimitDecision where
  allowed : Bool
  remaining : Nat
  retryAfterSeconds : ℚ
  deriving DecidableEq

structure SlidingWindowRateLimiter where
  limit : Nat
  window : ℚ
  limit_pos : 0 < limit
  window_pos : 0 < window

/-- The times of what was admitted, for each key. -/
abbrev RateEvents := Dict String (List ℚ)

/-- `events[key]`, of a `defaultdict`. -/
def RateEvents.at (d : RateEvents) (key : String) : List ℚ := (d.get? key).getD []

namespace SlidingWindowRateLimiter

variable (l : SlidingWindowRateLimiter)

/-- What is left after `while events and events[0] <= threshold: events.popleft()`. -/
def unexpired (now : ℚ) (events : List ℚ) : List ℚ :=
  events.dropWhile fun event => event ≤ now - l.window

/-- What `check` decides on the events that are left, and the events after it. -/
def decision (now : ℚ) (cost : Nat) (events : List ℚ) : RateLimitDecision × List ℚ :=
  if l.limit < events.length + cost then
    (⟨false, l.limit - events.length,
      events.head?.elim l.window fun first => max 0 (first + l.window - now)⟩, events)
  else (⟨true, l.limit - (events.length + cost), 0⟩, events ++ List.replicate cost now)

/-- `check`. -/
def check (now : ℚ) (key : String) (cost : Int) (d : RateEvents) :
    Except Exn (RateLimitDecision × RateEvents) := do
  ensure (key ≠ "" ∧ 0 < cost ∧ cost ≤ l.limit) ⟨.valueError, "invalid rate-limit key or cost"⟩
  let decided := l.decision now cost.toNat (l.unexpired now (d.at key))
  return (decided.1, d.set key decided.2)

/-- `purge_idle`. -/
def purgeIdle (now : ℚ) (d : RateEvents) : RateEvents :=
  (d.mapKeys fun key => l.unexpired now (d.at key)).filterValues fun events => events ≠ []

/-! ## Runs -/

inductive Call
  | check (key : String) (cost : Int)
  | purgeIdle

/-- One call at one reading of the clock: the answer of a check, and the events after it. A check
that raises leaves the events. -/
def step (now : ℚ) (d : RateEvents) : Call → Option (Except Exn RateLimitDecision) × RateEvents
  | .check key cost =>
      match l.check now key cost d with
      | .ok (decision, d') => (some (.ok decision), d')
      | .error e => (some (.error e), d)
  | .purgeIdle => (none, l.purgeIdle now d)

/-- A run: each call with its reading of the clock. -/
abbrev Run := List (ℚ × Call)

/-- The events after a run. -/
def after (d : RateEvents) : Run → RateEvents
  | [] => d
  | (now, call) :: rest => after (l.step now d call).2 rest

/-- The answers of the checks of a run, in order. -/
def answers (d : RateEvents) : Run → List (Except Exn RateLimitDecision)
  | [] => []
  | (now, call) :: rest => (l.step now d call).1.toList ++ answers (l.step now d call).2 rest

structure Admitted where
  time : ℚ
  key : String
  cost : Nat

/-- What one call admits. -/
def admits (now : ℚ) (d : RateEvents) : Call → List Admitted
  | .check key cost =>
      match l.check now key cost d with
      | .ok (decision, _) => if decision.allowed then [⟨now, key, cost.toNat⟩] else []
      | .error _ => []
  | .purgeIdle => []

/-- What a run admits, the last first. -/
def admitted (d : RateEvents) (log : List Admitted) : Run → List Admitted
  | [] => log
  | (now, call) :: rest => admitted (l.step now d call).2 (l.admits now d call ++ log) rest

/-- The cost that was admitted for a key at the times that are meant. -/
def costOf (key : String) (times : ℚ → Bool) (log : List Admitted) : Nat :=
  ((log.filter fun a => a.key = key && times a.time).map (·.cost)).sum

/-- The clock does not run backwards, from a reading on. -/
def Forward : (now : ℚ) → Run → Prop
  | _, [] => True
  | now, (time, _) :: rest => now ≤ time ∧ Forward time rest

/-! ## What is promised -/

/-- A check that was denied in a state, with its decision. -/
def Denied (now : ℚ) (key : String) (cost : Int) (d : RateEvents) (decision : RateLimitDecision) :
    Prop :=
  decision.allowed = false ∧ ∃ d', l.check now key cost d = .ok (decision, d')

/-- Calls that do not check a key. -/
def Spares (key : String) (run : Run) : Prop := ∀ timed ∈ run, ∀ cost, timed.2 ≠ .check key cost

/-- A check that was denied is admitted when it is repeated after the delay it was told. -/
def RetryKept (now : ℚ) (key : String) (cost : Int) (d : RateEvents)
    (decision : RateLimitDecision) : Prop :=
  ∀ between later, Forward now between → (∀ timed ∈ between, timed.1 ≤ later) →
    Spares key between → now + decision.retryAfterSeconds ≤ later →
      ∃ repeated d', repeated.allowed = true ∧
        l.check later key cost (l.after (l.after d [(now, .check key cost)]) between) =
          .ok (repeated, d')

/-- As many times are forgotten with the earliest one as the check lacks. -/
def EnoughExpires (now : ℚ) (key : String) (cost : Int) (d : RateEvents) : Prop :=
  ((l.unexpired now (d.at key)).filter fun event =>
      (l.unexpired now (d.at key)).head? ≠ some event).length + cost ≤ l.limit

/-- What the limiter promises of a run that starts without events. -/
structure Limits (run : Run) : Prop where
  window : ∀ key start, costOf key (fun time => start < time ∧ time ≤ start + l.window)
      (l.admitted .empty [] run) ≤ l.limit ∧
    costOf key (fun time => start ≤ time ∧ time < start + l.window)
      (l.admitted .empty [] run) ≤ l.limit
  denied : ∀ pre now key cost post decision, run = pre ++ (now, .check key cost) :: post →
    l.Denied now key cost (l.after .empty pre) decision →
      l.answers (l.after .empty (pre ++ [(now, .check key cost)])) post =
        l.answers (l.after .empty pre) post
  purge : ∀ pre now post first, run = pre ++ post → Forward first (pre ++ (now, .purgeIdle) :: post) →
    l.answers .empty (pre ++ (now, .purgeIdle) :: post) = l.answers .empty run
  retry : ∀ pre now key cost post decision, run = pre ++ (now, .check key cost) :: post →
    l.Denied now key cost (l.after .empty pre) decision →
      l.RetryKept now key cost (l.after .empty pre) decision

/-! ## The events that are left -/

section Events

variable {l} {now later threshold : ℚ} {events : List ℚ} {d d' : RateEvents} {key key' : String}

theorem at_set : RateEvents.at (d.set key events) key' = if key' = key then events else d.at key' := by
  rw [RateEvents.at, Dict.get?_set]
  split <;> rfl

theorem find_mapKeys (f : String → List ℚ) (items : List (String × List ℚ)) :
    Dict.find key (items.map fun item => (item.1, f item.1)) =
      (Dict.find key items).map fun _ => f key := by
  induction items with
  | nil => rfl
  | cons item items ih =>
    by_cases hkey : item.1 = key
    · simp [Dict.find, hkey]
    · simp [Dict.find, hkey, ih]

theorem at_purgeIdle : (l.purgeIdle now d).at key = l.unexpired now (d.at key) := by
  have hfind : (d.mapKeys fun key => l.unexpired now (d.at key)).get? key =
      (d.get? key).map fun _ => l.unexpired now (d.at key) :=
    find_mapKeys (fun key => l.unexpired now (d.at key)) d.items
  rw [RateEvents.at, purgeIdle, Dict.get?_filterValues, hfind]
  cases hget : d.get? key with
  | none => simp [RateEvents.at, hget, unexpired]
  | some stored =>
    by_cases hempty : l.unexpired now (d.at key) = [] <;> simp [hempty, Option.filter_some]

/-- What is left later is left of what is left now. -/
theorem unexpired_unexpired (h : now ≤ later) :
    l.unexpired later (l.unexpired now events) = l.unexpired later events := by
  induction events with
  | nil => rfl
  | cons event events ih =>
    by_cases hold : event ≤ now - l.window
    · have hlater : event ≤ later - l.window := by linarith
      rw [unexpired, unexpired, List.dropWhile_cons_of_pos (by simpa using hold), unexpired,
        List.dropWhile_cons_of_pos (by simpa using hlater)]
      exact ih
    · rw [unexpired, unexpired, List.dropWhile_cons_of_neg (by simpa using hold)]
      rfl

/-- In order, what is left is what is younger than the window. -/
theorem dropWhile_eq_filter (h : events.Pairwise (· ≤ ·)) :
    (events.dropWhile fun event => event ≤ threshold) =
      events.filter fun event => threshold < event := by
  induction events with
  | nil => rfl
  | cons event events ih =>
    obtain ⟨hevent, hevents⟩ := List.pairwise_cons.mp h
    by_cases hold : event ≤ threshold
    · rw [List.dropWhile_cons_of_pos (by simpa using hold), ih hevents,
        List.filter_cons_of_neg (by simpa using hold)]
    · have hyoung : ∀ e ∈ event :: events, threshold < e := by
        intro e he
        rcases List.mem_cons.mp he with rfl | he
        · exact lt_of_not_ge hold
        · exact lt_of_lt_of_le (lt_of_not_ge hold) (hevent e he)
      rw [List.dropWhile_cons_of_neg (by simpa using hold)]
      exact (List.filter_eq_self.mpr (by simpa using hyoung)).symm

theorem unexpired_sublist : (l.unexpired now events).Sublist events := List.dropWhile_sublist _

theorem countP_unexpired (h : now - l.window ≤ threshold) :
    (l.unexpired now events).countP (fun event => threshold < event) =
      events.countP fun event => threshold < event := by
  induction events with
  | nil => rfl
  | cons event events ih =>
    by_cases hold : event ≤ now - l.window
    · have hnot : ¬threshold < event := not_lt.mpr (hold.trans h)
      rw [unexpired, List.dropWhile_cons_of_pos (by simpa using hold),
        List.countP_cons_of_neg (by simpa using hnot)]
      exact ih
    · rw [unexpired, List.dropWhile_cons_of_neg (by simpa using hold)]

end Events

/-! ## One call -/

section Calls

variable {l} {now later : ℚ} {d d' : RateEvents} {key : String} {cost : Int}
  {decided : RateLimitDecision} {call : Call}

/-- What a check is given has to be. -/
def IsCall (l : SlidingWindowRateLimiter) (key : String) (cost : Int) : Prop :=
  key ≠ "" ∧ 0 < cost ∧ cost ≤ l.limit

instance (l : SlidingWindowRateLimiter) (key : String) (cost : Int) : Decidable (l.IsCall key cost) :=
  inferInstanceAs (Decidable (_ ∧ _))

theorem check_of_isCall (h : l.IsCall key cost) :
    l.check now key cost d =
      .ok ((l.decision now cost.toNat (l.unexpired now (d.at key))).1,
        d.set key (l.decision now cost.toNat (l.unexpired now (d.at key))).2) := by
  have hvalid : key ≠ "" ∧ 0 < cost ∧ cost ≤ l.limit := h
  rw [check, ensure, if_pos hvalid]
  rfl

theorem check_of_not_isCall (h : ¬l.IsCall key cost) :
    l.check now key cost d = .error ⟨.valueError, "invalid rate-limit key or cost"⟩ := by
  have hvalid : ¬(key ≠ "" ∧ 0 < cost ∧ cost ≤ l.limit) := h
  rw [check, ensure, if_neg hvalid]
  rfl

theorem check_eq_ok :
    l.check now key cost d = .ok (decided, d') ↔
      l.IsCall key cost ∧
        (l.decision now cost.toNat (l.unexpired now (d.at key))).1 = decided ∧
        d.set key (l.decision now cost.toNat (l.unexpired now (d.at key))).2 = d' := by
  by_cases hvalid : l.IsCall key cost
  · simp [check_of_isCall hvalid, hvalid]
  · simp [check_of_not_isCall hvalid, hvalid]

/-- Two states with the same events left. -/
def Agree (l : SlidingWindowRateLimiter) (now : ℚ) (d d' : RateEvents) : Prop :=
  ∀ key, l.unexpired now (d.at key) = l.unexpired now (d'.at key)

theorem Agree.mono (h : l.Agree now d d') (hlater : now ≤ later) : l.Agree later d d' := by
  intro key
  rw [← unexpired_unexpired hlater, h key, unexpired_unexpired hlater]

theorem Agree.symm (h : l.Agree now d d') : l.Agree now d' d := fun key => (h key).symm

theorem agree_purgeIdle : l.Agree now (l.purgeIdle now d) d := by
  intro key
  rw [at_purgeIdle, unexpired_unexpired le_rfl]

/-- A call answers from what is left, and leaves states that agree. -/
theorem Agree.step (h : l.Agree now d d') :
    (l.step now d call).1 = (l.step now d' call).1 ∧
      l.Agree now (l.step now d call).2 (l.step now d' call).2 := by
  cases call with
  | purgeIdle =>
    refine ⟨rfl, fun key => ?_⟩
    show l.unexpired now ((l.purgeIdle now d).at key) = l.unexpired now ((l.purgeIdle now d').at key)
    rw [at_purgeIdle, at_purgeIdle, h key]
  | check key cost =>
    by_cases hvalid : l.IsCall key cost
    · simp only [SlidingWindowRateLimiter.step, check_of_isCall hvalid, h key, true_and]
      intro key'
      rw [at_set, at_set]
      split
      · rfl
      · exact h key'
    · simp only [SlidingWindowRateLimiter.step, check_of_not_isCall hvalid, true_and]
      exact h

/-- A check that denies leaves a state that agrees. -/
theorem Denied.agree (h : l.Denied now key cost d decided) :
    l.Agree now (l.step now d (.check key cost)).2 d := by
  obtain ⟨hdenied, d', hcheck⟩ := h
  obtain ⟨hvalid, rfl, rfl⟩ := check_eq_ok.mp hcheck
  have hevents : (l.decision now cost.toNat (l.unexpired now (d.at key))).2 =
      l.unexpired now (d.at key) := by
    rw [decision] at hdenied ⊢
    split at hdenied
    · rename_i hfull
      rw [if_pos hfull]
    · cases hdenied
  intro key'
  simp only [SlidingWindowRateLimiter.step, check_of_isCall hvalid, hevents, at_set]
  split
  · rename_i hkey
    rw [hkey, unexpired_unexpired le_rfl]
  · rfl

end Calls

/-! ## Runs, proved -/

section Runs

variable {l} {now later first : ℚ} {d d' : RateEvents} {key : String} {cost : Int}
  {decided : RateLimitDecision} {call : Call} {run pre post between : Run} {log : List Admitted}

theorem after_append : l.after d (pre ++ post) = l.after (l.after d pre) post := by
  induction pre generalizing d with
  | nil => rfl
  | cons timed pre ih => exact ih

theorem answers_append :
    l.answers d (pre ++ post) = l.answers d pre ++ l.answers (l.after d pre) post := by
  induction pre generalizing d with
  | nil => rfl
  | cons timed pre ih =>
    rw [List.cons_append, answers, ih, answers, after, List.append_assoc]

theorem Forward.weaken (h : Forward later run) (hlater : now ≤ later) : Forward now run := by
  cases run with
  | nil => trivial
  | cons timed run => exact ⟨hlater.trans h.1, h.2⟩

/-- What follows a call does not precede it. -/
theorem Forward.of_append (h : Forward first (pre ++ (now, call) :: post)) :
    first ≤ now ∧ Forward now post := by
  induction pre generalizing first with
  | nil => exact h
  | cons timed pre ih =>
    obtain ⟨hnow, hpost⟩ := ih h.2
    exact ⟨h.1.trans hnow, hpost⟩

/-- States that agree answer alike from then on. -/
theorem Agree.answers (h : l.Agree now d d') (hforward : Forward now run) :
    l.answers d run = l.answers d' run := by
  induction run generalizing now d d' with
  | nil => rfl
  | cons timed run ih =>
    obtain ⟨hsame, hagree⟩ : (l.step timed.1 d timed.2).1 = (l.step timed.1 d' timed.2).1 ∧
        l.Agree timed.1 (l.step timed.1 d timed.2).2 (l.step timed.1 d' timed.2).2 :=
      (h.mono hforward.1).step
    rw [SlidingWindowRateLimiter.answers, SlidingWindowRateLimiter.answers, hsame,
      ih hagree hforward.2]

/-! ### What was admitted -/

theorem costOf_cons {times : ℚ → Bool} {a : Admitted} :
    costOf key times (a :: log) =
      (if a.key = key ∧ times a.time = true then a.cost else 0) + costOf key times log := by
  rw [costOf, List.filter_cons]
  by_cases hcounted : a.key = key ∧ times a.time = true
  · simp [hcounted, costOf]
  · rw [if_neg (by simpa using hcounted), if_neg hcounted, Nat.zero_add, costOf]

theorem costOf_mono {times times' : ℚ → Bool} (h : ∀ a ∈ log, times a.time = true →
    times' a.time = true) : costOf key times log ≤ costOf key times' log := by
  induction log with
  | nil => exact Nat.le_refl _
  | cons a log ih =>
    have hrest := ih fun b hb => h b (List.mem_cons_of_mem _ hb)
    have hfirst := h a List.mem_cons_self
    rw [costOf_cons, costOf_cons]
    split
    · rename_i hcounted
      rw [if_pos ⟨hcounted.1, hfirst hcounted.2⟩]
      omega
    · omega

/-- The invariant of a run: in order, the times of what was admitted in the last window. -/
structure Recorded (l : SlidingWindowRateLimiter) (now : ℚ) (d : RateEvents) (log : List Admitted) :
    Prop where
  ordered : ∀ key, (d.at key).Pairwise (· ≤ ·)
  past : ∀ key, ∀ event ∈ d.at key, event ≤ now
  stored : ∀ key threshold, now - l.window ≤ threshold →
    costOf key (threshold < ·) log = (d.at key).countP (threshold < ·)

theorem recorded_empty : l.Recorded now .empty [] := by
  constructor
  · exact fun key => .nil
  · intro key event hevent
    cases hevent
  · exact fun key threshold _ => rfl

theorem Recorded.mono (h : l.Recorded now d log) (hlater : now ≤ later) :
    l.Recorded later d log where
  ordered := h.ordered
  past key event hevent := (h.past key event hevent).trans hlater
  stored key threshold hthreshold := h.stored key threshold (by linarith)

/-- A call forgets what is old of a key, and adds what it admits. -/
structure Adds (l : SlidingWindowRateLimiter) (now : ℚ) (d : RateEvents) (call : Call) (key : String)
    (count : Nat) : Prop where
  events : (l.step now d call).2.at key =
    l.unexpired now (d.at key) ++ List.replicate count now
  cost : ∀ times log, costOf key times (l.admits now d call ++ log) =
    (if times now then count else 0) + costOf key times log
  room : 0 < count → (l.unexpired now (d.at key)).length + count ≤ l.limit

/-- A call leaves a key alone. -/
structure Leaves (l : SlidingWindowRateLimiter) (now : ℚ) (d : RateEvents) (call : Call)
    (key : String) : Prop where
  events : (l.step now d call).2.at key = d.at key
  cost : ∀ times log, costOf key times (l.admits now d call ++ log) = costOf key times log

theorem adds_or_leaves (l : SlidingWindowRateLimiter) (now : ℚ) (d : RateEvents) (call : Call)
    (key : String) :
    (∃ count, l.Adds now d call key count) ∨ l.Leaves now d call key := by
  cases call with
  | purgeIdle =>
    refine .inl ⟨0, ?_, ?_, ?_⟩
    · rw [List.replicate_zero, List.append_nil]
      exact at_purgeIdle
    · intro times log
      simp [admits]
    · omega
  | check checked cost =>
    by_cases hvalid : l.IsCall checked cost
    · by_cases hkey : key = checked
      · subst hkey
        left
        by_cases hfull : l.limit < (l.unexpired now (d.at key)).length + cost.toNat
        · refine ⟨0, ?_, ?_, by omega⟩
          · simp [step, check_of_isCall hvalid, at_set, decision, hfull]
          · intro times log
            simp [admits, check_of_isCall hvalid, decision, hfull]
        · refine ⟨cost.toNat, ?_, ?_, by omega⟩
          · simp [step, check_of_isCall hvalid, at_set, decision, hfull]
          · intro times log
            simp [admits, check_of_isCall hvalid, decision, hfull, costOf_cons]
      · refine .inr ⟨?_, ?_⟩
        · simp [step, check_of_isCall hvalid, at_set, hkey]
        · intro times log
          have hother : ¬checked = key := Ne.symm hkey
          by_cases hfull : l.limit < (l.unexpired now (d.at checked)).length + cost.toNat <;>
            simp [admits, check_of_isCall hvalid, decision, hfull, costOf_cons, hother]
    · refine .inr ⟨?_, ?_⟩
      · simp [step, check_of_not_isCall hvalid]
      · intro times log
        simp [admits, check_of_not_isCall hvalid]

theorem Recorded.step (h : l.Recorded now d log) (call : Call) :
    l.Recorded now (l.step now d call).2 (l.admits now d call ++ log) := by
  have hnew : ∀ count, ∀ event ∈ List.replicate count now, event = now :=
    fun count event hevent => List.eq_of_mem_replicate hevent
  constructor
  · intro key
    rcases adds_or_leaves l now d call key with ⟨count, hadds⟩ | hleaves
    · rw [hadds.events, List.pairwise_append]
      refine ⟨(h.ordered key).sublist unexpired_sublist, ?_, ?_⟩
      · exact List.pairwise_replicate.mpr (.inr le_rfl)
      · intro event hevent new hmem
        rw [hnew count new hmem]
        exact h.past key event (unexpired_sublist.mem hevent)
    · rw [hleaves.events]
      exact h.ordered key
  · intro key event hevent
    rcases adds_or_leaves l now d call key with ⟨count, hadds⟩ | hleaves
    · rw [hadds.events] at hevent
      rcases List.mem_append.mp hevent with hold | hmem
      · exact h.past key event (unexpired_sublist.mem hold)
      · exact le_of_eq (hnew count event hmem)
    · rw [hleaves.events] at hevent
      exact h.past key event hevent
  · intro key threshold hthreshold
    rcases adds_or_leaves l now d call key with ⟨count, hadds⟩ | hleaves
    · rw [hadds.cost, hadds.events, List.countP_append, countP_unexpired hthreshold,
        h.stored key threshold hthreshold, List.countP_replicate]
      omega
    · rw [hleaves.cost, hleaves.events]
      exact h.stored key threshold hthreshold

/-- What is admitted in a window ends with some call, when all it admitted is among the events. -/
theorem Recorded.window (h : l.Recorded now d log) {times : ℚ → Bool}
    (htimes : ∀ time, times time = true → now - l.window < time)
    (hlog : costOf key times log ≤ l.limit) :
    costOf key times (l.admits now d call ++ log) ≤ l.limit := by
  rcases adds_or_leaves l now d call key with ⟨count, hadds⟩ | hleaves
  · by_cases hcount : 0 < count
    · have hmono : costOf key times (l.admits now d call ++ log) ≤
          costOf key (now - l.window < ·) (l.admits now d call ++ log) :=
        costOf_mono fun a _ ha => by simpa using htimes a.time ha
      have hstored := (h.step call).stored key (now - l.window) le_rfl
      have hlength : ((l.step now d call).2.at key).length ≤ l.limit := by
        rw [hadds.events, List.length_append, List.length_replicate]
        exact hadds.room hcount
      have hcountP := List.countP_le_length (p := fun event => decide (now - l.window < event))
        (l := (l.step now d call).2.at key)
      omega
    · have hzero : count = 0 := by omega
      rw [hadds.cost, hzero]
      simpa using hlog
  · rw [hleaves.cost]
    exact hlog

/-- Both kinds of window are kept by a run. -/
def WithinLimit (l : SlidingWindowRateLimiter) (log : List Admitted) : Prop :=
  ∀ key start, costOf key (fun time => start < time ∧ time ≤ start + l.window) log ≤ l.limit ∧
    costOf key (fun time => start ≤ time ∧ time < start + l.window) log ≤ l.limit

theorem costOf_outside {times : ℚ → Bool} (call : Call) (h : times now = false) :
    costOf key times (l.admits now d call ++ log) = costOf key times log := by
  rcases adds_or_leaves l now d call key with ⟨count, hadds⟩ | hleaves
  · rw [hadds.cost, h]
    simp
  · exact hleaves.cost times log

theorem WithinLimit.step (h : l.Recorded now d log) (hwithin : l.WithinLimit log) (call : Call) :
    l.WithinLimit (l.admits now d call ++ log) := by
  intro key start
  obtain ⟨hopen, hclosed⟩ := hwithin key start
  constructor
  · -- a window that the call is not in stays as it is
    by_cases hin : start < now ∧ now ≤ start + l.window
    · apply h.window _ hopen
      intro time htime
      simp only [decide_eq_true_eq] at htime
      linarith [htime.1, hin.2]
    · rw [costOf_outside call (by simpa using hin)]
      exact hopen
  · by_cases hin : start ≤ now ∧ now < start + l.window
    · apply h.window _ hclosed
      intro time htime
      simp only [decide_eq_true_eq] at htime
      linarith [htime.1, hin.2]
    · rw [costOf_outside call (by simpa using hin)]
      exact hclosed

/-- What a run records, from any state in which its log is recorded. -/
theorem run_recorded (h : l.Recorded now d log) (hwithin : l.WithinLimit log)
    (hforward : Forward now run) : l.WithinLimit (l.admitted d log run) := by
  induction run generalizing now d log with
  | nil => exact hwithin
  | cons timed run ih =>
    have htime := h.mono hforward.1
    exact ih (htime.step timed.2) (hwithin.step htime timed.2) hforward.2

/-- The state in which a run makes a call is recorded. -/
theorem recorded_before (h : l.Recorded first d log)
    (hforward : Forward first (pre ++ (now, call) :: post)) :
    ∃ log', l.Recorded now (l.after d pre) log' := by
  induction pre generalizing first d log with
  | nil => exact ⟨log, h.mono hforward.1⟩
  | cons timed pre ih => exact ih ((h.mono hforward.1).step timed.2) hforward.2

/-! ### Retries -/

theorem Denied.events_ne_nil (h : l.Denied now key cost d decided) :
    ∃ first rest, l.unexpired now (d.at key) = first :: rest ∧
      decided.retryAfterSeconds = max 0 (first + l.window - now) ∧
      now - l.window < first := by
  obtain ⟨hdenied, d', hcheck⟩ := h
  obtain ⟨hvalid, rfl, rfl⟩ := check_eq_ok.mp hcheck
  cases hevents : l.unexpired now (d.at key) with
  | nil =>
    exfalso
    have hroom : ¬l.limit < cost.toNat := by
      have := hvalid.2.2
      omega
    rw [hevents, decision, if_neg (by simpa using hroom)] at hdenied
    cases hdenied
  | cons first rest =>
    refine ⟨first, rest, rfl, ?_, ?_⟩
    · have hfull : l.limit < (first :: rest).length + cost.toNat := by
        by_contra hroom
        rw [hevents, decision, if_neg hroom] at hdenied
        cases hdenied
      rw [decision, if_pos hfull]
      rfl
    · have hhead := List.head?_dropWhile_not (fun event => decide (event ≤ now - l.window)) (d.at key)
      rw [show (d.at key).dropWhile (fun event => decide (event ≤ now - l.window)) = first :: rest
        from hevents] at hhead
      simpa using hhead

/-- Calls that spare a key leave of its events what is left of them. -/
theorem unexpired_after (hspares : Spares key between) (htimes : ∀ timed ∈ between, timed.1 ≤ later) :
    l.unexpired later ((l.after d between).at key) = l.unexpired later (d.at key) := by
  induction between generalizing d with
  | nil => rfl
  | cons timed between ih =>
    have hfirst : l.unexpired later ((l.step timed.1 d timed.2).2.at key) =
        l.unexpired later (d.at key) := by
      rcases htimed : timed.2 with ⟨checked, cost⟩ | _
      · have hkey : key ≠ checked := by
          rintro rfl
          exact hspares timed List.mem_cons_self cost htimed
        by_cases hvalid : l.IsCall checked cost
        · simp [step, check_of_isCall hvalid, at_set, hkey]
        · simp [step, check_of_not_isCall hvalid]
      · show l.unexpired later ((l.purgeIdle timed.1 d).at key) = _
        rw [at_purgeIdle, unexpired_unexpired (htimes timed List.mem_cons_self)]
    rw [after, ih (fun timed hmem => hspares timed (List.mem_cons_of_mem _ hmem))
      (fun timed hmem => htimes timed (List.mem_cons_of_mem _ hmem)), hfirst]

/-- A repeated check is admitted when there is room for it. -/
theorem allowed_iff_room (hvalid : l.IsCall key cost) :
    (∃ repeated d', repeated.allowed = true ∧ l.check later key cost d = .ok (repeated, d')) ↔
      (l.unexpired later (d.at key)).length + cost.toNat ≤ l.limit := by
  rw [check_of_isCall hvalid]
  by_cases hfull : l.limit < (l.unexpired later (d.at key)).length + cost.toNat
  · simp [decision, hfull]
  · simp only [decision, hfull, if_false, Except.ok.injEq, Prod.mk.injEq]
    constructor
    · intro _
      omega
    · intro _
      exact ⟨_, _, rfl, rfl, rfl⟩

/-- A retry is kept just when enough expires with the earliest event. -/
theorem retryKept_iff (h : l.Recorded now d log) (hdenied : l.Denied now key cost d decided) :
    l.RetryKept now key cost d decided ↔ l.EnoughExpires now key cost d := by
  obtain ⟨first, rest, hevents, hretry, hyoung⟩ := hdenied.events_ne_nil
  have hvalid : l.IsCall key cost := by
    obtain ⟨_, d', hcheck⟩ := hdenied
    exact (check_eq_ok.mp hcheck).1
  have hcost : (cost.toNat : Int) = cost := Int.toNat_of_nonneg hvalid.2.1.le
  have hpositive : max 0 (first + l.window - now) = first + l.window - now :=
    max_eq_right (by linarith)
  have hordered : (first :: rest).Pairwise (· ≤ ·) := by
    rw [← hevents]
    exact (h.ordered key).sublist unexpired_sublist
  -- after any run that spares the key, what is left is younger than the window
  have hleft : ∀ between later, (∀ timed ∈ between, timed.1 ≤ later) → Spares key between →
      now ≤ later →
      l.unexpired later ((l.after (l.after d [(now, .check key cost)]) between).at key) =
        (first :: rest).filter (later - l.window < ·) := by
    intro between later htimes hspares hlater
    rw [unexpired_after hspares htimes]
    show l.unexpired later ((l.step now d (.check key cost)).2.at key) = _
    rw [← unexpired_unexpired hlater, hdenied.agree key, hevents]
    exact dropWhile_eq_filter hordered
  have hexpires : l.EnoughExpires now key cost d ↔
      ((first :: rest).filter (first < ·)).length + cost.toNat ≤ l.limit := by
    have hsame : (first :: rest).filter (fun event => first < event) =
        (first :: rest).filter (fun event => some first ≠ some event) := by
      apply List.filter_congr
      intro event hevent
      have hle : first ≤ event := by
        rcases List.mem_cons.mp hevent with rfl | hmem
        · exact le_rfl
        · exact (List.pairwise_cons.mp hordered).1 event hmem
      simp [lt_iff_le_and_ne, hle]
    rw [EnoughExpires, hevents, hsame, List.head?_cons]
    omega
  rw [hexpires]
  constructor
  · intro hkept
    have hnow : now ≤ first + l.window := by linarith
    have hagain := hkept [] (first + l.window) trivial (by simp) (by simp [Spares])
      (by rw [hretry, hpositive]; linarith)
    rw [allowed_iff_room hvalid, hleft [] _ (by simp) (by simp [Spares]) hnow] at hagain
    simpa using hagain
  · intro hroom between later hforward htimes hspares hdelay
    rw [hretry, hpositive] at hdelay
    rw [allowed_iff_room hvalid, hleft between later htimes hspares (by linarith)]
    have hfewer : ((first :: rest).filter (later - l.window < ·)).length ≤
        ((first :: rest).filter (first < ·)).length := by
      apply List.Sublist.length_le
      apply List.monotone_filter_right
      intro event hevent
      simp only [decide_eq_true_eq] at hevent ⊢
      linarith
    omega

/-! ## Main result -/

/-- A run meets what the limiter promises exactly when, at each denied check, enough expires with the
earliest event. -/
theorem limits_iff (hforward : Forward first run) :
    l.Limits run ↔ ∀ pre now key cost post decided, run = pre ++ (now, .check key cost) :: post →
      l.Denied now key cost (l.after .empty pre) decided →
        l.EnoughExpires now key cost (l.after .empty pre) := by
  constructor
  · rintro hlimits pre now key cost post decided rfl hdenied
    obtain ⟨log, hrecorded⟩ := recorded_before recorded_empty hforward (l := l)
    exact (retryKept_iff hrecorded hdenied).mp (hlimits.retry pre now key cost post decided rfl hdenied)
  · intro hexpires
    constructor
    · intro key start
      have hempty : l.WithinLimit [] := fun key start => ⟨Nat.zero_le _, Nat.zero_le _⟩
      exact run_recorded recorded_empty hempty hforward key start
    · rintro pre now key cost post decided rfl hdenied
      rw [after_append]
      exact Agree.answers hdenied.agree (Forward.of_append hforward).2
    · rintro pre now post first' rfl hpurged
      rw [answers_append, answers_append, answers]
      congr 1
      exact Agree.answers agree_purgeIdle (Forward.of_append hpurged).2
    · rintro pre now key cost post decided rfl hdenied
      obtain ⟨log, hrecorded⟩ := recorded_before recorded_empty hforward (l := l)
      exact (retryKept_iff hrecorded hdenied).mpr
        (hexpires pre now key cost post decided rfl hdenied)

end Runs

/-! ## Samples -/

section Samples

def twoInTen : SlidingWindowRateLimiter := ⟨2, 10, by norm_num, by norm_num⟩

/-- What is decided of a denied check. -/
theorem Denied.allowed_eq {l : SlidingWindowRateLimiter} {now : ℚ} {key : String} {cost : Int}
    {d : RateEvents} {decided : RateLimitDecision} (h : l.Denied now key cost d decided) :
    (l.decision now cost.toNat (l.unexpired now (d.at key))).1.allowed = false := by
  obtain ⟨hdenied, d', hcheck⟩ := h
  obtain ⟨_, rfl, _⟩ := check_eq_ok.mp hcheck
  exact hdenied

theorem denied_of_full {l : SlidingWindowRateLimiter} {now : ℚ} {key : String} {cost : Int}
    {d : RateEvents} (hvalid : l.IsCall key cost)
    (hfull : l.limit < (l.unexpired now (d.at key)).length + cost.toNat) :
    l.Denied now key cost d (l.decision now cost.toNat (l.unexpired now (d.at key))).1 := by
  refine ⟨?_, _, check_of_isCall hvalid⟩
  rw [decision, if_pos hfull]

/-- A check that fills the window, and one that is denied until the whole of it expires. -/
theorem limits_atOnce : twoInTen.Limits [(0, .check "user" 2), (1, .check "user" 1)] := by
  have hforward : Forward 0 [(0, .check "user" 2), (1, .check "user" 1)] := by
    simp [Forward]
  apply (limits_iff hforward).mpr
  intro pre now key cost post decided hrun hdenied
  rcases pre with _ | ⟨timed, _ | ⟨timed', pre⟩⟩
  · obtain ⟨⟨rfl, rfl, rfl⟩, rfl⟩ : (0 = now ∧ "user" = key ∧ 2 = cost) ∧ _ := by
      simpa [and_assoc] using hrun
    exact absurd hdenied.allowed_eq (by decide +kernel)
  · obtain ⟨rfl, ⟨rfl, rfl, rfl⟩, rfl⟩ :
        (0, Call.check "user" 2) = timed ∧ (1 = now ∧ "user" = key ∧ 1 = cost) ∧ post = [] := by
      simpa [and_assoc, eq_comm] using hrun
    rw [EnoughExpires]
    decide +kernel
  · simp at hrun

/-- A check of cost two, told to come back when one of the two events expires. -/
theorem limits_costTwo :
    ¬twoInTen.Limits [(0, .check "user" 1), (5, .check "user" 1), (5, .check "user" 2)] := by
  have hforward : Forward 0
      ([(0, .check "user" 1), (5, .check "user" 1)] ++ [(5, .check "user" 2)]) := by
    simp [Forward]
  have hdenied : twoInTen.Denied 5 "user" 2
      (twoInTen.after .empty [(0, .check "user" 1), (5, .check "user" 1)]) _ :=
    denied_of_full (by decide +kernel) (by decide +kernel)
  intro hlimits
  obtain ⟨log, hrecorded⟩ := recorded_before recorded_empty hforward
  have hexpires := (retryKept_iff hrecorded hdenied).mp
    (hlimits.retry [(0, .check "user" 1), (5, .check "user" 1)] 5 "user" 2 [] _ rfl hdenied)
  revert hexpires
  rw [EnoughExpires]
  decide +kernel

end Samples

end SlidingWindowRateLimiter

end BhDic.Security
