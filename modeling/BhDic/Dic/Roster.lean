import BhDic.Dic.Reads

/-!
# The whole list of employees

`listAllEmployees` asks the adapter for page after page and trusts nothing about the answers: it
returns only a list that every page agrees is complete.
-/

namespace BhDic.Dic

open BhDic.Library BhDic.Python
open BhDic.Library.Prog

inductive EmployeeFilter
  | all | active | inactive
  deriving DecidableEq, Repr

inductive SortKey
  | name | payrollNumber | status | contract
  deriving DecidableEq, Repr

inductive SortDirection
  | asc | desc
  deriving DecidableEq, Repr

structure EmployeeListQuery where
  query : Option String := none
  employeeFilter : EmployeeFilter := .active
  sortBy : SortKey := .name
  sortDirection : SortDirection := .asc
  page : Nat := 1
  pageSize : Nat := 25
  deriving DecidableEq, Repr

/-- `list_employees` of the adapter. -/
abbrev rosterEffect : Effect where
  Op := EmployeeListQuery
  Ans _ := Except Exn EmployeeListResult

abbrev Roster (α : Type) := Prog rosterEffect Exn α

def listEmployees (query : EmployeeListQuery) : Roster EmployeeListResult :=
  (ask (E := rosterEffect) query).bind ofExcept

def validationError (message : String) : Exn := ⟨.dicValidationError, message⟩

/-! ## The loop -/

/-- What the loop has read so far: `expected_total`, `items` and `seen`. -/
structure Gathered where
  expectedTotal : Option Nat := none
  items : List EmployeeListItem := []
  seen : List String := []

def Gathered.addItems (g : Gathered) : List EmployeeListItem → Except Exn Gathered
  | [] => .ok g
  | item :: rest =>
      if item.employeeId ∈ g.seen then
        .error (validationError "employee pagination returned a duplicate identifier")
      else
        Gathered.addItems
          { g with items := g.items ++ [item], seen := g.seen ++ [item.employeeId] } rest

/-- The total the first page states, which every later one has to repeat. -/
def Gathered.agreeOnTotal (g : Gathered) (maxRecords total : Nat) : Except Exn Gathered :=
  match g.expectedTotal with
  | none => do
      ensure (total ≤ maxRecords)
        (validationError "employee result exceeds the configured safety limit")
      return { g with expectedTotal := some total }
  | some expected => do
      ensure (total = expected)
        (validationError "employee total changed while reading all pages")
      return g

/-- One round of the loop, after the read. -/
def Gathered.addPage (g : Gathered) (maxRecords page : Nat) (current : EmployeeListResult) :
    Except Exn Gathered := do
  ensure (current.page = page)
    (validationError "employee pagination returned an unexpected page")
  let g ← g.agreeOnTotal maxRecords current.total
  let g ← g.addItems current.items
  ensure (g.items.length ≤ maxRecords)
    (validationError "employee result exceeds the configured safety limit")
  return g

def EmployeeListQuery.atPage (query : EmployeeListQuery) (page : Nat) : EmployeeListQuery :=
  { query with page := page, pageSize := 100 }

/-- The loop from `page` on, with `remaining` more pages before `max_pages`. -/
def readPages (query : EmployeeListQuery) (maxRecords : Nat) :
    (remaining page : Nat) → Gathered → Roster Gathered
  | 0, page, g => do
      let current ← listEmployees (query.atPage page)
      let g ← ofExcept (g.addPage maxRecords page current)
      if current.hasNext then
        .throw (validationError "employee pagination exceeded the configured page limit")
      else return g
  | remaining + 1, page, g => do
      let current ← listEmployees (query.atPage page)
      let g ← ofExcept (g.addPage maxRecords page current)
      if current.hasNext then readPages query maxRecords remaining (page + 1) g
      else return g

/-- `list_all_employees`. -/
def listAllEmployees (query : EmployeeListQuery) (maxPages maxRecords : Nat) :
    Roster EmployeeListResult := do
  require (1 ≤ maxPages ∧ 1 ≤ maxRecords)
    ⟨.valueError, "employee pagination bounds must be positive"⟩
  let g ← readPages query maxRecords (maxPages - 1) 1 {}
  match g.expectedTotal with
  | none => .throw (validationError "employee pagination did not match the reported total")
  | some total => do
      require (g.items.length = total)
        (validationError "employee pagination did not match the reported total")
      return {
        items := g.items
        page := 1
        pageSize := max 1 g.items.length
        total := total
        hasNext := false }

/-! ## What has been gathered -/

/-- `g` is what the loop makes of `pages`. -/
structure Gathered.After (g : Gathered) (pages : List EmployeeListResult) : Prop where
  items : g.items = pages.flatMap (·.items)
  seen : g.seen = g.items.map (·.employeeId)
  nodup : g.seen.Nodup
  total : ∀ page ∈ pages, g.expectedTotal = some page.total

theorem Gathered.addItems_eq_ok {g g' : Gathered} {items : List EmployeeListItem}
    (h : g.addItems items = .ok g') (hseen : g.seen = g.items.map (·.employeeId))
    (hnodup : g.seen.Nodup) :
    g'.items = g.items ++ items ∧ g'.seen = g'.items.map (·.employeeId) ∧ g'.seen.Nodup ∧
      g'.expectedTotal = g.expectedTotal := by
  induction items generalizing g with
  | nil =>
      cases h
      exact ⟨(List.append_nil _).symm, hseen, hnodup, rfl⟩
  | cons item rest ih =>
      rw [Gathered.addItems] at h
      split at h
      · cases h
      · rename_i hnew
        have hnodup' : (g.seen ++ [item.employeeId]).Nodup := by
          refine List.nodup_append.mpr ⟨hnodup, List.nodup_singleton _, ?_⟩
          intro a ha b hb
          rw [List.mem_singleton.mp hb]
          rintro rfl
          exact hnew ha
        obtain ⟨hitems, hseen', hnodup'', htotal⟩ := ih h (by simp [hseen]) hnodup'
        refine ⟨?_, hseen', hnodup'', htotal⟩
        rw [hitems, List.append_assoc]
        rfl

theorem Gathered.agreeOnTotal_eq_ok {g g' : Gathered} {maxRecords total : Nat}
    (h : g.agreeOnTotal maxRecords total = .ok g') :
    g'.items = g.items ∧ g'.seen = g.seen ∧ g'.expectedTotal = some total ∧
      ∀ expected, g.expectedTotal = some expected → expected = total := by
  unfold Gathered.agreeOnTotal at h
  cases hexpected : g.expectedTotal with
  | none =>
      simp only [hexpected, bind_eq_ok, ensure_eq_ok] at h
      obtain ⟨_, -, h⟩ := h
      cases h
      exact ⟨rfl, rfl, rfl, fun _ h => by cases h⟩
  | some expected =>
      simp only [hexpected, bind_eq_ok, ensure_eq_ok] at h
      obtain ⟨_, rfl, h⟩ := h
      cases h
      exact ⟨rfl, rfl, hexpected, fun _ h => (Option.some.inj h).symm⟩

theorem Gathered.After.addPage {g g' : Gathered} {pages : List EmployeeListResult}
    {maxRecords page : Nat} {current : EmployeeListResult} (hg : g.After pages)
    (h : g.addPage maxRecords page current = .ok g') :
    current.page = page ∧ g'.items.length ≤ maxRecords ∧ g'.After (pages ++ [current]) := by
  simp only [Gathered.addPage, bind_eq_ok, ensure_eq_ok] at h
  obtain ⟨_, hpage, agreed, hagree, added, hadd, _, hbound, h⟩ := h
  cases h
  obtain ⟨hitems, hseen, htotal, hold⟩ := Gathered.agreeOnTotal_eq_ok hagree
  obtain ⟨hadded, hseen', hnodup, htotal'⟩ :=
    Gathered.addItems_eq_ok hadd (by rw [hseen, hitems, hg.seen]) (hseen ▸ hg.nodup)
  refine ⟨hpage, hbound, ?_, hseen', hnodup, ?_⟩
  · rw [hadded, hitems, hg.items]
    simp
  · intro other hother
    rw [htotal', htotal]
    rcases List.mem_append.mp hother with hother | hother
    · rw [hold _ (hg.total other hother)]
    · rw [List.mem_singleton.mp hother]

/-! ## The whole list or none -/

/-- The answers that give `pages`, from page number `page` on. -/
def answeredPages (query : EmployeeListQuery) :
    Nat → List EmployeeListResult → List rosterEffect.Answered
  | _, [] => []
  | page, current :: rest => ⟨query.atPage page, .ok current⟩ :: answeredPages query (page + 1) rest

theorem returns_listEmployees {query : EmployeeListQuery} {current : EmployeeListResult}
    {answers : List rosterEffect.Answered} :
    Returns (listEmployees query) answers current ↔ answers = [⟨query, .ok current⟩] := by
  constructor
  · intro h
    obtain ⟨answer, _, rfl, h⟩ := h
    obtain ⟨rfl, rfl⟩ := returns_ofExcept.mp h
    rfl
  · intro h
    exact ⟨.ok current, [], h, rfl, rfl⟩

/-- `pages` are the numbered pages of one reading: only the last one says it is the last. -/
structure Pages (page : Nat) (pages : List EmployeeListResult) : Prop where
  numbered : pages.map (·.page) = List.range' page pages.length
  last : ∃ before final, pages = before ++ [final] ∧ (∀ p ∈ before, p.hasNext = true) ∧
    final.hasNext = false

theorem Pages.singleton {page : Nat} {current : EmployeeListResult} (hpage : current.page = page)
    (hlast : current.hasNext = false) : Pages page [current] :=
  ⟨by simp [hpage], [], current, rfl, by simp, hlast⟩

theorem Pages.cons {page : Nat} {current : EmployeeListResult} {rest : List EmployeeListResult}
    (hpage : current.page = page) (hnext : current.hasNext = true) (h : Pages (page + 1) rest) :
    Pages page (current :: rest) := by
  obtain ⟨before, final, rfl, hbefore, hfinal⟩ := h.last
  refine ⟨?_, current :: before, final, rfl, ?_, hfinal⟩
  · rw [List.map_cons, h.numbered, hpage]
    rfl
  · intro p hp
    rcases List.mem_cons.mp hp with rfl | hp
    · exact hnext
    · exact hbefore p hp

theorem readPages_returns {query : EmployeeListQuery} {maxRecords remaining page : Nat}
    {g g' : Gathered} {read : List EmployeeListResult} {answers : List rosterEffect.Answered}
    (hg : g.After read) (h : Returns (readPages query maxRecords remaining page g) answers g') :
    ∃ pages, answers = answeredPages query page pages ∧ Pages page pages ∧
      g'.After (read ++ pages) ∧ g'.items.length ≤ maxRecords := by
  induction remaining generalizing page g read answers with
  | zero =>
      simp only [readPages, bind_def, returns_bind, returns_listEmployees, returns_ofExcept] at h
      obtain ⟨current, _, _, rfl, rfl, added, _, _, rfl, ⟨rfl, hadd⟩, h⟩ := h
      obtain ⟨hpage, hbound, hafter⟩ := hg.addPage hadd
      by_cases hnext : current.hasNext = true
      · rw [if_pos hnext] at h
        exact h.elim
      · rw [if_neg hnext] at h
        obtain ⟨rfl, rfl⟩ := h
        exact ⟨[current], rfl, .singleton hpage (Bool.eq_false_iff.mpr hnext), hafter, hbound⟩
  | succ remaining ih =>
      simp only [readPages, bind_def, returns_bind, returns_listEmployees, returns_ofExcept] at h
      obtain ⟨current, _, _, rfl, rfl, added, _, _, rfl, ⟨rfl, hadd⟩, h⟩ := h
      obtain ⟨hpage, hbound, hafter⟩ := hg.addPage hadd
      by_cases hnext : current.hasNext = true
      · rw [if_pos hnext] at h
        obtain ⟨pages, rfl, hpages, hafter', hbound'⟩ := ih hafter h
        refine ⟨current :: pages, rfl, hpages.cons hpage hnext, ?_, hbound'⟩
        rw [List.append_assoc] at hafter'
        exact hafter'
      · rw [if_neg hnext] at h
        obtain ⟨rfl, rfl⟩ := h
        exact ⟨[current], rfl, .singleton hpage (Bool.eq_false_iff.mpr hnext), hafter, hbound⟩

theorem readPages_callsAtMost (query : EmployeeListQuery) (maxRecords remaining page : Nat)
    (g : Gathered) : CallsAtMost (readPages query maxRecords remaining page g) (remaining + 1) := by
  have hlist : ∀ n, CallsAtMost (listEmployees (query.atPage n)) 1 := fun n =>
    (callsAtMost_ask _).bind fun _ => callsAtMost_ofExcept _
  induction remaining generalizing page g with
  | zero =>
      rw [show 0 + 1 = 1 + (0 + 0) from rfl]
      refine (hlist page).bind fun current => (callsAtMost_ofExcept _).bind fun added => ?_
      split <;> trivial
  | succ remaining ih =>
      rw [show remaining + 1 + 1 = 1 + (0 + (remaining + 1)) by omega]
      refine (hlist page).bind fun current => (callsAtMost_ofExcept _).bind fun added => ?_
      split
      · exact ih (page + 1) added
      · trivial

/-- A result that is the whole list: every page of one reading, in order, without duplicates, of
the length that every page states. -/
structure Complete (query : EmployeeListQuery) (maxRecords : Nat)
    (answers : List rosterEffect.Answered) (result : EmployeeListResult)
    (pages : List EmployeeListResult) : Prop where
  answered : answers = answeredPages query 1 pages
  numbered : Pages 1 pages
  items : result.items = pages.flatMap (·.items)
  distinct : (result.items.map (·.employeeId)).Nodup
  total : ∀ page ∈ pages, page.total = result.items.length
  bounded : result.items.length ≤ maxRecords

theorem listAllEmployees_returns {query : EmployeeListQuery} {maxPages maxRecords : Nat}
    {answers : List rosterEffect.Answered} {result : EmployeeListResult}
    (h : Returns (listAllEmployees query maxPages maxRecords) answers result) :
    ∃ pages, Complete query maxRecords answers result pages := by
  simp only [listAllEmployees, bind_def, returns_bind, returns_require] at h
  obtain ⟨_, _, _, rfl, ⟨rfl, -⟩, g, read, rest, rfl, hread, h⟩ := h
  have hstart : ({} : Gathered).After [] := ⟨rfl, rfl, List.nodup_nil, by simp⟩
  obtain ⟨pages, rfl, hpages, hafter, hbound⟩ := readPages_returns hstart hread
  cases htotal : g.expectedTotal with
  | none =>
      rw [htotal] at h
      exact h.elim
  | some total =>
      simp only [htotal, returns_bind, returns_require] at h
      obtain ⟨_, _, _, rfl, ⟨rfl, hlength⟩, rfl, rfl⟩ := h
      refine ⟨pages, by simp, hpages, hafter.items, hafter.seen ▸ hafter.nodup, ?_, hbound⟩
      intro page hpage
      have hstated := (hafter.total page hpage).symm.trans htotal
      rw [Option.some.inj hstated, hlength]

/-- The total that is returned is the number of the items, and within the limit. -/
theorem listAllEmployees_total {query : EmployeeListQuery} {maxPages maxRecords : Nat}
    {answers : List rosterEffect.Answered} {result : EmployeeListResult}
    (h : Returns (listAllEmployees query maxPages maxRecords) answers result) :
    result.items.length = result.total ∧ result.total ≤ maxRecords := by
  obtain ⟨pages, hcomplete⟩ := listAllEmployees_returns h
  have hlength : result.items.length = result.total := by
    simp only [listAllEmployees, bind_def, returns_bind, returns_require] at h
    obtain ⟨_, _, _, rfl, _, g, _, _, rfl, _, h⟩ := h
    cases htotal : g.expectedTotal with
    | none =>
        rw [htotal] at h
        exact h.elim
    | some total =>
        simp only [htotal, returns_bind, returns_require] at h
        obtain ⟨_, _, _, _, ⟨_, hlength⟩, _, rfl⟩ := h
        exact hlength
  exact ⟨hlength, hlength ▸ hcomplete.bounded⟩

theorem listAllEmployees_callsAtMost (query : EmployeeListQuery) (maxPages maxRecords : Nat) :
    CallsAtMost (listAllEmployees query maxPages maxRecords) maxPages := by
  by_cases hbounds : 1 ≤ maxPages ∧ 1 ≤ maxRecords
  · rw [listAllEmployees, require, if_pos hbounds]
    have hpages := readPages_callsAtMost query maxRecords (maxPages - 1) 1 {}
    rw [Nat.sub_add_cancel hbounds.1] at hpages
    refine hpages.bind (n := 0) fun g => ?_
    split
    · trivial
    · exact (callsAtMost_require _ _).bind (n := 0) fun _ => trivial
  · rw [listAllEmployees, require, if_neg hbounds]
    trivial

/-- **The whole list or an error.** Against any adapter, `list_all_employees` makes at most
`maxPages` reads, and what it returns is the whole list. -/
theorem listAllEmployees_complete {σ : Type}
    (adapter : (query : EmployeeListQuery) → σ → Except Exn EmployeeListResult × σ) (s : σ)
    (query : EmployeeListQuery) (maxPages maxRecords : Nat) :
    let program := listAllEmployees query maxPages maxRecords
    let answers := log (E := rosterEffect) adapter program s
    answers.length ≤ maxPages ∧
      match (run (E := rosterEffect) adapter program s).1 with
      | .ok result => ∃ pages, Complete query maxRecords answers result pages
      | .error e => Raises program answers e := by
  intro program answers
  refine ⟨(listAllEmployees_callsAtMost query maxPages maxRecords).log_length s, ?_⟩
  have hrun := run_log (E := rosterEffect) adapter program s
  cases hr : (run (E := rosterEffect) adapter program s).1 with
  | ok result =>
      rw [hr] at hrun
      exact listAllEmployees_returns hrun
  | error e =>
      rw [hr] at hrun
      exact hrun

end BhDic.Dic
