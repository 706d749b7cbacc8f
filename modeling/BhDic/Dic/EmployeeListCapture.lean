import BhDic.Dic.Responses
import BhDic.Library.Paging

/-!
# Pages of the employee list

`_pagination` checks the numbers of one page against one another. Pages that pass it with the same
total, one after another up to the page that has none after it, are all of the list and nothing
twice (`pages_exact`).
-/

namespace BhDic.Dic

open BhDic.Library BhDic.Python

/-- `EMPLOYEE_LIST_PAGE_SIZE`. -/
def employeeListPageSize : Nat := 20

def listFailure (reason : String) : Exn :=
  ⟨.dicUiChangedError, "employee list response validation failed: " ++ reason⟩

def listSchemaFailure : Exn := listFailure "invalid response schema"

/-- `_ROOT_KEYS`. -/
def listRootKeys : List String :=
  ["current_page", "data", "first_page_url", "from", "last_page", "last_page_url", "links",
    "next_page_url", "path", "per_page", "prev_page_url", "to", "total"]

def isNull : Json → Bool
  | .null => true
  | _ => false

/-- The end of `_pagination`: the bounds of a page with so many items after `offset` others. -/
def checkBounds (fields : List (String × Json)) (count : Nat) (offset total : Int) :
    Except Exn Unit := do
  let start := fieldOf fields "from"
  let finish := fieldOf fields "to"
  if count ≠ 0 then
    let expectedStart := offset + 1
    let failure := listFailure "invalid pagination bounds"
    let first ← strictInt listSchemaFailure 1 start
    ensure (first = expectedStart) failure
    let last ← strictInt listSchemaFailure 1 finish
    ensure (last = expectedStart + count - 1 ∧ expectedStart + count - 1 ≤ total) failure
  else
    ensure (isNull start ∧ isNull finish) (listFailure "invalid empty pagination bounds")

/-- `_pagination`. -/
def pagination (fields : List (String × Json)) (expectedPage : Int) :
    Except Exn (Int × Int × Bool) := do
  let currentPage ← strictInt listSchemaFailure 1 (fieldOf fields "current_page")
  let lastPage ← strictInt listSchemaFailure 1 (fieldOf fields "last_page")
  let perPage ← strictInt listSchemaFailure 1 (fieldOf fields "per_page")
  let total ← strictInt listSchemaFailure 0 (fieldOf fields "total")
  ensure (currentPage = expectedPage ∧ perPage = employeeListPageSize ∧
      lastPage = max 1 ((total + perPage - 1) / perPage) ∧ currentPage ≤ lastPage)
    (listFailure "pagination does not match UI action")
  match fieldOf fields "data" with
  | .arr data => do
      ensure (data.length ≤ perPage) (listFailure "invalid pagination schema")
      let offset := (currentPage - 1) * perPage
      let expectedCount := min perPage (max 0 (total - offset))
      ensure (data.length = expectedCount) (listFailure "invalid pagination bounds")
      checkBounds fields data.length offset total
      return (currentPage, perPage, currentPage < lastPage)
  | _ => throw (listFailure "invalid pagination schema")

/-- What `employee_list_result_from_response` asks of the numbers of a document. -/
def acceptPage (document : Json) (expectedPage : Int) : Except Exn (Int × Int × Bool) :=
  match document with
  | .obj fields => do
      ensure (hasKeys listRootKeys fields) (listFailure "invalid response schema")
      pagination fields expectedPage
  | _ => .error (listFailure "invalid response schema")

/-! ## What a page says -/

def rootField (key : String) : Json → Json
  | .obj fields => fieldOf fields key
  | _ => .null

/-- How many items a document has. -/
def itemCount (document : Json) : Nat :=
  match rootField "data" document with
  | .arr data => data.length
  | _ => 0

/-- The numbers of its items, from `from` to `to`. -/
def itemNumbers (document : Json) : List Nat :=
  match rootField "from" document, rootField "to" document with
  | .int first, .int last => List.range' first.toNat (last.toNat + 1 - first.toNat)
  | _, _ => []

/-- The documents are accepted as pages 1, 2 and so on, each with the same total, and the last has
no page after it. `answers` is what `_pagination` returns for each. -/
structure AcceptedPages (documents : List Json) (total : Nat) (answers : List (Int × Int × Bool)) :
    Prop where
  nonempty : documents ≠ []
  accepted : ∀ k (_ : k < documents.length), ∃ answer, answers[k]? = some answer ∧
    acceptPage documents[k] (k + 1 : Nat) = .ok answer
  length : answers.length = documents.length
  same_total : ∀ document ∈ documents, rootField "total" document = .int total
  last : ∃ answer, answers.getLast? = some answer ∧ answer.2.2 = false

/-- The pages are all of the list, nothing is on two of them, and each but the last says that there
is a page after it. -/
structure ExactPages (documents : List Json) (total : Nat) (answers : List (Int × Int × Bool)) :
    Prop where
  numbers : documents.flatMap itemNumbers = List.range' 1 total
  counts : (documents.map itemCount).sum = total
  hasNext : ∀ k (_ : k < documents.length), ∃ answer, answers[k]? = some answer ∧
    (answer.2.2 = true ↔ k + 1 < documents.length)
  empty : total = 0 → documents.length = 1

/-! ## One page -/

theorem strictInt_eq_ok {e : Exn} {minimum n : Int} {value : Json} :
    strictInt e minimum value = .ok n ↔ value = .int n ∧ minimum ≤ n := by
  cases value <;> simp only [strictInt, reduceCtorEq, false_and]
  split
  · simp only [Except.ok.injEq, Json.int.injEq]
    constructor
    · rintro rfl
      exact ⟨rfl, by assumption⟩
    · exact And.left
  · simp only [Json.int.injEq, reduceCtorEq, false_iff]
    rintro ⟨rfl, h⟩
    contradiction

/-- What an accepted page says of itself, page `k` being counted from zero. -/
structure PageOf (document : Json) (k total : Nat) (answer : Int × Int × Bool) : Prop where
  within : k < pages employeeListPageSize total
  count : itemCount document = pageCount employeeListPageSize total k
  numbers : itemNumbers document = pageNumbers employeeListPageSize total k
  hasNext : answer.2.2 = true ↔ k + 1 < pages employeeListPageSize total

/-- The bounds of a page are the numbers of its items. -/
theorem checkBounds_eq_ok {fields : List (String × Json)} {count offset total : Nat}
    (h : checkBounds fields count offset total = .ok ()) :
    itemNumbers (.obj fields) = List.range' (offset + 1) count := by
  rw [itemNumbers, rootField, rootField]
  rcases Nat.eq_zero_or_pos count with rfl | hpos
  · simp only [checkBounds, ne_eq, not_true_eq_false, if_false, ensure_eq_ok] at h
    cases hstart : fieldOf fields "from" <;> simp [hstart, isNull] at h ⊢
  · have hne : count ≠ 0 := by omega
    simp only [checkBounds, hne, ne_eq, not_false_eq_true, if_true, bind_eq_ok, ensure_eq_ok,
      strictInt_eq_ok] at h
    obtain ⟨first, ⟨hfrom, -⟩, -, hfirst, last, ⟨hto, -⟩, hlast, -⟩ := h
    rw [hfrom, hto]
    have hstart : first.toNat = offset + 1 := by omega
    have hlength : last.toNat + 1 - first.toNat = count := by omega
    show List.range' first.toNat (last.toNat + 1 - first.toNat) = _
    rw [hlength, hstart]

theorem acceptPage_eq_ok {document : Json} {k total : Nat} {answer : Int × Int × Bool}
    (h : acceptPage document (k + 1 : Nat) = .ok answer)
    (htotal : rootField "total" document = .int total) : PageOf document k total answer := by
  cases document with
  | obj fields =>
    rw [rootField] at htotal
    simp only [acceptPage, pagination, bind_eq_ok, ensure_eq_ok, strictInt_eq_ok, htotal,
      Json.int.injEq] at h
    obtain ⟨-, -, current, -, lastPage, -, perPage, -, _, ⟨rfl, -⟩, -,
      ⟨hcurrent, hsize, hlastPage, hwithin⟩, h⟩ := h
    have hpages : lastPage = (pages employeeListPageSize total : Nat) := by
      rw [hlastPage, hsize, pages, employeeListPageSize]
      omega
    cases hdata : fieldOf fields "data" with
    | arr data =>
      simp only [hdata, bind_eq_ok, ensure_eq_ok] at h
      obtain ⟨-, -, -, hcount, ⟨⟩, hbounds, hanswer⟩ := h
      cases hanswer
      have hoffset : (current - 1) * perPage = (k * employeeListPageSize : Nat) := by
        rw [hcurrent, hsize]
        push_cast
        ring
      have hlength : data.length = pageCount employeeListPageSize total k := by
        rw [hoffset, hsize] at hcount
        rw [pageCount]
        omega
      constructor
      · omega
      · simpa [itemCount, rootField, hdata] using hlength
      · rw [hoffset] at hbounds
        rw [pageNumbers, ← hlength]
        exact checkBounds_eq_ok hbounds
      · simp only [decide_eq_true_eq]
        omega
    | _ => simp [hdata] at h
  | _ => cases h

/-! ## All pages -/

/-- What holds of each page in its place holds of the list of pages. -/
theorem map_eq_map_range {α β : Type} {f : α → β} {g : Nat → β} {as : List α}
    (h : ∀ k (_ : k < as.length), f as[k] = g k) : as.map f = (List.range as.length).map g := by
  apply List.ext_getElem
  · simp
  · intro k hk _
    simpa using h k (by simpa using hk)

theorem AcceptedPages.exact {documents : List Json} {total : Nat}
    {answers : List (Int × Int × Bool)} (h : AcceptedPages documents total answers) :
    ExactPages documents total answers := by
  have hpage : ∀ k (_ : k < documents.length), ∃ answer, answers[k]? = some answer ∧
      PageOf documents[k] k total answer := by
    intro k hk
    obtain ⟨answer, hanswer, haccepted⟩ := h.accepted k hk
    exact ⟨answer, hanswer,
      acceptPage_eq_ok haccepted (h.same_total _ (List.getElem_mem hk))⟩
  have hpos : 0 < documents.length := List.length_pos_of_ne_nil h.nonempty
  -- the last page is the one that `last_page` counts to
  have hlength : documents.length = pages employeeListPageSize total := by
    obtain ⟨answer, hanswer, hpageOf⟩ := hpage (documents.length - 1) (by omega)
    obtain ⟨last, hlast, hnone⟩ := h.last
    rw [List.getLast?_eq_getElem?, h.length, hanswer] at hlast
    cases hlast
    have hwithin := hpageOf.within
    have hnot := mt hpageOf.hasNext.mpr (by simp [hnone])
    omega
  have htotal : min (documents.length * employeeListPageSize) total = total := by
    rw [hlength]
    exact Nat.min_eq_right (total_le_pages (by decide))
  constructor
  · have hnumbers : documents.map itemNumbers =
        (List.range documents.length).map (pageNumbers employeeListPageSize total) := by
      apply map_eq_map_range
      intro k hk
      obtain ⟨_, -, hpageOf⟩ := hpage k hk
      exact hpageOf.numbers
    rw [List.flatMap_def, hnumbers, ← List.flatMap_def, flatMap_pageNumbers, htotal]
  · have hcounts : documents.map itemCount =
        (List.range documents.length).map (pageCount employeeListPageSize total) := by
      apply map_eq_map_range
      intro k hk
      obtain ⟨_, -, hpageOf⟩ := hpage k hk
      exact hpageOf.count
    rw [hcounts, sum_pageCount, htotal]
  · intro k hk
    obtain ⟨answer, hanswer, hpageOf⟩ := hpage k hk
    refine ⟨answer, hanswer, ?_⟩
    rw [hlength]
    exact hpageOf.hasNext
  · rintro rfl
    rw [hlength, pages_zero (by decide)]

section Sample

/-- The numbers of a page, with so many items. -/
def samplePage (page lastPage count total : Nat) (bounds : Option (Nat × Nat)) : Json :=
  let bound (f : Nat × Nat → Nat) : Json := bounds.elim .null fun b => .int (f b)
  .obj [("current_page", .int page), ("data", .arr (List.replicate count .null)),
    ("first_page_url", .null), ("from", bound Prod.fst), ("last_page", .int lastPage),
    ("last_page_url", .null), ("links", .null), ("next_page_url", .null), ("path", .null),
    ("per_page", .int 20), ("prev_page_url", .null), ("to", bound Prod.snd),
    ("total", .int total)]

end Sample

/-- **Page arithmetic.** Accepted pages with the same total, up to the one that has none after it,
are the list without gap or overlap; and an empty list is accepted as one page. -/
theorem pages_exact :
    (∀ documents total answers, AcceptedPages documents total answers →
      ExactPages documents total answers) ∧
    ∃ document answers, AcceptedPages [document] 0 answers ∧ itemCount document = 0 := by
  refine ⟨fun _ _ _ h => h.exact, samplePage 1 1 0 0 none, [(1, 20, false)], ?_, rfl⟩
  constructor
  · simp
  · intro k hk
    obtain rfl : k = 0 := by simpa using hk
    exact ⟨_, rfl, rfl⟩
  · rfl
  · simp [samplePage, rootField, fieldOf, Dict.find]
  · exact ⟨_, rfl, rfl⟩

/-- Twenty-one employees on two pages. -/
theorem pages_exact_twentyOne : ExactPages
    [samplePage 1 2 20 21 (some (1, 20)), samplePage 2 2 1 21 (some (21, 21))] 21
    [(1, 20, true), (2, 20, false)] := by
  apply pages_exact.1
  constructor
  · simp
  · intro k hk
    have hcases : k = 0 ∨ k = 1 := by
      simp only [List.length_cons, List.length_nil] at hk
      omega
    rcases hcases with rfl | rfl
    · exact ⟨_, rfl, rfl⟩
    · exact ⟨_, rfl, rfl⟩
  · rfl
  · simp [samplePage, rootField, fieldOf, Dict.find]
  · exact ⟨_, rfl, rfl⟩

end BhDic.Dic
