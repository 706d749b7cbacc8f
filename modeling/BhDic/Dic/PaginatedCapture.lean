import BhDic.Dic.Responses
import BhDic.Dic.Values
import BhDic.Library.Trace
import BhDic.Python.Integer
import BhDic.Python.UrlParts

/-!
# Complete pagination

`collect_complete_pages` follows the pages of a collection through links that the server gives. It
asks one URL after another through `page.evaluate`, and nothing is assumed of the answers.
-/

namespace BhDic.Dic.PaginatedCapture

open BhDic.Library BhDic.Python

/-- The origin's location. -/
def dicNetloc : List Char := "secure.dipendentincloud.it".toList

/-- `MAX_RESPONSE_BYTES`. -/
def maxPageBytes : Nat := 2 * 1024 * 1024

/-- `MAX_PAGES`. -/
def maxPages : Nat := 500

/-- `MAX_RECORDS`. -/
def maxRecords : Nat := 5000

/-! ## Endpoints and pages -/

/-- What `__post_init__` asks of a resource: `[a-z][a-z0-9_.]{1,79}`. -/
def isResourceName (resource : String) : Bool :=
  match resource.toList with
  | c :: rest =>
      c.isLower && 1 ≤ rest.length && rest.length ≤ 79 &&
        rest.all fun x => x.isLower || x.isDigit || x == '_' || x == '.'
  | [] => false

/-- What it asks of a paginator's path. -/
def isPaginatorPath (path : String) : Bool :=
  match path.toList with
  | '/' :: rest =>
      rest.head? != some '/' && rest.all (fun c => c != '?' && c != '#' && c != '\\') &&
        rest.length < 256
  | _ => false

/-- An endpoint whose collections are read page by page. -/
structure PaginatedEndpointContract where
  resource : String
  endpointPath : String
  allowedQueryKeys : List String
  employeeQueryKey : Option String
  requiredItemKeys : List String
  paginatorPath : Option String := none
  resource_name : isResourceName resource = true
  endpoint_backend : "/backend_apiV2/".toList <+: endpointPath.toList
  employeeKey_allowed : ∀ key ∈ employeeQueryKey, key ∈ allowedQueryKeys
  paginator_valid : ∀ path ∈ paginatorPath, isPaginatorPath path = true
  required_ne : requiredItemKeys ≠ []

/-- An object of a collection. -/
abbrev PageItem := List (String × Json)

structure PaginatedJsonPage where
  items : List PageItem
  currentPage : Nat
  lastPage : Nat
  perPage : Nat
  total : Nat
  requestUrl : String
  nextPageUrl : Option String

/-- The tables, and how a field of a query is read. -/
structure PaginatedData extends CaptureData where
  /-- `json.loads` on the text of a field: nothing where it raises `JSONDecodeError`. -/
  loadsField : String → Except Exn (Option Json)

variable (d : PaginatedData) (c : PaginatedEndpointContract)

/-- `_failure`. -/
def paginationFailure (reason : String) : Exn :=
  ⟨.dicUiChangedError, c.resource ++ " response validation failed: " ++ reason⟩

/-! ## URLs -/

/-- `int(employee_id)`, which refuses more than 4300 digits. -/
def employeeNumber (employeeId : String) : Except Exn Int :=
  match if employeeId.length ≤ 4300 then readInt d.unicode employeeId.toList else none with
  | some n => .ok n
  | none => .error ⟨.valueError, "invalid literal for int() with base 10"⟩

def isOnly (test : Json → Bool) : List Json → Bool
  | [item] => test item
  | _ => false

def isEmployeeText (employeeId : String) : Json → Bool
  | .str text => text == employeeId
  | _ => false

/-- `_employee_query_matches`. -/
def employeeQueryMatches (raw employeeId : String) : Except Exn Bool :=
  if raw = employeeId then .ok true
  else do
    match ← d.loadsField raw with
    | some (.arr items) =>
        if isOnly (isEmployeeText employeeId) items then return true
        else if isDigitText d.unicode employeeId.toList then do
          let n ← employeeNumber d employeeId
          return isOnly (equalsInt d.floats · n) items
        else return false
    | _ => return false

/-- The employee a URL has to name, if the endpoint has such a field. -/
def checkEmployee (values : Dict String String) (employeeId : Option String) : Except Exn Unit :=
  match c.employeeQueryKey, employeeId with
  | some _, none => .error (paginationFailure c "employee metadata is required")
  | some key, some employeeId => do
      let mismatch : Exn := ⟨.responseMismatch, "response does not match requested employee"⟩
      match values.get? key with
      | none => throw mismatch
      | some raw => ensure ((← employeeQueryMatches d raw employeeId) = true) mismatch
  | none, some _ => .error (paginationFailure c "unexpected employee metadata")
  | none, none => .ok ()

def checkPage (values : Dict String String) (expectedPage : Option Nat) : Except Exn Unit :=
  match expectedPage with
  | none => .ok ()
  | some page => ensure (values.get? "page" = some (toString page))
      (paginationFailure c "unexpected page metadata")

/-- The path a URL has to have: the server's own links may have another. -/
def expectedPath (paginator : Bool) : String :=
  if paginator then c.paginatorPath.getD c.endpointPath else c.endpointPath

/-- `_validate_url`. -/
def validateUrl (employeeId : Option String) (url : String) (expectedPage : Option Nat)
    (paginator : Bool) : Except Exn (Dict String String) := do
  let values ← endpointQuery (paginationFailure c) d.toUrlData 32 (expectedPath c paginator) url
  ensure (∀ item ∈ values.items, item.1 ∈ c.allowedQueryKeys)
    (paginationFailure c "unexpected query metadata")
  checkEmployee d c values employeeId
  checkPage c values expectedPage
  return values

/-! ## Documents -/

/-- `_strict_int`. -/
def strictCount (minimum : Nat) (value : Json) : Except Exn Nat :=
  (strictInt (paginationFailure c "invalid pagination schema") minimum value).map Int.toNat

def requiredRoot : List String :=
  ["current_page", "data", "last_page", "next_page_url", "per_page", "total"]

def pageItem : Json → Except Exn PageItem
  | .obj item =>
      if hasKeys c.requiredItemKeys item then .ok item
      else .error (paginationFailure c "invalid item schema")
  | _ => .error (paginationFailure c "invalid item schema")

def pageItems (perPage : Nat) : Json → Except Exn (List PageItem)
  | .arr data => do
      ensure (data.length ≤ perPage) (paginationFailure c "invalid collection schema")
      data.mapM (pageItem c)
  | _ => .error (paginationFailure c "invalid collection schema")

def rawNext : Json → Except Exn (Option String)
  | .null => .ok none
  | .str url =>
      if url.length ≤ 2048 then .ok (some url)
      else .error (paginationFailure c "invalid next-page metadata")
  | _ => .error (paginationFailure c "invalid next-page metadata")

/-- The link to the next page: there is one on every page but the last. -/
def checkNext (employeeId : Option String) (currentPage lastPage : Nat) (next : Option String) :
    Except Exn Unit := do
  ensure (¬(currentPage < lastPage ∧ next = none)) (paginationFailure c "missing next page")
  ensure (¬(currentPage = lastPage ∧ next ≠ none)) (paginationFailure c "unexpected next page")
  match next with
  | none => return
  | some url => do
      let _ ← validateUrl d c employeeId url (some (currentPage + 1)) true
      return

/-- `_page_from_document`. -/
def pageFromDocument (employeeId : Option String) (document : Json) (requestUrl : String) :
    Except Exn PaginatedJsonPage :=
  match document with
  | .obj fields => do
      ensure (hasKeys requiredRoot fields) (paginationFailure c "invalid response schema")
      let currentPage ← strictCount c 1 (fieldOf fields "current_page")
      let lastPage ← strictCount c 1 (fieldOf fields "last_page")
      let perPage ← strictCount c 1 (fieldOf fields "per_page")
      let total ← strictCount c 0 (fieldOf fields "total")
      ensure (currentPage ≤ lastPage ∧ lastPage ≤ maxPages ∧ perPage ≤ 100 ∧ total ≤ maxRecords)
        (paginationFailure c "pagination bounds exceeded")
      let items ← pageItems c perPage (fieldOf fields "data")
      let next ← rawNext c (fieldOf fields "next_page_url")
      checkNext d c employeeId currentPage lastPage next
      return ⟨items, currentPage, lastPage, perPage, total, requestUrl, next⟩
  | _ => .error (paginationFailure c "invalid response schema")

/-- `page_from_response`. -/
def pageFromResponse (employeeId : Option String) (response : Response) :
    Except Exn PaginatedJsonPage := do
  let _ ← validateUrl d c employeeId response.url none false
  checkMetadata (paginationFailure c) d.toCaptureData maxPageBytes response.metadata
  let document ← readDocument (paginationFailure c) d.toCaptureData maxPageBytes response.body
  pageFromDocument d c employeeId document response.url

/-! ## Fetching -/

/-- What a fetch came back with, if it is the JSON of a page: its URL and its text. -/
def fetchedText (fields : List (String × Json)) : Option (String × String) :=
  match fieldOf fields "url", fieldOf fields "contentType", fieldOf fields "body" with
  | .str url, .str contentType, .str body =>
      if equalsInt d.floats (fieldOf fields "status") 200 &&
          isJsonType d.toCaptureData contentType && body.utf8ByteSize ≤ maxPageBytes then
        some (url, body)
      else none
  | _, _, _ => none

def isOversized : Json → Bool
  | .bool b => b
  | _ => false

/-- A page of the number given. -/
abbrev PageAt (n : Nat) := {page : PaginatedJsonPage // page.currentPage = n}

/-- `_page_from_fetch`. -/
def pageFromFetch (employeeId : Option String) (raw : Json) (expectedPage : Nat)
    (paginator : Bool) : Except Exn (PageAt expectedPage) :=
  match raw with
  | .obj fields => do
      ensure (isOversized (fieldOf fields "oversized") = false)
        (paginationFailure c "response exceeds read limit")
      match fetchedText d fields with
      | none => throw (paginationFailure c "unexpected next-page response")
      | some (url, body) => do
          let _ ← validateUrl d c employeeId url (some expectedPage) paginator
          match d.loads (encodeUtf8 body) with
          | none => throw (paginationFailure c "invalid response document")
          | some document => do
              let page ← pageFromDocument d c employeeId document url
              if h : page.currentPage = expectedPage then return ⟨page, h⟩
              else throw (paginationFailure c "pagination did not advance")
  | _ => .error (paginationFailure c "next-page response unavailable")

/-- The headers that a session is recognised by. -/
structure SessionHeaders where
  authorization : String
  deviceId : String

/-- What `page.evaluate` is asked to fetch, and with which headers. -/
structure PageRequest where
  url : String
  headers : Option SessionHeaders

/-- `page.evaluate`, which may answer anything or raise anything. -/
abbrev pageEvaluator : Effect where
  Op := PageRequest
  Ans _ := Except Exn Json

/-- The headers that may be sent. -/
def headersAllowed (headers : SessionHeaders) : Bool :=
  headers.authorization != "" && headers.authorization.length ≤ 8192 && headers.deviceId != "" &&
    headers.deviceId.length ≤ 512 &&
    (headers.authorization ++ headers.deviceId).toList.all fun x =>
      x != '\r' && x != '\n' && x != Char.ofNat 0

/-- The dictionary of the two headers, and of no other one. -/
def readHeaders (headers : Dict String String) : Except Exn SessionHeaders :=
  match headers.get? "authorization", headers.get? "x-device-id" with
  | some authorization, some deviceId =>
      if headers.items.length = 2 then
        if headersAllowed ⟨authorization, deviceId⟩ then .ok ⟨authorization, deviceId⟩
        else .error (paginationFailure c "invalid session header capability")
      else .error (paginationFailure c "invalid session header capability")
  | _, _ => .error (paginationFailure c "invalid session header capability")

def requestOf (url : String) : Option (Dict String String) → Except Exn PageRequest
  | none => .ok ⟨url, none⟩
  | some headers => (readHeaders c headers).map fun headers => ⟨url, some headers⟩

/-- `except Exception: raise ... from None`. -/
def evaluated : Except Exn Json → Except Exn Json
  | .ok raw => .ok raw
  | .error e =>
      .error (if e.isA .exception then paginationFailure c "next-page request failed" else e)

variable (employeeId : Option String) (headers : Option (Dict String String))

/-- What is made of an answer. -/
def receivePage (expectedPage : Nat) (paginator : Bool) (answer : Except Exn Json) :
    Except Exn (PageAt expectedPage) := do
  pageFromFetch d c employeeId (← evaluated c answer) expectedPage paginator

/-- What is asked, once the URL is found to be the one of the page. -/
def askPage (url : String) (expectedPage : Nat) (paginator : Bool) : Except Exn PageRequest := do
  let _ ← validateUrl d c employeeId url (some expectedPage) paginator
  requestOf c url headers

/-- `fetch_paginated_page`. It is not unfolded but by its two lemmas. -/
@[irreducible] def fetchPaginatedPage (url : String) (expectedPage : Nat) (paginator : Bool) :
    Prog pageEvaluator Exn (PageAt expectedPage) :=
  (Prog.ofExcept (askPage d c employeeId headers url expectedPage paginator)).bind fun request =>
    (Prog.ask request).bind fun answer =>
      Prog.ofExcept (receivePage d c employeeId expectedPage paginator answer)

/-! ## The collection -/

/-- A page that has as many records and pages to it as the first one. -/
structure AgreeingPage (first : PaginatedJsonPage) extends PaginatedJsonPage where
  total_eq : total = first.total
  lastPage_eq : lastPage = first.lastPage

/-- The URL of the page after this one: the query of the link, at the endpoint itself. -/
def canonicalNextUrl (baseQuery : Dict String String) (current : PaginatedJsonPage) :
    Except Exn String :=
  match current.nextPageUrl with
  | none => .error (paginationFailure c "missing next page")
  | some next => do
      let nextQuery ← validateUrl d c employeeId next (some (current.currentPage + 1)) true
      ensure ((nextQuery.erase "page").equals baseQuery)
        (paginationFailure c "pagination query changed")
      match urlsplit d.toUrlData next with
      | none => throw ⟨.valueError, next⟩
      | some parts => return httpsUrl dicNetloc c.endpointPath.toList parts.query

/-- The loop of `collect_complete_pages`, from one page on. -/
def followingPages (first : PaginatedJsonPage) (baseQuery : Dict String String)
    (current : AgreeingPage first) : Prog pageEvaluator Exn (List PaginatedJsonPage) :=
  if current.currentPage < current.lastPage then
    (Prog.ofExcept (canonicalNextUrl d c employeeId baseQuery current.toPaginatedJsonPage)).bind
      fun url =>
        (fetchPaginatedPage d c employeeId headers url (current.currentPage + 1) false).bind
          fun following =>
            if h : following.val.total = first.total ∧ following.val.lastPage = first.lastPage then
              (followingPages first baseQuery ⟨following.val, h.1, h.2⟩).bind fun rest =>
                .pure (following.val :: rest)
            else .throw (paginationFailure c "pagination metadata changed")
  else .pure []
termination_by first.lastPage - current.currentPage
decreasing_by
  have := following.property
  have := current.lastPage_eq
  omega

/-- The items of the pages, if there are as many as were declared. -/
def completeItems (first : PaginatedJsonPage) (following : List PaginatedJsonPage) :
    Except Exn (List PageItem) :=
  let items := (first :: following).flatMap (·.items)
  if items.length = first.total then .ok items
  else .error (paginationFailure c "incomplete pagination")

/-- The query of the first page, but for the number of the page. -/
def baseQueryOf (first : PaginatedJsonPage) : Except Exn (Dict String String) :=
  (validateUrl d c employeeId first.requestUrl (some first.currentPage) false).map (·.erase "page")

/-- `collect_complete_pages`. -/
@[irreducible] def collectCompletePages (first : PaginatedJsonPage) :
    Prog pageEvaluator Exn (List PageItem) :=
  (Prog.ofExcept (baseQueryOf d c employeeId first)).bind fun baseQuery =>
    (followingPages d c employeeId headers first baseQuery ⟨first, rfl, rfl⟩).bind fun following =>
      Prog.ofExcept (completeItems c first following)

/-! ## What is asked -/

/-- The URL of a page of the collection: it is at the endpoint itself, and its query is the one given
but for the number of the page. -/
def NamesPage (baseQuery : Dict String String) (page : Nat) (url : String) : Prop :=
  ∃ parsed pairs values, urlsplit d.toUrlData url = some parsed ∧
    isEndpoint c.endpointPath parsed = true ∧
    parseQsl d.toUrlData true 32 parsed.query = some pairs ∧ queryValues pairs = some values ∧
    values.get? "page" = some (toString page) ∧
    ∀ key, key ≠ "page" → values.get? key = baseQuery.get? key

/-- The pages that were received for the answers, from the one after `k` to the last. -/
inductive Received (first : PaginatedJsonPage) :
    Nat → List pageEvaluator.Answered → List PaginatedJsonPage → Prop
  | last {k : Nat} : ¬k < first.lastPage → Received first k [] []
  | next {k : Nat} {request : PageRequest} {answer : Except Exn Json} {page : PageAt (k + 1)}
      {answers : List pageEvaluator.Answered} {pages : List PaginatedJsonPage} :
      k < first.lastPage → receivePage d c employeeId (k + 1) false answer = .ok page →
      page.val.total = first.total → page.val.lastPage = first.lastPage →
      Received first (k + 1) answers pages →
      Received first k (⟨request, answer⟩ :: answers) (page.val :: pages)

section Asked

variable {d c employeeId headers}

theorem endpointQuery_eq_ok {failure : String → Exn} {data : UrlData} {n : Nat} {path url : String}
    {values : Dict String String} : endpointQuery failure data n path url = .ok values ↔
      ∃ parsed pairs, urlsplit data url = some parsed ∧
        parseQsl data true n parsed.query = some pairs ∧
        isEndpoint path parsed = true ∧ queryValues pairs = some values := by
  unfold endpointQuery
  constructor
  · intro h
    split at h
    · cases h
    next parsed hparsed =>
      split at h
      · cases h
      next pairs hpairs =>
        split at h
        next hendpoint =>
          split at h
          · cases h
          next values' hvalues =>
            cases h
            exact ⟨parsed, pairs, hparsed, hpairs, hendpoint, hvalues⟩
        · cases h
  · rintro ⟨parsed, pairs, hparsed, hpairs, hendpoint, hvalues⟩
    simp only [hparsed, hpairs, hendpoint, hvalues, if_true]

theorem validateUrl_eq_ok {url : String} {expectedPage : Option Nat} {paginator : Bool}
    {values : Dict String String}
    (h : validateUrl d c employeeId url expectedPage paginator = .ok values) :
    (∃ parsed pairs, urlsplit d.toUrlData url = some parsed ∧
      parseQsl d.toUrlData true 32 parsed.query = some pairs ∧
      isEndpoint (expectedPath c paginator) parsed = true ∧ queryValues pairs = some values) ∧
    ∀ page, expectedPage = some page → values.get? "page" = some (toString page) := by
  simp only [validateUrl, bind_eq_ok, ensure_eq_ok] at h
  obtain ⟨_, hvalues, _, _, _, _, _, hpage, hresult⟩ := h
  cases hresult
  refine ⟨endpointQuery_eq_ok.mp hvalues, ?_⟩
  intro page heq
  subst heq
  exact ensure_eq_ok.mp hpage

/-- The first page is a page of its own collection. -/
theorem namesPage_first {first : PaginatedJsonPage} {baseQuery : Dict String String}
    (h : baseQueryOf d c employeeId first = .ok baseQuery) :
    NamesPage d c baseQuery first.currentPage first.requestUrl := by
  obtain ⟨values, hvalues, rfl⟩ := map_eq_ok.mp h
  obtain ⟨⟨parsed, pairs, hparsed, hpairs, hendpoint, hquery⟩, hpage⟩ := validateUrl_eq_ok hvalues
  refine ⟨parsed, pairs, values, hparsed, hendpoint, hpairs, hquery, hpage _ rfl, ?_⟩
  intro key hkey
  rw [Dict.get?_erase, if_neg hkey]

theorem isNetlocText_dic : IsNetlocText dicNetloc := by decide

theorem endpointPath_slash : c.endpointPath.toList.head? = some '/' := by
  obtain ⟨rest, hrest⟩ := c.endpoint_backend
  rw [← hrest]
  rfl

theorem path_of_isEndpoint {path : String} {parsed : SplitResult}
    (h : isEndpoint path parsed = true) : parsed.path = path.toList := by
  simp only [isEndpoint, Bool.and_eq_true, beq_iff_eq] at h
  exact h.1.2

/-- What is fetched after a page is the next page of the same collection, wherever the link of the
server led. -/
theorem namesPage_next {baseQuery : Dict String String} {current : PaginatedJsonPage} {url : String}
    {request : PageRequest} (hurl : canonicalNextUrl d c employeeId baseQuery current = .ok url)
    (hask : askPage d c employeeId headers url (current.currentPage + 1) false = .ok request) :
    NamesPage d c baseQuery (current.currentPage + 1) url := by
  unfold canonicalNextUrl at hurl
  split at hurl
  · cases hurl
  next next _ =>
    simp only [bind_eq_ok, ensure_eq_ok] at hurl
    obtain ⟨nextQuery, hnext, -, hbase, hurl⟩ := hurl
    obtain ⟨⟨parts, pairs, hparts, hpairs, -, hquery⟩, -⟩ := validateUrl_eq_ok hnext
    rw [hparts] at hurl
    cases hurl
    simp only [askPage, bind_eq_ok] at hask
    obtain ⟨values, hvalues, -⟩ := hask
    obtain ⟨⟨parsed, pairs', hparsed, hpairs', hendpoint, hquery'⟩, hpage⟩ :=
      validateUrl_eq_ok hvalues
    -- the query of the link is read again out of the URL that is asked for
    have hsame : parsed.query = parts.query := query_httpsUrl isNetlocText_dic endpointPath_slash
      (isQueryText_urlsplit hparts) hparsed (path_of_isEndpoint hendpoint)
    refine ⟨parsed, pairs', values, hparsed, hendpoint, hpairs', hquery', hpage _ rfl, ?_⟩
    rw [hsame, hpairs] at hpairs'
    cases hpairs'
    rw [hquery] at hquery'
    cases hquery'
    intro key hkey
    rw [← Dict.equals_iff.mp hbase key, Dict.get?_erase, if_neg hkey]

/-! ### One fetch -/

variable {answers : List pageEvaluator.Answered}

theorem calls_fetch {url : String} {k : Nat} {paginator : Bool} {o : PageRequest} :
    Prog.Calls (fetchPaginatedPage d c employeeId headers url k paginator) answers o ↔
      answers = [] ∧ askPage d c employeeId headers url k paginator = .ok o := by
  unfold fetchPaginatedPage
  constructor
  · intro h
    rcases Prog.calls_bind.mp h with hnone | ⟨request, asked, rest, rfl, hasked, hrest⟩
    · exact (Prog.calls_ofExcept.mp hnone).elim
    · obtain ⟨rfl, hrequest⟩ := Prog.returns_ofExcept.mp hasked
      rcases Prog.calls_bind.mp hrest with hcall | ⟨_, _, _, _, _, hnone⟩
      · obtain ⟨rfl, rfl⟩ := Prog.calls_ask.mp hcall
        exact ⟨rfl, hrequest⟩
      · exact (Prog.calls_ofExcept.mp hnone).elim
  · rintro ⟨rfl, hrequest⟩
    apply Prog.calls_bind.mpr
    refine .inr ⟨o, [], [], rfl, Prog.returns_ofExcept.mpr ⟨rfl, hrequest⟩, ?_⟩
    exact Prog.calls_bind.mpr (.inl (Prog.calls_ask.mpr ⟨rfl, rfl⟩))

theorem returns_fetch {url : String} {k : Nat} {paginator : Bool} {page : PageAt k} :
    Prog.Returns (fetchPaginatedPage d c employeeId headers url k paginator) answers page ↔
      ∃ request answer, answers = [⟨request, answer⟩] ∧
        askPage d c employeeId headers url k paginator = .ok request ∧
        receivePage d c employeeId k paginator answer = .ok page := by
  unfold fetchPaginatedPage
  constructor
  · intro h
    obtain ⟨request, asked, rest, rfl, hasked, hrest⟩ := Prog.returns_bind.mp h
    obtain ⟨rfl, hrequest⟩ := Prog.returns_ofExcept.mp hasked
    obtain ⟨answer, answered, last, rfl, hanswered, hreceived⟩ := Prog.returns_bind.mp hrest
    obtain rfl := Prog.returns_ask.mp hanswered
    obtain ⟨rfl, hpage⟩ := Prog.returns_ofExcept.mp hreceived
    exact ⟨request, answer, rfl, hrequest, hpage⟩
  · rintro ⟨request, answer, rfl, hrequest, hpage⟩
    apply Prog.returns_bind.mpr
    refine ⟨request, [], _, rfl, Prog.returns_ofExcept.mpr ⟨rfl, hrequest⟩, ?_⟩
    apply Prog.returns_bind.mpr
    exact ⟨answer, _, [], rfl, Prog.returns_ask.mpr rfl, Prog.returns_ofExcept.mpr ⟨rfl, hpage⟩⟩

theorem url_of_askPage {url : String} {k : Nat} {paginator : Bool} {request : PageRequest}
    (h : askPage d c employeeId headers url k paginator = .ok request) : request.url = url := by
  simp only [askPage, bind_eq_ok] at h
  obtain ⟨-, -, h⟩ := h
  cases headers with
  | none =>
      cases h
      rfl
  | some headers =>
      obtain ⟨_, -, rfl⟩ := map_eq_ok.mp h
      rfl

/-! ### The loop -/

variable {first : PaginatedJsonPage} {baseQuery : Dict String String}

/-- One round of the loop. -/
theorem followingPages_eq (current : AgreeingPage first) :
    followingPages d c employeeId headers first baseQuery current =
      if current.currentPage < current.lastPage then
        (Prog.ofExcept (canonicalNextUrl d c employeeId baseQuery current.toPaginatedJsonPage)).bind
          fun url =>
            (fetchPaginatedPage d c employeeId headers url (current.currentPage + 1) false).bind
              fun following =>
                if h : following.val.total = first.total ∧
                    following.val.lastPage = first.lastPage then
                  (followingPages d c employeeId headers first baseQuery
                    ⟨following.val, h.1, h.2⟩).bind fun rest => .pure (following.val :: rest)
                else .throw (paginationFailure c "pagination metadata changed")
      else .pure [] := by
  rw [followingPages]

/-- Every fetch of the loop is of the next page that has not been received, and of none after the
last. The induction is on the pages that are left. -/
theorem calls_followingPages {current : AgreeingPage first} {o : PageRequest}
    (h : Prog.Calls (followingPages d c employeeId headers first baseQuery current) answers o) :
    current.currentPage + answers.length < first.lastPage ∧
      NamesPage d c baseQuery (current.currentPage + answers.length + 1) o.url := by
  induction hleft : first.lastPage - current.currentPage using Nat.strong_induction_on
    generalizing current answers with
  | _ left ih =>
    rw [followingPages_eq] at h
    split at h
    next hmore =>
      rw [current.lastPage_eq] at hmore
      rcases Prog.calls_bind.mp h with hnone | ⟨url, asked, rest, rfl, hasked, hrest⟩
      · exact (Prog.calls_ofExcept.mp hnone).elim
      obtain ⟨rfl, hurl⟩ := Prog.returns_ofExcept.mp hasked
      rcases Prog.calls_bind.mp hrest with hcall | ⟨following, fetched, rest, rfl, hfetched, hloop⟩
      · obtain ⟨rfl, hasked⟩ := calls_fetch.mp hcall
        refine ⟨hmore, ?_⟩
        rw [url_of_askPage hasked]
        exact namesPage_next hurl hasked
      · obtain ⟨request, answer, rfl, -, -⟩ := returns_fetch.mp hfetched
        split at hloop
        next hagrees =>
          rcases Prog.calls_bind.mp hloop with hcall | ⟨_, _, _, _, _, hnone⟩
          · have hpage := following.property
            obtain ⟨hlt, hnames⟩ := ih _ (by simp only; omega) hcall rfl
            simp only [hpage] at hlt hnames
            simp only [List.nil_append, List.singleton_append, List.length_cons]
            rw [show current.currentPage + (rest.length + 1) =
              current.currentPage + 1 + rest.length by omega]
            exact ⟨hlt, hnames⟩
          · exact hnone.elim
        · exact hloop.elim
    · exact h.elim

/-- What the loop returns are the pages that were received. -/
theorem returns_followingPages {current : AgreeingPage first} {pages : List PaginatedJsonPage}
    (h : Prog.Returns (followingPages d c employeeId headers first baseQuery current) answers
      pages) :
    Received d c employeeId first current.currentPage answers pages := by
  induction hleft : first.lastPage - current.currentPage using Nat.strong_induction_on
    generalizing current answers pages with
  | _ left ih =>
    rw [followingPages_eq] at h
    split at h
    next hmore =>
      rw [current.lastPage_eq] at hmore
      obtain ⟨url, asked, rest, rfl, hasked, hrest⟩ := Prog.returns_bind.mp h
      obtain ⟨rfl, hurl⟩ := Prog.returns_ofExcept.mp hasked
      obtain ⟨following, fetched, rest, rfl, hfetched, hloop⟩ := Prog.returns_bind.mp hrest
      obtain ⟨request, answer, rfl, -, hreceived⟩ := returns_fetch.mp hfetched
      split at hloop
      next hagrees =>
        obtain ⟨pages', answers', last, rfl, hpages, hreturned⟩ := Prog.returns_bind.mp hloop
        obtain ⟨rfl, rfl⟩ := hreturned
        have hpage := following.property
        have hrest := ih _ (by simp only; omega) hpages rfl
        simp only [hpage] at hrest
        rw [List.append_nil]
        exact .next hmore hreceived hagrees.1 hagrees.2 hrest
      · exact hloop.elim
    next hmore =>
      obtain ⟨rfl, rfl⟩ := h
      rw [current.lastPage_eq] at hmore
      exact .last hmore

/-! ## What is received -/

theorem Received.numbered {k : Nat} {pages : List PaginatedJsonPage}
    (h : Received d c employeeId first k answers pages) :
    pages.map (·.currentPage) = List.range' (k + 1) (first.lastPage - k) := by
  induction h with
  | last hlast =>
      rw [Nat.sub_eq_zero_of_le (Nat.not_lt.mp hlast)]
      rfl
  | @next k _ _ page _ _ hmore _ _ _ _ ih =>
      obtain ⟨left, hleft⟩ : ∃ left, first.lastPage - k = left + 1 :=
        ⟨first.lastPage - k - 1, by omega⟩
      have hrest : first.lastPage - (k + 1) = left := by omega
      rw [List.map_cons, ih, page.property, hleft, hrest, List.range'_succ]

theorem Received.agrees {k : Nat} {pages : List PaginatedJsonPage}
    (h : Received d c employeeId first k answers pages) :
    ∀ page ∈ pages, page.total = first.total ∧ page.lastPage = first.lastPage := by
  induction h with
  | last _ => exact fun page hpage => absurd hpage List.not_mem_nil
  | next _ _ htotal hlast _ ih => exact List.forall_mem_cons.mpr ⟨⟨htotal, hlast⟩, ih⟩

theorem strictCount_eq_ok {minimum n : Nat} {value : Json}
    (h : strictCount c minimum value = .ok n) : minimum ≤ n := by
  obtain ⟨m, hm, rfl⟩ := map_eq_ok.mp h
  unfold strictInt at hm
  split at hm
  · split at hm
    · cases hm
      omega
    · cases hm
  · cases hm

/-- The bounds of a page that was read. -/
theorem bounds_of_pageFromDocument {document : Json} {requestUrl : String}
    {page : PaginatedJsonPage}
    (h : pageFromDocument d c employeeId document requestUrl = .ok page) :
    page.requestUrl = requestUrl ∧ 1 ≤ page.currentPage ∧ page.currentPage ≤ page.lastPage ∧
      page.lastPage ≤ maxPages ∧ page.total ≤ maxRecords := by
  unfold pageFromDocument at h
  split at h
  · simp only [bind_eq_ok, ensure_eq_ok] at h
    obtain ⟨-, -, currentPage, hcurrent, lastPage, -, perPage, -, total, -, -, hbounds, items, -,
      next, -, -, -, hpage⟩ := h
    cases hpage
    exact ⟨rfl, strictCount_eq_ok hcurrent, hbounds.1, hbounds.2.1, hbounds.2.2.2⟩
  · cases h

theorem bounds_of_pageFromResponse {response : Response} {page : PaginatedJsonPage}
    (h : pageFromResponse d c employeeId response = .ok page) :
    page.requestUrl = response.url ∧ 1 ≤ page.currentPage ∧ page.currentPage ≤ page.lastPage ∧
      page.lastPage ≤ maxPages ∧ page.total ≤ maxRecords := by
  simp only [pageFromResponse, bind_eq_ok] at h
  obtain ⟨_, -, _, -, document, -, hpage⟩ := h
  exact bounds_of_pageFromDocument hpage

end Asked

/-! ## Whole collections -/

/-- A captured response, and the pages that follow it: what every `read` of a collection does. -/
@[irreducible] def readCollection (response : Response) : Prog pageEvaluator Exn (List PageItem) :=
  (Prog.ofExcept (pageFromResponse d c employeeId response)).bind fun first =>
    collectCompletePages d c employeeId headers first

/-- The items are those of a collection: its pages are numbered from the captured one to the last,
and each says how many items there are. -/
def IsCollection (response : Response) (answers : List pageEvaluator.Answered)
    (items : List PageItem) : Prop :=
  ∃ first following, pageFromResponse d c employeeId response = .ok first ∧
    Received d c employeeId first first.currentPage answers following ∧
    (first :: following).map (·.currentPage) =
      List.range' first.currentPage (first.lastPage + 1 - first.currentPage) ∧
    (∀ page ∈ first :: following, page.total = items.length ∧ page.lastPage = first.lastPage) ∧
    items = (first :: following).flatMap (·.items)

section Whole

variable {d c employeeId headers} {response : Response} {answers : List pageEvaluator.Answered}

theorem calls_readCollection {o : PageRequest}
    (h : Prog.Calls (readCollection d c employeeId headers response) answers o) :
    ∃ first baseQuery, pageFromResponse d c employeeId response = .ok first ∧
      first.currentPage + answers.length < first.lastPage ∧ first.lastPage ≤ maxPages ∧
      NamesPage d c baseQuery first.currentPage response.url ∧
      NamesPage d c baseQuery (first.currentPage + answers.length + 1) o.url := by
  unfold readCollection collectCompletePages at h
  rcases Prog.calls_bind.mp h with hnone | ⟨first, asked, rest, rfl, hread, hcollect⟩
  · exact (Prog.calls_ofExcept.mp hnone).elim
  obtain ⟨rfl, hfirst⟩ := Prog.returns_ofExcept.mp hread
  obtain ⟨hurl, -, -, hpages, -⟩ := bounds_of_pageFromResponse hfirst
  rcases Prog.calls_bind.mp hcollect with hnone | ⟨baseQuery, asked, rest, rfl, hasked, hloop⟩
  · exact (Prog.calls_ofExcept.mp hnone).elim
  obtain ⟨rfl, hbase⟩ := Prog.returns_ofExcept.mp hasked
  rcases Prog.calls_bind.mp hloop with hcall | ⟨_, _, _, _, _, hnone⟩
  · obtain ⟨hlt, hnames⟩ := calls_followingPages hcall
    refine ⟨first, baseQuery, hfirst, hlt, hpages, ?_, hnames⟩
    rw [← hurl]
    exact namesPage_first hbase
  · exact (Prog.calls_ofExcept.mp hnone).elim

theorem returns_readCollection {items : List PageItem}
    (h : Prog.Returns (readCollection d c employeeId headers response) answers items) :
    IsCollection d c employeeId response answers items := by
  unfold readCollection collectCompletePages at h
  obtain ⟨first, asked, rest, rfl, hread, hcollect⟩ := Prog.returns_bind.mp h
  obtain ⟨rfl, hfirst⟩ := Prog.returns_ofExcept.mp hread
  obtain ⟨-, -, hle, -, -⟩ := bounds_of_pageFromResponse hfirst
  obtain ⟨baseQuery, asked, rest, rfl, hasked, hloop⟩ := Prog.returns_bind.mp hcollect
  obtain ⟨rfl, hbase⟩ := Prog.returns_ofExcept.mp hasked
  obtain ⟨following, received, rest, rfl, hfollowing, hcomplete⟩ := Prog.returns_bind.mp hloop
  obtain ⟨rfl, hitems⟩ := Prog.returns_ofExcept.mp hcomplete
  have hreceived := returns_followingPages hfollowing
  unfold completeItems at hitems
  simp only at hitems
  split at hitems
  next hcount =>
    cases hitems
    refine ⟨first, following, hfirst, ?_, ?_, ?_, rfl⟩
    · simpa using hreceived
    · obtain ⟨left, hleft⟩ : ∃ left, first.lastPage - first.currentPage = left := ⟨_, rfl⟩
      have hcons : first.lastPage + 1 - first.currentPage = left + 1 := by omega
      rw [List.map_cons, hreceived.numbered, hcons, List.range'_succ, hleft]
    · intro page hpage
      rw [hcount]
      rcases List.mem_cons.mp hpage with rfl | hpage
      · exact ⟨rfl, rfl⟩
      · exact hreceived.agrees page hpage
  · cases hitems

end Whole

/-- **Complete pagination.** Whatever a server answers: every fetch is of the next page, at the
endpoint itself and with the query of the first page, and no page after the last is asked for; and
what is returned is a collection. -/
theorem readCollection_sound (response : Response) (answers : List pageEvaluator.Answered) :
    (∀ o, Prog.Calls (readCollection d c employeeId headers response) answers o →
      ∃ first baseQuery, pageFromResponse d c employeeId response = .ok first ∧
        first.currentPage + answers.length < first.lastPage ∧ first.lastPage ≤ maxPages ∧
        NamesPage d c baseQuery first.currentPage response.url ∧
        NamesPage d c baseQuery (first.currentPage + answers.length + 1) o.url) ∧
    (∀ items, Prog.Returns (readCollection d c employeeId headers response) answers items →
      IsCollection d c employeeId response answers items) :=
  ⟨fun _ h => calls_readCollection h, fun _ h => returns_readCollection h⟩

end BhDic.Dic.PaginatedCapture
