import BhDic.Dic.ResourceReads
import BhDic.Library.Paging
import BhDic.Security.Cipher

/-!
# A server of pages

A server that holds a list of records and answers every page it is asked for. What is collected from
it is the whole list, if the page that was captured is the first; from any later page on, nothing is.
-/

namespace BhDic.Dic.PaginatedCapture

open BhDic.Library BhDic.Python

/-! ## The server -/

/-- What a page of the list says. Pages count from one. -/
def pageDocument (rows : List PageItem) (size : Nat) (link : Nat → String) (k : Nat) : Json :=
  .obj [("current_page", .int k), ("data", .arr ((pageOf size rows (k - 1)).map .obj)),
    ("last_page", .int (pages size rows.length)),
    ("next_page_url", if k < pages size rows.length then .str (link (k + 1)) else .null),
    ("per_page", .int size), ("total", .int rows.length)]

/-- A link of the server's own. -/
def linkTo (c : PaginatedEndpointContract) (query : Nat → List Char) (k : Nat) : String :=
  httpsUrl dicNetloc (expectedPath c true).toList (query k)

/-- A server of a collection, and a client with the headers it asks for. The queries of its pages
differ in the number of the page only. -/
structure PageServer (d : PaginatedData) (c : PaginatedEndpointContract)
    (employeeId : Option String) (headers : Option (Dict String String)) where
  rows : List PageItem
  size : Nat
  baseQuery : Dict String String
  query : Nat → List Char
  contentType : String
  text : Nat → String
  sent : Option SessionHeaders
  headers_read : ∀ url, requestOf c url headers = .ok ⟨url, sent⟩
  size_bounds : 1 ≤ size ∧ size ≤ 100
  rows_le : rows.length ≤ maxRecords
  pages_le : pages size rows.length ≤ maxPages
  rows_keys : ∀ row ∈ rows, hasKeys c.requiredItemKeys row = true
  endpoint_text : IsPathText c.endpointPath.toList
  link_text : IsPathText (expectedPath c true).toList
  query_text : ∀ k, 1 ≤ k → k ≤ pages size rows.length → IsQueryText (query k)
  query_read : ∀ k, 1 ≤ k → k ≤ pages size rows.length → ∃ pairs values,
    parseQsl d.toUrlData true 32 (query k) = some pairs ∧ queryValues pairs = some values ∧ (∀ item ∈ values.items, item.1 ∈ c.allowedQueryKeys) ∧
    checkEmployee d c values employeeId = .ok () ∧ values.get? "page" = some (toString k) ∧
    ∀ key, (values.erase "page").get? key = baseQuery.get? key
  link_short : ∀ k, 1 ≤ k → k ≤ pages size rows.length → (linkTo c query k).length ≤ 2048
  json_type : isJsonType d.toCaptureData contentType = true
  text_read : ∀ k, 1 ≤ k → k ≤ pages size rows.length →
    d.loads (encodeUtf8 (text k)) = some (pageDocument rows size (linkTo c query) k)
  text_short : ∀ k, 1 ≤ k → k ≤ pages size rows.length → (text k).utf8ByteSize ≤ maxPageBytes

namespace PageServer

variable {d : PaginatedData} {c : PaginatedEndpointContract} {employeeId : Option String}
  {headers : Option (Dict String String)} (s : PageServer d c employeeId headers)

def lastPage : Nat := pages s.size s.rows.length

/-- The URL of a page at the endpoint itself. -/
def url (k : Nat) : String := httpsUrl dicNetloc c.endpointPath.toList (s.query k)

/-- What comes back for the URL of a page. -/
def reply (k : Nat) : Json :=
  .obj [("url", .str (s.url k)), ("status", .int 200), ("contentType", .str s.contentType),
    ("oversized", .bool false), ("body", .str (s.text k))]

/-- A page as a captured response. -/
def response (k : Nat) : Response where
  url := s.url k
  metadata := some ⟨some s.contentType, none, "GET", 200⟩
  body := some (encodeUtf8 (s.text k))

/-- The fetch of a page, and what it is answered. -/
def answered (k : Nat) : pageEvaluator.Answered := ⟨⟨s.url k, s.sent⟩, .ok (s.reply k)⟩

/-- What is made of a page. -/
def page (k : Nat) : PaginatedJsonPage where
  items := pageOf s.size s.rows (k - 1)
  currentPage := k
  lastPage := s.lastPage
  perPage := s.size
  total := s.rows.length
  requestUrl := s.url k
  nextPageUrl := if k < s.lastPage then some (linkTo c s.query (k + 1)) else none

/-! ## Its URLs -/

theorem expectedPath_slash (c : PaginatedEndpointContract) (paginator : Bool) :
    (expectedPath c paginator).toList.head? = some '/' := by
  unfold expectedPath
  split
  · cases hpath : c.paginatorPath with
    | none => exact endpointPath_slash
    | some path =>
        have hvalid := c.paginator_valid path hpath
        unfold isPaginatorPath at hvalid
        split at hvalid
        next rest hrest =>
          show path.toList.head? = some '/'
          rw [hrest]
          rfl
        · cases hvalid
  · exact endpointPath_slash

/-- The URLs of a page pass, the link to it and the one at the endpoint. -/
theorem validateUrl_page {k : Nat} (hpos : 1 ≤ k) (hle : k ≤ s.lastPage) (paginator : Bool)
    (expectedPage : Option Nat) (hpage : expectedPage = none ∨ expectedPage = some k) :
    ∃ values, validateUrl d c employeeId
      (httpsUrl dicNetloc (expectedPath c paginator).toList (s.query k)) expectedPage paginator =
        .ok values ∧ ∀ key, (values.erase "page").get? key = s.baseQuery.get? key := by
  obtain ⟨pairs, values, hpairs, hvalues, hallowed, hemployee, hnumber, hbase⟩ :=
    s.query_read k hpos hle
  have htext : IsPathText (expectedPath c paginator).toList := by
    cases paginator
    · exact s.endpoint_text
    · exact s.link_text
  have hsplit := urlsplit_httpsUrl (d := d.toUrlData) isNetlocText_dic htext
    (expectedPath_slash c paginator) (s.query_text k hpos hle)
  have hendpoint : isEndpoint (expectedPath c paginator)
      ⟨"https".toList, dicNetloc, (expectedPath c paginator).toList, s.query k, []⟩ = true := by
    simp only [isEndpoint, beq_self_eq_true, Bool.and_true, List.isEmpty_nil]
    rfl
  have hquery : endpointQuery (paginationFailure c) d.toUrlData 32 (expectedPath c paginator)
      (httpsUrl dicNetloc (expectedPath c paginator).toList (s.query k)) = .ok values :=
    endpointQuery_eq_ok.mpr ⟨_, pairs, hsplit, hpairs, hendpoint, hvalues⟩
  have hchecked : checkPage c values expectedPage = .ok () := by
    rcases hpage with rfl | rfl
    · rfl
    · exact ensure_eq_ok.mpr hnumber
  refine ⟨values, ?_, hbase⟩
  simp only [validateUrl, bind_eq_ok, ensure_eq_ok]
  exact ⟨values, hquery, (), hallowed, (), hemployee, (), hchecked, rfl⟩

/-! ## Its pages -/

theorem pageItems_data (k : Nat) :
    pageItems c s.size (.arr ((pageOf s.size s.rows (k - 1)).map .obj)) =
      .ok (pageOf s.size s.rows (k - 1)) := by
  have hitem : ∀ row ∈ s.rows, pageItem c (.obj row) = .ok row := by
    intro row hrow
    exact if_pos (s.rows_keys row hrow)
  have hmem : ∀ row ∈ pageOf s.size s.rows (k - 1), row ∈ s.rows := fun row hrow =>
    List.mem_of_mem_drop (List.mem_of_mem_take hrow)
  simp only [pageItems, bind_eq_ok, ensure_eq_ok]
  refine ⟨(), ?_, ?_⟩
  · rw [List.length_map]
    exact List.length_take_le _ _
  · apply mapM_eq_ok.mpr
    apply List.forall₂_map_left_iff.mpr
    exact List.forall₂_same.mpr fun row hrow => hitem row (hmem row hrow)

theorem strictCount_int {minimum n : Nat} (h : minimum ≤ n) :
    strictCount c minimum (.int n) = .ok n := by
  have hle : (minimum : Int) ≤ n := Int.ofNat_le.mpr h
  simp only [strictCount, strictInt, if_pos hle]
  rfl

/-- The document of a page is read as that page. -/
theorem pageFromDocument_page {k : Nat} (hpos : 1 ≤ k) (hle : k ≤ s.lastPage) :
    pageFromDocument d c employeeId (pageDocument s.rows s.size (linkTo c s.query) k) (s.url k) =
      .ok (s.page k) := by
  have hlast : 1 ≤ s.lastPage := hpos.trans hle
  have hnext : rawNext c (if k < s.lastPage then .str (linkTo c s.query (k + 1)) else .null) =
      .ok (s.page k).nextPageUrl := by
    unfold page
    split
    · exact if_pos (s.link_short (k + 1) (Nat.le_add_left 1 k) ‹_›)
    · rfl
  have hcheck : checkNext d c employeeId k s.lastPage (s.page k).nextPageUrl = .ok () := by
    unfold page
    by_cases hmore : k < s.lastPage
    · obtain ⟨values, hvalues, -⟩ := s.validateUrl_page (Nat.le_add_left 1 k) hmore true
        (some (k + 1)) (.inr rfl)
      rw [if_pos hmore]
      simp only [checkNext, bind_eq_ok, ensure_eq_ok]
      refine ⟨(), by simp, (), by simp [hmore.ne], values, hvalues, rfl⟩
    · rw [if_neg hmore]
      simp only [checkNext, bind_eq_ok, ensure_eq_ok]
      exact ⟨(), by simp [hmore], (), by simp, rfl⟩
  show (ensure (hasKeys requiredRoot _) _ >>= fun _ => _) = _
  simp only [bind_eq_ok, ensure_eq_ok]
  refine ⟨(), rfl, k, strictCount_int hpos, s.lastPage, strictCount_int hlast, s.size,
    strictCount_int s.size_bounds.1, s.rows.length, strictCount_int (Nat.zero_le _), (),
    ⟨hle, s.pages_le, s.size_bounds.2, s.rows_le⟩, _, s.pageItems_data k, _, hnext, (), hcheck, rfl⟩

theorem utf8ByteSize_eq (text : String) : (encodeUtf8 text).length = text.utf8ByteSize := rfl

theorem pageFromResponse_page {k : Nat} (hpos : 1 ≤ k) (hle : k ≤ s.lastPage) :
    pageFromResponse d c employeeId (s.response k) = .ok (s.page k) := by
  obtain ⟨values, hvalues, -⟩ := s.validateUrl_page hpos hle false none (.inl rfl)
  have hmetadata : checkMetadata (paginationFailure c) d.toCaptureData maxPageBytes
      (s.response k).metadata = .ok () := by
    show (ensure _ _ >>= fun _ => ensure (isJsonType _ s.contentType = true) _ >>= fun _ => _) = _
    simp only [bind_eq_ok, ensure_eq_ok]
    exact ⟨(), ⟨trivial, trivial⟩, (), s.json_type, rfl⟩
  have hdocument : readDocument (paginationFailure c) d.toCaptureData maxPageBytes
      (s.response k).body = .ok (pageDocument s.rows s.size (linkTo c s.query) k) :=
    (readDocument_eq_ok _ _).mpr ⟨_, rfl, s.text_short k hpos hle, s.text_read k hpos hle⟩
  simp only [pageFromResponse, bind_eq_ok]
  exact ⟨values, hvalues, (), hmetadata, _, hdocument, s.pageFromDocument_page hpos hle⟩

theorem receivePage_page {k : Nat} (hpos : 1 ≤ k) (hle : k ≤ s.lastPage) :
    receivePage d c employeeId k false (.ok (s.reply k)) = .ok ⟨s.page k, rfl⟩ := by
  obtain ⟨values, hvalues, -⟩ := s.validateUrl_page hpos hle false (some k) (.inr rfl)
  have hfetched : fetchedText d [("url", .str (s.url k)), ("status", .int 200),
      ("contentType", .str s.contentType), ("oversized", .bool false), ("body", .str (s.text k))] =
        some (s.url k, s.text k) := by
    show (if (_ && isJsonType d.toCaptureData s.contentType && decide _) = true then _ else none) = _
    rw [s.json_type, decide_eq_true (s.text_short k hpos hle)]
    rfl
  show pageFromFetch d c employeeId (s.reply k) k false = _
  unfold pageFromFetch reply
  simp only [bind_eq_ok, ensure_eq_ok]
  refine ⟨(), rfl, ?_⟩
  rw [hfetched]
  simp only [bind_eq_ok]
  refine ⟨values, hvalues, ?_⟩
  rw [s.text_read k hpos hle]
  simp only [bind_eq_ok]
  exact ⟨s.page k, s.pageFromDocument_page hpos hle, dif_pos rfl⟩

/-! ## What is collected from it -/

end PageServer

/-- The parts of a read of a collection. -/
theorem ends_readCollection {d : PaginatedData} {c : PaginatedEndpointContract}
    {employeeId : Option String} {headers : Option (Dict String String)} {response : Response}
    {first : PaginatedJsonPage} {baseQuery : Dict String String} {following : List PaginatedJsonPage}
    {answers : List pageEvaluator.Answered} {r : Except Exn (List PageItem)}
    (hfirst : pageFromResponse d c employeeId response = .ok first)
    (hquery : baseQueryOf d c employeeId first = .ok baseQuery)
    (hloop : Prog.Returns (followingPages d c employeeId headers first baseQuery ⟨first, rfl, rfl⟩)
      answers following) (hcomplete : completeItems c first following = r) :
    Prog.Ends (readCollection d c employeeId headers response) answers r := by
  unfold readCollection collectCompletePages
  apply Prog.ends_bind.mpr
  refine .inl ⟨first, [], answers, rfl, Prog.ends_ofExcept.mpr ⟨rfl, hfirst.symm⟩, ?_⟩
  apply Prog.ends_bind.mpr
  refine .inl ⟨baseQuery, [], answers, rfl, Prog.ends_ofExcept.mpr ⟨rfl, hquery.symm⟩, ?_⟩
  apply Prog.ends_bind.mpr
  refine .inl ⟨following, answers, [], (List.append_nil _).symm, hloop, ?_⟩
  exact Prog.ends_ofExcept.mpr ⟨rfl, hcomplete.symm⟩

namespace PageServer

variable {d : PaginatedData} {c : PaginatedEndpointContract} {employeeId : Option String}
  {headers : Option (Dict String String)} (s : PageServer d c employeeId headers)

/-- After a page comes the next one. -/
theorem canonicalNextUrl_page {k : Nat} (hmore : k < s.lastPage) {baseQuery : Dict String String}
    (hbase : ∀ key, baseQuery.get? key = s.baseQuery.get? key) :
    canonicalNextUrl d c employeeId baseQuery (s.page k) = .ok (s.url (k + 1)) := by
  obtain ⟨values, hvalues, hsame⟩ := s.validateUrl_page (Nat.le_add_left 1 k) hmore true
    (some (k + 1)) (.inr rfl)
  have hequals : (values.erase "page").equals baseQuery = true := by
    apply Dict.equals_iff.mpr
    intro key
    rw [hsame, hbase]
  have hsplit := urlsplit_httpsUrl (d := d.toUrlData) isNetlocText_dic s.link_text
    (expectedPath_slash c true) (s.query_text (k + 1) (Nat.le_add_left 1 k) hmore)
  have hnext : (s.page k).nextPageUrl = some (linkTo c s.query (k + 1)) := if_pos hmore
  have hvalid : validateUrl d c employeeId (linkTo c s.query (k + 1)) (some (k + 1)) true =
      .ok values := hvalues
  have hlink : urlsplit d.toUrlData (linkTo c s.query (k + 1)) = some ⟨"https".toList, dicNetloc,
      (expectedPath c true).toList, s.query (k + 1), []⟩ := hsplit
  have hnumber : (s.page k).currentPage = k := rfl
  simp only [canonicalNextUrl, hnext, hnumber, hlink, bind_eq_ok, ensure_eq_ok]
  exact ⟨values, hvalid, (), hequals, rfl⟩

theorem returns_fetch_page {k : Nat} (hpos : 1 ≤ k) (hle : k ≤ s.lastPage) :
    Prog.Returns (fetchPaginatedPage d c employeeId headers (s.url k) k false) [s.answered k]
      ⟨s.page k, rfl⟩ := by
  have hasked : askPage d c employeeId headers (s.url k) k false = .ok ⟨s.url k, s.sent⟩ := by
    obtain ⟨values, hvalues, -⟩ := s.validateUrl_page hpos hle false (some k) (.inr rfl)
    simp only [askPage, bind_eq_ok]
    exact ⟨values, hvalues, s.headers_read _⟩
  exact returns_fetch.mpr ⟨_, _, rfl, hasked, s.receivePage_page hpos hle⟩

/-- A page of the server where the loop is. -/
def agreeing {first : PaginatedJsonPage} (htotal : s.rows.length = first.total)
    (hlast : s.lastPage = first.lastPage) (k : Nat) : AgreeingPage first :=
  ⟨s.page k, htotal, hlast⟩

/-- The loop fetches all the pages that are left. The induction is on their number. -/
theorem returns_followingPages_page {first : PaginatedJsonPage}
    (htotal : s.rows.length = first.total) (hlast : s.lastPage = first.lastPage)
    {baseQuery : Dict String String} (hbase : ∀ key, baseQuery.get? key = s.baseQuery.get? key)
    (left : Nat) : ∀ k, 1 ≤ k → k + left = s.lastPage →
      Prog.Returns
        (followingPages d c employeeId headers first baseQuery (s.agreeing htotal hlast k))
        ((List.range' (k + 1) left).map s.answered) ((List.range' (k + 1) left).map s.page) := by
  induction left with
  | zero =>
    intro k _ hk
    have hdone :
        ¬(s.agreeing htotal hlast k).currentPage < (s.agreeing htotal hlast k).lastPage := by
      show ¬k < s.lastPage
      omega
    rw [followingPages_eq, if_neg hdone]
    exact ⟨rfl, rfl⟩
  | succ left ih =>
    intro k hpos hk
    have hmore : k < s.lastPage := by omega
    have hmore' : (s.agreeing htotal hlast k).currentPage < (s.agreeing htotal hlast k).lastPage :=
      hmore
    rw [followingPages_eq, if_pos hmore']
    apply Prog.returns_bind.mpr
    refine ⟨s.url (k + 1), [], _, rfl,
      Prog.returns_ofExcept.mpr ⟨rfl, s.canonicalNextUrl_page hmore hbase⟩, ?_⟩
    have hfetched := s.returns_fetch_page (Nat.le_add_left 1 k) hmore
    have hrest := ih (k + 1) (Nat.le_add_left 1 k) (by omega)
    apply Prog.returns_bind.mpr
    refine ⟨_, [s.answered (k + 1)], (List.range' (k + 2) left).map s.answered, ?_, hfetched, ?_⟩
    · rfl
    · rw [dif_pos ⟨htotal, hlast⟩]
      apply Prog.returns_bind.mpr
      exact ⟨_, _, [], (List.append_nil _).symm, hrest, rfl, rfl⟩

/-- The records from a page on, and the ones before it. -/
theorem take_append_pages {k : Nat} (hpos : 1 ≤ k) (hle : k ≤ s.lastPage) :
    s.rows.take ((k - 1) * s.size) ++
      (s.page k :: (List.range' (k + 1) (s.lastPage - k)).map s.page).flatMap (·.items) =
        s.rows := by
  obtain ⟨j, rfl⟩ : ∃ j, k = j + 1 := ⟨k - 1, by omega⟩
  have hpages : s.page (j + 1) :: (List.range' (j + 2) (s.lastPage - (j + 1))).map s.page =
      (List.range' j (s.lastPage - j)).map fun i => s.page (i + 1) := by
    obtain ⟨left, hleft⟩ : ∃ left, s.lastPage - j = left + 1 := ⟨s.lastPage - (j + 1), by omega⟩
    have hshift : List.range' (j + 2) left = (List.range' (j + 1) left).map (· + 1) := by
      rw [List.range'_succ_left]
    rw [hleft, show s.lastPage - (j + 1) = left by omega, List.range'_succ, List.map_cons, hshift,
      List.map_map]
    rfl
  have hall : List.range' 0 j ++ List.range' j (s.lastPage - j) = List.range s.lastPage := by
    have happend := List.range'_append_1 (s := 0) (m := j) (n := s.lastPage - j)
    rw [Nat.zero_add, show j + (s.lastPage - j) = s.lastPage by omega] at happend
    rw [happend, List.range_eq_range']
  have hitems : (fun i => (s.page (i + 1)).items) = pageOf s.size s.rows := rfl
  show s.rows.take (j * s.size) ++ _ = _
  rw [hpages, List.flatMap_map, hitems, ← flatMap_pageOf, List.range_eq_range',
    ← List.flatMap_append, hall]
  exact flatMap_pages s.size_bounds.1 s.rows

/-- The items of all pages from `k` on are as many as declared for the first page only. -/
theorem completeItems_page {k : Nat} (hpos : 1 ≤ k) (hle : k ≤ s.lastPage) :
    completeItems c (s.page k) ((List.range' (k + 1) (s.lastPage - k)).map s.page) =
      if k = 1 then .ok s.rows else .error (paginationFailure c "incomplete pagination") := by
  have hrows := s.take_append_pages hpos hle
  show (if (_ : Nat) = s.rows.length then Except.ok _ else _) = _
  by_cases hfirst : k = 1
  · subst hfirst
    rw [Nat.sub_self, Nat.zero_mul, List.take_zero, List.nil_append] at hrows
    rw [hrows, if_pos rfl, if_pos rfl]
  · have hsome : s.rows.length ≠ 0 := by
      intro hnone
      have hone : s.lastPage = 1 := by
        rw [lastPage, hnone, pages_zero s.size_bounds.1]
      omega
    have hskipped : 0 < (k - 1) * s.size := Nat.mul_pos (by omega) s.size_bounds.1
    have hlengths := congrArg List.length hrows
    rw [List.length_append, List.length_take] at hlengths
    have hshort : ((s.page k :: (List.range' (k + 1) (s.lastPage - k)).map s.page).flatMap
        (·.items)).length ≠ s.rows.length := by
      omega
    rw [if_neg hshort, if_neg hfirst]

/-- **A collection is collected whole.** What a server of pages answers, from its first page on, is
its list of records; from a later page on it is refused, and never a part of the list. -/
theorem readCollection_serves {k : Nat} (hpos : 1 ≤ k) (hle : k ≤ s.lastPage) :
    Prog.Ends (readCollection d c employeeId headers (s.response k))
      ((List.range' (k + 1) (s.lastPage - k)).map s.answered)
      (if k = 1 then .ok s.rows else .error (paginationFailure c "incomplete pagination")) := by
  obtain ⟨values, hvalues, hbase⟩ := s.validateUrl_page hpos hle false (some k) (.inr rfl)
  have hquery : baseQueryOf d c employeeId (s.page k) = .ok (values.erase "page") :=
    map_eq_ok.mpr ⟨values, hvalues, rfl⟩
  have hloop : Prog.Returns (followingPages d c employeeId headers (s.page k) (values.erase "page")
      ⟨s.page k, rfl, rfl⟩) ((List.range' (k + 1) (s.lastPage - k)).map s.answered)
      ((List.range' (k + 1) (s.lastPage - k)).map s.page) :=
    s.returns_followingPages_page rfl rfl hbase (s.lastPage - k) k hpos (by omega)
  exact ends_readCollection (s.pageFromResponse_page hpos hle) hquery hloop
    (s.completeItems_page hpos hle)

end PageServer

/-! ## Three contracts on two pages -/

open BhDic.Security EmployeeResource

def sampleContract (n : Nat) : PageItem :=
  [("employee", .obj [("id", .int 31)]), ("flexible_workinghours", .bool false),
    ("hours_type", .str "40 ore"), ("id", .int n), ("ongoing", .bool true),
    ("part_time_percentage", .null), ("permanent", .bool true), ("valid_from", .str "2026-01-01"),
    ("valid_to", .null)]

def sampleContracts : List PageItem := [sampleContract 1, sampleContract 2, sampleContract 3]

def sampleQuery (k : Nat) : List Char := "employee_id=31&page=".toList ++ (toString k).toList

def sampleDocument (k : Nat) : Json :=
  pageDocument sampleContracts 2 (linkTo contractsEndpoint sampleQuery) k

/-- Documents are read as `json` reads them. -/
def readingData : PaginatedData where
  toUrlData := sampleUrls
  floats := ⟨fun _ => none⟩
  loads raw := (decodeUtf8? raw).bind fun text => Library.loads intMaxStrDigits text.toList
  loadsField text := .ok (Library.loads intMaxStrDigits text.toList)

theorem eq_of_samplePages {k : Nat} (hpos : 1 ≤ k) (hle : k ≤ pages 2 sampleContracts.length) :
    k = 1 ∨ k = 2 := by
  have hpages : pages 2 sampleContracts.length = 2 := rfl
  omega

theorem readingData_loads (text : String) :
    readingData.loads (encodeUtf8 text) = Library.loads intMaxStrDigits text.toList := by
  show (decodeUtf8? (encodeUtf8 text)).bind _ = _
  rw [decodeUtf8?_encodeUtf8]
  rfl

theorem mem_pageOf_sample {k : Nat} {row : PageItem} (h : row ∈ pageOf 2 sampleContracts k) :
    ∃ n, n ≤ 3 ∧ row = sampleContract n := by
  have hmem : row ∈ sampleContracts := List.mem_of_mem_drop (List.mem_of_mem_take h)
  simp only [sampleContracts, List.mem_cons, List.not_mem_nil, or_false] at hmem
  rcases hmem with rfl | rfl | rfl
  · exact ⟨1, by decide, rfl⟩
  · exact ⟨2, by decide, rfl⟩
  · exact ⟨3, by decide, rfl⟩

theorem canon_sampleDocument (k : Nat) : (sampleDocument k).canon = sampleDocument k := by
  have hrow : ∀ n, (Json.obj (sampleContract n)).canon = .obj (sampleContract n) := by
    intro n
    simp [sampleContract, Json.canon, canonFields, sortFields]
  have hrows : canonItems ((pageOf 2 sampleContracts (k - 1)).map .obj) =
      (pageOf 2 sampleContracts (k - 1)).map .obj := by
    rw [canonItems_eq_map, List.map_map]
    apply List.map_congr_left
    intro row hmem
    obtain ⟨n, -, rfl⟩ := mem_pageOf_sample hmem
    exact hrow n
  have hlink : ∀ c : Bool, ∀ link : String, (if c then Json.str link else .null).canon =
      if c then Json.str link else .null := by
    intro c link
    cases c <;> rfl
  simp [sampleDocument, pageDocument, Json.canon, canonFields, sortFields, hrows]
  split <;> rfl

theorem readable_sampleContract {n : Nat} (hn : n ≤ 3) :
    (Json.obj (sampleContract n)).Readable intMaxStrDigits := by
  have hint : ∀ m : Nat, m ≤ 31 → (Nat.toDigits 10 m).length ≤ intMaxStrDigits := by decide
  refine ⟨(by decide : (["employee", "flexible_workinghours", "hours_type", "id", "ongoing",
    "part_time_percentage", "permanent", "valid_from", "valid_to"] : List String).Nodup), ?_⟩
  apply (readableFields_iff intMaxStrDigits).mpr
  simp only [sampleContract, List.forall_mem_cons, List.not_mem_nil, false_imp_iff, implies_true,
    and_true]
  refine ⟨⟨by decide, hint 31 (by decide), trivial⟩, ?_, ?_, hint n (by omega), ?_, ?_, ?_, ?_,
    ?_⟩ <;> trivial

theorem readable_sampleDocument {k : Nat} (hk : k = 1 ∨ k = 2) :
    (sampleDocument k).Readable intMaxStrDigits := by
  have hint : ∀ m : Nat, m ≤ 31 → (Nat.toDigits 10 m).length ≤ intMaxStrDigits := by decide
  have hrows : readableItems intMaxStrDigits ((pageOf 2 sampleContracts (k - 1)).map .obj) := by
    apply (readableItems_iff intMaxStrDigits).mpr
    intro v hv
    obtain ⟨row, hrow, rfl⟩ := List.mem_map.mp hv
    obtain ⟨n, hn, rfl⟩ := mem_pageOf_sample hrow
    exact readable_sampleContract hn
  have hlink : ∀ c : Prop, ∀ _ : Decidable c, ∀ link : String,
      (if c then Json.str link else .null).Readable intMaxStrDigits := by
    intro c _ link
    split <;> trivial
  refine ⟨(by decide : (["current_page", "data", "last_page", "next_page_url", "per_page",
    "total"] : List String).Nodup), ?_⟩
  exact ⟨hint k (by omega), hrows, hint 2 (by decide), hlink _ _ _, hint 2 (by decide),
    hint 3 (by decide), trivial⟩

theorem sampleDocument_read {k : Nat} (hk : k = 1 ∨ k = 2) :
    readingData.loads (encodeUtf8 (String.ofList (dumps false (sampleDocument k)))) =
      some (sampleDocument k) := by
  rw [readingData_loads, String.toList_ofList, loads_dumps _ (readable_sampleDocument hk),
    canon_sampleDocument]

def sampleServer : PageServer readingData contractsEndpoint (some "31") none where
  rows := sampleContracts
  size := 2
  baseQuery := ⟨[("employee_id", "31")], by decide⟩
  query := sampleQuery
  contentType := "application/json"
  text k := String.ofList (dumps false (sampleDocument k))
  sent := none
  headers_read _ := rfl
  size_bounds := by decide
  rows_le := by decide
  pages_le := by decide
  rows_keys := by decide
  endpoint_text := by decide
  link_text := by decide
  query_text k hpos hle := by
    rcases eq_of_samplePages hpos hle with rfl | rfl
    · decide
    · decide
  query_read k hpos hle := by
    rcases eq_of_samplePages hpos hle with rfl | rfl
    · exact ⟨[("employee_id", "31"), ("page", "1")], ⟨_, by decide⟩, by decide +kernel, rfl,
        by decide, rfl, rfl, fun _ => rfl⟩
    · exact ⟨[("employee_id", "31"), ("page", "2")], ⟨_, by decide⟩, by decide +kernel, rfl,
        by decide, rfl, rfl, fun _ => rfl⟩
  link_short k hpos hle := by
    rcases eq_of_samplePages hpos hle with rfl | rfl
    · decide
    · decide
  json_type := by decide
  text_read k hpos hle := sampleDocument_read (eq_of_samplePages hpos hle)
  text_short k hpos hle := by
    rcases eq_of_samplePages hpos hle with rfl | rfl
    · decide +kernel
    · decide +kernel

/-- Both pages are asked for and three contracts come back; from the second page on none does. -/
theorem readCollection_serves_sample :
    Prog.Ends
      (readCollection readingData contractsEndpoint (some "31") none (sampleServer.response 1))
      [sampleServer.answered 2] (.ok sampleContracts) ∧
    Prog.Ends
      (readCollection readingData contractsEndpoint (some "31") none (sampleServer.response 2))
      [] (.error (paginationFailure contractsEndpoint "incomplete pagination")) :=
  ⟨sampleServer.readCollection_serves (by decide) (by decide),
    sampleServer.readCollection_serves (by decide) (by decide)⟩

end BhDic.Dic.PaginatedCapture
