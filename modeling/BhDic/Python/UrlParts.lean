import BhDic.Python.Url

/-!
# URLs and their parts

What `urlsplit` makes of a URL that is put together from a location, a path and a query. A query that
came out of one URL comes out of the next one unchanged.
-/

namespace BhDic.Python

variable {d : UrlData}

/-- Nothing in a query ends it, and nothing is dropped from it. -/
def IsQueryText (query : List Char) : Prop := ∀ c ∈ query, c ≠ '#' ∧ isUnsafeInUrl c = false

/-- The same for a path, which a query would end as well. -/
def IsPathText (path : List Char) : Prop :=
  ∀ c ∈ path, c ≠ '#' ∧ c ≠ '?' ∧ isUnsafeInUrl c = false

instance : DecidablePred IsQueryText := fun query =>
  decidable_of_iff (query.all fun c => decide (c ≠ '#' ∧ isUnsafeInUrl c = false)) (by
    simp only [List.all_eq_true, decide_eq_true_eq, IsQueryText])

instance : DecidablePred IsPathText := fun path =>
  decidable_of_iff (path.all fun c => decide (c ≠ '#' ∧ c ≠ '?' ∧ isUnsafeInUrl c = false)) (by
    simp only [List.all_eq_true, decide_eq_true_eq, IsPathText])

/-! ## Lists -/

theorem takeWhile_append_cons {α : Type} {p : α → Bool} {xs ys : List α} {y : α}
    (hxs : ∀ x ∈ xs, p x = true) (hy : p y = false) : (xs ++ y :: ys).takeWhile p = xs := by
  rw [List.takeWhile_append_of_pos hxs, List.takeWhile_cons_of_neg (by simp [hy]), List.append_nil]

theorem dropWhile_append_cons {α : Type} {p : α → Bool} {xs ys : List α} {y : α}
    (hxs : ∀ x ∈ xs, p x = true) (hy : p y = false) : (xs ++ y :: ys).dropWhile p = y :: ys := by
  rw [List.dropWhile_append_of_pos hxs, List.dropWhile_cons_of_neg (by simp [hy])]

/-- A text is parted at the first character given. -/
theorem partition_append {c : Char} {before after : List Char} (h : c ∉ before) :
    partition c (before ++ c :: after) = (before, some after) := by
  have hbefore : ∀ x ∈ before, (x != c) = true := by
    intro x hx
    rw [bne_iff_ne]
    rintro rfl
    exact h hx
  rw [partition, takeWhile_append_cons hbefore (by simp), dropWhile_append_cons hbefore (by simp)]
  rfl

theorem partition_of_not_mem {c : Char} {cs : List Char} (h : c ∉ cs) :
    partition c cs = (cs, none) := by
  have hcs : ∀ x ∈ cs, (x != c) = true := by
    intro x hx
    rw [bne_iff_ne]
    rintro rfl
    exact h hx
  rw [partition, List.takeWhile_eq_self_iff.mpr hcs, List.dropWhile_eq_nil_iff.mpr hcs]
  rfl

/-! ## A location over `https` -/

/-- A location that is read as it stands. -/
structure IsNetlocText (netloc : List Char) : Prop where
  ascii : netloc.all isAscii = true
  plain : ∀ c ∈ netloc, endsNetloc c = false ∧ isUnsafeInUrl c = false ∧ c ≠ '[' ∧ c ≠ ']'

instance : DecidablePred IsNetlocText := fun netloc =>
  decidable_of_iff (netloc.all isAscii = true ∧
    netloc.all (fun c => decide (endsNetloc c = false ∧ isUnsafeInUrl c = false ∧ c ≠ '[' ∧
      c ≠ ']')) = true) (by
    simp only [List.all_eq_true, decide_eq_true_eq]
    exact ⟨fun h => ⟨List.all_eq_true.mpr h.1, h.2⟩, fun h => ⟨List.all_eq_true.mp h.ascii, h.plain⟩⟩)

def httpsStart : List Char := "https://".toList

/-- `f"https://{netloc}{path}?{query}"`. -/
def httpsUrl (netloc path query : List Char) : String :=
  String.ofList (httpsStart ++ (netloc ++ (path ++ '?' :: query)))

theorem netlocAllowed_of_plain {netloc : List Char} (h : IsNetlocText netloc) :
    netlocAllowed d netloc = true := by
  have hopen : netloc.contains '[' = false := by
    rw [List.contains_eq_mem, decide_eq_false_iff_not]
    exact fun hmem => (h.plain _ hmem).2.2.1 rfl
  have hclose : netloc.contains ']' = false := by
    rw [List.contains_eq_mem, decide_eq_false_iff_not]
    exact fun hmem => (h.plain _ hmem).2.2.2 rfl
  rw [netlocAllowed, hopen, hclose, checkNetloc, h.ascii]
  rfl

/-- `urlsplit`, one cut after another. -/
theorem urlsplit_of_cuts {url : String} {scheme netloc path rest rest' rest'' : List Char}
    {query fragment : Option (List Char)}
    (hscheme : splitScheme (cleanUrl url.toList) = (scheme, rest))
    (hnetloc : splitNetloc rest = (netloc, rest'))
    (hfragment : partition '#' rest' = (rest'', fragment))
    (hquery : partition '?' rest'' = (path, query)) (hallowed : netlocAllowed d netloc = true) :
    urlsplit d url = some ⟨scheme, netloc, path, query.getD [], fragment.getD []⟩ := by
  simp only [urlsplit, hscheme, hnetloc, hfragment, hquery, hallowed, if_true]

theorem cleanUrl_https (cs : List Char) :
    cleanUrl (httpsStart ++ cs) =
      httpsStart ++ cs.filter fun c => !isUnsafeInUrl c := by
  show List.filter _ (httpsStart ++ cs) = _
  rw [List.filter_append]
  rfl

theorem filter_safe {cs : List Char} (h : ∀ c ∈ cs, isUnsafeInUrl c = false) :
    (cs.filter fun c => !isUnsafeInUrl c) = cs := by
  apply List.filter_eq_self.mpr
  intro c hc
  simp [h c hc]

/-- What a URL over `https` is split into, in terms of what follows its location. -/
theorem urlsplit_https {netloc rest rest' path : List Char} {query fragment : Option (List Char)}
    (hnetloc : IsNetlocText netloc) (hrest : ∃ c tail, rest = c :: tail ∧ endsNetloc c = true)
    (hclean : ∀ c ∈ rest, isUnsafeInUrl c = false)
    (hfragment : partition '#' rest = (rest', fragment))
    (hquery : partition '?' rest' = (path, query)) :
    urlsplit d (String.ofList (httpsStart ++ (netloc ++ rest))) =
      some ⟨"https".toList, netloc, path, query.getD [], fragment.getD []⟩ := by
  have hsplit : splitNetloc ('/' :: '/' :: (netloc ++ rest)) = (netloc, rest) := by
    obtain ⟨c, tail, rfl, hc⟩ := hrest
    have hplain : ∀ x ∈ netloc, (!endsNetloc x) = true := by
      intro x hx
      simp [(hnetloc.plain x hx).1]
    show ((netloc ++ c :: tail).takeWhile _, (netloc ++ c :: tail).dropWhile _) = _
    rw [takeWhile_append_cons hplain (by simp [hc]), dropWhile_append_cons hplain (by simp [hc])]
  refine urlsplit_of_cuts ?_ hsplit hfragment hquery (netlocAllowed_of_plain hnetloc)
  rw [String.toList_ofList, cleanUrl_https, List.filter_append, filter_safe hclean,
    filter_safe fun c hc => (hnetloc.plain c hc).2.1]
  rfl

/-- A URL that is put together is split into what it was put together from. -/
theorem urlsplit_httpsUrl {netloc path query : List Char} (hnetloc : IsNetlocText netloc)
    (hpath : IsPathText path) (hslash : path.head? = some '/') (hquery : IsQueryText query) :
    urlsplit d (httpsUrl netloc path query) = some ⟨"https".toList, netloc, path, query, []⟩ := by
  have hrest : ∃ c tail, path ++ '?' :: query = c :: tail ∧ endsNetloc c = true := by
    obtain ⟨tail, rfl⟩ := List.head?_eq_some_iff.mp hslash
    exact ⟨'/', tail ++ '?' :: query, rfl, rfl⟩
  have hclean : ∀ c ∈ path ++ '?' :: query, isUnsafeInUrl c = false := by
    intro c hc
    rcases List.mem_append.mp hc with hc | hc
    · exact (hpath c hc).2.2
    · rcases List.mem_cons.mp hc with rfl | hc
      · rfl
      · exact (hquery c hc).2
  have hhash : '#' ∉ path ++ '?' :: query := by
    intro hmem
    rcases List.mem_append.mp hmem with hmem | hmem
    · exact (hpath _ hmem).1 rfl
    · rcases List.mem_cons.mp hmem with heq | hmem
      · exact absurd heq (by decide)
      · exact (hquery _ hmem).1 rfl
  have hmark : '?' ∉ path := fun hmem => (hpath _ hmem).2.1 rfl
  exact urlsplit_https hnetloc hrest hclean (partition_of_not_mem hhash) (partition_append hmark)

/-! ## Queries that come out -/

theorem mem_partition_fst {c x : Char} {cs : List Char} (h : x ∈ (partition c cs).1) :
    x ∈ cs ∧ x ≠ c := by
  have hmark : (x != c) = true := List.mem_takeWhile_imp (p := (· != c)) h
  exact ⟨(List.takeWhile_sublist _).mem h, bne_iff_ne.mp hmark⟩

theorem mem_partition_snd {c x : Char} {cs : List Char} (h : x ∈ (partition c cs).2.getD []) :
    x ∈ cs := by
  cases hdrop : cs.dropWhile (· != c) with
  | nil =>
      rw [partition, hdrop] at h
      cases h
  | cons y ys =>
      rw [partition, hdrop] at h
      have hmem : x ∈ cs.dropWhile (· != c) := by
        rw [hdrop]
        exact List.mem_cons_of_mem y h
      exact (List.dropWhile_sublist _).mem hmem

/-- The query of a URL is the text of a query. -/
theorem isQueryText_urlsplit {url : String} {parsed : SplitResult}
    (h : urlsplit d url = some parsed) : IsQueryText parsed.query := by
  unfold urlsplit at h
  simp only at h
  split at h
  · cases h
    intro c hc
    obtain ⟨hmem, hhash⟩ := mem_partition_fst (mem_partition_snd hc)
    refine ⟨hhash, ?_⟩
    -- what is after the scheme and the location comes from the clean text
    have hnetloc : ∀ cs : List Char, c ∈ (splitNetloc cs).2 → c ∈ cs := by
      intro cs hcs
      unfold splitNetloc at hcs
      split at hcs
      · exact List.mem_cons_of_mem _ (List.mem_cons_of_mem _ ((List.dropWhile_sublist _).mem hcs))
      · exact hcs
    have hscheme : ∀ cs : List Char, c ∈ (splitScheme cs).2 → c ∈ cs := by
      intro cs hcs
      unfold splitScheme at hcs
      split at hcs
      · next heq =>
        split at hcs
        · apply mem_partition_snd (c := ':')
          rw [heq]
          exact hcs
        · exact hcs
      · exact hcs
    have hclean := hscheme _ (hnetloc _ hmem)
    simpa using (List.mem_filter.mp hclean).2
  · cases h

/-- The query that was put into a URL is the one that comes out, where the path is the one that was
put in: a path that held the mark of a query would come out shorter. -/
theorem query_httpsUrl {netloc path query : List Char} {parsed : SplitResult}
    (hnetloc : IsNetlocText netloc) (hslash : path.head? = some '/') (hquery : IsQueryText query)
    (h : urlsplit d (httpsUrl netloc path query) = some parsed) (hpath : parsed.path = path) :
    parsed.query = query := by
  -- the path is cleaned before it is split
  have hfilter : (netloc ++ (path ++ '?' :: query)).filter (fun c => !isUnsafeInUrl c) =
      (netloc ++ ((path.filter fun c => !isUnsafeInUrl c) ++ '?' :: query)).filter
        fun c => !isUnsafeInUrl c := by
    simp only [List.filter_append, List.filter_filter, Bool.and_self]
  have hclean : cleanUrl (httpsUrl netloc path query).toList =
      cleanUrl (httpsUrl netloc (path.filter fun c => !isUnsafeInUrl c) query).toList := by
    simp only [httpsUrl, String.toList_ofList, cleanUrl_https, hfilter]
  have hsplit : urlsplit d (httpsUrl netloc path query) =
      urlsplit d (httpsUrl netloc (path.filter fun c => !isUnsafeInUrl c) query) := by
    simp only [urlsplit, hclean]
  have hslash' : (path.filter fun c => !isUnsafeInUrl c).head? = some '/' := by
    obtain ⟨tail, rfl⟩ := List.head?_eq_some_iff.mp hslash
    rfl
  have hrest : ∃ c tail, (path.filter fun c => !isUnsafeInUrl c) ++ '?' :: query = c :: tail ∧
      endsNetloc c = true := by
    obtain ⟨tail, htail⟩ := List.head?_eq_some_iff.mp hslash'
    exact ⟨'/', tail ++ '?' :: query, by rw [htail]; rfl, rfl⟩
  have hclean : ∀ c ∈ (path.filter fun c => !isUnsafeInUrl c) ++ '?' :: query,
      isUnsafeInUrl c = false := by
    intro c hc
    rcases List.mem_append.mp hc with hc | hc
    · simpa using (List.mem_filter.mp hc).2
    · rcases List.mem_cons.mp hc with rfl | hc
      · rfl
      · exact (hquery c hc).2
  rw [hsplit, httpsUrl, urlsplit_https hnetloc hrest hclean rfl rfl] at h
  cases h
  -- what comes out as the path holds neither mark, and neither does what it was taken from
  have hmarks : ∀ c ∈ path, c ≠ '#' ∧ c ≠ '?' := by
    intro c hc
    rw [← hpath] at hc
    obtain ⟨hmem, hmark⟩ := mem_partition_fst hc
    exact ⟨(mem_partition_fst hmem).2, hmark⟩
  have hpath' : IsPathText (path.filter fun c => !isUnsafeInUrl c) := by
    intro c hc
    obtain ⟨hmem, hsafe⟩ := List.mem_filter.mp hc
    exact ⟨(hmarks c hmem).1, (hmarks c hmem).2, by simpa using hsafe⟩
  have hbuilt := urlsplit_httpsUrl (d := d) hnetloc hpath' hslash' hquery
  rw [httpsUrl, urlsplit_https hnetloc hrest hclean rfl rfl] at hbuilt
  exact congrArg SplitResult.query (Option.some.inj hbuilt)

end BhDic.Python
