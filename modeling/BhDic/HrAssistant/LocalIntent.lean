import BhDic.Application.Ask
import BhDic.HrAssistant.Patterns
import BhDic.Python.Calendar
import BhDic.Python.Integer

/-!
# The local parser

`parse_local_operational_intent`: what a request says without a model. It is a list of recognisers,
tried in order; the first that recognises the text decides. `none` is the result of a recogniser
that passes the text on, and `some none` that of one that ends the search without an intent.
-/

namespace BhDic.HrAssistant

open BhDic.Application (Intent LocalIntent)
open BhDic.Dic BhDic.Library BhDic.Policies BhDic.Python BhDic.Security

variable (u : UnicodeData)

/-! ## Tables -/

/-- `_MONTH_COUNT`. -/
def monthCount : List (String × Nat) :=
  [("uno", 1), ("due", 2), ("tre", 3), ("quattro", 4), ("cinque", 5), ("sei", 6), ("sette", 7),
    ("otto", 8), ("nove", 9), ("dieci", 10), ("undici", 11), ("dodici", 12)]

/-- `_PAGE_NUMBER_BY_WORD`. -/
def pageNumberByWord : List (String × Nat) :=
  [("prima", 1), ("seconda", 2), ("terza", 3), ("quarta", 4), ("quinta", 5), ("sesta", 6),
    ("settima", 7), ("ottava", 8), ("nona", 9), ("decima", 10)]

/-- `_MONTH_NUMBER_BY_NAME`. -/
def monthNumberByName : List (String × Nat) :=
  [("gennaio", 1), ("febbraio", 2), ("marzo", 3), ("aprile", 4), ("maggio", 5), ("giugno", 6),
    ("luglio", 7), ("agosto", 8), ("settembre", 9), ("ottobre", 10), ("novembre", 11),
    ("dicembre", 12)]

/-- The fields that a list can be ordered by. -/
def sortFields : List (String × String) :=
  [("nome", "name"), ("cognome", "name"), ("matricola", "payroll_number"), ("stato", "status"),
    ("contratto", "contract"), ("scadenza", "contract")]

/-- `_GENERIC_TARGET_WORDS`. -/
def genericTargetWords : List String :=
  ["indicato", "indicata", "questa persona", "questa dipendente", "questo dipendente",
    "selezionato", "selezionata"]

/-- `table[name]`. -/
def lookup {V : Type} (table : List (String × V)) (name : List Char) : Except Exn V :=
  match table.find? fun entry => entry.1.toList == name with
  | some (_, value) => .ok value
  | none => .error ⟨.keyError, String.ofList name⟩

/-- In a table without a name twice, a name is found where it stands. -/
theorem lookup_eq_ok {V : Type} {table : List (String × V)} (hnodup : (table.map Prod.fst).Nodup)
    {name : List Char} {value : V} :
    lookup table name = .ok value ↔ ∃ entry ∈ table, entry.1.toList = name ∧ entry.2 = value := by
  unfold lookup
  induction table with
  | nil => simp
  | cons entry table ih =>
      rw [List.map_cons, List.nodup_cons] at hnodup
      rw [List.find?_cons]
      by_cases hname : entry.1.toList = name
      · rw [show (entry.1.toList == name) = true by simpa using hname]
        constructor
        · intro h
          exact ⟨entry, List.mem_cons_self, hname, Except.ok.inj h⟩
        · intro ⟨other, hother, hsame, hvalue⟩
          rcases List.mem_cons.mp hother with rfl | hother
          · rw [← hvalue]
          · have heq : other.1 = entry.1 := String.toList_inj.mp (hsame.trans hname.symm)
            exact absurd (heq ▸ List.mem_map_of_mem hother) hnodup.1
      · rw [show (entry.1.toList == name) = false by simpa using hname, ih hnodup.2]
        constructor
        · intro ⟨other, hother, h⟩
          exact ⟨other, List.mem_cons_of_mem _ hother, h⟩
        · intro ⟨other, hother, hsame, hvalue⟩
          rcases List.mem_cons.mp hother with rfl | hother
          · exact absurd hsame hname
          · exact ⟨other, hother, hsame, hvalue⟩

/-! ## Texts -/

/-- `text.strip(members)`. -/
def stripOf (members text : List Char) : List Char :=
  (text.dropWhile (· ∈ members)).rdropWhile (· ∈ members)

/-- What is stripped from the ends of a name. -/
def punctuation : List Char := " .,:;!?\"'".toList

/-- `" ".join(text.split())`. -/
def joinWords (text : List Char) : List Char := [' '].intercalate (splitWords text)

/-- `" ".join(text.strip(" .,:;!?\"'").split())`. -/
def cleaned (text : List Char) : List Char := joinWords (stripOf punctuation text)

/-- A name that can be looked for. -/
def isTarget (candidate : List Char) : Bool :=
  !candidate.isEmpty && candidate.length ≤ 128 && !found (technicalTarget u) candidate

/-- `int(digits)`. -/
def intOf (digits : List Char) : Except Exn Int :=
  match readInt u digits with
  | some n => .ok n
  | none => .error ⟨.valueError, "invalid literal for int() with base 10"⟩

/-- `int(raw) if raw.isdigit() else table[raw]`, of a casefolded word. -/
def numberOf (table : List (String × Nat)) (word : List Char) : Except Exn Int :=
  let raw := u.casefold word
  if isDigitText u raw then intOf u raw else (lookup table raw).map Int.ofNat

/-- `_requested_status`. -/
def requestedStatus (request : List Char) : String :=
  let folded := u.casefold request
  let mentions (word : String) := Application.containsText word.toList folded
  if mentions "disattiv" || mentions "inattiv" || mentions "cessat" then "inactive"
  else if mentions "attiv" then "active"
  else "all"

/-- `is_employee_aggregate_request`. -/
def isEmployeeAggregateRequest (request : List Char) : Bool := found (aggregatePattern u) request

/-- `is_capabilities_request`. -/
def isCapabilitiesRequest (request : List Char) : Bool := found (capabilitiesMarker u) request

/-- `_export_format`. -/
def exportFormatOf (request : List Char) : Option String :=
  ((exportFormat u).search request).map fun m =>
    let raw := String.ofList (u.casefold ((groupOf m 1).getD []))
    if raw ∈ ["xlsx", "excel", "foglio di calcolo"] then "xlsx"
    else if raw = "pdf" then "pdf"
    else "docx"

/-! ## Periods -/

variable (today : Date)

def outOfCalendar : Exn := ⟨.valueError, "year is out of range"⟩

def inCalendar {α : Type} : Option α → Except Exn α
  | some value => .ok value
  | none => .error outOfCalendar

/-- `_next_month_interval`. -/
def nextMonthInterval : Except Exn (Date × Date) :=
  inCalendar (
    if today.month = 12 then monthInterval? (today.year + 1) 1
    else monthInterval? today.year (today.month + 1))

/-- The same day some months later, or the last one of that month. -/
def monthsLater (months : Nat) : Except Exn Date :=
  let targetIndex := today.month - 1 + months
  let targetYear := today.year + targetIndex / 12
  let targetMonth := targetIndex % 12 + 1
  inCalendar (Date.make? targetYear targetMonth
    (min today.day (daysInMonth targetYear targetMonth)))

/-- `_supported_contract_interval`. -/
def supportedContractInterval (request : List Char) : Except Exn (Option (Date × Date)) :=
  if found (nextMonth u) request then (nextMonthInterval today).map some
  else if found (thisMonth u) request then
    (inCalendar (monthInterval? today.year today.month)).map some
  else
    match (nextMonths u).search request with
    | some m => do
        let months ← numberOf u monthCount ((groupOf m 1).getD [])
        let target ← monthsLater today months.toNat
        return some (today, target)
    | none =>
        match (nextDays u).search request with
        | none => .ok none
        | some m => do
            let days ← intOf u ((groupOf m 1).getD [])
            if 1 ≤ days ∧ days ≤ 366 then
              let target ← inCalendar (today.plusDays? days.toNat)
              return some (today, target)
            else return none

/-- The year that is named, or the current one. -/
def yearOf (request : List Char) : Except Exn Int :=
  match (payrollYear u).search request with
  | some m => intOf u ((groupOf m 1).getD [])
  | none => .ok today.year

/-- `local_payroll_presence_period`: the year and the month. -/
def localPayrollPresencePeriod (request : List Char) : Except Exn (Option (Int × Nat)) :=
  match (payrollMonth u).search request with
  | none => .ok none
  | some m => do
      let year ← yearOf u today request
      let month ← lookup monthNumberByName (u.casefold ((groupOf m 1).getD []))
      return some (year, month)

/-- `is_payroll_presence_request`. -/
def isPayrollPresenceRequest (request : List Char) : Bool :=
  found (payrollTerm u) request && found (payrollCollective u) request

/-! ## Targets -/

/-- The identifier that a request gives, if it gives one. -/
def explicitId (request : List Char) : Except Exn (Option String) :=
  match ((explicitEmployeeId u).search request).orElse fun _ =>
      (numericEmployeeTarget u).search request with
  | none => .ok none
  | some m =>
      match validateEmployeeId u (String.ofList ((groupOf m 1).getD [])) with
      | .ok employeeId => .ok (some employeeId)
      | .error _ =>
          .error ⟨.hrRequestInputError, "explicit Employee ID has an invalid format"⟩

/-- `_status_target`: an identifier, or a name. -/
def statusTargetOf (request : List Char) : Except Exn (Option String × Option (List Char)) := do
  match ← explicitId u request with
  | some employeeId => return (some employeeId, none)
  | none =>
      match (statusTarget u).search request with
      | none => return (none, none)
      | some m =>
          let value := stripOf punctuation ((motivation u).sub [] ((groupOf m 1).getD []))
          let value := stripChars ((withId u).sub [] value)
          if value.isEmpty then return (none, none)
          else if 128 < value.length ∨ found (technicalTarget u) value = true then
            throw ⟨.hrRequestInputError, "employee target is invalid"⟩
          else return (none, some (joinWords value))

/-- The patterns of `_resource_target`, in order. -/
def resourceTargetPatterns : List Regex :=
  [namedEmployeeTarget u, documentContextTarget u, resourceOfTarget u, profileTarget u,
    conversationalProfileTarget u, leaveBalanceTarget u, leaveBalanceSummaryTarget u,
    roleSubjectTarget u, timeSubjectTarget u, contractSubjectTarget u, maturationSubjectTarget u,
    resourceForTarget u]

/-- `_resource_target`. -/
def resourceTarget (request : List Char) : Option (List Char) :=
  (resourceTargetPatterns u).findSome? fun pattern => do
    let m ← pattern.search request
    let raw ← (groupOf m 1).orElse fun _ => groupOf m 2
    let candidate := cleaned raw
    if isTarget u candidate && String.ofList (u.casefold candidate) ∉ genericTargetWords then
      some candidate
    else none

/-- The target that a pattern finds. -/
def targetBy (pattern : Regex) (text : List Char) : Option (List Char) := do
  let m ← pattern.search text
  let candidate := cleaned ((groupOf m 1).getD [])
  if isTarget u candidate then some candidate else none

/-! ## Recognisers -/

abbrev Recognised := Except Exn (Option (Option LocalIntent))

/-- Pass the text on. -/
def passOn : Recognised := .ok none

/-- The first recogniser that does not pass the text on. -/
def firstRecognised : List Recognised → Recognised
  | [] => passOn
  | .ok none :: rest => firstRecognised rest
  | decided :: _ => decided

/-- The dictionary of the items. -/
def mapping (parameters : List (String × Json)) : Dict String Json :=
  parameters.foldl (fun d p => d.set p.1 p.2) .empty

/-- `_local_envelope` of a request without a target. -/
def recognise (functionId : String) (actionClass : ActionClass)
    (parameters : List (String × Json)) : Recognised :=
  .ok (some (some {
    intent := {
      functionId := functionId
      actionClass := some actionClass
      parameters := mapping parameters }
    targetQuery := none }))

variable (text : List Char)

/-- `segna la notifica 5 come letta`. -/
def notificationStateIntent : Recognised :=
  match (notificationState u).search text with
  | none => passOn
  | some m => do
      let notificationId ← intOf u ((groupOf m 1).getD [])
      recognise "EMP-NOTIF-002" .prepareWrite
        [("notification_id", .int notificationId), ("read", .bool (groupOf m 2).isNone)]

def notificationListIntent : Recognised :=
  if found (notificationTerm u) text then
    recognise "EMP-NOTIF-001" .read [("unread_only", .bool (found (unread u) text))]
  else passOn

/-- A search by a bare name, unless the name is a word of the assistant. -/
def bareSearch : Option Regex.Match :=
  ((bareEmployeeSearch u).search text).filter fun m =>
    let query := (groupOf m 1).getD []
    !(found (operationalHrObject u) query || found (employeeTerm u) query ||
      found (payrollTerm u) query || found (notificationTerm u) query ||
      (localResourceTerms u).any fun term => found term.1 query)

def searchIntent : Recognised :=
  match ((((directEmployeeSearch u).search text).orElse fun _ =>
      (employeeExistenceSearch u).search text).orElse fun _ =>
      (employeeExistenceCheck u).search text).orElse fun _ => bareSearch u text with
  | none => passOn
  | some m =>
      let query := cleaned ((groupOf m 1).getD [])
      if isTarget u query then
        .ok (some (some {
          intent := {
            functionId := "EMP-SEARCH-001"
            actionClass := some .search
            query := some (String.ofList query)
            parameters := mapping [("status", .str "all")] }
          targetQuery := none }))
      else .error ⟨.hrRequestInputError, "employee search target is invalid"⟩

def status : String × Json := ("status", .str (requestedStatus u text))

/-- A whole list, as a table of characters. -/
def wholeList : List (String × Json) := [("view", .str "ascii"), ("include_all", .bool true)]

def statusListIntent : Recognised :=
  if found (employeeStatusListFollowup u) text then
    recognise "EMP-READ-001" .read (status u text :: wholeList)
  else passOn

def statusCountIntent : Recognised :=
  if found (statusOnlyCount u) text then
    recognise "EMP-READ-001" .read [status u text, ("view", .str "count")]
  else passOn

def sortIntent : Recognised :=
  match (employeeSortRequest u).search text with
  | none => passOn
  | some m => do
      let field ← lookup sortFields (u.casefold ((groupOf m 1).getD []))
      let tail := u.casefold ((groupOf m 2).getD [])
      let direction := if found (descending u) tail then "desc" else "asc"
      recognise "EMP-SORT-001" .filter
        (status u text :: ("sort_by", .str field) :: ("sort_direction", .str direction) :: wholeList)

def groupIntent : Recognised :=
  match (employeeGroupFilter u).search text with
  | none => passOn
  | some m =>
      recognise "EMP-FILTER-001" .filter
        (status u text :: ("group", .str (String.ofList ((groupOf m 1).getD []))) :: wholeList)

def pageIntent : Recognised :=
  match ((employeePageRequest u).search text).filter fun _ => found (employeeTerm u) text with
  | none => passOn
  | some m => do
      let page ← numberOf u pageNumberByWord
        (((groupOf m 1).orElse fun _ => groupOf m 2).getD [])
      recognise "EMP-PAGE-001" .filter
        [status u text, ("page", .int page), ("page_size", .int 25)]

/-- The envelope of a request about one person. -/
def aboutEmployee (functionId : String) (actionClass : ActionClass) (employeeId : Option String)
    (parameters : List (String × Json)) (clarification : Option String)
    (target : Option (List Char)) (interval : Option (Date × Date)) : Recognised :=
  .ok (some (some {
    intent := {
      functionId := functionId
      actionClass := some actionClass
      employeeId := employeeId
      parameters := mapping parameters
      dateFrom := interval.map Prod.fst
      dateTo := interval.map Prod.snd
      requiresClarification := clarification.isSome
      clarificationQuestion := clarification }
    targetQuery := target.map String.ofList }))

/-- The activation or the deactivation of an employee. -/
def statusIntent : Recognised :=
  let deactivate := found (deactivateAction u) text
  let activate := found (activateAction u) text && !deactivate
  if activate || deactivate then do
    let (employeeId, target) ← statusTargetOf u text
    let reason := ((motivation u).search text).map fun m => stripChars ((groupOf m 1).getD [])
    let clarification :=
      if employeeId.isNone && target.isNone then
        some "Indica l'Employee ID oppure un nome e cognome da cercare."
      else if deactivate && reason.isNone then
        some "Indica anche una motivazione, ad esempio \x60motivo: cessazione\x60."
      else none
    aboutEmployee (if deactivate then "EMP-STATUS-001" else "EMP-STATUS-002") .prepareWrite
      employeeId ((reason.map fun r => ("motivation", Json.str (String.ofList r))).toList)
      clarification target none
  else passOn

def latestPaidParameters : List (String × Json) :=
  [("latest_paid", .bool true), ("include_net", .bool true)]

def payrollParameters : Int × Nat → List (String × Json)
  | (year, month) => [("year", .int year), ("month", .int month), ("include_net", .bool true)]

/-- The month before the current one. -/
def previousMonth : Except Exn (Int × Nat) :=
  (inCalendar today.endOfPreviousMonth?).map fun d => ((d.year : Int), d.month)

def netPayIntent : Recognised :=
  let colloquial := found (colloquialPayRequest u) text
  if found (netPayRequest u) text || colloquial then do
    let (employeeId, _) ← statusTargetOf u text
    let latest := found (latestPaid u) text
    let pattern :=
      if latest then latestPayTarget u
      else if colloquial then colloquialPayTarget u
      else netPayTarget u
    let target := if employeeId.isNone then targetBy u pattern text else none
    let parameters ←
      if latest then .ok latestPaidParameters
      else do
        let period ← localPayrollPresencePeriod u today text
        match period with
        | some period => .ok (payrollParameters period)
        | none => (previousMonth today).map payrollParameters
    let clarification :=
      if employeeId.isNone && target.isNone then
        some "Indica l'Employee ID oppure un nome da cercare."
      else none
    aboutEmployee "EMP-PAY-001" .read employeeId parameters clarification target none
  else passOn

def isoText (date : Date) : Json := .str (String.ofList date.isoformat)

def exportIntent : Recognised :=
  match (exportFormatOf u text).filter fun _ => found (exportAction u) text with
  | none => passOn
  | some format =>
      if found (employeeTerm u) text || found (contractWord u) text then do
        let expiring := found (expiryWord u) text
        let interval ← if expiring then supportedContractInterval u today text else .ok none
        recognise "EMP-EXPORT-001" .export
          ([("scope", .str "employees"), ("format", .str format),
            ("dataset", .str (if expiring then "contracts_expiring" else "employees")),
            status u text] ++
          (interval.elim [] fun (first, last) =>
            [("date_from", isoText first), ("date_to", isoText last)]))
      else .ok (some none)

def payrollPresenceIntent : Recognised := do
  let period ← localPayrollPresencePeriod u today text
  match period.filter fun _ => isPayrollPresenceRequest u text with
  | some (year, month) =>
      recognise "EMP-PAY-002" .read [("year", .int year), ("month", .int month)]
  | none => passOn

def payrollIntent : Recognised :=
  if found (payrollTerm u) text then do
    let period ← localPayrollPresencePeriod u today text
    let (employeeId, _) ← statusTargetOf u text
    let target := if employeeId.isNone then targetBy u (payrollDocumentTarget u) text else none
    let clarification :=
      if employeeId.isNone && target.isNone then
        some "Indica il nome o l'Employee ID del dipendente."
      else none
    aboutEmployee "EMP-PAY-001" .read employeeId (period.elim latestPaidParameters payrollParameters)
      clarification target none
  else passOn

/-- The resources that a request names. Days of leave are a balance, whatever they are called. -/
def resourceMatches : List String :=
  let matching := ((localResourceTerms u).filter fun term => found term.1 text).map Prod.snd
  if found (leaveBalanceTarget u) text || found (leaveBalanceSummaryTarget u) text then
    matching.filter (· == "EMP-BAL-001")
  else matching

def profileRequested : Bool :=
  found (profileTerm u) text || found (profileTarget u) text ||
    found (conversationalProfileTarget u) text

/-- The one resource that is asked for. -/
def requestedResource : Option String :=
  match resourceMatches u text with
  | [functionId] =>
      if (found (resourceReadAction u) text || (resourceTarget u text).isSome) &&
          !(functionId == "EMP-CONTRACT-001" && found (nextMonth u) text) then some functionId
      else none
  | _ => none

/-- What is asked of a resource. -/
def resourceParameters (functionId : String) : Except Exn (List (String × Json)) :=
  if functionId = "EMP-BAL-001" then (yearOf u today text).map fun year => [("year", .int year)]
  else if functionId = "EMP-DOC-001" ∧ found (awaited u) text = true then
    .ok [("status", .str "pending")]
  else .ok []

def resourceIntent : Recognised :=
  match if profileRequested u text then some "EMP-READ-002" else requestedResource u text with
  | none => passOn
  | some functionId => do
      let employeeId ← explicitId u text
      let target := if employeeId.isNone then resourceTarget u text else none
      let interval ←
        if functionId = "EMP-CONTRACT-001" then supportedContractInterval u today text else .ok none
      let requiresTarget := functionId ≠ "EMP-CONTRACT-001" || interval.isNone
      let clarification :=
        if requiresTarget && employeeId.isNone && target.isNone then
          some "Indica l'Employee ID oppure un nome da cercare."
        else none
      let parameters ← resourceParameters u today text functionId
      aboutEmployee functionId .read employeeId parameters clarification target interval

def rosterIntent : Recognised :=
  if found (employeeTerm u) text then
    if found (aggregatePattern u) text then
      recognise "EMP-READ-001" .read [status u text, ("view", .str "count")]
    else if found (listMarker u) text && !found (explicitEmployeeId u) text &&
        !found (numericEmployeeTarget u) text && (resourceMatches u text).isEmpty then
      recognise "EMP-READ-001" .read (status u text :: wholeList)
    else passOn
  else passOn

/-- The recognisers, in order. -/
def recognisers : List Recognised :=
  [notificationStateIntent u text, notificationListIntent u text, searchIntent u text,
    statusListIntent u text, statusCountIntent u text, sortIntent u text, groupIntent u text,
    pageIntent u text, statusIntent u text, netPayIntent u today text, exportIntent u today text,
    payrollPresenceIntent u today text, payrollIntent u today text, resourceIntent u today text,
    rosterIntent u text]

/-- `parse_local_operational_intent`. -/
def parseLocalOperationalIntent (request : List Char) : Except Exn (Option LocalIntent) :=
  let text := joinWords (stripChars request)
  if text.isEmpty then .ok none
  else (firstRecognised (recognisers u today text)).map (·.join)

end BhDic.HrAssistant
