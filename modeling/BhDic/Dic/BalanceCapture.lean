import BhDic.Dic.PayrollCapture

/-!
# Captured balances

`counters_from_response` reads the names of the counters, and `balance_lines_from_response` projects
the balances of one employee and year, a line for each counter and month. Both have checks that let
through what `int` or the validating model then refuses.
-/

namespace BhDic.Dic.BalanceCapture

open BhDic.Library BhDic.Python

/-- The tables, and how a text of a query is read. -/
structure BalanceData extends CaptureData where
  /-- `json.loads` on a text, where it does not raise `JSONDecodeError`. -/
  loadsText : String → Option Json

variable (d : BalanceData)

def failure (reason : String) : Exn :=
  ⟨.dicUiChangedError, "employees.balances response validation failed: " ++ reason⟩

/-- `_ResponseMismatch`. -/
def mismatch (reason : String) : Exn := ⟨.responseMismatch, reason⟩

/-- `MAX_RESPONSE_BYTES`. -/
def maxResponseBytes : Nat := 2 * 1024 * 1024

/-- `int(text)`, which refuses more than 4300 digits. -/
def toInt (text : List Char) : Except Exn Int :=
  match if text.length ≤ 4300 then readInt d.unicode text else none with
  | some n => .ok n
  | none => .error ⟨.valueError, "invalid literal for int() with base 10"⟩

/-! ## The query -/

def isText (text : String) : Json → Bool
  | .str s => s == text
  | _ => false

/-- The value or the one element of an array. -/
def isOrHolds (test : Json → Bool) (value : Json) : Bool :=
  test value || match value with
    | .arr [item] => test item
    | _ => false

/-- The value of a field of a query: the JSON it is, or else the text. -/
def queryValue (raw : String) : Json := (d.loadsText raw).getD (.str raw)

/-- `_single_identifier`. -/
def singleIdentifier (raw employeeId : String) : Except Exn Bool :=
  if isDigitText d.unicode employeeId.toList then do
    let expected ← toInt d employeeId.toList
    return isOrHolds (fun value => equalsInt d.floats value expected || isText employeeId value)
      (queryValue d raw)
  else return isOrHolds (isText employeeId) (queryValue d raw)

/-- `_contains_year`. -/
def containsYear (raw : String) (year : Int) : Bool :=
  isOrHolds (fun value => equalsInt d.floats value year || isText (toString year) value)
    (queryValue d raw)

def isMonth (n : Int) : Bool := 1 ≤ n && n ≤ 12

/-- `all(part.isdigit() and 1 <= int(part) <= 12 for part in parts)`. -/
def allMonths : List (List Char) → Except Exn Bool
  | [] => .ok true
  | part :: parts =>
      if isDigitText d.unicode part then do
        let n ← toInt d part
        if isMonth n then allMonths parts else return false
      else .ok false

def monthOf : Json → Option Int
  | .int n => if isMonth n then some n else none
  | _ => none

/-- `_valid_months`. -/
def validMonths (raw : String) : Except Exn Bool :=
  match queryValue d raw with
  | .str text =>
      let parts := text.toList.splitOn '|'
      if 1 ≤ parts.length ∧ parts.length ≤ 12 then do
        if ← allMonths d parts then return decide parts.Nodup else return false
      else .ok false
  | .int n => .ok (isMonth n)
  | .arr items =>
      .ok (1 ≤ items.length && items.length ≤ 12 &&
        ((items.mapM monthOf).any fun months => decide months.Nodup))
  | _ => .ok false

def queryKeys : List String := ["employees_ids", "include_pending", "months", "years"]

/-- The fields of the query of a balance response. -/
def balanceQuery (url : String) : Except Exn (Dict String String) := do
  let values ← endpointQuery failure d.toUrlData 8 "/backend_apiV2/attendance/balance" url
  ensure (hasExactly queryKeys values) (failure "unexpected query metadata")
  return values

def fieldText (values : Dict String String) (key : String) : String := (values.get? key).getD ""

def isPendingState (text : String) : Bool :=
  d.unicode.casefold text.toList ∈
    ["0".toList, "1".toList, "false".toList, "true".toList]

/-! ## The metadata -/

/-- A response of JSON to a `GET` that went well. -/
def checkAnswer (metadata mediaType : Exn) (m : ResponseMetadata) : Except Exn Unit := do
  ensure (m.method = "GET" ∧ m.status = 200) metadata
  ensure (m.contentType.any (isJsonType d.toCaptureData)) mediaType

/-- `not content_length.isdigit() or int(content_length) > MAX_RESPONSE_BYTES`. -/
def checkLength (e : Exn) (contentLength : Option String) : Except Exn Unit :=
  match contentLength with
  | none => .ok ()
  | some text =>
      if isDigitText d.unicode text.toList then do
        let length ← toInt d text.toList
        ensure (length ≤ maxResponseBytes) e
      else .error e

def checkMonths (values : Dict String String) : Except Exn Unit := do
  ensure (← validMonths d (fieldText values "months")) (failure "invalid month metadata")

def checkEmployeeAndYear (values : Dict String String) (employeeId : String) (year : Int) :
    Except Exn Unit := do
  ensure (← singleIdentifier d (fieldText values "employees_ids") employeeId)
    (mismatch "response does not match requested employee")
  ensure (containsYear d (fieldText values "years") year)
    (mismatch "response does not match requested year")

/-- The metadata of a balance response before its length. -/
def checkBalanceAnswer (values : Dict String String) (response : Response) :
    Except Exn ResponseMetadata := do
  ensure (isPendingState d (fieldText values "include_pending"))
    (failure "invalid pending-state metadata")
  match response.metadata with
  | none => throw (failure "response metadata unavailable")
  | some m =>
      checkAnswer d (failure "unexpected response metadata")
        (failure "unexpected response media type") m
      return m

/-- `_validate_metadata`. -/
def validateMetadata (response : Response) (employeeId : String) (year : Int) :
    Except Exn Unit := do
  let values ← balanceQuery d response.url
  checkEmployeeAndYear d values employeeId year
  checkMonths d values
  let m ← checkBalanceAnswer d values response
  checkLength d (failure "invalid response size metadata") m.contentLength

/-- The URL and the metadata of a counter response before its length. -/
def checkCounterAnswer (response : Response) : Except Exn ResponseMetadata :=
  match urlsplit d.toUrlData response.url, response.metadata with
  | some parsed, some m => do
      ensure (isEndpoint "/backend_apiV2/counters" parsed ∧ parsed.query = [])
        (failure "unexpected counter response metadata")
      checkAnswer d (failure "unexpected counter response metadata")
        (failure "unexpected counter response media type") m
      return m
  | _, _ => .error (failure "counter response metadata unavailable")

/-- `_validate_counter_metadata`. -/
def validateCounterMetadata (response : Response) : Except Exn Unit := do
  let m ← checkCounterAnswer d response
  checkLength d (failure "invalid counter response size metadata") m.contentLength

/-- `_read_document`. -/
def readResource (resource : String) (response : Response) : Except Exn Json :=
  match response.body with
  | none => .error (failure (resource ++ " response body unavailable"))
  | some raw =>
      if maxResponseBytes < raw.length then
        .error (failure (resource ++ " response exceeds read limit"))
      else
        match d.loads raw with
        | none => .error (failure ("invalid " ++ resource ++ " response document"))
        | some document => .ok document

/-- What an object holds under the key, if that is its only one. -/
def onlyField (key : String) : Json → Option Json
  | .obj [(k, value)] => if k = key then some value else none
  | _ => none

/-! ## The counters -/

/-- `_binary_state`. -/
def binaryState : Json → Bool
  | .bool _ => true
  | .int n => n == 0 || n == 1
  | _ => false

abbrev Counters := Dict Int String

/-- The body of the loop of `counters_from_response`. -/
def addCounter (counters : Counters) (item : Json) : Except Exn Counters :=
  match item with
  | .obj fields => do
      ensure (hasKeys ["id", "name", "active", "auto_maturation"] fields)
        (failure "invalid counter item schema")
      match fieldOf fields "id" with
      | .int identifier => do
          ensure (1 ≤ identifier ∧ ¬counters.contains identifier)
            (failure "invalid counter identifier")
          match fieldOf fields "name" with
          | .str name => do
              ensure (strip name ≠ "" ∧ name.length ≤ 128) (failure "invalid counter name")
              ensure (binaryState (fieldOf fields "active") ∧
                binaryState (fieldOf fields "auto_maturation")) (failure "invalid counter state")
              return counters.set identifier (strip name)
          | _ => throw (failure "invalid counter name")
      | _ => throw (failure "invalid counter identifier")
  | _ => .error (failure "invalid counter item schema")

/-- The counters of a document. -/
def countersFromDocument (document : Json) : Except Exn Counters :=
  match onlyField "data" document with
  | none => .error (failure "invalid counter response schema")
  | some (.arr data) => do
      ensure (data.length ≤ 100) (failure "invalid counter collection")
      data.foldlM addCounter .empty
  | some _ => .error (failure "invalid counter collection")

def countersFromResponse (response : Response) : Except Exn Counters := do
  validateCounterMetadata d response
  countersFromDocument (← readResource d "counter" response)

/-! ## The lines -/

/-- `str(value)` of a number, `None` being for what is not one. -/
def numberText : Json → Option String
  | .int n => some (toString n)
  | .float f => if f.isFinite then some (String.ofList f.chars) else none
  | _ => none

/-- `_decimal`. -/
def decimal (value : Json) : Except Exn String :=
  match (numberText value).map fun text => canonicalDecimalText d.unicode text 9 4 with
  | some (.ok text) => .ok text
  | _ => .error (failure "invalid balance numeric field")

structure Amounts where
  balance : String
  maturation : String
  utilization : String
  projection : String
  accrued : String
  used : String
  corrections : String
  currentResidual : String

def Amounts.all (a : Amounts) : List String :=
  [a.balance, a.maturation, a.utilization, a.projection, a.accrued, a.used, a.corrections,
    a.currentResidual]

def Amounts.map (f : String → String) (a : Amounts) : Amounts :=
  ⟨f a.balance, f a.maturation, f a.utilization, f a.projection, f a.accrued, f a.used,
    f a.corrections, f a.currentResidual⟩

structure BalanceLine extends Amounts where
  category : String
  counterId : String
  month : Int
  category_ok : category.length ≤ 128
  counterId_ok : counterId.length ≤ 64
  month_ok : 1 ≤ month ∧ month ≤ 12
  amounts_ok : ∀ text ∈ toAmounts.all, text.length ≤ 64

/-- The constructor, where it does not raise `ValidationError`. -/
def BalanceLine.create (category counterId : String) (month : Int) (amounts : Amounts) :
    Option BalanceLine :=
  if h : (trim category).length ≤ 128 ∧ (trim counterId).length ≤ 64 ∧ (1 ≤ month ∧ month ≤ 12) ∧
      ∀ text ∈ (amounts.map trim).all, text.length ≤ 64 then
    some ⟨amounts.map trim, trim category, trim counterId, month, h.1, h.2.1, h.2.2.1, h.2.2.2⟩
  else none

/-- The amounts of an item. -/
def readAmounts (fields : List (String × Json)) : Except Exn Amounts := do
  let balance ← decimal d (fieldOf fields "balance")
  let maturation ← decimal d (fieldOf fields "maturation")
  let utilization ← decimal d (fieldOf fields "utilization")
  let projection ← decimal d (fieldOf fields "projection")
  let accrued ← decimal d (fieldOf fields "maturation")
  let used ← decimal d (fieldOf fields "utilization")
  let corrections ← decimal d (fieldOf fields "correction")
  let currentResidual ← decimal d (fieldOf fields "residue")
  return ⟨balance, maturation, utilization, projection, accrued, used, corrections, currentResidual⟩

/-- The line of an item. -/
def projectItem (category : String) (counterId month : Int) (fields : List (String × Json)) :
    Except Exn BalanceLine := do
  let amounts ← readAmounts d fields
  match BalanceLine.create category (toString counterId) month amounts with
  | some line => return line
  | none => throw ⟨.pydanticValidationError, "validation errors for BalanceLine"⟩

def itemKeys : List String :=
  ["balance", "correction", "counter_id", "maturation", "projection", "residue", "utilization"]

/-- `lines` and `seen`. -/
structure Gathered where
  lines : List BalanceLine := []
  seen : List (Int × Int) := []

/-- The checks on an item: its fields, its counter and the name of that. -/
def checkItem (counters : Counters) (month : Int) (s : Gathered) (item : Json) :
    Except Exn (List (String × Json) × Int × String) :=
  match item with
  | .obj fields => do
      ensure (hasKeys itemKeys fields) (failure "invalid balance item schema")
      match fieldOf fields "counter_id" with
      | .int counterId =>
          match counters.get? counterId with
          | some category => do
              ensure ((month, counterId) ∉ s.seen) (failure "duplicate balance item")
              return (fields, counterId, category)
          | none => throw (failure "unknown balance counter")
      | _ => throw (failure "unknown balance counter")
  | _ => .error (failure "invalid balance item schema")

/-- The body of the inner loop. -/
def addItem (counters : Counters) (month : Int) (s : Gathered) (item : Json) :
    Except Exn Gathered := do
  let (fields, counterId, category) ← checkItem counters month s item
  let line ← projectItem d category counterId month fields
  ensure (s.lines.length + 1 ≤ 1200) (failure "balance collection exceeds read limit")
  return ⟨s.lines ++ [line], s.seen ++ [(month, counterId)]⟩

/-- The items of a month, and which month it is. -/
def readMonth (entry : String × Json) : Except Exn (Int × List Json) :=
  if isDigitText d.unicode entry.1.toList then do
    let month ← toInt d entry.1.toList
    match entry.2 with
    | .arr items => do
        ensure (isMonth month ∧ items.length ≤ 100) (failure "invalid balance month")
        return (month, items)
    | _ => throw (failure "invalid balance month")
  else .error (failure "invalid balance month")

/-- The body of the outer loop. -/
def addMonth (counters : Counters) (s : Gathered) (entry : String × Json) :
    Except Exn Gathered := do
  let (month, items) ← readMonth d entry
  items.foldlM (addItem d counters month) s

/-- What the months are sorted by. -/
def monthKey (entry : String × Json) : Except Exn Int :=
  if isDigitText d.unicode entry.1.toList then toInt d entry.1.toList else .ok 99

/-- `sorted(months.items(), key=...)`. -/
def sortMonths (months : List (String × Json)) : Except Exn (List (String × Json)) := do
  let keyed ← months.mapM fun entry => (monthKey d entry).map fun key => (key, entry)
  return (keyed.insertionSort fun a b => a.1 ≤ b.1).map Prod.snd

/-- The months of a document, or nothing where it has none. -/
def balanceMonths (employeeId : String) (year : Int) (document : Json) :
    Except Exn (List (String × Json)) :=
  match onlyField "data" document with
  | none => .error (failure "invalid response schema")
  | some (.arr []) => .ok []
  | some data =>
      match onlyField employeeId data with
      | none => .error (failure "invalid balance collection")
      | some employeeData =>
          match onlyField (toString year) employeeData with
          | none => .error (failure "invalid balance year collection")
          | some (.obj months) => do
              ensure (months.length ≤ 12) (failure "invalid balance month collection")
              return months
          | some _ => .error (failure "invalid balance month collection")

end BhDic.Dic.BalanceCapture
