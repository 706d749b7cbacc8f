import BhDic.Dic.Responses
import BhDic.Dic.Values
import BhDic.Library.JsonText
import BhDic.Python.Integer
import BhDic.Python.Pydantic

/-!
# Captured payrolls

The payrolls of an employee and a year are read from one response, the first page of twenty. Every
payroll of the page is checked and kept; how many there are on all pages, and whether there are
further pages, is never looked at. `payroll_completeness` says what that comes to.
-/

namespace BhDic.Dic

open BhDic.Library BhDic.Python

/-! ## The records -/

def isRecordIdChar (c : Char) : Bool :=
  c.isAlphanum || c == '_' || c == '.' || c == ':' || c == '-'

/-- `RecordId`. -/
def recordIdField : TextField := ⟨1, 192, ⟨Char.isAlphanum, isRecordIdChar⟩⟩

/-- `EmployeeId`. -/
def employeeIdField : TextField :=
  ⟨1, 64, ⟨Char.isAlphanum, fun c => c.isAlphanum || c == '_' || c == '-'⟩⟩

structure PayrollMetadata where
  payrollId : String
  employeeId : String
  year : Int
  month : Int
  status : String
  publishedAt : Option String
  netCents : Int
  attachmentFilename : Option String
  attachmentUrl : Option String
  ids_ok : recordIdField.Accepts payrollId ∧ employeeIdField.Accepts employeeId
  year_ok : 2000 ≤ year ∧ year ≤ 2200
  month_ok : 1 ≤ month ∧ month ≤ 12
  texts_ok : status.length ≤ 64 ∧ (∀ text ∈ publishedAt, text.length ≤ 64) ∧
    ∀ text ∈ attachmentFilename, text.length ≤ 255
  netCents_ok : 0 ≤ netCents ∧ netCents ≤ 1000000000

/-- The constructor, where it does not raise `ValidationError`. -/
def PayrollMetadata.create (payrollId employeeId : String) (year month : Int) (status : String)
    (publishedAt : Option String) (netCents : Int) (attachmentFilename attachmentUrl : Option String) :
    Option PayrollMetadata :=
  let payrollId := trim payrollId
  let employeeId := trim employeeId
  let status := trim status
  let publishedAt := publishedAt.map trim
  let attachmentFilename := attachmentFilename.map trim
  if h : (recordIdField.Accepts payrollId ∧ employeeIdField.Accepts employeeId) ∧
      (2000 ≤ year ∧ year ≤ 2200) ∧ (1 ≤ month ∧ month ≤ 12) ∧
      (status.length ≤ 64 ∧ (∀ text ∈ publishedAt, text.length ≤ 64) ∧
        ∀ text ∈ attachmentFilename, text.length ≤ 255) ∧
      0 ≤ netCents ∧ netCents ≤ 1000000000 then
    some ⟨payrollId, employeeId, year, month, status, publishedAt, netCents, attachmentFilename,
      attachmentUrl, h.1, h.2.1, h.2.2.1, h.2.2.2.1, h.2.2.2.2⟩
  else none

/-! ## Amounts -/

/-- The exponent of a float, after its `e`. -/
def readExponent : List Char → Option Int
  | '-' :: cs => (readDigits cs.length 0 cs).map fun n => -(n.1 : Int)
  | '+' :: cs => (readDigits cs.length 0 cs).map fun n => (n.1 : Int)
  | cs => (readDigits cs.length 0 cs).map fun n => (n.1 : Int)

/-- `m * 10 ** scale`, if it is an integer. -/
def scaled (m : Nat) (scale : Int) : Option Nat :=
  if 0 ≤ scale then some (m * 10 ^ scale.toNat)
  else if m % 10 ^ (-scale).toNat = 0 then some (m / 10 ^ (-scale).toNat)
  else none

/-- A hundred times what a float says, if that is a natural number. -/
def floatCents (f : FloatText) : Option Nat := do
  let (negative, cs) := readSign f.chars
  let (mantissa, exponent) := Python.partition 'e' cs
  let (whole, fraction) := Python.partition '.' mantissa
  let digits := whole ++ fraction.getD []
  let (m, _) ← readDigits digits.length 0 digits
  let exponent ← (exponent.map readExponent).getD (some 0)
  if negative ∧ m ≠ 0 then none
  else scaled m (exponent - (fraction.getD []).length + 2)

/-! ## One payroll -/

def payrollFailure (reason : String) : Exn :=
  ⟨.dicUiChangedError, "payroll response validation failed: " ++ reason⟩

def schemaFailure : Exn := payrollFailure "invalid response schema"

/-- `_money_cents`. -/
def moneyCents : Json → Except Exn Int
  | .int n => if 0 ≤ n ∧ n ≤ 10000000 then .ok (n * 100) else .error schemaFailure
  | .float f =>
      match floatCents f with
      | some n => if n ≤ 1000000000 then .ok n else .error schemaFailure
      | none => .error schemaFailure
  | _ => .error schemaFailure

/-- `_bounded_text`. -/
def boundedText (maximum : Nat) : Json → Except Exn String
  | .str text =>
      if strip text = "" ∨ maximum < text.length then .error schemaFailure else .ok (strip text)
  | _ => .error schemaFailure

def optionalText (maximum : Nat) : Json → Except Exn (Option String)
  | .null => .ok none
  | value => (boundedText maximum value).map some

def payrollKeys : List String :=
  ["attachments", "balance", "balance_aligned", "create_provider", "date", "description",
    "employee", "id", "month", "net", "read", "read_at", "update_provider", "year"]

def attachmentKeys : List String := ["created_at", "filename", "id", "updated_at", "url"]

def awsQueryKeys : List String :=
  ["X-Amz-Algorithm", "X-Amz-Credential", "X-Amz-Date", "X-Amz-Expires", "X-Amz-SignedHeaders",
    "X-Amz-Signature"]

variable (d : CaptureData)

/-- Whether the fields of a query are exactly those given. -/
def hasExactly (keys : List String) (values : Dict String String) : Bool :=
  values.items.all (fun item => item.1 ∈ keys) && keys.all fun key => (values.get? key).isSome

/-- `_signed_pdf`. -/
def signedPdf : Json → Except Exn (Option String)
  | .null => .ok none
  | .str value => do
      ensure (value.length ≤ 8192) (payrollFailure "invalid attachment URL")
      match urlsplit d.toUrlData value with
      | none => throw (payrollFailure "invalid attachment URL")
      | some parsed =>
          match parseQsl d.toUrlData false 12 parsed.query with
          | none => throw (payrollFailure "invalid attachment URL")
          | some pairs =>
              ensure (parsed.scheme = "https".toList ∧
                  parsed.netloc = "s3.eu-west-1.amazonaws.com".toList ∧
                  ".pdf".toList <:+ d.unicode.casefold parsed.path ∧ parsed.fragment = [] ∧
                  parsed.path.head? = some '/')
                (payrollFailure "unexpected attachment URL")
              match queryValues pairs with
              | none => throw (payrollFailure "unexpected attachment URL metadata")
              | some query =>
                  ensure (hasExactly awsQueryKeys query)
                    (payrollFailure "unexpected attachment URL metadata")
                  ensure (query.get? "X-Amz-Algorithm" = some "AWS4-HMAC-SHA256")
                    (payrollFailure "unexpected attachment signature metadata")
                  return some value
  | _ => .error (payrollFailure "invalid attachment URL")

/-- The URL and the name of the first attachment whose name ends in `.pdf`. -/
def firstPdf : List Json → Except Exn (Option String × Option String)
  | [] => .ok (none, none)
  | .obj fields :: rest => do
      ensure (hasKeys attachmentKeys fields) (payrollFailure "invalid attachment schema")
      let filename ← boundedText 255 (fieldOf fields "filename")
      if ".pdf".toList <:+ d.unicode.casefold filename.toList then
        let url ← signedPdf d (fieldOf fields "url")
        return (url, some filename)
      else firstPdf rest
  | _ :: _ => .error (payrollFailure "invalid attachment schema")

/-- The payroll is that of the employee. -/
def checkEmployee (employeeId : String) (employee : Json) : Except Exn Unit :=
  let failure := payrollFailure "payroll employee does not match request"
  match employee with
  | .obj fields =>
      if isDigitText d.unicode employeeId.toList then
        match readInt d.unicode employeeId.toList with
        | none => .error ⟨.valueError, "invalid literal for int() with base 10"⟩
        | some n => ensure ((Dict.find "id" fields).any (equalsInt d.floats · n)) failure
      else .error failure
  | _ => .error failure

def readAttachments (attachments : Json) : Except Exn (Option String × Option String) :=
  match attachments with
  | .arr items => do
      ensure (items.length ≤ 8) (payrollFailure "invalid attachment schema")
      firstPdf d items
  | _ => .error (payrollFailure "invalid attachment schema")

def checkEmitted (emitted : Option String) : Except Exn Unit :=
  match emitted with
  | none => .ok ()
  | some text => ensure (Date.fromisoformat text).isSome (payrollFailure "invalid payroll date")

def readState : Json → Except Exn String
  | .bool read => .ok (if read then "letta" else "non letta")
  | _ => .error (payrollFailure "invalid payroll schema")

/-- `_payroll`. -/
def payroll (employeeId : String) (year : Int) (item : Json) : Except Exn PayrollMetadata :=
  match item with
  | .obj fields => do
      ensure (hasKeys payrollKeys fields) (payrollFailure "invalid payroll schema")
      checkEmployee d employeeId (fieldOf fields "employee")
      let recordYear ← strictInt schemaFailure 2000 (fieldOf fields "year")
      ensure (recordYear = year ∧ recordYear ≤ 2200)
        (payrollFailure "payroll year does not match request")
      let (url, filename) ← readAttachments d (fieldOf fields "attachments")
      let emitted ← optionalText 32 (fieldOf fields "date")
      checkEmitted emitted
      let status ← readState (fieldOf fields "read")
      let id ← strictInt schemaFailure 1 (fieldOf fields "id")
      let month ← strictInt schemaFailure 1 (fieldOf fields "month")
      let net ← moneyCents (fieldOf fields "net")
      match PayrollMetadata.create (toString id) employeeId recordYear month status emitted net
          filename url with
      | some record => return record
      | none => throw (payrollFailure "invalid payroll projection")
  | _ => .error (payrollFailure "invalid payroll schema")

/-! ## The response -/

def rootKeys : List String :=
  ["current_page", "data", "first_page_url", "from", "last_page", "last_page_url", "links",
    "next_page_url", "path", "per_page", "prev_page_url", "to", "total"]

def queryKeys : List String :=
  ["search", "filter_type", "employee_id", "page", "per_page", "year", "search_fields"]

def maxPayrollResponseBytes : Nat := 512 * 1024

/-- `_query`. -/
def checkQuery (d : UrlData) (url employeeId : String) (year : Int) : Except Exn Unit := do
  let values ← endpointQuery payrollFailure d 16 "/backend_apiV2/payrolls" url
  ensure (hasExactly queryKeys values) (payrollFailure "unexpected query metadata")
  let value := fun key => (values.get? key).getD ""
  ensure (value "employee_id" = employeeId ∧ value "year" = toString year)
    ⟨.mismatch, "payroll response does not match requested employee and year"⟩
  ensure (value "page" = "1" ∧ value "per_page" = "20" ∧
      d.unicode.casefold (value "filter_type").toList = "and".toList ∧ value "search" = "" ∧
      value "search_fields" ≠ "" ∧ (value "search_fields").length ≤ 128)
    (payrollFailure "invalid query metadata")

/-- The payrolls of a document. -/
def payrollsFromDocument (employeeId : String) (year : Int) (fields : List (String × Json)) :
    Except Exn (List PayrollMetadata) := do
  ensure (hasKeys rootKeys fields) schemaFailure
  ensure (equalsInt d.floats (fieldOf fields "current_page") 1 ∧
      equalsInt d.floats (fieldOf fields "per_page") 20)
    (payrollFailure "unexpected pagination metadata")
  match fieldOf fields "data" with
  | .arr items =>
      ensure (items.length ≤ 20) (payrollFailure "invalid payroll collection")
      let records ← items.mapM (payroll d employeeId year)
      ensure (records.map (·.payrollId)).Nodup (payrollFailure "duplicate payroll identifiers")
      return records
  | _ => throw (payrollFailure "invalid payroll collection")

def payrollsFromResponse (response : Response) (employeeId : String) (year : Int) :
    Except Exn (List PayrollMetadata) := do
  checkQuery d.toUrlData response.url employeeId year
  checkMetadata payrollFailure d maxPayrollResponseBytes response.metadata
  match ← readDocument payrollFailure d maxPayrollResponseBytes response.body with
  | .obj fields => payrollsFromDocument d employeeId year fields
  | _ => throw schemaFailure

/-! ## Completeness -/

/-- The document of a response. -/
def Response.Holds (response : Response) (fields : List (String × Json)) : Prop :=
  ∃ raw, response.body = some raw ∧ d.loads raw = some (.obj fields)

/-- A document declares `n` payrolls, and no page after the first. -/
structure Declares (fields : List (String × Json)) (n : Nat) : Prop where
  total : Dict.find "total" fields = some (.int n)
  lastPage : Dict.find "last_page" fields = some (.int 1)
  nextPage : Dict.find "next_page_url" fields = some .null

/-- The payrolls returned are all that the response declares. -/
def ReturnsAll (response : Response) (records : List PayrollMetadata) : Prop :=
  ∀ fields, response.Holds d fields → Declares fields records.length

/-- The response declares what its array carries, and nothing else. -/
def Response.CarriesAll (response : Response) : Prop :=
  ∀ fields items, response.Holds d fields → Dict.find "data" fields = some (.arr items) →
    Declares fields items.length

variable {d}

/-- The array of an accepted document, and its payrolls in their places. -/
theorem payrollsFromDocument_eq_ok {employeeId : String} {year : Int}
    {fields : List (String × Json)} {records : List PayrollMetadata}
    (h : payrollsFromDocument d employeeId year fields = .ok records) :
    ∃ items, Dict.find "data" fields = some (.arr items) ∧
      List.Forall₂ (fun item record => payroll d employeeId year item = .ok record) items
        records := by
  simp only [payrollsFromDocument, bind_eq_ok, ensure_eq_ok] at h
  obtain ⟨-, hkeys, -, -, h⟩ := h
  have hfound : (Dict.find "data" fields).isSome := by
    apply List.all_eq_true.mp hkeys
    simp [rootKeys]
  obtain ⟨data, hdata⟩ := Option.isSome_iff_exists.mp hfound
  simp only [fieldOf, hdata, Option.getD_some] at h
  cases data with
  | arr items =>
      simp only [bind_eq_ok, ensure_eq_ok, mapM_eq_ok] at h
      obtain ⟨-, -, records', hrecords, -, -, heq⟩ := h
      cases heq
      exact ⟨items, hdata, hrecords⟩
  | _ => cases h

/-- What is accepted has a document, and every payroll of its array is returned in its place. -/
theorem accepted_document {response : Response} {employeeId : String} {year : Int}
    {records : List PayrollMetadata}
    (h : payrollsFromResponse d response employeeId year = .ok records) :
    ∃ fields items, response.Holds d fields ∧ Dict.find "data" fields = some (.arr items) ∧
      List.Forall₂ (fun item record => payroll d employeeId year item = .ok record) items
        records := by
  simp only [payrollsFromResponse, bind_eq_ok] at h
  obtain ⟨-, -, -, -, document, hdocument, h⟩ := h
  obtain ⟨raw, hbody, -, hloads⟩ := (readDocument_eq_ok _ _).mp hdocument
  cases document with
  | obj fields =>
      obtain ⟨items, hdata, hrecords⟩ := payrollsFromDocument_eq_ok h
      exact ⟨fields, items, ⟨raw, hbody, hloads⟩, hdata, hrecords⟩
  | _ => cases h

theorem Response.Holds.unique {response : Response} {fields fields' : List (String × Json)}
    (h : response.Holds d fields) (h' : response.Holds d fields') : fields = fields' := by
  obtain ⟨raw, hbody, hloads⟩ := h
  obtain ⟨raw', hbody', hloads'⟩ := h'
  rw [hbody] at hbody'
  cases hbody'
  rw [hloads] at hloads'
  cases hloads'
  rfl

/-- **Payroll completeness.** An accepted response returns every payroll of its array. These are all
it declares exactly when it declares no more than it carries, which nothing makes sure of. -/
theorem payroll_completeness {response : Response} {employeeId : String} {year : Int}
    {records : List PayrollMetadata}
    (h : payrollsFromResponse d response employeeId year = .ok records) :
    (∃ fields items, response.Holds d fields ∧ Dict.find "data" fields = some (.arr items) ∧
      List.Forall₂ (fun item record => payroll d employeeId year item = .ok record) items
        records) ∧
    (ReturnsAll d response records ↔ response.CarriesAll d) := by
  obtain ⟨fields, items, hholds, hdata, hrecords⟩ := accepted_document h
  refine ⟨⟨fields, items, hholds, hdata, hrecords⟩, ?_⟩
  have hlength : items.length = records.length := hrecords.length_eq
  constructor
  · intro hall fields' items' hholds' hdata'
    cases hholds.unique hholds'
    rw [hdata] at hdata'
    cases hdata'
    rw [hlength]
    exact hall fields hholds
  · intro hall fields' hholds'
    cases hholds.unique hholds'
    rw [← hlength]
    exact hall fields items hholds hdata

section Sample

/-- A page of one payroll that declares as many as it is told to. -/
def samplePayrolls (total lastPage : Int) (nextPage : Json) : List (String × Json) :=
  [("current_page", .int 1),
    ("data", .arr [.obj [("attachments", .arr []), ("balance", .arr []),
      ("balance_aligned", .bool true), ("create_provider", .str "dic"), ("date", .null),
      ("description", .str "Cedolino luglio"), ("employee", .obj [("id", .int 123)]),
      ("id", .int 77), ("month", .int 7), ("net", .int 1234), ("read", .bool true),
      ("read_at", .null), ("update_provider", .null), ("year", .int 2026)]]),
    ("first_page_url", .str ""), ("from", .int 1), ("last_page", .int lastPage),
    ("last_page_url", .str ""), ("links", .arr []), ("next_page_url", nextPage),
    ("path", .str ""), ("per_page", .int 20), ("prev_page_url", .null), ("to", .int 1),
    ("total", .int total)]

/-- Right for texts of ASCII characters without escapes. -/
def sampleUrls : UrlData where
  unicode := asciiTables
  bracketedNetloc _ := false
  decodeReplace bytes := bytes.map fun b => Char.ofNat b.toNat

def sampleText (document : List (String × Json)) : List Char := (Json.obj document).render true

/-- Right for the body that is the text of the document. -/
def sampleCapture (document : List (String × Json)) : CaptureData where
  toUrlData := sampleUrls
  floats := ⟨fun _ => none⟩
  loads raw :=
    if raw = encodeUtf8 (String.ofList (sampleText document)) then some (.obj document) else none

def sampleUrl : String :=
  "https://secure.dipendentincloud.it/backend_apiV2/payrolls?search=&filter_type=and" ++
    "&employee_id=123&page=1&per_page=20&year=2026&search_fields=description"

def sampleResponse (document : List (String × Json)) : Response where
  url := sampleUrl
  metadata := some ⟨some "application/json; charset=utf-8", none, "GET", 200⟩
  body := some (encodeUtf8 (String.ofList (sampleText document)))

theorem holds_sample (document : List (String × Json)) :
    (sampleResponse document).Holds (sampleCapture document) document :=
  ⟨_, rfl, if_pos rfl⟩

theorem checkQuery_sample : checkQuery sampleUrls sampleUrl "123" 2026 = .ok () := by
  decide +kernel

theorem payrollsFromResponse_sample {document : List (String × Json)}
    (hascii : (sampleText document).all isAscii = true)
    (hlength : (sampleText document).length ≤ maxPayrollResponseBytes) :
    payrollsFromResponse (sampleCapture document) (sampleResponse document) "123" 2026 =
      payrollsFromDocument (sampleCapture document) "123" 2026 document := by
  have hchars : ∀ c ∈ sampleText document, c.toNat < 128 := by
    intro c hc
    simpa [isAscii] using List.all_eq_true.mp hascii c hc
  have hsize : (encodeUtf8 (String.ofList (sampleText document))).length ≤
      maxPayrollResponseBytes := by
    rw [← utf8ByteSize_ofList hchars] at hlength
    exact hlength
  have hmetadata : checkMetadata payrollFailure (sampleCapture document) maxPayrollResponseBytes
      (sampleResponse document).metadata = .ok () := rfl
  have hdocument : readDocument payrollFailure (sampleCapture document) maxPayrollResponseBytes
      (sampleResponse document).body = .ok (.obj document) :=
    (readDocument_eq_ok _ _).mpr ⟨_, rfl, hsize, if_pos rfl⟩
  have hquery : checkQuery (sampleCapture document).toUrlData (sampleResponse document).url "123"
      2026 = .ok () := checkQuery_sample
  rw [payrollsFromResponse, hquery, hmetadata, hdocument]
  rfl

/-- 21 payrolls on two pages, of which the response carries one. -/
def truncatedPayrolls : List (String × Json) :=
  samplePayrolls 21 2 (.str "/backend_apiV2/payrolls?page=2")

/-- The first of two pages is taken for all there is. -/
theorem payroll_truncated :
    ∃ records, payrollsFromResponse (sampleCapture truncatedPayrolls)
        (sampleResponse truncatedPayrolls) "123" 2026 = .ok records ∧ records.length = 1 ∧
      ¬ReturnsAll (sampleCapture truncatedPayrolls) (sampleResponse truncatedPayrolls) records := by
  rw [payrollsFromResponse_sample (by decide +kernel) (by decide +kernel)]
  refine ⟨_, rfl, rfl, ?_⟩
  intro hall
  have htotal := (hall truncatedPayrolls (holds_sample _)).total
  cases htotal

def completePayrolls : List (String × Json) := samplePayrolls 1 1 .null

theorem completePayrolls_carried :
    (sampleResponse completePayrolls).CarriesAll (sampleCapture completePayrolls) := by
  intro fields items hholds hdata
  cases (holds_sample completePayrolls).unique hholds
  cases hdata
  exact ⟨rfl, rfl, rfl⟩

/-- Where one payroll is declared and carried, it is returned. -/
theorem payroll_completeness_one :
    ∃ records, payrollsFromResponse (sampleCapture completePayrolls)
        (sampleResponse completePayrolls) "123" 2026 = .ok records ∧
      ReturnsAll (sampleCapture completePayrolls) (sampleResponse completePayrolls) records := by
  have haccepted : ∃ records, payrollsFromResponse (sampleCapture completePayrolls)
      (sampleResponse completePayrolls) "123" 2026 = .ok records := by
    rw [payrollsFromResponse_sample (by decide +kernel) (by decide +kernel)]
    exact ⟨_, rfl⟩
  obtain ⟨records, hrecords⟩ := haccepted
  exact ⟨records, hrecords, (payroll_completeness hrecords).2.mpr completePayrolls_carried⟩

end Sample

end BhDic.Dic
