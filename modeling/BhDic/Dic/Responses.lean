import BhDic.Library.Json
import BhDic.Python.Date
import BhDic.Python.Equality
import BhDic.Python.Url

/-!
# Captured responses

What the captures of DIC responses have in common: the endpoint a URL has to name, the metadata of
a response, and its document. Each capture has its own messages and limits.
-/

namespace BhDic.Dic

open BhDic.Library BhDic.Python

/-- The tables, and how a document is read. -/
structure CaptureData extends UrlData where
  floats : FloatData
  /-- `json.loads`, where it takes the bytes for a document. -/
  loads : List UInt8 → Option Json

/-- What is read of a response before its body. -/
structure ResponseMetadata where
  contentType : Option String
  contentLength : Option String
  method : String
  status : Int

/-- A captured response. What raises when it is read is not there. -/
structure Response where
  url : String
  metadata : Option ResponseMetadata
  body : Option (List UInt8)

variable (failure : String → Exn)

/-! ## The endpoint -/

/-- The fields of a query as a dictionary, unless one comes twice. -/
def queryValues (pairs : List (String × String)) : Option (Dict String String) :=
  if h : (pairs.map Prod.fst).Nodup then some ⟨pairs, h⟩ else none

/-- The URL is the path given at `https://secure.dipendentincloud.it`. -/
def isEndpoint (path : String) (parsed : SplitResult) : Bool :=
  parsed.scheme == "https".toList && parsed.netloc == "secure.dipendentincloud.it".toList &&
    parsed.path == path.toList && parsed.fragment.isEmpty

/-- The fields of the query of an endpoint. -/
def endpointQuery (d : UrlData) (maxNumFields : Nat) (path url : String) :
    Except Exn (Dict String String) :=
  match urlsplit d url with
  | none => .error (failure "invalid endpoint metadata")
  | some parsed =>
      match parseQsl d true maxNumFields parsed.query with
      | none => .error (failure "invalid endpoint metadata")
      | some pairs =>
          if isEndpoint path parsed then
            match queryValues pairs with
            | none => .error (failure "duplicate query metadata")
            | some values => .ok values
          else .error (failure "unexpected endpoint metadata")

/-! ## Metadata -/

variable (d : CaptureData)

/-- `content_type.split(";", 1)[0].strip().casefold() == "application/json"`. -/
def isJsonType (contentType : String) : Bool :=
  d.unicode.casefold (stripChars (Python.partition ';' contentType.toList).1) ==
    "application/json".toList

/-- A size written as `0|[1-9][0-9]{0,9}`. -/
def readContentLength (text : String) : Option Nat :=
  match text.toList with
  | ['0'] => some 0
  | c :: cs =>
      if c ≠ '0' ∧ (c :: cs).all Char.isDigit ∧ cs.length ≤ 9 then
        (readDigits (cs.length + 1) 0 (c :: cs)).map Prod.fst
      else none
  | [] => none

def checkMetadata (limit : Nat) (metadata : Option ResponseMetadata) : Except Exn Unit :=
  match metadata with
  | none => .error (failure "response metadata unavailable")
  | some m => do
      ensure (m.method = "GET" ∧ m.status = 200) (failure "unexpected response metadata")
      ensure (m.contentType.any (isJsonType d)) (failure "unexpected response media type")
      match m.contentLength with
      | none => return
      | some text =>
          match readContentLength text with
          | none => throw (failure "invalid response size metadata")
          | some length => ensure (length ≤ limit) (failure "response exceeds read limit")

/-! ## Documents -/

def readDocument (limit : Nat) (body : Option (List UInt8)) : Except Exn Json :=
  match body with
  | none => .error (failure "response body unavailable")
  | some raw =>
      if limit < raw.length then .error (failure "response exceeds read limit")
      else
        match d.loads raw with
        | none => .error (failure "invalid response document")
        | some document => .ok document

theorem readDocument_eq_ok {limit : Nat} {body : Option (List UInt8)} {document : Json} :
    readDocument failure d limit body = .ok document ↔
      ∃ raw, body = some raw ∧ raw.length ≤ limit ∧ d.loads raw = some document := by
  cases body with
  | none => simp [readDocument]
  | some raw =>
      simp only [readDocument, Option.some.injEq, exists_eq_left']
      split
      · rename_i hlong
        simp [Nat.not_le.mpr hlong]
      · rename_i hshort
        cases d.loads raw <;> simp [Nat.not_lt.mp hshort]

/-- `keys.issubset(item)`. -/
def hasKeys (keys : List String) (fields : List (String × Json)) : Bool :=
  keys.all fun key => (Dict.find key fields).isSome

/-- A field that was found to be there. -/
def fieldOf (fields : List (String × Json)) (key : String) : Json :=
  (Dict.find key fields).getD .null

/-- `_strict_int`. -/
def strictInt (e : Exn) (minimum : Int) : Json → Except Exn Int
  | .int n => if minimum ≤ n then .ok n else .error e
  | _ => .error e

end BhDic.Dic
