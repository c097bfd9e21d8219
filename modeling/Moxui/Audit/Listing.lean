import Moxui.Api.Handlers
import Moxui.Audit.Store
import Moxui.Lib.Url

set_option autoImplicit false

namespace Moxui.Audit

open Api (digitsValue parseUnsigned)

structure AuditQueryParams where
  page : Option UInt64
  perPage : Option UInt64
  method : Option String
  path : Option String
  status : Option UInt16
  fromTs : Option Int
  toTs : Option Int
  requestId : Option String
  sort : Option String

def AuditQueryParams.unset : AuditQueryParams :=
  { page := none, perPage := none, method := none, path := none, status := none, fromTs := none, toTs := none
    requestId := none, sort := none }

inductive QueryRejection where
  | duplicateField (name : String)
  | notAnInteger (text : String)
deriving DecidableEq

-- `str::parse::<i64>`
def parseI64 (text : String) : Option Int :=
  match text.toList with
  | '-' :: digits => (digitsValue digits).bind fun value =>
      if value ≤ UInt64.size / 2 then some (-Int.ofNat value) else none
  | _ => (parseUnsigned (UInt64.size / 2) text).map Int.ofNat

def readInteger {α : Type} (value : Option α) (text : String) : Except QueryRejection α :=
  match value with
  | some value => .ok value
  | none => .error (.notAnInteger text)

-- A field that may come once.
def once {α : Type} (name : String) (current : Option α) (value : Except QueryRejection α) :
    Except QueryRejection (Option α) :=
  if current.isSome then .error (.duplicateField name) else value.map some

namespace AuditQueryParams

-- One pair of the query, as the derived `Deserialize` takes it up; it passes over names it does not know.
def take (params : AuditQueryParams) (pair : String × String) : Except QueryRejection AuditQueryParams :=
  let (name, text) := pair
  let u64 := (parseUnsigned UInt64.size text).map UInt64.ofNat
  let u16 := (parseUnsigned UInt16.size text).map UInt16.ofNat
  let i64 := parseI64 text
  if name = "page" then (once name params.page (readInteger u64 text)).map fun page => { params with page }
  else if name = "per_page" then (once name params.perPage (readInteger u64 text)).map fun perPage => { params with perPage }
  else if name = "method" then (once name params.method (.ok text)).map fun method => { params with method }
  else if name = "path" then (once name params.path (.ok text)).map fun path => { params with path }
  else if name = "status" then (once name params.status (readInteger u16 text)).map fun status => { params with status }
  else if name = "from_ts" then (once name params.fromTs (readInteger i64 text)).map fun fromTs => { params with fromTs }
  else if name = "to_ts" then (once name params.toTs (readInteger i64 text)).map fun toTs => { params with toTs }
  else if name = "request_id" then (once name params.requestId (.ok text)).map fun requestId => { params with requestId }
  else if name = "sort" then (once name params.sort (.ok text)).map fun sort => { params with sort }
  else .ok params

def takeAll (pairs : List (String × String)) : Except QueryRejection AuditQueryParams :=
  pairs.foldlM take unset

-- `AuditQuery::from`
def query (params : AuditQueryParams) : AuditQuery :=
  { page := params.page.getD 1, perPage := params.perPage.getD 50, method := params.method, path := params.path
    status := params.status, fromTs := params.fromTs, toTs := params.toTs, requestId := params.requestId
    sortDir := if params.sort = some "asc" then .asc else .desc }

end AuditQueryParams

structure AuditEntryResponse where
  id : Int
  ts : Int
  requestId : String
  method : String
  path : String
  status : Nat
  durationMs : Nat
  remoteAddr : Option String
  userAgent : Option String
  userId : Option String
deriving DecidableEq

-- `AuditEntryResponse::from`
def AuditEntryRow.response (row : AuditEntryRow) : AuditEntryResponse :=
  { id := row.id, ts := row.entry.ts, requestId := row.entry.requestId, method := row.entry.method
    path := row.entry.path, status := row.entry.status, durationMs := row.entry.durationMs
    remoteAddr := row.entry.remoteAddr, userAgent := row.entry.userAgent, userId := row.entry.userId }

structure AuditResponse where
  entries : List AuditEntryResponse
  total : UInt64
  page : UInt64
  perPage : UInt64
  pages : UInt64

inductive AuditRejection where
  | query (rejection : QueryRejection)
  | failed (error : AuditStoreError)

def AuditRejection.status : AuditRejection → Nat
  | .query _ => 400
  | .failed _ => 500

section Listing

-- `String::from_utf8_lossy`, by which the pairs of a query become text.
variable (lossy : List UInt8 → String)

def readQuery (query : Option String) : Except QueryRejection AuditQueryParams :=
  AuditQueryParams.takeAll ((Url.formPairs (Text.bytes (query.getD ""))).map fun pair => (lossy pair.1, lossy pair.2))

def listAudit (table : AuditTable) (query : Option String) : Except AuditRejection AuditResponse :=
  match readQuery lossy query with
  | .error rejection => .error (.query rejection)
  | .ok params =>
      match Audit.query table params.query with
      | .error error => .error (.failed error)
      | .ok result =>
          .ok
            { entries := result.entries.map AuditEntryRow.response, total := result.total, page := result.page
              perPage := result.perPage, pages := result.pages }

end Listing

end Moxui.Audit
