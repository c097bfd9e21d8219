import Mathlib.Data.List.Nodup
import Moxui.Lib.Sql
import Moxui.Api.Pipeline

set_option autoImplicit false

namespace Moxui.Audit

open Sql (Value Expr Condition Direction)
open Api (AuditEntry)

inductive AuditStoreError where
  | sqlite (error : Sql.Error)
  | pagination (message : String)
deriving DecidableEq

structure AuditEntryRow where
  id : Int
  entry : AuditEntry
deriving DecidableEq

inductive SortDir where
  | desc
  | asc
deriving DecidableEq

structure AuditQuery where
  page : UInt64
  perPage : UInt64
  method : Option String
  path : Option String
  status : Option UInt16
  fromTs : Option Int
  toTs : Option Int
  requestId : Option String
  sortDir : SortDir

structure AuditQueryResult where
  entries : List AuditEntryRow
  total : UInt64
  page : UInt64
  perPage : UInt64
  pages : UInt64

inductive Column where
  | id
  | ts
  | requestId
  | method
  | path
  | status
  | durationMs
  | remoteAddr
  | userAgent
  | userId
deriving DecidableEq

structure Record where
  id : Int
  ts : Int
  requestId : String
  method : String
  path : String
  status : Int
  durationMs : Int
  remoteAddr : Option String
  userAgent : Option String
  userId : Option String

def optionalText (text : Option String) : Value :=
  (text.map Value.text).getD .null

def Record.read (record : Record) : Column → Value
  | .id => .integer record.id
  | .ts => .integer record.ts
  | .requestId => .text record.requestId
  | .method => .text record.method
  | .path => .text record.path
  | .status => .integer record.status
  | .durationMs => .integer record.durationMs
  | .remoteAddr => optionalText record.remoteAddr
  | .userAgent => optionalText record.userAgent
  | .userId => optionalText record.userId

def maxRowId : Nat :=
  9223372036854775807

-- The table as its primary key and the one INSERT statement leave it: AUTOINCREMENT gives ids
-- from 1 that are never used again, and the status of an entry is a `u16`.
structure AuditTable where
  records : List Record
  sequence : Nat
  inRange : sequence ≤ maxRowId
  numbered : ∀ record ∈ records, 1 ≤ record.id ∧ record.id ≤ sequence
  distinct : (records.map Record.id).Nodup
  statuses : ∀ record ∈ records, 0 ≤ record.status ∧ record.status < UInt16.size

def AuditTable.empty : AuditTable where
  records := []
  sequence := 0
  inRange := Nat.zero_le _
  numbered := fun _ member => absurd member List.not_mem_nil
  distinct := List.nodup_nil
  statuses := fun _ member => absurd member List.not_mem_nil

def recordOf (id : Int) (entry : AuditEntry) : Record :=
  { id := id, ts := entry.ts, requestId := entry.requestId, method := entry.method, path := entry.path
    status := entry.status, durationMs := min entry.durationMs maxRowId
    remoteAddr := entry.remoteAddr, userAgent := entry.userAgent, userId := entry.userId }

-- `None` is the error of a table that has used every id.
def log (table : AuditTable) (entry : AuditEntry) (isU16 : entry.status < UInt16.size) : Option AuditTable :=
  if room : table.sequence < maxRowId then
    some
      { records := table.records ++ [recordOf (table.sequence + 1 : Nat) entry]
        sequence := table.sequence + 1
        inRange := room
        numbered := by
          intro record member
          rcases List.mem_append.mp member with old | new
          · have bounds := table.numbered record old
            push_cast
            omega
          · rw [List.mem_singleton.mp new]
            simp only [recordOf]
            omega
        distinct := by
          rw [List.map_append, List.nodup_append]
          refine ⟨table.distinct, by simp, ?_⟩
          intro first old second new same
          obtain ⟨record, member, rfl⟩ := List.mem_map.mp old
          have bounds := table.numbered record member
          simp only [List.map_cons, List.map_nil, List.mem_singleton, recordOf] at new
          omega
        statuses := by
          intro record member
          rcases List.mem_append.mp member with old | new
          · exact table.statuses record old
          · rw [List.mem_singleton.mp new]
            exact ⟨Int.natCast_nonneg _, Int.ofNat_lt.mpr isU16⟩ }
  else none

def equals (column : Column) (operand : Expr Column) : Condition Column :=
  .equal (.column column) operand

def containedInPath (operand : Expr Column) : Condition Column :=
  .greater (.instr (.column .path) operand) (.literal (.integer 0))

def oneIs (operand : Expr Column) : Condition Column :=
  .equal (.literal (.integer 1)) operand

def firstWhere : Sql.Where Column :=
  { conditions := [oneIs (.placeholder 1)], params := [.integer 1], idx := 1 }

def whereClause (q : AuditQuery) : Sql.Where Column :=
  let clause := firstWhere
  let clause := clause.addOption (equals .method) (q.method.map Value.text)
  let clause := clause.addOption containedInPath (q.path.map Value.text)
  let clause := clause.addOption (equals .status) (q.status.map fun status => .integer status.toNat)
  let clause := clause.addOption (equals .ts) (q.fromTs.map Value.integer)
  let clause := clause.addOption (equals .ts) (q.toTs.map Value.integer)
  clause.addOption (equals .requestId) (q.requestId.map Value.text)

def buildWhere (q : AuditQuery) : List (Condition Column) × List Value × Nat :=
  ((whereClause q).conditions, (whereClause q).params, (whereClause q).idx + 1)

def maxI64 : UInt64 :=
  9223372036854775807

-- `i64::try_from(value).unwrap_or(default)`.
def toI64Or (default : Int) (value : UInt64) : Int :=
  if value ≤ maxI64 then value.toNat else default

-- `u64::try_from(value).unwrap_or(0)`.
def toU64OrZero (value : Int) : UInt64 :=
  if 0 ≤ value then UInt64.ofNat value.toNat else 0

def statusColumn : Nat :=
  5

def mapRow (record : Record) : Except Sql.Error AuditEntryRow :=
  if 0 ≤ record.status ∧ record.status < UInt16.size then
    .ok
      { id := record.id
        entry :=
          { ts := record.ts, requestId := record.requestId, method := record.method, path := record.path
            status := record.status.toNat, durationMs := (max record.durationMs 0).toNat
            remoteAddr := record.remoteAddr, userAgent := record.userAgent, userId := record.userId } }
  else .error (.outOfRange statusColumn record.status)

def direction : SortDir → Direction
  | .desc => .desc
  | .asc => .asc

def dataStatement (q : AuditQuery) : Sql.Select Column :=
  let (conditions, _, nextIdx) := buildWhere q
  { conditions := conditions
    order := [(.ts, direction q.sortDir), (.id, direction q.sortDir)]
    limit := .placeholder nextIdx
    offset := .placeholder (nextIdx + 1) }

def pagesOf (total perPage : UInt64) : UInt64 :=
  if total = 0 then 0 else (total - 1) / perPage + 1

def query (table : AuditTable) (q : AuditQuery) : Except AuditStoreError AuditQueryResult := do
  if q.page = 0 then throw (.pagination "page must be ≥ 1")
  if q.perPage = 0 ∨ q.perPage > 500 then throw (.pagination "per_page must be between 1 and 500")
  let (conditions, params, _) := buildWhere q
  let offset := (q.page - 1) * q.perPage
  let counted ← (Sql.count Record.read conditions params table.records).mapError .sqlite
  let total := toU64OrZero counted
  let allParams := params ++ [.integer (toI64Or 50 q.perPage), .integer (toI64Or 0 offset)]
  let rows ← ((dataStatement q).run Record.read allParams table.records).mapError .sqlite
  let entries ← (rows.mapM mapRow).mapError .sqlite
  return { entries := entries, total := total, page := q.page, perPage := q.perPage, pages := pagesOf total q.perPage }

end Moxui.Audit
