import Moxui.Audit.Pagination

set_option autoImplicit false

namespace Moxui.Audit

open Sql (Value)
open Api (AuditEntry)

-- What the INSERT statement, the two SELECT statements and their readers say by position.
section Positions

-- The columns of the INSERT statement, and what `params!` gives for ?1 to ?9.
def insertColumns : List Column :=
  [.ts, .requestId, .method, .path, .status, .durationMs, .remoteAddr, .userAgent, .userId]

def insertParams (entry : AuditEntry) : List Value :=
  [.integer entry.ts, .text entry.requestId, .text entry.method, .text entry.path, .integer entry.status,
    .integer (min entry.durationMs maxRowId : Nat), optionalText entry.remoteAddr, optionalText entry.userAgent,
    optionalText entry.userId]

def inserted (id : Int) (entry : AuditEntry) (column : Column) : Value :=
  if column = .id then .integer id
  else ((insertColumns.zip (insertParams entry)).lookup column).getD .null

def dataColumns : List Column :=
  [.id, .ts, .requestId, .method, .path, .status, .durationMs, .remoteAddr, .userAgent, .userId]

def entryColumns : List Column :=
  [.ts, .requestId, .method, .path, .status, .durationMs, .remoteAddr, .userAgent, .userId]

abbrev Row : Type := List Value

-- `row.get` at the types that are read.
def getInteger (row : Row) (index : Nat) : Except Sql.Error Int :=
  match row[index]? with
  | some (.integer value) => .ok value
  | _ => .error .mismatch

def getText (row : Row) (index : Nat) : Except Sql.Error String :=
  match row[index]? with
  | some (.text value) => .ok value
  | _ => .error .mismatch

def getOptionalText (row : Row) (index : Nat) : Except Sql.Error (Option String) :=
  match row[index]? with
  | some .null => .ok none
  | some (.text value) => .ok (some value)
  | _ => .error .mismatch

def getU16 (row : Row) (index : Nat) : Except Sql.Error Nat := do
  let value ← getInteger row index
  if 0 ≤ value ∧ value < UInt16.size then .ok value.toNat else .error (.outOfRange index value)

-- `map_row`
def readRow (row : Row) : Except Sql.Error AuditEntryRow := do
  let id ← getInteger row 0
  let ts ← getInteger row 1
  let requestId ← getText row 2
  let method ← getText row 3
  let path ← getText row 4
  let status ← getU16 row 5
  let durationMs ← getInteger row 6
  let remoteAddr ← getOptionalText row 7
  let userAgent ← getOptionalText row 8
  let userId ← getOptionalText row 9
  return { id := id, entry :=
    { ts := ts, requestId := requestId, method := method, path := path, status := status
      durationMs := (max durationMs 0).toNat, remoteAddr := remoteAddr, userAgent := userAgent, userId := userId } }

-- The closure within `find_by_request_id`.
def readEntry (row : Row) : Except Sql.Error AuditEntry := do
  let durationMs ← getInteger row 5
  let ts ← getInteger row 0
  let requestId ← getText row 1
  let method ← getText row 2
  let path ← getText row 3
  let status ← getU16 row 4
  let remoteAddr ← getOptionalText row 6
  let userAgent ← getOptionalText row 7
  let userId ← getOptionalText row 8
  return { ts := ts, requestId := requestId, method := method, path := path, status := status
           durationMs := (max durationMs 0).toNat, remoteAddr := remoteAddr, userAgent := userAgent, userId := userId }

theorem inserted_record (id : Int) (entry : AuditEntry) : inserted id entry = (recordOf id entry).read := by
  funext column
  cases column with
  | durationMs =>
      have cast : ((min entry.durationMs maxRowId : Nat) : Int) = min (entry.durationMs : Int) maxRowId := by omega
      exact congrArg Value.integer cast
  | _ => rfl

theorem get_optional_text (row : Row) (index : Nat) (text : Option String)
    (found : row[index]? = some (optionalText text)) : getOptionalText row index = .ok text := by
  rw [getOptionalText, found]
  cases text with
  | none => rfl
  | some text => rfl

theorem read_row (record : Record) : readRow (dataColumns.map record.read) = mapRow record := by
  have remoteAddr := get_optional_text (dataColumns.map record.read) 7 record.remoteAddr rfl
  have userAgent := get_optional_text (dataColumns.map record.read) 8 record.userAgent rfl
  have userId := get_optional_text (dataColumns.map record.read) 9 record.userId rfl
  have status : getU16 (dataColumns.map record.read) 5 =
      if 0 ≤ record.status ∧ record.status < UInt16.size then .ok record.status.toNat
      else .error (.outOfRange 5 record.status) := rfl
  by_cases inRange : 0 ≤ record.status ∧ record.status < UInt16.size
  · rw [mapRow, if_pos inRange, readRow, remoteAddr, userAgent, userId, status, if_pos inRange]
    rfl
  · rw [mapRow, if_neg inRange, readRow, status, if_neg inRange]
    rfl

theorem read_entry (record : Record) (inRange : 0 ≤ record.status ∧ record.status < UInt16.size) :
    readEntry (entryColumns.map record.read) = .ok (rowOf record).entry := by
  have remoteAddr := get_optional_text (entryColumns.map record.read) 6 record.remoteAddr rfl
  have userAgent := get_optional_text (entryColumns.map record.read) 7 record.userAgent rfl
  have userId := get_optional_text (entryColumns.map record.read) 8 record.userId rfl
  have status : getU16 (entryColumns.map record.read) 4 =
      if 0 ≤ record.status ∧ record.status < UInt16.size then .ok record.status.toNat
      else .error (.outOfRange 4 record.status) := rfl
  rw [readEntry, remoteAddr, userAgent, userId, status, if_pos inRange]
  rfl

end Positions

section Lookup

def findStatement : Sql.Select Column :=
  { conditions := [equals .requestId (.placeholder 1)]
    order := []
    limit := .literal (.integer 1)
    offset := .literal (.integer 0) }

-- The rows are visited in the order of `scan`. With the index on `request_id` that is the order
-- of their ids, in which the table has them.
def findByRequestId (scan : List Record) (requestId : String) : Except AuditStoreError (Option AuditEntry) := do
  let rows ← (findStatement.run Record.read [.text requestId] scan).mapError .sqlite
  match rows with
  | [] => return none
  | record :: _ => return some (← (readEntry (entryColumns.map record.read)).mapError .sqlite)

theorem equals_request_id (record : Record) (requestId : String) :
    Sql.conjunction record.read [.text requestId] findStatement.conditions = some true ↔ record.requestId = requestId := by
  have bound : findStatement.conditions.map (Sql.Condition.bind [.text requestId]) =
      [equals .requestId (.argument (.text requestId))] := rfl
  rw [Sql.conjunction_bound_iff, bound, List.forall_mem_singleton]
  exact text_equal_iff record .requestId record.requestId requestId rfl

theorem run_find (scan : List Record) (requestId : String) :
    findStatement.run Record.read [.text requestId] scan =
      .ok ((scan.filter fun record => record.requestId = requestId).take 1) := by
  have selected : Sql.matching Record.read [.text requestId] findStatement.conditions scan =
      scan.filter fun record => record.requestId = requestId := by
    apply List.filter_congr
    intro record _
    rw [Bool.eq_iff_iff, beq_iff_eq, equals_request_id, decide_eq_true_eq]
  have unordered (rows : List Record) : rows.mergeSort (Sql.before Record.read findStatement.order) = rows :=
    List.mergeSort_of_pairwise (List.pairwise_of_forall fun _ _ => rfl)
  rw [Sql.Select.run_ok Record.read findStatement _ scan 1 0 rfl rfl rfl, selected, unordered, List.drop_zero]

theorem find_first (scan : List Record) (requestId : String) (record : Record) (rest : List Record)
    (first : (scan.filter fun record => record.requestId = requestId) = record :: rest)
    (inRange : 0 ≤ record.status ∧ record.status < UInt16.size) :
    findByRequestId scan requestId = .ok (some (rowOf record).entry) := by
  rw [findByRequestId, run_find, first]
  simp only [List.take_succ_cons, Except.mapError, bind, Except.bind, read_entry record inRange]
  rfl

end Lookup

-- What `log` keeps of the entry.
def clamped (entry : AuditEntry) : AuditEntry :=
  { entry with durationMs := min entry.durationMs maxRowId }

def logAll (table : AuditTable) (others : List { entry : AuditEntry // entry.status < UInt16.size }) : AuditTable :=
  others.foldl (fun table other => (log table other.val other.property).getD table) table

structure RoundTrip (table : AuditTable) (entry : AuditEntry)
    (others : List { entry : AuditEntry // entry.status < UInt16.size }) (id : Int) (later : AuditTable) : Prop where
  stored : readRow (dataColumns.map (inserted id entry)) = .ok { id := id, entry := clamped entry } ∧
    readEntry (entryColumns.map (inserted id entry)) = .ok (clamped entry)
  queried : ∀ q result, query later q = .ok result → ∀ row ∈ result.entries, row.id = id → row.entry = clamped entry
  listed : ∀ q : AuditQuery, q.Valid → Selected q (recordOf id entry) →
    ∃ page result, query later (q.onPage page) = .ok result ∧ { id := id, entry := clamped entry } ∈ result.entries
  found : (∀ record ∈ table.records, record.requestId ≠ entry.requestId) →
    findByRequestId later.records entry.requestId = .ok (some (clamped entry))
  foundInAnyOrder : (∀ record ∈ table.records, record.requestId ≠ entry.requestId) →
    (∀ other ∈ others, other.val.requestId ≠ entry.requestId) →
    ∀ scan, scan.Perm later.records → findByRequestId scan entry.requestId = .ok (some (clamped entry))

theorem row_of_record (id : Int) (entry : AuditEntry) :
    rowOf (recordOf id entry) = { id := id, entry := clamped entry } := by
  have duration : (max (min (entry.durationMs : Int) maxRowId) 0).toNat = min entry.durationMs maxRowId := by omega
  simp only [rowOf, recordOf, clamped, duration, Int.toNat_natCast]

theorem log_records (table logged : AuditTable) (entry : AuditEntry) (isU16 : entry.status < UInt16.size)
    (isLogged : log table entry isU16 = some logged) :
    logged.records = table.records ++ [recordOf (table.sequence + 1 : Nat) entry] := by
  rw [log] at isLogged
  by_cases room : table.sequence < maxRowId
  · rw [dif_pos room] at isLogged
    exact congrArg AuditTable.records (Option.some.inj isLogged).symm
  · rw [dif_neg room] at isLogged
    cases isLogged

theorem log_all_records (others : List { entry : AuditEntry // entry.status < UInt16.size }) (table : AuditTable) :
    ∃ newer, (logAll table others).records = table.records ++ newer ∧
      ∀ record ∈ newer, ∃ other ∈ others, record.requestId = other.val.requestId := by
  induction others generalizing table with
  | nil => exact ⟨[], (List.append_nil _).symm, nofun⟩
  | cons other rest ih =>
      obtain ⟨newer, appended, theirs⟩ := ih ((log table other.val other.property).getD table)
      have inRest : ∀ record ∈ newer, ∃ later ∈ other :: rest, record.requestId = later.val.requestId := by
        intro record member
        obtain ⟨later, isLater, same⟩ := theirs record member
        exact ⟨later, List.mem_cons_of_mem other isLater, same⟩
      cases isLogged : log table other.val other.property with
      | none =>
          rw [isLogged] at appended
          exact ⟨newer, by rw [logAll, List.foldl_cons, isLogged]; exact appended, inRest⟩
      | some logged =>
          rw [isLogged, Option.getD_some, log_records table logged other.val other.property isLogged] at appended
          refine ⟨recordOf (table.sequence + 1 : Nat) other.val :: newer, ?_, ?_⟩
          · rw [logAll, List.foldl_cons, isLogged]
            exact appended.trans (List.append_assoc _ _ _)
          · intro record member
            rcases List.mem_cons.mp member with first | newest
            · exact ⟨other, List.mem_cons_self, congrArg Record.requestId first⟩
            · exact inRest record newest

theorem valid_of_query (table : AuditTable) (q : AuditQuery) (result : AuditQueryResult)
    (answered : query table q = .ok result) : q.Valid := by
  by_cases page : q.page = 0
  · rw [query, if_pos page] at answered
    cases answered
  · by_cases perPage : q.perPage = 0 ∨ q.perPage > 500
    · rw [query, if_neg page, if_pos perPage] at answered
      cases answered
    · obtain ⟨positive, small⟩ := not_or.mp perPage
      exact ⟨page, positive, UInt64.not_lt.mp small⟩

theorem same_id (table : AuditTable) (first second : Record) (isFirst : first ∈ table.records)
    (isSecond : second ∈ table.records) (same : first.id = second.id) : first = second :=
  List.inj_on_of_nodup_map table.distinct isFirst isSecond same

theorem queried_entry (later : AuditTable) (id : Int) (entry : AuditEntry) (kept : recordOf id entry ∈ later.records)
    (q : AuditQuery) (result : AuditQueryResult) (answered : query later q = .ok result) (row : AuditEntryRow)
    (listed : row ∈ result.entries) (same : row.id = id) : row.entry = clamped entry := by
  have isResult := Except.ok.inj ((query_ok later q (valid_of_query later q result answered)).symm.trans answered)
  subst isResult
  obtain ⟨record, onPage, rfl⟩ := List.mem_map.mp listed
  have member := ((mem_selected later q record).mp (page_inside later q _ record onPage)).1
  have isEntry := same_id later record (recordOf id entry) member kept same
  rw [isEntry, row_of_record]

theorem listed_entry (later : AuditTable) (id : Int) (entry : AuditEntry) (kept : recordOf id entry ∈ later.records)
    (q : AuditQuery) (valid : q.Valid) (selected : Selected q (recordOf id entry)) :
    ∃ page result, query later (q.onPage page) = .ok result ∧ { id := id, entry := clamped entry } ∈ result.entries := by
  have among : recordOf id entry ∈ sortedRecords later q :=
    List.mem_mergeSort.mpr ((mem_selected later q _).mpr ⟨kept, selected⟩)
  have whole := (Sql.pages_flatMap (sortedRecords later q) q.perPage.toNat (resultOf later q).pages.toNat).symm
  rw [List.take_of_length_le (by rw [sortedRecords, List.length_mergeSort]; exact pages_cover later q valid)] at whole
  rw [whole] at among
  obtain ⟨page, isPage, onPage⟩ := List.mem_flatMap.mp among
  have start := page_before_end later q page (List.mem_range.mp isPage)
  have fewer : (selectedRecords later q).length ≤ later.records.length := List.length_filter_le _ _
  have inside : page * q.perPage.toNat ≤ maxRowId := start.le.trans (fewer.trans (table_length later))
  refine ⟨page + 1, _, query_ok later _ (on_page_valid q valid page inside), ?_⟩
  have entries : (resultOf later (q.onPage (page + 1))).entries = (pageRecords later q (page * q.perPage.toNat)).map rowOf := by
    rw [← page_offset q valid page inside]
    rfl
  rw [entries, ← row_of_record]
  exact List.mem_map_of_mem onPage

theorem filter_none (records : List Record) (requestId : String)
    (others : ∀ record ∈ records, record.requestId ≠ requestId) :
    (records.filter fun record => record.requestId = requestId) = [] :=
  List.filter_eq_nil_iff.mpr fun record member same => others record member (of_decide_eq_true same)

theorem filter_own (id : Int) (entry : AuditEntry) (newer : List Record) :
    ((recordOf id entry :: newer).filter fun record => record.requestId = entry.requestId) =
      recordOf id entry :: newer.filter fun record => record.requestId = entry.requestId :=
  List.filter_cons_of_pos (decide_eq_true rfl)

theorem log_round_trip (table : AuditTable) (entry : AuditEntry) (isU16 : entry.status < UInt16.size)
    (logged : AuditTable) (isLogged : log table entry isU16 = some logged)
    (others : List { entry : AuditEntry // entry.status < UInt16.size }) :
    RoundTrip table entry others (table.sequence + 1 : Nat) (logAll logged others) := by
  obtain ⟨newer, appended, theirs⟩ := log_all_records others logged
  rw [log_records table logged entry isU16 isLogged, List.append_assoc] at appended
  have inRange : 0 ≤ (recordOf (table.sequence + 1 : Nat) entry).status ∧
      (recordOf (table.sequence + 1 : Nat) entry).status < UInt16.size :=
    ⟨Int.natCast_nonneg _, Int.ofNat_lt.mpr isU16⟩
  have kept : recordOf (table.sequence + 1 : Nat) entry ∈ (logAll logged others).records := by
    rw [appended]
    exact List.mem_append_right _ List.mem_cons_self
  have isEntry : (rowOf (recordOf (table.sequence + 1 : Nat) entry)).entry = clamped entry :=
    congrArg AuditEntryRow.entry (row_of_record _ entry)
  refine { stored := ⟨?_, ?_⟩, queried := queried_entry _ _ entry kept, listed := listed_entry _ _ entry kept, found := ?_,
           foundInAnyOrder := ?_ }
  · rw [inserted_record, read_row, mapRow, if_pos inRange]
    exact congrArg Except.ok (row_of_record _ entry)
  · rw [inserted_record, read_entry _ inRange, isEntry]
  · intro isNew
    rw [← isEntry]
    refine find_first _ entry.requestId _ (newer.filter fun record => record.requestId = entry.requestId) ?_ inRange
    rw [appended, List.filter_append, filter_none table.records entry.requestId isNew, List.nil_append,
      List.singleton_append, filter_own]
  · intro isNew stillNew scan order
    have none : ∀ record ∈ newer, record.requestId ≠ entry.requestId := by
      intro record member
      obtain ⟨other, isOther, same⟩ := theirs record member
      rw [same]
      exact stillNew other isOther
    have only := order.filter fun record => decide (record.requestId = entry.requestId)
    rw [appended, List.filter_append, filter_none table.records entry.requestId isNew, List.nil_append,
      List.singleton_append, filter_own, filter_none newer entry.requestId none,
      List.perm_singleton] at only
    rw [← isEntry]
    exact find_first scan entry.requestId _ [] only inRange

-- The duration of this entry is 2^64 - 1, and an entry with its request id is logged after it.
def endless : AuditEntry :=
  { auditEntryAt 300 "req-3" with durationMs := 18446744073709551615, userAgent := some "curl/8.5.0" }

theorem endless_round_trip :
    ∃ logged, log twoEntries endless (by decide) = some logged ∧
      RoundTrip twoEntries endless [⟨auditEntryAt 400 "req-3", by decide⟩] 3
        (logAll logged [⟨auditEntryAt 400 "req-3", by decide⟩]) ∧
      (clamped endless).durationMs = 9223372036854775807 := by
  refine ⟨_, rfl, log_round_trip twoEntries endless (by decide) _ rfl _, by decide⟩

end Moxui.Audit
