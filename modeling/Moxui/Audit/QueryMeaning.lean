import Mathlib.Data.Int.Interval
import Moxui.Audit.Store

set_option autoImplicit false

namespace Moxui.Audit

open Sql (Value Expr Condition)

-- A row that the documentation of `AuditQuery` promises for its filters.
def Wanted (q : AuditQuery) (record : Record) : Prop :=
  (∀ method ∈ q.method, record.method = method) ∧
    (∀ path ∈ q.path, path.toList <:+: record.path.toList) ∧
    (∀ status ∈ q.status, record.status = status.toNat) ∧
    (∀ ts ∈ q.fromTs, ts ≤ record.ts) ∧
    (∀ ts ∈ q.toTs, record.ts ≤ ts) ∧
    (∀ requestId ∈ q.requestId, record.requestId = requestId)

-- Each filter is looked at by itself; the instances for all strings or all statuses would not do.
instance (q : AuditQuery) : DecidablePred (Wanted q) := fun _ =>
  @instDecidableAnd _ _ (Option.decidableForallMem q.method) <|
    @instDecidableAnd _ _ (Option.decidableForallMem q.path) <|
      @instDecidableAnd _ _ (Option.decidableForallMem q.status) <|
        @instDecidableAnd _ _ (Option.decidableForallMem q.fromTs) <|
          @instDecidableAnd _ _ (Option.decidableForallMem q.toTs) (Option.decidableForallMem q.requestId)

def wantedRecords (table : AuditTable) (q : AuditQuery) : List Record :=
  table.records.filter fun record => Wanted q record

def rowOf (record : Record) : AuditEntryRow :=
  { id := record.id
    entry :=
      { ts := record.ts, requestId := record.requestId, method := record.method, path := record.path
        status := record.status.toNat, durationMs := (max record.durationMs 0).toNat
        remoteAddr := record.remoteAddr, userAgent := record.userAgent, userId := record.userId } }

structure AuditQuery.Valid (q : AuditQuery) : Prop where
  page : q.page ≠ 0
  perPage : q.perPage ≠ 0
  perPageMax : q.perPage ≤ 500

def AuditQuery.onPage (q : AuditQuery) (page : Nat) : AuditQuery :=
  { q with page := UInt64.ofNat page }

def entriesOver (table : AuditTable) (q : AuditQuery) : Nat → Except AuditStoreError (List AuditEntryRow)
  | 0 => .ok []
  | pages + 1 => do
      let earlier ← entriesOver table q pages
      let last ← query table (q.onPage (pages + 1))
      return earlier ++ last.entries

def givenFilters (q : AuditQuery) : List (List Column × List Value) :=
  [([], [.integer 1])] ++ (q.method.map fun method => ([Column.method], [Value.text method])).toList ++
    (q.path.map fun path => ([Column.path], [Value.text path])).toList ++
    (q.status.map fun status => ([Column.status], [Value.integer status.toNat])).toList ++
    (q.fromTs.map fun ts => ([Column.ts], [Value.integer ts])).toList ++
    (q.toTs.map fun ts => ([Column.ts], [Value.integer ts])).toList ++
    (q.requestId.map fun requestId => ([Column.requestId], [Value.text requestId])).toList

structure Means (table : AuditTable) (q : AuditQuery) (result : AuditQueryResult) : Prop where
  counted : result.total.toNat = (wantedRecords table q).length
  returned : ∃ entries, entriesOver table q result.pages.toNat = .ok entries ∧
    entries.Perm ((wantedRecords table q).map rowOf)
  onlyWanted : ∀ entry ∈ result.entries, ∃ record ∈ wantedRecords table q, rowOf record = entry
  bound : ((buildWhere q).1.map fun condition => (condition.bind (buildWhere q).2.1).uses) = givenFilters q

def BoundsAreReached (table : AuditTable) (q : AuditQuery) : Prop :=
  ∀ record ∈ table.records, Wanted q record →
    (∀ ts ∈ q.fromTs, record.ts = ts) ∧ (∀ ts ∈ q.toTs, record.ts = ts)

def boundConditions (q : AuditQuery) : List (Condition Column) :=
  [oneIs (.argument (.integer 1))] ++
    (q.method.map fun method => equals .method (.argument (.text method))).toList ++
    (q.path.map fun path => containedInPath (.argument (.text path))).toList ++
    (q.status.map fun status => equals .status (.argument (.integer status.toNat))).toList ++
    (q.fromTs.map fun ts => equals .ts (.argument (.integer ts))).toList ++
    (q.toTs.map fun ts => equals .ts (.argument (.integer ts))).toList ++
    (q.requestId.map fun requestId => equals .requestId (.argument (.text requestId))).toList

theorem equals_shape (column : Column) : Sql.Shape (equals column) where
  largest := fun index => by simp [equals, Condition.largest, Expr.largest]
  bind := fun _ _ => rfl

theorem contained_shape : Sql.Shape containedInPath where
  largest := fun index => by simp [containedInPath, Condition.largest, Expr.largest]
  bind := fun _ _ => rfl

theorem first_reads_as : firstWhere.ReadsAs [oneIs (.argument (.integer 1))] where
  last := rfl
  length := rfl
  bound := rfl

theorem where_reads_as (q : AuditQuery) : (whereClause q).ReadsAs (boundConditions q) := by
  have method := first_reads_as.addOption (equals_shape .method) (q.method.map Value.text)
  have path := method.addOption contained_shape (q.path.map Value.text)
  have status := path.addOption (equals_shape .status) (q.status.map fun status => .integer status.toNat)
  have fromTs := status.addOption (equals_shape .ts) (q.fromTs.map Value.integer)
  have toTs := fromTs.addOption (equals_shape .ts) (q.toTs.map Value.integer)
  have requestId := toTs.addOption (equals_shape .requestId) (q.requestId.map Value.text)
  simp only [Option.map_map] at requestId
  exact requestId

theorem placeholders_bound (q : AuditQuery) :
    ((buildWhere q).1.map fun condition => (condition.bind (buildWhere q).2.1).uses) = givenFilters q := by
  have bound : (buildWhere q).1.map (Condition.bind (buildWhere q).2.1) = boundConditions q := (where_reads_as q).bound
  have whole := congrArg (List.map Condition.uses) bound
  rw [List.map_map] at whole
  refine whole.trans ?_
  simp only [boundConditions, givenFilters, List.map_append, ← Option.toList_map, Option.map_map]
  rfl

def Selected (q : AuditQuery) (record : Record) : Prop :=
  (∀ method ∈ q.method, record.method = method) ∧
    (∀ path ∈ q.path, path.toList <:+: record.path.toList) ∧
    (∀ status ∈ q.status, record.status = status.toNat) ∧
    (∀ ts ∈ q.fromTs, record.ts = ts) ∧
    (∀ ts ∈ q.toTs, record.ts = ts) ∧
    (∀ requestId ∈ q.requestId, record.requestId = requestId)

theorem one_is_one (record : Record) :
    (oneIs (.argument (.integer 1))).truth record.read [] = some true := rfl

theorem text_equal_iff (record : Record) (column : Column) (stored given : String)
    (reads : record.read column = .text stored) :
    (equals column (.argument (.text given))).truth record.read [] = some true ↔ stored = given := by
  simp [equals, Condition.truth, Expr.eval, reads, Value.equals]

theorem integer_equal_iff (record : Record) (column : Column) (stored given : Int)
    (reads : record.read column = .integer stored) :
    (equals column (.argument (.integer given))).truth record.read [] = some true ↔ stored = given := by
  simp [equals, Condition.truth, Expr.eval, reads, Value.equals]

theorem contained_iff (record : Record) (given : String) :
    (containedInPath (.argument (.text given))).truth record.read [] = some true ↔
      given.toList <:+: record.path.toList := by
  have compared (found : Nat) : compare (found : Int) 0 = .gt ↔ 0 < found := by
    rw [compare_gt_iff_gt]
    exact Int.natCast_pos
  rw [← Sql.position_pos_iff, ← compared]
  simp [containedInPath, Condition.truth, Expr.eval, Record.read, Value.instr, Value.toText, Value.exceeds, Value.compare]

theorem conjunction_selected (q : AuditQuery) (record : Record) :
    Sql.conjunction record.read (buildWhere q).2.1 (buildWhere q).1 = some true ↔ Selected q record := by
  have bound : (buildWhere q).1.map (Condition.bind (buildWhere q).2.1) = boundConditions q := (where_reads_as q).bound
  rw [Sql.conjunction_bound_iff, bound]
  simp [boundConditions, Selected, or_imp, forall_and, one_is_one, text_equal_iff record .method record.method _ rfl,
    text_equal_iff record .requestId record.requestId _ rfl, integer_equal_iff record .status record.status _ rfl,
    integer_equal_iff record .ts record.ts _ rfl, contained_iff]

def selectedRecords (table : AuditTable) (q : AuditQuery) : List Record :=
  Sql.matching Record.read (buildWhere q).2.1 (buildWhere q).1 table.records

theorem mem_selected (table : AuditTable) (q : AuditQuery) (record : Record) :
    record ∈ selectedRecords table q ↔ record ∈ table.records ∧ Selected q record := by
  rw [selectedRecords, Sql.matching, List.mem_filter, beq_iff_eq, conjunction_selected]

theorem selected_wanted (q : AuditQuery) (record : Record) :
    Selected q record ↔
      Wanted q record ∧ (∀ ts ∈ q.fromTs, record.ts = ts) ∧ (∀ ts ∈ q.toTs, record.ts = ts) := by
  constructor
  · intro selected
    obtain ⟨method, path, status, fromTs, toTs, requestId⟩ := selected
    have above : ∀ ts ∈ q.fromTs, ts ≤ record.ts := fun ts given => (fromTs ts given).ge
    have below : ∀ ts ∈ q.toTs, record.ts ≤ ts := fun ts given => (toTs ts given).le
    exact ⟨⟨method, path, status, above, below, requestId⟩, fromTs, toTs⟩
  · intro both
    obtain ⟨⟨method, path, status, _, _, requestId⟩, fromTs, toTs⟩ := both
    exact ⟨method, path, status, fromTs, toTs, requestId⟩

theorem table_length (table : AuditTable) : table.records.length ≤ maxRowId := by
  have inside : (table.records.map Record.id).toFinset ⊆ Finset.Icc (1 : Int) table.sequence := by
    intro id member
    obtain ⟨record, present, rfl⟩ := List.mem_map.mp (List.mem_toFinset.mp member)
    exact Finset.mem_Icc.mpr (table.numbered record present)
  have card := Finset.card_le_card inside
  rw [List.toFinset_card_of_nodup table.distinct, List.length_map, Int.card_Icc] at card
  have bound := table.inRange
  omega

theorem map_row_ok (table : AuditTable) (record : Record) (member : record ∈ table.records) :
    mapRow record = .ok (rowOf record) :=
  if_pos (table.statuses record member)

theorem map_rows_ok (table : AuditTable) (records : List Record) (inside : ∀ record ∈ records, record ∈ table.records) :
    records.mapM mapRow = .ok (records.map rowOf) := by
  induction records with
  | nil => rfl
  | cons record rest ih =>
      obtain ⟨first, later⟩ := List.forall_mem_cons.mp inside
      rw [List.mapM_cons, map_row_ok table record first, ih later]
      rfl

def sortedRecords (table : AuditTable) (q : AuditQuery) : List Record :=
  (selectedRecords table q).mergeSort (Sql.before Record.read (dataStatement q).order)

def pageRecords (table : AuditTable) (q : AuditQuery) (offset : Nat) : List Record :=
  ((sortedRecords table q).drop offset).take q.perPage.toNat

theorem count_ok (table : AuditTable) (q : AuditQuery) :
    Sql.count Record.read (buildWhere q).1 (buildWhere q).2.1 table.records =
      .ok ((selectedRecords table q).length : Int) := by
  have length : (buildWhere q).2.1.length = Sql.largest (buildWhere q).1 :=
    (where_reads_as q).length.trans (where_reads_as q).last.symm
  rw [Sql.count, Sql.checkCount, if_pos length]
  rfl

theorem limit_not_negative (q : AuditQuery) (valid : q.Valid) : toI64Or 50 q.perPage = q.perPage.toNat := by
  have small : q.perPage ≤ maxI64 := UInt64.le_trans valid.perPageMax (by decide)
  rw [toI64Or, if_pos small]

theorem offset_not_negative (offset : UInt64) : toI64Or 0 offset = (toI64Or 0 offset).toNat := by
  by_cases small : offset ≤ maxI64
  · rw [toI64Or, if_pos small]
    rfl
  · rw [toI64Or, if_neg small]
    rfl

theorem data_ok (table : AuditTable) (q : AuditQuery) (valid : q.Valid) (offset : Nat) :
    (dataStatement q).run Record.read ((buildWhere q).2.1 ++ [.integer (toI64Or 50 q.perPage), .integer offset])
      table.records = .ok (pageRecords table q offset) := by
  have idx : (buildWhere q).2.1.length = (whereClause q).idx := (where_reads_as q).length
  have last : Sql.largest (buildWhere q).1 = (whereClause q).idx := (where_reads_as q).last
  have needed : (dataStatement q).largest = (whereClause q).idx + 2 := by
    have parts : (dataStatement q).largest =
        max (Sql.largest (buildWhere q).1) (max ((whereClause q).idx + 1) ((whereClause q).idx + 2)) := rfl
    omega
  have same := Sql.matching_append Record.read (buildWhere q).2.1 [.integer (toI64Or 50 q.perPage), .integer offset]
    (buildWhere q).1 table.records (last.trans idx.symm).le
  rw [Sql.Select.run_ok Record.read (dataStatement q) _ table.records q.perPage.toNat offset]
  · exact congrArg
      (fun found => Except.ok (((found.mergeSort (Sql.before Record.read (dataStatement q).order)).drop offset).take
        q.perPage.toNat)) same
  · simp [needed, idx]
  · show Sql.parameter _ ((whereClause q).idx + 1) = _
    rw [← idx, Sql.parameter_after _ _ 0, limit_not_negative q valid]
    rfl
  · show Sql.parameter _ ((whereClause q).idx + 2) = _
    rw [← idx, Sql.parameter_after _ _ 1]
    rfl

def resultOf (table : AuditTable) (q : AuditQuery) : AuditQueryResult :=
  let offset := toI64Or 0 ((q.page - 1) * q.perPage)
  let total := toU64OrZero (selectedRecords table q).length
  { entries := (pageRecords table q offset.toNat).map rowOf, total := total, page := q.page, perPage := q.perPage
    pages := pagesOf total q.perPage }

theorem page_inside (table : AuditTable) (q : AuditQuery) (offset : Nat) (record : Record)
    (member : record ∈ pageRecords table q offset) : record ∈ selectedRecords table q :=
  List.mem_mergeSort.mp (List.mem_of_mem_drop (List.mem_of_mem_take member))

theorem query_ok (table : AuditTable) (q : AuditQuery) (valid : q.Valid) : query table q = .ok (resultOf table q) := by
  have perPage : ¬(q.perPage = 0 ∨ q.perPage > 500) := by
    rintro (zero | large)
    · exact valid.perPage zero
    · exact UInt64.not_lt.mpr valid.perPageMax large
  have rows := map_rows_ok table (pageRecords table q (toI64Or 0 ((q.page - 1) * q.perPage)).toNat)
    fun record member => ((mem_selected table q record).mp (page_inside table q _ record member)).1
  have data := data_ok table q valid (toI64Or 0 ((q.page - 1) * q.perPage)).toNat
  rw [← offset_not_negative] at data
  rw [query, if_neg valid.page, if_neg perPage]
  simp only [count_ok, data, Except.mapError, bind, Except.bind, rows]
  rfl

theorem total_counts (table : AuditTable) (q : AuditQuery) :
    (resultOf table q).total.toNat = (selectedRecords table q).length := by
  have fewer : (selectedRecords table q).length ≤ table.records.length := List.length_filter_le _ _
  have bound := table_length table
  have small : (selectedRecords table q).length < UInt64.size := by
    have sizes : maxRowId < UInt64.size := by decide
    omega
  have total : (resultOf table q).total = toU64OrZero (selectedRecords table q).length := rfl
  rw [total, toU64OrZero, if_pos (Int.natCast_nonneg _), Int.toNat_natCast]
  exact UInt64.toNat_ofNat_of_lt' small

theorem pages_of (total perPage : UInt64) (room : total.toNat ≤ maxRowId) :
    (pagesOf total perPage).toNat = if total.toNat = 0 then 0 else (total.toNat - 1) / perPage.toNat + 1 := by
  by_cases none : total = 0
  · rw [pagesOf, if_pos none, none]
    rfl
  · have positive : total.toNat ≠ 0 := fun zero => none (UInt64.toNat_inj.mp zero)
    have one : (1 : UInt64) ≤ total := UInt64.le_iff_toNat_le.mpr (Nat.one_le_iff_ne_zero.mpr positive)
    have quotient : (total.toNat - 1) / perPage.toNat ≤ total.toNat - 1 := Nat.div_le_self _ _
    have sizes : maxRowId < UInt64.size := by decide
    rw [pagesOf, if_neg none, if_neg positive, UInt64.toNat_add, UInt64.toNat_div, UInt64.toNat_sub_of_le total 1 one]
    exact Nat.mod_eq_of_lt (by simp only [UInt64.size, UInt64.toNat_one, maxRowId] at sizes room ⊢; omega)

theorem pages_result (table : AuditTable) (q : AuditQuery) :
    (resultOf table q).pages.toNat =
      if (selectedRecords table q).length = 0 then 0 else ((selectedRecords table q).length - 1) / q.perPage.toNat + 1 := by
  have fewer : (selectedRecords table q).length ≤ table.records.length := List.length_filter_le _ _
  have pages := pages_of (resultOf table q).total q.perPage
    ((total_counts table q).le.trans (fewer.trans (table_length table)))
  rw [total_counts] at pages
  exact pages

theorem per_page_positive (q : AuditQuery) (valid : q.Valid) : 0 < q.perPage.toNat :=
  Nat.pos_of_ne_zero fun zero => valid.perPage (UInt64.toNat_inj.mp zero)

theorem pages_cover (table : AuditTable) (q : AuditQuery) (valid : q.Valid) :
    (selectedRecords table q).length ≤ (resultOf table q).pages.toNat * q.perPage.toNat := by
  rw [pages_result]
  by_cases none : (selectedRecords table q).length = 0
  · rw [none]
    exact Nat.zero_le _
  · rw [if_neg none, Nat.mul_comm]
    have next := Nat.lt_mul_div_succ ((selectedRecords table q).length - 1) (per_page_positive q valid)
    omega

theorem page_before_end (table : AuditTable) (q : AuditQuery) (page : Nat)
    (inside : page < (resultOf table q).pages.toNat) : page * q.perPage.toNat < (selectedRecords table q).length := by
  rw [pages_result] at inside
  by_cases none : (selectedRecords table q).length = 0
  · rw [if_pos none] at inside
    exact absurd inside (Nat.not_lt_zero page)
  · rw [if_neg none] at inside
    have below := Nat.mul_le_mul_right q.perPage.toNat (Nat.lt_succ_iff.mp inside)
    have whole := Nat.div_mul_le_self ((selectedRecords table q).length - 1) q.perPage.toNat
    omega

theorem on_page_number (q : AuditQuery) (valid : q.Valid) (page : Nat) (inside : page * q.perPage.toNat ≤ maxRowId) :
    (q.onPage (page + 1)).page.toNat = page + 1 := by
  have sizes : maxRowId < UInt64.size := by decide
  have least := Nat.le_mul_of_pos_right page (per_page_positive q valid)
  apply UInt64.toNat_ofNat_of_lt'
  simp only [UInt64.size, maxRowId] at sizes inside ⊢
  omega

theorem page_offset (q : AuditQuery) (valid : q.Valid) (page : Nat) (inside : page * q.perPage.toNat ≤ maxRowId) :
    (toI64Or 0 (((q.onPage (page + 1)).page - 1) * q.perPage)).toNat = page * q.perPage.toNat := by
  have sizes : maxRowId < UInt64.size := by decide
  have given := on_page_number q valid page inside
  have earlier : ((q.onPage (page + 1)).page - 1).toNat = page := by
    rw [UInt64.toNat_sub_of_le _ _ (UInt64.le_iff_toNat_le.mpr (by rw [given]; exact Nat.le_add_left 1 page)), given]
    exact Nat.add_sub_cancel page 1
  have product : (((q.onPage (page + 1)).page - 1) * q.perPage).toNat = page * q.perPage.toNat := by
    rw [UInt64.toNat_mul, earlier]
    exact Nat.mod_eq_of_lt (inside.trans_lt sizes)
  have small : ((q.onPage (page + 1)).page - 1) * q.perPage ≤ maxI64 := by
    rw [UInt64.le_iff_toNat_le, product]
    exact inside
  rw [toI64Or, if_pos small, product]
  rfl

theorem on_page_valid (q : AuditQuery) (valid : q.Valid) (page : Nat) (inside : page * q.perPage.toNat ≤ maxRowId) :
    (q.onPage (page + 1)).Valid where
  page := by
    intro zero
    have given := on_page_number q valid page inside
    rw [zero] at given
    exact absurd given (Nat.succ_ne_zero page).symm
  perPage := valid.perPage
  perPageMax := valid.perPageMax

theorem entries_over (table : AuditTable) (q : AuditQuery) (valid : q.Valid) (pages : Nat)
    (inside : pages ≤ (resultOf table q).pages.toNat) :
    entriesOver table q pages =
      .ok (((List.range pages).flatMap fun page => pageRecords table q (page * q.perPage.toNat)).map rowOf) := by
  induction pages with
  | zero => rfl
  | succ pages ih =>
      have fewer : (selectedRecords table q).length ≤ table.records.length := List.length_filter_le _ _
      have small : pages * q.perPage.toNat ≤ maxRowId :=
        (page_before_end table q pages inside).le.trans (fewer.trans (table_length table))
      have last := query_ok table (q.onPage (pages + 1)) (on_page_valid q valid pages small)
      have entries : (resultOf table (q.onPage (pages + 1))).entries =
          (pageRecords table q (pages * q.perPage.toNat)).map rowOf := by
        rw [← page_offset q valid pages small]
        rfl
      rw [entriesOver, ih (Nat.le_of_succ_le inside), last, List.range_succ, List.flatMap_append, List.map_append]
      simp only [bind, Except.bind, entries, List.flatMap_cons, List.flatMap_nil, List.append_nil]
      rfl

theorem all_pages (table : AuditTable) (q : AuditQuery) (valid : q.Valid) :
    entriesOver table q (resultOf table q).pages.toNat = .ok ((sortedRecords table q).map rowOf) := by
  have length : (sortedRecords table q).length ≤ (resultOf table q).pages.toNat * q.perPage.toNat := by
    rw [sortedRecords, List.length_mergeSort]
    exact pages_cover table q valid
  have concatenated := Sql.pages_flatMap (sortedRecords table q) q.perPage.toNat (resultOf table q).pages.toNat
  rw [List.take_of_length_le length] at concatenated
  rw [entries_over table q valid _ (Nat.le_refl _)]
  exact congrArg (fun records => Except.ok (records.map rowOf)) concatenated

-- The WHERE clause drops the wanted rows that are not at the given bounds, and no others.
theorem selected_of_wanted (table : AuditTable) (q : AuditQuery) :
    selectedRecords table q = (wantedRecords table q).filter fun record =>
      (∀ ts ∈ q.fromTs, record.ts = ts) ∧ (∀ ts ∈ q.toTs, record.ts = ts) := by
  rw [wantedRecords, List.filter_filter]
  apply List.filter_congr
  intro record _
  rw [Bool.eq_iff_iff, beq_iff_eq, conjunction_selected, selected_wanted, Bool.and_eq_true, decide_eq_true_eq,
    decide_eq_true_eq]
  exact and_comm

theorem counts_agree_iff (table : AuditTable) (q : AuditQuery) :
    (selectedRecords table q).length = (wantedRecords table q).length ↔ BoundsAreReached table q := by
  rw [selected_of_wanted, List.length_filter_eq_length_iff]
  simp [BoundsAreReached, wantedRecords]

theorem selected_of_reached (table : AuditTable) (q : AuditQuery) (reached : BoundsAreReached table q) :
    selectedRecords table q = wantedRecords table q := by
  rw [selected_of_wanted]
  apply List.filter_eq_self.mpr
  intro record member
  obtain ⟨present, wanted⟩ := List.mem_filter.mp member
  exact decide_eq_true (reached record present (of_decide_eq_true wanted))

theorem result_means (table : AuditTable) (q : AuditQuery) (valid : q.Valid) (reached : BoundsAreReached table q) :
    Means table q (resultOf table q) where
  counted := by
    rw [total_counts, selected_of_reached table q reached]
  returned := by
    refine ⟨_, all_pages table q valid, ?_⟩
    rw [← selected_of_reached table q reached]
    exact (List.mergeSort_perm _ _).map rowOf
  onlyWanted := by
    intro entry member
    obtain ⟨record, inside, same⟩ := List.mem_map.mp member
    rw [← selected_of_reached table q reached]
    exact ⟨record, page_inside table q _ record inside, same⟩
  bound := placeholders_bound q

theorem audit_query_means_iff (table : AuditTable) (q : AuditQuery) (valid : q.Valid) :
    (∃ result, query table q = .ok result ∧ Means table q result) ↔ BoundsAreReached table q := by
  constructor
  · intro answered
    obtain ⟨result, isResult, means⟩ := answered
    have same := Except.ok.inj ((query_ok table q valid).symm.trans isResult)
    subst same
    rw [← counts_agree_iff, ← total_counts]
    exact means.counted
  · intro reached
    exact ⟨resultOf table q, query_ok table q valid, result_means table q valid reached⟩

def auditEntryAt (ts : Int) (requestId : String) : Api.AuditEntry :=
  { ts := ts, requestId := requestId, method := "POST", path := "/api/v1/vms", status := 201, durationMs := 12
    remoteAddr := none, userAgent := none, userId := none }

def twoEntries : AuditTable :=
  let first := (log .empty (auditEntryAt 100 "req-1") (by decide)).getD .empty
  (log first (auditEntryAt 200 "req-2") (by decide)).getD .empty

def everything : AuditQuery :=
  { page := 1, perPage := 50, method := none, path := some "vms", status := some 201, fromTs := none, toTs := none
    requestId := none, sortDir := .desc }

def since150 : AuditQuery :=
  { everything with fromTs := some 150 }

theorem audit_query_means_everything :
    ∃ result, query twoEntries everything = .ok result ∧ Means twoEntries everything result :=
  (audit_query_means_iff twoEntries everything ⟨by decide, by decide, by decide⟩).mpr
    (show ∀ record ∈ twoEntries.records, _ → _ by decide +kernel)

theorem later_entry_not_found :
    (wantedRecords twoEntries since150).map Record.requestId = ["req-2"] ∧
      (query twoEntries since150).map (fun result => (result.total, result.entries)) = .ok (0, []) ∧
      ¬∃ result, query twoEntries since150 = .ok result ∧ Means twoEntries since150 result := by
  have valid : since150.Valid := ⟨by decide, by decide, by decide⟩
  have none : selectedRecords twoEntries since150 = [] := by decide +kernel
  have total : (resultOf twoEntries since150).total.toNat = 0 := by
    rw [total_counts, none]
    rfl
  have wanted : (wantedRecords twoEntries since150).map Record.requestId = ["req-2"] := by decide +kernel
  refine ⟨wanted, ?_, ?_⟩
  · have entries : (resultOf twoEntries since150).entries = [] := by
      simp [resultOf, pageRecords, sortedRecords, none]
    rw [query_ok twoEntries since150 valid]
    exact congrArg Except.ok (Prod.ext (UInt64.toNat_inj.mp total) entries)
  · intro answered
    obtain ⟨result, isResult, means⟩ := answered
    have same := Except.ok.inj ((query_ok twoEntries since150 valid).symm.trans isResult)
    have counted := means.counted
    rw [← same, total] at counted
    exact absurd counted (by decide +kernel)

end Moxui.Audit
