import Moxui.Audit.QueryMeaning

set_option autoImplicit false

namespace Moxui.Audit

def Precedes (sort : SortDir) (first second : Record) : Prop :=
  match sort with
  | .asc => first.ts < second.ts ∨ (first.ts = second.ts ∧ first.id < second.id)
  | .desc => second.ts < first.ts ∨ (first.ts = second.ts ∧ second.id < first.id)

structure Paginates (table : AuditTable) (q : AuditQuery) (result : AuditQueryResult) : Prop where
  counted : result.total.toNat = (selectedRecords table q).length
  pages : result.pages.toNat = (result.total.toNat + q.perPage.toNat - 1) / q.perPage.toNat
  partitioned : ∃ records : List Record, entriesOver table q result.pages.toNat = .ok (records.map rowOf) ∧
    records.Perm (selectedRecords table q) ∧ records.Pairwise (Precedes q.sortDir)
  beyond : result.pages < q.page → result.entries = [] ∧ (q.page.toNat - 1) * q.perPage.toNat < UInt64.size

-- The offset of the page is an `i64`, or at least a `u64` where no row matches anyway.
def OffsetFits (table : AuditTable) (q : AuditQuery) : Prop :=
  (q.page.toNat - 1) * q.perPage.toNat ≤ maxI64.toNat ∨
    (selectedRecords table q = [] ∧ (q.page.toNat - 1) * q.perPage.toNat < UInt64.size)

theorem ordered_by_time_and_id (sort : SortDir) (first second : Record) (apart : first.id ≠ second.id)
    (ordered : Sql.before Record.read [(.ts, direction sort), (.id, direction sort)] first second = true) :
    Precedes sort first second := by
  rw [Sql.before_cons_iff, Sql.before_cons_iff] at ordered
  cases sort with
  | asc =>
      have ts : (direction .asc).compare (first.read .ts) (second.read .ts) = compare first.ts second.ts := rfl
      have id : (direction .asc).compare (first.read .id) (second.read .id) = compare first.id second.id := rfl
      rw [ts, id, Int.compare_eq_lt, Int.compare_eq_eq, Int.compare_eq_lt, Int.compare_eq_eq] at ordered
      rcases ordered with less | ⟨same, lessId | ⟨sameId, _⟩⟩
      · exact Or.inl less
      · exact Or.inr ⟨same, lessId⟩
      · exact absurd sameId apart
  | desc =>
      have ts : (direction .desc).compare (first.read .ts) (second.read .ts) = compare second.ts first.ts := rfl
      have id : (direction .desc).compare (first.read .id) (second.read .id) = compare second.id first.id := rfl
      rw [ts, id, Int.compare_eq_lt, Int.compare_eq_eq, Int.compare_eq_lt, Int.compare_eq_eq] at ordered
      rcases ordered with less | ⟨same, lessId | ⟨sameId, _⟩⟩
      · exact Or.inl less
      · exact Or.inr ⟨same.symm, lessId⟩
      · exact absurd sameId.symm apart

theorem sorted_precedes (table : AuditTable) (q : AuditQuery) : (sortedRecords table q).Pairwise (Precedes q.sortDir) := by
  have apart : ((sortedRecords table q).map Record.id).Nodup := by
    have kept : (selectedRecords table q).Sublist table.records := List.filter_sublist
    have distinct := (kept.map Record.id).nodup table.distinct
    exact ((List.mergeSort_perm _ _).map Record.id).nodup_iff.mpr distinct
  have both := (Sql.sorted_before Record.read (dataStatement q).order (selectedRecords table q)).and
    (List.pairwise_map.mp apart)
  exact both.imp fun ordered => ordered_by_time_and_id q.sortDir _ _ ordered.2 ordered.1

theorem ceiling (total size : Nat) (positive : 0 < size) :
    (if total = 0 then 0 else (total - 1) / size + 1) = (total + size - 1) / size := by
  by_cases none : total = 0
  · rw [if_pos none, none, Nat.zero_add]
    exact (Nat.div_eq_of_lt (Nat.sub_lt positive Nat.one_pos)).symm
  · rw [if_neg none, ← Nat.add_div_right _ positive]
    congr 1
    omega

section Pages

variable (table : AuditTable) (q : AuditQuery)

theorem page_positive (valid : q.Valid) : 1 ≤ q.page.toNat :=
  Nat.pos_of_ne_zero fun zero => valid.page (UInt64.toNat_inj.mp zero)

theorem offset_exact (valid : q.Valid) (fits : (q.page.toNat - 1) * q.perPage.toNat < UInt64.size) :
    ((q.page - 1) * q.perPage).toNat = (q.page.toNat - 1) * q.perPage.toNat := by
  have one : (1 : UInt64) ≤ q.page := UInt64.le_iff_toNat_le.mpr (page_positive q valid)
  rw [UInt64.toNat_mul, UInt64.toNat_sub_of_le _ _ one]
  exact Nat.mod_eq_of_lt fits

theorem beyond_empty (valid : q.Valid) (small : (q.page.toNat - 1) * q.perPage.toNat ≤ maxI64.toNat)
    (after : (resultOf table q).pages < q.page) : (resultOf table q).entries = [] := by
  have sizes : maxI64.toNat < UInt64.size := by decide
  have product := offset_exact q valid (small.trans_lt sizes)
  have isI64 : (q.page - 1) * q.perPage ≤ maxI64 := by
    rw [UInt64.le_iff_toNat_le, product]
    exact small
  have offset : (toI64Or 0 ((q.page - 1) * q.perPage)).toNat = (q.page.toNat - 1) * q.perPage.toNat := by
    rw [toI64Or, if_pos isI64, product]
    rfl
  have earlier : (resultOf table q).pages.toNat ≤ q.page.toNat - 1 := Nat.le_sub_one_of_lt (UInt64.lt_iff_toNat_lt.mp after)
  have length : (sortedRecords table q).length ≤ (q.page.toNat - 1) * q.perPage.toNat := by
    rw [sortedRecords, List.length_mergeSort]
    exact (pages_cover table q valid).trans (Nat.mul_le_mul_right _ earlier)
  have entries : (resultOf table q).entries =
      (pageRecords table q (toI64Or 0 ((q.page - 1) * q.perPage)).toNat).map rowOf := rfl
  rw [entries, offset, pageRecords, List.drop_of_length_le length, List.take_nil, List.map_nil]

-- An offset that is no `i64` counts as 0, so that the first page is returned again.
theorem too_far_empty_iff (valid : q.Valid) (far : maxI64.toNat < (q.page.toNat - 1) * q.perPage.toNat)
    (fits : (q.page.toNat - 1) * q.perPage.toNat < UInt64.size) :
    (resultOf table q).entries = [] ↔ selectedRecords table q = [] := by
  have product := offset_exact q valid fits
  have notI64 : ¬(q.page - 1) * q.perPage ≤ maxI64 := by
    rw [UInt64.le_iff_toNat_le, product]
    exact Nat.not_le.mpr far
  have entries : (resultOf table q).entries =
      (pageRecords table q (toI64Or 0 ((q.page - 1) * q.perPage)).toNat).map rowOf := rfl
  have positive := per_page_positive q valid
  rw [entries, toI64Or, if_neg notI64, List.map_eq_nil_iff, pageRecords, Int.toNat_zero, List.drop_zero,
    List.take_eq_nil_iff, ← List.length_eq_zero_iff, ← List.length_eq_zero_iff, sortedRecords, List.length_mergeSort]
  omega

theorem page_inside_fits (valid : q.Valid) (inside : ¬(resultOf table q).pages < q.page) :
    (q.page.toNat - 1) * q.perPage.toNat ≤ maxI64.toNat := by
  have first := page_positive q valid
  have before : q.page.toNat - 1 < (resultOf table q).pages.toNat := by
    have order := UInt64.le_iff_toNat_le.mp (UInt64.not_lt.mp inside)
    omega
  have fewer : (selectedRecords table q).length ≤ table.records.length := List.length_filter_le _ _
  have bound := table_length table
  have sizes : maxI64.toNat = maxRowId := rfl
  have start := page_before_end table q (q.page.toNat - 1) before
  omega

theorem audit_pages_partition_iff (valid : q.Valid) :
    (∃ result, query table q = .ok result ∧ Paginates table q result) ↔ OffsetFits table q := by
  refine ⟨?_, ?_⟩
  · rintro ⟨result, isResult, paginates⟩
    have same := Except.ok.inj ((query_ok table q valid).symm.trans isResult)
    subst same
    by_cases after : (resultOf table q).pages < q.page
    · obtain ⟨nothing, fits⟩ := paginates.beyond after
      by_cases small : (q.page.toNat - 1) * q.perPage.toNat ≤ maxI64.toNat
      · exact Or.inl small
      · exact Or.inr ⟨(too_far_empty_iff table q valid (Nat.not_le.mp small) fits).mp nothing, fits⟩
    · exact Or.inl (page_inside_fits table q valid after)
  · intro fits
    refine ⟨resultOf table q, query_ok table q valid, ?_⟩
    refine { counted := total_counts table q, pages := ?_, partitioned := ?_, beyond := ?_ }
    · rw [pages_result, total_counts]
      exact ceiling _ _ (per_page_positive q valid)
    · exact ⟨_, all_pages table q valid, List.mergeSort_perm _ _, sorted_precedes table q⟩
    · intro after
      rcases fits with small | ⟨nothing, fits⟩
      · exact ⟨beyond_empty table q valid small after, small.trans_lt (by decide)⟩
      · refine ⟨?_, fits⟩
        have entries : (resultOf table q).entries =
            (pageRecords table q (toI64Or 0 ((q.page - 1) * q.perPage)).toNat).map rowOf := rfl
        simp [entries, pageRecords, sortedRecords, nothing]

end Pages

def everyEntry : AuditQuery :=
  { everything with perPage := 1 }

def farPage : AuditQuery :=
  { everyEntry with page := 9223372036854775809 }

theorem everything_paginates :
    (∃ result, query twoEntries everyEntry = .ok result ∧ Paginates twoEntries everyEntry result) ↔
      OffsetFits twoEntries everyEntry :=
  audit_pages_partition_iff twoEntries everyEntry ⟨by decide, by decide, by decide⟩

theorem far_page_not_empty :
    (∃ result, query twoEntries farPage = .ok result ∧ result.pages = 2 ∧ result.entries ≠ []) ∧
      ¬∃ result, query twoEntries farPage = .ok result ∧ Paginates twoEntries farPage result := by
  have valid : farPage.Valid := ⟨by decide, by decide, by decide⟩
  have selected : (selectedRecords twoEntries farPage).length = 2 := by decide +kernel
  have pages : (resultOf twoEntries farPage).pages = 2 := by
    apply UInt64.toNat_inj.mp
    rw [pages_result, selected]
    decide
  have shown : (resultOf twoEntries farPage).entries ≠ [] := by
    intro nothing
    have none := (too_far_empty_iff twoEntries farPage valid (by decide) (by decide)).mp nothing
    rw [none] at selected
    cases selected
  refine ⟨⟨_, query_ok twoEntries farPage valid, pages, shown⟩, ?_⟩
  rintro ⟨result, isResult, paginates⟩
  have same := Except.ok.inj ((query_ok twoEntries farPage valid).symm.trans isResult)
  subst same
  refine shown (paginates.beyond ?_).1
  rw [pages]
  decide

end Moxui.Audit
