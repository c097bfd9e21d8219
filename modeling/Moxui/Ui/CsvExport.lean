import Moxui.Lib.Csv

set_option autoImplicit false

namespace Moxui.Ui.CsvExport

open Csv (Cell Dialect Reads)

-- A column is a name, or an object that may have a key and a label.
inductive Column where
  | name (key : String)
  | spec (key label : Option String)

structure Download where
  filename : String
  text : String

-- `Array.prototype.join`.
def joinTexts (separator : Char) (texts : List String) : String :=
  String.ofList (Csv.join separator (texts.map String.toList))

-- `text.replace(/"/g, '""')`.
def doubleQuotes (text : String) : String :=
  String.ofList (Csv.doubled text.toList)

def includes (text : String) (char : Char) : Bool :=
  char ∈ text.toList

section ExportCsv

def Column.header : Column → String
  | .name key => key
  | .spec key label => if label.getD "" ≠ "" then label.getD "" else key.getD ""

-- `row[undefined]` is the property of that name.
def Column.key : Column → String
  | .name key => key
  | .spec key _ => key.getD "undefined"

variable {ω : Type} (string : ω → String)

def cellText (row : String → Option ω) (column : Column) : String :=
  ((row column.key).map string).getD ""

def exportField (text : String) : String :=
  let val := doubleQuotes text
  if includes val ',' ∨ includes val '"' ∨ includes val '\n' then "\"" ++ val ++ "\"" else val

-- A row is an object; what it lacks is undefined.
def exportCsv (data : Option (List (String → Option ω))) (columns : List Column) (filename : Option String) : Option Download :=
  match data with
  | none => none
  | some [] => none
  | some rows =>
      let header := joinTexts ',' (columns.map Column.header)
      let lines := joinTexts '\n' (rows.map fun row => joinTexts ',' (columns.map fun c => exportField (cellText string row c)))
      let name := filename.getD ""
      some { filename := if name ≠ "" then name else "export.csv", text := header ++ "\n" ++ lines }

end ExportCsv

section ExportVmStatsCsv

structure StatsVm (ν : Type) where
  vmid : ν
  name : Option String
  cluster : String
  node : String
  status : Option String
  cpu : Option ν
  mem : Option ν
  maxmem : Option ν
  uptime : Option ν

-- `String(value)`, `(value * 100).toFixed(1)`, and whether a number counts as true.
structure Numerals (ν : Type) where
  string : ν → String
  percent : ν → String
  truthy : ν → Bool

def statsColumns : List (String × String) :=
  [("vmid", "VMID"), ("name", "Name"), ("cluster", "Cluster"), ("node", "Node"), ("status", "Status"), ("cpu", "CPU %"),
    ("mem", "Memory"), ("maxmem", "Max Memory"), ("uptime", "Uptime (s)")]

variable {ν : Type} (numerals : Numerals ν)

def orEmpty (value : Option ν) : String :=
  match value with
  | some value => if numerals.truthy value then numerals.string value else ""
  | none => ""

def statsRow (svm : StatsVm ν) : List (String × Option String) :=
  [("vmid", some (numerals.string svm.vmid)), ("name", some (svm.name.getD "")), ("cluster", some svm.cluster),
    ("node", some svm.node), ("status", svm.status), ("cpu", some ((svm.cpu.map numerals.percent).getD "")),
    ("mem", some (orEmpty numerals svm.mem)), ("maxmem", some (orEmpty numerals svm.maxmem)),
    ("uptime", some (orEmpty numerals svm.uptime))]

def statsField (text : String) : String :=
  let v := doubleQuotes text
  if includes v ',' then "\"" ++ v ++ "\"" else v

def statsText (svm : StatsVm ν) (key : String) : String :=
  (((statsRow numerals svm).lookup key).getD none).getD ""

def exportVmStatsCsv (selectedVm : Option (StatsVm ν)) : Option Download :=
  selectedVm.map fun svm =>
    { filename := "vm-" ++ numerals.string svm.vmid ++ "-stats.csv"
      text := joinTexts ',' (statsColumns.map Prod.snd) ++ "\n" ++
        joinTexts ',' (statsColumns.map fun c => statsField (statsText numerals svm c.1)) }

end ExportVmStatsCsv

section Reading

-- The grammar of RFC 4180 to the letter.
def rfc4180 : Dialect where
  isText := fun char => 0x20 ≤ char.toNat ∧ char.toNat ≤ 0x7E ∧ char ≠ ',' ∧ char ≠ '"'
  breaks := [['\r', '\n']]
  plain := by
    intro char text
    obtain ⟨low, _, comma, quote⟩ := of_decide_eq_true text
    refine ⟨comma, quote, ?_, ?_⟩
    · rintro rfl
      exact absurd low (by decide)
    · rintro rfl
      exact absurd low (by decide)
  lines := fun line isBreak => Or.inr (List.mem_singleton.mp isBreak)

-- The same grammar for a reader that takes every other character as text and a line feed as a line break.
def withLineFeeds : Dialect where
  isText := fun char => char ≠ ',' ∧ char ≠ '"' ∧ char ≠ '\r' ∧ char ≠ '\n'
  breaks := [['\n'], ['\r', '\n']]
  plain := fun _ text => of_decide_eq_true text
  lines := by
    intro line isBreak
    rcases List.mem_cons.mp isBreak with feed | both
    · exact Or.inl feed
    · exact Or.inr (List.mem_singleton.mp both)

def ReadsAs (dialect : Dialect) (records : List (List String)) (download : Download) : Prop :=
  Reads dialect (records.map fun record => record.map String.toList) download.text.toList

variable {ω ν : Type}

def exportedRecords (string : ω → String) (columns : List Column) (rows : List (String → Option ω)) : List (List String) :=
  columns.map Column.header :: rows.map fun row => columns.map (cellText string row)

def statsRecords (numerals : Numerals ν) (svm : StatsVm ν) : List (List String) :=
  [statsColumns.map Prod.snd, statsColumns.map fun c => statsText numerals svm c.1]

def PlainText (text : String) : Prop :=
  ∀ char ∈ text.toList, char ≠ ',' ∧ char ≠ '"' ∧ char ≠ '\r' ∧ char ≠ '\n'

structure ExportReadable (string : ω → String) (columns : List Column) (rows : List (String → Option ω)) : Prop where
  full : columns ≠ []
  labels : ∀ column ∈ columns, PlainText column.header
  returns : ∀ row ∈ rows, ∀ column ∈ columns, '\r' ∈ (cellText string row column).toList →
    ',' ∈ (cellText string row column).toList ∨ '"' ∈ (cellText string row column).toList ∨
      '\n' ∈ (cellText string row column).toList
  last : ∀ row ∈ rows.getLast?, columns.map (cellText string row) ≠ [""]

def StatsReadable (numerals : Numerals ν) (svm : StatsVm ν) : Prop :=
  ∀ column ∈ statsColumns, ',' ∈ (statsText numerals svm column.1).toList ∨ PlainText (statsText numerals svm column.1)

end Reading

section Fields

theorem to_list_doubled (text : String) : (doubleQuotes text).toList = Csv.doubled text.toList :=
  String.toList_ofList

theorem includes_doubled (text : String) (char : Char) : includes (doubleQuotes text) char = true ↔ char ∈ text.toList := by
  rw [includes, to_list_doubled, decide_eq_true_iff, Csv.mem_doubled]

theorem in_quotes (text : String) : ("\"" ++ doubleQuotes text ++ "\"").toList = Csv.quoted text.toList := by
  rw [String.toList_append, String.toList_append, to_list_doubled]
  rfl

theorem export_field (text : String) : (exportField text).toList =
    Csv.wrapped (',' ∈ text.toList ∨ '"' ∈ text.toList ∨ '\n' ∈ text.toList) text.toList := by
  rw [exportField, Csv.wrapped]
  simp only [includes_doubled]
  by_cases wraps : ',' ∈ text.toList ∨ '"' ∈ text.toList ∨ '\n' ∈ text.toList
  · rw [if_pos wraps, if_pos wraps, in_quotes]
  · rw [if_neg wraps, if_neg wraps, to_list_doubled]

theorem stats_field (text : String) : (statsField text).toList = Csv.wrapped (',' ∈ text.toList) text.toList := by
  rw [statsField, Csv.wrapped]
  simp only [includes_doubled]
  by_cases wraps : ',' ∈ text.toList
  · rw [if_pos wraps, if_pos wraps, in_quotes]
  · rw [if_neg wraps, if_neg wraps, to_list_doubled]

theorem quotable (value : List Char) : Csv.Quotable withLineFeeds value := by
  intro char _
  by_cases text : withLineFeeds.isText char = true
  · exact Or.inl text
  · have special := mt decide_eq_true text
    simp only [not_and_or, not_not] at special
    exact Or.inr special

theorem plain_text_iff (text : String) : (∀ char ∈ text.toList, withLineFeeds.isText char = true) ↔ PlainText text :=
  forall₂_congr fun _ _ => decide_eq_true_iff

theorem special_needed (dialect : Dialect) (value : List Char) (wraps : ',' ∈ value ∨ '"' ∈ value ∨ '\n' ∈ value) :
    ∃ char ∈ value, dialect.isText char ≠ true := by
  rcases wraps with comma | quote | feed
  · exact ⟨',', comma, fun text => (dialect.plain ',' text).1 rfl⟩
  · exact ⟨'"', quote, fun text => (dialect.plain '"' text).2.1 rfl⟩
  · exact ⟨'\n', feed, fun text => (dialect.plain '\n' text).2.2.2 rfl⟩

end Fields

section Exports

variable {ω ν : Type}

def headerCells (labels : List String) : List Cell :=
  labels.map fun label => (label.toList, label.toList)

def exportCells (string : ω → String) (columns : List Column) (rows : List (String → Option ω)) : List (List Cell) :=
  headerCells (columns.map Column.header) ::
    rows.map fun row => columns.map fun c => ((cellText string row c).toList, (exportField (cellText string row c)).toList)

def statsCells (numerals : Numerals ν) (svm : StatsVm ν) : List (List Cell) :=
  [headerCells (statsColumns.map Prod.snd),
    statsColumns.map fun c => ((statsText numerals svm c.1).toList, (statsField (statsText numerals svm c.1)).toList)]

theorem to_list_join (separator : Char) (texts : List String) :
    (joinTexts separator texts).toList = Csv.join separator (texts.map String.toList) :=
  String.toList_ofList

theorem header_records (labels : List String) : (headerCells labels).map Prod.fst = labels.map String.toList := by
  rw [headerCells, List.map_map]
  rfl

theorem header_written (labels : List String) : Csv.writtenRecord (headerCells labels) = (joinTexts ',' labels).toList := by
  rw [Csv.writtenRecord, headerCells, List.map_map, to_list_join]
  rfl

theorem export_records (string : ω → String) (columns : List Column) (rows : List (String → Option ω)) :
    Csv.recordsOf (exportCells string columns rows) =
      (exportedRecords string columns rows).map fun record => record.map String.toList := by
  rw [exportCells, Csv.recordsOf, List.map_cons, header_records, exportedRecords, List.map_cons]
  simp only [List.map_map, Function.comp_def]

theorem stats_records (numerals : Numerals ν) (svm : StatsVm ν) :
    Csv.recordsOf (statsCells numerals svm) = (statsRecords numerals svm).map fun record => record.map String.toList := by
  rw [statsCells, Csv.recordsOf, List.map_cons, header_records]
  rfl

theorem export_written (string : ω → String) (columns : List Column) (first : String → Option ω)
    (rest : List (String → Option ω)) (filename : Option String) :
    ∃ download, exportCsv string (some (first :: rest)) columns filename = some download ∧
      download.text.toList = Csv.written (exportCells string columns (first :: rest)) := by
  refine ⟨_, rfl, ?_⟩
  have line (row : String → Option ω) : Csv.writtenRecord
      (columns.map fun c => ((cellText string row c).toList, (exportField (cellText string row c)).toList)) =
        (joinTexts ',' (columns.map fun c => exportField (cellText string row c))).toList := by
    simp only [Csv.writtenRecord, to_list_join, List.map_map, Function.comp_def]
  have feed : ("\n" : String).toList = ['\n'] := rfl
  simp only [Csv.written, exportCells, List.map_cons, header_written, String.toList_append, to_list_join '\n', List.map_map,
    Function.comp_def, line, feed, List.append_assoc, List.singleton_append, Csv.join]

theorem stats_written (numerals : Numerals ν) (svm : StatsVm ν) :
    ∃ download, exportVmStatsCsv numerals (some svm) = some download ∧
      download.text.toList = Csv.written (statsCells numerals svm) := by
  refine ⟨_, rfl, ?_⟩
  have line : Csv.writtenRecord
      (statsColumns.map fun c => ((statsText numerals svm c.1).toList, (statsField (statsText numerals svm c.1)).toList)) =
        (joinTexts ',' (statsColumns.map fun c => statsField (statsText numerals svm c.1))).toList := by
    simp only [Csv.writtenRecord, to_list_join, List.map_map, Function.comp_def]
  have feed : ("\n" : String).toList = ['\n'] := rfl
  simp only [Csv.written, statsCells, List.map_cons, List.map_nil, header_written, String.toList_append, line, feed,
    List.append_assoc, List.singleton_append, Csv.join]

theorem header_short (dialect : Dialect) (labels : List String) :
    ∀ cell ∈ headerCells labels, cell.2.length ≤ Csv.leastField dialect cell.1 := by
  intro cell member
  obtain ⟨label, _, rfl⟩ := List.mem_map.mp member
  exact Csv.same_short label.toList

theorem export_short (dialect : Dialect) (string : ω → String) (columns : List Column) (rows : List (String → Option ω)) :
    Csv.Short dialect (exportCells string columns rows) := by
  refine List.forall_mem_cons.mpr ⟨header_short dialect _, List.forall_mem_map.mpr fun row _ => List.forall_mem_map.mpr fun c _ => ?_⟩
  rw [export_field]
  exact Csv.wrapped_short _ _ (special_needed dialect _)

theorem stats_short (dialect : Dialect) (numerals : Numerals ν) (svm : StatsVm ν) :
    Csv.Short dialect (statsCells numerals svm) := by
  refine List.forall_mem_cons.mpr ⟨header_short dialect _, List.forall_mem_singleton.mpr (List.forall_mem_map.mpr fun c _ => ?_)⟩
  rw [stats_field]
  exact Csv.wrapped_short _ _ fun comma => special_needed dialect _ (Or.inl comma)

theorem strict_breaks : ∀ line ∈ rfc4180.breaks, 1 + 1 ≤ line.length := by decide

theorem header_fields_iff (labels : List String) :
    (∀ cell ∈ headerCells labels, Csv.Field withLineFeeds cell.1 cell.2) ↔ ∀ label ∈ labels, PlainText label := by
  rw [headerCells, List.forall_mem_map]
  refine forall₂_congr fun label _ => ?_
  rw [← plain_text_iff]
  exact ⟨fun field => Csv.text_of_tight _ (Csv.field_length _ _ field), fun text => .plain _ text⟩

theorem export_field_iff (text : String) : Csv.Field withLineFeeds text.toList (exportField text).toList ↔
    ('\r' ∈ text.toList → ',' ∈ text.toList ∨ '"' ∈ text.toList ∨ '\n' ∈ text.toList) := by
  rw [export_field, Csv.field_wrapped_iff _ _ (quotable _), plain_text_iff]
  constructor
  · rintro (wraps | plain) isReturn
    · exact wraps
    · exact absurd rfl (plain '\r' isReturn).2.2.1
  · intro returns
    by_cases wraps : ',' ∈ text.toList ∨ '"' ∈ text.toList ∨ '\n' ∈ text.toList
    · exact Or.inl wraps
    · obtain ⟨comma, others⟩ := not_or.mp wraps
      obtain ⟨quote, feed⟩ := not_or.mp others
      refine Or.inr fun char member => ⟨?_, ?_, ?_, ?_⟩
      · rintro rfl
        exact comma member
      · rintro rfl
        exact quote member
      · rintro rfl
        exact wraps (returns member)
      · rintro rfl
        exact feed member

theorem stats_field_iff (text : String) : Csv.Field withLineFeeds text.toList (statsField text).toList ↔
    ',' ∈ text.toList ∨ PlainText text := by
  rw [stats_field, Csv.field_wrapped_iff _ _ (quotable _), plain_text_iff]

theorem header_fits (labels : List String) (cell : Cell) (member : cell ∈ headerCells labels)
    (tight : Csv.leastField withLineFeeds cell.1 ≤ cell.2.length) : Csv.Field withLineFeeds cell.1 cell.2 := by
  obtain ⟨label, _, rfl⟩ := List.mem_map.mp member
  exact .plain _ (Csv.text_of_tight _ tight)

theorem last_record_iff (string : ω → String) (columns : List Column) (rows : List (String → Option ω)) (notEmpty : rows ≠ []) :
    ((exportedRecords string columns rows).map fun record => record.map String.toList).getLast? ≠ some [[]] ↔
      ∀ row ∈ rows.getLast?, columns.map (cellText string row) ≠ [""] := by
  obtain ⟨front, final, rfl⟩ : ∃ front final, rows = front ++ [final] :=
    ⟨rows.dropLast, rows.getLast notEmpty, (List.dropLast_append_getLast notEmpty).symm⟩
  have records : (exportedRecords string columns (front ++ [final])).map (fun record => record.map String.toList) =
      ((exportedRecords string columns front).map fun record => record.map String.toList) ++
        [(columns.map (cellText string final)).map String.toList] := by
    rw [exportedRecords, exportedRecords, List.map_append, ← List.cons_append, List.map_append]
    rfl
  have texts : (columns.map (cellText string final)).map String.toList = [[]] ↔ columns.map (cellText string final) = [""] :=
    (List.map_injective_iff.mpr fun first second => String.toList_inj.mp).eq_iff (b := [""])
  rw [records, List.getLast?_concat, List.getLast?_concat, ne_eq, Option.some.injEq, texts]
  exact ⟨fun differs row isLast => Option.some.inj isLast ▸ differs, fun differs => differs final rfl⟩

theorem export_reads_iff (string : ω → String) (columns : List Column) (rows : List (String → Option ω)) (notEmpty : rows ≠ []) :
    Reads withLineFeeds (Csv.recordsOf (exportCells string columns rows)) (Csv.written (exportCells string columns rows)) ↔
      ExportReadable string columns rows := by
  have two : 2 ≤ (exportCells string columns rows).length := by
    have positive := List.length_pos_iff.mpr notEmpty
    rw [exportCells, List.length_cons, List.length_map]
    omega
  have fits : ∀ row ∈ exportCells string columns rows, ∀ cell ∈ row,
      Csv.leastField withLineFeeds cell.1 ≤ cell.2.length → Csv.Field withLineFeeds cell.1 cell.2 := by
    refine List.forall_mem_cons.mpr ⟨header_fits _, List.forall_mem_map.mpr fun row _ => List.forall_mem_map.mpr fun c _ => ?_⟩
    rw [export_field]
    exact Csv.field_of_tight _ _ (quotable _)
  have fields : (∀ row ∈ exportCells string columns rows, ∀ cell ∈ row, Csv.Field withLineFeeds cell.1 cell.2) ↔
      (∀ column ∈ columns, PlainText column.header) ∧ ∀ row ∈ rows, ∀ column ∈ columns,
        '\r' ∈ (cellText string row column).toList → ',' ∈ (cellText string row column).toList ∨
          '"' ∈ (cellText string row column).toList ∨ '\n' ∈ (cellText string row column).toList := by
    rw [exportCells, List.forall_mem_cons, header_fields_iff, List.forall_mem_map, List.forall_mem_map]
    simp only [List.forall_mem_map, export_field_iff]
  have full : (∀ row ∈ exportCells string columns rows, row ≠ []) ↔ columns ≠ [] := by
    rw [exportCells, List.forall_mem_cons, List.forall_mem_map]
    simp only [headerCells, ne_eq, List.map_eq_nil_iff]
    exact and_iff_left_of_imp fun notEmpty _ _ => notEmpty
  have last : (Csv.recordsOf (exportCells string columns rows)).getLast? ≠ some [[]] ↔
      ∀ row ∈ rows.getLast?, columns.map (cellText string row) ≠ [""] := by
    rw [export_records]
    exact last_record_iff string columns rows notEmpty
  rw [Csv.reads_iff _ (export_short _ string columns rows) List.mem_cons_self two fits, full, fields, last]
  exact ⟨fun ⟨full, ⟨labels, returns⟩, last⟩ => ⟨full, labels, returns, last⟩,
    fun readable => ⟨readable.full, ⟨readable.labels, readable.returns⟩, readable.last⟩⟩

theorem stats_reads_iff (numerals : Numerals ν) (svm : StatsVm ν) :
    Reads withLineFeeds (Csv.recordsOf (statsCells numerals svm)) (Csv.written (statsCells numerals svm)) ↔
      StatsReadable numerals svm := by
  have fits : ∀ row ∈ statsCells numerals svm, ∀ cell ∈ row,
      Csv.leastField withLineFeeds cell.1 ≤ cell.2.length → Csv.Field withLineFeeds cell.1 cell.2 := by
    refine List.forall_mem_cons.mpr ⟨header_fits _, List.forall_mem_singleton.mpr (List.forall_mem_map.mpr fun c _ => ?_)⟩
    rw [stats_field]
    exact Csv.field_of_tight _ _ (quotable _)
  have labels : ∀ column ∈ statsColumns, PlainText column.2 := by
    have all : statsColumns.all (fun column => column.2.toList.all fun char =>
        char ≠ ',' ∧ char ≠ '"' ∧ char ≠ '\r' ∧ char ≠ '\n') = true := by decide +kernel
    intro column listed char inText
    exact of_decide_eq_true (List.all_eq_true.mp (List.all_eq_true.mp all column listed) char inText)
  have fields : (∀ row ∈ statsCells numerals svm, ∀ cell ∈ row, Csv.Field withLineFeeds cell.1 cell.2) ↔
      StatsReadable numerals svm := by
    rw [statsCells, List.forall_mem_cons, header_fields_iff, List.forall_mem_singleton]
    simp only [List.forall_mem_map, stats_field_iff]
    exact and_iff_right labels
  have full : ∀ row ∈ statsCells numerals svm, row ≠ [] := by
    refine List.forall_mem_cons.mpr ⟨List.cons_ne_nil _ _, List.forall_mem_singleton.mpr (List.cons_ne_nil _ _)⟩
  have last : (Csv.recordsOf (statsCells numerals svm)).getLast? ≠ some [[]] := by
    intro single
    have lengths := congrArg (Option.map List.length) single
    exact absurd (Option.some.inj lengths) (show ¬(9 : Nat) = 1 by decide)
  rw [Csv.reads_iff _ (stats_short _ numerals svm) List.mem_cons_self (Nat.le_refl 2) fits, fields]
  exact ⟨fun reads => reads.2.1, fun readable => ⟨full, readable, last⟩⟩

-- To the letter of the grammar nothing is read back, as the lines end in line feeds.
theorem csv_exports_read_iff (string : ω → String) (columns : List Column) (first : String → Option ω)
    (rest : List (String → Option ω)) (filename : Option String) (numerals : Numerals ν) (svm : StatsVm ν) :
    (∃ download, exportCsv string (some (first :: rest)) columns filename = some download ∧
      ¬ReadsAs rfc4180 (exportedRecords string columns (first :: rest)) download ∧
      (ReadsAs withLineFeeds (exportedRecords string columns (first :: rest)) download ↔
        ExportReadable string columns (first :: rest))) ∧
      ∃ download, exportVmStatsCsv numerals (some svm) = some download ∧
        ¬ReadsAs rfc4180 (statsRecords numerals svm) download ∧
        (ReadsAs withLineFeeds (statsRecords numerals svm) download ↔ StatsReadable numerals svm) := by
  obtain ⟨exported, isExport, exportText⟩ := export_written string columns first rest filename
  obtain ⟨stats, isStats, statsText⟩ := stats_written numerals svm
  refine ⟨⟨exported, isExport, ?_, ?_⟩, stats, isStats, ?_, ?_⟩
  · rw [ReadsAs, ← export_records, exportText]
    intro reads
    have short := export_short rfc4180 string columns (first :: rest)
    exact Csv.wide_not_read _ short 1 Nat.one_pos strict_breaks (Nat.le_add_left 2 _) reads.1
  · rw [ReadsAs, ← export_records, exportText]
    exact export_reads_iff string columns (first :: rest) (List.cons_ne_nil _ _)
  · rw [ReadsAs, ← stats_records, statsText]
    intro reads
    exact Csv.wide_not_read _ (stats_short rfc4180 numerals svm) 1 Nat.one_pos strict_breaks (Nat.le_refl 2) reads.1
  · rw [ReadsAs, ← stats_records, statsText]
    exact stats_reads_iff numerals svm

end Exports

section Examples

def plainNumerals : Numerals Nat :=
  { string := toString, percent := fun value => toString (value * 100) ++ ".0", truthy := fun value => value ≠ 0 }

def quotedVm : StatsVm Nat :=
  { vmid := 101, name := some "web \"old\"", cluster := "main", node := "pve1", status := some "running", cpu := some 1
    mem := some 512, maxmem := none, uptime := some 0 }

-- The quotes of the name are doubled, but the name is not put in quotes.
theorem quoted_name_not_read :
    (exportVmStatsCsv plainNumerals (some quotedVm)).map (fun download => download.text) =
      some ("VMID,Name,Cluster,Node,Status,CPU %,Memory,Max Memory,Uptime (s)\n" ++
        "101,web \"\"old\"\",main,pve1,running,100.0,512,,") ∧
      ∃ download, exportVmStatsCsv plainNumerals (some quotedVm) = some download ∧
        ¬ReadsAs rfc4180 (statsRecords plainNumerals quotedVm) download ∧
        ¬ReadsAs withLineFeeds (statsRecords plainNumerals quotedVm) download := by
  refine ⟨by decide +kernel, ?_⟩
  obtain ⟨download, isExport, text⟩ := stats_written plainNumerals quotedVm
  refine ⟨download, isExport, ?_, ?_⟩
  · rw [ReadsAs, ← stats_records, text]
    intro reads
    exact Csv.wide_not_read _ (stats_short rfc4180 _ _) 1 Nat.one_pos strict_breaks (Nat.le_refl 2) reads.1
  · rw [ReadsAs, ← stats_records, text, stats_reads_iff]
    intro readable
    rcases readable ("name", "Name") (by decide) with comma | plain
    · exact absurd comma (by decide +kernel)
    · exact absurd rfl (plain '"' (by decide +kernel)).2.1

end Examples

end Moxui.Ui.CsvExport
