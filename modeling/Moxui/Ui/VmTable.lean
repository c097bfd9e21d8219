import Mathlib.Data.List.Infix
import Mathlib.Order.Compare
import Mathlib.Order.Lattice
import Moxui.Lib.StableSort
import Moxui.Ui.Page

set_option autoImplicit false

namespace Moxui.Ui.VmTable

-- What the table asks of JavaScript: a number as a text, and the methods of a text.
structure Runtime (ν : Type) where
  string : ν → String
  trim : String → String
  toLowerCase : String → String
  localeCompare : String → String → Ordering

structure VmRow (ν : Type) extends VmPlace ν where
  name : String
  status : String
  cpu : Option ν
  cpus : Option ν
  mem : Option ν
  maxmem : Option ν
  uptime : Option ν
  tags : Option String

inductive Column where
  | cluster
  | vmid
  | name
  | node
  | status
  | cpu
  | cpus
  | mem
  | maxmem
  | uptime
  | tags
deriving DecidableEq, Repr

inductive Cell (ν : Type) where
  | null
  | number (value : ν)
  | text (value : String)

inductive SortDir where
  | asc
  | desc
deriving DecidableEq, Repr

structure VmSort where
  key : Column
  dir : SortDir

structure VmFilter where
  search : String
  status : String
  cluster : String
  node : String

structure View (ν : Type) where
  vms : Option (List (VmRow ν))
  vmFilter : VmFilter
  vmSort : VmSort

section Rows

variable {ν : Type}

def Cell.ofNumber : Option ν → Cell ν
  | none => .null
  | some value => .number value

def Cell.ofText : Option String → Cell ν
  | none => .null
  | some value => .text value

def VmRow.read (row : VmRow ν) : Column → Cell ν
  | .cluster => .text row.cluster
  | .vmid => .number row.vmid
  | .name => .text row.name
  | .node => .text row.node
  | .status => .text row.status
  | .cpu => .ofNumber row.cpu
  | .cpus => .ofNumber row.cpus
  | .mem => .ofNumber row.mem
  | .maxmem => .ofNumber row.maxmem
  | .uptime => .ofNumber row.uptime
  | .tags => .ofText row.tags

-- Each column holds numbers only or texts only, where it holds something.
theorem column_type (key : Column) :
    (∃ value : VmRow ν → Option ν, ∀ row : VmRow ν, row.read key = .ofNumber (value row)) ∨
      ∃ value : VmRow ν → Option String, ∀ row : VmRow ν, row.read key = .ofText (value row) := by
  cases key with
  | cluster => exact Or.inr ⟨fun row => some row.cluster, fun _ => rfl⟩
  | vmid => exact Or.inl ⟨fun row => some row.vmid, fun _ => rfl⟩
  | name => exact Or.inr ⟨fun row => some row.name, fun _ => rfl⟩
  | node => exact Or.inr ⟨fun row => some row.node, fun _ => rfl⟩
  | status => exact Or.inr ⟨fun row => some row.status, fun _ => rfl⟩
  | cpu => exact Or.inl ⟨VmRow.cpu, fun _ => rfl⟩
  | cpus => exact Or.inl ⟨VmRow.cpus, fun _ => rfl⟩
  | mem => exact Or.inl ⟨VmRow.mem, fun _ => rfl⟩
  | maxmem => exact Or.inl ⟨VmRow.maxmem, fun _ => rfl⟩
  | uptime => exact Or.inl ⟨VmRow.uptime, fun _ => rfl⟩
  | tags => exact Or.inr ⟨VmRow.tags, fun _ => rfl⟩

variable (runtime : Runtime ν)

def VmRow.haystack (row : VmRow ν) : String :=
  " ".intercalate
    [runtime.string row.vmid, runtime.toLowerCase row.name, runtime.toLowerCase (row.tags.getD ""),
      runtime.toLowerCase row.node, runtime.toLowerCase row.cluster]

def VmFilter.keeps (filter : VmFilter) (vm : VmRow ν) : Bool :=
  let q := runtime.toLowerCase (runtime.trim filter.search)
  if filter.status ≠ "" ∧ vm.status ≠ filter.status then false
  else if filter.cluster ≠ "" ∧ vm.cluster ≠ filter.cluster then false
  else if filter.node ≠ "" ∧ vm.node ≠ filter.node then false
  else if q ≠ "" then decide (q.toList <:+: (vm.haystack runtime).toList)
  else true

def Cell.string : Cell ν → String
  | .null => "null"
  | .number value => runtime.string value
  | .text value => value

def View.filteredVms (view : View ν) : List (VmRow ν) :=
  (view.vms.getD []).filter (view.vmFilter.keeps runtime)

variable [LinearOrder ν]

-- What the comparator answers for `a[key]` and `b[key]`. The difference of two numbers has the
-- sign of their comparison.
def Cell.compare (dir : SortDir) : Cell ν → Cell ν → Ordering
  | .null, .null => .eq
  | .null, _ => .gt
  | _, .null => .lt
  | .number av, .number bv => StableSort.signed (dir = .desc) (Ord.compare av bv)
  | av, bv => StableSort.signed (dir = .desc) (runtime.localeCompare (av.string runtime) (bv.string runtime))

def VmSort.compare (order : VmSort) (a b : VmRow ν) : Ordering :=
  (a.read order.key).compare runtime order.dir (b.read order.key)

def View.sortedVms (view : View ν) : List (VmRow ν) :=
  StableSort.sort (view.vmSort.compare runtime) (view.filteredVms runtime)

end Rows

section Order

variable {ν : Type} [LinearOrder ν] (runtime : Runtime ν)

-- The keys of one column are of one type, and a null key is before no other.
def KeyBefore : SortDir → Cell ν → Cell ν → Prop
  | _, _, .null => True
  | .asc, .number first, .number second => first ≤ second
  | .desc, .number first, .number second => second ≤ first
  | .asc, .text first, .text second => (runtime.localeCompare first second).isLE
  | .desc, .text first, .text second => (runtime.localeCompare second first).isLE
  | _, _, _ => False

def sameKey : Cell ν → Cell ν → Bool
  | .null, .null => true
  | .number first, .number second => first = second
  | .text first, .text second => runtime.localeCompare first second = .eq
  | _, _ => false

structure InOrder (view : View ν) : Prop where
  consistent : Std.TransCmp (view.vmSort.compare runtime)
  permuted : (view.sortedVms runtime).Perm (view.filteredVms runtime)
  ordered : (view.sortedVms runtime).Pairwise fun first second =>
    KeyBefore runtime view.vmSort.dir (first.read view.vmSort.key) (second.read view.vmSort.key)
  stable : ∀ row : VmRow ν,
    ((view.sortedVms runtime).filter fun other => sameKey runtime (row.read view.vmSort.key) (other.read view.vmSort.key)) =
      (view.filteredVms runtime).filter fun other => sameKey runtime (row.read view.vmSort.key) (other.read view.vmSort.key)

theorem compare_numbers (dir : SortDir) (first second : Option ν) :
    (Cell.ofNumber first).compare runtime dir (.ofNumber second) =
      StableSort.nullsLast (fun av bv => StableSort.signed (dir = .desc) (Ord.compare av bv)) first second := by
  cases first <;> cases second <;> rfl

theorem compare_texts (dir : SortDir) (first second : Option String) :
    (Cell.ofText first).compare runtime dir (.ofText second : Cell ν) =
      StableSort.nullsLast (fun av bv => StableSort.signed (dir = .desc) (runtime.localeCompare av bv)) first second := by
  cases first <;> cases second <;> rfl

theorem numbers_before (dir : SortDir) (first second : Option ν)
    (ordered : ((Cell.ofNumber first).compare runtime dir (.ofNumber second)).isLE = true) :
    KeyBefore runtime dir (.ofNumber first) (.ofNumber second) := by
  cases second with
  | none => cases dir <;> trivial
  | some second =>
      cases first with
      | none => exact absurd ordered Bool.false_ne_true
      | some first =>
          cases dir with
          | asc => exact compare_le_iff_le.mp (Ordering.isLE_iff_ne_gt.mp ordered)
          | desc =>
              change (StableSort.signed true (Ord.compare first second)).isLE = true at ordered
              rw [StableSort.signed_true] at ordered
              exact compare_le_iff_le.mp (Ordering.isLE_iff_ne_gt.mp ordered)

theorem same_key_iff (order : VmSort) (first second : VmRow ν) :
    sameKey runtime (first.read order.key) (second.read order.key) = decide (order.compare runtime first second = .eq) := by
  rw [VmSort.compare]
  rcases column_type (ν := ν) order.key with ⟨value, numbers⟩ | ⟨value, texts⟩
  · rw [numbers first, numbers second, compare_numbers]
    cases value first with
    | none => cases value second <;> rfl
    | some av =>
        cases value second with
        | none => rfl
        | some bv => simp only [Cell.ofNumber, sameKey, StableSort.nullsLast, StableSort.signed_eq_iff, compare_eq_iff_eq]
  · rw [texts first, texts second, compare_texts]
    cases value first with
    | none => cases value second <;> rfl
    | some av =>
        cases value second with
        | none => rfl
        | some bv => simp only [Cell.ofText, sameKey, StableSort.nullsLast, StableSort.signed_eq_iff]

variable [Std.TransCmp runtime.localeCompare]

theorem compare_consistent (order : VmSort) : Std.TransCmp (order.compare (ν := ν) runtime) := by
  rcases column_type (ν := ν) order.key with ⟨value, numbers⟩ | ⟨value, texts⟩
  · have same : order.compare runtime = fun a b =>
        StableSort.nullsLast (fun av bv => StableSort.signed (order.dir = .desc) (Ord.compare av bv)) (value a) (value b) := by
      funext a b
      rw [VmSort.compare, numbers a, numbers b, compare_numbers]
    have directed : Std.TransCmp fun av bv : ν => StableSort.signed (order.dir = .desc) (Ord.compare av bv) :=
      StableSort.trans_signed Ord.compare _
    have nulls := StableSort.trans_nulls_last fun av bv : ν => StableSort.signed (order.dir = .desc) (Ord.compare av bv)
    rw [same]
    exact StableSort.trans_comap _ value
  · have same : order.compare runtime = fun a b =>
        StableSort.nullsLast (fun av bv => StableSort.signed (order.dir = .desc) (runtime.localeCompare av bv))
          (value a) (value b) := by
      funext a b
      rw [VmSort.compare, texts a, texts b, compare_texts]
    have directed : Std.TransCmp fun av bv => StableSort.signed (order.dir = .desc) (runtime.localeCompare av bv) :=
      StableSort.trans_signed runtime.localeCompare _
    have nulls := StableSort.trans_nulls_last fun av bv =>
      StableSort.signed (order.dir = .desc) (runtime.localeCompare av bv)
    rw [same]
    exact StableSort.trans_comap _ value

theorem texts_before (dir : SortDir) (first second : Option String)
    (ordered : ((Cell.ofText first : Cell ν).compare runtime dir (.ofText second)).isLE = true) :
    KeyBefore runtime dir (.ofText first : Cell ν) (.ofText second) := by
  cases second with
  | none => cases dir <;> trivial
  | some second =>
      cases first with
      | none => exact absurd ordered Bool.false_ne_true
      | some first =>
          cases dir with
          | asc => exact ordered
          | desc =>
              change (StableSort.signed true (runtime.localeCompare first second)).isLE = true at ordered
              rw [StableSort.signed_true] at ordered
              exact ordered

theorem key_before (order : VmSort) (first second : VmRow ν) (ordered : (order.compare runtime first second).isLE = true) :
    KeyBefore runtime order.dir (first.read order.key) (second.read order.key) := by
  rw [VmSort.compare] at ordered
  rcases column_type (ν := ν) order.key with ⟨value, numbers⟩ | ⟨value, texts⟩
  · rw [numbers first, numbers second] at ordered ⊢
    exact numbers_before runtime order.dir _ _ ordered
  · rw [texts first, texts second] at ordered ⊢
    exact texts_before runtime order.dir _ _ ordered

theorem sorted_in_order (view : View ν) : InOrder runtime view := by
  have consistent := compare_consistent runtime view.vmSort
  have ordered := StableSort.sort_ordered (view.vmSort.compare runtime) (view.filteredVms runtime)
  refine { consistent := consistent, permuted := StableSort.sort_perm _ _
           ordered := ordered.imp (key_before runtime view.vmSort _ _), stable := ?_ }
  intro row
  simp only [same_key_iff]
  exact StableSort.sort_stable (view.vmSort.compare runtime) (view.filteredVms runtime) row

end Order

def plainRuntime : Runtime Nat :=
  { string := toString, trim := id, toLowerCase := Text.asciiLower, localeCompare := Ord.compare }

def guest (vmid : Nat) (name : String) (mem : Option Nat) : VmRow Nat :=
  { cluster := "main", node := "pve1", vmid := vmid, name := name, status := "running", cpu := none, cpus := none
    mem := mem, maxmem := none, uptime := none, tags := none }

def byMemory : View Nat :=
  { vms := some [guest 101 "web" none, guest 102 "db" (some 512), guest 103 "Web-2" (some 2048), guest 104 "web-3" (some 512)]
    vmFilter := { search := "WEB", status := "", cluster := "main", node := "" }
    vmSort := { key := .mem, dir := .desc } }

theorem memory_in_order :
    InOrder plainRuntime byMemory ∧ (byMemory.filteredVms plainRuntime).map (fun vm => vm.vmid) = [101, 103, 104] := by
  have consistent : Std.TransCmp plainRuntime.localeCompare := inferInstanceAs (Std.TransCmp (Ord.compare : String → _))
  exact ⟨sorted_in_order plainRuntime byMemory, by decide +kernel⟩

end Moxui.Ui.VmTable
