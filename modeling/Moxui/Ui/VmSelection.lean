import Moxui.Lib.OrderedSet
import Moxui.Ui.VmTable

set_option autoImplicit false

namespace Moxui.Ui.VmSelection

open Moxui.Api (Json)
open VmTable (Runtime VmFilter View)

-- `Number` of a text, which may be no number.
structure Numerals (ν : Type) extends Runtime ν where
  number : String → Option ν

inductive BulkResults where
  | answered (body : Json)
  | failed (action message : String)

structure BulkRequest (ν : Type) where
  path : String
  vms : List (VmPlace ν)

structure Page (ν : Type) extends View ν where
  selectedVmIds : OrderedSet String
  bulkBusy : Bool
  bulkResults : Option BulkResults
  bulkProgress : String

-- `vms` is the list that the next answer of `fetchVms` brings.
inductive Call (ν : Type) where
  | toggleVmSelection (vm : VmTable.VmRow ν)
  | toggleSelectAll
  | clearVmSelection
  | filtersVms (filter : VmFilter)
  | listsVms (vms : List (VmTable.VmRow ν))
  | bulkAction (action : String)
  | bulkAnswered (body : Json)
  | bulkFailed (action message : String)
  | hidesResults

section Functions

variable {ν : Type} (numerals : Numerals ν)

def vmKey (vm : VmPlace ν) : String :=
  vm.cluster ++ ":" ++ numerals.string vm.vmid

-- The first two of the parts of `key.split(':')`, if there are two.
def keyParts (key : String) : Option (String × String) :=
  (Text.splitOnce ':' key).map fun parts => (parts.1, ((Text.splitOnce ':' parts.2).map Prod.fst).getD parts.2)

def Page.initial : Page ν :=
  { vms := none
    vmFilter := { search := "", status := "", cluster := "", node := "" }
    vmSort := { key := .vmid, dir := .asc }
    selectedVmIds := .empty
    bulkBusy := false
    bulkResults := none
    bulkProgress := "" }

variable (page : Page ν)

def Page.rows : List (VmTable.VmRow ν) :=
  page.vms.getD []

def Page.shown : List (VmTable.VmRow ν) :=
  page.filteredVms numerals.toRuntime

def Page.allVmsSelected : Bool :=
  match page.shown numerals with
  | [] => false
  | filtered => filtered.all fun vm => page.selectedVmIds.has (vmKey numerals vm.toVmPlace)

def Page.toggleVmSelection (vm : VmPlace ν) : Page ν :=
  let key := vmKey numerals vm
  { page with
    selectedVmIds := if page.selectedVmIds.has key then page.selectedVmIds.delete key else page.selectedVmIds.add key }

def Page.toggleSelectAll : Page ν :=
  let keys := (page.shown numerals).map fun vm => vmKey numerals vm.toVmPlace
  { page with
    selectedVmIds :=
      if page.allVmsSelected numerals then keys.foldl OrderedSet.delete page.selectedVmIds
      else keys.foldl OrderedSet.add page.selectedVmIds }

variable [DecidableEq ν]

def pick (rows : List (VmTable.VmRow ν)) (key : String) : Option (VmPlace ν) := do
  let (cluster, vmidStr) ← keyParts key
  let vmid ← numerals.number vmidStr
  let vm ← rows.find? fun v => v.cluster = cluster ∧ v.vmid = vmid
  return { cluster := cluster, node := vm.node, vmid := vmid }

def Page.bulkAction (action : String) : Page ν × BulkRequest ν :=
  let vms := page.selectedVmIds.entries.filterMap (pick numerals page.rows)
  ({ page with
      bulkBusy := true
      bulkResults := none
      bulkProgress := "Sending " ++ action ++ " for " ++ toString vms.length ++ " VM(s)..." },
    { path := "/api/v1/vms/bulk/" ++ action, vms := vms })

def Page.step : Call ν → Page ν × Option (BulkRequest ν)
  | .toggleVmSelection vm => (page.toggleVmSelection numerals vm.toVmPlace, none)
  | .toggleSelectAll => (page.toggleSelectAll numerals, none)
  | .clearVmSelection => ({ page with selectedVmIds := .empty, bulkResults := none }, none)
  | .filtersVms filter => ({ page with vmFilter := filter }, none)
  | .listsVms vms => ({ page with vms := some vms }, none)
  | .bulkAction action => ((page.bulkAction numerals action).1, some (page.bulkAction numerals action).2)
  | .bulkAnswered body =>
      ({ page with bulkResults := some (.answered body), selectedVmIds := .empty, bulkBusy := false, bulkProgress := "" }, none)
  | .bulkFailed action message =>
      ({ page with bulkResults := some (.failed action message), bulkBusy := false, bulkProgress := "" }, none)
  | .hidesResults => ({ page with bulkResults := none }, none)

def machine : Machine (Page ν) (Call ν) (Option (BulkRequest ν)) where
  step page call := page.step numerals call

end Functions

section Selection

variable {ν : Type} (numerals : Numerals ν)

def Page.Selected (page : Page ν) (vm : VmPlace ν) : Prop :=
  vmKey numerals vm ∈ page.selectedVmIds

def Page.Hidden (page : Page ν) (vm : VmTable.VmRow ν) : Prop :=
  vm ∈ page.rows ∧ page.vmFilter.keeps numerals.toRuntime vm = false

def SamePair (first second : VmPlace ν) : Prop :=
  first.cluster = second.cluster ∧ first.vmid = second.vmid

structure Lawful : Prop where
  number : ∀ vmid, numerals.number (numerals.string vmid) = some vmid
  plain : ∀ vmid, ':' ∉ (numerals.string vmid).toList

def Reads (key : String) (vm : VmPlace ν) : Prop :=
  ∃ text, keyParts key = some (vm.cluster, text) ∧ numerals.number text = some vm.vmid

variable [DecidableEq ν]

structure Faithful (page : Page ν) : Prop where
  toggled : ∀ vm other : VmPlace ν, (page.toggleVmSelection numerals vm).Selected numerals other ↔
    (SamePair vm other ∧ ¬page.Selected numerals other) ∨ (¬SamePair vm other ∧ page.Selected numerals other)
  hidden : ∀ vm, page.Hidden numerals vm →
    ((page.toggleSelectAll numerals).Selected numerals vm.toVmPlace ↔ page.Selected numerals vm.toVmPlace)
  once : ∀ action, (page.bulkAction numerals action).2.vms.Nodup
  sent : ∀ action (vm : VmPlace ν), vm ∈ (page.bulkAction numerals action).2.vms ↔
    page.Selected numerals vm ∧ ∃ row ∈ page.rows, row.toVmPlace = vm

structure Readable (page : Page ν) : Prop where
  plain : ∀ row ∈ page.rows, page.Selected numerals row.toVmPlace → ':' ∉ row.cluster.toList
  own : ∀ key ∈ page.selectedVmIds, ∀ row ∈ page.rows, Reads numerals key row.toVmPlace → key = vmKey numerals row.toVmPlace
  oneNode : ∀ first ∈ page.rows, ∀ second ∈ page.rows, SamePair first.toVmPlace second.toVmPlace →
    page.Selected numerals first.toVmPlace → first.node = second.node
  apart : ∀ vm, page.Hidden numerals vm → ∀ row ∈ page.shown numerals, SamePair row.toVmPlace vm.toVmPlace →
    page.allVmsSelected numerals = false ∧ page.Selected numerals vm.toVmPlace

end Selection

section Keys

variable {ν : Type} {numerals : Numerals ν}

theorem key_inj_iff (lawful : Lawful numerals) (first second : VmPlace ν) :
    vmKey numerals first = vmKey numerals second ↔ SamePair first second := by
  constructor
  · intro same
    have chars := congrArg String.toList same
    simp only [vmKey, String.toList_append, List.append_assoc] at chars
    obtain ⟨clusters, numbers⟩ :=
      (Text.last_separator ':' _ _ _ _ (lawful.plain first.vmid) (lawful.plain second.vmid)).mp chars
    have vmid := congrArg numerals.number (String.toList_inj.mp numbers)
    rw [lawful.number, lawful.number] at vmid
    exact ⟨String.toList_inj.mp clusters, Option.some.inj vmid⟩
  · rintro ⟨cluster, vmid⟩
    rw [vmKey, cluster, vmid, vmKey]

theorem selected_congr (page : Page ν) (first second : VmPlace ν) (same : SamePair first second) :
    page.Selected numerals first ↔ page.Selected numerals second := by
  rw [Page.Selected, vmKey, same.1, same.2]
  rfl

theorem split_absent (text : String) (absent : ':' ∉ text.toList) : Text.splitOnce ':' text = none := by
  have all : text.toList.dropWhile (· ≠ ':') = [] := by
    rw [List.dropWhile_eq_nil_iff]
    exact fun char member => decide_eq_true fun same => absent (same ▸ member)
  unfold Text.splitOnce
  rw [all]

theorem key_parts (lawful : Lawful numerals) (vm : VmPlace ν) (plain : ':' ∉ vm.cluster.toList) :
    keyParts (vmKey numerals vm) = some (vm.cluster, numerals.string vm.vmid) := by
  have joined : Text.splitOnce ':' (vmKey numerals vm) = some (vm.cluster, numerals.string vm.vmid) :=
    Text.split_once_joined ':' vm.cluster (numerals.string vm.vmid) plain
  rw [keyParts, joined, Option.map_some, split_absent _ (lawful.plain vm.vmid)]
  rfl

theorem reads_own_key (lawful : Lawful numerals) (vm : VmPlace ν) (plain : ':' ∉ vm.cluster.toList) :
    Reads numerals (vmKey numerals vm) vm :=
  ⟨numerals.string vm.vmid, key_parts lawful vm plain, lawful.number vm.vmid⟩

theorem parts_plain (key cluster text : String) (parts : keyParts key = some (cluster, text)) : ':' ∉ cluster.toList := by
  rw [keyParts, Option.map_eq_some_iff] at parts
  obtain ⟨⟨before, after⟩, split, same⟩ := parts
  have isBefore : before = cluster := congrArg Prod.fst same
  unfold Text.splitOnce at split
  cases rest : key.toList.dropWhile (· ≠ ':') with
  | nil =>
      rw [rest] at split
      cases split
  | cons found later =>
      rw [rest, Option.some.injEq, Prod.mk.injEq] at split
      intro member
      rw [← isBefore, ← split.1, String.toList_ofList] at member
      have accepted := List.mem_takeWhile_imp member
      exact absurd rfl (of_decide_eq_true accepted)

theorem reads_pair (key : String) (first second : VmPlace ν) (readsFirst : Reads numerals key first)
    (readsSecond : Reads numerals key second) : SamePair first second := by
  obtain ⟨text, parts, number⟩ := readsFirst
  obtain ⟨other, otherParts, otherNumber⟩ := readsSecond
  have same := Prod.mk.inj (Option.some.inj (parts.symm.trans otherParts))
  rw [same.2] at number
  exact ⟨same.1, Option.some.inj (number.symm.trans otherNumber)⟩

theorem reads_congr (key : String) (first second : VmPlace ν) (same : SamePair first second)
    (reads : Reads numerals key first) : Reads numerals key second := by
  obtain ⟨text, parts, number⟩ := reads
  exact ⟨text, same.1 ▸ parts, same.2 ▸ number⟩

variable [DecidableEq ν]

theorem pick_some_iff (rows : List (VmTable.VmRow ν)) (key : String) (vm : VmPlace ν) :
    pick numerals rows key = some vm ↔
      Reads numerals key vm ∧ ∃ row, rows.find? (fun v => v.cluster = vm.cluster ∧ v.vmid = vm.vmid) = some row ∧
        row.toVmPlace = vm := by
  constructor
  · intro picked
    simp only [pick, bind, Option.bind_eq_some_iff, pure, Option.some.injEq] at picked
    obtain ⟨⟨cluster, text⟩, parts, vmid, number, row, found, rfl⟩ := picked
    have matched : row.cluster = cluster ∧ row.vmid = vmid := by simpa using List.find?_some found
    refine ⟨⟨text, parts, number⟩, row, found, ?_⟩
    rw [← matched.1, ← matched.2]
  · rintro ⟨⟨text, parts, number⟩, row, found, rfl⟩
    simp only [pick, bind, Option.bind_eq_some_iff, pure, Option.some.injEq]
    exact ⟨_, parts, _, number, row, found, rfl⟩

end Keys

section Toggling

variable {ν : Type} {numerals : Numerals ν} (page : Page ν)

theorem same_place (first second : VmPlace ν) (pair : SamePair first second) (node : first.node = second.node) :
    first = second := by
  cases first
  cases second
  obtain ⟨rfl, rfl⟩ := pair
  cases node
  rfl

theorem toggled (lawful : Lawful numerals) (vm other : VmPlace ν) :
    (page.toggleVmSelection numerals vm).Selected numerals other ↔
      (SamePair vm other ∧ ¬page.Selected numerals other) ∨ (¬SamePair vm other ∧ page.Selected numerals other) := by
  have pair := key_inj_iff lawful vm other
  by_cases selected : vmKey numerals vm ∈ page.selectedVmIds
  · have after : (page.toggleVmSelection numerals vm).selectedVmIds = page.selectedVmIds.delete (vmKey numerals vm) :=
      if_pos ((OrderedSet.has_iff _ _).mpr selected)
    rw [Page.Selected, after, OrderedSet.mem_delete, Page.Selected, ← pair]
    by_cases same : vmKey numerals vm = vmKey numerals other
    · rw [← same]
      simp [selected]
    · have back : ¬vmKey numerals other = vmKey numerals vm := fun equal => same equal.symm
      simp [same, back]
  · have after : (page.toggleVmSelection numerals vm).selectedVmIds = page.selectedVmIds.add (vmKey numerals vm) :=
      if_neg fun has => selected ((OrderedSet.has_iff _ _).mp has)
    rw [Page.Selected, after, OrderedSet.mem_add, Page.Selected, ← pair]
    by_cases same : vmKey numerals vm = vmKey numerals other
    · rw [← same]
      simp [selected]
    · have back : ¬vmKey numerals other = vmKey numerals vm := fun equal => same equal.symm
      simp [same, back]

theorem all_selected (row : VmTable.VmRow ν) (all : page.allVmsSelected numerals = true) (shown : row ∈ page.shown numerals) :
    page.Selected numerals row.toVmPlace := by
  rw [Page.allVmsSelected] at all
  cases list : page.shown numerals with
  | nil =>
      rw [list] at shown
      cases shown
  | cons first rest =>
      rw [list] at all shown
      exact (OrderedSet.has_iff _ _).mp (List.all_eq_true.mp all row shown)

-- A hidden VM keeps its selection if and only if no shown row that changes its own has the same key.
theorem hidden_kept_iff (lawful : Lawful numerals) (vm : VmPlace ν) :
    ((page.toggleSelectAll numerals).Selected numerals vm ↔ page.Selected numerals vm) ↔
      ∀ row ∈ page.shown numerals, SamePair row.toVmPlace vm →
        page.allVmsSelected numerals = false ∧ page.Selected numerals vm := by
  have among : vmKey numerals vm ∈ (page.shown numerals).map (fun row => vmKey numerals row.toVmPlace) ↔
      ∃ row ∈ page.shown numerals, SamePair row.toVmPlace vm := by
    simp only [List.mem_map, key_inj_iff lawful]
  cases all : page.allVmsSelected numerals with
  | true =>
      have after : (page.toggleSelectAll numerals).selectedVmIds =
          ((page.shown numerals).map fun row => vmKey numerals row.toVmPlace).foldl OrderedSet.delete page.selectedVmIds :=
        if_pos all
      rw [Page.Selected, after, OrderedSet.mem_delete_all, among]
      constructor
      · intro kept row shown pair
        have selected := (selected_congr page row.toVmPlace vm pair).mp (all_selected page row all shown)
        exact absurd ⟨row, shown, pair⟩ (kept.mpr selected).2
      · intro none
        exact and_iff_left fun ⟨row, shown, pair⟩ => absurd (none row shown pair).1 Bool.noConfusion
  | false =>
      have after : (page.toggleSelectAll numerals).selectedVmIds =
          ((page.shown numerals).map fun row => vmKey numerals row.toVmPlace).foldl OrderedSet.add page.selectedVmIds :=
        if_neg (Bool.eq_false_iff.mp all)
      rw [Page.Selected, after, OrderedSet.mem_add_all, among]
      constructor
      · intro kept row shown pair
        exact ⟨rfl, kept.mp (Or.inr ⟨row, shown, pair⟩)⟩
      · intro selected
        exact or_iff_left_of_imp fun ⟨row, shown, pair⟩ => (selected row shown pair).2

end Toggling

section Sending

variable {ν : Type} [DecidableEq ν] {numerals : Numerals ν} (page : Page ν)

-- The first row of a cluster and a number stands for all of them.
theorem picks_first (row : VmTable.VmRow ν) (member : row ∈ page.rows) :
    ∃ first ∈ page.rows, SamePair row.toVmPlace first.toVmPlace ∧
      ∀ key, Reads numerals key row.toVmPlace → pick numerals page.rows key = some first.toVmPlace := by
  cases found : page.rows.find? (fun v => v.cluster = row.cluster ∧ v.vmid = row.vmid) with
  | none =>
      have missed := List.find?_eq_none.mp found row member
      exact absurd (decide_eq_true ⟨rfl, rfl⟩) missed
  | some first =>
      have matched : first.cluster = row.cluster ∧ first.vmid = row.vmid := by simpa using List.find?_some found
      have pair : SamePair row.toVmPlace first.toVmPlace := ⟨matched.1.symm, matched.2.symm⟩
      refine ⟨first, List.mem_of_find?_eq_some found, pair, fun key reads => ?_⟩
      rw [← matched.1, ← matched.2] at found
      exact (pick_some_iff page.rows key first.toVmPlace).mpr ⟨reads_congr key _ _ pair reads, first, found, rfl⟩

theorem mem_sent (action : String) (vm : VmPlace ν) :
    vm ∈ (page.bulkAction numerals action).2.vms ↔
      ∃ key ∈ page.selectedVmIds, pick numerals page.rows key = some vm :=
  List.mem_filterMap

theorem once_iff (action : String) :
    (page.bulkAction numerals action).2.vms.Nodup ↔
      ∀ first ∈ page.selectedVmIds, ∀ second ∈ page.selectedVmIds, ∀ vm,
        pick numerals page.rows first = some vm → pick numerals page.rows second = some vm → first = second :=
  OrderedSet.nodup_filter_map_iff page.selectedVmIds (pick numerals page.rows)

theorem sent_exactly (lawful : Lawful numerals) (readable : Readable numerals page) (action : String) (vm : VmPlace ν) :
    vm ∈ (page.bulkAction numerals action).2.vms ↔
      page.Selected numerals vm ∧ ∃ row ∈ page.rows, row.toVmPlace = vm := by
  rw [mem_sent]
  constructor
  · rintro ⟨key, selected, picked⟩
    obtain ⟨reads, row, found, rfl⟩ := (pick_some_iff page.rows key vm).mp picked
    have member := List.mem_of_find?_eq_some found
    have own := readable.own key selected row member reads
    rw [own] at selected
    exact ⟨selected, row, member, rfl⟩
  · rintro ⟨selected, row, member, rfl⟩
    obtain ⟨first, isFirst, pair, picks⟩ := picks_first page row member
    have place := same_place row.toVmPlace first.toVmPlace pair (readable.oneNode row member first isFirst pair selected)
    rw [place] at selected ⊢
    refine ⟨_, selected, picks _ ?_⟩
    rw [← place]
    exact reads_own_key lawful row.toVmPlace (readable.plain row member (place ▸ selected))

theorem sent_once (readable : Readable numerals page) (action : String) :
    (page.bulkAction numerals action).2.vms.Nodup := by
  rw [once_iff]
  intro first isFirst second isSecond vm pickedFirst pickedSecond
  obtain ⟨readsFirst, row, found, rfl⟩ := (pick_some_iff page.rows first vm).mp pickedFirst
  obtain ⟨readsSecond, _⟩ := (pick_some_iff page.rows second row.toVmPlace).mp pickedSecond
  have member := List.mem_of_find?_eq_some found
  rw [readable.own first isFirst row member readsFirst, readable.own second isSecond row member readsSecond]

theorem readable_of_faithful (lawful : Lawful numerals) (faithful : Faithful numerals page) : Readable numerals page := by
  have sent := faithful.sent ""
  have plain : ∀ row ∈ page.rows, page.Selected numerals row.toVmPlace → ':' ∉ row.cluster.toList := by
    intro row member selected
    obtain ⟨key, _, picked⟩ := (mem_sent page "" row.toVmPlace).mp ((sent row.toVmPlace).mpr ⟨selected, row, member, rfl⟩)
    obtain ⟨⟨text, parts, _⟩, _⟩ := (pick_some_iff page.rows key row.toVmPlace).mp picked
    exact parts_plain key _ text parts
  refine { plain := plain, own := ?_, oneNode := ?_, apart := ?_ }
  · intro key isKey row member reads
    obtain ⟨first, isFirst, pair, picks⟩ := picks_first page row member
    have selected := ((sent first.toVmPlace).mp ((mem_sent page "" _).mpr ⟨key, isKey, picks key reads⟩)).1
    have ownReads := reads_own_key lawful first.toVmPlace (plain first isFirst selected)
    have ownPicks := picks _ (reads_congr _ _ _ ⟨pair.1.symm, pair.2.symm⟩ ownReads)
    have same := (once_iff page "").mp (faithful.once "") key isKey _ selected _ (picks key reads) ownPicks
    exact same.trans ((key_inj_iff lawful _ _).mpr ⟨pair.1.symm, pair.2.symm⟩)
  · intro first isFirst second isSecond pair selected
    obtain ⟨stands, _, _, picks⟩ := @picks_first ν _ numerals page first isFirst
    have other := (selected_congr page _ _ pair).mp selected
    obtain ⟨key, _, picked⟩ := (mem_sent page "" _).mp ((sent first.toVmPlace).mpr ⟨selected, first, isFirst, rfl⟩)
    obtain ⟨key', _, picked'⟩ := (mem_sent page "" _).mp ((sent second.toVmPlace).mpr ⟨other, second, isSecond, rfl⟩)
    have reads := ((pick_some_iff page.rows key _).mp picked).1
    have reads' := reads_congr key' _ first.toVmPlace ⟨pair.1.symm, pair.2.symm⟩ ((pick_some_iff page.rows key' _).mp picked').1
    have isFirst' := Option.some.inj (picked.symm.trans (picks key reads))
    have isSecond' := Option.some.inj (picked'.symm.trans (picks key' reads'))
    exact congrArg VmPlace.node (isFirst'.trans isSecond'.symm)
  · intro vm isHidden
    exact (hidden_kept_iff page lawful vm.toVmPlace).mp (faithful.hidden vm isHidden)

theorem faithful_iff (lawful : Lawful numerals) : Faithful numerals page ↔ Readable numerals page := by
  refine ⟨readable_of_faithful page lawful, fun readable => ?_⟩
  refine { toggled := toggled page lawful, hidden := ?_, once := sent_once page readable, sent := sent_exactly page lawful readable }
  intro vm isHidden
  exact (hidden_kept_iff page lawful vm.toVmPlace).mpr (readable.apart vm isHidden)

end Sending

section Runs

variable {ν : Type} {numerals : Numerals ν}

-- No cluster name has a colon, and no cluster has two rows of one number.
def PlainCall : Call ν → Prop
  | .toggleVmSelection vm => ':' ∉ vm.cluster.toList
  | .listsVms vms =>
      (∀ vm ∈ vms, ':' ∉ vm.cluster.toList) ∧
        ∀ first ∈ vms, ∀ second ∈ vms, SamePair first.toVmPlace second.toVmPlace → first = second
  | _ => True

structure PlainPage (numerals : Numerals ν) (page : Page ν) : Prop where
  rows : ∀ row ∈ page.rows, ':' ∉ row.cluster.toList
  single : ∀ first ∈ page.rows, ∀ second ∈ page.rows, SamePair first.toVmPlace second.toVmPlace → first = second
  keys : ∀ key ∈ page.selectedVmIds, ∃ vm : VmPlace ν, ':' ∉ vm.cluster.toList ∧ key = vmKey numerals vm

theorem plain_readable (lawful : Lawful numerals) (page : Page ν) (plain : PlainPage numerals page) :
    Readable numerals page := by
  refine { plain := fun row member _ => plain.rows row member, own := ?_, oneNode := ?_, apart := ?_ }
  · intro key isKey row member reads
    obtain ⟨vm, noColon, rfl⟩ := plain.keys key isKey
    exact (key_inj_iff lawful _ _).mpr (reads_pair _ _ _ (reads_own_key lawful vm noColon) reads)
  · intro first isFirst second isSecond pair _
    rw [plain.single first isFirst second isSecond pair]
  · intro vm isHidden row shown pair
    obtain ⟨member, kept⟩ := List.mem_filter.mp shown
    have same := plain.single row member vm isHidden.1 pair
    rw [same, isHidden.2] at kept
    cases kept

theorem shown_keys (page : Page ν) (plain : PlainPage numerals page) (key : String)
    (member : key ∈ (page.shown numerals).map fun row => vmKey numerals row.toVmPlace) :
    ∃ vm : VmPlace ν, ':' ∉ vm.cluster.toList ∧ key = vmKey numerals vm := by
  obtain ⟨row, shown, rfl⟩ := List.mem_map.mp member
  exact ⟨row.toVmPlace, plain.rows row (List.mem_of_mem_filter shown), rfl⟩

theorem toggle_keys (page : Page ν) (plain : PlainPage numerals page) (vm : VmPlace ν) (noColon : ':' ∉ vm.cluster.toList) :
    PlainPage numerals (page.toggleVmSelection numerals vm) := by
  refine { rows := plain.rows, single := plain.single, keys := fun key member => ?_ }
  by_cases selected : page.selectedVmIds.has (vmKey numerals vm) = true
  · have after : (page.toggleVmSelection numerals vm).selectedVmIds = page.selectedVmIds.delete (vmKey numerals vm) :=
      if_pos selected
    rw [after, OrderedSet.mem_delete] at member
    exact plain.keys key member.1
  · have after : (page.toggleVmSelection numerals vm).selectedVmIds = page.selectedVmIds.add (vmKey numerals vm) :=
      if_neg selected
    rw [after, OrderedSet.mem_add] at member
    rcases member with old | new
    · exact plain.keys key old
    · exact ⟨vm, noColon, new⟩

theorem toggle_all_keys (page : Page ν) (plain : PlainPage numerals page) :
    PlainPage numerals (page.toggleSelectAll numerals) := by
  refine { rows := plain.rows, single := plain.single, keys := fun key member => ?_ }
  by_cases all : page.allVmsSelected numerals = true
  · have after : (page.toggleSelectAll numerals).selectedVmIds =
        ((page.shown numerals).map fun row => vmKey numerals row.toVmPlace).foldl OrderedSet.delete page.selectedVmIds :=
      if_pos all
    rw [after, OrderedSet.mem_delete_all] at member
    exact plain.keys key member.1
  · have after : (page.toggleSelectAll numerals).selectedVmIds =
        ((page.shown numerals).map fun row => vmKey numerals row.toVmPlace).foldl OrderedSet.add page.selectedVmIds :=
      if_neg all
    rw [after, OrderedSet.mem_add_all] at member
    rcases member with old | new
    · exact plain.keys key old
    · exact shown_keys page plain key new

variable [DecidableEq ν]

theorem step_plain (page : Page ν) (plain : PlainPage numerals page) (call : Call ν) (isPlain : PlainCall call) :
    PlainPage numerals (page.step numerals call).1 := by
  have cleared : ∀ key ∈ (OrderedSet.empty : OrderedSet String),
      ∃ vm : VmPlace ν, ':' ∉ vm.cluster.toList ∧ key = vmKey numerals vm :=
    fun key member => absurd member (OrderedSet.not_mem_empty key)
  cases call with
  | toggleVmSelection vm => exact toggle_keys page plain vm.toVmPlace isPlain
  | toggleSelectAll => exact toggle_all_keys page plain
  | clearVmSelection => exact ⟨plain.rows, plain.single, cleared⟩
  | filtersVms filter => exact ⟨plain.rows, plain.single, plain.keys⟩
  | listsVms vms => exact ⟨isPlain.1, isPlain.2, plain.keys⟩
  | bulkAction action => exact ⟨plain.rows, plain.single, plain.keys⟩
  | bulkAnswered body => exact ⟨plain.rows, plain.single, cleared⟩
  | bulkFailed action message => exact ⟨plain.rows, plain.single, plain.keys⟩
  | hidesResults => exact ⟨plain.rows, plain.single, plain.keys⟩

theorem run_plain (page : Page ν) (plain : PlainPage numerals page) (calls : List (Call ν))
    (arePlain : ∀ call ∈ calls, PlainCall call) : PlainPage numerals ((machine numerals).run page calls) := by
  induction calls generalizing page with
  | nil => exact plain
  | cons call rest ih =>
      obtain ⟨first, later⟩ := List.forall_mem_cons.mp arePlain
      exact ih _ (step_plain page plain call first) later

-- The second part says the same of the calls: what is typed and listed, not what is selected.
theorem bulk_selection_iff (lawful : Lawful numerals) (calls : List (Call ν)) :
    (Faithful numerals ((machine numerals).run .initial calls) ↔ Readable numerals ((machine numerals).run .initial calls)) ∧
      ((∀ call ∈ calls, PlainCall call) → Faithful numerals ((machine numerals).run .initial calls)) := by
  refine ⟨faithful_iff _ lawful, fun arePlain => ?_⟩
  have start : PlainPage numerals (Page.initial : Page ν) := by
    refine { rows := fun row member => absurd member List.not_mem_nil, single := ?_, keys := ?_ }
    · exact fun first member => absurd member List.not_mem_nil
    · exact fun key member => absurd member (OrderedSet.not_mem_empty key)
  exact (faithful_iff _ lawful).mpr (plain_readable lawful _ (run_plain _ start calls arePlain))

end Runs

section Examples

def decimals : Numerals Nat :=
  { VmTable.plainRuntime with
    number := fun text => if text.toList.all Char.isDigit then some (Nat.ofDigitChars 10 text.toList 0) else none }

theorem decimals_lawful : Lawful decimals where
  number := by
    intro vmid
    have digits : (toString vmid).toList.all Char.isDigit = true := by
      rw [List.all_eq_true, Nat.toString_eq_repr, Nat.toList_repr]
      exact fun char member => Nat.isDigit_of_mem_toDigits (by omega) (by omega) member
    have value : Nat.ofDigitChars 10 (toString vmid).toList 0 = vmid := by
      rw [Nat.toString_eq_repr, Nat.toList_repr, Nat.ofDigitChars_ten_toDigits]
    exact (if_pos digits).trans (congrArg some value)
  plain := by
    intro vmid member
    have chars : (toString vmid).toList = Nat.toDigits 10 vmid := by rw [Nat.toString_eq_repr, Nat.toList_repr]
    have digit := Nat.isDigit_of_mem_toDigits (by omega) (by omega) (chars ▸ member)
    exact absurd digit (by decide)

def guestOf (cluster : String) (vmid : Nat) : VmTable.VmRow Nat :=
  { VmTable.guest vmid "web" none with cluster := cluster }

theorem plain_selection :
    Faithful decimals ((machine decimals).run .initial
      [.listsVms [guestOf "eu" 1, guestOf "us" 1], .toggleSelectAll, .toggleVmSelection (guestOf "us" 1)]) := by
  refine (bulk_selection_iff decimals_lawful _).2 ?_
  have listed : PlainCall (.listsVms [guestOf "eu" 1, guestOf "us" 1]) := by
    refine ⟨by decide, ?_⟩
    simp [guestOf, VmTable.guest, SamePair]
  have toggled : PlainCall (.toggleVmSelection (guestOf "us" 1)) := by
    change ':' ∉ ("us" : String).toList
    decide
  exact List.forall_mem_cons.mpr ⟨listed, List.forall_mem_cons.mpr ⟨trivial, List.forall_mem_singleton.mpr toggled⟩⟩

-- The only VM that is selected is VM 7 of the cluster "eu:1".
def colonSelected : List (Call Nat) :=
  [.listsVms [guestOf "eu" 1, guestOf "eu:1" 7], .toggleVmSelection (guestOf "eu:1" 7)]

theorem other_vm_sent :
    (((machine decimals).run .initial colonSelected).bulkAction decimals "delete").2.vms = [⟨"eu", "pve1", 1⟩] ∧
      ¬Faithful decimals ((machine decimals).run .initial colonSelected) := by
  have sent : (((machine decimals).run .initial colonSelected).bulkAction decimals "delete").2.vms =
      [⟨"eu", "pve1", 1⟩] := by decide +kernel
  refine ⟨sent, fun faithful => ?_⟩
  have selected := ((faithful.sent "delete" ⟨"eu", "pve1", 1⟩).mp (by rw [sent]; exact List.mem_singleton_self _)).1
  exact absurd selected (show ¬_ ∈ OrderedSet.entries _ by decide +kernel)

end Examples

end Moxui.Ui.VmSelection
