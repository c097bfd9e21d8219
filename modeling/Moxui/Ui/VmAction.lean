import Moxui.Lib.Latch
import Moxui.Ui.Page

set_option autoImplicit false

namespace Moxui.Ui.Page

section Selection

variable {ν : Type}

def shown (page : Page ν) : Option (VmPlace ν) :=
  page.selected.map VmObject.toVmPlace

def opened (page : Page ν) : Turn ν → Option (VmPlace ν)
  | .requestVmAction _ _ => page.shown
  | _ => none

-- A detail poll writes its answer into the VM that was selected when the answer began.
def polled (page : Page ν) : Suspended → Heard ν → Option (VmPlace ν)
  | .vmDetailBody (some target), .row row => if page.selectedVm = some target then some row.toVmPlace else none
  | _, _ => none

def Valid (page : Page ν) : Prop :=
  ∀ vm, page.selectedVm = some vm → vm < page.objects.length

structure Leaves (page after : Page ν) : Prop where
  objects : after.objects = page.objects
  selectedVm : after.selectedVm = page.selectedVm
  dialog : after.vmConfirm.isSome = true → page.vmConfirm.isSome = true

structure Selects (page after : Page ν) (brought : Option (VmPlace ν)) : Prop where
  valid : after.Valid
  shown : after.shown = brought.or page.shown
  dialog : after.vmConfirm.isSome = true → page.vmConfirm.isSome = true

theorem Leaves.trans {page between after : Page ν} (first : Leaves page between) (second : Leaves between after) :
    Leaves page after :=
  ⟨second.objects.trans first.objects, second.selectedVm.trans first.selectedVm, fun isOpen =>
    first.dialog (second.dialog isOpen)⟩

theorem Leaves.shown {page after : Page ν} (leaves : Leaves page after) : after.shown = page.shown := by
  rw [Page.shown, Page.shown, selected, selected, leaves.objects, leaves.selectedVm]

theorem Leaves.valid {page after : Page ν} (leaves : Leaves page after) (valid : page.Valid) : after.Valid := by
  intro vm isSelected
  rw [leaves.selectedVm] at isSelected
  rw [leaves.objects]
  exact valid vm isSelected

theorem Leaves.selects {page after : Page ν} (leaves : Leaves page after) (valid : page.Valid) : Selects page after none :=
  ⟨leaves.valid valid, leaves.shown, leaves.dialog⟩

theorem Selects.leaves {page between after : Page ν} {brought : Option (VmPlace ν)} (selects : Selects page between brought)
    (leaves : Leaves between after) : Selects page after brought :=
  ⟨leaves.valid selects.valid, leaves.shown.trans selects.shown, fun isOpen => selects.dialog (leaves.dialog isOpen)⟩

theorem Leaves.then {page between after : Page ν} {brought : Option (VmPlace ν)} (leaves : Leaves page between)
    (selects : Selects between after brought) : Selects page after brought := by
  refine ⟨selects.valid, ?_, fun isOpen => leaves.dialog (selects.dialog isOpen)⟩
  rw [selects.shown, leaves.shown]

theorem Selects.trans {page between after : Page ν} {first second : Option (VmPlace ν)}
    (earlier : Selects page between first) (later : Selects between after second) :
    Selects page after (second.or first) := by
  refine ⟨later.valid, ?_, fun isOpen => earlier.dialog (later.dialog isOpen)⟩
  rw [later.shown, earlier.shown, Option.or_assoc]

end Selection

section Steps

variable {ν : Type} (browser : Browser ν) (page : Page ν)

theorem fetch_vm_detail_leaves : Leaves page (page.fetchVmDetail browser).1 := by
  unfold fetchVmDetail
  cases page.selected with
  | none => exact ⟨rfl, rfl, id⟩
  | some vm =>
      by_cases incomplete : vm.cluster = "" ∨ vm.node = ""
      · simp only [if_pos incomplete]
        exact ⟨rfl, rfl, id⟩
      · simp only [if_neg incomplete]
        exact ⟨rfl, rfl, id⟩

theorem confirm_leaves : Leaves page (page.confirmVmAction browser).1 := by
  unfold confirmVmAction
  split
  · exact ⟨rfl, rfl, id⟩
  · exact ⟨rfl, rfl, id⟩

theorem confirmed_leaves (action upid : String) : Leaves page (page.confirmed browser action upid).1 := by
  have closed : Leaves page page.cancelVmAction := ⟨rfl, rfl, fun isOpen => by cases isOpen⟩
  have fetching := closed.trans (fetch_vm_detail_leaves browser page.cancelVmAction)
  unfold confirmed
  by_cases deleted : upid ≠ "" ∧ action = "delete"
  · simp only [if_pos deleted]
    exact fetching.trans ⟨rfl, rfl, id⟩
  · simp only [if_neg deleted]
    exact fetching

theorem assign_selects (valid : page.Valid) (target : Nat) (source : VmObject ν) :
    Selects page (page.assign target source)
      (if page.selectedVm = some target then some source.toVmPlace else none) := by
  refine ⟨?_, ?_, id⟩
  · intro vm isSelected
    rw [assign, List.length_modify]
    exact valid vm isSelected
  · unfold shown selected
    by_cases same : page.selectedVm = some target
    · have inside := List.getElem?_eq_getElem (valid target same)
      simp [assign, same, inside, VmObject.assign]
    · rw [if_neg same]
      cases isSelected : page.selectedVm with
      | none => simp [assign, isSelected]
      | some vm =>
          have other : target ≠ vm := fun equal => same (by rw [isSelected, equal])
          simp [assign, isSelected, List.getElem?_modify, other]

theorem selecting_selects (sel : VmPlace ν) : Selects page (page.selecting sel) (some sel) := by
  refine ⟨?_, ?_, id⟩
  · intro vm isSelected
    cases isSelected
    rw [selecting, List.length_append]
    exact Nat.lt_succ_self _
  · have fresh : (page.objects ++ [(⟨sel, none⟩ : VmObject ν)])[page.objects.length]? = some ⟨sel, none⟩ :=
      List.getElem?_concat_length
    exact congrArg (Option.map VmObject.toVmPlace) fresh

theorem listed_selects (valid : page.Valid) (rows : List (VmRow ν)) : Selects page (page.listed rows) none := by
  refine ⟨?_, ?_, id⟩
  · intro vm isSelected
    rw [listed, List.length_append]
    exact Nat.lt_add_right _ (valid vm isSelected)
  · unfold shown selected
    cases isSelected : page.selectedVm with
    | none => simp [listed, isSelected]
    | some vm =>
        have inside := valid vm isSelected
        simp [listed, isSelected, List.getElem?_append_left inside]

theorem open_vm_selects (valid : page.Valid) (vm : Nat) :
    Selects page (page.openVm browser vm) (page.objects[vm]?.map VmObject.toVmPlace) := by
  cases found : page.objects[vm]? with
  | none =>
      rw [openVm, found]
      exact ⟨valid, rfl, id⟩
  | some vm' =>
      rw [openVm, found]
      refine ⟨?_, ?_, id⟩
      · intro other isSelected
        cases isSelected
        exact (List.getElem?_eq_some_iff.mp found).1
      · rw [shown, selected]
        exact congrArg (Option.map VmObject.toVmPlace) found

theorem resume_selects (valid : page.Valid) (suspended : Suspended) (heard : Heard ν) :
    Selects page (page.resume browser suspended heard).1 (page.polled suspended heard) := by
  unfold resume
  split
  · exact Leaves.selects ⟨rfl, rfl, id⟩ valid
  · exact assign_selects page valid _ _
  · exact Leaves.selects ⟨rfl, rfl, id⟩ valid
  · exact listed_selects page valid _
  · exact Leaves.selects ⟨rfl, rfl, id⟩ valid
  · exact (confirmed_leaves browser page _ _).selects valid
  · exact Leaves.selects ⟨rfl, rfl, id⟩ valid
  · exact Leaves.selects ⟨rfl, rfl, id⟩ valid
  · exact Leaves.selects ⟨rfl, rfl, id⟩ valid
  · exact Leaves.selects ⟨rfl, rfl, id⟩ valid
  · have nothing : page.polled suspended heard = none := by
      unfold polled
      split
      · simp_all
      · rfl
    rw [nothing]
    exact Leaves.selects ⟨rfl, rfl, id⟩ valid

end Steps

section Routes

variable {ν : Type} [DecidableEq ν] (browser : Browser ν) (page : Page ν)

-- The VM that a route to this place selects: the list may know of another node.
def routed (sel : VmPlace ν) : VmPlace ν :=
  match page.cached sel.cluster sel.vmid with
  | none => sel
  | some cached => cached.toVmPlace

def routeVm : Option (VmPlace ν) :=
  if page.token.isSome ∧ page.route = "vm-detail" then (page.parseVmDetail browser).map page.routed else none

def brings : Turn ν → Option (VmPlace ν)
  | .loads => page.routeVm browser
  | .hashchange => { page with route := parseRoute page.hash }.routeVm browser
  | .openVm vm => page.objects[vm]?.map VmObject.toVmPlace
  | .resumes index heard => (page.waiting[index]?).bind fun suspended => page.polled suspended heard
  | _ => none

theorem select_selects (sel : VmPlace ν) :
    Selects page (page.select sel) (some (page.routed sel)) := by
  have selecting := selecting_selects page sel
  cases found : page.cached sel.cluster sel.vmid with
  | none =>
      rw [select, routed, found]
      exact selecting
  | some cached =>
      have assigned := selecting.trans (assign_selects _ selecting.valid page.objects.length cached)
      rw [Page.selecting, if_pos rfl] at assigned
      rw [select, routed, found]
      exact assigned

theorem maybe_load_route_selects (valid : page.Valid) :
    Selects page (page.maybeLoadRoute browser).1 (page.routeVm browser) := by
  unfold maybeLoadRoute routeVm
  cases page.token with
  | none => exact Leaves.selects ⟨rfl, rfl, id⟩ valid
  | some token =>
      by_cases list : page.route = "vms"
      · rw [if_pos list, if_neg (by simp [list])]
        exact Leaves.selects ⟨rfl, rfl, id⟩ valid
      · by_cases detail : page.route = "vm-detail"
        · rw [if_neg list, if_pos detail, if_pos ⟨rfl, detail⟩]
          cases page.parseVmDetail browser with
          | none => exact (fetch_vm_detail_leaves browser page).selects valid
          | some sel => exact (select_selects page sel).leaves (fetch_vm_detail_leaves browser _)
        · rw [if_neg list, if_neg detail, if_neg fun both => detail both.2]
          exact Leaves.selects ⟨rfl, rfl, id⟩ valid

theorem step_selects (valid : page.Valid) (turn : Turn ν) (opening : page.opened turn = none) :
    Selects page (page.step browser turn).1 (page.brings browser turn) := by
  cases turn with
  | loads => exact maybe_load_route_selects browser page valid
  | login token => exact Leaves.selects ⟨rfl, rfl, id⟩ valid
  | logout => exact Leaves.selects ⟨rfl, rfl, id⟩ valid
  | navigate hash => exact Leaves.selects ⟨rfl, rfl, id⟩ valid
  | hashchange =>
      have routing : Leaves page { page with route := parseRoute page.hash } := ⟨rfl, rfl, id⟩
      exact routing.then (maybe_load_route_selects browser _ valid)
  | backToList => exact Leaves.selects ⟨rfl, rfl, id⟩ valid
  | openVm vm => exact open_vm_selects browser page valid vm
  | fetchVms => exact Leaves.selects ⟨rfl, rfl, id⟩ valid
  | fetchVmDetail => exact (fetch_vm_detail_leaves browser page).selects valid
  | requestVmAction action body =>
      have none : page.selected = none := Option.map_eq_none_iff.mp opening
      rw [step, requestVmAction, none]
      exact Leaves.selects ⟨rfl, rfl, id⟩ valid
  | typesVmid text => exact Leaves.selects ⟨rfl, rfl, id⟩ valid
  | cancelVmAction => exact Leaves.selects ⟨rfl, rfl, fun isOpen => by cases isOpen⟩ valid
  | confirmVmAction => exact (confirm_leaves browser page).selects valid
  | resumes index heard =>
      cases found : page.waiting[index]? with
      | none =>
          rw [step, brings, found]
          exact Leaves.selects ⟨rfl, rfl, id⟩ valid
      | some suspended =>
          rw [step, brings, found]
          have taken : Leaves page { page with waiting := page.waiting.eraseIdx index } := ⟨rfl, rfl, id⟩
          exact taken.then (resume_selects browser { page with waiting := page.waiting.eraseIdx index } valid suspended heard)

theorem opening_shown (turn : Turn ν) (vm : VmPlace ν) (opening : page.opened turn = some vm) :
    (page.step browser turn).1.selectedVm = page.selectedVm ∧ (page.step browser turn).1.objects = page.objects ∧
      page.shown = some vm := by
  cases turn with
  | requestVmAction action body =>
      refine ⟨?_, ?_, opening⟩
      · rw [step, requestVmAction]
        split
        · rfl
        · rfl
      · rw [step, requestVmAction]
        split
        · rfl
        · rfl
  | _ => cases opening

end Routes

section Dialog

variable {ν : Type} [DecidableEq ν] (browser : Browser ν)

-- While a dialog is open, what is brought to the selection is the VM that is selected already.
def KeepsVm (page : Page ν) (turn : Turn ν) : Prop :=
  page.vmConfirm.isSome = true → ∀ vm ∈ page.brings browser turn, page.shown = some vm

instance (page : Page ν) (turn : Turn ν) : Decidable (KeepsVm browser page turn) :=
  inferInstanceAs (Decidable (page.vmConfirm.isSome = true → ∀ vm ∈ page.brings browser turn, page.shown = some vm))

-- What is confirmed goes to the VM for which the dialog was opened.
def ConfirmsOpened (start : Page ν) (turns : List (Turn ν)) : Prop :=
  ∀ earlier later occurrence, (machine browser).trace start turns = earlier ++ occurrence :: later →
    occurrence.input = .confirmVmAction → ∀ request ∈ occurrence.output,
      ∃ vm confirm, Machine.latched opened earlier = some vm ∧ occurrence.before.vmConfirm = some confirm ∧
        request = ⟨"POST", vmActionPath browser vm confirm.action, confirm.body⟩

theorem step_valid (page : Page ν) (turn : Turn ν) (valid : page.Valid) : (page.step browser turn).1.Valid := by
  cases opening : page.opened turn with
  | none => exact (step_selects browser page valid turn opening).valid
  | some vm =>
      obtain ⟨sameVm, sameObjects, _⟩ := opening_shown browser page turn vm opening
      intro vm' isSelected
      rw [sameVm] at isSelected
      rw [sameObjects]
      exact valid vm' isSelected

theorem occurrence_before (start : Page ν) (valid : start.Valid) (turns : List (Turn ν))
    (occurrence : Machine.Event (Page ν) (Turn ν) (List ApiRequest))
    (member : occurrence ∈ (machine browser).trace start turns) :
    occurrence.before.Valid ∧ occurrence.after = (occurrence.before.step browser occurrence.input).1 := by
  obtain ⟨earlier, _, _, taken⟩ := Machine.trace_event (machine browser) start turns occurrence member
  rw [taken]
  exact ⟨Machine.invariant (machine browser) start Valid valid (step_valid browser) earlier, rfl⟩

theorem dialog_shown (token : Option String) (hash route : String) (turns : List (Turn ν))
    (keeps : ∀ occurrence ∈ (machine browser).trace (loaded token hash route) turns,
      KeepsVm browser occurrence.before occurrence.input)
    (isOpen : ((machine browser).run (loaded token hash route) turns).vmConfirm.isSome = true) :
    Machine.latched opened ((machine browser).trace (loaded token hash route) turns) =
      ((machine browser).run (loaded token hash route) turns).shown := by
  have valid : (loaded token hash route : Page ν).Valid := fun vm isSelected => by cases isSelected
  apply Machine.latched_shown (machine browser) opened shown (fun page => page.vmConfirm.isSome = true)
  · intro isOpen
    cases isOpen
  · intro occurrence member vm opening
    obtain ⟨_, after⟩ := occurrence_before browser _ valid turns occurrence member
    obtain ⟨sameVm, sameObjects, wasShown⟩ := opening_shown browser occurrence.before occurrence.input vm opening
    rw [after, ← wasShown, shown, shown, selected, selected, sameVm, sameObjects]
  · intro occurrence member opening isOpen
    obtain ⟨valid, after⟩ := occurrence_before browser _ valid turns occurrence member
    have selects := step_selects browser occurrence.before valid occurrence.input opening
    rw [after] at isOpen ⊢
    have before := selects.dialog isOpen
    refine ⟨before, ?_⟩
    rw [selects.shown]
    cases brought : occurrence.before.brings browser occurrence.input with
    | none => rfl
    | some vm => exact (keeps occurrence member before vm brought).symm
  · exact isOpen

theorem confirmed_as_opened (token : Option String) (hash route : String) (turns : List (Turn ν))
    (keeps : ∀ occurrence ∈ (machine browser).trace (loaded token hash route) turns,
      KeepsVm browser occurrence.before occurrence.input) :
    ConfirmsOpened browser (loaded token hash route) turns := by
  intro earlier later occurrence split confirming request sent
  obtain ⟨before, input, after, _, earlierEq, taken, _⟩ := Machine.trace_split (machine browser) _ turns earlier later
    occurrence split
  subst taken
  have isConfirm : input = .confirmVmAction := confirming
  subst isConfirm
  let page := (machine browser).run (loaded token hash route) before
  have isSent : request ∈ (page.confirmVmAction browser).2 := sent
  have keepsBefore : ∀ occurrence ∈ (machine browser).trace (loaded token hash route) before,
      KeepsVm browser occurrence.before occurrence.input := by
    intro occurrence member
    exact keeps occurrence (split ▸ List.mem_append_left _ (earlierEq ▸ member))
  unfold confirmVmAction at isSent
  split at isSent
  · rename_i confirm vm dialog selected
    have shown := dialog_shown browser token hash route before keepsBefore (by rw [dialog]; rfl)
    have isShown : page.shown = some vm.toVmPlace := congrArg (Option.map VmObject.toVmPlace) selected
    exact ⟨vm.toVmPlace, confirm, by rw [earlierEq, shown, isShown], dialog, List.mem_singleton.mp isSent⟩
  · cases isSent

-- What a turn brings to the selection is what a confirmation acts on right after it.
theorem brought_confirmed (page : Page ν) (valid : page.Valid) (turn : Turn ν) (opening : page.opened turn = none)
    (vm : VmPlace ν) (brought : page.brings browser turn = some vm) (confirm : VmConfirm ν)
    (dialog : (page.step browser turn).1.vmConfirm = some confirm) :
    ((page.step browser turn).1.confirmVmAction browser).2 =
      [⟨"POST", vmActionPath browser vm confirm.action, confirm.body⟩] := by
  have isShown := (step_selects browser page valid turn opening).shown
  rw [brought, Option.some_or, shown] at isShown
  obtain ⟨object, selected, place⟩ := Option.map_eq_some_iff.mp isShown
  rw [confirmVmAction, dialog, selected, ← place]

end Dialog

section Runs

def plainBrowser : Browser Nat :=
  { number := fun text => text.toList.foldl (fun value digit => 10 * value + (digit.toNat - 48)) 0
    text := toString
    hash := id }

def requested (action : String) : List (Turn Nat) :=
  [.loads, .resumes 0 .answered, .resumes 0 (.rows [⟨⟨"c1", "n1", 100⟩, "web"⟩, ⟨⟨"c1", "n2", 200⟩, "db"⟩]), .openVm 0,
    .hashchange, .requestVmAction action none]

def signedIn : Page Nat := loaded (some "token") "#/vms" "vms"

theorem start_as_opened : ConfirmsOpened plainBrowser signedIn
    (requested "start" ++ [.resumes 0 .answered, .resumes 0 (.row ⟨⟨"c1", "n1", 100⟩, "web"⟩), .confirmVmAction]) :=
  confirmed_as_opened plainBrowser (some "token") "#/vms" "vms" _ (by decide +kernel)

-- Back in the history to the page of another VM.
def elsewhere : List (Turn Nat) :=
  requested "delete" ++ [.navigate "#/vm/c1/n2/200", .hashchange, .typesVmid "100"]

theorem other_vm_deleted :
    ((machine plainBrowser).run signedIn elsewhere).dialogShown = true ∧
      ((machine plainBrowser).run signedIn elsewhere).confirmEnabled plainBrowser = true ∧
      ((machine plainBrowser).run signedIn elsewhere).vmConfirm.map VmConfirm.vmid = some 100 ∧
      (((machine plainBrowser).run signedIn elsewhere).confirmVmAction plainBrowser).2.map ApiRequest.path =
        ["/api/v1/vms/c1/n2/200/delete"] ∧
      ¬ ConfirmsOpened plainBrowser signedIn (elsewhere ++ [.confirmVmAction]) := by
  have path : (((machine plainBrowser).run signedIn elsewhere).confirmVmAction plainBrowser).2.map ApiRequest.path =
      ["/api/v1/vms/c1/n2/200/delete"] := by decide +kernel
  refine ⟨by decide +kernel, by decide +kernel, by decide +kernel, path, ?_⟩
  intro claimed
  have split := Machine.trace_snoc (machine plainBrowser) signedIn elsewhere .confirmVmAction
  obtain ⟨request, sent, atPath⟩ := List.mem_map.mp (path ▸ List.mem_singleton_self "/api/v1/vms/c1/n2/200/delete")
  obtain ⟨vm, confirm, latched, dialog, same⟩ := claimed _ _ _ split rfl request sent
  have isOpened : Machine.latched opened ((machine plainBrowser).trace signedIn elsewhere) = some ⟨"c1", "n1", 100⟩ := by
    decide +kernel
  have action : ((machine plainBrowser).run signedIn elsewhere).vmConfirm.map VmConfirm.action = some "delete" := by
    decide +kernel
  rw [isOpened] at latched
  cases latched
  have actionEq : some confirm.action = some "delete" := by
    rw [← action]
    exact congrArg (Option.map VmConfirm.action) dialog.symm
  have other : vmActionPath plainBrowser ⟨"c1", "n1", 100⟩ "delete" ≠ "/api/v1/vms/c1/n2/200/delete" := by decide +kernel
  rw [same, Option.some.inj actionEq] at atPath
  exact other atPath

end Runs

end Moxui.Ui.Page
