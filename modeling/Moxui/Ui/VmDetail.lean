import Moxui.Ui.VmAction

set_option autoImplicit false

namespace Moxui.Ui

open Moxui.Api (Json)

-- What tells VMs apart, and where the tasks of one run.
def VmPlace.vm {ν : Type} (place : VmPlace ν) : String × ν :=
  (place.cluster, place.vmid)

def VmPlace.host {ν : Type} (place : VmPlace ν) : String × String :=
  (place.cluster, place.node)

namespace VmDetail

-- The configuration that came of a request, and the VM that the request named.
structure VmConfig (ν : Type) where
  asked : VmPlace ν
  config : Json

structure VmTask where
  upid : String
  status : String

-- The action that is tracked, and the VM that its request named.
structure ActionPending (ν : Type) where
  upid : String
  action : String
  startedOn : VmPlace ν

inductive Call (ν : Type) where
  | vmConfig (asked : VmPlace ν)
  | vmConfigBody (asked : VmPlace ν)
  | vmTask
  | vmTaskBody
  | vmAction (action : String) (startedOn : VmPlace ν)
  | vmActionBody (action : String) (startedOn : VmPlace ν)
  | migrate (startedOn : VmPlace ν)
  | migrateBody (startedOn : VmPlace ν)

inductive Answer where
  | failed
  | unauthorized
  | answered
  | config (config : Json)
  | task (task : VmTask)
  | upid (upid : String)

-- The page with what it keeps of the selected VM. Actions wait in `calls`, and all else of the page in its own list.
structure Detail (ν : Type) where
  page : Page ν
  vmDetailTab : String
  vmConfig : Option (VmConfig ν)
  vmTasks : List VmTask
  vmActionPending : Option (ActionPending ν)
  calls : List (Call ν)

inductive Event (ν : Type) where
  | page (turn : Turn ν)
  | switchVmTab (tab : String)
  | confirmMigrate (target : String) (online : Bool)
  | hears (index : Nat) (answer : Answer)

namespace Detail

section Functions

variable {ν : Type} (browser : Browser ν) (encodeURIComponent : String → String) (detail : Detail ν)

def loaded (token : Option String) (hash route : String) : Detail ν :=
  { page := Page.loaded token hash route, vmDetailTab := "overview", vmConfig := none, vmTasks := [], vmActionPending := none
    calls := [] }

def wait (call : Call ν) : Detail ν :=
  { detail with calls := detail.calls ++ [call] }

def onPage (after : Page ν × List ApiRequest) : Detail ν × List ApiRequest :=
  ({ detail with page := after.1 }, after.2)

def fetchVmConfig : Detail ν × List ApiRequest :=
  match detail.page.shown with
  | none => (detail, [])
  | some vm =>
      if vm.node = "" then (detail, [])
      else (detail.wait (.vmConfig vm), [⟨"GET", Page.vmActionPath browser vm "config", none⟩])

def polledOn : Option (String × String) :=
  detail.page.shown.map VmPlace.host

def fetchVmTask : Detail ν × List ApiRequest :=
  match detail.vmActionPending, detail.polledOn with
  | some pending, some (cluster, node) =>
      let path := "/api/v1/tasks/" ++ cluster ++ "/" ++ node ++ "/" ++ encodeURIComponent pending.upid
      (detail.wait .vmTask, [⟨"GET", path, none⟩])
  | _, _ => (detail, [])

def switchVmTab (tab : String) : Detail ν × List ApiRequest :=
  let switched := { detail with vmDetailTab := tab }
  let (configured, asking) :=
    if tab = "config" ∧ switched.vmConfig.isNone then switched.fetchVmConfig browser else (switched, [])
  let (polling, polls) := if tab = "tasks" then configured.fetchVmTask encodeURIComponent else (configured, [])
  (polling, asking ++ polls)

def confirmVmAction : Detail ν × List ApiRequest :=
  match detail.page.vmConfirm, detail.page.shown with
  | some confirm, some vm =>
      (detail.wait (.vmAction confirm.action vm), [⟨"POST", Page.vmActionPath browser vm confirm.action, confirm.body⟩])
  | _, _ => (detail, [])

def confirmMigrate (target : String) (online : Bool) : Detail ν × List ApiRequest :=
  match detail.page.shown with
  | none => (detail, [])
  | some vm =>
      if target = "" then (detail, [])
      else
        let body := Json.obj [("target", .str target), ("online", .bool online)]
        (detail.wait (.migrate vm), [⟨"POST", Page.vmActionPath browser vm "migrate", some body⟩])

-- A task takes the place of the one with its number, or comes first.
def placeTask (task : VmTask) : List VmTask → Option (List VmTask)
  | [] => none
  | t :: rest => if t.upid = task.upid then some (task :: rest) else (placeTask task rest).map (t :: ·)

def taskAnswered (task : VmTask) : Detail ν :=
  { detail with
    vmTasks := (placeTask task detail.vmTasks).getD (task :: detail.vmTasks)
    vmActionPending := if task.status ≠ "running" then none else detail.vmActionPending }

def track (upid action : String) (startedOn : VmPlace ν) : Detail ν :=
  { detail with vmActionPending := some ⟨upid, action, startedOn⟩ }

def actionAnswered (action upid : String) (startedOn : VmPlace ν) : Detail ν × List ApiRequest :=
  let (closed, details) := detail.onPage (detail.page.confirmed browser action upid)
  if upid = "" then (closed, details)
  else
    let (polling, polls) := (closed.track upid action startedOn).fetchVmTask encodeURIComponent
    (polling, details ++ polls)

def migrateAnswered (upid : String) (startedOn : VmPlace ν) : Detail ν × List ApiRequest :=
  if upid = "" then (detail, [])
  else
    let (fetching, details) := detail.onPage (detail.page.fetchVmDetail browser)
    let (polling, polls) := (fetching.track upid "migrate" startedOn).fetchVmTask encodeURIComponent
    (polling, details ++ polls)

-- What a function does not expect is an error, after which it ends.
def resume (call : Call ν) (answer : Answer) : Detail ν × List ApiRequest :=
  match call, answer with
  | .vmConfig asked, .answered => (detail.wait (.vmConfigBody asked), [])
  | .vmConfigBody asked, .config config => ({ detail with vmConfig := some ⟨asked, config⟩ }, [])
  | .vmConfig _, .unauthorized => ({ detail with vmConfig := none, page := detail.page.logout }, [])
  | .vmConfig _, _ => ({ detail with vmConfig := none }, [])
  | .vmConfigBody _, _ => ({ detail with vmConfig := none }, [])
  | .vmTask, .answered => (detail.wait .vmTaskBody, [])
  | .vmTaskBody, .task task => (detail.taskAnswered task, [])
  | .vmAction action startedOn, .answered => (detail.wait (.vmActionBody action startedOn), [])
  | .vmActionBody action startedOn, .upid upid => detail.actionAnswered browser encodeURIComponent action upid startedOn
  | .migrate startedOn, .answered => (detail.wait (.migrateBody startedOn), [])
  | .migrateBody startedOn, .upid upid => detail.migrateAnswered browser encodeURIComponent upid startedOn
  | .vmTask, .unauthorized => ({ detail with page := detail.page.logout }, [])
  | .vmAction _ _, .unauthorized => ({ detail with page := detail.page.logout }, [])
  | .migrate _, .unauthorized => ({ detail with page := detail.page.logout }, [])
  | _, _ => (detail, [])

variable [DecidableEq ν]

-- The later `openVm` of the two in the source is the one of the page, and it only selects.
def step : Event ν → Detail ν × List ApiRequest
  | .page .confirmVmAction => detail.confirmVmAction browser
  | .page turn => detail.onPage (detail.page.step browser turn)
  | .switchVmTab tab => detail.switchVmTab browser encodeURIComponent tab
  | .confirmMigrate target online => detail.confirmMigrate browser target online
  | .hears index answer =>
      match detail.calls[index]? with
      | none => (detail, [])
      | some call => { detail with calls := detail.calls.eraseIdx index }.resume browser encodeURIComponent call answer

def machine : Machine (Detail ν) (Event ν) (List ApiRequest) :=
  { step := fun detail event => detail.step browser encodeURIComponent event }

end Functions

end Detail

section Naming

variable {ν : Type} [DecidableEq ν] (browser : Browser ν) (page : Page ν)

-- The VM that a hash names, whether or not its node is known.
def routeNames : Option (String × ν) :=
  if page.token.isSome ∧ page.route = "vm-detail" then
    (matchVm page.hash).map fun found => (found.1, browser.number found.2.2)
  else none

def names : Turn ν → Option (String × ν)
  | .openVm vm => page.objects[vm]?.map fun opened => opened.toVmPlace.vm
  | .loads => routeNames browser page
  | .hashchange => routeNames browser { page with route := parseRoute page.hash }
  | _ => none

-- The VM in the answer to a detail poll, when the object that takes it is the selected one.
def answers : Turn ν → Option (VmPlace ν)
  | .resumes index heard => (page.waiting[index]?).bind fun suspended => page.polled suspended heard
  | _ => none

end Naming

section Goal

variable {ν : Type} [DecidableEq ν] (browser : Browser ν) (encodeURIComponent : String → String)

def opens (detail : Detail ν) : Event ν → Option (String × ν)
  | .page turn => names browser detail.page turn
  | _ => none

structure Belongs (opened : Option (String × ν)) (detail : Detail ν) : Prop where
  selected : detail.page.shown.map VmPlace.vm = opened
  config : ∀ config, detail.vmConfig = some config → detail.page.shown.map VmPlace.vm = some config.asked.vm
  task : ∀ pending, detail.vmActionPending = some pending → detail.polledOn = some pending.startedOn.host

def AlwaysBelongs (start : Detail ν) (events : List (Event ν)) : Prop :=
  ∀ earlier, earlier <+: events →
    Belongs (Machine.latched (opens browser) ((Detail.machine browser encodeURIComponent).trace start earlier))
      ((Detail.machine browser encodeURIComponent).run start earlier)

structure Fits (detail : Detail ν) (vm : VmPlace ν) : Prop where
  config : ∀ config, detail.vmConfig = some config → config.asked.vm = vm.vm
  task : ∀ pending, detail.vmActionPending = some pending → pending.startedOn.host = vm.host

structure SteadyTurn (detail : Detail ν) (turn : Turn ν) : Prop where
  fits : ∀ vm, detail.page.brings browser turn = some vm → Fits detail vm
  known : ∀ vm, names browser detail.page turn = some vm → detail.page.brings browser turn = none →
    detail.page.shown.map VmPlace.vm = some vm
  answered : ∀ row, answers detail.page turn = some row → detail.page.shown.map VmPlace.vm = some row.vm

def SteadyAnswer (detail : Detail ν) : Call ν → Answer → Prop
  | .vmConfigBody asked, .config _ => detail.page.shown.map VmPlace.vm = some asked.vm
  | .vmActionBody _ startedOn, .upid upid => upid ≠ "" → detail.polledOn = some startedOn.host
  | .migrateBody startedOn, .upid upid => upid ≠ "" → detail.polledOn = some startedOn.host
  | _, _ => True

def Steady (detail : Detail ν) : Event ν → Prop
  | .page turn => SteadyTurn browser detail turn
  | .hears index answer => ∀ call, detail.calls[index]? = some call → SteadyAnswer detail call answer
  | _ => True

end Goal

section Turns

variable {ν : Type} [DecidableEq ν] (browser : Browser ν)

theorem step_shown (page : Page ν) (valid : page.Valid) (turn : Turn ν) :
    (page.step browser turn).1.shown = (page.brings browser turn).or page.shown := by
  cases opening : page.opened turn with
  | none => exact (Page.step_selects browser page valid turn opening).shown
  | some vm =>
      obtain ⟨sameVm, sameObjects, _⟩ := Page.opening_shown browser page turn vm opening
      have brought : page.brings browser turn = none := by
        cases turn with
        | requestVmAction action body => rfl
        | _ => cases opening
      rw [brought, Option.none_or, Page.shown, Page.shown, Page.selected, Page.selected, sameVm, sameObjects]

theorem cached_place (page : Page ν) (cluster : String) (vmid : ν) (cached : VmObject ν)
    (found : page.cached cluster vmid = some cached) : cached.cluster = cluster ∧ cached.vmid = vmid := by
  unfold Page.cached at found
  simpa using List.find?_some found

theorem routed_vm (page : Page ν) (sel : VmPlace ν) : (page.routed sel).vm = sel.vm := by
  rw [Page.routed]
  split
  · rfl
  · next cached found =>
      obtain ⟨sameCluster, sameVmid⟩ := cached_place page _ _ cached found
      rw [VmPlace.vm, VmPlace.vm, sameCluster, sameVmid]

theorem parsed_vm (page : Page ν) (sel : VmPlace ν) (parsed : page.parseVmDetail browser = some sel) :
    (matchVm page.hash).map (fun found => (found.1, browser.number found.2.2)) = some sel.vm := by
  rw [Page.parseVmDetail] at parsed
  cases matched : matchVm page.hash with
  | none =>
      rw [matched] at parsed
      exact nomatch parsed
  | some found =>
      obtain ⟨cluster, inHash, decimal⟩ := found
      rw [matched] at parsed
      simp only at parsed
      split at parsed
      · exact nomatch parsed
      · next node _ =>
          by_cases empty : node = ""
          · rw [if_pos empty] at parsed
            exact nomatch parsed
          · rw [if_neg empty, Option.some_inj] at parsed
            rw [← parsed]
            rfl

theorem route_brings (page : Page ν) (vm : VmPlace ν) (brought : page.routeVm browser = some vm) :
    routeNames browser page = some vm.vm := by
  rw [Page.routeVm] at brought
  rw [routeNames]
  by_cases shows : page.token.isSome ∧ page.route = "vm-detail"
  · rw [if_pos shows] at brought ⊢
    obtain ⟨sel, parsed, rfl⟩ := Option.map_eq_some_iff.mp brought
    rw [parsed_vm browser page sel parsed, routed_vm]
  · rw [if_neg shows] at brought
    exact nomatch brought

theorem brings_named (page : Page ν) (turn : Turn ν) (vm : VmPlace ν) (brought : page.brings browser turn = some vm) :
    (names browser page turn = some vm.vm ∧ answers page turn = none) ∨
      (names browser page turn = none ∧ answers page turn = some vm) := by
  cases turn with
  | loads => exact Or.inl ⟨route_brings browser page vm brought, rfl⟩
  | hashchange => exact Or.inl ⟨route_brings browser _ vm brought, rfl⟩
  | openVm vm' =>
      obtain ⟨object, found, rfl⟩ := Option.map_eq_some_iff.mp brought
      have named : names browser page (.openVm vm') = some object.toVmPlace.vm := by
        rw [names, found]
        rfl
      exact Or.inl ⟨named, rfl⟩
  | resumes index heard => exact Or.inr ⟨rfl, brought⟩
  | _ => exact nomatch brought

theorem answers_brought (page : Page ν) (turn : Turn ν) (unbrought : page.brings browser turn = none) :
    answers page turn = none := by
  cases turn with
  | resumes index heard => exact unbrought
  | _ => rfl

end Turns

section Shrinking

variable {ν : Type}

structure Shrinks (detail after : Detail ν) : Prop where
  page : Page.Leaves detail.page after.page
  config : after.vmConfig = detail.vmConfig ∨ after.vmConfig = none
  task : after.vmActionPending = detail.vmActionPending ∨ after.vmActionPending = none

theorem Shrinks.shown {detail after : Detail ν} (shrinks : Shrinks detail after) : after.page.shown = detail.page.shown :=
  shrinks.page.shown

theorem Shrinks.belongs {detail after : Detail ν} (shrinks : Shrinks detail after) (opened : Option (String × ν))
    (belongs : Belongs opened detail) : Belongs opened after := by
  refine ⟨?_, ?_, ?_⟩
  · rw [shrinks.shown]
    exact belongs.selected
  · intro config kept
    rw [shrinks.shown]
    rcases shrinks.config with same | gone
    · exact belongs.config config (same ▸ kept)
    · rw [gone] at kept
      exact nomatch kept
  · intro pending kept
    rw [Detail.polledOn, shrinks.shown]
    rcases shrinks.task with same | gone
    · exact belongs.task pending (same ▸ kept)
    · rw [gone] at kept
      exact nomatch kept

structure Same (detail after : Detail ν) : Prop where
  page : Page.Leaves detail.page after.page
  config : after.vmConfig = detail.vmConfig
  task : after.vmActionPending = detail.vmActionPending

theorem Same.trans {detail between after : Detail ν} (first : Same detail between) (second : Same between after) :
    Same detail after :=
  ⟨first.page.trans second.page, second.config.trans first.config, second.task.trans first.task⟩

theorem Same.shrinks {detail after : Detail ν} (same : Same detail after) : Shrinks detail after :=
  ⟨same.page, Or.inl same.config, Or.inl same.task⟩

theorem Same.belongs_iff {detail after : Detail ν} (same : Same detail after) (opened : Option (String × ν)) :
    Belongs opened after ↔ Belongs opened detail := by
  constructor
  · intro belongs
    refine ⟨?_, ?_, ?_⟩
    · rw [← same.page.shown]
      exact belongs.selected
    · rw [← same.page.shown, ← same.config]
      exact belongs.config
    · rw [Detail.polledOn, ← same.page.shown, ← same.task]
      exact belongs.task
  · exact same.shrinks.belongs opened

theorem wait_same (detail : Detail ν) (call : Call ν) : Same detail (detail.wait call) :=
  ⟨⟨rfl, rfl, id⟩, rfl, rfl⟩

theorem logout_leaves (page : Page ν) : Page.Leaves page page.logout :=
  ⟨rfl, rfl, id⟩

theorem page_same (detail : Detail ν) (after : Page ν × List ApiRequest) (leaves : Page.Leaves detail.page after.1) :
    Same detail (detail.onPage after).1 :=
  ⟨leaves, rfl, rfl⟩

theorem task_same (encodeURIComponent : String → String) (detail : Detail ν) :
    Same detail (detail.fetchVmTask encodeURIComponent).1 := by
  rw [Detail.fetchVmTask]
  split
  · exact wait_same detail _
  · exact ⟨⟨rfl, rfl, id⟩, rfl, rfl⟩

theorem config_same (browser : Browser ν) (detail : Detail ν) : Same detail (detail.fetchVmConfig browser).1 := by
  rw [Detail.fetchVmConfig]
  split
  · exact ⟨⟨rfl, rfl, id⟩, rfl, rfl⟩
  · split
    · exact ⟨⟨rfl, rfl, id⟩, rfl, rfl⟩
    · exact wait_same detail _

theorem tab_same (browser : Browser ν) (encodeURIComponent : String → String) (detail : Detail ν) (tab : String) :
    Same detail (detail.switchVmTab browser encodeURIComponent tab).1 := by
  have switched : Same detail { detail with vmDetailTab := tab } := ⟨⟨rfl, rfl, id⟩, rfl, rfl⟩
  unfold Detail.switchVmTab
  by_cases config : tab = "config"
  · have others : ¬ tab = "tasks" := by
      rw [config]
      decide
    simp only [if_neg others]
    split
    · exact switched.trans (config_same browser _)
    · exact switched
  · have unasked : ¬ (tab = "config" ∧ detail.vmConfig.isNone = true) := fun both => config both.1
    simp only [if_neg unasked]
    split
    · exact switched.trans (task_same encodeURIComponent _)
    · exact switched

theorem action_same (browser : Browser ν) (detail : Detail ν) : Same detail (detail.confirmVmAction browser).1 := by
  rw [Detail.confirmVmAction]
  split
  · exact wait_same detail _
  · exact ⟨⟨rfl, rfl, id⟩, rfl, rfl⟩

theorem migrate_same (browser : Browser ν) (detail : Detail ν) (target : String) (online : Bool) :
    Same detail (detail.confirmMigrate browser target online).1 := by
  rw [Detail.confirmMigrate]
  split
  · exact ⟨⟨rfl, rfl, id⟩, rfl, rfl⟩
  · split
    · exact ⟨⟨rfl, rfl, id⟩, rfl, rfl⟩
    · exact wait_same detail _

theorem task_answered_shrinks (detail : Detail ν) (task : VmTask) : Shrinks detail (detail.taskAnswered task) := by
  refine ⟨⟨rfl, rfl, id⟩, Or.inl rfl, ?_⟩
  rw [Detail.taskAnswered]
  by_cases ended : task.status ≠ "running"
  · exact Or.inr (if_pos ended)
  · exact Or.inl (if_neg ended)

theorem config_belongs_iff (detail : Detail ν) (opened : Option (String × ν)) (belongs : Belongs opened detail)
    (config : VmConfig ν) :
    Belongs opened { detail with vmConfig := some config } ↔ detail.page.shown.map VmPlace.vm = some config.asked.vm := by
  constructor
  · intro after
    exact after.config config rfl
  · intro fits
    refine ⟨belongs.selected, ?_, belongs.task⟩
    intro other kept
    rw [Option.some_inj] at kept
    rw [← kept]
    exact fits

theorem track_belongs_iff (encodeURIComponent : String → String) (detail after : Detail ν) (same : Same detail after)
    (opened : Option (String × ν)) (belongs : Belongs opened detail) (upid action : String) (startedOn : VmPlace ν) :
    Belongs opened ((after.track upid action startedOn).fetchVmTask encodeURIComponent).1 ↔
      detail.polledOn = some startedOn.host := by
  have sameHost : after.polledOn = detail.polledOn := by rw [Detail.polledOn, Detail.polledOn, same.page.shown]
  rw [(task_same encodeURIComponent _).belongs_iff, ← sameHost]
  constructor
  · intro tracked
    exact tracked.task _ rfl
  · intro fits
    have kept := same.shrinks.belongs opened belongs
    refine ⟨kept.selected, kept.config, ?_⟩
    intro pending isTracked
    rw [Detail.track, Option.some_inj] at isTracked
    rw [← isTracked]
    exact fits

theorem resume_cases (browser : Browser ν) (encodeURIComponent : String → String) (detail : Detail ν) (call : Call ν)
    (answer : Answer) :
    (Shrinks detail (detail.resume browser encodeURIComponent call answer).1 ∧ SteadyAnswer detail call answer) ∨
      (∃ config : VmConfig ν, (detail.resume browser encodeURIComponent call answer).1 = { detail with vmConfig := some config } ∧
        (SteadyAnswer detail call answer ↔ detail.page.shown.map VmPlace.vm = some config.asked.vm)) ∨
      ∃ between upid action startedOn, Same detail between ∧
        (detail.resume browser encodeURIComponent call answer).1 =
          ((between.track upid action startedOn).fetchVmTask encodeURIComponent).1 ∧
        (SteadyAnswer detail call answer ↔ detail.polledOn = some startedOn.host) := by
  have unchanged : Shrinks detail detail := ⟨⟨rfl, rfl, id⟩, Or.inl rfl, Or.inl rfl⟩
  have unset : Shrinks detail { detail with vmConfig := none } := ⟨⟨rfl, rfl, id⟩, Or.inr rfl, Or.inl rfl⟩
  have signedOut : Shrinks detail { detail with page := detail.page.logout } :=
    ⟨logout_leaves detail.page, Or.inl rfl, Or.inl rfl⟩
  cases call with
  | vmConfig asked =>
      cases answer with
      | answered => exact Or.inl ⟨(wait_same detail _).shrinks, trivial⟩
      | unauthorized => exact Or.inl ⟨⟨logout_leaves detail.page, Or.inr rfl, Or.inl rfl⟩, trivial⟩
      | _ => exact Or.inl ⟨unset, trivial⟩
  | vmConfigBody asked =>
      cases answer with
      | config config => exact Or.inr (Or.inl ⟨⟨asked, config⟩, rfl, Iff.rfl⟩)
      | _ => exact Or.inl ⟨unset, trivial⟩
  | vmTask =>
      cases answer with
      | answered => exact Or.inl ⟨(wait_same detail _).shrinks, trivial⟩
      | unauthorized => exact Or.inl ⟨signedOut, trivial⟩
      | _ => exact Or.inl ⟨unchanged, trivial⟩
  | vmTaskBody =>
      cases answer with
      | task task => exact Or.inl ⟨task_answered_shrinks detail task, trivial⟩
      | _ => exact Or.inl ⟨unchanged, trivial⟩
  | vmAction action startedOn =>
      cases answer with
      | answered => exact Or.inl ⟨(wait_same detail _).shrinks, trivial⟩
      | unauthorized => exact Or.inl ⟨signedOut, trivial⟩
      | _ => exact Or.inl ⟨unchanged, trivial⟩
  | vmActionBody action startedOn =>
      cases answer with
      | upid upid =>
          have closed := page_same detail _ (Page.confirmed_leaves browser detail.page action upid)
          simp only [Detail.resume, Detail.actionAnswered, SteadyAnswer]
          by_cases unnumbered : upid = ""
          · simp only [if_pos unnumbered]
            exact Or.inl ⟨closed.shrinks, fun numbered => absurd unnumbered numbered⟩
          · simp only [if_neg unnumbered]
            exact Or.inr (Or.inr ⟨_, upid, action, startedOn, closed, rfl, forall_prop_of_true unnumbered⟩)
      | _ => exact Or.inl ⟨unchanged, trivial⟩
  | migrate startedOn =>
      cases answer with
      | answered => exact Or.inl ⟨(wait_same detail _).shrinks, trivial⟩
      | unauthorized => exact Or.inl ⟨signedOut, trivial⟩
      | _ => exact Or.inl ⟨unchanged, trivial⟩
  | migrateBody startedOn =>
      cases answer with
      | upid upid =>
          have fetching := page_same detail _ (Page.fetch_vm_detail_leaves browser detail.page)
          simp only [Detail.resume, Detail.migrateAnswered, SteadyAnswer]
          by_cases unnumbered : upid = ""
          · simp only [if_pos unnumbered]
            exact Or.inl ⟨unchanged, fun numbered => absurd unnumbered numbered⟩
          · simp only [if_neg unnumbered]
            exact Or.inr (Or.inr ⟨_, upid, "migrate", startedOn, fetching, rfl, forall_prop_of_true unnumbered⟩)
      | _ => exact Or.inl ⟨unchanged, trivial⟩

theorem resume_belongs_iff (browser : Browser ν) (encodeURIComponent : String → String) (detail : Detail ν)
    (opened : Option (String × ν)) (belongs : Belongs opened detail) (call : Call ν) (answer : Answer) :
    Belongs opened (detail.resume browser encodeURIComponent call answer).1 ↔ SteadyAnswer detail call answer := by
  rcases resume_cases browser encodeURIComponent detail call answer with
    ⟨shrinks, steady⟩ | ⟨config, after, steady⟩ | ⟨between, upid, action, startedOn, same, after, steady⟩
  · exact iff_of_true (shrinks.belongs opened belongs) steady
  · rw [after, steady]
    exact config_belongs_iff detail opened belongs config
  · rw [after, steady]
    exact track_belongs_iff encodeURIComponent detail between same opened belongs upid action startedOn

theorem resume_leaves (browser : Browser ν) (encodeURIComponent : String → String) (detail : Detail ν) (call : Call ν)
    (answer : Answer) : Page.Leaves detail.page (detail.resume browser encodeURIComponent call answer).1.page := by
  rcases resume_cases browser encodeURIComponent detail call answer with
    ⟨shrinks, _⟩ | ⟨config, after, _⟩ | ⟨between, upid, action, startedOn, same, after, _⟩
  · exact shrinks.page
  · rw [after]
    exact ⟨rfl, rfl, id⟩
  · rw [after]
    exact same.page.trans (task_same encodeURIComponent (between.track upid action startedOn)).page

end Shrinking

section Steps

variable {ν : Type} [DecidableEq ν] (browser : Browser ν) (encodeURIComponent : String → String)

theorem turn_steady (detail : Detail ν) (valid : detail.page.Valid) (opened : Option (String × ν))
    (belongs : Belongs opened detail) (turn : Turn ν)
    (after : Belongs ((names browser detail.page turn).or opened) (detail.onPage (detail.page.step browser turn)).1) :
    SteadyTurn browser detail turn := by
  have shown : (detail.onPage (detail.page.step browser turn)).1.page.shown =
      (detail.page.brings browser turn).or detail.page.shown := step_shown browser detail.page valid turn
  have selected := after.selected
  rw [shown] at selected
  refine ⟨?_, ?_, ?_⟩
  · intro vm brought
    rw [brought, Option.some_or] at shown
    refine ⟨?_, ?_⟩
    · intro config kept
      have fits := after.config config kept
      rw [shown] at fits
      exact (Option.some_inj.mp fits).symm
    · intro pending kept
      have fits := after.task pending kept
      rw [Detail.polledOn, shown] at fits
      exact (Option.some_inj.mp fits).symm
  · intro vm named unbrought
    rwa [unbrought, Option.none_or, named, Option.some_or] at selected
  · intro row answered
    cases brought : detail.page.brings browser turn with
    | none =>
        have unanswered := answers_brought browser detail.page turn brought
        exact absurd (answered.symm.trans unanswered) (Option.some_ne_none row)
    | some vm =>
        rcases brings_named browser detail.page turn vm brought with ⟨_, unanswered⟩ | ⟨unnamed, isAnswer⟩
        · exact absurd (answered.symm.trans unanswered) (Option.some_ne_none row)
        · have same : vm = row := Option.some_inj.mp (isAnswer.symm.trans answered)
          rw [brought, Option.some_or, unnamed, Option.none_or, ← belongs.selected, same] at selected
          exact selected.symm

theorem turn_belongs (detail : Detail ν) (valid : detail.page.Valid) (opened : Option (String × ν))
    (belongs : Belongs opened detail) (turn : Turn ν) (steady : SteadyTurn browser detail turn) :
    Belongs ((names browser detail.page turn).or opened) (detail.onPage (detail.page.step browser turn)).1 := by
  have shown : (detail.onPage (detail.page.step browser turn)).1.page.shown =
      (detail.page.brings browser turn).or detail.page.shown := step_shown browser detail.page valid turn
  cases brought : detail.page.brings browser turn with
  | none =>
      rw [brought, Option.none_or] at shown
      refine ⟨?_, ?_, ?_⟩
      · rw [shown]
        cases named : names browser detail.page turn with
        | none => exact belongs.selected
        | some vm => exact steady.known vm named brought
      · rw [shown]
        exact belongs.config
      · rw [Detail.polledOn, shown]
        exact belongs.task
  | some vm =>
      rw [brought, Option.some_or] at shown
      have fits := steady.fits vm brought
      refine ⟨?_, ?_, ?_⟩
      · rw [shown]
        rcases brings_named browser detail.page turn vm brought with ⟨named, _⟩ | ⟨unnamed, isAnswer⟩
        · rw [named, Option.some_or]
          rfl
        · rw [unnamed, Option.none_or, ← belongs.selected, steady.answered vm isAnswer]
          rfl
      · intro config kept
        rw [shown, fits.config config kept]
        rfl
      · intro pending kept
        rw [Detail.polledOn, shown, fits.task pending kept]
        rfl

theorem step_valid (detail : Detail ν) (valid : detail.page.Valid) (event : Event ν) :
    (detail.step browser encodeURIComponent event).1.page.Valid := by
  cases event with
  | page turn =>
      have turned : ((detail.page.step browser turn).1).Valid := Page.step_valid browser detail.page turn valid
      cases turn with
      | confirmVmAction => exact (action_same browser detail).page.valid valid
      | _ => exact turned
  | switchVmTab tab => exact (tab_same browser encodeURIComponent detail tab).page.valid valid
  | confirmMigrate target online => exact (migrate_same browser detail target online).page.valid valid
  | hears index answer =>
      cases found : detail.calls[index]? with
      | none =>
          simp only [Detail.step, found]
          exact valid
      | some call =>
          simp only [Detail.step, found]
          exact (resume_leaves browser encodeURIComponent { detail with calls := detail.calls.eraseIdx index } call answer).valid
            valid

theorem step_belongs_iff (detail : Detail ν) (valid : detail.page.Valid) (opened : Option (String × ν))
    (belongs : Belongs opened detail) (event : Event ν) :
    Belongs ((opens browser detail event).or opened) (detail.step browser encodeURIComponent event).1 ↔
      Steady browser detail event := by
  cases event with
  | page turn =>
      have turns : Belongs ((names browser detail.page turn).or opened) (detail.onPage (detail.page.step browser turn)).1 ↔
          SteadyTurn browser detail turn :=
        ⟨turn_steady browser detail valid opened belongs turn, turn_belongs browser detail valid opened belongs turn⟩
      by_cases confirms : turn = .confirmVmAction
      · subst confirms
        exact iff_of_true ((action_same browser detail).shrinks.belongs opened belongs)
          (turns.mp ((page_same detail _ (Page.confirm_leaves browser detail.page)).shrinks.belongs opened belongs))
      · have stepped : detail.step browser encodeURIComponent (.page turn) = detail.onPage (detail.page.step browser turn) := by
          cases turn with
          | confirmVmAction => exact absurd rfl confirms
          | _ => rfl
        rw [stepped]
        exact turns
  | switchVmTab tab =>
      exact iff_true_intro ((tab_same browser encodeURIComponent detail tab).shrinks.belongs opened belongs)
  | confirmMigrate target online =>
      exact iff_true_intro ((migrate_same browser detail target online).shrinks.belongs opened belongs)
  | hears index answer =>
      cases found : detail.calls[index]? with
      | none =>
          simp only [Detail.step, found, Steady, reduceCtorEq, false_implies, implies_true, iff_true]
          exact belongs
      | some call =>
          have taken : Same detail { detail with calls := detail.calls.eraseIdx index } := ⟨⟨rfl, rfl, id⟩, rfl, rfl⟩
          have resumed := resume_belongs_iff browser encodeURIComponent { detail with calls := detail.calls.eraseIdx index }
            opened (taken.shrinks.belongs opened belongs) call answer
          simp only [Detail.step, found, Steady, Option.some_inj, forall_eq']
          exact resumed

-- At every moment of a run what is kept belongs to the VM that was opened last, exactly when every step was steady.
theorem always_belongs_iff (token : Option String) (hash route : String) (events : List (Event ν)) :
    AlwaysBelongs browser encodeURIComponent (Detail.loaded token hash route) events ↔
      ∀ occurrence ∈ (Detail.machine browser encodeURIComponent).trace (Detail.loaded token hash route) events,
        Steady browser occurrence.before occurrence.input := by
  have atStart : (Detail.loaded (ν := ν) token hash route).page.Valid ∧
      Belongs none (Detail.loaded (ν := ν) token hash route) := by
    refine ⟨?_, rfl, ?_, ?_⟩
    · intro _ isSelected
      cases isSelected
    · intro _ kept
      cases kept
    · intro _ kept
      cases kept
  have exactly := Machine.latched_prefixes_iff (Detail.machine browser encodeURIComponent) (opens browser)
    (fun opened detail => detail.page.Valid ∧ Belongs opened detail) (Steady browser)
    (fun opened detail event holds => by
      have valid := step_valid browser encodeURIComponent detail holds.1 event
      have belongs := step_belongs_iff browser encodeURIComponent detail holds.1 opened holds.2 event
      exact ⟨fun after => belongs.mp after.2, fun steady => ⟨valid, belongs.mpr steady⟩⟩)
    (Detail.loaded token hash route) atStart events
  rw [← exactly, AlwaysBelongs]
  refine forall₂_congr fun earlier _ => ?_
  have valid := Machine.invariant (Detail.machine browser encodeURIComponent) (Detail.loaded token hash route)
    (fun detail => detail.page.Valid) atStart.1 (fun detail event holds =>
      step_valid browser encodeURIComponent detail holds event) earlier
  exact ⟨fun belongs => ⟨valid, belongs⟩, And.right⟩

end Steps

section Failing

-- The list has two VMs; the configuration of the first is shown, and then the second is opened.
def configKept : List (Event Nat) :=
  [.page .loads, .page (.resumes 0 .answered),
    .page (.resumes 0 (.rows [⟨⟨"c1", "n1", 100⟩, "web"⟩, ⟨⟨"c1", "n2", 200⟩, "db"⟩])), .page (.openVm 0),
    .switchVmTab "config", .hears 0 .answered, .hears 0 (.config .null), .page (.openVm 1)]

theorem config_of_other_vm :
    ¬ AlwaysBelongs Page.plainBrowser id (Detail.loaded (some "token") "#/vms" "vms") configKept := by
  intro always
  have last := always configKept List.prefix_rfl
  have kept : ((Detail.machine Page.plainBrowser id).run (Detail.loaded (some "token") "#/vms" "vms") configKept).vmConfig.map
      (fun config => config.asked.vm) = some ("c1", 100) := by decide +kernel
  have shown : ((Detail.machine Page.plainBrowser id).run (Detail.loaded (some "token") "#/vms" "vms")
      configKept).page.shown.map VmPlace.vm = some ("c1", 200) := by decide +kernel
  obtain ⟨config, isKept, asked⟩ := Option.map_eq_some_iff.mp kept
  have fits := last.config config isKept
  rw [shown, asked] at fits
  exact absurd fits (by decide)

end Failing

end VmDetail

end Moxui.Ui
