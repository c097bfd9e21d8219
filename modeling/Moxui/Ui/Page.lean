import Moxui.Api.Pipeline
import Moxui.Lib.Machine
import Moxui.Lib.Text

set_option autoImplicit false

namespace Moxui.Ui

open Moxui.Api (Json)

-- What the browser does for the page: `Number` of decimal digits, a number within a template, and
-- how a hash reads that was assigned to `location.hash`. `ν` stands for the numbers of JavaScript.
structure Browser (ν : Type) where
  number : String → ν
  text : ν → String
  hash : String → String

structure VmPlace (ν : Type) where
  cluster : String
  node : String
  vmid : ν
deriving DecidableEq, Repr

structure VmObject (ν : Type) extends VmPlace ν where
  name : Option String

structure VmRow (ν : Type) extends VmPlace ν where
  name : String

structure VmConfirm (ν : Type) where
  action : String
  vmid : ν
  vname : String
  body : Option Json
  needsVmid : Bool
  danger : Bool

structure ApiRequest where
  method : String
  path : String
  body : Option Json

-- The functions that wait for an answer or for a timer. `Object.assign(this.selectedVm, await ..)`
-- has read `this.selectedVm` before it waits for the body.
inductive Suspended where
  | vmDetail
  | vmDetailBody (target : Option Nat)
  | vms
  | vmsBody
  | vmAction (action : String)
  | vmActionBody (action : String)
  | backToList
deriving DecidableEq, Repr

-- What such a function hears: an error, the status 401, the head of an answer, its body, or its timer.
inductive Heard (ν : Type) where
  | failed
  | unauthorized
  | answered
  | row (row : VmRow ν)
  | rows (rows : List (VmRow ν))
  | upid (upid : String)
  | elapsed

-- Objects go by their position in `objects`; what refers to one holds its position.
structure Page (ν : Type) where
  token : Option String
  hash : String
  route : String
  objects : List (VmObject ν)
  vms : Option (List Nat)
  selectedVm : Option Nat
  vmConfirm : Option (VmConfirm ν)
  vmConfirmInput : String
  waiting : List Suspended

inductive Turn (ν : Type) where
  | loads
  | login (token : String)
  | logout
  | navigate (hash : String)
  | hashchange
  | backToList
  | openVm (vm : Nat)
  | fetchVms
  | fetchVmDetail
  | requestVmAction (action : String) (body : Option Json)
  | typesVmid (text : String)
  | cancelVmAction
  | confirmVmAction
  | resumes (index : Nat) (heard : Heard ν)

-- `Object.assign`: a name that the source does not have stays.
def VmObject.assign {ν : Type} (target source : VmObject ν) : VmObject ν :=
  { toVmPlace := source.toVmPlace, name := source.name.or target.name }

def VmRow.object {ν : Type} (row : VmRow ν) : VmObject ν :=
  { toVmPlace := row.toVmPlace, name := some row.name }

-- `hash.replace(/^#\/?/, '')`
def routeName (hash : String) : String :=
  match hash.toList with
  | '#' :: '/' :: name => String.ofList name
  | '#' :: name => String.ofList name
  | name => String.ofList name

def parseRoute (hash : String) : String :=
  let name := routeName hash
  if Text.startsWith name "vm/" then "vm-detail"
  else if name = "" then "vms"
  else name

-- `([^/]+)\/`, and what is left.
def segment (text : String) : Option (String × String) :=
  match Text.splitOnce '/' text with
  | none => none
  | some (part, rest) => if part = "" then none else some (part, rest)

-- `(\d+)`
def digits (text : String) : Option String :=
  match text.toList.takeWhile Char.isDigit with
  | [] => none
  | found => some (String.ofList found)

-- `/^#\/vm\/([^/]+)\/(?:([^/]+)\/)?(\d+)/`: the part in the middle is passed over where no digits come after it.
def matchVm (hash : String) : Option (String × Option String × String) :=
  if Text.startsWith hash "#/vm/" then do
    let (cluster, rest) ← segment (String.ofList (hash.toList.drop 5))
    let withNode := do
      let (node, later) ← segment rest
      let vmid ← digits later
      some (cluster, some node, vmid)
    match withNode with
    | some found => some found
    | none => do
        let vmid ← digits rest
        some (cluster, none, vmid)
  else none

namespace Page

def loaded {ν : Type} (token : Option String) (hash route : String) : Page ν :=
  { token := token, hash := hash, route := route, objects := [], vms := none, selectedVm := none, vmConfirm := none
    vmConfirmInput := "", waiting := [] }

section Objects

variable {ν : Type} (page : Page ν)

def selected : Option (VmObject ν) :=
  page.selectedVm.bind fun vm => page.objects[vm]?

def assign (target : Nat) (source : VmObject ν) : Page ν :=
  { page with objects := page.objects.modify target fun object => object.assign source }

def wait (suspended : Suspended) : Page ν :=
  { page with waiting := page.waiting ++ [suspended] }

def logout : Page ν :=
  { page with token := none, vms := none, hash := "", route := "vms" }

def fetchVms : Page ν × List ApiRequest :=
  (page.wait .vms, [⟨"GET", "/api/v1/vms", none⟩])

-- `this.vms = body.vms`, all of them new objects.
def listed (rows : List (VmRow ν)) : Page ν :=
  { page with
    objects := page.objects ++ rows.map VmRow.object
    vms := some (List.range' page.objects.length rows.length) }

-- `this.selectedVm = { cluster, vmid, node }`, a new object.
def selecting (sel : VmPlace ν) : Page ν :=
  { page with objects := page.objects ++ [⟨sel, none⟩], selectedVm := some page.objects.length }

def cancelVmAction : Page ν :=
  { page with vmConfirm := none, vmConfirmInput := "" }

end Objects

section Actions

variable {ν : Type} (browser : Browser ν) (page : Page ν)

def fetchVmDetail : Page ν × List ApiRequest :=
  match page.selected with
  | none => (page, [])
  | some vm =>
      if vm.cluster = "" ∨ vm.node = "" then (page, [])
      else (page.wait .vmDetail, [⟨"GET", "/api/v1/vms/" ++ vm.cluster ++ "/" ++ browser.text vm.vmid, none⟩])

def openVm (vm : Nat) : Page ν :=
  match page.objects[vm]? with
  | none => page
  | some opened =>
      { page with
        selectedVm := some vm
        route := "vm-detail"
        hash := browser.hash ("#/vm/" ++ opened.cluster ++ "/" ++ browser.text opened.vmid) }

-- `selectedVm.name || ..`
def shownName (vm : VmObject ν) : String :=
  let name := vm.name.getD ""
  if name = "" then "(vmid " ++ browser.text vm.vmid ++ ")" else name

-- Without a selected VM the function throws when it reads the `vmid`.
def requestVmAction (action : String) (body : Option Json) : Page ν :=
  match page.selected with
  | none => { page with vmConfirmInput := "" }
  | some vm =>
      { page with
        vmConfirmInput := ""
        vmConfirm := some
          { action := action, vmid := vm.vmid, vname := shownName browser vm, body := body
            needsVmid := decide (action = "delete"), danger := decide (action = "delete") } }

def vmActionPath (vm : VmPlace ν) (action : String) : String :=
  "/api/v1/vms/" ++ vm.cluster ++ "/" ++ vm.node ++ "/" ++ browser.text vm.vmid ++ "/" ++ action

def confirmVmAction : Page ν × List ApiRequest :=
  match page.vmConfirm, page.selected with
  | some confirm, some vm =>
      (page.wait (.vmAction confirm.action), [⟨"POST", vmActionPath browser vm.toVmPlace confirm.action, confirm.body⟩])
  | _, _ => (page, [])

-- The rest of `confirmVmAction`, once the server has answered.
def confirmed (action upid : String) : Page ν × List ApiRequest :=
  let (fetching, requests) := page.cancelVmAction.fetchVmDetail browser
  if upid ≠ "" ∧ action = "delete" then (fetching.wait .backToList, requests) else (fetching, requests)

-- What it does not expect is an error, after which the function ends.
def resume (suspended : Suspended) (heard : Heard ν) : Page ν × List ApiRequest :=
  match suspended, heard with
  | .vmDetail, .answered => (page.wait (.vmDetailBody page.selectedVm), [])
  | .vmDetailBody (some target), .row row => (page.assign target row.object, [])
  | .vms, .answered => (page.wait .vmsBody, [])
  | .vmsBody, .rows rows => (page.listed rows, [])
  | .vmAction action, .answered => (page.wait (.vmActionBody action), [])
  | .vmActionBody action, .upid upid => page.confirmed browser action upid
  | .backToList, .elapsed => { page with hash := browser.hash "#/vms", route := "vms" }.fetchVms
  | .vmDetail, .unauthorized => (page.logout, [])
  | .vms, .unauthorized => (page.logout, [])
  | .vmAction _, .unauthorized => (page.logout, [])
  | _, _ => (page, [])

-- The dialog is part of the page of a VM. A deletion can be confirmed once the number of the VM is typed.
def dialogShown : Bool :=
  page.route = "vm-detail" ∧ page.selectedVm.isSome ∧ page.vmConfirm.isSome

def confirmEnabled : Bool :=
  match page.vmConfirm with
  | none => false
  | some confirm => !confirm.danger || page.vmConfirmInput = browser.text confirm.vmid

end Actions

section Routes

variable {ν : Type} [DecidableEq ν] (browser : Browser ν) (page : Page ν)

-- `vms.find(v => v.cluster === cluster && v.vmid === vmid)`
def cached (cluster : String) (vmid : ν) : Option (VmObject ν) :=
  ((page.vms.getD []).filterMap fun vm => page.objects[vm]?).find? fun v => v.cluster = cluster ∧ v.vmid = vmid

def parseVmDetail : Option (VmPlace ν) :=
  match matchVm page.hash with
  | none => none
  | some (cluster, inHash, decimal) =>
      let vmid := browser.number decimal
      let node := inHash.or ((page.cached cluster vmid).map fun cached => cached.node)
      match node with
      | none => none
      | some node => if node = "" then none else some ⟨cluster, node, vmid⟩

-- It takes over what the list has of its VM.
def select (sel : VmPlace ν) : Page ν :=
  match page.cached sel.cluster sel.vmid with
  | none => page.selecting sel
  | some cached => (page.selecting sel).assign page.objects.length cached

-- The other routes load lists of their own.
def maybeLoadRoute : Page ν × List ApiRequest :=
  match page.token with
  | none => (page, [])
  | some _ =>
      if page.route = "vms" then page.fetchVms
      else if page.route = "vm-detail" then
        match page.parseVmDetail browser with
        | none => page.fetchVmDetail browser
        | some sel => (page.select sel).fetchVmDetail browser
      else (page, [])

def step : Turn ν → Page ν × List ApiRequest
  | .loads => page.maybeLoadRoute browser
  | .login token => ({ page with token := some token }, [])
  | .logout => (page.logout, [])
  | .navigate hash => ({ page with hash := hash }, [])
  | .hashchange => { page with route := parseRoute page.hash }.maybeLoadRoute browser
  | .backToList => ({ page with hash := browser.hash "#/vms", route := "vms" }, [])
  | .openVm vm => (page.openVm browser vm, [])
  | .fetchVms => page.fetchVms
  | .fetchVmDetail => page.fetchVmDetail browser
  | .requestVmAction action body => (page.requestVmAction browser action body, [])
  | .typesVmid text => ({ page with vmConfirmInput := text }, [])
  | .cancelVmAction => (page.cancelVmAction, [])
  | .confirmVmAction => page.confirmVmAction browser
  | .resumes index heard =>
      match page.waiting[index]? with
      | none => (page, [])
      | some suspended => { page with waiting := page.waiting.eraseIdx index }.resume browser suspended heard

def machine : Machine (Page ν) (Turn ν) (List ApiRequest) :=
  { step := step browser }

end Routes

end Page

end Moxui.Ui
