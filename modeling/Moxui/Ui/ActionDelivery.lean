import Moxui.Api.ReadIsolation
import Moxui.Ui.PageCalls
import Moxui.Ui.VmAction

set_option autoImplicit false

namespace Moxui.Ui

open Moxui.Api
open Moxui.Auth (Claims)
open Moxui.Proxmox (ProxmoxCall ClusterUrl AddressesItself)

section Reading

variable (libs : ApiLibs) (entry : Entry)

theorem read_vmid (vmid : UInt32) : readU32 libs entry (toString vmid) = .ok vmid := by
  have read := parse_decimal UInt32.size vmid.toNat vmid.toNat_lt
  rw [readU32, ProxmoxCall.vmid_text, read]
  exact congrArg _ (UInt32.ofNat_toNat)

theorem vm_item_read (cluster node item : String) (vmid : UInt32)
    (read : (entry.params.mapM fun param => percentText param.2) = some [cluster, node, toString vmid, item]) :
    vmItemPath libs entry = .ok (⟨cluster, node, vmid⟩, item) := by
  have texts : pathTexts libs entry = .ok [cluster, node, toString vmid, item] := by simp only [pathTexts, read]
  rw [vmItemPath, texts]
  change (readU32 libs entry (toString vmid)).bind
    (fun vmid => Except.ok ((⟨cluster, node, vmid⟩ : VmPath), item)) = _
  rw [read_vmid]
  rfl

-- What the cluster is to be told, with the options of a deletion as the handler reads them.
def actionCall (request : Request) (node : String) (vmid : UInt32) : OfferedAction → ProxmoxCall
  | .start => .vmAction node vmid .start
  | .shutdown => .vmAction node vmid .shutdown
  | .stop => .vmAction node vmid .stop
  | .reboot => .vmAction node vmid .reboot
  | .delete =>
      let opts := ((libs.deleteVmRequest request).toOption).getD DeleteVmRequest.unset
      .deleteVm node vmid opts.purge opts.force opts.skiplock

theorem action_command {ρ : Type} (state : AppState ρ) (auth : AuthContext) (caller : authContext entry = .ok auth)
    (cluster node : String) (vmid : UInt32) (action : OfferedAction)
    (read : (entry.params.mapM fun param => percentText param.2) = some [cluster, node, toString vmid, action.name]) :
    vmActionHandler libs entry state = .ok (operating auth cluster (actionCall libs entry.request node vmid action)
      (vmActionResponse vmid action.name)) := by
  have path := vm_item_read libs entry cluster node action.name vmid read
  unfold vmActionHandler
  rw [caller, path]
  cases action <;> rfl

theorem action_addresses (config : ClusterUrl) (request : Request) (node : String) (vmid : UInt32)
    (action : OfferedAction) (plain : Url.PlainSegment (Text.bytes node)) :
    AddressesItself config (actionCall libs request node vmid action) := by
  rw [Proxmox.addresses_itself_iff]
  refine ⟨?_, ?_, ?_⟩
  · intro text supplied
    have same : text = node := by
      cases action <;>
        simpa [actionCall, ProxmoxCall.endpoint, ProxmoxCall.onVm, ProxmoxCall.onNode] using supplied
    rw [same]
    exact plain
  · intro text _ last
    cases action <;> cases last
  · intro pair query
    cases action <;> cases query

end Reading

section Confirming

variable {ν : Type} (browser : Browser ν)

theorem action_path (vm : VmPlace ν) (vmid : UInt32) (action : OfferedAction) (written : browser.text vm.vmid = toString vmid) :
    Page.vmActionPath browser vm action.name = (PageCall.confirmVmAction vm.cluster vm.node vmid action).path := by
  change "/api/v1/vms/" ++ vm.cluster ++ "/" ++ vm.node ++ "/" ++ browser.text vm.vmid ++ "/" ++ action.name =
    "/api/v1/vms/" ++ vm.cluster ++ "/" ++ vm.node ++ "/" ++ toString vmid ++ "/" ++ action.name
  rw [written]

theorem confirmed_call [DecidableEq ν] (token : Option String) (hash start : String) (turns : List (Turn ν))
    (keeps : ∀ occurrence ∈ (Page.machine browser).trace (Page.loaded token hash start) turns,
      Page.KeepsVm browser occurrence.before occurrence.input)
    (earlier later : List (Machine.Event (Page ν) (Turn ν) (List ApiRequest)))
    (occurrence : Machine.Event (Page ν) (Turn ν) (List ApiRequest))
    (split : (Page.machine browser).trace (Page.loaded token hash start) turns = earlier ++ occurrence :: later)
    (confirming : occurrence.input = .confirmVmAction) (vm : VmPlace ν)
    (isOpened : Machine.latched Page.opened earlier = some vm) (action : String)
    (offered : occurrence.before.vmConfirm.map VmConfirm.action = some action) (call : ApiRequest)
    (called : call ∈ occurrence.output) :
    ∃ confirm, occurrence.before.vmConfirm = some confirm ∧
      call = ⟨"POST", Page.vmActionPath browser vm action, confirm.body⟩ := by
  obtain ⟨before, input, after, _, earlierEq, taken, _⟩ := Machine.trace_split (Page.machine browser) _ turns earlier later
    occurrence split
  subst taken
  have isConfirm : input = .confirmVmAction := confirming
  subst isConfirm
  let page := (Page.machine browser).run (Page.loaded token hash start) before
  obtain ⟨confirm, dialog, named⟩ : ∃ confirm, page.vmConfirm = some confirm ∧ confirm.action = action :=
    Option.map_eq_some_iff.mp offered
  have shown := Page.dialog_shown browser token hash start before
    (fun occurrence member => keeps occurrence (split ▸ List.mem_append_left _ (earlierEq ▸ member))) (by
      rw [show ((Page.machine browser).run (Page.loaded token hash start) before).vmConfirm = some confirm from dialog]
      rfl)
  rw [← earlierEq, isOpened] at shown
  obtain ⟨object, selected, place⟩ := Option.map_eq_some_iff.mp shown.symm
  have sent : call ∈ (page.confirmVmAction browser).2 := called
  rw [Page.confirmVmAction, dialog, show page.selected = some object from selected] at sent
  refine ⟨confirm, dialog, ?_⟩
  rw [List.mem_singleton.mp sent, named, place]

end Confirming

section Serving

variable {ρ : Type} (decode : String → Except String Claims) (libs : ApiLibs) (inner : Inner ρ)

theorem command_exchanges (command : Command ρ) (state : AppState ρ) (call : ProxmoxCall)
    (calls : command.call = .ok call) (oracle : Oracle) :
    (Dialogue.run oracle [] (command.run state)).1 =
      if command.checks.isOk ∧ (state.client command.cluster).isSome then
        [⟨⟨command.cluster, call⟩, oracle [] ⟨command.cluster, call⟩⟩]
      else [] := by
  unfold Command.run
  cases checked : command.checks with
  | error error => rw [if_neg (by rintro ⟨impossible, _⟩; cases impossible), Dialogue.run_done]
  | ok passed =>
      cases found : state.client command.cluster with
      | none => rw [if_neg (by rintro ⟨_, impossible⟩; cases impossible), Dialogue.run_done]
      | some client =>
          have named : client.name = command.cluster := by
            have chosen := List.find?_some found
            simpa using chosen
          rw [if_pos ⟨rfl, rfl⟩]
          simp only [calls, Dialogue.run_ask, Dialogue.run_done, List.nil_append]
          rw [named]

-- `http::Method::from_bytes` of the name that the page gives.
def methodNamed (name : String) : HttpMethod :=
  let standard : List HttpMethod := [.get, .head, .post, .put, .delete, .patch, .options, .connect, .trace]
  (standard.find? fun method => method.asStr = name).getD (.extension name)

theorem post_named : methodNamed "POST" = .post := by decide +kernel

structure Sent (origin : Url.Origin) (call : ApiRequest) (request : Request) : Prop where
  method : request.method = methodNamed call.method
  path : requestTarget origin call.path = some request.path

def scopedLayers : List RouteLayer :=
  [.requireAuth, .requireClusterAccess]

-- The server takes the request, knows an operator by its token who may use what the path names
-- as the cluster, and has this cluster.
structure Permitted (env : ServeEnv) (state : AppState ρ) (request passed : Request) (cluster : String) : Prop where
  unlimited : env.limited = false
  layers : (runLayers decode state scopedLayers request).2 = .ok passed
  operator : ∃ auth, AuthContext.fromRequestParts passed = .ok auth ∧ (operatorOnly auth).isOk = true
  configured : (state.client cluster).isSome = true

theorem action_route (route : Route) (member : route ∈ routes) (method : HttpMethod)
    (answers : methodHandler route.methods method = some .vmActionHandler) : route.layers = scopedLayers := by
  have listed := method_handler_member _ _ _ answers
  have only : (routes.all fun route =>
      !(route.methods.map fun method => method.2).contains .vmActionHandler || route.layers == scopedLayers) = true := by
    decide +kernel
  have own := List.all_eq_true.mp only route member
  simp only [Bool.or_eq_true, Bool.not_eq_true', beq_iff_eq] at own
  refine own.resolve_left ?_
  rw [Bool.not_eq_false, List.contains_iff_mem]
  exact listed

theorem limited_exchanges (handlers : Entry → AppState ρ → Program (AppState ρ × Response)) (env : ServeEnv)
    (request : Request) (state : AppState ρ) (oracle : Oracle) (limited : env.limited = true) :
    (Dialogue.run oracle [] (serve decode handlers env request state)).1 = [] := by
  unfold serve securityHeadersMiddleware cors rateLimit
  by_cases preflight : request.method = .options
  · simp only [preflight, if_true, Dialogue.bind_done, Dialogue.run_done]
  · simp only [preflight, limited, if_false, if_true, Dialogue.bind_done, Dialogue.run_done]

-- The clusters hear of the action at most once: the one that was meant, about the VM that was
-- meant, and only from somebody who may; and it does hear of it then.
structure Delivered (env : ServeEnv) (state : AppState ρ) (request : Request) (cluster node : String) (vmid : UInt32)
    (action : OfferedAction) (exchanges : List (Dialogue.Exchange Upstream Answer)) : Prop where
  only : ∀ exchange ∈ exchanges, ∃ passed, Permitted decode env state request passed cluster ∧
    exchange.1 = ⟨cluster, actionCall libs passed node vmid action⟩ ∧
    ∀ config, AddressesItself config (actionCall libs passed node vmid action)
  once : exchanges.length ≤ 1
  done : ∀ passed, Permitted decode env state request passed cluster → exchanges.length = 1

theorem none_delivered (env : ServeEnv) (state : AppState ρ) (request : Request) (cluster node : String)
    (vmid : UInt32) (action : OfferedAction)
    (never : ∀ passed, ¬ Permitted decode env state request passed cluster) :
    Delivered decode libs env state request cluster node vmid action [] where
  only := by
    intro exchange impossible
    cases impossible
  once := Nat.zero_le 1
  done := fun passed permitted => absurd permitted (never passed)

theorem entered_delivered (env : ServeEnv) (state : AppState ρ) (request passed : Request) (params : PathParams)
    (cluster node : String) (vmid : UInt32) (action : OfferedAction) (oracle : Oracle) (unlimited : env.limited = false)
    (layers : (runLayers decode state scopedLayers request).2 = .ok passed)
    (plain : Url.PlainSegment (Text.bytes node))
    (read : (params.mapM fun param => percentText param.2) = some [cluster, node, toString vmid, action.name]) :
    Delivered decode libs env state request cluster node vmid action
      (Dialogue.run oracle [] (runCommand (vmActionHandler libs) ⟨.vmActionHandler, params, passed⟩ state)).1 := by
  have unique : ∀ other, Permitted decode env state request other cluster → other = passed := by
    intro other permitted
    have same := permitted.layers
    rw [layers] at same
    exact (Except.ok.inj same).symm
  cases caller : AuthContext.fromRequestParts passed with
  | error response =>
      have refused : vmActionHandler libs ⟨.vmActionHandler, params, passed⟩ state = .error response := by
        unfold vmActionHandler
        rw [authContext, caller]
        rfl
      rw [runCommand, refused]
      apply none_delivered
      intro other permitted
      obtain ⟨auth, known, _⟩ := permitted.operator
      rw [unique other permitted, caller] at known
      cases known
  | ok auth =>
      let call := actionCall libs passed node vmid action
      have exchanges : (Dialogue.run oracle []
            ((operating auth cluster call (vmActionResponse vmid action.name) : Command ρ).run state)).1 =
          if (operatorOnly auth).isOk = true ∧ (state.client cluster).isSome = true then
            [⟨⟨cluster, call⟩, oracle [] ⟨cluster, call⟩⟩]
          else [] :=
        command_exchanges (operating auth cluster call (vmActionResponse vmid action.name)) state call rfl oracle
      rw [runCommand, action_command libs ⟨.vmActionHandler, params, passed⟩ state auth caller cluster node vmid action read]
      dsimp only
      rw [exchanges]
      by_cases both : (operatorOnly auth).isOk = true ∧ (state.client cluster).isSome = true
      · have permitted : Permitted decode env state request passed cluster :=
          ⟨unlimited, layers, ⟨auth, caller, both.1⟩, both.2⟩
        rw [if_pos both]
        refine ⟨?_, Nat.le_refl 1, fun _ _ => rfl⟩
        intro exchange member
        rw [List.mem_singleton.mp member]
        exact ⟨passed, permitted, rfl, fun config => action_addresses libs config passed node vmid action plain⟩
      · rw [if_neg both]
        apply none_delivered
        intro other permitted
        obtain ⟨known, isKnown, operates⟩ := permitted.operator
        rw [unique other permitted, caller] at isKnown
        cases isKnown
        exact both ⟨operates, permitted.configured⟩

theorem action_served (origin : Url.Origin) (cluster node : String) (vmid : UInt32) (action : OfferedAction)
    (clean : (PageCall.confirmVmAction cluster node vmid action).Clean) (request : Request)
    (post : request.method = .post)
    (sent : requestTarget origin (PageCall.confirmVmAction cluster node vmid action).path = some request.path)
    (env : ServeEnv) (state : AppState ρ) (oracle : Oracle) :
    Delivered decode libs env state request cluster node vmid action
      (Dialogue.run oracle [] (serve decode (handle libs inner) env request state)).1 := by
  cases limited : env.limited with
  | true =>
      rw [limited_exchanges decode _ env request state oracle limited]
      apply none_delivered
      intro passed permitted
      rw [permitted.unlimited] at limited
      cases limited
  | false =>
      obtain ⟨target, route, params, path, found, answers, read⟩ :=
        PageCall.clean_reaches origin (.confirmVmAction cluster node vmid action) clean
      rw [sent, Option.some.injEq] at path
      subst path
      have notOptions : request.method ≠ .options := by
        rw [post]
        exact HttpMethod.noConfusion
      have layers := action_route route (find_route_some _ _ _ _ found).1 _ answers
      have asPost : (PageCall.confirmVmAction cluster node vmid action).method = request.method := post.symm
      rw [asPost] at answers
      have outcome : (dispatch decode state request).outcome =
          (runLayers decode state scopedLayers request).2.bind fun passed => .ok ⟨.vmActionHandler, params, passed⟩ := by
        have endpoint : methodEndpoint route params request.method = fun passed => .ok ⟨.vmActionHandler, params, passed⟩ := by
          funext passed
          rw [methodEndpoint, answers]
          rfl
        simp only [dispatch, found, layers, endpoint]
      rw [serve_exchanges decode state request _ env limited notOptions, router, outcome]
      cases passes : (runLayers decode state scopedLayers request).2 with
      | error response =>
          apply none_delivered
          intro passed permitted
          have stopped := permitted.layers
          rw [passes] at stopped
          cases stopped
      | ok passed =>
          have plain := clean.names node (by simp [PageCall.names])
          exact entered_delivered decode libs env state request passed params cluster node vmid action oracle limited passes
            plain read

-- In every run of the page in which nothing brings another VM to the selection while a dialog is
-- open: what is confirmed is what the server has the cluster do, with the VM of the dialog.
theorem opened_action_delivered {ν : Type} [DecidableEq ν] (browser : Browser ν) (token : Option String)
    (hash start : String) (turns : List (Turn ν))
    (keeps : ∀ occurrence ∈ (Page.machine browser).trace (Page.loaded token hash start) turns,
      Page.KeepsVm browser occurrence.before occurrence.input)
    (earlier later : List (Machine.Event (Page ν) (Turn ν) (List ApiRequest)))
    (occurrence : Machine.Event (Page ν) (Turn ν) (List ApiRequest))
    (split : (Page.machine browser).trace (Page.loaded token hash start) turns = earlier ++ occurrence :: later)
    (confirming : occurrence.input = .confirmVmAction) (vm : VmPlace ν)
    (isOpened : Machine.latched Page.opened earlier = some vm) (action : OfferedAction)
    (offered : occurrence.before.vmConfirm.map VmConfirm.action = some action.name) (vmid : UInt32)
    (written : browser.text vm.vmid = toString vmid)
    (clean : (PageCall.confirmVmAction vm.cluster vm.node vmid action).Clean) (origin : Url.Origin) (call : ApiRequest)
    (called : call ∈ occurrence.output) (request : Request) (sent : Sent origin call request) (env : ServeEnv)
    (state : AppState ρ) (oracle : Oracle) :
    Delivered decode libs env state request vm.cluster vm.node vmid action
      (Dialogue.run oracle [] (serve decode (handle libs inner) env request state)).1 := by
  obtain ⟨confirm, named, made⟩ := confirmed_call browser token hash start turns keeps earlier later occurrence split
    confirming vm isOpened action.name offered call called
  have path : call.path = (PageCall.confirmVmAction vm.cluster vm.node vmid action).path := by
    rw [made]
    exact action_path browser vm vmid action written
  have post : request.method = .post := by
    rw [sent.method, made, post_named]
  have target : requestTarget origin (PageCall.confirmVmAction vm.cluster vm.node vmid action).path = some request.path := by
    rw [← path]
    exact sent.path
  exact action_served decode libs inner origin vm.cluster vm.node vmid action clean request post target env state oracle

end Serving

def startsInLab : List (Turn Nat) :=
  [.loads, .resumes 0 .answered, .resumes 0 (.rows [⟨⟨"lab", "pve1", 100⟩, "web"⟩]), .openVm 0, .requestVmAction "start" none]

def startCall : ApiRequest :=
  ⟨"POST", "/api/v1/vms/lab/pve1/100/start", none⟩

def startRequest : Request :=
  { method := .post, path := "/api/v1/vms/lab/pve1/100/start", query := none
    headers := [("authorization", Text.bytes "Bearer alice")], body := [], claims := none }

def starting : Oracle :=
  fun _ _ => .ok (.str "UPID:pve1:start")

theorem start_delivered :
    Delivered knowsAlice bareLibs quietEnv twoClusters startRequest "lab" "pve1" 100 .start
        (Dialogue.run starting [] (serve knowsAlice (handle bareLibs bareInner) quietEnv startRequest twoClusters)).1 ∧
      (Dialogue.run starting [] (serve knowsAlice (handle bareLibs bareInner) quietEnv startRequest twoClusters)).1.length =
        1 := by
  refine ⟨?_, by decide +kernel⟩
  exact opened_action_delivered knowsAlice bareLibs bareInner Page.plainBrowser (some "alice") "#/vms" "vms"
    (startsInLab ++ [.confirmVmAction]) (by decide +kernel)
    ((Page.machine Page.plainBrowser).trace (Page.loaded (some "alice") "#/vms" "vms") startsInLab) [] _
    (Machine.trace_snoc _ _ _ _) rfl ⟨"lab", "pve1", 100⟩ (by decide +kernel) .start (by decide +kernel) 100
    (by decide +kernel) ⟨by decide +kernel, by simp [PageCall.lastName]⟩ Moxui.Proxmox.sampleCluster.origin startCall
    (List.mem_singleton.mpr rfl) startRequest ⟨by decide +kernel, by decide +kernel⟩ quietEnv twoClusters starting

end Moxui.Ui
