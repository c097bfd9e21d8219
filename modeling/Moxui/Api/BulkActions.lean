import Moxui.Api.ClusterIsolation

set_option autoImplicit false

namespace Moxui.Api

open Moxui.Proxmox (ProxmoxCall VmAction)

section Rows

abbrev ServedRef : Type := BulkVmRef × Option (Except AppError Json)

structure RowForRef (action : String) (served : ServedRef) (row : Json) : Prop where
  cluster : row.get "cluster" = some (.str served.1.cluster)
  node : row.get "node" = some (.str served.1.node)
  vmid : row.get "vmid" = some (.nat served.1.vmid.toNat)
  action : row.get "action" = some (.str action)
  ok_iff : row.get "status" = some (.str "ok") ↔ ∃ data, served.2 = some (.ok data)
  upid : ∀ upid, served.2 = some (.ok (.str upid)) → row.get "message" = some (.str upid)
  error : (∀ data, served.2 ≠ some (.ok data)) → row.get "status" = some (.str "error")

theorem row_of_ok (action : String) (vm : BulkVmRef) (data : Json) :
    RowForRef action (vm, some (.ok data)) (bulkResult vm action (.ok data)) := by
  refine ⟨rfl, rfl, rfl, rfl, ?_, ?_, ?_⟩
  · constructor
    · intro _
      exact ⟨data, rfl⟩
    · intro _
      rfl
  · intro upid same
    cases same
    rfl
  · intro never
    exact absurd rfl (never data)

theorem row_of_failure (action message : String) (vm : BulkVmRef) (answer : Option (Except AppError Json))
    (failed : ∀ data, answer ≠ some (.ok data)) :
    RowForRef action (vm, answer) (bulkResultRow vm action "error" message) := by
  refine ⟨rfl, rfl, rfl, rfl, ?_, ?_, ?_⟩
  · constructor
    · intro ok
      exact absurd (Json.str.inj (Option.some.inj ok)) (by decide)
    · intro succeeded
      obtain ⟨data, same⟩ := succeeded
      exact absurd same (failed data)
  · intro upid same
    exact absurd same (failed (.str upid))
  · intro _
    rfl

theorem row_of_answer (action : String) (vm : BulkVmRef) (answer : Except AppError Json) :
    RowForRef action (vm, some answer) (bulkResult vm action answer) := by
  cases answer with
  | ok data => exact row_of_ok action vm data
  | error error => exact row_of_failure action error.display vm _ (fun _ same => by cases same)

end Rows

section Bulk

variable {ρ : Type} (state : AppState ρ) (command : BulkCommand) (oracle : Oracle)

def exchangeFor (served : ServedRef) : Option (Dialogue.Exchange Upstream Answer) :=
  served.2.map fun answer => ⟨⟨served.1.cluster, command.call served.1⟩, answer⟩

-- What a bulk action does with a list of references: one row for each and one exchange for
-- each whose cluster is configured, both in their order.
structure ServedBulk (vms : List BulkVmRef) (past said : List (Dialogue.Exchange Upstream Answer))
    (served : List ServedRef) (rows : List Json) : Prop where
  references : served.map Prod.fst = vms
  configured : ∀ one ∈ served, (one.2.isSome = true ↔ (state.client one.1.cluster).isSome = true)
  exchanges : said = past ++ served.filterMap (exchangeFor command)
  rows : List.Forall₂ (RowForRef command.action) served rows

theorem bulk_served (vms : List BulkVmRef) (past : List (Dialogue.Exchange Upstream Answer)) :
    ∃ served, ServedBulk state command vms past (Dialogue.run oracle past (bulkAction state command vms)).1 served
      (Dialogue.run oracle past (bulkAction state command vms)).2 := by
  induction vms generalizing past with
  | nil =>
      refine ⟨[], rfl, ?_, (List.append_nil past).symm, List.Forall₂.nil⟩
      intro one member
      cases member
  | cons vm vms ih =>
      rw [bulkAction]
      cases found : state.client vm.cluster with
      | none =>
          obtain ⟨served, rest⟩ := ih past
          refine ⟨(vm, none) :: served, ?_, ?_, ?_, ?_⟩
          · rw [List.map_cons, rest.references]
          · intro one member
            rcases List.mem_cons.mp member with here | later
            · rw [here, found]
              exact Iff.rfl
            · exact rest.configured one later
          · simp only [Dialogue.run_bind, Dialogue.run_done]
            exact rest.exchanges
          · simp only [Dialogue.run_bind, Dialogue.run_done]
            exact .cons (row_of_failure _ _ vm none (fun _ same => by cases same)) rest.rows
      | some client =>
          have named := client_name state vm.cluster client found
          let answer := oracle past ⟨client.name, command.call vm⟩
          obtain ⟨served, rest⟩ := ih (past ++ [⟨⟨client.name, command.call vm⟩, answer⟩])
          refine ⟨(vm, some answer) :: served, ?_, ?_, ?_, ?_⟩
          · rw [List.map_cons, rest.references]
          · intro one member
            rcases List.mem_cons.mp member with here | later
            · rw [here, found]
              exact Iff.rfl
            · exact rest.configured one later
          · simp only [Dialogue.run_ask, Dialogue.run_bind, Dialogue.run_done]
            rw [rest.exchanges, List.append_assoc, named]
            rfl
          · simp only [Dialogue.run_ask, Dialogue.run_bind, Dialogue.run_done]
            exact .cons (row_of_answer _ vm answer) rest.rows

end Bulk

section Singles

variable {ρ : Type} (libs : ApiLibs) (state : AppState ρ)

structure AsksSame (command : BulkCommand) (vm : BulkVmRef) (single : Entry) : Prop where
  operator : ∃ auth, authContext single = .ok auth ∧ operatorOnly auth = .ok ()
  path : vmItemPath libs single = .ok (⟨vm.cluster, vm.node, vm.vmid⟩, command.action)
  unset : (libs.deleteVmRequest single.request).toOption.getD DeleteVmRequest.unset = DeleteVmRequest.unset

def SameCall (command : BulkCommand) : Prop :=
  (∃ parsed, VmAction.parse command.action = some parsed ∧ ∀ vm, command.call vm = .vmAction vm.node vm.vmid parsed) ∨
    (VmAction.parse command.action = none ∧ command.action = "delete" ∧
      ∀ vm, command.call vm = .deleteVm vm.node vm.vmid false false false)

theorem bulk_same_call (handler : Handler) (command : BulkCommand) (bulk : bulkHandler handler = some command) :
    SameCall command := by
  unfold bulkHandler at bulk
  split at bulk
  · cases bulk
    exact Or.inl ⟨.start, by decide, fun _ => rfl⟩
  · cases bulk
    exact Or.inl ⟨.stop, by decide, fun _ => rfl⟩
  · cases bulk
    exact Or.inl ⟨.reboot, by decide, fun _ => rfl⟩
  · cases bulk
    exact Or.inr ⟨by decide, rfl, fun _ => rfl⟩
  · cases bulk

theorem single_vm_command (command : BulkCommand) (same : SameCall command) (vm : BulkVmRef) (single : Entry)
    (asks : AsksSame libs command vm single) :
    ∃ auth, operatorOnly auth = .ok () ∧ vmActionHandler libs single state =
      .ok (operating auth vm.cluster (command.call vm) (vmActionResponse vm.vmid command.action)) := by
  obtain ⟨auth, read, operator⟩ := asks.operator
  refine ⟨auth, operator, ?_⟩
  simp only [vmActionHandler, read, asks.path]
  rcases same with ⟨parsed, isParsed, calls⟩ | ⟨_unparsed, isDelete, calls⟩
  · simp only [bind, Except.bind, calls, isParsed]
  · simp only [bind, Except.bind, calls, isDelete, if_true, asks.unset]
    rfl

theorem single_vm_asks (command : BulkCommand) (same : SameCall command) (vm : BulkVmRef) (single : Entry)
    (asks : AsksSame libs command vm single) (configured : (state.client vm.cluster).isSome = true) :
    ∃ finish : Except AppError Json → AppState ρ × Response, runCommand (vmActionHandler libs) single state =
      .ask ⟨vm.cluster, command.call vm⟩ fun answer => .done (finish answer) := by
  obtain ⟨auth, operator, handled⟩ := single_vm_command libs state command same vm single asks
  obtain ⟨client, found⟩ := Option.isSome_iff_exists.mp configured
  have named := client_name state vm.cluster client found
  rw [runCommand, handled, ← named]
  simp only [Command.run, operating, operator, named, found]
  exact ⟨_, rfl⟩

end Singles

-- A bulk request does for each reference what a request for that VM alone does.
structure BulkAsSingles {ρ : Type} (libs : ApiLibs) (state : AppState ρ) (command : BulkCommand) (entry : Entry)
    (vms : List BulkVmRef) (oracle : Oracle) (past : List (Dialogue.Exchange Upstream Answer)) : Prop where
  answered : ∃ served rows,
    ServedBulk state command vms past (Dialogue.run oracle past (runBulk state libs command entry)).1 served rows ∧
      (Dialogue.run oracle past (runBulk state libs command entry)).2 =
        (state, jsonResponse 200 (.obj [("results", .arr rows)]))
  same_request : ∀ vm ∈ vms, ∀ single, AsksSame libs command vm single →
    (state.client vm.cluster).isSome = true → ∃ finish : Except AppError Json → AppState ρ × Response,
      runCommand (vmActionHandler libs) single state =
        .ask ⟨vm.cluster, command.call vm⟩ fun answer => .done (finish answer)

theorem bulk_as_singles {ρ : Type} (libs : ApiLibs) (state : AppState ρ) (handler : Handler) (command : BulkCommand)
    (bulk : bulkHandler handler = some command) (entry : Entry) (vms : List BulkVmRef)
    (read : bulkRefs libs entry = .ok vms) (oracle : Oracle) (past : List (Dialogue.Exchange Upstream Answer)) :
    BulkAsSingles libs state command entry vms oracle past := by
  refine ⟨?_, ?_⟩
  · obtain ⟨served, asServed⟩ := bulk_served state command oracle vms past
    refine ⟨served, (Dialogue.run oracle past (bulkAction state command vms)).2, ?_, ?_⟩
    · rw [runBulk, read]
      simp only [Dialogue.run_bind, Dialogue.run_done]
      exact asServed
    · rw [runBulk, read]
      simp only [Dialogue.run_bind, Dialogue.run_done]
  · intro vm _member single asks configured
    exact single_vm_asks libs state command (bulk_same_call handler command bulk) vm single asks configured

def twoRefs : List BulkVmRef := [⟨"lab", "pve1", 105⟩, ⟨"moon", "pve9", 7⟩]

def twoRefsLibs : ApiLibs :=
  { bareLibs with bulkActionRequest := fun _ => .ok ⟨twoRefs⟩ }

def deleteTwo : Entry :=
  ⟨.bulkDelete, [],
    { method := .post, path := "/api/v1/vms/bulk/delete", query := none
      headers := [("authorization", Text.bytes "Bearer alice"), ("content-type", Text.bytes "application/json")]
      body := Text.bytes ("\x7b\"vms\":[\x7b\"cluster\":\"lab\",\"node\":\"pve1\",\"vmid\":105\x7d," ++
        "\x7b\"cluster\":\"moon\",\"node\":\"pve9\",\"vmid\":7\x7d]\x7d")
      claims := some aliceClaims }⟩

def everyTask : Oracle := fun _ _ => .ok (.str "UPID:pve1:00001234:0A1B2C3D")

theorem delete_two_as_singles : BulkAsSingles twoRefsLibs twoClusters bulkDelete deleteTwo twoRefs everyTask [] :=
  bulk_as_singles twoRefsLibs twoClusters .bulkDelete bulkDelete rfl deleteTwo twoRefs rfl everyTask []

end Moxui.Api
