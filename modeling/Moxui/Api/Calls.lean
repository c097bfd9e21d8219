import Moxui.Api.AuthGate
import Moxui.Api.Clusters

set_option autoImplicit false

namespace Moxui.Api

open Moxui.Auth (Claims)
open Moxui.Proxmox (ProxmoxCall)

theorem except_bind_ok {ε α β : Type} (first : Except ε α) (next : α → Except ε β) (result : β)
    (whole : (first >>= next) = .ok result) : ∃ value, first = .ok value ∧ next value = .ok result := by
  cases first with
  | error reason => cases whole
  | ok value => exact ⟨value, rfl, whole⟩

def ReadsOnly {α : Type} (program : Program α) : Prop :=
  ∀ upstream, Dialogue.Calls program upstream → upstream.call.method = .get

theorem done_reads {α : Type} (value : α) : ReadsOnly (.done value : Program α) := by
  intro upstream called
  exact absurd called (Dialogue.calls_done value upstream)

theorem ask_reads {α : Type} (cluster : String) (call : ProxmoxCall) (next : Except AppError Json → Program α)
    (get : call.method = .get) (rest : ∀ answer, ReadsOnly (next answer)) : ReadsOnly (.ask ⟨cluster, call⟩ next) := by
  intro upstream called
  rcases (Dialogue.calls_ask _ _ _).mp called with same | ⟨answer, later⟩
  · rw [same]
    exact get
  · exact rest answer upstream later

theorem map_reads {α β : Type} (first : Program α) (finish : α → β) (reads : ReadsOnly first) :
    ReadsOnly (first.bind fun value => .done (finish value)) := by
  intro upstream called
  exact reads upstream ((Dialogue.calls_map first finish upstream).mp called)

theorem bind_reads {α β : Type} (first : Program α) (next : α → Program β) (reads : ReadsOnly first)
    (rest : ∀ value, ReadsOnly (next value)) : ReadsOnly (first.bind next) := by
  induction first with
  | done value => exact rest value
  | ask request later ih =>
      refine ask_reads request.cluster request.call _ (reads request (Or.inl rfl)) ?_
      intro answer
      exact ih answer fun upstream called => reads upstream (Or.inr ⟨answer, called⟩)

section Reads

variable {ρ : Type} (state : AppState ρ) (libs : ApiLibs) (inner : Inner ρ) (entry : Entry)

theorem collect_reads (call : ProxmoxCall) (clients : List ProxmoxClient) (get : call.method = .get) :
    ReadsOnly (collect call clients) := by
  induction clients with
  | nil => exact done_reads _
  | cons client rest ih => exact ask_reads _ _ _ get fun answer => map_reads _ _ ih

theorem aggregate_reads (call : ProxmoxCall) (body : Results → Json) (get : call.method = .get) :
    ReadsOnly (aggregate state call body) :=
  map_reads _ _ (collect_reads call state.clients get)

theorem list_vms_reads : ReadsOnly (listVms state libs entry) := by
  unfold listVms
  split
  · exact done_reads _
  · exact aggregate_reads state _ _ rfl

theorem cluster_dashboard_reads (client : ProxmoxClient) : ReadsOnly (collectClusterDashboard client) := by
  refine ask_reads _ _ _ rfl ?_
  intro version
  cases version with
  | error error => exact done_reads _
  | ok version => exact ask_reads _ _ _ rfl fun resources => ask_reads _ _ _ rfl fun storages => done_reads _

theorem dashboards_reads (clients : List ProxmoxClient) : ReadsOnly (collectDashboards clients) := by
  induction clients with
  | nil => exact done_reads _
  | cons client rest ih =>
      exact bind_reads _ _ (cluster_dashboard_reads client) fun dashboard => map_reads _ _ ih

theorem dashboard_reads : ReadsOnly (dashboard state inner entry) := by
  unfold dashboard
  split
  · exact done_reads _
  · exact map_reads _ _ (dashboards_reads _)

theorem backups_reads (cluster node : String) (vmid : UInt32) (storages : List Json) :
    ReadsOnly (collectBackups cluster node vmid storages) := by
  induction storages with
  | nil => exact done_reads _
  | cons storage rest ih => exact ask_reads _ _ _ rfl fun contents => map_reads _ _ ih

theorem list_backups_reads : ReadsOnly (listBackupsHandler state libs entry) := by
  unfold listBackupsHandler
  split
  · exact done_reads _
  · refine ask_reads _ _ _ rfl ?_
    intro storages
    cases storages with
    | error error => exact done_reads _
    | ok storages => exact map_reads _ _ (backups_reads _ _ _ _)

theorem readyz_reads : ReadsOnly (readyz state inner) :=
  map_reads _ _ (collect_reads _ _ rfl)

theorem view_reads (handler : Handler) (program : Program (AppState ρ × Response))
    (found : viewHandler libs inner entry state handler = some program) : ReadsOnly program := by
  cases handler <;> cases found
  case listVms => exact list_vms_reads state libs entry
  case dashboard => exact dashboard_reads state inner entry
  case listBackupsHandler => exact list_backups_reads state libs entry
  case readyz => exact readyz_reads state inner
  all_goals exact aggregate_reads state _ _ rfl

end Reads

section Calls

variable {ρ : Type} (state : AppState ρ) (libs : ApiLibs) (inner : Inner ρ) (entry : Entry)

theorem client_name (name : String) (client : ProxmoxClient) (found : state.client name = some client) :
    client.name = name := by
  have named := List.find?_some (p := fun client : ProxmoxClient => client.name == name) found
  exact beq_iff_eq.mp named

def Sends (command : Command ρ) (call : ProxmoxCall) : Prop :=
  command.checks = .ok () ∧ command.call = .ok call

theorem command_calls (command : Command ρ) (upstream : Upstream) :
    Dialogue.Calls (command.run state) upstream ↔
      Sends command upstream.call ∧ (state.client command.cluster).isSome = true ∧
        command.cluster = upstream.cluster := by
  unfold Command.run Sends
  cases checked : command.checks with
  | error error => simp
  | ok passed =>
      cases found : state.client command.cluster with
      | none => simp
      | some client =>
          cases sent : command.call with
          | error error => simp
          | ok call =>
              have named := client_name state _ client found
              simp only [Dialogue.calls_ask, Dialogue.calls_done, exists_false, or_false, Except.ok.injEq,
                Option.isSome_some, true_and, named]
              refine ⟨?_, ?_⟩
              · rintro rfl
                exact ⟨rfl, rfl⟩
              · rintro ⟨rfl, cluster⟩
                rw [cluster]

theorem run_command_calls (handler : CommandHandler ρ) (upstream : Upstream) :
    Dialogue.Calls (runCommand handler entry state) upstream ↔
      ∃ command, handler entry state = .ok command ∧ Sends command upstream.call ∧
        (state.client command.cluster).isSome = true ∧ command.cluster = upstream.cluster := by
  unfold runCommand
  cases read : handler entry state with
  | error response => simp
  | ok command => simp [command_calls]

theorem bulk_action_calls (command : BulkCommand) (vms : List BulkVmRef) (upstream : Upstream) :
    Dialogue.Calls (bulkAction state command vms) upstream ↔
      ∃ vm ∈ vms, (state.client vm.cluster).isSome = true ∧ upstream = ⟨vm.cluster, command.call vm⟩ := by
  induction vms with
  | nil => simp [bulkAction]
  | cons vm rest ih =>
      rw [bulkAction, List.exists_mem_cons_iff]
      cases found : state.client vm.cluster with
      | none => simp [Dialogue.calls_map, ih]
      | some client =>
          simp only [Dialogue.calls_ask, Dialogue.calls_map, ih, client_name state _ client found,
            Option.isSome_some, true_and]
          refine or_congr_right ⟨?_, ?_⟩
          · rintro ⟨_, later⟩
            exact later
          · intro later
            exact ⟨.ok .null, later⟩

theorem run_bulk_calls (command : BulkCommand) (upstream : Upstream) :
    Dialogue.Calls (runBulk state libs command entry) upstream ↔
      ∃ vms, bulkRefs libs entry = .ok vms ∧
        ∃ vm ∈ vms, (state.client vm.cluster).isSome = true ∧ upstream = ⟨vm.cluster, command.call vm⟩ := by
  unfold runBulk
  cases read : bulkRefs libs entry with
  | error response => simp
  | ok vms => simp [Dialogue.calls_map, bulk_action_calls]

theorem bulk_not_command (handler : Handler) (command : BulkCommand) (bulk : bulkHandler handler = some command) :
    commandHandler libs inner handler = none := by
  unfold bulkHandler at bulk
  split at bulk <;> first | rfl | cases bulk

theorem handle_writes (upstream : Upstream) (writes : upstream.call.method ≠ .get) :
    Dialogue.Calls (handle libs inner entry state) upstream ↔
      (∃ handler, commandHandler libs inner entry.handler = some handler ∧
        Dialogue.Calls (runCommand handler entry state) upstream) ∨
      (∃ command, bulkHandler entry.handler = some command ∧
        Dialogue.Calls (runBulk state libs command entry) upstream) := by
  unfold handle
  cases single : commandHandler libs inner entry.handler with
  | some handler =>
      refine ⟨fun called => Or.inl ⟨handler, rfl, called⟩, ?_⟩
      rintro (⟨other, same, called⟩ | ⟨command, bulk, _⟩)
      · cases same
        exact called
      · rw [bulk_not_command libs inner entry.handler command bulk] at single
        cases single
  | none =>
      cases bulk : bulkHandler entry.handler with
      | some command =>
          refine ⟨fun called => Or.inr ⟨command, rfl, called⟩, ?_⟩
          rintro (⟨other, same, _⟩ | ⟨other, same, called⟩)
          · cases same
          · cases same
            exact called
      | none =>
          refine ⟨?_, ?_⟩
          · intro called
            cases view : viewHandler libs inner entry state entry.handler with
            | some program =>
                simp only [view] at called
                exact absurd (view_reads state libs inner entry entry.handler program view upstream called) writes
            | none =>
                simp only [view] at called
                exact absurd called (Dialogue.calls_done _ _)
          · rintro (⟨_, same, _⟩ | ⟨_, same, _⟩)
            · cases same
            · cases same

variable (decode : String → Except String Claims) (env : ServeEnv) (request : Request)

theorem serve_calls (handlers : Entry → AppState ρ → Program (AppState ρ × Response)) (upstream : Upstream) :
    Dialogue.Calls (serve decode handlers env request state) upstream ↔
      request.method ≠ .options ∧ env.limited = false ∧
        ∃ entry, (dispatch decode state request).outcome = .ok entry ∧
          Dialogue.Calls (handlers entry state) upstream := by
  unfold serve securityHeadersMiddleware
  rw [Dialogue.calls_map]
  unfold cors rateLimit auditMiddleware
  by_cases preflight : request.method = .options
  · simp [preflight]
  · cases limited : env.limited with
    | true => simp [preflight]
    | false =>
        simp only [preflight, if_false, Bool.false_eq_true, Dialogue.calls_map, ne_eq, not_false_eq_true, true_and]
        unfold router
        cases outcome : (dispatch decode state request).outcome with
        | error response => simp
        | ok entry => simp

end Calls

end Moxui.Api
