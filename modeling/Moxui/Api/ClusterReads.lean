import Moxui.Api.ClusterIsolation

set_option autoImplicit false

namespace Moxui.Api

open Moxui.Auth (Claims UserStore)
open Moxui.Proxmox (ProxmoxCall)

section Bodies

-- What `errorsOf` and `valuesOf` have in common: an object with a field for some of the results.
def gather (pick : Except AppError Json → Option Json) (results : Results) : List (String × Json) :=
  results.foldl (fun fields result => match pick result.2 with
    | some value => insertField fields result.1 value
    | none => fields) []

def errorText : Except AppError Json → Option Json
  | .ok _ => none
  | .error error => some (.str error.display)

theorem errors_gathered (results : Results) : errorsOf results = .obj (gather errorText results) := by
  rw [errorsOf, gather]
  congr 2
  funext fields result
  cases result.2 <;> rfl

theorem values_gathered (results : Results) : valuesOf results = gather Except.toOption results := by
  rw [valuesOf, gather]
  congr 1
  funext fields result
  cases result.2 <;> rfl

theorem insert_field_keys (fields : List (String × Json)) (key found : String) (value : Json) :
    found ∈ (insertField fields key value).map Prod.fst ↔ found = key ∨ found ∈ fields.map Prod.fst := by
  by_cases same : found = key
  · subst same
    simp [insertField]
  · simp [insertField, same]

theorem gather_snoc (pick : Except AppError Json → Option Json) (earlier : Results) (result : String × Except AppError Json) :
    gather pick (earlier ++ [result]) = match pick result.2 with
      | some value => insertField (gather pick earlier) result.1 value
      | none => gather pick earlier := by
  simp only [gather, List.foldl_append, List.foldl_cons, List.foldl_nil]

theorem gather_keys (pick : Except AppError Json → Option Json) (results : Results) (name : String) :
    name ∈ (gather pick results).map Prod.fst ↔ ∃ result ∈ results, result.1 = name ∧ (pick result.2).isSome = true := by
  induction results using List.reverseRecOn with
  | nil => simp [gather]
  | append_singleton earlier result ih =>
      rw [gather_snoc]
      cases picked : pick result.2 with
      | none => simp [ih, or_and_right, exists_or, picked]
      | some value =>
          rw [insert_field_keys, ih, or_comm]
          simp [or_and_right, exists_or, picked, @eq_comm _ result.1]

def answering (outcome : String → Except AppError Json) : Dialogue.Oracle Upstream Answer :=
  fun _ upstream => outcome upstream.cluster

def outcomes (outcome : String → Except AppError Json) (clients : List ProxmoxClient) : Results :=
  clients.map fun client => (client.name, outcome client.name)

theorem collect_answering (outcome : String → Except AppError Json) (call : ProxmoxCall) (clients : List ProxmoxClient)
    (past : List (Dialogue.Exchange Upstream Answer)) :
    (Dialogue.run (answering outcome) past (collect call clients)).2 = outcomes outcome clients := by
  induction clients generalizing past with
  | nil => rfl
  | cons client rest ih =>
      rw [collect, Dialogue.run_ask, Dialogue.run_bind, Dialogue.run_done, ih]
      rfl

def refusing503 : Except AppError Json :=
  .error (.proxmox "503 Service Unavailable")

def nothingListed : Except AppError Json :=
  .ok (.arr [])

def saying (allowed : List String) (outside : Except AppError Json) : Dialogue.Oracle Upstream Answer :=
  fun _ upstream => if upstream.cluster ∈ allowed then nothingListed else outside

def answered (allowed : List String) (outside : Except AppError Json) (clients : List ProxmoxClient) : Results :=
  clients.map fun client => (client.name, if client.name ∈ allowed then nothingListed else outside)

theorem collect_answered (allowed : List String) (outside : Except AppError Json) (call : ProxmoxCall)
    (clients : List ProxmoxClient) (past : List (Dialogue.Exchange Upstream Answer)) :
    (Dialogue.run (saying allowed outside) past (collect call clients)).2 = answered allowed outside clients :=
  collect_answering (fun name => if name ∈ allowed then nothingListed else outside) call clients past

def Tells {α : Type} (body : Results → α) : Prop :=
  ∀ allowed clients, (∃ client ∈ clients, client.name ∉ allowed) →
    body (answered allowed refusing503 clients) ≠ body (answered allowed nothingListed clients)

theorem mem_answered (allowed : List String) (outside : Except AppError Json) (clients : List ProxmoxClient)
    (client : ProxmoxClient) (member : client ∈ clients) (isOutside : client.name ∉ allowed) :
    (client.name, outside) ∈ answered allowed outside clients :=
  List.mem_map.mpr ⟨client, member, by rw [if_neg isOutside]⟩

theorem answered_nothing (allowed : List String) (clients : List ProxmoxClient) (result : String × Except AppError Json)
    (member : result ∈ answered allowed nothingListed clients) : result.2 = nothingListed := by
  obtain ⟨client, _, rfl⟩ := List.mem_map.mp member
  exact ite_self nothingListed

theorem errors_tell : Tells errorsOf := by
  intro allowed clients outside same
  obtain ⟨client, member, isOutside⟩ := outside
  rw [errors_gathered, errors_gathered, Json.obj.injEq] at same
  have shown : client.name ∈ (gather errorText (answered allowed refusing503 clients)).map Prod.fst :=
    (gather_keys _ _ _).mpr ⟨_, mem_answered allowed refusing503 clients client member isOutside, rfl, rfl⟩
  rw [same, gather_keys] at shown
  obtain ⟨result, listed, _, isError⟩ := shown
  rw [answered_nothing allowed clients result listed] at isError
  cases isError

theorem values_tell : Tells valuesOf := by
  intro allowed clients outside same
  obtain ⟨client, member, isOutside⟩ := outside
  rw [values_gathered, values_gathered] at same
  have shown : client.name ∈ (gather Except.toOption (answered allowed nothingListed clients)).map Prod.fst :=
    (gather_keys _ _ _).mpr ⟨_, mem_answered allowed nothingListed clients client member isOutside, rfl, rfl⟩
  rw [← same, gather_keys] at shown
  obtain ⟨result, listed, named, isValue⟩ := shown
  obtain ⟨other, _, rfl⟩ := List.mem_map.mp listed
  have otherOutside : other.name ∉ allowed := by
    rw [show other.name = client.name from named]
    exact isOutside
  rw [if_neg otherOutside] at isValue
  cases isValue

theorem tells_of {α β : Type} (view : Results → α) (body : Results → β) (told : Tells view)
    (shows : ∀ first second, body first = body second → view first = view second) : Tells body := by
  intro allowed clients outside same
  exact told allowed clients outside (shows _ _ same)

theorem table_tells (key : String) (rows : String → Json → List Json) : Tells (table key rows) := by
  refine tells_of errorsOf _ errors_tell ?_
  intro first second same
  simp only [table, Json.obj.injEq, List.cons.injEq, Prod.mk.injEq, true_and, and_true] at same
  exact same.2

theorem data_and_errors_tell : Tells dataAndErrors := by
  refine tells_of errorsOf _ errors_tell ?_
  intro first second same
  simp only [dataAndErrors, Json.obj.injEq, List.cons.injEq, Prod.mk.injEq, true_and, and_true] at same
  exact same.2

theorem cluster_data_tells : Tells clusterData := by
  refine tells_of valuesOf _ values_tell ?_
  intro first second same
  have injective : Function.Injective fun value : String × Json =>
      Json.obj [("cluster", .str value.1), ("data", value.2)] := by
    intro one other equal
    simp only [Json.obj.injEq, List.cons.injEq, Prod.mk.injEq, Json.str.injEq, true_and, and_true] at equal
    exact Prod.ext equal.1 equal.2
  rw [clusterData, clusterData, Json.arr.injEq] at same
  exact List.map_injective_iff.mpr injective same

end Bodies

section Commands

variable {ρ : Type}

-- What a command makes of an empty list does not read like the refusal of its cluster.
def Distinguishes (read : Except Response (Command ρ)) : Prop :=
  ∀ command, read = .ok command → ∀ state refusal,
    (command.finish (.arr []) state).2.body ≠ (failed state (.proxmox refusal)).2.body

theorem distinguishes_bind {α : Type} (first : Except Response α) (next : α → Except Response (Command ρ))
    (rest : ∀ value, Distinguishes (next value)) : Distinguishes (first >>= next) := by
  intro command read
  obtain ⟨value, _, later⟩ := except_bind_ok first next command read
  exact rest value command later

theorem distinguishes_ok (command : Command ρ)
    (differs : ∀ state refusal, (command.finish (.arr []) state).2.body ≠ (failed state (.proxmox refusal)).2.body) :
    Distinguishes (.ok command) := by
  intro _ read
  cases read
  exact differs

theorem reading_distinguishes (cluster : String) (call : ProxmoxCall) :
    Distinguishes (.ok (reading cluster call : Command ρ)) :=
  distinguishes_ok _ fun _ _ same => by cases same

theorem failed_bodies (state : AppState ρ) (first second : AppError)
    (same : (failed state first).2.body = (failed state second).2.body) : first.message = second.message := by
  simp only [failed, AppError.intoResponse, jsonResponse, ResponseBody.json.injEq, Json.obj.injEq, List.cons.injEq,
    Prod.mk.injEq, Json.str.injEq, true_and, and_true] at same
  exact same

theorem not_found_shown (text refusal : String) :
    (AppError.notFound text).message ≠ (AppError.proxmox refusal).message := by
  intro same
  have chars : "Not found: ".toList ++ text.toList = "Internal server error".toList :=
    String.toList_append.symm.trans (congrArg String.toList same)
  cases chars

theorem too_many_shown (refusal : String) :
    (AppError.tooManyRequests "too many concurrent VNC sessions for this VM").message ≠
      (AppError.proxmox refusal).message := by
  show "Too many requests: " ++ "too many concurrent VNC sessions for this VM" ≠ "Internal server error"
  decide

variable (libs : ApiLibs) (entry : Entry) (state : AppState ρ)

theorem vm_detail_distinguishes : Distinguishes (vmDetail libs entry state) := by
  refine distinguishes_bind _ _ fun target => distinguishes_ok _ ?_
  intro state refusal same
  exact not_found_shown _ refusal (failed_bodies state _ _ same)

theorem list_snapshots_distinguishes : Distinguishes (listSnapshotsHandler libs entry state) := by
  refine distinguishes_bind _ _ fun auth => distinguishes_bind _ _ fun path => distinguishes_ok _ ?_
  intro state refusal same
  simp [operating, answerJson, failed, AppError.intoResponse, jsonResponse] at same

theorem lxc_detail_distinguishes : Distinguishes (lxcDetail libs entry state) := by
  refine distinguishes_bind _ _ fun path => distinguishes_ok _ ?_
  intro state refusal same
  simp [failed, AppError.intoResponse, jsonResponse] at same

theorem replication_status_distinguishes : Distinguishes (getReplicationStatus libs entry state) := by
  refine distinguishes_bind _ _ fun target => distinguishes_ok _ ?_
  intro state refusal same
  simp [answerJson, failed, AppError.intoResponse, jsonResponse] at same

-- The 101 of an upgrade has no body.
def UpgradeIsEmpty (libs : ApiLibs) : Prop :=
  ∀ request response, libs.webSocketUpgrade request = .ok response → response.body = .empty

theorem vnc_ws_distinguishes (tryAcquire : String → AppState ρ → AppState ρ × Bool) (emptyUpgrade : UpgradeIsEmpty libs) :
    Distinguishes (vncWsHandler libs entry tryAcquire state) := by
  intro command read
  obtain ⟨path, _, afterPath⟩ := except_bind_ok _ _ _ read
  obtain ⟨token, _, afterToken⟩ := except_bind_ok _ _ _ afterPath
  obtain ⟨upgrade, upgraded, isCommand⟩ := except_bind_ok _ _ _ afterToken
  have noBody := emptyUpgrade _ _ upgraded
  cases isCommand
  intro state refusal same
  dsimp only at same
  split at same
  · rw [noBody] at same
    cases same
  · exact too_many_shown refusal (failed_bodies state _ _ same)

def clusterReads : List Handler :=
  [.vmDetail, .vmConfigHandler, .listSnapshotsHandler, .lxcDetail, .lxcConfigHandler, .storageContent, .nodeNetworks,
    .taskStatus, .taskLog, .getReplicationStatus, .vmRrddataHandler, .vncWsHandler]

theorem cluster_read_distinguishes (inner : Inner ρ) (emptyUpgrade : UpgradeIsEmpty libs) (handler : Handler)
    (listed : handler ∈ clusterReads) (command : CommandHandler ρ)
    (single : commandHandler libs inner handler = some command) : Distinguishes (command entry state) := by
  simp only [clusterReads, List.mem_cons, List.not_mem_nil, or_false] at listed
  rcases listed with rfl | rfl | rfl | rfl | rfl | rfl | rfl | rfl | rfl | rfl | rfl | rfl <;> cases single
  · exact vm_detail_distinguishes libs entry state
  · exact distinguishes_bind _ _ fun path => reading_distinguishes _ _
  · exact list_snapshots_distinguishes libs entry state
  · exact lxc_detail_distinguishes libs entry state
  · exact distinguishes_bind _ _ fun path => reading_distinguishes _ _
  · exact distinguishes_bind _ _ fun path => reading_distinguishes _ _
  · exact distinguishes_bind _ _ fun path => reading_distinguishes _ _
  · exact distinguishes_bind _ _ fun path => reading_distinguishes _ _
  · exact distinguishes_bind _ _ fun path => reading_distinguishes _ _
  · exact replication_status_distinguishes libs entry state
  · exact distinguishes_bind _ _ fun path => distinguishes_bind _ _ fun timeframe => reading_distinguishes _ _
  · exact vnc_ws_distinguishes libs entry state inner.tryAcquire emptyUpgrade

end Commands

section Views

variable {ρ : Type} (libs : ApiLibs) (inner : Inner ρ) (entry : Entry) (state : AppState ρ)

def aggregateHandlers : List Handler :=
  [.listVms, .listLxcs, .listStorages, .listNetworks, .listVlans, .listHaGroups, .haStatus, .listReplicationJobs,
    .cephStatus, .cephPools, .firewallRules, .sdnZones, .sdnVnets, .clusterStatus, .clusterConfig, .clusterOptions,
    .clusterLog, .clusterTasks]

def SearchReadable : Prop :=
  entry.handler = .listVms → ∃ search, libs.vmsQuery entry.request = .ok search

inductive ViewShape : Program (AppState ρ × Response) → Prop where
  | aggregate (call : ProxmoxCall) (body : Results → Json) (listed : entry.handler ∈ aggregateHandlers)
      (readable : SearchReadable libs entry) (tells : Tells body) : ViewShape (aggregate state call body)
  | unreadable (response : Response) (unread : ¬SearchReadable libs entry) : ViewShape (.done (state, response))
  | dashboard (named : entry.handler = .dashboard) : ViewShape (dashboard state inner entry)
  | backups (named : entry.handler = .listBackupsHandler) : ViewShape (listBackupsHandler state libs entry)
  | readyz (named : entry.handler = .readyz) : ViewShape (readyz state inner)

theorem list_vms_shape (named : entry.handler = .listVms) : ViewShape libs inner entry state (listVms state libs entry) := by
  unfold listVms
  cases read : libs.vmsQuery entry.request with
  | error response =>
      refine .unreadable response fun readable => ?_
      obtain ⟨search, isRead⟩ := readable named
      rw [read] at isRead
      cases isRead
  | ok search =>
      refine .aggregate _ _ (by rw [named]; decide) (fun _ => ⟨search, read⟩) ?_
      refine tells_of errorsOf _ errors_tell ?_
      intro first second same
      simp only [Json.obj.injEq, List.cons.injEq, Prod.mk.injEq, true_and, and_true] at same
      exact same.2

theorem data_body_tells (more : List (String × Json)) :
    Tells fun results => Json.obj (("clusters", clusterData results) :: more) := by
  refine tells_of clusterData _ cluster_data_tells ?_
  intro first second same
  simp only [Json.obj.injEq, List.cons.injEq, Prod.mk.injEq, true_and, and_true] at same
  exact same

theorem plain_shape (call : ProxmoxCall) (body : Results → Json) (listed : entry.handler ∈ aggregateHandlers)
    (other : entry.handler ≠ .listVms) (tells : Tells body) :
    ViewShape libs inner entry state (aggregate state call body) :=
  .aggregate call body listed (fun named => absurd named other) tells

theorem view_shape (program : Program (AppState ρ × Response))
    (found : viewHandler libs inner entry state entry.handler = some program) :
    ViewShape libs inner entry state program := by
  have plain : ∀ handler ∈ aggregateHandlers, handler ≠ .listVms → entry.handler = handler →
      ∀ call body, Tells body → ViewShape libs inner entry state (aggregate state call body) := by
    intro handler listed other named call body tells
    exact plain_shape libs inner entry state call body (named ▸ listed) (named ▸ other) tells
  cases named : entry.handler <;> rw [named] at found <;> cases found
  case listVms => exact list_vms_shape libs inner entry state named
  case dashboard => exact .dashboard named
  case listBackupsHandler => exact .backups named
  case readyz => exact .readyz named
  all_goals
    refine plain _ ?_ ?_ named _ _ ?_
    · decide
    · decide
    · first
        | exact table_tells _ _
        | exact data_and_errors_tell
        | exact data_body_tells _

theorem view_alone (handler : Handler) (program : Program (AppState ρ × Response))
    (found : viewHandler libs inner entry state handler = some program) :
    commandHandler libs inner handler = none ∧ bulkHandler handler = none := by
  unfold viewHandler at found
  split at found <;> first | exact ⟨rfl, rfl⟩ | cases found

theorem view_handled (program : Program (AppState ρ × Response))
    (viewed : viewHandler libs inner entry state entry.handler = some program) :
    handle libs inner entry state = program := by
  obtain ⟨notCommand, notBulk⟩ := view_alone libs inner entry state entry.handler program viewed
  simp only [handle, notCommand, notBulk, viewed]

theorem aggregate_viewed (handler : Handler) (listed : handler ∈ aggregateHandlers) :
    ∃ program, viewHandler libs inner entry state handler = some program := by
  have all : aggregateHandlers.map (fun handler => (viewHandler libs inner entry state handler).isSome) =
      aggregateHandlers.map fun _ => true := rfl
  exact Option.isSome_iff_exists.mp (List.map_inj_left.mp all handler listed)

end Views

end Moxui.Api
