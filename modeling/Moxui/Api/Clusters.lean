import Moxui.Api.Handlers

set_option autoImplicit false

namespace Moxui.Api

open Moxui.Proxmox (ProxmoxCall)

-- What the server does besides talking to the clusters: the handlers that ask none of them, the
-- limiter of VNC sessions, the readiness cache, and the totals of the dashboard.
structure Inner (ρ : Type) where
  answer : Entry → AppState ρ → AppState ρ × Response
  tryAcquire : String → AppState ρ → AppState ρ × Bool
  stale : AppState ρ → ProxmoxClient → Bool
  probed : AppState ρ → List (String × Bool) → AppState ρ × Response
  dashboardBody : List (String × Except AppError (Json × Json × Json)) → Json

section Bulk

variable {ρ : Type} (state : AppState ρ)

structure BulkCommand where
  action : String
  call : BulkVmRef → ProxmoxCall

def bulkResultRow (vm : BulkVmRef) (action status message : String) : Json :=
  .obj [("cluster", .str vm.cluster), ("node", .str vm.node), ("vmid", .nat vm.vmid.toNat), ("action", .str action),
    ("status", .str status), ("message", .str message)]

def bulkResult (vm : BulkVmRef) (action : String) : Except AppError Json → Json
  | .ok upid => bulkResultRow vm action "ok" (upid.asStr.getD "")
  | .error error => bulkResultRow vm action "error" error.display

-- The references are served at the same time; here one after the other.
def bulkAction (command : BulkCommand) : List BulkVmRef → Program (List Json)
  | [] => .done []
  | vm :: vms =>
      match state.client vm.cluster with
      | none => (bulkAction command vms).bind fun rows =>
          .done (bulkResultRow vm command.action "error" ("cluster '" ++ vm.cluster ++ "' not configured") :: rows)
      | some client => .ask ⟨client.name, command.call vm⟩ fun answer =>
          (bulkAction command vms).bind fun rows => .done (bulkResult vm command.action answer :: rows)

def bulkStart : BulkCommand :=
  ⟨"start", fun vm => .vmAction vm.node vm.vmid .start⟩

def bulkStop : BulkCommand :=
  ⟨"stop", fun vm => .vmAction vm.node vm.vmid .stop⟩

def bulkReboot : BulkCommand :=
  ⟨"reboot", fun vm => .vmAction vm.node vm.vmid .reboot⟩

def bulkDelete : BulkCommand :=
  ⟨"delete", fun vm => .deleteVm vm.node vm.vmid false false false⟩

def bulkRefs (libs : ApiLibs) (entry : Entry) : Except Response (List BulkVmRef) := do
  let auth ← authContext entry
  let body ← libs.bulkActionRequest entry.request
  match operatorOnly auth with
  | .ok () => .ok body.vms
  | .error error => .error error.intoResponse

def runBulk (libs : ApiLibs) (command : BulkCommand) (entry : Entry) : Program (AppState ρ × Response) :=
  match bulkRefs libs entry with
  | .error response => .done (state, response)
  | .ok vms => (bulkAction state command vms).bind fun rows =>
      .done (state, jsonResponse 200 (.obj [("results", .arr rows)]))

end Bulk

section Aggregates

abbrev Results : Type :=
  List (String × Except AppError Json)

-- All clusters are asked, whatever the others answer.
def collect (call : ProxmoxCall) : List ProxmoxClient → Program Results
  | [] => .done []
  | client :: clients => .ask ⟨client.name, call⟩ fun answer =>
      (collect call clients).bind fun results => .done ((client.name, answer) :: results)

-- `HashMap::insert`.
def insertField (fields : List (String × Json)) (key : String) (value : Json) : List (String × Json) :=
  (fields.filter fun field => field.1 ≠ key) ++ [(key, value)]

def errorsOf (results : Results) : Json :=
  .obj (results.foldl (fun fields result => match result.2 with
    | .ok _ => fields
    | .error error => insertField fields result.1 (.str error.display)) [])

def valuesOf (results : Results) : List (String × Json) :=
  results.foldl (fun fields result => match result.2 with
    | .ok value => insertField fields result.1 value
    | .error _ => fields) []

def rowsOf (rows : String → Json → List Json) (results : Results) : List Json :=
  results.flatMap fun result => match result.2 with
    | .ok data => rows result.1 data
    | .error _ => []

def present (row : Json) : Json :=
  match row with
  | .obj fields => .obj (fields.filter fun field => match field.2 with
      | .null => false
      | _ => true)
  | other => other

def tagged (columns : List (String × String)) (cluster : String) (item : Json) : Json :=
  rowOf [("cluster", .str cluster)] columns item

def taggedNode (columns : List (String × String)) (cluster : String) (item : Json) : Json :=
  rowOf [("cluster", .str cluster), ("node", .str cluster)] columns item

def lxcColumns : List (String × String) :=
  ["vmid", "name", "node", "status", "cpu", "cpus", "mem", "maxmem", "uptime", "template"].map same

def storageColumns : List (String × String) :=
  [same "storage", ("kind", "type")] ++
    ["total", "used", "avail", "used_fraction", "enabled", "shared", "content"].map same

def networkColumns : List (String × String) :=
  [same "iface", ("kind", "type")] ++ ["active", "address", "gateway", "address6", "gateway6", "bridge_ports",
    "iface_vlan_raw_device", "vlan_id", "autostart", "comments"].map same

def vlanColumns : List (String × String) :=
  [same "iface", same "vlan_id", ("raw_device", "iface_vlan_raw_device"), same "active", same "address", same "comments"]

def haGroupColumns : List (String × String) :=
  ["group", "nodes", "type", "comment", "nofailback", "restricted"].map same

def replicationColumns : List (String × String) :=
  ["id", "enable", "source_node", "source_vmid", "target", "target_vmid", "rate", "schedule", "comment", "type"].map same

def contains (text pattern : String) : Bool :=
  text.toList.tails.any fun tail => pattern.toList.isPrefixOf tail

def nameContains (libs : ApiLibs) (search : String) (row : Json) : Bool :=
  contains (libs.lowercase (((row.get "name").bind Json.asStr).getD "")) (libs.lowercase search)

variable {ρ : Type} (state : AppState ρ)

def respondWith (state : AppState ρ) (results : Program Results) (body : Results → Json) :
    Program (AppState ρ × Response) :=
  results.bind fun results => .done (state, jsonResponse 200 (body results))

def table (key : String) (rows : String → Json → List Json) (results : Results) : Json :=
  .obj [(key, .arr (rowsOf rows results)), ("errors", errorsOf results)]

def dataAndErrors (results : Results) : Json :=
  .obj [("data", .obj (valuesOf results)), ("errors", errorsOf results)]

-- `collect_aggregated` only logs the errors.
def clusterData (results : Results) : Json :=
  .arr ((valuesOf results).map fun value => .obj [("cluster", .str value.1), ("data", value.2)])

def aggregate (call : ProxmoxCall) (body : Results → Json) : Program (AppState ρ × Response) :=
  respondWith state (collect call state.clients) body

def listVms (libs : ApiLibs) (entry : Entry) : Program (AppState ρ × Response) :=
  match libs.vmsQuery entry.request with
  | .error response => .done (state, response)
  | .ok search => aggregate state .listResources fun results =>
      let vms := rowsOf (fun cluster data => (items data).map (tagged vmColumns cluster)) results
      let shown := match search with
        | some search => vms.filter (nameContains libs search)
        | none => vms
      .obj [("vms", .arr shown), ("errors", errorsOf results)]

def listLxcs : Program (AppState ρ × Response) :=
  aggregate state .listResources (table "lxcs" fun cluster data =>
    ((items data).filter (jsonIs "type" "lxc")).map (tagged lxcColumns cluster))

def listStorages : Program (AppState ρ × Response) :=
  aggregate state .listAllStorages (table "storages" fun cluster data =>
    (items data).map (taggedNode storageColumns cluster))

def listNetworks : Program (AppState ρ × Response) :=
  aggregate state .listAllNetworks (table "networks" fun cluster data =>
    (items data).map (taggedNode networkColumns cluster))

def listVlans : Program (AppState ρ × Response) :=
  aggregate state .listAllNetworks (table "vlans" fun cluster data =>
    ((items data).filter (jsonIs "type" "vlan")).map (tagged vlanColumns cluster))

def listHaGroups : Program (AppState ρ × Response) :=
  aggregate state .listHaGroups (table "groups" fun cluster data =>
    (items data).map fun item => present (tagged haGroupColumns cluster item))

def listReplicationJobs : Program (AppState ρ × Response) :=
  aggregate state .listReplicationJobs (table "replication_jobs" fun cluster data =>
    (items data).map fun item => present (tagged replicationColumns cluster item))

def haStatus : Program (AppState ρ × Response) :=
  aggregate state .haStatus dataAndErrors

def cephStatus : Program (AppState ρ × Response) :=
  aggregate state .cephStatus dataAndErrors

def cephPools : Program (AppState ρ × Response) :=
  aggregate state .cephPools dataAndErrors

def firewallRules : Program (AppState ρ × Response) :=
  aggregate state .firewallRules dataAndErrors

def sdnZones : Program (AppState ρ × Response) :=
  aggregate state .sdnZones dataAndErrors

def sdnVnets : Program (AppState ρ × Response) :=
  aggregate state .sdnVnets dataAndErrors

def clusterStatus : Program (AppState ρ × Response) :=
  aggregate state .clusterStatus fun results => .obj [("clusters", clusterData results), ("errors", .obj [])]

def clusterConfig : Program (AppState ρ × Response) :=
  aggregate state .clusterConfigInfo fun results => .obj [("clusters", clusterData results)]

def clusterOptions : Program (AppState ρ × Response) :=
  aggregate state .clusterOptions fun results => .obj [("clusters", clusterData results)]

def clusterLog : Program (AppState ρ × Response) :=
  aggregate state .clusterLog fun results => .obj [("clusters", clusterData results)]

def clusterTasks : Program (AppState ρ × Response) :=
  aggregate state .clusterTasks fun results => .obj [("clusters", clusterData results)]

-- Unlike `userCanAccessCluster`, an empty list lets nothing through here.
def AppState.clientsForUser (username : String) : List ProxmoxClient :=
  match state.auth.users.allowedClusters.lookup username with
  | none => state.clients
  | some clusters => state.clients.filter fun client => clusters.any fun allowed => allowed == client.name

-- The version, and if the cluster answers, its resources and its storages. Whichever call
-- fails, the dashboard shows the same: an unreachable cluster with the error.
def collectClusterDashboard (client : ProxmoxClient) : Program (Except AppError (Json × Json × Json)) :=
  .ask ⟨client.name, .version⟩ fun version =>
    match version with
    | .error error => .done (.error error)
    | .ok version => .ask ⟨client.name, .listResources⟩ fun resources =>
        .ask ⟨client.name, .listAllStorages⟩ fun storages => .done do
          let resources ← resources
          let storages ← storages
          .ok (version, resources, storages)

def collectDashboards : List ProxmoxClient → Program (List (String × Except AppError (Json × Json × Json)))
  | [] => .done []
  | client :: clients => (collectClusterDashboard client).bind fun dashboard =>
      (collectDashboards clients).bind fun dashboards => .done ((client.name, dashboard) :: dashboards)

def dashboard (inner : Inner ρ) (entry : Entry) : Program (AppState ρ × Response) :=
  match authContext entry with
  | .error response => .done (state, response)
  | .ok auth => (collectDashboards (state.clientsForUser auth.claims.username)).bind fun dashboards =>
      .done (state, jsonResponse 200 (inner.dashboardBody dashboards))

def backupColumns : List (String × String) :=
  [same "volid", same "storage", ("filename", "volid_name"), same "size", same "format", same "ctime"]

def backupsIn (vmid : UInt32) (contents : Except AppError Json) : List Json :=
  match contents with
  | .error _ => []
  | .ok contents =>
      ((items contents).filter fun item =>
        jsonIs "content" "backup" item && contains (((item.get "volid").bind Json.asStr).getD "") (toString vmid)).map
        fun item => match rowOf [] backupColumns item with
          | .obj fields => .obj (fields ++ [("notes", .null)])
          | row => row

-- A storage that cannot be read is passed over.
def collectBackups (cluster node : String) (vmid : UInt32) : List Json → Program (List Json)
  | [] => .done []
  | storage :: storages =>
      .ask ⟨cluster, .storageContent node (((storage.get "storage").bind Json.asStr).getD "")⟩ fun contents =>
        (collectBackups cluster node vmid storages).bind fun backups => .done (backupsIn vmid contents ++ backups)

def backupRequest (libs : ApiLibs) (entry : Entry) : Except Response (ProxmoxClient × VmPath) := do
  let auth ← authContext entry
  let path ← vmPath libs entry
  match operatorOnly auth with
  | .error error => .error error.intoResponse
  | .ok () =>
      match state.client path.cluster with
      | none => .error (notConfigured path.cluster).intoResponse
      | some client => .ok (client, path)

def listBackupsHandler (libs : ApiLibs) (entry : Entry) : Program (AppState ρ × Response) :=
  match backupRequest state libs entry with
  | .error response => .done (state, response)
  | .ok (client, path) => .ask ⟨client.name, .listStorages path.node⟩ fun storages =>
      match storages with
      | .error error => .done (failed state error)
      | .ok storages => (collectBackups client.name path.node path.vmid (items storages)).bind fun backups =>
          .done (state, jsonResponse 200 (.obj [("backups", .arr backups)]))

def succeeded (result : String × Except AppError Json) : String × Bool :=
  (result.1, match result.2 with
    | .ok _ => true
    | .error _ => false)

-- Only the clusters are probed whose last probe is too old.
def readyz (inner : Inner ρ) : Program (AppState ρ × Response) :=
  (collect .version (state.clients.filter (inner.stale state))).bind fun results =>
    .done (inner.probed state (results.map succeeded))

end Aggregates

section Handle

variable {ρ : Type} (libs : ApiLibs) (inner : Inner ρ)

def commandHandler : Handler → Option (CommandHandler ρ)
  | .vmDetail => some (vmDetail libs)
  | .vmActionHandler => some (vmActionHandler libs)
  | .migrateVmHandler => some (migrateVmHandler libs)
  | .createVmHandler => some (createVmHandler libs)
  | .cloneVmHandler => some (cloneVmHandler libs)
  | .vmConfigHandler => some (vmConfigHandler libs)
  | .updateVmConfigHandler => some (updateVmConfigHandler libs)
  | .listSnapshotsHandler => some (listSnapshotsHandler libs)
  | .createSnapshotHandler => some (createSnapshotHandler libs)
  | .deleteSnapshotHandler => some (deleteSnapshotHandler libs)
  | .rollbackSnapshotHandler => some (rollbackSnapshotHandler libs)
  | .backupVmHandler => some (backupVmHandler libs)
  | .resizeDiskHandler => some (resizeDiskHandler libs)
  | .vmTemplateHandler => some (vmTemplateHandler libs)
  | .vmSendkeyHandler => some (vmSendkeyHandler libs)
  | .vmRrddataHandler => some (vmRrddataHandler libs)
  | .lxcDetail => some (lxcDetail libs)
  | .lxcActionHandler => some (lxcActionHandler libs)
  | .lxcDeleteHandler => some (lxcDeleteHandler libs)
  | .lxcCreateHandler => some (lxcCreateHandler libs)
  | .lxcConfigHandler => some (lxcConfigHandler libs)
  | .lxcUpdateConfigHandler => some (lxcUpdateConfigHandler libs)
  | .storageContent => some (storageContent libs)
  | .storageUploadHandler => some (storageUploadHandler libs)
  | .deleteStorageContentHandler => some (deleteStorageContentHandler libs)
  | .nodeNetworks => some (nodeNetworks libs)
  | .networkConfigUpdateHandler => some (networkConfigUpdateHandler libs)
  | .networkConfigApplyHandler => some (networkConfigApplyHandler libs)
  | .taskStatus => some (taskStatus libs)
  | .taskLog => some (taskLog libs)
  | .taskDelete => some (taskDelete libs)
  | .createHaGroup => some (createHaGroup libs)
  | .deleteHaGroup => some (deleteHaGroup libs)
  | .createReplicationJob => some (createReplicationJob libs)
  | .deleteReplicationJob => some (deleteReplicationJob libs)
  | .getReplicationStatus => some (getReplicationStatus libs)
  | .vncTicketHandler => some (vncTicketHandler libs)
  | .vncWsHandler => some fun entry => vncWsHandler libs entry inner.tryAcquire
  | _ => none

def bulkHandler : Handler → Option BulkCommand
  | .bulkStart => some bulkStart
  | .bulkStop => some bulkStop
  | .bulkReboot => some bulkReboot
  | .bulkDelete => some bulkDelete
  | _ => none

def viewHandler (entry : Entry) (state : AppState ρ) : Handler → Option (Program (AppState ρ × Response))
  | .listVms => some (listVms state libs entry)
  | .listLxcs => some (listLxcs state)
  | .listStorages => some (listStorages state)
  | .listNetworks => some (listNetworks state)
  | .listVlans => some (listVlans state)
  | .listHaGroups => some (listHaGroups state)
  | .haStatus => some (haStatus state)
  | .listReplicationJobs => some (listReplicationJobs state)
  | .cephStatus => some (cephStatus state)
  | .cephPools => some (cephPools state)
  | .firewallRules => some (firewallRules state)
  | .sdnZones => some (sdnZones state)
  | .sdnVnets => some (sdnVnets state)
  | .clusterStatus => some (clusterStatus state)
  | .clusterConfig => some (clusterConfig state)
  | .clusterOptions => some (clusterOptions state)
  | .clusterLog => some (clusterLog state)
  | .clusterTasks => some (clusterTasks state)
  | .dashboard => some (dashboard state inner entry)
  | .listBackupsHandler => some (listBackupsHandler state libs entry)
  | .readyz => some (readyz state inner)
  | _ => none

def handle (entry : Entry) (state : AppState ρ) : Program (AppState ρ × Response) :=
  match commandHandler libs inner entry.handler with
  | some handler => runCommand handler entry state
  | none =>
      match bulkHandler entry.handler with
      | some command => runBulk state libs command entry
      | none =>
          match viewHandler libs inner entry state entry.handler with
          | some program => program
          | none => .done (inner.answer entry state)

end Handle

end Moxui.Api
