import Moxui.Lib.Text

set_option autoImplicit false

namespace Moxui.Api

inductive HttpMethod where
  | get
  | head
  | post
  | put
  | delete
  | patch
  | options
  | connect
  | trace
  | extension (name : String)
deriving DecidableEq, Repr

-- The handler functions. Those of the webauthn module that share a name with another module
-- carry the module's name.
inductive Handler where
  | metricsHandler
  | health
  | livez
  | readyz
  | login
  | refresh
  | logout
  | twoFactorComplete
  | oidcLogin
  | oidcCallback
  | webauthnLoginStart
  | webauthnLoginComplete
  | ldapLogin
  | me
  | dashboard
  | getCustomDashboard
  | saveCustomDashboard
  | getAvailableWidgetTypes
  | listAudit
  | listVms
  | bulkStart
  | bulkStop
  | bulkReboot
  | bulkDelete
  | listLxcs
  | listStorages
  | listNetworks
  | listHaGroups
  | createHaGroup
  | deleteHaGroup
  | listReplicationJobs
  | twoFactorSetup
  | twoFactorVerify
  | twoFactorDisable
  | webauthnRegisterStart
  | webauthnRegisterComplete
  | listUsers
  | createUser
  | updateUser
  | deleteUser
  | cephStatus
  | cephPools
  | firewallRules
  | sdnZones
  | sdnVnets
  | haStatus
  | listVlans
  | clusterStatus
  | clusterConfig
  | clusterOptions
  | clusterLog
  | clusterTasks
  | vmDetail
  | vmActionHandler
  | migrateVmHandler
  | createVmHandler
  | cloneVmHandler
  | vmConfigHandler
  | updateVmConfigHandler
  | listSnapshotsHandler
  | createSnapshotHandler
  | deleteSnapshotHandler
  | rollbackSnapshotHandler
  | backupVmHandler
  | listBackupsHandler
  | resizeDiskHandler
  | lxcDetail
  | lxcActionHandler
  | lxcDeleteHandler
  | storageContent
  | storageUploadHandler
  | deleteStorageContentHandler
  | nodeNetworks
  | taskStatus
  | vncTicketHandler
  | vncWsHandler
  | createReplicationJob
  | deleteReplicationJob
  | getReplicationStatus
  | vmTemplateHandler
  | vmSendkeyHandler
  | vmRrddataHandler
  | taskLog
  | taskDelete
  | lxcCreateHandler
  | lxcConfigHandler
  | lxcUpdateConfigHandler
  | networkConfigUpdateHandler
  | networkConfigApplyHandler
  | serveIndex
  | serveStatic
  | serveLocales
deriving DecidableEq, Repr

inductive RouteLayer where
  | requireAuth
  | requireClusterAccess
deriving DecidableEq, Repr

-- "/a/:b/*c" is read as its parts: literal segments, parameters and a rest.
inductive PatternPart where
  | static (text : String)
  | param (name : String)
  | rest (name : String)
deriving DecidableEq, Repr

-- `layers` are in the order in which they run.
structure Route where
  pattern : List PatternPart
  methods : List (HttpMethod × Handler)
  layers : List RouteLayer
deriving DecidableEq, Repr

def lit (text : String) : PatternPart :=
  .static text

def arg (name : String) : PatternPart :=
  .param name

def v1 (parts : List PatternPart) : List PatternPart :=
  lit "api" :: lit "v1" :: parts

def route (pattern : List PatternPart) (methods : List (HttpMethod × Handler)) : Route :=
  { pattern := pattern, methods := methods, layers := [] }

def get (handler : Handler) : List (HttpMethod × Handler) :=
  [(.get, handler)]

def post (handler : Handler) : List (HttpMethod × Handler) :=
  [(.post, handler)]

def put (handler : Handler) : List (HttpMethod × Handler) :=
  [(.put, handler)]

def delete (handler : Handler) : List (HttpMethod × Handler) :=
  [(.delete, handler)]

-- The layer added last runs first.
def routeLayer (layer : RouteLayer) (routes : List Route) : List Route :=
  routes.map fun route => { route with layers := layer :: route.layers }

def publicRoutes : List Route :=
  [route [lit "metrics"] (get .metricsHandler),
    route [lit "health"] (get .health),
    route [lit "livez"] (get .livez),
    route [lit "readyz"] (get .readyz),
    route (v1 [lit "auth", lit "login"]) (post .login),
    route (v1 [lit "auth", lit "refresh"]) (post .refresh),
    route (v1 [lit "auth", lit "logout"]) (post .logout),
    route (v1 [lit "auth", lit "2fa", lit "complete"]) (post .twoFactorComplete),
    route (v1 [lit "auth", lit "oidc", lit "login"]) (post .oidcLogin),
    route (v1 [lit "auth", lit "oidc", lit "callback"]) (post .oidcCallback),
    route (v1 [lit "auth", lit "webauthn", lit "login", lit "start"]) (post .webauthnLoginStart),
    route (v1 [lit "auth", lit "webauthn", lit "login", lit "complete"]) (post .webauthnLoginComplete),
    route (v1 [lit "auth", lit "ldap", lit "login"]) (post .ldapLogin)]

def protectedRoutes : List Route :=
  routeLayer .requireAuth
    [route (v1 [lit "auth", lit "me"]) (get .me),
      route (v1 [lit "dashboard"]) (get .dashboard),
      route (v1 [lit "dashboard", lit "custom"]) (get .getCustomDashboard ++ post .saveCustomDashboard),
      route (v1 [lit "dashboard", lit "custom", lit "widget-types"]) (get .getAvailableWidgetTypes),
      route (v1 [lit "audit"]) (get .listAudit),
      route (v1 [lit "vms"]) (get .listVms),
      route (v1 [lit "vms", lit "bulk", lit "start"]) (post .bulkStart),
      route (v1 [lit "vms", lit "bulk", lit "stop"]) (post .bulkStop),
      route (v1 [lit "vms", lit "bulk", lit "reboot"]) (post .bulkReboot),
      route (v1 [lit "vms", lit "bulk", lit "delete"]) (post .bulkDelete),
      route (v1 [lit "lxcs"]) (get .listLxcs),
      route (v1 [lit "storages"]) (get .listStorages),
      route (v1 [lit "networks"]) (get .listNetworks),
      route (v1 [lit "hagroups"]) (get .listHaGroups),
      route (v1 [lit "hagroups", arg "cluster", arg "group"]) (post .createHaGroup ++ delete .deleteHaGroup),
      route (v1 [lit "replication"]) (get .listReplicationJobs),
      route (v1 [lit "auth", lit "2fa", lit "setup"]) (post .twoFactorSetup),
      route (v1 [lit "auth", lit "2fa", lit "verify"]) (post .twoFactorVerify),
      route (v1 [lit "auth", lit "2fa", lit "disable"]) (post .twoFactorDisable),
      route (v1 [lit "auth", lit "webauthn", lit "register", lit "start"]) (post .webauthnRegisterStart),
      route (v1 [lit "auth", lit "webauthn", lit "register", lit "complete"]) (post .webauthnRegisterComplete),
      route (v1 [lit "users"]) (get .listUsers ++ post .createUser),
      route (v1 [lit "users", arg "username"]) (put .updateUser ++ delete .deleteUser),
      route (v1 [lit "ceph", lit "status"]) (get .cephStatus),
      route (v1 [lit "ceph", lit "pools"]) (get .cephPools),
      route (v1 [lit "firewall", lit "rules"]) (get .firewallRules),
      route (v1 [lit "sdn", lit "zones"]) (get .sdnZones),
      route (v1 [lit "sdn", lit "vnets"]) (get .sdnVnets),
      route (v1 [lit "hagroups", lit "status"]) (get .haStatus),
      route (v1 [lit "networks", lit "vlans"]) (get .listVlans),
      route (v1 [lit "cluster", lit "status"]) (get .clusterStatus),
      route (v1 [lit "cluster", lit "config"]) (get .clusterConfig),
      route (v1 [lit "cluster", lit "options"]) (get .clusterOptions),
      route (v1 [lit "cluster", lit "log"]) (get .clusterLog),
      route (v1 [lit "cluster", lit "tasks"]) (get .clusterTasks)]

def clusterScopedRoutes : List Route :=
  routeLayer .requireAuth (routeLayer .requireClusterAccess
    [route (v1 [lit "vms", arg "cluster", arg "vmid"]) (get .vmDetail),
      route (v1 [lit "vms", arg "cluster", arg "node", arg "vmid", arg "action"]) (post .vmActionHandler),
      route (v1 [lit "vms", arg "cluster", arg "node", arg "vmid", lit "migrate"]) (post .migrateVmHandler),
      route (v1 [lit "vms", arg "cluster", arg "node", lit "create"]) (post .createVmHandler),
      route (v1 [lit "vms", arg "cluster", arg "node", arg "vmid", lit "clone"]) (post .cloneVmHandler),
      route (v1 [lit "vms", arg "cluster", arg "node", arg "vmid", lit "config"])
        (get .vmConfigHandler ++ put .updateVmConfigHandler),
      route (v1 [lit "vms", arg "cluster", arg "node", arg "vmid", lit "snapshot"])
        (get .listSnapshotsHandler ++ post .createSnapshotHandler),
      route (v1 [lit "vms", arg "cluster", arg "node", arg "vmid", lit "snapshot", arg "snapname"])
        (delete .deleteSnapshotHandler),
      route (v1 [lit "vms", arg "cluster", arg "node", arg "vmid", lit "snapshot", arg "snapname", lit "rollback"])
        (post .rollbackSnapshotHandler),
      route (v1 [lit "vms", arg "cluster", arg "node", arg "vmid", lit "backup"]) (post .backupVmHandler),
      route (v1 [lit "vms", arg "cluster", arg "node", arg "vmid", lit "backups"]) (get .listBackupsHandler),
      route (v1 [lit "vms", arg "cluster", arg "node", arg "vmid", lit "resize-disk"]) (post .resizeDiskHandler),
      route (v1 [lit "lxcs", arg "cluster", arg "node", arg "vmid"]) (get .lxcDetail),
      route (v1 [lit "lxcs", arg "cluster", arg "node", arg "vmid", arg "action"]) (post .lxcActionHandler),
      route (v1 [lit "lxcs", arg "cluster", arg "node", arg "vmid", lit "delete"]) (post .lxcDeleteHandler),
      route (v1 [lit "storages", arg "cluster", arg "node", arg "storage", lit "content"]) (get .storageContent),
      route (v1 [lit "storages", arg "cluster", arg "node", arg "storage", lit "upload"])
        (post .storageUploadHandler),
      route (v1 [lit "storages", arg "cluster", arg "node", arg "storage", lit "content", arg "volid"])
        (delete .deleteStorageContentHandler),
      route (v1 [lit "networks", arg "cluster", arg "node"]) (get .nodeNetworks),
      route (v1 [lit "tasks", arg "cluster", arg "node", arg "upid"]) (get .taskStatus),
      route (v1 [lit "vms", arg "cluster", arg "node", arg "vmid", lit "vnc", lit "ticket"]) (post .vncTicketHandler),
      route (v1 [lit "vms", arg "cluster", arg "node", arg "vmid", lit "vnc", lit "ws"]) (get .vncWsHandler),
      route (v1 [lit "replication", arg "cluster", arg "vmid"]) (post .createReplicationJob),
      route (v1 [lit "replication", arg "cluster", arg "vmid", lit "delete"]) (delete .deleteReplicationJob),
      route (v1 [lit "replication", arg "cluster", arg "vmid", lit "status"]) (get .getReplicationStatus),
      route (v1 [lit "vms", arg "cluster", arg "node", arg "vmid", lit "template"]) (post .vmTemplateHandler),
      route (v1 [lit "vms", arg "cluster", arg "node", arg "vmid", lit "sendkey"]) (post .vmSendkeyHandler),
      route (v1 [lit "vms", arg "cluster", arg "node", arg "vmid", lit "rrddata"]) (get .vmRrddataHandler),
      route (v1 [lit "tasks", arg "cluster", arg "node", arg "upid", lit "log"]) (get .taskLog),
      route (v1 [lit "tasks", arg "cluster", arg "node", arg "upid", lit "delete"]) (post .taskDelete),
      route (v1 [lit "lxcs", arg "cluster", arg "node", lit "create"]) (post .lxcCreateHandler),
      route (v1 [lit "lxcs", arg "cluster", arg "node", arg "vmid", lit "config"])
        (get .lxcConfigHandler ++ put .lxcUpdateConfigHandler),
      route (v1 [lit "networks", arg "cluster", arg "node", lit "config"]) (put .networkConfigUpdateHandler),
      route (v1 [lit "networks", arg "cluster", arg "node", lit "apply"]) (post .networkConfigApplyHandler)])

def uiRoutes : List Route :=
  [route [lit ""] (get .serveIndex),
    route [lit "static", .rest "path"] (get .serveStatic),
    route [lit "locales", .rest "path"] (get .serveLocales)]

def routes : List Route :=
  publicRoutes ++ protectedRoutes ++ clusterScopedRoutes ++ uiRoutes

-- A path that does not begin with a slash has no segments of a route.
def segmentsOf (path : String) : List String :=
  match path.toList.splitOn '/' with
  | [] :: segments => segments.map String.ofList
  | _ => []

abbrev PathParams : Type :=
  List (String × String)

-- A parameter takes one segment, which may be empty unless the path ends with it.
def matchParts : List PatternPart → List String → Option PathParams
  | [], [] => some []
  | .static text :: parts, segment :: segments => if text = segment then matchParts parts segments else none
  | .param name :: parts, segment :: segments =>
      if segment = "" ∧ segments = [] then none
      else (matchParts parts segments).map fun params => (name, segment) :: params
  | [.rest name], segments =>
      let text := "/".intercalate segments
      if text = "" then none else some [(name, text)]
  | _, _ => none

def PatternPart.rank : PatternPart → Nat
  | .static _ => 0
  | .param _ => 1
  | .rest _ => 2

-- Static segments win over parameters, and the first difference decides.
def preferred : List PatternPart → List PatternPart → Bool
  | first :: firstRest, second :: secondRest =>
      first.rank < second.rank || (first.rank == second.rank && preferred firstRest secondRest)
  | _, _ => false

def candidates (path : String) (routes : List Route) : List (Route × PathParams) :=
  routes.filterMap fun route => (matchParts route.pattern (segmentsOf path)).map fun params => (route, params)

def better (best : Option (Route × PathParams)) (next : Route × PathParams) : Option (Route × PathParams) :=
  match best with
  | none => some next
  | some found => if preferred next.1.pattern found.1.pattern then some next else some found

def findRoute (path : String) (routes : List Route) : Option (Route × PathParams) :=
  (candidates path routes).foldl better none

-- A GET handler also answers HEAD.
def methodHandler (methods : List (HttpMethod × Handler)) (method : HttpMethod) : Option Handler :=
  match methods.lookup method with
  | some handler => some handler
  | none => if method = .head then methods.lookup .get else none

theorem better_member (found : List (Route × PathParams)) (best : Option (Route × PathParams))
    (chosen : Route × PathParams) (choice : found.foldl better best = some chosen) :
    best = some chosen ∨ chosen ∈ found := by
  induction found generalizing best with
  | nil => exact Or.inl choice
  | cons next rest ih =>
      rcases ih (better best next) choice with earlier | later
      · cases best with
        | none => exact Or.inr (by rw [← Option.some.inj earlier]; exact List.mem_cons_self)
        | some held =>
            rw [better] at earlier
            split at earlier
            · exact Or.inr (by rw [← Option.some.inj earlier]; exact List.mem_cons_self)
            · exact Or.inl earlier
      · exact Or.inr (List.mem_cons_of_mem _ later)

theorem find_route_some (path : String) (routes : List Route) (route : Route) (params : PathParams)
    (found : findRoute path routes = some (route, params)) :
    route ∈ routes ∧ matchParts route.pattern (segmentsOf path) = some params := by
  rcases better_member _ _ _ found with impossible | member
  · cases impossible
  · obtain ⟨candidate, inRoutes, matched⟩ := List.mem_filterMap.mp member
    obtain ⟨values, valuesMatched, same⟩ := Option.map_eq_some_iff.mp matched
    cases same
    exact ⟨inRoutes, valuesMatched⟩

example : (findRoute "/api/v1/vms/bulk/start" routes).map (fun found => found.1.methods) = some (post .bulkStart) := by
  decide +kernel

example : (findRoute "/api/v1/vms/prod/pve11/100/config" routes).map (fun found => found.2) =
    some [("cluster", "prod"), ("node", "pve11"), ("vmid", "100")] := by
  decide +kernel

end Moxui.Api
