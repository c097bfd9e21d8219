import Moxui.Api.Requests
import Moxui.Lib.Percent

set_option autoImplicit false

namespace Moxui.Api

open Moxui.Auth (Claims Role)
open Moxui.Proxmox (ProxmoxCall VmAction LxcAction Params)

def digitsValue (digits : List Char) : Option Nat :=
  if digits ≠ [] ∧ digits.all Char.isDigit then
    some (digits.foldl (fun value digit => value * 10 + (digit.toNat - '0'.toNat)) 0)
  else none

-- `str::parse` at an unsigned integer type with `bound` values.
def parseUnsigned (bound : Nat) (text : String) : Option Nat :=
  let digits := match text.toList with
    | '+' :: rest => rest
    | chars => chars
  match digitsValue digits with
  | some value => if value < bound then some value else none
  | none => none

def percentText (text : String) : Option String :=
  String.fromUTF8? ⟨(Percent.decode (Text.bytes text)).toArray⟩

section Extractors

variable (libs : ApiLibs) (entry : Entry)

-- The path parameters, decoded; one that is not UTF-8 spoils them all.
def pathTexts : Except Response (List String) :=
  match entry.params.mapM fun param => percentText param.2 with
  | some texts => .ok texts
  | none => .error (libs.badPath entry.params)

def readU32 (text : String) : Except Response UInt32 :=
  match parseUnsigned UInt32.size text with
  | some value => .ok (UInt32.ofNat value)
  | none => .error (libs.badPath entry.params)

def readU64 (text : String) : Except Response UInt64 :=
  match parseUnsigned UInt64.size text with
  | some value => .ok (UInt64.ofNat value)
  | none => .error (libs.badPath entry.params)

structure NodePath where
  cluster : String
  node : String

structure VmPath where
  cluster : String
  node : String
  vmid : UInt32

def nodePath : Except Response NodePath := do
  match ← pathTexts libs entry with
  | [cluster, node] => .ok ⟨cluster, node⟩
  | _ => .error (libs.badPath entry.params)

def vmPath : Except Response VmPath := do
  match ← pathTexts libs entry with
  | [cluster, node, vmid] => .ok ⟨cluster, node, ← readU32 libs entry vmid⟩
  | _ => .error (libs.badPath entry.params)

def vmItemPath : Except Response (VmPath × String) := do
  match ← pathTexts libs entry with
  | [cluster, node, vmid, item] => .ok (⟨cluster, node, ← readU32 libs entry vmid⟩, item)
  | _ => .error (libs.badPath entry.params)

def nodeItemPath : Except Response (NodePath × String) := do
  match ← pathTexts libs entry with
  | [cluster, node, item] => .ok (⟨cluster, node⟩, item)
  | _ => .error (libs.badPath entry.params)

def volumePath : Except Response (NodePath × String × String) := do
  match ← pathTexts libs entry with
  | [cluster, node, storage, volid] => .ok (⟨cluster, node⟩, storage, volid)
  | _ => .error (libs.badPath entry.params)

def clusterVmid : Except Response (String × UInt32) := do
  match ← pathTexts libs entry with
  | [cluster, vmid] => .ok (cluster, ← readU32 libs entry vmid)
  | _ => .error (libs.badPath entry.params)

def clusterId : Except Response (String × UInt64) := do
  match ← pathTexts libs entry with
  | [cluster, id] => .ok (cluster, ← readU64 libs entry id)
  | _ => .error (libs.badPath entry.params)

end Extractors

def AuthContext.role (auth : AuthContext) : Except String Role :=
  Role.fromStr auth.claims.role

def requireRole (auth : AuthContext) (required : Role) : Except Response Unit :=
  match auth.role with
  | .ok role => if role.can required then .ok () else .error (forbidden "insufficient role")
  | .error badRole => .error (forbidden ("unknown role in token: " ++ badRole))

def operatorOr (refusal : String) (auth : AuthContext) : Except AppError Unit :=
  match requireRole auth .operator with
  | .ok () => .ok ()
  | .error response =>
      if response.status = 403 then .error (.forbidden refusal)
      else .error (.internal ("auth middleware returned " ++ toString response.status))

def operatorOnly (auth : AuthContext) : Except AppError Unit :=
  operatorOr "operator role required" auth

def notConfigured (cluster : String) : AppError :=
  .notFound ("cluster '" ++ cluster ++ "' not configured")

-- A handler for one cluster: what it has read from its request. `checks` come before the
-- client is looked up, `call` is what is sent then, or why nothing is.
structure Command (ρ : Type) where
  cluster : String
  checks : Except AppError Unit
  missing : AppError
  call : Except AppError ProxmoxCall
  finish : Json → AppState ρ → AppState ρ × Response

section Commands

variable {ρ : Type}

abbrev CommandHandler (ρ : Type) : Type :=
  Entry → AppState ρ → Except Response (Command ρ)

def failed (state : AppState ρ) (error : AppError) : AppState ρ × Response :=
  (state, error.intoResponse)

def Command.run (command : Command ρ) (state : AppState ρ) : Program (AppState ρ × Response) :=
  match command.checks with
  | .error error => .done (failed state error)
  | .ok _ =>
      match state.client command.cluster with
      | none => .done (failed state command.missing)
      | some client =>
          match command.call with
          | .error error => .done (failed state error)
          | .ok call => .ask ⟨client.name, call⟩ fun answer => .done (
              match answer with
              | .ok data => command.finish data state
              | .error error => failed state error)

def runCommand (handler : CommandHandler ρ) (entry : Entry) (state : AppState ρ) :
    Program (AppState ρ × Response) :=
  match handler entry state with
  | .error response => .done (state, response)
  | .ok command => command.run state

def answerJson (render : Json → Json) (data : Json) (state : AppState ρ) : AppState ρ × Response :=
  (state, jsonResponse 200 (render data))

def reading (cluster : String) (call : ProxmoxCall) : Command ρ :=
  { cluster := cluster, checks := .ok (), missing := notConfigured cluster, call := .ok call
    finish := answerJson id }

def operating (auth : AuthContext) (cluster : String) (call : ProxmoxCall) (render : Json → Json) : Command ρ :=
  { cluster := cluster, checks := operatorOnly auth, missing := notConfigured cluster, call := .ok call
    finish := answerJson render }

def refusing (auth : AuthContext) (cluster : String) (error : AppError) : Command ρ :=
  { cluster := cluster, checks := (operatorOnly auth).bind fun _ => .error error, missing := notConfigured cluster
    call := .error error, finish := fun _ state => failed state error }

def vmActionResponse (vmid : UInt32) (action : String) (upid : Json) : Json :=
  .obj [("vmid", .nat vmid.toNat), ("action", .str action), ("upid", upid)]

def vmUpid (path : VmPath) (fields : List (String × Json)) (upid : Json) : Json :=
  .obj ([("vmid", .nat path.vmid.toNat)] ++ fields ++ [("upid", upid), ("cluster", .str path.cluster)])

variable (libs : ApiLibs) (entry : Entry)

def authContext : Except Response AuthContext :=
  AuthContext.fromRequestParts entry.request

def jsonIs (key text : String) (item : Json) : Bool :=
  (item.get key).bind Json.asStr == some text

def numberIs (key : String) (value : Nat) (item : Json) : Bool :=
  match item.get key with
  | some (.num number) => number == .posInt (UInt64.ofNat value)
  | _ => false

def items : Json → List Json
  | .arr items => items
  | _ => []

def column (item : Json) (names : String × String) : String × Json :=
  (names.1, (item.get names.2).getD .null)

-- A row of a table: the tags and the columns taken over from the item, each with the name it
-- has in the row and in the item.
def rowOf (tags : List (String × Json)) (columns : List (String × String)) (item : Json) : Json :=
  .obj (tags ++ columns.map (column item))

def same (name : String) : String × String :=
  (name, name)

def vmColumns : List (String × String) :=
  ["vmid", "name", "node", "status", "cpu", "cpus", "mem", "maxmem", "uptime", "tags"].map same

def vmDetail (_state : AppState ρ) : Except Response (Command ρ) := do
  let (cluster, vmid) ← clusterVmid libs entry
  .ok { (reading cluster .listResources : Command ρ) with
    finish := fun data state =>
      match (items data).find? (numberIs "vmid" vmid.toNat) with
      | some item => (state, jsonResponse 200 (rowOf [("cluster", .str cluster)] vmColumns item))
      | none => failed state (.notFound ("VM " ++ toString vmid ++ " not found in " ++ cluster)) }

def vmConfigHandler (_state : AppState ρ) : Except Response (Command ρ) := do
  let path ← vmPath libs entry
  .ok (reading path.cluster (.vmConfig path.node path.vmid))

def VmAction.parse : String → Option VmAction
  | "start" => some .start
  | "stop" => some .stop
  | "shutdown" => some .shutdown
  | "reboot" => some .reboot
  | "reset" => some .reset
  | "suspend" => some .suspend
  | "resume" => some .resume
  | _ => none

def unknownAction (other : String) : AppError :=
  .badRequest ("unknown action '" ++ other ++ "'; expected start|stop|shutdown|reboot|reset|suspend|resume|delete")

-- A body that cannot be read counts as none.
def vmActionHandler (_state : AppState ρ) : Except Response (Command ρ) := do
  let auth ← authContext entry
  let (path, action) ← vmItemPath libs entry
  let body := (libs.deleteVmRequest entry.request).toOption
  let render := vmActionResponse path.vmid action
  match VmAction.parse action with
  | some parsed => .ok (operating auth path.cluster (.vmAction path.node path.vmid parsed) render)
  | none =>
      if action = "delete" then
        let opts := body.getD DeleteVmRequest.unset
        .ok (operating auth path.cluster (.deleteVm path.node path.vmid opts.purge opts.force opts.skiplock) render)
      else .ok (refusing auth path.cluster (unknownAction action))

def migrateVmHandler (_state : AppState ρ) : Except Response (Command ρ) := do
  let auth ← authContext entry
  let path ← vmPath libs entry
  let body ← libs.migrateRequest entry.request
  .ok (operating auth path.cluster (.migrateVm path.node path.vmid body.target body.online)
    (vmActionResponse path.vmid "migrate"))

def createVmHandler (_state : AppState ρ) : Except Response (Command ρ) := do
  let auth ← authContext entry
  let path ← nodePath libs entry
  let body ← libs.createVmRequest entry.request
  .ok (operating auth path.cluster (.createVm path.node (createVmParams body)) fun vmid =>
    .obj [("vmid_str", vmid), ("node", .str path.node), ("cluster", .str path.cluster)])

def cloneVmHandler (_state : AppState ρ) : Except Response (Command ρ) := do
  let auth ← authContext entry
  let path ← vmPath libs entry
  let body ← libs.cloneVmRequest entry.request
  .ok (operating auth path.cluster (.cloneVm path.node path.vmid (cloneVmParams body))
    (vmUpid path [("newid", .nat body.newid.toNat)]))

def updateVmConfigHandler (_state : AppState ρ) : Except Response (Command ρ) := do
  let auth ← authContext entry
  let path ← vmPath libs entry
  let body ← libs.updateVmConfigRequest entry.request
  .ok (operating auth path.cluster (.updateVmConfig path.node path.vmid (updateVmConfigParams body)) (vmUpid path []))

def listSnapshotsHandler (_state : AppState ρ) : Except Response (Command ρ) := do
  let auth ← authContext entry
  let path ← vmPath libs entry
  .ok (operating auth path.cluster (.listSnapshots path.node path.vmid) fun snapshots =>
    .obj [("snapshots", snapshots)])

def createSnapshotHandler (_state : AppState ρ) : Except Response (Command ρ) := do
  let auth ← authContext entry
  let path ← vmPath libs entry
  let body ← libs.createSnapshotRequest entry.request
  .ok (operating auth path.cluster (.createSnapshot path.node path.vmid (createSnapshotParams body))
    (vmUpid path [("snapname", .str body.snapname)]))

def deleteSnapshotHandler (_state : AppState ρ) : Except Response (Command ρ) := do
  let auth ← authContext entry
  let (path, snapname) ← vmItemPath libs entry
  let force := match libs.deleteSnapshotRequest entry.request with
    | .ok opts => opts.force
    | .error _ => false
  .ok (operating auth path.cluster (.deleteSnapshot path.node path.vmid snapname force)
    (vmUpid path [("snapname", .str snapname)]))

def rollbackSnapshotHandler (_state : AppState ρ) : Except Response (Command ρ) := do
  let auth ← authContext entry
  let (path, snapname) ← vmItemPath libs entry
  .ok (operating auth path.cluster (.rollbackSnapshot path.node path.vmid snapname)
    (vmUpid path [("snapname", .str snapname)]))

def backupVmHandler (_state : AppState ρ) : Except Response (Command ρ) := do
  let auth ← authContext entry
  let path ← vmPath libs entry
  let body ← libs.backupVmRequest entry.request
  .ok (operating auth path.cluster (.backupVm path.node path.vmid (backupVmParams body)) (vmUpid path []))

def resizeDiskHandler (_state : AppState ρ) : Except Response (Command ρ) := do
  let auth ← authContext entry
  let path ← vmPath libs entry
  let body ← libs.resizeDiskRequest entry.request
  .ok (operating auth path.cluster (.resizeDisk path.node path.vmid body.disk body.size)
    (vmUpid path [("disk", .str body.disk), ("size", .str body.size)]))

def vmTemplateHandler (_state : AppState ρ) : Except Response (Command ρ) := do
  let auth ← authContext entry
  let path ← vmPath libs entry
  .ok (operating auth path.cluster (.vmTemplate path.node path.vmid) (vmActionResponse path.vmid "template"))

def vmSendkeyHandler (_state : AppState ρ) : Except Response (Command ρ) := do
  let auth ← authContext entry
  let path ← vmPath libs entry
  let body ← libs.sendkeyRequest entry.request
  .ok (operating auth path.cluster (.vmSendkey path.node path.vmid body.key) (vmActionResponse path.vmid "sendkey"))

def vmRrddataHandler (_state : AppState ρ) : Except Response (Command ρ) := do
  let path ← vmPath libs entry
  let timeframe ← libs.rrdDataQuery entry.request
  .ok (reading path.cluster (.vmRrddata path.node path.vmid timeframe))

def lxcDetail (_state : AppState ρ) : Except Response (Command ρ) := do
  let path ← vmPath libs entry
  .ok { (reading path.cluster (.lxcDetail path.node path.vmid) : Command ρ) with
    finish := fun data state =>
      match data with
      | .null => failed state
          (.notFound ("LXC " ++ toString path.vmid ++ " not found in " ++ path.cluster ++ "/" ++ path.node))
      | status => (state, jsonResponse 200 status) }

def LxcAction.parse : String → Option LxcAction
  | "start" => some .start
  | "stop" => some .stop
  | "shutdown" => some .shutdown
  | "reboot" => some .reboot
  | _ => none

def unknownLxcAction (other : String) : AppError :=
  .badRequest ("unknown lxc action '" ++ other ++ "'; expected start|stop|shutdown|reboot")

def lxcActionHandler (_state : AppState ρ) : Except Response (Command ρ) := do
  let auth ← authContext entry
  let (path, action) ← vmItemPath libs entry
  let opts := ((libs.lxcActionRequest entry.request).toOption).getD ⟨none, none⟩
  match LxcAction.parse action with
  | some parsed => .ok (operating auth path.cluster (.lxcAction path.node path.vmid parsed (lxcActionParams opts))
      (vmUpid path [("action", .str action)]))
  | none => .ok (refusing auth path.cluster (unknownLxcAction action))

def lxcDeleteHandler (_state : AppState ρ) : Except Response (Command ρ) := do
  let auth ← authContext entry
  let path ← vmPath libs entry
  let opts := ((libs.deleteLxcRequest entry.request).toOption).getD ⟨false, false, false⟩
  .ok (operating auth path.cluster (.lxcDelete path.node path.vmid opts.purge opts.force opts.skiplock)
    (vmUpid path [("action", .str "delete")]))

def nodeResult (path : NodePath) (result : Json) : Json :=
  .obj [("node", .str path.node), ("cluster", .str path.cluster), ("result", result)]

def lxcCreateHandler (_state : AppState ρ) : Except Response (Command ρ) := do
  let auth ← authContext entry
  let path ← nodePath libs entry
  let body ← libs.createLxcRequest entry.request
  .ok (operating auth path.cluster (.lxcCreate path.node (createLxcParams body)) (nodeResult path))

def lxcConfigHandler (_state : AppState ρ) : Except Response (Command ρ) := do
  let path ← vmPath libs entry
  .ok (reading path.cluster (.lxcConfig path.node path.vmid))

def lxcUpdateConfigHandler (_state : AppState ρ) : Except Response (Command ρ) := do
  let auth ← authContext entry
  let path ← vmPath libs entry
  let body ← libs.jsonBody entry.request
  .ok (operating auth path.cluster (.lxcUpdateConfig path.node path.vmid (flattenParams libs body)) fun result =>
    .obj [("vmid", .nat path.vmid.toNat), ("cluster", .str path.cluster), ("result", result)])

def storageContent (_state : AppState ρ) : Except Response (Command ρ) := do
  let (path, storage) ← nodeItemPath libs entry
  .ok (reading path.cluster (.storageContent path.node storage))

def textField (body : Json) (key missing : String) : Except AppError String :=
  match (body.get key).bind Json.asStr with
  | some text => .ok text
  | none => .error (.badRequest missing)

-- The body is looked into only after the cluster was found.
def uploadCall (path : NodePath) (storage : String) (body : Json) : Except AppError ProxmoxCall := do
  let content ← textField body "content" "missing 'content' field (iso|vztmpl|snippets)"
  let filename ← textField body "filename" "missing 'filename' field"
  let encoded ← textField body "data" "missing 'data' field (base64-encoded file)"
  match libs.base64Decode encoded with
  | .ok data => .ok (.uploadFile path.node storage content filename data)
  | .error reason => .error (.badRequest ("invalid base64 data: " ++ reason))

def storageUploadHandler (_state : AppState ρ) : Except Response (Command ρ) := do
  let auth ← authContext entry
  let (path, storage) ← nodeItemPath libs entry
  let body ← libs.jsonBody entry.request
  .ok { cluster := path.cluster, checks := operatorOnly auth, missing := notConfigured path.cluster
        call := uploadCall libs path storage body
        finish := answerJson (rowOf [("storage", .str storage), ("cluster", .str path.cluster)]
          [same "volid", same "msg"]) }

def deleteStorageContentHandler (_state : AppState ρ) : Except Response (Command ρ) := do
  let auth ← authContext entry
  let (path, storage, volid) ← volumePath libs entry
  .ok (operating auth path.cluster (.deleteStorageContent path.node storage volid) fun upid =>
    .obj [("volid", .str volid), ("upid", upid), ("storage", .str storage), ("cluster", .str path.cluster)])

def nodeNetworks (_state : AppState ρ) : Except Response (Command ρ) := do
  let path ← nodePath libs entry
  .ok (reading path.cluster (.listNetworks path.node))

def networkConfigUpdateHandler (_state : AppState ρ) : Except Response (Command ρ) := do
  let auth ← authContext entry
  let path ← nodePath libs entry
  let body ← libs.jsonBody entry.request
  .ok (operating auth path.cluster (.networkConfigUpdate path.node (flattenParams libs body)) (nodeResult path))

def networkConfigApplyHandler (_state : AppState ρ) : Except Response (Command ρ) := do
  let auth ← authContext entry
  let path ← nodePath libs entry
  .ok (operating auth path.cluster (.networkConfigApply path.node) (nodeResult path))

def taskStatus (_state : AppState ρ) : Except Response (Command ρ) := do
  let (path, upid) ← nodeItemPath libs entry
  .ok (reading path.cluster (.taskStatus path.node upid))

def taskLog (_state : AppState ρ) : Except Response (Command ρ) := do
  let (path, upid) ← nodeItemPath libs entry
  .ok (reading path.cluster (.taskLog path.node upid))

def taskDelete (_state : AppState ρ) : Except Response (Command ρ) := do
  let auth ← authContext entry
  let (path, upid) ← nodeItemPath libs entry
  .ok (operating auth path.cluster (.taskDelete path.node upid) id)

def actionResponse (cluster key value action : String) (result : Json) : Json :=
  .obj [("cluster", .str cluster), (key, .str value), ("action", .str action), ("result", result)]

def createHaGroup (_state : AppState ρ) : Except Response (Command ρ) := do
  let auth ← authContext entry
  let ⟨cluster, group⟩ ← nodePath libs entry
  let body ← libs.haGroupCreateRequest entry.request
  .ok (operating auth cluster (.createHaGroup group body.nodes body.comment body.nofailback body.restricted)
    (actionResponse cluster "group" group "create"))

def deleteHaGroup (_state : AppState ρ) : Except Response (Command ρ) := do
  let auth ← authContext entry
  let ⟨cluster, group⟩ ← nodePath libs entry
  .ok (operating auth cluster (.deleteHaGroup group) (actionResponse cluster "group" group "delete"))

def createReplicationJob (_state : AppState ρ) : Except Response (Command ρ) := do
  let auth ← authContext entry
  let (cluster, vmid) ← clusterVmid libs entry
  let body ← libs.createReplicationRequest entry.request
  .ok (operating auth cluster (.createReplicationJob (createReplicationParams (replicationJob vmid body)))
    (actionResponse cluster "id" (toString vmid) "create"))

def deleteReplicationJob (_state : AppState ρ) : Except Response (Command ρ) := do
  let auth ← authContext entry
  let (cluster, id) ← clusterId libs entry
  .ok (operating auth cluster (.deleteReplicationJob id) (actionResponse cluster "id" (toString id) "delete"))

def getReplicationStatus (_state : AppState ρ) : Except Response (Command ρ) := do
  let (cluster, id) ← clusterId libs entry
  .ok { (reading cluster (.getReplicationStatus id) : Command ρ) with
    finish := answerJson fun status =>
      .obj [("cluster", .str cluster), ("id", .num (.posInt id)), ("status", status)] }

def vncSubject (path : VmPath) : String :=
  "vnc:" ++ path.cluster ++ ":" ++ path.node ++ ":" ++ toString path.vmid

def vncTokenTtlSecs : Nat :=
  300

def vncDisabled : AppError :=
  .notFound "vnc console disabled"

-- The token is minted before the cluster is asked.
def vncTicketHandler (state : AppState ρ) : Except Response (Command ρ) := do
  let auth ← authContext entry
  let path ← vmPath libs entry
  let minted : Except AppError String :=
    libs.mintVncToken (state.vncSecret.getD []) (vncSubject path)
  .ok { cluster := path.cluster
        checks := (operatorOr "operator role required for vnc" auth).bind fun _ =>
          if state.vncSecret.isSome then .ok () else .error vncDisabled
        missing := .notFound ("cluster " ++ path.cluster)
        call := minted.map fun _ => .vncProxy path.node path.vmid
        finish := fun data state =>
          match minted with
          | .ok token => (state, jsonResponse 200 (.obj [("vnc_token", .str token), column data (same "port"),
              ("expires_in", .nat vncTokenTtlSecs)]))
          | .error error => failed state error }

-- The caller is known by the token alone.
def vncWsHandler (tryAcquire : String → AppState ρ → AppState ρ × Bool) (state : AppState ρ) :
    Except Response (Command ρ) := do
  let path ← vmPath libs entry
  let token ← libs.vncWsQuery entry.request
  let upgrade ← libs.webSocketUpgrade entry.request
  let limiterKey := path.cluster ++ ":" ++ path.node ++ ":" ++ toString path.vmid
  .ok { cluster := path.cluster
        checks :=
          match state.vncSecret with
          | none => .error vncDisabled
          | some secret =>
              match libs.verifyVncToken secret token with
              | .error error => .error error
              | .ok sub =>
                  if sub = vncSubject path then .ok () else .error (.unauthorized "vnc token subject mismatch")
        missing := .notFound ("cluster " ++ path.cluster)
        call := .ok (.vncProxy path.node path.vmid)
        finish := fun _ state =>
          let admitted := tryAcquire limiterKey state
          if admitted.2 then (admitted.1, upgrade)
          else failed admitted.1 (.tooManyRequests "too many concurrent VNC sessions for this VM") }

end Commands

end Moxui.Api
