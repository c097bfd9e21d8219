import Moxui.Api.ClusterIsolation
import Moxui.Proxmox.Transport

set_option autoImplicit false

namespace Moxui.Api

open Moxui.Auth (Claims)
open Moxui.Proxmox (ProxmoxCall Params Transport Verb)
open Moxui.Proxmox.ProxmoxCall (flag)

inductive RequestBody where
  | empty
  | json (value : Json)
  | multipart (content filename : String) (data : List UInt8)

structure UpstreamRequest where
  verb : Verb
  path : String
  params : Params
  body : RequestBody

def requestOf (transport : Transport) (body : RequestBody) : UpstreamRequest :=
  ⟨transport.verb, transport.path, transport.params, body⟩

structure LxcConfig where
  hostname : Option String
  memory : Option UInt64
  cores : Option UInt32
  description : Option String
  onboot : Option UInt8
  tags : Option String
  nameserver : Option String
  searchdomain : Option String
  rootfs : Option String
  net : Option String
  features : Option String
  protection : Option UInt8
  start : Option Bool
  hookscript : Option String
  console : Option UInt8
  swap : Option UInt32
deriving DecidableEq, Repr

def LxcConfig.toQueryParams (config : LxcConfig) : Params :=
  givenText "hostname" config.hostname ++ given "memory" config.memory toString ++ given "cores" config.cores toString ++
    givenText "description" config.description ++ given "onboot" config.onboot toString ++ givenText "tags" config.tags ++
    givenText "nameserver" config.nameserver ++ givenText "searchdomain" config.searchdomain ++
    givenText "rootfs" config.rootfs ++ givenText "net" config.net ++ givenText "features" config.features ++
    given "protection" config.protection toString ++ given "start" config.start flag ++
    givenText "hookscript" config.hookscript ++ given "console" config.console toString ++
    given "swap" config.swap toString

structure UpdateReplicationJob where
  enable : Option Bool
  rate : Option UInt32
  schedule : Option String
  comment : Option String
deriving DecidableEq, Repr

-- The methods of the client that no handler goes through.
namespace TypedClient

def deleteTask (node upid : String) : UpstreamRequest :=
  requestOf (.deleteJson s!"nodes/{node}/tasks/{upid}") .empty

def lxcUpdateConfig (node : String) (vmid : UInt32) (config : LxcConfig) : UpstreamRequest :=
  requestOf (.putWithQuery s!"nodes/{node}/lxc/{vmid}/config" config.toQueryParams) .empty

def networkConfigUpdate (node : String) (config : Json) : UpstreamRequest :=
  requestOf (.putJson s!"nodes/{node}/network") (.json config)

def networkConfigApply (node : String) : UpstreamRequest :=
  requestOf (.post s!"nodes/{node}/network") .empty

def templateConvert (node : String) (vmid : UInt32) : UpstreamRequest :=
  requestOf (.post s!"nodes/{node}/qemu/{vmid}/template") .empty

def sendkey (node : String) (vmid : UInt32) (key : String) : UpstreamRequest :=
  requestOf (.postNoDefault s!"nodes/{node}/qemu/{vmid}/sendkey" [("key", key)]) .empty

def taskLog (node upid : String) : UpstreamRequest :=
  requestOf (.get s!"nodes/{node}/tasks/{upid}/log") .empty

def updateHaGroup (group : String) (nodes comment : Option String) (nofailback restricted : Bool) : UpstreamRequest :=
  requestOf (.postWithQuery s!"cluster/ha/groups/{group}"
    ([("nofailback", flag nofailback), ("restricted", flag restricted)] ++ givenText "nodes" nodes ++
      givenText "comment" comment)) .empty

def updateReplicationJob (id : UInt64) (job : UpdateReplicationJob) : UpstreamRequest :=
  requestOf (.postWithQuery s!"cluster/replication/{id}"
    (given "enable" job.enable flag ++ given "rate" job.rate toString ++ givenText "schedule" job.schedule ++
      givenText "comment" job.comment)) .empty

end TypedClient

def upstreamRequest (call : ProxmoxCall) : UpstreamRequest :=
  { verb := match call.method with
      | .get => .get
      | .post => .post
    path := call.path
    params := call.params
    body := match call with
      | .uploadFile _ _ content filename data => .multipart content filename data
      | _ => .empty }

section Agreement

-- An operation that is implemented twice, with its arguments. The handler takes the
-- configuration of a container as a JSON object, the client as a record.
inductive TwiceImplemented where
  | taskDelete (node upid : String)
  | lxcUpdateConfig (node : String) (vmid : UInt32) (body : Json) (config : LxcConfig)
  | networkConfigUpdate (node : String) (body : Json)
  | networkConfigApply (node : String)
  | vmTemplate (node : String) (vmid : UInt32)
  | vmSendkey (node : String) (vmid : UInt32) (key : String)
  | taskLog (node upid : String)

namespace TwiceImplemented

def handler : TwiceImplemented → Handler
  | taskDelete _ _ => .taskDelete
  | lxcUpdateConfig _ _ _ _ => .lxcUpdateConfigHandler
  | networkConfigUpdate _ _ => .networkConfigUpdateHandler
  | networkConfigApply _ => .networkConfigApplyHandler
  | vmTemplate _ _ => .vmTemplateHandler
  | vmSendkey _ _ _ => .vmSendkeyHandler
  | taskLog _ _ => .taskLog

def typed : TwiceImplemented → UpstreamRequest
  | taskDelete node upid => TypedClient.deleteTask node upid
  | lxcUpdateConfig node vmid _ config => TypedClient.lxcUpdateConfig node vmid config
  | networkConfigUpdate node body => TypedClient.networkConfigUpdate node body
  | networkConfigApply node => TypedClient.networkConfigApply node
  | vmTemplate node vmid => TypedClient.templateConvert node vmid
  | vmSendkey node vmid key => TypedClient.sendkey node vmid key
  | taskLog node upid => TypedClient.taskLog node upid

-- The request asks for the operation with these arguments; `lxcConfig` is how serde reads a body
-- as the record.
def AskedBy (libs : ApiLibs) (lxcConfig : Json → Except String LxcConfig) (entry : Entry) : TwiceImplemented → Prop
  | taskDelete node upid => ∃ cluster, nodeItemPath libs entry = .ok (⟨cluster, node⟩, upid)
  | lxcUpdateConfig node vmid body config => (∃ cluster, vmPath libs entry = .ok ⟨cluster, node, vmid⟩) ∧
      libs.jsonBody entry.request = .ok body ∧ lxcConfig body = .ok config
  | networkConfigUpdate node body => (∃ cluster, nodePath libs entry = .ok ⟨cluster, node⟩) ∧
      libs.jsonBody entry.request = .ok body
  | networkConfigApply node => ∃ cluster, nodePath libs entry = .ok ⟨cluster, node⟩
  | vmTemplate node vmid => ∃ cluster, vmPath libs entry = .ok ⟨cluster, node, vmid⟩
  | vmSendkey node vmid key => (∃ cluster, vmPath libs entry = .ok ⟨cluster, node, vmid⟩) ∧
      libs.sendkeyRequest entry.request = .ok ⟨key⟩
  | taskLog node upid => ∃ cluster, nodeItemPath libs entry = .ok (⟨cluster, node⟩, upid)

def call (libs : ApiLibs) : TwiceImplemented → ProxmoxCall
  | taskDelete node upid => .taskDelete node upid
  | lxcUpdateConfig node vmid body _ => .lxcUpdateConfig node vmid (flattenParams libs body)
  | networkConfigUpdate node body => .networkConfigUpdate node (flattenParams libs body)
  | networkConfigApply node => .networkConfigApply node
  | vmTemplate node vmid => .vmTemplate node vmid
  | vmSendkey node vmid key => .vmSendkey node vmid key
  | taskLog node upid => .taskLog node upid

def postedOrRead (operation : TwiceImplemented) : Prop :=
  operation.handler ∈ [.networkConfigApplyHandler, .vmTemplateHandler, .vmSendkeyHandler, .taskLog]

end TwiceImplemented

variable {ρ : Type} (libs : ApiLibs) (inner : Inner ρ) (lxcConfig : Json → Except String LxcConfig) (entry : Entry)
  (state : AppState ρ)

theorem single_command (handler : CommandHandler ρ) (single : commandHandler libs inner entry.handler = some handler)
    (upstream : Upstream) (called : Dialogue.Calls (handle libs inner entry state) upstream) :
    ∃ command, handler entry state = .ok command ∧ command.call = .ok upstream.call := by
  unfold handle at called
  rw [single] at called
  obtain ⟨command, read, sends, _⟩ := (run_command_calls state entry handler upstream).mp called
  exact ⟨command, read, sends.2⟩

theorem except_bind_known {ε α β : Type} (first : Except ε α) (next : α → Except ε β) (value : α) (result : β)
    (known : first = .ok value) (whole : (first >>= next) = .ok result) : next value = .ok result := by
  rw [known] at whole
  exact whole

theorem except_bind_second {ε α β γ : Type} (auth : Except ε α) (path : Except ε β) (next : α → β → Except ε γ)
    (value : β) (result : γ) (known : path = .ok value)
    (whole : (auth >>= fun claims => path >>= next claims) = .ok result) : ∃ claims, next claims value = .ok result := by
  obtain ⟨claims, _, afterAuth⟩ := except_bind_ok _ _ _ whole
  exact ⟨claims, except_bind_known _ _ _ _ known afterAuth⟩

theorem operation_call (operation : TwiceImplemented) (named : entry.handler = operation.handler)
    (asked : operation.AskedBy libs lxcConfig entry) (upstream : Upstream)
    (called : Dialogue.Calls (handle libs inner entry state) upstream) : upstream.call = operation.call libs := by
  have single (handler : CommandHandler ρ) (found : commandHandler libs inner operation.handler = some handler) :=
    single_command libs inner entry state handler (named ▸ found) upstream called
  cases operation with
  | taskDelete _ _ | networkConfigApply _ | vmTemplate _ _ =>
      obtain ⟨cluster, path⟩ := asked
      obtain ⟨command, read, sends⟩ := single _ rfl
      obtain ⟨claims, isCommand⟩ := except_bind_second _ _ _ _ _ path read
      cases isCommand
      exact (Except.ok.inj sends).symm
  | lxcUpdateConfig node vmid body config =>
      obtain ⟨⟨cluster, path⟩, isBody, _⟩ := asked
      obtain ⟨command, read, sends⟩ := single _ rfl
      obtain ⟨claims, afterPath⟩ := except_bind_second _ _ _ _ _ path read
      have isCommand := except_bind_known _ _ _ _ isBody afterPath
      cases isCommand
      exact (Except.ok.inj sends).symm
  | networkConfigUpdate _ _ | vmSendkey _ _ _ =>
      obtain ⟨⟨cluster, path⟩, isBody⟩ := asked
      obtain ⟨command, read, sends⟩ := single _ rfl
      obtain ⟨claims, afterPath⟩ := except_bind_second _ _ _ _ _ path read
      have isCommand := except_bind_known _ _ _ _ isBody afterPath
      cases isCommand
      exact (Except.ok.inj sends).symm
  | taskLog node upid =>
      obtain ⟨cluster, path⟩ := asked
      obtain ⟨command, read, sends⟩ := single _ rfl
      have isCommand := except_bind_known _ _ _ _ path read
      cases isCommand
      exact (Except.ok.inj sends).symm

theorem verbs_differ (call : ProxmoxCall) (request : UpstreamRequest)
    (differ : (upstreamRequest call).verb ≠ request.verb) : upstreamRequest call ≠ request := by
  intro agree
  exact differ (congrArg UpstreamRequest.verb agree)

-- Two handlers POST where the client PUTs, and one where it DELETEs.
theorem handler_agrees_iff (operation : TwiceImplemented) (named : entry.handler = operation.handler)
    (asked : operation.AskedBy libs lxcConfig entry) (upstream : Upstream)
    (called : Dialogue.Calls (handle libs inner entry state) upstream) :
    upstreamRequest upstream.call = operation.typed ↔ operation.postedOrRead := by
  rw [operation_call libs inner lxcConfig entry state operation named asked upstream called]
  cases operation with
  | taskDelete node upid =>
      have differ : Verb.post ≠ .delete := by decide
      exact iff_of_false (verbs_differ _ _ differ) (by simp [TwiceImplemented.postedOrRead, TwiceImplemented.handler])
  | lxcUpdateConfig node vmid body config =>
      have differ : Verb.post ≠ .put := by decide
      exact iff_of_false (verbs_differ _ _ differ) (by simp [TwiceImplemented.postedOrRead, TwiceImplemented.handler])
  | networkConfigUpdate node body =>
      have differ : Verb.post ≠ .put := by decide
      exact iff_of_false (verbs_differ _ _ differ) (by simp [TwiceImplemented.postedOrRead, TwiceImplemented.handler])
  | networkConfigApply node => exact iff_of_true rfl (by simp [TwiceImplemented.postedOrRead, TwiceImplemented.handler])
  | vmTemplate node vmid => exact iff_of_true rfl (by simp [TwiceImplemented.postedOrRead, TwiceImplemented.handler])
  | vmSendkey node vmid key => exact iff_of_true rfl (by simp [TwiceImplemented.postedOrRead, TwiceImplemented.handler])
  | taskLog node upid => exact iff_of_true rfl (by simp [TwiceImplemented.postedOrRead, TwiceImplemented.handler])

end Agreement

def finishedUpid : String :=
  "UPID:pve1:1:2:3:qmstart:100:root:"

def finishedTask (handler : Handler) : Entry :=
  ⟨handler, [("cluster", "prod"), ("node", "pve1"), ("upid", finishedUpid)],
    deleteProdGroup.withClaims aliceClaims⟩

theorem finished_task_path (handler : Handler) :
    nodeItemPath bareLibs (finishedTask handler) = .ok (⟨"prod", "pve1"⟩, finishedUpid) := by
  have prod : percentText "prod" = some "prod" := by decide +kernel
  have node : percentText "pve1" = some "pve1" := by decide +kernel
  have upid : percentText finishedUpid = some finishedUpid := by decide +kernel
  have texts : pathTexts bareLibs (finishedTask handler) = .ok ["prod", "pve1", finishedUpid] := by
    simp [pathTexts, finishedTask, prod, node, upid]
  simp only [nodeItemPath, texts]
  rfl

theorem finished_task_read :
    Dialogue.Calls (handle bareLibs bareInner (finishedTask .taskLog) twoClusters)
      ⟨"prod", .taskLog "pve1" finishedUpid⟩ := by
  refine (run_command_calls twoClusters (finishedTask .taskLog) (taskLog bareLibs) _).mpr
    ⟨reading "prod" (.taskLog "pve1" finishedUpid), ?_, ⟨rfl, rfl⟩, by decide, rfl⟩
  simp only [taskLog, finished_task_path]
  rfl

theorem finished_task_deleted :
    Dialogue.Calls (handle bareLibs bareInner (finishedTask .taskDelete) twoClusters)
      ⟨"prod", .taskDelete "pve1" finishedUpid⟩ := by
  refine (run_command_calls twoClusters (finishedTask .taskDelete) (taskDelete bareLibs) _).mpr
    ⟨operating ⟨aliceClaims⟩ "prod" (.taskDelete "pve1" finishedUpid) id, ?_, ⟨by rfl, rfl⟩, by decide, rfl⟩
  simp only [taskDelete, finished_task_path]
  rfl

def noConfig (_body : Json) : Except String LxcConfig :=
  .error "expected struct LxcConfig"

theorem task_log_agrees :
    upstreamRequest (.taskLog "pve1" finishedUpid) = TypedClient.taskLog "pve1" finishedUpid ↔
      (TwiceImplemented.taskLog "pve1" finishedUpid).postedOrRead :=
  handler_agrees_iff bareLibs bareInner noConfig (finishedTask .taskLog) twoClusters (.taskLog "pve1" finishedUpid) rfl
    ⟨"prod", finished_task_path .taskLog⟩ ⟨"prod", .taskLog "pve1" finishedUpid⟩ finished_task_read

theorem task_delete_disagrees :
    Dialogue.Calls (handle bareLibs bareInner (finishedTask .taskDelete) twoClusters)
        ⟨"prod", .taskDelete "pve1" finishedUpid⟩ ∧
      upstreamRequest (.taskDelete "pve1" finishedUpid) ≠ TypedClient.deleteTask "pve1" finishedUpid := by
  have differ : Verb.post ≠ .delete := by decide
  exact ⟨finished_task_deleted, verbs_differ _ _ differ⟩

end Moxui.Api
