import Moxui.Api.Pipeline

set_option autoImplicit false

namespace Moxui.Api

open Moxui.Proxmox (Params)
open Moxui.Proxmox.ProxmoxCall (flag)

structure DeleteVmRequest where
  purge : Bool
  force : Bool
  skiplock : Bool
deriving DecidableEq, Repr

def DeleteVmRequest.unset : DeleteVmRequest :=
  ⟨false, false, false⟩

structure MigrateRequest where
  target : String
  online : Bool
deriving DecidableEq, Repr

structure BulkVmRef where
  cluster : String
  node : String
  vmid : UInt32
deriving DecidableEq, Repr

structure BulkActionRequest where
  vms : List BulkVmRef
deriving DecidableEq, Repr

structure CreateVmRequest where
  vmid : Option UInt32
  name : Option String
  description : Option String
  cores : Option UInt32
  sockets : Option UInt32
  memory : Option UInt64
  balloon : Option UInt64
  boot : Option String
  bios : Option String
  machine : Option String
  scsihw : Option String
  cpu : Option String
  arch : Option String
  tags : Option String
  template : Option UInt8
  onboot : Option UInt8
  agent : Option UInt8
  storage : Option String
  diskSize : Option String
  netModel : Option String
  netBridge : Option String
  ostype : Option String
  ide2 : Option String
  start : Option Bool
  numaEnabled : Option Bool
deriving DecidableEq, Repr

structure CloneVmRequest where
  newid : UInt32
  target : Option String
  name : Option String
  storage : Option String
  full : Bool
  snapname : Option String
  description : Option String
  start : Option Bool
  pool : Option String
deriving DecidableEq, Repr

structure UpdateVmConfigRequest where
  name : Option String
  description : Option String
  cores : Option UInt32
  sockets : Option UInt32
  memory : Option UInt64
  balloon : Option UInt64
  boot : Option String
  bios : Option String
  machine : Option String
  scsihw : Option String
  cpu : Option String
  tags : Option String
  template : Option UInt8
  onboot : Option UInt8
  agent : Option UInt8
  delete : Option String
  ciuser : Option String
  sshkeys : Option String
  ipconfig : Option String
  nameserver : Option String
  searchdomain : Option String
  net : Option String
deriving DecidableEq, Repr

structure BackupVmRequest where
  storage : String
  mode : String
  compress : String
  remove : Option Bool
  notes : Option String
  performance : Option String
deriving DecidableEq, Repr

structure CreateSnapshotRequest where
  snapname : String
  description : Option String
  vmstate : Bool
deriving DecidableEq, Repr

structure DeleteSnapshotRequest where
  force : Bool
deriving DecidableEq, Repr

structure ResizeDiskRequest where
  disk : String
  size : String
deriving DecidableEq, Repr

structure SendkeyRequest where
  key : String
deriving DecidableEq, Repr

structure LxcActionRequest where
  force : Option Bool
  timeout : Option UInt32
deriving DecidableEq, Repr

structure DeleteLxcRequest where
  purge : Bool
  force : Bool
  skiplock : Bool
deriving DecidableEq, Repr

-- `extra` holds the keys that no other field takes.
structure CreateLxcRequest where
  vmid : Option UInt32
  hostname : Option String
  rootfs : Option String
  storage : Option String
  ostemplate : Option String
  memory : Option UInt32
  cores : Option UInt32
  swap : Option UInt32
  password : Option String
  sshPublicKeys : Option String
  net0 : Option String
  unprivileged : Option Bool
  start : Option Bool
  extra : List (String × Json)

structure HaGroupCreateRequest where
  nodes : Option String
  comment : Option String
  nofailback : Bool
  restricted : Bool
deriving DecidableEq, Repr

structure CreateReplicationRequest where
  sourceNode : String
  target : String
  targetVmid : Option UInt32
  rate : Option UInt32
  schedule : String
  comment : Option String
deriving DecidableEq, Repr

structure CreateReplicationJob where
  sourceVmid : UInt32
  sourceNode : Option String
  target : String
  targetVmid : Option UInt32
  rate : Option UInt32
  schedule : String
  comment : Option String
  enable : Bool
deriving DecidableEq, Repr

-- `if let Some(v)`: the pair of a value that is there.
def given {α : Type} (key : String) (value : Option α) (text : α → String) : Params :=
  match value with
  | some value => [(key, text value)]
  | none => []

def givenText (key : String) (value : Option String) : Params :=
  given key value id

def createVmParams (req : CreateVmRequest) : Params :=
  given "vmid" req.vmid toString ++ givenText "name" req.name ++ givenText "description" req.description ++
    given "cores" req.cores toString ++ given "sockets" req.sockets toString ++ given "memory" req.memory toString ++
    given "balloon" req.balloon toString ++ givenText "boot" req.boot ++ givenText "bios" req.bios ++
    givenText "machine" req.machine ++ givenText "scsihw" req.scsihw ++ givenText "cpu" req.cpu ++
    givenText "arch" req.arch ++ givenText "tags" req.tags ++ given "template" req.template toString ++
    given "onboot" req.onboot toString ++ given "agent" req.agent toString ++ givenText "storage" req.storage ++
    given "sata0" req.diskSize (fun size => size ++ ":" ++ size) ++
    given "net0" req.netModel (fun model => model ++ ",bridge=" ++ req.netBridge.getD "vmbr0") ++
    givenText "ostype" req.ostype ++ givenText "ide2" req.ide2 ++ given "start" req.start flag ++
    given "numa" req.numaEnabled flag

def cloneVmParams (req : CloneVmRequest) : Params :=
  [("newid", toString req.newid)] ++ givenText "target" req.target ++ givenText "name" req.name ++
    givenText "storage" req.storage ++ [("full", flag req.full)] ++ givenText "snapname" req.snapname ++
    givenText "description" req.description ++ given "start" req.start flag ++ givenText "pool" req.pool

def updateVmConfigParams (req : UpdateVmConfigRequest) : Params :=
  givenText "name" req.name ++ givenText "description" req.description ++ given "cores" req.cores toString ++
    given "sockets" req.sockets toString ++ given "memory" req.memory toString ++
    given "balloon" req.balloon toString ++ givenText "boot" req.boot ++ givenText "bios" req.bios ++
    givenText "machine" req.machine ++ givenText "scsihw" req.scsihw ++ givenText "cpu" req.cpu ++
    givenText "tags" req.tags ++ given "template" req.template toString ++ given "onboot" req.onboot toString ++
    given "agent" req.agent toString ++ givenText "delete" req.delete ++ givenText "ciuser" req.ciuser ++
    givenText "sshkeys" req.sshkeys ++ givenText "ipconfig" req.ipconfig ++ givenText "nameserver" req.nameserver ++
    givenText "searchdomain" req.searchdomain ++ givenText "net0" req.net

def backupVmParams (req : BackupVmRequest) : Params :=
  [("storage", req.storage), ("mode", req.mode), ("compress", req.compress)] ++ given "remove" req.remove flag ++
    givenText "notes" req.notes ++ givenText "performance" req.performance

def createSnapshotParams (body : CreateSnapshotRequest) : Params :=
  [("snapname", body.snapname), ("vmstate", flag body.vmstate)] ++ givenText "description" body.description

def lxcActionParams (opts : LxcActionRequest) : Params :=
  given "force" opts.force flag ++ given "timeout" opts.timeout toString

def createLxcParams (body : CreateLxcRequest) : Params :=
  given "vmid" body.vmid toString ++ givenText "hostname" body.hostname ++ givenText "rootfs" body.rootfs ++
    givenText "storage" body.storage ++ givenText "ostemplate" body.ostemplate ++
    given "memory" body.memory toString ++ given "cores" body.cores toString ++ given "swap" body.swap toString ++
    givenText "password" body.password ++ givenText "ssh-public-keys" body.sshPublicKeys ++
    givenText "net0" body.net0 ++ given "unprivileged" body.unprivileged flag ++ given "start" body.start flag

def createReplicationParams (job : CreateReplicationJob) : Params :=
  [("source-vmid", toString job.sourceVmid), ("target", job.target), ("schedule", job.schedule),
    ("enable", flag job.enable)] ++ givenText "source-node" job.sourceNode ++
    given "target-vmid" job.targetVmid toString ++ given "rate" job.rate toString ++ givenText "comment" job.comment

def replicationJob (vmid : UInt32) (body : CreateReplicationRequest) : CreateReplicationJob :=
  { sourceVmid := vmid, sourceNode := some body.sourceNode, target := body.target, targetVmid := body.targetVmid
    rate := body.rate, schedule := body.schedule, comment := body.comment, enable := true }

-- What the code gets from libraries: the extractors of axum and serde, each with the response
-- it refuses a request with, and the conversions of serde_json, base64 and the VNC tokens.
structure ApiLibs where
  badPath : PathParams → Response
  deleteVmRequest : Request → Except Response DeleteVmRequest
  migrateRequest : Request → Except Response MigrateRequest
  bulkActionRequest : Request → Except Response BulkActionRequest
  createVmRequest : Request → Except Response CreateVmRequest
  cloneVmRequest : Request → Except Response CloneVmRequest
  updateVmConfigRequest : Request → Except Response UpdateVmConfigRequest
  backupVmRequest : Request → Except Response BackupVmRequest
  createSnapshotRequest : Request → Except Response CreateSnapshotRequest
  deleteSnapshotRequest : Request → Except Response DeleteSnapshotRequest
  resizeDiskRequest : Request → Except Response ResizeDiskRequest
  sendkeyRequest : Request → Except Response SendkeyRequest
  lxcActionRequest : Request → Except Response LxcActionRequest
  deleteLxcRequest : Request → Except Response DeleteLxcRequest
  createLxcRequest : Request → Except Response CreateLxcRequest
  haGroupCreateRequest : Request → Except Response HaGroupCreateRequest
  createReplicationRequest : Request → Except Response CreateReplicationRequest
  jsonBody : Request → Except Response Json
  vmsQuery : Request → Except Response (Option String)
  rrdDataQuery : Request → Except Response String
  vncWsQuery : Request → Except Response String
  webSocketUpgrade : Request → Except Response Response
  lowercase : String → String
  f64Text : Number → String
  jsonText : Json → String
  base64Decode : String → Except String (List UInt8)
  mintVncToken : List UInt8 → String → Except AppError String
  verifyVncToken : List UInt8 → String → Except AppError String

-- Strings as they are, then unsigned integers, then whatever has an f64, then the rest.
def flattenValue (libs : ApiLibs) : Json → String
  | .str text => text
  | .num (.posInt value) => toString value
  | .num number => libs.f64Text number
  | .bool value => flag value
  | value => libs.jsonText value

def flattenParams (libs : ApiLibs) : Json → Params
  | .obj fields => fields.map fun field => (field.1, flattenValue libs field.2)
  | _ => []

end Moxui.Api
