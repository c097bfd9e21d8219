import Moxui.Lib.UrlQuery
import Moxui.Proxmox.Client

set_option autoImplicit false

namespace Moxui.Proxmox

-- What the path of an endpoint is made of: its fixed words, numbers and the strings that a
-- caller supplies.
inductive Piece where
  | fixed (word : String)
  | number (value : Nat)
  | supplied (text : String)
deriving DecidableEq, Repr

namespace Piece

def text : Piece → String
  | fixed word => word
  | number value => toString value
  | supplied text => text

end Piece

namespace ProxmoxCall

def onNode (node : String) (rest : List Piece) : List Piece :=
  .fixed "nodes" :: .supplied node :: rest

def onVm (node : String) (vmid : UInt32) (rest : List Piece) : List Piece :=
  onNode node (.fixed "qemu" :: .number vmid.toNat :: rest)

def onLxc (node : String) (vmid : UInt32) (rest : List Piece) : List Piece :=
  onNode node (.fixed "lxc" :: .number vmid.toNat :: rest)

-- The endpoint that the documentation of each method names.
def endpoint : ProxmoxCall → List Piece
  | version => [.fixed "version"]
  | listResources => [.fixed "cluster", .fixed "resources"]
  | listAllStorages => [.fixed "storage"]
  | listAllNetworks => [.fixed "network"]
  | clusterStatus => [.fixed "cluster", .fixed "status"]
  | clusterConfigInfo => [.fixed "cluster", .fixed "config"]
  | clusterOptions => [.fixed "cluster", .fixed "options"]
  | clusterLog => [.fixed "cluster", .fixed "log"]
  | clusterTasks => [.fixed "cluster", .fixed "tasks"]
  | cephStatus => [.fixed "cluster", .fixed "ceph", .fixed "status"]
  | cephPools => [.fixed "cluster", .fixed "ceph", .fixed "pool"]
  | firewallRules => [.fixed "cluster", .fixed "firewall", .fixed "rules"]
  | sdnZones => [.fixed "cluster", .fixed "sdn", .fixed "zones"]
  | sdnVnets => [.fixed "cluster", .fixed "sdn", .fixed "vnets"]
  | listHaGroups => [.fixed "cluster", .fixed "ha", .fixed "groups"]
  | haStatus => [.fixed "cluster", .fixed "ha", .fixed "status"]
  | listReplicationJobs => [.fixed "cluster", .fixed "replication"]
  | getReplicationStatus id => [.fixed "cluster", .fixed "replication", .number id.toNat, .fixed "log"]
  | vmConfig node vmid => onVm node vmid [.fixed "config"]
  | vmRrddata node vmid _ => onVm node vmid [.fixed "rrddata"]
  | listSnapshots node vmid => onVm node vmid [.fixed "snapshot"]
  | lxcDetail node vmid => onLxc node vmid [.fixed "status", .fixed "current"]
  | lxcConfig node vmid => onLxc node vmid [.fixed "config"]
  | listStorages node => onNode node [.fixed "storage"]
  | storageContent node storage => onNode node [.fixed "storage", .supplied storage, .fixed "content"]
  | listNetworks node => onNode node [.fixed "network"]
  | taskStatus node upid => onNode node [.fixed "tasks", .supplied upid, .fixed "status"]
  | taskLog node upid => onNode node [.fixed "tasks", .supplied upid, .fixed "log"]
  | vmAction node vmid action => onVm node vmid [.fixed "status", .fixed action.asStr]
  | deleteVm node vmid _ _ _ => onVm node vmid []
  | migrateVm node vmid _ _ => onVm node vmid [.fixed "migrate"]
  | createVm node _ => onNode node [.fixed "qemu"]
  | cloneVm node vmid _ => onVm node vmid [.fixed "clone"]
  | updateVmConfig node vmid _ => onVm node vmid [.fixed "config"]
  | createSnapshot node vmid _ => onVm node vmid [.fixed "snapshot"]
  | deleteSnapshot node vmid snapname _ => onVm node vmid [.fixed "snapshot", .supplied snapname]
  | rollbackSnapshot node vmid snapname => onVm node vmid [.fixed "snapshot", .supplied snapname, .fixed "rollback"]
  | backupVm node vmid _ => onVm node vmid [.fixed "backup"]
  | resizeDisk node vmid _ _ => onVm node vmid [.fixed "resize"]
  | vmTemplate node vmid => onVm node vmid [.fixed "template"]
  | vmSendkey node vmid _ => onVm node vmid [.fixed "sendkey"]
  | vncProxy node vmid => onVm node vmid [.fixed "vncproxy"]
  | lxcAction node vmid action _ => onLxc node vmid [.fixed "status", .fixed action.asStr]
  | lxcDelete node vmid _ _ _ => onLxc node vmid []
  | lxcCreate node _ => onNode node [.fixed "lxc"]
  | lxcUpdateConfig node vmid _ => onLxc node vmid [.fixed "config"]
  | uploadFile node storage _ _ _ => onNode node [.fixed "storage", .supplied storage, .fixed "upload"]
  | deleteStorageContent node storage volid =>
      onNode node [.fixed "storage", .supplied storage, .fixed "content", .supplied volid]
  | networkConfigUpdate node _ => onNode node [.fixed "network"]
  | networkConfigApply node => onNode node [.fixed "network"]
  | taskDelete node upid => onNode node [.fixed "tasks", .supplied upid]
  | createHaGroup group _ _ _ _ => [.fixed "cluster", .fixed "ha", .fixed "groups", .supplied group]
  | deleteHaGroup group => [.fixed "cluster", .fixed "ha", .fixed "groups", .supplied group]
  | createReplicationJob _ => [.fixed "cluster", .fixed "replication"]
  | deleteReplicationJob id => [.fixed "cluster", .fixed "replication", .number id.toNat]

def query : ProxmoxCall → Option (String × String)
  | listResources => some ("type", "vm")
  | vmRrddata _ _ timeframe => some ("timeframe", timeframe)
  | _ => none

def segments (call : ProxmoxCall) : List String :=
  call.endpoint.map Piece.text

def spelled : List String → String
  | [] => ""
  | [last] => last
  | segment :: rest => segment ++ ("/" ++ spelled rest)

def spelledQuery : Option (String × String) → String
  | none => ""
  | some pair => "?" ++ (pair.1 ++ ("=" ++ pair.2))

theorem string_text (text : String) : toString text = text := rfl

theorem vmid_text (vmid : UInt32) : toString vmid = toString vmid.toNat := rfl

theorem id_text (id : UInt64) : toString id = toString id.toNat := rfl

theorem path_spelled (call : ProxmoxCall) : call.path = spelled call.segments ++ spelledQuery call.query := by
  cases call <;>
    (delta path segments endpoint query
     dsimp only
     apply String.toList_injective
     simp [onVm, onNode, onLxc, Piece.text, spelled, spelledQuery, string_text, vmid_text, id_text])

end ProxmoxCall

end Moxui.Proxmox
