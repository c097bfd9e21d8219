import Moxui.Lib.Text

set_option autoImplicit false

namespace Moxui.Proxmox

inductive Method where
  | get
  | post
deriving DecidableEq, Repr

inductive VmAction where
  | start
  | stop
  | shutdown
  | reboot
  | reset
  | suspend
  | resume
deriving DecidableEq, Repr

def VmAction.asStr : VmAction → String
  | .start => "start"
  | .stop => "stop"
  | .shutdown => "shutdown"
  | .reboot => "reboot"
  | .reset => "reset"
  | .suspend => "suspend"
  | .resume => "resume"

inductive LxcAction where
  | start
  | stop
  | shutdown
  | reboot
deriving DecidableEq, Repr

def LxcAction.asStr : LxcAction → String
  | .start => "start"
  | .stop => "stop"
  | .shutdown => "shutdown"
  | .reboot => "reboot"

abbrev Params : Type :=
  List (String × String)

-- Every call the handlers make through a client, under the name of the client's method, or of
-- the handler where the handler formats the path itself. The ticket login is not among them.
inductive ProxmoxCall where
  | version
  | listResources
  | listAllStorages
  | listAllNetworks
  | clusterStatus
  | clusterConfigInfo
  | clusterOptions
  | clusterLog
  | clusterTasks
  | cephStatus
  | cephPools
  | firewallRules
  | sdnZones
  | sdnVnets
  | listHaGroups
  | haStatus
  | listReplicationJobs
  | getReplicationStatus (id : UInt64)
  | vmConfig (node : String) (vmid : UInt32)
  | vmRrddata (node : String) (vmid : UInt32) (timeframe : String)
  | listSnapshots (node : String) (vmid : UInt32)
  | lxcDetail (node : String) (vmid : UInt32)
  | lxcConfig (node : String) (vmid : UInt32)
  | listStorages (node : String)
  | storageContent (node storage : String)
  | listNetworks (node : String)
  | taskStatus (node upid : String)
  | taskLog (node upid : String)
  | vmAction (node : String) (vmid : UInt32) (action : VmAction)
  | deleteVm (node : String) (vmid : UInt32) (purge force skiplock : Bool)
  | migrateVm (node : String) (vmid : UInt32) (target : String) (online : Bool)
  | createVm (node : String) (params : Params)
  | cloneVm (node : String) (vmid : UInt32) (params : Params)
  | updateVmConfig (node : String) (vmid : UInt32) (params : Params)
  | createSnapshot (node : String) (vmid : UInt32) (params : Params)
  | deleteSnapshot (node : String) (vmid : UInt32) (snapname : String) (force : Bool)
  | rollbackSnapshot (node : String) (vmid : UInt32) (snapname : String)
  | backupVm (node : String) (vmid : UInt32) (params : Params)
  | resizeDisk (node : String) (vmid : UInt32) (disk size : String)
  | vmTemplate (node : String) (vmid : UInt32)
  | vmSendkey (node : String) (vmid : UInt32) (key : String)
  | vncProxy (node : String) (vmid : UInt32)
  | lxcAction (node : String) (vmid : UInt32) (action : LxcAction) (params : Params)
  | lxcDelete (node : String) (vmid : UInt32) (purge force skiplock : Bool)
  | lxcCreate (node : String) (params : Params)
  | lxcUpdateConfig (node : String) (vmid : UInt32) (params : Params)
  | uploadFile (node storage content filename : String) (data : List UInt8)
  | deleteStorageContent (node storage volid : String)
  | networkConfigUpdate (node : String) (params : Params)
  | networkConfigApply (node : String)
  | taskDelete (node upid : String)
  | createHaGroup (group : String) (nodes comment : Option String) (nofailback restricted : Bool)
  | deleteHaGroup (group : String)
  | createReplicationJob (params : Params)
  | deleteReplicationJob (id : UInt64)
deriving DecidableEq, Repr

namespace ProxmoxCall

-- Whatever changes something goes out as a POST, deletions and updates included.
def method : ProxmoxCall → Method
  | version | listResources | listAllStorages | listAllNetworks | clusterStatus | clusterConfigInfo | clusterOptions
  | clusterLog | clusterTasks | cephStatus | cephPools | firewallRules | sdnZones | sdnVnets | listHaGroups | haStatus
  | listReplicationJobs | getReplicationStatus _ | vmConfig _ _ | vmRrddata _ _ _ | listSnapshots _ _ | lxcDetail _ _
  | lxcConfig _ _ | listStorages _ | storageContent _ _ | listNetworks _ | taskStatus _ _ | taskLog _ _ => .get
  | _ => .post

def path : ProxmoxCall → String
  | version => "version"
  | listResources => "cluster/resources?type=vm"
  | listAllStorages => "storage"
  | listAllNetworks => "network"
  | clusterStatus => "cluster/status"
  | clusterConfigInfo => "cluster/config"
  | clusterOptions => "cluster/options"
  | clusterLog => "cluster/log"
  | clusterTasks => "cluster/tasks"
  | cephStatus => "cluster/ceph/status"
  | cephPools => "cluster/ceph/pool"
  | firewallRules => "cluster/firewall/rules"
  | sdnZones => "cluster/sdn/zones"
  | sdnVnets => "cluster/sdn/vnets"
  | listHaGroups => "cluster/ha/groups"
  | haStatus => "cluster/ha/status"
  | listReplicationJobs => "cluster/replication"
  | getReplicationStatus id => s!"cluster/replication/{id}/log"
  | vmConfig node vmid => s!"nodes/{node}/qemu/{vmid}/config"
  | vmRrddata node vmid timeframe => s!"nodes/{node}/qemu/{vmid}/rrddata?timeframe={timeframe}"
  | listSnapshots node vmid => s!"nodes/{node}/qemu/{vmid}/snapshot"
  | lxcDetail node vmid => s!"nodes/{node}/lxc/{vmid}/status/current"
  | lxcConfig node vmid => s!"nodes/{node}/lxc/{vmid}/config"
  | listStorages node => s!"nodes/{node}/storage"
  | storageContent node storage => s!"nodes/{node}/storage/{storage}/content"
  | listNetworks node => s!"nodes/{node}/network"
  | taskStatus node upid => s!"nodes/{node}/tasks/{upid}/status"
  | taskLog node upid => s!"nodes/{node}/tasks/{upid}/log"
  | vmAction node vmid action => s!"nodes/{node}/qemu/{vmid}/status/{action.asStr}"
  | deleteVm node vmid _ _ _ => s!"nodes/{node}/qemu/{vmid}"
  | migrateVm node vmid _ _ => s!"nodes/{node}/qemu/{vmid}/migrate"
  | createVm node _ => s!"nodes/{node}/qemu"
  | cloneVm node vmid _ => s!"nodes/{node}/qemu/{vmid}/clone"
  | updateVmConfig node vmid _ => s!"nodes/{node}/qemu/{vmid}/config"
  | createSnapshot node vmid _ => s!"nodes/{node}/qemu/{vmid}/snapshot"
  | deleteSnapshot node vmid snapname _ => s!"nodes/{node}/qemu/{vmid}/snapshot/{snapname}"
  | rollbackSnapshot node vmid snapname => s!"nodes/{node}/qemu/{vmid}/snapshot/{snapname}/rollback"
  | backupVm node vmid _ => s!"nodes/{node}/qemu/{vmid}/backup"
  | resizeDisk node vmid _ _ => s!"nodes/{node}/qemu/{vmid}/resize"
  | vmTemplate node vmid => s!"nodes/{node}/qemu/{vmid}/template"
  | vmSendkey node vmid _ => s!"nodes/{node}/qemu/{vmid}/sendkey"
  | vncProxy node vmid => s!"nodes/{node}/qemu/{vmid}/vncproxy"
  | lxcAction node vmid action _ => s!"nodes/{node}/lxc/{vmid}/status/{action.asStr}"
  | lxcDelete node vmid _ _ _ => s!"nodes/{node}/lxc/{vmid}"
  | lxcCreate node _ => s!"nodes/{node}/lxc"
  | lxcUpdateConfig node vmid _ => s!"nodes/{node}/lxc/{vmid}/config"
  | uploadFile node storage _ _ _ => s!"nodes/{node}/storage/{storage}/upload"
  | deleteStorageContent node storage volid => s!"nodes/{node}/storage/{storage}/content/{volid}"
  | networkConfigUpdate node _ => s!"nodes/{node}/network"
  | networkConfigApply node => s!"nodes/{node}/network"
  | taskDelete node upid => s!"nodes/{node}/tasks/{upid}"
  | createHaGroup group _ _ _ _ => s!"cluster/ha/groups/{group}"
  | deleteHaGroup group => s!"cluster/ha/groups/{group}"
  | createReplicationJob _ => "cluster/replication"
  | deleteReplicationJob id => s!"cluster/replication/{id}"

def flag (value : Bool) : String :=
  if value then "1" else "0"

-- The pairs that reqwest encodes and appends to the query of the URL.
def params : ProxmoxCall → Params
  | deleteVm _ _ purge force skiplock => [("purge", flag purge), ("force", flag force), ("skiplock", flag skiplock)]
  | migrateVm _ _ target online => [("target", target), ("online", flag online)]
  | createVm _ params => params
  | cloneVm _ _ params => params
  | updateVmConfig _ _ params => params
  | createSnapshot _ _ params => params
  | deleteSnapshot _ _ _ force => [("force", flag force)]
  | backupVm _ _ params => params
  | resizeDisk _ _ disk size => [("disk", disk), ("size", size)]
  | vmSendkey _ _ key => [("key", key)]
  | lxcAction _ _ _ params => params
  | lxcDelete _ _ purge force skiplock => [("purge", flag purge), ("force", flag force), ("skiplock", flag skiplock)]
  | lxcCreate _ params => params
  | lxcUpdateConfig _ _ params => params
  | networkConfigUpdate _ params => params
  | createHaGroup _ nodes comment nofailback restricted =>
      [("nofailback", flag nofailback), ("restricted", flag restricted)] ++ (nodes.toList.map fun nodes => ("nodes", nodes)) ++
        (comment.toList.map fun comment => ("comment", comment))
  | deleteHaGroup _ => [("force", "1")]
  | createReplicationJob params => params
  | _ => []

end ProxmoxCall

def buildUrl (base path : String) : String :=
  Text.trimEndMatches '/' base ++ "/api2/json/" ++ Text.trimStartMatches '/' path

example : buildUrl "https://test.local:8006/" (ProxmoxCall.path (.vmConfig "pve11" 100)) =
    "https://test.local:8006/api2/json/nodes/pve11/qemu/100/config" := by decide

end Moxui.Proxmox
