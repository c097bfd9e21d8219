import Moxui.Api.TypedClient
import Moxui.Lib.FormFields

set_option autoImplicit false

namespace Moxui.Proxmox

open Moxui.Api (given givenText)
open Moxui.Proxmox.ProxmoxCall (flag)

structure CreateLxcRequest where
  vmid : Option UInt32
  hostname : String
  ostemplate : String
  storage : Option String
  memory : Option UInt64
  cores : Option UInt32
  password : Option String
  rootfs : Option String
  net : Option String
  force : Option Bool
  unprivileged : Option Bool
  description : Option String
  onboot : Option UInt8
  tags : Option String
  sshPublicKeys : Option String
  start : Option Bool
deriving DecidableEq, Repr

def CreateLxcRequest.toQueryParams (req : CreateLxcRequest) : Params :=
  [("hostname", req.hostname)] ++ [("ostemplate", req.ostemplate)] ++ given "vmid" req.vmid toString ++
    givenText "storage" req.storage ++ given "memory" req.memory toString ++ given "cores" req.cores toString ++
    givenText "password" req.password ++ givenText "rootfs" req.rootfs ++ givenText "net" req.net ++
    given "force" req.force flag ++ given "unprivileged" req.unprivileged flag ++
    givenText "description" req.description ++ given "onboot" req.onboot toString ++ givenText "tags" req.tags ++
    givenText "ssh-public-keys" req.sshPublicKeys ++ given "start" req.start flag

end Moxui.Proxmox

namespace Moxui.Api

open FormFields (Faithful pairs)
open Moxui.Proxmox (Params)
open Moxui.Proxmox.ProxmoxCall (flag)

section Texts

theorem flag_injective : Function.Injective flag := by
  intro first second same
  cases first with
  | true => cases second with
    | true => rfl
    | false => exact absurd same (by decide)
  | false => cases second with
    | true => exact absurd same (by decide)
    | false => rfl

theorem text8_injective : Function.Injective (toString : UInt8 → String) := by
  intro first second same
  exact UInt8.toNat_inj.mp (Text.decimal_injective first.toNat second.toNat same)

theorem text32_injective : Function.Injective (toString : UInt32 → String) := by
  intro first second same
  exact UInt32.toNat_inj.mp (Text.decimal_injective first.toNat second.toNat same)

theorem text64_injective : Function.Injective (toString : UInt64 → String) := by
  intro first second same
  exact UInt64.toNat_inj.mp (Text.decimal_injective first.toNat second.toNat same)

@[simp] theorem flags_same (first second : Option Bool) : first.map flag = second.map flag ↔ first = second :=
  (Option.map_injective flag_injective).eq_iff

@[simp] theorem texts8_same (first second : Option UInt8) :
    first.map toString = second.map toString ↔ first = second :=
  (Option.map_injective text8_injective).eq_iff

@[simp] theorem texts32_same (first second : Option UInt32) :
    first.map toString = second.map toString ↔ first = second :=
  (Option.map_injective text32_injective).eq_iff

@[simp] theorem texts64_same (first second : Option UInt64) :
    first.map toString = second.map toString ↔ first = second :=
  (Option.map_injective text64_injective).eq_iff

end Texts

section Pairs

theorem given_pairs {α : Type} (key : String) (value : Option α) (text : α → String) :
    given key value text = pairs [(key, value.map text)] := by
  cases value with
  | none => rfl
  | some content => rfl

theorem given_text_pairs (key : String) (value : Option String) : givenText key value = pairs [(key, value)] := by
  cases value with
  | none => rfl
  | some content => rfl

theorem mandatory_pairs (key text : String) : [(key, text)] = pairs [(key, some text)] := rfl

end Pairs

section Fields

def updateVmConfigFields (req : UpdateVmConfigRequest) : List (String × Option String) :=
  [("name", req.name), ("description", req.description), ("cores", req.cores.map toString),
    ("sockets", req.sockets.map toString), ("memory", req.memory.map toString), ("balloon", req.balloon.map toString),
    ("boot", req.boot), ("bios", req.bios), ("machine", req.machine), ("scsihw", req.scsihw), ("cpu", req.cpu),
    ("tags", req.tags), ("template", req.template.map toString), ("onboot", req.onboot.map toString),
    ("agent", req.agent.map toString), ("delete", req.delete), ("ciuser", req.ciuser), ("sshkeys", req.sshkeys),
    ("ipconfig", req.ipconfig), ("nameserver", req.nameserver), ("searchdomain", req.searchdomain), ("net0", req.net)]

def cloneVmFields (req : CloneVmRequest) : List (String × Option String) :=
  [("newid", some (toString req.newid)), ("target", req.target), ("name", req.name), ("storage", req.storage),
    ("full", some (flag req.full)), ("snapname", req.snapname), ("description", req.description),
    ("start", req.start.map flag), ("pool", req.pool)]

def backupVmFields (req : BackupVmRequest) : List (String × Option String) :=
  [("storage", some req.storage), ("mode", some req.mode), ("compress", some req.compress),
    ("remove", req.remove.map flag), ("notes", req.notes), ("performance", req.performance)]

def createLxcFields (req : Moxui.Proxmox.CreateLxcRequest) : List (String × Option String) :=
  [("hostname", some req.hostname), ("ostemplate", some req.ostemplate), ("vmid", req.vmid.map toString),
    ("storage", req.storage), ("memory", req.memory.map toString), ("cores", req.cores.map toString),
    ("password", req.password), ("rootfs", req.rootfs), ("net", req.net), ("force", req.force.map flag),
    ("unprivileged", req.unprivileged.map flag), ("description", req.description),
    ("onboot", req.onboot.map toString), ("tags", req.tags), ("ssh-public-keys", req.sshPublicKeys),
    ("start", req.start.map flag)]

def lxcConfigFields (config : LxcConfig) : List (String × Option String) :=
  [("hostname", config.hostname), ("memory", config.memory.map toString), ("cores", config.cores.map toString),
    ("description", config.description), ("onboot", config.onboot.map toString), ("tags", config.tags),
    ("nameserver", config.nameserver), ("searchdomain", config.searchdomain), ("rootfs", config.rootfs),
    ("net", config.net), ("features", config.features), ("protection", config.protection.map toString),
    ("start", config.start.map flag), ("hookscript", config.hookscript), ("console", config.console.map toString),
    ("swap", config.swap.map toString)]

end Fields

section FieldsTellApart

theorem update_vm_config_apart (form other : UpdateVmConfigRequest)
    (same : updateVmConfigFields form = updateVmConfigFields other) : form = other := by
  cases form
  cases other
  simpa only [updateVmConfigFields, List.cons.injEq, Prod.mk.injEq, true_and, and_true, texts8_same, texts32_same,
    texts64_same, UpdateVmConfigRequest.mk.injEq] using same

theorem clone_vm_apart (form other : CloneVmRequest) (same : cloneVmFields form = cloneVmFields other) :
    form = other := by
  cases form
  cases other
  simpa only [cloneVmFields, List.cons.injEq, Prod.mk.injEq, true_and, and_true, Option.some.injEq, flags_same,
    text32_injective.eq_iff, flag_injective.eq_iff, CloneVmRequest.mk.injEq] using same

theorem backup_vm_apart (form other : BackupVmRequest) (same : backupVmFields form = backupVmFields other) :
    form = other := by
  cases form
  cases other
  simpa only [backupVmFields, List.cons.injEq, Prod.mk.injEq, true_and, and_true, Option.some.injEq, flags_same,
    BackupVmRequest.mk.injEq] using same

theorem create_lxc_apart (form other : Moxui.Proxmox.CreateLxcRequest)
    (same : createLxcFields form = createLxcFields other) : form = other := by
  cases form
  cases other
  simp only [createLxcFields, List.cons.injEq, Prod.mk.injEq, true_and, and_true, Option.some.injEq, flags_same,
    texts8_same, texts32_same, texts64_same] at same
  obtain ⟨hostname, ostemplate, vmid, rest⟩ := same
  simpa only [Moxui.Proxmox.CreateLxcRequest.mk.injEq] using ⟨vmid, hostname, ostemplate, rest⟩

theorem lxc_config_apart (form other : LxcConfig) (same : lxcConfigFields form = lxcConfigFields other) :
    form = other := by
  cases form
  cases other
  simpa only [lxcConfigFields, List.cons.injEq, Prod.mk.injEq, true_and, and_true, flags_same, texts8_same,
    texts32_same, texts64_same, LxcConfig.mk.injEq] using same

end FieldsTellApart

section Encoded

theorem update_vm_config_encoded (form : UpdateVmConfigRequest) :
    updateVmConfigParams form = pairs (updateVmConfigFields form) := by
  unfold updateVmConfigParams
  simp only [updateVmConfigFields, FormFields.pairs_cons_cons, given_pairs, given_text_pairs, List.append_assoc]

theorem clone_vm_encoded (form : CloneVmRequest) : cloneVmParams form = pairs (cloneVmFields form) := by
  rw [cloneVmParams, mandatory_pairs, mandatory_pairs "full"]
  simp only [cloneVmFields, FormFields.pairs_cons_cons, given_pairs, given_text_pairs, List.append_assoc]

theorem backup_vm_encoded (form : BackupVmRequest) : backupVmParams form = pairs (backupVmFields form) := by
  have mandatory : [("storage", form.storage), ("mode", form.mode), ("compress", form.compress)] =
      pairs [("storage", some form.storage), ("mode", some form.mode), ("compress", some form.compress)] := rfl
  rw [backupVmParams, mandatory]
  simp only [backupVmFields, FormFields.pairs_cons_cons, given_pairs, given_text_pairs, List.append_assoc]

theorem create_lxc_encoded (form : Moxui.Proxmox.CreateLxcRequest) :
    form.toQueryParams = pairs (createLxcFields form) := by
  rw [Moxui.Proxmox.CreateLxcRequest.toQueryParams, mandatory_pairs, mandatory_pairs "ostemplate"]
  simp only [createLxcFields, FormFields.pairs_cons_cons, given_pairs, given_text_pairs, List.append_assoc]

theorem lxc_config_encoded (form : LxcConfig) : form.toQueryParams = pairs (lxcConfigFields form) := by
  simp only [LxcConfig.toQueryParams, lxcConfigFields, FormFields.pairs_cons_cons, given_pairs, given_text_pairs,
    List.append_assoc]

end Encoded

section KeysDistinct

theorem update_vm_config_keys (form : UpdateVmConfigRequest) : ((updateVmConfigFields form).map Prod.fst).Nodup := by
  simp only [updateVmConfigFields, List.map_cons, List.map_nil]
  decide +kernel

theorem clone_vm_keys (form : CloneVmRequest) : ((cloneVmFields form).map Prod.fst).Nodup := by
  simp only [cloneVmFields, List.map_cons, List.map_nil]
  decide +kernel

theorem backup_vm_keys (form : BackupVmRequest) : ((backupVmFields form).map Prod.fst).Nodup := by
  simp only [backupVmFields, List.map_cons, List.map_nil]
  decide +kernel

theorem create_lxc_keys (form : Moxui.Proxmox.CreateLxcRequest) : ((createLxcFields form).map Prod.fst).Nodup := by
  simp only [createLxcFields, List.map_cons, List.map_nil]
  decide +kernel

theorem lxc_config_keys (form : LxcConfig) : ((lxcConfigFields form).map Prod.fst).Nodup := by
  simp only [lxcConfigFields, List.map_cons, List.map_nil]
  decide +kernel

end KeysDistinct

theorem encoders_faithful :
    Faithful updateVmConfigFields updateVmConfigParams ∧ Faithful cloneVmFields cloneVmParams ∧
      Faithful backupVmFields backupVmParams ∧ Faithful lxcConfigFields LxcConfig.toQueryParams ∧
      Faithful createLxcFields Moxui.Proxmox.CreateLxcRequest.toQueryParams := by
  refine ⟨?_, ?_, ?_, ?_, ?_⟩
  · exact FormFields.faithful_of_pairs _ _ update_vm_config_keys (fun _ _ => rfl) update_vm_config_encoded update_vm_config_apart
  · exact FormFields.faithful_of_pairs _ _ clone_vm_keys (fun _ _ => rfl) clone_vm_encoded clone_vm_apart
  · exact FormFields.faithful_of_pairs _ _ backup_vm_keys (fun _ _ => rfl) backup_vm_encoded backup_vm_apart
  · exact FormFields.faithful_of_pairs _ _ lxc_config_keys (fun _ _ => rfl) lxc_config_encoded lxc_config_apart
  · exact FormFields.faithful_of_pairs _ _ create_lxc_keys (fun _ _ => rfl) create_lxc_encoded create_lxc_apart

end Moxui.Api
