import Mathlib.Algebra.Group.Nat.Defs
import Moxui.Api.Backups
import Moxui.Api.ClusterIsolation
import Moxui.Lib.Tally

set_option autoImplicit false

namespace Moxui.Api

-- What the dashboard reads of the answers of Proxmox. `φ` stands for `f64`.
section Types

variable (φ : Type)

structure Version where
  version : String
  release : String
deriving DecidableEq, Repr

structure VmResource where
  kind : String
  status : String
  cpus : Option φ
  maxmem : Option UInt64

-- The answers to the three calls of a cluster. Without a version the others are not asked for.
structure ClusterAnswers where
  version : Except AppError Version
  resources : Except AppError (List (VmResource φ))
  storages : Except AppError (List StorageResource)

structure ClusterDashboard where
  name : String
  reachable : Bool
  version : Option String
  release : Option String
  vmsTotal : UInt32
  vmsRunning : UInt32
  vmsStopped : UInt32
  lxcsTotal : UInt32
  lxcsRunning : UInt32
  lxcsStopped : UInt32
  storagePools : UInt32
  allocatedCpus : φ
  allocatedMemory : UInt64
  error : Option String

structure DashboardTotals where
  vmsTotal : UInt32
  vmsRunning : UInt32
  vmsStopped : UInt32
  lxcsTotal : UInt32
  lxcsRunning : UInt32
  lxcsStopped : UInt32
  storagePools : UInt32
  allocatedCpus : φ
  allocatedMemory : UInt64

structure DashboardResponse where
  clusters : List (ClusterDashboard φ)
  totals : DashboardTotals φ

structure ResourceCounts where
  vmsTotal : UInt32
  vmsRunning : UInt32
  vmsStopped : UInt32
  lxcsTotal : UInt32
  lxcsRunning : UInt32
  lxcsStopped : UInt32
  allocatedCpus : φ
  allocatedMemory : UInt64

end Types

section Model

variable {φ : Type} [Zero φ] [Add φ]

namespace ResourceCounts

def zero : ResourceCounts φ :=
  { vmsTotal := 0, vmsRunning := 0, vmsStopped := 0, lxcsTotal := 0, lxcsRunning := 0, lxcsStopped := 0
    allocatedCpus := 0, allocatedMemory := 0 }

def countVm (counts : ResourceCounts φ) (status : String) : ResourceCounts φ :=
  let counts := { counts with vmsTotal := counts.vmsTotal + 1 }
  if status = "running" then { counts with vmsRunning := counts.vmsRunning + 1 }
  else if status = "stopped" then { counts with vmsStopped := counts.vmsStopped + 1 }
  else counts

def countLxc (counts : ResourceCounts φ) (status : String) : ResourceCounts φ :=
  let counts := { counts with lxcsTotal := counts.lxcsTotal + 1 }
  if status = "running" then { counts with lxcsRunning := counts.lxcsRunning + 1 }
  else if status = "stopped" then { counts with lxcsStopped := counts.lxcsStopped + 1 }
  else counts

def allocate (counts : ResourceCounts φ) (r : VmResource φ) : ResourceCounts φ :=
  let counts := match r.cpus with
    | some cpus => { counts with allocatedCpus := counts.allocatedCpus + cpus }
    | none => counts
  match r.maxmem with
  | some maxmem => { counts with allocatedMemory := counts.allocatedMemory + maxmem }
  | none => counts

def count (counts : ResourceCounts φ) (r : VmResource φ) : ResourceCounts φ :=
  if r.kind = "qemu" then (counts.countVm r.status).allocate r
  else if r.kind = "lxc" then (counts.countLxc r.status).allocate r
  else counts

end ResourceCounts

def unreachableCluster (name : String) (error : AppError) : ClusterDashboard φ :=
  { name := name, reachable := false, version := none, release := none, vmsTotal := 0, vmsRunning := 0, vmsStopped := 0
    lxcsTotal := 0, lxcsRunning := 0, lxcsStopped := 0, storagePools := 0, allocatedCpus := 0, allocatedMemory := 0
    error := some error.display }

def reachableCluster (name : String) (version : Version) (resources : List (VmResource φ))
    (storages : List StorageResource) : ClusterDashboard φ :=
  let counts := resources.foldl ResourceCounts.count ResourceCounts.zero
  { name := name, reachable := true, version := some version.version, release := some version.release
    vmsTotal := counts.vmsTotal, vmsRunning := counts.vmsRunning, vmsStopped := counts.vmsStopped
    lxcsTotal := counts.lxcsTotal, lxcsRunning := counts.lxcsRunning, lxcsStopped := counts.lxcsStopped
    storagePools := UInt32.ofNat storages.length, allocatedCpus := counts.allocatedCpus
    allocatedMemory := counts.allocatedMemory, error := none }

-- `collect_cluster_dashboard`: without a version an unreachable cluster, and an error if a later call fails.
def clusterDashboard (name : String) (answers : ClusterAnswers φ) : Except AppError (ClusterDashboard φ) :=
  match answers.version with
  | .error error => .ok (unreachableCluster name error)
  | .ok version => do
      let resources ← answers.resources
      let storages ← answers.storages
      .ok (reachableCluster name version resources storages)

def DashboardTotals.zero : DashboardTotals φ :=
  { vmsTotal := 0, vmsRunning := 0, vmsStopped := 0, lxcsTotal := 0, lxcsRunning := 0, lxcsStopped := 0
    storagePools := 0, allocatedCpus := 0, allocatedMemory := 0 }

def DashboardTotals.add (totals : DashboardTotals φ) (cd : ClusterDashboard φ) : DashboardTotals φ :=
  { vmsTotal := totals.vmsTotal + cd.vmsTotal, vmsRunning := totals.vmsRunning + cd.vmsRunning
    vmsStopped := totals.vmsStopped + cd.vmsStopped, lxcsTotal := totals.lxcsTotal + cd.lxcsTotal
    lxcsRunning := totals.lxcsRunning + cd.lxcsRunning, lxcsStopped := totals.lxcsStopped + cd.lxcsStopped
    storagePools := totals.storagePools + cd.storagePools, allocatedCpus := totals.allocatedCpus + cd.allocatedCpus
    allocatedMemory := totals.allocatedMemory + cd.allocatedMemory }

abbrev CollectedCluster (φ : Type) : Type := String × Except AppError (ClusterDashboard φ)

def DashboardResponse.collect (response : DashboardResponse φ) (result : CollectedCluster φ) : DashboardResponse φ :=
  match result.2 with
  | .ok cd => { clusters := response.clusters ++ [cd], totals := response.totals.add cd }
  | .error error => { response with clusters := response.clusters ++ [unreachableCluster result.1 error] }

def dashboardResponse (results : List (CollectedCluster φ)) : DashboardResponse φ :=
  results.foldl DashboardResponse.collect { clusters := [], totals := .zero }

def dashboardOf (asked : List (ProxmoxClient × ClusterAnswers φ)) : DashboardResponse φ :=
  dashboardResponse (asked.map fun one => (one.1.name, clusterDashboard one.1.name one.2))

end Model

section Exact

variable {φ : Type}

def isKind (kind : String) (r : VmResource φ) : Bool := r.kind = kind

def isKindStatus (kind status : String) (r : VmResource φ) : Bool := r.kind = kind && r.status = status

def memoryOf (r : VmResource φ) : Nat :=
  if r.kind = "qemu" ∨ r.kind = "lxc" then (r.maxmem.getD 0).toNat else 0

-- The resources and the pools of a cluster; a cluster of which a call fails has none.
def ClusterAnswers.fetched (answers : ClusterAnswers φ) : List (VmResource φ) :=
  match answers.version, answers.resources, answers.storages with
  | .ok _, .ok resources, .ok _ => resources
  | _, _, _ => []

def ClusterAnswers.pools (answers : ClusterAnswers φ) : Nat :=
  match answers.version, answers.resources, answers.storages with
  | .ok _, .ok _, .ok storages => storages.length
  | _, _, _ => 0

structure SumsFit (all : List (ClusterAnswers φ)) : Prop where
  vms : Tally.total (fun answers => answers.fetched.countP (isKind "qemu")) all < 2 ^ 32
  lxcs : Tally.total (fun answers => answers.fetched.countP (isKind "lxc")) all < 2 ^ 32
  pools : Tally.total ClusterAnswers.pools all < 2 ^ 32
  memory : Tally.total (fun answers => Tally.total memoryOf answers.fetched) all < 2 ^ 64

structure EntryExact (asked : ProxmoxClient × ClusterAnswers φ) (cd : ClusterDashboard φ) : Prop where
  name : cd.name = asked.1.name
  vms_total : cd.vmsTotal.toNat = asked.2.fetched.countP (isKind "qemu")
  vms_running : cd.vmsRunning.toNat = asked.2.fetched.countP (isKindStatus "qemu" "running")
  vms_stopped : cd.vmsStopped.toNat = asked.2.fetched.countP (isKindStatus "qemu" "stopped")
  lxcs_total : cd.lxcsTotal.toNat = asked.2.fetched.countP (isKind "lxc")
  lxcs_running : cd.lxcsRunning.toNat = asked.2.fetched.countP (isKindStatus "lxc" "running")
  lxcs_stopped : cd.lxcsStopped.toNat = asked.2.fetched.countP (isKindStatus "lxc" "stopped")
  storage_pools : cd.storagePools.toNat = asked.2.pools
  allocated_memory : cd.allocatedMemory.toNat = Tally.total memoryOf asked.2.fetched
  vms_bounded : cd.vmsRunning.toNat + cd.vmsStopped.toNat ≤ cd.vmsTotal.toNat
  lxcs_bounded : cd.lxcsRunning.toNat + cd.lxcsStopped.toNat ≤ cd.lxcsTotal.toNat

structure TotalsExact (response : DashboardResponse φ) : Prop where
  vms_total : response.totals.vmsTotal.toNat = Tally.total (fun cd => cd.vmsTotal.toNat) response.clusters
  vms_running : response.totals.vmsRunning.toNat = Tally.total (fun cd => cd.vmsRunning.toNat) response.clusters
  vms_stopped : response.totals.vmsStopped.toNat = Tally.total (fun cd => cd.vmsStopped.toNat) response.clusters
  lxcs_total : response.totals.lxcsTotal.toNat = Tally.total (fun cd => cd.lxcsTotal.toNat) response.clusters
  lxcs_running : response.totals.lxcsRunning.toNat = Tally.total (fun cd => cd.lxcsRunning.toNat) response.clusters
  lxcs_stopped : response.totals.lxcsStopped.toNat = Tally.total (fun cd => cd.lxcsStopped.toNat) response.clusters
  storage_pools : response.totals.storagePools.toNat = Tally.total (fun cd => cd.storagePools.toNat) response.clusters
  allocated_memory :
    response.totals.allocatedMemory.toNat = Tally.total (fun cd => cd.allocatedMemory.toNat) response.clusters

theorem running_and_stopped (kind : String) (resources : List (VmResource φ)) :
    resources.countP (isKindStatus kind "running") + resources.countP (isKindStatus kind "stopped") ≤
      resources.countP (isKind kind) := by
  induction resources with
  | nil => exact Nat.le_refl 0
  | cons r resources ih =>
      have here : Tally.one (isKindStatus kind "running") r + Tally.one (isKindStatus kind "stopped") r ≤
          Tally.one (isKind kind) r := by
        by_cases running : r.status = "running"
        · simp [Tally.one, isKindStatus, isKind, running]
        · by_cases stopped : r.status = "stopped"
          · simp [Tally.one, isKindStatus, isKind, stopped]
          · simp [Tally.one, isKindStatus, running, stopped]
      simp only [Tally.one] at here
      simp only [List.countP_cons]
      omega

theorem status_le_kind (kind status : String) (resources : List (VmResource φ)) :
    resources.countP (isKindStatus kind status) ≤ resources.countP (isKind kind) := by
  apply List.countP_mono_left
  intro r _ chosen
  exact (Bool.and_eq_true _ _ ▸ chosen).1

end Exact

section Counting

variable {φ : Type} [Zero φ] [Add φ]

structure Counted (r : VmResource φ) (before after : ResourceCounts φ) : Prop where
  vms_total : after.vmsTotal = before.vmsTotal + UInt32.ofNat (Tally.one (isKind "qemu") r)
  vms_running : after.vmsRunning = before.vmsRunning + UInt32.ofNat (Tally.one (isKindStatus "qemu" "running") r)
  vms_stopped : after.vmsStopped = before.vmsStopped + UInt32.ofNat (Tally.one (isKindStatus "qemu" "stopped") r)
  lxcs_total : after.lxcsTotal = before.lxcsTotal + UInt32.ofNat (Tally.one (isKind "lxc") r)
  lxcs_running : after.lxcsRunning = before.lxcsRunning + UInt32.ofNat (Tally.one (isKindStatus "lxc" "running") r)
  lxcs_stopped : after.lxcsStopped = before.lxcsStopped + UInt32.ofNat (Tally.one (isKindStatus "lxc" "stopped") r)
  memory : after.allocatedMemory = before.allocatedMemory + UInt64.ofNat (memoryOf r)

omit [Zero φ] in
theorem allocate_memory (counts : ResourceCounts φ) (r : VmResource φ) :
    ∃ cpus, counts.allocate r =
      { counts with allocatedCpus := cpus, allocatedMemory := counts.allocatedMemory + r.maxmem.getD 0 } := by
  rw [ResourceCounts.allocate]
  cases r.maxmem with
  | none =>
      cases r.cpus with
      | none => exact ⟨counts.allocatedCpus, by simp⟩
      | some cpus => exact ⟨counts.allocatedCpus + cpus, by simp⟩
  | some maxmem =>
      cases r.cpus with
      | none => exact ⟨counts.allocatedCpus, rfl⟩
      | some cpus => exact ⟨counts.allocatedCpus + cpus, rfl⟩

omit [Zero φ] [Add φ] in
theorem count_vm (counts : ResourceCounts φ) (status : String) :
    counts.countVm status =
      { counts with
        vmsTotal := counts.vmsTotal + 1
        vmsRunning := counts.vmsRunning + (if status = "running" then 1 else 0)
        vmsStopped := counts.vmsStopped + (if status = "stopped" then 1 else 0) } := by
  rw [ResourceCounts.countVm]
  by_cases running : status = "running"
  · simp [running]
  · by_cases stopped : status = "stopped"
    · simp [stopped]
    · simp [running, stopped]

omit [Zero φ] [Add φ] in
theorem count_lxc (counts : ResourceCounts φ) (status : String) :
    counts.countLxc status =
      { counts with
        lxcsTotal := counts.lxcsTotal + 1
        lxcsRunning := counts.lxcsRunning + (if status = "running" then 1 else 0)
        lxcsStopped := counts.lxcsStopped + (if status = "stopped" then 1 else 0) } := by
  rw [ResourceCounts.countLxc]
  by_cases running : status = "running"
  · simp [running]
  · by_cases stopped : status = "stopped"
    · simp [stopped]
    · simp [running, stopped]

omit [Zero φ] in
theorem count_resource (counts : ResourceCounts φ) (r : VmResource φ) : Counted r counts (counts.count r) := by
  by_cases isVm : r.kind = "qemu"
  · obtain ⟨cpus, allocated⟩ := allocate_memory (counts.countVm r.status) r
    rw [ResourceCounts.count, if_pos isVm, allocated, count_vm]
    refine ⟨?_, ?_, ?_, ?_, ?_, ?_, ?_⟩ <;> simp [Tally.one, isKind, isKindStatus, memoryOf, isVm, apply_ite UInt32.ofNat]
  · by_cases isLxc : r.kind = "lxc"
    · obtain ⟨cpus, allocated⟩ := allocate_memory (counts.countLxc r.status) r
      rw [ResourceCounts.count, if_neg isVm, if_pos isLxc, allocated, count_lxc]
      refine ⟨?_, ?_, ?_, ?_, ?_, ?_, ?_⟩ <;>
        simp [Tally.one, isKind, isKindStatus, memoryOf, isLxc, apply_ite UInt32.ofNat]
    · rw [ResourceCounts.count, if_neg isVm, if_neg isLxc]
      refine ⟨?_, ?_, ?_, ?_, ?_, ?_, ?_⟩ <;> simp [Tally.one, isKind, isKindStatus, memoryOf, isVm, isLxc]

theorem counter_exact (counter : ResourceCounts φ → UInt32) (chosen : VmResource φ → Bool)
    (adds : ∀ counts r, counter (ResourceCounts.count counts r) = counter counts + UInt32.ofNat (Tally.one chosen r))
    (start : counter .zero = 0) (resources : List (VmResource φ)) (fits : resources.countP chosen < 2 ^ 32) :
    (counter (resources.foldl ResourceCounts.count .zero)).toNat = resources.countP chosen := by
  have exact := Tally.foldl_total ResourceCounts.count (fun counts => (counter counts).toNat) (Tally.one chosen) (2 ^ 32)
    (by
      intro counts r under
      rw [adds counts r, UInt32.toNat_add, UInt32.toNat_ofNat', Nat.mod_eq_of_lt (a := Tally.one chosen r) (by omega),
        Nat.mod_eq_of_lt under])
    .zero resources (by rw [start, Tally.total_one]; simpa using fits)
  rw [exact, start, Tally.total_one]
  exact Nat.zero_add _

theorem memory_exact (resources : List (VmResource φ)) (fits : Tally.total memoryOf resources < 2 ^ 64) :
    (resources.foldl ResourceCounts.count (ResourceCounts.zero : ResourceCounts φ)).allocatedMemory.toNat =
      Tally.total memoryOf resources := by
  have exact := Tally.foldl_total ResourceCounts.count (fun counts => counts.allocatedMemory.toNat) memoryOf (2 ^ 64)
    (by
      intro counts r under
      rw [(count_resource counts r).memory, UInt64.toNat_add, UInt64.toNat_ofNat',
        Nat.mod_eq_of_lt (a := memoryOf r) (by omega), Nat.mod_eq_of_lt under])
    .zero resources (by simpa [ResourceCounts.zero] using fits)
  rw [exact]
  exact Nat.zero_add _

structure Fits (answers : ClusterAnswers φ) : Prop where
  vms : answers.fetched.countP (isKind "qemu") < 2 ^ 32
  lxcs : answers.fetched.countP (isKind "lxc") < 2 ^ 32
  pools : answers.pools < 2 ^ 32
  memory : Tally.total memoryOf answers.fetched < 2 ^ 64

omit [Add φ] in
theorem unreachable_exact (client : ProxmoxClient) (answers : ClusterAnswers φ) (error : AppError)
    (none : answers.fetched = []) (noPools : answers.pools = 0) :
    EntryExact (client, answers) (unreachableCluster client.name error) := by
  refine ⟨rfl, ?_, ?_, ?_, ?_, ?_, ?_, ?_, ?_, Nat.le_refl 0, Nat.le_refl 0⟩
  · rw [none]; rfl
  · rw [none]; rfl
  · rw [none]; rfl
  · rw [none]; rfl
  · rw [none]; rfl
  · rw [none]; rfl
  · rw [noPools]; rfl
  · rw [none]; rfl

theorem reachable_exact (client : ProxmoxClient) (answers : ClusterAnswers φ) (fits : Fits answers) (version : Version)
    (storages : List StorageResource) (pools : answers.pools = storages.length) :
    EntryExact (client, answers) (reachableCluster client.name version answers.fetched storages) := by
  have vms := counter_exact ResourceCounts.vmsTotal _ (fun (counts : ResourceCounts φ) r => (count_resource counts r).vms_total) rfl
    answers.fetched fits.vms
  have lxcs := counter_exact ResourceCounts.lxcsTotal _ (fun (counts : ResourceCounts φ) r => (count_resource counts r).lxcs_total) rfl
    answers.fetched fits.lxcs
  have ofVms (status : String) := Nat.lt_of_le_of_lt (status_le_kind "qemu" status answers.fetched) fits.vms
  have ofLxcs (status : String) := Nat.lt_of_le_of_lt (status_le_kind "lxc" status answers.fetched) fits.lxcs
  have vmsRunning := counter_exact ResourceCounts.vmsRunning _
    (fun (counts : ResourceCounts φ) r => (count_resource counts r).vms_running) rfl answers.fetched (ofVms "running")
  have vmsStopped := counter_exact ResourceCounts.vmsStopped _
    (fun (counts : ResourceCounts φ) r => (count_resource counts r).vms_stopped) rfl answers.fetched (ofVms "stopped")
  have lxcsRunning := counter_exact ResourceCounts.lxcsRunning _
    (fun (counts : ResourceCounts φ) r => (count_resource counts r).lxcs_running) rfl answers.fetched (ofLxcs "running")
  have lxcsStopped := counter_exact ResourceCounts.lxcsStopped _
    (fun (counts : ResourceCounts φ) r => (count_resource counts r).lxcs_stopped) rfl answers.fetched (ofLxcs "stopped")
  refine ⟨rfl, vms, vmsRunning, vmsStopped, lxcs, lxcsRunning, lxcsStopped, ?_, ?_, ?_, ?_⟩
  · rw [reachableCluster, UInt32.toNat_ofNat', pools]
    exact Nat.mod_eq_of_lt (pools ▸ fits.pools)
  · exact memory_exact answers.fetched fits.memory
  · calc
      _ = answers.fetched.countP (isKindStatus "qemu" "running") +
          answers.fetched.countP (isKindStatus "qemu" "stopped") := congrArg₂ (· + ·) vmsRunning vmsStopped
      _ ≤ answers.fetched.countP (isKind "qemu") := running_and_stopped "qemu" answers.fetched
      _ = _ := vms.symm
  · calc
      _ = answers.fetched.countP (isKindStatus "lxc" "running") +
          answers.fetched.countP (isKindStatus "lxc" "stopped") := congrArg₂ (· + ·) lxcsRunning lxcsStopped
      _ ≤ answers.fetched.countP (isKind "lxc") := running_and_stopped "lxc" answers.fetched
      _ = _ := lxcs.symm

def shownCluster (result : CollectedCluster φ) : ClusterDashboard φ :=
  match result.2 with
  | .ok cd => cd
  | .error error => unreachableCluster result.1 error

theorem shown_exact (client : ProxmoxClient) (answers : ClusterAnswers φ) (fits : Fits answers) :
    EntryExact (client, answers) (shownCluster (client.name, clusterDashboard client.name answers)) := by
  cases version : answers.version with
  | error error =>
      have none : answers.fetched = [] := by rw [ClusterAnswers.fetched, version]
      have noPools : answers.pools = 0 := by rw [ClusterAnswers.pools, version]
      rw [clusterDashboard, version]
      exact unreachable_exact client answers error none noPools
  | ok version' =>
      cases resources : answers.resources with
      | error error =>
          have none : answers.fetched = [] := by rw [ClusterAnswers.fetched, version, resources]
          have noPools : answers.pools = 0 := by rw [ClusterAnswers.pools, version, resources]
          rw [clusterDashboard, version, resources]
          exact unreachable_exact client answers error none noPools
      | ok resources' =>
          cases storages : answers.storages with
          | error error =>
              have none : answers.fetched = [] := by rw [ClusterAnswers.fetched, version, resources, storages]
              have noPools : answers.pools = 0 := by rw [ClusterAnswers.pools, version, resources, storages]
              rw [clusterDashboard, version, resources, storages]
              exact unreachable_exact client answers error none noPools
          | ok storages' =>
              have all : answers.fetched = resources' := by rw [ClusterAnswers.fetched, version, resources, storages]
              have pools : answers.pools = storages'.length := by rw [ClusterAnswers.pools, version, resources, storages]
              rw [clusterDashboard, version, resources, storages, ← all]
              exact reachable_exact client answers fits version' storages' pools

end Counting

section Totals

variable {φ : Type} [Zero φ] [Add φ]

theorem collect_clusters (results : List (CollectedCluster φ)) (start : DashboardResponse φ) :
    (results.foldl DashboardResponse.collect start).clusters = start.clusters ++ results.map shownCluster := by
  induction results generalizing start with
  | nil => exact (List.append_nil _).symm
  | cons result results ih =>
      rw [List.foldl_cons, ih, List.map_cons, DashboardResponse.collect, shownCluster]
      cases result.2 with
      | ok cd => exact List.append_assoc _ _ _
      | error error => exact List.append_assoc _ _ _

theorem total_exact (ofTotals : DashboardTotals φ → Nat) (ofCluster : ClusterDashboard φ → Nat) (bound : Nat)
    (adds : ∀ totals cd, ofTotals totals + ofCluster cd < bound →
      ofTotals (DashboardTotals.add totals cd) = ofTotals totals + ofCluster cd)
    (start : ofTotals .zero = 0) (none : ∀ name error, ofCluster (unreachableCluster name error) = 0)
    (results : List (CollectedCluster φ))
    (fits : Tally.total ofCluster (dashboardResponse results).clusters < bound) :
    ofTotals (dashboardResponse results).totals = Tally.total ofCluster (dashboardResponse results).clusters := by
  have shown : (dashboardResponse results).clusters = results.map shownCluster := by
    rw [dashboardResponse, collect_clusters, List.nil_append]
  have sums : Tally.total ofCluster (results.map shownCluster) =
      Tally.total (fun result => ofCluster (shownCluster result)) results :=
    Tally.total_map ofCluster shownCluster results
  rw [shown, sums] at fits ⊢
  have exact := Tally.foldl_total DashboardResponse.collect (fun response => ofTotals response.totals)
    (fun result => ofCluster (shownCluster result)) bound
    (by
      intro response result under
      rw [DashboardResponse.collect]
      rw [shownCluster] at under ⊢
      cases outcome : result.2 with
      | ok cd =>
          rw [outcome] at under
          exact adds response.totals cd under
      | error error => rw [none, Nat.add_zero])
    { clusters := [], totals := .zero } results (by rw [start, Nat.zero_add]; exact fits)
  rw [dashboardResponse, exact, start, Nat.zero_add]

theorem total32_exact (ofTotals : DashboardTotals φ → UInt32) (ofCluster : ClusterDashboard φ → UInt32)
    (adds : ∀ totals cd, ofTotals (DashboardTotals.add totals cd) = ofTotals totals + ofCluster cd)
    (start : ofTotals .zero = 0) (none : ∀ name error, ofCluster (unreachableCluster name error) = 0)
    (results : List (CollectedCluster φ))
    (fits : Tally.total (fun cd => (ofCluster cd).toNat) (dashboardResponse results).clusters < 2 ^ 32) :
    (ofTotals (dashboardResponse results).totals).toNat =
      Tally.total (fun cd => (ofCluster cd).toNat) (dashboardResponse results).clusters := by
  apply total_exact (fun totals => (ofTotals totals).toNat) (fun cd => (ofCluster cd).toNat) (2 ^ 32)
  · intro totals cd under
    rw [adds totals cd, UInt32.toNat_add, Nat.mod_eq_of_lt under]
  · rw [start]
    rfl
  · intro name error
    rw [none name error]
    rfl
  · exact fits

end Totals

section Dashboard

variable {φ : Type} [Zero φ] [Add φ]

omit [Zero φ] [Add φ] in
theorem fits_of_sums (all : List (ClusterAnswers φ)) (sums : SumsFit all) (answers : ClusterAnswers φ)
    (member : answers ∈ all) : Fits answers := by
  have below (number : ClusterAnswers φ → Nat) (bound : Nat) (under : Tally.total number all < bound) :
      number answers < bound := Nat.lt_of_le_of_lt (Tally.weight_le_total number all answers member) under
  refine ⟨?_, ?_, ?_, ?_⟩
  · exact below (fun answers => answers.fetched.countP (isKind "qemu")) _ sums.vms
  · exact below (fun answers => answers.fetched.countP (isKind "lxc")) _ sums.lxcs
  · exact below ClusterAnswers.pools _ sums.pools
  · exact below (fun answers => Tally.total memoryOf answers.fetched) _ sums.memory

theorem dashboard_entries (asked : List (ProxmoxClient × ClusterAnswers φ)) (sums : SumsFit (asked.map Prod.snd)) :
    List.Forall₂ EntryExact asked (dashboardOf asked).clusters := by
  rw [dashboardOf, dashboardResponse, collect_clusters, List.nil_append, List.map_map, List.forall₂_map_right_iff,
    List.forall₂_same]
  intro one member
  exact shown_exact one.1 one.2 (fits_of_sums _ sums one.2 (List.mem_map_of_mem member))

omit [Zero φ] [Add φ] in
theorem entry_sums (ofCluster : ClusterDashboard φ → Nat) (number : ClusterAnswers φ → Nat)
    (asked : List (ProxmoxClient × ClusterAnswers φ)) (clusters : List (ClusterDashboard φ))
    (entries : List.Forall₂ EntryExact asked clusters)
    (exact : ∀ one cd, EntryExact one cd → ofCluster cd = number one.2) :
    Tally.total ofCluster clusters = Tally.total number (asked.map Prod.snd) := by
  apply Tally.total_congr
  rw [List.forall₂_map_right_iff]
  exact (entries.imp fun one cd entry => exact one cd entry).flip

omit [Zero φ] [Add φ] in
theorem status_sums (kind status : String) (all : List (ClusterAnswers φ)) (bound : Nat)
    (fits : Tally.total (fun answers => answers.fetched.countP (isKind kind)) all < bound) :
    Tally.total (fun answers => answers.fetched.countP (isKindStatus kind status)) all < bound :=
  Nat.lt_of_le_of_lt (Tally.total_le _ _ all fun answers _ => status_le_kind kind status answers.fetched) fits

theorem dashboard_totals (asked : List (ProxmoxClient × ClusterAnswers φ)) (sums : SumsFit (asked.map Prod.snd)) :
    TotalsExact (dashboardOf asked) := by
  have entries := dashboard_entries asked sums
  have fits (ofCluster : ClusterDashboard φ → UInt32) (number : ClusterAnswers φ → Nat)
      (exact : ∀ one cd, EntryExact one cd → (ofCluster cd).toNat = number one.2)
      (under : Tally.total number (asked.map Prod.snd) < 2 ^ 32) :
      Tally.total (fun cd => (ofCluster cd).toNat) (dashboardOf asked).clusters < 2 ^ 32 := by
    rw [entry_sums (fun cd => (ofCluster cd).toNat) number asked _ entries exact]
    exact under
  refine ⟨?_, ?_, ?_, ?_, ?_, ?_, ?_, ?_⟩
  · exact total32_exact _ _ (fun _ _ => rfl) rfl (fun _ _ => rfl) _
      (fits _ _ (fun _ _ entry => entry.vms_total) sums.vms)
  · exact total32_exact _ _ (fun _ _ => rfl) rfl (fun _ _ => rfl) _
      (fits _ _ (fun _ _ entry => entry.vms_running) (status_sums _ _ _ _ sums.vms))
  · exact total32_exact _ _ (fun _ _ => rfl) rfl (fun _ _ => rfl) _
      (fits _ _ (fun _ _ entry => entry.vms_stopped) (status_sums _ _ _ _ sums.vms))
  · exact total32_exact _ _ (fun _ _ => rfl) rfl (fun _ _ => rfl) _
      (fits _ _ (fun _ _ entry => entry.lxcs_total) sums.lxcs)
  · exact total32_exact _ _ (fun _ _ => rfl) rfl (fun _ _ => rfl) _
      (fits _ _ (fun _ _ entry => entry.lxcs_running) (status_sums _ _ _ _ sums.lxcs))
  · exact total32_exact _ _ (fun _ _ => rfl) rfl (fun _ _ => rfl) _
      (fits _ _ (fun _ _ entry => entry.lxcs_stopped) (status_sums _ _ _ _ sums.lxcs))
  · exact total32_exact _ _ (fun _ _ => rfl) rfl (fun _ _ => rfl) _
      (fits _ _ (fun _ _ entry => entry.storage_pools) sums.pools)
  · apply total_exact (fun totals => totals.allocatedMemory.toNat) (fun cd => cd.allocatedMemory.toNat) (2 ^ 64)
    · intro totals cd under
      rw [DashboardTotals.add, UInt64.toNat_add, Nat.mod_eq_of_lt under]
    · rfl
    · intro name error
      rfl
    · have memory := entry_sums (fun cd => cd.allocatedMemory.toNat)
        (fun answers => Tally.total memoryOf answers.fetched) asked _ entries fun _ _ entry => entry.allocated_memory
      rw [← dashboardOf, memory]
      exact sums.memory

-- The dashboard of a user: one entry for each client, in their order, and the totals over them.
structure DashboardExact (clients : List ProxmoxClient) (asked : List (ProxmoxClient × ClusterAnswers φ))
    (response : DashboardResponse φ) : Prop where
  one_each : response.clusters.map ClusterDashboard.name = clients.map ProxmoxClient.name
  entries : List.Forall₂ EntryExact asked response.clusters
  totals : TotalsExact response

theorem dashboard_exact {ρ : Type} (state : AppState ρ) (username : String)
    (asked : List (ProxmoxClient × ClusterAnswers φ)) (clients : asked.map Prod.fst = state.clientsForUser username)
    (sums : SumsFit (asked.map Prod.snd)) :
    DashboardExact (state.clientsForUser username) asked (dashboardOf asked) := by
  have entries := dashboard_entries asked sums
  refine ⟨?_, entries, dashboard_totals asked sums⟩
  rw [← clients, List.map_map]
  exact (Tally.maps_same _ _ _ _ (entries.imp fun one cd entry => entry.name.symm)).symm

end Dashboard

section Runs

variable {φ : Type} [Zero φ] [Add φ]

abbrev ClusterData (φ : Type) : Type := Version × List (VmResource φ) × List StorageResource

def ClusterAnswers.outcome (answers : ClusterAnswers φ) : Except AppError (ClusterData φ) := do
  let version ← answers.version
  let resources ← answers.resources
  let storages ← answers.storages
  .ok (version, resources, storages)

def entryOf (outcome : String × Except AppError (ClusterData φ)) : ClusterDashboard φ :=
  match outcome.2 with
  | .ok (version, resources, storages) => reachableCluster outcome.1 version resources storages
  | .error error => unreachableCluster outcome.1 error

-- It does not show which of the three calls has failed.
theorem shown_outcome (name : String) (answers : ClusterAnswers φ) :
    shownCluster (name, clusterDashboard name answers) = entryOf (name, answers.outcome) := by
  rw [clusterDashboard, ClusterAnswers.outcome]
  cases answers.version with
  | error error => rfl
  | ok version =>
      cases answers.resources with
      | error error => rfl
      | ok resources =>
          cases answers.storages with
          | error error => rfl
          | ok storages => rfl

variable (decode : Json × Json × Json → ClusterData φ)

def decoded (outcome : String × Except AppError (Json × Json × Json)) : String × Except AppError (ClusterData φ) :=
  (outcome.1, outcome.2.map decode)

omit [Zero φ] [Add φ] in
theorem outcome_answered (data : Except AppError (ClusterData φ)) : ∃ answers : ClusterAnswers φ, answers.outcome = data := by
  cases data with
  | ok data => exact ⟨⟨.ok data.1, .ok data.2.1, .ok data.2.2⟩, rfl⟩
  | error error => exact ⟨⟨.error error, .ok [], .ok []⟩, rfl⟩

-- Whatever the clusters say, there is one entry for each client, that of some answers of its own.
theorem dashboards_shown (oracle : Oracle) (past : List (Dialogue.Exchange Upstream Answer))
    (clients : List ProxmoxClient) :
    ∃ asked : List (ProxmoxClient × ClusterAnswers φ), asked.map Prod.fst = clients ∧
      (Dialogue.run oracle past (collectDashboards clients)).2.map (fun outcome => entryOf (decoded decode outcome)) =
        (dashboardOf asked).clusters := by
  induction clients generalizing past with
  | nil => exact ⟨[], rfl, rfl⟩
  | cons client clients ih =>
      rw [collectDashboards]
      simp only [Dialogue.run_bind, Dialogue.run_done, List.map_cons]
      obtain ⟨asked, same, entries⟩ := ih (Dialogue.run oracle past (collectClusterDashboard client)).1
      obtain ⟨answers, outcome⟩ := outcome_answered
        ((Dialogue.run oracle past (collectClusterDashboard client)).2.map decode)
      refine ⟨(client, answers) :: asked, by rw [List.map_cons, same], ?_⟩
      rw [dashboardOf, dashboardResponse, collect_clusters, List.nil_append] at entries
      rw [entries, dashboardOf, dashboardResponse, collect_clusters, List.nil_append, List.map_cons, List.map_cons,
        shown_outcome, outcome]
      rfl

end Runs

structure Cpus where
  count : Nat

instance : Zero Cpus := ⟨⟨0⟩⟩

instance : Add Cpus := ⟨fun first second => ⟨first.count + second.count⟩⟩

def prodAnswers : ClusterAnswers Cpus :=
  { version := .ok ⟨"8.2.4", "8.2"⟩
    resources := .ok [⟨"qemu", "running", some ⟨4⟩, some 4096⟩, ⟨"qemu", "paused", none, some 2048⟩,
      ⟨"lxc", "stopped", some ⟨1⟩, none⟩, ⟨"node", "online", some ⟨16⟩, some 65536⟩]
    storages := .ok [⟨"local"⟩] }

def labAnswers : ClusterAnswers Cpus :=
  { version := .ok ⟨"8.2.4", "8.2"⟩, resources := .ok [], storages := .error (.notFound "storage") }

def twoAsked : List (ProxmoxClient × ClusterAnswers Cpus) :=
  [(⟨"prod", "https://prod.local:8006"⟩, prodAnswers), (⟨"lab", "https://lab.local:8006"⟩, labAnswers)]

theorem two_asked_exact : DashboardExact (twoClusters.clientsForUser "root") twoAsked (dashboardOf twoAsked) :=
  dashboard_exact twoClusters "root" twoAsked rfl ⟨by decide, by decide, by decide, by decide⟩

end Moxui.Api
