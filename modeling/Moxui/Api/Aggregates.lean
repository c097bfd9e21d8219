import Moxui.Api.ReadIsolation

set_option autoImplicit false

namespace Moxui.Api

open Moxui.Proxmox (ProxmoxCall)

section Aggregates

-- Where an aggregate endpoint puts what the clusters answer: into rows, each tagged with its
-- cluster, or into an object with a field for each cluster.
inductive Layout where
  | rows (key : String) (view : String → Json → List Json)
  | fields (key : String)

def layoutOf : Handler → Option Layout
  | .listVms => some (.rows "vms" fun cluster data => (items data).map (tagged vmColumns cluster))
  | .listLxcs => some (.rows "lxcs" fun cluster data =>
      ((items data).filter (jsonIs "type" "lxc")).map (tagged lxcColumns cluster))
  | .listStorages => some (.rows "storages" fun cluster data => (items data).map (taggedNode storageColumns cluster))
  | .listNetworks => some (.rows "networks" fun cluster data => (items data).map (taggedNode networkColumns cluster))
  | .listReplicationJobs => some (.rows "replication_jobs" fun cluster data =>
      (items data).map fun item => present (tagged replicationColumns cluster item))
  | .listHaGroups => some (.rows "groups" fun cluster data =>
      (items data).map fun item => present (tagged haGroupColumns cluster item))
  | .clusterStatus => some (.rows "clusters" fun cluster data => [.obj [("cluster", .str cluster), ("data", data)]])
  | .haStatus | .cephStatus | .cephPools | .sdnZones | .sdnVnets | .firewallRules => some (.fields "data")
  | _ => none

structure RowsComplete (view : String → Json → List Json) (results : Results) (rows : List Json) : Prop where
  ofEach : ∀ result ∈ results, rows.filter (jsonIs "cluster" result.1) = match result.2 with
    | .ok data => view result.1 data
    | .error _ => []
  ofAny : ∀ row ∈ rows, ∃ result ∈ results, jsonIs "cluster" result.1 row = true

structure FieldsComplete (pick : Except AppError Json → Option Json) (results : Results) (fields : List (String × Json)) :
    Prop where
  distinct : (fields.map Prod.fst).Nodup
  exact : ∀ name value, (name, value) ∈ fields ↔ ∃ result ∈ results, result.1 = name ∧ pick result.2 = some value

def ItemsComplete (results : Results) (body : Json) : Layout → Prop
  | .rows key view => ∃ rows, body.get key = some (.arr rows) ∧ RowsComplete view results rows
  | .fields key => ∃ fields, body.get key = some (.obj fields) ∧ FieldsComplete Except.toOption results fields

def ErrorsComplete (results : Results) (body : Json) : Prop :=
  ∃ errors, body.get "errors" = some (.obj errors) ∧ FieldsComplete errorText results errors

def NothingVanishes (layout : Layout) (results : Results) (response : Response) : Prop :=
  ∃ body, response = jsonResponse 200 body ∧ ItemsComplete results body layout ∧ ErrorsComplete results body

theorem flat_map_only {α β κ : Type} (key : α → κ) (rows : α → List β) (list : List α) (distinct : (list.map key).Nodup)
    (here : α) (member : here ∈ list) (elsewhere : ∀ other ∈ list, key other ≠ key here → rows other = []) :
    list.flatMap rows = rows here := by
  induction list with
  | nil => cases member
  | cons first rest ih =>
      rw [List.map_cons, List.nodup_cons] at distinct
      rw [List.flatMap_cons]
      by_cases same : key first = key here
      · have isFirst : here = first := by
          rcases List.mem_cons.mp member with isFirst | later
          · exact isFirst
          · exact absurd (List.mem_map.mpr ⟨here, later, same.symm⟩) distinct.1
        subst isFirst
        have others : rest.flatMap rows = [] := by
          rw [List.flatMap_eq_nil_iff]
          intro other later
          refine elsewhere other (List.mem_cons_of_mem _ later) ?_
          intro clash
          exact distinct.1 (List.mem_map.mpr ⟨other, later, clash⟩)
        rw [others, List.append_nil]
      · have later : here ∈ rest := (List.mem_cons.mp member).resolve_left fun isFirst => same (congrArg key isFirst.symm)
        rw [elsewhere first List.mem_cons_self same, List.nil_append]
        exact ih distinct.2 later fun other isOther => elsewhere other (List.mem_cons_of_mem _ isOther)

def Tags (view : String → Json → List Json) : Prop :=
  ∀ cluster data, ∀ row ∈ view cluster data, (row.get "cluster").bind Json.asStr = some cluster

theorem rows_complete (view : String → Json → List Json) (tags : Tags view) (results : Results)
    (distinct : (results.map Prod.fst).Nodup) : RowsComplete view results (rowsOf view results) := by
  constructor
  · intro result member
    rw [rowsOf, List.filter_flatMap, flat_map_only Prod.fst _ results distinct result member ?_]
    · cases answer : result.2 with
      | error refused => rfl
      | ok data =>
          rw [List.filter_eq_self]
          intro row shown
          rw [jsonIs, tags result.1 data row shown]
          exact beq_self_eq_true _
    · intro other _ different
      cases answer : other.2 with
      | error refused => rfl
      | ok data =>
          rw [List.filter_eq_nil_iff]
          intro row shown isTagged
          rw [jsonIs, tags other.1 data row shown, beq_iff_eq, Option.some.injEq] at isTagged
          exact different isTagged
  · intro row shown
    obtain ⟨result, member, shown⟩ := List.mem_flatMap.mp shown
    refine ⟨result, member, ?_⟩
    cases answer : result.2 with
    | error refused =>
        rw [answer] at shown
        cases shown
    | ok data =>
        rw [answer] at shown
        rw [jsonIs, tags result.1 data row shown]
        exact beq_self_eq_true _

theorem gather_distinct (pick : Except AppError Json → Option Json) (results : Results)
    (distinct : (results.map Prod.fst).Nodup) :
    gather pick results = results.filterMap fun result => (pick result.2).map (Prod.mk result.1) := by
  induction results using List.reverseRecOn with
  | nil => rfl
  | append_singleton earlier result ih =>
      rw [List.map_append, List.nodup_append] at distinct
      have before := ih distinct.1
      rw [List.filterMap_append, ← before, gather_snoc, List.filterMap_cons, List.filterMap_nil]
      cases picked : pick result.2 with
      | none => exact (List.append_nil _).symm
      | some value =>
          have kept : ∀ field ∈ gather pick earlier, field.1 ≠ result.1 := by
            intro field member same
            obtain ⟨other, isOther, named, _⟩ := (gather_keys pick earlier result.1).mp
              (List.mem_map.mpr ⟨field, member, same⟩)
            exact distinct.2.2 other.1 (List.mem_map_of_mem isOther) result.1 (by simp) named
          dsimp only [insertField, Option.map_some]
          rw [List.filter_eq_self.mpr fun field member => decide_eq_true (kept field member)]

theorem fields_complete (pick : Except AppError Json → Option Json) (results : Results)
    (distinct : (results.map Prod.fst).Nodup) : FieldsComplete pick results (gather pick results) := by
  rw [gather_distinct pick results distinct]
  constructor
  · have keys : (results.filterMap fun result => (pick result.2).map (Prod.mk result.1)).map Prod.fst =
        (results.filter fun result => (pick result.2).isSome).map Prod.fst := by
      induction results with
      | nil => rfl
      | cons result rest ih =>
          have later := ih (List.nodup_cons.mp distinct).2
          cases picked : pick result.2 with
          | none => simpa [picked] using later
          | some value => simpa [picked] using later
    rw [keys]
    exact distinct.sublist (List.filter_sublist.map Prod.fst)
  · intro name value
    rw [List.mem_filterMap]
    constructor
    · rintro ⟨result, member, picked⟩
      obtain ⟨found, isFound, same⟩ := Option.map_eq_some_iff.mp picked
      cases same
      exact ⟨result, member, rfl, isFound⟩
    · rintro ⟨result, member, rfl, picked⟩
      exact ⟨result, member, by rw [picked, Option.map_some]⟩

theorem errors_complete (results : Results) (distinct : (results.map Prod.fst).Nodup) (body : Json)
    (shown : body.get "errors" = some (errorsOf results)) : ErrorsComplete results body :=
  ⟨gather errorText results, by rw [shown, errors_gathered], fields_complete errorText results distinct⟩

theorem no_errors_iff (results : Results) (body : Json) (shown : body.get "errors" = some (.obj [])) :
    ErrorsComplete results body ↔ ∀ result ∈ results, ∃ data, result.2 = .ok data := by
  constructor
  · rintro ⟨errors, isErrors, complete⟩ result member
    rw [shown, Option.some.injEq, Json.obj.injEq] at isErrors
    cases answer : result.2 with
    | ok data => exact ⟨data, rfl⟩
    | error refused =>
        have listed := (complete.exact result.1 (.str refused.display)).mpr ⟨result, member, rfl, by rw [answer]; rfl⟩
        rw [← isErrors] at listed
        cases listed
  · intro answered
    refine ⟨[], shown, List.nodup_nil, ?_⟩
    intro name value
    constructor
    · intro listed
      cases listed
    · rintro ⟨result, member, _, isError⟩
      obtain ⟨data, answer⟩ := answered result member
      rw [answer] at isError
      cases isError

theorem tagged_tags (columns : List (String × String)) (choose : Json → List Json) :
    Tags fun cluster data => (choose data).map (tagged columns cluster) := by
  intro cluster data row shown
  obtain ⟨item, _, rfl⟩ := List.mem_map.mp shown
  simp [tagged, rowOf, Json.get, Json.asStr]

theorem tagged_node_tags (columns : List (String × String)) :
    Tags fun cluster data => (items data).map (taggedNode columns cluster) := by
  intro cluster data row shown
  obtain ⟨item, _, rfl⟩ := List.mem_map.mp shown
  simp [taggedNode, rowOf, Json.get, Json.asStr]

theorem present_tags (columns : List (String × String)) :
    Tags fun cluster data => (items data).map fun item => present (tagged columns cluster item) := by
  intro cluster data row shown
  obtain ⟨item, _, rfl⟩ := List.mem_map.mp shown
  simp [present, tagged, rowOf, Json.get, Json.asStr]

theorem cluster_data_rows (results : Results) (distinct : (results.map Prod.fst).Nodup) :
    clusterData results =
      .arr (rowsOf (fun cluster data => [.obj [("cluster", .str cluster), ("data", data)]]) results) := by
  rw [clusterData, values_gathered, gather_distinct Except.toOption results distinct, Json.arr.injEq, rowsOf,
    List.map_filterMap]
  induction results with
  | nil => rfl
  | cons result rest ih =>
      have later := ih (List.nodup_cons.mp distinct).2
      rw [List.filterMap_cons, List.flatMap_cons, ← later]
      cases result.2 <;> rfl

theorem table_complete (key : String) (notErrors : key ≠ "errors") (view : String → Json → List Json) (tags : Tags view)
    (results : Results) (distinct : (results.map Prod.fst).Nodup) :
    NothingVanishes (.rows key view) results (jsonResponse 200 (table key view results)) := by
  refine ⟨_, rfl, ⟨rowsOf view results, ?_, rows_complete view tags results distinct⟩,
    errors_complete results distinct _ ?_⟩
  · simp [table, Json.get]
  · simp [table, Json.get, List.lookup_cons, beq_eq_false_iff_ne.mpr notErrors.symm]

theorem data_complete (results : Results) (distinct : (results.map Prod.fst).Nodup) :
    NothingVanishes (.fields "data") results (jsonResponse 200 (dataAndErrors results)) := by
  refine ⟨_, rfl, ⟨gather Except.toOption results, ?_, fields_complete _ results distinct⟩,
    errors_complete results distinct _ rfl⟩
  rw [← values_gathered]
  rfl

variable {ρ : Type} (libs : ApiLibs) (inner : Inner ρ) (entry : Entry) (state : AppState ρ)

theorem aggregate_run (outcome : String → Except AppError Json) (call : ProxmoxCall) (body : Results → Json) :
    (Dialogue.run (answering outcome) [] (aggregate state call body)).2 =
      (state, jsonResponse 200 (body (outcomes outcome state.clients))) := by
  rw [aggregate, respondWith, Dialogue.run_bind, collect_answering]
  rfl

theorem list_vms_unsearched (unsearched : libs.vmsQuery entry.request = .ok none) :
    listVms state libs entry = aggregate state .listResources
      (table "vms" fun cluster data => (items data).map (tagged vmColumns cluster)) := by
  unfold listVms
  rw [unsearched]
  rfl

theorem complete_handled (outcome : String → Except AppError Json) (layout : Layout) (call : ProxmoxCall)
    (body : Results → Json) (viewed : viewHandler libs inner entry state entry.handler = some (aggregate state call body))
    (complete : NothingVanishes layout (outcomes outcome state.clients)
      (jsonResponse 200 (body (outcomes outcome state.clients)))) :
    NothingVanishes layout (outcomes outcome state.clients)
      (Dialogue.run (answering outcome) [] (handle libs inner entry state)).2.2 := by
  rw [view_handled libs inner entry state _ viewed, aggregate_run]
  exact complete

theorem others_complete (layout : Layout) (reports : layoutOf entry.handler = some layout)
    (other : entry.handler ≠ .clusterStatus)
    (unsearched : entry.handler = .listVms → libs.vmsQuery entry.request = .ok none)
    (outcome : String → Except AppError Json) (names : ((outcomes outcome state.clients).map Prod.fst).Nodup) :
    NothingVanishes layout (outcomes outcome state.clients)
      (Dialogue.run (answering outcome) [] (handle libs inner entry state)).2.2 := by
  have rows (key : String) (notErrors : key ≠ "errors") (call : ProxmoxCall) (view : String → Json → List Json)
      (tags : Tags view)
      (viewed : viewHandler libs inner entry state entry.handler = some (aggregate state call (table key view))) :=
    complete_handled libs inner entry state outcome (.rows key view) call (table key view) viewed
      (table_complete key notErrors view tags _ names)
  have fields (call : ProxmoxCall)
      (viewed : viewHandler libs inner entry state entry.handler = some (aggregate state call dataAndErrors)) :=
    complete_handled libs inner entry state outcome (.fields "data") call dataAndErrors viewed (data_complete _ names)
  cases named : entry.handler <;> rw [named] at reports <;> cases reports
  case listVms =>
    refine rows "vms" (by decide) .listResources _ (tagged_tags vmColumns items) ?_
    rw [named, ← list_vms_unsearched libs entry state (unsearched named)]
    rfl
  case listLxcs =>
    refine rows "lxcs" (by decide) .listResources _ (tagged_tags lxcColumns _) ?_
    rw [named]
    rfl
  case listStorages =>
    refine rows "storages" (by decide) .listAllStorages _ (tagged_node_tags storageColumns) ?_
    rw [named]
    rfl
  case listNetworks =>
    refine rows "networks" (by decide) .listAllNetworks _ (tagged_node_tags networkColumns) ?_
    rw [named]
    rfl
  case listReplicationJobs =>
    refine rows "replication_jobs" (by decide) .listReplicationJobs _ (present_tags replicationColumns) ?_
    rw [named]
    rfl
  case listHaGroups =>
    refine rows "groups" (by decide) .listHaGroups _ (present_tags haGroupColumns) ?_
    rw [named]
    rfl
  case clusterStatus => exact absurd named other
  case haStatus => exact fields .haStatus (by rw [named]; rfl)
  case cephStatus => exact fields .cephStatus (by rw [named]; rfl)
  case cephPools => exact fields .cephPools (by rw [named]; rfl)
  case sdnZones => exact fields .sdnZones (by rw [named]; rfl)
  case sdnVnets => exact fields .sdnVnets (by rw [named]; rfl)
  case firewallRules => exact fields .firewallRules (by rw [named]; rfl)

-- `cluster_status` lets go of the errors of the clusters that failed.
theorem nothing_vanishes_iff (layout : Layout) (reports : layoutOf entry.handler = some layout)
    (unsearched : entry.handler = .listVms → libs.vmsQuery entry.request = .ok none)
    (distinct : (state.clients.map ProxmoxClient.name).Nodup) (outcome : String → Except AppError Json) :
    NothingVanishes layout (outcomes outcome state.clients)
        (Dialogue.run (answering outcome) [] (handle libs inner entry state)).2.2 ↔
      entry.handler ≠ .clusterStatus ∨ ∀ client ∈ state.clients, ∃ data, outcome client.name = .ok data := by
  have names : ((outcomes outcome state.clients).map Prod.fst).Nodup := by
    rw [outcomes, List.map_map]
    exact distinct
  by_cases status : entry.handler = .clusterStatus
  · have isLayout : layout =
        .rows "clusters" fun cluster data => [.obj [("cluster", .str cluster), ("data", data)]] := by
      rw [status] at reports
      exact (Option.some.inj reports).symm
    have allAnswered : (∀ result ∈ outcomes outcome state.clients, ∃ data, result.2 = .ok data) ↔
        ∀ client ∈ state.clients, ∃ data, outcome client.name = .ok data := by
      simp only [outcomes, List.forall_mem_map]
    have viewed : viewHandler libs inner entry state entry.handler = some (clusterStatus state) := by
      rw [status]
      rfl
    rw [view_handled libs inner entry state _ viewed, clusterStatus, aggregate_run, ← allAnswered, isLayout]
    constructor
    · rintro ⟨body, same, _, errors⟩
      cases same
      exact Or.inr ((no_errors_iff _ _ rfl).mp errors)
    · intro answered
      refine ⟨_, rfl, ⟨_, ?_, rows_complete _ ?_ _ names⟩,
        (no_errors_iff _ _ rfl).mpr (answered.resolve_left fun other => other status)⟩
      · rw [← cluster_data_rows _ names]
        rfl
      · intro cluster data row shown
        rw [List.mem_singleton.mp shown]
        rfl
  · exact iff_of_true (others_complete libs inner entry state layout reports status unsearched outcome names)
      (Or.inl status)

end Aggregates

-- One of the two clusters is down, and `cluster_status` does not say so.
def labDown (name : String) : Except AppError Json :=
  if name = "lab" then refusing503 else nothingListed

def statusEntry (handler : Handler) : Entry :=
  ⟨handler, [], deleteProdGroup.withClaims aliceClaims⟩

theorem ceph_status_shows_lab_down :
    NothingVanishes (.fields "data") (outcomes labDown twoClusters.clients)
        (Dialogue.run (answering labDown) [] (handle bareLibs bareInner (statusEntry .cephStatus) twoClusters)).2.2 ↔
      Handler.cephStatus ≠ .clusterStatus ∨ ∀ client ∈ twoClusters.clients, ∃ data, labDown client.name = .ok data :=
  nothing_vanishes_iff bareLibs bareInner (statusEntry .cephStatus) twoClusters (.fields "data") rfl (fun _ => rfl)
    (by decide) labDown

theorem cluster_status_hides_lab_down :
    ¬ NothingVanishes (.rows "clusters" fun cluster data => [.obj [("cluster", .str cluster), ("data", data)]])
      (outcomes labDown twoClusters.clients)
      (Dialogue.run (answering labDown) [] (handle bareLibs bareInner (statusEntry .clusterStatus) twoClusters)).2.2 := by
  rintro ⟨body, same, _, errors⟩
  cases same
  obtain ⟨data, answered⟩ := (no_errors_iff _ _ rfl).mp errors ("lab", refusing503)
    (List.mem_map.mpr ⟨⟨"lab", "https://lab.local:8006"⟩, by decide, rfl⟩)
  cases answered

end Moxui.Api
