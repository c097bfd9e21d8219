import Moxui.Api.TypedClient
import Moxui.Lib.UrlSpelling
import Moxui.Proxmox.PathIntegrity

set_option autoImplicit false

namespace Moxui.Api

open Moxui.Proxmox (ProxmoxCall Params ClusterUrl Verb buildUrl expectedPath)
open Moxui.Proxmox.ProxmoxCall (flag)

def paramBytes (params : Params) : List (Percent.Bytes × Percent.Bytes) :=
  params.map fun param => (Text.bytes param.1, Text.bytes param.2)

structure WireRequest where
  verb : Verb
  scheme : Percent.Bytes
  authority : Percent.Bytes
  path : List Percent.Bytes
  pairs : List (Percent.Bytes × Percent.Bytes)
  body : RequestBody

-- What goes out: the URL is parsed, the parameters join its query, and its fragment is left out.
def UpstreamRequest.onWire (cluster : ClusterUrl) (request : UpstreamRequest) : Option WireRequest :=
  (Url.parse (Text.bytes (buildUrl cluster.text request.path))).map fun url =>
    { verb := request.verb, scheme := url.scheme, authority := url.authority, path := url.path
      pairs := url.pairs ++ paramBytes request.params, body := request.body }

inductive Operation where
  | createHaGroup (group : String) (nodes comment : Option String) (nofailback restricted : Bool)
  | updateHaGroup (group : String) (nodes comment : Option String) (nofailback restricted : Bool)
  | deleteHaGroup (group : String)
  | createReplicationJob (job : CreateReplicationJob)
  | updateReplicationJob (id : UInt64) (job : UpdateReplicationJob)
  | deleteReplicationJob (id : UInt64)
  | deleteStorageContent (node storage volid : String)
  | networkConfigUpdate (node : String) (body : Json)
  | networkConfigApply (node : String)

inductive OperationKind where
  | haGroupUpsert
  | haGroupDelete
  | replicationCreate
  | replicationUpdate
  | replicationDelete
  | storageContentDelete
  | networkUpdate
  | networkApply
deriving DecidableEq, Repr

namespace Operation

def kind : Operation → OperationKind
  | createHaGroup _ _ _ _ _ => .haGroupUpsert
  | updateHaGroup _ _ _ _ _ => .haGroupUpsert
  | deleteHaGroup _ => .haGroupDelete
  | createReplicationJob _ => .replicationCreate
  | updateReplicationJob _ _ => .replicationUpdate
  | deleteReplicationJob _ => .replicationDelete
  | deleteStorageContent _ _ _ => .storageContentDelete
  | networkConfigUpdate _ _ => .networkUpdate
  | networkConfigApply _ => .networkApply

def request (libs : ApiLibs) : Operation → UpstreamRequest
  | createHaGroup group nodes comment nofailback restricted =>
      upstreamRequest (.createHaGroup group nodes comment nofailback restricted)
  | updateHaGroup group nodes comment nofailback restricted =>
      TypedClient.updateHaGroup group nodes comment nofailback restricted
  | deleteHaGroup group => upstreamRequest (.deleteHaGroup group)
  | createReplicationJob job => upstreamRequest (.createReplicationJob (createReplicationParams job))
  | updateReplicationJob id job => TypedClient.updateReplicationJob id job
  | deleteReplicationJob id => upstreamRequest (.deleteReplicationJob id)
  | deleteStorageContent node storage volid => upstreamRequest (.deleteStorageContent node storage volid)
  | networkConfigUpdate node body => upstreamRequest (.networkConfigUpdate node (flattenParams libs body))
  | networkConfigApply node => upstreamRequest (.networkConfigApply node)

def NoFields (body : Json) : Prop :=
  ∀ fields, body = .obj fields → fields = []

def pathCall : Operation → ProxmoxCall
  | createHaGroup group nodes comment nofailback restricted =>
      .createHaGroup group nodes comment nofailback restricted
  | updateHaGroup group nodes comment nofailback restricted =>
      .createHaGroup group nodes comment nofailback restricted
  | deleteHaGroup group => .deleteHaGroup group
  | createReplicationJob job => .createReplicationJob (createReplicationParams job)
  | updateReplicationJob id _ => .deleteReplicationJob id
  | deleteReplicationJob id => .deleteReplicationJob id
  | deleteStorageContent node storage volid => .deleteStorageContent node storage volid
  | networkConfigUpdate node _ => .networkConfigApply node
  | networkConfigApply node => .networkConfigApply node

-- The strings of the operation have no dot segments, no question mark, hash, tab or line break,
-- and where one ends the URL no space or control follows.
structure Steady (operation : Operation) : Prop where
  segments : ∀ text, .supplied text ∈ operation.pathCall.endpoint → Url.Steady (Text.bytes text)
  last : ∀ text, operation.pathCall.endpoint.getLast? = some (.supplied text) → Url.trimmed (Text.bytes text)

def pathBytes (text : String) : Percent.Bytes :=
  Url.spelling (Text.bytes text)

-- The node, as it stands in its path, takes in the path of the volume up to its last word, and
-- that word is `network`.
def SpellsVolume (node storage volid other : String) : Prop :=
  (pathBytes volid = pathBytes "network" ∧ pathBytes other = pathBytes (node ++ "/storage/" ++ storage ++ "/content")) ∨
    ∃ rest, pathBytes volid = rest ++ pathBytes "/network" ∧
      pathBytes other = pathBytes (node ++ "/storage/" ++ storage ++ "/content/") ++ rest

-- An operation that has nothing to say besides its path, and another with the same path.
def Passes : Operation → Operation → Prop
  | updateReplicationJob id job, deleteReplicationJob other => id = other ∧ job = ⟨none, none, none, none⟩
  | networkConfigUpdate node body, networkConfigApply other => pathBytes node = pathBytes other ∧ NoFields body
  | deleteStorageContent node storage volid, networkConfigApply other => SpellsVolume node storage volid other
  | deleteStorageContent node storage volid, networkConfigUpdate other body =>
      SpellsVolume node storage volid other ∧ NoFields body
  | _, _ => False

theorem update_ha_group_creates (libs : ApiLibs) (group : String) (nodes comment : Option String)
    (nofailback restricted : Bool) :
    (updateHaGroup group nodes comment nofailback restricted).request libs =
      (createHaGroup group nodes comment nofailback restricted).request libs := by
  cases nodes <;> cases comment <;> rfl

theorem flatten_nil_iff (libs : ApiLibs) (body : Json) : flattenParams libs body = [] ↔ NoFields body := by
  cases body with
  | obj fields =>
      simp only [flattenParams, List.map_eq_nil_iff, NoFields, Json.obj.injEq]
      exact ⟨fun none _ same => same ▸ none, fun none => none fields rfl⟩
  | _ => exact iff_of_true rfl fun fields same => by cases same

theorem update_params_nil_iff (id : UInt64) (job : UpdateReplicationJob) :
    (TypedClient.updateReplicationJob id job).params = [] ↔ job = ⟨none, none, none, none⟩ := by
  rcases job with ⟨enable, rate, schedule, comment⟩
  change given "enable" enable flag ++ given "rate" rate toString ++ givenText "schedule" schedule ++
    givenText "comment" comment = [] ↔ _
  simp only [List.append_eq_nil_iff, UpdateReplicationJob.mk.injEq]
  cases enable <;> cases rate <;> cases schedule <;> cases comment <;> simp [given, givenText]

def stem : OperationKind → String
  | .haGroupUpsert | .haGroupDelete => "cluster/ha/groups/"
  | .replicationCreate | .replicationUpdate | .replicationDelete => "cluster/replication"
  | .storageContentDelete | .networkUpdate | .networkApply => "nodes/"

theorem volume_request (libs : ApiLibs) (node storage volid : String) :
    (deleteStorageContent node storage volid).request libs =
      ⟨.post, "nodes/" ++ node ++ "/storage/" ++ storage ++ "/content/" ++ volid, [], .empty⟩ := rfl

theorem update_request (libs : ApiLibs) (node : String) (body : Json) :
    (networkConfigUpdate node body).request libs =
      ⟨.post, "nodes/" ++ node ++ "/network", flattenParams libs body, .empty⟩ := rfl

theorem apply_request (libs : ApiLibs) (node : String) :
    (networkConfigApply node).request libs = ⟨.post, "nodes/" ++ node ++ "/network", [], .empty⟩ := rfl

theorem job_request (libs : ApiLibs) (id : UInt64) (job : UpdateReplicationJob) :
    (updateReplicationJob id job).request libs =
      ⟨.post, "cluster/replication/" ++ toString id, (TypedClient.updateReplicationJob id job).params, .empty⟩ := rfl

theorem delete_job_request (libs : ApiLibs) (id : UInt64) :
    (deleteReplicationJob id).request libs = ⟨.post, "cluster/replication/" ++ toString id, [], .empty⟩ := rfl

theorem path_bytes_append (first second : String) : pathBytes (first ++ second) = pathBytes first ++ pathBytes second := by
  rw [pathBytes, Text.bytes_append, Url.spelling_append]
  rfl

theorem path_bytes_cancel (start first second : String) :
    pathBytes (start ++ first) = pathBytes (start ++ second) ↔ pathBytes first = pathBytes second := by
  rw [path_bytes_append, path_bytes_append, List.append_cancel_left_eq]

theorem spells_volume_iff (node storage volid other : String) :
    pathBytes ("nodes/" ++ node ++ "/storage/" ++ storage ++ "/content/" ++ volid) =
        pathBytes ("nodes/" ++ other ++ "/network") ↔
      SpellsVolume node storage volid other := by
  have content : pathBytes "/content/" = pathBytes "/content" ++ [47] := by decide
  have separated : pathBytes "/network" = 47 :: pathBytes "network" := by decide
  have volume : pathBytes ("nodes/" ++ node ++ "/storage/" ++ storage ++ "/content/" ++ volid) =
      pathBytes ("nodes/" ++ (node ++ "/storage/" ++ storage ++ "/content")) ++ 47 :: pathBytes volid := by
    simp only [path_bytes_append, content, List.append_assoc, List.singleton_append]
  have network : pathBytes ("nodes/" ++ other ++ "/network") = pathBytes ("nodes/" ++ other) ++ 47 :: pathBytes "network" := by
    rw [path_bytes_append, separated]
  have unmoved (moved : Percent.Bytes) : pathBytes "network" ≠ moved ++ 47 :: pathBytes volid := by
    intro same
    have separator : 47 ∈ pathBytes "network" := by
      rw [same]
      simp
    exact absurd separator (by decide)
  rw [volume, network, Text.shifted_separator, path_bytes_cancel]
  simp only [unmoved, and_false, exists_false, or_false]
  refine or_congr ⟨fun same => ⟨same.2, same.1.symm⟩, fun same => ⟨same.2.symm, same.1⟩⟩ (exists_congr fun rest => ?_)
  rw [separated, and_comm]
  refine and_congr_right fun _ => ?_
  simp only [path_bytes_append, content, List.append_assoc, List.singleton_append, List.append_cancel_left_eq]

theorem id_bytes (id : UInt64) : pathBytes (toString id) = Text.bytes (toString id) :=
  Url.spelling_digits _ (Text.decimal_bytes id.toNat)

theorem job_ids (first second : UInt64) (same : pathBytes (toString first) = pathBytes (toString second)) :
    first = second := by
  rw [id_bytes, id_bytes] at same
  exact UInt64.toNat_inj.mp (Text.decimal_injective first.toNat second.toNat (Text.bytes_injective _ _ same))

theorem stem_path (libs : ApiLibs) (operation : Operation) :
    ∃ rest, (operation.request libs).path = stem operation.kind ++ rest := by
  cases operation with
  | createHaGroup group nodes comment nofailback restricted => exact ⟨group, rfl⟩
  | updateHaGroup group nodes comment nofailback restricted => exact ⟨group, rfl⟩
  | deleteHaGroup group => exact ⟨group, rfl⟩
  | createReplicationJob job => exact ⟨"", rfl⟩
  | updateReplicationJob id job => exact ⟨"/" ++ toString id, by rw [← String.append_assoc]; rfl⟩
  | deleteReplicationJob id => exact ⟨"/" ++ toString id, by rw [← String.append_assoc]; rfl⟩
  | deleteStorageContent node storage volid =>
      exact ⟨node ++ "/storage/" ++ storage ++ "/content/" ++ volid, by simp only [← String.append_assoc]; rfl⟩
  | networkConfigUpdate node body => exact ⟨node ++ "/network", by rw [← String.append_assoc]; rfl⟩
  | networkConfigApply node => exact ⟨node ++ "/network", by rw [← String.append_assoc]; rfl⟩

theorem stems_equal (libs : ApiLibs) (first second : Operation)
    (same : pathBytes (first.request libs).path = pathBytes (second.request libs).path) :
    stem first.kind = stem second.kind := by
  have begins (operation : Operation) : pathBytes (stem operation.kind) <+: pathBytes (operation.request libs).path := by
    obtain ⟨rest, isPath⟩ := stem_path libs operation
    rw [isPath, path_bytes_append]
    exact List.prefix_append _ _
  have apart : ∀ one two : OperationKind, pathBytes (stem one) <+: pathBytes (stem two) → stem one = stem two := by
    intro one two
    cases one <;> cases two <;> decide
  rcases List.prefix_or_prefix_of_prefix (begins first) (same ▸ begins second) with shorter | longer
  · exact apart _ _ shorter
  · exact (apart _ _ longer).symm

def rank (operation : Operation) : Nat :=
  match operation.kind with
  | .haGroupUpsert => 0
  | .haGroupDelete => 1
  | .replicationCreate => 2
  | .replicationUpdate => 3
  | .replicationDelete => 4
  | .storageContentDelete => 5
  | .networkUpdate => 6
  | .networkApply => 7

def SameText (libs : ApiLibs) (first second : Operation) : Prop :=
  pathBytes (first.request libs).path = pathBytes (second.request libs).path ∧
    (first.request libs).params = (second.request libs).params

theorem passes_same (libs : ApiLibs) (first second : Operation) (passes : Passes first second) :
    SameText libs first second := by
  unfold Passes at passes
  split at passes
  · obtain ⟨rfl, rfl⟩ := passes
    exact ⟨rfl, rfl⟩
  · obtain ⟨sameNode, none⟩ := passes
    rw [SameText, update_request, apply_request]
    refine ⟨?_, (flatten_nil_iff libs _).mpr none⟩
    simp only [path_bytes_append, sameNode]
  · rw [SameText, volume_request, apply_request]
    exact ⟨(spells_volume_iff _ _ _ _).mpr passes, rfl⟩
  · obtain ⟨spells, none⟩ := passes
    rw [SameText, volume_request, update_request]
    exact ⟨(spells_volume_iff _ _ _ _).mpr spells, ((flatten_nil_iff libs _).mpr none).symm⟩
  · cases passes

theorem upsert_not_delete (libs : ApiLibs) (group other : String) (nodes comment : Option String)
    (nofailback restricted : Bool) :
    ¬ SameText libs (createHaGroup group nodes comment nofailback restricted) (deleteHaGroup other) := by
  intro same
  have keys : "nofailback" = "force" :=
    Option.some.inj (congrArg (fun params => params.head?.map Prod.fst) same.2)
  exact absurd keys (by decide)

theorem create_not_job (id : UInt64) :
    pathBytes "cluster/replication" ≠ pathBytes ("cluster/replication/" ++ toString id) := by
  intro same
  have lengths := congrArg List.length same
  rw [path_bytes_append, List.length_append] at lengths
  have longer : (pathBytes "cluster/replication").length < (pathBytes "cluster/replication/").length := by decide
  omega

theorem same_passes (libs : ApiLibs) (first second : Operation) (before : first.rank < second.rank)
    (same : SameText libs first second) : Passes first second := by
  have stems := stems_equal libs first second same.1
  cases first <;> cases second
  case createHaGroup.deleteHaGroup => exact absurd same (upsert_not_delete libs _ _ _ _ _ _)
  case updateHaGroup.deleteHaGroup =>
    rw [SameText, update_ha_group_creates] at same
    exact absurd same (upsert_not_delete libs _ _ _ _ _ _)
  case createReplicationJob.updateReplicationJob job id other => exact absurd same.1 (create_not_job id)
  case createReplicationJob.deleteReplicationJob job id => exact absurd same.1 (create_not_job id)
  case updateReplicationJob.deleteReplicationJob id job other =>
    rw [SameText, job_request, delete_job_request, path_bytes_cancel] at same
    exact ⟨job_ids id other same.1, (update_params_nil_iff id job).mp same.2⟩
  case deleteStorageContent.networkConfigUpdate node storage volid other body =>
    rw [SameText, volume_request, update_request] at same
    exact ⟨(spells_volume_iff _ _ _ _).mp same.1, (flatten_nil_iff libs body).mp same.2.symm⟩
  case deleteStorageContent.networkConfigApply node storage volid other =>
    rw [SameText, volume_request, apply_request] at same
    exact (spells_volume_iff _ _ _ _).mp same.1
  case networkConfigUpdate.networkConfigApply node body other =>
    rw [SameText, update_request, apply_request] at same
    simp only [path_bytes_append, List.append_assoc, List.append_cancel_left_eq, List.append_cancel_right_eq] at same
    exact ⟨same.1, (flatten_nil_iff libs body).mp same.2⟩
  -- The other pairs stand in the other order, or begin differently.
  all_goals first
    | simp [rank, kind] at before; done
    | simp [stem, kind] at stems

theorem kinds_ranked (first second : Operation) (different : first.kind ≠ second.kind) :
    first.rank < second.rank ∨ second.rank < first.rank := by
  unfold rank
  revert different
  cases first.kind <;> cases second.kind <;> decide

theorem same_text_iff (libs : ApiLibs) (first second : Operation) (different : first.kind ≠ second.kind) :
    SameText libs first second ↔ Passes first second ∨ Passes second first := by
  constructor
  · intro same
    rcases kinds_ranked first second different with before | after
    · exact Or.inl (same_passes libs first second before same)
    · exact Or.inr (same_passes libs second first after ⟨same.1.symm, same.2.symm⟩)
  · rintro (passes | passes)
    · exact passes_same libs first second passes
    · exact ⟨(passes_same libs second first passes).1.symm, (passes_same libs second first passes).2.symm⟩

section Wire

variable (cluster : ClusterUrl) (libs : ApiLibs)

theorem request_shape (operation : Operation) : operation.request libs =
    ⟨.post, operation.pathCall.path, (operation.request libs).params, .empty⟩ := by
  cases operation <;> rfl

theorem no_query (operation : Operation) : operation.pathCall.query = none := by
  cases operation <;> rfl

theorem path_joined (operation : Operation) :
    Text.bytes (operation.request libs).path = Url.join (operation.pathCall.segments.map Text.bytes) := by
  rw [request_shape, ProxmoxCall.path_spelled, no_query, ← Proxmox.ProxmoxCall.bytes_spelled]
  simp [ProxmoxCall.spelledQuery]

theorem segments_nonempty (operation : Operation) : operation.pathCall.segments.map Text.bytes ≠ [] := by
  obtain ⟨word, rest, starts⟩ := operation.pathCall.starts_with_word
  simp [ProxmoxCall.segments, starts]

def wholePath (operation : Operation) : Percent.Bytes :=
  Url.join (expectedPath cluster operation.pathCall)

theorem whole_path_spelling (operation : Operation) :
    47 :: Url.spelling (wholePath cluster operation) =
      Url.spelling (((cluster.basePath ++ ["api2", "json"]).map Text.bytes).flatMap fun segment => 47 :: segment) ++
        47 :: pathBytes (operation.request libs).path := by
  have joined := Url.join_append ((cluster.basePath ++ ["api2", "json"]).map Text.bytes) _ (segments_nonempty operation)
  rw [← List.map_append] at joined
  rw [← Url.spelling_cons_slash, pathBytes, path_joined, ← Url.spelling_cons_slash, ← Url.spelling_append, joined]
  rfl

theorem steady_segments (operation : Operation) (steady : operation.Steady) :
    ∀ segment ∈ expectedPath cluster operation.pathCall, Url.Steady segment := by
  intro segment member
  obtain ⟨text, inPath, rfl⟩ := List.mem_map.mp member
  rcases List.mem_append.mp inPath with inFront | inSegments
  · rcases List.mem_append.mp inFront with inBase | inApi
    · exact Url.plain_steady _ (cluster.plain text inBase)
    · have apiSteady : ∀ text ∈ ["api2", "json"], Url.Steady (Text.bytes text) := by decide +kernel
      exact apiSteady text inApi
  · obtain ⟨piece, found, rfl⟩ := List.mem_map.mp inSegments
    cases piece with
    | fixed word => exact Url.plain_steady _ (Proxmox.ProxmoxCall.words_plain word (operation.pathCall.fixed_known word found)).1
    | number value => exact Url.plain_steady _ (Url.plain_digits _ (Text.decimal_bytes value)).1
    | supplied text => exact steady.segments text found

theorem steady_trimmed (operation : Operation) (steady : operation.Steady) : Url.trimmed (wholePath cluster operation) := by
  have closed := (Proxmox.expected_closed_iff cluster operation.pathCall).mpr fun text _ last => steady.last text last
  apply closed
  simp [Url.queryText, ProxmoxCall.queryBytes, no_query]

theorem on_wire_steady (operation : Operation) (steady : operation.Steady) :
    (operation.request libs).onWire cluster = some
      { verb := .post, scheme := cluster.origin.scheme, authority := cluster.origin.authority
        path := (Url.spelling (wholePath cluster operation)).splitOnP (· == 47)
        pairs := paramBytes (operation.request libs).params, body := .empty } := by
  have url : Text.bytes (buildUrl cluster.text operation.pathCall.path) =
      cluster.origin.text ++ 47 :: wholePath cluster operation := by
    rw [Proxmox.url_written, ProxmoxCall.queryBytes, no_query]
    rfl
  have parsed := Url.parse_steady cluster.origin (wholePath cluster operation)
    (Url.steady_join _ (steady_segments cluster operation steady)) (steady_trimmed cluster operation steady)
  rw [request_shape, UpstreamRequest.onWire, url, parsed]
  rfl

theorem param_bytes_injective : Function.Injective paramBytes := by
  apply Function.Injective.list_map
  intro first second same
  rw [Prod.mk.injEq] at same
  exact Prod.ext (Text.bytes_injective _ _ same.1) (Text.bytes_injective _ _ same.2)

theorem on_wire_same_iff (first second : Operation) (firstSteady : first.Steady) (secondSteady : second.Steady) :
    (first.request libs).onWire cluster = (second.request libs).onWire cluster ↔ SameText libs first second := by
  rw [on_wire_steady cluster libs first firstSteady, on_wire_steady cluster libs second secondSteady,
    Option.some.injEq, WireRequest.mk.injEq]
  simp only [true_and, and_true, param_bytes_injective.eq_iff]
  refine and_congr_left fun _ => ?_
  have spelled : Url.spelling (wholePath cluster first) = Url.spelling (wholePath cluster second) ↔
      pathBytes (first.request libs).path = pathBytes (second.request libs).path := by
    rw [← List.cons_inj_right 47, whole_path_spelling cluster libs first, whole_path_spelling cluster libs second,
      List.append_cancel_left_eq, List.cons_inj_right]
  rw [← spelled]
  exact ⟨Url.spelling_of_split _ _, fun same => by rw [same]⟩

-- An update that changes nothing is a deletion or an application, and a volume may be named
-- like the network of a node.
theorem distinct_on_wire_iff (first second : Operation) (different : first.kind ≠ second.kind)
    (firstSteady : first.Steady) (secondSteady : second.Steady) :
    (first.request libs).onWire cluster ≠ (second.request libs).onWire cluster ↔
      ¬ (Passes first second ∨ Passes second first) := by
  rw [ne_eq, on_wire_same_iff cluster libs first second firstSteady secondSteady, same_text_iff libs first second different]

end Wire

theorem volume_steady : (deleteStorageContent "pve1" "local" "local:iso/debian.iso").Steady := by
  refine ⟨?_, ?_⟩
  · intro text member
    have each : ∀ text ∈ ["pve1", "local", "local:iso/debian.iso"], Url.Steady (Text.bytes text) := by decide +kernel
    apply each
    simpa [pathCall, ProxmoxCall.endpoint, ProxmoxCall.onNode] using member
  · intro text last
    have same : "local:iso/debian.iso" = text := Proxmox.Piece.supplied.inj (Option.some.inj last)
    subst same
    decide +kernel

theorem apply_steady : (networkConfigApply "pve1").Steady := by
  refine ⟨?_, ?_⟩
  · intro text member
    have same : text = "pve1" := by simpa [pathCall, ProxmoxCall.endpoint, ProxmoxCall.onNode] using member
    subst same
    decide +kernel
  · intro text last
    cases last

theorem volume_not_apply :
    ((deleteStorageContent "pve1" "local" "local:iso/debian.iso").request bareLibs).onWire Proxmox.sampleCluster ≠
        ((networkConfigApply "pve1").request bareLibs).onWire Proxmox.sampleCluster ↔
      ¬ (Passes (deleteStorageContent "pve1" "local" "local:iso/debian.iso") (networkConfigApply "pve1") ∨
        Passes (networkConfigApply "pve1") (deleteStorageContent "pve1" "local" "local:iso/debian.iso")) :=
  distinct_on_wire_iff Proxmox.sampleCluster bareLibs _ _ (by decide) volume_steady apply_steady

-- The update that leaves everything as it is goes out as the deletion of the job, and the
-- deletion of a volume with dot segments in its name as the application of a network.
theorem different_operations_same_request :
    (((updateReplicationJob 100 ⟨none, none, none, none⟩).request bareLibs).onWire Proxmox.sampleCluster =
        ((deleteReplicationJob 100).request bareLibs).onWire Proxmox.sampleCluster ∧
      (updateReplicationJob 100 ⟨none, none, none, none⟩).kind ≠ (deleteReplicationJob 100).kind) ∧
    ((deleteStorageContent "pve11" "local" "../../../network").request bareLibs).onWire Proxmox.sampleCluster =
        ((networkConfigApply "pve11").request bareLibs).onWire Proxmox.sampleCluster ∧
      (deleteStorageContent "pve11" "local" "../../../network").kind ≠ (networkConfigApply "pve11").kind := by
  refine ⟨⟨rfl, by decide⟩, ?_, by decide⟩
  have parsed : Url.parse (Text.bytes (buildUrl Proxmox.sampleCluster.text
        ((deleteStorageContent "pve11" "local" "../../../network").request bareLibs).path)) =
      Url.parse (Text.bytes (buildUrl Proxmox.sampleCluster.text ((networkConfigApply "pve11").request bareLibs).path)) := by
    decide +kernel
  rw [UpstreamRequest.onWire, parsed]
  rfl

end Operation

end Moxui.Api
