import Moxui.Api.Calls
import Moxui.Auth.System

set_option autoImplicit false

namespace Moxui.Api

open Moxui.Auth (Claims Role UserStore)
open Moxui.Proxmox (ProxmoxCall)

def Request.withClaims (request : Request) (claims : Claims) : Request :=
  { request with claims := some claims }

def target (request : Request) (claims : Claims) : Option (Route × Entry) :=
  match findRoute request.path routes with
  | none => none
  | some (route, params) => (methodHandler route.methods request.method).map fun handler =>
      (route, ⟨handler, params, request.withClaims claims⟩)

section Isolation

variable {ρ : Type} (decode : String → Except String Claims) (libs : ApiLibs) (inner : Inner ρ) (state : AppState ρ)
variable (request : Request) (claims : Claims) (cluster : String)

structure RestrictedOperator : Prop where
  authenticated : requireAuth decode request = .ok (request.withClaims claims)
  operator : ∃ role, Role.fromStr claims.role = .ok role ∧ role.can .operator = true
  restricted : ∃ allowed, state.auth.users.allowedClusters.lookup claims.username = some allowed ∧
    allowed ≠ [] ∧ cluster ∉ allowed

-- Whatever its caller asks for, a request changes nothing at the clusters the caller is kept from.
def ClusterWriteIsolation : Prop :=
  ∀ claims cluster, RestrictedOperator decode state request claims cluster →
    ∀ env oracle, ∀ exchange ∈ (Dialogue.run oracle [] (serve decode (handle libs inner) env request state)).1,
      exchange.1.cluster = cluster → exchange.1.call.method = .get

def AsksWrite (entry : Entry) : Prop :=
  ∃ handler command call, commandHandler libs inner entry.handler = some handler ∧
    handler entry state = .ok command ∧ Sends command call ∧ call.method ≠ .get ∧ command.cluster = cluster

def haGroupHandlers : List Handler :=
  [.createHaGroup, .deleteHaGroup]

-- The three kinds of requests that get past the cluster check: bulk actions, whose clusters
-- stand in the body; the HA groups, whose route has no such check; and paths in which the
-- segment that is checked is not the parameter that is used.
inductive Escapes : Prop where
  | bulk (route : Route) (entry : Entry) (command : BulkCommand) (vms : List BulkVmRef) (vm : BulkVmRef)
      (reached : target request claims = some (route, entry)) (isBulk : bulkHandler entry.handler = some command)
      (read : bulkRefs libs entry = .ok vms) (listed : vm ∈ vms) (named : vm.cluster = cluster)
  | haGroup (route : Route) (entry : Entry) (reached : target request claims = some (route, entry))
      (unchecked : entry.handler ∈ haGroupHandlers) (asks : AsksWrite libs inner state cluster entry)
  | otherSegment (route : Route) (entry : Entry) (segment : String)
      (reached : target request claims = some (route, entry)) (checked : RouteLayer.requireClusterAccess ∈ route.layers)
      (segmentRead : extractClusterFromPath request.path = some segment)
      (allowed : state.auth.users.userCanAccessCluster claims.username segment = true)
      (asks : AsksWrite libs inner state cluster entry)

theorem target_some (route : Route) (entry : Entry) (reached : target request claims = some (route, entry)) :
    ∃ params, findRoute request.path routes = some (route, params) ∧
      methodHandler route.methods request.method = some entry.handler ∧
      entry = ⟨entry.handler, params, request.withClaims claims⟩ := by
  unfold target at reached
  cases found : findRoute request.path routes with
  | none => simp [found] at reached
  | some chosen =>
      obtain ⟨chosenRoute, params⟩ := chosen
      simp only [found, Option.map_eq_some_iff] at reached
      obtain ⟨handler, method, same⟩ := reached
      cases same
      exact ⟨params, rfl, method, rfl⟩

def LayersPass (route : Route) : Prop :=
  RouteLayer.requireClusterAccess ∈ route.layers → ∃ segment, extractClusterFromPath request.path = some segment ∧
    state.auth.users.userCanAccessCluster claims.username segment = true

theorem require_cluster_access_iff (passed : Request) :
    requireClusterAccess state.auth.users (request.withClaims claims) = .ok passed ↔
      passed = request.withClaims claims ∧ ∃ segment, extractClusterFromPath request.path = some segment ∧
        state.auth.users.userCanAccessCluster claims.username segment = true := by
  unfold requireClusterAccess Request.withClaims
  cases read : extractClusterFromPath request.path with
  | none => simp
  | some segment =>
      cases access : state.auth.users.userCanAccessCluster claims.username segment with
      | false => simp [access]
      | true =>
          refine ⟨fun accepted => ⟨?_, segment, rfl, access⟩, ?_⟩
          · simpa [access] using accepted.symm
          · rintro ⟨same, _⟩
            simp [access, same]

theorem layers_pass_iff (route : Route) (passed : Request)
    (authenticated : requireAuth decode request = .ok (request.withClaims claims))
    (guarded : route.layers = [.requireAuth] ∨ route.layers = [.requireAuth, .requireClusterAccess]) :
    (runLayers decode state route.layers request).2 = .ok passed ↔
      passed = request.withClaims claims ∧ LayersPass state request claims route := by
  unfold LayersPass
  rcases guarded with layers | layers
  · simp only [layers, runLayers, applyLayer, authenticated, Except.ok.injEq, List.mem_singleton, reduceCtorEq,
      false_implies, and_true]
    exact eq_comm
  · have access := require_cluster_access_iff state request claims
    simp only [layers, runLayers, applyLayer, authenticated, List.mem_cons, List.not_mem_nil, or_false, or_true,
      true_implies]
    cases result : requireClusterAccess state.auth.users (request.withClaims claims) with
    | error response => simpa [result] using access passed
    | ok last => simpa [result] using access passed

def uncheckedHandlers : List Handler :=
  ((publicRoutes ++ protectedRoutes ++ uiRoutes).flatMap fun route => route.methods.map fun method => method.2).filter
    (· ∉ haGroupHandlers)

theorem unchecked_handler (handler : Handler) (member : handler ∈ uncheckedHandlers) :
    commandHandler libs inner handler = none := by
  have all : uncheckedHandlers.map (commandHandler libs inner) = uncheckedHandlers.map fun _ => none := rfl
  exact List.map_inj_left.mp all handler member

theorem ha_group_layers (route : Route) (member : route ∈ routes) (handler : Handler)
    (listed : handler ∈ route.methods.map fun method => method.2) (haGroup : handler ∈ haGroupHandlers) :
    route.layers = [.requireAuth] := by
  have all : ∀ route ∈ routes, ∀ method ∈ route.methods, method.2 ∈ haGroupHandlers → route.layers = [.requireAuth] := by
    decide +kernel
  obtain ⟨method, inMethods, same⟩ := List.mem_map.mp listed
  exact all route member method inMethods (same ▸ haGroup)

theorem command_layers (route : Route) (member : route ∈ routes) (handler : Handler)
    (listed : handler ∈ route.methods.map fun method => method.2) (command : CommandHandler ρ)
    (single : commandHandler libs inner handler = some command) :
    route.layers = [.requireAuth, .requireClusterAccess] ∨ handler ∈ haGroupHandlers ∧ route.layers = [.requireAuth] := by
  have bothLayers : ∀ route ∈ clusterScopedRoutes, route.layers = [.requireAuth, .requireClusterAccess] := by
    decide +kernel
  by_cases isScoped : route ∈ clusterScopedRoutes
  · exact Or.inl (bothLayers route isScoped)
  · by_cases haGroup : handler ∈ haGroupHandlers
    · exact Or.inr ⟨haGroup, ha_group_layers route member handler listed haGroup⟩
    · exfalso
      have elsewhere : route ∈ publicRoutes ++ protectedRoutes ++ uiRoutes := by
        simp only [routes, List.mem_append] at member ⊢
        tauto
      have unchecked : handler ∈ uncheckedHandlers :=
        List.mem_filter.mpr ⟨List.mem_flatMap.mpr ⟨route, elsewhere, listed⟩, by simpa using haGroup⟩
      rw [unchecked_handler libs inner handler unchecked] at single
      cases single

theorem bulk_layers (route : Route) (member : route ∈ routes) (handler : Handler)
    (listed : handler ∈ route.methods.map fun method => method.2) (command : BulkCommand)
    (isBulk : bulkHandler handler = some command) : route.layers = [.requireAuth] := by
  have all : ∀ route ∈ routes, ∀ method ∈ route.methods, (bulkHandler method.2).isSome = true →
      route.layers = [.requireAuth] := by
    decide +kernel
  obtain ⟨method, inMethods, same⟩ := List.mem_map.mp listed
  exact all route member method inMethods (by rw [same, isBulk]; rfl)

theorem bulk_writes (handler : Handler) (command : BulkCommand) (vm : BulkVmRef)
    (isBulk : bulkHandler handler = some command) : (command.call vm).method ≠ .get := by
  unfold bulkHandler at isBulk
  split at isBulk <;> cases isBulk <;> exact Proxmox.Method.noConfusion

theorem no_preflight (route : Route) (member : route ∈ routes) (handler : Handler)
    (chosen : methodHandler route.methods request.method = some handler) : request.method ≠ .options := by
  have none : ∀ route ∈ routes, methodHandler route.methods .options = none := by decide +kernel
  intro preflight
  rw [preflight, none route member] at chosen
  cases chosen

def WritesTo : Prop :=
  ∃ env upstream, Dialogue.Calls (serve decode (handle libs inner) env request state) upstream ∧
    upstream.cluster = cluster ∧ upstream.call.method ≠ .get

theorem writes_at_entry (entry : Entry) (upstream : Upstream) (writes : upstream.call.method ≠ .get)
    (called : Dialogue.Calls (handle libs inner entry state) upstream) :
    (state.client upstream.cluster).isSome = true ∧ (AsksWrite libs inner state upstream.cluster entry ∨
      ∃ command vms, ∃ vm ∈ vms, bulkHandler entry.handler = some command ∧ bulkRefs libs entry = .ok vms ∧
        vm.cluster = upstream.cluster) := by
  rcases (handle_writes state libs inner entry upstream writes).mp called with
    ⟨handler, single, sends⟩ | ⟨command, isBulk, sends⟩
  · obtain ⟨command, read, sent, configured, named⟩ := (run_command_calls state entry handler upstream).mp sends
    exact ⟨named ▸ configured, Or.inl ⟨handler, command, upstream.call, single, read, sent, writes, named⟩⟩
  · obtain ⟨vms, read, vm, listed, configured, same⟩ := (run_bulk_calls state libs entry command upstream).mp sends
    subst upstream
    exact ⟨configured, Or.inr ⟨command, vms, vm, listed, isBulk, read, rfl⟩⟩

theorem escapes_of_write (caller : RestrictedOperator decode state request claims cluster)
    (written : WritesTo decode libs inner state request cluster) :
    (state.client cluster).isSome = true ∧ Escapes libs inner state request claims cluster := by
  obtain ⟨env, upstream, called, rfl, writes⟩ := written
  obtain ⟨_, _, entry, entered, sends⟩ := (serve_calls state decode env request _ upstream).mp called
  obtain ⟨configured, kinds⟩ := writes_at_entry libs inner state entry upstream writes sends
  refine ⟨configured, ?_⟩
  rcases (dispatch_iff decode state request entry).mp entered with ⟨_, fallback⟩ | ⟨route, found, method, ran⟩
  · rcases kinds with ⟨handler, command, call, single, _⟩ | ⟨command, vms, vm, _, isBulk, _⟩
    · rw [fallback] at single
      cases single
    · rw [fallback] at isBulk
      cases isBulk
  · have member := (find_route_some _ _ _ _ found).1
    have listed := method_handler_member _ _ _ method
    have reach : ∀ passes : entry.request = request.withClaims claims, target request claims = some (route, entry) := by
      intro same
      unfold target
      rw [found]
      simp only [method, Option.map_some, ← same]
    rcases kinds with ⟨handler, command, call, single, asks⟩ | ⟨command, vms, vm, named, isBulk, read, there⟩
    · rcases command_layers libs inner route member entry.handler listed handler single with both | ⟨unchecked, one⟩
      · obtain ⟨same, passes⟩ :=
          (layers_pass_iff decode state request claims route _ caller.authenticated (Or.inr both)).mp ran
        obtain ⟨segment, segmentRead, allowed⟩ := passes (by simp [both])
        exact .otherSegment route entry segment (reach same) (by simp [both]) segmentRead allowed
          ⟨handler, command, call, single, asks⟩
      · obtain ⟨same, _⟩ :=
          (layers_pass_iff decode state request claims route _ caller.authenticated (Or.inl one)).mp ran
        exact .haGroup route entry (reach same) unchecked ⟨handler, command, call, single, asks⟩
    · have one := bulk_layers route member entry.handler listed command isBulk
      obtain ⟨same, _⟩ :=
        (layers_pass_iff decode state request claims route _ caller.authenticated (Or.inl one)).mp ran
      exact .bulk route entry command vms vm (reach same) isBulk read named there

def quietEnv : ServeEnv :=
  { limited := false, now := 0, generatedId := "", durationMs := 0, auditWritten := true }

theorem write_at_target (route : Route) (entry : Entry) (upstream : Upstream)
    (authenticated : requireAuth decode request = .ok (request.withClaims claims))
    (reached : target request claims = some (route, entry))
    (guarded : route.layers = [.requireAuth] ∨ route.layers = [.requireAuth, .requireClusterAccess])
    (passes : LayersPass state request claims route) (writes : upstream.call.method ≠ .get)
    (sends : Dialogue.Calls (handle libs inner entry state) upstream) :
    WritesTo decode libs inner state request upstream.cluster := by
  obtain ⟨params, found, method, whole⟩ := target_some request claims route entry reached
  have member := (find_route_some _ _ _ _ found).1
  refine ⟨quietEnv, upstream, ?_, rfl, writes⟩
  refine (serve_calls state decode quietEnv request _ upstream).mpr
    ⟨no_preflight request route member entry.handler method, rfl, entry, ?_, sends⟩
  have sameParams : entry.params = params := by rw [whole]
  have sameRequest : entry.request = request.withClaims claims := by rw [whole]
  refine (dispatch_iff decode state request entry).mpr (Or.inr ⟨route, by rw [sameParams, found], method, ?_⟩)
  exact (layers_pass_iff decode state request claims route _ authenticated guarded).mpr ⟨sameRequest, passes⟩

theorem write_of_asks (route : Route) (entry : Entry)
    (authenticated : requireAuth decode request = .ok (request.withClaims claims))
    (reached : target request claims = some (route, entry)) (passes : LayersPass state request claims route)
    (configured : (state.client cluster).isSome = true) (asks : AsksWrite libs inner state cluster entry) :
    WritesTo decode libs inner state request cluster := by
  obtain ⟨handler, command, call, single, read, sends, writes, named⟩ := asks
  obtain ⟨params, found, method, _⟩ := target_some request claims route entry reached
  have member := (find_route_some _ _ _ _ found).1
  have guarded : route.layers = [.requireAuth] ∨ route.layers = [.requireAuth, .requireClusterAccess] := by
    rcases command_layers libs inner route member entry.handler (method_handler_member _ _ _ method) handler single with
      both | ⟨_, one⟩
    · exact Or.inr both
    · exact Or.inl one
  apply write_at_target decode libs inner state request claims route entry ⟨cluster, call⟩ authenticated reached
    guarded passes writes
  refine (handle_writes state libs inner entry ⟨cluster, call⟩ writes).mpr (Or.inl ⟨handler, single, ?_⟩)
  exact (run_command_calls state entry handler ⟨cluster, call⟩).mpr
    ⟨command, read, sends, by rw [named]; exact configured, named⟩

theorem write_of_escape (authenticated : requireAuth decode request = .ok (request.withClaims claims))
    (configured : (state.client cluster).isSome = true) (escape : Escapes libs inner state request claims cluster) :
    WritesTo decode libs inner state request cluster := by
  cases escape with
  | bulk route entry command vms vm reached isBulk read listed named =>
      obtain ⟨params, found, method, _⟩ := target_some request claims route entry reached
      have member := (find_route_some _ _ _ _ found).1
      have one := bulk_layers route member entry.handler (method_handler_member _ _ _ method) command isBulk
      have writes := bulk_writes entry.handler command vm isBulk
      subst named
      apply write_at_target decode libs inner state request claims route entry ⟨vm.cluster, command.call vm⟩
        authenticated reached (Or.inl one) (by simp [LayersPass, one]) writes
      refine (handle_writes state libs inner entry _ writes).mpr (Or.inr ⟨command, isBulk, ?_⟩)
      exact (run_bulk_calls state libs entry command _).mpr ⟨vms, read, vm, listed, configured, rfl⟩
  | haGroup route entry reached unchecked asks =>
      apply write_of_asks decode libs inner state request claims cluster route entry authenticated reached ?_ configured
        asks
      obtain ⟨params, found, method, _⟩ := target_some request claims route entry reached
      have member := (find_route_some _ _ _ _ found).1
      have one := ha_group_layers route member entry.handler (method_handler_member _ _ _ method) unchecked
      simp [LayersPass, one]
  | otherSegment route entry segment reached checked segmentRead allowed asks =>
      apply write_of_asks decode libs inner state request claims cluster route entry authenticated reached ?_ configured
        asks
      intro _
      exact ⟨segment, segmentRead, allowed⟩

theorem writes_to_iff (caller : RestrictedOperator decode state request claims cluster) :
    WritesTo decode libs inner state request cluster ↔
      (state.client cluster).isSome = true ∧ Escapes libs inner state request claims cluster := by
  refine ⟨escapes_of_write decode libs inner state request claims cluster caller, ?_⟩
  rintro ⟨configured, escape⟩
  exact write_of_escape decode libs inner state request claims cluster caller.authenticated configured escape

theorem writes_to_iff_run :
    WritesTo decode libs inner state request cluster ↔
      ∃ env oracle, ∃ exchange ∈ (Dialogue.run oracle [] (serve decode (handle libs inner) env request state)).1,
        exchange.1.cluster = cluster ∧ exchange.1.call.method ≠ .get := by
  have answered : ∀ upstream, Nonempty (Answer upstream) := fun upstream => ⟨.ok .null⟩
  refine ⟨?_, ?_⟩
  · rintro ⟨env, upstream, called, named, writes⟩
    obtain ⟨oracle, answer, heard⟩ := (Dialogue.calls_iff_run _ upstream).mp called
    exact ⟨env, oracle, ⟨upstream, answer⟩, heard, named, writes⟩
  · rintro ⟨env, oracle, ⟨upstream, answer⟩, heard, named, writes⟩
    exact ⟨env, upstream, (Dialogue.calls_iff_run _ upstream).mpr ⟨oracle, answer, heard⟩, named, writes⟩

theorem cluster_write_isolation_iff :
    ClusterWriteIsolation decode libs inner state request ↔
      ∀ claims cluster, RestrictedOperator decode state request claims cluster →
        (state.client cluster).isSome = true → ¬ Escapes libs inner state request claims cluster := by
  refine ⟨?_, ?_⟩
  · intro isolated claims cluster caller configured escape
    have written := (writes_to_iff decode libs inner state request claims cluster caller).mpr ⟨configured, escape⟩
    obtain ⟨env, oracle, exchange, heard, named, writes⟩ :=
      (writes_to_iff_run decode libs inner state request cluster).mp written
    exact writes (isolated claims cluster caller env oracle exchange heard named)
  · intro contained claims cluster caller env oracle exchange heard named
    by_contra writes
    have written := (writes_to_iff_run decode libs inner state request cluster).mpr
      ⟨env, oracle, exchange, heard, named, writes⟩
    obtain ⟨configured, escape⟩ := (writes_to_iff decode libs inner state request claims cluster caller).mp written
    exact contained claims cluster caller configured escape

end Isolation

-- Alice operates the lab and nothing else. She deletes an HA group of prod.
def aliceClaims : Claims :=
  { sub := "u-alice", username := "alice", role := "operator", iat := 0, exp := 900 }

def knowsAlice (token : String) : Except String Claims :=
  if token = "alice" then .ok aliceClaims else .error "invalid token"

def labOnly : UserStore :=
  { UserStore.new with allowedClusters := Table.collect [("alice", ["lab"])] }

def twoClusters : AppState Unit :=
  { clients := [⟨"prod", "https://prod.local:8006"⟩, ⟨"lab", "https://lab.local:8006"⟩]
    auth := Auth.AuthState.initial labOnly none none
    vncSecret := none, rest := (), audit := [] }

def deleteProdGroup : Request :=
  { method := .delete, path := "/api/v1/hagroups/prod/web", query := none
    headers := [("authorization", Text.bytes "Bearer alice")], body := [], claims := none }

def noJson {α : Type} (_request : Request) : Except Response α :=
  .error (textResponse 415 "Expected request with Content-Type: application/json")

def bareLibs : ApiLibs :=
  { badPath := fun _ => textResponse 400 "Invalid URL"
    deleteVmRequest := noJson, migrateRequest := noJson, bulkActionRequest := noJson, createVmRequest := noJson
    cloneVmRequest := noJson, updateVmConfigRequest := noJson, backupVmRequest := noJson
    createSnapshotRequest := noJson, deleteSnapshotRequest := noJson, resizeDiskRequest := noJson
    sendkeyRequest := noJson, lxcActionRequest := noJson, deleteLxcRequest := noJson, createLxcRequest := noJson
    haGroupCreateRequest := noJson, createReplicationRequest := noJson, jsonBody := noJson
    vmsQuery := fun _ => .ok none, rrdDataQuery := fun _ => .ok "hour"
    vncWsQuery := fun _ => .error (textResponse 400 "Failed to deserialize query string: missing field vnc_token")
    webSocketUpgrade := fun _ => .error (textResponse 400 "Connection header did not include 'upgrade'")
    lowercase := Text.asciiLower, f64Text := fun _ => "0", jsonText := fun _ => "null"
    base64Decode := fun _ => .error "Invalid padding"
    mintVncToken := fun _ subject => .ok subject
    verifyVncToken := fun _ _ => .error (.unauthorized "vnc token malformed") }

def bareInner : Inner Unit :=
  { answer := fun _ state => (state, textResponse 200 ""), tryAcquire := fun _ state => (state, true)
    stale := fun _ _ => true, probed := fun state _ => (state, textResponse 200 ""), dashboardBody := fun _ => .null }

def haGroupRoute : Route :=
  { pattern := v1 [lit "hagroups", arg "cluster", arg "group"], methods := post .createHaGroup ++ delete .deleteHaGroup
    layers := [.requireAuth] }

def deleteProdEntry : Entry :=
  ⟨.deleteHaGroup, [("cluster", "prod"), ("group", "web")], deleteProdGroup.withClaims aliceClaims⟩

theorem delete_prod_target : target deleteProdGroup aliceClaims = some (haGroupRoute, deleteProdEntry) := by
  have found : findRoute "/api/v1/hagroups/prod/web" routes =
      some (haGroupRoute, [("cluster", "prod"), ("group", "web")]) := by
    decide +kernel
  unfold target
  rw [show deleteProdGroup.path = "/api/v1/hagroups/prod/web" from rfl, found]
  rfl

theorem delete_prod_asks : AsksWrite bareLibs bareInner twoClusters "prod" deleteProdEntry := by
  have prod : percentText "prod" = some "prod" := by decide +kernel
  have web : percentText "web" = some "web" := by decide +kernel
  have texts : pathTexts bareLibs deleteProdEntry = .ok ["prod", "web"] := by
    simp [pathTexts, deleteProdEntry, prod, web]
  refine ⟨deleteHaGroup bareLibs, operating ⟨aliceClaims⟩ "prod" (.deleteHaGroup "web")
    (actionResponse "prod" "group" "web" "delete"), .deleteHaGroup "web", rfl, ?_, ⟨by rfl, rfl⟩, by decide, rfl⟩
  simp only [deleteHaGroup, nodePath, texts]
  rfl

theorem restricted_alice : RestrictedOperator knowsAlice twoClusters deleteProdGroup aliceClaims "prod" := by
  refine ⟨?_, ⟨.operator, by decide, by decide⟩, ["lab"], by decide, by decide, by decide⟩
  unfold requireAuth
  have bearer : extractBearer deleteProdGroup = .ok "alice" := by rfl
  rw [bearer]
  rfl

theorem restricted_operator_deletes_group :
    ¬ ClusterWriteIsolation knowsAlice bareLibs bareInner twoClusters deleteProdGroup := by
  intro isolated
  have escape : Escapes bareLibs bareInner twoClusters deleteProdGroup aliceClaims "prod" :=
    .haGroup haGroupRoute deleteProdEntry delete_prod_target (by decide) delete_prod_asks
  have written := write_of_escape knowsAlice bareLibs bareInner twoClusters deleteProdGroup aliceClaims "prod"
    restricted_alice.authenticated (by decide) escape
  obtain ⟨env, oracle, exchange, heard, named, writes⟩ := (writes_to_iff_run _ _ _ _ _ _).mp written
  exact writes (isolated aliceClaims "prod" restricted_alice env oracle exchange heard named)

end Moxui.Api
