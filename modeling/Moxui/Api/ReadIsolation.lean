import Moxui.Api.ClusterReads

set_option autoImplicit false

namespace Moxui.Api

open Moxui.Auth (Claims UserStore)
open Moxui.Proxmox (ProxmoxCall)

section Reached

variable {ρ : Type} (libs : ApiLibs) (inner : Inner ρ) (state : AppState ρ) (allowed : List String) (entry : Entry)

-- The three ways in which a handler comes to ask a cluster that is not in the list.
inductive ReadsOutside : Prop where
  | aggregate (client : ProxmoxClient) (listed : entry.handler ∈ aggregateHandlers)
      (readable : SearchReadable libs entry) (configured : client ∈ state.clients) (isOutside : client.name ∉ allowed)
  | command (handler : CommandHandler ρ) (command : Command ρ) (call : ProxmoxCall)
      (single : commandHandler libs inner entry.handler = some handler) (read : handler entry state = .ok command)
      (sends : Sends command call) (configured : (state.client command.cluster).isSome = true)
      (isOutside : command.cluster ∉ allowed)
  | backups (client : ProxmoxClient) (path : VmPath) (named : entry.handler = .listBackupsHandler)
      (read : backupRequest state libs entry = .ok (client, path)) (isOutside : client.name ∉ allowed)

def readHandlers : List Handler :=
  guardedRoutes.filterMap fun route => methodHandler route.methods .get

theorem read_not_bulk (listed : entry.handler ∈ readHandlers) : bulkHandler entry.handler = none := by
  have all : ∀ handler ∈ readHandlers, (bulkHandler handler).isNone = true := by decide +kernel
  exact Option.isNone_iff_eq_none.mp (all entry.handler listed)

theorem read_command (listed : entry.handler ∈ readHandlers) (handler : CommandHandler ρ)
    (single : commandHandler libs inner entry.handler = some handler) : entry.handler ∈ clusterReads := by
  have others : (readHandlers.filter (· ∉ clusterReads)).map (commandHandler libs inner) =
      (readHandlers.filter (· ∉ clusterReads)).map fun _ => none := rfl
  by_contra other
  have listedOther : entry.handler ∈ readHandlers.filter (· ∉ clusterReads) :=
    List.mem_filter.mpr ⟨listed, by simpa using other⟩
  rw [List.map_inj_left.mp others entry.handler listedOther] at single
  cases single

theorem collect_calls (call : ProxmoxCall) (clients : List ProxmoxClient) (upstream : Upstream)
    (called : Dialogue.Calls (collect call clients) upstream) : ∃ client ∈ clients, upstream.cluster = client.name := by
  induction clients with
  | nil => exact absurd called (Dialogue.calls_done _ _)
  | cons client rest ih =>
      rw [collect, Dialogue.calls_ask] at called
      rcases called with same | ⟨answer, later⟩
      · exact ⟨client, List.mem_cons_self, by rw [same]⟩
      · obtain ⟨other, member, named⟩ := ih ((Dialogue.calls_map _ _ _).mp later)
        exact ⟨other, List.mem_cons_of_mem client member, named⟩

theorem cluster_dashboard_calls (client : ProxmoxClient) (upstream : Upstream)
    (called : Dialogue.Calls (collectClusterDashboard client) upstream) : upstream.cluster = client.name := by
  rcases called with same | ⟨version, later⟩
  · rw [same]
  · cases version with
    | error error => exact absurd later (Dialogue.calls_done _ _)
    | ok version =>
        rcases later with same | ⟨resources, same | ⟨storages, done⟩⟩
        · rw [same]
        · rw [same]
        · exact absurd done (Dialogue.calls_done _ _)

theorem dashboards_calls (clients : List ProxmoxClient) (upstream : Upstream)
    (called : Dialogue.Calls (collectDashboards clients) upstream) : ∃ client ∈ clients, upstream.cluster = client.name := by
  induction clients with
  | nil => exact absurd called (Dialogue.calls_done _ _)
  | cons client rest ih =>
      rcases Dialogue.calls_bind _ _ _ called with own | ⟨dashboard, later⟩
      · exact ⟨client, List.mem_cons_self, cluster_dashboard_calls client upstream own⟩
      · obtain ⟨other, member, named⟩ := ih ((Dialogue.calls_map _ _ _).mp later)
        exact ⟨other, List.mem_cons_of_mem client member, named⟩

theorem clients_for_user_allowed (username : String)
    (listed : state.auth.users.allowedClusters.lookup username = some allowed) (client : ProxmoxClient)
    (member : client ∈ state.clientsForUser username) : client.name ∈ allowed := by
  rw [AppState.clientsForUser, listed] at member
  obtain ⟨_, accepted⟩ := List.mem_filter.mp member
  obtain ⟨name, inList, same⟩ := List.any_eq_true.mp accepted
  rw [← beq_iff_eq.mp same]
  exact inList

theorem backups_calls (cluster node : String) (vmid : UInt32) (storages : List Json) (upstream : Upstream)
    (called : Dialogue.Calls (collectBackups cluster node vmid storages) upstream) : upstream.cluster = cluster := by
  induction storages with
  | nil => exact absurd called (Dialogue.calls_done _ _)
  | cons storage rest ih =>
      rw [collectBackups, Dialogue.calls_ask] at called
      rcases called with same | ⟨answer, later⟩
      · rw [same]
      · exact ih ((Dialogue.calls_map _ _ _).mp later)

theorem dashboard_calls (claims : Claims) (caller : entry.request.claims = some claims)
    (listed : state.auth.users.allowedClusters.lookup claims.username = some allowed) (upstream : Upstream)
    (called : Dialogue.Calls (dashboard state inner entry) upstream) : upstream.cluster ∈ allowed := by
  have auth : authContext entry = .ok ⟨claims⟩ := by
    rw [authContext, AuthContext.fromRequestParts, caller]
  rw [dashboard, auth] at called
  obtain ⟨client, member, named⟩ := dashboards_calls _ upstream ((Dialogue.calls_map _ _ _).mp called)
  rw [named]
  exact clients_for_user_allowed state allowed claims.username listed client member

theorem list_backups_calls (upstream : Upstream)
    (called : Dialogue.Calls (listBackupsHandler state libs entry) upstream) :
    ∃ client path, backupRequest state libs entry = .ok (client, path) ∧ upstream.cluster = client.name := by
  unfold listBackupsHandler at called
  cases read : backupRequest state libs entry with
  | error response =>
      rw [read] at called
      exact absurd called (Dialogue.calls_done _ _)
  | ok found =>
      rw [read] at called
      refine ⟨found.1, found.2, rfl, ?_⟩
      rcases called with same | ⟨storages, later⟩
      · rw [same]
      · cases storages with
        | error error => exact absurd later (Dialogue.calls_done _ _)
        | ok storages => exact backups_calls _ _ _ _ upstream ((Dialogue.calls_map _ _ _).mp later)

theorem handle_calls (claims : Claims) (caller : entry.request.claims = some claims)
    (listed : state.auth.users.allowedClusters.lookup claims.username = some allowed)
    (isRead : entry.handler ∈ readHandlers) (upstream : Upstream)
    (called : Dialogue.Calls (handle libs inner entry state) upstream) :
    upstream.cluster ∈ allowed ∨ ReadsOutside libs inner state allowed entry := by
  by_cases inside : upstream.cluster ∈ allowed
  · exact Or.inl inside
  · right
    rw [handle] at called
    cases single : commandHandler libs inner entry.handler with
    | some handler =>
        rw [single] at called
        obtain ⟨command, read, sends, configured, named⟩ := (run_command_calls state entry handler upstream).mp called
        exact .command handler command upstream.call single read sends configured (named ▸ inside)
    | none =>
        rw [single, read_not_bulk entry isRead] at called
        cases viewed : viewHandler libs inner entry state entry.handler with
        | none =>
            rw [viewed] at called
            exact absurd called (Dialogue.calls_done _ _)
        | some program =>
            rw [viewed] at called
            cases view_shape libs inner entry state program viewed with
            | aggregate call body isAggregate readable tells =>
                obtain ⟨client, configured, named⟩ := collect_calls call _ upstream ((Dialogue.calls_map _ _ _).mp called)
                exact .aggregate client isAggregate readable configured (named ▸ inside)
            | unreadable response unread => exact absurd called (Dialogue.calls_done _ _)
            | dashboard named => exact absurd (dashboard_calls inner state allowed entry claims caller listed upstream called) inside
            | backups named =>
                obtain ⟨client, path, read, asked⟩ := list_backups_calls libs state entry upstream called
                exact .backups client path named read (asked ▸ inside)
            | readyz named =>
                have notRead : Handler.readyz ∉ readHandlers := by decide +kernel
                exact absurd (named ▸ isRead) notRead

theorem command_distinguished (handler : CommandHandler ρ) (command : Command ρ) (call : ProxmoxCall)
    (read : handler entry state = .ok command) (sends : Sends command call)
    (configured : (state.client command.cluster).isSome = true) (isOutside : command.cluster ∉ allowed)
    (distinguishes : Distinguishes (handler entry state)) :
    (Dialogue.run (saying allowed refusing503) [] (runCommand handler entry state)).2.2.body ≠
      (Dialogue.run (saying allowed nothingListed) [] (runCommand handler entry state)).2.2.body := by
  obtain ⟨client, found⟩ := Option.isSome_iff_exists.mp configured
  have named := client_name state _ client found
  have refused : (Dialogue.run (saying allowed refusing503) [] (runCommand handler entry state)).2 =
      failed state (.proxmox "503 Service Unavailable") := by
    simp only [runCommand, read, Command.run, sends.1, sends.2, found, Dialogue.run_ask, Dialogue.run_done, saying, named,
      if_neg isOutside]
    rfl
  have listed : (Dialogue.run (saying allowed nothingListed) [] (runCommand handler entry state)).2 =
      command.finish (.arr []) state := by
    simp only [runCommand, read, Command.run, sends.1, sends.2, found, Dialogue.run_ask, Dialogue.run_done, saying, named,
      if_neg isOutside]
    rfl
  rw [refused, listed]
  exact (distinguishes command read state _).symm

theorem aggregate_distinguished (call : ProxmoxCall) (body : Results → Json) (tells : Tells body)
    (client : ProxmoxClient) (configured : client ∈ state.clients) (isOutside : client.name ∉ allowed) :
    (Dialogue.run (saying allowed refusing503) [] (aggregate state call body)).2.2.body ≠
      (Dialogue.run (saying allowed nothingListed) [] (aggregate state call body)).2.2.body := by
  have ran (outside : Except AppError Json) :
      (Dialogue.run (saying allowed outside) [] (aggregate state call body)).2.2.body =
        .json (body (answered allowed outside state.clients)) := by
    rw [aggregate, respondWith, Dialogue.run_bind, collect_answered]
    rfl
  rw [ran, ran]
  intro same
  exact tells allowed state.clients ⟨client, configured, isOutside⟩ (ResponseBody.json.inj same)

theorem backups_distinguished (client : ProxmoxClient) (path : VmPath)
    (read : backupRequest state libs entry = .ok (client, path)) (isOutside : client.name ∉ allowed) :
    (Dialogue.run (saying allowed refusing503) [] (listBackupsHandler state libs entry)).2.2.body ≠
      (Dialogue.run (saying allowed nothingListed) [] (listBackupsHandler state libs entry)).2.2.body := by
  simp only [listBackupsHandler, read, Dialogue.run_ask, saying, if_neg isOutside, refusing503, nothingListed, items,
    collectBackups, Dialogue.bind_done, Dialogue.run_done]
  intro same
  simp [failed, AppError.intoResponse, jsonResponse] at same

theorem outside_distinguished (emptyUpgrade : UpgradeIsEmpty libs) (isRead : entry.handler ∈ readHandlers)
    (reads : ReadsOutside libs inner state allowed entry) :
    (Dialogue.run (saying allowed refusing503) [] (handle libs inner entry state)).2.2.body ≠
      (Dialogue.run (saying allowed nothingListed) [] (handle libs inner entry state)).2.2.body := by
  have handled := view_handled libs inner entry state
  cases reads with
  | aggregate client listed readable configured isOutside =>
      obtain ⟨program, viewed⟩ := aggregate_viewed libs inner entry state entry.handler listed
      rw [handled program viewed]
      cases view_shape libs inner entry state program viewed with
      | aggregate call body _ _ tells =>
          exact aggregate_distinguished state allowed call body tells client configured isOutside
      | unreadable response unread => exact absurd readable unread
      | dashboard named => exact absurd (named ▸ listed) (by decide)
      | backups named => exact absurd (named ▸ listed) (by decide)
      | readyz named => exact absurd (named ▸ listed) (by decide)
  | command handler command call single read sends configured isOutside =>
      have distinguishes := cluster_read_distinguishes libs entry state inner emptyUpgrade entry.handler
        (read_command libs inner entry isRead handler single) handler single
      have ran : handle libs inner entry state = runCommand handler entry state := by
        simp only [handle, single]
      rw [ran]
      exact command_distinguished state allowed entry handler command call read sends configured isOutside distinguishes
  | backups client path named read isOutside =>
      have viewed : viewHandler libs inner entry state entry.handler = some (listBackupsHandler state libs entry) := by
        rw [named]
        rfl
      rw [handled _ viewed]
      exact backups_distinguished libs state allowed entry client path read isOutside

end Reached

section Isolation

variable {ρ : Type} (decode : String → Except String Claims) (libs : ApiLibs) (inner : Inner ρ) (state : AppState ρ)
variable (request : Request)

theorem secured_body (response : Response) : (secured response).body = response.body := by
  unfold secured
  induction securityHeaders generalizing response with
  | nil => rfl
  | cons header rest ih =>
      have added : (addHeader header response).body = response.body := by
        unfold addHeader
        split <;> rfl
      rw [List.foldl_cons, ih, added]

theorem audited_body (env : ServeEnv) (served : AppState ρ × Response) :
    (audited env request served).2.body = served.2.body := by
  unfold audited
  dsimp only
  split <;> rfl

theorem audited_status (env : ServeEnv) (request : Request) (served : AppState ρ × Response) :
    (audited env request served).2.status = served.2.status := by
  unfold audited
  dsimp only
  split <;> rfl

theorem serve_body (handlers : Entry → AppState ρ → Program (AppState ρ × Response)) (entry : Entry)
    (entered : (dispatch decode state request).outcome = .ok entry) (notPreflight : request.method ≠ .options)
    (oracle : Dialogue.Oracle Upstream Answer) :
    (Dialogue.run oracle [] (serve decode handlers quietEnv request state)).2.2.body =
      (Dialogue.run oracle [] (handlers entry state)).2.2.body := by
  have open_ : quietEnv.limited = false := rfl
  simp only [serve, securityHeadersMiddleware, cors, rateLimit, auditMiddleware, router, entered, if_neg notPreflight,
    open_, Bool.false_eq_true, if_false, Dialogue.run_bind, Dialogue.run_done, secured_body, audited_body]

theorem serve_answer (handlers : Entry → AppState ρ → Program (AppState ρ × Response)) (env : ServeEnv)
    (unlimited : env.limited = false) (notPreflight : request.method ≠ .options)
    (oracle : Dialogue.Oracle Upstream Answer) :
    (Dialogue.run oracle [] (serve decode handlers env request state)).2.2.status =
        (Dialogue.run oracle [] (router decode handlers request state)).2.2.status ∧
      (Dialogue.run oracle [] (serve decode handlers env request state)).2.2.body =
        (Dialogue.run oracle [] (router decode handlers request state)).2.2.body := by
  simp only [serve, securityHeadersMiddleware, cors, rateLimit, auditMiddleware, if_neg notPreflight, unlimited,
    Bool.false_eq_true, if_false, Dialogue.run_bind, Dialogue.run_done, secured_status, secured_body, audited_status,
    audited_body, and_self]

theorem serve_exchanges (handlers : Entry → AppState ρ → Program (AppState ρ × Response)) (env : ServeEnv)
    (unlimited : env.limited = false) (notPreflight : request.method ≠ .options)
    (oracle : Dialogue.Oracle Upstream Answer) :
    (Dialogue.run oracle [] (serve decode handlers env request state)).1 =
      (Dialogue.run oracle [] (router decode handlers request state)).1 := by
  simp only [serve, securityHeadersMiddleware, cors, rateLimit, auditMiddleware, if_neg notPreflight, unlimited,
    Bool.false_eq_true, if_false, Dialogue.run_bind, Dialogue.run_done]

theorem serve_limited (handlers : Entry → AppState ρ → Program (AppState ρ × Response)) (env : ServeEnv)
    (limited : env.limited = true) (notPreflight : request.method ≠ .options)
    (oracle : Dialogue.Oracle Upstream Answer) :
    (Dialogue.run oracle [] (serve decode handlers env request state)).2.2.status = 429 := by
  simp only [serve, securityHeadersMiddleware, cors, rateLimit, if_neg notPreflight, limited, if_true,
    Dialogue.bind_done, Dialogue.run_done, secured_status]
  rfl

theorem protected_entered (route : Route) (handler : Handler) (found : findRoute request.path routes = some (route, []))
    (layers : route.layers = [.requireAuth]) (answers : methodHandler route.methods request.method = some handler) :
    (∃ response, (dispatch decode state request).outcome = .error response ∧ response.status = 401) ∨
      ∃ claims, Admitted decode request claims ∧
        (dispatch decode state request).outcome = .ok ⟨handler, [], request.withClaims claims⟩ := by
  cases authenticated : requireAuth decode request with
  | error response =>
      refine Or.inl ⟨response, ?_, require_auth_refused decode request response authenticated⟩
      simp only [dispatch, found, layers, runLayers, applyLayer, authenticated]
      rfl
  | ok passed =>
      obtain ⟨claims, admitted, same⟩ := require_auth_ok decode request passed authenticated
      refine Or.inr ⟨claims, admitted, ?_⟩
      refine (dispatch_iff decode state request _).mpr (Or.inr ⟨route, found, answers, ?_⟩)
      simp only [layers, runLayers, applyLayer, authenticated]
      rw [same]
      rfl

structure RestrictedReader (claims : Claims) (allowed : List String) : Prop where
  authenticated : requireAuth decode request = .ok (request.withClaims claims)
  listed : state.auth.users.allowedClusters.lookup claims.username = some allowed
  restricted : allowed ≠ []
  reads : request.method = .get
  guarded : IsGuarded request

-- Two worlds that differ in the answers of other clusters look the same to a restricted reader.
def ClusterReadIsolation : Prop :=
  ∀ claims allowed, RestrictedReader decode state request claims allowed →
    ∀ env first second, Dialogue.Alike (fun upstream : Upstream => upstream.cluster ∈ allowed) first second →
      (Dialogue.run first [] (serve decode (handle libs inner) env request state)).2.2.body =
        (Dialogue.run second [] (serve decode (handle libs inner) env request state)).2.2.body

variable (claims : Claims) (allowed : List String)

theorem reader_target (reader : RestrictedReader decode state request claims allowed) (route : Route) (entry : Entry)
    (reached : target request claims = some (route, entry)) (passes : LayersPass state request claims route) :
    entry.handler ∈ readHandlers ∧ (dispatch decode state request).outcome = .ok entry := by
  obtain ⟨params, found, method, whole⟩ := target_some request claims route entry reached
  obtain ⟨guardedRoute, guardedParams, guardedFound, guarded⟩ := reader.guarded
  have sameRoute : guardedRoute = route := by
    rw [found] at guardedFound
    cases guardedFound
    rfl
  subst sameRoute
  have sameParams : entry.params = params := by rw [whole]
  have sameRequest : entry.request = request.withClaims claims := by rw [whole]
  constructor
  · rw [reader.reads] at method
    exact List.mem_filterMap.mpr ⟨guardedRoute, guarded, method⟩
  · refine (dispatch_iff decode state request entry).mpr (Or.inr ⟨guardedRoute, by rw [sameParams, found], method, ?_⟩)
    exact (layers_pass_iff decode state request claims guardedRoute _ reader.authenticated
      (guarded_layers guardedRoute guarded)).mpr ⟨sameRequest, passes⟩

theorem reader_entered (reader : RestrictedReader decode state request claims allowed) (entry : Entry)
    (entered : (dispatch decode state request).outcome = .ok entry) :
    ∃ route, target request claims = some (route, entry) ∧ LayersPass state request claims route := by
  obtain ⟨guardedRoute, guardedParams, guardedFound, guarded⟩ := reader.guarded
  rcases (dispatch_iff decode state request entry).mp entered with ⟨nowhere, _⟩ | ⟨route, found, method, ran⟩
  · rw [nowhere] at guardedFound
    cases guardedFound
  · have sameRoute : guardedRoute = route := by
      rw [found] at guardedFound
      cases guardedFound
      rfl
    subst sameRoute
    obtain ⟨same, passes⟩ := (layers_pass_iff decode state request claims guardedRoute _ reader.authenticated
      (guarded_layers guardedRoute guarded)).mp ran
    refine ⟨guardedRoute, ?_, passes⟩
    unfold target
    rw [found]
    simp only [method, Option.map_some, ← same]

theorem alike_saying (first second : Except AppError Json) :
    Dialogue.Alike (fun upstream : Upstream => upstream.cluster ∈ allowed) (saying allowed first)
      (saying allowed second) := by
  intro earlier later upstream inside _
  simp only [saying, if_pos inside]

theorem reads_outside_shows (emptyUpgrade : UpgradeIsEmpty libs)
    (reader : RestrictedReader decode state request claims allowed) (route : Route) (entry : Entry)
    (reached : target request claims = some (route, entry)) (passes : LayersPass state request claims route)
    (reads : ReadsOutside libs inner state allowed entry) : ¬ClusterReadIsolation decode libs inner state request := by
  intro isolated
  obtain ⟨isRead, entered⟩ := reader_target decode state request claims allowed reader route entry reached passes
  have notPreflight : request.method ≠ .options := by
    rw [reader.reads]
    exact HttpMethod.noConfusion
  have same := isolated claims allowed reader quietEnv _ _ (alike_saying allowed refusing503 nothingListed)
  rw [serve_body decode state request _ entry entered notPreflight,
    serve_body decode state request _ entry entered notPreflight] at same
  exact outside_distinguished libs inner state allowed entry emptyUpgrade isRead reads same

theorem reader_calls (reader : RestrictedReader decode state request claims allowed)
    (contained : ∀ route entry, target request claims = some (route, entry) → LayersPass state request claims route →
      ¬ReadsOutside libs inner state allowed entry) (env : ServeEnv) (upstream : Upstream)
    (called : Dialogue.Calls (serve decode (handle libs inner) env request state) upstream) :
    upstream.cluster ∈ allowed := by
  obtain ⟨_, _, entry, entered, sends⟩ := (serve_calls state decode env request _ upstream).mp called
  obtain ⟨route, reached, passes⟩ := reader_entered decode state request claims allowed reader entry entered
  obtain ⟨isRead, _⟩ := reader_target decode state request claims allowed reader route entry reached passes
  obtain ⟨params, _, _, whole⟩ := target_some request claims route entry reached
  have caller : entry.request.claims = some claims := by
    rw [whole]
    rfl
  rcases handle_calls libs inner state allowed entry claims caller reader.listed isRead upstream sends with inside | outside
  · exact inside
  · exact absurd outside (contained route entry reached passes)

theorem cluster_read_isolation_iff (emptyUpgrade : UpgradeIsEmpty libs) :
    ClusterReadIsolation decode libs inner state request ↔
      ∀ claims allowed route entry, RestrictedReader decode state request claims allowed →
        target request claims = some (route, entry) → LayersPass state request claims route →
          ¬ReadsOutside libs inner state allowed entry := by
  constructor
  · intro isolated claims allowed route entry reader reached passes reads
    exact reads_outside_shows decode libs inner state request claims allowed emptyUpgrade reader route entry reached passes
      reads isolated
  · intro contained claims allowed reader env first second alike
    have every := reader_calls decode libs inner state request claims allowed reader
      (fun route entry => contained claims allowed route entry reader) env
    rw [Dialogue.run_alike _ first second alike _ every]

end Isolation

def upgradingLibs : ApiLibs :=
  { bareLibs with webSocketUpgrade := fun _ => .ok { status := 101, headers := [("upgrade", "websocket")], body := .empty } }

theorem upgrading_is_empty : UpgradeIsEmpty upgradingLibs := by
  intro request response upgraded
  cases upgraded
  rfl

def aliceGets (path : String) : Request :=
  { method := .get, path := path, query := none, headers := [("authorization", Text.bytes "Bearer alice")], body := []
    claims := none }

def plainRoute (name : String) (handler : Handler) : Route :=
  { pattern := v1 [lit name], methods := get handler, layers := [.requireAuth] }

theorem plain_target (path name : String) (handler : Handler) (claims : Claims)
    (found : findRoute path routes = some (plainRoute name handler, [])) :
    target (aliceGets path) claims = some (plainRoute name handler, ⟨handler, [], (aliceGets path).withClaims claims⟩) := by
  unfold target
  rw [show (aliceGets path).path = path from rfl, found]
  rfl

theorem dashboard_read_isolated :
    ClusterReadIsolation knowsAlice upgradingLibs bareInner twoClusters (aliceGets "/api/v1/dashboard") := by
  refine (cluster_read_isolation_iff knowsAlice upgradingLibs bareInner twoClusters (aliceGets "/api/v1/dashboard")
    upgrading_is_empty).mpr ?_
  intro claims allowed route entry _ reached _ reads
  have found : findRoute "/api/v1/dashboard" routes = some (plainRoute "dashboard" .dashboard, []) := by decide +kernel
  rw [plain_target _ _ _ claims found] at reached
  cases reached
  cases reads with
  | aggregate client listed _ _ _ =>
      have notListed : Handler.dashboard ∉ aggregateHandlers := by decide
      exact notListed listed
  | command handler command call single _ _ _ _ => cases single
  | backups client path other _ _ => cases other

theorem vms_of_prod_listed :
    ¬ClusterReadIsolation knowsAlice upgradingLibs bareInner twoClusters (aliceGets "/api/v1/vms") := by
  have found : findRoute "/api/v1/vms" routes = some (plainRoute "vms" .listVms, []) := by decide +kernel
  have authenticated : requireAuth knowsAlice (aliceGets "/api/v1/vms") =
      .ok ((aliceGets "/api/v1/vms").withClaims aliceClaims) := by
    unfold requireAuth
    have bearer : extractBearer (aliceGets "/api/v1/vms") = .ok "alice" := by rfl
    rw [bearer]
    rfl
  have reader : RestrictedReader knowsAlice twoClusters (aliceGets "/api/v1/vms") aliceClaims ["lab"] :=
    { authenticated := authenticated, listed := by decide, restricted := by decide, reads := rfl
      guarded := ⟨_, _, found, by decide⟩ }
  refine reads_outside_shows knowsAlice upgradingLibs bareInner twoClusters _ aliceClaims ["lab"] upgrading_is_empty reader _
    _ (plain_target _ _ _ aliceClaims found) (fun checked => absurd checked (by decide)) ?_
  exact .aggregate ⟨"prod", "https://prod.local:8006"⟩ (by decide) (fun _ => ⟨none, rfl⟩) (by decide) (by decide)

end Moxui.Api
