import Moxui.Api.Pipeline

set_option autoImplicit false

namespace Moxui.Api

open Moxui.Auth (Claims UserStore)

def Admitted (decode : String → Except String Claims) (request : Request) (claims : Claims) : Prop :=
  ∃ token, token ≠ "" ∧ request.header "authorization" = some (Text.bytes ("Bearer " ++ token)) ∧
    decode token = .ok claims

def guardedRoutes : List Route :=
  protectedRoutes ++ clusterScopedRoutes

theorem visible_ascii_lt (byte : UInt8) (visible : visibleAscii byte = true) : byte < 128 := by
  simp only [visibleAscii, Bool.or_eq_true, Bool.and_eq_true, decide_eq_true_eq, beq_iff_eq] at visible
  rcases visible with ⟨_, below⟩ | rfl
  · exact UInt8.lt_trans below (by decide)
  · decide

theorem header_text_bytes (value : List UInt8) (text : String) (read : headerText value = some text) :
    Text.bytes text = value := by
  unfold headerText at read
  split at read
  · rename_i visible
    rw [← Option.some.inj read]
    apply Text.ascii_bytes
    intro byte member
    exact visible_ascii_lt byte (List.all_eq_true.mp visible byte member)
  · cases read

theorem strip_prefix_some (start text rest : String) (stripped : stripPrefix start text = some rest) :
    text = start ++ rest := by
  unfold stripPrefix at stripped
  split at stripped
  · rename_i begins
    obtain ⟨tail, whole⟩ := List.isPrefixOf_iff_prefix.mp begins
    rw [← Option.some.inj stripped]
    apply String.toList_injective
    rw [String.toList_append, String.toList_ofList, ← whole, ← String.length_toList, List.drop_left]
  · cases stripped

theorem extract_bearer_ok (request : Request) (token : String) (extracted : extractBearer request = .ok token) :
    token ≠ "" ∧ request.header "authorization" = some (Text.bytes ("Bearer " ++ token)) := by
  unfold extractBearer at extracted
  cases present : request.header "authorization" with
  | none => simp [present] at extracted
  | some value =>
      cases read : headerText value with
      | none => simp [present, read] at extracted
      | some header =>
          cases stripped : stripPrefix "Bearer " header with
          | none => simp [present, read, stripped] at extracted
          | some rest =>
              by_cases empty : rest = ""
              · simp [present, read, stripped, empty] at extracted
              · simp only [present, read, stripped, empty, if_false, Except.ok.injEq] at extracted
                subst token
                refine ⟨empty, ?_⟩
                rw [← strip_prefix_some "Bearer " header rest stripped, header_text_bytes value header read]

theorem extract_bearer_refused (request : Request) (response : Response)
    (refused : extractBearer request = .error response) : response.status = 401 := by
  unfold extractBearer at refused
  split at refused
  · cases refused
    rfl
  · split at refused
    · cases refused
      rfl
    · split at refused
      · cases refused
        rfl
      · split at refused
        · cases refused
          rfl
        · cases refused

section AuthGate

variable {ρ : Type} (decode : String → Except String Claims) (state : AppState ρ) (request : Request)

theorem require_auth_ok (passed : Request) (accepted : requireAuth decode request = .ok passed) :
    ∃ claims, Admitted decode request claims ∧ passed = { request with claims := some claims } := by
  unfold requireAuth at accepted
  cases extracted : extractBearer request with
  | error response => simp [extracted] at accepted
  | ok token =>
      cases decoded : decode token with
      | error reason => simp [extracted, decoded] at accepted
      | ok claims =>
          simp only [extracted, decoded, Except.ok.injEq] at accepted
          obtain ⟨nonempty, header⟩ := extract_bearer_ok request token extracted
          exact ⟨claims, ⟨token, nonempty, header, decoded⟩, accepted.symm⟩

theorem require_auth_refused (response : Response) (refused : requireAuth decode request = .error response) :
    response.status = 401 := by
  unfold requireAuth at refused
  cases extracted : extractBearer request with
  | error reason =>
      simp only [extracted, Except.error.injEq] at refused
      rw [← refused]
      exact extract_bearer_refused request reason extracted
  | ok token =>
      cases decoded : decode token with
      | error reason =>
          simp only [extracted, decoded, Except.error.injEq] at refused
          rw [← refused]
          rfl
      | ok claims => simp [extracted, decoded] at refused

theorem require_cluster_access_ok (users : UserStore) (passed : Request)
    (accepted : requireClusterAccess users request = .ok passed) : passed = request := by
  unfold requireClusterAccess at accepted
  split at accepted
  · cases accepted
  · split at accepted
    · cases accepted
    · split at accepted
      · exact (Except.ok.inj accepted).symm
      · cases accepted

theorem guarded_layers (route : Route) (guarded : route ∈ guardedRoutes) :
    route.layers = [.requireAuth] ∨ route.layers = [.requireAuth, .requireClusterAccess] := by
  have all : ∀ route ∈ guardedRoutes,
      route.layers = [.requireAuth] ∨ route.layers = [.requireAuth, .requireClusterAccess] := by decide +kernel
  exact all route guarded

theorem open_layers (route : Route) (member : route ∈ routes) (unguarded : route ∉ guardedRoutes) :
    route.layers = [] := by
  have all : ∀ route ∈ publicRoutes ++ uiRoutes, route.layers = [] := by decide
  apply all
  simp only [routes, guardedRoutes, List.mem_append, not_or] at member unguarded ⊢
  rcases member with ((isPublic | isProtected) | isScoped) | isUi
  · exact Or.inl isPublic
  · exact absurd isProtected unguarded.1
  · exact absurd isScoped unguarded.2
  · exact Or.inr isUi

theorem guarded_layers_run (layers : List RouteLayer)
    (guarded : layers = [.requireAuth] ∨ layers = [.requireAuth, .requireClusterAccess]) :
    (∃ response, requireAuth decode request = .error response ∧
        runLayers decode state layers request = ([(.requireAuth, request)], .error response)) ∨
      ∃ claims, Admitted decode request claims ∧
        (∀ passed, (runLayers decode state layers request).2 = .ok passed → passed.claims = some claims) ∧
        ∀ ran ∈ (runLayers decode state layers request).1, ran.1 = .requireClusterAccess → ran.2.claims = some claims := by
  cases authenticated : requireAuth decode request with
  | error response =>
      refine Or.inl ⟨response, rfl, ?_⟩
      rcases guarded with rfl | rfl <;> simp [runLayers, applyLayer, authenticated]
  | ok passed =>
      obtain ⟨claims, admitted, rfl⟩ := require_auth_ok decode request passed authenticated
      refine Or.inr ⟨claims, admitted, ?_⟩
      rcases guarded with rfl | rfl
      · refine ⟨?_, ?_⟩
        · intro last same
          simp only [runLayers, applyLayer, authenticated, Except.ok.injEq] at same
          rw [← same]
        · intro ran member layer
          simp only [runLayers, applyLayer, authenticated, List.mem_singleton] at member
          subst ran
          cases layer
      · cases access : requireClusterAccess state.auth.users { request with claims := some claims } with
        | error response =>
            refine ⟨?_, ?_⟩
            · intro last same
              simp [runLayers, applyLayer, authenticated, access] at same
            · intro ran member layer
              simp only [runLayers, applyLayer, authenticated, access, List.mem_cons, List.not_mem_nil, or_false] at member
              rcases member with rfl | rfl
              · cases layer
              · rfl
        | ok passed =>
            have same := require_cluster_access_ok _ _ passed access
            refine ⟨?_, ?_⟩
            · intro last result
              simp only [runLayers, applyLayer, authenticated, access, Except.ok.injEq] at result
              rw [← result, same]
            · intro ran member layer
              simp only [runLayers, applyLayer, authenticated, access, List.mem_cons, List.not_mem_nil, or_false] at member
              rcases member with rfl | rfl
              · cases layer
              · rfl

theorem method_endpoint_ok (route : Route) (params : PathParams) (method : HttpMethod) (passed : Request)
    (entry : Entry) : methodEndpoint route params method passed = .ok entry ↔
      ∃ handler, methodHandler route.methods method = some handler ∧ entry = ⟨handler, params, passed⟩ := by
  unfold methodEndpoint
  cases methodHandler route.methods method with
  | none => simp
  | some handler => simp [eq_comm]

theorem dispatch_iff (entry : Entry) :
    (dispatch decode state request).outcome = .ok entry ↔
      (findRoute request.path routes = none ∧ entry = ⟨.serveIndex, [], request⟩) ∨
      ∃ route, findRoute request.path routes = some (route, entry.params) ∧
        methodHandler route.methods request.method = some entry.handler ∧
        (runLayers decode state route.layers request).2 = .ok entry.request := by
  unfold dispatch
  cases found : findRoute request.path routes with
  | none =>
      simp only [Except.ok.injEq, true_and, reduceCtorEq, false_and, exists_false, or_false]
      exact eq_comm
  | some chosen =>
      obtain ⟨route, params⟩ := chosen
      simp only [reduceCtorEq, false_and, false_or, Option.some.injEq, Prod.mk.injEq]
      cases result : (runLayers decode state route.layers request).2 with
      | error response =>
          refine ⟨?_, ?_⟩
          · intro impossible
            cases impossible
          · rintro ⟨_, ⟨rfl, _⟩, _, passes⟩
            rw [result] at passes
            cases passes
      | ok passed =>
          change methodEndpoint route params request.method passed = .ok entry ↔ _
          rw [method_endpoint_ok]
          refine ⟨?_, ?_⟩
          · rintro ⟨handler, method, rfl⟩
            exact ⟨route, ⟨rfl, rfl⟩, method, result⟩
          · rintro ⟨_, ⟨rfl, rfl⟩, listed, passes⟩
            rw [result, Except.ok.injEq] at passes
            exact ⟨entry.handler, listed, by rw [passes]⟩

theorem dispatch_ran (ran : RouteLayer × Request) (member : ran ∈ (dispatch decode state request).ran) :
    ∃ route params, findRoute request.path routes = some (route, params) ∧
      ran ∈ (runLayers decode state route.layers request).1 := by
  unfold dispatch at member
  cases found : findRoute request.path routes with
  | none => simp [found] at member
  | some chosen =>
      obtain ⟨route, params⟩ := chosen
      simp only [found] at member
      exact ⟨route, params, rfl, member⟩

theorem cluster_access_only_guarded (route : Route) (member : route ∈ routes) (seen : Request)
    (ran : (RouteLayer.requireClusterAccess, seen) ∈ (runLayers decode state route.layers request).1) :
    route ∈ guardedRoutes := by
  by_cases guarded : route ∈ guardedRoutes
  · exact guarded
  · rw [open_layers route member guarded] at ran
    cases ran

def guardedHandlers : List Handler :=
  guardedRoutes.flatMap fun route => route.methods.map fun method => method.2

def IsGuarded (request : Request) : Prop :=
  ∃ route params, findRoute request.path routes = some (route, params) ∧ route ∈ guardedRoutes

theorem lookup_member (methods : List (HttpMethod × Handler)) (method : HttpMethod) (handler : Handler)
    (listed : methods.lookup method = some handler) : handler ∈ methods.map fun method => method.2 := by
  obtain ⟨before, after, whole, _⟩ := List.lookup_eq_some_iff.mp listed
  rw [whole]
  simp

theorem method_handler_member (methods : List (HttpMethod × Handler)) (method : HttpMethod) (handler : Handler)
    (chosen : methodHandler methods method = some handler) : handler ∈ methods.map fun method => method.2 := by
  unfold methodHandler at chosen
  split at chosen
  · rename_i own listed
    rw [← Option.some.inj chosen]
    exact lookup_member methods method own listed
  · split at chosen
    · exact lookup_member methods .get handler chosen
    · cases chosen

theorem guarded_handler_route (route : Route) (member : route ∈ routes) (handler : Handler)
    (listed : handler ∈ route.methods.map fun method => method.2) (guarded : handler ∈ guardedHandlers) :
    route ∈ guardedRoutes := by
  have apart : ∀ route ∈ publicRoutes ++ uiRoutes, ∀ method ∈ route.methods, method.2 ∉ guardedHandlers := by
    decide +kernel
  by_cases inside : route ∈ guardedRoutes
  · exact inside
  · exfalso
    obtain ⟨method, inMethods, same⟩ := List.mem_map.mp listed
    refine apart route ?_ method inMethods (same ▸ guarded)
    simp only [routes, guardedRoutes, List.mem_append, not_or] at member inside ⊢
    rcases member with ((isPublic | isProtected) | isScoped) | isUi
    · exact Or.inl isPublic
    · exact absurd isProtected inside.1
    · exact absurd isScoped inside.2
    · exact Or.inr isUi

theorem dispatch_guarded (entry : Entry) (entered : (dispatch decode state request).outcome = .ok entry)
    (guarded : entry.handler ∈ guardedHandlers) :
    ∃ claims, Admitted decode request claims ∧ entry.request.claims = some claims := by
  rcases (dispatch_iff decode state request entry).mp entered with ⟨_, fallback⟩ | ⟨route, found, method, ran⟩
  · have apart : Handler.serveIndex ∉ guardedHandlers := by decide +kernel
    rw [fallback] at guarded
    exact absurd guarded apart
  · have member := (find_route_some _ _ _ _ found).1
    have inside := guarded_handler_route route member entry.handler (method_handler_member _ _ _ method) guarded
    rcases guarded_layers_run decode state request route.layers (guarded_layers route inside) with
      ⟨response, _, stopped⟩ | ⟨claims, admitted, passes, _⟩
    · rw [stopped] at ran
      cases ran
    · exact ⟨claims, admitted, passes entry.request ran⟩

theorem dispatch_refused (guarded : IsGuarded request) (refused : ∀ claims, ¬ Admitted decode request claims) :
    ∃ response, (dispatch decode state request).outcome = .error response ∧ response.status = 401 := by
  obtain ⟨route, params, found, inside⟩ := guarded
  rcases guarded_layers_run decode state request route.layers (guarded_layers route inside) with
    ⟨response, stopped, ran⟩ | ⟨claims, admitted, _⟩
  · refine ⟨response, ?_, require_auth_refused decode request response stopped⟩
    simp only [dispatch, found, ran]
    rfl
  · exact absurd admitted (refused claims)

theorem add_header_status (header : String × String) (response : Response) :
    (addHeader header response).status = response.status := by
  unfold addHeader
  split <;> rfl

theorem secured_status (response : Response) : (secured response).status = response.status := by
  unfold secured
  induction securityHeaders generalizing response with
  | nil => rfl
  | cons header rest ih => rw [List.foldl_cons, ih, add_header_status]

theorem audited_state (env : ServeEnv) (response : Response) :
    ∃ audit, (audit = state.audit ∨ ∃ record, audit = state.audit ++ [record]) ∧
      (audited env request (state, response)).1 = { state with audit := audit } ∧
      (audited env request (state, response)).2.status = response.status := by
  unfold audited
  split
  · exact ⟨_, Or.inr ⟨_, rfl⟩, rfl, rfl⟩
  · exact ⟨state.audit, Or.inl rfl, rfl, rfl⟩

theorem serve_refused (env : ServeEnv) (response : Response)
    (refused : (dispatch decode state request).outcome = .error response) :
    ∃ audit answer, (audit = state.audit ∨ ∃ record, audit = state.audit ++ [record]) ∧
      (answer.status = response.status ∨ env.limited = true ∨ request.method = .options) ∧
      ∀ handlers, serve decode handlers env request state = .done ({ state with audit := audit }, answer) := by
  unfold serve securityHeadersMiddleware cors rateLimit auditMiddleware router
  by_cases preflight : request.method = .options
  · refine ⟨state.audit, secured { status := 200, headers := [], body := .empty }, Or.inl rfl,
      Or.inr (Or.inr preflight), ?_⟩
    intro handlers
    simp [preflight]
  · by_cases limited : env.limited = true
    · refine ⟨state.audit, secured (textResponse 429 "rate limit exceeded"), Or.inl rfl, Or.inr (Or.inl limited), ?_⟩
      intro handlers
      simp [preflight, limited]
    · obtain ⟨audit, appended, kept, status⟩ := audited_state state request env response
      refine ⟨audit, secured (audited env request (state, response)).2, appended, Or.inl ?_, ?_⟩
      · rw [secured_status, status]
      · intro handlers
        simp [preflight, limited, refused, kept]

-- `entered` is about every handler of the two guarded routers, `refused` about every request
-- for one of their routes, `ordered` about every run of the cluster layer.
structure AuthGate : Prop where
  entered : ∀ entry, (dispatch decode state request).outcome = .ok entry → entry.handler ∈ guardedHandlers →
    ∃ claims, Admitted decode request claims ∧ AuthContext.fromRequestParts entry.request = .ok ⟨claims⟩
  ordered : ∀ seen, (RouteLayer.requireClusterAccess, seen) ∈ (dispatch decode state request).ran →
    ∃ claims, Admitted decode request claims ∧ seen.claims = some claims
  refused : IsGuarded request → (∀ claims, ¬ Admitted decode request claims) → ∀ env : ServeEnv,
    ∃ audit answer, (audit = state.audit ∨ ∃ record, audit = state.audit ++ [record]) ∧
      (answer.status = 401 ∨ env.limited = true ∨ request.method = .options) ∧
      ∀ handlers, serve decode handlers env request state = .done ({ state with audit := audit }, answer)

theorem authentication_gate : AuthGate decode state request := by
  refine ⟨?_, ?_, ?_⟩
  · intro entry entered guarded
    obtain ⟨claims, admitted, held⟩ := dispatch_guarded decode state request entry entered guarded
    refine ⟨claims, admitted, ?_⟩
    rw [AuthContext.fromRequestParts, held]
  · intro seen ran
    obtain ⟨route, params, found, ranThere⟩ := dispatch_ran decode state request _ ran
    have inside := cluster_access_only_guarded decode state request route (find_route_some _ _ _ _ found).1 seen ranThere
    rcases guarded_layers_run decode state request route.layers (guarded_layers route inside) with
      ⟨response, _, stopped⟩ | ⟨claims, admitted, _, seesClaims⟩
    · rw [stopped] at ranThere
      simp at ranThere
    · exact ⟨claims, admitted, seesClaims _ ranThere rfl⟩
  · intro guarded refused env
    obtain ⟨response, stopped, unauthenticated⟩ := dispatch_refused decode state request guarded refused
    obtain ⟨audit, answer, appended, status, served⟩ := serve_refused decode state request env response stopped
    refine ⟨audit, answer, appended, ?_, served⟩
    rcases status with same | before
    · exact Or.inl (same.trans unauthenticated)
    · exact Or.inr before

end AuthGate

end Moxui.Api
