import Moxui.Api.ClusterIsolation
import Moxui.Api.Users

set_option autoImplicit false

namespace Moxui.Api

open Moxui.Auth (Claims Role UserStore)
open Moxui.Proxmox (ProxmoxCall)

def HasRole (entry : Entry) (required : Role) : Prop :=
  ∃ auth, authContext entry = .ok auth ∧ requireRole auth required = .ok ()

theorem operator_or_ok (refusal : String) (auth : AuthContext) (checked : operatorOr refusal auth = .ok ()) :
    requireRole auth .operator = .ok () := by
  unfold operatorOr at checked
  cases permitted : requireRole auth .operator with
  | ok passed => rfl
  | error response =>
      simp only [permitted] at checked
      split at checked <;> cases checked

section Floor

variable {ρ : Type} (entry : Entry)

def Floor (read : Except Response (Command ρ)) : Prop :=
  ∀ command call, read = .ok command → Sends command call → call.method ≠ .get → HasRole entry .operator

variable {entry}

theorem floor_bind {α : Type} (first : Except Response α) (next : α → Except Response (Command ρ))
    (rest : ∀ value, first = .ok value → Floor entry (next value)) : Floor entry (first >>= next) := by
  intro command call read
  obtain ⟨value, extracted, later⟩ := except_bind_ok first next command read
  exact rest value extracted command call later

theorem floor_looks (command : Command ρ) (looks : ∀ call, command.call = .ok call → call.method = .get) :
    Floor entry (.ok command) := by
  rintro _ call ⟨rfl⟩ sends writes
  exact absurd (looks call sends.2) writes

theorem floor_checks (auth : AuthContext) (caller : authContext entry = .ok auth) (command : Command ρ)
    (checks : command.checks = .ok () → requireRole auth .operator = .ok ()) : Floor entry (.ok command) := by
  rintro _ call ⟨rfl⟩ sends writes
  exact ⟨auth, caller, checks sends.1⟩

theorem floor_operating (auth : AuthContext) (caller : authContext entry = .ok auth) (cluster : String)
    (call : ProxmoxCall) (render : Json → Json) : Floor entry (.ok (operating auth cluster call render : Command ρ)) :=
  floor_checks auth caller _ (operator_or_ok "operator role required" auth)

theorem floor_refusing (auth : AuthContext) (cluster : String) (error : AppError) :
    Floor entry (.ok (refusing auth cluster error : Command ρ)) := by
  rintro _ call ⟨rfl⟩ sends writes
  cases sends.2

theorem floor_reading (cluster : String) (call : ProxmoxCall) (get : call.method = .get) :
    Floor entry (.ok (reading cluster call : Command ρ)) := by
  refine floor_looks _ ?_
  rintro _ ⟨rfl⟩
  exact get

end Floor

section Handlers

variable {ρ : Type} (libs : ApiLibs) (entry : Entry) (state : AppState ρ)

theorem vm_detail_floor : Floor entry (vmDetail libs entry state) := by
  refine floor_bind _ _ fun target _ => floor_looks _ ?_
  rintro _ ⟨rfl⟩
  rfl

theorem vm_action_floor : Floor entry (vmActionHandler libs entry state) := by
  refine floor_bind _ _ fun auth caller => floor_bind _ _ fun target _ => ?_
  dsimp only
  split
  · exact floor_operating auth caller _ _ _
  · split
    · exact floor_operating auth caller _ _ _
    · exact floor_refusing auth _ _

theorem lxc_action_floor : Floor entry (lxcActionHandler libs entry state) := by
  refine floor_bind _ _ fun auth caller => floor_bind _ _ fun target _ => ?_
  dsimp only
  split
  · exact floor_operating auth caller _ _ _
  · exact floor_refusing auth _ _

theorem lxc_detail_floor : Floor entry (lxcDetail libs entry state) := by
  refine floor_bind _ _ fun path _ => floor_looks _ ?_
  rintro _ ⟨rfl⟩
  rfl

theorem storage_upload_floor : Floor entry (storageUploadHandler libs entry state) := by
  refine floor_bind _ _ fun auth caller => floor_bind _ _ fun target _ => floor_bind _ _ fun body _ => ?_
  exact floor_checks auth caller _ (operator_or_ok _ auth)

theorem replication_status_floor : Floor entry (getReplicationStatus libs entry state) := by
  refine floor_bind _ _ fun target _ => floor_looks _ ?_
  rintro _ ⟨rfl⟩
  rfl

theorem vnc_ticket_floor : Floor entry (vncTicketHandler libs entry state) := by
  refine floor_bind _ _ fun auth caller => floor_bind _ _ fun path _ => floor_checks auth caller _ ?_
  intro checked
  apply operator_or_ok "operator role required for vnc" auth
  cases permitted : operatorOr "operator role required for vnc" auth with
  | ok passed => rfl
  | error refused =>
      simp only [permitted] at checked
      cases checked

theorem command_floor (inner : Inner ρ) (handler : Handler) (command : CommandHandler ρ)
    (single : commandHandler libs inner handler = some command) (other : handler ≠ .vncWsHandler) :
    Floor entry (command entry state) := by
  cases handler <;> cases single
  case vmDetail => exact vm_detail_floor libs entry state
  case vmActionHandler => exact vm_action_floor libs entry state
  case lxcDetail => exact lxc_detail_floor libs entry state
  case lxcActionHandler => exact lxc_action_floor libs entry state
  case storageUploadHandler => exact storage_upload_floor libs entry state
  case getReplicationStatus => exact replication_status_floor libs entry state
  case vncTicketHandler => exact vnc_ticket_floor libs entry state
  case vncWsHandler => exact absurd rfl other
  case vmConfigHandler | lxcConfigHandler | storageContent | nodeNetworks | taskStatus | taskLog =>
    exact floor_bind _ _ fun _ _ => floor_reading _ _ rfl
  case vmRrddataHandler => exact floor_bind _ _ fun _ _ => floor_bind _ _ fun _ _ => floor_reading _ _ rfl
  all_goals first
    | exact floor_bind _ _ fun auth caller => floor_bind _ _ fun _ _ => floor_bind _ _ fun _ _ =>
        floor_operating auth caller _ _ _
    | exact floor_bind _ _ fun auth caller => floor_bind _ _ fun _ _ => floor_operating auth caller _ _ _

theorem bulk_floor (vms : List BulkVmRef) (read : bulkRefs libs entry = .ok vms) : HasRole entry .operator := by
  obtain ⟨auth, caller, afterCaller⟩ := except_bind_ok _ _ _ read
  obtain ⟨body, _, afterBody⟩ := except_bind_ok _ _ _ afterCaller
  cases permitted : operatorOnly auth with
  | ok passed => exact ⟨auth, caller, operator_or_ok _ auth permitted⟩
  | error refused =>
      simp only [permitted] at afterBody
      cases afterBody

-- A handler that changes something at a cluster knows its caller as an operator, but for the
-- one that knows its caller by a VNC token.
theorem handle_floor (inner : Inner ρ) (upstream : Upstream) (writes : upstream.call.method ≠ .get)
    (called : Dialogue.Calls (handle libs inner entry state) upstream) :
    entry.handler = .vncWsHandler ∨ HasRole entry .operator := by
  by_cases vnc : entry.handler = .vncWsHandler
  · exact Or.inl vnc
  · rcases (handle_writes state libs inner entry upstream writes).mp called with
      ⟨handler, single, sends⟩ | ⟨command, isBulk, sends⟩
    · obtain ⟨command, read, sent, _, _⟩ := (run_command_calls state entry handler upstream).mp sends
      exact Or.inr (command_floor libs entry state inner entry.handler handler single vnc command _ read sent writes)
    · obtain ⟨vms, read, _⟩ := (run_bulk_calls state libs entry command upstream).mp sends
      exact Or.inr (bulk_floor libs entry vms read)

end Handlers

section Callers

variable {ρ : Type} (decode : String → Except String Claims) (state : AppState ρ) (request : Request)

-- No token of the request stands for the role: there is none, it does not decode, or its role
-- is unknown or lower.
def LacksRole (required : Role) : Prop :=
  ∀ claims, Admitted decode request claims → ∀ role, Role.fromStr claims.role = .ok role → role.can required = false

theorem require_role_ok (auth : AuthContext) (required : Role) (permitted : requireRole auth required = .ok ()) :
    ∃ role, Role.fromStr auth.claims.role = .ok role ∧ role.can required = true := by
  unfold requireRole AuthContext.role at permitted
  cases parsed : Role.fromStr auth.claims.role with
  | error reason =>
      simp only [parsed] at permitted
      cases permitted
  | ok role =>
      cases allowed : role.can required with
      | true => exact ⟨role, rfl, allowed⟩
      | false =>
          simp only [parsed, allowed, Bool.false_eq_true, if_false] at permitted
          cases permitted

theorem guarded_role (entry : Entry) (entered : (dispatch decode state request).outcome = .ok entry)
    (guarded : entry.handler ∈ guardedHandlers) (required : Role) (lacks : LacksRole decode request required) :
    ¬ HasRole entry required := by
  rintro ⟨auth, caller, permitted⟩
  obtain ⟨claims, admitted, known⟩ := dispatch_guarded decode state request entry entered guarded
  obtain ⟨role, parsed, allowed⟩ := require_role_ok auth required permitted
  have same : auth.claims = claims := by
    simp only [authContext, AuthContext.fromRequestParts, known, Except.ok.injEq] at caller
    rw [← caller]
  have refused := lacks claims admitted role (same ▸ parsed)
  rw [allowed] at refused
  cases refused

theorem writer_guarded (libs : ApiLibs) (inner : Inner ρ) (entry : Entry)
    (entered : (dispatch decode state request).outcome = .ok entry) (upstream : Upstream)
    (writes : upstream.call.method ≠ .get) (called : Dialogue.Calls (handle libs inner entry state) upstream) :
    entry.handler ∈ guardedHandlers := by
  have kinds := (handle_writes state libs inner entry upstream writes).mp called
  rcases (dispatch_iff decode state request entry).mp entered with ⟨_, fallback⟩ | ⟨route, found, method, _⟩
  · rcases kinds with ⟨handler, single, _⟩ | ⟨command, isBulk, _⟩
    · rw [fallback] at single
      cases single
    · rw [fallback] at isBulk
      cases isBulk
  · have member := (find_route_some _ _ _ _ found).1
    have listed := method_handler_member _ _ _ method
    by_cases guarded : route ∈ guardedRoutes
    · exact List.mem_flatMap.mpr ⟨route, guarded, listed⟩
    · exfalso
      have bare := open_layers route member guarded
      rcases kinds with ⟨handler, single, _⟩ | ⟨command, isBulk, _⟩
      · rcases command_layers libs inner route member entry.handler listed handler single with both | ⟨_, one⟩
        · rw [bare] at both
          cases both
        · rw [bare] at one
          cases one
      · have one := bulk_layers route member entry.handler listed command isBulk
        rw [bare] at one
        cases one

theorem serve_auth (handlers : Entry → AppState ρ → Program (AppState ρ × Response)) (env : ServeEnv) (entry : Entry)
    (entered : (dispatch decode state request).outcome = .ok entry) (answer : AppState ρ × Response)
    (answers : handlers entry state = .done answer) (oracle : Oracle) :
    (Dialogue.run oracle [] (serve decode handlers env request state)).2.1.auth = state.auth ∨
      (Dialogue.run oracle [] (serve decode handlers env request state)).2.1.auth = answer.1.auth := by
  have kept : ∀ served : AppState ρ × Response, (audited env request served).1.auth = served.1.auth := by
    intro served
    unfold audited
    dsimp only
    split <;> rfl
  unfold serve securityHeadersMiddleware cors rateLimit auditMiddleware router
  by_cases preflight : request.method = .options
  · simp [preflight]
  · cases limited : env.limited with
    | true => simp [preflight]
    | false =>
        simp only [preflight, entered, answers, Bool.false_eq_true, if_false, Dialogue.bind_done, Dialogue.run_done]
        exact Or.inr (kept answer)

end Callers

section RoleFloor

variable {ρ : Type} (decode : String → Except String Claims) (libs : ApiLibs) (userLibs : UserLibs) (userEnv : Auth.Env)
variable (inner : Inner ρ) (state : AppState ρ) (request : Request)

structure RoleFloor : Prop where
  writes : LacksRole decode request .operator → ∀ env oracle,
    ∀ exchange ∈ (Dialogue.run oracle []
      (serve decode (handle libs (inner.withUsers libs userLibs userEnv)) env request state)).1,
    exchange.1.call.method ≠ .get →
    ∃ entry, (dispatch decode state request).outcome = .ok entry ∧ entry.handler = .vncWsHandler
  users : LacksRole decode request .admin → ∀ env oracle entry,
    (dispatch decode state request).outcome = .ok entry → entry.handler ∈ userHandlers →
    (Dialogue.run oracle []
      (serve decode (handle libs (inner.withUsers libs userLibs userEnv)) env request state)).2.1.auth.users =
      state.auth.users

theorem user_handlers_guarded (handler : Handler) (isUser : handler ∈ userHandlers) : handler ∈ guardedHandlers := by
  have all : ∀ handler ∈ userHandlers, handler ∈ guardedHandlers := by decide +kernel
  exact all handler isUser

def UsersFloor (entry : Entry) (handled : Except Response (Auth.AuthState × Auth.Outcome)) : Prop :=
  ∀ result, handled = .ok result → result.1.users = state.auth.users ∨ HasRole entry .admin

theorem users_floor_bind {α : Type} (entry : Entry) (first : Except Response α)
    (next : α → Except Response (Auth.AuthState × Auth.Outcome))
    (rest : ∀ value, first = .ok value → UsersFloor state entry (next value)) : UsersFloor state entry (first >>= next) := by
  intro result read
  obtain ⟨value, extracted, later⟩ := except_bind_ok first next result read
  exact rest value extracted result later

theorem needs_admin_floor (entry : Entry) (auth : AuthContext) (caller : authContext entry = .ok auth)
    (result : Auth.AuthState × Auth.Outcome) (needs : NeedsAdmin auth.claims state.auth.users result.1.users) :
    UsersFloor state entry (.ok result) := by
  intro _ same
  cases same
  exact needs.imp_right fun permitted => ⟨auth, caller, permitted⟩

theorem list_users_floor (entry : Entry) : UsersFloor state entry (listUsers entry state.auth) :=
  users_floor_bind state entry _ _ fun auth caller =>
    needs_admin_floor state entry auth caller _ (Or.inl (list_users_keeps auth.claims state.auth))

theorem create_user_floor (entry : Entry) : UsersFloor state entry (createUser userLibs userEnv entry state.auth) :=
  users_floor_bind state entry _ _ fun auth caller => users_floor_bind state entry _ _ fun body _ =>
    needs_admin_floor state entry auth caller _ (create_user_needs_admin userEnv auth.claims body state.auth)

theorem update_user_floor (entry : Entry) : UsersFloor state entry (updateUser libs userLibs userEnv entry state.auth) :=
  users_floor_bind state entry _ _ fun auth caller => users_floor_bind state entry _ _ fun username _ =>
    users_floor_bind state entry _ _ fun body _ =>
      needs_admin_floor state entry auth caller _ (update_user_needs_admin userEnv auth.claims username body state.auth)

theorem delete_user_floor (entry : Entry) : UsersFloor state entry (deleteUser libs entry state.auth) :=
  users_floor_bind state entry _ _ fun auth caller => users_floor_bind state entry _ _ fun username _ =>
    needs_admin_floor state entry auth caller _ (delete_user_needs_admin auth.claims username state.auth)

theorem answer_users_floor (entry : Entry) (handled : Except Response (Auth.AuthState × Auth.Outcome))
    (floor : UsersFloor state entry handled) :
    (answerUsers state handled).1.auth.users = state.auth.users ∨ HasRole entry .admin := by
  cases handled with
  | error response => exact Or.inl rfl
  | ok result => exact floor result rfl

theorem user_handled (entry : Entry) (answered : AppState ρ × Response)
    (found : userHandler libs userLibs userEnv entry state entry.handler = some answered) :
    handle libs (inner.withUsers libs userLibs userEnv) entry state = .done answered := by
  have alone : commandHandler libs (inner.withUsers libs userLibs userEnv) entry.handler = none ∧
      bulkHandler entry.handler = none ∧
      viewHandler libs (inner.withUsers libs userLibs userEnv) entry state entry.handler = none := by
    generalize entry.handler = handler at found
    unfold userHandler at found
    split at found <;> first | exact ⟨rfl, rfl, rfl⟩ | cases found
  rw [handle, alone.1, alone.2.1, alone.2.2]
  simp only [Inner.withUsers, found, Option.getD_some]

theorem user_handler_floor (entry : Entry) (isUser : entry.handler ∈ userHandlers) :
    ∃ answer, handle libs (inner.withUsers libs userLibs userEnv) entry state = .done answer ∧
      (answer.1.auth.users = state.auth.users ∨ HasRole entry .admin) := by
  have named : entry.handler = .listUsers ∨ entry.handler = .createUser ∨ entry.handler = .updateUser ∨
      entry.handler = .deleteUser := by
    simpa [userHandlers] using isUser
  have floored : ∃ handled, userHandler libs userLibs userEnv entry state entry.handler = some (answerUsers state handled) ∧
      UsersFloor state entry handled := by
    rcases named with is | is | is | is
    · exact ⟨_, by rw [is]; rfl, list_users_floor state entry⟩
    · exact ⟨_, by rw [is]; rfl, create_user_floor userLibs userEnv state entry⟩
    · exact ⟨_, by rw [is]; rfl, update_user_floor libs userLibs userEnv state entry⟩
    · exact ⟨_, by rw [is]; rfl, delete_user_floor libs state entry⟩
  obtain ⟨handled, found, floor⟩ := floored
  exact ⟨_, user_handled libs userLibs userEnv inner state entry _ found, answer_users_floor state entry handled floor⟩

theorem role_floor : RoleFloor decode libs userLibs userEnv inner state request where
  writes := by
    intro lacks env oracle exchange heard writes
    have answered : ∀ upstream, Nonempty (Answer upstream) := fun upstream => ⟨.ok .null⟩
    have called := (Dialogue.calls_iff_run _ exchange.1).mpr ⟨oracle, exchange.2, heard⟩
    obtain ⟨_, _, entry, entered, sends⟩ := (serve_calls state decode env request _ exchange.1).mp called
    refine ⟨entry, entered, ?_⟩
    rcases handle_floor libs entry state _ exchange.1 writes sends with vnc | operator
    · exact vnc
    · have guarded := writer_guarded decode state request libs _ entry entered exchange.1 writes sends
      exact absurd operator (guarded_role decode state request entry entered guarded .operator lacks)
  users := by
    intro lacks env oracle entry entered isUser
    obtain ⟨answer, answers, keeps⟩ := user_handler_floor libs userLibs userEnv inner state entry isUser
    rcases serve_auth decode state request _ env entry entered answer answers oracle with untouched | handled
    · rw [untouched]
    · rw [handled]
      rcases keeps with kept | admin
      · exact kept
      · exact absurd admin (guarded_role decode state request entry entered (user_handlers_guarded _ isUser) .admin lacks)

end RoleFloor

end Moxui.Api
