import Moxui.Lib.Machine
import Moxui.Api.Users
import Moxui.Api.ReadIsolation
import Moxui.Api.VncSessions

set_option autoImplicit false

namespace Moxui.Api

open Moxui.Auth (Claims)

section Quiet

variable {ρ : Type}

def Quiet (state : AppState ρ) (program : Program (AppState ρ × Response)) : Prop :=
  Dialogue.Ends (fun served => served.1.audit = state.audit) program

-- No handler writes to the audit log, only the layer around them does.
structure QuietInner (ρ : Type) extends Inner ρ where
  answerQuiet : ∀ entry state, (answer entry state).1.audit = state.audit
  acquireQuiet : ∀ key state, (tryAcquire key state).1.audit = state.audit
  probedQuiet : ∀ state results, (probed state results).1.audit = state.audit

def QuietCommand (state : AppState ρ) (read : Except Response (Command ρ)) : Prop :=
  ∀ command, read = .ok command → ∀ data, (command.finish data state).1.audit = state.audit

theorem quiet_bind {α : Type} (state : AppState ρ) (first : Except Response α) (next : α → Except Response (Command ρ))
    (rest : ∀ value, QuietCommand state (next value)) : QuietCommand state (first >>= next) := by
  intro command read
  obtain ⟨value, _, later⟩ := except_bind_ok first next command read
  exact rest value command later

theorem quiet_finish (state : AppState ρ) (command : Command ρ)
    (keeps : ∀ data, (command.finish data state).1.audit = state.audit) : QuietCommand state (.ok command) := by
  intro other same
  cases same
  exact keeps

theorem run_command_quiet (state : AppState ρ) (handler : CommandHandler ρ) (entry : Entry)
    (quiet : QuietCommand state (handler entry state)) : Quiet state (runCommand handler entry state) := by
  unfold runCommand
  cases read : handler entry state with
  | error response => rfl
  | ok command =>
      change Quiet state (command.run state)
      unfold Command.run
      cases command.checks with
      | error error => rfl
      | ok passed =>
          cases state.client command.cluster with
          | none => rfl
          | some client =>
              cases command.call with
              | error error => rfl
              | ok call =>
                  intro answer
                  cases answer with
                  | error error => rfl
                  | ok data => exact quiet command read data

variable (libs : ApiLibs) (entry : Entry) (state : AppState ρ)

theorem vm_detail_quiet : QuietCommand state (vmDetail libs entry state) := by
  apply quiet_bind
  intro target
  apply quiet_finish
  intro data
  dsimp only
  split <;> rfl

theorem lxc_detail_quiet : QuietCommand state (lxcDetail libs entry state) := by
  apply quiet_bind
  intro path
  apply quiet_finish
  intro data
  cases data <;> rfl

theorem vm_action_quiet : QuietCommand state (vmActionHandler libs entry state) := by
  refine quiet_bind state _ _ fun auth => quiet_bind state _ _ fun target => ?_
  dsimp only
  split
  · exact quiet_finish state _ fun _ => rfl
  · split
    · exact quiet_finish state _ fun _ => rfl
    · exact quiet_finish state _ fun _ => rfl

theorem lxc_action_quiet : QuietCommand state (lxcActionHandler libs entry state) := by
  refine quiet_bind state _ _ fun auth => quiet_bind state _ _ fun target => ?_
  dsimp only
  split
  · exact quiet_finish state _ fun _ => rfl
  · exact quiet_finish state _ fun _ => rfl

theorem vnc_ticket_quiet : QuietCommand state (vncTicketHandler libs entry state) := by
  refine quiet_bind state _ _ fun auth => quiet_bind state _ _ fun path => quiet_finish state _ ?_
  intro data
  dsimp only
  split <;> rfl

theorem vnc_ws_quiet (tryAcquire : String → AppState ρ → AppState ρ × Bool)
    (acquireQuiet : ∀ key, (tryAcquire key state).1.audit = state.audit) :
    QuietCommand state (vncWsHandler libs entry tryAcquire state) := by
  refine quiet_bind state _ _ fun path => quiet_bind state _ _ fun token => quiet_bind state _ _ fun upgrade =>
    quiet_finish state _ ?_
  intro data
  dsimp only
  split
  · exact acquireQuiet _
  · exact acquireQuiet _

variable (inner : QuietInner ρ)

theorem command_quiet (handler : Handler) (command : CommandHandler ρ)
    (single : commandHandler libs inner.toInner handler = some command) : QuietCommand state (command entry state) := by
  cases handler <;> cases single
  case vmDetail => exact vm_detail_quiet libs entry state
  case vmActionHandler => exact vm_action_quiet libs entry state
  case lxcDetail => exact lxc_detail_quiet libs entry state
  case lxcActionHandler => exact lxc_action_quiet libs entry state
  case vncTicketHandler => exact vnc_ticket_quiet libs entry state
  case vncWsHandler => exact vnc_ws_quiet libs entry state _ fun key => inner.acquireQuiet key state
  all_goals first
    | exact quiet_bind state _ _ fun _ => quiet_finish state _ fun _ => rfl
    | exact quiet_bind state _ _ fun _ => quiet_bind state _ _ fun _ => quiet_finish state _ fun _ => rfl
    | exact quiet_bind state _ _ fun _ => quiet_bind state _ _ fun _ => quiet_bind state _ _ fun _ =>
        quiet_finish state _ fun _ => rfl

theorem list_backups_quiet : Quiet state (listBackupsHandler state libs entry) := by
  unfold listBackupsHandler
  cases backupRequest state libs entry with
  | error response => rfl
  | ok target =>
      intro storages
      cases storages with
      | error error => rfl
      | ok storages => exact Dialogue.ends_map _ _ _ fun _ => rfl

theorem view_quiet (handler : Handler) (program : Program (AppState ρ × Response))
    (found : viewHandler libs inner.toInner entry state handler = some program) : Quiet state program := by
  cases handler <;> cases found
  case listVms =>
    unfold listVms
    split
    · rfl
    · exact Dialogue.ends_map _ _ _ fun _ => rfl
  case dashboard =>
    unfold Moxui.Api.dashboard
    split
    · rfl
    · exact Dialogue.ends_map _ _ _ fun _ => rfl
  case listBackupsHandler => exact list_backups_quiet libs entry state
  case readyz => exact Dialogue.ends_map _ _ _ fun results => inner.probedQuiet state _
  all_goals exact Dialogue.ends_map _ _ _ fun _ => rfl

theorem handle_quiet : Quiet state (handle libs inner.toInner entry state) := by
  unfold handle
  cases single : commandHandler libs inner.toInner entry.handler with
  | some handler =>
      exact run_command_quiet state handler entry (command_quiet libs entry state inner entry.handler handler single)
  | none =>
      cases bulkHandler entry.handler with
      | some command =>
          change Quiet state (runBulk state libs command entry)
          unfold runBulk
          cases bulkRefs libs entry with
          | error response => rfl
          | ok vms => exact Dialogue.ends_map _ _ _ fun _ => rfl
      | none =>
          cases view : viewHandler libs inner.toInner entry state entry.handler with
          | some program => exact view_quiet libs entry state inner entry.handler program view
          | none => exact inner.answerQuiet entry state

theorem with_users_quiet (userLibs : UserLibs) (env : Auth.Env) :
    ((inner.toInner.withUsers libs userLibs env).answer entry state).1.audit = state.audit := by
  have users (handled : Except Response (Auth.AuthState × Auth.Outcome)) :
      (answerUsers state handled).1.audit = state.audit := by
    cases handled <;> rfl
  simp only [Inner.withUsers]
  cases found : userHandler libs userLibs env entry state entry.handler with
  | none => exact inner.answerQuiet entry state
  | some served =>
      unfold userHandler at found
      split at found <;> cases found <;> exact users _

def QuietInner.withUsers (userLibs : UserLibs) (env : Auth.Env) : QuietInner ρ :=
  { inner.toInner.withUsers libs userLibs env with
    answerQuiet := fun entry state => with_users_quiet libs entry state inner userLibs env
    acquireQuiet := inner.acquireQuiet
    probedQuiet := inner.probedQuiet }

end Quiet

structure Arrival where
  request : Request
  env : ServeEnv
  oracle : Oracle
  bare : request.claims = none

def Arrival.Reaches (arrival : Arrival) : Prop :=
  arrival.request.method ≠ .options ∧ arrival.env.limited = false

section Trail

variable {ρ : Type} (decode : String → Except String Claims) (libs : ApiLibs) (inner : QuietInner ρ)

def routerMachine : Machine (AppState ρ) Arrival Response where
  step state arrival :=
    (Dialogue.run arrival.oracle [] (serve decode (handle libs inner.toInner) arrival.env arrival.request state)).2

-- What the routes make of a request, which is all that the audit layer gets to see of it.
def routed (state : AppState ρ) (arrival : Arrival) : AppState ρ × Response :=
  (Dialogue.run arrival.oracle [] (router decode (handle libs inner.toInner) arrival.request state)).2

def Recorded (state : AppState ρ) (arrival : Arrival) : Prop :=
  shouldLog arrival.request (routed decode libs inner state arrival).2.status = true ∧ arrival.env.auditWritten = true

theorem routed_audit (state : AppState ρ) (arrival : Arrival) :
    (routed decode libs inner state arrival).1.audit = state.audit := by
  unfold routed
  apply Dialogue.ends_run (fun served : AppState ρ × Response => served.1.audit = state.audit)
  unfold router
  cases (dispatch decode state arrival.request).outcome with
  | error response => rfl
  | ok entry => exact handle_quiet libs entry state inner

theorem step_stopped (state : AppState ρ) (arrival : Arrival) (stopped : ¬ arrival.Reaches) :
    ((routerMachine decode libs inner).step state arrival).1 = state ∧
      ((routerMachine decode libs inner).step state arrival).2.status =
        if arrival.request.method = .options then 200 else 429 := by
  unfold routerMachine serve securityHeadersMiddleware cors rateLimit
  by_cases preflight : arrival.request.method = .options
  · simp only [preflight, if_true, Dialogue.bind_done, Dialogue.run_done, secured_status, and_self]
  · cases limited : arrival.env.limited with
    | false => exact absurd ⟨preflight, limited⟩ stopped
    | true =>
        simp only [preflight, limited, if_true, if_false, Dialogue.bind_done, Dialogue.run_done, secured_status,
          textResponse, and_self]

theorem step_reached (state : AppState ρ) (arrival : Arrival) (reaches : arrival.Reaches) :
    ((routerMachine decode libs inner).step state arrival).1 =
        (audited arrival.env arrival.request (routed decode libs inner state arrival)).1 ∧
      ((routerMachine decode libs inner).step state arrival).2.status =
        (routed decode libs inner state arrival).2.status := by
  obtain ⟨preflight, limited⟩ := reaches
  unfold routerMachine serve securityHeadersMiddleware cors rateLimit auditMiddleware routed
  simp only [preflight, limited, if_false, Bool.false_eq_true, Dialogue.run_bind, Dialogue.run_done, secured_status,
    true_and]
  unfold audited
  dsimp only
  split <;> rfl

theorem step_recorded (state : AppState ρ) (arrival : Arrival) (reaches : arrival.Reaches)
    (recorded : Recorded decode libs inner state arrival) :
    ((routerMachine decode libs inner).step state arrival).1.audit = state.audit ++
      [auditEntry arrival.env arrival.request (routed decode libs inner state arrival).2.status] := by
  obtain ⟨logs, written⟩ := recorded
  rw [(step_reached decode libs inner state arrival reaches).1]
  unfold audited
  simp only [logs, written, Bool.and_self, if_true, routed_audit]

theorem step_unrecorded (state : AppState ρ) (arrival : Arrival)
    (unrecorded : ¬ (arrival.Reaches ∧ Recorded decode libs inner state arrival)) :
    ((routerMachine decode libs inner).step state arrival).1.audit = state.audit := by
  by_cases reaches : arrival.Reaches
  · rw [(step_reached decode libs inner state arrival reaches).1]
    unfold audited
    have kept : ¬ (shouldLog arrival.request (routed decode libs inner state arrival).2.status &&
        arrival.env.auditWritten) = true := by
      intro both
      exact unrecorded ⟨reaches, Bool.and_eq_true_iff.mp both⟩
    simp only [kept, if_false, Bool.false_eq_true, routed_audit]
  · rw [(step_stopped decode libs inner state arrival reaches).1]

def Accepted (state : AppState ρ) (arrival : Arrival) (claims : Claims) : Prop :=
  arrival.Reaches ∧ ∃ seen, (RouteLayer.requireAuth, seen) ∈ (dispatch decode state arrival.request).ran ∧
    requireAuth decode seen = .ok (seen.withClaims claims)

def Attributed (occurrence : Machine.Event (AppState ρ) Arrival Response) : Prop :=
  ∀ row, occurrence.after.audit = occurrence.before.audit ++ [row] →
    (∀ claims, Accepted decode occurrence.before occurrence.input claims → row.userId = some claims.sub) ∧
      ((∀ claims, ¬ Accepted decode occurrence.before occurrence.input claims) → row.userId = none)

-- The claims are read before the layers of the route have put them on the request.
theorem row_unattributed (state : AppState ρ) (arrival : Arrival) (row : AuditEntry)
    (gained : ((routerMachine decode libs inner).step state arrival).1.audit = state.audit ++ [row]) :
    arrival.Reaches ∧ Recorded decode libs inner state arrival ∧ row.userId = none := by
  by_cases both : arrival.Reaches ∧ Recorded decode libs inner state arrival
  · obtain ⟨reaches, recorded⟩ := both
    have appended := step_recorded decode libs inner state arrival reaches recorded
    rw [gained] at appended
    have same := List.append_cancel_left appended
    refine ⟨reaches, recorded, ?_⟩
    rw [List.cons.inj same |>.1, auditEntry, arrival.bare]
    rfl
  · have kept := step_unrecorded decode libs inner state arrival both
    rw [gained] at kept
    exact absurd kept (by simp)

theorem step_attributed_iff (state : AppState ρ) (arrival : Arrival) :
    Attributed decode ((routerMachine decode libs inner).event state arrival) ↔
      ∀ claims, Accepted decode state arrival claims → ¬ Recorded decode libs inner state arrival := by
  refine ⟨?_, ?_⟩
  · intro attributed claims accepted recorded
    have gained := step_recorded decode libs inner state arrival accepted.1 recorded
    have named := (attributed _ gained).1 claims accepted
    rw [(row_unattributed decode libs inner state arrival _ gained).2.2] at named
    cases named
  · intro never row gained
    obtain ⟨_, recorded, anonymous⟩ := row_unattributed decode libs inner state arrival row gained
    refine ⟨?_, ?_⟩
    · intro claims accepted
      exact absurd recorded (never claims accepted)
    · intro _
      exact anonymous

theorem audit_attribution_iff (start : AppState ρ) (arrivals : List Arrival) :
    (∀ occurrence ∈ (routerMachine decode libs inner).trace start arrivals, Attributed decode occurrence) ↔
      ∀ occurrence ∈ (routerMachine decode libs inner).trace start arrivals, ∀ claims,
        Accepted decode occurrence.before occurrence.input claims →
          ¬ Recorded decode libs inner occurrence.before occurrence.input := by
  refine forall₂_congr fun occurrence member => ?_
  obtain ⟨earlier, _, _, isStep⟩ := Machine.trace_event _ start arrivals occurrence member
  rw [isStep]
  exact step_attributed_iff decode libs inner _ _

def MustBeLogged (request : Request) (status : Nat) : Prop :=
  request.method ∈ [.post, .put, .patch, .delete] ∨ ¬ (200 ≤ status ∧ status < 300)

theorem should_log_iff (request : Request) (status : Nat) :
    shouldLog request status = true ↔ MustBeLogged request status := by
  unfold shouldLog isStateChanging MustBeLogged
  simp only [Bool.or_eq_true, decide_eq_true_eq, Bool.not_eq_true', Bool.and_eq_false_iff, decide_eq_false_iff_not]
  refine or_congr_right ?_
  omega

def RowFor (arrival : Arrival) (status : Nat) (row : AuditEntry) : Prop :=
  row.requestId = requestId arrival.env arrival.request ∧ row.method = HttpMethod.asStr arrival.request.method ∧
    row.path = arrival.request.path ∧ row.status = status

-- The log gains one row about a request that must be logged, and nothing else.
def Logged (occurrence : Machine.Event (AppState ρ) Arrival Response) : Prop :=
  ∃ rows, occurrence.after.audit = occurrence.before.audit ++ rows ∧
    (MustBeLogged occurrence.input.request occurrence.output.status →
      ∃ row, rows = [row] ∧ RowFor occurrence.input occurrence.output.status row) ∧
    (¬ MustBeLogged occurrence.input.request occurrence.output.status → rows = [])

theorem reached_logged (state : AppState ρ) (arrival : Arrival) (written : arrival.env.auditWritten = true)
    (reaches : arrival.Reaches) : Logged ((routerMachine decode libs inner).event state arrival) := by
  have status := (step_reached decode libs inner state arrival reaches).2
  by_cases logs : shouldLog arrival.request (routed decode libs inner state arrival).2.status = true
  · have gained := step_recorded decode libs inner state arrival reaches ⟨logs, written⟩
    refine ⟨_, gained, ?_, ?_⟩
    · intro _
      exact ⟨_, rfl, rfl, rfl, rfl, status.symm⟩
    · intro spared
      apply absurd _ spared
      rw [← should_log_iff]
      exact status ▸ logs
  · have kept := step_unrecorded decode libs inner state arrival fun both => logs both.2.1
    refine ⟨[], ?_, ?_, ?_⟩
    · exact kept.trans (List.append_nil _).symm
    · intro must
      apply absurd _ logs
      rw [should_log_iff]
      exact status ▸ must
    · intro _
      rfl

-- A preflight is answered with 200 and needs no row; what the rate limiter answers does.
theorem step_logged_iff (state : AppState ρ) (arrival : Arrival) (written : arrival.env.auditWritten = true) :
    Logged ((routerMachine decode libs inner).event state arrival) ↔
      (arrival.env.limited = true → arrival.request.method = .options) := by
  by_cases reaches : arrival.Reaches
  · refine iff_of_true (reached_logged decode libs inner state arrival written reaches) ?_
    intro limited
    rw [reaches.2] at limited
    cases limited
  · obtain ⟨kept, status⟩ := step_stopped decode libs inner state arrival reaches
    by_cases preflight : arrival.request.method = .options
    · refine iff_of_true ⟨[], ?_, ?_, ?_⟩ fun _ => preflight
      · exact (congrArg AppState.audit kept).trans (List.append_nil _).symm
      · intro must
        change MustBeLogged arrival.request ((routerMachine decode libs inner).step state arrival).2.status at must
        rw [status, if_pos preflight, MustBeLogged, preflight] at must
        exact absurd must (by decide)
      · intro _
        rfl
    · refine iff_of_false ?_ ?_
      · rintro ⟨rows, gained, must, _⟩
        have refused : MustBeLogged arrival.request ((routerMachine decode libs inner).step state arrival).2.status := by
          rw [status, if_neg preflight]
          exact Or.inr (by decide)
        obtain ⟨row, one, _⟩ := must refused
        have nothing : state.audit = state.audit ++ [row] := by
          rw [← one]
          exact (congrArg AppState.audit kept).symm.trans gained
        exact absurd nothing (by simp)
      · intro only
        apply reaches
        refine ⟨preflight, ?_⟩
        cases limited : arrival.env.limited with
        | false => rfl
        | true => exact absurd (only limited) preflight

theorem audit_complete_iff (start : AppState ρ) (arrivals : List Arrival)
    (written : ∀ arrival ∈ arrivals, arrival.env.auditWritten = true) :
    (∀ occurrence ∈ (routerMachine decode libs inner).trace start arrivals, Logged occurrence) ↔
      ∀ arrival ∈ arrivals, arrival.env.limited = true → arrival.request.method = .options := by
  have inputs := Machine.trace_inputs (routerMachine decode libs inner) start arrivals
  have each : (∀ arrival ∈ arrivals, arrival.env.limited = true → arrival.request.method = .options) ↔
      ∀ occurrence ∈ (routerMachine decode libs inner).trace start arrivals,
        occurrence.input.env.limited = true → occurrence.input.request.method = .options := by
    rw [← inputs, List.forall_mem_map, inputs]
  rw [each]
  refine forall₂_congr fun occurrence member => ?_
  obtain ⟨earlier, later, split, isStep⟩ := Machine.trace_event _ start arrivals occurrence member
  have own := written occurrence.input (by rw [split]; simp)
  rw [isStep]
  exact step_logged_iff decode libs inner _ _ own

end Trail

def quietInner : QuietInner Unit :=
  { bareInner with
    answerQuiet := fun _ _ => rfl
    acquireQuiet := fun _ _ => rfl
    probedQuiet := fun _ _ => rfl }

def writtenEnv (limited : Bool) : ServeEnv :=
  { limited := limited, now := 0, generatedId := "r-1", durationMs := 1, auditWritten := true }

def sending (limited : Bool) (request : Request) (bare : request.claims = none) : Arrival :=
  { request := request, env := writtenEnv limited, oracle := fun _ _ => .error (.proxmox "status: 503"), bare := bare }

def twoRequests : List Arrival :=
  [sending false (aliceGets "/api/v1/vms") rfl, sending false deleteProdGroup rfl]

theorem unlimited_requests_logged :
    (∀ occurrence ∈ (routerMachine knowsAlice bareLibs quietInner).trace twoClusters twoRequests, Logged occurrence) ↔
      ∀ arrival ∈ twoRequests, arrival.env.limited = true → arrival.request.method = .options :=
  audit_complete_iff knowsAlice bareLibs quietInner twoClusters twoRequests (by
    intro arrival member
    simp only [twoRequests, List.mem_cons, List.not_mem_nil, or_false] at member
    rcases member with rfl | rfl <;> rfl)

-- Alice deletes a group, and the row says nothing about her.
theorem deletion_not_attributed :
    ¬ ∀ occurrence ∈ (routerMachine knowsAlice bareLibs quietInner).trace twoClusters
      [sending false deleteProdGroup rfl], Attributed knowsAlice occurrence := by
  intro attributed
  have first := attributed _ List.mem_cons_self
  have found : findRoute "/api/v1/hagroups/prod/web" routes =
      some (haGroupRoute, [("cluster", "prod"), ("group", "web")]) := by
    decide +kernel
  have accepted : Accepted knowsAlice twoClusters (sending false deleteProdGroup rfl) aliceClaims := by
    have passes : applyLayer knowsAlice twoClusters .requireAuth deleteProdGroup =
        .ok (deleteProdGroup.withClaims aliceClaims) := restricted_alice.authenticated
    have ran : (dispatch knowsAlice twoClusters deleteProdGroup).ran =
        (runLayers knowsAlice twoClusters haGroupRoute.layers deleteProdGroup).1 := by
      simp only [dispatch, show deleteProdGroup.path = "/api/v1/hagroups/prod/web" from rfl, found]
    refine ⟨⟨by decide, rfl⟩, deleteProdGroup, ?_, restricted_alice.authenticated⟩
    change _ ∈ (dispatch knowsAlice twoClusters deleteProdGroup).ran
    rw [ran]
    simp only [haGroupRoute, runLayers, passes, List.mem_singleton]
  exact (step_attributed_iff knowsAlice bareLibs quietInner twoClusters _).mp first aliceClaims accepted ⟨rfl, rfl⟩

-- A request that the rate limiter turns away leaves no trace.
theorem limited_request_not_logged :
    ¬ ∀ occurrence ∈ (routerMachine knowsAlice bareLibs quietInner).trace twoClusters
      [sending true deleteProdGroup rfl], Logged occurrence := by
  intro logged
  have first := logged _ List.mem_cons_self
  have preflight := (step_logged_iff knowsAlice bareLibs quietInner twoClusters _ rfl).mp first rfl
  cases preflight

end Moxui.Api
