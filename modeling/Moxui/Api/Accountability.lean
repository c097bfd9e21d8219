import Moxui.Api.AuditTrail
import Moxui.Api.RoleFloor

set_option autoImplicit false

namespace Moxui.Api

open Moxui.Auth (Claims)

section Looking

variable {ρ : Type}

def Looks (read : Except Response (Command ρ)) : Prop :=
  ∀ command call, read = .ok command → command.call = .ok call → call.method = .get

theorem looks_bind {α : Type} (first : Except Response α) (next : α → Except Response (Command ρ))
    (rest : ∀ value, Looks (next value)) : Looks (first >>= next) := by
  intro command call read
  obtain ⟨value, _, later⟩ := except_bind_ok first next command read
  exact rest value command call later

theorem looks_sending (command : Command ρ) (call : Proxmox.ProxmoxCall) (sends : command.call = .ok call)
    (get : call.method = .get) : Looks (.ok command) := by
  rintro _ other ⟨rfl⟩ sent
  rw [sends] at sent
  cases sent
  exact get

def lookHandlers : List Handler :=
  routes.flatMap fun route =>
    (route.methods.filter fun method => !isStateChanging method.1).map fun method => method.2

variable (libs : ApiLibs) (entry : Entry) (state : AppState ρ)

theorem command_looks (inner : Inner ρ) (handler : Handler) (command : CommandHandler ρ)
    (single : commandHandler libs inner handler = some command) (bound : handler ∈ lookHandlers)
    (other : handler ≠ .vncWsHandler) : Looks (command entry state) := by
  cases handler <;> cases single
  case vncWsHandler => exact absurd rfl other
  case vmDetail | vmConfigHandler | lxcDetail | lxcConfigHandler | storageContent | nodeNetworks | taskStatus | taskLog
      | getReplicationStatus =>
    exact looks_bind _ _ fun _ => looks_sending _ _ rfl rfl
  case listSnapshotsHandler | vmRrddataHandler =>
    exact looks_bind _ _ fun _ => looks_bind _ _ fun _ => looks_sending _ _ rfl rfl
  all_goals exact absurd bound (by decide +kernel)

theorem bulk_not_bound (handler : Handler) (bound : handler ∈ lookHandlers) : bulkHandler handler = none := by
  cases bulk : bulkHandler handler with
  | none => rfl
  | some command =>
      unfold bulkHandler at bulk
      split at bulk <;> first | exact absurd bound (by decide +kernel) | cases bulk

theorem lookup_listed (methods : List (HttpMethod × Handler)) (method : HttpMethod) (handler : Handler)
    (found : methods.lookup method = some handler) : (method, handler) ∈ methods := by
  obtain ⟨earlier, later, split, _⟩ := List.lookup_eq_some_iff.mp found
  rw [split]
  exact List.mem_append_right _ List.mem_cons_self

-- GET answers HEAD too, and neither changes anything.
theorem quiet_method_bound (route : Route) (member : route ∈ routes) (method : HttpMethod) (handler : Handler)
    (chosen : methodHandler route.methods method = some handler) (quiet : isStateChanging method = false) :
    handler ∈ lookHandlers := by
  have bound : ∃ own, (own, handler) ∈ route.methods ∧ isStateChanging own = false := by
    unfold methodHandler at chosen
    split at chosen
    · rename_i own listed
      cases chosen
      exact ⟨method, lookup_listed _ _ _ listed, quiet⟩
    · by_cases head : method = .head
      · rw [if_pos head] at chosen
        exact ⟨.get, lookup_listed _ _ _ chosen, rfl⟩
      · rw [if_neg head] at chosen
        cases chosen
  obtain ⟨own, listed, still⟩ := bound
  unfold lookHandlers
  rw [List.mem_flatMap]
  refine ⟨route, member, List.mem_map.mpr ⟨(own, handler), ?_, rfl⟩⟩
  exact List.mem_filter.mpr ⟨listed, by rw [still]; rfl⟩

-- What makes a cluster change something is bound to a method that must be logged, but for the
-- console, which a browser can open with nothing but a GET.
theorem writer_bound (decode : String → Except String Claims) (inner : Inner ρ) (request : Request)
    (entered : (dispatch decode state request).outcome = .ok entry) (quiet : isStateChanging request.method = false)
    (upstream : Upstream) (writes : upstream.call.method ≠ .get)
    (called : Dialogue.Calls (handle libs inner entry state) upstream) : entry.handler = .vncWsHandler := by
  have bound : entry.handler ∈ lookHandlers ∨ entry.handler = .serveIndex := by
    rcases (dispatch_iff decode state request entry).mp entered with ⟨_, fallback⟩ | ⟨route, found, method, _⟩
    · exact Or.inr (by rw [fallback])
    · exact Or.inl (quiet_method_bound route (find_route_some _ _ _ _ found).1 _ _ method quiet)
  rcases (handle_writes state libs inner entry upstream writes).mp called with
    ⟨handler, single, sends⟩ | ⟨command, isBulk, sends⟩
  · obtain ⟨command, read, sent, _, _⟩ := (run_command_calls state entry handler upstream).mp sends
    rcases bound with look | fallback
    · by_contra other
      exact writes (command_looks libs entry state inner _ handler single look other command _ read sent.2)
    · rw [fallback] at single
      cases single
  · rcases bound with look | fallback
    · rw [bulk_not_bound _ look] at isBulk
      cases isBulk
    · rw [fallback] at isBulk
      cases isBulk

end Looking

def Unsuccessful {ρ : Type} (served : AppState ρ × Response) : Prop :=
  ¬ (200 ≤ served.2.status ∧ served.2.status < 300)

theorem failed_unsuccessful {ρ : Type} (state : AppState ρ) (error : AppError) : Unsuccessful (failed state error) := by
  have refuses : 400 ≤ error.status := by
    cases error <;> simp [AppError.status]
  rintro ⟨_, below⟩
  change error.status < 300 at below
  omega

theorem vnc_ws_unsuccessful {ρ : Type} (libs : ApiLibs) (entry : Entry) (state : AppState ρ)
    (switches : ∀ request response, libs.webSocketUpgrade request = .ok response → response.status = 101)
    (tryAcquire : String → AppState ρ → AppState ρ × Bool) (command : Command ρ)
    (read : vncWsHandler libs entry tryAcquire state = .ok command) :
    Dialogue.Ends Unsuccessful (command.run state) := by
  obtain ⟨path, _, afterPath⟩ := except_bind_ok _ _ _ read
  obtain ⟨token, _, afterToken⟩ := except_bind_ok _ _ _ afterPath
  obtain ⟨upgrade, upgraded, afterUpgrade⟩ := except_bind_ok _ _ _ afterToken
  have opened : upgrade.status = 101 := switches _ _ upgraded
  have finishes : ∀ data, Unsuccessful (command.finish data state) := by
    intro data
    cases afterUpgrade
    dsimp only
    split
    · simp [Unsuccessful, opened]
    · exact failed_unsuccessful _ _
  unfold Command.run
  cases command.checks with
  | error error => exact failed_unsuccessful state error
  | ok passed =>
      cases state.client command.cluster with
      | none => exact failed_unsuccessful state command.missing
      | some client =>
          cases command.call with
          | error error => exact failed_unsuccessful state error
          | ok call =>
              intro answer
              cases answer with
              | error error => exact failed_unsuccessful state error
              | ok data => exact finishes data

section Trail

variable {ρ : Type} (decode : String → Except String Claims) (libs : ApiLibs) (inner : QuietInner ρ)

def changes (state : AppState ρ) (arrival : Arrival) : Bool :=
  (Dialogue.run arrival.oracle []
    (serve decode (handle libs inner.toInner) arrival.env arrival.request state)).1.any fun exchange =>
    decide (exchange.1.call.method ≠ .get)

theorem changes_entered (state : AppState ρ) (arrival : Arrival)
    (changed : changes decode libs inner state arrival = true) :
    arrival.Reaches ∧ ∃ entry upstream, (dispatch decode state arrival.request).outcome = .ok entry ∧
      upstream.call.method ≠ .get ∧ Dialogue.Calls (handle libs inner.toInner entry state) upstream := by
  obtain ⟨exchange, heard, writes⟩ := List.any_eq_true.mp changed
  have answered : ∀ upstream, Nonempty (Answer upstream) := fun upstream => ⟨.ok .null⟩
  have called := (Dialogue.calls_iff_run _ exchange.1).mpr ⟨arrival.oracle, exchange.2, heard⟩
  obtain ⟨preflight, unlimited, entry, entered, sends⟩ :=
    (serve_calls state decode arrival.env arrival.request _ exchange.1).mp called
  exact ⟨⟨preflight, unlimited⟩, entry, exchange.1, entered, of_decide_eq_true writes, sends⟩

variable (switches : ∀ request response, libs.webSocketUpgrade request = .ok response → response.status = 101)

include switches in
theorem changes_logged (state : AppState ρ) (arrival : Arrival)
    (changed : changes decode libs inner state arrival = true) :
    MustBeLogged arrival.request (routed decode libs inner state arrival).2.status := by
  obtain ⟨_, entry, upstream, entered, writes, called⟩ := changes_entered decode libs inner state arrival changed
  cases marked : isStateChanging arrival.request.method with
  | true => exact Or.inl (of_decide_eq_true marked)
  | false =>
      have console := writer_bound libs entry state decode inner.toInner arrival.request entered marked upstream writes called
      have single : commandHandler libs inner.toInner entry.handler =
          some fun entry => vncWsHandler libs entry inner.tryAcquire := by
        rw [console]
        rfl
      have runs : router decode (handle libs inner.toInner) arrival.request state =
          runCommand (fun entry => vncWsHandler libs entry inner.tryAcquire) entry state := by
        simp only [router, entered, handle, single]
      have sends : Dialogue.Calls (runCommand (fun entry => vncWsHandler libs entry inner.tryAcquire) entry state)
          upstream := by
        simpa only [handle, single] using called
      obtain ⟨command, read, _⟩ := (run_command_calls state entry _ upstream).mp sends
      refine Or.inr ?_
      unfold routed
      rw [runs]
      apply Dialogue.ends_run Unsuccessful
      simp only [runCommand, read]
      exact vnc_ws_unsuccessful libs entry state switches inner.tryAcquire command read

theorem secured_keeps (header : String × String) (response : Response) (member : header ∈ response.headers) :
    header ∈ (secured response).headers := by
  unfold secured
  induction securityHeaders generalizing response with
  | nil => exact member
  | cons added rest ih =>
      apply ih
      dsimp only [addHeader]
      split
      · exact member
      · exact List.mem_append_left _ member

theorem reached_answer_named (state : AppState ρ) (arrival : Arrival) (reaches : arrival.Reaches) :
    (requestIdHeader, requestId arrival.env arrival.request) ∈
      ((routerMachine decode libs inner).step state arrival).2.headers := by
  obtain ⟨preflight, limited⟩ := reaches
  unfold routerMachine serve securityHeadersMiddleware cors rateLimit auditMiddleware
  simp only [preflight, limited, if_false, Bool.false_eq_true, Dialogue.run_bind, Dialogue.run_done]
  apply secured_keeps
  unfold audited
  dsimp only
  split <;> exact List.mem_append_right _ List.mem_cons_self

-- A request on its way through the server: the state that it finds, whatever others make of the server
-- meanwhile, and the call to a cluster at which its caller hangs up and its handler is dropped, if any.
structure Passage (ρ : Type) extends Arrival where
  found : AppState ρ
  hangsUp : Option Nat

def Passage.hungUp (passage : Passage ρ) : Bool :=
  match passage.hangsUp with
  | none => false
  | some call => call < (Dialogue.run passage.oracle []
      (serve decode (handle libs inner.toInner) passage.env passage.request passage.found)).1.length

def Passage.rows (passage : Passage ρ) : List AuditEntry :=
  ((routerMachine decode libs inner).step passage.found passage.toArrival).1.audit.drop passage.found.audit.length

-- The log, and the requests in the order in which they are over. They share nothing else that matters to it.
def logMachine : Machine (List AuditEntry) (Passage ρ) (Option Response) where
  step log passage :=
    if passage.hungUp decode libs inner then (log, none)
    else (log ++ passage.rows decode libs inner, some ((routerMachine decode libs inner).step passage.found passage.toArrival).2)

-- The row is about the request, and the caller was told where to find it.
def AccountFor (answered : Arrival × Response) (row : AuditEntry) : Prop :=
  RowFor answered.1 answered.2.status row ∧ (requestIdHeader, row.requestId) ∈ answered.2.headers

def Accounted (answered : List (Arrival × Response)) (rows : List AuditEntry) : Prop :=
  ∃ accounts, accounts.Sublist rows ∧ List.Forall₂ AccountFor answered accounts

theorem accounted_append (earlier later : List (Arrival × Response)) (first second : List AuditEntry)
    (before : Accounted earlier first) (after : Accounted later second) :
    Accounted (earlier ++ later) (first ++ second) := by
  obtain ⟨early, inFirst, pairsEarly⟩ := before
  obtain ⟨late, inSecond, pairsLate⟩ := after
  exact ⟨early ++ late, inFirst.append inSecond, List.rel_append pairsEarly pairsLate⟩

abbrev LogEvent (ρ : Type) : Type :=
  Machine.Event (List AuditEntry) (Passage ρ) (Option Response)

def changing (occurrences : List (LogEvent ρ)) : List (Arrival × Response) :=
  occurrences.flatMap fun occurrence =>
    if changes decode libs inner occurrence.input.found occurrence.input.toArrival then
      occurrence.output.toList.map fun response => (occurrence.input.toArrival, response)
    else []

theorem recorded_rows (passage : Passage ρ) (reaches : passage.Reaches)
    (recorded : Recorded decode libs inner passage.found passage.toArrival) :
    passage.rows decode libs inner =
      [auditEntry passage.env passage.request (routed decode libs inner passage.found passage.toArrival).2.status] := by
  rw [Passage.rows, step_recorded decode libs inner passage.found passage.toArrival reaches recorded, List.drop_left]

include switches in
theorem step_accounted (log : List AuditEntry) (passage : Passage ρ) (written : passage.env.auditWritten = true) :
    ∃ gained, ((logMachine decode libs inner).step log passage).1 = log ++ gained ∧
      Accounted (changing decode libs inner [(logMachine decode libs inner).event log passage]) gained := by
  by_cases gone : passage.hungUp decode libs inner = true
  · have stepped : (logMachine decode libs inner).step log passage = (log, none) := if_pos gone
    refine ⟨[], ?_, [], List.Sublist.refl [], ?_⟩
    · rw [stepped, List.append_nil]
    · have none : changing decode libs inner [(logMachine decode libs inner).event log passage] = [] := by
        simp only [changing, Machine.event, stepped, Option.toList_none, List.map_nil, ite_self, List.flatMap_cons,
          List.flatMap_nil, List.append_nil]
      rw [none]
      exact List.Forall₂.nil
  · have stepped : (logMachine decode libs inner).step log passage = (log ++ passage.rows decode libs inner,
        some ((routerMachine decode libs inner).step passage.found passage.toArrival).2) := if_neg gone
    refine ⟨passage.rows decode libs inner, by rw [stepped], ?_⟩
    simp only [changing, Machine.event, stepped, Option.toList_some, List.map_cons, List.map_nil, List.flatMap_cons,
      List.flatMap_nil, List.append_nil]
    cases changed : changes decode libs inner passage.found passage.toArrival with
    | false => exact ⟨[], List.nil_sublist _, List.Forall₂.nil⟩
    | true =>
        have reaches := (changes_entered decode libs inner passage.found passage.toArrival changed).1
        have must := changes_logged decode libs inner switches passage.found passage.toArrival changed
        have logs := (should_log_iff passage.request _).mpr must
        have status := (step_reached decode libs inner passage.found passage.toArrival reaches).2
        rw [recorded_rows decode libs inner passage reaches ⟨logs, written⟩]
        refine ⟨_, List.Sublist.refl _, List.Forall₂.cons ⟨⟨rfl, rfl, rfl, status.symm⟩, ?_⟩ List.Forall₂.nil⟩
        exact reached_answer_named decode libs inner passage.found passage.toArrival reaches

end Trail

def switchingLibs : ApiLibs :=
  { consoleLibs with
    webSocketUpgrade := fun request =>
      if request.header "upgrade" = some (Text.bytes "websocket") then .ok (textResponse 101 "")
      else .error (textResponse 400 "`Upgrade` header did not include 'websocket'") }

def consoleUpgrade : List (String × List UInt8) :=
  [("connection", Text.bytes "Upgrade"), ("upgrade", Text.bytes "websocket"), ("sec-websocket-version", Text.bytes "13"),
    ("sec-websocket-key", Text.bytes "dGhlIHNhbXBsZSBub25jZQ==")]

def aliceOpensConsole : Request :=
  { aliceGets "/api/v1/vms/lab/pve1/100/vnc/ws" with
    query := some "vnc_token=token"
    headers := (aliceGets "/api/v1/vms/lab/pve1/100/vnc/ws").headers ++ consoleUpgrade }

def deletionAndConsole : List Arrival :=
  twoRequests ++ [{ sending false aliceOpensConsole rfl with oracle := fun _ _ => .ok (.obj [("port", .nat 5900)]) }]

-- They overlap, and a second console is given up while its cluster is asked for it.
def overlapping : List (Passage Unit) :=
  (deletionAndConsole.map fun arrival => { arrival with found := consoleServer, hangsUp := none }) ++
    [{ sending false aliceOpensConsole rfl with found := consoleServer, hangsUp := some 0 }]

end Moxui.Api
