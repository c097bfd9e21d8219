import Moxui.Api.Pipeline
import Moxui.Lib.Interleaving
import Moxui.Proxmox.CircuitBreaker

set_option autoImplicit false

namespace Moxui.Proxmox

open Moxui.Api (AppError Json)

inductive Verb where
  | get
  | post
  | put
  | delete
deriving DecidableEq, Repr

structure Ticket where
  ticket : String
  csrfToken : String
  username : String
  expiresAt : Int64
deriving DecidableEq, Repr

-- One method of the client that talks to the cluster. `sendTimeout` is the message of the
-- timeout around its own request, `timeout` that of the one around the whole of it.
structure Transport where
  verb : Verb
  path : String
  params : Params
  csrf : Bool
  sendTimeout : Option String
  timeout : Option String
deriving DecidableEq, Repr

def pingTimeoutSecs : Nat :=
  3

def listVmsTimeoutSecs : Nat :=
  10

def postTimeoutSecs : Nat :=
  10

def timedOutAfter (what : String) (secs : Nat) : String :=
  s!"{what} timed out after {secs}s"

namespace Transport

def get (path : String) : Transport :=
  { verb := .get, path := path, params := [], csrf := false, sendTimeout := none, timeout := none }

def deleteJson (path : String) : Transport :=
  { verb := .delete, path := path, params := [], csrf := true, sendTimeout := none, timeout := none }

def writing (verb : Verb) (what path : String) (params : Params) : Transport :=
  { verb := verb, path := path, params := params, csrf := true
    sendTimeout := some (timedOutAfter (what ++ " " ++ path) postTimeoutSecs), timeout := none }

def post (path : String) : Transport :=
  writing .post "POST" path []

def postWithQuery (path : String) (params : Params) : Transport :=
  writing .post "POST" path params

def postNoDefault (path : String) (params : Params) : Transport :=
  writing .post "POST" path params

def putWithQuery (path : String) (params : Params) : Transport :=
  writing .put "PUT" path params

def putJson (path : String) : Transport :=
  writing .put "PUT" path []

def uploadFile (node storage : String) : Transport :=
  writing .post "upload_file" s!"nodes/{node}/storage/{storage}/upload" []

def bounded (what : String) (secs : Nat) (path : String) : Transport :=
  { get path with timeout := some (timedOutAfter what secs) }

def listVms : Transport :=
  bounded "list_vms" listVmsTimeoutSecs "cluster/resources?type=vm"

def listLxcs : Transport :=
  bounded "list_lxcs" listVmsTimeoutSecs "cluster/resources?type=vm"

def lxcDetail (node : String) (vmid : UInt32) : Transport :=
  bounded "lxc_detail" listVmsTimeoutSecs s!"nodes/{node}/lxc/{vmid}/status/current"

def listStorages (node : String) : Transport :=
  bounded "list_storages" listVmsTimeoutSecs s!"nodes/{node}/storage"

def storageContent (node storage : String) : Transport :=
  bounded "storage_content" listVmsTimeoutSecs s!"nodes/{node}/storage/{storage}/content"

def listNetworks (node : String) : Transport :=
  bounded "list_networks" listVmsTimeoutSecs s!"nodes/{node}/network"

def ping : Transport :=
  bounded "ping" pingTimeoutSecs "version"

end Transport

-- `shown` is how the http crate prints it, with its reason.
structure StatusCode where
  code : Nat
  shown : String
deriving DecidableEq, Repr

def StatusCode.isSuccess (status : StatusCode) : Bool :=
  200 ≤ status.code && status.code < 300

-- How an exchange with the cluster ends: with an error of reqwest, with whichever timeout comes
-- first (`reason` is what reqwest says of its own), or with an answer that decodes or does not.
-- What reqwest does on the way there, the redirects it follows, is in `Wake`.
inductive Reply (α : Type) where
  | failed (reason : String)
  | timedOut (reason : String)
  | answered (status : StatusCode) (body : Except String α)

structure Heard where
  now : UInt64
  ticketReply : Reply Ticket
  reply : Reply Json

-- A redirect as reqwest takes it: the address it goes on to, whether it keeps the verb (else it asks with
-- GET), whether it is for the same host and port, and what is said when too many have been followed.
structure Redirect where
  url : String
  keepsVerb : Bool
  sameHost : Bool
  tooMany : String
deriving DecidableEq, Repr

-- What wakes a call where it waits: what it hears there, unless it is cut off by the timeout around
-- the whole of it (or with the handler that waits for it), or reqwest is sent on to another address.
structure Wake extends Heard where
  cutOff : Option String
  redirect : Option Redirect

def Heard.last (heard : Heard) : Wake :=
  { heard with cutOff := none, redirect := none }

structure ClientState where
  ticket : Option Ticket
  breaker : CircuitBreaker

def ClientState.new : ClientState :=
  { ticket := none, breaker := .standard }

inductive ClientRequest where
  | login
  | send (transport : Transport)
deriving DecidableEq, Repr

-- Where a call stands: before the check of `ensure_ticket`, before and after it posts for a ticket (for
-- itself, or for what it wants to send then), before it reads the ticket, and before and after its own
-- request goes out with it. `followed` are the redirects since then.
inductive ClientCall where
  | checking (transport : Transport)
  | asking (next : Option Transport)
  | loggingIn (next : Option Transport) (followed : List Redirect)
  | holding (transport : Transport)
  | sending (transport : Transport) (ticket : Ticket)
  | waiting (transport : Transport) (ticket : Ticket) (followed : List Redirect)
deriving DecidableEq, Repr

def ClientRequest.enter : ClientRequest → ClientCall
  | .login => .asking none
  | .send transport => .checking transport

abbrev ClientOutcome : Type :=
  Except AppError (Option Json)

def refreshBeforeSecs : Int64 :=
  300

-- The check of `ensure_ticket`.
def shouldRefresh (now : UInt64) (ticket : Option Ticket) : Bool :=
  match ticket with
  | some ticket => ticket.expiresAt - now.toInt64 < refreshBeforeSecs
  | none => true

def ticketMissing : AppError :=
  .internal "ticket missing after ensure"

-- The end of `current_ticket`.
def readTicket (transport : Transport) (state : ClientState) : ClientState × (ClientCall ⊕ ClientOutcome) :=
  match state.ticket with
  | none => (state, .inr (.error ticketMissing))
  | some ticket => (state, .inl (.sending transport ticket))

def loggedIn (next : Option Transport) : ClientCall ⊕ ClientOutcome :=
  match next with
  | none => .inr (.ok none)
  | some transport => .inl (.holding transport)

-- What comes of an exchange: `?` on the error of reqwest and the timeout return at once, and so
-- does a body that does not decode. Only a refusal is recorded as a failure.
def settle {α : Type} (message : Option String) (refusal : String) (reply : Reply α) (now : UInt64) (state : ClientState)
    (next : α → ClientState × (ClientCall ⊕ ClientOutcome)) : ClientState × (ClientCall ⊕ ClientOutcome) :=
  match reply with
  | .failed reason => (state, .inr (.error (.proxmox reason)))
  | .timedOut reason => (state, .inr (.error (.proxmox (message.getD reason))))
  | .answered status body =>
      if status.isSuccess then
        match body with
        | .error reason => (state, .inr (.error (.proxmox reason)))
        | .ok value => next value
      else ({ state with breaker := state.breaker.recordFailure now },
        .inr (.error (.proxmox (refusal ++ status.shown))))

def loginAnswered (next : Option Transport) (heard : Heard) (state : ClientState) :
    ClientState × (ClientCall ⊕ ClientOutcome) :=
  settle (next.bind Transport.timeout) "Login failed with status " heard.ticketReply heard.now state fun ticket =>
    ({ state with ticket := some ticket, breaker := state.breaker.recordSuccess }, loggedIn next)

-- `handle_response`, and what keeps an answer from reaching it.
def ownAnswered (transport : Transport) (heard : Heard) (state : ClientState) :
    ClientState × (ClientCall ⊕ ClientOutcome) :=
  settle (transport.timeout.or transport.sendTimeout) "GET failed with status " heard.reply heard.now state fun data =>
    ({ state with breaker := state.breaker.recordSuccess }, .inr (.ok (some data)))

def redirectLimit : Nat :=
  10

-- reqwest goes on with the exchange, or gives its end.
def follow (followed : List Redirect) (redirect : Option Redirect) (waits : List Redirect → ClientCall) (state : ClientState)
    (ends : ClientState × (ClientCall ⊕ ClientOutcome)) : ClientState × (ClientCall ⊕ ClientOutcome) :=
  match redirect with
  | none => ends
  | some redirect =>
      if followed.length < redirectLimit then (state, .inl (waits (followed ++ [redirect])))
      else (state, .inr (.error (.proxmox redirect.tooMany)))

def goesOn (call : ClientCall) (wake : Wake) (state : ClientState) : ClientState × (ClientCall ⊕ ClientOutcome) :=
  match call with
  | .checking transport =>
      (state, .inl (if shouldRefresh wake.now state.ticket then .asking (some transport) else .holding transport))
  | .asking next => (state, .inl (.loggingIn next []))
  | .loggingIn next followed =>
      follow followed wake.redirect (.loggingIn next) state (loginAnswered next wake.toHeard state)
  | .holding transport => readTicket transport state
  | .sending transport ticket => (state, .inl (.waiting transport ticket []))
  | .waiting transport ticket followed =>
      follow followed wake.redirect (.waiting transport ticket) state (ownAnswered transport wake.toHeard state)

def advanceClient (call : ClientCall) (wake : Wake) (state : ClientState) : ClientState × (ClientCall ⊕ ClientOutcome) :=
  match wake.cutOff with
  | some message => (state, .inr (.error (.proxmox message)))
  | none => goesOn call wake state

def clientProtocol : Protocol ClientState ClientRequest ClientCall Wake ClientOutcome where
  enter := ClientRequest.enter
  advance := advanceClient

abbrev ClientStep : Type :=
  Protocol.Taken ClientState ClientCall Wake ClientOutcome

abbrev ClientTurn : Type :=
  Protocol.Turn ClientRequest Wake

def Reply.silent {α : Type} : Reply α → Bool
  | .failed _ | .timedOut _ => true
  | .answered status (.error _) => status.isSuccess
  | .answered _ (.ok _) => false

def Reply.refused {α : Type} : Reply α → Bool
  | .failed _ | .timedOut _ => false
  | .answered status _ => !status.isSuccess

theorem settle_cases {α : Type} (message : Option String) (refusal : String) (reply : Reply α) (now : UInt64)
    (state : ClientState) (next : α → ClientState × (ClientCall ⊕ ClientOutcome)) :
    (∃ error, reply.silent = true ∧ reply.refused = false ∧
      settle message refusal reply now state next = (state, .inr (.error error))) ∨
    (∃ error, reply.silent = false ∧ reply.refused = true ∧ settle message refusal reply now state next =
      ({ state with breaker := state.breaker.recordFailure now }, .inr (.error error))) ∨
    ∃ value, reply.silent = false ∧ reply.refused = false ∧ settle message refusal reply now state next = next value ∧
      ∃ status, reply = .answered status (.ok value) ∧ status.isSuccess = true := by
  cases reply with
  | failed reason => exact Or.inl ⟨_, rfl, rfl, rfl⟩
  | timedOut reason => exact Or.inl ⟨_, rfl, rfl, rfl⟩
  | answered status body =>
      by_cases success : status.isSuccess = true
      · cases body with
        | error reason => exact Or.inl ⟨_, success, by simp [Reply.refused, success], if_pos success⟩
        | ok value =>
            exact Or.inr (Or.inr ⟨value, rfl, by simp [Reply.refused, success], if_pos success, status, rfl, success⟩)
      · refine Or.inr (Or.inl ⟨_, ?_, ?_, if_neg success⟩)
        · cases body <;> simp [Reply.silent, success]
        · simp [Reply.refused, success]

theorem login_answered_cases (next : Option Transport) (heard : Heard) (state : ClientState) :
    (∃ error, heard.ticketReply.silent = true ∧ heard.ticketReply.refused = false ∧
      loginAnswered next heard state = (state, .inr (.error error))) ∨
    (∃ error, heard.ticketReply.silent = false ∧ heard.ticketReply.refused = true ∧ loginAnswered next heard state =
      ({ state with breaker := state.breaker.recordFailure heard.now }, .inr (.error error))) ∨
    ∃ ticket, heard.ticketReply.silent = false ∧ heard.ticketReply.refused = false ∧ loginAnswered next heard state =
      ({ state with ticket := some ticket, breaker := state.breaker.recordSuccess }, loggedIn next) ∧
      ∃ status, heard.ticketReply = .answered status (.ok ticket) ∧ status.isSuccess = true :=
  settle_cases _ _ heard.ticketReply heard.now state _

theorem own_answered_cases (transport : Transport) (heard : Heard) (state : ClientState) :
    (∃ error, heard.reply.silent = true ∧ heard.reply.refused = false ∧
      ownAnswered transport heard state = (state, .inr (.error error))) ∨
    (∃ error, heard.reply.silent = false ∧ heard.reply.refused = true ∧ ownAnswered transport heard state =
      ({ state with breaker := state.breaker.recordFailure heard.now }, .inr (.error error))) ∨
    ∃ data, heard.reply.silent = false ∧ heard.reply.refused = false ∧ ownAnswered transport heard state =
      ({ state with breaker := state.breaker.recordSuccess }, .inr (.ok (some data))) ∧
      ∃ status, heard.reply = .answered status (.ok data) ∧ status.isSuccess = true :=
  settle_cases _ _ heard.reply heard.now state _

theorem should_refresh_absent (now : UInt64) (ticket : Option Ticket) (fresh : shouldRefresh now ticket = false) :
    ∃ held, ticket = some held := by
  cases ticket with
  | none => cases fresh
  | some held => exact ⟨held, rfl⟩

def Brings {α : Type} (wake : Wake) (reply : Reply α) (value : α) : Prop :=
  wake.redirect = none ∧ ∃ status, reply = .answered status (.ok value) ∧ status.isSuccess = true

inductive Move (wake : Wake) (state : ClientState) : ClientCall → ClientState × (ClientCall ⊕ ClientOutcome) → Prop where
  | cutOff (call : ClientCall) (message : String) (isCut : wake.cutOff = some message) :
      Move wake state call (state, .inr (.error (.proxmox message)))
  | refreshes (transport : Transport) (uncut : wake.cutOff = none) :
      Move wake state (.checking transport) (state, .inl (.asking (some transport)))
  | passes (transport : Transport) (ticket : Ticket) (uncut : wake.cutOff = none) (held : state.ticket = some ticket)
      (fresh : shouldRefresh wake.now (some ticket) = false) :
      Move wake state (.checking transport) (state, .inl (.holding transport))
  | posts (next : Option Transport) (uncut : wake.cutOff = none) :
      Move wake state (.asking next) (state, .inl (.loggingIn next []))
  | postsOn (next : Option Transport) (followed : List Redirect) (redirect : Redirect) (uncut : wake.cutOff = none)
      (sentOn : wake.redirect = some redirect) (room : followed.length < redirectLimit) :
      Move wake state (.loggingIn next followed) (state, .inl (.loggingIn next (followed ++ [redirect])))
  | unticketed (next : Option Transport) (followed : List Redirect) (after : ClientState) (error : AppError)
      (uncut : wake.cutOff = none) (same : after.ticket = state.ticket) (full : wake.redirect ≠ none →
        ¬ followed.length < redirectLimit) (none : ∀ ticket, ¬ Brings wake wake.ticketReply ticket) :
      Move wake state (.loggingIn next followed) (after, .inr (.error error))
  | granted (next : Option Transport) (followed : List Redirect) (after : ClientState) (ticket : Ticket)
      (uncut : wake.cutOff = none) (stored : after.ticket = some ticket) (brings : Brings wake wake.ticketReply ticket) :
      Move wake state (.loggingIn next followed) (after, loggedIn next)
  | reads (transport : Transport) (ticket : Ticket) (uncut : wake.cutOff = none) (held : state.ticket = some ticket) :
      Move wake state (.holding transport) (state, .inl (.sending transport ticket))
  | misses (transport : Transport) (uncut : wake.cutOff = none) (missing : state.ticket = none) :
      Move wake state (.holding transport) (state, .inr (.error ticketMissing))
  | sends (transport : Transport) (ticket : Ticket) (uncut : wake.cutOff = none) :
      Move wake state (.sending transport ticket) (state, .inl (.waiting transport ticket []))
  | sendsOn (transport : Transport) (ticket : Ticket) (followed : List Redirect) (redirect : Redirect)
      (uncut : wake.cutOff = none) (sentOn : wake.redirect = some redirect) (room : followed.length < redirectLimit) :
      Move wake state (.waiting transport ticket followed)
        (state, .inl (.waiting transport ticket (followed ++ [redirect])))
  | fails (transport : Transport) (ticket : Ticket) (followed : List Redirect) (after : ClientState) (error : AppError)
      (uncut : wake.cutOff = none) (same : after.ticket = state.ticket) (full : wake.redirect ≠ none →
        ¬ followed.length < redirectLimit) (none : ∀ data, ¬ Brings wake wake.reply data) :
      Move wake state (.waiting transport ticket followed) (after, .inr (.error error))
  | answered (transport : Transport) (ticket : Ticket) (followed : List Redirect) (after : ClientState) (data : Json)
      (uncut : wake.cutOff = none) (same : after.ticket = state.ticket) (brings : Brings wake wake.reply data) :
      Move wake state (.waiting transport ticket followed) (after, .inr (.ok (some data)))

theorem brings_nothing {α : Type} (wake : Wake) (reply : Reply α) (ended : reply.silent = true ∨ reply.refused = true)
    (value : α) : ¬ Brings wake reply value := by
  rintro ⟨_, status, rfl, success⟩
  rcases ended with silent | refused
  · cases silent
  · simp [Reply.refused, success] at refused

theorem redirected_brings {α : Type} (wake : Wake) (reply : Reply α) (redirect : Redirect)
    (sentOn : wake.redirect = some redirect) (value : α) : ¬ Brings wake reply value := by
  rintro ⟨ends, _⟩
  rw [sentOn] at ends
  cases ends

theorem logging_in_move (wake : Wake) (state : ClientState) (next : Option Transport) (followed : List Redirect)
    (uncut : wake.cutOff = none) :
    Move wake state (.loggingIn next followed) (goesOn (.loggingIn next followed) wake state) := by
  unfold goesOn follow
  cases sentOn : wake.redirect with
  | some redirect =>
      by_cases room : followed.length < redirectLimit
      · simp only [if_pos room]
        exact .postsOn next followed redirect uncut sentOn room
      · simp only [if_neg room]
        exact .unticketed next followed _ _ uncut rfl (fun _ => room) (redirected_brings wake _ redirect sentOn)
  | none =>
      have unfull : wake.redirect ≠ none → ¬ followed.length < redirectLimit := fun other => absurd sentOn other
      rcases login_answered_cases next wake.toHeard state with ⟨error, silent, _, same⟩ | ⟨error, _, refused, same⟩ |
        ⟨ticket, answered, accepted, same, reply⟩
      · simp only [same]
        exact .unticketed next followed _ error uncut rfl unfull (brings_nothing wake _ (Or.inl silent))
      · simp only [same]
        exact .unticketed next followed _ error uncut rfl unfull (brings_nothing wake _ (Or.inr refused))
      · simp only [same]
        exact .granted next followed _ ticket uncut rfl ⟨sentOn, reply⟩

theorem waiting_move (wake : Wake) (state : ClientState) (transport : Transport) (ticket : Ticket) (followed : List Redirect)
    (uncut : wake.cutOff = none) :
    Move wake state (.waiting transport ticket followed) (goesOn (.waiting transport ticket followed) wake state) := by
  unfold goesOn follow
  cases sentOn : wake.redirect with
  | some redirect =>
      by_cases room : followed.length < redirectLimit
      · simp only [if_pos room]
        exact .sendsOn transport ticket followed redirect uncut sentOn room
      · simp only [if_neg room]
        exact .fails transport ticket followed _ _ uncut rfl (fun _ => room) (redirected_brings wake _ redirect sentOn)
  | none =>
      have unfull : wake.redirect ≠ none → ¬ followed.length < redirectLimit := fun other => absurd sentOn other
      rcases own_answered_cases transport wake.toHeard state with ⟨error, silent, _, same⟩ | ⟨error, _, refused, same⟩ |
        ⟨data, answered, accepted, same, reply⟩
      · simp only [same]
        exact .fails transport ticket followed _ error uncut rfl unfull (brings_nothing wake _ (Or.inl silent))
      · simp only [same]
        exact .fails transport ticket followed _ error uncut rfl unfull (brings_nothing wake _ (Or.inr refused))
      · simp only [same]
        exact .answered transport ticket followed _ data uncut rfl ⟨sentOn, reply⟩

theorem client_move (call : ClientCall) (wake : Wake) (state : ClientState) :
    Move wake state call (advanceClient call wake state) := by
  rw [advanceClient]
  cases uncut : wake.cutOff with
  | some message => exact .cutOff call message uncut
  | none =>
      cases call with
      | checking transport =>
          simp only [goesOn]
          cases stale : shouldRefresh wake.now state.ticket with
          | true => exact .refreshes transport uncut
          | false =>
              obtain ⟨ticket, held⟩ := should_refresh_absent wake.now state.ticket stale
              exact .passes transport ticket uncut held (held ▸ stale)
      | asking next => exact .posts next uncut
      | loggingIn next followed => exact logging_in_move wake state next followed uncut
      | holding transport =>
          simp only [goesOn, readTicket]
          cases held : state.ticket with
          | none => exact .misses transport uncut held
          | some ticket => exact .reads transport ticket uncut held
      | sending transport ticket => exact .sends transport ticket uncut
      | waiting transport ticket followed => exact waiting_move wake state transport ticket followed uncut

structure HttpRequest where
  verb : Verb
  url : String
  params : Params
  cookie : Option String
  csrf : Option String
deriving DecidableEq, Repr

def loginRequest (base : String) : HttpRequest :=
  { verb := .post, url := base ++ "/api2/json/access/ticket", params := [], cookie := none, csrf := none }

def Transport.request (base : String) (ticket : Ticket) (transport : Transport) : HttpRequest :=
  { verb := transport.verb, url := buildUrl base transport.path, params := transport.params
    cookie := some ("PVEAuthCookie=" ++ ticket.ticket)
    csrf := if transport.csrf then some ticket.csrfToken else none }

def HttpRequest.redirected (request : HttpRequest) (redirect : Redirect) : HttpRequest :=
  { verb := if redirect.keepsVerb then request.verb else .get, url := redirect.url, params := []
    cookie := if redirect.sameHost then request.cookie else none, csrf := request.csrf }

-- The request that a step puts on the wire: it leaves the call waiting for the answer.
def sent (base : String) (step : ClientStep) : Option HttpRequest :=
  match step.left with
  | .inl (.loggingIn _ followed) => some (followed.foldl HttpRequest.redirected (loginRequest base))
  | .inl (.waiting transport ticket followed) =>
      some (followed.foldl HttpRequest.redirected (transport.request base ticket))
  | _ => none

end Moxui.Proxmox
