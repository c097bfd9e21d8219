import Moxui.Api.ReadIsolation
import Moxui.Api.RoleFloor
import Moxui.Api.VncTokens

set_option autoImplicit false

namespace Moxui.Api

open Moxui.Auth (Claims VncCrypto VncTokenClaims mintVncToken verifyVncToken)

-- What a token says, whoever signed it.
def tokenPayload (token : String) : Option (List UInt8) :=
  (Text.splitOnce '.' token).bind fun parts => Base64.decode parts.1

section Payloads

variable (crypto : VncCrypto)

theorem minted_payload (secret : List UInt8) (claims : VncTokenClaims) (token : String)
    (minted : mintVncToken crypto secret claims = .ok token) :
    ∃ payload, tokenPayload token = some payload ∧ crypto.toVec claims = .ok payload := by
  obtain ⟨payload, written, afterPayload⟩ := except_bind_ok _ _ _ minted
  obtain ⟨tag, _, made⟩ := except_bind_ok _ _ _ afterPayload
  refine ⟨payload, ?_, ?_⟩
  · have split : Text.splitOnce '.' token = some (Base64.encode payload, Base64.encode tag) := by
      rw [← Except.ok.inj made]
      exact Text.split_once_joined '.' _ _ (Auth.dotless payload)
    rw [tokenPayload, split, Option.bind_some, Base64.decode_encode]
  · cases toVec : crypto.toVec claims with
    | error reason =>
        rw [toVec] at written
        cases written
    | ok bytes =>
        rw [toVec] at written
        cases written
        rfl

theorem bytes_ok (text : String) (bytes : List UInt8) (read : Auth.vncBytes text = .ok bytes) :
    Base64.decode text = some bytes := by
  unfold Auth.vncBytes at read
  split at read
  · rename_i found decoded
    rw [decoded, Except.ok.inj read]
  · cases read

theorem verified_payload (now : UInt64) (secret : List UInt8) (token : String) (claims : VncTokenClaims)
    (verified : verifyVncToken crypto now secret token = .ok claims) :
    ∃ payload, tokenPayload token = some payload ∧ crypto.fromSlice payload = .ok claims ∧ now < claims.exp := by
  unfold verifyVncToken at verified
  cases parts : Text.splitOnce '.' token with
  | none =>
      rw [parts] at verified
      cases verified
  | some pair =>
      obtain ⟨first, second⟩ := pair
      simp only [parts] at verified
      obtain ⟨payload, readPayload, afterPayload⟩ := except_bind_ok _ _ _ verified
      obtain ⟨tag, _, afterTag⟩ := except_bind_ok _ _ _ afterPayload
      obtain ⟨expected, _, afterExpected⟩ := except_bind_ok _ _ _ afterTag
      by_cases signed : tag = expected
      · rw [if_pos signed] at afterExpected
        obtain ⟨found, parsed, judged⟩ := except_bind_ok _ _ _ afterExpected
        by_cases expired : found.exp ≤ now
        · rw [if_pos expired] at judged
          cases judged
        · rw [if_neg expired] at judged
          cases judged
          refine ⟨payload, ?_, ?_, UInt64.not_le.mp expired⟩
          · rw [tokenPayload, parts, Option.bind_some]
            exact bytes_ok _ _ readPayload
          · cases slice : crypto.fromSlice payload with
            | error reason =>
                rw [slice] at parsed
                cases parsed
            | ok other =>
                rw [slice] at parsed
                cases parsed
                rfl
      · rw [if_neg signed] at afterExpected
        cases afterExpected

theorem same_payload_claims (readsBack : crypto.ReadsBack) (now : UInt64) (secret other : List UInt8)
    (given token : String) (made claims : VncTokenClaims) (minted : mintVncToken crypto other made = .ok given)
    (verified : verifyVncToken crypto now secret token = .ok claims) (same : tokenPayload given = tokenPayload token) :
    claims = made ∧ now < made.exp := by
  obtain ⟨payload, said, written⟩ := minted_payload crypto other made given minted
  obtain ⟨shown, heard, parsed, alive⟩ := verified_payload crypto now secret token claims verified
  rw [said, heard, Option.some.injEq] at same
  subst same
  have isMade := readsBack.json made payload written
  rw [parsed, Except.ok.injEq] at isMade
  subst isMade
  exact ⟨rfl, alive⟩

end Payloads

structure TimedArrival where
  request : Request
  env : ServeEnv
  oracle : Oracle
  now : UInt64

section Layers

variable {ρ : Type} (decode : String → Except String Claims) (state : AppState ρ) (request : Request)

structure Cleared (entry : Entry) (claims : Claims) (cluster : String) : Prop where
  entered : (dispatch decode state request).outcome = .ok entry
  admitted : Admitted decode request claims
  known : entry.request = request.withClaims claims
  named : extractClusterFromPath request.path = some cluster
  allowed : state.auth.users.userCanAccessCluster claims.username cluster = true

theorem cleared_of_entered (libs : ApiLibs) (inner : Inner ρ) (entry : Entry)
    (entered : (dispatch decode state request).outcome = .ok entry) (command : CommandHandler ρ)
    (single : commandHandler libs inner entry.handler = some command) (checked : entry.handler ∉ haGroupHandlers) :
    ∃ claims cluster, Cleared decode state request entry claims cluster := by
  rcases (dispatch_iff decode state request entry).mp entered with ⟨_, fallback⟩ | ⟨route, found, method, passes⟩
  · rw [fallback] at single
    cases single
  · have member := (find_route_some _ _ _ _ found).1
    have listed := method_handler_member _ _ _ method
    have layers : route.layers = [.requireAuth, .requireClusterAccess] := by
      rcases command_layers libs inner route member entry.handler listed command single with both | ⟨haGroup, _⟩
      · exact both
      · exact absurd haGroup checked
    cases authenticated : requireAuth decode request with
    | error response =>
        simp only [layers, runLayers, applyLayer, authenticated] at passes
        cases passes
    | ok passed =>
        obtain ⟨claims, admitted, isPassed⟩ := require_auth_ok decode request passed authenticated
        subst isPassed
        obtain ⟨known, access⟩ :=
          (layers_pass_iff decode state request claims route entry.request authenticated (Or.inr layers)).mp passes
        obtain ⟨cluster, named, allowed⟩ := access (by rw [layers]; simp)
        exact ⟨claims, cluster, entered, admitted, known, named, allowed⟩

end Layers

section Bodies

theorem handed_out_secured (response : Response) : handedOut (secured response) = handedOut response := by
  unfold handedOut
  rw [secured_body]

variable {ρ : Type} (decode : String → Except String Claims) (handlers : Entry → AppState ρ → Program (AppState ρ × Response))

theorem serve_handed_out (arrival : TimedArrival) (state : AppState ρ) (token : String)
    (handed : handedOut (Dialogue.run arrival.oracle []
      (serve decode handlers arrival.env arrival.request state)).2.2 = some token) :
    handedOut (Dialogue.run arrival.oracle [] (router decode handlers arrival.request state)).2.2 = some token := by
  unfold serve securityHeadersMiddleware cors rateLimit auditMiddleware at handed
  by_cases preflight : arrival.request.method = .options
  · simp only [preflight, if_true, Dialogue.bind_done, Dialogue.run_done, handed_out_secured] at handed
    cases handed
  · cases limited : arrival.env.limited with
    | true =>
        simp only [preflight, limited, if_false, if_true, Dialogue.bind_done, Dialogue.run_done,
          handed_out_secured] at handed
        cases handed
    | false =>
        simp only [preflight, limited, if_false, Bool.false_eq_true, Dialogue.run_bind, Dialogue.run_done,
          handed_out_secured] at handed
        unfold audited at handed
        dsimp only at handed
        split at handed <;> exact handed

end Bodies

section Consoles

variable {ρ : Type} (decode : String → Except String Claims) (crypto : VncCrypto) (libs : ApiLibs) (inner : Inner ρ)

def timedMachine :
    Machine (AppState ρ) TimedArrival (List (Dialogue.Exchange Upstream Answer) × Response) where
  step state arrival :=
    let served := Dialogue.run arrival.oracle []
      (serve decode (handle (libs.withVnc crypto arrival.now) inner) arrival.env arrival.request state)
    (served.2.1, (served.1, served.2.2))

abbrev TimedEvent (ρ : Type) :=
  Machine.Event (AppState ρ) TimedArrival (List (Dialogue.Exchange Upstream Answer) × Response)

structure Issued (past : TimedEvent ρ) (entry : Entry) (path : VmPath) (token : String) : Prop where
  entered : (dispatch decode past.before past.input.request).outcome = .ok entry
  ticket : entry.handler = .vncTicketHandler
  read : vmPath libs entry = .ok path
  handed : handedOut past.output.2 = some token

-- Nobody makes up a tag: what a token says that verifies, a token said that was issued.
def Unforged (events : List (TimedEvent ρ)) : Prop :=
  ∀ earlier occurrence later, events = earlier ++ occurrence :: later →
    ∀ entry, (dispatch decode occurrence.before occurrence.input.request).outcome = .ok entry →
    ∀ token secret claims, libs.vncWsQuery entry.request = .ok token → occurrence.before.vncSecret = some secret →
      verifyVncToken crypto occurrence.input.now secret token = .ok claims →
      ∃ past ∈ earlier, ∃ entry path given, Issued decode libs past entry path given ∧
        tokenPayload given = tokenPayload token

theorem ticket_granted (now : UInt64) (entry : Entry) (oracle : Oracle) (state : AppState ρ) (path : VmPath)
    (token : String) (named : vmPath libs entry = .ok path)
    (handed : handedOut (ticketResponse crypto libs now entry oracle state) = some token) :
    HasRole entry .operator ∧ ∃ secret, state.vncSecret = some secret := by
  have samePath : vmPath (libs.withVnc crypto now) entry = .ok path := named
  cases caller : authContext entry with
  | error refusal =>
      simp only [ticketResponse, runCommand, vncTicketHandler, caller, bind, Except.bind, Dialogue.run_done,
        refusal_hands_nothing entry refusal caller] at handed
      cases handed
  | ok auth =>
      simp only [ticketResponse, runCommand, vncTicketHandler, caller, samePath, bind, Except.bind, Command.run] at handed
      cases permitted : operatorOr "operator role required for vnc" auth with
      | error refused =>
          simp only [permitted, Dialogue.run_done] at handed
          cases handed
      | ok passed =>
          cases configured : state.vncSecret with
          | none =>
              simp only [permitted, configured, Option.isSome_none, Bool.false_eq_true, if_false,
                Dialogue.run_done] at handed
              cases handed
          | some secret => exact ⟨⟨auth, caller, operator_or_ok _ auth permitted⟩, secret, rfl⟩

theorem issued_minted (state : AppState ρ) (arrival : TimedArrival) (entry : Entry) (path : VmPath) (token : String)
    (issued : Issued decode libs ((timedMachine decode crypto libs inner).event state arrival) entry path token) :
    HasRole entry .operator ∧
      ∃ secret, mintVncToken crypto secret (vncClaims arrival.now (vncSubject path)) = .ok token := by
  have handed : handedOut (ticketResponse crypto libs arrival.now entry arrival.oracle state) = some token := by
    have routed := serve_handed_out decode _ arrival state token issued.handed
    have outcome : (dispatch decode state arrival.request).outcome = .ok entry := issued.entered
    rw [router, outcome] at routed
    rw [ticketResponse]
    have single : handle (libs.withVnc crypto arrival.now) inner entry state =
        runCommand (fun entry => vncTicketHandler (libs.withVnc crypto arrival.now) entry) entry state := by
      rw [handle, issued.ticket]
      rfl
    rw [← single]
    exact routed
  obtain ⟨operator, secret, configured⟩ :=
    ticket_granted crypto libs arrival.now entry arrival.oracle state path token issued.read handed
  exact ⟨operator, secret,
    handed_out_minted crypto libs arrival.now entry arrival.oracle state path secret token issued.read configured handed⟩

theorem console_verified (state : AppState ρ) (arrival : TimedArrival) (entry : Entry)
    (entered : (dispatch decode state arrival.request).outcome = .ok entry) (console : entry.handler = .vncWsHandler)
    (exchange : Dialogue.Exchange Upstream Answer)
    (heard : exchange ∈ ((timedMachine decode crypto libs inner).event state arrival).output.1) :
    ∃ path token secret claims, vmPath libs entry = .ok path ∧
      exchange.1 = ⟨path.cluster, .vncProxy path.node path.vmid⟩ ∧ libs.vncWsQuery entry.request = .ok token ∧
      state.vncSecret = some secret ∧ verifyVncToken crypto arrival.now secret token = .ok claims ∧
      claims.sub = vncSubject path := by
  have answered : ∀ upstream, Nonempty (Answer upstream) := fun upstream => ⟨.ok .null⟩
  have ran : exchange ∈ (Dialogue.run arrival.oracle []
      (serve decode (handle (libs.withVnc crypto arrival.now) inner) arrival.env arrival.request state)).1 := heard
  have called := (Dialogue.calls_iff_run _ exchange.1).mpr ⟨arrival.oracle, exchange.2, ran⟩
  obtain ⟨_, _, other, otherEntered, sends⟩ := (serve_calls state decode arrival.env arrival.request _ exchange.1).mp called
  rw [entered, Except.ok.injEq] at otherEntered
  subst otherEntered
  have single : handle (libs.withVnc crypto arrival.now) inner entry state =
      runCommand (fun entry => vncWsHandler (libs.withVnc crypto arrival.now) entry inner.tryAcquire) entry state := by
    rw [handle, console]
    rfl
  rw [single] at sends
  obtain ⟨command, read, ⟨checks, sent⟩, _, cluster⟩ := (run_command_calls state entry _ exchange.1).mp sends
  obtain ⟨path, isPath, afterPath⟩ := except_bind_ok _ _ _ read
  obtain ⟨token, carried, afterToken⟩ := except_bind_ok _ _ _ afterPath
  obtain ⟨upgrade, _, made⟩ := except_bind_ok _ _ _ afterToken
  cases made
  cases configured : state.vncSecret with
  | none =>
      rw [configured] at checks
      cases checks
  | some secret =>
      simp only [configured] at checks
      cases verified : verifyVncToken crypto arrival.now secret token with
      | error error =>
          simp only [ApiLibs.withVnc, verified, Except.map, reduceCtorEq] at checks
      | ok claims =>
          simp only [ApiLibs.withVnc, verified, Except.map] at checks
          refine ⟨path, token, secret, claims, isPath, ?_, carried, rfl, verified, ?_⟩
          · obtain ⟨⟨name, call⟩, answer⟩ := exchange
            cases sent
            cases cluster
            rfl
          · by_contra different
            rw [if_neg different] at checks
            cases checks

-- The ticket that stands behind a console: answered to an operator who may use its cluster, for a
-- VM of the same subject, less than five minutes before.
structure Backs (past : TimedEvent ρ) (now : UInt64) (path : VmPath) (entry : Entry) (claims : Claims)
    (cluster : String) (ticketPath : VmPath) : Prop where
  cleared : Cleared decode past.before past.input.request entry claims cluster
  operator : HasRole entry .operator
  read : vmPath libs entry = .ok ticketPath
  same : ticketPath = path ∨ Shifted ticketPath path ∨ Shifted path ticketPath
  recent : now < past.input.now + 300

theorem issued_backs (readsBack : crypto.ReadsBack) (state : AppState ρ) (arrival : TimedArrival) (entry : Entry)
    (ticketPath path : VmPath) (given token : String)
    (issued : Issued decode libs ((timedMachine decode crypto libs inner).event state arrival) entry ticketPath given)
    (now : UInt64) (secret : List UInt8) (claims : VncTokenClaims)
    (verified : verifyVncToken crypto now secret token = .ok claims) (subject : claims.sub = vncSubject path)
    (same : tokenPayload given = tokenPayload token) :
    ∃ holder cluster, Backs decode libs ((timedMachine decode crypto libs inner).event state arrival) now path entry
      holder cluster ticketPath := by
  obtain ⟨operator, other, minted⟩ := issued_minted decode crypto libs inner state arrival entry ticketPath given issued
  obtain ⟨made, alive⟩ := same_payload_claims crypto readsBack now secret other given token _ claims minted verified same
  obtain ⟨holder, cluster, cleared⟩ := cleared_of_entered decode state arrival.request libs inner entry issued.entered
    (vncTicketHandler libs) (by rw [issued.ticket]; rfl) (by rw [issued.ticket]; decide)
  refine ⟨holder, cluster, cleared, operator, issued.read, ?_, alive⟩
  apply (vnc_subject_same ticketPath path).mp
  rw [← subject, made]
  rfl

end Consoles

def knowsBob (token : String) : Except String Claims :=
  if token = "bob" then .ok bobClaims else .error "invalid token"

def asBob (method : HttpMethod) (path : String) (query : Option String) (now : UInt64) : TimedArrival :=
  { request := { method, path, query, headers := [("authorization", Text.bytes "Bearer bob")], body := [], claims := none }
    env := quietEnv
    oracle := vncPort
    now }

def asksTicket : TimedArrival :=
  asBob .post "/api/v1/vms/prod:eu/pve1/100/vnc/ticket" none 1000

def opensConsole : TimedArrival :=
  asBob .get "/api/v1/vms/prod:eu/pve1/100/vnc/ws" (some ("vnc_token=" ++ regionToken)) 1100

def queryLibs : ApiLibs :=
  { regionLibs with
    vncWsQuery := fun request =>
      if request.query = some ("vnc_token=" ++ regionToken) then .ok regionToken
      else .error (textResponse 400 "Failed to deserialize query string: missing field vnc_token") }

def bobsServer : Machine (AppState Unit) TimedArrival (List (Dialogue.Exchange Upstream Answer) × Response) :=
  timedMachine knowsBob regionCrypto queryLibs bareInner

def afterTicket : AppState Unit :=
  (bobsServer.step regionServer asksTicket).1

def ticketEvent : TimedEvent Unit :=
  bobsServer.event regionServer asksTicket

def consoleEvent : TimedEvent Unit :=
  bobsServer.event afterTicket opensConsole

def enteredOf (event : TimedEvent Unit) : Option Entry :=
  (dispatch knowsBob event.before event.input.request).outcome.toOption

theorem entered_iff (event : TimedEvent Unit) (entry : Entry) :
    (dispatch knowsBob event.before event.input.request).outcome = .ok entry ↔ enteredOf event = some entry := by
  unfold enteredOf
  cases (dispatch knowsBob event.before event.input.request).outcome with
  | error response => simp [Except.toOption]
  | ok found => simp [Except.toOption]

theorem ticket_issued : ∃ entry path, Issued knowsBob queryLibs ticketEvent entry path regionToken := by
  have handler : (enteredOf ticketEvent).map Entry.handler = some .vncTicketHandler := by decide +kernel
  have readable : ((enteredOf ticketEvent).bind fun entry => (vmPath queryLibs entry).toOption).isSome = true := by
    decide +kernel
  obtain ⟨entry, found, isTicket⟩ := Option.map_eq_some_iff.mp handler
  rw [found, Option.bind_some] at readable
  cases read : vmPath queryLibs entry with
  | error response =>
      rw [read] at readable
      cases readable
  | ok path => exact ⟨entry, path, (entered_iff ticketEvent entry).mpr found, isTicket, read, by decide +kernel⟩

theorem bob_unforged : Unforged knowsBob regionCrypto queryLibs [ticketEvent, consoleEvent] := by
  intro earlier occurrence later split entry entered token secret claims carried configured verified
  match earlier with
  | [] =>
      obtain ⟨rfl, _⟩ := List.cons.inj split
      have silent : (enteredOf ticketEvent).map (fun entry => (queryLibs.vncWsQuery entry.request).toOption) = some none := by
        decide +kernel
      rw [(entered_iff ticketEvent entry).mp entered, Option.map_some, carried] at silent
      cases silent
  | [first] =>
      obtain ⟨rfl, rest⟩ := List.cons.inj split
      obtain ⟨rfl, _⟩ := List.cons.inj rest
      have shown : (enteredOf consoleEvent).map (fun entry => (queryLibs.vncWsQuery entry.request).toOption) =
          some (some regionToken) := by
        decide +kernel
      rw [(entered_iff consoleEvent entry).mp entered, Option.map_some, carried] at shown
      cases shown
      obtain ⟨ticket, path, issued⟩ := ticket_issued
      exact ⟨ticketEvent, List.mem_singleton_self _, ticket, path, regionToken, issued, rfl⟩
  | first :: second :: more =>
      have lengths := congrArg List.length split
      simp at lengths

end Moxui.Api
