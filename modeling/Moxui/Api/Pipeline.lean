import Moxui.Api.Router
import Moxui.Auth.Handlers
import Moxui.Lib.Dialogue
import Moxui.Proxmox.Client

set_option autoImplicit false

namespace Moxui.Api

open Moxui.Auth (Claims UserStore)
open Moxui.Proxmox (ProxmoxCall)

-- A float is given by its bits.
inductive Number where
  | posInt (value : UInt64)
  | negInt (value : Int64)
  | float (bits : UInt64)
deriving DecidableEq, Repr

inductive Json where
  | null
  | bool (value : Bool)
  | num (value : Number)
  | str (value : String)
  | arr (items : List Json)
  | obj (fields : List (String × Json))

def Json.nat (value : Nat) : Json :=
  .num (.posInt (UInt64.ofNat value))

def Json.get (json : Json) (key : String) : Option Json :=
  match json with
  | .obj fields => fields.lookup key
  | _ => none

def Json.asStr : Json → Option String
  | .str text => some text
  | _ => none

inductive ResponseBody where
  | empty
  | text (content : String)
  | json (value : Json)

structure Response where
  status : Nat
  headers : List (String × String)
  body : ResponseBody

def textResponse (status : Nat) (content : String) : Response :=
  { status := status, headers := [], body := .text content }

def jsonResponse (status : Nat) (value : Json) : Response :=
  { status := status, headers := [("content-type", "application/json")], body := .json value }

inductive AppError where
  | notFound (text : String)
  | badRequest (text : String)
  | unauthorized (reason : String)
  | forbidden (reason : String)
  | conflict (text : String)
  | tooManyRequests (text : String)
  | proxmox (text : String)
  | database (text : String)
  | config (text : String)
  | internal (text : String)
deriving DecidableEq, Repr

def AppError.display : AppError → String
  | .notFound text => "Not found: " ++ text
  | .badRequest text => "Bad request: " ++ text
  | .unauthorized reason => "Unauthorized: " ++ reason
  | .forbidden reason => "Forbidden: " ++ reason
  | .conflict text => "Conflict: " ++ text
  | .tooManyRequests text => "Too many requests: " ++ text
  | .proxmox text => "Proxmox error: " ++ text
  | .database text => "Database error: " ++ text
  | .config text => "Configuration error: " ++ text
  | .internal text => "Internal error: " ++ text

def AppError.status : AppError → Nat
  | .notFound _ => 404
  | .badRequest _ => 400
  | .unauthorized _ => 401
  | .forbidden _ => 403
  | .conflict _ => 409
  | .tooManyRequests _ => 429
  | .proxmox _ | .database _ | .config _ | .internal _ => 500

-- What a caller gets to see of it: the reasons of refusals and internal errors stay inside.
def AppError.message : AppError → String
  | .unauthorized _ => "Unauthorized"
  | .forbidden _ => "Forbidden"
  | .proxmox _ | .database _ | .config _ | .internal _ => "Internal server error"
  | error => error.display

def AppError.intoResponse (error : AppError) : Response :=
  jsonResponse error.status (.obj [("error", .str error.message)])

-- `claims` is the one request extension that matters here; it is empty when a request arrives.
structure Request where
  method : HttpMethod
  path : String
  query : Option String
  headers : List (String × List UInt8)
  body : List UInt8
  claims : Option Claims

def Request.header (request : Request) (name : String) : Option (List UInt8) :=
  request.headers.lookup name

structure AuditEntry where
  ts : Int
  requestId : String
  method : String
  path : String
  status : Nat
  durationMs : Nat
  remoteAddr : Option String
  userAgent : Option String
  userId : Option String
deriving DecidableEq, Repr

structure ProxmoxClient where
  name : String
  url : String
deriving DecidableEq, Repr

-- `rest` is whatever else the server keeps: the readiness cache, the VNC limiters, the custom
-- dashboards, metrics, webhooks and plugins.
structure AppState (ρ : Type) where
  clients : List ProxmoxClient
  auth : Auth.AuthState
  vncSecret : Option (List UInt8)
  rest : ρ
  audit : List AuditEntry

def AppState.client {ρ : Type} (state : AppState ρ) (name : String) : Option ProxmoxClient :=
  state.clients.find? fun client => client.name == name

structure Upstream where
  cluster : String
  call : ProxmoxCall

-- The `data` of an answer as the client decodes it, or what went wrong.
abbrev Answer : Upstream → Type :=
  fun _ => Except AppError Json

abbrev Program (α : Type) : Type :=
  Dialogue Upstream Answer α

abbrev Oracle : Type :=
  Dialogue.Oracle Upstream Answer

abbrev Service (ρ : Type) : Type :=
  Request → AppState ρ → Program (AppState ρ × Response)

def unauthorized (message : String) : Response :=
  textResponse 401 message

def forbidden (message : String) : Response :=
  textResponse 403 message

def visibleAscii (byte : UInt8) : Bool :=
  (32 ≤ byte && byte < 127) || byte == 9

-- `HeaderValue::to_str`.
def headerText (value : List UInt8) : Option String :=
  if value.all visibleAscii then some (String.ofList (value.map fun byte => Char.ofNat byte.toNat)) else none

def stripPrefix (start text : String) : Option String :=
  if start.toList.isPrefixOf text.toList then some (String.ofList (text.toList.drop start.length)) else none

def extractBearer (request : Request) : Except Response String :=
  match request.header "authorization" with
  | none => .error (unauthorized "missing Authorization header")
  | some value =>
      match headerText value with
      | none => .error (unauthorized "malformed Authorization header")
      | some header =>
          match stripPrefix "Bearer " header with
          | none => .error (unauthorized "Authorization must be Bearer scheme")
          | some token =>
              if token = "" then .error (unauthorized "empty Bearer token") else .ok token

structure AuthContext where
  claims : Claims
deriving DecidableEq, Repr

def AuthContext.fromRequestParts (request : Request) : Except Response AuthContext :=
  match request.claims with
  | some claims => .ok ⟨claims⟩
  | none => .error (unauthorized "auth context missing — require_auth middleware not applied")

-- Empty segments do not count, and segments are not decoded.
def extractClusterFromPath (path : String) : Option String :=
  match ((path.toList.splitOn '/').filter (· ≠ [])).map String.ofList with
  | "api" :: "v1" :: _ :: cluster :: _ => some cluster
  | _ => none

section Pipeline

variable {ρ : Type} (decode : String → Except String Claims)

def requireAuth (request : Request) : Except Response Request :=
  match extractBearer request with
  | .error response => .error response
  | .ok token =>
      match decode token with
      | .ok claims => .ok { request with claims := some claims }
      | .error _ => .error (unauthorized "Invalid or expired token")

def requireClusterAccess (users : UserStore) (request : Request) : Except Response Request :=
  match request.claims with
  | none =>
      .error (unauthorized "auth context missing — require_auth must precede require_cluster_access")
  | some claims =>
      match extractClusterFromPath request.path with
      | none => .error (textResponse 400 "No cluster specified in request path")
      | some cluster =>
          if users.userCanAccessCluster claims.username cluster then .ok request
          else .error (forbidden ("Access denied to cluster '" ++ cluster ++ "'"))

def applyLayer (state : AppState ρ) (layer : RouteLayer) (request : Request) : Except Response Request :=
  match layer with
  | .requireAuth => requireAuth decode request
  | .requireClusterAccess => requireClusterAccess state.auth.users request

def runLayers (state : AppState ρ) : List RouteLayer → Request → List (RouteLayer × Request) × Except Response Request
  | [], request => ([], .ok request)
  | layer :: layers, request =>
      match applyLayer decode state layer request with
      | .error response => ([(layer, request)], .error response)
      | .ok passed => ((layer, request) :: (runLayers state layers passed).1, (runLayers state layers passed).2)

structure Entry where
  handler : Handler
  params : PathParams
  request : Request

structure Routed where
  ran : List (RouteLayer × Request)
  outcome : Except Response Entry

def methodNotAllowed : Response :=
  { status := 405, headers := [], body := .empty }

def methodEndpoint (route : Route) (params : PathParams) (method : HttpMethod) (passed : Request) :
    Except Response Entry :=
  match methodHandler route.methods method with
  | none => .error methodNotAllowed
  | some handler => .ok ⟨handler, params, passed⟩

-- The layers of a router wrap the whole of a route, its answer to other methods too. What no
-- route matches goes to the fallback of the UI.
def dispatch (state : AppState ρ) (request : Request) : Routed :=
  match findRoute request.path routes with
  | none => ⟨[], .ok ⟨.serveIndex, [], request⟩⟩
  | some (route, params) =>
      let ran := runLayers decode state route.layers request
      ⟨ran.1, ran.2.bind (methodEndpoint route params request.method)⟩

-- What a request brings along besides itself: the verdict of the rate limiter, and what the
-- audit record is made from.
structure ServeEnv where
  limited : Bool
  now : Int
  generatedId : String
  durationMs : Nat
  auditWritten : Bool

variable (handlers : Entry → AppState ρ → Program (AppState ρ × Response)) (env : ServeEnv)

def router : Service ρ := fun request state =>
  match (dispatch decode state request).outcome with
  | .error response => .done (state, response)
  | .ok entry => handlers entry state

def HttpMethod.asStr : HttpMethod → String
  | .get => "GET"
  | .head => "HEAD"
  | .post => "POST"
  | .put => "PUT"
  | .delete => "DELETE"
  | .patch => "PATCH"
  | .options => "OPTIONS"
  | .connect => "CONNECT"
  | .trace => "TRACE"
  | .extension name => name

def isStateChanging (method : HttpMethod) : Bool :=
  method ∈ [.post, .put, .patch, .delete]

def extractHeader (request : Request) (name : String) : Option String :=
  (request.header name).bind headerText

def requestIdHeader : String :=
  "x-request-id"

def requestId (request : Request) : String :=
  (extractHeader request requestIdHeader).getD env.generatedId

def auditEntry (request : Request) (status : Nat) : AuditEntry :=
  { ts := env.now, requestId := requestId env request, method := HttpMethod.asStr request.method, path := request.path
    status := status, durationMs := env.durationMs
    remoteAddr := (extractHeader request "x-forwarded-for").or (extractHeader request "x-real-ip")
    userAgent := extractHeader request "user-agent"
    userId := request.claims.map fun claims => claims.sub }

def setHeader (name value : String) (response : Response) : Response :=
  { response with headers := (response.headers.filter fun header => header.1 ≠ name) ++ [(name, value)] }

def shouldLog (request : Request) (status : Nat) : Bool :=
  isStateChanging request.method || !(200 ≤ status && status < 300)

def audited (request : Request) (served : AppState ρ × Response) : AppState ρ × Response :=
  let response := setHeader requestIdHeader (requestId env request) served.2
  if shouldLog request served.2.status && env.auditWritten then
    ({ served.1 with audit := served.1.audit ++ [auditEntry env request served.2.status] }, response)
  else (served.1, response)

def auditMiddleware (inner : Service ρ) : Service ρ := fun request state =>
  (inner request state).bind fun served => .done (audited env request served)

def rateLimit (inner : Service ρ) : Service ρ := fun request state =>
  if env.limited then .done (state, textResponse 429 "rate limit exceeded") else inner request state

-- The CORS layer answers every OPTIONS request itself, as a preflight.
def cors (inner : Service ρ) : Service ρ := fun request state =>
  if request.method = .options then .done (state, { status := 200, headers := [], body := .empty })
  else inner request state

def addHeader (header : String × String) (response : Response) : Response :=
  if response.headers.any fun present => present.1 == header.1 then response
  else { response with headers := response.headers ++ [header] }

def securityHeaders : List (String × String) :=
  [("strict-transport-security", "max-age=31536000; includeSubDomains"), ("x-content-type-options", "nosniff"),
    ("x-frame-options", "DENY"), ("referrer-policy", "no-referrer"), ("content-security-policy", "default-src 'self'")]

def secured (response : Response) : Response :=
  securityHeaders.foldl (fun response header => addHeader header response) response

def securityHeadersMiddleware (inner : Service ρ) : Service ρ := fun request state =>
  (inner request state).bind fun served => .done (served.1, secured served.2)

-- The layer added last is the outermost.
def serve : Service ρ :=
  securityHeadersMiddleware (cors (rateLimit env (auditMiddleware env (router decode handlers))))

end Pipeline

end Moxui.Api
