import Moxui.Api.Pipeline
import Moxui.Lib.Selection

set_option autoImplicit false

namespace Moxui.Webhook

open Moxui.Api (Json)

inductive WebhookEvent where
  | vmStarted
  | vmStopped
  | vmRebooted
  | vmDeleted
  | migrationStarted
  | auditLogged
  | userLogin
  | userLogout
deriving DecidableEq, Repr

namespace WebhookEvent

def asStr : WebhookEvent → String
  | vmStarted => "VmStarted"
  | vmStopped => "VmStopped"
  | vmRebooted => "VmRebooted"
  | vmDeleted => "VmDeleted"
  | migrationStarted => "MigrationStarted"
  | auditLogged => "AuditLogged"
  | userLogin => "UserLogin"
  | userLogout => "UserLogout"

def parse (name : String) : Option WebhookEvent :=
  if name = "VmStarted" then some vmStarted
  else if name = "VmStopped" then some vmStopped
  else if name = "VmRebooted" then some vmRebooted
  else if name = "VmDeleted" then some vmDeleted
  else if name = "MigrationStarted" then some migrationStarted
  else if name = "AuditLogged" then some auditLogged
  else if name = "UserLogin" then some userLogin
  else if name = "UserLogout" then some userLogout
  else none

theorem parse_as_str (event : WebhookEvent) : parse event.asStr = some event := by
  cases event <;> decide

theorem parse_some (name : String) (event : WebhookEvent) (known : parse name = some event) : name = event.asStr := by
  unfold parse at known
  split_ifs at known <;> cases known <;> assumption

theorem parse_reads : Selection.Reads asStr parse := by
  intro name event
  constructor
  · exact parse_some name event
  · intro same
    rw [same, parse_as_str]

end WebhookEvent

structure WebhookEndpointConfig where
  name : String
  url : String
  events : List String
  secret : Option String
  maxRetries : Option UInt32
deriving DecidableEq, Repr

structure WebhookConfig where
  enabled : Bool
  retryCount : UInt32
  timeoutSecs : UInt64
  endpoints : List WebhookEndpointConfig
deriving DecidableEq, Repr

def WebhookConfig.default : WebhookConfig :=
  { enabled := false, retryCount := 3, timeoutSecs := 10, endpoints := [] }

structure WebhookEndpoint where
  name : String
  url : String
  events : List WebhookEvent
  secret : Option String
  maxRetries : UInt32
deriving DecidableEq, Repr

structure WebhookService where
  endpoints : List WebhookEndpoint
  enabled : Bool
  timeout : UInt64
  defaultRetries : UInt32
deriving DecidableEq, Repr

-- The payload goes to `deliver_with_retry` together with the endpoint.
structure Delivery where
  endpoint : WebhookEndpoint
  payload : Json
  timeout : UInt64
  maxRetries : UInt32

namespace WebhookService

-- Names that are not known are dropped, with a warning.
def endpointOf (config : WebhookConfig) (endpoint : WebhookEndpointConfig) : WebhookEndpoint :=
  { name := endpoint.name, url := endpoint.url
    events := if endpoint.events.isEmpty then [] else endpoint.events.filterMap WebhookEvent.parse
    secret := endpoint.secret, maxRetries := endpoint.maxRetries.getD config.retryCount }

def fromConfig (config : WebhookConfig) : Option WebhookService :=
  if !config.enabled || config.endpoints.isEmpty then none
  else some
    { endpoints := config.endpoints.map (endpointOf config), enabled := true, timeout := config.timeoutSecs
      defaultRetries := config.retryCount }

def passesOver (event : WebhookEvent) (endpoint : WebhookEndpoint) : Bool :=
  !endpoint.events.isEmpty && !endpoint.events.contains event

def dispatchEvent (event : WebhookEvent) (cluster timestamp : String) (data : Json) (service : WebhookService) :
    List Delivery :=
  if !service.enabled then []
  else
    let payload := Json.obj [("event", .str event.asStr), ("timestamp", .str timestamp), ("cluster", .str cluster),
      ("data", data)]
    (service.endpoints.filter fun endpoint => !passesOver event endpoint).map fun endpoint =>
      { endpoint := endpoint, payload := payload, timeout := service.timeout, maxRetries := endpoint.maxRetries }

end WebhookService

section Subscriptions

-- What the comment on the configuration says: an empty list subscribes to all events.
def subscribes (event : WebhookEvent) (endpoint : WebhookEndpointConfig) : Bool :=
  endpoint.events.isEmpty || endpoint.events.contains event.asStr

def SomeNameKnown (config : WebhookConfig) : Prop :=
  ∀ endpoint ∈ config.endpoints, endpoint.events ≠ [] → ∃ name ∈ endpoint.events, (WebhookEvent.parse name).isSome = true

variable (config : WebhookConfig) (event : WebhookEvent) (cluster timestamp : String) (data : Json)

-- The event is delivered at exactly the endpoints that are configured for it, once at each.
def DeliveredAsConfigured (service : WebhookService) : Prop :=
  (service.dispatchEvent event cluster timestamp data).map Delivery.endpoint =
    (config.endpoints.filter (subscribes event)).map (WebhookService.endpointOf config)

theorem not_passed_over (endpoint : WebhookEndpoint) :
    (!WebhookService.passesOver event endpoint) = Selection.selects endpoint.events event := by
  simp only [WebhookService.passesOver, Selection.selects, Bool.not_and, Bool.not_not]

theorem events_parsed (endpoint : WebhookEndpointConfig) :
    (WebhookService.endpointOf config endpoint).events = endpoint.events.filterMap WebhookEvent.parse := by
  rw [WebhookService.endpointOf]
  cases endpoint.events with
  | nil => rfl
  | cons name names => rfl

theorem delivered_endpoints (service : WebhookService) (built : WebhookService.fromConfig config = some service) :
    (service.dispatchEvent event cluster timestamp data).map Delivery.endpoint =
      (config.endpoints.filter fun endpoint =>
        Selection.selects (endpoint.events.filterMap WebhookEvent.parse) event).map
          (WebhookService.endpointOf config) := by
  unfold WebhookService.fromConfig at built
  split at built
  · cases built
  · cases built
    simp only [WebhookService.dispatchEvent, Bool.not_true, Bool.false_eq_true, if_false, List.map_map, List.filter_map,
      Function.comp_def, not_passed_over, events_parsed]

theorem subscribes_iff (endpoint : WebhookEndpointConfig) :
    subscribes event endpoint = true ↔ endpoint.events = [] ∨ event.asStr ∈ endpoint.events := by
  rw [subscribes, Bool.or_eq_true, List.isEmpty_iff, List.contains_iff_mem]

theorem delivered_as_configured_iff (service : WebhookService)
    (built : WebhookService.fromConfig config = some service) :
    DeliveredAsConfigured config event cluster timestamp data service ↔ SomeNameKnown config := by
  have parsed (endpoint : WebhookEndpointConfig) :=
    Selection.selects_parsed WebhookEvent.asStr WebhookEvent.parse WebhookEvent.parse_reads endpoint.events event
  rw [DeliveredAsConfigured, delivered_endpoints config event cluster timestamp data service built,
    Selection.filter_map_eq_iff _ _ _ _ fun endpoint _ wanted =>
      (parsed endpoint).mpr (Or.inl ((subscribes_iff event endpoint).mp wanted))]
  apply forall₂_congr
  intro endpoint _
  rw [parsed, subscribes_iff]
  constructor
  · intro selected named
    by_cases unknown : ∀ name ∈ endpoint.events, WebhookEvent.parse name = none
    · rcases selected (Or.inr ⟨named, unknown⟩) with empty | listed
      · exact absurd empty named
      · exact ⟨event.asStr, listed, by rw [WebhookEvent.parse_as_str, Option.isSome_some]⟩
    · obtain ⟨name, refused⟩ := not_forall.mp unknown
      obtain ⟨listed, known⟩ := Classical.not_imp.mp refused
      exact ⟨name, listed, Option.isSome_iff_ne_none.mpr known⟩
  · intro known selected
    rcases selected with wanted | ⟨named, unknown⟩
    · exact wanted
    · obtain ⟨name, listed, isKnown⟩ := known named
      rw [unknown name listed] at isKnown
      cases isKnown

end Subscriptions

def pagerEndpoint (events : List String) : WebhookEndpointConfig :=
  { name := "pager", url := "https://pager.example/hook", events := events, secret := none, maxRetries := none }

def pagerConfig (events : List String) : WebhookConfig :=
  { WebhookConfig.default with enabled := true, endpoints := [pagerEndpoint events] }

def pagerService (events : List WebhookEvent) : WebhookService :=
  { endpoints := [{ name := "pager", url := "https://pager.example/hook", events := events, secret := none
                    maxRetries := 3 }]
    enabled := true, timeout := 10, defaultRetries := 3 }

theorem delivered_as_configured_pager :
    DeliveredAsConfigured (pagerConfig ["VmStopped", "VmPaused"]) .userLogin "lab" "2026-01-01T00:00:00+00:00" .null
        (pagerService [.vmStopped]) ↔
      SomeNameKnown (pagerConfig ["VmStopped", "VmPaused"]) :=
  delivered_as_configured_iff (pagerConfig ["VmStopped", "VmPaused"]) .userLogin "lab" "2026-01-01T00:00:00+00:00" .null
    (pagerService [.vmStopped]) (by decide)

-- The one name of the list is misspelt, and the pager gets every event.
theorem misspelt_list_gets_all :
    WebhookService.fromConfig (pagerConfig ["VmStoped"]) = some (pagerService []) ∧
      ¬ DeliveredAsConfigured (pagerConfig ["VmStoped"]) .userLogin "lab" "2026-01-01T00:00:00+00:00" .null
        (pagerService []) := by
  refine ⟨by decide, ?_⟩
  intro configured
  have delivered := congrArg List.length configured
  exact absurd delivered (by decide)

end Moxui.Webhook
