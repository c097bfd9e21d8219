import Moxui.Api.Aggregates
import Moxui.Lib.Latch
import Moxui.Ui.ServerPaths
import Moxui.Ui.VmPolling

set_option autoImplicit false

namespace Moxui.Ui

open Moxui.Api
open Moxui.Auth (Claims)
open Moxui.Proxmox (ProxmoxCall)

inductive Listing where
  | vms
  | lxcs
  | storages
  | networks
deriving DecidableEq

namespace Listing

def path : Listing → String
  | vms => "/api/v1/vms"
  | lxcs => "/api/v1/lxcs"
  | storages => "/api/v1/storages"
  | networks => "/api/v1/networks"

def key : Listing → String
  | vms => "vms"
  | lxcs => "lxcs"
  | storages => "storages"
  | networks => "networks"

def handler : Listing → Handler
  | vms => .listVms
  | lxcs => .listLxcs
  | storages => .listStorages
  | networks => .listNetworks

def call : Listing → ProxmoxCall
  | vms | lxcs => .listResources
  | storages => .listAllStorages
  | networks => .listAllNetworks

def view (listing : Listing) (cluster : String) (data : Json) : List Json :=
  match listing with
  | vms => (items data).map (tagged vmColumns cluster)
  | lxcs => ((items data).filter (jsonIs "type" "lxc")).map (tagged lxcColumns cluster)
  | storages => (items data).map (taggedNode storageColumns cluster)
  | networks => (items data).map (taggedNode networkColumns cluster)

end Listing

-- The order in which the failed clusters come out of a `HashMap` and of `Object.entries`.
structure EntryOrder where
  order : List (String × String) → List (String × String)
  same : ∀ entries, (order entries).Perm entries

structure ListCall where
  listing : Listing
  token : Option String

-- `null` is a list without rows. `opened` are the rows of `vms` that `openVm` has made the
-- `selectedVm`: the same objects, until other rows take their places.
structure ListPage where
  token : Option String
  vmList : VmList Json
  opened : List Nat
  lxcs : List Json
  storages : List Json
  networks : List Json
  waiting : List ListCall

-- What an answer comes from: the browser, the state of the server and the clusters at that time.
structure Asked (ρ : Type) where
  headers : List (String × List UInt8)
  env : ServeEnv
  state : AppState ρ
  oracle : Oracle
  now : Nat
  entries : EntryOrder

inductive ListTurn (ρ : Type) where
  | signsIn (token : String)
  | logout
  | fetches (listing : Listing)
  | answered (index : Nat) (asked : Asked ρ)
  | lost (index : Nat) (message : String)
  | openVm (row : Nat)
  | detailed (row : Nat) (detail : List (String × Json))

def ListCall.headers (call : ListCall) : List (String × List UInt8) :=
  match call.token with
  | some token => [("authorization", Text.bytes ("Bearer " ++ token))]
  | none => []

def ListCall.request (origin : Url.Origin) (call : ListCall) (headers : List (String × List UInt8)) : Option Request :=
  (requestTarget origin call.listing.path).map fun path =>
    { method := .get, path := path, query := none, headers := call.headers ++ headers, body := [], claims := none }

-- What the page says of an answer that is not ok: `err.message || err.error`, or a text of its own.
def refusal (fallback : String) (response : Response) : String :=
  match response.body with
  | .json value =>
      let told (key : String) : Option String := ((value.get key).bind Json.asStr).filter (· ≠ "")
      ((told "message").or (told "error")).getD fallback
  | _ => fallback

def thrown (path : String) (response : Response) : String :=
  refusal (path ++ " → HTTP " ++ toString response.status) response

def errorEntries (body : Json) : List (String × String) :=
  match body.get "errors" with
  | some (.obj fields) => fields.map fun field => (field.1, (field.2.asStr).getD "")
  | _ => []

def listed (key : String) (body : Json) : List Json :=
  ((body.get key).map items).getD []

def setField (fields : List (String × Json)) (key : String) (value : Json) : List (String × Json) :=
  if (fields.lookup key).isSome then fields.map fun field => if field.1 = key then (key, value) else field
  else fields ++ [(key, value)]

-- `Object.assign`.
def assigned (detail : List (String × Json)) (object : Json) : Json :=
  match object with
  | .obj fields => .obj (detail.foldl (fun fields field => setField fields field.1 field.2) fields)
  | other => other

namespace ListPage

def loaded (token : Option String) : ListPage :=
  { token := token, vmList := .initial, opened := [], lxcs := [], storages := [], networks := [], waiting := [] }

def rows (page : ListPage) : Listing → List Json
  | .vms => page.vmList.vms
  | .lxcs => page.lxcs
  | .storages => page.storages
  | .networks => page.networks

variable (page : ListPage)

def logout : ListPage :=
  { page with
    token := none, vmList := { page.vmList with vms := [], vmsError := none, vmsLastUpdated := none }
    opened := [], lxcs := [], storages := [], networks := [] }

def fetches (listing : Listing) : ListPage :=
  { page with waiting := page.waiting ++ [⟨listing, page.token.filter (· ≠ "")⟩] }

def takes (listing : Listing) (entries : EntryOrder) (now : Nat) (body : Json) : ListPage :=
  match listing with
  | .vms =>
      let vmsBody : VmsBody Json := ⟨some (listed "vms" body), some (entries.order (errorEntries body))⟩
      { page with vmList := page.vmList.fetchVms (.success vmsBody now), opened := [] }
  | .lxcs => { page with lxcs := listed "lxcs" body }
  | .storages => { page with storages := listed "storages" body }
  | .networks => { page with networks := listed "networks" body }

-- Only `fetchVms` catches what `api` throws. What the callers of the others do with it leaves the
-- lists alone, or is a `logout`.
def throws (listing : Listing) (message : String) : ListPage :=
  match listing with
  | .vms => { page with vmList := page.vmList.fetchVms (.failure message) }
  | .lxcs | .storages | .networks => page

def hears (call : ListCall) (entries : EntryOrder) (now : Nat) (response : Response) : ListPage :=
  if response.status = 401 then page.logout.throws call.listing "unauthorized"
  else if 200 ≤ response.status ∧ response.status < 300 then
    match response.body with
    | .json body => page.takes call.listing entries now body
    | _ => page.throws call.listing "Unexpected token"
  else page.throws call.listing (thrown call.listing.path response)

def openVm (row : Nat) : ListPage :=
  if row < page.vmList.vms.length then { page with opened := row :: page.opened } else page

-- An answer of `fetchVmDetail`, for the row that was the `selectedVm` when it came.
def detailed (row : Nat) (detail : List (String × Json)) : ListPage :=
  if row ∈ page.opened then
    { page with vmList := { page.vmList with vms := page.vmList.vms.modify row (assigned detail) } }
  else page

section Serving

variable {ρ : Type} (decode : String → Except String Claims) (libs : ApiLibs) (inner : Inner ρ) (origin : Url.Origin)

def serving (asked : Asked ρ) (request : Request) : List (Dialogue.Exchange Upstream Answer) × AppState ρ × Response :=
  Dialogue.run asked.oracle [] (serve decode (handle libs inner) asked.env request asked.state)

def step : ListTurn ρ → ListPage
  | .signsIn token => { page with token := some token }
  | .logout => page.logout
  | .fetches listing => page.fetches listing
  | .answered index asked =>
      match page.waiting[index]? with
      | none => page
      | some call =>
          let rest := { page with waiting := page.waiting.eraseIdx index }
          match call.request origin asked.headers with
          | none => rest.throws call.listing "Failed to parse URL"
          | some request => rest.hears call asked.entries asked.now (serving decode libs inner asked request).2.2
  | .lost index message =>
      match page.waiting[index]? with
      | none => page
      | some call => { page with waiting := page.waiting.eraseIdx index }.throws call.listing message
  | .openVm row => page.openVm row
  | .detailed row detail => page.detailed row detail

def machine : Machine ListPage (ListTurn ρ) Unit where
  step page turn := (page.step decode libs inner origin turn, ())

end Serving

end ListPage

def heardOf (exchanges : List (Dialogue.Exchange Upstream Answer)) : Results :=
  exchanges.map fun exchange => (exchange.1.cluster, exchange.2)

def failedClusters (results : Results) : List (String × String) :=
  results.filterMap fun result =>
    match result.2 with
    | .ok _ => none
    | .error error => some (result.1, error.display)

-- Every configured cluster is asked once, in the order of the configuration, and the response is
-- the table of what they answered.
structure TableOf {ρ : Type} (listing : Listing) (state : AppState ρ) (exchanges : List (Dialogue.Exchange Upstream Answer))
    (body : ResponseBody) : Prop where
  asked : exchanges.map Sigma.fst = state.clients.map fun client => ⟨client.name, listing.call⟩
  whole : body = .json (table listing.key listing.view (heardOf exchanges))

section Server

theorem collect_heard (oracle : Oracle) (past : List (Dialogue.Exchange Upstream Answer)) (call : ProxmoxCall)
    (clients : List ProxmoxClient) : ∃ exchanges,
      Dialogue.run oracle past (collect call clients) = (past ++ exchanges, heardOf exchanges) ∧
        exchanges.map Sigma.fst = clients.map fun client => ⟨client.name, call⟩ := by
  induction clients generalizing past with
  | nil => exact ⟨[], by rw [List.append_nil]; rfl, rfl⟩
  | cons client rest ih =>
      let first : Dialogue.Exchange Upstream Answer := ⟨⟨client.name, call⟩, oracle past ⟨client.name, call⟩⟩
      obtain ⟨exchanges, ran, asked⟩ := ih (past ++ [first])
      refine ⟨first :: exchanges, ?_, ?_⟩
      · rw [collect, Dialogue.run_ask, Dialogue.run_bind, Dialogue.run_done, ran, List.append_assoc]
        rfl
      · rw [List.map_cons, List.map_cons, asked]

variable {ρ : Type} (decode : String → Except String Claims) (libs : ApiLibs) (inner : Inner ρ)

theorem listing_handled (listing : Listing) (entry : Entry) (state : AppState ρ) (named : entry.handler = listing.handler)
    (unsearched : libs.vmsQuery entry.request = .ok none) :
    handle libs inner entry state = aggregate state listing.call (table listing.key listing.view) := by
  apply view_handled libs inner entry state
  cases listing with
  | vms =>
      rw [named]
      exact congrArg some (list_vms_unsearched libs entry state unsearched)
  | lxcs | storages | networks =>
      rw [named]
      rfl

theorem aggregate_heard (state : AppState ρ) (oracle : Oracle) (call : ProxmoxCall) (body : Results → Json) :
    ∃ exchanges, exchanges.map Sigma.fst = state.clients.map (fun client => ⟨client.name, call⟩) ∧
      Dialogue.run oracle [] (aggregate state call body) = (exchanges, state, jsonResponse 200 (body (heardOf exchanges))) := by
  obtain ⟨exchanges, ran, asked⟩ := collect_heard oracle [] call state.clients
  refine ⟨exchanges, asked, ?_⟩
  rw [aggregate, respondWith, Dialogue.run_bind, ran, Dialogue.run_done, List.nil_append]

theorem table_listed (listing : Listing) (results : Results) :
    listed listing.key (table listing.key listing.view results) = rowsOf listing.view results := by
  simp [listed, table, Json.get, items]

theorem table_failures (listing : Listing) (results : Results) (distinct : (results.map Prod.fst).Nodup) :
    errorEntries (table listing.key listing.view results) = failedClusters results := by
  have errors : (table listing.key listing.view results).get "errors" = some (.obj (gather errorText results)) := by
    rw [← errors_gathered]
    cases listing <;> rfl
  rw [errorEntries, errors]
  dsimp only
  rw [gather_distinct errorText results distinct, List.map_filterMap, failedClusters]
  congr 1
  funext result
  cases result.2 with
  | ok data => rfl
  | error error => rfl

theorem listing_tags (listing : Listing) : Tags listing.view := by
  cases listing with
  | vms => exact tagged_tags vmColumns items
  | lxcs => exact tagged_tags lxcColumns fun data => (items data).filter (jsonIs "type" "lxc")
  | storages => exact tagged_node_tags storageColumns
  | networks => exact tagged_node_tags networkColumns

theorem listing_sent (origin : Url.Origin) (listing : Listing) : requestTarget origin listing.path = some listing.path := by
  have written : ∃ text, Text.bytes listing.path = 47 :: text ∧
      asciiText (47 :: Url.join (Url.segmentsOf (Url.pathText (Url.tidy text)))) = listing.path := by
    cases listing with
    | vms => exact ⟨Text.bytes "api/v1/vms", by decide +kernel, by decide +kernel⟩
    | lxcs => exact ⟨Text.bytes "api/v1/lxcs", by decide +kernel, by decide +kernel⟩
    | storages => exact ⟨Text.bytes "api/v1/storages", by decide +kernel, by decide +kernel⟩
    | networks => exact ⟨Text.bytes "api/v1/networks", by decide +kernel, by decide +kernel⟩
  obtain ⟨text, bytes, kept⟩ := written
  rw [requestTarget, bytes, Url.parse_origin]
  exact congrArg some kept

def listingRoute (listing : Listing) : Route :=
  plainRoute listing.key listing.handler

theorem listing_found (listing : Listing) : findRoute listing.path routes = some (listingRoute listing, []) := by
  cases listing <;> decide +kernel

theorem listing_entered (listing : Listing) (request : Request) (isGet : request.method = .get)
    (path : request.path = listing.path) (state : AppState ρ) :
    (∃ response, (dispatch decode state request).outcome = .error response ∧ response.status = 401) ∨
      ∃ claims, Admitted decode request claims ∧
        (dispatch decode state request).outcome = .ok ⟨listing.handler, [], request.withClaims claims⟩ := by
  apply protected_entered decode state request (listingRoute listing) listing.handler
  · rw [path]
    exact listing_found listing
  · rfl
  · rw [isGet]
    cases listing <;> rfl

theorem listing_served (unsearched : ∀ request : Request, request.query = none → libs.vmsQuery request = .ok none)
    (listing : Listing) (request : Request) (isGet : request.method = .get) (path : request.path = listing.path)
    (plain : request.query = none) (asked : Asked ρ)
    (ok : (ListPage.serving decode libs inner asked request).2.2.status < 300) :
    (∃ claims, Admitted decode request claims) ∧ TableOf listing asked.state
      (ListPage.serving decode libs inner asked request).1 (ListPage.serving decode libs inner asked request).2.2.body := by
  have notOptions : request.method ≠ .options := by
    rw [isGet]
    exact HttpMethod.noConfusion
  unfold ListPage.serving at ok ⊢
  cases limited : asked.env.limited with
  | true =>
      rw [serve_limited decode asked.state request _ asked.env limited notOptions] at ok
      exact absurd ok (by decide)
  | false =>
      obtain ⟨status, body⟩ := serve_answer decode asked.state request (handle libs inner) asked.env limited notOptions
        asked.oracle
      have exchanges := serve_exchanges decode asked.state request (handle libs inner) asked.env limited notOptions asked.oracle
      rw [status] at ok
      rw [body, exchanges]
      rcases listing_entered decode listing request isGet path asked.state with
        ⟨response, refused, status⟩ | ⟨claims, admitted, entered⟩
      · rw [router, refused, Dialogue.run_done, status] at ok
        exact absurd ok (by decide)
      · obtain ⟨exchanges, clusters, ran⟩ :=
          aggregate_heard asked.state asked.oracle listing.call (table listing.key listing.view)
        have handled := listing_handled libs inner listing ⟨listing.handler, [], request.withClaims claims⟩ asked.state rfl
          (unsearched (request.withClaims claims) plain)
        rw [router, entered]
        dsimp only
        rw [handled, ran]
        exact ⟨⟨claims, admitted⟩, clusters, rfl⟩

end Server

namespace ListPage

section Turns

variable (page : ListPage)

theorem throws_rows (failed listing : Listing) (message : String) :
    (page.throws failed message).rows listing = page.rows listing := by
  cases failed <;> cases listing <;> rfl

theorem takes_rows (taken listing : Listing) (entries : EntryOrder) (now : Nat) (body : Json) :
    (page.takes taken entries now body).rows listing =
      if taken = listing then listed listing.key body else page.rows listing := by
  cases taken <;> cases listing <;> rfl

theorem logout_rows (listing : Listing) : page.logout.rows listing = [] := by
  cases listing <;> rfl

theorem open_vm_rows (listing : Listing) (row : Nat) : (page.openVm row).rows listing = page.rows listing := by
  unfold openVm
  by_cases shown : row < page.vmList.vms.length
  · rw [if_pos shown]
    cases listing <;> rfl
  · rw [if_neg shown]

theorem detailed_rows (listing : Listing) (row : Nat) (detail : List (String × Json)) :
    (page.detailed row detail).rows listing =
      if listing = .vms ∧ row ∈ page.opened then (page.rows listing).modify row (assigned detail)
      else page.rows listing := by
  unfold detailed
  by_cases isOpen : row ∈ page.opened
  · rw [if_pos isOpen]
    cases listing with
    | vms => exact (if_pos ⟨rfl, isOpen⟩).symm
    | lxcs | storages | networks => rfl
  · rw [if_neg isOpen, if_neg fun both => isOpen both.2]

theorem open_vm_waiting (row : Nat) : (page.openVm row).waiting = page.waiting := by
  unfold openVm
  split <;> rfl

theorem detailed_waiting (row : Nat) (detail : List (String × Json)) :
    (page.detailed row detail).waiting = page.waiting := by
  unfold detailed
  split <;> rfl

theorem throws_waiting (failed : Listing) (message : String) : (page.throws failed message).waiting = page.waiting := by
  cases failed <;> rfl

theorem hears_waiting (call : ListCall) (entries : EntryOrder) (now : Nat) (response : Response) :
    (page.hears call entries now response).waiting = page.waiting := by
  unfold hears
  by_cases unauthorized : response.status = 401
  · rw [if_pos unauthorized, throws_waiting]
    rfl
  · rw [if_neg unauthorized]
    split
    · split
      · cases call.listing <;> rfl
      · exact throws_waiting page call.listing _
    · exact throws_waiting page call.listing _

theorem takes_opened (taken : Listing) (entries : EntryOrder) (now : Nat) (body : Json) :
    (page.takes taken entries now body).opened = if taken = .vms then [] else page.opened := by
  cases taken <;> rfl

theorem throws_opened (failed : Listing) (message : String) : (page.throws failed message).opened = page.opened := by
  cases failed <;> rfl

theorem hears_opened (call : ListCall) (entries : EntryOrder) (now : Nat) (response : Response) (row : Nat)
    (isOpen : row ∈ (page.hears call entries now response).opened) : row ∈ page.opened := by
  unfold hears at isOpen
  by_cases unauthorized : response.status = 401
  · rw [if_pos unauthorized, throws_opened] at isOpen
    cases isOpen
  · rw [if_neg unauthorized] at isOpen
    split at isOpen
    · split at isOpen
      · rw [takes_opened] at isOpen
        split at isOpen
        · cases isOpen
        · exact isOpen
      · rwa [throws_opened] at isOpen
    · rwa [throws_opened] at isOpen

def told (listing : Listing) (call : ListCall) (response : Response) : Option (List Json) :=
  if response.status = 401 then some []
  else if (200 ≤ response.status ∧ response.status < 300) ∧ call.listing = listing then
    match response.body with
    | .json body => some (listed listing.key body)
    | _ => none
  else none

theorem hears_rows (listing : Listing) (call : ListCall) (entries : EntryOrder) (now : Nat) (response : Response) :
    (page.hears call entries now response).rows listing = (told listing call response).getD (page.rows listing) := by
  unfold hears told
  by_cases unauthorized : response.status = 401
  · rw [if_pos unauthorized, if_pos unauthorized, throws_rows, logout_rows]
    rfl
  · rw [if_neg unauthorized, if_neg unauthorized]
    by_cases ok : 200 ≤ response.status ∧ response.status < 300
    · rw [if_pos ok]
      by_cases same : call.listing = listing
      · rw [if_pos ⟨ok, same⟩]
        cases response.body with
        | empty | text => exact throws_rows page call.listing listing _
        | json body => exact (takes_rows page call.listing listing entries now body).trans (if_pos same)
      · rw [if_neg fun both => same both.2]
        cases response.body with
        | empty | text => exact throws_rows page call.listing listing _
        | json body => exact (takes_rows page call.listing listing entries now body).trans (if_neg same)
    · rw [if_neg ok, if_neg fun both => ok both.1]
      exact throws_rows page call.listing listing _

theorem told_opened (call : ListCall) (entries : EntryOrder) (now : Nat) (response : Response) (rows : List Json)
    (tells : told .vms call response = some rows) : (page.hears call entries now response).opened = [] := by
  unfold told at tells
  unfold hears
  by_cases unauthorized : response.status = 401
  · rw [if_pos unauthorized, throws_opened]
    rfl
  · rw [if_neg unauthorized] at tells ⊢
    obtain ⟨⟨ok, same⟩, tells⟩ := Option.ite_none_right_eq_some.mp tells
    rw [if_pos ok]
    cases answer : response.body with
    | empty | text =>
        rw [answer] at tells
        cases tells
    | json body => exact (takes_opened page call.listing entries now body).trans (if_pos same)

end Turns

section Runs

variable {ρ : Type} (decode : String → Except String Claims) (libs : ApiLibs) (inner : Inner ρ) (origin : Url.Origin)

-- The rows that a turn puts into a list: those of an answer, or none at a sign-out.
def brought (listing : Listing) (page : ListPage) : ListTurn ρ → Option (List Json)
  | .logout => some []
  | .answered index asked => (page.waiting[index]?).bind fun call =>
      (call.request origin asked.headers).bind fun request =>
        told listing call (serving decode libs inner asked request).2.2
  | _ => none

def rewritten (listing : Listing) (page : ListPage) (turn : ListTurn ρ) (rows : List Json) : List Json :=
  match turn with
  | .detailed row detail => if listing = .vms ∧ row ∈ page.opened then rows.modify row (assigned detail) else rows
  | _ => rows

theorem step_rows (listing : Listing) (page : ListPage) (turn : ListTurn ρ) :
    (page.step decode libs inner origin turn).rows listing =
      (brought decode libs inner origin listing page turn).getD (rewritten listing page turn (page.rows listing)) := by
  cases turn with
  | signsIn token => cases listing <;> rfl
  | logout => exact logout_rows page listing
  | fetches wanted => cases listing <;> rfl
  | openVm row => exact open_vm_rows page listing row
  | detailed row detail => exact detailed_rows page listing row detail
  | lost index message =>
      simp only [step, brought, rewritten, Option.getD_none]
      cases page.waiting[index]? with
      | none => rfl
      | some call =>
          rw [throws_rows]
          cases listing <;> rfl
  | answered index asked =>
      simp only [step, brought, rewritten]
      cases page.waiting[index]? with
      | none => rfl
      | some call =>
          cases made : call.request origin asked.headers with
          | none =>
              simp only [made, Option.bind_some, Option.bind_none, throws_rows]
              cases listing <;> rfl
          | some request =>
              simp only [made, Option.bind_some, hears_rows]
              cases listing <;> rfl

def AskedBy (past : List (Machine.Event ListPage (ListTurn ρ) Unit)) (call : ListCall) : Prop :=
  ∃ asking ∈ past, asking.input = .fetches call.listing ∧ call.token = asking.before.token.filter (· ≠ "")

theorem step_waiting (page : ListPage) (turn : ListTurn ρ) (call : ListCall)
    (waits : call ∈ (page.step decode libs inner origin turn).waiting) :
    call ∈ page.waiting ∨ turn = .fetches call.listing ∧ call.token = page.token.filter (· ≠ "") := by
  cases turn with
  | signsIn token => exact Or.inl waits
  | logout => exact Or.inl waits
  | fetches listing =>
      rcases List.mem_append.mp waits with before | isNew
      · exact Or.inl before
      · rw [List.mem_singleton.mp isNew]
        exact Or.inr ⟨rfl, rfl⟩
  | openVm row =>
      rw [step, open_vm_waiting] at waits
      exact Or.inl waits
  | detailed row detail =>
      rw [step, detailed_waiting] at waits
      exact Or.inl waits
  | lost index message =>
      simp only [step] at waits
      split at waits
      · exact Or.inl waits
      · rw [throws_waiting] at waits
        exact Or.inl (List.mem_of_mem_eraseIdx waits)
  | answered index asked =>
      simp only [step] at waits
      split at waits
      · exact Or.inl waits
      · split at waits
        · rw [throws_waiting] at waits
          exact Or.inl (List.mem_of_mem_eraseIdx waits)
        · rw [hears_waiting] at waits
          exact Or.inl (List.mem_of_mem_eraseIdx waits)

theorem waiting_asked (token : Option String) (turns : List (ListTurn ρ)) :
    ∀ call ∈ ((machine decode libs inner origin).run (loaded token) turns).waiting,
      AskedBy ((machine decode libs inner origin).trace (loaded token) turns) call := by
  apply Machine.history (machine decode libs inner origin) (loaded token) (fun _ => True)
    (fun past page => ∀ call ∈ page.waiting, AskedBy past call) (fun _ _ _ => trivial)
  · intro call waits
    cases waits
  · intro turns turn _ before call waits
    rcases step_waiting decode libs inner origin _ turn call waits with earlier | ⟨asks, same⟩
    · obtain ⟨asking, past, input, token⟩ := before call earlier
      exact ⟨asking, List.mem_append_left _ past, input, token⟩
    · exact ⟨_, List.mem_append_right _ (List.mem_singleton_self _), asks, same⟩
  · trivial

-- Each answer that a list is made from: it was asked for by the page, for somebody whom the server
-- knew, of every configured cluster, and the rows are those of the clusters that answered.
structure Shown (listing : Listing) (earlier : List (Machine.Event ListPage (ListTurn ρ) Unit))
    (occurrence : Machine.Event ListPage (ListTurn ρ) Unit) (index : Nat) (call : ListCall) (asked : Asked ρ)
    (request : Request) : Prop where
  taken : occurrence.input = .answered index asked
  waited : occurrence.before.waiting[index]? = some call
  wanted : call.listing = listing
  asking : AskedBy earlier call
  sent : call.request origin asked.headers = some request
  known : ∃ claims, Admitted decode request claims
  clusters : (serving decode libs inner asked request).1.map Sigma.fst =
    asked.state.clients.map fun client => ⟨client.name, listing.call⟩
  rows : occurrence.after.rows listing = rowsOf listing.view (heardOf (serving decode libs inner asked request).1)
  complete : (asked.state.clients.map ProxmoxClient.name).Nodup →
    RowsComplete listing.view (heardOf (serving decode libs inner asked request).1) (occurrence.after.rows listing)
  errors : listing = .vms → (asked.state.clients.map ProxmoxClient.name).Nodup →
    ∃ told, told.Perm (failedClusters (heardOf (serving decode libs inner asked request).1)) ∧
      occurrence.after.vmList.vmsError = VmList.clusterErrors told

theorem brought_answer (listing : Listing) (page : ListPage) (turn : ListTurn ρ) (rows : List Json) (some_ : rows ≠ [])
    (brings : brought decode libs inner origin listing page turn = some rows) :
    ∃ index call asked request body, turn = .answered index asked ∧ page.waiting[index]? = some call ∧
      call.listing = listing ∧ call.request origin asked.headers = some request ∧
      (200 ≤ (serving decode libs inner asked request).2.2.status ∧
        (serving decode libs inner asked request).2.2.status < 300) ∧
      (serving decode libs inner asked request).2.2.body = .json body ∧ rows = listed listing.key body := by
  cases turn with
  | signsIn | fetches | lost | openVm | detailed => cases brings
  | logout => exact absurd (Option.some.inj brings).symm some_
  | answered index asked =>
      obtain ⟨call, waits, later⟩ := Option.bind_eq_some_iff.mp brings
      obtain ⟨request, sent, tells⟩ := Option.bind_eq_some_iff.mp later
      unfold told at tells
      by_cases unauthorized : (serving decode libs inner asked request).2.2.status = 401
      · rw [if_pos unauthorized] at tells
        exact absurd (Option.some.inj tells).symm some_
      · rw [if_neg unauthorized] at tells
        obtain ⟨⟨ok, same⟩, tells⟩ := Option.ite_none_right_eq_some.mp tells
        cases answer : (serving decode libs inner asked request).2.2.body with
        | empty | text =>
            rw [answer] at tells
            cases tells
        | json body =>
            rw [answer] at tells
            exact ⟨index, call, asked, request, body, rfl, waits, same, sent, ok, answer, (Option.some.inj tells).symm⟩

theorem brought_opened (page : ListPage) (turn : ListTurn ρ) (rows : List Json)
    (brings : brought decode libs inner origin .vms page turn = some rows) :
    (page.step decode libs inner origin turn).opened = [] := by
  cases turn with
  | signsIn | fetches | lost | openVm | detailed => cases brings
  | logout => rfl
  | answered index asked =>
      obtain ⟨call, waits, later⟩ := Option.bind_eq_some_iff.mp brings
      obtain ⟨request, sent, tells⟩ := Option.bind_eq_some_iff.mp later
      simp only [step, waits, sent]
      exact told_opened _ call asked.entries asked.now _ rows tells

theorem step_takes (page : ListPage) (index : Nat) (call : ListCall) (asked : Asked ρ) (request : Request) (body : Json)
    (waits : page.waiting[index]? = some call) (sent : call.request origin asked.headers = some request)
    (ok : 200 ≤ (serving decode libs inner asked request).2.2.status ∧
      (serving decode libs inner asked request).2.2.status < 300)
    (answer : (serving decode libs inner asked request).2.2.body = .json body) :
    page.step decode libs inner origin (.answered index asked) =
      { page with waiting := page.waiting.eraseIdx index }.takes call.listing asked.entries asked.now body := by
  have authorized : (serving decode libs inner asked request).2.2.status ≠ 401 := by omega
  simp only [step, waits, sent, hears, if_neg authorized, if_pos ok, answer]

theorem rewritten_length (listing : Listing) (page : ListPage) (turn : ListTurn ρ) (rows : List Json) :
    (rewritten listing page turn rows).length = rows.length := by
  cases turn with
  | detailed row detail =>
      rw [rewritten]
      split
      · exact List.length_modify (assigned detail) rows row
      · rfl
  | signsIn | logout | fetches | answered | lost | openVm => rfl

theorem rewritten_else (listing : Listing) (page : ListPage) (turn : ListTurn ρ) (rows : List Json) (row : Nat)
    (unopened : listing = .vms → row ∉ page.opened) : (rewritten listing page turn rows)[row]? = rows[row]? := by
  cases turn with
  | detailed target detail =>
      rw [rewritten]
      by_cases isOpen : listing = .vms ∧ target ∈ page.opened
      · have other : target ≠ row := by
          intro same
          rw [← same] at unopened
          exact unopened isOpen.1 isOpen.2
        rw [if_pos isOpen, List.getElem?_modify_ne (assigned detail) rows other]
      · rw [if_neg isOpen]
  | signsIn | logout | fetches | answered | lost | openVm => rfl

def writtenOver (listing : Listing) (later : List (Machine.Event ListPage (ListTurn ρ) Unit)) (rows : List Json) :
    List Json :=
  later.foldl (fun rows other => rewritten listing other.before other.input rows) rows

theorem written_over_length (listing : Listing) (later : List (Machine.Event ListPage (ListTurn ρ) Unit))
    (rows : List Json) : (writtenOver listing later rows).length = rows.length := by
  induction later generalizing rows with
  | nil => rfl
  | cons other later ih => exact (ih _).trans (rewritten_length listing other.before other.input rows)

theorem written_over_else (listing : Listing) (later : List (Machine.Event ListPage (ListTurn ρ) Unit))
    (rows : List Json) (row : Nat) (unopened : ∀ other ∈ later, listing = .vms → row ∉ other.before.opened) :
    (writtenOver listing later rows)[row]? = rows[row]? := by
  induction later generalizing rows with
  | nil => rfl
  | cons other later ih =>
      rw [List.forall_mem_cons] at unopened
      exact (ih _ unopened.2).trans (rewritten_else listing other.before other.input rows row unopened.1)

theorem step_opened (page : ListPage) (turn : ListTurn ρ) (row : Nat)
    (isOpen : row ∈ (page.step decode libs inner origin turn).opened) : row ∈ page.opened ∨ turn = .openVm row := by
  cases turn with
  | signsIn token => exact Or.inl isOpen
  | logout => cases isOpen
  | fetches listing => exact Or.inl isOpen
  | openVm target =>
      simp only [step, openVm] at isOpen
      split at isOpen
      · rcases List.mem_cons.mp isOpen with same | before
        · exact Or.inr (congrArg ListTurn.openVm same.symm)
        · exact Or.inl before
      · exact Or.inl isOpen
  | detailed target detail =>
      simp only [step, detailed] at isOpen
      split at isOpen <;> exact Or.inl isOpen
  | lost index message =>
      simp only [step] at isOpen
      split at isOpen
      · exact Or.inl isOpen
      · rw [throws_opened] at isOpen
        exact Or.inl isOpen
  | answered index asked =>
      simp only [step] at isOpen
      split at isOpen
      · exact Or.inl isOpen
      · split at isOpen
        · rw [throws_opened] at isOpen
          exact Or.inl isOpen
        · exact Or.inl (hears_opened { page with waiting := page.waiting.eraseIdx index } _ _ _ _ row isOpen)

theorem unopened_since (page : ListPage) (turns : List (ListTurn ρ)) (row : Nat) (unopened : row ∉ page.opened)
    (never : ∀ other ∈ (machine decode libs inner origin).trace page turns, other.input ≠ .openVm row) :
    ∀ other ∈ (machine decode libs inner origin).trace page turns, row ∉ other.before.opened := by
  induction turns generalizing page with
  | nil => simp
  | cons turn turns ih =>
      rw [Machine.trace, List.forall_mem_cons] at never ⊢
      refine ⟨unopened, ih _ ?_ never.2⟩
      intro isOpen
      rcases step_opened decode libs inner origin page turn row isOpen with before | opens
      · exact unopened before
      · exact never.1 opens

theorem brought_shown (unsearched : ∀ request : Request, request.query = none → libs.vmsQuery request = .ok none)
    (token : Option String) (turns : List (ListTurn ρ)) (turn : ListTurn ρ) (listing : Listing) (rows : List Json)
    (some_ : rows ≠ [])
    (brings : brought decode libs inner origin listing ((machine decode libs inner origin).run (loaded token) turns) turn =
      some rows) :
    ∃ index call asked request,
      Shown decode libs inner origin listing ((machine decode libs inner origin).trace (loaded token) turns)
        ((machine decode libs inner origin).event ((machine decode libs inner origin).run (loaded token) turns) turn)
        index call asked request := by
  obtain ⟨index, call, asked, request, body, taken, waits, wanted, sent, ok, answer, same⟩ :=
    brought_answer decode libs inner origin listing _ _ rows some_ brings
  obtain ⟨path, isPath, made⟩ := Option.map_eq_some_iff.mp sent
  have target : path = listing.path := by
    rw [wanted, listing_sent, Option.some.injEq] at isPath
    exact isPath.symm
  obtain ⟨known, clusters, whole⟩ := listing_served decode libs inner unsearched listing request (by rw [← made])
    (by rw [← made]; exact target) (by rw [← made]) asked ok.2
  have steps : (((machine decode libs inner origin).run (loaded token) turns).step decode libs inner origin turn) =
      { (machine decode libs inner origin).run (loaded token) turns with
        waiting := ((machine decode libs inner origin).run (loaded token) turns).waiting.eraseIdx index }.takes listing
          asked.entries asked.now body := by
    rw [taken, ← wanted]
    exact step_takes decode libs inner origin _ index call asked request body waits sent ok answer
  rw [whole] at answer
  have isBody : body = table listing.key listing.view (heardOf (serving decode libs inner asked request).1) :=
    (ResponseBody.json.inj answer).symm
  have shown : (((machine decode libs inner origin).run (loaded token) turns).step decode libs inner origin turn).rows
      listing = rowsOf listing.view (heardOf (serving decode libs inner asked request).1) := by
    rw [steps, takes_rows, if_pos rfl, isBody, table_listed]
  have names : (heardOf (serving decode libs inner asked request).1).map Prod.fst =
      asked.state.clients.map ProxmoxClient.name := by
    have mapped := congrArg (List.map Upstream.cluster) clusters
    rw [List.map_map, List.map_map] at mapped
    rw [heardOf, List.map_map]
    exact mapped
  refine ⟨index, call, asked, request, taken, waits, wanted, ?_, sent, known, clusters, shown, ?_, ?_⟩
  · exact waiting_asked decode libs inner origin token turns call (List.mem_of_getElem? waits)
  · intro distinct
    change RowsComplete _ _ ((ListPage.step _ _ _ _ _ _).rows listing)
    rw [shown]
    exact rows_complete listing.view (listing_tags listing) _ (by rw [names]; exact distinct)
  · intro isVms distinct
    subst isVms
    refine ⟨_, asked.entries.same _, ?_⟩
    change (ListPage.step _ _ _ _ _ _).vmList.vmsError = _
    rw [← table_failures .vms _ (by rw [names]; exact distinct), ← isBody, steps]
    rfl

-- What is on the page of the rows of an answer, after turns that bring no others: every row is where
-- it was, and is as it was unless `openVm` has opened it since and the details that were answered for
-- it are written over its fields.
structure Since (listing : Listing) (answered : List Json) (later : List (Machine.Event ListPage (ListTurn ρ) Unit))
    (rows : List Json) : Prop where
  newest : ∀ other ∈ later, brought decode libs inner origin listing other.before other.input = none
  written : rows = writtenOver listing later answered
  whole : rows.length = answered.length
  unopened : ∀ row, (listing = .vms → ∀ other ∈ later, other.input ≠ .openVm row) → rows[row]? = answered[row]?

theorem quiet_since (page : ListPage) (turns : List (ListTurn ρ)) (listing : Listing)
    (quiet : ∀ other ∈ (machine decode libs inner origin).trace page turns,
      brought decode libs inner origin listing other.before other.input = none)
    (anew : listing = .vms → page.opened = []) :
    Since decode libs inner origin listing (page.rows listing) ((machine decode libs inner origin).trace page turns)
      (((machine decode libs inner origin).run page turns).rows listing) := by
  have written : ((machine decode libs inner origin).run page turns).rows listing =
      writtenOver listing ((machine decode libs inner origin).trace page turns) (page.rows listing) :=
    Machine.unopened_value (machine decode libs inner origin) (brought decode libs inner origin listing)
      (fun page => page.rows listing) (rewritten listing) (step_rows decode libs inner origin listing) page turns quiet
  refine ⟨quiet, written, ?_, ?_⟩
  · rw [written, written_over_length]
  · intro row never
    rw [written]
    apply written_over_else
    intro other member isVms
    apply unopened_since decode libs inner origin page turns row ?_ (never isVms) other member
    rw [anew isVms]
    exact List.not_mem_nil

-- However sign-ins, fetches, answers, failures and openings come, and whatever becomes of the server
-- and the clusters meanwhile: the rows on the page are those of one answer, the last that brought any.
theorem lists_shown (unsearched : ∀ request : Request, request.query = none → libs.vmsQuery request = .ok none)
    (token : Option String) (turns : List (ListTurn ρ)) (listing : Listing)
    (some_ : ((machine decode libs inner origin).run (loaded token) turns).rows listing ≠ []) :
    ∃ earlier occurrence later index call asked request,
      (machine decode libs inner origin).trace (loaded token) turns = earlier ++ occurrence :: later ∧
      Shown decode libs inner origin listing earlier occurrence index call asked request ∧
      Since decode libs inner origin listing (occurrence.after.rows listing) later
        (((machine decode libs inner origin).run (loaded token) turns).rows listing) := by
  cases latches : Machine.latched (brought decode libs inner origin listing)
      ((machine decode libs inner origin).trace (loaded token) turns) with
  | none =>
      have blank : (loaded token).rows listing = [] := by cases listing <;> rfl
      have since := quiet_since decode libs inner origin (loaded token) turns listing (Machine.latched_none _ _ latches)
        fun _ => rfl
      have whole := since.whole
      rw [blank] at whole
      exact absurd (List.eq_nil_of_length_eq_zero whole) some_
  | some rows =>
      obtain ⟨earlier, occurrence, later, split, brings, quiet⟩ := Machine.latched_split _ _ rows latches
      obtain ⟨before, turn, after, isTurns, isEarlier, isOccurrence, isLater⟩ :=
        Machine.trace_split (machine decode libs inner origin) (loaded token) turns earlier later occurrence split
      have shown : occurrence.after = (machine decode libs inner origin).run (loaded token) (before ++ [turn]) := by
        rw [isOccurrence, Machine.run_snoc]
        rfl
      have answered : occurrence.after.rows listing = rows := by
        have now := step_rows decode libs inner origin listing occurrence.before occurrence.input
        rw [brings, Option.getD_some] at now
        rw [← now, isOccurrence]
        rfl
      have final : (machine decode libs inner origin).run (loaded token) turns =
          (machine decode libs inner origin).run occurrence.after after := by
        rw [shown, ← Machine.run_append, isTurns, List.append_assoc]
        rfl
      have anew : listing = .vms → occurrence.after.opened = [] := by
        intro isVms
        subst isVms
        have emptied := brought_opened decode libs inner origin occurrence.before occurrence.input rows brings
        rw [← emptied, isOccurrence]
        rfl
      rw [← shown] at isLater
      rw [isLater] at quiet
      have since := quiet_since decode libs inner origin occurrence.after after listing quiet anew
      rw [← isLater, ← final] at since
      have some' : rows ≠ [] := by
        intro noRows
        have whole := since.whole
        rw [answered, noRows] at whole
        exact some_ (List.eq_nil_of_length_eq_zero whole)
      rw [isOccurrence] at brings
      obtain ⟨index, call, asked, request, isShown⟩ :=
        brought_shown decode libs inner origin unsearched token before turn listing rows some' brings
      rw [← isEarlier, ← isOccurrence] at isShown
      exact ⟨earlier, occurrence, later, index, call, asked, request, split, isShown, since⟩

end Runs

-- Alice looks at her VMs while one of the two clusters does not answer in time, and opens the one
-- that she sees.
def labAnswers : Oracle := fun _ upstream =>
  if upstream.cluster = "lab" then
    .ok (.arr [.obj [("vmid", Json.nat 100), ("name", .str "web"), ("node", .str "pve1"), ("type", .str "qemu"),
      ("status", .str "running")]])
  else .error (.proxmox "list_vms timed out after 10s")

def labAsked : Asked Unit :=
  { headers := [], env := quietEnv, state := twoClusters, oracle := labAnswers, now := 1
    entries := ⟨id, fun _ => List.Perm.refl _⟩ }

def looksAtVms : List (ListTurn Unit) :=
  [.signsIn "alice", .fetches .vms, .answered 0 labAsked, .openVm 0, .detailed 0 [("status", .str "stopped")]]

def aliceLists : Machine ListPage (ListTurn Unit) Unit :=
  machine knowsAlice bareLibs bareInner Moxui.Proxmox.sampleCluster.origin

theorem lab_vm_shown :
    ∃ earlier occurrence later index call asked request,
      aliceLists.trace (loaded none) looksAtVms = earlier ++ occurrence :: later ∧
      Shown knowsAlice bareLibs bareInner Moxui.Proxmox.sampleCluster.origin .vms earlier occurrence index call asked
        request ∧
      Since knowsAlice bareLibs bareInner Moxui.Proxmox.sampleCluster.origin .vms (occurrence.after.rows .vms) later
        ((aliceLists.run (loaded none) looksAtVms).rows .vms) := by
  have one : ((aliceLists.run (loaded none) looksAtVms).rows .vms).length = 1 := by decide +kernel
  apply lists_shown knowsAlice bareLibs bareInner Moxui.Proxmox.sampleCluster.origin (fun _ _ => rfl) none looksAtVms .vms
  exact List.ne_nil_of_length_pos (Nat.lt_of_lt_of_eq Nat.zero_lt_one one.symm)

end ListPage

end Moxui.Ui
