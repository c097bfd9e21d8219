import Moxui.Lib.Intervals
import Moxui.Ui.Page

set_option autoImplicit false

namespace Moxui.Ui.Session

-- The fields of the page that can hold what was fetched with a token: rows, answers, and errors with texts
-- of the server. `vmsLastUpdated` is a reading of the clock, and what is typed is the user's own.
inductive Field where
  | user
  | loginError
  | passkeyError
  | vms
  | vmsError
  | lxcs
  | storages
  | networks
  | auditEntries
  | auditTotal
  | auditPage
  | auditPerPage
  | auditPages
  | auditError
  | selectedVm
  | vmConfig
  | vmTasks
  | vmDetailError
  | vmActionPending
  | vmConfirm
  | vmActionError
  | haGroups
  | haGroupsError
  | editingHaGroup
  | haGroupForm
  | haGroupFormError
  | selectedVmIds
  | bulkResults
  | migrateError
  | availableNodes
  | customDashboard
  | customDashboardError
  | widgetTypes
  | editingWidget
  | notifications
  | notificationsUnread
  | apiKeys
  | apiKeysError
  | apiKeyFormError
  | newlyCreatedKey
  | vmCreateError
deriving DecidableEq

inductive Poll where
  | vms
  | vmDetail
  | notifications
deriving DecidableEq

-- A piece of data, with the tokens its parts were fetched with. What the page makes itself has none.
structure Datum (δ : Type) where
  tokens : List String
  body : δ

-- The data in each field: none for `null`, for what is empty and for the number a field starts with.
def Held (δ : Type) : Type :=
  Field → List (Datum δ)

-- Who called a function that leaves its errors to its caller.
inductive Caller where
  | init
  | login
  | loginWithPasskey
  | maybeLoadRoute
deriving DecidableEq

inductive Call where
  | fetchMe (caller : Caller)
  | fetchVms
  | fetchLxcs (caller : Caller)
  | fetchStorages (caller : Caller)
  | fetchNetworks (caller : Caller)
  | fetchAudit
  | fetchVmDetail
  | fetchVmConfig
  | fetchVmTask
  | confirmVmAction
  | fetchHaGroups
  | saveHaGroup
  | deleteHaGroup
  | bulkAction
  | confirmMigrate
  | fetchCustomDashboard
  | fetchWidgetTypes
  | saveCustomDashboard
  | submitVmCreate
  | fetchNotifications
  | fetchApiKeys
  | saveApiKey
  | revokeApiKey
  | registerPasskey
deriving DecidableEq

-- What such a function hears: an answer, the error text of one, that there is none, or the status 401.
-- An answer that lacks what is read passes by. Which object takes the detail of a VM was settled before it is heard:
-- one that may be the selected one still, and may be a row of the list that was opened.
inductive Heard (δ : Type) where
  | body (content : Field → List δ)
  | detail (selected : Bool) (row : Option Nat) (content : List δ)
  | refused (message : δ)
  | failed (message : δ)
  | unauthorized (message : δ)
  | passesBy

structure Page (δ : Type) where
  token : Option String
  hash : String
  route : String
  held : Held δ
  polls : Intervals Poll
  waiting : List (Call × Option String)

inductive AuditButton where
  | first
  | prev
  | next
  | last
deriving DecidableEq

inductive Turn (δ : Type) where
  | init
  | loads
  | login (token : String)
  | loginWithPasskey (token : String)
  | goes (route : String)
  | logout
  | hashchange (hash : String)
  | visibilitychange (hidden : Bool)
  | ticks (poll : Poll)
  | calls (call : Call)
  | hears (index : Nat) (heard : Heard δ)
  | backToList
  | auditGoToPage (button : AuditButton)
  | clearAuditFilters
  | cancelVmCreate
  | hidesBulkResults
  | hidesPasskeyError
  | openVm (vm : Nat)
  | switchVmTab (tab : String)
  | requestVmAction
  | cancelVmAction
  | editHaGroup (g : Nat)
  | cancelHaGroupForm
  | toggleVmSelection (vm : Nat)
  | toggleSelectAll (shown : δ → Bool)
  | clearVmSelection
  | loadNodes (listed : Bool)
  | addWidget (type : Nat)
  | removeWidget (edited : Bool)
  | editWidget
  | saveWidgetEdit
  | cancelWidgetEdit
  | markNotificationRead (idx : Nat)
  | markAllNotificationsRead
  | cancelCreateApiKey

-- What the page reads in its data, and makes of them: `Object.assign`, `vm.cluster + ':' + vm.vmid`,
-- `{ cluster, vmid, node }`, the page before and the page after, a notification of its own, and one that has been read.
structure Reading (ν δ : Type) where
  cluster : δ → String
  node : δ → String
  vmid : δ → ν
  assign : δ → δ → δ
  key : δ → δ
  place : VmPlace ν → δ
  before : δ → δ
  after : δ → δ
  upid : δ → String
  running : δ → Bool
  created : δ
  unread : δ → Bool
  read : δ → δ

namespace Held

variable {δ : Type} (held : Held δ)

def put (field : Field) (data : List (Datum δ)) : Held δ :=
  fun other => if other = field then data else held other

def empty (fields : List Field) : Held δ :=
  fun field => if field ∈ fields then [] else held field

def has (field : Field) : Bool :=
  !(held field).isEmpty

end Held

section Calls

variable {δ : Type}

def Call.caller : Call → Option Caller
  | .fetchMe caller => some caller
  | .fetchLxcs caller => some caller
  | .fetchStorages caller => some caller
  | .fetchNetworks caller => some caller
  | _ => none

-- What a function empties before it sends its request.
def Call.starts : Call → List Field
  | .fetchAudit => [.auditError]
  | .confirmVmAction => [.vmActionError]
  | .saveHaGroup => [.haGroupFormError]
  | .bulkAction => [.bulkResults]
  | .confirmMigrate => [.migrateError]
  | .fetchCustomDashboard => [.customDashboardError]
  | .submitVmCreate => [.vmCreateError]
  | .fetchApiKeys => [.apiKeysError]
  | .saveApiKey => [.apiKeyFormError, .newlyCreatedKey]
  | .registerPasskey => [.passkeyError]
  | _ => []

def Call.error : Call → Option Field
  | .fetchVms => some .vmsError
  | .fetchAudit => some .auditError
  | .fetchVmDetail => some .vmDetailError
  | .fetchVmConfig => some .vmDetailError
  | .fetchVmTask => some .vmActionError
  | .confirmVmAction => some .vmActionError
  | .fetchHaGroups => some .haGroupsError
  | .saveHaGroup => some .haGroupFormError
  | .deleteHaGroup => some .haGroupsError
  | .bulkAction => some .bulkResults
  | .confirmMigrate => some .migrateError
  | .fetchCustomDashboard => some .customDashboardError
  | .saveCustomDashboard => some .customDashboardError
  | .submitVmCreate => some .vmCreateError
  | .fetchApiKeys => some .apiKeysError
  | .saveApiKey => some .apiKeyFormError
  | .revokeApiKey => some .apiKeysError
  | .registerPasskey => some .passkeyError
  | call =>
      match call.caller with
      | some .login => some .loginError
      | some .loginWithPasskey => some .passkeyError
      | _ => none

def Call.loses : Call → List Field
  | .fetchAudit => [.auditEntries]
  | .fetchVmConfig => [.vmConfig]
  | .fetchApiKeys => [.apiKeys]
  | _ => []

def fetchAll (caller : Caller) : List Call :=
  [.fetchVms, .fetchLxcs caller, .fetchStorages caller, .fetchNetworks caller]

def Call.next (content : Field → List δ) : Call → List Call
  | .fetchMe caller => fetchAll caller
  | .confirmVmAction => if (content .vmActionPending).isEmpty then [.fetchVmDetail] else [.fetchVmDetail, .fetchVmTask]
  | .confirmMigrate => if (content .vmActionPending).isEmpty then [] else [.fetchVmDetail, .fetchVmTask]
  | .saveHaGroup => [.fetchHaGroups]
  | .deleteHaGroup => [.fetchHaGroups]
  | .bulkAction => [.fetchVms]
  | .submitVmCreate => [.fetchVms]
  | .saveApiKey => [.fetchApiKeys]
  | .revokeApiKey => [.fetchApiKeys]
  | _ => []

end Calls

section Answers

variable {ν δ : Type} (reading : Reading ν δ) (held : Held δ)

def counted : Held δ :=
  held.put .notificationsUnread ((held .notifications).filter fun n => reading.unread n.body)

def cancelHaGroupForm : Held δ :=
  held.empty [.editingHaGroup, .haGroupForm, .haGroupFormError]

-- A task takes the place of the one with its number, or comes first.
def placeTask (task : Datum δ) : List (Datum δ) → Option (List (Datum δ))
  | [] => none
  | other :: rest =>
      if reading.upid other.body = reading.upid task.body then some (task :: rest)
      else (placeTask task rest).map (other :: ·)

def withTask (held : Held δ) (task : Datum δ) : Held δ :=
  let placed := held.put .vmTasks ((placeTask reading task (held .vmTasks)).getD (task :: held .vmTasks))
  if reading.running task.body then placed else placed.empty [.vmActionPending]

-- An action without a number stays as it was.
def started (held : Held δ) (pending : List (Datum δ)) : Held δ :=
  if pending.isEmpty then held else held.put .vmActionPending pending

def assigned (object : Datum δ) (detail : List (Datum δ)) : Datum δ :=
  detail.foldl (fun object part => ⟨object.tokens ++ part.tokens, reading.assign object.body part.body⟩) object

def rowAssigned (detail : List (Datum δ)) : Option Nat → Held δ
  | none => held
  | some vm => held.put .vms ((held .vms).modify vm fun object => assigned reading object detail)

def detailed (selected : Bool) (row : Option Nat) (detail : List (Datum δ)) : Held δ :=
  let opened := rowAssigned reading held detail row
  let shown := if selected then opened.put .selectedVm (opened .selectedVm ++ detail) else opened
  shown.empty [.vmDetailError]

def answered (data : Field → List (Datum δ)) : Call → Held δ
  | .fetchMe _ => held.put .user (data .user)
  | .fetchVms => (held.put .vms (data .vms)).put .vmsError (data .vmsError)
  | .fetchLxcs _ => held.put .lxcs (data .lxcs)
  | .fetchStorages _ => held.put .storages (data .storages)
  | .fetchNetworks _ => held.put .networks (data .networks)
  | .fetchAudit =>
      let listed := (held.put .auditEntries (data .auditEntries)).put .auditTotal (data .auditTotal)
      ((listed.put .auditPage (data .auditPage)).put .auditPerPage (data .auditPerPage)).put .auditPages (data .auditPages)
  | .fetchVmConfig => held.put .vmConfig (data .vmConfig)
  | .fetchVmTask => (data .vmTasks).foldl (withTask reading) held
  | .confirmVmAction => started (held.empty [.vmConfirm]) (data .vmActionPending)
  | .fetchHaGroups => (held.put .haGroups (data .haGroups)).put .haGroupsError (data .haGroupsError)
  | .saveHaGroup => cancelHaGroupForm held
  | .bulkAction => (held.put .bulkResults (data .bulkResults)).empty [.selectedVmIds]
  | .confirmMigrate => started held (data .vmActionPending)
  | .fetchCustomDashboard => held.put .customDashboard (data .customDashboard)
  | .fetchWidgetTypes => held.put .widgetTypes (data .widgetTypes)
  | .submitVmCreate =>
      (counted reading (held.put .notifications (⟨[], reading.created⟩ :: held .notifications))).empty [.vmCreateError]
  | .fetchNotifications => counted reading (held.put .notifications (data .notifications))
  | .fetchApiKeys => held.put .apiKeys (data .apiKeys)
  | .saveApiKey => held.put .newlyCreatedKey (data .newlyCreatedKey)
  | .fetchVmDetail => held
  | .deleteHaGroup => held
  | .saveCustomDashboard => held
  | .revokeApiKey => held
  | .registerPasskey => held

end Answers

namespace Page

variable {δ : Type} (page : Page δ)

def loaded (token : Option String) (hash route : String) : Page δ :=
  { token := token, hash := hash, route := route, held := fun _ => [], polls := Intervals.idle, waiting := [] }

def holding (held : Held δ) : Page δ :=
  { page with held := held }

def startVmPolling : Page δ :=
  { page with polls := page.polls.start .vms }

def stopVmPolling : Page δ :=
  { page with polls := page.polls.stop .vms }

def startVmDetailPolling : Page δ :=
  { page with polls := page.polls.start .vmDetail }

def stopVmDetailPolling : Page δ :=
  { page with polls := page.polls.stop .vmDetail }

def stopNotificationPolling : Page δ :=
  { page with polls := page.polls.stop .notifications }

end Page

def resetFields : List Field :=
  [.user, .vms, .lxcs, .storages, .networks, .auditEntries, .auditTotal, .auditPages, .auditError, .vmsError]

namespace Page

section Requests

variable {δ : Type} (page : Page δ)

def logout : Page δ :=
  { (page.holding (page.held.empty resetFields)).stopVmPolling.stopNotificationPolling with
    token := none, hash := "", route := "vms" }

-- What a function looks at before it goes ahead. A VM that is selected has a cluster and a node.
def ready : Call → Bool
  | .fetchVmDetail => page.held.has .selectedVm
  | .fetchVmConfig => page.held.has .selectedVm
  | .fetchVmTask => page.held.has .vmActionPending && page.held.has .selectedVm
  | .confirmVmAction => page.held.has .vmConfirm && page.held.has .selectedVm
  | .confirmMigrate => page.held.has .selectedVm
  | .saveCustomDashboard => page.held.has .customDashboard
  | .fetchNotifications => page.token.isSome
  | _ => true

def send (call : Call) : Page δ :=
  if page.ready call then
    { page with held := page.held.empty call.starts, waiting := page.waiting ++ [(call, page.token)] }
  else page

def sendAll (calls : List Call) : Page δ :=
  calls.foldl send page

def startNotificationPolling : Page δ :=
  let fetching := page.stopNotificationPolling.send .fetchNotifications
  { fetching with polls := fetching.polls.start .notifications }

-- What both logins do once they have a token. The error of the last attempt is gone by then.
def signsIn (error : Field) (caller : Caller) (token : String) : Page δ :=
  { page.holding (page.held.empty [error]) with token := some token }.send (.fetchMe caller)

def backToList : Page δ :=
  { page with route := "vms", hash := "#/vms" }.send .fetchVms

-- `init` logs out when one of its functions fails.
def fails (call : Call) (error : Datum δ) : Page δ :=
  if call.caller = some .init then page.logout
  else
    match call.error with
    | none => page
    | some field => page.holding ((page.held.empty call.loses).put field [error])

end Requests

section Answers

variable {ν δ : Type} (reading : Reading ν δ) (page : Page δ)

def resume (call : Call) (token : Option String) : Heard δ → Page δ
  | .body content =>
      let data := fun field => (content field).map (Datum.mk token.toList)
      (page.holding (answered reading page.held data call)).sendAll (call.next content)
  | .detail selected row content =>
      if call = .fetchVmDetail then
        page.holding (detailed reading page.held selected row (content.map (Datum.mk token.toList)))
      else page
  | .refused message => page.fails call ⟨token.toList, message⟩
  | .failed message => page.fails call ⟨[], message⟩
  | .unauthorized message => page.logout.fails call ⟨[], message⟩
  | .passesBy => page

def hears (index : Nat) (heard : Heard δ) : Page δ :=
  match page.waiting[index]? with
  | none => page
  | some (call, token) => { page with waiting := page.waiting.eraseIdx index }.resume reading call token heard

end Answers

section Routes

variable {ν δ : Type} [DecidableEq ν] (browser : Browser ν) (reading : Reading ν δ) (page : Page δ)

def cached (cluster : String) (vmid : ν) : Option (Datum δ) :=
  (page.held .vms).find? fun v => reading.cluster v.body = cluster ∧ reading.vmid v.body = vmid

def parseVmDetail : Option (VmPlace ν) :=
  match matchVm page.hash with
  | none => none
  | some (cluster, inHash, decimal) =>
      let vmid := browser.number decimal
      match inHash.or ((page.cached reading cluster vmid).map fun cached => reading.node cached.body) with
      | none => none
      | some node => if node = "" then none else some ⟨cluster, node, vmid⟩

-- The object is a new one, which takes over what the list has of its VM.
def selectVm : Page δ :=
  match page.parseVmDetail browser reading with
  | none => page
  | some sel =>
      page.holding (page.held.put .selectedVm
        (⟨[], reading.place sel⟩ :: (page.cached reading sel.cluster sel.vmid).toList))

-- What is loaded for the routes that only load lists.
def routeCalls (route : String) : Option (List Call) :=
  if route = "lxcs" then some [.fetchLxcs .maybeLoadRoute]
  else if route = "storages" then some [.fetchStorages .maybeLoadRoute]
  else if route = "networks" then some [.fetchNetworks .maybeLoadRoute]
  else if route = "hagroups" then some [.fetchHaGroups]
  else if route = "dashboard" then some [.fetchCustomDashboard, .fetchWidgetTypes]
  else if route = "audit" then some [.fetchAudit]
  else if route = "apikeys" then some [.fetchApiKeys]
  else if route = "vm-create" then some []
  else none

def resetVmCreateForm : Page δ :=
  page.holding (page.held.empty [.vmCreateError])

def maybeLoadRoute : Page δ :=
  match page.token with
  | none => page
  | some _ =>
      if page.route = "vms" then (page.stopVmDetailPolling.startVmPolling).send .fetchVms
      else if page.route = "vm-detail" then
        ((page.stopVmPolling.selectVm browser reading).send .fetchVmDetail).startVmDetailPolling
      else
        match routeCalls page.route with
        | none => page
        | some calls =>
            let stopped := page.stopVmPolling.stopVmDetailPolling
            (if page.route = "vm-create" then stopped.resetVmCreateForm else stopped).sendAll calls

def loads : Page δ :=
  let shown := page.maybeLoadRoute browser reading
  if shown.token.isSome then shown.startNotificationPolling else shown

end Routes

section Controls

variable {ν δ : Type} [DecidableEq δ] (reading : Reading ν δ) (page : Page δ)

def visibilitychange (hidden : Bool) : Page δ :=
  if hidden then page.stopVmPolling
  else if page.route = "vms" ∧ page.token.isSome then page.startVmPolling
  else page

def auditGoToPage (button : AuditButton) : Page δ :=
  let number :=
    match button with
    | .first => []
    | .prev => (page.held .auditPage).map fun shown => { shown with body := reading.before shown.body }
    | .next => (page.held .auditPage).map fun shown => { shown with body := reading.after shown.body }
    | .last => page.held .auditPages
  (page.holding (page.held.put .auditPage number)).send .fetchAudit

def clearAuditFilters : Page δ :=
  (page.holding (page.held.empty [.auditPage])).send .fetchAudit

def cancelVmCreate : Page δ :=
  { page.holding (page.held.empty [.vmCreateError]) with route := "vms", hash := "#/vms" }

def polled : Poll → Call
  | .vms => .fetchVms
  | .vmDetail => .fetchVmDetail
  | .notifications => .fetchNotifications

def ticks (poll : Poll) : Page δ :=
  if (page.polls.handle poll).isSome then page.send (polled poll) else page

-- The hash is that of the VM.
def openVm (vm : Nat) : Page δ :=
  match (page.held .vms)[vm]? with
  | none => page
  | some row => { page.holding (page.held.put .selectedVm [row]) with route := "vm-detail" }

def switchVmTab (tab : String) : Page δ :=
  let switched := page.holding (page.held.empty [.vmDetailError])
  let configured := if tab = "config" ∧ !switched.held.has .vmConfig then switched.send .fetchVmConfig else switched
  if tab = "tasks" then configured.send .fetchVmTask else configured

def requestVmAction : Page δ :=
  let ready := page.held.empty [.vmActionError]
  page.holding (if ready.has .selectedVm then ready.put .vmConfirm (ready .selectedVm) else ready)

def editHaGroup (g : Nat) : Page δ :=
  match (page.held .haGroups)[g]? with
  | none => page
  | some group =>
      page.holding (((page.held.put .editingHaGroup [group]).put .haGroupForm [group]).empty [.haGroupFormError])

def keyOf (row : Datum δ) : Datum δ :=
  { row with body := reading.key row.body }

def isSelected (selected : List (Datum δ)) (key : Datum δ) : Bool :=
  selected.any fun other => other.body = key.body

def unselect (selected : List (Datum δ)) (key : Datum δ) : List (Datum δ) :=
  selected.filter fun other => other.body ≠ key.body

def addSelected (selected : List (Datum δ)) (key : Datum δ) : List (Datum δ) :=
  if isSelected selected key then selected else selected ++ [key]

def toggleVmSelection (vm : Nat) : Page δ :=
  match (page.held .vms)[vm]? with
  | none => page
  | some row =>
      let selected := page.held .selectedVmIds
      let key := keyOf reading row
      page.holding (page.held.put .selectedVmIds
        (if isSelected selected key then unselect selected key else selected ++ [key]))

-- `shown` are the rows that the filters of the list let through.
def toggleSelectAll (shown : δ → Bool) : Page δ :=
  let keys := ((page.held .vms).filter fun row => shown row.body).map (keyOf reading)
  let selected := page.held .selectedVmIds
  let all := !keys.isEmpty && keys.all (isSelected selected)
  page.holding (page.held.put .selectedVmIds (if all then keys.foldl unselect selected else keys.foldl addSelected selected))

-- The nodes of the rows that share the cluster of the selected VM. Without a list nothing is done.
def loadNodes (listed : Bool) : Page δ :=
  match listed, (page.held .selectedVm).getLast? with
  | false, _ => page
  | true, none => page
  | true, some vm =>
      let others := (page.held .vms).filter fun row =>
        reading.cluster row.body = reading.cluster vm.body ∧ reading.node row.body ≠ reading.node vm.body
      page.holding (page.held.put .availableNodes others)

def addWidget (type : Nat) : Page δ :=
  match (page.held .widgetTypes)[type]? with
  | none => page
  | some template =>
      if page.held.has .customDashboard then
        (page.holding (page.held.put .customDashboard (page.held .customDashboard ++ [template]))).send .saveCustomDashboard
      else page

def removeWidget (edited : Bool) : Page δ :=
  if page.held.has .customDashboard then
    (page.holding (page.held.empty (if edited then [.editingWidget] else []))).send .saveCustomDashboard
  else page

def saveWidgetEdit : Page δ :=
  if page.held.has .editingWidget && page.held.has .customDashboard then
    let saved := page.held.put .customDashboard (page.held .customDashboard ++ page.held .editingWidget)
    (page.holding (saved.empty [.editingWidget])).send .saveCustomDashboard
  else page

def markNotificationRead (idx : Nat) : Page δ :=
  let read := (page.held .notifications).modify idx fun n => { n with body := reading.read n.body }
  page.holding (counted reading (page.held.put .notifications read))

def markAllNotificationsRead : Page δ :=
  let read := (page.held .notifications).map fun n => { n with body := reading.read n.body }
  page.holding ((page.held.put .notifications read).empty [.notificationsUnread])

end Controls

section Machine

variable {ν δ : Type} [DecidableEq ν] [DecidableEq δ] (browser : Browser ν) (reading : Reading ν δ) (page : Page δ)

def step : Turn δ → Page δ
  | .init => if page.token.isSome then page.send (.fetchMe .init) else page
  | .loads => page.loads browser reading
  | .login token => page.signsIn .loginError .login token
  | .loginWithPasskey token => page.signsIn .passkeyError .loginWithPasskey token
  | .goes route => { page with route := route, hash := "#/" ++ route }
  | .logout => page.logout
  | .hashchange hash => { page with hash := hash, route := parseRoute hash }.maybeLoadRoute browser reading
  | .visibilitychange hidden => page.visibilitychange hidden
  | .ticks poll => page.ticks poll
  | .calls call => page.send call
  | .hears index heard => page.hears reading index heard
  | .backToList => page.backToList
  | .auditGoToPage button => page.auditGoToPage reading button
  | .clearAuditFilters => page.clearAuditFilters
  | .cancelVmCreate => page.cancelVmCreate
  | .hidesBulkResults => page.holding (page.held.empty [.bulkResults])
  | .hidesPasskeyError => page.holding (page.held.empty [.passkeyError])
  | .openVm vm => page.openVm vm
  | .switchVmTab tab => page.switchVmTab tab
  | .requestVmAction => page.requestVmAction
  | .cancelVmAction => page.holding (page.held.empty [.vmConfirm])
  | .editHaGroup g => page.editHaGroup g
  | .cancelHaGroupForm => page.holding (cancelHaGroupForm page.held)
  | .toggleVmSelection vm => page.toggleVmSelection reading vm
  | .toggleSelectAll shown => page.toggleSelectAll reading shown
  | .clearVmSelection => page.holding (page.held.empty [.selectedVmIds, .bulkResults])
  | .loadNodes listed => page.loadNodes reading listed
  | .addWidget type => page.addWidget type
  | .removeWidget edited => page.removeWidget edited
  | .editWidget => page.holding (page.held.put .editingWidget (page.held .customDashboard))
  | .saveWidgetEdit => page.saveWidgetEdit
  | .cancelWidgetEdit => page.holding (page.held.empty [.editingWidget])
  | .markNotificationRead idx => page.markNotificationRead reading idx
  | .markAllNotificationsRead => page.markAllNotificationsRead reading
  | .cancelCreateApiKey => page.holding (page.held.empty [.apiKeyFormError, .newlyCreatedKey])

def machine : Machine (Page δ) (Turn δ) Unit :=
  { step := fun page turn => (step browser reading page turn, ()) }

def hearsAll (answers : List (Nat × Heard δ)) : Page δ :=
  (machine browser reading).run page (answers.map fun answer => .hears answer.1 answer.2)

end Machine

end Page

section Goal

variable {δ : Type}

def Old (token : Option String) (tokens : List String) : Prop :=
  ∃ fetched ∈ tokens, token = some fetched

structure Cleared (token : Option String) (page : Page δ) : Prop where
  polls : page.polls.running = []
  fields : ∀ field, ∀ datum ∈ page.held field, ¬ Old token datum.tokens

-- What `logout` does not see to.
structure LeavesNothing (page : Page δ) : Prop where
  detail : page.polls.handle .vmDetail = none
  fields : ∀ field, field ∉ resetFields → ∀ datum ∈ page.held field, ¬ Old page.token datum.tokens

def AwaitsNothing (page : Page δ) : Prop :=
  ∀ sent ∈ page.waiting, ¬ Old page.token sent.2.toList

def listCalls (caller : Caller) : List Call :=
  .fetchMe caller :: fetchAll caller

-- What is heard brings nothing fetched to the fields that `logout` leaves.
def Harmless (call : Call) : Heard δ → Prop
  | .body _ => ∃ caller, call ∈ listCalls caller
  | .detail _ _ _ => False
  | .refused _ => ∀ field, call.error = some field → field ∈ resetFields
  | _ => True

-- No VM is opened, shown or selected, and the last page of the audit log is not gone to by its number.
def Sparing (page : Page δ) : Turn δ → Prop
  | .loads => page.token = none ∨ page.route ≠ "vm-detail"
  | .hashchange hash => page.token = none ∨ parseRoute hash ≠ "vm-detail"
  | .hears index heard => ∀ call token, page.waiting[index]? = some (call, token) → Harmless call heard
  | .openVm _ => False
  | .toggleVmSelection _ => False
  | .toggleSelectAll _ => False
  | .loadNodes _ => False
  | .auditGoToPage button => button ≠ .last
  | _ => True

def Spared (held : Held δ) : Prop :=
  ∀ field, field ∉ resetFields → ∀ datum ∈ held field, datum.tokens = []

structure Quiet (page : Page δ) : Prop where
  detail : page.polls.handle .vmDetail = none
  spared : Spared page.held

-- The handles are those of the timers that run, and a page whose turns were `sparing` is quiet.
structure Tidy (sparing : Prop) (page : Page δ) : Prop where
  valid : page.polls.Valid
  quiet : sparing → Quiet page

structure Kept (page after : Page δ) : Prop where
  polls : after.polls = page.polls
  spared : Spared page.held → Spared after.held

end Goal

section Fields

variable {δ : Type}

theorem spared_put (held : Held δ) (spared : Spared held) (field : Field) (data : List (Datum δ))
    (own : field ∈ resetFields ∨ ∀ datum ∈ data, datum.tokens = []) : Spared (held.put field data) := by
  intro other left datum inField
  by_cases same : other = field
  · rw [Held.put, if_pos same] at inField
    rcases own with reset | made
    · exact absurd (same ▸ reset) left
    · exact made datum inField
  · rw [Held.put, if_neg same] at inField
    exact spared other left datum inField

theorem spared_empty (held : Held δ) (spared : Spared held) (fields : List Field) : Spared (held.empty fields) := by
  intro other left datum inField
  rw [Held.empty] at inField
  by_cases emptied : other ∈ fields
  · rw [if_pos emptied] at inField
    exact absurd inField List.not_mem_nil
  · rw [if_neg emptied] at inField
    exact spared other left datum inField

theorem spared_copy (held : Held δ) (spared : Spared held) (source target : Field) (left : source ∉ resetFields) :
    Spared (held.put target (held source)) :=
  spared_put held spared target _ (Or.inr (spared source left))

theorem Kept.refl (page : Page δ) : Kept page page :=
  ⟨rfl, id⟩

theorem Kept.trans {page between after : Page δ} (first : Kept page between) (second : Kept between after) : Kept page after :=
  ⟨second.polls.trans first.polls, fun spared => second.spared (first.spared spared)⟩

end Fields

namespace Page

section Keeping

variable {δ : Type}

theorem holding_kept (page : Page δ) (held : Held δ) (keeps : Spared page.held → Spared held) : Kept page (page.holding held) :=
  ⟨rfl, keeps⟩

theorem emptied_kept (page : Page δ) (fields : List Field) : Kept page (page.holding (page.held.empty fields)) :=
  holding_kept page _ fun spared => spared_empty _ spared fields

theorem send_kept (page : Page δ) (call : Call) : Kept page (page.send call) := by
  rw [send]
  split
  · exact ⟨rfl, fun spared => spared_empty _ spared _⟩
  · exact Kept.refl page

theorem sign_in_kept (page : Page δ) (error : Field) (caller : Caller) (token : String) :
    Kept page (page.signsIn error caller token) := by
  have sent := send_kept { page.holding (page.held.empty [error]) with token := some token } (.fetchMe caller)
  exact ⟨sent.polls, fun spared => sent.spared (spared_empty _ spared _)⟩

theorem back_kept (page : Page δ) : Kept page page.backToList := by
  have sent := send_kept { page with route := "vms", hash := "#/vms" } .fetchVms
  exact ⟨sent.polls, sent.spared⟩

theorem send_all_kept (page : Page δ) (calls : List Call) : Kept page (page.sendAll calls) := by
  induction calls generalizing page with
  | nil => exact Kept.refl page
  | cons call rest ih => exact (send_kept page call).trans (ih (page.send call))

theorem clear_filters_kept (page : Page δ) : Kept page page.clearAuditFilters :=
  (emptied_kept page _).trans (send_kept _ _)

theorem cancel_create_kept (page : Page δ) : Kept page page.cancelVmCreate :=
  ⟨rfl, fun spared => spared_empty _ spared _⟩

theorem init_kept (page : Page δ) : Kept page (if page.token.isSome then page.send (.fetchMe .init) else page) := by
  split
  · exact send_kept page _
  · exact Kept.refl page

theorem ticks_kept (page : Page δ) (poll : Poll) : Kept page (page.ticks poll) := by
  rw [ticks]
  split
  · exact send_kept page _
  · exact Kept.refl page

theorem tab_kept (page : Page δ) (tab : String) : Kept page (page.switchVmTab tab) := by
  refine (emptied_kept page [.vmDetailError]).trans ?_
  rw [switchVmTab]
  by_cases tasks : tab = "tasks"
  · rw [if_pos tasks]
    refine Kept.trans ?_ (send_kept _ _)
    split
    · exact send_kept _ _
    · exact Kept.refl _
  · rw [if_neg tasks]
    split
    · exact send_kept _ _
    · exact Kept.refl _

theorem request_kept (page : Page δ) : Kept page page.requestVmAction := by
  refine holding_kept page _ fun spared => ?_
  have emptied := spared_empty _ spared [.vmActionError]
  split
  · exact spared_copy _ emptied .selectedVm .vmConfirm (by decide)
  · exact emptied

theorem edit_group_kept (page : Page δ) (g : Nat) : Kept page (page.editHaGroup g) := by
  rw [editHaGroup]
  split
  · exact Kept.refl page
  · next group found =>
      refine holding_kept page _ fun spared => ?_
      have made : ∀ datum ∈ [group], datum.tokens = [] := by
        rw [List.forall_mem_singleton]
        exact spared .haGroups (by decide) group (List.mem_of_getElem? found)
      exact spared_empty _ (spared_put _ (spared_put _ spared _ _ (Or.inr made)) _ _ (Or.inr made)) _

theorem add_widget_kept (page : Page δ) (type : Nat) : Kept page (page.addWidget type) := by
  rw [addWidget]
  split
  · exact Kept.refl page
  · next template found =>
      split
      · refine Kept.trans (holding_kept page _ fun spared => ?_) (send_kept _ _)
        refine spared_put _ spared _ _ (Or.inr ?_)
        rw [List.forall_mem_append, List.forall_mem_singleton]
        exact ⟨spared .customDashboard (by decide), spared .widgetTypes (by decide) template (List.mem_of_getElem? found)⟩
      · exact Kept.refl page

theorem remove_widget_kept (page : Page δ) (edited : Bool) : Kept page (page.removeWidget edited) := by
  rw [removeWidget]
  split
  · exact (emptied_kept page _).trans (send_kept _ _)
  · exact Kept.refl page

theorem save_widget_kept (page : Page δ) : Kept page page.saveWidgetEdit := by
  rw [saveWidgetEdit]
  split
  · refine Kept.trans (holding_kept page _ fun spared => ?_) (send_kept _ _)
    refine spared_empty _ (spared_put _ spared _ _ (Or.inr ?_)) _
    rw [List.forall_mem_append]
    exact ⟨spared .customDashboard (by decide), spared .editingWidget (by decide)⟩
  · exact Kept.refl page

variable {ν : Type} (reading : Reading ν δ)

theorem spared_counted (held : Held δ) (spared : Spared held) : Spared (counted reading held) :=
  spared_put held spared _ _ (Or.inr fun datum listed =>
    spared .notifications (by decide) datum (List.mem_of_mem_filter listed))

theorem mark_read_kept (page : Page δ) (idx : Nat) : Kept page (page.markNotificationRead reading idx) := by
  refine holding_kept page _ fun spared => spared_counted reading _ (spared_put _ spared _ _ (Or.inr ?_))
  intro datum listed
  obtain ⟨index, inside, rfl⟩ := List.mem_iff_getElem.mp listed
  rw [List.length_modify] at inside
  have made := spared .notifications (by decide) _ (List.getElem_mem inside)
  rw [List.getElem_modify]
  split <;> exact made

theorem mark_all_kept (page : Page δ) : Kept page (page.markAllNotificationsRead reading) := by
  refine holding_kept page _ fun spared => spared_empty _ (spared_put _ spared _ _ (Or.inr ?_)) _
  rw [List.forall_mem_map]
  exact spared .notifications (by decide)

end Keeping

section Polls

variable {ν δ : Type}

theorem logout_valid (page : Page δ) (valid : page.polls.Valid) : page.logout.polls.Valid :=
  Intervals.stop_valid _ (Intervals.stop_valid _ valid _) _

theorem logout_detail (page : Page δ) : page.logout.polls.handle .vmDetail = page.polls.handle .vmDetail := by
  change ((page.polls.stop .vms).stop .notifications).handle .vmDetail = page.polls.handle .vmDetail
  rw [Intervals.stop_handle, if_neg (by decide), Intervals.stop_handle, if_neg (by decide)]

theorem kept_quiet {page after : Page δ} (kept : Kept page after) (quiet : Quiet page) : Quiet after :=
  ⟨kept.polls ▸ quiet.detail, kept.spared quiet.spared⟩

section Tidying

variable {sparing : Prop}

theorem kept_tidy {page after : Page δ} (kept : Kept page after) (tidy : Tidy sparing page) : Tidy sparing after :=
  ⟨kept.polls ▸ tidy.valid, fun spares => kept_quiet kept (tidy.quiet spares)⟩

theorem unspared_tidy {page after : Page δ} (polls : after.polls = page.polls) (unspared : ¬ sparing)
    (tidy : Tidy sparing page) : Tidy sparing after :=
  ⟨polls ▸ tidy.valid, fun spares => absurd spares unspared⟩

theorem stop_tidy (page : Page δ) (tidy : Tidy sparing page) (poll : Poll) :
    Tidy sparing { page with polls := page.polls.stop poll } := by
  refine ⟨Intervals.stop_valid _ tidy.valid poll, ?_⟩
  intro spares
  refine ⟨(Intervals.stop_handle _ _ _).trans ?_, (tidy.quiet spares).spared⟩
  split
  · rfl
  · exact (tidy.quiet spares).detail

theorem start_tidy (page : Page δ) (tidy : Tidy sparing page) (poll : Poll) (other : sparing → Poll.vmDetail ≠ poll) :
    Tidy sparing { page with polls := page.polls.start poll } := by
  refine ⟨Intervals.start_valid _ tidy.valid poll, ?_⟩
  intro spares
  have quiet := tidy.quiet spares
  exact ⟨(Intervals.start_handle _ _ _ (other spares)).trans quiet.detail, quiet.spared⟩

theorem logout_tidy (page : Page δ) (tidy : Tidy sparing page) : Tidy sparing page.logout := by
  refine ⟨logout_valid page tidy.valid, ?_⟩
  intro spares
  have quiet := tidy.quiet spares
  exact ⟨(logout_detail page).trans quiet.detail, spared_empty _ quiet.spared _⟩

theorem fails_tidy (page : Page δ) (tidy : Tidy sparing page) (call : Call) (error : Datum δ)
    (own : sparing → (∀ field, call.error = some field → field ∈ resetFields) ∨ error.tokens = []) :
    Tidy sparing (page.fails call error) := by
  rw [fails]
  by_cases atInit : call.caller = some .init
  · rw [if_pos atInit]
    exact logout_tidy page tidy
  · rw [if_neg atInit]
    split
    · exact tidy
    · next field taken =>
        refine ⟨tidy.valid, ?_⟩
        intro spares
        have quiet := tidy.quiet spares
        refine ⟨quiet.detail, spared_put _ (spared_empty _ quiet.spared _) _ _ ?_⟩
        rw [List.forall_mem_singleton]
        exact (own spares).imp (fun reset => reset field taken) id

theorem notifications_tidy (page : Page δ) (tidy : Tidy sparing page) : Tidy sparing page.startNotificationPolling := by
  have stopped : Tidy sparing page.stopNotificationPolling := stop_tidy page tidy .notifications
  have fetching := kept_tidy (send_kept _ .fetchNotifications) stopped
  exact start_tidy _ fetching .notifications fun _ => by decide

theorem page_tidy {ν : Type} (reading : Reading ν δ) (page : Page δ) (tidy : Tidy sparing page) (button : AuditButton)
    (spared : sparing → button ≠ .last) : Tidy sparing (page.auditGoToPage reading button) := by
  refine kept_tidy (send_kept _ _) ⟨tidy.valid, ?_⟩
  intro spares
  have quiet := tidy.quiet spares
  have shown := quiet.spared .auditPage (by decide)
  refine ⟨quiet.detail, spared_put _ quiet.spared _ _ (Or.inr ?_)⟩
  cases button with
  | first => exact fun datum none => absurd none List.not_mem_nil
  | prev =>
      rw [List.forall_mem_map]
      exact shown
  | next =>
      rw [List.forall_mem_map]
      exact shown
  | last => exact absurd rfl (spared spares)

theorem visibility_tidy (page : Page δ) (tidy : Tidy sparing page) (hidden : Bool) :
    Tidy sparing (page.visibilitychange hidden) := by
  rw [visibilitychange]
  split
  · exact stop_tidy page tidy .vms
  · split
    · exact start_tidy page tidy .vms fun _ => by decide
    · exact tidy

end Tidying

theorem answered_spared (reading : Reading ν δ) (held : Held δ) (spared : Spared held) (data : Field → List (Datum δ))
    (call : Call) (caller : Caller) (listed : call ∈ listCalls caller) : Spared (answered reading held data call) := by
  simp only [listCalls, fetchAll, List.mem_cons, List.not_mem_nil, or_false] at listed
  rcases listed with rfl | rfl | rfl | rfl | rfl
  · exact spared_put _ spared _ _ (Or.inl (by decide))
  · exact spared_put _ (spared_put _ spared _ _ (Or.inl (by decide))) _ _ (Or.inl (by decide))
  · exact spared_put _ spared _ _ (Or.inl (by decide))
  · exact spared_put _ spared _ _ (Or.inl (by decide))
  · exact spared_put _ spared _ _ (Or.inl (by decide))

theorem resume_tidy {sparing : Prop} (reading : Reading ν δ) (page : Page δ) (tidy : Tidy sparing page) (call : Call)
    (token : Option String) (heard : Heard δ) (harmless : sparing → Harmless call heard) :
    Tidy sparing (page.resume reading call token heard) := by
  cases heard with
  | body content =>
      refine kept_tidy (send_all_kept _ _) ⟨tidy.valid, ?_⟩
      intro spares
      have quiet := tidy.quiet spares
      obtain ⟨caller, listed⟩ := harmless spares
      let data := fun field => (content field).map (Datum.mk token.toList)
      exact ⟨quiet.detail, answered_spared reading page.held quiet.spared data call caller listed⟩
  | detail selected row content =>
      rw [resume]
      split
      · exact ⟨tidy.valid, fun spares => absurd (harmless spares) id⟩
      · exact tidy
  | refused message => exact fails_tidy page tidy call _ fun spares => Or.inl (harmless spares)
  | failed message => exact fails_tidy page tidy call _ fun _ => Or.inr rfl
  | unauthorized message => exact fails_tidy _ (logout_tidy page tidy) call _ fun _ => Or.inr rfl
  | passesBy => exact tidy

theorem hears_tidy {sparing : Prop} (reading : Reading ν δ) (page : Page δ) (tidy : Tidy sparing page) (index : Nat)
    (heard : Heard δ) (spared : sparing → Sparing page (.hears index heard)) :
    Tidy sparing (page.hears reading index heard) := by
  rw [hears]
  split
  · exact tidy
  · next call token found =>
      have taken : Kept page { page with waiting := page.waiting.eraseIdx index } := ⟨rfl, id⟩
      exact resume_tidy reading _ (kept_tidy taken tidy) call token heard fun spares => spared spares call token found

theorem copying_polls [DecidableEq δ] (reading : Reading ν δ) (page : Page δ) :
    (∀ vm, (page.openVm vm).polls = page.polls) ∧ (∀ vm, (page.toggleVmSelection reading vm).polls = page.polls) ∧
      ∀ listed, (page.loadNodes reading listed).polls = page.polls := by
  refine ⟨?_, ?_, ?_⟩
  · intro vm
    rw [openVm]
    split <;> rfl
  · intro vm
    rw [toggleVmSelection]
    split <;> rfl
  · intro listed
    unfold loadNodes
    split <;> rfl

theorem cleared_iff (page : Page δ) (valid : page.polls.Valid) : Cleared page.token page.logout ↔ LeavesNothing page := by
  have handles : page.logout.polls.running = [] ↔ page.polls.handle .vmDetail = none := by
    rw [Intervals.running_empty _ (logout_valid page valid), ← logout_detail]
    constructor
    · intro stopped
      exact stopped .vmDetail
    · intro detail poll
      cases poll with
      | vms =>
          change ((page.polls.stop .vms).stop .notifications).handle .vms = none
          rw [Intervals.stop_handle, if_neg (by decide), Intervals.stop_handle, if_pos rfl]
      | vmDetail => exact detail
      | notifications => exact (Intervals.stop_handle _ _ _).trans (if_pos rfl)
  have emptied (field : Field) : page.logout.held field = if field ∈ resetFields then [] else page.held field := rfl
  constructor
  · rintro ⟨polls, fields⟩
    refine ⟨handles.mp polls, ?_⟩
    intro field left datum inField
    have kept := fields field datum
    rw [emptied, if_neg left] at kept
    exact kept inField
  · rintro ⟨detail, fields⟩
    refine ⟨handles.mpr detail, ?_⟩
    intro field datum inField
    rw [emptied] at inField
    by_cases reset : field ∈ resetFields
    · rw [if_pos reset] at inField
      exact absurd inField List.not_mem_nil
    · rw [if_neg reset] at inField
      exact fields field reset datum inField

structure Rid (token : Option String) (page : Page δ) : Prop where
  left : page.token = none
  cleared : Cleared token page
  awaits : ∀ sent ∈ page.waiting, ¬ Old token sent.2.toList

def Without (token : Option String) (data : List (Datum δ)) : Prop :=
  ∀ datum ∈ data, ¬ Old token datum.tokens

section Ridding

variable {token : Option String} (held : Held δ) (without : ∀ field, Without token (held field)) (reading : Reading ν δ)
include without

theorem put_without (field : Field) (own : List (Datum δ)) (owned : Without token own) (other : Field) :
    Without token (held.put field own other) := by
  rw [Held.put]
  by_cases same : other = field
  · rw [if_pos same]
    exact owned
  · rw [if_neg same]
    exact without other

theorem empty_without (fields : List Field) (other : Field) : Without token (held.empty fields other) := by
  rw [Held.empty]
  by_cases emptied : other ∈ fields
  · rw [if_pos emptied]
    exact fun datum none => absurd none List.not_mem_nil
  · rw [if_neg emptied]
    exact without other

theorem counted_without (field : Field) : Without token (counted reading held field) :=
  put_without held without _ _ (fun datum listed => without .notifications datum (List.mem_of_mem_filter listed)) field

theorem started_without (pending : List (Datum δ)) (own : Without token pending) (field : Field) :
    Without token (started held pending field) := by
  rw [started]
  split
  · exact without field
  · exact put_without held without _ _ own field

end Ridding

theorem not_old_made (token : Option String) : ¬ Old token [] := by
  rintro ⟨fetched, carried, _⟩
  exact List.not_mem_nil carried

theorem place_task_without (token : Option String) (reading : Reading ν δ) (task : Datum δ) (own : ¬ Old token task.tokens)
    (tasks placed : List (Datum δ)) (without : Without token tasks) (done : placeTask reading task tasks = some placed) :
    Without token placed := by
  induction tasks generalizing placed with
  | nil => exact absurd done.symm (Option.some_ne_none _)
  | cons other rest ih =>
      obtain ⟨first, others⟩ := List.forall_mem_cons.mp without
      rw [placeTask] at done
      split at done
      · obtain rfl := Option.some.inj done
        exact List.forall_mem_cons.mpr ⟨own, others⟩
      · obtain ⟨later, found, rfl⟩ := Option.map_eq_some_iff.mp done
        exact List.forall_mem_cons.mpr ⟨first, ih later others found⟩

theorem with_task_without (token : Option String) (reading : Reading ν δ) (held : Held δ)
    (without : ∀ field, Without token (held field)) (task : Datum δ) (own : ¬ Old token task.tokens) (field : Field) :
    Without token (withTask reading held task field) := by
  have listed : Without token ((placeTask reading task (held .vmTasks)).getD (task :: held .vmTasks)) := by
    cases placed : placeTask reading task (held .vmTasks) with
    | none => exact List.forall_mem_cons.mpr ⟨own, without .vmTasks⟩
    | some tasks => exact place_task_without token reading task own _ tasks (without .vmTasks) placed
  have put := put_without held without .vmTasks _ listed
  rw [withTask]
  split
  · exact put field
  · exact empty_without _ put _ field

theorem tasks_without (token : Option String) (reading : Reading ν δ) (tasks : List (Datum δ)) (own : Without token tasks)
    (held : Held δ) (without : ∀ field, Without token (held field)) (field : Field) :
    Without token (tasks.foldl (withTask reading) held field) := by
  induction tasks generalizing held with
  | nil => exact without field
  | cons task rest ih =>
      obtain ⟨first, others⟩ := List.forall_mem_cons.mp own
      exact ih others _ (with_task_without token reading held without task first)

theorem assigned_without (token : Option String) (reading : Reading ν δ) (detail : List (Datum δ))
    (own : Without token detail) (object : Datum δ) (without : ¬ Old token object.tokens) :
    ¬ Old token (assigned reading object detail).tokens := by
  induction detail generalizing object with
  | nil => exact without
  | cons part rest ih =>
      obtain ⟨first, others⟩ := List.forall_mem_cons.mp own
      refine ih others _ ?_
      rintro ⟨fetched, carried, withToken⟩
      rcases List.mem_append.mp carried with before | after
      · exact without ⟨fetched, before, withToken⟩
      · exact first ⟨fetched, after, withToken⟩

theorem detailed_without (token : Option String) (reading : Reading ν δ) (held : Held δ)
    (without : ∀ field, Without token (held field)) (selected : Bool) (row : Option Nat) (detail : List (Datum δ))
    (own : Without token detail) (field : Field) : Without token (detailed reading held selected row detail field) := by
  have opened : ∀ other, Without token (rowAssigned reading held detail row other) := by
    cases row with
    | none => exact without
    | some vm =>
        refine put_without held without _ _ ?_
        intro datum listed
        obtain ⟨index, inside, rfl⟩ := List.mem_iff_getElem.mp listed
        rw [List.length_modify] at inside
        have before := without .vms _ (List.getElem_mem inside)
        rw [List.getElem_modify]
        split
        · exact assigned_without token reading detail own _ before
        · exact before
  rw [detailed]
  refine empty_without _ ?_ _ field
  cases selected with
  | false => exact opened
  | true => exact put_without _ opened _ _ (List.forall_mem_append.mpr ⟨opened .selectedVm, own⟩)

theorem answered_without (token : Option String) (reading : Reading ν δ) (held : Held δ)
    (without : ∀ field, Without token (held field)) (data : Field → List (Datum δ))
    (brought : ∀ field, Without token (data field)) (call : Call) (field : Field) :
    Without token (answered reading held data call field) := by
  have put (other : Field) := put_without held without other (data other) (brought other)
  cases call with
  | fetchMe caller => exact put .user field
  | fetchVms => exact put_without _ (put .vms) _ _ (brought .vmsError) field
  | fetchLxcs caller => exact put .lxcs field
  | fetchStorages caller => exact put .storages field
  | fetchNetworks caller => exact put .networks field
  | fetchAudit =>
      have total := put_without _ (put .auditEntries) .auditTotal _ (brought .auditTotal)
      have page := put_without _ total .auditPage _ (brought .auditPage)
      have perPage := put_without _ page .auditPerPage _ (brought .auditPerPage)
      exact put_without _ perPage .auditPages _ (brought .auditPages) field
  | fetchVmConfig => exact put .vmConfig field
  | fetchVmTask => exact tasks_without token reading _ (brought .vmTasks) held without field
  | confirmVmAction => exact started_without _ (empty_without held without _) _ (brought .vmActionPending) field
  | fetchHaGroups => exact put_without _ (put .haGroups) _ _ (brought .haGroupsError) field
  | saveHaGroup => exact empty_without held without _ field
  | bulkAction => exact empty_without _ (put .bulkResults) _ field
  | confirmMigrate => exact started_without held without _ (brought .vmActionPending) field
  | fetchCustomDashboard => exact put .customDashboard field
  | fetchWidgetTypes => exact put .widgetTypes field
  | submitVmCreate =>
      have noticed := put_without held without .notifications (⟨[], reading.created⟩ :: held .notifications)
        (List.forall_mem_cons.mpr ⟨not_old_made token, without .notifications⟩)
      exact empty_without _ (counted_without _ noticed reading) _ field
  | fetchNotifications => exact counted_without _ (put .notifications) reading field
  | fetchApiKeys => exact put .apiKeys field
  | saveApiKey => exact put .newlyCreatedKey field
  | fetchVmDetail => exact without field
  | deleteHaGroup => exact without field
  | saveCustomDashboard => exact without field
  | revokeApiKey => exact without field
  | registerPasskey => exact without field

theorem stop_idle (polls : Intervals Poll) (idle : polls.running = []) (poll : Poll) : (polls.stop poll).running = [] := by
  rw [Intervals.stop]
  split
  · exact idle
  · exact (congrArg (List.filter _) idle).trans List.filter_nil

section Hearing

variable {token : Option String} (page : Page δ) (rid : Rid token page)
include rid

theorem holding_rid (held : Held δ) (without : ∀ field, Without token (held field)) : Rid token (page.holding held) :=
  ⟨rid.left, ⟨rid.cleared.polls, without⟩, rid.awaits⟩

theorem logout_rid : Rid token page.logout := by
  refine ⟨rfl, ⟨?_, empty_without _ rid.cleared.fields resetFields⟩, rid.awaits⟩
  exact stop_idle _ (stop_idle _ rid.cleared.polls .vms) .notifications

theorem send_rid (call : Call) : Rid token (page.send call) := by
  rw [send]
  split
  · refine ⟨rid.left, ⟨rid.cleared.polls, empty_without _ rid.cleared.fields _⟩, ?_⟩
    rw [List.forall_mem_append, List.forall_mem_singleton, rid.left]
    exact ⟨rid.awaits, not_old_made token⟩
  · exact rid

theorem fails_rid (call : Call) (error : Datum δ) (own : ¬ Old token error.tokens) : Rid token (page.fails call error) := by
  rw [fails]
  split
  · exact logout_rid page rid
  · split
    · exact rid
    · next field taken =>
        have emptied := empty_without page.held rid.cleared.fields call.loses
        exact holding_rid page rid _ (put_without _ emptied field [error] (List.forall_mem_singleton.mpr own))

end Hearing

theorem send_all_rid {token : Option String} (page : Page δ) (rid : Rid token page) (calls : List Call) :
    Rid token (page.sendAll calls) := by
  induction calls generalizing page with
  | nil => exact rid
  | cons call rest ih => exact ih _ (send_rid page rid call)

theorem resume_rid {token : Option String} (reading : Reading ν δ) (page : Page δ) (rid : Rid token page) (call : Call)
    (sent : Option String) (other : ¬ Old token sent.toList) (heard : Heard δ) :
    Rid token (page.resume reading call sent heard) := by
  have fetched (content : List δ) : Without token (content.map (Datum.mk sent.toList)) := by
    rw [Without, List.forall_mem_map]
    exact fun _ _ => other
  cases heard with
  | body content =>
      have brought := fun field => fetched (content field)
      have answered := answered_without token reading page.held rid.cleared.fields _ brought call
      exact send_all_rid _ (holding_rid page rid _ answered) _
  | detail selected row content =>
      rw [resume]
      split
      · exact holding_rid page rid _
          (detailed_without token reading page.held rid.cleared.fields selected row _ (fetched content))
      · exact rid
  | refused message => exact fails_rid page rid call _ other
  | failed message => exact fails_rid page rid call _ (not_old_made token)
  | unauthorized message => exact fails_rid _ (logout_rid page rid) call _ (not_old_made token)
  | passesBy => exact rid

theorem hears_rid {token : Option String} (reading : Reading ν δ) (page : Page δ) (rid : Rid token page) (index : Nat)
    (heard : Heard δ) : Rid token (page.hears reading index heard) := by
  rw [hears]
  split
  · exact rid
  · next call sent found =>
      have taken : Rid token { page with waiting := page.waiting.eraseIdx index } :=
        ⟨rid.left, ⟨rid.cleared.polls, rid.cleared.fields⟩, fun other waits => rid.awaits other (List.mem_of_mem_eraseIdx waits)⟩
      exact resume_rid reading _ taken call sent (rid.awaits _ (List.mem_of_getElem? found)) heard

theorem send_all_field (page : Page δ) (calls : List Call) (field : Field) (left : ∀ call ∈ calls, field ∉ call.starts) :
    (page.sendAll calls).held field = page.held field := by
  induction calls generalizing page with
  | nil => rfl
  | cons call rest ih =>
      obtain ⟨first, others⟩ := List.forall_mem_cons.mp left
      refine (ih (page.send call) others).trans ?_
      rw [send]
      split
      · exact if_neg first
      · rfl

theorem refusal_leaves (reading : Reading ν δ) (page : Page δ) (call : Call) (fetched : String) (field : Field)
    (later : call.caller ≠ some .init) (taken : call.error = some field) :
    ∃ heard field, ∃ datum ∈ (page.resume reading call (some fetched) heard).held field, fetched ∈ datum.tokens := by
  refine ⟨.refused reading.created, field, ⟨[fetched], reading.created⟩, ?_, List.mem_singleton_self _⟩
  rw [resume, fails, if_neg later, taken]
  change _ ∈ Held.put _ field _ field
  rw [Held.put, if_pos rfl]
  exact List.mem_singleton_self _

theorem body_leaves (reading : Reading ν δ) (page : Page δ) (call : Call) (fetched : String) (field : Field)
    (brought : ∀ data, answered reading page.held data call field = data field)
    (left : ∀ content : Field → List δ, ∀ other ∈ call.next content, field ∉ other.starts) :
    ∃ heard field, ∃ datum ∈ (page.resume reading call (some fetched) heard).held field, fetched ∈ datum.tokens := by
  refine ⟨.body fun _ => [reading.created], field, ⟨[fetched], reading.created⟩, ?_, List.mem_singleton_self _⟩
  have marked : ⟨[fetched], reading.created⟩ ∈
      answered reading page.held (fun _ => [⟨[fetched], reading.created⟩]) call field := by
    rw [brought]
    exact List.mem_singleton_self _
  rw [resume, send_all_field _ _ field (left _)]
  exact marked

theorem answer_leaves (reading : Reading ν δ) (page : Page δ) (call : Call) (fetched : String) :
    ∃ heard field, ∃ datum ∈ (page.resume reading call (some fetched) heard).held field, fetched ∈ datum.tokens := by
  have refusal := refusal_leaves reading page call fetched
  have body := body_leaves reading page call fetched
  cases call with
  | fetchMe caller =>
      refine body .user (fun _ => rfl) ?_
      intro content other next
      simp only [Call.next, fetchAll, List.mem_cons, List.not_mem_nil, or_false] at next
      rcases next with rfl | rfl | rfl | rfl <;> exact List.not_mem_nil
  | fetchLxcs caller => exact body .lxcs (fun _ => rfl) fun _ _ none => absurd none List.not_mem_nil
  | fetchStorages caller => exact body .storages (fun _ => rfl) fun _ _ none => absurd none List.not_mem_nil
  | fetchNetworks caller => exact body .networks (fun _ => rfl) fun _ _ none => absurd none List.not_mem_nil
  | fetchWidgetTypes => exact body .widgetTypes (fun _ => rfl) fun _ _ none => absurd none List.not_mem_nil
  | fetchNotifications => exact body .notifications (fun _ => rfl) fun _ _ none => absurd none List.not_mem_nil
  | _ => exact refusal _ (Option.some_ne_none _).symm rfl

theorem quiet_leaves_nothing (page : Page δ) (quiet : Quiet page) : LeavesNothing page := by
  refine ⟨quiet.detail, ?_⟩
  rintro field left datum inField ⟨fetched, withToken, _⟩
  rw [quiet.spared field left datum inField] at withToken
  exact List.not_mem_nil withToken

end Polls

section Routes

variable {ν δ : Type} [DecidableEq ν] (browser : Browser ν) (reading : Reading ν δ)

theorem select_polls (page : Page δ) : (page.selectVm browser reading).polls = page.polls := by
  rw [selectVm]
  split <;> rfl

theorem reset_kept (page : Page δ) :
    Kept page (if page.route = "vm-create" then page.resetVmCreateForm else page) := by
  split
  · exact emptied_kept page _
  · exact Kept.refl page

theorem route_tidy {sparing : Prop} (page : Page δ) (tidy : Tidy sparing page)
    (spared : sparing → page.token = none ∨ page.route ≠ "vm-detail") :
    Tidy sparing (page.maybeLoadRoute browser reading) := by
  rw [maybeLoadRoute]
  cases known : page.token with
  | none => exact tidy
  | some token =>
      by_cases vms : page.route = "vms"
      · simp only [if_pos vms]
        have stopped : Tidy sparing page.stopVmDetailPolling := stop_tidy page tidy .vmDetail
        exact kept_tidy (send_kept _ _) (start_tidy _ stopped .vms fun _ => by decide)
      · have stopped : Tidy sparing page.stopVmPolling := stop_tidy page tidy .vms
        by_cases detail : page.route = "vm-detail"
        · simp only [if_neg vms, if_pos detail]
          have unspared : ¬ sparing := by
            intro spares
            exact (spared spares).elim (by simp [known]) (absurd detail)
          have selected := unspared_tidy (select_polls browser reading page.stopVmPolling) unspared stopped
          exact start_tidy _ (kept_tidy (send_kept _ _) selected) .vmDetail fun spares => absurd spares unspared
        · simp only [if_neg vms, if_neg detail]
          cases routeCalls page.route with
          | none => exact tidy
          | some calls =>
              refine kept_tidy ((reset_kept page.stopVmPolling.stopVmDetailPolling).trans (send_all_kept _ _)) ?_
              exact stop_tidy _ stopped .vmDetail

theorem loads_tidy {sparing : Prop} (page : Page δ) (tidy : Tidy sparing page) (spared : sparing → Sparing page .loads) :
    Tidy sparing (page.loads browser reading) := by
  have shown := route_tidy browser reading page tidy spared
  rw [loads]
  split
  · exact notifications_tidy _ shown
  · exact shown

end Routes

section Runs

variable {ν δ : Type} [DecidableEq ν] [DecidableEq δ] (browser : Browser ν) (reading : Reading ν δ)

-- The turns that neither touch the timers nor take what is in a field that `logout` empties.
def isPlain : Turn δ → Bool
  | .loads => false
  | .logout => false
  | .hashchange _ => false
  | .visibilitychange _ => false
  | .hears _ _ => false
  | .openVm _ => false
  | .toggleVmSelection _ => false
  | .toggleSelectAll _ => false
  | .loadNodes _ => false
  | .auditGoToPage _ => false
  | _ => true

theorem step_kept (page : Page δ) (turn : Turn δ) (plain : isPlain turn = true) : Kept page (step browser reading page turn) := by
  cases turn with
  | init => exact init_kept page
  | login token => exact sign_in_kept page .loginError .login token
  | loginWithPasskey token => exact sign_in_kept page .passkeyError .loginWithPasskey token
  | goes route => exact ⟨rfl, id⟩
  | ticks poll => exact ticks_kept page poll
  | calls call => exact send_kept page call
  | backToList => exact back_kept page
  | clearAuditFilters => exact clear_filters_kept page
  | cancelVmCreate => exact cancel_create_kept page
  | hidesBulkResults => exact emptied_kept page _
  | hidesPasskeyError => exact emptied_kept page _
  | switchVmTab tab => exact tab_kept page tab
  | requestVmAction => exact request_kept page
  | cancelVmAction => exact emptied_kept page _
  | editHaGroup g => exact edit_group_kept page g
  | cancelHaGroupForm => exact emptied_kept page _
  | clearVmSelection => exact emptied_kept page _
  | addWidget type => exact add_widget_kept page type
  | removeWidget edited => exact remove_widget_kept page edited
  | editWidget => exact holding_kept page _ fun spared => spared_copy _ spared .customDashboard .editingWidget (by decide)
  | saveWidgetEdit => exact save_widget_kept page
  | cancelWidgetEdit => exact emptied_kept page _
  | markNotificationRead idx => exact mark_read_kept reading page idx
  | markAllNotificationsRead => exact mark_all_kept reading page
  | cancelCreateApiKey => exact emptied_kept page _
  | _ => exact absurd plain Bool.false_ne_true

theorem step_tidy {sparing : Prop} (page : Page δ) (tidy : Tidy sparing page) (turn : Turn δ)
    (spared : sparing → Sparing page turn) : Tidy sparing (step browser reading page turn) := by
  obtain ⟨opened, toggled, nodes⟩ := copying_polls reading page
  cases turn with
  | loads => exact loads_tidy browser reading page tidy spared
  | logout => exact logout_tidy page tidy
  | hashchange hash =>
      have moved : Kept page { page with hash := hash, route := parseRoute hash } := ⟨rfl, id⟩
      exact route_tidy browser reading _ (kept_tidy moved tidy) spared
  | visibilitychange hidden => exact visibility_tidy page tidy hidden
  | hears index heard => exact hears_tidy reading page tidy index heard spared
  | openVm vm => exact unspared_tidy (opened vm) spared tidy
  | toggleVmSelection vm => exact unspared_tidy (toggled vm) spared tidy
  | toggleSelectAll shown =>
      have selected : (page.toggleSelectAll reading shown).polls = page.polls := rfl
      exact unspared_tidy selected spared tidy
  | loadNodes listed => exact unspared_tidy (nodes listed) spared tidy
  | auditGoToPage button => exact page_tidy reading page tidy button spared
  | _ => exact kept_tidy (step_kept browser reading page _ rfl) tidy

theorem run_tidy {sparing : Prop} (page : Page δ) (tidy : Tidy sparing page) (turns : List (Turn δ))
    (spared : sparing → ∀ occurrence ∈ (machine browser reading).trace page turns,
      Sparing occurrence.before occurrence.input) :
    Tidy sparing ((machine browser reading).run page turns) := by
  induction turns generalizing page with
  | nil => exact tidy
  | cons turn rest ih =>
      simp only [Machine.trace, List.forall_mem_cons] at spared
      refine ih _ (step_tidy browser reading page tidy turn ?_) ?_
      · exact fun spares => (spared spares).1
      · exact fun spares => (spared spares).2

theorem answers_rid (token : Option String) (page : Page δ) (rid : Rid token page) (answers : List (Nat × Heard δ)) :
    Rid token (hearsAll browser reading page answers) := by
  induction answers generalizing page with
  | nil => exact rid
  | cons answer rest ih => exact ih _ (hears_rid reading page rid answer.1 answer.2)

theorem stays_cleared_iff (page : Page δ) (valid : page.polls.Valid) :
    (∀ answers, Cleared page.token (hearsAll browser reading page.logout answers)) ↔
      LeavesNothing page ∧ AwaitsNothing page := by
  constructor
  · intro cleared
    refine ⟨(cleared_iff page valid).mp (cleared []), ?_⟩
    rintro ⟨call, sent⟩ waits ⟨fetched, carried, withToken⟩
    obtain ⟨index, found⟩ := List.mem_iff_getElem?.mp waits
    have known : sent = some fetched := Option.mem_toList.mp carried
    obtain ⟨heard, field, datum, inField, left⟩ :=
      answer_leaves reading { page.logout with waiting := page.waiting.eraseIdx index } call fetched
    have heardThen : hearsAll browser reading page.logout [(index, heard)] =
        { page.logout with waiting := page.waiting.eraseIdx index }.resume reading call (some fetched) heard := by
      change page.logout.hears reading index heard = _
      have awaited : page.logout.waiting[index]? = some (call, some fetched) := known ▸ found
      rw [hears, awaited]
      rfl
    have after := (cleared [(index, heard)]).fields field datum
    rw [heardThen] at after
    exact after inField ⟨fetched, left, withToken⟩
  · rintro ⟨leaves, awaits⟩ answers
    exact (answers_rid browser reading _ _ ⟨rfl, (cleared_iff page valid).mpr leaves, awaits⟩ answers).cleared

end Runs

section Failing

def plainBrowser : Browser Nat :=
  { number := fun text => text.toNat?.getD 0, text := toString, hash := id }

def namedVms : Reading Nat (VmPlace Nat × String) :=
  { cluster := fun vm => vm.1.cluster
    node := fun vm => vm.1.node
    vmid := fun vm => vm.1.vmid
    assign := fun _ part => part
    key := fun vm => vm
    place := fun sel => (sel, "")
    before := id
    after := id
    upid := Prod.snd
    running := fun task => task.2 = "running"
    created := (⟨"", "", 0⟩, "created")
    unread := fun _ => true
    read := id }

-- The page of a VM is opened from its link, and its detail comes in.
def detailShown : Page (VmPlace Nat × String) :=
  (machine plainBrowser namedVms).run (loaded (some "token") "#/vm/eu/n1/100" "vm-detail") 
    [.loads, .hears 0 (.detail true none [(⟨"eu", "n1", 100⟩, "web")])]

end Failing

end Page

end Moxui.Ui.Session
