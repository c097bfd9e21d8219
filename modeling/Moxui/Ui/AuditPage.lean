import Moxui.Api.Flattening
import Moxui.Audit.Listing
import Moxui.Audit.Pagination
import Moxui.Lib.FormFields
import Moxui.Lib.UrlForm
import Moxui.Ui.ServerPaths

set_option autoImplicit false

namespace Moxui.Ui

open Moxui.Api
open Moxui.Audit (AuditTable AuditQuery AuditQueryParams AuditEntryResponse AuditResponse AuditRejection Record)

def statusOptions : List String :=
  ["", "200", "201", "204", "400", "401", "403", "404", "500"]

structure AuditFilter where
  method : String
  path : String
  status : String
  requestId : String
  offered : status ∈ statusOptions

def AuditFilter.blank : AuditFilter :=
  { method := "", path := "", status := "", requestId := "", offered := List.mem_cons_self }

-- The page of the audit log; `waiting` are the calls of `fetchAudit` that have not been answered.
structure AuditPage where
  filter : AuditFilter
  entries : List AuditEntryResponse
  total : Nat
  page : Nat
  perPage : Nat
  pages : Nat
  loading : Bool
  error : Option String
  waiting : List String

inductive PageButton where
  | first
  | prev
  | next
  | last

inductive AuditTurn where
  | filters (filter : AuditFilter)
  | fetchAudit
  | auditGoToPage (button : PageButton)
  | clearAuditFilters
  | answered (index : Nat) (table : AuditTable)
  | unauthorized (index : Nat)
  | failed (index : Nat) (message : String)
  | logout

-- `value || fallback`
def truthy (value fallback : Nat) : Nat :=
  if value = 0 then fallback else value

-- A text that is falsy is not set.
def given (text : String) : Option String :=
  if text = "" then none else some text

def auditFields (filter : AuditFilter) (page perPage : Nat) : List (String × Option String) :=
  [("page", some (toString page)), ("per_page", some (toString perPage)), ("method", given filter.method),
    ("path", given filter.path), ("status", given filter.status), ("request_id", given filter.requestId)]

def formBytes (fields : List (String × Option String)) : List (Percent.Bytes × Percent.Bytes) :=
  (FormFields.pairs fields).map fun pair => (Text.bytes pair.1, Text.bytes pair.2)

-- `params.toString()` of the `URLSearchParams`.
def searchParams (fields : List (String × Option String)) : String :=
  asciiText (Url.formText (formBytes fields))

def auditPath (filter : AuditFilter) (page perPage : Nat) : String :=
  "/api/v1/audit?" ++ searchParams (auditFields filter page perPage)

def sentQuery (origin : Url.Origin) (path : String) : Option (Option String) :=
  (Url.parse (origin.text ++ Text.bytes path)).map fun url => url.query.map asciiText

-- What `api` throws when the answer is not ok.
def rejectionMessage (path : String) : AuditRejection → String
  | .query _ => path ++ " → HTTP 400"
  | .failed _ => "audit query failed"

namespace AuditPage

def loaded : AuditPage :=
  { filter := .blank, entries := [], total := 0, page := 1, perPage := 50, pages := 0, loading := false, error := none
    waiting := [] }

section Turns

variable (lossy : List UInt8 → String) (origin : Url.Origin) (page : AuditPage)

def auditCall : String :=
  auditPath page.filter page.page page.perPage

def fetchAudit : AuditPage × Option String :=
  ({ page with loading := true, error := none, waiting := page.waiting ++ [page.auditCall] }, some page.auditCall)

def shows (response : AuditResponse) : AuditPage :=
  { page with
    entries := response.entries, total := response.total.toNat, page := truthy response.page.toNat 1
    perPage := truthy response.perPage.toNat 50, pages := response.pages.toNat, loading := false }

def fails (message : String) : AuditPage :=
  { page with error := some message, entries := [], loading := false }

def logout : AuditPage :=
  { page with entries := [], total := 0, pages := 0, error := none }

-- The buttons are shown for more than one page, and disabled where there is nowhere to go.
def target : PageButton → Option Nat
  | .first => if 1 < page.pages ∧ 1 < page.page then some 1 else none
  | .prev => if 1 < page.pages ∧ 1 < page.page then some (page.page - 1) else none
  | .next => if 1 < page.pages ∧ page.page < page.pages then some (page.page + 1) else none
  | .last => if 1 < page.pages ∧ page.page < page.pages then some page.pages else none

-- The server looks into the log as it is when it answers.
def answer (table : AuditTable) (path : String) : Except String AuditResponse :=
  match sentQuery origin path with
  | none => .error "Failed to parse URL"
  | some query => (Moxui.Audit.listAudit lossy table query).mapError (rejectionMessage path)

def heard (index : Nat) (hear : AuditPage → String → AuditPage) : AuditPage × Option String :=
  match page.waiting[index]? with
  | none => (page, none)
  | some path => (hear { page with waiting := page.waiting.eraseIdx index } path, none)

def step : AuditTurn → AuditPage × Option String
  | .filters filter => ({ page with filter := filter }, none)
  | .fetchAudit => page.fetchAudit
  | .auditGoToPage button =>
      match page.target button with
      | none => (page, none)
      | some number => { page with page := number }.fetchAudit
  | .clearAuditFilters => { page with filter := .blank, page := 1 }.fetchAudit
  | .answered index table =>
      page.heard index fun page path =>
        match answer lossy origin table path with
        | .error message => page.fails message
        | .ok response => page.shows response
  | .unauthorized index => page.heard index fun page _ => page.logout.fails "unauthorized"
  | .failed index message => page.heard index fun page _ => page.fails message
  | .logout => (page.logout, none)

end Turns

def machine (lossy : List UInt8 → String) (origin : Url.Origin) : Machine AuditPage AuditTurn (Option String) where
  step := fun page turn => page.step lossy origin turn

end AuditPage

section Reading

theorem take_given {α : Type} (params : AuditQueryParams) (name : String) (write : α → String)
    (update : Option α → AuditQueryParams) (kept : update none = params)
    (takes : ∀ value, params.take (name, write value) = .ok (update (some value))) (value : Option α) :
    (FormFields.pairs [(name, value.map write)]).foldlM AuditQueryParams.take params = .ok (update value) := by
  cases value with
  | none =>
      rw [kept]
      rfl
  | some value =>
      change (params.take (name, write value) >>= pure) = _
      rw [takes]
      rfl

theorem take_fields (page perPage : Nat) (pageFits : page < UInt64.size) (perPageFits : perPage < UInt64.size)
    (method path requestId : Option String) (status : Option UInt16) :
    AuditQueryParams.takeAll (FormFields.pairs
        [("page", some (toString page)), ("per_page", some (toString perPage)), ("method", method.map id),
          ("path", path.map id), ("status", status.map fun status => toString status.toNat), ("request_id", requestId.map id)]) =
      .ok
        { AuditQueryParams.unset with
          page := some (UInt64.ofNat page), perPage := some (UInt64.ofNat perPage), method := method, path := path
          status := status, requestId := requestId } := by
  let start : AuditQueryParams := { AuditQueryParams.unset with page := some (UInt64.ofNat page) }
  let both : AuditQueryParams := { start with perPage := some (UInt64.ofNat perPage) }
  have pageTaken : AuditQueryParams.unset.take ("page", toString page) = .ok start := by
    simp only [AuditQueryParams.take, if_true, parse_decimal _ _ pageFits]
    rfl
  have perPageTaken : start.take ("per_page", toString perPage) = .ok both := by
    simp only [AuditQueryParams.take, String.reduceEq, if_true, if_false, parse_decimal _ _ perPageFits]
    rfl
  have methodTaken := take_given both "method" id (fun method => { both with method := method }) rfl
    (fun _ => by simp only [AuditQueryParams.take, String.reduceEq, if_true, if_false, id]; rfl) method
  have pathTaken := take_given { both with method := method } "path" id
    (fun path => { both with method := method, path := path }) rfl
    (fun _ => by simp only [AuditQueryParams.take, String.reduceEq, if_true, if_false, id]; rfl) path
  have statusTaken := take_given { both with method := method, path := path } "status"
    (fun status : UInt16 => toString status.toNat) (fun status => { both with method := method, path := path, status := status })
    rfl (fun status => by
      simp only [AuditQueryParams.take, String.reduceEq, if_true, if_false, parse_decimal _ _ status.toNat_lt]
      change Except.ok _ = _
      simp) status
  have requestIdTaken := take_given { both with method := method, path := path, status := status } "request_id" id
    (fun requestId => { both with method := method, path := path, status := status, requestId := requestId }) rfl
    (fun _ => by simp only [AuditQueryParams.take, String.reduceEq, if_true, if_false, id]; rfl) requestId
  rw [AuditQueryParams.takeAll, FormFields.pairs_set, FormFields.pairs_set, FormFields.pairs_cons_cons ("method", _),
    FormFields.pairs_cons_cons ("path", _), FormFields.pairs_cons_cons ("status", _), List.foldlM_cons, pageTaken]
  change ((start.take ("per_page", toString perPage)) >>= _) = _
  rw [perPageTaken]
  change List.foldlM _ both _ = _
  rw [List.foldlM_append, methodTaken]
  change List.foldlM _ _ _ = _
  rw [List.foldlM_append, pathTaken]
  change List.foldlM _ _ _ = _
  rw [List.foldlM_append, statusTaken]
  exact requestIdTaken
end Reading

section Wire

def AuditFilter.statusCode (filter : AuditFilter) : Option UInt16 :=
  (parseUnsigned UInt16.size filter.status).map UInt16.ofNat

theorem given_status (filter : AuditFilter) :
    given filter.status = filter.statusCode.map fun status => toString status.toNat := by
  have all : (statusOptions.all fun status =>
      given status == ((parseUnsigned UInt16.size status).map UInt16.ofNat).map fun status => toString status.toNat) = true := by
    decide +kernel
  exact beq_iff_eq.mp (List.all_eq_true.mp all _ filter.offered)

theorem spared_small (byte : UInt8) (spared : Url.sparedInQuery byte = true) : byte < 128 := by
  have all : ∀ value : Fin 256, Url.sparedInQuery (UInt8.ofFin value) = true → UInt8.ofFin value < 128 := by decide +kernel
  exact all byte.toFin spared

theorem search_params_bytes (fields : List (String × Option String)) :
    Text.bytes (searchParams fields) = Url.formText (formBytes fields) :=
  Text.ascii_bytes _ fun byte member => spared_small byte (Url.form_text_spared _ byte member)

theorem audit_path_parsed (origin : Url.Origin) (filter : AuditFilter) (page perPage : Nat) :
    Url.parse (origin.text ++ Text.bytes (auditPath filter page perPage)) =
      some
        { scheme := origin.scheme, authority := origin.authority, path := Url.segmentsOf (Text.bytes "api/v1/audit")
          query := some (Url.formText (formBytes (auditFields filter page perPage))), fragment := none } := by
  have route : Text.bytes "/api/v1/audit?" = 47 :: (Text.bytes "api/v1/audit" ++ [63]) := by decide +kernel
  have plain : ∀ byte ∈ Text.bytes "api/v1/audit", Url.endsPath byte = false ∧ Url.edge byte = false := by decide +kernel
  have written : Text.bytes (auditPath filter page perPage) =
      47 :: (Text.bytes "api/v1/audit" ++ 63 :: Url.formText (formBytes (auditFields filter page perPage))) := by
    rw [auditPath, Text.bytes_append, search_params_bytes, route]
    simp
  rw [written, Url.parse_form origin _ _ plain]

theorem audit_query_sent (origin : Url.Origin) (filter : AuditFilter) (page perPage : Nat) :
    sentQuery origin (auditPath filter page perPage) = some (some (searchParams (auditFields filter page perPage))) := by
  rw [sentQuery, audit_path_parsed]
  rfl

theorem audit_path_routed (origin : Url.Origin) (filter : AuditFilter) (page perPage : Nat) :
    requestTarget origin (auditPath filter page perPage) = some "/api/v1/audit" := by
  have target : asciiText (47 :: Url.join (Url.segmentsOf (Text.bytes "api/v1/audit"))) = "/api/v1/audit" := by decide +kernel
  rw [requestTarget, audit_path_parsed]
  exact congrArg some target

theorem fields_read (lossy : List UInt8 → String) (decodes : ∀ text, lossy (Text.bytes text) = text)
    (fields : List (String × Option String)) :
    Moxui.Audit.readQuery lossy (some (searchParams fields)) = AuditQueryParams.takeAll (FormFields.pairs fields) := by
  have same : ((formBytes fields).map fun pair => (lossy pair.1, lossy pair.2)) = FormFields.pairs fields := by
    rw [formBytes, List.map_map]
    refine (List.map_congr_left fun pair _ => ?_).trans (List.map_id _)
    exact Prod.ext (decodes pair.1) (decodes pair.2)
  rw [Moxui.Audit.readQuery, Option.getD_some, search_params_bytes, Url.form_pairs_form_text, same]

end Wire

section Meaning

-- A record that the filter is about: a text that is not given does not matter.
def Matches (filter : AuditFilter) (record : Record) : Prop :=
  (filter.method = "" ∨ record.method = filter.method) ∧
    (filter.path = "" ∨ filter.path.toList <:+: record.path.toList) ∧
    (filter.status = "" ∨ toString record.status = filter.status) ∧
    (filter.requestId = "" ∨ record.requestId = filter.requestId)

instance (filter : AuditFilter) : DecidablePred (Matches filter) := fun _ =>
  inferInstanceAs (Decidable (_ ∧ _ ∧ _ ∧ _))

def matching (table : AuditTable) (filter : AuditFilter) : List Record :=
  table.records.filter fun record => Matches filter record

-- The page shows this many-th page of 50 of what the filter is about, the newest first.
structure Shows (table : AuditTable) (filter : AuditFilter) (number : Nat) (page : AuditPage) : Prop where
  entries : ∃ rows : List Record, rows.Perm (matching table filter) ∧ rows.Pairwise (Moxui.Audit.Precedes .desc) ∧
    page.entries = (((rows.drop ((number - 1) * 50)).take 50).map fun record => (Moxui.Audit.rowOf record).response)
  total : page.total = (matching table filter).length
  pages : page.pages = ((matching table filter).length + 49) / 50
  number : page.page = number
  perPage : page.perPage = 50

def AuditFilter.query (filter : AuditFilter) (page perPage : Nat) : AuditQuery :=
  { page := UInt64.ofNat page, perPage := UInt64.ofNat perPage, method := given filter.method, path := given filter.path
    status := filter.statusCode, fromTs := none, toTs := none, requestId := given filter.requestId, sortDir := .desc }

theorem given_iff (text : String) (Holds : String → Prop) : (∀ value ∈ given text, Holds value) ↔ text = "" ∨ Holds text := by
  unfold given
  by_cases blank : text = ""
  · simp [blank]
  · simp [blank]

theorem status_iff (filter : AuditFilter) (status : Int) :
    (∀ code ∈ filter.statusCode, status = code.toNat) ↔ filter.status = "" ∨ toString status = filter.status := by
  rw [← given_iff filter.status fun text => toString status = text, given_status]
  cases filter.statusCode with
  | none => simp
  | some code =>
      have written : toString (code.toNat : Int) = toString code.toNat := rfl
      simp only [Option.mem_some_iff, forall_eq', Option.map_some, ← written]
      exact int_text_injective.eq_iff.symm

theorem selected_iff (filter : AuditFilter) (page perPage : Nat) (record : Record) :
    Moxui.Audit.Selected (filter.query page perPage) record ↔ Matches filter record := by
  have statuses := status_iff filter record.status
  have methods := given_iff filter.method fun method => record.method = method
  have paths := given_iff filter.path fun path => path.toList <:+: record.path.toList
  have requestIds := given_iff filter.requestId fun requestId => record.requestId = requestId
  simp only [Moxui.Audit.Selected, AuditFilter.query, Matches, statuses, methods, paths, requestIds, Option.not_mem_none,
    IsEmpty.forall_iff, implies_true, true_and]

theorem selected_matching (table : AuditTable) (filter : AuditFilter) (page perPage : Nat) :
    Moxui.Audit.selectedRecords table (filter.query page perPage) = matching table filter := by
  apply List.filter_congr
  intro record _
  rw [Bool.eq_iff_iff, beq_iff_eq, Moxui.Audit.conjunction_selected, decide_eq_true_eq]
  exact selected_iff filter page perPage record

end Meaning

section Answers

open Moxui.Audit (maxRowId resultOf)

structure Numbered (number : Nat) : Prop where
  first : 1 ≤ number
  inside : (number - 1) * 50 ≤ maxRowId

theorem Numbered.fits {number : Nat} (numbered : Numbered number) : number < UInt64.size := by
  have first := numbered.first
  have inside := numbered.inside
  simp only [maxRowId, UInt64.size] at inside ⊢
  omega

theorem Numbered.asU64 {number : Nat} (numbered : Numbered number) : (UInt64.ofNat number).toNat = number :=
  UInt64.toNat_ofNat_of_lt' numbered.fits

variable (filter : AuditFilter) (number : Nat) (table : AuditTable)

theorem query_valid (numbered : Numbered number) : (filter.query number 50).Valid where
  page := by
    intro zero
    have asNat := congrArg UInt64.toNat zero
    rw [show (filter.query number 50).page = UInt64.ofNat number from rfl, numbered.asU64] at asNat
    have first := numbered.first
    simp only [UInt64.toNat_zero] at asNat
    omega
  perPage := by
    intro impossible
    exact absurd (show (50 : UInt64) = 0 from impossible) (by decide)
  perPageMax := show (50 : UInt64) ≤ 500 by decide

theorem query_offset (numbered : Numbered number) :
    (Moxui.Audit.toI64Or 0 (((filter.query number 50).page - 1) * (filter.query number 50).perPage)).toNat =
      (number - 1) * 50 := by
  have asNat : (filter.query number 50).page.toNat = number := numbered.asU64
  have perPage : (filter.query number 50).perPage.toNat = 50 := rfl
  have sizes : maxRowId < UInt64.size := by decide
  have product := Moxui.Audit.offset_exact (filter.query number 50) (query_valid filter number numbered) (by
    rw [asNat, perPage]
    exact numbered.inside.trans_lt sizes)
  rw [asNat, perPage] at product
  have isI64 : ((filter.query number 50).page - 1) * (filter.query number 50).perPage ≤ Moxui.Audit.maxI64 := by
    rw [UInt64.le_iff_toNat_le, product]
    exact numbered.inside
  rw [Moxui.Audit.toI64Or, if_pos isI64, product]
  rfl

def responseOf (result : Moxui.Audit.AuditQueryResult) : AuditResponse :=
  { entries := result.entries.map Moxui.Audit.AuditEntryRow.response, total := result.total, page := result.page
    perPage := result.perPage, pages := result.pages }

theorem result_shown (numbered : Numbered number) (page : AuditPage) :
    Shows table filter number (page.shows (responseOf (resultOf table (filter.query number 50)))) := by
  let q := filter.query number 50
  have valid := query_valid filter number numbered
  have rows := selected_matching table filter number 50
  have asNat : (resultOf table q).page.toNat = number := numbered.asU64
  refine ⟨⟨Moxui.Audit.sortedRecords table q, ?_, Moxui.Audit.sorted_precedes table q, ?_⟩, ?_, ?_, ?_, rfl⟩
  · rw [← rows]
    exact List.mergeSort_perm _ _
  · have entries : (resultOf table q).entries = (Moxui.Audit.pageRecords table q
        (Moxui.Audit.toI64Or 0 ((q.page - 1) * q.perPage)).toNat).map Moxui.Audit.rowOf := rfl
    rw [query_offset filter number numbered] at entries
    change (resultOf table q).entries.map _ = _
    rw [entries, List.map_map]
    rfl
  · rw [← rows]
    exact Moxui.Audit.total_counts table q
  · have pages := Moxui.Audit.pages_result table q
    rw [rows, Moxui.Audit.ceiling _ _ (Moxui.Audit.per_page_positive q valid)] at pages
    exact pages
  · change truthy (resultOf table q).page.toNat 1 = number
    rw [asNat, truthy, if_neg (Nat.ne_of_gt numbered.first)]

theorem list_audit_answers (lossy : List UInt8 → String) (decodes : ∀ text, lossy (Text.bytes text) = text)
    (numbered : Numbered number) :
    Moxui.Audit.listAudit lossy table (some (searchParams (auditFields filter number 50))) =
      .ok (responseOf (resultOf table (filter.query number 50))) := by
  have fields : auditFields filter number 50 =
      [("page", some (toString number)), ("per_page", some (toString 50)), ("method", (given filter.method).map id),
        ("path", (given filter.path).map id), ("status", filter.statusCode.map fun status => toString status.toNat),
        ("request_id", (given filter.requestId).map id)] := by
    simp only [auditFields, Option.map_id, id_eq, given_status]
  have taken := take_fields number 50 numbered.fits (by decide) (given filter.method) (given filter.path)
    (given filter.requestId) filter.statusCode
  rw [← fields] at taken
  have meant : AuditQueryParams.query
      { AuditQueryParams.unset with
        page := some (UInt64.ofNat number), perPage := some (UInt64.ofNat 50), method := given filter.method
        path := given filter.path, status := filter.statusCode, requestId := given filter.requestId } =
      filter.query number 50 := rfl
  rw [Moxui.Audit.listAudit, fields_read lossy decodes, taken]
  dsimp only
  rw [meant, Moxui.Audit.query_ok table _ (query_valid filter number numbered)]
  rfl

theorem call_answered (lossy : List UInt8 → String) (decodes : ∀ text, lossy (Text.bytes text) = text)
    (origin : Url.Origin) (numbered : Numbered number) :
    AuditPage.answer lossy origin table (auditPath filter number 50) =
      .ok (responseOf (resultOf table (filter.query number 50))) := by
  rw [AuditPage.answer, audit_query_sent]
  dsimp only
  rw [list_audit_answers filter number table lossy decodes numbered]
  rfl

end Answers

namespace AuditPage

open Moxui.Audit (maxRowId)

structure Sound (page : AuditPage) : Prop where
  numbered : Numbered page.page
  perPage : page.perPage = 50
  pages : (page.pages - 1) * 50 ≤ maxRowId

theorem loaded_sound : Sound loaded where
  numbered := ⟨Nat.le_refl 1, Nat.zero_le _⟩
  perPage := rfl
  pages := Nat.zero_le _

theorem Sound.fetching {page : AuditPage} (sound : Sound page) : Sound page.fetchAudit.1 :=
  ⟨sound.numbered, sound.perPage, sound.pages⟩

theorem target_numbered (page : AuditPage) (sound : Sound page) (button : PageButton) (number : Nat)
    (target : page.target button = some number) : Numbered number := by
  obtain ⟨⟨first, inside⟩, _, pages⟩ := sound
  cases button with
  | first =>
      obtain ⟨_, same⟩ := Option.ite_none_right_eq_some.mp target
      cases same
      exact ⟨Nat.le_refl 1, Nat.zero_le _⟩
  | prev =>
      obtain ⟨more, same⟩ := Option.ite_none_right_eq_some.mp target
      cases same
      exact ⟨by omega, by omega⟩
  | next =>
      obtain ⟨more, same⟩ := Option.ite_none_right_eq_some.mp target
      cases same
      exact ⟨by omega, by omega⟩
  | last =>
      obtain ⟨more, same⟩ := Option.ite_none_right_eq_some.mp target
      cases same
      exact ⟨by omega, pages⟩

theorem shown_sound (table : AuditTable) (filter : AuditFilter) (number : Nat) (numbered : Numbered number)
    (page : AuditPage) (shown : Shows table filter number page) : Sound page where
  numbered := by
    rw [shown.number]
    exact numbered
  perPage := shown.perPage
  pages := by
    have fewer : (matching table filter).length ≤ table.records.length := List.length_filter_le _ _
    have bound := Moxui.Audit.table_length table
    rw [shown.pages]
    omega

section Runs

variable (lossy : List UInt8 → String) (decodes : ∀ text, lossy (Text.bytes text) = text) (origin : Url.Origin)

def AskedFor (past : List (Machine.Event AuditPage AuditTurn (Option String))) (path : String) : Prop :=
  ∃ event ∈ past, event.output = some path ∧ path = event.after.auditCall ∧ Sound event.after

structure Accounted (past : List (Machine.Event AuditPage AuditTurn (Option String))) (page : AuditPage) : Prop where
  sound : Sound page
  calls : ∀ path ∈ page.waiting, AskedFor past path

theorem step_waiting (page : AuditPage) (turn : AuditTurn) :
    (∃ path, (page.step lossy origin turn).2 = some path ∧ path = (page.step lossy origin turn).1.auditCall ∧
        (page.step lossy origin turn).1.waiting = page.waiting ++ [path]) ∨
      ∀ path ∈ (page.step lossy origin turn).1.waiting, path ∈ page.waiting := by
  have hearing : ∀ index (hear : AuditPage → String → AuditPage),
      (∀ page path, (hear page path).waiting = page.waiting) →
        ∀ path ∈ (page.heard index hear).1.waiting, path ∈ page.waiting := by
    intro index hear keeps path
    unfold heard
    cases page.waiting[index]? with
    | none => exact id
    | some found =>
        dsimp only
        rw [keeps]
        exact fun member => List.mem_of_mem_eraseIdx member
  cases turn with
  | filters filter => exact Or.inr fun _ member => member
  | fetchAudit => exact Or.inl ⟨_, rfl, rfl, rfl⟩
  | auditGoToPage button =>
      cases going : page.target button with
      | none =>
          apply Or.inr
          simp only [step, going]
          exact fun _ member => member
      | some number =>
          apply Or.inl
          simp only [step, going]
          exact ⟨_, rfl, rfl, rfl⟩
  | clearAuditFilters => exact Or.inl ⟨_, rfl, rfl, rfl⟩
  | answered index table =>
      apply Or.inr
      apply hearing
      intro page path
      cases answer lossy origin table path <;> rfl
  | unauthorized index => exact Or.inr (hearing index _ fun _ _ => rfl)
  | failed index message => exact Or.inr (hearing index _ fun _ _ => rfl)
  | logout => exact Or.inr fun _ member => member

theorem asked_path (past : List (Machine.Event AuditPage AuditTurn (Option String))) (path : String)
    (asked : AskedFor past path) : ∃ filter number, Numbered number ∧ path = auditPath filter number 50 := by
  obtain ⟨event, _, _, same, sound⟩ := asked
  refine ⟨event.after.filter, event.after.page, sound.numbered, ?_⟩
  rw [same, auditCall, sound.perPage]

include decodes in
theorem step_sound (page : AuditPage) (sound : Sound page)
    (calls : ∀ path ∈ page.waiting, ∃ filter number, Numbered number ∧ path = auditPath filter number 50)
    (turn : AuditTurn) : Sound (page.step lossy origin turn).1 := by
  cases turn with
  | filters filter => exact ⟨sound.numbered, sound.perPage, sound.pages⟩
  | fetchAudit => exact sound.fetching
  | auditGoToPage button =>
      cases going : page.target button with
      | none =>
          simp only [step, going]
          exact sound
      | some number =>
          have numbered := target_numbered page sound button number going
          simp only [step, going]
          have turned : Sound { page with page := number } := ⟨numbered, sound.perPage, sound.pages⟩
          exact turned.fetching
  | clearAuditFilters =>
      have cleared : Sound { page with filter := .blank, page := 1 } :=
        ⟨⟨Nat.le_refl 1, Nat.zero_le _⟩, sound.perPage, sound.pages⟩
      exact cleared.fetching
  | answered index table =>
      cases found : page.waiting[index]? with
      | none =>
          simp only [step, heard, found]
          exact sound
      | some path =>
          obtain ⟨filter, number, numbered, same⟩ := calls path (List.mem_of_getElem? found)
          have answered := call_answered filter number table lossy decodes origin numbered
          rw [← same] at answered
          simp only [step, heard, found, answered]
          exact shown_sound table filter number numbered _ (result_shown filter number table numbered _)
  | unauthorized index =>
      cases found : page.waiting[index]? with
      | none =>
          simp only [step, heard, found]
          exact sound
      | some path =>
          simp only [step, heard, found]
          exact ⟨sound.numbered, sound.perPage, Nat.zero_le _⟩
  | failed index message =>
      cases found : page.waiting[index]? with
      | none =>
          simp only [step, heard, found]
          exact sound
      | some path =>
          simp only [step, heard, found]
          exact ⟨sound.numbered, sound.perPage, sound.pages⟩
  | logout => exact ⟨sound.numbered, sound.perPage, Nat.zero_le _⟩

include decodes in
theorem run_accounted (turns : List AuditTurn) :
    Accounted ((machine lossy origin).trace loaded turns) ((machine lossy origin).run loaded turns) := by
  apply Machine.history (machine lossy origin) loaded (fun _ => True) Accounted (fun _ _ _ => trivial)
  · exact ⟨loaded_sound, fun path member => by cases member⟩
  · intro turns turn _ accounted
    let page := (machine lossy origin).run loaded turns
    have sound := step_sound lossy decodes origin page accounted.sound
      (fun path member => asked_path _ path (accounted.calls path member)) turn
    refine ⟨sound, ?_⟩
    intro path member
    have old : path ∈ page.waiting →
        AskedFor ((machine lossy origin).trace loaded turns ++ [(machine lossy origin).event page turn]) path := by
      intro waits
      obtain ⟨event, before, asked⟩ := accounted.calls path waits
      exact ⟨event, List.mem_append_left _ before, asked⟩
    rcases step_waiting lossy origin page turn with ⟨call, output, same, waiting⟩ | none
    · have inNew : path ∈ page.waiting ++ [call] := waiting ▸ member
      rcases List.mem_append.mp inNew with earlier | now
      · exact old earlier
      · rw [List.mem_singleton.mp now]
        exact ⟨_, List.mem_append_right _ (List.mem_singleton_self _), output, same, sound⟩
    · exact old (none path member)
  · trivial

include decodes in
-- However filters, pages, answers and failures come, and however the log grows meanwhile: each
-- answer puts on the page what its call was made for, out of the log as the server saw it.
theorem audit_page_shows (turns : List AuditTurn)
    (earlier later : List (Machine.Event AuditPage AuditTurn (Option String)))
    (occurrence : Machine.Event AuditPage AuditTurn (Option String))
    (split : (machine lossy origin).trace loaded turns = earlier ++ occurrence :: later) (index : Nat) (table : AuditTable)
    (heard : occurrence.input = .answered index table) (path : String)
    (waits : occurrence.before.waiting[index]? = some path) :
    ∃ asking ∈ earlier, asking.output = some path ∧ path = asking.after.auditCall ∧
      requestTarget origin path = some "/api/v1/audit" ∧
      Shows table asking.after.filter asking.after.page occurrence.after := by
  obtain ⟨before, input, after, _, rfl, rfl, _⟩ := Machine.trace_split (machine lossy origin) loaded turns earlier later
    occurrence split
  cases heard
  obtain ⟨_, calls⟩ := run_accounted lossy decodes origin before
  obtain ⟨asking, past, output, same, sound⟩ := calls path (List.mem_of_getElem? waits)
  have whole : path = auditPath asking.after.filter asking.after.page 50 := by
    rw [same, auditCall, sound.perPage]
  refine ⟨asking, past, output, same, ?_, ?_⟩
  · rw [whole]
    exact audit_path_routed origin _ _ _
  · have answered := call_answered asking.after.filter asking.after.page table lossy decodes origin sound.numbered
    rw [← whole] at answered
    have now : (((machine lossy origin).run loaded before).step lossy origin (.answered index table)).1 =
        AuditPage.shows { (machine lossy origin).run loaded before with
          waiting := ((machine lossy origin).run loaded before).waiting.eraseIdx index }
          (responseOf (Moxui.Audit.resultOf table (asking.after.filter.query asking.after.page 50))) := by
      have found : ((machine lossy origin).run loaded before).waiting[index]? = some path := waits
      simp only [step, AuditPage.heard, found, answered]
    change Shows _ _ _ (((machine lossy origin).run loaded before).step lossy origin (.answered index table)).1
    rw [now]
    exact result_shown _ _ table sound.numbered _

end Runs

def utf8Text (bytes : List UInt8) : String :=
  (String.fromUTF8? bytes.toByteArray).getD "\uFFFD"

theorem utf8_text_bytes (text : String) : utf8Text (Text.bytes text) = text := by
  rw [utf8Text, ← Text.to_byte_array]
  simp [String.fromUTF8?, String.isValidUTF8, String.fromUTF8]

def createdTurns : List AuditTurn :=
  [.filters { AuditFilter.blank with path := "vms", status := "201", offered := by decide }, .fetchAudit]

def sampleOrigin : Url.Origin :=
  Moxui.Proxmox.sampleCluster.origin

theorem created_shown :
    ∃ asking ∈ (machine utf8Text sampleOrigin).trace loaded createdTurns,
      asking.output = some "/api/v1/audit?page=1&per_page=50&path=vms&status=201" ∧
      "/api/v1/audit?page=1&per_page=50&path=vms&status=201" = asking.after.auditCall ∧
      requestTarget sampleOrigin "/api/v1/audit?page=1&per_page=50&path=vms&status=201" = some "/api/v1/audit" ∧
      Shows Moxui.Audit.twoEntries asking.after.filter asking.after.page
        ((machine utf8Text sampleOrigin).event ((machine utf8Text sampleOrigin).run loaded createdTurns)
          (.answered 0 Moxui.Audit.twoEntries)).after :=
  audit_page_shows utf8Text utf8_text_bytes sampleOrigin (createdTurns ++ [.answered 0 Moxui.Audit.twoEntries])
    ((machine utf8Text sampleOrigin).trace loaded createdTurns) [] _ (Machine.trace_snoc _ _ _ _) 0
    Moxui.Audit.twoEntries rfl "/api/v1/audit?page=1&per_page=50&path=vms&status=201" (by decide +kernel)

end AuditPage

end Moxui.Ui
