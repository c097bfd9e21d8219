import Moxui.Api.Pipeline
import Moxui.Lib.Interleaving
import Moxui.Lib.Overwrite

set_option autoImplicit false

namespace Moxui.DashboardCustom

open Moxui.Api (Json)

structure WidgetConfig where
  id : String
  widgetType : String
  title : Option String
  x : UInt32
  y : UInt32
  width : UInt32
  height : UInt32
deriving DecidableEq, Repr

structure LayoutRow where
  row : UInt32
  widgets : List String
deriving DecidableEq, Repr

structure CustomDashboardConfig where
  userId : String
  widgets : List WidgetConfig
  layout : List LayoutRow
deriving DecidableEq, Repr

abbrev Dashboards : Type :=
  Table String CustomDashboardConfig

section Serialize

def u32Json (value : UInt32) : Json :=
  .num (.posInt value.toUInt64)

def textOption : Option String → Json
  | some text => .str text
  | none => .null

def WidgetConfig.serialize (widget : WidgetConfig) : Json :=
  .obj [("id", .str widget.id), ("type", .str widget.widgetType), ("title", textOption widget.title),
    ("x", u32Json widget.x), ("y", u32Json widget.y), ("width", u32Json widget.width), ("height", u32Json widget.height)]

def LayoutRow.serialize (row : LayoutRow) : Json :=
  .obj [("row", u32Json row.row), ("widgets", .arr (row.widgets.map Json.str))]

def CustomDashboardConfig.serialize (config : CustomDashboardConfig) : Json :=
  .obj [("user_id", .str config.userId), ("widgets", .arr (config.widgets.map WidgetConfig.serialize)),
    ("layout", .arr (config.layout.map LayoutRow.serialize))]

-- `AllDashboardConfigs`.
def serializeAll (dashboards : Dashboards) : Json :=
  .obj [("dashboards", .obj (dashboards.entries.map fun entry => (entry.1, entry.2.serialize)))]

end Serialize

section Deserialize

-- The fields of a struct, as serde finds them in an object (where none may come twice and others
-- are passed over) or in an array.
def structFields (names : List String) : Json → Option (List (Option Json))
  | .obj fields =>
      if names.all fun name => (fields.filter fun field => field.1 = name).length ≤ 1 then
        some (names.map fun name => fields.lookup name)
      else none
  | .arr items =>
      if items.length ≤ names.length then
        some (items.map some ++ List.replicate (names.length - items.length) none)
      else none
  | _ => none

-- `#[serde(default)]`.
def orDefault {α : Type} (read : Json → Option α) (default : α) : Option Json → Option α
  | none => some default
  | some json => read json

def readText : Json → Option String
  | .str text => some text
  | _ => none

def readU32 : Json → Option UInt32
  | .num (.posInt value) => if value.toNat < UInt32.size then some value.toUInt32 else none
  | _ => none

def readTextOption : Json → Option (Option String)
  | .null => some none
  | json => (readText json).map some

def readList {α : Type} (read : Json → Option α) : Json → Option (List α)
  | .arr items => items.mapM read
  | _ => none

def WidgetConfig.deserialize (json : Json) : Option WidgetConfig := do
  match ← structFields ["id", "type", "title", "x", "y", "width", "height"] json with
  | [id, widgetType, title, x, y, width, height] =>
      some { id := ← id.bind readText, widgetType := ← widgetType.bind readText
             title := ← orDefault readTextOption none title, x := ← x.bind readU32, y := ← y.bind readU32
             width := ← width.bind readU32, height := ← height.bind readU32 }
  | _ => none

def LayoutRow.deserialize (json : Json) : Option LayoutRow := do
  match ← structFields ["row", "widgets"] json with
  | [row, widgets] => some { row := ← row.bind readU32, widgets := ← widgets.bind (readList readText) }
  | _ => none

def CustomDashboardConfig.deserialize (json : Json) : Option CustomDashboardConfig := do
  match ← structFields ["user_id", "widgets", "layout"] json with
  | [userId, widgets, layout] =>
      some { userId := ← userId.bind readText, widgets := ← orDefault (readList WidgetConfig.deserialize) [] widgets
             layout := ← orDefault (readList LayoutRow.deserialize) [] layout }
  | _ => none

-- A `HashMap`: of entries with the same key the last one stays.
def readEntries : Json → Option Dashboards
  | .obj fields =>
      (fields.mapM fun field => (CustomDashboardConfig.deserialize field.2).map (Prod.mk field.1)).map Table.collect
  | _ => none

def deserializeAll (json : Json) : Option Dashboards := do
  match ← structFields ["dashboards"] json with
  | [dashboards] => dashboards.bind readEntries
  | _ => none

end Deserialize

section RoundTrip

theorem read_u32_written (value : UInt32) : readU32 (u32Json value) = some value := by
  have small : value.toUInt64.toNat < UInt32.size := by
    rw [UInt32.toNat_toUInt64]
    exact value.toNat_lt
  simp only [readU32, u32Json, if_pos small, UInt32.toUInt32_toUInt64]

theorem map_m_written {α β : Type} (read : β → Option α) (write : α → β) (back : ∀ value, read (write value) = some value)
    (values : List α) : (values.map write).mapM read = some values := by
  induction values with
  | nil => rfl
  | cons value rest ih => simp [List.mapM_cons, back value, ih]

theorem widget_written (widget : WidgetConfig) : WidgetConfig.deserialize widget.serialize = some widget := by
  rcases widget with ⟨id, widgetType, title, x, y, width, height⟩
  cases title <;>
    simp [WidgetConfig.deserialize, WidgetConfig.serialize, structFields, List.lookup_cons, orDefault, textOption,
      readTextOption, readText, read_u32_written]

theorem layout_row_written (row : LayoutRow) : LayoutRow.deserialize row.serialize = some row := by
  simp [LayoutRow.deserialize, LayoutRow.serialize, structFields, List.lookup_cons, readList, read_u32_written,
    map_m_written readText Json.str fun _ => rfl]

theorem dashboard_written (config : CustomDashboardConfig) :
    CustomDashboardConfig.deserialize config.serialize = some config := by
  simp [CustomDashboardConfig.deserialize, CustomDashboardConfig.serialize, structFields, List.lookup_cons, readList, readText,
    orDefault, map_m_written WidgetConfig.deserialize WidgetConfig.serialize widget_written,
    map_m_written LayoutRow.deserialize LayoutRow.serialize layout_row_written]

theorem entries_written (dashboards : Dashboards) :
    ∃ read, deserializeAll (serializeAll dashboards) = some read ∧ ∀ userId, read.lookup userId = dashboards.lookup userId := by
  have entries : (dashboards.entries.map fun entry => (entry.1, entry.2.serialize)).mapM
      (fun field => (CustomDashboardConfig.deserialize field.2).map (Prod.mk field.1)) =
        some (dashboards.entries.map fun entry => (entry.1, entry.2)) := by
    induction dashboards.entries with
    | nil => rfl
    | cons entry rest ih => simp [List.mapM_cons, dashboard_written, ih]
  refine ⟨Table.collect (dashboards.entries.map fun entry => (entry.1, entry.2)), ?_,
    fun userId => Table.lookup_collect_entries dashboards userId⟩
  simp [deserializeAll, serializeAll, structFields, List.lookup_cons, readEntries, entries]

end RoundTrip

-- What serde_json makes of a JSON value, and of a text; `none` for one that is no JSON.
structure JsonText where
  toStringPretty : Json → List UInt8
  fromStr : List UInt8 → Option Json

section Service

variable (text : JsonText)

def encode (dashboards : Dashboards) : List UInt8 :=
  text.toStringPretty (serializeAll dashboards)

def decode (content : List UInt8) : Option Dashboards :=
  (text.fromStr content).bind deserializeAll

-- `new`: without a file, or with one that does not decode, the service starts empty.
def load (file : Option (List UInt8)) : Dashboards :=
  (file.bind (decode text)).getD ∅

def defaultDashboard (userId : String) : CustomDashboardConfig :=
  { userId := userId
    widgets := [
      { id := "cluster-health-1", widgetType := "cluster_health", title := some "Cluster Health", x := 1, y := 1
        width := 6, height := 2 },
      { id := "vm-list-1", widgetType := "vm_list", title := some "VM Overview", x := 7, y := 1, width := 6
        height := 2 }]
    layout := [{ row := 1, widgets := ["cluster-health-1", "vm-list-1"] }] }

def getDashboard (userId : String) (dashboards : Dashboards) : CustomDashboardConfig :=
  (dashboards.lookup userId).getD (defaultDashboard userId)

inductive DashboardRequest where
  | save (userId : String) (config : CustomDashboardConfig)
  | delete (userId : String)
  | get (userId : String)

-- Where a call stands: before the lock, after the change, with the directory there, with the
-- read lock and what is to be written, in the middle of the write.
inductive DashboardCall where
  | saving (userId : String) (config : CustomDashboardConfig)
  | deleting (userId : String)
  | getting (userId : String)
  | persisting
  | reading
  | holding (content : List UInt8)
  | writing (content : List UInt8) (written : Nat)
deriving DecidableEq

inductive DashboardReply where
  | stored
  | config (found : CustomDashboardConfig)

-- `readers` counts those who hold the read lock.
structure DashboardState where
  dashboards : Dashboards
  readers : Nat
  file : Option (List UInt8)

-- The write lock is given to nobody while there are readers.
def change (call : DashboardCall) (changed : Dashboards) (state : DashboardState) :
    DashboardState × (DashboardCall ⊕ DashboardReply) :=
  if state.readers = 0 then ({ state with dashboards := changed }, .inl .persisting) else (state, .inl call)

-- The file is opened empty and written from its start, at each step one byte more than `taken`
-- as long as there are so many.
def advanceDashboard (call : DashboardCall) (taken : Nat) (state : DashboardState) :
    DashboardState × (DashboardCall ⊕ DashboardReply) :=
  match call with
  | .saving userId config => change call (state.dashboards.insert userId config) state
  | .deleting userId => change call (state.dashboards.erase userId) state
  | .getting userId => (state, .inr (.config (getDashboard userId state.dashboards)))
  | .persisting => (state, .inl .reading)
  | .reading => ({ state with readers := state.readers + 1 }, .inl (.holding (encode text state.dashboards)))
  | .holding content => ({ state with file := some [] }, .inl (.writing content 0))
  | .writing content written =>
      if written < content.length then
        let chunk := Overwrite.chunkOf content written (taken + 1)
        ({ state with file := some (Overwrite.overwrite 0 (state.file.getD []) written chunk) },
          .inl (.writing content (written + chunk.length)))
      else ({ state with readers := state.readers - 1 }, .inr .stored)

def dashboardProtocol : Protocol DashboardState DashboardRequest DashboardCall Nat DashboardReply where
  enter
    | .save userId config => .saving userId config
    | .delete userId => .deleting userId
    | .get userId => .getting userId
  advance := advanceDashboard text

abbrev DashboardPool : Type :=
  Protocol.Pool DashboardState DashboardCall

abbrev DashboardTurn : Type :=
  Protocol.Turn DashboardRequest Nat

abbrev DashboardStep : Type :=
  Protocol.Taken DashboardState DashboardCall Nat DashboardReply

def started (file : Option (List UInt8)) : DashboardPool :=
  ⟨⟨load text file, 0, file⟩, []⟩

end Service

end Moxui.DashboardCustom
