import Mathlib.Data.List.Infix
import Mathlib.Data.List.Nodup
import Mathlib.Data.List.Perm.Basic
import Moxui.Dashboard.Custom
import Moxui.Lib.Machine

set_option autoImplicit false

namespace Moxui.Ui.WidgetLayout

-- The numbers of JavaScript, NaN among them: `a + b`, `Math.max(a, b)`, `a < b`, `String(a)`,
-- `Number(text)`, a literal, and whether a number counts as true.
structure Numbers (ν : Type) where
  add : ν → ν → ν
  max : ν → ν → ν
  less : ν → ν → Bool
  string : ν → String
  number : String → ν
  literal : Nat → ν
  truthy : ν → Bool

-- What is bound to an input of the page is a text once it has been typed.
inductive Field (ν : Type) where
  | number (value : ν)
  | text (value : String)
deriving DecidableEq

structure Widget (ν : Type) where
  id : String
  type : String
  title : Option String
  x : ν
  y : ν
  width : Field ν
  height : Field ν
deriving DecidableEq

structure LayoutRow (ν : Type) where
  row : ν
  widgets : List String
deriving DecidableEq

structure Dashboard (ν : Type) where
  userId : String
  widgets : List (Widget ν)
  layout : List (LayoutRow ν)
deriving DecidableEq

structure WidgetType (ν : Type) where
  type : String
  label : String
  defaultWidth : Option ν
  defaultHeight : Option ν

structure Page (ν : Type) where
  customDashboard : Option (Dashboard ν)
  widgetTypes : List (WidgetType ν)
  editingWidget : Option (Widget ν)
  showWidgetEditor : Bool

inductive Call (ν : Type) where
  | addWidget (type : String) (now : ν)
  | removeWidget (id : String)
  | editWidget (widget : Widget ν)
  | typesTitle (text : String)
  | typesWidth (text : String)
  | typesHeight (text : String)
  | cancelWidgetEdit
  | saveWidgetEdit

section Functions

variable {ν : Type} (numbers : Numbers ν)

-- A number and a number are added, a number and a text are joined.
def plus (value : ν) : Field ν → Field ν
  | .number other => .number (numbers.add value other)
  | .text other => .text (numbers.string value ++ other)

def toNumber : Field ν → ν
  | .number value => value
  | .text value => numbers.number value

def maxY (widgets : List (Widget ν)) : ν :=
  widgets.foldl (fun max w => numbers.max max (toNumber numbers (plus numbers w.y w.height))) (numbers.literal 1)

def orElse (given : Option ν) (default : Nat) : ν :=
  match given with
  | some value => if numbers.truthy value then value else numbers.literal default
  | none => numbers.literal default

def widgetId (now : ν) : String :=
  "widget-" ++ numbers.string now

def newWidget (template : WidgetType ν) (now : ν) (widgets : List (Widget ν)) : Widget ν :=
  { id := widgetId numbers now
    type := template.type
    title := some template.label
    x := numbers.literal 1
    y := maxY numbers widgets
    width := .number (orElse numbers template.defaultWidth 6)
    height := .number (orElse numbers template.defaultHeight 2) }

def Dashboard.add (dashboard : Dashboard ν) (widget : Widget ν) : Dashboard ν :=
  { dashboard with
    widgets := dashboard.widgets ++ [widget]
    layout := dashboard.layout ++ [{ row := widget.y, widgets := [widget.id] }] }

def LayoutRow.without (id : String) (row : LayoutRow ν) : LayoutRow ν :=
  { row with widgets := row.widgets.filter (· ≠ id) }

-- The first filter keeps every row, as an array counts as true, and sets `r.widgets`.
def Dashboard.remove (dashboard : Dashboard ν) (id : String) : Dashboard ν :=
  { dashboard with
    widgets := dashboard.widgets.filter fun w => w.id ≠ id
    layout := (dashboard.layout.map (LayoutRow.without id)).filter fun r => 0 < r.widgets.length }

-- `widgets[idx] = { ...edited }` for the first widget of its id.
def replaceFirst (edited : Widget ν) : List (Widget ν) → List (Widget ν)
  | [] => []
  | w :: rest => if w.id = edited.id then edited :: rest else w :: replaceFirst edited rest

def Dashboard.edit (dashboard : Dashboard ν) (edited : Widget ν) : Dashboard ν :=
  { dashboard with widgets := replaceFirst edited dashboard.widgets }

variable (page : Page ν)

def Page.saved (dashboard : Dashboard ν) : Page ν × Option (Dashboard ν) :=
  ({ page with customDashboard := some dashboard }, some dashboard)

def Page.addWidget (type : String) (now : ν) : Page ν × Option (Dashboard ν) :=
  match page.customDashboard, page.widgetTypes.find? fun t => t.type = type with
  | some dashboard, some template => page.saved (dashboard.add (newWidget numbers template now dashboard.widgets))
  | _, _ => (page, none)

def Page.closeEditor : Page ν :=
  { page with editingWidget := none, showWidgetEditor := false }

def Page.removeWidget (id : String) : Page ν × Option (Dashboard ν) :=
  match page.customDashboard with
  | some dashboard =>
      let closed := if page.editingWidget.map Widget.id = some id then page.closeEditor else page
      closed.saved (dashboard.remove id)
  | none => (page, none)

def Page.saveWidgetEdit : Page ν × Option (Dashboard ν) :=
  match page.editingWidget, page.customDashboard with
  | some edited, some dashboard => page.closeEditor.saved (dashboard.edit edited)
  | _, _ => (page, none)

def Page.edits (change : Widget ν → Widget ν) : Page ν :=
  { page with editingWidget := page.editingWidget.map change }

def Page.step : Call ν → Page ν × Option (Dashboard ν)
  | .addWidget type now => page.addWidget numbers type now
  | .removeWidget id => page.removeWidget id
  | .editWidget widget => ({ page with editingWidget := some widget, showWidgetEditor := true }, none)
  | .typesTitle text => (page.edits fun widget => { widget with title := some text }, none)
  | .typesWidth text => (page.edits fun widget => { widget with width := .text text }, none)
  | .typesHeight text => (page.edits fun widget => { widget with height := .text text }, none)
  | .cancelWidgetEdit => (page.closeEditor, none)
  | .saveWidgetEdit => page.saveWidgetEdit

def machine : Machine (Page ν) (Call ν) (Option (Dashboard ν)) where
  step page call := page.step numbers call

end Functions

section Consistency

variable {ν : Type}

def Dashboard.ids (dashboard : Dashboard ν) : List String :=
  dashboard.widgets.map Widget.id

def Dashboard.laid (dashboard : Dashboard ν) : List String :=
  dashboard.layout.flatMap LayoutRow.widgets

structure Consistent (dashboard : Dashboard ν) : Prop where
  distinct : dashboard.ids.Nodup
  once : ∀ id ∈ dashboard.ids, dashboard.laid.count id = 1
  owned : ∀ id ∈ dashboard.laid, id ∈ dashboard.ids
  rows : ∀ row ∈ dashboard.layout, row.widgets ≠ []

-- The ids of the widgets are distinct, and they are those of the layout rows.
structure Matched (dashboard : Dashboard ν) : Prop where
  distinct : dashboard.ids.Nodup
  laid : dashboard.laid.Perm dashboard.ids

def NoEmptyRow (dashboard : Dashboard ν) : Prop :=
  ∀ row ∈ dashboard.layout, row.widgets ≠ []

theorem consistent_iff (dashboard : Dashboard ν) : Consistent dashboard ↔ Matched dashboard ∧ NoEmptyRow dashboard := by
  constructor
  · intro consistent
    have laidOnce : dashboard.laid.Nodup := by
      rw [List.nodup_iff_count_le_one]
      intro id
      by_cases member : id ∈ dashboard.laid
      · exact (consistent.once id (consistent.owned id member)).le
      · rw [List.count_eq_zero_of_not_mem member]
        exact Nat.zero_le 1
    refine ⟨⟨consistent.distinct, (List.perm_ext_iff_of_nodup laidOnce consistent.distinct).mpr fun id => ?_⟩, consistent.rows⟩
    refine ⟨consistent.owned id, fun member => ?_⟩
    exact List.count_pos_iff.mp ((consistent.once id member).symm ▸ Nat.one_pos)
  · rintro ⟨matched, rows⟩
    refine ⟨matched.distinct, fun id member => ?_, fun id member => matched.laid.mem_iff.mp member, rows⟩
    rw [matched.laid.count_eq, List.count_eq_one_of_mem matched.distinct member]

theorem add_ids (dashboard : Dashboard ν) (widget : Widget ν) : (dashboard.add widget).ids = dashboard.ids ++ [widget.id] := by
  rw [Dashboard.ids, Dashboard.add, List.map_append]
  rfl

theorem add_laid (dashboard : Dashboard ν) (widget : Widget ν) :
    (dashboard.add widget).laid = dashboard.laid ++ [widget.id] := by
  rw [Dashboard.laid, Dashboard.add, List.flatMap_append]
  rfl

theorem add_consistent_iff (dashboard : Dashboard ν) (widget : Widget ν) (consistent : Consistent dashboard) :
    Consistent (dashboard.add widget) ↔ widget.id ∉ dashboard.ids := by
  obtain ⟨matched, rows⟩ := (consistent_iff dashboard).mp consistent
  have nodup : (dashboard.ids ++ [widget.id]).Nodup ↔ widget.id ∉ dashboard.ids := by
    rw [List.nodup_append_comm, List.singleton_append, List.nodup_cons]
    exact and_iff_left matched.distinct
  constructor
  · intro after
    have distinct := after.distinct
    rw [add_ids] at distinct
    exact nodup.mp distinct
  · intro fresh
    refine (consistent_iff _).mpr ⟨⟨?_, ?_⟩, ?_⟩
    · rw [add_ids]
      exact nodup.mpr fresh
    · rw [add_ids, add_laid]
      exact matched.laid.append_right _
    · intro row member
      rcases List.mem_append.mp member with old | new
      · exact rows row old
      · rw [List.mem_singleton.mp new]
        exact List.cons_ne_nil _ _

theorem remove_ids (dashboard : Dashboard ν) (id : String) : (dashboard.remove id).ids = dashboard.ids.filter (· ≠ id) := by
  change (dashboard.widgets.filter fun w => w.id ≠ id).map Widget.id = (dashboard.widgets.map Widget.id).filter (· ≠ id)
  rw [List.filter_map]
  rfl

theorem laid_without (rows : List (LayoutRow ν)) (id : String) :
    (((rows.map (LayoutRow.without id)).filter fun r => 0 < r.widgets.length).flatMap LayoutRow.widgets) =
      (rows.flatMap LayoutRow.widgets).filter (· ≠ id) := by
  induction rows with
  | nil => rfl
  | cons row rest ih =>
      have left : (row.without id).widgets = row.widgets.filter (· ≠ id) := rfl
      rw [List.map_cons, List.flatMap_cons, List.filter_append, ← ih, ← left]
      by_cases kept : 0 < (row.without id).widgets.length
      · rw [List.filter_cons, if_pos (decide_eq_true kept), List.flatMap_cons]
      · rw [List.filter_cons, if_neg (by simpa using kept), List.length_eq_zero_iff.mp (Nat.eq_zero_of_not_pos kept),
          List.nil_append]

theorem remove_consistent (dashboard : Dashboard ν) (id : String) (consistent : Consistent dashboard) :
    Consistent (dashboard.remove id) := by
  obtain ⟨matched, _⟩ := (consistent_iff dashboard).mp consistent
  have laid : (dashboard.remove id).laid = dashboard.laid.filter (· ≠ id) := laid_without dashboard.layout id
  refine (consistent_iff _).mpr ⟨⟨?_, ?_⟩, ?_⟩
  · rw [remove_ids]
    exact matched.distinct.filter _
  · rw [remove_ids, laid]
    exact matched.laid.filter _
  · intro row member
    have some := of_decide_eq_true (List.mem_filter.mp member).2
    exact List.ne_nil_of_length_pos some

theorem edit_ids (dashboard : Dashboard ν) (edited : Widget ν) : (dashboard.edit edited).ids = dashboard.ids := by
  have replaced (widgets : List (Widget ν)) : (replaceFirst edited widgets).map Widget.id = widgets.map Widget.id := by
    induction widgets with
    | nil => rfl
    | cons w rest ih =>
        by_cases same : w.id = edited.id
        · rw [replaceFirst, if_pos same, List.map_cons, List.map_cons, same]
        · rw [replaceFirst, if_neg same, List.map_cons, List.map_cons, ih]
  exact replaced dashboard.widgets

theorem edit_consistent (dashboard : Dashboard ν) (edited : Widget ν) (consistent : Consistent dashboard) :
    Consistent (dashboard.edit edited) := by
  have ids := edit_ids dashboard edited
  exact ⟨ids ▸ consistent.distinct, fun id member => consistent.once id (ids ▸ member),
    fun id member => ids ▸ consistent.owned id member, consistent.rows⟩

end Consistency

section Placing

variable {ν : Type} {numbers : Numbers ν}

def Overlaps (numbers : Numbers ν) (first second : Widget ν) : Prop :=
  numbers.less first.x (numbers.add second.x (toNumber numbers second.width)) ∧
    numbers.less second.x (numbers.add first.x (toNumber numbers first.width)) ∧
    numbers.less first.y (numbers.add second.y (toNumber numbers second.height)) ∧
    numbers.less second.y (numbers.add first.y (toNumber numbers first.height))

structure Lawful (numbers : Numbers ν) : Prop where
  irrefl : ∀ value, numbers.less value value = false
  maxLess : ∀ first second bound, numbers.less (numbers.max first second) bound = true →
    numbers.less first bound = true ∧ numbers.less second bound = true

-- A typed height that is joined to the digits of `y` reads as no less than their sum.
def SumsUp (numbers : Numbers ν) (w : Widget ν) : Prop :=
  ∀ text, w.height = .text text →
    numbers.less (numbers.number (numbers.string w.y ++ text)) (numbers.add w.y (numbers.number text)) = false

theorem max_y_less (lawful : Lawful numbers) (bound : ν) (widgets : List (Widget ν)) (start : ν)
    (less : numbers.less
      (widgets.foldl (fun max w => numbers.max max (toNumber numbers (plus numbers w.y w.height))) start) bound = true) :
    numbers.less start bound = true ∧
      ∀ w ∈ widgets, numbers.less (toNumber numbers (plus numbers w.y w.height)) bound = true := by
  induction widgets generalizing start with
  | nil => exact ⟨less, nofun⟩
  | cons w rest ih =>
      obtain ⟨first, later⟩ := ih _ less
      obtain ⟨before, own⟩ := lawful.maxLess _ _ _ first
      exact ⟨before, List.forall_mem_cons.mpr ⟨own, later⟩⟩

theorem sum_not_above (lawful : Lawful numbers) (w : Widget ν) (sums : SumsUp numbers w) :
    numbers.less (toNumber numbers (plus numbers w.y w.height)) (numbers.add w.y (toNumber numbers w.height)) = false := by
  cases height : w.height with
  | number value => exact lawful.irrefl _
  | text value => exact sums value height

theorem new_widget_apart (lawful : Lawful numbers) (template : WidgetType ν) (now : ν) (widgets : List (Widget ν))
    (sums : ∀ w ∈ widgets, SumsUp numbers w) :
    ∀ w ∈ widgets, ¬Overlaps numbers (newWidget numbers template now widgets) w := by
  intro w member overlaps
  have below := (max_y_less lawful _ widgets _ overlaps.2.2.1).2 w member
  rw [sum_not_above lawful w (sums w member)] at below
  cases below

end Placing

section Runs

variable {ν : Type} (numbers : Numbers ν)

def Adds (start : Page ν) (calls : List (Call ν)) (dashboard : Dashboard ν) (template : WidgetType ν) (now : ν) : Prop :=
  ∃ earlier type, earlier ++ [.addWidget type now] <+: calls ∧
    ((machine numbers).run start earlier).customDashboard = some dashboard ∧
    ((machine numbers).run start earlier).widgetTypes.find? (fun t => t.type = type) = some template

def KeepsConsistent (start : Page ν) (calls : List (Call ν)) : Prop :=
  ∀ earlier dashboard, earlier <+: calls → ((machine numbers).run start earlier).customDashboard = some dashboard →
    Consistent dashboard

def AddsApart (start : Page ν) (calls : List (Call ν)) : Prop :=
  ∀ dashboard template now, Adds numbers start calls dashboard template now →
    ∀ w ∈ dashboard.widgets, ¬Overlaps numbers (newWidget numbers template now dashboard.widgets) w

structure FreshIds (start : Page ν) (calls : List (Call ν)) : Prop where
  rows : ∀ dashboard, start.customDashboard = some dashboard → NoEmptyRow dashboard
  ids : ∀ dashboard template now, Adds numbers start calls dashboard template now → widgetId numbers now ∉ dashboard.ids

def HeightsSumUp (start : Page ν) (calls : List (Call ν)) : Prop :=
  ∀ dashboard template now, Adds numbers start calls dashboard template now →
    ∀ w ∈ dashboard.widgets, SumsUp numbers w

theorem add_widget_eq (page : Page ν) (type : String) (now : ν) (dashboard : Dashboard ν) (template : WidgetType ν)
    (isDashboard : page.customDashboard = some dashboard)
    (isTemplate : page.widgetTypes.find? (fun t => t.type = type) = some template) :
    (page.step numbers (.addWidget type now)).1.customDashboard =
      some (dashboard.add (newWidget numbers template now dashboard.widgets)) := by
  rw [Page.step, Page.addWidget, isDashboard, isTemplate]
  rfl

inductive Changes (page : Page ν) (call : Call ν) (dashboard : Dashboard ν) : Dashboard ν → Prop where
  | kept : Changes page call dashboard dashboard
  | removed (id : String) : Changes page call dashboard (dashboard.remove id)
  | edited (widget : Widget ν) : Changes page call dashboard (dashboard.edit widget)
  | added (type : String) (now : ν) (template : WidgetType ν) (isAdd : call = .addWidget type now)
      (found : page.widgetTypes.find? (fun t => t.type = type) = some template) :
      Changes page call dashboard (dashboard.add (newWidget numbers template now dashboard.widgets))

theorem stays_without (page : Page ν) (call : Call ν) (without : page.customDashboard = none) :
    (page.step numbers call).1.customDashboard = none := by
  cases call with
  | addWidget type now =>
      rw [Page.step, Page.addWidget, without]
      exact without
  | removeWidget id =>
      rw [Page.step, Page.removeWidget, without]
      exact without
  | saveWidgetEdit =>
      rw [Page.step, Page.saveWidgetEdit, without]
      cases page.editingWidget with
      | none => exact without
      | some edited => exact without
  | _ => exact without

theorem step_changes (page : Page ν) (call : Call ν) (after : Dashboard ν)
    (isAfter : (page.step numbers call).1.customDashboard = some after) :
    ∃ dashboard, page.customDashboard = some dashboard ∧ Changes numbers page call dashboard after := by
  cases isDashboard : page.customDashboard with
  | none =>
      rw [stays_without numbers page call isDashboard] at isAfter
      cases isAfter
  | some dashboard =>
      refine ⟨dashboard, rfl, ?_⟩
      have kept (same : page.customDashboard = some after) : Changes numbers page call dashboard after := by
        rw [isDashboard, Option.some_inj] at same
        exact same ▸ .kept
      cases call with
      | addWidget type now =>
          cases found : page.widgetTypes.find? (fun t => t.type = type) with
          | none =>
              rw [Page.step, Page.addWidget, isDashboard, found] at isAfter
              exact kept isAfter
          | some template =>
              rw [add_widget_eq numbers page type now dashboard template isDashboard found] at isAfter
              cases isAfter
              exact .added type now template rfl found
      | removeWidget id =>
          rw [Page.step, Page.removeWidget, isDashboard] at isAfter
          cases isAfter
          exact .removed id
      | saveWidgetEdit =>
          rw [Page.step, Page.saveWidgetEdit, isDashboard] at isAfter
          cases isEdited : page.editingWidget with
          | none =>
              rw [isEdited] at isAfter
              exact kept isAfter
          | some edited =>
              rw [isEdited] at isAfter
              cases isAfter
              exact .edited edited
      | _ => exact kept isAfter

theorem run_consistent (start : Page ν) (calls : List (Call ν)) (fresh : FreshIds numbers start calls)
    (matched : ∀ dashboard, start.customDashboard = some dashboard → Matched dashboard) (earlier : List (Call ν))
    (during : earlier <+: calls) :
    ∀ dashboard, ((machine numbers).run start earlier).customDashboard = some dashboard → Consistent dashboard := by
  induction earlier using List.reverseRecOn with
  | nil =>
      intro dashboard isDashboard
      exact (consistent_iff dashboard).mpr ⟨matched dashboard isDashboard, fresh.rows dashboard isDashboard⟩
  | append_singleton before call ih =>
      intro after isAfter
      rw [Machine.run_snoc] at isAfter
      obtain ⟨dashboard, isDashboard, changes⟩ := step_changes numbers _ call after isAfter
      have consistent := ih ((List.prefix_append before _).trans during) dashboard isDashboard
      cases changes with
      | kept => exact consistent
      | removed id => exact remove_consistent dashboard id consistent
      | edited widget => exact edit_consistent dashboard widget consistent
      | added type now template isAdd found =>
          subst isAdd
          have new := fresh.ids dashboard template now ⟨before, type, during, isDashboard, found⟩
          exact (add_consistent_iff dashboard _ consistent).mpr new

theorem fresh_of_consistent (start : Page ν) (calls : List (Call ν)) (keeps : KeepsConsistent numbers start calls) :
    FreshIds numbers start calls where
  rows := fun dashboard isDashboard => (keeps [] dashboard List.nil_prefix isDashboard).rows
  ids := by
    rintro dashboard template now ⟨earlier, type, during, isDashboard, found⟩
    have before := keeps earlier dashboard ((List.prefix_append earlier _).trans during) isDashboard
    refine (add_consistent_iff dashboard (newWidget numbers template now dashboard.widgets) before).mp ?_
    refine keeps (earlier ++ [.addWidget type now]) _ during ?_
    rw [Machine.run_snoc]
    exact add_widget_eq numbers _ type now dashboard template isDashboard found

theorem widget_layout_iff (lawful : Lawful numbers) (start : Page ν) (calls : List (Call ν))
    (matched : ∀ dashboard, start.customDashboard = some dashboard → Matched dashboard) :
    (KeepsConsistent numbers start calls ↔ FreshIds numbers start calls) ∧
      (HeightsSumUp numbers start calls → AddsApart numbers start calls) := by
  refine ⟨⟨fresh_of_consistent numbers start calls, fun fresh earlier dashboard during => ?_⟩, ?_⟩
  · exact run_consistent numbers start calls fresh matched earlier during dashboard
  · intro sums dashboard template now adds
    exact new_widget_apart lawful template now dashboard.widgets (sums dashboard template now adds)

end Runs

section Examples

open DashboardCustom (CustomDashboardConfig WidgetConfig defaultDashboard)

def naturals : Numbers Nat :=
  { add := (· + ·), max := Nat.max, less := fun first second => first < second, string := toString
    number := fun text => Nat.ofDigitChars 10 text.toList 0, literal := id, truthy := fun value => value ≠ 0 }

theorem naturals_lawful : Lawful naturals where
  irrefl := fun value => decide_eq_false (Nat.lt_irrefl value)
  maxLess := by
    intro first second bound less
    have both := Nat.max_lt.mp (of_decide_eq_true less)
    exact ⟨decide_eq_true both.1, decide_eq_true both.2⟩

def ofWidget (widget : WidgetConfig) : Widget Nat :=
  { id := widget.id, type := widget.widgetType, title := widget.title, x := widget.x.toNat, y := widget.y.toNat
    width := .number widget.width.toNat, height := .number widget.height.toNat }

def ofConfig (config : CustomDashboardConfig) : Dashboard Nat :=
  { userId := config.userId
    widgets := config.widgets.map ofWidget
    layout := config.layout.map fun row => { row := row.row.toNat, widgets := row.widgets } }

def firstPage : Page Nat :=
  { customDashboard := some (ofConfig (defaultDashboard "user-1"))
    widgetTypes := [{ type := "vm_list", label := "VM List", defaultWidth := some 6, defaultHeight := some 3 }]
    editingWidget := none
    showWidgetEditor := false }

theorem default_matched (dashboard : Dashboard Nat) (isDefault : firstPage.customDashboard = some dashboard) :
    Matched dashboard := by
  cases isDefault
  exact ⟨by decide, List.Perm.refl _⟩

def addedApart : List (Call Nat) :=
  [.addWidget "vm_list" 1700000000000, .removeWidget "vm-list-1", .addWidget "vm_list" 1700000000001]

theorem default_layout_kept :
    (KeepsConsistent naturals firstPage addedApart ↔ FreshIds naturals firstPage addedApart) ∧
      (HeightsSumUp naturals firstPage addedApart → AddsApart naturals firstPage addedApart) :=
  widget_layout_iff naturals naturals_lawful firstPage addedApart default_matched

-- Two widgets are added at one reading of the clock.
theorem same_id_twice :
    (((machine naturals).run firstPage [.addWidget "vm_list" 1700000000000, .addWidget "vm_list" 1700000000000]
      ).customDashboard.map Dashboard.ids) =
        some ["cluster-health-1", "vm-list-1", "widget-1700000000000", "widget-1700000000000"] ∧
      ¬KeepsConsistent naturals firstPage [.addWidget "vm_list" 1700000000000, .addWidget "vm_list" 1700000000000] := by
  have ids : (((machine naturals).run firstPage [.addWidget "vm_list" 1700000000000, .addWidget "vm_list" 1700000000000]
      ).customDashboard.map Dashboard.ids) =
        some ["cluster-health-1", "vm-list-1", "widget-1700000000000", "widget-1700000000000"] := by decide +kernel
  refine ⟨ids, fun keeps => ?_⟩
  obtain ⟨dashboard, isDashboard, same⟩ := Option.map_eq_some_iff.mp ids
  have distinct := (keeps _ dashboard (List.prefix_refl _) isDashboard).distinct
  rw [same] at distinct
  exact absurd distinct (by decide)

end Examples

end Moxui.Ui.WidgetLayout
