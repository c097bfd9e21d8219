import Moxui.Dashboard.Failures

set_option autoImplicit false

namespace Moxui.DashboardCustom

open Moxui.Api (Json)
open Moxui.Auth (Claims)

structure SaveCustomDashboardRequest where
  dashboard : CustomDashboardConfig

section Handlers

variable (text : JsonText)

def getCustomDashboard (claims : Claims) (service : DashboardService) : CustomDashboardConfig :=
  getDashboard claims.username service.dashboards

def saveCustomDashboard (fault : Option Fault) (claims : Claims) (body : SaveCustomDashboardRequest)
    (service : DashboardService) : DashboardService × Json :=
  let saved := saveDashboard text fault claims.username body.dashboard service
  match saved.2 with
  | .ok () => (saved.1, .obj [("status", .str "saved")])
  | .error reason => (saved.1, .obj [("error", .str reason)])

inductive DashboardInput where
  | get (claims : Claims)
  | save (fault : Option Fault) (claims : Claims) (body : SaveCustomDashboardRequest)

inductive DashboardAnswer where
  | config (found : CustomDashboardConfig)
  | status (value : Json)

def dashboardHandlers : Machine DashboardService DashboardInput DashboardAnswer where
  step service
    | .get claims => (service, .config (getCustomDashboard claims service))
    | .save fault claims body =>
        let saved := saveCustomDashboard text fault claims body service
        (saved.1, .status saved.2)

theorem saved_dashboards (fault : Option Fault) (claims : Claims) (body : SaveCustomDashboardRequest)
    (service : DashboardService) :
    (saveCustomDashboard text fault claims body service).1.dashboards =
      service.dashboards.insert claims.username body.dashboard := by
  simp only [saveCustomDashboard]
  cases (saveDashboard text fault claims.username body.dashboard service).2 <;> rfl

end Handlers

section Owners

def Owned (dashboards : Dashboards) : Prop :=
  ∀ userId config, dashboards.lookup userId = some config → config.userId = userId

theorem default_dashboard_owned (userId : String) : (defaultDashboard userId).userId = userId := rfl

theorem owned_iff_served (dashboards : Dashboards) :
    Owned dashboards ↔ ∀ userId, (getDashboard userId dashboards).userId = userId := by
  constructor
  · intro owned userId
    cases stored : dashboards.lookup userId with
    | none => rw [getDashboard, stored, Option.getD_none, default_dashboard_owned]
    | some config =>
        rw [getDashboard, stored, Option.getD_some]
        exact owned userId config stored
  · intro served userId config stored
    have same := served userId
    rw [getDashboard, stored, Option.getD_some] at same
    exact same

theorem insert_owned_iff (dashboards : Dashboards) (userId : String) (config : CustomDashboardConfig)
    (owned : Owned dashboards) : Owned (dashboards.insert userId config) ↔ config.userId = userId := by
  constructor
  · intro kept
    exact kept userId config (AList.lookup_insert dashboards)
  · intro own found other stored
    rw [Table.lookup_insert_eq] at stored
    by_cases same : found = userId
    · rw [if_pos same, Option.some.injEq] at stored
      rw [← stored, own, same]
    · rw [if_neg same] at stored
      exact owned found other stored

def NamesCaller : DashboardInput → Prop
  | .get _ => True
  | .save _ claims body => body.dashboard.userId = claims.username

variable (text : JsonText)

theorem step_owned_iff (service : DashboardService) (input : DashboardInput) (owned : Owned service.dashboards) :
    Owned ((dashboardHandlers text).step service input).1.dashboards ↔ NamesCaller input := by
  cases input with
  | get claims => exact iff_of_true owned trivial
  | save fault claims body =>
      simp only [dashboardHandlers, saved_dashboards, NamesCaller]
      exact insert_owned_iff service.dashboards claims.username body.dashboard owned

theorem dashboards_owned_iff (file : Option (List UInt8)) (inputs : List DashboardInput) :
    (∀ earlier, earlier <+: inputs →
        Owned ((dashboardHandlers text).run ⟨∅, file⟩ earlier).dashboards ∧
          ∀ userId, (getDashboard userId ((dashboardHandlers text).run ⟨∅, file⟩ earlier).dashboards).userId = userId) ↔
      ∀ input ∈ inputs, NamesCaller input := by
  have empty : Owned (∅ : Dashboards) := by
    intro userId config stored
    cases stored
  have runs := (dashboardHandlers text).prefixes_iff (fun service => Owned service.dashboards)
    (fun _ input => NamesCaller input) (step_owned_iff text) ⟨∅, file⟩ inputs
  rw [(dashboardHandlers text).forall_trace_input _ inputs NamesCaller] at runs
  constructor
  · intro held
    exact (runs.mp fun earlier before => (held earlier before).1).2
  · intro named earlier before
    have owned := runs.mpr ⟨empty, named⟩ earlier before
    exact ⟨owned, (owned_iff_served _).mp owned⟩

end Owners

def aliceClaims : Claims :=
  { sub := "u-1", username := "alice", role := "viewer", iat := 0, exp := 3600 }

-- alice saves a dashboard that says it is bob's.
def bobsBody : DashboardInput :=
  .save none aliceClaims ⟨{ userId := "bob", widgets := [], layout := [] }⟩

theorem stored_under_another :
    ¬ ∀ earlier, earlier <+: [bobsBody] →
        Owned ((dashboardHandlers knownText).run ⟨∅, none⟩ earlier).dashboards ∧
          ∀ userId,
            (getDashboard userId ((dashboardHandlers knownText).run ⟨∅, none⟩ earlier).dashboards).userId = userId := by
  intro held
  have served := (held [bobsBody] (List.prefix_refl _)).2 "alice"
  exact absurd served (by decide)

end Moxui.DashboardCustom
