import Moxui.Api.ClusterIsolation
import Moxui.Auth.Sessions

set_option autoImplicit false

namespace Moxui.Api

open Moxui.Auth (Claims User UserStore)

-- What keeps an account from a cluster: a list that has entries, the cluster not among them.
def RestrictedFrom (store : UserStore) (username cluster : String) : Prop :=
  ∃ allowed, store.allowedClusters.lookup username = some allowed ∧ allowed ≠ [] ∧ cluster ∉ allowed

theorem access_denied_iff (store : UserStore) (username cluster : String) :
    store.userCanAccessCluster username cluster = false ↔ RestrictedFrom store username cluster := by
  unfold UserStore.userCanAccessCluster RestrictedFrom
  cases entry : store.allowedClusters.lookup username with
  | none => simp
  | some allowed =>
      cases allowed with
      | nil => simp
      | cons first rest =>
          simp only [Option.some.injEq, exists_eq_left', ne_eq, reduceCtorEq, not_false_eq_true, true_and]
          rw [List.any_eq_false]
          simp only [beq_iff_eq]
          refine ⟨?_, ?_⟩
          · intro none member
            exact none cluster member rfl
          · intro absent allowed member same
            exact absent (same ▸ member)

section Filters

variable {ρ : Type} (state : AppState ρ) (username : String)

def FiltersAgree : Prop :=
  state.clientsForUser username =
    state.clients.filter fun client => state.auth.users.userCanAccessCluster username client.name

theorem filters_agree_absent (entry : state.auth.users.allowedClusters.lookup username = none) :
    FiltersAgree state username := by
  simp [FiltersAgree, AppState.clientsForUser, UserStore.userCanAccessCluster, entry]

theorem filters_agree_listed (first : String) (rest : List String)
    (entry : state.auth.users.allowedClusters.lookup username = some (first :: rest)) :
    FiltersAgree state username := by
  simp [FiltersAgree, AppState.clientsForUser, UserStore.userCanAccessCluster, entry]

-- The empty list stands for all clusters in one of them and for none in the other.
theorem filters_agree_empty (entry : state.auth.users.allowedClusters.lookup username = some []) :
    FiltersAgree state username ↔ state.clients = [] := by
  have filtered : state.clientsForUser username = [] := by
    simp [AppState.clientsForUser, entry]
  have checked : (state.clients.filter fun client =>
      state.auth.users.userCanAccessCluster username client.name) = state.clients := by
    simp [UserStore.userCanAccessCluster, entry]
  rw [FiltersAgree, filtered, checked]
  exact eq_comm

theorem cluster_filters_agree_iff :
    FiltersAgree state username ↔
      state.auth.users.allowedClusters.lookup username ≠ some [] ∨ state.clients = [] := by
  cases entry : state.auth.users.allowedClusters.lookup username with
  | none => simp [filters_agree_absent state username entry]
  | some allowed =>
      cases allowed with
      | nil =>
          rw [filters_agree_empty state username entry]
          simp
      | cons first rest => simp [filters_agree_listed state username first rest entry]

end Filters

def unrestricted : UserStore :=
  { UserStore.new with allowedClusters := Table.collect [("root", [])] }

def rootServer : AppState Unit :=
  { twoClusters with auth := Auth.AuthState.initial unrestricted none none }

theorem empty_list_hides_clusters : ¬ FiltersAgree rootServer "root" := by
  rw [filters_agree_empty rootServer "root" (by decide)]
  decide

section Removal

variable (store : UserStore) (username cluster : String)

structure KeptOut (users : UserStore) : Prop where
  access : users.userCanAccessCluster username cluster = false
  tokens : ∀ (request : Request) (claims : Claims), claims.username = username →
    extractClusterFromPath request.path = some cluster →
    ∃ response, requireClusterAccess users (request.withClaims claims) = .error response

-- Whoever is kept from a cluster still is once the account is removed, and once an account of
-- that name is added again; a token from before is of no more use than it was.
def RemovalKeepsOut : Prop :=
  store.userCanAccessCluster username cluster = false → (store.deleteUser username).2 = .ok () →
    KeptOut username cluster (store.deleteUser username).1 ∧
      ∀ user : User, user.username = username → ((store.deleteUser username).1.addUser user).2 = .ok () →
        KeptOut username cluster ((store.deleteUser username).1.addUser user).1

theorem delete_user_ok_iff : (store.deleteUser username).2 = .ok () ↔ store.get username ≠ none := by
  unfold UserStore.deleteUser
  cases store.get username <;> simp

-- The removal takes the list along, and without a list nothing is kept from anyone.
theorem removal_opens (stored : store.get username ≠ none) :
    (store.deleteUser username).1.userCanAccessCluster username cluster = true := by
  unfold UserStore.deleteUser UserStore.userCanAccessCluster
  cases found : store.get username with
  | none => exact absurd found stored
  | some user => simp

theorem removal_keeps_out_iff :
    RemovalKeepsOut store username cluster ↔
      store.get username = none ∨ ¬ RestrictedFrom store username cluster := by
  rw [← access_denied_iff]
  refine ⟨?_, ?_⟩
  · intro keeps
    by_contra widened
    rw [not_or, not_not] at widened
    have kept := keeps widened.2 ((delete_user_ok_iff store username).mpr widened.1)
    have opened := removal_opens store username cluster widened.1
    rw [kept.1.access] at opened
    cases opened
  · intro outside denied removed
    rcases outside with absent | allowed
    · exact absurd absent ((delete_user_ok_iff store username).mp removed)
    · exact absurd denied allowed

end Removal

-- Alice may use the lab only; with her account gone, her token opens prod.
def aliceInLab : UserStore :=
  { UserStore.withUsers [Auth.sampleUser "u-alice" "alice" none] with
    allowedClusters := Table.collect [("alice", ["lab"])] }

theorem removed_account_reaches_prod : ¬ RemovalKeepsOut aliceInLab "alice" "prod" := by
  intro keeps
  have kept := (keeps (by decide) (by rfl)).1
  have opened : (aliceInLab.deleteUser "alice").1.userCanAccessCluster "alice" "prod" = true := by decide
  rw [kept.access] at opened
  cases opened

end Moxui.Api
