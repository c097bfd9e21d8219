import Moxui.Api.AuthGate
import Moxui.Api.Clusters

set_option autoImplicit false

namespace Moxui.Api

open Moxui.Auth (Claims Role UserStore)

structure UserLibs where
  createUserRequest : Request → Except Response Auth.CreateUserRequest
  updateUserRequest : Request → Except Response Auth.UpdateUserRequest

def apiErrorResponse (error : Auth.ApiError) : Response :=
  match error.body with
  | .json text => jsonResponse error.status (.obj [("error", .str text)])
  | .plain text => textResponse error.status text

def userViewJson (view : Auth.UserView) : Json :=
  .obj [("id", .str view.id), ("username", .str view.username), ("display_name", .str view.displayName),
    ("email", match view.email with
      | some email => .str email
      | none => .null), ("role", .str view.role)]

def outcomeResponse : Auth.Outcome → Response
  | .ok (.users views) => jsonResponse 200 (.arr (views.map userViewJson))
  | .ok (.userChange status username) =>
      jsonResponse 200 (.obj [("status", .str status), ("username", .str username)])
  | .ok _ => textResponse 200 ""
  | .error error => apiErrorResponse error

section Users

variable {ρ : Type} (libs : ApiLibs) (userLibs : UserLibs) (env : Auth.Env) (entry : Entry)

def userPath : Except Response String := do
  match ← pathTexts libs entry with
  | [username] => .ok username
  | _ => .error (libs.badPath entry.params)

-- All that axum extracts for a handler comes before the check of the role.
def listUsers (auth : Auth.AuthState) : Except Response (Auth.AuthState × Auth.Outcome) := do
  let caller ← authContext entry
  .ok (Auth.listUsers caller.claims auth)

def createUser (auth : Auth.AuthState) : Except Response (Auth.AuthState × Auth.Outcome) := do
  let caller ← authContext entry
  let body ← userLibs.createUserRequest entry.request
  .ok (Auth.createUser env caller.claims body auth)

def updateUser (auth : Auth.AuthState) : Except Response (Auth.AuthState × Auth.Outcome) := do
  let caller ← authContext entry
  let username ← userPath libs entry
  let body ← userLibs.updateUserRequest entry.request
  .ok (Auth.updateUser env caller.claims username body auth)

def deleteUser (auth : Auth.AuthState) : Except Response (Auth.AuthState × Auth.Outcome) := do
  let caller ← authContext entry
  let username ← userPath libs entry
  .ok (Auth.deleteUser caller.claims username auth)

def answerUsers (state : AppState ρ) (handled : Except Response (Auth.AuthState × Auth.Outcome)) :
    AppState ρ × Response :=
  match handled with
  | .error response => (state, response)
  | .ok handled => ({ state with auth := handled.1 }, outcomeResponse handled.2)

def userHandler (state : AppState ρ) : Handler → Option (AppState ρ × Response)
  | .listUsers => some (answerUsers state (listUsers entry state.auth))
  | .createUser => some (answerUsers state (createUser userLibs env entry state.auth))
  | .updateUser => some (answerUsers state (updateUser libs userLibs env entry state.auth))
  | .deleteUser => some (answerUsers state (deleteUser libs entry state.auth))
  | _ => none

def Inner.withUsers (inner : Inner ρ) : Inner ρ :=
  { inner with answer := fun entry state =>
      (userHandler libs userLibs env entry state entry.handler).getD (inner.answer entry state) }

def userHandlers : List Handler :=
  [.listUsers, .createUser, .updateUser, .deleteUser]

theorem require_role_agrees (claims : Claims) (required : Role) (permitted : Auth.requireRole claims required = .ok ()) :
    requireRole ⟨claims⟩ required = .ok () := by
  unfold Auth.requireRole at permitted
  unfold requireRole AuthContext.role
  cases parsed : Role.fromStr claims.role with
  | error reason =>
      simp only [parsed] at permitted
      cases permitted
  | ok role =>
      cases allowed : role.can required with
      | true => simp [allowed]
      | false => simp [parsed, allowed] at permitted

def NeedsAdmin (claims : Claims) (before after : UserStore) : Prop :=
  after = before ∨ requireRole ⟨claims⟩ .admin = .ok ()

theorem create_user_needs_admin (claims : Claims) (body : Auth.CreateUserRequest) (auth : Auth.AuthState) :
    NeedsAdmin claims auth.users (Auth.createUser env claims body auth).1.users := by
  cases permitted : Auth.requireRole claims .admin with
  | ok passed => exact Or.inr (require_role_agrees claims .admin permitted)
  | error refused => exact Or.inl (by simp only [Auth.createUser, permitted])

theorem update_user_needs_admin (claims : Claims) (username : String) (body : Auth.UpdateUserRequest)
    (auth : Auth.AuthState) : NeedsAdmin claims auth.users (Auth.updateUser env claims username body auth).1.users := by
  cases permitted : Auth.requireRole claims .admin with
  | ok passed => exact Or.inr (require_role_agrees claims .admin permitted)
  | error refused => exact Or.inl (by simp only [Auth.updateUser, permitted])

theorem delete_user_needs_admin (claims : Claims) (username : String) (auth : Auth.AuthState) :
    NeedsAdmin claims auth.users (Auth.deleteUser claims username auth).1.users := by
  cases permitted : Auth.requireRole claims .admin with
  | ok passed => exact Or.inr (require_role_agrees claims .admin permitted)
  | error refused => exact Or.inl (by simp only [Auth.deleteUser, permitted])

theorem list_users_keeps (claims : Claims) (auth : Auth.AuthState) :
    (Auth.listUsers claims auth).1.users = auth.users := by
  unfold Auth.listUsers
  cases Auth.requireRole claims .admin <;> rfl

end Users

end Moxui.Api
