import Moxui.Auth.Sessions

set_option autoImplicit false

namespace Moxui.Auth

inductive UsersChange (store : UserStore) : UserStore → Prop where
  | same : UsersChange store store
  | rehashed (order : Table String User) : UsersChange store (store.rehash order)
  | added (user : User) (absent : store.get user.username = none) (plain : user.totpEnabled = false) :
      UsersChange store (store.insertUser user)
  | updated (username : String) (update : UserUpdate) : UsersChange store (store.updateUser username update).1
  | deleted (username : String) : UsersChange store (store.deleteUser username).1

structure SameFactor (account later : User) : Prop where
  id : later.id = account.id
  totpEnabled : later.totpEnabled = account.totpEnabled
  totpSecret : later.totpSecret = account.totpSecret
  backupCodes : later.backupCodes = account.backupCodes

namespace UserStore

theorem get_insert_user (user : User) (store : UserStore) (username : String) :
    (store.insertUser user).get username = if username = user.username then some user else store.get username :=
  Table.lookup_insert_eq user.username username user store.users

theorem add_user_change (user : User) (plain : user.totpEnabled = false) (store : UserStore) :
    UsersChange store (store.addUser user).1 := by
  simp only [addUser]
  cases absent : store.get user.username with
  | none => exact .added user absent plain
  | some existing => exact .same

theorem get_update_user (target : String) (update : UserUpdate) (store : UserStore) (username : String) :
    (store.updateUser target update).1.get username =
      if username = target then (store.get username).map fun user => (applyUpdate update user).1
      else store.get username := by
  simp only [updateUser]
  cases found : store.get target with
  | none =>
      by_cases same : username = target
      · simp [same, found]
      · simp [same]
  | some user => exact Table.lookup_modify target username _ store.users

theorem get_delete_user (target : String) (store : UserStore) (username : String) :
    (store.deleteUser target).1.get username = if username = target then none else store.get username := by
  simp only [deleteUser]
  cases found : store.get target with
  | none =>
      by_cases same : username = target
      · simp [same, found]
      · simp [same]
  | some user => exact Table.lookup_erase_eq target username store.users

theorem apply_update_factor (update : UserUpdate) (user : User) : SameFactor user (applyUpdate update user).1 := by
  simp only [applyUpdate]
  split
  · exact ⟨rfl, rfl, rfl, rfl⟩
  · split
    · exact ⟨rfl, rfl, rfl, rfl⟩
    · exact ⟨rfl, rfl, rfl, rfl⟩

end UserStore

theorem same_factor_refl (account : User) : SameFactor account account :=
  ⟨rfl, rfl, rfl, rfl⟩

theorem users_change_of_eq (store after : UserStore) (same : after = store) : UsersChange store after :=
  same ▸ .same

theorem users_change_factor (store after : UserStore) (change : UsersChange store after) (username : String)
    (account later : User) (before : store.get username = some account) (stored : after.get username = some later) :
    SameFactor account later := by
  cases change with
  | same =>
      rw [before, Option.some.injEq] at stored
      exact stored ▸ same_factor_refl account
  | rehashed order =>
      rw [UserStore.get_rehash, before, Option.some.injEq] at stored
      exact stored ▸ same_factor_refl account
  | added user absent plain =>
      rw [UserStore.get_insert_user] at stored
      by_cases same : username = user.username
      · rw [← same, before] at absent
        cases absent
      · rw [if_neg same, before, Option.some.injEq] at stored
        exact stored ▸ same_factor_refl account
  | updated target update =>
      rw [UserStore.get_update_user] at stored
      by_cases same : username = target
      · rw [if_pos same, before, Option.map_some, Option.some.injEq] at stored
        exact stored ▸ UserStore.apply_update_factor update account
      · rw [if_neg same, before, Option.some.injEq] at stored
        exact stored ▸ same_factor_refl account
  | deleted target =>
      rw [UserStore.get_delete_user] at stored
      by_cases same : username = target
      · rw [if_pos same] at stored
        cases stored
      · rw [if_neg same, before, Option.some.injEq] at stored
        exact stored ▸ same_factor_refl account

section Handlers

variable (libs : Libs) (config : AuthConfig) (env : Env) (state : AuthState)

def changesUsers : AuthRequest → Bool
  | .ldapLogin _ _ => true
  | .createUser _ _ => true
  | .updateUser _ _ _ => true
  | .deleteUser _ _ => true
  | _ => false

def changesPreauth : AuthRequest → Bool
  | .login _ _ => true
  | .twoFactorComplete _ _ => true
  | _ => false

structure Frame (request : AuthRequest) (after : AuthState) : Prop where
  users : changesUsers request = false → after.users = state.users
  preauth : changesPreauth request = false → after.preauth = state.preauth

theorem frame_of_eq (request : AuthRequest) (after : AuthState) (users : after.users = state.users)
    (preauth : after.preauth = state.preauth) : Frame state request after :=
  ⟨fun _ => users, fun _ => preauth⟩

theorem issue_session_users (failure : ApiError) (user : User) :
    (issueSession libs config env failure user state).1.users = state.users := by
  simp only [issueSession]
  split <;> rfl

theorem issue_session_preauth (failure : ApiError) (user : User) :
    (issueSession libs config env failure user state).1.preauth = state.preauth := by
  simp only [issueSession]
  split <;> rfl

theorem issue_session_frame (request : AuthRequest) (failure : ApiError) (user : User) (between : AuthState)
    (users : between.users = state.users) (preauth : between.preauth = state.preauth) :
    Frame state request (issueSession libs config env failure user between).1 :=
  frame_of_eq state request _ ((issue_session_users libs config env between failure user).trans users)
    ((issue_session_preauth libs config env between failure user).trans preauth)

theorem login_users (username password : String) :
    (login libs config env username password state).1.users = state.users := by
  simp only [login]
  split
  · rfl
  · split
    · rfl
    · exact issue_session_users libs config env state _ _

theorem two_factor_complete_users (preauthToken code : String) :
    (twoFactorComplete libs config env preauthToken code state).1.users = state.users := by
  simp only [twoFactorComplete]
  split
  · rfl
  · split
    · rfl
    · split
      · rw [issue_session_users]
      · rfl

theorem refresh_frame (refreshToken : String) :
    Frame state (.refresh refreshToken) (refresh libs config env refreshToken state).1 := by
  simp only [refresh]
  split
  · exact frame_of_eq state _ _ rfl rfl
  · split
    · exact frame_of_eq state _ _ rfl rfl
    · split <;> exact frame_of_eq state _ _ rfl rfl

theorem logout_frame (refreshToken : String) :
    Frame state (.logout refreshToken) (logout libs env refreshToken state).1 := by
  simp only [logout]
  split <;> exact frame_of_eq state _ _ rfl rfl

theorem two_factor_verify_frame (claims : Claims) (secret code : String) :
    Frame state (.twoFactorVerify claims secret code) (twoFactorVerify libs env claims secret code state).1 := by
  simp only [twoFactorVerify]
  split <;> exact frame_of_eq state _ _ rfl rfl

theorem two_factor_disable_frame (claims : Claims) (password : Option String) :
    Frame state (.twoFactorDisable claims password) (twoFactorDisable libs claims password state).1 := by
  simp only [twoFactorDisable]
  split <;> exact frame_of_eq state _ _ rfl rfl

theorem oidc_login_frame (provider : String) :
    Frame state (.oidcLogin provider) (oidcLogin env provider state).1 := by
  simp only [oidcLogin]
  split
  · exact frame_of_eq state _ _ rfl rfl
  · split <;> exact frame_of_eq state _ _ rfl rfl

theorem oidc_callback_frame (stateKey code returned : String) :
    Frame state (.oidcCallback stateKey code returned)
      (oidcCallback libs config env stateKey code returned state).1 := by
  simp only [oidcCallback]
  split
  · exact frame_of_eq state _ _ rfl rfl
  · split
    · exact frame_of_eq state _ _ rfl rfl
    · split
      · split
        · exact issue_session_frame libs config env state _ _ _ _ rfl rfl
        · exact frame_of_eq state _ _ rfl rfl
      · exact issue_session_frame libs config env state _ _ _ _ rfl rfl

theorem register_start_frame (claims : Claims) :
    Frame state (.registerStart claims) (registerStart env claims state).1 := by
  simp only [registerStart]
  split
  · exact frame_of_eq state _ _ rfl rfl
  · split <;> exact frame_of_eq state _ _ rfl rfl

theorem register_complete_frame (claims : Claims) (credential : String) :
    Frame state (.registerComplete claims credential) (registerComplete env claims credential state).1 := by
  simp only [registerComplete]
  split
  · exact frame_of_eq state _ _ rfl rfl
  · split <;> exact frame_of_eq state _ _ rfl rfl

theorem login_start_frame (username : String) :
    Frame state (.loginStart username) (loginStart env username state).1 := by
  simp only [loginStart]
  split
  · exact frame_of_eq state _ _ rfl rfl
  · split
    · exact frame_of_eq state _ _ rfl rfl
    · split <;> exact frame_of_eq state _ _ rfl rfl

theorem login_complete_frame (username credential : String) :
    Frame state (.loginComplete username credential)
      (loginComplete libs config env username credential state).1 := by
  simp only [loginComplete]
  split
  · exact frame_of_eq state _ _ rfl rfl
  · split
    · exact frame_of_eq state _ _ rfl rfl
    · split
      · exact frame_of_eq state _ _ rfl rfl
      · exact issue_session_frame libs config env state _ _ _ _ rfl rfl

theorem list_users_frame (claims : Claims) : Frame state (.listUsers claims) (listUsers claims state).1 := by
  simp only [listUsers]
  split <;> exact frame_of_eq state _ _ rfl rfl

theorem ldap_login_preauth (username password : String) :
    (ldapLogin libs config env username password state).1.preauth = state.preauth := by
  simp only [ldapLogin]
  split
  · rfl
  · split
    · rfl
    · split
      · split
        · exact issue_session_preauth libs config env state _ _
        · rfl
      · split
        · rw [issue_session_preauth]
        · rfl

theorem create_user_preauth (claims : Claims) (request : CreateUserRequest) :
    (createUser env claims request state).1.preauth = state.preauth := by
  simp only [createUser]
  split
  · rfl
  · split
    · rfl
    · split
      · rfl
      · split <;> rfl

theorem update_user_preauth (claims : Claims) (username : String) (request : UpdateUserRequest) :
    (updateUser env claims username request state).1.preauth = state.preauth := by
  simp only [updateUser]
  split
  · rfl
  · split
    · rfl
    · split <;> rfl

theorem delete_user_preauth (claims : Claims) (username : String) :
    (deleteUser claims username state).1.preauth = state.preauth := by
  simp only [deleteUser]
  split
  · rfl
  · split <;> rfl

theorem handle_frame (request : AuthRequest) : Frame state request (handle libs config env state request).1 := by
  cases request with
  | login username password =>
      exact ⟨fun _ => login_users libs config env state username password, fun kept => by cases kept⟩
  | twoFactorComplete preauthToken code =>
      exact ⟨fun _ => two_factor_complete_users libs config env state preauthToken code, fun kept => by cases kept⟩
  | refresh refreshToken => exact refresh_frame libs config env state refreshToken
  | logout refreshToken => exact logout_frame libs env state refreshToken
  | twoFactorSetup claims => exact frame_of_eq state _ _ rfl rfl
  | twoFactorVerify claims secret code => exact two_factor_verify_frame libs env state claims secret code
  | twoFactorDisable claims password => exact two_factor_disable_frame libs state claims password
  | oidcLogin provider => exact oidc_login_frame env state provider
  | oidcCallback stateKey code returned => exact oidc_callback_frame libs config env state stateKey code returned
  | registerStart claims => exact register_start_frame env state claims
  | registerComplete claims credential => exact register_complete_frame env state claims credential
  | loginStart username => exact login_start_frame env state username
  | loginComplete username credential => exact login_complete_frame libs config env state username credential
  | listUsers claims => exact list_users_frame state claims
  | ldapLogin username password =>
      exact ⟨fun kept => (by cases kept), fun _ => ldap_login_preauth libs config env state username password⟩
  | createUser claims request =>
      exact ⟨fun kept => (by cases kept), fun _ => create_user_preauth env state claims request⟩
  | updateUser claims username request =>
      exact ⟨fun kept => (by cases kept), fun _ => update_user_preauth env state claims username request⟩
  | deleteUser claims username =>
      exact ⟨fun kept => (by cases kept), fun _ => delete_user_preauth state claims username⟩

theorem ldap_login_users (username password : String) :
    UsersChange state.users (ldapLogin libs config env username password state).1.users := by
  simp only [ldapLogin]
  split
  · exact .same
  · split
    · exact .same
    · split
      · split
        · rw [issue_session_users]
          exact .same
        · exact .same
      · split
        · rw [issue_session_users]
          exact UserStore.add_user_change _ rfl state.users
        · exact .same

theorem create_user_users (claims : Claims) (request : CreateUserRequest) :
    UsersChange state.users (createUser env claims request state).1.users := by
  simp only [createUser]
  split
  · exact .same
  · split
    · exact .same
    · split
      · exact .same
      · split <;> exact UserStore.add_user_change _ rfl state.users

theorem update_user_users (claims : Claims) (username : String) (request : UpdateUserRequest) :
    UsersChange state.users (updateUser env claims username request state).1.users := by
  simp only [updateUser]
  split
  · exact .same
  · split
    · exact .same
    · split <;> exact .updated username _

theorem delete_user_users (claims : Claims) (username : String) :
    UsersChange state.users (deleteUser claims username state).1.users := by
  simp only [deleteUser]
  split
  · exact .same
  · split <;> exact .deleted username

theorem step_users_change (input : AuthInput) :
    UsersChange state.users (authStep libs config state input).1.users := by
  cases input with
  | rehashUsers order => exact .rehashed order
  | rehashTokens order => exact .same
  | request env request =>
      cases request with
      | ldapLogin username password => exact ldap_login_users libs config env state username password
      | createUser claims request => exact create_user_users env state claims request
      | updateUser claims username request => exact update_user_users env state claims username request
      | deleteUser claims username => exact delete_user_users state claims username
      | _ => exact users_change_of_eq _ _ ((handle_frame libs config env state _).users rfl)

end Handlers

end Moxui.Auth
