import Moxui.Auth.Handlers
import Moxui.Auth.RefreshRun

set_option autoImplicit false

namespace Moxui.Auth

inductive AuthRequest where
  | login (username password : String)
  | refresh (refreshToken : String)
  | logout (refreshToken : String)
  | twoFactorComplete (preauthToken code : String)
  | twoFactorSetup (claims : Claims)
  | twoFactorVerify (claims : Claims) (secret code : String)
  | twoFactorDisable (claims : Claims) (password : Option String)
  | oidcLogin (provider : String)
  | oidcCallback (stateKey code returnedState : String)
  | ldapLogin (username password : String)
  | registerStart (claims : Claims)
  | registerComplete (claims : Claims) (credential : String)
  | loginStart (username : String)
  | loginComplete (username credential : String)
  | listUsers (claims : Claims)
  | createUser (claims : Claims) (request : CreateUserRequest)
  | updateUser (claims : Claims) (username : String) (request : UpdateUserRequest)
  | deleteUser (claims : Claims) (username : String)

-- A request is handled as one step. The hash maps may present their entries in another
-- order at any time.
inductive AuthInput where
  | request (env : Env) (request : AuthRequest)
  | rehashUsers (order : Table String User)
  | rehashTokens (order : Table String StoredRefreshToken)

abbrev AuthEvent := Machine.Event AuthState AuthInput (Option Outcome)

section System

variable (libs : Libs) (config : AuthConfig)

def handle (env : Env) (state : AuthState) : AuthRequest → AuthState × Outcome
  | .login username password => login libs config env username password state
  | .refresh refreshToken => refresh libs config env refreshToken state
  | .logout refreshToken => logout libs env refreshToken state
  | .twoFactorComplete preauthToken code => twoFactorComplete libs config env preauthToken code state
  | .twoFactorSetup claims => twoFactorSetup config env claims state
  | .twoFactorVerify claims secret code => twoFactorVerify libs env claims secret code state
  | .twoFactorDisable claims password => twoFactorDisable libs claims password state
  | .oidcLogin provider => oidcLogin env provider state
  | .oidcCallback stateKey code returnedState => oidcCallback libs config env stateKey code returnedState state
  | .ldapLogin username password => ldapLogin libs config env username password state
  | .registerStart claims => registerStart env claims state
  | .registerComplete claims credential => registerComplete env claims credential state
  | .loginStart username => loginStart env username state
  | .loginComplete username credential => loginComplete libs config env username credential state
  | .listUsers claims => listUsers claims state
  | .createUser claims request => createUser env claims request state
  | .updateUser claims username request => updateUser env claims username request state
  | .deleteUser claims username => deleteUser claims username state

def authStep (state : AuthState) : AuthInput → AuthState × Option Outcome
  | .request env request => ((handle libs config env state request).1, some (handle libs config env state request).2)
  | .rehashUsers order => ({ state with users := state.users.rehash order }, none)
  | .rehashTokens order => ({ state with refreshStore := state.refreshStore.rehash order }, none)

def authMachine : Machine AuthState AuthInput (Option Outcome) :=
  ⟨authStep libs config⟩

end System

def AuthState.initial (users : UserStore) (webauthn : Option WebauthnState) (oidc : Option OidcService) : AuthState :=
  { users := users, refreshStore := RefreshStore.empty, preauth := ∅, webauthn := webauthn, oidc := oidc
    oidcUsers := ∅ }

def mintedJwt : Outcome → Option Jwt
  | .ok (.session response) => some response.token
  | .ok (.refreshed response) => some response.token
  | _ => none

def mintedRefresh : Outcome → Option String
  | .ok (.session response) => some response.refreshToken
  | .ok (.refreshed response) => some response.refreshToken
  | _ => none

section Accounts

variable (libs : Libs) (config : AuthConfig) (env : Env) (state : AuthState)

def rotation (refreshToken : String) : RefreshStore × Option IssuedRefreshToken :=
  RefreshStore.rotate libs.hashToken refreshToken RefreshStore.defaultTtlSecs env.clock.checkedAt env.fresh
    env.clock.storedAt state.refreshStore

def ldapIdentity (username password : String) : Option LdapUserInfo :=
  if !config.ldap.enabled || config.ldap.url.isNone then none
  else ldapResult env.directory config.ldap username password

def oidcIdentity (stateKey code returnedState : String) : Option OidcUserInfo :=
  state.oidc.bind fun service =>
    (OidcService.handleCallback stateKey code returnedState env.clock.oidcAt env.exchange service).2.toOption

-- The stored account a handler reads before it decides whether to return tokens.
def accountRead : AuthRequest → Option User
  | .login username _ => state.users.get username
  | .refresh refreshToken => (rotation libs env state refreshToken).2.bind fun issued =>
      state.users.getById issued.userId
  | .twoFactorComplete preauthToken _ =>
      (PreAuthStore.consume preauthToken env.clock.checkedAt state.preauth).2.bind fun session =>
        state.users.getById session.userId
  | .loginComplete username _ => state.webauthn.bind fun _ => state.users.get username
  | .ldapLogin username password => (ldapIdentity config env username password).bind fun info =>
      state.users.get info.username
  | .oidcCallback stateKey code returnedState => (oidcIdentity env state stateKey code returnedState).bind fun info =>
      state.oidcUsers.lookup (oidcKey info)
  | _ => none

def accountAccepted (user : User) : AuthRequest → Bool
  | .login _ password => user.enabled && libs.verifyPassword password user.passwordHash && !user.totpEnabled
  | .refresh _ => true
  | .twoFactorComplete _ code => secondFactorAccepted libs env user code
  | .loginComplete _ credential => state.webauthn.any fun webauthn =>
      (webauthn.finishAuthentication user.id (env.authenticationFinish credential) libs.updatePasskey).2.isOk
  | .ldapLogin _ _ => user.enabled
  | .oidcCallback _ _ _ => user.enabled
  | _ => false

-- The account a handler makes up when it read none.
def accountCreated : AuthRequest → Option User
  | .ldapLogin username password => (ldapIdentity config env username password).bind fun info =>
      if config.ldap.autoCreate then some (newLdapUser config env info) else none
  | .oidcCallback stateKey code returnedState => (oidcIdentity env state stateKey code returnedState).map fun info =>
      newOidcUser env (oidcKey info) info
  | _ => none

def accountFor (request : AuthRequest) : Option User :=
  match accountRead libs config env state request with
  | some user => if accountAccepted libs env state user request then some user else none
  | none => accountCreated config env state request

def signed (user : User) : Option Jwt :=
  (libs.jwtEncode (claimsFor config env user)).toOption.map fun text => ⟨claimsFor config env user, text⟩

theorem issue_session_jwt (failure : ApiError) (user : User) :
    mintedJwt (issueSession libs config env failure user state).2 = signed libs config env user := by
  cases encoded : libs.jwtEncode (claimsFor config env user) with
  | error reason => simp [issueSession, signed, encoded, mintedJwt, Except.toOption]
  | ok text => simp [issueSession, signed, encoded, mintedJwt, loginResponse, Except.toOption]

theorem login_jwt (username password : String) :
    mintedJwt (login libs config env username password state).2 =
      (accountFor libs config env state (.login username password)).bind (signed libs config env) := by
  simp only [login, accountFor, accountRead, accountCreated, accountAccepted, UserStore.authenticate]
  cases state.users.get username with
  | none => rfl
  | some user =>
      cases enabled : user.enabled with
      | false => simp [mintedJwt, enabled]
      | true =>
          cases verified : libs.verifyPassword password user.passwordHash with
          | false => simp [mintedJwt, enabled, verified]
          | true =>
              cases second : user.totpEnabled with
              | true => simp [mintedJwt, enabled, verified, second]
              | false => simp [enabled, verified, second, issue_session_jwt]

theorem refresh_jwt (refreshToken : String) :
    mintedJwt (refresh libs config env refreshToken state).2 =
      (accountFor libs config env state (.refresh refreshToken)).bind (signed libs config env) := by
  simp only [refresh, accountFor, accountRead, accountCreated, accountAccepted, rotation]
  cases (RefreshStore.rotate libs.hashToken refreshToken RefreshStore.defaultTtlSecs env.clock.checkedAt env.fresh
      env.clock.storedAt state.refreshStore).2 with
  | none => rfl
  | some issued =>
      cases found : state.users.getById issued.userId with
      | none => simp [mintedJwt, found]
      | some user =>
          cases encoded : libs.jwtEncode (claimsFor config env user) with
          | error reason => simp [mintedJwt, signed, found, encoded, Except.toOption]
          | ok text => simp [mintedJwt, signed, found, encoded, Except.toOption]

theorem two_factor_complete_jwt (preauthToken code : String) :
    mintedJwt (twoFactorComplete libs config env preauthToken code state).2 =
      (accountFor libs config env state (.twoFactorComplete preauthToken code)).bind (signed libs config env) := by
  simp only [twoFactorComplete, accountFor, accountRead, accountCreated, accountAccepted]
  cases (PreAuthStore.consume preauthToken env.clock.checkedAt state.preauth).2 with
  | none => rfl
  | some session =>
      cases found : state.users.getById session.userId with
      | none => simp [mintedJwt, found]
      | some user =>
          cases accepted : secondFactorAccepted libs env user code with
          | false => simp [mintedJwt, found, accepted]
          | true => simp [found, accepted, issue_session_jwt]

theorem oidc_callback_jwt (stateKey code returnedState : String) :
    mintedJwt (oidcCallback libs config env stateKey code returnedState state).2 =
      (accountFor libs config env state (.oidcCallback stateKey code returnedState)).bind (signed libs config env) := by
  simp only [oidcCallback, accountFor, accountRead, accountCreated, accountAccepted, oidcIdentity]
  cases state.oidc with
  | none => rfl
  | some service =>
      simp only [Option.bind_some]
      cases (OidcService.handleCallback stateKey code returnedState env.clock.oidcAt env.exchange service).2 with
      | error reason => simp [mintedJwt, Except.toOption]
      | ok info =>
          cases found : state.oidcUsers.lookup (oidcKey info) with
          | none => simp [found, Except.toOption, issue_session_jwt]
          | some existing =>
              cases enabled : existing.enabled with
              | false => simp [mintedJwt, found, enabled, Except.toOption]
              | true => simp [found, enabled, Except.toOption, issue_session_jwt]

theorem ldap_login_jwt (username password : String) :
    mintedJwt (ldapLogin libs config env username password state).2 =
      (accountFor libs config env state (.ldapLogin username password)).bind (signed libs config env) := by
  simp only [ldapLogin, accountFor, accountRead, accountCreated, accountAccepted, ldapIdentity]
  by_cases off : (!config.ldap.enabled || config.ldap.url.isNone) = true
  · simp [off, mintedJwt]
  · simp only [off, Bool.false_eq_true, if_false]
    cases ldapResult env.directory config.ldap username password with
    | none => rfl
    | some info =>
        cases found : state.users.get info.username with
        | none =>
            by_cases create : config.ldap.autoCreate = true
            · simp [found, create, issue_session_jwt]
            · simp [found, create, mintedJwt]
        | some existing =>
            cases enabled : existing.enabled with
            | false => simp [mintedJwt, found, enabled]
            | true => simp [found, enabled, issue_session_jwt]

theorem login_complete_jwt (username credential : String) :
    mintedJwt (loginComplete libs config env username credential state).2 =
      (accountFor libs config env state (.loginComplete username credential)).bind (signed libs config env) := by
  cases present : state.webauthn with
  | none => simp [loginComplete, accountFor, accountRead, accountCreated, present, mintedJwt]
  | some webauthn =>
      cases found : state.users.get username with
      | none => simp [loginComplete, accountFor, accountRead, accountCreated, present, found, mintedJwt]
      | some user =>
          cases finished : (webauthn.finishAuthentication user.id (env.authenticationFinish credential)
              libs.updatePasskey).2 with
          | error reason =>
              simp [loginComplete, accountFor, accountRead, accountAccepted, present, found, finished, mintedJwt,
                Except.isOk, Except.toBool]
          | ok result =>
              simp [loginComplete, accountFor, accountRead, accountAccepted, present, found, finished,
                issue_session_jwt, Except.isOk, Except.toBool]

structure Quiet (result : AuthState × Outcome) : Prop where
  tokens : mintedJwt result.2 = none
  store : result.1.refreshStore = state.refreshStore

theorem two_factor_verify_quiet (claims : Claims) (secret code : String) :
    Quiet state (twoFactorVerify libs env claims secret code state) := by
  simp only [twoFactorVerify]
  split <;> exact ⟨rfl, rfl⟩

theorem two_factor_disable_quiet (claims : Claims) (password : Option String) :
    Quiet state (twoFactorDisable libs claims password state) := by
  simp only [twoFactorDisable]
  split <;> exact ⟨rfl, rfl⟩

theorem oidc_login_quiet (provider : String) : Quiet state (oidcLogin env provider state) := by
  simp only [oidcLogin]
  split
  · exact ⟨rfl, rfl⟩
  · split <;> exact ⟨rfl, rfl⟩

theorem register_start_quiet (claims : Claims) : Quiet state (registerStart env claims state) := by
  simp only [registerStart]
  split
  · exact ⟨rfl, rfl⟩
  · split <;> exact ⟨rfl, rfl⟩

theorem register_complete_quiet (claims : Claims) (credential : String) :
    Quiet state (registerComplete env claims credential state) := by
  simp only [registerComplete]
  split
  · exact ⟨rfl, rfl⟩
  · split <;> exact ⟨rfl, rfl⟩

theorem login_start_quiet (username : String) : Quiet state (loginStart env username state) := by
  simp only [loginStart]
  split
  · exact ⟨rfl, rfl⟩
  · split
    · exact ⟨rfl, rfl⟩
    · split <;> exact ⟨rfl, rfl⟩

theorem list_users_quiet (claims : Claims) : Quiet state (listUsers claims state) := by
  simp only [listUsers]
  split <;> exact ⟨rfl, rfl⟩

theorem create_user_quiet (claims : Claims) (request : CreateUserRequest) :
    Quiet state (createUser env claims request state) := by
  simp only [createUser]
  split
  · exact ⟨rfl, rfl⟩
  · split
    · exact ⟨rfl, rfl⟩
    · split
      · exact ⟨rfl, rfl⟩
      · split <;> exact ⟨rfl, rfl⟩

theorem update_user_quiet (claims : Claims) (username : String) (request : UpdateUserRequest) :
    Quiet state (updateUser env claims username request state) := by
  simp only [updateUser]
  split
  · exact ⟨rfl, rfl⟩
  · split
    · exact ⟨rfl, rfl⟩
    · split <;> exact ⟨rfl, rfl⟩

theorem delete_user_quiet (claims : Claims) (username : String) :
    Quiet state (deleteUser claims username state) := by
  simp only [deleteUser]
  split
  · exact ⟨rfl, rfl⟩
  · split <;> exact ⟨rfl, rfl⟩

theorem logout_jwt (refreshToken : String) : mintedJwt (logout libs env refreshToken state).2 = none := by
  simp only [logout]
  split <;> rfl

theorem handle_jwt (request : AuthRequest) : mintedJwt (handle libs config env state request).2 =
    (accountFor libs config env state request).bind (signed libs config env) := by
  cases request with
  | login username password => exact login_jwt libs config env state username password
  | refresh refreshToken => exact refresh_jwt libs config env state refreshToken
  | twoFactorComplete preauthToken code => exact two_factor_complete_jwt libs config env state preauthToken code
  | oidcCallback stateKey code returned => exact oidc_callback_jwt libs config env state stateKey code returned
  | ldapLogin username password => exact ldap_login_jwt libs config env state username password
  | loginComplete username credential => exact login_complete_jwt libs config env state username credential
  | logout refreshToken => exact logout_jwt libs env state refreshToken
  | twoFactorSetup claims => rfl
  | twoFactorVerify claims secret code => exact (two_factor_verify_quiet libs env state claims secret code).tokens
  | twoFactorDisable claims password => exact (two_factor_disable_quiet libs state claims password).tokens
  | oidcLogin provider => exact (oidc_login_quiet env state provider).tokens
  | registerStart claims => exact (register_start_quiet env state claims).tokens
  | registerComplete claims credential => exact (register_complete_quiet env state claims credential).tokens
  | loginStart username => exact (login_start_quiet env state username).tokens
  | listUsers claims => exact (list_users_quiet state claims).tokens
  | createUser claims request => exact (create_user_quiet env state claims request).tokens
  | updateUser claims username request => exact (update_user_quiet env state claims username request).tokens
  | deleteUser claims username => exact (delete_user_quiet state claims username).tokens

end Accounts

end Moxui.Auth
