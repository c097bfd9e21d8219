import Moxui.Auth.Ldap
import Moxui.Auth.Oidc
import Moxui.Auth.Totp
import Moxui.Auth.User
import Moxui.Auth.Webauthn

set_option autoImplicit false

namespace Moxui.Auth

structure Claims where
  sub : String
  username : String
  role : String
  iat : Int
  exp : Int
deriving DecidableEq, Repr

-- A signed token is its text together with the claims that were signed.
structure Jwt where
  claims : Claims
  text : String
deriving DecidableEq, Repr

-- Library code that depends on its arguments only: sha2, bcrypt, hmac, jsonwebtoken and
-- webauthn-rs. A bcrypt error counts as a mismatch, as it does for every caller.
structure Libs where
  hashToken : String → String
  verifyPassword : String → String → Bool
  hmacSha1 : Totp.HmacSha1
  jwtEncode : Claims → Except String String
  updatePasskey : Passkey → AuthenticationResult → Passkey

structure AuthConfig where
  ldap : LdapConfig
  jwtLifetimeSecs : Int
  jwtIssuer : String

-- The clock readings of one request, named after what they are read for.
structure Clock where
  checkedAt : Int
  storedAt : Int
  signedAt : Int
  totpAt : Nat
  oidcAt : Int

-- What one request gets from outside: the clock, random values, the directory, the identity
-- provider and the verdicts of webauthn-rs.
structure Env where
  clock : Clock
  fresh : Fresh
  preauthToken : String
  randomPassword : String
  totpSecret : String
  backupCodes : List String
  hashPassword : String → Except String String
  directory : Directory
  oidcStart : Except String OidcStart
  exchange : PendingOidcState → String → Except String ProviderIdentity
  registrationStart : Option (List String) → Except String (String × String)
  registrationFinish : String → String → Except String Passkey
  authenticationStart : List Passkey → Except String (String × String)
  authenticationFinish : String → String → Except String AuthenticationResult

structure AuthState where
  users : UserStore
  refreshStore : RefreshStore
  preauth : PreAuthStore
  webauthn : Option WebauthnState
  oidc : Option OidcService
  oidcUsers : Table String User

structure UserView where
  id : String
  username : String
  displayName : String
  email : Option String
  role : String
deriving DecidableEq, Repr

def UserView.ofUser (user : User) : UserView :=
  { id := user.id, username := user.username, displayName := user.displayName, email := user.email
    role := user.role.asStr }

structure LoginResponse where
  token : Jwt
  expiresIn : Int
  user : UserView
  refreshToken : String
deriving DecidableEq, Repr

structure RefreshResponse where
  token : Jwt
  expiresIn : Int
  refreshToken : String
deriving DecidableEq, Repr

inductive Reply where
  | session (response : LoginResponse)
  | twoFactorRequired (preauthToken : String)
  | refreshed (response : RefreshResponse)
  | loggedOut
  | twoFactorSetup (secret url : String) (backupCodes : List String)
  | twoFactorStatus (status : String) (message : Option String)
  | oidcStarted (authUrl stateKey : String)
  | challenge (challenge : String)
  | registered
  | users (views : List UserView)
  | userChange (status username : String)
deriving DecidableEq, Repr

inductive ErrorBody where
  | json (error : String)
  | plain (text : String)
deriving DecidableEq, Repr

structure ApiError where
  status : Nat
  body : ErrorBody
deriving DecidableEq, Repr

abbrev Outcome := Except ApiError Reply

def unauthorizedResponse (message : String) : ApiError :=
  ⟨401, .json message⟩

def internalResponse (message : String) : ApiError :=
  ⟨500, .json message⟩

def forbidden (message : String) : ApiError :=
  ⟨403, .plain message⟩

def requireRole (claims : Claims) (required : Role) : Except ApiError Unit :=
  match Role.fromStr claims.role with
  | .ok role => if role.can required then .ok () else .error (forbidden "insufficient role")
  | .error badRole => .error (forbidden ("unknown role in token: " ++ badRole))

section Handlers

variable (libs : Libs) (config : AuthConfig) (env : Env)

def claimsFor (user : User) : Claims :=
  { sub := user.id, username := user.username, role := user.role.asStr, iat := env.clock.signedAt
    exp := timestampAdd env.clock.signedAt config.jwtLifetimeSecs }

def loginResponse (user : User) (text refreshToken : String) : LoginResponse :=
  { token := ⟨claimsFor config env user, text⟩, expiresIn := config.jwtLifetimeSecs
    user := UserView.ofUser user, refreshToken := refreshToken }

-- The end every login path shares: sign the claims, issue a refresh token for the user's id.
def issueSession (failure : ApiError) (user : User) (state : AuthState) : AuthState × Outcome :=
  match libs.jwtEncode (claimsFor config env user) with
  | .error _ => (state, .error failure)
  | .ok text =>
      let issued := RefreshStore.issue libs.hashToken user.id RefreshStore.defaultTtlSecs env.fresh env.clock.storedAt
        state.refreshStore
      ({ state with refreshStore := issued.1 }, .ok (.session (loginResponse config env user text issued.2.token)))

def login (username password : String) (state : AuthState) : AuthState × Outcome :=
  match state.users.authenticate libs.verifyPassword username password with
  | none => (state, .error (unauthorizedResponse "invalid username or password"))
  | some user =>
      if user.totpEnabled then
        let pending := PreAuthStore.issue user.id user.username env.preauthToken env.clock.storedAt state.preauth
        ({ state with preauth := pending }, .ok (.twoFactorRequired env.preauthToken))
      else issueSession libs config env (internalResponse "failed to sign token") user state

def refresh (refreshToken : String) (state : AuthState) : AuthState × Outcome :=
  let rotated := RefreshStore.rotate libs.hashToken refreshToken RefreshStore.defaultTtlSecs env.clock.checkedAt
    env.fresh env.clock.storedAt state.refreshStore
  let after := { state with refreshStore := rotated.1 }
  match rotated.2 with
  | none => (after, .error (unauthorizedResponse "invalid or expired refresh token"))
  | some issued =>
      match state.users.getById issued.userId with
      | none => (after, .error (internalResponse "user not found"))
      | some user =>
          match libs.jwtEncode (claimsFor config env user) with
          | .error _ => (after, .error (internalResponse "failed to sign token"))
          | .ok text => (after, .ok (.refreshed
              { token := ⟨claimsFor config env user, text⟩, expiresIn := config.jwtLifetimeSecs
                refreshToken := issued.token }))

def logout (refreshToken : String) (state : AuthState) : AuthState × Outcome :=
  match RefreshStore.verify libs.hashToken refreshToken env.clock.checkedAt state.refreshStore with
  | some (id, _) => ({ state with refreshStore := (RefreshStore.revoke id state.refreshStore).1 }, .ok .loggedOut)
  | none => (state, .ok .loggedOut)

-- The TOTP code first, then the backup codes. A backup code that matches stays in the store.
def secondFactorAccepted (user : User) (code : String) : Bool :=
  (match user.totpSecret with
    | some secret => Totp.verifyTotp libs.hmacSha1 env.clock.totpAt secret code
    | none => false) ||
  (Totp.verifyBackupCode libs.verifyPassword user.backupCodes code).isSome

def twoFactorComplete (preauthToken code : String) (state : AuthState) : AuthState × Outcome :=
  let consumed := PreAuthStore.consume preauthToken env.clock.checkedAt state.preauth
  let after := { state with preauth := consumed.1 }
  match consumed.2 with
  | none => (after, .error (unauthorizedResponse "invalid or expired pre-auth token"))
  | some session =>
      match state.users.getById session.userId with
      | none => (after, .error (internalResponse "user not found"))
      | some user =>
          if secondFactorAccepted libs env user code then
            issueSession libs config env (internalResponse "failed to sign token") user after
          else (after, .error (unauthorizedResponse "invalid TOTP code or backup code"))

def twoFactorSetup (claims : Claims) (state : AuthState) : AuthState × Outcome :=
  (state, .ok (.twoFactorSetup env.totpSecret (Totp.totpUrl config.jwtIssuer claims.username env.totpSecret)
    env.backupCodes))

-- Nothing is written: the source notes that it cannot reach the user from here.
def twoFactorVerify (_claims : Claims) (secret code : String) (state : AuthState) : AuthState × Outcome :=
  if Totp.verifyTotp libs.hmacSha1 env.clock.totpAt secret code then
    (state, .ok (.twoFactorStatus "2fa_enabled"
      (some "Two-factor authentication is now active. Save your backup codes.")))
  else (state, .error (unauthorizedResponse "invalid TOTP code — check your authenticator app"))

def twoFactorDisable (claims : Claims) (password : Option String) (state : AuthState) : AuthState × Outcome :=
  match state.users.authenticate libs.verifyPassword claims.username (password.getD "") with
  | none => (state, .error (unauthorizedResponse "invalid password"))
  | some _ => (state, .ok (.twoFactorStatus "2fa_disabled" none))

def oidcLogin (provider : String) (state : AuthState) : AuthState × Outcome :=
  match state.oidc with
  | none => (state, .error ⟨400, .json "OIDC is not configured"⟩)
  | some service =>
      let started := OidcService.startLogin provider env.oidcStart env.clock.oidcAt service
      let after := { state with oidc := some started.1 }
      match started.2 with
      | .error reason => (after, .error ⟨400, .json reason⟩)
      | .ok (authUrl, stateKey) => (after, .ok (.oidcStarted authUrl stateKey))

def newOidcUser (key : String) (info : OidcUserInfo) : User :=
  { id := key, username := info.username, displayName := info.displayName, email := info.email
    passwordHash := env.randomPassword, role := .viewer, enabled := true, totpSecret := none, totpEnabled := false
    backupCodes := [] }

def oidcKey (info : OidcUserInfo) : String :=
  info.provider ++ ":" ++ info.sub

def oidcCallback (stateKey code returnedState : String) (state : AuthState) : AuthState × Outcome :=
  match state.oidc with
  | none => (state, .error ⟨400, .json "OIDC is not configured"⟩)
  | some service =>
      let handled := OidcService.handleCallback stateKey code returnedState env.clock.oidcAt env.exchange service
      let after := { state with oidc := some handled.1 }
      match handled.2 with
      | .error reason => (after, .error ⟨401, .json reason⟩)
      | .ok info =>
          match state.oidcUsers.lookup (oidcKey info) with
          | some existing =>
              if existing.enabled then
                issueSession libs config env (internalResponse "failed to sign token") existing after
              else (after, .error ⟨403, .json "account is disabled"⟩)
          | none =>
              let created := newOidcUser env (oidcKey info) info
              issueSession libs config env (internalResponse "failed to sign token") created
                { after with oidcUsers := state.oidcUsers.insert (oidcKey info) created }

def newLdapUser (info : LdapUserInfo) : User :=
  { id := ldapUserId info.username, username := info.username, displayName := info.displayName
    email := if info.email = "" then none else some info.email
    passwordHash := env.randomPassword
    role := match Role.fromStr config.ldap.defaultRole with
      | .ok role => role
      | .error _ => .viewer
    enabled := true, totpSecret := none, totpEnabled := false, backupCodes := [] }

def ldapLogin (username password : String) (state : AuthState) : AuthState × Outcome :=
  if !config.ldap.enabled || config.ldap.url.isNone then
    (state, .error (unauthorizedResponse "LDAP authentication is not enabled"))
  else
    match ldapResult env.directory config.ldap username password with
    | none => (state, .error (unauthorizedResponse "invalid LDAP username or password"))
    | some info =>
        match state.users.get info.username with
        | some existing =>
            if existing.enabled then
              issueSession libs config env (internalResponse "failed to sign token") existing state
            else (state, .error (unauthorizedResponse "account is disabled"))
        | none =>
            if config.ldap.autoCreate then
              let created := newLdapUser config env info
              issueSession libs config env (internalResponse "failed to sign token") created
                { state with users := (state.users.addUser created).1 }
            else (state, .error (unauthorizedResponse "LDAP user not found locally and auto-create is disabled"))

def webauthnDisabled : ApiError :=
  ⟨404, .plain "WebAuthn is not configured on this server"⟩

def userNotFound (username : String) : ApiError :=
  ⟨404, .plain ("User '" ++ username ++ "' not found")⟩

def registerStart (claims : Claims) (state : AuthState) : AuthState × Outcome :=
  match state.webauthn with
  | none => (state, .error webauthnDisabled)
  | some webauthn =>
      let started := webauthn.startRegistration claims.sub env.registrationStart
      let after := { state with webauthn := some started.1 }
      match started.2 with
      | .error reason => (after, .error ⟨500, .plain ("WebAuthn registration start failed: " ++ reason.display)⟩)
      | .ok challenge => (after, .ok (.challenge challenge))

def registerComplete (claims : Claims) (credential : String) (state : AuthState) : AuthState × Outcome :=
  match state.webauthn with
  | none => (state, .error webauthnDisabled)
  | some webauthn =>
      let finished := webauthn.finishRegistration claims.sub (env.registrationFinish credential)
      let after := { state with webauthn := some finished.1 }
      match finished.2 with
      | .error reason => (after, .error ⟨400, .plain ("WebAuthn registration failed: " ++ reason.display)⟩)
      | .ok _ => (after, .ok .registered)

def loginStart (username : String) (state : AuthState) : AuthState × Outcome :=
  match state.webauthn with
  | none => (state, .error webauthnDisabled)
  | some webauthn =>
      match state.users.get username with
      | none => (state, .error (userNotFound username))
      | some user =>
          let started := webauthn.startAuthentication user.id env.authenticationStart
          let after := { state with webauthn := some started.1 }
          match started.2 with
          | .error reason => (after, .error ⟨400, .plain ("WebAuthn login start failed: " ++ reason.display)⟩)
          | .ok challenge => (after, .ok (.challenge challenge))

def loginComplete (username credential : String) (state : AuthState) : AuthState × Outcome :=
  match state.webauthn with
  | none => (state, .error webauthnDisabled)
  | some webauthn =>
      match state.users.get username with
      | none => (state, .error (userNotFound username))
      | some user =>
          let finished := webauthn.finishAuthentication user.id (env.authenticationFinish credential)
            libs.updatePasskey
          let after := { state with webauthn := some finished.1 }
          match finished.2 with
          | .error reason => (after, .error ⟨400, .plain ("WebAuthn authentication failed: " ++ reason.display)⟩)
          | .ok _ => issueSession libs config env ⟨500, .plain "failed to sign token"⟩ user after

structure CreateUserRequest where
  id : String
  username : String
  displayName : Option String
  email : Option String
  role : String
  password : String
  enabled : Bool

structure UpdateUserRequest where
  displayName : Option String
  email : Option String
  role : Option String
  password : Option String
  enabled : Option Bool

def listUsers (claims : Claims) (state : AuthState) : AuthState × Outcome :=
  match requireRole claims .admin with
  | .error refused => (state, .error refused)
  | .ok () => (state, .ok (.users (state.users.listUsers.map UserView.ofUser)))

def createUser (claims : Claims) (request : CreateUserRequest) (state : AuthState) : AuthState × Outcome :=
  match requireRole claims .admin with
  | .error refused => (state, .error refused)
  | .ok () =>
      match env.hashPassword request.password with
      | .error reason => (state, .error (internalResponse ("failed to hash password: " ++ reason)))
      | .ok hash =>
          match Role.fromStr request.role with
          | .error reason => (state, .error ⟨400, .json reason⟩)
          | .ok role =>
              let added := state.users.addUser
                { id := request.id, username := request.username, displayName := request.displayName.getD ""
                  email := request.email, passwordHash := hash, role := role, enabled := request.enabled
                  totpSecret := none, totpEnabled := false, backupCodes := [] }
              match added.2 with
              | .error reason => ({ state with users := added.1 }, .error ⟨409, .json reason⟩)
              | .ok () => ({ state with users := added.1 }, .ok (.userChange "created" request.username))

def updateUser (claims : Claims) (username : String) (request : UpdateUserRequest) (state : AuthState) :
    AuthState × Outcome :=
  match requireRole claims .admin with
  | .error refused => (state, .error refused)
  | .ok () =>
      match request.password.mapM env.hashPassword with
      | .error reason => (state, .error (internalResponse ("failed to hash password: " ++ reason)))
      | .ok passwordHash =>
          let updated := state.users.updateUser username
            { displayName := request.displayName, email := request.email, role := request.role
              passwordHash := passwordHash, enabled := request.enabled }
          match updated.2 with
          | .error reason => ({ state with users := updated.1 }, .error ⟨404, .json reason⟩)
          | .ok () => ({ state with users := updated.1 }, .ok (.userChange "updated" username))

def deleteUser (claims : Claims) (username : String) (state : AuthState) : AuthState × Outcome :=
  match requireRole claims .admin with
  | .error refused => (state, .error refused)
  | .ok () =>
      let deleted := state.users.deleteUser username
      match deleted.2 with
      | .error reason => ({ state with users := deleted.1 }, .error ⟨404, .json reason⟩)
      | .ok () => ({ state with users := deleted.1 }, .ok (.userChange "deleted" username))

end Handlers

end Moxui.Auth
