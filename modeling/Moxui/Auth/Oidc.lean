import Moxui.Lib.Table
import Moxui.Lib.Text

set_option autoImplicit false

namespace Moxui.Auth

structure PendingOidcState where
  providerName : String
  pkceVerifierSecret : String
  nonceSecret : Option String
  csrfTokenSecret : String
  createdAt : Int
deriving DecidableEq, Repr

-- What a provider tells about the person who signed in, the username already sanitized.
structure ProviderIdentity where
  sub : String
  username : String
  email : Option String
  displayName : String
deriving DecidableEq, Repr

-- `char::is_alphanumeric` and `str::to_lowercase`.
structure UnicodeNames where
  isAlphanumeric : Char → Bool
  toLowercase : String → String

def sanitizeUsername (unicode : UnicodeNames) (raw : String) : String :=
  unicode.toLowercase (String.ofList (raw.toList.map fun char => if unicode.isAlphanumeric char then char else '_'))

def githubIdentity (unicode : UnicodeNames) (id : String) (login name email : Option String) : ProviderIdentity :=
  let handle := login.getD "github-user"
  { sub := id, username := sanitizeUsername unicode handle, email := email, displayName := name.getD handle }

structure OidcUserInfo where
  provider : String
  sub : String
  username : String
  email : Option String
  displayName : String
deriving DecidableEq, Repr

structure OidcStart where
  stateKey : String
  authUrl : String
  csrfTokenSecret : String
  pkceVerifierSecret : String
  nonceSecret : String
deriving DecidableEq, Repr

structure OidcService where
  providers : List String
  stateStore : Table String PendingOidcState

namespace OidcService

def pendingStateTtlMinutes : Int := 5

-- Timestamps are nanoseconds; `num_minutes` truncates towards zero.
def numMinutes (elapsed : Int) : Int :=
  (elapsed.tdiv 1000000000).tdiv 60

def startLogin (providerName : String) (start : Except String OidcStart) (now : Int) (service : OidcService) :
    OidcService × Except String (String × String) :=
  if providerName ∈ service.providers then
    match start with
    | .error reason => (service, .error reason)
    | .ok begun =>
        let pending : PendingOidcState :=
          { providerName := providerName
            pkceVerifierSecret := begun.pkceVerifierSecret
            nonceSecret := if providerName = "google" then some begun.nonceSecret else none
            csrfTokenSecret := begun.csrfTokenSecret
            createdAt := now }
        ({ service with stateStore := service.stateStore.insert begun.stateKey pending },
          .ok (begun.authUrl, begun.stateKey))
  else (service, .error ("unknown OIDC provider '" ++ providerName ++ "' — expected 'google' or 'github'"))

def csrfValue (state : String) : String :=
  String.ofList (state.toList.takeWhile fun char => char != '.')

-- `exchange` is the provider's side: the token exchange and the user info behind it.
def handleCallback (stateKey code state : String) (now : Int)
    (exchange : PendingOidcState → String → Except String ProviderIdentity) (service : OidcService) :
    OidcService × Except String OidcUserInfo :=
  match service.stateStore.lookup stateKey with
  | none => (service, .error "invalid or expired OIDC state key — the login session may have timed out")
  | some pending =>
      let taken := { service with stateStore := service.stateStore.erase stateKey }
      if numMinutes (now - pending.createdAt) > pendingStateTtlMinutes then
        (taken, .error "OIDC login session expired (state TTL exceeded)")
      else if csrfValue state ≠ pending.csrfTokenSecret then
        (taken, .error "CSRF state mismatch — possible replay attack")
      else if pending.providerName = "google" ∨ pending.providerName = "github" then
        match exchange pending code with
        | .error reason => (taken, .error reason)
        | .ok identity => (taken, .ok
            { provider := pending.providerName, sub := identity.sub, username := identity.username
              email := identity.email, displayName := identity.displayName })
      else (taken, .error ("unknown provider in pending state: '" ++ pending.providerName ++ "'"))

end OidcService

end Moxui.Auth
