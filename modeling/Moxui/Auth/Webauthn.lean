import Moxui.Lib.Table

set_option autoImplicit false

namespace Moxui.Auth

-- Values of webauthn-rs are opaque; what the code reads of a passkey is its credential id.
structure Passkey where
  credId : String
  data : String
deriving DecidableEq, Repr

structure AuthenticationResult where
  credId : String
  needsUpdate : Bool
  data : String
deriving DecidableEq, Repr

inductive WebauthnStoreError where
  | webauthn (reason : String)
  | internal (reason : String)
deriving DecidableEq, Repr

def WebauthnStoreError.display : WebauthnStoreError → String
  | .webauthn reason => "webauthn: " ++ reason
  | .internal reason => "internal: " ++ reason

structure WebauthnState where
  credentials : Table String (List Passkey)
  regState : Table String String
  authState : Table String String

namespace WebauthnState

def new : WebauthnState :=
  ⟨∅, ∅, ∅⟩

-- `begin` is what webauthn-rs answers to the start call: a challenge and a server state.
def startRegistration (userId : String) (start : Option (List String) → Except String (String × String))
    (state : WebauthnState) : WebauthnState × Except WebauthnStoreError String :=
  match start ((state.credentials.lookup userId).map fun keys => keys.map Passkey.credId) with
  | .error reason => (state, .error (.webauthn reason))
  | .ok (challenge, regState) =>
      ({ state with regState := state.regState.insert userId regState }, .ok challenge)

def finishRegistration (userId : String) (finish : String → Except String Passkey) (state : WebauthnState) :
    WebauthnState × Except WebauthnStoreError Passkey :=
  match state.regState.lookup userId with
  | none => (state, .error (.internal "no pending registration for this user"))
  | some regState =>
      let taken := { state with regState := state.regState.erase userId }
      match finish regState with
      | .error reason => (taken, .error (.webauthn reason))
      | .ok passkey =>
          let enrolled := (state.credentials.lookup userId).getD []
          ({ taken with credentials := state.credentials.insert userId (enrolled ++ [passkey]) }, .ok passkey)

def startAuthentication (userId : String) (start : List Passkey → Except String (String × String))
    (state : WebauthnState) : WebauthnState × Except WebauthnStoreError String :=
  match (state.credentials.lookup userId).getD [] with
  | [] => (state, .error (.internal "no passkeys enrolled for this user"))
  | key :: keys =>
      match start (key :: keys) with
      | .error reason => (state, .error (.webauthn reason))
      | .ok (challenge, authState) =>
          ({ state with authState := state.authState.insert userId authState }, .ok challenge)

def updateCredential (update : Passkey → AuthenticationResult → Passkey) (result : AuthenticationResult)
    (key : Passkey) : Passkey :=
  if key.credId = result.credId then update key result else key

def finishAuthentication (userId : String) (finish : String → Except String AuthenticationResult)
    (update : Passkey → AuthenticationResult → Passkey) (state : WebauthnState) :
    WebauthnState × Except WebauthnStoreError AuthenticationResult :=
  match state.authState.lookup userId with
  | none => (state, .error (.internal "no pending authentication for this user"))
  | some authState =>
      let taken := { state with authState := state.authState.erase userId }
      match finish authState with
      | .error reason => (taken, .error (.webauthn reason))
      | .ok result =>
          if result.needsUpdate then
            let enrolled := (state.credentials.lookup userId).getD []
            ({ taken with credentials :=
                state.credentials.insert userId (enrolled.map (updateCredential update result)) }, .ok result)
          else (taken, .ok result)

end WebauthnState

end Moxui.Auth
