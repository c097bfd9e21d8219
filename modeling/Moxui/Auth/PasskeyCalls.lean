import Moxui.Auth.Webauthn
import Moxui.Lib.Interleaving

set_option autoImplicit false

namespace Moxui.Auth

inductive Ceremony where
  | registration
  | authentication
deriving DecidableEq, Repr

-- What webauthn-rs says when it is asked in one step of a call, whatever that may be.
structure Webauthn where
  startRegistration : Option (List String) → Except String (String × String)
  finishRegistration : String → Except String Passkey
  startAuthentication : List Passkey → Except String (String × String)
  finishAuthentication : String → Except String AuthenticationResult

inductive PasskeyRequest where
  | startRegistration (userId : String)
  | finishRegistration (userId : String)
  | startAuthentication (userId : String)
  | finishAuthentication (userId : String)
deriving DecidableEq, Repr

def PasskeyRequest.userId : PasskeyRequest → String
  | .startRegistration userId => userId
  | .finishRegistration userId => userId
  | .startAuthentication userId => userId
  | .finishAuthentication userId => userId

-- Where a call stands: before its first lock, or before a later one with what it has in hand.
inductive PasskeyCall where
  | entered (request : PasskeyRequest)
  | storeRegState (userId challenge regState : String)
  | pushPasskey (userId : String) (passkey : Passkey)
  | storeAuthState (userId challenge authState : String)
  | takeCredentials (userId : String) (result : AuthenticationResult)
  | putCredentials (userId : String) (result : AuthenticationResult) (creds : List Passkey)
deriving DecidableEq, Repr

inductive PasskeyAnswer where
  | challenge (text : String)
  | registered (passkey : Passkey)
  | authenticated (result : AuthenticationResult)
deriving DecidableEq, Repr

abbrev PasskeyOutcome : Type :=
  Except WebauthnStoreError PasskeyAnswer

namespace WebauthnState

def pending (kind : Ceremony) (state : WebauthnState) : Table String String :=
  match kind with
  | .registration => state.regState
  | .authentication => state.authState

def enrolled (state : WebauthnState) (userId : String) : List Passkey :=
  (state.credentials.lookup userId).getD []

end WebauthnState

section Calls

variable (update : Passkey → AuthenticationResult → Passkey)

def enterCall (webauthn : Webauthn) (state : WebauthnState) :
    PasskeyRequest → WebauthnState × (PasskeyCall ⊕ PasskeyOutcome)
  | .startRegistration userId =>
      match webauthn.startRegistration ((state.credentials.lookup userId).map fun keys => keys.map Passkey.credId) with
      | .error reason => (state, .inr (.error (.webauthn reason)))
      | .ok (challenge, regState) => (state, .inl (.storeRegState userId challenge regState))
  | .finishRegistration userId =>
      match state.regState.lookup userId with
      | none => (state, .inr (.error (.internal "no pending registration for this user")))
      | some regState =>
          let taken := { state with regState := state.regState.erase userId }
          match webauthn.finishRegistration regState with
          | .error reason => (taken, .inr (.error (.webauthn reason)))
          | .ok passkey => (taken, .inl (.pushPasskey userId passkey))
  | .startAuthentication userId =>
      match state.enrolled userId with
      | [] => (state, .inr (.error (.internal "no passkeys enrolled for this user")))
      | key :: keys =>
          match webauthn.startAuthentication (key :: keys) with
          | .error reason => (state, .inr (.error (.webauthn reason)))
          | .ok (challenge, authState) => (state, .inl (.storeAuthState userId challenge authState))
  | .finishAuthentication userId =>
      match state.authState.lookup userId with
      | none => (state, .inr (.error (.internal "no pending authentication for this user")))
      | some authState =>
          let taken := { state with authState := state.authState.erase userId }
          match webauthn.finishAuthentication authState with
          | .error reason => (taken, .inr (.error (.webauthn reason)))
          | .ok result =>
              if result.needsUpdate then (taken, .inl (.takeCredentials userId result))
              else (taken, .inr (.ok (.authenticated result)))

def advanceCall (call : PasskeyCall) (webauthn : Webauthn) (state : WebauthnState) :
    WebauthnState × (PasskeyCall ⊕ PasskeyOutcome) :=
  match call with
  | .entered request => enterCall webauthn state request
  | .storeRegState userId challenge regState =>
      ({ state with regState := state.regState.insert userId regState }, .inr (.ok (.challenge challenge)))
  | .pushPasskey userId passkey =>
      ({ state with credentials := state.credentials.insert userId (state.enrolled userId ++ [passkey]) },
        .inr (.ok (.registered passkey)))
  | .storeAuthState userId challenge authState =>
      ({ state with authState := state.authState.insert userId authState }, .inr (.ok (.challenge challenge)))
  | .takeCredentials userId result =>
      ({ state with credentials := state.credentials.erase userId },
        .inl (.putCredentials userId result
          ((state.enrolled userId).map (WebauthnState.updateCredential update result))))
  | .putCredentials userId result creds =>
      ({ state with credentials := state.credentials.insert userId creds }, .inr (.ok (.authenticated result)))

def passkeyProtocol : Protocol WebauthnState PasskeyRequest PasskeyCall Webauthn PasskeyOutcome where
  enter := PasskeyCall.entered
  advance := advanceCall update

end Calls

abbrev PasskeyStep : Type :=
  Protocol.Taken WebauthnState PasskeyCall Webauthn PasskeyOutcome

abbrev PasskeyPool : Type :=
  Protocol.Pool WebauthnState PasskeyCall

abbrev PasskeyTurn : Type :=
  Protocol.Turn PasskeyRequest Webauthn

def PasskeyRequest.atOnce (update : Passkey → AuthenticationResult → Passkey) (webauthn : Webauthn)
    (state : WebauthnState) : PasskeyRequest → WebauthnState × PasskeyOutcome
  | .startRegistration userId =>
      let done := state.startRegistration userId webauthn.startRegistration
      (done.1, done.2.map .challenge)
  | .finishRegistration userId =>
      let done := state.finishRegistration userId webauthn.finishRegistration
      (done.1, done.2.map .registered)
  | .startAuthentication userId =>
      let done := state.startAuthentication userId webauthn.startAuthentication
      (done.1, done.2.map .challenge)
  | .finishAuthentication userId =>
      let done := state.finishAuthentication userId webauthn.finishAuthentication update
      (done.1, done.2.map .authenticated)

section Steps

variable (update : Passkey → AuthenticationResult → Passkey)

-- A call that no other comes between does what the call in one piece does.
theorem at_once (request : PasskeyRequest) (webauthn : Webauthn) (state : WebauthnState) :
    (passkeyProtocol update).alone [webauthn, webauthn, webauthn] (.entered request) state =
      ((request.atOnce update webauthn state).1, .inr (request.atOnce update webauthn state).2) := by
  cases request with
  | startRegistration userId =>
      simp only [Protocol.alone, passkeyProtocol, advanceCall, enterCall, PasskeyRequest.atOnce,
        WebauthnState.startRegistration]
      cases webauthn.startRegistration ((state.credentials.lookup userId).map fun keys => keys.map Passkey.credId) <;> rfl
  | finishRegistration userId =>
      simp only [Protocol.alone, passkeyProtocol, advanceCall, enterCall, PasskeyRequest.atOnce,
        WebauthnState.finishRegistration]
      cases state.regState.lookup userId with
      | none => rfl
      | some regState =>
          dsimp only
          cases webauthn.finishRegistration regState <;> rfl
  | startAuthentication userId =>
      simp only [Protocol.alone, passkeyProtocol, advanceCall, enterCall, PasskeyRequest.atOnce,
        WebauthnState.startAuthentication, WebauthnState.enrolled]
      cases (state.credentials.lookup userId).getD [] with
      | nil => rfl
      | cons key keys =>
          dsimp only
          cases webauthn.startAuthentication (key :: keys) <;> rfl
  | finishAuthentication userId =>
      simp only [Protocol.alone, passkeyProtocol, advanceCall, enterCall, PasskeyRequest.atOnce,
        WebauthnState.finishAuthentication, WebauthnState.enrolled]
      cases state.authState.lookup userId with
      | none => rfl
      | some authState =>
          dsimp only
          cases webauthn.finishAuthentication authState with
          | error reason => rfl
          | ok result =>
              cases needs : result.needsUpdate with
              | false => simp only [needs, Bool.false_eq_true, if_false, Except.map]
              | true => simp only [needs, if_true, Except.map, Table.insert_erase]

theorem uninterrupted (request : PasskeyRequest) (webauthn : Webauthn) (state : WebauthnState) (calls : List PasskeyCall) :
    ∃ used, used <+: [webauthn, webauthn, webauthn] ∧
      (passkeyProtocol update).machine.run ⟨state, .entered request :: calls⟩ (used.map (Protocol.Turn.advances 0)) =
        ⟨(request.atOnce update webauthn state).1, calls⟩ :=
  Protocol.run_alone _ _ _ _ _ _ calls (at_once update request webauthn state)

def PasskeyCall.stores : PasskeyCall → Option (Ceremony × String × String)
  | .storeRegState userId _ regState => some (.registration, userId, regState)
  | .storeAuthState userId _ authState => some (.authentication, userId, authState)
  | _ => none

def PasskeyCall.removes : PasskeyCall → Option (Ceremony × String)
  | .entered (.finishRegistration userId) => some (.registration, userId)
  | .entered (.finishAuthentication userId) => some (.authentication, userId)
  | _ => none

def PasskeyCall.holds : PasskeyCall → String → List Passkey
  | .putCredentials owner _ creds, userId => if userId = owner then creds else []
  | _, _ => []

def PasskeyCall.userId : PasskeyCall → String
  | .entered request => request.userId
  | .storeRegState userId _ _ => userId
  | .pushPasskey userId _ => userId
  | .storeAuthState userId _ _ => userId
  | .takeCredentials userId _ => userId
  | .putCredentials userId _ _ => userId

theorem enter_credentials (request : PasskeyRequest) (webauthn : Webauthn) (state : WebauthnState) :
    (enterCall webauthn state request).1.credentials = state.credentials := by
  unfold enterCall
  cases request with
  | startRegistration userId =>
      dsimp only
      split <;> rfl
  | finishRegistration userId =>
      dsimp only
      split
      · rfl
      · split <;> rfl
  | startAuthentication userId =>
      dsimp only
      split
      · rfl
      · split <;> rfl
  | finishAuthentication userId =>
      dsimp only
      split
      · rfl
      · split
        · rfl
        · split <;> rfl

theorem enter_left (request : PasskeyRequest) (webauthn : Webauthn) (state : WebauthnState) (later : PasskeyCall)
    (left : (enterCall webauthn state request).2 = .inl later) :
    (∃ userId challenge regState, request = .startRegistration userId ∧ later = .storeRegState userId challenge regState) ∨
    (∃ userId regState passkey, request = .finishRegistration userId ∧ state.regState.lookup userId = some regState ∧
      webauthn.finishRegistration regState = .ok passkey ∧ later = .pushPasskey userId passkey) ∨
    (∃ userId challenge authState, request = .startAuthentication userId ∧
      later = .storeAuthState userId challenge authState) ∨
    ∃ userId authState result, request = .finishAuthentication userId ∧ state.authState.lookup userId = some authState ∧
      webauthn.finishAuthentication authState = .ok result ∧ later = .takeCredentials userId result := by
  unfold enterCall at left
  cases request with
  | startRegistration userId =>
      left
      dsimp only at left
      split at left
      · cases left
      · cases left
        exact ⟨userId, _, _, rfl, rfl⟩
  | finishRegistration userId =>
      refine Or.inr (Or.inl ?_)
      dsimp only at left
      split at left
      · cases left
      · rename_i regState present
        split at left
        · cases left
        · rename_i passkey verified
          cases left
          exact ⟨userId, regState, passkey, rfl, present, verified, rfl⟩
  | startAuthentication userId =>
      refine Or.inr (Or.inr (Or.inl ?_))
      dsimp only at left
      split at left
      · cases left
      · split at left
        · cases left
        · cases left
          exact ⟨userId, _, _, rfl, rfl⟩
  | finishAuthentication userId =>
      refine Or.inr (Or.inr (Or.inr ?_))
      dsimp only at left
      split at left
      · cases left
      · rename_i authState present
        split at left
        · cases left
        · rename_i result verified
          split at left
          · cases left
            exact ⟨userId, authState, result, rfl, present, verified, rfl⟩
          · cases left

theorem pending_erased (kind : Ceremony) (owner : String) (state other : WebauthnState)
    (erased : other.pending kind = (state.pending kind).erase owner)
    (kept : ∀ another, another ≠ kind → other.pending another = state.pending another) (chosen : Ceremony)
    (userId : String) : (other.pending chosen).lookup userId =
      if some (kind, owner) = some (chosen, userId) then none else (state.pending chosen).lookup userId := by
  by_cases same : chosen = kind
  · subst chosen
    rw [erased, Table.lookup_erase_eq]
    simp only [Option.some.injEq, Prod.mk.injEq, true_and, eq_comm]
  · have apart : some (kind, owner) ≠ some (chosen, userId) := by
      intro equal
      exact same (Prod.mk.inj (Option.some.inj equal)).1.symm
    rw [kept chosen same, if_neg apart]

theorem pending_absent (kind : Ceremony) (owner : String) (state : WebauthnState)
    (absent : (state.pending kind).lookup owner = none) (chosen : Ceremony) (userId : String) :
    (state.pending chosen).lookup userId =
      if some (kind, owner) = some (chosen, userId) then none else (state.pending chosen).lookup userId := by
  by_cases same : some (kind, owner) = some (chosen, userId)
  · cases same
    rw [if_pos rfl, absent]
  · rw [if_neg same]

theorem enter_pending (request : PasskeyRequest) (webauthn : Webauthn) (state : WebauthnState) (kind : Ceremony)
    (userId : String) :
    ((enterCall webauthn state request).1.pending kind).lookup userId =
      if (PasskeyCall.entered request).removes = some (kind, userId) then none else (state.pending kind).lookup userId := by
  cases request with
  | startRegistration owner =>
      simp only [enterCall, PasskeyCall.removes, reduceCtorEq, if_false]
      split <;> rfl
  | startAuthentication owner =>
      simp only [enterCall, PasskeyCall.removes, reduceCtorEq, if_false]
      split
      · rfl
      · split <;> rfl
  | finishRegistration owner =>
      cases present : state.regState.lookup owner with
      | none =>
          simp only [enterCall, present, PasskeyCall.removes]
          exact pending_absent .registration owner state present kind userId
      | some regState =>
          have erased : ((enterCall webauthn state (.finishRegistration owner)).1) =
              { state with regState := state.regState.erase owner } := by
            simp only [enterCall, present]
            split <;> rfl
          rw [erased]
          refine pending_erased .registration owner state _ rfl ?_ kind userId
          intro another other
          cases another with
          | registration => exact absurd rfl other
          | authentication => rfl
  | finishAuthentication owner =>
      cases present : state.authState.lookup owner with
      | none =>
          simp only [enterCall, present, PasskeyCall.removes]
          exact pending_absent .authentication owner state present kind userId
      | some authState =>
          have erased : ((enterCall webauthn state (.finishAuthentication owner)).1) =
              { state with authState := state.authState.erase owner } := by
            simp only [enterCall, present]
            split
            · rfl
            · split <;> rfl
          rw [erased]
          refine pending_erased .authentication owner state _ rfl ?_ kind userId
          intro another other
          cases another with
          | registration => rfl
          | authentication => exact absurd rfl other

theorem pending_after (call : PasskeyCall) (webauthn : Webauthn) (state : WebauthnState) (kind : Ceremony)
    (userId pending : String)
    (present : ((advanceCall update call webauthn state).1.pending kind).lookup userId = some pending) :
    call.stores = some (kind, userId, pending) ∨
      ((state.pending kind).lookup userId = some pending ∧ call.removes ≠ some (kind, userId) ∧
        ∀ other, call.stores ≠ some (kind, userId, other)) := by
  cases call with
  | entered request =>
      have stores : (PasskeyCall.entered request).stores = none := rfl
      rw [advanceCall, enter_pending] at present
      by_cases removed : (PasskeyCall.entered request).removes = some (kind, userId)
      · rw [if_pos removed] at present
        cases present
      · rw [if_neg removed] at present
        refine Or.inr ⟨present, removed, ?_⟩
        intro other same
        rw [stores] at same
        cases same
  | storeRegState owner challenge regState =>
      cases kind with
      | authentication => exact Or.inr ⟨present, by simp [PasskeyCall.removes], by simp [PasskeyCall.stores]⟩
      | registration =>
          simp only [advanceCall, WebauthnState.pending, Table.lookup_insert_eq] at present
          by_cases same : userId = owner
          · rw [if_pos same, Option.some.injEq] at present
            subst same present
            exact Or.inl rfl
          · rw [if_neg same] at present
            refine Or.inr ⟨present, by simp [PasskeyCall.removes], ?_⟩
            intro other equal
            cases equal
            exact same rfl
  | storeAuthState owner challenge authState =>
      cases kind with
      | registration => exact Or.inr ⟨present, by simp [PasskeyCall.removes], by simp [PasskeyCall.stores]⟩
      | authentication =>
          simp only [advanceCall, WebauthnState.pending, Table.lookup_insert_eq] at present
          by_cases same : userId = owner
          · rw [if_pos same, Option.some.injEq] at present
            subst same present
            exact Or.inl rfl
          · rw [if_neg same] at present
            refine Or.inr ⟨present, by simp [PasskeyCall.removes], ?_⟩
            intro other equal
            cases equal
            exact same rfl
  | pushPasskey owner passkey | takeCredentials owner result | putCredentials owner result creds =>
      cases kind <;> exact Or.inr ⟨present, by simp [PasskeyCall.removes], by simp [PasskeyCall.stores]⟩

theorem enrolled_inserted (owner userId : String) (creds : List Passkey) (state : WebauthnState) :
    ({ state with credentials := state.credentials.insert owner creds } : WebauthnState).enrolled userId =
      if userId = owner then creds else state.enrolled userId := by
  unfold WebauthnState.enrolled
  rw [Table.lookup_insert_eq]
  by_cases same : userId = owner
  · rw [if_pos same, if_pos same, Option.getD_some]
  · rw [if_neg same, if_neg same]

theorem enrolled_erased (owner userId : String) (state : WebauthnState) :
    ({ state with credentials := state.credentials.erase owner } : WebauthnState).enrolled userId =
      if userId = owner then [] else state.enrolled userId := by
  unfold WebauthnState.enrolled
  rw [Table.lookup_erase_eq]
  by_cases same : userId = owner
  · rw [if_pos same, if_pos same, Option.getD_none]
  · rw [if_neg same, if_neg same]

theorem enter_enrolled (request : PasskeyRequest) (webauthn : Webauthn) (state : WebauthnState) (userId : String) :
    (enterCall webauthn state request).1.enrolled userId = state.enrolled userId := by
  unfold WebauthnState.enrolled
  rw [enter_credentials]

theorem enter_holds (request : PasskeyRequest) (webauthn : Webauthn) (state : WebauthnState) (later : PasskeyCall)
    (left : (enterCall webauthn state request).2 = .inl later) (userId : String) : later.holds userId = [] := by
  rcases enter_left request webauthn state later left with ⟨_, _, _, _, rfl⟩ | ⟨_, _, _, _, _, _, rfl⟩ |
    ⟨_, _, _, _, rfl⟩ | ⟨_, _, _, _, _, _, rfl⟩ <;> rfl

end Steps

end Moxui.Auth
