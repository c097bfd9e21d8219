import Moxui.Auth.PasskeyCalls

set_option autoImplicit false

namespace Moxui.Auth

def credIds (creds : List Passkey) : List String :=
  creds.map Passkey.credId

def registered (step : PasskeyStep) : Option (String × Passkey) :=
  match step.call, step.left with
  | .pushPasskey userId _, .inr (.ok (.registered passkey)) => some (userId, passkey)
  | _, _ => none

def Idle (pool : PasskeyPool) (userId : String) : Prop :=
  ∀ call ∈ pool.calls, call.userId ≠ userId

section Kept

variable (update : Passkey → AuthenticationResult → Passkey)

def RegisteredId (steps : List PasskeyStep) (userId id : String) : Prop :=
  ∃ step ∈ steps, ∃ passkey, registered step = some (userId, passkey) ∧ passkey.credId = id

-- Once all calls of the user are over, the user has the keys from the start and those that
-- were registered.
def PasskeysKept (start : WebauthnState) (turns : List PasskeyTurn) (userId : String) : Prop :=
  Idle ((passkeyProtocol update).machine.run ⟨start, []⟩ turns) userId →
    ∀ id, id ∈ credIds (((passkeyProtocol update).machine.run ⟨start, []⟩ turns).shared.enrolled userId) ↔
      id ∈ credIds (start.enrolled userId) ∨ RegisteredId ((passkeyProtocol update).steps ⟨start, []⟩ turns) userId id

def PutsBackAll (userId : String) (step : PasskeyStep) : Prop :=
  ∀ result creds, step.call = .putCredentials userId result creds →
    ∀ id ∈ credIds (step.before.enrolled userId), id ∈ credIds creds

def overwritten (userId : String) (step : PasskeyStep) : List String :=
  match step.call with
  | .putCredentials owner _ creds =>
      if owner = userId then (credIds (step.before.enrolled userId)).filter fun id => id ∉ credIds creds else []
  | _ => []

theorem overwritten_nil_iff (userId : String) (step : PasskeyStep) :
    overwritten userId step = [] ↔ PutsBackAll userId step := by
  unfold overwritten PutsBackAll
  cases call : step.call with
  | putCredentials owner result creds =>
      by_cases same : owner = userId
      · subst owner
        simp only [if_true, List.filter_eq_nil_iff, decide_eq_true_eq, not_not, PasskeyCall.putCredentials.injEq, true_and]
        refine ⟨?_, ?_⟩
        · rintro all other others ⟨_, rfl⟩
          exact all
        · intro all
          exact all result creds ⟨rfl, rfl⟩
      · simp [same]
  | entered request | storeRegState owner challenge regState | pushPasskey owner passkey
  | storeAuthState owner challenge authState | takeCredentials owner result => simp

instance (userId : String) (step : PasskeyStep) : Decidable (PutsBackAll userId step) :=
  decidable_of_iff _ (overwritten_nil_iff userId step)

def Held (pool : PasskeyPool) (userId id : String) : Prop :=
  id ∈ credIds (pool.shared.enrolled userId) ∨ ∃ call ∈ pool.calls, id ∈ credIds (call.holds userId)

theorem updated_ids (keepsId : ∀ key result, (update key result).credId = key.credId) (result : AuthenticationResult)
    (creds : List Passkey) : credIds (creds.map (WebauthnState.updateCredential update result)) = credIds creds := by
  unfold credIds
  rw [List.map_map]
  apply List.map_congr_left
  intro key _
  simp only [Function.comp_apply, WebauthnState.updateCredential]
  by_cases same : key.credId = result.credId
  · rw [if_pos same, keepsId]
  · rw [if_neg same]

theorem held_step (keepsId : ∀ key result, (update key result).credId = key.credId) (call : PasskeyCall)
    (webauthn : Webauthn) (state : WebauthnState) (userId id : String)
    (all : PutsBackAll userId ((passkeyProtocol update).taken call webauthn state)) :
    (id ∈ credIds (((passkeyProtocol update).taken call webauthn state).after.enrolled userId) ∨
        ∃ later, ((passkeyProtocol update).taken call webauthn state).left = .inl later ∧ id ∈ credIds (later.holds userId)) ↔
      (id ∈ credIds (state.enrolled userId) ∨ id ∈ credIds (call.holds userId)) ∨
        ∃ passkey, registered ((passkeyProtocol update).taken call webauthn state) = some (userId, passkey) ∧
          passkey.credId = id := by
  have nothing : id ∉ credIds [] := List.not_mem_nil
  cases call with
  | entered request =>
      have same := enter_enrolled request webauthn state userId
      have empty := enter_holds request webauthn state
      have nothingInHand : (PasskeyCall.entered request).holds userId = [] := rfl
      simp only [Protocol.taken, passkeyProtocol, advanceCall, registered, nothingInHand, same, nothing, or_false,
        reduceCtorEq, false_and, exists_false]
      refine ⟨?_, Or.inl⟩
      rintro (held | ⟨later, left, held⟩)
      · exact held
      · rw [empty later left userId] at held
        exact absurd held nothing
  | storeRegState owner challenge regState =>
      simp [Protocol.taken, passkeyProtocol, advanceCall, registered, PasskeyCall.holds, credIds, WebauthnState.enrolled]
  | storeAuthState owner challenge authState =>
      simp [Protocol.taken, passkeyProtocol, advanceCall, registered, PasskeyCall.holds, credIds, WebauthnState.enrolled]
  | pushPasskey owner passkey =>
      simp only [Protocol.taken, passkeyProtocol, advanceCall, registered, PasskeyCall.holds, enrolled_inserted, nothing,
        reduceCtorEq, false_and, exists_false, or_false, Option.some.injEq, Prod.mk.injEq]
      by_cases same : userId = owner
      · subst owner
        simp [credIds, eq_comm]
      · simp [same, eq_comm]
  | takeCredentials owner result =>
      simp only [Protocol.taken, passkeyProtocol, advanceCall, registered, PasskeyCall.holds, enrolled_erased, nothing,
        reduceCtorEq, false_and, exists_false, or_false, Sum.inl.injEq, exists_eq_left']
      by_cases same : userId = owner
      · subst owner
        simp only [if_true, nothing, false_or, updated_ids update keepsId]
      · simp only [same, if_false, nothing, or_false]
  | putCredentials owner result creds =>
      simp only [Protocol.taken, passkeyProtocol, advanceCall, registered, PasskeyCall.holds, enrolled_inserted,
        reduceCtorEq, false_and, exists_false, or_false]
      by_cases same : userId = owner
      · subst owner
        simp only [if_true]
        refine ⟨Or.inr, ?_⟩
        rintro (before | inHand)
        · exact all result creds rfl id before
        · exact inHand
      · simp only [same, if_false, nothing, or_false]

theorem held_advanced (keepsId : ∀ key result, (update key result).credId = key.credId) (pool : PasskeyPool)
    (call : PasskeyCall) (webauthn : Webauthn) (rest : List PasskeyCall) (perm : pool.calls.Perm (call :: rest))
    (userId id : String) (all : PutsBackAll userId ((passkeyProtocol update).taken call webauthn pool.shared)) :
    Held ⟨((passkeyProtocol update).taken call webauthn pool.shared).after,
        Protocol.resume ((passkeyProtocol update).taken call webauthn pool.shared).left rest⟩ userId id ↔
      Held pool userId id ∨ ∃ passkey,
        registered ((passkeyProtocol update).taken call webauthn pool.shared) = some (userId, passkey) ∧
          passkey.credId = id := by
  have own := held_step update keepsId call webauthn pool.shared userId id all
  have others : (∃ other ∈ pool.calls, id ∈ credIds (other.holds userId)) ↔
      id ∈ credIds (call.holds userId) ∨ ∃ other ∈ rest, id ∈ credIds (other.holds userId) := by
    simp only [perm.mem_iff, List.exists_mem_cons_iff]
  have resumed := Protocol.exists_resume (fun other => id ∈ credIds (other.holds userId))
    ((passkeyProtocol update).taken call webauthn pool.shared).left rest
  unfold Held
  rw [resumed, others, ← or_assoc, own, ← or_assoc]
  exact or_right_comm

theorem passkeys_kept (keepsId : ∀ key result, (update key result).credId = key.credId) (start : WebauthnState)
    (turns : List PasskeyTurn) (userId : String)
    (all : ∀ step ∈ (passkeyProtocol update).steps ⟨start, []⟩ turns, PutsBackAll userId step) :
    PasskeysKept update start turns userId := by
  have held := (passkeyProtocol update).steps_history ⟨start, []⟩ (PutsBackAll userId)
    (fun past pool => ∀ id, Held pool userId id ↔ id ∈ credIds (start.enrolled userId) ∨ RegisteredId past userId id)
    (by simp [Held, RegisteredId])
    (by
      intro past pool request before id
      rw [← before id]
      simp [Held, passkeyProtocol, PasskeyCall.holds, credIds])
    (by
      intro past pool call webauthn rest perm allowed before id
      rw [held_advanced update keepsId pool call webauthn rest perm userId id allowed, before id, or_assoc]
      simp only [RegisteredId, List.mem_append, List.mem_singleton, or_and_right, exists_or, exists_eq_left])
    turns all
  intro idle id
  rw [← held id]
  refine ⟨Or.inl, ?_⟩
  rintro (enrolled | ⟨call, inFlight, inHand⟩)
  · exact enrolled
  · exfalso
    apply idle call inFlight
    cases call with
    | putCredentials owner result creds =>
        by_cases same : userId = owner
        · exact same.symm
        · simp [PasskeyCall.holds, same, credIds] at inHand
    | entered request | storeRegState owner challenge regState | pushPasskey owner passkey
    | storeAuthState owner challenge authState | takeCredentials owner result => simp [PasskeyCall.holds, credIds] at inHand

end Kept

def phoneKey : Passkey :=
  { credId := "phone", data := "counter 0" }

def laptopKey : Passkey :=
  { credId := "laptop", data := "counter 0" }

def countUp (key : Passkey) (result : AuthenticationResult) : Passkey :=
  { key with data := result.data }

def agreeable : Webauthn :=
  { startRegistration := fun _ => .ok ("challenge", "registration")
    finishRegistration := fun _ => .ok laptopKey
    startAuthentication := fun _ => .ok ("challenge", "authentication")
    finishAuthentication := fun _ => .ok { credId := "phone", needsUpdate := true, data := "counter 1" } }

def twoCeremonies : WebauthnState :=
  { credentials := Table.collect [("u-alice", [phoneKey])], regState := Table.collect [("u-alice", "registration")]
    authState := Table.collect [("u-alice", "authentication")] }

def authenticating (between : List PasskeyTurn) : List PasskeyTurn :=
  [.starts (.finishAuthentication "u-alice"), .advances 0 agreeable, .advances 0 agreeable] ++ between ++
    [.advances 0 agreeable]

def registering : List PasskeyTurn :=
  [.starts (.finishRegistration "u-alice"), .advances 0 agreeable, .advances 0 agreeable]

theorem phone_kept : PasskeysKept countUp twoCeremonies (registering ++ authenticating []) "u-alice" :=
  passkeys_kept countUp (fun _ _ => rfl) twoCeremonies _ "u-alice" (by decide +kernel)

-- The key is registered while the authentication has the keys in hand, and is gone afterwards.
theorem registered_key_lost : ¬ PasskeysKept countUp twoCeremonies (authenticating registering) "u-alice" := by
  intro kept
  have idle : Idle ((passkeyProtocol countUp).machine.run ⟨twoCeremonies, []⟩ (authenticating registering)) "u-alice" := by
    have none : ((passkeyProtocol countUp).machine.run ⟨twoCeremonies, []⟩ (authenticating registering)).calls = [] := by
      decide +kernel
    intro call member
    rw [none] at member
    cases member
  have enrolled : credIds (((passkeyProtocol countUp).machine.run ⟨twoCeremonies, []⟩
      (authenticating registering)).shared.enrolled "u-alice") = ["phone"] := by
    decide +kernel
  have seen : ((passkeyProtocol countUp).steps ⟨twoCeremonies, []⟩ (authenticating registering)).filterMap registered =
      [("u-alice", laptopKey)] := by
    decide +kernel
  have laptop : RegisteredId ((passkeyProtocol countUp).steps ⟨twoCeremonies, []⟩ (authenticating registering)) "u-alice"
      "laptop" := by
    have member : ("u-alice", laptopKey) ∈
        ((passkeyProtocol countUp).steps ⟨twoCeremonies, []⟩ (authenticating registering)).filterMap registered := by
      rw [seen]
      exact List.mem_cons_self
    obtain ⟨step, inSteps, isRegistered⟩ := List.mem_filterMap.mp member
    exact ⟨step, inSteps, laptopKey, isRegistered, rfl⟩
  have there := (kept idle "laptop").mpr (Or.inr laptop)
  rw [enrolled] at there
  revert there
  decide

end Moxui.Auth
