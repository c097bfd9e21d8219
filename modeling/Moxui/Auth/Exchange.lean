import Moxui.Auth.Enrolment

set_option autoImplicit false

namespace Moxui.Auth

section Exchange

variable (libs : Libs) (config : AuthConfig)

def loginPath : AuthRequest → Bool
  | .login _ _ => true
  | .twoFactorComplete _ _ => true
  | .loginComplete _ _ => true
  | .ldapLogin _ _ => true
  | .oidcCallback _ _ _ => true
  | _ => false

structure IssuedAt (event : AuthEvent) (env : Env) (request : AuthRequest) (user : User) (token : String) : Prop where
  input : event.input = .request env request
  path : loginPath request = true
  account : accountFor libs config env event.before request = some user
  returned : event.output.bind mintedRefresh = some token

-- Accounts of the identity provider live in a map of their own, under their id.
def accountNow (request : AuthRequest) (user : User) (state : AuthState) : Option User :=
  match request with
  | .oidcCallback _ _ _ => state.oidcUsers.lookup user.id
  | _ => state.users.get user.username

structure Standing (request : AuthRequest) (user : User) (state : AuthState) (current : User) : Prop where
  stored : accountNow request user state = some current
  id : current.id = user.id
  enabled : current.enabled = true

structure Usable (env : Env) (state : AuthState) (token : String) : Prop where
  record : ∃ key record, state.refreshStore.lookup key = some record ∧ record.tokenHash = libs.hashToken token ∧
    record.revoked = false ∧ env.clock.checkedAt ≤ record.expiresAt

def ExchangedFor (env : Env) (state : AuthState) (token : String) (current : User) : Prop :=
  ∃ jwt, mintedJwt (refresh libs config env token state).2 = some jwt ∧ jwt.claims.sub = current.id ∧
    jwt.claims.username = current.username ∧ jwt.claims.role = current.role.asStr

def AlwaysExchanged (env : Env) (state : AuthState) (token : String) (current : User) : Prop :=
  ∀ order, Table.Reorders order state.users.users →
    ExchangedFor libs config env { state with users := state.users.rehash order } token current

structure FoundById (env : Env) (state : AuthState) (current : User) : Prop where
  present : ∃ name stored, state.users.get name = some stored ∧ stored.id = current.id
  agrees : ∀ name stored, state.users.get name = some stored → stored.id = current.id →
    stored.username = current.username ∧ stored.role = current.role ∧ (signed libs config env stored).isSome = true

def projected (trace : List AuthEvent) : List RefreshOp :=
  Machine.movesOf (tokenMoves libs) trace

theorem as_str_injective (first second : Role) (same : first.asStr = second.asStr) : first = second := by
  have parsed := Role.from_str_as_str first
  rw [same, Role.from_str_as_str] at parsed
  exact (Except.ok.inj parsed).symm

theorem store_projection (users : UserStore) (webauthn : Option WebauthnState) (oidc : Option OidcService)
    (inputs : List AuthInput) :
    ((authMachine libs config).run (AuthState.initial users webauthn oidc) inputs).refreshStore =
      (refreshMachine libs.hashToken).run RefreshStore.empty
        (projected libs ((authMachine libs config).trace (AuthState.initial users webauthn oidc) inputs)) :=
  (tokens_follow libs config).run (AuthState.initial users webauthn oidc) inputs

theorem issued_returned (users : UserStore) (webauthn : Option WebauthnState) (oidc : Option OidcService)
    (inputs : List AuthInput) (event : AuthEvent)
    (member : event ∈ (authMachine libs config).trace (AuthState.initial users webauthn oidc) inputs) (env : Env)
    (request : AuthRequest) (user : User) (token : String) (issued : IssuedAt libs config event env request user token) :
    RefreshStore.newIssued user.id RefreshStore.defaultTtlSecs env.fresh env.clock.storedAt ∈
        ((refreshMachine libs.hashToken).trace RefreshStore.empty
          (projected libs ((authMachine libs config).trace (AuthState.initial users webauthn oidc) inputs))).filterMap
            returnedBy ∧ token = env.fresh.raw := by
  have free : usesTokens request = false := by
    have path := issued.path
    cases request <;> first | rfl | cases path
  have output := trace_output libs config env _ inputs event member request issued.input
  have returned := issued.returned
  rw [output, Option.bind_some] at returned
  obtain ⟨named, moves⟩ := handle_session_moves libs config env event.before request free user issued.account token returned
  refine ⟨?_, named⟩
  obtain ⟨earlier, later, _, eventEq⟩ := Machine.trace_event _ _ inputs event member
  have move : tokenMoves libs event = [issueMove env user.id] := by
    rw [eventEq, issued.input, token_moves_free libs config env _ request free]
    rw [eventEq] at moves
    exact moves
  have made : Machine.event (refreshMachine libs.hashToken) event.before.refreshStore (issueMove env user.id) ∈
      (refreshMachine libs.hashToken).trace event.before.refreshStore (tokenMoves libs event) := by
    rw [move]
    exact List.mem_cons_self
  have inTrace := (tokens_follow libs config).mem_trace (AuthState.initial users webauthn oidc) inputs event member _ made
  exact List.mem_filterMap.mpr ⟨_, inTrace, rfl⟩

theorem usable_rotates (users : UserStore) (webauthn : Option WebauthnState) (oidc : Option OidcService)
    (inputs : List AuthInput)
    (fresh : FreshRun libs.hashToken
      (projected libs ((authMachine libs config).trace (AuthState.initial users webauthn oidc) inputs)))
    (event : AuthEvent)
    (member : event ∈ (authMachine libs config).trace (AuthState.initial users webauthn oidc) inputs) (env : Env)
    (request : AuthRequest) (user : User) (token : String) (issued : IssuedAt libs config event env request user token)
    (refreshEnv : Env)
    (usable : Usable libs refreshEnv ((authMachine libs config).run (AuthState.initial users webauthn oidc) inputs) token) :
    (rotation libs refreshEnv ((authMachine libs config).run (AuthState.initial users webauthn oidc) inputs) token).2 =
      some (RefreshStore.newIssued user.id RefreshStore.defaultTtlSecs refreshEnv.fresh refreshEnv.clock.storedAt) := by
  have history := refresh_history libs.hashToken _ fresh
  have unique := run_hash_unique libs.hashToken _ fresh
  obtain ⟨returned, named⟩ := issued_returned libs config users webauthn oidc inputs event member env request user token
    issued
  obtain ⟨oldKey, old, oldPresent, oldHashed, owner⟩ := history.returned _ returned
  rw [← store_projection] at unique oldPresent
  obtain ⟨key, record, present, hashed, active, unexpired⟩ := usable.record
  have sameToken : old.tokenHash = record.tokenHash := by
    rw [oldHashed, hashed, named]
    rfl
  have sameKey := unique oldKey key old record oldPresent present sameToken
  rw [sameKey, present, Option.some.injEq] at oldPresent
  subst old
  have found := found_of_hash_unique libs.hashToken _ unique key token record present hashed
  have within : ¬ refreshEnv.clock.checkedAt > record.expiresAt := by omega
  have ownerId : record.userId = user.id := owner
  simp only [rotation, RefreshStore.rotate, found, within, active, if_false, Bool.false_eq_true, ownerId]

theorem refresh_after_rotation (env : Env) (state : AuthState) (token : String) (issued : IssuedRefreshToken)
    (rotated : (rotation libs env state token).2 = some issued) :
    mintedJwt (refresh libs config env token state).2 =
      (state.users.getById issued.userId).bind (signed libs config env) := by
  rw [refresh_jwt]
  simp only [accountFor, accountRead, accountCreated, accountAccepted, if_true, rotated, Option.bind_some]
  cases state.users.getById issued.userId <;> rfl

theorem exchanged_iff (env : Env) (state : AuthState) (token : String) (issued : IssuedRefreshToken) (current : User)
    (rotated : (rotation libs env state token).2 = some issued) (id : issued.userId = current.id) :
    ExchangedFor libs config env state token current ↔
      ∃ stored, state.users.getById current.id = some stored ∧ stored.username = current.username ∧
        stored.role = current.role ∧ (signed libs config env stored).isSome = true := by
  rw [ExchangedFor, refresh_after_rotation libs config env state token issued rotated, id]
  cases found : state.users.getById current.id with
  | none => simp
  | some stored =>
      obtain ⟨_, sameId⟩ := state.users.get_by_id_some current.id stored found
      cases jwt : signed libs config env stored with
      | none => simp [jwt]
      | some token =>
          obtain ⟨text, _, tokenEq⟩ := Option.map_eq_some_iff.mp jwt
          subst token
          simp only [Option.bind_some, jwt, Option.some.injEq, exists_eq_left', claimsFor, sameId, true_and,
            Option.isSome_some, and_true]
          exact ⟨fun claims => ⟨claims.1, as_str_injective _ _ claims.2⟩, fun same => ⟨same.1, by rw [same.2]⟩⟩

theorem get_by_id_first (store : UserStore) (name : String) (stored : User) (present : store.get name = some stored) :
    (store.rehash (store.users.insert name stored)).getById stored.id = some stored := by
  have order := Table.insert_reorders store.users name stored present
  have equal : (store.rehash (store.users.insert name stored)).users = store.users.insert name stored :=
    Table.rehash_reorders _ _ order
  simp only [UserStore.getById, equal]
  exact Table.find_value_insert _ store.users name stored (beq_self_eq_true stored.id)

theorem get_by_id_exists (store : UserStore) (id name : String) (stored : User) (present : store.get name = some stored)
    (same : stored.id = id) : ∃ found, store.getById id = some found := by
  cases found : store.getById id with
  | some user => exact ⟨user, rfl⟩
  | none => exact absurd same ((store.get_by_id_none id).mp found name stored present)

theorem always_exchanged_iff (env : Env) (state : AuthState) (token : String) (issued : IssuedRefreshToken)
    (current : User) (rotated : (rotation libs env state token).2 = some issued) (id : issued.userId = current.id) :
    AlwaysExchanged libs config env state token current ↔ FoundById libs config env state current := by
  constructor
  · intro always
    constructor
    · have now := always state.users.users (List.Perm.refl _)
      rw [exchanged_iff libs config env { state with users := state.users.rehash state.users.users } token issued current
        rotated id] at now
      obtain ⟨stored, found, _⟩ := now
      obtain ⟨present, sameId⟩ := UserStore.get_by_id_some _ current.id stored found
      rw [UserStore.get_rehash] at present
      exact ⟨stored.username, stored, present, sameId⟩
    · intro name stored present sameId
      have now := always (state.users.users.insert name stored) (Table.insert_reorders _ name stored present)
      rw [exchanged_iff libs config env
        { state with users := state.users.rehash (state.users.users.insert name stored) } token issued current rotated id]
        at now
      obtain ⟨other, found, agrees⟩ := now
      have first := get_by_id_first state.users name stored present
      rw [sameId, found, Option.some.injEq] at first
      subst other
      exact agrees
  · rintro ⟨⟨name, stored, present, sameId⟩, agrees⟩ order reorders
    rw [exchanged_iff libs config env { state with users := state.users.rehash order } token issued current rotated id]
    have presentNow : (state.users.rehash order).get name = some stored := by
      rw [UserStore.get_rehash]
      exact present
    obtain ⟨found, read⟩ := get_by_id_exists (state.users.rehash order) current.id name stored presentNow sameId
    obtain ⟨kept, foundId⟩ := UserStore.get_by_id_some _ current.id found read
    rw [UserStore.get_rehash] at kept
    exact ⟨found, read, agrees found.username found kept foundId⟩

theorem refresh_exchanges_iff (users : UserStore) (webauthn : Option WebauthnState) (oidc : Option OidcService)
    (inputs : List AuthInput)
    (fresh : FreshRun libs.hashToken
      (projected libs ((authMachine libs config).trace (AuthState.initial users webauthn oidc) inputs)))
    (event : AuthEvent)
    (member : event ∈ (authMachine libs config).trace (AuthState.initial users webauthn oidc) inputs) (env : Env)
    (request : AuthRequest) (user : User) (token : String) (issued : IssuedAt libs config event env request user token)
    (current : User)
    (standing : Standing request user ((authMachine libs config).run (AuthState.initial users webauthn oidc) inputs) current)
    (refreshEnv : Env)
    (usable : Usable libs refreshEnv ((authMachine libs config).run (AuthState.initial users webauthn oidc) inputs) token) :
    AlwaysExchanged libs config refreshEnv ((authMachine libs config).run (AuthState.initial users webauthn oidc) inputs)
        token current ↔
      FoundById libs config refreshEnv ((authMachine libs config).run (AuthState.initial users webauthn oidc) inputs)
        current := by
  have rotated := usable_rotates libs config users webauthn oidc inputs fresh event member env request user token issued
    refreshEnv usable
  exact always_exchanged_iff libs config refreshEnv _ token _ current rotated standing.id.symm

end Exchange

def oidcService : OidcService :=
  { providers := ["github"], stateStore := ∅ }

def oidcStartState : AuthState :=
  AuthState.initial (UserStore.withUsers [sampleUser "u-alice" "alice" none]) none (some oidcService)

def oidcEnv (now : Int) (fresh : Fresh) : Env :=
  { sampleEnv now fresh with
    oidcStart := .ok ⟨"state-1", "https://github.com/login/oauth/authorize", "csrf-1", "pkce-1", "nonce-1"⟩
    exchange := fun _ _ => .ok ⟨"583231", "octocat", none, "The Octocat"⟩ }

def octocat : User :=
  { id := "github:583231", username := "octocat", displayName := "The Octocat", email := none
    passwordHash := "random-r1", role := .viewer, enabled := true, totpSecret := none, totpEnabled := false
    backupCodes := [] }

def oidcRun : List AuthInput :=
  [.request (oidcEnv 0 ⟨"r0", "t0"⟩) (.oidcLogin "github"),
    .request (oidcEnv 10 ⟨"r1", "t1"⟩) (.oidcCallback "state-1" "code" "csrf-1")]

def oidcEnd : AuthState :=
  (authMachine sampleLibs sampleConfig).run oidcStartState oidcRun

def oidcLoginEvent : AuthEvent :=
  Machine.event (authMachine sampleLibs sampleConfig)
    ((authMachine sampleLibs sampleConfig).run oidcStartState (oidcRun.take 1))
    (.request (oidcEnv 10 ⟨"r1", "t1"⟩) (.oidcCallback "state-1" "code" "csrf-1"))

theorem oidc_login_issued : IssuedAt sampleLibs sampleConfig oidcLoginEvent (oidcEnv 10 ⟨"r1", "t1"⟩)
    (.oidcCallback "state-1" "code" "csrf-1") octocat "t1" :=
  ⟨rfl, rfl, by decide, by decide⟩

theorem oidc_account_standing : Standing (.oidcCallback "state-1" "code" "csrf-1") octocat oidcEnd octocat :=
  ⟨by decide, rfl, rfl⟩

theorem oidc_token_usable : Usable sampleLibs (oidcEnv 20 ⟨"r2", "t2"⟩) oidcEnd "t1" :=
  ⟨"r1", ⟨"r1", "github:583231", sampleHash "t1", 604810, false, 10⟩, by decide, by decide, rfl, by decide⟩

theorem oidc_run_fresh : FreshRun sampleHash
    (projected sampleLibs ((authMachine sampleLibs sampleConfig).trace oidcStartState oidcRun)) :=
  fresh_run_of_decided sampleHash _ (by decide) (by decide) (by decide)

theorem refresh_exchanges_oidc_run :
    AlwaysExchanged sampleLibs sampleConfig (oidcEnv 20 ⟨"r2", "t2"⟩) oidcEnd "t1" octocat ↔
      FoundById sampleLibs sampleConfig (oidcEnv 20 ⟨"r2", "t2"⟩) oidcEnd octocat :=
  refresh_exchanges_iff sampleLibs sampleConfig _ none _ oidcRun oidc_run_fresh oidcLoginEvent
    (List.mem_of_getElem? (i := 1) rfl) _ _ octocat "t1" oidc_login_issued octocat oidc_account_standing
    (oidcEnv 20 ⟨"r2", "t2"⟩) oidc_token_usable

theorem oidc_token_not_exchanged :
    oidcLoginEvent ∈ (authMachine sampleLibs sampleConfig).trace oidcStartState oidcRun ∧
      IssuedAt sampleLibs sampleConfig oidcLoginEvent (oidcEnv 10 ⟨"r1", "t1"⟩)
        (.oidcCallback "state-1" "code" "csrf-1") octocat "t1" ∧
      Standing (.oidcCallback "state-1" "code" "csrf-1") octocat oidcEnd octocat ∧
      Usable sampleLibs (oidcEnv 20 ⟨"r2", "t2"⟩) oidcEnd "t1" ∧
      (refresh sampleLibs sampleConfig (oidcEnv 20 ⟨"r2", "t2"⟩) "t1" oidcEnd).2 =
        .error (internalResponse "user not found") ∧
      ¬ ExchangedFor sampleLibs sampleConfig (oidcEnv 20 ⟨"r2", "t2"⟩) oidcEnd "t1" octocat := by
  have failed : (refresh sampleLibs sampleConfig (oidcEnv 20 ⟨"r2", "t2"⟩) "t1" oidcEnd).2 =
      .error (internalResponse "user not found") := by decide
  refine ⟨List.mem_of_getElem? (i := 1) rfl, oidc_login_issued, oidc_account_standing, oidc_token_usable, failed, ?_⟩
  rintro ⟨jwt, minted, _⟩
  rw [failed] at minted
  cases minted

end Moxui.Auth
