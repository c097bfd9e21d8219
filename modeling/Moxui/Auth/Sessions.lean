import Moxui.Auth.RefreshSafety
import Moxui.Auth.System

set_option autoImplicit false

namespace Moxui.Auth

section Moves

variable (libs : Libs) (config : AuthConfig) (env : Env)

def issueMove (env : Env) (userId : String) : RefreshOp :=
  .issue userId RefreshStore.defaultTtlSecs env.fresh env.clock.storedAt

def sessionMoves (env : Env) : Outcome → List RefreshOp
  | .ok (.session response) => [issueMove env response.user.id]
  | _ => []

def tokenMoves (event : AuthEvent) : List RefreshOp :=
  match event.input with
  | .rehashUsers _ => []
  | .rehashTokens order => [.rehash order]
  | .request env (.refresh refreshToken) =>
      [.rotate refreshToken RefreshStore.defaultTtlSecs env.clock.checkedAt env.fresh env.clock.storedAt]
  | .request env (.logout refreshToken) =>
      .verify refreshToken env.clock.checkedAt ::
        match RefreshStore.verify libs.hashToken refreshToken env.clock.checkedAt event.before.refreshStore with
        | some (id, _) => [.revoke id]
        | none => []
  | .request env _ =>
      match event.output with
      | some outcome => sessionMoves env outcome
      | none => []

structure Issues (store : RefreshStore) (result : AuthState × Outcome) : Prop where
  store : result.1.refreshStore = (refreshMachine libs.hashToken).run store (sessionMoves env result.2)
  session : ∀ response, result.2 = .ok (.session response) →
    response.user.id = response.token.claims.sub ∧ response.refreshToken = env.fresh.raw
  notRefreshed : ∀ response, result.2 ≠ .ok (.refreshed response)

theorem session_moves_none (outcome : Outcome) (silent : mintedJwt outcome = none) : sessionMoves env outcome = [] := by
  cases outcome with
  | error failure => rfl
  | ok reply => cases reply <;> first | rfl | simp [mintedJwt] at silent

theorem issues_quiet (state : AuthState) (result : AuthState × Outcome) (quiet : Quiet state result) :
    Issues libs env state.refreshStore result := by
  constructor
  · rw [session_moves_none env result.2 quiet.tokens]
    exact quiet.store
  · intro response session
    have silent := quiet.tokens
    simp [session, mintedJwt] at silent
  · intro response refreshed
    have silent := quiet.tokens
    simp [refreshed, mintedJwt] at silent

theorem issues_session (failure : ApiError) (user : User) (state after : AuthState)
    (same : after.refreshStore = state.refreshStore) :
    Issues libs env state.refreshStore (issueSession libs config env failure user after) := by
  cases encoded : libs.jwtEncode (claimsFor config env user) with
  | error reason =>
      simp only [issueSession, encoded]
      exact issues_quiet libs env state _ ⟨rfl, same⟩
  | ok text =>
      simp only [issueSession, encoded]
      constructor
      · rw [← same]
        rfl
      · intro response session
        cases session
        exact ⟨rfl, rfl⟩
      · intro response refreshed
        cases refreshed

theorem login_issues (username password : String) (state : AuthState) :
    Issues libs env state.refreshStore (login libs config env username password state) := by
  simp only [login]
  split
  · exact issues_quiet libs env state _ ⟨rfl, rfl⟩
  · split
    · exact issues_quiet libs env state _ ⟨rfl, rfl⟩
    · exact issues_session libs config env _ _ state state rfl

theorem two_factor_complete_issues (preauthToken code : String) (state : AuthState) :
    Issues libs env state.refreshStore (twoFactorComplete libs config env preauthToken code state) := by
  simp only [twoFactorComplete]
  split
  · exact issues_quiet libs env state _ ⟨rfl, rfl⟩
  · split
    · exact issues_quiet libs env state _ ⟨rfl, rfl⟩
    · split
      · exact issues_session libs config env _ _ state _ rfl
      · exact issues_quiet libs env state _ ⟨rfl, rfl⟩

theorem oidc_callback_issues (stateKey code returnedState : String) (state : AuthState) :
    Issues libs env state.refreshStore (oidcCallback libs config env stateKey code returnedState state) := by
  simp only [oidcCallback]
  split
  · exact issues_quiet libs env state _ ⟨rfl, rfl⟩
  · split
    · exact issues_quiet libs env state _ ⟨rfl, rfl⟩
    · split
      · split
        · exact issues_session libs config env _ _ state _ rfl
        · exact issues_quiet libs env state _ ⟨rfl, rfl⟩
      · exact issues_session libs config env _ _ state _ rfl

theorem ldap_login_issues (username password : String) (state : AuthState) :
    Issues libs env state.refreshStore (ldapLogin libs config env username password state) := by
  simp only [ldapLogin]
  split
  · exact issues_quiet libs env state _ ⟨rfl, rfl⟩
  · split
    · exact issues_quiet libs env state _ ⟨rfl, rfl⟩
    · split
      · split
        · exact issues_session libs config env _ _ state state rfl
        · exact issues_quiet libs env state _ ⟨rfl, rfl⟩
      · split
        · exact issues_session libs config env _ _ state _ rfl
        · exact issues_quiet libs env state _ ⟨rfl, rfl⟩

theorem login_complete_issues (username credential : String) (state : AuthState) :
    Issues libs env state.refreshStore (loginComplete libs config env username credential state) := by
  simp only [loginComplete]
  split
  · exact issues_quiet libs env state _ ⟨rfl, rfl⟩
  · split
    · exact issues_quiet libs env state _ ⟨rfl, rfl⟩
    · split
      · exact issues_quiet libs env state _ ⟨rfl, rfl⟩
      · exact issues_session libs config env _ _ state _ rfl

def usesTokens : AuthRequest → Bool
  | .refresh _ => true
  | .logout _ => true
  | _ => false

theorem handle_issues (state : AuthState) (request : AuthRequest) (free : usesTokens request = false) :
    Issues libs env state.refreshStore (handle libs config env state request) := by
  cases request with
  | refresh refreshToken => cases free
  | logout refreshToken => cases free
  | login username password => exact login_issues libs config env username password state
  | twoFactorComplete preauthToken code => exact two_factor_complete_issues libs config env preauthToken code state
  | oidcCallback stateKey code returned => exact oidc_callback_issues libs config env stateKey code returned state
  | ldapLogin username password => exact ldap_login_issues libs config env username password state
  | loginComplete username credential => exact login_complete_issues libs config env username credential state
  | twoFactorSetup claims => exact issues_quiet libs env state _ ⟨rfl, rfl⟩
  | twoFactorVerify claims secret code =>
      exact issues_quiet libs env state _ (two_factor_verify_quiet libs env state claims secret code)
  | twoFactorDisable claims password =>
      exact issues_quiet libs env state _ (two_factor_disable_quiet libs state claims password)
  | oidcLogin provider => exact issues_quiet libs env state _ (oidc_login_quiet env state provider)
  | registerStart claims => exact issues_quiet libs env state _ (register_start_quiet env state claims)
  | registerComplete claims credential =>
      exact issues_quiet libs env state _ (register_complete_quiet env state claims credential)
  | loginStart username => exact issues_quiet libs env state _ (login_start_quiet env state username)
  | listUsers claims => exact issues_quiet libs env state _ (list_users_quiet state claims)
  | createUser claims request => exact issues_quiet libs env state _ (create_user_quiet env state claims request)
  | updateUser claims username request =>
      exact issues_quiet libs env state _ (update_user_quiet env state claims username request)
  | deleteUser claims username => exact issues_quiet libs env state _ (delete_user_quiet state claims username)

theorem refresh_store_after (refreshToken : String) (state : AuthState) :
    (refresh libs config env refreshToken state).1.refreshStore = (rotation libs env state refreshToken).1 := by
  simp only [refresh]
  split
  · rfl
  · split
    · rfl
    · split <;> rfl

theorem logout_store_after (refreshToken : String) (state : AuthState) :
    (logout libs env refreshToken state).1.refreshStore =
      match RefreshStore.verify libs.hashToken refreshToken env.clock.checkedAt state.refreshStore with
      | some (id, _) => (RefreshStore.revoke id state.refreshStore).1
      | none => state.refreshStore := by
  cases verified : RefreshStore.verify libs.hashToken refreshToken env.clock.checkedAt state.refreshStore with
  | none => simp only [logout, verified]
  | some owner => simp only [logout, verified]

-- The token store of the server takes exactly the steps of the refresh-token machine.
theorem tokens_follow : Machine.Follows (authMachine libs config) (refreshMachine libs.hashToken)
    AuthState.refreshStore (tokenMoves libs) := by
  constructor
  intro state input
  cases input with
  | rehashUsers order => rfl
  | rehashTokens order => rfl
  | request env request =>
      cases request with
      | refresh refreshToken => exact refresh_store_after libs config env refreshToken state
      | logout refreshToken =>
          have after := logout_store_after libs env refreshToken state
          simp only [tokenMoves, Machine.event]
          refine after.trans ?_
          split <;> rfl
      | _ => exact (handle_issues libs config env state _ rfl).store

theorem minted_refresh_jwt (outcome : Outcome) : (mintedRefresh outcome).isSome = (mintedJwt outcome).isSome := by
  cases outcome with
  | error failure => rfl
  | ok reply => cases reply <;> rfl

theorem event_output (state : AuthState) (request : AuthRequest) :
    (Machine.event (authMachine libs config) state (.request env request)).output =
      some (handle libs config env state request).2 := rfl

theorem trace_output (start : AuthState) (inputs : List AuthInput) (event : AuthEvent)
    (member : event ∈ (authMachine libs config).trace start inputs) (request : AuthRequest)
    (input : event.input = .request env request) :
    event.output = some (handle libs config env event.before request).2 := by
  obtain ⟨earlier, later, _, eventEq⟩ := Machine.trace_event (authMachine libs config) start inputs event member
  rw [input] at eventEq
  rw [eventEq]
  exact event_output libs config env _ request

theorem token_moves_free (state : AuthState) (request : AuthRequest) (free : usesTokens request = false) :
    tokenMoves libs (Machine.event (authMachine libs config) state (.request env request)) =
      sessionMoves env (handle libs config env state request).2 := by
  cases request with
  | refresh refreshToken => cases free
  | logout refreshToken => cases free
  | _ => rfl

theorem handle_session (state : AuthState) (request : AuthRequest) (free : usesTokens request = false)
    (response : LoginResponse) (session : (handle libs config env state request).2 = .ok (.session response)) :
    ∃ user, accountFor libs config env state request = some user ∧ response.user.id = user.id ∧
      response.refreshToken = env.fresh.raw := by
  obtain ⟨subject, token⟩ := (handle_issues libs config env state request free).session response session
  have minted := handle_jwt libs config env state request
  rw [session] at minted
  obtain ⟨user, account, jwt⟩ := Option.bind_eq_some_iff.mp minted.symm
  obtain ⟨text, _, signedEq⟩ := Option.map_eq_some_iff.mp jwt
  refine ⟨user, account, ?_, token⟩
  rw [subject, ← signedEq]
  rfl

theorem handle_session_moves (state : AuthState) (request : AuthRequest) (free : usesTokens request = false)
    (user : User) (account : accountFor libs config env state request = some user) (token : String)
    (returned : mintedRefresh (handle libs config env state request).2 = some token) :
    token = env.fresh.raw ∧ sessionMoves env (handle libs config env state request).2 = [issueMove env user.id] := by
  cases outcome : (handle libs config env state request).2 with
  | error failure => simp [outcome, mintedRefresh] at returned
  | ok reply =>
      cases reply with
      | session response =>
          obtain ⟨owner, accountEq, subject, tokenEq⟩ := handle_session libs config env state request free response outcome
          rw [account, Option.some.injEq] at accountEq
          subst owner
          rw [outcome] at returned
          have named : response.refreshToken = token := Option.some.inj returned
          exact ⟨named.symm.trans tokenEq, by rw [sessionMoves, subject]⟩
      | refreshed response =>
          exact absurd outcome ((handle_issues libs config env state request free).notRefreshed response)
      | _ => simp [outcome, mintedRefresh] at returned

theorem logout_record_origin (refreshToken : String) (state : AuthState) (key : String) (later : StoredRefreshToken)
    (present : (logout libs env refreshToken state).1.refreshStore.lookup key = some later) :
    ∃ record, state.refreshStore.lookup key = some record ∧ Revises record later := by
  rw [logout_store_after] at present
  split at present
  · next id owner verified =>
      have evolves := step_evolves libs.hashToken state.refreshStore (.revoke id) (by simp [RefreshOp.draws])
      rcases evolves.origin key later present with kept | ⟨fresh, drawn, _⟩
      · exact kept
      · simp [RefreshOp.draws] at drawn
  · exact ⟨later, present, Or.inl rfl⟩

theorem session_record_origin (env : Env) (request : AuthRequest) (state : AuthState) (key : String)
    (later : StoredRefreshToken) (free : usesTokens request = false)
    (present : (handle libs config env state request).1.refreshStore.lookup key = some later) :
    (∃ record, state.refreshStore.lookup key = some record ∧ Revises record later) ∨
    ∃ user, accountFor libs config env state request = some user ∧ later.userId = user.id ∧
      later.tokenHash = libs.hashToken env.fresh.raw ∧
      mintedRefresh (handle libs config env state request).2 = some env.fresh.raw ∧
      sessionMoves env (handle libs config env state request).2 = [issueMove env user.id] := by
  have issues := handle_issues libs config env state request free
  rw [issues.store] at present
  cases outcome : (handle libs config env state request).2 with
  | error failure => exact Or.inl ⟨later, by simpa [outcome, sessionMoves] using present, Or.inl rfl⟩
  | ok reply =>
      cases reply with
      | session response =>
          obtain ⟨user, account, subjectId, token⟩ := handle_session libs config env state request free response outcome
          simp only [outcome, sessionMoves, Machine.run, refreshMachine, issueMove, refreshStep, RefreshStore.issue,
            RefreshStore.lookup_insert] at present
          split at present
          · cases present
            refine Or.inr ⟨user, account, subjectId, rfl, ?_, ?_⟩
            · rw [← token]
              rfl
            · rw [← subjectId]
              rfl
          · exact Or.inl ⟨later, present, Or.inl rfl⟩
      | _ => exact Or.inl ⟨later, by simpa [outcome, sessionMoves] using present, Or.inl rfl⟩

theorem refresh_record_origin (env : Env) (old : String) (state : AuthState) (key : String) (later : StoredRefreshToken)
    (present : (handle libs config env state (.refresh old)).1.refreshStore.lookup key = some later) :
    (∃ record, state.refreshStore.lookup key = some record ∧ Revises record later) ∨
    ∃ oldKey record issued, state.refreshStore.lookup oldKey = some record ∧ record.tokenHash = libs.hashToken old ∧
      (rotation libs env state old).2 = some issued ∧ issued.token = env.fresh.raw ∧ later.userId = record.userId ∧
      later.tokenHash = libs.hashToken env.fresh.raw := by
  simp only [handle, refresh_store_after, rotation] at present
  rcases rotate_cases libs.hashToken old RefreshStore.defaultTtlSecs env.clock.checkedAt env.fresh env.clock.storedAt
      state.refreshStore with
    nothing | ⟨id, record, found, hashed, revoked, replay⟩ | ⟨id, record, found, hashed, active, success⟩
  · rw [nothing] at present
    exact Or.inl ⟨later, present, Or.inl rfl⟩
  · rw [replay] at present
    rcases (evolves_revoke_where libs.hashToken [] _ state.refreshStore).origin key later present with
      kept | ⟨fresh, drawn, _⟩
    · exact Or.inl kept
    · cases drawn
  · rw [success] at present
    simp only [RefreshStore.lookup_insert] at present
    split at present
    · cases present
      refine Or.inr ⟨id, record, RefreshStore.newIssued record.userId RefreshStore.defaultTtlSecs env.fresh
        env.clock.storedAt, found, hashed, ?_, rfl, rfl, rfl⟩
      rw [rotation, success]
    · rcases (evolves_revoke_key libs.hashToken [] id state.refreshStore).origin key later present with
        kept | ⟨fresh, drawn, _⟩
      · exact Or.inl kept
      · cases drawn

theorem step_record_origin (state : AuthState) (input : AuthInput) (key : String) (later : StoredRefreshToken)
    (present : (authStep libs config state input).1.refreshStore.lookup key = some later) :
    (∃ record, state.refreshStore.lookup key = some record ∧ Revises record later) ∨
    (∃ env request user, input = .request env request ∧ usesTokens request = false ∧
      accountFor libs config env state request = some user ∧ later.userId = user.id ∧
      later.tokenHash = libs.hashToken env.fresh.raw ∧
      mintedRefresh (handle libs config env state request).2 = some env.fresh.raw ∧
      sessionMoves env (handle libs config env state request).2 = [issueMove env user.id]) ∨
    (∃ env old oldKey record issued, input = .request env (.refresh old) ∧
      state.refreshStore.lookup oldKey = some record ∧ record.tokenHash = libs.hashToken old ∧
      (rotation libs env state old).2 = some issued ∧ issued.token = env.fresh.raw ∧
      later.userId = record.userId ∧ later.tokenHash = libs.hashToken env.fresh.raw) := by
  cases input with
  | rehashUsers order => exact Or.inl ⟨later, present, Or.inl rfl⟩
  | rehashTokens order =>
      simp only [authStep, RefreshStore.lookup_rehash] at present
      exact Or.inl ⟨later, present, Or.inl rfl⟩
  | request env request =>
      simp only [authStep] at present
      cases free : usesTokens request with
      | false =>
          rcases session_record_origin libs config env request state key later free present with kept | ⟨user, issued⟩
          · exact Or.inl kept
          · exact Or.inr (Or.inl ⟨env, request, user, rfl, free, issued⟩)
      | true =>
          cases request with
          | logout refreshToken => exact Or.inl (logout_record_origin libs env refreshToken state key later present)
          | refresh old =>
              rcases refresh_record_origin libs config env old state key later present with
                kept | ⟨oldKey, record, issued, rotated⟩
              · exact Or.inl kept
              · exact Or.inr (Or.inr ⟨env, old, oldKey, record, issued, rfl, rotated⟩)
          | _ => cases free

end Moves

-- A small deployment for concrete runs. The bcrypt pair is a published test vector, the HMAC
-- digests are those of RFC 4226 for its 20-byte secret and the counters 0, 1 and 2.
def sampleBcrypt (password hash : String) : Bool :=
  password == "U*U" && hash == "$2a$05$CCCCCCCCCCCCCCCCCCCCC.E5YPO9kmyuRGyh0XouQYb4YMJKvyOeW"

def sampleDigest (counter : List UInt8) : List UInt8 :=
  if counter = Totp.beBytes 0 then
    [0xcc, 0x93, 0xcf, 0x18, 0x50, 0x8d, 0x94, 0x93, 0x4c, 0x64, 0xb6, 0x5d, 0x8b, 0xa7, 0x66, 0x7f, 0xb7, 0xcd,
      0xe4, 0xb0]
  else if counter = Totp.beBytes 1 then
    [0x75, 0xa4, 0x8a, 0x19, 0xd4, 0xcb, 0xe1, 0x00, 0x64, 0x4e, 0x8a, 0xc1, 0x39, 0x7e, 0xea, 0x74, 0x7a, 0x2d,
      0x33, 0xab]
  else
    [0x0b, 0xac, 0xb7, 0xfa, 0x08, 0x2f, 0xef, 0x30, 0x78, 0x22, 0x11, 0x93, 0x8b, 0xc1, 0xc5, 0xe7, 0x04, 0x16,
      0xff, 0x44]

def sampleHmac : Totp.HmacSha1 := fun secret counter index =>
  if secret = Text.bytes "12345678901234567890" then (sampleDigest counter).getD index 0 else 0

def sampleLibs : Libs :=
  { hashToken := sampleHash, verifyPassword := sampleBcrypt, hmacSha1 := sampleHmac
    jwtEncode := fun claims => .ok ("signed." ++ claims.sub), updatePasskey := fun key _ => key }

def sampleConfig : AuthConfig :=
  { ldap := sampleLdapConfig, jwtLifetimeSecs := 3600, jwtIssuer := "moxui" }

def sampleEnv (now : Int) (fresh : Fresh) : Env :=
  { clock := ⟨now, now, now, now.toNat, now * 1000000000⟩, fresh := fresh, preauthToken := "preauth-" ++ fresh.id
    randomPassword := "random-" ++ fresh.id, totpSecret := "GEZDGNBVGY3TQOJQGEZDGNBVGY3TQOJQ", backupCodes := []
    hashPassword := fun _ => .ok "$2a$05$CCCCCCCCCCCCCCCCCCCCC.E5YPO9kmyuRGyh0XouQYb4YMJKvyOeW"
    directory := sampleDirectory, oidcStart := .error "no provider"
    exchange := fun _ _ => .error "no provider", registrationStart := fun _ => .error "no authenticator"
    registrationFinish := fun _ _ => .error "no authenticator"
    authenticationStart := fun _ => .error "no authenticator"
    authenticationFinish := fun _ _ => .error "no authenticator" }

def sampleUser (id username : String) (totpSecret : Option String) : User :=
  { id := id, username := username, displayName := username, email := none
    passwordHash := "$2a$05$CCCCCCCCCCCCCCCCCCCCC.E5YPO9kmyuRGyh0XouQYb4YMJKvyOeW", role := .operator, enabled := true
    totpSecret := totpSecret, totpEnabled := totpSecret.isSome, backupCodes := [] }

def adminClaims : Claims :=
  { sub := "u-root", username := "root", role := "admin", iat := 0, exp := 3600 }

example : (Totp.verifyTotp sampleHmac 59 "GEZDGNBVGY3TQOJQGEZDGNBVGY3TQOJQ" "287082") = true := by decide

end Moxui.Auth
