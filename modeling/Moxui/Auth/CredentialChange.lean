import Moxui.Auth.Exchange

set_option autoImplicit false

namespace Moxui.Auth

section CredentialChange

variable (libs : Libs) (config : AuthConfig)

structure IssuedFor (event : AuthEvent) (id token : String) : Prop where
  returned : event.output.bind mintedRefresh = some token
  subject : ∃ jwt, event.output.bind mintedJwt = some jwt ∧ jwt.claims.sub = id

-- An admin set a new password for the account with the id, or removed it and made a new one
-- with that id. `before` is what happened before that, `after` what happened since.
inductive CredentialChange (trace : List AuthEvent) : List AuthEvent → List AuthEvent → String → Prop where
  | password (before : List AuthEvent) (event : AuthEvent) (after : List AuthEvent) (env : Env) (claims : Claims)
      (username : String) (request : UpdateUserRequest) (account : User) (split : trace = before ++ event :: after)
      (input : event.input = .request env (.updateUser claims username request)) (sets : request.password.isSome = true)
      (accepted : event.output = some (.ok (.userChange "updated" username)))
      (stored : event.before.users.get username = some account) : CredentialChange trace before after account.id
  | recreated (before : List AuthEvent) (deletion : AuthEvent) (between : List AuthEvent) (creation : AuthEvent)
      (after : List AuthEvent) (env later : Env) (claims laterClaims : Claims) (username : String)
      (request : CreateUserRequest) (account : User)
      (split : trace = before ++ deletion :: (between ++ creation :: after))
      (deleted : deletion.input = .request env (.deleteUser claims username))
      (removed : deletion.output = some (.ok (.userChange "deleted" username)))
      (stored : deletion.before.users.get username = some account)
      (created : creation.input = .request later (.createUser laterClaims request))
      (added : creation.output = some (.ok (.userChange "created" request.username)))
      (same : request.id = account.id) : CredentialChange trace before after account.id

structure PresentedSince (trace before after : List AuthEvent) (id token : String) (refreshed : AuthEvent) (env : Env) :
    Prop where
  change : CredentialChange trace before after id
  issued : ∃ event ∈ before, IssuedFor event id token
  since : refreshed ∈ after
  input : refreshed.input = .request env (.refresh token)

def Rejected (event : AuthEvent) : Prop :=
  ∃ failure, event.output = some (.error failure)

def ChangesEndSessions (trace : List AuthEvent) : Prop :=
  ∀ before after id token refreshed env, PresentedSince trace before after id token refreshed env → Rejected refreshed

-- The token is live: its record is neither revoked nor expired, and there is an account with
-- the id to sign for.
structure Live (env : Env) (state : AuthState) (id token : String) : Prop where
  usable : Usable libs env state token
  account : ∃ user, state.users.getById id = some user ∧ (signed libs config env user).isSome = true

def NoLiveTokenPresented (trace : List AuthEvent) : Prop :=
  ∀ before after id token refreshed env, PresentedSince trace before after id token refreshed env →
    ¬ Live libs config env refreshed.before id token

theorem change_split (trace before after : List AuthEvent) (id : String)
    (change : CredentialChange trace before after id) : ∃ between, trace = before ++ (between ++ after) := by
  cases change with
  | password event _ _ _ _ _ _ split => exact ⟨[event], split⟩
  | recreated deletion between creation _ _ _ _ _ _ _ _ split =>
      exact ⟨deletion :: (between ++ [creation]), by simpa using split⟩

theorem refresh_accepted (env : Env) (state : AuthState) (token : String) (reply : Reply)
    (accepted : (refresh libs config env token state).2 = .ok reply) :
    ∃ issued user jwt, (rotation libs env state token).2 = some issued ∧
      state.users.getById issued.userId = some user ∧ signed libs config env user = some jwt ∧
      reply = .refreshed { token := jwt, expiresIn := config.jwtLifetimeSecs, refreshToken := issued.token } := by
  unfold refresh at accepted
  unfold rotation
  cases rotated : (RefreshStore.rotate libs.hashToken token RefreshStore.defaultTtlSecs env.clock.checkedAt env.fresh
      env.clock.storedAt state.refreshStore).2 with
  | none => simp [rotated] at accepted
  | some issued =>
      cases found : state.users.getById issued.userId with
      | none => simp [rotated, found] at accepted
      | some user =>
          cases encoded : libs.jwtEncode (claimsFor config env user) with
          | error reason => simp [rotated, found, encoded] at accepted
          | ok text =>
              simp only [rotated, found, encoded, Except.ok.injEq] at accepted
              exact ⟨issued, user, ⟨claimsFor config env user, text⟩, rfl, found,
                by simp [signed, encoded, Except.toOption], accepted.symm⟩

section Run

variable (users : UserStore) (webauthn : Option WebauthnState) (oidc : Option OidcService)

theorem returned_by_move (inputs : List AuthInput) (event : AuthEvent)
    (member : event ∈ (authMachine libs config).trace (AuthState.initial users webauthn oidc) inputs) (op : RefreshOp)
    (moved : tokenMoves libs event = [op]) (made : IssuedRefreshToken)
    (returned : returnedBy (Machine.event (refreshMachine libs.hashToken) event.before.refreshStore op) = some made) :
    made ∈ ((refreshMachine libs.hashToken).trace RefreshStore.empty
      (projected libs ((authMachine libs config).trace (AuthState.initial users webauthn oidc) inputs))).filterMap
        returnedBy := by
  have inMoves : Machine.event (refreshMachine libs.hashToken) event.before.refreshStore op ∈
      (refreshMachine libs.hashToken).trace event.before.refreshStore (tokenMoves libs event) := by
    rw [moved]
    exact List.mem_cons_self
  have inTrace := (tokens_follow libs config).mem_trace (AuthState.initial users webauthn oidc) inputs event member _
    inMoves
  exact List.mem_filterMap.mpr ⟨_, inTrace, returned⟩

theorem session_returned (env : Env) (state : AuthState) (request : AuthRequest) (free : usesTokens request = false)
    (response : LoginResponse) (outcome : (handle libs config env state request).2 = .ok (.session response)) :
    tokenMoves libs (Machine.event (authMachine libs config) state (.request env request)) =
        [issueMove env response.user.id] ∧
      response.user.id = response.token.claims.sub ∧
      returnedBy (Machine.event (refreshMachine libs.hashToken) state.refreshStore (issueMove env response.user.id)) =
        some (RefreshStore.newIssued response.user.id RefreshStore.defaultTtlSecs env.fresh env.clock.storedAt) ∧
      response.refreshToken = env.fresh.raw := by
  obtain ⟨owner, raw⟩ := (handle_issues libs config env state request free).session response outcome
  refine ⟨?_, owner, rfl, raw⟩
  rw [token_moves_free libs config env state request free]
  exact congrArg (sessionMoves env) outcome

theorem refresh_returned (env : Env) (state : AuthState) (presented : String) (reply : Reply)
    (accepted : (refresh libs config env presented state).2 = .ok reply) :
    ∃ made jwt, returnedBy (Machine.event (refreshMachine libs.hashToken) state.refreshStore
        (.rotate presented RefreshStore.defaultTtlSecs env.clock.checkedAt env.fresh env.clock.storedAt)) = some made ∧
      jwt.claims.sub = made.userId ∧
      reply = .refreshed { token := jwt, expiresIn := config.jwtLifetimeSecs, refreshToken := made.token } := by
  obtain ⟨made, user, jwt, rotated, found, signs, whole⟩ := refresh_accepted libs config env state presented reply accepted
  obtain ⟨_, sameId⟩ := state.users.get_by_id_some made.userId user found
  obtain ⟨_, _, claims⟩ := Option.map_eq_some_iff.mp signs
  refine ⟨made, jwt, ?_, ?_, whole⟩
  · simpa [returnedBy, Machine.event, refreshMachine, refreshStep, rotation] using rotated
  · rw [← claims, ← sameId]
    rfl

def IssuedByMove (env : Env) (state : AuthState) (request : AuthRequest) (id token : String) : Prop :=
  ∃ op made, tokenMoves libs (Machine.event (authMachine libs config) state (.request env request)) = [op] ∧
    returnedBy (Machine.event (refreshMachine libs.hashToken) state.refreshStore op) = some made ∧
    made.token = token ∧ made.userId = id

theorem session_issued (env : Env) (state : AuthState) (request : AuthRequest) (free : usesTokens request = false)
    (token : String) (jwt : Jwt) (returned : mintedRefresh (handle libs config env state request).2 = some token)
    (minted : mintedJwt (handle libs config env state request).2 = some jwt) :
    IssuedByMove libs config env state request jwt.claims.sub token := by
  have issues := handle_issues libs config env state request free
  cases outcome : (handle libs config env state request).2 with
  | error failure => simp [outcome, mintedRefresh] at returned
  | ok reply =>
      cases reply with
      | session response =>
          obtain ⟨moves, owner, made, raw⟩ := session_returned libs config env state request free response outcome
          rw [outcome] at returned minted
          cases returned
          cases minted
          exact ⟨_, _, moves, made, raw.symm, owner⟩
      | refreshed response => exact absurd outcome (issues.notRefreshed response)
      | _ => simp [outcome, mintedRefresh] at returned

theorem refresh_issued (env : Env) (state : AuthState) (presented token : String) (jwt : Jwt)
    (returned : mintedRefresh (handle libs config env state (.refresh presented)).2 = some token)
    (minted : mintedJwt (handle libs config env state (.refresh presented)).2 = some jwt) :
    IssuedByMove libs config env state (.refresh presented) jwt.claims.sub token := by
  cases outcome : (refresh libs config env presented state).2 with
  | error failure => simp [handle, outcome, mintedRefresh] at returned
  | ok reply =>
      obtain ⟨made, signs, rotated, owner, whole⟩ := refresh_returned libs config env state presented reply outcome
      simp only [handle, outcome, whole, mintedRefresh, mintedJwt, Option.some.injEq] at returned minted
      exact ⟨_, made, rfl, rotated, returned, by rw [← minted, owner]⟩

theorem issued_by_move (env : Env) (state : AuthState) (request : AuthRequest) (token : String) (jwt : Jwt)
    (returned : mintedRefresh (handle libs config env state request).2 = some token)
    (minted : mintedJwt (handle libs config env state request).2 = some jwt) :
    IssuedByMove libs config env state request jwt.claims.sub token := by
  cases free : usesTokens request with
  | false => exact session_issued libs config env state request free token jwt returned minted
  | true =>
      cases request with
      | logout refreshToken =>
          have silent := logout_jwt libs env state refreshToken
          simp only [handle, silent] at minted
          cases minted
      | refresh presented => exact refresh_issued libs config env state presented token jwt returned minted
      | _ => cases free

theorem issued_for_returned (inputs : List AuthInput) (event : AuthEvent)
    (member : event ∈ (authMachine libs config).trace (AuthState.initial users webauthn oidc) inputs)
    (id token : String) (issued : IssuedFor event id token) :
    ∃ made ∈ ((refreshMachine libs.hashToken).trace RefreshStore.empty
        (projected libs ((authMachine libs config).trace (AuthState.initial users webauthn oidc) inputs))).filterMap
          returnedBy, made.token = token ∧ made.userId = id := by
  have inHistory := returned_by_move libs config users webauthn oidc inputs event member
  obtain ⟨earlier, _, _, eventEq⟩ := Machine.trace_event _ _ inputs event member
  obtain ⟨returned, jwt, minted, subject⟩ := issued
  cases input : event.input with
  | rehashUsers order =>
      rw [eventEq, input] at returned
      cases returned
  | rehashTokens order =>
      rw [eventEq, input] at returned
      cases returned
  | request env request =>
      rw [input] at eventEq
      rw [trace_output libs config env _ inputs event member request input, Option.bind_some] at returned minted
      obtain ⟨op, made, moves, byMove, sameToken, owner⟩ :=
        issued_by_move libs config env event.before request token jwt returned minted
      have ofEvent : event = Machine.event (authMachine libs config) event.before (.request env request) := by
        rw [eventEq]
        rfl
      exact ⟨made, inHistory op (ofEvent ▸ moves) made byMove, sameToken, owner.trans subject⟩

theorem issued_record (inputs : List AuthInput)
    (fresh : FreshRun libs.hashToken
      (projected libs ((authMachine libs config).trace (AuthState.initial users webauthn oidc) inputs)))
    (event : AuthEvent)
    (member : event ∈ (authMachine libs config).trace (AuthState.initial users webauthn oidc) inputs)
    (id token : String) (issued : IssuedFor event id token) :
    ∃ key record, ((authMachine libs config).run (AuthState.initial users webauthn oidc) inputs).refreshStore.lookup key =
      some record ∧ record.tokenHash = libs.hashToken token ∧ record.userId = id := by
  obtain ⟨made, returned, rfl, rfl⟩ :=
    issued_for_returned libs config users webauthn oidc inputs event member id token issued
  rw [store_projection]
  exact (refresh_history libs.hashToken _ fresh).returned made returned

theorem refresh_accepted_iff (env : Env) (state : AuthState) (unique : HashUnique state.refreshStore)
    (id token key : String) (record : StoredRefreshToken) (present : state.refreshStore.lookup key = some record)
    (hashed : record.tokenHash = libs.hashToken token) (owner : record.userId = id) :
    (∃ reply, (refresh libs config env token state).2 = .ok reply) ↔ Live libs config env state id token := by
  have found := found_of_hash_unique libs.hashToken _ unique key token record present hashed
  refine ⟨?_, ?_⟩
  · rintro ⟨reply, accepted⟩
    obtain ⟨issued, user, jwt, rotated, stored, signs, _⟩ := refresh_accepted libs config env state token reply accepted
    simp only [rotation, RefreshStore.rotate, found] at rotated
    by_cases expired : env.clock.checkedAt > record.expiresAt
    · simp [expired] at rotated
    · cases active : record.revoked with
      | true => simp [expired, active] at rotated
      | false =>
          simp only [expired, active, if_false, Bool.false_eq_true, Option.some.injEq] at rotated
          rw [← rotated] at stored
          have issuedTo : (RefreshStore.newIssued record.userId RefreshStore.defaultTtlSecs env.fresh
              env.clock.storedAt).userId = id := owner
          rw [issuedTo] at stored
          exact ⟨⟨⟨key, record, present, hashed, active, by omega⟩⟩, user, stored, by simp [signs]⟩
  · rintro ⟨⟨⟨other, live, livePresent, liveHashed, active, unexpired⟩⟩, user, stored, signs⟩
    have sameKey := unique other key live record livePresent present (liveHashed.trans hashed.symm)
    rw [sameKey, present, Option.some.injEq] at livePresent
    subst live
    have within : ¬ env.clock.checkedAt > record.expiresAt := by omega
    obtain ⟨jwt, signsTo⟩ := Option.isSome_iff_exists.mp signs
    obtain ⟨text, encoded, _⟩ := Option.map_eq_some_iff.mp signsTo
    cases result : libs.jwtEncode (claimsFor config env user) with
    | error reason =>
        rw [result] at encoded
        cases encoded
    | ok text =>
        refine ⟨.refreshed { token := ⟨claimsFor config env user, text⟩, expiresIn := config.jwtLifetimeSecs
                             refreshToken := env.fresh.raw }, ?_⟩
        simp only [refresh, RefreshStore.rotate, found, within, active, if_false, Bool.false_eq_true,
          RefreshStore.newIssued, owner, stored, result]

theorem presented_record (inputs : List AuthInput)
    (fresh : FreshRun libs.hashToken
      (projected libs ((authMachine libs config).trace (AuthState.initial users webauthn oidc) inputs)))
    (before after : List AuthEvent) (id token : String) (refreshed : AuthEvent) (env : Env)
    (presented : PresentedSince ((authMachine libs config).trace (AuthState.initial users webauthn oidc) inputs) before
      after id token refreshed env) :
    HashUnique refreshed.before.refreshStore ∧ ∃ key record, refreshed.before.refreshStore.lookup key = some record ∧
      record.tokenHash = libs.hashToken token ∧ record.userId = id := by
  obtain ⟨between, split⟩ := change_split _ before after id presented.change
  obtain ⟨sinceBefore, sinceAfter, sinceSplit⟩ := List.append_of_mem presented.since
  obtain ⟨event, member, issued⟩ := presented.issued
  have whole : (authMachine libs config).trace (AuthState.initial users webauthn oidc) inputs =
      (before ++ (between ++ sinceBefore)) ++ refreshed :: sinceAfter := by
    rw [split, sinceSplit]
    simp
  obtain ⟨earlier, input, later, inputsEq, earlierEq, refreshedEq, _⟩ := Machine.trace_split _ _ _ _ _ _ whole
  have freshEarlier : FreshRun libs.hashToken
      (projected libs ((authMachine libs config).trace (AuthState.initial users webauthn oidc) earlier)) := by
    rw [inputsEq, Machine.trace_append, projected, Machine.movesOf, List.flatMap_append] at fresh
    exact fresh_run_earlier libs.hashToken _ _ fresh
  have inEarlier : event ∈ (authMachine libs config).trace (AuthState.initial users webauthn oidc) earlier := by
    rw [← earlierEq]
    exact List.mem_append_left _ member
  have store : refreshed.before =
      (authMachine libs config).run (AuthState.initial users webauthn oidc) earlier := by
    rw [refreshedEq]
    rfl
  rw [store]
  refine ⟨?_, issued_record libs config users webauthn oidc earlier freshEarlier event inEarlier id token issued⟩
  rw [store_projection]
  exact run_hash_unique libs.hashToken _ freshEarlier

theorem changes_end_sessions_iff (inputs : List AuthInput)
    (fresh : FreshRun libs.hashToken
      (projected libs ((authMachine libs config).trace (AuthState.initial users webauthn oidc) inputs))) :
    ChangesEndSessions ((authMachine libs config).trace (AuthState.initial users webauthn oidc) inputs) ↔
      NoLiveTokenPresented libs config
        ((authMachine libs config).trace (AuthState.initial users webauthn oidc) inputs) := by
  have rejected : ∀ before after id token refreshed env,
      PresentedSince ((authMachine libs config).trace (AuthState.initial users webauthn oidc) inputs) before after id token
        refreshed env → (Rejected refreshed ↔ ¬ Live libs config env refreshed.before id token) := by
    intro before after id token refreshed env presented
    obtain ⟨unique, key, record, present, hashed, owner⟩ :=
      presented_record libs config users webauthn oidc inputs fresh before after id token refreshed env presented
    rw [← refresh_accepted_iff libs config env refreshed.before unique id token key record present hashed owner]
    obtain ⟨between, split⟩ := change_split _ before after id presented.change
    have member : refreshed ∈ (authMachine libs config).trace (AuthState.initial users webauthn oidc) inputs := by
      rw [split]
      exact List.mem_append_right _ (List.mem_append_right _ presented.since)
    rw [Rejected, trace_output libs config env _ inputs refreshed member _ presented.input]
    cases outcome : (handle libs config env refreshed.before (.refresh token)).2 with
    | error failure => simp [show (refresh libs config env token refreshed.before).2 = .error failure from outcome]
    | ok reply => simp [show (refresh libs config env token refreshed.before).2 = .ok reply from outcome]
  refine ⟨?_, ?_⟩
  · intro ends before after id token refreshed env presented
    exact (rejected before after id token refreshed env presented).mp (ends before after id token refreshed env presented)
  · intro none before after id token refreshed env presented
    exact (rejected before after id token refreshed env presented).mpr (none before after id token refreshed env presented)

-- A change that finds every record of the id revoked leaves no session behind.
theorem family_revoked_rejects (earlier later : List AuthInput)
    (fresh : FreshRun libs.hashToken
      (projected libs ((authMachine libs config).trace (AuthState.initial users webauthn oidc) (earlier ++ later))))
    (id : String)
    (ended : FamilyRevoked ((authMachine libs config).run (AuthState.initial users webauthn oidc) earlier).refreshStore id)
    (event : AuthEvent)
    (member : event ∈ (authMachine libs config).trace (AuthState.initial users webauthn oidc) earlier)
    (token : String) (issued : IssuedFor event id token) (env : Env) :
    ¬ Live libs config env ((authMachine libs config).run (AuthState.initial users webauthn oidc) (earlier ++ later)) id
      token := by
  have trace := Machine.trace_append (authMachine libs config) (AuthState.initial users webauthn oidc) earlier later
  have projection : projected libs
      ((authMachine libs config).trace (AuthState.initial users webauthn oidc) (earlier ++ later)) =
      projected libs ((authMachine libs config).trace (AuthState.initial users webauthn oidc) earlier) ++
        projected libs ((authMachine libs config).trace
          ((authMachine libs config).run (AuthState.initial users webauthn oidc) earlier) later) := by
    rw [projected, Machine.movesOf, trace, List.flatMap_append]
    rfl
  rw [projection] at fresh
  obtain ⟨key, record, present, hashed, owner⟩ := issued_record libs config users webauthn oidc earlier
    (fresh_run_earlier libs.hashToken _ _ fresh) event member id token issued
  have revoked := ended key record present owner
  rw [store_projection] at present
  have kept := (revoked_for_good libs.hashToken _ _ fresh key record present revoked).1
  have unique := run_hash_unique libs.hashToken _ fresh
  rw [← projection, ← store_projection] at kept unique
  rintro ⟨⟨other, live, livePresent, liveHashed, active, _⟩, _⟩
  have sameKey := unique other key live record livePresent kept (liveHashed.trans hashed.symm)
  rw [sameKey, kept, Option.some.injEq] at livePresent
  rw [← livePresent, revoked] at active
  cases active

end Run

end CredentialChange

def resetAlice : UpdateUserRequest :=
  { displayName := none, email := none, role := none, password := some "new secret", enabled := none }

def resetInputs : List AuthInput :=
  [.request (sampleEnv 0 ⟨"r1", "t1"⟩) (.login "alice" "U*U"),
    .request (sampleEnv 5 ⟨"r2", "t2"⟩) (.updateUser adminClaims "alice" resetAlice),
    .request (sampleEnv 10 ⟨"r3", "t3"⟩) (.refresh "t1")]

def resetTrace : List AuthEvent :=
  (authMachine sampleLibs sampleConfig).trace disabledStart resetInputs

theorem changes_end_sessions_reset_run :
    ChangesEndSessions resetTrace ↔ NoLiveTokenPresented sampleLibs sampleConfig resetTrace :=
  changes_end_sessions_iff sampleLibs sampleConfig _ none none resetInputs
    (fresh_run_of_decided sampleHash _ (by decide) (by decide) (by decide))

theorem session_outlives_password : ¬ ChangesEndSessions resetTrace := by
  intro ends
  have change : CredentialChange resetTrace (resetTrace.take 1) (resetTrace.drop 2) "u-alice" :=
    .password _ _ _ (sampleEnv 5 ⟨"r2", "t2"⟩) adminClaims "alice" resetAlice (sampleUser "u-alice" "alice" none) rfl rfl
      rfl (by decide) (by decide)
  have issued : IssuedFor (Machine.event (authMachine sampleLibs sampleConfig) disabledStart
      (.request (sampleEnv 0 ⟨"r1", "t1"⟩) (.login "alice" "U*U"))) "u-alice" "t1" :=
    ⟨by decide, ⟨⟨"u-alice", "alice", "operator", 0, 3600⟩, "signed.u-alice"⟩, by decide, rfl⟩
  obtain ⟨failure, rejected⟩ := ends _ _ "u-alice" "t1" _ (sampleEnv 10 ⟨"r3", "t3"⟩)
    ⟨change, ⟨_, List.mem_cons_self, issued⟩, List.mem_cons_self, rfl⟩
  have nothing := congrArg (fun output => (output.bind mintedRefresh).isSome) rejected
  have renewed : (resetTrace.getLast?.bind fun event => event.output.bind mintedRefresh).isSome = true := by decide
  cases renewed.symm.trans nothing

end Moxui.Auth
