import Moxui.Auth.SecondFactor
import Moxui.Auth.Identities
import Moxui.Auth.PreAuthRuns

set_option autoImplicit false

namespace Moxui.Auth

section Provenance

variable (libs : Libs) (config : AuthConfig)

structure PasswordAccepted (state : AuthState) (username password : String) (user : User) : Prop where
  stored : state.users.get username = some user
  enabled : user.enabled = true
  verified : libs.verifyPassword password user.passwordHash = true

def PasswordShown (earlier : List AuthEvent) (preauthToken userId : String) : Prop :=
  ∃ event ∈ earlier, ∃ env username password user, event.input = .request env (.login username password) ∧
    event.output = some (.ok (.twoFactorRequired preauthToken)) ∧
    PasswordAccepted libs event.before username password user ∧ user.id = userId

def AssertionVerified (env : Env) (state : AuthState) (userId credential : String) : Prop :=
  ∃ webauthn pending result, state.webauthn = some webauthn ∧ webauthn.authState.lookup userId = some pending ∧
    env.authenticationFinish credential pending = .ok result

def Proved (earlier : List AuthEvent) (state : AuthState) (env : Env) (user : User) : AuthRequest → Prop
  | .login username password => PasswordAccepted libs state username password user ∧ user.totpEnabled = false
  | .twoFactorComplete preauthToken code =>
      PasswordShown libs earlier preauthToken user.id ∧ secondFactorAccepted libs env user code = true
  | .ldapLogin username password =>
      ∃ info, ldapIdentity config env username password = some info ∧ info.username = user.username
  | .oidcCallback stateKey code returnedState =>
      ∃ info, oidcIdentity env state stateKey code returnedState = some info ∧ oidcKey info = user.id
  | .loginComplete username credential =>
      state.users.get username = some user ∧ AssertionVerified env state user.id credential
  | _ => False

-- A refresh token goes back to a proof for an id when it was returned with one, or took the
-- place of a token that does.
inductive Rooted : List AuthEvent → String → String → Prop where
  | proved (earlier later : List AuthEvent) (event : AuthEvent) (env : Env) (request : AuthRequest) (user : User)
      (rawToken : String) (input : event.input = .request env request)
      (proved : Proved libs config earlier event.before env user request)
      (returned : event.output.bind mintedRefresh = some rawToken) : Rooted (earlier ++ event :: later) rawToken user.id
  | rotated (earlier later : List AuthEvent) (event : AuthEvent) (env : Env) (old userId : String)
      (issued : IssuedRefreshToken) (input : event.input = .request env (.refresh old)) (rooted : Rooted earlier old userId)
      (success : (rotation libs env event.before old).2 = some issued) :
      Rooted (earlier ++ event :: later) issued.token userId

-- Every token that was returned is for an account that the request proved, or for the id that
-- the refresh token presented goes back to.
def Accounted (trace : List AuthEvent) : Prop :=
  ∀ earlier event later env request jwt, trace = earlier ++ event :: later → event.input = .request env request →
    event.output.bind mintedJwt = some jwt →
    (∃ user, jwt.claims = claimsFor config env user ∧ Proved libs config earlier event.before env user request) ∨
      ∃ old, request = .refresh old ∧ Rooted libs config earlier old jwt.claims.sub

structure OriginsKnown (trace : List AuthEvent) (state : AuthState) : Prop where
  records : ∀ key record, state.refreshStore.lookup key = some record → ∃ rawToken ∈ tokensOf libs trace,
    record.tokenHash = libs.hashToken rawToken ∧ Rooted libs config trace rawToken record.userId
  preauth : ∀ preauthToken session, state.preauth.lookup preauthToken = some session →
    PasswordShown libs trace preauthToken session.userId
  oidc : ∀ key user, state.oidcUsers.lookup key = some user → user.id = key

theorem shown_append (trace more : List AuthEvent) (preauthToken userId : String)
    (shown : PasswordShown libs trace preauthToken userId) : PasswordShown libs (trace ++ more) preauthToken userId := by
  obtain ⟨event, member, login⟩ := shown
  exact ⟨event, List.mem_append_left _ member, login⟩

theorem rooted_append (trace more : List AuthEvent) (rawToken userId : String)
    (rooted : Rooted libs config trace rawToken userId) : Rooted libs config (trace ++ more) rawToken userId := by
  cases rooted with
  | proved earlier later event env request user rawToken input proved returned =>
      rw [List.append_assoc, List.cons_append]
      exact .proved earlier (later ++ more) event env request user rawToken input proved returned
  | rotated earlier later event env old userId issued input rooted success =>
      rw [List.append_assoc, List.cons_append]
      exact .rotated earlier (later ++ more) event env old userId issued input rooted success

section Requests

variable (env : Env) (state : AuthState)

theorem login_proved (username password : String) (user : User)
    (found : accountFor libs config env state (.login username password) = some user) :
    PasswordAccepted libs state username password user ∧ user.totpEnabled = false := by
  simp only [accountFor, accountRead, accountCreated] at found
  cases read : state.users.get username with
  | none => simp [read] at found
  | some account =>
      by_cases accepted : accountAccepted libs env state account (.login username password) = true
      · simp only [read, accepted, if_true, Option.some.injEq] at found
        subst account
        simp only [accountAccepted, Bool.and_eq_true, Bool.not_eq_true'] at accepted
        exact ⟨⟨read, accepted.1.1, accepted.1.2⟩, accepted.2⟩
      · simp [read, accepted] at found

theorem assertion_verified (userId credential : String)
    (accepted : (state.webauthn.any fun webauthn =>
      (webauthn.finishAuthentication userId (env.authenticationFinish credential) libs.updatePasskey).2.isOk) = true) :
    AssertionVerified env state userId credential := by
  cases present : state.webauthn with
  | none => simp [present] at accepted
  | some webauthn =>
      simp only [present, Option.any_some, WebauthnState.finishAuthentication] at accepted
      cases pending : webauthn.authState.lookup userId with
      | none => simp [pending, Except.isOk, Except.toBool] at accepted
      | some challenge =>
          cases finished : env.authenticationFinish credential challenge with
          | error reason => simp [pending, finished, Except.isOk, Except.toBool] at accepted
          | ok result => exact ⟨webauthn, challenge, result, present, pending, finished⟩

theorem assertion_proved (username credential : String) (user : User)
    (found : accountFor libs config env state (.loginComplete username credential) = some user) :
    state.users.get username = some user ∧ AssertionVerified env state user.id credential := by
  simp only [accountFor, accountRead, accountCreated] at found
  cases read : state.webauthn.bind fun _ => state.users.get username with
  | none => simp [read] at found
  | some account =>
      by_cases accepted : accountAccepted libs env state account (.loginComplete username credential) = true
      · simp only [read, accepted, if_true, Option.some.injEq] at found
        subst account
        obtain ⟨webauthn, _, stored⟩ := Option.bind_eq_some_iff.mp read
        exact ⟨stored, assertion_verified libs env state user.id credential accepted⟩
      · simp [read, accepted] at found

theorem callback_proved (stateKey code returnedState : String) (user : User)
    (keyed : ∀ key user, state.oidcUsers.lookup key = some user → user.id = key)
    (found : accountFor libs config env state (.oidcCallback stateKey code returnedState) = some user) :
    ∃ info, oidcIdentity env state stateKey code returnedState = some info ∧ oidcKey info = user.id := by
  simp only [accountFor, accountRead, accountCreated] at found
  cases identity : oidcIdentity env state stateKey code returnedState with
  | none => simp [identity] at found
  | some info =>
      refine ⟨info, rfl, ?_⟩
      simp only [identity, Option.bind_some, Option.map_some] at found
      cases known : state.oidcUsers.lookup (oidcKey info) with
      | none =>
          simp only [known, Option.some.injEq] at found
          rw [← found]
          rfl
      | some account =>
          simp only [known] at found
          split at found
          · rw [← Option.some.inj found]
            exact (keyed _ account known).symm
          · cases found

theorem completion_proved (earlier : List AuthEvent) (preauthToken code : String) (user : User)
    (shown : ∀ preauthToken session, state.preauth.lookup preauthToken = some session →
      PasswordShown libs earlier preauthToken session.userId)
    (found : accountFor libs config env state (.twoFactorComplete preauthToken code) = some user) :
    PasswordShown libs earlier preauthToken user.id ∧ secondFactorAccepted libs env user code = true := by
  obtain ⟨read, accepted⟩ := account_for_complete libs config env state preauthToken code user found
  refine ⟨?_, accepted⟩
  simp only [accountRead] at read
  obtain ⟨session, consumed, account⟩ := Option.bind_eq_some_iff.mp read
  rw [PreAuthStore.consume_visible] at consumed
  obtain ⟨held, visible, sameSession⟩ := Option.map_eq_some_iff.mp consumed
  have stored := (Option.filter_eq_some_iff.mp visible).1
  have sameId := (state.users.get_by_id_some session.userId user account).2
  rw [sameId, ← sameSession]
  exact shown preauthToken held stored

theorem account_proved (trace : List AuthEvent) (traced : OriginsKnown libs config trace state) (request : AuthRequest)
    (user : User) (free : usesTokens request = false) (found : accountFor libs config env state request = some user) :
    Proved libs config trace state env user request := by
  cases request with
  | login username password => exact login_proved libs config env state username password user found
  | twoFactorComplete preauthToken code =>
      exact completion_proved libs config env state trace preauthToken code user traced.preauth found
  | ldapLogin username password =>
      obtain ⟨info, identity, same, _⟩ := account_for_ldap libs config env state username password user found
      exact ⟨info, identity, same⟩
  | oidcCallback stateKey code returnedState =>
      exact callback_proved libs config env state stateKey code returnedState user traced.oidc found
  | loginComplete username credential => exact assertion_proved libs config env state username credential user found
  | refresh old => cases free
  | logout refreshToken => cases free
  | _ => simp [accountFor, accountRead, accountCreated] at found

theorem login_preauth_origin (username password preauthToken : String) (session : PreAuthSession)
    (stored : (login libs config env username password state).1.preauth.lookup preauthToken = some session) :
    state.preauth.lookup preauthToken = some session ∨
      ∃ user, PasswordAccepted libs state username password user ∧ user.id = session.userId ∧
        (login libs config env username password state).2 = .ok (.twoFactorRequired preauthToken) := by
  cases accepted : state.users.authenticate libs.verifyPassword username password with
  | none => exact Or.inl (by simpa only [login, accepted] using stored)
  | some user =>
      cases second : user.totpEnabled with
      | false =>
          simp only [login, accepted, second, Bool.false_eq_true, if_false, issue_session_preauth] at stored
          exact Or.inl stored
      | true =>
          simp only [login, accepted, second, if_true] at stored ⊢
          rw [PreAuthStore.lookup_issue] at stored
          split at stored
          · next same =>
              refine Or.inr ⟨user, ?_, ?_, by rw [same]⟩
              · unfold UserStore.authenticate at accepted
                cases read : state.users.get username with
                | none => simp [read] at accepted
                | some account =>
                    simp only [read] at accepted
                    split at accepted
                    · cases accepted
                    · next enabled =>
                        split at accepted
                        · next verified =>
                            cases accepted
                            exact ⟨read, by simpa using enabled, verified⟩
                        · cases accepted
              · rw [← Option.some.inj stored]
                rfl
          · exact Or.inl stored

theorem completion_preauth_origin (consumed code preauthToken : String) (session : PreAuthSession)
    (stored : (twoFactorComplete libs config env consumed code state).1.preauth.lookup preauthToken = some session) :
    state.preauth.lookup preauthToken = some session := by
  have after : (twoFactorComplete libs config env consumed code state).1.preauth =
      (PreAuthStore.consume consumed env.clock.checkedAt state.preauth).1 := by
    simp only [twoFactorComplete]
    split
    · rfl
    · split
      · rfl
      · split
        · rw [issue_session_preauth]
        · rfl
  rw [after, PreAuthStore.lookup_consume] at stored
  split at stored
  · cases stored
  · exact stored

end Requests

section Steps

variable (trace : List AuthEvent) (state : AuthState)

theorem step_preauth_shown (traced : OriginsKnown libs config trace state) (input : AuthInput) (preauthToken : String)
    (session : PreAuthSession)
    (stored : (authStep libs config state input).1.preauth.lookup preauthToken = some session) :
    PasswordShown libs (trace ++ [Machine.event (authMachine libs config) state input]) preauthToken session.userId := by
  have earlier (kept : state.preauth.lookup preauthToken = some session) :
      PasswordShown libs (trace ++ [Machine.event (authMachine libs config) state input]) preauthToken session.userId :=
    shown_append libs trace _ preauthToken session.userId (traced.preauth preauthToken session kept)
  cases input with
  | rehashUsers order => exact earlier stored
  | rehashTokens order => exact earlier stored
  | request env request =>
      cases changes : changesPreauth request with
      | false =>
          have frame := (handle_frame libs config env state request).preauth changes
          rw [authStep, frame] at stored
          exact earlier stored
      | true =>
          cases request with
          | login username password =>
              rcases login_preauth_origin libs config env state username password preauthToken session stored with
                kept | ⟨user, accepted, sameId, answered⟩
              · exact earlier kept
              · refine ⟨_, List.mem_append_right _ (List.mem_singleton_self _), env, username, password, user, rfl, ?_,
                  accepted, sameId⟩
                exact congrArg some answered
          | twoFactorComplete consumed code =>
              exact earlier (completion_preauth_origin libs config env state consumed code preauthToken session stored)
          | _ => cases changes

theorem step_oidc_keyed (traced : OriginsKnown libs config trace state) (input : AuthInput) (key : String) (user : User)
    (stored : (authStep libs config state input).1.oidcUsers.lookup key = some user) : user.id = key := by
  cases input with
  | rehashUsers order => exact traced.oidc key user stored
  | rehashTokens order => exact traced.oidc key user stored
  | request env request =>
      cases added : oidcAdded env state request with
      | none =>
          rw [authStep, handle_oidc_users libs config env state request added] at stored
          exact traced.oidc key user stored
      | some account =>
          rw [authStep, (oidc_added_new libs config env state request account added).2, Table.lookup_insert_eq] at stored
          split at stored
          · next same => rw [← Option.some.inj stored, same]
          · exact traced.oidc key user stored

end Steps

def InjectiveRun (start : AuthState) (inputs : List AuthInput) : Prop :=
  Set.InjOn libs.hashToken {rawToken | rawToken ∈ tokensOf libs ((authMachine libs config).trace start inputs)}

theorem injective_earlier (start : AuthState) (inputs : List AuthInput) (input : AuthInput)
    (injective : InjectiveRun libs config start (inputs ++ [input])) : InjectiveRun libs config start inputs := by
  apply Set.InjOn.mono _ injective
  intro rawToken used
  simp only [Set.mem_ofPred_eq, Machine.trace_snoc] at used ⊢
  exact (tokens_of_snoc libs _ _ rawToken).mpr (Or.inl used)

theorem rotated_rooted (start : AuthState) (inputs : List AuthInput) (env : Env) (old : String)
    (injective : InjectiveRun libs config start (inputs ++ [.request env (.refresh old)]))
    (traced : OriginsKnown libs config ((authMachine libs config).trace start inputs) ((authMachine libs config).run start inputs))
    (key : String) (record : StoredRefreshToken)
    (present : ((authMachine libs config).run start inputs).refreshStore.lookup key = some record)
    (hashed : record.tokenHash = libs.hashToken old) :
    Rooted libs config ((authMachine libs config).trace start inputs) old record.userId := by
  obtain ⟨rawToken, used, sameHash, rooted⟩ := traced.records key record present
  have later : rawToken ∈ tokensOf libs ((authMachine libs config).trace start
      (inputs ++ [.request env (.refresh old)])) := by
    rw [Machine.trace_snoc, tokens_of_snoc]
    exact Or.inl used
  have same := injective later (presented_used libs config start inputs env old) (sameHash.symm.trans hashed)
  exact same ▸ rooted

theorem step_records_rooted (start : AuthState) (inputs : List AuthInput) (input : AuthInput)
    (injective : InjectiveRun libs config start (inputs ++ [input]))
    (traced : OriginsKnown libs config ((authMachine libs config).trace start inputs) ((authMachine libs config).run start inputs))
    (key : String) (record : StoredRefreshToken)
    (present : (authStep libs config ((authMachine libs config).run start inputs) input).1.refreshStore.lookup key =
      some record) :
    ∃ rawToken ∈ tokensOf libs ((authMachine libs config).trace start inputs ++
        [Machine.event (authMachine libs config) ((authMachine libs config).run start inputs) input]),
      record.tokenHash = libs.hashToken rawToken ∧
      Rooted libs config ((authMachine libs config).trace start inputs ++
        [Machine.event (authMachine libs config) ((authMachine libs config).run start inputs) input])
        rawToken record.userId := by
  rcases step_record_origin libs config _ input key record present with
    ⟨earlier, before, revises⟩ |
    ⟨env, request, user, inputEq, free, found, userId, hashed, returned, moves⟩ |
    ⟨env, old, oldKey, earlier, issued, inputEq, before, oldHashed, rotated, token, userId, hashed⟩
  · obtain ⟨rawToken, used, sameHash, rooted⟩ := traced.records key earlier before
    refine ⟨rawToken, (tokens_of_snoc libs _ _ rawToken).mpr (Or.inl used), ?_, ?_⟩
    · rw [revises_hash earlier record revises, sameHash]
    · rw [revises_user earlier record revises]
      exact rooted_append libs config _ _ rawToken earlier.userId rooted
  · subst inputEq
    refine ⟨env.fresh.raw, ?_, hashed, ?_⟩
    · rw [tokens_of_snoc, token_moves_free libs config env _ request free, moves]
      exact Or.inr (by simp [usedTokens, drawn, issueMove, RefreshOp.draws])
    · rw [userId]
      have proved := account_proved libs config env _ _ traced request user free found
      exact .proved _ [] _ env request user env.fresh.raw rfl proved returned
  · subst inputEq
    have rooted := rotated_rooted libs config start inputs env old injective traced oldKey earlier before oldHashed
    refine ⟨env.fresh.raw, ?_, hashed, ?_⟩
    · rw [tokens_of_snoc]
      exact Or.inr (by simp [Machine.event, tokenMoves, usedTokens, drawn, RefreshOp.draws])
    · rw [← token, userId]
      exact .rotated _ [] _ env old earlier.userId issued rfl rooted rotated

section Runs

variable (users : UserStore) (webauthn : Option WebauthnState) (oidc : Option OidcService)

theorem run_origins_known (inputs : List AuthInput)
    (injective : InjectiveRun libs config (AuthState.initial users webauthn oidc) inputs) :
    OriginsKnown libs config ((authMachine libs config).trace (AuthState.initial users webauthn oidc) inputs)
      ((authMachine libs config).run (AuthState.initial users webauthn oidc) inputs) := by
  apply Machine.history (authMachine libs config) (AuthState.initial users webauthn oidc)
    (InjectiveRun libs config (AuthState.initial users webauthn oidc)) (OriginsKnown libs config)
  · exact injective_earlier libs config _
  · constructor
    · intro key record present
      cases present
    · intro preauthToken session present
      cases present
    · intro key user present
      cases present
  · intro inputs input injective traced
    exact ⟨step_records_rooted libs config _ inputs input injective traced,
      step_preauth_shown libs config _ _ traced input, step_oidc_keyed libs config _ _ traced input⟩
  · exact injective

theorem injective_take (start : AuthState) (earlier later : List AuthInput)
    (injective : InjectiveRun libs config start (earlier ++ later)) : InjectiveRun libs config start earlier := by
  induction later using List.reverseRecOn with
  | nil => simpa using injective
  | append_singleton later input ih =>
      rw [← List.append_assoc] at injective
      exact ih (injective_earlier libs config start (earlier ++ later) input injective)

theorem tokens_accounted (inputs : List AuthInput)
    (injective : InjectiveRun libs config (AuthState.initial users webauthn oidc) inputs) :
    Accounted libs config ((authMachine libs config).trace (AuthState.initial users webauthn oidc) inputs) := by
  intro earlier event later env request jwt split inputEq returned
  obtain ⟨before, input, after, inputsEq, rfl, rfl, _⟩ := Machine.trace_split _ _ inputs earlier later event split
  cases inputEq
  have upTo : InjectiveRun libs config (AuthState.initial users webauthn oidc) (before ++ [.request env request]) := by
    apply injective_take libs config _ _ after
    rw [List.append_assoc, List.singleton_append, ← inputsEq]
    exact injective
  have traced := run_origins_known libs config users webauthn oidc before (injective_earlier libs config _ before _ upTo)
  have minted := handle_jwt libs config env ((authMachine libs config).run (AuthState.initial users webauthn oidc) before)
    request
  obtain ⟨user, found, signedJwt⟩ := Option.bind_eq_some_iff.mp (minted.symm.trans returned)
  obtain ⟨text, _, rfl⟩ := Option.map_eq_some_iff.mp signedJwt
  cases free : usesTokens request with
  | false => exact Or.inl ⟨user, rfl, account_proved libs config env _ _ traced request user free found⟩
  | true =>
      cases request with
      | refresh old =>
          obtain ⟨issued, rotated, _, sameId⟩ := account_for_refresh libs config env _ old user found
          obtain ⟨key, record, present, hashed, owner⟩ := rotation_found libs env _ old issued rotated
          have rooted := rotated_rooted libs config _ before env old upTo traced key record present hashed
          rw [owner, ← sameId] at rooted
          exact Or.inr ⟨old, rfl, rooted⟩
      | logout refreshToken => simp [accountFor, accountRead, accountCreated] at found
      | _ => cases free

end Runs

-- The account that tokens are returned for is in its store afterwards, one that was just made up included.
section Held

variable (env : Env) (state : AuthState)

-- The accounts of the identity providers have a table of their own.
def StoredFor (request : AuthRequest) (state : AuthState) (user : User) : Prop :=
  match request with
  | .oidcCallback _ _ _ => ∃ key, state.oidcUsers.lookup key = some user
  | _ => ∃ name, state.users.get name = some user

def Truthful (trace : List AuthEvent) : Prop :=
  ∀ event ∈ trace, ∀ env request jwt, event.input = .request env request → event.output.bind mintedJwt = some jwt →
    ∃ user, StoredFor request event.after user ∧ jwt.claims = claimsFor config env user

theorem stored_unchanged (request : AuthRequest) (user : User) (username : String)
    (unchanged : changesUsers request = false) (stored : state.users.get username = some user) :
    ∃ name, (handle libs config env state request).1.users.get name = some user := by
  refine ⟨username, ?_⟩
  rw [(handle_frame libs config env state request).users unchanged]
  exact stored

theorem ldap_users_after (username password : String) (info : LdapUserInfo)
    (identity : ldapIdentity config env username password = some info) :
    (ldapLogin libs config env username password state).1.users =
      if (state.users.get info.username).isNone && config.ldap.autoCreate then
        (state.users.addUser (newLdapUser config env info)).1
      else state.users := by
  unfold ldapIdentity at identity
  split at identity
  · cases identity
  · next on =>
      simp only [ldapLogin, on, identity]
      cases read : state.users.get info.username with
      | none =>
          cases config.ldap.autoCreate with
          | false => rfl
          | true => exact issue_session_users libs config env _ _ _
      | some existing =>
          simp only [Option.isNone_some, Bool.false_and, Bool.false_eq_true, if_false]
          split
          · exact issue_session_users libs config env _ _ _
          · rfl

theorem ldap_stored (username password : String) (user : User)
    (found : accountFor libs config env state (.ldapLogin username password) = some user) :
    ∃ name, (handle libs config env state (.ldapLogin username password)).1.users.get name = some user := by
  obtain ⟨info, identity, same, read⟩ := account_for_ldap libs config env state username password user found
  have after := ldap_users_after libs config env state username password info identity
  refine ⟨info.username, ?_⟩
  change (ldapLogin libs config env username password state).1.users.get info.username = some user
  rcases read with absent | ⟨present, _⟩
  · simp only [accountFor, accountRead, accountCreated, identity, Option.bind_some, absent] at found
    split at found
    · next create =>
        rw [after, absent, create]
        simp only [Option.isNone_none, Bool.and_self, if_true]
        rw [← Option.some.inj found, add_user_absent state (newLdapUser config env info) absent, UserStore.get_insert_user]
        exact if_pos rfl
    · cases found
  · rw [after, present]
    exact present

theorem callback_stored (stateKey code returnedState : String) (user : User)
    (found : accountFor libs config env state (.oidcCallback stateKey code returnedState) = some user) :
    ∃ key, (handle libs config env state (.oidcCallback stateKey code returnedState)).1.oidcUsers.lookup key = some user := by
  have after := callback_oidc_users libs config env state stateKey code returnedState
  simp only [accountFor, accountRead, accountCreated] at found
  cases identity : oidcIdentity env state stateKey code returnedState with
  | none => simp [identity] at found
  | some info =>
      refine ⟨oidcKey info, ?_⟩
      change (oidcCallback libs config env stateKey code returnedState state).1.oidcUsers.lookup (oidcKey info) = some user
      simp only [identity, Option.bind_some, Option.map_some] at found
      cases known : state.oidcUsers.lookup (oidcKey info) with
      | none =>
          simp only [known, Option.some.injEq] at found
          simp only [after, oidcAdded, identity, Option.bind_some, known]
          rw [found, Table.lookup_insert_eq, if_pos (by rw [← found]; rfl)]
      | some account =>
          simp only [known] at found
          split at found
          · simp only [after, oidcAdded, identity, Option.bind_some, known]
            exact found
          · cases found

theorem account_stored (request : AuthRequest) (user : User)
    (found : accountFor libs config env state request = some user) :
    StoredFor request (handle libs config env state request).1 user := by
  cases request with
  | login username password =>
      have proved := (login_proved libs config env state username password user found).1
      exact stored_unchanged libs config env state _ user username rfl proved.stored
  | refresh old =>
      obtain ⟨issued, _, stored, _⟩ := account_for_refresh libs config env state old user found
      exact stored_unchanged libs config env state _ user user.username rfl stored
  | twoFactorComplete preauthToken code =>
      obtain ⟨read, _⟩ := account_for_complete libs config env state preauthToken code user found
      obtain ⟨session, _, byId⟩ := Option.bind_eq_some_iff.mp read
      have stored := (state.users.get_by_id_some session.userId user byId).1
      exact stored_unchanged libs config env state _ user user.username rfl stored
  | loginComplete username credential =>
      have stored := (assertion_proved libs config env state username credential user found).1
      exact stored_unchanged libs config env state _ user username rfl stored
  | ldapLogin username password => exact ldap_stored libs config env state username password user found
  | oidcCallback stateKey code returnedState =>
      exact callback_stored libs config env state stateKey code returnedState user found
  | _ => simp [accountFor, accountRead, accountCreated] at found

theorem tokens_truthful (start : AuthState) (inputs : List AuthInput) :
    Truthful config ((authMachine libs config).trace start inputs) := by
  intro event member env request jwt inputEq returned
  obtain ⟨earlier, later, _, eventEq⟩ := Machine.trace_event (authMachine libs config) start inputs event member
  rw [inputEq] at eventEq
  subst eventEq
  have minted := handle_jwt libs config env ((authMachine libs config).run start earlier) request
  obtain ⟨user, found, signedJwt⟩ := Option.bind_eq_some_iff.mp (minted.symm.trans returned)
  obtain ⟨text, _, rfl⟩ := Option.map_eq_some_iff.mp signedJwt
  exact ⟨user, account_stored libs config env _ request user found, rfl⟩

end Held

end Provenance

theorem completed_run_accounted :
    Accounted sampleLibs sampleConfig ((authMachine sampleLibs sampleConfig).trace enrolledStart completedRun) :=
  tokens_accounted sampleLibs sampleConfig _ none none completedRun completed_run_guarded.injective

end Moxui.Auth
