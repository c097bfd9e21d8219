import Moxui.Auth.Accounts
import Moxui.Auth.Disabled

set_option autoImplicit false

namespace Moxui.Auth

section SecondFactor

variable (libs : Libs) (config : AuthConfig) (name : String)

def passwordPath : AuthRequest → Bool
  | .login _ _ => true
  | .ldapLogin _ _ => true
  | .twoFactorComplete _ _ => true
  | .refresh _ => true
  | .logout _ => true
  | .listUsers _ => true
  | .createUser _ _ => true
  | .updateUser _ _ _ => true
  | .deleteUser _ _ => true
  | _ => false

def OnPasswordPath (inputs : List AuthInput) : Prop :=
  ∀ env request, .request env request ∈ inputs → passwordPath request = true

def Enrolled (state : AuthState) : Prop :=
  ∃ account, state.users.get name = some account ∧ account.totpEnabled = true

def EnrolledThroughout (trace : List AuthEvent) : Prop :=
  ∀ event ∈ trace, Enrolled name event.before

def ReturnsFor (event : AuthEvent) (env : Env) (request : AuthRequest) (user : User) : Prop :=
  event.input = .request env request ∧ accountFor libs config env event.before request = some user ∧
    ∃ outcome, event.output = some outcome ∧ returnsTokens outcome = true

def CompletedFor (event : AuthEvent) (env : Env) (request : AuthRequest) : Prop :=
  ∃ preauthToken code user, request = .twoFactorComplete preauthToken code ∧
    accountRead libs config env event.before request = some user ∧ user.username = name ∧
    secondFactorAccepted libs env user code = true

-- A token is backed by the second factor of an account when it was returned by a completion
-- that accepted a code of it, or by the rotation of a backed token.
inductive Backed : List AuthEvent → String → Prop where
  | completed (earlier later : List AuthEvent) (event : AuthEvent) (env : Env) (request : AuthRequest)
      (rawToken : String) (input : event.input = .request env request)
      (completed : CompletedFor libs config name event env request)
      (returned : event.output.bind mintedRefresh = some rawToken) : Backed (earlier ++ event :: later) rawToken
  | rotated (earlier later : List AuthEvent) (event : AuthEvent) (env : Env) (old : String)
      (issued : IssuedRefreshToken) (input : event.input = .request env (.refresh old))
      (backed : Backed earlier old) (success : (rotation libs env event.before old).2 = some issued) :
      Backed (earlier ++ event :: later) issued.token

def SecondFactorHeld (trace : List AuthEvent) : Prop :=
  ∀ earlier event later env request user, trace = earlier ++ event :: later →
    ReturnsFor libs config event env request user → user.username = name →
    CompletedFor libs config name event env request ∨
      ∃ old, request = .refresh old ∧ Backed libs config name earlier old

-- The two ways around the second factor: the directory vouches for the account itself while
-- it is enabled, or somebody else who carries the account's id logs in.
structure NoWayAround (trace : List AuthEvent) : Prop where
  directory : ∀ event ∈ trace, ∀ env username password info account,
    event.input = .request env (.ldapLogin username password) →
    ldapIdentity config env username password = some info → info.username = name →
    event.before.users.get name = some account → account.enabled = false
  sharedId : ∀ event ∈ trace, ∀ env request user account, event.input = .request env request →
    usesTokens request = false → accountFor libs config env event.before request = some user →
    event.before.users.get name = some account → user.id = account.id → user.username = name

def tokensOf (trace : List AuthEvent) : List String :=
  usedTokens (Machine.movesOf (tokenMoves libs) trace)

theorem backed_append (trace more : List AuthEvent) (rawToken : String)
    (backed : Backed libs config name trace rawToken) : Backed libs config name (trace ++ more) rawToken := by
  cases backed with
  | completed earlier later event env request rawToken input completed returned =>
      rw [List.append_assoc, List.cons_append]
      exact .completed earlier (later ++ more) event env request rawToken input completed returned
  | rotated earlier later event env old issued input backed success =>
      rw [List.append_assoc, List.cons_append]
      exact .rotated earlier (later ++ more) event env old issued input backed success

theorem account_for_login (env : Env) (state : AuthState) (username password : String) (user : User)
    (found : accountFor libs config env state (.login username password) = some user) :
    state.users.get user.username = some user ∧ user.totpEnabled = false := by
  simp only [accountFor, accountRead, accountCreated] at found
  cases read : state.users.get username with
  | none => simp [read] at found
  | some account =>
      by_cases accepted : accountAccepted libs env state account (.login username password) = true
      · simp only [read, accepted, if_true, Option.some.injEq] at found
        subst account
        have named := state.users.get_username username user read
        simp only [accountAccepted, Bool.and_eq_true, Bool.not_eq_true'] at accepted
        exact ⟨by rw [named, read], accepted.2⟩
      · simp [read, accepted] at found

theorem account_for_ldap (env : Env) (state : AuthState) (username password : String) (user : User)
    (found : accountFor libs config env state (.ldapLogin username password) = some user) :
    ∃ info, ldapIdentity config env username password = some info ∧ info.username = user.username ∧
      (state.users.get info.username = none ∨ state.users.get info.username = some user ∧ user.enabled = true) := by
  simp only [accountFor, accountRead, accountCreated] at found
  cases identity : ldapIdentity config env username password with
  | none => simp [identity] at found
  | some info =>
      cases read : state.users.get info.username with
      | none =>
          by_cases create : config.ldap.autoCreate = true
          · simp only [identity, Option.bind_some, read, create, if_true, Option.some.injEq] at found
            exact ⟨info, rfl, by rw [← found]; rfl, Or.inl read⟩
          · simp [identity, read, create] at found
      | some account =>
          cases enabled : account.enabled with
          | false => simp [identity, read, accountAccepted, enabled] at found
          | true =>
              simp only [identity, Option.bind_some, read, accountAccepted, enabled, if_true,
                Option.some.injEq] at found
              subst account
              exact ⟨info, rfl, (state.users.get_username info.username user read).symm, Or.inr ⟨read, enabled⟩⟩

theorem account_for_complete (env : Env) (state : AuthState) (preauthToken code : String) (user : User)
    (found : accountFor libs config env state (.twoFactorComplete preauthToken code) = some user) :
    accountRead libs config env state (.twoFactorComplete preauthToken code) = some user ∧
      secondFactorAccepted libs env user code = true := by
  simp only [accountFor, accountCreated] at found
  cases read : accountRead libs config env state (.twoFactorComplete preauthToken code) with
  | none => simp [read] at found
  | some account =>
      cases accepted : secondFactorAccepted libs env account code with
      | false => simp [read, accountAccepted, accepted] at found
      | true =>
          simp only [read, accountAccepted, accepted, if_true, Option.some.injEq] at found
          subst account
          exact ⟨rfl, accepted⟩

theorem account_for_refresh (env : Env) (state : AuthState) (old : String) (user : User)
    (found : accountFor libs config env state (.refresh old) = some user) :
    ∃ issued, (rotation libs env state old).2 = some issued ∧ state.users.get user.username = some user ∧
      user.id = issued.userId := by
  simp only [accountFor, accountRead, accountCreated, accountAccepted, if_true] at found
  cases rotated : (rotation libs env state old).2 with
  | none => simp [rotated] at found
  | some issued =>
      refine ⟨issued, rfl, ?_⟩
      cases read : state.users.getById issued.userId with
      | none => simp [rotated, read] at found
      | some account =>
          simp only [rotated, Option.bind_some, read, Option.some.injEq] at found
          subst account
          exact state.users.get_by_id_some issued.userId user read

theorem rotation_found (env : Env) (state : AuthState) (old : String) (issued : IssuedRefreshToken)
    (rotated : (rotation libs env state old).2 = some issued) :
    ∃ key record, state.refreshStore.lookup key = some record ∧ record.tokenHash = libs.hashToken old ∧
      record.userId = issued.userId := by
  simp only [rotation] at rotated
  rcases rotate_cases libs.hashToken old RefreshStore.defaultTtlSecs env.clock.checkedAt env.fresh env.clock.storedAt
      state.refreshStore with
    nothing | ⟨key, record, present, hashed, revoked, replay⟩ | ⟨key, record, present, hashed, active, success⟩
  · simp [nothing] at rotated
  · simp [replay] at rotated
  · simp only [success, Option.some.injEq] at rotated
    exact ⟨key, record, present, hashed, by rw [← rotated]; rfl⟩

theorem returns_for_enrolled (event : AuthEvent) (env : Env) (request : AuthRequest) (user : User)
    (onPath : passwordPath request = true) (enrolled : Enrolled name event.before)
    (clear : ∀ username password info account, request = .ldapLogin username password →
      ldapIdentity config env username password = some info → info.username = name →
      event.before.users.get name = some account → account.enabled = false)
    (found : accountFor libs config env event.before request = some user) (named : user.username = name) :
    CompletedFor libs config name event env request ∨ ∃ old, request = .refresh old := by
  obtain ⟨account, stored, totp⟩ := enrolled
  cases request with
  | login username password =>
      obtain ⟨read, plain⟩ := account_for_login libs config env event.before username password user found
      rw [named, stored, Option.some.injEq] at read
      rw [read, plain] at totp
      cases totp
  | ldapLogin username password =>
      obtain ⟨info, identity, same, read⟩ := account_for_ldap libs config env event.before username password user found
      have vouched : info.username = name := same.trans named
      rw [vouched, stored] at read
      rcases read with absent | ⟨existing, enabled⟩
      · cases absent
      · rw [Option.some.injEq] at existing
        have disabled := clear username password info account rfl identity vouched stored
        rw [existing, enabled] at disabled
        cases disabled
  | twoFactorComplete preauthToken code =>
      obtain ⟨read, accepted⟩ := account_for_complete libs config env event.before preauthToken code user found
      exact Or.inl ⟨preauthToken, code, user, rfl, read, named, accepted⟩
  | refresh old => exact Or.inr ⟨old, rfl⟩
  | oidcCallback stateKey code returned => cases onPath
  | loginComplete username credential => cases onPath
  | _ => simp [accountFor, accountRead, accountCreated] at found

def RecordsBacked (trace : List AuthEvent) (state : AuthState) : Prop :=
  ∀ account, state.users.get name = some account → ∀ key record, state.refreshStore.lookup key = some record →
    record.userId = account.id → ∃ rawToken ∈ tokensOf libs trace,
      record.tokenHash = libs.hashToken rawToken ∧ Backed libs config name trace rawToken

structure GuardedRun (start : AuthState) (inputs : List AuthInput) : Prop where
  onPath : OnPasswordPath inputs
  enrolled : EnrolledThroughout name ((authMachine libs config).trace start inputs)
  clear : NoWayAround libs config name ((authMachine libs config).trace start inputs)
  injective : Set.InjOn libs.hashToken
    {rawToken | rawToken ∈ tokensOf libs ((authMachine libs config).trace start inputs)}

theorem tokens_of_snoc (trace : List AuthEvent) (event : AuthEvent) (rawToken : String) :
    rawToken ∈ tokensOf libs (trace ++ [event]) ↔
      rawToken ∈ tokensOf libs trace ∨ rawToken ∈ usedTokens (tokenMoves libs event) := by
  simp only [tokensOf, Machine.moves_snoc, usedTokens, drawn, List.flatMap_append, List.map_append, List.mem_append]
  tauto

theorem guarded_earlier (start : AuthState) (inputs : List AuthInput) (input : AuthInput)
    (guarded : GuardedRun libs config name start (inputs ++ [input])) : GuardedRun libs config name start inputs := by
  have split := Machine.trace_snoc (authMachine libs config) start inputs input
  constructor
  · exact fun env request member => guarded.onPath env request (List.mem_append_left _ member)
  · intro event member
    exact guarded.enrolled event (by rw [split]; exact List.mem_append_left _ member)
  · constructor
    · intro event member
      exact guarded.clear.directory event (by rw [split]; exact List.mem_append_left _ member)
    · intro event member
      exact guarded.clear.sharedId event (by rw [split]; exact List.mem_append_left _ member)
  · apply guarded.injective.mono
    intro rawToken used
    simp only [Set.mem_ofPred_eq, split] at used ⊢
    exact (tokens_of_snoc libs _ _ rawToken).mpr (Or.inl used)

theorem mem_last (start : AuthState) (inputs : List AuthInput) (input : AuthInput) :
    Machine.event (authMachine libs config) ((authMachine libs config).run start inputs) input ∈
      (authMachine libs config).trace start (inputs ++ [input]) := by
  rw [Machine.trace_snoc]
  exact List.mem_append_right _ (List.mem_singleton_self _)

theorem presented_used (start : AuthState) (inputs : List AuthInput) (env : Env) (old : String) :
    old ∈ tokensOf libs ((authMachine libs config).trace start (inputs ++ [.request env (.refresh old)])) := by
  rw [Machine.trace_snoc, tokens_of_snoc]
  refine Or.inr ?_
  simp [Machine.event, tokenMoves, usedTokens, RefreshOp.presented]

theorem rotated_backed (start : AuthState) (inputs : List AuthInput) (env : Env) (old : String)
    (guarded : GuardedRun libs config name start (inputs ++ [.request env (.refresh old)]))
    (backed : RecordsBacked libs config name ((authMachine libs config).trace start inputs)
      ((authMachine libs config).run start inputs))
    (account : User) (stored : ((authMachine libs config).run start inputs).users.get name = some account)
    (key : String) (record : StoredRefreshToken)
    (present : ((authMachine libs config).run start inputs).refreshStore.lookup key = some record)
    (hashed : record.tokenHash = libs.hashToken old) (owned : record.userId = account.id) :
    Backed libs config name ((authMachine libs config).trace start inputs) old := by
  obtain ⟨rawToken, used, sameHash, chain⟩ := backed account stored key record present owned
  have later : rawToken ∈ tokensOf libs ((authMachine libs config).trace start
      (inputs ++ [.request env (.refresh old)])) := by
    rw [Machine.trace_snoc, tokens_of_snoc]
    exact Or.inl used
  have same := guarded.injective later (presented_used libs config start inputs env old)
    (sameHash.symm.trans hashed)
  exact same ▸ chain

theorem records_backed_step (start : AuthState) (inputs : List AuthInput) (input : AuthInput)
    (guarded : GuardedRun libs config name start (inputs ++ [input]))
    (backed : RecordsBacked libs config name ((authMachine libs config).trace start inputs)
      ((authMachine libs config).run start inputs)) :
    RecordsBacked libs config name
      ((authMachine libs config).trace start inputs ++
        [Machine.event (authMachine libs config) ((authMachine libs config).run start inputs) input])
      ((authMachine libs config).step ((authMachine libs config).run start inputs) input).1 := by
  intro later laterStored key record present owned
  have member := mem_last libs config start inputs input
  obtain ⟨account, stored, totp⟩ := guarded.enrolled _ member
  have factor := users_change_factor _ _ (step_users_change libs config _ input) name account later stored laterStored
  rcases step_record_origin libs config _ input key record present with
    ⟨earlier, before, revises⟩ |
    ⟨env, request, user, inputEq, free, found, userId, hashed, returned, moves⟩ |
    ⟨env, old, oldKey, earlier, issued, inputEq, before, oldHashed, rotated, token, userId, hashed⟩
  · have sameOwner : earlier.userId = account.id := by
      rw [← revises_user earlier record revises, owned, factor.id]
    obtain ⟨rawToken, used, sameHash, chain⟩ := backed account stored key earlier before sameOwner
    refine ⟨rawToken, (tokens_of_snoc libs _ _ rawToken).mpr (Or.inl used), ?_, ?_⟩
    · rw [revises_hash earlier record revises, sameHash]
    · exact backed_append libs config name _ _ rawToken chain
  · subst input
    have sameId : user.id = account.id := by rw [← userId, owned, factor.id]
    have named := guarded.clear.sharedId _ member env request user account rfl free found stored sameId
    have onPath := guarded.onPath env request (List.mem_append_right _ (List.mem_singleton_self _))
    have clear : ∀ username password info account, request = .ldapLogin username password →
        ldapIdentity config env username password = some info → info.username = name →
        ((authMachine libs config).run start inputs).users.get name = some account → account.enabled = false := by
      rintro username password info account rfl
      exact guarded.clear.directory _ member env username password info account rfl
    rcases returns_for_enrolled libs config name _ env request user onPath ⟨account, stored, totp⟩ clear found named with
      completed | ⟨old, same⟩
    · refine ⟨env.fresh.raw, ?_, hashed, .completed _ [] _ env request env.fresh.raw rfl completed ?_⟩
      · rw [tokens_of_snoc, token_moves_free libs config env _ request free, moves]
        exact Or.inr (by simp [usedTokens, drawn, issueMove, RefreshOp.draws])
      · exact returned
    · subst request
      cases free
  · subst input
    have sameOwner : earlier.userId = account.id := by rw [← userId, owned, factor.id]
    have chain := rotated_backed libs config name start inputs env old guarded backed account stored oldKey earlier
      before oldHashed sameOwner
    refine ⟨env.fresh.raw, ?_, hashed, ?_⟩
    · rw [tokens_of_snoc]
      exact Or.inr (by simp [Machine.event, tokenMoves, usedTokens, drawn, RefreshOp.draws])
    · rw [← token]
      exact .rotated _ [] _ env old issued rfl chain rotated

theorem records_backed (users : UserStore) (webauthn : Option WebauthnState) (oidc : Option OidcService)
    (inputs : List AuthInput) (guarded : GuardedRun libs config name (AuthState.initial users webauthn oidc) inputs) :
    RecordsBacked libs config name ((authMachine libs config).trace (AuthState.initial users webauthn oidc) inputs)
      ((authMachine libs config).run (AuthState.initial users webauthn oidc) inputs) := by
  apply Machine.history (authMachine libs config) (AuthState.initial users webauthn oidc)
    (GuardedRun libs config name (AuthState.initial users webauthn oidc)) (RecordsBacked libs config name)
  · exact guarded_earlier libs config name _
  · intro account stored key record present
    cases present
  · exact records_backed_step libs config name _
  · exact guarded

theorem guarded_take (start : AuthState) (earlier later : List AuthInput)
    (guarded : GuardedRun libs config name start (earlier ++ later)) : GuardedRun libs config name start earlier := by
  induction later using List.reverseRecOn with
  | nil => simpa using guarded
  | append_singleton later input ih =>
      rw [← List.append_assoc] at guarded
      exact ih (guarded_earlier libs config name start (earlier ++ later) input guarded)

theorem second_factor_held (users : UserStore) (webauthn : Option WebauthnState) (oidc : Option OidcService)
    (inputs : List AuthInput) (guarded : GuardedRun libs config name (AuthState.initial users webauthn oidc) inputs) :
    SecondFactorHeld libs config name
      ((authMachine libs config).trace (AuthState.initial users webauthn oidc) inputs) := by
  intro earlier event later env request user split returns named
  obtain ⟨before, input, after, inputsEq, rfl, rfl, _⟩ := Machine.trace_split _ _ inputs earlier later event split
  have upTo : GuardedRun libs config name (AuthState.initial users webauthn oidc) (before ++ [input]) := by
    apply guarded_take libs config name _ _ after
    rw [List.append_assoc, List.singleton_append, ← inputsEq]
    exact guarded
  obtain ⟨inputEq, found, _⟩ := returns
  cases inputEq
  have member := mem_last libs config (AuthState.initial users webauthn oidc) before (.request env request)
  have enrolled := upTo.enrolled _ member
  have onPath := upTo.onPath env request (List.mem_append_right _ (List.mem_singleton_self _))
  have clear : ∀ username password info account, request = .ldapLogin username password →
      ldapIdentity config env username password = some info → info.username = name →
      ((authMachine libs config).run (AuthState.initial users webauthn oidc) before).users.get name = some account →
      account.enabled = false := by
    rintro username password info account rfl
    exact upTo.clear.directory _ member env username password info account rfl
  rcases returns_for_enrolled libs config name _ env request user onPath enrolled clear found named with
    completed | ⟨old, rfl⟩
  · exact Or.inl completed
  · obtain ⟨issued, rotated, stored, userId⟩ := account_for_refresh libs config env _ old user found
    obtain ⟨key, record, present, hashed, owner⟩ := rotation_found libs env _ old issued rotated
    rw [named] at stored
    have backed := records_backed libs config name users webauthn oidc before
      (guarded_earlier libs config name _ before _ upTo)
    exact Or.inr ⟨old, rfl, rotated_backed libs config name _ before env old upTo backed user stored key record present
      hashed (owner.trans userId.symm)⟩

end SecondFactor

def enrolledAlice : User :=
  sampleUser "u-alice" "alice" (some "GEZDGNBVGY3TQOJQGEZDGNBVGY3TQOJQ")

def enrolledStart : AuthState :=
  AuthState.initial (UserStore.withUsers [enrolledAlice]) none none

-- Password, then the code of RFC 6238 for second 59, then a refresh.
def completedRun : List AuthInput :=
  [.request (sampleEnv 50 ⟨"r1", "t1"⟩) (.login "alice" "U*U"),
    .request (sampleEnv 59 ⟨"r2", "t2"⟩) (.twoFactorComplete "preauth-r1" "287082"),
    .request (sampleEnv 60 ⟨"r3", "t3"⟩) (.refresh "t2")]

theorem completed_run_events (event : AuthEvent)
    (member : event ∈ (authMachine sampleLibs sampleConfig).trace enrolledStart completedRun) :
    event.before.users.get "alice" = some enrolledAlice ∧
      ∀ env request, event.input = .request env request →
        accountFor sampleLibs sampleConfig env event.before request = none ∨
          accountFor sampleLibs sampleConfig env event.before request = some enrolledAlice := by
  simp only [completedRun, Machine.trace, List.mem_cons, List.not_mem_nil, or_false] at member
  rcases member with rfl | rfl | rfl
  · refine ⟨by decide, ?_⟩
    intro env request input
    cases input
    exact Or.inl (by decide)
  · refine ⟨by decide, ?_⟩
    intro env request input
    cases input
    exact Or.inr (by decide)
  · refine ⟨by decide, ?_⟩
    intro env request input
    cases input
    exact Or.inr (by decide)

theorem completed_run_guarded : GuardedRun sampleLibs sampleConfig "alice" enrolledStart completedRun := by
  constructor
  · intro env request member
    simp only [completedRun, List.mem_cons, List.not_mem_nil, or_false, AuthInput.request.injEq] at member
    rcases member with ⟨_, rfl⟩ | ⟨_, rfl⟩ | ⟨_, rfl⟩ <;> rfl
  · intro event member
    exact ⟨enrolledAlice, (completed_run_events event member).1, rfl⟩
  · constructor
    · intro event member env username password info account input
      simp only [completedRun, Machine.trace, List.mem_cons, List.not_mem_nil, or_false] at member
      rcases member with rfl | rfl | rfl <;> cases input
    · intro event member env request user account input free found stored same
      rcases (completed_run_events event member).2 env request input with nobody | alice
      · rw [nobody] at found
        cases found
      · rw [alice, Option.some.injEq] at found
        rw [← found]
        rfl
  · have distinct : ∀ first ∈ tokensOf sampleLibs ((authMachine sampleLibs sampleConfig).trace enrolledStart completedRun),
        ∀ second ∈ tokensOf sampleLibs ((authMachine sampleLibs sampleConfig).trace enrolledStart completedRun),
        sampleHash first = sampleHash second → first = second := by decide
    exact fun first firstUsed second secondUsed same => distinct first firstUsed second secondUsed same

theorem second_factor_held_completed_run :
    SecondFactorHeld sampleLibs sampleConfig "alice"
      ((authMachine sampleLibs sampleConfig).trace enrolledStart completedRun) :=
  second_factor_held sampleLibs sampleConfig "alice" _ none none completedRun completed_run_guarded

-- The directory accepts alice's password; the server hands out tokens without asking for a code.
def directoryRun : List AuthInput :=
  [.request (sampleEnv 0 ⟨"r1", "t1"⟩) (.ldapLogin "alice" "correct")]

theorem ldap_login_skips_second_factor :
    OnPasswordPath directoryRun ∧
      EnrolledThroughout "alice" ((authMachine sampleLibs sampleConfig).trace enrolledStart directoryRun) ∧
      ¬ SecondFactorHeld sampleLibs sampleConfig "alice"
        ((authMachine sampleLibs sampleConfig).trace enrolledStart directoryRun) := by
  refine ⟨?_, ?_, ?_⟩
  · intro env request member
    simp only [directoryRun, List.mem_cons, List.not_mem_nil, or_false, AuthInput.request.injEq] at member
    obtain ⟨_, rfl⟩ := member
    rfl
  · intro event member
    simp only [directoryRun, Machine.trace, List.mem_cons, List.not_mem_nil, or_false] at member
    subst event
    exact ⟨enrolledAlice, by decide, rfl⟩
  · intro held
    have returned : ReturnsFor sampleLibs sampleConfig
        (Machine.event (authMachine sampleLibs sampleConfig) enrolledStart
          (.request (sampleEnv 0 ⟨"r1", "t1"⟩) (.ldapLogin "alice" "correct")))
        (sampleEnv 0 ⟨"r1", "t1"⟩) (.ldapLogin "alice" "correct") enrolledAlice :=
      ⟨rfl, by decide, _, rfl, by decide⟩
    rcases held [] _ [] _ _ enrolledAlice rfl returned rfl with ⟨preauthToken, code, user, request, _⟩ | ⟨old, request, _⟩
    · cases request
    · cases request

end Moxui.Auth
