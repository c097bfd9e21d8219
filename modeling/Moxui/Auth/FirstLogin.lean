import Moxui.Auth.Exchange

set_option autoImplicit false

namespace Moxui.Auth

-- Where an LDAP login stands: each step but the first and the last takes the store's lock once.
inductive LdapLoginCall where
  | called (username password : String)
  | verified (info : LdapUserInfo)
  | adding (created : User)
  | issuing (user : User)
  | returned (outcome : Outcome)

def LdapLoginCall.inFlight : LdapLoginCall → Bool
  | returned _ => false
  | _ => true

inductive AdminRequest where
  | createUser (claims : Claims) (request : CreateUserRequest)
  | updateUser (claims : Claims) (username : String) (request : UpdateUserRequest)
  | deleteUser (claims : Claims) (username : String)

structure FirstLogin where
  auth : AuthState
  call : LdapLoginCall

inductive LoginTurn where
  | admin (env : Env) (request : AdminRequest)
  | advance (env : Env)

section Overlap

variable (libs : Libs) (config : AuthConfig)

def administer (env : Env) (request : AdminRequest) (state : AuthState) : AuthState × Outcome :=
  match request with
  | .createUser claims request => createUser env claims request state
  | .updateUser claims username request => updateUser env claims username request state
  | .deleteUser claims username => deleteUser claims username state

def verifyStep (env : Env) (username password : String) : LdapLoginCall :=
  if !config.ldap.enabled || config.ldap.url.isNone then
    .returned (.error (unauthorizedResponse "LDAP authentication is not enabled"))
  else
    match ldapResult env.directory config.ldap username password with
    | none => .returned (.error (unauthorizedResponse "invalid LDAP username or password"))
    | some info => .verified info

def lookupStep (env : Env) (info : LdapUserInfo) (users : UserStore) : LdapLoginCall :=
  match users.get info.username with
  | some existing =>
      if existing.enabled then .issuing existing else .returned (.error (unauthorizedResponse "account is disabled"))
  | none =>
      if config.ldap.autoCreate then .adding (newLdapUser config env info)
      else .returned (.error (unauthorizedResponse "LDAP user not found locally and auto-create is disabled"))

-- What `add_user` answers is ignored.
def advanceLogin (env : Env) (state : FirstLogin) : FirstLogin :=
  match state.call with
  | .called username password => { state with call := verifyStep config env username password }
  | .verified info => { state with call := lookupStep config env info state.auth.users }
  | .adding created =>
      ⟨{ state.auth with users := (state.auth.users.addUser created).1 }, .issuing created⟩
  | .issuing user =>
      let issued := issueSession libs config env (internalResponse "failed to sign token") user state.auth
      ⟨issued.1, .returned issued.2⟩
  | .returned _ => state

def firstLogin : Machine FirstLogin LoginTurn Unit where
  step state turn :=
    match turn with
    | .admin env request => ({ state with auth := (administer env request state.auth).1 }, ())
    | .advance env => (advanceLogin libs config env state, ())

-- The handler is what its steps make of it when nothing comes between.
theorem login_uninterrupted (env : Env) (username password : String) (state : AuthState) :
    ∃ steps, (firstLogin libs config).run ⟨state, .called username password⟩ (List.replicate steps (.advance env)) =
      ⟨(ldapLogin libs config env username password state).1,
        .returned (ldapLogin libs config env username password state).2⟩ := by
  unfold ldapLogin
  by_cases disabled : (!config.ldap.enabled || config.ldap.url.isNone) = true
  · refine ⟨1, ?_⟩
    simp only [List.replicate, Machine.run, firstLogin, advanceLogin, verifyStep, if_pos disabled]
  · cases verified : ldapResult env.directory config.ldap username password with
    | none =>
        refine ⟨1, ?_⟩
        simp only [List.replicate, Machine.run, firstLogin, advanceLogin, verifyStep, if_neg disabled, verified]
    | some info =>
        cases found : state.users.get info.username with
        | some existing =>
            by_cases enabled : existing.enabled = true
            · refine ⟨3, ?_⟩
              simp only [List.replicate, Machine.run, firstLogin, advanceLogin, verifyStep, lookupStep, if_neg disabled,
                verified, found, if_pos enabled]
            · refine ⟨2, ?_⟩
              simp only [List.replicate, Machine.run, firstLogin, advanceLogin, verifyStep, lookupStep, if_neg disabled,
                verified, found, if_neg enabled]
        | none =>
            by_cases creates : config.ldap.autoCreate = true
            · refine ⟨4, ?_⟩
              simp only [List.replicate, Machine.run, firstLogin, advanceLogin, verifyStep, lookupStep, if_neg disabled,
                verified, found, if_pos creates]
            · refine ⟨2, ?_⟩
              simp only [List.replicate, Machine.run, firstLogin, advanceLogin, verifyStep, lookupStep, if_neg disabled,
                verified, found, if_neg creates]

abbrev LoginEvent : Type :=
  Machine.Event FirstLogin LoginTurn Unit

def Holds (users : UserStore) (user : User) : Prop :=
  ∃ account, users.get user.username = some account ∧ account.id = user.id ∧ account.role = user.role ∧
    account.enabled = true

def HeldAccount (past : List LoginEvent) (user : User) : Prop :=
  ∃ occurrence ∈ past, occurrence.before.call.inFlight = true ∧ Holds occurrence.before.auth.users user

-- The call came to add this account after somebody else had added one of its name.
def Overtaken (past : List LoginEvent) (user : User) : Prop :=
  ∃ occurrence ∈ past, occurrence.before.call = .adding user ∧ (∃ env, occurrence.input = .advance env) ∧
    (occurrence.before.auth.users.get user.username).isSome = true

def SignedFor (response : LoginResponse) (user : User) : Prop :=
  response.token.claims.sub = user.id ∧ response.token.claims.username = user.username ∧
    response.token.claims.role = user.role.asStr

-- What the token says is what an enabled account said that was stored during the call.
def TokenOfStored (trace : List LoginEvent) (final : FirstLogin) : Prop :=
  ∀ response, final.call = .returned (.ok (.session response)) →
    ∃ occurrence ∈ trace, occurrence.before.call.inFlight = true ∧
      ∃ account, occurrence.before.auth.users.get response.token.claims.username = some account ∧
        account.id = response.token.claims.sub ∧ account.role.asStr = response.token.claims.role ∧ account.enabled = true

def OvertakenByTheSame (trace : List LoginEvent) : Prop :=
  ∀ user, Overtaken trace user → HeldAccount trace user

def AccountedFor (past : List LoginEvent) (user : User) : Prop :=
  HeldAccount past user ∨ Overtaken past user

def Traced (past : List LoginEvent) (state : FirstLogin) : Prop :=
  match state.call with
  | .adding created => created.enabled = true
  | .issuing user => Holds state.auth.users user ∨ AccountedFor past user
  | .returned (.ok (.session response)) => ∃ user, SignedFor response user ∧ AccountedFor past user
  | _ => True

theorem held_later (past : List LoginEvent) (event : LoginEvent) (user : User) (held : HeldAccount past user) :
    HeldAccount (past ++ [event]) user := by
  obtain ⟨occurrence, member, holds⟩ := held
  exact ⟨occurrence, List.mem_append_left _ member, holds⟩

theorem accounted_later (past : List LoginEvent) (event : LoginEvent) (user : User) (accounted : AccountedFor past user) :
    AccountedFor (past ++ [event]) user := by
  rcases accounted with held | ⟨occurrence, member, overtaken⟩
  · exact Or.inl (held_later past event user held)
  · exact Or.inr ⟨occurrence, List.mem_append_left _ member, overtaken⟩

theorem accounted_now (past : List LoginEvent) (event : LoginEvent) (user : User)
    (inFlight : event.before.call.inFlight = true)
    (known : Holds event.before.auth.users user ∨ AccountedFor past user) : AccountedFor (past ++ [event]) user := by
  rcases known with holds | accounted
  · exact Or.inl ⟨event, by simp, inFlight, holds⟩
  · exact accounted_later past event user accounted

theorem session_signed (env : Env) (user : User) (state : AuthState) (response : LoginResponse)
    (issued : (issueSession libs config env (internalResponse "failed to sign token") user state).2 =
      .ok (.session response)) : SignedFor response user := by
  unfold issueSession at issued
  cases encoded : libs.jwtEncode (claimsFor config env user) with
  | error reason =>
      rw [encoded] at issued
      cases issued
  | ok text =>
      rw [encoded] at issued
      cases issued
      exact ⟨rfl, rfl, rfl⟩

variable (past : List LoginEvent) (state : FirstLogin)

theorem returned_later (event : LoginEvent) (after : FirstLogin) (outcome : Outcome)
    (stage : state.call = .returned outcome) (same : after.call = state.call) (traced : Traced past state) :
    Traced (past ++ [event]) after := by
  unfold Traced at traced ⊢
  rw [same, stage]
  rw [stage] at traced
  cases outcome with
  | error refused => trivial
  | ok reply =>
      cases reply with
      | session response =>
          obtain ⟨user, signed, accounted⟩ := traced
          exact ⟨user, signed, accounted_later past event user accounted⟩
      | _ => trivial

theorem admin_traced (env : Env) (request : AdminRequest) (traced : Traced past state) :
    Traced (past ++ [(firstLogin libs config).event state (.admin env request)])
      ((firstLogin libs config).step state (.admin env request)).1 := by
  have sameCall : ((firstLogin libs config).step state (.admin env request)).1.call = state.call := rfl
  cases stage : state.call with
  | returned outcome => exact returned_later past state _ _ outcome stage sameCall traced
  | issuing user =>
      unfold Traced at traced ⊢
      rw [sameCall, stage]
      rw [stage] at traced
      refine Or.inr (accounted_now past _ user ?_ traced)
      change state.call.inFlight = true
      rw [stage]
      rfl
  | adding created =>
      unfold Traced at traced ⊢
      rw [sameCall, stage]
      rwa [stage] at traced
  | called username password =>
      unfold Traced
      rw [sameCall, stage]
      trivial
  | verified info =>
      unfold Traced
      rw [sameCall, stage]
      trivial

theorem lookup_traced (event : LoginEvent) (env : Env) (info : LdapUserInfo) (users : UserStore)
    (same : event.after.auth.users = users) (entered : event.after.call = lookupStep config env info users) :
    Traced (past ++ [event]) event.after := by
  unfold Traced
  rw [entered]
  unfold lookupStep
  cases found : users.get info.username with
  | some existing =>
      by_cases enabled : existing.enabled = true
      · simp only [if_pos enabled]
        refine Or.inl ⟨existing, ?_, rfl, rfl, enabled⟩
        rw [same, UserStore.get_username users info.username existing found]
        exact found
      · simp only [if_neg enabled]
  | none =>
      by_cases creates : config.ldap.autoCreate = true
      · simp only [if_pos creates]
        rfl
      · simp only [if_neg creates]

theorem added_or_overtaken (created : User) (enabled : created.enabled = true) (env : Env) (stage : state.call = .adding created) :
    Traced (past ++ [(firstLogin libs config).event state (.advance env)])
      ((firstLogin libs config).step state (.advance env)).1 := by
  have after : ((firstLogin libs config).step state (.advance env)).1 =
      ⟨{ state.auth with users := (state.auth.users.addUser created).1 }, .issuing created⟩ := by
    simp only [firstLogin, advanceLogin, stage]
  rw [after]
  cases found : state.auth.users.get created.username with
  | none =>
      refine Or.inl ⟨created, ?_, rfl, rfl, enabled⟩
      simp only [UserStore.addUser, found, UserStore.get_insert_user, if_pos]
  | some other =>
      refine Or.inr (Or.inr ⟨(firstLogin libs config).event state (.advance env), by simp, stage, ⟨env, rfl⟩, ?_⟩)
      change (state.auth.users.get created.username).isSome = true
      rw [found]
      rfl

theorem called_traced (env : Env) (username password : String) (stage : state.call = .called username password) :
    Traced (past ++ [(firstLogin libs config).event state (.advance env)])
      ((firstLogin libs config).step state (.advance env)).1 := by
  have after : ((firstLogin libs config).step state (.advance env)).1.call =
      verifyStep config env username password := by
    simp only [firstLogin, advanceLogin, stage]
  unfold Traced
  rw [after]
  unfold verifyStep
  by_cases disabled : (!config.ldap.enabled || config.ldap.url.isNone) = true
  · simp only [if_pos disabled]
  · simp only [if_neg disabled]
    cases ldapResult env.directory config.ldap username password with
    | none => trivial
    | some info => trivial

theorem issued_traced (env : Env) (user : User) (stage : state.call = .issuing user) (traced : Traced past state) :
    Traced (past ++ [(firstLogin libs config).event state (.advance env)])
      ((firstLogin libs config).step state (.advance env)).1 := by
  have after : ((firstLogin libs config).step state (.advance env)).1.call =
      .returned (issueSession libs config env (internalResponse "failed to sign token") user state.auth).2 := by
    simp only [firstLogin, advanceLogin, stage]
  unfold Traced at traced ⊢
  rw [stage] at traced
  rw [after]
  cases outcome : (issueSession libs config env (internalResponse "failed to sign token") user state.auth).2 with
  | error refused => trivial
  | ok reply =>
      cases reply with
      | session response =>
          refine ⟨user, session_signed libs config env user state.auth response outcome, ?_⟩
          refine accounted_now past _ user ?_ traced
          change state.call.inFlight = true
          rw [stage]
          rfl
      | _ => trivial

theorem advance_traced (env : Env) (traced : Traced past state) :
    Traced (past ++ [(firstLogin libs config).event state (.advance env)])
      ((firstLogin libs config).step state (.advance env)).1 := by
  cases stage : state.call with
  | called username password => exact called_traced libs config past state env username password stage
  | verified info =>
      have after : ((firstLogin libs config).step state (.advance env)).1 =
          { state with call := lookupStep config env info state.auth.users } := by
        simp only [firstLogin, advanceLogin, stage]
      refine lookup_traced config past ((firstLogin libs config).event state (.advance env)) env info state.auth.users ?_ ?_
      · exact congrArg (fun entered => entered.auth.users) after
      · exact congrArg (fun entered => entered.call) after
  | adding created =>
      have enabled : created.enabled = true := by
        unfold Traced at traced
        rw [stage] at traced
        exact traced
      exact added_or_overtaken libs config past state created enabled env stage
  | issuing user => exact issued_traced libs config past state env user stage traced
  | returned outcome =>
      have after : ((firstLogin libs config).step state (.advance env)).1 = state := by
        simp only [firstLogin, advanceLogin, stage]
      exact returned_later past state _ _ outcome stage (congrArg FirstLogin.call after) traced

theorem run_traced (auth : AuthState) (username password : String) (turns : List LoginTurn) :
    Traced ((firstLogin libs config).trace ⟨auth, .called username password⟩ turns)
      ((firstLogin libs config).run ⟨auth, .called username password⟩ turns) := by
  refine Machine.history (firstLogin libs config) ⟨auth, .called username password⟩ (fun _ => True) Traced
    (fun _ _ _ => trivial) trivial ?_ turns trivial
  intro turns turn _ traced
  cases turn with
  | admin env request => exact admin_traced libs config _ _ env request traced
  | advance env => exact advance_traced libs config _ _ env traced

def SettledOn (user : User) (call : LdapLoginCall) : Prop :=
  call = .issuing user ∨ ∃ outcome, call = .returned outcome ∧
    ∀ response, outcome = .ok (.session response) → SignedFor response user

theorem step_settled (user : User) (turn : LoginTurn) (settled : SettledOn user state.call) :
    SettledOn user ((firstLogin libs config).step state turn).1.call := by
  cases turn with
  | admin env request => exact settled
  | advance env =>
      rcases settled with stage | ⟨outcome, stage, signed⟩
      · refine Or.inr ⟨(issueSession libs config env (internalResponse "failed to sign token") user state.auth).2, ?_, ?_⟩
        · simp only [firstLogin, advanceLogin, stage]
        · exact fun response issued => session_signed libs config env user state.auth response issued
      · refine Or.inr ⟨outcome, ?_, signed⟩
        simp only [firstLogin, advanceLogin, stage]

theorem run_settled (user : User) (turns : List LoginTurn) (settled : SettledOn user state.call) :
    SettledOn user ((firstLogin libs config).run state turns).call := by
  induction turns generalizing state with
  | nil => exact settled
  | cons turn turns ih => exact ih _ (step_settled libs config state user turn settled)

theorem overtaken_settled (start : FirstLogin) (turns : List LoginTurn) (user : User)
    (overtaken : Overtaken ((firstLogin libs config).trace start turns) user) :
    SettledOn user ((firstLogin libs config).run start turns).call := by
  obtain ⟨occurrence, member, stage, ⟨env, isInput⟩, _⟩ := overtaken
  obtain ⟨earlier, later, turnsEq, eventEq⟩ := Machine.trace_event (firstLogin libs config) start turns occurrence member
  rw [isInput] at turnsEq eventEq
  rw [eventEq] at stage
  change ((firstLogin libs config).run start earlier).call = .adding user at stage
  rw [turnsEq, Machine.run_append, Machine.run]
  refine run_settled libs config _ user later (Or.inl ?_)
  simp only [firstLogin, advanceLogin] at stage ⊢
  rw [stage]

theorem first_login_iff (auth : AuthState) (username password : String) (turns : List LoginTurn) (response : LoginResponse)
    (returned : ((firstLogin libs config).run ⟨auth, .called username password⟩ turns).call =
      .returned (.ok (.session response))) :
    TokenOfStored ((firstLogin libs config).trace ⟨auth, .called username password⟩ turns)
        ((firstLogin libs config).run ⟨auth, .called username password⟩ turns) ↔
      OvertakenByTheSame ((firstLogin libs config).trace ⟨auth, .called username password⟩ turns) := by
  constructor
  · intro stored user overtaken
    obtain ⟨occurrence, member, inFlight, account, present, sameId, sameRole, enabled⟩ := stored response returned
    have signed : SignedFor response user := by
      rcases overtaken_settled libs config _ turns user overtaken with issuing | ⟨outcome, finished, signed⟩
      · rw [returned] at issuing
        cases issuing
      · rw [returned, LdapLoginCall.returned.injEq] at finished
        exact signed response finished.symm
    refine ⟨occurrence, member, inFlight, account, ?_, ?_, ?_, enabled⟩
    · rw [← signed.2.1]
      exact present
    · rw [sameId, signed.1]
    · exact as_str_injective _ _ (sameRole.trans signed.2.2)
  · intro same found foundReturned
    rw [returned] at foundReturned
    cases foundReturned
    have traced := run_traced libs config auth username password turns
    unfold Traced at traced
    rw [returned] at traced
    obtain ⟨user, signed, accounted⟩ := traced
    have held : HeldAccount _ user := accounted.elim id (same user)
    obtain ⟨occurrence, member, inFlight, account, present, sameId, sameRole, enabled⟩ := held
    refine ⟨occurrence, member, inFlight, account, ?_, ?_, ?_, enabled⟩
    · rw [signed.2.1]
      exact present
    · rw [sameId, signed.1]
    · rw [sameRole, signed.2.2]

end Overlap

def aliceArrives : FirstLogin :=
  ⟨AuthState.initial (UserStore.withUsers []) none none, .called "alice" "correct"⟩

def aliceAdvances : LoginTurn :=
  .advance (sampleEnv 5 ⟨"r1", "t1"⟩)

def aliceLoggedIn : LoginResponse :=
  { token := ⟨⟨"ldap-alice", "alice", "viewer", 5, 3605⟩, "signed.ldap-alice"⟩, expiresIn := 3600
    user := { id := "ldap-alice", username := "alice", displayName := "alice", email := none, role := "viewer" }
    refreshToken := "t1" }

theorem alice_logs_in_alone :
    TokenOfStored ((firstLogin sampleLibs sampleConfig).trace aliceArrives (List.replicate 4 aliceAdvances))
        ((firstLogin sampleLibs sampleConfig).run aliceArrives (List.replicate 4 aliceAdvances)) ↔
      OvertakenByTheSame ((firstLogin sampleLibs sampleConfig).trace aliceArrives (List.replicate 4 aliceAdvances)) :=
  first_login_iff sampleLibs sampleConfig (AuthState.initial (UserStore.withUsers []) none none) "alice" "correct"
    (List.replicate 4 aliceAdvances) aliceLoggedIn (by rfl)

def createDisabledAlice : LoginTurn :=
  .admin (sampleEnv 5 ⟨"r2", "t2"⟩) (.createUser adminClaims
    { id := "u-1", username := "alice", displayName := none, email := none, role := "viewer", password := "U*U"
      enabled := false })

-- The admin adds a disabled alice while the directory's alice is on her way into the store.
def overtakenLogin : List LoginTurn :=
  [aliceAdvances, aliceAdvances, createDisabledAlice, aliceAdvances, aliceAdvances]

theorem token_of_no_account :
    ¬ TokenOfStored ((firstLogin sampleLibs sampleConfig).trace aliceArrives overtakenLogin)
      ((firstLogin sampleLibs sampleConfig).run aliceArrives overtakenLogin) := by
  intro stored
  obtain ⟨occurrence, member, _, account, present, sameId, _, _⟩ := stored aliceLoggedIn (by rfl)
  have everyId : ∀ event ∈ (firstLogin sampleLibs sampleConfig).trace aliceArrives overtakenLogin,
      ((event.before.auth.users.get "alice").all fun account => account.id == "u-1") = true := by decide
  have isAdmins := everyId occurrence member
  change occurrence.before.auth.users.get "alice" = some account at present
  rw [present] at isAdmins
  change (account.id == "u-1") = true at isAdmins
  rw [sameId] at isAdmins
  exact absurd isAdmins (by decide)

end Moxui.Auth
