import Moxui.Auth.Accounts

set_option autoImplicit false

namespace Moxui.Auth

-- Who a config stands for once all of them are read: the last one with a username counts.
def lastConfig (configs : List UserConfig) (username : String) : Option UserConfig :=
  configs.reverse.find? fun config => config.username == username

def ConfigIdsDistinct (configs : List UserConfig) : Prop :=
  ∀ first second config other, lastConfig configs first = some config → lastConfig configs second = some other →
    config.id = other.id → first = second

namespace UserStore

def IdsUnique (store : UserStore) : Prop :=
  ∀ first second user other, store.get first = some user → store.get second = some other → user.id = other.id →
    first = second

-- Whoever is stored is what a search for the id finds, in whatever order it goes through the map.
structure IdsIdentify (store : UserStore) : Prop where
  unique : IdsUnique store
  found : ∀ name user, store.get name = some user → ∀ order, (store.rehash order).getById user.id = some user

theorem get_by_id_unique (store : UserStore) (unique : IdsUnique store) (name : String) (user : User)
    (present : store.get name = some user) : store.getById user.id = some user := by
  have entry := Table.find_entry_unique (fun found => found.id == user.id) store.users name user present
    (beq_self_eq_true user.id)
    (fun other account stored same => unique other name account user stored present (beq_iff_eq.mp same))
  simp only [getById, Table.findValue, entry, Option.map_some]

theorem ids_identify_of_unique (store : UserStore) (unique : IdsUnique store) : IdsIdentify store := by
  refine ⟨unique, ?_⟩
  intro name user present order
  have kept : IdsUnique (store.rehash order) := by
    intro first second account other
    rw [get_rehash, get_rehash]
    exact unique first second account other
  exact get_by_id_unique (store.rehash order) kept name user (by rw [get_rehash, present])

end UserStore

section Configs

variable (hashPassword : String → Except String String)

theorem last_config_snoc (configs : List UserConfig) (config : UserConfig) (username : String) :
    lastConfig (configs ++ [config]) username =
      if username = config.username then some config else lastConfig configs username := by
  simp only [lastConfig, List.reverse_append, List.reverse_singleton, List.singleton_append, List.find?_cons]
  by_cases same : username = config.username
  · simp [same]
  · rw [if_neg same, beq_eq_false_iff_ne.mpr (Ne.symm same)]

theorem from_config_named (config : UserConfig) (user : User) (read : User.fromConfig hashPassword config = .ok user) :
    user.username = config.username ∧ user.id = config.id := by
  unfold User.fromConfig at read
  split at read
  · cases read
  · split at read
    · cases read
    · cases read
      exact ⟨rfl, rfl⟩

theorem from_configs_snoc (configs : List UserConfig) (config : UserConfig) (users : List User)
    (read : (configs ++ [config]).mapM (User.fromConfig hashPassword) = .ok users) :
    ∃ earlier user, configs.mapM (User.fromConfig hashPassword) = .ok earlier ∧
      User.fromConfig hashPassword config = .ok user ∧ users = earlier ++ [user] := by
  rw [List.mapM_append, List.mapM_cons, List.mapM_nil] at read
  cases first : configs.mapM (User.fromConfig hashPassword) with
  | error reason =>
      rw [first] at read
      cases read
  | ok earlier =>
      cases last : User.fromConfig hashPassword config with
      | error reason =>
          rw [first, last] at read
          cases read
      | ok user =>
          rw [first, last] at read
          cases read
          exact ⟨earlier, user, rfl, rfl, rfl⟩

theorem get_with_users_snoc (users : List User) (user : User) (name : String) :
    (UserStore.withUsers (users ++ [user])).get name =
      if name = user.username then some user else (UserStore.withUsers users).get name := by
  simp only [UserStore.withUsers, UserStore.get, List.map_append, List.map_cons, List.map_nil, Table.collect,
    List.foldl_append, List.foldl_cons, List.foldl_nil]
  exact Table.lookup_insert_eq user.username name user _

theorem config_ids (configs : List UserConfig) (users : List User)
    (read : configs.mapM (User.fromConfig hashPassword) = .ok users) (name : String) :
    ((UserStore.withUsers users).get name).map User.id = (lastConfig configs name).map UserConfig.id := by
  induction configs using List.reverseRecOn generalizing users with
  | nil =>
      cases read
      rfl
  | append_singleton configs config ih =>
      obtain ⟨earlier, user, first, last, rfl⟩ := from_configs_snoc hashPassword configs config users read
      obtain ⟨named, same⟩ := from_config_named hashPassword config user last
      rw [get_with_users_snoc, last_config_snoc, named]
      by_cases chosen : name = config.username
      · rw [if_pos chosen, if_pos chosen, Option.map_some, Option.map_some, same]
      · rw [if_neg chosen, if_neg chosen]
        exact ih earlier first

theorem seeded_ids (configs : List UserConfig) (store : UserStore)
    (seeded : UserStore.fromConfigs hashPassword configs = .ok store) (name : String) :
    (store.get name).map User.id = (lastConfig configs name).map UserConfig.id := by
  unfold UserStore.fromConfigs at seeded
  cases read : configs.mapM (User.fromConfig hashPassword) with
  | error reason => simp [read] at seeded
  | ok users =>
      simp only [read, Except.ok.injEq] at seeded
      subst store
      exact config_ids hashPassword configs users read name

theorem seeded_unique_iff (configs : List UserConfig) (store : UserStore)
    (seeded : UserStore.fromConfigs hashPassword configs = .ok store) :
    store.IdsUnique ↔ ConfigIdsDistinct configs := by
  have ids := seeded_ids hashPassword configs store seeded
  refine ⟨?_, ?_⟩
  · intro unique first second config other atFirst atSecond same
    have firstId := ids first
    have secondId := ids second
    rw [atFirst, Option.map_some, Option.map_eq_some_iff] at firstId
    rw [atSecond, Option.map_some, Option.map_eq_some_iff] at secondId
    obtain ⟨user, stored, userId⟩ := firstId
    obtain ⟨account, storedToo, accountId⟩ := secondId
    exact unique first second user account stored storedToo (by rw [userId, accountId, same])
  · intro distinct first second user account stored storedToo same
    have firstId := (ids first).symm
    have secondId := (ids second).symm
    rw [stored, Option.map_some, Option.map_eq_some_iff] at firstId
    rw [storedToo, Option.map_some, Option.map_eq_some_iff] at secondId
    obtain ⟨config, atFirst, configId⟩ := firstId
    obtain ⟨other, atSecond, otherId⟩ := secondId
    exact distinct first second config other atFirst atSecond (by rw [configId, otherId, same])

end Configs

section Additions

variable (libs : Libs) (config : AuthConfig) (env : Env) (state : AuthState)

def accountRequested (claims : Claims) (request : CreateUserRequest) : Option User :=
  match requireRole claims .admin with
  | .error _ => none
  | .ok () =>
      match env.hashPassword request.password with
      | .error _ => none
      | .ok hash =>
          match Role.fromStr request.role with
          | .error _ => none
          | .ok role => some
              { id := request.id, username := request.username, displayName := request.displayName.getD ""
                email := request.email, passwordHash := hash, role := role, enabled := request.enabled
                totpSecret := none, totpEnabled := false, backupCodes := [] }

def accountOffered : AuthRequest → Option User
  | .createUser claims request => accountRequested env claims request
  | .ldapLogin username password => (ldapIdentity config env username password).bind fun info =>
      if config.ldap.autoCreate then some (newLdapUser config env info) else none
  | _ => none

def accountAdded (request : AuthRequest) : Option User :=
  (accountOffered config env request).filter fun user => (state.users.get user.username).isNone

def AddsUnusedId : AuthInput → Prop
  | .request env request => ∀ user, accountAdded config env state request = some user →
      ∀ name stored, state.users.get name = some stored → stored.id ≠ user.id
  | _ => True

def KeepsIds (before after : UserStore) : Prop :=
  ∀ name later, after.get name = some later → ∃ user, before.get name = some user ∧ user.id = later.id

theorem keeps_ids_refl (store : UserStore) : KeepsIds store store := by
  intro name later present
  exact ⟨later, present, rfl⟩

theorem keeps_ids_of_eq (before after : UserStore) (same : after = before) : KeepsIds before after :=
  same ▸ keeps_ids_refl before

theorem update_keeps_ids (username : String) (update : UserUpdate) (store : UserStore) :
    KeepsIds store (store.updateUser username update).1 := by
  intro name later present
  rw [UserStore.get_update_user] at present
  split at present
  · obtain ⟨user, stored, rfl⟩ := Option.map_eq_some_iff.mp present
    exact ⟨user, stored, (UserStore.apply_update_factor update user).id.symm⟩
  · exact ⟨later, present, rfl⟩

theorem delete_keeps_ids (username : String) (store : UserStore) : KeepsIds store (store.deleteUser username).1 := by
  intro name later present
  rw [UserStore.get_delete_user] at present
  split at present
  · cases present
  · exact ⟨later, present, rfl⟩

def AddsOrKeeps (request : AuthRequest) (after : AuthState) : Prop :=
  (∃ user, accountAdded config env state request = some user ∧ state.users.get user.username = none ∧
      after.users = state.users.insertUser user) ∨
    (accountAdded config env state request = none ∧ KeepsIds state.users after.users)

theorem add_user_absent (user : User) (absent : state.users.get user.username = none) :
    (state.users.addUser user).1 = state.users.insertUser user := by
  simp only [UserStore.addUser, absent]

theorem adds_absent (request : AuthRequest) (after : AuthState) (user : User)
    (offered : accountOffered config env request = some user) (absent : state.users.get user.username = none)
    (added : after.users = (state.users.addUser user).1) : AddsOrKeeps config env state request after := by
  refine Or.inl ⟨user, ?_, absent, added.trans (add_user_absent state user absent)⟩
  simp [accountAdded, offered, absent]

theorem keeps_taken (request : AuthRequest) (after : AuthState) (user : User)
    (offered : accountOffered config env request = some user) (taken : state.users.get user.username ≠ none)
    (same : after.users = state.users) : AddsOrKeeps config env state request after := by
  refine Or.inr ⟨?_, keeps_ids_of_eq _ _ same⟩
  simp [accountAdded, offered, taken]

theorem keeps_not_offered (request : AuthRequest) (after : AuthState)
    (offered : accountOffered config env request = none) (keeps : KeepsIds state.users after.users) :
    AddsOrKeeps config env state request after :=
  Or.inr ⟨by simp [accountAdded, offered], keeps⟩

theorem create_user_users_after (claims : Claims) (request : CreateUserRequest) :
    (createUser env claims request state).1.users =
      match accountRequested env claims request with
      | some user => (state.users.addUser user).1
      | none => state.users := by
  unfold createUser accountRequested
  cases requireRole claims .admin with
  | error refused => rfl
  | ok passed =>
      cases env.hashPassword request.password with
      | error reason => rfl
      | ok hash =>
          cases Role.fromStr request.role with
          | error reason => rfl
          | ok role =>
              dsimp only
              split <;> rfl

theorem create_user_adds (claims : Claims) (request : CreateUserRequest) :
    AddsOrKeeps config env state (.createUser claims request) (createUser env claims request state).1 := by
  have after := create_user_users_after env state claims request
  cases offered : accountRequested env claims request with
  | none =>
      rw [offered] at after
      exact keeps_not_offered config env state _ _ offered (keeps_ids_of_eq _ _ after)
  | some user =>
      rw [offered] at after
      cases stored : state.users.get user.username with
      | none => exact adds_absent config env state _ _ user offered stored after
      | some existing =>
          refine keeps_taken config env state _ _ user offered (by simp [stored]) (after.trans ?_)
          simp only [UserStore.addUser, stored]

theorem ldap_login_adds (username password : String) :
    AddsOrKeeps config env state (.ldapLogin username password)
      (ldapLogin libs config env username password state).1 := by
  by_cases off : (!config.ldap.enabled || config.ldap.url.isNone) = true
  · apply keeps_not_offered
    · simp [accountOffered, ldapIdentity, off]
    · exact keeps_ids_of_eq _ _ (by simp [ldapLogin, off])
  · cases identity : ldapResult env.directory config.ldap username password with
    | none =>
        apply keeps_not_offered
        · simp [accountOffered, ldapIdentity, off, identity]
        · exact keeps_ids_of_eq _ _ (by simp [ldapLogin, off, identity])
    | some info =>
        cases create : config.ldap.autoCreate with
        | false =>
            apply keeps_not_offered
            · simp [accountOffered, ldapIdentity, off, identity, create]
            · apply keeps_ids_of_eq
              simp only [ldapLogin, off, identity, create, Bool.false_eq_true, if_false]
              split
              · split
                · rw [issue_session_users]
                · rfl
              · rfl
        | true =>
            have offered : accountOffered config env (.ldapLogin username password) =
                some (newLdapUser config env info) := by
              simp [accountOffered, ldapIdentity, off, identity, create]
            cases stored : state.users.get info.username with
            | some existing =>
                apply keeps_taken config env state _ _ _ offered
                · rw [show (newLdapUser config env info).username = info.username from rfl, stored]
                  simp
                · simp only [ldapLogin, off, identity, stored, Bool.false_eq_true, if_false]
                  split
                  · rw [issue_session_users]
                  · rfl
            | none =>
                apply adds_absent config env state _ _ _ offered stored
                simp only [ldapLogin, off, identity, stored, create, Bool.false_eq_true, if_false, if_true]
                rw [issue_session_users]

theorem update_user_keeps (claims : Claims) (username : String) (request : UpdateUserRequest) :
    KeepsIds state.users (updateUser env claims username request state).1.users := by
  simp only [updateUser]
  split
  · exact keeps_ids_refl _
  · split
    · exact keeps_ids_refl _
    · split <;> exact update_keeps_ids username _ _

theorem delete_user_keeps (claims : Claims) (username : String) :
    KeepsIds state.users (deleteUser claims username state).1.users := by
  simp only [deleteUser]
  split
  · exact keeps_ids_refl _
  · split <;> exact delete_keeps_ids username _

theorem handle_adds (request : AuthRequest) :
    AddsOrKeeps config env state request (handle libs config env state request).1 := by
  cases request with
  | createUser claims request => exact create_user_adds config env state claims request
  | ldapLogin username password => exact ldap_login_adds libs config env state username password
  | updateUser claims username request =>
      exact keeps_not_offered config env state _ _ rfl (update_user_keeps env state claims username request)
  | deleteUser claims username =>
      exact keeps_not_offered config env state _ _ rfl (delete_user_keeps state claims username)
  | _ =>
      exact keeps_not_offered config env state _ _ rfl
        (keeps_ids_of_eq _ _ ((handle_frame libs config env state _).users rfl))

theorem insert_unique_iff (user : User) (absent : state.users.get user.username = none)
    (unique : state.users.IdsUnique) :
    (state.users.insertUser user).IdsUnique ↔ ∀ name stored, state.users.get name = some stored → stored.id ≠ user.id := by
  have other : ∀ name stored, state.users.get name = some stored → name ≠ user.username := by
    rintro name stored present rfl
    rw [absent] at present
    cases present
  refine ⟨?_, ?_⟩
  · intro kept name stored present same
    refine other name stored present (kept name user.username stored user ?_ ?_ same)
    · rw [UserStore.get_insert_user, if_neg (other name stored present), present]
    · rw [UserStore.get_insert_user, if_pos rfl]
  · intro unused first second account later atFirst atSecond same
    rw [UserStore.get_insert_user] at atFirst atSecond
    by_cases isFirst : first = user.username
    · by_cases isSecond : second = user.username
      · rw [isFirst, isSecond]
      · rw [if_pos isFirst, Option.some.injEq] at atFirst
        rw [if_neg isSecond] at atSecond
        exact absurd (by rw [← same, atFirst]) (unused second later atSecond)
    · rw [if_neg isFirst] at atFirst
      by_cases isSecond : second = user.username
      · rw [if_pos isSecond, Option.some.injEq] at atSecond
        exact absurd (by rw [same, atSecond]) (unused first account atFirst)
      · rw [if_neg isSecond] at atSecond
        exact unique first second account later atFirst atSecond same

theorem keeps_ids_unique (before after : UserStore) (unique : before.IdsUnique) (keeps : KeepsIds before after) :
    after.IdsUnique := by
  intro first second user other atFirst atSecond same
  obtain ⟨user', atFirst', sameUser⟩ := keeps first user atFirst
  obtain ⟨other', atSecond', sameOther⟩ := keeps second other atSecond
  exact unique first second user' other' atFirst' atSecond' (by rw [sameUser, sameOther, same])

theorem step_unique_iff (input : AuthInput) (unique : state.users.IdsUnique) :
    (authStep libs config state input).1.users.IdsUnique ↔ AddsUnusedId config state input := by
  cases input with
  | rehashUsers order =>
      simp only [AddsUnusedId, iff_true]
      intro first second user other atFirst atSecond same
      rw [authStep, UserStore.get_rehash] at atFirst atSecond
      exact unique first second user other atFirst atSecond same
  | rehashTokens order =>
      simp only [AddsUnusedId, iff_true]
      exact unique
  | request env request =>
      rcases handle_adds libs config env state request with ⟨user, added, absent, after⟩ | ⟨nothing, keeps⟩
      · simp only [AddsUnusedId, added, Option.some.injEq, forall_eq', authStep, after]
        exact insert_unique_iff state user absent unique
      · simp only [AddsUnusedId, nothing, reduceCtorEq, false_implies, implies_true, iff_true]
        exact keeps_ids_unique state.users _ unique keeps

end Additions

-- Ids identify accounts in every state of a run exactly when the configs that count have
-- distinct ids and no account is added under an id that a stored account has.
theorem ids_identify_iff (libs : Libs) (config : AuthConfig) (hashPassword : String → Except String String)
    (configs : List UserConfig) (store : UserStore) (webauthn : Option WebauthnState) (oidc : Option OidcService)
    (inputs : List AuthInput) (seeded : UserStore.fromConfigs hashPassword configs = .ok store) :
    (∀ earlier, earlier <+: inputs →
        ((authMachine libs config).run (AuthState.initial store webauthn oidc) earlier).users.IdsIdentify) ↔
      ConfigIdsDistinct configs ∧
        ∀ event ∈ (authMachine libs config).trace (AuthState.initial store webauthn oidc) inputs,
          AddsUnusedId config event.before event.input := by
  rw [← seeded_unique_iff hashPassword configs store seeded]
  have runs := Machine.prefixes_iff (authMachine libs config) (fun state => state.users.IdsUnique)
    (AddsUnusedId config) (fun state input unique => step_unique_iff libs config state input unique)
    (AuthState.initial store webauthn oidc) inputs
  refine Iff.trans ⟨?_, ?_⟩ runs
  · intro identify earlier before
    exact (identify earlier before).unique
  · intro unique earlier before
    exact UserStore.ids_identify_of_unique _ (unique earlier before)

def sampleUserConfig (id username : String) : UserConfig :=
  { id := id, username := username, displayName := "", email := none, role := "operator"
    passwordHash := some "$2a$05$CCCCCCCCCCCCCCCCCCCCC.E5YPO9kmyuRGyh0XouQYb4YMJKvyOeW", password := none
    enabled := true, allowedClusters := [] }

def noHash (_password : String) : Except String String :=
  .error "no password to hash"

def aliceAlone : UserStore :=
  { UserStore.withUsers [{ sampleUser "u-1" "alice" none with backupCodes := [] }] with
    allowedClusters := Table.collect [("alice", [])] }

def createBob (id : String) : AuthInput :=
  .request (sampleEnv 5 ⟨"r1", "t1"⟩) (.createUser adminClaims
    { id := id, username := "bob", displayName := none, email := none, role := "viewer", password := "U*U"
      enabled := true })

theorem ids_identify_alice_bob :
    (∀ earlier, earlier <+: [createBob "u-2"] →
        ((authMachine sampleLibs sampleConfig).run (AuthState.initial aliceAlone none none) earlier).users.IdsIdentify) ↔
      ConfigIdsDistinct [sampleUserConfig "u-1" "alice"] ∧
        ∀ event ∈ (authMachine sampleLibs sampleConfig).trace (AuthState.initial aliceAlone none none) [createBob "u-2"],
          AddsUnusedId sampleConfig event.before event.input :=
  ids_identify_iff sampleLibs sampleConfig noHash [sampleUserConfig "u-1" "alice"] aliceAlone none none
    [createBob "u-2"] (by rfl)

-- The admin gives bob the id that alice has.
theorem created_user_shares_id :
    ¬ ∀ earlier, earlier <+: [createBob "u-1"] →
        ((authMachine sampleLibs sampleConfig).run (AuthState.initial aliceAlone none none) earlier).users.IdsIdentify := by
  intro identify
  have unique := (identify [createBob "u-1"] (List.prefix_refl _)).unique
  have same := unique "alice" "bob" (sampleUser "u-1" "alice" none)
    { sampleUser "u-1" "bob" none with displayName := "", role := .viewer } (by decide) (by decide) rfl
  exact absurd same (by decide)

end Moxui.Auth
