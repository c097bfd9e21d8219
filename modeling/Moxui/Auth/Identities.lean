import Moxui.Auth.UserIds
import Moxui.Auth.Exchange

set_option autoImplicit false

namespace Moxui.Auth

def Stored (state : AuthState) (user : User) : Prop :=
  (∃ name, state.users.get name = some user) ∨ ∃ key, state.oidcUsers.lookup key = some user

def IdentitiesSeparate (state : AuthState) : Prop :=
  ∀ user other, Stored state user → Stored state other → user.username = other.username → user.id = other.id

section Identities

variable (libs : Libs) (config : AuthConfig) (env : Env) (state : AuthState)

def oidcAdded : AuthRequest → Option User
  | .oidcCallback stateKey code returnedState => (oidcIdentity env state stateKey code returnedState).bind fun info =>
      match state.oidcUsers.lookup (oidcKey info) with
      | some _ => none
      | none => some (newOidcUser env (oidcKey info) info)
  | _ => none

def identityAdded (request : AuthRequest) : Option User :=
  (accountAdded config env state request).or (oidcAdded env state request)

-- The new account has a username that no account of either store has under another id.
def AddsOwnIdentity : AuthInput → Prop
  | .request env request => ∀ user, identityAdded config env state request = some user →
      ∀ stored, Stored state stored → stored.username = user.username → stored.id = user.id
  | _ => True

theorem issue_session_oidc_users (failure : ApiError) (user : User) :
    (issueSession libs config env failure user state).1.oidcUsers = state.oidcUsers := by
  simp only [issueSession]
  split <;> rfl

theorem callback_oidc_users (stateKey code returned : String) :
    (oidcCallback libs config env stateKey code returned state).1.oidcUsers =
      match oidcAdded env state (.oidcCallback stateKey code returned) with
      | some user => state.oidcUsers.insert user.id user
      | none => state.oidcUsers := by
  cases configured : state.oidc with
  | none => simp only [oidcCallback, oidcAdded, oidcIdentity, configured, Option.bind_none]
  | some service =>
      cases handled : (OidcService.handleCallback stateKey code returned env.clock.oidcAt env.exchange service).2 with
      | error reason =>
          simp only [oidcCallback, oidcAdded, oidcIdentity, configured, handled, Option.bind_some, Except.toOption,
            Option.bind_none]
      | ok info =>
          cases known : state.oidcUsers.lookup (oidcKey info) with
          | none =>
              simp only [oidcCallback, oidcAdded, oidcIdentity, configured, handled, Option.bind_some, Except.toOption,
                known, issue_session_oidc_users]
              rfl
          | some existing =>
              simp only [oidcCallback, oidcAdded, oidcIdentity, configured, handled, Option.bind_some, Except.toOption,
                known]
              split
              · exact issue_session_oidc_users libs config env _ _ _
              · rfl

theorem handle_oidc_users (request : AuthRequest) (noCallback : oidcAdded env state request = none) :
    (handle libs config env state request).1.oidcUsers = state.oidcUsers := by
  cases request with
  | oidcCallback stateKey code returned =>
      have after := callback_oidc_users libs config env state stateKey code returned
      rw [noCallback] at after
      exact after
  | login username password =>
      simp only [handle, login]
      split
      · rfl
      · split
        · rfl
        · exact issue_session_oidc_users libs config env _ _ _
  | twoFactorComplete preauthToken code =>
      simp only [handle, twoFactorComplete]
      split
      · rfl
      · split
        · rfl
        · split
          · rw [issue_session_oidc_users]
          · rfl
  | loginComplete username credential =>
      simp only [handle, loginComplete]
      split
      · rfl
      · split
        · rfl
        · split
          · rfl
          · exact issue_session_oidc_users libs config env _ _ _
  | ldapLogin username password =>
      simp only [handle, ldapLogin]
      split
      · rfl
      · split
        · rfl
        · split
          · split
            · exact issue_session_oidc_users libs config env _ _ _
            · rfl
          · split
            · rw [issue_session_oidc_users]
            · rfl
  | twoFactorSetup claims => rfl
  | _ =>
      simp only [handle, refresh, logout, twoFactorVerify, twoFactorDisable, oidcLogin, registerStart, registerComplete,
        loginStart, listUsers, createUser, updateUser, deleteUser]
      repeat' split
      all_goals rfl

theorem local_or_oidc (request : AuthRequest) (user : User) (added : accountAdded config env state request = some user) :
    oidcAdded env state request = none := by
  cases request with
  | oidcCallback stateKey code returned => cases added
  | _ => rfl

theorem oidc_added_new (request : AuthRequest) (user : User) (added : oidcAdded env state request = some user) :
    state.oidcUsers.lookup user.id = none ∧
      (handle libs config env state request).1.oidcUsers = state.oidcUsers.insert user.id user := by
  cases request with
  | oidcCallback stateKey code returned =>
      have after := callback_oidc_users libs config env state stateKey code returned
      rw [added] at after
      refine ⟨?_, after⟩
      obtain ⟨info, _, found⟩ := Option.bind_eq_some_iff.mp added
      cases known : state.oidcUsers.lookup (oidcKey info) with
      | some existing =>
          rw [known] at found
          cases found
      | none =>
          rw [known] at found
          cases found
          exact known
  | _ => cases added

inductive StoredChange (request : AuthRequest) (after : AuthState) : Prop where
  | added (user : User) (brings : identityAdded config env state request = some user)
      (stored : ∀ account, Stored after account ↔ Stored state account ∨ account = user) : StoredChange request after
  | kept (nothing : identityAdded config env state request = none)
      (stored : ∀ account, Stored after account →
        ∃ earlier, Stored state earlier ∧ earlier.id = account.id ∧ earlier.username = account.username) :
      StoredChange request after

theorem stored_local (after : AuthState) (user : User) (absent : state.users.get user.username = none)
    (users : after.users = state.users.insertUser user) (oidcUsers : after.oidcUsers = state.oidcUsers)
    (account : User) : Stored after account ↔ Stored state account ∨ account = user := by
  have inserted (name : String) : after.users.get name = some account ↔
      state.users.get name = some account ∨ (name = user.username ∧ account = user) := by
    rw [users]
    exact Table.lookup_insert_absent user.username name user account state.users.users absent
  simp only [Stored, inserted, oidcUsers, exists_or, exists_and_right, exists_eq, true_and]
  exact or_right_comm

theorem stored_oidc (after : AuthState) (user : User) (absent : state.oidcUsers.lookup user.id = none)
    (users : after.users = state.users) (oidcUsers : after.oidcUsers = state.oidcUsers.insert user.id user)
    (account : User) : Stored after account ↔ Stored state account ∨ account = user := by
  have inserted (key : String) : after.oidcUsers.lookup key = some account ↔
      state.oidcUsers.lookup key = some account ∨ (key = user.id ∧ account = user) := by
    rw [oidcUsers]
    exact Table.lookup_insert_absent user.id key user account state.oidcUsers absent
  simp only [Stored, inserted, users, exists_or, exists_and_right, exists_eq, true_and]
  exact or_assoc.symm

theorem stored_kept (after : AuthState) (keeps : KeepsIds state.users after.users)
    (oidcUsers : after.oidcUsers = state.oidcUsers) (account : User) (stored : Stored after account) :
    ∃ earlier, Stored state earlier ∧ earlier.id = account.id ∧ earlier.username = account.username := by
  rcases stored with ⟨name, present⟩ | ⟨key, present⟩
  · obtain ⟨earlier, before, same⟩ := keeps name account present
    have named := state.users.keyed name earlier before
    have namedLater := after.users.keyed name account present
    exact ⟨earlier, Or.inl ⟨name, before⟩, same, named.trans namedLater.symm⟩
  · rw [oidcUsers] at present
    exact ⟨account, Or.inr ⟨key, present⟩, rfl, rfl⟩

theorem handle_stored (request : AuthRequest) :
    StoredChange config env state request (handle libs config env state request).1 := by
  rcases handle_adds libs config env state request with ⟨user, added, absent, users⟩ | ⟨nothing, keeps⟩
  · have noCallback := local_or_oidc config env state request user added
    refine .added user ?_ ?_
    · rw [identityAdded, added, Option.some_or]
    · exact stored_local state _ user absent users (handle_oidc_users libs config env state request noCallback)
  · cases callback : oidcAdded env state request with
    | none =>
        refine .kept ?_ ?_
        · rw [identityAdded, nothing, callback, Option.none_or]
        · exact stored_kept state _ keeps (handle_oidc_users libs config env state request callback)
    | some user =>
        obtain ⟨absent, oidcUsers⟩ := oidc_added_new libs config env state request user callback
        have users : (handle libs config env state request).1.users = state.users := by
          refine (handle_frame libs config env state request).users ?_
          cases request with
          | oidcCallback stateKey code returned => rfl
          | _ => cases callback
        refine .added user ?_ ?_
        · rw [identityAdded, nothing, callback, Option.none_or]
        · exact stored_oidc state _ user absent users oidcUsers

theorem separate_added_iff (after : AuthState) (user : User) (separate : IdentitiesSeparate state)
    (stored : ∀ account, Stored after account ↔ Stored state account ∨ account = user) :
    IdentitiesSeparate after ↔
      ∀ account, Stored state account → account.username = user.username → account.id = user.id := by
  refine ⟨?_, ?_⟩
  · intro kept account before same
    exact kept account user ((stored account).mpr (Or.inl before)) ((stored user).mpr (Or.inr rfl)) same
  · intro own first second atFirst atSecond same
    rcases (stored first).mp atFirst with before | isNew
    · rcases (stored second).mp atSecond with beforeToo | isNewToo
      · exact separate first second before beforeToo same
      · subst isNewToo
        exact own first before same
    · subst isNew
      rcases (stored second).mp atSecond with beforeToo | isNewToo
      · exact (own second beforeToo same.symm).symm
      · rw [isNewToo]

theorem separate_kept (after : AuthState) (separate : IdentitiesSeparate state)
    (stored : ∀ account, Stored after account →
      ∃ earlier, Stored state earlier ∧ earlier.id = account.id ∧ earlier.username = account.username) :
    IdentitiesSeparate after := by
  intro first second atFirst atSecond same
  obtain ⟨earlier, before, sameId, sameName⟩ := stored first atFirst
  obtain ⟨other, beforeToo, otherId, otherName⟩ := stored second atSecond
  rw [← sameId, ← otherId]
  exact separate earlier other before beforeToo (by rw [sameName, otherName, same])

theorem step_separate_iff (input : AuthInput) (separate : IdentitiesSeparate state) :
    IdentitiesSeparate (authStep libs config state input).1 ↔ AddsOwnIdentity config state input := by
  cases input with
  | rehashUsers order =>
      have same (account : User) : Stored (authStep libs config state (.rehashUsers order)).1 account ↔
          Stored state account := by
        simp only [Stored, authStep, UserStore.get_rehash]
      simp only [AddsOwnIdentity, iff_true]
      intro first second atFirst atSecond
      exact separate first second ((same first).mp atFirst) ((same second).mp atSecond)
  | rehashTokens order =>
      simp only [AddsOwnIdentity, iff_true]
      exact separate
  | request env request =>
      cases handle_stored libs config env state request with
      | added user brings stored =>
          simp only [AddsOwnIdentity, brings, Option.some.injEq, forall_eq', authStep]
          exact separate_added_iff state _ user separate stored
      | kept nothing stored =>
          simp only [AddsOwnIdentity, nothing, reduceCtorEq, false_implies, implies_true, iff_true, authStep]
          exact separate_kept state _ separate stored

theorem initial_separate (store : UserStore) (webauthn : Option WebauthnState) (oidc : Option OidcService) :
    IdentitiesSeparate (AuthState.initial store webauthn oidc) := by
  have stored (account : User) (present : Stored (AuthState.initial store webauthn oidc) account) :
      store.get account.username = some account := by
    rcases present with ⟨name, present⟩ | ⟨key, absent⟩
    · rw [store.keyed name account present]
      exact present
    · cases absent
  intro first second atFirst atSecond same
  have found := stored second atSecond
  rw [← same, stored first atFirst, Option.some.injEq] at found
  rw [found]

end Identities

-- Usernames identify accounts in every state of a run exactly when no account is added under
-- a username that another account has.
theorem identities_separate_iff (libs : Libs) (config : AuthConfig) (store : UserStore)
    (webauthn : Option WebauthnState) (oidc : Option OidcService) (inputs : List AuthInput) :
    (∀ earlier, earlier <+: inputs →
        IdentitiesSeparate ((authMachine libs config).run (AuthState.initial store webauthn oidc) earlier)) ↔
      ∀ event ∈ (authMachine libs config).trace (AuthState.initial store webauthn oidc) inputs,
        AddsOwnIdentity config event.before event.input := by
  rw [Machine.prefixes_iff (authMachine libs config) IdentitiesSeparate (AddsOwnIdentity config)
    (fun state input separate => step_separate_iff libs config state input separate)]
  exact and_iff_right (initial_separate store webauthn oidc)

-- On GitHub somebody else is called Alice.
def asciiNames : UnicodeNames :=
  { isAlphanumeric := Char.isAlphanum, toLowercase := Text.asciiLower }

def otherAliceEnv (now : Int) (fresh : Fresh) : Env :=
  { oidcEnv now fresh with exchange := fun _ _ => .ok (githubIdentity asciiNames "583231" (some "Alice") none none) }

def otherAliceRun : List AuthInput :=
  [.request (otherAliceEnv 0 ⟨"r0", "t0"⟩) (.oidcLogin "github"),
    .request (otherAliceEnv 10 ⟨"r1", "t1"⟩) (.oidcCallback "state-1" "code" "csrf-1")]

def otherAlice : User :=
  { octocat with username := "alice", displayName := "Alice" }

theorem usernames_collide :
    ¬ ∀ earlier, earlier <+: otherAliceRun →
        IdentitiesSeparate ((authMachine sampleLibs sampleConfig).run oidcStartState earlier) := by
  intro separate
  have whole := separate otherAliceRun (List.prefix_refl _)
  have alice : Stored ((authMachine sampleLibs sampleConfig).run oidcStartState otherAliceRun)
      (sampleUser "u-alice" "alice" none) := Or.inl ⟨"alice", by decide⟩
  have other : Stored ((authMachine sampleLibs sampleConfig).run oidcStartState otherAliceRun) otherAlice :=
    Or.inr ⟨"github:583231", by decide⟩
  have same := whole _ _ alice other rfl
  exact absurd same (by decide)

end Moxui.Auth
