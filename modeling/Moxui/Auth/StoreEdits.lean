import Moxui.Auth.UserIds

set_option autoImplicit false

namespace Moxui.Auth

section Updates

structure UpdateApplied (update : UserUpdate) (user changed : User) : Prop where
  id : changed.id = user.id
  username : changed.username = user.username
  displayName : changed.displayName = update.displayName.getD user.displayName
  email : changed.email = update.email.or user.email
  passwordHash : changed.passwordHash = update.passwordHash.getD user.passwordHash
  role : (update.role = none ∧ changed.role = user.role) ∨
    ∃ text, update.role = some text ∧ Role.fromStr text = .ok changed.role
  enabled : changed.enabled = update.enabled.getD user.enabled
  totpSecret : changed.totpSecret = user.totpSecret
  totpEnabled : changed.totpEnabled = user.totpEnabled
  backupCodes : changed.backupCodes = user.backupCodes

def named (update : UserUpdate) (user : User) : User :=
  { user with displayName := update.displayName.getD user.displayName, email := update.email.or user.email }

def RoleRefused (update : UserUpdate) : Prop :=
  ∃ text reason, update.role = some text ∧ Role.fromStr text = .error reason

def NamesAlike (update : UserUpdate) (user : User) : Prop :=
  (∀ displayName, update.displayName = some displayName → displayName = user.displayName) ∧
    ∀ email, update.email = some email → some email = user.email

theorem named_same (update : UserUpdate) (user : User) : named update user = user ↔ NamesAlike update user := by
  rcases user with ⟨id, username, displayName, email, passwordHash, role, enabled, totpSecret, totpEnabled, backupCodes⟩
  rcases update with ⟨newName, newEmail, newRole, newHash, newEnabled⟩
  cases newName <;> cases newEmail <;> simp [named, NamesAlike, eq_comm]

theorem apply_update_cases (update : UserUpdate) (user : User) :
    (¬ RoleRefused update ∧ (UserStore.applyUpdate update user).2 = .ok () ∧
        UpdateApplied update user (UserStore.applyUpdate update user).1) ∨
      (RoleRefused update ∧ (∃ reason, (UserStore.applyUpdate update user).2 = .error reason) ∧
        (UserStore.applyUpdate update user).1 = named update user) := by
  cases asked : update.role with
  | none =>
      refine Or.inl ⟨?_, ?_, ?_⟩
      · intro refused
        obtain ⟨text, reason, given, _⟩ := refused
        rw [asked] at given
        cases given
      · simp [UserStore.applyUpdate, asked]
      · simp only [UserStore.applyUpdate, asked]
        exact ⟨rfl, rfl, rfl, rfl, rfl, Or.inl ⟨asked, rfl⟩, rfl, rfl, rfl, rfl⟩
  | some text =>
      cases parsed : Role.fromStr text with
      | error reason =>
          refine Or.inr ⟨⟨text, reason, asked, parsed⟩, ?_, ?_⟩
          · exact ⟨"unknown role '" ++ text ++ "' (expected admin|operator|viewer)", by
              simp [UserStore.applyUpdate, asked, parsed]⟩
          · simp [UserStore.applyUpdate, asked, parsed, named]
      | ok role =>
          refine Or.inl ⟨?_, ?_, ?_⟩
          · intro refused
            obtain ⟨other, reason, given, failed⟩ := refused
            rw [asked, Option.some.injEq] at given
            rw [← given, parsed] at failed
            cases failed
          · simp [UserStore.applyUpdate, asked, parsed]
          · simp only [UserStore.applyUpdate, asked, parsed]
            exact ⟨rfl, rfl, rfl, rfl, rfl, Or.inr ⟨text, asked, parsed⟩, rfl, rfl, rfl, rfl⟩

variable (username : String) (update : UserUpdate) (store : UserStore)

-- A call that fails leaves the store as it was; one that succeeds changes what it was given, of
-- this account.
structure UpdateAtomic : Prop where
  failed : ∀ reason, (store.updateUser username update).2 = .error reason → (store.updateUser username update).1 = store
  updated : (store.updateUser username update).2 = .ok () → ∃ user changed, store.get username = some user ∧
    (store.updateUser username update).1.get username = some changed ∧ UpdateApplied update user changed
  others : ∀ other, other ≠ username → (store.updateUser username update).1.get other = store.get other
  lists : (store.updateUser username update).1.allowedClusters = store.allowedClusters

theorem UserStore.ext (store other : UserStore) (users : store.users = other.users)
    (lists : store.allowedClusters = other.allowedClusters) : store = other := by
  cases store
  cases other
  cases users
  cases lists
  rfl

theorem update_user_lists : (store.updateUser username update).1.allowedClusters = store.allowedClusters := by
  simp only [UserStore.updateUser]
  cases store.get username <;> rfl

theorem update_user_absent (absent : store.get username = none) :
    store.updateUser username update = (store, .error ("user '" ++ username ++ "' not found")) := by
  simp only [UserStore.updateUser, absent]

theorem update_user_answer (user : User) (present : store.get username = some user) :
    (store.updateUser username update).2 = (UserStore.applyUpdate update user).2 := by
  simp only [UserStore.updateUser, present]

theorem update_user_unchanged (user : User) (present : store.get username = some user) :
    (store.updateUser username update).1 = store ↔ (UserStore.applyUpdate update user).1 = user := by
  have users : (store.updateUser username update).1.users =
      Table.modify username (fun found => (UserStore.applyUpdate update found).1) store.users := by
    simp only [UserStore.updateUser, present]
  have stored : store.users.lookup username = some user := present
  have whole := Table.modify_eq_self username (fun found => (UserStore.applyUpdate update found).1) store.users
  rw [← users, stored] at whole
  constructor
  · intro same
    exact whole.mp (congrArg UserStore.users same) user rfl
  · intro same
    refine UserStore.ext _ _ (whole.mpr ?_) (update_user_lists username update store)
    intro found known
    cases known
    exact same

theorem update_atomic_iff :
    UpdateAtomic username update store ↔
      (RoleRefused update → ∀ user, store.get username = some user → NamesAlike update user) := by
  constructor
  · intro atomic refused user present
    rcases apply_update_cases update user with ⟨accepted, _, _⟩ | ⟨_, ⟨reason, failed⟩, changed⟩
    · exact absurd refused accepted
    · rw [← update_user_answer username update store user present] at failed
      have kept := (update_user_unchanged username update store user present).mp (atomic.failed reason failed)
      rw [changed] at kept
      exact (named_same update user).mp kept
  · intro alike
    refine ⟨?_, ?_, ?_, update_user_lists username update store⟩
    · intro reason failed
      cases present : store.get username with
      | none => rw [update_user_absent username update store present]
      | some user =>
          rw [update_user_unchanged username update store user present]
          rw [update_user_answer username update store user present] at failed
          rcases apply_update_cases update user with ⟨_, done, _⟩ | ⟨refused, _, changed⟩
          · rw [done] at failed
            cases failed
          · rw [changed, named_same]
            exact alike refused user present
    · intro done
      cases present : store.get username with
      | none =>
          rw [update_user_absent username update store present] at done
          cases done
      | some user =>
          rw [update_user_answer username update store user present] at done
          rcases apply_update_cases update user with ⟨_, _, whole⟩ | ⟨_, ⟨reason, failed⟩, _⟩
          · refine ⟨user, (UserStore.applyUpdate update user).1, rfl, ?_, whole⟩
            rw [UserStore.get_update_user, if_pos rfl, present, Option.map_some]
          · rw [failed] at done
            cases done
    · intro other different
      rw [UserStore.get_update_user, if_neg different]

def viewerBob : User :=
  { id := "u-2", username := "bob", displayName := "Bob", email := none, passwordHash := "h", role := .viewer
    enabled := true, totpSecret := none, totpEnabled := false, backupCodes := [] }

def promotion : UserUpdate :=
  { displayName := some "Robert", email := none, role := some "root", passwordHash := none, enabled := none }

-- The update fails, and bob has a new display name.
theorem refused_update_renames : ¬ UpdateAtomic "bob" promotion (UserStore.withUsers [viewerBob]) := by
  intro atomic
  have kept := (update_atomic_iff "bob" promotion (UserStore.withUsers [viewerBob])).mp atomic
    ⟨"root", _, rfl, rfl⟩ viewerBob rfl
  exact absurd (kept.1 "Robert" rfl) (by decide)

end Updates

section Edits

inductive StoreEdit where
  | add (user : User)
  | update (username : String) (update : UserUpdate)
  | delete (username : String)

def StoreEdit.username : StoreEdit → String
  | add user => user.username
  | update username _ => username
  | delete username => username

def edit (store : UserStore) : StoreEdit → UserStore × Except String Unit
  | .add user => store.addUser user
  | .update username update => store.updateUser username update
  | .delete username => store.deleteUser username

def storeEdits : Machine UserStore StoreEdit (Except String Unit) := ⟨edit⟩

def listOf (store : UserStore) (username : String) : Option (List String) :=
  store.allowedClusters.lookup username

theorem get_add_user (user : User) (store : UserStore) (other : String) :
    (store.addUser user).1.get other =
      if store.get user.username = none ∧ other = user.username then some user else store.get other := by
  simp only [UserStore.addUser]
  cases taken : store.get user.username with
  | none => simp [UserStore.get_insert_user]
  | some found => simp

theorem list_add_user (user : User) (store : UserStore) (other : String) :
    listOf (store.addUser user).1 other = listOf store other := by
  simp only [UserStore.addUser]
  cases store.get user.username <;> rfl

theorem list_delete_user (username : String) (store : UserStore) (other : String) :
    listOf (store.deleteUser username).1 other =
      if other = username ∧ (store.get username).isSome = true then none else listOf store other := by
  simp only [UserStore.deleteUser]
  cases present : store.get username with
  | none => simp
  | some user => simp [listOf, Table.lookup_erase_eq]

theorem edit_frame (store : UserStore) (asked : StoreEdit) (other : String) (different : other ≠ asked.username) :
    (edit store asked).1.get other = store.get other ∧ listOf (edit store asked).1 other = listOf store other := by
  cases asked with
  | add user =>
      refine ⟨?_, list_add_user user store other⟩
      rw [edit, get_add_user, if_neg fun both => different both.2]
  | update username update =>
      have elsewhere : other ≠ username := different
      refine ⟨?_, ?_⟩
      · rw [edit, UserStore.get_update_user, if_neg elsewhere]
      · rw [edit, listOf, update_user_lists, listOf]
  | delete username =>
      have elsewhere : other ≠ username := different
      refine ⟨?_, ?_⟩
      · rw [edit, UserStore.get_delete_user, if_neg elsewhere]
      · rw [edit, list_delete_user, if_neg fun both => elsewhere both.1]

end Edits

section Seeded

variable (hashPassword : String → Except String String) (configs : List UserConfig)

-- The account and the list that a username starts with are those of one entry of the config, the last.
structure SameEntry (store : UserStore) (username : String) (user : User) (config : UserConfig) : Prop where
  last : lastConfig configs username = some config
  account : User.fromConfig hashPassword config = .ok user
  list : listOf store username = some config.allowedClusters

theorem collect_lists_snoc (config : UserConfig) (username : String) :
    (Table.collect ((configs ++ [config]).map fun entry => (entry.username, entry.allowedClusters))).lookup username =
      if username = config.username then some config.allowedClusters
      else (Table.collect (configs.map fun entry => (entry.username, entry.allowedClusters))).lookup username := by
  simp only [List.map_append, List.map_cons, List.map_nil, Table.collect, List.foldl_append, List.foldl_cons,
    List.foldl_nil]
  exact Table.lookup_insert_eq config.username username config.allowedClusters _

theorem collected_lists (username : String) :
    (Table.collect (configs.map fun entry => (entry.username, entry.allowedClusters))).lookup username =
      (lastConfig configs username).map UserConfig.allowedClusters := by
  induction configs using List.reverseRecOn with
  | nil => rfl
  | append_singleton configs config ih =>
      rw [collect_lists_snoc, last_config_snoc, ih]
      split <;> rfl

theorem read_accounts (users : List User) (read : configs.mapM (User.fromConfig hashPassword) = .ok users)
    (username : String) (user : User) (found : (UserStore.withUsers users).get username = some user) :
    ∃ config, lastConfig configs username = some config ∧ User.fromConfig hashPassword config = .ok user := by
  induction configs using List.reverseRecOn generalizing users with
  | nil =>
      cases read
      cases found
  | append_singleton configs config ih =>
      obtain ⟨earlier, last, first, built, rfl⟩ := from_configs_snoc hashPassword configs config users read
      have same := (from_config_named hashPassword config last built).1
      rw [get_with_users_snoc, same] at found
      rw [last_config_snoc]
      by_cases chosen : username = config.username
      · rw [if_pos chosen, Option.some.injEq] at found
        rw [if_pos chosen]
        exact ⟨config, rfl, found ▸ built⟩
      · rw [if_neg chosen] at found
        rw [if_neg chosen]
        exact ih earlier first found

theorem seeded_same_entry (store : UserStore) (seeded : UserStore.fromConfigs hashPassword configs = .ok store)
    (username : String) (user : User) (found : store.get username = some user) :
    ∃ config, SameEntry hashPassword configs store username user config := by
  unfold UserStore.fromConfigs at seeded
  cases read : configs.mapM (User.fromConfig hashPassword) with
  | error reason => simp [read] at seeded
  | ok users =>
      simp only [read, Except.ok.injEq] at seeded
      subst store
      obtain ⟨config, last, account⟩ := read_accounts hashPassword configs users read username user found
      exact ⟨config, last, account, by rw [listOf, collected_lists, last, Option.map_some]⟩

theorem store_well_formed (store : UserStore) (seeded : UserStore.fromConfigs hashPassword configs = .ok store)
    (edits : List StoreEdit) :
    (∀ name user, (storeEdits.run store edits).get name = some user → user.username = name) ∧
      (∀ name user, store.get name = some user → ∃ config, SameEntry hashPassword configs store name user config) ∧
      ∀ event ∈ storeEdits.trace store edits, ∀ other, other ≠ event.input.username →
        event.after.get other = event.before.get other ∧ listOf event.after other = listOf event.before other := by
  refine ⟨?_, ?_, ?_⟩
  · intro name user found
    exact UserStore.get_username _ name user found
  · intro name user found
    exact seeded_same_entry hashPassword configs store seeded name user found
  · intro event member other different
    obtain ⟨earlier, later, _, same⟩ := storeEdits.trace_event store edits event member
    rw [same]
    exact edit_frame (storeEdits.run store earlier) event.input other different

end Seeded

def limitedAlice : UserConfig :=
  { sampleUserConfig "u-1" "alice" with allowedClusters := ["lab"] }

def aliceTwice : UserStore :=
  { UserStore.withUsers [{ sampleUser "u-3" "alice" none with backupCodes := [] }] with
    allowedClusters := Table.collect [("alice", [])] }

def renamedThenRemoved : List StoreEdit :=
  [.add viewerBob, .update "alice" promotion, .delete "bob"]

-- alice is listed twice, limited to a cluster the first time only: it is the second entry that is kept.
theorem store_well_formed_twice :
    (∀ name user, (storeEdits.run aliceTwice renamedThenRemoved).get name = some user → user.username = name) ∧
      (∀ name user, aliceTwice.get name = some user →
        ∃ config, SameEntry noHash [limitedAlice, sampleUserConfig "u-3" "alice"] aliceTwice name user config) ∧
      ∀ event ∈ storeEdits.trace aliceTwice renamedThenRemoved, ∀ other, other ≠ event.input.username →
        event.after.get other = event.before.get other ∧ listOf event.after other = listOf event.before other :=
  store_well_formed noHash [limitedAlice, sampleUserConfig "u-3" "alice"] aliceTwice (by rfl) renamedThenRemoved

end Moxui.Auth
