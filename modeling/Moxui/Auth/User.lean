import Moxui.Lib.Table
import Moxui.Lib.Text

set_option autoImplicit false

namespace Moxui.Auth

inductive Role where
  | admin
  | operator
  | viewer
deriving DecidableEq, Repr

namespace Role

def rank : Role → Nat
  | .admin => 0
  | .operator => 1
  | .viewer => 2

def can (role required : Role) : Bool :=
  decide (role.rank ≤ required.rank)

def asStr : Role → String
  | .admin => "admin"
  | .operator => "operator"
  | .viewer => "viewer"

def fromStr (text : String) : Except String Role :=
  let lowered := Text.asciiLower text
  if lowered = "admin" then .ok .admin
  else if lowered = "operator" then .ok .operator
  else if lowered = "viewer" then .ok .viewer
  else .error ("unknown role '" ++ lowered ++ "' (expected admin|operator|viewer)")

theorem from_str_as_str (role : Role) : fromStr role.asStr = .ok role := by
  cases role <;> decide

end Role

structure User where
  id : String
  username : String
  displayName : String
  email : Option String
  passwordHash : String
  role : Role
  enabled : Bool
  totpSecret : Option String
  totpEnabled : Bool
  backupCodes : List String
deriving DecidableEq, Repr

structure UserConfig where
  id : String
  username : String
  displayName : String
  email : Option String
  role : String
  passwordHash : Option String
  password : Option String
  enabled : Bool
  allowedClusters : List String
deriving DecidableEq, Repr

-- The hash of a config's password: given, or computed at startup by bcrypt.
def User.hashOfConfig (hashPassword : String → Except String String) (config : UserConfig) : Except String String :=
  match config.passwordHash, config.password with
  | some hash, _ => .ok hash
  | none, some password =>
      match hashPassword password with
      | .ok hash => .ok hash
      | .error reason => .error ("bcrypt hash failed: " ++ reason)
  | none, none => .error ("user '" ++ config.username ++ "' has neither password_hash nor password")

def User.fromConfig (hashPassword : String → Except String String) (config : UserConfig) : Except String User :=
  match Role.fromStr config.role with
  | .error _ => .error ("user '" ++ config.username ++ "' has unknown role '" ++ config.role ++ "'")
  | .ok role =>
      match hashOfConfig hashPassword config with
      | .error reason => .error reason
      | .ok hash => .ok
          { id := config.id
            username := config.username
            displayName := if config.displayName = "" then config.username else config.displayName
            email := config.email
            passwordHash := hash
            role := role
            enabled := config.enabled
            totpSecret := none
            totpEnabled := false
            backupCodes := [] }

structure UserStore where
  users : Table String User
  allowedClusters : Table String (List String)
  keyed : ∀ name user, users.lookup name = some user → user.username = name

structure UserUpdate where
  displayName : Option String
  email : Option String
  role : Option String
  passwordHash : Option String
  enabled : Option Bool

namespace UserStore

def new : UserStore :=
  ⟨∅, ∅, by simp⟩

def withUsers (users : List User) : UserStore :=
  ⟨Table.collect (users.map fun user => (user.username, user)), ∅, by
    intro name user present
    obtain ⟨found, _, same⟩ := List.mem_map.mp (Table.lookup_collect_origin _ name user present)
    cases same
    rfl⟩

def get (store : UserStore) (username : String) : Option User :=
  store.users.lookup username

def getById (store : UserStore) (id : String) : Option User :=
  Table.findValue (fun user => user.id == id) store.users

def fromConfigs (hashPassword : String → Except String String) (configs : List UserConfig) :
    Except String UserStore :=
  match configs.mapM (User.fromConfig hashPassword) with
  | .error reason => .error reason
  | .ok users => .ok
      { withUsers users with
        allowedClusters := Table.collect (configs.map fun config => (config.username, config.allowedClusters)) }

def authenticate (verifyPassword : String → String → Bool) (store : UserStore) (username password : String) :
    Option User :=
  match store.get username with
  | none => none
  | some user =>
      if !user.enabled then none
      else if verifyPassword password user.passwordHash then some user
      else none

def userCanAccessCluster (store : UserStore) (username cluster : String) : Bool :=
  match store.allowedClusters.lookup username with
  | none => true
  | some [] => true
  | some restrictions => restrictions.any fun allowed => allowed == cluster

def insertUser (user : User) (store : UserStore) : UserStore :=
  { store with
    users := store.users.insert user.username user
    keyed := by
      intro name found present
      rw [Table.lookup_insert_eq] at present
      split at present
      · next same =>
          cases present
          exact same.symm
      · exact store.keyed name found present }

def addUser (user : User) (store : UserStore) : UserStore × Except String Unit :=
  match store.get user.username with
  | some _ => (store, .error ("user '" ++ user.username ++ "' already exists"))
  | none => (store.insertUser user, .ok ())

-- The assignments in the order of the source. A role that does not parse stops them, after
-- the display name and the email were written.
def applyUpdate (update : UserUpdate) (user : User) : User × Except String Unit :=
  let named := { user with
    displayName := update.displayName.getD user.displayName
    email := update.email.or user.email }
  let finish := fun (withRole : User) =>
    { withRole with
      passwordHash := update.passwordHash.getD withRole.passwordHash
      enabled := update.enabled.getD withRole.enabled }
  match update.role with
  | none => (finish named, .ok ())
  | some text =>
      match Role.fromStr text with
      | .error _ => (named, .error ("unknown role '" ++ text ++ "' (expected admin|operator|viewer)"))
      | .ok role => (finish { named with role := role }, .ok ())

theorem apply_update_username (update : UserUpdate) (user : User) :
    (applyUpdate update user).1.username = user.username := by
  simp only [applyUpdate]
  split
  · rfl
  · split <;> rfl

def updateUser (username : String) (update : UserUpdate) (store : UserStore) : UserStore × Except String Unit :=
  match store.get username with
  | none => (store, .error ("user '" ++ username ++ "' not found"))
  | some user =>
      ({ store with
          users := Table.modify username (fun found => (applyUpdate update found).1) store.users
          keyed := by
            intro name found present
            rw [Table.lookup_modify] at present
            split at present
            · obtain ⟨earlier, before, rfl⟩ := Option.map_eq_some_iff.mp present
              rw [apply_update_username]
              exact store.keyed name earlier before
            · exact store.keyed name found present },
        (applyUpdate update user).2)

def deleteUser (username : String) (store : UserStore) : UserStore × Except String Unit :=
  match store.get username with
  | none => (store, .error ("user '" ++ username ++ "' not found"))
  | some _ =>
      ({ users := store.users.erase username
         allowedClusters := store.allowedClusters.erase username
         keyed := by
          intro name found present
          rw [Table.lookup_erase_eq] at present
          split at present
          · cases present
          · exact store.keyed name found present }, .ok ())

def listUsers (store : UserStore) : List User :=
  Table.values store.users

def rehash (order : Table String User) (store : UserStore) : UserStore :=
  { store with
    users := Table.rehash order store.users
    keyed := by
      intro name user present
      rw [Table.lookup_rehash] at present
      exact store.keyed name user present }

@[simp] theorem get_rehash (order : Table String User) (store : UserStore) (username : String) :
    (store.rehash order).get username = store.get username :=
  Table.lookup_rehash order store.users username

theorem get_username (store : UserStore) (username : String) (user : User) (found : store.get username = some user) :
    user.username = username :=
  store.keyed username user found

theorem get_by_id_some (store : UserStore) (id : String) (user : User) (found : store.getById id = some user) :
    store.get user.username = some user ∧ user.id = id := by
  obtain ⟨⟨name, present⟩, accepted⟩ := Table.find_value_some _ store.users user found
  have named := store.keyed name user present
  refine ⟨?_, beq_iff_eq.mp accepted⟩
  rw [named]
  exact present

theorem get_by_id_none (store : UserStore) (id : String) :
    store.getById id = none ↔ ∀ name user, store.get name = some user → user.id ≠ id := by
  rw [getById, Table.find_value_none]
  constructor
  · intro absent name user found same
    have rejected := absent name user found
    simp [same] at rejected
  · intro absent name user found
    exact beq_eq_false_iff_ne.mpr (absent name user found)

end UserStore

end Moxui.Auth
