import Moxui.Lib.Table

set_option autoImplicit false

namespace Moxui.Auth

-- Timestamps are i64 seconds; adding wraps as the release build does.
def timestampAdd (now seconds : Int) : Int :=
  Int.bmod (now + seconds) UInt64.size

-- What `Uuid::new_v4` and `generate_token` return for one new record.
structure Fresh where
  id : String
  raw : String
deriving DecidableEq, Repr

structure StoredRefreshToken where
  id : String
  userId : String
  tokenHash : String
  expiresAt : Int
  revoked : Bool
  createdAt : Int
deriving DecidableEq, Repr

structure IssuedRefreshToken where
  token : String
  id : String
  userId : String
  expiresAt : Int
deriving DecidableEq, Repr

structure RefreshStore where
  tokens : Table String StoredRefreshToken
  keyed : ∀ key record, tokens.lookup key = some record → record.id = key

namespace RefreshStore

def defaultTtlSecs : Int := 7 * 24 * 3600

def empty : RefreshStore :=
  ⟨∅, by simp⟩

def lookup (store : RefreshStore) (id : String) : Option StoredRefreshToken :=
  store.tokens.lookup id

def revokeRecord (record : StoredRefreshToken) : StoredRefreshToken :=
  { record with revoked := true }

def insert (record : StoredRefreshToken) (store : RefreshStore) : RefreshStore :=
  ⟨store.tokens.insert record.id record, by
    intro key found present
    rw [Table.lookup_insert_eq] at present
    split at present
    · next same =>
        cases present
        exact same.symm
    · exact store.keyed key found present⟩

def revokeWhere (chosen : StoredRefreshToken → Bool) (store : RefreshStore) : RefreshStore :=
  ⟨Table.mapValues (fun _ record => if chosen record then revokeRecord record else record) store.tokens, by
    intro key found present
    rw [Table.lookup_map_values] at present
    obtain ⟨record, before, rfl⟩ := Option.map_eq_some_iff.mp present
    have named := store.keyed key record before
    by_cases hit : chosen record
    · simpa only [hit, if_true, revokeRecord] using named
    · simpa only [hit, Bool.false_eq_true, if_false] using named⟩

-- `get_mut(id)` followed by `revoked = true`.
def revokeKey (key : String) (store : RefreshStore) : RefreshStore :=
  ⟨Table.modify key revokeRecord store.tokens, by
    intro found record present
    rw [Table.lookup_modify] at present
    by_cases same : found = key
    · rw [if_pos same] at present
      obtain ⟨earlier, before, rfl⟩ := Option.map_eq_some_iff.mp present
      exact store.keyed found earlier before
    · rw [if_neg same] at present
      exact store.keyed found record present⟩

def rehash (order : Table String StoredRefreshToken) (store : RefreshStore) : RefreshStore :=
  ⟨Table.rehash order store.tokens, by
    intro key record present
    rw [Table.lookup_rehash] at present
    exact store.keyed key record present⟩

section Operations

variable (hash : String → String)

def newRecord (userId : String) (ttlSecs : Int) (fresh : Fresh) (now : Int) : StoredRefreshToken :=
  { id := fresh.id, userId := userId, tokenHash := hash fresh.raw,
    expiresAt := timestampAdd now ttlSecs, revoked := false, createdAt := now }

def newIssued (userId : String) (ttlSecs : Int) (fresh : Fresh) (now : Int) : IssuedRefreshToken :=
  { token := fresh.raw, id := fresh.id, userId := userId, expiresAt := timestampAdd now ttlSecs }

def issue (userId : String) (ttlSecs : Int) (fresh : Fresh) (now : Int) (store : RefreshStore) :
    RefreshStore × IssuedRefreshToken :=
  (store.insert (newRecord hash userId ttlSecs fresh now), newIssued userId ttlSecs fresh now)

def matching (rawToken : String) (record : StoredRefreshToken) : Bool :=
  record.tokenHash == hash rawToken

def verify (rawToken : String) (now : Int) (store : RefreshStore) : Option (String × String) :=
  match Table.findValue (matching hash rawToken) store.tokens with
  | none => none
  | some record =>
      if record.revoked then none
      else if now > record.expiresAt then none
      else some (record.id, record.userId)

def revoke (id : String) (store : RefreshStore) : RefreshStore × Bool :=
  match store.lookup id with
  | some _ => (store.revokeKey id, true)
  | none => (store, false)

def liveOf (userId : String) (record : StoredRefreshToken) : Bool :=
  record.userId == userId && !record.revoked

def revokeAllForUser (userId : String) (store : RefreshStore) : RefreshStore × Nat :=
  (store.revokeWhere (liveOf userId), (Table.values store.tokens).countP (liveOf userId))

-- `checkedAt` is the clock read by the expiry check, `now` the one read for the new record.
def rotate (rawToken : String) (ttlSecs : Int) (checkedAt : Int) (fresh : Fresh) (now : Int)
    (store : RefreshStore) : RefreshStore × Option IssuedRefreshToken :=
  match Table.findEntry (matching hash rawToken) store.tokens with
  | none => (store, none)
  | some ⟨id, record⟩ =>
      if checkedAt > record.expiresAt then (store, none)
      else if record.revoked then
        (store.revokeWhere (fun other => other.userId == record.userId), none)
      else
        ((store.revokeKey id).insert (newRecord hash record.userId ttlSecs fresh now),
          some (newIssued record.userId ttlSecs fresh now))

def count (store : RefreshStore) : Nat :=
  store.tokens.entries.length

def activeCount (now : Int) (store : RefreshStore) : Nat :=
  (Table.values store.tokens).countP fun record => !record.revoked && decide (record.expiresAt > now)

end Operations

theorem ext (store other : RefreshStore) (same : store.tokens = other.tokens) : store = other := by
  cases store
  cases other
  cases same
  rfl

@[simp] theorem lookup_empty (id : String) : empty.lookup id = none := rfl

theorem lookup_insert (record : StoredRefreshToken) (store : RefreshStore) (id : String) :
    (store.insert record).lookup id = if id = record.id then some record else store.lookup id :=
  Table.lookup_insert_eq record.id id record store.tokens

theorem lookup_revoke_where (chosen : StoredRefreshToken → Bool) (store : RefreshStore) (id : String) :
    (store.revokeWhere chosen).lookup id =
      (store.lookup id).map fun record => if chosen record then revokeRecord record else record :=
  Table.lookup_map_values _ store.tokens id

theorem lookup_revoke_key (key : String) (store : RefreshStore) (id : String) :
    (store.revokeKey key).lookup id =
      if id = key then (store.lookup id).map revokeRecord else store.lookup id :=
  Table.lookup_modify key id revokeRecord store.tokens

@[simp] theorem lookup_rehash (order : Table String StoredRefreshToken) (store : RefreshStore) (id : String) :
    (store.rehash order).lookup id = store.lookup id :=
  Table.lookup_rehash order store.tokens id

@[simp] theorem revoke_record_revoked (record : StoredRefreshToken) : (revokeRecord record).revoked = true := rfl

@[simp] theorem revoke_record_hash (record : StoredRefreshToken) :
    (revokeRecord record).tokenHash = record.tokenHash := rfl

@[simp] theorem revoke_record_user (record : StoredRefreshToken) : (revokeRecord record).userId = record.userId := rfl

theorem revoke_record_idem (record : StoredRefreshToken) (revoked : record.revoked = true) :
    revokeRecord record = record := by
  cases record
  cases revoked
  rfl

@[simp] theorem matching_iff (hash : String → String) (rawToken : String) (record : StoredRefreshToken) :
    matching hash rawToken record = true ↔ record.tokenHash = hash rawToken :=
  beq_iff_eq

end RefreshStore

end Moxui.Auth
