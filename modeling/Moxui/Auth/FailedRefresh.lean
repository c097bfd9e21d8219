import Moxui.Auth.Sessions

set_option autoImplicit false

namespace Moxui.Auth

open RefreshStore (newRecord)

section Found

variable (hash : String → String) (rawToken : String) (store : RefreshStore)

theorem verify_first (record : StoredRefreshToken) (now : Int)
    (first : Table.findValue (RefreshStore.matching hash rawToken) store.tokens = some record)
    (live : record.revoked = false) (unexpired : now ≤ record.expiresAt) :
    store.verify hash rawToken now = some (record.id, record.userId) := by
  simp only [RefreshStore.verify, first, live, Bool.false_eq_true, if_false, if_neg (Int.not_lt.mpr unexpired)]

theorem rotate_found (ttlSecs checkedAt : Int) (fresh : Fresh) (now : Int) (id : String) (record : StoredRefreshToken)
    (found : Table.findEntry (RefreshStore.matching hash rawToken) store.tokens = some ⟨id, record⟩)
    (live : record.revoked = false) (unexpired : checkedAt ≤ record.expiresAt) :
    store.rotate hash rawToken ttlSecs checkedAt fresh now =
      ((store.revokeKey id).insert (newRecord hash record.userId ttlSecs fresh now),
        some (RefreshStore.newIssued record.userId ttlSecs fresh now)) := by
  simp only [RefreshStore.rotate, found, live, Bool.false_eq_true, if_false, if_neg (Int.not_lt.mpr unexpired)]

end Found

section Failures

variable (libs : Libs) (config : AuthConfig) (env : Env) (state : AuthState)

-- The token is worth what it was, and no record is there that was not there before.
structure ConsumesNothing (token : String) (before after : RefreshStore) : Prop where
  verifies : ∀ now found, before.verify libs.hashToken token now = some found →
    after.verify libs.hashToken token now = some found
  noRecord : ∀ id record, after.lookup id = some record → before.lookup id = some record

def Answerable (userId : String) : Prop :=
  ∃ user text, state.users.getById userId = some user ∧ libs.jwtEncode (claimsFor config env user) = .ok text

def storeAfterRotation (id userId : String) : RefreshStore :=
  (state.refreshStore.revokeKey id).insert
    (newRecord libs.hashToken userId RefreshStore.defaultTtlSecs env.fresh env.clock.storedAt)

theorem refresh_verified (token id userId : String)
    (verified : state.refreshStore.verify libs.hashToken token env.clock.checkedAt = some (id, userId)) :
    (refresh libs config env token state).1.refreshStore = storeAfterRotation libs env state id userId ∧
      ((∃ failure, (refresh libs config env token state).2 = .error failure) ↔
        ¬ Answerable libs config env state userId) := by
  obtain ⟨record, found, rfl, live, unexpired⟩ :=
    verify_found libs.hashToken token state.refreshStore env.clock.checkedAt id userId verified
  have rotated := rotate_found libs.hashToken token state.refreshStore RefreshStore.defaultTtlSecs env.clock.checkedAt
    env.fresh env.clock.storedAt id record found live unexpired
  simp only [refresh, rotated, RefreshStore.newIssued]
  cases account : state.users.getById record.userId with
  | none =>
      refine ⟨rfl, fun _ => ?_, fun _ => ⟨_, rfl⟩⟩
      intro answerable
      obtain ⟨user, _, present, _⟩ := answerable
      rw [account] at present
      cases present
  | some user =>
      cases encoded : libs.jwtEncode (claimsFor config env user) with
      | error reason =>
          simp only [encoded]
          refine ⟨rfl, fun _ => ?_, fun _ => ⟨_, rfl⟩⟩
          intro answerable
          obtain ⟨other, text, present, signedText⟩ := answerable
          rw [account, Option.some.injEq] at present
          rw [← present, encoded] at signedText
          cases signedText
      | ok text =>
          simp only [encoded]
          refine ⟨rfl, fun failed => ?_, fun refused => ?_⟩
          · obtain ⟨_, answer⟩ := failed
            cases answer
          · exact absurd ⟨user, text, account, encoded⟩ refused

theorem lookup_after_rotation (id userId key : String) :
    (storeAfterRotation libs env state id userId).lookup key =
      if key = env.fresh.id then
        some (newRecord libs.hashToken userId RefreshStore.defaultTtlSecs env.fresh env.clock.storedAt)
      else if key = id then (state.refreshStore.lookup key).map RefreshStore.revokeRecord
      else state.refreshStore.lookup key := by
  rw [storeAfterRotation, RefreshStore.lookup_insert, RefreshStore.lookup_revoke_key]
  rfl

theorem repeated_verifies (token id userId : String) (record : StoredRefreshToken)
    (found : Table.findEntry (RefreshStore.matching libs.hashToken token) state.refreshStore.tokens = some ⟨id, record⟩)
    (repeated : record = newRecord libs.hashToken userId RefreshStore.defaultTtlSecs env.fresh env.clock.storedAt)
    (now : Int) (pair : String × String) (earlier : state.refreshStore.verify libs.hashToken token now = some pair) :
    (storeAfterRotation libs env state id userId).verify libs.hashToken token now = some pair := by
  obtain ⟨stored, matched⟩ := Table.find_entry_some _ state.refreshStore.tokens id record found
  obtain ⟨other, otherFound, otherUser, live, unexpired⟩ :=
    verify_found libs.hashToken token state.refreshStore now pair.1 pair.2 earlier
  rw [found, Option.some.injEq, Sigma.mk.injEq] at otherFound
  have sameRecord : record = other := eq_of_heq otherFound.2
  have first : Table.findValue (RefreshStore.matching libs.hashToken token)
      (storeAfterRotation libs env state id userId).tokens = some record := by
    rw [repeated] at matched ⊢
    exact Table.find_value_insert _ _ _ _ matched
  rw [verify_first libs.hashToken token _ record now first (sameRecord ▸ live) (sameRecord ▸ unexpired),
    state.refreshStore.keyed id record stored, otherFound.1, sameRecord, otherUser]

theorem rotation_consumes_nothing (token id userId : String)
    (verified : state.refreshStore.verify libs.hashToken token env.clock.checkedAt = some (id, userId)) :
    ConsumesNothing libs token state.refreshStore (storeAfterRotation libs env state id userId) ↔
      state.refreshStore.lookup id =
        some (newRecord libs.hashToken userId RefreshStore.defaultTtlSecs env.fresh env.clock.storedAt) := by
  obtain ⟨record, found, user, _, _⟩ :=
    verify_found libs.hashToken token state.refreshStore env.clock.checkedAt id userId verified
  obtain ⟨stored, _⟩ := Table.find_entry_some _ state.refreshStore.tokens id record found
  have present : state.refreshStore.lookup id = some record := stored
  constructor
  · intro nothing
    obtain ⟨kept, laterFound, _, live, _⟩ := verify_found libs.hashToken token _ env.clock.checkedAt id userId
      (nothing.verifies env.clock.checkedAt (id, userId) verified)
    have keptAt : (storeAfterRotation libs env state id userId).lookup id = some kept :=
      (Table.find_entry_some _ _ id kept laterFound).1
    have origin := nothing.noRecord id kept keptAt
    rw [lookup_after_rotation] at keptAt
    by_cases same : id = env.fresh.id
    · rw [if_pos same] at keptAt
      rw [keptAt]
      exact origin
    · rw [if_neg same, if_pos rfl, present, Option.map_some, Option.some.injEq] at keptAt
      rw [← keptAt, RefreshStore.revoke_record_revoked] at live
      cases live
  · intro repeated
    rw [present, Option.some.injEq] at repeated
    have sameId : record.id = id := state.refreshStore.keyed id record stored
    have freshId : env.fresh.id = id := by
      rw [← sameId, repeated]
      rfl
    refine ⟨?_, ?_⟩
    · intro now pair earlier
      exact repeated_verifies libs env state token id userId record found repeated now pair earlier
    · intro key other later
      rw [lookup_after_rotation, freshId] at later
      by_cases same : key = id
      · rw [if_pos same, ← repeated] at later
        rw [same, present]
        exact later
      · rw [if_neg same, if_neg same] at later
        exact later

theorem failed_refresh_consumes_nothing_iff (token id userId : String)
    (verified : state.refreshStore.verify libs.hashToken token env.clock.checkedAt = some (id, userId)) :
    (∀ failure, (refresh libs config env token state).2 = .error failure →
        ConsumesNothing libs token state.refreshStore (refresh libs config env token state).1.refreshStore) ↔
      Answerable libs config env state userId ∨
        state.refreshStore.lookup id =
          some (newRecord libs.hashToken userId RefreshStore.defaultTtlSecs env.fresh env.clock.storedAt) := by
  obtain ⟨after, failing⟩ := refresh_verified libs config env state token id userId verified
  rw [after, ← rotation_consumes_nothing libs env state token id userId verified]
  constructor
  · intro nothing
    by_cases answerable : Answerable libs config env state userId
    · exact Or.inl answerable
    · obtain ⟨failure, failed⟩ := failing.mpr answerable
      exact Or.inr (nothing failure failed)
  · intro either failure failed
    rcases either with answerable | nothing
    · exact absurd answerable (failing.mp ⟨failure, failed⟩)
    · exact nothing

end Failures

def orphaned : AuthState :=
  { AuthState.initial UserStore.new none none with
    refreshStore := (RefreshStore.issue sampleHash "u-alice" RefreshStore.defaultTtlSecs ⟨"r1", "t1"⟩ 0
      RefreshStore.empty).1 }

theorem failed_refresh_consumes_nothing_orphaned :
    (∀ failure, (refresh sampleLibs sampleConfig (sampleEnv 10 ⟨"r2", "t2"⟩) "t1" orphaned).2 = .error failure →
        ConsumesNothing sampleLibs "t1" orphaned.refreshStore
          (refresh sampleLibs sampleConfig (sampleEnv 10 ⟨"r2", "t2"⟩) "t1" orphaned).1.refreshStore) ↔
      Answerable sampleLibs sampleConfig (sampleEnv 10 ⟨"r2", "t2"⟩) orphaned "u-alice" ∨
        orphaned.refreshStore.lookup "r1" =
          some (newRecord sampleHash "u-alice" RefreshStore.defaultTtlSecs ⟨"r2", "t2"⟩ 10) :=
  failed_refresh_consumes_nothing_iff sampleLibs sampleConfig (sampleEnv 10 ⟨"r2", "t2"⟩) orphaned "t1" "r1" "u-alice"
    (by decide)

-- The answer is that there is no such account, the token is spent, and another one is in the store.
theorem orphaned_token_spent :
    ¬ ∀ failure, (refresh sampleLibs sampleConfig (sampleEnv 10 ⟨"r2", "t2"⟩) "t1" orphaned).2 = .error failure →
        ConsumesNothing sampleLibs "t1" orphaned.refreshStore
          (refresh sampleLibs sampleConfig (sampleEnv 10 ⟨"r2", "t2"⟩) "t1" orphaned).1.refreshStore := by
  intro nothing
  have kept := (nothing _ rfl).verifies 10 ("r1", "u-alice") (by decide)
  exact absurd kept (by decide)

end Moxui.Auth
