import Moxui.Auth.RefreshRun

set_option autoImplicit false

namespace Moxui.Auth

open RefreshStore

section Safety

variable (hash : String → String)

structure RotationSafe (ops : List RefreshOp) : Prop where
  singleUse : ∀ rawToken, (rotations rawToken ((refreshMachine hash).trace empty ops)).length ≤ 1
  revokedForGood : ∀ earlier later key record, ops = earlier ++ later →
    ((refreshMachine hash).run empty earlier).lookup key = some record → record.revoked = true →
    ((refreshMachine hash).run empty ops).lookup key = some record ∧
      ∀ rawToken now, hash rawToken = record.tokenHash →
        verify hash rawToken now ((refreshMachine hash).run empty ops) = none
  sameOwner : ∀ issued ∈ ((refreshMachine hash).trace empty ops).filterMap issuedBy,
    ∀ new, Lineage ((refreshMachine hash).trace empty ops) issued.token new →
      (∀ token ∈ ((refreshMachine hash).trace empty ops).filterMap returnedBy,
        token.token = new → token.userId = issued.userId) ∧
      ∀ key record, ((refreshMachine hash).run empty ops).lookup key = some record →
        record.tokenHash = hash new → record.userId = issued.userId
  oneActive : ∀ root first second firstKey secondKey left right,
    Lineage ((refreshMachine hash).trace empty ops) root first →
    Lineage ((refreshMachine hash).trace empty ops) root second →
    ((refreshMachine hash).run empty ops).lookup firstKey = some left → left.tokenHash = hash first →
    ((refreshMachine hash).run empty ops).lookup secondKey = some right → right.tokenHash = hash second →
    left.revoked = false → right.revoked = false → firstKey = secondKey

def Owned (store : RefreshStore) (rawToken userId : String) : Prop :=
  ∃ key record, store.lookup key = some record ∧ record.tokenHash = hash rawToken ∧ record.userId = userId

def HashUnique (store : RefreshStore) : Prop :=
  ∀ first second left right, store.lookup first = some left → store.lookup second = some right →
    left.tokenHash = right.tokenHash → first = second

theorem found_of_hash_unique (store : RefreshStore) (unique : HashUnique store) (key rawToken : String)
    (record : StoredRefreshToken) (present : store.lookup key = some record) (hashed : record.tokenHash = hash rawToken) :
    Table.findEntry (matching hash rawToken) store.tokens = some ⟨key, record⟩ :=
  Table.find_entry_unique (matching hash rawToken) store.tokens key record present
    ((matching_iff hash rawToken record).mpr hashed)
    (fun found other otherPresent matched => unique found key other record otherPresent present
      (((matching_iff hash rawToken other).mp matched).trans hashed.symm))

theorem verify_found (rawToken : String) (store : RefreshStore) (now : Int) (id userId : String)
    (verified : verify hash rawToken now store = some (id, userId)) :
    ∃ record, Table.findEntry (matching hash rawToken) store.tokens = some ⟨id, record⟩ ∧
      record.userId = userId ∧ record.revoked = false ∧ now ≤ record.expiresAt := by
  cases found : Table.findEntry (matching hash rawToken) store.tokens with
  | none => simp [verify, Table.findValue, found] at verified
  | some entry =>
      obtain ⟨key, record⟩ := entry
      have stored := (Table.find_entry_some _ store.tokens key record found).1
      simp only [verify, Table.findValue, found, Option.map_some] at verified
      by_cases spent : record.revoked = true
      · simp [spent] at verified
      · by_cases late : now > record.expiresAt
        · simp [spent, late] at verified
        · simp only [spent, late, Bool.false_eq_true, if_false, Option.some.injEq, Prod.mk.injEq] at verified
          have sameKey : key = id := (store.keyed key record stored).symm.trans verified.1
          subst key
          exact ⟨record, rfl, verified.2, Bool.eq_false_iff.mpr spent, Int.not_lt.mp late⟩

theorem run_hash_unique (ops : List RefreshOp) (run : FreshRun hash ops) :
    HashUnique ((refreshMachine hash).run empty ops) := by
  have minted := (refresh_history hash ops run).minted
  rw [Machine.trace_inputs] at minted
  exact minted_unique hash ops run _ minted

theorem verify_revoked (store : RefreshStore) (unique : HashUnique store) (key : String)
    (record : StoredRefreshToken) (present : store.lookup key = some record) (revoked : record.revoked = true)
    (rawToken : String) (now : Int) (hashed : hash rawToken = record.tokenHash) :
    verify hash rawToken now store = none := by
  have found := found_of_hash_unique hash store unique key rawToken record present hashed.symm
  simp only [verify, Table.findValue, found, Option.map_some, revoked, if_true]

theorem owned_unique (store : RefreshStore) (unique : HashUnique store) (rawToken first second : String)
    (left : Owned hash store rawToken first) (right : Owned hash store rawToken second) : first = second := by
  obtain ⟨leftKey, leftRecord, leftPresent, leftHashed, rfl⟩ := left
  obtain ⟨rightKey, rightRecord, rightPresent, rightHashed, rfl⟩ := right
  have keys := unique leftKey rightKey leftRecord rightRecord leftPresent rightPresent
    (leftHashed.trans rightHashed.symm)
  rw [keys, rightPresent, Option.some.injEq] at leftPresent
  rw [leftPresent]

theorem rotation_returned (rawToken : String) (trace : List RefreshEvent) (token : IssuedRefreshToken)
    (member : token ∈ rotations rawToken trace) : token ∈ trace.filterMap returnedBy := by
  obtain ⟨event, present, rotated⟩ := List.mem_filterMap.mp member
  refine List.mem_filterMap.mpr ⟨event, present, ?_⟩
  simp only [rotatedTo] at rotated
  split at rotated
  · next presented ttlSecs checkedAt fresh now issued inputEq outputEq =>
      simp only [returnedBy, outputEq]
      by_cases same : presented = rawToken
      · simpa only [same, if_true] using rotated
      · simp [same] at rotated
  · simp at rotated

theorem lineage_owned (ops : List RefreshOp) (run : FreshRun hash ops) (userId root new : String)
    (owned : Owned hash ((refreshMachine hash).run empty ops) root userId)
    (lineage : Lineage ((refreshMachine hash).trace empty ops) root new) :
    Owned hash ((refreshMachine hash).run empty ops) new userId := by
  have history := refresh_history hash ops run
  have unique := run_hash_unique hash ops run
  induction lineage with
  | refl => exact owned
  | tail earlier rotated ih =>
      obtain ⟨token, member, named⟩ := rotated
      obtain ⟨oldKey, old, oldPresent, oldHashed, oldOwner, _⟩ := history.spent _ token member
      have same := owned_unique hash _ unique _ _ _ ih ⟨oldKey, old, oldPresent, oldHashed, oldOwner⟩
      have returned := rotation_returned _ _ token member
      obtain ⟨newKey, record, present, hashed, owner⟩ := history.returned token returned
      exact ⟨newKey, record, present, by rw [hashed, named], by rw [owner, same]⟩

theorem lineage_same_owner (ops : List RefreshOp) (run : FreshRun hash ops) (issued : IssuedRefreshToken)
    (member : issued ∈ ((refreshMachine hash).trace empty ops).filterMap issuedBy) (new : String)
    (lineage : Lineage ((refreshMachine hash).trace empty ops) issued.token new) :
    (∀ token ∈ ((refreshMachine hash).trace empty ops).filterMap returnedBy,
      token.token = new → token.userId = issued.userId) ∧
    ∀ key record, ((refreshMachine hash).run empty ops).lookup key = some record →
      record.tokenHash = hash new → record.userId = issued.userId := by
  have history := refresh_history hash ops run
  have unique := run_hash_unique hash ops run
  have returned : issued ∈ ((refreshMachine hash).trace empty ops).filterMap returnedBy := by
    obtain ⟨event, present, output⟩ := List.mem_filterMap.mp member
    refine List.mem_filterMap.mpr ⟨event, present, ?_⟩
    simp only [issuedBy] at output
    split at output
    · next token outputEq => simpa only [returnedBy, outputEq] using output
    · simp at output
  have owned := lineage_owned hash ops run issued.userId issued.token new (history.returned issued returned) lineage
  constructor
  · rintro token tokenMember rfl
    exact owned_unique hash _ unique _ _ _ (history.returned token tokenMember) owned
  · intro key record present hashed
    exact owned_unique hash _ unique _ _ _ ⟨key, record, present, hashed, rfl⟩ owned

theorem rotated_right_unique (ops : List RefreshOp) (run : FreshRun hash ops) :
    Relator.RightUnique (Rotated ((refreshMachine hash).trace empty ops)) := by
  rintro old first second ⟨left, leftMember, rfl⟩ ⟨right, rightMember, rfl⟩
  have single := (refresh_history hash ops run).single old
  cases all : rotations old ((refreshMachine hash).trace empty ops) with
  | nil => simp [all] at leftMember
  | cons token rest =>
      have none_left : rest = [] := by
        apply List.eq_nil_of_length_eq_zero
        simp only [all, List.length_cons] at single
        omega
      simp only [all, none_left, List.mem_singleton] at leftMember rightMember
      rw [leftMember, rightMember]

theorem lineage_ancestor_spent (ops : List RefreshOp) (run : FreshRun hash ops) (first second : String)
    (lineage : Lineage ((refreshMachine hash).trace empty ops) first second) (firstKey secondKey : String)
    (left right : StoredRefreshToken)
    (leftPresent : ((refreshMachine hash).run empty ops).lookup firstKey = some left)
    (leftHashed : left.tokenHash = hash first)
    (rightPresent : ((refreshMachine hash).run empty ops).lookup secondKey = some right)
    (rightHashed : right.tokenHash = hash second) (active : left.revoked = false) : firstKey = secondKey := by
  have unique := run_hash_unique hash ops run
  rcases lineage.cases_head with rfl | ⟨middle, ⟨token, member, _⟩, _⟩
  · exact unique firstKey secondKey left right leftPresent rightPresent (leftHashed.trans rightHashed.symm)
  · obtain ⟨key, record, present, hashed, _, revoked⟩ := (refresh_history hash ops run).spent first token member
    have same := unique key firstKey record left present leftPresent (hashed.trans leftHashed.symm)
    rw [same, leftPresent, Option.some.injEq] at present
    rw [present, revoked] at active
    cases active

theorem lineage_one_active (ops : List RefreshOp) (run : FreshRun hash ops)
    (root first second firstKey secondKey : String) (left right : StoredRefreshToken)
    (toFirst : Lineage ((refreshMachine hash).trace empty ops) root first)
    (toSecond : Lineage ((refreshMachine hash).trace empty ops) root second)
    (leftPresent : ((refreshMachine hash).run empty ops).lookup firstKey = some left)
    (leftHashed : left.tokenHash = hash first)
    (rightPresent : ((refreshMachine hash).run empty ops).lookup secondKey = some right)
    (rightHashed : right.tokenHash = hash second) (leftActive : left.revoked = false)
    (rightActive : right.revoked = false) : firstKey = secondKey := by
  rcases Relation.ReflTransGen.total_of_right_unique (rotated_right_unique hash ops run) toFirst toSecond with
    forward | backward
  · exact lineage_ancestor_spent hash ops run first second forward firstKey secondKey left right
      leftPresent leftHashed rightPresent rightHashed leftActive
  · exact (lineage_ancestor_spent hash ops run second first backward secondKey firstKey right left
      rightPresent rightHashed leftPresent leftHashed rightActive).symm

theorem revoked_for_good (earlier later : List RefreshOp) (run : FreshRun hash (earlier ++ later)) (key : String)
    (record : StoredRefreshToken) (present : ((refreshMachine hash).run empty earlier).lookup key = some record)
    (revoked : record.revoked = true) :
    ((refreshMachine hash).run empty (earlier ++ later)).lookup key = some record ∧
      ∀ rawToken now, hash rawToken = record.tokenHash →
        verify hash rawToken now ((refreshMachine hash).run empty (earlier ++ later)) = none := by
  obtain ⟨revised, after, revises⟩ := run_evolves hash earlier later run key record present
  have same := revises_revoked record revised revises revoked
  subst revised
  exact ⟨after, verify_revoked hash _ (run_hash_unique hash _ run) key record after revoked⟩

theorem rotation_safety (ops : List RefreshOp) (run : FreshRun hash ops) : RotationSafe hash ops where
  singleUse := (refresh_history hash ops run).single
  revokedForGood := by
    rintro earlier later key record rfl present revoked
    exact revoked_for_good hash earlier later run key record present revoked
  sameOwner := lineage_same_owner hash ops run
  oneActive := by
    intro root first second firstKey secondKey left right toFirst toSecond leftPresent leftHashed rightPresent
      rightHashed leftActive rightActive
    exact lineage_one_active hash ops run root first second firstKey secondKey left right toFirst toSecond
      leftPresent leftHashed rightPresent rightHashed leftActive rightActive

end Safety

-- SHA-256 on three short tokens; no other token occurs in the runs below.
def sampleHash (token : String) : String :=
  if token = "t1" then "628b49d96dcde97a430dd4f597705899e09a968f793491e4b704cae33a40dc02"
  else if token = "t2" then "c44474038d459e40e4714afefa7bf8dae9f9834b22f5e8ec1dd434ecb62b512e"
  else if token = "t3" then "cece8a9cecfb6c7e7ee4f3346d5e2544138bfb6e33bec6042a17333a4d3180b0"
  else token

theorem fresh_run_of_decided (hash : String → String) (ops : List RefreshOp)
    (ids : ((drawn ops).map Fresh.id).Nodup) (raws : ((drawn ops).map Fresh.raw).Nodup)
    (injective : ∀ first ∈ usedTokens ops, ∀ second ∈ usedTokens ops, hash first = hash second → first = second) :
    FreshRun hash ops :=
  ⟨ids, raws, fun first firstUsed second secondUsed same => injective first firstUsed second secondUsed same⟩

def replayRun : List RefreshOp :=
  [.issue "u-alice" defaultTtlSecs ⟨"r1", "t1"⟩ 0,
    .rotate "t1" defaultTtlSecs 10 ⟨"r2", "t2"⟩ 10,
    .rotate "t1" defaultTtlSecs 20 ⟨"r3", "t3"⟩ 20]

theorem rotation_safety_replay_run :
    rotations "t1" ((refreshMachine sampleHash).trace empty replayRun) =
      [⟨"t2", "r2", "u-alice", timestampAdd 10 defaultTtlSecs⟩] ∧ RotationSafe sampleHash replayRun :=
  ⟨by decide, rotation_safety sampleHash replayRun
    (fresh_run_of_decided sampleHash replayRun (by decide) (by decide) (by decide))⟩

section Replay

variable (hash : String → String)

def ReachableStore (store : RefreshStore) : Prop :=
  ∃ ops, FreshRun hash ops ∧ (refreshMachine hash).run empty ops = store

structure ReplayDetected (before : RefreshStore) (userId : String)
    (result : RefreshStore × Option IssuedRefreshToken) : Prop where
  refused : result.2 = none
  family : ∀ key record, result.1.lookup key = some record → record.userId = userId → record.revoked = true
  others : ∀ key record, record.userId ≠ userId →
    (result.1.lookup key = some record ↔ before.lookup key = some record)

def FamilyRevoked (store : RefreshStore) (userId : String) : Prop :=
  ∀ key record, store.lookup key = some record → record.userId = userId → record.revoked = true

theorem reachable_hash_unique (store : RefreshStore) (reachable : ReachableStore hash store) : HashUnique store := by
  obtain ⟨ops, run, rfl⟩ := reachable
  exact run_hash_unique hash ops run

theorem rotate_replayed (store : RefreshStore) (unique : HashUnique store) (rawToken : String)
    (ttlSecs checkedAt : Int) (fresh : Fresh) (now : Int) (key : String) (record : StoredRefreshToken)
    (present : store.lookup key = some record) (hashed : record.tokenHash = hash rawToken)
    (revoked : record.revoked = true) :
    rotate hash rawToken ttlSecs checkedAt fresh now store =
      if checkedAt > record.expiresAt then (store, none)
      else (store.revokeWhere (fun other => other.userId == record.userId), none) := by
  have found := found_of_hash_unique hash store unique key rawToken record present hashed
  simp only [rotate, found, revoked, if_true]

theorem revoke_family_detected (store : RefreshStore) (userId : String) :
    ReplayDetected store userId (store.revokeWhere (fun other => other.userId == userId), none) := by
  constructor
  · rfl
  · intro key record present owner
    rw [lookup_revoke_where] at present
    obtain ⟨earlier, _, rfl⟩ := Option.map_eq_some_iff.mp present
    by_cases mine : (earlier.userId == userId) = true
    · simp [mine]
    · simp only [mine, Bool.false_eq_true, if_false] at owner
      simp [owner] at mine
  · intro key record other
    rw [lookup_revoke_where]
    constructor
    · intro present
      obtain ⟨earlier, before, rfl⟩ := Option.map_eq_some_iff.mp present
      by_cases mine : (earlier.userId == userId) = true
      · simp only [mine, if_true, revoke_record_user] at other
        exact absurd (beq_iff_eq.mp mine) other
      · simpa only [mine, Bool.false_eq_true, if_false] using before
    · intro before
      simp [before, other]

theorem replay_detected_iff (store : RefreshStore) (reachable : ReachableStore hash store) (rawToken : String)
    (ttlSecs checkedAt : Int) (fresh : Fresh) (now : Int) (key : String) (record : StoredRefreshToken)
    (present : store.lookup key = some record) (hashed : record.tokenHash = hash rawToken)
    (revoked : record.revoked = true) :
    ReplayDetected store record.userId (rotate hash rawToken ttlSecs checkedAt fresh now store) ↔
      checkedAt ≤ record.expiresAt ∨ FamilyRevoked store record.userId := by
  have unique := reachable_hash_unique hash store reachable
  rw [rotate_replayed hash store unique rawToken ttlSecs checkedAt fresh now key record present hashed revoked]
  by_cases expired : checkedAt > record.expiresAt
  · have late : ¬ checkedAt ≤ record.expiresAt := by omega
    simp only [expired, late, if_true, false_or]
    exact ⟨fun detected => detected.family, fun family => ⟨rfl, family, fun _ _ _ => Iff.rfl⟩⟩
  · have within : checkedAt ≤ record.expiresAt := by omega
    simp only [expired, within, if_false, true_or, iff_true]
    exact revoke_family_detected store record.userId

end Replay

-- The second record outlives the first by ten seconds; the replay comes in between.
def rotatedStore : RefreshStore :=
  (refreshMachine sampleHash).run empty
    [.issue "u-alice" defaultTtlSecs ⟨"r1", "t1"⟩ 0, .rotate "t1" defaultTtlSecs 10 ⟨"r2", "t2"⟩ 10]

theorem rotated_store_reachable : ReachableStore sampleHash rotatedStore :=
  ⟨_, fresh_run_of_decided sampleHash _ (by decide) (by decide) (by decide), rfl⟩

def spentRecord : StoredRefreshToken :=
  { id := "r1", userId := "u-alice", tokenHash := sampleHash "t1", expiresAt := 604800, revoked := true, createdAt := 0 }

theorem replay_detected_iff_in_time :
    ReplayDetected rotatedStore "u-alice" (rotate sampleHash "t1" defaultTtlSecs 604800 ⟨"r3", "t3"⟩ 604800 rotatedStore) :=
  (replay_detected_iff sampleHash rotatedStore rotated_store_reachable "t1" defaultTtlSecs 604800 ⟨"r3", "t3"⟩ 604800
    "r1" spentRecord (by decide) (by decide) (by decide)).mpr (Or.inl (by decide))

theorem expired_replay_undetected :
    ReachableStore sampleHash rotatedStore ∧ rotatedStore.lookup "r1" = some spentRecord ∧
      spentRecord.tokenHash = sampleHash "t1" ∧ spentRecord.revoked = true ∧
      ¬ ReplayDetected rotatedStore "u-alice"
        (rotate sampleHash "t1" defaultTtlSecs 604805 ⟨"r3", "t3"⟩ 604805 rotatedStore) := by
  refine ⟨rotated_store_reachable, by decide, by decide, by decide, ?_⟩
  intro detected
  have live : (rotate sampleHash "t1" defaultTtlSecs 604805 ⟨"r3", "t3"⟩ 604805 rotatedStore).1.lookup "r2" =
      some { id := "r2", userId := "u-alice", tokenHash := sampleHash "t2", expiresAt := 604810,
             revoked := false, createdAt := 10 } := by decide
  have revoked := detected.family "r2" _ live rfl
  simp at revoked

end Moxui.Auth
