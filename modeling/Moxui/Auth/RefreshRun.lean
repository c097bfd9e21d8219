import Mathlib.Data.Set.Function
import Mathlib.Logic.Relation
import Moxui.Lib.Machine
import Moxui.Auth.Refresh

set_option autoImplicit false

namespace Moxui.Auth

open RefreshStore

-- One call on the shared store. `rehash` is the map presenting its entries in another order.
inductive RefreshOp where
  | issue (userId : String) (ttlSecs : Int) (fresh : Fresh) (now : Int)
  | verify (rawToken : String) (now : Int)
  | revoke (id : String)
  | revokeAllForUser (userId : String)
  | rotate (rawToken : String) (ttlSecs : Int) (checkedAt : Int) (fresh : Fresh) (now : Int)
  | rehash (order : Table String StoredRefreshToken)

inductive RefreshReply where
  | issued (token : IssuedRefreshToken)
  | verified (owner : Option (String × String))
  | revoked (found : Bool)
  | revokedAll (count : Nat)
  | rotated (token : Option IssuedRefreshToken)
  | rehashed

def refreshStep (hash : String → String) (store : RefreshStore) : RefreshOp → RefreshStore × RefreshReply
  | .issue userId ttlSecs fresh now =>
      ((issue hash userId ttlSecs fresh now store).1, .issued (issue hash userId ttlSecs fresh now store).2)
  | .verify rawToken now => (store, .verified (verify hash rawToken now store))
  | .revoke id => ((revoke id store).1, .revoked (revoke id store).2)
  | .revokeAllForUser userId =>
      ((revokeAllForUser userId store).1, .revokedAll (revokeAllForUser userId store).2)
  | .rotate rawToken ttlSecs checkedAt fresh now =>
      ((rotate hash rawToken ttlSecs checkedAt fresh now store).1,
        .rotated (rotate hash rawToken ttlSecs checkedAt fresh now store).2)
  | .rehash order => (store.rehash order, .rehashed)

def refreshMachine (hash : String → String) : Machine RefreshStore RefreshOp RefreshReply :=
  ⟨refreshStep hash⟩

abbrev RefreshEvent := Machine.Event RefreshStore RefreshOp RefreshReply

namespace RefreshOp

def draws : RefreshOp → List Fresh
  | .issue _ _ fresh _ => [fresh]
  | .rotate _ _ _ fresh _ => [fresh]
  | _ => []

def presented : RefreshOp → List String
  | .verify rawToken _ => [rawToken]
  | .rotate rawToken _ _ _ _ => [rawToken]
  | _ => []

end RefreshOp

def drawn (ops : List RefreshOp) : List Fresh :=
  ops.flatMap RefreshOp.draws

def usedTokens (ops : List RefreshOp) : List String :=
  (drawn ops).map Fresh.raw ++ ops.flatMap RefreshOp.presented

-- Ids and tokens are drawn once, and SHA-256 does not collide on the tokens of the run.
structure FreshRun (hash : String → String) (ops : List RefreshOp) : Prop where
  ids : ((drawn ops).map Fresh.id).Nodup
  raws : ((drawn ops).map Fresh.raw).Nodup
  injective : Set.InjOn hash {raw | raw ∈ usedTokens ops}

def Revises (record later : StoredRefreshToken) : Prop :=
  later = record ∨ later = revokeRecord record

-- All that a call does to the records: it may revoke some and add what it has drawn.
structure Evolves (hash : String → String) (draws : List Fresh) (before after : RefreshStore) : Prop where
  kept : ∀ key record, before.lookup key = some record →
    ∃ later, after.lookup key = some later ∧ Revises record later
  origin : ∀ key later, after.lookup key = some later →
    (∃ record, before.lookup key = some record ∧ Revises record later) ∨
      ∃ fresh ∈ draws, key = fresh.id ∧ later.tokenHash = hash fresh.raw

section Evolution

variable (hash : String → String)

theorem revises_hash (record later : StoredRefreshToken) (revises : Revises record later) :
    later.tokenHash = record.tokenHash := by
  rcases revises with rfl | rfl <;> rfl

theorem revises_user (record later : StoredRefreshToken) (revises : Revises record later) :
    later.userId = record.userId := by
  rcases revises with rfl | rfl <;> rfl

theorem revises_revoked (record later : StoredRefreshToken) (revises : Revises record later)
    (revoked : record.revoked = true) : later = record := by
  rcases revises with rfl | rfl
  · rfl
  · exact revoke_record_idem record revoked

theorem revises_trans (first second third : StoredRefreshToken) (early : Revises first second)
    (late : Revises second third) : Revises first third := by
  rcases early with rfl | rfl
  · exact late
  · rcases late with rfl | rfl
    · exact Or.inr rfl
    · exact Or.inr rfl

theorem evolves_same_lookup (draws : List Fresh) (before after : RefreshStore)
    (same : ∀ key, after.lookup key = before.lookup key) : Evolves hash draws before after := by
  constructor
  · intro key record present
    exact ⟨record, by rw [same, present], Or.inl rfl⟩
  · intro key later present
    exact Or.inl ⟨later, by rw [← same, present], Or.inl rfl⟩

theorem evolves_revoke_where (draws : List Fresh) (chosen : StoredRefreshToken → Bool) (store : RefreshStore) :
    Evolves hash draws store (store.revokeWhere chosen) := by
  have revises : ∀ record, Revises record (if chosen record then revokeRecord record else record) := by
    intro record
    by_cases hit : chosen record
    · simp [Revises, hit]
    · simp [Revises, hit]
  constructor
  · intro key record present
    exact ⟨_, by rw [lookup_revoke_where, present]; rfl, revises record⟩
  · intro key later present
    rw [lookup_revoke_where] at present
    obtain ⟨record, before, rfl⟩ := Option.map_eq_some_iff.mp present
    exact Or.inl ⟨record, before, revises record⟩

theorem evolves_revoke_key (draws : List Fresh) (target : String) (store : RefreshStore) :
    Evolves hash draws store (store.revokeKey target) := by
  constructor
  · intro key record present
    by_cases same : key = target
    · subst key
      exact ⟨revokeRecord record, by simp [lookup_revoke_key, present], Or.inr rfl⟩
    · exact ⟨record, by simp [lookup_revoke_key, same, present], Or.inl rfl⟩
  · intro key later present
    rw [lookup_revoke_key] at present
    by_cases same : key = target
    · rw [if_pos same] at present
      obtain ⟨record, before, rfl⟩ := Option.map_eq_some_iff.mp present
      exact Or.inl ⟨record, before, Or.inr rfl⟩
    · rw [if_neg same] at present
      exact Or.inl ⟨later, present, Or.inl rfl⟩

theorem evolves_insert (userId : String) (ttlSecs : Int) (fresh : Fresh) (now : Int) (store : RefreshStore)
    (absent : store.lookup fresh.id = none) :
    Evolves hash [fresh] store (store.insert (newRecord hash userId ttlSecs fresh now)) := by
  constructor
  · intro key record present
    have other : key ≠ fresh.id := by
      rintro rfl
      simp [absent] at present
    exact ⟨record, by simp [lookup_insert, newRecord, other, present], Or.inl rfl⟩
  · intro key later present
    rw [lookup_insert] at present
    by_cases same : key = fresh.id
    · simp only [newRecord, same, if_true, Option.some.injEq] at present
      subst later
      exact Or.inr ⟨fresh, List.mem_singleton_self fresh, same, rfl⟩
    · simp only [newRecord, same, if_false] at present
      exact Or.inl ⟨later, present, Or.inl rfl⟩

theorem evolves_trans (draws : List Fresh) (first second third : RefreshStore)
    (early : Evolves hash draws first second) (late : Evolves hash draws second third) :
    Evolves hash draws first third := by
  constructor
  · intro key record present
    obtain ⟨middle, middlePresent, toMiddle⟩ := early.kept key record present
    obtain ⟨later, laterPresent, toLater⟩ := late.kept key middle middlePresent
    exact ⟨later, laterPresent, revises_trans record middle later toMiddle toLater⟩
  · intro key later present
    rcases late.origin key later present with ⟨middle, middlePresent, toLater⟩ | drawn
    · rcases early.origin key middle middlePresent with ⟨record, before, toMiddle⟩ | ⟨fresh, member, named, hashed⟩
      · exact Or.inl ⟨record, before, revises_trans record middle later toMiddle toLater⟩
      · exact Or.inr ⟨fresh, member, named, (revises_hash middle later toLater).trans hashed⟩
    · exact Or.inr drawn

theorem rotate_cases (rawToken : String) (ttlSecs checkedAt : Int) (fresh : Fresh) (now : Int) (store : RefreshStore) :
    (rotate hash rawToken ttlSecs checkedAt fresh now store = (store, none)) ∨
    (∃ id record, store.lookup id = some record ∧ record.tokenHash = hash rawToken ∧ record.revoked = true ∧
      rotate hash rawToken ttlSecs checkedAt fresh now store =
        (store.revokeWhere (fun other => other.userId == record.userId), none)) ∨
    (∃ id record, store.lookup id = some record ∧ record.tokenHash = hash rawToken ∧ record.revoked = false ∧
      rotate hash rawToken ttlSecs checkedAt fresh now store =
        ((store.revokeKey id).insert (newRecord hash record.userId ttlSecs fresh now),
          some (newIssued record.userId ttlSecs fresh now))) := by
  cases found : Table.findEntry (matching hash rawToken) store.tokens with
  | none => exact Or.inl (by simp only [rotate, found])
  | some entry =>
      obtain ⟨id, record⟩ := entry
      obtain ⟨present, matched⟩ := Table.find_entry_some _ store.tokens id record found
      have hashed := (matching_iff hash rawToken record).mp matched
      by_cases expired : checkedAt > record.expiresAt
      · exact Or.inl (by simp only [rotate, found, expired, if_true])
      · cases revoked : record.revoked with
        | true =>
            refine Or.inr (Or.inl ⟨id, record, present, hashed, revoked, ?_⟩)
            simp only [rotate, found, expired, revoked, if_true, if_false]
        | false =>
            refine Or.inr (Or.inr ⟨id, record, present, hashed, revoked, ?_⟩)
            simp only [rotate, found, expired, revoked, if_false, Bool.false_eq_true]

theorem step_evolves (store : RefreshStore) (op : RefreshOp)
    (absent : ∀ fresh ∈ op.draws, store.lookup fresh.id = none) :
    Evolves hash op.draws store (refreshStep hash store op).1 := by
  cases op with
  | issue userId ttlSecs fresh now =>
      exact evolves_insert hash userId ttlSecs fresh now store (absent fresh (List.mem_singleton_self fresh))
  | verify rawToken now => exact evolves_same_lookup hash _ store store fun _ => rfl
  | revoke id =>
      simp only [refreshStep, revoke]
      cases present : store.lookup id with
      | none => exact evolves_same_lookup hash _ store store fun _ => rfl
      | some record => exact evolves_revoke_key hash _ id store
  | revokeAllForUser userId => exact evolves_revoke_where hash _ (liveOf userId) store
  | rotate rawToken ttlSecs checkedAt fresh now =>
      have unused : store.lookup fresh.id = none := absent fresh (List.mem_singleton_self fresh)
      rcases rotate_cases hash rawToken ttlSecs checkedAt fresh now store with
        nothing | ⟨id, record, present, hashed, revoked, replay⟩ | ⟨id, record, present, hashed, active, success⟩
      · simp only [refreshStep, nothing]
        exact evolves_same_lookup hash _ store store fun _ => rfl
      · simp only [refreshStep, replay]
        exact evolves_revoke_where hash _ _ store
      · simp only [refreshStep, success]
        have still : (store.revokeKey id).lookup fresh.id = none := by
          simp [lookup_revoke_key, unused]
        exact evolves_trans hash _ store (store.revokeKey id) _ (evolves_revoke_key hash _ id store)
          (evolves_insert hash record.userId ttlSecs fresh now _ still)
  | rehash order => exact evolves_same_lookup hash _ store _ (lookup_rehash order store)

end Evolution

section History

variable (hash : String → String)

def rotatedTo (rawToken : String) (event : RefreshEvent) : Option IssuedRefreshToken :=
  match event.input, event.output with
  | .rotate presented _ _ _ _, .rotated (some token) => if presented = rawToken then some token else none
  | _, _ => none

def rotations (rawToken : String) (trace : List RefreshEvent) : List IssuedRefreshToken :=
  trace.filterMap (rotatedTo rawToken)

def issuedBy (event : RefreshEvent) : Option IssuedRefreshToken :=
  match event.output with
  | .issued token => some token
  | _ => none

def returnedBy (event : RefreshEvent) : Option IssuedRefreshToken :=
  match event.output with
  | .issued token => some token
  | .rotated token => token
  | _ => none

def Rotated (trace : List RefreshEvent) (old new : String) : Prop :=
  ∃ token ∈ rotations old trace, token.token = new

-- A lineage is what the store does not keep: an issued token and all that rotations made of it.
def Lineage (trace : List RefreshEvent) : String → String → Prop :=
  Relation.ReflTransGen (Rotated trace)

structure RefreshHistory (trace : List RefreshEvent) (store : RefreshStore) : Prop where
  minted : ∀ key record, store.lookup key = some record →
    ∃ fresh ∈ drawn (trace.map Machine.Event.input), key = fresh.id ∧ record.tokenHash = hash fresh.raw
  single : ∀ rawToken, (rotations rawToken trace).length ≤ 1
  spent : ∀ rawToken token, token ∈ rotations rawToken trace →
    ∃ key record, store.lookup key = some record ∧ record.tokenHash = hash rawToken ∧
      record.userId = token.userId ∧ record.revoked = true
  returned : ∀ token, token ∈ trace.filterMap returnedBy →
    ∃ key record, store.lookup key = some record ∧ record.tokenHash = hash token.token ∧
      record.userId = token.userId

theorem drawn_snoc (ops : List RefreshOp) (op : RefreshOp) : drawn (ops ++ [op]) = drawn ops ++ op.draws := by
  simp [drawn]

theorem fresh_run_earlier (earlier later : List RefreshOp) (fresh : FreshRun hash (earlier ++ later)) :
    FreshRun hash earlier := by
  have split : drawn (earlier ++ later) = drawn earlier ++ drawn later := List.flatMap_append
  constructor
  · have ids := fresh.ids
    rw [split, List.map_append] at ids
    exact ids.of_append_left
  · have raws := fresh.raws
    rw [split, List.map_append] at raws
    exact raws.of_append_left
  · apply fresh.injective.mono
    intro raw used
    simp only [usedTokens, Set.mem_ofPred_eq, List.mem_append, split, List.map_append,
      List.flatMap_append] at used ⊢
    rcases used with drawn | presented
    · exact Or.inl (Or.inl drawn)
    · exact Or.inr (Or.inl presented)

theorem drawn_used (ops : List RefreshOp) (fresh : Fresh) (member : fresh ∈ drawn ops) :
    fresh.raw ∈ usedTokens ops :=
  List.mem_append.mpr (Or.inl (List.mem_map_of_mem member))

theorem draw_absent (ops : List RefreshOp) (op : RefreshOp) (run : FreshRun hash (ops ++ [op])) (store : RefreshStore)
    (minted : ∀ key record, store.lookup key = some record →
      ∃ fresh ∈ drawn ops, key = fresh.id ∧ record.tokenHash = hash fresh.raw) :
    ∀ fresh ∈ op.draws, store.lookup fresh.id = none := by
  intro fresh member
  cases present : store.lookup fresh.id with
  | none => rfl
  | some record =>
      obtain ⟨earlier, earlierMember, named, hashed⟩ := minted fresh.id record present
      have ids := run.ids
      rw [drawn_snoc, List.map_append] at ids
      have disjoint := List.disjoint_of_nodup_append ids
      exact absurd (List.mem_map_of_mem member) (disjoint (named ▸ List.mem_map_of_mem earlierMember))

theorem minted_unique (ops : List RefreshOp) (run : FreshRun hash ops) (store : RefreshStore)
    (minted : ∀ key record, store.lookup key = some record →
      ∃ fresh ∈ drawn ops, key = fresh.id ∧ record.tokenHash = hash fresh.raw)
    (first second : String) (left right : StoredRefreshToken) (leftPresent : store.lookup first = some left)
    (rightPresent : store.lookup second = some right) (same : left.tokenHash = right.tokenHash) :
    first = second := by
  obtain ⟨leftFresh, leftMember, leftNamed, leftHashed⟩ := minted first left leftPresent
  obtain ⟨rightFresh, rightMember, rightNamed, rightHashed⟩ := minted second right rightPresent
  have hashes : hash leftFresh.raw = hash rightFresh.raw := by
    rw [← leftHashed, ← rightHashed, same]
  have raws := run.injective (drawn_used ops leftFresh leftMember) (drawn_used ops rightFresh rightMember) hashes
  have draws := List.inj_on_of_nodup_map run.raws leftMember rightMember raws
  rw [leftNamed, rightNamed, draws]

theorem rotations_snoc (rawToken : String) (trace : List RefreshEvent) (event : RefreshEvent) :
    rotations rawToken (trace ++ [event]) = rotations rawToken trace ++ (rotatedTo rawToken event).toList := by
  cases result : rotatedTo rawToken event <;> simp [rotations, result]

theorem rotated_to_some (store : RefreshStore) (op : RefreshOp) (rawToken : String) (token : IssuedRefreshToken)
    (rotated : rotatedTo rawToken (Machine.event (refreshMachine hash) store op) = some token) :
    ∃ ttlSecs checkedAt fresh now, op = .rotate rawToken ttlSecs checkedAt fresh now ∧
      (rotate hash rawToken ttlSecs checkedAt fresh now store).2 = some token := by
  cases op with
  | rotate presented ttlSecs checkedAt fresh now =>
      simp only [rotatedTo, Machine.event, refreshMachine, refreshStep] at rotated
      cases result : (rotate hash presented ttlSecs checkedAt fresh now store).2 with
      | none => simp [result] at rotated
      | some issued =>
          simp only [result] at rotated
          by_cases same : presented = rawToken
          · subst presented
            simp only [if_true, Option.some.injEq] at rotated
            exact ⟨ttlSecs, checkedAt, fresh, now, rfl, by rw [result, rotated]⟩
          · simp [same] at rotated
  | issue userId ttlSecs fresh now => simp [rotatedTo, Machine.event, refreshMachine, refreshStep] at rotated
  | verify presented now => simp [rotatedTo, Machine.event, refreshMachine, refreshStep] at rotated
  | revoke id => simp [rotatedTo, Machine.event, refreshMachine, refreshStep] at rotated
  | revokeAllForUser userId => simp [rotatedTo, Machine.event, refreshMachine, refreshStep] at rotated
  | rehash order => simp [rotatedTo, Machine.event, refreshMachine, refreshStep] at rotated

theorem rotate_success (rawToken : String) (ttlSecs checkedAt : Int) (fresh : Fresh) (now : Int)
    (store : RefreshStore) (token : IssuedRefreshToken) (absent : store.lookup fresh.id = none)
    (success : (rotate hash rawToken ttlSecs checkedAt fresh now store).2 = some token) :
    ∃ id record, store.lookup id = some record ∧ record.tokenHash = hash rawToken ∧ record.revoked = false ∧
      token = newIssued record.userId ttlSecs fresh now ∧
      (rotate hash rawToken ttlSecs checkedAt fresh now store).1.lookup id = some (revokeRecord record) ∧
      (rotate hash rawToken ttlSecs checkedAt fresh now store).1.lookup fresh.id =
        some (newRecord hash record.userId ttlSecs fresh now) := by
  rcases rotate_cases hash rawToken ttlSecs checkedAt fresh now store with
    nothing | ⟨id, record, present, hashed, revoked, replay⟩ | ⟨id, record, present, hashed, active, rotated⟩
  · simp [nothing] at success
  · simp [replay] at success
  · simp only [rotated, Option.some.injEq] at success
    have other : id ≠ fresh.id := by
      rintro rfl
      simp [absent] at present
    refine ⟨id, record, present, hashed, active, success.symm, ?_, ?_⟩
    · simp [rotated, lookup_insert, newRecord, other, lookup_revoke_key, present]
    · simp [rotated, lookup_insert, newRecord]

theorem history_minted (trace : List RefreshEvent) (store after : RefreshStore) (op : RefreshOp)
    (history : RefreshHistory hash trace store) (evolves : Evolves hash op.draws store after) :
    ∀ key later, after.lookup key = some later →
      ∃ fresh ∈ drawn (trace.map Machine.Event.input ++ [op]), key = fresh.id ∧ later.tokenHash = hash fresh.raw := by
  intro key later present
  rw [drawn_snoc]
  rcases evolves.origin key later present with ⟨record, before, revises⟩ | ⟨fresh, member, named, hashed⟩
  · obtain ⟨fresh, member, named, hashed⟩ := history.minted key record before
    exact ⟨fresh, List.mem_append_left _ member, named, (revises_hash record later revises).trans hashed⟩
  · exact ⟨fresh, List.mem_append_right _ member, named, hashed⟩

theorem history_single (ops : List RefreshOp) (op : RefreshOp) (trace : List RefreshEvent) (store : RefreshStore)
    (run : FreshRun hash (ops ++ [op])) (inputs : trace.map Machine.Event.input = ops)
    (history : RefreshHistory hash trace store) (rawToken : String) :
    (rotations rawToken (trace ++ [Machine.event (refreshMachine hash) store op])).length ≤ 1 := by
  have minted := history.minted
  rw [inputs] at minted
  rw [rotations_snoc]
  cases result : rotatedTo rawToken (Machine.event (refreshMachine hash) store op) with
  | none => simpa using history.single rawToken
  | some token =>
      obtain ⟨ttlSecs, checkedAt, fresh, now, rfl, success⟩ := rotated_to_some hash store op rawToken token result
      have absent := draw_absent hash ops _ run store minted fresh (List.mem_singleton_self fresh)
      obtain ⟨id, record, present, hashed, active, _⟩ :=
        rotate_success hash rawToken ttlSecs checkedAt fresh now store token absent success
      cases past : rotations rawToken trace with
      | nil => simp
      | cons earlier rest =>
          have member : earlier ∈ rotations rawToken trace := by
            rw [past]
            exact List.mem_cons_self
          obtain ⟨key, old, oldPresent, oldHashed, _, oldRevoked⟩ := history.spent rawToken earlier member
          have same := minted_unique hash ops (fresh_run_earlier hash ops _ run) store minted key id old record
            oldPresent present (oldHashed.trans hashed.symm)
          rw [same, present, Option.some.injEq] at oldPresent
          rw [oldPresent, oldRevoked] at active
          cases active

theorem history_spent (op : RefreshOp) (trace : List RefreshEvent) (store : RefreshStore)
    (absent : ∀ fresh ∈ op.draws, store.lookup fresh.id = none)
    (evolves : Evolves hash op.draws store (refreshStep hash store op).1)
    (history : RefreshHistory hash trace store) (rawToken : String) (token : IssuedRefreshToken)
    (member : token ∈ rotations rawToken (trace ++ [Machine.event (refreshMachine hash) store op])) :
    ∃ key record, (refreshStep hash store op).1.lookup key = some record ∧ record.tokenHash = hash rawToken ∧
      record.userId = token.userId ∧ record.revoked = true := by
  rw [rotations_snoc] at member
  rcases List.mem_append.mp member with earlier | last
  · obtain ⟨key, record, present, hashed, owned, revoked⟩ := history.spent rawToken token earlier
    obtain ⟨later, laterPresent, revises⟩ := evolves.kept key record present
    have same := revises_revoked record later revises revoked
    subst later
    exact ⟨key, record, laterPresent, hashed, owned, revoked⟩
  · have result := Option.mem_toList.mp last
    obtain ⟨ttlSecs, checkedAt, fresh, now, rfl, success⟩ := rotated_to_some hash store op rawToken token result
    obtain ⟨id, record, present, hashed, active, issued, old, _⟩ := rotate_success hash rawToken ttlSecs checkedAt
      fresh now store token (absent fresh (List.mem_singleton_self fresh)) success
    exact ⟨id, revokeRecord record, old, hashed, by rw [issued]; rfl, rfl⟩

theorem history_returned (op : RefreshOp) (trace : List RefreshEvent) (store : RefreshStore)
    (absent : ∀ fresh ∈ op.draws, store.lookup fresh.id = none)
    (evolves : Evolves hash op.draws store (refreshStep hash store op).1)
    (history : RefreshHistory hash trace store) (token : IssuedRefreshToken)
    (member : token ∈ (trace ++ [Machine.event (refreshMachine hash) store op]).filterMap returnedBy) :
    ∃ key record, (refreshStep hash store op).1.lookup key = some record ∧
      record.tokenHash = hash token.token ∧ record.userId = token.userId := by
  rw [List.filterMap_append] at member
  rcases List.mem_append.mp member with earlier | last
  · obtain ⟨key, record, present, hashed, owned⟩ := history.returned token earlier
    obtain ⟨later, laterPresent, revises⟩ := evolves.kept key record present
    exact ⟨key, later, laterPresent, (revises_hash record later revises).trans hashed,
      (revises_user record later revises).trans owned⟩
  · have result : returnedBy (Machine.event (refreshMachine hash) store op) = some token := by
      simpa using last
    cases op with
    | issue userId ttlSecs fresh now =>
        have issued : newIssued userId ttlSecs fresh now = token := by
          simpa only [returnedBy, Machine.event, refreshMachine, refreshStep, issue, Option.some.injEq] using result
        refine ⟨fresh.id, newRecord hash userId ttlSecs fresh now, ?_, ?_, ?_⟩
        · simp [refreshStep, issue, lookup_insert, newRecord]
        · rw [← issued]
          rfl
        · rw [← issued]
          rfl
    | rotate rawToken ttlSecs checkedAt fresh now =>
        have success : (rotate hash rawToken ttlSecs checkedAt fresh now store).2 = some token := by
          simpa only [returnedBy, Machine.event, refreshMachine, refreshStep] using result
        obtain ⟨id, record, _, _, _, issued, _, new⟩ := rotate_success hash rawToken ttlSecs checkedAt
          fresh now store token (absent fresh (List.mem_singleton_self fresh)) success
        refine ⟨fresh.id, newRecord hash record.userId ttlSecs fresh now, new, ?_, ?_⟩
        · rw [issued]
          rfl
        · rw [issued]
          rfl
    | verify presented now => simp [returnedBy, Machine.event, refreshMachine, refreshStep] at result
    | revoke id => simp [returnedBy, Machine.event, refreshMachine, refreshStep] at result
    | revokeAllForUser userId => simp [returnedBy, Machine.event, refreshMachine, refreshStep] at result
    | rehash order => simp [returnedBy, Machine.event, refreshMachine, refreshStep] at result

theorem refresh_history (ops : List RefreshOp) (run : FreshRun hash ops) :
    RefreshHistory hash ((refreshMachine hash).trace empty ops) ((refreshMachine hash).run empty ops) := by
  apply Machine.history (refreshMachine hash) empty (FreshRun hash) (RefreshHistory hash)
  · exact fun inputs input fresh => fresh_run_earlier hash inputs [input] fresh
  · constructor <;> simp [rotations]
  · intro inputs op fresh history
    have inputsEq := Machine.trace_inputs (refreshMachine hash) empty inputs
    have minted := history.minted
    rw [inputsEq] at minted
    have absent := draw_absent hash inputs op fresh _ minted
    have evolves := step_evolves hash _ op absent
    constructor
    · rw [List.map_append]
      exact history_minted hash _ _ _ op history evolves
    · exact history_single hash inputs op _ _ fresh inputsEq history
    · exact history_spent hash op _ _ absent evolves history
    · exact history_returned hash op _ _ absent evolves history
  · exact run

theorem run_evolves (earlier later : List RefreshOp) (run : FreshRun hash (earlier ++ later)) :
    ∀ key record, ((refreshMachine hash).run empty earlier).lookup key = some record →
      ∃ revised, ((refreshMachine hash).run empty (earlier ++ later)).lookup key = some revised ∧
        Revises record revised := by
  intro key record present
  induction later using List.reverseRecOn with
  | nil => exact ⟨record, by rw [List.append_nil, present], Or.inl rfl⟩
  | append_singleton later op ih =>
      rw [← List.append_assoc] at run ⊢
      have before := fresh_run_earlier hash (earlier ++ later) [op] run
      obtain ⟨middle, middlePresent, toMiddle⟩ := ih before
      have minted := (refresh_history hash (earlier ++ later) before).minted
      rw [Machine.trace_inputs] at minted
      have absent := draw_absent hash (earlier ++ later) op run _ minted
      obtain ⟨revised, revisedPresent, toRevised⟩ := (step_evolves hash _ op absent).kept key middle middlePresent
      rw [Machine.run_snoc]
      exact ⟨revised, revisedPresent, revises_trans record middle revised toMiddle toRevised⟩

end History

end Moxui.Auth
