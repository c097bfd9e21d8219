import Moxui.Auth.ActiveCount
import Moxui.Lib.Interleaving

set_option autoImplicit false

namespace Moxui.Auth

open RefreshStore

inductive TokenRequest where
  | store (op : RefreshOp)
  | logout (rawToken : String) (now : Int)

-- A logout takes two locks; between them it holds the id that `verify` has returned.
inductive TokenCall where
  | entered (request : TokenRequest)
  | revoking (rawToken : String) (now : Int) (id : String)

inductive TokenReply where
  | returned (reply : RefreshReply)
  | loggedOut

def TokenCall.request : TokenCall → TokenRequest
  | entered request => request
  | revoking rawToken now _ => .logout rawToken now

section Calls

variable (hash : String → String)

def advanceToken (call : TokenCall) (store : RefreshStore) : RefreshStore × (TokenCall ⊕ TokenReply) :=
  match call with
  | .entered (.store op) => ((refreshStep hash store op).1, .inr (.returned (refreshStep hash store op).2))
  | .entered (.logout rawToken now) =>
      match verify hash rawToken now store with
      | some (id, _) => (store, .inl (.revoking rawToken now id))
      | none => (store, .inr .loggedOut)
  | .revoking _ _ id => ((revoke id store).1, .inr .loggedOut)

def tokenProtocol : Protocol RefreshStore TokenRequest TokenCall Unit TokenReply where
  enter := TokenCall.entered
  advance call _ store := advanceToken hash call store

abbrev TokenTaken : Type :=
  Protocol.Taken RefreshStore TokenCall Unit TokenReply

abbrev TokenTurn : Type :=
  Protocol.Turn TokenRequest Unit

def tokenStep (store : RefreshStore) : TokenRequest → RefreshStore × TokenReply
  | .store op => ((refreshStep hash store op).1, .returned (refreshStep hash store op).2)
  | .logout rawToken now =>
      match verify hash rawToken now store with
      | some (id, _) => ((revoke id store).1, .loggedOut)
      | none => (store, .loggedOut)

def tokenMachine : Machine RefreshStore TokenRequest TokenReply :=
  ⟨tokenStep hash⟩

end Calls

def TokenRequest.firstOp : TokenRequest → RefreshOp
  | store op => op
  | logout rawToken now => .verify rawToken now

def TokenCall.lockedOp : TokenCall → RefreshOp
  | entered request => request.firstOp
  | revoking _ _ id => .revoke id

def answered (step : TokenTaken) : Option (TokenRequest × TokenReply) :=
  match step.left with
  | .inl _ => none
  | .inr reply => some (step.call.request, reply)

-- Some order of the calls that have returned leads to the same store and gives the same replies.
-- A logout in flight has not changed anything yet.
def SerialOrder (hash : String → String) (start : RefreshStore) (turns : List TokenTurn) : Prop :=
  ∃ order : List TokenRequest,
    (Protocol.requests turns).Perm
      (order ++ ((tokenProtocol hash).machine.run ⟨start, []⟩ turns).calls.map TokenCall.request) ∧
    (tokenMachine hash).run start order = ((tokenProtocol hash).machine.run ⟨start, []⟩ turns).shared ∧
    ((tokenMachine hash).trace start order).map (fun event => (event.input, event.output)) =
      ((tokenProtocol hash).steps ⟨start, []⟩ turns).filterMap answered

section Freshness

variable (hash : String → String)

theorem fresh_run_perm (ops other : List RefreshOp) (perm : ops.Perm other) (fresh : FreshRun hash other) :
    FreshRun hash ops := by
  have draws : (drawn ops).Perm (drawn other) := perm.flatMap_right RefreshOp.draws
  constructor
  · exact (draws.map Fresh.id).nodup_iff.mpr fresh.ids
  · exact (draws.map Fresh.raw).nodup_iff.mpr fresh.raws
  · apply fresh.injective.mono
    intro raw used
    have tokens : (usedTokens ops).Perm (usedTokens other) :=
      (draws.map Fresh.raw).append (perm.flatMap_right RefreshOp.presented)
    exact tokens.mem_iff.mp used

theorem fresh_run_congr (ops other : List RefreshOp) (sameDrawn : drawn ops = drawn other)
    (samePresented : ops.flatMap RefreshOp.presented = other.flatMap RefreshOp.presented) (fresh : FreshRun hash other) :
    FreshRun hash ops := by
  have tokens : usedTokens ops = usedTokens other := by rw [usedTokens, usedTokens, sameDrawn, samePresented]
  exact ⟨by rw [sameDrawn]; exact fresh.ids, by rw [sameDrawn]; exact fresh.raws, by rw [tokens]; exact fresh.injective⟩

end Freshness

def TokenCall.unopened : TokenCall → List TokenRequest
  | entered request => [request]
  | revoking _ _ _ => []

theorem opened_flat_map {β : Type} (write : RefreshOp → List β) (silent : ∀ id, write (.revoke id) = [])
    (calls : List TokenCall) :
    (calls.map TokenCall.lockedOp).flatMap write =
      ((calls.flatMap TokenCall.unopened).map TokenRequest.firstOp).flatMap write := by
  induction calls with
  | nil => rfl
  | cons call calls ih =>
      rw [List.map_cons, List.flatMap_cons, ih, List.flatMap_cons, List.map_append, List.flatMap_append]
      cases call with
      | entered request => simp [TokenCall.lockedOp, TokenCall.unopened]
      | revoking rawToken now id => simp [TokenCall.lockedOp, TokenCall.unopened, silent]

section Serial

variable (hash : String → String) (before : List RefreshOp)

def SeenLive (store : RefreshStore) (rawToken : String) (now : Int) (id : String) : Prop :=
  ∃ record, store.lookup id = some record ∧ record.tokenHash = hash rawToken ∧ now ≤ record.expiresAt

theorem verify_seen_live (store : RefreshStore) (rawToken : String) (now : Int) (id userId : String)
    (accepted : verify hash rawToken now store = some (id, userId)) : SeenLive hash store rawToken now id := by
  obtain ⟨record, found, _, _, within⟩ := verify_found hash rawToken store now id userId accepted
  obtain ⟨present, matched⟩ := Table.find_entry_some _ store.tokens id record found
  exact ⟨record, present, (matching_iff hash rawToken record).mp matched, within⟩

theorem revoke_revoked (store : RefreshStore) (id : String) (record : StoredRefreshToken)
    (present : store.lookup id = some record) (revoked : record.revoked = true) : (revoke id store).1 = store := by
  rw [revoke, present]
  apply ext
  apply (Table.modify_eq_self id revokeRecord store.tokens).mpr
  intro found there
  have same : found = record := by
    rw [lookup, there, Option.some.injEq] at present
    exact present
  rw [same, revoke_record_idem record revoked]

theorem late_logout (store : RefreshStore) (unique : HashUnique store) (rawToken : String) (now : Int) (id : String)
    (verified : SeenLive hash store rawToken now id) :
    tokenStep hash store (.logout rawToken now) = ((revoke id store).1, .loggedOut) := by
  obtain ⟨record, present, hashed, within⟩ := verified
  have answer := verify_stored hash store unique id rawToken record now present hashed
  rw [tokenStep, answer]
  by_cases live : unexpired now record = true
  · simp only [live, if_true]
  · have revoked : record.revoked = true := by
      simpa [unexpired, within] using live
    simp only [live, Bool.false_eq_true, if_false, revoke_revoked store id record present revoked]

theorem advance_locked (call : TokenCall) (store : RefreshStore) :
    (advanceToken hash call store).1 = (refreshStep hash store call.lockedOp).1 := by
  cases call with
  | revoking rawToken now id => rfl
  | entered request =>
      cases request with
      | store op => rfl
      | logout rawToken now =>
          simp only [advanceToken, TokenCall.lockedOp, TokenRequest.firstOp, refreshStep]
          cases verify hash rawToken now store <;> rfl

theorem advance_cases (call : TokenCall) (store : RefreshStore) (unique : HashUnique store)
    (verified : ∀ rawToken now id, call = .revoking rawToken now id → SeenLive hash store rawToken now id) :
    (∃ reply, (advanceToken hash call store).2 = .inr reply ∧
      tokenStep hash store call.request = ((advanceToken hash call store).1, reply)) ∨
    ∃ rawToken now id, advanceToken hash call store = (store, .inl (.revoking rawToken now id)) ∧
      call = .entered (.logout rawToken now) ∧ SeenLive hash store rawToken now id := by
  cases call with
  | revoking rawToken now id =>
      exact Or.inl ⟨.loggedOut, rfl, late_logout hash store unique rawToken now id (verified rawToken now id rfl)⟩
  | entered request =>
      cases request with
      | store op => exact Or.inl ⟨_, rfl, rfl⟩
      | logout rawToken now =>
          cases accepted : verify hash rawToken now store with
          | none =>
              exact Or.inl ⟨.loggedOut, by simp [advanceToken, accepted],
                by simp [advanceToken, tokenStep, accepted, TokenCall.request]⟩
          | some owner =>
              obtain ⟨id, userId⟩ := owner
              exact Or.inr ⟨rawToken, now, id, by simp [advanceToken, accepted], rfl,
                verify_seen_live hash store rawToken now id userId accepted⟩

def lockedOps (past : List TokenTaken) : List RefreshOp :=
  before ++ past.map fun step => step.call.lockedOp

def orderOf (past : List TokenTaken) : List TokenRequest :=
  (past.filterMap answered).map Prod.fst

structure LogoutHistory (past : List TokenTaken) (pool : Protocol.Pool RefreshStore TokenCall) : Prop where
  locked : pool.shared = (refreshMachine hash).run empty (lockedOps before past)
  serial : (tokenMachine hash).run ((refreshMachine hash).run empty before) (orderOf past) = pool.shared
  replies : ((tokenMachine hash).trace ((refreshMachine hash).run empty before) (orderOf past)).map
    (fun event => (event.input, event.output)) = past.filterMap answered
  verified : ∀ rawToken now id, TokenCall.revoking rawToken now id ∈ pool.calls →
    SeenLive hash pool.shared rawToken now id

theorem locked_ops_snoc (past : List TokenTaken) (taken : TokenTaken) :
    lockedOps before (past ++ [taken]) = lockedOps before past ++ [taken.call.lockedOp] := by
  rw [lockedOps, List.map_append, ← List.append_assoc]
  rfl

theorem seen_live_kept (ops : List RefreshOp) (op : RefreshOp) (fresh : FreshRun hash (ops ++ [op])) (rawToken : String)
    (now : Int) (id : String) (verified : SeenLive hash ((refreshMachine hash).run empty ops) rawToken now id) :
    SeenLive hash ((refreshMachine hash).run empty (ops ++ [op])) rawToken now id := by
  obtain ⟨record, present, hashed, within⟩ := verified
  obtain ⟨revised, still, revises⟩ := run_evolves hash ops [op] fresh id record present
  refine ⟨revised, still, (revises_hash record revised revises).trans hashed, ?_⟩
  rcases revises with rfl | rfl
  · exact within
  · exact within

theorem serial_snoc (past : List TokenTaken) (taken : TokenTaken) (reply : TokenReply) (left : taken.left = .inr reply)
    (serial : (tokenMachine hash).run ((refreshMachine hash).run empty before) (orderOf past) = taken.before)
    (replies : ((tokenMachine hash).trace ((refreshMachine hash).run empty before) (orderOf past)).map
      (fun event => (event.input, event.output)) = past.filterMap answered)
    (stepped : tokenStep hash taken.before taken.call.request = (taken.after, reply)) :
    (tokenMachine hash).run ((refreshMachine hash).run empty before) (orderOf (past ++ [taken])) = taken.after ∧
      ((tokenMachine hash).trace ((refreshMachine hash).run empty before) (orderOf (past ++ [taken]))).map
        (fun event => (event.input, event.output)) = (past ++ [taken]).filterMap answered := by
  have answer : answered taken = some (taken.call.request, reply) := by rw [answered, left]
  have answers : (past ++ [taken]).filterMap answered = past.filterMap answered ++ [(taken.call.request, reply)] := by
    rw [List.filterMap_append, List.filterMap_cons, answer, List.filterMap_nil]
  have order : orderOf (past ++ [taken]) = orderOf past ++ [taken.call.request] := by
    rw [orderOf, answers, List.map_append]
    rfl
  have machineStep : (tokenMachine hash).step taken.before taken.call.request = (taken.after, reply) := stepped
  rw [order, answers, Machine.run_snoc, Machine.trace_snoc, serial, machineStep, List.map_append, replies]
  refine ⟨rfl, ?_⟩
  rw [List.map_singleton, Machine.event, machineStep]

theorem serial_silent (past : List TokenTaken) (taken : TokenTaken) (later : TokenCall) (left : taken.left = .inl later) :
    (past ++ [taken]).filterMap answered = past.filterMap answered ∧ orderOf (past ++ [taken]) = orderOf past := by
  have silent : (past ++ [taken]).filterMap answered = past.filterMap answered := by
    rw [List.filterMap_append]
    simp [answered, left]
  refine ⟨silent, ?_⟩
  rw [orderOf, silent, orderOf]

theorem logout_advanced (past : List TokenTaken) (pool : Protocol.Pool RefreshStore TokenCall) (call : TokenCall)
    (heard : Unit) (rest : List TokenCall) (perm : pool.calls.Perm (call :: rest))
    (fresh : FreshRun hash (lockedOps before (past ++ [(tokenProtocol hash).taken call heard pool.shared])))
    (history : LogoutHistory hash before past pool) :
    LogoutHistory hash before (past ++ [(tokenProtocol hash).taken call heard pool.shared])
      ⟨((tokenProtocol hash).taken call heard pool.shared).after,
        Protocol.resume ((tokenProtocol hash).taken call heard pool.shared).left rest⟩ := by
  have inFlight := Protocol.in_flight_after pool.calls rest call perm
    ((tokenProtocol hash).taken call heard pool.shared).left
  rw [locked_ops_snoc] at fresh
  have unique : HashUnique pool.shared := by
    rw [history.locked]
    exact run_hash_unique hash _ (fresh_run_earlier hash _ _ fresh)
  have locked : ((tokenProtocol hash).taken call heard pool.shared).after = (refreshMachine hash).run empty
      (lockedOps before (past ++ [(tokenProtocol hash).taken call heard pool.shared])) := by
    rw [locked_ops_snoc, Machine.run_snoc, ← history.locked]
    exact advance_locked hash call pool.shared
  have kept : ∀ rawToken now id, SeenLive hash pool.shared rawToken now id →
      SeenLive hash ((tokenProtocol hash).taken call heard pool.shared).after rawToken now id := by
    intro rawToken now id verified
    rw [history.locked] at verified
    rw [locked, locked_ops_snoc]
    exact seen_live_kept hash _ _ fresh rawToken now id verified
  have mine : ∀ rawToken now id, call = .revoking rawToken now id → SeenLive hash pool.shared rawToken now id := by
    intro rawToken now id same
    exact history.verified rawToken now id (perm.mem_iff.mpr (by rw [same]; exact List.mem_cons_self))
  rcases advance_cases hash call pool.shared unique mine with ⟨reply, left, stepped⟩ | ⟨rawToken, now, id, stepped, _, seen⟩
  · obtain ⟨serial, replies⟩ := serial_snoc hash before past ((tokenProtocol hash).taken call heard pool.shared) reply left
      history.serial history.replies stepped
    refine ⟨locked, serial, replies, ?_⟩
    intro rawToken now id member
    rcases inFlight _ member with later | other
    · cases left.symm.trans later
    · exact kept rawToken now id (history.verified rawToken now id other)
  · have taken : (tokenProtocol hash).taken call heard pool.shared =
        ⟨pool.shared, call, heard, pool.shared, .inl (.revoking rawToken now id)⟩ :=
      (tokenProtocol hash).taken_of_advance call heard pool.shared _ _ stepped
    obtain ⟨silent, order⟩ := serial_silent past ((tokenProtocol hash).taken call heard pool.shared) _ (by rw [taken])
    refine ⟨locked, ?_, ?_, ?_⟩
    · rw [order, history.serial, taken]
    · rw [order, history.replies, silent]
    · intro otherToken otherNow otherId member
      rcases inFlight _ member with later | other
      · rw [taken] at later
        cases later
        exact kept rawToken now id seen
      · exact kept otherToken otherNow otherId (history.verified otherToken otherNow otherId other)

theorem advance_goes_on (call later : TokenCall) (store : RefreshStore)
    (left : (advanceToken hash call store).2 = .inl later) : later.request = call.request ∧ later.unopened = [] := by
  cases call with
  | revoking rawToken now id => cases left
  | entered request =>
      cases request with
      | store op => cases left
      | logout rawToken now =>
          unfold advanceToken at left
          cases accepted : verify hash rawToken now store with
          | none => simp [accepted] at left
          | some owner =>
              simp only [accepted, Sum.inl.injEq] at left
              rw [← left]
              exact ⟨rfl, rfl⟩

theorem locked_ops_fresh (start : RefreshStore) (turns : List TokenTurn)
    (fresh : FreshRun hash (before ++ (Protocol.requests turns).map TokenRequest.firstOp)) :
    FreshRun hash (lockedOps before ((tokenProtocol hash).steps ⟨start, []⟩ turns)) := by
  have accounted := (tokenProtocol hash).requests_accounted start TokenCall.unopened (fun step => step.call.unopened)
    (fun request => rfl) (by
      intro call heard store
      rcases left : ((tokenProtocol hash).taken call heard store).left with later | reply
      · simp [Protocol.resume, (advance_goes_on hash call later store left).2, Protocol.taken]
      · simp [Protocol.resume, Protocol.taken]) turns
  have opened := fresh_run_perm hash _ _ ((accounted.symm.map TokenRequest.firstOp).append_left before) fresh
  rw [List.map_append, ← List.append_assoc] at opened
  have calls : lockedOps before ((tokenProtocol hash).steps ⟨start, []⟩ turns) =
      before ++ (((tokenProtocol hash).steps ⟨start, []⟩ turns).map fun step => step.call).map TokenCall.lockedOp := by
    rw [lockedOps, List.map_map]
    rfl
  have spread : ((tokenProtocol hash).steps ⟨start, []⟩ turns).flatMap (fun step => step.call.unopened) =
      (((tokenProtocol hash).steps ⟨start, []⟩ turns).map fun step => step.call).flatMap TokenCall.unopened := by
    rw [List.flatMap_map]
  rw [spread] at opened
  rw [calls]
  apply fresh_run_congr hash _ _ _ _ (fresh_run_earlier hash _ _ opened)
  · rw [drawn, drawn, List.flatMap_append, List.flatMap_append, opened_flat_map RefreshOp.draws fun _ => rfl]
  · rw [List.flatMap_append, List.flatMap_append, opened_flat_map RefreshOp.presented fun _ => rfl]

theorem logout_history (turns : List TokenTurn)
    (fresh : FreshRun hash (before ++ (Protocol.requests turns).map TokenRequest.firstOp)) :
    LogoutHistory hash before ((tokenProtocol hash).steps ⟨(refreshMachine hash).run empty before, []⟩ turns)
      ((tokenProtocol hash).machine.run ⟨(refreshMachine hash).run empty before, []⟩ turns) := by
  apply (tokenProtocol hash).steps_history ⟨(refreshMachine hash).run empty before, []⟩ (fun _ => True)
    (fun past pool => FreshRun hash (lockedOps before past) → LogoutHistory hash before past pool)
  · intro _
    exact ⟨by simp [lockedOps], rfl, rfl, fun _ _ _ member => nomatch member⟩
  · intro past pool request history fresh
    obtain ⟨locked, serial, replies, verified⟩ := history fresh
    exact ⟨locked, serial, replies, fun rawToken now id member => verified rawToken now id (by
      simpa [tokenProtocol] using member)⟩
  · intro past pool call heard rest perm _ history fresh
    have earlier := fresh
    rw [locked_ops_snoc] at earlier
    exact logout_advanced hash before past pool call heard rest perm fresh (history (fresh_run_earlier hash _ _ earlier))
  · exact fun _ _ => trivial
  · exact locked_ops_fresh hash before _ turns fresh

theorem returned_accounted (start : RefreshStore) (turns : List TokenTurn) :
    (Protocol.requests turns).Perm (orderOf ((tokenProtocol hash).steps ⟨start, []⟩ turns) ++
      ((tokenProtocol hash).machine.run ⟨start, []⟩ turns).calls.map TokenCall.request) := by
  have accounted := (tokenProtocol hash).requests_accounted start (fun call => [call.request])
    (fun step => ((answered step).map Prod.fst).toList) (fun request => rfl) (by
      intro call heard store
      rcases left : ((tokenProtocol hash).taken call heard store).left with later | reply
      · simp [Protocol.resume, answered, left, (advance_goes_on hash call later store left).1]
      · have answer : answered ((tokenProtocol hash).taken call heard store) = some (call.request, reply) := by
          rw [answered, left]
          rfl
        simp [Protocol.resume, answer]) turns
  rw [← List.map_eq_flatMap, ← List.filterMap_eq_flatMap_toList, ← List.map_filterMap] at accounted
  exact accounted

-- The order is the one in which the calls return.
theorem logout_atomic (turns : List TokenTurn)
    (fresh : FreshRun hash (before ++ (Protocol.requests turns).map TokenRequest.firstOp)) :
    SerialOrder hash ((refreshMachine hash).run empty before) turns := by
  have history := logout_history hash before turns fresh
  exact ⟨_, returned_accounted hash _ turns, history.serial, history.replies⟩

end Serial

-- The token is rotated between the two locks of its logout.
def logoutAcrossRotation : List TokenTurn :=
  [.starts (.logout "t1" 10), .advances 0 (), .starts (.store (.rotate "t1" defaultTtlSecs 11 ⟨"r2", "t2"⟩ 11)),
    .advances 0 (), .advances 0 ()]

theorem logout_atomic_across_rotation :
    SerialOrder sampleHash ((refreshMachine sampleHash).run empty [.issue "u-alice" defaultTtlSecs ⟨"r1", "t1"⟩ 0])
      logoutAcrossRotation :=
  logout_atomic sampleHash [.issue "u-alice" defaultTtlSecs ⟨"r1", "t1"⟩ 0] logoutAcrossRotation
    (fresh_run_of_decided sampleHash _ (by decide) (by decide) (by decide))

end Moxui.Auth
