import Mathlib.Data.UInt
import Moxui.Lib.Interleaving
import Moxui.Proxmox.BreakerTrace

set_option autoImplicit false

namespace Moxui.Proxmox

-- A failure carries the reading that it takes of the clock.
inductive BreakerRequest where
  | success
  | failure (now : UInt64)
deriving DecidableEq, Repr

def BreakerRequest.op : BreakerRequest → BreakerOp
  | success => .recordSuccess
  | failure now => .recordFailure now

-- Where a call stands between two accesses to the atomics.
inductive BreakerCall where
  | succeeding
  | clearing
  | failing (now : UInt64)
  | opening (now : UInt64)
deriving DecidableEq, Repr

def BreakerRequest.enter : BreakerRequest → BreakerCall
  | success => .succeeding
  | failure now => .failing now

def advanceBreaker (call : BreakerCall) (breaker : CircuitBreaker) : CircuitBreaker × (BreakerCall ⊕ Unit) :=
  match call with
  | .succeeding => ({ breaker with failureCount := 0 }, .inl .clearing)
  | .clearing => ({ breaker with openedAt := 0 }, .inr ())
  | .failing now =>
      let count := breaker.failureCount + 1
      ({ breaker with failureCount := count },
        if count ≥ breaker.failureThreshold then .inl (.opening now) else .inr ())
  | .opening now => ({ breaker with openedAt := now }, .inr ())

def breakerProtocol : Protocol CircuitBreaker BreakerRequest BreakerCall Unit Unit where
  enter := BreakerRequest.enter
  advance call _ breaker := advanceBreaker call breaker

abbrev BreakerTurn :=
  Protocol.Turn BreakerRequest Unit

abbrev BreakerPast :=
  List (Protocol.Taken CircuitBreaker BreakerCall Unit Unit)

-- What no other call comes between is the operation itself.
theorem alone_records (request : BreakerRequest) (breaker : CircuitBreaker) :
    breakerProtocol.alone [(), ()] (breakerProtocol.enter request) breaker =
      ((breakerStep breaker request.op).1, .inr ()) := by
  cases request with
  | success => rfl
  | failure now =>
      by_cases reached : breaker.failureCount + 1 ≥ breaker.failureThreshold
      · simp only [Protocol.alone, breakerProtocol, BreakerRequest.enter, advanceBreaker, reached, if_true, breakerStep,
          BreakerRequest.op, CircuitBreaker.recordFailure]
      · simp only [Protocol.alone, breakerProtocol, BreakerRequest.enter, advanceBreaker, reached, if_false, breakerStep,
          BreakerRequest.op, CircuitBreaker.recordFailure]

section Marks

def countedBy (count : Nat) : BreakerCall → Nat
  | .succeeding => 0
  | .failing _ => count + 1
  | .clearing | .opening _ => count

def storedBy (stored : Option UInt64) : BreakerCall → Option UInt64
  | .clearing => none
  | .opening now => some now
  | .succeeding | .failing _ => stored

def failuresCounted (past : BreakerPast) : Nat :=
  past.foldl (fun count step => countedBy count step.call) 0

def readingStored (past : BreakerPast) : Option UInt64 :=
  past.foldl (fun stored step => storedBy stored step.call) none

theorem failures_counted_snoc (past : BreakerPast) (call : BreakerCall) (breaker : CircuitBreaker) :
    failuresCounted (past ++ [breakerProtocol.taken call () breaker]) = countedBy (failuresCounted past) call := by
  simp only [failuresCounted, List.foldl_append, List.foldl_cons, List.foldl_nil, Protocol.taken]

theorem reading_stored_snoc (past : BreakerPast) (call : BreakerCall) (breaker : CircuitBreaker) :
    readingStored (past ++ [breakerProtocol.taken call () breaker]) = storedBy (readingStored past) call := by
  simp only [readingStored, List.foldl_append, List.foldl_cons, List.foldl_nil, Protocol.taken]

end Marks

def Reached (threshold : UInt32) (failures : Nat) : Prop :=
  threshold.toNat ≤ failures ∧ 0 < failures

-- A success clears what no failure that still counts has stored, or is still to store; a failure
-- stores its reading as long as it counts, or where a success is still to clear it.
def StoresInOrder (past : BreakerPast) (pool : Protocol.Pool CircuitBreaker BreakerCall) : BreakerCall → Prop
  | .succeeding | .failing _ => True
  | .clearing => ¬ Reached pool.shared.failureThreshold (failuresCounted past) ∨ ∃ now, .opening now ∈ pool.calls
  | .opening _ => Reached pool.shared.failureThreshold (failuresCounted past) ∨ .clearing ∈ pool.calls

section Sequential

theorem reached_next (threshold : UInt32) (failures : Nat) (reached : Reached threshold failures) :
    Reached threshold (failures + 1) :=
  ⟨Nat.le_succ_of_le reached.1, Nat.succ_pos failures⟩

theorem counted_enough (threshold : UInt32) (failures : Nat) (enough : UInt32.ofNat (failures + 1) ≥ threshold) :
    Reached threshold (failures + 1) := by
  have atLeast := UInt32.le_iff_toNat_le.mp enough
  rw [UInt32.toNat_ofNat'] at atLeast
  exact ⟨atLeast.trans (Nat.mod_le _ _), Nat.succ_pos failures⟩

theorem wrapped_reached (threshold : UInt32) (failures : Nat) (reached : Reached threshold (failures + 1))
    (wrapped : ¬ UInt32.ofNat (failures + 1) ≥ threshold) : Reached threshold failures := by
  rw [ge_iff_le, UInt32.le_iff_toNat_le, UInt32.toNat_ofNat'] at wrapped
  have small := threshold.toNat_lt
  have large : 2 ^ 32 ≤ failures + 1 := by
    apply Nat.le_of_not_lt
    intro fits
    rw [Nat.mod_eq_of_lt fits] at wrapped
    exact wrapped reached.1
  exact ⟨by omega, by omega⟩

variable (threshold : UInt32) (cooldown : UInt64)

def afterFailures (readings : List UInt64) : CircuitBreaker :=
  breakerMachine.run (.new threshold cooldown) (readings.map .recordFailure)

theorem after_failures_snoc (readings : List UInt64) (now : UInt64) :
    afterFailures threshold cooldown (readings ++ [now]) = (afterFailures threshold cooldown readings).recordFailure now := by
  rw [afterFailures, List.map_append, List.map_cons, List.map_nil, Machine.run_snoc]
  rfl

theorem after_failures_counts (readings : List UInt64) :
    (afterFailures threshold cooldown readings).failureThreshold = threshold ∧
      (afterFailures threshold cooldown readings).failureCount = UInt32.ofNat readings.length := by
  induction readings using List.reverseRecOn with
  | nil => exact ⟨rfl, rfl⟩
  | append_singleton readings now ih =>
      rw [after_failures_snoc, List.length_append, List.length_singleton]
      refine ⟨ih.1, ?_⟩
      rw [CircuitBreaker.recordFailure, ih.2, UInt32.ofNat_add]
      rfl

theorem after_failures_stores (readings : List UInt64) (now : UInt64) :
    (afterFailures threshold cooldown (readings ++ [now])).openedAt =
      if UInt32.ofNat (readings.length + 1) ≥ threshold then now
      else (afterFailures threshold cooldown readings).openedAt := by
  have counts := after_failures_counts threshold cooldown readings
  rw [after_failures_snoc, CircuitBreaker.recordFailure, counts.1, counts.2, UInt32.ofNat_add]
  rfl

theorem after_few_closed (readings : List UInt64) (few : ¬ Reached threshold readings.length) :
    (afterFailures threshold cooldown readings).openedAt = 0 := by
  induction readings using List.reverseRecOn with
  | nil => rfl
  | append_singleton readings now ih =>
      rw [List.length_append, List.length_singleton] at few
      rw [after_failures_stores, if_neg (mt (counted_enough threshold readings.length) few)]
      exact ih (mt (reached_next threshold readings.length) few)

-- Any one of the readings can be the one that stays: it comes last where the counter has not
-- wrapped.
theorem after_many_opened (now : UInt64) (others : List UInt64) (many : Reached threshold (others.length + 1)) :
    ∃ order : List UInt64, order.Perm (now :: others) ∧ (afterFailures threshold cooldown order).openedAt = now := by
  induction others using List.reverseRecOn with
  | nil =>
      refine ⟨[] ++ [now], .refl _, ?_⟩
      by_cases enough : UInt32.ofNat 1 ≥ threshold
      · rw [after_failures_stores]
        exact if_pos enough
      · exact absurd (wrapped_reached threshold 0 many enough).2 (Nat.lt_irrefl 0)
  | append_singleton others last ih =>
      by_cases enough : UInt32.ofNat ((others ++ [last]).length + 1) ≥ threshold
      · refine ⟨(others ++ [last]) ++ [now], List.perm_append_singleton now _, ?_⟩
        rw [after_failures_stores, if_pos enough]
      · have before := wrapped_reached threshold _ many enough
        rw [List.length_append, List.length_singleton] at before enough
        obtain ⟨order, perm, opened⟩ := ih before
        refine ⟨order ++ [last], perm.append_right [last], ?_⟩
        rw [after_failures_stores, perm.length_eq, List.length_cons, if_neg enough, opened]

theorem run_successes (breaker : CircuitBreaker) (more : Nat) :
    breakerMachine.run breaker (List.replicate (more + 1) .recordSuccess) = breaker.recordSuccess := by
  induction more generalizing breaker with
  | zero => rfl
  | succ more ih =>
      rw [List.replicate_succ, Machine.run]
      exact ih breaker.recordSuccess

def aroundSuccesses (early late : List UInt64) (successes : Nat) : List BreakerRequest :=
  early.map .failure ++ List.replicate successes .success ++ late.map .failure

theorem run_around_successes (early late : List UInt64) (successes : Nat) (forgets : early = [] ∨ 0 < successes) :
    breakerMachine.run (.new threshold cooldown) ((aroundSuccesses early late successes).map BreakerRequest.op) =
      afterFailures threshold cooldown late := by
  have failures (readings : List UInt64) : (readings.map BreakerRequest.failure).map BreakerRequest.op =
      readings.map .recordFailure := by
    rw [List.map_map]
    rfl
  rw [aroundSuccesses, List.map_append, List.map_append, failures, failures, List.map_replicate, BreakerRequest.op, Machine.run_append,
    Machine.run_append, afterFailures]
  congr 1
  cases successes with
  | zero =>
      rw [forgets.resolve_right (Nat.lt_irrefl 0)]
      rfl
  | succ more =>
      have settings := run_settings threshold cooldown (early.map .recordFailure)
      rw [run_successes, CircuitBreaker.recordSuccess, settings.1, settings.2]
      rfl

end Sequential

section Requested

def failureReadings (requests : List BreakerRequest) : List UInt64 :=
  requests.filterMap fun request =>
    match request with
    | .success => none
    | .failure now => some now

theorem mem_failure_readings (requests : List BreakerRequest) (now : UInt64) :
    now ∈ failureReadings requests ↔ .failure now ∈ requests := by
  rw [failureReadings, List.mem_filterMap]
  constructor
  · intro ⟨request, member, read⟩
    cases request with
    | success => cases read
    | failure other => rwa [← Option.some.inj read]
  · intro member
    exact ⟨.failure now, member, rfl⟩

theorem requests_sorted (requests : List BreakerRequest) :
    (aroundSuccesses (failureReadings requests) [] (requests.count BreakerRequest.success)).Perm requests := by
  rw [aroundSuccesses, List.map_nil, List.append_nil]
  induction requests with
  | nil => exact .refl _
  | cons request requests ih =>
      cases request with
      | success =>
          rw [List.count_cons_self, List.replicate_succ]
          exact List.perm_middle.trans (ih.cons BreakerRequest.success)
      | failure now =>
          rw [List.count_cons_of_ne (by simp)]
          exact ih.cons (.failure now)

theorem around_successes_perm (requests : List BreakerRequest) (early late : List UInt64)
    (all : (early ++ late).Perm (failureReadings requests)) :
    (aroundSuccesses early late (requests.count BreakerRequest.success)).Perm requests := by
  have sorted := requests_sorted requests
  rw [aroundSuccesses, List.map_nil, List.append_nil] at sorted
  refine List.Perm.trans ?_ sorted
  rw [aroundSuccesses, List.append_assoc]
  refine (List.perm_append_comm.append_left _).trans ?_
  rw [← List.append_assoc, ← List.map_append]
  exact (all.map BreakerRequest.failure).append_right _

variable (threshold : UInt32) (cooldown : UInt64)

theorem late_failures (readings : List UInt64) (counted : Nat) (stored : Option UInt64)
    (among : counted ≤ readings.length) (known : ∀ now, stored = some now → now ∈ readings)
    (stores : Reached threshold counted ↔ stored.isSome = true) :
    ∃ early late : List UInt64, (early ++ late).Perm readings ∧ late.length = counted ∧
      (afterFailures threshold cooldown late).openedAt = stored.getD 0 := by
  cases stored with
  | none =>
      have length : (readings.take counted).length = counted := List.length_take_of_le among
      refine ⟨readings.drop counted, readings.take counted, ?_, length, ?_⟩
      · exact List.perm_append_comm.trans (.of_eq (List.take_append_drop counted readings))
      · apply after_few_closed
        rw [length, stores]
        exact Bool.false_ne_true
  | some now =>
      have reached := stores.mpr rfl
      have others := List.perm_cons_erase (known now rfl)
      have enough := others.length_eq
      rw [List.length_cons] at enough
      have length : ((readings.erase now).take (counted - 1)).length = counted - 1 :=
        List.length_take_of_le (by omega)
      have positive : counted - 1 + 1 = counted := Nat.sub_add_cancel reached.2
      obtain ⟨late, perm, opened⟩ := after_many_opened threshold cooldown now ((readings.erase now).take (counted - 1))
        (by rw [length, positive]; exact reached)
      refine ⟨(readings.erase now).drop (counted - 1), late, ?_, ?_, opened⟩
      · refine List.perm_append_comm.trans ((perm.append_right _).trans ?_)
        rw [List.cons_append, List.take_append_drop]
        exact others.symm
      · rw [perm.length_eq, List.length_cons, length, positive]

theorem serial_order (requests : List BreakerRequest) (counted : Nat) (stored : Option UInt64)
    (among : counted ≤ (failureReadings requests).length)
    (all : counted = (failureReadings requests).length ∨ .success ∈ requests)
    (known : ∀ now, stored = some now → .failure now ∈ requests)
    (stores : Reached threshold counted ↔ stored.isSome = true) :
    ∃ order : List BreakerRequest, order.Perm requests ∧
      (breakerMachine.run (.new threshold cooldown) (order.map BreakerRequest.op)).failureCount = UInt32.ofNat counted ∧
      (breakerMachine.run (.new threshold cooldown) (order.map BreakerRequest.op)).openedAt = stored.getD 0 := by
  obtain ⟨early, late, perm, length, opened⟩ := late_failures threshold cooldown (failureReadings requests) counted stored
    among (fun now found => (mem_failure_readings requests now).mpr (known now found)) stores
  have forgets : early = [] ∨ 0 < requests.count BreakerRequest.success := by
    rcases all with whole | succeeded
    · refine Or.inl (List.length_eq_zero_iff.mp ?_)
      have lengths := perm.length_eq
      rw [List.length_append] at lengths
      omega
    · exact Or.inr (List.count_pos_iff.mpr succeeded)
  refine ⟨_, around_successes_perm requests early late perm, ?_⟩
  rw [run_around_successes threshold cooldown early late _ forgets, opened, ← length]
  exact ⟨(after_failures_counts threshold cooldown late).2, rfl⟩

end Requested

section Race

def stillFailing (calls : List BreakerCall) : Nat :=
  calls.countP fun call =>
    match call with
    | .failing _ => true
    | .succeeding | .clearing | .opening _ => false

theorem still_failing_cons (call : BreakerCall) (rest : List BreakerCall) :
    stillFailing (call :: rest) =
      match call with
      | .failing _ => stillFailing rest + 1
      | .succeeding | .clearing | .opening _ => stillFailing rest := by
  cases call with
  | failing now => exact List.countP_cons_of_pos rfl
  | _ => rfl

structure RaceInv (threshold : UInt32) (wanted : List BreakerRequest) (past : BreakerPast)
    (pool : Protocol.Pool CircuitBreaker BreakerCall) : Prop where
  limit : pool.shared.failureThreshold = threshold
  count : pool.shared.failureCount = UInt32.ofNat (failuresCounted past)
  opened : pool.shared.openedAt = (readingStored past).getD 0
  stores : Reached threshold (failuresCounted past) →
    (readingStored past).isSome = true ∨ ∃ now, BreakerCall.opening now ∈ pool.calls
  clears : ¬ Reached threshold (failuresCounted past) → readingStored past = none ∨ .clearing ∈ pool.calls
  known : ∀ now, readingStored past = some now ∨ .failing now ∈ pool.calls ∨ .opening now ∈ pool.calls →
    .failure now ∈ wanted
  among : failuresCounted past + stillFailing pool.calls ≤ (failureReadings wanted).length
  all : failuresCounted past + stillFailing pool.calls = (failureReadings wanted).length ∨ .success ∈ wanted
  succeeds : .succeeding ∈ pool.calls → .success ∈ wanted

theorem race_inv_new (threshold : UInt32) (cooldown : UInt64) :
    RaceInv threshold [] [] ⟨.new threshold cooldown, []⟩ where
  limit := rfl
  count := rfl
  opened := rfl
  stores reached := absurd reached.2 (Nat.lt_irrefl 0)
  clears _ := Or.inl rfl
  known now found := by simp [readingStored] at found
  among := Nat.le_refl 0
  all := Or.inl rfl
  succeeds member := nomatch member

theorem failing_entered (wanted : List BreakerRequest) (calls : List BreakerCall) (request : BreakerRequest) :
    (failureReadings (wanted ++ [request])).length + stillFailing calls =
      (failureReadings wanted).length + stillFailing (breakerProtocol.enter request :: calls) := by
  rw [failureReadings, List.filterMap_append, List.length_append]
  cases request with
  | success => rfl
  | failure now =>
      simp only [breakerProtocol, BreakerRequest.enter, still_failing_cons, failureReadings, List.filterMap_cons,
        List.filterMap_nil, List.length_singleton]
      omega

theorem race_inv_entered (threshold : UInt32) (wanted : List BreakerRequest) (past : BreakerPast)
    (pool : Protocol.Pool CircuitBreaker BreakerCall) (request : BreakerRequest) (inv : RaceInv threshold wanted past pool) :
    RaceInv threshold (wanted ++ [request]) past { pool with calls := breakerProtocol.enter request :: pool.calls } where
  limit := inv.limit
  count := inv.count
  opened := inv.opened
  stores reached := (inv.stores reached).imp_right fun ⟨now, waits⟩ => ⟨now, List.mem_cons_of_mem _ waits⟩
  clears fewer := (inv.clears fewer).imp_right fun waits => List.mem_cons_of_mem _ waits
  known now found := by
    have before := inv.known now
    cases request with
    | success =>
        simp only [breakerProtocol, BreakerRequest.enter, List.mem_cons, reduceCtorEq, false_or] at found
        exact List.mem_append_left _ (before found)
    | failure other =>
        simp only [breakerProtocol, BreakerRequest.enter, List.mem_cons, BreakerCall.failing.injEq, reduceCtorEq,
          false_or] at found
        by_cases same : now = other
        · rw [same]
          exact List.mem_append_right _ List.mem_cons_self
        · simp only [same, false_or] at found
          exact List.mem_append_left _ (before found)
  among := by
    have before := inv.among
    have entered := failing_entered wanted pool.calls request
    simp only at entered ⊢
    omega
  all := by
    have entered := failing_entered wanted pool.calls request
    refine inv.all.imp (fun whole => ?_) fun member => List.mem_append_left _ member
    simp only at entered ⊢
    omega
  succeeds member := by
    cases request with
    | success => exact List.mem_append_right _ List.mem_cons_self
    | failure now => exact List.mem_append_left _ (inv.succeeds (by simpa [breakerProtocol, BreakerRequest.enter] using member))

theorem race_inv_perm (threshold : UInt32) (wanted : List BreakerRequest) (past : BreakerPast) (shared : CircuitBreaker)
    (calls others : List BreakerCall) (perm : calls.Perm others) (inv : RaceInv threshold wanted past ⟨shared, calls⟩) :
    RaceInv threshold wanted past ⟨shared, others⟩ where
  limit := inv.limit
  count := inv.count
  opened := inv.opened
  stores reached := (inv.stores reached).imp_right fun ⟨now, waits⟩ => ⟨now, perm.mem_iff.mp waits⟩
  clears fewer := (inv.clears fewer).imp_right perm.mem_iff.mp
  known now found := inv.known now (found.imp_right (Or.imp perm.mem_iff.mpr perm.mem_iff.mpr))
  among := by
    rw [stillFailing, ← perm.countP_eq]
    exact inv.among
  all := by
    rw [stillFailing, ← perm.countP_eq]
    exact inv.all
  succeeds member := inv.succeeds (perm.mem_iff.mpr member)

variable (threshold : UInt32) (wanted : List BreakerRequest) (past : BreakerPast) (shared : CircuitBreaker)
  (rest : List BreakerCall)

theorem race_inv_succeeding (inv : RaceInv threshold wanted past ⟨shared, .succeeding :: rest⟩) :
    RaceInv threshold wanted (past ++ [breakerProtocol.taken .succeeding () shared])
      ⟨{ shared with failureCount := 0 }, .clearing :: rest⟩ := by
  have counts := failures_counted_snoc past .succeeding shared
  have stored := reading_stored_snoc past .succeeding shared
  have succeeded := inv.succeeds List.mem_cons_self
  have few := inv.among
  simp only [countedBy, storedBy, still_failing_cons] at counts stored few
  constructor <;> simp only [counts, stored, still_failing_cons]
  case limit => exact inv.limit
  case count => rfl
  case opened => exact inv.opened
  case stores => exact fun reached => absurd reached.2 (Nat.lt_irrefl 0)
  case clears => exact fun _ => Or.inr List.mem_cons_self
  case known =>
    intro now found
    apply inv.known now
    simpa using found
  case among => omega
  case all => exact Or.inr succeeded
  case succeeds => exact fun _ => succeeded

theorem race_inv_clearing (inv : RaceInv threshold wanted past ⟨shared, .clearing :: rest⟩)
    (inOrder : ¬ Reached threshold (failuresCounted past) ∨ ∃ now, .opening now ∈ rest) :
    RaceInv threshold wanted (past ++ [breakerProtocol.taken .clearing () shared]) ⟨{ shared with openedAt := 0 }, rest⟩ := by
  have counts := failures_counted_snoc past .clearing shared
  have stored := reading_stored_snoc past .clearing shared
  have few := inv.among
  have all := inv.all
  simp only [countedBy, storedBy, still_failing_cons] at counts stored few all
  constructor <;> simp only [counts, stored]
  case limit => exact inv.limit
  case count => exact inv.count
  case opened => rfl
  case stores => exact fun reached => Or.inr (inOrder.resolve_left (not_not.mpr reached))
  case clears => exact fun _ => Or.inl trivial
  case known =>
    intro now found
    apply inv.known now
    simpa using Or.inr found
  case among => exact few
  case all => exact all
  case succeeds => exact fun member => inv.succeeds (List.mem_cons_of_mem _ member)

theorem race_inv_opening (now : UInt64) (inv : RaceInv threshold wanted past ⟨shared, .opening now :: rest⟩)
    (inOrder : Reached threshold (failuresCounted past) ∨ .clearing ∈ rest) :
    RaceInv threshold wanted (past ++ [breakerProtocol.taken (.opening now) () shared])
      ⟨{ shared with openedAt := now }, rest⟩ := by
  have counts := failures_counted_snoc past (.opening now) shared
  have stored := reading_stored_snoc past (.opening now) shared
  have few := inv.among
  have all := inv.all
  simp only [countedBy, storedBy, still_failing_cons] at counts stored few all
  constructor <;> simp only [counts, stored]
  case limit => exact inv.limit
  case count => exact inv.count
  case opened => rfl
  case stores => exact fun _ => Or.inl rfl
  case clears => exact fun fewer => Or.inr (inOrder.resolve_left fewer)
  case known =>
    intro other found
    apply inv.known other
    by_cases same : other = now
    · simp [same]
    · simp only [Option.some.injEq, Ne.symm same, false_or] at found
      simpa [same] using Or.inr found
  case among => exact few
  case all => exact all
  case succeeds => exact fun member => inv.succeeds (List.mem_cons_of_mem _ member)

theorem race_inv_failing (now : UInt64) (inv : RaceInv threshold wanted past ⟨shared, .failing now :: rest⟩) :
    RaceInv threshold wanted (past ++ [breakerProtocol.taken (.failing now) () shared])
      ⟨{ shared with failureCount := shared.failureCount + 1 }, Protocol.resume (advanceBreaker (.failing now) shared).2 rest⟩ := by
  have counts := failures_counted_snoc past (.failing now) shared
  have stored := reading_stored_snoc past (.failing now) shared
  have count : shared.failureCount + 1 = UInt32.ofNat (failuresCounted past + 1) := by
    rw [UInt32.ofNat_add, ← inv.count]
    rfl
  have limit : shared.failureThreshold = threshold := inv.limit
  have few := inv.among
  have all := inv.all
  have fewer : ¬ Reached threshold (failuresCounted past + 1) → readingStored past = none ∨ .clearing ∈ rest := by
    intro few
    simpa using inv.clears (mt (reached_next threshold _) few)
  simp only [countedBy, storedBy, still_failing_cons] at counts stored few all
  simp only [advanceBreaker, count, limit]
  by_cases enough : UInt32.ofNat (failuresCounted past + 1) ≥ threshold
  · rw [if_pos enough]
    constructor <;> simp only [counts, stored, Protocol.resume, still_failing_cons]
    case opened => exact inv.opened
    case stores => exact fun _ => Or.inr ⟨now, List.mem_cons_self⟩
    case clears => exact fun few => (fewer few).imp_right (List.mem_cons_of_mem _)
    case known =>
      intro other found
      apply inv.known other
      by_cases same : other = now
      · simp [same]
      · simpa [same] using found
    case among => omega
    case all => exact all.imp_left fun whole => by omega
    case succeeds =>
      intro member
      exact inv.succeeds (by simpa using member)
  · rw [if_neg enough]
    constructor <;> simp only [counts, stored, Protocol.resume]
    case opened => exact inv.opened
    case stores =>
      intro reached
      simpa using inv.stores (wrapped_reached threshold _ reached enough)
    case clears => exact fewer
    case known =>
      intro other found
      apply inv.known other
      exact found.imp_right (Or.imp (List.mem_cons_of_mem _) (List.mem_cons_of_mem _))
    case among => omega
    case all => exact all.imp_left fun whole => by omega
    case succeeds => exact fun member => inv.succeeds (List.mem_cons_of_mem _ member)

theorem race_inv_advanced (pool : Protocol.Pool CircuitBreaker BreakerCall) (call : BreakerCall) (heard : Unit)
    (perm : pool.calls.Perm (call :: rest)) (inOrder : StoresInOrder past pool call)
    (inv : RaceInv threshold wanted past pool) :
    RaceInv threshold wanted (past ++ [breakerProtocol.taken call heard pool.shared])
      ⟨(breakerProtocol.taken call heard pool.shared).after,
        Protocol.resume (breakerProtocol.taken call heard pool.shared).left rest⟩ := by
  have focused := race_inv_perm threshold wanted past pool.shared pool.calls (call :: rest) perm inv
  cases call with
  | succeeding => exact race_inv_succeeding threshold wanted past pool.shared rest focused
  | clearing =>
      apply race_inv_clearing threshold wanted past pool.shared rest focused
      simpa [StoresInOrder, inv.limit, perm.mem_iff] using inOrder
  | failing now => exact race_inv_failing threshold wanted past pool.shared rest now focused
  | opening now =>
      apply race_inv_opening threshold wanted past pool.shared rest now focused
      simpa [StoresInOrder, inv.limit, perm.mem_iff] using inOrder

theorem race_inv_run (cooldown : UInt64) (turns : List BreakerTurn)
    (inOrder : breakerProtocol.StepsAllowed StoresInOrder ⟨.new threshold cooldown, []⟩ turns) :
    RaceInv threshold (Protocol.requests turns) (breakerProtocol.steps ⟨.new threshold cooldown, []⟩ turns)
      (breakerProtocol.machine.run ⟨.new threshold cooldown, []⟩ turns) := by
  apply breakerProtocol.requests_history ⟨.new threshold cooldown, []⟩ StoresInOrder (RaceInv threshold)
  · exact race_inv_new threshold cooldown
  · exact race_inv_entered threshold
  · intro wanted past pool call heard rest perm allowed inv
    exact race_inv_advanced threshold wanted past rest pool call heard perm allowed inv
  · exact inOrder

end Race

section Serialized

def SameAtomics (one other : CircuitBreaker) : Prop :=
  one.failureCount = other.failureCount ∧ (one.openedAt = 0 ↔ other.openedAt = 0)

def Serialized (threshold : UInt32) (cooldown : UInt64) (requests : List BreakerRequest) (breaker : CircuitBreaker) : Prop :=
  ∃ order : List BreakerRequest, order.Perm requests ∧
    SameAtomics (breakerMachine.run (.new threshold cooldown) (order.map BreakerRequest.op)) breaker

-- Once all calls have returned they could have come one after the other, and enough failures
-- have been recorded where the circuit has been opened.
def RaceFree (threshold : UInt32) (cooldown : UInt64) (turns : List BreakerTurn) : Prop :=
  (breakerProtocol.machine.run ⟨.new threshold cooldown, []⟩ turns).calls = [] →
    Serialized threshold cooldown (Protocol.requests turns)
        (breakerProtocol.machine.run ⟨.new threshold cooldown, []⟩ turns).shared ∧
      ((breakerProtocol.machine.run ⟨.new threshold cooldown, []⟩ turns).shared.openedAt ≠ 0 →
        threshold.toNat ≤ failuresCounted (breakerProtocol.steps ⟨.new threshold cooldown, []⟩ turns))

theorem race_free_in_order (threshold : UInt32) (cooldown : UInt64) (turns : List BreakerTurn)
    (inOrder : breakerProtocol.StepsAllowed StoresInOrder ⟨.new threshold cooldown, []⟩ turns) :
    RaceFree threshold cooldown turns := by
  have inv := race_inv_run threshold cooldown turns inOrder
  intro returned
  have stores : Reached threshold (failuresCounted (breakerProtocol.steps ⟨.new threshold cooldown, []⟩ turns)) ↔
      (readingStored (breakerProtocol.steps ⟨.new threshold cooldown, []⟩ turns)).isSome = true := by
    constructor
    · intro reached
      simpa [returned] using inv.stores reached
    · intro opened
      by_contra fewer
      have none : readingStored (breakerProtocol.steps ⟨.new threshold cooldown, []⟩ turns) = none := by
        simpa [returned] using inv.clears fewer
      rw [none] at opened
      cases opened
  constructor
  · have among := inv.among
    have all := inv.all
    rw [returned] at among all
    obtain ⟨order, perm, counted, opened⟩ := serial_order threshold cooldown (Protocol.requests turns) _ _ among all
      (fun now found => inv.known now (Or.inl found)) stores
    refine ⟨order, perm, counted.trans inv.count.symm, ?_⟩
    rw [opened, inv.opened]
  · intro opened
    apply And.left
    apply stores.mpr
    apply Option.isSome_iff_ne_none.mpr
    intro none
    apply opened
    rw [inv.opened, none, Option.getD_none]

-- A success runs between the two steps of the failure that opens the circuit, and clears it last.
def overtakenInOrder : List BreakerTurn :=
  [.starts (.failure 100), .advances 0 (), .starts .success, .advances 0 (), .advances 1 (), .advances 0 ()]

theorem race_free_overtaken_in_order : RaceFree 1 30 overtakenInOrder := by
  apply race_free_in_order
  apply breakerProtocol.steps_allowed_at
  intro position index heard call turn found
  match position with
  | 0 => cases turn
  | 1 =>
      cases turn
      cases found
      trivial
  | 2 => cases turn
  | 3 =>
      cases turn
      cases found
      trivial
  | 4 =>
      cases turn
      cases found
      exact Or.inr List.mem_cons_self
  | 5 =>
      cases turn
      cases found
      exact Or.inl fun reached => absurd reached.2 (Nat.lt_irrefl 0)
  | position + 6 => cases turn

def overtaken : List BreakerTurn :=
  [.starts (.failure 100), .advances 0 (), .starts .success, .advances 0 (), .advances 0 (), .advances 0 ()]

theorem overtaken_leaves : breakerProtocol.machine.run ⟨.new 1 30, []⟩ overtaken = ⟨⟨1, 30, 0, 100⟩, []⟩ := rfl

theorem overtaken_not_serialized : ¬ RaceFree 1 30 overtaken ∧
    ¬ Serialized 1 30 (Protocol.requests overtaken) (breakerProtocol.machine.run ⟨.new 1 30, []⟩ overtaken).shared := by
  have neither : ¬ Serialized 1 30 (Protocol.requests overtaken)
      (breakerProtocol.machine.run ⟨.new 1 30, []⟩ overtaken).shared := by
    rw [overtaken_leaves]
    intro ⟨order, perm, counted, opened⟩
    have length := perm.length_eq
    have failed : .failure 100 ∈ order := perm.mem_iff.mpr List.mem_cons_self
    have succeeded : .success ∈ order := perm.mem_iff.mpr (List.mem_cons_of_mem _ List.mem_cons_self)
    match order with
    | [.success, .success] => simp at failed
    | [.failure _, .failure _] => simp at succeeded
    | [.success, .failure _] => cases counted
    | [.failure _, .success] => exact absurd (opened.mp rfl) (by decide)
  refine ⟨fun free => ?_, neither⟩
  exact neither (free (by rw [overtaken_leaves])).1

end Serialized

end Moxui.Proxmox
