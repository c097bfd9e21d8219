import Mathlib.Data.UInt
import Moxui.Lib.Machine
import Moxui.Proxmox.CircuitBreaker

set_option autoImplicit false

namespace Moxui.Proxmox

inductive BreakerOp where
  | allowRequest (now : UInt64)
  | recordSuccess
  | recordFailure (now : UInt64)
deriving DecidableEq, Repr

def breakerStep (breaker : CircuitBreaker) : BreakerOp → CircuitBreaker × Option Bool
  | .allowRequest now => (breaker, some (breaker.allowRequest now))
  | .recordSuccess => (breaker.recordSuccess, none)
  | .recordFailure now => (breaker.recordFailure now, none)

def breakerMachine : Machine CircuitBreaker BreakerOp (Option Bool) := ⟨breakerStep⟩

section Trace

def countFailure (failures : List UInt64) : BreakerOp → List UInt64
  | .allowRequest _ => failures
  | .recordSuccess => []
  | .recordFailure now => now :: failures

def failuresSince (ops : List BreakerOp) : List UInt64 :=
  ops.foldl countFailure []

def BreakerOp.reading : BreakerOp → Option UInt64
  | allowRequest now => some now
  | recordSuccess => none
  | recordFailure now => some now

-- The clock does not go back, and is past the epoch.
structure SteadyClock (ops : List BreakerOp) (now : UInt64) : Prop where
  ordered : (ops.filterMap BreakerOp.reading ++ [now]).Pairwise (· ≤ ·)
  nonzero : ∀ reading ∈ ops.filterMap BreakerOp.reading, reading ≠ 0

theorem failures_since_snoc (ops : List BreakerOp) (op : BreakerOp) :
    failuresSince (ops ++ [op]) = countFailure (failuresSince ops) op := by
  simp only [failuresSince, List.foldl_append, List.foldl_cons, List.foldl_nil]

theorem failures_since_read (ops : List BreakerOp) (failed : UInt64) (member : failed ∈ failuresSince ops) :
    failed ∈ ops.filterMap BreakerOp.reading := by
  induction ops using List.reverseRecOn with
  | nil => cases member
  | append_singleton ops op ih =>
      rw [failures_since_snoc] at member
      rw [List.filterMap_append]
      cases op with
      | allowRequest now => exact List.mem_append_left _ (ih member)
      | recordSuccess => cases member
      | recordFailure now =>
          rcases List.mem_cons.mp member with last | earlier
          · rw [last]
            exact List.mem_append_right _ (List.mem_singleton_self now)
          · exact List.mem_append_left _ (ih earlier)

-- What the two atomics say about the failures: their number, and the reading of the last one
-- from the threshold on.
structure Tracks (threshold : UInt32) (cooldown : UInt64) (failures : List UInt64) (breaker : CircuitBreaker) : Prop where
  limit : breaker.failureThreshold = threshold
  pause : breaker.cooldown = cooldown
  count : breaker.failureCount = UInt32.ofNat failures.length
  opened : breaker.openedAt =
    if failures ≠ [] ∧ threshold.toNat ≤ failures.length then failures.headD 0 else 0

theorem tracks_new (threshold : UInt32) (cooldown : UInt64) : Tracks threshold cooldown [] (.new threshold cooldown) :=
  ⟨rfl, rfl, rfl, by simp [CircuitBreaker.new]⟩

theorem count_next (count : Nat) (few : count + 1 < UInt32.size) :
    (UInt32.ofNat count + 1).toNat = count + 1 := by
  have small : count < UInt32.size := Nat.lt_of_succ_lt few
  rw [UInt32.toNat_add, UInt32.toNat_ofNat_of_lt' small]
  exact Nat.mod_eq_of_lt few

theorem tracks_failure (threshold : UInt32) (cooldown : UInt64) (failures : List UInt64) (breaker : CircuitBreaker)
    (now : UInt64) (few : failures.length + 1 < UInt32.size) (tracks : Tracks threshold cooldown failures breaker) :
    Tracks threshold cooldown (now :: failures) (breaker.recordFailure now) := by
  have next := count_next failures.length few
  have reached : breaker.failureCount + 1 ≥ breaker.failureThreshold ↔ threshold.toNat ≤ failures.length + 1 := by
    rw [tracks.count, tracks.limit, ge_iff_le, UInt32.le_iff_toNat_le, next]
  refine ⟨tracks.limit, tracks.pause, ?_, ?_⟩
  · apply UInt32.toNat_inj.mp
    rw [CircuitBreaker.recordFailure, tracks.count, next]
    exact (UInt32.toNat_ofNat_of_lt' few).symm
  · simp only [CircuitBreaker.recordFailure, List.length_cons, List.headD_cons, ne_eq, reduceCtorEq, not_false_eq_true,
      true_and]
    by_cases enough : threshold.toNat ≤ failures.length + 1
    · rw [if_pos (reached.mpr enough), if_pos enough]
    · have fewer : ¬ (failures ≠ [] ∧ threshold.toNat ≤ failures.length) := by omega
      rw [if_neg (mt reached.mp enough), if_neg enough, tracks.opened, if_neg fewer]

theorem run_settings (threshold : UInt32) (cooldown : UInt64) (ops : List BreakerOp) :
    (breakerMachine.run (.new threshold cooldown) ops).failureThreshold = threshold ∧
      (breakerMachine.run (.new threshold cooldown) ops).cooldown = cooldown := by
  apply breakerMachine.invariant (.new threshold cooldown) (fun breaker =>
    breaker.failureThreshold = threshold ∧ breaker.cooldown = cooldown) ⟨rfl, rfl⟩
  intro breaker op settings
  cases op with
  | allowRequest now => exact settings
  | recordSuccess => exact settings
  | recordFailure now => exact settings

theorem run_tracks (threshold : UInt32) (cooldown : UInt64) (ops : List BreakerOp)
    (few : (failuresSince ops).length < UInt32.size) :
    Tracks threshold cooldown (failuresSince ops) (breakerMachine.run (.new threshold cooldown) ops) := by
  induction ops using List.reverseRecOn with
  | nil => exact tracks_new threshold cooldown
  | append_singleton ops op ih =>
      rw [failures_since_snoc] at few ⊢
      rw [Machine.run_snoc]
      cases op with
      | allowRequest now => exact ih few
      | recordSuccess =>
          have settings := run_settings threshold cooldown ops
          exact ⟨settings.1, settings.2, rfl, by simp [breakerMachine, breakerStep, CircuitBreaker.recordSuccess, countFailure]⟩
      | recordFailure now =>
          exact tracks_failure threshold cooldown _ _ now few (ih (Nat.lt_of_succ_lt few))

theorem refused_iff (breaker : CircuitBreaker) (now : UInt64) :
    breaker.allowRequest now = false ↔ breaker.openedAt ≠ 0 ∧ now - breaker.openedAt < breaker.cooldown := by
  rw [← CircuitBreaker.state_opened_iff, ← Bool.not_eq_true, CircuitBreaker.allow_request_iff, ne_eq, not_not]

theorem soon_iff (now failed cooldown : UInt64) (later : failed ≤ now) :
    now - failed < cooldown ↔ now.toNat < failed.toNat + cooldown.toNat := by
  have laterNat : failed.toNat ≤ now.toNat := UInt64.le_iff_toNat_le.mp later
  rw [UInt64.lt_iff_toNat_lt, UInt64.toNat_sub_of_le now failed later]
  omega

theorem last_failure_clock (ops : List BreakerOp) (now last : UInt64) (failures : List UInt64)
    (steady : SteadyClock ops now) (recorded : failuresSince ops = last :: failures) : last ≠ 0 ∧ last ≤ now := by
  have read := failures_since_read ops last (by rw [recorded]; exact List.mem_cons_self)
  refine ⟨steady.nonzero last read, ?_⟩
  exact (List.pairwise_append.mp steady.ordered).2.2 last read now (List.mem_singleton_self now)

theorem allow_request_trace_iff (threshold : UInt32) (cooldown : UInt64) (ops : List BreakerOp) (now : UInt64)
    (steady : SteadyClock ops now) (few : (failuresSince ops).length < UInt32.size) :
    (breakerMachine.run (.new threshold cooldown) ops).allowRequest now = false ↔
      threshold.toNat ≤ (failuresSince ops).length ∧
        ∃ last, (failuresSince ops).head? = some last ∧ now.toNat < last.toNat + cooldown.toNat := by
  have tracks := run_tracks threshold cooldown ops few
  rw [refused_iff, tracks.opened, tracks.pause]
  cases recorded : failuresSince ops with
  | nil => simp
  | cons last failures =>
      obtain ⟨nonzero, before⟩ := last_failure_clock ops now last failures steady recorded
      simp only [ne_eq, reduceCtorEq, not_false_eq_true, true_and, List.headD_cons, List.head?_cons, Option.some.injEq,
        exists_eq_left']
      by_cases reached : threshold.toNat ≤ (last :: failures).length
      · rw [if_pos reached, soon_iff now last cooldown before]
        exact and_congr_left fun _ => iff_of_true nonzero reached
      · rw [if_neg reached]
        exact iff_of_false (fun both => both.1 rfl) (fun both => reached both.1)

end Trace

def threeFailures : List BreakerOp :=
  [.recordFailure 100, .recordFailure 101, .recordSuccess, .recordFailure 110, .recordFailure 111, .recordFailure 141]

theorem allow_request_trace_reopened :
    (breakerMachine.run (.new 2 30) threeFailures).allowRequest 170 = false ↔
      (2 : UInt32).toNat ≤ (failuresSince threeFailures).length ∧
        ∃ last, (failuresSince threeFailures).head? = some last ∧
          (170 : UInt64).toNat < last.toNat + (30 : UInt64).toNat :=
  allow_request_trace_iff 2 30 threeFailures 170 ⟨by decide, by simp [threeFailures, BreakerOp.reading, or_imp, forall_and]⟩
    (by decide)

section Arithmetic

-- No subtraction or addition of the operation leaves its type: the seconds since the opening,
-- the count and its successor.
def Fits (breaker : CircuitBreaker) : BreakerOp → Prop
  | .allowRequest now => breaker.openedAt ≠ 0 → breaker.openedAt.toNat ≤ now.toNat
  | .recordSuccess => True
  | .recordFailure _ => breaker.failureCount.toNat + 1 < UInt32.size

def Reopens (before after : CircuitBreaker) : BreakerOp → Prop
  | .recordFailure failed => before.state failed = .halfOpen →
      ∀ now : UInt64, failed.toNat ≤ now.toNat → now.toNat < failed.toNat + before.cooldown.toNat → after.state now = .opened
  | _ => True

structure SoundEvent (event : Machine.Event CircuitBreaker BreakerOp (Option Bool)) : Prop where
  fits : Fits event.before event.input
  reopens : Reopens event.before event.after event.input

-- The clock is not read before the time at which the breaker was last opened; fewer than 2^32
-- failures come in a row; and none of them is recorded half-open in the second of the epoch.
def ClockAllows (breaker : CircuitBreaker) : BreakerOp → Prop
  | .allowRequest now => breaker.openedAt ≤ now
  | .recordSuccess => True
  | .recordFailure failed => breaker.failureCount ≠ 4294967295 ∧
      ¬ (failed = 0 ∧ breaker.state 0 = .halfOpen ∧ breaker.cooldown ≠ 0)

def OpenedByFailures (breaker : CircuitBreaker) : Prop :=
  breaker.openedAt ≠ 0 → breaker.failureThreshold.toNat ≤ breaker.failureCount.toNat

theorem count_fits (count : UInt32) : count.toNat + 1 < UInt32.size ↔ count ≠ 4294967295 := by
  have bound := count.toNat_lt
  rw [ne_eq, ← UInt32.toNat_inj]
  simp only [UInt32.size, UInt32.reduceToNat]
  omega

theorem successor_fits (count : UInt32) (fits : count.toNat + 1 < UInt32.size) : (count + 1).toNat = count.toNat + 1 := by
  rw [UInt32.toNat_add]
  exact Nat.mod_eq_of_lt fits

theorem half_open_opened (breaker : CircuitBreaker) (now : UInt64) (half : breaker.state now = .halfOpen) :
    breaker.openedAt ≠ 0 := by
  intro never
  rw [CircuitBreaker.state, if_pos never] at half
  cases half

theorem record_half_open (breaker : CircuitBreaker) (failed : UInt64) (opened : OpenedByFailures breaker)
    (fits : breaker.failureCount.toNat + 1 < UInt32.size) (half : breaker.state failed = .halfOpen) :
    (breaker.recordFailure failed).openedAt = failed := by
  have enough := opened (half_open_opened breaker failed half)
  have reached : breaker.failureCount + 1 ≥ breaker.failureThreshold := by
    rw [ge_iff_le, UInt32.le_iff_toNat_le, successor_fits breaker.failureCount fits]
    omega
  simp only [CircuitBreaker.recordFailure, if_pos reached]

theorem reopens_iff (breaker : CircuitBreaker) (failed : UInt64) (opened : OpenedByFailures breaker)
    (fits : breaker.failureCount.toNat + 1 < UInt32.size) :
    Reopens breaker (breaker.recordFailure failed) (.recordFailure failed) ↔
      ¬ (failed = 0 ∧ breaker.state 0 = .halfOpen ∧ breaker.cooldown ≠ 0) := by
  have pause : (breaker.recordFailure failed).cooldown = breaker.cooldown := rfl
  constructor
  · intro reopens both
    obtain ⟨rfl, half, nonzero⟩ := both
    have long : 0 < breaker.cooldown.toNat := by
      have different := mt UInt64.toNat_inj.mp nonzero
      rw [UInt64.toNat_zero] at different
      omega
    have stays := (CircuitBreaker.state_opened_iff _ _).mp (reopens half 0 (Nat.le_refl _) (by rw [UInt64.toNat_zero]; omega))
    exact stays.1 (record_half_open breaker 0 opened fits half)
  · intro allowed half now later soon
    rw [CircuitBreaker.state_opened_iff, record_half_open breaker failed opened fits half, pause]
    have laterTime : failed ≤ now := UInt64.le_iff_toNat_le.mpr later
    refine ⟨?_, (soon_iff now failed breaker.cooldown laterTime).mpr soon⟩
    intro epoch
    subst epoch
    refine allowed ⟨rfl, half, ?_⟩
    intro none
    rw [none, UInt64.toNat_zero] at soon
    omega

theorem sound_event_iff (breaker : CircuitBreaker) (op : BreakerOp) (opened : OpenedByFailures breaker) :
    SoundEvent (Machine.event breakerMachine breaker op) ↔ ClockAllows breaker op := by
  cases op with
  | allowRequest now =>
      have never : breaker.openedAt = 0 → breaker.openedAt.toNat ≤ now.toNat := by
        intro never
        rw [never, UInt64.toNat_zero]
        exact Nat.zero_le _
      constructor
      · intro sound
        apply UInt64.le_iff_toNat_le.mpr
        by_cases none : breaker.openedAt = 0
        · exact never none
        · exact sound.fits none
      · intro allowed
        exact ⟨fun _ => UInt64.le_iff_toNat_le.mp allowed, trivial⟩
  | recordSuccess => exact iff_of_true ⟨trivial, trivial⟩ trivial
  | recordFailure failed =>
      constructor
      · intro sound
        exact ⟨(count_fits _).mp sound.fits, (reopens_iff breaker failed opened sound.fits).mp sound.reopens⟩
      · intro allowed
        have fits := (count_fits _).mpr allowed.1
        exact ⟨fits, (reopens_iff breaker failed opened fits).mpr allowed.2⟩

theorem opened_by_failures_kept (breaker : CircuitBreaker) (op : BreakerOp) (opened : OpenedByFailures breaker)
    (allowed : ClockAllows breaker op) : OpenedByFailures (breakerMachine.step breaker op).1 := by
  cases op with
  | allowRequest now => exact opened
  | recordSuccess => exact fun nonzero => absurd rfl nonzero
  | recordFailure failed =>
      have next := successor_fits breaker.failureCount ((count_fits _).mpr allowed.1)
      intro nonzero
      simp only [breakerMachine, breakerStep, CircuitBreaker.recordFailure] at nonzero ⊢
      rw [next]
      by_cases reached : breaker.failureCount + 1 ≥ breaker.failureThreshold
      · rw [ge_iff_le, UInt32.le_iff_toNat_le, next] at reached
        exact reached
      · rw [if_neg reached] at nonzero
        exact Nat.le_succ_of_le (opened nonzero)

theorem breaker_arithmetic_iff (threshold : UInt32) (cooldown : UInt64) (ops : List BreakerOp) :
    (∀ event ∈ breakerMachine.trace (.new threshold cooldown) ops, SoundEvent event) ↔
      ∀ event ∈ breakerMachine.trace (.new threshold cooldown) ops, ClockAllows event.before event.input :=
  breakerMachine.events_iff OpenedByFailures SoundEvent ClockAllows sound_event_iff opened_by_failures_kept
    (.new threshold cooldown) (fun nonzero => absurd rfl nonzero) ops

end Arithmetic

-- The clock is set back by a second after the failure that opens the breaker.
theorem clock_set_back :
    ¬ ∀ event ∈ breakerMachine.trace (.new 1 30) [.recordFailure 1000, .allowRequest 999], SoundEvent event := by
  intro sound
  have event : Machine.event breakerMachine (.recordFailure 1000 (.new 1 30)) (.allowRequest 999) ∈
      breakerMachine.trace (.new 1 30) [.recordFailure 1000, .allowRequest 999] :=
    List.mem_cons_of_mem _ List.mem_cons_self
  have inTime : (1000 : UInt64).toNat ≤ (999 : UInt64).toNat := (sound _ event).fits (by decide)
  exact absurd inTime (by decide)

end Moxui.Proxmox
