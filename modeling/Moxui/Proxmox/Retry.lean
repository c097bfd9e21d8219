import Moxui.Lib.Retry

set_option autoImplicit false

namespace Moxui.Proxmox

open Retry (Event alternating calls)

-- A duration in nanoseconds.
abbrev Duration := Nat

-- The multiplier is what `backoff * multiplier` makes of a duration.
structure RetryPolicy where
  maxAttempts : UInt32
  initialBackoff : Duration
  maxBackoff : Duration
  multiplier : Duration → Duration

def RetryPolicy.default : RetryPolicy :=
  { maxAttempts := 3, initialBackoff := 100 * 1000000, maxBackoff := 10 * 1000000000, multiplier := (2 * ·) }

-- How an execution stands: it has returned, panicked at `expect`, or waits for its last call.
inductive Ending (ε τ : Type) where
  | returned (result : Except ε τ)
  | panicked (message : String)
  | waiting
deriving DecidableEq, Repr

structure Execution (ε τ : Type) where
  events : List (Event Duration)
  ending : Ending ε τ
deriving DecidableEq, Repr

namespace Execution

variable {ε τ : Type}

def after (events : List (Event Duration)) (run : Execution ε τ) : Execution ε τ :=
  { run with events := events ++ run.events }

def calls (run : Execution ε τ) : Nat := (run.events.filterMap Event.attempt?).length

end Execution

namespace RetryPolicy

variable {ε τ : Type} (policy : RetryPolicy) (f : Nat → Option (Except ε τ))

-- The loop with `remaining` attempts left. A call that `f` has no outcome for is never answered.
def retryFrom : Nat → Nat → Duration → Option ε → Execution ε τ
  | 0, _, _, lastErr =>
      match lastErr with
      | some error => ⟨[], .returned (.error error)⟩
      | none => ⟨[], .panicked "at least one attempt"⟩
  | remaining + 1, attempt, backoff, _ =>
      match f attempt with
      | none => ⟨[.called attempt], .waiting⟩
      | some (.ok value) => ⟨[.called attempt], .returned (.ok value)⟩
      | some (.error error) =>
          if attempt + 1 < policy.maxAttempts.toNat then
            (retryFrom remaining (attempt + 1) (min (policy.multiplier backoff) policy.maxBackoff)
              (some error)).after [.called attempt, .slept backoff]
          else (retryFrom remaining (attempt + 1) backoff (some error)).after [.called attempt]

def execute : Execution ε τ :=
  retryFrom policy f policy.maxAttempts.toNat 0 policy.initialBackoff none

def backoffAfter : Nat → Duration
  | 0 => policy.initialBackoff
  | failures + 1 => min (policy.multiplier (backoffAfter failures)) policy.maxBackoff

theorem backoff_bounded (ordered : policy.initialBackoff ≤ policy.maxBackoff) (failures : Nat) :
    policy.backoffAfter failures ≤ policy.maxBackoff := by
  cases failures with
  | zero => exact ordered
  | succ failures => exact Nat.min_le_right _ _

def settled (attempt : Nat) : Bool :=
  match f attempt with
  | some (.error _) => false
  | _ => true

theorem settled_of_error {attempt : Nat} {error : ε} (failed : f attempt = some (.error error)) :
    settled f attempt = false := by
  rw [settled, failed]

theorem settled_of_ok {attempt : Nat} {value : τ} (succeeded : f attempt = some (.ok value)) :
    settled f attempt = true := by
  rw [settled, succeeded]

theorem settled_of_none {attempt : Nat} (unanswered : f attempt = none) : settled f attempt = true := by
  rw [settled, unanswered]

def endingOf : Option (Except ε τ) → Ending ε τ
  | none => .waiting
  | some result => .returned result

-- The delay before a retry is the backoff after as many failures as it has calls before it, but one.
def delayBefore (retry : Nat) : Duration := policy.backoffAfter (retry - 1)

theorem retry_from_runs (remaining attempt : Nat) (lastErr : Option ε) (some : 0 < remaining)
    (all : attempt + remaining = policy.maxAttempts.toNat) :
    retryFrom policy f remaining attempt (policy.backoffAfter attempt) lastErr =
      ⟨alternating policy.delayBefore (calls (settled f) remaining attempt) attempt,
        endingOf (f (attempt + calls (settled f) remaining attempt - 1))⟩ := by
  induction remaining generalizing attempt lastErr with
  | zero => omega
  | succ remaining ih =>
      rw [retryFrom]
      cases outcome : f attempt with
      | none =>
          rw [Retry.calls_settled _ remaining attempt (settled_of_none f outcome), Nat.add_sub_cancel, outcome]
          rfl
      | some result =>
          cases result with
          | ok value =>
              rw [Retry.calls_settled _ remaining attempt (settled_of_ok f outcome), Nat.add_sub_cancel, outcome]
              rfl
          | error error =>
              rw [Retry.calls_unsettled _ remaining attempt (settled_of_error f outcome)]
              by_cases more : attempt + 1 < policy.maxAttempts.toNat
              · have made := Retry.calls_pos (settled f) remaining (attempt + 1) (by omega)
                have last : attempt + (calls (settled f) remaining (attempt + 1) + 1) - 1 =
                    attempt + 1 + calls (settled f) remaining (attempt + 1) - 1 := by omega
                have rest := ih (attempt + 1) (Option.some error) (by omega) (by omega)
                simp only [if_pos more]
                rw [Retry.alternating_succ _ _ _ made, last]
                rw [backoffAfter] at rest
                rw [rest]
                rfl
              · have empty : remaining = 0 := by omega
                subst empty
                simp only [if_neg more]
                rw [Retry.calls, Nat.zero_add, Nat.add_sub_cancel, outcome]
                rfl

end RetryPolicy

-- What an execution of the policy does with the outcomes of `f`: as many calls as it takes to
-- the first success, the bound allowing it, one sleep between each call and the next, and the result of the last call.
structure Executed {ε τ : Type} (policy : RetryPolicy) (f : Nat → Option (Except ε τ))
    (run : Execution ε τ) : Prop where
  called_to_ok : ∀ before value, f before = some (.ok value) →
    (∀ earlier < before, ∃ error, f earlier = some (.error error)) →
      run.calls = min (before + 1) policy.maxAttempts.toNat
  called_to_bound : (∀ attempt < policy.maxAttempts.toNat, ∃ error, f attempt = some (.error error)) →
    run.calls = policy.maxAttempts.toNat
  called_to_unanswered : ∀ before, f before = none →
    (∀ earlier < before, ∃ error, f earlier = some (.error error)) →
      run.calls = min (before + 1) policy.maxAttempts.toNat
  slept_between : ∃ delay, run.events = alternating delay run.calls 0
  slept_bounded : ∀ slept, Event.slept slept ∈ run.events → slept ≤ policy.maxBackoff
  result_of_last : run.ending = RetryPolicy.endingOf (f (run.calls - 1))
  not_panicked : ∀ message, run.ending ≠ .panicked message

namespace RetryPolicy

variable {ε τ : Type} (policy : RetryPolicy) (f : Nat → Option (Except ε τ))

theorem execute_runs (attempts : 1 ≤ policy.maxAttempts) :
    execute policy f =
      ⟨alternating policy.delayBefore (calls (settled f) policy.maxAttempts.toNat 0) 0,
        endingOf (f (calls (settled f) policy.maxAttempts.toNat 0 - 1))⟩ := by
  have some : 0 < policy.maxAttempts.toNat := UInt32.le_iff_toNat_le.mp attempts
  have runs := retry_from_runs policy f policy.maxAttempts.toNat 0 none some (Nat.zero_add _)
  rw [Nat.zero_add] at runs
  exact runs

theorem execute_calls (attempts : 1 ≤ policy.maxAttempts) :
    (execute policy f).calls = calls (settled f) policy.maxAttempts.toNat 0 := by
  rw [execute_runs policy f attempts, Execution.calls, Retry.alternating_called, List.length_range']

theorem ending_not_panicked (outcome : Option (Except ε τ)) (message : String) :
    endingOf outcome ≠ .panicked message := by
  intro same
  cases outcome with
  | none => cases same
  | some result => cases same

theorem unsettled_before {before : Nat} (failed : ∀ earlier < before, ∃ error, f earlier = some (.error error))
    (earlier : Nat) (under : earlier < before) : settled f (0 + earlier) = false := by
  obtain ⟨error, outcome⟩ := failed earlier under
  rw [Nat.zero_add]
  exact settled_of_error f outcome

theorem executed (attempts : 1 ≤ policy.maxAttempts) (ordered : policy.initialBackoff ≤ policy.maxBackoff) :
    Executed policy f (execute policy f) := by
  have made := execute_calls policy f attempts
  have runs := execute_runs policy f attempts
  refine ⟨?_, ?_, ?_, ?_, ?_, ?_, ?_⟩
  · intro before value succeeded failed
    rw [made]
    apply Retry.calls_first (settled f) _ 0 before
    · rw [Nat.zero_add]
      exact settled_of_ok f succeeded
    · exact unsettled_before f failed
  · intro failed
    rw [made]
    exact Retry.calls_none (settled f) _ 0 (unsettled_before f failed)
  · intro before unanswered failed
    rw [made]
    apply Retry.calls_first (settled f) _ 0 before
    · rw [Nat.zero_add]
      exact settled_of_none f unanswered
    · exact unsettled_before f failed
  · refine ⟨policy.delayBefore, ?_⟩
    rw [made, runs]
  · intro slept member
    rw [runs] at member
    obtain ⟨retry, _after, _within, same⟩ := Retry.alternating_slept _ _ _ slept member
    rw [same]
    exact policy.backoff_bounded ordered (retry - 1)
  · rw [made, runs]
  · intro message
    rw [runs]
    exact ending_not_panicked _ message

def secondSucceeds (attempt : Nat) : Option (Except String Nat) :=
  if attempt = 0 then some (.error "fail") else some (.ok attempt)

theorem executed_default : Executed default secondSucceeds (execute default secondSucceeds) :=
  executed default secondSucceeds (by decide) (by decide)

example : execute default secondSucceeds = ⟨[.called 0, .slept 100000000, .called 1], .returned (.ok 1)⟩ := by decide

end RetryPolicy

end Moxui.Proxmox
